import CubridDriver.DsnGrammar

/-!
# Data source names are read back

`CubridDriver.DataSource` is a database and a way to connect to it, with everything that it
takes to write it down: the user and the password come with a percent-encoding, the host
has no delimiters, or stands in brackets, and all but the host and the database may be left
out. `CubridDriver.DataSource.parse_text` says that what is written is parsed, and that the
result has exactly the seven fields that were written, the defaults standing in for those
that were not.

What is written has the parts that the parser looks for (`CubridDriver.DataSource.parts`),
and an address among them (`CubridDriver.DataSource.address`). It has them only because the
delimiters are kept out of the texts: an at sign in the password would move the cut behind
the user info, a colon in it the cut within the user info.
-/

namespace CubridDriver

open List PercentEncoding Utf8

/-! ### The parts -/

/-- A user or a password, and how it is written. -/
structure Credential where
  /-- The user, or the password. -/
  text : String
  ascii : ∀ b ∈ encode text, isHigh b = false
  /-- The text in percent-encoding. -/
  written : String
  escapes : Escapes Unreserved (encode text) (encode written)

/-- Every ASCII text can be written. -/
def Credential.ofText (text : String) (ascii : ∀ b ∈ encode text, isHigh b = false) :
    Credential where
  text := text
  ascii := ascii
  written := percentEncode text
  escapes := escapes_percentEncode text

/-- A host, and how it is written. -/
inductive Host
  /-- A name or an address without delimiters. -/
  | name (text : String) (nonempty : text.toList ≠ []) (unbracketed : text.toList.head? ≠ some '[')
      (plain : ∀ c ∈ ['/', ':', '@', '?'], c ∉ text.toList)
  /-- An address that is written in brackets. -/
  | ipv6 (text : String) (plain : ∀ c ∈ [']', '/', '@', '?'], c ∉ text.toList)

/-- The host itself. -/
def Host.text : Host → String
  | name text .. => text
  | ipv6 text _ => text

/-- The host as it is written. -/
def Host.written : Host → List Char
  | name text .. => text.toList
  | ipv6 text _ => '[' :: (text.toList ++ [']'])

/-- A database, and how to connect to it. -/
structure DataSource where
  /-- The user, and the password. -/
  userInfo : Option (Credential × Option Credential)
  /-- The host. -/
  host : Host
  /-- The port. -/
  port : Option UInt16
  /-- The database. -/
  database : String
  database_nonempty : database.toList ≠ []
  database_plain : ∀ c ∈ ['?', '@'], c ∉ database.toList
  /-- The auto-commit flag. -/
  autoCommit : Option Bool
  /-- The timeout, in seconds. -/
  timeout : Option UInt64

namespace DataSource

variable (source : DataSource)

/-- The user info, if there is any. -/
def userPart : Option (List Char) := source.userInfo.map fun x =>
  x.1.written.toList ++ x.2.elim [] fun password => ':' :: password.written.toList

/-- The host and the port. -/
def hostPort : List Char :=
  source.host.written ++ source.port.elim [] fun port => ':' :: Nat.toDigits 10 port.toNat

/-- The query parameters that are given. -/
def params : List (List Char) :=
  (source.autoCommit.toList.map fun flag =>
    "autocommit=".toList ++ if flag then "true".toList else "false".toList) ++
  source.timeout.toList.map fun seconds => "timeout=".toList ++ Nat.toDigits 10 seconds.toNat

/-- The query, if there is any. -/
def queryPart : Option (List Char) :=
  if source.params = [] then none else some (['&'].intercalate source.params)

/-- What stands in front of the query. -/
def mainPart : List Char :=
  source.userPart.elim [] (· ++ ['@']) ++ (source.hostPort ++ '/' :: source.database.toList)

/-- The data source name. -/
def text : String := String.ofList
  (Dsn.scheme ++ (source.mainPart ++ source.queryPart.elim [] ('?' :: ·)))

/-- What it is to be parsed to. -/
def dsn : Dsn where
  host := source.host.text
  port := source.port.getD 33000
  database := source.database
  user := source.userInfo.elim "" fun x => x.1.text
  password := source.userInfo.elim "" fun x => x.2.elim "" Credential.text
  autoCommit := source.autoCommit.getD true
  timeout := source.timeout.getD 30

end DataSource

/-! ### Where the delimiters are not -/

/-- No delimiter is written in a percent-encoding. -/
theorem Credential.not_mem_written (cred : Credential) :
    ∀ c ∈ ['/', ':', '@', '?'], c ∉ cred.written.toList := by
  have hdelim : ∀ c ∈ ['/', ':', '@', '?'], c.toNat < 128 ∧ ¬Unreserved (UInt8.ofNat c.toNat) ∧
      UInt8.ofNat c.toNat ≠ 0x25 ∧ hexValue (UInt8.ofNat c.toNat) = none :=
    all_iff_forall_prop.mp (by decide)
  intro c hc hmem
  obtain ⟨hascii, hplain, hpercent, hhex⟩ := hdelim c hc
  have hbyte : UInt8.ofNat c.toNat ∈ encode cred.written :=
    mem_flatMap.mpr ⟨c, hmem, by rw [utf8EncodeChar_ascii hascii]; exact mem_singleton.mpr rfl⟩
  rcases cred.escapes.mem_word hbyte with h | h | ⟨x, h⟩
  · exact hplain h
  · exact hpercent h
  · cases hhex.symm.trans h

/-- A credential is read back. -/
theorem Credential.percentDecode_written (cred : Credential) :
    percentDecode cred.written = cred.text :=
  (percentDecode_escapes_iff (by decide) cred.escapes).mpr cred.ascii

/-- A number is written in digits. -/
theorem not_mem_toDigits {n : ℕ} : ∀ c ∈ ['/', ':', '@', '?', '&'], c ∉ Nat.toDigits 10 n := by
  have hdelim : ∀ c ∈ ['/', ':', '@', '?', '&'], c.isDigit = false :=
    all_iff_forall_prop.mp (by decide)
  intro c hc hmem
  have hdigit := Nat.isDigit_of_mem_toDigits (by decide) (by decide) hmem
  cases (hdelim c hc).symm.trans hdigit

namespace DataSource

variable (source : DataSource)

theorem not_mem_hostPort : ∀ c ∈ ['/', '@', '?'], c ∉ source.hostPort := by
  have hsub : ∀ c ∈ ['/', '@', '?'], c ∈ ['/', ':', '@', '?'] ∧ c ∈ [']', '/', '@', '?'] ∧
      c ∈ ['/', ':', '@', '?', '&'] ∧ c ∉ [':', '[', ']'] :=
    all_iff_forall_prop.mp (by decide)
  intro c hc hmem
  obtain ⟨hname, haddress, hdigit, hmark⟩ := hsub c hc
  simp only [mem_cons, not_mem_nil, or_false, not_or] at hmark
  rcases mem_append.mp hmem with hmem | hmem
  · cases hhost : source.host with
    | name text _ _ hplain =>
      rw [hhost] at hmem
      exact hplain c hname hmem
    | ipv6 text hplain =>
      rw [hhost, Host.written, mem_cons, mem_append, mem_singleton] at hmem
      rcases hmem with rfl | hmem | rfl
      · exact hmark.2.1 rfl
      · exact hplain c haddress hmem
      · exact hmark.2.2 rfl
  · cases hport : source.port with
    | none =>
      rw [hport] at hmem
      cases hmem
    | some port =>
      rw [hport, Option.elim_some, mem_cons] at hmem
      rcases hmem with rfl | hmem
      · exact hmark.1 rfl
      · exact not_mem_toDigits c hdigit hmem

theorem not_mem_userPart {userInfo : List Char} (h : source.userPart = some userInfo) :
    '?' ∉ userInfo := by
  obtain ⟨⟨user, password⟩, -, rfl⟩ := Option.map_eq_some_iff.mp h
  intro hmem
  rcases mem_append.mp hmem with hmem | hmem
  · exact user.not_mem_written '?' (by decide) hmem
  · cases password with
    | none => cases hmem
    | some password =>
      rw [Option.elim_some, mem_cons] at hmem
      exact password.not_mem_written '?' (by decide) (hmem.resolve_left (by decide))

theorem not_mem_mainPart : '?' ∉ source.mainPart := by
  intro hmem
  rcases mem_append.mp hmem with hmem | hmem
  · cases hpart : source.userPart with
    | none =>
      rw [hpart] at hmem
      cases hmem
    | some userInfo =>
      rw [hpart, Option.elim_some, mem_append, mem_singleton] at hmem
      exact source.not_mem_userPart hpart (hmem.resolve_right (by decide))
  · rw [mem_append, mem_cons] at hmem
    rcases hmem with hmem | hmem | hmem
    · exact source.not_mem_hostPort '?' (by decide) hmem
    · exact absurd hmem (by decide)
    · exact source.database_plain '?' (by decide) hmem

/-! ### The grammar -/

/-- The parts of what is written. -/
def parts : Dsn.Parts where
  userPart := source.userPart
  hostPort := source.hostPort
  database := source.database.toList
  queryPart := source.queryPart
  slash_not_mem := source.not_mem_hostPort '/' (by decide)
  at_not_mem := by
    rw [mem_append, mem_cons, not_or, not_or]
    exact ⟨source.not_mem_hostPort '@' (by decide), by decide,
      source.database_plain '@' (by decide)⟩
  mark_not_mem := source.not_mem_mainPart

theorem hostText : Dsn.HostText source.host.written source.host.text := by
  cases source.host with
  | name text hne hopen hplain =>
    have hname := Dsn.HostText.name hne hopen (hplain ':' (by decide))
    rwa [String.ofList_toList] at hname
  | ipv6 text hplain =>
    have hbracketed := Dsn.HostText.bracketed (hplain ']' (by decide))
    rwa [String.ofList_toList] at hbracketed

/-- The host and the port are an address. -/
theorem address : Dsn.Address source.hostPort source.host.text (source.port.getD 33000) := by
  refine ⟨_, _, rfl, source.hostText, ?_⟩
  cases source.port with
  | none => exact .absent
  | some port => exact .decimal (ParseInt.isDecimal_toDigits port.toNat)

/-! ### What is read -/

omit source in
theorem parseNumber_toDigits {what : String} {max n : ℕ} (h : n ≤ max) :
    Dsn.parseNumber what max (Nat.toDigits 10 n) = .ok n := by
  rw [Dsn.parseNumber, ParseInt.fromStrRadix_toDigits h]

theorem parseUserInfo_userPart (dsn : Dsn) :
    source.userPart.elim dsn (fun userInfo => Dsn.parseUserInfo userInfo dsn) =
      { dsn with
        user := source.userInfo.elim dsn.user fun x => x.1.text
        password := source.userInfo.elim dsn.password fun x =>
          x.2.elim dsn.password Credential.text } := by
  rw [userPart]
  rcases source.userInfo with - | ⟨user, - | password⟩
  · rfl
  · have hcut : cutFirst ':' (user.written.toList ++ []) = none := by
      rw [append_nil]
      exact cutFirst_eq_none.mpr (user.not_mem_written ':' (by decide))
    rw [Option.map_some, Option.elim_some, Dsn.parseUserInfo, Option.elim_none, hcut]
    dsimp only
    rw [append_nil, String.ofList_toList, user.percentDecode_written]
    rfl
  · have hcut : cutFirst ':' (user.written.toList ++ ':' :: password.written.toList) =
        some (user.written.toList, password.written.toList) :=
      cutFirst_eq_some.mpr ⟨rfl, user.not_mem_written ':' (by decide)⟩
    rw [Option.map_some, Option.elim_some, Dsn.parseUserInfo, Option.elim_some, hcut]
    dsimp only
    rw [String.ofList_toList, String.ofList_toList, user.percentDecode_written,
      password.percentDecode_written]
    rfl

theorem parseParam_autoCommit (flag : Bool) (dsn : Dsn) :
    Dsn.parseParam dsn ("autocommit=".toList ++ if flag then "true".toList else "false".toList) =
      .ok { dsn with autoCommit := flag } := by
  cases flag <;> rfl

theorem parseParam_timeout (seconds : UInt64) (dsn : Dsn) :
    Dsn.parseParam dsn ("timeout=".toList ++ Nat.toDigits 10 seconds.toNat) =
      .ok { dsn with timeout := seconds } := by
  have hle : seconds.toNat ≤ 2 ^ 64 - 1 := Nat.le_of_lt_succ seconds.toNat_lt
  have hcut : cutFirst '=' ("timeout=".toList ++ Nat.toDigits 10 seconds.toNat) =
      some ("timeout".toList, Nat.toDigits 10 seconds.toNat) :=
    cutFirst_eq_some.mpr ⟨rfl, by decide⟩
  rw [Dsn.parseParam, hcut]
  dsimp only
  rw [if_neg (by decide), if_pos rfl, parseNumber_toDigits hle, Outcome.ok_bind,
    UInt64.ofNat_toNat]
  rfl

/-- The parameters are told apart. -/
theorem splitOn_intercalate_params (h : source.params ≠ []) :
    (['&'].intercalate source.params).splitOn '&' = source.params := by
  refine splitOn_intercalate '&' (fun param hparam => ?_) h
  rcases mem_append.mp hparam with hparam | hparam
  · obtain ⟨flag, -, rfl⟩ := mem_map.mp hparam
    cases flag <;> decide
  · obtain ⟨seconds, -, rfl⟩ := mem_map.mp hparam
    rw [mem_append, not_or]
    exact ⟨by decide, not_mem_toDigits '&' (by decide)⟩

theorem foldlM_params (dsn : Dsn) : source.params.foldlM Dsn.parseParam dsn =
    .ok { dsn with
      autoCommit := source.autoCommit.getD dsn.autoCommit
      timeout := source.timeout.getD dsn.timeout } := by
  have hflag (dsn : Dsn) : (source.autoCommit.toList.map fun flag =>
      "autocommit=".toList ++ if flag then "true".toList else "false".toList).foldlM
        Dsn.parseParam dsn =
      .ok { dsn with autoCommit := source.autoCommit.getD dsn.autoCommit } := by
    cases source.autoCommit with
    | none => rfl
    | some flag => exact (bind_pure _).trans (parseParam_autoCommit flag dsn)
  rw [params, foldlM_append, hflag, Outcome.ok_bind]
  cases source.timeout with
  | none => rfl
  | some seconds => exact (bind_pure _).trans (parseParam_timeout seconds _)

theorem parseQuery_queryPart (dsn : Dsn) :
    source.queryPart.elim (.ok dsn) (fun query => Dsn.parseQuery query dsn) =
      .ok { dsn with
        autoCommit := source.autoCommit.getD dsn.autoCommit
        timeout := source.timeout.getD dsn.timeout } := by
  rw [← foldlM_params, queryPart]
  split
  · rename_i hnil
    rw [hnil]
    rfl
  · rename_i hne
    rw [Option.elim_some, Dsn.parseQuery, source.splitOn_intercalate_params hne]

/-- **What is written is parsed**, to the fields that were written and to the defaults of
those that were not. -/
theorem parse_text : Dsn.parse source.text = .ok source.dsn := by
  have htext : source.text = source.parts.text := rfl
  have hdb : source.parts.database ≠ [] := source.database_nonempty
  have hstart : source.parts.start =
      { source.userPart.elim Dsn.default (Dsn.parseUserInfo · .default) with
        database := source.database } := by
    rw [Dsn.Parts.start, ← String.ofList_toList (s := source.database)]
    rfl
  have hread : Dsn.parseHostPort source.parts.hostPort source.parts.start =
      .ok { source.parts.start with
        host := source.host.text
        port := source.port.getD 33000 } :=
    source.address.parseHostPort source.parts.start_host.1 source.parts.start_host.2
  rw [htext, Dsn.parse_parts, if_neg hdb, hread, Outcome.ok_bind]
  refine (source.parseQuery_queryPart _).trans ?_
  rw [hstart, parseUserInfo_userPart]
  rfl

/-- A user whose name has a delimiter. -/
def replicaUser : Credential := .ofText "a:b" (all_iff_forall_prop.mp (by decide))

/-- A password that has a delimiter. -/
def replicaPassword : Credential := .ofText "p@ss" (all_iff_forall_prop.mp (by decide))

/-- A source with everything that can be given. -/
def replica : DataSource where
  userInfo := some (replicaUser, some replicaPassword)
  host := .ipv6 "::1" (all_iff_forall_prop.mp (by decide))
  port := some 44000
  database := "demodb"
  database_nonempty := by decide
  database_plain := all_iff_forall_prop.mp (by decide)
  autoCommit := some false
  timeout := some 60

theorem parse_text_replica :
    replica.text = "cubrid://a%3Ab:p%40ss@[::1]:44000/demodb?autocommit=false&timeout=60" ∧
      Dsn.parse replica.text = .ok ⟨"::1", 44000, "demodb", "a:b", "p@ss", false, 60⟩ :=
  ⟨by decide +kernel, parse_text replica⟩

end DataSource

end CubridDriver
