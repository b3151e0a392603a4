import CubridDriver.Dsn

/-!
# The grammar of data source names

The parser of data source names cuts a text into parts, and these are cut further.
`CubridDriver.Dsn.Parts` says which parts a text has, without saying how they are found:
each part lacks the delimiter that would have ended it earlier. A text has these parts in
one way only (`CubridDriver.Dsn.Parts.text_injective`), the parser finds them
(`CubridDriver.Dsn.parse_parts`), and a text without them is rejected
(`CubridDriver.Dsn.exists_parts_or_err`).

The host and the port are one of these parts. It is meant to be an address: a host, or
nothing, and behind it a colon and a port, or nothing (`CubridDriver.Dsn.Address`). The
parser looks at it in one of four ways (`CubridDriver.Dsn.Shape`), with a lemma about each,
and takes every address for what it says (`CubridDriver.Dsn.Address.parseHostPort`).
-/

namespace CubridDriver

namespace Dsn

open List ParseInt

/-! ### The cuts -/

/-- The query begins at the first question mark. -/
theorem cutQuery_eq_iff {rest mainPart : List Char} {query : Option (List Char)} :
    cutQuery rest = (mainPart, query) ↔
      rest = mainPart ++ query.elim [] ('?' :: ·) ∧ '?' ∉ mainPart := by
  rw [cutQuery]
  constructor
  · intro h
    cases hcut : cutFirst '?' rest with
    | none =>
      rw [hcut] at h
      cases h
      exact ⟨(append_nil rest).symm, cutFirst_eq_none.mp hcut⟩
    | some cut =>
      rw [hcut] at h
      cases h
      exact cutFirst_eq_some.mp hcut
  · rintro ⟨rfl, hmark⟩
    cases query with
    | none => rw [Option.elim_none, append_nil, cutFirst_eq_none.mpr hmark]
    | some query => rw [Option.elim_some, cutFirst_eq_some.mpr ⟨rfl, hmark⟩]

/-- The user info ends at the last at sign. -/
theorem cutUserInfo_eq_iff {mainPart hostAndDb : List Char} {userInfo : Option (List Char)} :
    cutUserInfo mainPart = (userInfo, hostAndDb) ↔
      mainPart = userInfo.elim [] (· ++ ['@']) ++ hostAndDb ∧ '@' ∉ hostAndDb := by
  rw [cutUserInfo]
  constructor
  · intro h
    cases hcut : cutLast '@' mainPart with
    | none =>
      rw [hcut] at h
      cases h
      exact ⟨rfl, cutLast_eq_none.mp hcut⟩
    | some cut =>
      rw [hcut] at h
      cases h
      obtain ⟨hmain, hat⟩ := cutLast_eq_some.mp hcut
      exact ⟨by rw [hmain, Option.elim_some, append_assoc, singleton_append], hat⟩
  · rintro ⟨rfl, hat⟩
    cases userInfo with
    | none => rw [Option.elim_none, nil_append, cutLast_eq_none.mpr hat]
    | some userInfo =>
      rw [Option.elim_some, append_assoc, singleton_append, cutLast_eq_some.mpr ⟨rfl, hat⟩]

/-! ### The parts -/

/-- The parts of a data source name. -/
structure Parts where
  /-- The user info, if there is any. -/
  userPart : Option (List Char)
  /-- The host and the port. -/
  hostPort : List Char
  /-- The database. -/
  database : List Char
  /-- The query, if there is any. -/
  queryPart : Option (List Char)
  slash_not_mem : '/' ∉ hostPort
  at_not_mem : '@' ∉ hostPort ++ '/' :: database
  mark_not_mem : '?' ∉ userPart.elim [] (· ++ ['@']) ++ (hostPort ++ '/' :: database)

namespace Parts

variable (parts : Parts)

/-- What stands in front of the query. -/
def mainPart : List Char :=
  parts.userPart.elim [] (· ++ ['@']) ++ (parts.hostPort ++ '/' :: parts.database)

/-- The data source name that has these parts. -/
def text : String := String.ofList
  (scheme ++ (parts.mainPart ++ parts.queryPart.elim [] ('?' :: ·)))

/-- What is known of the result when the parser comes to the host and the port. -/
def start : Dsn :=
  { parts.userPart.elim default (fun userInfo => parseUserInfo userInfo default) with
    database := String.ofList parts.database }

theorem cutQuery_text : cutQuery (parts.mainPart ++ parts.queryPart.elim [] ('?' :: ·)) =
    (parts.mainPart, parts.queryPart) :=
  cutQuery_eq_iff.mpr ⟨rfl, parts.mark_not_mem⟩

theorem cutUserInfo_mainPart : cutUserInfo parts.mainPart =
    (parts.userPart, parts.hostPort ++ '/' :: parts.database) :=
  cutUserInfo_eq_iff.mpr ⟨rfl, parts.at_not_mem⟩

theorem cutFirst_hostPort : cutFirst '/' (parts.hostPort ++ '/' :: parts.database) =
    some (parts.hostPort, parts.database) :=
  cutFirst_eq_some.mpr ⟨rfl, parts.slash_not_mem⟩

/-- **The parts of a text are determined by it.** -/
theorem text_injective {parts parts' : Parts} (h : parts.text = parts'.text) :
    parts = parts' := by
  have hrest := append_cancel_left (String.ofList_injective h)
  obtain ⟨hmain, hquery⟩ := Prod.mk.inj
    (parts.cutQuery_text.symm.trans ((congrArg cutQuery hrest).trans parts'.cutQuery_text))
  obtain ⟨huser, hhost⟩ := Prod.mk.inj (parts.cutUserInfo_mainPart.symm.trans
    ((congrArg cutUserInfo hmain).trans parts'.cutUserInfo_mainPart))
  obtain ⟨hport, hdb⟩ := Prod.mk.inj (Option.some.inj (parts.cutFirst_hostPort.symm.trans
    ((congrArg (cutFirst '/') hhost).trans parts'.cutFirst_hostPort)))
  cases parts
  cases parts'
  cases huser
  cases hport
  cases hdb
  cases hquery
  rfl

end Parts

/-- The user info leaves the host and the port alone. -/
theorem parseUserInfo_host (userInfo : List Char) (dsn : Dsn) :
    (parseUserInfo userInfo dsn).host = dsn.host ∧
      (parseUserInfo userInfo dsn).port = dsn.port := by
  rw [parseUserInfo]
  split <;> exact ⟨rfl, rfl⟩

theorem Parts.start_host (parts : Parts) :
    parts.start.host = "localhost" ∧ parts.start.port = 33000 := by
  rw [start]
  cases parts.userPart with
  | none => exact ⟨rfl, rfl⟩
  | some userInfo => exact parseUserInfo_host userInfo default

/-- **The parser finds the parts.** -/
theorem parse_parts (parts : Parts) : parse parts.text =
    if parts.database = [] then .err "database name is required in DSN"
    else parseHostPort parts.hostPort parts.start >>= fun result =>
      parts.queryPart.elim (.ok result) (parseQuery · result) := by
  have hscheme (w : List Char) : scheme.isPrefixOf? (scheme ++ w) = some w := rfl
  rw [parse, Parts.text, String.toList_ofList, hscheme]
  dsimp only
  rw [parts.cutQuery_text]
  dsimp only
  rw [parts.cutUserInfo_mainPart]
  dsimp only
  rw [parts.cutFirst_hostPort]
  rfl

/-- What has no such parts is rejected. -/
theorem exists_parts_or_err (s : String) :
    (∃ parts : Parts, s = parts.text) ∨ ∃ e, parse s = .err e := by
  cases hscheme : scheme.isPrefixOf? s.toList with
  | none => exact .inr ⟨_, by rw [parse, hscheme]⟩
  | some rest =>
    obtain ⟨mainPart, queryPart, hquery⟩ : ∃ mainPart queryPart,
      cutQuery rest = (mainPart, queryPart) := ⟨_, _, rfl⟩
    obtain ⟨userPart, hostAndDb, huser⟩ : ∃ userPart hostAndDb,
      cutUserInfo mainPart = (userPart, hostAndDb) := ⟨_, _, rfl⟩
    cases hcut : cutFirst '/' hostAndDb with
    | none =>
      refine .inr ⟨"database name is required in DSN", ?_⟩
      rw [parse, hscheme]
      dsimp only
      rw [hquery]
      dsimp only
      rw [huser]
      dsimp only
      rw [hcut]
    | some cut =>
      obtain ⟨rfl, hmark⟩ := cutQuery_eq_iff.mp hquery
      obtain ⟨rfl, hat⟩ := cutUserInfo_eq_iff.mp huser
      obtain ⟨rfl, hslash⟩ := cutFirst_eq_some.mp hcut
      refine .inl ⟨⟨userPart, cut.1, cut.2, queryPart, hslash, hat, hmark⟩, ?_⟩
      have hs := isPrefixOf?_eq_some_iff_append_eq.mp hscheme
      rw [Parts.text, Parts.mainPart, hs, String.ofList_toList]

/-! ### The host and the port -/

/-- The ways in which the parser looks at a host and a port. -/
inductive Shape : List Char → Prop
  /-- A host in brackets, and what stands behind it. -/
  | bracketed {host rest : List Char} (hclose : ']' ∉ host) : Shape ('[' :: (host ++ ']' :: rest))
  /-- A bracket that is not closed. -/
  | unclosed {text : List Char} (hclose : ']' ∉ text) : Shape ('[' :: text)
  /-- What stands before and after the last colon. -/
  | colon {host port : List Char} (hopen : host.head? ≠ some '[') (hlast : ':' ∉ port) :
      Shape (host ++ ':' :: port)
  /-- A host alone. -/
  | name {text : List Char} (hopen : text.head? ≠ some '[') (hcolon : ':' ∉ text) : Shape text

theorem shape (text : List Char) : Shape text := by
  by_cases hopen : text.head? = some '['
  · obtain ⟨tail, rfl⟩ := head?_eq_some_iff.mp hopen
    cases hcut : cutFirst ']' tail with
    | none => exact .unclosed (cutFirst_eq_none.mp hcut)
    | some cut =>
      obtain ⟨rfl, hclose⟩ := cutFirst_eq_some.mp hcut
      exact .bracketed hclose
  · cases hcut : cutLast ':' text with
    | none => exact .name hopen (cutLast_eq_none.mp hcut)
    | some cut =>
      obtain ⟨rfl, hlast⟩ := cutLast_eq_some.mp hcut
      refine .colon (fun hhead => hopen ?_) hlast
      rw [head?_append, hhead, Option.some_or]

variable {host port rest text : List Char} (dsn : Dsn)

/-- What stands behind a bracket is the port if it starts with a colon, and else nothing. -/
theorem parseHostPort_bracketed (hclose : ']' ∉ host) :
    parseHostPort ('[' :: (host ++ ']' :: rest)) dsn =
      if rest.head? = some ':' then parsePort rest.tail { dsn with host := String.ofList host }
      else .ok { dsn with host := String.ofList host } := by
  have hcut : cutFirst ']' ('[' :: (host ++ ']' :: rest)) = some ('[' :: host, rest) := by
    refine cutFirst_eq_some.mpr ⟨rfl, fun hmem => ?_⟩
    exact (mem_cons.mp hmem).elim (by decide) hclose
  have hhost : sliceFrom 1 ('[' :: host) = .ok host := if_pos (Nat.succ_pos _)
  rw [parseHostPort, if_pos head?_cons, hcut]
  dsimp only
  rw [hhost, Outcome.ok_bind]
  split_ifs with hcolon
  · obtain ⟨port, rfl⟩ : ∃ port, rest = ':' :: port := head?_eq_some_iff.mp hcolon
    have hport : sliceFrom 1 (':' :: port) = .ok port := if_pos (Nat.succ_pos _)
    rw [hport]
    rfl
  · rfl

theorem parseHostPort_unclosed (hclose : ']' ∉ text) :
    parseHostPort ('[' :: text) dsn = .err "invalid IPv6 address in DSN" := by
  have hcut : cutFirst ']' ('[' :: text) = none := by
    refine cutFirst_eq_none.mpr fun hmem => ?_
    exact (mem_cons.mp hmem).elim (by decide) hclose
  rw [parseHostPort, if_pos head?_cons, hcut]

/-- The port stands behind the last colon. -/
theorem parseHostPort_colon (hopen : host.head? ≠ some '[') (hlast : ':' ∉ port) :
    parseHostPort (host ++ ':' :: port) dsn = parsePort port (setHost host dsn) := by
  have hopen' : ¬(host ++ ':' :: port).head? = some '[' := by
    cases host with
    | nil => exact fun h => absurd (Option.some.inj h) (by decide)
    | cons c host => exact hopen
  rw [parseHostPort, if_neg hopen', cutLast_eq_some.mpr ⟨rfl, hlast⟩]

theorem parseHostPort_name (hopen : text.head? ≠ some '[') (hcolon : ':' ∉ text) :
    parseHostPort text dsn = .ok (setHost text dsn) := by
  rw [parseHostPort, if_neg hopen, cutLast_eq_none.mpr hcolon]

/-! ### Addresses -/

/-- How a host is written. -/
inductive HostText : List Char → String → Prop
  /-- The default, which is not written. -/
  | absent : HostText [] "localhost"
  /-- As it is. -/
  | name {text : List Char} (hne : text ≠ []) (hopen : text.head? ≠ some '[')
      (hcolon : ':' ∉ text) : HostText text (String.ofList text)
  /-- In brackets. -/
  | bracketed {text : List Char} (hclose : ']' ∉ text) :
      HostText ('[' :: (text ++ [']'])) (String.ofList text)

/-- How a port is written. -/
inductive PortText : List Char → UInt16 → Prop
  /-- The default, which is not written. -/
  | absent : PortText [] 33000
  /-- In decimal, behind a colon. -/
  | decimal {digits : List Char} {port : UInt16} (hport : IsDecimal digits port.toNat) :
      PortText (':' :: digits) port

/-- The text says to connect to this host at this port, and nothing else. -/
def Address (text : List Char) (host : String) (port : UInt16) : Prop :=
  ∃ hostText portText, text = hostText ++ portText ∧ HostText hostText host ∧
    PortText portText port

theorem colon_not_mem_decimal {digits : List Char} {n : ℕ} (h : IsDecimal digits n) :
    ':' ∉ digits := fun hmem => absurd (h.digits ':' hmem) (by decide)

theorem colon_not_mem_numeral {text : List Char} {n : ℕ} (h : IsNumeral text n) : ':' ∉ text := by
  rcases h with h | ⟨digits, rfl, h⟩
  · exact colon_not_mem_decimal h
  · exact fun hmem => (mem_cons.mp hmem).elim (by decide) (colon_not_mem_decimal h)

theorem parsePort_of_isNumeral {text : List Char} {n : ℕ} (h : IsNumeral text n) (hle : n ≤ 65535)
    (dsn : Dsn) : parsePort text dsn = .ok { dsn with port := UInt16.ofNat n } := by
  rw [parsePort, parseNumber, fromStrRadix_eq_ok_iff.mpr ⟨h, hle⟩]
  rfl

theorem setHost_of_ne_nil {text : List Char} (hne : text ≠ []) (dsn : Dsn) :
    setHost text dsn = { dsn with host := String.ofList text } := if_neg hne

/-- **An address is taken for what it says.** -/
theorem Address.parseHostPort {text : List Char} {host : String} {port : UInt16}
    (h : Address text host port) {dsn : Dsn} (hhost : dsn.host = "localhost")
    (hport : dsn.port = 33000) : parseHostPort text dsn = .ok { dsn with host, port } := by
  obtain ⟨hostText, portText, rfl, hhostText, hportText⟩ := h
  have hbehind (text : List Char) : '[' :: (text ++ [']']) ++ portText =
      '[' :: (text ++ ']' :: portText) := by rw [cons_append, append_assoc, singleton_append]
  cases hportText with
  | absent =>
    rw [← hport]
    cases hhostText with
    | absent =>
      rw [← hhost]
      exact parseHostPort_name dsn (by decide) not_mem_nil
    | name hne hopen hcolon =>
      rw [append_nil, parseHostPort_name dsn hopen hcolon, setHost_of_ne_nil hne]
    | bracketed hclose =>
      rw [hbehind, parseHostPort_bracketed dsn hclose, if_neg (by decide)]
  | @decimal digits port hdecimal =>
    have hlast := colon_not_mem_decimal hdecimal
    have hread (dsn : Dsn) : parsePort digits dsn = .ok { dsn with port } := by
      rw [parsePort_of_isNumeral (.inl hdecimal) (Nat.le_of_lt_succ port.toNat_lt),
        UInt16.ofNat_toNat]
    cases hhostText with
    | absent =>
      rw [← hhost]
      exact (parseHostPort_colon dsn (by decide) hlast).trans (hread _)
    | name hne hopen hcolon =>
      rw [parseHostPort_colon dsn hopen hlast, setHost_of_ne_nil hne, hread]
    | bracketed hclose =>
      rw [hbehind, parseHostPort_bracketed dsn hclose, if_pos head?_cons]
      exact hread _

end Dsn

end CubridDriver
