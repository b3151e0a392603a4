import CubridDriver.DsnGrammar

/-!
# Where a data source name says to connect

The text between the user info and the first slash says where to connect. The parser takes
an address there for what it says, and no text makes it panic
(`CubridDriver.Dsn.parse_ne_panic`). But it takes some other texts too
(`CubridDriver.Dsn.Loose`). Of what stands behind a bracket, it drops what does not start
with a colon, so that a port without the colon is lost and the default stands in for it. It
looks for the last colon only, so that an address without the brackets that it needs is cut
at its last part. And it reads a port with a plus sign in front.

`CubridDriver.Dsn.keepsAddress_iff` says that these are all.
-/

namespace CubridDriver

namespace Dsn

open List ParseInt

/-! ### Texts that are no addresses -/

/-- The texts that are accepted, but are no addresses. -/
inductive Loose : List Char → Prop
  /-- What stands behind the bracket is dropped. -/
  | behind {host rest : List Char} (hclose : ']' ∉ host) (hne : rest ≠ [])
      (hcolon : rest.head? ≠ some ':') : Loose ('[' :: (host ++ ']' :: rest))
  /-- A host without brackets has colons of its own. -/
  | colons {host port : List Char} {n : ℕ} (hopen : host.head? ≠ some '[') (hcolon : ':' ∈ host)
      (hport : IsNumeral port n) (hle : n ≤ 65535) : Loose (host ++ ':' :: port)
  /-- The port has a plus sign in front. -/
  | plus {hostText digits : List Char} {host : String} {n : ℕ} (hhost : HostText hostText host)
      (hport : IsDecimal digits n) (hle : n ≤ 65535) : Loose (hostText ++ ':' :: '+' :: digits)

/-- Nothing of what says where to connect is dropped. -/
def KeepsAddress (s : String) : Prop :=
  parse s ≠ .panic ∧ ∀ dsn, parse s = .ok dsn →
    ∃ parts : Parts, s = parts.text ∧ Address parts.hostPort dsn.host dsn.port

/-! ### Addresses are told from the others -/

/-- Only a host in brackets has colons. -/
theorem HostText.of_colon_mem {text : List Char} {host : String} (h : HostText text host)
    (hcolon : ':' ∈ text) : ∃ inner, text = '[' :: (inner ++ [']']) := by
  cases h with
  | absent => cases hcolon
  | name _ _ hnot => exact absurd hcolon hnot
  | bracketed _ => exact ⟨_, rfl⟩

/-- An address with a bracket in front goes on with its port behind the bracket. -/
theorem Address.of_bracketed {inner rest : List Char} {host : String} {port : UInt16}
    (hclose : ']' ∉ inner) (h : Address ('[' :: (inner ++ ']' :: rest)) host port) :
    PortText rest port := by
  obtain ⟨hostText, portText, heq, hhost, hport⟩ := h
  cases hhost with
  | absent => cases hport <;> cases heq
  | name hne hopen _ =>
    have hhead := congrArg head? heq
    rw [head?_append_of_ne_nil _ hne] at hhead
    exact absurd hhead.symm hopen
  | @bracketed text hclose' =>
    have htail : inner ++ ']' :: rest = text ++ ']' :: portText :=
      (cons.inj heq).2.trans (append_assoc text [']'] portText)
    have hcut : cutFirst ']' (inner ++ ']' :: rest) = some (text, portText) :=
      cutFirst_eq_some.mpr ⟨htail, hclose'⟩
    rw [cutFirst_eq_some.mpr ⟨rfl, hclose⟩] at hcut
    cases hcut
    exact hport

/-- An address with a colon has its port behind the last one, unless it ends in a bracket. -/
theorem Address.of_colon {hostText portText : List Char} {host : String} {port : UInt16}
    (hlast : ':' ∉ portText) (h : Address (hostText ++ ':' :: portText) host port) :
    (HostText hostText host ∧ IsDecimal portText port.toNat) ∨
      ∃ inner, hostText ++ ':' :: portText = '[' :: (inner ++ [']']) := by
  obtain ⟨hostText', portText', heq, hhost, hport⟩ := h
  cases hport with
  | absent =>
    rw [append_nil] at heq
    exact .inr (heq ▸ hhost.of_colon_mem (heq ▸ mem_append_right _ mem_cons_self))
  | decimal hport =>
    have hcut : cutLast ':' (hostText ++ ':' :: portText) = some (hostText', _) :=
      cutLast_eq_some.mpr ⟨heq, colon_not_mem_decimal hport⟩
    rw [cutLast_eq_some.mpr ⟨rfl, hlast⟩] at hcut
    cases hcut
    exact .inl ⟨hhost, hport⟩

/-- **None of these is an address.** -/
theorem Loose.not_address {text : List Char} (h : Loose text) (host : String) (port : UInt16) :
    ¬Address text host port := by
  intro haddr
  cases h with
  | behind hclose hne hcolon =>
    cases haddr.of_bracketed hclose with
    | absent => exact hne rfl
    | decimal _ => exact hcolon rfl
  | @colons hostText portText _ hopen hcolon hport _ =>
    have hbracket : ∃ inner, hostText ++ ':' :: portText = '[' :: inner := by
      rcases haddr.of_colon (colon_not_mem_numeral hport) with ⟨hhost, -⟩ | ⟨inner, heq⟩
      · obtain ⟨inner, rfl⟩ := hhost.of_colon_mem hcolon
        exact ⟨_, rfl⟩
      · exact ⟨_, heq⟩
    obtain ⟨inner, heq⟩ := hbracket
    refine hopen ?_
    rw [← head?_append_of_ne_nil hostText (ne_nil_of_mem hcolon), heq, head?_cons]
  | @plus hostText digits _ _ _ hport _ =>
    have hnumeral : IsNumeral ('+' :: digits) _ := .inr ⟨digits, rfl, hport⟩
    rcases haddr.of_colon (colon_not_mem_numeral hnumeral) with ⟨-, hdecimal⟩ | ⟨inner, heq⟩
    · exact not_isDecimal_sign (.inl rfl) hdecimal
    · obtain ⟨init, last, rfl⟩ := (eq_nil_or_concat' digits).resolve_left hport.nonempty
      have heq : (hostText ++ ':' :: '+' :: init) ++ [last] = ('[' :: inner) ++ [']'] :=
        (append_assoc _ _ _).trans heq
      obtain rfl : last = ']' := (append_singleton_inj.mp heq).2
      exact absurd (hport.digits ']' (mem_append_right _ mem_cons_self)) (by decide)

/-! ### What the parser accepts -/

theorem parseNumber_cases (what : String) (max : ℕ) (text : List Char) :
    (∃ n ≤ max, IsNumeral text n ∧ parseNumber what max text = .ok n) ∨
      (¬∃ n ≤ max, IsNumeral text n) ∧ ∃ e, parseNumber what max text = .err e := by
  rw [parseNumber]
  cases hread : fromStrRadix 10 max text with
  | ok n =>
    obtain ⟨hnumeral, hle⟩ := fromStrRadix_eq_ok_iff.mp hread
    exact .inl ⟨n, hle, hnumeral, rfl⟩
  | error e =>
    refine .inr ⟨?_, _, rfl⟩
    rintro ⟨n, hle, hnumeral⟩
    cases hread.symm.trans (fromStrRadix_eq_ok_iff.mpr ⟨hnumeral, hle⟩)

/-- **Behind a host a port is read**, with a plus sign or without, or nothing is. -/
theorem parsePort_cases {hostText : List Char} {dsn : Dsn} (hhost : HostText hostText dsn.host)
    (port : List Char) :
    (∃ dsn', parsePort port dsn = .ok dsn' ∧
      (Address (hostText ++ ':' :: port) dsn'.host dsn'.port ∨ Loose (hostText ++ ':' :: port))) ∨
      ∃ e, parsePort port dsn = .err e := by
  rcases parseNumber_cases "port" 65535 port with ⟨n, hle, hnumeral, -⟩ | ⟨-, e, he⟩
  · refine .inl ⟨_, parsePort_of_isNumeral hnumeral hle dsn, ?_⟩
    rcases hnumeral with hdecimal | ⟨digits, rfl, hdecimal⟩
    · have hport : (UInt16.ofNat n).toNat = n := UInt16.toNat_ofNat_of_lt' (Nat.lt_succ_of_le hle)
      exact .inl ⟨hostText, _, rfl, hhost, .decimal (hport.symm ▸ hdecimal)⟩
    · exact .inr (.plus hhost hdecimal hle)
  · exact .inr ⟨e, by rw [parsePort, he, Outcome.err_bind]⟩

theorem hostText_setHost {text : List Char} {dsn : Dsn} (hopen : text.head? ≠ some '[')
    (hcolon : ':' ∉ text) (hdefault : dsn.host = "localhost") :
    HostText text (setHost text dsn).host := by
  by_cases hnil : text = []
  · rw [hnil, setHost, if_pos rfl, hdefault]
    exact .absent
  · rw [setHost, if_neg hnil]
    exact .name hnil hopen hcolon

/-- **What is accepted is an address or one of the others.** -/
theorem parseHostPort_cases (text : List Char) {dsn : Dsn} (hhost : dsn.host = "localhost")
    (hport : dsn.port = 33000) :
    (∃ dsn', parseHostPort text dsn = .ok dsn' ∧
      (Address text dsn'.host dsn'.port ∨ Loose text)) ∨ ∃ e, parseHostPort text dsn = .err e := by
  cases shape text with
  | @bracketed host rest hclose =>
    have hbracket :
        HostText ('[' :: (host ++ [']'])) ({ dsn with host := String.ofList host }).host :=
      .bracketed hclose
    have hsplit (rest : List Char) :
        '[' :: (host ++ ']' :: rest) = '[' :: (host ++ [']']) ++ rest := by
      rw [cons_append, append_assoc, singleton_append]
    rw [parseHostPort_bracketed dsn hclose]
    split_ifs with hcolon
    · obtain ⟨port, rfl⟩ := head?_eq_some_iff.mp hcolon
      rw [hsplit]
      exact parsePort_cases hbracket port
    · by_cases hne : rest = []
      · subst hne
        exact .inl ⟨_, rfl, .inl ⟨_, [], hsplit [], hbracket, hport ▸ .absent⟩⟩
      · exact .inl ⟨_, rfl, .inr (.behind hclose hne hcolon)⟩
  | unclosed hclose => exact .inr ⟨_, parseHostPort_unclosed dsn hclose⟩
  | @colon host port hopen hlast =>
    rw [parseHostPort_colon dsn hopen hlast]
    by_cases hcolon : ':' ∈ host
    · rcases parseNumber_cases "port" 65535 port with ⟨n, hle, hnumeral, -⟩ | ⟨-, e, he⟩
      · have hloose : Loose (host ++ ':' :: port) := .colons hopen hcolon hnumeral hle
        exact .inl ⟨_, parsePort_of_isNumeral hnumeral hle _, .inr hloose⟩
      · exact .inr ⟨e, by rw [parsePort, he, Outcome.err_bind]⟩
    · exact parsePort_cases (hostText_setHost hopen hcolon hhost) port
  | name hopen hcolon =>
    have hname := hostText_setHost hopen hcolon hhost
    have hdefault : (setHost text dsn).port = 33000 := by
      rw [setHost]
      split <;> exact hport
    exact .inl ⟨_, parseHostPort_name dsn hopen hcolon,
      .inl ⟨text, [], (append_nil text).symm, hname, hdefault ▸ .absent⟩⟩

/-- **The others are accepted.** -/
theorem Loose.parseHostPort_eq_ok {text : List Char} (h : Loose text) (dsn : Dsn) :
    ∃ dsn', parseHostPort text dsn = .ok dsn' := by
  cases h with
  | behind hclose hne hcolon => exact ⟨_, by rw [parseHostPort_bracketed dsn hclose, if_neg hcolon]⟩
  | colons hopen hcolon hport hle =>
    rw [parseHostPort_colon dsn hopen (colon_not_mem_numeral hport)]
    exact ⟨_, parsePort_of_isNumeral hport hle _⟩
  | @plus hostText digits host n hhost hport hle =>
    have hnumeral : IsNumeral ('+' :: digits) n := .inr ⟨digits, rfl, hport⟩
    have hlast := colon_not_mem_numeral hnumeral
    have hread := parsePort_of_isNumeral hnumeral hle
    cases hhost with
    | absent => exact ⟨_, (parseHostPort_colon dsn (by decide) hlast).trans (hread _)⟩
    | name _ hopen _ => exact ⟨_, (parseHostPort_colon dsn hopen hlast).trans (hread _)⟩
    | bracketed hclose =>
      rw [cons_append, append_assoc, singleton_append, parseHostPort_bracketed dsn hclose,
        if_pos head?_cons]
      exact ⟨_, hread _⟩

example (dsn : Dsn) :
    parseHostPort "::1".toList dsn = .ok { dsn with host := ":", port := 1 } := rfl

/-! ### The query -/

/-- If `P` holds, the outcome is a record with the host and the port of `dsn`, and else it is
an error. -/
def AcceptsIf (P : Prop) (dsn : Dsn) (x : Outcome String Dsn) : Prop :=
  (P ∧ ∃ dsn', x = .ok dsn' ∧ dsn'.host = dsn.host ∧ dsn'.port = dsn.port) ∨ ¬P ∧ ∃ e, x = .err e

/-- **One thing after another** is accepted if both are. -/
theorem AcceptsIf.bind {P Q : Prop} {dsn : Dsn} {x : Outcome String Dsn}
    {f : Dsn → Outcome String Dsn} (hx : AcceptsIf P dsn x)
    (hf : ∀ dsn', AcceptsIf Q dsn' (f dsn')) : AcceptsIf (P ∧ Q) dsn (x >>= f) := by
  rcases hx with ⟨hP, dsn₁, rfl, hhost, hport⟩ | ⟨hP, e, rfl⟩
  · rcases hf dsn₁ with ⟨hQ, dsn₂, hread, hhost', hport'⟩ | ⟨hQ, herr⟩
    · exact .inl ⟨⟨hP, hQ⟩, dsn₂, hread, hhost'.trans hhost, hport'.trans hport⟩
    · exact .inr ⟨fun h => hQ h.2, herr⟩
  · exact .inr ⟨fun h => hP h.1, e, rfl⟩

/-- A parameter that sets the timeout sets it to a number. -/
def TimeoutIsNumber (param : List Char) : Prop :=
  ∀ val, param = "timeout".toList ++ '=' :: val → ∃ n ≤ 2 ^ 64 - 1, IsNumeral val n

/-- A parameter is rejected only if it sets the timeout to something else. -/
theorem acceptsIf_parseParam (dsn : Dsn) (param : List Char) :
    AcceptsIf (TimeoutIsNumber param) dsn (parseParam dsn param) := by
  rw [parseParam]
  cases hcut : cutFirst '=' param with
  | none =>
    refine .inl ⟨?_, dsn, rfl, rfl, rfl⟩
    rintro val rfl
    exact absurd (mem_append_right _ mem_cons_self) (cutFirst_eq_none.mp hcut)
  | some cut =>
    obtain ⟨key, val⟩ := cut
    have hkey (val' : List Char) (h : param = "timeout".toList ++ '=' :: val') :
        key = "timeout".toList ∧ val = val' := by
      rw [cutFirst_eq_some.mpr ⟨h, by decide⟩] at hcut
      exact Prod.mk.inj (Option.some.inj hcut.symm)
    dsimp only
    split_ifs with hauto htimeout
    · refine .inl ⟨fun val' h => ?_, _, rfl, rfl, rfl⟩
      exact absurd (hauto.symm.trans (hkey val' h).1) (by decide)
    · have hparam : param = "timeout".toList ++ '=' :: val :=
        htimeout ▸ (cutFirst_eq_some.mp hcut).1
      rcases parseNumber_cases "timeout" (2 ^ 64 - 1) val with ⟨n, hle, hn, hread⟩ | ⟨hnot, e, he⟩
      · refine .inl ⟨fun val' h => (hkey val' h).2 ▸ ⟨n, hle, hn⟩,
          { dsn with timeout := UInt64.ofNat n }, ?_, rfl, rfl⟩
        rw [hread, Outcome.ok_bind]
        rfl
      · exact .inr ⟨fun h => hnot (h val hparam), e, by rw [he, Outcome.err_bind]⟩
    · refine .inl ⟨fun val' h => ?_, dsn, rfl, rfl, rfl⟩
      exact absurd (hkey val' h).1 htimeout

theorem acceptsIf_foldlM (params : List (List Char)) : ∀ dsn : Dsn,
    AcceptsIf (∀ param ∈ params, TimeoutIsNumber param) dsn (params.foldlM parseParam dsn) := by
  induction params with
  | nil => exact fun dsn => .inl ⟨fun _ h => absurd h not_mem_nil, dsn, rfl, rfl, rfl⟩
  | cons param params ih =>
    intro dsn
    rw [foldlM_cons, forall_mem_cons]
    exact (acceptsIf_parseParam dsn param).bind ih

/-- **A query is rejected** if one of its parameters is. -/
theorem acceptsIf_queryPart (queryPart : Option (List Char)) (dsn : Dsn) :
    AcceptsIf (∀ query ∈ queryPart, ∀ param ∈ query.splitOn '&', TimeoutIsNumber param) dsn
      (queryPart.elim (.ok dsn) (parseQuery · dsn)) := by
  cases queryPart with
  | none => exact .inl ⟨nofun, dsn, rfl, rfl, rfl⟩
  | some query =>
    have hquery := acceptsIf_foldlM (query.splitOn '&') dsn
    simpa only [Option.mem_def, Option.some.injEq, forall_eq', Option.elim_some, parseQuery] using
      hquery

/-! ### Data source names -/

/-- Apart from the host and the port there is nothing to reject. -/
def Parts.InOrder (parts : Parts) : Prop :=
  parts.database ≠ [] ∧
    ∀ query ∈ parts.queryPart, ∀ param ∈ query.splitOn '&', TimeoutIsNumber param

/-- **A name is accepted** for what it says, or because it is in order but for its host and
its port. It is rejected else. -/
theorem parse_parts_cases (parts : Parts) :
    (∃ dsn, parse parts.text = .ok dsn ∧
      (Address parts.hostPort dsn.host dsn.port ∨ parts.InOrder ∧ Loose parts.hostPort)) ∨
    ¬(parts.InOrder ∧ Loose parts.hostPort) ∧ ∃ e, parse parts.text = .err e := by
  rw [parse_parts]
  split_ifs with hdb
  · exact .inr ⟨fun h => h.1.1 hdb, _, rfl⟩
  · rcases parseHostPort_cases parts.hostPort parts.start_host.1 parts.start_host.2 with
      ⟨dsn', hread, hcases⟩ | ⟨e, he⟩
    · rw [hread, Outcome.ok_bind]
      rcases acceptsIf_queryPart parts.queryPart dsn' with ⟨hquery, dsn, hok, hsame⟩ | ⟨hnot, herr⟩
      · refine .inl ⟨dsn, hok, ?_⟩
        rw [hsame.1, hsame.2]
        exact hcases.imp_right fun hloose => ⟨⟨hdb, hquery⟩, hloose⟩
      · exact .inr ⟨fun h => hnot h.1.2, herr⟩
    · refine .inr ⟨fun h => ?_, e, by rw [he, Outcome.err_bind]⟩
      obtain ⟨dsn', hread⟩ := h.2.parseHostPort_eq_ok parts.start
      cases hread.symm.trans he

/-- **No text makes the parser panic.** -/
theorem parse_ne_panic (s : String) : parse s ≠ .panic := by
  intro hpanic
  rcases exists_parts_or_err s with ⟨parts, rfl⟩ | ⟨e, he⟩
  · rcases parse_parts_cases parts with ⟨dsn, hparse, -⟩ | ⟨-, e, he⟩
    · cases hparse.symm.trans hpanic
    · cases he.symm.trans hpanic
  · cases he.symm.trans hpanic

/-- **Where the parser keeps what it accepts.** It drops nothing of where to connect, unless
the name is in order but for a host and a port that are no address and are accepted
nevertheless. -/
theorem keepsAddress_iff (s : String) : KeepsAddress s ↔
    ∀ parts : Parts, s = parts.text → parts.InOrder → ¬Loose parts.hostPort := by
  constructor
  · rintro ⟨-, hkeep⟩ parts rfl horder hloose
    rcases parse_parts_cases parts with ⟨dsn, hparse, -⟩ | ⟨hnot, -⟩
    · obtain ⟨parts', htext, haddr⟩ := hkeep dsn hparse
      rw [← Parts.text_injective htext] at haddr
      exact hloose.not_address _ _ haddr
    · exact hnot ⟨horder, hloose⟩
  · intro h
    refine ⟨parse_ne_panic s, fun dsn hdsn => ?_⟩
    rcases exists_parts_or_err s with ⟨parts, rfl⟩ | ⟨e, he⟩
    · rcases parse_parts_cases parts with ⟨dsn', hparse, hcases⟩ | ⟨-, e, he⟩
      · obtain rfl : dsn' = dsn := Outcome.ok.inj (hparse.symm.trans hdsn)
        exact ⟨parts, rfl, hcases.resolve_right fun hloose => h parts rfl hloose.1 hloose.2⟩
      · cases he.symm.trans hdsn
    · cases he.symm.trans hdsn

/-- A port without a colon, behind an address in brackets. -/
def bracketParts : Parts where
  userPart := some "dba".toList
  hostPort := "[::1]44000".toList
  database := "demodb".toList
  queryPart := none
  slash_not_mem := by decide
  at_not_mem := by decide
  mark_not_mem := by decide

/-- It is dropped, and the default port stands in for it. -/
theorem not_keepsAddress_bracket :
    parse "cubrid://dba@[::1]44000/demodb" = .ok ⟨"::1", 33000, "demodb", "dba", "", true, 30⟩ ∧
      ¬KeepsAddress "cubrid://dba@[::1]44000/demodb" := by
  have hparse : parse "cubrid://dba@[::1]44000/demodb" =
      .ok ⟨"::1", 33000, "demodb", "dba", "", true, 30⟩ := by decide +kernel
  refine ⟨hparse, fun hkeep => ?_⟩
  obtain ⟨parts, htext, haddr⟩ := hkeep.2 _ hparse
  obtain rfl : bracketParts = parts := Parts.text_injective htext
  have hloose : Loose bracketParts.hostPort :=
    @Loose.behind "::1".toList "44000".toList (by decide) (by decide) (by decide)
  exact hloose.not_address _ _ haddr

end Dsn

end CubridDriver
