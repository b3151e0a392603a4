import CubridDriver.Placeholders

/-!
# Numbers among the characters of a template

A number is written into the SQL text without a delimiter, so it can join with
the characters around it. What it must not do is open a comment, since a comment
swallows the rest of the line: behind a `-`, a negative number does.

The statement is about the characters a template keeps. For each of them the
output has a context and the template has one, and
`CubridDriver.keepsContexts_iff_no_negative_after_minus` says when the two are
the same throughout: no negative number is substituted directly behind a `-`.
-/

namespace CubridDriver

open Template NumText

/-! ### Integer parameters -/

/-- The number a parameter of an integer type holds. -/
def Value.integer? : Value → Option ℤ
  | .short v => some v.toInt
  | .int v => some v.toInt
  | .long v => some v.toInt
  | _ => none

theorem formatChars_of_integer? {v : Value} {n : ℤ} (h : v.integer? = some n) :
    formatChars v = intText n := by
  cases v with
  | short v => exact congrArg intText (Option.some.inj h)
  | int v => exact congrArg intText (Option.some.inj h)
  | long v => exact congrArg intText (Option.some.inj h)
  | _ => simp [Value.integer?] at h

/-- A list of integer parameters is written as the texts of a list of numbers. -/
theorem map_formatChars_of_integers {params : List Value} (h : ∀ v ∈ params, v.integer?.isSome) :
    ∃ ns : List ℤ, params.map Value.integer? = ns.map some ∧
      params.map formatChars = ns.map intText := by
  induction params with
  | nil => exact ⟨[], rfl, rfl⟩
  | cons v params ih =>
    obtain ⟨n, hn⟩ := Option.isSome_iff_exists.mp (h v (by simp))
    obtain ⟨ns, hns, htexts⟩ := ih fun w hw => h w (by simp [hw])
    refine ⟨n :: ns, by simp [hn, hns], ?_⟩
    rw [List.map_cons, List.map_cons, htexts, formatChars_of_integer? hn]

/-! ### A number in code -/

/-- Digits stay code, whatever follows. -/
theorem contextsFrom_digits (ds cs : List Char) (h : ∀ c ∈ ds, c.isDigit = true) :
    contextsFrom .code (ds ++ cs) =
      List.replicate ds.length .code ++ contextsFrom .code cs := by
  induction ds with
  | nil => rfl
  | cons d ds ih =>
    have hd : d.isDigit = true := h d (by simp)
    have hne : ∀ c : Char, c.isDigit = false → d ≠ c := fun c hc hdc => by simp [hdc, hc] at hd
    have hopen : ∀ e ∈ (ds ++ cs).head?, ¬OpensComment d e := by
      rintro e - (⟨rfl, -⟩ | ⟨rfl, -⟩)
      · exact hne '-' (by decide) rfl
      · exact hne '/' (by decide) rfl
    rw [List.cons_append, contextsFrom_code_cons ⟨hne _ (by decide), hne _ (by decide)⟩ hopen,
      ih fun c hc => h c (by simp [hc])]
    rfl

/-- **A number written in code is code**, and the text behind it is read as if it
were not there: a number ends with a digit. -/
theorem contextsFrom_intText (n : ℤ) (cs : List Char) :
    contextsFrom .code (intText n ++ cs) =
      List.replicate (intText n).length .code ++ contextsFrom .code cs := by
  rcases intText_cases n with ⟨d, ds, hdigits, ⟨-, htext⟩ | ⟨-, htext⟩⟩
  · have hopen : ∀ e ∈ (d :: ds ++ cs).head?, ¬OpensComment '-' e := by
      rintro e he (⟨-, rfl⟩ | ⟨h, -⟩)
      · obtain rfl : d = '-' := by simpa using he
        exact absurd (hdigits '-' (by simp)) (by decide)
      · exact absurd h (by decide)
    rw [htext, List.cons_append, contextsFrom_code_cons (by decide) hopen,
      contextsFrom_digits _ _ hdigits]
    rfl
  · rw [htext, contextsFrom_digits _ _ hdigits]

/-- The text of a number starts with a `-` exactly for a negative one, and
otherwise with a digit. -/
theorem mem_head?_intText {n : ℤ} {c : Char} (h : c ∈ (intText n).head?) :
    n < 0 ∧ c = '-' ∨ 0 ≤ n ∧ c.isDigit = true := by
  rcases intText_cases n with ⟨d, ds, hdigits, ⟨hn, htext⟩ | ⟨hn, htext⟩⟩
  · rw [htext] at h
    exact Or.inl ⟨hn, by simpa using h.symm⟩
  · rw [htext] at h
    obtain rfl : d = c := by simpa using h
    exact Or.inr ⟨hn, hdigits d (by simp)⟩

/-! ### Negative numbers behind a minus sign -/

/-- With the holes marked by `ms`, some negative number of `ns` is substituted
directly behind a `-`. -/
def NegativeAfterMinus (cs : List Char) (ms : List Bool) (ns : List ℤ) : Prop :=
  ∃ i n, cs[i]? = some '-' ∧ ms[i + 1]? = some true ∧
    ns[(ms.take (i + 1)).count true]? = some n ∧ n < 0

theorem not_negativeAfterMinus_nil (ns : List ℤ) : ¬NegativeAfterMinus [] [] ns := by
  rintro ⟨i, n, hi, -⟩
  simp at hi

/-- **Behind a kept character**: it is a `-` before a hole that gets a negative
number, or the two meet further on. -/
theorem negativeAfterMinus_keep {c : Char} {cs : List Char} {ms : List Bool} {ns : List ℤ} :
    NegativeAfterMinus (c :: cs) (false :: ms) ns ↔
      (c = '-' ∧ ms[0]? = some true ∧ ∃ n, ns[0]? = some n ∧ n < 0) ∨
        NegativeAfterMinus cs ms ns := by
  constructor
  · rintro ⟨i, n, hc, hm, hn, hneg⟩
    cases i with
    | zero => exact Or.inl ⟨by simpa using hc, by simpa using hm, n, by simpa using hn, hneg⟩
    | succ i => exact Or.inr ⟨i, n, by simpa using hc, by simpa using hm, by simpa using hn, hneg⟩
  · rintro (⟨rfl, hm, n, hn, hneg⟩ | ⟨i, n, hc, hm, hn, hneg⟩)
    · exact ⟨0, n, rfl, by simpa using hm, by simpa using hn, hneg⟩
    · exact ⟨i + 1, n, by simpa using hc, by simpa using hm, by simpa using hn, hneg⟩

/-- **Behind a filled hole** the next number is due. -/
theorem negativeAfterMinus_hole {c : Char} {cs : List Char} {ms : List Bool} {n : ℤ}
    {ns : List ℤ} (hc : c ≠ '-') :
    NegativeAfterMinus (c :: cs) (true :: ms) (n :: ns) ↔ NegativeAfterMinus cs ms ns := by
  constructor
  · rintro ⟨i, k, hi, hm, hk, hneg⟩
    cases i with
    | zero => exact absurd (by simpa using hi) hc
    | succ i => exact ⟨i, k, by simpa using hi, by simpa using hm, by simpa using hk, hneg⟩
  · rintro ⟨i, k, hi, hm, hk, hneg⟩
    exact ⟨i + 1, k, by simpa using hi, by simpa using hm, by simpa using hk, hneg⟩

theorem not_negativeAfterMinus_no_number (cs : List Char) (ms : List Bool) :
    ¬NegativeAfterMinus cs ms [] := by
  rintro ⟨i, n, -, -, hn, -⟩
  simp at hn

/-! ### The contexts of the kept characters -/

theorem exists_cons_intText (n : ℤ) : ∃ d ds, intText n = d :: ds := by
  rcases intText_cases n with ⟨d, ds, -, ⟨-, h⟩ | ⟨-, h⟩⟩ <;> exact ⟨_, _, h⟩

section Head

variable {cs : List Char} {ms : List Bool} {ns : List ℤ}

/-- A hole that gets a number begins with the text of that number. -/
theorem head?_fill_of_number {n : ℤ} (hlen : ms.length = cs.length) (hm : ms[0]? = some true)
    (hn : ns[0]? = some n) :
    (fill (cs.zip ms) (ns.map intText)).head? = (intText n).head? := by
  match cs, ms, ns with
  | [], _, _ => simp [List.length_eq_zero_iff.mp hlen] at hm
  | _ :: _, true :: _, k :: _ =>
    obtain rfl : k = n := by simpa using hn
    obtain ⟨d, ds, htext⟩ := exists_cons_intText k
    rw [List.zip_cons_cons, List.map_cons, fill_hole, htext]
    rfl

/-- The next character of a filled template is the next one of the template or, at
a hole, the first one of a number. -/
theorem mem_head?_fill {d : Char} (hlen : ms.length = cs.length)
    (h : d ∈ (fill (cs.zip ms) (ns.map intText)).head?) :
    d ∈ cs.head? ∨ ms[0]? = some true ∧ ∃ n, ns[0]? = some n ∧ d ∈ (intText n).head? := by
  match cs, ms, ns with
  | [], _, _ => simp at h
  | _ :: _, false :: _, _ => exact Or.inl (by simpa using h)
  | _ :: _, true :: _, [] => exact Or.inl (by simpa using h)
  | _ :: _, true :: _, n :: _ =>
    rw [head?_fill_of_number hlen rfl rfl] at h
    exact Or.inr ⟨rfl, n, rfl, h⟩

/-- Nothing that comes to stand behind a code character opens a comment with it,
except a negative number behind a `-`. -/
theorem opensComment_fill {c d : Char} (hlen : ms.length = cs.length)
    (hcs : ∀ e ∈ cs.head?, ¬OpensComment c e)
    (hd : d ∈ (fill (cs.zip ms) (ns.map intText)).head?) (hopen : OpensComment c d) :
    c = '-' ∧ ms[0]? = some true ∧ ∃ n, ns[0]? = some n ∧ n < 0 := by
  rcases mem_head?_fill hlen hd with htpl | ⟨hhole, n, hn, htext⟩
  · exact absurd hopen (hcs d htpl)
  · rcases mem_head?_intText htext with ⟨hneg, rfl⟩ | ⟨-, hdigit⟩
    · rcases hopen with ⟨rfl, -⟩ | ⟨-, h | h⟩
      · exact ⟨rfl, hhole, n, hn, hneg⟩
      · exact absurd h (by decide)
      · exact absurd h (by decide)
    · rcases hopen with ⟨-, rfl⟩ | ⟨-, rfl | rfl⟩ <;> exact absurd hdigit (by decide)

end Head

/-- With the numbers `ns` in the holes, the output has at every kept character the
context the template has there. -/
def KeepsContextsFrom (x : SqlContext) (cs : List Char) (ns : List ℤ) : Prop :=
  Agrees (origins (cs.zip (marksFrom x cs)) (ns.map intText))
    (contextsFrom x (fill (cs.zip (marksFrom x cs)) (ns.map intText))) (contextsFrom x cs)

section Step

variable {x y z : SqlContext} {c : Char} {cs : List Char} {ns : List ℤ}

/-- The marking of a text whose first character stands in `z`, and whose rest is
read from `y`. -/
theorem marksFrom_cons (h : contextsFrom x (c :: cs) = z :: contextsFrom y cs) :
    marksFrom x (c :: cs) = decide (c = '?' ∧ z = .code) :: marksFrom y cs := by
  rw [marksFrom, h, List.zipWith_cons_cons, marksFrom]

/-- **The step at a character the output keeps**, in the context it has in the
template. -/
theorem keepsContextsFrom_keep (htpl : contextsFrom x (c :: cs) = z :: contextsFrom y cs)
    (hkeep : c = '?' ∧ z = .code → ns = [])
    (hout : contextsFrom x (c :: fill (cs.zip (marksFrom y cs)) (ns.map intText)) =
      z :: contextsFrom y (fill (cs.zip (marksFrom y cs)) (ns.map intText)))
    (hjoin : ¬(c = '-' ∧ (marksFrom y cs)[0]? = some true ∧ ∃ n, ns[0]? = some n ∧ n < 0))
    (ih : KeepsContextsFrom y cs ns ↔ ¬NegativeAfterMinus cs (marksFrom y cs) ns) :
    KeepsContextsFrom x (c :: cs) ns ↔
      ¬NegativeAfterMinus (c :: cs) (marksFrom x (c :: cs)) ns := by
  have hkeep' : decide (c = '?' ∧ z = .code) = true → ns.map intText = [] := fun h => by
    rw [hkeep (of_decide_eq_true h), List.map_nil]
  have hmark : NegativeAfterMinus (c :: cs) (marksFrom x (c :: cs)) ns ↔
      NegativeAfterMinus cs (marksFrom y cs) ns := by
    rw [marksFrom_cons htpl]
    by_cases hb : c = '?' ∧ z = .code
    · simp [hkeep hb, not_negativeAfterMinus_no_number]
    · rw [decide_eq_false hb, negativeAfterMinus_keep]
      simp [hjoin]
  rw [KeepsContextsFrom, marksFrom_cons htpl, List.zip_cons_cons, fill_of_keep hkeep',
    origins_of_keep hkeep', hout, htpl, agrees_keep, ← marksFrom_cons htpl, hmark, ← ih]
  exact and_iff_right rfl

/-- **The step at a placeholder that gets a number.** -/
theorem keepsContextsFrom_hole {n : ℤ}
    (ih : KeepsContextsFrom .code cs ns ↔ ¬NegativeAfterMinus cs (marksFrom .code cs) ns) :
    KeepsContextsFrom .code ('?' :: cs) (n :: ns) ↔
      ¬NegativeAfterMinus ('?' :: cs) (marksFrom .code ('?' :: cs)) (n :: ns) := by
  have htpl : contextsFrom .code ('?' :: cs) = .code :: contextsFrom .code cs :=
    contextsFrom_code_cons (by decide) fun d _ h => by rcases h with ⟨h, -⟩ | ⟨h, -⟩ <;> simp at h
  rw [KeepsContextsFrom, marksFrom_cons htpl, htpl, List.zip_cons_cons, List.map_cons,
    decide_eq_true ⟨rfl, rfl⟩, fill_hole, origins_hole, contextsFrom_intText,
    agrees_hole (List.length_replicate ..), negativeAfterMinus_hole (by decide), ← ih]
  rfl

/-- **The step at a code character**, which opens nothing in the template: a `-` is
kept in its context unless a negative number follows it. -/
theorem keepsContextsFrom_code (hquote : c ≠ '\'' ∧ c ≠ '"')
    (hcs : ∀ e ∈ cs.head?, ¬OpensComment c e)
    (ih : ∀ ns : List ℤ, KeepsContextsFrom .code cs ns ↔
      ¬NegativeAfterMinus cs (marksFrom .code cs) ns) :
    KeepsContextsFrom .code (c :: cs) ns ↔
      ¬NegativeAfterMinus (c :: cs) (marksFrom .code (c :: cs)) ns := by
  have htpl := contextsFrom_code_cons hquote hcs
  have hlen : (marksFrom .code cs).length = cs.length := length_marksFrom _ _
  by_cases hkeep : c = '?' ∧ SqlContext.code = .code → ns = []
  · by_cases hjoin :
        c = '-' ∧ (marksFrom .code cs)[0]? = some true ∧ ∃ n, ns[0]? = some n ∧ n < 0
    · obtain ⟨rfl, hhole, n, hn, hneg⟩ := id hjoin
      -- the `-` and the sign of the number are the start of a comment
      obtain ⟨ds, hds⟩ : ∃ ds, intText n = '-' :: ds := by
        rcases intText_cases n with ⟨d, ds, -, ⟨-, h⟩ | ⟨hpos, -⟩⟩
        · exact ⟨_, h⟩
        · omega
      have hhead := head?_fill_of_number hlen hhole hn
      rw [hds] at hhead
      obtain ⟨rest, hrest⟩ := List.head?_eq_some_iff.mp hhead
      rw [KeepsContextsFrom, marksFrom_cons htpl, List.zip_cons_cons, decide_eq_false (by decide),
        fill_keep, origins_keep, htpl, hrest, contextsFrom, agrees_keep, negativeAfterMinus_keep]
      simp [hjoin]
    · refine keepsContextsFrom_keep htpl hkeep ?_ hjoin (ih ns)
      exact contextsFrom_code_cons hquote fun d hd h => hjoin (opensComment_fill hlen hcs hd h)
  -- the character is a hole that gets a number
  · obtain ⟨⟨rfl, -⟩, hns⟩ := Classical.not_imp.mp hkeep
    obtain ⟨n, ns, rfl⟩ := List.exists_cons_of_ne_nil hns
    exact keepsContextsFrom_hole (ih ns)

/-- No hole is at the start of a text that is read from a literal. -/
theorem marksFrom_literal_zero (cs : List Char) : (marksFrom .literal cs)[0]? ≠ some true := by
  intro h
  rw [marksFrom, List.getElem?_zipWith_eq_some] at h
  obtain ⟨c, y, hc, hy, h⟩ := h
  obtain ⟨rfl, rfl⟩ := of_decide_eq_true h
  cases cs with
  | nil => simp at hc
  | cons d ds =>
    obtain rfl : d = '?' := by simpa using hc
    rw [contextsFrom_literal_cons (by decide)] at hy
    simp at hy

/-- **The step at a character of a literal**, other than a quote. -/
theorem keepsContextsFrom_literal (hc : c ≠ '\'')
    (ih : KeepsContextsFrom .literal cs ns ↔
      ¬NegativeAfterMinus cs (marksFrom .literal cs) ns) :
    KeepsContextsFrom .literal (c :: cs) ns ↔
      ¬NegativeAfterMinus (c :: cs) (marksFrom .literal (c :: cs)) ns :=
  keepsContextsFrom_keep (contextsFrom_literal_cons hc) (by simp)
    (contextsFrom_literal_cons hc) (fun h => marksFrom_literal_zero cs h.2.1) ih

/-- **The step at the quote that closes a literal**: a number behind it does not
begin with another quote. -/
theorem keepsContextsFrom_close (hcs : cs.head? ≠ some '\'')
    (ih : KeepsContextsFrom .code cs ns ↔ ¬NegativeAfterMinus cs (marksFrom .code cs) ns) :
    KeepsContextsFrom .literal ('\'' :: cs) ns ↔
      ¬NegativeAfterMinus ('\'' :: cs) (marksFrom .literal ('\'' :: cs)) ns := by
  refine keepsContextsFrom_keep (contextsFrom_literal_quote hcs) (by simp)
    (contextsFrom_literal_quote fun hhead => ?_) (by simp) ih
  rcases mem_head?_fill (length_marksFrom _ _) hhead with htpl | ⟨-, n, -, htext⟩
  · exact hcs htpl
  · rcases mem_head?_intText htext with ⟨-, h⟩ | ⟨-, h⟩
    · exact absurd h (by decide)
    · exact absurd h (by decide)

/-- **The step at a doubled quote** in a literal. -/
theorem keepsContextsFrom_doubled
    (ih : KeepsContextsFrom .literal cs ns ↔
      ¬NegativeAfterMinus cs (marksFrom .literal cs) ns) :
    KeepsContextsFrom .literal ('\'' :: '\'' :: cs) ns ↔
      ¬NegativeAfterMinus ('\'' :: '\'' :: cs) (marksFrom .literal ('\'' :: '\'' :: cs)) ns := by
  have hmarks : marksFrom .literal ('\'' :: '\'' :: cs) =
      false :: false :: marksFrom .literal cs := by
    simp [marksFrom, contextsFrom]
  have hctx : ∀ ds, contextsFrom .literal ('\'' :: '\'' :: ds) =
      .literal :: .literal :: contextsFrom .literal ds := fun ds => rfl
  rw [KeepsContextsFrom, hmarks, List.zip_cons_cons, List.zip_cons_cons, fill_keep, fill_keep,
    origins_keep, origins_keep, hctx, hctx, agrees_keep, agrees_keep, negativeAfterMinus_keep,
    negativeAfterMinus_keep]
  rw [KeepsContextsFrom] at ih
  simpa using ih

end Step

/-- **The kept characters keep their contexts exactly when no negative number is
substituted behind a `-`.** The induction is on the lexer that reads the template;
`x` is its context. -/
theorem keepsContextsFrom_iff {x : SqlContext} {cs : List Char} (h : PlainFrom x cs)
    (hx : x = .code ∨ x = .literal) (ns : List ℤ) :
    KeepsContextsFrom x cs ns ↔ ¬NegativeAfterMinus cs (marksFrom x cs) ns := by
  unfold PlainFrom at h
  fun_induction contextsFrom x cs generalizing ns with
  | case1 x =>
    exact iff_of_true (agrees_nil _ _) (not_negativeAfterMinus_nil ns)
  -- a quote in code opens a literal, and the scanner substitutes nothing in a literal
  | case2 cs ih =>
    refine keepsContextsFrom_keep rfl (by simp) rfl (by simp) (ih ?_ (Or.inr rfl) ns)
    exact fun y hy => h y (by simp [hy])
  | case7 c cs h1 h2 h3 h4 h5 ih =>
    refine keepsContextsFrom_code ⟨h1, h2⟩ ?_ (ih ?_ (Or.inl rfl))
    · rintro e he hopen
      obtain ⟨ds, rfl⟩ := List.head?_eq_some_iff.mp he
      rcases hopen with ⟨rfl, rfl⟩ | ⟨rfl, rfl | rfl⟩
      · exact h3 ds rfl rfl
      · exact h4 ds rfl rfl
      · exact h5 ds rfl rfl
    · exact fun y hy => h y (by simp [hy])
  | case8 cs ih =>
    refine keepsContextsFrom_doubled (ih ?_ (Or.inr rfl) ns)
    exact fun y hy => h y (by simp [hy])
  | case9 cs h1 ih =>
    refine keepsContextsFrom_close ?_ (ih ?_ (Or.inl rfl) ns)
    · intro hhead
      obtain ⟨ds, rfl⟩ := List.head?_eq_some_iff.mp hhead
      exact h1 ds rfl
    · exact fun y hy => h y (by simp [hy])
  | case10 c cs h1 h2 ih =>
    refine keepsContextsFrom_literal h2 (ih ?_ (Or.inr rfl) ns)
    exact fun y hy => h y (by simp [hy])
  -- every other case opens a quoted identifier or a comment, or starts in one
  | _ => simp_all

/-! ### Interpolation of numbers -/

/-- For every character of the interpolated text, the template position it is
copied from, and `none` for a character of a parameter. -/
def interpolationOrigins (sql : String) (params : List Value) : List (Option ℕ) :=
  origins (sql.toList.zip (quoteMarks false sql.toList)) (params.map formatChars)

/-- At every character interpolation copies from the template, the output has the
context the template has there. -/
def KeepsContexts (sql : String) (params : List Value) : Prop :=
  Agrees (interpolationOrigins sql params) (sqlContexts (interpolateParams sql params))
    (sqlContexts sql)

/-- **Numbers keep the contexts of a plain template exactly when no negative one
comes directly behind a `-`.** Then everything that is left of the template is code
or literal text, as it is in the template; otherwise the two minus signs open a
comment. -/
theorem keepsContexts_iff_no_negative_after_minus (sql : String) (params : List Value)
    (hplain : PlainFrom .code sql.toList) (hint : ∀ v ∈ params, v.integer?.isSome) :
    KeepsContexts sql params ↔
      ∀ (i : ℕ) (v : Value) (n : ℤ), sql.toList[i]? = some '-' → IsPlaceholder sql (i + 1) →
        params[placeholdersBefore sql (i + 1)]? = some v → v.integer? = some n → 0 ≤ n := by
  obtain ⟨ns, hns, htexts⟩ := map_formatChars_of_integers hint
  have hmarks : quoteMarks false sql.toList = marksFrom .code sql.toList :=
    quoteMarks_eq_placeholderMarks hplain (Or.inl rfl)
  -- the scanner marks the placeholders, so the statement is about the lexer alone
  have hkeeps : KeepsContexts sql params ↔ KeepsContextsFrom .code sql.toList ns := by
    rw [KeepsContexts, interpolationOrigins, sqlContexts, interpolateParams_eq_fill, sqlContexts,
      hmarks, htexts, KeepsContextsFrom]
  rw [hkeeps, keepsContextsFrom_iff hplain (Or.inl rfl)]
  have hparam : ∀ (k : ℕ) (n : ℤ), ns[k]? = some n ↔
      ∃ v : Value, params[k]? = some v ∧ v.integer? = some n := by
    intro k n
    have h := congrArg (fun l => l[k]?) hns
    simp only [List.getElem?_map] at h
    cases hv : params[k]? <;> cases hn : ns[k]? <;> simp_all
  constructor
  · intro h i v n hi hmark hv hn
    by_contra hneg
    exact h ⟨i, n, hi, placeholderMarks_getElem?_eq_true.mpr hmark, (hparam _ _).mpr ⟨v, hv, hn⟩,
      by omega⟩
  · rintro h ⟨i, n, hi, hmark, hn, hneg⟩
    obtain ⟨v, hv, hvn⟩ := (hparam _ _).mp hn
    have := h i v n hi (placeholderMarks_getElem?_eq_true.mp hmark) hv hvn
    omega

/-- A template with a `-` before its placeholder, and a number that is not negative. -/
theorem keepsContexts_minus_positive : KeepsContexts "SELECT a-? FROM t" [.int 1] := by
  refine (keepsContexts_iff_no_negative_after_minus _ _ ?_ (by decide)).mpr ?_
  · unfold PlainFrom
    decide
  · rintro i v n - - hv hn
    obtain rfl : v = .int 1 := List.mem_singleton.mp (List.mem_of_getElem? hv)
    obtain rfl : (1 : ℤ) = n := Option.some.inj hn
    decide

/-- With `-1` the rest of the statement is a comment. -/
theorem not_keepsContexts_minus_negative :
    PlainFrom .code "DELETE FROM t WHERE a = 5-? AND b = 1".toList ∧
      ¬KeepsContexts "DELETE FROM t WHERE a = 5-? AND b = 1" [.int (-1)] := by
  refine ⟨by unfold PlainFrom; decide, fun h => ?_⟩
  exact absurd (h 29 28 (by decide)) (by decide)

end CubridDriver
