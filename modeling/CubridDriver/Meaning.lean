import CubridDriver.SqlItems
import Mathlib.Data.List.Chain

/-!
# What an interpolated text means

A database that took bind parameters would read the items of the template, and find a parameter
where a placeholder stands. The driver sends a text without placeholders. By
`CubridDriver.interpolateParams_means` the two are the same: the items of the text are those of
the template, with the items of each parameter in the place of its placeholder. What these items
are read as is said in `CubridDriver.Literals`.

This is asked of the template: that it has no comment and no quoted identifier, that its
placeholders stand apart from words, literals and each other, and that none stands right behind
a minus sign if a negative number is among the parameters.
-/

namespace CubridDriver

open Template NumText Transducer

/-! ### Templates -/

/-- Two items stand apart when a placeholder meets no more than a single character, and a minus
sign does not meet a placeholder if there are negative parameters. -/
def SqlItem.Apart (negative : Bool) (a b : SqlItem) : Prop :=
  (a = .placeholder → b.isChar = true) ∧
    (b = .placeholder → a.isChar = true ∧ (negative = true → a ≠ .char '-'))

instance (negative : Bool) : DecidableRel (SqlItem.Apart negative) :=
  fun _ _ => inferInstanceAs (Decidable (_ ∧ _))

/-- The items with the placeholders filled: the `i`-th one by the items of the `i`-th parameter,
the surplus ones left as they are. -/
def fillItems (ts : List SqlItem) (params : List Value) : List SqlItem :=
  fill (ts.map fun t => (t, decide (t = .placeholder))) (params.map Value.items)

section Fill

variable {out ts : List SqlItem} {params : List Value}

theorem fillItems_append (h : (∀ t ∈ out, t ≠ .placeholder) ∨ params = []) :
    fillItems (out ++ ts) params = out ++ fillItems ts params := by
  rw [fillItems, List.map_append, fill_append_of_keep]
  · rw [List.map_map]
    exact congrArg (· ++ _) (List.map_id out)
  · refine h.imp (fun hout p hp => ?_) fun hparams => by rw [hparams]; rfl
    obtain ⟨t, ht, rfl⟩ := List.mem_map.mp hp
    exact decide_eq_false (hout t ht)

theorem fillItems_self (h : ∀ t ∈ out, t ≠ .placeholder) : fillItems out params = out := by
  have hnil : fillItems [] params = [] := fill_nil _
  have happend : fillItems (out ++ []) params = out ++ fillItems [] params :=
    fillItems_append (.inl h)
  rwa [hnil, List.append_nil] at happend

end Fill

/-! ### What the state of the lexer tells -/

namespace SqlState

/-- The lexer is in a literal. -/
def inLiteral : SqlState → Bool
  | .literal _ _ => true
  | _ => false

/-- The lexer is neither in a quoted identifier nor in a comment. -/
def isPlain : SqlState → Bool
  | .identifier _ | .lineComment | .blockComment _ => false
  | _ => true

/-- The lexer is in a word or in a literal, or at its end. -/
def isWithin : SqlState → Bool
  | .word _ | .literal _ _ | .quote _ _ => true
  | _ => false

/-- Only a quote begins a literal. -/
theorem inLiteral_start (c : Char) : (start c).2.inLiteral = decide (c = '\'') := by
  rw [start]
  by_cases hc : c = '\''
  · rw [if_pos hc]
    exact (decide_eq_true hc).symm
  · rw [if_neg hc, decide_eq_false hc]
    repeat' split
    all_goals rfl

/-- A quote takes the lexer into a literal or out of one; nothing else does. -/
theorem inLiteral_step {s : SqlState} (hs : s.isPlain = true) (c : Char) :
    (s.step c).2.inLiteral = if c = '\'' then !s.inLiteral else s.inLiteral := by
  have hstart := inLiteral_start c
  by_cases hc : c = '\''
  · subst hc
    cases s with
    | word w =>
      rw [step, if_neg (by decide)]
      split
      · rfl
      · exact hstart
    | identifier name => cases hs
    | lineComment => cases hs
    | blockComment star => cases hs
    | _ => rfl
  · rw [if_neg hc]
    rw [decide_eq_false hc] at hstart
    cases s with
    | code => exact hstart
    | dash =>
      rw [step]
      split
      · rfl
      · exact hstart
    | slash =>
      rw [step]
      repeat' split
      · rfl
      · rfl
      · exact hstart
    | word w =>
      rw [step]
      split
      · rfl
      · rw [if_neg fun h => hc h.1]
        exact hstart
    | literal kind content =>
      rw [step, if_neg hc]
      rfl
    | quote kind content =>
      rw [step, if_neg hc]
      exact hstart
    | identifier name => cases hs
    | lineComment => cases hs
    | blockComment star => cases hs

/-- A comment or a quoted identifier that has been begun is an item in the end. -/
theorem exists_not_plain {s : SqlState} (hs : s.isPlain = false) (cs : List Char) :
    ∃ t ∈ sqlLexer.run s cs, t.isPlain = false := by
  induction cs generalizing s with
  | nil =>
    cases s with
    | identifier name => exact ⟨.identifier name, List.mem_singleton_self _, rfl⟩
    | lineComment => exact ⟨.comment, List.mem_singleton_self _, rfl⟩
    | blockComment star => exact ⟨.comment, List.mem_singleton_self _, rfl⟩
    | _ => cases hs
  | cons c cs ih =>
    -- it goes on, or it ends with this character
    have hstep : (∃ t ∈ (s.step c).1, t.isPlain = false) ∨ (s.step c).2.isPlain = false := by
      cases s with
      | identifier name =>
        rw [step]
        split
        · exact .inl ⟨_, List.mem_singleton_self _, rfl⟩
        · exact .inr rfl
      | lineComment =>
        rw [step]
        split
        · exact .inl ⟨_, List.mem_singleton_self _, rfl⟩
        · exact .inr rfl
      | blockComment star =>
        rw [step]
        split
        · exact .inl ⟨_, List.mem_singleton_self _, rfl⟩
        · exact .inr rfl
      | _ => cases hs
    rcases hstep with ⟨t, ht, hplain⟩ | hplain
    · exact ⟨t, List.mem_append_left _ ht, hplain⟩
    · obtain ⟨t, ht, hplain⟩ := ih hplain
      exact ⟨t, List.mem_append_right _ ht, hplain⟩

/-- A word or a literal that has been begun is the next item. -/
theorem exists_head_run {s : SqlState} (hs : s.isWithin = true) (cs : List Char) :
    ∃ t, (sqlLexer.run s cs).head? = some t ∧ t.isChar = false := by
  induction cs generalizing s with
  | nil =>
    cases s with
    | word w => exact ⟨.word w, rfl, rfl⟩
    | literal kind content => exact ⟨.unclosed kind content, rfl, rfl⟩
    | quote kind content => exact ⟨.literal kind content, rfl, rfl⟩
    | _ => cases hs
  | cons c cs ih =>
    have hstep : (∃ t rest, (s.step c).1 = t :: rest ∧ t.isChar = false) ∨
        (s.step c).1 = [] ∧ (s.step c).2.isWithin = true := by
      cases s with
      | word w =>
        rw [step]
        repeat' split
        · exact .inr ⟨rfl, rfl⟩
        · exact .inr ⟨rfl, rfl⟩
        · exact .inl ⟨_, _, rfl, rfl⟩
      | literal kind content =>
        rw [step]
        split
        · exact .inr ⟨rfl, rfl⟩
        · exact .inr ⟨rfl, rfl⟩
      | quote kind content =>
        rw [step]
        split
        · exact .inr ⟨rfl, rfl⟩
        · exact .inl ⟨_, _, rfl, rfl⟩
      | _ => cases hs
    change ∃ t, ((s.step c).1 ++ sqlLexer.run (s.step c).2 cs).head? = some t ∧ t.isChar = false
    rcases hstep with ⟨t, rest, hout, ht⟩ | ⟨hout, hwithin⟩
    · exact ⟨t, by rw [hout]; rfl, ht⟩
    · rw [hout]
      exact ih hwithin

end SqlState

/-! ### The text that is written -/

section Written

variable {negative : Bool} {s : SqlState} {c : Char} {cs : List Char} {v : Value}
  {params : List Value}

/-- The characters that the scanner writes for a text that starts in a literal or not. -/
def writtenText (inLiteral : Bool) (cs : List Char) (params : List Value) : List Char :=
  fill (cs.zip (quoteMarks inLiteral cs)) (params.map formatChars)

/-- A character that is no placeholder, or for which no parameter is left. -/
theorem writtenText_keep {b : Bool} (h : b = false → c = '?' → params = []) :
    writtenText b (c :: cs) params =
      c :: writtenText (if c = '\'' then !b else b) cs params := by
  refine fill_of_keep fun hmark => ?_
  obtain ⟨hb, hc⟩ : (!b) = true ∧ c = '?' := by simpa using hmark
  rw [h (by simpa using hb) hc]
  rfl

/-- What comes to stand behind a placeholder does not join with its parameter, since a single
character stands there. -/
theorem head_behind_placeholder
    (h : ∀ t ∈ (sqlLexer.run .code cs).head?, t.isChar = true) :
    ∀ c ∈ (writtenText false cs params).head?, ¬JoinsItem c := by
  cases cs with
  | nil => nofun
  | cons c cs =>
    have hwithin : (SqlState.start c).1 = [] → (SqlState.start c).2.isWithin = false := by
      intro hout
      refine Bool.eq_false_iff.mpr fun hin => ?_
      obtain ⟨t, ht, hchar⟩ := SqlState.exists_head_run hin cs
      have hhead : (sqlLexer.run .code (c :: cs)).head? = some t := by
        change ((SqlState.start c).1 ++ sqlLexer.run (SqlState.start c).2 cs).head? = some t
        rw [hout]
        exact ht
      exact Bool.false_ne_true (hchar.symm.trans (h t hhead))
    have hjoins : ¬JoinsItem c := by
      rintro (hword | rfl)
      · rw [start_wordChar hword] at hwithin
        cases hwithin rfl
      · cases hwithin rfl
    have hquestion : c ≠ '?' := by
      rintro rfl
      cases h .placeholder rfl
    rw [writtenText_keep fun _ hc => absurd hc hquestion]
    intro d hd
    obtain rfl := Option.some.inj hd
    exact hjoins

/-- An item that may stand in front of a placeholder. -/
def SqlItem.Leads (negative : Bool) (t : SqlItem) : Prop :=
  t.isChar = true ∧ (negative = true → t ≠ .char '-')

/-- The placeholder and the item in front of it stand apart, and so do the placeholder and the
item behind it. -/
theorem apart_placeholder {out : List SqlItem}
    (h : (out ++ .placeholder :: sqlLexer.run .code cs).IsChain (SqlItem.Apart negative)) :
    (∀ t ∈ out.getLast?, t.Leads negative) ∧
      ∀ t ∈ (sqlLexer.run .code cs).head?, t.isChar = true := by
  obtain ⟨-, hright, hmeet⟩ := List.isChain_append.mp h
  exact ⟨fun t ht => (hmeet t ht .placeholder rfl).2 rfl, fun t ht => (hright.rel_head? ht).1 rfl⟩

/-- **At a placeholder**, where the lexer waits with what it has read: the text of the parameter
does not join with it, and what follows does not join with the parameter. -/
theorem run_placeholder {Joins : Char → Prop} {waiting : List SqlItem}
    (hwaits : sqlLexer.Waits Joins s waiting .code) (hjoins : ¬Joins '?')
    (hwaiting : ∀ t ∈ waiting, t ≠ .placeholder)
    (hv : (∀ t ∈ waiting.getLast?, t.Leads negative) → ∀ c ∈ (formatChars v).head?, ¬Joins c)
    (hplain : ∀ t ∈ sqlLexer.run s ('?' :: cs), t.isPlain = true)
    (hapart : (sqlLexer.run s ('?' :: cs)).IsChain (SqlItem.Apart negative))
    (ih : (∀ t ∈ sqlLexer.run .code cs, t.isPlain = true) →
      (sqlLexer.run .code cs).IsChain (SqlItem.Apart negative) →
      sqlLexer.run .code (writtenText false cs params) =
        fillItems (sqlLexer.run .code cs) params) :
    sqlLexer.run s (writtenText false ('?' :: cs) (v :: params)) =
      fillItems (sqlLexer.run s ('?' :: cs)) (v :: params) := by
  have hwritten : writtenText false ('?' :: cs) (v :: params) =
      formatChars v ++ writtenText false cs params := rfl
  have hquestion : ∀ c ∈ ('?' :: cs).head?, ¬Joins c := by
    intro c hc
    obtain rfl := Option.some.inj hc
    exact hjoins
  have hrun : sqlLexer.run s ('?' :: cs) = waiting ++ .placeholder :: sqlLexer.run .code cs :=
    hwaits.run hquestion
  rw [hrun] at hplain hapart ⊢
  obtain ⟨hfront, hnext⟩ := apart_placeholder hapart
  have hhead : ∀ c ∈ (formatChars v ++ writtenText false cs params).head?, ¬Joins c := by
    obtain ⟨d, ds, hd, -⟩ := exists_cons_formatChars v
    have hfirst := hv hfront
    rw [hd] at hfirst ⊢
    exact hfirst
  have hrest := ih (fun t ht => hplain t (List.mem_append_right _ (List.mem_cons_of_mem _ ht)))
    hapart.right_of_append.tail
  rw [hwritten, hwaits.run hhead, (means_formatChars v).run (head_behind_placeholder hnext),
    fillItems_append (.inl hwaiting), hrest]
  rfl

/-- **A parameter for its placeholder**, wherever the lexer is outside of literals. The item it
waits with is a single character, and the parameter begins an item of its own. -/
theorem run_parameter (hs : s.isPlain = true) (hlit : s.inLiteral = false)
    (hneg : v.isNegative = true → negative = true)
    (hplain : ∀ t ∈ sqlLexer.run s ('?' :: cs), t.isPlain = true)
    (hapart : (sqlLexer.run s ('?' :: cs)).IsChain (SqlItem.Apart negative))
    (ih : (∀ t ∈ sqlLexer.run .code cs, t.isPlain = true) →
      (sqlLexer.run .code cs).IsChain (SqlItem.Apart negative) →
      sqlLexer.run .code (writtenText false cs params) =
        fillItems (sqlLexer.run .code cs) params) :
    sqlLexer.run s (writtenText false ('?' :: cs) (v :: params)) =
      fillItems (sqlLexer.run s ('?' :: cs)) (v :: params) := by
  cases s with
  | code =>
    have hwaits : sqlLexer.Waits (fun _ => False) .code [] .code := waits_self
    exact run_placeholder hwaits id nofun (fun _ _ _ => id) hplain hapart ih
  | dash =>
    refine run_placeholder waits_dash (by decide) (by simp) ?_ hplain hapart ih
    rintro hfront c hc rfl
    rcases head_formatChars hc with hjoins | ⟨-, hminus⟩
    · exact absurd hjoins (by decide)
    · exact (hfront _ rfl).2 (hneg hminus) rfl
  | slash =>
    refine run_placeholder waits_slash (by decide) (by simp) ?_ hplain hapart ih
    rintro - c hc hcomment
    rcases hcomment with rfl | rfl
    all_goals
      rcases head_formatChars hc with hjoins | ⟨hminus, -⟩
      · exact absurd hjoins (by decide)
      · exact absurd hminus (by decide)
  | word w =>
    refine run_placeholder (waits_word w) (by decide) (by simp) ?_ hplain hapart ih
    exact fun hfront => nomatch (hfront _ rfl).1
  | quote kind content =>
    refine run_placeholder (waits_quote kind content) (by decide) (by simp) ?_ hplain hapart ih
    exact fun hfront => nomatch (hfront _ rfl).1
  | literal kind content => cases hlit
  | identifier name => cases hs
  | lineComment => cases hs
  | blockComment star => cases hs

/-- Only a question mark that is read in code is a placeholder. -/
theorem placeholder_not_mem_step (h : s.inLiteral = false → c ≠ '?') :
    ∀ t ∈ (s.step c).1, t ≠ .placeholder := by
  have hnone : ∀ t ∈ ([] : List SqlItem), t ≠ .placeholder :=
    fun t ht => absurd ht List.not_mem_nil
  have hstart : c ≠ '?' → ∀ t ∈ (SqlState.start c).1, t ≠ .placeholder := by
    intro hc
    rw [SqlState.start]
    repeat' split
    all_goals simp_all
  have hnext : ∀ {item : SqlItem}, item ≠ .placeholder → c ≠ '?' →
      ∀ t ∈ (SqlState.next item c).1, t ≠ .placeholder := by
    intro item hitem hc t ht
    rcases List.mem_append.mp ht with ht | ht
    · rwa [List.mem_singleton.mp ht]
    · exact hstart hc t ht
  cases s with
  | code => exact hstart (h rfl)
  | dash =>
    rw [SqlState.step]
    split
    · exact hnone
    · exact hnext (by simp) (h rfl)
  | slash =>
    rw [SqlState.step]
    repeat' split
    · exact hnone
    · exact hnone
    · exact hnext (by simp) (h rfl)
  | word w =>
    rw [SqlState.step]
    repeat' split
    · exact hnone
    · exact hnone
    · exact hnext (by simp) (h rfl)
  | literal kind content =>
    rw [SqlState.step]
    split <;> exact hnone
  | quote kind content =>
    rw [SqlState.step]
    split
    · exact hnone
    · exact hnext (by simp) (h rfl)
  | identifier name =>
    rw [SqlState.step]
    split <;> simp
  | lineComment =>
    rw [SqlState.step]
    split <;> simp
  | blockComment star =>
    rw [SqlState.step]
    split <;> simp

/-- **What is read of the text that is written**, from wherever the lexer and the scanner are.
The induction is on the template; the lexer is in the same state on both sides, since a
parameter ends where its placeholder does. -/
theorem run_writtenText (cs : List Char)
    (hneg : ∀ v ∈ params, v.isNegative = true → negative = true)
    (hplain : ∀ t ∈ sqlLexer.run s cs, t.isPlain = true)
    (hapart : (sqlLexer.run s cs).IsChain (SqlItem.Apart negative)) :
    sqlLexer.run s (writtenText s.inLiteral cs params) = fillItems (sqlLexer.run s cs) params := by
  induction cs generalizing s params with
  | nil =>
    have hfinish : ∀ t ∈ s.finish, t ≠ .placeholder := by
      cases s <;> simp [SqlState.finish]
    exact (fillItems_self hfinish).symm
  | cons c cs ih =>
    have hs : s.isPlain = true := by
      by_contra hnot
      obtain ⟨t, ht, hfalse⟩ := SqlState.exists_not_plain (Bool.eq_false_iff.mpr hnot) (c :: cs)
      exact Bool.false_ne_true (hfalse.symm.trans (hplain t ht))
    have hrun : sqlLexer.run s (c :: cs) = (s.step c).1 ++ sqlLexer.run (s.step c).2 cs := rfl
    by_cases hhole : s.inLiteral = false ∧ c = '?' ∧ params ≠ []
    -- a placeholder for which there is a parameter
    · obtain ⟨hlit, rfl, hne⟩ := hhole
      obtain ⟨v, params, rfl⟩ := List.exists_cons_of_ne_nil hne
      rw [hlit]
      exact run_parameter hs hlit (hneg v List.mem_cons_self) hplain hapart
        (ih fun w hw => hneg w (List.mem_cons_of_mem _ hw))
    -- any other character is kept
    · rw [writtenText_keep fun hb hc => by_contra fun hne => hhole ⟨hb, hc, hne⟩,
        ← SqlState.inLiteral_step hs c]
      have hkeep : (∀ t ∈ (s.step c).1, t ≠ .placeholder) ∨ params = [] := by
        by_cases hparams : params = []
        · exact .inr hparams
        · exact .inl (placeholder_not_mem_step fun hb hc => hhole ⟨hb, hc, hparams⟩)
      change (s.step c).1 ++ sqlLexer.run (s.step c).2 _ = _
      rw [hrun] at hplain hapart ⊢
      rw [fillItems_append hkeep, ih hneg (fun t ht => hplain t (List.mem_append_right _ ht))
        hapart.right_of_append]

end Written

/-- **An interpolated text means the template with its parameters.** In a template without
comments and quoted identifiers, in which the placeholders stand apart, the text that is sent
has the items of the template, with the items of each parameter in the place of its
placeholder. -/
theorem interpolateParams_means (sql : String) (params : List Value)
    (hplain : ∀ t ∈ sqlItems sql, t.isPlain = true)
    (hapart : (sqlItems sql).IsChain (SqlItem.Apart (params.any Value.isNegative))) :
    sqlItems (interpolateParams sql params) = fillItems (sqlItems sql) params := by
  have hneg : ∀ v ∈ params, v.isNegative = true → params.any Value.isNegative = true :=
    fun v hv hminus => List.any_eq_true.mpr ⟨v, hv, hminus⟩
  rw [sqlItems, interpolateParams_eq_fill]
  exact run_writtenText sql.toList hneg hplain hapart

/-- A string full of quotes, a negative number, and a question mark in a literal of the
template. -/
theorem interpolateParams_means_quotes :
    sqlItems (interpolateParams "a = ? AND b IN (?, '?')" [.string "' OR '?' --", .int (-7)]) =
      fillItems (sqlItems "a = ? AND b IN (?, '?')") [.string "' OR '?' --", .int (-7)] :=
  interpolateParams_means _ _ (by decide) (by decide)

end CubridDriver
