import CubridDriver.Lib.Transducer
import CubridDriver.Interpolate

/-!
# The items of SQL text

What a database makes of a SQL text begins with its items: words, literals, comments, and single
characters. `CubridDriver.sqlLexer` reads them by the lexical rules of `CubridDriver.contextsFrom`,
and decodes the literals, along with the word in front of a quote that tells the type of the
literal, as in `DATE'2024-01-02'`.

A parameter has items of its own, `CubridDriver.Value.items`, and the text that the driver writes
for it means these items (`CubridDriver.means_formatChars`), as long as what follows does not
join with it.
-/

namespace CubridDriver

open NumText Transducer

/-! ### Items -/

/-- An item of SQL text. -/
inductive SqlItem
  /-- A character that is an item of its own. -/
  | char (c : Char)
  /-- A word: a name, a keyword or a number. -/
  | word (w : List Char)
  /-- A literal, with the word in front of it. -/
  | literal (kind content : List Char)
  /-- A literal that is not closed. -/
  | unclosed (kind content : List Char)
  /-- An identifier in double quotes. -/
  | identifier (name : List Char)
  /-- A comment. -/
  | comment
  /-- A question mark. -/
  | placeholder
  deriving DecidableEq, Repr

/-- A single character. -/
def SqlItem.isChar : SqlItem → Bool
  | .char _ => true
  | _ => false

/-- Neither a quoted identifier nor a comment. -/
def SqlItem.isPlain : SqlItem → Bool
  | .identifier _ | .comment => false
  | _ => true

/-! ### The lexer -/

/-- The characters of a word. A number is a word, and so is a name with the name of its table. -/
def isWordChar (c : Char) : Bool :=
  c.isAlphanum || c = '_' || c = '.' || c = '#' || c = '$' || c = '@' || 128 ≤ c.toNat

/-- The words that tell the type of the literal behind them, in any case. -/
def isLiteralKind (w : List Char) : Bool :=
  ["X", "B", "N", "DATE", "TIME", "TIMESTAMP", "DATETIME"].contains
    (String.ofList (w.map Char.toUpper))

/-- Where the lexer is. -/
inductive SqlState
  /-- Between items. -/
  | code
  /-- Behind a `-`. -/
  | dash
  /-- Behind a `/`. -/
  | slash
  /-- In a word. -/
  | word (w : List Char)
  /-- In a literal. -/
  | literal (kind content : List Char)
  /-- Behind a quote in a literal. -/
  | quote (kind content : List Char)
  /-- In a quoted identifier. -/
  | identifier (name : List Char)
  /-- In a comment that ends with the line. -/
  | lineComment
  /-- In a comment that ends with `*/`, behind a `*` or not. -/
  | blockComment (star : Bool)
  deriving DecidableEq

namespace SqlState

/-- Begin an item. -/
def start (c : Char) : List SqlItem × SqlState :=
  if c = '\'' then ([], .literal [] [])
  else if c = '"' then ([], .identifier [])
  else if c = '-' then ([], .dash)
  else if c = '/' then ([], .slash)
  else if c = '?' then ([.placeholder], .code)
  else if isWordChar c then ([], .word [c])
  else ([.char c], .code)

/-- End an item, and begin another one. -/
def next (item : SqlItem) (c : Char) : List SqlItem × SqlState :=
  ([item] ++ (start c).1, (start c).2)

/-- Read a character. -/
def step : SqlState → Char → List SqlItem × SqlState
  | .code, c => start c
  | .dash, c => if c = '-' then ([], .lineComment) else next (.char '-') c
  | .slash, c =>
      if c = '/' then ([], .lineComment)
      else if c = '*' then ([], .blockComment false)
      else next (.char '/') c
  | .word w, c =>
      if isWordChar c then ([], .word (w ++ [c]))
      else if c = '\'' ∧ isLiteralKind w then ([], .literal w [])
      else next (.word w) c
  | .literal kind content, c =>
      if c = '\'' then ([], .quote kind content) else ([], .literal kind (content ++ [c]))
  | .quote kind content, c =>
      if c = '\'' then ([], .literal kind (content ++ ['\''])) else next (.literal kind content) c
  | .identifier name, c =>
      if c = '"' then ([.identifier name], .code) else ([], .identifier (name ++ [c]))
  | .lineComment, c => if c = '\n' then ([.comment], .code) else ([], .lineComment)
  | .blockComment star, c =>
      if star ∧ c = '/' then ([.comment], .code) else ([], .blockComment (c = '*'))

/-- End the text. -/
def finish : SqlState → List SqlItem
  | .code => []
  | .dash => [.char '-']
  | .slash => [.char '/']
  | .word w => [.word w]
  | .literal kind content => [.unclosed kind content]
  | .quote kind content => [.literal kind content]
  | .identifier name => [.identifier name]
  | .lineComment | .blockComment _ => [.comment]

end SqlState

/-- The lexer of SQL text. -/
def sqlLexer : Transducer SqlState Char SqlItem := ⟨SqlState.step, SqlState.finish⟩

/-- The items of a SQL text. -/
def sqlItems (sql : String) : List SqlItem := sqlLexer.run .code sql.toList

example : sqlItems "a=-5 -- ?" =
    [.word ['a'], .char '=', .char '-', .word ['5'], .char ' ', .comment] := by decide

/-! ### What may follow an item -/

/-- The character joins with a word, or with a literal. -/
def JoinsItem (c : Char) : Prop := isWordChar c = true ∨ c = '\''

instance : DecidablePred JoinsItem := fun _ => inferInstanceAs (Decidable (_ ∨ _))

theorem waits_word (w : List Char) :
    sqlLexer.Waits JoinsItem (.word w) [.word w] .code := by
  refine ⟨fun {c} hc => ?_, rfl⟩
  obtain ⟨hword, hquote⟩ := not_or.mp hc
  change SqlState.step (.word w) c = _
  rw [SqlState.step, if_neg hword, if_neg fun h => hquote h.1]
  rfl

theorem waits_quote (kind content : List Char) :
    sqlLexer.Waits JoinsItem (.quote kind content) [.literal kind content] .code := by
  refine ⟨fun {c} hc => ?_, rfl⟩
  change SqlState.step (.quote kind content) c = _
  rw [SqlState.step, if_neg fun h => hc (.inr h)]
  rfl

theorem waits_dash : sqlLexer.Waits (· = '-') .dash [.char '-'] .code := by
  refine ⟨fun {c} hc => ?_, rfl⟩
  change SqlState.step .dash c = _
  rw [SqlState.step, if_neg hc]
  rfl

theorem waits_slash : sqlLexer.Waits (fun c => c = '/' ∨ c = '*') .slash [.char '/'] .code := by
  refine ⟨fun {c} hc => ?_, rfl⟩
  obtain ⟨hslash, hstar⟩ := not_or.mp hc
  change SqlState.step .slash c = _
  rw [SqlState.step, if_neg hslash, if_neg hstar]
  rfl

/-! ### Words and literals -/

/-- The characters of a word begin no other item. -/
theorem start_wordChar {c : Char} (hc : isWordChar c = true) :
    SqlState.start c = ([], .word [c]) := by
  have hne : ∀ d : Char, isWordChar d = false → c ≠ d := by
    rintro d hd rfl
    exact Bool.false_ne_true (hd.symm.trans hc)
  rw [SqlState.start, if_neg (hne _ (by decide)), if_neg (hne _ (by decide)),
    if_neg (hne _ (by decide)), if_neg (hne _ (by decide)), if_neg (hne _ (by decide)), if_pos hc]

theorem reads_word {w cs : List Char} (hcs : ∀ c ∈ cs, isWordChar c = true) :
    sqlLexer.Reads (.word w) cs [] (.word (w ++ cs)) := by
  induction cs generalizing w with
  | nil => rw [List.append_nil]; exact reads_nil
  | cons c cs ih =>
    have hstep : sqlLexer.step (.word w) c = ([], .word (w ++ [c])) := if_pos (hcs c (by simp))
    have hrest := ih (w := w ++ [c]) fun d hd => hcs d (List.mem_cons_of_mem _ hd)
    rw [List.append_assoc] at hrest
    exact Reads.cons hstep hrest

/-- A word that is begun. -/
theorem reads_code_word {w : List Char} (hne : w ≠ []) (hw : ∀ c ∈ w, isWordChar c = true) :
    sqlLexer.Reads .code w [] (.word w) := by
  obtain ⟨c, cs, rfl⟩ := List.exists_cons_of_ne_nil hne
  exact Reads.cons (start_wordChar (hw c (by simp)))
    (reads_word (w := [c]) fun d hd => hw d (List.mem_cons_of_mem _ hd))

/-- **A word means itself.** -/
theorem means_word {w : List Char} (hne : w ≠ []) (hw : ∀ c ∈ w, isWordChar c = true) :
    sqlLexer.Means JoinsItem .code w [.word w] :=
  ⟨[], _, _, reads_code_word hne hw, waits_word w, rfl⟩

/-- A word behind a minus sign. -/
theorem means_dash_word {w : List Char} (hne : w ≠ []) (hw : ∀ c ∈ w, isWordChar c = true) :
    sqlLexer.Means JoinsItem .code ('-' :: w) [.char '-', .word w] := by
  obtain ⟨c, cs, rfl⟩ := List.exists_cons_of_ne_nil hne
  have hc : isWordChar c = true := hw c (by simp)
  have hdash : sqlLexer.step .dash c = ([.char '-'], .word [c]) := by
    have hne : c ≠ '-' := by
      rintro rfl
      exact absurd hc (by decide)
    rw [waits_dash.step hne]
    change (_ ++ (SqlState.start c).1, (SqlState.start c).2) = _
    rw [start_wordChar hc]
    rfl
  refine ⟨[.char '-'], _, _, ?_, waits_word (c :: cs), rfl⟩
  exact Reads.cons rfl ((reads_symbol hdash).append
    (reads_word (w := [c]) fun d hd => hw d (List.mem_cons_of_mem _ hd)))

/-- The quotes of a text are doubled. -/
def doubled (s : List Char) : List Char := s.flatMap fun c => if c = '\'' then ['\'', '\''] else [c]

theorem doubled_eq_self {s : List Char} (h : '\'' ∉ s) : doubled s = s := by
  induction s with
  | nil => rfl
  | cons c s ih =>
    have hc : c ≠ '\'' := fun hc => h (by simp [hc])
    have hs : '\'' ∉ s := fun hs => h (List.mem_cons_of_mem _ hs)
    rw [doubled, List.flatMap_cons, if_neg hc]
    exact congrArg (c :: ·) (ih hs)

/-- **What is doubled is decoded.** -/
theorem reads_doubled (kind acc s : List Char) :
    sqlLexer.Reads (.literal kind acc) (doubled s) [] (.literal kind (acc ++ s)) := by
  induction s generalizing acc with
  | nil => rw [List.append_nil]; exact reads_nil
  | cons c s ih =>
    have hrest := ih (acc ++ [c])
    rw [List.append_assoc] at hrest
    rw [doubled, List.flatMap_cons]
    by_cases hc : c = '\''
    · subst hc
      rw [if_pos rfl]
      exact Reads.cons rfl (Reads.cons rfl hrest)
    · rw [if_neg hc]
      exact Reads.cons (if_neg hc) hrest

/-- A literal, from its opening quote on. -/
theorem reads_literal (kind s : List Char) :
    sqlLexer.Reads (.literal kind []) (doubled s ++ ['\'']) [] (.quote kind s) :=
  (reads_doubled kind [] s).append (reads_symbol rfl)

/-- **A string means a literal.** -/
theorem means_literal (s : List Char) :
    sqlLexer.Means JoinsItem .code ('\'' :: doubled s ++ ['\'']) [.literal [] s] :=
  ⟨[], _, _, Reads.cons rfl (reads_literal [] s), waits_quote [] s, rfl⟩

/-- **A literal behind the word that tells its type.** -/
theorem means_kind_literal {kind s : List Char} (hne : kind ≠ [])
    (hkind : ∀ c ∈ kind, isWordChar c = true) (hlit : isLiteralKind kind = true) (hs : '\'' ∉ s) :
    sqlLexer.Means JoinsItem .code (kind ++ '\'' :: (s ++ ['\''])) [.literal kind s] := by
  have hquote : sqlLexer.step (.word kind) '\'' = ([], .literal kind []) := by
    change SqlState.step (.word kind) '\'' = _
    rw [SqlState.step, if_neg (by decide), if_pos ⟨rfl, hlit⟩]
  have hread := reads_literal kind s
  rw [doubled_eq_self hs] at hread
  exact ⟨[], _, _, (reads_code_word hne hkind).append (Reads.cons hquote hread),
    waits_quote kind s, rfl⟩

/-! ### The items of a parameter -/

/-- A number: a word, with a minus sign in front or without. -/
def numberItems : List Char → List SqlItem
  | '-' :: w => [.char '-', .word w]
  | w => [.word w]

/-- The items that a parameter stands for. -/
def Value.items : Value → List SqlItem
  | .null => [.word "NULL".toList]
  | .bool v => [.word [if v then '1' else '0']]
  | .short v => numberItems (intText v.toInt)
  | .int v => numberItems (intText v.toInt)
  | .long v => numberItems (intText v.toInt)
  | .float bits => numberItems (floatText binary32 bits.toNat)
  | .double bits => numberItems (floatText binary64 bits.toNat)
  | .string v => [.literal [] v.toList]
  | .bytes v => [.literal "X".toList (v.flatMap hexText)]
  | .date year month day => [.literal "DATE".toList (formatChars.dateChars year month day)]
  | .time hour minute second =>
      [.literal "TIME".toList (formatChars.timeChars hour minute second)]
  | .timestamp year month day hour minute second =>
      [.literal "TIMESTAMP".toList (formatChars.dateChars year month day ++
        ' ' :: formatChars.timeChars hour minute second)]
  | .datetime year month day hour minute second ms =>
      [.literal "DATETIME".toList (formatChars.dateChars year month day ++
        ' ' :: formatChars.timeChars hour minute second ++ '.' :: paddedText 3 ms.toInt)]

theorem isWordChar_of_isNumberSymbol {c : Char} (h : IsNumberSymbol c) : isWordChar c = true := by
  rcases h with h | rfl
  · simp [isWordChar, h]
  · decide

theorem means_number {text : List Char} (h : IsNumberText text) :
    sqlLexer.Means JoinsItem .code text (numberItems text) := by
  obtain ⟨w, hne, hw, htext⟩ := h
  have hword : ∀ c ∈ w, isWordChar c = true := fun c hc => isWordChar_of_isNumberSymbol (hw c hc)
  rcases htext with rfl | rfl
  · have hitems : numberItems text = [.word text] := by
      rw [numberItems]
      rintro ds rfl
      exact absurd (hword '-' (by simp)) (by decide)
    rw [hitems]
    exact means_word hne hword
  · exact means_dash_word hne hword

theorem quote_not_mem_paddedText (width : ℕ) (i : ℤ) : '\'' ∉ paddedText width i := by
  intro h
  rcases mem_paddedText h with h | h
  · exact absurd h (by decide)
  · exact absurd h (by decide)

theorem quote_not_mem_dateChars (year month day : Int16) :
    '\'' ∉ formatChars.dateChars year month day := by
  simp [formatChars.dateChars, quote_not_mem_paddedText]

theorem quote_not_mem_timeChars (hour minute second : Int16) :
    '\'' ∉ formatChars.timeChars hour minute second := by
  simp [formatChars.timeChars, quote_not_mem_paddedText]

theorem quote_not_mem_hexText (v : List UInt8) : '\'' ∉ v.flatMap hexText := by
  intro h
  obtain ⟨b, -, hb⟩ := List.mem_flatMap.mp h
  have hne : ∀ n < 16, Nat.digitChar n ≠ '\'' := by decide
  have hlow : b.toNat % 16 < 16 := Nat.mod_lt _ (by decide)
  have hhigh : b.toNat / 16 < 16 := Nat.div_lt_of_lt_mul b.toNat_lt
  rcases List.mem_cons.mp hb with hb | hb
  · exact hne _ hhigh hb.symm
  · exact hne _ hlow (List.mem_singleton.mp hb).symm

/-- A literal whose type is told by a word of capital letters. -/
theorem means_kind {kind : String} {s text : List Char} (hne : kind.toList ≠ [])
    (hkind : kind.toList.all isWordChar = true) (hlit : isLiteralKind kind.toList = true)
    (hs : '\'' ∉ s) (htext : text = kind.toList ++ '\'' :: (s ++ ['\''])) :
    sqlLexer.Means JoinsItem .code text [.literal kind.toList s] :=
  htext ▸ means_kind_literal hne (List.all_eq_true.mp hkind) hlit hs

/-- **The text of a parameter means the items that the parameter stands for**, whatever the
parameter. -/
theorem means_formatChars (v : Value) : sqlLexer.Means JoinsItem .code (formatChars v) v.items := by
  have hint : ∀ i : ℤ, sqlLexer.Means JoinsItem .code (intText i) (numberItems (intText i)) :=
    fun i => means_number (isNumberText_intText i)
  cases v with
  | null => exact means_word (by decide) (List.all_eq_true.mp rfl)
  | bool v => exact means_word (List.cons_ne_nil _ _) (List.all_eq_true.mp (by cases v <;> rfl))
  | short v => exact hint _
  | int v => exact hint _
  | long v => exact hint _
  | float bits => exact means_number (isNumberText_floatText (by decide) _)
  | double bits => exact means_number (isNumberText_floatText (by decide) _)
  | string v => exact means_literal v.toList
  | bytes v =>
    exact means_kind (by decide) (by decide) (by decide) (quote_not_mem_hexText v) rfl
  | date year month day =>
    exact means_kind (by decide) (by decide) (by decide) (quote_not_mem_dateChars _ _ _)
      (List.append_assoc "DATE'".toList _ _)
  | time hour minute second =>
    exact means_kind (by decide) (by decide) (by decide) (quote_not_mem_timeChars _ _ _)
      (List.append_assoc "TIME'".toList _ _)
  | timestamp year month day hour minute second =>
    refine means_kind (by decide) (by decide) (by decide) ?_ ?_
    · simp [quote_not_mem_dateChars, quote_not_mem_timeChars]
    · change "TIMESTAMP'".toList ++ _ ++ _ ++ ['\''] = "TIMESTAMP'".toList ++ (_ ++ _ ++ ['\''])
      rw [List.append_assoc "TIMESTAMP'".toList, List.append_assoc "TIMESTAMP'".toList]
  | datetime year month day hour minute second ms =>
    refine means_kind (by decide) (by decide) (by decide) ?_ ?_
    · simp [quote_not_mem_dateChars, quote_not_mem_timeChars, quote_not_mem_paddedText]
    · change "DATETIME'".toList ++ _ ++ _ ++ _ ++ ['\''] =
        "DATETIME'".toList ++ (_ ++ _ ++ _ ++ ['\''])
      rw [List.append_assoc "DATETIME'".toList, List.append_assoc "DATETIME'".toList,
        List.append_assoc "DATETIME'".toList]

/-- The parameter is written with a minus sign in front. -/
def Value.isNegative (v : Value) : Bool := .char '-' ∈ v.items

theorem head_number {text : List Char} (h : IsNumberText text) {c : Char} (hc : c ∈ text.head?) :
    JoinsItem c ∨ c = '-' ∧ .char '-' ∈ numberItems text := by
  obtain ⟨w, hne, hw, rfl | rfl⟩ := h
  · exact .inl (.inl (isWordChar_of_isNumberSymbol (hw c (List.mem_of_mem_head? hc))))
  · exact .inr ⟨(Option.some.inj hc).symm, List.mem_cons_self⟩

/-- **How the text of a parameter begins**: with a character of a word, with a quote, or, if it
is negative, with a minus sign. -/
theorem head_formatChars {v : Value} {c : Char} (hc : c ∈ (formatChars v).head?) :
    JoinsItem c ∨ c = '-' ∧ v.isNegative = true := by
  have hnumber : ∀ {text : List Char}, formatChars v = text → v.items = numberItems text →
      IsNumberText text → JoinsItem c ∨ c = '-' ∧ v.isNegative = true := by
    rintro text rfl hitems htext
    rw [Value.isNegative, hitems]
    exact (head_number htext hc).imp_right fun h => ⟨h.1, decide_eq_true h.2⟩
  cases v with
  | bool v =>
    obtain rfl := Option.some.inj hc
    exact .inl (.inl (by cases v <;> decide))
  | short v => exact hnumber rfl rfl (isNumberText_intText _)
  | int v => exact hnumber rfl rfl (isNumberText_intText _)
  | long v => exact hnumber rfl rfl (isNumberText_intText _)
  | float bits => exact hnumber rfl rfl (isNumberText_floatText (by decide) _)
  | double bits => exact hnumber rfl rfl (isNumberText_floatText (by decide) _)
  | string v =>
    obtain rfl := Option.some.inj hc
    exact .inl (.inr rfl)
  | _ =>
    obtain rfl := Option.some.inj hc
    exact .inl (.inl (by decide))

end CubridDriver
