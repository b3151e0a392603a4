import Mathlib.Data.List.Basic
import Mathlib.Tactic.Common

/-!
# Words that delimit themselves

When words are written one after the other without anything between them, they can be
read back if each of them says where it ends. `SelfDelimiting S code` says so of a writer
of words: of two inputs that begin with the word of a value in `S` and are the same, the
values are the same. Then a sequence of words determines the sequence of its values
(`SelfDelimiting.eq_of_flatten`).

The usual way to get there is a length of fixed width in front of each word
(`selfDelimiting_lengthPrefixed`). Such words can be taken off a sequence one by one
(`takeWords_lengthPrefixed`).
-/

variable {α β : Type}

/-- Whatever follows, the word of a value in `S` is the word of no other value in `S`. -/
def SelfDelimiting (S : α → Prop) (code : α → List β) : Prop :=
  ∀ a b x y, S a → S b → code a ++ x = code b ++ y → a = b

namespace SelfDelimiting

variable {S : α → Prop} {code : α → List β}

/-- What follows is the same, too. -/
theorem split (h : SelfDelimiting S code) {a b : α} {x y : List β} (ha : S a) (hb : S b)
    (heq : code a ++ x = code b ++ y) : a = b ∧ x = y := by
  obtain rfl := h a b x y ha hb heq
  exact ⟨rfl, List.append_cancel_left heq⟩

/-- **Sequences of the same number of words**, whatever follows them. -/
theorem split_flatten (h : SelfDelimiting S code) : ∀ {as bs : List α} {x y : List β},
    as.length = bs.length → (∀ a ∈ as, S a) → (∀ b ∈ bs, S b) →
    (as.map code).flatten ++ x = (bs.map code).flatten ++ y → as = bs ∧ x = y
  | [], [], _, _, _, _, _, heq => ⟨rfl, heq⟩
  | [], b :: bs, _, _, hlen, _, _, _ => absurd hlen (by simp)
  | a :: as, [], _, _, hlen, _, _, _ => absurd hlen (by simp)
  | a :: as, b :: bs, x, y, hlen, has, hbs, heq => by
    rw [List.map_cons, List.map_cons, List.flatten_cons, List.flatten_cons, List.append_assoc,
      List.append_assoc] at heq
    obtain ⟨rfl, htail⟩ := h.split (has a (by simp)) (hbs b (by simp)) heq
    obtain ⟨rfl, rfl⟩ := h.split_flatten (Nat.succ.inj hlen) (fun c hc => has c (by simp [hc]))
      (fun c hc => hbs c (by simp [hc])) htail
    exact ⟨rfl, rfl⟩

/-- **A sequence of words determines its values**, if no word is empty. -/
theorem eq_of_flatten (h : SelfDelimiting S code) (hne : ∀ a, code a ≠ []) :
    ∀ {as bs : List α}, (∀ a ∈ as, S a) → (∀ b ∈ bs, S b) →
    (as.map code).flatten = (bs.map code).flatten → as = bs
  | [], [], _, _, _ => rfl
  | [], b :: bs, _, _, heq => absurd (List.append_eq_nil_iff.mp heq.symm).1 (hne b)
  | a :: as, [], _, _, heq => absurd (List.append_eq_nil_iff.mp heq).1 (hne a)
  | a :: as, b :: bs, has, hbs, heq => by
    obtain ⟨rfl, htail⟩ := h.split (has a (by simp)) (hbs b (by simp)) heq
    rw [h.eq_of_flatten hne (fun c hc => has c (by simp [hc])) (fun c hc => hbs c (by simp [hc]))
      htail]

end SelfDelimiting

/-- **A length in front of a word** delimits it, if it has a fixed width and fits. -/
theorem selfDelimiting_lengthPrefixed (length : ℕ → List β) {width bound : ℕ}
    (hwidth : ∀ n, (length n).length = width)
    (hinj : ∀ m n, m < bound → n < bound → length m = length n → m = n) :
    SelfDelimiting (fun word : List β => word.length < bound)
      fun word => length word.length ++ word := by
  intro a b x y ha hb heq
  rw [List.append_assoc, List.append_assoc] at heq
  obtain ⟨hlength, htail⟩ := List.append_inj heq (by rw [hwidth, hwidth])
  exact (List.append_inj htail (hinj _ _ ha hb hlength)).1

/-! ### Taking words off -/

/-- Take words off a sequence until nothing is left, one for each unit of fuel. -/
def takeWords (next : List β → Option (α × List β)) : ℕ → List β → Option (List α)
  | _, [] => some []
  | 0, _ :: _ => none
  | fuel + 1, b :: bs =>
      (next (b :: bs)).bind fun x => (takeWords next fuel x.2).map fun as => x.1 :: as

/-- **A sequence of words is taken apart**, if each word is taken off whatever follows it. -/
theorem takeWords_flatten {S : α → Prop} {code : α → List β}
    {next : List β → Option (α × List β)} (hne : ∀ a, S a → code a ≠ [])
    (hnext : ∀ a rest, S a → next (code a ++ rest) = some (a, rest)) :
    ∀ {as : List α} {fuel : ℕ}, (∀ a ∈ as, S a) → as.length ≤ fuel →
      takeWords next fuel (as.map code).flatten = some as
  | [], _, _, _ => by rw [List.map_nil, List.flatten_nil, takeWords]
  | a :: as, 0, _, hfuel => absurd hfuel (by simp)
  | a :: as, fuel + 1, has, hfuel => by
    obtain ⟨b, bs, hcode⟩ := List.exists_cons_of_ne_nil (hne a (has a (by simp)))
    have hword := hnext a (as.map code).flatten (has a (by simp))
    rw [hcode, List.cons_append] at hword
    rw [List.map_cons, List.flatten_cons, hcode, List.cons_append, takeWords, hword,
      Option.bind_some, takeWords_flatten hne hnext (fun c hc => has c (by simp [hc]))
        (Nat.le_of_succ_le_succ hfuel)]
    rfl

/-- Take a word off that has its length in front of it. -/
def takeLengthPrefixed (width : ℕ) (decode : List β → ℕ) (bs : List β) :
    Option (List β × List β) :=
  let n := decode (bs.take width)
  if width + n ≤ bs.length then some ((bs.drop width).take n, bs.drop (width + n)) else none

/-- **A word with its length in front** is taken off whatever follows it. -/
theorem takeLengthPrefixed_append (length : ℕ → List β) {decode : List β → ℕ} {width bound : ℕ}
    (hwidth : ∀ n, (length n).length = width) (hdecode : ∀ n < bound, decode (length n) = n)
    {word : List β} (rest : List β) (h : word.length < bound) :
    takeLengthPrefixed width decode ((length word.length ++ word) ++ rest) = some (word, rest) := by
  have hlen := hwidth word.length
  rw [takeLengthPrefixed, List.append_assoc, List.take_left' hlen, hdecode _ h, if_pos,
    List.drop_left' hlen, List.take_left' rfl, ← List.drop_drop, List.drop_left' hlen,
    List.drop_left' rfl]
  rw [List.length_append, List.length_append, hlen]
  omega

/-- There are at most as many words as letters, if no word is empty. -/
theorem length_le_length_flatten {code : α → List β} {as : List α}
    (hne : ∀ a ∈ as, code a ≠ []) : as.length ≤ (as.map code).flatten.length := by
  induction as with
  | nil => exact Nat.zero_le _
  | cons a as ih =>
    have hpos := List.length_pos_iff.mpr (hne a List.mem_cons_self)
    have hle := ih fun b hb => hne b (List.mem_cons_of_mem a hb)
    rw [List.map_cons, List.flatten_cons, List.length_append, List.length_cons]
    omega

/-- **Words with their lengths in front** are taken off one by one. -/
theorem takeWords_lengthPrefixed (length : ℕ → List β) {decode : List β → ℕ} {width bound : ℕ}
    (hpos : 0 < width) (hwidth : ∀ n, (length n).length = width)
    (hdecode : ∀ n < bound, decode (length n) = n) {words : List (List β)}
    (h : ∀ word ∈ words, word.length < bound) :
    takeWords (takeLengthPrefixed width decode)
      (words.map fun word => length word.length ++ word).flatten.length
      (words.map fun word => length word.length ++ word).flatten = some words := by
  have hne (word : List β) : length word.length ++ word ≠ [] := by
    refine List.append_ne_nil_of_left_ne_nil ?_ _
    rw [← List.length_pos_iff, hwidth]
    exact hpos
  exact takeWords_flatten (fun word _ => hne word)
    (fun word rest => takeLengthPrefixed_append length hwidth hdecode rest) h
    (length_le_length_flatten fun word _ => hne word)
