import Mathlib.Data.List.Basic

/-!
# Filling the holes of a template

A *template* is a list of symbols some of which are marked as **holes**, and
filling it replaces the holes, from left to right, by the texts of a list. A
hole that finds no text left stays in place as the symbol it is.

Three things are said about filling, over any type of symbols.

* `Template.fill_eq_fill_iff`: two markings of one list of symbols fill to the
  same result exactly when they agree wherever a text is still left. This needs
  the texts to be recognizable – nonempty, and not beginning with the hole
  symbol itself.
* `Template.origins` tells, for every symbol of the result, the template
  position it was copied from. It is what a statement about “the symbols the
  template keeps” is made with.
* `Template.agrees_keep` and `Template.agrees_hole` compare a labelling of the
  result, say by a lexer, with a labelling of the template: a kept symbol must
  carry the label it has in the template, and a filled hole is skipped.
-/

namespace Template

variable {α β : Type*}

/-! ### Filling -/

/-- Fill the holes of a template, from left to right, with the given texts. A
hole for which no text is left stays in place. -/
def fill : List (α × Bool) → List (List α) → List α
  | [], _ => []
  | (_, true) :: ps, t :: ts => t ++ fill ps ts
  | (c, true) :: ps, [] => c :: fill ps []
  | (c, false) :: ps, ts => c :: fill ps ts

@[simp] theorem fill_nil (ts : List (List α)) : fill [] ts = [] := by
  rw [fill]

@[simp] theorem fill_hole (c : α) (ps : List (α × Bool)) (t : List α) (ts : List (List α)) :
    fill ((c, true) :: ps) (t :: ts) = t ++ fill ps ts := rfl

@[simp] theorem fill_surplus (c : α) (ps : List (α × Bool)) :
    fill ((c, true) :: ps) [] = c :: fill ps [] := rfl

@[simp] theorem fill_keep (c : α) (ps : List (α × Bool)) (ts : List (List α)) :
    fill ((c, false) :: ps) ts = c :: fill ps ts := by
  rw [fill]

/-- A symbol is kept when it is no hole or when no text is left for it. -/
theorem fill_of_keep {c : α} {b : Bool} {ps : List (α × Bool)} {ts : List (List α)}
    (h : b = true → ts = []) : fill ((c, b) :: ps) ts = c :: fill ps ts := by
  cases b with
  | false => exact fill_keep c ps ts
  | true => rw [h rfl, fill_surplus]

/-- Symbols that are kept stand before the rest. -/
theorem fill_append_of_keep {ps qs : List (α × Bool)} {ts : List (List α)}
    (h : (∀ p ∈ ps, p.2 = false) ∨ ts = []) :
    fill (ps ++ qs) ts = ps.map Prod.fst ++ fill qs ts := by
  induction ps with
  | nil => rfl
  | cons p ps ih =>
    have hps : (∀ p ∈ ps, p.2 = false) ∨ ts = [] :=
      h.imp_left fun hall q hq => hall q (List.mem_cons_of_mem _ hq)
    rw [List.cons_append, List.map_cons, List.cons_append, ← ih hps]
    refine fill_of_keep fun hhole => h.resolve_left fun hall => ?_
    rw [hall p List.mem_cons_self] at hhole
    cases hhole

/-- With no text at all, every symbol of the template is kept. -/
theorem fill_no_text (ps : List (α × Bool)) : fill ps [] = ps.map Prod.fst := by
  induction ps with
  | nil => rfl
  | cons p ps ih =>
    rcases p with ⟨c, _ | _⟩
    · rw [fill_keep, ih, List.map_cons]
    · rw [fill_surplus, ih, List.map_cons]

/-! ### When two markings fill alike -/

/-- **Two markings of one text fill alike exactly when they agree as long as a
text is left.** The texts are nonempty and do not begin with the hole symbol, so
the first position on which the markings differ shows in the result: one side
writes the symbol there and the other a text. -/
theorem fill_eq_fill_iff {hole : α} (cs : List α) (m n : List Bool) (ts : List (List α))
    (hm : m.length = cs.length) (hn : n.length = cs.length)
    (hmh : ∀ i : ℕ, m[i]? = some true → cs[i]? = some hole)
    (hnh : ∀ i : ℕ, n[i]? = some true → cs[i]? = some hole)
    (hts : ∀ t ∈ ts, ∃ c t', t = c :: t' ∧ c ≠ hole) :
    fill (cs.zip m) ts = fill (cs.zip n) ts ↔
      ∀ i : ℕ, i < cs.length → (n.take i).count true < ts.length → m[i]? = n[i]? := by
  induction cs generalizing m n ts with
  | nil => simp
  | cons c cs ih =>
    obtain ⟨a, m, rfl⟩ := List.exists_cons_of_length_eq_add_one hm
    obtain ⟨b, n, rfl⟩ := List.exists_cons_of_length_eq_add_one hn
    have hmh' : ∀ i : ℕ, m[i]? = some true → cs[i]? = some hole := fun i hi => hmh (i + 1) hi
    have hnh' : ∀ i : ℕ, n[i]? = some true → cs[i]? = some hole := fun i hi => hnh (i + 1) hi
    have hca : a = true → c = hole := fun h => by simpa using hmh 0 (by simpa using h)
    have hcb : b = true → c = hole := fun h => by simpa using hnh 0 (by simpa using h)
    have hm' : m.length = cs.length := by simpa using hm
    have hn' : n.length = cs.length := by simpa using hn
    -- the positions of the longer list are position `0` and the shifted ones
    have hsplit : ∀ ts' : List (List α), (∀ i : ℕ, i < (c :: cs).length →
          ((b :: n).take i).count true < ts'.length → (a :: m)[i]? = (b :: n)[i]?) ↔
        (0 < ts'.length → a = b) ∧ ∀ i : ℕ, i < cs.length →
          (n.take i).count true + (if b then 1 else 0) < ts'.length → m[i]? = n[i]? := by
      intro ts'
      constructor
      · intro h
        refine ⟨fun h0 => by simpa using h 0 (by simp) (by simpa using h0), fun i hi hlt => ?_⟩
        have hi' : i + 1 < (c :: cs).length := by simpa using hi
        exact h (i + 1) hi' (by cases b <;> simpa [List.take_succ_cons] using hlt)
      · rintro ⟨h0, h⟩ i hi hlt
        cases i with
        | zero => simpa using h0 (by simpa using hlt)
        | succ i =>
          have hi' : i < cs.length := by simpa using hi
          exact h i hi' (by cases b <;> simpa [List.take_succ_cons] using hlt)
    rw [hsplit]
    cases ts with
    | nil => simp [fill_no_text, List.map_fst_zip, hm', hn']
    | cons t ts =>
      have htail : ∀ t ∈ ts, ∃ c t', t = c :: t' ∧ c ≠ hole := fun u hu => hts u (by simp [hu])
      obtain ⟨d, t', rfl, hd⟩ := hts t (by simp)
      cases a <;> cases b
      · simpa using ih m n ((d :: t') :: ts) hm' hn' hmh' hnh' hts
      · have hc := hcb rfl
        simp [hc, hd.symm]
      · have hc := hca rfl
        simp [hc, hd]
      · simpa using ih m n ts hm' hn' hmh' hnh' htail

/-! ### Where the symbols of the result come from -/

/-- For every symbol of the filled template, the position of the template it is
copied from, and `none` for a symbol of a substituted text. -/
def origins : List (α × Bool) → List (List α) → List (Option ℕ)
  | [], _ => []
  | (_, true) :: ps, t :: ts =>
      List.replicate t.length none ++ (origins ps ts).map (Option.map (· + 1))
  | (_, true) :: ps, [] => some 0 :: (origins ps []).map (Option.map (· + 1))
  | (_, false) :: ps, ts => some 0 :: (origins ps ts).map (Option.map (· + 1))

@[simp] theorem origins_hole (c : α) (ps : List (α × Bool)) (t : List α) (ts : List (List α)) :
    origins ((c, true) :: ps) (t :: ts) =
      List.replicate t.length none ++ (origins ps ts).map (Option.map (· + 1)) := rfl

@[simp] theorem origins_surplus (c : α) (ps : List (α × Bool)) :
    origins ((c, true) :: ps) [] = some 0 :: (origins ps []).map (Option.map (· + 1)) := rfl

@[simp] theorem origins_keep (c : α) (ps : List (α × Bool)) (ts : List (List α)) :
    origins ((c, false) :: ps) ts = some 0 :: (origins ps ts).map (Option.map (· + 1)) := by
  rw [origins]

/-- The origin of a kept symbol. -/
theorem origins_of_keep {c : α} {b : Bool} {ps : List (α × Bool)} {ts : List (List α)}
    (h : b = true → ts = []) :
    origins ((c, b) :: ps) ts = some 0 :: (origins ps ts).map (Option.map (· + 1)) := by
  cases b with
  | false => exact origins_keep c ps ts
  | true => rw [h rfl, origins_surplus]

/-- A label list of the result agrees with a label list of the template at every
symbol the template keeps. -/
def Agrees (os : List (Option ℕ)) (out tpl : List β) : Prop :=
  ∀ j i : ℕ, os[j]? = some (some i) → out[j]? = tpl[i]?

/-- Moving every origin one position up shifts the template by one symbol. -/
theorem agrees_map_succ {os : List (Option ℕ)} {out tpl : List β} {b : β} :
    Agrees (os.map (Option.map (· + 1))) out (b :: tpl) ↔ Agrees os out tpl := by
  constructor
  · intro h j i hj
    simpa using h j (i + 1) (by simp [hj])
  · intro h j i hj
    rw [List.getElem?_map, Option.map_eq_some_iff] at hj
    obtain ⟨o, ho, hoi⟩ := hj
    obtain ⟨k, rfl, rfl⟩ := Option.map_eq_some_iff.mp hoi
    simpa using h j k ho

/-- **A kept symbol**: the labels agree at it, and behind it. -/
theorem agrees_keep {os : List (Option ℕ)} {out tpl : List β} {a b : β} :
    Agrees (some 0 :: os.map (Option.map (· + 1))) (a :: out) (b :: tpl) ↔
      a = b ∧ Agrees os out tpl := by
  refine Iff.trans ?_ (and_congr_right' (agrees_map_succ (b := b)))
  constructor
  · exact fun h => ⟨by simpa using h 0 0 rfl, fun j i hj => by simpa using h (j + 1) i hj⟩
  · rintro ⟨rfl, h⟩ j i hj
    cases j with
    | zero =>
      obtain rfl : 0 = i := by simpa using hj
      rfl
    | succ j => exact h j i hj

/-- **A filled hole**: its text is skipped, and the labels agree behind it. -/
theorem agrees_hole {os : List (Option ℕ)} {txt out tpl : List β} {b : β} {k : ℕ}
    (hk : txt.length = k) :
    Agrees (List.replicate k none ++ os.map (Option.map (· + 1))) (txt ++ out) (b :: tpl) ↔
      Agrees os out tpl := by
  refine Iff.trans ?_ (agrees_map_succ (b := b))
  constructor
  · intro h j i hj
    have hj' := h (k + j) i (by simpa [List.getElem?_append_right] using hj)
    rwa [List.getElem?_append_right (by omega), show k + j - txt.length = j by omega] at hj'
  · intro h j i hj
    rcases Nat.lt_or_ge j k with hjk | hjk
    · rw [List.getElem?_append_left (by simpa using hjk)] at hj
      simp [hjk] at hj
    · rw [List.getElem?_append_right (by simpa using hjk)] at hj
      rw [List.getElem?_append_right (by omega), hk]
      exact h _ i (by simpa using hj)

theorem agrees_nil (out tpl : List β) : Agrees [] out tpl := by
  intro j i hj
  simp at hj

end Template
