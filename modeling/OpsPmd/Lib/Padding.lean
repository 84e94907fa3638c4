import Mathlib.Data.List.DropRight

/-!
# Padded fields

A field of fixed width holds a text that ends at a terminator or with the field, and is padded at
the end. `q` tests that an element is no terminator, `p` that it is padding.

* `trim` — the text without the padding at its end
* `trimTail` — what is left by a loop that removes padding from the end of the field, but never the
  first element
* `trimTail_eq_trim_iff` — when the two are the same
-/

namespace Padding

variable {α : Type*} {p q : α → Bool} {a : α} {l pad rest : List α}

/-- The text up to a terminator, without the padding at its end. -/
def trim (p q : α → Bool) (l : List α) : List α := (l.takeWhile q).rdropWhile p

/-- The text up to a terminator, after padding is removed from the end of all but the first. -/
def trimTail (p q : α → Bool) : List α → List α
  | [] => []
  | a :: l => (a :: l.rdropWhile p).takeWhile q

/-! ## Padding at the end -/

theorem rdropWhile_append_of_forall (hpad : ∀ x ∈ pad, p x = true) :
    (l ++ pad).rdropWhile p = l.rdropWhile p := by
  induction pad using List.reverseRecOn with
  | nil => rw [List.append_nil]
  | append_singleton pad x ih =>
    have hx : p x = true := hpad x (by simp)
    rw [← List.append_assoc, List.rdropWhile_concat_pos p _ x hx]
    exact ih fun y hy => hpad y (List.mem_append_left _ hy)

/-- The first element stays unless everything is padding. -/
theorem rdropWhile_cons (h : ∃ x ∈ a :: l, p x = false) :
    (a :: l).rdropWhile p = a :: l.rdropWhile p := by
  induction l using List.reverseRecOn with
  | nil =>
    obtain ⟨x, hx, hpx⟩ := h
    obtain rfl := List.mem_singleton.mp hx
    rw [List.rdropWhile_singleton, hpx]
    rfl
  | append_singleton l x ih =>
    rw [← List.cons_append]
    cases hpx : p x with
    | true =>
      rw [List.rdropWhile_concat_pos p _ x hpx, List.rdropWhile_concat_pos p _ x hpx]
      refine ih ?_
      obtain ⟨y, hy, hpy⟩ := h
      rw [← List.cons_append, List.mem_append, List.mem_singleton] at hy
      rcases hy with hy | rfl
      · exact ⟨y, hy, hpy⟩
      · rw [hpx] at hpy
        cases hpy
    | false =>
      rw [List.rdropWhile_concat_neg p _ x (by simp [hpx]),
        List.rdropWhile_concat_neg p _ x (by simp [hpx]), List.cons_append]

/-- Removal of padding does not cross a terminator. -/
theorem takeWhile_rdropWhile (hpq : ∀ x, p x = true → q x = true) (h : ∃ x ∈ l, q x = false) :
    (l.rdropWhile p).takeWhile q = l.takeWhile q := by
  induction l using List.reverseRecOn with
  | nil => rfl
  | append_singleton l x ih =>
    cases hpx : p x with
    | false => rw [List.rdropWhile_concat_neg p _ x (by simp [hpx])]
    | true =>
      have hl : ∃ y ∈ l, q y = false := by
        obtain ⟨y, hy, hqy⟩ := h
        rcases List.mem_append.mp hy with hy | hy
        · exact ⟨y, hy, hqy⟩
        · obtain rfl := List.mem_singleton.mp hy
          rw [hpq y hpx] at hqy
          cases hqy
      -- the dropped element comes after the terminator
      rw [List.rdropWhile_concat_pos p _ x hpx, ih hl, List.takeWhile_append, if_neg]
      intro hlen
      obtain ⟨y, hy, hqy⟩ := hl
      have hall := List.takeWhile_eq_self_iff.mp
        ((List.takeWhile_prefix q).eq_of_length hlen) y hy
      rw [hqy] at hall
      cases hall

/-! ## `trim` -/

/-- Padding and terminators at the end of a field do not count. -/
theorem trim_append (hpq : ∀ x, p x = true → q x = true) (hpad : ∀ x ∈ pad, p x = true)
    (hrest : ∀ x ∈ rest, q x = false) : trim p q (l ++ pad ++ rest) = trim p q l := by
  have hdrop : rest.takeWhile q = [] := by
    cases rest with
    | nil => rfl
    | cons x rest => rw [List.takeWhile_cons, hrest x (List.mem_cons_self ..), if_neg (by simp)]
  have hpadq : pad.takeWhile q = pad :=
    List.takeWhile_eq_self_iff.mpr fun x hx => hpq x (hpad x hx)
  unfold trim
  rw [List.append_assoc, List.takeWhile_append, List.takeWhile_append, hdrop, hpadq, if_pos rfl,
    List.append_nil]
  split
  · next hlen =>
    rw [(List.takeWhile_prefix q).eq_of_length hlen]
    exact rdropWhile_append_of_forall hpad
  · rfl

/-- No padding is left at the end. -/
theorem getLast?_trim {x : α} (h : (trim p q l).getLast? = some x) : p x = false := by
  have hne : trim p q l ≠ [] := by
    rintro hnil
    rw [hnil] at h
    cases h
  rw [List.getLast?_eq_some_getLast hne] at h
  have hlast := List.rdropWhile_last_not p (l.takeWhile q) hne
  obtain rfl := Option.some.inj h
  exact Bool.eq_false_iff.mpr hlast

/-! ## `trimTail` -/

/-- With a terminator in the field the loop stays behind it. -/
theorem trimTail_of_terminator (hpq : ∀ x, p x = true → q x = true)
    (h : ∃ x ∈ a :: l, q x = false) : trimTail p q (a :: l) = (a :: l).takeWhile q := by
  show (a :: l.rdropWhile p).takeWhile q = _
  rw [List.takeWhile_cons, List.takeWhile_cons]
  cases hqa : q a with
  | false => rfl
  | true =>
    obtain ⟨x, hx, hqx⟩ := h
    rcases List.mem_cons.mp hx with rfl | hx
    · rw [hqa] at hqx
      cases hqx
    · rw [if_pos rfl, if_pos rfl, takeWhile_rdropWhile hpq ⟨x, hx, hqx⟩]

/-- Without one the text is the whole field. -/
theorem trimTail_of_no_terminator (h : ∀ x ∈ a :: l, q x = true) :
    trimTail p q (a :: l) = a :: l.rdropWhile p := by
  refine List.takeWhile_eq_self_iff.mpr fun x hx => h x ?_
  rcases List.mem_cons.mp hx with rfl | hx
  · exact List.mem_cons_self ..
  · exact List.mem_cons_of_mem _ ((List.rdropWhile_prefix p l).subset hx)

/-- Nothing is removed from the end if and only if there is no padding at the end. -/
theorem rdropWhile_eq_self_iff_getLast? :
    l.rdropWhile p = l ↔ ∀ x, l.getLast? = some x → p x = false := by
  rw [List.rdropWhile_eq_self_iff]
  constructor
  · intro h x hx
    have hne : l ≠ [] := by
      rintro rfl
      cases hx
    rw [List.getLast?_eq_some_getLast hne] at hx
    obtain rfl := Option.some.inj hx
    exact Bool.eq_false_iff.mpr (h hne)
  · intro h hne
    exact Bool.eq_false_iff.mp (h _ (List.getLast?_eq_some_getLast hne))

/--
**Leaving the first element alone gives the text without padding if and only if not everything is
padding, and the text does not end in padding before a terminator.**
-/
theorem trimTail_eq_trim_iff (hpq : ∀ x, p x = true → q x = true) (a : α) (l : List α) :
    trimTail p q (a :: l) = trim p q (a :: l) ↔
      (∃ x ∈ a :: l, p x = false) ∧
        ((∃ x ∈ a :: l, q x = false) →
          ∀ x, ((a :: l).takeWhile q).getLast? = some x → p x = false) := by
  by_cases hq : ∃ x ∈ a :: l, q x = false
  · have hp : ∃ x ∈ a :: l, p x = false := by
      obtain ⟨x, hx, hqx⟩ := hq
      -- a terminator is not padding, so the loop stops at it
      refine ⟨x, hx, ?_⟩
      cases hpx : p x with
      | false => rfl
      | true =>
        rw [hpq x hpx] at hqx
        cases hqx
    rw [trimTail_of_terminator hpq hq, trim, eq_comm, rdropWhile_eq_self_iff_getLast?,
      and_iff_right hp, forall_prop_of_true hq]
  · have hall : ∀ x ∈ a :: l, q x = true := by
      intro x hx
      by_contra hqx
      exact hq ⟨x, hx, Bool.eq_false_iff.mpr hqx⟩
    rw [trimTail_of_no_terminator hall, trim, List.takeWhile_eq_self_iff.mpr hall,
      and_iff_left fun h => absurd h hq]
    constructor
    · intro heq
      by_contra hnone
      have hpad : ∀ x ∈ a :: l, p x = true := by
        intro x hx
        by_contra hpx
        exact hnone ⟨x, hx, Bool.eq_false_iff.mpr hpx⟩
      -- the text is empty, but the first element is still there
      rw [List.rdropWhile_eq_nil_iff.mpr hpad] at heq
      cases heq
    · intro hp
      exact (rdropWhile_cons hp).symm

end Padding
