import Mathlib.Algebra.BigOperators.Group.Finset.Basic
import Mathlib.Data.Nat.ModEq
import Mathlib.Order.Interval.Finset.Nat

/-!
# Sums in a wrapping byte

A byte that bytes are added to holds their sum modulo 256. A sum modulo `m` tells any change of one
summand modulo `m`.

* `toNat_foldl` — the loop that adds in a byte
* `sum_mod_eq_iff` — sums that differ in one summand
-/

open Finset

namespace ByteSum

/-- Adding to a byte is adding modulo 256. -/
theorem toNat_foldl {α : Type*} (f : α → UInt8) : ∀ (l : List α) (a : UInt8),
    (l.foldl (fun value i => value + f i) a).toNat = (a.toNat + (l.map fun i => (f i).toNat).sum) % 256
  | [], a => by
    have ha := a.toNat_lt
    simp only [List.foldl_nil, List.map_nil, List.sum_nil]
    omega
  | x :: l, a => by
    rw [List.foldl_cons, toNat_foldl f l, UInt8.toNat_add, List.map_cons, List.sum_cons]
    omega

theorem sum_Icc_eq_list (f : Nat → Nat) (start stop : Nat) :
    ∑ i ∈ Icc start stop, f i = ((List.range' start (stop + 1 - start)).map f).sum := by
  rw [Nat.Icc_eq_range']
  rfl

/-- **If one summand changes, the sum modulo `m` stays only if the summand does modulo `m`.** -/
theorem sum_mod_eq_iff {ι : Type*} [DecidableEq ι] {s : Finset ι} {f g : ι → Nat} {i : ι} {m : Nat}
    (hi : i ∈ s) (h : ∀ j ∈ s, j ≠ i → f j = g j) :
    (∑ j ∈ s, f j) % m = (∑ j ∈ s, g j) % m ↔ f i % m = g i % m := by
  have hrest : ∑ j ∈ s.erase i, f j = ∑ j ∈ s.erase i, g j :=
    Finset.sum_congr rfl fun j hj => h j (Finset.mem_of_mem_erase hj) (Finset.ne_of_mem_erase hj)
  rw [← Finset.add_sum_erase s f hi, ← Finset.add_sum_erase s g hi, hrest]
  exact ⟨Nat.ModEq.add_right_cancel' _, Nat.ModEq.add_right _⟩

end ByteSum
