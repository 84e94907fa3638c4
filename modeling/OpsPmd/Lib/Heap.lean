import OpsPmd.Lib.Cells

/-!
# Records of pointers

A record of pointers, some of which own the block they point to. Static data has no block. To free
static data, or to free or read a block that is not allocated, is a fault.

* `Pointers.cells` — the record without its pointers: a `Cells`
* `Owned` — each owning key has a block of its own, the other keys have none, and there are no other
  blocks than these and those of others
* `Owned.execAll` — a program that treats each key as what it is never faults, does to the record
  without its pointers what it should, and leaves the blocks of others alone
* `PointerOp.map` — a program about one record of a family, as one about the family
* `Directory` — the records that were made for names
-/

/-- Where a pointer that is not null leads. -/
inductive Pointer (ν : Type*)
  | static (v : ν)
  | block (id : Nat)

/-- The blocks of an allocator, which gives out no id twice. -/
structure Heap (ν : Type*) where
  blocks : Nat → Option ν
  next : Nat

namespace Heap

variable {ν : Type*} {h : Heap ν}

/-- No block is allocated beyond the ids that were given out. -/
def Bounded (h : Heap ν) : Prop := ∀ id, (h.blocks id).isSome = true → id < h.next

/-- Nothing allocated. -/
def empty : Heap ν where
  blocks _ := none
  next := 0

theorem bounded_empty : (empty : Heap ν).Bounded := by
  intro id hid
  cases hid

def alloc (h : Heap ν) (v : ν) : Heap ν where
  blocks := Function.update h.blocks h.next (some v)
  next := h.next + 1

/-- `free`, `none` where it is a fault. -/
def free (h : Heap ν) : Option (Pointer ν) → Option (Heap ν)
  | none => some h
  | some (.static _) => none
  | some (.block id) =>
    if (h.blocks id).isSome then some { h with blocks := Function.update h.blocks id none } else none

/-- What a pointer leads to, `none` where it dangles. -/
def read (h : Heap ν) : Pointer ν → Option ν
  | .static v => some v
  | .block id => h.blocks id

theorem Bounded.blocks_next (hb : h.Bounded) : h.blocks h.next = none := by
  cases hn : h.blocks h.next with
  | none => rfl
  | some v => exact absurd (hb h.next (by rw [hn]; rfl)) (Nat.lt_irrefl _)

theorem Bounded.alloc (hb : h.Bounded) (v : ν) : (h.alloc v).Bounded := by
  intro id hid
  by_cases heq : id = h.next
  · rw [heq]
    exact Nat.lt_succ_self _
  · simp only [Heap.alloc, Function.update_of_ne heq] at hid
    exact Nat.lt_succ_of_lt (hb id hid)

theorem Bounded.free (hb : h.Bounded) {p : Option (Pointer ν)} {h' : Heap ν}
    (hf : h.free p = some h') : h'.Bounded := by
  match p with
  | none =>
    obtain rfl := Option.some.inj hf
    exact hb
  | some (.static v) => cases hf
  | some (.block i) =>
    simp only [Heap.free] at hf
    split at hf
    · obtain rfl := Option.some.inj hf
      intro id hid
      by_cases heq : id = i
      · simp [heq] at hid
      · simp only [Function.update_of_ne heq] at hid
        exact hb id hid
    · cases hf

theorem blocks_alloc (v : ν) (id : Nat) :
    (h.alloc v).blocks id = if id = h.next then some v else h.blocks id := by
  simp [alloc, Function.update_apply]

end Heap

/-! ## Records -/

/-- A record of pointers that may be null, the heap they point into, and a change mark. -/
structure Pointers (κ ν : Type*) where
  ptr : κ → Option (Pointer ν)
  heap : Heap ν
  changed : Bool

/-- A statement about one pointer. -/
inductive PointerOp (κ ν : Type*)
  /-- Point to static data. -/
  | assign (k : κ) (v : ν)
  /-- Free what is there and point to a new block. -/
  | renew (k : κ) (v : ν)
  /-- The same, unless what is there passes a test. -/
  | update (w : Write κ ν)
  /-- Become null. -/
  | drop (k : κ)
  /-- Free what is there and become null. -/
  | release (k : κ)

namespace PointerOp

variable {κ ν : Type*}

/-- The statement treats its key as one that owns its block, or as one that does not. -/
def Fits (owns : κ → Bool) : PointerOp κ ν → Prop
  | assign k _ => owns k = false
  | renew k _ => owns k = true
  | update w => owns w.key = true
  | drop k => owns k = false
  | release k => owns k = true

variable [DecidableEq κ]

/-- What a statement does to the values. -/
def onCells (c : Cells κ ν) : PointerOp κ ν → Cells κ ν
  | assign k v => c.store k v
  | renew k v => c.store k v
  | update w => c.write w
  | drop k => c.clear k
  | release k => c.clear k

end PointerOp

namespace Pointers

variable {κ ν : Type*} [DecidableEq κ]

/-- Free what a key points to, and let it point to a new block. -/
def replace (r : Pointers κ ν) (k : κ) (v : ν) : Option (Pointers κ ν) :=
  (r.heap.free (r.ptr k)).map fun heap =>
    { ptr := Function.update r.ptr k (some (.block heap.next)), heap := heap.alloc v, changed := true }

/-- One statement, `none` where it is a fault. -/
def exec (r : Pointers κ ν) : PointerOp κ ν → Option (Pointers κ ν)
  | .assign k v => some { r with ptr := Function.update r.ptr k (some (.static v)), changed := true }
  | .renew k v => r.replace k v
  | .update w =>
    match r.ptr w.key with
    | none => r.replace w.key w.value
    | some p =>
      match r.heap.read p with
      | none => none
      | some old => if w.keep old then some r else r.replace w.key w.value
  | .drop k =>
    match r.ptr k with
    | none => some r
    | some _ => some { r with ptr := Function.update r.ptr k none, changed := true }
  | .release k =>
    match r.ptr k with
    | none => some r
    | some p =>
      (r.heap.free (some p)).map fun heap =>
        { ptr := Function.update r.ptr k none, heap := heap, changed := true }

/-- A program, `none` where it faults. -/
def execAll : Pointers κ ν → List (PointerOp κ ν) → Option (Pointers κ ν)
  | r, [] => some r
  | r, op :: ops => (r.exec op).bind fun r => execAll r ops

omit [DecidableEq κ] in
/-- The record without its pointers. A null pointer and a dangling one have no value. -/
def cells (r : Pointers κ ν) : Cells κ ν where
  get k := (r.ptr k).bind r.heap.read
  changed := r.changed

/-- All pointers null. -/
def null (heap : Heap ν) : Pointers κ ν where
  ptr _ := none
  heap := heap
  changed := false

omit [DecidableEq κ] in
/-- The mark taken down. -/
def settle (r : Pointers κ ν) : Pointers κ ν := { r with changed := false }

end Pointers

/-! ## Ownership -/

section Owned

variable {κ ν : Type*}

/-- Who owns which block. The blocks `others` belong to nobody here. -/
structure Owned (owns : κ → Bool) (others : Nat → Option ν) (r : Pointers κ ν) : Prop where
  static : ∀ k p, owns k = false → r.ptr k = some p → ∃ v, p = .static v
  block : ∀ k p, owns k = true → r.ptr k = some p → ∃ id, p = .block id
  distinct : ∀ k k' id, r.ptr k = some (.block id) → r.ptr k' = some (.block id) → k = k'
  apart : ∀ k id, r.ptr k = some (.block id) → others id = none
  bounded : r.heap.Bounded
  /-- The blocks of others are as they were. -/
  kept : ∀ id v, others id = some v → r.heap.blocks id = some v
  /-- A block is allocated exactly as long as it is one of others or some key points to it. -/
  ledger : ∀ id, (r.heap.blocks id).isSome = true ↔
    (others id).isSome = true ∨ ∃ k, r.ptr k = some (.block id)

namespace Owned

variable {owns : κ → Bool} {others : Nat → Option ν} {r : Pointers κ ν}

theorem null {heap : Heap ν} (h : heap.Bounded) :
    Owned owns heap.blocks (Pointers.null heap : Pointers κ ν) where
  static _ _ _ hp := by cases hp
  block _ _ _ hp := by cases hp
  distinct _ _ _ hp := by cases hp
  apart _ _ hp := by cases hp
  bounded := h
  kept _ _ hv := hv
  ledger _ := ⟨Or.inl, fun h => h.elim id fun ⟨_, hp⟩ => by cases hp⟩

/-- Only a key that owns what it points to points to a block. -/
theorem owns_of_block (h : Owned owns others r) {k : κ} {id : Nat}
    (hp : r.ptr k = some (.block id)) : owns k = true := by
  by_contra hk
  obtain ⟨v, hv⟩ := h.static k _ (Bool.eq_false_iff.mpr hk) hp
  cases hv

theorem settle (h : Owned owns others r) : Owned owns others r.settle :=
  ⟨h.static, h.block, h.distinct, h.apart, h.bounded, h.kept, h.ledger⟩

/-- A block that some key points to is allocated. -/
theorem live (h : Owned owns others r) {k : κ} {id : Nat} (hp : r.ptr k = some (.block id)) :
    (r.heap.blocks id).isSome = true := (h.ledger id).mpr (Or.inr ⟨k, hp⟩)

/-- No pointer dangles: a key without a value is null. -/
theorem get_cells_eq_none_iff (h : Owned owns others r) {k : κ} :
    r.cells.get k = none ↔ r.ptr k = none := by
  refine ⟨fun hnone => ?_, fun hnull => by simp [Pointers.cells, hnull]⟩
  cases hp : r.ptr k with
  | none => rfl
  | some p =>
    simp only [Pointers.cells, hp, Option.bind_some] at hnone
    cases p with
    | static v => cases hnone
    | block id =>
      have hlive := h.live hp
      rw [show r.heap.blocks id = none from hnone] at hlive
      cases hlive

variable [DecidableEq κ]

/-- The heap once an owning key has given up its block. -/
theorem free (h : Owned owns others r) {k : κ} (hk : owns k = true) :
    ∃ heap, r.heap.free (r.ptr k) = some heap ∧
      Owned owns others { r with ptr := Function.update r.ptr k none, heap := heap } ∧
      ∀ k', k' ≠ k → (r.ptr k').bind heap.read = (r.ptr k').bind r.heap.read := by
  cases hp : r.ptr k with
  | none =>
    have hsame : Function.update r.ptr k none = r.ptr := Function.update_eq_self_iff.mpr hp.symm
    refine ⟨r.heap, rfl, ?_, fun _ _ => rfl⟩
    rw [hsame]
    exact h
  | some p =>
    obtain ⟨i, rfl⟩ := h.block k p hk hp
    have hfree : r.heap.free (some (.block i)) =
        some { r.heap with blocks := Function.update r.heap.blocks i none } := if_pos (h.live hp)
    -- no other key points to the block
    have hother : ∀ k' id, Function.update r.ptr k none k' = some (.block id) →
        k' ≠ k ∧ r.ptr k' = some (.block id) ∧ id ≠ i := by
      intro k' id hp'
      have hne : k' ≠ k := by
        rintro rfl
        rw [Function.update_self] at hp'
        cases hp'
      rw [Function.update_of_ne hne] at hp'
      refine ⟨hne, hp', ?_⟩
      rintro rfl
      exact hne (h.distinct k' k id hp' hp)
    have hold : ∀ k' p, Function.update r.ptr k none k' = some p → r.ptr k' = some p := by
      intro k' p hp'
      by_cases hne : k' = k
      · rw [hne, Function.update_self] at hp'
        cases hp'
      · rwa [Function.update_of_ne hne] at hp'
    refine ⟨_, hfree, ⟨fun k' p hs hp' => h.static k' p hs (hold k' p hp'),
      fun k' p hs hp' => h.block k' p hs (hold k' p hp'),
      fun k₁ k₂ id h₁ h₂ => h.distinct k₁ k₂ id (hold k₁ _ h₁) (hold k₂ _ h₂),
      fun k' id hp' => h.apart k' id (hold k' _ hp'), h.bounded.free hfree, ?_, ?_⟩, ?_⟩
    · intro id v hv
      have hne : id ≠ i := by
        rintro rfl
        rw [h.apart k id hp] at hv
        cases hv
      exact (Function.update_of_ne hne _ _).trans (h.kept id v hv)
    · intro id
      by_cases hid : id = i
      · subst hid
        refine iff_of_false (by simp) ?_
        rintro (ho | ⟨k', hp'⟩)
        · rw [h.apart k id hp] at ho
          cases ho
        · exact (hother k' id hp').2.2 rfl
      · simp only [Function.update_of_ne hid]
        rw [h.ledger id]
        refine or_congr_right ⟨?_, fun ⟨k', hp'⟩ => ⟨k', (hother k' id hp').2.1⟩⟩
        rintro ⟨k', hp'⟩
        have hne : k' ≠ k := by
          rintro rfl
          rw [hp] at hp'
          cases hp'
          exact hid rfl
        exact ⟨k', by rwa [Function.update_of_ne hne]⟩
    · intro k' hne
      cases hp' : r.ptr k' with
      | none => rfl
      | some p' =>
        cases p' with
        | static v => rfl
        | block id =>
          have hid : id ≠ i := by
            rintro rfl
            exact hne (h.distinct k' k id hp' hp)
          exact Function.update_of_ne hid _ _

/-- A key that is null may point to static data, if it owns nothing. -/
theorem assign (h : Owned owns others r) {k : κ} (hk : owns k = false) (p : Option ν) :
    Owned owns others
      { r with ptr := Function.update r.ptr k (p.map .static), changed := true } := by
  -- neither before nor afterwards does the key point to a block
  have hbefore : ∀ id, r.ptr k ≠ some (.block id) := by
    intro id hp
    obtain ⟨v, hv⟩ := h.static k _ hk hp
    cases hv
  have hafter : ∀ id, p.map Pointer.static ≠ some (.block id) := by
    intro id hp
    cases p <;> cases hp
  have hblock : ∀ k' id, Function.update r.ptr k (p.map .static) k' = some (.block id) ↔
      r.ptr k' = some (.block id) := by
    intro k' id
    by_cases hne : k' = k
    · rw [hne, Function.update_self]
      exact iff_of_false (hafter id) (hbefore id)
    · rw [Function.update_of_ne hne]
  refine ⟨fun k' q hs hq => ?_, fun k' q hs hq => ?_, fun k₁ k₂ id h₁ h₂ => ?_,
    fun k' id hq => h.apart k' id ((hblock k' id).mp hq), h.bounded, h.kept, fun id => ?_⟩
  · by_cases hne : k' = k
    · simp only [hne, Function.update_self] at hq
      obtain ⟨v, -, rfl⟩ := Option.map_eq_some_iff.mp hq
      exact ⟨v, rfl⟩
    · simp only [Function.update_of_ne hne] at hq
      exact h.static k' q hs hq
  · have hne : k' ≠ k := by
      rintro rfl
      rw [hk] at hs
      cases hs
    simp only [Function.update_of_ne hne] at hq
    exact h.block k' q hs hq
  · exact h.distinct k₁ k₂ id ((hblock k₁ id).mp h₁) ((hblock k₂ id).mp h₂)
  · rw [h.ledger id]
    simp only [hblock]

/-- A key that owns nothing yet may get a new block. -/
theorem grow (h : Owned owns others r) {k : κ} (hk : owns k = true) (hnull : r.ptr k = none)
    (v : ν) :
    Owned owns others
      { ptr := Function.update r.ptr k (some (.block r.heap.next)), heap := r.heap.alloc v,
        changed := true } := by
  have hnew := h.bounded.blocks_next
  have hothers : others r.heap.next = none := by
    cases ho : others r.heap.next with
    | none => rfl
    | some w => exact absurd ((h.kept _ w ho).symm.trans hnew) (by simp)
  -- no other key points to the new block
  have hold : ∀ k' id, r.ptr k' = some (.block id) → id ≠ r.heap.next := by
    rintro k' id hp rfl
    have hlive := h.live hp
    rw [hnew] at hlive
    cases hlive
  refine ⟨fun k' p hs hp => ?_, fun k' p hs hp => ?_, fun k₁ k₂ id h₁ h₂ => ?_,
    fun k' id hp => ?_, h.bounded.alloc v, fun id w hw => ?_, fun id => ?_⟩
  · have hne : k' ≠ k := by
      rintro rfl
      rw [hk] at hs
      cases hs
    simp only [Function.update_of_ne hne] at hp
    exact h.static k' p hs hp
  · by_cases hne : k' = k
    · simp only [hne, Function.update_self, Option.some.injEq] at hp
      exact ⟨_, hp.symm⟩
    · simp only [Function.update_of_ne hne] at hp
      exact h.block k' p hs hp
  · by_cases hk₁ : k₁ = k <;> by_cases hk₂ : k₂ = k <;>
      simp only [hk₁, hk₂, ne_eq, not_false_eq_true, Function.update_self, Function.update_of_ne,
        Option.some.injEq, Pointer.block.injEq] at h₁ h₂
    · rw [hk₁, hk₂]
    · exact absurd h₁.symm (hold k₂ id h₂)
    · exact absurd h₂.symm (hold k₁ id h₁)
    · exact h.distinct k₁ k₂ id h₁ h₂
  · by_cases hne : k' = k
    · simp only [hne, Function.update_self, Option.some.injEq, Pointer.block.injEq] at hp
      rw [← hp]
      exact hothers
    · simp only [Function.update_of_ne hne] at hp
      exact h.apart k' id hp
  · rw [Heap.blocks_alloc, if_neg]
    · exact h.kept id w hw
    · rintro rfl
      rw [hothers] at hw
      cases hw
  · rw [Heap.blocks_alloc]
    by_cases hid : id = r.heap.next
    · rw [if_pos hid]
      exact iff_of_true rfl (Or.inr ⟨k, by simp [hid]⟩)
    · rw [if_neg hid, h.ledger id]
      refine or_congr_right (exists_congr fun k' => ?_)
      by_cases hne : k' = k
      · simp [hne, hnull, Ne.symm hid]
      · simp only [Function.update_of_ne hne]

omit [DecidableEq κ] in
/-- Allocation changes nothing that a pointer leads to. -/
theorem read_alloc (h : Owned owns others r) (v : ν) (k : κ) :
    (r.ptr k).bind (r.heap.alloc v).read = (r.ptr k).bind r.heap.read := by
  cases hp : r.ptr k with
  | none => rfl
  | some p =>
    cases p with
    | static w => rfl
    | block id =>
      have hlive := h.live hp
      refine (Heap.blocks_alloc v id).trans (if_neg ?_)
      rintro rfl
      rw [h.bounded.blocks_next] at hlive
      cases hlive

/-- A new block for an owning key, in place of the one it had. -/
theorem replace (h : Owned owns others r) {k : κ} (hk : owns k = true) (v : ν) :
    ∃ r', r.replace k v = some r' ∧ Owned owns others r' ∧ r'.cells = r.cells.store k v := by
  obtain ⟨heap, hfree, hown, hread⟩ := h.free hk
  have hgrown := hown.grow hk (Function.update_self ..) v
  simp only [Function.update_idem] at hgrown
  refine ⟨_, by rw [Pointers.replace, hfree]; rfl, hgrown, Cells.ext (funext fun k' => ?_) rfl⟩
  rw [Cells.get_store]
  by_cases hne : k' = k
  · simp [Pointers.cells, hne, Heap.read, Heap.blocks_alloc]
  · have halloc := hown.read_alloc v k'
    simp only [Function.update_of_ne hne] at halloc
    simp only [Pointers.cells, if_neg hne, Function.update_of_ne hne]
    exact halloc.trans (hread k' hne)

/-! ## Programs -/

/-- **A statement that treats its key as what it is does what it should.** -/
theorem exec (h : Owned owns others r) {op : PointerOp κ ν} (hop : op.Fits owns) :
    ∃ r', r.exec op = some r' ∧ Owned owns others r' ∧ r'.cells = op.onCells r.cells := by
  cases op with
  | assign k v =>
    refine ⟨_, rfl, h.assign hop (some v), Cells.ext (funext fun k' => ?_) rfl⟩
    show (Function.update r.ptr k (some (.static v)) k').bind r.heap.read = _
    by_cases hne : k' = k
    · simp [PointerOp.onCells, hne, Heap.read]
    · simp [PointerOp.onCells, Pointers.cells, Function.update_of_ne hne, Cells.get_store_ne hne]
  | renew k v => exact h.replace hop v
  | update w =>
    have hnew := h.replace hop w.value
    simp only [Pointers.exec, PointerOp.onCells, Cells.write, Pointers.cells]
    cases hp : r.ptr w.key with
    | none => exact hnew
    | some p =>
      obtain ⟨id, rfl⟩ := h.block w.key p hop hp
      obtain ⟨old, hold⟩ := Option.isSome_iff_exists.mp (h.live hp)
      simp only [Heap.read, Option.bind_some, hold]
      split
      · exact ⟨r, rfl, h, rfl⟩
      · exact hnew
  | drop k =>
    simp only [Pointers.exec, PointerOp.onCells, Cells.clear, Pointers.cells]
    cases hp : r.ptr k with
    | none => exact ⟨r, rfl, h, rfl⟩
    | some p =>
      obtain ⟨v, rfl⟩ := h.static k p hop hp
      simp only [Heap.read, Option.bind_some]
      refine ⟨_, rfl, h.assign hop none, Cells.ext (funext fun k' => ?_) rfl⟩
      by_cases hne : k' = k
      · simp [hne]
      · simp [Function.update_of_ne hne]
  | release k =>
    simp only [Pointers.exec, PointerOp.onCells, Cells.clear, Pointers.cells]
    obtain ⟨heap, hfree, hown, hread⟩ := h.free hop
    cases hp : r.ptr k with
    | none => exact ⟨r, rfl, h, rfl⟩
    | some p =>
      obtain ⟨id, rfl⟩ := h.block k p hop hp
      obtain ⟨old, hold⟩ := Option.isSome_iff_exists.mp (h.live hp)
      rw [hp] at hfree
      simp only [hfree, Heap.read, Option.bind_some, hold]
      refine ⟨_, rfl, ⟨hown.static, hown.block, hown.distinct, hown.apart, hown.bounded, hown.kept,
        hown.ledger⟩, Cells.ext (funext fun k' => ?_) rfl⟩
      by_cases hne : k' = k
      · simp [hne]
      · simp only [Function.update_of_ne hne]
        exact hread k' hne

/-- **A program of such statements never faults and leaves the blocks of others alone.** -/
theorem execAll {ops : List (PointerOp κ ν)} (hops : ∀ op ∈ ops, op.Fits owns) :
    ∀ {r : Pointers κ ν}, Owned owns others r →
      ∃ r', r.execAll ops = some r' ∧ Owned owns others r' ∧
        r'.cells = ops.foldl PointerOp.onCells r.cells := by
  induction ops with
  | nil => exact fun {r} h => ⟨r, rfl, h, rfl⟩
  | cons op ops ih =>
    intro r h
    obtain ⟨r₁, hexec, h₁, hcells₁⟩ := h.exec (hops op List.mem_cons_self)
    obtain ⟨r₂, hrest, h₂, hcells₂⟩ := ih (fun o ho => hops o (List.mem_cons_of_mem _ ho)) h₁
    refine ⟨r₂, ?_, h₂, by rw [hcells₂, hcells₁, List.foldl_cons]⟩
    rw [Pointers.execAll, hexec]
    exact hrest

end Owned

end Owned

/-! ## Several records as one

A family of records is one record whose keys have the member of the family as a part, and whose values
may be of several kinds.
-/

namespace PointerOp

variable {κ κ' ν ν' : Type*} {f : κ → κ'} {g : ν → ν'} {back : ν' → Option ν}

/--
The statement about other keys and values. `back` recovers a value for the test of an `update`.
-/
def map (f : κ → κ') (g : ν → ν') (back : ν' → Option ν) : PointerOp κ ν → PointerOp κ' ν'
  | assign k v => assign (f k) (g v)
  | renew k v => renew (f k) (g v)
  | update w => update { key := f w.key, value := g w.value, keep := fun v => (back v).any w.keep }
  | drop k => drop (f k)
  | release k => release (f k)

theorem fits_map {owns : κ' → Bool} {op : PointerOp κ ν} :
    (op.map f g back).Fits owns ↔ op.Fits fun k => owns (f k) := by
  cases op <;> rfl

variable [DecidableEq κ] [DecidableEq κ']

/-- What a statement leaves in a cell depends on the cells alone, not on the mark. -/
theorem get_onCells_map (hf : Function.Injective f) (hg : ∀ v, back (g v) = some v)
    {c : Cells κ' ν'} {c' : Cells κ ν} (h : ∀ k, c.get (f k) = (c'.get k).map g)
    (op : PointerOp κ ν) (k : κ) :
    ((op.map f g back).onCells c).get (f k) = ((op.onCells c').get k).map g := by
  have hstore : ∀ j v, (c.store (f j) (g v)).get (f k) = ((c'.store j v).get k).map g := by
    intro j v
    simp only [Cells.get_store, hf.eq_iff, h]
    split <;> rfl
  have hclear : ∀ j, (c.clear (f j)).get (f k) = ((c'.clear j).get k).map g := by
    intro j
    simp only [Cells.get_clear, hf.eq_iff, h]
    split <;> rfl
  cases op with
  | assign j v => exact hstore j v
  | renew j v => exact hstore j v
  | update w =>
    simp only [map, onCells, Cells.write, h]
    cases c'.get w.key with
    | none => exact hstore w.key w.value
    | some old =>
      simp only [Option.map_some, hg, Option.any_some]
      split
      · exact h k
      · exact hstore w.key w.value
  | drop j => exact hclear j
  | release j => exact hclear j

omit [DecidableEq κ] in
/-- A statement leaves the other members of the family alone. -/
theorem get_onCells_of_ne {j : κ'} (hj : ∀ k, j ≠ f k) (c : Cells κ' ν') (op : PointerOp κ ν) :
    ((op.map f g back).onCells c).get j = c.get j := by
  cases op with
  | assign k v => exact Cells.get_store_ne (hj k)
  | renew k v => exact Cells.get_store_ne (hj k)
  | update w => exact Cells.get_write_ne (hj w.key)
  | drop k => exact Cells.get_clear.trans (if_neg (hj k))
  | release k => exact Cells.get_clear.trans (if_neg (hj k))

theorem get_foldl_map (hf : Function.Injective f) (hg : ∀ v, back (g v) = some v) :
    ∀ (ops : List (PointerOp κ ν)) {c : Cells κ' ν'} {c' : Cells κ ν},
      (∀ k, c.get (f k) = (c'.get k).map g) → ∀ k,
        ((ops.map (map f g back)).foldl onCells c).get (f k) = ((ops.foldl onCells c').get k).map g
  | [], _, _, h => h
  | op :: ops, _, _, h => by
    rw [List.map_cons, List.foldl_cons, List.foldl_cons]
    exact get_foldl_map hf hg ops (get_onCells_map hf hg h op)

omit [DecidableEq κ] in
theorem get_foldl_of_ne {j : κ'} (hj : ∀ k, j ≠ f k) : ∀ (ops : List (PointerOp κ ν))
    (c : Cells κ' ν'), ((ops.map (map f g back)).foldl onCells c).get j = c.get j
  | [], _ => rfl
  | op :: ops, c => by
    rw [List.map_cons, List.foldl_cons, get_foldl_of_ne hj ops, get_onCells_of_ne hj]

end PointerOp

/-! ## Records with names

Records that are made one after the other are numbered. A name belongs to the last record made for it.
-/

/-- How many records were made, and the number of the one of each name. -/
structure Directory (ι : Type*) where
  count : Nat
  index : ι → Nat

namespace Directory

variable {ι : Type*} {d : Directory ι} {live live' : ι → Prop} {n n' : ι}

/-- Nothing made yet. -/
def empty : Directory ι where
  count := 0
  index _ := 0

/-- Names that are live have records of their own. -/
structure Lists (d : Directory ι) (live : ι → Prop) : Prop where
  lt : ∀ n, live n → d.index n < d.count
  apart : ∀ n n', live n → live n' → d.index n = d.index n' → n = n'

theorem lists_empty (h : ∀ n, ¬live n) : (empty : Directory ι).Lists live where
  lt n hn := absurd hn (h n)
  apart n _ hn := absurd hn (h n)

theorem Lists.mono (h : d.Lists live) (hle : ∀ n, live' n → live n) : d.Lists live' where
  lt n hn := h.lt n (hle n hn)
  apart n n' hn hn' := h.apart n n' (hle n hn) (hle n' hn')

variable [DecidableEq ι]

/-- A new record for a name. -/
def add (d : Directory ι) (n : ι) : Directory ι where
  count := d.count + 1
  index := Function.update d.index n d.count

theorem index_add_self : (d.add n).index n = d.count := Function.update_self ..

theorem index_add_ne (h : n' ≠ n) : (d.add n).index n' = d.index n' := Function.update_of_ne h ..

theorem Lists.add (h : d.Lists live) (n : ι) (hlive : ∀ n', n' ≠ n → live' n' → live n') :
    (d.add n).Lists live' := by
  have hold : ∀ n', n' ≠ n → live' n' → (d.add n).index n' < d.count := by
    intro n' hne hn'
    rw [index_add_ne hne]
    exact h.lt n' (hlive n' hne hn')
  refine ⟨fun n' hn' => ?_, fun n₁ n₂ h₁ h₂ hsame => ?_⟩
  · show (d.add n).index n' < d.count + 1
    by_cases heq : n' = n
    · rw [heq, index_add_self]
      exact Nat.lt_succ_self _
    · exact Nat.lt_succ_of_lt (hold n' heq hn')
  · by_cases heq₁ : n₁ = n <;> by_cases heq₂ : n₂ = n
    · rw [heq₁, heq₂]
    · have hlt := hold n₂ heq₂ h₂
      rw [← hsame, heq₁, index_add_self] at hlt
      exact absurd hlt (Nat.lt_irrefl _)
    · have hlt := hold n₁ heq₁ h₁
      rw [hsame, heq₂, index_add_self] at hlt
      exact absurd hlt (Nat.lt_irrefl _)
    · rw [index_add_ne heq₁, index_add_ne heq₂] at hsame
      exact h.apart n₁ n₂ (hlive n₁ heq₁ h₁) (hlive n₂ heq₂ h₂) hsame

end Directory
