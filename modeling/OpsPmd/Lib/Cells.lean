import Mathlib.Logic.Function.Basic
import Mathlib.Data.List.Nodup

/-!
# Optional cells with a change mark

A record of optional values indexed by `κ`, with one mark that says some value was stored or
cleared since the mark was last taken down. There are three primitives: an unconditional store,
a store that is skipped when the old value passes a test, and a clear.

* `Tracks c c'` — between `c` and `c'` either the mark went up or nothing happened
* `get_writeAll_of_mem` — in a list of writes with distinct keys each cell sees its own write only
* `get_write_eq_iff` — when a skipping store agrees with an unconditional one
-/

/-- Optional values with one change mark. -/
@[ext] structure Cells (κ ν : Type*) where
  get : κ → Option ν
  changed : Bool

/-- A store that leaves an old value passing `keep` in place. -/
structure Write (κ ν : Type*) where
  key : κ
  value : ν
  keep : ν → Bool

namespace Cells

variable {κ ν : Type*}

/-- All cells empty, mark down. -/
def empty : Cells κ ν := { get := fun _ => none, changed := false }

@[simp] theorem get_empty (k : κ) : (empty : Cells κ ν).get k = none := rfl

@[simp] theorem changed_empty : (empty : Cells κ ν).changed = false := rfl

/-- Take the mark down. -/
def settle (c : Cells κ ν) : Cells κ ν := { c with changed := false }

@[simp] theorem get_settle (c : Cells κ ν) : c.settle.get = c.get := rfl

@[simp] theorem changed_settle (c : Cells κ ν) : c.settle.changed = false := rfl

/-- The mark is up, or nothing happened since `c`. -/
def Tracks (c c' : Cells κ ν) : Prop := c'.changed = true ∨ c' = c

@[simp] theorem Tracks.refl (c : Cells κ ν) : Tracks c c := Or.inr rfl

theorem Tracks.trans {c c' c'' : Cells κ ν} (h : Tracks c c') (h' : Tracks c' c'') :
    Tracks c c'' := by
  rcases h' with h' | rfl
  · exact Or.inl h'
  · exact h

/-- The mark never goes down by itself. -/
theorem Tracks.changed {c c' : Cells κ ν} (h : Tracks c c') (hc : c.changed = true) :
    c'.changed = true := by
  rcases h with h | rfl
  · exact h
  · exact hc

variable [DecidableEq κ] {c c' : Cells κ ν} {k k' : κ} {v : ν}

/-- Store unconditionally. -/
def store (c : Cells κ ν) (k : κ) (v : ν) : Cells κ ν :=
  { get := Function.update c.get k (some v), changed := true }

/-- Store, unless the cell holds a value that passes `w.keep`. -/
def write (c : Cells κ ν) (w : Write κ ν) : Cells κ ν :=
  match c.get w.key with
  | none => c.store w.key w.value
  | some old => if w.keep old then c else c.store w.key w.value

/-- Empty a cell. Only a cell that held something raises the mark. -/
def clear (c : Cells κ ν) (k : κ) : Cells κ ν :=
  match c.get k with
  | none => c
  | some _ => { get := Function.update c.get k none, changed := true }

/-- A list of writes, in order. -/
def writeAll (c : Cells κ ν) (ws : List (Write κ ν)) : Cells κ ν := ws.foldl write c

/-- A list of clears, in order. -/
def clearAll (c : Cells κ ν) (ks : List κ) : Cells κ ν := ks.foldl clear c

/-! ## What each primitive leaves in a cell -/

@[simp] theorem changed_store : (c.store k v).changed = true := rfl

theorem get_store : (c.store k v).get k' = if k' = k then some v else c.get k' := by
  simp [store, Function.update_apply]

@[simp] theorem get_store_self : (c.store k v).get k = some v := by simp [get_store]

theorem get_store_ne (h : k' ≠ k) : (c.store k v).get k' = c.get k' := by simp [get_store, h]

theorem get_clear : (c.clear k).get k' = if k' = k then none else c.get k' := by
  unfold clear
  split
  · next h =>
    split
    · next hk => rw [hk, h]
    · rfl
  · simp [Function.update_apply]

theorem get_write_ne {w : Write κ ν} (h : k ≠ w.key) : (c.write w).get k = c.get k := by
  unfold write
  split
  · exact get_store_ne h
  · split
    · rfl
    · exact get_store_ne h

theorem get_write_self {w : Write κ ν} :
    (c.write w).get w.key =
      some (match c.get w.key with
        | none => w.value
        | some old => if w.keep old then old else w.value) := by
  unfold write
  cases h : c.get w.key with
  | none => simp
  | some old => cases hk : w.keep old <;> simp [h, hk]

theorem get_write_of_none {w : Write κ ν} (h : c.get w.key = none) :
    (c.write w).get w.key = some w.value := by
  rw [get_write_self, h]

/-- A skipping store agrees with an unconditional one unless it keeps a different old value. -/
theorem get_write_eq_iff {w : Write κ ν} :
    (c.write w).get w.key = some w.value ↔
      ∀ old, c.get w.key = some old → w.keep old = true → old = w.value := by
  rw [get_write_self]
  cases h : c.get w.key with
  | none => simp
  | some old => cases hk : w.keep old <;> simp [hk]

/-! ## Lists of writes and of clears -/

@[simp] theorem writeAll_nil : c.writeAll [] = c := rfl

@[simp] theorem writeAll_cons (w : Write κ ν) (ws : List (Write κ ν)) :
    c.writeAll (w :: ws) = (c.write w).writeAll ws := rfl

theorem get_writeAll_of_notMem : ∀ {ws : List (Write κ ν)} {c : Cells κ ν},
    k ∉ ws.map Write.key → (c.writeAll ws).get k = c.get k
  | [], _, _ => rfl
  | w :: ws, c, h => by
    simp only [List.map_cons, List.mem_cons, not_or] at h
    rw [writeAll_cons, get_writeAll_of_notMem h.2, get_write_ne h.1]

/-- With distinct keys, each cell is left as its own write alone would leave it. -/
theorem get_writeAll_of_mem {w : Write κ ν} : ∀ {ws : List (Write κ ν)} {c : Cells κ ν},
    (ws.map Write.key).Nodup → w ∈ ws → (c.writeAll ws).get w.key = (c.write w).get w.key
  | u :: ws, c, hnd, hw => by
    rw [List.map_cons, List.nodup_cons] at hnd
    rw [writeAll_cons]
    rcases List.mem_cons.mp hw with rfl | hw
    · exact get_writeAll_of_notMem hnd.1
    · have hne : w.key ≠ u.key := fun h => hnd.1 (h ▸ List.mem_map_of_mem hw)
      rw [get_writeAll_of_mem hnd.2 hw, get_write_self, get_write_self, get_write_ne hne]

theorem get_writeAll_isSome {ws : List (Write κ ν)} (hnd : (ws.map Write.key).Nodup)
    (h : k ∈ ws.map Write.key) : ((c.writeAll ws).get k).isSome := by
  obtain ⟨w, hw, rfl⟩ := List.mem_map.mp h
  rw [get_writeAll_of_mem hnd hw, get_write_self]
  rfl

@[simp] theorem clearAll_nil : c.clearAll [] = c := rfl

@[simp] theorem clearAll_cons (k : κ) (ks : List κ) :
    c.clearAll (k :: ks) = (c.clear k).clearAll ks := rfl

theorem get_clearAll : ∀ {ks : List κ} {c : Cells κ ν},
    (c.clearAll ks).get k = if k ∈ ks then none else c.get k
  | [], _ => by simp
  | j :: ks, c => by
    rw [clearAll_cons, get_clearAll, get_clear]
    by_cases h1 : k ∈ ks <;> by_cases h2 : k = j <;> simp [h1, h2]

/-! ## The mark -/

theorem tracks_store : Tracks c (c.store k v) := Or.inl rfl

theorem tracks_write (w : Write κ ν) : Tracks c (c.write w) := by
  unfold write
  split
  · exact tracks_store
  · split
    · exact Tracks.refl c
    · exact tracks_store

theorem tracks_clear : Tracks c (c.clear k) := by
  unfold clear
  split
  · exact Tracks.refl c
  · exact Or.inl rfl

theorem tracks_writeAll : ∀ (ws : List (Write κ ν)) (c : Cells κ ν), Tracks c (c.writeAll ws)
  | [], c => Tracks.refl c
  | w :: ws, c => (tracks_write w).trans (tracks_writeAll ws (c.write w))

theorem tracks_clearAll : ∀ (ks : List κ) (c : Cells κ ν), Tracks c (c.clearAll ks)
  | [], c => Tracks.refl c
  | k :: ks, c => tracks_clear.trans (tracks_clearAll ks (c.clear k))

end Cells
