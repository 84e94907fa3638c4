import Mathlib.Data.List.Nodup
import Mathlib.Tactic.Common

/-!
# Hashes of nodes with keys

A hash as the list of its nodes, in the order of an iteration. Adding a node does not look for the
key, so a key may occur twice; `Unique` says that none does. Lookup, deletion and assignment act on
the first node with the key.

* `find_add`, `find_delete`, `find_set` — lookup after each operation
* `mapAccum` — an iteration that changes the values and carries a state
* `deleteAll` — an iteration over the nodes that deletes by key what fails a test
* `Rel` — hashes with the same keys and related values, which every operation keeps related
* `Unique.find_perm` and the like — with unique keys, the order of the nodes does not matter
-/

/-- The nodes of a hash, in the order of an iteration. -/
abbrev Shash (κ ν : Type*) := List (κ × ν)

namespace Shash

variable {κ ν σ : Type*} [DecidableEq κ]

/-- Value of the first node with the key. -/
def find : Shash κ ν → κ → Option ν
  | [], _ => none
  | (j, v) :: rest, k => if j = k then some v else find rest k

/-- Add a node, without a look at the keys present. -/
def add (sh : Shash κ ν) (k : κ) (v : ν) : Shash κ ν := (k, v) :: sh

/-- Delete the first node with the key. -/
def delete : Shash κ ν → κ → Shash κ ν
  | [], _ => []
  | (j, v) :: rest, k => if j = k then rest else (j, v) :: delete rest k

/-- Assign to the value of the first node with the key. -/
def set : Shash κ ν → κ → ν → Shash κ ν
  | [], _, _ => []
  | (j, v) :: rest, k, w => if j = k then (j, w) :: rest else (j, v) :: set rest k w

def keys (sh : Shash κ ν) : List κ := sh.map Prod.fst

/-- No key occurs twice. -/
def Unique (sh : Shash κ ν) : Prop := sh.keys.Nodup

variable {sh : Shash κ ν} {k j : κ} {v w : ν}

@[simp] theorem find_nil : find ([] : Shash κ ν) k = none := rfl

theorem find_cons : find ((j, v) :: sh) k = if j = k then some v else find sh k := rfl

theorem mem_of_find (h : sh.find k = some v) : (k, v) ∈ sh := by
  induction sh with
  | nil => cases h
  | cons n rest ih =>
    obtain ⟨i, u⟩ := n
    rw [find_cons] at h
    by_cases hi : i = k
    · rw [if_pos hi] at h
      rw [hi, Option.some.inj h]
      exact List.mem_cons_self
    · rw [if_neg hi] at h
      exact List.mem_cons_of_mem _ (ih h)

theorem find_eq_none_iff : sh.find k = none ↔ k ∉ sh.keys := by
  induction sh with
  | nil => simp [keys]
  | cons n rest ih =>
    obtain ⟨i, u⟩ := n
    rw [find_cons]
    by_cases hi : i = k
    · simp [hi, keys]
    · rw [if_neg hi, ih]
      simp [keys, Ne.symm hi]

omit [DecidableEq κ] in
theorem Unique.tail {n : κ × ν} (h : Unique (n :: sh)) : Unique sh := (List.nodup_cons.mp h).2

omit [DecidableEq κ] in
theorem Unique.notMem_keys {n : κ × ν} (h : Unique (n :: sh)) : n.1 ∉ sh.keys :=
  (List.nodup_cons.mp h).1

/-- With unique keys, lookup finds every node. -/
theorem Unique.find_of_mem (h : sh.Unique) (hm : (k, v) ∈ sh) : sh.find k = some v := by
  induction sh with
  | nil => cases hm
  | cons n rest ih =>
    rcases List.mem_cons.mp hm with rfl | hrest
    · simp [find]
    · obtain ⟨i, u⟩ := n
      have hmem : k ∈ keys rest := List.mem_map_of_mem hrest
      have hne : i ≠ k := fun he => h.notMem_keys (by rwa [he])
      rw [find_cons, if_neg hne]
      exact ih h.tail hrest

/-! ## Adding -/

theorem find_add : (sh.add k v).find j = if k = j then some v else sh.find j := rfl

theorem Unique.add (h : sh.Unique) (hk : sh.find k = none) : (sh.add k v).Unique :=
  List.nodup_cons.mpr ⟨find_eq_none_iff.mp hk, h⟩

/-! ## Deleting -/

/-- With unique keys, deletion removes the one node with the key. -/
theorem Unique.delete_eq_filter (h : sh.Unique) (k : κ) :
    sh.delete k = sh.filter fun n => n.1 ≠ k := by
  induction sh with
  | nil => rfl
  | cons n rest ih =>
    obtain ⟨i, u⟩ := n
    unfold delete
    by_cases hi : i = k
    · rw [if_pos hi, List.filter_cons_of_neg (by simp [hi])]
      refine (List.filter_eq_self.mpr fun m hm => ?_).symm
      have hmem : m.1 ∈ keys rest := List.mem_map_of_mem hm
      have hne : m.1 ≠ k := fun he => h.notMem_keys (by rwa [hi, ← he])
      simpa using hne
    · rw [if_neg hi, List.filter_cons_of_pos (by simp [hi]), ih h.tail]

omit [DecidableEq κ] in
theorem Unique.filter (h : sh.Unique) (p : κ × ν → Bool) : Unique (List.filter p sh) :=
  h.sublist (List.filter_sublist.map Prod.fst)

theorem Unique.find_filter (h : sh.Unique) (p : κ × ν → Bool) :
    find (List.filter p sh) k = (sh.find k).filter fun v => p (k, v) := by
  cases hf : sh.find k with
  | none =>
    rw [Option.filter_none, find_eq_none_iff]
    rw [find_eq_none_iff] at hf
    exact fun hm => hf ((List.filter_sublist.map Prod.fst).subset hm)
  | some v =>
    have hm := mem_of_find hf
    by_cases hp : p (k, v)
    · simp only [Option.filter, hp, if_true]
      exact (h.filter p).find_of_mem (List.mem_filter.mpr ⟨hm, hp⟩)
    · simp only [Option.filter, hp, Bool.false_eq_true, if_false]
      rw [find_eq_none_iff]
      intro hk
      obtain ⟨⟨i, u⟩, hmem, rfl⟩ := List.mem_map.mp hk
      rw [List.mem_filter] at hmem
      have hu := h.find_of_mem hmem.1
      rw [hf] at hu
      rw [Option.some.inj hu] at hp
      exact hp hmem.2

theorem Unique.mem_keys_filter (h : sh.Unique) (p : κ × ν → Bool) :
    k ∈ keys (List.filter p sh) ↔ ∃ v, sh.find k = some v ∧ p (k, v) = true := by
  have hiff : find (List.filter p sh) k = none ↔ _ := find_eq_none_iff
  rw [← not_iff_not, ← hiff, h.find_filter, Option.filter_eq_none_iff]
  simp

/-- What remains where the nodes that do not pass the test are left out. -/
theorem Unique.find_without (h : sh.Unique) (keep : ν → Bool) {g : κ × ν → Bool}
    (hg : ∀ n, g n = !keep n.2) :
    (if k ∈ keys (List.filter g sh) then none else sh.find k) = (sh.find k).filter keep := by
  cases hfind : sh.find k with
  | none => rw [ite_self, Option.filter_none]
  | some v =>
    have hkeys := h.mem_keys_filter (k := k) g
    rw [Option.filter_some]
    cases hkeep : keep v with
    | true =>
      rw [if_neg, if_pos rfl]
      intro hm
      obtain ⟨v', hv', hv⟩ := hkeys.mp hm
      obtain rfl := Option.some.inj (hfind.symm.trans hv')
      simp [hg, hkeep] at hv
    | false => rw [if_pos (hkeys.mpr ⟨v, hfind, by simp [hg, hkeep]⟩), if_neg Bool.false_ne_true]

/-! ## Assigning -/

@[simp] theorem keys_set : (sh.set k w).keys = sh.keys := by
  induction sh with
  | nil => rfl
  | cons n rest ih =>
    obtain ⟨i, u⟩ := n
    unfold set
    by_cases hi : i = k
    · rw [if_pos hi]
      rfl
    · rw [if_neg hi]
      exact congrArg (i :: ·) ih

theorem Unique.set (h : sh.Unique) : (sh.set k w).Unique := by
  rw [Unique, keys_set]
  exact h

theorem find_set_self (h : sh.find k = some v) : (sh.set k w).find k = some w := by
  induction sh with
  | nil => cases h
  | cons n rest ih =>
    obtain ⟨i, u⟩ := n
    unfold set
    by_cases hi : i = k
    · rw [if_pos hi, find_cons, if_pos hi]
    · rw [find_cons, if_neg hi] at h
      rw [if_neg hi, find_cons, if_neg hi]
      exact ih h

theorem find_set_ne (h : j ≠ k) : (sh.set k w).find j = sh.find j := by
  induction sh with
  | nil => rfl
  | cons n rest ih =>
    obtain ⟨i, u⟩ := n
    unfold set
    by_cases hi : i = k
    · rw [if_pos hi, find_cons, find_cons, if_neg (hi ▸ h.symm), if_neg (hi ▸ h.symm)]
    · rw [if_neg hi, find_cons, find_cons, ih]

/-- An assignment changes one node, the first with the key, in its place. -/
theorem exists_split_of_find (h : sh.find k = some v) :
    ∃ pre post : Shash κ ν, sh = pre ++ (k, v) :: post ∧ k ∉ pre.keys ∧
      ∀ w, sh.set k w = pre ++ (k, w) :: post := by
  induction sh with
  | nil => cases h
  | cons n rest ih =>
    obtain ⟨i, u⟩ := n
    rw [find_cons] at h
    by_cases hi : i = k
    · rw [if_pos hi] at h
      obtain rfl := Option.some.inj h
      refine ⟨[], rest, by rw [hi]; rfl, by simp [keys], fun w => ?_⟩
      unfold set
      rw [if_pos hi, hi]
      rfl
    · rw [if_neg hi] at h
      obtain ⟨pre, post, heq, hk, hset⟩ := ih h
      refine ⟨(i, u) :: pre, post, by rw [heq]; rfl, ?_, fun w => ?_⟩
      · intro hmem
        rcases List.mem_cons.mp hmem with rfl | hmem
        · exact hi rfl
        · exact hk hmem
      · unfold set
        rw [if_neg hi, hset]
        rfl

/-- With unique keys, each node after an assignment is the assigned one or one from before. -/
theorem Unique.mem_set (h : sh.Unique) {u : ν} (hfind : sh.find k = some v)
    (hm : (j, u) ∈ sh.set k w) : (j = k ∧ u = w) ∨ (j, u) ∈ sh := by
  have hfind' := (h.set (k := k) (w := w)).find_of_mem hm
  by_cases hj : j = k
  · subst hj
    rw [find_set_self hfind] at hfind'
    exact Or.inl ⟨rfl, (Option.some.inj hfind').symm⟩
  · rw [find_set_ne hj] at hfind'
    exact Or.inr (mem_of_find hfind')

/-! ## Iterations -/

theorem find_map_values {ν' : Type*} (f : ν → ν') :
    find (List.map (fun n => (n.1, f n.2)) sh) k = (sh.find k).map f := by
  induction sh with
  | nil => rfl
  | cons n rest ih =>
    obtain ⟨i, u⟩ := n
    rw [List.map_cons, find_cons, find_cons]
    by_cases hi : i = k
    · simp [hi]
    · rw [if_neg hi, if_neg hi, ih]

/-- Change each value in turn, carrying a state. -/
def mapAccum (f : ν → σ → ν × σ) : Shash κ ν → σ → Shash κ ν × σ
  | [], s => ([], s)
  | (k, v) :: rest, s =>
    let (v, s) := f v s
    let (rest, s) := mapAccum f rest s
    ((k, v) :: rest, s)

omit [DecidableEq κ] in
@[simp] theorem keys_mapAccum (f : ν → σ → ν × σ) :
    ∀ (sh : Shash κ ν) (s : σ), (mapAccum f sh s).1.keys = sh.keys
  | [], _ => rfl
  | (k, _) :: rest, _ => congrArg (k :: ·) (keys_mapAccum f rest _)

omit [DecidableEq κ] in
theorem Unique.mapAccum (h : sh.Unique) (f : ν → σ → ν × σ) (s : σ) :
    (mapAccum f sh s).1.Unique := by
  rw [Unique, keys_mapAccum]
  exact h

omit [DecidableEq κ] in
/-- Each node after the iteration comes from one before, changed in some state of an invariant. -/
theorem mem_mapAccum_of_invariant {f : ν → σ → ν × σ} {I : σ → Prop} :
    ∀ {sh : Shash κ ν} {s : σ}, (∀ k v, (k, v) ∈ sh → ∀ s, I s → I (f v s).2) → I s →
      (k, w) ∈ (mapAccum f sh s).1 → ∃ v s', (k, v) ∈ sh ∧ I s' ∧ w = (f v s').1
  | (i, u) :: rest, s, hf, hI, hm => by
    rcases List.mem_cons.mp hm with he | hm
    · obtain ⟨rfl, rfl⟩ := Prod.mk.inj he
      exact ⟨u, s, List.mem_cons_self, hI, rfl⟩
    · obtain ⟨v, s', hv, hs', rfl⟩ := mem_mapAccum_of_invariant
        (fun k v hm => hf k v (List.mem_cons_of_mem _ hm)) (hf i u List.mem_cons_self s hI) hm
      exact ⟨v, s', List.mem_cons_of_mem _ hv, hs', rfl⟩

omit [DecidableEq κ] in
/-- Each node after the iteration comes from one before, changed in some state on the way. -/
theorem mem_mapAccum {f : ν → σ → ν × σ} {sh : Shash κ ν} {s : σ}
    (hm : (k, w) ∈ (mapAccum f sh s).1) : ∃ v s', (k, v) ∈ sh ∧ w = (f v s').1 := by
  obtain ⟨v, s', hv, -, hw⟩ := mem_mapAccum_of_invariant (I := fun _ => True)
    (fun _ _ _ _ _ => trivial) trivial hm
  exact ⟨v, s', hv, hw⟩

omit [DecidableEq κ] in
/-- Each node before the iteration is changed in some state on the way. -/
theorem mem_mapAccum_of_mem {f : ν → σ → ν × σ} : ∀ {sh : Shash κ ν} {s : σ},
    (k, v) ∈ sh → ∃ s', (k, (f v s').1) ∈ (mapAccum f sh s).1
  | (i, u) :: rest, s, hm => by
    rcases List.mem_cons.mp hm with he | hm
    · obtain ⟨rfl, rfl⟩ := Prod.mk.inj he
      exact ⟨s, List.mem_cons_self⟩
    · obtain ⟨s', hs'⟩ := mem_mapAccum_of_mem (s := (f u s).2) hm
      exact ⟨s', List.mem_cons_of_mem _ hs'⟩

omit [DecidableEq κ] in
/-- What the change of each value keeps of the state, the iteration keeps. -/
theorem mapAccum_invariant {f : ν → σ → ν × σ} {I : σ → Prop} : ∀ (sh : Shash κ ν) {s : σ},
    (∀ k v, (k, v) ∈ sh → ∀ s, I s → I (f v s).2) → I s → I (mapAccum f sh s).2
  | [], _, _, hI => hI
  | (i, u) :: rest, s, hf, hI =>
    mapAccum_invariant rest (fun k v hm => hf k v (List.mem_cons_of_mem _ hm))
      (hf i u List.mem_cons_self s hI)

omit [DecidableEq κ] in
/-- Where each value changes the same way in every state of an invariant, the iteration is a map. -/
theorem mapAccum_eq_map {f : ν → σ → ν × σ} {g : ν → ν} {I : σ → Prop} :
    ∀ {sh : Shash κ ν} {s : σ},
    (∀ k v, (k, v) ∈ sh → ∀ s, I s → (f v s).1 = g v ∧ I (f v s).2) → I s →
      (mapAccum f sh s).1 = sh.map fun n => (n.1, g n.2)
  | [], _, _, _ => rfl
  | (i, u) :: rest, s, hf, hI => by
    obtain ⟨hval, hkeep⟩ := hf i u List.mem_cons_self s hI
    have hrest := mapAccum_eq_map (fun k v hm => hf k v (List.mem_cons_of_mem _ hm)) hkeep
    unfold mapAccum
    dsimp only
    rw [hval, hrest]
    rfl

omit [DecidableEq κ] in
/-- What an iteration costs where the change of each value costs at most `c`. -/
theorem mapAccum_cost {f : ν → σ → ν × σ} {m : σ → Nat} {c : Nat} : ∀ (sh : Shash κ ν) {s : σ},
    (∀ k v, (k, v) ∈ sh → ∀ s, m (f v s).2 ≤ m s + c) →
      m (mapAccum f sh s).2 ≤ m s + c * sh.length
  | [], _, _ => Nat.le_refl _
  | (i, u) :: rest, s, hf => by
    have hrest := mapAccum_cost rest (s := (f u s).2)
      fun k v hm => hf k v (List.mem_cons_of_mem _ hm)
    have hone := hf i u List.mem_cons_self s
    rw [List.length_cons, Nat.mul_succ]
    exact Nat.le_trans hrest (by omega)

omit [DecidableEq κ] in
/-- Iterations that do the same to the values, over a state and over its image. -/
theorem mapAccum_hom {τ : Type*} {f : ν → σ → ν × σ} {g : ν → τ → ν × τ} {m : σ → τ}
    (h : ∀ v s, g v (m s) = (f v s).map id m) : ∀ {sh : Shash κ ν} {s : σ},
    mapAccum g sh (m s) = (mapAccum f sh s).map id m
  | [], _ => rfl
  | (k, v) :: rest, s => by
    unfold mapAccum
    rw [h]
    dsimp only [Prod.map, id]
    rw [mapAccum_hom h]
    rfl

/-- Look at each node and delete by key those that fail a test. -/
def deleteAll (keep : κ × ν → Bool) (keyOf : κ × ν → κ) (sh : Shash κ ν) : Shash κ ν :=
  List.foldl (fun acc n => if keep n then acc else delete acc (keyOf n)) sh sh

/-- The iteration of `deleteAll` over a part of the nodes. -/
theorem Unique.foldl_delete {keep : κ × ν → Bool} {keyOf : κ × ν → κ} :
    ∀ {todo acc : Shash κ ν}, acc.Unique → (∀ n ∈ todo, keyOf n = n.1) →
      List.foldl (fun acc n => if keep n then acc else delete acc (keyOf n)) acc todo =
        List.filter (fun n => !todo.any fun m => !keep m && m.1 = n.1) acc
  | [], acc, _, _ => by simp
  | m :: todo, acc, hu, hkey => by
    have htodo := fun n hn => hkey n (List.mem_cons_of_mem m hn)
    rw [List.foldl_cons]
    by_cases hm : keep m
    · rw [if_pos hm, foldl_delete hu htodo]
      simp [hm]
    · rw [if_neg hm, hkey m List.mem_cons_self, hu.delete_eq_filter,
        foldl_delete (hu.filter _) htodo, List.filter_filter]
      congr 1
      funext n
      by_cases he : n.1 = m.1 <;> simp [hm, he, Ne.symm]

/-- With unique keys and nodes deleted by their own key, the nodes that pass the test remain. -/
theorem Unique.deleteAll_eq_filter (h : sh.Unique) {keep : κ × ν → Bool} {keyOf : κ × ν → κ}
    (hkey : ∀ n ∈ sh, keyOf n = n.1) : sh.deleteAll keep keyOf = List.filter keep sh := by
  rw [deleteAll, h.foldl_delete hkey]
  refine List.filter_congr fun n hn => ?_
  cases hk : keep n with
  | true =>
    simp only [Bool.not_eq_true', List.any_eq_false, Bool.and_eq_true, decide_eq_true_eq, not_and]
    intro m hm hmk he
    have hmn : m = n := Prod.ext he (Option.some.inj
      ((h.find_of_mem hm).symm.trans (he ▸ h.find_of_mem hn)))
    rw [hmn, hk] at hmk
    cases hmk
  | false =>
    simp only [Bool.not_eq_false', List.any_eq_true, Bool.and_eq_true, decide_eq_true_eq]
    exact ⟨n, hn, by rw [hk]; rfl, rfl⟩

theorem Unique.find_deleteAll (h : sh.Unique) {keep : κ × ν → Bool} {keyOf : κ × ν → κ}
    (hkey : ∀ n ∈ sh, keyOf n = n.1) :
    (sh.deleteAll keep keyOf).find k = (sh.find k).filter fun v => keep (k, v) := by
  rw [h.deleteAll_eq_filter hkey]
  exact h.find_filter keep

/-! ## Related hashes -/

section Rel

variable {ν' σ' : Type*} {R : ν → ν' → Prop}

/-- The same keys in the same order, with related values. -/
def Rel (R : ν → ν' → Prop) (sh : Shash κ ν) (sh' : Shash κ ν') : Prop :=
  List.Forall₂ (fun n n' => n.1 = n'.1 ∧ R n.2 n'.2) sh sh'

variable {sh' : Shash κ ν'} {v' : ν'}

omit [DecidableEq κ] in
theorem Rel.mem_left (h : Rel R sh sh') (hm : (k, v) ∈ sh) : ∃ v', (k, v') ∈ sh' ∧ R v v' := by
  induction h with
  | nil => cases hm
  | cons hn _ ih =>
    rcases List.mem_cons.mp hm with rfl | hm
    · obtain ⟨rfl, hv⟩ := hn
      exact ⟨_, List.mem_cons_self, hv⟩
    · obtain ⟨v', hv', hR⟩ := ih hm
      exact ⟨v', List.mem_cons_of_mem _ hv', hR⟩

omit [DecidableEq κ] in
theorem Rel.mem_right (h : Rel R sh sh') (hm : (k, v') ∈ sh') : ∃ v, (k, v) ∈ sh ∧ R v v' := by
  induction h with
  | nil => cases hm
  | cons hn _ ih =>
    rcases List.mem_cons.mp hm with rfl | hm
    · obtain ⟨rfl, hv⟩ := hn
      exact ⟨_, List.mem_cons_self, hv⟩
    · obtain ⟨v, hv, hR⟩ := ih hm
      exact ⟨v, List.mem_cons_of_mem _ hv, hR⟩

theorem Rel.find (h : Rel R sh sh') (k : κ) : Option.Rel R (sh.find k) (sh'.find k) := by
  induction h with
  | nil => exact Option.Rel.none
  | @cons n n' rest rest' hn _ ih =>
    obtain ⟨i, u⟩ := n
    obtain ⟨i', u'⟩ := n'
    obtain ⟨rfl, hu⟩ := hn
    rw [find_cons, find_cons]
    by_cases hi : i = k
    · rw [if_pos hi, if_pos hi]
      exact Option.Rel.some hu
    · rw [if_neg hi, if_neg hi]
      exact ih

omit [DecidableEq κ] in
theorem Rel.add (h : Rel R sh sh') (k : κ) (hv : R v v') : Rel R (sh.add k v) (sh'.add k v') :=
  List.Forall₂.cons ⟨rfl, hv⟩ h

theorem Rel.delete (h : Rel R sh sh') (k : κ) : Rel R (sh.delete k) (sh'.delete k) := by
  induction h with
  | nil => exact List.Forall₂.nil
  | @cons n n' rest rest' hn hrest ih =>
    obtain ⟨i, u⟩ := n
    obtain ⟨i', u'⟩ := n'
    obtain ⟨rfl, hu⟩ := hn
    unfold Shash.delete
    by_cases hi : i = k
    · rw [if_pos hi, if_pos hi]
      exact hrest
    · rw [if_neg hi, if_neg hi]
      exact List.Forall₂.cons ⟨rfl, hu⟩ ih

theorem Rel.set (h : Rel R sh sh') (k : κ) (hv : R v v') : Rel R (sh.set k v) (sh'.set k v') := by
  induction h with
  | nil => exact List.Forall₂.nil
  | @cons n n' rest rest' hn hrest ih =>
    obtain ⟨i, u⟩ := n
    obtain ⟨i', u'⟩ := n'
    obtain ⟨rfl, hu⟩ := hn
    unfold Shash.set
    by_cases hi : i = k
    · rw [if_pos hi, if_pos hi]
      exact List.Forall₂.cons ⟨rfl, hv⟩ hrest
    · rw [if_neg hi, if_neg hi]
      exact List.Forall₂.cons ⟨rfl, hu⟩ ih

/-- Deletions that look at what is related in the same way. -/
theorem Rel.deleteAll {keep : κ × ν → Bool} {keep' : κ × ν' → Bool} {keyOf : κ × ν → κ}
    {keyOf' : κ × ν' → κ} (h : Rel R sh sh')
    (hkeep : ∀ k v v', R v v' → keep (k, v) = keep' (k, v'))
    (hkey : ∀ k v v', R v v' → keyOf (k, v) = keyOf' (k, v')) :
    Rel R (sh.deleteAll keep keyOf) (sh'.deleteAll keep' keyOf') := by
  have hloop : ∀ {todo : Shash κ ν} {todo' : Shash κ ν'}, Rel R todo todo' →
      ∀ {acc : Shash κ ν} {acc' : Shash κ ν'}, Rel R acc acc' →
        Rel R (List.foldl (fun acc n => if keep n then acc else Shash.delete acc (keyOf n)) acc todo)
          (List.foldl (fun acc n => if keep' n then acc else Shash.delete acc (keyOf' n))
            acc' todo') := by
    intro todo todo' htodo
    induction htodo with
    | nil => exact id
    | @cons n n' rest rest' hn _ ih =>
      obtain ⟨i, u⟩ := n
      obtain ⟨i', u'⟩ := n'
      obtain ⟨rfl, hu⟩ := hn
      intro acc acc' hacc
      rw [List.foldl_cons, List.foldl_cons, hkeep i u u' hu, hkey i u u' hu]
      refine ih ?_
      split
      · exact hacc
      · exact hacc.delete _
  exact hloop h h

omit [DecidableEq κ] in
/-- Iterations that keep related values and states related. -/
theorem Rel.mapAccum {S : σ → σ' → Prop} {f : ν → σ → ν × σ} {f' : ν' → σ' → ν' × σ'}
    (hf : ∀ v v' s s', R v v' → S s s' → R (f v s).1 (f' v' s').1 ∧ S (f v s).2 (f' v' s').2)
    (h : Rel R sh sh') : ∀ {s : σ} {s' : σ'}, S s s' →
      Rel R (Shash.mapAccum f sh s).1 (Shash.mapAccum f' sh' s').1 ∧
        S (Shash.mapAccum f sh s).2 (Shash.mapAccum f' sh' s').2 := by
  induction h with
  | nil => exact fun hs => ⟨List.Forall₂.nil, hs⟩
  | @cons n n' rest rest' hn _ ih =>
    obtain ⟨i, u⟩ := n
    obtain ⟨i', u'⟩ := n'
    obtain ⟨rfl, hu⟩ := hn
    intro s s' hs
    obtain ⟨hu', hs'⟩ := hf u u' s s' hu hs
    obtain ⟨hrest', hs''⟩ := ih hs'
    exact ⟨List.Forall₂.cons ⟨rfl, hu'⟩ hrest', hs''⟩

end Rel

/-! ## Other orders -/

section Perm

variable {sh' : Shash κ ν}

omit [DecidableEq κ] in
theorem Unique.perm (h : sh.Unique) (hp : sh.Perm sh') : sh'.Unique :=
  (hp.map Prod.fst).nodup_iff.mp h

/-- With unique keys, lookup does not depend on the order. -/
theorem Unique.find_perm (h : sh.Unique) (hp : sh.Perm sh') (k : κ) : sh.find k = sh'.find k := by
  cases hf : sh.find k with
  | some v => exact ((h.perm hp).find_of_mem (hp.mem_iff.mp (mem_of_find hf))).symm
  | none =>
    rw [find_eq_none_iff] at hf
    exact (find_eq_none_iff.mpr fun hm => hf ((hp.map Prod.fst).mem_iff.mpr hm)).symm

theorem Unique.set_eq_map (h : sh.Unique) (k : κ) (w : ν) :
    sh.set k w = List.map (fun n => if n.1 = k then (n.1, w) else n) sh := by
  induction sh with
  | nil => rfl
  | cons n rest ih =>
    obtain ⟨i, u⟩ := n
    unfold Shash.set
    rw [List.map_cons]
    by_cases hi : i = k
    · rw [if_pos hi, if_pos hi]
      refine congrArg _ (((List.map_congr_left fun m hm => ?_).trans (List.map_id rest)).symm)
      have hmem : m.1 ∈ keys rest := List.mem_map_of_mem hm
      exact if_neg fun he => h.notMem_keys (by rwa [hi, ← he])
    · rw [if_neg hi, if_neg hi, ih h.tail]

theorem Unique.set_perm (h : sh.Unique) (hp : sh.Perm sh') (k : κ) (w : ν) :
    (sh.set k w).Perm (sh'.set k w) := by
  rw [h.set_eq_map, (h.perm hp).set_eq_map]
  exact hp.map _

theorem Unique.deleteAll_perm (h : sh.Unique) (hp : sh.Perm sh') {keep : κ × ν → Bool}
    {keyOf : κ × ν → κ} (hkey : ∀ n ∈ sh, keyOf n = n.1) :
    (sh.deleteAll keep keyOf).Perm (sh'.deleteAll keep keyOf) := by
  rw [h.deleteAll_eq_filter hkey,
    (h.perm hp).deleteAll_eq_filter fun n hn => hkey n (hp.mem_iff.mpr hn)]
  exact hp.filter _

end Perm

end Shash
