import OpsPmd.Sim

/-!
# The answers of the simulation commands

A command of `ops-pmd/sim` should be answered once, and leave all modules in their ports if the
answer is an error. Two paths miss this: the usage error is not sent, and an insertion takes the old
module out before it knows that there is a new one.

* `Atomic` — what a command should do
* `atomic_remove` — removals do it
* `atomic_insert_iff` — insertions do it exactly where no module gets lost
-/

namespace OpsPmd

variable {ovsIntfs : Shash String SimPort} {files : String → Option (List UInt8)}
  {interface file : String} {args : List String} {p : SimPort}

/-! ## What a command should do -/

/-- The `module_data` of each port. -/
def moduleDatas (ovsIntfs : Shash String SimPort) : List (String × Option Page) :=
  ovsIntfs.map fun node => (node.1, node.2.world.moduleData)

/-- What a command asks to be put into a port: the first bytes of a file, or nothing. -/
inductive Requests (files : String → Option (List UInt8)) : List String → Option Page → Prop
  | insert {file : String} {content : List UInt8} {data : Page} (hopen : files file = some content)
    (hread : List.ofFn data = content.take 128) : Requests files ["insert", file] (some data)
  | remove : Requests files ["remove"] none

/-- The first port of this name gets other `module_data`, and nothing else changes. -/
def Replaced (interface : String) (data : Option Page) (before after : Shash String SimPort) :
    Prop :=
  ∃ (pre post : Shash String SimPort) (p : SimPort), interface ∉ pre.keys ∧
    before = pre ++ (interface, p) :: post ∧
    after = pre ++ (interface, p.setModuleData data) :: post

/-- A command is answered once, and does all it should or nothing. -/
structure Atomic (ovsIntfs : Shash String SimPort) (files : String → Option (List UInt8))
    (interface : String) (args : List String) : Prop where
  once : ∃ reply, (pmdUnixctlSim ovsIntfs files interface args).1 = [reply]
  error : ∀ text, .error text ∈ (pmdUnixctlSim ovsIntfs files interface args).1 →
    moduleDatas (pmdUnixctlSim ovsIntfs files interface args).2 = moduleDatas ovsIntfs
  ok : ∀ text, .ok text ∈ (pmdUnixctlSim ovsIntfs files interface args).1 →
    ∃ data, Requests files args data ∧
      Replaced interface data ovsIntfs (pmdUnixctlSim ovsIntfs files interface args).2

/-! ## One assignment -/

theorem replaced_set (h : ovsIntfs.find interface = some p) (data : Option Page) :
    Replaced interface data ovsIntfs (ovsIntfs.set interface (p.setModuleData data)) := by
  obtain ⟨pre, post, heq, hk, hset⟩ := Shash.exists_split_of_find h
  exact ⟨pre, post, p, hk, heq, hset _⟩

/-- Replacing `module_data` goes unseen only if it is the same as before. -/
theorem moduleDatas_set (h : ovsIntfs.find interface = some p) (data : Option Page) :
    moduleDatas (ovsIntfs.set interface (p.setModuleData data)) = moduleDatas ovsIntfs ↔
      data = p.world.moduleData := by
  obtain ⟨pre, post, heq, -, hset⟩ := Shash.exists_split_of_find h
  rw [hset, heq]
  simp [moduleDatas, SimPort.setModuleData]

/-- The bytes `fread` gets, where there are enough. -/
theorem ofFn_getD {n : Nat} {content : List UInt8} (h : n ≤ content.length) :
    List.ofFn (fun i : Fin n => content.getD i 0) = content.take n := by
  refine List.ext_getElem (by simpa using h) fun i hi _ => ?_
  have hi' : i < content.length := by
    rw [List.length_ofFn] at hi
    omega
  simp [List.getD_eq_getElem?_getD, List.getElem?_eq_getElem hi']

/-! ## The commands -/

theorem pmdUnixctlSim_insert : pmdUnixctlSim ovsIntfs files interface ["insert", file] =
    if (pmdSimInsert ovsIntfs files interface file).1 < 0 then
      ([.error (pmdSimInsert ovsIntfs files interface file).2.1],
        (pmdSimInsert ovsIntfs files interface file).2.2)
    else
      ([.ok (pmdSimInsert ovsIntfs files interface file).2.1],
        (pmdSimInsert ovsIntfs files interface file).2.2) := rfl

theorem pmdUnixctlSim_remove : pmdUnixctlSim ovsIntfs files interface ["remove"] =
    if (pmdSimRemove ovsIntfs interface).1 < 0 then
      ([.error (pmdSimRemove ovsIntfs interface).2.1], (pmdSimRemove ovsIntfs interface).2.2)
    else
      ([.ok (pmdSimRemove ovsIntfs interface).2.1], (pmdSimRemove ovsIntfs interface).2.2) := rfl

/-- A command with one of two answers is atomic if each answer comes with its effect. -/
theorem atomic_of_answer {r : Int × String × Shash String SimPort}
    (h : pmdUnixctlSim ovsIntfs files interface args =
      if r.1 < 0 then ([.error r.2.1], r.2.2) else ([.ok r.2.1], r.2.2)) :
    Atomic ovsIntfs files interface args ↔
      (r.1 < 0 → moduleDatas r.2.2 = moduleDatas ovsIntfs) ∧
      (¬r.1 < 0 → ∃ data, Requests files args data ∧ Replaced interface data ovsIntfs r.2.2) := by
  by_cases hrc : r.1 < 0
  · rw [if_pos hrc] at h
    constructor
    · rintro ⟨-, herror, -⟩
      rw [h] at herror
      exact ⟨fun _ => herror _ (List.mem_singleton.mpr rfl), fun hok => absurd hrc hok⟩
    · rintro ⟨herror, -⟩
      refine ⟨⟨_, by rw [h]⟩, fun _ _ => ?_, fun text hok => ?_⟩
      · rw [h]
        exact herror hrc
      · rw [h] at hok
        simp at hok
  · rw [if_neg hrc] at h
    constructor
    · rintro ⟨-, -, hok⟩
      rw [h] at hok
      exact ⟨fun herror => absurd herror hrc, fun _ => hok _ (List.mem_singleton.mpr rfl)⟩
    · rintro ⟨-, hok⟩
      refine ⟨⟨_, by rw [h]⟩, fun text herror => ?_, fun _ _ => ?_⟩
      · rw [h] at herror
        simp at herror
      · rw [h]
        exact hok hrc

theorem pmdSimRemove_of_find (h : ovsIntfs.find interface = some p) :
    pmdSimRemove ovsIntfs interface =
      (p.remove.1, p.remove.2.1, ovsIntfs.set interface p.remove.2.2) := by
  unfold pmdSimRemove
  rw [h]

theorem pmdSimInsert_of_find (h : ovsIntfs.find interface = some p) :
    pmdSimInsert ovsIntfs files interface file =
      ((p.insert (files file)).1, (p.insert (files file)).2.1,
        ovsIntfs.set interface (p.insert (files file)).2.2) := by
  unfold pmdSimInsert
  rw [h]

/-- A command for a port there is not is answered by an error, and nothing happens. -/
theorem atomic_of_unknown (text : String)
    (h : pmdUnixctlSim ovsIntfs files interface args = ([.error text], ovsIntfs)) :
    Atomic ovsIntfs files interface args where
  once := ⟨.error text, by rw [h]⟩
  error _ _ := by rw [h]
  ok text' hok := by
    rw [h] at hok
    simp at hok

/-- **Removals are atomic.** Nothing is freed where there is nothing to remove. -/
theorem atomic_remove : Atomic ovsIntfs files interface ["remove"] := by
  cases hp : ovsIntfs.find interface with
  | none =>
    refine atomic_of_unknown "No such interface" ?_
    rw [pmdUnixctlSim_remove, pmdSimRemove, hp]
    rfl
  | some p =>
    rw [atomic_of_answer pmdUnixctlSim_remove, pmdSimRemove_of_find hp]
    unfold SimPort.remove
    by_cases hdata : p.world.moduleData.isNone = true
    · simp only [if_pos hdata]
      refine ⟨fun _ => ?_, fun hok => absurd (by decide) hok⟩
      exact (moduleDatas_set hp p.world.moduleData).mpr rfl
    · simp only [if_neg hdata]
      refine ⟨fun herror => absurd herror (by decide), fun _ => ?_⟩
      exact ⟨none, .remove, replaced_set hp none⟩

/-! ## Insertions -/

/-- The file can be opened and is long enough. -/
def Readable (files : String → Option (List UInt8)) (file : String) : Prop :=
  ∃ content, files file = some content ∧ 128 ≤ content.length

/-- A port that is there, has a module and is to get one from a file that cannot be read. -/
def LosesModule (ovsIntfs : Shash String SimPort) (files : String → Option (List UInt8))
    (interface file : String) : Prop :=
  ∃ p, ovsIntfs.find interface = some p ∧ p.world.moduleData ≠ none ∧ ¬Readable files file

theorem insert_of_readable {content : List UInt8} (h : 128 ≤ content.length) (p : SimPort) :
    p.insert (some content) =
      (0, "Pluggable module inserted", p.setModuleData (some fun i => content.getD i 0)) := by
  simp only [SimPort.insert, freadPage, if_pos h]
  rfl

/-- An insertion that fails leaves the port empty. -/
theorem insert_of_not_readable (h : ¬Readable files file) (p : SimPort) :
    (p.insert (files file)).1 = -1 ∧ (p.insert (files file)).2.2 = p.setModuleData none := by
  unfold SimPort.insert
  cases hfile : files file with
  | none => exact ⟨rfl, rfl⟩
  | some content =>
    have hshort : freadPage content = none := if_neg fun hlen => h ⟨content, hfile, hlen⟩
    dsimp only
    rw [hshort]
    exact ⟨rfl, rfl⟩

/-- **Insertions are atomic exactly where no module gets lost.** -/
theorem atomic_insert_iff : Atomic ovsIntfs files interface ["insert", file] ↔
    ¬LosesModule ovsIntfs files interface file := by
  cases hp : ovsIntfs.find interface with
  | none =>
    refine iff_of_true (atomic_of_unknown "No such interface" ?_) ?_
    · rw [pmdUnixctlSim_insert, pmdSimInsert, hp]
      rfl
    · rintro ⟨p, hfind, -⟩
      rw [hp] at hfind
      cases hfind
  | some p =>
    rw [atomic_of_answer pmdUnixctlSim_insert, pmdSimInsert_of_find hp]
    by_cases hread : Readable files file
    · obtain ⟨content, hfile, hlen⟩ := hread
      rw [hfile, insert_of_readable hlen]
      refine iff_of_true ⟨fun herror => absurd herror (Int.lt_irrefl 0), fun _ => ?_⟩ ?_
      · exact ⟨_, .insert hfile (ofFn_getD hlen), replaced_set hp _⟩
      · rintro ⟨-, -, -, hno⟩
        exact hno ⟨content, hfile, hlen⟩
    · obtain ⟨hrc, hport⟩ := insert_of_not_readable hread p
      simp only [hrc, hport]
      have hlost := moduleDatas_set hp none
      constructor
      · rintro ⟨herror, -⟩ ⟨q, hq, hdata, -⟩
        obtain rfl := Option.some.inj (hp.symm.trans hq)
        exact hdata (hlost.mp (herror (by decide))).symm
      · intro hkeep
        refine ⟨fun _ => hlost.mpr ?_, fun hok => absurd (by decide) hok⟩
        by_contra hdata
        exact hkeep ⟨p, hp, Ne.symm hdata, hread⟩

/-! ## All commands -/

/-- A command that is none gets no answer. -/
theorem not_atomic_of_usage (hremove : args ≠ ["remove"])
    (hinsert : ∀ file, args ≠ ["insert", file]) : ¬Atomic ovsIntfs files interface args := by
  -- the text is put together, and the function returns before it sends it
  have hnone : (pmdUnixctlSim ovsIntfs files interface args).1 = [] := by
    rcases args with _ | ⟨command, _ | ⟨file, _ | ⟨_, _⟩⟩⟩
    · rfl
    · have hne : ¬(command == "remove") = true := by simpa using hremove
      simp only [pmdUnixctlSim, if_neg hne]
    · have hne : ¬(command == "insert") = true := by simpa using hinsert file
      simp only [pmdUnixctlSim, if_neg hne]
    · rfl
  rintro ⟨⟨reply, honce⟩, -, -⟩
  rw [hnone] at honce
  cases honce

/--
**A simulation command is atomic exactly if it is a removal, or an insertion by which no module gets
lost.** Any other command should be answered and is not.
-/
theorem atomic_iff (ovsIntfs : Shash String SimPort) (files : String → Option (List UInt8))
    (interface : String) (args : List String) : Atomic ovsIntfs files interface args ↔
      args = ["remove"] ∨
        ∃ file, args = ["insert", file] ∧ ¬LosesModule ovsIntfs files interface file := by
  by_cases hremove : args = ["remove"]
  · rw [hremove]
    exact iff_of_true atomic_remove (Or.inl rfl)
  by_cases hinsert : ∃ file, args = ["insert", file]
  · obtain ⟨file, rfl⟩ := hinsert
    rw [atomic_insert_iff]
    simp
  · refine iff_of_false (not_atomic_of_usage hremove fun file hfile => hinsert ⟨file, hfile⟩) ?_
    rintro (h | ⟨file, h, -⟩)
    · exact hremove h
    · exact hinsert ⟨file, h⟩

/-- A usage error goes unanswered, and a file that is missing costs the port its module. -/
theorem commands_not_atomic :
    ¬Atomic [("1", simulatedSlot)] (fun _ => none) "1" ["insert"] ∧
      ¬Atomic [("1", simulatedSlot)] (fun _ => none) "1" ["insert", "missing"] := by
  refine ⟨not_atomic_of_usage (by decide) (by simp), ?_⟩
  rw [atomic_insert_iff, not_not]
  refine ⟨simulatedSlot, rfl, by simp [simulatedSlot, newSlot], ?_⟩
  rintro ⟨content, hfile, -⟩
  cases hfile

end OpsPmd
