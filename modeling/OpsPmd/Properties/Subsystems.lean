import OpsPmd.DaemonInvariant

/-!
# Reading the files of a subsystem

`ovsdb_if_subsys_process` records a subsystem before it reads its files, and takes a recorded one
for one whose files were read. The record is the one table of what is known and of what was read.

* `reconfigureCalls` — `pmd_reconfigure` with a log of the calls of `pm_read_yaml_files` and of
  `ovsdb_if_intf_create`
* `heeds_iff` — one processing of a subsystem heeds a failed read exactly if it finds no record
  after one
* `subsystems_heeded_iff` — the same for a run of `pmd_reconfigure`
-/

namespace OpsPmd

variable {σ : Type} {P : Platform σ}

/-! ## A log of calls -/

/-- A call on behalf of a row of the Subsystem table. -/
inductive SubsysCall
  /-- `pm_read_yaml_files`, with what it returned. -/
  | read (row : Uuid) (rc : Int)
  /-- `ovsdb_if_intf_create`. -/
  | create (row : Uuid) (instanceName : String)
  deriving DecidableEq, Repr

/-- The daemon with the calls so far. -/
abbrev Logged (σ : Type) := Pmd σ × List SubsysCall

section Calls

variable (P : Platform σ)

/-- The body of the loop of `ovsdb_if_subsys_process` with its call. -/
def createCall (sub : Subsystem) (w : Logged σ) (intf : Interface) : Logged σ :=
  match w.1.ovsIntfs.find intf.name with
  | none => (ovsdbIfIntfCreate P intf sub.name w.1, w.2 ++ [.create sub.uuid intf.name])
  | some _ => w

/-- `createInterfaces` with its calls. -/
def createCalls (sub : Subsystem) (intfs : List Interface) (w : Logged σ) : Logged σ :=
  intfs.foldl (createCall P sub) w

/-- `ovsdb_if_subsys_process` with its calls. -/
def processCalls (idl : Idl) (files : Subsystem → YamlFiles) (w : Logged σ) (sub : Subsystem) :
    Logged σ :=
  match w.1.ovsSubs.find sub.name with
  | some _ => createCalls P sub (idl.interfacesOf sub) w
  | none =>
    let d :=
      { w.1 with
        ovsSubs := w.1.ovsSubs.add sub.name sub.uuid
        yaml := Function.update w.1.yaml sub.name (files sub).ports }
    let log := w.2 ++ [.read sub.uuid (files sub).rc]
    if (files sub).rc ≠ 0 then (d, log)
    else createCalls P sub (idl.interfacesOf sub) (d, log)

/-- A call of `pmd_reconfigure`: what the IDL has and what the files are. -/
structure Reconfiguration where
  idl : Idl
  seqno : Nat
  files : Subsystem → YamlFiles

/-- The daemon when `pmd_reconfigure` gets to the subsystems. -/
def Reconfiguration.afterDeletions (call : Reconfiguration) (d : Pmd σ) : Pmd σ :=
  deleteSubsystems call.idl (deleteInterfaces call.idl { d with idlSeqno := call.seqno })

/-- `pmd_reconfigure` with its calls. -/
def reconfigureCalls (w : Logged σ) (call : Reconfiguration) : Logged σ :=
  if call.seqno = w.1.idlSeqno then w
  else
    let w := call.idl.subsystems.foldl (processCalls P call.idl call.files)
      (call.afterDeletions w.1, w.2)
    (call.idl.interfaces.foldl (modifyInterface P) w.1, w.2)

end Calls

/-! ## The log does not matter -/

theorem createCalls_fst (sub : Subsystem) : ∀ (intfs : List Interface) (w : Logged σ),
    (createCalls P sub intfs w).1 = createInterfaces P sub.name intfs w.1
  | [], _ => rfl
  | intf :: intfs, w => by
    have hone : (createCall P sub w intf).1 =
        match w.1.ovsIntfs.find intf.name with
        | none => ovsdbIfIntfCreate P intf sub.name w.1
        | some _ => w.1 := by
      unfold createCall
      cases w.1.ovsIntfs.find intf.name <;> rfl
    have hrest := createCalls_fst sub intfs (createCall P sub w intf)
    rw [hone] at hrest
    exact hrest

theorem processCalls_fst (idl : Idl) (files : Subsystem → YamlFiles) (w : Logged σ)
    (sub : Subsystem) :
    (processCalls P idl files w sub).1 = ovsdbIfSubsysProcess P idl files w.1 sub := by
  unfold processCalls ovsdbIfSubsysProcess
  cases w.1.ovsSubs.find sub.name with
  | some _ => exact createCalls_fst sub _ w
  | none =>
    dsimp only
    split
    · rfl
    · exact createCalls_fst sub _ _

theorem foldl_processCalls_fst (idl : Idl) (files : Subsystem → YamlFiles) :
    ∀ (subs : List Subsystem) (w : Logged σ), (subs.foldl (processCalls P idl files) w).1 =
      subs.foldl (ovsdbIfSubsysProcess P idl files) w.1
  | [], _ => rfl
  | sub :: subs, w => by
    rw [List.foldl_cons, List.foldl_cons, foldl_processCalls_fst idl files subs,
      processCalls_fst]

theorem reconfigureCalls_fst (w : Logged σ) (call : Reconfiguration) :
    (reconfigureCalls P w call).1 = pmdReconfigure P call.idl call.seqno call.files w.1 := by
  unfold reconfigureCalls pmdReconfigure
  split
  · rfl
  · exact congrArg (List.foldl (modifyInterface P) · call.idl.interfaces)
      (foldl_processCalls_fst call.idl call.files call.idl.subsystems _)

/-- **Without its log, a logged run is a run of `pmd_reconfigure`.** -/
theorem exec_reconfigureCalls_fst : ∀ (calls : List Reconfiguration) (w : Logged σ),
    (Run.exec (reconfigureCalls P) w calls).1 =
      calls.foldl (fun d call => pmdReconfigure P call.idl call.seqno call.files d) w.1
  | [], _ => rfl
  | call :: calls, w => by
    rw [Run.exec_cons, exec_reconfigureCalls_fst calls, reconfigureCalls_fst, List.foldl_cons]

/-! ## What the log says of a row -/

/-- What `pm_read_yaml_files` returned last for a row. -/
def lastRead (row : Uuid) : List SubsysCall → Option Int
  | [] => none
  | .read row' rc :: log => (lastRead row log).or (if row' = row then some rc else none)
  | .create _ _ :: log => lastRead row log

theorem mem_of_lastRead {row : Uuid} {rc : Int} : ∀ {log : List SubsysCall},
    lastRead row log = some rc → .read row rc ∈ log
  | .read row' rc' :: log, h => by
    rcases Option.or_eq_some_iff.mp h with h | ⟨-, h⟩
    · exact List.mem_cons_of_mem _ (mem_of_lastRead h)
    · by_cases hrow : row' = row
      · rw [if_pos hrow] at h
        obtain rfl := Option.some.inj h
        rw [hrow]
        exact List.mem_cons_self ..
      · rw [if_neg hrow] at h
        cases h
  | .create _ _ :: log, h => by
    have hlog : lastRead row log = some rc := h
    exact List.mem_cons_of_mem _ (mem_of_lastRead hlog)

theorem notMem_of_lastRead_none {row : Uuid} {rc : Int} : ∀ {log : List SubsysCall},
    lastRead row log = none → .read row rc ∉ log
  | [], _ => List.not_mem_nil
  | .read row' rc' :: log, h => by
    obtain ⟨hlog, hhead⟩ := Option.or_eq_none_iff.mp h
    rintro hm
    rcases List.mem_cons.mp hm with heq | hm
    · obtain ⟨rfl, rfl⟩ := SubsysCall.read.inj heq
      rw [if_pos rfl] at hhead
      cases hhead
    · exact notMem_of_lastRead_none hlog hm
  | .create _ _ :: log, h => by
    have hlog : lastRead row log = none := h
    rintro hm
    rcases List.mem_cons.mp hm with heq | hm
    · cases heq
    · exact notMem_of_lastRead_none hlog hm

/-! ## One processing -/

/-- The interfaces of a subsystem all have ports, so that none has to be created. -/
def AllCreated (intfs : List Interface) (d : Pmd σ) : Prop :=
  ∀ intf ∈ intfs, (d.ovsIntfs.find intf.name).isSome = true

/-- The calls of the loop over the interfaces: none only if all have ports. -/
theorem createCalls_log (sub : Subsystem) : ∀ (intfs : List Interface) (w : Logged σ),
    ∃ new, (createCalls P sub intfs w).2 = w.2 ++ new ∧
      (∀ call ∈ new, ∃ name, call = .create sub.uuid name) ∧
      (new = [] ↔ AllCreated intfs w.1)
  | [], w => ⟨[], by simp [createCalls], by simp, by simp [AllCreated]⟩
  | intf :: intfs, w => by
    obtain ⟨new, hlog, hnew, hnil⟩ := createCalls_log sub intfs (createCall P sub w intf)
    have hstep : createCalls P sub (intf :: intfs) w =
        createCalls P sub intfs (createCall P sub w intf) := rfl
    rw [hstep]
    cases hfind : w.1.ovsIntfs.find intf.name with
    | none =>
      have hcall : createCall P sub w intf =
          (ovsdbIfIntfCreate P intf sub.name w.1, w.2 ++ [.create sub.uuid intf.name]) := by
        rw [createCall, hfind]
      rw [hcall] at hlog ⊢
      refine ⟨.create sub.uuid intf.name :: new, by rw [hlog, List.append_assoc]; rfl, ?_, ?_⟩
      · rintro call hm
        rcases List.mem_cons.mp hm with rfl | hm
        · exact ⟨_, rfl⟩
        · exact hnew call hm
      · refine iff_of_false (by simp) fun hall => ?_
        have hsome := hall intf (List.mem_cons_self ..)
        rw [hfind] at hsome
        cases hsome
    | some port =>
      have hcall : createCall P sub w intf = w := by rw [createCall, hfind]
      rw [hcall] at hlog hnil ⊢
      refine ⟨new, hlog, hnew, hnil.trans ?_⟩
      unfold AllCreated
      rw [List.forall_mem_cons, hfind]
      exact (and_iff_right rfl).symm

/--
A processing of a subsystem heeds what the reads for its row returned: it creates interfaces only
after a read that returned 0, and reads again if the last read failed.
-/
def Heeds (P : Platform σ) (idl : Idl) (files : Subsystem → YamlFiles) (w : Logged σ)
    (sub : Subsystem) : Prop :=
  ∃ new, (processCalls P idl files w sub).2 = w.2 ++ new ∧
    (∀ pre name post, new = pre ++ .create sub.uuid name :: post →
      .read sub.uuid 0 ∈ w.2 ++ pre) ∧
    ∀ rc, lastRead sub.uuid w.2 = some rc → rc ≠ 0 → ∃ rc', .read sub.uuid rc' ∈ new

/--
The subsystem is not recorded, or the last read for its row returned 0. If the record is that of
another row and nothing was read for this one, its interfaces have ports already.
-/
def ReadBefore (idl : Idl) (w : Logged σ) (sub : Subsystem) : Prop :=
  w.1.ovsSubs.find sub.name = none ∨ lastRead sub.uuid w.2 = some 0 ∨
    lastRead sub.uuid w.2 = none ∧ AllCreated (idl.interfacesOf sub) w.1

/-- A subsystem that is not recorded is read first. -/
theorem heeds_of_unrecorded {idl : Idl} {files : Subsystem → YamlFiles} {w : Logged σ}
    {sub : Subsystem} (hfind : w.1.ovsSubs.find sub.name = none) : Heeds P idl files w sub := by
  unfold Heeds processCalls
  rw [hfind]
  dsimp only
  by_cases hrc : (files sub).rc ≠ 0
  · rw [if_pos hrc]
    refine ⟨[.read sub.uuid (files sub).rc], rfl, fun pre name post hnew => ?_,
      fun _ _ _ => ⟨_, List.mem_singleton_self _⟩⟩
    have hm : SubsysCall.create sub.uuid name ∈ [.read sub.uuid (files sub).rc] := by
      rw [hnew]
      simp
    cases List.mem_singleton.mp hm
  · rw [if_neg hrc]
    obtain ⟨new, hlog, -, -⟩ := createCalls_log (P := P) sub (idl.interfacesOf sub)
      ({ w.1 with
          ovsSubs := w.1.ovsSubs.add sub.name sub.uuid
          yaml := Function.update w.1.yaml sub.name (files sub).ports },
        w.2 ++ [.read sub.uuid (files sub).rc])
    refine ⟨.read sub.uuid (files sub).rc :: new, by rw [hlog, List.append_assoc]; rfl,
      fun pre name post hnew => ?_, fun _ _ _ => ⟨_, List.mem_cons_self ..⟩⟩
    cases pre with
    | nil => cases (List.cons.inj hnew).1
    | cons call pre =>
      -- the read comes before everything else
      obtain ⟨rfl, -⟩ := List.cons.inj hnew
      rw [not_not.mp hrc]
      simp

/-- **A processing heeds the reads if and only if its row was read before, unless it reads it.** -/
theorem heeds_iff (P : Platform σ) (idl : Idl) (files : Subsystem → YamlFiles) (w : Logged σ)
    (sub : Subsystem) : Heeds P idl files w sub ↔ ReadBefore idl w sub := by
  cases hfind : w.1.ovsSubs.find sub.name with
  | none => exact iff_of_true (heeds_of_unrecorded hfind) (Or.inl hfind)
  | some row =>
    obtain ⟨new, hlog, hnew, hnil⟩ := createCalls_log (P := P) sub (idl.interfacesOf sub) w
    have hproc : (processCalls P idl files w sub).2 = w.2 ++ new := by
      rw [processCalls, hfind]
      exact hlog
    have hnone : ¬w.1.ovsSubs.find sub.name = none := by simp [hfind]
    -- a recorded subsystem is not read, so all calls are creations
    have hread : ∀ rc', .read sub.uuid rc' ∉ new := by
      rintro rc' hm
      obtain ⟨name, heq⟩ := hnew _ hm
      cases heq
    constructor
    · rintro ⟨new', hlog', hcreate, hagain⟩
      obtain rfl := List.append_cancel_left (hproc.symm.trans hlog')
      right
      cases hlast : lastRead sub.uuid w.2 with
      | some rc =>
        left
        by_contra hrc
        obtain ⟨rc', hm⟩ := hagain rc hlast fun h0 => hrc (by rw [h0])
        exact hread rc' hm
      | none =>
        refine Or.inr ⟨rfl, hnil.mp ?_⟩
        cases new with
        | nil => rfl
        | cons call post =>
          obtain ⟨name, rfl⟩ := hnew call (List.mem_cons_self ..)
          have hm := hcreate [] name post rfl
          rw [List.append_nil] at hm
          exact absurd hm (notMem_of_lastRead_none hlast)
    · rintro (h | hlast | ⟨hlast, hall⟩)
      · exact absurd h hnone
      · refine ⟨new, hproc, fun pre name post _ => ?_, fun rc hrc hne => ?_⟩
        · exact List.mem_append_left pre (mem_of_lastRead hlast)
        · rw [hlast] at hrc
          exact absurd (Option.some.inj hrc).symm hne
      · refine ⟨new, hproc, fun pre name post heq => ?_, fun rc hrc _ => ?_⟩
        · rw [hnil.mpr hall] at heq
          cases pre <;> cases heq
        · rw [hlast] at hrc
          cases hrc

/-! ## Runs -/

/-- Each processing of a subsystem in a call of `pmd_reconfigure`. -/
def Reconfiguration.Each (P : Platform σ) (call : Reconfiguration)
    (Q : Logged σ → Subsystem → Prop) (w : Logged σ) : Prop :=
  call.seqno = w.1.idlSeqno ∨
    Run.Along (processCalls P call.idl call.files) Q (call.afterDeletions w.1, w.2)
      call.idl.subsystems

/--
**A run of `pmd_reconfigure` heeds every failed read if and only if no subsystem is processed as a
recorded one after its read failed.** The run starts in any state, with any calls before it.
-/
theorem subsystems_heeded_iff (P : Platform σ) (w : Logged σ) (calls : List Reconfiguration) :
    Run.Along (reconfigureCalls P)
        (fun w call => call.Each P (Heeds P call.idl call.files) w) w calls ↔
      Run.Along (reconfigureCalls P)
        (fun w call => call.Each P (ReadBefore call.idl) w) w calls := by
  have hone : ∀ (w : Logged σ) (call : Reconfiguration),
      call.Each P (Heeds P call.idl call.files) w ↔ call.Each P (ReadBefore call.idl) w := by
    intro w call
    refine or_congr Iff.rfl ⟨?_, ?_⟩
    · exact Run.Along.mono fun w sub => (heeds_iff P call.idl call.files w sub).mp
    · exact Run.Along.mono fun w sub => (heeds_iff P call.idl call.files w sub).mpr
  exact ⟨Run.Along.mono fun w call => (hone w call).mp,
    Run.Along.mono fun w call => (hone w call).mpr⟩

/-- The files of the one subsystem cannot be read, and the database changes once more. -/
theorem failed_read_not_heeded :
    let w : Logged SimData := ({ idlSeqno := 0, world := {} }, [])
    let files : Subsystem → YamlFiles := fun _ => { rc := -1, ports := [] }
    let calls : List Reconfiguration := [⟨onePortIdl, 1, files⟩, ⟨onePortIdl, 2, files⟩]
    (Run.exec (reconfigureCalls simulation) w calls).2 = [.read 2 (-1), .create 2 "1"] ∧
      ¬Run.Along (reconfigureCalls simulation)
        (fun w call => call.Each simulation (Heeds simulation call.idl call.files) w) w calls := by
  refine ⟨by decide +kernel, ?_⟩
  rintro ⟨-, hsecond, -⟩
  rcases hsecond with hseqno | ⟨hheeds, -⟩
  · revert hseqno
    decide +kernel
  · have hbefore := (heeds_iff _ _ _ _ _).mp hheeds
    revert hbefore
    unfold ReadBefore AllCreated
    decide +kernel

end OpsPmd
