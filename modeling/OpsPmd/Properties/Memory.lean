import OpsPmd.Placement
import OpsPmd.SubsystemInvariant
import OpsPmd.Properties.FailedWrites

/-!
# The memory of the daemon

What `Placed` says holds in every state of the daemon: each port and each entry of `ovs_subs` has in
memory what it has in the model. The commands of the simulation are in `Properties.SimulatedMemory`.

* `Housed.Sound` — the invariant, with a lemma for each function of the daemon
* `memory_safe` — no run frees or reads a block that is not allocated, or frees a constant
* `memory_ledger` — which blocks are allocated after a run: those of the ports and of the entries of
  `ovs_subs` there are, and of a deleted port the name of its subsystem and its diagnostic columns
-/

namespace OpsPmd

/-! ## The daemon -/

/-- What the ports are in memory. `data` is the `module_data` of each. -/
def portContents (data : String → Option Page) (ports : Shash String PmPort) (n : String) :
    Option (Member → Option Contents) :=
  (ports.find n).map fun p => p.contents (data n)

section Daemon

variable {σ : Type} {P : Platform σ} {simulated : Bool} {heap : Heap Contents}
  {data : String → Option Page}

/-- The memory has what the ports and the entries of `ovs_subs` hold. -/
structure Housed.Sound (simulated : Bool) (heap : Heap Contents) (data : String → Option Page)
    (w : Housed σ) : Prop where
  keyed : Keyed w.pmd.ovsIntfs
  unique : w.pmd.ovsSubs.Unique
  /-- Only a port that is there has `module_data`. -/
  absent : ∀ n, w.pmd.ovsIntfs.find n = none → data n = none
  hardware : ∀ n, (data n).isSome = true → simulated = true
  placed : ∃ r, Placed simulated heap (portContents data w.pmd.ovsIntfs) w.pmd.ovsSubs.find
    w.memory r

theorem portContents_add {ports : Shash String PmPort} {intf : Interface} (subName : String)
    (y : YamlPort) (hdata : data intf.name = none) :
    portContents data (ports.add intf.name (newPort intf subName y)) =
      Function.update (portContents data ports) intf.name
        (some (newContents intf.name subName)) := by
  funext n
  unfold portContents
  rw [Shash.find_add]
  by_cases heq : n = intf.name
  · rw [heq, Function.update_self, if_pos rfl, Option.map_some, hdata, contents_newPort]
  · rw [Function.update_of_ne heq, if_neg (Ne.symm heq)]

/-- A poll of all ports, with what the ports that were polled before are in `ports`. -/
theorem placed_mapAccum {subs : String → Option Uuid} : ∀ {todo : Shash String PmPort}
    {ports : String → Option (Member → Option Contents)} {s : σ} {m : Memory}
    {r : Pointers Place Contents}, todo.Unique →
      (∀ n p, (n, p) ∈ todo →
        p.instanceName = n ∧ p.Plain ∧ ports n = some (p.contents (data n))) →
      Placed simulated heap ports subs m r →
      ∃ r', Placed simulated heap
        (fun n => (portContents data (todo.mapAccum (Housed.pollPort P) (s, m)).1 n).or (ports n))
        subs (todo.mapAccum (Housed.pollPort P) (s, m)).2.2 r'
  | [], _, _, _, r, _, _, h => ⟨r, h⟩
  | (n, p) :: todo, ports, s, m, r, hu, htodo, h => by
    obtain ⟨hname, hplain, hp⟩ := htodo n p List.mem_cons_self
    have hsame := sameSetup_pmReadModuleState (P := P) hplain.1 hplain.2 s
    -- the statements of the poll leave in memory what the poll leaves in the columns
    obtain ⟨r₁, h₁⟩ := h.perform hp (runs_pmReadModuleState P p s) hsame.toPortId
    have hrest : ∀ n' p', (n', p') ∈ todo → p'.instanceName = n' ∧ p'.Plain ∧
        Function.update ports n (some ((pmReadModuleState P p s).2.1.contents (data n))) n' =
          some (p'.contents (data n')) := by
      intro n' p' hm
      obtain ⟨hname', hplain', hp'⟩ := htodo n' p' (List.mem_cons_of_mem _ hm)
      have hmem : n' ∈ Shash.keys todo := List.mem_map_of_mem hm
      have hne : n' ≠ n := fun heq => hu.notMem_keys (heq ▸ hmem)
      exact ⟨hname', hplain', by rw [Function.update_of_ne hne, hp']⟩
    obtain ⟨r', h'⟩ := placed_mapAccum (s := (pmReadModuleState P p s).2.2) hu.tail hrest h₁
    refine ⟨r', ?_⟩
    have hstep : Shash.mapAccum (Housed.pollPort P) ((n, p) :: todo) (s, m) =
        ((n, (pmReadModuleState P p s).2.1) ::
            (Shash.mapAccum (Housed.pollPort P) todo ((pmReadModuleState P p s).2.2,
              m.perform n (Statements.pmReadModuleState P p s))).1,
          (Shash.mapAccum (Housed.pollPort P) todo ((pmReadModuleState P p s).2.2,
            m.perform n (Statements.pmReadModuleState P p s))).2) := by
      rw [← hname]
      rfl
    rw [hstep]
    refine cast (congrArg (Placed simulated heap · _ _ _) (funext fun n' => ?_)) h'
    have hfresh : n ∉ (Shash.mapAccum (Housed.pollPort P) todo ((pmReadModuleState P p s).2.2,
        m.perform n (Statements.pmReadModuleState P p s))).1.keys := by
      rw [Shash.keys_mapAccum]
      exact hu.notMem_keys
    unfold portContents
    rw [Shash.find_cons]
    by_cases heq : n' = n
    · rw [heq, Shash.find_eq_none_iff.mpr hfresh]
      simp
    · rw [if_neg (Ne.symm heq), Function.update_of_ne heq]

/-- The `module_data` of the ports whose rows are there. -/
def dataAfter (idl : Idl) (ports : Shash String PmPort) (data : String → Option Page) (n : String) :
    Option Page :=
  if ((ports.find n).any fun p => (idl.interfaceForUuid p.uuid).isSome) = true then data n else none

theorem dataAfter_none (idl : Idl) (ports : Shash String PmPort) :
    dataAfter idl ports (fun _ => none) = fun _ => none := by
  funext n
  exact ite_self none

namespace Housed.Sound

variable {w : Housed σ} {idl : Idl}

/-- What changes no port in memory and no entry of `ovs_subs` needs nothing of the memory. -/
theorem congr (h : w.Sound simulated heap data) {d : Pmd σ} (hkeyed : Keyed d.ovsIntfs)
    (hports : portContents data d.ovsIntfs = portContents data w.pmd.ovsIntfs)
    (hsubs : d.ovsSubs = w.pmd.ovsSubs) :
    ({ w with pmd := d } : Housed σ).Sound simulated heap data := by
  obtain ⟨r, hr⟩ := h.placed
  refine ⟨hkeyed, hsubs ▸ h.unique, fun n hn => h.absent n ?_, h.hardware, r, ?_⟩
  · have hsame : (d.ovsIntfs.find n).map _ = (w.pmd.ovsIntfs.find n).map _ := congrFun hports n
    have hn' : d.ovsIntfs.find n = none := hn
    rw [hn', Option.map_none] at hsame
    exact Option.map_eq_none_iff.mp hsame.symm
  · rw [hports, hsubs]
    exact hr

theorem createInterface (h : w.Sound simulated heap data) (subName : String) (intf : Interface) :
    (createInterface P subName w intf).Sound simulated heap data := by
  unfold Housed.createInterface
  cases hfind : w.pmd.ovsIntfs.find intf.name with
  | some _ => exact h
  | none =>
    have hsubs := (ovsSubs_ovsdbIfIntfCreate (P := P) intf subName w.pmd).1
    have hports := (ovsIntfs_ovsdbIfIntfCreate (P := P) intf subName w.pmd).2.2
    have hdata := h.absent intf.name hfind
    obtain ⟨r, hr⟩ := h.placed
    refine ⟨h.keyed.create (P := P) hfind subName, hsubs ▸ h.unique, fun n hn => ?_, h.hardware, ?_⟩
    · -- a port is created, and none is deleted
      have hn' : (ovsdbIfIntfCreate P intf subName w.pmd).ovsIntfs.find n = none := hn
      rw [hports] at hn'
      refine h.absent n ?_
      cases hy : pmGetYamlPort w.pmd.yaml subName intf.name with
      | none =>
        rw [hy] at hn'
        exact hn'
      | some y =>
        rw [hy] at hn'
        dsimp only at hn'
        split at hn'
        · rw [Shash.find_add] at hn'
          split at hn'
          · cases hn'
          · exact hn'
        · exact hn'
    · dsimp only
      rw [hports, hsubs]
      cases pmGetYamlPort w.pmd.yaml subName intf.name with
      | none => exact ⟨r, hr⟩
      | some y =>
        dsimp only
        cases hplug : y.pluggable with
        | false => exact ⟨r, hr⟩
        | true =>
          obtain ⟨r', hr'⟩ := hr.create (n := intf.name) (by rw [portContents, hfind]; rfl) subName
          rw [if_pos rfl, portContents_add subName y hdata]
          exact ⟨r', hr'⟩

theorem createInterfaces (h : w.Sound simulated heap data) (subName : String)
    (intfs : List Interface) :
    (intfs.foldl (Housed.createInterface P subName) w).Sound simulated heap data :=
  List.foldlRecOn (motive := fun w : Housed σ => w.Sound simulated heap data) intfs _ h
    fun _ hw intf _ => hw.createInterface subName intf

theorem subsysProcess (h : w.Sound simulated heap data) (files : Subsystem → YamlFiles)
    (sub : Subsystem) : (subsysProcess P idl files w sub).Sound simulated heap data := by
  unfold Housed.subsysProcess
  cases hfind : w.pmd.ovsSubs.find sub.name with
  | some _ => exact h.createInterfaces sub.name _
  | none =>
    obtain ⟨r, hr⟩ := h.placed
    obtain ⟨r', hr'⟩ := hr.record hfind sub.uuid
    have hadd : (w.pmd.ovsSubs.add sub.name sub.uuid).find =
        Function.update w.pmd.ovsSubs.find sub.name (some sub.uuid) := by
      funext n
      rw [Shash.find_add, Function.update_apply]
      exact if_congr eq_comm rfl rfl
    have hread : (⟨{ w.pmd with
        ovsSubs := w.pmd.ovsSubs.add sub.name sub.uuid
        yaml := Function.update w.pmd.yaml sub.name (files sub).ports },
        w.memory.record sub.name sub.uuid⟩ : Housed σ).Sound simulated heap data :=
      ⟨h.keyed, h.unique.add hfind, h.absent, h.hardware, r', hadd ▸ hr'⟩
    dsimp only
    split
    · exact hread
    · exact hread.createInterfaces sub.name _

theorem subsystems (h : w.Sound simulated heap data) (idl : Idl) (files : Subsystem → YamlFiles)
    (subs : List Subsystem) :
    (subs.foldl (Housed.subsysProcess P idl files) w).Sound simulated heap data :=
  List.foldlRecOn (motive := fun w : Housed σ => w.Sound simulated heap data) subs _ h
    fun _ hw sub _ => hw.subsysProcess files sub

theorem deleteInterfaces (h : w.Sound simulated heap data) (idl : Idl) :
    (Housed.deleteInterfaces idl w).Sound simulated heap (dataAfter idl w.pmd.ovsIntfs data) := by
  obtain ⟨r, hr⟩ := h.placed
  have hfind := h.keyed.find_deleteInterfaces idl
  have hdeleted : ∀ n p,
      (n, p) ∈ w.pmd.ovsIntfs.filter (fun node => (idl.interfaceForUuid node.2.uuid).isNone) →
        p.instanceName = n ∧ portContents data w.pmd.ovsIntfs n = some (p.contents (data n)) := by
    intro n p hm
    have hm' := List.mem_of_mem_filter hm
    exact ⟨h.keyed.key n p hm', by rw [portContents, h.keyed.unique.find_of_mem hm']; rfl⟩
  obtain ⟨r', hr'⟩ := Placed.freeAll (h.keyed.unique.filter _) hdeleted h.hardware hr
  refine ⟨h.keyed.deleteInterfaces idl, h.unique, fun n hn => ?_, fun n hn => ?_, r', ?_⟩
  · have hn' : (OpsPmd.deleteInterfaces idl w.pmd).ovsIntfs.find n = none := hn
    rw [hfind, Option.filter_eq_none_iff] at hn'
    refine if_neg ?_
    rw [Option.any_eq_true]
    rintro ⟨p, hp, hrow⟩
    exact hn' p hp hrow
  · refine h.hardware n ?_
    unfold dataAfter at hn
    split at hn
    · exact hn
    · cases hn
  · refine cast (congrArg (Placed simulated heap · _ _ _) (funext fun n => ?_)) hr'
    have hwithout := h.keyed.unique.find_without (k := n)
      (fun p => (idl.interfaceForUuid p.uuid).isSome)
      (g := fun node => (idl.interfaceForUuid node.2.uuid).isNone) fun _ => by simp
    unfold portContents
    show _ = ((OpsPmd.deleteInterfaces idl w.pmd).ovsIntfs.find n).map _
    rw [hfind, ← Option.map_none, ← apply_ite, hwithout]
    -- of a port that remains, so does `module_data`
    unfold dataAfter
    cases w.pmd.ovsIntfs.find n with
    | none => rfl
    | some p =>
      rw [Option.filter_some, Option.any_some]
      split <;> rfl

theorem deleteSubsystems (h : w.Sound simulated heap data) (idl : Idl) :
    (Housed.deleteSubsystems idl w).Sound simulated heap data := by
  obtain ⟨r, hr⟩ := h.placed
  obtain ⟨r', hr'⟩ := Placed.forgetAll (h.unique.filter _) (fun n hn => by
    obtain ⟨row, hrow, -⟩ := (h.unique.mem_keys_filter _).mp hn
    rw [hrow]
    rfl) hr
  refine ⟨h.keyed, unique_deleteSubsystems h.unique, h.absent, h.hardware, r', ?_⟩
  refine cast (congrArg (Placed simulated heap _ · _ _) (funext fun n => ?_)) hr'
  show _ = (OpsPmd.deleteSubsystems idl w.pmd).ovsSubs.find n
  rw [find_deleteSubsystems h.unique]
  exact h.unique.find_without (fun row => (idl.subsystemForUuid row).isSome) fun _ => by simp

theorem portContents_modifyInterface (d : Pmd σ) (intf : Interface) :
    portContents data (modifyInterface P d intf).ovsIntfs = portContents data d.ovsIntfs := by
  funext n
  unfold portContents
  by_cases heq : n = intf.name
  · rw [heq, find_modifyInterface_self]
    cases d.ovsIntfs.find intf.name <;> rfl
  · rw [find_modifyInterface_ne d intf heq]

theorem reconfigure (h : w.Sound simulated heap data) (idl : Idl) (seqno : Nat)
    (files : Subsystem → YamlFiles) :
    (w.reconfigure P idl seqno files).Sound simulated heap
      (if seqno = w.pmd.idlSeqno then data else dataAfter idl w.pmd.ovsIntfs data) := by
  unfold Housed.reconfigure
  split
  · exact h
  · have hseq : ({ w with pmd := { w.pmd with idlSeqno := seqno } } : Housed σ).Sound simulated heap
        data := h.congr h.keyed rfl rfl
    have hsubs := ((hseq.deleteInterfaces idl).deleteSubsystems idl).subsystems idl files
      idl.subsystems (P := P)
    refine List.foldlRecOn (motive := fun d : Pmd σ => ({ pmd := d, memory := _ } : Housed σ).Sound
      simulated heap _) idl.interfaces _ hsubs fun d hd intf _ => ?_
    exact hd.congr (hd.keyed.modifyInterface intf) (portContents_modifyInterface d intf)
      (ovsSubs_modifyInterfaces [intf] d).1

theorem init (hheap : heap.Bounded) (idl : Idl) (seqno : Nat) (files : Subsystem → YamlFiles)
    (s : σ) : (Housed.init P idl seqno files s heap).Sound simulated heap fun _ => none := by
  have hempty : ({ pmd := { idlSeqno := seqno, world := s }, memory := Memory.empty heap } :
      Housed σ).Sound simulated heap fun _ => none :=
    ⟨Keyed.nil, List.nodup_nil, fun _ _ => rfl, fun _ hn => (Bool.false_ne_true hn).elim, _,
      Placed.empty hheap⟩
  have hsubs := hempty.subsystems idl files idl.subsystems (P := P)
  have hintfs := (ovsIntfs_ovsdbIfIntfConfigure (P := P) idl.interfaces
    (idl.subsystems.foldl (Housed.subsysProcess P idl files)
      { pmd := { idlSeqno := seqno, world := s }, memory := Memory.empty heap }).pmd).2
  exact hsubs.congr (by rw [hintfs]; exact hsubs.keyed) (by rw [hintfs])
    (ovsSubs_configureInterfaces idl.interfaces _).1

theorem readState (h : w.Sound simulated heap data) :
    (w.readState P).Sound simulated heap data := by
  obtain ⟨r, hr⟩ := h.placed
  have htodo : ∀ n p, (n, p) ∈ w.pmd.ovsIntfs → p.instanceName = n ∧ p.Plain ∧
      portContents data w.pmd.ovsIntfs n = some (p.contents (data n)) := by
    intro n p hm
    refine ⟨h.keyed.key n p hm, h.keyed.plain n p hm, ?_⟩
    rw [portContents, h.keyed.unique.find_of_mem hm]
    rfl
  obtain ⟨r', hr'⟩ := placed_mapAccum (P := P) (s := w.pmd.world) h.keyed.unique htodo hr
  -- the ports have the names they had
  have hnames : ∀ n, (w.pmd.ovsIntfs.mapAccum (pollPort P) (w.pmd.world, w.memory)).1.find n = none →
      w.pmd.ovsIntfs.find n = none := by
    intro n hn
    rwa [Shash.find_eq_none_iff, Shash.keys_mapAccum, ← Shash.find_eq_none_iff] at hn
  refine ⟨by rw [Housed.pmd_readState]; exact h.keyed.readState, h.unique,
    fun n hn => h.absent n (hnames n hn), h.hardware, r', ?_⟩
  refine cast (congrArg (Placed simulated heap · _ _ _) (funext fun n => ?_)) hr'
  show _ = portContents data (w.pmd.ovsIntfs.mapAccum (pollPort P) (w.pmd.world, w.memory)).1 n
  unfold portContents
  cases hfind : (w.pmd.ovsIntfs.mapAccum (pollPort P) (w.pmd.world, w.memory)).1.find n with
  | some p => rfl
  | none =>
    rw [hnames n hfind]
    rfl

end Housed.Sound

theorem portContents_update (idl : Idl) (committed : Bool) (d : Pmd σ) (db : Database) :
    portContents data (pmOvsdbUpdate idl committed d db).1.ovsIntfs =
      portContents data d.ovsIntfs := by
  have hcontents : ∀ (p : PmPort) (page : Option Page),
      (p.settled idl).contents page = p.contents page := by
    intro p page
    funext x
    cases x <;> simp only [PmPort.contents, PmPort.get_settled, PmPort.settled_toPortId]
  funext n
  rw [pmOvsdbUpdate_eq]
  unfold portContents
  dsimp only
  rw [Shash.find_map_values, Option.map_map]
  congr 1
  funext p
  exact hcontents p (data n)

/-- Without commands no port has `module_data`. -/
theorem sound_housedStep {w : HousedSystem σ} (h : w.pmd.Sound simulated heap fun _ => none)
    (e : Event σ) : (housedStep P w e).pmd.Sound simulated heap fun _ => none := by
  cases e with
  | idlRun idl seqno => exact h
  | reconfigure files =>
    have hsound := h.reconfigure w.system.idl w.system.seqno files (P := P)
    rwa [dataAfter_none, ite_self] at hsound
  | readState change =>
    exact Housed.Sound.readState (w := {
      pmd := { w.system.pmd with world := change w.system.pmd.world }, memory := w.memory })
      ⟨h.keyed, h.unique, h.absent, h.hardware, h.placed⟩
  | update committed =>
    refine h.congr (h.keyed.update committed w.system.db)
      (portContents_update w.system.idl committed w.system.pmd w.system.db) ?_
    show (pmOvsdbUpdate w.system.idl committed w.system.pmd w.system.db).1.ovsSubs = _
    rw [pmOvsdbUpdate_eq]
    rfl

theorem housedInitial_pmd (P : Platform σ) (idl : Idl) (seqno : Nat) (files : Subsystem → YamlFiles)
    (world : σ) (db : Database) (heap : Heap Contents) :
    (housedInitial P idl seqno files world db heap).pmd =
      Housed.init P idl seqno files world heap := by
  have hpmd : (Housed.init P idl seqno files world heap).pmd =
      pmOvsdbIfInit P idl seqno files world :=
    congrArg (List.foldl (fun d intf => ovsdbIfIntfConfigure P intf d) · idl.interfaces)
      (Housed.pmd_subsystems idl files idl.subsystems _)
  unfold housedInitial HousedSystem.pmd initial
  rw [← hpmd]

theorem sound_exec_housedStep (P : Platform σ) (hheap : heap.Bounded) (idl : Idl) (seqno : Nat)
    (files : Subsystem → YamlFiles) (world : σ) (db : Database) (es : List (Event σ)) :
    (Run.exec (housedStep P) (housedInitial P idl seqno files world db heap) es).pmd.Sound
      false heap fun _ => none := by
  refine Run.exec_inductive
    (I := fun w : HousedSystem σ => w.pmd.Sound false heap fun _ => none)
    (fun w e h => sound_housedStep h e) es ?_
  rw [housedInitial_pmd]
  exact Housed.Sound.init hheap idl seqno files world

/--
**No run of the daemon frees or reads a block that is not allocated, or frees a constant.** Each
port and each entry of `ovs_subs` has in memory what it has in the model, and the blocks of others
are as they were.
-/
theorem memory_safe (P : Platform σ) (hheap : heap.Bounded) (idl : Idl) (seqno : Nat)
    (files : Subsystem → YamlFiles) (world : σ) (db : Database) (es : List (Event σ)) :
    let w := Run.exec (housedStep P) (housedInitial P idl seqno files world db heap) es
    w.system = Run.exec (step P) (initial P idl seqno files world db) es ∧
      ∃ r, w.memory.pointers = some r ∧
        (∀ n p, (n, p) ∈ w.system.pmd.ovsIntfs →
          ∀ x, r.cells.get (.port (w.memory.ports.index n) x) = p.contents none x) ∧
        (∀ n row, (n, row) ∈ w.system.pmd.ovsSubs →
          r.cells.get (.subsystem (w.memory.subsystems.index n)) = some (.uuid row)) ∧
        ∀ id v, heap.blocks id = some v → r.heap.blocks id = some v := by
  intro w
  have hsound := sound_exec_housedStep P hheap idl seqno files world db es
  obtain ⟨r, hr⟩ := hsound.placed
  refine ⟨system_exec_housedStep es _, r, hr.pointers, fun n p hm => ?_, fun n row hm => ?_,
    hr.owned.kept⟩
  · refine hr.ports.stored n _ ?_
    rw [portContents, hsound.keyed.unique.find_of_mem hm]
    rfl
  · exact hr.subsystems.stored n row (hsound.unique.find_of_mem hm)

/-- A module is polled, and the port and its subsystem are deleted. The heap was empty. -/
theorem memory_safe_onePort :
    let bus : Bus := { answers := fun _ => ⟨0, 1, srPage⟩ }
    let es : List (Event Bus) := [.readState id, .update true, .idlRun {} 1,
      .reconfigure onePortFiles]
    let w := Run.exec (housedStep hardware)
      (housedInitial hardware onePortIdl 0 onePortFiles bus emptyDatabase Heap.empty) es
    w.system = Run.exec (step hardware)
        (initial hardware onePortIdl 0 onePortFiles bus emptyDatabase) es ∧
      ∃ r, w.memory.pointers = some r ∧
        (∀ n p, (n, p) ∈ w.system.pmd.ovsIntfs →
          ∀ x, r.cells.get (.port (w.memory.ports.index n) x) = p.contents none x) ∧
        (∀ n row, (n, row) ∈ w.system.pmd.ovsSubs →
          r.cells.get (.subsystem (w.memory.subsystems.index n)) = some (.uuid row)) ∧
        ∀ id v, (Heap.empty : Heap Contents).blocks id = some v → r.heap.blocks id = some v :=
  memory_safe hardware Heap.bounded_empty onePortIdl 0 onePortFiles _ emptyDatabase _

/-- A struct that is in use is that of a port, or there are remains in it. -/
theorem Placed.in_use {ports : Shash String PmPort} {subs : String → Option Uuid} {m : Memory}
    {r : Pointers Place Contents} (hr : Placed simulated heap (portContents data ports) subs m r)
    {a : Nat} {x : Member} (hx : r.ptr (.port a x) ≠ none) :
    (∃ n p, (n, p) ∈ ports ∧ m.ports.index n = a) ∨ x.Left simulated := by
  by_cases hlive : ∃ n p, (n, p) ∈ ports ∧ m.ports.index n = a
  · exact Or.inl hlive
  · refine Or.inr (hr.ports.gone a x (fun n hn heq => ?_) ?_)
    · unfold portContents at hn
      rw [Option.isSome_map] at hn
      obtain ⟨p, hp⟩ := Option.isSome_iff_exists.mp hn
      exact hlive ⟨n, p, Shash.mem_of_find hp, heq⟩
    · rwa [ne_eq, hr.owned.get_cells_eq_none_iff]

/-- The entries of `ovs_subs` in use are those that are there. -/
theorem Placed.recorded_iff {ports : String → Option (Member → Option Contents)}
    {subs : Shash String Uuid} {m : Memory} {r : Pointers Place Contents}
    (hr : Placed simulated heap ports subs.find m r) (hu : subs.Unique) (b : Nat) :
    r.ptr (.subsystem b) ≠ none ↔ ∃ n row, (n, row) ∈ subs ∧ m.subsystems.index n = b := by
  rw [ne_eq, ← hr.owned.get_cells_eq_none_iff]
  constructor
  · intro hb
    by_contra hnone
    refine hb (hr.subsystems.gone b fun n hn heq => hnone ?_)
    obtain ⟨row, hrow⟩ := Option.isSome_iff_exists.mp hn
    exact ⟨n, row, Shash.mem_of_find hrow, heq⟩
  · rintro ⟨n, row, hm, rfl⟩
    rw [hr.subsystems.stored n row (hu.find_of_mem hm)]
    exact Option.some_ne_none _

/-- The name of its subsystem has a block of its own for every port ever created. -/
theorem Placed.subsystem_block {ports : String → Option (Member → Option Contents)}
    {subs : String → Option Uuid} {m : Memory} {r : Pointers Place Contents}
    (hr : Placed simulated heap ports subs m r) {a : Nat} (ha : a < m.ports.count) :
    ∃ id, r.ptr (.port a .subsystem) = some (.block id) := by
  have hset := hr.ports.subsystem a ha
  rw [ne_eq, hr.owned.get_cells_eq_none_iff] at hset
  obtain ⟨p, hp⟩ := Option.ne_none_iff_exists'.mp hset
  obtain ⟨id, rfl⟩ := hr.owned.block _ p rfl hp
  exact ⟨id, hp⟩

/--
**After a run the blocks are those of the ports and of the entries of `ovs_subs` there are, and what
was left of the ports that were deleted.** No two places share a block, no two ports a struct and no
two entries a `struct uuid`, a column that is set to constants only never has one, and the name of
its subsystem is left of every port ever created.
-/
theorem memory_ledger (P : Platform σ) (hheap : heap.Bounded) (idl : Idl) (seqno : Nat)
    (files : Subsystem → YamlFiles) (world : σ) (db : Database) (es : List (Event σ)) :
    let w := Run.exec (housedStep P) (housedInitial P idl seqno files world db heap) es
    ∃ r, w.memory.pointers = some r ∧
      (∀ id, (r.heap.blocks id).isSome = true ↔
        (heap.blocks id).isSome = true ∨ ∃ k, r.ptr k = some (.block id)) ∧
      (∀ a x, r.ptr (.port a x) ≠ none →
        (∃ n p, (n, p) ∈ w.system.pmd.ovsIntfs ∧ w.memory.ports.index n = a) ∨ x.Left false) ∧
      (∀ b, r.ptr (.subsystem b) ≠ none ↔
        ∃ n row, (n, row) ∈ w.system.pmd.ovsSubs ∧ w.memory.subsystems.index n = b) ∧
      (∀ k k' id, r.ptr k = some (.block id) → r.ptr k' = some (.block id) → k = k') ∧
      (∀ k id, r.ptr k = some (.block id) → k.owning = true) ∧
      (w.memory.ports.Lists fun n => ∃ p, (n, p) ∈ w.system.pmd.ovsIntfs) ∧
      (w.memory.subsystems.Lists fun n => ∃ row, (n, row) ∈ w.system.pmd.ovsSubs) ∧
      ∀ a, a < w.memory.ports.count → ∃ id, r.ptr (.port a .subsystem) = some (.block id) := by
  intro w
  have hsound := sound_exec_housedStep P hheap idl seqno files world db es
  obtain ⟨r, hr⟩ := hsound.placed
  refine ⟨r, hr.pointers, hr.owned.ledger, fun a x hx => hr.in_use hx,
    hr.recorded_iff hsound.unique, hr.owned.distinct, fun _ _ => hr.owned.owns_of_block,
    hr.ports.lists.mono ?_, hr.subsystems.lists.mono ?_, fun a ha => hr.subsystem_block ha⟩
  · rintro n ⟨p, hm⟩
    rw [portContents, hsound.keyed.unique.find_of_mem hm]
    rfl
  · rintro n ⟨row, hm⟩
    rw [hsound.unique.find_of_mem hm]
    rfl

/-- The same run. -/
theorem memory_ledger_onePort :
    let bus : Bus := { answers := fun _ => ⟨0, 1, srPage⟩ }
    let w := Run.exec (housedStep hardware)
      (housedInitial hardware onePortIdl 0 onePortFiles bus emptyDatabase Heap.empty)
      [.readState id, .update true, .idlRun {} 1, .reconfigure onePortFiles]
    ∃ r, w.memory.pointers = some r ∧
      (∀ id, (r.heap.blocks id).isSome = true ↔
        ((Heap.empty : Heap Contents).blocks id).isSome = true ∨
          ∃ k, r.ptr k = some (.block id)) ∧
      (∀ a x, r.ptr (.port a x) ≠ none →
        (∃ n p, (n, p) ∈ w.system.pmd.ovsIntfs ∧ w.memory.ports.index n = a) ∨ x.Left false) ∧
      (∀ b, r.ptr (.subsystem b) ≠ none ↔
        ∃ n row, (n, row) ∈ w.system.pmd.ovsSubs ∧ w.memory.subsystems.index n = b) ∧
      (∀ k k' id, r.ptr k = some (.block id) → r.ptr k' = some (.block id) → k = k') ∧
      (∀ k id, r.ptr k = some (.block id) → k.owning = true) ∧
      (w.memory.ports.Lists fun n => ∃ p, (n, p) ∈ w.system.pmd.ovsIntfs) ∧
      (w.memory.subsystems.Lists fun n => ∃ row, (n, row) ∈ w.system.pmd.ovsSubs) ∧
      ∀ a, a < w.memory.ports.count → ∃ id, r.ptr (.port a .subsystem) = some (.block id) :=
  memory_ledger hardware Heap.bounded_empty onePortIdl 0 onePortFiles _ emptyDatabase _

end Daemon

end OpsPmd
