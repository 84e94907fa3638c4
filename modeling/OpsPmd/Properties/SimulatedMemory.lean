import OpsPmd.Properties.Memory
import OpsPmd.Properties.Simulated

/-!
# The memory of the simulation

The commands of `ops-pmd/sim` allocate and free `module_data`, which `pm_read_a0` copies from.
Nothing else does: a port that is deleted leaves its module behind.

* `Memory.simCommand` — what a command does to memory
* `simulated_memory` — no run with commands faults, `module_data` of each port is in memory, and
  which blocks are allocated
-/

namespace OpsPmd

variable {nameOf : Uuid → String} {heap : Heap Contents} {idl : Idl} {d : Pmd (Uuid → SimData)}
  {n : String}

/-! ## Commands in memory -/

namespace Memory

/-- The `module_data` of a port. -/
def moduleData (m : Memory) (instanceName : String) : Place :=
  .port (m.ports.index instanceName) .moduleData

/-- `pmd_sim_insert` from the port on. The new buffer is freed again where the file is too short. -/
def simInsert (m : Memory) (instanceName : String) (content : Option (List UInt8)) : Memory :=
  let m := m.exec [.release (m.moduleData instanceName)]
  match content with
  | none => m
  | some content =>
    match freadPage content with
    | none =>
      (m.exec [.renew (m.moduleData instanceName) (.data fun i => content.getD i 0)]).exec
        [.release (m.moduleData instanceName)]
    | some data => m.exec [.renew (m.moduleData instanceName) (.data data)]

/-- `pmd_sim_remove` from the port on. -/
def simRemove (m : Memory) (instanceName : String) : Memory :=
  m.exec [.release (m.moduleData instanceName)]

/-- `pmd_unixctl_sim`. -/
def simCommand (m : Memory) (ovsIntfs : Shash String PmPort)
    (files : String → Option (List UInt8)) (interface : String) (args : List String) : Memory :=
  match ovsIntfs.find interface with
  | none => m
  | some _ =>
    match args with
    | [command, file] => if command == "insert" then m.simInsert interface (files file) else m
    | [command] => if command == "remove" then m.simRemove interface else m
    | _ => m

end Memory

/-- `simulatedStep` with the memory. -/
def housedSimulatedStep (w : HousedSystem (Uuid → SimData)) (e : SimulatedEvent) :
    HousedSystem (Uuid → SimData) where
  system := simulatedStep w.system e
  memory :=
    match e with
    | .idlRun _ _ | .update _ => w.memory
    | .reconfigure yaml =>
      (w.pmd.reconfigure simulation.each w.system.idl w.system.seqno yaml).memory
    | .readState => (w.pmd.readState simulation.each).memory
    | .command files interface args =>
      w.memory.simCommand w.system.pmd.ovsIntfs files interface args

/-- `simulatedInitial` with the memory. -/
def housedSimulatedInitial (idl : Idl) (seqno : Nat) (yaml : Subsystem → YamlFiles) (db : Database)
    (heap : Heap Contents) : HousedSystem (Uuid → SimData) :=
  housedInitial simulation.each idl seqno yaml (fun _ => {}) db heap

/-- **Without its memory, a run of the simulation in memory is a run of the simulation.** -/
theorem system_exec_housedSimulatedStep : ∀ (es : List SimulatedEvent)
    (w : HousedSystem (Uuid → SimData)),
    (Run.exec housedSimulatedStep w es).system = Run.exec simulatedStep w.system es
  | [], _ => rfl
  | e :: es, w => system_exec_housedSimulatedStep es (housedSimulatedStep w e)

/-! ## What a command does to memory -/

section Command

variable {ports : String → Option (Member → Option Contents)} {subs : String → Option Uuid}
  {m : Memory} {r : Pointers Place Contents} {p : PmPort} {data data' : Option Page}

/-- A statement about `module_data` of a port. -/
theorem Placed.setModuleData (h : Placed true heap ports subs m r)
    (hn : ports n = some (p.contents data)) {op : PointerOp Place Contents}
    (hfits : op.Fits Place.owning)
    (hop : ∀ (c : Cells Place Contents) q, (op.onCells c).get q =
      if q = m.moduleData n then data'.map .data else c.get q) :
    ∃ r', Placed true heap (Function.update ports n (some (p.contents data'))) subs (m.exec [op])
      r' := by
  obtain ⟨r', hexec, howned, hcells⟩ := h.exec fun o ho => List.mem_singleton.mp ho ▸ hfits
  have hget : ∀ q, r'.cells.get q =
      if q = .port (m.ports.index n) .moduleData then data'.map .data else r.cells.get q := by
    intro q
    rw [hcells]
    exact hop r.cells q
  refine ⟨r', ?_⟩
  rw [hexec]
  refine ⟨rfl, howned, h.ports.within (by rw [hn]; rfl) (fun a x ha => by simp [hget, ha])
    (fun x => ?_) (Option.some_ne_none _), h.subsystems.congr fun b => by simp [hget]⟩
  have hold := h.ports.stored n _ hn x
  rw [hget]
  cases x with
  | moduleData => exact if_pos rfl
  | self => simpa [PmPort.contents] using hold
  | instanceName => simpa [PmPort.contents] using hold
  | subsystem => simpa [PmPort.contents] using hold
  | column c => simpa [PmPort.contents] using hold

theorem Placed.releaseModuleData (h : Placed true heap ports subs m r)
    (hn : ports n = some (p.contents data)) :
    ∃ r', Placed true heap (Function.update ports n (some (p.contents none))) subs
      (m.exec [.release (m.moduleData n)]) r' :=
  h.setModuleData hn rfl fun _ _ => Cells.get_clear

theorem Placed.renewModuleData (h : Placed true heap ports subs m r)
    (hn : ports n = some (p.contents data)) (page : Page) :
    ∃ r', Placed true heap (Function.update ports n (some (p.contents (some page)))) subs
      (m.exec [.renew (m.moduleData n) (.data page)]) r' :=
  h.setModuleData hn rfl fun _ _ => Cells.get_store ..

/-- What an insertion leaves in the port. -/
def insertedData (content : Option (List UInt8)) : Option Page := content.bind freadPage

theorem Placed.simInsert (h : Placed true heap ports subs m r)
    (hn : ports n = some (p.contents data)) (content : Option (List UInt8)) :
    ∃ r', Placed true heap (Function.update ports n (some (p.contents (insertedData content)))) subs
      (m.simInsert n content) r' := by
  obtain ⟨r₁, h₁⟩ := h.releaseModuleData hn
  have hn₁ : Function.update ports n (some (p.contents none)) n = some (p.contents none) :=
    Function.update_self ..
  cases content with
  | none => exact ⟨r₁, h₁⟩
  | some content =>
    unfold Memory.simInsert insertedData
    dsimp only [Option.bind_some]
    cases freadPage content with
    | none =>
      obtain ⟨r₂, h₂⟩ := h₁.renewModuleData hn₁ fun i => content.getD i 0
      obtain ⟨r₃, h₃⟩ := h₂.releaseModuleData (Function.update_self ..)
      rw [Function.update_idem, Function.update_idem] at h₃
      exact ⟨r₃, h₃⟩
    | some page =>
      obtain ⟨r₂, h₂⟩ := h₁.renewModuleData hn₁ page
      rw [Function.update_idem] at h₂
      exact ⟨r₂, h₂⟩

theorem insert_eq (p : SimPort) (content : Option (List UInt8)) :
    (p.insert content).2.2 = p.setModuleData (insertedData content) := by
  unfold SimPort.insert insertedData
  cases content with
  | none => rfl
  | some content =>
    dsimp only [Option.bind_some]
    cases freadPage content <;> rfl

theorem remove_eq (p : SimPort) : p.remove.2.2 = p.setModuleData none := by
  unfold SimPort.remove
  split
  · rename_i hnone
    unfold SimPort.setModuleData
    rw [← Option.isNone_iff_eq_none.mp hnone]
  · rfl

section Answered

variable {Y : YamlPort → Prop} {Φ : PmPort → Prop} (hd : d.Holds nameOf Y Φ)
  (files : String → Option (List UInt8)) (interface : String)

include hd

theorem simCommand_insert (hm : (interface, p) ∈ d.ovsIntfs) (file : String) :
    (d.simCommand files interface ["insert", file]).2 =
      { d with
        world := Function.update d.world p.uuid
          { d.world p.uuid with moduleData := insertedData (files file) } } := by
  have hslot : d.simPorts.find interface = some ⟨p, d.world p.uuid⟩ := by
    rw [find_simPorts, hd.unique.find_of_mem hm]
    rfl
  show d.withSimPorts (pmdUnixctlSim d.simPorts files interface ["insert", file]).2 = _
  rw [pmdUnixctlSim_insert, pmdSimInsert_of_find hslot, insert_eq]
  split <;> exact withSimPorts_set hd hm _

theorem simCommand_remove (hm : (interface, p) ∈ d.ovsIntfs) :
    (d.simCommand files interface ["remove"]).2 =
      { d with
        world := Function.update d.world p.uuid
          { d.world p.uuid with moduleData := none } } := by
  have hslot : d.simPorts.find interface = some ⟨p, d.world p.uuid⟩ := by
    rw [find_simPorts, hd.unique.find_of_mem hm]
    rfl
  show d.withSimPorts (pmdUnixctlSim d.simPorts files interface ["remove"]).2 = _
  rw [pmdUnixctlSim_remove, pmdSimRemove_of_find hslot, remove_eq]
  split <;> exact withSimPorts_set hd hm _

theorem simCommand_of_unknown (hfind : d.ovsIntfs.find interface = none) (args : List String) :
    (d.simCommand files interface args).2 = d := by
  rcases simCommand_cases hd files interface args with ⟨hsame, -⟩ | ⟨p, data, hm, -⟩
  · exact hsame
  · rw [hd.unique.find_of_mem hm] at hfind
    cases hfind

end Answered

/-- Any other arguments do nothing, neither to the daemon nor to its memory. -/
theorem simCommand_of_usage {args : List String} (hinsert : ∀ file, args ≠ ["insert", file])
    (hremove : args ≠ ["remove"]) (files : String → Option (List UInt8)) (interface : String) :
    (d.simCommand files interface args).2 = d ∧
      m.simCommand d.ovsIntfs files interface args = m := by
  have hnothing : d.withSimPorts d.simPorts = d := withSimPorts_simPorts d
  unfold Memory.simCommand
  rcases args with _ | ⟨command, _ | ⟨file, _ | ⟨_, _⟩⟩⟩
  · exact ⟨hnothing, by cases d.ovsIntfs.find interface <;> rfl⟩
  · have hne : ¬(command == "remove") = true := by simpa using hremove
    constructor
    · show d.withSimPorts (pmdUnixctlSim d.simPorts files interface [command]).2 = d
      rw [pmdUnixctlSim, if_neg hne]
      exact hnothing
    · cases d.ovsIntfs.find interface with
      | none => rfl
      | some _ => exact if_neg hne
  · have hne : ¬(command == "insert") = true := by simpa using hinsert file
    constructor
    · show d.withSimPorts (pmdUnixctlSim d.simPorts files interface [command, file]).2 = d
      rw [pmdUnixctlSim, if_neg hne]
      exact hnothing
    · cases d.ovsIntfs.find interface with
      | none => rfl
      | some _ => exact if_neg hne
  · exact ⟨hnothing, by cases d.ovsIntfs.find interface <;> rfl⟩

/-- **A command leaves the daemon and its memory, or changes `module_data` of one port in both.** -/
theorem simCommand_placed {Y : YamlPort → Prop} {Φ : PmPort → Prop} (hd : d.Holds nameOf Y Φ)
    {g : String → Option Page} (h : Placed true heap (portContents g d.ovsIntfs) subs m r)
    (files : String → Option (List UInt8)) (interface : String) (args : List String) :
    (d.simCommand files interface args).2 = d ∧
        m.simCommand d.ovsIntfs files interface args = m ∨
      ∃ p data, (interface, p) ∈ d.ovsIntfs ∧
        (d.simCommand files interface args).2 =
          { d with
            world := Function.update d.world p.uuid { d.world p.uuid with moduleData := data } } ∧
        ∃ r', Placed true heap
          (Function.update (portContents g d.ovsIntfs) interface (some (p.contents data))) subs
          (m.simCommand d.ovsIntfs files interface args) r' := by
  cases hfind : d.ovsIntfs.find interface with
  | none =>
    refine Or.inl ⟨simCommand_of_unknown hd files interface hfind args, ?_⟩
    unfold Memory.simCommand
    simp only [hfind]
  | some p =>
    have hm := Shash.mem_of_find hfind
    have hp : portContents g d.ovsIntfs interface = some (p.contents (g interface)) := by
      rw [portContents, hfind]
      rfl
    by_cases hinsert : ∃ file, args = ["insert", file]
    · obtain ⟨file, rfl⟩ := hinsert
      refine Or.inr ⟨p, _, hm, simCommand_insert hd files interface hm file, ?_⟩
      rw [Memory.simCommand, hfind]
      exact h.simInsert hp _
    by_cases hremove : args = ["remove"]
    · obtain rfl := hremove
      refine Or.inr ⟨p, _, hm, simCommand_remove hd files interface hm, ?_⟩
      rw [Memory.simCommand, hfind]
      exact h.releaseModuleData hp
    · exact Or.inl
        (simCommand_of_usage (fun file heq => hinsert ⟨file, heq⟩) hremove files interface)

end Command

/-! ## Ports with rows -/

section Rows

variable {σ : Type} {P : Platform σ} {files : Subsystem → YamlFiles} {seqno : Nat}

theorem hasRows_createInterfaces {d : Pmd σ} (h : HasRows idl d) (subName : String)
    {intfs : List Interface} (hm : ∀ intf ∈ intfs, intf ∈ idl.interfaces) :
    HasRows idl (createInterfaces P subName intfs d) := by
  intro n p hn
  rcases (created_createInterfaces subName intfs d).fresh n p hn with hold | hnew
  · exact h n p hold
  · obtain ⟨-, intf, hintf, y, -, -, hname, rfl⟩ := hnew
    exact ⟨intf, hm intf hintf, rfl, hname⟩

theorem hasRows_subsysProcess {d : Pmd σ} (h : HasRows idl d) (sub : Subsystem) :
    HasRows idl (ovsdbIfSubsysProcess P idl files d sub) := by
  have hm : ∀ intf ∈ idl.interfacesOf sub, intf ∈ idl.interfaces := fun _ =>
    Idl.mem_interfaces_of_mem
  unfold ovsdbIfSubsysProcess
  cases d.ovsSubs.find sub.name with
  | some _ => exact hasRows_createInterfaces h sub.name hm
  | none =>
    dsimp only
    split
    · exact h
    · exact hasRows_createInterfaces (d := { d with
        ovsSubs := d.ovsSubs.add sub.name sub.uuid
        yaml := Function.update d.yaml sub.name (files sub).ports }) h sub.name hm

theorem hasRows_modifyInterface {d : Pmd σ} (h : HasRows idl d) (intf : Interface) :
    HasRows idl (modifyInterface P d intf) := by
  intro n p hn
  by_cases hname : n = intf.name
  · subst hname
    rw [find_modifyInterface_self, Option.map_eq_some_iff] at hn
    obtain ⟨q, hq, rfl⟩ := hn
    exact h intf.name q hq
  · rw [find_modifyInterface_ne d intf hname] at hn
    exact h n p hn

/-- **After a reconfiguration every port has a row.** -/
theorem hasRows_reconfigure {d : Pmd σ} {Y : YamlPort → Prop} {Φ : PmPort → Prop}
    (h : d.Holds nameOf Y Φ) (hidl : idl.Named nameOf) (hne : seqno ≠ d.idlSeqno) :
    HasRows idl (pmdReconfigure P idl seqno files d) := by
  have hseq : ({ d with idlSeqno := seqno } : Pmd σ).Holds nameOf Y Φ := h.congr rfl rfl
  have hdel : HasRows idl
      (deleteSubsystems idl (deleteInterfaces idl { d with idlSeqno := seqno })) :=
    hasRows_deleteInterfaces hseq hidl
  unfold pmdReconfigure
  rw [if_neg hne]
  refine List.foldlRecOn idl.interfaces _ ?_ fun _ hd intf _ => hasRows_modifyInterface hd intf
  exact List.foldlRecOn idl.subsystems _ hdel fun _ hd sub _ => hasRows_subsysProcess hd sub

end Rows

/-! ## The modules of the ports -/

/-- The `module_data` of each port of the daemon. -/
def Pmd.moduleData (d : Pmd (Uuid → SimData)) (n : String) : Option Page :=
  (d.ovsIntfs.find n).bind fun p => (d.world p.uuid).moduleData

theorem moduleData_eq_none (h : d.ovsIntfs.find n = none) : d.moduleData n = none := by
  rw [Pmd.moduleData, h]
  rfl

/-- Ports with the uuids they had have the modules they had. -/
theorem moduleData_congr {d' : Pmd (Uuid → SimData)}
    (hports : (d'.ovsIntfs.find n).map (fun p => p.uuid) =
      (d.ovsIntfs.find n).map fun p => p.uuid)
    (hworld : ∀ u, (d'.world u).moduleData = (d.world u).moduleData) :
    d'.moduleData n = d.moduleData n := by
  unfold Pmd.moduleData
  cases hd : d.ovsIntfs.find n with
  | none =>
    rw [hd, Option.map_none, Option.map_eq_none_iff] at hports
    rw [hports]
    rfl
  | some p =>
    rw [hd, Option.map_some, Option.map_eq_some_iff] at hports
    obtain ⟨p', hp', huuid⟩ := hports
    rw [hp', Option.bind_some, Option.bind_some, huuid]
    exact hworld p.uuid

/-- Nothing is asked of the ports. -/
theorem lasts_true {σ : Type} (P : Platform σ) (Y : YamlPort → Prop) :
    PmPort.Lasts P Y fun _ => True where
  newPort _ _ _ _ _ := trivial
  hwEnable _ _ _ := trivial
  poll _ _ _ := trivial
  settle _ _ := trivial

/-- Names fit, whatever the ports are. -/
abbrev Pmd.NamedPorts (nameOf : Uuid → String) (d : Pmd (Uuid → SimData)) : Prop :=
  d.Holds nameOf (fun _ => True) fun _ => True

/-- With names that fit, no function of the daemon changes a module. -/
theorem guarded_moduleData (h : d.NamedPorts nameOf) :
    d.Guarded nameOf (fun _ => True) (fun _ => True)
      fun w => ∀ u, (w u).moduleData = (d.world u).moduleData :=
  ⟨h, fun _ => rfl⟩

theorem guarded_reconfigure (h : d.NamedPorts nameOf) (hidl : idl.Named nameOf) (seqno : Nat)
    (yaml : Subsystem → YamlFiles) :
    (pmdReconfigure simulation.each idl seqno yaml d).Guarded nameOf (fun _ => True) (fun _ => True)
      fun w => ∀ u, (w u).moduleData = (d.world u).moduleData :=
  (guarded_moduleData h).reconfigure ((preserves_moduleData _).keeps _) (lasts_true _ _) hidl
    (fun _ _ _ _ => trivial) seqno

/-- A module stays where a port with its row was before. -/
theorem world_simReconfigure (h : d.NamedPorts nameOf) (hidl : idl.Named nameOf) (seqno : Nat)
    (yaml : Subsystem → YamlFiles) (u : Uuid) :
    ((simReconfigure idl seqno yaml d).world u).moduleData =
      if (d.ovsIntfs.any fun node => node.2.uuid == u) = true then (d.world u).moduleData
      else none := by
  unfold simReconfigure
  dsimp only
  split
  · exact (guarded_reconfigure h hidl seqno yaml).world u
  · rfl

theorem world_simReconfigure_of_mem (h : d.NamedPorts nameOf) (hidl : idl.Named nameOf)
    (seqno : Nat) (yaml : Subsystem → YamlFiles) {p : PmPort} (hm : (n, p) ∈ d.ovsIntfs) :
    ((simReconfigure idl seqno yaml d).world p.uuid).moduleData = (d.world p.uuid).moduleData := by
  rw [world_simReconfigure h hidl, if_pos (List.any_eq_true.mpr ⟨(n, p), hm, by simp⟩)]

/-- A port that takes the place of one without a row, or of none, is the first one of its row. -/
theorem not_any_uuid_of_fresh (h : d.NamedPorts nameOf) (hidl : idl.Named nameOf) {seqno : Nat}
    {yaml : Subsystem → YamlFiles} (hne : seqno ≠ d.idlSeqno) {q : PmPort}
    (hq : (pmdReconfigure simulation.each idl seqno yaml d).ovsIntfs.find n = some q)
    (hgone : ¬((d.ovsIntfs.find n).any fun p => (idl.interfaceForUuid p.uuid).isSome) = true) :
    ¬(d.ovsIntfs.any fun node => node.2.uuid == q.uuid) = true := by
  intro hany
  obtain ⟨⟨n', p⟩, hm, huuid⟩ := List.any_eq_true.mp hany
  have huuid' : p.uuid = q.uuid := eq_of_beq huuid
  -- the port before had the same name, and would be there still
  have hrowOf := (guarded_reconfigure h hidl seqno yaml).holds.row n q (Shash.mem_of_find hq)
  obtain rfl : n' = n := by rw [← h.row n' p hm, huuid', hrowOf]
  obtain ⟨intf, hintf, hrow, -⟩ := hasRows_reconfigure (P := simulation.each) h hidl hne n' q hq
  refine hgone ((Option.any_eq_true _ _).mpr ⟨p, h.unique.find_of_mem hm, ?_⟩)
  exact List.find?_isSome.mpr ⟨intf, hintf, by simp [hrow, huuid']⟩

/-- **A reconfiguration leaves the modules of the ports whose rows are there, and no others.** -/
theorem moduleData_simReconfigure (h : d.NamedPorts nameOf) (hidl : idl.Named nameOf) (seqno : Nat)
    (yaml : Subsystem → YamlFiles) :
    (simReconfigure idl seqno yaml d).moduleData =
      if seqno = d.idlSeqno then d.moduleData else dataAfter idl d.ovsIntfs d.moduleData := by
  have hports : (simReconfigure idl seqno yaml d).ovsIntfs =
      (pmdReconfigure simulation.each idl seqno yaml d).ovsIntfs := rfl
  funext n
  by_cases hseqno : seqno = d.idlSeqno
  · have hsame : pmdReconfigure simulation.each idl seqno yaml d = d := if_pos hseqno
    rw [if_pos hseqno, Pmd.moduleData, Pmd.moduleData, hports, hsame]
    cases hd : d.ovsIntfs.find n with
    | none => rfl
    | some p => exact world_simReconfigure_of_mem h hidl seqno yaml (Shash.mem_of_find hd)
  · rw [if_neg hseqno, dataAfter, Pmd.moduleData, hports]
    by_cases hstays : ((d.ovsIntfs.find n).any
        fun p => (idl.interfaceForUuid p.uuid).isSome) = true
    · rw [if_pos hstays]
      obtain ⟨p, hd, hrow⟩ := (Option.any_eq_true _ _).mp hstays
      have hm := Shash.mem_of_find hd
      obtain ⟨hwEnable, hfind⟩ : (pmdReconfigure simulation.each idl seqno yaml d).HasPort n p :=
        hasPort_reconfigure h hm hrow
      rw [Pmd.moduleData, hfind, hd]
      have hmodule := world_simReconfigure_of_mem h hidl seqno yaml hm
      exact hmodule
    · rw [if_neg hstays]
      cases hq : (pmdReconfigure simulation.each idl seqno yaml d).ovsIntfs.find n with
      | none => rfl
      | some q =>
        rw [Option.bind_some, world_simReconfigure h hidl,
          if_neg (not_any_uuid_of_fresh h hidl hseqno hq hstays)]

/-- Another module in one port. -/
theorem moduleData_set (h : d.NamedPorts nameOf) {interface : String} {p : PmPort}
    (hm : (interface, p) ∈ d.ovsIntfs) (data : Option Page) :
    ({ d with world := Function.update d.world p.uuid { d.world p.uuid with moduleData := data } } :
      Pmd (Uuid → SimData)).moduleData = Function.update d.moduleData interface data := by
  funext n
  unfold Pmd.moduleData
  dsimp only
  by_cases hn : n = interface
  · rw [hn, Function.update_self, h.unique.find_of_mem hm, Option.bind_some, Function.update_self]
  · rw [Function.update_of_ne hn]
    cases hq : d.ovsIntfs.find n with
    | none => rfl
    | some q =>
      -- another port has another row
      have hne : q.uuid ≠ p.uuid := by
        intro hu
        have hrow := h.row n q (Shash.mem_of_find hq)
        exact hn (hrow.symm.trans (hu ▸ h.row interface p hm))
      rw [Option.bind_some, Option.bind_some, Function.update_of_ne hne]

theorem portContents_set {g : String → Option Page} {ports : Shash String PmPort} {p : PmPort}
    (h : ports.find n = some p) (data : Option Page) :
    portContents (Function.update g n data) ports =
      Function.update (portContents g ports) n (some (p.contents data)) := by
  funext n'
  unfold portContents
  by_cases hn : n' = n
  · rw [hn, Function.update_self, Function.update_self, h]
    rfl
  · rw [Function.update_of_ne hn, Function.update_of_ne hn]

/-! ## The invariant -/

/-- Interfaces have the names that belong to their rows. -/
def SimulatedEvent.Named (nameOf : Uuid → String) : SimulatedEvent → Prop
  | .idlRun idl _ => idl.Named nameOf
  | _ => True

/-- Names fit, and the memory has what the ports hold and their modules. -/
structure HousedSystem.Simulated (nameOf : Uuid → String) (heap : Heap Contents)
    (w : HousedSystem (Uuid → SimData)) : Prop where
  idl : w.system.idl.Named nameOf
  ports : w.system.pmd.NamedPorts nameOf
  sound : w.pmd.Sound true heap w.system.pmd.moduleData

theorem uuid_pmReadState {σ : Type} {P : Platform σ} {d : Pmd σ} (h : d.ovsIntfs.Unique)
    (n : String) : ((pmReadState P d).ovsIntfs.find n).map (fun p => p.uuid) =
      (d.ovsIntfs.find n).map fun p => p.uuid := by
  let poll : PmPort → σ → PmPort × σ := fun port s => (pmReadModuleState P port s).2
  show ((d.ovsIntfs.mapAccum poll d.world).1.find n).map _ = _
  cases hd : d.ovsIntfs.find n with
  | none =>
    rw [Shash.find_eq_none_iff, ← Shash.keys_mapAccum poll d.ovsIntfs d.world,
      ← Shash.find_eq_none_iff] at hd
    rw [hd]
  | some p =>
    obtain ⟨s, hm⟩ := Shash.mem_mapAccum_of_mem (f := poll) (s := d.world) (Shash.mem_of_find hd)
    rw [(h.mapAccum poll d.world).find_of_mem hm]
    exact congrArg (fun id : PortId => some id.uuid) (toPortId_pmReadModuleState p s)

namespace HousedSystem.Simulated

variable {w : HousedSystem (Uuid → SimData)}

theorem readState (h : w.Simulated nameOf heap) :
    (housedSimulatedStep w .readState).Simulated nameOf heap := by
  have hguarded := (guarded_moduleData h.ports).readState ((preserves_moduleData _).keeps _)
    (lasts_true _ _)
  have hdata : (pmReadState simulation.each w.system.pmd).moduleData = w.system.pmd.moduleData :=
    funext fun n => moduleData_congr (uuid_pmReadState h.ports.unique n) hguarded.world
  have hpmd : (housedSimulatedStep w .readState).pmd = w.pmd.readState simulation.each := by
    show (⟨pmReadState simulation.each w.pmd.pmd, _⟩ : Housed (Uuid → SimData)) = _
    rw [← Housed.pmd_readState]
    rfl
  refine ⟨h.idl, hguarded.holds, ?_⟩
  rw [hpmd]
  show Housed.Sound true heap (pmReadState simulation.each w.system.pmd).moduleData _
  rw [hdata]
  exact h.sound.readState

theorem reconfigure (h : w.Simulated nameOf heap) (yaml : Subsystem → YamlFiles) :
    (housedSimulatedStep w (.reconfigure yaml)).Simulated nameOf heap := by
  have hguarded := guarded_reconfigure h.ports h.idl w.system.seqno yaml
  have hsound := h.sound.reconfigure w.system.idl w.system.seqno yaml (P := simulation.each)
  refine ⟨h.idl, hguarded.holds.congr rfl rfl, ?_⟩
  have hdata : (housedSimulatedStep w (.reconfigure yaml)).system.pmd.moduleData = _ :=
    moduleData_simReconfigure h.ports h.idl w.system.seqno yaml
  rw [hdata]
  -- the world of the new ports is nothing to their memory
  have hpmd := Housed.pmd_reconfigure (P := simulation.each) w.system.idl w.system.seqno yaml w.pmd
  have hports := congrArg Pmd.ovsIntfs hpmd
  refine hsound.congr (d := simReconfigure w.system.idl w.system.seqno yaml w.system.pmd) ?_ ?_
    (congrArg Pmd.ovsSubs hpmd).symm
  · exact hports ▸ hsound.keyed
  · exact congrArg (portContents _) hports.symm

theorem update (h : w.Simulated nameOf heap) (committed : Bool) :
    (housedSimulatedStep w (.update committed)).Simulated nameOf heap := by
  have hguarded := (guarded_moduleData h.ports).update (lasts_true simulation.each _) w.system.idl
    committed w.system.db
  have hdata : (pmOvsdbUpdate w.system.idl committed w.system.pmd w.system.db).1.moduleData =
      w.system.pmd.moduleData := by
    funext n
    refine moduleData_congr ?_ fun u => ?_
    · rw [pmOvsdbUpdate_eq]
      dsimp only
      rw [Shash.find_map_values, Option.map_map]
      congr 1
      funext p
      exact congrArg PortId.uuid PmPort.settled_toPortId
    · rw [pmOvsdbUpdate_eq]
  refine ⟨h.idl, hguarded.holds, ?_⟩
  show Housed.Sound true heap
    (pmOvsdbUpdate w.system.idl committed w.system.pmd w.system.db).1.moduleData _
  rw [hdata]
  refine h.sound.congr (h.sound.keyed.update committed w.system.db)
    (portContents_update w.system.idl committed w.system.pmd w.system.db) ?_
  show (pmOvsdbUpdate w.system.idl committed w.system.pmd w.system.db).1.ovsSubs = _
  rw [pmOvsdbUpdate_eq]
  rfl

theorem command (h : w.Simulated nameOf heap) (files : String → Option (List UInt8))
    (interface : String) (args : List String) :
    (housedSimulatedStep w (.command files interface args)).Simulated nameOf heap := by
  obtain ⟨r, hr⟩ := h.sound.placed
  rcases simCommand_placed h.ports hr files interface args with ⟨hsame, hmem⟩ |
    ⟨p, data, hm, hworld, r', hr'⟩
  · have hw : housedSimulatedStep w (.command files interface args) = w := by
      show (⟨{ w.system with pmd := (w.system.pmd.simCommand files interface args).2 }, _⟩ :
        HousedSystem (Uuid → SimData)) = w
      rw [hsame]
      exact congrArg (HousedSystem.mk w.system) hmem
    rw [hw]
    exact h
  · have hdata := moduleData_set h.ports hm data
    have hcontents := portContents_set (g := w.system.pmd.moduleData)
      (h.ports.unique.find_of_mem hm) data
    have hsystem : (housedSimulatedStep w (.command files interface args)).system =
        { w.system with
          pmd := { w.system.pmd with
            world := Function.update w.system.pmd.world p.uuid
              { w.system.pmd.world p.uuid with moduleData := data } } } := by
      show ({ w.system with pmd := (w.system.pmd.simCommand files interface args).2 } :
        System (Uuid → SimData)) = _
      rw [hworld]
    have hpmd : (housedSimulatedStep w (.command files interface args)).pmd.pmd = _ :=
      congrArg System.pmd hsystem
    refine ⟨by rw [hsystem]; exact h.idl, by rw [hsystem]; exact h.ports.congr rfl rfl, ?_⟩
    rw [hsystem, hdata]
    refine ⟨by rw [hpmd]; exact h.sound.keyed, by rw [hpmd]; exact h.sound.unique, fun n hn => ?_,
      fun _ _ => rfl, r', ?_⟩
    · rw [hpmd] at hn
      have hne : n ≠ interface := by
        rintro rfl
        have hfind := hn.symm.trans (h.ports.unique.find_of_mem hm)
        cases hfind
      rw [Function.update_of_ne hne]
      exact moduleData_eq_none hn
    · rw [hpmd]
      dsimp only
      rw [hcontents]
      exact hr'

theorem step (h : w.Simulated nameOf heap) {e : SimulatedEvent} (he : e.Named nameOf) :
    (housedSimulatedStep w e).Simulated nameOf heap := by
  cases e with
  | idlRun idl seqno => exact ⟨he, h.ports, h.sound⟩
  | reconfigure yaml => exact h.reconfigure yaml
  | readState => exact h.readState
  | update committed => exact h.update committed
  | command files interface args => exact h.command files interface args

theorem initial (hheap : heap.Bounded) (hidl : idl.Named nameOf) (seqno : Nat)
    (yaml : Subsystem → YamlFiles) (db : Database) :
    (housedSimulatedInitial idl seqno yaml db heap).Simulated nameOf heap := by
  have hguarded : (pmOvsdbIfInit simulation.each idl seqno yaml fun _ => {}).Guarded nameOf
      (fun _ => True) (fun _ => True) fun w => ∀ u, (w u).moduleData = none :=
    Pmd.Guarded.init ((preserves_moduleData fun _ => none).keeps _) (lasts_true _ _) hidl
      (fun _ _ _ _ => trivial) seqno fun _ => rfl
  refine ⟨hidl, hguarded.holds, ?_⟩
  have hdata : (housedSimulatedInitial idl seqno yaml db heap).system.pmd.moduleData =
      fun _ => none := by
    funext n
    unfold Pmd.moduleData
    cases (housedSimulatedInitial idl seqno yaml db heap).system.pmd.ovsIntfs.find n with
    | none => rfl
    | some p => exact hguarded.world p.uuid
  rw [hdata, housedSimulatedInitial, housedInitial_pmd]
  exact Housed.Sound.init hheap idl seqno yaml _

end HousedSystem.Simulated

/-! ## Runs -/

/--
**No run with commands frees or reads a block that is not allocated, or frees a constant.** Each
port has in memory what it has in the model, its module among it, which is what `pm_read_a0` copies.
After the run the blocks are those of the ports and of the entries of `ovs_subs` there are, and what
was left of the ports that were deleted, to which here their modules belong.
-/
theorem simulated_memory (nameOf : Uuid → String) (hheap : heap.Bounded) (hidl : idl.Named nameOf)
    (seqno : Nat) (yaml : Subsystem → YamlFiles) (db : Database) {es : List SimulatedEvent}
    (hes : ∀ e ∈ es, e.Named nameOf) :
    let w := Run.exec housedSimulatedStep (housedSimulatedInitial idl seqno yaml db heap) es
    w.system = Run.exec simulatedStep (simulatedInitial idl seqno yaml db) es ∧
      ∃ r, w.memory.pointers = some r ∧
        (∀ n p, (n, p) ∈ w.system.pmd.ovsIntfs → ∀ x, r.cells.get (.port (w.memory.ports.index n) x) =
          p.contents (w.system.pmd.world p.uuid).moduleData x) ∧
        (∀ n row, (n, row) ∈ w.system.pmd.ovsSubs →
          r.cells.get (.subsystem (w.memory.subsystems.index n)) = some (.uuid row)) ∧
        (∀ id v, heap.blocks id = some v → r.heap.blocks id = some v) ∧
        (∀ id, (r.heap.blocks id).isSome = true ↔
          (heap.blocks id).isSome = true ∨ ∃ k, r.ptr k = some (.block id)) ∧
        (∀ k k' id, r.ptr k = some (.block id) → r.ptr k' = some (.block id) → k = k') ∧
        (∀ k id, r.ptr k = some (.block id) → k.owning = true) ∧
        (∀ a x, r.ptr (.port a x) ≠ none →
          (∃ n p, (n, p) ∈ w.system.pmd.ovsIntfs ∧ w.memory.ports.index n = a) ∨ x.Left true) ∧
        ∀ b, r.ptr (.subsystem b) ≠ none ↔
          ∃ n row, (n, row) ∈ w.system.pmd.ovsSubs ∧ w.memory.subsystems.index n = b := by
  intro w
  have hsim : w.Simulated nameOf heap := Run.exec_invariant (fun _ _ hs he => hs.step he)
    (HousedSystem.Simulated.initial hheap hidl seqno yaml db) (Run.along_of_forall hes)
  obtain ⟨r, hr⟩ := hsim.sound.placed
  refine ⟨system_exec_housedSimulatedStep es _, r, hr.pointers, fun n p hm => ?_, fun n row hm => ?_,
    hr.owned.kept, hr.owned.ledger, hr.owned.distinct, fun _ _ => hr.owned.owns_of_block,
    fun a x hx => hr.in_use hx, hr.recorded_iff hsim.sound.unique⟩
  · refine hr.ports.stored n _ ?_
    have hfind : w.system.pmd.ovsIntfs.find n = some p := hsim.ports.unique.find_of_mem hm
    show (w.system.pmd.ovsIntfs.find n).map _ = _
    rw [Pmd.moduleData, hfind]
    rfl
  · exact hr.subsystems.stored n row (hsim.sound.unique.find_of_mem hm)

/-- A module is inserted and polled, and its port is deleted. -/
theorem simulated_memory_onePort :
    let files : String → Option (List UInt8) := fun _ => some srPage.toList
    let es : List SimulatedEvent := [.command files "1" ["insert", "sr.bin"], .readState,
      .idlRun {} 1, .reconfigure onePortFiles]
    let w := Run.exec housedSimulatedStep
      (housedSimulatedInitial onePortIdl 0 onePortFiles emptyDatabase Heap.empty) es
    w.system = Run.exec simulatedStep
        (simulatedInitial onePortIdl 0 onePortFiles emptyDatabase) es ∧
      ∃ r, w.memory.pointers = some r ∧ ∀ b, r.ptr (.subsystem b) ≠ none ↔
        ∃ n row, (n, row) ∈ w.system.pmd.ovsSubs ∧ w.memory.subsystems.index n = b := by
  intro files es w
  have hes : ∀ e ∈ es, e.Named fun _ => "1" := by
    simp [es, SimulatedEvent.Named, Idl.Named]
  have hw : Run.exec housedSimulatedStep
      (housedSimulatedInitial onePortIdl 0 onePortFiles emptyDatabase Heap.empty) es = w := rfl
  obtain ⟨hsystem, r, hr, -, -, -, -, -, -, -, hsubs⟩ := simulated_memory (fun _ => "1")
    Heap.bounded_empty named_onePortIdl 0 onePortFiles emptyDatabase hes
  rw [hw] at hsystem hr hsubs
  exact ⟨hsystem, r, hr, hsubs⟩

/-- The port of that run is gone, and its module is not. -/
example :
    let files : String → Option (List UInt8) := fun _ => some srPage.toList
    let w := Run.exec housedSimulatedStep
      (housedSimulatedInitial onePortIdl 0 onePortFiles emptyDatabase Heap.empty)
      [.command files "1" ["insert", "sr.bin"], .readState, .idlRun {} 1, .reconfigure onePortFiles]
    w.system.pmd.ovsIntfs.isEmpty = true ∧
      (w.memory.pointers.bind fun r => r.cells.get (.port 0 .moduleData)).isSome = true := by
  decide +kernel

end OpsPmd
