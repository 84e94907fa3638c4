import OpsPmd.Lib.Run
import OpsPmd.Memory
import OpsPmd.OvsdbAccess

/-!
# The daemon in memory (`ovsdb_access.c`)

Each port is a struct with two strings of its own and the columns, and each entry of `ovs_subs` has
a `struct uuid`. `Housed` is the daemon with the heap they live in: creation allocates, a poll
executes its statements about columns, deletion executes `pmd_free_pm_port` and `free`.

* `Memory` — the heap, and where in it the ports and the entries of `ovs_subs` are
* `housedStep` — the steps of the daemon with what they do to memory
* `system_exec_housedStep` — without its memory it is the daemon
-/

namespace OpsPmd

/-! ## Structs -/

/-- What a block holds. Of a struct, its members are apart. -/
inductive Contents
  | struct
  | text (s : String)
  | data (page : Page)
  | uuid (row : Uuid)

/-- The text of a string. -/
def Contents.asText : Contents → Option String
  | text s => some s
  | _ => none

/--
What a `pm_port_t` has in memory: the struct itself, and what its members point to. The member
`module_data` is that of the simulation.
-/
inductive Member
  | self | instanceName | subsystem | moduleData
  | column (c : Column)
  deriving DecidableEq

/-- What the daemon has pointers to. -/
inductive Place
  /-- Of the `a`-th struct allocated. -/
  | port (a : Nat) (x : Member)
  /-- The `struct uuid` of the `b`-th entry made in `ovs_subs`. -/
  | subsystem (b : Nat)
  deriving DecidableEq

def Place.owning : Place → Bool
  | port _ (.column c) => c.owning
  | _ => true

/-- The columns of a struct. -/
def Place.column (a : Nat) (c : Column) : Place := port a (.column c)

theorem Place.column_injective (a : Nat) : Function.Injective (Place.column a) := by
  intro c c' h
  exact Member.column.inj (Place.port.inj h).2

/-- The heap, and which structs the ports in `ovs_intfs` and the entries of `ovs_subs` are. -/
structure Memory where
  /-- `none` after a fault. -/
  pointers : Option (Pointers Place Contents)
  ports : Directory String
  subsystems : Directory String

namespace Memory

/-- Nothing allocated yet. -/
def empty (heap : Heap Contents) : Memory where
  pointers := some (Pointers.null heap)
  ports := Directory.empty
  subsystems := Directory.empty

def exec (m : Memory) (ops : List (PointerOp Place Contents)) : Memory :=
  { m with pointers := m.pointers.bind fun r => r.execAll ops }

/-- The allocations of `ovsdb_if_intf_create`. The struct is empty, as `calloc` leaves it. -/
def create (m : Memory) (instanceName subName : String) : Memory :=
  { m with ports := m.ports.add instanceName }.exec
    [.renew (.port m.ports.count .self) .struct,
      .renew (.port m.ports.count .instanceName) (.text instanceName),
      .renew (.port m.ports.count .subsystem) (.text subName)]

/-- Statements about the columns of a port. -/
def perform (m : Memory) (instanceName : String) (ops : List Statement) : Memory :=
  m.exec (ops.map (PointerOp.map (Place.column (m.ports.index instanceName)) .text Contents.asText))

/-- `pmd_free_pm_port`. -/
def free (m : Memory) (instanceName : String) : Memory :=
  (m.perform instanceName Statements.pmDeleteAllData).exec
    [.release (.port (m.ports.index instanceName) .instanceName),
      .release (.port (m.ports.index instanceName) .self)]

/-- A new entry of `ovs_subs`. -/
def record (m : Memory) (subName : String) (row : Uuid) : Memory :=
  { m with subsystems := m.subsystems.add subName }.exec
    [.renew (.subsystem m.subsystems.count) (.uuid row)]

/-- An entry of `ovs_subs` is deleted. -/
def forget (m : Memory) (subName : String) : Memory :=
  m.exec [.release (.subsystem (m.subsystems.index subName))]

end Memory

/-! ## The daemon in memory -/

/-- The daemon with its memory. -/
structure Housed (σ : Type) where
  pmd : Pmd σ
  memory : Memory

namespace Housed

variable {σ : Type} (P : Platform σ)

/-- The body of the loop of `ovsdb_if_subsys_process`. -/
def createInterface (subName : String) (w : Housed σ) (intf : Interface) : Housed σ :=
  match w.pmd.ovsIntfs.find intf.name with
  | some _ => w
  | none =>
    { pmd := ovsdbIfIntfCreate P intf subName w.pmd
      memory :=
        match pmGetYamlPort w.pmd.yaml subName intf.name with
        | none => w.memory
        | some yamlPort =>
          if yamlPort.pluggable = false then w.memory else w.memory.create intf.name subName }

/--
`ovsdb_if_subsys_process`. The `struct uuid` of a new entry is allocated before its files are read.
-/
def subsysProcess (idl : Idl) (files : Subsystem → YamlFiles) (w : Housed σ) (sub : Subsystem) :
    Housed σ :=
  match w.pmd.ovsSubs.find sub.name with
  | some _ => (idl.interfacesOf sub).foldl (createInterface P sub.name) w
  | none =>
    let d :=
      { w.pmd with
        ovsSubs := w.pmd.ovsSubs.add sub.name sub.uuid
        yaml := Function.update w.pmd.yaml sub.name (files sub).ports }
    let w := { pmd := d, memory := w.memory.record sub.name sub.uuid }
    if (files sub).rc ≠ 0 then w
    else (idl.interfacesOf sub).foldl (createInterface P sub.name) w

/-- The loop of `pmd_reconfigure` that deletes ports. -/
def deleteInterfaces (idl : Idl) (w : Housed σ) : Housed σ where
  pmd := OpsPmd.deleteInterfaces idl w.pmd
  memory :=
    (w.pmd.ovsIntfs.filter fun node => (idl.interfaceForUuid node.2.uuid).isNone).foldl
      (fun m node => m.free node.2.instanceName) w.memory

/-- The loop of `pmd_reconfigure` that deletes subsystems. -/
def deleteSubsystems (idl : Idl) (w : Housed σ) : Housed σ where
  pmd := OpsPmd.deleteSubsystems idl w.pmd
  memory :=
    (w.pmd.ovsSubs.filter fun node => (idl.subsystemForUuid node.2).isNone).foldl
      (fun m node => m.forget node.1) w.memory

/-- `pmd_reconfigure`. -/
def reconfigure (idl : Idl) (newIdlSeqno : Nat) (files : Subsystem → YamlFiles) (w : Housed σ) :
    Housed σ :=
  if newIdlSeqno = w.pmd.idlSeqno then w
  else
    let w := deleteInterfaces idl { w with pmd := { w.pmd with idlSeqno := newIdlSeqno } }
    let w := idl.subsystems.foldl (subsysProcess P idl files) (deleteSubsystems idl w)
    -- a change of `hw_enable` has nothing to do with memory
    { w with pmd := idl.interfaces.foldl (modifyInterface P) w.pmd }

/-- `pm_ovsdb_if_init`. -/
def init (idl : Idl) (seqno : Nat) (files : Subsystem → YamlFiles) (s : σ) (heap : Heap Contents) :
    Housed σ :=
  let w := idl.subsystems.foldl (subsysProcess P idl files)
    { pmd := { idlSeqno := seqno, world := s }, memory := Memory.empty heap }
  { w with pmd := idl.interfaces.foldl (fun d intf => ovsdbIfIntfConfigure P intf d) w.pmd }

/-- A poll of one port with its statements. -/
def pollPort (port : PmPort) (sm : σ × Memory) : PmPort × σ × Memory :=
  let (_, port', s) := pmReadModuleState P port sm.1
  (port', s, sm.2.perform port.instanceName (Statements.pmReadModuleState P port sm.1))

/-- `pm_read_state`. -/
def readState (w : Housed σ) : Housed σ :=
  let (ovsIntfs, s, memory) := w.pmd.ovsIntfs.mapAccum (pollPort P) (w.pmd.world, w.memory)
  { pmd := { w.pmd with ovsIntfs := ovsIntfs, world := s }, memory := memory }

end Housed

/-- The system with the memory of the daemon. -/
structure HousedSystem (σ : Type) where
  system : System σ
  memory : Memory

section Machine

variable {σ : Type} (P : Platform σ)

def HousedSystem.pmd (w : HousedSystem σ) : Housed σ where
  pmd := w.system.pmd
  memory := w.memory

def HousedSystem.withPmd (w : HousedSystem σ) (h : Housed σ) : HousedSystem σ where
  system := { w.system with pmd := h.pmd }
  memory := h.memory

/-- `step` with the memory. -/
def housedStep (w : HousedSystem σ) : Event σ → HousedSystem σ
  | .idlRun idl seqno => { w with system := step P w.system (.idlRun idl seqno) }
  | .reconfigure files => w.withPmd (w.pmd.reconfigure P w.system.idl w.system.seqno files)
  | .readState change =>
    w.withPmd (Housed.readState P
      { pmd := { w.system.pmd with world := change w.system.pmd.world }, memory := w.memory })
  -- `smap_add` copies its strings
  | .update committed => { w with system := step P w.system (.update committed) }

/-- `initial` with the memory. -/
def housedInitial (idl : Idl) (seqno : Nat) (files : Subsystem → YamlFiles) (world : σ)
    (db : Database) (heap : Heap Contents) : HousedSystem σ where
  system := initial P idl seqno files world db
  memory := (Housed.init P idl seqno files world heap).memory

end Machine

/-! ## Without its memory, it is the daemon -/

section Erasure

variable {σ : Type} {P : Platform σ}

namespace Housed

theorem pmd_createInterfaces (subName : String) : ∀ (intfs : List Interface) (w : Housed σ),
    (intfs.foldl (createInterface P subName) w).pmd = createInterfaces P subName intfs w.pmd
  | [], _ => rfl
  | intf :: intfs, w => by
    have hone : (createInterface P subName w intf).pmd =
        createInterfaces P subName [intf] w.pmd := by
      simp only [createInterface, createInterfaces, List.foldl_cons, List.foldl_nil]
      cases w.pmd.ovsIntfs.find intf.name <;> rfl
    rw [List.foldl_cons, pmd_createInterfaces subName intfs, hone]
    rfl

theorem pmd_subsysProcess (idl : Idl) (files : Subsystem → YamlFiles) (w : Housed σ)
    (sub : Subsystem) :
    (subsysProcess P idl files w sub).pmd = ovsdbIfSubsysProcess P idl files w.pmd sub := by
  unfold subsysProcess ovsdbIfSubsysProcess
  cases w.pmd.ovsSubs.find sub.name with
  | some _ => exact pmd_createInterfaces sub.name _ w
  | none =>
    dsimp only
    split
    · rfl
    · exact pmd_createInterfaces sub.name _ _

theorem pmd_subsystems (idl : Idl) (files : Subsystem → YamlFiles) :
    ∀ (subs : List Subsystem) (w : Housed σ), (subs.foldl (subsysProcess P idl files) w).pmd =
      subs.foldl (ovsdbIfSubsysProcess P idl files) w.pmd
  | [], _ => rfl
  | sub :: subs, w => by
    rw [List.foldl_cons, List.foldl_cons, pmd_subsystems idl files subs, pmd_subsysProcess]

theorem pmd_reconfigure (idl : Idl) (seqno : Nat) (files : Subsystem → YamlFiles) (w : Housed σ) :
    (w.reconfigure P idl seqno files).pmd = pmdReconfigure P idl seqno files w.pmd := by
  unfold reconfigure pmdReconfigure
  split
  · rfl
  · exact congrArg (List.foldl (modifyInterface P) · idl.interfaces) (pmd_subsystems idl files _ _)

theorem pmd_readState (w : Housed σ) : (w.readState P).pmd = pmReadState P w.pmd := by
  have hpoll : ∀ (port : PmPort) (sm : σ × Memory),
      (pmReadModuleState P port sm.1).2 = (pollPort P port sm).map id Prod.fst := fun _ _ => rfl
  have hports : w.pmd.ovsIntfs.mapAccum (fun port s => (pmReadModuleState P port s).2) w.pmd.world =
      (w.pmd.ovsIntfs.mapAccum (pollPort P) (w.pmd.world, w.memory)).map id Prod.fst :=
    Shash.mapAccum_hom (m := Prod.fst) (s := (w.pmd.world, w.memory)) hpoll
  unfold readState pmReadState
  rw [hports]
  rfl

end Housed

theorem system_housedStep (w : HousedSystem σ) (e : Event σ) :
    (housedStep P w e).system = step P w.system e := by
  cases e with
  | idlRun idl seqno => rfl
  | reconfigure files =>
    show ({ w.system with pmd := (w.pmd.reconfigure P _ _ files).pmd } : System σ) = _
    rw [Housed.pmd_reconfigure]
    rfl
  | readState change =>
    show ({ w.system with pmd := (Housed.readState P _).pmd } : System σ) = _
    rw [Housed.pmd_readState]
    rfl
  | update committed => rfl

/-- **Without its memory, a run of the daemon in memory is a run of the daemon.** -/
theorem system_exec_housedStep : ∀ (es : List (Event σ)) (w : HousedSystem σ),
    (Run.exec (housedStep P) w es).system = Run.exec (step P) w.system es
  | [], _ => rfl
  | e :: es, w => by
    rw [Run.exec_cons, Run.exec_cons, system_exec_housedStep es, system_housedStep]

end Erasure

end OpsPmd
