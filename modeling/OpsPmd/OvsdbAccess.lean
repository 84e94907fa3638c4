import OpsPmd.Plug
import OpsPmd.Publish

/-!
# The database side (`ovsdb_access.c`, `pmd.c`)

The IDL replica is a list of rows for each table. The database itself is known here by what the
daemon writes to it only: `pm_info` of interface rows and `cur_hw` of daemon rows, both by uuid.

* `pmdReconfigure` — bring the ports in line with the IDL
* `pmReadState` — poll all ports
* `pmOvsdbUpdate` — publish what changed, in one transaction
* `step` — the daemon as an event machine, of which `pmdRun` is a run of up to four events
-/

namespace OpsPmd

/-! ## The IDL -/

/-- A row of the Interface table. -/
structure Interface where
  uuid : Uuid
  name : String
  hwIntfConfig : Smap
  deriving DecidableEq, Repr

/-- A row of the Subsystem table. Its interfaces are references to rows of that table. -/
structure Subsystem where
  uuid : Uuid
  name : String
  hwDescDir : String
  interfaces : List Uuid
  deriving DecidableEq, Repr

/-- A row of the Daemon table. -/
structure DaemonRow where
  uuid : Uuid
  name : String
  deriving DecidableEq, Repr

/-- Contents of the IDL. -/
structure Idl where
  interfaces : List Interface := []
  subsystems : List Subsystem := []
  daemons : List DaemonRow := []
  deriving DecidableEq, Repr

namespace Idl

/-- `ovsrec_interface_get_for_uuid`. -/
def interfaceForUuid (idl : Idl) (uuid : Uuid) : Option Interface :=
  idl.interfaces.find? fun intf => intf.uuid = uuid

/-- `ovsrec_subsystem_get_for_uuid`. -/
def subsystemForUuid (idl : Idl) (uuid : Uuid) : Option Subsystem :=
  idl.subsystems.find? fun sub => sub.uuid = uuid

/-- The rows `sub->interfaces` points to. The IDL drops references to rows it does not have. -/
def interfacesOf (idl : Idl) (sub : Subsystem) : List Interface :=
  sub.interfaces.filterMap idl.interfaceForUuid

end Idl

def INTERFACE_HW_INTF_CONFIG_MAP_ENABLE := "enable"
def INTERFACE_HW_INTF_CONFIG_MAP_ENABLE_TRUE := "true"
def NAME_IN_DAEMON_TABLE := "ops-pmd"

/-! ## The daemon -/

/-- What a call of `pm_read_yaml_files` returns, and the ports the YAML handle has afterwards. -/
structure YamlFiles where
  rc : Int
  ports : List YamlPort

/-- The static data of the daemon, with the world its platform acts on. -/
structure Pmd (σ : Type) where
  idlSeqno : Nat
  curHwSet : Bool := false
  ovsIntfs : Shash String PmPort := []
  ovsSubs : Shash String Uuid := []
  /-- The ports in `global_yaml_handle`, by subsystem. -/
  yaml : String → List YamlPort := fun _ => []
  world : σ

/-- `pm_get_yaml_port`. -/
def pmGetYamlPort (yaml : String → List YamlPort) (subsystem instanceName : String) :
    Option YamlPort :=
  (yaml subsystem).find? fun port => port.name == instanceName

/-- `ovsdb_if_intf_get_hw_enable`. -/
def ovsdbIfIntfGetHwEnable (intf : Interface) : Bool :=
  match intf.hwIntfConfig.find INTERFACE_HW_INTF_CONFIG_MAP_ENABLE with
  | some enable => enable == INTERFACE_HW_INTF_CONFIG_MAP_ENABLE_TRUE
  | none => false

/-- The port `ovsdb_if_intf_create` allocates. All fields not given here are zero. -/
def newPort (intf : Interface) (subName : String) (yamlPort : YamlPort) : PmPort where
  instanceName := intf.name
  uuid := intf.uuid
  moduleDevice := yamlPort
  subsystem := subName
  hwEnable := ovsdbIfIntfGetHwEnable intf

section Reconfigure

variable {σ : Type} (P : Platform σ)

/-- `ovsdb_if_intf_create`. -/
def ovsdbIfIntfCreate (intf : Interface) (subName : String) (d : Pmd σ) : Pmd σ :=
  match pmGetYamlPort d.yaml subName intf.name with
  | none => d
  | some yamlPort =>
    if yamlPort.pluggable = false then d
    else
      let port := newPort intf subName yamlPort
      { d with
        ovsIntfs := d.ovsIntfs.add port.instanceName port
        -- the port is configured and then taken out of reset
        world := P.clearReset port.toPortId (P.configurePort port d.world) }

/-- `ovsdb_if_intf_modify`. -/
def ovsdbIfIntfModify (intf : Interface) (port : PmPort) (s : σ) : PmPort × σ :=
  let hwEnable := ovsdbIfIntfGetHwEnable intf
  if port.hwEnable ≠ hwEnable then
    -- noted before the write, whose result does not come back
    let port := { port with hwEnable := hwEnable }
    (port, P.configurePort port s)
  else (port, s)

/-- `ovsdb_if_intf_configure`. -/
def ovsdbIfIntfConfigure (intf : Interface) (d : Pmd σ) : Pmd σ :=
  match d.ovsIntfs.find intf.name with
  -- the port is written to whether it was configured before or not
  | some port => { d with world := P.configurePort port d.world }
  | none => d

/-- The loop of `ovsdb_if_subsys_process` over the interfaces of the subsystem. -/
def createInterfaces (subName : String) (intfs : List Interface) (d : Pmd σ) : Pmd σ :=
  intfs.foldl
    (fun d intf =>
      match d.ovsIntfs.find intf.name with
      | none => ovsdbIfIntfCreate P intf subName d
      | some _ => d)
    d

/--
`ovsdb_if_subsys_process`. The subsystem is recorded before its files are read, and stays recorded
when that fails.
-/
def ovsdbIfSubsysProcess (idl : Idl) (files : Subsystem → YamlFiles) (d : Pmd σ)
    (sub : Subsystem) : Pmd σ :=
  match d.ovsSubs.find sub.name with
  | some _ => createInterfaces P sub.name (idl.interfacesOf sub) d
  | none =>
    let d :=
      { d with
        ovsSubs := d.ovsSubs.add sub.name sub.uuid
        yaml := Function.update d.yaml sub.name (files sub).ports }
    -- nothing is created, but the record stays
    if (files sub).rc ≠ 0 then d
    else createInterfaces P sub.name (idl.interfacesOf sub) d

/-- The loop of `pmd_reconfigure` over the ports: delete those whose row is gone. -/
def deleteInterfaces (idl : Idl) (d : Pmd σ) : Pmd σ :=
  { d with
    ovsIntfs := d.ovsIntfs.deleteAll
      (fun node => (idl.interfaceForUuid node.2.uuid).isSome) (fun node => node.2.instanceName) }

/-- The loop of `pmd_reconfigure` over the known subsystems. -/
def deleteSubsystems (idl : Idl) (d : Pmd σ) : Pmd σ :=
  { d with
    ovsSubs := d.ovsSubs.deleteAll
      (fun node => (idl.subsystemForUuid node.2).isSome) (fun node => node.1) }

/-- The body of the loop of `pmd_reconfigure` over the interface rows. -/
def modifyInterface (d : Pmd σ) (intf : Interface) : Pmd σ :=
  match d.ovsIntfs.find intf.name with
  | none => d
  | some port =>
    let (port, s) := ovsdbIfIntfModify P intf port d.world
    { d with ovsIntfs := d.ovsIntfs.set intf.name port, world := s }

/-- `pmd_reconfigure`, with the sequence number of the IDL. -/
def pmdReconfigure (idl : Idl) (newIdlSeqno : Nat) (files : Subsystem → YamlFiles) (d : Pmd σ) :
    Pmd σ :=
  if newIdlSeqno = d.idlSeqno then d
  else
    let d := { d with idlSeqno := newIdlSeqno }
    let d := deleteInterfaces idl d
    let d := deleteSubsystems idl d
    let d := idl.subsystems.foldl (ovsdbIfSubsysProcess P idl files) d
    idl.interfaces.foldl (modifyInterface P) d

/-- `pmd_configure`. -/
def pmdConfigure (idl : Idl) (files : Subsystem → YamlFiles) (d : Pmd σ) : Pmd σ :=
  let d := idl.subsystems.foldl (ovsdbIfSubsysProcess P idl files) d
  idl.interfaces.foldl (fun d intf => ovsdbIfIntfConfigure P intf d) d

/-- `pm_ovsdb_if_init`, with what the IDL has when it was just created. -/
def pmOvsdbIfInit (idl : Idl) (seqno : Nat) (files : Subsystem → YamlFiles) (s : σ) : Pmd σ :=
  pmdConfigure P idl files { idlSeqno := seqno, world := s }

/-- `pm_read_state`. -/
def pmReadState (d : Pmd σ) : Pmd σ :=
  let (ovsIntfs, s) :=
    d.ovsIntfs.mapAccum (fun port s => (pmReadModuleState P port s).2) d.world
  { d with ovsIntfs := ovsIntfs, world := s }

end Reconfigure

/-! ## Publishing -/

/-- A column write of a transaction. -/
inductive TxnOp
  | setPmInfo (uuid : Uuid) (pmInfo : Smap)
  | setCurHw (uuid : Uuid) (curHw : Int)

/-- The columns of the database that only the daemon writes. -/
@[ext] structure Database where
  pmInfo : Uuid → Smap
  curHw : Uuid → Option Int

namespace Database

def apply (db : Database) : TxnOp → Database
  | .setPmInfo uuid pmInfo => { db with pmInfo := Function.update db.pmInfo uuid pmInfo }
  | .setCurHw uuid curHw => { db with curHw := Function.update db.curHw uuid (some curHw) }

/-- `ovsdb_idl_txn_commit_block`. A transaction that fails leaves the database as it was. -/
def commit (db : Database) (committed : Bool) (txn : List TxnOp) : Database :=
  if committed then txn.foldl apply db else db

end Database

/-- The loop body of `pm_ovsdb_update`, with the transaction carried along. -/
def updatePort (idl : Idl) (port : PmPort) (txn : List TxnOp) : PmPort × List TxnOp :=
  match idl.interfaceForUuid port.uuid with
  | none => (port, txn)
  | some _ =>
    if port.moduleInfoChanged = false then (port, txn)
    else
      ({ port with cells := port.cells.settle }, txn ++ [.setPmInfo port.uuid port.pmInfo])

/-- The rest of `pm_ovsdb_update` before the commit: `cur_hw` of the daemon's own row. -/
def updateCurHw (idl : Idl) (curHwSet : Bool) (txn : List TxnOp) : Bool × List TxnOp :=
  if curHwSet then (curHwSet, txn)
  else
    match idl.daemons.find? fun row => row.name == NAME_IN_DAEMON_TABLE with
    | some row => (true, txn ++ [.setCurHw row.uuid 1])
    | none => (curHwSet, txn)

/-- `pm_ovsdb_update`. The result of the commit is not looked at. -/
def pmOvsdbUpdate {σ : Type} (idl : Idl) (committed : Bool) (d : Pmd σ) (db : Database) :
    Pmd σ × Database :=
  let (ovsIntfs, txn) := d.ovsIntfs.mapAccum (updatePort idl) []
  let (curHwSet, txn) := updateCurHw idl d.curHwSet txn
  ({ d with ovsIntfs := ovsIntfs, curHwSet := curHwSet }, db.commit committed txn)

/-! ## The event machine -/

/-- The daemon with its replica of the database and the database. -/
structure System (σ : Type) where
  idl : Idl
  seqno : Nat
  pmd : Pmd σ
  db : Database

/-- What can happen. -/
inductive Event (σ : Type)
  /-- `ovsdb_idl_run` receives new contents. -/
  | idlRun (idl : Idl) (seqno : Nat)
  | reconfigure (files : Subsystem → YamlFiles)
  /-- `pm_read_state`, after the world changed by itself. -/
  | readState (change : σ → σ)
  | update (committed : Bool)

section Machine

variable {σ : Type} (P : Platform σ)

def step (s : System σ) : Event σ → System σ
  | .idlRun idl seqno => { s with idl := idl, seqno := seqno }
  | .reconfigure files => { s with pmd := pmdReconfigure P s.idl s.seqno files s.pmd }
  | .readState change => { s with pmd := pmReadState P { s.pmd with world := change s.pmd.world } }
  | .update committed =>
    let (pmd, db) := pmOvsdbUpdate s.idl committed s.pmd s.db
    { s with pmd := pmd, db := db }

/-- What one pass of the main loop meets. -/
structure Pass (σ : Type) where
  idl : Idl
  seqno : Nat
  hasLock : Bool
  files : Subsystem → YamlFiles
  change : σ → σ
  committed : Bool

/-- `pmd_run`. Without the lock on the database it only runs the IDL. -/
def pmdRun (s : System σ) (pass : Pass σ) : System σ :=
  let s := step P s (.idlRun pass.idl pass.seqno)
  if pass.hasLock = false then s
  else
    let s := step P s (.reconfigure pass.files)
    let s := step P s (.readState pass.change)
    step P s (.update pass.committed)

/-- The state after `pm_ovsdb_if_init`. -/
def initial (idl : Idl) (seqno : Nat) (files : Subsystem → YamlFiles) (world : σ)
    (db : Database) : System σ where
  idl := idl
  seqno := seqno
  pmd := pmOvsdbIfInit P idl seqno files world
  db := db

end Machine

end OpsPmd
