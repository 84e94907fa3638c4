import OpsPmd.Properties.Commands
import OpsPmd.Properties.Reconcile
import OpsPmd.Properties.Restart
import OpsPmd.WorldInvariant

/-!
# The daemon of the simulation

In the simulation the modules come and go by commands, which arrive between the passes of the
daemon. A command is for one interface, while a pass is for all of them, and what a command put into
a port stays there whatever else happens.

* `simulatedStep` — the daemon together with the commands
* `command_is_published` — after the next poll and update the row of the port says what the last
  successful command put there
-/

namespace OpsPmd

variable {nameOf : Uuid → String} {idl : Idl} {d : Pmd (Uuid → SimData)} {interface : String}
  {files : String → Option (List UInt8)} {args : List String} {port : PmPort} {n : String}

/-! ## Commands to a daemon -/

/-- The ports of the daemon, each with its `module_data`. -/
def Pmd.simPorts (d : Pmd (Uuid → SimData)) : Shash String SimPort :=
  d.ovsIntfs.map fun node => (node.1, ⟨node.2, d.world node.2.uuid⟩)

/-- The daemon with other ports. -/
def Pmd.withSimPorts (d : Pmd (Uuid → SimData)) (ports : Shash String SimPort) :
    Pmd (Uuid → SimData) :=
  { d with
    ovsIntfs := ports.map fun node => (node.1, node.2.port)
    world := ports.foldl
      (fun world node => Function.update world node.2.port.uuid node.2.world) d.world }

/-- `pmd_unixctl_sim` in the daemon. -/
def Pmd.simCommand (d : Pmd (Uuid → SimData)) (files : String → Option (List UInt8))
    (interface : String) (args : List String) : List Reply × Pmd (Uuid → SimData) :=
  let (replies, ports) := pmdUnixctlSim d.simPorts files interface args
  (replies, d.withSimPorts ports)

/-- `pmd_reconfigure` in the simulation. The memory of a new port is zero, so it has no module. -/
def simReconfigure (idl : Idl) (seqno : Nat) (yaml : Subsystem → YamlFiles)
    (d : Pmd (Uuid → SimData)) : Pmd (Uuid → SimData) :=
  let d' := pmdReconfigure simulation.each idl seqno yaml d
  { d' with
    world := fun u =>
      if d.ovsIntfs.any fun node => node.2.uuid == u then d'.world u
      else { d'.world u with moduleData := none } }

/-- What can happen to a daemon of the simulation. Its modules change by commands only. -/
inductive SimulatedEvent
  | idlRun (idl : Idl) (seqno : Nat)
  | reconfigure (yaml : Subsystem → YamlFiles)
  | readState
  | update (committed : Bool)
  /-- `ops-pmd/sim`, with the files there are. -/
  | command (files : String → Option (List UInt8)) (interface : String) (args : List String)

def simulatedStep (s : System (Uuid → SimData)) : SimulatedEvent → System (Uuid → SimData)
  | .idlRun idl seqno => step simulation.each s (.idlRun idl seqno)
  | .reconfigure yaml => { s with pmd := simReconfigure s.idl s.seqno yaml s.pmd }
  | .readState => step simulation.each s (.readState id)
  | .update committed => step simulation.each s (.update committed)
  | .command files interface args => { s with pmd := (s.pmd.simCommand files interface args).2 }

/-- The daemon as it starts, without a module in any port. -/
def simulatedInitial (idl : Idl) (seqno : Nat) (yaml : Subsystem → YamlFiles) (db : Database) :
    System (Uuid → SimData) :=
  initial simulation.each idl seqno yaml (fun _ => {}) db

/-! ## What a command does -/

/-- A command leaves all ports, or changes `module_data` of the one it names. -/
theorem pmdUnixctlSim_cases (ovsIntfs : Shash String SimPort)
    (files : String → Option (List UInt8)) (interface : String) (args : List String) :
    (pmdUnixctlSim ovsIntfs files interface args).2 = ovsIntfs ∧
        (∀ text, .ok text ∉ (pmdUnixctlSim ovsIntfs files interface args).1) ∨
      ∃ p data, ovsIntfs.find interface = some p ∧
        (pmdUnixctlSim ovsIntfs files interface args).2 =
          ovsIntfs.set interface (p.setModuleData data) ∧
        ∀ text, .ok text ∈ (pmdUnixctlSim ovsIntfs files interface args).1 →
          Requests files args data := by
  by_cases hremove : args = ["remove"]
  · obtain rfl := hremove
    rw [pmdUnixctlSim_remove]
    cases hp : ovsIntfs.find interface with
    | none =>
      left
      rw [pmdSimRemove, hp]
      exact ⟨rfl, by simp⟩
    | some p =>
      right
      rw [pmdSimRemove_of_find hp]
      unfold SimPort.remove
      by_cases hdata : p.world.moduleData.isNone = true
      · refine ⟨p, p.world.moduleData, rfl, ?_, ?_⟩
        · simp [hdata, SimPort.setModuleData]
        · simp [hdata]
      · exact ⟨p, none, rfl, by simp [hdata], fun _ _ => .remove⟩
  by_cases hinsert : ∃ file, args = ["insert", file]
  · obtain ⟨file, rfl⟩ := hinsert
    rw [pmdUnixctlSim_insert]
    cases hp : ovsIntfs.find interface with
    | none =>
      left
      rw [pmdSimInsert, hp]
      exact ⟨rfl, by simp⟩
    | some p =>
      right
      rw [pmdSimInsert_of_find hp]
      by_cases hread : Readable files file
      · obtain ⟨content, hfile, hlen⟩ := hread
        rw [hfile, insert_of_readable hlen]
        exact ⟨p, _, rfl, rfl, fun _ _ => .insert hfile (ofFn_getD hlen)⟩
      · obtain ⟨hrc, hport⟩ := insert_of_not_readable hread p
        refine ⟨p, none, rfl, ?_, ?_⟩
        · simp [hrc, hport]
        · simp [hrc]
  · left
    rcases args with _ | ⟨command, _ | ⟨file, _ | ⟨_, _⟩⟩⟩
    · simp [pmdUnixctlSim]
    · have hne : ¬(command == "remove") = true := by simpa using hremove
      simp [pmdUnixctlSim, hne]
    · have hne : ¬(command == "insert") = true := by
        simpa using fun heq => hinsert ⟨file, by rw [heq]⟩
      simp [pmdUnixctlSim, hne]
    · simp [pmdUnixctlSim]

/-- The arguments say what is to be put into the port. -/
theorem Requests.unique {data data' : Option Page} (h : Requests files args data)
    (h' : Requests files args data') : data = data' := by
  cases h with
  | insert hopen hread =>
    rename_i file content page
    generalize hargs : ["insert", file] = args at h'
    cases h' with
    | insert hopen' hread' =>
      obtain rfl : file = _ := by simpa using hargs
      obtain rfl := Option.some.inj (hopen.symm.trans hopen')
      exact congrArg some (List.ofFn_injective (hread.trans hread'.symm))
    | remove => simp at hargs
  | remove =>
    generalize hargs : ["remove"] = args at h'
    cases h' with
    | insert => simp at hargs
    | remove => rfl

/-- Ports with the worlds they have write nothing. -/
theorem foldl_worlds_self {w : Uuid → SimData} : ∀ {ports : Shash String SimPort},
    (∀ node ∈ ports, node.2.world = w node.2.port.uuid) →
      ports.foldl (fun world node => Function.update world node.2.port.uuid node.2.world) w = w
  | [], _ => rfl
  | node :: ports, h => by
    rw [List.foldl_cons, h node List.mem_cons_self, Function.update_eq_self]
    exact foldl_worlds_self fun node' hm => h node' (List.mem_cons_of_mem _ hm)

theorem map_simPorts (d : Pmd (Uuid → SimData)) :
    (d.simPorts.map fun node => (node.1, node.2.port)) = d.ovsIntfs := by
  unfold Pmd.simPorts
  rw [List.map_map]
  exact List.map_id _

theorem world_of_mem_simPorts {node : String × SimPort} (hm : node ∈ d.simPorts) :
    node.2.world = d.world node.2.port.uuid := by
  obtain ⟨node', -, rfl⟩ := List.mem_map.mp hm
  rfl

theorem find_simPorts (d : Pmd (Uuid → SimData)) (n : String) :
    d.simPorts.find n = (d.ovsIntfs.find n).map fun p => ⟨p, d.world p.uuid⟩ :=
  Shash.find_map_values fun p : PmPort => (⟨p, d.world p.uuid⟩ : SimPort)

theorem withSimPorts_simPorts (d : Pmd (Uuid → SimData)) : d.withSimPorts d.simPorts = d := by
  unfold Pmd.withSimPorts
  rw [map_simPorts, foldl_worlds_self fun node hm => world_of_mem_simPorts hm]

/-- With other data in one port the daemon is the same but for its world. -/
theorem withSimPorts_set {Y : YamlPort → Prop} {Φ : PmPort → Prop} (h : d.Holds nameOf Y Φ)
    (hm : (n, port) ∈ d.ovsIntfs) (data : SimData) :
    d.withSimPorts (d.simPorts.set n ⟨port, data⟩) =
      { d with world := Function.update d.world port.uuid data } := by
  have hfind : d.simPorts.find n = some ⟨port, d.world port.uuid⟩ := by
    rw [find_simPorts, h.unique.find_of_mem hm]
    rfl
  obtain ⟨pre, post, heq, -, hset⟩ := Shash.exists_split_of_find hfind
  have hports := map_simPorts d
  have hworlds : ∀ node ∈ d.simPorts, node.2.world = d.world node.2.port.uuid :=
    fun node hnode => world_of_mem_simPorts hnode
  have huuids : (d.simPorts.map fun node => node.2.port.uuid).Nodup := by
    have hnodup := h.nodup_uuid
    rw [← hports, List.map_map] at hnodup
    exact hnodup
  rw [heq] at hports hworlds huuids
  rw [List.map_append, List.map_cons, List.nodup_append, List.nodup_cons] at huuids
  obtain ⟨-, ⟨hpost, -⟩, -⟩ := huuids
  unfold Pmd.withSimPorts
  rw [hset, List.map_append, List.map_cons, List.foldl_append, List.foldl_cons,
    foldl_worlds_self fun node hnode => hworlds node (List.mem_append_left _ hnode),
    foldl_worlds_self (w := Function.update d.world port.uuid data) fun node hnode => ?_]
  · rw [List.map_append, List.map_cons] at hports
    rw [hports]
  · have hne : node.2.port.uuid ≠ port.uuid := fun hu =>
      hpost (hu ▸ List.mem_map_of_mem (f := fun node : String × SimPort => node.2.port.uuid) hnode)
    rw [Function.update_of_ne hne]
    exact hworlds node (List.mem_append_right _ (List.mem_cons_of_mem _ hnode))

/-- A command leaves the daemon, or changes `module_data` of the port it names. -/
theorem simCommand_cases {Y : YamlPort → Prop} {Φ : PmPort → Prop} (h : d.Holds nameOf Y Φ)
    (files : String → Option (List UInt8)) (interface : String) (args : List String) :
    (d.simCommand files interface args).2 = d ∧
        (∀ text, .ok text ∉ (d.simCommand files interface args).1) ∨
      ∃ p data, (interface, p) ∈ d.ovsIntfs ∧
        (d.simCommand files interface args).2 =
          { d with
            world := Function.update d.world p.uuid { d.world p.uuid with moduleData := data } } ∧
        ∀ text, .ok text ∈ (d.simCommand files interface args).1 → Requests files args data := by
  unfold Pmd.simCommand
  dsimp only
  rcases pmdUnixctlSim_cases d.simPorts files interface args with ⟨hsame, hno⟩ |
    ⟨slot, data, hfind, hset, hok⟩
  · rw [hsame]
    exact Or.inl ⟨withSimPorts_simPorts d, hno⟩
  · right
    rw [find_simPorts] at hfind
    obtain ⟨p, hp, rfl⟩ := Option.map_eq_some_iff.mp hfind
    have hm := Shash.mem_of_find hp
    rw [hset]
    exact ⟨p, data, hm, withSimPorts_set h hm _, hok⟩

/-- A command is nothing to the port itself. -/
theorem ovsIntfs_simCommand {Y : YamlPort → Prop} {Φ : PmPort → Prop} (h : d.Holds nameOf Y Φ)
    (files : String → Option (List UInt8)) (interface : String) (args : List String) :
    (d.simCommand files interface args).2.ovsIntfs = d.ovsIntfs := by
  rcases simCommand_cases h files interface args with ⟨hsame, -⟩ | ⟨p, data, -, hworld, -⟩
  · rw [hsame]
  · rw [hworld]

/-! ## Ports that stay -/

section Stay

variable {σ : Type} {P : Platform σ} {yaml : Subsystem → YamlFiles} {seqno : Nat}

/-- The daemon has the port, with some `hw_enable`. -/
def Pmd.HasPort (n : String) (port : PmPort) (d : Pmd σ) : Prop :=
  ∃ hwEnable, d.ovsIntfs.find n = some { port with hwEnable := hwEnable }

theorem hasPort_createInterfaces {d : Pmd σ} (h : d.HasPort n port) (subName : String)
    (intfs : List Interface) : (createInterfaces P subName intfs d).HasPort n port :=
  h.imp fun _ hn => (created_createInterfaces subName intfs d).kept _ _ hn

theorem hasPort_subsysProcess {d : Pmd σ} (h : d.HasPort n port) (sub : Subsystem) :
    (ovsdbIfSubsysProcess P idl yaml d sub).HasPort n port := by
  unfold ovsdbIfSubsysProcess
  cases d.ovsSubs.find sub.name with
  | some _ => exact hasPort_createInterfaces h _ _
  | none =>
    have hrecord : ({ d with
        ovsSubs := d.ovsSubs.add sub.name sub.uuid
        yaml := Function.update d.yaml sub.name (yaml sub).ports } : Pmd σ).HasPort n port := h
    dsimp only
    split
    · exact hrecord
    · exact hasPort_createInterfaces hrecord _ _

theorem hasPort_modifyInterface {d : Pmd σ} (h : d.HasPort n port) (intf : Interface) :
    (modifyInterface P d intf).HasPort n port := by
  obtain ⟨hwEnable, hn⟩ := h
  by_cases hname : n = intf.name
  · subst hname
    refine ⟨ovsdbIfIntfGetHwEnable intf, ?_⟩
    rw [find_modifyInterface_self, hn]
    rfl
  · exact ⟨hwEnable, by rw [find_modifyInterface_ne d intf hname, hn]⟩

/-- **A port whose row is there survives a reconfiguration.** -/
theorem hasPort_reconfigure {d : Pmd σ} {Y : YamlPort → Prop} {Φ : PmPort → Prop}
    (h : d.Holds nameOf Y Φ) (hm : (n, port) ∈ d.ovsIntfs)
    (hrow : (idl.interfaceForUuid port.uuid).isSome = true) :
    (pmdReconfigure P idl seqno yaml d).HasPort n port := by
  have hfind : d.HasPort n port := ⟨port.hwEnable, h.unique.find_of_mem hm⟩
  unfold pmdReconfigure
  split
  · exact hfind
  · have hseq : ({ d with idlSeqno := seqno } : Pmd σ).Holds nameOf Y Φ := h.congr rfl rfl
    have hdel : (deleteSubsystems idl (deleteInterfaces idl { d with idlSeqno := seqno })).HasPort
        n port := by
      refine ⟨port.hwEnable, ?_⟩
      refine (find_deleteInterfaces hseq n).trans ?_
      show (d.ovsIntfs.find n).filter _ = some port
      rw [h.unique.find_of_mem hm, Option.filter_eq_some_iff]
      exact ⟨rfl, hrow⟩
    refine List.foldlRecOn idl.interfaces _ ?_ fun d' hd intf _ => hasPort_modifyInterface hd intf
    exact List.foldlRecOn idl.subsystems _ hdel fun d' hd sub _ => hasPort_subsysProcess hd sub

end Stay

/-! ## Modules that stay -/

theorem moduleData_update {w : Uuid → SimData} {u : Uuid} {data : SimData}
    (h : data.moduleData = (w u).moduleData) (v : Uuid) :
    (Function.update w u data v).moduleData = (w v).moduleData := by
  by_cases hv : v = u
  · rw [hv, Function.update_self, h]
  · rw [Function.update_of_ne hv]

/-- The modules of all ports, while they stay. -/
theorem steady_simulation_each (m : Uuid → Option Page) :
    simulation.each.Steady (fun port => simResponses (m port.uuid))
      fun w => ∀ u, (w u).moduleData = m u :=
  Platform.Steady.each fun u => steady_simulation (m u)

theorem lasts_lived : PmPort.Lasts simulation.each (fun y => ∃ t, y.IsA t)
    (PmPort.Lived simulation.each) where
  newPort intf subName y hy _ := by
    obtain ⟨t, hy⟩ := hy
    exact PmPort.Lived.newPort simulation.each hy intf subName fun _ => {}
  hwEnable _ hwEnable hp := hp.configure hwEnable
  poll _ s hp := hp.poll s
  settle _ hp := hp.settle

/-- No function of the platform changes a module. -/
theorem preserves_moduleData (m : Uuid → Option Page) :
    simulation.each.Preserves fun w => ∀ u, (w u).moduleData = m u where
  getPresence _ _ hw u := (moduleData_update rfl u).trans (hw u)
  readA0 _ _ _ hw u := (moduleData_update rfl u).trans (hw u)
  readA2 _ _ hw u := (moduleData_update rfl u).trans (hw u)
  resetPort _ _ hw u := (moduleData_update rfl u).trans (hw u)
  clearReset _ _ hw u := (moduleData_update rfl u).trans (hw u)
  configurePort p w hw u := by
    refine (moduleData_update ?_ u).trans (hw u)
    simp only [simulation]
    split <;> rfl

/-! ## Runs -/

/-- Rows are named, ports of the known kinds, and updates commit. -/
def SimulatedEvent.Proper (nameOf : Uuid → String) : SimulatedEvent → Prop
  | .idlRun idl _ => idl.Named nameOf
  | .reconfigure yaml => YamlFiles.All (fun y => ∃ t, y.IsA t) yaml
  | .readState | .command .. => True
  | .update committed => committed = true

/-- Rows tell of ports, and each port has a history. -/
structure System.Simulated (nameOf : Uuid → String) (s : System (Uuid → SimData)) : Prop where
  sound : s.Sound nameOf Tracked
  lived : s.Lived simulation.each nameOf

namespace System.Simulated

variable {s : System (Uuid → SimData)}

theorem initial (hidl : idl.Named nameOf) {yaml : Subsystem → YamlFiles}
    (hyaml : YamlFiles.All (fun y => ∃ t, y.IsA t) yaml) (seqno : Nat) (db : Database) :
    (simulatedInitial idl seqno yaml db).Simulated nameOf :=
  ⟨System.Sound.initial hidl hyaml seqno _ db, System.Lived.initial hidl hyaml seqno _ db⟩

theorem daemon (h : s.Simulated nameOf) {e : Event (Uuid → SimData)} (he : e.Proper nameOf) :
    (OpsPmd.step simulation.each s e).Simulated nameOf :=
  ⟨h.sound.step_tracked he, h.lived.step he.known⟩

theorem step (h : s.Simulated nameOf) {e : SimulatedEvent} (he : e.Proper nameOf) :
    (simulatedStep s e).Simulated nameOf := by
  cases e with
  | idlRun idl seqno => exact h.daemon (e := .idlRun idl seqno) he
  | reconfigure yaml =>
    have hd := h.daemon (e := .reconfigure yaml) he
    exact ⟨⟨hd.sound.idl, hd.sound.ports.congr rfl rfl⟩,
      ⟨hd.lived.idl, hd.lived.ports.congr rfl rfl⟩⟩
  | readState => exact h.daemon (e := .readState id) trivial
  | update committed => exact h.daemon (e := .update committed) he
  | command files interface args =>
    rcases simCommand_cases h.lived.ports files interface args with ⟨hsame, -⟩ |
      ⟨p, data, -, hworld, -⟩
    · simp only [simulatedStep, hsame]
      exact h
    · simp only [simulatedStep, hworld]
      exact ⟨⟨h.sound.idl, h.sound.ports.congr rfl rfl⟩,
        ⟨h.lived.idl, h.lived.ports.congr rfl rfl⟩⟩

theorem exec (h : s.Simulated nameOf) {es : List SimulatedEvent}
    (hes : ∀ e ∈ es, e.Proper nameOf) : (Run.exec simulatedStep s es).Simulated nameOf :=
  Run.exec_invariant (fun _ _ hs he => hs.step he) h (Run.along_of_forall hes)

end System.Simulated

/-- The event is no command for the interface, and leaves its row. -/
def SimulatedEvent.Spares (interface : String) (u : Uuid) : SimulatedEvent → Prop
  | .idlRun idl _ => (idl.interfaceForUuid u).isSome = true
  | .command _ name _ => name ≠ interface
  | .reconfigure _ | .readState | .update _ => True

/-- The port has a row, and has `data` in it, which it notices. -/
structure System.Holding (nameOf : Uuid → String) (n : String) (id : PortId) (data : Option Page)
    (s : System (Uuid → SimData)) : Prop where
  simulated : s.Simulated nameOf
  row : (s.idl.interfaceForUuid id.uuid).isSome = true
  port : ∃ p, (n, p) ∈ s.pmd.ovsIntfs ∧ p.toPortId = id ∧ p.Notices (simResponses data)
  world : (s.pmd.world id.uuid).moduleData = data

namespace System.Holding

variable {s : System (Uuid → SimData)} {id : PortId} {data : Option Page}

/-- No function of the daemon changes a module. -/
theorem guarded_modules (h : s.Holding nameOf n id data) :
    s.pmd.Guarded nameOf (fun y => ∃ t, y.IsA t) (PmPort.Lived simulation.each)
      fun w => ∀ u, (w u).moduleData = (s.pmd.world u).moduleData :=
  ⟨h.simulated.lived.ports, fun _ => rfl⟩

/-- **Nothing that spares the port takes `data` out of it, or goes unnoticed by it.** -/
theorem step (h : s.Holding nameOf n id data) {e : SimulatedEvent} (he : e.Proper nameOf)
    (hspares : e.Spares n id.uuid) : (simulatedStep s e).Holding nameOf n id data := by
  have hsim := h.simulated.step he
  obtain ⟨p, hm, hid, hnotices⟩ := h.port
  have hkeeps := (preserves_moduleData fun u => (s.pmd.world u).moduleData).keeps
    (PmPort.Placed nameOf (PmPort.Lived simulation.each))
  cases e with
  | idlRun idl seqno => exact ⟨hsim, hspares, h.port, h.world⟩
  | reconfigure yaml =>
    have hport : (pmdReconfigure simulation.each s.idl s.seqno yaml s.pmd).HasPort n p :=
      hasPort_reconfigure h.simulated.lived.ports hm (hid ▸ h.row)
    obtain ⟨hwEnable, hfind⟩ := hport
    refine ⟨hsim, h.row, ⟨_, Shash.mem_of_find hfind, hid, hnotices⟩, ?_⟩
    -- the port is not new, so its `module_data` stays
    have hworld := (h.guarded_modules.reconfigure hkeeps lasts_lived h.simulated.lived.idl he
      s.seqno).world id.uuid
    have hold : (s.pmd.ovsIntfs.any fun node => node.2.uuid == id.uuid) = true :=
      List.any_eq_true.mpr ⟨(n, p), hm, by simp [hid]⟩
    show (if _ then _ else _ : SimData).moduleData = data
    rw [if_pos hold, hworld, h.world]
  | readState =>
    have hsteady := steady_simulation_each fun u => (s.pmd.world u).moduleData
    obtain ⟨t, hinv, hbacked⟩ := (h.simulated.lived.ports.port n p hm).backed
    obtain ⟨w, hw, hpolled⟩ := mem_pmReadState hsteady h.simulated.lived.ports (fun _ => rfl) hm
    have hresp := hsteady p.toPortId t hinv.device
    have hdata : (s.pmd.world p.toPortId.uuid).moduleData = data := by rw [hid, h.world]
    simp only [hdata] at hresp
    refine ⟨hsim, h.row, ⟨_, hpolled, (toPortId_pmReadModuleState p w).trans hid,
      hinv.notices_poll hbacked hresp hw hnotices⟩, ?_⟩
    exact ((h.guarded_modules.readState hkeeps lasts_lived).world id.uuid).trans h.world
  | update committed =>
    have hsettled : (n, p.settled s.idl) ∈ (pmOvsdbUpdate s.idl committed s.pmd s.db).1.ovsIntfs :=
      mem_ovsIntfs_update.mpr ⟨p, hm, rfl⟩
    refine ⟨hsim, h.row, ⟨p.settled s.idl, hsettled, PmPort.settled_toPortId.trans hid,
      hnotices.settled⟩, ?_⟩
    show ((pmOvsdbUpdate s.idl committed s.pmd s.db).1.world id.uuid).moduleData = data
    rw [pmOvsdbUpdate_eq]
    exact h.world
  | command files interface args =>
    rcases simCommand_cases h.simulated.lived.ports files interface args with ⟨hsame, -⟩ |
      ⟨q, data', hq, hworld, -⟩
    · simp only [simulatedStep, hsame] at hsim ⊢
      exact ⟨hsim, h.row, h.port, h.world⟩
    · simp only [simulatedStep, hworld] at hsim ⊢
      refine ⟨hsim, h.row, h.port, ?_⟩
      -- the command is for another port
      have hne : id.uuid ≠ q.uuid := by
        intro hu
        rw [← hid] at hu
        have hn := h.simulated.lived.ports.row n p hm
        have hn' := h.simulated.lived.ports.row interface q hq
        exact hspares (hn'.symm.trans (hu ▸ hn))
      show (Function.update s.pmd.world q.uuid _ id.uuid).moduleData = data
      rw [Function.update_of_ne hne]
      exact h.world

theorem exec (h : s.Holding nameOf n id data) {es : List SimulatedEvent}
    (hes : ∀ e ∈ es, e.Proper nameOf ∧ e.Spares n id.uuid) :
    (Run.exec simulatedStep s es).Holding nameOf n id data :=
  Run.exec_invariant (fun _ _ hs he => hs.step he.1 he.2) h (Run.along_of_forall hes)

end System.Holding

/--
**What a command puts into a port is what the database says of it**, as long as every update
commits. A command is answered with success, and its module is one that the port has to read or has
read before. Then commands for other ports, reconfigurations that leave the row, polls and updates
follow in any order, and in the end a poll and an update: the row of the port has the identification
entries of the module, and so has the reply to a dump of its interface.
-/
theorem command_is_published (nameOf : Uuid → String) (hidl : idl.Named nameOf)
    {yaml : Subsystem → YamlFiles} (hyaml : YamlFiles.All (fun y => ∃ t, y.IsA t) yaml)
    (seqno : Nat) (db : Database) {es : List SimulatedEvent} (hes : ∀ e ∈ es, e.Proper nameOf)
    (files : String → Option (List UInt8)) (interface : String) (args : List String)
    {later : List SimulatedEvent} {port : PmPort}
    (hlater : ∀ e ∈ later, e.Proper nameOf ∧ e.Spares interface port.uuid) :
    let s := Run.exec simulatedStep (simulatedInitial idl seqno yaml db) es
    let after := Run.exec simulatedStep s
      (.command files interface args :: later ++ [.readState, .update true])
    (interface, port) ∈ s.pmd.ovsIntfs → (s.idl.interfaceForUuid port.uuid).isSome = true →
      ∀ data text, .ok text ∈ (s.pmd.simCommand files interface args).1 →
        Requests files args data → port.Notices (simResponses data) → ∃ t, port.moduleDevice.IsA t ∧
          (after.db.pmInfo port.uuid).dumped = (simResponses data).ident.dumped t ∧
          pmdUnixctlDump after.pmd.ovsIntfs ["ops-pmd/dump", "interface", interface] =
            .ok (blockText (interface, (simResponses data).ident.dumped t)) := by
  intro s after hm hrow data text hok hrequests hnotices
  have hsim : s.Simulated nameOf := (System.Simulated.initial hidl hyaml seqno db).exec hes
  rcases simCommand_cases hsim.lived.ports files interface args with ⟨-, hno⟩ |
    ⟨p, data', hp, hworld, hreply⟩
  · exact absurd hok (hno text)
  obtain rfl : p = port := by
    have hfind := hsim.lived.ports.unique.find_of_mem hp
    exact Option.some.inj (hfind.symm.trans (hsim.lived.ports.unique.find_of_mem hm))
  obtain rfl := (hreply text hok).unique hrequests
  have hcommand : (simulatedStep s (.command files interface args)).Holding nameOf interface
      p.toPortId data' := by
    have hstep := hsim.step (e := .command files interface args) trivial
    simp only [simulatedStep, hworld] at hstep ⊢
    exact ⟨hstep, hrow, ⟨p, hm, rfl, hnotices⟩, by simp⟩
  -- before the last poll the port has the same data, and its identity
  have hlast := hcommand.exec hlater
  generalize hs' : Run.exec simulatedStep (simulatedStep s (.command files interface args)) later =
    s' at hlast
  have hafter : after = Run.exec (step simulation.each) s' (pollAndUpdate id) := by
    show Run.exec simulatedStep (simulatedStep s (.command files interface args))
      (later ++ [.readState, .update true]) = _
    rw [Run.exec_append, hs']
    rfl
  obtain ⟨q, hq, hid, hnotices'⟩ := hlast.port
  have hsteady := steady_simulation_each fun u => (s'.pmd.world u).moduleData
  have hdata : (s'.pmd.world q.uuid).moduleData = data' := by
    rw [hid]
    exact hlast.world
  have hworld : ∀ u, (id s'.pmd.world u).moduleData = (s'.pmd.world u).moduleData := fun _ => rfl
  have hdumped := hlast.simulated.sound.dumped_after hlast.simulated.lived hsteady hworld hq
    (by rw [hid]; exact hlast.row) (by simpa only [hdata] using hnotices')
  simp only [hdata, ← hafter] at hdumped
  rw [hid] at hdumped
  exact hdumped

/--
The one port is polled empty, and a module is inserted. A command for a port there is not follows.
-/
theorem command_is_published_onePort :
    let files : String → Option (List UInt8) := fun _ => some srPage.toList
    let s := Run.exec simulatedStep (simulatedInitial onePortIdl 0 onePortFiles emptyDatabase)
      [.readState, .update true]
    let after := Run.exec simulatedStep s (.command files "1" ["insert", "sr.bin"] ::
      [.command files "2" ["remove"]] ++ [.readState, .update true])
    ∃ port, ("1", port) ∈ s.pmd.ovsIntfs ∧ ∃ t, port.moduleDevice.IsA t ∧
      (after.db.pmInfo port.uuid).dumped = (simResponses (some srPage)).ident.dumped t := by
  intro files s after
  have hes : ∀ e ∈ [SimulatedEvent.readState, .update true], e.Proper fun _ => "1" := by
    simp [SimulatedEvent.Proper]
  have hrequests : Requests files ["insert", "sr.bin"] (some srPage) :=
    .insert rfl (List.take_of_length_le (Page.length_toList srPage).le).symm
  have hok : .ok "Pluggable module inserted" ∈
      (s.pmd.simCommand files "1" ["insert", "sr.bin"]).1 := by decide +kernel
  have hfind : (s.pmd.ovsIntfs.find "1").any (fun p => (s.idl.interfaceForUuid p.uuid).isSome &&
      !p.present) = true := by decide +kernel
  obtain ⟨port, hport, hall⟩ := (Option.any_eq_true _ _).mp hfind
  simp only [Bool.and_eq_true, Bool.not_eq_true'] at hall
  have hnotices : port.Notices (simResponses (some srPage)) := fun _ =>
    Or.inl fun hheld => by simp [hall.2] at hheld
  have hlater : ∀ e ∈ [SimulatedEvent.command files "2" ["remove"]],
      e.Proper (fun _ => "1") ∧ e.Spares "1" port.uuid := by
    simp [SimulatedEvent.Proper, SimulatedEvent.Spares]
  have hm := Shash.mem_of_find hport
  have hs : Run.exec simulatedStep (simulatedInitial onePortIdl 0 onePortFiles emptyDatabase)
      [.readState, .update true] = s := rfl
  have hafter : Run.exec simulatedStep s (.command files "1" ["insert", "sr.bin"] ::
      [.command files "2" ["remove"]] ++ [.readState, .update true]) = after := rfl
  have hpublished := command_is_published (fun _ => "1")
    named_onePortIdl known_onePortFiles 0 emptyDatabase hes files "1" ["insert", "sr.bin"] hlater
  rw [hs] at hpublished
  obtain ⟨t, hdev, hrow, -⟩ := hpublished hm hall.1 _ _ hok hrequests hnotices
  rw [hafter] at hrow
  exact ⟨port, hm, t, hdev, hrow⟩

end OpsPmd
