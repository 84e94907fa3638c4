import OpsPmd.PortInvariant

/-!
# What holds of all ports of the daemon

`Pmd.Holds` says that the keys of `ovs_intfs` are unique, that each is the name of its port and of
the port's row, and that every port has a property `Φ`. It is kept by every function of the daemon
as long as the property is.
-/

namespace OpsPmd

variable {σ : Type} {P : Platform σ}

/-! ## Polls of any port -/

/-- A poll of a pluggable port changes its columns and flags at most. -/
theorem sameSetup_pmReadModuleState {port : PmPort} (hp : port.moduleDevice.pluggable = true)
    (hr : port.Ready) (s : σ) : PmPort.SameSetup port (pmReadModuleState P port s).2.1 := by
  have hknown : ∀ {t : ModuleType}, port.moduleDevice.IsA t →
      PmPort.SameSetup port (pmReadModuleState P port s).2.1 := by
    intro t h
    rw [pmReadModuleState_eq h hr]
    exact PmPort.sameSetup_observe h _
  unfold pmReadModuleState at hknown ⊢
  split_ifs at hknown ⊢ with hsfp hqsfp
  · exact hknown (t := .sfpPlus) ⟨hp, eq_of_beq hsfp⟩
  · rw [Bool.or_eq_true] at hqsfp
    rcases hqsfp with hq | hq
    · exact hknown (t := .qsfpPlus) ⟨hp, eq_of_beq hq⟩
    · exact hknown (t := .qsfp28) ⟨hp, eq_of_beq hq⟩
  · exact PmPort.SameSetup.refl port

/-! ## The invariant -/

/-- Each interface row carries the name that belongs to its uuid. -/
def Idl.Named (nameOf : Uuid → String) (idl : Idl) : Prop :=
  ∀ intf ∈ idl.interfaces, nameOf intf.uuid = intf.name

/-- The pluggable ports of all YAML files have the property `Y`. -/
def YamlFiles.All (Y : YamlPort → Prop) (files : Subsystem → YamlFiles) : Prop :=
  ∀ sub, ∀ y ∈ (files sub).ports, y.pluggable = true → Y y

/-- Keys, names and rows fit, and the ports have the property `Φ`. -/
structure Pmd.Holds (nameOf : Uuid → String) (Y : YamlPort → Prop) (Φ : PmPort → Prop)
    (d : Pmd σ) : Prop where
  unique : d.ovsIntfs.Unique
  key : ∀ n p, (n, p) ∈ d.ovsIntfs → p.instanceName = n
  row : ∀ n p, (n, p) ∈ d.ovsIntfs → nameOf p.uuid = n
  port : ∀ n p, (n, p) ∈ d.ovsIntfs → Φ p
  yaml : ∀ sub, ∀ y ∈ d.yaml sub, y.pluggable = true → Y y

theorem Idl.mem_interfaces_of_forUuid {idl : Idl} {uuid : Uuid} {intf : Interface}
    (h : idl.interfaceForUuid uuid = some intf) : intf ∈ idl.interfaces ∧ intf.uuid = uuid :=
  ⟨List.mem_of_find?_eq_some h, by simpa using List.find?_some h⟩

theorem Idl.mem_interfaces_of_mem {idl : Idl} {sub : Subsystem} {intf : Interface}
    (h : intf ∈ idl.interfacesOf sub) : intf ∈ idl.interfaces := by
  obtain ⟨uuid, -, hfor⟩ := List.mem_filterMap.mp h
  exact (mem_interfaces_of_forUuid hfor).1

theorem mem_of_pmGetYamlPort {yaml : String → List YamlPort} {sub name : String} {y : YamlPort}
    (h : pmGetYamlPort yaml sub name = some y) : y ∈ yaml sub :=
  List.mem_of_find?_eq_some h

namespace Pmd.Holds

variable {nameOf : Uuid → String} {Y : YamlPort → Prop} {Φ Ψ : PmPort → Prop} {d : Pmd σ}

/-- No two ports have the same row. -/
theorem eq_of_uuid (h : d.Holds nameOf Y Φ) {n n' : String} {p p' : PmPort}
    (hm : (n, p) ∈ d.ovsIntfs) (hm' : (n', p') ∈ d.ovsIntfs) (hu : p.uuid = p'.uuid) :
    p = p' := by
  have hn : n = n' := by rw [← h.row n p hm, ← h.row n' p' hm', hu]
  subst hn
  exact Option.some.inj ((h.unique.find_of_mem hm).symm.trans (h.unique.find_of_mem hm'))

theorem mono (h : d.Holds nameOf Y Φ) (hΦ : ∀ n p, (n, p) ∈ d.ovsIntfs → Φ p → Ψ p) :
    d.Holds nameOf Y Ψ where
  unique := h.unique
  key := h.key
  row := h.row
  port n p hm := hΦ n p hm (h.port n p hm)
  yaml := h.yaml

/-- The world and the sequence number do not matter. -/
theorem congr {d' : Pmd σ} (h : d.Holds nameOf Y Φ) (hintfs : d'.ovsIntfs = d.ovsIntfs)
    (hyaml : d'.yaml = d.yaml) : d'.Holds nameOf Y Φ where
  unique := hintfs ▸ h.unique
  key := hintfs ▸ h.key
  row := hintfs ▸ h.row
  port := hintfs ▸ h.port
  yaml := hyaml ▸ h.yaml

/-! ## Deleting ports -/

theorem ovsIntfs_deleteInterfaces (h : d.Holds nameOf Y Φ) (idl : Idl) :
    (deleteInterfaces idl d).ovsIntfs =
      d.ovsIntfs.filter fun node => (idl.interfaceForUuid node.2.uuid).isSome :=
  h.unique.deleteAll_eq_filter fun node hm => h.key node.1 node.2 hm

theorem deleteInterfaces (h : d.Holds nameOf Y Φ) (idl : Idl) :
    (deleteInterfaces idl d).Holds nameOf Y Φ := by
  have hsub : ∀ {node}, node ∈ (OpsPmd.deleteInterfaces idl d).ovsIntfs → node ∈ d.ovsIntfs := by
    intro node hm
    rw [h.ovsIntfs_deleteInterfaces idl] at hm
    exact List.mem_of_mem_filter hm
  refine ⟨?_, fun n p hm => h.key n p (hsub hm), fun n p hm => h.row n p (hsub hm),
    fun n p hm => h.port n p (hsub hm), h.yaml⟩
  rw [h.ovsIntfs_deleteInterfaces idl]
  exact h.unique.filter _

/-! ## Creating ports -/

variable {idl : Idl}

theorem create (h : d.Holds nameOf Y Φ)
    (hnew : ∀ intf subName y, Y y → y.pluggable = true → Φ (newPort intf subName y))
    {intf : Interface} (hname : nameOf intf.uuid = intf.name)
    (hfree : d.ovsIntfs.find intf.name = none) (subName : String) :
    (ovsdbIfIntfCreate P intf subName d).Holds nameOf Y Φ := by
  unfold ovsdbIfIntfCreate
  cases hy : pmGetYamlPort d.yaml subName intf.name with
  | none => exact h
  | some y =>
    dsimp only
    by_cases hplug : y.pluggable = true
    · rw [if_neg (by simp [hplug])]
      have hY : Y y := h.yaml subName y (mem_of_pmGetYamlPort hy) hplug
      have hcases : ∀ {n p}, (n, p) ∈ d.ovsIntfs.add intf.name (newPort intf subName y) →
          (n = intf.name ∧ p = newPort intf subName y) ∨ (n, p) ∈ d.ovsIntfs := by
        intro n p hm
        exact (List.mem_cons.mp hm).imp Prod.mk.inj id
      refine ⟨h.unique.add hfree, fun n p hm => ?_, fun n p hm => ?_, fun n p hm => ?_, h.yaml⟩
      · rcases hcases hm with ⟨rfl, rfl⟩ | hm
        · rfl
        · exact h.key n p hm
      · rcases hcases hm with ⟨rfl, rfl⟩ | hm
        · exact hname
        · exact h.row n p hm
      · rcases hcases hm with ⟨rfl, rfl⟩ | hm
        · exact hnew intf subName y hY hplug
        · exact h.port n p hm
    · rw [if_pos (by simpa using hplug)]
      exact h

theorem createInterfaces (h : d.Holds nameOf Y Φ)
    (hnew : ∀ intf subName y, Y y → y.pluggable = true → Φ (newPort intf subName y))
    {intfs : List Interface} (hnames : ∀ intf ∈ intfs, nameOf intf.uuid = intf.name)
    (subName : String) : (createInterfaces P subName intfs d).Holds nameOf Y Φ := by
  refine List.foldlRecOn intfs _ h fun d hd intf hm => ?_
  cases hfind : d.ovsIntfs.find intf.name with
  | none => exact hd.create hnew (hnames intf hm) hfind subName
  | some _ => exact hd

/-- A subsystem is recorded and its files are in the handle before anything is created. -/
theorem record (h : d.Holds nameOf Y Φ) {files : Subsystem → YamlFiles}
    (hfiles : YamlFiles.All Y files) (sub : Subsystem) :
    ({ d with
      ovsSubs := d.ovsSubs.add sub.name sub.uuid
      yaml := Function.update d.yaml sub.name (files sub).ports } : Pmd σ).Holds nameOf Y Φ := by
  refine ⟨h.unique, h.key, h.row, h.port, fun name y hy => ?_⟩
  by_cases hn : name = sub.name
  · subst hn
    simp only [Function.update_self] at hy
    exact hfiles sub y hy
  · simp only [Function.update_of_ne hn] at hy
    exact h.yaml name y hy

theorem subsysProcess (h : d.Holds nameOf Y Φ)
    (hnew : ∀ intf subName y, Y y → y.pluggable = true → Φ (newPort intf subName y))
    (hidl : idl.Named nameOf) {files : Subsystem → YamlFiles} (hfiles : YamlFiles.All Y files)
    (sub : Subsystem) : (ovsdbIfSubsysProcess P idl files d sub).Holds nameOf Y Φ := by
  have hnames : ∀ intf ∈ idl.interfacesOf sub, nameOf intf.uuid = intf.name :=
    fun intf hm => hidl intf (Idl.mem_interfaces_of_mem hm)
  unfold ovsdbIfSubsysProcess
  cases d.ovsSubs.find sub.name with
  | some _ => exact h.createInterfaces hnew hnames sub.name
  | none =>
    dsimp only
    split
    · exact h.record hfiles sub
    · exact (h.record hfiles sub).createInterfaces hnew hnames sub.name

theorem subsystems (h : d.Holds nameOf Y Φ)
    (hnew : ∀ intf subName y, Y y → y.pluggable = true → Φ (newPort intf subName y))
    (hidl : idl.Named nameOf) {files : Subsystem → YamlFiles} (hfiles : YamlFiles.All Y files)
    (subs : List Subsystem) : (subs.foldl (ovsdbIfSubsysProcess P idl files) d).Holds nameOf Y Φ :=
  List.foldlRecOn subs _ h fun _ hd sub _ => hd.subsysProcess hnew hidl hfiles sub

/-! ## Changing ports -/

/-- Assigning a port with the same name and row. -/
theorem set (h : d.Holds nameOf Y Φ) {n : String} {p q : PmPort} (hfind : d.ovsIntfs.find n = some p)
    (hid : q.toPortId = p.toPortId) (hq : Φ q) (s : σ) :
    ({ d with ovsIntfs := d.ovsIntfs.set n q, world := s } : Pmd σ).Holds nameOf Y Φ := by
  have hm := Shash.mem_of_find hfind
  have hcases : ∀ {m p'}, (m, p') ∈ d.ovsIntfs.set n q → (m = n ∧ p' = q) ∨ (m, p') ∈ d.ovsIntfs :=
    fun hm' => h.unique.mem_set hfind hm'
  refine ⟨h.unique.set, fun m p' hm' => ?_, fun m p' hm' => ?_, fun m p' hm' => ?_, h.yaml⟩
  · rcases hcases hm' with ⟨rfl, rfl⟩ | hold
    · rw [hid]
      exact h.key _ p hm
    · exact h.key m p' hold
  · rcases hcases hm' with ⟨rfl, rfl⟩ | hold
    · rw [hid]
      exact h.row _ p hm
    · exact h.row m p' hold
  · rcases hcases hm' with ⟨rfl, rfl⟩ | hold
    · exact hq
    · exact h.port m p' hold

/-- `ovsdb_if_intf_modify` assigns `hw_enable`, which may be what it was. -/
theorem port_ovsdbIfIntfModify (intf : Interface) (port : PmPort) (s : σ) :
    (ovsdbIfIntfModify P intf port s).1 =
      { port with hwEnable := ovsdbIfIntfGetHwEnable intf } := by
  unfold ovsdbIfIntfModify
  by_cases hsame : port.hwEnable = ovsdbIfIntfGetHwEnable intf
  · rw [← hsame]
    simp
  · simp [hsame]

theorem modifyInterface_of_find {intf : Interface} {port : PmPort}
    (hfind : d.ovsIntfs.find intf.name = some port) :
    OpsPmd.modifyInterface P d intf =
      { d with
        ovsIntfs := d.ovsIntfs.set intf.name
          { port with hwEnable := ovsdbIfIntfGetHwEnable intf }
        world := (ovsdbIfIntfModify P intf port d.world).2 } := by
  rw [← port_ovsdbIfIntfModify (P := P) intf port d.world, OpsPmd.modifyInterface, hfind]

theorem modifyInterface_of_none {intf : Interface} (hfind : d.ovsIntfs.find intf.name = none) :
    OpsPmd.modifyInterface P d intf = d := by rw [OpsPmd.modifyInterface, hfind]

theorem modifyInterface (h : d.Holds nameOf Y Φ)
    (hset : ∀ p hwEnable, Φ p → Φ { p with hwEnable := hwEnable }) (intf : Interface) :
    (modifyInterface P d intf).Holds nameOf Y Φ := by
  cases hfind : d.ovsIntfs.find intf.name with
  | none =>
    rw [modifyInterface_of_none hfind]
    exact h
  | some p =>
    rw [modifyInterface_of_find hfind]
    have hid : ({ p with hwEnable := ovsdbIfIntfGetHwEnable intf } : PmPort).toPortId =
        p.toPortId := rfl
    exact h.set hfind hid (hset p _ (h.port _ p (Shash.mem_of_find hfind))) _

/-- **`pmd_reconfigure` keeps what fresh ports have and `hw_enable` does not matter to.** -/
theorem reconfigure (h : d.Holds nameOf Y Φ)
    (hnew : ∀ intf subName y, Y y → y.pluggable = true → Φ (newPort intf subName y))
    (hset : ∀ p hwEnable, Φ p → Φ { p with hwEnable := hwEnable })
    (hidl : idl.Named nameOf) {files : Subsystem → YamlFiles} (hfiles : YamlFiles.All Y files)
    (seqno : Nat) : (pmdReconfigure P idl seqno files d).Holds nameOf Y Φ := by
  unfold pmdReconfigure
  split
  · exact h
  · have hseq : ({ d with idlSeqno := seqno } : Pmd σ).Holds nameOf Y Φ := h.congr rfl rfl
    have hdel : (deleteSubsystems idl (OpsPmd.deleteInterfaces idl
        { d with idlSeqno := seqno })).Holds nameOf Y Φ := (hseq.deleteInterfaces idl).congr rfl rfl
    have hsubs := hdel.subsystems (P := P) hnew hidl hfiles idl.subsystems
    exact List.foldlRecOn idl.interfaces _ hsubs fun _ hd intf _ => hd.modifyInterface hset intf

/-- `pm_ovsdb_if_init` starts from no ports. -/
theorem init (hnew : ∀ intf subName y, Y y → y.pluggable = true → Φ (newPort intf subName y))
    (hidl : idl.Named nameOf) {files : Subsystem → YamlFiles} (hfiles : YamlFiles.All Y files)
    (seqno : Nat) (s : σ) : (pmOvsdbIfInit P idl seqno files s).Holds nameOf Y Φ := by
  have hempty : ({ idlSeqno := seqno, world := s } : Pmd σ).Holds nameOf Y Φ :=
    ⟨List.nodup_nil, fun _ _ hm => (List.not_mem_nil hm).elim,
      fun _ _ hm => (List.not_mem_nil hm).elim, fun _ _ hm => (List.not_mem_nil hm).elim,
      fun _ _ hm => (List.not_mem_nil hm).elim⟩
  refine List.foldlRecOn idl.interfaces _
    (hempty.subsystems hnew hidl hfiles idl.subsystems) fun d hd intf _ => ?_
  unfold ovsdbIfIntfConfigure
  cases d.ovsIntfs.find intf.name with
  | none => exact hd
  | some _ => exact hd.congr rfl rfl

/-! ## Polls -/

/-- **A poll of all ports takes `Φ` to what a poll of each port takes it to.** -/
theorem readState (h : d.Holds nameOf Y Φ)
    (hpoll : ∀ n p s, (n, p) ∈ d.ovsIntfs → Φ p →
      (pmReadModuleState P p s).2.1.toPortId = p.toPortId ∧ Ψ (pmReadModuleState P p s).2.1) :
    (pmReadState P d).Holds nameOf Y Ψ := by
  have hcases : ∀ {n p'}, (n, p') ∈ (pmReadState P d).ovsIntfs →
      ∃ p, (n, p) ∈ d.ovsIntfs ∧ p'.toPortId = p.toPortId ∧ Ψ p' := by
    intro n p' hm
    obtain ⟨p, s, hp, rfl⟩ := Shash.mem_mapAccum hm
    exact ⟨p, hp, hpoll n p s hp (h.port n p hp)⟩
  refine ⟨h.unique.mapAccum _ _, fun n p' hm => ?_, fun n p' hm => ?_, fun n p' hm => ?_, h.yaml⟩
  · obtain ⟨p, hp, hid, -⟩ := hcases hm
    rw [hid]
    exact h.key n p hp
  · obtain ⟨p, hp, hid, -⟩ := hcases hm
    rw [hid]
    exact h.row n p hp
  · obtain ⟨p, -, -, hΨ⟩ := hcases hm
    exact hΨ

end Pmd.Holds

/-! ## The sequence number -/

section SequenceNumber

variable {seqno : Nat}

theorem idlSeqno_createInterfaces (subName : String) (intfs : List Interface) :
    (createInterfaces P subName intfs d).idlSeqno = d.idlSeqno := by
  refine List.foldlRecOn (motive := fun d' : Pmd σ => d'.idlSeqno = d.idlSeqno) intfs _ rfl
    fun d' hd intf _ => ?_
  cases d'.ovsIntfs.find intf.name with
  | some _ => exact hd
  | none =>
    show (ovsdbIfIntfCreate P intf subName d').idlSeqno = d.idlSeqno
    unfold ovsdbIfIntfCreate
    split
    · exact hd
    · split <;> exact hd

theorem idlSeqno_subsysProcess (files : Subsystem → YamlFiles) (sub : Subsystem) :
    (ovsdbIfSubsysProcess P idl files d sub).idlSeqno = d.idlSeqno := by
  unfold ovsdbIfSubsysProcess
  cases d.ovsSubs.find sub.name with
  | some _ => exact idlSeqno_createInterfaces _ _
  | none =>
    dsimp only
    split
    · rfl
    · exact idlSeqno_createInterfaces _ _

/-- After a reconfiguration the daemon has seen the rows it was given. -/
theorem idlSeqno_reconfigure (files : Subsystem → YamlFiles) :
    (pmdReconfigure P idl seqno files d).idlSeqno = seqno := by
  unfold pmdReconfigure
  by_cases hsame : seqno = d.idlSeqno
  · rw [if_pos hsame, hsame]
  · rw [if_neg hsame]
    refine List.foldlRecOn (motive := fun d' : Pmd σ => d'.idlSeqno = seqno) idl.interfaces _ ?_
      fun d' hd intf _ => ?_
    · exact List.foldlRecOn (motive := fun d' : Pmd σ => d'.idlSeqno = seqno) idl.subsystems _ rfl
        fun d' hd sub _ => (idlSeqno_subsysProcess files sub).trans hd
    · unfold modifyInterface
      split <;> exact hd

end SequenceNumber

/-! ## The main loop -/

/-- The events of one pass of the main loop. -/
def Pass.events (pass : Pass σ) : List (Event σ) :=
  if pass.hasLock then
    [.idlRun pass.idl pass.seqno, .reconfigure pass.files, .readState pass.change,
      .update pass.committed]
  else [.idlRun pass.idl pass.seqno]

/-- A pass of the main loop is a run of the event machine. -/
theorem pmdRun_eq_exec (s : System σ) (pass : Pass σ) :
    pmdRun P s pass = Run.exec (step P) s pass.events := by
  unfold pmdRun Pass.events
  cases pass.hasLock <;> rfl

/-! ## Daemons with one port and with two -/

/-- An IDL with one subsystem, one interface in it, and the daemon's own row. -/
def onePortIdl : Idl where
  interfaces := [⟨1, "1", []⟩]
  subsystems := [⟨2, "base", "", [1]⟩]
  daemons := [⟨3, "ops-pmd"⟩]

/-- The YAML files of a subsystem with one SFP+ port. -/
def onePortFiles (_ : Subsystem) : YamlFiles where
  rc := 0
  ports := [ModuleType.sfpPlus.device]

def emptyDatabase : Database where
  pmInfo _ := []
  curHw _ := none

theorem named_onePortIdl : onePortIdl.Named fun _ => "1" := by
  intro intf hm
  obtain rfl := List.mem_singleton.mp hm
  rfl

theorem known_onePortFiles : YamlFiles.All (fun y => ∃ t, y.IsA t) onePortFiles := by
  intro sub y hm _
  obtain rfl := List.mem_singleton.mp hm
  exact ⟨.sfpPlus, ModuleType.isA_device _⟩

/-- An IDL with two interfaces in one subsystem. -/
def twoPortIdl : Idl where
  interfaces := [⟨1, "1", []⟩, ⟨4, "2", []⟩]
  subsystems := [⟨2, "base", "", [1, 4]⟩]
  daemons := [⟨3, "ops-pmd"⟩]

/-- The YAML files of a subsystem with an SFP+ port, and a QSFP port that can be reset. -/
def twoPortFiles (_ : Subsystem) : YamlFiles where
  rc := 0
  ports := [ModuleType.sfpPlus.device,
    { ModuleType.qsfpPlus.device with name := "2", signals := fun _ => some ⟨0xff⟩ }]

def twoPortName (u : Uuid) : String := if u = 1 then "1" else "2"

theorem named_twoPortIdl : twoPortIdl.Named twoPortName := by
  simp [Idl.Named, twoPortIdl, twoPortName]

theorem known_twoPortFiles : YamlFiles.All (fun y => ∃ t, y.IsA t) twoPortFiles := by
  intro sub y hm _
  rcases List.mem_cons.mp hm with rfl | hm
  · exact ⟨.sfpPlus, rfl, rfl⟩
  · obtain rfl := List.mem_singleton.mp hm
    exact ⟨.qsfpPlus, rfl, rfl⟩

end OpsPmd
