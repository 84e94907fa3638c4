import OpsPmd.PerPort

/-!
# What the daemon keeps of its world

The daemon acts on its world through the platform only, on behalf of the ports it has. What the
functions of the platform keep on behalf of such ports, every run keeps.

* `Platform.Keeps` — what is to be shown of a platform
* `System.Guarded.exec` — the rule
-/

namespace OpsPmd

variable {σ : Type} {P : Platform σ} {nameOf : Uuid → String} {Y : YamlPort → Prop}
  {Φ : PmPort → Prop} {I : σ → Prop} {d : Pmd σ} {idl : Idl}

/-- The port has the property `Φ` and the name that belongs to its row. -/
def PmPort.Placed (nameOf : Uuid → String) (Φ : PmPort → Prop) (port : PmPort) : Prop :=
  Φ port ∧ nameOf port.uuid = port.instanceName

/-- Functions of the platform keep `I` on behalf of ports with the property `Φ`. -/
structure Platform.Keeps (P : Platform σ) (Φ : PmPort → Prop) (I : σ → Prop) : Prop where
  clearReset : ∀ p s, Φ p → I s → I (P.clearReset p.toPortId s)
  configurePort : ∀ p s, Φ p → I s → I (P.configurePort p s)
  poll : ∀ p s, Φ p → I s → I (pmReadModuleState P p s).2.2

/-- What every function keeps, it keeps on behalf of any ports. -/
theorem Platform.Preserves.keeps (h : P.Preserves I) (Φ : PmPort → Prop) : P.Keeps Φ I where
  clearReset p s _ hs := h.clearReset p.toPortId s hs
  configurePort p s _ hs := h.configurePort p s hs
  poll p _ _ hs := h.poll p hs

/-- Fresh ports have the property, and neither a poll nor a change of `hw_enable` takes it away. -/
structure PmPort.Lasts (P : Platform σ) (Y : YamlPort → Prop) (Φ : PmPort → Prop) : Prop where
  newPort : ∀ intf subName y, Y y → y.pluggable = true → Φ (newPort intf subName y)
  hwEnable : ∀ p hwEnable, Φ p → Φ { p with hwEnable := hwEnable }
  poll : ∀ p s, Φ p → Φ (pmReadModuleState P p s).2.1
  settle : ∀ p : PmPort, Φ p → Φ { p with cells := p.cells.settle }

/-- All ports have the property `Φ`, and the world has `I`. -/
structure Pmd.Guarded (nameOf : Uuid → String) (Y : YamlPort → Prop) (Φ : PmPort → Prop)
    (I : σ → Prop) (d : Pmd σ) : Prop where
  holds : d.Holds nameOf Y Φ
  world : I d.world

namespace Pmd.Guarded

theorem placed (h : d.Guarded nameOf Y Φ I) {n : String} {p : PmPort}
    (hm : (n, p) ∈ d.ovsIntfs) : p.Placed nameOf Φ :=
  ⟨h.holds.port n p hm, by rw [h.holds.row n p hm, h.holds.key n p hm]⟩

section Reconfigure

variable (hP : P.Keeps (PmPort.Placed nameOf Φ) I) (hΦ : PmPort.Lasts P Y Φ)

include hP hΦ

theorem create (h : d.Guarded nameOf Y Φ I) {intf : Interface}
    (hname : nameOf intf.uuid = intf.name) (hfree : d.ovsIntfs.find intf.name = none)
    (subName : String) : (ovsdbIfIntfCreate P intf subName d).Guarded nameOf Y Φ I := by
  refine ⟨h.holds.create hΦ.newPort hname hfree subName, ?_⟩
  unfold ovsdbIfIntfCreate
  cases hy : pmGetYamlPort d.yaml subName intf.name with
  | none => exact h.world
  | some y =>
    dsimp only
    by_cases hplug : y.pluggable = true
    · rw [if_neg (by simp [hplug])]
      have hY : Y y := h.holds.yaml subName y (mem_of_pmGetYamlPort hy) hplug
      have hnew : (newPort intf subName y).Placed nameOf Φ :=
        ⟨hΦ.newPort intf subName y hY hplug, hname⟩
      exact hP.clearReset _ _ hnew (hP.configurePort _ _ hnew h.world)
    · rw [if_pos (by simpa using hplug)]
      exact h.world

theorem createInterfaces (h : d.Guarded nameOf Y Φ I) {intfs : List Interface}
    (hnames : ∀ intf ∈ intfs, nameOf intf.uuid = intf.name) (subName : String) :
    (createInterfaces P subName intfs d).Guarded nameOf Y Φ I := by
  refine List.foldlRecOn intfs _ h fun d hd intf hm => ?_
  cases hfind : d.ovsIntfs.find intf.name with
  | none => exact hd.create hP hΦ (hnames intf hm) hfind subName
  | some _ => exact hd

theorem subsysProcess (h : d.Guarded nameOf Y Φ I) (hidl : idl.Named nameOf)
    {files : Subsystem → YamlFiles} (hfiles : YamlFiles.All Y files) (sub : Subsystem) :
    (ovsdbIfSubsysProcess P idl files d sub).Guarded nameOf Y Φ I := by
  refine ⟨h.holds.subsysProcess hΦ.newPort hidl hfiles sub, ?_⟩
  have hnames : ∀ intf ∈ idl.interfacesOf sub, nameOf intf.uuid = intf.name :=
    fun intf hm => hidl intf (Idl.mem_interfaces_of_mem hm)
  unfold ovsdbIfSubsysProcess
  cases hfind : d.ovsSubs.find sub.name with
  | some _ => exact (h.createInterfaces hP hΦ hnames sub.name).world
  | none =>
    dsimp only
    split
    · exact h.world
    · exact Pmd.Guarded.world (createInterfaces hP hΦ ⟨h.holds.record hfiles sub, h.world⟩ hnames
        sub.name)

theorem subsystems (h : d.Guarded nameOf Y Φ I) (hidl : idl.Named nameOf)
    {files : Subsystem → YamlFiles} (hfiles : YamlFiles.All Y files) (subs : List Subsystem) :
    (subs.foldl (ovsdbIfSubsysProcess P idl files) d).Guarded nameOf Y Φ I :=
  List.foldlRecOn subs _ h fun _ hd sub _ => hd.subsysProcess hP hΦ hidl hfiles sub

theorem modifyInterface (h : d.Guarded nameOf Y Φ I) (intf : Interface) :
    (modifyInterface P d intf).Guarded nameOf Y Φ I := by
  refine ⟨h.holds.modifyInterface hΦ.hwEnable intf, ?_⟩
  cases hfind : d.ovsIntfs.find intf.name with
  | none =>
    rw [Pmd.Holds.modifyInterface_of_none hfind]
    exact h.world
  | some p =>
    rw [Pmd.Holds.modifyInterface_of_find hfind]
    have hp := h.placed (Shash.mem_of_find hfind)
    show I (ovsdbIfIntfModify P intf p d.world).2
    unfold ovsdbIfIntfModify
    by_cases hc : p.hwEnable ≠ ovsdbIfIntfGetHwEnable intf
    · rw [if_pos hc]
      exact hP.configurePort _ _ ⟨hΦ.hwEnable p _ hp.1, hp.2⟩ h.world
    · rw [if_neg hc]
      exact h.world

theorem reconfigure (h : d.Guarded nameOf Y Φ I) (hidl : idl.Named nameOf)
    {files : Subsystem → YamlFiles} (hfiles : YamlFiles.All Y files) (seqno : Nat) :
    (pmdReconfigure P idl seqno files d).Guarded nameOf Y Φ I := by
  unfold pmdReconfigure
  split
  · exact h
  · have hseq : ({ d with idlSeqno := seqno } : Pmd σ).Holds nameOf Y Φ := h.holds.congr rfl rfl
    have hdel : (deleteSubsystems idl (deleteInterfaces idl { d with idlSeqno := seqno })).Guarded
        nameOf Y Φ I := ⟨(hseq.deleteInterfaces idl).congr rfl rfl, h.world⟩
    exact List.foldlRecOn idl.interfaces _ (hdel.subsystems hP hΦ hidl hfiles idl.subsystems)
      fun _ hd intf _ => hd.modifyInterface hP hΦ intf

theorem init (hidl : idl.Named nameOf) {files : Subsystem → YamlFiles}
    (hfiles : YamlFiles.All Y files) (seqno : Nat) {s : σ} (hs : I s) :
    (pmOvsdbIfInit P idl seqno files s).Guarded nameOf Y Φ I := by
  have hempty : ({ idlSeqno := seqno, world := s } : Pmd σ).Guarded nameOf Y Φ I :=
    ⟨⟨List.nodup_nil, by simp, by simp, by simp, by simp⟩, hs⟩
  refine List.foldlRecOn idl.interfaces _ (hempty.subsystems hP hΦ hidl hfiles idl.subsystems)
    fun d hd intf _ => ?_
  unfold ovsdbIfIntfConfigure
  cases hfind : d.ovsIntfs.find intf.name with
  | none => exact hd
  | some p =>
    exact ⟨hd.holds.congr rfl rfl,
      hP.configurePort p _ (hd.placed (Shash.mem_of_find hfind)) hd.world⟩

theorem readState (h : d.Guarded nameOf Y Φ I) : (pmReadState P d).Guarded nameOf Y Φ I where
  holds := h.holds.readState fun _ p s _ hp => ⟨toPortId_pmReadModuleState p s, hΦ.poll p s hp⟩
  world := Shash.mapAccum_invariant _ (fun _ p hm s hs => hP.poll p s (h.placed hm) hs) h.world

end Reconfigure

theorem update (hΦ : PmPort.Lasts P Y Φ) (h : d.Guarded nameOf Y Φ I) (idl : Idl)
    (committed : Bool) (db : Database) :
    (pmOvsdbUpdate idl committed d db).1.Guarded nameOf Y Φ I := by
  refine ⟨h.holds.update fun n p _ hp => ?_, ?_⟩
  · unfold PmPort.settled
    split
    · exact hΦ.settle p hp
    · exact hp
  · rw [pmOvsdbUpdate_eq]
    exact h.world

end Pmd.Guarded

/-! ## Runs -/

/--
Rows are named, ports have the property `Y`, and the world keeps `I` when it changes by itself.
-/
def Event.Within (nameOf : Uuid → String) (Y : YamlPort → Prop) (I : σ → Prop) : Event σ → Prop
  | .idlRun idl _ => idl.Named nameOf
  | .reconfigure files => YamlFiles.All Y files
  | .readState change => ∀ s, I s → I (change s)
  | .update _ => True

/-- The IDL names its rows, and the daemon keeps what it has to. -/
structure System.Guarded (nameOf : Uuid → String) (Y : YamlPort → Prop) (Φ : PmPort → Prop)
    (I : σ → Prop) (s : System σ) : Prop where
  named : s.idl.Named nameOf
  pmd : s.pmd.Guarded nameOf Y Φ I

namespace System.Guarded

variable {s : System σ}

theorem initial (hP : P.Keeps (PmPort.Placed nameOf Φ) I) (hΦ : PmPort.Lasts P Y Φ)
    (hidl : idl.Named nameOf) {files : Subsystem → YamlFiles} (hfiles : YamlFiles.All Y files)
    (seqno : Nat) {world : σ} (hworld : I world) (db : Database) :
    (initial P idl seqno files world db).Guarded nameOf Y Φ I :=
  ⟨hidl, Pmd.Guarded.init hP hΦ hidl hfiles seqno hworld⟩

theorem step (hP : P.Keeps (PmPort.Placed nameOf Φ) I) (hΦ : PmPort.Lasts P Y Φ)
    (h : s.Guarded nameOf Y Φ I) {e : Event σ} (he : e.Within nameOf Y I) :
    (step P s e).Guarded nameOf Y Φ I := by
  cases e with
  | idlRun idl seqno => exact ⟨he, h.pmd⟩
  | reconfigure files => exact ⟨h.named, h.pmd.reconfigure hP hΦ h.named he s.seqno⟩
  | readState change =>
    have hworld : ({ s.pmd with world := change s.pmd.world } : Pmd σ).Guarded nameOf Y Φ I :=
      ⟨h.pmd.holds.congr rfl rfl, he _ h.pmd.world⟩
    exact ⟨h.named, hworld.readState hP hΦ⟩
  | update committed => exact ⟨h.named, h.pmd.update hΦ s.idl committed s.db⟩

/-- **What the functions of the platform keep, every run of the daemon keeps.** -/
theorem exec (hP : P.Keeps (PmPort.Placed nameOf Φ) I) (hΦ : PmPort.Lasts P Y Φ)
    (h : s.Guarded nameOf Y Φ I) {es : List (Event σ)} (hes : ∀ e ∈ es, e.Within nameOf Y I) :
    (Run.exec (OpsPmd.step P) s es).Guarded nameOf Y Φ I :=
  Run.exec_invariant (fun _ _ hs he => hs.step hP hΦ he) h (Run.along_of_forall hes)

end System.Guarded

end OpsPmd
