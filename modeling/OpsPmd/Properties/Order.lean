import OpsPmd.Properties.Publication
import OpsPmd.PerPort

/-!
# The order of the nodes

A hash is iterated in whatever order its buckets have, and that order changes as the hash grows.
Nothing that the daemon does depends on it, as long as the modules have nothing to do with each
other.

* `Pmd.Reordered` — the same daemon but for the order of its nodes
* `order_irrelevant` — rearranging the nodes between any two events changes their order only
-/

namespace OpsPmd

variable {σ : Type} {P : Platform σ} {nameOf : Uuid → String}

/-! ## Distinct nodes -/

/-- No two ports share a name or a row, and no two subsystems a name. -/
structure Pmd.Distinct (nameOf : Uuid → String) (d : Pmd σ) : Prop where
  ports : d.Holds nameOf (fun _ => True) fun _ => True
  subs : d.ovsSubs.Unique

/-- The same daemon, with the nodes of its hashes in another order. -/
structure Pmd.Reordered (d d' : Pmd σ) : Prop where
  idlSeqno : d.idlSeqno = d'.idlSeqno
  curHwSet : d.curHwSet = d'.curHwSet
  ovsIntfs : d.ovsIntfs.Perm d'.ovsIntfs
  ovsSubs : d.ovsSubs.Perm d'.ovsSubs
  yaml : d.yaml = d'.yaml
  world : d.world = d'.world

theorem Pmd.Reordered.refl (d : Pmd σ) : d.Reordered d := ⟨rfl, rfl, .refl _, .refl _, rfl, rfl⟩

theorem Pmd.Reordered.trans {d d' d'' : Pmd σ} (h : d.Reordered d') (h' : d'.Reordered d'') :
    d.Reordered d'' :=
  ⟨h.idlSeqno.trans h'.idlSeqno, h.curHwSet.trans h'.curHwSet, h.ovsIntfs.trans h'.ovsIntfs,
    h.ovsSubs.trans h'.ovsSubs, h.yaml.trans h'.yaml, h.world.trans h'.world⟩

namespace Pmd.Distinct

variable {d d' : Pmd σ} {idl : Idl}

theorem unique (h : d.Distinct nameOf) : d.ovsIntfs.Unique := h.ports.unique

theorem deleteInterfaces (h : d.Distinct nameOf) (idl : Idl) :
    (deleteInterfaces idl d).Distinct nameOf :=
  ⟨h.ports.deleteInterfaces idl, h.subs⟩

theorem deleteSubsystems (h : d.Distinct nameOf) (idl : Idl) :
    (deleteSubsystems idl d).Distinct nameOf := by
  refine ⟨h.ports.congr rfl rfl, ?_⟩
  show (d.ovsSubs.deleteAll _ _).Unique
  rw [h.subs.deleteAll_eq_filter fun _ _ => rfl]
  exact h.subs.filter _

theorem create (h : d.Distinct nameOf) {intf : Interface} (hname : nameOf intf.uuid = intf.name)
    (hfree : d.ovsIntfs.find intf.name = none) (subName : String) :
    (ovsdbIfIntfCreate P intf subName d).Distinct nameOf := by
  refine ⟨h.ports.create (fun _ _ _ _ _ => trivial) hname hfree subName, ?_⟩
  unfold ovsdbIfIntfCreate
  cases pmGetYamlPort d.yaml subName intf.name with
  | none => exact h.subs
  | some y =>
    dsimp only
    split <;> exact h.subs

theorem modifyInterface (h : d.Distinct nameOf) (intf : Interface) :
    (modifyInterface P d intf).Distinct nameOf := by
  refine ⟨h.ports.modifyInterface (fun _ _ _ => trivial) intf, ?_⟩
  cases hfind : d.ovsIntfs.find intf.name with
  | none =>
    rw [Pmd.Holds.modifyInterface_of_none hfind]
    exact h.subs
  | some p =>
    rw [Pmd.Holds.modifyInterface_of_find hfind]
    exact h.subs

theorem readState (h : d.Distinct nameOf) : (pmReadState P d).Distinct nameOf :=
  ⟨h.ports.readState fun _ p s _ _ => ⟨toPortId_pmReadModuleState p s, trivial⟩, h.subs⟩

theorem update (h : d.Distinct nameOf) (committed : Bool) (db : Database) :
    (pmOvsdbUpdate idl committed d db).1.Distinct nameOf := by
  refine ⟨h.ports.update fun _ _ _ _ => trivial, ?_⟩
  rw [pmOvsdbUpdate_eq]
  exact h.subs

/-- The order of the nodes does not matter to it. -/
theorem reorder (h : d.Distinct nameOf) (hr : d.Reordered d') : d'.Distinct nameOf where
  ports :=
    { unique := h.unique.perm hr.ovsIntfs
      key := fun n p hm => h.ports.key n p (hr.ovsIntfs.mem_iff.mpr hm)
      row := fun n p hm => h.ports.row n p (hr.ovsIntfs.mem_iff.mpr hm)
      port := fun _ _ _ => trivial
      yaml := fun _ _ _ _ => trivial }
  subs := h.subs.perm hr.ovsSubs

end Pmd.Distinct

/-! ## Each function of the daemon -/

/-- Distinct nodes, and the same in another order. -/
structure Pmd.Shuffle (nameOf : Uuid → String) (d d' : Pmd σ) : Prop where
  distinct : d.Distinct nameOf
  reordered : d.Reordered d'

namespace Pmd.Shuffle

variable {d d' : Pmd σ} {idl : Idl}

theorem find (h : d.Shuffle nameOf d') (n : String) : d.ovsIntfs.find n = d'.ovsIntfs.find n :=
  h.distinct.unique.find_perm h.reordered.ovsIntfs n

theorem deleteInterfaces (h : d.Shuffle nameOf d') (idl : Idl) :
    (deleteInterfaces idl d).Shuffle nameOf (OpsPmd.deleteInterfaces idl d') where
  distinct := h.distinct.deleteInterfaces idl
  reordered :=
    { h.reordered with
      ovsIntfs := h.distinct.unique.deleteAll_perm h.reordered.ovsIntfs
        fun node hm => h.distinct.ports.key node.1 node.2 hm }

theorem deleteSubsystems (h : d.Shuffle nameOf d') (idl : Idl) :
    (deleteSubsystems idl d).Shuffle nameOf (OpsPmd.deleteSubsystems idl d') where
  distinct := h.distinct.deleteSubsystems idl
  reordered :=
    { h.reordered with
      ovsSubs := h.distinct.subs.deleteAll_perm h.reordered.ovsSubs fun _ _ => rfl }

theorem create (h : d.Shuffle nameOf d') {intf : Interface}
    (hname : nameOf intf.uuid = intf.name) (hfree : d.ovsIntfs.find intf.name = none)
    (subName : String) :
    (ovsdbIfIntfCreate P intf subName d).Shuffle nameOf (ovsdbIfIntfCreate P intf subName d') := by
  refine ⟨h.distinct.create hname hfree subName, ?_⟩
  have hr := h.reordered
  unfold ovsdbIfIntfCreate
  rw [← hr.yaml]
  cases pmGetYamlPort d.yaml subName intf.name with
  | none => exact hr
  | some y =>
    dsimp only
    split
    · exact hr
    · exact
        { hr with
          ovsIntfs := hr.ovsIntfs.cons _
          yaml := rfl
          world := by rw [hr.world] }

theorem createInterfaces (h : d.Shuffle nameOf d') (subName : String) {intfs : List Interface}
    (hnames : ∀ intf ∈ intfs, nameOf intf.uuid = intf.name) :
    (createInterfaces P subName intfs d).Shuffle nameOf
      (OpsPmd.createInterfaces P subName intfs d') := by
  refine List.foldl_rel h fun intf hm d d' h => ?_
  rw [← h.find]
  cases hfind : d.ovsIntfs.find intf.name with
  | none => exact h.create (hnames intf hm) hfind subName
  | some _ => exact h

theorem subsysProcess (h : d.Shuffle nameOf d') (hidl : idl.Named nameOf)
    (files : Subsystem → YamlFiles) (sub : Subsystem) :
    (ovsdbIfSubsysProcess P idl files d sub).Shuffle nameOf
      (ovsdbIfSubsysProcess P idl files d' sub) := by
  have hnames : ∀ intf ∈ idl.interfacesOf sub, nameOf intf.uuid = intf.name :=
    fun intf hm => hidl intf (Idl.mem_interfaces_of_mem hm)
  have hr := h.reordered
  unfold ovsdbIfSubsysProcess
  rw [← h.distinct.subs.find_perm hr.ovsSubs]
  cases hfind : d.ovsSubs.find sub.name with
  | some _ => exact h.createInterfaces sub.name hnames
  | none =>
    have hread : ({ d with
        ovsSubs := d.ovsSubs.add sub.name sub.uuid
        yaml := Function.update d.yaml sub.name (files sub).ports } : Pmd σ).Shuffle nameOf
        { d' with
          ovsSubs := d'.ovsSubs.add sub.name sub.uuid
          yaml := Function.update d'.yaml sub.name (files sub).ports } :=
      ⟨⟨{ h.distinct.ports with yaml := fun _ _ _ _ => trivial }, h.distinct.subs.add hfind⟩,
        { hr with
          ovsSubs := hr.ovsSubs.cons _
          yaml := by rw [hr.yaml] }⟩
    dsimp only
    split
    · exact hread
    · exact hread.createInterfaces sub.name hnames

theorem subsystems (h : d.Shuffle nameOf d') (hidl : idl.Named nameOf)
    (files : Subsystem → YamlFiles) (subs : List Subsystem) :
    (subs.foldl (ovsdbIfSubsysProcess P idl files) d).Shuffle nameOf
      (subs.foldl (ovsdbIfSubsysProcess P idl files) d') :=
  List.foldl_rel h fun sub _ _ _ h => h.subsysProcess hidl files sub

theorem modifyInterface (h : d.Shuffle nameOf d') (intf : Interface) :
    (modifyInterface P d intf).Shuffle nameOf (OpsPmd.modifyInterface P d' intf) := by
  refine ⟨h.distinct.modifyInterface intf, ?_⟩
  have hr := h.reordered
  cases hfind : d.ovsIntfs.find intf.name with
  | none =>
    rw [Pmd.Holds.modifyInterface_of_none hfind,
      Pmd.Holds.modifyInterface_of_none (h.find intf.name ▸ hfind)]
    exact hr
  | some p =>
    rw [Pmd.Holds.modifyInterface_of_find hfind,
      Pmd.Holds.modifyInterface_of_find (h.find intf.name ▸ hfind)]
    exact
      { hr with
        ovsIntfs := h.distinct.unique.set_perm hr.ovsIntfs _ _
        world := by rw [hr.world] }

theorem reconfigure (h : d.Shuffle nameOf d') (hidl : idl.Named nameOf) (seqno : Nat)
    (files : Subsystem → YamlFiles) :
    (pmdReconfigure P idl seqno files d).Shuffle nameOf (pmdReconfigure P idl seqno files d') := by
  unfold pmdReconfigure
  rw [← h.reordered.idlSeqno]
  split
  · exact h
  · have hseq : ({ d with idlSeqno := seqno } : Pmd σ).Shuffle nameOf
        { d' with idlSeqno := seqno } :=
      ⟨⟨h.distinct.ports.congr rfl rfl, h.distinct.subs⟩, { h.reordered with idlSeqno := rfl }⟩
    have hdel := (hseq.deleteInterfaces idl).deleteSubsystems idl
    exact List.foldl_rel (hdel.subsystems hidl files idl.subsystems)
      fun intf _ _ _ h => h.modifyInterface intf

/-- Where each module has a world of its own, the order of the polls does not matter. -/
theorem readState {P : Platform σ} {d d' : Pmd (Uuid → σ)} (h : d.Shuffle nameOf d') :
    (pmReadState P.each d).Shuffle nameOf (pmReadState P.each d') := by
  have hr := h.reordered
  obtain ⟨hintfs, hworld, hrest⟩ := h.distinct.ports.pmReadState_each P
  obtain ⟨hintfs', hworld', hrest'⟩ := (h.distinct.reorder hr).ports.pmReadState_each P
  refine ⟨h.distinct.readState, { hr with ovsIntfs := ?_, world := ?_ }⟩
  · rw [hintfs, hintfs', hr.world]
    exact hr.ovsIntfs.map _
  · funext u
    by_cases hu : ∃ n p, (n, p) ∈ d.ovsIntfs ∧ p.uuid = u
    · obtain ⟨n, p, hm, rfl⟩ := hu
      rw [hworld n p hm, hworld' n p (hr.ovsIntfs.mem_iff.mp hm), hr.world]
    · have hu' : ∀ n p, (n, p) ∈ d.ovsIntfs → p.uuid ≠ u := fun n p hm he => hu ⟨n, p, hm, he⟩
      rw [hrest u hu', hrest' u fun n p hm => hu' n p (hr.ovsIntfs.mem_iff.mpr hm), hr.world]

/-- The writes of a transaction are to different rows. -/
theorem writes_comm (h : d.Distinct nameOf) (idl : Idl) {op op' : TxnOp}
    (hop : op ∈ d.ovsIntfs.flatMap fun node => node.2.writes idl)
    (hop' : op' ∈ d.ovsIntfs.flatMap fun node => node.2.writes idl) (db : Database) :
    (db.apply op).apply op' = (db.apply op').apply op := by
  obtain ⟨⟨n, p⟩, hm, hp⟩ := List.mem_flatMap.mp hop
  obtain ⟨⟨n', p'⟩, hm', hp'⟩ := List.mem_flatMap.mp hop'
  cases op with
  | setCurHw u c => exact absurd hp PmPort.setCurHw_notMem_writes
  | setPmInfo u m =>
    cases op' with
    | setCurHw u' c => exact absurd hp' PmPort.setCurHw_notMem_writes
    | setPmInfo u' m' =>
      obtain ⟨-, rfl, rfl⟩ := PmPort.mem_writes.mp hp
      obtain ⟨-, rfl, rfl⟩ := PmPort.mem_writes.mp hp'
      by_cases hu : p.uuid = p'.uuid
      · obtain rfl := h.ports.eq_of_uuid hm hm' hu
        rfl
      · simp only [Database.apply, Function.update_comm hu]

theorem update (h : d.Shuffle nameOf d') (idl : Idl) (committed : Bool) (db : Database) :
    (pmOvsdbUpdate idl committed d db).1.Shuffle nameOf (pmOvsdbUpdate idl committed d' db).1 ∧
      (pmOvsdbUpdate idl committed d db).2 = (pmOvsdbUpdate idl committed d' db).2 := by
  have hr := h.reordered
  refine ⟨⟨h.distinct.update committed db, ?_⟩, ?_⟩
  · rw [pmOvsdbUpdate_eq, pmOvsdbUpdate_eq]
    exact
      { hr with
        curHwSet := by rw [hr.curHwSet]
        ovsIntfs := hr.ovsIntfs.map _ }
  · rw [pmOvsdbUpdate_eq, pmOvsdbUpdate_eq]
    show db.commit committed (d.writes idl) = db.commit committed (d'.writes idl)
    unfold Database.commit Pmd.writes
    split
    · rw [List.foldl_append, List.foldl_append, hr.curHwSet]
      have hwrites := (hr.ovsIntfs.flatMap_right fun node => node.2.writes idl).foldl_eq'
        (fun _ hop _ hop' db => writes_comm h.distinct idl hop hop' db) db
      rw [hwrites]
    · rfl

end Pmd.Shuffle

/-! ## Runs -/

/-- The names of the rows that are received belong to them. -/
def Event.Named (nameOf : Uuid → String) : Event σ → Prop
  | .idlRun idl _ => idl.Named nameOf
  | .reconfigure _ => True
  | .readState _ => True
  | .update _ => True

/-- The same but for the order of the nodes in the daemon. -/
structure System.Reordered (s s' : System σ) : Prop where
  idl : s.idl = s'.idl
  seqno : s.seqno = s'.seqno
  pmd : s.pmd.Reordered s'.pmd
  db : s.db = s'.db

/-- Named rows and distinct nodes, and the same in another order. -/
structure System.Shuffle (nameOf : Uuid → String) (s s' : System σ) : Prop where
  named : s.idl.Named nameOf
  distinct : s.pmd.Distinct nameOf
  reordered : s.Reordered s'

namespace System.Shuffle

variable {s s' s'' : System σ}

theorem trans (h : s.Shuffle nameOf s') (hr : s'.Reordered s'') : s.Shuffle nameOf s'' :=
  ⟨h.named, h.distinct,
    ⟨h.reordered.idl.trans hr.idl, h.reordered.seqno.trans hr.seqno,
      h.reordered.pmd.trans hr.pmd, h.reordered.db.trans hr.db⟩⟩

theorem step {P : Platform σ} {s s' : System (Uuid → σ)} (h : s.Shuffle nameOf s')
    {e : Event (Uuid → σ)} (he : e.Named nameOf) :
    (step P.each s e).Shuffle nameOf (step P.each s' e) := by
  obtain ⟨hidl, hseqno, hpmd, hdb⟩ := h.reordered
  have hshuffle : s.pmd.Shuffle nameOf s'.pmd := ⟨h.distinct, hpmd⟩
  cases e with
  | idlRun idl seqno => exact ⟨he, h.distinct, rfl, rfl, hpmd, hdb⟩
  | reconfigure files =>
    have hstep := hshuffle.reconfigure (P := P.each) h.named s.seqno files
    refine ⟨h.named, hstep.distinct, hidl, hseqno, ?_, hdb⟩
    show (pmdReconfigure P.each s.idl s.seqno files s.pmd).Reordered
      (pmdReconfigure P.each s'.idl s'.seqno files s'.pmd)
    rw [← hidl, ← hseqno]
    exact hstep.reordered
  | readState change =>
    have hworld : ({ s.pmd with world := change s.pmd.world } : Pmd (Uuid → σ)).Shuffle nameOf
        { s'.pmd with world := change s'.pmd.world } :=
      ⟨⟨h.distinct.ports.congr rfl rfl, h.distinct.subs⟩,
        { hpmd with world := by rw [hpmd.world] }⟩
    have hstep := hworld.readState (P := P)
    exact ⟨h.named, hstep.distinct, hidl, hseqno, hstep.reordered, hdb⟩
  | update committed =>
    obtain ⟨hstep, hcommit⟩ := hshuffle.update s.idl committed s.db
    refine ⟨h.named, hstep.distinct, hidl, hseqno, ?_, ?_⟩
    · show (pmOvsdbUpdate s.idl committed s.pmd s.db).1.Reordered
        (pmOvsdbUpdate s'.idl committed s'.pmd s'.db).1
      rw [← hidl, ← hdb]
      exact hstep.reordered
    · show (pmOvsdbUpdate s.idl committed s.pmd s.db).2 =
        (pmOvsdbUpdate s'.idl committed s'.pmd s'.db).2
      rw [← hidl, ← hdb]
      exact hcommit

theorem initial {idl : Idl} (hidl : idl.Named nameOf) (seqno : Nat)
    (files : Subsystem → YamlFiles) (world : σ) (db : Database) :
    (initial P idl seqno files world db).Shuffle nameOf (initial P idl seqno files world db) := by
  have hempty : ({ idlSeqno := seqno, world := world } : Pmd σ).Shuffle nameOf
      { idlSeqno := seqno, world := world } :=
    ⟨⟨⟨List.nodup_nil, by simp, by simp, by simp, by simp⟩, List.nodup_nil⟩, .refl _⟩
  have hsubs := hempty.subsystems (P := P) hidl files idl.subsystems
  refine ⟨hidl, ?_, rfl, rfl, .refl _, rfl⟩
  refine List.foldlRecOn (motive := fun d : Pmd σ => d.Distinct nameOf) idl.interfaces _
    hsubs.distinct fun d hd intf _ => ?_
  unfold ovsdbIfIntfConfigure
  cases d.ovsIntfs.find intf.name with
  | none => exact hd
  | some _ => exact ⟨hd.ports.congr rfl rfl, hd.subs⟩

end System.Shuffle

/-- Runs in which the nodes are rearranged between events, in any way. -/
inductive Rearranged (P : Platform σ) : System σ → List (Event σ) → System σ → Prop
  | done (s : System σ) : Rearranged P s [] s
  | event {s t : System σ} (e : Event σ) {es : List (Event σ)}
      (rest : Rearranged P (step P s e) es t) : Rearranged P s (e :: es) t
  | rearrange {s s' t : System σ} {es : List (Event σ)} (order : s.Reordered s')
      (rest : Rearranged P s' es t) : Rearranged P s es t

/-- A run follows one whose nodes are rearranged on the way. -/
theorem Rearranged.follow {P : Platform σ} {s' t : System (Uuid → σ)}
    {es : List (Event (Uuid → σ))} (h : Rearranged P.each s' es t)
    (hes : ∀ e ∈ es, e.Named nameOf) : ∀ {s : System (Uuid → σ)}, s.Shuffle nameOf s' →
      (Run.exec (step P.each) s es).Shuffle nameOf t := by
  induction h with
  | done => exact id
  | event e rest ih =>
    intro s hs
    exact ih (fun e he => hes e (List.mem_cons_of_mem _ he)) (hs.step (hes e List.mem_cons_self))
  | rearrange order rest ih => exact fun hs => ih hes (hs.trans order)

/--
**The order of the nodes is irrelevant.** However the nodes of the hashes are rearranged between the
events of a run, the database and the worlds of the modules are those of the run without, and so
are the ports and the subsystems but for their order.
-/
theorem order_irrelevant (P : Platform σ) (nameOf : Uuid → String) {idl : Idl}
    (hidl : idl.Named nameOf) (seqno : Nat) (files : Subsystem → YamlFiles) (world : Uuid → σ)
    (db : Database) {es : List (Event (Uuid → σ))} (hes : ∀ e ∈ es, e.Named nameOf)
    {t : System (Uuid → σ)}
    (ht : Rearranged P.each (initial P.each idl seqno files world db) es t) :
    (Run.exec (step P.each) (initial P.each idl seqno files world db) es).Reordered t :=
  (ht.follow hes (System.Shuffle.initial hidl seqno files world db)).reordered

/-- Two ports are met in the opposite order between the start and the first poll. -/
theorem order_irrelevant_twoPorts :
    let s := initial simulation.each twoPortIdl 0 twoPortFiles (fun _ => {}) emptyDatabase
    let s' : System (Uuid → SimData) :=
      { s with pmd := { s.pmd with ovsIntfs := s.pmd.ovsIntfs.reverse } }
    (Run.exec (step simulation.each) s [.readState id, .update true]).Reordered
      (Run.exec (step simulation.each) s' [.readState id, .update true]) := by
  intro s s'
  have horder : s.Reordered s' :=
    ⟨rfl, rfl, { Pmd.Reordered.refl s.pmd with ovsIntfs := (List.reverse_perm _).symm }, rfl⟩
  exact order_irrelevant simulation twoPortName named_twoPortIdl 0 twoPortFiles (fun _ => {})
    emptyDatabase (by simp [Event.Named]) (.rearrange horder (.event _ (.event _ (.done _))))

end OpsPmd
