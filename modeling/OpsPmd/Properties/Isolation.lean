import OpsPmd.PerPort

/-!
# What one port has to do with the others

The ports share one daemon, one loop and one transaction. Where each module has a world of its own,
nothing that happens in one port is seen in another: not in its columns, not in its world and not in
its row of the database.

* `Pmd.AgreeAt` — two daemons that differ in ports of other rows at most
* `isolated` — they still do after any run in which other ports meet something else
-/

namespace OpsPmd

variable {σ : Type} {P : Platform σ} {u : Uuid}

/-! ## Ports of other rows -/

/-- Ports of the same identity, and the same in everything if their row is `u`. -/
def PmPort.Alike (u : Uuid) (p p' : PmPort) : Prop :=
  p.toPortId = p'.toPortId ∧ (p.uuid = u → p = p')

theorem PmPort.Alike.uuid {p p' : PmPort} (h : p.Alike u p') : p.uuid = p'.uuid :=
  congrArg PortId.uuid h.1

theorem PmPort.Alike.refl (p : PmPort) : p.Alike u p := ⟨rfl, fun _ => rfl⟩

/-- A change of the world of one port is seen in its own row only. -/
theorem update_agree {p p' : PmPort} (h : p.Alike u p') {s s' : Uuid → σ} (hs : s u = s' u)
    {f : PmPort → σ → σ} :
    Function.update s p.uuid (f p (s p.uuid)) u =
      Function.update s' p'.uuid (f p' (s' p'.uuid)) u := by
  by_cases hu : p.uuid = u
  · obtain rfl := h.2 hu
    rw [hu, Function.update_self, Function.update_self, hs]
  · have hu' : p'.uuid ≠ u := h.uuid ▸ hu
    rw [Function.update_of_ne (Ne.symm hu), Function.update_of_ne (Ne.symm hu'), hs]

theorem configurePort_agree {p p' : PmPort} (h : p.Alike u p') {s s' : Uuid → σ}
    (hs : s u = s' u) :
    P.each.configurePort p s u = P.each.configurePort p' s' u := update_agree h hs

theorem clearReset_agree {p p' : PmPort} (h : p.Alike u p') {s s' : Uuid → σ} (hs : s u = s' u) :
    P.each.clearReset p.toPortId s u = P.each.clearReset p'.toPortId s' u :=
  update_agree (f := fun p => P.clearReset p.toPortId) h hs

theorem pollEach_agree {p p' : PmPort} (h : p.Alike u p') {s s' : Uuid → σ} (hs : s u = s' u) :
    (pollEach P p s).1.Alike u (pollEach P p' s').1 ∧
      (pollEach P p s).2 u = (pollEach P p' s').2 u := by
  simp only [pollEach_eq]
  refine ⟨⟨?_, fun hu => ?_⟩, update_agree (f := fun p w => (pmReadModuleState P p w).2.2) h hs⟩
  · exact (toPortId_pmReadModuleState p _).trans
      (h.1.trans (toPortId_pmReadModuleState p' _).symm)
  · rw [p.uuid_polledIn] at hu
    obtain rfl := h.2 hu
    unfold PmPort.polledIn
    rw [hu, hs]

/-! ## The daemon -/

/-- Daemons that differ in ports of other rows than `u` and in their worlds at most. -/
structure Pmd.AgreeAt (u : Uuid) (d d' : Pmd (Uuid → σ)) : Prop where
  idlSeqno : d.idlSeqno = d'.idlSeqno
  curHwSet : d.curHwSet = d'.curHwSet
  ovsSubs : d.ovsSubs = d'.ovsSubs
  yaml : d.yaml = d'.yaml
  ports : Shash.Rel (PmPort.Alike u) d.ovsIntfs d'.ovsIntfs
  world : d.world u = d'.world u

namespace Pmd.AgreeAt

variable {d d' : Pmd (Uuid → σ)} {idl : Idl}

/-- Either daemon has no port of the name, or both have one. -/
theorem find_cases (h : d.AgreeAt u d') (n : String) :
    (d.ovsIntfs.find n = none ∧ d'.ovsIntfs.find n = none) ∨
      ∃ p p', d.ovsIntfs.find n = some p ∧ d'.ovsIntfs.find n = some p' ∧ p.Alike u p' := by
  have hfind := h.ports.find n
  cases hd : d.ovsIntfs.find n with
  | none =>
    rw [hd] at hfind
    cases hd' : d'.ovsIntfs.find n with
    | none => exact Or.inl ⟨rfl, rfl⟩
    | some p' =>
      rw [hd'] at hfind
      cases hfind
  | some p =>
    rw [hd] at hfind
    cases hd' : d'.ovsIntfs.find n with
    | none =>
      rw [hd'] at hfind
      cases hfind
    | some p' =>
      rw [hd'] at hfind
      cases hfind with
      | some hp => exact Or.inr ⟨p, p', rfl, rfl, hp⟩

theorem deleteInterfaces (h : d.AgreeAt u d') (idl : Idl) :
    (deleteInterfaces idl d).AgreeAt u (OpsPmd.deleteInterfaces idl d') where
  idlSeqno := h.idlSeqno
  curHwSet := h.curHwSet
  ovsSubs := h.ovsSubs
  yaml := h.yaml
  ports := h.ports.deleteAll (fun _ _ _ hp => by rw [hp.uuid])
    fun _ _ _ hp => congrArg PortId.instanceName hp.1
  world := h.world

theorem deleteSubsystems (h : d.AgreeAt u d') (idl : Idl) :
    (deleteSubsystems idl d).AgreeAt u (OpsPmd.deleteSubsystems idl d') where
  idlSeqno := h.idlSeqno
  curHwSet := h.curHwSet
  ovsSubs := by rw [OpsPmd.deleteSubsystems, OpsPmd.deleteSubsystems, h.ovsSubs]
  yaml := h.yaml
  ports := h.ports
  world := h.world

theorem create (h : d.AgreeAt u d') (intf : Interface) (subName : String) :
    (ovsdbIfIntfCreate P.each intf subName d).AgreeAt u
      (ovsdbIfIntfCreate P.each intf subName d') := by
  unfold ovsdbIfIntfCreate
  rw [← h.yaml]
  cases pmGetYamlPort d.yaml subName intf.name with
  | none => exact h
  | some y =>
    dsimp only
    split
    · exact h
    · have hnew := PmPort.Alike.refl (u := u) (newPort intf subName y)
      exact
        { idlSeqno := h.idlSeqno
          curHwSet := h.curHwSet
          ovsSubs := h.ovsSubs
          yaml := rfl
          ports := h.ports.add _ hnew
          world := clearReset_agree hnew (configurePort_agree hnew h.world) }

theorem createInterfaces (h : d.AgreeAt u d') (subName : String) (intfs : List Interface) :
    (createInterfaces P.each subName intfs d).AgreeAt u
      (OpsPmd.createInterfaces P.each subName intfs d') := by
  refine List.foldl_rel h fun intf _ d d' h => ?_
  rcases h.find_cases intf.name with ⟨hn, hn'⟩ | ⟨p, p', hp, hp', -⟩
  · rw [hn, hn']
    exact h.create intf subName
  · rw [hp, hp']
    exact h

theorem subsysProcess (h : d.AgreeAt u d') (files : Subsystem → YamlFiles) (sub : Subsystem) :
    (ovsdbIfSubsysProcess P.each idl files d sub).AgreeAt u
      (ovsdbIfSubsysProcess P.each idl files d' sub) := by
  unfold ovsdbIfSubsysProcess
  rw [← h.ovsSubs]
  cases d.ovsSubs.find sub.name with
  | some _ => exact h.createInterfaces sub.name _
  | none =>
    have hread : ({ d with
        ovsSubs := d.ovsSubs.add sub.name sub.uuid
        yaml := Function.update d.yaml sub.name (files sub).ports } : Pmd (Uuid → σ)).AgreeAt u
        { d' with
          ovsSubs := d.ovsSubs.add sub.name sub.uuid
          yaml := Function.update d'.yaml sub.name (files sub).ports } :=
      ⟨h.idlSeqno, h.curHwSet, rfl, by rw [h.yaml], h.ports, h.world⟩
    dsimp only
    split
    · exact hread
    · exact hread.createInterfaces sub.name _

theorem subsystems (h : d.AgreeAt u d') (files : Subsystem → YamlFiles) (subs : List Subsystem) :
    (subs.foldl (ovsdbIfSubsysProcess P.each idl files) d).AgreeAt u
      (subs.foldl (ovsdbIfSubsysProcess P.each idl files) d') :=
  List.foldl_rel h fun sub _ _ _ h => h.subsysProcess files sub

theorem modifyInterface (h : d.AgreeAt u d') (intf : Interface) :
    (modifyInterface P.each d intf).AgreeAt u (OpsPmd.modifyInterface P.each d' intf) := by
  rcases h.find_cases intf.name with ⟨hn, hn'⟩ | ⟨p, p', hp, hp', hpp⟩
  · rw [Pmd.Holds.modifyInterface_of_none hn, Pmd.Holds.modifyInterface_of_none hn']
    exact h
  · rw [Pmd.Holds.modifyInterface_of_find hp, Pmd.Holds.modifyInterface_of_find hp']
    have hset : ({ p with hwEnable := ovsdbIfIntfGetHwEnable intf } : PmPort).Alike u
        { p' with hwEnable := ovsdbIfIntfGetHwEnable intf } :=
      ⟨hpp.1, fun hu => by rw [hpp.2 hu]⟩
    refine ⟨h.idlSeqno, h.curHwSet, h.ovsSubs, h.yaml, h.ports.set _ hset, ?_⟩
    show (ovsdbIfIntfModify P.each intf p d.world).2 u =
      (ovsdbIfIntfModify P.each intf p' d'.world).2 u
    -- whether the port is written to is its own affair, too
    by_cases hu : p.uuid = u
    · obtain rfl := hpp.2 hu
      by_cases hc : p.hwEnable ≠ ovsdbIfIntfGetHwEnable intf
      · simp only [ovsdbIfIntfModify, if_pos hc]
        exact configurePort_agree hset h.world
      · simp only [ovsdbIfIntfModify, if_neg hc]
        exact h.world
    · have hkept : ∀ {q : PmPort} {s : Uuid → σ}, q.uuid ≠ u →
          (ovsdbIfIntfModify P.each intf q s).2 u = s u := by
        intro q s hq
        by_cases hc : q.hwEnable ≠ ovsdbIfIntfGetHwEnable intf
        · simp only [ovsdbIfIntfModify, if_pos hc]
          exact Function.update_of_ne (Ne.symm hq) _ _
        · simp only [ovsdbIfIntfModify, if_neg hc]
      rw [hkept hu, hkept (hpp.uuid ▸ hu)]
      exact h.world

theorem reconfigure (h : d.AgreeAt u d') (idl : Idl) (seqno : Nat)
    (files : Subsystem → YamlFiles) :
    (pmdReconfigure P.each idl seqno files d).AgreeAt u
      (pmdReconfigure P.each idl seqno files d') := by
  unfold pmdReconfigure
  rw [← h.idlSeqno]
  split
  · exact h
  · have hseq : ({ d with idlSeqno := seqno } : Pmd (Uuid → σ)).AgreeAt u
        { d' with idlSeqno := seqno } :=
      ⟨rfl, h.curHwSet, h.ovsSubs, h.yaml, h.ports, h.world⟩
    have hdel := (hseq.deleteInterfaces idl).deleteSubsystems idl
    exact List.foldl_rel (hdel.subsystems files idl.subsystems)
      fun intf _ _ _ h => h.modifyInterface intf

theorem configure (h : d.AgreeAt u d') (intf : Interface) :
    (ovsdbIfIntfConfigure P.each intf d).AgreeAt u (ovsdbIfIntfConfigure P.each intf d') := by
  unfold ovsdbIfIntfConfigure
  rcases h.find_cases intf.name with ⟨hn, hn'⟩ | ⟨p, p', hp, hp', hpp⟩
  · rw [hn, hn']
    exact h
  · rw [hp, hp']
    exact ⟨h.idlSeqno, h.curHwSet, h.ovsSubs, h.yaml, h.ports, configurePort_agree hpp h.world⟩

theorem init (idl : Idl) (seqno : Nat) (files : Subsystem → YamlFiles) {s s' : Uuid → σ}
    (hs : s u = s' u) :
    (pmOvsdbIfInit P.each idl seqno files s).AgreeAt u
      (pmOvsdbIfInit P.each idl seqno files s') := by
  have hempty : ({ idlSeqno := seqno, world := s } : Pmd (Uuid → σ)).AgreeAt u
      { idlSeqno := seqno, world := s' } := ⟨rfl, rfl, rfl, rfl, List.Forall₂.nil, hs⟩
  exact List.foldl_rel (hempty.subsystems files idl.subsystems)
    fun intf _ _ _ h => h.configure intf

theorem readState (h : d.AgreeAt u d') :
    (pmReadState P.each d).AgreeAt u (pmReadState P.each d') := by
  have hpoll : ∀ p p' (s s' : Uuid → σ), p.Alike u p' → s u = s' u →
      (pollEach P p s).1.Alike u (pollEach P p' s').1 ∧
        (pollEach P p s).2 u = (pollEach P p' s').2 u :=
    fun _ _ _ _ hp hs => pollEach_agree hp hs
  obtain ⟨hports, hworld⟩ :=
    Shash.Rel.mapAccum (S := fun s s' : Uuid → σ => s u = s' u) hpoll h.ports h.world
  exact ⟨h.idlSeqno, h.curHwSet, h.ovsSubs, h.yaml, hports, hworld⟩

/-! ## The database -/

theorem settled_alike {p p' : PmPort} (h : p.Alike u p') (idl : Idl) :
    (p.settled idl).Alike u (p'.settled idl) := by
  refine ⟨?_, fun hu => ?_⟩
  · rw [PmPort.settled_toPortId, PmPort.settled_toPortId]
    exact h.1
  · rw [PmPort.settled_toPortId] at hu
    rw [h.2 hu]

/-- What a port adds to a transaction does to row `u` what its counterpart does. -/
theorem writes_agree {p p' : PmPort} (h : p.Alike u p') (idl : Idl) {db db' : Database}
    (hdb : db.pmInfo u = db'.pmInfo u) :
    ((p.writes idl).foldl Database.apply db).pmInfo u =
      ((p'.writes idl).foldl Database.apply db').pmInfo u := by
  by_cases hu : p.uuid = u
  · obtain rfl := h.2 hu
    unfold PmPort.writes
    split
    · show Function.update db.pmInfo p.uuid _ u = Function.update db'.pmInfo p.uuid _ u
      rw [hu, Function.update_self, Function.update_self]
    · exact hdb
  · have hkept : ∀ {q : PmPort} (db : Database), q.uuid ≠ u →
        ((q.writes idl).foldl Database.apply db).pmInfo u = db.pmInfo u := by
      intro q db hq
      refine Database.pmInfo_foldl_of_notMem _ _ fun m hm => hq ?_
      exact (PmPort.mem_writes.mp hm).2.1.symm
    rw [hkept db hu, hkept db' (h.uuid ▸ hu), hdb]

theorem ports_writes_agree {ports ports' : Shash String PmPort}
    (h : Shash.Rel (PmPort.Alike u) ports ports') (idl : Idl) : ∀ {db db' : Database},
    db.pmInfo u = db'.pmInfo u →
      ((ports.flatMap fun node => node.2.writes idl).foldl Database.apply db).pmInfo u =
        ((ports'.flatMap fun node => node.2.writes idl).foldl Database.apply db').pmInfo u := by
  induction h with
  | nil => exact id
  | cons hnode _ ih =>
    intro db db' hdb
    rw [List.flatMap_cons, List.flatMap_cons, List.foldl_append, List.foldl_append]
    exact ih (writes_agree hnode.2 idl hdb)

theorem update (h : d.AgreeAt u d') (idl : Idl) (committed : Bool) {db db' : Database}
    (hdb : db.pmInfo u = db'.pmInfo u) :
    (pmOvsdbUpdate idl committed d db).1.AgreeAt u (pmOvsdbUpdate idl committed d' db').1 ∧
      (pmOvsdbUpdate idl committed d db).2.pmInfo u =
        (pmOvsdbUpdate idl committed d' db').2.pmInfo u := by
  rw [pmOvsdbUpdate_eq, pmOvsdbUpdate_eq]
  refine ⟨⟨h.idlSeqno, by rw [h.curHwSet], h.ovsSubs, h.yaml, ?_, h.world⟩, ?_⟩
  · exact List.forall₂_map_left_iff.mpr (List.forall₂_map_right_iff.mpr
      (h.ports.imp fun _ _ hnode => ⟨hnode.1, settled_alike hnode.2 idl⟩))
  · show (db.commit committed _).pmInfo u = (db'.commit committed _).pmInfo u
    unfold Database.commit Pmd.writes
    split
    · rw [List.foldl_append, List.foldl_append, h.curHwSet]
      have hcur : ∀ db : Database, ((curHwWrites idl d'.curHwSet).foldl Database.apply db).pmInfo u =
          db.pmInfo u := by
        intro db
        refine Database.pmInfo_foldl_of_notMem _ _ fun m hm => ?_
        unfold curHwWrites at hm
        revert hm
        cases d'.curHwSet <;> cases idl.daemonRow <;> simp
      rw [hcur, hcur]
      exact ports_writes_agree h.ports idl hdb
    · exact hdb

end Pmd.AgreeAt

/-! ## Runs -/

/-- The same event, where what happens outside is the same for row `u`. -/
inductive Event.SameAt (u : Uuid) : Event (Uuid → σ) → Event (Uuid → σ) → Prop
  | idlRun (idl : Idl) (seqno : Nat) : SameAt u (.idlRun idl seqno) (.idlRun idl seqno)
  | reconfigure (files : Subsystem → YamlFiles) : SameAt u (.reconfigure files) (.reconfigure files)
  | readState {change change' : (Uuid → σ) → Uuid → σ}
      (same : ∀ s s', s u = s' u → change s u = change' s' u) :
      SameAt u (.readState change) (.readState change')
  | update (committed : Bool) : SameAt u (.update committed) (.update committed)

/-- Systems that differ in ports of other rows than `u`, in their worlds and rows at most. -/
structure System.AgreeAt (u : Uuid) (s s' : System (Uuid → σ)) : Prop where
  idl : s.idl = s'.idl
  seqno : s.seqno = s'.seqno
  pmd : s.pmd.AgreeAt u s'.pmd
  row : s.db.pmInfo u = s'.db.pmInfo u

theorem System.AgreeAt.step {s s' : System (Uuid → σ)} (h : s.AgreeAt u s')
    {e e' : Event (Uuid → σ)} (he : e.SameAt u e') :
    (step P.each s e).AgreeAt u (step P.each s' e') := by
  cases he with
  | idlRun idl seqno => exact ⟨rfl, rfl, h.pmd, h.row⟩
  | reconfigure files =>
    refine ⟨h.idl, h.seqno, ?_, h.row⟩
    show (pmdReconfigure P.each s.idl s.seqno files s.pmd).AgreeAt u
      (pmdReconfigure P.each s'.idl s'.seqno files s'.pmd)
    rw [h.idl, h.seqno]
    exact h.pmd.reconfigure s'.idl s'.seqno files
  | @readState change change' same =>
    refine ⟨h.idl, h.seqno, Pmd.AgreeAt.readState ?_, h.row⟩
    exact ⟨h.pmd.idlSeqno, h.pmd.curHwSet, h.pmd.ovsSubs, h.pmd.yaml, h.pmd.ports,
      same _ _ h.pmd.world⟩
  | update committed =>
    have hupdate := h.pmd.update s.idl committed h.row
    refine ⟨h.idl, h.seqno, ?_, ?_⟩
    · show (pmOvsdbUpdate s.idl committed s.pmd s.db).1.AgreeAt u
        (pmOvsdbUpdate s'.idl committed s'.pmd s'.db).1
      rw [← h.idl]
      exact hupdate.1
    · show (pmOvsdbUpdate s.idl committed s.pmd s.db).2.pmInfo u =
        (pmOvsdbUpdate s'.idl committed s'.pmd s'.db).2.pmInfo u
      rw [← h.idl]
      exact hupdate.2

theorem System.AgreeAt.exec {es es' : List (Event (Uuid → σ))}
    (hes : List.Forall₂ (Event.SameAt u) es es') : ∀ {s s' : System (Uuid → σ)},
    s.AgreeAt u s' → (Run.exec (OpsPmd.step P.each) s es).AgreeAt u
      (Run.exec (OpsPmd.step P.each) s' es') := by
  induction hes with
  | nil => exact id
  | cons he _ ih => exact fun h => ih (h.step he)

/--
**No port is affected by what happens in others.** Two daemons that start over worlds and databases
that are the same for row `u`, and meet the same but for other modules, have the same port for the
row, and leave the same in its world and in the database.
-/
theorem isolated (P : Platform σ) (u : Uuid) (idl : Idl) (seqno : Nat)
    (files : Subsystem → YamlFiles) {world world' : Uuid → σ} (hworld : world u = world' u)
    {db db' : Database} (hdb : db.pmInfo u = db'.pmInfo u) {es es' : List (Event (Uuid → σ))}
    (hes : List.Forall₂ (Event.SameAt u) es es') :
    let s := Run.exec (step P.each) (initial P.each idl seqno files world db) es
    let s' := Run.exec (step P.each) (initial P.each idl seqno files world' db') es'
    (∀ n p, p.uuid = u → ((n, p) ∈ s.pmd.ovsIntfs ↔ (n, p) ∈ s'.pmd.ovsIntfs)) ∧
      s.pmd.world u = s'.pmd.world u ∧ s.db.pmInfo u = s'.db.pmInfo u := by
  intro s s'
  have hinit : (initial P.each idl seqno files world db).AgreeAt u
      (initial P.each idl seqno files world' db') :=
    ⟨rfl, rfl, Pmd.AgreeAt.init idl seqno files hworld, hdb⟩
  have hagree : s.AgreeAt u s' := System.AgreeAt.exec hes hinit
  refine ⟨fun n p hu => ⟨fun hm => ?_, fun hm => ?_⟩, hagree.pmd.world, hagree.row⟩
  · obtain ⟨p', hm', hp⟩ := hagree.pmd.ports.mem_left hm
    rwa [hp.2 hu]
  · obtain ⟨p', hm', hp⟩ := hagree.pmd.ports.mem_right hm
    rwa [← hp.2 (hp.uuid.trans hu)]

/-- A module is put into another port of the second daemon only. -/
theorem isolated_onePort :
    let world : Uuid → SimData := fun _ => {}
    let world' : Uuid → SimData := fun u => if u = 1 then {} else { moduleData := some srPage }
    let s := Run.exec (step simulation.each)
      (initial simulation.each onePortIdl 0 onePortFiles world emptyDatabase)
      [.readState id, .update true]
    let s' := Run.exec (step simulation.each)
      (initial simulation.each onePortIdl 0 onePortFiles world' emptyDatabase)
      [.readState fun s u => if u = 1 then s u else {}, .update true]
    (∀ n p, p.uuid = 1 → ((n, p) ∈ s.pmd.ovsIntfs ↔ (n, p) ∈ s'.pmd.ovsIntfs)) ∧
      s.pmd.world 1 = s'.pmd.world 1 ∧ s.db.pmInfo 1 = s'.db.pmInfo 1 := by
  refine isolated simulation 1 onePortIdl 0 onePortFiles (by simp) rfl
    (List.Forall₂.cons (.readState fun s s' h => ?_) (List.Forall₂.cons (.update true)
      List.Forall₂.nil))
  simpa using h

end OpsPmd
