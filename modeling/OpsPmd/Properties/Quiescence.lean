import OpsPmd.Properties.Precision
import OpsPmd.Properties.History
import OpsPmd.PerPort

/-!
# What the daemon does when nothing happens

The daemon polls all ports in every pass of its loop. While the rows stay as they are and every
module gives the same responses, the first pass does all there is to do.

* `Still` — a port as the responses of its module ask for
* `Still.poll` — a poll of one raises the mark at most, and that only of a module that cannot be
  read
* `quiescent` — passes that change nothing, and what they write
-/

namespace OpsPmd

open PmInfo

variable {σ : Type} {P : Platform σ} {t : ModuleType} {port : PmPort} {idl : Idl} {r : Responses}
  {I : σ → Prop} {s : σ} {nameOf : Uuid → String}

/-! ## One port -/

/-- The module in the port could not be read. -/
def PmPort.unread (port : PmPort) : Bool := port.present && port.retry

/-- The port, with the mark up if its module could not be read. -/
def PmPort.remarked (port : PmPort) : PmPort :=
  { port with cells := { port.cells with changed := port.moduleInfoChanged || port.unread } }

/-- The port is as the responses of its module ask for. -/
structure PmPort.Still (r : Responses) (t : ModuleType) (port : PmPort) : Prop where
  inv : port.Inv t
  known : (r.found = false ∧ port.HasShape .absent) ∨ (r.found = true ∧ ¬port.NeedsRead) ∨
    (r.found = true ∧ ¬GoodRead r.a0 ∧ port.HasShape .unreadable)

theorem PmPort.remarked_of_not_unread (h : port.unread = false) : port.remarked = port := by
  have hcells : ({ port.cells with changed := port.moduleInfoChanged || port.unread } :
      Cells Column String) = port.cells := by
    rw [h, Bool.or_false]
    rfl
  unfold PmPort.remarked
  rw [hcells]

theorem PmPort.unread_of_not_needsRead (h : ¬port.NeedsRead) : port.unread = false := by
  obtain ⟨-, hr⟩ := not_not.mp h
  simp [unread, hr]

/-- A module that cannot be read leaves the port as it was, but for the mark. -/
theorem PmPort.unreadable_of_hasShape (h : port.HasShape .unreadable) :
    port.unreadable = port.remarked := by
  have hunread : port.unread = true := by simp [unread, h.1, h.2.1]
  have hcells : port.unreadable.cells =
      { port.cells with changed := port.moduleInfoChanged || port.unread } := by
    refine Cells.ext (funext fun c => get_unreadable h c) ?_
    rw [changed_unreadable, hunread, Bool.or_true]
  rw [unreadable_frame, remarked, hcells]
  congr 1
  · exact h.1.symm
  · exact h.2.1.symm

/--
**A poll of a still port raises its mark at most**, and that only if its module cannot be read.
-/
theorem PmPort.Still.poll (h : port.Still r t)
    (hresp : Responds P port.toPortId t.serialIdOffset r I) (hI : I s) :
    (pmReadModuleState P port s).2.1 = port.remarked ∧ I (pmReadModuleState P port s).2.2 := by
  rw [pmReadModuleState_eq h.inv.device h.inv.ready]
  refine ⟨?_, hresp.world_observation hI⟩
  have hposs : Possible t port (observation P t port s).1 := observation_possible s
  rcases h.known with ⟨hfound, habs⟩ | ⟨hfound, hheld⟩ | ⟨hfound, hbad, hshape⟩
  · have hunread : port.unread = false := by simp [unread, habs.1]
    rw [hresp.observation_of_not_found hI hfound, remarked_of_not_unread hunread]
    exact settleAbsent_of_hasShape habs
  · rw [remarked_of_not_unread (unread_of_not_needsRead hheld)]
    have hne := hresp.observation_ne_absent (t := t) hI hfound
    cases ho : (observation P t port s).1 with
    | absent => exact absurd ho hne
    | held => rfl
    | unreadable => rw [ho] at hposs; exact absurd hposs hheld
    | identified a0 a2 => rw [ho] at hposs; exact absurd hposs.1 hheld
  · have hneeds : port.NeedsRead := fun hheld => by simp [hshape.2.1] at hheld
    rw [(hresp.observation_unreadable_iff hI hneeds).mpr ⟨hfound, hbad⟩]
    exact unreadable_of_hasShape hshape

/-- **After a poll a port is still**, with the mark up if its module could not be read. -/
theorem PmPort.Inv.still_poll (h : port.Inv t)
    (hresp : Responds P port.toPortId t.serialIdOffset r I) (hI : I s) :
    (pmReadModuleState P port s).2.1.Still r t ∧
      ((pmReadModuleState P port s).2.1.unread = true →
        (pmReadModuleState P port s).2.1.moduleInfoChanged = true) ∧
      I (pmReadModuleState P port s).2.2 := by
  rw [pmReadModuleState_eq h.device h.ready]
  have hposs : Possible t port (observation P t port s).1 := observation_possible s
  refine ⟨⟨h.observe hposs, ?_⟩, ?_, hresp.world_observation hI⟩
  · have hslot : (⟨port, s⟩ : Slot σ).port.Inv t := h
    by_cases hbad : r.found = true ∧ ¬GoodRead r.a0 ∧ port.NeedsRead
    · obtain ⟨hfound, hbad, hneeds⟩ := hbad
      rw [(hresp.observation_unreadable_iff hI hneeds).mpr ⟨hfound, hbad⟩]
      exact Or.inr (Or.inr ⟨hfound, hbad, hasShape_unreadable⟩)
    · exact (known_of_poll hslot hresp hI hbad).imp id Or.inl
  · intro hunread
    cases ho : (observation P t port s).1 with
    | absent =>
      rw [ho] at hunread
      have habs := h.hasShape_settleAbsent
      replace hunread : port.settleAbsent.unread = true := hunread
      simp [unread, habs.1] at hunread
    | held =>
      rw [ho] at hunread hposs
      replace hunread : port.unread = true := hunread
      rw [unread_of_not_needsRead hposs] at hunread
      cases hunread
    | unreadable => exact changed_unreadable
    | identified a0 a2 =>
      rw [ho] at hunread
      obtain ⟨-, hr, -⟩ := flags_identified h.device a0 a2
      simp [unread, hr] at hunread

/-! ## Its mark -/

/-- The mark is down where the port has a row, and up where it has none and could not be read. -/
structure PmPort.Rests (idl : Idl) (port : PmPort) : Prop where
  down : (idl.interfaceForUuid port.uuid).isSome = true → port.moduleInfoChanged = false
  up : (idl.interfaceForUuid port.uuid).isSome = false → port.unread = true →
    port.moduleInfoChanged = true

/-- An update leaves all marks where they rest. -/
theorem PmPort.rests_settled (h : port.unread = true → port.moduleInfoChanged = true) :
    (port.settled idl).Rests idl := by
  have hid : (port.settled idl).toPortId = port.toPortId := settled_toPortId
  refine ⟨fun hrow => ?_, fun hrow => ?_⟩
  · rw [hid] at hrow
    exact changed_settled hrow
  · rw [hid] at hrow
    have hnot : ¬port.Due idl := fun hdue => Bool.false_ne_true (hrow.symm.trans hdue.1)
    rw [settled_of_not_due hnot]
    exact h

/-- An update takes down what a poll of a resting port raised. -/
theorem PmPort.Rests.settled_remarked (h : port.Rests idl) :
    port.remarked.settled idl = port := by
  cases hrow : (idl.interfaceForUuid port.uuid).isSome with
  | true =>
    have hdown := h.down hrow
    by_cases hdue : port.remarked.Due idl
    · have hcells : port.remarked.cells.settle = port.cells := Cells.ext rfl hdown.symm
      unfold settled
      rw [if_pos hdue, hcells]
      rfl
    · rw [settled_of_not_due hdue]
      refine remarked_of_not_unread ?_
      have hmark : (port.moduleInfoChanged || port.unread) = false := by
        simpa [Due, hrow, remarked, moduleInfoChanged] using hdue
      rw [hdown, Bool.false_or] at hmark
      exact hmark
  | false =>
    have hnot : ¬port.remarked.Due idl := fun hdue => Bool.false_ne_true (hrow.symm.trans hdue.1)
    rw [settled_of_not_due hnot]
    cases hunread : port.unread with
    | false => exact remarked_of_not_unread hunread
    | true =>
      have hup := h.up hrow hunread
      have hcells : ({ port.cells with changed := port.moduleInfoChanged || port.unread } :
          Cells Column String) = port.cells := by
        rw [hup, Bool.true_or, ← hup]
        rfl
      unfold remarked
      rw [hcells]

/-- What an update writes of a port that rests, once it was polled. -/
def PmPort.redundant (idl : Idl) (db : Database) (port : PmPort) : List TxnOp :=
  if (idl.interfaceForUuid port.uuid).isSome = true ∧ port.unread = true then
    [.setPmInfo port.uuid (db.pmInfo port.uuid)]
  else []

theorem PmPort.Rests.writes_remarked {db : Database} (h : port.Rests idl)
    (hhas : port.unread = true → (idl.interfaceForUuid port.uuid).isSome = true → db.Has port) :
    port.remarked.writes idl = port.redundant idl db := by
  have hdue : port.remarked.Due idl ↔
      (idl.interfaceForUuid port.uuid).isSome = true ∧ port.unread = true := by
    refine and_congr_right fun hrow => ?_
    show (port.moduleInfoChanged || port.unread) = true ↔ _
    rw [h.down hrow, Bool.false_or]
  unfold writes redundant
  by_cases hboth : (idl.interfaceForUuid port.uuid).isSome = true ∧ port.unread = true
  · have hmap : port.remarked.pmInfo = port.pmInfo := pmInfo_congr fun _ => rfl
    rw [if_pos (hdue.mpr hboth), if_pos hboth, hmap, hhas hboth.2 hboth.1]
    rfl
  · rw [if_neg fun h => hboth (hdue.mp h), if_neg hboth]

/-! ## The database -/

/-- Operations that each leave a database leave it together. -/
theorem Database.foldl_apply_self {db : Database} : ∀ {ops : List TxnOp},
    (∀ op ∈ ops, db.apply op = db) → ops.foldl apply db = db
  | [], _ => rfl
  | op :: ops, h => by
    rw [List.foldl_cons, h op List.mem_cons_self,
      foldl_apply_self fun op' hm => h op' (List.mem_cons_of_mem _ hm)]

theorem Database.apply_setPmInfo_self (db : Database) (u : Uuid) :
    db.apply (.setPmInfo u (db.pmInfo u)) = db := by
  simp [apply]

/-! ## The daemon -/

/-- A pass in which neither the rows nor what the modules respond changes. -/
structure Pass.Uneventful (I : σ → Prop) (idl : Idl) (seqno : Nat) (pass : Pass σ) : Prop where
  idl : pass.idl = idl
  seqno : pass.seqno = seqno
  change : ∀ s, I s → I (pass.change s)

/-- The modules in all ports of known kinds give the same responses at every call. -/
def Platform.Steady (P : Platform σ) (responses : PortId → Responses) (I : σ → Prop) : Prop :=
  ∀ (port : PortId) (t : ModuleType), port.moduleDevice.IsA t →
    Responds P port t.serialIdOffset (responses port) I

/-- Modules that are steady each in its own world are so together. -/
theorem Platform.Steady.each {responses : Uuid → Responses} {J : Uuid → σ → Prop}
    (hP : ∀ u, P.Steady (fun _ => responses u) (J u)) :
    P.each.Steady (fun port => responses port.uuid) fun w => ∀ u, J u (w u) := by
  intro port t hdev
  have hone := hP port.uuid port t hdev
  have hkeep : ∀ (w : Uuid → σ) (v : σ), (∀ u, J u (w u)) → J port.uuid v →
      ∀ u, J u (Function.update w port.uuid v u) := by
    intro w v hw hv u
    by_cases hu : u = port.uuid
    · rw [hu, Function.update_self]
      exact hv
    · rw [Function.update_of_ne hu]
      exact hw u
  constructor
  · exact fun w hw => ⟨(hone.getPresence _ (hw _)).1, hkeep w _ hw (hone.getPresence _ (hw _)).2⟩
  · exact fun w hw => ⟨(hone.readA0 _ (hw _)).1, hkeep w _ hw (hone.readA0 _ (hw _)).2⟩
  · exact fun w hw => ⟨(hone.readA2 _ (hw _)).1, hkeep w _ hw (hone.readA2 _ (hw _)).2⟩
  · exact fun w hw => hkeep w _ hw (hone.resetPort _ (hw _))

/-- The next pass finds nothing new. -/
structure System.Quiet (nameOf : Uuid → String) (responses : PortId → Responses) (I : σ → Prop)
    (s : System σ) : Prop where
  ports : s.pmd.Holds nameOf (fun y => ∃ t, y.IsA t) fun p =>
    (∃ t, p.Still (responses p.toPortId) t) ∧ p.Rests s.idl ∧
      (p.unread = true → (s.idl.interfaceForUuid p.uuid).isSome = true → s.db.Has p)
  world : I s.pmd.world
  curHw : s.pmd.curHwSet = false → s.idl.daemonRow = none
  seqno : s.pmd.idlSeqno = s.seqno

namespace System.Quiet

variable {responses : PortId → Responses} {s : System σ} {change : σ → σ}

/-- A poll of all ports raises marks at most. -/
theorem readState (hP : P.Steady responses I) (h : s.Quiet nameOf responses I)
    (hchange : ∀ s, I s → I (change s)) :
    ∃ w, I w ∧ pmReadState P { s.pmd with world := change s.pmd.world } =
      { s.pmd with
        ovsIntfs := s.pmd.ovsIntfs.map fun node => (node.1, node.2.remarked)
        world := w } := by
  have hpoll : ∀ n p, (n, p) ∈ s.pmd.ovsIntfs → ∀ w, I w →
      (pmReadModuleState P p w).2.1 = p.remarked ∧ I (pmReadModuleState P p w).2.2 := by
    intro n p hm w hw
    obtain ⟨⟨t, hstill⟩, -, -⟩ := h.ports.port n p hm
    exact hstill.poll (hP p.toPortId t hstill.inv.device) hw
  have hworld := hchange _ h.world
  refine ⟨_, Shash.mapAccum_invariant s.pmd.ovsIntfs (fun n p hm w hw => (hpoll n p hm w hw).2)
    hworld, ?_⟩
  have hports := Shash.mapAccum_eq_map (g := PmPort.remarked) hpoll hworld
  show ({ s.pmd with ovsIntfs := _, world := _ } : Pmd σ) = _
  rw [hports]

/-- What an update after the poll writes. -/
theorem writes (h : s.Quiet nameOf responses I) (w : σ) :
    ({ s.pmd with
        ovsIntfs := s.pmd.ovsIntfs.map fun node => (node.1, node.2.remarked)
        world := w } : Pmd σ).writes s.idl =
      s.pmd.ovsIntfs.flatMap fun node => node.2.redundant s.idl s.db := by
  have hcur : curHwWrites s.idl s.pmd.curHwSet = [] := by
    unfold curHwWrites
    cases hset : s.pmd.curHwSet with
    | true => rfl
    | false => rw [h.curHw hset]; rfl
  unfold Pmd.writes
  dsimp only
  rw [hcur, List.append_nil, List.flatMap_map]
  refine List.flatMap_congr fun node hm => ?_
  obtain ⟨-, hrests, hhas⟩ := h.ports.port node.1 node.2 hm
  exact hrests.writes_remarked hhas

/-- All of it is there already. -/
theorem commit (h : s.Quiet nameOf responses I) (w : σ) (committed : Bool) :
    s.db.commit committed (({ s.pmd with
        ovsIntfs := s.pmd.ovsIntfs.map fun node => (node.1, node.2.remarked)
        world := w } : Pmd σ).writes s.idl) = s.db := by
  rw [h.writes]
  unfold Database.commit
  split
  · refine Database.foldl_apply_self fun op hop => ?_
    obtain ⟨node, -, hnode⟩ := List.mem_flatMap.mp hop
    unfold PmPort.redundant at hnode
    split at hnode
    · obtain rfl := List.mem_singleton.mp hnode
      exact s.db.apply_setPmInfo_self _
    · cases hnode
  · rfl

/-- **An uneventful pass changes the world at most.** -/
theorem pmdRun (hP : P.Steady responses I) (h : s.Quiet nameOf responses I) {pass : Pass σ}
    (hpass : pass.Uneventful I s.idl s.seqno) :
    ∃ w, I w ∧ OpsPmd.pmdRun P s pass = { s with pmd := { s.pmd with world := w } } := by
  have hidl : step P s (.idlRun pass.idl pass.seqno) = s := by
    rw [hpass.idl, hpass.seqno]
    rfl
  have hreconfigure : step P s (.reconfigure pass.files) = s := by
    show ({ s with pmd := pmdReconfigure P s.idl s.seqno pass.files s.pmd } : System σ) = s
    rw [pmdReconfigure, if_pos h.seqno.symm]
  unfold OpsPmd.pmdRun
  dsimp only
  rw [hidl]
  cases pass.hasLock with
  | false => exact ⟨s.pmd.world, h.world, rfl⟩
  | true =>
    rw [if_neg (by simp), hreconfigure]
    obtain ⟨w, hw, hread⟩ := h.readState (P := P) hP hpass.change
    refine ⟨w, hw, ?_⟩
    have hset : (s.pmd.curHwSet || s.idl.daemonRow.isSome) = s.pmd.curHwSet := by
      cases hset : s.pmd.curHwSet with
      | true => rfl
      | false => rw [h.curHw hset]; rfl
    have hports : s.pmd.ovsIntfs.map ((fun node : String × PmPort =>
        (node.1, node.2.settled s.idl)) ∘ fun node => (node.1, node.2.remarked)) =
          s.pmd.ovsIntfs := by
      refine (List.map_congr_left fun node hm => ?_).trans (List.map_id _)
      obtain ⟨-, hrests, -⟩ := h.ports.port node.1 node.2 hm
      exact Prod.ext rfl hrests.settled_remarked
    simp only [step]
    rw [hread, pmOvsdbUpdate_eq, h.commit, List.map_map, hports, hset]

/-- The world is all that such a pass may change. -/
theorem of_world (h : s.Quiet nameOf responses I) {w : σ} (hw : I w) :
    ({ s with pmd := { s.pmd with world := w } } : System σ).Quiet nameOf responses I :=
  ⟨h.ports.congr rfl rfl, hw, h.curHw, h.seqno⟩

theorem exec (hP : P.Steady responses I) : ∀ {passes : List (Pass σ)} {s : System σ},
    s.Quiet nameOf responses I → (∀ pass ∈ passes, pass.Uneventful I s.idl s.seqno) →
      ∃ w, I w ∧ Run.exec (OpsPmd.pmdRun P) s passes = { s with pmd := { s.pmd with world := w } }
  | [], s, h, _ => ⟨s.pmd.world, h.world, rfl⟩
  | pass :: passes, s, h, hall => by
    obtain ⟨w, hw, hrun⟩ := h.pmdRun hP (hall pass List.mem_cons_self)
    obtain ⟨w', hw', hrest⟩ := exec hP (h.of_world hw) fun pass' hm =>
      hall pass' (List.mem_cons_of_mem _ hm)
    rw [Run.exec_cons, hrun, hrest]
    exact ⟨w', hw', rfl⟩

end System.Quiet

/-! ## How it gets there -/

/-- The port is still, and its mark is up if its module could not be read. -/
def PmPort.Read (responses : PortId → Responses) (port : PmPort) : Prop :=
  (∃ t, port.Still (responses port.toPortId) t) ∧
    (port.unread = true → port.moduleInfoChanged = true)

section Quiet

variable {responses : PortId → Responses} {d : Pmd σ} {seqno : Nat}

/-- No poll of a port leaves the invariant of the world. -/
theorem Pmd.Holds.world_poll (hP : P.Steady responses I)
    (h : d.Holds nameOf (fun y => ∃ t, y.IsA t) (PmPort.Lived P)) :
    ∀ n p, (n, p) ∈ d.ovsIntfs → ∀ w, I w → I (pmReadModuleState P p w).2.2 := by
  intro n p hm w hw
  obtain ⟨t, hinv⟩ := (h.port n p hm).inv
  exact (hinv.still_poll (hP p.toPortId t hinv.device) hw).2.2

/-- After a poll of all ports they are still. -/
theorem Pmd.Holds.read (hP : P.Steady responses I)
    (h : d.Holds nameOf (fun y => ∃ t, y.IsA t) (PmPort.Lived P)) (hworld : I d.world) :
    (pmReadState P d).Holds nameOf (fun y => ∃ t, y.IsA t) (PmPort.Read responses) ∧
      I (pmReadState P d).world := by
  have hkeep := h.world_poll hP
  have hread : (pmReadState P d).Holds nameOf (fun y => ∃ t, y.IsA t) fun _ => True := by
    refine h.readState fun n p w _ _ => ?_
    exact ⟨toPortId_pmReadModuleState p w, trivial⟩
  refine ⟨hread.mono fun n p' hm _ => ?_, Shash.mapAccum_invariant _ hkeep hworld⟩
  obtain ⟨p, w, hp, hw, rfl⟩ := Shash.mem_mapAccum_of_invariant hkeep hworld hm
  obtain ⟨t, hinv⟩ := (h.port n p hp).inv
  obtain ⟨hstill, hmark, -⟩ := hinv.still_poll (hP p.toPortId t hinv.device) hw
  have hid : (pmReadModuleState P p w).2.1.toPortId = p.toPortId := toPortId_pmReadModuleState p w
  exact ⟨⟨t, hid ▸ hstill⟩, hmark⟩

theorem PmPort.Still.settled (h : port.Still r t) : (port.settled idl).Still r t := by
  unfold PmPort.settled
  split
  · refine ⟨h.inv.settle, ?_⟩
    rcases h.known with ⟨hfound, hshape⟩ | ⟨hfound, hheld⟩ | ⟨hfound, hbad, hshape⟩
    · exact Or.inl ⟨hfound, hshape⟩
    · exact Or.inr (Or.inl ⟨hfound, hheld⟩)
    · exact Or.inr (Or.inr ⟨hfound, hbad, hshape⟩)
  · exact h

theorem PmPort.unread_settled : (port.settled idl).unread = port.unread := by
  unfold PmPort.settled
  split <;> rfl

/-- An update that commits after such a poll leaves the daemon quiet. -/
theorem Pmd.Holds.quiet (h : d.Holds nameOf (fun y => ∃ t, y.IsA t) (PmPort.Read responses))
    (hworld : I d.world) (hseqno : d.idlSeqno = seqno) (db : Database) :
    ({ idl := idl
       seqno := seqno
       pmd := (pmOvsdbUpdate idl true d db).1
       db := (pmOvsdbUpdate idl true d db).2 } : System σ).Quiet nameOf responses I where
  ports := by
    show (pmOvsdbUpdate idl true d db).1.Holds nameOf (fun y => ∃ t, y.IsA t) fun p =>
      (∃ t, p.Still (responses p.toPortId) t) ∧ p.Rests idl ∧
        (p.unread = true → (idl.interfaceForUuid p.uuid).isSome = true →
          (pmOvsdbUpdate idl true d db).2.Has p)
    refine h.update fun n p hm hread => ?_
    obtain ⟨⟨t, hstill⟩, hmark⟩ := hread
    have hid : (p.settled idl).toPortId = p.toPortId := PmPort.settled_toPortId
    refine ⟨⟨t, hid ▸ hstill.settled⟩, PmPort.rests_settled hmark, fun hunread hrow => ?_⟩
    rw [PmPort.unread_settled] at hunread
    rw [hid] at hrow
    -- its mark was up, so that it is in the transaction
    have hdue : p.Due idl := ⟨hrow, hmark hunread⟩
    unfold Database.Has
    rw [hid, PmPort.pmInfo_settled, h.pmInfo_update hm, if_pos ⟨rfl, hdue⟩]
  world := by
    rw [pmOvsdbUpdate_eq]
    exact hworld
  curHw := by
    rw [curHwSet_update]
    intro hnot
    rw [Bool.or_eq_false_iff] at hnot
    simpa using hnot.2
  seqno := by
    rw [pmOvsdbUpdate_eq]
    exact hseqno

/-- **After a pass with the lock whose update commits the daemon is quiet.** -/
theorem System.Lived.quiet {s : System σ} (hP : P.Steady responses I) (h : s.Lived P nameOf)
    {pass : Pass σ} (hlock : pass.hasLock = true) (hcommit : pass.committed = true)
    (hidl : pass.idl.Named nameOf) (hfiles : YamlFiles.All (fun y => ∃ t, y.IsA t) pass.files)
    (hworld : I (pass.change (pmdReconfigure P pass.idl pass.seqno pass.files s.pmd).world)) :
    (pmdRun P s pass).Quiet nameOf responses I ∧
      (pmdRun P s pass).idl = pass.idl ∧ (pmdRun P s pass).seqno = pass.seqno := by
  have hidlRun := h.step (e := .idlRun pass.idl pass.seqno) hidl
  have hlived := (hidlRun.step (e := .reconfigure pass.files) hfiles).ports
  obtain ⟨hread, hw⟩ := Pmd.Holds.read hP
    (d := { pmdReconfigure P pass.idl pass.seqno pass.files s.pmd with
      world := pass.change (pmdReconfigure P pass.idl pass.seqno pass.files s.pmd).world })
    (hlived.congr rfl rfl) hworld
  have hrun : pmdRun P s pass =
      OpsPmd.step P (OpsPmd.step P (OpsPmd.step P (OpsPmd.step P s (.idlRun pass.idl pass.seqno))
        (.reconfigure pass.files)) (.readState pass.change)) (.update true) := by
    unfold pmdRun
    dsimp only
    rw [if_neg (by simp [hlock]), hcommit]
  rw [hrun]
  refine ⟨hread.quiet hw ?_ s.db, rfl, rfl⟩
  exact idlSeqno_reconfigure pass.files

end Quiet

/--
**Where nothing happens the daemon changes nothing.** Once a pass with the lock has committed, and
as long as the rows stay and the modules give the same responses, later passes leave all ports and
the whole database, whether they have the lock and whether their updates commit. A transaction of
theirs only repeats the rows of the modules that cannot be read.
-/
theorem quiescent (hidl : idl.Named nameOf) {files : Subsystem → YamlFiles}
    (hfiles : YamlFiles.All (fun y => ∃ t, y.IsA t) files) (seqno : Nat) (world : σ)
    (db : Database) {es : List (Event σ)} (hes : ∀ e ∈ es, e.Known nameOf)
    {responses : PortId → Responses} (hP : P.Steady responses I) (first : Pass σ)
    (hlock : first.hasLock = true) (hcommit : first.committed = true)
    (hfirst : first.idl.Named nameOf) (hfirst' : YamlFiles.All (fun y => ∃ t, y.IsA t) first.files)
    (hworld : I (first.change (pmdReconfigure P first.idl first.seqno first.files
      (Run.exec (step P) (initial P idl seqno files world db) es).pmd).world))
    {passes : List (Pass σ)} (hpasses : ∀ pass ∈ passes, pass.Uneventful I first.idl first.seqno) :
    let s := pmdRun P (Run.exec (step P) (initial P idl seqno files world db) es) first
    ∃ w, I w ∧ Run.exec (pmdRun P) s passes = { s with pmd := { s.pmd with world := w } } ∧
      ∀ change : σ → σ, (∀ s, I s → I (change s)) →
        (pmReadState P { s.pmd with world := change w }).writes first.idl =
          s.pmd.ovsIntfs.flatMap fun node => node.2.redundant first.idl s.db := by
  intro s
  have hlived := (System.Lived.initial (P := P) hidl hfiles seqno world db).exec hes
  obtain ⟨hquiet, hidl', hseqno'⟩ := hlived.quiet hP hlock hcommit hfirst hfirst' hworld
  rw [← hidl', ← hseqno'] at hpasses
  obtain ⟨w, hw, hrun⟩ := hquiet.exec hP hpasses
  refine ⟨w, hw, hrun, fun change hchange => ?_⟩
  have hlater := hquiet.of_world hw
  obtain ⟨w', -, hread⟩ := hlater.readState hP hchange
  have hwrites := hlater.writes w'
  rw [← hread] at hwrites
  rw [← hidl']
  exact hwrites

/-- What a simulated port gives that has this in it. -/
def simResponses (moduleData : Option Page) : Responses where
  found := moduleData.isSome
  a0 := moduleData
  a2 := none

/-- Simulated modules that stay in their ports. -/
theorem steady_simulation (moduleData : Option Page) :
    simulation.Steady (fun _ => simResponses moduleData)
      fun data => data.moduleData = moduleData := by
  intro port t _
  constructor
  · intro data hdata
    exact ⟨congrArg Option.isSome hdata, hdata⟩
  · intro data hdata
    exact ⟨hdata, hdata⟩
  · intro data hdata
    exact ⟨rfl, hdata⟩
  · intro data hdata
    exact hdata

/-- A module is put into the one port, and stays there. -/
theorem quiescent_onePort :
    let insert : SimData → SimData := fun data => { data with moduleData := some srPage }
    let pass : Pass SimData := ⟨onePortIdl, 0, true, onePortFiles, insert, true⟩
    let s := pmdRun simulation (initial simulation onePortIdl 0 onePortFiles {} emptyDatabase) pass
    ∃ data : SimData, data.moduleData = some srPage ∧
      Run.exec (pmdRun simulation) s [pass, { pass with committed := false }] =
        { s with pmd := { s.pmd with world := data } } := by
  intro insert pass s
  have hinsert : ∀ data, (insert data).moduleData = some srPage := fun _ => rfl
  have hpasses : ∀ later ∈ [pass, { pass with committed := false }],
      later.Uneventful (fun data => data.moduleData = some srPage) pass.idl pass.seqno := by
    intro later hm
    rcases List.mem_pair.mp hm with rfl | rfl <;> exact ⟨rfl, rfl, fun data _ => hinsert data⟩
  have hes : ∀ e ∈ ([] : List (Event SimData)), e.Known fun _ => "1" := by simp
  have hs : pmdRun simulation (initial simulation onePortIdl 0 onePortFiles {} emptyDatabase)
      pass = s := rfl
  obtain ⟨data, hdata, hrun, -⟩ := quiescent named_onePortIdl known_onePortFiles 0 {}
    emptyDatabase hes (steady_simulation (some srPage)) pass rfl rfl named_onePortIdl
    known_onePortFiles (hinsert _) hpasses
  rw [Run.exec_nil, hs] at hrun
  exact ⟨data, hdata, hrun⟩

end OpsPmd
