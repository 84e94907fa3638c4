import OpsPmd.Bay
import OpsPmd.Properties.Dump
import OpsPmd.Properties.Identity
import OpsPmd.Properties.Quiescence

/-!
# What a restart of the daemon changes

A poll looks at a port as the polls before left it. Where the daemon noticed every change of
modules, though, the identification columns say nothing of the past: they are those of the module
that stands in the port, and a daemon that is started anew comes to the same.

* `Responses.ident` — what a module is taken for
* `PmPort.Inv.info_poll` — the identification columns after a poll
* `restart_invisible` — two daemons that see the same modules publish and dump the same of them
-/

namespace OpsPmd

open PmInfo

variable {σ : Type} {P : Platform σ} {t : ModuleType} {port : PmPort} {idl : Idl} {r : Responses}
  {I : σ → Prop} {s : σ} {nameOf : Uuid → String}

/-! ## The page a port was read from -/

/-- A port that need not be read has the columns of a page with good checksums. -/
def PmPort.Backed (t : ModuleType) (port : PmPort) : Prop :=
  ¬port.NeedsRead → ∃ a0, sfppSumVerify a0 = 0 ∧ port.Identifies t a0

theorem PmPort.Inv.backed_observe (h : port.Inv t) (hb : port.Backed t) {o : Observation}
    (ho : Possible t port o) : (port.observe o).Backed t := by
  intro hheld
  match o, ho with
  | .absent, _ =>
    refine absurd (fun hp => ?_) hheld
    rw [show (port.observe .absent).present = false from h.hasShape_settleAbsent.1] at hp
    cases hp.1
  | .held, _ => exact hb hheld
  | .unreadable, _ =>
    refine absurd (fun hp => ?_) hheld
    rw [show (port.observe .unreadable).retry = true from hasShape_unreadable.2.1] at hp
    cases hp.2
  | .identified a0 a2, hid => exact ⟨a0, hid.2.1, h.identifies_observe a0 a2⟩

theorem PmPort.Lived.backed (h : port.Lived P) : ∃ t, port.Inv t ∧ port.Backed t := by
  obtain ⟨t, intf, subName, y, s, es, hy, rfl⟩ := h
  refine ⟨t, Run.exec_inductive
    (I := fun slot : Slot σ => slot.port.Inv t ∧ slot.port.Backed t)
    (fun slot e hi => ⟨inv_portStep hi.1 e, ?_⟩) es (s := newSlot intf subName y s)
    ⟨PmPort.inv_newPort intf subName hy, fun hheld => absurd (fun hp => by cases hp.1) hheld⟩⟩
  cases e with
  | poll change =>
    rw [portStep_poll hi.1]
    exact hi.1.backed_observe hi.2 (observation_possible _)
  | publish => exact hi.2
  | modify intf' =>
    simp only [portStep, Pmd.Holds.port_ovsdbIfIntfModify]
    exact hi.2

/-! ## What a module is taken for -/

/-- What a module that gives these responses is taken for. -/
def Responses.ident (r : Responses) : Ident :=
  match r.found, r.a0 with
  | false, _ => .empty
  | true, none => .unreadable
  | true, some a0 => if sfppSumVerify a0 = 0 then .known a0 else .unreadable

theorem Responses.ident_of_not_found (h : r.found = false) : r.ident = .empty := by
  unfold ident
  rw [h]

theorem Responses.ident_of_good {a0 : Page} (h : r.found = true) (ha0 : r.a0 = some a0)
    (hsum : sfppSumVerify a0 = 0) : r.ident = .known a0 := by
  unfold ident
  rw [h, ha0]
  exact if_pos hsum

theorem Responses.ident_of_bad (h : r.found = true) (hbad : ¬GoodRead r.a0) :
    r.ident = .unreadable := by
  unfold ident
  rw [h]
  cases ha0 : r.a0 with
  | none => rfl
  | some a0 => exact if_neg fun hsum => hbad ⟨a0, ha0, hsum⟩

/-- The module, if there is one, is one that the port has to read, or has read before. -/
def PmPort.Notices (r : Responses) (port : PmPort) : Prop :=
  r.found = true → port.NeedsRead ∨
    ∃ a0, r.a0 = some a0 ∧ port.info .a0 = some (hexToAscii a0.toList)

/-- Only the page the module gives is parsed. -/
theorem Responds.page_of_observation (h : Responds P port.toPortId t.serialIdOffset r I) (hI : I s)
    {a0 : Page} {a2 : Option Page} (ho : (observation P t port s).1 = .identified a0 a2) :
    r.a0 = some a0 := by
  have hround : ∀ s, I s → I (attempt P port t.serialIdOffset s).2 ∧
      ∀ a0, (attempt P port t.serialIdOffset s).1 = some (.page a0) → r.a0 = some a0 := by
    intro s hs
    refine ⟨attempt_invariant (fun s hs => (h.getPresence s hs).2)
      (fun s hs => (h.readA0 s hs).2) hs, fun a0 hpage => ?_⟩
    obtain ⟨-, hs₁⟩ := h.getPresence s hs
    obtain ⟨hread, -⟩ := h.readA0 _ hs₁
    unfold attempt at hpage
    obtain ⟨found, s₁, hp⟩ : ∃ b s₁, P.getPresence port.toPortId s = (b, s₁) := ⟨_, _, rfl⟩
    rw [hp] at hpage hread
    cases found with
    | false => cases hpage
    | true =>
      obtain ⟨x, s₂, hx⟩ : ∃ x s₂, P.readA0 port.toPortId t.serialIdOffset s₁ = (x, s₂) :=
        ⟨_, _, rfl⟩
      rw [hx] at hread
      obtain rfl : x = r.a0 := hread
      simp only [hx] at hpage
      split_ifs at hpage with hheld
      · cases hpage
      · cases ha0 : r.a0 with
        | none => rw [ha0] at hpage; cases hpage
        | some page =>
          rw [ha0] at hpage
          dsimp only at hpage
          split_ifs at hpage
          cases hpage
          rfl
  have hloop := Retry.loop_rule (attempt P port t.serialIdOffset) (P.resetPort port.toPortId)
    (I := I) (F := fun _ => True) (Q := fun i _ => ∀ a0, i = .page a0 → r.a0 = some a0)
    (fun s s' hs hatt => ⟨h.resetPort _ (by simpa [hatt] using (hround s hs).1), trivial⟩)
    (fun s i s' hs hatt a0 hi => (hround s hs).2 a0 (by rw [hatt, hi])) 2 s hI
  unfold observation identify at ho
  obtain ⟨i, n, s', hl⟩ : ∃ i n s', Retry.loop (attempt P port t.serialIdOffset)
      (P.resetPort port.toPortId) 2 s = (i, n, s') := ⟨_, _, _, rfl⟩
  rw [hl] at hloop ho
  match i with
  | none | some .absent | some .held => cases ho
  | some (.page page) =>
    dsimp only at ho
    split_ifs at ho <;> cases ho <;> exact hloop _ rfl

namespace PmPort

/-- **After a poll the identification columns are those of the module.** -/
theorem Inv.info_poll (h : port.Inv t) (hb : port.Backed t)
    (hresp : Responds P port.toPortId t.serialIdOffset r I) (hI : I s) (hnotices : port.Notices r)
    {c : InfoColumn} (h0 : c ≠ .a0Uppers) (h2 : c ≠ .a2) :
    (pmReadModuleState P port s).2.1.info c = r.ident.column t c := by
  rw [pmReadModuleState_eq h.device h.ready]
  have hposs : Possible t port (observation P t port s).1 := observation_possible s
  show (port.observe (observation P t port s).1).info c = _
  cases hfound : r.found with
  | false =>
    rw [hresp.observation_of_not_found hI hfound, Responses.ident_of_not_found hfound]
    exact h.hasShape_settleAbsent.info_absent c
  | true =>
    have hne := hresp.observation_ne_absent (t := t) hI hfound
    by_cases hneeds : port.NeedsRead
    · by_cases hgood : GoodRead r.a0
      · -- the page is read and parsed
        have hread : (observation P t port s).1 ≠ .unreadable := fun hun =>
          ((hresp.observation_unreadable_iff hI hneeds).mp hun).2 hgood
        cases ho : (observation P t port s).1 with
        | absent => exact absurd ho hne
        | held => rw [ho] at hposs; exact absurd hneeds hposs
        | unreadable => exact absurd ho hread
        | identified a0 a2 =>
          rw [ho] at hposs
          rw [Responses.ident_of_good hfound (hresp.page_of_observation hI ho) hposs.2.1]
          exact info_observe_identified h.device h.numeric a0 a2 h0 h2
      · rw [(hresp.observation_unreadable_iff hI hneeds).mpr ⟨hfound, hgood⟩,
          Responses.ident_of_bad hfound hgood]
        exact info_unreadable c
    · -- the port is left as it was, with the columns of the same page
      obtain ⟨a0, ha0, hcol⟩ := (hnotices hfound).resolve_left hneeds
      obtain ⟨a0', hsum, hid⟩ := hb hneeds
      obtain rfl : a0' = a0 := ModuleType.identity_a0_injective (t := t)
        ((hid .a0 (by decide) (by decide)).symm.trans hcol)
      rw [Responses.ident_of_good hfound ha0 hsum]
      cases ho : (observation P t port s).1 with
      | absent => exact absurd ho hne
      | held => exact hid c h0 h2
      | unreadable => rw [ho] at hposs; exact absurd hposs hneeds
      | identified a0 a2 => rw [ho] at hposs; exact absurd hposs.1 hneeds

/-- A port that noticed its module goes on noticing it. -/
theorem Inv.notices_poll (h : port.Inv t) (hb : port.Backed t)
    (hresp : Responds P port.toPortId t.serialIdOffset r I) (hI : I s) (hnotices : port.Notices r) :
    (pmReadModuleState P port s).2.1.Notices r := by
  have hinfo := h.info_poll hb hresp hI hnotices (c := .a0) (by decide) (by decide)
  have hbacked : (pmReadModuleState P port s).2.1.Backed t := by
    rw [pmReadModuleState_eq h.device h.ready]
    exact h.backed_observe hb (observation_possible s)
  intro hfound
  by_cases hgood : GoodRead r.a0
  · obtain ⟨a0, ha0, hsum⟩ := hgood
    rw [Responses.ident_of_good hfound ha0 hsum] at hinfo
    exact Or.inr ⟨a0, ha0, hinfo⟩
  · rw [Responses.ident_of_bad hfound hgood] at hinfo
    -- a module that cannot be read leaves no page
    refine Or.inl (by_contra fun hheld => ?_)
    obtain ⟨a0, -, hid⟩ := hbacked hheld
    rw [hid .a0 (by decide) (by decide)] at hinfo
    cases hinfo

theorem Notices.settled (h : port.Notices r) : (port.settled idl).Notices r := by
  unfold PmPort.settled
  split <;> exact h

end PmPort

/-- The entries of a map that say what a port is taken for. -/
def Ident.dumped (t : ModuleType) (i : Ident) : Smap :=
  dumpedColumns.filterMap fun c => (i.column t c).map fun value => (c.name, value)

theorem PmPort.Inv.dumped_poll (h : port.Inv t) (hb : port.Backed t)
    (hresp : Responds P port.toPortId t.serialIdOffset r I) (hI : I s)
    (hnotices : port.Notices r) :
    (pmReadModuleState P port s).2.1.dumped = r.ident.dumped t := by
  refine List.filterMap_congr fun c hc => ?_
  have h0 : c ≠ .a0Uppers := fun he => absurd (he ▸ hc) (by decide)
  have h2 : c ≠ .a2 := fun he => absurd (he ▸ hc) (by decide)
  rw [h.info_poll hb hresp hI hnotices h0 h2]

/-! ## A pass of the daemon -/

/-- A poll of all ports, and an update that commits. -/
def pollAndUpdate (change : σ → σ) : List (Event σ) := [.readState change, .update true]

section Pass

variable {responses : PortId → Responses} {s : System σ} {n : String}

/-- A poll of all ports polls each in some world of the invariant. -/
theorem mem_pmReadState (hP : P.Steady responses I) {d : Pmd σ}
    (h : d.Holds nameOf (fun y => ∃ t, y.IsA t) (PmPort.Lived P)) (hworld : I d.world)
    (hm : (n, port) ∈ d.ovsIntfs) :
    ∃ w, I w ∧ (n, (pmReadModuleState P port w).2.1) ∈ (pmReadState P d).ovsIntfs := by
  obtain ⟨w, hpolled⟩ := Shash.mem_mapAccum_of_mem
    (f := fun port s => (pmReadModuleState P port s).2) (s := d.world) hm
  obtain ⟨p, w', hp, hw', heq⟩ := Shash.mem_mapAccum_of_invariant (h.world_poll hP) hworld hpolled
  have hsame : p = port :=
    Option.some.inj ((h.unique.find_of_mem hp).symm.trans (h.unique.find_of_mem hm))
  rw [heq, hsame] at hpolled
  exact ⟨w', hw', hpolled⟩

/-- The database plays no part in the start. -/
theorem pmd_initial (idl : Idl) (seqno : Nat) (files : Subsystem → YamlFiles) (world : σ)
    (db db' : Database) :
    (initial P idl seqno files world db).pmd = (initial P idl seqno files world db').pmd := rfl

theorem idl_pollAndUpdate (change : σ → σ) :
    (Run.exec (step P) s (pollAndUpdate change)).idl = s.idl := rfl

/-- A pass brings in no port. -/
theorem mem_of_pollAndUpdate {change : σ → σ}
    (hm : (n, port) ∈ (Run.exec (step P) s (pollAndUpdate change)).pmd.ovsIntfs) :
    ∃ p, (n, p) ∈ s.pmd.ovsIntfs ∧ p.toPortId = port.toPortId := by
  have hupdate : (n, port) ∈ (pmOvsdbUpdate s.idl true
      (pmReadState P { s.pmd with world := change s.pmd.world }) s.db).1.ovsIntfs := hm
  obtain ⟨q, hq, rfl⟩ := mem_ovsIntfs_update.mp hupdate
  obtain ⟨p, w, hp, rfl⟩ := Shash.mem_mapAccum hq
  exact ⟨p, hp, (toPortId_pmReadModuleState p w).symm.trans PmPort.settled_toPortId.symm⟩

/-- **After a pass that commits, row and port tell of the module and of nothing else.** -/
theorem System.Sound.dumped_after (h : s.Sound nameOf Tracked) (hlived : s.Lived P nameOf)
    (hP : P.Steady responses I) {change : σ → σ} (hworld : I (change s.pmd.world))
    (hm : (n, port) ∈ s.pmd.ovsIntfs) (hrow : (s.idl.interfaceForUuid port.uuid).isSome = true)
    (hnotices : port.Notices (responses port.toPortId)) :
    let after := Run.exec (step P) s (pollAndUpdate change)
    ∃ t, port.moduleDevice.IsA t ∧
      (after.db.pmInfo port.uuid).dumped = (responses port.toPortId).ident.dumped t ∧
      pmdUnixctlDump after.pmd.ovsIntfs ["ops-pmd/dump", "interface", n] =
        .ok (blockText (n, (responses port.toPortId).ident.dumped t)) := by
  intro after
  obtain ⟨t, hinv, hbacked⟩ := (hlived.ports.port n port hm).backed
  have hholds : ({ s.pmd with world := change s.pmd.world } : Pmd σ).Holds nameOf
      (fun y => ∃ t, y.IsA t) (PmPort.Lived P) := hlived.ports.congr rfl rfl
  obtain ⟨w, hw, hpolled⟩ := mem_pmReadState hP hholds hworld hm
  have hresp := hP port.toPortId t hinv.device
  have hdumped := hinv.dumped_poll hbacked hresp hw hnotices
  have hid : (pmReadModuleState P port w).2.1.toPortId = port.toPortId :=
    toPortId_pmReadModuleState port w
  generalize (pmReadModuleState P port w).2.1 = p at hpolled hdumped hid
  have huuid : p.uuid = port.uuid := congrArg PortId.uuid hid
  -- the poll left a mark, or the row as it should be
  have hread := h.readState (P := P) change
  have hafter : after.Sound nameOf Polled := ⟨hread.idl, hread.ports.update_polled⟩
  have hsettled : (n, p.settled s.idl) ∈ after.pmd.ovsIntfs := by
    show (n, p.settled s.idl) ∈ (pmOvsdbUpdate s.idl true
      (pmReadState P { s.pmd with world := change s.pmd.world }) s.db).1.ovsIntfs
    exact mem_ovsIntfs_update.mpr ⟨p, hpolled, rfl⟩
  have hid' : (p.settled s.idl).toPortId = p.toPortId := PmPort.settled_toPortId
  have hinfo : (p.settled s.idl).dumped = p.dumped := by
    refine List.filterMap_congr fun c _ => ?_
    rw [PmPort.info_settled]
  obtain ⟨⟨t', hinv'⟩, -, hmarked⟩ := hafter.ports.port n _ hsettled
  have hdown : (p.settled s.idl).moduleInfoChanged = false :=
    PmPort.changed_settled (by rw [huuid]; exact hrow)
  have hhas : after.db.Has (p.settled s.idl) := by
    refine hmarked.resolve_left fun hup => ?_
    rw [hdown] at hup
    cases hup
  have hmap : after.db.pmInfo port.uuid = (p.settled s.idl).pmInfo := by
    rw [← hhas, hid', huuid]
  refine ⟨t, hinv.device, ?_, ?_⟩
  · rw [hmap, hinv'.exactMap.dumped, hinfo, hdumped]
  · rw [pmdUnixctlDump_of_find (hafter.ports.unique.find_of_mem hsettled),
      hafter.ports.key n _ hsettled, hinfo, hdumped]

/-- **Two daemons that meet the same modules agree on them**, whatever their histories. -/
theorem dumped_agree {σ' : Type} {P' : Platform σ'} {I' : σ' → Prop} {s' : System σ'}
    {responses' : PortId → Responses} (h : s.Sound nameOf Tracked) (hlived : s.Lived P nameOf)
    (hP : P.Steady responses I) (h' : s'.Sound nameOf Tracked) (hlived' : s'.Lived P' nameOf)
    (hP' : P'.Steady responses' I') {change : σ → σ} (hworld : I (change s.pmd.world))
    {change' : σ' → σ'} (hworld' : I' (change' s'.pmd.world)) {p p' : PmPort}
    (hm : (n, p) ∈ s.pmd.ovsIntfs) (hm' : (n, p') ∈ s'.pmd.ovsIntfs)
    (hid : p'.toPortId = p.toPortId) (hrow : (s.idl.interfaceForUuid p.uuid).isSome = true)
    (hrow' : (s'.idl.interfaceForUuid p.uuid).isSome = true)
    (hnotices : p.Notices (responses p.toPortId)) (hnotices' : p'.Notices (responses' p.toPortId))
    (hsame : (responses' p.toPortId).ident = (responses p.toPortId).ident) :
    let after := Run.exec (step P) s (pollAndUpdate change)
    let after' := Run.exec (step P') s' (pollAndUpdate change')
    (after.db.pmInfo p.uuid).dumped = (after'.db.pmInfo p.uuid).dumped ∧
      pmdUnixctlDump after.pmd.ovsIntfs ["ops-pmd/dump", "interface", n] =
        pmdUnixctlDump after'.pmd.ovsIntfs ["ops-pmd/dump", "interface", n] := by
  intro after after'
  obtain ⟨t, hdev, hmap, hreply⟩ := h.dumped_after hlived hP hworld hm hrow hnotices
  rw [← hid] at hrow' hnotices'
  obtain ⟨t', hdev', hmap', hreply'⟩ := h'.dumped_after hlived' hP' hworld' hm' hrow' hnotices'
  rw [hid] at hdev' hmap' hreply'
  obtain rfl := hdev.unique hdev'
  rw [hsame] at hmap' hreply'
  exact ⟨hmap.trans hmap'.symm, hreply.trans hreply'.symm⟩

end Pass

/--
**A restart of the daemon cannot be seen.** A daemon that has been running, and one that is started
in its place, poll the same modules and commit what they find. Where the first had noticed its
module, both write the same identification entries into a row, and give the same reply to a dump of
its interface.
-/
theorem restart_invisible (P : Platform σ) (nameOf : Uuid → String) (hidl : idl.Named nameOf)
    {files : Subsystem → YamlFiles} (hfiles : YamlFiles.All (fun y => ∃ t, y.IsA t) files)
    (seqno : Nat) (world : σ) (db : Database) {es : List (Event σ)}
    (hes : ∀ e ∈ es, e.Proper nameOf) {responses : PortId → Responses} (hP : P.Steady responses I)
    {files' : Subsystem → YamlFiles} (hfiles' : YamlFiles.All (fun y => ∃ t, y.IsA t) files')
    (seqno' : Nat) (world' : σ) (change change' : σ → σ) :
    let s := Run.exec (step P) (initial P idl seqno files world db) es
    let s' := initial P s.idl seqno' files' world' s.db
    let after := Run.exec (step P) s (pollAndUpdate change)
    let after' := Run.exec (step P) s' (pollAndUpdate change')
    I (change s.pmd.world) → I (change' s'.pmd.world) →
      ∀ n p p', (n, p) ∈ s.pmd.ovsIntfs → (n, p') ∈ s'.pmd.ovsIntfs → p'.toPortId = p.toPortId →
        (s.idl.interfaceForUuid p.uuid).isSome = true → p.Notices (responses p.toPortId) →
          (after.db.pmInfo p.uuid).dumped = (after'.db.pmInfo p.uuid).dumped ∧
            pmdUnixctlDump after.pmd.ovsIntfs ["ops-pmd/dump", "interface", n] =
              pmdUnixctlDump after'.pmd.ovsIntfs ["ops-pmd/dump", "interface", n] := by
  intro s s' after after' hworld hworld' n p p' hm hm' hid hrow hnotices
  have htracked : s.Sound nameOf Tracked :=
    Run.exec_invariant (fun _ _ hs he => hs.step_tracked he)
      (System.Sound.initial hidl hfiles seqno world db) (Run.along_of_forall hes)
  have hlived : s.Lived P nameOf :=
    (System.Lived.initial hidl hfiles seqno world db).exec fun e he => (hes e he).known
  have htracked' : s'.Sound nameOf Tracked :=
    System.Sound.initial hlived.idl hfiles' seqno' world' s.db
  have hlived' : s'.Lived P nameOf := System.Lived.initial hlived.idl hfiles' seqno' world' s.db
  -- the new port was not polled yet, so it notices whatever there is
  have hnew : s'.pmd.Holds nameOf (fun y => ∃ t, y.IsA t) PmPort.NeedsRead :=
    Pmd.Holds.init (fun _ _ _ _ _ hheld => by cases hheld.1) hlived.idl hfiles' seqno' world'
  have hnotices' : p'.Notices (responses p.toPortId) := fun _ => Or.inl (hnew.port n p' hm')
  exact dumped_agree htracked hlived hP htracked' hlived' hP hworld hworld' hm hm' hid hrow hrow
    hnotices hnotices' rfl

/-- The daemon is started anew while a module stands in the one port, which it has read before. -/
theorem restart_invisible_onePort :
    let insert : SimData → SimData := fun data => { data with moduleData := some srPage }
    let s := Run.exec (step simulation)
      (initial simulation onePortIdl 0 onePortFiles {} emptyDatabase) (pollAndUpdate insert)
    let s' := initial simulation s.idl 0 onePortFiles {} s.db
    let after := Run.exec (step simulation) s (pollAndUpdate insert)
    let after' := Run.exec (step simulation) s' (pollAndUpdate insert)
    ∃ p, ("1", p) ∈ s.pmd.ovsIntfs ∧ ¬p.NeedsRead ∧
      (after.db.pmInfo p.uuid).dumped = (after'.db.pmInfo p.uuid).dumped := by
  intro insert s s' after after'
  have hinsert : ∀ data, (insert data).moduleData = some srPage := fun _ => rfl
  have hes : ∀ e ∈ pollAndUpdate insert, e.Proper fun _ => "1" := by
    simp [pollAndUpdate, Event.Proper]
  have hrestart := restart_invisible simulation (fun _ => "1") named_onePortIdl known_onePortFiles 0
    {} emptyDatabase hes (steady_simulation (some srPage)) known_onePortFiles 0 {} insert insert
    (hinsert _) (hinsert _)
  have hs : Run.exec (step simulation) (initial simulation onePortIdl 0 onePortFiles {}
    emptyDatabase) (pollAndUpdate insert) = s := rfl
  have hs' : initial simulation s.idl 0 onePortFiles {} s.db = s' := rfl
  have hafter : Run.exec (step simulation) s (pollAndUpdate insert) = after := rfl
  have hafter' : Run.exec (step simulation) s' (pollAndUpdate insert) = after' := rfl
  rw [hs, hs', hafter, hafter'] at hrestart
  have hfind : (s.pmd.ovsIntfs.find "1").any (fun p => (p.present && !p.retry) &&
      ((s.idl.interfaceForUuid p.uuid).isSome &&
        p.info .a0 == some (hexToAscii srPage.toList))) = true := by decide +kernel
  obtain ⟨p, hp, hall⟩ := (Option.any_eq_true _ _).mp hfind
  simp only [Bool.and_eq_true, Bool.not_eq_true', beq_iff_eq] at hall
  obtain ⟨hheld, hrow, ha0⟩ := hall
  have hm := Shash.mem_of_find hp
  -- the new daemon has the port that the old one started with
  obtain ⟨p₀, hp₀, hid⟩ := mem_of_pollAndUpdate (hs ▸ hm)
  have hidl : s.idl = onePortIdl := by
    rw [← hs, idl_pollAndUpdate]
    rfl
  have hpmd : s'.pmd = (initial simulation onePortIdl 0 onePortFiles {} emptyDatabase).pmd := by
    rw [← hs', hidl]
    exact pmd_initial ..
  rw [← hpmd] at hp₀
  refine ⟨p, hm, fun hneeds => hneeds hheld, ?_⟩
  exact (hrestart "1" p p₀ hm hp₀ hid hrow fun _ => Or.inr ⟨srPage, rfl, ha0⟩).1

end OpsPmd
