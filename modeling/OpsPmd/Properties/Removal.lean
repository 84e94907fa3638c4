import OpsPmd.PortInvariant

/-!
# What a removal leaves behind

`pm_delete_all_data` clears the identification columns and not the diagnostic ones, so a removal
resets a port exactly when no module since the port's creation asked for its diagnostics page.

* `Twin` — ports that no later poll can tell apart
* `publications_congr` — twins publish the same maps from the same world
* `pmInfo_absent_iff` — the map of an absent port has two keys where no diagnostic column is set
-/

namespace OpsPmd

open PmInfo

variable {σ : Type} {P : Platform σ} {t : ModuleType}

/-! ## Ports that behave alike -/

/-- Two ports that differ at most in what does not matter to the columns of any later poll. -/
structure Twin (p q : PmPort) : Prop where
  toPortId : q.toPortId = p.toPortId
  cells : q.cells = p.cells
  present : q.present = p.present
  a2ReadRequested : q.a2ReadRequested = p.a2ReadRequested
  /-- `retry` is looked at while a module is present only. -/
  retry : p.present = true → q.retry = p.retry

namespace Twin

variable {p q : PmPort}

theorem eq_update (h : Twin p q) :
    q =
      { p with
        retry := q.retry
        optical := q.optical
        hwEnable := q.hwEnable
        hwEnableSubport := q.hwEnableSubport
        split := q.split } := by
  obtain ⟨hid, hcells, hpresent, hreq, -⟩ := h
  cases p
  cases q
  simp only at hid hcells hpresent hreq
  subst hid hcells hpresent hreq
  rfl

theorem needsRead (h : Twin p q) : p.NeedsRead ↔ q.NeedsRead := by
  unfold PmPort.NeedsRead
  rw [h.present]
  by_cases hp : p.present = true
  · rw [h.retry hp]
  · simp [hp]

theorem settleAbsent (h : Twin p q) : Twin p.settleAbsent q.settleAbsent := by
  have hinfo : q.info .connector = p.info .connector := by rw [PmPort.info, h.cells, PmPort.info]
  unfold PmPort.settleAbsent
  rw [h.present, hinfo]
  split
  · rw [h.eq_update]
    simp only [PmPort.absent, PmPort.cells_pmDeleteAllData]
    exact ⟨rfl, rfl, rfl, rfl, fun hp => by cases hp⟩
  · exact h

theorem unreadable (h : Twin p q) : Twin p.unreadable q.unreadable := by
  rw [h.eq_update]
  simp only [PmPort.unreadable, PmPort.cells_pmDeleteAllData]
  exact ⟨rfl, rfl, rfl, rfl, fun _ => rfl⟩

theorem identified (h : Twin p q) (hd : p.moduleDevice.IsA t) (a0 : Page) :
    Twin (p.identified a0) (q.identified a0) := by
  have hd' : q.moduleDevice.IsA t := by rw [h.toPortId]; exact hd
  unfold PmPort.identified
  rw [pmParse_eq hd, pmParse_eq hd', h.eq_update]
  unfold PmPort.setModule
  cases (t.classify a0).cable <;> exact ⟨rfl, rfl, rfl, rfl, fun _ => rfl⟩

theorem pmSetA2 (h : Twin p q) (hd : p.moduleDevice.IsA t) (a2 : Page) :
    Twin (pmSetA2 p a2) (pmSetA2 q a2) := by
  have hd' : q.moduleDevice.IsA t := by rw [h.toPortId]; exact hd
  rw [pmSetA2_eq hd, pmSetA2_eq hd', h.eq_update]
  exact ⟨rfl, rfl, rfl, rfl, h.retry⟩

/-- Twins stay twins. -/
theorem observe (h : Twin p q) (hd : p.moduleDevice.IsA t) (o : Observation) :
    Twin (p.observe o) (q.observe o) := by
  match o with
  | .absent => exact h.settleAbsent
  | .held => exact h
  | .unreadable => exact h.unreadable
  | .identified a0 none => exact h.identified hd a0
  | .identified a0 (some a2) =>
    exact (h.identified hd a0).pmSetA2 (PmPort.isA_identified hd a0) a2

end Twin

/-! ## Published maps -/

/-- What `pm_ovsdb_update` publishes after each of a sequence of polls. -/
def publications (P : Platform σ) : Slot σ → List (σ → σ) → List (Option Smap)
  | _, [] => []
  | slot, change :: rest =>
    let slot := portStep P slot (.poll change)
    (if slot.port.moduleInfoChanged then some slot.port.pmInfo else none) ::
      publications P (portStep P slot .publish) rest

theorem publications_congr : ∀ (changes : List (σ → σ)) {a b : Slot σ},
    a.port.Inv t → b.port.Inv t → Twin a.port b.port → a.world = b.world →
      publications P a changes = publications P b changes
  | [], _, _, _, _, _, _ => rfl
  | change :: rest, a, b, ha, hb, htwin, hworld => by
    have hobs := observation_congr (P := P) (t := t) htwin.toPortId.symm htwin.needsRead
      (change a.world)
    have htwin' := htwin.observe ha.device (observation P t a.port (change a.world)).1
    have hpost := inv_portStep (P := P) ha (.poll change)
    have hpost' := inv_portStep (P := P) hb (.poll change)
    simp only [publications]
    rw [portStep_poll ha] at hpost ⊢
    rw [portStep_poll hb, ← hworld, ← hobs] at hpost' ⊢
    have hinfo := PmPort.pmInfo_congr (fun c => by rw [htwin'.cells] :
      ∀ c, _ = (PmPort.observe a.port (observation P t a.port (change a.world)).1).cells.get c)
    rw [PmPort.moduleInfoChanged, PmPort.moduleInfoChanged, htwin'.cells, hinfo]
    congr 1
    refine publications_congr rest hpost.settle hpost'.settle ?_ rfl
    exact ⟨htwin'.toPortId, congrArg Cells.settle htwin'.cells, htwin'.present,
      htwin'.a2ReadRequested, htwin'.retry⟩

/-! ## The map of an absent port -/

/-- The two keys of a port without a module. -/
def absentInfo : Smap :=
  [("connector", CONNECTOR_ABSENT), ("connector_status", CONNECTOR_STATUS_UNRECOGNIZED)]

/-- A port with the columns of an absent one and nothing else. -/
def emptyPort : PmPort where
  instanceName := "1"
  uuid := 0
  moduleDevice := ModuleType.sfpPlus.device
  subsystem := "base"
  cells :=
    { get := fun
        | .info c => noModule CONNECTOR_ABSENT c
        | .dom _ => none
      changed := true }

theorem pmInfo_emptyPort : emptyPort.pmInfo = absentInfo := by decide +kernel

theorem pmInfo_absent_iff {port : PmPort} (h : port.Inv t)
    (hi : ∀ c, port.info c = noModule CONNECTOR_ABSENT c) :
    port.pmInfo = absentInfo ↔ ∀ d, port.dom d = none := by
  constructor
  · intro hmap
    rcases h.domWhole with hall | hnone
    · -- the temperature is among the columns of every kind
      have htemp : Quantity.temperature.current ∈ t.domColumns := by cases t <;> decide
      have hfind := h.paired.find_pmInfo (c := .dom Quantity.temperature.current)
        (mem_publishedColumns.mpr ⟨by simp, by simp, by simp⟩)
      rw [hmap] at hfind
      have hsome := hall _ htemp
      rw [PmPort.dom, ← hfind] at hsome
      exact absurd hsome (by decide)
    · exact hnone
  · intro hdom
    rw [← pmInfo_emptyPort]
    refine PmPort.pmInfo_congr fun c => ?_
    cases c with
    | info c => exact hi c
    | dom d => exact hdom d

/-! ## The condition -/

/-- A poll reads no serial ID page that asks for the diagnostics page. -/
def NoDiagnostics (P : Platform σ) (t : ModuleType) (slot : Slot σ) (e : PortEvent σ) : Prop :=
  ∀ change a0 a2, e = .poll change →
    (observation P t slot.port (change slot.world)).1 = .identified a0 a2 →
      t.requestsA2 a0 = false

/-- A step keeps the diagnostic columns empty exactly where it meets the condition. -/
theorem dom_portStep_iff {slot : Slot σ} (h : slot.port.Inv t) (hd : ∀ d, slot.port.dom d = none)
    (e : PortEvent σ) :
    (∀ d, (portStep P slot e).port.dom d = none) ↔ NoDiagnostics P t slot e := by
  cases e with
  | publish => exact iff_of_true hd fun _ _ _ he => by cases he
  | modify intf =>
    refine iff_of_true (fun d => ?_) fun _ _ _ he => by cases he
    simp only [portStep, ovsdbIfIntfModify]
    split <;> exact hd d
  | poll change =>
    rw [portStep_poll h]
    have hposs : Possible t slot.port (observation P t slot.port (change slot.world)).1 :=
      observation_possible _
    constructor
    · intro hnone change' a0 a2 he ho
      obtain rfl := PortEvent.poll.inj he
      rw [ho] at hposs hnone
      cases a2 with
      | none => simpa using hposs.2.2.symm
      | some a2 =>
        have hdev := PmPort.isA_identified h.device a0
        have htemp : Quantity.temperature.current ∈ t.domColumns := by cases t <;> decide
        have hsome := dom_pmSetA2_isSome hdev a2 htemp
        -- a decoded page sets the temperature, whatever the page says
        have hempty : (pmSetA2 (slot.port.identified a0) a2).dom Quantity.temperature.current =
            none := hnone _
        rw [hempty] at hsome
        cases hsome
    · intro hcond d
      refine (PmPort.dom_observe h.device fun a0 a2 ho => ?_).trans (hd d)
      rw [ho] at hposs
      have hreq := hposs.2.2
      rw [hcond change a0 (some a2) rfl ho] at hreq
      cases hreq

/-- A poll leaves a diagnostic column set, if it was. -/
theorem PmPort.dom_observe_isSome {port : PmPort} (h : port.moduleDevice.IsA t) (o : Observation)
    {d : DomColumn} (hd : d ∈ t.domColumns) (hset : (port.dom d).isSome) :
    ((port.observe o).dom d).isSome := by
  by_cases hdecode : ∃ a0 a2, o = .identified a0 (some a2)
  · obtain ⟨a0, a2, rfl⟩ := hdecode
    exact dom_pmSetA2_isSome (isA_identified h a0) a2 hd
  · rw [dom_observe h fun a0 a2 ho => absurd ⟨a0, a2, ho⟩ hdecode]
    exact hset

/-- Once set, the diagnostic columns are never all empty again. -/
theorem dom_portStep_of_set {slot : Slot σ} (h : slot.port.Inv t)
    (hd : ¬∀ d, slot.port.dom d = none) (e : PortEvent σ) :
    ¬∀ d, (portStep P slot e).port.dom d = none := by
  have hall : ∀ d ∈ t.domColumns, (slot.port.dom d).isSome := h.domWhole.resolve_right hd
  have htemp : Quantity.temperature.current ∈ t.domColumns := by cases t <;> decide
  have hsome : ((portStep P slot e).port.dom Quantity.temperature.current).isSome := by
    cases e with
    | publish => exact hall _ htemp
    | modify intf =>
      simp only [portStep, ovsdbIfIntfModify]
      split <;> exact hall _ htemp
    | poll change =>
      rw [portStep_poll h]
      exact PmPort.dom_observe_isSome h.device _ htemp (hall _ htemp)
  intro hnone
  rw [hnone] at hsome
  cases hsome

/-- The diagnostic columns are empty exactly while no module asked for its diagnostics page. -/
theorem dom_exec_iff {intf : Interface} {subName : String} {yamlPort : YamlPort}
    (h : yamlPort.IsA t) (s : σ) (es : List (PortEvent σ)) :
    (∀ d, (Run.exec (portStep P) (newSlot intf subName yamlPort s) es).port.dom d = none) ↔
      Run.Along (portStep P) (NoDiagnostics P t) (newSlot intf subName yamlPort s) es :=
  Run.exec_iff_along (I := fun slot : Slot σ => slot.port.Inv t)
    (D := fun slot : Slot σ => ∀ d, slot.port.dom d = none)
    (fun _ e hi => inv_portStep hi e) (fun _ e hi hd => dom_portStep_iff hi hd e)
    (fun _ e hi hd => dom_portStep_of_set hi hd e) (PmPort.inv_newPort intf subName h)
    fun _ => rfl

/-! ## Removal -/

/-- A poll that finds a port with a module, or a blank one, empty leaves the absent columns. -/
theorem info_observe_absent {port : PmPort} (h : port.Inv t) {o : Observation}
    (ho : Possible t port o) (hmove : ¬port.HasShape .absent)
    (habs : (port.observe o).present = false) :
    port.observe o = port.absent := by
  -- either way the branch of the absent module is taken
  have hblank : port.Blank ∨ port.present = true := by
    rcases h.shape with hb | ⟨k, hk⟩
    · exact Or.inl hb
    · cases k with
      | absent => exact absurd hk hmove
      | unreadable | unrecognized | recognized => exact Or.inr hk.1
  match o, ho with
  | .absent, _ =>
    show port.settleAbsent = _
    unfold PmPort.settleAbsent
    rw [if_pos]
    rcases hblank with hb | hp
    · simp [hb.2]
    · simp [hp]
  | .held, hheld =>
    have hp : port.present = true := (not_not.mp hheld).1
    exact absurd (habs.symm.trans hp) (by decide)
  | .unreadable, _ =>
    rw [show port.observe .unreadable = port.unreadable from rfl, PmPort.unreadable_frame] at habs
    cases habs
  | .identified a0 a2, _ =>
    have hp := (PmPort.flags_identified h.device a0 a2).1
    exact absurd (habs.symm.trans hp) (by decide)

/-- Two ports that just became absent are twins if no diagnostic column is set in either. -/
theorem twin_absent {p q : PmPort} (hid : q.toPortId = p.toPortId) (hp : p.Ready) (hq : q.Ready)
    (hdp : ∀ d, p.dom d = none) (hdq : ∀ d, q.dom d = none) : Twin p.absent q.absent where
  toPortId := by
    rw [PmPort.sameSetup_absent.toPortId, PmPort.sameSetup_absent.toPortId]
    exact hid
  cells := by
    refine Cells.ext (funext fun c => ?_)
      (PmPort.changed_absent.trans PmPort.changed_absent.symm)
    cases c with
    | info c => exact (PmPort.info_absent c).trans (PmPort.info_absent c).symm
    | dom d =>
      have hp' : p.absent.dom d = none := (PmPort.dom_absent d).trans (hdp d)
      have hq' : q.absent.dom d = none := (PmPort.dom_absent d).trans (hdq d)
      exact hq'.trans hp'.symm
  present := PmPort.present_absent.trans PmPort.present_absent.symm
  a2ReadRequested := by
    rw [PmPort.sameSetup_absent.a2ReadRequested, PmPort.sameSetup_absent.a2ReadRequested]
    exact Eq.trans (hq : q.a2ReadRequested = false) (hp : p.a2ReadRequested = false).symm
  retry := fun h => absurd (h.symm.trans PmPort.present_absent) (by decide)

theorem Twin.publish {a b : Slot σ} (h : Twin a.port b.port) :
    Twin (portStep P a .publish).port (portStep P b .publish).port where
  toPortId := h.toPortId
  cells := congrArg Cells.settle h.cells
  present := h.present
  a2ReadRequested := h.a2ReadRequested
  retry := h.retry

/--
The map published at the removal has the two keys of an absent port, and from then on the port
publishes what a fresh port in its place does.
-/
def IsReset (P : Platform σ) (removed fresh : Slot σ) : Prop :=
  removed.port.pmInfo = absentInfo ∧
    ∀ changes, publications P (portStep P removed .publish) changes =
      publications P (portStep P fresh .publish) changes

/--
**A removal resets a port if and only if no module since its creation asked for its diagnostics
page.** The fresh port was first polled absent, and then sees the same stream.
-/
theorem isReset_iff (P : Platform σ) {yamlPort : YamlPort} (h : yamlPort.IsA t)
    (intf : Interface) (subName : String) (s s₀ : σ) (es : List (PortEvent σ)) (change : σ → σ)
    (hmove : ¬(Run.exec (portStep P) (newSlot intf subName yamlPort s) es).port.HasShape .absent)
    (habs : (portStep P (Run.exec (portStep P) (newSlot intf subName yamlPort s) es)
      (.poll change)).port.present = false)
    (hfresh : (pmReadModuleState P (newPort intf subName yamlPort) s₀).2.1.present = false) :
    let removed := portStep P (Run.exec (portStep P) (newSlot intf subName yamlPort s) es)
      (.poll change)
    IsReset P removed
        { port := (pmReadModuleState P (newPort intf subName yamlPort) s₀).2.1
          world := removed.world } ↔
      Run.Along (portStep P) (NoDiagnostics P t) (newSlot intf subName yamlPort s) es := by
  have hinv := inv_exec (P := P) h intf subName s es
  have hnew := PmPort.inv_newPort intf subName h
  have hid := toPortId_exec (P := P) h intf subName s es
  rw [← dom_exec_iff h]
  generalize Run.exec (portStep P) (newSlot intf subName yamlPort s) es = slot at *
  -- both polls run the statements for a module that is not there
  have hpost := inv_portStep (P := P) hinv (.poll change)
  rw [portStep_poll hinv] at habs hpost ⊢
  have hrem := info_observe_absent hinv (observation_possible _) hmove habs
  have hpoll := pmReadModuleState_eq (P := P) hnew.device hnew.ready s₀
  rw [hpoll] at hfresh ⊢
  have hfre := info_observe_absent hnew (observation_possible _)
    (fun hs => by cases hs.2.1) hfresh
  simp only [hrem, hfre] at hpost ⊢
  have hmap := pmInfo_absent_iff hpost PmPort.info_absent
  constructor
  · rintro ⟨ha, -⟩ d
    exact (PmPort.dom_absent d).symm.trans (hmap.mp ha d)
  · intro hdom
    refine ⟨hmap.mpr fun d => (PmPort.dom_absent d).trans (hdom d), fun changes => ?_⟩
    have hpost' : (newPort intf subName yamlPort).absent.Inv t :=
      hfre ▸ hnew.observe (observation_possible s₀)
    have htwin := twin_absent hid.symm hinv.ready hnew.ready hdom fun _ => rfl
    exact publications_congr changes hpost.settle hpost'.settle
      (Twin.publish (P := P) (a := ⟨slot.port.absent, _⟩)
        (b := ⟨(newPort intf subName yamlPort).absent, _⟩) htwin) rfl

/-- An SFP+ port that starts with these answers of the bus. -/
def sfpSlot (answers : List I2cAnswer) : Slot Bus :=
  newSlot ⟨0, "1", []⟩ "base" ModuleType.sfpPlus.device (Bus.ofList answers)

/-- The port after a first poll. -/
def polledSfp (answers : List I2cAnswer) : Slot Bus :=
  Run.exec (portStep hardware) (sfpSlot answers) [.poll id]

/-- A module is read that does not ask for its diagnostics page, and then removed. -/
theorem isReset_plain_module :
    let answers := [presenceAnswer true, pageAnswer fun _ => 0, presenceAnswer false]
    let removed := portStep hardware (polledSfp answers) (.poll id)
    IsReset hardware removed
        { port := (pmReadModuleState hardware (newPort ⟨0, "1", []⟩ "base" ModuleType.sfpPlus.device)
            (Bus.ofList [presenceAnswer false])).2.1
          world := removed.world } ↔
      Run.Along (portStep hardware) (NoDiagnostics hardware .sfpPlus) (sfpSlot answers)
        [.poll id] :=
  isReset_iff hardware (ModuleType.isA_device .sfpPlus) ⟨0, "1", []⟩ "base" _ _ [.poll id] id
    (fun hs => absurd hs.1 (by decide +kernel)) (by decide +kernel) (by decide +kernel)

/-- A module with diagnostics is read and removed: its diagnostics are still published. -/
theorem diagnostics_survive_removal :
    let answers := [presenceAnswer true, pageAnswer srPage, pageAnswer fun _ => 0,
      presenceAnswer false]
    (polledSfp answers).port.present = true ∧
      (portStep hardware (polledSfp answers) (.poll id)).port.present = false ∧
      (portStep hardware (polledSfp answers) (.poll id)).port.pmInfo ≠ absentInfo := by
  decide +kernel

end OpsPmd
