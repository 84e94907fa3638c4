import OpsPmd.Poll
import OpsPmd.OvsdbAccess
import OpsPmd.Lib.Run

/-!
# What holds of every port

The columns of a port have one of four shapes after a poll, and its diagnostic columns are either
all null or all those of one decoded page after another. `PmPort.Inv` collects this with the facts
the proofs about a single poll need. A freshly created port has it, and so has every port after a
poll, an update or a change of its configuration.
-/

namespace OpsPmd

open PmInfo

variable {port : PmPort} {t : ModuleType}

/-! ## The columns after each kind of observation -/

/-- The columns of a port that holds no module that could be read. -/
def noModule (connector : String) : InfoColumn → Option String
  | .connector => some connector
  | .connectorStatus => some CONNECTOR_STATUS_UNRECOGNIZED
  | _ => none

namespace PmPort

theorem info_absent (c : InfoColumn) : port.absent.info c = noModule CONNECTOR_ABSENT c := by
  simp only [absent, info_setStaticString, info_pmDeleteAllData]
  cases c <;> rfl

theorem info_unreadable (c : InfoColumn) :
    port.unreadable.info c = noModule CONNECTOR_UNKNOWN c := by
  have hinfo : ({ port.pmDeleteAllData with present := true, retry := true } : PmPort).info =
      port.pmDeleteAllData.info := rfl
  simp only [unreadable, info_setStaticString, hinfo, info_pmDeleteAllData]
  cases c <;> rfl

theorem changed_absent : port.absent.cells.changed = true := Cells.changed_store

theorem changed_unreadable : port.unreadable.cells.changed = true := Cells.changed_store

theorem dom_absent (d : DomColumn) : port.absent.dom d = port.dom d := by
  simp only [absent, dom_setStaticString, dom_pmDeleteAllData]
  rfl

theorem dom_settleAbsent (d : DomColumn) : port.settleAbsent.dom d = port.dom d := by
  unfold settleAbsent
  split
  · exact dom_absent d
  · rfl

theorem dom_unreadable (d : DomColumn) : port.unreadable.dom d = port.dom d := by
  have hdom : ({ port.pmDeleteAllData with present := true, retry := true } : PmPort).dom d =
      port.pmDeleteAllData.dom d := rfl
  simp only [unreadable, dom_setStaticString, hdom, dom_pmDeleteAllData]

theorem dom_identified (h : port.moduleDevice.IsA t) (a0 : Page) (d : DomColumn) :
    (port.identified a0).dom d = port.dom d := dom_pmParse h d

theorem info_identified (h : port.moduleDevice.IsA t) (hn : port.Numeric) (a0 : Page)
    {c : InfoColumn} (h0 : c ≠ .a0Uppers) (h2 : c ≠ .a2) :
    (port.identified a0).info c = t.identity a0 c := info_pmParse h hn.intWritten h0 h2

/-- Neither does the diagnostics page of a module change the other columns. -/
theorem info_observe_identified (h : port.moduleDevice.IsA t) (hn : port.Numeric) (a0 : Page)
    (a2 : Option Page) {c : InfoColumn} (h0 : c ≠ .a0Uppers) (h2 : c ≠ .a2) :
    (port.observe (.identified a0 a2)).info c = t.identity a0 c := by
  cases a2 with
  | none => exact info_identified h hn a0 h0 h2
  | some a2 =>
    refine Eq.trans ?_ (info_identified h hn a0 h0 h2)
    exact (info_pmSetA2 (isA_identified h a0) a2).trans (if_neg h2)

/-- A diagnostic column changes only where a diagnostics page is decoded. -/
theorem dom_observe (h : port.moduleDevice.IsA t) {o : Observation} {d : DomColumn}
    (ho : ∀ a0 a2, o = .identified a0 (some a2) → d ∉ t.domColumns) :
    (port.observe o).dom d = port.dom d := by
  match o with
  | .absent => exact dom_settleAbsent d
  | .held => rfl
  | .unreadable => exact dom_unreadable d
  | .identified a0 none => exact dom_identified h a0 d
  | .identified a0 (some a2) =>
    have hdev := isA_identified h a0
    show (pmSetA2 (port.identified a0) a2).dom d = _
    rw [dom_pmSetA2_of_notMem hdev (ho a0 a2 rfl), dom_identified h]

/-- A poll that changes any column raises the mark. -/
theorem tracks_observe (h : port.moduleDevice.IsA t) (o : Observation) :
    Cells.Tracks port.cells (port.observe o).cells := by
  match o with
  | .absent =>
    show Cells.Tracks port.cells port.settleAbsent.cells
    unfold settleAbsent
    split
    · exact Or.inl rfl
    · exact Cells.Tracks.refl _
  | .held => exact Cells.Tracks.refl _
  | .unreadable => exact Or.inl rfl
  | .identified a0 none => exact Or.inl (changed_pmParse h)
  | .identified a0 (some a2) => exact Or.inl (changed_pmSetA2 (isA_identified h a0) a2)

end PmPort

/-! ## What a page is classified as -/

/-- What a branch of `pm_parse` may store. -/
inductive ModuleInfo.Valid : ModuleInfo → Prop
  | unrecognized : Valid .unrecognized
  | supported {m : ModuleInfo} (absent : m.connector ≠ CONNECTOR_ABSENT)
      (unknown : m.connector ≠ CONNECTOR_UNKNOWN)
      (status : m.connectorStatus = CONNECTOR_STATUS_SUPPORTED)
      (speed : m.speed = 1000 ∨ m.speed = 10000 ∨ m.speed = 40000 ∨ m.speed = 100000)
      (cable : m.cable.isSome ↔ m.connector = CONNECTOR_SFP_DAC) : Valid m

theorem valid_sfpDac (p : Page) : (sfpDac p).Valid := by
  have hne : CONNECTOR_SFP_DAC ≠ CONNECTOR_ABSENT ∧ CONNECTOR_SFP_DAC ≠ CONNECTOR_UNKNOWN := by
    decide
  refine .supported hne.1 hne.2 rfl ?_ (by simp [sfpDac])
  unfold sfpDac
  dsimp only
  split
  · exact Or.inr (Or.inl rfl)
  · exact Or.inl rfl

theorem valid_sfpPlusModule (p : Page) : (sfpPlusModule p).Valid := by
  unfold sfpPlusModule
  split_ifs
  · exact valid_sfpDac p
  all_goals first
    | exact .unrecognized
    | exact .supported (by decide) (by decide) rfl (by decide) (by decide)

theorem valid_qsfpPlusModule (p : Page) : (qsfpPlusModule p).Valid := by
  unfold qsfpPlusModule
  split_ifs <;> first
    | exact .unrecognized
    | exact .supported (by decide) (by decide) rfl (by decide) (by decide)

theorem valid_qsfp28Module (p : Page) : (qsfp28Module p).Valid := by
  unfold qsfp28Module extComplianceModule
  split_ifs <;> first
    | exact .unrecognized
    | exact .supported (by decide) (by decide) rfl (by decide) (by decide)

theorem valid_classify (t : ModuleType) (p : Page) : (t.classify p).Valid := by
  cases t with
  | sfpPlus => exact valid_sfpPlusModule p
  | qsfpPlus => exact valid_qsfpPlusModule p
  | qsfp28 => exact valid_qsfp28Module p

/-! ## The four shapes -/

/-- The shapes the identification columns can have. -/
inductive ShapeKind
  | absent | unreadable | unrecognized | recognized
  deriving DecidableEq, Repr

/-- The columns that are set for every module that could be read. -/
def vendorColumns : List InfoColumn :=
  [.vendorName, .vendorOui, .vendorPartNumber, .vendorRevision, .vendorSerialNumber]

/-- Flags and columns of a port of each shape. -/
def PmPort.HasShape (port : PmPort) : ShapeKind → Prop
  | .absent =>
    port.present = false ∧
    port.info .connector = some CONNECTOR_ABSENT ∧
    port.info .connectorStatus = some CONNECTOR_STATUS_UNRECOGNIZED ∧
    ∀ c, c ≠ .connector → c ≠ .connectorStatus → port.info c = none
  | .unreadable =>
    port.present = true ∧ port.retry = true ∧
    port.info .connector = some CONNECTOR_UNKNOWN ∧
    port.info .connectorStatus = some CONNECTOR_STATUS_UNRECOGNIZED ∧
    ∀ c, c ≠ .connector → c ≠ .connectorStatus → port.info c = none
  | .unrecognized =>
    port.present = true ∧ port.retry = false ∧
    port.info .connector = some CONNECTOR_UNKNOWN ∧
    port.info .connectorStatus = some CONNECTOR_STATUS_UNRECOGNIZED ∧
    port.info .maxSpeed = some "0" ∧ port.info .supportedSpeeds = some "0" ∧
    (∀ c ∈ vendorColumns, (port.info c).isSome) ∧ (port.info .a0).isSome ∧
    port.info .cableTechnology = none ∧ port.info .cableLength = none
  | .recognized =>
    port.present = true ∧ port.retry = false ∧
    (∃ connector, port.info .connector = some connector ∧
      connector ≠ CONNECTOR_ABSENT ∧ connector ≠ CONNECTOR_UNKNOWN ∧
      ((port.info .cableTechnology).isSome ↔ connector = CONNECTOR_SFP_DAC) ∧
      ((port.info .cableLength).isSome ↔ connector = CONNECTOR_SFP_DAC)) ∧
    port.info .connectorStatus = some CONNECTOR_STATUS_SUPPORTED ∧
    (∃ speed ∈ ["1000", "10000", "40000", "100000"],
      port.info .maxSpeed = some speed ∧ port.info .supportedSpeeds = some speed) ∧
    (∀ c ∈ vendorColumns, (port.info c).isSome) ∧ (port.info .a0).isSome

/-- A port that was never polled. -/
def PmPort.Blank (port : PmPort) : Prop :=
  port.present = false ∧ ∀ c, port.info c = none

namespace PmPort

theorem hasShape_absent : port.absent.HasShape .absent := by
  refine ⟨by rw [absent_frame], info_absent _, info_absent _, fun c h1 h2 => ?_⟩
  rw [info_absent]
  cases c <;> first | rfl | contradiction

theorem HasShape.info_absent (h : port.HasShape .absent) (c : InfoColumn) :
    port.info c = noModule CONNECTOR_ABSENT c := by
  cases c with
  | connector => exact h.2.1
  | connectorStatus => exact h.2.2.1
  | _ => exact h.2.2.2 _ (by decide) (by decide)

theorem hasShape_unreadable : port.unreadable.HasShape .unreadable := by
  refine ⟨by rw [unreadable_frame], by rw [unreadable_frame], info_unreadable _,
    info_unreadable _, fun c h1 h2 => ?_⟩
  rw [info_unreadable]
  cases c <;> first | rfl | contradiction

/-- The shape of a parsed port is that of its classification. -/
theorem hasShape_of_identity {a0 : Page} (hp : port.present = true) (hr : port.retry = false)
    (hi : ∀ c, c ≠ .a0Uppers → c ≠ .a2 → port.info c = t.identity a0 c) :
    port.HasShape .unrecognized ∨ port.HasShape .recognized := by
  have hvendor : ∀ c ∈ vendorColumns, (port.info c).isSome := by
    intro c hc
    simp only [vendorColumns, List.mem_cons, List.not_mem_nil, or_false] at hc
    rcases hc with rfl | rfl | rfl | rfl | rfl <;>
      · rw [hi _ (by decide) (by decide)]
        rfl
  have ha0 : (port.info .a0).isSome := by
    rw [hi _ (by decide) (by decide)]
    rfl
  -- all shapes of a present module come from what `classify` can give
  have hv := valid_classify t a0
  generalize hm : t.classify a0 = m at hv
  have hcol : ∀ {c : InfoColumn} {x : Option String}, c ≠ .a0Uppers → c ≠ .a2 →
      t.identity a0 c = x → port.info c = x := fun h0 h2 hx => (hi _ h0 h2).trans hx
  cases hv with
  | unrecognized =>
    left
    refine ⟨hp, hr, ?_, ?_, ?_, ?_, hvendor, ha0, ?_, ?_⟩ <;>
      · refine hcol (by decide) (by decide) ?_
        simp only [ModuleType.identity, hm]
        rfl
  | supported absent unknown status speed cable =>
    right
    have hspeed : ∃ s ∈ ["1000", "10000", "40000", "100000"],
        CText.formatInt m.speed.toNat = s := by
      rcases speed with h | h | h | h <;> rw [h] <;> exact ⟨_, by decide, rfl⟩
    obtain ⟨s, hs, hfmt⟩ := hspeed
    refine ⟨hp, hr, ⟨m.connector, ?_, absent, unknown, ?_, ?_⟩, ?_, ⟨s, hs, ?_, ?_⟩, hvendor, ha0⟩
    · exact hcol (by decide) (by decide) (by rw [ModuleType.identity, hm])
    · rw [hcol (by decide) (by decide) (by rw [ModuleType.identity, hm]), Option.isSome_map]
      exact cable
    · rw [hcol (by decide) (by decide) (by rw [ModuleType.identity, hm]), Option.isSome_map]
      exact cable
    · exact hcol (by decide) (by decide) (by rw [ModuleType.identity, hm, status])
    · exact hcol (by decide) (by decide) (by rw [ModuleType.identity, hm, hfmt])
    · exact hcol (by decide) (by decide) (by rw [ModuleType.identity, hm, hfmt])

end PmPort

/-! ## The invariant -/

/-- What holds of every port of the connector kind `t`. -/
structure PmPort.Inv (t : ModuleType) (port : PmPort) : Prop where
  device : port.moduleDevice.IsA t
  ready : port.Ready
  numeric : port.Numeric
  shape : port.Blank ∨ ∃ k, port.HasShape k
  /-- No diagnostic column of another kind is ever set. -/
  domOther : ∀ d, d ∉ t.domColumns → port.dom d = none
  /-- The diagnostic columns are set together. -/
  domWhole : (∀ d ∈ t.domColumns, (port.dom d).isSome) ∨ ∀ d, port.dom d = none
  /-- Each diagnostic column holds what some page has in it. -/
  domDecoded : ∀ d s, port.dom d = some s →
    ∃ p, ∃ w ∈ t.domWrites p, w.key = .dom d ∧ s = w.value

namespace PmPort

/-- A port found empty has the shape of one, whether the poll had anything to do or not. -/
theorem Inv.hasShape_settleAbsent (h : port.Inv t) : port.settleAbsent.HasShape .absent := by
  unfold settleAbsent
  split
  · exact hasShape_absent
  · next hidle =>
    -- not present before, with columns: the port was absent already
    simp only [Bool.or_eq_true, not_or, Bool.not_eq_true] at hidle
    rcases h.shape with hb | ⟨k, hk⟩
    · rw [hb.2] at hidle
      cases hidle.2
    · cases k with
      | absent => exact hk
      | unreadable | unrecognized | recognized => exact absurd (hidle.1.symm.trans hk.1) (by decide)

/-- The observation leaves the port in one of the four shapes, even if it was blank. -/
theorem Inv.shape_observe (h : port.Inv t) {o : Observation} (ho : Possible t port o) :
    ∃ k, (port.observe o).HasShape k := by
  match o, ho with
  | .absent, _ => exact ⟨.absent, h.hasShape_settleAbsent⟩
  | .held, hheld =>
    show ∃ k, port.HasShape k
    rcases h.shape with hb | hk
    · exact absurd (fun hneeds => by simp [hb.1] at hneeds) hheld
    · exact hk
  | .unreadable, _ => exact ⟨.unreadable, hasShape_unreadable⟩
  | .identified a0 a2, _ =>
    obtain ⟨hp, hr, -⟩ := flags_identified h.device a0 a2
    have hshape := hasShape_of_identity hp hr fun c h0 h2 =>
      info_observe_identified h.device h.numeric a0 a2 h0 h2
    exact hshape.elim (fun hs => ⟨_, hs⟩) fun hs => ⟨_, hs⟩

theorem Inv.numeric_observe (h : port.Inv t) (o : Observation) : (port.observe o).Numeric := by
  match o with
  | .absent =>
    show port.settleAbsent.Numeric
    unfold settleAbsent
    split
    · rintro c (rfl | rfl) s hs <;> rw [info_absent] at hs <;> cases hs
    · exact h.numeric
  | .held => exact h.numeric
  | .unreadable =>
    show port.unreadable.Numeric
    rintro c (rfl | rfl) s hs <;> rw [info_unreadable] at hs <;> cases hs
  | .identified a0 none => exact numeric_pmParse h.device h.numeric.intWritten
  | .identified a0 (some a2) =>
    exact numeric_pmSetA2 (isA_identified h.device a0) a2
      (numeric_pmParse h.device h.numeric.intWritten)

/-- What decoding a page leaves in a column: what the page has there, or the old string. -/
theorem dom_pmSetA2_cases (h : port.moduleDevice.IsA t) (a2 : Page) {d : DomColumn}
    (hd : d ∈ t.domColumns) :
    ∃ w ∈ t.domWrites a2, w.key = .dom d ∧
      ((pmSetA2 port a2).dom d = some w.value ∨ (pmSetA2 port a2).dom d = port.dom d) := by
  have hkey : Column.dom d ∈ (t.domWrites a2).map Write.key := by
    rw [ModuleType.map_key_domWrites]
    exact List.mem_map_of_mem hd
  obtain ⟨w, hw, hwd⟩ := List.mem_map.mp hkey
  refine ⟨w, hw, hwd, ?_⟩
  rw [dom_pmSetA2_of_mem h hw hwd, Cells.get_write_self, dom, ← hwd]
  cases port.cells.get w.key with
  | none => exact Or.inl rfl
  | some old =>
    by_cases hk : w.keep old = true
    · exact Or.inr (by simp [hk])
    · exact Or.inl (by simp [hk])

theorem Inv.domOther_observe (h : port.Inv t) (o : Observation) :
    ∀ d, d ∉ t.domColumns → (port.observe o).dom d = none := by
  intro d hd
  rw [dom_observe h.device fun _ _ _ => hd]
  exact h.domOther d hd

theorem Inv.domWhole_observe (h : port.Inv t) (o : Observation) :
    (∀ d ∈ t.domColumns, ((port.observe o).dom d).isSome) ∨
      ∀ d, (port.observe o).dom d = none := by
  match o with
  | .identified a0 (some a2) =>
    have hdev := isA_identified h.device a0
    exact Or.inl fun d hd => dom_pmSetA2_isSome hdev a2 hd
  | .absent | .held | .unreadable | .identified a0 none =>
    rcases h.domWhole with hall | hnone
    · exact Or.inl fun d hd => by
        rw [dom_observe h.device (by intro _ _ ho; cases ho)]
        exact hall d hd
    · exact Or.inr fun d => by
        rw [dom_observe h.device (by intro _ _ ho; cases ho)]
        exact hnone d

theorem Inv.domDecoded_observe (h : port.Inv t) (o : Observation) :
    ∀ d s, (port.observe o).dom d = some s →
      ∃ p, ∃ w ∈ t.domWrites p, w.key = .dom d ∧ s = w.value := by
  intro d s hs
  match o with
  | .identified a0 (some a2) =>
    have hdev := isA_identified h.device a0
    by_cases hd : d ∈ t.domColumns
    · obtain ⟨w, hw, hwd, hval | hold⟩ := dom_pmSetA2_cases hdev a2 hd
      · exact ⟨a2, w, hw, hwd, Option.some.inj (hs.symm.trans hval)⟩
      · refine h.domDecoded d s ?_
        rw [← dom_identified h.device a0, ← hold]
        exact hs
    · rw [h.domOther_observe _ d hd] at hs
      cases hs
  | .absent | .held | .unreadable | .identified a0 none =>
    rw [dom_observe h.device (by intro _ _ ho; cases ho)] at hs
    exact h.domDecoded d s hs

/-- **A poll keeps the invariant.** -/
theorem Inv.observe (h : port.Inv t) {o : Observation} (ho : Possible t port o) :
    (port.observe o).Inv t where
  device := by
    rw [(sameSetup_observe h.device o).toPortId]
    exact h.device
  ready := (sameSetup_observe h.device o).a2ReadRequested.trans h.ready
  numeric := h.numeric_observe o
  shape := Or.inr (h.shape_observe ho)
  domOther := h.domOther_observe o
  domWhole := h.domWhole_observe o
  domDecoded := h.domDecoded_observe o

/-- Nothing of the invariant is about the mark or about `hw_enable`. -/
theorem Inv.retouch (h : port.Inv t) (changed hwEnable : Bool) :
    ({ port with
      cells := { port.cells with changed := changed }
      hwEnable := hwEnable } : PmPort).Inv t where
  device := h.device
  ready := h.ready
  numeric := h.numeric
  shape := h.shape.imp id fun ⟨k, hk⟩ => ⟨k, by cases k <;> exact hk⟩
  domOther := h.domOther
  domWhole := h.domWhole
  domDecoded := h.domDecoded

theorem Inv.settle (h : port.Inv t) : ({ port with cells := port.cells.settle } : PmPort).Inv t :=
  h.retouch false port.hwEnable

theorem Inv.configure (h : port.Inv t) (hwEnable : Bool) :
    ({ port with hwEnable := hwEnable } : PmPort).Inv t :=
  h.retouch port.cells.changed hwEnable

theorem blank_newPort (intf : Interface) (subName : String) (yamlPort : YamlPort) :
    (newPort intf subName yamlPort).Blank := ⟨rfl, fun _ => rfl⟩

theorem inv_newPort (intf : Interface) (subName : String) {yamlPort : YamlPort}
    (h : yamlPort.IsA t) : (newPort intf subName yamlPort).Inv t where
  device := h
  ready := rfl
  numeric := fun _ _ s hs => by cases hs
  shape := Or.inl (blank_newPort intf subName yamlPort)
  domOther := fun _ _ => rfl
  domWhole := Or.inr fun _ => rfl
  domDecoded := fun _ s hs => by cases hs

/-- The two columns that share a row of `pm_ovsdb_update` belong to the same kind. -/
theorem Inv.paired (h : port.Inv t) : port.Paired := by
  unfold Paired
  rcases h.domWhole with hall | hnone
  · cases t with
    | sfpPlus => rw [hall _ (by decide), hall _ (by decide)]
    | qsfpPlus | qsfp28 => rw [h.domOther _ (by decide), h.domOther _ (by decide)]
  · rw [hnone, hnone]

end PmPort

/-! ## One port and the world -/

/-- A port with the world its platform acts on. -/
structure Slot (σ : Type) where
  port : PmPort
  world : σ

/-- What happens to a port between its creation and its deletion. -/
inductive PortEvent (σ : Type)
  /-- A poll, after the world changed by itself. -/
  | poll (change : σ → σ)
  /-- `pm_ovsdb_update` publishes the port. -/
  | publish
  /-- `pmd_reconfigure` finds the port's row. -/
  | modify (intf : Interface)

section Slot

variable {σ : Type} (P : Platform σ)

def portStep (slot : Slot σ) : PortEvent σ → Slot σ
  | .poll change =>
    let (_, port, s) := pmReadModuleState P slot.port (change slot.world)
    { port := port, world := s }
  | .publish => { slot with port := { slot.port with cells := slot.port.cells.settle } }
  | .modify intf =>
    let (port, s) := ovsdbIfIntfModify P intf slot.port slot.world
    { port := port, world := s }

variable {P} {slot : Slot σ}

/-- A poll of a port with the invariant is an observation. -/
theorem portStep_poll (h : slot.port.Inv t) (change : σ → σ) :
    portStep P slot (.poll change) =
      { port := slot.port.observe (observation P t slot.port (change slot.world)).1
        world := (observation P t slot.port (change slot.world)).2 } := by
  have hpoll := pmReadModuleState_eq (P := P) h.device h.ready (change slot.world)
  simp only [portStep, hpoll]

theorem inv_portStep (h : slot.port.Inv t) (e : PortEvent σ) : (portStep P slot e).port.Inv t := by
  cases e with
  | poll change =>
    rw [portStep_poll h]
    exact h.observe (observation_possible _)
  | publish => exact h.settle
  | modify intf =>
    simp only [portStep, ovsdbIfIntfModify]
    split
    · exact h.configure _
    · exact h

/-- The slot of a port that `ovsdb_if_intf_create` just made. -/
def newSlot (intf : Interface) (subName : String) (yamlPort : YamlPort) (s : σ) : Slot σ where
  port := newPort intf subName yamlPort
  world := s

/-- **Every port reachable from its creation has the invariant.** -/
theorem inv_exec {yamlPort : YamlPort} (h : yamlPort.IsA t) (intf : Interface)
    (subName : String) (s : σ) (es : List (PortEvent σ)) :
    (Run.exec (portStep P) (newSlot intf subName yamlPort s) es).port.Inv t :=
  Run.exec_inductive (I := fun slot : Slot σ => slot.port.Inv t) (fun _ e hi => inv_portStep hi e) es
    (PmPort.inv_newPort intf subName h)

/-- A port keeps its identity for life. -/
theorem toPortId_exec {yamlPort : YamlPort} (h : yamlPort.IsA t) (intf : Interface)
    (subName : String) (s : σ) (es : List (PortEvent σ)) :
    (Run.exec (portStep P) (newSlot intf subName yamlPort s) es).port.toPortId =
      (newPort intf subName yamlPort).toPortId := by
  refine (Run.exec_inductive (I := fun slot : Slot σ => slot.port.Inv t ∧
    slot.port.toPortId = (newPort intf subName yamlPort).toPortId) (fun slot e hi => ?_) es
    ⟨PmPort.inv_newPort intf subName h, rfl⟩).2
  refine ⟨inv_portStep hi.1 e, Eq.trans ?_ hi.2⟩
  cases e with
  | poll change =>
    rw [portStep_poll hi.1]
    exact (PmPort.sameSetup_observe hi.1.device _).toPortId
  | publish => rfl
  | modify intf' =>
    simp only [portStep, ovsdbIfIntfModify]
    split <;> rfl

end Slot

end OpsPmd
