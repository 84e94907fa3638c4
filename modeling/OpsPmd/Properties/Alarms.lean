import OpsPmd.Properties.Decoding
import OpsPmd.Publish

/-!
# Alarms and warnings

The structs of `pm_dom.h` name a bit for each alarm and each warning, and `ovs_module_dom_info` has
a column for each. The branch for SFP+ stores all of them. The branch for QSFP stores those of the
lanes only.

* `ModuleType.namedFlags` — the bits a page has, with the columns they belong to
* `no_alarm_silent_iff` — all that are set are reported, if none of them is one of the module of a
  QSFP port
-/

namespace OpsPmd

variable {t : ModuleType} {port : PmPort} {p : Page}

/-! ## The bits that the structs name -/

open Quantity in
open SfpDom in
/-- `pm_sfp_alarm_warning_bits_t`. -/
def sfpFlags (p : Page) : List (DomColumn × Bool) :=
  [
    (temperature.flag .highAlarm, tempHighAlarm p),
    (temperature.flag .lowAlarm, tempLowAlarm p),
    (temperature.flag .highWarning, tempHighWarning p),
    (temperature.flag .lowWarning, tempLowWarning p),
    (vcc.flag .highAlarm, vccHighAlarm p),
    (vcc.flag .lowAlarm, vccLowAlarm p),
    (vcc.flag .highWarning, vccHighWarning p),
    (vcc.flag .lowWarning, vccLowWarning p),
    (txBias.flag .highAlarm, txBiasHighAlarm p),
    (txBias.flag .lowAlarm, txBiasLowAlarm p),
    (txBias.flag .highWarning, txBiasHighWarning p),
    (txBias.flag .lowWarning, txBiasLowWarning p),
    (rxPower.flag .highAlarm, rxPwrHighAlarm p),
    (rxPower.flag .lowAlarm, rxPwrLowAlarm p),
    (rxPower.flag .highWarning, rxPwrHighWarning p),
    (rxPower.flag .lowWarning, rxPwrLowWarning p),
    (txPower.flag .highAlarm, txPwrHighAlarm p),
    (txPower.flag .lowAlarm, txPwrLowAlarm p),
    (txPower.flag .highWarning, txPwrHighWarning p),
    (txPower.flag .lowWarning, txPwrLowWarning p)
  ]

open Quantity in
open QsfpDom in
/-- The flags of the module in `pm_qsfp_interrupt_flags_t`. -/
def qsfpModuleFlags (p : Page) : List (DomColumn × Bool) :=
  [
    (temperature.flag .highAlarm, latchedTempHighAlarm p),
    (temperature.flag .lowAlarm, latchedTempLowAlarm p),
    (temperature.flag .highWarning, latchedTempHighWarning p),
    (temperature.flag .lowWarning, latchedTempLowWarning p),
    (vcc.flag .highAlarm, latchedVccHighAlarm p),
    (vcc.flag .lowAlarm, latchedVccLowAlarm p),
    (vcc.flag .highWarning, latchedVccHighWarning p),
    (vcc.flag .lowWarning, latchedVccLowWarning p)
  ]

open Quantity in
open QsfpDom in
/-- The flags of the lanes in `pm_qsfp_interrupt_flags_t`. -/
def qsfpLaneFlags (p : Page) : List (DomColumn × Bool) :=
  [
    (rx1Power.flag .highAlarm, latchedRx1PowerHighAlarm p),
    (rx1Power.flag .lowAlarm, latchedRx1PowerLowAlarm p),
    (rx1Power.flag .highWarning, latchedRx1PowerHighWarning p),
    (rx1Power.flag .lowWarning, latchedRx1PowerLowWarning p),
    (rx2Power.flag .highAlarm, latchedRx2PowerHighAlarm p),
    (rx2Power.flag .lowAlarm, latchedRx2PowerLowAlarm p),
    (rx2Power.flag .highWarning, latchedRx2PowerHighWarning p),
    (rx2Power.flag .lowWarning, latchedRx2PowerLowWarning p),
    (rx3Power.flag .highAlarm, latchedRx3PowerHighAlarm p),
    (rx3Power.flag .lowAlarm, latchedRx3PowerLowAlarm p),
    (rx3Power.flag .highWarning, latchedRx3PowerHighWarning p),
    (rx3Power.flag .lowWarning, latchedRx3PowerLowWarning p),
    (rx4Power.flag .highAlarm, latchedRx4PowerHighAlarm p),
    (rx4Power.flag .lowAlarm, latchedRx4PowerLowAlarm p),
    (rx4Power.flag .highWarning, latchedRx4PowerHighWarning p),
    (rx4Power.flag .lowWarning, latchedRx4PowerLowWarning p),
    (tx1Bias.flag .highAlarm, latchedTx1BiasHighAlarm p),
    (tx1Bias.flag .lowAlarm, latchedTx1BiasLowAlarm p),
    (tx1Bias.flag .highWarning, latchedTx1BiasHighWarning p),
    (tx1Bias.flag .lowWarning, latchedTx1BiasLowWarning p),
    (tx2Bias.flag .highAlarm, latchedTx2BiasHighAlarm p),
    (tx2Bias.flag .lowAlarm, latchedTx2BiasLowAlarm p),
    (tx2Bias.flag .highWarning, latchedTx2BiasHighWarning p),
    (tx2Bias.flag .lowWarning, latchedTx2BiasLowWarning p),
    (tx3Bias.flag .highAlarm, latchedTx3BiasHighAlarm p),
    (tx3Bias.flag .lowAlarm, latchedTx3BiasLowAlarm p),
    (tx3Bias.flag .highWarning, latchedTx3BiasHighWarning p),
    (tx3Bias.flag .lowWarning, latchedTx3BiasLowWarning p),
    (tx4Bias.flag .highAlarm, latchedTx4BiasHighAlarm p),
    (tx4Bias.flag .lowAlarm, latchedTx4BiasLowAlarm p),
    (tx4Bias.flag .highWarning, latchedTx4BiasHighWarning p),
    (tx4Bias.flag .lowWarning, latchedTx4BiasLowWarning p)
  ]

namespace ModuleType

/-- The alarms and warnings of a page, each with its column. -/
def namedFlags : ModuleType → Page → List (DomColumn × Bool)
  | sfpPlus, p => sfpFlags p
  | qsfpPlus, p | qsfp28, p => qsfpModuleFlags p ++ qsfpLaneFlags p

/-- Those of them that `pm_set_a2` does not look at. -/
def forgottenFlags : ModuleType → Page → List (DomColumn × Bool)
  | sfpPlus, _ => []
  | qsfpPlus, p | qsfp28, p => qsfpModuleFlags p

/-- Those of them that `pm_set_a2` stores. -/
def storedFlags : ModuleType → Page → List (DomColumn × Bool)
  | sfpPlus, p => sfpFlags p
  | qsfpPlus, p | qsfp28, p => qsfpLaneFlags p

theorem mem_namedFlags {f : DomColumn × Bool} :
    f ∈ t.namedFlags p ↔ f ∈ t.forgottenFlags p ∨ f ∈ t.storedFlags p := by
  cases t with
  | sfpPlus => simp [namedFlags, forgottenFlags, storedFlags]
  | qsfpPlus => exact List.mem_append
  | qsfp28 => exact List.mem_append

end ModuleType

/-! ## Stored flags -/

/-- A bit is where the byte-level reading of its column looks for it. -/
def StandsAt (source : DomColumn → Option Source) (p : Page) (f : DomColumn × Bool) : Prop :=
  ∃ i k, source f.1 = some (.flag i k) ∧ f.2 = p.bit (Fin.ofNat 128 i) k

theorem standsAt_sfpFlags (p : Page) : ∀ f ∈ sfpFlags p, StandsAt sfpSource p f := by
  unfold sfpFlags
  repeat' refine List.forall_mem_cons.mpr ⟨⟨_, _, rfl, rfl⟩, ?_⟩
  exact List.forall_mem_nil _

theorem standsAt_qsfpLaneFlags (p : Page) : ∀ f ∈ qsfpLaneFlags p, StandsAt qsfpSource p f := by
  unfold qsfpLaneFlags
  repeat' refine List.forall_mem_cons.mpr ⟨⟨_, _, rfl, rfl⟩, ?_⟩
  exact List.forall_mem_nil _

theorem standsAt_storedFlags (t : ModuleType) (p : Page) :
    ∀ f ∈ t.storedFlags p, StandsAt t.source p f := by
  cases t with
  | sfpPlus => exact standsAt_sfpFlags p
  | qsfpPlus => exact standsAt_qsfpLaneFlags p
  | qsfp28 => exact standsAt_qsfpLaneFlags p

/-- The columns of a forgotten flag are not among those of the branch. -/
theorem notMem_domColumns_of_forgotten :
    ∀ f ∈ t.forgottenFlags p, f.1 ∉ t.domColumns := by
  have hmodule : ∀ f ∈ qsfpModuleFlags p, f.1 ∉ ModuleType.domColumns .qsfpPlus := by
    unfold qsfpModuleFlags
    repeat' refine List.forall_mem_cons.mpr ⟨?_, ?_⟩
    all_goals first
      | exact List.forall_mem_nil _
      | exact of_decide_eq_true rfl
  cases t with
  | sfpPlus => exact List.forall_mem_nil _
  | qsfpPlus => exact hmodule
  | qsfp28 => exact hmodule

/-! ## What is reported -/

/-- A flag is on in its column, and the next `pm_ovsdb_update` publishes it. -/
structure Reported (port : PmPort) (d : DomColumn) : Prop where
  stored : port.dom d = some "On"
  published : port.pmInfo.find d.name = some "On"
  marked : port.moduleInfoChanged = true

/-- A page fills either both columns of the row of `tx_power_high_alarm` or none. -/
theorem paired_pmSetA2 (h : port.moduleDevice.IsA t) (hnull : ∀ d, port.dom d = none) (p : Page) :
    (pmSetA2 port p).Paired := by
  unfold PmPort.Paired
  by_cases ht : t = .sfpPlus
  · subst ht
    rw [dom_pmSetA2_isSome h p (by decide), dom_pmSetA2_isSome h p (by decide)]
  · have hboth : Quantity.rxPower.flag .highAlarm ∉ t.domColumns ∧
        Quantity.txPower.flag .highAlarm ∉ t.domColumns := by
      cases t with
      | sfpPlus => exact absurd rfl ht
      | qsfpPlus | qsfp28 => decide
    rw [dom_pmSetA2_of_notMem h hboth.1, dom_pmSetA2_of_notMem h hboth.2, hnull, hnull]

/-- A stored flag that is set is reported. -/
theorem reported_of_mem_storedFlags (h : port.moduleDevice.IsA t)
    (hnull : ∀ d, port.dom d = none) {d : DomColumn} (hf : (d, true) ∈ t.storedFlags p) :
    Reported (pmSetA2 port p) d := by
  obtain ⟨i, k, hsource, hbit⟩ := standsAt_storedFlags t p _ hf
  have hon : (pmSetA2 port p).dom d = some "On" := by
    rw [dom_pmSetA2_of_source h hnull hsource, Source.render]
    exact congrArg some (if_pos hbit.symm)
  refine ⟨hon, ?_, changed_pmSetA2 h p⟩
  have hpub : Column.dom d ∈ publishedColumns := mem_publishedColumns.mpr (by simp)
  exact ((paired_pmSetA2 h hnull p).find_pmInfo hpub).trans hon

/-! ## Silent alarms -/

/-- **No alarm is silent if and only if none is set that the branch forgets.** -/
theorem no_alarm_silent_iff (h : port.moduleDevice.IsA t) (hnull : ∀ d, port.dom d = none)
    (p : Page) :
    (∀ f ∈ t.namedFlags p, f.2 = true → Reported (pmSetA2 port p) f.1) ↔
      t = .sfpPlus ∨ ∀ f ∈ qsfpModuleFlags p, f.2 = false := by
  have hforgotten : (t = .sfpPlus ∨ ∀ f ∈ qsfpModuleFlags p, f.2 = false) ↔
      ∀ f ∈ t.forgottenFlags p, f.2 = false := by
    cases t <;> simp [ModuleType.forgottenFlags]
  rw [hforgotten]
  constructor
  · intro hall f hf
    by_contra hset
    have hon := hall f (ModuleType.mem_namedFlags.mpr (Or.inl hf)) (by simpa using hset)
    have hstored := hon.stored
    rw [dom_pmSetA2_of_notMem h (notMem_domColumns_of_forgotten f hf), hnull] at hstored
    cases hstored
  · rintro hoff ⟨d, b⟩ hf hset
    obtain rfl : b = true := hset
    rcases ModuleType.mem_namedFlags.mp hf with hf | hf
    · cases hoff _ hf
    · exact reported_of_mem_storedFlags h hnull hf

/-- A QSFP page with a high alarm of lane 3 and no flag of the module. -/
theorem no_alarm_silent_iff_qsfp28 :
    let port := newPort ⟨0, "1", []⟩ "base" ModuleType.qsfp28.device
    let p : Page := fun i => if i = 10 then 0x80 else 0
    (∀ f ∈ ModuleType.qsfp28.namedFlags p, f.2 = true → Reported (pmSetA2 port p) f.1) ↔
      ModuleType.qsfp28 = .sfpPlus ∨ ∀ f ∈ qsfpModuleFlags p, f.2 = false :=
  no_alarm_silent_iff (ModuleType.isA_device .qsfp28) (fun _ => rfl) _

/-- A QSFP module that raises its high temperature alarm leaves the column null. -/
theorem overheating_is_silent :
    let port := newPort ⟨0, "1", []⟩ "base" ModuleType.qsfpPlus.device
    let p : Page := fun i => if i = 6 then 0x80 else 0
    QsfpDom.latchedTempHighAlarm p = true ∧
      (pmSetA2 port p).dom (Quantity.temperature.flag .highAlarm) = none ∧
      ¬ ∀ f ∈ ModuleType.qsfpPlus.namedFlags p, f.2 = true → Reported (pmSetA2 port p) f.1 := by
  refine ⟨by decide, by decide +kernel, fun hall => ?_⟩
  have hon := (hall (Quantity.temperature.flag .highAlarm, _) (List.mem_cons_self ..) rfl).stored
  revert hon
  decide +kernel

end OpsPmd
