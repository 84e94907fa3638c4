import OpsPmd.Detect

/-!
# Diagnostics (`pm_dom.c`)

`pm_set_a2` decodes a diagnostics page into the columns of `ovs_module_dom_info`. Each of its two
branches is a table of stores, one row for each `SET_FLOAT_STRING` or `SET_BOOL_STRING`, in order.

* `domColumns` — the columns a branch stores, the same for every page
* `dom_pmSetA2_of_mem` — with distinct columns, each is left as its own row alone would leave it
* `dom_pmSetA2_of_notMem` — all others are untouched
-/

namespace OpsPmd

/-! ## Numbers of a page -/

/--
`msb + (float)(lsb/256)` in ten-thousandths. The division is one of integers, so the low byte does
not count.
-/
def celsius (msb lsb : UInt8) : Int := (signedChar msb + (lsb.toNat / 256 : Nat)) * 10000

/-- The low byte of a temperature is lost. -/
theorem celsius_eq (msb lsb : UInt8) : celsius msb lsb = signedChar msb * 10000 := by
  have hlsb : lsb.toNat / 256 = 0 := Nat.div_eq_of_lt lsb.toNat_lt
  simp [celsius, hlsb]

theorem signedChar_bounds (b : UInt8) : -128 ≤ signedChar b ∧ signedChar b < 128 := by
  have hb := b.toNat_lt
  unfold signedChar
  split <;> omega

/-- A whole number of degrees survives printing and reading. -/
theorem strtol_formatFixed_celsius (msb lsb : UInt8) :
    CText.strtol (CText.formatFixed (celsius msb lsb)) * 10000 = celsius msb lsb := by
  obtain ⟨hlo, hhi⟩ := signedChar_bounds msb
  rw [celsius_eq]
  generalize signedChar msb = k at hlo hhi
  rw [CText.strtol_formatFixed (by omega)]
  have hround : CText.roundHundredths (k * 10000).natAbs = k.natAbs * 100 := by
    unfold CText.roundHundredths
    rw [if_pos (by omega)]
    omega
  unfold CText.wholePart
  rw [hround]
  split <;> omega

/-- `msb<<8 | lsb`. -/
def word (msb lsb : UInt8) : Nat := msb.toNat <<< 8 ||| lsb.toNat

/-- A word times 0.0001, in ten-thousandths. -/
def tenThousandths (msb lsb : UInt8) : Int := word msb lsb

/-- A word times 0.002, in ten-thousandths. -/
def fiveHundredths (msb lsb : UInt8) : Int := word msb lsb * 20

/-! ## The two tables -/

open Quantity in
open SfpDom in
/-- The stores of the `MODULE_TYPE_SFP_PLUS` branch. -/
def sfpWrites (p : Page) : List (Write Column String) :=
  [
    floatString temperature.current (celsius (temperatureMsb p) (temperatureLsb p)),
    boolString (temperature.flag .highAlarm) (tempHighAlarm p),
    boolString (temperature.flag .lowAlarm) (tempLowAlarm p),
    boolString (temperature.flag .highWarning) (tempHighWarning p),
    boolString (temperature.flag .lowWarning) (tempLowWarning p),
    floatString (temperature.threshold .highAlarm)
      (celsius (tempHighAlarmMsb p) (tempHighAlarmLsb p)),
    floatString (temperature.threshold .lowAlarm) (celsius (tempLowAlarmMsb p) (tempLowAlarmLsb p)),
    floatString (temperature.threshold .highWarning)
      (celsius (tempHighWarningMsb p) (tempHighWarningLsb p)),
    floatString (temperature.threshold .lowWarning)
      (celsius (tempLowWarningMsb p) (tempLowWarningLsb p)),
    floatString vcc.current (tenThousandths (vccMsb p) (vccLsb p)),
    boolString (vcc.flag .highAlarm) (vccHighAlarm p),
    boolString (vcc.flag .lowAlarm) (vccLowAlarm p),
    boolString (vcc.flag .highWarning) (vccHighWarning p),
    boolString (vcc.flag .lowWarning) (vccLowWarning p),
    floatString (vcc.threshold .highAlarm)
      (tenThousandths (voltageHighAlarmMsb p) (voltageHighAlarmLsb p)),
    floatString (vcc.threshold .lowAlarm)
      (tenThousandths (voltageLowAlarmMsb p) (voltageLowAlarmLsb p)),
    floatString (vcc.threshold .highWarning)
      (tenThousandths (voltageHighWarningMsb p) (voltageHighWarningLsb p)),
    floatString (vcc.threshold .lowWarning)
      (tenThousandths (voltageLowWarningMsb p) (voltageLowWarningLsb p)),
    floatString txBias.current (fiveHundredths (txBiasMsb p) (txBiasLsb p)),
    boolString (txBias.flag .highAlarm) (txBiasHighAlarm p),
    boolString (txBias.flag .lowAlarm) (txBiasLowAlarm p),
    boolString (txBias.flag .highWarning) (txBiasHighWarning p),
    boolString (txBias.flag .lowWarning) (txBiasLowWarning p),
    floatString (txBias.threshold .highAlarm)
      (fiveHundredths (biasHighAlarmMsb p) (biasHighAlarmLsb p)),
    floatString (txBias.threshold .lowAlarm)
      (fiveHundredths (biasLowAlarmMsb p) (biasLowAlarmLsb p)),
    floatString (txBias.threshold .highWarning)
      (fiveHundredths (biasHighWarningMsb p) (biasHighWarningLsb p)),
    floatString (txBias.threshold .lowWarning)
      (fiveHundredths (biasLowWarningMsb p) (biasLowWarningLsb p)),
    floatString rxPower.current (tenThousandths (rxPowerMsb p) (rxPowerLsb p)),
    boolString (rxPower.flag .highAlarm) (rxPwrHighAlarm p),
    boolString (rxPower.flag .lowAlarm) (rxPwrLowAlarm p),
    boolString (rxPower.flag .highWarning) (rxPwrHighWarning p),
    boolString (rxPower.flag .lowWarning) (rxPwrLowWarning p),
    floatString (rxPower.threshold .highAlarm)
      (tenThousandths (rxPowerHighAlarmMsb p) (rxPowerHighAlarmLsb p)),
    floatString (rxPower.threshold .lowAlarm)
      (tenThousandths (rxPowerLowAlarmMsb p) (rxPowerLowAlarmLsb p)),
    floatString (rxPower.threshold .highWarning)
      (tenThousandths (rxPowerHighWarningMsb p) (rxPowerHighWarningLsb p)),
    floatString (rxPower.threshold .lowWarning)
      (tenThousandths (rxPowerLowWarningMsb p) (rxPowerLowWarningLsb p)),
    floatString txPower.current (tenThousandths (txPowerMsb p) (txPowerLsb p)),
    boolString (txPower.flag .highAlarm) (txPwrHighAlarm p),
    boolString (txPower.flag .lowAlarm) (txPwrLowAlarm p),
    boolString (txPower.flag .highWarning) (txPwrHighWarning p),
    boolString (txPower.flag .lowWarning) (txPwrLowWarning p),
    floatString (txPower.threshold .highAlarm)
      (tenThousandths (txPowerHighAlarmMsb p) (txPowerHighAlarmLsb p)),
    floatString (txPower.threshold .lowAlarm)
      (tenThousandths (txPowerLowAlarmMsb p) (txPowerLowAlarmLsb p)),
    floatString (txPower.threshold .highWarning)
      (tenThousandths (txPowerHighWarningMsb p) (txPowerHighWarningLsb p)),
    floatString (txPower.threshold .lowWarning)
      (tenThousandths (txPowerLowWarningMsb p) (txPowerLowWarningLsb p))
  ]

open Quantity in
open QsfpDom in
/-- The stores of the branch for `MODULE_TYPE_QSFP_PLUS` and `MODULE_TYPE_QSFP28`. -/
def qsfpWrites (p : Page) : List (Write Column String) :=
  [
    floatString temperature.current (celsius (tempMsb p) (tempLsb p)),
    floatString vcc.current (tenThousandths (voltageMsb p) (voltageLsb p)),
    floatString tx1Bias.current (fiveHundredths (tx1BiasMsb p) (tx1BiasLsb p)),
    boolString (tx1Bias.flag .highAlarm) (latchedTx1BiasHighAlarm p),
    boolString (tx1Bias.flag .lowAlarm) (latchedTx1BiasLowAlarm p),
    boolString (tx1Bias.flag .highWarning) (latchedTx1BiasHighWarning p),
    boolString (tx1Bias.flag .lowWarning) (latchedTx1BiasLowWarning p),
    floatString rx1Power.current (tenThousandths (rx1PowerMsb p) (rx1PowerLsb p)),
    boolString (rx1Power.flag .highAlarm) (latchedRx1PowerHighAlarm p),
    boolString (rx1Power.flag .lowAlarm) (latchedRx1PowerLowAlarm p),
    boolString (rx1Power.flag .highWarning) (latchedRx1PowerHighWarning p),
    boolString (rx1Power.flag .lowWarning) (latchedRx1PowerLowWarning p),
    floatString tx2Bias.current (fiveHundredths (tx2BiasMsb p) (tx2BiasLsb p)),
    boolString (tx2Bias.flag .highAlarm) (latchedTx2BiasHighAlarm p),
    boolString (tx2Bias.flag .lowAlarm) (latchedTx2BiasLowAlarm p),
    boolString (tx2Bias.flag .highWarning) (latchedTx2BiasHighWarning p),
    boolString (tx2Bias.flag .lowWarning) (latchedTx2BiasLowWarning p),
    floatString rx2Power.current (tenThousandths (rx2PowerMsb p) (rx2PowerLsb p)),
    boolString (rx2Power.flag .highAlarm) (latchedRx2PowerHighAlarm p),
    boolString (rx2Power.flag .lowAlarm) (latchedRx2PowerLowAlarm p),
    boolString (rx2Power.flag .highWarning) (latchedRx2PowerHighWarning p),
    boolString (rx2Power.flag .lowWarning) (latchedRx2PowerLowWarning p),
    floatString tx3Bias.current (fiveHundredths (tx3BiasMsb p) (tx3BiasLsb p)),
    boolString (tx3Bias.flag .highAlarm) (latchedTx3BiasHighAlarm p),
    boolString (tx3Bias.flag .lowAlarm) (latchedTx3BiasLowAlarm p),
    boolString (tx3Bias.flag .highWarning) (latchedTx3BiasHighWarning p),
    boolString (tx3Bias.flag .lowWarning) (latchedTx3BiasLowWarning p),
    floatString rx3Power.current (tenThousandths (rx3PowerMsb p) (rx3PowerLsb p)),
    boolString (rx3Power.flag .highAlarm) (latchedRx3PowerHighAlarm p),
    boolString (rx3Power.flag .lowAlarm) (latchedRx3PowerLowAlarm p),
    boolString (rx3Power.flag .highWarning) (latchedRx3PowerHighWarning p),
    boolString (rx3Power.flag .lowWarning) (latchedRx3PowerLowWarning p),
    floatString tx4Bias.current (fiveHundredths (tx4BiasMsb p) (tx4BiasLsb p)),
    boolString (tx4Bias.flag .highAlarm) (latchedTx4BiasHighAlarm p),
    boolString (tx4Bias.flag .lowAlarm) (latchedTx4BiasLowAlarm p),
    boolString (tx4Bias.flag .highWarning) (latchedTx4BiasHighWarning p),
    boolString (tx4Bias.flag .lowWarning) (latchedTx4BiasLowWarning p),
    floatString rx4Power.current (tenThousandths (rx4PowerMsb p) (rx4PowerLsb p)),
    boolString (rx4Power.flag .highAlarm) (latchedRx4PowerHighAlarm p),
    boolString (rx4Power.flag .lowAlarm) (latchedRx4PowerLowAlarm p),
    boolString (rx4Power.flag .highWarning) (latchedRx4PowerHighWarning p),
    boolString (rx4Power.flag .lowWarning) (latchedRx4PowerLowWarning p)
  ]

namespace ModuleType

/-- The stores of `pm_set_a2`, by type. -/
def domWrites : ModuleType → Page → List (Write Column String)
  | sfpPlus => sfpWrites
  | qsfpPlus => qsfpWrites
  | qsfp28 => qsfpWrites

end ModuleType

/-! ## The entry points -/

namespace PmPort

/-- `set_a2_read_request`. -/
def setA2ReadRequest (port : PmPort) (serialData : Page) : PmPort :=
  if port.moduleDevice.hasConnector CONNECTOR_SFP_PLUS then
    if SfpSerialId.implementedDigital serialData && SfpSerialId.internallyCalibrated serialData &&
        SfpSerialId.powerMeasurementType serialData &&
        !SfpSerialId.addrChangeRequired serialData then
      { port with a2ReadRequested := true }
    else port
  else if port.moduleDevice.hasConnector CONNECTOR_QSFP_PLUS ||
      port.moduleDevice.hasConnector CONNECTOR_QSFP28 then
    if QsfpSerialId.averageInputOpticalPower serialData then
      { port with a2ReadRequested := true }
    else port
  else port

end PmPort

/-- `pm_set_a2`. -/
def pmSetA2 (port : PmPort) (a2 : Page) : PmPort :=
  if port.moduleDevice.pluggable = false then port
  else
    match port.moduleDevice.connector with
    | none => port
    | some connector =>
      match moduleType connector with
      | none => port.setStaticString .connector PmInfo.CONNECTOR_UNKNOWN
      | some type =>
        ({ port with cells := port.cells.writeAll (type.domWrites a2) } : PmPort).setBinary
          .a2 a2.toList

/-! ## The columns of a branch -/

namespace Level

def all : List Level := [highAlarm, lowAlarm, highWarning, lowWarning]

end Level

namespace Quantity

def flags (q : Quantity) : List DomColumn := Level.all.map q.flag

def thresholds (q : Quantity) : List DomColumn := Level.all.map q.threshold

end Quantity

namespace ModuleType

open Quantity

/-- The diagnostic columns a type's branch stores, in order. -/
def domColumns : ModuleType → List DomColumn
  | sfpPlus =>
    [temperature, vcc, txBias, rxPower, txPower].flatMap fun q =>
      q.current :: (q.flags ++ q.thresholds)
  | qsfpPlus | qsfp28 =>
    temperature.current :: vcc.current ::
      [tx1Bias, rx1Power, tx2Bias, rx2Power, tx3Bias, rx3Power, tx4Bias, rx4Power].flatMap
        fun q => q.current :: q.flags

theorem domColumns_nodup (t : ModuleType) : t.domColumns.Nodup := by
  cases t <;> decide

theorem map_key_sfpWrites (p : Page) :
    (sfpWrites p).map Write.key = (domColumns .sfpPlus).map Column.dom := by
  simp only [sfpWrites, List.map_cons, List.map_nil, boolString_key]
  rfl

theorem map_key_qsfpWrites (p : Page) :
    (qsfpWrites p).map Write.key = (domColumns .qsfpPlus).map Column.dom := by
  simp only [qsfpWrites, List.map_cons, List.map_nil, boolString_key]
  rfl

theorem map_key_domWrites (t : ModuleType) (p : Page) :
    (t.domWrites p).map Write.key = t.domColumns.map Column.dom := by
  cases t with
  | sfpPlus => exact map_key_sfpWrites p
  | qsfpPlus => exact map_key_qsfpWrites p
  | qsfp28 => exact map_key_qsfpWrites p

theorem keys_nodup (t : ModuleType) (p : Page) : ((t.domWrites p).map Write.key).Nodup := by
  rw [map_key_domWrites]
  exact t.domColumns_nodup.map fun _ _ h => Column.dom.inj h

end ModuleType

/-! ## What `pm_set_a2` leaves -/

variable {port : PmPort} {t : ModuleType}

theorem pmSetA2_eq (h : port.moduleDevice.IsA t) (a2 : Page) :
    pmSetA2 port a2 =
      ({ port with cells := port.cells.writeAll (t.domWrites a2) } : PmPort).setBinary
        .a2 a2.toList := by
  unfold pmSetA2
  rw [if_neg (by simp [h.pluggable]), h.connector]
  simp

theorem dom_pmSetA2 (h : port.moduleDevice.IsA t) (a2 : Page) (d : DomColumn) :
    (pmSetA2 port a2).dom d = (port.cells.writeAll (t.domWrites a2)).get (.dom d) := by
  rw [pmSetA2_eq h, PmPort.dom_setBinary]
  rfl

/-- A column of the branch is left as its own row leaves it. -/
theorem dom_pmSetA2_of_mem (h : port.moduleDevice.IsA t) {a2 : Page} {w : Write Column String}
    (hw : w ∈ t.domWrites a2) {d : DomColumn} (hd : w.key = .dom d) :
    (pmSetA2 port a2).dom d = (port.cells.write w).get w.key := by
  rw [dom_pmSetA2 h, ← hd]
  exact Cells.get_writeAll_of_mem (t.keys_nodup a2) hw

theorem dom_pmSetA2_of_notMem (h : port.moduleDevice.IsA t) {a2 : Page} {d : DomColumn}
    (hd : d ∉ t.domColumns) : (pmSetA2 port a2).dom d = port.dom d := by
  rw [dom_pmSetA2 h]
  refine Cells.get_writeAll_of_notMem fun hmem => hd ?_
  rw [ModuleType.map_key_domWrites] at hmem
  obtain ⟨d', hd', heq⟩ := List.mem_map.mp hmem
  rwa [← Column.dom.inj heq]

/-- After a page is decoded, every column of the branch is non-null. -/
theorem dom_pmSetA2_isSome (h : port.moduleDevice.IsA t) (a2 : Page) {d : DomColumn}
    (hd : d ∈ t.domColumns) : ((pmSetA2 port a2).dom d).isSome := by
  rw [dom_pmSetA2 h]
  refine Cells.get_writeAll_isSome (t.keys_nodup a2) ?_
  rw [ModuleType.map_key_domWrites]
  exact List.mem_map_of_mem hd

/-- Of the identification columns `pm_set_a2` stores `a2` only. -/
theorem info_pmSetA2 (h : port.moduleDevice.IsA t) (a2 : Page) {c : InfoColumn} :
    (pmSetA2 port a2).info c = if c = .a2 then some (hexToAscii a2.toList) else port.info c := by
  rw [pmSetA2_eq h, PmPort.info_setBinary]
  split
  · rfl
  · refine Cells.get_writeAll_of_notMem fun hmem => ?_
    rw [ModuleType.map_key_domWrites] at hmem
    obtain ⟨d, -, hd⟩ := List.mem_map.mp hmem
    cases hd

theorem pmSetA2_frame (h : port.moduleDevice.IsA t) (a2 : Page) :
    pmSetA2 port a2 = { port with cells := (pmSetA2 port a2).cells } := by
  rw [pmSetA2_eq h]
  rfl

/-- A decoded page always raises the mark: `SET_BINARY` of `a2` does not compare. -/
theorem changed_pmSetA2 (h : port.moduleDevice.IsA t) (a2 : Page) :
    (pmSetA2 port a2).moduleInfoChanged = true := by
  rw [pmSetA2_eq h]
  rfl

theorem numeric_pmSetA2 (h : port.moduleDevice.IsA t) (a2 : Page) (hn : port.Numeric) :
    (pmSetA2 port a2).Numeric := by
  intro c hc s hs
  rw [info_pmSetA2 h, if_neg (by rcases hc with rfl | rfl <;> decide)] at hs
  exact hn c hc s hs

/-- Whether the serial ID page asks for the diagnostics page. -/
def ModuleType.requestsA2 : ModuleType → Page → Bool
  | sfpPlus, p =>
    SfpSerialId.implementedDigital p && SfpSerialId.internallyCalibrated p &&
      SfpSerialId.powerMeasurementType p && !SfpSerialId.addrChangeRequired p
  | qsfpPlus, p => QsfpSerialId.averageInputOpticalPower p
  | qsfp28, p => QsfpSerialId.averageInputOpticalPower p

theorem PmPort.requestA2_eq (port : PmPort) (b : Bool) :
    (if b then { port with a2ReadRequested := true } else port) =
      { port with a2ReadRequested := port.a2ReadRequested || b } := by
  cases b <;> simp

theorem setA2ReadRequest_eq (h : port.moduleDevice.IsA t) (p : Page) :
    port.setA2ReadRequest p =
      { port with a2ReadRequested := port.a2ReadRequested || t.requestsA2 p } := by
  unfold PmPort.setA2ReadRequest
  simp only [h.hasConnector]
  cases t <;> exact port.requestA2_eq _

end OpsPmd
