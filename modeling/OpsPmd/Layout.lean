import Mathlib.Data.List.OfFn
import Mathlib.Tactic.Common

/-!
# Page layouts (`plug.h`, `pm_dom.h`)

The packed structs that the code lays over a 128-byte page, as accessors under the field names of
the source. Bit-fields are laid out from the least significant bit and the structs have no padding.
Only the fields that the code reads are here, and the flags of a QSFP page that it does not read.
-/

namespace OpsPmd

/-- A block of 128 bytes, as read from a module. -/
abbrev Page := Fin 128 → UInt8

/-- So that a number can be an offset into a page. -/
instance neZeroPageLength : @NeZero Nat Zero.ofOfNat0 128 := ⟨Nat.succ_ne_zero 127⟩

namespace Page

/-- The bit-field of width one at bit `k` of byte `i`. -/
def bit (p : Page) (i : Fin 128) (k : Nat) : Bool := (p i).toNat.testBit k

/-- The byte array of length `len` that starts at byte `start`. -/
def bytes (p : Page) (start len : Nat) : List UInt8 :=
  (List.range len).map fun i => p (Fin.ofNat 128 (start + i))

/-- The whole page in order. -/
def toList (p : Page) : List UInt8 := List.ofFn p

@[simp] theorem length_toList (p : Page) : p.toList.length = 128 := List.length_ofFn

theorem toList_injective : Function.Injective toList := List.ofFn_injective

end Page

/-- A `char` of the page, signed. -/
def signedChar (b : UInt8) : Int := if b.toNat < 128 then b.toNat else (b.toNat : Int) - 256

/-! ## `pm_sfp_serial_id_t` -/

namespace SfpSerialId

def connector (p : Page) : UInt8 := p 2
def bitRateNominal (p : Page) : UInt8 := p 12
def lengthCopper (p : Page) : UInt8 := p 18
def enet10gbaseSr (p : Page) : Bool := p.bit 3 4
def enet10gbaseLr (p : Page) : Bool := p.bit 3 5
def enet10gbaseLrm (p : Page) : Bool := p.bit 3 6
def enet1000baseSx (p : Page) : Bool := p.bit 6 0
def enet1000baseLx (p : Page) : Bool := p.bit 6 1
def enet1000baseCx (p : Page) : Bool := p.bit 6 2
def enet1000baseT (p : Page) : Bool := p.bit 6 3
def cableTechnologyPassive (p : Page) : Bool := p.bit 8 2
def cableTechnologyActive (p : Page) : Bool := p.bit 8 3
def vendorName (p : Page) : List UInt8 := p.bytes 20 16
def vendorOui (p : Page) : List UInt8 := p.bytes 37 3
def vendorPartNumber (p : Page) : List UInt8 := p.bytes 40 16
def vendorRevision (p : Page) : List UInt8 := p.bytes 56 4
def vendorSerialNumber (p : Page) : List UInt8 := p.bytes 68 16
def addrChangeRequired (p : Page) : Bool := p.bit 92 2
def powerMeasurementType (p : Page) : Bool := p.bit 92 3
def internallyCalibrated (p : Page) : Bool := p.bit 92 5
def implementedDigital (p : Page) : Bool := p.bit 92 6

end SfpSerialId

/-! ## `pm_qsfp_serial_id_t` -/

namespace QsfpSerialId

def enet40gbaseLr4 (p : Page) : Bool := p.bit 3 1
def enet40gbaseSr4 (p : Page) : Bool := p.bit 3 2
def enet40gbaseCr4 (p : Page) : Bool := p.bit 3 3
def enetExtended (p : Page) : Bool := p.bit 3 7
def extComplianceCode (p : Page) : UInt8 := p 64
def vendorName (p : Page) : List UInt8 := p.bytes 20 16
def vendorOui (p : Page) : List UInt8 := p.bytes 37 3
def vendorPartNumber (p : Page) : List UInt8 := p.bytes 40 16
def vendorRevision (p : Page) : List UInt8 := p.bytes 56 2
def vendorSerialNumber (p : Page) : List UInt8 := p.bytes 68 16
def averageInputOpticalPower (p : Page) : Bool := p.bit 92 3

end QsfpSerialId

/-! ## `pm_sfp_dom_t` -/

namespace SfpDom

def tempHighAlarmMsb (p : Page) : UInt8 := p 0
def tempHighAlarmLsb (p : Page) : UInt8 := p 1
def tempLowAlarmMsb (p : Page) : UInt8 := p 2
def tempLowAlarmLsb (p : Page) : UInt8 := p 3
def tempHighWarningMsb (p : Page) : UInt8 := p 4
def tempHighWarningLsb (p : Page) : UInt8 := p 5
def tempLowWarningMsb (p : Page) : UInt8 := p 6
def tempLowWarningLsb (p : Page) : UInt8 := p 7
def voltageHighAlarmMsb (p : Page) : UInt8 := p 8
def voltageHighAlarmLsb (p : Page) : UInt8 := p 9
def voltageLowAlarmMsb (p : Page) : UInt8 := p 10
def voltageLowAlarmLsb (p : Page) : UInt8 := p 11
def voltageHighWarningMsb (p : Page) : UInt8 := p 12
def voltageHighWarningLsb (p : Page) : UInt8 := p 13
def voltageLowWarningMsb (p : Page) : UInt8 := p 14
def voltageLowWarningLsb (p : Page) : UInt8 := p 15
def biasHighAlarmMsb (p : Page) : UInt8 := p 16
def biasHighAlarmLsb (p : Page) : UInt8 := p 17
def biasLowAlarmMsb (p : Page) : UInt8 := p 18
def biasLowAlarmLsb (p : Page) : UInt8 := p 19
def biasHighWarningMsb (p : Page) : UInt8 := p 20
def biasHighWarningLsb (p : Page) : UInt8 := p 21
def biasLowWarningMsb (p : Page) : UInt8 := p 22
def biasLowWarningLsb (p : Page) : UInt8 := p 23
def txPowerHighAlarmMsb (p : Page) : UInt8 := p 24
def txPowerHighAlarmLsb (p : Page) : UInt8 := p 25
def txPowerLowAlarmMsb (p : Page) : UInt8 := p 26
def txPowerLowAlarmLsb (p : Page) : UInt8 := p 27
def txPowerHighWarningMsb (p : Page) : UInt8 := p 28
def txPowerHighWarningLsb (p : Page) : UInt8 := p 29
def txPowerLowWarningMsb (p : Page) : UInt8 := p 30
def txPowerLowWarningLsb (p : Page) : UInt8 := p 31
def rxPowerHighAlarmMsb (p : Page) : UInt8 := p 32
def rxPowerHighAlarmLsb (p : Page) : UInt8 := p 33
def rxPowerLowAlarmMsb (p : Page) : UInt8 := p 34
def rxPowerLowAlarmLsb (p : Page) : UInt8 := p 35
def rxPowerHighWarningMsb (p : Page) : UInt8 := p 36
def rxPowerHighWarningLsb (p : Page) : UInt8 := p 37
def rxPowerLowWarningMsb (p : Page) : UInt8 := p 38
def rxPowerLowWarningLsb (p : Page) : UInt8 := p 39
def temperatureMsb (p : Page) : UInt8 := p 96
def temperatureLsb (p : Page) : UInt8 := p 97
def vccMsb (p : Page) : UInt8 := p 98
def vccLsb (p : Page) : UInt8 := p 99
def txBiasMsb (p : Page) : UInt8 := p 100
def txBiasLsb (p : Page) : UInt8 := p 101
def txPowerMsb (p : Page) : UInt8 := p 102
def txPowerLsb (p : Page) : UInt8 := p 103
def rxPowerMsb (p : Page) : UInt8 := p 104
def rxPowerLsb (p : Page) : UInt8 := p 105

def txPwrLowAlarm (p : Page) : Bool := p.bit 112 0
def txPwrHighAlarm (p : Page) : Bool := p.bit 112 1
def txBiasLowAlarm (p : Page) : Bool := p.bit 112 2
def txBiasHighAlarm (p : Page) : Bool := p.bit 112 3
def vccLowAlarm (p : Page) : Bool := p.bit 112 4
def vccHighAlarm (p : Page) : Bool := p.bit 112 5
def tempLowAlarm (p : Page) : Bool := p.bit 112 6
def tempHighAlarm (p : Page) : Bool := p.bit 112 7
def rxPwrLowAlarm (p : Page) : Bool := p.bit 113 6
def rxPwrHighAlarm (p : Page) : Bool := p.bit 113 7
def txPwrLowWarning (p : Page) : Bool := p.bit 116 0
def txPwrHighWarning (p : Page) : Bool := p.bit 116 1
def txBiasLowWarning (p : Page) : Bool := p.bit 116 2
def txBiasHighWarning (p : Page) : Bool := p.bit 116 3
def vccLowWarning (p : Page) : Bool := p.bit 116 4
def vccHighWarning (p : Page) : Bool := p.bit 116 5
def tempLowWarning (p : Page) : Bool := p.bit 116 6
def tempHighWarning (p : Page) : Bool := p.bit 116 7
def rxPwrLowWarning (p : Page) : Bool := p.bit 117 6
def rxPwrHighWarning (p : Page) : Bool := p.bit 117 7

end SfpDom

/-! ## `pm_qsfp_dom_t` -/

namespace QsfpDom

def tempMsb (p : Page) : UInt8 := p 22
def tempLsb (p : Page) : UInt8 := p 23
def voltageMsb (p : Page) : UInt8 := p 26
def voltageLsb (p : Page) : UInt8 := p 27
def rx1PowerMsb (p : Page) : UInt8 := p 34
def rx1PowerLsb (p : Page) : UInt8 := p 35
def rx2PowerMsb (p : Page) : UInt8 := p 36
def rx2PowerLsb (p : Page) : UInt8 := p 37
def rx3PowerMsb (p : Page) : UInt8 := p 38
def rx3PowerLsb (p : Page) : UInt8 := p 39
def rx4PowerMsb (p : Page) : UInt8 := p 40
def rx4PowerLsb (p : Page) : UInt8 := p 41
def tx1BiasMsb (p : Page) : UInt8 := p 42
def tx1BiasLsb (p : Page) : UInt8 := p 43
def tx2BiasMsb (p : Page) : UInt8 := p 44
def tx2BiasLsb (p : Page) : UInt8 := p 45
def tx3BiasMsb (p : Page) : UInt8 := p 46
def tx3BiasLsb (p : Page) : UInt8 := p 47
def tx4BiasMsb (p : Page) : UInt8 := p 48
def tx4BiasLsb (p : Page) : UInt8 := p 49

def latchedTempLowWarning (p : Page) : Bool := p.bit 6 4
def latchedTempHighWarning (p : Page) : Bool := p.bit 6 5
def latchedTempLowAlarm (p : Page) : Bool := p.bit 6 6
def latchedTempHighAlarm (p : Page) : Bool := p.bit 6 7
def latchedVccLowWarning (p : Page) : Bool := p.bit 7 4
def latchedVccHighWarning (p : Page) : Bool := p.bit 7 5
def latchedVccLowAlarm (p : Page) : Bool := p.bit 7 6
def latchedVccHighAlarm (p : Page) : Bool := p.bit 7 7
def latchedRx2PowerLowWarning (p : Page) : Bool := p.bit 9 0
def latchedRx2PowerHighWarning (p : Page) : Bool := p.bit 9 1
def latchedRx2PowerLowAlarm (p : Page) : Bool := p.bit 9 2
def latchedRx2PowerHighAlarm (p : Page) : Bool := p.bit 9 3
def latchedRx1PowerLowWarning (p : Page) : Bool := p.bit 9 4
def latchedRx1PowerHighWarning (p : Page) : Bool := p.bit 9 5
def latchedRx1PowerLowAlarm (p : Page) : Bool := p.bit 9 6
def latchedRx1PowerHighAlarm (p : Page) : Bool := p.bit 9 7
def latchedRx4PowerLowWarning (p : Page) : Bool := p.bit 10 0
def latchedRx4PowerHighWarning (p : Page) : Bool := p.bit 10 1
def latchedRx4PowerLowAlarm (p : Page) : Bool := p.bit 10 2
def latchedRx4PowerHighAlarm (p : Page) : Bool := p.bit 10 3
def latchedRx3PowerLowWarning (p : Page) : Bool := p.bit 10 4
def latchedRx3PowerHighWarning (p : Page) : Bool := p.bit 10 5
def latchedRx3PowerLowAlarm (p : Page) : Bool := p.bit 10 6
def latchedRx3PowerHighAlarm (p : Page) : Bool := p.bit 10 7
def latchedTx2BiasLowWarning (p : Page) : Bool := p.bit 11 0
def latchedTx2BiasHighWarning (p : Page) : Bool := p.bit 11 1
def latchedTx2BiasLowAlarm (p : Page) : Bool := p.bit 11 2
def latchedTx2BiasHighAlarm (p : Page) : Bool := p.bit 11 3
def latchedTx1BiasLowWarning (p : Page) : Bool := p.bit 11 4
def latchedTx1BiasHighWarning (p : Page) : Bool := p.bit 11 5
def latchedTx1BiasLowAlarm (p : Page) : Bool := p.bit 11 6
def latchedTx1BiasHighAlarm (p : Page) : Bool := p.bit 11 7
def latchedTx4BiasLowWarning (p : Page) : Bool := p.bit 12 0
def latchedTx4BiasHighWarning (p : Page) : Bool := p.bit 12 1
def latchedTx4BiasLowAlarm (p : Page) : Bool := p.bit 12 2
def latchedTx4BiasHighAlarm (p : Page) : Bool := p.bit 12 3
def latchedTx3BiasLowWarning (p : Page) : Bool := p.bit 12 4
def latchedTx3BiasHighWarning (p : Page) : Bool := p.bit 12 5
def latchedTx3BiasLowAlarm (p : Page) : Bool := p.bit 12 6
def latchedTx3BiasHighAlarm (p : Page) : Bool := p.bit 12 7

end QsfpDom

end OpsPmd
