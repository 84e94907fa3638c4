import OpsPmd.Lib.Cells
import OpsPmd.Lib.CText

/-!
# Ports and their columns (`pmd.h`, `pm_dom.h`)

`pm_port_t` with the two column structs `ovs_module_info` and `ovs_module_dom_info`, and the
macros that store into them.

The columns of both structs and `module_info_changed` form one `Cells` record: the macros are its
three primitives. `ovs_module_dom_info` has one current value, four alarm and warning flags and
four thresholds for each of thirteen quantities, so its columns are a product.
-/

namespace OpsPmd

/-! ## Columns -/

/-- The columns of `struct ovs_module_info`. -/
inductive InfoColumn
  | cableLength | cableTechnology | connector | connectorStatus | supportedSpeeds | maxSpeed
  | powerMode | vendorName | vendorOui | vendorPartNumber | vendorRevision | vendorSerialNumber
  | a0 | a0Uppers | a2
  deriving DecidableEq, Repr

/-- What a diagnostic column is about. -/
inductive Quantity
  | temperature | vcc | txBias | rxPower | txPower
  | tx1Bias | tx2Bias | tx3Bias | tx4Bias
  | rx1Power | rx2Power | rx3Power | rx4Power
  deriving DecidableEq, Repr

inductive Level
  | highAlarm | lowAlarm | highWarning | lowWarning
  deriving DecidableEq, Repr

inductive Aspect
  | value
  | flag (level : Level)
  | threshold (level : Level)
  deriving DecidableEq, Repr

/-- The columns of `struct ovs_module_dom_info`. -/
structure DomColumn where
  quantity : Quantity
  aspect : Aspect
  deriving DecidableEq, Repr

/-- A column of either struct. -/
inductive Column
  | info (c : InfoColumn)
  | dom (c : DomColumn)
  deriving DecidableEq, Repr

namespace Quantity

/-- The column of the current value, e.g. `tx1_bias`. -/
def current (q : Quantity) : DomColumn := ⟨q, .value⟩

/-- The column of a flag, e.g. `tx1_bias_high_alarm`. -/
def flag (q : Quantity) (l : Level) : DomColumn := ⟨q, .flag l⟩

/-- The column of a threshold, e.g. `vcc_low_warning_threshold`. -/
def threshold (q : Quantity) (l : Level) : DomColumn := ⟨q, .threshold l⟩

/-- The field name of the current value. -/
def name : Quantity → String
  | temperature => "temperature" | vcc => "vcc"
  | txBias => "tx_bias" | rxPower => "rx_power" | txPower => "tx_power"
  | tx1Bias => "tx1_bias" | tx2Bias => "tx2_bias" | tx3Bias => "tx3_bias" | tx4Bias => "tx4_bias"
  | rx1Power => "rx1_power" | rx2Power => "rx2_power"
  | rx3Power => "rx3_power" | rx4Power => "rx4_power"

end Quantity

def Level.name : Level → String
  | highAlarm => "high_alarm" | lowAlarm => "low_alarm"
  | highWarning => "high_warning" | lowWarning => "low_warning"

/-- The field name of a diagnostic column. -/
def DomColumn.name : DomColumn → String
  | ⟨q, .value⟩ => q.name
  | ⟨q, .flag l⟩ => q.name ++ "_" ++ l.name
  | ⟨q, .threshold l⟩ => q.name ++ "_" ++ l.name ++ "_threshold"

/-- The field name of an identification column. -/
def InfoColumn.name : InfoColumn → String
  | cableLength => "cable_length" | cableTechnology => "cable_technology"
  | connector => "connector" | connectorStatus => "connector_status"
  | supportedSpeeds => "supported_speeds" | maxSpeed => "max_speed" | powerMode => "power_mode"
  | vendorName => "vendor_name" | vendorOui => "vendor_oui"
  | vendorPartNumber => "vendor_part_number" | vendorRevision => "vendor_revision"
  | vendorSerialNumber => "vendor_serial_number"
  | a0 => "a0" | a0Uppers => "a0_uppers" | a2 => "a2"

def Column.name : Column → String
  | info c => c.name
  | dom c => c.name

/-! ## Ports -/

abbrev Uuid := BitVec 128

/-- The part of `i2c_bit_op` that ops-pmd reads. -/
structure I2cBitOp where
  bitMask : UInt32

/-- The members of the `module_signals` union. -/
inductive Signal
  | sfppModPresent | sfppTxDisable
  | qsfppModPresent | qsfppReset
  | qsfp28pModPresent | qsfp28pReset
  deriving DecidableEq, Repr

/-- A port of `ports.yaml`. A signal the hardware lacks is a null pointer. -/
structure YamlPort where
  name : String
  pluggable : Bool
  connector : Option String
  moduleEeprom : String
  signals : Signal → Option I2cBitOp

def CONNECTOR_SFP_PLUS := "SFP_PLUS"
def CONNECTOR_QSFP_PLUS := "QSFP_PLUS"
def CONNECTOR_QSFP28 := "QSFP28"

/-- `strcmp(module_device->connector, s) == 0`. The pointer is not null where the code gets here. -/
def YamlPort.hasConnector (d : YamlPort) (s : String) : Bool := d.connector == some s

/-- The part of `pm_port_t` that is fixed at creation. -/
structure PortId where
  instanceName : String
  uuid : Uuid
  moduleDevice : YamlPort
  subsystem : String

/-- `pm_port_t`. -/
structure PmPort extends PortId where
  /-- `ovs_module_columns`, `ovs_module_dom_columns` and `module_info_changed`. -/
  cells : Cells Column String := Cells.empty
  hwEnable : Bool := false
  hwEnableSubport : Fin 4 → Bool := fun _ => false
  present : Bool := false
  retry : Bool := false
  a2ReadRequested : Bool := false
  split : Bool := false
  optical : Bool := false

namespace PmPort

/-- `ovs_module_columns.c`. -/
def info (port : PmPort) (c : InfoColumn) : Option String := port.cells.get (.info c)

/-- `ovs_module_dom_columns.c`. -/
def dom (port : PmPort) (c : DomColumn) : Option String := port.cells.get (.dom c)

/-- `module_info_changed`. -/
def moduleInfoChanged (port : PmPort) : Bool := port.cells.changed

end PmPort

/-! ## The macros that store into columns -/

/-- The map from a nibble to its digit in `hex_to_ascii`. -/
def asciiMap (n : Nat) : Char :=
  ['0', '1', '2', '3', '4', '5', '6', '7', '8', '9', 'A', 'B', 'C', 'D', 'E', 'F'].getD n '0'

/-- The loop of `hex_to_ascii` from index `i` on: a space before every fourth byte but the first. -/
def hexToAsciiFrom : Nat → List UInt8 → List Char
  | _, [] => []
  | i, b :: rest =>
    (if 0 < i ∧ i % 4 = 0 then [' '] else []) ++
      [asciiMap (b.toNat / 16), asciiMap (b.toNat % 16)] ++ hexToAsciiFrom (i + 1) rest

def hexToAscii (buf : List UInt8) : String := String.ofList (hexToAsciiFrom 0 buf)

/-- `SET_FLOAT_STRING`, with the number in ten-thousandths. -/
def floatString (field : DomColumn) (value : Int) : Write Column String where
  key := .dom field
  value := CText.formatFixed value
  keep old := CText.strtol old * 10000 == value

/-- `SET_FLAG_STRING`. -/
def flagString (field : DomColumn) (value : String) : Write Column String where
  key := .dom field
  value := value
  keep old := old.length == value.length && old == value

/-- `SET_BOOL_STRING`. -/
def boolString (field : DomColumn) (value : Bool) : Write Column String :=
  if value then flagString field "On" else flagString field "Off"

/-- `SET_STRING`. -/
def string (field : InfoColumn) (value : String) : Write Column String where
  key := .info field
  value := value
  keep old := old.length == value.length && old == value

/-- `SET_INT_STRING`. -/
def intString (field : InfoColumn) (value : Int) : Write Column String where
  key := .info field
  value := CText.formatInt value
  keep old := CText.strtol old == value

namespace PmPort

/-- `SET_STATIC_STRING`. -/
def setStaticString (port : PmPort) (field : InfoColumn) (value : String) : PmPort :=
  { port with cells := port.cells.store (.info field) value }

/-- `SET_STRING`. -/
def setString (port : PmPort) (field : InfoColumn) (value : String) : PmPort :=
  { port with cells := port.cells.write (string field value) }

/-- `SET_INT_STRING`. -/
def setIntString (port : PmPort) (field : InfoColumn) (value : Int) : PmPort :=
  { port with cells := port.cells.write (intString field value) }

/-- `SET_BINARY`. -/
def setBinary (port : PmPort) (field : InfoColumn) (value : List UInt8) : PmPort :=
  { port with cells := port.cells.store (.info field) (hexToAscii value) }

/-- `DELETE` and `DELETE_FREE`, which differ in the `free` only. -/
def delete (port : PmPort) (field : InfoColumn) : PmPort :=
  { port with cells := port.cells.clear (.info field) }

/-- The columns `pm_delete_all_data` deletes, in its order. -/
def deletedColumns : List InfoColumn :=
  [.connectorStatus, .supportedSpeeds, .cableTechnology, .cableLength, .maxSpeed, .powerMode,
    .vendorName, .vendorOui, .vendorPartNumber, .vendorRevision, .vendorSerialNumber,
    .a0, .a2, .a0Uppers]

/-- `pm_delete_all_data`. -/
def pmDeleteAllData (port : PmPort) : PmPort := deletedColumns.foldl delete port

end PmPort

/-! ## What the macros leave -/

@[simp] theorem flagString_keep {field : DomColumn} {value old : String} :
    (flagString field value).keep old = true ↔ old = value := by
  simp only [flagString, Bool.and_eq_true, beq_iff_eq]
  exact ⟨fun h => h.2, fun h => ⟨by rw [h], h⟩⟩

@[simp] theorem boolString_key (field : DomColumn) (value : Bool) :
    (boolString field value).key = .dom field := by
  cases value <;> rfl

theorem boolString_keep {field : DomColumn} {value : Bool} {old : String} :
    (boolString field value).keep old = true ↔ old = (boolString field value).value := by
  cases value <;> exact flagString_keep

@[simp] theorem string_keep {field : InfoColumn} {value old : String} :
    (string field value).keep old = true ↔ old = value := by
  simp only [string, Bool.and_eq_true, beq_iff_eq]
  exact ⟨fun h => h.2, fun h => ⟨by rw [h], h⟩⟩

namespace PmPort

variable (port : PmPort) {c field : InfoColumn}

theorem info_setStaticString (value : String) :
    (port.setStaticString field value).info c = if c = field then some value else port.info c := by
  simp [info, setStaticString, Cells.get_store]

theorem info_setBinary (value : List UInt8) :
    (port.setBinary field value).info c =
      if c = field then some (hexToAscii value) else port.info c := by
  simp [info, setBinary, Cells.get_store]

/-- `SET_STRING` compares whole strings, so it cannot be told from an unconditional store. -/
theorem info_setString (value : String) :
    (port.setString field value).info c = if c = field then some value else port.info c := by
  unfold info setString
  by_cases h : c = field
  · rw [if_pos h, h]
    exact Cells.get_write_eq_iff.mpr fun old _ hk => string_keep.mp hk
  · rw [if_neg h]
    exact Cells.get_write_ne (by simpa [string] using h)

theorem dom_setStaticString (value : String) (d : DomColumn) :
    (port.setStaticString field value).dom d = port.dom d := by
  simp [dom, setStaticString, Cells.get_store]

theorem dom_setBinary (value : List UInt8) (d : DomColumn) :
    (port.setBinary field value).dom d = port.dom d := by
  simp [dom, setBinary, Cells.get_store]

theorem dom_setString (value : String) (d : DomColumn) :
    (port.setString field value).dom d = port.dom d :=
  Cells.get_write_ne (by simp [string])

theorem dom_setIntString (value : Int) (d : DomColumn) :
    (port.setIntString field value).dom d = port.dom d :=
  Cells.get_write_ne (by simp [intString])

theorem dom_delete (d : DomColumn) : (port.delete field).dom d = port.dom d := by
  simp [dom, delete, Cells.get_clear]

theorem info_delete : (port.delete field).info c = if c = field then none else port.info c := by
  simp [info, delete, Cells.get_clear]

/-- The numeric columns are null or hold a number as `SET_INT_STRING` prints it. -/
def Numeric : Prop :=
  ∀ c, c = .maxSpeed ∨ c = .cableLength →
    ∀ s, port.info c = some s → ∃ n : Nat, n < 2 ^ 63 ∧ s = CText.formatInt n

/-- The numeric columns are null or were written by `SET_INT_STRING`. -/
def IntWritten : Prop :=
  ∀ c, c = .maxSpeed ∨ c = .cableLength →
    ∀ s, port.info c = some s → ∃ n : Int, -(2 ^ 63) ≤ n ∧ n < 2 ^ 63 ∧ s = CText.formatInt n

variable {port}

theorem Numeric.intWritten (h : port.Numeric) : port.IntWritten := by
  intro c hc s hs
  obtain ⟨n, hn, rfl⟩ := h c hc s hs
  exact ⟨n, by omega, by omega, rfl⟩

/-- `SET_INT_STRING` reads the old string back, which is exact where the old string is a number. -/
theorem info_setIntString {n : Int}
    (h : ∀ s, port.info field = some s →
      ∃ m : Int, -(2 ^ 63) ≤ m ∧ m < 2 ^ 63 ∧ s = CText.formatInt m) :
    (port.setIntString field n).info c =
      if c = field then some (CText.formatInt n) else port.info c := by
  unfold info setIntString
  by_cases hc : c = field
  · rw [if_pos hc, hc]
    refine Cells.get_write_eq_iff.mpr fun old hold hk => ?_
    obtain ⟨m, hlo, hhi, rfl⟩ := h old hold
    have hmn : m = n := by
      rw [← CText.strtol_formatInt hlo hhi]
      simpa [intString] using hk
    rw [hmn]
    rfl
  · rw [if_neg hc]
    exact Cells.get_write_ne (by simpa [intString] using hc)

variable (port)

theorem foldl_delete : ∀ (fields : List InfoColumn) (port : PmPort),
    fields.foldl delete port = { port with cells := port.cells.clearAll (fields.map .info) }
  | [], _ => rfl
  | f :: fields, port => by rw [List.foldl_cons, foldl_delete fields]; rfl

theorem cells_pmDeleteAllData :
    port.pmDeleteAllData = { port with cells := port.cells.clearAll (deletedColumns.map .info) } :=
  foldl_delete _ port

/-- `pm_delete_all_data` empties every identification column but `connector`. -/
theorem info_pmDeleteAllData (c : InfoColumn) :
    port.pmDeleteAllData.info c = if c = .connector then port.info .connector else none := by
  rw [cells_pmDeleteAllData, info, Cells.get_clearAll]
  cases c <;> rfl

/-- `pm_delete_all_data` touches no diagnostic column. -/
theorem dom_pmDeleteAllData (c : DomColumn) : port.pmDeleteAllData.dom c = port.dom c := by
  rw [cells_pmDeleteAllData, dom, Cells.get_clearAll, if_neg]
  · rfl
  · simp

end PmPort

/-! ## `hex_to_ascii` loses nothing -/

theorem asciiMap_injective : ∀ m < 16, ∀ n < 16, asciiMap m = asciiMap n → m = n := by decide

/-- Bytes with the same two digits are the same. -/
theorem byte_eq_of_digits {b c : UInt8} (hhi : asciiMap (b.toNat / 16) = asciiMap (c.toNat / 16))
    (hlo : asciiMap (b.toNat % 16) = asciiMap (c.toNat % 16)) : b = c := by
  have hb := b.toNat_lt
  have hc := c.toNat_lt
  have h1 := asciiMap_injective _ (by omega) _ (by omega) hhi
  have h2 := asciiMap_injective _ (by omega) _ (by omega) hlo
  exact UInt8.toNat_inj.mp (by omega)

/-- The separators depend on the index alone, so the digits stand at the same places. -/
theorem hexToAsciiFrom_injective : ∀ {i : Nat} {a b : List UInt8}, a.length = b.length →
    hexToAsciiFrom i a = hexToAsciiFrom i b → a = b
  | _, [], [], _, _ => rfl
  | i, b :: bs, c :: cs, hlen, h => by
    simp only [hexToAsciiFrom, List.append_assoc, List.append_cancel_left_eq, List.cons_append,
      List.nil_append, List.cons.injEq] at h
    obtain ⟨hhi, hlo, hrest⟩ := h
    rw [byte_eq_of_digits hhi hlo,
      hexToAsciiFrom_injective (Nat.succ.inj hlen) hrest]

theorem hexToAscii_injective {a b : List UInt8} (hlen : a.length = b.length)
    (h : hexToAscii a = hexToAscii b) : a = b :=
  hexToAsciiFrom_injective hlen (String.ofList_injective h)

end OpsPmd
