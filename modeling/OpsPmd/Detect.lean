import OpsPmd.Port
import OpsPmd.Layout

/-!
# Module identification (`pm_detect.c`)

`pm_parse` reads the kind of module off its serial ID page and stores what it found.

The branches of `pm_parse` store the same columns in the same order, so each is a `ModuleInfo`
handed to `PmPort.setModule`; the statements after the branches are `PmPort.fillRest`.

* `pmParse_eq` — on a port of a known connector kind `pm_parse` succeeds and stores everything
* `info_pmParse` — each identification column afterwards is a function of the page
-/

namespace OpsPmd

/-! ## Values of the `pm_info` keys -/

namespace PmInfo

def CONNECTOR_ABSENT := "absent"
def CONNECTOR_UNKNOWN := "unknown"
def CONNECTOR_SFP_DAC := "SFP_DAC"
def CONNECTOR_SFP_SX := "SFP_SX"
def CONNECTOR_SFP_LX := "SFP_LX"
def CONNECTOR_SFP_CX := "SFP_CX"
def CONNECTOR_SFP_RJ45 := "SFP_RJ45"
def CONNECTOR_SFP_SR := "SFP_SR"
def CONNECTOR_SFP_LR := "SFP_LR"
def CONNECTOR_SFP_LRM := "SFP_LRM"
def CONNECTOR_QSFP_LR4 := "QSFP_LR4"
def CONNECTOR_QSFP_SR4 := "QSFP_SR4"
def CONNECTOR_QSFP_CR4 := "QSFP_CR4"
def CONNECTOR_QSFP28_SR4 := "QSFP28_SR4"
def CONNECTOR_QSFP28_LR4 := "QSFP28_LR4"
def CONNECTOR_QSFP28_CWDM4 := "QSFP28_CWDM4"
def CONNECTOR_QSFP28_PSM4 := "QSFP28_PSM4"
def CONNECTOR_QSFP28_CR4 := "QSFP28_CR4"
def CONNECTOR_QSFP28_CLR4 := "QSFP28_CLR4"
def CONNECTOR_STATUS_SUPPORTED := "supported"
def CONNECTOR_STATUS_UNRECOGNIZED := "unrecognized"
def CABLE_TECHNOLOGY_PASSIVE := "passive"
def CABLE_TECHNOLOGY_ACTIVE := "active"

end PmInfo

/-! ## Connector kinds -/

/-- `MODULE_TYPE_*`. -/
inductive ModuleType
  | sfpPlus | qsfpPlus | qsfp28
  deriving DecidableEq, Repr

/-- The `strcmp` chain that turns a connector string into a type. -/
def moduleType (connector : String) : Option ModuleType :=
  if connector == CONNECTOR_SFP_PLUS then some .sfpPlus
  else if connector == CONNECTOR_QSFP_PLUS then some .qsfpPlus
  else if connector == CONNECTOR_QSFP28 then some .qsfp28
  else none

/-- The connector string of a type. -/
def ModuleType.connector : ModuleType → String
  | sfpPlus => CONNECTOR_SFP_PLUS
  | qsfpPlus => CONNECTOR_QSFP_PLUS
  | qsfp28 => CONNECTOR_QSFP28

@[simp] theorem moduleType_connector (t : ModuleType) : moduleType t.connector = some t := by
  cases t <;> decide

/-- A pluggable port of the connector kind `t`. -/
structure YamlPort.IsA (d : YamlPort) (t : ModuleType) : Prop where
  pluggable : d.pluggable = true
  connector : d.connector = some t.connector

theorem YamlPort.IsA.hasConnector {d : YamlPort} {t : ModuleType} (h : d.IsA t) (s : String) :
    d.hasConnector s = (t.connector == s) := by
  rw [YamlPort.hasConnector, h.connector]
  rfl

/-- A port description of each kind, with the signals that the code relies on. -/
def ModuleType.device (t : ModuleType) : YamlPort where
  name := "1"
  pluggable := true
  connector := some t.connector
  moduleEeprom := "eeprom"
  signals signal := if signal = .qsfppReset ∨ signal = .qsfp28pReset then none else some ⟨1⟩

theorem YamlPort.IsA.unique {d : YamlPort} {t t' : ModuleType} (h : d.IsA t) (h' : d.IsA t') :
    t = t' := by
  have hconnector : t.connector = t'.connector := Option.some.inj (h.connector.symm.trans h'.connector)
  have htype := congrArg moduleType hconnector
  rw [moduleType_connector, moduleType_connector] at htype
  exact Option.some.inj htype

theorem ModuleType.isA_device (t : ModuleType) : t.device.IsA t := ⟨rfl, rfl⟩

/-! ## What a branch finds -/

/-- What a branch of `pm_parse` stores. -/
structure ModuleInfo where
  optical : Bool
  connector : String
  connectorStatus : String
  speed : UInt32
  /-- Cable technology and length, set in the DAC branch and deleted in all others. -/
  cable : Option (String × UInt8)
  deriving DecidableEq, Repr

namespace ModuleInfo

def supported (optical : Bool) (connector : String) (speed : UInt32) : ModuleInfo where
  optical := optical
  connector := connector
  connectorStatus := PmInfo.CONNECTOR_STATUS_SUPPORTED
  speed := speed
  cable := none

def unrecognized : ModuleInfo where
  optical := false
  connector := PmInfo.CONNECTOR_UNKNOWN
  connectorStatus := PmInfo.CONNECTOR_STATUS_UNRECOGNIZED
  speed := 0
  cable := none

end ModuleInfo

def PM_CONNECTOR_COPPER_PIGTAIL : UInt8 := 0x21
def SFP_BIT_RATE_NOMINAL_10G : UInt8 := 0x64
def SPACE : UInt8 := 0x20

/-- The DAC branch of `pm_parse`. -/
def sfpDac (p : Page) : ModuleInfo where
  optical := false
  connector := PmInfo.CONNECTOR_SFP_DAC
  connectorStatus := PmInfo.CONNECTOR_STATUS_SUPPORTED
  speed := if SFP_BIT_RATE_NOMINAL_10G ≤ SfpSerialId.bitRateNominal p then 10000 else 1000
  cable := some
    (if SfpSerialId.cableTechnologyActive p then PmInfo.CABLE_TECHNOLOGY_ACTIVE
      else if SfpSerialId.cableTechnologyPassive p then PmInfo.CABLE_TECHNOLOGY_PASSIVE
      else PmInfo.CABLE_TECHNOLOGY_PASSIVE,
    SfpSerialId.lengthCopper p)

/-- The branches of `MODULE_TYPE_SFP_PLUS`. -/
def sfpPlusModule (p : Page) : ModuleInfo :=
  open SfpSerialId ModuleInfo PmInfo in
  if connector p = PM_CONNECTOR_COPPER_PIGTAIL then sfpDac p
  else if enet1000baseSx p then supported true CONNECTOR_SFP_SX 1000
  else if enet1000baseLx p then supported true CONNECTOR_SFP_LX 1000
  else if enet1000baseCx p then supported false CONNECTOR_SFP_CX 1000
  else if enet1000baseT p then supported false CONNECTOR_SFP_RJ45 1000
  else if enet10gbaseSr p then supported true CONNECTOR_SFP_SR 10000
  else if enet10gbaseLr p then supported true CONNECTOR_SFP_LR 10000
  else if enet10gbaseLrm p then supported true CONNECTOR_SFP_LRM 10000
  else unrecognized

/-- The branches of `MODULE_TYPE_QSFP_PLUS`. -/
def qsfpPlusModule (p : Page) : ModuleInfo :=
  open QsfpSerialId ModuleInfo PmInfo in
  if enet40gbaseLr4 p then supported true CONNECTOR_QSFP_LR4 40000
  else if enet40gbaseSr4 p then supported true CONNECTOR_QSFP_SR4 40000
  else if enet40gbaseCr4 p then supported false CONNECTOR_QSFP_CR4 40000
  else unrecognized

def PM_QSFP_EXT_COMPLIANCE_CODE_100GBASE_SR4 : UInt8 := 0x02
def PM_QSFP_EXT_COMPLIANCE_CODE_100GBASE_LR4 : UInt8 := 0x03
def PM_QSFP_EXT_COMPLIANCE_CODE_100GBASE_CWDM4 : UInt8 := 0x06
def PM_QSFP_EXT_COMPLIANCE_CODE_100GBASE_PSM4 : UInt8 := 0x07
def PM_QSFP_EXT_COMPLIANCE_CODE_100GBASE_CR4 : UInt8 := 0x0B
def PM_QSFP_EXT_COMPLIANCE_CODE_100GBASE_CLR4 : UInt8 := 0x17

/-- The `switch` on the extended compliance code. -/
def extComplianceModule (code : UInt8) : ModuleInfo :=
  open ModuleInfo PmInfo in
  if code = PM_QSFP_EXT_COMPLIANCE_CODE_100GBASE_SR4 then
    supported true CONNECTOR_QSFP28_SR4 100000
  else if code = PM_QSFP_EXT_COMPLIANCE_CODE_100GBASE_LR4 then
    supported true CONNECTOR_QSFP28_LR4 100000
  else if code = PM_QSFP_EXT_COMPLIANCE_CODE_100GBASE_CWDM4 then
    supported true CONNECTOR_QSFP28_CWDM4 100000
  else if code = PM_QSFP_EXT_COMPLIANCE_CODE_100GBASE_PSM4 then
    supported true CONNECTOR_QSFP28_PSM4 100000
  else if code = PM_QSFP_EXT_COMPLIANCE_CODE_100GBASE_CR4 then
    supported false CONNECTOR_QSFP28_CR4 100000
  else if code = PM_QSFP_EXT_COMPLIANCE_CODE_100GBASE_CLR4 then
    supported true CONNECTOR_QSFP28_CLR4 100000
  else unrecognized

/-- The branches of `MODULE_TYPE_QSFP28`, which repeat those of `MODULE_TYPE_QSFP_PLUS`. -/
def qsfp28Module (p : Page) : ModuleInfo :=
  open QsfpSerialId ModuleInfo PmInfo in
  if enetExtended p then extComplianceModule (extComplianceCode p)
  else if enet40gbaseLr4 p then supported true CONNECTOR_QSFP_LR4 40000
  else if enet40gbaseSr4 p then supported true CONNECTOR_QSFP_SR4 40000
  else if enet40gbaseCr4 p then supported false CONNECTOR_QSFP_CR4 40000
  else unrecognized

/-! ## Vendor fields -/

/-- The vendor fields as they stand in the page. -/
structure VendorFields where
  vendorName : List UInt8
  vendorOui : List UInt8
  vendorPartNumber : List UInt8
  vendorRevision : List UInt8
  vendorSerialNumber : List UInt8

def sfpVendor (p : Page) : VendorFields where
  vendorName := SfpSerialId.vendorName p
  vendorOui := SfpSerialId.vendorOui p
  vendorPartNumber := SfpSerialId.vendorPartNumber p
  vendorRevision := SfpSerialId.vendorRevision p
  vendorSerialNumber := SfpSerialId.vendorSerialNumber p

def qsfpVendor (p : Page) : VendorFields where
  vendorName := QsfpSerialId.vendorName p
  vendorOui := QsfpSerialId.vendorOui p
  vendorPartNumber := QsfpSerialId.vendorPartNumber p
  vendorRevision := QsfpSerialId.vendorRevision p
  vendorSerialNumber := QsfpSerialId.vendorSerialNumber p

/--
The loop that overwrites trailing spaces with NULs, from `idx` down. It never reaches index 0.
-/
def stripSpaces : Nat → List UInt8 → List UInt8
  | 0, buf => buf
  | idx + 1, buf =>
    if buf.getD (idx + 1) 0 = SPACE then stripSpaces idx (buf.set (idx + 1) 0) else buf

/-- The C string at the start of a buffer. -/
def cString (buf : List UInt8) : String :=
  String.ofList ((buf.takeWhile (· ≠ 0)).map CText.byteChar)

/-- A vendor field copied, terminated and stripped. -/
def vendorString (field : List UInt8) : String :=
  cString (stripSpaces (field.length - 1) (field ++ [0]))

def hexDigit (n : Nat) : Char := Nat.digitChar n

/-- `pm_oui_format`: `"%02x-%02x-%02x"`. -/
def pmOuiFormat (oui : List UInt8) : String :=
  let hex (b : UInt8) : List Char := [hexDigit (b.toNat / 16), hexDigit (b.toNat % 16)]
  String.ofList (hex (oui.getD 0 0) ++ ['-'] ++ hex (oui.getD 1 0) ++ ['-'] ++ hex (oui.getD 2 0))

/-! ## `pm_parse` -/

/-- The loop of `set_supported_speeds`: numbers with blanks between them. -/
def joinSpeeds : Option String → List Int → Option String
  | speeds, [] => speeds
  | none, speed :: rest => joinSpeeds (some (CText.formatInt speed)) rest
  | some speeds, speed :: rest => joinSpeeds (some (speeds ++ " " ++ CText.formatInt speed)) rest

namespace PmPort

/-- `set_supported_speeds`. The column is replaced without a look at its old value. -/
def setSupportedSpeeds (port : PmPort) (speeds : List Int) : PmPort :=
  { port with
    cells :=
      { get := Function.update port.cells.get (.info .supportedSpeeds) (joinSpeeds none speeds)
        changed := true } }

/-- The statements of a branch of `pm_parse`. -/
def setModule (port : PmPort) (m : ModuleInfo) : PmPort :=
  let port := { port with optical := m.optical }
  let port := port.setStaticString .connector m.connector
  let port := port.setStaticString .connectorStatus m.connectorStatus
  let port := port.setIntString .maxSpeed m.speed.toNat
  let port := port.setSupportedSpeeds [m.speed.toNat]
  match m.cable with
  | some (technology, length) =>
    (port.setStaticString .cableTechnology technology).setIntString .cableLength length.toNat
  | none => (port.delete .cableTechnology).delete .cableLength

/-- The statements of `pm_parse` after the branches. -/
def fillRest (port : PmPort) (v : VendorFields) (a0 : Page) : PmPort :=
  let port := port.delete .powerMode
  let port := port.setString .vendorName (vendorString v.vendorName)
  let port := port.setString .vendorOui (pmOuiFormat v.vendorOui)
  let port := port.setString .vendorPartNumber (vendorString v.vendorPartNumber)
  let port := port.setString .vendorRevision (vendorString v.vendorRevision)
  let port := port.setString .vendorSerialNumber (vendorString v.vendorSerialNumber)
  port.setBinary .a0 a0.toList

end PmPort

/-- The classification for each type. -/
def ModuleType.classify : ModuleType → Page → ModuleInfo
  | sfpPlus => sfpPlusModule
  | qsfpPlus => qsfpPlusModule
  | qsfp28 => qsfp28Module

/-- The struct the vendor fields are taken from. -/
def ModuleType.vendor : ModuleType → Page → VendorFields
  | sfpPlus => sfpVendor
  | qsfpPlus => qsfpVendor
  | qsfp28 => qsfpVendor

/-- `pm_parse`. -/
def pmParse (a0 : Page) (port : PmPort) : Int × PmPort :=
  if port.moduleDevice.pluggable = false then (0, port)
  else
    match port.moduleDevice.connector with
    | none => (-1, port)
    | some connector =>
      match moduleType connector with
      | none =>
        (-1, port.pmDeleteAllData.setStaticString .connector PmInfo.CONNECTOR_UNKNOWN)
      | some type =>
        (0, (port.setModule (type.classify a0)).fillRest (type.vendor a0) a0)

/-! ## Checksums -/

/-- `pm_byte_sum`, with the sum in an `unsigned char`. Both bounds are inclusive. -/
def pmByteSum (block : Page) (start stop offset : Nat) : Nat :=
  let value := (List.range' start (stop + 1 - start)).foldl
    (fun value idx => value + block (Fin.ofNat 128 idx)) 0
  if value ≠ block (Fin.ofNat 128 offset) then 1 else 0

/-- `sfpp_sum_verify`. -/
def sfppSumVerify (block : Page) : Nat :=
  pmByteSum block 0 62 63 + pmByteSum block 64 94 95

/-- A page of a 10GBASE-SR module with good checksums. It says that there are diagnostics. -/
def srPage : Page := fun i =>
  if i = 3 then 0x10 else if i = 63 then 0x10 else if i = 92 then 0x68 else if i = 95 then 0x68
  else 0

example : sfppSumVerify srPage = 0 := by decide +kernel

/-! ## What the statements leave -/

namespace PmPort

variable (port : PmPort) (m : ModuleInfo) (v : VendorFields) (a0 : Page) {c : InfoColumn}

/-- Every call of `set_supported_speeds` passes one speed. -/
theorem setSupportedSpeeds_one (speed : Int) :
    port.setSupportedSpeeds [speed] =
      { port with cells := port.cells.store (.info .supportedSpeeds) (CText.formatInt speed) } :=
  rfl

theorem setModule_frame :
    port.setModule m =
      { port with cells := (port.setModule m).cells, optical := m.optical } := by
  unfold setModule
  cases m.cable <;> rfl

theorem fillRest_frame :
    port.fillRest v a0 = { port with cells := (port.fillRest v a0).cells } := rfl

theorem info_setSupportedSpeeds (speed : Int) :
    (port.setSupportedSpeeds [speed]).info c =
      if c = .supportedSpeeds then some (CText.formatInt speed) else port.info c := by
  simp [setSupportedSpeeds_one, info, Cells.get_store]

theorem dom_setSupportedSpeeds (speed : Int) (d : DomColumn) :
    (port.setSupportedSpeeds [speed]).dom d = port.dom d := by
  simp [setSupportedSpeeds_one, dom, Cells.get_store]

theorem dom_setModule (d : DomColumn) : (port.setModule m).dom d = port.dom d := by
  unfold setModule
  cases m.cable <;>
    simp only [dom_delete, dom_setIntString, dom_setStaticString, dom_setSupportedSpeeds] <;> rfl

theorem dom_fillRest (d : DomColumn) : (port.fillRest v a0).dom d = port.dom d := by
  simp only [fillRest, dom_setBinary, dom_setString, dom_delete]

theorem info_fillRest :
    (port.fillRest v a0).info c =
      match c with
      | .powerMode => none
      | .vendorName => some (vendorString v.vendorName)
      | .vendorOui => some (pmOuiFormat v.vendorOui)
      | .vendorPartNumber => some (vendorString v.vendorPartNumber)
      | .vendorRevision => some (vendorString v.vendorRevision)
      | .vendorSerialNumber => some (vendorString v.vendorSerialNumber)
      | .a0 => some (hexToAscii a0.toList)
      | c => port.info c := by
  simp only [fillRest, info_setBinary, info_setString, info_delete]
  cases c <;> simp

variable {port}

theorem info_setModule (h : port.IntWritten) :
    (port.setModule m).info c =
      match c with
      | .connector => some m.connector
      | .connectorStatus => some m.connectorStatus
      | .maxSpeed => some (CText.formatInt m.speed.toNat)
      | .supportedSpeeds => some (CText.formatInt m.speed.toNat)
      | .cableTechnology => m.cable.map Prod.fst
      | .cableLength => m.cable.map fun x => CText.formatInt x.2.toNat
      | c => port.info c := by
  -- the two columns that are compared with their old strings before they are set
  have hspeed := h .maxSpeed (Or.inl rfl)
  have hlength := h .cableLength (Or.inr rfl)
  have hinfo : ({ port with optical := m.optical } : PmPort).info = port.info := rfl
  unfold setModule
  cases m.cable with
  | none =>
    simp only [info_delete, info_setSupportedSpeeds]
    rw [info_setIntString]
    · simp only [info_setStaticString, hinfo]
      cases c <;> simp
    · simpa [info_setStaticString, hinfo] using hspeed
  | some x =>
    obtain ⟨technology, length⟩ := x
    rw [info_setIntString]
    · simp only [info_setStaticString, info_setSupportedSpeeds]
      rw [info_setIntString]
      · simp only [info_setStaticString, hinfo]
        cases c <;> simp
      · simpa [info_setStaticString, hinfo] using hspeed
    · simp only [info_setStaticString, info_setSupportedSpeeds]
      rw [info_setIntString]
      · simpa [info_setStaticString, hinfo] using hlength
      · simpa [info_setStaticString, hinfo] using hspeed

end PmPort

/-! ## What `pm_parse` leaves -/

variable {port : PmPort} {t : ModuleType} {a0 : Page}

/--
The identification columns `pm_parse` stores for a page. It leaves `a2` and `a0_uppers` alone.
-/
def ModuleType.identity (t : ModuleType) (a0 : Page) : InfoColumn → Option String
  | .cableLength => (t.classify a0).cable.map fun x => CText.formatInt x.2.toNat
  | .cableTechnology => (t.classify a0).cable.map Prod.fst
  | .connector => some (t.classify a0).connector
  | .connectorStatus => some (t.classify a0).connectorStatus
  | .supportedSpeeds => some (CText.formatInt (t.classify a0).speed.toNat)
  | .maxSpeed => some (CText.formatInt (t.classify a0).speed.toNat)
  | .powerMode => none
  | .vendorName => some (vendorString (t.vendor a0).vendorName)
  | .vendorOui => some (pmOuiFormat (t.vendor a0).vendorOui)
  | .vendorPartNumber => some (vendorString (t.vendor a0).vendorPartNumber)
  | .vendorRevision => some (vendorString (t.vendor a0).vendorRevision)
  | .vendorSerialNumber => some (vendorString (t.vendor a0).vendorSerialNumber)
  | .a0 => some (hexToAscii a0.toList)
  | .a0Uppers => none
  | .a2 => none

/-- On a port of a known connector kind `pm_parse` does not fail. -/
theorem pmParse_eq (h : port.moduleDevice.IsA t) :
    pmParse a0 port = (0, (port.setModule (t.classify a0)).fillRest (t.vendor a0) a0) := by
  unfold pmParse
  rw [if_neg (by simp [h.pluggable]), h.connector]
  simp

/-- `pm_parse` stores columns and `optical`, nothing else. -/
theorem pmParse_frame (h : port.moduleDevice.IsA t) :
    (pmParse a0 port).2 =
      { port with
        cells := (pmParse a0 port).2.cells
        optical := (t.classify a0).optical } := by
  rw [pmParse_eq h]
  show PmPort.fillRest _ _ _ = _
  rw [PmPort.fillRest_frame, PmPort.setModule_frame]

/-- **The identification columns after `pm_parse` are those of the page.** -/
theorem info_pmParse (h : port.moduleDevice.IsA t) (hn : port.IntWritten) {c : InfoColumn}
    (h0 : c ≠ .a0Uppers) (h2 : c ≠ .a2) :
    (pmParse a0 port).2.info c = t.identity a0 c := by
  rw [pmParse_eq h]
  show (PmPort.fillRest _ _ _).info c = _
  rw [PmPort.info_fillRest]
  cases c with
  | a0Uppers => exact absurd rfl h0
  | a2 => exact absurd rfl h2
  | powerMode | vendorName | vendorOui | vendorPartNumber | vendorRevision | vendorSerialNumber
  | a0 => rfl
  | _ => exact PmPort.info_setModule _ hn

theorem dom_pmParse (h : port.moduleDevice.IsA t) (d : DomColumn) :
    (pmParse a0 port).2.dom d = port.dom d := by
  rw [pmParse_eq h]
  show (PmPort.fillRest _ _ _).dom d = _
  rw [PmPort.dom_fillRest, PmPort.dom_setModule]

/-- A parsed page always raises the mark: `SET_BINARY` of `a0` does not compare. -/
theorem changed_pmParse (h : port.moduleDevice.IsA t) :
    (pmParse a0 port).2.moduleInfoChanged = true := by
  rw [pmParse_eq h]
  rfl

/-- `pm_parse` leaves the numeric columns numeric. -/
theorem numeric_pmParse (h : port.moduleDevice.IsA t) (hn : port.IntWritten) :
    (pmParse a0 port).2.Numeric := by
  rintro c (rfl | rfl) s hs
  · rw [info_pmParse h hn (by decide) (by decide)] at hs
    obtain rfl := Option.some.inj hs
    exact ⟨_, (t.classify a0).speed.toNat_lt.trans (by decide), rfl⟩
  · rw [info_pmParse h hn (by decide) (by decide)] at hs
    obtain ⟨x, -, rfl⟩ := Option.map_eq_some_iff.mp hs
    exact ⟨_, x.2.toNat_lt.trans (by decide), rfl⟩

end OpsPmd
