import OpsPmd.PortInvariant

/-!
# Classification byte by byte

What `pm_parse` stores about a module in terms of the bytes of its serial ID page alone: tables of
bits and of codes, of which the first that fits counts.

* `ModuleType.reference` — the tables
* `parsed_as_reference` — `pm_parse` agrees with them, whatever the port held before
* `qsfp_paths_agree` — without extended compliance code the two QSFP types are treated alike
-/

namespace OpsPmd

open PmInfo

variable {t : ModuleType} {port : PmPort} {p : Page}

/-! ## The tables -/

/-- What a page says about a module. -/
structure Reference where
  connector : String
  speed : Nat
  optical : Bool
  /-- Technology and length of a DAC cable. -/
  cable : Option (String × Nat) := none
  deriving DecidableEq

namespace Reference

def unknown : Reference := { connector := CONNECTOR_UNKNOWN, speed := 0, optical := false }

/-- Everything that is known is supported. -/
def status (r : Reference) : String :=
  if r.connector = CONNECTOR_UNKNOWN then CONNECTOR_STATUS_UNRECOGNIZED
  else CONNECTOR_STATUS_SUPPORTED

end Reference

/-- A kind of module with the test that tells it. -/
structure Kind where
  test : Page → Bool
  reference : Reference

/-- A kind that is told by a bit. -/
def Kind.ofBit (i : Fin 128) (k : Nat) (connector : String) (speed : Nat) (optical : Bool) : Kind where
  test p := (p i).toNat.testBit k
  reference := { connector := connector, speed := speed, optical := optical }

/-- A 100G kind that is told by the extended compliance code. -/
def Kind.ofCode (code : UInt8) (connector : String) (optical : Bool) : Kind where
  test p := p 64 == code
  reference := { connector := connector, speed := 100000, optical := optical }

/-- The first kind of a table that a page passes the test of. -/
def firstKind (p : Page) (kinds : List Kind) : Reference :=
  ((kinds.find? fun kind => kind.test p).map Kind.reference).getD .unknown

def sfpKinds : List Kind :=
  [.ofBit 6 0 CONNECTOR_SFP_SX 1000 true, .ofBit 6 1 CONNECTOR_SFP_LX 1000 true,
    .ofBit 6 2 CONNECTOR_SFP_CX 1000 false, .ofBit 6 3 CONNECTOR_SFP_RJ45 1000 false,
    .ofBit 3 4 CONNECTOR_SFP_SR 10000 true, .ofBit 3 5 CONNECTOR_SFP_LR 10000 true,
    .ofBit 3 6 CONNECTOR_SFP_LRM 10000 true]

def qsfpKinds : List Kind :=
  [.ofBit 3 1 CONNECTOR_QSFP_LR4 40000 true, .ofBit 3 2 CONNECTOR_QSFP_SR4 40000 true,
    .ofBit 3 3 CONNECTOR_QSFP_CR4 40000 false]

def qsfp28Kinds : List Kind :=
  [.ofCode 0x02 CONNECTOR_QSFP28_SR4 true, .ofCode 0x03 CONNECTOR_QSFP28_LR4 true,
    .ofCode 0x06 CONNECTOR_QSFP28_CWDM4 true, .ofCode 0x07 CONNECTOR_QSFP28_PSM4 true,
    .ofCode 0x0B CONNECTOR_QSFP28_CR4 false, .ofCode 0x17 CONNECTOR_QSFP28_CLR4 true]

/--
A copper cable: the rate from byte 12, the technology from byte 8 and the length from byte 18.
-/
def dacReference (p : Page) : Reference where
  connector := CONNECTOR_SFP_DAC
  speed := if 0x64 ≤ (p 12).toNat then 10000 else 1000
  optical := false
  cable := some
    (if (p 8).toNat.testBit 3 then CABLE_TECHNOLOGY_ACTIVE else CABLE_TECHNOLOGY_PASSIVE,
      (p 18).toNat)

/-- What the bytes of a page say, by type of port. -/
def ModuleType.reference : ModuleType → Page → Reference
  | sfpPlus, p => if p 2 = 0x21 then dacReference p else firstKind p sfpKinds
  | qsfpPlus, p => firstKind p qsfpKinds
  | qsfp28, p =>
    if (p 3).toNat.testBit 7 then firstKind p qsfp28Kinds else firstKind p qsfpKinds

/-- Two digits. -/
def hexByte (b : UInt8) : List Char := (Nat.toDigits 16 b.toNat).leftpad 2 '0'

/-- Bytes 37 to 39 with dashes between them. -/
def ouiReference (p : Page) : String :=
  String.ofList (hexByte (p 37) ++ '-' :: hexByte (p 38) ++ '-' :: hexByte (p 39))

/-! ## `pm_parse` and the tables -/

theorem firstKind_nil : firstKind p [] = .unknown := rfl

theorem firstKind_cons (kind : Kind) (kinds : List Kind) :
    firstKind p (kind :: kinds) =
      if kind.test p then kind.reference else firstKind p kinds := by
  unfold firstKind
  rw [List.find?_cons]
  cases kind.test p <;> rfl

/-- What a branch of `pm_parse` finds, without the status. -/
def ModuleInfo.toReference (m : ModuleInfo) : Reference where
  connector := m.connector
  speed := m.speed.toNat
  optical := m.optical
  cable := m.cable.map fun x => (x.1, x.2.toNat)

theorem toReference_sfpDac (p : Page) : (sfpDac p).toReference = dacReference p := by
  unfold sfpDac ModuleInfo.toReference dacReference
  simp only [ite_self, apply_ite UInt32.toNat]
  rfl

theorem toReference_sfpPlusModule (p : Page) :
    (sfpPlusModule p).toReference = ModuleType.reference .sfpPlus p := by
  unfold sfpPlusModule
  simp only [ModuleType.reference, sfpKinds, firstKind_cons, firstKind_nil,
    apply_ite ModuleInfo.toReference, toReference_sfpDac]
  rfl

theorem toReference_qsfpPlusModule (p : Page) :
    (qsfpPlusModule p).toReference = firstKind p qsfpKinds := by
  unfold qsfpPlusModule
  simp only [qsfpKinds, firstKind_cons, firstKind_nil, apply_ite ModuleInfo.toReference]
  rfl

theorem toReference_extComplianceModule (p : Page) :
    (extComplianceModule (QsfpSerialId.extComplianceCode p)).toReference =
      firstKind p qsfp28Kinds := by
  unfold extComplianceModule
  simp only [qsfp28Kinds, firstKind_cons, firstKind_nil, apply_ite ModuleInfo.toReference,
    Kind.ofCode, beq_iff_eq]
  rfl

/-- Without extended compliance code a QSFP28 page is looked at as a QSFP+ page. -/
theorem qsfp28Module_of_not_extended (h : QsfpSerialId.enetExtended p = false) :
    qsfp28Module p = qsfpPlusModule p := by
  unfold qsfp28Module
  rw [if_neg (by simp [h])]
  rfl

theorem toReference_qsfp28Module (p : Page) :
    (qsfp28Module p).toReference = ModuleType.reference .qsfp28 p := by
  show _ = if QsfpSerialId.enetExtended p then _ else _
  cases h : QsfpSerialId.enetExtended p with
  | false =>
    rw [qsfp28Module_of_not_extended h, toReference_qsfpPlusModule]
    rfl
  | true =>
    unfold qsfp28Module
    rw [if_pos h, if_pos rfl]
    exact toReference_extComplianceModule p

/-- **The branches of `pm_parse` find what the tables say.** -/
theorem toReference_classify (t : ModuleType) (p : Page) :
    (t.classify p).toReference = t.reference p := by
  cases t with
  | sfpPlus => exact toReference_sfpPlusModule p
  | qsfpPlus => exact toReference_qsfpPlusModule p
  | qsfp28 => exact toReference_qsfp28Module p

theorem connectorStatus_eq_status {m : ModuleInfo} (h : m.Valid) :
    m.connectorStatus = m.toReference.status := by
  cases h with
  | unrecognized => rfl
  | supported _ unknown status _ _ => exact status.trans (if_neg unknown).symm

/-! ## The organisation -/

theorem hexByte_eq (b : UInt8) :
    hexByte b = [hexDigit (b.toNat / 16), hexDigit (b.toNat % 16)] := by
  have hall : ∀ n < 256, (Nat.toDigits 16 n).leftpad 2 '0' =
      [Nat.digitChar (n / 16), Nat.digitChar (n % 16)] := by decide +kernel
  exact hall b.toNat b.toNat_lt

theorem pmOuiFormat_vendor (t : ModuleType) (p : Page) :
    pmOuiFormat (t.vendor p).vendorOui = ouiReference p := by
  unfold ouiReference
  rw [hexByte_eq, hexByte_eq, hexByte_eq]
  cases t <;> rfl

/-! ## What is stored -/

/-- The columns that tell the kind of a module, and `optical`, are those of a page. -/
structure Shows (r : Reference) (oui : String) (port : PmPort) : Prop where
  connector : port.info .connector = some r.connector
  connectorStatus : port.info .connectorStatus = some r.status
  maxSpeed : port.info .maxSpeed = some (toString r.speed)
  supportedSpeeds : port.info .supportedSpeeds = some (toString r.speed)
  cableTechnology : port.info .cableTechnology = r.cable.map Prod.fst
  cableLength : port.info .cableLength = r.cable.map fun x => toString x.2
  vendorOui : port.info .vendorOui = some oui
  optical : port.optical = r.optical

/--
**`pm_parse` stores what the tables say of the page.** The old columns do not count, if those that
hold numbers were written by `SET_INT_STRING`.
-/
theorem parsed_as_reference (h : port.moduleDevice.IsA t) (hn : port.IntWritten) (a0 : Page) :
    (pmParse a0 port).1 = 0 ∧ Shows (t.reference a0) (ouiReference a0) (pmParse a0 port).2 := by
  have hinfo : ∀ c, c ≠ .a0Uppers → c ≠ .a2 →
      (pmParse a0 port).2.info c = t.identity a0 c := fun c h0 h2 => info_pmParse h hn h0 h2
  refine ⟨by rw [pmParse_eq h], ?_⟩
  rw [← toReference_classify]
  constructor
  · exact hinfo _ (by decide) (by decide)
  · rw [hinfo _ (by decide) (by decide), ← connectorStatus_eq_status (valid_classify t a0)]
    rfl
  · exact hinfo _ (by decide) (by decide)
  · exact hinfo _ (by decide) (by decide)
  · rw [hinfo _ (by decide) (by decide), ModuleInfo.toReference, Option.map_map]
    rfl
  · rw [hinfo _ (by decide) (by decide), ModuleInfo.toReference, Option.map_map]
    rfl
  · rw [hinfo _ (by decide) (by decide), ← pmOuiFormat_vendor t]
    rfl
  · rw [pmParse_frame h]
    rfl

/-- An SX module in a port that held a cable of 3 m and a speed of -1 before. -/
theorem parsed_as_reference_sx :
    let port := ((newPort ⟨0, "1", []⟩ "base" ModuleType.sfpPlus.device).setIntString
      .maxSpeed (-1)).setIntString .cableLength 3
    let a0 : Page := fun i => if i = 6 then 1 else 0
    (pmParse a0 port).1 = 0 ∧
      Shows (ModuleType.reference .sfpPlus a0) (ouiReference a0) (pmParse a0 port).2 := by
  refine parsed_as_reference (ModuleType.isA_device .sfpPlus) ?_ _
  rintro c (rfl | rfl) s hs
  · obtain rfl := Option.some.inj hs
    exact ⟨-1, by omega, by omega, rfl⟩
  · obtain rfl := Option.some.inj hs
    exact ⟨3, by omega, by omega, rfl⟩

/-! ## The two QSFP types -/

namespace PmPort

/-- The port with another connector in its description. -/
def withConnector (port : PmPort) (connector : String) : PmPort :=
  { port with moduleDevice := { port.moduleDevice with connector := some connector } }

variable {connector : String}

theorem setModule_withConnector (m : ModuleInfo) :
    (port.withConnector connector).setModule m = (port.setModule m).withConnector connector := by
  unfold setModule
  cases m.cable <;> rfl

theorem fillRest_withConnector (v : VendorFields) (a0 : Page) :
    (port.withConnector connector).fillRest v a0 =
      (port.fillRest v a0).withConnector connector := rfl

theorem isA_withConnector (hplug : port.moduleDevice.pluggable = true) :
    (port.withConnector CONNECTOR_QSFP28).moduleDevice.IsA .qsfp28 ∧
      (port.withConnector CONNECTOR_QSFP_PLUS).moduleDevice.IsA .qsfpPlus :=
  ⟨⟨hplug, rfl⟩, ⟨hplug, rfl⟩⟩

end PmPort

open PmPort

/-- `pm_parse` on ports that differ in the QSFP type only. -/
theorem pmParse_qsfp (port : PmPort) {a0 : Page} (h : QsfpSerialId.enetExtended a0 = false) :
    (pmParse a0 (port.withConnector CONNECTOR_QSFP28)).1 =
        (pmParse a0 (port.withConnector CONNECTOR_QSFP_PLUS)).1 ∧
      (pmParse a0 (port.withConnector CONNECTOR_QSFP28)).2 =
        (pmParse a0 (port.withConnector CONNECTOR_QSFP_PLUS)).2.withConnector CONNECTOR_QSFP28 := by
  cases hplug : port.moduleDevice.pluggable with
  | false =>
    have hout : ∀ c, pmParse a0 (port.withConnector c) = (0, port.withConnector c) :=
      fun c => if_pos hplug
    rw [hout, hout]
    exact ⟨rfl, rfl⟩
  | true =>
    obtain ⟨h28, hplus⟩ := isA_withConnector hplug
    have hclass : ModuleType.classify .qsfp28 a0 = ModuleType.classify .qsfpPlus a0 :=
      qsfp28Module_of_not_extended h
    rw [pmParse_eq h28, pmParse_eq hplus, hclass, setModule_withConnector, setModule_withConnector,
      fillRest_withConnector, fillRest_withConnector]
    exact ⟨rfl, rfl⟩

theorem setA2ReadRequest_qsfp (port : PmPort) (a0 : Page) :
    (port.withConnector CONNECTOR_QSFP28).setA2ReadRequest a0 =
      ((port.withConnector CONNECTOR_QSFP_PLUS).setA2ReadRequest a0).withConnector
        CONNECTOR_QSFP28 := by
  unfold setA2ReadRequest
  simp only [YamlPort.hasConnector, withConnector, CONNECTOR_SFP_PLUS, CONNECTOR_QSFP_PLUS,
    CONNECTOR_QSFP28]
  cases QsfpSerialId.averageInputOpticalPower a0 <;> simp

theorem pmSetA2_qsfp (port : PmPort) (a2 : Page) :
    pmSetA2 (port.withConnector CONNECTOR_QSFP28) a2 =
      (pmSetA2 (port.withConnector CONNECTOR_QSFP_PLUS) a2).withConnector CONNECTOR_QSFP28 := by
  cases hplug : port.moduleDevice.pluggable with
  | false =>
    have hout : ∀ c, pmSetA2 (port.withConnector c) a2 = port.withConnector c :=
      fun c => if_pos hplug
    rw [hout, hout]
    rfl
  | true =>
    obtain ⟨h28, hplus⟩ := isA_withConnector hplug
    rw [pmSetA2_eq h28, pmSetA2_eq hplus]
    rfl

/--
**On a page without extended compliance code the ports of the two QSFP types are treated alike.** In
whatever state they are, they differ in the connector of their description alone, and so they do
after `pm_parse`, `set_a2_read_request` and `pm_set_a2`.
-/
theorem qsfp_paths_agree (port : PmPort) {a0 : Page} (h : a0.bit 3 7 = false) :
    (pmParse a0 (port.withConnector CONNECTOR_QSFP28)).1 =
        (pmParse a0 (port.withConnector CONNECTOR_QSFP_PLUS)).1 ∧
      (pmParse a0 (port.withConnector CONNECTOR_QSFP28)).2 =
        (pmParse a0 (port.withConnector CONNECTOR_QSFP_PLUS)).2.withConnector CONNECTOR_QSFP28 ∧
      (∀ port' : PmPort, (port'.withConnector CONNECTOR_QSFP28).setA2ReadRequest a0 =
        ((port'.withConnector CONNECTOR_QSFP_PLUS).setA2ReadRequest a0).withConnector
          CONNECTOR_QSFP28) ∧
      ∀ (port' : PmPort) (a2 : Page), pmSetA2 (port'.withConnector CONNECTOR_QSFP28) a2 =
        (pmSetA2 (port'.withConnector CONNECTOR_QSFP_PLUS) a2).withConnector CONNECTOR_QSFP28 := by
  obtain ⟨hcode, hport⟩ := pmParse_qsfp port h
  exact ⟨hcode, hport, fun port' => setA2ReadRequest_qsfp port' a0, pmSetA2_qsfp⟩

/-- An SR4 module. -/
theorem qsfp_paths_agree_sr4 :
    let port := newPort ⟨0, "1", []⟩ "base" ModuleType.qsfpPlus.device
    let a0 : Page := fun i => if i = 3 then 4 else 0
    (pmParse a0 (port.withConnector CONNECTOR_QSFP28)).1 =
        (pmParse a0 (port.withConnector CONNECTOR_QSFP_PLUS)).1 ∧
      (pmParse a0 (port.withConnector CONNECTOR_QSFP28)).2 =
        (pmParse a0 (port.withConnector CONNECTOR_QSFP_PLUS)).2.withConnector CONNECTOR_QSFP28 ∧
      (∀ port' : PmPort, (port'.withConnector CONNECTOR_QSFP28).setA2ReadRequest a0 =
        ((port'.withConnector CONNECTOR_QSFP_PLUS).setA2ReadRequest a0).withConnector
          CONNECTOR_QSFP28) ∧
      ∀ (port' : PmPort) (a2 : Page), pmSetA2 (port'.withConnector CONNECTOR_QSFP28) a2 =
        (pmSetA2 (port'.withConnector CONNECTOR_QSFP_PLUS) a2).withConnector CONNECTOR_QSFP28 :=
  qsfp_paths_agree _ (by decide)

end OpsPmd
