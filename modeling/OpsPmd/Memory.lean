import OpsPmd.Plug
import OpsPmd.Lib.Heap

/-!
# Columns in memory (`pmd.h`, `plug.c`, `pm_detect.c`, `pm_dom.c`)

The columns are pointers. Four of them are set to string constants only. Each of the others owns the
string it points to, which is freed before the pointer changes.

`Statements.f` is the list of statements about columns that the function `f` executes.

* `Runs` — statements that treat each column as what it is, and what they do to the columns
* `runs_pmReadModuleState` — those of a poll do what the poll does to the columns
-/

namespace OpsPmd

/-- A statement about a column: one of the macros of `pmd.h` or `set_supported_speeds`. -/
abbrev Statement := PointerOp Column String

/-- Whether a column owns the string it points to. -/
def Column.owning : Column → Bool
  | info .connector | info .connectorStatus | info .cableTechnology | info .powerMode => false
  | _ => true

/-! ## The statements -/

namespace Statement

/-- `SET_STATIC_STRING`. -/
def setStaticString (field : InfoColumn) (value : String) : Statement := .assign (.info field) value

/-- `SET_STRING`. -/
def setString (field : InfoColumn) (value : String) : Statement := .update (string field value)

/-- `SET_INT_STRING`. -/
def setIntString (field : InfoColumn) (value : Int) : Statement := .update (intString field value)

/-- `SET_BINARY`. -/
def setBinary (field : InfoColumn) (value : List UInt8) : Statement :=
  .renew (.info field) (hexToAscii value)

/-- `set_supported_speeds` with one speed. -/
def setSupportedSpeeds (speed : Int) : Statement :=
  .renew (.info .supportedSpeeds) (CText.formatInt speed)

/-- `DELETE`. -/
def delete (field : InfoColumn) : Statement := .drop (.info field)

/-- `DELETE_FREE`. -/
def deleteFree (field : InfoColumn) : Statement := .release (.info field)

end Statement

namespace Statements

open Statement

/-- `pm_delete_all_data`. -/
def pmDeleteAllData : List Statement :=
  [delete .connectorStatus, deleteFree .supportedSpeeds, delete .cableTechnology,
    deleteFree .cableLength, deleteFree .maxSpeed, delete .powerMode, deleteFree .vendorName,
    deleteFree .vendorOui, deleteFree .vendorPartNumber, deleteFree .vendorRevision,
    deleteFree .vendorSerialNumber, deleteFree .a0, deleteFree .a2, deleteFree .a0Uppers]

/-- A branch of `pm_parse`. -/
def setModule (m : ModuleInfo) : List Statement :=
  [setStaticString .connector m.connector, setStaticString .connectorStatus m.connectorStatus,
    setIntString .maxSpeed m.speed.toNat, setSupportedSpeeds m.speed.toNat] ++
  match m.cable with
  | some (technology, length) =>
    [setStaticString .cableTechnology technology, setIntString .cableLength length.toNat]
  | none => [delete .cableTechnology, deleteFree .cableLength]

/-- `pm_parse` after its branches. -/
def fillRest (v : VendorFields) (a0 : Page) : List Statement :=
  [delete .powerMode, setString .vendorName (vendorString v.vendorName),
    setString .vendorOui (pmOuiFormat v.vendorOui),
    setString .vendorPartNumber (vendorString v.vendorPartNumber),
    setString .vendorRevision (vendorString v.vendorRevision),
    setString .vendorSerialNumber (vendorString v.vendorSerialNumber), setBinary .a0 a0.toList]

/-- `pm_parse`. -/
def pmParse (device : YamlPort) (a0 : Page) : List Statement :=
  if device.pluggable = false then []
  else
    match device.connector with
    | none => []
    | some connector =>
      match moduleType connector with
      | none => pmDeleteAllData ++ [setStaticString .connector PmInfo.CONNECTOR_UNKNOWN]
      | some type => setModule (type.classify a0) ++ fillRest (type.vendor a0) a0

/-- `pm_set_a2`. -/
def pmSetA2 (device : YamlPort) (a2 : Page) : List Statement :=
  if device.pluggable = false then []
  else
    match device.connector with
    | none => []
    | some connector =>
      match moduleType connector with
      | none => [setStaticString .connector PmInfo.CONNECTOR_UNKNOWN]
      | some type => (type.domWrites a2).map PointerOp.update ++ [setBinary .a2 a2.toList]

/-- `pm_read_module_state` for a module that is not there. -/
def absent : List Statement :=
  pmDeleteAllData ++ [setStaticString .connector PmInfo.CONNECTOR_ABSENT,
    setStaticString .connectorStatus PmInfo.CONNECTOR_STATUS_UNRECOGNIZED]

/-- `pm_read_module_state` for a module whose serial ID cannot be read. -/
def unreadable : List Statement :=
  pmDeleteAllData ++ [setStaticString .connector PmInfo.CONNECTOR_UNKNOWN,
    setStaticString .connectorStatus PmInfo.CONNECTOR_STATUS_UNRECOGNIZED]

variable {σ : Type}

/-- `pm_read_module_state` from the test of `a2_read_requested` on. -/
def readDiagnostics (P : Platform σ) (port : PmPort) (retryCount : Nat) (s : σ) : List Statement :=
  if port.a2ReadRequested = false then []
  else pmSetA2 port.moduleDevice (retryReadA2 P port.toPortId retryCount s).1

/-- `pm_read_module_state` from the label `retry_read` on. -/
def retryRead (P : Platform σ) (port : PmPort) (offset : Nat) (retryCount : Nat) (s : σ) :
    List Statement :=
  let (present, s) := P.getPresence port.toPortId s
  if present = false then
    if port.present || (port.info .connector).isNone then absent else []
  else if port.present = false || port.retry then
    match P.readA0 port.toPortId offset s with
    | (none, s) =>
      match retryCount with
      | 0 => unreadable
      | retryCount + 1 => retryRead P port offset retryCount (P.resetPort port.toPortId s)
    | (some a0, s) =>
      if sfppSumVerify a0 ≠ 0 then
        match retryCount with
        | 0 => unreadable
        | retryCount + 1 => retryRead P port offset retryCount (P.resetPort port.toPortId s)
      else
        let (rc, parsed) := OpsPmd.pmParse a0 port
        pmParse port.moduleDevice a0 ++
          if rc = 0 then
            let parsed := { parsed with present := true, retry := false }
            readDiagnostics P (parsed.setA2ReadRequest a0) retryCount s
          else readDiagnostics P { parsed with retry := true } retryCount s
  else readDiagnostics P port retryCount s

/-- `pm_read_module_state`. -/
def pmReadModuleState (P : Platform σ) (port : PmPort) (s : σ) : List Statement :=
  if port.moduleDevice.hasConnector CONNECTOR_SFP_PLUS then
    retryRead P port SFP_SERIAL_ID_OFFSET 2 s
  else if port.moduleDevice.hasConnector CONNECTOR_QSFP_PLUS ||
      port.moduleDevice.hasConnector CONNECTOR_QSFP28 then
    retryRead P port QSFP_SERIAL_ID_OFFSET 2 s
  else []

end Statements

/-! ## What they do -/

/-- The statements treat each column as what it is, and take the columns from `c` to `c'`. -/
structure Runs (ops : List Statement) (c c' : Cells Column String) : Prop where
  fits : ∀ op ∈ ops, op.Fits Column.owning
  cells : ops.foldl PointerOp.onCells c = c'

namespace Runs

variable {ops ops' : List Statement} {c c' c'' : Cells Column String}

theorem nil (c : Cells Column String) : Runs [] c c := ⟨fun _ h => (List.not_mem_nil h).elim, rfl⟩

theorem append (h : Runs ops c c') (h' : Runs ops' c' c'') : Runs (ops ++ ops') c c'' := by
  refine ⟨fun op hop => ?_, by rw [List.foldl_append, h.cells, h'.cells]⟩
  rcases List.mem_append.mp hop with hop | hop
  · exact h.fits op hop
  · exact h'.fits op hop

end Runs

variable {port : PmPort}

theorem runs_pmDeleteAllData (port : PmPort) :
    Runs Statements.pmDeleteAllData port.cells port.pmDeleteAllData.cells := by
  refine ⟨?_, rfl⟩
  simp only [Statements.pmDeleteAllData, List.forall_mem_cons]
  exact ⟨rfl, rfl, rfl, rfl, rfl, rfl, rfl, rfl, rfl, rfl, rfl, rfl, rfl, rfl,
    fun _ h => (List.not_mem_nil h).elim⟩

theorem runs_setModule (m : ModuleInfo) :
    Runs (Statements.setModule m) port.cells (port.setModule m).cells := by
  unfold Statements.setModule PmPort.setModule
  cases m.cable with
  | none =>
    refine ⟨?_, rfl⟩
    simp only [List.cons_append, List.nil_append, List.forall_mem_cons]
    exact ⟨rfl, rfl, rfl, rfl, rfl, rfl, fun _ h => (List.not_mem_nil h).elim⟩
  | some cable =>
    refine ⟨?_, rfl⟩
    simp only [List.cons_append, List.nil_append, List.forall_mem_cons]
    exact ⟨rfl, rfl, rfl, rfl, rfl, rfl, fun _ h => (List.not_mem_nil h).elim⟩

theorem runs_fillRest (v : VendorFields) (a0 : Page) :
    Runs (Statements.fillRest v a0) port.cells (port.fillRest v a0).cells := by
  refine ⟨?_, rfl⟩
  simp only [Statements.fillRest, List.forall_mem_cons]
  exact ⟨rfl, rfl, rfl, rfl, rfl, rfl, rfl, fun _ h => (List.not_mem_nil h).elim⟩

/-- The constants of a branch replace constants, and the strings strings. -/
theorem runs_setStaticString {field : InfoColumn} (h : (Column.info field).owning = false)
    (value : String) :
    Runs [Statement.setStaticString field value] port.cells
      (port.setStaticString field value).cells :=
  ⟨fun _ hop => List.mem_singleton.mp hop ▸ h, rfl⟩

theorem runs_setBinary {field : InfoColumn} (h : (Column.info field).owning = true)
    (value : List UInt8) :
    Runs [Statement.setBinary field value] port.cells (port.setBinary field value).cells :=
  ⟨fun _ hop => List.mem_singleton.mp hop ▸ h, rfl⟩

theorem runs_pmParse (port : PmPort) (a0 : Page) :
    Runs (Statements.pmParse port.moduleDevice a0) port.cells (pmParse a0 port).2.cells := by
  unfold Statements.pmParse pmParse
  split
  · exact Runs.nil _
  · cases port.moduleDevice.connector with
    | none => exact Runs.nil _
    | some connector =>
      dsimp only
      cases moduleType connector with
      | none => exact (runs_pmDeleteAllData _).append (runs_setStaticString rfl _)
      | some type => exact (runs_setModule _).append (runs_fillRest _ _)

/-- Every diagnostic column owns its string. -/
theorem runs_domWrites (t : ModuleType) (a2 : Page) (c : Cells Column String) :
    Runs ((t.domWrites a2).map PointerOp.update) c (c.writeAll (t.domWrites a2)) := by
  refine ⟨fun op hop => ?_, ?_⟩
  · obtain ⟨w, hw, rfl⟩ := List.mem_map.mp hop
    have hkey : w.key ∈ t.domColumns.map Column.dom := by
      rw [← ModuleType.map_key_domWrites t a2]
      exact List.mem_map_of_mem hw
    obtain ⟨d, -, hd⟩ := List.mem_map.mp hkey
    show w.key.owning = true
    rw [← hd]
    rfl
  · rw [List.foldl_map]
    rfl

theorem runs_pmSetA2 (port : PmPort) (a2 : Page) :
    Runs (Statements.pmSetA2 port.moduleDevice a2) port.cells (pmSetA2 port a2).cells := by
  unfold Statements.pmSetA2 pmSetA2
  split
  · exact Runs.nil _
  · cases port.moduleDevice.connector with
    | none => exact Runs.nil _
    | some connector =>
      dsimp only
      cases moduleType connector with
      | none => exact runs_setStaticString rfl _
      | some type =>
        let written : PmPort := { port with cells := port.cells.writeAll (type.domWrites a2) }
        have hpage : Runs [Statement.setBinary .a2 a2.toList] written.cells
            (written.setBinary .a2 a2.toList).cells := runs_setBinary rfl _
        exact (runs_domWrites type a2 _).append hpage

theorem runs_absent (port : PmPort) : Runs Statements.absent port.cells port.absent.cells := by
  refine Runs.append (runs_pmDeleteAllData _) ⟨?_, rfl⟩
  simp only [List.forall_mem_cons]
  exact ⟨rfl, rfl, fun _ h => (List.not_mem_nil h).elim⟩

theorem runs_unreadable (port : PmPort) :
    Runs Statements.unreadable port.cells port.unreadable.cells := by
  refine (runs_pmDeleteAllData _).append ⟨?_, rfl⟩
  simp only [List.forall_mem_cons]
  exact ⟨rfl, rfl, fun _ h => (List.not_mem_nil h).elim⟩

section Poll

variable {σ : Type} (P : Platform σ)

theorem runs_readDiagnostics (port : PmPort) (n : Nat) (s : σ) :
    Runs (Statements.readDiagnostics P port n s) port.cells
      (readDiagnostics P port n s).2.1.cells := by
  unfold Statements.readDiagnostics readDiagnostics
  split
  · exact Runs.nil _
  · exact runs_pmSetA2 port _

theorem cells_setA2ReadRequest (port : PmPort) (a0 : Page) :
    (port.setA2ReadRequest a0).cells = port.cells := by
  unfold PmPort.setA2ReadRequest
  split_ifs <;> rfl

theorem runs_retryRead (port : PmPort) (offset : Nat) : ∀ (n : Nat) (s : σ),
    Runs (Statements.retryRead P port offset n s) port.cells
      (retryRead P port offset n s).2.1.cells
  | n, s => by
    rw [Statements.retryRead.eq_def, retryRead.eq_def]
    obtain ⟨present, s'⟩ := P.getPresence port.toPortId s
    dsimp only
    split
    · split
      · exact runs_absent port
      · exact Runs.nil _
    · split
      · obtain ⟨a0, s''⟩ := P.readA0 port.toPortId offset s'
        cases a0 with
        | none =>
          cases n with
          | zero => exact runs_unreadable port
          | succ n => exact runs_retryRead port offset n _
        | some a0 =>
          dsimp only
          split
          · cases n with
            | zero => exact runs_unreadable port
            | succ n => exact runs_retryRead port offset n _
          · refine Runs.append (runs_pmParse port a0) ?_
            split
            · have hread := runs_readDiagnostics P
                (({ (pmParse a0 port).2 with present := true, retry := false } :
                  PmPort).setA2ReadRequest a0) n s''
              rwa [cells_setA2ReadRequest] at hread
            · exact runs_readDiagnostics P { (pmParse a0 port).2 with retry := true } n s''
      · exact runs_readDiagnostics P port n s'

/-- **The statements of a poll do to the columns what the poll does.** -/
theorem runs_pmReadModuleState (port : PmPort) (s : σ) :
    Runs (Statements.pmReadModuleState P port s) port.cells
      (pmReadModuleState P port s).2.1.cells := by
  unfold Statements.pmReadModuleState pmReadModuleState
  split_ifs
  · exact runs_retryRead P port _ 2 s
  · exact runs_retryRead P port _ 2 s
  · exact Runs.nil _

end Poll

end OpsPmd
