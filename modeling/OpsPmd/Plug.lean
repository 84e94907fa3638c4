import OpsPmd.Dom

/-!
# Reading and configuring modules (`plug.c`)

`pm_read_module_state` is the same code in both builds. What differs between the hardware build and
`PLATFORM_SIMULATION` are the functions it calls, so these form a `Platform` over a world `σ`.

* `Bus` — the I2C library in the hardware build: one stream of answers and a record of the requests
* `hardware`, `simulation` — the two platforms
* `pmReadModuleState` — one poll of a port
-/

namespace OpsPmd

/-- The functions of `plug.c` that differ between the builds. -/
structure Platform (σ : Type) where
  /-- `pm_get_presence`. -/
  getPresence : PortId → σ → Bool × σ
  /-- `pm_read_a0`, `none` where it fails. -/
  readA0 : PortId → Nat → σ → Option Page × σ
  /-- `pm_read_a2`, `none` where it fails. -/
  readA2 : PortId → σ → Option Page × σ
  /-- `pm_reset_port`. -/
  resetPort : PortId → σ → σ
  /-- `pm_clear_reset`. -/
  clearReset : PortId → σ → σ
  /-- `pm_configure_port`. -/
  configurePort : PmPort → σ → σ

/-! ## The I2C library -/

/-- A call of the I2C library on behalf of a port. -/
inductive I2cRequest
  | regRead (instanceName : String) (signal : Signal)
  | regWrite (instanceName : String) (signal : Signal) (data : UInt32)
  | dataRead (subsystem : String) (device : Option String) (offset : Nat)
  | dataWrite (subsystem : String) (device : Option String) (offset : Nat) (data : UInt8)
  deriving DecidableEq, Repr

/-- What a call gives back: the return code, and the register or the block it read. -/
structure I2cAnswer where
  rc : Int
  result : UInt32
  data : Page

/-- The library as seen from here: the answers still to come and what was asked so far. -/
structure Bus where
  answers : Nat → I2cAnswer
  trace : List (I2cRequest × I2cAnswer) := []
  /-- A null `i2c_bit_op` was dereferenced, or handed to the library. -/
  faulted : Bool := false

namespace Bus

def ask (bus : Bus) (request : I2cRequest) : I2cAnswer × Bus :=
  let answer := bus.answers bus.trace.length
  (answer, { bus with trace := bus.trace ++ [(request, answer)] })

/-- A null pointer is taken for an `i2c_bit_op`. -/
def fault (bus : Bus) : Bus := { bus with faulted := true }

/-- The library is handed the `i2c_bit_op` of a signal. -/
def hand (bus : Bus) (device : YamlPort) (signal : Signal) : Bus :=
  match device.signals signal with
  | none => bus.fault
  | some _ => bus

end Bus

/-! ## The hardware build -/

def SFP_SERIAL_ID_OFFSET : Nat := 0
def QSFP_SERIAL_ID_OFFSET : Nat := 128
def QSFP_DISABLE_OFFSET : Nat := 86
def MAX_DEVICE_NAME_LEN : Nat := 1024

/-- The `retry_read` loop of `pm_get_presence`. -/
def readPresence (port : PortId) (regOp : Signal) (retryCount : Nat) (bus : Bus) : Bool × Bus :=
  let (answer, bus) := bus.ask (.regRead port.instanceName regOp)
  if answer.rc ≠ 0 then
    match retryCount with
    | 0 => (false, bus)
    | retryCount + 1 => readPresence port regOp retryCount bus
  else (answer.result ≠ 0, bus)

/-- `pm_get_presence`. Whether the port has the signal is not checked. -/
def pmGetPresence (port : PortId) (bus : Bus) : Bool × Bus :=
  let read (regOp : Signal) : Bool × Bus :=
    readPresence port regOp 2 (bus.hand port.moduleDevice regOp)
  if port.moduleDevice.hasConnector CONNECTOR_SFP_PLUS then read .sfppModPresent
  else if port.moduleDevice.hasConnector CONNECTOR_QSFP_PLUS then read .qsfppModPresent
  else if port.moduleDevice.hasConnector CONNECTOR_QSFP28 then read .qsfp28pModPresent
  else (false, bus)

/-- `pm_read_a0`. -/
def pmReadA0 (port : PortId) (offset : Nat) (bus : Bus) : Option Page × Bus :=
  let (answer, bus) :=
    bus.ask (.dataRead port.subsystem (some port.moduleDevice.moduleEeprom) offset)
  (if answer.rc ≠ 0 then none else some answer.data, bus)

/-- The device name `pm_read_a2` builds, `none` where the buffer holds no string afterwards. -/
def a2DeviceName (port : PortId) : Option String :=
  let name := CText.strncpy port.moduleDevice.moduleEeprom.toList MAX_DEVICE_NAME_LEN
  if port.moduleDevice.hasConnector CONNECTOR_SFP_PLUS then
    (CText.strncat name "_dom".toList MAX_DEVICE_NAME_LEN).bind CText.bufferString
  else CText.bufferString name

/-- `pm_read_a2`. -/
def pmReadA2 (port : PortId) (bus : Bus) : Option Page × Bus :=
  let (answer, bus) := bus.ask (.dataRead port.subsystem (a2DeviceName port) 0)
  (if answer.rc ≠ 0 then none else some answer.data, bus)

/-- `pm_reset`. -/
def pmReset (port : PortId) (clear : Bool) (bus : Bus) : Bus :=
  let regOp : Option Signal :=
    if port.moduleDevice.hasConnector CONNECTOR_QSFP_PLUS then some .qsfppReset
    else if port.moduleDevice.hasConnector CONNECTOR_QSFP28 then some .qsfp28pReset
    else none
  match regOp with
  | none => bus
  | some signal =>
    if (port.moduleDevice.signals signal).isNone then bus
    else (bus.ask (.regWrite port.instanceName signal (if clear then 0 else 0xff))).2

/-- `pm_clear_reset`. -/
def pmClearReset (port : PortId) (bus : Bus) : Bus := pmReset port true bus

/-- `pm_reset_port`. -/
def pmResetPort (port : PortId) (bus : Bus) : Bus := pmClearReset port (pmReset port false bus)

/-- The byte `pm_configure_qsfp` puts together, one disable bit for each lane. -/
def PmPort.disableByte (port : PmPort) : UInt8 :=
  if port.split then
    (List.finRange 4).foldl
      (fun data idx => if port.hwEnableSubport idx then data else data ||| 1 <<< (UInt8.ofNat idx))
      0x00
  else if port.hwEnable then 0x00
  else 0x0f

/-- `pm_configure_qsfp`. -/
def pmConfigureQsfp (port : PmPort) (bus : Bus) : Bus :=
  if port.present = false then bus
  else if port.optical = false then bus
  else
    (bus.ask (.dataWrite port.subsystem (some port.moduleDevice.moduleEeprom)
      QSFP_DISABLE_OFFSET port.disableByte)).2

/-- `pm_configure_port`. Whether an SFP+ port has the signal is not checked. -/
def pmConfigurePort (port : PmPort) (bus : Bus) : Bus :=
  if port.moduleDevice.hasConnector CONNECTOR_QSFP_PLUS ||
      port.moduleDevice.hasConnector CONNECTOR_QSFP28 then
    pmConfigureQsfp port bus
  else
    match port.moduleDevice.signals .sfppTxDisable with
    | none => bus.fault
    | some regOp =>
      (bus.ask (.regWrite port.instanceName .sfppTxDisable
        (if port.hwEnable then 0 else regOp.bitMask))).2

def hardware : Platform Bus where
  getPresence := pmGetPresence
  readA0 := pmReadA0
  readA2 := pmReadA2
  resetPort := pmResetPort
  clearReset := pmClearReset
  configurePort := pmConfigurePort

/-- A presence register that reads as `present`. -/
def presenceAnswer (present : Bool) : I2cAnswer where
  rc := 0
  result := if present then 1 else 0
  data := fun _ => 0

/-- A read that gives the page `p`. -/
def pageAnswer (p : Page) : I2cAnswer where
  rc := 0
  result := 0
  data := p

/-- A call that fails. -/
def failedAnswer : I2cAnswer where
  rc := -1
  result := 0
  data := fun _ => 0

/-- The bus that gives these answers, and fails after the last. -/
def Bus.ofList (answers : List I2cAnswer) : Bus where
  answers n := answers.getD n failedAnswer

/-! ## The simulation -/

/-- The members of `pm_port_t` that only `PLATFORM_SIMULATION` has. -/
structure SimData where
  moduleData : Option Page := none
  portEnable : UInt8 := 0

/--
The simulated platform of one port. `pm_read_a0` copies from `module_data`, which is not null where
presence was just found. The reset signals of a simulated module have no effect on it.
-/
def simulation : Platform SimData where
  getPresence _ data := (data.moduleData.isSome, data)
  readA0 _ _ data := (data.moduleData, data)
  readA2 _ data := (none, data)
  resetPort _ data := data
  clearReset _ data := data
  configurePort port data :=
    if port.moduleDevice.hasConnector CONNECTOR_QSFP_PLUS ||
        port.moduleDevice.hasConnector CONNECTOR_QSFP28 then
      { data with portEnable := port.disableByte }
    else { data with portEnable := if port.hwEnable then 1 else 0 }

/-! ## `pm_read_module_state` -/

namespace PmPort

/-- The statements for a module that is not there. -/
def absent (port : PmPort) : PmPort :=
  let port := { port with present := false }
  let port := port.pmDeleteAllData
  let port := port.setStaticString .connector PmInfo.CONNECTOR_ABSENT
  port.setStaticString .connectorStatus PmInfo.CONNECTOR_STATUS_UNRECOGNIZED

/--
The statements for a module whose serial ID cannot be read. After a failed checksum the flags are
set before the deletion and not after it, which is the same.
-/
def unreadable (port : PmPort) : PmPort :=
  let port := port.pmDeleteAllData
  let port := { port with present := true, retry := true }
  let port := port.setStaticString .connector PmInfo.CONNECTOR_UNKNOWN
  port.setStaticString .connectorStatus PmInfo.CONNECTOR_STATUS_UNRECOGNIZED

end PmPort

variable {σ : Type}

/-- The page of 0xff that is decoded when no A2 read succeeded. -/
def allOnes : Page := fun _ => 0xff

/-- The `retry_read_a2` loop: the page that is decoded in the end. -/
def retryReadA2 (P : Platform σ) (port : PortId) (retryCount : Nat) (s : σ) : Page × σ :=
  match P.readA2 port s with
  | (some a2, s) => (a2, s)
  | (none, s) =>
    match retryCount with
    | 0 => (allOnes, s)
    | retryCount + 1 => retryReadA2 P port retryCount s

/-- `pm_read_module_state` from the test of `a2_read_requested` on. -/
def readDiagnostics (P : Platform σ) (port : PmPort) (retryCount : Nat) (s : σ) :
    Int × PmPort × σ :=
  if port.a2ReadRequested = false then (0, port, s)
  else
    let (a2, s) := retryReadA2 P port.toPortId retryCount s
    let port := pmSetA2 port a2
    (0, { port with a2ReadRequested := false }, s)

/-- `pm_read_module_state` from the label `retry_read` on. -/
def retryRead (P : Platform σ) (port : PmPort) (offset : Nat) (retryCount : Nat) (s : σ) :
    Int × PmPort × σ :=
  let (present, s) := P.getPresence port.toPortId s
  if present = false then
    -- a port found empty again is left as it is
    if port.present || (port.info .connector).isNone then (0, port.absent, s)
    else (0, port, s)
  else if port.present = false || port.retry then
    match P.readA0 port.toPortId offset s with
    | (none, s) =>
      match retryCount with
      | 0 => (-1, port.unreadable, s)
      | retryCount + 1 => retryRead P port offset retryCount (P.resetPort port.toPortId s)
    | (some a0, s) =>
      if sfppSumVerify a0 ≠ 0 then
        match retryCount with
        | 0 => (-1, port.unreadable, s)
        | retryCount + 1 => retryRead P port offset retryCount (P.resetPort port.toPortId s)
      else
        -- the page is parsed once its two checksums are right
        let (rc, port) := pmParse a0 port
        if rc = 0 then
          let port := { port with present := true, retry := false }
          -- the A2 reads have what is left of the retries
          readDiagnostics P (port.setA2ReadRequest a0) retryCount s
        else readDiagnostics P { port with retry := true } retryCount s
  else readDiagnostics P port retryCount s

/-- `pm_read_module_state`: the return code, the port and the world afterwards. -/
def pmReadModuleState (P : Platform σ) (port : PmPort) (s : σ) : Int × PmPort × σ :=
  if port.moduleDevice.hasConnector CONNECTOR_SFP_PLUS then
    retryRead P port SFP_SERIAL_ID_OFFSET 2 s
  else if port.moduleDevice.hasConnector CONNECTOR_QSFP_PLUS ||
      port.moduleDevice.hasConnector CONNECTOR_QSFP28 then
    retryRead P port QSFP_SERIAL_ID_OFFSET 2 s
  else (-1, port, s)

end OpsPmd
