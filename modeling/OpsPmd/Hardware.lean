import OpsPmd.PortInvariant

/-!
# What the hardware build asks of the bus

Every function of the hardware build appends requests to the trace of its bus. `Bus.Adds R` says
which kind of requests a function adds, and each function of `plug.c` has one lemma about it.
-/

namespace OpsPmd

/-! ## Kinds of requests -/

namespace I2cRequest

def IsRead : I2cRequest → Prop
  | regRead _ _ => True
  | dataRead _ _ _ => True
  | _ => False

/-- Writes of the reset signal of a QSFP port. -/
def IsReset : I2cRequest → Prop
  | regWrite _ signal _ => signal = .qsfppReset ∨ signal = .qsfp28pReset
  | _ => False

/-- The write of `pm_configure_qsfp`. -/
def IsDisableWrite : I2cRequest → Prop
  | dataWrite _ _ offset _ => offset = QSFP_DISABLE_OFFSET
  | _ => False

instance (request : I2cRequest) : Decidable request.IsDisableWrite := by
  cases request <;> unfold IsDisableWrite <;> infer_instance

theorem IsRead.not_disableWrite {request : I2cRequest} (h : request.IsRead) :
    ¬request.IsDisableWrite := by
  cases request with
  | regRead _ _ | dataRead _ _ _ | regWrite _ _ _ => exact id
  | dataWrite _ _ _ _ => exact absurd h id

theorem IsReset.not_disableWrite {request : I2cRequest} (h : request.IsReset) :
    ¬request.IsDisableWrite := by
  cases request with
  | regRead _ _ | dataRead _ _ _ | regWrite _ _ _ => exact id
  | dataWrite _ _ _ _ => exact absurd h id

end I2cRequest

/-! ## Additions to a trace -/

namespace Bus

variable {R R' : I2cRequest → Prop} {b b' b'' : Bus}

/-- The trace grew by requests of the kind `R`. -/
def Adds (R : I2cRequest → Prop) (b b' : Bus) : Prop :=
  ∃ new, b'.trace = b.trace ++ new ∧ ∀ entry ∈ new, R entry.1

theorem Adds.refl (b : Bus) : Adds R b b := ⟨[], by simp, by simp⟩

theorem Adds.trans (h : Adds R b b') (h' : Adds R b' b'') : Adds R b b'' := by
  obtain ⟨new, htrace, hnew⟩ := h
  obtain ⟨new', htrace', hnew'⟩ := h'
  refine ⟨new ++ new', by rw [htrace', htrace, List.append_assoc], fun entry hentry => ?_⟩
  exact (List.mem_append.mp hentry).elim (hnew entry) (hnew' entry)

theorem Adds.mono (h : Adds R b b') (hR : ∀ request, R request → R' request) : Adds R' b b' := by
  obtain ⟨new, htrace, hnew⟩ := h
  exact ⟨new, htrace, fun entry hentry => hR _ (hnew entry hentry)⟩

theorem adds_ask {request : I2cRequest} (h : R request) (b : Bus) : Adds R b (b.ask request).2 :=
  ⟨[(request, b.answers b.trace.length)], rfl, by simpa using h⟩

@[simp] theorem trace_hand (b : Bus) (device : YamlPort) (signal : Signal) :
    (b.hand device signal).trace = b.trace := by
  unfold hand
  cases device.signals signal <;> rfl

@[simp] theorem answers_hand (b : Bus) (device : YamlPort) (signal : Signal) :
    (b.hand device signal).answers = b.answers := by
  unfold hand
  cases device.signals signal <;> rfl

/-- Nothing is asked where only a pointer is looked at. -/
theorem adds_hand (b : Bus) (device : YamlPort) (signal : Signal) :
    Adds R b (b.hand device signal) := ⟨[], by simp, by simp⟩

/-- The entries that were added are those after the old trace. -/
theorem Adds.mem_drop (h : Adds R b b') {entry : I2cRequest × I2cAnswer}
    (hentry : entry ∈ b'.trace.drop b.trace.length) : R entry.1 := by
  obtain ⟨new, htrace, hnew⟩ := h
  rw [htrace, List.drop_left] at hentry
  exact hnew entry hentry

end Bus

/-! ## The functions of `plug.c` -/

variable {t : ModuleType} {port : PortId}

theorem adds_readPresence (regOp : Signal) : ∀ (n : Nat) (b : Bus),
    Bus.Adds I2cRequest.IsRead b (readPresence port regOp n b).2
  | n, b => by
    have hask : Bus.Adds I2cRequest.IsRead b (b.ask (.regRead port.instanceName regOp)).2 :=
      Bus.adds_ask trivial b
    rw [readPresence.eq_def]
    dsimp only
    split
    · cases n with
      | zero => exact hask
      | succ n => exact hask.trans (adds_readPresence regOp n _)
    · exact hask

theorem adds_pmGetPresence (b : Bus) :
    Bus.Adds I2cRequest.IsRead b (pmGetPresence port b).2 := by
  have hread : ∀ signal, Bus.Adds I2cRequest.IsRead b
      (readPresence port signal 2 (b.hand port.moduleDevice signal)).2 :=
    fun signal => (Bus.adds_hand b _ signal).trans (adds_readPresence signal 2 _)
  unfold pmGetPresence
  split_ifs
  · exact hread _
  · exact hread _
  · exact hread _
  · exact Bus.Adds.refl b

theorem adds_pmReadA0 (offset : Nat) (b : Bus) :
    Bus.Adds I2cRequest.IsRead b (pmReadA0 port offset b).2 := Bus.adds_ask trivial b

theorem adds_pmReadA2 (b : Bus) : Bus.Adds I2cRequest.IsRead b (pmReadA2 port b).2 :=
  Bus.adds_ask trivial b

/-- The signal `pm_get_presence` reads. -/
def ModuleType.presenceSignal : ModuleType → Signal
  | sfpPlus => .sfppModPresent
  | qsfpPlus => .qsfppModPresent
  | qsfp28 => .qsfp28pModPresent

theorem pmGetPresence_eq (h : port.moduleDevice.IsA t) (b : Bus) :
    pmGetPresence port b =
      readPresence port t.presenceSignal 2 (b.hand port.moduleDevice t.presenceSignal) := by
  unfold pmGetPresence
  simp only [h.hasConnector]
  cases t <;> rfl

/-- The reset signal of a port, null for SFP+ and where the hardware lacks it. -/
def resetSignal (t : ModuleType) (device : YamlPort) : Option Signal :=
  let signal : Option Signal :=
    match t with
    | .sfpPlus => none
    | .qsfpPlus => some .qsfppReset
    | .qsfp28 => some .qsfp28pReset
  signal.filter fun s => (device.signals s).isSome

theorem resetSignal_eq {device : YamlPort} {signal : Signal}
    (h : resetSignal t device = some signal) : signal = .qsfppReset ∨ signal = .qsfp28pReset := by
  obtain ⟨hsignal, -⟩ := Option.filter_eq_some_iff.mp h
  cases t with
  | sfpPlus => cases hsignal
  | qsfpPlus => exact Or.inl (Option.some.inj hsignal).symm
  | qsfp28 => exact Or.inr (Option.some.inj hsignal).symm

theorem pmReset_eq (h : port.moduleDevice.IsA t) (clear : Bool) (b : Bus) :
    pmReset port clear b =
      match resetSignal t port.moduleDevice with
      | none => b
      | some signal =>
        (b.ask (.regWrite port.instanceName signal (if clear then 0 else 0xff))).2 := by
  unfold pmReset resetSignal
  simp only [h.hasConnector]
  cases t with
  | sfpPlus => rfl
  | qsfpPlus =>
    show (if (port.moduleDevice.signals .qsfppReset).isNone then b else _) = _
    cases hs : port.moduleDevice.signals .qsfppReset <;> simp [hs, Option.filter]
  | qsfp28 =>
    show (if (port.moduleDevice.signals .qsfp28pReset).isNone then b else _) = _
    cases hs : port.moduleDevice.signals .qsfp28pReset <;> simp [hs, Option.filter]

/-- The writes of `pm_reset_port`: the signal, where there is one, is raised and cleared again. -/
def resetPulse (t : ModuleType) (port : PortId) : List I2cRequest :=
  match resetSignal t port.moduleDevice with
  | none => []
  | some signal =>
    [.regWrite port.instanceName signal 0xff, .regWrite port.instanceName signal 0]

theorem pmResetPort_eq (h : port.moduleDevice.IsA t) (b : Bus) :
    pmResetPort port b =
      match resetSignal t port.moduleDevice with
      | none => b
      | some signal =>
        ((b.ask (.regWrite port.instanceName signal 0xff)).2.ask
          (.regWrite port.instanceName signal 0)).2 := by
  rw [pmResetPort, pmClearReset, pmReset_eq h, pmReset_eq h]
  cases resetSignal t port.moduleDevice <;> rfl

theorem adds_pmResetPort (h : port.moduleDevice.IsA t) (b : Bus) :
    Bus.Adds I2cRequest.IsReset b (pmResetPort port b) := by
  rw [pmResetPort_eq h]
  cases hs : resetSignal t port.moduleDevice with
  | none => exact Bus.Adds.refl b
  | some signal =>
    have hreset : ∀ data, (I2cRequest.regWrite port.instanceName signal data).IsReset :=
      fun _ => resetSignal_eq hs
    have hask : ∀ (data : UInt32) (b : Bus), Bus.Adds I2cRequest.IsReset b
        (b.ask (.regWrite port.instanceName signal data)).2 :=
      fun data b => Bus.adds_ask (hreset data) b
    exact (hask 0xff b).trans (hask 0 _)

/-- `pm_configure_port` of a QSFP port. -/
theorem pmConfigurePort_eq {port : PmPort} (h : port.moduleDevice.IsA t) (ht : t ≠ .sfpPlus)
    (b : Bus) :
    pmConfigurePort port b =
      if port.present = true ∧ port.optical = true then
        (b.ask (.dataWrite port.subsystem (some port.moduleDevice.moduleEeprom)
          QSFP_DISABLE_OFFSET port.disableByte)).2
      else b := by
  have hqsfp : (port.moduleDevice.hasConnector CONNECTOR_QSFP_PLUS ||
      port.moduleDevice.hasConnector CONNECTOR_QSFP28) = true := by
    simp only [h.hasConnector]
    cases t with
    | sfpPlus => exact absurd rfl ht
    | qsfpPlus | qsfp28 => rfl
  rw [pmConfigurePort, if_pos hqsfp, pmConfigureQsfp]
  cases port.present <;> cases port.optical <;> rfl

/-! ## The disable byte of the module -/

/-- The bus with what the module in the port makes of the requests. -/
structure Rig where
  bus : Bus
  /-- Byte 86 of the module. -/
  txDisable : UInt8
  /-- Byte 86 was not written since the module was put in. -/
  untouched : Bool

namespace Rig

/-- A bus to a module that was just put in. -/
def ofBus (bus : Bus) : Rig where
  bus := bus
  txDisable := 0x00
  untouched := true

/--
The effect of one request on the module. Writes succeed, and a module that is reset has its lasers
on.
-/
def feel (r : Rig) : I2cRequest → Rig
  | .dataWrite _ _ offset data =>
    if offset = QSFP_DISABLE_OFFSET then { r with txDisable := data, untouched := false } else r
  | .regWrite _ signal _ =>
    if signal = .qsfppReset ∨ signal = .qsfp28pReset then { r with txDisable := 0x00 } else r
  | _ => r

/-- The rig after the requests that lead to `bus`. -/
def after (r : Rig) (bus : Bus) : Rig :=
  (bus.trace.drop r.bus.trace.length).foldl (fun r entry => r.feel entry.1) { r with bus := bus }

end Rig

/-- The hardware build, with the module in the port. -/
def rig : Platform Rig where
  getPresence port r := ((pmGetPresence port r.bus).1, r.after (pmGetPresence port r.bus).2)
  readA0 port offset r :=
    ((pmReadA0 port offset r.bus).1, r.after (pmReadA0 port offset r.bus).2)
  readA2 port r := ((pmReadA2 port r.bus).1, r.after (pmReadA2 port r.bus).2)
  resetPort port r := r.after (pmResetPort port r.bus)
  clearReset port r := r.after (pmClearReset port r.bus)
  configurePort port r := r.after (pmConfigurePort port r.bus)

namespace Rig

theorem feel_of_isRead {request : I2cRequest} (h : request.IsRead) (r : Rig) :
    r.feel request = r := by
  cases request with
  | regRead _ _ | dataRead _ _ _ => rfl
  | regWrite _ _ _ | dataWrite _ _ _ _ => exact absurd h id

/-- Reads leave the module alone. -/
theorem after_of_reads {r : Rig} {bus : Bus} (h : Bus.Adds I2cRequest.IsRead r.bus bus) :
    r.after bus = { r with bus := bus } := by
  have hnew : ∀ entry ∈ bus.trace.drop r.bus.trace.length, entry.1.IsRead :=
    fun entry hentry => h.mem_drop hentry
  unfold after
  generalize bus.trace.drop r.bus.trace.length = new at hnew
  induction new with
  | nil => rfl
  | cons entry new ih =>
    rw [List.foldl_cons, feel_of_isRead (hnew entry (List.mem_cons_self ..))]
    exact ih fun e he => hnew e (List.mem_cons_of_mem _ he)

theorem after_ask (r : Rig) (request : I2cRequest) :
    r.after (r.bus.ask request).2 = { r with bus := (r.bus.ask request).2 }.feel request := by
  simp [after, Bus.ask]

@[simp] theorem bus_feel (r : Rig) (request : I2cRequest) : (r.feel request).bus = r.bus := by
  cases request with
  | regRead _ _ | dataRead _ _ _ => rfl
  | regWrite _ _ _ | dataWrite _ _ _ _ => unfold feel; dsimp only; split <;> rfl

theorem bus_foldl_feel : ∀ (new : List (I2cRequest × I2cAnswer)) (r : Rig),
    (new.foldl (fun r entry => r.feel entry.1) r).bus = r.bus
  | [], _ => rfl
  | entry :: new, r => by rw [List.foldl_cons, bus_foldl_feel new, bus_feel]

@[simp] theorem bus_after (r : Rig) (bus : Bus) : (r.after bus).bus = bus := bus_foldl_feel _ _

end Rig

end OpsPmd
