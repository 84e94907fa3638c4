import OpsPmd.WorldInvariant
import OpsPmd.Properties.Rounds
import Mathlib.Data.Fintype.Pi

/-!
# What the daemon asks of the bus

All ports of the hardware build share one bus. Whatever it answers, and whatever happens in the
database, the daemon makes requests of a few kinds only, each for a port it has, releases every
module it resets at once, and does not make many.

* `I2cRequest.By` — the requests that are made for a port
* `bus_disciplined` — all requests of any run
* `no_null_register` — ports with their signals never lead to a null pointer
* `requests_bounded` — how many there are in one poll of all ports
-/

namespace OpsPmd

variable {t : ModuleType} {id : PortId} {nameOf : Uuid → String} {Y : YamlPort → Prop}

/-! ## Requests of a port -/

/-- The bits of `sfpp_tx_disable`. -/
def PortId.txDisableMask (id : PortId) : UInt32 :=
  ((id.moduleDevice.signals .sfppTxDisable).map I2cBitOp.bitMask).getD 0

namespace I2cRequest

/-- The requests that are made for a port of the kind `t`. -/
inductive By (t : ModuleType) (id : PortId) : I2cRequest → Prop
  | presence : By t id (.regRead id.instanceName t.presenceSignal)
  | serialId :
    By t id (.dataRead id.subsystem (some id.moduleDevice.moduleEeprom) t.serialIdOffset)
  | diagnostics : By t id (.dataRead id.subsystem (a2DeviceName id) 0)
  | reset {signal : Signal} (hsignal : resetSignal t id.moduleDevice = some signal)
    {data : UInt32} (hdata : data = 0 ∨ data = 0xff) :
    By t id (.regWrite id.instanceName signal data)
  | disable (ht : t = .sfpPlus) {data : UInt32} (hdata : data = 0 ∨ data = id.txDisableMask) :
    By t id (.regWrite id.instanceName .sfppTxDisable data)
  | disableLanes (ht : t ≠ .sfpPlus) {data : UInt8} (hdata : data ≤ 0x0f) :
    By t id (.dataWrite id.subsystem (some id.moduleDevice.moduleEeprom) QSFP_DISABLE_OFFSET data)

/-- A reset signal is raised. -/
def IsRaise : I2cRequest → Prop
  | regWrite _ signal data => (signal = .qsfppReset ∨ signal = .qsfp28pReset) ∧ data ≠ 0
  | _ => False

/-- The write that takes a signal back. -/
def release : I2cRequest → I2cRequest
  | regWrite instanceName signal _ => regWrite instanceName signal 0
  | request => request

/-- Whatever is raised is released by the next request. -/
def Pulsed : List I2cRequest → Prop
  | [] => True
  | request :: rest => (request.IsRaise → rest.head? = some request.release) ∧ Pulsed rest

theorem Pulsed.append : ∀ {l l' : List I2cRequest}, Pulsed l → Pulsed l' → Pulsed (l ++ l')
  | [], _, _, h' => h'
  | request :: l, l', h, h' => by
    refine ⟨fun hraise => ?_, Pulsed.append h.2 h'⟩
    show (l ++ l').head? = _
    rw [List.head?_append, h.1 hraise]
    rfl

/-- `Pulsed` spelled out. -/
theorem Pulsed.head_of_raise {request : I2cRequest} {post : List I2cRequest}
    (hraise : request.IsRaise) : ∀ {pre : List I2cRequest}, Pulsed (pre ++ request :: post) →
      post.head? = some request.release
  | [], h => h.1 hraise
  | _ :: _, h => Pulsed.head_of_raise hraise h.2

end I2cRequest

/-! ## Additions to a trace -/

/-- The trace grew by requests for the port, which release what they raise. -/
def Bus.Serves (t : ModuleType) (id : PortId) (b b' : Bus) : Prop :=
  ∃ new, b'.trace = b.trace ++ new ∧ (∀ entry ∈ new, entry.1.By t id) ∧
    I2cRequest.Pulsed (new.map Prod.fst)

namespace Bus.Serves

variable {b b' b'' : Bus}

theorem refl (b : Bus) : Bus.Serves t id b b := ⟨[], by simp, by simp, trivial⟩

theorem trans (h : Bus.Serves t id b b') (h' : Bus.Serves t id b' b'') :
    Bus.Serves t id b b'' := by
  obtain ⟨new, htrace, hby, hpulsed⟩ := h
  obtain ⟨new', htrace', hby', hpulsed'⟩ := h'
  refine ⟨new ++ new', by rw [htrace', htrace, List.append_assoc], fun entry hentry => ?_, ?_⟩
  · exact (List.mem_append.mp hentry).elim (hby entry) (hby' entry)
  · rw [List.map_append]
    exact hpulsed.append hpulsed'

/-- A single request that raises nothing. -/
theorem ask {request : I2cRequest} (h : request.By t id) (hraise : ¬request.IsRaise) (b : Bus) :
    Bus.Serves t id b (b.ask request).2 :=
  ⟨[(request, b.answers b.trace.length)], rfl, by simpa using h,
    fun hraise' => absurd hraise' hraise, trivial⟩

theorem readPresence {signal : Signal} (h : signal = t.presenceSignal) : ∀ (n : Nat) (b : Bus),
    Bus.Serves t id b (readPresence id signal n b).2
  | n, b => by
    have hask : Bus.Serves t id b (b.ask (.regRead id.instanceName signal)).2 :=
      ask (h ▸ .presence) (by rintro ⟨⟩) b
    rw [OpsPmd.readPresence.eq_def]
    dsimp only
    split
    · cases n with
      | zero => exact hask
      | succ n => exact hask.trans (readPresence h n _)
    · exact hask

theorem hand (device : YamlPort) (signal : Signal) (b : Bus) :
    Bus.Serves t id b (b.hand device signal) := ⟨[], by simp, by simp, trivial⟩

theorem pmGetPresence (h : id.moduleDevice.IsA t) (b : Bus) :
    Bus.Serves t id b (pmGetPresence id b).2 := by
  rw [pmGetPresence_eq h]
  exact (hand id.moduleDevice t.presenceSignal b).trans (readPresence rfl 2 _)

theorem pmReadA0 (b : Bus) : Bus.Serves t id b (pmReadA0 id t.serialIdOffset b).2 :=
  ask .serialId (by rintro ⟨⟩) b

theorem pmReadA2 (b : Bus) : Bus.Serves t id b (pmReadA2 id b).2 :=
  ask .diagnostics (by rintro ⟨⟩) b

/-- A pulse releases what it raises, whatever the bus answers. -/
theorem pmResetPort (h : id.moduleDevice.IsA t) (b : Bus) :
    Bus.Serves t id b (pmResetPort id b) := by
  rw [pmResetPort_eq h]
  cases hs : resetSignal t id.moduleDevice with
  | none => exact refl b
  | some signal =>
    refine ⟨_, List.append_assoc .., ?_, ?_⟩
    · simp only [List.cons_append, List.nil_append, List.forall_mem_cons]
      exact ⟨.reset hs (Or.inr rfl), .reset hs (Or.inl rfl), by simp⟩
    · exact ⟨fun _ => rfl, fun hraise => absurd rfl hraise.2, trivial⟩

theorem pmClearReset (h : id.moduleDevice.IsA t) (b : Bus) :
    Bus.Serves t id b (pmClearReset id b) := by
  rw [OpsPmd.pmClearReset, pmReset_eq h]
  cases hs : resetSignal t id.moduleDevice with
  | none => exact refl b
  | some signal => exact ask (.reset hs (Or.inl rfl)) (fun hraise => hraise.2 rfl) b

end Bus.Serves

/-- Only bits of the four lanes are ever set. -/
theorem PmPort.disableByte_le (port : PmPort) : port.disableByte ≤ 0x0f := by
  have hlanes : ∀ enabled : Fin 4 → Bool, (List.finRange 4).foldl
      (fun data idx => if enabled idx then data else data ||| 1 <<< (UInt8.ofNat idx)) 0x00 ≤
        (0x0f : UInt8) := by decide
  unfold disableByte
  split
  · exact hlanes port.hwEnableSubport
  · split <;> decide

theorem Bus.Serves.pmConfigurePort {port : PmPort} (h : port.moduleDevice.IsA t) (b : Bus) :
    Bus.Serves t port.toPortId b (pmConfigurePort port b) := by
  by_cases ht : t = .sfpPlus
  · subst ht
    have hqsfp : ¬(port.moduleDevice.hasConnector CONNECTOR_QSFP_PLUS ||
        port.moduleDevice.hasConnector CONNECTOR_QSFP28) = true := by
      simp only [h.hasConnector]
      decide
    rw [OpsPmd.pmConfigurePort, if_neg hqsfp]
    cases hs : port.moduleDevice.signals .sfppTxDisable with
    | none => exact ⟨[], by simp [Bus.fault], by simp, trivial⟩
    | some regOp =>
      have hmask : port.txDisableMask = regOp.bitMask := by
        rw [PortId.txDisableMask, hs]
        rfl
      refine Bus.Serves.ask (.disable rfl ?_) ?_ b
      · rw [hmask]
        split
        · exact Or.inl rfl
        · exact Or.inr rfl
      · rintro ⟨hs | hs, -⟩ <;> cases hs
  · rw [pmConfigurePort_eq h ht]
    split
    · exact Bus.Serves.ask (.disableLanes ht port.disableByte_le) (by rintro ⟨⟩) b
    · exact Bus.Serves.refl b

theorem Bus.Serves.observation {port : PmPort} (h : port.moduleDevice.IsA t) (b : Bus) :
    Bus.Serves t port.toPortId b (observation hardware t port b).2 :=
  observation_invariant (I := Bus.Serves t port.toPortId b)
    (fun b' hb => hb.trans (pmGetPresence h b')) (fun b' hb => hb.trans (pmReadA0 b'))
    (fun b' hb => hb.trans (pmReadA2 b')) (fun b' hb => hb.trans (pmResetPort h b')) (.refl b)

/-! ## All requests -/

/-- A request for a port of a known kind whose description has the property `Y`. -/
def I2cRequest.Proper (nameOf : Uuid → String) (Y : YamlPort → Prop) (request : I2cRequest) :
    Prop :=
  ∃ t id, id.moduleDevice.IsA t ∧ Y id.moduleDevice ∧ nameOf id.uuid = id.instanceName ∧
    request.By t id

/-- The requests so far are proper, and release what they raise. -/
structure Bus.Disciplined (nameOf : Uuid → String) (Y : YamlPort → Prop) (b : Bus) : Prop where
  proper : ∀ entry ∈ b.trace, entry.1.Proper nameOf Y
  pulsed : I2cRequest.Pulsed (b.trace.map Prod.fst)

theorem Bus.Disciplined.serves {b b' : Bus} (hb : b.Disciplined nameOf Y)
    (h : id.moduleDevice.IsA t) (hY : Y id.moduleDevice) (hname : nameOf id.uuid = id.instanceName)
    (hserves : Bus.Serves t id b b') : b'.Disciplined nameOf Y := by
  obtain ⟨new, htrace, hby, hpulsed⟩ := hserves
  refine ⟨fun entry hentry => ?_, ?_⟩
  · rw [htrace] at hentry
    rcases List.mem_append.mp hentry with hentry | hentry
    · exact hb.proper entry hentry
    · exact ⟨t, id, h, hY, hname, hby entry hentry⟩
  · rw [htrace, List.map_append]
    exact hb.pulsed.append hpulsed

/-- A port with the invariant of its kind, on a description with the property `Y`. -/
def PmPort.OnBus (Y : YamlPort → Prop) (port : PmPort) : Prop :=
  (∃ t, port.Inv t) ∧ Y port.moduleDevice

theorem lasts_onBus (Y : YamlPort → Prop) :
    PmPort.Lasts hardware (fun y => (∃ t, y.IsA t) ∧ Y y) (PmPort.OnBus Y) where
  newPort := fun intf subName _ ⟨⟨t, hy⟩, hY⟩ _ => ⟨⟨t, PmPort.inv_newPort intf subName hy⟩, hY⟩
  hwEnable := fun _ hwEnable ⟨⟨t, hinv⟩, hY⟩ => ⟨⟨t, hinv.configure hwEnable⟩, hY⟩
  poll := by
    rintro p b ⟨⟨t, hinv⟩, hY⟩
    have hdevice := congrArg PortId.moduleDevice (toPortId_pmReadModuleState (P := hardware) p b)
    refine ⟨⟨t, ?_⟩, by rwa [hdevice]⟩
    rw [pmReadModuleState_eq hinv.device hinv.ready]
    exact hinv.observe (observation_possible b)
  settle := fun _ ⟨⟨t, hinv⟩, hY⟩ => ⟨⟨t, hinv.settle⟩, hY⟩

theorem keeps_disciplined (nameOf : Uuid → String) (Y : YamlPort → Prop) :
    hardware.Keeps (PmPort.Placed nameOf (PmPort.OnBus Y)) (Bus.Disciplined nameOf Y) where
  clearReset := by
    rintro p b ⟨⟨⟨t, hinv⟩, hY⟩, hname⟩ hb
    exact hb.serves hinv.device hY hname (.pmClearReset hinv.device b)
  configurePort := by
    rintro p b ⟨⟨⟨t, hinv⟩, hY⟩, hname⟩ hb
    exact hb.serves hinv.device hY hname (.pmConfigurePort hinv.device b)
  poll := by
    rintro p b ⟨⟨⟨t, hinv⟩, hY⟩, hname⟩ hb
    rw [pmReadModuleState_eq hinv.device hinv.ready]
    exact hb.serves hinv.device hY hname (.observation hinv.device b)

/--
Rows are named, ports are of the known kinds with the property `Y`, and the record of the requests
is the daemon's own.
-/
def Event.OnBus (nameOf : Uuid → String) (Y : YamlPort → Prop) : Event Bus → Prop
  | .idlRun idl _ => idl.Named nameOf
  | .reconfigure files => YamlFiles.All (fun y => (∃ t, y.IsA t) ∧ Y y) files
  | .readState change => ∀ b, (change b).trace = b.trace
  | .update _ => True

theorem Event.OnBus.within {e : Event Bus} (he : e.OnBus nameOf Y) :
    e.Within nameOf (fun y => (∃ t, y.IsA t) ∧ Y y) (Bus.Disciplined nameOf Y) := by
  cases e with
  | idlRun idl seqno => exact he
  | reconfigure files => exact he
  | readState change =>
    intro b hb
    exact ⟨by rw [he b]; exact hb.proper, by rw [he b]; exact hb.pulsed⟩
  | update committed => trivial

section Runs

variable {idl : Idl} {files : Subsystem → YamlFiles} {es : List (Event Bus)}

theorem guarded_exec (hidl : idl.Named nameOf)
    (hfiles : YamlFiles.All (fun y => (∃ t, y.IsA t) ∧ Y y) files) (seqno : Nat)
    (answers : Nat → I2cAnswer) (db : Database) (hes : ∀ e ∈ es, e.OnBus nameOf Y) :
    (Run.exec (step hardware) (initial hardware idl seqno files { answers := answers } db)
      es).Guarded nameOf (fun y => (∃ t, y.IsA t) ∧ Y y) (PmPort.OnBus Y)
        (Bus.Disciplined nameOf Y) := by
  have hnew : Bus.Disciplined nameOf Y { answers := answers } := ⟨by simp, trivial⟩
  exact (System.Guarded.initial (keeps_disciplined nameOf Y) (lasts_onBus Y) hidl hfiles seqno
    hnew db).exec (keeps_disciplined nameOf Y) (lasts_onBus Y) fun e he => (hes e he).within

/--
**The daemon is disciplined on the bus.** Whatever the bus answers, every request of a run is one
that is made for a port of a description the daemon was given, under the name of its row, and every
reset signal that is raised is released by the very next request.
-/
theorem bus_disciplined (nameOf : Uuid → String) (Y : YamlPort → Prop) (hidl : idl.Named nameOf)
    (hfiles : YamlFiles.All (fun y => (∃ t, y.IsA t) ∧ Y y) files) (seqno : Nat)
    (answers : Nat → I2cAnswer) (db : Database) (hes : ∀ e ∈ es, e.OnBus nameOf Y) :
    let requests := (Run.exec (step hardware)
      (initial hardware idl seqno files { answers := answers } db) es).pmd.world.trace.map Prod.fst
    (∀ request ∈ requests, request.Proper nameOf Y) ∧
      ∀ pre request post, requests = pre ++ request :: post → request.IsRaise →
        post.head? = some request.release := by
  intro requests
  have hdisciplined := (guarded_exec hidl hfiles seqno answers db hes).pmd.world
  refine ⟨fun request hm => ?_, fun pre request post heq hraise => ?_⟩
  · obtain ⟨entry, hentry, rfl⟩ := List.mem_map.mp hm
    exact hdisciplined.proper entry hentry
  · have hpulsed : I2cRequest.Pulsed (pre ++ request :: post) := heq ▸ hdisciplined.pulsed
    exact hpulsed.head_of_raise hraise

/-- Two ports on a bus on which modules are there and cannot be read. -/
theorem bus_disciplined_twoPorts :
    let requests := (Run.exec (step hardware)
      (initial hardware twoPortIdl 0 twoPortFiles { answers := fun _ => presenceAnswer true }
        emptyDatabase) [.readState fun b => b, .update true]).pmd.world.trace.map Prod.fst
    (∀ request ∈ requests, request.Proper twoPortName fun y => y.pluggable = true) ∧
      ∀ pre request post, requests = pre ++ request :: post → request.IsRaise →
        post.head? = some request.release :=
  bus_disciplined twoPortName _ named_twoPortIdl
    (fun sub y hm hplug => ⟨known_twoPortFiles sub y hm hplug, hplug⟩) 0 _ emptyDatabase
    (by simp [Event.OnBus])

/-! ## Null pointers -/

/-- The port has the signals that are used without a check. -/
structure YamlPort.Wired (y : YamlPort) : Prop where
  presence : ∀ t, y.IsA t → (y.signals t.presenceSignal).isSome = true
  txDisable : y.IsA .sfpPlus → (y.signals .sfppTxDisable).isSome = true

theorem faulted_hand {device : YamlPort} {signal : Signal}
    (h : (device.signals signal).isSome = true) (b : Bus) :
    (b.hand device signal).faulted = b.faulted := by
  obtain ⟨regOp, hs⟩ := Option.isSome_iff_exists.mp h
  rw [Bus.hand, hs]

theorem faulted_readPresence (signal : Signal) : ∀ (n : Nat) (b : Bus),
    (readPresence id signal n b).2.faulted = b.faulted
  | n, b => by
    rw [readPresence.eq_def]
    dsimp only
    split
    · cases n with
      | zero => rfl
      | succ n => exact faulted_readPresence signal n _
    · rfl

theorem faulted_pmGetPresence (h : id.moduleDevice.IsA t) (hw : id.moduleDevice.Wired) (b : Bus) :
    (pmGetPresence id b).2.faulted = b.faulted := by
  rw [pmGetPresence_eq h, faulted_readPresence, faulted_hand (hw.presence t h)]

/-- Reset signals are checked, and are not used where they are null. -/
theorem faulted_pmReset (h : id.moduleDevice.IsA t) (clear : Bool) (b : Bus) :
    (pmReset id clear b).faulted = b.faulted := by
  rw [pmReset_eq h]
  cases resetSignal t id.moduleDevice <;> rfl

theorem faulted_pmConfigurePort {port : PmPort} (h : port.moduleDevice.IsA t)
    (hw : port.moduleDevice.Wired) (b : Bus) : (pmConfigurePort port b).faulted = b.faulted := by
  by_cases ht : t = .sfpPlus
  · subst ht
    obtain ⟨regOp, hs⟩ := Option.isSome_iff_exists.mp (hw.txDisable h)
    have hqsfp : ¬(port.moduleDevice.hasConnector CONNECTOR_QSFP_PLUS ||
        port.moduleDevice.hasConnector CONNECTOR_QSFP28) = true := by
      simp only [h.hasConnector]
      decide
    rw [pmConfigurePort, if_neg hqsfp, hs]
    rfl
  · rw [pmConfigurePort_eq h ht]
    split <;> rfl

theorem faulted_observation {port : PmPort} (h : port.moduleDevice.IsA t)
    (hw : port.moduleDevice.Wired) (b : Bus) :
    (observation hardware t port b).2.faulted = b.faulted :=
  observation_invariant (I := fun b' : Bus => b'.faulted = b.faulted)
    (fun b' hb => (faulted_pmGetPresence h hw b').trans hb) (fun _ hb => hb) (fun _ hb => hb)
    (fun b' hb => ((faulted_pmReset h true _).trans (faulted_pmReset h false b')).trans hb) rfl

theorem keeps_faultless (nameOf : Uuid → String) :
    hardware.Keeps (PmPort.Placed nameOf (PmPort.OnBus YamlPort.Wired))
      fun b => b.faulted = false where
  clearReset := by
    rintro p b ⟨⟨⟨t, hinv⟩, -⟩, -⟩ hb
    exact (faulted_pmReset hinv.device true b).trans hb
  configurePort := by
    rintro p b ⟨⟨⟨t, hinv⟩, hw⟩, -⟩ hb
    exact (faulted_pmConfigurePort hinv.device hw b).trans hb
  poll := by
    rintro p b ⟨⟨⟨t, hinv⟩, hw⟩, -⟩ hb
    rw [pmReadModuleState_eq hinv.device hinv.ready]
    exact (faulted_observation hinv.device hw b).trans hb

/-- Rows are named, ports are wired, and the bus does not fault by itself. -/
def Event.Wired (nameOf : Uuid → String) : Event Bus → Prop
  | .idlRun idl _ => idl.Named nameOf
  | .reconfigure files => YamlFiles.All (fun y => (∃ t, y.IsA t) ∧ y.Wired) files
  | .readState change => ∀ b, (change b).faulted = b.faulted
  | .update _ => True

theorem Event.Wired.within {e : Event Bus} (he : e.Wired nameOf) :
    e.Within nameOf (fun y => (∃ t, y.IsA t) ∧ y.Wired) fun b => b.faulted = false := by
  cases e with
  | idlRun idl seqno => exact he
  | reconfigure files => exact he
  | readState change => exact fun b hb => (he b).trans hb
  | update committed => trivial

/--
**No null register is used.** If each SFP+ port has its disable signal and each port its presence
signal, no run of the daemon dereferences a null `i2c_bit_op` or hands one to the library.
-/
theorem no_null_register (nameOf : Uuid → String) {idl : Idl} (hidl : idl.Named nameOf)
    {files : Subsystem → YamlFiles}
    (hfiles : YamlFiles.All (fun y => (∃ t, y.IsA t) ∧ y.Wired) files) (seqno : Nat)
    (answers : Nat → I2cAnswer) (db : Database) {es : List (Event Bus)}
    (hes : ∀ e ∈ es, e.Wired nameOf) :
    (Run.exec (step hardware) (initial hardware idl seqno files { answers := answers } db)
      es).pmd.world.faulted = false := by
  have hinit : (initial hardware idl seqno files { answers := answers } db).Guarded nameOf _ _
      fun bus => bus.faulted = false :=
    System.Guarded.initial (keeps_faultless nameOf) (lasts_onBus YamlPort.Wired) hidl hfiles seqno
      rfl db
  have hrun := hinit.exec (keeps_faultless nameOf) (lasts_onBus YamlPort.Wired) fun e he =>
    (hes e he).within
  exact hrun.pmd.world

theorem ModuleType.wired_device (t : ModuleType) : t.device.Wired where
  presence t' _ := by cases t' <;> rfl
  txDisable _ := rfl

/-- Two ports, of which one is disabled and one resets the module it cannot read. -/
theorem no_null_register_twoPorts :
    (Run.exec (step hardware) (initial hardware twoPortIdl 0 twoPortFiles
      { answers := fun _ => presenceAnswer true } emptyDatabase)
      [.readState fun b => b, .update true]).pmd.world.faulted = false := by
  refine no_null_register twoPortName named_twoPortIdl (fun sub y hm hplug => ?_) 0 _ emptyDatabase
    (by simp [Event.Wired])
  refine ⟨known_twoPortFiles sub y hm hplug, ?_⟩
  rcases List.mem_cons.mp hm with rfl | hm
  · exact ModuleType.wired_device .sfpPlus
  · obtain rfl := List.mem_singleton.mp hm
    exact ⟨fun _ _ => rfl, fun _ => rfl⟩

/-! ## How many requests there are -/

theorem length_pmGetPresence (h : id.moduleDevice.IsA t) (b : Bus) :
    (pmGetPresence id b).2.trace.length ≤ b.trace.length + 3 := by
  obtain ⟨new, htrace, hasks⟩ := pmGetPresence_asks h b
  have hlen := hasks.length_le_of_presence.1
  rw [htrace, List.length_append]
  omega

theorem length_ask (b : Bus) (request : I2cRequest) :
    (b.ask request).2.trace.length = b.trace.length + 1 := List.length_append

/-- A round is up to three reads of presence and one of the page. -/
theorem length_attempt {port : PmPort} (h : port.moduleDevice.IsA t) (offset : Nat) (b : Bus) :
    (attempt hardware port offset b).2.trace.length ≤ b.trace.length + 4 := by
  have hpresence : (pmGetPresence port.toPortId b).2.trace.length ≤ b.trace.length + 3 :=
    length_pmGetPresence h b
  unfold attempt
  obtain ⟨present, b₁, hp⟩ : ∃ p b₁, hardware.getPresence port.toPortId b = (p, b₁) := ⟨_, _, rfl⟩
  have hb₁ : b₁.trace.length ≤ b.trace.length + 3 := by
    rw [show b₁ = (pmGetPresence port.toPortId b).2 from (congrArg Prod.snd hp).symm]
    exact hpresence
  rw [hp]
  cases present with
  | false => exact hb₁.trans (Nat.le_succ _)
  | true =>
    dsimp only
    split
    · exact hb₁.trans (Nat.le_succ _)
    · obtain ⟨r, b₂, hr⟩ : ∃ r b₂, hardware.readA0 port.toPortId offset b₁ = (r, b₂) :=
        ⟨_, _, rfl⟩
      have hb₂ : b₂.trace.length ≤ b.trace.length + 4 := by
        rw [show b₂ = (pmReadA0 port.toPortId offset b₁).2 from (congrArg Prod.snd hr).symm]
        exact (length_ask b₁ _).trans_le (Nat.succ_le_succ hb₁)
      rw [hr]
      cases r with
      | none => exact hb₂
      | some a0 =>
        dsimp only
        split <;> exact hb₂

theorem length_pmResetPort (h : id.moduleDevice.IsA t) (b : Bus) :
    (pmResetPort id b).trace.length ≤ b.trace.length + 2 := by
  rw [pmResetPort_eq h]
  cases resetSignal t id.moduleDevice with
  | none => exact Nat.le_add_right _ _
  | some signal => simp only [length_ask, Nat.le_refl]

theorem length_retryReadA2 (n : Nat) (b : Bus) :
    (retryReadA2 hardware id n b).2.trace.length ≤ b.trace.length + (n + 1) := by
  have hread : ∀ b : Bus, (hardware.readA2 id b).2.trace.length ≤ b.trace.length + 1 :=
    fun b => (length_ask b _).le
  have hcost := Retry.loop_cost (m := fun b : Bus => b.trace.length) (c := 0) hread
    (fun _ => Nat.le_refl _) n b
  rw [retryReadA2_eq]
  refine Nat.le_trans (Nat.le_add_right _ _) (hcost.trans_eq ?_)
  omega

/-- Three rounds with two resets are the worst case: one read is then left for the diagnostics. -/
theorem length_observation {port : PmPort} (h : port.moduleDevice.IsA t) (b : Bus) :
    (observation hardware t port b).2.trace.length ≤ b.trace.length + 17 := by
  have hreset : ∀ b : Bus, (pmResetPort port.toPortId b).trace.length ≤ b.trace.length + 2 :=
    length_pmResetPort h
  have hcost := Retry.loop_cost (m := fun b : Bus => b.trace.length)
    (length_attempt h t.serialIdOffset) hreset 2 b
  change (identify hardware port t.serialIdOffset 2 b).2.2.trace.length +
    (4 + 2) * (identify hardware port t.serialIdOffset 2 b).2.1 ≤ _ at hcost
  unfold observation
  obtain ⟨r, n, b', hid⟩ : ∃ r n b', identify hardware port t.serialIdOffset 2 b = (r, n, b') :=
    ⟨_, _, _, rfl⟩
  rw [hid] at hcost ⊢
  dsimp only at hcost
  match r with
  | none | some .absent | some .held =>
    dsimp only
    omega
  | some (.page a0) =>
    dsimp only
    split
    · have ha2 : (retryReadA2 hardware port.toPortId n b').2.trace.length ≤
          b'.trace.length + (n + 1) := length_retryReadA2 n b'
      dsimp only
      omega
    · dsimp only
      omega

/--
**A poll of any port makes at most seventeen requests, and one of all ports as many for each.**
-/
theorem requests_bounded (nameOf : Uuid → String) (hidl : idl.Named nameOf)
    (hfiles : YamlFiles.All (fun y => ∃ t, y.IsA t) files) (seqno : Nat)
    (answers : Nat → I2cAnswer) (db : Database) (hes : ∀ e ∈ es, e.OnBus nameOf fun _ => True) :
    let d := (Run.exec (step hardware)
      (initial hardware idl seqno files { answers := answers } db) es).pmd
    (∀ n p, (n, p) ∈ d.ovsIntfs → ∀ b : Bus,
      (pmReadModuleState hardware p b).2.2.trace.length ≤ b.trace.length + 17) ∧
    (pmReadState hardware d).world.trace.length ≤
      d.world.trace.length + 17 * d.ovsIntfs.length := by
  intro d
  have hguarded := (guarded_exec (Y := fun _ => True) hidl
    (fun sub y hm hplug => ⟨hfiles sub y hm hplug, trivial⟩) seqno answers db hes).pmd
  have hport : ∀ n p, (n, p) ∈ d.ovsIntfs → ∀ b : Bus,
      (pmReadModuleState hardware p b).2.2.trace.length ≤ b.trace.length + 17 := by
    intro n p hm b
    obtain ⟨⟨t, hinv⟩, -⟩ := hguarded.holds.port n p hm
    rw [pmReadModuleState_eq hinv.device hinv.ready]
    exact length_observation hinv.device b
  exact ⟨hport, Shash.mapAccum_cost (m := fun b : Bus => b.trace.length) d.ovsIntfs hport⟩

/-- Nothing answers on the bus. -/
theorem requests_bounded_onePort :
    let d := (Run.exec (step hardware) (initial hardware onePortIdl 0 onePortFiles
      { answers := fun _ => failedAnswer } emptyDatabase) [.readState fun b => b, .update false]).pmd
    (∀ n p, (n, p) ∈ d.ovsIntfs → ∀ b : Bus,
      (pmReadModuleState hardware p b).2.2.trace.length ≤ b.trace.length + 17) ∧
    (pmReadState hardware d).world.trace.length ≤
      d.world.trace.length + 17 * d.ovsIntfs.length :=
  requests_bounded (fun _ => "1") named_onePortIdl known_onePortFiles 0 _ emptyDatabase
    (by simp [Event.OnBus])

end Runs

end OpsPmd
