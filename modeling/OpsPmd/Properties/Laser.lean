import OpsPmd.Ghost
import OpsPmd.Hardware

/-!
# The transmitters of a QSFP module

`pm_configure_qsfp` writes byte 86 of a module when `hw_enable` changes, and at no other time. Byte
86 is lost when a module is put in or reset.

* `Bench` — a QSFP port with the module in it
* `obeys_iff` — when the module has its lasers as `hw_enable` says after every poll
* `justified_iff` — when byte 86 is written to modules only that are known to be optical
-/

namespace OpsPmd

variable {t : ModuleType} {port : PmPort}

/-! ## The module during a poll -/

theorem rig_getPresence (id : PortId) (r : Rig) :
    (rig.getPresence id r).2 = { r with bus := (pmGetPresence id r.bus).2 } :=
  Rig.after_of_reads (adds_pmGetPresence r.bus)

theorem rig_readA0 (id : PortId) (offset : Nat) (r : Rig) :
    (rig.readA0 id offset r).2 = { r with bus := (pmReadA0 id offset r.bus).2 } :=
  Rig.after_of_reads (adds_pmReadA0 offset r.bus)

theorem rig_readA2 (id : PortId) (r : Rig) :
    (rig.readA2 id r).2 = { r with bus := (pmReadA2 id r.bus).2 } :=
  Rig.after_of_reads (adds_pmReadA2 r.bus)

/-- A port has a reset signal that can be written. -/
def HasReset (t : ModuleType) (device : YamlPort) : Prop := (resetSignal t device).isSome

instance (device : YamlPort) : Decidable (HasReset t device) :=
  inferInstanceAs (Decidable (_ = true))

theorem rig_resetPort {id : PortId} (h : id.moduleDevice.IsA t) (r : Rig) :
    rig.resetPort id r =
      { bus := pmResetPort id r.bus
        txDisable := if HasReset t id.moduleDevice then 0x00 else r.txDisable
        untouched := r.untouched } := by
  show r.after (pmResetPort id r.bus) = _
  rw [pmResetPort_eq h]
  cases hs : resetSignal t id.moduleDevice with
  | none =>
    have hno : ¬HasReset t id.moduleDevice := by simp [HasReset, hs]
    rw [if_neg hno]
    exact Rig.after_of_reads (Bus.Adds.refl _)
  | some signal =>
    have hyes : HasReset t id.moduleDevice := by simp [HasReset, hs]
    rw [if_pos hyes]
    simp [Rig.after, Bus.ask, Rig.feel, resetSignal_eq hs]

/-- No request of a poll is a write of byte 86. -/
theorem adds_observation (h : port.moduleDevice.IsA t) (r : Rig) :
    Bus.Adds (fun request => ¬request.IsDisableWrite) r.bus (observation rig t port r).2.bus := by
  have hread : ∀ {b b' b'' : Bus}, Bus.Adds (fun request => ¬request.IsDisableWrite) b b' →
      Bus.Adds I2cRequest.IsRead b' b'' →
      Bus.Adds (fun request => ¬request.IsDisableWrite) b b'' :=
    fun hold hnew => hold.trans (hnew.mono fun _ => I2cRequest.IsRead.not_disableWrite)
  refine observation_invariant
    (I := fun r' : Rig => Bus.Adds (fun request => ¬request.IsDisableWrite) r.bus r'.bus)
    ?_ ?_ ?_ ?_ (Bus.Adds.refl _)
  · intro r' hI
    rw [rig_getPresence]
    exact hread hI (adds_pmGetPresence r'.bus)
  · intro r' hI
    rw [rig_readA0]
    exact hread hI (adds_pmReadA0 _ r'.bus)
  · intro r' hI
    rw [rig_readA2]
    exact hread hI (adds_pmReadA2 r'.bus)
  · intro r' hI
    rw [rig_resetPort h]
    exact hI.trans ((adds_pmResetPort h r'.bus).mono fun _ => I2cRequest.IsReset.not_disableWrite)

theorem untouched_observation (h : port.moduleDevice.IsA t) (r : Rig) :
    (observation rig t port r).2.untouched = r.untouched := by
  refine observation_invariant (I := fun r' : Rig => r'.untouched = r.untouched) ?_ ?_ ?_ ?_ rfl
  · intro r' hI
    rw [rig_getPresence]
    exact hI
  · intro r' hI
    rw [rig_readA0]
    exact hI
  · intro r' hI
    rw [rig_readA2]
    exact hI
  · intro r' hI
    rw [rig_resetPort h]
    exact hI

/-- Byte 86 changes during a poll by a reset only. -/
theorem txDisable_observation (h : port.moduleDevice.IsA t) (r : Rig) :
    (observation rig t port r).2.txDisable =
      if Resets rig t port r ∧ HasReset t port.moduleDevice then 0x00 else r.txDisable := by
  have hp : ∀ r' : Rig, (rig.getPresence port.toPortId r').2.txDisable = r'.txDisable := by
    intro r'
    rw [rig_getPresence]
  have h0 : ∀ r' : Rig,
      (rig.readA0 port.toPortId t.serialIdOffset r').2.txDisable = r'.txDisable := by
    intro r'
    rw [rig_readA0]
  have h2 : ∀ r' : Rig, (rig.readA2 port.toPortId r').2.txDisable = r'.txDisable := by
    intro r'
    rw [rig_readA2]
  by_cases hsignal : HasReset t port.moduleDevice
  · simp only [hsignal, and_true]
    refine observation_recovered hp h0 h2 (fun r' => ?_) r
    rw [rig_resetPort h, if_pos hsignal]
  · simp only [hsignal, and_false, if_false]
    refine observation_invariant (I := fun r' : Rig => r'.txDisable = r.txDisable)
      (fun r' hI => (hp r').trans hI) (fun r' hI => (h0 r').trans hI)
      (fun r' hI => (h2 r').trans hI) (fun r' hI => ?_) rfl
    rw [rig_resetPort h, if_neg hsignal]
    exact hI

/-! ## The module when a port is configured -/

/-- The byte that `hw_enable` asks for in a port that is not split. -/
def wanted (hwEnable : Bool) : UInt8 := if hwEnable then 0x00 else 0x0f

theorem rig_configurePort (h : port.moduleDevice.IsA t) (ht : t ≠ .sfpPlus)
    (hs : port.split = false) (r : Rig) :
    rig.configurePort port r =
      if port.present = true ∧ port.optical = true then
        { bus := (pmConfigurePort port r.bus)
          txDisable := wanted port.hwEnable
          untouched := false }
      else r := by
  show r.after (pmConfigurePort port r.bus) = _
  rw [pmConfigurePort_eq h ht]
  split_ifs
  · rw [Rig.after_ask]
    simp [Rig.feel, PmPort.disableByte, hs, wanted]
  · exact Rig.after_of_reads (Bus.Adds.refl _)

/-! ## A QSFP port with the module in it -/

/-- A port, the bus, and the module that is in the port. -/
structure Bench where
  slot : Slot Rig
  /-- Since the last poll that found the port empty, a page of an optical module was parsed. -/
  known : Bool

/-- Whether a module is seen, and which one, is up to the answers of the bus. -/
inductive BenchEvent
  /-- A module is put in. -/
  | insert
  /-- `pmd_reconfigure` finds the port's row. -/
  | reconfigure (intf : Interface)
  | poll

/-- What is known of the module after a poll that observed `o`. -/
def knownAfter (t : ModuleType) (known : Bool) : Observation → Bool
  | .absent => false
  | .identified a0 _ => known || (t.classify a0).optical
  | _ => known

def benchStep (t : ModuleType) (b : Bench) : BenchEvent → Bench
  | .insert => { b with slot := { b.slot with world := Rig.ofBus b.slot.world.bus } }
  | .reconfigure intf => { b with slot := portStep rig b.slot (.modify intf) }
  | .poll =>
    { slot := portStep rig b.slot (.poll id)
      known := knownAfter t b.known (observation rig t b.slot.port b.slot.world).1 }

/-- The part of an event that the port sees. -/
def BenchEvent.portEvent : BenchEvent → Option (PortEvent Bus)
  | .insert => none
  | .reconfigure intf => some (.modify intf)
  | .poll => some (.poll id)

theorem over_rig : rig.Over hardware Rig.bus :=
  ⟨fun _ _ => by simp [rig, hardware], fun _ _ _ => by simp [rig, hardware],
    fun _ _ => by simp [rig, hardware], fun _ _ => by simp [rig, hardware],
    fun _ _ => by simp [rig, hardware], fun _ _ => by simp [rig, hardware]⟩

/-- **Without the module in it, a bench is a port of the hardware build.** -/
theorem exec_benchStep_slot : ∀ (es : List BenchEvent) (b : Bench),
    (Run.exec (benchStep t) b es).slot.mapWorld Rig.bus =
      Run.exec (portStep hardware) (b.slot.mapWorld Rig.bus) (es.filterMap BenchEvent.portEvent)
  | [], _ => rfl
  | e :: es, b => by
    have hbus : ∀ (change : Bus → Bus) (r : Rig),
        ({ r with bus := change r.bus } : Rig).bus = change r.bus := fun _ _ => rfl
    have hstep := portStep_over over_rig hbus b.slot
    rw [Run.exec_cons, exec_benchStep_slot es]
    cases e with
    | insert => rfl
    | reconfigure intf =>
      exact congrArg (Run.exec _ · _) (hstep (.modify intf)).symm
    | poll => exact congrArg (Run.exec _ · _) (hstep (.poll id)).symm

/-- The bench of a port that was just created. -/
def newBench (intf : Interface) (subName : String) (yamlPort : YamlPort) (bus : Bus) : Bench where
  slot := newSlot intf subName yamlPort (Rig.ofBus bus)
  known := false

/-- The creation of the port writes nothing to a module. -/
theorem configurePort_newPort {yamlPort : YamlPort} (h : yamlPort.IsA t) (ht : t ≠ .sfpPlus)
    (intf : Interface) (subName : String) (bus : Bus) :
    hardware.configurePort (newPort intf subName yamlPort) bus = bus := by
  have hdev : (newPort intf subName yamlPort).moduleDevice.IsA t := h
  refine (pmConfigurePort_eq hdev ht bus).trans (if_neg ?_)
  simp [newPort]

/-- What holds of every bench, whatever happens. -/
structure Bench.Inv (t : ModuleType) (b : Bench) : Prop where
  port : b.slot.port.Inv t
  split : b.slot.port.split = false
  fresh : b.slot.world.untouched = true → b.slot.world.txDisable = 0x00
  /-- `optical` is about the module in the port where that module could be read. -/
  known : b.known = (b.slot.port.present && !b.slot.port.retry && b.slot.port.optical)

namespace Bench

variable {b : Bench}

theorem inv_newBench {yamlPort : YamlPort} (h : yamlPort.IsA t) (intf : Interface)
    (subName : String) (bus : Bus) : (newBench intf subName yamlPort bus).Inv t where
  port := PmPort.inv_newPort intf subName h
  split := rfl
  fresh := fun _ => rfl
  known := rfl

/-- A change of `hw_enable` is written to a module that is taken for an optical one. -/
theorem step_reconfigure (h : b.Inv t) (ht : t ≠ .sfpPlus) (intf : Interface) :
    benchStep t b (.reconfigure intf) =
      if b.slot.port.hwEnable = ovsdbIfIntfGetHwEnable intf then b
      else
        let port := { b.slot.port with hwEnable := ovsdbIfIntfGetHwEnable intf }
        { b with
          slot :=
            { port := port
              world :=
                if b.slot.port.present = true ∧ b.slot.port.optical = true then
                  { bus := pmConfigurePort port b.slot.world.bus
                    txDisable := wanted (ovsdbIfIntfGetHwEnable intf)
                    untouched := false }
                else b.slot.world } } := by
  simp only [benchStep, portStep, ovsdbIfIntfModify, ne_eq, ite_not]
  split
  · rfl
  · have hdev : ({ b.slot.port with hwEnable := ovsdbIfIntfGetHwEnable intf } :
        PmPort).moduleDevice.IsA t := h.port.device
    rw [rig_configurePort hdev ht h.split]

/-- The port after a poll. -/
theorem slot_step_poll (h : b.Inv t) :
    (benchStep t b .poll).slot =
      { port := b.slot.port.observe (observation rig t b.slot.port b.slot.world).1
        world := (observation rig t b.slot.port b.slot.world).2 } := portStep_poll h.port id

/-- A poll that reads a module finds `known` down, and `optical` up only if it parsed a page. -/
theorem Inv.known_observe (h : b.Inv t) : ∀ {o : Observation}, Possible t b.slot.port o →
    let after := b.slot.port.observe o
    knownAfter t b.known o = (after.present && !after.retry && after.optical) := by
  have hdown : b.slot.port.NeedsRead → b.known = false := by
    intro hneeds
    rw [h.known]
    cases hp : b.slot.port.present <;> cases hr : b.slot.port.retry <;>
      simp_all [PmPort.NeedsRead]
  intro o hposs
  cases o with
  | absent =>
    have hgone := PmPort.present_settleAbsent b.slot.port
    simp only [knownAfter, PmPort.observe, hgone, Bool.false_and]
  | held => exact h.known
  | unreadable =>
    simp only [knownAfter, PmPort.observe]
    rw [PmPort.unreadable_frame]
    simpa using hdown hposs
  | identified a0 a2 =>
    obtain ⟨hp, hr, ho⟩ := PmPort.flags_identified h.port.device a0 a2
    simp only [knownAfter, hp, hr, ho, hdown hposs.1, Bool.false_or, Bool.not_false,
      Bool.and_true, Bool.true_and]

/-- **Every step keeps the invariant.** -/
theorem Inv.step (h : b.Inv t) (ht : t ≠ .sfpPlus) (e : BenchEvent) : (benchStep t b e).Inv t := by
  cases e with
  | insert => exact ⟨h.port, h.split, fun _ => rfl, h.known⟩
  | reconfigure intf =>
    rw [step_reconfigure h ht]
    split
    · exact h
    · refine ⟨h.port.configure _, h.split, ?_, h.known⟩
      dsimp only
      split
      · intro hfresh
        cases hfresh
      · exact h.fresh
  | poll =>
    have hport : (benchStep t b .poll).slot.port.Inv t := inv_portStep h.port (.poll id)
    have hslot := slot_step_poll h
    have hdev := h.port.device
    refine ⟨hport, ?_, ?_, ?_⟩
    · rw [hslot]
      exact (PmPort.sameSetup_observe hdev _).split.trans h.split
    · rw [hslot]
      intro hfresh
      have hzero := h.fresh ((untouched_observation hdev b.slot.world).symm.trans hfresh)
      exact (txDisable_observation hdev b.slot.world).trans (by rw [hzero, ite_self])
    · rw [hslot]
      exact h.known_observe (observation_possible _)

end Bench

/-! ## The byte obeys `hw_enable` -/

/-- After a poll, a module that was parsed as an optical one has the byte `hw_enable` asks for. -/
def Obeys (t : ModuleType) (b : Bench) : BenchEvent → Prop
  | .poll =>
    let after := (benchStep t b .poll).slot
    after.port.present = true → after.port.retry = false → after.port.optical = true →
      after.world.txDisable = wanted after.port.hwEnable
  | _ => True

/--
A module put in under a port that still holds another finds `hw_enable` up, unless it was configured
since. Where a poll parses the page of an optical module, `hw_enable` is up if the poll reset the
module, and else asks for the byte the module has.
-/
def InTune (t : ModuleType) (b : Bench) : BenchEvent → Prop
  | .poll =>
    match (observation rig t b.slot.port b.slot.world).1 with
    | .held =>
      b.slot.port.optical = true → b.slot.world.untouched = true → b.slot.port.hwEnable = true
    | .identified a0 _ =>
      (t.classify a0).optical = true →
        if Resets rig t b.slot.port b.slot.world ∧ HasReset t b.slot.port.moduleDevice then
          b.slot.port.hwEnable = true
        else b.slot.world.txDisable = wanted b.slot.port.hwEnable
    | _ => True
  | _ => True

theorem wanted_eq_zero {hwEnable : Bool} : (0x00 = wanted hwEnable) ↔ hwEnable = true := by
  cases hwEnable <;> decide

/-- A bench on which a module that was configured since it was put in has the byte asked for. -/
structure Bench.Tuned (t : ModuleType) (b : Bench) : Prop where
  inv : b.Inv t
  steady : b.slot.port.present = true → b.slot.port.retry = false → b.slot.port.optical = true →
    b.slot.world.untouched = false → b.slot.world.txDisable = wanted b.slot.port.hwEnable

namespace Bench

variable {b : Bench}

/-- The step lemma: a poll of a tuned bench is obeyed exactly where it meets the condition. -/
theorem Tuned.step_obeys_iff (h : b.Tuned t) (e : BenchEvent) : Obeys t b e ↔ InTune t b e := by
  cases e with
  | insert => exact Iff.rfl
  | reconfigure intf => exact Iff.rfl
  | poll =>
    obtain ⟨hinv, hsteady⟩ := h
    have hdev := hinv.port.device
    have hposs : Possible t b.slot.port (observation rig t b.slot.port b.slot.world).1 :=
      observation_possible _
    have htx := txDisable_observation hdev b.slot.world
    have hsame := PmPort.sameSetup_observe hdev (observation rig t b.slot.port b.slot.world).1
    simp only [Obeys, InTune, slot_step_poll hinv, hsame.hwEnable]
    generalize (observation rig t b.slot.port b.slot.world).1 = o at hposs ⊢
    match o, hposs with
    | .absent, _ =>
      refine iff_of_true (fun hp => ?_) trivial
      exact absurd (hp.symm.trans (PmPort.present_settleAbsent _)) (by decide)
    | .held, hheld =>
      obtain ⟨hp, hr⟩ : b.slot.port.present = true ∧ b.slot.port.retry = false := not_not.mp hheld
      -- nothing is reset in a poll of a known module
      rw [htx, if_neg fun hresets => not_resets_of_held hheld b.slot.world hresets.1]
      show (b.slot.port.present = true → b.slot.port.retry = false → b.slot.port.optical = true →
        b.slot.world.txDisable = wanted b.slot.port.hwEnable) ↔ _
      refine ⟨fun hall ho hfresh => ?_, fun hup _ _ ho => ?_⟩
      · rw [← wanted_eq_zero, ← hinv.fresh hfresh]
        exact hall hp hr ho
      · cases hfresh : b.slot.world.untouched with
        | false => exact hsteady hp hr ho hfresh
        | true =>
          rw [hinv.fresh hfresh, wanted_eq_zero]
          exact hup ho hfresh
    | .unreadable, _ =>
      refine iff_of_true (fun _ hr => ?_) trivial
      rw [show b.slot.port.observe .unreadable = b.slot.port.unreadable from rfl,
        PmPort.unreadable_frame] at hr
      cases hr
    | .identified a0 a2, _ =>
      -- a page was parsed, so the register counts if the module is optical
      obtain ⟨hp, hr, ho⟩ := PmPort.flags_identified hdev a0 a2
      simp only [hp, hr, ho, true_imp_iff, htx]
      refine forall_congr' fun _ => ?_
      split_ifs
      · exact wanted_eq_zero
      · exact Iff.rfl

theorem Tuned.step (h : b.Tuned t) (ht : t ≠ .sfpPlus) {e : BenchEvent} (hcond : InTune t b e) :
    (benchStep t b e).Tuned t := by
  refine ⟨h.inv.step ht e, ?_⟩
  have hobeys := (h.step_obeys_iff e).mpr hcond
  cases e with
  | insert =>
    intro _ _ _ hfresh
    cases hfresh
  | reconfigure intf =>
    rw [step_reconfigure h.inv ht]
    split
    · exact h.steady
    · intro hp _ ho _
      simp only [show b.slot.port.present = true ∧ b.slot.port.optical = true from ⟨hp, ho⟩,
        and_self, if_true]
  | poll => exact fun hp hr ho _ => hobeys hp hr ho

end Bench

/--
**The module has its lasers as `hw_enable` says after every poll of a run if and only if every poll
of the run finds the byte of the module in tune.** No poll writes the byte.
-/
theorem obeys_iff {yamlPort : YamlPort} (h : yamlPort.IsA t) (ht : t ≠ .sfpPlus)
    (intf : Interface) (subName : String) (bus : Bus) (es : List BenchEvent) :
    Run.Along (benchStep t) (Obeys t) (newBench intf subName yamlPort bus) es ↔
      Run.Along (benchStep t) (InTune t) (newBench intf subName yamlPort bus) es := by
  refine Run.along_iff_of_invariant (I := Bench.Tuned t) (fun _ _ hI hcond => hI.step ht hcond)
    (fun _ e hI => hI.step_obeys_iff e) ⟨Bench.inv_newBench h intf subName bus, fun hp => ?_⟩
  cases hp

/-- The page of a 40GBASE-SR4 module. -/
def sr4Page : Page := fun i => if i = 3 then 0x04 else if i = 63 then 0x04 else 0

/-- A module is put in and polled, and then its interface is disabled. -/
theorem obeys_iff_enabled :
    let bench := newBench ⟨0, "1", [("enable", "true")]⟩ "base" ModuleType.qsfpPlus.device
      (Bus.ofList [presenceAnswer true, pageAnswer sr4Page])
    let es := [.insert, .poll, .reconfigure ⟨0, "1", []⟩, .poll]
    Run.Along (benchStep .qsfpPlus) (Obeys .qsfpPlus) bench es ↔
      Run.Along (benchStep .qsfpPlus) (InTune .qsfpPlus) bench es :=
  obeys_iff (ModuleType.isA_device .qsfpPlus) (by decide) _ "base" _ _

/-- A module is put into a port that is disabled: its lasers are on. -/
theorem laser_on_in_disabled_port :
    let bench := newBench ⟨0, "1", []⟩ "base" ModuleType.qsfpPlus.device
      (Bus.ofList [presenceAnswer true, pageAnswer sr4Page])
    ¬Run.Along (benchStep .qsfpPlus) (Obeys .qsfpPlus) bench [.insert, .poll] := by
  intro bench hall
  have hobeys := hall.2.1 (by decide +kernel) (by decide +kernel) (by decide +kernel)
  revert hobeys
  decide +kernel

/-! ## Byte 86 is written to optical modules only -/

/-- Byte 86 is written at moments only when the module is known to be an optical one. -/
def Justified (t : ModuleType) (b : Bench) (e : BenchEvent) : Prop :=
  ∀ entry ∈ (benchStep t b e).slot.world.bus.trace.drop b.slot.world.bus.trace.length,
    entry.1.IsDisableWrite → b.known = true

/--
`hw_enable` does not change while the port holds a module that could not be read, after one that was
parsed as an optical module.
-/
def NoStale (b : Bench) : BenchEvent → Prop
  | .reconfigure intf =>
    b.slot.port.hwEnable ≠ ovsdbIfIntfGetHwEnable intf →
      ¬(b.slot.port.present = true ∧ b.slot.port.retry = true ∧ b.slot.port.optical = true)
  | _ => True

namespace Bench

variable {b : Bench}

/-- The step lemma: the only request of a reconfiguration is the write, and a poll makes none. -/
theorem Inv.step_justified_iff (h : b.Inv t) (ht : t ≠ .sfpPlus) (e : BenchEvent) :
    Justified t b e ↔ NoStale b e := by
  unfold Justified
  cases e with
  | insert =>
    refine iff_of_true (fun entry hentry => ?_) trivial
    simp [benchStep, Rig.ofBus] at hentry
  | poll =>
    refine iff_of_true (fun entry hentry hwrite => ?_) trivial
    rw [slot_step_poll h] at hentry
    exact absurd hwrite ((adds_observation h.port.device b.slot.world).mem_drop hentry)
  | reconfigure intf =>
    have hdev : ({ b.slot.port with hwEnable := ovsdbIfIntfGetHwEnable intf } :
        PmPort).moduleDevice.IsA t := h.port.device
    rw [step_reconfigure h ht, h.known]
    by_cases hsame : b.slot.port.hwEnable = ovsdbIfIntfGetHwEnable intf
    · simp [NoStale, hsame]
    · by_cases hwrites : b.slot.port.present = true ∧ b.slot.port.optical = true
      · simp only [if_neg hsame, if_pos hwrites]
        rw [pmConfigurePort_eq hdev ht, if_pos hwrites]
        simp [Bus.ask, NoStale, I2cRequest.IsDisableWrite, hsame, hwrites.1, hwrites.2]
      · simp only [if_neg hsame, if_neg hwrites]
        refine iff_of_true (fun entry hentry => ?_) fun _ hstale => ?_
        · simp at hentry
        · exact hwrites ⟨hstale.1, hstale.2.2⟩

end Bench

/--
**Byte 86 is written in a run to modules only that are known to be optical if and only if
`hw_enable` never changes while the port holds a module that could not be read after an optical
one.**
-/
theorem justified_iff {yamlPort : YamlPort} (h : yamlPort.IsA t) (ht : t ≠ .sfpPlus)
    (intf : Interface) (subName : String) (bus : Bus) (es : List BenchEvent) :
    Run.Along (benchStep t) (Justified t) (newBench intf subName yamlPort bus) es ↔
      Run.Along (benchStep t) NoStale (newBench intf subName yamlPort bus) es :=
  Run.along_iff_of_invariant (I := Bench.Inv t) (fun _ e hI _ => hI.step ht e)
    (fun _ e hI => hI.step_justified_iff ht e) (Bench.inv_newBench h intf subName bus)

/-- An optical module is polled, and then its interface is disabled. -/
theorem justified_iff_optical :
    let bench := newBench ⟨0, "1", [("enable", "true")]⟩ "base" ModuleType.qsfpPlus.device
      (Bus.ofList [presenceAnswer true, pageAnswer sr4Page])
    let es := [.poll, .reconfigure ⟨0, "1", []⟩]
    Run.Along (benchStep .qsfpPlus) (Justified .qsfpPlus) bench es ↔
      Run.Along (benchStep .qsfpPlus) NoStale bench es :=
  justified_iff (ModuleType.isA_device .qsfpPlus) (by decide) _ "base" _ _

/--
An optical module is replaced by one that cannot be read. The change of `hw_enable` is written to
it.
-/
theorem write_to_unknown_module :
    let bench := newBench ⟨0, "1", [("enable", "true")]⟩ "base" ModuleType.qsfpPlus.device
      (Bus.ofList [presenceAnswer true, pageAnswer sr4Page, presenceAnswer false,
        presenceAnswer true, failedAnswer, presenceAnswer true, failedAnswer,
        presenceAnswer true, failedAnswer])
    ¬Run.Along (benchStep .qsfpPlus) (Justified .qsfpPlus) bench
      [.poll, .poll, .poll, .reconfigure ⟨0, "1", []⟩] := by
  intro bench hall
  have hwrite := hall.2.2.2.1
  unfold Justified at hwrite
  revert hwrite
  decide +kernel

end OpsPmd
