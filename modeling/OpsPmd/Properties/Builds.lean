import OpsPmd.Hardware
import OpsPmd.Properties.Simulated

/-!
# The two builds of the daemon

The simulation is there to try the daemon without hardware. What it says of an inserted module has
to be what the daemon says where such a module stands in a port.

* `Responses.Shows` — a module with the same serial ID page
* `simulation_agrees` — rows and dump are those of the simulation with the page inserted
-/

namespace OpsPmd

variable {σ : Type} {nameOf : Uuid → String}

/-- The module has the page that is inserted, or there is none where none is. -/
structure Responses.Shows (data : Option Page) (r : Responses) : Prop where
  found : r.found = data.isSome
  a0 : r.found = true → r.a0 = data

/-- The diagnostics page plays no part in what a module is taken for. -/
theorem Responses.Shows.ident {data : Option Page} {r : Responses} (h : r.Shows data) :
    (simResponses data).ident = r.ident := by
  obtain ⟨hfound, ha0⟩ := h
  cases data with
  | none => exact (Responses.ident_of_not_found rfl).trans (Responses.ident_of_not_found hfound).symm
  | some a0 =>
    have hpage : r.a0 = some a0 := ha0 hfound
    unfold Responses.ident
    rw [hfound, hpage]
    rfl

/-! ## Hardware that stays as it is -/

/-- What a port gives whose bus answers every request alike. -/
def I2cAnswer.responses (a : I2cAnswer) : Responses where
  found := a.rc = 0 && a.result ≠ 0
  a0 := if a.rc ≠ 0 then none else some a.data
  a2 := if a.rc ≠ 0 then none else some a.data

section Hardware

variable {a : I2cAnswer} {bus : Bus} {port : PortId} {t : ModuleType}

theorem readPresence_of_answers (regOp : Signal) : ∀ (n : Nat) {bus : Bus},
    (∀ k, bus.answers k = a) →
      (readPresence port regOp n bus).1 = a.responses.found ∧
        ∀ k, (readPresence port regOp n bus).2.answers k = a
  | n, bus, hbus => by
    rw [readPresence.eq_def]
    have hanswer : (bus.ask (.regRead port.instanceName regOp)).1 = a := hbus _
    dsimp only
    rw [hanswer]
    by_cases hrc : a.rc = 0
    · simp only [hrc, I2cAnswer.responses, ne_eq, not_true_eq_false, if_false, decide_true,
        Bool.true_and]
      exact ⟨trivial, hbus⟩
    · rw [if_pos hrc]
      cases n with
      | zero => exact ⟨by simp [I2cAnswer.responses, hrc], hbus⟩
      | succ n => exact readPresence_of_answers regOp n hbus

theorem pmGetPresence_of_answers (h : port.moduleDevice.IsA t) (hbus : ∀ k, bus.answers k = a) :
    (pmGetPresence port bus).1 = a.responses.found ∧
      ∀ k, (pmGetPresence port bus).2.answers k = a := by
  rw [pmGetPresence_eq h]
  exact readPresence_of_answers _ 2 (by simpa using hbus)

/-- Modules on buses that answer alike at all times. -/
theorem steady_hardware (a : I2cAnswer) :
    hardware.Steady (fun _ => a.responses) fun bus => ∀ k, bus.answers k = a := by
  intro port t hdev
  constructor
  · exact fun bus hbus => pmGetPresence_of_answers hdev hbus
  · intro bus hbus
    refine ⟨?_, hbus⟩
    show (if (bus.answers _).rc ≠ 0 then none else some (bus.answers _).data) = _
    rw [hbus]
    rfl
  · intro bus hbus
    refine ⟨?_, hbus⟩
    show (if (bus.answers _).rc ≠ 0 then none else some (bus.answers _).data) = _
    rw [hbus]
    rfl
  · intro bus hbus
    show ∀ k, (pmResetPort port bus).answers k = a
    rw [pmResetPort_eq hdev]
    cases resetSignal t port.moduleDevice with
    | none => exact hbus
    | some signal => exact hbus

end Hardware

/--
**The simulation agrees with the hardware**, as long as every update of both commits. A daemon polls
modules that stay as they are. A daemon of the simulation has for the same port what its commands
have put there, and polls too. If the module gives the page that is inserted, or neither port has a
module, and if both ports have to read it or have read it before, both write the same identification
entries into the row, and give the same reply to a dump of the interface.
-/
theorem simulation_agrees (P : Platform σ) (nameOf : Uuid → String) {idl : Idl}
    (hidl : idl.Named nameOf) {files : Subsystem → YamlFiles}
    (hfiles : YamlFiles.All (fun y => ∃ t, y.IsA t) files) (seqno : Nat) (world : σ) (db : Database)
    {es : List (Event σ)} (hes : ∀ e ∈ es, e.Proper nameOf) {responses : PortId → Responses}
    {I : σ → Prop} (hP : P.Steady responses I) (change : σ → σ) {idl' : Idl}
    (hidl' : idl'.Named nameOf) {files' : Subsystem → YamlFiles}
    (hfiles' : YamlFiles.All (fun y => ∃ t, y.IsA t) files') (seqno' : Nat) (db' : Database)
    {es' : List SimulatedEvent} (hes' : ∀ e ∈ es', e.Proper nameOf) :
    let s := Run.exec (step P) (initial P idl seqno files world db) es
    let s' := Run.exec simulatedStep (simulatedInitial idl' seqno' files' db') es'
    let after := Run.exec (step P) s (pollAndUpdate change)
    let after' := Run.exec simulatedStep s' [.readState, .update true]
    I (change s.pmd.world) → ∀ n p p', (n, p) ∈ s.pmd.ovsIntfs → (n, p') ∈ s'.pmd.ovsIntfs →
      p'.toPortId = p.toPortId → (s.idl.interfaceForUuid p.uuid).isSome = true →
        (s'.idl.interfaceForUuid p.uuid).isSome = true →
          let data := (s'.pmd.world p.uuid).moduleData
          (responses p.toPortId).Shows data → p.Notices (responses p.toPortId) →
            p'.Notices (simResponses data) →
              (after.db.pmInfo p.uuid).dumped = (after'.db.pmInfo p.uuid).dumped ∧
                pmdUnixctlDump after.pmd.ovsIntfs ["ops-pmd/dump", "interface", n] =
                  pmdUnixctlDump after'.pmd.ovsIntfs ["ops-pmd/dump", "interface", n] := by
  intro s s' after after' hworld n p p' hm hm' hid hrow hrow' data hshows hnotices hnotices'
  have htracked : s.Sound nameOf Tracked :=
    Run.exec_invariant (fun _ _ hs he => hs.step_tracked he)
      (System.Sound.initial hidl hfiles seqno world db) (Run.along_of_forall hes)
  have hlived : s.Lived P nameOf :=
    (System.Lived.initial hidl hfiles seqno world db).exec fun e he => (hes e he).known
  have hsim : s'.Simulated nameOf :=
    (System.Simulated.initial hidl' hfiles' seqno' db').exec hes'
  have hsteady := steady_simulation_each fun u => (s'.pmd.world u).moduleData
  have hworld' : ∀ u, (id s'.pmd.world u).moduleData = (s'.pmd.world u).moduleData := fun _ => rfl
  exact dumped_agree htracked hlived hP hsim.sound hsim.lived hsteady hworld hworld' hm hm' hid hrow
    hrow' hnotices hnotices' hshows.ident

/--
A module is plugged into a port of the hardware, and a file with its page into a simulated one.
-/
theorem simulation_agrees_onePort :
    let files : String → Option (List UInt8) := fun _ => some srPage.toList
    let plug : (Uuid → Bus) → Uuid → Bus := fun _ _ => { answers := fun _ => ⟨0, 1, srPage⟩ }
    let s := initial hardware.each onePortIdl 0 onePortFiles (fun _ => Bus.ofList []) emptyDatabase
    let s' := Run.exec simulatedStep (simulatedInitial onePortIdl 0 onePortFiles emptyDatabase)
      [.command files "1" ["insert", "sr.bin"]]
    let after := Run.exec (step hardware.each) s (pollAndUpdate plug)
    let after' := Run.exec simulatedStep s' [.readState, .update true]
    ∃ p, ("1", p) ∈ s.pmd.ovsIntfs ∧
      (after.db.pmInfo p.uuid).dumped = (after'.db.pmInfo p.uuid).dumped := by
  intro files plug s s' after after'
  have hes' : ∀ e ∈ [SimulatedEvent.command files "1" ["insert", "sr.bin"]],
      e.Proper fun _ => "1" := by simp [SimulatedEvent.Proper]
  have hes : ∀ e ∈ ([] : List (Event (Uuid → Bus))), e.Proper fun _ => "1" := by simp
  have hsteady := Platform.Steady.each fun _ : Uuid => steady_hardware ⟨0, 1, srPage⟩
  have hagrees := simulation_agrees hardware.each (fun _ => "1") named_onePortIdl known_onePortFiles
    0 (fun _ => Bus.ofList []) emptyDatabase hes hsteady plug named_onePortIdl known_onePortFiles 0
    emptyDatabase hes'
  have hs : Run.exec (step hardware.each) (initial hardware.each onePortIdl 0 onePortFiles
    (fun _ => Bus.ofList []) emptyDatabase) [] = s := rfl
  have hs' : Run.exec simulatedStep (simulatedInitial onePortIdl 0 onePortFiles emptyDatabase)
    [.command files "1" ["insert", "sr.bin"]] = s' := rfl
  have hafter : Run.exec (step hardware.each) s (pollAndUpdate plug) = after := rfl
  have hafter' : Run.exec simulatedStep s' [.readState, .update true] = after' := rfl
  simp only [hs, hs', hafter, hafter'] at hagrees
  have hsim := System.Simulated.initial named_onePortIdl known_onePortFiles 0 emptyDatabase
  have hinit : (simulatedInitial onePortIdl 0 onePortFiles emptyDatabase).pmd.ovsIntfs =
    s.pmd.ovsIntfs := rfl
  have hports : s'.pmd.ovsIntfs = s.pmd.ovsIntfs := by
    have hcommand : ∀ s : System (Uuid → SimData),
        (Run.exec simulatedStep s [.command files "1" ["insert", "sr.bin"]]).pmd =
          (s.pmd.simCommand files "1" ["insert", "sr.bin"]).2 := fun _ => rfl
    rw [← hs', hcommand, ovsIntfs_simCommand hsim.lived.ports, hinit]
  have hfind : (s.pmd.ovsIntfs.find "1").any (fun p => (s.idl.interfaceForUuid p.uuid).isSome &&
      ((s'.idl.interfaceForUuid p.uuid).isSome &&
        ((s'.pmd.world p.uuid).moduleData.map Page.toList == some srPage.toList &&
          !p.present))) = true := by decide +kernel
  obtain ⟨p, hp, hall⟩ := (Option.any_eq_true _ _).mp hfind
  simp only [Bool.and_eq_true, Bool.not_eq_true', beq_iff_eq] at hall
  obtain ⟨hrow, hrow', hdata, habsent⟩ := hall
  obtain ⟨page, hdata, hpage⟩ := Option.map_eq_some_iff.mp hdata
  obtain rfl : page = srPage := List.ofFn_injective hpage
  have hm := Shash.mem_of_find hp
  have hneeds : p.NeedsRead := fun hheld => by simp [habsent] at hheld
  have hm' : ("1", p) ∈ s'.pmd.ovsIntfs := by
    rw [hports]
    exact hm
  refine ⟨p, hm, (hagrees (fun _ _ => rfl) "1" p p hm hm' rfl hrow hrow' ?_ ?_ ?_).1⟩
  · rw [hdata]
    exact ⟨rfl, fun _ => rfl⟩
  · exact fun _ => Or.inl hneeds
  · exact fun _ => Or.inl hneeds

end OpsPmd
