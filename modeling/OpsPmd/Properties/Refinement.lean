import OpsPmd.Bay
import OpsPmd.PerPort
import OpsPmd.Properties.History

/-!
# Ports refine bays

Whatever happens to a port, it shows what its bay shows: the port of the daemon, with its columns,
marks and flags, simulates the machine of `Bay`, and so does every port in a daemon with many.

* `port_refines_bay` — one port over any run
* `daemon_refines_bays` — all ports of a daemon, and all rows of the database
-/

namespace OpsPmd

variable {σ : Type} {P : Platform σ} {t : ModuleType} {nameOf : Uuid → String} {idl : Idl}

/-! ## What a platform looks at -/

/-- `pm_configure_port` looks at the place of a port, its configuration and two of its flags. -/
def Platform.Regular (P : Platform σ) : Prop :=
  ∀ p p' : PmPort, PmPort.SameSetup p p' → p.present = p'.present → p.optical = p'.optical →
    P.configurePort p = P.configurePort p'

theorem disableByte_congr {p p' : PmPort} (h : PmPort.SameSetup p p') :
    p.disableByte = p'.disableByte := by
  simp only [PmPort.disableByte, h.split, h.hwEnable, h.hwEnableSubport]

theorem regular_hardware : hardware.Regular := by
  intro p p' h hpresent hoptical
  funext bus
  show pmConfigurePort p bus = pmConfigurePort p' bus
  simp only [pmConfigurePort, pmConfigureQsfp, h.toPortId, h.hwEnable, hpresent, hoptical,
    disableByte_congr h]

theorem regular_simulation : simulation.Regular := by
  intro p p' h _ _
  funext data
  simp only [simulation, h.toPortId, h.hwEnable, disableByte_congr h]

theorem Platform.Regular.each (hP : P.Regular) : P.each.Regular := by
  intro p p' h hpresent hoptical
  funext s
  simp only [Platform.each, hP p p' h hpresent hoptical, h.toPortId]

/-! ## One port -/

/-- The slot is in the state of the bay. -/
structure Refines (t : ModuleType) (slot : Slot σ) (s : BaySlot σ) : Prop where
  setup : PmPort.SameSetup slot.port s.toPort
  shows : slot.port.Shows t s.bay
  world : slot.world = s.world

namespace Refines

variable {slot : Slot σ} {s : BaySlot σ}

theorem newSlot (intf : Interface) (subName : String) {yamlPort : YamlPort} (h : yamlPort.IsA t)
    (w : σ) : Refines t (newSlot intf subName yamlPort w) (newBay intf subName yamlPort w) :=
  ⟨⟨rfl, rfl, rfl, rfl, rfl⟩, .newPort intf subName h, rfl⟩

/-- The platform cannot tell the port from the one of the bay. -/
theorem observation_eq (h : Refines t slot s) (w : σ) :
    observation P t slot.port w = observation P t s.toPort w :=
  observation_congr h.setup.toPortId.symm (h.shows.needsRead_iff rfl rfl) w

theorem poll (h : Refines t slot s) (change : σ → σ) :
    Refines t (portStep P slot (.poll change)) (bayStep P t s (.poll change)) := by
  rw [portStep_poll h.shows.inv, h.world]
  have hobs := h.observation_eq (P := P) (change s.world)
  have hposs : Possible t slot.port (observation P t slot.port (change s.world)).1 :=
    observation_possible _
  rw [hobs] at hposs ⊢
  have hsame := PmPort.sameSetup_observe h.shows.inv.device
    (observation P t s.toPort (change s.world)).1
  refine ⟨?_, h.shows.observe hposs, rfl⟩
  exact
    { toPortId := h.setup.toPortId.trans hsame.toPortId.symm
      hwEnable := h.setup.hwEnable.trans hsame.hwEnable.symm
      hwEnableSubport := h.setup.hwEnableSubport.trans hsame.hwEnableSubport.symm
      a2ReadRequested := h.setup.a2ReadRequested.trans hsame.a2ReadRequested.symm
      split := h.setup.split.trans hsame.split.symm }

theorem publish (h : Refines t slot s) :
    Refines t (portStep P slot .publish) (bayStep P t s .publish) :=
  ⟨⟨h.setup.toPortId, h.setup.hwEnable, h.setup.hwEnableSubport, h.setup.a2ReadRequested,
    h.setup.split⟩, h.shows.retouch false slot.port.hwEnable, h.world⟩

theorem modify (hP : P.Regular) (h : Refines t slot s) (intf : Interface) :
    Refines t (portStep P slot (.modify intf)) (bayStep P t s (.modify intf)) := by
  have henable : slot.port.hwEnable = s.hwEnable := h.setup.hwEnable.symm
  simp only [portStep, bayStep, ovsdbIfIntfModify, henable]
  by_cases hsame : s.hwEnable = ovsdbIfIntfGetHwEnable intf
  · rw [if_neg (not_not.mpr hsame), if_pos hsame]
    exact h
  · rw [if_pos hsame, if_neg hsame]
    have hsetup : PmPort.SameSetup
        ({ slot.port with hwEnable := ovsdbIfIntfGetHwEnable intf } : PmPort)
        ({ s with hwEnable := ovsdbIfIntfGetHwEnable intf } : BaySlot σ).toPort :=
      ⟨h.setup.toPortId, rfl, h.setup.hwEnableSubport, h.setup.a2ReadRequested, h.setup.split⟩
    refine ⟨hsetup, h.shows.retouch slot.port.cells.changed _, ?_⟩
    show P.configurePort _ slot.world = P.configurePort _ s.world
    rw [hP _ _ hsetup h.shows.present h.shows.optical, h.world]

/-- **Every event does to a port what it does to its bay.** -/
theorem step (hP : P.Regular) (h : Refines t slot s) (e : PortEvent σ) :
    Refines t (portStep P slot e) (bayStep P t s e) := by
  cases e with
  | poll change => exact h.poll change
  | publish => exact h.publish
  | modify intf => exact h.modify hP intf

theorem exec (hP : P.Regular) (h : Refines t slot s) (es : List (PortEvent σ)) :
    Refines t (Run.exec (portStep P) slot es) (Run.exec (bayStep P t) s es) := by
  have hrun : Refines t (Run.exec (portStep P) slot es)
      (Run.exec (bayStep P t) s (es.map id)) :=
    Run.exec_simulates (R := Refines t) (fun _ _ e hR => hR.step hP e) es h
  rwa [List.map_id] at hrun

end Refines

/--
**A port refines its bay.** After any run of polls, updates and changes of its configuration, a port
of a known kind publishes the map of its bay, has the same flags, and leaves its world as the bay
does. The `retry` of a port without a module is not looked at, and may be left from an earlier one.
-/
theorem port_refines_bay (P : Platform σ) (hP : P.Regular) {yamlPort : YamlPort}
    (h : yamlPort.IsA t) (intf : Interface) (subName : String) (w : σ)
    (es : List (PortEvent σ)) :
    let slot := Run.exec (portStep P) (newSlot intf subName yamlPort w) es
    let s := Run.exec (bayStep P t) (newBay intf subName yamlPort w) es
    slot.port.pmInfo = s.bay.pmInfo t ∧ slot.port.toPortId = s.id ∧
      slot.port.hwEnable = s.hwEnable ∧ slot.port.present = s.bay.ident.present ∧
      (slot.port.present = true → slot.port.retry = s.bay.ident.retry) ∧
      slot.port.a2ReadRequested = false ∧ slot.port.optical = s.bay.optical ∧
      slot.world = s.world := by
  intro slot s
  have hrefines : Refines t slot s := (Refines.newSlot intf subName h w).exec hP es
  exact ⟨hrefines.shows.pmInfo, hrefines.setup.toPortId.symm, hrefines.setup.hwEnable.symm,
    hrefines.shows.present, hrefines.shows.retry, hrefines.shows.inv.ready, hrefines.shows.optical,
    hrefines.world⟩

/-- A module answers, its port is enabled and published, and then nothing answers any more. -/
theorem port_refines_bay_hardware :
    let intf : Interface := ⟨1, "1", [("enable", "true")]⟩
    let es : List (PortEvent Bus) := [.poll id, .modify intf, .publish, .poll id]
    let bus := Bus.ofList [presenceAnswer true, pageAnswer srPage, pageAnswer allOnes]
    let device := ModuleType.sfpPlus.device
    let slot := Run.exec (portStep hardware) (newSlot ⟨1, "1", []⟩ "base" device bus) es
    let s := Run.exec (bayStep hardware .sfpPlus) (newBay ⟨1, "1", []⟩ "base" device bus) es
    slot.port.pmInfo = s.bay.pmInfo .sfpPlus ∧ slot.port.toPortId = s.id ∧
      slot.port.hwEnable = s.hwEnable ∧ slot.port.present = s.bay.ident.present ∧
      (slot.port.present = true → slot.port.retry = s.bay.ident.retry) ∧
      slot.port.a2ReadRequested = false ∧ slot.port.optical = s.bay.optical ∧
      slot.world = s.world :=
  port_refines_bay hardware regular_hardware (ModuleType.isA_device .sfpPlus) ⟨1, "1", []⟩ "base"
    _ _

/-! ## All ports -/

/-- The bay is reached by the machine of bays over the platform. -/
def Bay.Reached (P : Platform σ) (t : ModuleType) (b : Bay) : Prop :=
  ∃ (intf : Interface) (subName : String) (y : YamlPort) (w : σ) (es : List (PortEvent σ)),
    y.IsA t ∧ b = (Run.exec (bayStep P t) (newBay intf subName y w) es).bay

/-- A port with a history shows a bay with the same history. -/
theorem PmPort.Lived.shows {port : PmPort} (hP : P.Regular) (h : port.Lived P) :
    ∃ t b, Bay.Reached P t b ∧ port.Shows t b := by
  obtain ⟨t, intf, subName, y, w, es, hy, rfl⟩ := h
  exact ⟨t, _, ⟨intf, subName, y, w, es, hy, rfl⟩,
    ((Refines.newSlot intf subName hy w).exec hP es).shows⟩

/-- The row is as it was before, or has the map of a bay. -/
def RowShows (P : Platform σ) (before row : Smap) : Prop :=
  row = before ∨ ∃ t b, Bay.Reached P t b ∧ row = b.pmInfo t

theorem System.Lived.row_step {s : System σ} (hP : P.Regular) (h : s.Lived P nameOf) {u : Uuid}
    {before : Smap} (hrow : RowShows P before (s.db.pmInfo u)) (e : Event σ) :
    RowShows P before ((OpsPmd.step P s e).db.pmInfo u) := by
  cases e with
  | idlRun idl seqno => exact hrow
  | reconfigure files => exact hrow
  | readState change => exact hrow
  | update committed =>
    cases committed with
    | false => exact hrow
    | true =>
      show RowShows P before ((pmOvsdbUpdate s.idl true s.pmd s.db).2.pmInfo u)
      rcases pmInfo_committed_cases h.ports s.idl s.db u with hkept | ⟨n, p, hm, -, -, hmap⟩
      · rwa [hkept]
      · obtain ⟨t, b, hb, hshows⟩ := (h.ports.port n p hm).shows hP
        exact Or.inr ⟨t, b, hb, hmap.trans hshows.pmInfo⟩

/--
**A daemon refines bays.** In every state of it each port shows a bay that the machine of bays
reaches, and each row of the database has what was there before, or the map of such a bay.
-/
theorem daemon_refines_bays (P : Platform σ) (hP : P.Regular) (nameOf : Uuid → String)
    (hidl : idl.Named nameOf) {files : Subsystem → YamlFiles}
    (hfiles : YamlFiles.All (fun y => ∃ t, y.IsA t) files) (seqno : Nat) (world : σ)
    (db : Database) {es : List (Event σ)} (hes : ∀ e ∈ es, e.Known nameOf) :
    let s := Run.exec (step P) (initial P idl seqno files world db) es
    (∀ n p, (n, p) ∈ s.pmd.ovsIntfs → ∃ t b, Bay.Reached P t b ∧ p.Shows t b) ∧
      ∀ u, RowShows P (db.pmInfo u) (s.db.pmInfo u) := by
  have hlived := System.Lived.initial (P := P) hidl hfiles seqno world db
  intro s
  refine ⟨fun n p hm => ((hlived.exec hes).ports.port n p hm).shows hP, fun u => ?_⟩
  exact (Run.exec_invariant
    (I := fun s : System σ => s.Lived P nameOf ∧ RowShows P (db.pmInfo u) (s.db.pmInfo u))
    (fun _ e hs he => ⟨hs.1.step he, hs.1.row_step hP hs.2 e⟩) ⟨hlived, Or.inl rfl⟩
    (Run.along_of_forall hes)).2

/-- A module is inserted, and two updates are made of which the first fails. -/
theorem daemon_refines_bays_onePort :
    let es : List (Event SimData) := [.readState fun d => { d with moduleData := some srPage },
      .update false, .readState fun d => { d with moduleData := none }, .update true]
    let s := Run.exec (step simulation)
      (initial simulation onePortIdl 0 onePortFiles {} emptyDatabase) es
    (∀ n p, (n, p) ∈ s.pmd.ovsIntfs → ∃ t b, Bay.Reached simulation t b ∧ p.Shows t b) ∧
      ∀ u, RowShows simulation (emptyDatabase.pmInfo u) (s.db.pmInfo u) :=
  daemon_refines_bays simulation regular_simulation (fun _ => "1") named_onePortIdl
    known_onePortFiles 0 {} emptyDatabase (by simp [Event.Known])

end OpsPmd
