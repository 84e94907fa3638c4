import OpsPmd.Properties.Publication
import Mathlib.Data.List.Induction

/-!
# Where the ports and the rows of the database come from

A daemon creates, polls, publishes, changes and deletes many ports over one world. Each port of it
is nevertheless what `portStep` makes of a fresh port, so that what holds of every run of one port
holds of every port of the daemon, and with that of every map in the database.

* `lived_exec` — every port of a daemon is the end of a run of its own
* `pmInfo_provenance` — every row of the database has what was there before the daemon started, or
  the whole map of a port the daemon had when some update committed
-/

namespace OpsPmd

variable {σ : Type} {P : Platform σ} {port : PmPort} {idl : Idl} {nameOf : Uuid → String}

/-! ## Ports with a history -/

/-- The port is what happened to a fresh port of one of the known kinds. -/
def PmPort.Lived (P : Platform σ) (port : PmPort) : Prop :=
  ∃ (t : ModuleType) (intf : Interface) (subName : String) (y : YamlPort) (s : σ)
    (es : List (PortEvent σ)), y.IsA t ∧
      port = (Run.exec (portStep P) (newSlot intf subName y s) es).port

namespace PmPort.Lived

theorem newPort (P : Platform σ) {t : ModuleType} {y : YamlPort} (h : y.IsA t) (intf : Interface)
    (subName : String) (s : σ) : (newPort intf subName y).Lived P :=
  ⟨t, intf, subName, y, s, [], h, rfl⟩

/-- One more event, in any world. -/
theorem event (h : port.Lived P) (e : PortEvent σ) {port' : PmPort}
    (hport : ∀ slot : Slot σ, slot.port = port → (portStep P slot e).port = port') :
    port'.Lived P := by
  obtain ⟨t, intf, subName, y, s, es, hy, hlived⟩ := h
  refine ⟨t, intf, subName, y, s, es ++ [e], hy, ?_⟩
  rw [Run.exec_append, Run.exec_cons, Run.exec_nil]
  exact (hport _ hlived.symm).symm

theorem poll (h : port.Lived P) (s : σ) : (pmReadModuleState P port s).2.1.Lived P := by
  refine h.event (.poll fun _ => s) fun slot hslot => ?_
  rw [← hslot]
  rfl

theorem settle (h : port.Lived P) : ({ port with cells := port.cells.settle } : PmPort).Lived P := by
  refine h.event .publish fun slot hslot => ?_
  rw [← hslot]
  rfl

theorem settled (h : port.Lived P) (idl : Idl) : (port.settled idl).Lived P := by
  unfold PmPort.settled
  split
  · exact h.settle
  · exact h

/-- An interface with the given `hw_enable`. -/
def enabling (hwEnable : Bool) : Interface where
  uuid := 0
  name := ""
  hwIntfConfig := if hwEnable then
    [(INTERFACE_HW_INTF_CONFIG_MAP_ENABLE, INTERFACE_HW_INTF_CONFIG_MAP_ENABLE_TRUE)] else []

theorem configure (h : port.Lived P) (hwEnable : Bool) :
    ({ port with hwEnable := hwEnable } : PmPort).Lived P := by
  have henable : ovsdbIfIntfGetHwEnable (enabling hwEnable) = hwEnable := by
    cases hwEnable <;> decide
  refine h.event (.modify (enabling hwEnable)) fun slot hslot => ?_
  show (ovsdbIfIntfModify P (enabling hwEnable) slot.port slot.world).1 = _
  rw [Pmd.Holds.port_ovsdbIfIntfModify, henable, hslot]

/-- A port with a history has the invariant of its kind. -/
theorem inv (h : port.Lived P) : ∃ t, port.Inv t := by
  obtain ⟨t, intf, subName, y, s, es, hy, rfl⟩ := h
  exact ⟨t, inv_exec hy intf subName s es⟩

/-- A port whose mark is up was polled. -/
theorem shape_of_marked (h : port.Lived P) (hup : port.moduleInfoChanged = true) :
    ∃ k, port.HasShape k := by
  obtain ⟨t, intf, subName, y, s, es, hy, rfl⟩ := h
  revert hup
  refine (Run.exec_inductive (I := fun slot : Slot σ => slot.port.Inv t ∧
    (slot.port.moduleInfoChanged = true → ∃ k, slot.port.HasShape k)) (fun slot e hi => ?_) es
    (s := newSlot intf subName y s)
    ⟨PmPort.inv_newPort intf subName hy, fun hup => absurd hup Bool.false_ne_true⟩).2
  refine ⟨inv_portStep hi.1 e, fun hup => ?_⟩
  cases e with
  | poll change =>
    rw [portStep_poll hi.1]
    exact hi.1.shape_observe (observation_possible _)
  | publish => cases hup
  | modify intf' =>
    simp only [portStep, Pmd.Holds.port_ovsdbIfIntfModify] at hup ⊢
    obtain ⟨k, hk⟩ := hi.2 hup
    exact ⟨k, by cases k <;> exact hk⟩

end PmPort.Lived

/-! ## Runs of the daemon -/

/-- The names of interface rows are immutable, and the ports of the known kinds. -/
def Event.Known (nameOf : Uuid → String) : Event σ → Prop
  | .idlRun idl _ => idl.Named nameOf
  | .reconfigure files => YamlFiles.All (fun y => ∃ t, y.IsA t) files
  | .readState _ => True
  | .update _ => True

theorem Event.Proper.known {e : Event σ} (h : e.Proper nameOf) : e.Known nameOf := by
  cases e with
  | idlRun idl seqno => exact h
  | reconfigure files => exact h
  | readState change => trivial
  | update committed => trivial

/-- The IDL names its rows, and every port has a history. -/
structure System.Lived (P : Platform σ) (nameOf : Uuid → String) (s : System σ) : Prop where
  idl : s.idl.Named nameOf
  ports : s.pmd.Holds nameOf (fun y => ∃ t, y.IsA t) (PmPort.Lived P)

namespace System.Lived

variable {s : System σ}

theorem initial (hidl : idl.Named nameOf) {files : Subsystem → YamlFiles}
    (hfiles : YamlFiles.All (fun y => ∃ t, y.IsA t) files) (seqno : Nat) (world : σ)
    (db : Database) : (initial P idl seqno files world db).Lived P nameOf where
  idl := hidl
  ports := Pmd.Holds.init
    (fun intf subName _ ⟨_, hy⟩ _ => PmPort.Lived.newPort P hy intf subName world)
    hidl hfiles seqno world

theorem step (h : s.Lived P nameOf) {e : Event σ} (he : e.Known nameOf) :
    (step P s e).Lived P nameOf := by
  cases e with
  | idlRun idl seqno => exact ⟨he, h.ports⟩
  | reconfigure files =>
    refine ⟨h.idl, h.ports.reconfigure ?_ ?_ h.idl he s.seqno⟩
    · rintro intf subName y ⟨t, hy⟩ -
      exact PmPort.Lived.newPort P hy intf subName s.pmd.world
    · exact fun p hwEnable hp => hp.configure hwEnable
  | readState change =>
    have hworld : ({ s.pmd with world := change s.pmd.world } : Pmd σ).Holds nameOf
        (fun y => ∃ t, y.IsA t) (PmPort.Lived P) := h.ports.congr rfl rfl
    refine ⟨h.idl, hworld.readState fun n p w _ hp => ⟨?_, hp.poll w⟩⟩
    obtain ⟨t, hinv⟩ := hp.inv
    exact (sameSetup_pmReadModuleState hinv.device.pluggable hinv.ready w).toPortId
  | update committed =>
    refine ⟨h.idl, ?_⟩
    show (pmOvsdbUpdate s.idl committed s.pmd s.db).1.Holds nameOf _ _
    exact h.ports.update fun n p _ hp => hp.settled s.idl

theorem exec (h : s.Lived P nameOf) {es : List (Event σ)} (hes : ∀ e ∈ es, e.Known nameOf) :
    (Run.exec (OpsPmd.step P) s es).Lived P nameOf :=
  Run.exec_invariant (fun _ _ hs he => hs.step he) h (Run.along_of_forall hes)

end System.Lived

/-- **Every port of a daemon is the end of a run of its own from its creation.** -/
theorem lived_exec (P : Platform σ) (nameOf : Uuid → String) (hidl : idl.Named nameOf)
    {files : Subsystem → YamlFiles} (hfiles : YamlFiles.All (fun y => ∃ t, y.IsA t) files)
    (seqno : Nat) (world : σ) (db : Database) {es : List (Event σ)}
    (hes : ∀ e ∈ es, e.Known nameOf) :
    ∀ n p, (n, p) ∈ (Run.exec (step P) (initial P idl seqno files world db) es).pmd.ovsIntfs →
      p.instanceName = n ∧ nameOf p.uuid = n ∧ p.Lived P := by
  intro n p hm
  have hlived := (System.Lived.initial (P := P) hidl hfiles seqno world db).exec hes
  exact ⟨hlived.ports.key n p hm, hlived.ports.row n p hm, hlived.ports.port n p hm⟩

/-- The daemon starts with its one port, which is polled, published and polled again. -/
theorem lived_exec_onePort :
    let s := Run.exec (step simulation)
      (initial simulation onePortIdl 0 onePortFiles {} emptyDatabase)
      [.readState id, .update false, .readState fun d => { d with moduleData := some srPage }]
    ∃ p, ("1", p) ∈ s.pmd.ovsIntfs ∧ p.instanceName = "1" ∧ p.Lived simulation := by
  intro s
  have hfind : (s.pmd.ovsIntfs.find "1").isSome = true := by decide +kernel
  obtain ⟨p, hp⟩ := Option.isSome_iff_exists.mp hfind
  have hm := Shash.mem_of_find hp
  have hlived := lived_exec simulation (fun _ => "1") named_onePortIdl known_onePortFiles 0 {}
    emptyDatabase (by simp [Event.Known]) "1" p hm
  exact ⟨p, hm, hlived.1, hlived.2.2⟩

/-! ## Rows of the database -/

/-- A committed update leaves a row alone, or gives it the map of a port that was due. -/
theorem pmInfo_committed_cases {Y : YamlPort → Prop} {Φ : PmPort → Prop} {d : Pmd σ}
    (h : d.Holds nameOf Y Φ) (idl : Idl) (db : Database) (u : Uuid) :
    (pmOvsdbUpdate idl true d db).2.pmInfo u = db.pmInfo u ∨
      ∃ n p, (n, p) ∈ d.ovsIntfs ∧ p.uuid = u ∧ p.Due idl ∧
        (pmOvsdbUpdate idl true d db).2.pmInfo u = p.pmInfo := by
  by_cases hdue : ∃ n p, (n, p) ∈ d.ovsIntfs ∧ p.uuid = u ∧ p.Due idl
  · obtain ⟨n, p, hm, rfl, hdue⟩ := hdue
    exact Or.inr ⟨n, p, hm, rfl, hdue, (h.pmInfo_committed hm).trans (if_pos hdue)⟩
  · left
    rw [pmOvsdbUpdate_eq]
    refine Database.pmInfo_foldl_of_notMem _ _ fun m hm => hdue ?_
    obtain ⟨n, p, hp, hp', hu, -⟩ := setPmInfo_mem_writes.mp hm
    exact ⟨n, p, hp, hu.symm, hp'⟩

/-- The row has the map that some update of the run committed for a port. -/
def WrittenBy (P : Platform σ) (s : System σ) (es : List (Event σ)) (u : Uuid) (m : Smap) : Prop :=
  ∃ pre post, es = pre ++ .update true :: post ∧
    ∃ n p, (n, p) ∈ (Run.exec (step P) s pre).pmd.ovsIntfs ∧ p.uuid = u ∧ p.Lived P ∧
      (∃ k, p.HasShape k) ∧ p.ExactMap m

theorem WrittenBy.later {s : System σ} {es : List (Event σ)} {u : Uuid} {m : Smap}
    (h : WrittenBy P s es u m) (e : Event σ) : WrittenBy P s (es ++ [e]) u m := by
  obtain ⟨pre, post, rfl, hport⟩ := h
  exact ⟨pre, post ++ [e], by simp, hport⟩

/--
**No row ever has a map that is not whole or not of its own port**, whatever updates fail: it has
what was there when the daemon started, or the exact map of the port that the daemon had for the row
when some update committed, in one of the four shapes.
-/
theorem pmInfo_provenance (P : Platform σ) (nameOf : Uuid → String) (hidl : idl.Named nameOf)
    {files : Subsystem → YamlFiles} (hfiles : YamlFiles.All (fun y => ∃ t, y.IsA t) files)
    (seqno : Nat) (world : σ) (db : Database) {es : List (Event σ)}
    (hes : ∀ e ∈ es, e.Known nameOf) (u : Uuid) :
    let s := initial P idl seqno files world db
    (Run.exec (step P) s es).db.pmInfo u = db.pmInfo u ∨
      WrittenBy P s es u ((Run.exec (step P) s es).db.pmInfo u) := by
  intro s
  induction es using List.reverseRecOn with
  | nil => exact Or.inl rfl
  | append_singleton es e ih =>
    have hbefore : ∀ e ∈ es, e.Known nameOf := fun e he => hes e (List.mem_append_left _ he)
    have hrow := ih hbefore
    rw [Run.exec_append, Run.exec_cons, Run.exec_nil]
    -- only an update that commits writes to the database
    have hsame : (step P (Run.exec (step P) s es) e).db.pmInfo u =
        (Run.exec (step P) s es).db.pmInfo u →
          (step P (Run.exec (step P) s es) e).db.pmInfo u = db.pmInfo u ∨
            WrittenBy P s (es ++ [e]) u ((step P (Run.exec (step P) s es) e).db.pmInfo u) := by
      intro heq
      rw [heq]
      exact hrow.imp id fun hw => hw.later e
    cases e with
    | idlRun idl seqno => exact hsame rfl
    | reconfigure files => exact hsame rfl
    | readState change => exact hsame rfl
    | update committed =>
      cases committed with
      | false => exact hsame rfl
      | true =>
        have hlived := (System.Lived.initial (P := P) hidl hfiles seqno world db).exec hbefore
        rcases pmInfo_committed_cases hlived.ports (Run.exec (step P) s es).idl
          (Run.exec (step P) s es).db u with hkept | ⟨n, p, hm, hu, hdue, hmap⟩
        · exact hsame hkept
        · refine Or.inr ⟨es, [], rfl, n, p, hm, hu, ?_⟩
          have hp := hlived.ports.port n p hm
          obtain ⟨t, hinv⟩ := hp.inv
          refine ⟨hp, hp.shape_of_marked hdue.2, ?_⟩
          show p.ExactMap ((pmOvsdbUpdate _ true _ _).2.pmInfo u)
          rw [hmap]
          exact hinv.exactMap

/-- An update fails after the first poll, and one commits after the second. -/
theorem pmInfo_provenance_onePort :
    let s := initial simulation onePortIdl 0 onePortFiles {} emptyDatabase
    let es : List (Event SimData) := [.readState id, .update false,
      .readState fun d => { d with moduleData := some srPage }, .update true]
    (Run.exec (step simulation) s es).db.pmInfo 1 = emptyDatabase.pmInfo 1 ∨
      WrittenBy simulation s es 1 ((Run.exec (step simulation) s es).db.pmInfo 1) :=
  pmInfo_provenance simulation (fun _ => "1") named_onePortIdl known_onePortFiles 0 {}
    emptyDatabase (by simp [Event.Known]) 1

end OpsPmd
