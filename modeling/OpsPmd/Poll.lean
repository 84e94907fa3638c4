import OpsPmd.Plug
import OpsPmd.Lib.Retry

/-!
# A poll as an observation

What one poll does to a port depends on the world only through what it observed: no module, one
that is already known, one that cannot be read, or a serial ID page with the diagnostics page it
asks for. `observation` is the part of `pm_read_module_state` that deals with the world,
`PmPort.observe` the part that deals with the port.

* `retryRead_eq` — the `goto` loop is a `Retry.loop` over one round of presence, read and checksum
* `pmReadModuleState_eq` — a poll is an observation and its effect on the port
* `observation_possible` — which observations can be made of which ports
* `observation_invariant` — what a poll keeps of the world
-/

namespace OpsPmd

variable {σ : Type}

/-- What the `retry_read` loop ends with, unless it gives up. -/
inductive Identification
  | absent
  | held
  | page (a0 : Page)

/-- What a poll observes. The diagnostics page is there if the serial ID page asks for it. -/
inductive Observation
  | absent
  | held
  | unreadable
  | identified (a0 : Page) (a2 : Option Page)

/-- The offset of the serial ID page. -/
def ModuleType.serialIdOffset : ModuleType → Nat
  | sfpPlus => SFP_SERIAL_ID_OFFSET
  | qsfpPlus => QSFP_SERIAL_ID_OFFSET
  | qsfp28 => QSFP_SERIAL_ID_OFFSET

section Loop

variable (P : Platform σ)

/-- The serial ID page has to be read: the port was empty, or could not be read so far. -/
def PmPort.NeedsRead (port : PmPort) : Prop := ¬(port.present = true ∧ port.retry = false)

/-- One round of `retry_read`. -/
def attempt (port : PmPort) (offset : Nat) (s : σ) : Option Identification × σ :=
  match P.getPresence port.toPortId s with
  | (false, s) => (some .absent, s)
  | (true, s) =>
    if port.present = true ∧ port.retry = false then (some .held, s)
    else
      match P.readA0 port.toPortId offset s with
      | (none, s) => (none, s)
      | (some a0, s) => if sfppSumVerify a0 = 0 then (some (.page a0), s) else (none, s)

/-- The `retry_read` loop: up to two resets, each followed by another round. -/
def identify (port : PmPort) (offset : Nat) (n : Nat) (s : σ) : Option Identification × Nat × σ :=
  Retry.loop (attempt P port offset) (P.resetPort port.toPortId) n s

/-- The part of a poll that deals with the world. -/
def observation (t : ModuleType) (port : PmPort) (s : σ) : Observation × σ :=
  match identify P port t.serialIdOffset 2 s with
  | (none, _, s) => (.unreadable, s)
  | (some .absent, _, s) => (.absent, s)
  | (some .held, _, s) => (.held, s)
  | (some (.page a0), n, s) =>
    if t.requestsA2 a0 then
      let (a2, s) := retryReadA2 P port.toPortId n s
      (.identified a0 (some a2), s)
    else (.identified a0 none, s)

end Loop

namespace PmPort

/-- The statements for a module that is not there, with the test before them. -/
def settleAbsent (port : PmPort) : PmPort :=
  if port.present || (port.info .connector).isNone then port.absent else port

/-- The port after its serial ID page was parsed. -/
def identified (port : PmPort) (a0 : Page) : PmPort :=
  { (pmParse a0 port).2 with present := true, retry := false }

/-- The part of a poll that deals with the port. -/
def observe (port : PmPort) : Observation → PmPort
  | .absent => port.settleAbsent
  | .held => port
  | .unreadable => port.unreadable
  | .identified a0 none => port.identified a0
  | .identified a0 (some a2) => pmSetA2 (port.identified a0) a2

/-- No diagnostics page is asked for between two polls. -/
def Ready (port : PmPort) : Prop := port.a2ReadRequested = false

end PmPort

/-! ## The loops -/

variable {P : Platform σ} {port : PmPort} {t : ModuleType}

/-- What `pm_read_module_state` does with the end of its `retry_read` loop. -/
def conclude (P : Platform σ) (t : ModuleType) (port : PmPort) :
    Option Identification × Nat × σ → Int × PmPort × σ
  | (none, _, s) => (-1, port.unreadable, s)
  | (some .absent, _, s) => (0, port.settleAbsent, s)
  | (some .held, n, s) => readDiagnostics P port n s
  | (some (.page a0), n, s) =>
    readDiagnostics P
      { port.identified a0 with a2ReadRequested := port.a2ReadRequested || t.requestsA2 a0 } n s

theorem PmPort.identified_frame (h : port.moduleDevice.IsA t) (a0 : Page) :
    port.identified a0 =
      { port with
        cells := (port.identified a0).cells
        present := true
        retry := false
        optical := (t.classify a0).optical } := by
  unfold PmPort.identified
  rw [pmParse_frame h]

theorem PmPort.identified_toPortId (h : port.moduleDevice.IsA t) (a0 : Page) :
    (port.identified a0).toPortId = port.toPortId := by
  rw [PmPort.identified_frame h]

theorem PmPort.isA_identified (h : port.moduleDevice.IsA t) (a0 : Page) :
    (port.identified a0).moduleDevice.IsA t := by
  rw [PmPort.identified_toPortId h]
  exact h

/-- The port `pm_read_module_state` goes on with after a page was parsed. -/
theorem parsed_eq (h : port.moduleDevice.IsA t) (a0 : Page) :
    ({ (pmParse a0 port).2 with present := true, retry := false } : PmPort).setA2ReadRequest a0 =
      { port.identified a0 with a2ReadRequested := port.a2ReadRequested || t.requestsA2 a0 } := by
  have hdev := PmPort.isA_identified h a0
  have hreq : (port.identified a0).a2ReadRequested = port.a2ReadRequested := by
    rw [PmPort.identified_frame h]
  show (port.identified a0).setA2ReadRequest a0 = _
  rw [setA2ReadRequest_eq hdev, hreq]

/-- The request flag does not matter to `pm_set_a2`. -/
theorem pmSetA2_request (h : port.moduleDevice.IsA t) (hr : port.Ready) (a2 : Page) :
    ({ pmSetA2 { port with a2ReadRequested := true } a2 with a2ReadRequested := false } : PmPort) =
      pmSetA2 port a2 := by
  have hready : port.a2ReadRequested = false := hr
  have hrequested : ({ port with a2ReadRequested := true } : PmPort).moduleDevice.IsA t := h
  rw [pmSetA2_eq h, pmSetA2_eq hrequested]
  unfold PmPort.setBinary
  rw [← hready]

/-- **The backward jumps of `pm_read_module_state` are a retry loop.** -/
theorem retryRead_eq (h : port.moduleDevice.IsA t) (offset : Nat) : ∀ (n : Nat) (s : σ),
    retryRead P port offset n s = conclude P t port (identify P port offset n s)
  | n, s => by
    rw [retryRead.eq_def, identify]
    obtain ⟨present, s₁, hp⟩ : ∃ b s₁, P.getPresence port.toPortId s = (b, s₁) := ⟨_, _, rfl⟩
    rw [hp]
    cases present with
    | false =>
      -- the round ends the loop, whatever is left of the retries
      have ha : attempt P port offset s = (some .absent, s₁) := by rw [attempt, hp]
      rw [Retry.loop_of_some ha]
      simp only [if_true, conclude, PmPort.settleAbsent]
      split <;> rfl
    | true =>
      by_cases hheld : port.present = true ∧ port.retry = false
      · have ha : attempt P port offset s = (some .held, s₁) := by
          rw [attempt, hp]
          simp only [if_pos hheld]
        rw [Retry.loop_of_some ha]
        simp [hheld.1, hheld.2, conclude]
      · have hread : (decide (port.present = false) || port.retry) = true := by
          cases h1 : port.present <;> cases h2 : port.retry <;> simp_all
        simp only [Bool.true_eq_false, if_false, hread, if_true]
        obtain ⟨r, s₂, hr⟩ : ∃ r s₂, P.readA0 port.toPortId offset s₁ = (r, s₂) := ⟨_, _, rfl⟩
        rw [hr]
        cases r with
        | none =>
          have ha : attempt P port offset s = (none, s₂) := by
            rw [attempt, hp]
            simp only [if_neg hheld, hr]
          cases n with
          | zero => rw [Retry.loop_zero_of_none ha]; rfl
          | succ n =>
            rw [Retry.loop_succ_of_none ha]
            exact retryRead_eq h offset n _
        | some a0 =>
          by_cases hsum : sfppSumVerify a0 = 0
          · have ha : attempt P port offset s = (some (.page a0), s₂) := by
              rw [attempt, hp]
              simp only [if_neg hheld, hr, if_pos hsum]
            rw [Retry.loop_of_some ha]
            -- `pm_parse` fails for unknown connectors only, so `retry` is cleared
            have hrc : (pmParse a0 port).1 = 0 := by rw [pmParse_eq h]
            simp only [hsum, ne_eq, not_true_eq_false, if_false, hrc, if_true, conclude,
              parsed_eq h]
          · have ha : attempt P port offset s = (none, s₂) := by
              rw [attempt, hp]
              simp only [if_neg hheld, hr, if_neg hsum]
            simp only [ne_eq, hsum, not_false_eq_true, if_true]
            cases n with
            | zero => rw [Retry.loop_zero_of_none ha]; rfl
            | succ n =>
              rw [Retry.loop_succ_of_none ha]
              exact retryRead_eq h offset n _

theorem pmReadModuleState_eq_conclude (h : port.moduleDevice.IsA t) (s : σ) :
    pmReadModuleState P port s = conclude P t port (identify P port t.serialIdOffset 2 s) := by
  rw [← retryRead_eq h]
  unfold pmReadModuleState
  simp only [h.hasConnector]
  cases t <;> rfl

/-- The `retry_read_a2` loop is a retry loop without recovery. -/
theorem retryReadA2_eq (id : PortId) : ∀ (n : Nat) (s : σ),
    retryReadA2 P id n s =
      (((Retry.loop (P.readA2 id) (fun s => s) n s).1).getD allOnes,
        (Retry.loop (P.readA2 id) (fun s => s) n s).2.2)
  | n, s => by
    rw [retryReadA2.eq_def]
    obtain ⟨r, s', hr⟩ : ∃ r s', P.readA2 id s = (r, s') := ⟨_, _, rfl⟩
    cases r with
    | some a2 => rw [hr, Retry.loop_of_some hr]; rfl
    | none =>
      rw [hr]
      cases n with
      | zero => rw [Retry.loop_zero_of_none hr]; rfl
      | succ n => rw [Retry.loop_succ_of_none hr]; exact retryReadA2_eq id n s'

/-! ## A poll -/

/-- **A poll is an observation and its effect on the port.** -/
theorem pmReadModuleState_eq (h : port.moduleDevice.IsA t) (hr : port.Ready) (s : σ) :
    (pmReadModuleState P port s).2 =
      (port.observe (observation P t port s).1, (observation P t port s).2) := by
  rw [pmReadModuleState_eq_conclude h, observation]
  obtain ⟨r, n, s', hid⟩ : ∃ r n s', identify P port t.serialIdOffset 2 s = (r, n, s') :=
    ⟨_, _, _, rfl⟩
  rw [hid]
  have hready : port.a2ReadRequested = false := hr
  match r with
  | none => rfl
  | some .absent => rfl
  | some .held => simp [conclude, readDiagnostics, hready, PmPort.observe]
  | some (.page a0) =>
    have hid := PmPort.identified_toPortId h a0
    have hdev := PmPort.isA_identified h a0
    have hreq : (port.identified a0).Ready := by
      show (port.identified a0).a2ReadRequested = false
      rw [PmPort.identified_frame h, hready]
    simp only [conclude, readDiagnostics, hready, Bool.false_or]
    cases t.requestsA2 a0 with
    | false =>
      simp only [if_true, Bool.false_eq_true, if_false, PmPort.observe]
      rw [← show (port.identified a0).a2ReadRequested = false from hreq]
    | true =>
      simp only [Bool.true_eq_false, if_false, if_true, PmPort.observe]
      rw [← hid, ← pmSetA2_request hdev hreq]

/-! ## Which observations are possible -/

/-- The observations a port of type `t` can be met with. -/
def Possible (t : ModuleType) (port : PmPort) : Observation → Prop
  | .absent => True
  | .held => ¬port.NeedsRead
  | .unreadable => port.NeedsRead
  | .identified a0 a2 =>
    port.NeedsRead ∧ sfppSumVerify a0 = 0 ∧ a2.isSome = t.requestsA2 a0

/-- The loop identifies a page with good checksums only, and only where one has to be read. -/
theorem identify_cases (P : Platform σ) (port : PmPort) (offset n : Nat) (s : σ) :
    match (identify P port offset n s).1 with
    | none => port.NeedsRead
    | some .absent => True
    | some .held => ¬port.NeedsRead
    | some (.page a0) => port.NeedsRead ∧ sfppSumVerify a0 = 0 := by
  have hround : ∀ s, match (attempt P port offset s).1 with
      | none => port.NeedsRead
      | some .absent => True
      | some .held => ¬port.NeedsRead
      | some (.page a0) => port.NeedsRead ∧ sfppSumVerify a0 = 0 := by
    intro s
    unfold attempt
    obtain ⟨present, s₁, hp⟩ : ∃ b s₁, P.getPresence port.toPortId s = (b, s₁) := ⟨_, _, rfl⟩
    rw [hp]
    cases present with
    | false => trivial
    | true =>
      by_cases hheld : port.present = true ∧ port.retry = false
      · simp only [if_pos hheld]
        exact not_not.mpr hheld
      · simp only [if_neg hheld]
        obtain ⟨r, s₂, hr⟩ : ∃ r s₂, P.readA0 port.toPortId offset s₁ = (r, s₂) := ⟨_, _, rfl⟩
        rw [hr]
        cases r with
        | none => exact hheld
        | some a0 =>
          by_cases hsum : sfppSumVerify a0 = 0
          · simp only [if_pos hsum]
            exact ⟨hheld, hsum⟩
          · simp only [if_neg hsum]
            exact hheld
  -- the port does not change between the rounds, so what one round says the loop says
  have hloop := Retry.loop_rule (attempt P port offset) (P.resetPort port.toPortId)
    (I := fun _ => True) (F := fun _ => port.NeedsRead)
    (Q := fun i _ => match i with
      | .absent => True
      | .held => ¬port.NeedsRead
      | .page a0 => port.NeedsRead ∧ sfppSumVerify a0 = 0)
    (fun s s' _ h => ⟨trivial, by have := hround s; rwa [h] at this⟩)
    (fun s i s' _ h => by have := hround s; rw [h] at this; cases i <;> exact this)
    n s trivial
  unfold identify
  obtain ⟨r, n', s', hl⟩ : ∃ r n' s',
      Retry.loop (attempt P port offset) (P.resetPort port.toPortId) n s = (r, n', s') :=
    ⟨_, _, _, rfl⟩
  rw [hl] at hloop ⊢
  match r with
  | none => exact hloop
  | some .absent => trivial
  | some .held => exact hloop
  | some (.page a0) => exact hloop

theorem observation_possible (s : σ) : Possible t port (observation P t port s).1 := by
  have hcases := identify_cases P port t.serialIdOffset 2 s
  unfold observation
  obtain ⟨r, n, s', hid⟩ : ∃ r n s', identify P port t.serialIdOffset 2 s = (r, n, s') :=
    ⟨_, _, _, rfl⟩
  rw [hid] at hcases ⊢
  match r with
  | none => exact hcases
  | some .absent => trivial
  | some .held => exact hcases
  | some (.page a0) =>
    by_cases hwant : t.requestsA2 a0 = true
    · simp only [if_pos hwant]
      exact ⟨hcases.1, hcases.2, hwant.symm⟩
    · simp only [if_neg hwant]
      exact ⟨hcases.1, hcases.2, by simpa using hwant⟩

/-- What is observed depends on the port by its identity and by whether it has to be read. -/
theorem observation_congr {port' : PmPort} (hid : port.toPortId = port'.toPortId)
    (hneeds : port.NeedsRead ↔ port'.NeedsRead) (s : σ) :
    observation P t port s = observation P t port' s := by
  have hround : attempt P port t.serialIdOffset = attempt P port' t.serialIdOffset := by
    funext s
    have hheld := not_congr hneeds
    simp only [PmPort.NeedsRead, not_not] at hheld
    simp only [attempt, hid, hheld]
  simp only [observation, identify, hround, hid]

/-! ## What an observation does to the world -/

section World

variable {I : σ → Prop} {offset : Nat}

theorem attempt_invariant (hp : ∀ s, I s → I (P.getPresence port.toPortId s).2)
    (h0 : ∀ s, I s → I (P.readA0 port.toPortId offset s).2) {s : σ} (hI : I s) :
    I (attempt P port offset s).2 := by
  unfold attempt
  have hI₁ := hp s hI
  obtain ⟨present, s₁, hpres⟩ : ∃ b s₁, P.getPresence port.toPortId s = (b, s₁) := ⟨_, _, rfl⟩
  rw [hpres] at hI₁ ⊢
  cases present with
  | false => exact hI₁
  | true =>
    by_cases hheld : port.present = true ∧ port.retry = false
    · simp only [if_pos hheld]
      exact hI₁
    · simp only [if_neg hheld]
      have hI₂ := h0 s₁ hI₁
      obtain ⟨r, s₂, hr⟩ : ∃ r s₂, P.readA0 port.toPortId offset s₁ = (r, s₂) := ⟨_, _, rfl⟩
      rw [hr] at hI₂ ⊢
      cases r with
      | none => exact hI₂
      | some a0 =>
        dsimp only
        split_ifs <;> exact hI₂

theorem retryReadA2_invariant (h2 : ∀ s, I s → I (P.readA2 port.toPortId s).2) (n : Nat) {s : σ}
    (hI : I s) : I (retryReadA2 P port.toPortId n s).2 := by
  rw [retryReadA2_eq]
  exact Retry.loop_invariant h2 (fun _ h => h) n s hI

/-- An observation is an identification and possibly some reads of the diagnostics page. -/
theorem observation_of_identify {I : σ → Prop} (h2 : ∀ s, I s → I (P.readA2 port.toPortId s).2)
    {s : σ} (hI : I (identify P port t.serialIdOffset 2 s).2.2) : I (observation P t port s).2 := by
  unfold observation
  obtain ⟨r, n, s', hid⟩ : ∃ r n s', identify P port t.serialIdOffset 2 s = (r, n, s') :=
    ⟨_, _, _, rfl⟩
  rw [hid] at hI ⊢
  match r with
  | none | some .absent | some .held => exact hI
  | some (.page a0) =>
    by_cases hwant : t.requestsA2 a0 = true
    · simp only [if_pos hwant]
      exact retryReadA2_invariant h2 n hI
    · simp only [if_neg hwant]
      exact hI

/-- **What every function of the platform keeps, an observation keeps.** -/
theorem observation_invariant (hp : ∀ s, I s → I (P.getPresence port.toPortId s).2)
    (h0 : ∀ s, I s → I (P.readA0 port.toPortId t.serialIdOffset s).2)
    (h2 : ∀ s, I s → I (P.readA2 port.toPortId s).2)
    (hreset : ∀ s, I s → I (P.resetPort port.toPortId s)) {s : σ} (hI : I s) :
    I (observation P t port s).2 :=
  observation_of_identify h2
    (Retry.loop_invariant (fun _ h => attempt_invariant hp h0 h) hreset 2 s hI)

theorem conclude_invariant (h : port.moduleDevice.IsA t)
    (h2 : ∀ s, I s → I (P.readA2 port.toPortId s).2) :
    ∀ {r : Option Identification × Nat × σ}, I r.2.2 → I (conclude P t port r).2.2 := by
  have hread : ∀ (q : PmPort) (n : Nat) {s : σ}, q.toPortId = port.toPortId → I s →
      I (readDiagnostics P q n s).2.2 := by
    intro q n s hid hI
    unfold readDiagnostics
    by_cases hreq : q.a2ReadRequested = false
    · rw [if_pos hreq]
      exact hI
    · rw [if_neg hreq, hid]
      exact retryReadA2_invariant h2 n hI
  intro r hI
  match r with
  | (none, _, _) | (some .absent, _, _) => exact hI
  | (some .held, n, _) => exact hread port n rfl hI
  | (some (.page a0), n, _) => exact hread _ n (PmPort.identified_toPortId h a0) hI

/-- **What every function of the platform keeps, a poll keeps.** -/
theorem pmReadModuleState_invariant (h : port.moduleDevice.IsA t)
    (hp : ∀ s, I s → I (P.getPresence port.toPortId s).2)
    (h0 : ∀ s, I s → I (P.readA0 port.toPortId t.serialIdOffset s).2)
    (h2 : ∀ s, I s → I (P.readA2 port.toPortId s).2)
    (hreset : ∀ s, I s → I (P.resetPort port.toPortId s)) {s : σ} (hI : I s) :
    I (pmReadModuleState P port s).2.2 := by
  rw [pmReadModuleState_eq_conclude h]
  exact conclude_invariant h h2
    (Retry.loop_invariant (fun _ h => attempt_invariant hp h0 h) hreset 2 s hI)

/-- The poll resets the module before it goes on or gives up. -/
def Resets (P : Platform σ) (t : ModuleType) (port : PmPort) (s : σ) : Prop :=
  (identify P port t.serialIdOffset 2 s).2.1 < 2

instance (s : σ) : Decidable (Resets P t port s) := Nat.decLt _ _

/-- A port that need not be read is not reset. -/
theorem not_resets_of_held (h : ¬port.NeedsRead) (s : σ) : ¬Resets P t port s := by
  have hround : ∃ i s', attempt P port t.serialIdOffset s = (some i, s') := by
    unfold attempt
    obtain ⟨present, s₁, hp⟩ : ∃ b s₁, P.getPresence port.toPortId s = (b, s₁) := ⟨_, _, rfl⟩
    rw [hp]
    cases present with
    | false => exact ⟨_, _, rfl⟩
    | true => exact ⟨_, _, if_pos (not_not.mp h)⟩
  obtain ⟨i, s', hround⟩ := hround
  rw [Resets, identify, Retry.loop_of_some hround]
  exact Nat.lt_irrefl 2

/-- What reads keep and a reset sets to `c` is `c` after a poll that resets. -/
theorem observation_recovered {β : Type} {m : σ → β} {c : β}
    (hp : ∀ s, m (P.getPresence port.toPortId s).2 = m s)
    (h0 : ∀ s, m (P.readA0 port.toPortId t.serialIdOffset s).2 = m s)
    (h2 : ∀ s, m (P.readA2 port.toPortId s).2 = m s)
    (hreset : ∀ s, m (P.resetPort port.toPortId s) = c) (s : σ) :
    m (observation P t port s).2 = if Resets P t port s then c else m s := by
  refine observation_of_identify (I := fun s' => m s' = if Resets P t port s then c else m s)
    (fun s' h => (h2 s').trans h) ?_
  exact Retry.loop_recovered
    (fun s' => attempt_invariant (I := fun s'' => m s'' = m s')
      (fun _ h => (hp _).trans h) (fun _ h => (h0 _).trans h) rfl) hreset 2 s

end World

/-! ## What an observation leaves alone -/

namespace PmPort

theorem unreadable_frame :
    port.unreadable =
      { port with cells := port.unreadable.cells, present := true, retry := true } := by
  simp only [unreadable, cells_pmDeleteAllData]
  rfl

theorem absent_frame :
    port.absent = { port with cells := port.absent.cells, present := false } := by
  simp only [absent, cells_pmDeleteAllData]
  rfl

/-- Two ports that differ in what a poll may change at most. -/
structure SameSetup (port port' : PmPort) : Prop where
  toPortId : port'.toPortId = port.toPortId
  hwEnable : port'.hwEnable = port.hwEnable
  hwEnableSubport : port'.hwEnableSubport = port.hwEnableSubport
  a2ReadRequested : port'.a2ReadRequested = port.a2ReadRequested
  split : port'.split = port.split

theorem SameSetup.refl (port : PmPort) : SameSetup port port := ⟨rfl, rfl, rfl, rfl, rfl⟩

theorem SameSetup.trans {p q r : PmPort} (h : SameSetup p q) (h' : SameSetup q r) :
    SameSetup p r where
  toPortId := h'.toPortId.trans h.toPortId
  hwEnable := h'.hwEnable.trans h.hwEnable
  hwEnableSubport := h'.hwEnableSubport.trans h.hwEnableSubport
  a2ReadRequested := h'.a2ReadRequested.trans h.a2ReadRequested
  split := h'.split.trans h.split

theorem sameSetup_identified (h : port.moduleDevice.IsA t) (a0 : Page) :
    SameSetup port (port.identified a0) := by
  rw [identified_frame h]
  exact ⟨rfl, rfl, rfl, rfl, rfl⟩

theorem sameSetup_pmSetA2 (h : port.moduleDevice.IsA t) (a2 : Page) :
    SameSetup port (pmSetA2 port a2) := by
  rw [pmSetA2_frame h]
  exact ⟨rfl, rfl, rfl, rfl, rfl⟩

theorem sameSetup_absent : SameSetup port port.absent := by
  rw [absent_frame]
  exact ⟨rfl, rfl, rfl, rfl, rfl⟩

theorem present_absent : port.absent.present = false := by rw [absent_frame]

/-- A port found empty is not present afterwards, whether the poll had anything to do or not. -/
theorem present_settleAbsent (port : PmPort) : port.settleAbsent.present = false := by
  unfold settleAbsent
  split
  · exact present_absent
  · next hidle => simpa using fun h : port.present = true => hidle (by simp [h])

/-- A poll keeps everything but the columns, `present`, `retry` and `optical`. -/
theorem sameSetup_observe (h : port.moduleDevice.IsA t) (o : Observation) :
    SameSetup port (port.observe o) := by
  match o with
  | .absent =>
    show SameSetup port port.settleAbsent
    unfold settleAbsent
    split
    · exact sameSetup_absent
    · exact SameSetup.refl port
  | .held => exact SameSetup.refl port
  | .unreadable =>
    show SameSetup port port.unreadable
    rw [unreadable_frame]
    exact ⟨rfl, rfl, rfl, rfl, rfl⟩
  | .identified a0 none => exact sameSetup_identified h a0
  | .identified a0 (some a2) =>
    have hid := sameSetup_identified h a0
    exact hid.trans (sameSetup_pmSetA2 (by rw [hid.toPortId]; exact h) a2)

/-- The flags of a port whose page was parsed. -/
theorem flags_identified (h : port.moduleDevice.IsA t) (a0 : Page) (a2 : Option Page) :
    let after := port.observe (.identified a0 a2)
    after.present = true ∧ after.retry = false ∧ after.optical = (t.classify a0).optical := by
  have hoptical : (port.identified a0).optical = (t.classify a0).optical := by
    rw [identified_frame h]
  cases a2 with
  | none => exact ⟨rfl, rfl, hoptical⟩
  | some a2 =>
    have hframe := pmSetA2_frame (isA_identified h a0) a2
    refine ⟨?_, ?_, ?_⟩
    · show (pmSetA2 (port.identified a0) a2).present = true
      rw [hframe]
      rfl
    · show (pmSetA2 (port.identified a0) a2).retry = false
      rw [hframe]
      rfl
    · show (pmSetA2 (port.identified a0) a2).optical = _
      rw [hframe]
      exact hoptical

end PmPort

end OpsPmd
