import OpsPmd.Sim
import OpsPmd.Properties.Removal
import OpsPmd.Properties.Rounds

/-!
# When the change mark goes up

`module_info_changed` says that there is something to publish. A poll that changes a published
column raises it. The converse fails in one place: a module that could not be read before and still
cannot be read gets the same columns again, through macros that raise the mark whatever was there.

* `NeverRead` — the responses to which a poll gives up
* `precise_observe_iff` — which observations leave the columns and raise the mark
* `precise_run_iff` — the runs without such a poll
* `publishedOnce_iff` — what is published while the module gives the same responses
-/

namespace OpsPmd

open PmInfo

variable {σ : Type} {P : Platform σ} {t : ModuleType} {port : PmPort}

/-! ## Polls that give up -/

/-- The module is found and its serial ID page is not read. -/
def ReadFails (P : Platform σ) (port : PortId) (offset : Nat) (s : σ) : Prop :=
  (P.getPresence port s).1 = true ∧
    ¬GoodRead (P.readA0 port offset (P.getPresence port s).2).1

/-- The same in every round, with a reset before each of the `n` retries. -/
def NeverRead (P : Platform σ) (port : PortId) (offset : Nat) : Nat → σ → Prop
  | 0, s => ReadFails P port offset s
  | n + 1, s =>
    ReadFails P port offset s ∧
      NeverRead P port offset n
        (P.resetPort port (P.readA0 port offset (P.getPresence port s).2).2)

theorem attempt_of_readFails (hneeds : port.NeedsRead) {offset : Nat} {s : σ}
    (h : ReadFails P port.toPortId offset s) :
    attempt P port offset s =
      (none, (P.readA0 port.toPortId offset (P.getPresence port.toPortId s).2).2) := by
  obtain ⟨hfound, hbad⟩ := h
  unfold attempt
  obtain ⟨found, s₁, hp⟩ : ∃ b s₁, P.getPresence port.toPortId s = (b, s₁) := ⟨_, _, rfl⟩
  rw [hp] at hfound hbad ⊢
  obtain rfl : found = true := hfound
  obtain ⟨r, s₂, hr⟩ : ∃ r s₂, P.readA0 port.toPortId offset s₁ = (r, s₂) := ⟨_, _, rfl⟩
  simp only [hr] at hbad ⊢
  rw [if_neg hneeds]
  cases r with
  | none => rfl
  | some a0 =>
    have hsum : ¬sfppSumVerify a0 = 0 := fun hsum => hbad ⟨a0, rfl, hsum⟩
    simp only [if_neg hsum]

theorem attempt_of_not_readFails {offset : Nat} {s : σ}
    (h : ¬ReadFails P port.toPortId offset s) : (attempt P port offset s).1 ≠ none := by
  unfold attempt
  obtain ⟨found, s₁, hp⟩ : ∃ b s₁, P.getPresence port.toPortId s = (b, s₁) := ⟨_, _, rfl⟩
  rw [ReadFails, hp] at h
  rw [hp]
  cases found with
  | false => simp
  | true =>
    obtain ⟨r, s₂, hr⟩ : ∃ r s₂, P.readA0 port.toPortId offset s₁ = (r, s₂) := ⟨_, _, rfl⟩
    simp only [hr, true_and, not_not] at h ⊢
    obtain ⟨a0, rfl, hsum⟩ := h
    simp only [if_pos hsum]
    split_ifs <;> simp

/-- The loop of a port that has to be read gives up exactly where every round fails. -/
theorem identify_eq_none_iff (hneeds : port.NeedsRead) (offset : Nat) : ∀ (n : Nat) (s : σ),
    (identify P port offset n s).1 = none ↔ NeverRead P port.toPortId offset n s
  | n, s => by
    unfold identify
    by_cases h : ReadFails P port.toPortId offset s
    · have hround := attempt_of_readFails hneeds h
      cases n with
      | zero =>
        rw [Retry.loop_zero_of_none hround]
        exact iff_of_true rfl h
      | succ n =>
        rw [Retry.loop_succ_of_none hround]
        exact (identify_eq_none_iff hneeds offset n _).trans (and_iff_right h).symm
    · have hsome : (attempt P port offset s).1 ≠ none := attempt_of_not_readFails h
      obtain ⟨i, hi⟩ := Option.ne_none_iff_exists'.mp hsome
      rw [Retry.loop_of_some (Prod.ext hi rfl)]
      refine iff_of_false (by simp) fun hnever => ?_
      cases n with
      | zero => exact h hnever
      | succ n => exact h hnever.1

/-- How a poll starts tells the two observations without a module to talk of. -/
theorem observation_eq_iff (s : σ) :
    ((observation P t port s).1 = .unreadable ↔
      (identify P port t.serialIdOffset 2 s).1 = none) ∧
    ((observation P t port s).1 = .absent ↔
      (identify P port t.serialIdOffset 2 s).1 = some .absent) := by
  unfold observation
  obtain ⟨r, n, s', hid⟩ : ∃ r n s', identify P port t.serialIdOffset 2 s = (r, n, s') :=
    ⟨_, _, _, rfl⟩
  rw [hid]
  match r with
  | none | some .absent | some .held => simp
  | some (.page a0) =>
    dsimp only
    split_ifs <;> simp

/-! ## One poll -/

/-- Between two states of a port the mark moves only if a published column does. -/
def PmPort.Precise (before after : PmPort) : Prop :=
  (∀ c ∈ publishedColumns, after.cells.get c = before.cells.get c) →
    after.moduleInfoChanged = before.moduleInfoChanged

instance (before after : PmPort) : Decidable (before.Precise after) :=
  inferInstanceAs (Decidable ((∀ c ∈ publishedColumns, _ = _) → _ = _))

namespace PmPort

theorem precise_of_info_ne {before after : PmPort} (c : InfoColumn)
    (hc : Column.info c ∈ publishedColumns) (h : after.info c ≠ before.info c) :
    before.Precise after := fun hsame => absurd (hsame _ hc) h

/-- A port that was found empty before has the column of one. -/
theorem Inv.connector_ne_absent (h : port.Inv t)
    (hp : (port.present || (port.info .connector).isNone) = true) :
    port.info .connector ≠ some CONNECTOR_ABSENT := by
  intro hc
  rw [hc] at hp
  rcases h.shape with hb | ⟨k, hk⟩
  · simp [hb.1] at hp
  · cases k with
    | absent => simp [hk.1] at hp
    | unreadable => exact absurd (hc.symm.trans hk.2.2.1) (by decide)
    | unrecognized => exact absurd (hc.symm.trans hk.2.2.1) (by decide)
    | recognized =>
      obtain ⟨connector, hconn, hne, -⟩ := hk.2.2.1
      exact hne (Option.some.inj (hconn.symm.trans hc))

/-- A port that has to be read has no vendor. -/
theorem Inv.vendorName_of_needsRead (h : port.Inv t) (hneeds : port.NeedsRead) :
    port.info .vendorName = none := by
  rcases h.shape with hb | ⟨k, hk⟩
  · exact hb.2 _
  · cases k with
    | absent => exact hk.2.2.2 _ (by simp) (by simp)
    | unreadable => exact hk.2.2.2.2 _ (by simp) (by simp)
    | unrecognized | recognized => exact absurd ⟨hk.1, hk.2.1⟩ hneeds

/-- A port that could not be read is left as it was, but for the mark. -/
theorem get_unreadable (hk : port.HasShape .unreadable) (c : Column) :
    port.unreadable.cells.get c = port.cells.get c := by
  obtain ⟨-, -, hconn, hstatus, hnone⟩ := hk
  cases c with
  | dom d => exact dom_unreadable d
  | info c =>
    refine (info_unreadable c).trans ?_
    by_cases h1 : c = .connector
    · rw [h1]
      exact hconn.symm
    · by_cases h2 : c = .connectorStatus
      · rw [h2]
        exact hstatus.symm
      · have hold : port.cells.get (.info c) = none := hnone c h1 h2
        rw [hold]
        cases c <;> first | rfl | contradiction

/-- To find a module unreadable is news of a port that was empty only. -/
theorem Inv.precise_unreadable_iff (h : port.Inv t) (hneeds : port.NeedsRead)
    (hmark : port.moduleInfoChanged = false) :
    port.Precise port.unreadable ↔ port.present = false := by
  rcases h.shape with hb | ⟨k, hk⟩
  · refine iff_of_true (precise_of_info_ne .connector (by decide) ?_) hb.1
    rw [info_unreadable, hb.2]
    simp [noModule]
  · cases k with
    | absent =>
      refine iff_of_true (precise_of_info_ne .connector (by decide) ?_) hk.1
      rw [info_unreadable, hk.2.1]
      simp [noModule, CONNECTOR_ABSENT, CONNECTOR_UNKNOWN]
    | unreadable =>
      refine iff_of_false (fun hprec => ?_) (by simp [hk.1])
      have hsame := hprec fun c _ => get_unreadable hk c
      rw [hmark] at hsame
      exact absurd (hsame.symm.trans changed_unreadable) (by decide)
    | unrecognized | recognized => exact absurd ⟨hk.1, hk.2.1⟩ hneeds

/-- **All observations are precise but one:** a port that could not be read still cannot be. -/
theorem Inv.precise_observe_iff (h : port.Inv t) {o : Observation} (ho : Possible t port o) :
    port.Precise (port.observe o) ↔
      ¬(o = .unreadable ∧ port.present = true ∧ port.moduleInfoChanged = false) := by
  by_cases hmark : port.moduleInfoChanged = true
  · -- the mark stays up
    refine iff_of_true (fun _ => ?_) fun hrep => by simp [hrep.2.2] at hmark
    exact ((tracks_observe h.device o).changed hmark).trans hmark.symm
  rw [Bool.not_eq_true] at hmark
  match o, ho with
  | .absent, _ =>
    refine iff_of_true ?_ (by simp)
    show port.Precise port.settleAbsent
    unfold settleAbsent
    split
    · next hmove =>
      refine precise_of_info_ne .connector (by decide) ?_
      rw [info_absent]
      exact (h.connector_ne_absent hmove).symm
    · exact fun _ => rfl
  | .held, _ => exact iff_of_true (fun _ => rfl) (by simp)
  | .identified a0 a2, hid =>
    refine iff_of_true (precise_of_info_ne .vendorName (by decide) ?_) (by simp)
    rw [info_observe_identified h.device h.numeric a0 a2 (by simp) (by simp),
      h.vendorName_of_needsRead hid.1]
    simp [ModuleType.identity]
  | .unreadable, hneeds =>
    refine (h.precise_unreadable_iff hneeds hmark).trans ?_
    simp [hmark]

end PmPort

/-! ## Runs -/

/-- If the step is a poll, it is precise. -/
def PrecisePoll (P : Platform σ) (slot : Slot σ) (e : PortEvent σ) : Prop :=
  ∀ change, e = .poll change →
    slot.port.Precise (pmReadModuleState P slot.port (change slot.world)).2.1

/-- No poll fails again on a module that could not be read, once that is published. -/
def NoRepeatedFailure (P : Platform σ) (t : ModuleType) (slot : Slot σ) (e : PortEvent σ) : Prop :=
  ∀ change, e = .poll change →
    slot.port.present = true → slot.port.retry = true → slot.port.moduleInfoChanged = false →
      ¬NeverRead P slot.port.toPortId t.serialIdOffset 2 (change slot.world)

theorem precisePoll_iff {slot : Slot σ} (h : slot.port.Inv t) (e : PortEvent σ) :
    PrecisePoll P slot e ↔ NoRepeatedFailure P t slot e := by
  refine forall₂_congr fun change _ => ?_
  have hposs : Possible t slot.port (observation P t slot.port (change slot.world)).1 :=
    observation_possible _
  rw [pmReadModuleState_eq h.device h.ready, h.precise_observe_iff hposs]
  constructor
  · intro hno hp hr hmark hnever
    have hneeds : slot.port.NeedsRead := fun hheld => by simp [hr] at hheld
    refine hno ⟨?_, hp, hmark⟩
    exact (observation_eq_iff _).1.mpr ((identify_eq_none_iff hneeds _ _ _).mpr hnever)
  · rintro hno ⟨hunread, hp, hmark⟩
    rw [hunread] at hposs
    have hr : slot.port.retry = true := by
      cases hr : slot.port.retry with
      | true => rfl
      | false => exact absurd ⟨hp, hr⟩ hposs
    exact hno hp hr hmark
      ((identify_eq_none_iff hposs _ _ _).mp ((observation_eq_iff _).1.mp hunread))

/-- The polls of a run are precise exactly where none of them fails again. -/
theorem along_precisePoll_iff {yamlPort : YamlPort} (h : yamlPort.IsA t) (intf : Interface)
    (subName : String) (s : σ) (es : List (PortEvent σ)) :
    Run.Along (portStep P) (PrecisePoll P) (newSlot intf subName yamlPort s) es ↔
      Run.Along (portStep P) (NoRepeatedFailure P t) (newSlot intf subName yamlPort s) es :=
  Run.along_iff_of_invariant (I := fun slot : Slot σ => slot.port.Inv t)
    (fun _ e hi _ => inv_portStep hi e) (fun _ e hi => precisePoll_iff hi e)
    (PmPort.inv_newPort intf subName h)

/-! ## A module that gives the same responses at every poll -/

/-- What a module gives at every call. -/
structure Responses where
  found : Bool
  a0 : Option Page
  a2 : Option Page

/--
A poll does not leave the worlds of `I`, and in all of them the module gives the responses `r`.
-/
structure Responds (P : Platform σ) (port : PortId) (offset : Nat) (r : Responses)
    (I : σ → Prop) : Prop where
  getPresence : ∀ s, I s → (P.getPresence port s).1 = r.found ∧ I (P.getPresence port s).2
  readA0 : ∀ s, I s → (P.readA0 port offset s).1 = r.a0 ∧ I (P.readA0 port offset s).2
  readA2 : ∀ s, I s → (P.readA2 port s).1 = r.a2 ∧ I (P.readA2 port s).2
  resetPort : ∀ s, I s → I (P.resetPort port s)

namespace Responds

variable {r : Responses} {I : σ → Prop} {s : σ}

theorem neverRead_iff {id : PortId} {offset : Nat} (h : Responds P id offset r I) :
    ∀ (n : Nat) {s : σ}, I s →
      (NeverRead P id offset n s ↔ r.found = true ∧ ¬GoodRead r.a0)
  | n, s, hI => by
    obtain ⟨hfound, hI₁⟩ := h.getPresence s hI
    obtain ⟨ha0, hI₂⟩ := h.readA0 _ hI₁
    have hone : ReadFails P id offset s ↔ r.found = true ∧ ¬GoodRead r.a0 := by
      rw [ReadFails, hfound, ha0]
    cases n with
    | zero => exact hone
    | succ n =>
      have hrest := neverRead_iff h n (h.resetPort _ hI₂)
      rw [NeverRead, hone, hrest, and_self]

theorem world_observation (h : Responds P port.toPortId t.serialIdOffset r I) (hI : I s) :
    I (observation P t port s).2 :=
  observation_invariant (fun s hs => (h.getPresence s hs).2) (fun s hs => (h.readA0 s hs).2)
    (fun s hs => (h.readA2 s hs).2) h.resetPort hI

/-- An empty port is seen empty. -/
theorem observation_of_not_found (h : Responds P port.toPortId t.serialIdOffset r I) (hI : I s)
    (hfound : r.found = false) : (observation P t port s).1 = .absent := by
  obtain ⟨hp, -⟩ := h.getPresence s hI
  rw [hfound] at hp
  have hround : attempt P port t.serialIdOffset s =
      (some .absent, (P.getPresence port.toPortId s).2) := by
    rw [attempt, Prod.ext hp rfl (y := (false, (P.getPresence port.toPortId s).2))]
  rw [observation, identify, Retry.loop_of_some hround]

/-- A module is never missed. -/
theorem observation_ne_absent (h : Responds P port.toPortId t.serialIdOffset r I) (hI : I s)
    (hfound : r.found = true) : (observation P t port s).1 ≠ .absent := by
  have hround : ∀ s, I s → I (attempt P port t.serialIdOffset s).2 ∧
      (attempt P port t.serialIdOffset s).1 ≠ some .absent := by
    intro s hs
    refine ⟨attempt_invariant (fun s hs => (h.getPresence s hs).2)
      (fun s hs => (h.readA0 s hs).2) hs, ?_⟩
    have hp := (h.getPresence s hs).1.trans hfound
    unfold attempt
    rw [Prod.ext hp rfl (y := (true, (P.getPresence port.toPortId s).2))]
    dsimp only
    split_ifs
    · simp
    · split
      · simp
      · split_ifs <;> simp
  -- none of the rounds ends the loop with an empty port
  have hloop := Retry.loop_rule (attempt P port t.serialIdOffset) (P.resetPort port.toPortId)
    (I := I) (F := fun _ => True) (Q := fun i _ => i ≠ .absent)
    (fun s s' hs hatt => ⟨h.resetPort _ (by simpa [hatt] using (hround s hs).1), trivial⟩)
    (fun s i s' hs hatt hi => (hround s hs).2 (by rw [hatt, hi])) 2 s hI
  rw [Ne, (observation_eq_iff s).2]
  intro habs
  unfold identify at habs
  obtain ⟨i, n, s', hl⟩ : ∃ i n s', Retry.loop (attempt P port t.serialIdOffset)
      (P.resetPort port.toPortId) 2 s = (i, n, s') := ⟨_, _, _, rfl⟩
  rw [hl] at hloop habs
  obtain rfl : i = some .absent := habs
  exact hloop rfl

/-- A module that has to be read is found unreadable exactly where its responses are bad. -/
theorem observation_unreadable_iff (h : Responds P port.toPortId t.serialIdOffset r I) (hI : I s)
    (hneeds : port.NeedsRead) :
    (observation P t port s).1 = .unreadable ↔ r.found = true ∧ ¬GoodRead r.a0 := by
  rw [(observation_eq_iff s).1, identify_eq_none_iff hneeds, h.neverRead_iff 2 hI]

end Responds

/-! ## What is published meanwhile -/

/-- The next poll finds nothing new. -/
structure Settled (r : Responses) (I : σ → Prop) (t : ModuleType) (id : PortId)
    (slot : Slot σ) : Prop where
  inv : slot.port.Inv t
  toPortId : slot.port.toPortId = id
  world : I slot.world
  mark : slot.port.moduleInfoChanged = false
  known : (r.found = false ∧ slot.port.HasShape .absent) ∨
    (r.found = true ∧ ¬slot.port.NeedsRead)

/-- A port that was found empty is not touched again. -/
theorem PmPort.settleAbsent_of_hasShape (h : port.HasShape .absent) : port.settleAbsent = port :=
  if_neg (by simp [h.1, h.2.1])

variable {r : Responses} {I : σ → Prop} {id' : PortId} {slot : Slot σ}

/-- A settled port is left as it is. -/
theorem Settled.observe (h : Settled r I t id' slot)
    (hresp : Responds P id' t.serialIdOffset r I) :
    slot.port.observe (observation P t slot.port slot.world).1 = slot.port := by
  obtain rfl := h.toPortId
  have hposs : Possible t slot.port (observation P t slot.port slot.world).1 :=
    observation_possible _
  rcases h.known with ⟨hfound, habs⟩ | ⟨hfound, hheld⟩
  · rw [hresp.observation_of_not_found h.world hfound]
    exact PmPort.settleAbsent_of_hasShape habs
  · have hne := hresp.observation_ne_absent h.world hfound
    cases ho : (observation P t slot.port slot.world).1 with
    | absent => exact absurd ho hne
    | held => rfl
    | unreadable => rw [ho] at hposs; exact absurd hposs hheld
    | identified a0 a2 => rw [ho] at hposs; exact absurd hposs.1 hheld

/-- Publishing leaves a port whose mark is down as it is. -/
theorem portStep_publish_of_mark (h : slot.port.moduleInfoChanged = false) :
    portStep P slot .publish = slot := by
  have hcells : slot.port.cells.settle = slot.port.cells := Cells.ext rfl h.symm
  simp only [portStep, hcells]

theorem Settled.poll (h : Settled r I t id' slot) (hresp : Responds P id' t.serialIdOffset r I) :
    Settled r I t id' (portStep P slot (.poll id)) ∧
      (portStep P slot (.poll id)).port.moduleInfoChanged = false := by
  have hsame : slot.port.observe (observation P t slot.port (id slot.world)).1 = slot.port :=
    h.observe hresp
  have hworld : I (observation P t slot.port (id slot.world)).2 := by
    obtain rfl := h.toPortId
    exact hresp.world_observation h.world
  rw [portStep_poll h.inv, hsame]
  exact ⟨⟨h.inv, h.toPortId, hworld, h.mark, h.known⟩, h.mark⟩

/-- Nothing is published of a settled port. -/
theorem Settled.publications (hresp : Responds P id' t.serialIdOffset r I) :
    ∀ (n : Nat) {slot : Slot σ}, Settled r I t id' slot →
      publications P slot (List.replicate n id) = List.replicate n none
  | 0, _, _ => rfl
  | n + 1, slot, h => by
    obtain ⟨hnext, hmark⟩ := h.poll hresp
    have hrest := Settled.publications hresp n hnext
    rw [List.replicate_succ, List.replicate_succ, OpsPmd.publications, hmark,
      portStep_publish_of_mark hmark, hrest]
    rfl

/-- After one poll a port is as its module asks for, unless that cannot be read. -/
theorem known_of_poll (h : slot.port.Inv t)
    (hresp : Responds P slot.port.toPortId t.serialIdOffset r I) (hI : I slot.world)
    (hgood : ¬(r.found = true ∧ ¬GoodRead r.a0 ∧ slot.port.NeedsRead)) :
    (r.found = false ∧
      (slot.port.observe (observation P t slot.port slot.world).1).HasShape .absent) ∨
    (r.found = true ∧
      ¬(slot.port.observe (observation P t slot.port slot.world).1).NeedsRead) := by
  have hposs : Possible t slot.port (observation P t slot.port slot.world).1 :=
    observation_possible _
  cases hfound : r.found with
  | false =>
    left
    rw [hresp.observation_of_not_found hI hfound]
    exact ⟨rfl, h.hasShape_settleAbsent⟩
  | true =>
    right
    refine ⟨rfl, ?_⟩
    have hne := hresp.observation_ne_absent (t := t) hI hfound
    cases ho : (observation P t slot.port slot.world).1 with
    | absent => exact absurd ho hne
    | held => rw [ho] at hposs; exact hposs
    | unreadable =>
      rw [ho] at hposs
      have hbad := (hresp.observation_unreadable_iff hI hposs).mp ho
      exact absurd ⟨hfound, hbad.2, hposs⟩ hgood
    | identified a0 a2 =>
      obtain ⟨hp, hr, -⟩ := PmPort.flags_identified h.device a0 a2
      exact not_not.mpr ⟨hp, hr⟩

theorem settled_of_poll (h : slot.port.Inv t)
    (hresp : Responds P slot.port.toPortId t.serialIdOffset r I) (hI : I slot.world)
    (hgood : ¬(r.found = true ∧ ¬GoodRead r.a0 ∧ slot.port.NeedsRead)) :
    Settled r I t slot.port.toPortId (portStep P (portStep P slot (.poll id)) .publish) := by
  have hinv := inv_portStep (P := P) h (.poll id)
  rw [portStep_poll h] at hinv ⊢
  exact ⟨hinv.settle, (PmPort.sameSetup_observe h.device _).toPortId,
    hresp.world_observation hI, rfl, known_of_poll h hresp hI hgood⟩

/-- A port is published once at most, and not at any later poll. -/
def PublishedOnce (P : Platform σ) (slot : Slot σ) : Prop :=
  ∀ n, (publications P slot (List.replicate (n + 1) id)).tail = List.replicate n none

/-- A module that cannot be read raises the mark, and has to be read again. -/
theorem mark_of_unreadable (h : slot.port.Inv t)
    (hresp : Responds P slot.port.toPortId t.serialIdOffset r I) (hI : I slot.world)
    (hbad : r.found = true ∧ ¬GoodRead r.a0) (hneeds : slot.port.NeedsRead) :
    (portStep P slot (.poll id)).port.moduleInfoChanged = true ∧
      (portStep P slot (.poll id)).port.NeedsRead ∧
      (portStep P slot (.poll id)).port.toPortId = slot.port.toPortId ∧
      I (portStep P slot (.poll id)).world := by
  have hunread : (observation P t slot.port (id slot.world)).1 = .unreadable :=
    (hresp.observation_unreadable_iff hI hneeds).mpr hbad
  have hworld : I (observation P t slot.port (id slot.world)).2 := hresp.world_observation hI
  rw [portStep_poll h, hunread]
  refine ⟨PmPort.changed_unreadable, ?_,
    (PmPort.sameSetup_observe h.device .unreadable).toPortId, hworld⟩
  show slot.port.unreadable.NeedsRead
  rw [PmPort.unreadable_frame]
  intro hheld
  simp at hheld

theorem publishedOnce_iff (h : slot.port.Inv t)
    (hresp : Responds P slot.port.toPortId t.serialIdOffset r I) (hI : I slot.world) :
    PublishedOnce P slot ↔ ¬(r.found = true ∧ ¬GoodRead r.a0 ∧ slot.port.NeedsRead) := by
  constructor
  · rintro honce ⟨hfound, hbad, hneeds⟩
    obtain ⟨-, hneeds', hid, hI'⟩ := mark_of_unreadable h hresp hI ⟨hfound, hbad⟩ hneeds
    have hsecond := honce 1
    have hinv := inv_portStep (P := P) h (.poll id)
    simp only [List.replicate, publications, List.tail_cons] at hsecond
    -- published or not, the module is found unreadable again
    generalize portStep P slot (.poll id) = next at *
    rw [← hid] at hresp
    have hinv' : (portStep P next .publish).port.Inv t := hinv.settle
    obtain ⟨hmark, -⟩ := mark_of_unreadable hinv' hresp hI' ⟨hfound, hbad⟩ hneeds'
    simp [hmark] at hsecond
  · rintro hgood n
    exact (settled_of_poll h hresp hI hgood).publications hresp n

/--
**The change mark is precise exactly in the runs where no poll fails again on a module that could
not be read.** A module with the same responses at every poll is published once exactly if its
serial ID can be read or need not be.
-/
theorem precise_run_iff (P : Platform σ) {yamlPort : YamlPort} (h : yamlPort.IsA t)
    (intf : Interface) (subName : String) (s : σ) (es : List (PortEvent σ)) :
    let slot := Run.exec (portStep P) (newSlot intf subName yamlPort s) es
    (Run.Along (portStep P) (PrecisePoll P) (newSlot intf subName yamlPort s) es ↔
      Run.Along (portStep P) (NoRepeatedFailure P t) (newSlot intf subName yamlPort s) es) ∧
    ∀ r I, Responds P slot.port.toPortId t.serialIdOffset r I → I slot.world →
      (PublishedOnce P slot ↔ ¬(r.found = true ∧ ¬GoodRead r.a0 ∧ slot.port.NeedsRead)) :=
  ⟨along_precisePoll_iff h intf subName s es,
    fun _ _ hresp hI => publishedOnce_iff (inv_exec h intf subName s es) hresp hI⟩

/-- A simulated module that stays in its port. -/
theorem responds_simulation (id : PortId) (offset : Nat) (data : SimData) :
    Responds simulation id offset
      { found := data.moduleData.isSome, a0 := data.moduleData, a2 := none } (· = data) where
  getPresence s hs := by rw [hs]; exact ⟨rfl, rfl⟩
  readA0 s hs := by rw [hs]; exact ⟨rfl, rfl⟩
  readA2 s hs := ⟨rfl, hs⟩
  resetPort s hs := hs

/-- The module is polled, and stays in its port. -/
theorem precise_run_simulation :
    let slot := Run.exec (portStep simulation) simulatedSlot [.poll id]
    (Run.Along (portStep simulation) (PrecisePoll simulation) simulatedSlot [.poll id] ↔
      Run.Along (portStep simulation) (NoRepeatedFailure simulation .sfpPlus) simulatedSlot
        [.poll id]) ∧
    (PublishedOnce simulation slot ↔
      ¬(simulatedSlot.world.moduleData.isSome = true ∧
        ¬GoodRead simulatedSlot.world.moduleData ∧ slot.port.NeedsRead)) := by
  have hinv : simulatedSlot.port.Inv .sfpPlus :=
    PmPort.inv_newPort ⟨0, "1", []⟩ "base" (ModuleType.isA_device .sfpPlus)
  have hworld : (Run.exec (portStep simulation) simulatedSlot [.poll id]).world =
      simulatedSlot.world := by
    rw [Run.exec_cons, Run.exec_nil, portStep_poll hinv, observation_simulation]
    rfl
  have hrun := precise_run_iff simulation (ModuleType.isA_device .sfpPlus) ⟨0, "1", []⟩ "base"
    simulatedSlot.world [.poll id]
  exact ⟨hrun.1, hrun.2 _ _ (responds_simulation _ _ simulatedSlot.world) hworld⟩

/-- The answers of a poll that finds a module and cannot read its serial ID. -/
def unreadableAnswers : List I2cAnswer :=
  [presenceAnswer true, failedAnswer, presenceAnswer true, failedAnswer, presenceAnswer true,
    failedAnswer]

/-- The second poll that cannot read a module changes nothing and raises the mark. -/
theorem repeated_failure_not_precise :
    let start := sfpSlot (unreadableAnswers ++ unreadableAnswers)
    ¬Run.Along (portStep hardware) (PrecisePoll hardware) start [.poll id, .publish, .poll id] ∧
      ¬PublishedOnce hardware start := by
  have hpolls : ¬(Run.exec (portStep hardware) (sfpSlot (unreadableAnswers ++ unreadableAnswers))
      [.poll id, .publish]).port.Precise
        (Run.exec (portStep hardware) (sfpSlot (unreadableAnswers ++ unreadableAnswers))
          [.poll id, .publish, .poll id]).port := by decide +kernel
  have honce : ((publications hardware (sfpSlot (unreadableAnswers ++ unreadableAnswers))
      [id, id]).tail.map Option.isSome) = [true] := by decide +kernel
  refine ⟨fun halong => hpolls ?_, fun hpub => ?_⟩
  · exact halong.2.2.1 id rfl
  · have hsecond := hpub 1
    rw [List.replicate, List.replicate, List.replicate] at hsecond
    rw [hsecond] at honce
    simp at honce

end OpsPmd
