import OpsPmd.Ghost
import OpsPmd.Properties.Removal

/-!
# What the diagnostic columns say

Two facts about `pm_set_a2`. Where no A2 read succeeds it is given a page of 0xff, and decodes it
like any other. And `SET_FLOAT_STRING` compares the new number with the part before the point of
the old string, so an old string can stay where it should be replaced.

* `IsRow` — what a row of the tables of `pm_set_a2` can look like
* `untouched_iff` — when a poll without a successful A2 read leaves the diagnostic columns alone
* `forgets_iff` — when decoding a page leaves what it leaves on null columns
-/

namespace OpsPmd

variable {σ : Type} {P : Platform σ} {t : ModuleType}

/-! ## Rows -/

/-- A diagnostic column that holds a number. -/
def DomColumn.IsNumber (d : DomColumn) : Prop := ∀ l, d.aspect ≠ .flag l

/-- The rows of the tables of `pm_set_a2` for the page `p`. -/
inductive IsRow (p : Page) : Write Column String → Prop
  | flag (q : Quantity) (l : Level) (b : Bool) : IsRow p (boolString (q.flag l) b)
  | celsius {d : DomColumn} {msb lsb : UInt8} (hd : d.IsNumber)
    (hq : d.quantity = .temperature) (hm : ∃ i, p i = msb) (hl : ∃ i, p i = lsb) :
    IsRow p (floatString d (celsius msb lsb))
  | tenThousandths {d : DomColumn} {msb lsb : UInt8} (hd : d.IsNumber)
    (hq : d.quantity ≠ .temperature) (hm : ∃ i, p i = msb) (hl : ∃ i, p i = lsb) :
    IsRow p (floatString d (tenThousandths msb lsb))
  | fiveHundredths {d : DomColumn} {msb lsb : UInt8} (hd : d.IsNumber)
    (hq : d.quantity ≠ .temperature) (hm : ∃ i, p i = msb) (hl : ∃ i, p i = lsb) :
    IsRow p (floatString d (fiveHundredths msb lsb))

theorem isNumber_current (q : Quantity) : q.current.IsNumber := fun _ h => by cases h

theorem isNumber_threshold (q : Quantity) (l : Level) : (q.threshold l).IsNumber :=
  fun _ h => by cases h

theorem isRow_of_mem_tables (p : Page) : ∀ w ∈ sfpWrites p ++ qsfpWrites p, IsRow p w := by
  unfold sfpWrites qsfpWrites
  repeat' refine List.forall_mem_cons.mpr ⟨?_, ?_⟩
  all_goals first
    | with_reducible exact .flag _ _ _
    | with_reducible refine .celsius ?_ ?_ ?_ ?_
    | with_reducible refine .tenThousandths ?_ ?_ ?_ ?_
    | with_reducible refine .fiveHundredths ?_ ?_ ?_ ?_
    | with_reducible exact List.forall_mem_nil _
  all_goals first
    | exact isNumber_current _
    | exact isNumber_threshold _ _
    | exact ⟨_, rfl⟩
    | decide

theorem isRow_of_mem {p : Page} {w : Write Column String} (hw : w ∈ t.domWrites p) :
    IsRow p w := by
  refine isRow_of_mem_tables p w (List.mem_append.mpr ?_)
  cases t with
  | sfpPlus => exact Or.inl hw
  | qsfpPlus | qsfp28 => exact Or.inr hw

theorem floatString_keep {d : DomColumn} {x : Int} {old : String} :
    (floatString d x).keep old = true ↔ CText.strtol old * 10000 = x := by
  simp [floatString]

/-! ## A page of 0xff -/

theorem tenThousandths_ff : tenThousandths 0xff 0xff = 65535 := by decide

theorem fiveHundredths_ff : fiveHundredths 0xff 0xff = 1310700 := by decide

/-- No number but a temperature of the page of 0xff is whole, so a kept string is the page's own. -/
theorem eq_of_keep_allOnes {w w' : Write Column String} {p : Page} (hw : w ∈ t.domWrites allOnes)
    (hw' : w' ∈ t.domWrites p) (hkey : w'.key = w.key) (hkeep : w.keep w'.value = true) :
    w'.value = w.value := by
  cases isRow_of_mem hw with
  | flag q l b => exact boolString_keep.mp hkeep
  | tenThousandths hd hq hm hl =>
    obtain ⟨i, rfl⟩ := hm
    obtain ⟨j, rfl⟩ := hl
    have hx : tenThousandths (allOnes i) (allOnes j) = 65535 := tenThousandths_ff
    rw [floatString_keep, hx] at hkeep
    omega
  | fiveHundredths hd hq hm hl =>
    obtain ⟨i, rfl⟩ := hm
    obtain ⟨j, rfl⟩ := hl
    have hx : fiveHundredths (allOnes i) (allOnes j) = 1310700 := fiveHundredths_ff
    rw [floatString_keep, hx] at hkeep
    omega
  | celsius hd hq hm hl =>
    -- the other row is a temperature as well
    cases isRow_of_mem hw' with
    | flag q l b =>
      rw [boolString_key] at hkey
      exact absurd (congrArg DomColumn.aspect (Column.dom.inj hkey)).symm (hd l)
    | tenThousandths _ hq' _ _ =>
      exact absurd ((congrArg DomColumn.quantity (Column.dom.inj hkey)).trans hq) hq'
    | fiveHundredths _ hq' _ _ =>
      exact absurd ((congrArg DomColumn.quantity (Column.dom.inj hkey)).trans hq) hq'
    | celsius _ _ _ _ =>
      rw [floatString_keep] at hkeep
      have hsame := (strtol_formatFixed_celsius _ _).symm.trans hkeep
      exact congrArg CText.formatFixed hsame

/-! ## The A2 reads of a poll -/

/-- The platform with a record of what its A2 reads gave. -/
def Platform.recordA2 (P : Platform σ) : Platform (σ × List (Option Page)) where
  getPresence port s := ((P.getPresence port s.1).1, ((P.getPresence port s.1).2, s.2))
  readA0 port offset s := ((P.readA0 port offset s.1).1, ((P.readA0 port offset s.1).2, s.2))
  readA2 port s :=
    ((P.readA2 port s.1).1, ((P.readA2 port s.1).2, s.2 ++ [(P.readA2 port s.1).1]))
  resetPort port s := (P.resetPort port s.1, s.2)
  clearReset port s := (P.clearReset port s.1, s.2)
  configurePort port s := (P.configurePort port s.1, s.2)

theorem over_recordA2 (P : Platform σ) : P.recordA2.Over P Prod.fst :=
  ⟨fun _ _ => rfl, fun _ _ _ => rfl, fun _ _ => rfl, fun _ _ => rfl, fun _ _ => rfl, fun _ _ => rfl⟩

/-- What the A2 reads of one `pm_read_module_state` gave, in order. -/
def a2Reads (P : Platform σ) (port : PmPort) (s : σ) : List (Option Page) :=
  (pmReadModuleState P.recordA2 port (s, [])).2.2.2

/-- The poll with the record is the poll. -/
theorem pmReadModuleState_recordA2 (P : Platform σ) (port : PmPort) (s : σ) :
    pmReadModuleState P port s = mapPoll Prod.fst (pmReadModuleState P.recordA2 port (s, [])) :=
  pmReadModuleState_over (over_recordA2 P) port (s, [])

/-- That no read succeeded can be evaluated without comparing pages. -/
theorem no_read_of_all_isNone {reads : List (Option Page)}
    (h : reads.all Option.isNone = true) : ∀ r ∈ reads, r = none := by
  intro r hr
  exact Option.isNone_iff_eq_none.mp (List.all_eq_true.mp h r hr)

variable {port : PmPort}

theorem attempt_recordA2 (offset : Nat) (s : σ) (l : List (Option Page)) :
    attempt P.recordA2 port offset (s, l) =
      ((attempt P port offset s).1, ((attempt P port offset s).2, l)) := by
  have hnone : roundLog P (fun _ => ([] : List (Option Page))) (fun _ => []) port offset s = [] := by
    unfold roundLog
    split_ifs <;> rfl
  have hround : attempt P.recordA2 port offset (s, l) =
      ((attempt P port offset s).1, ((attempt P port offset s).2,
        l ++ roundLog P (fun _ => []) (fun _ => []) port offset s)) :=
    attempt_logged (fun _ _ => by simp [Platform.recordA2])
      (fun _ _ _ => by simp [Platform.recordA2]) offset s l
  rwa [hnone, List.append_nil] at hround

theorem identify_recordA2 (offset n : Nat) (s : σ) (l : List (Option Page)) :
    identify P.recordA2 port offset n (s, l) =
      ((identify P port offset n s).1, (identify P port offset n s).2.1,
        ((identify P port offset n s).2.2, l)) :=
  Retry.loop_prod (attempt_recordA2 offset) (fun _ _ => rfl) n s l

/-- The reads of the `retry_read_a2` loop, and what it ends with if none of them succeeds. -/
theorem retryReadA2_recordA2 (id : PortId) : ∀ (n : Nat) (s : σ) (l : List (Option Page)),
    ∃ reads, retryReadA2 P.recordA2 id n (s, l) =
        ((retryReadA2 P id n s).1, ((retryReadA2 P id n s).2, l ++ reads)) ∧
      ((∀ r ∈ reads, r = none) → (retryReadA2 P id n s).1 = allOnes)
  | n, s, l => by
    obtain ⟨r, s', hr⟩ : ∃ r s', P.readA2 id s = (r, s') := ⟨_, _, rfl⟩
    have hr' : P.recordA2.readA2 id (s, l) = (r, (s', l ++ [r])) := by
      simp only [Platform.recordA2, hr]
    rw [retryReadA2.eq_def, hr', retryReadA2.eq_def P, hr]
    cases r with
    | some a2 =>
      refine ⟨[some a2], rfl, fun hnone => ?_⟩
      cases hnone (some a2) (List.mem_singleton.mpr rfl)
    | none =>
      cases n with
      | zero => exact ⟨[none], rfl, fun _ => rfl⟩
      | succ n =>
        obtain ⟨reads, heq, hall⟩ := retryReadA2_recordA2 id n s' (l ++ [none])
        refine ⟨none :: reads, ?_, fun hnone => hall fun r hr => hnone r (List.mem_cons_of_mem _ hr)⟩
        simpa using heq

/--
Recording does not change what is observed. Without a successful read, a decoded page is 0xff.
-/
theorem observation_recordA2 (P : Platform σ) (t : ModuleType) (port : PmPort) (s : σ) :
    (observation P.recordA2 t port (s, [])).1 = (observation P t port s).1 ∧
      ∀ a0 a2, (observation P t port s).1 = .identified a0 (some a2) →
        (∀ r ∈ (observation P.recordA2 t port (s, [])).2.2, r = none) → a2 = allOnes := by
  unfold observation
  rw [identify_recordA2]
  obtain ⟨r, n, s', hid⟩ : ∃ r n s', identify P port t.serialIdOffset 2 s = (r, n, s') :=
    ⟨_, _, _, rfl⟩
  rw [hid]
  match r with
  | none | some .absent | some .held => exact ⟨rfl, fun _ _ h => by cases h⟩
  | some (.page a0) =>
    obtain ⟨reads, heq, hall⟩ := retryReadA2_recordA2 (P := P) port.toPortId n s' []
    by_cases hwant : t.requestsA2 a0 = true
    · simp only [if_pos hwant, heq]
      refine ⟨trivial, fun a0' a2 ho hnone => ?_⟩
      obtain ⟨-, ha2⟩ := Observation.identified.inj ho
      rw [← Option.some.inj ha2]
      exact hall (by simpa using hnone)
    · simp only [if_neg hwant]
      exact ⟨trivial, fun _ _ h => by cases h⟩

theorem a2Reads_eq (h : port.moduleDevice.IsA t) (hr : port.Ready) (s : σ) :
    a2Reads P port s = (observation P.recordA2 t port (s, [])).2.2 := by
  rw [a2Reads, pmReadModuleState_eq h hr]

/-! ## A poll without a successful read -/

theorem exists_key_of_mem {p : Page} {w : Write Column String} (hw : w ∈ t.domWrites p) :
    ∃ d ∈ t.domColumns, w.key = .dom d := by
  have hkey : w.key ∈ (t.domWrites p).map Write.key := List.mem_map_of_mem hw
  rw [ModuleType.map_key_domWrites] at hkey
  obtain ⟨d, hd, hdw⟩ := List.mem_map.mp hkey
  exact ⟨d, hd, hdw.symm⟩

/-- The page of 0xff changes nothing exactly where the columns already hold what it says. -/
theorem pmSetA2_allOnes_iff (h : port.moduleDevice.IsA t)
    (hdec : ∀ d s, port.dom d = some s →
      ∃ p, ∃ w ∈ t.domWrites p, w.key = .dom d ∧ s = w.value) :
    (∀ d, (pmSetA2 port allOnes).dom d = port.dom d ∨ (pmSetA2 port allOnes).dom d = none) ↔
      ∀ w ∈ t.domWrites allOnes, port.cells.get w.key = some w.value := by
  constructor
  · intro hkept w hw
    obtain ⟨d, hd, hkey⟩ := exists_key_of_mem hw
    have hsome := dom_pmSetA2_isSome h allOnes hd
    have hsame : (pmSetA2 port allOnes).dom d = port.dom d :=
      (hkept d).resolve_right fun hnone => by rw [hnone] at hsome; cases hsome
    rw [dom_pmSetA2_of_mem h hw hkey, Cells.get_write_self] at hsame
    rw [hkey]
    show port.dom d = _
    cases hold : port.dom d with
    | none =>
      rw [hold] at hsame
      cases hsame
    | some old =>
      have hget : port.cells.get w.key = some old := by rw [hkey]; exact hold
      rw [hget, hold] at hsame
      by_cases hk : w.keep old = true
      · -- the old string was kept, and it is what some earlier page had there
        obtain ⟨p, w', hw', hkey', hval⟩ := hdec d old hold
        rw [hval, eq_of_keep_allOnes hw hw' (hkey'.trans hkey.symm) (hval ▸ hk)]
      · simpa [hk] using hsame.symm
  · intro hall d
    by_cases hd : d ∈ t.domColumns
    · obtain ⟨w, hw, hkey, hval | hold⟩ := PmPort.dom_pmSetA2_cases h allOnes hd
      · have hget : port.dom d = some w.value := by
          rw [PmPort.dom, ← hkey]
          exact hall w hw
        exact Or.inl (hval.trans hget.symm)
      · exact Or.inl hold
    · exact Or.inl (dom_pmSetA2_of_notMem h hd)

/-- The poll reads a serial ID page that asks for the diagnostics page. -/
def ReadsDiagnostics (P : Platform σ) (t : ModuleType) (port : PmPort) (s : σ) : Prop :=
  ∃ a0 a2, (observation P t port s).1 = .identified a0 a2 ∧ t.requestsA2 a0 = true

/--
**A poll in which no A2 read succeeds leaves each diagnostic column unchanged or null if and only
if it reads no serial ID page that asks for diagnostics, or the columns already are those of a page
of 0xff.**
-/
theorem untouched_iff (P : Platform σ) {yamlPort : YamlPort} (h : yamlPort.IsA t)
    (intf : Interface) (subName : String) (s : σ) (es : List (PortEvent σ)) (change : σ → σ)
    (hfail : ∀ r ∈ a2Reads P (Run.exec (portStep P) (newSlot intf subName yamlPort s) es).port
      (change (Run.exec (portStep P) (newSlot intf subName yamlPort s) es).world), r = none) :
    let before := Run.exec (portStep P) (newSlot intf subName yamlPort s) es
    let after := portStep P before (.poll change)
    (∀ d, after.port.dom d = before.port.dom d ∨ after.port.dom d = none) ↔
      ¬ReadsDiagnostics P t before.port (change before.world) ∨
        ∀ w ∈ t.domWrites allOnes, before.port.cells.get w.key = some w.value := by
  have hinv := inv_exec (P := P) h intf subName s es
  generalize Run.exec (portStep P) (newSlot intf subName yamlPort s) es = slot at *
  rw [a2Reads_eq hinv.device hinv.ready] at hfail
  have hones := (observation_recordA2 P t slot.port (change slot.world)).2
  have hposs : Possible t slot.port (observation P t slot.port (change slot.world)).1 :=
    observation_possible _
  simp only [portStep_poll hinv]
  unfold ReadsDiagnostics
  generalize (observation P t slot.port (change slot.world)).1 = o at *
  match o, hposs with
  | .identified a0 (some a2), hposs =>
    -- no read succeeded, so the page that is decoded is the one of 0xff
    rw [hones a0 a2 rfl hfail]
    have hdom := PmPort.dom_identified hinv.device a0
    have hwant : t.requestsA2 a0 = true := hposs.2.2.symm
    have hiff := pmSetA2_allOnes_iff (PmPort.isA_identified hinv.device a0)
      fun d s hs => hinv.domDecoded d s ((hdom d).symm.trans hs)
    simp only [hdom] at hiff
    refine hiff.trans ⟨fun hall => Or.inr fun w hw => ?_, fun hor w hw => ?_⟩
    · obtain ⟨d, -, hkey⟩ := exists_key_of_mem hw
      have hw' := hall w hw
      rw [hkey] at hw' ⊢
      exact (hdom d).symm.trans hw'
    · have hall := hor.resolve_left (not_not.mpr ⟨a0, _, rfl, hwant⟩)
      obtain ⟨d, -, hkey⟩ := exists_key_of_mem hw
      have hw' := hall w hw
      rw [hkey] at hw' ⊢
      exact (hdom d).trans hw'
  | .identified a0 none, hposs =>
    have hwant : t.requestsA2 a0 = false := hposs.2.2.symm
    refine iff_of_true (fun d => Or.inl (PmPort.dom_identified hinv.device a0 d)) (Or.inl ?_)
    rintro ⟨a0', a2, ho, hreq⟩
    rw [← (Observation.identified.inj ho).1, hwant] at hreq
    cases hreq
  | .absent, _ | .held, _ | .unreadable, _ =>
    refine iff_of_true (fun d => Or.inl ?_) (Or.inl ?_)
    · exact PmPort.dom_observe hinv.device (by intro _ _ ho; cases ho)
    · rintro ⟨a0', a2, ho, -⟩
      cases ho

/-- A module asks for its diagnostics, and its A2 page cannot be read. -/
theorem untouched_iff_unread_page :
    let before := sfpSlot [presenceAnswer true, pageAnswer srPage]
    let after := portStep hardware before (.poll id)
    (∀ d, after.port.dom d = before.port.dom d ∨ after.port.dom d = none) ↔
      ¬ReadsDiagnostics hardware .sfpPlus before.port before.world ∨
        ∀ w ∈ ModuleType.domWrites .sfpPlus allOnes, before.port.cells.get w.key = some w.value :=
  untouched_iff hardware (ModuleType.isA_device .sfpPlus) ⟨0, "1", []⟩ "base" _ [] id
    (no_read_of_all_isNone (by decide +kernel))

/-- The same port: all three A2 reads fail, and an alarm is on afterwards. -/
theorem alarm_without_page :
    let before := sfpSlot [presenceAnswer true, pageAnswer srPage]
    let after := portStep hardware before (.poll id)
    (∀ r ∈ a2Reads hardware before.port before.world, r = none) ∧
      before.port.dom (Quantity.temperature.flag .highAlarm) = none ∧
      after.port.dom (Quantity.temperature.flag .highAlarm) = some "On" := by
  refine ⟨no_read_of_all_isNone ?_, ?_, ?_⟩
  · decide +kernel
  · decide +kernel
  · decide +kernel

/-! ## One page after another -/

/-- An old string that `SET_FLOAT_STRING` takes for the new number and that does not print it. -/
def Sticks (old : String) (value : Int) : Prop :=
  CText.strtol old * 10000 = value ∧ old ≠ CText.formatFixed value

/-- Each row stores what its page has exactly where no number sticks to an old string. -/
theorem get_write_eq_iff_sticks (port : PmPort) (q : Page) :
    (∀ w ∈ t.domWrites q, (port.cells.write w).get w.key = some w.value) ↔
      ∀ d x, floatString d x ∈ t.domWrites q → ∀ old, port.dom d = some old → ¬Sticks old x := by
  simp only [Cells.get_write_eq_iff]
  constructor
  · rintro h d x hw old hold ⟨hread, hne⟩
    exact hne (h _ hw old hold (floatString_keep.mpr hread))
  · intro h w hw old hold hkeep
    have hrow := isRow_of_mem hw
    cases hrow with
    | flag => exact boolString_keep.mp hkeep
    | celsius | tenThousandths | fiveHundredths =>
      by_contra hne
      exact h _ _ hw old hold ⟨floatString_keep.mp hkeep, hne⟩

theorem isA_foldl_pmSetA2 (h : port.moduleDevice.IsA t) (pages : List Page) :
    (pages.foldl pmSetA2 port).moduleDevice.IsA t := by
  induction pages generalizing port with
  | nil => exact h
  | cons p pages ih =>
    refine ih ?_
    rw [(PmPort.sameSetup_pmSetA2 h p).toPortId]
    exact h

/--
**After any pages, decoding a page leaves the strings it leaves on null columns if and only if no
number of the page sticks to an old string.**
-/
theorem forgets_iff {fresh : PmPort} (h : port.moduleDevice.IsA t)
    (hfresh : fresh.moduleDevice.IsA t) (hnull : ∀ d, fresh.dom d = none) (pages : List Page)
    (q : Page) :
    (∀ d ∈ t.domColumns,
        (pmSetA2 (pages.foldl pmSetA2 port) q).dom d = (pmSetA2 fresh q).dom d) ↔
      ∀ d x, floatString d x ∈ t.domWrites q →
        ∀ old, (pages.foldl pmSetA2 port).dom d = some old → ¬Sticks old x := by
  have hlater := isA_foldl_pmSetA2 h pages
  -- what came before counts only through the strings it left
  generalize pages.foldl pmSetA2 port = later at hlater ⊢
  rw [← get_write_eq_iff_sticks]
  have hrow : ∀ w ∈ t.domWrites q, ∀ d, w.key = .dom d →
      ((pmSetA2 later q).dom d = (pmSetA2 fresh q).dom d ↔
        (later.cells.write w).get w.key = some w.value) := by
    intro w hw d hkey
    have hget : fresh.cells.get w.key = none := by
      rw [hkey]
      exact hnull d
    rw [dom_pmSetA2_of_mem hlater hw hkey, dom_pmSetA2_of_mem hfresh hw hkey,
      Cells.get_write_of_none hget]
  constructor
  · intro hall w hw
    obtain ⟨d, hd, hkey⟩ := exists_key_of_mem hw
    exact (hrow w hw d hkey).mp (hall d hd)
  · intro hall d hd
    obtain ⟨w, hw, hkey, -⟩ := PmPort.dom_pmSetA2_cases hlater q hd
    exact (hrow w hw d hkey).mpr (hall w hw)

/-- A diagnostics page with this supply voltage, in units of 100 µV, and zero elsewhere. -/
def vccPage (msb lsb : UInt8) : Page := fun i => if i = 98 then msb else if i = 99 then lsb else 0

/-- The supply voltage goes from 3.5 V to 3.3 V. -/
theorem forgets_iff_vcc :
    let port := newPort ⟨0, "1", []⟩ "base" ModuleType.sfpPlus.device
    (∀ d ∈ ModuleType.domColumns .sfpPlus,
        (pmSetA2 ([vccPage 0x88 0xb8].foldl pmSetA2 port) (vccPage 0x80 0xe8)).dom d =
          (pmSetA2 port (vccPage 0x80 0xe8)).dom d) ↔
      ∀ d x, floatString d x ∈ ModuleType.domWrites .sfpPlus (vccPage 0x80 0xe8) →
        ∀ old, ([vccPage 0x88 0xb8].foldl pmSetA2 port).dom d = some old → ¬Sticks old x :=
  forgets_iff (ModuleType.isA_device .sfpPlus) (ModuleType.isA_device .sfpPlus) (fun _ => rfl)
    [vccPage 0x88 0xb8] (vccPage 0x80 0xe8)

/-- The supply voltage goes from 3.5 V to 3.0 V, and the column stays at 3.50. -/
theorem vcc_sticks :
    let port := newPort ⟨0, "1", []⟩ "base" ModuleType.sfpPlus.device
    (pmSetA2 (pmSetA2 port (vccPage 0x88 0xb8)) (vccPage 0x75 0x30)).dom
        Quantity.vcc.current = some "3.50" ∧
      (pmSetA2 port (vccPage 0x75 0x30)).dom Quantity.vcc.current = some "3.00" := by
  decide +kernel

end OpsPmd
