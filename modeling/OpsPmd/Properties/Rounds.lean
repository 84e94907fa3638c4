import OpsPmd.Ghost
import OpsPmd.Hardware

/-!
# The rounds of a poll

`pm_read_module_state` looks for the module and reads its serial ID, and jumps back after a reset if
that fails. The reads of the diagnostics page have what is left of the two retries.

* `Platform.recordCalls` — a platform with a record of the calls it serves
* `PollRounds` — failed rounds and a last one, with the calls in them and the port afterwards
* `Asks`, `traced_poll` — what the calls ask of the bus in the hardware build
* `poll_rounds` — every poll is at most two failed rounds with a reset each, and a last one
-/

namespace OpsPmd

variable {σ : Type} {P : Platform σ} {t : ModuleType} {port : PmPort}

/-! ## A record of the calls -/

/-- A call of `pm_read_module_state` to the platform, with what it gave. -/
inductive PollCall
  | presence (found : Bool)
  | readA0 (a0 : Option Page)
  | reset
  | readA2 (a2 : Option Page)

/-- The platform with a record of the calls it serves. -/
def Platform.recordCalls (P : Platform σ) : Platform (σ × List PollCall) where
  getPresence port s :=
    ((P.getPresence port s.1).1,
      ((P.getPresence port s.1).2, s.2 ++ [.presence (P.getPresence port s.1).1]))
  readA0 port offset s :=
    ((P.readA0 port offset s.1).1,
      ((P.readA0 port offset s.1).2, s.2 ++ [.readA0 (P.readA0 port offset s.1).1]))
  readA2 port s :=
    ((P.readA2 port s.1).1, ((P.readA2 port s.1).2, s.2 ++ [.readA2 (P.readA2 port s.1).1]))
  resetPort port s := (P.resetPort port s.1, s.2 ++ [.reset])
  clearReset port s := (P.clearReset port s.1, s.2)
  configurePort port s := (P.configurePort port s.1, s.2)

theorem over_recordCalls (P : Platform σ) : P.recordCalls.Over P Prod.fst :=
  ⟨fun _ _ => rfl, fun _ _ _ => rfl, fun _ _ => rfl, fun _ _ => rfl, fun _ _ => rfl, fun _ _ => rfl⟩

/-- The calls of one `pm_read_module_state`, in order. -/
def pollCalls (P : Platform σ) (port : PmPort) (s : σ) : List PollCall :=
  (pmReadModuleState P.recordCalls port (s, [])).2.2.2

/-- The poll with the record is the poll. -/
theorem pmReadModuleState_recordCalls (P : Platform σ) (port : PmPort) (s : σ) :
    pmReadModuleState P port s = mapPoll Prod.fst (pmReadModuleState P.recordCalls port (s, [])) :=
  pmReadModuleState_over (over_recordCalls P) port (s, [])

/-- The calls of one round. -/
def roundCalls (P : Platform σ) (port : PmPort) (offset : Nat) (s : σ) : List PollCall :=
  if (P.getPresence port.toPortId s).1 = false then [.presence false]
  else if port.present = true ∧ port.retry = false then [.presence true]
  else [.presence true, .readA0 (P.readA0 port.toPortId offset (P.getPresence port.toPortId s).2).1]

theorem attempt_recordCalls (offset : Nat) (s : σ) (l : List PollCall) :
    attempt P.recordCalls port offset (s, l) =
      ((attempt P port offset s).1,
        ((attempt P port offset s).2, l ++ roundCalls P port offset s)) := by
  have hcalls : roundCalls P port offset s =
      roundLog P (fun found => [.presence found]) (fun r => [.readA0 r]) port offset s := rfl
  rw [hcalls]
  exact attempt_logged (fun _ _ => rfl) (fun _ _ _ => rfl) offset s l

/-! ## One round -/

/-- A serial ID page was read and its checksums are right. -/
def GoodRead (r : Option Page) : Prop := ∃ a0, r = some a0 ∧ sfppSumVerify a0 = 0

/-- The ways a round of a port that has to be read can go, with its calls. -/
theorem attempt_cases (hneeds : port.NeedsRead) (offset : Nat) (s : σ) :
    ((attempt P port offset s).1 = some .absent ∧
      roundCalls P port offset s = [.presence false]) ∨
    (∃ a0, (attempt P port offset s).1 = some (.page a0) ∧ sfppSumVerify a0 = 0 ∧
      roundCalls P port offset s = [.presence true, .readA0 (some a0)]) ∨
    ∃ r, (attempt P port offset s).1 = none ∧ ¬GoodRead r ∧
      roundCalls P port offset s = [.presence true, .readA0 r] := by
  unfold attempt roundCalls
  obtain ⟨present, s₁, hp⟩ : ∃ b s₁, P.getPresence port.toPortId s = (b, s₁) := ⟨_, _, rfl⟩
  rw [hp]
  cases present with
  | false => exact Or.inl ⟨rfl, rfl⟩
  | true =>
    right
    obtain ⟨r, s₂, hr⟩ : ∃ r s₂, P.readA0 port.toPortId offset s₁ = (r, s₂) := ⟨_, _, rfl⟩
    simp only [if_neg hneeds, Bool.true_eq_false, if_false, hr]
    cases r with
    | none =>
      refine Or.inr ⟨none, rfl, ?_, rfl⟩
      rintro ⟨a0, h, -⟩
      cases h
    | some a0 =>
      by_cases hsum : sfppSumVerify a0 = 0
      · exact Or.inl ⟨a0, congrArg Prod.fst (if_pos hsum), hsum, rfl⟩
      · refine Or.inr ⟨some a0, congrArg Prod.fst (if_neg hsum), ?_, rfl⟩
        rintro ⟨a0', h, hsum'⟩
        obtain rfl := Option.some.inj h
        exact hsum hsum'

/-- The ways a round of a port with a known module can go. -/
theorem attempt_cases_of_held (hheld : ¬port.NeedsRead) (offset : Nat) (s : σ) :
    ((attempt P port offset s).1 = some .absent ∧
      roundCalls P port offset s = [.presence false]) ∨
    ((attempt P port offset s).1 = some .held ∧
      roundCalls P port offset s = [.presence true]) := by
  unfold attempt roundCalls
  obtain ⟨present, s₁, hp⟩ : ∃ b s₁, P.getPresence port.toPortId s = (b, s₁) := ⟨_, _, rfl⟩
  rw [hp]
  cases present with
  | false => exact Or.inl ⟨rfl, rfl⟩
  | true =>
    have hheld' : port.present = true ∧ port.retry = false := not_not.mp hheld
    exact Or.inr ⟨congrArg Prod.fst (if_pos hheld'), (if_neg (by simp)).trans (if_pos hheld')⟩

/-- A failed round with the reset after it. -/
def failedRound (r : Option Page) : List PollCall := [.presence true, .readA0 r, .reset]

/-- Failed rounds, by what they read. -/
theorem exists_failed_reads (hneeds : port.NeedsRead) (offset : Nat) : ∀ (failed : List σ),
    (∀ v ∈ failed, (attempt P port offset v).1 = none) →
    ∃ reads : List (Option Page), reads.length = failed.length ∧ (∀ r ∈ reads, ¬GoodRead r) ∧
      failed.flatMap (fun v => roundCalls P port offset v ++ [.reset]) = reads.flatMap failedRound
  | [], _ => ⟨[], rfl, by simp, rfl⟩
  | v :: failed, h => by
    obtain ⟨reads, hlen, hbad, hcalls⟩ :=
      exists_failed_reads hneeds offset failed fun w hw => h w (List.mem_cons_of_mem v hw)
    have hv := h v (List.mem_cons_self ..)
    rcases attempt_cases (P := P) hneeds offset v with ⟨hr, -⟩ | ⟨a0, hr, -⟩ | ⟨r, -, hbadr, hcall⟩
    · rw [hv] at hr
      cases hr
    · rw [hv] at hr
      cases hr
    · refine ⟨r :: reads, by rw [List.length_cons, hlen, List.length_cons], ?_, ?_⟩
      · rintro r' hr'
        rcases List.mem_cons.mp hr' with rfl | hr'
        · exact hbadr
        · exact hbad r' hr'
      · rw [List.flatMap_cons, List.flatMap_cons, hcalls, hcall]
        rfl

/-! ## The diagnostics page -/

/-- The A2 reads after the serial ID, with `n` retries left, and the port they lead to. -/
inductive Diagnosed (n : Nat) (port : PmPort) : List (Option Page) → PmPort → Prop
  | unasked (h : port.a2ReadRequested = false) : Diagnosed n port [] port
  | found {k : Nat} (hk : k ≤ n) (a2 : Page) (h : port.a2ReadRequested = true) :
    Diagnosed n port (List.replicate k none ++ [some a2])
      { pmSetA2 port a2 with a2ReadRequested := false }
  | gaveUp (h : port.a2ReadRequested = true) :
    Diagnosed n port (List.replicate (n + 1) none)
      { pmSetA2 port allOnes with a2ReadRequested := false }

theorem Diagnosed.length_le {n : Nat} {q : PmPort} {reads : List (Option Page)}
    (h : Diagnosed n port reads q) : reads.length ≤ n + 1 := by
  cases h with
  | unasked _ => exact Nat.zero_le _
  | found hk _ _ => simpa using hk
  | gaveUp _ => simp

/-- Failed reads of the diagnostics page. -/
theorem flatMap_failed_reads (id : PortId) : ∀ (failed : List σ),
    (∀ v ∈ failed, (P.readA2 id v).1 = none) →
    failed.flatMap (fun v => [.readA2 (P.readA2 id v).1] ++ []) =
      (List.replicate failed.length none).map PollCall.readA2
  | [], _ => rfl
  | v :: failed, h => by
    rw [List.flatMap_cons, flatMap_failed_reads id failed fun w hw => h w (.tail v hw),
      h v (List.mem_cons_self ..)]
    rfl

theorem readDiagnostics_recordCalls (port : PmPort) (n : Nat) (s : σ) (l : List PollCall) :
    ∃ reads q, Diagnosed n port reads q ∧ (readDiagnostics P port n s).1 = 0 ∧
      (readDiagnostics P port n s).2.1 = q ∧
      (readDiagnostics P.recordCalls port n (s, l)).2.2.2 = l ++ reads.map .readA2 := by
  unfold readDiagnostics
  cases hreq : port.a2ReadRequested with
  | false => exact ⟨[], port, .unasked hreq, rfl, rfl, by simp⟩
  | true =>
    obtain ⟨failed, last, hlen, hfailed, hlast, hloop, hloop'⟩ :=
      Retry.loop_rounds (P.readA2 port.toPortId) (fun s => s)
        (P.recordCalls.readA2 port.toPortId) (fun s => s)
        (fun s => [.readA2 (P.readA2 port.toPortId s).1]) [] (fun _ _ => rfl)
        (fun _ _ => by simp) n s l
    have hcalls := flatMap_failed_reads port.toPortId failed hfailed
    simp only [Bool.true_eq_false, if_false, retryReadA2_eq, hloop, hloop']
    cases hr : (P.readA2 port.toPortId last).1 with
    | some a2 =>
      refine ⟨_, _, .found hlen a2 hreq, trivial, rfl, ?_⟩
      rw [hcalls, List.map_append, List.append_assoc]
      rfl
    | none =>
      refine ⟨_, _, .gaveUp hreq, trivial, rfl, ?_⟩
      rw [hcalls, List.replicate_succ', List.map_append, List.append_assoc, hlast hr]
      rfl

/-! ## The last round -/

/-- The port with a parsed page, before the diagnostics page is read. -/
def PmPort.parsed (t : ModuleType) (port : PmPort) (a0 : Page) : PmPort :=
  { (pmParse a0 port).2 with
    present := true
    retry := false
    a2ReadRequested := port.a2ReadRequested || t.requestsA2 a0 }

/--
The last of the rounds of a port that has to be read: its calls and those after it, the return code
and the port. `n` rounds went before, each with a reset.
-/
inductive LastRound (t : ModuleType) (port : PmPort) (n : Nat) :
    List PollCall → Int → PmPort → Prop
  | absent : LastRound t port n [.presence false] 0 port.settleAbsent
  | parsed {a0 : Page} (hgood : sfppSumVerify a0 = 0) {reads : List (Option Page)} {q : PmPort}
    (hdom : Diagnosed (2 - n) (port.parsed t a0) reads q) :
    LastRound t port n ([.presence true, .readA0 (some a0)] ++ reads.map .readA2) 0 q
  | unreadable (hn : n = 2) {r : Option Page} (hbad : ¬GoodRead r) :
    LastRound t port n [.presence true, .readA0 r] (-1) port.unreadable

/--
The calls of a poll are failed rounds with a reset each, given by what was read in them, and a last
round that leads to the return code and the port.
-/
inductive PollRounds (t : ModuleType) (port : PmPort) (failed : List (Option Page)) :
    List PollCall → Int → PmPort → Prop
  | intro {last : List PollCall} {rc : Int} {q : PmPort} (hlen : failed.length ≤ 2)
    (hfailed : ∀ r ∈ failed, ¬GoodRead r) (hlast : LastRound t port failed.length last rc q) :
    PollRounds t port failed (failed.flatMap failedRound ++ last) rc q

/-- **A poll of a port that has to be read is a row of failed rounds and a last one.** -/
theorem pollCalls_of_needsRead (P : Platform σ) (h : port.moduleDevice.IsA t)
    (hneeds : port.NeedsRead) (s : σ) :
    ∃ failed, PollRounds t port failed (pollCalls P port s) (pmReadModuleState P port s).1
      (pmReadModuleState P port s).2.1 := by
  obtain ⟨failed, last, hlen, hfailed, hlast, hloop, hloop'⟩ :=
    Retry.loop_rounds (attempt P port t.serialIdOffset) (P.resetPort port.toPortId)
      (attempt P.recordCalls port t.serialIdOffset) (P.recordCalls.resetPort port.toPortId)
      (roundCalls P port t.serialIdOffset) [.reset] (attempt_recordCalls t.serialIdOffset)
      (fun _ _ => rfl) 2 s []
  obtain ⟨reads, hreads, hbad, hcalls⟩ := exists_failed_reads hneeds _ failed hfailed
  rw [List.nil_append, hcalls] at hloop'
  unfold pollCalls
  rw [pmReadModuleState_eq_conclude h, pmReadModuleState_eq_conclude h, identify, identify, hloop,
    hloop', ← hreads]
  rw [← hreads] at hlen hlast
  -- the last round found the port empty, read a good page, or used up the retries
  rcases attempt_cases (P := P) hneeds t.serialIdOffset last with
    ⟨hr, hcall⟩ | ⟨a0, hr, hgood, hcall⟩ | ⟨r, hr, hbadr, hcall⟩
  · rw [hr, hcall]
    exact ⟨reads, .intro hlen hbad .absent⟩
  · rw [hr, hcall]
    obtain ⟨domReads, q, hdom, hrc, hq, hlog⟩ := readDiagnostics_recordCalls (P := P)
      (port.parsed t a0) (2 - reads.length) (attempt P port t.serialIdOffset last).2
      (reads.flatMap failedRound ++ [.presence true, .readA0 (some a0)])
    have hend : LastRound t port reads.length _ 0 q := .parsed hgood hdom
    rw [← hq, ← hrc] at hend
    refine ⟨reads, ?_⟩
    show PollRounds t port reads (readDiagnostics P.recordCalls (port.parsed t a0) _ _).2.2.2 _ _
    rw [hlog, List.append_assoc]
    exact .intro hlen hbad hend
  · rw [hr, hcall]
    exact ⟨reads, .intro hlen hbad (.unreadable (hlast hr) hbadr)⟩

/-- A module that is known already is not read again. -/
theorem pollCalls_of_held (P : Platform σ) (h : port.moduleDevice.IsA t)
    (hheld : ¬port.NeedsRead) (s : σ) (r : Option Page) : .readA0 r ∉ pollCalls P port s := by
  have hround : attempt P.recordCalls port t.serialIdOffset (s, []) = _ :=
    attempt_recordCalls t.serialIdOffset s []
  unfold pollCalls
  rw [pmReadModuleState_eq_conclude h, identify]
  rcases attempt_cases_of_held (P := P) hheld t.serialIdOffset s with ⟨hr, hcall⟩ | ⟨hr, hcall⟩
  · rw [hr, hcall] at hround
    rw [Retry.loop_of_some hround]
    simp [conclude]
  · rw [hr, hcall] at hround
    rw [Retry.loop_of_some hround]
    obtain ⟨reads, q, -, -, -, hlog⟩ := readDiagnostics_recordCalls (P := P) port 2
      (attempt P port t.serialIdOffset s).2 ([] ++ [.presence true])
    show .readA0 r ∉ (readDiagnostics P.recordCalls port 2 _).2.2.2
    rw [hlog]
    simp

/-! ## The calls on the bus -/

/-- The block a call of the library read, if it did. -/
def I2cAnswer.block (answer : I2cAnswer) : Option Page :=
  if answer.rc ≠ 0 then none else some answer.data

/-- What a call of the hardware build asks of the bus, with the answers. -/
inductive Asks (t : ModuleType) (id : PortId) : PollCall → List (I2cRequest × I2cAnswer) → Prop
  /-- Up to two reads of the presence signal fail, and the last read says what is there. -/
  | presence {failed : List I2cAnswer} (hfailed : ∀ answer ∈ failed, answer.rc ≠ 0)
    (hlen : failed.length ≤ 2) {last : I2cAnswer} (hlast : last.rc ≠ 0 → failed.length = 2) :
    Asks t id (.presence (last.rc = 0 && last.result ≠ 0))
      ((failed ++ [last]).map fun answer => (.regRead id.instanceName t.presenceSignal, answer))
  | readA0 (answer : I2cAnswer) :
    Asks t id (.readA0 answer.block)
      [(.dataRead id.subsystem (some id.moduleDevice.moduleEeprom) t.serialIdOffset, answer)]
  | reset {entries : List (I2cRequest × I2cAnswer)}
    (hpulse : entries.map Prod.fst = resetPulse t id) : Asks t id .reset entries
  | readA2 (answer : I2cAnswer) :
    Asks t id (.readA2 answer.block) [(.dataRead id.subsystem (a2DeviceName id) 0, answer)]

/-- The `retry_read` loop of `pm_get_presence` reads its register once more than it retries. -/
theorem readPresence_reads (id : PortId) (regOp : Signal) : ∀ (n : Nat) (b : Bus),
    ∃ (failed : List I2cAnswer) (last : I2cAnswer), (∀ answer ∈ failed, answer.rc ≠ 0) ∧
      failed.length ≤ n ∧ (last.rc ≠ 0 → failed.length = n) ∧
      (readPresence id regOp n b).1 = (last.rc = 0 && last.result ≠ 0) ∧
      (readPresence id regOp n b).2.trace = b.trace ++
        (failed ++ [last]).map fun answer => (.regRead id.instanceName regOp, answer)
  | n, b => by
    obtain ⟨answer, b₁, hask⟩ : ∃ answer b₁,
        b.ask (.regRead id.instanceName regOp) = (answer, b₁) := ⟨_, _, rfl⟩
    have htrace : b₁.trace = b.trace ++ [(.regRead id.instanceName regOp, answer)] := by
      obtain ⟨rfl, rfl⟩ := Prod.mk.inj hask
      rfl
    rw [readPresence.eq_def, hask]
    dsimp only
    by_cases hrc : answer.rc = 0
    · rw [if_neg (not_not.mpr hrc)]
      exact ⟨[], answer, by simp, Nat.zero_le n, fun hne => absurd hrc hne, by simp [hrc], htrace⟩
    · rw [if_pos hrc]
      cases n with
      | zero => exact ⟨[], answer, by simp, Nat.le_refl 0, fun _ => rfl, by simp [hrc], htrace⟩
      | succ n =>
        -- this read failed, and the loop goes on with one retry less
        obtain ⟨failed, last, hfailed, hlen, hlast, hfound, hrest⟩ :=
          readPresence_reads id regOp n b₁
        refine ⟨answer :: failed, last, ?_, Nat.succ_le_succ hlen, fun hne => ?_, hfound, ?_⟩
        · exact List.forall_mem_cons.mpr ⟨hrc, hfailed⟩
        · rw [List.length_cons, hlast hne]
        · rw [hrest, htrace, List.append_assoc]
          rfl

theorem pmGetPresence_asks {id : PortId} (h : id.moduleDevice.IsA t) (b : Bus) :
    ∃ new, (pmGetPresence id b).2.trace = b.trace ++ new ∧
      Asks t id (.presence (pmGetPresence id b).1) new := by
  obtain ⟨failed, last, hfailed, hlen, hlast, hfound, htrace⟩ :=
    readPresence_reads id t.presenceSignal 2 (b.hand id.moduleDevice t.presenceSignal)
  rw [pmGetPresence_eq h, hfound, htrace, Bus.trace_hand]
  exact ⟨_, rfl, .presence hfailed hlen hlast⟩

theorem Asks.length_le_of_presence {id : PortId} {found : Bool}
    {entries : List (I2cRequest × I2cAnswer)} (h : Asks t id (.presence found) entries) :
    entries.length ≤ 3 ∧
      ∀ entry ∈ entries, entry.1 = .regRead id.instanceName t.presenceSignal := by
  cases h with
  | presence _ hlen _ =>
    refine ⟨?_, fun entry hentry => ?_⟩
    · rw [List.length_map, List.length_append, List.length_singleton]
      omega
    · obtain ⟨answer, -, rfl⟩ := List.mem_map.mp hentry
      rfl

theorem pmResetPort_asks {id : PortId} (h : id.moduleDevice.IsA t) (b : Bus) :
    ∃ new, (pmResetPort id b).trace = b.trace ++ new ∧ Asks t id .reset new := by
  have hpulse : ∀ {new : List (I2cRequest × I2cAnswer)}, new.map Prod.fst = resetPulse t id →
      Asks t id .reset new := .reset
  rw [pmResetPort_eq h]
  unfold resetPulse at hpulse
  cases hs : resetSignal t id.moduleDevice with
  | none =>
    rw [hs] at hpulse
    exact ⟨[], (List.append_nil _).symm, hpulse rfl⟩
  | some signal =>
    rw [hs] at hpulse
    exact ⟨_, List.append_assoc .., hpulse rfl⟩

/-- The trace grew by what the calls asked. -/
def Traced (t : ModuleType) (id : PortId) (b : Bus) (w : Bus × List PollCall) : Prop :=
  ∃ segments, List.Forall₂ (Asks t id) w.2 segments ∧ w.1.trace = b.trace ++ segments.flatten

theorem Traced.snoc {id : PortId} {b b' : Bus} {w : Bus × List PollCall} {call : PollCall}
    (hw : Traced t id b w)
    (h : ∃ new, b'.trace = w.1.trace ++ new ∧ Asks t id call new) :
    Traced t id b (b', w.2 ++ [call]) := by
  obtain ⟨segments, hsegments, htrace⟩ := hw
  obtain ⟨new, hnew, hasks⟩ := h
  refine ⟨segments ++ [new], List.rel_append hsegments (.cons hasks .nil), ?_⟩
  rw [hnew, htrace, List.append_assoc, List.flatten_append, List.flatten_singleton]

/-- **The requests of a poll are those of its calls, in order.** -/
theorem traced_poll (h : port.moduleDevice.IsA t) (b : Bus) :
    Traced t port.toPortId b ((pmReadModuleState hardware port b).2.2, pollCalls hardware port b) := by
  have hpoll : Traced t port.toPortId b (pmReadModuleState hardware.recordCalls port (b, [])).2.2 :=
    pmReadModuleState_invariant (P := hardware.recordCalls) (I := Traced t port.toPortId b) h
      (fun w hw => hw.snoc (pmGetPresence_asks h w.1))
      (fun w hw => hw.snoc ⟨_, rfl, .readA0 _⟩)
      (fun w hw => hw.snoc ⟨_, rfl, .readA2 _⟩)
      (fun w hw => hw.snoc (pmResetPort_asks h w.1)) ⟨[], .nil, by simp⟩
  rw [pmReadModuleState_recordCalls]
  exact hpoll

/-- The writes of a register among requests. -/
def regWrites (requests : List I2cRequest) : List I2cRequest :=
  requests.filter fun
    | .regWrite _ _ _ => true
    | _ => false

/-- The pulse of a call, if it is one of `pm_reset_port`. -/
def PollCall.pulse (t : ModuleType) (id : PortId) : PollCall → List I2cRequest
  | reset => resetPulse t id
  | _ => []

theorem regWrites_append (requests requests' : List I2cRequest) :
    regWrites (requests ++ requests') = regWrites requests ++ regWrites requests' :=
  List.filter_append ..

theorem regWrites_resetPulse (id : PortId) : regWrites (resetPulse t id) = resetPulse t id := by
  unfold resetPulse
  cases resetSignal t id.moduleDevice <;> rfl

theorem Asks.regWrites {id : PortId} {call : PollCall} {entries : List (I2cRequest × I2cAnswer)}
    (h : Asks t id call entries) : regWrites (entries.map Prod.fst) = call.pulse t id := by
  cases h with
  | presence _ _ _ =>
    refine List.filter_eq_nil_iff.mpr fun request hm => ?_
    rw [List.map_map, List.mem_map] at hm
    obtain ⟨answer, -, rfl⟩ := hm
    exact Bool.false_ne_true
  | readA0 _ => rfl
  | reset hpulse =>
    rw [hpulse, regWrites_resetPulse]
    rfl
  | readA2 _ => rfl

/-- The registers that a poll writes are those of its pulses. -/
theorem regWrites_of_asks {id : PortId} {calls : List PollCall}
    {segments : List (List (I2cRequest × I2cAnswer))}
    (h : List.Forall₂ (Asks t id) calls segments) :
    OpsPmd.regWrites (segments.flatten.map Prod.fst) = calls.flatMap (PollCall.pulse t id) := by
  induction h with
  | nil => rfl
  | cons hasks _ ih =>
    rw [List.flatten_cons, List.map_append, regWrites_append, hasks.regWrites, ih,
      List.flatMap_cons]

/-- There is no reset after the last round. -/
theorem LastRound.flatMap_pulse {n : Nat} {calls : List PollCall} {rc : Int} {q : PmPort}
    (h : LastRound t port n calls rc q) (id : PortId) :
    calls.flatMap (PollCall.pulse t id) = [] := by
  cases h with
  | absent => rfl
  | @parsed a0 _ reads _ _ =>
    show (reads.map PollCall.readA2).flatMap (PollCall.pulse t id) = []
    rw [List.flatMap_map]
    exact List.flatMap_eq_nil_iff.mpr fun _ _ => rfl
  | unreadable _ _ => rfl

/-- **There is a pulse for each failed round.** -/
theorem PollRounds.flatMap_pulse {failed : List (Option Page)} {calls : List PollCall} {rc : Int}
    {q : PmPort} (h : PollRounds t port failed calls rc q) (id : PortId) :
    calls.flatMap (PollCall.pulse t id) =
      (List.replicate failed.length (resetPulse t id)).flatten := by
  cases h with
  | intro _ _ hlast =>
    rw [List.flatMap_append, hlast.flatMap_pulse, List.append_nil, List.flatMap_assoc]
    have hround : ∀ r, (failedRound r).flatMap (PollCall.pulse t id) = resetPulse t id := by
      intro r
      unfold failedRound
      simp [PollCall.pulse]
    simp only [hround, List.flatMap_def, List.map_const']

/-! ## All rounds -/

/--
**The retry loop is the first good attempt out of three.** A port that has to be read goes through
failed rounds with a reset each and a last one, and what is left of the two retries is for the A2
reads. A port with a known module is not read again. On the bus a reset is a pulse of the reset
signal, if the port has one, and a presence check is at most three reads: the registers written are
those of a pulse for each failed round.
-/
theorem poll_rounds (P : Platform σ) (h : port.moduleDevice.IsA t) (s : σ) :
    (port.NeedsRead → ∃ failed, PollRounds t port failed (pollCalls P port s)
      (pmReadModuleState P port s).1 (pmReadModuleState P port s).2.1) ∧
    (∀ a0 n reads q, n ≤ 2 → Diagnosed (2 - n) (port.parsed t a0) reads q →
      reads.length ≤ 3 - n) ∧
    (port.settleAbsent.present = false ∧ (port.Inv t → port.settleAbsent.HasShape .absent)) ∧
    port.unreadable.HasShape .unreadable ∧
    (¬port.NeedsRead → ∀ r, .readA0 r ∉ pollCalls P port s) ∧
    ∀ b : Bus, ∃ segments, List.Forall₂ (Asks t port.toPortId) (pollCalls hardware port b) segments ∧
      (pmReadModuleState hardware port b).2.2.trace = b.trace ++ segments.flatten ∧
      regWrites (segments.flatten.map Prod.fst) =
        (pollCalls hardware port b).flatMap (PollCall.pulse t port.toPortId) ∧
      (∀ failed rc q, PollRounds t port failed (pollCalls hardware port b) rc q →
        regWrites (segments.flatten.map Prod.fst) =
          (List.replicate failed.length (resetPulse t port.toPortId)).flatten) ∧
      ∀ found entries, Asks t port.toPortId (.presence found) entries →
        entries.length ≤ 3 ∧
          ∀ entry ∈ entries, entry.1 = .regRead port.instanceName t.presenceSignal := by
  refine ⟨fun hneeds => pollCalls_of_needsRead P h hneeds s, fun a0 n reads q hn hdom => ?_,
    ⟨port.present_settleAbsent, fun hinv => hinv.hasShape_settleAbsent⟩, PmPort.hasShape_unreadable,
    fun hheld r => pollCalls_of_held P h hheld s r, fun b => ?_⟩
  · have hle := hdom.length_le
    omega
  · obtain ⟨segments, hasks, htrace⟩ := traced_poll h b
    have hwrites := regWrites_of_asks hasks
    exact ⟨segments, hasks, htrace, hwrites,
      fun _ _ _ hrounds => hwrites.trans (hrounds.flatMap_pulse _),
      fun _ _ hpresence => hpresence.length_le_of_presence⟩

/-- A QSFP port with a reset signal whose first A0 read fails. -/
theorem poll_rounds_hardware :
    let port := newPort ⟨0, "1", []⟩ "base"
      { ModuleType.qsfpPlus.device with signals := fun _ => some ⟨0xff⟩ }
    let bus := Bus.ofList [presenceAnswer true, failedAnswer, failedAnswer, failedAnswer,
      presenceAnswer true, pageAnswer srPage]
    (port.NeedsRead → ∃ failed, PollRounds .qsfpPlus port failed (pollCalls hardware port bus)
      (pmReadModuleState hardware port bus).1 (pmReadModuleState hardware port bus).2.1) ∧
    (∀ a0 n reads q, n ≤ 2 → Diagnosed (2 - n) (port.parsed .qsfpPlus a0) reads q →
      reads.length ≤ 3 - n) ∧
    (port.settleAbsent.present = false ∧
      (port.Inv .qsfpPlus → port.settleAbsent.HasShape .absent)) ∧
    port.unreadable.HasShape .unreadable ∧
    (¬port.NeedsRead → ∀ r, .readA0 r ∉ pollCalls hardware port bus) ∧
    ∀ b : Bus, ∃ segments,
      List.Forall₂ (Asks .qsfpPlus port.toPortId) (pollCalls hardware port b) segments ∧
      (pmReadModuleState hardware port b).2.2.trace = b.trace ++ segments.flatten ∧
      regWrites (segments.flatten.map Prod.fst) =
        (pollCalls hardware port b).flatMap (PollCall.pulse .qsfpPlus port.toPortId) ∧
      (∀ failed rc q, PollRounds .qsfpPlus port failed (pollCalls hardware port b) rc q →
        regWrites (segments.flatten.map Prod.fst) =
          (List.replicate failed.length (resetPulse .qsfpPlus port.toPortId)).flatten) ∧
      ∀ found entries, Asks .qsfpPlus port.toPortId (.presence found) entries →
        entries.length ≤ 3 ∧
          ∀ entry ∈ entries,
            entry.1 = .regRead port.instanceName ModuleType.qsfpPlus.presenceSignal :=
  poll_rounds hardware ⟨rfl, rfl⟩ _

set_option maxRecDepth 1000 in
/--
An SFP+ port has no reset signal. The page is parsed in the second round, after one call of
`pm_reset_port`, and no register was written.
-/
theorem no_pulse_without_signal :
    let port := newPort ⟨0, "1", []⟩ "base" ModuleType.sfpPlus.device
    let bus := Bus.ofList [presenceAnswer true, failedAnswer, presenceAnswer true, pageAnswer srPage]
    let after := pmReadModuleState hardware port bus
    (∃ reads, pollCalls hardware port bus =
        failedRound none ++ ([.presence true, .readA0 (some srPage)] ++ reads)) ∧
      sfppSumVerify srPage = 0 ∧ after.1 = 0 ∧ after.2.1.present = true ∧
      after.2.1.retry = false ∧ regWrites (after.2.2.trace.map Prod.fst) = [] :=
  ⟨⟨_, rfl⟩, by decide +kernel, by decide +kernel, by decide +kernel, by decide +kernel,
    by decide +kernel⟩

end OpsPmd
