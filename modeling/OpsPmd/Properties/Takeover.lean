import OpsPmd.Properties.History

/-!
# Several daemons and the lock

Several daemons may run on the same modules and the same database. Each asks the database for the
lock `ops_pmd` when it starts, looks at the beginning of a pass whether it has it, and leaves the
pass if not. The database gives the lock to one of them at a time, and refuses the transactions of
all others.

* `clusterStep` — the daemons, the lock, the modules and the database
* `cluster_provenance` — a row is what some port was when its daemon had the lock
* `takeover_exact` — the first poll and update of a daemon set all its rows right, whatever others
  have left in them, and they stay so while it has the lock
-/

namespace OpsPmd

variable {κ σ : Type} [DecidableEq κ] {P : Platform σ} {nameOf : Uuid → String}

/-! ## The machine -/

/-- What a daemon has for itself. -/
structure Daemon (σ : Type) where
  idl : Idl
  seqno : Nat
  /-- The world in it is not used: all daemons have the same. -/
  pmd : Pmd σ
  /-- The pass goes on, as the daemon has found that it has the lock. -/
  active : Bool := false

structure Cluster (κ σ : Type) where
  members : κ → Daemon σ
  holder : Option κ := none
  world : σ
  db : Database

inductive ClusterEvent (κ σ : Type)
  /-- `pm_ovsdb_if_init` of a daemon that is started, for the first time or anew. -/
  | start (i : κ) (idl : Idl) (seqno : Nat) (files : Subsystem → YamlFiles)
  | acquire (i : κ)
  | release
  /-- The beginning of `pmd_run`. What the daemon knows of the lock may be out of date. -/
  | idlRun (i : κ) (idl : Idl) (seqno : Nat) (hasLock : Bool)
  | reconfigure (i : κ) (files : Subsystem → YamlFiles)
  | readState (i : κ) (change : σ → σ)
  /-- The end of `pmd_run`. -/
  | update (i : κ) (committed : Bool)

namespace Cluster

/-- A daemon with the modules and the database. -/
def system (c : Cluster κ σ) (i : κ) : System σ where
  idl := (c.members i).idl
  seqno := (c.members i).seqno
  pmd := { (c.members i).pmd with world := c.world }
  db := c.db

/-- The daemon, the modules and the database are now these. -/
def put (c : Cluster κ σ) (i : κ) (active : Bool) (s : System σ) : Cluster κ σ where
  members := Function.update c.members i ⟨s.idl, s.seqno, s.pmd, active⟩
  holder := c.holder
  world := s.pmd.world
  db := s.db

/-- A call in the pass of a daemon, after which the pass goes on or is over. -/
def run (P : Platform σ) (c : Cluster κ σ) (i : κ) (active : Bool) (e : Event σ) : Cluster κ σ :=
  if (c.members i).active then c.put i active (step P (c.system i) e) else c

end Cluster

/--
A step of a daemon, or of the database with its lock. That only the holder of the lock can commit is
the service of OVSDB and not code of the daemon: the IDL makes every transaction assert the lock,
and the server refuses it for any other client.
-/
def clusterStep (P : Platform σ) (c : Cluster κ σ) : ClusterEvent κ σ → Cluster κ σ
  | .start i idl seqno files =>
    -- the database takes the lock from a daemon whose connection is gone
    let c : Cluster κ σ := { c with holder := if c.holder = some i then none else c.holder }
    c.put i false (initial P idl seqno files c.world c.db)
  | .acquire i => { c with holder := if c.holder = none then some i else c.holder }
  | .release => { c with holder := none }
  | .idlRun i idl seqno hasLock => c.put i hasLock (step P (c.system i) (.idlRun idl seqno))
  | .reconfigure i files => c.run P i true (.reconfigure files)
  | .readState i change => c.run P i true (.readState change)
  | .update i committed => c.run P i false (.update (committed && c.holder = some i))

/-- No daemon is there yet. -/
def Cluster.unstarted (world : σ) (db : Database) : Cluster κ σ where
  members _ := ⟨{}, 0, { idlSeqno := 0, world := world }, false⟩
  world := world
  db := db

/-- The daemon that takes the step. -/
def ClusterEvent.actor : ClusterEvent κ σ → Option κ
  | .start i _ _ _ | .idlRun i _ _ _ | .reconfigure i _ | .readState i _ | .update i _ => some i
  | .acquire _ | .release => none

/-- The call in a pass, and the daemon whose pass it is. Only the holder of the lock can commit. -/
def ClusterEvent.call (holder : Option κ) : ClusterEvent κ σ → Option (κ × Event σ)
  | .idlRun i idl seqno _ => some (i, .idlRun idl seqno)
  | .reconfigure i files => some (i, .reconfigure files)
  | .readState i change => some (i, .readState change)
  | .update i committed => some (i, .update (committed && holder = some i))
  | .start .. | .acquire _ | .release => none

/-- The names of interface rows are immutable, and the ports of the known kinds. -/
def ClusterEvent.Known (nameOf : Uuid → String) : ClusterEvent κ σ → Prop
  | .start _ idl _ files => idl.Named nameOf ∧ YamlFiles.All (fun y => ∃ t, y.IsA t) files
  | .idlRun _ idl _ _ => idl.Named nameOf
  | .reconfigure _ files => YamlFiles.All (fun y => ∃ t, y.IsA t) files
  | .acquire _ | .release | .readState _ _ | .update _ _ => True

/-! ## Steps -/

section Steps

variable {c : Cluster κ σ} {i j : κ} {Φ : Database → PmPort → Prop}

theorem members_put_self (c : Cluster κ σ) (i : κ) (active : Bool) (s : System σ) :
    (c.put i active s).members i = ⟨s.idl, s.seqno, s.pmd, active⟩ := Function.update_self ..

theorem members_put_ne (c : Cluster κ σ) (hne : j ≠ i) (active : Bool) (s : System σ) :
    (c.put i active s).members j = c.members j := Function.update_of_ne hne ..

theorem system_put_self (c : Cluster κ σ) (i : κ) (active : Bool) (s : System σ) :
    (c.put i active s).system i = s := by
  unfold Cluster.system
  rw [members_put_self]
  rfl

theorem run_of_active (h : (c.members i).active = true) (active : Bool) (e : Event σ) :
    c.run P i active e = c.put i active (step P (c.system i) e) := if_pos h

theorem run_of_not_active (h : ¬(c.members i).active = true) (active : Bool) (e : Event σ) :
    c.run P i active e = c := if_neg h

theorem members_run_ne (hne : j ≠ i) (active : Bool) (e : Event σ) :
    (c.run P i active e).members j = c.members j := by
  by_cases h : (c.members i).active = true
  · rw [run_of_active h, members_put_ne c hne]
  · rw [run_of_not_active h]

theorem holder_run (i : κ) (active : Bool) (e : Event σ) :
    (c.run P i active e).holder = c.holder := by
  by_cases h : (c.members i).active = true
  · rw [run_of_active h]
    rfl
  · rw [run_of_not_active h]

/-- Only its own steps change a daemon. -/
theorem members_clusterStep {e : ClusterEvent κ σ} (hne : e.actor ≠ some j) :
    (clusterStep P c e).members j = c.members j := by
  cases e with
  | acquire i => rfl
  | release => rfl
  | start i idl seqno files => exact members_put_ne _ (fun h => hne (congrArg some h.symm)) ..
  | idlRun i idl seqno hasLock => exact members_put_ne _ (fun h => hne (congrArg some h.symm)) ..
  | reconfigure i files => exact members_run_ne (fun h => hne (congrArg some h.symm)) ..
  | readState i change => exact members_run_ne (fun h => hne (congrArg some h.symm)) ..
  | update i committed => exact members_run_ne (fun h => hne (congrArg some h.symm)) ..

/-- A daemon keeps the lock while it is not taken from it. -/
theorem holder_clusterStep (hj : c.holder = some j) {e : ClusterEvent κ σ}
    (hrelease : e ≠ .release) (hstart : ∀ idl seqno files, e ≠ .start j idl seqno files) :
    (clusterStep P c e).holder = some j := by
  cases e with
  | acquire i =>
    show (if c.holder = none then some i else c.holder) = some j
    rw [hj]
    exact if_neg nofun
  | release => exact absurd rfl hrelease
  | start i idl seqno files =>
    have hne : ¬c.holder = some i := by
      rintro hi
      obtain rfl := Option.some.inj (hj.symm.trans hi)
      exact hstart idl seqno files rfl
    exact (if_neg hne).trans hj
  | idlRun i idl seqno hasLock => exact hj
  | reconfigure i files => exact (holder_run ..).trans hj
  | readState i change => exact (holder_run ..).trans hj
  | update i committed => exact (holder_run ..).trans hj

/-- **Only the daemon that has the lock writes to the database.** -/
theorem db_clusterStep {e : ClusterEvent κ σ}
    (h : ∀ i, e = .update i true → (c.members i).active = true → c.holder ≠ some i) :
    (clusterStep P c e).db = c.db := by
  have hrun : ∀ i active (e : Event σ), ((c.members i).active = true →
      (step P (c.system i) e).db = c.db) → (c.run P i active e).db = c.db := by
    intro i active e hdb
    by_cases hactive : (c.members i).active = true
    · rw [run_of_active hactive]
      exact hdb hactive
    · rw [run_of_not_active hactive]
  cases e with
  | acquire i => rfl
  | release => rfl
  | start i idl seqno files => rfl
  | idlRun i idl seqno hasLock => rfl
  | reconfigure i files => exact hrun i true _ fun _ => rfl
  | readState i change => exact hrun i true _ fun _ => rfl
  | update i committed =>
    refine hrun i false _ fun hactive => ?_
    have hrefused : (committed && decide (c.holder = some i)) = false := by
      cases committed with
      | false => rfl
      | true => exact decide_eq_false (h i rfl hactive)
    rw [hrefused]
    rfl

omit [DecidableEq κ] in
theorem sound_of_members {c' : Cluster κ σ} (hmembers : c'.members j = c.members j)
    (hΦ : ∀ p, Φ c.db p → Φ c'.db p) (h : (c.system j).Sound nameOf Φ) :
    (c'.system j).Sound nameOf Φ := by
  obtain ⟨hidl, hports⟩ := h
  have hmono := hports.mono (Ψ := Φ c'.db) fun _ p _ => hΦ p
  constructor
  · show (c'.members j).idl.Named nameOf
    rw [hmembers]
    exact hidl
  · show ({ (c'.members j).pmd with world := c'.world } : Pmd σ).Holds nameOf _ (Φ c'.db)
    rw [hmembers]
    exact hmono.congr rfl rfl

theorem sound_put {active : Bool} {s : System σ} (h : s.Sound nameOf Φ) :
    ((c.put j active s).system j).Sound nameOf Φ := by
  rw [system_put_self]
  exact h

/-- A call keeps what the daemon keeps. -/
theorem sound_run {active : Bool} {e : Event σ} (h : (c.system j).Sound nameOf Φ)
    (hstep : (step P (c.system j) e).Sound nameOf Φ) :
    ((c.run P j active e).system j).Sound nameOf Φ := by
  by_cases hactive : (c.members j).active = true
  · rw [run_of_active hactive]
    exact sound_put hstep
  · rw [run_of_not_active hactive]
    exact h

/-- **A daemon keeps what it starts with and its own calls keep**, if no other takes it away. -/
theorem sound_clusterStep {e : ClusterEvent κ σ} (h : (c.system j).Sound nameOf Φ)
    (hother : e.actor ≠ some j → ∀ p, Φ c.db p → Φ (clusterStep P c e).db p)
    (hstart : ∀ idl seqno files, e = .start j idl seqno files →
      (initial P idl seqno files c.world c.db).Sound nameOf Φ)
    (hcall : ∀ e', e.call c.holder = some (j, e') → (step P (c.system j) e').Sound nameOf Φ) :
    ((clusterStep P c e).system j).Sound nameOf Φ := by
  by_cases hne : e.actor = some j
  · cases e with
    | acquire i => cases hne
    | release => cases hne
    | start i idl seqno files =>
      obtain rfl : i = j := Option.some.inj hne
      exact sound_put (hstart idl seqno files rfl)
    | idlRun i idl seqno hasLock =>
      obtain rfl : i = j := Option.some.inj hne
      exact sound_put (hcall _ rfl)
    | reconfigure i files =>
      obtain rfl : i = j := Option.some.inj hne
      exact sound_run h (hcall _ rfl)
    | readState i change =>
      obtain rfl : i = j := Option.some.inj hne
      exact sound_run h (hcall _ rfl)
    | update i committed =>
      obtain rfl : i = j := Option.some.inj hne
      exact sound_run h (hcall _ rfl)
  · exact sound_of_members (members_clusterStep hne) (hother hne) h

theorem known_of_call {e : ClusterEvent κ σ} {e' : Event σ} {holder : Option κ}
    (he : e.Known nameOf) (hcall : e.call holder = some (j, e')) : e'.Known nameOf := by
  cases e with
  | start i idl seqno files | acquire i | release => cases hcall
  | idlRun i idl seqno hasLock =>
    cases hcall
    exact he
  | reconfigure i files =>
    cases hcall
    exact he
  | readState i change | update i committed =>
    cases hcall
    trivial

theorem readState_of_call {e : ClusterEvent κ σ} {change : σ → σ} {holder : Option κ}
    (hcall : e.call holder = some (j, .readState change)) : e = .readState j change := by
  cases e with
  | start i idl seqno files | acquire i | release => cases hcall
  | idlRun i idl seqno hasLock | reconfigure i files | update i committed => cases hcall
  | readState i change =>
    cases hcall
    rfl

/-- The holder of the lock commits what it does not fail to commit by itself. -/
theorem proper_of_call {e : ClusterEvent κ σ} {e' : Event σ} {holder : Option κ}
    (he : e.Known nameOf) (hcall : e.call holder = some (j, e')) (hholder : holder = some j)
    (hcommits : e ≠ .update j false) : e'.Proper nameOf := by
  cases e with
  | start i idl seqno files | acquire i | release => cases hcall
  | idlRun i idl seqno hasLock =>
    cases hcall
    exact he
  | reconfigure i files =>
    cases hcall
    exact he
  | readState i change =>
    cases hcall
    trivial
  | update i committed =>
    cases hcall
    show (committed && decide (holder = some j)) = true
    cases committed with
    | false => exact absurd rfl hcommits
    | true => exact decide_eq_true hholder

end Steps

/-! ## The daemon that takes over -/

/-- A port that was never polled. -/
structure PmPort.Unpolled (port : PmPort) : Prop where
  known : ∃ t, port.Inv t
  connector : port.info .connector = none

theorem PmPort.Unpolled.tracked {port : PmPort} (h : port.Unpolled) (db : Database) :
    Tracked db port := ⟨h.known, Or.inl h.connector⟩

section Unpolled

variable {s : System σ} {idl : Idl}

theorem unpolled_initial (hidl : idl.Named nameOf) {files : Subsystem → YamlFiles}
    (hfiles : YamlFiles.All (fun y => ∃ t, y.IsA t) files) (seqno : Nat) (world : σ)
    (db : Database) : (initial P idl seqno files world db).Sound nameOf fun _ => PmPort.Unpolled where
  idl := hidl
  ports := Pmd.Holds.init
    (fun intf subName _ ⟨t, hy⟩ _ => ⟨⟨t, PmPort.inv_newPort intf subName hy⟩, rfl⟩)
    hidl hfiles seqno world

/-- Ports come to be read by a poll only. -/
theorem unpolled_step (h : s.Sound nameOf fun _ => PmPort.Unpolled) {e : Event σ}
    (he : e.Known nameOf) (hpoll : ∀ change, e ≠ .readState change) :
    (step P s e).Sound nameOf fun _ => PmPort.Unpolled := by
  cases e with
  | idlRun idl seqno => exact ⟨he, h.ports⟩
  | reconfigure files =>
    refine ⟨h.idl, h.ports.reconfigure ?_ ?_ h.idl he s.seqno⟩
    · rintro intf subName y ⟨t, hy⟩ -
      exact ⟨⟨t, PmPort.inv_newPort intf subName hy⟩, rfl⟩
    · rintro p hwEnable ⟨⟨t, hinv⟩, hnone⟩
      exact ⟨⟨t, hinv.configure hwEnable⟩, hnone⟩
  | readState change => exact absurd rfl (hpoll change)
  | update committed =>
    refine ⟨h.idl, ?_⟩
    show (pmOvsdbUpdate s.idl committed s.pmd s.db).1.Holds nameOf _ _
    refine h.ports.update fun n p _ hp => ?_
    obtain ⟨⟨t, hinv⟩, hnone⟩ := hp
    exact ⟨⟨t, hinv.settled s.idl⟩, by rw [PmPort.info_settled]; exact hnone⟩

/-- **After its first poll a port is tracked whatever the database has for it.** -/
theorem polled_readState (h : s.Sound nameOf fun _ => PmPort.Unpolled) (change : σ → σ) :
    (step P s (.readState change)).Sound nameOf fun _ p => ∀ db, Polled db p where
  idl := h.idl
  ports := by
    have hworld : ({ s.pmd with world := change s.pmd.world } : Pmd σ).Holds nameOf
        (fun y => ∃ t, y.IsA t) PmPort.Unpolled := h.ports.congr rfl rfl
    exact hworld.readState fun _ _ w _ hp =>
      ⟨((hp.tracked s.db).poll w).1, fun db => ((hp.tracked db).poll w).2⟩

/-- An update takes the marks of all rows down. -/
theorem changed_update {n : String} {p : PmPort}
    (hm : (n, p) ∈ (step P s (.update true)).pmd.ovsIntfs)
    (hrow : (s.idl.interfaceForUuid p.uuid).isSome = true) : p.moduleInfoChanged = false := by
  have hupdate : (n, p) ∈ (pmOvsdbUpdate s.idl true s.pmd s.db).1.ovsIntfs := hm
  obtain ⟨q, -, rfl⟩ := mem_ovsIntfs_update.mp hupdate
  have hid : (q.settled s.idl).toPortId = q.toPortId := PmPort.settled_toPortId
  rw [hid] at hrow
  exact PmPort.changed_settled hrow

end Unpolled

/-- The daemon goes on without a poll and without a new start. -/
def ClusterEvent.Waits (j : κ) (e : ClusterEvent κ σ) : Prop :=
  (∀ change, e ≠ .readState j change) ∧ ∀ idl seqno files, e ≠ .start j idl seqno files

/-- The daemon keeps the lock, and its updates commit. -/
def ClusterEvent.Tenured (j : κ) (e : ClusterEvent κ σ) : Prop :=
  e ≠ .release ∧ (∀ idl seqno files, e ≠ .start j idl seqno files) ∧ e ≠ .update j false

section Takeover

variable {c : Cluster κ σ} {j : κ}

theorem unpolled_clusterStep (h : (c.system j).Sound nameOf fun _ => PmPort.Unpolled)
    {e : ClusterEvent κ σ} (he : e.Known nameOf) (hwaits : e.Waits j) :
    ((clusterStep P c e).system j).Sound nameOf fun _ => PmPort.Unpolled := by
  refine sound_clusterStep h (fun _ _ hp => hp)
    (fun idl seqno files heq => absurd heq (hwaits.2 idl seqno files)) fun e' hcall => ?_
  refine unpolled_step h (known_of_call he hcall) ?_
  rintro change rfl
  exact hwaits.1 change (readState_of_call hcall)

theorem unpolled_exec (h : (c.system j).Sound nameOf fun _ => PmPort.Unpolled)
    {es : List (ClusterEvent κ σ)} (hes : ∀ e ∈ es, e.Known nameOf ∧ e.Waits j) :
    ((Run.exec (clusterStep P) c es).system j).Sound nameOf fun _ => PmPort.Unpolled :=
  Run.exec_invariant (I := fun c : Cluster κ σ => (c.system j).Sound nameOf fun _ => PmPort.Unpolled)
    (fun _ _ hs he => unpolled_clusterStep hs he.1 he.2) h (Run.along_of_forall hes)

/-- The daemon has the lock, and tracks its ports. -/
structure Cluster.TrackedBy (nameOf : Uuid → String) (j : κ) (c : Cluster κ σ) : Prop where
  holder : c.holder = some j
  sound : (c.system j).Sound nameOf Tracked

/-- **The other daemons do not come between a daemon that has the lock and its rows.** -/
theorem Cluster.TrackedBy.step (h : c.TrackedBy nameOf j) {e : ClusterEvent κ σ}
    (he : e.Known nameOf) (htenured : e.Tenured j) : (clusterStep P c e).TrackedBy nameOf j := by
  obtain ⟨hrelease, hstart, hcommits⟩ := htenured
  refine ⟨holder_clusterStep h.holder hrelease hstart, sound_clusterStep h.sound (fun hne p hp => ?_)
    (fun idl seqno files heq => absurd heq (hstart idl seqno files))
    fun e' hcall => h.sound.step_tracked ?_⟩
  · -- the update of another daemon is refused
    have hdb : (clusterStep P c e).db = c.db := by
      refine db_clusterStep fun i hi _ hholder => hne ?_
      obtain rfl := Option.some.inj (hholder.symm.trans h.holder)
      rw [hi]
      rfl
    rw [hdb]
    exact hp
  · exact proper_of_call he hcall h.holder hcommits

omit [DecidableEq κ] in
theorem Cluster.TrackedBy.exactMap (h : c.TrackedBy nameOf j) {n : String} {p : PmPort}
    (hm : (n, p) ∈ (c.members j).pmd.ovsIntfs) (hpolled : (p.info .connector).isSome = true)
    (hdown : p.moduleInfoChanged = false) : p.ExactMap (c.db.pmInfo p.uuid) := by
  obtain ⟨⟨t, hinv⟩, hmarked⟩ := h.sound.ports.port n p hm
  rcases hmarked with hnone | hup | hhas
  · rw [hnone] at hpolled
    cases hpolled
  · rw [hdown] at hup
    cases hup
  · have hpmInfo : c.db.pmInfo p.uuid = p.pmInfo := hhas
    rw [hpmInfo]
    exact hinv.exactMap

theorem members_exec {es : List (ClusterEvent κ σ)} (hes : ∀ e ∈ es, e.actor ≠ some j) :
    (Run.exec (clusterStep P) c es).members j = c.members j :=
  Run.exec_invariant (I := fun c' : Cluster κ σ => c'.members j = c.members j)
    (fun _ _ hs he => (members_clusterStep he).trans hs) rfl (Run.along_of_forall hes)

/-- Other daemons do not come between a poll and the update that follows it. -/
theorem polled_exec (h : (c.system j).Sound nameOf fun _ => PmPort.Unpolled)
    (hactive : (c.members j).active = true) (change : σ → σ) {between : List (ClusterEvent κ σ)}
    (hbetween : ∀ e ∈ between, e.actor ≠ some j) :
    let polled := Run.exec (clusterStep P) c (.readState j change :: between)
    (polled.members j).active = true ∧
      (polled.system j).Sound nameOf fun _ p => ∀ db, Polled db p := by
  intro polled
  have hstep : clusterStep P c (.readState j change) =
      c.put j true (step P (c.system j) (.readState change)) := run_of_active hactive ..
  have hmembers : polled.members j = (clusterStep P c (.readState j change)).members j :=
    members_exec hbetween
  constructor
  · rw [hmembers, hstep, members_put_self]
  · refine sound_of_members hmembers (fun _ hp => hp) ?_
    rw [hstep]
    exact sound_put (polled_readState h change)

/-- The update sets all rows of the daemon right. -/
theorem trackedBy_update (h : (c.system j).Sound nameOf fun _ p => ∀ db, Polled db p)
    (hactive : (c.members j).active = true) (hholder : c.holder = some j) :
    let after := clusterStep P c (.update j true)
    after.TrackedBy nameOf j ∧ ∀ n p, (n, p) ∈ (after.members j).pmd.ovsIntfs →
      ((after.members j).idl.interfaceForUuid p.uuid).isSome = true →
        p.ExactMap (after.db.pmInfo p.uuid) := by
  intro after
  have hstep : after = c.put j false (step P (c.system j) (.update true)) := by
    show c.run P j false (.update (true && decide (c.holder = some j))) = _
    rw [decide_eq_true hholder]
    exact run_of_active hactive ..
  have hpolled : (after.system j).Sound nameOf Polled := by
    have hbefore : (c.system j).Sound nameOf Polled := ⟨h.idl, h.ports.mono fun _ _ _ hp => hp _⟩
    rw [hstep]
    exact sound_put (hbefore.step_polled (e := .update true) rfl nofun)
  have htracked : after.TrackedBy nameOf j := by
    refine ⟨?_, hpolled.idl, hpolled.ports.mono fun _ _ _ => Polled.tracked⟩
    rw [hstep]
    exact hholder
  refine ⟨htracked, fun n p hm hrow => ?_⟩
  refine htracked.exactMap hm (hpolled.ports.port n p hm).polled ?_
  have hsystem : after.system j = step P (c.system j) (.update true) := by
    rw [hstep, system_put_self]
  have hm' : (n, p) ∈ (after.system j).pmd.ovsIntfs := hm
  have hrow' : ((after.system j).idl.interfaceForUuid p.uuid).isSome = true := hrow
  rw [hsystem] at hm' hrow'
  exact changed_update hm' hrow'

end Takeover

/--
**A daemon that takes over sets its rows right.** It is started while others run, gets the lock at
some time, and polls. When the update that follows commits, the row of each of its ports has the
exact map of the port, whatever others have written before, between the poll and the update too.
While it keeps the lock and its updates commit this remains so for each port whose mark is down.
-/
theorem takeover_exact (P : Platform σ) (nameOf : Uuid → String) (c : Cluster κ σ) {j : κ} {idl : Idl}
    (hidl : idl.Named nameOf) {files : Subsystem → YamlFiles}
    (hfiles : YamlFiles.All (fun y => ∃ t, y.IsA t) files) (seqno : Nat)
    {before between tenure : List (ClusterEvent κ σ)}
    (hbefore : ∀ e ∈ before, e.Known nameOf ∧ e.Waits j)
    (hbetween : ∀ e ∈ between, e.actor ≠ some j)
    (htenure : ∀ e ∈ tenure, e.Known nameOf ∧ e.Tenured j) (change : σ → σ) :
    let started := Run.exec (clusterStep P) c (.start j idl seqno files :: before)
    let polled := Run.exec (clusterStep P) started (.readState j change :: between)
    let after := clusterStep P polled (.update j true)
    let last := Run.exec (clusterStep P) after tenure
    (started.members j).active = true → polled.holder = some j →
      (∀ n p, (n, p) ∈ (after.members j).pmd.ovsIntfs →
        ((after.members j).idl.interfaceForUuid p.uuid).isSome = true →
          p.ExactMap (after.db.pmInfo p.uuid)) ∧
      ∀ n p, (n, p) ∈ (last.members j).pmd.ovsIntfs → (p.info .connector).isSome = true →
        p.moduleInfoChanged = false → p.ExactMap (last.db.pmInfo p.uuid) := by
  intro started polled after last hactive hholder
  have hstart : ((clusterStep P c (.start j idl seqno files)).system j).Sound nameOf fun _ =>
      PmPort.Unpolled := sound_put (unpolled_initial hidl hfiles seqno _ _)
  have hstarted : (started.system j).Sound nameOf fun _ => PmPort.Unpolled :=
    unpolled_exec hstart hbefore
  obtain ⟨hactive', hpolled⟩ := polled_exec (P := P) hstarted hactive change hbetween
  obtain ⟨hafter, hrows⟩ := trackedBy_update (P := P) hpolled hactive' hholder
  have hlast : last.TrackedBy nameOf j :=
    Run.exec_invariant (fun _ _ hs he => hs.step he.1 he.2) hafter (Run.along_of_forall htenure)
  exact ⟨hrows, fun n p hm => hlast.exactMap hm⟩

/-- The second daemon takes over, while the first still believes that it has the lock. -/
theorem takeover_exact_onePort :
    let start : Bool → ClusterEvent Bool SimData := fun i => .start i onePortIdl 0 onePortFiles
    let insert : SimData → SimData := fun data => { data with moduleData := some srPage }
    let c := Run.exec (clusterStep simulation) (.unstarted {} emptyDatabase) [start false,
      .acquire false, .idlRun false onePortIdl 0 true, .readState false insert]
    let started := Run.exec (clusterStep simulation) c (start true ::
      [.release, .acquire true, .idlRun true onePortIdl 0 true])
    let polled := Run.exec (clusterStep simulation) started (.readState true id ::
      [.update false true])
    let after := clusterStep simulation polled (.update true true)
    ∃ p, ("1", p) ∈ (after.members true).pmd.ovsIntfs ∧ p.ExactMap (after.db.pmInfo p.uuid) := by
  intro start insert c started polled after
  have hbefore : ∀ e ∈ [ClusterEvent.release, .acquire true, .idlRun true onePortIdl 0 true],
      e.Known (σ := SimData) (fun _ => "1") ∧ e.Waits true := by
    simp [ClusterEvent.Known, ClusterEvent.Waits, named_onePortIdl]
  have hbetween : ∀ e ∈ [ClusterEvent.update (σ := SimData) false true], e.actor ≠ some true := by
    simp [ClusterEvent.actor]
  have htenure : ∀ e ∈ ([] : List (ClusterEvent Bool SimData)),
      e.Known (fun _ => "1") ∧ e.Tenured true := by simp
  have htakeover := takeover_exact simulation (fun _ => "1") c (j := true) named_onePortIdl
    known_onePortFiles 0 hbefore hbetween htenure id
  have hs : Run.exec (clusterStep simulation) c (.start true onePortIdl 0 onePortFiles ::
    [.release, .acquire true, .idlRun true onePortIdl 0 true]) = started := rfl
  have hp : Run.exec (clusterStep simulation) started (.readState true id ::
    [.update false true]) = polled := rfl
  have ha : clusterStep simulation polled (.update true true) = after := rfl
  simp only [hs, hp, ha] at htakeover
  have hactive : (started.members true).active = true := by decide +kernel
  have hholder : polled.holder = some true := by decide +kernel
  have hrows := (htakeover hactive hholder).1
  have hfind : ((after.members true).pmd.ovsIntfs.find "1").any (fun p =>
      ((after.members true).idl.interfaceForUuid p.uuid).isSome) = true := by decide +kernel
  obtain ⟨p, hport, hrow⟩ := (Option.any_eq_true _ _).mp hfind
  have hm := Shash.mem_of_find hport
  exact ⟨p, hm, hrows "1" p hm hrow⟩

/-! ## Rows of the database -/

section Provenance

variable {c : Cluster κ σ} {j : κ} {es : List (ClusterEvent κ σ)} {u : Uuid} {m : Smap}

theorem lived_clusterStep (h : (c.system j).Sound nameOf fun _ => PmPort.Lived P)
    {e : ClusterEvent κ σ} (he : e.Known nameOf) :
    ((clusterStep P c e).system j).Sound nameOf fun _ => PmPort.Lived P := by
  refine sound_clusterStep h (fun _ _ hp => hp) (fun idl seqno files heq => ?_) fun e' hcall => ?_
  · rw [heq] at he
    have hinit := System.Lived.initial (P := P) he.1 he.2 seqno c.world c.db
    exact ⟨hinit.idl, hinit.ports⟩
  · have hlived : (c.system j).Lived P nameOf := ⟨h.idl, h.ports⟩
    have hstep := hlived.step (known_of_call he hcall)
    exact ⟨hstep.idl, hstep.ports⟩

/-- The row has the map that a daemon committed for a port of its own, while it had the lock. -/
def CommittedBy (P : Platform σ) (c : Cluster κ σ) (es : List (ClusterEvent κ σ)) (u : Uuid)
    (m : Smap) : Prop :=
  ∃ pre post j, es = pre ++ .update j true :: post ∧
    (Run.exec (clusterStep P) c pre).holder = some j ∧
      ∃ n p, (n, p) ∈ ((Run.exec (clusterStep P) c pre).members j).pmd.ovsIntfs ∧ p.uuid = u ∧
        p.Lived P ∧ (∃ k, p.HasShape k) ∧ p.ExactMap m

theorem CommittedBy.later (h : CommittedBy P c es u m) (e : ClusterEvent κ σ) :
    CommittedBy P c (es ++ [e]) u m := by
  obtain ⟨pre, post, j, rfl, hport⟩ := h
  exact ⟨pre, post ++ [e], j, by simp, hport⟩

/-- A step leaves a row, or the holder of the lock gives it the map of a port. -/
theorem pmInfo_clusterStep_cases (h : ∀ j, (c.system j).Sound nameOf fun _ => PmPort.Lived P)
    (e : ClusterEvent κ σ) (u : Uuid) :
    (clusterStep P c e).db.pmInfo u = c.db.pmInfo u ∨
      ∃ j n p, e = .update j true ∧ c.holder = some j ∧ (n, p) ∈ (c.members j).pmd.ovsIntfs ∧
        p.uuid = u ∧ p.Lived P ∧ (∃ k, p.HasShape k) ∧
          p.ExactMap ((clusterStep P c e).db.pmInfo u) := by
  by_cases hwrites : ∀ i, e = .update i true → (c.members i).active = true → c.holder ≠ some i
  · rw [db_clusterStep hwrites]
    exact Or.inl rfl
  push Not at hwrites
  obtain ⟨j, rfl, hactive, hholder⟩ := hwrites
  have hdb : (clusterStep P c (.update j true)).db =
      (pmOvsdbUpdate (c.system j).idl true (c.system j).pmd c.db).2 := by
    show (c.run P j false (.update (true && decide (c.holder = some j)))).db = _
    rw [decide_eq_true hholder, run_of_active hactive]
    rfl
  rw [hdb]
  refine (pmInfo_committed_cases (h j).ports (c.system j).idl c.db u).imp id ?_
  rintro ⟨n, p, hm, hu, hdue, hmap⟩
  have hp := (h j).ports.port n p hm
  obtain ⟨t, hinv⟩ := hp.inv
  refine ⟨j, n, p, rfl, hholder, hm, hu, hp, hp.shape_of_marked hdue.2, ?_⟩
  rw [hmap]
  exact hinv.exactMap

end Provenance

/--
**However many daemons there are, no row ever has a map that is not whole or not of a port**: it has
what was there before the first of them, or the exact map of the port that some daemon had for the
row when it committed an update, which it did while it had the lock.
-/
theorem cluster_provenance (P : Platform σ) (nameOf : Uuid → String) (world : σ) (db : Database)
    {es : List (ClusterEvent κ σ)} (hes : ∀ e ∈ es, e.Known nameOf) (u : Uuid) :
    let c : Cluster κ σ := .unstarted world db
    (Run.exec (clusterStep P) c es).db.pmInfo u = db.pmInfo u ∨
      CommittedBy P c es u ((Run.exec (clusterStep P) c es).db.pmInfo u) := by
  intro c
  induction es using List.reverseRecOn with
  | nil => exact Or.inl rfl
  | append_singleton es e ih =>
    have hbefore : ∀ e ∈ es, e.Known nameOf := fun e he => hes e (List.mem_append_left _ he)
    have hrow := ih hbefore
    have hlived : ∀ j, ((Run.exec (clusterStep P) c es).system j).Sound nameOf fun _ =>
        PmPort.Lived P := by
      intro j
      refine Run.exec_invariant (I := fun c : Cluster κ σ => (c.system j).Sound nameOf fun _ =>
        PmPort.Lived P) (fun _ _ hs he => lived_clusterStep hs he) ?_ (Run.along_of_forall hbefore)
      exact ⟨fun _ hm => (List.not_mem_nil hm).elim, List.nodup_nil,
        fun _ _ hm => (List.not_mem_nil hm).elim, fun _ _ hm => (List.not_mem_nil hm).elim,
        fun _ _ hm => (List.not_mem_nil hm).elim, fun _ _ hm => (List.not_mem_nil hm).elim⟩
    rw [Run.exec_append, Run.exec_cons, Run.exec_nil]
    rcases pmInfo_clusterStep_cases hlived e u with hkept | ⟨j, n, p, rfl, hholder, hport⟩
    · rw [hkept]
      exact hrow.imp id fun hcommitted => hcommitted.later e
    · exact Or.inr ⟨es, [], j, rfl, hholder, n, p, hport⟩

/-- The first daemon loses the lock before its update, which is refused, and the second commits. -/
theorem cluster_provenance_onePort :
    let c : Cluster Bool SimData := .unstarted {} emptyDatabase
    let es : List (ClusterEvent Bool SimData) := [.start false onePortIdl 0 onePortFiles,
      .acquire false, .idlRun false onePortIdl 0 true, .readState false id, .release,
      .update false true, .start true onePortIdl 0 onePortFiles, .acquire true,
      .idlRun true onePortIdl 0 true, .readState true id, .update true true]
    (Run.exec (clusterStep simulation) c es).db.pmInfo 1 = emptyDatabase.pmInfo 1 ∨
      CommittedBy simulation c es 1 ((Run.exec (clusterStep simulation) c es).db.pmInfo 1) :=
  cluster_provenance simulation (fun _ => "1") {} emptyDatabase
    (by simp [ClusterEvent.Known, named_onePortIdl, known_onePortFiles]) 1

end OpsPmd
