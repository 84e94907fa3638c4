import OpsPmd.Commit

/-!
# What the database has for a port

The mark of a port is taken down when its map is put into a transaction, before it is known whether
the transaction commits.

* `Tracked`, `Polled` — a port whose mark is down has its map in the database
* `pmInfo_exact` — after an update that follows a poll, if every update commits
* `published_iff_lands` — after every update, exactly in the runs without a lost one
-/

namespace OpsPmd

variable {σ : Type} {P : Platform σ} {t : ModuleType} {db : Database} {idl : Idl}

/-- The row of the port has the map of its columns. -/
def Database.Has (db : Database) (port : PmPort) : Prop := db.pmInfo port.uuid = port.pmInfo

/-! ## Ports and their marks -/

/-- A port whose mark is down has its map in the database, unless it was never polled. -/
structure Tracked (db : Database) (port : PmPort) : Prop where
  known : ∃ t, port.Inv t
  marked : port.info .connector = none ∨ port.moduleInfoChanged = true ∨ db.Has port

/-- A tracked port that was polled. -/
structure Polled (db : Database) (port : PmPort) : Prop where
  known : ∃ t, port.Inv t
  polled : (port.info .connector).isSome = true
  marked : port.moduleInfoChanged = true ∨ db.Has port

theorem Polled.tracked {port : PmPort} (h : Polled db port) : Tracked db port :=
  ⟨h.known, Or.inr h.marked⟩

/-- Every shape has a connector. -/
theorem PmPort.HasShape.connector_isSome {port : PmPort} {k : ShapeKind} (h : port.HasShape k) :
    (port.info .connector).isSome = true := by
  cases k with
  | absent => rw [h.2.1]; rfl
  | unreadable | unrecognized => rw [h.2.2.1]; rfl
  | recognized =>
    obtain ⟨connector, hc, -⟩ := h.2.2.1
    rw [hc]
    rfl

/-- **A poll raises the mark or leaves the map.** The first poll of a port raises it. -/
theorem Tracked.poll {port : PmPort} (h : Tracked db port) (s : σ) :
    (pmReadModuleState P port s).2.1.toPortId = port.toPortId ∧
      Polled db (pmReadModuleState P port s).2.1 := by
  obtain ⟨⟨t, hinv⟩, hmarked⟩ := h
  rw [pmReadModuleState_eq hinv.device hinv.ready]
  have hposs : Possible t port (observation P t port s).1 := observation_possible s
  generalize (observation P t port s).1 = o at hposs ⊢
  obtain ⟨k, hk⟩ := hinv.shape_observe hposs
  have hid := (PmPort.sameSetup_observe hinv.device o).toPortId
  refine ⟨hid, ⟨t, hinv.observe hposs⟩, hk.connector_isSome, ?_⟩
  rcases PmPort.tracks_observe hinv.device o with hup | hcells
  · exact Or.inl hup
  · rcases hmarked with hnone | hup | hhas
    · -- the first poll stores a connector
      have hsome : (port.info .connector).isSome = true := by
        have hget := hk.connector_isSome
        rwa [PmPort.info, hcells] at hget
      rw [hnone] at hsome
      cases hsome
    · exact Or.inl ((congrArg Cells.changed hcells).trans hup)
    · refine Or.inr (Eq.trans (congrArg (fun i : PortId => db.pmInfo i.uuid) hid) ?_)
      exact hhas.trans (PmPort.pmInfo_congr fun c => by rw [hcells])

/-! ## Ports and a committed update -/

theorem PmPort.Inv.settled {port : PmPort} (h : port.Inv t) (idl : Idl) :
    (port.settled idl).Inv t := by
  unfold PmPort.settled
  split
  · exact h.settle
  · exact h

theorem PmPort.info_settled {port : PmPort} (c : InfoColumn) :
    (port.settled idl).info c = port.info c := by
  unfold PmPort.info
  rw [get_settled]

/-- What a committed update has for a port is its map, or what was there. -/
theorem marked_settled {db' : Database} {port : PmPort}
    (hdb : db'.pmInfo port.uuid = if port.Due idl then port.pmInfo else db.pmInfo port.uuid)
    (h : port.moduleInfoChanged = true ∨ db.Has port) :
    (port.settled idl).moduleInfoChanged = true ∨ db'.Has (port.settled idl) := by
  by_cases hdue : port.Due idl
  · right
    unfold Database.Has
    rw [PmPort.settled_toPortId, PmPort.pmInfo_settled, hdb, if_pos hdue]
  · rw [PmPort.settled_of_not_due hdue]
    rw [if_neg hdue] at hdb
    exact h.imp id hdb.trans

variable {nameOf : Uuid → String} {Y : YamlPort → Prop} {d : Pmd σ}

/-- The database after an update that commits. -/
theorem Pmd.Holds.pmInfo_committed {Φ : PmPort → Prop} (h : d.Holds nameOf Y Φ) {n : String}
    {p : PmPort} (hm : (n, p) ∈ d.ovsIntfs) :
    (pmOvsdbUpdate idl true d db).2.pmInfo p.uuid =
      if p.Due idl then p.pmInfo else db.pmInfo p.uuid := by
  rw [h.pmInfo_update hm]
  simp only [true_and]

theorem Pmd.Holds.update_tracked (h : d.Holds nameOf Y (Tracked db)) :
    (pmOvsdbUpdate idl true d db).1.Holds nameOf Y
      (Tracked (pmOvsdbUpdate idl true d db).2) := by
  refine h.update fun n p hm hp => ?_
  obtain ⟨⟨t, hinv⟩, hmarked⟩ := hp
  refine ⟨⟨t, hinv.settled idl⟩, ?_⟩
  rw [PmPort.info_settled]
  exact hmarked.imp id (marked_settled (h.pmInfo_committed hm))

theorem Pmd.Holds.update_polled (h : d.Holds nameOf Y (Polled db)) :
    (pmOvsdbUpdate idl true d db).1.Holds nameOf Y
      (Polled (pmOvsdbUpdate idl true d db).2) := by
  refine h.update fun n p hm hp => ?_
  obtain ⟨⟨t, hinv⟩, hpolled, hmarked⟩ := hp
  refine ⟨⟨t, hinv.settled idl⟩, ?_, marked_settled (h.pmInfo_committed hm) hmarked⟩
  rw [PmPort.info_settled]
  exact hpolled

/-! ## The daemon, while every update commits -/

/-- The events of a daemon whose ports are of the known kinds and whose updates commit. -/
def Event.Proper (nameOf : Uuid → String) : Event σ → Prop
  | .idlRun idl _ => idl.Named nameOf
  | .reconfigure files => YamlFiles.All (fun y => ∃ t, y.IsA t) files
  | .readState _ => True
  | .update committed => committed = true

def Event.IsReconfigure : Event σ → Prop
  | .reconfigure _ => True
  | _ => False

/-- The IDL names its rows, and every port has the property `Φ` of the database. -/
structure System.Sound (nameOf : Uuid → String) (Φ : Database → PmPort → Prop)
    (s : System σ) : Prop where
  idl : s.idl.Named nameOf
  ports : s.pmd.Holds nameOf (fun y => ∃ t, y.IsA t) (Φ s.db)

namespace System.Sound

variable {s : System σ}

theorem initial (hidl : idl.Named nameOf) {files : Subsystem → YamlFiles}
    (hfiles : YamlFiles.All (fun y => ∃ t, y.IsA t) files) (seqno : Nat) (world : σ)
    (db : Database) : (initial P idl seqno files world db).Sound nameOf Tracked where
  idl := hidl
  ports := Pmd.Holds.init
    (fun intf subName _ ⟨t, hy⟩ _ => ⟨⟨t, PmPort.inv_newPort intf subName hy⟩, Or.inl rfl⟩)
    hidl hfiles seqno world

theorem readState (h : s.Sound nameOf Tracked) (change : σ → σ) :
    (step P s (.readState change)).Sound nameOf Polled where
  idl := h.idl
  ports := by
    have hworld : ({ s.pmd with world := change s.pmd.world } : Pmd σ).Holds nameOf
        (fun y => ∃ t, y.IsA t) (Tracked s.db) := h.ports.congr rfl rfl
    exact hworld.readState fun _ _ w _ hp => hp.poll w

/-- **Every proper step keeps the ports tracked.** -/
theorem step_tracked (h : s.Sound nameOf Tracked) {e : Event σ} (he : e.Proper nameOf) :
    (step P s e).Sound nameOf Tracked := by
  cases e with
  | idlRun idl seqno => exact ⟨he, h.ports⟩
  | reconfigure files =>
    refine ⟨h.idl, h.ports.reconfigure ?_ ?_ h.idl he s.seqno⟩
    · rintro intf subName y ⟨t, hy⟩ -
      exact ⟨⟨t, PmPort.inv_newPort intf subName hy⟩, Or.inl rfl⟩
    · rintro p hwEnable ⟨⟨t, hinv⟩, hmarked⟩
      exact ⟨⟨t, hinv.configure hwEnable⟩, hmarked⟩
  | readState change =>
    have hpolled := h.readState (P := P) change
    exact ⟨hpolled.idl, hpolled.ports.mono fun _ _ _ => Polled.tracked⟩
  | update committed =>
    obtain rfl : committed = true := he
    exact ⟨h.idl, h.ports.update_tracked⟩

/-- No step but a reconfiguration brings in a port that was not polled. -/
theorem step_polled (h : s.Sound nameOf Polled) {e : Event σ} (he : e.Proper nameOf)
    (hne : ¬e.IsReconfigure) : (step P s e).Sound nameOf Polled := by
  cases e with
  | idlRun idl seqno => exact ⟨he, h.ports⟩
  | reconfigure files => exact absurd trivial hne
  | readState change =>
    have htracked : s.Sound nameOf Tracked :=
      ⟨h.idl, h.ports.mono fun _ _ _ => Polled.tracked⟩
    exact htracked.readState change
  | update committed =>
    obtain rfl : committed = true := he
    exact ⟨h.idl, h.ports.update_polled⟩

end System.Sound

/-! ## Exact publication -/

/-- The columns that are published: all but the raw pages. -/
def Column.Published (c : Column) : Prop := c ≠ .info .a0 ∧ c ≠ .info .a2 ∧ c ≠ .info .a0Uppers

/-- The map has each published column that is not null under its name, and nothing else. -/
structure PmPort.ExactMap (port : PmPort) (pmInfo : Smap) : Prop where
  unique : pmInfo.Unique
  keys : ∀ k ∈ pmInfo.keys, ∃ c : Column, c.Published ∧ k = c.name
  find : ∀ c : Column, c.Published → pmInfo.find c.name = port.cells.get c

theorem PmPort.Inv.exactMap {port : PmPort} (h : port.Inv t) : port.ExactMap port.pmInfo where
  unique := port.unique_pmInfo
  keys k hk := by
    obtain ⟨⟨_, v⟩, hmem, rfl⟩ := List.mem_map.mp hk
    obtain ⟨c, hc, hname, -⟩ := exists_of_mem_pmInfo hmem
    exact ⟨c, mem_publishedColumns.mp hc, hname⟩
  find _ hc := h.paired.find_pmInfo (mem_publishedColumns.mpr hc)

/-- The calls of `smap_add` for the port give no key twice and no null value. -/
def PmPort.CleanAdds (port : PmPort) : Prop :=
  (port.smapAdds.map Prod.fst).Nodup ∧ ∀ add ∈ port.smapAdds, add.2.isSome = true

theorem PmPort.Inv.cleanAdds {port : PmPort} (h : port.Inv t) : port.CleanAdds :=
  ⟨port.keys_smapAdds_nodup, h.paired.smapAdds_isSome⟩

/--
**If every update commits, then after an update that follows a poll the row of every port has
exactly the map of its columns.** The names of interface rows are immutable, the ports of the known
kinds; between the poll and the update the ports are not reconfigured.
-/
theorem pmInfo_exact (P : Platform σ) (nameOf : Uuid → String) {idl : Idl}
    (hidl : idl.Named nameOf) {files : Subsystem → YamlFiles}
    (hfiles : YamlFiles.All (fun y => ∃ t, y.IsA t) files) (seqno : Nat) (world : σ) (db : Database)
    (pre mid : List (Event σ)) (change : σ → σ) (hpre : ∀ e ∈ pre, e.Proper nameOf)
    (hmid : ∀ e ∈ mid, e.Proper nameOf ∧ ¬e.IsReconfigure) :
    let s := Run.exec (step P) (initial P idl seqno files world db) (pre ++ .readState change :: mid)
    let after := step P s (.update true)
    (∀ n p, (n, p) ∈ s.pmd.ovsIntfs → p.CleanAdds) ∧
      ∀ n p, (n, p) ∈ after.pmd.ovsIntfs → (after.idl.interfaceForUuid p.uuid).isSome = true →
        p.ExactMap (after.db.pmInfo p.uuid) := by
  intro s after
  -- up to the poll the marks are right, from it on every port has been polled
  have htracked : (Run.exec (step P) (initial P idl seqno files world db) pre).Sound nameOf
      Tracked :=
    Run.exec_invariant (fun _ _ hs he => hs.step_tracked he)
      (System.Sound.initial hidl hfiles seqno world db) (Run.along_of_forall hpre)
  have hpolled : s.Sound nameOf Polled := by
    show (Run.exec (step P) _ (pre ++ .readState change :: mid)).Sound nameOf Polled
    rw [Run.exec_append, Run.exec_cons]
    exact Run.exec_invariant (fun _ _ hs he => hs.step_polled he.1 he.2)
      (htracked.readState change) (Run.along_of_forall hmid)
  refine ⟨fun n p hm => ?_, fun n p' hm hrow => ?_⟩
  · obtain ⟨⟨t, hinv⟩, -, -⟩ := hpolled.ports.port n p hm
    exact hinv.cleanAdds
  · have hpub : after.Sound nameOf Polled := ⟨hpolled.idl, hpolled.ports.update_polled⟩
    obtain ⟨⟨t, hinv⟩, -, hmarked⟩ := hpub.ports.port n p' hm
    have hmem : (n, p') ∈ (pmOvsdbUpdate s.idl true s.pmd s.db).1.ovsIntfs := hm
    obtain ⟨p, -, rfl⟩ := mem_ovsIntfs_update.mp hmem
    rw [PmPort.settled_toPortId] at hrow
    have hdown : (p.settled s.idl).moduleInfoChanged = false := PmPort.changed_settled hrow
    have hhas : after.db.Has (p.settled s.idl) := by
      refine hmarked.resolve_left fun hup => ?_
      rw [hdown] at hup
      cases hup
    rw [hhas]
    exact hinv.exactMap

/-- The daemon starts, polls and updates, and a module is put in before the next poll. -/
theorem pmInfo_exact_onePort :
    let pre : List (Event SimData) := [.reconfigure onePortFiles, .readState id, .update true]
    let change : SimData → SimData := fun d => { d with moduleData := some srPage }
    let s := Run.exec (step simulation)
      (initial simulation onePortIdl 0 onePortFiles {} emptyDatabase) (pre ++ .readState change :: [])
    let after := step simulation s (.update true)
    (∀ n p, (n, p) ∈ s.pmd.ovsIntfs → p.CleanAdds) ∧
      ∀ n p, (n, p) ∈ after.pmd.ovsIntfs → (after.idl.interfaceForUuid p.uuid).isSome = true →
        p.ExactMap (after.db.pmInfo p.uuid) := by
  intro pre change
  have hpre : ∀ e ∈ pre, e.Proper fun _ => "1" := by
    intro e he
    simp only [pre, List.mem_cons, List.not_mem_nil, or_false] at he
    rcases he with rfl | rfl | rfl
    · exact known_onePortFiles
    · trivial
    · rfl
  exact pmInfo_exact simulation (fun _ => "1") named_onePortIdl known_onePortFiles 0 {}
    emptyDatabase pre [] change hpre (by simp)

/-! ## Updates that may fail -/

/-- A poll of all ports, or an update. -/
inductive PublishEvent (σ : Type)
  | readState (change : σ → σ)
  | update (committed : Bool)

def PublishEvent.toEvent : PublishEvent σ → Event σ
  | .readState change => .readState change
  | .update committed => .update committed

def publishStep (P : Platform σ) (s : System σ) (e : PublishEvent σ) : System σ :=
  step P s e.toEvent

/--
After an update a port with its mark down has its map in its row, if it has one, and the daemon's
row has its `cur_hw` if `cur_hw_set` says so.
-/
def Published (P : Platform σ) (s : System σ) : PublishEvent σ → Prop
  | .readState _ => True
  | .update committed =>
    let after := publishStep P s (.update committed)
    (∀ n p, (n, p) ∈ after.pmd.ovsIntfs → p.moduleInfoChanged = false →
      (after.idl.interfaceForUuid p.uuid).isSome = true → after.db.Has p) ∧
    (after.pmd.curHwSet = true →
      ∀ row, after.idl.daemonRow = some row → after.db.curHw row.uuid = some 1)

/--
The update commits, or the database already has all that it writes. A port that was never polled has
nothing in its row.
-/
def Lands (s : System σ) : PublishEvent σ → Prop
  | .readState _ => True
  | .update committed =>
    (committed = true ∨
      (∀ n p, (n, p) ∈ s.pmd.ovsIntfs → p.Due s.idl → s.db.Has p) ∧
      (s.pmd.curHwSet = false →
        ∀ row, s.idl.daemonRow = some row → s.db.curHw row.uuid = some 1)) ∧
    ∀ n p, (n, p) ∈ s.pmd.ovsIntfs → (s.idl.interfaceForUuid p.uuid).isSome = true →
      p.info .connector = none → p.moduleInfoChanged = false → s.db.Has p

/-- The port is of no known kind, and `pm_read_module_state` returns at once. -/
def PmPort.Unread (port : PmPort) : Prop :=
  ∀ t : ModuleType, port.moduleDevice.connector ≠ some t.connector

theorem PmPort.Unread.poll {port : PmPort} (h : port.Unread) (s : σ) :
    (pmReadModuleState P port s).2.1 = port := by
  have hkind : ∀ t : ModuleType, port.moduleDevice.hasConnector t.connector = false :=
    fun t => beq_eq_false_iff_ne.mpr (h t)
  have hsfp : port.moduleDevice.hasConnector CONNECTOR_SFP_PLUS = false := hkind .sfpPlus
  have hqsfp : port.moduleDevice.hasConnector CONNECTOR_QSFP_PLUS = false := hkind .qsfpPlus
  have hqsfp28 : port.moduleDevice.hasConnector CONNECTOR_QSFP28 = false := hkind .qsfp28
  rw [pmReadModuleState, hsfp, hqsfp, hqsfp28]
  rfl

/-- What `ovsdb_if_intf_create` makes of a pluggable YAML port. -/
theorem inv_or_unread_newPort (intf : Interface) (subName : String) {yamlPort : YamlPort}
    (hplug : yamlPort.pluggable = true) :
    (∃ t, (newPort intf subName yamlPort).Inv t) ∨ (newPort intf subName yamlPort).Unread := by
  by_cases hknown : ∃ t : ModuleType, yamlPort.connector = some t.connector
  · obtain ⟨t, ht⟩ := hknown
    exact Or.inl ⟨t, PmPort.inv_newPort intf subName ⟨hplug, ht⟩⟩
  · exact Or.inr fun t ht => hknown ⟨t, ht⟩

/-- A port of any kind whose mark is down has its map in the database, or was never polled. -/
structure Marked (db : Database) (port : PmPort) : Prop where
  kind : (∃ t, port.Inv t) ∨ port.Unread
  marked : port.info .connector = none ∨ port.moduleInfoChanged = true ∨ db.Has port

theorem Marked.poll {port : PmPort} (h : Marked db port) (s : σ) :
    (pmReadModuleState P port s).2.1.toPortId = port.toPortId ∧
      Marked db (pmReadModuleState P port s).2.1 := by
  rcases h.kind with hknown | hunread
  · obtain ⟨hid, hpolled⟩ := (Tracked.mk hknown h.marked).poll (P := P) s
    exact ⟨hid, Or.inl hpolled.known, Or.inr hpolled.marked⟩
  · rw [hunread.poll]
    exact ⟨rfl, h⟩

/-- No update was lost so far. -/
structure System.Synced (nameOf : Uuid → String) (s : System σ) : Prop where
  ports : s.pmd.Holds nameOf (fun _ => True) (Marked s.db)
  curHw : s.pmd.curHwSet = true →
    ∀ row, s.idl.daemonRow = some row → s.db.curHw row.uuid = some 1

namespace System.Synced

variable {s : System σ} {committed : Bool}

theorem mem_ports_update {n : String} {p' : PmPort} :
    (n, p') ∈ (publishStep P s (.update committed)).pmd.ovsIntfs ↔
      ∃ p, (n, p) ∈ s.pmd.ovsIntfs ∧ p' = p.settled s.idl := by
  show (n, p') ∈ (pmOvsdbUpdate s.idl committed s.pmd s.db).1.ovsIntfs ↔ _
  exact mem_ovsIntfs_update

/-- The database has a port after an update if the update wrote it, or if it had it before. -/
theorem has_update_iff (h : s.Synced nameOf) {n : String} {p : PmPort}
    (hm : (n, p) ∈ s.pmd.ovsIntfs) :
    (publishStep P s (.update committed)).db.Has (p.settled s.idl) ↔
      (committed = true ∧ p.Due s.idl) ∨ s.db.Has p := by
  have hdb : (publishStep P s (.update committed)).db.pmInfo p.uuid = _ :=
    h.ports.pmInfo_update hm
  unfold Database.Has
  rw [PmPort.settled_toPortId, PmPort.pmInfo_settled, hdb]
  split
  · next hboth => exact iff_of_true rfl (Or.inl hboth)
  · next hneither => exact (or_iff_right hneither).symm

/-- Whether an update is published, in terms of the state before it. -/
theorem published_update_iff (h : s.Synced nameOf) :
    Published P s (.update committed) ↔
      (∀ n p, (n, p) ∈ s.pmd.ovsIntfs → (s.idl.interfaceForUuid p.uuid).isSome = true →
        (committed = true ∧ p.Due s.idl) ∨ s.db.Has p) ∧
      ∀ row, s.idl.daemonRow = some row →
        (committed = true ∧ s.pmd.curHwSet = false) ∨ s.db.curHw row.uuid = some 1 := by
  have hset : (publishStep P s (.update committed)).pmd.curHwSet =
      (s.pmd.curHwSet || s.idl.daemonRow.isSome) := by
    show (pmOvsdbUpdate s.idl committed s.pmd s.db).1.curHwSet = _
    rw [curHwSet_update]
  -- ports and `cur_hw` are written by the same transaction, but do not meet in it
  refine and_congr ⟨fun hall n p hm hrow => ?_, fun hall n p' hm _ hrow => ?_⟩
    ⟨fun hall row hrow => ?_, fun hall _ row hrow => ?_⟩
  · refine (h.has_update_iff hm).mp (hall n _ (mem_ports_update.mpr ⟨p, hm, rfl⟩)
      (PmPort.changed_settled hrow) ?_)
    rw [PmPort.settled_toPortId]
    exact hrow
  · obtain ⟨p, hp, rfl⟩ := mem_ports_update.mp hm
    rw [PmPort.settled_toPortId] at hrow
    exact (h.has_update_iff hp).mpr (hall n p hp hrow)
  · have hcur := hall (by simp [hset, hrow]) row hrow
    have hdb : (publishStep P s (.update committed)).db.curHw row.uuid = _ := curHw_update hrow
    rw [hdb] at hcur
    split at hcur
    · next hboth => exact Or.inl hboth
    · exact Or.inr hcur
  · refine (curHw_update hrow).trans ?_
    rcases hall row hrow with hboth | hcur
    · rw [if_pos hboth]
    · rw [hcur, ite_self]

/-- The step lemma: an update is published exactly where it lands. -/
theorem published_iff (h : s.Synced nameOf) (e : PublishEvent σ) :
    Published P s e ↔ Lands s e := by
  cases e with
  | readState change => exact Iff.rfl
  | update committed =>
    rw [h.published_update_iff]
    constructor
    · rintro ⟨hports, hcur⟩
      refine ⟨?_, fun n p hm hrow _ hdown => ?_⟩
      · cases committed with
        | true => exact Or.inl rfl
        | false =>
          refine Or.inr ⟨fun n p hm hdue => ?_, fun _ row hrow => ?_⟩
          · exact (hports n p hm hdue.1).resolve_left fun hboth => by cases hboth.1
          · exact (hcur row hrow).resolve_left fun hboth => by cases hboth.1
      · refine (hports n p hm hrow).resolve_left fun hboth => ?_
        have hup : p.moduleInfoChanged = true := hboth.2.2
        rw [hdown] at hup
        cases hup
    · rintro ⟨hlands, hunpolled⟩
      refine ⟨fun n p hm hrow => ?_, fun row hrow => ?_⟩
      · by_cases hdue : p.Due s.idl
        · exact hlands.imp (fun hc => ⟨hc, hdue⟩) fun hhas => hhas.1 n p hm hdue
        · -- a port that is not due has its mark down
          have hdown : p.moduleInfoChanged = false := by simpa [PmPort.Due, hrow] using hdue
          rcases (h.ports.port n p hm).marked with hnone | hup | hhas
          · exact Or.inr (hunpolled n p hm hrow hnone hdown)
          · rw [hdown] at hup
            cases hup
          · exact Or.inr hhas
      · cases hset : s.pmd.curHwSet with
        | true => exact Or.inr (h.curHw hset row hrow)
        | false => exact hlands.imp (fun hc => ⟨hc, rfl⟩) fun hhas => hhas.2 hset row hrow

/-- A poll, or an update that lands, loses nothing. -/
theorem step (h : s.Synced nameOf) {e : PublishEvent σ} (he : Lands s e) :
    (publishStep P s e).Synced nameOf := by
  have hpub := (h.published_iff (P := P) e).mpr he
  cases e with
  | readState change =>
    have hworld : ({ s.pmd with world := change s.pmd.world } : Pmd σ).Holds nameOf
        (fun _ => True) (Marked s.db) := h.ports.congr rfl rfl
    exact ⟨hworld.readState (P := P) fun _ _ w _ hp => hp.poll w, h.curHw⟩
  | update committed =>
    have hports : (pmOvsdbUpdate s.idl committed s.pmd s.db).1.Holds nameOf (fun _ => True)
        (Marked (publishStep P s (.update committed)).db) := by
      refine h.ports.update fun n p hm hp => ?_
      obtain ⟨hkind, hmarked⟩ := hp
      refine ⟨hkind.imp (fun ⟨t, hinv⟩ => ⟨t, hinv.settled s.idl⟩) fun hunread t => ?_, ?_⟩
      · rw [PmPort.settled_toPortId]
        exact hunread t
      rw [PmPort.info_settled, h.has_update_iff hm]
      by_cases hdue : p.Due s.idl
      -- the mark was taken down, so the map must have reached the database
      · have hhas := (h.published_update_iff.mp hpub).1 n p hm hdue.1
        exact Or.inr (Or.inr hhas)
      · rw [PmPort.settled_of_not_due hdue]
        exact hmarked.imp id (Or.imp id Or.inr)
    exact ⟨hports, hpub.2⟩

end System.Synced

/--
**In a run of polls and updates of fresh ports, the database has every port whose mark is down after
every update if and only if every update lands.** The ports are of any kind, known or not.
-/
theorem published_iff_lands (P : Platform σ) (nameOf : Uuid → String) {s : System σ}
    (hports : s.pmd.Holds nameOf (fun _ => True) fun p =>
      p.Blank ∧ ((∃ t, p.Inv t) ∨ p.Unread))
    (hset : s.pmd.curHwSet = false) (es : List (PublishEvent σ)) :
    Run.Along (publishStep P) (Published P) s es ↔ Run.Along (publishStep P) Lands s es := by
  refine Run.along_iff_of_invariant (I := System.Synced nameOf) (fun _ _ hs he => hs.step he)
    (fun _ e hs => hs.published_iff e) ⟨hports.mono fun _ p _ hp => ?_, fun hup => ?_⟩
  · exact ⟨hp.2, Or.inl (hp.1.2 .connector)⟩
  · rw [hset] at hup
    cases hup

/-- The ports of the daemon after `pm_ovsdb_if_init`, on the simulated platform without a module. -/
def onePortSystem : System SimData := initial simulation onePortIdl 0 onePortFiles {} emptyDatabase

/-- The daemon polls, and its first update fails and the second commits. -/
theorem published_iff_lands_onePort :
    let es := [.readState id, .update false, .readState id, .update true]
    Run.Along (publishStep simulation) (Published simulation) onePortSystem es ↔
      Run.Along (publishStep simulation) Lands onePortSystem es := by
  have hports : onePortSystem.pmd.Holds (fun _ => "1") (fun _ => True) fun p =>
      p.Blank ∧ ((∃ t, p.Inv t) ∨ p.Unread) := by
    show (pmOvsdbIfInit simulation onePortIdl 0 onePortFiles {}).Holds _ _ _
    refine Pmd.Holds.init (fun intf subName y _ hplug => ?_) named_onePortIdl
      (fun _ _ _ _ => trivial) 0 _
    exact ⟨PmPort.blank_newPort intf subName y, inv_or_unread_newPort intf subName hplug⟩
  exact published_iff_lands simulation (fun _ => "1") hports rfl _

/-- The first update fails: the mark of the port is down, and its row is empty. -/
theorem failed_update_is_lost :
    ¬Run.Along (publishStep simulation) (Published simulation) onePortSystem
      [.readState id, .update false] := by
  intro hall
  have hpub := hall.2.1.1
  let after := Run.exec (publishStep simulation) onePortSystem [.readState id, .update false]
  have hport : (after.pmd.ovsIntfs.find "1").map (fun p => (p.moduleInfoChanged,
      (after.idl.interfaceForUuid p.uuid).isSome, after.db.pmInfo p.uuid == p.pmInfo)) =
        some (false, true, false) := by decide +kernel
  obtain ⟨p, hfind, hp⟩ := Option.map_eq_some_iff.mp hport
  obtain ⟨hdown, hrow, hdiffers⟩ : p.moduleInfoChanged = false ∧
      (after.idl.interfaceForUuid p.uuid).isSome = true ∧
      (after.db.pmInfo p.uuid == p.pmInfo) = false := by simpa using hp
  have hhas : after.db.pmInfo p.uuid = p.pmInfo :=
    hpub "1" p (Shash.mem_of_find hfind) hdown hrow
  rw [hhas, beq_self_eq_true] at hdiffers
  cases hdiffers

end OpsPmd
