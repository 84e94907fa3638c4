import OpsPmd.Ghost
import OpsPmd.Properties.Reconcile

/-!
# Failed writes of `hw_enable`

`ovsdb_if_intf_modify` notes the new `hw_enable` before it calls `pm_configure_port`, which returns
nothing: it logs a failed write. The noted value is then all that the next call compares with.

* `watched` — the hardware build with a log of its enable and disable writes
* `Keyed` — what holds of the ports in every state, whatever the rows are named
* `log_modifyInterfaces` — what the loop over the interface rows writes for a port
* `failed_write_repeated_iff` — when a run writes again after each failed write
-/

namespace OpsPmd

/-! ## A log of the writes -/

/-- A write of `pm_configure_port` for a port, with what the bus returned. -/
structure EnableWrite where
  instanceName : String
  uuid : Uuid
  rc : Int
  deriving DecidableEq, Repr

/-- The bus with the writes so far. -/
abbrev Watch := Bus × List EnableWrite

/-- What `pm_configure_port` writes. -/
def enableWrites (port : PmPort) (bus : Bus) : List EnableWrite :=
  ((pmConfigurePort port bus).trace.drop bus.trace.length).map fun entry =>
    { instanceName := port.instanceName, uuid := port.uuid, rc := entry.2.rc }

/-- The hardware build with a log of what `pm_configure_port` writes. -/
def watched : Platform Watch where
  getPresence port w := (pmGetPresence port w.1).map id (·, w.2)
  readA0 port offset w := (pmReadA0 port offset w.1).map id (·, w.2)
  readA2 port w := (pmReadA2 port w.1).map id (·, w.2)
  resetPort port w := (pmResetPort port w.1, w.2)
  clearReset port w := (pmClearReset port w.1, w.2)
  configurePort port w := (pmConfigurePort port w.1, w.2 ++ enableWrites port w.1)

theorem over_watched : watched.Over hardware Prod.fst :=
  ⟨fun _ _ => rfl, fun _ _ _ => rfl, fun _ _ => rfl, fun _ _ => rfl, fun _ _ => rfl, fun _ _ => rfl⟩

/-- The bus changes by itself, the log does not. -/
def changeBus (change : Bus → Bus) (w : Watch) : Watch := (change w.1, w.2)

/-- **Without its log, a watched run is a run of the hardware build.** -/
theorem exec_watched (idl : Idl) (seqno : Nat) (files : Subsystem → YamlFiles) (bus : Bus)
    (db : Database) (es : List (Event Bus)) :
    Run.exec (step hardware) (initial hardware idl seqno files bus db) es =
      (Run.exec (step watched) (initial watched idl seqno files (bus, []) db)
        (es.map (Event.lift changeBus))).mapWorld Prod.fst := by
  have hinit : initial hardware idl seqno files bus db =
      (initial watched idl seqno files (bus, []) db).mapWorld Prod.fst := by
    show ({ idl, seqno, pmd := pmOvsdbIfInit hardware idl seqno files bus, db } : System Bus) = _
    rw [show bus = Prod.fst ((bus, []) : Watch) from rfl, pmOvsdbIfInit_over over_watched]
    rfl
  rw [hinit]
  exact exec_over over_watched (fun _ _ => rfl) es _

/-! ## Writes of a port -/

/--
`pm_configure_port` has something to write to: a present optical module in a QSFP port, and the
signal in any other.
-/
def PmPort.Controllable (port : PmPort) : Prop :=
  if port.moduleDevice.hasConnector CONNECTOR_QSFP_PLUS ||
      port.moduleDevice.hasConnector CONNECTOR_QSFP28 then
    port.present = true ∧ port.optical = true
  else (port.moduleDevice.signals .sfppTxDisable).isSome = true

/-- The write is one for the port. -/
def EnableWrite.Of (write : EnableWrite) (port : PmPort) : Prop :=
  write.instanceName = port.instanceName ∧ write.uuid = port.uuid

instance (write : EnableWrite) (port : PmPort) : Decidable (write.Of port) :=
  inferInstanceAs (Decidable (_ ∧ _))

/-- The last write for the port. -/
def lastWrite (port : PmPort) (log : List EnableWrite) : Option EnableWrite :=
  (log.filter fun write => write.Of port).getLast?

theorem of_mem_enableWrites {port : PmPort} {bus : Bus} {write : EnableWrite}
    (h : write ∈ enableWrites port bus) : write.Of port := by
  obtain ⟨entry, -, rfl⟩ := List.mem_map.mp h
  exact ⟨rfl, rfl⟩

/-- A controllable port is written to. -/
theorem PmPort.Controllable.exists_write {port : PmPort} (h : port.Controllable) (bus : Bus) :
    ∃ write ∈ enableWrites port bus, write.Of port := by
  suffices hne : enableWrites port bus ≠ [] by
    obtain ⟨write, hm⟩ := List.exists_mem_of_ne_nil _ hne
    exact ⟨write, hm, of_mem_enableWrites hm⟩
  unfold Controllable at h
  unfold enableWrites pmConfigurePort
  by_cases hqsfp : (port.moduleDevice.hasConnector CONNECTOR_QSFP_PLUS ||
      port.moduleDevice.hasConnector CONNECTOR_QSFP28) = true
  · rw [if_pos hqsfp] at h ⊢
    simp [pmConfigureQsfp, h.1, h.2, Bus.ask]
  · rw [if_neg hqsfp] at h ⊢
    obtain ⟨regOp, hs⟩ := Option.isSome_iff_exists.mp h
    simp [hs, Bus.ask]

/-! ## The ports in every state -/

/-- Each port is known under its own name, and polls leave its identity alone. -/
structure Keyed (ports : Shash String PmPort) : Prop where
  unique : ports.Unique
  key : ∀ n p, (n, p) ∈ ports → p.instanceName = n
  plain : ∀ n p, (n, p) ∈ ports → p.Plain

namespace Keyed

variable {σ : Type} {P : Platform σ} {ports : Shash String PmPort} {idl : Idl} {d : Pmd σ}

theorem nil : Keyed [] :=
  ⟨List.nodup_nil, fun _ _ hm => (List.not_mem_nil hm).elim,
    fun _ _ hm => (List.not_mem_nil hm).elim⟩

/-- Ports that come each from one of the same name, with the same identity. -/
theorem of_same {ports' : Shash String PmPort} (h : Keyed ports) (hunique : ports'.Unique)
    (hfrom : ∀ n p', (n, p') ∈ ports' → ∃ p, (n, p) ∈ ports ∧ p'.toPortId = p.toPortId ∧
      p'.a2ReadRequested = p.a2ReadRequested) : Keyed ports' := by
  refine ⟨hunique, fun n p' hm => ?_, fun n p' hm => ?_⟩
  · obtain ⟨p, hp, hid, -⟩ := hfrom n p' hm
    rw [hid]
    exact h.key n p hp
  · obtain ⟨p, hp, hid, ha2⟩ := hfrom n p' hm
    obtain ⟨hplug, hready⟩ := h.plain n p hp
    refine ⟨?_, ha2.trans hready⟩
    rw [hid]
    exact hplug

theorem ovsIntfs_deleteInterfaces (h : Keyed d.ovsIntfs) (idl : Idl) :
    (deleteInterfaces idl d).ovsIntfs =
      d.ovsIntfs.filter fun node => (idl.interfaceForUuid node.2.uuid).isSome :=
  h.unique.deleteAll_eq_filter fun node hm => h.key node.1 node.2 hm

theorem find_deleteInterfaces (h : Keyed d.ovsIntfs) (idl : Idl) (n : String) :
    (deleteInterfaces idl d).ovsIntfs.find n =
      (d.ovsIntfs.find n).filter fun p => (idl.interfaceForUuid p.uuid).isSome :=
  h.unique.find_deleteAll fun node hm => h.key node.1 node.2 hm

theorem deleteInterfaces (h : Keyed d.ovsIntfs) (idl : Idl) :
    Keyed (deleteInterfaces idl d).ovsIntfs := by
  rw [h.ovsIntfs_deleteInterfaces idl]
  exact h.of_same (h.unique.filter _) fun n p hm => ⟨p, List.mem_of_mem_filter hm, rfl, rfl⟩

theorem create (h : Keyed d.ovsIntfs) {intf : Interface}
    (hfree : d.ovsIntfs.find intf.name = none) (subName : String) :
    Keyed (ovsdbIfIntfCreate P intf subName d).ovsIntfs := by
  rw [(ovsIntfs_ovsdbIfIntfCreate intf subName d).2.2]
  cases pmGetYamlPort d.yaml subName intf.name with
  | none => exact h
  | some y =>
    dsimp only
    split
    next hplug =>
      refine ⟨h.unique.add hfree, fun n p hm => ?_, fun n p hm => ?_⟩
      · rcases List.mem_cons.mp hm with heq | hm
        · obtain ⟨rfl, rfl⟩ := Prod.mk.inj heq
          rfl
        · exact h.key n p hm
      · rcases List.mem_cons.mp hm with heq | hm
        · obtain ⟨rfl, rfl⟩ := Prod.mk.inj heq
          exact ⟨hplug, rfl⟩
        · exact h.plain n p hm
    next => exact h

theorem createInterfaces (h : Keyed d.ovsIntfs) (subName : String) (intfs : List Interface) :
    Keyed (createInterfaces P subName intfs d).ovsIntfs := by
  refine List.foldlRecOn (motive := fun d : Pmd σ => Keyed d.ovsIntfs) intfs _ h
    fun d hd intf _ => ?_
  cases hfind : d.ovsIntfs.find intf.name with
  | none => exact hd.create hfind subName
  | some _ => exact hd

theorem subsysProcess (h : Keyed d.ovsIntfs) (files : Subsystem → YamlFiles) (sub : Subsystem) :
    Keyed (ovsdbIfSubsysProcess P idl files d sub).ovsIntfs := by
  unfold ovsdbIfSubsysProcess
  cases d.ovsSubs.find sub.name with
  | some _ => exact h.createInterfaces sub.name _
  | none =>
    dsimp only
    split
    · exact h
    · exact Keyed.createInterfaces (d := { d with
        ovsSubs := d.ovsSubs.add sub.name sub.uuid
        yaml := Function.update d.yaml sub.name (files sub).ports }) h sub.name _

theorem subsystems (h : Keyed d.ovsIntfs) (files : Subsystem → YamlFiles)
    (subs : List Subsystem) :
    Keyed (subs.foldl (ovsdbIfSubsysProcess P idl files) d).ovsIntfs :=
  List.foldlRecOn (motive := fun d : Pmd σ => Keyed d.ovsIntfs) subs _ h
    fun _ hd sub _ => hd.subsysProcess files sub

theorem modifyInterface (h : Keyed d.ovsIntfs) (intf : Interface) :
    Keyed (modifyInterface P d intf).ovsIntfs := by
  cases hfind : d.ovsIntfs.find intf.name with
  | none =>
    rw [Pmd.Holds.modifyInterface_of_none hfind]
    exact h
  | some q =>
    rw [Pmd.Holds.modifyInterface_of_find hfind]
    refine h.of_same h.unique.set fun n p' hm => ?_
    rcases h.unique.mem_set hfind hm with ⟨rfl, rfl⟩ | hm
    · exact ⟨q, Shash.mem_of_find hfind, rfl, rfl⟩
    · exact ⟨p', hm, rfl, rfl⟩

theorem reconfigure (h : Keyed d.ovsIntfs) (idl : Idl) (seqno : Nat)
    (files : Subsystem → YamlFiles) : Keyed (pmdReconfigure P idl seqno files d).ovsIntfs := by
  unfold pmdReconfigure
  split
  · exact h
  · have hdel : Keyed (deleteSubsystems idl (OpsPmd.deleteInterfaces idl
        { d with idlSeqno := seqno })).ovsIntfs :=
      Keyed.deleteInterfaces (d := { d with idlSeqno := seqno }) h idl
    exact List.foldlRecOn (motive := fun d : Pmd σ => Keyed d.ovsIntfs) idl.interfaces _
      (hdel.subsystems files idl.subsystems) fun _ hd intf _ => hd.modifyInterface intf

theorem init (idl : Idl) (seqno : Nat) (files : Subsystem → YamlFiles) (s : σ) :
    Keyed (pmOvsdbIfInit P idl seqno files s).ovsIntfs := by
  have hsubs : Keyed (idl.subsystems.foldl (ovsdbIfSubsysProcess P idl files)
      { idlSeqno := seqno, world := s }).ovsIntfs :=
    Keyed.subsystems (d := { idlSeqno := seqno, world := s }) nil files idl.subsystems
  unfold pmOvsdbIfInit pmdConfigure
  rw [(ovsIntfs_ovsdbIfIntfConfigure idl.interfaces _).2]
  exact hsubs

theorem readState (h : Keyed d.ovsIntfs) : Keyed (pmReadState P d).ovsIntfs := by
  refine h.of_same (h.unique.mapAccum _ _) fun n p' hm => ?_
  obtain ⟨p, s, hp, rfl⟩ := Shash.mem_mapAccum hm
  have hsame := sameSetup_pmReadModuleState (P := P) (h.plain n p hp).1 (h.plain n p hp).2 s
  exact ⟨p, hp, hsame.toPortId, hsame.a2ReadRequested⟩

theorem update (h : Keyed d.ovsIntfs) (committed : Bool) (db : Database) :
    Keyed (pmOvsdbUpdate idl committed d db).1.ovsIntfs := by
  refine h.of_same (unique_update h.unique) fun n p' hm => ?_
  obtain ⟨p, hp, rfl⟩ := mem_ovsIntfs_update.mp hm
  refine ⟨p, hp, PmPort.settled_toPortId, ?_⟩
  unfold PmPort.settled
  split <;> rfl

/-- **The ports are keyed in every state of the daemon.** -/
theorem step {s : System σ} (h : Keyed s.pmd.ovsIntfs) (e : Event σ) :
    Keyed (step P s e).pmd.ovsIntfs := by
  cases e with
  | idlRun idl seqno => exact h
  | reconfigure files => exact h.reconfigure s.idl s.seqno files
  | readState change =>
    exact Keyed.readState (d := { s.pmd with world := change s.pmd.world }) h
  | update committed => exact h.update committed s.db

end Keyed

/-! ## What concerns other ports -/

variable {n : String} {d d' d'' : Pmd Watch} {idl : Idl} {files : Subsystem → YamlFiles}

/-- The port `n` is what it was, and what was written was for other ports. -/
structure Quiet (n : String) (d d' : Pmd Watch) : Prop where
  find : d'.ovsIntfs.find n = d.ovsIntfs.find n
  log : ∃ new, d'.world.2 = d.world.2 ++ new ∧ ∀ write ∈ new, write.instanceName ≠ n

theorem Quiet.refl (n : String) (d : Pmd Watch) : Quiet n d d := ⟨rfl, [], by simp, by simp⟩

theorem Quiet.trans (h : Quiet n d d') (h' : Quiet n d' d'') : Quiet n d d'' := by
  obtain ⟨new, hlog, hnew⟩ := h.log
  obtain ⟨new', hlog', hnew'⟩ := h'.log
  refine ⟨h'.find.trans h.find, new ++ new', by rw [hlog', hlog, List.append_assoc], ?_⟩
  intro write hm
  exact (List.mem_append.mp hm).elim (hnew write) (hnew' write)

theorem quiet_create {intf : Interface} (hne : intf.name ≠ n) (subName : String) (d : Pmd Watch) :
    Quiet n d (ovsdbIfIntfCreate watched intf subName d) := by
  unfold ovsdbIfIntfCreate
  cases pmGetYamlPort d.yaml subName intf.name with
  | none => exact Quiet.refl n d
  | some y =>
    dsimp only
    split
    · exact Quiet.refl n d
    · refine ⟨?_, _, rfl, fun write hm => ?_⟩
      · exact Shash.find_add.trans (if_neg hne)
      · rw [(of_mem_enableWrites hm).1]
        exact hne

/-- A port that is there is not created again. -/
theorem quiet_createInterfaces (subName : String) : ∀ (intfs : List Interface) (d : Pmd Watch),
    (d.ovsIntfs.find n).isSome = true → Quiet n d (createInterfaces watched subName intfs d)
  | [], d, _ => Quiet.refl n d
  | intf :: intfs, d, hn => by
    have hone : Quiet n d (createInterface watched subName d intf) := by
      unfold createInterface
      cases hfind : d.ovsIntfs.find intf.name with
      | some _ => exact Quiet.refl n d
      | none =>
        refine quiet_create ?_ subName d
        rintro rfl
        rw [hfind] at hn
        cases hn
    exact hone.trans (quiet_createInterfaces subName intfs _ (by rwa [hone.find]))

theorem quiet_subsysProcess (hn : (d.ovsIntfs.find n).isSome = true) (sub : Subsystem) :
    Quiet n d (ovsdbIfSubsysProcess watched idl files d sub) := by
  unfold ovsdbIfSubsysProcess
  cases d.ovsSubs.find sub.name with
  | some _ => exact quiet_createInterfaces sub.name _ d hn
  | none =>
    dsimp only
    split
    · exact ⟨rfl, [], by simp, by simp⟩
    · have hquiet := quiet_createInterfaces sub.name (idl.interfacesOf sub) { d with
        ovsSubs := d.ovsSubs.add sub.name sub.uuid
        yaml := Function.update d.yaml sub.name (files sub).ports } hn
      exact ⟨hquiet.find, hquiet.log⟩

theorem quiet_subsystems : ∀ (subs : List Subsystem) (d : Pmd Watch),
    (d.ovsIntfs.find n).isSome = true →
      Quiet n d (subs.foldl (ovsdbIfSubsysProcess watched idl files) d)
  | [], d, _ => Quiet.refl n d
  | sub :: subs, d, hn => by
    have hone : Quiet n d (ovsdbIfSubsysProcess watched idl files d sub) :=
      quiet_subsysProcess hn sub
    exact hone.trans (quiet_subsystems subs _ (by rwa [hone.find]))

/-! ## The loop over the interface rows -/

/-- What `ovsdb_if_intf_modify` writes. -/
theorem log_ovsdbIfIntfModify (intf : Interface) (port : PmPort) (w : Watch) :
    (ovsdbIfIntfModify watched intf port w).2.2 =
      if port.hwEnable = ovsdbIfIntfGetHwEnable intf then w.2
      else w.2 ++ enableWrites { port with hwEnable := ovsdbIfIntfGetHwEnable intf } w.1 := by
  unfold ovsdbIfIntfModify
  by_cases hsame : port.hwEnable = ovsdbIfIntfGetHwEnable intf
  · rw [if_pos hsame, if_neg (not_not.mpr hsame)]
  · rw [if_neg hsame, if_pos hsame]
    rfl

theorem quiet_modifyInterface (hkeyed : Keyed d.ovsIntfs) {intf : Interface}
    (hne : intf.name ≠ n) : Quiet n d (modifyInterface watched d intf) := by
  refine ⟨find_modifyInterface_ne d intf hne.symm, ?_⟩
  cases hfind : d.ovsIntfs.find intf.name with
  | none =>
    rw [Pmd.Holds.modifyInterface_of_none hfind]
    exact ⟨[], by simp, by simp⟩
  | some p =>
    have hkey : p.instanceName = intf.name := hkeyed.key _ p (Shash.mem_of_find hfind)
    rw [Pmd.Holds.modifyInterface_of_find hfind]
    dsimp only
    rw [log_ovsdbIfIntfModify]
    split
    · exact ⟨[], by simp, by simp⟩
    · refine ⟨_, rfl, fun write hm => ?_⟩
      rw [(of_mem_enableWrites hm).1]
      exact hkey.trans_ne hne

/-- The loop only adds to the log. -/
theorem log_modifyInterfaces_prefix (intfs : List Interface) (d : Pmd Watch) :
    d.world.2 <+: (intfs.foldl (modifyInterface watched) d).world.2 := by
  refine List.foldlRecOn (motive := fun d' : Pmd Watch => d.world.2 <+: d'.world.2) intfs _
    List.prefix_rfl fun d' hd' intf _ => hd'.trans ?_
  cases hfind : d'.ovsIntfs.find intf.name with
  | none =>
    have hsame : modifyInterface watched d' intf = d' := Pmd.Holds.modifyInterface_of_none hfind
    exact hsame.symm ▸ List.prefix_rfl
  | some p =>
    rw [Pmd.Holds.modifyInterface_of_find hfind]
    dsimp only
    rw [log_ovsdbIfIntfModify]
    split
    · exact List.prefix_rfl
    · exact List.prefix_append _ _

/-- **The loop writes for a controllable port if and only if a row of its name differs from it.** -/
theorem log_modifyInterfaces {p : PmPort} (hp : p.Controllable) :
    ∀ (intfs : List Interface) (d : Pmd Watch), Keyed d.ovsIntfs → d.ovsIntfs.find n = some p →
      ∃ new, (intfs.foldl (modifyInterface watched) d).world.2 = d.world.2 ++ new ∧
        ((∃ write ∈ new, write.Of p) ↔
          ∃ intf ∈ intfs, intf.name = n ∧ ovsdbIfIntfGetHwEnable intf ≠ p.hwEnable)
  | [], d, _, _ => ⟨[], by simp, by simp⟩
  | intf :: intfs, d, hkeyed, hfind => by
    have hname : p.instanceName = n := hkeyed.key n p (Shash.mem_of_find hfind)
    have hkeyed' : Keyed (modifyInterface watched d intf).ovsIntfs := hkeyed.modifyInterface intf
    rw [List.foldl_cons]
    by_cases hrow : intf.name = n
    · have hfind₀ : d.ovsIntfs.find intf.name = some p := by rwa [hrow]
      have hworld : (modifyInterface watched d intf).world.2 =
          if p.hwEnable = ovsdbIfIntfGetHwEnable intf then d.world.2
          else d.world.2 ++
            enableWrites { p with hwEnable := ovsdbIfIntfGetHwEnable intf } d.world.1 := by
        rw [Pmd.Holds.modifyInterface_of_find hfind₀]
        exact log_ovsdbIfIntfModify intf p d.world
      by_cases hsame : p.hwEnable = ovsdbIfIntfGetHwEnable intf
      · -- nothing happens, and the rest of the loop sees the same port
        have hfind' : (modifyInterface watched d intf).ovsIntfs.find n = some p := by
          rw [← hrow, find_modifyInterface_self, hfind₀, Option.map_some, ← hsame]
        obtain ⟨new, hlog, hnew⟩ := log_modifyInterfaces hp intfs _ hkeyed' hfind'
        rw [hworld, if_pos hsame] at hlog
        refine ⟨new, hlog, hnew.trans ?_⟩
        simp [hsame]
      · obtain ⟨new, hlog⟩ := log_modifyInterfaces_prefix intfs (modifyInterface watched d intf)
        rw [hworld, if_neg hsame, List.append_assoc] at hlog
        have hp' : ({ p with hwEnable := ovsdbIfIntfGetHwEnable intf } : PmPort).Controllable := hp
        obtain ⟨write, hm, hof⟩ := hp'.exists_write d.world.1
        refine ⟨_, hlog.symm, iff_of_true ⟨write, List.mem_append_left new hm, hof⟩ ?_⟩
        exact ⟨intf, List.mem_cons_self, hrow, fun h => hsame h.symm⟩
    · have hquiet := quiet_modifyInterface hkeyed hrow
      obtain ⟨old, hold, hother⟩ := hquiet.log
      obtain ⟨new, hlog, hnew⟩ := log_modifyInterfaces hp intfs _ hkeyed' (hquiet.find.trans hfind)
      refine ⟨old ++ new, by rw [hlog, hold, List.append_assoc], ?_⟩
      have hnone : ¬∃ write ∈ old, write.Of p := by
        rintro ⟨write, hm, hof⟩
        exact hother write hm (hof.1.trans hname)
      simp only [List.mem_append, or_and_right, exists_or, List.mem_cons, hnew, hnone, false_or]
      simp [hrow]

/-! ## Runs -/

/-- A controllable port whose row is there, and whose last write failed. -/
structure System.Owes (s : System Watch) (n : String) (p : PmPort) : Prop where
  find : s.pmd.ovsIntfs.find n = some p
  controllable : p.Controllable
  row : (s.idl.interfaceForUuid p.uuid).isSome = true
  failed : ∃ write, lastWrite p s.pmd.world.2 = some write ∧ write.rc ≠ 0

/-- A call of `pmd_reconfigure` that finds a change writes to each port that is owed a write. -/
def Repeats (s : System Watch) : Event Watch → Prop
  | .reconfigure files =>
    s.seqno ≠ s.pmd.idlSeqno → ∀ n p, s.Owes n p →
      ∃ new, (step watched s (.reconfigure files)).pmd.world.2 = s.pmd.world.2 ++ new ∧
        ∃ write ∈ new, write.Of p
  | _ => True

/-- Each port that is owed a write has another `hw_enable` in a row of its name. -/
def Renewed (s : System Watch) : Event Watch → Prop
  | .reconfigure _ =>
    s.seqno ≠ s.pmd.idlSeqno → ∀ n p, s.Owes n p →
      ∃ intf ∈ s.idl.interfaces, intf.name = n ∧ ovsdbIfIntfGetHwEnable intf ≠ p.hwEnable
  | _ => True

/-- What a call that finds a change writes for a port whose row is there. -/
theorem log_reconfigure {s : System Watch} (hkeyed : Keyed s.pmd.ovsIntfs)
    (files : Subsystem → YamlFiles) (hne : s.seqno ≠ s.pmd.idlSeqno) {p : PmPort}
    (howes : s.Owes n p) :
    ∃ new, (step watched s (.reconfigure files)).pmd.world.2 = s.pmd.world.2 ++ new ∧
      ((∃ write ∈ new, write.Of p) ↔
        ∃ intf ∈ s.idl.interfaces, intf.name = n ∧ ovsdbIfIntfGetHwEnable intf ≠ p.hwEnable) := by
  -- the daemon after the deletions and after the subsystems
  let d₁ := deleteSubsystems s.idl (deleteInterfaces s.idl { s.pmd with idlSeqno := s.seqno })
  let d₂ := s.idl.subsystems.foldl (ovsdbIfSubsysProcess watched s.idl files) d₁
  have hend : (step watched s (.reconfigure files)).pmd =
      s.idl.interfaces.foldl (modifyInterface watched) d₂ := if_neg hne
  have hseq : Keyed ({ s.pmd with idlSeqno := s.seqno } : Pmd Watch).ovsIntfs := hkeyed
  have hkeyed₁ : Keyed d₁.ovsIntfs := hseq.deleteInterfaces s.idl
  have hfind₁ : d₁.ovsIntfs.find n = some p := by
    refine (hseq.find_deleteInterfaces s.idl n).trans ?_
    rw [howes.find, Option.filter_eq_some_iff]
    exact ⟨rfl, howes.row⟩
  have hquiet : Quiet n d₁ d₂ := quiet_subsystems s.idl.subsystems d₁ (by rw [hfind₁]; rfl)
  obtain ⟨old, hold, hother⟩ := hquiet.log
  obtain ⟨new, hlog, hnew⟩ := log_modifyInterfaces howes.controllable s.idl.interfaces d₂
    (hkeyed₁.subsystems files s.idl.subsystems) (hquiet.find.trans hfind₁)
  refine ⟨old ++ new, ?_, Iff.trans ?_ hnew⟩
  · rw [hend, hlog, hold, List.append_assoc]
    rfl
  · have hname : p.instanceName = n := hkeyed.key n p (Shash.mem_of_find howes.find)
    have hnone : ¬∃ write ∈ old, write.Of p := by
      rintro ⟨write, hm, hof⟩
      exact hother write hm (hof.1.trans hname)
    simp only [List.mem_append, or_and_right, exists_or, hnone, false_or]

/-- One step writes again exactly if `hw_enable` changed for each port that is owed a write. -/
theorem repeats_iff {s : System Watch} (hkeyed : Keyed s.pmd.ovsIntfs) (e : Event Watch) :
    Repeats s e ↔ Renewed s e := by
  cases e with
  | idlRun _ _ | readState _ | update _ => exact Iff.rfl
  | reconfigure files =>
    refine forall_congr' fun hne => forall_congr' fun n => forall_congr' fun p =>
      forall_congr' fun howes => ?_
    -- the writes are determined, so the condition is exact
    obtain ⟨new, hlog, hnew⟩ := log_reconfigure hkeyed files hne howes
    rw [← hnew]
    constructor
    · rintro ⟨new', hlog', hwrite⟩
      rwa [List.append_cancel_left (hlog.symm.trans hlog')]
    · intro hwrite
      exact ⟨new, hlog, hwrite⟩

/--
**In any run of the daemon, the calls of `pmd_reconfigure` write again to every port whose last
write failed if and only if `hw_enable` changed for each.**
-/
theorem failed_write_repeated_iff (idl : Idl) (seqno : Nat) (files : Subsystem → YamlFiles)
    (bus : Bus) (db : Database) (es : List (Event Bus)) :
    Run.Along (step watched) Repeats (initial watched idl seqno files (bus, []) db)
        (es.map (Event.lift changeBus)) ↔
      Run.Along (step watched) Renewed (initial watched idl seqno files (bus, []) db)
        (es.map (Event.lift changeBus)) :=
  Run.along_iff_of_invariant (I := fun s : System Watch => Keyed s.pmd.ovsIntfs)
    (fun _ e hkeyed _ => hkeyed.step e) (fun _ e hkeyed => repeats_iff hkeyed e)
    (Keyed.init idl seqno files (bus, []))

/--
The write for a new port fails, and the database changes once more, without a change of `hw_enable`.
-/
theorem failed_write_not_repeated :
    let s := Run.exec (step watched)
      (initial watched {} 0 onePortFiles (Bus.ofList [], []) emptyDatabase)
      [.idlRun onePortIdl 1, .reconfigure onePortFiles, .idlRun onePortIdl 2]
    s.pmd.world.2 = [⟨"1", 1, -1⟩] ∧
      (step watched s (.reconfigure onePortFiles)).pmd.world.2 = s.pmd.world.2 ∧
      ¬Repeats s (.reconfigure onePortFiles) := by
  intro s
  have hlog : s.pmd.world.2 = [⟨"1", 1, -1⟩] := by decide +kernel
  have hsilent : (step watched s (.reconfigure onePortFiles)).pmd.world.2 = s.pmd.world.2 := by
    decide +kernel
  refine ⟨hlog, hsilent, fun hrepeats => ?_⟩
  have hport : (s.pmd.ovsIntfs.find "1").map (fun p => (p.instanceName, p.uuid,
      p.moduleDevice.hasConnector CONNECTOR_QSFP_PLUS ||
        p.moduleDevice.hasConnector CONNECTOR_QSFP28,
      (p.moduleDevice.signals .sfppTxDisable).isSome)) = some ("1", 1, false, true) := by
    decide +kernel
  obtain ⟨p, hfind, hp⟩ := Option.map_eq_some_iff.mp hport
  obtain ⟨hname, hp⟩ := Prod.mk.inj hp
  obtain ⟨huuid, hp⟩ := Prod.mk.inj hp
  obtain ⟨hconnector, hsignal⟩ := Prod.mk.inj hp
  have howes : s.Owes "1" p := by
    refine ⟨hfind, ?_, ?_, ⟨"1", 1, -1⟩, ?_, by decide⟩
    · unfold PmPort.Controllable
      rw [if_neg (by simp [hconnector])]
      exact hsignal
    · rw [huuid]
      decide +kernel
    · rw [hlog]
      simp [lastWrite, EnableWrite.Of, hname, huuid]
  obtain ⟨new, hnew, write, hm, -⟩ := hrepeats (by decide +kernel) "1" p howes
  rw [hsilent, List.self_eq_append_right] at hnew
  rw [hnew] at hm
  cases hm

end OpsPmd
