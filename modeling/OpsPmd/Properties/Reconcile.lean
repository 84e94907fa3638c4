import OpsPmd.Commit
import OpsPmd.SubsystemInvariant

/-!
# The ports follow the database

`pmd_reconfigure` deletes ports by uuid and looks them up by name. As long as names are unique and
immutable it leaves one port for each interface row that some subsystem lists and whose YAML port
is pluggable, and keeps the ports that it found. The YAML ports are those that were read for the row
of the subsystem.

* `Created` — what the loops that create ports do
* `find_modifyInterfaces_of_mem` — what the loop that changes ports does
* `reconciled_after_reconfigure` — what every call of `pmd_reconfigure` leaves
-/

namespace OpsPmd

variable {σ : Type} {P : Platform σ} {idl : Idl}

/-! ## Creating ports -/

/-- Ports were created for a subsystem: those of `intfs` that have a pluggable YAML port. -/
structure Created (subName : String) (intfs : List Interface) (d d' : Pmd σ) : Prop where
  kept : ∀ n p, d.ovsIntfs.find n = some p → d'.ovsIntfs.find n = some p
  fresh : ∀ n p, d'.ovsIntfs.find n = some p → d.ovsIntfs.find n = some p ∨
    d.ovsIntfs.find n = none ∧
      ∃ intf ∈ intfs, ∃ y, pmGetYamlPort d.yaml subName intf.name = some y ∧ y.pluggable = true ∧
        intf.name = n ∧ p = newPort intf subName y
  complete : ∀ intf ∈ intfs, ∀ y, pmGetYamlPort d.yaml subName intf.name = some y →
    y.pluggable = true → (d'.ovsIntfs.find intf.name).isSome = true
  yaml : d'.yaml = d.yaml
  seqno : d'.idlSeqno = d.idlSeqno

theorem ovsIntfs_ovsdbIfIntfCreate (intf : Interface) (subName : String) (d : Pmd σ) :
    (ovsdbIfIntfCreate P intf subName d).yaml = d.yaml ∧
      (ovsdbIfIntfCreate P intf subName d).idlSeqno = d.idlSeqno ∧
      (ovsdbIfIntfCreate P intf subName d).ovsIntfs =
        match pmGetYamlPort d.yaml subName intf.name with
        | none => d.ovsIntfs
        | some y =>
          if y.pluggable = true then d.ovsIntfs.add intf.name (newPort intf subName y)
          else d.ovsIntfs := by
  unfold ovsdbIfIntfCreate
  cases pmGetYamlPort d.yaml subName intf.name with
  | none => exact ⟨rfl, rfl, rfl⟩
  | some y => cases hplug : y.pluggable <;> simp [hplug, newPort]

/-- The body of the loop of `ovsdb_if_subsys_process`. -/
def createInterface (P : Platform σ) (subName : String) (d : Pmd σ) (intf : Interface) : Pmd σ :=
  match d.ovsIntfs.find intf.name with
  | none => ovsdbIfIntfCreate P intf subName d
  | some _ => d

theorem created_createInterface (subName : String) (d : Pmd σ) (intf : Interface) :
    Created subName [intf] d (createInterface P subName d intf) := by
  unfold createInterface
  cases hfind : d.ovsIntfs.find intf.name with
  | some q =>
    refine ⟨fun _ _ hn => hn, fun _ _ hn => Or.inl hn, fun intf' hm y _ _ => ?_, rfl, rfl⟩
    obtain rfl := List.mem_singleton.mp hm
    rw [hfind]
    rfl
  | none =>
    obtain ⟨hyaml, hseqno, hports⟩ := ovsIntfs_ovsdbIfIntfCreate (P := P) intf subName d
    -- three ways: no YAML port, one that is not pluggable, or a new port
    cases hy : pmGetYamlPort d.yaml subName intf.name with
    | none =>
      rw [hy] at hports
      refine ⟨fun n p hn => by rwa [hports], fun n p hn => Or.inl (by rwa [hports] at hn),
        fun intf' hm y hy' _ => ?_, hyaml, hseqno⟩
      obtain rfl := List.mem_singleton.mp hm
      rw [hy] at hy'
      cases hy'
    | some y =>
      rw [hy] at hports
      by_cases hplug : y.pluggable = true
      · simp only [hplug, if_true] at hports
        have hadd : ∀ n, (ovsdbIfIntfCreate P intf subName d).ovsIntfs.find n =
            if intf.name = n then some (newPort intf subName y) else d.ovsIntfs.find n := by
          intro n
          rw [hports, Shash.find_add]
        refine ⟨fun n p hn => ?_, fun n p hn => ?_, fun intf' hm y' _ _ => ?_, hyaml, hseqno⟩
        · have hne : intf.name ≠ n := by
            rintro rfl
            rw [hfind] at hn
            cases hn
          rw [hadd, if_neg hne]
          exact hn
        · by_cases hname : intf.name = n
          · rw [hadd, if_pos hname] at hn
            refine Or.inr ⟨hname ▸ hfind, intf, List.mem_singleton_self intf, y, hy, hplug, hname, ?_⟩
            exact (Option.some.inj hn).symm
          · rw [hadd, if_neg hname] at hn
            exact Or.inl hn
        · obtain rfl := List.mem_singleton.mp hm
          rw [hadd, if_pos rfl]
          rfl
      · simp only [hplug, Bool.false_eq_true, if_false] at hports
        refine ⟨fun n p hn => by rwa [hports], fun n p hn => Or.inl (by rwa [hports] at hn),
          fun intf' hm y' hy' hplug' => ?_, hyaml, hseqno⟩
        obtain rfl := List.mem_singleton.mp hm
        rw [hy] at hy'
        rw [← Option.some.inj hy'] at hplug'
        exact absurd hplug' hplug

theorem Created.cons {subName : String} {intf : Interface} {intfs : List Interface}
    {d d' d'' : Pmd σ} (h : Created subName [intf] d d') (h' : Created subName intfs d' d'') :
    Created subName (intf :: intfs) d d'' where
  kept n p hn := h'.kept n p (h.kept n p hn)
  fresh n p hn := by
    rcases h'.fresh n p hn with hn' | ⟨hnone, intf', hm, y, hy, hplug, hname, rfl⟩
    · refine (h.fresh n p hn').imp id ?_
      rintro ⟨hnone, intf', hm, hrest⟩
      obtain rfl := List.mem_singleton.mp hm
      exact ⟨hnone, intf', List.mem_cons_self, hrest⟩
    · rw [h.yaml] at hy
      refine Or.inr ⟨?_, intf', List.mem_cons_of_mem _ hm, y, hy, hplug, hname, rfl⟩
      cases hfind : d.ovsIntfs.find n with
      | none => rfl
      | some q => exact absurd (hnone.symm.trans (h.kept n q hfind)) (by simp)
  complete intf' hm y hy hplug := by
    rcases List.mem_cons.mp hm with rfl | hm
    · obtain ⟨q, hq⟩ := Option.isSome_iff_exists.mp
        (h.complete intf' (List.mem_singleton_self _) y hy hplug)
      rw [h'.kept _ q hq]
      rfl
    · exact h'.complete intf' hm y (by rwa [h.yaml]) hplug
  yaml := h'.yaml.trans h.yaml
  seqno := h'.seqno.trans h.seqno

theorem created_createInterfaces (subName : String) : ∀ (intfs : List Interface) (d : Pmd σ),
    Created subName intfs d (createInterfaces P subName intfs d)
  | [], _ =>
    ⟨fun _ _ hn => hn, fun _ _ hn => Or.inl hn, fun _ hm => (List.not_mem_nil hm).elim, rfl, rfl⟩
  | intf :: intfs, d =>
    (created_createInterface subName d intf).cons (created_createInterfaces subName intfs _)

/-! ## All subsystems -/

/-- The subsystem lists the interface, and its YAML port is there and pluggable. -/
def Wants (idl : Idl) (yaml : String → List YamlPort) (intf : Interface) (sub : Subsystem)
    (y : YamlPort) : Prop :=
  intf ∈ idl.interfacesOf sub ∧ pmGetYamlPort yaml sub.name intf.name = some y ∧
    y.pluggable = true

/-- Ports were created for all subsystems of `subs`. -/
structure Grown (idl : Idl) (subs : List Subsystem) (d d' : Pmd σ) : Prop where
  kept : ∀ n p, d.ovsIntfs.find n = some p → d'.ovsIntfs.find n = some p
  fresh : ∀ n p, d'.ovsIntfs.find n = some p → d.ovsIntfs.find n = some p ∨
    d.ovsIntfs.find n = none ∧
      ∃ sub ∈ subs, ∃ intf y, Wants idl d'.yaml intf sub y ∧ intf.name = n ∧
        p = newPort intf sub.name y
  complete : ∀ sub ∈ subs, ∀ intf y, Wants idl d'.yaml intf sub y →
    (d'.ovsIntfs.find intf.name).isSome = true
  yaml : ∀ name, name ∉ subs.map Subsystem.name → d'.yaml name = d.yaml name
  seqno : d'.idlSeqno = d.idlSeqno

theorem pmGetYamlPort_congr {yaml yaml' : String → List YamlPort} {sub name : String}
    (h : yaml sub = yaml' sub) : pmGetYamlPort yaml sub name = pmGetYamlPort yaml' sub name := by
  unfold pmGetYamlPort
  rw [h]

/-- The files of every subsystem can be read. -/
def YamlFiles.Readable (files : Subsystem → YamlFiles) : Prop := ∀ sub, (files sub).rc = 0

theorem grown_ovsdbIfSubsysProcess {files : Subsystem → YamlFiles} (hfiles : YamlFiles.Readable files)
    (d : Pmd σ) (sub : Subsystem) : Grown idl [sub] d (ovsdbIfSubsysProcess P idl files d sub) := by
  -- whether the files have to be read or not, the ports are then created from `d₀`
  obtain ⟨d₀, hproc, hports, hseqno, hyaml⟩ : ∃ d₀ : Pmd σ,
      ovsdbIfSubsysProcess P idl files d sub =
        createInterfaces P sub.name (idl.interfacesOf sub) d₀ ∧
      d₀.ovsIntfs = d.ovsIntfs ∧ d₀.idlSeqno = d.idlSeqno ∧
        ∀ name, name ≠ sub.name → d₀.yaml name = d.yaml name := by
    unfold ovsdbIfSubsysProcess
    cases d.ovsSubs.find sub.name with
    | some _ => exact ⟨d, rfl, rfl, rfl, fun _ _ => rfl⟩
    | none =>
      refine ⟨_, if_neg (by simp [hfiles sub]), rfl, rfl, fun name hname => ?_⟩
      exact Function.update_of_ne hname _ _
  have hcreated := created_createInterfaces (P := P) sub.name (idl.interfacesOf sub) d₀
  rw [← hproc] at hcreated
  refine ⟨fun n p hn => hcreated.kept n p (by rwa [hports]), fun n p hn => ?_, ?_, ?_,
    hcreated.seqno.trans hseqno⟩
  · rw [← hports]
    refine (hcreated.fresh n p hn).imp id ?_
    rintro ⟨hnone, intf, hm, y, hy, hplug, hname, rfl⟩
    rw [← hcreated.yaml] at hy
    exact ⟨hnone, sub, List.mem_singleton_self sub, intf, y, ⟨hm, hy, hplug⟩, hname, rfl⟩
  · rintro sub' hsub intf y ⟨hm, hy, hplug⟩
    obtain rfl := List.mem_singleton.mp hsub
    rw [hcreated.yaml] at hy
    exact hcreated.complete intf hm y hy hplug
  · intro name hname
    rw [hcreated.yaml]
    exact hyaml name (by simpa using hname)

theorem Grown.cons {sub : Subsystem} {subs : List Subsystem} {d d' d'' : Pmd σ}
    (h : Grown idl [sub] d d') (h' : Grown idl subs d' d'')
    (hname : sub.name ∉ subs.map Subsystem.name) : Grown idl (sub :: subs) d d'' := by
  -- the later subsystems leave the files of this one alone
  have hwants : ∀ intf y, Wants idl d'.yaml intf sub y ↔ Wants idl d''.yaml intf sub y := by
    intro intf y
    unfold Wants
    rw [pmGetYamlPort_congr (h'.yaml sub.name hname)]
  refine ⟨fun n p hn => h'.kept n p (h.kept n p hn), fun n p hn => ?_, ?_, ?_,
    h'.seqno.trans h.seqno⟩
  · rcases h'.fresh n p hn with hn' | ⟨hnone, sub', hm, hrest⟩
    · refine (h.fresh n p hn').imp id ?_
      rintro ⟨hnone, sub', hm, intf, y, hw, hrest⟩
      obtain rfl := List.mem_singleton.mp hm
      exact ⟨hnone, sub', List.mem_cons_self, intf, y, (hwants intf y).mp hw, hrest⟩
    · refine Or.inr ⟨?_, sub', List.mem_cons_of_mem _ hm, hrest⟩
      cases hfind : d.ovsIntfs.find n with
      | none => rfl
      | some q => exact absurd (hnone.symm.trans (h.kept n q hfind)) (by simp)
  · intro sub' hm intf y hw
    rcases List.mem_cons.mp hm with rfl | hm
    · obtain ⟨q, hq⟩ := Option.isSome_iff_exists.mp
        (h.complete sub' (List.mem_singleton_self _) intf y ((hwants intf y).mpr hw))
      rw [h'.kept _ q hq]
      rfl
    · exact h'.complete sub' hm intf y hw
  · intro name hnot
    simp only [List.map_cons, List.mem_cons, not_or] at hnot
    rw [h'.yaml name hnot.2]
    exact h.yaml name (by simpa using hnot.1)

/-- **The loop over the subsystems creates what they want, and keeps what was there.** -/
theorem grown_subsystems {files : Subsystem → YamlFiles} (hfiles : YamlFiles.Readable files) :
    ∀ (subs : List Subsystem) (d : Pmd σ), (subs.map Subsystem.name).Nodup →
      Grown idl subs d (subs.foldl (ovsdbIfSubsysProcess P idl files) d)
  | [], d, _ =>
    ⟨fun _ _ hn => hn, fun _ _ hn => Or.inl hn, fun _ hm => (List.not_mem_nil hm).elim,
      fun _ _ => rfl, rfl⟩
  | sub :: subs, d, hnd => by
    rw [List.map_cons, List.nodup_cons] at hnd
    exact (grown_ovsdbIfSubsysProcess hfiles d sub).cons (grown_subsystems hfiles subs _ hnd.2) hnd.1

/-! ## Changing ports -/

theorem find_modifyInterface_self (d : Pmd σ) (intf : Interface) :
    (modifyInterface P d intf).ovsIntfs.find intf.name =
      (d.ovsIntfs.find intf.name).map
        fun p => { p with hwEnable := ovsdbIfIntfGetHwEnable intf } := by
  cases hfind : d.ovsIntfs.find intf.name with
  | none =>
    rw [Pmd.Holds.modifyInterface_of_none hfind]
    exact hfind
  | some p =>
    rw [Pmd.Holds.modifyInterface_of_find hfind]
    exact Shash.find_set_self hfind

theorem find_modifyInterface_ne (d : Pmd σ) (intf : Interface) {n : String} (hne : n ≠ intf.name) :
    (modifyInterface P d intf).ovsIntfs.find n = d.ovsIntfs.find n := by
  cases hfind : d.ovsIntfs.find intf.name with
  | none => rw [Pmd.Holds.modifyInterface_of_none hfind]
  | some p =>
    rw [Pmd.Holds.modifyInterface_of_find hfind]
    exact Shash.find_set_ne hne

theorem find_modifyInterfaces_of_notMem {n : String} : ∀ (intfs : List Interface) (d : Pmd σ),
    n ∉ intfs.map Interface.name →
      (intfs.foldl (modifyInterface P) d).ovsIntfs.find n = d.ovsIntfs.find n
  | [], _, _ => rfl
  | intf :: intfs, d, hn => by
    simp only [List.map_cons, List.mem_cons, not_or] at hn
    rw [List.foldl_cons, find_modifyInterfaces_of_notMem intfs _ hn.2,
      find_modifyInterface_ne d intf hn.1]

/-- With unique names, each port gets the `hw_enable` of its own row. -/
theorem find_modifyInterfaces_of_mem {intf : Interface} : ∀ (intfs : List Interface) (d : Pmd σ),
    (intfs.map Interface.name).Nodup → intf ∈ intfs →
      (intfs.foldl (modifyInterface P) d).ovsIntfs.find intf.name =
        (d.ovsIntfs.find intf.name).map
          fun p => { p with hwEnable := ovsdbIfIntfGetHwEnable intf }
  | intf' :: intfs, d, hnd, hm => by
    rw [List.map_cons, List.nodup_cons] at hnd
    rw [List.foldl_cons]
    rcases List.mem_cons.mp hm with rfl | hm
    · rw [find_modifyInterfaces_of_notMem intfs _ hnd.1, find_modifyInterface_self]
    -- the row comes later, and the rows before it have other names
    · have hne : intf.name ≠ intf'.name := fun he => hnd.1 (he ▸ List.mem_map_of_mem hm)
      rw [find_modifyInterfaces_of_mem intfs _ hnd.2 hm, find_modifyInterface_ne d intf' hne]

/-! ## What a reconfiguration leaves -/

/-- Names are unique, and belong to the uuids of their rows. -/
structure Idl.WellFormed (nameOf subNameOf : Uuid → String) (idl : Idl) : Prop where
  named : idl.Named nameOf
  interfaces : (idl.interfaces.map Interface.name).Nodup
  subsystems : idl.NamedSubsystems subNameOf

/-- Each port belongs to a row with its name and uuid. -/
def HasRows (idl : Idl) (d : Pmd σ) : Prop :=
  ∀ n p, d.ovsIntfs.find n = some p → ∃ intf ∈ idl.interfaces, intf.uuid = p.uuid ∧ intf.name = n

/-- The ports are those of the rows of an IDL. -/
structure InPlace (idl : Idl) (d : Pmd σ) : Prop where
  /-- Each port has the name, the uuid and the `hw_enable` of a row. -/
  row : ∀ n p, d.ovsIntfs.find n = some p → ∃ intf ∈ idl.interfaces, intf.uuid = p.uuid ∧
    intf.name = n ∧ p.hwEnable = ovsdbIfIntfGetHwEnable intf
  /-- Each interface that a subsystem lists and whose YAML port is pluggable has a port. -/
  complete : ∀ sub ∈ idl.subsystems, ∀ intf y, Wants idl d.yaml intf sub y →
    (d.ovsIntfs.find intf.name).isSome = true

/-- There is no port of the name, or its row is gone. -/
def Vacant (idl : Idl) (old : Shash String PmPort) (n : String) : Prop :=
  ∀ q, old.find n = some q → idl.interfaceForUuid q.uuid = none

/-- What a reconfiguration makes of the daemon `d`, if reading a subsystem gives `files`. -/
structure Reconciled (idl : Idl) (files : Subsystem → YamlFiles) (d d' : Pmd σ) : Prop where
  unique : d'.ovsIntfs.Unique
  key : ∀ n p, (n, p) ∈ d'.ovsIntfs → p.instanceName = n
  inPlace : InPlace idl d'
  /-- A port whose row is there stays, with a new `hw_enable` at most. -/
  survivor : ∀ n q, d.ovsIntfs.find n = some q → (idl.interfaceForUuid q.uuid).isSome = true →
    ∃ hwEnable, d'.ovsIntfs.find n = some { q with hwEnable := hwEnable }
  /-- Any other port is a fresh one of a row that a subsystem lists. -/
  fresh : ∀ n p, d'.ovsIntfs.find n = some p → Vacant idl d.ovsIntfs n →
    ∃ sub ∈ idl.subsystems, ∃ intf y, Wants idl d'.yaml intf sub y ∧ intf.name = n ∧
      p = newPort intf sub.name y
  /--
  A subsystem whose row was known has the YAML ports it had, and any other those in its files.
  -/
  tables : ∀ sub ∈ idl.subsystems, d'.yaml sub.name = d.tableOf files sub

section Reconfigure

variable {nameOf subNameOf : Uuid → String} {Y : YamlPort → Prop} {Φ : PmPort → Prop}
  {d d' : Pmd σ}

theorem find_deleteInterfaces (h : d.Holds nameOf Y Φ) (n : String) :
    (deleteInterfaces idl d).ovsIntfs.find n =
      (d.ovsIntfs.find n).filter fun p => (idl.interfaceForUuid p.uuid).isSome :=
  h.unique.find_deleteAll fun node hm => h.key node.1 node.2 hm

theorem hasRows_deleteInterfaces (h : d.Holds nameOf Y Φ) (hidl : idl.Named nameOf) :
    HasRows idl (deleteInterfaces idl d) := by
  intro n p hn
  rw [find_deleteInterfaces h, Option.filter_eq_some_iff] at hn
  obtain ⟨intf, hfor⟩ := Option.isSome_iff_exists.mp hn.2
  obtain ⟨hm, huuid⟩ := Idl.mem_interfaces_of_forUuid hfor
  refine ⟨intf, hm, huuid, ?_⟩
  rw [← hidl intf hm, huuid]
  exact h.row n p (Shash.mem_of_find hn.1)

theorem Grown.hasRows {subs : List Subsystem} (h : Grown idl subs d d') (hd : HasRows idl d) :
    HasRows idl d' := by
  intro n p hn
  rcases h.fresh n p hn with hn' | ⟨-, sub, -, intf, y, hw, hname, rfl⟩
  · exact hd n p hn'
  · exact ⟨intf, Idl.mem_interfaces_of_mem hw.1, rfl, hname⟩

/-- Each port at the end is one from before the loop, with the `hw_enable` of its row. -/
theorem exists_of_find_modifyInterfaces (hnames : (idl.interfaces.map Interface.name).Nodup)
    (hd : HasRows idl d) {n : String} {p : PmPort}
    (hn : (idl.interfaces.foldl (modifyInterface P) d).ovsIntfs.find n = some p) :
    ∃ q, d.ovsIntfs.find n = some q ∧ ∃ intf ∈ idl.interfaces, intf.uuid = q.uuid ∧
      intf.name = n ∧ p = { q with hwEnable := ovsdbIfIntfGetHwEnable intf } := by
  obtain ⟨q, hq⟩ : ∃ q, d.ovsIntfs.find n = some q := by
    by_cases hmem : n ∈ idl.interfaces.map Interface.name
    · obtain ⟨intf, hm, rfl⟩ := List.mem_map.mp hmem
      rw [find_modifyInterfaces_of_mem _ _ hnames hm, Option.map_eq_some_iff] at hn
      obtain ⟨q, hq, -⟩ := hn
      exact ⟨q, hq⟩
    · rw [find_modifyInterfaces_of_notMem _ _ hmem] at hn
      exact ⟨p, hn⟩
  obtain ⟨intf, hm, huuid, rfl⟩ := hd n q hq
  rw [find_modifyInterfaces_of_mem _ _ hnames hm, hq] at hn
  exact ⟨q, hq, intf, hm, huuid, rfl, (Option.some.inj hn).symm⟩

/-- Each port before the loop is there at the end. -/
theorem find_modifyInterfaces_of_find (hnames : (idl.interfaces.map Interface.name).Nodup)
    (hd : HasRows idl d) {n : String} {q : PmPort} (hq : d.ovsIntfs.find n = some q) :
    ∃ hwEnable, (idl.interfaces.foldl (modifyInterface P) d).ovsIntfs.find n =
      some { q with hwEnable := hwEnable } := by
  obtain ⟨intf, hm, -, rfl⟩ := hd n q hq
  refine ⟨ovsdbIfIntfGetHwEnable intf, ?_⟩
  rw [find_modifyInterfaces_of_mem _ _ hnames hm, hq]
  rfl

/-- The ports of an IDL, from those it found and those it created. -/
theorem Grown.inPlace (h : Grown idl idl.subsystems d d')
    (hnames : (idl.interfaces.map Interface.name).Nodup) (hd : HasRows idl d) :
    InPlace idl (idl.interfaces.foldl (modifyInterface P) d') := by
  have hrows := h.hasRows hd
  refine ⟨fun n p hn => ?_, fun sub hsub intf y hw => ?_⟩
  · obtain ⟨q, -, intf, hm, huuid, hname, rfl⟩ := exists_of_find_modifyInterfaces hnames hrows hn
    exact ⟨intf, hm, huuid, hname, rfl⟩
  · rw [(ovsSubs_modifyInterfaces _ _).2] at hw
    obtain ⟨q, hq⟩ := Option.isSome_iff_exists.mp (h.complete sub hsub intf y hw)
    obtain ⟨hwEnable, hfind⟩ := find_modifyInterfaces_of_find (P := P) hnames hrows hq
    rw [hfind]
    rfl

variable {files : Subsystem → YamlFiles} {seqno : Nat}

/-- Each subsystem row is recorded, under its name. -/
def Idl.KnownTo (idl : Idl) (d : Pmd σ) : Prop :=
  ∀ sub ∈ idl.subsystems, d.ovsSubs.find sub.name = some sub.uuid

theorem Idl.KnownTo.congr (h : idl.KnownTo d) (hsubs : d'.ovsSubs = d.ovsSubs) : idl.KnownTo d' :=
  fun sub hm => hsubs ▸ h sub hm

/-- What a reconfiguration makes of the records, if it finds a new sequence number. -/
theorem recorded_of_ne (h : d.Recorded subNameOf) (hidl : idl.NamedSubsystems subNameOf)
    (hne : seqno ≠ d.idlSeqno) {reads : List (Subsystem → YamlFiles)} {IsRow : Subsystem → Prop}
    (hsourced : d.Sourced reads IsRow) (hread : files ∈ reads)
    (hrows : ∀ sub ∈ idl.subsystems, IsRow sub) :
    let d' := pmdReconfigure P idl seqno files d
    d'.Recorded subNameOf ∧ d'.Sourced reads IsRow ∧ idl.KnownTo d' ∧
      ∀ sub ∈ idl.subsystems, d'.yaml sub.name = d.tableOf files sub := by
  intro d'
  let d₁ := deleteSubsystems idl (deleteInterfaces idl { d with idlSeqno := seqno })
  let d₂ := idl.subsystems.foldl (ovsdbIfSubsysProcess P idl files) d₁
  have hend : d' = idl.interfaces.foldl (modifyInterface P) d₂ := if_neg hne
  obtain ⟨hsubs, hyaml⟩ := ovsSubs_modifyInterfaces (P := P) idl.interfaces d₂
  rw [← hend] at hsubs hyaml
  have hproc : Processed files idl.subsystems d₁ d₂ :=
    processed_subsystems idl.subsystems d₁ hidl.unique
  have hsubs₁ : d₁.ovsSubs = (deleteSubsystems idl d).ovsSubs := rfl
  have hyaml₁ : d₁.yaml = d.yaml := rfl
  obtain ⟨hrecorded, hknown⟩ := h.reconfigure hidl hsubs₁ hyaml₁ hproc
  have hsourced₁ : d₁.Sourced reads IsRow := hsourced.deleteSubsystems h.unique idl
  have hknown₂ : idl.KnownTo d₂ := fun sub hm => (hknown sub hm).1
  refine ⟨hrecorded.congr hsubs, (hsourced₁.process hproc hread hrows).congr hsubs hyaml,
    hknown₂.congr hsubs, fun sub hm => ?_⟩
  rw [hyaml]
  exact (hknown sub hm).2

/-- **A reconfiguration that finds a new sequence number reconciles the ports.** -/
theorem reconciled_of_ne (h : d.Holds nameOf (fun _ => True) Φ)
    (hnew : ∀ intf subName y, y.pluggable = true → Φ (newPort intf subName y))
    (hset : ∀ p hwEnable, Φ p → Φ { p with hwEnable := hwEnable })
    (hidl : idl.WellFormed nameOf subNameOf) (hfiles : YamlFiles.Readable files)
    (hne : seqno ≠ d.idlSeqno)
    (htables : ∀ sub ∈ idl.subsystems,
      (pmdReconfigure P idl seqno files d).yaml sub.name = d.tableOf files sub) :
    Reconciled idl files d (pmdReconfigure P idl seqno files d) := by
  have hholds := h.reconfigure (P := P) (fun intf subName y _ => hnew intf subName y) hset
    hidl.named (fun _ _ _ _ => trivial : YamlFiles.All (fun _ => True) files) seqno
  have hseq : ({ d with idlSeqno := seqno } : Pmd σ).Holds nameOf (fun _ => True) Φ :=
    h.congr rfl rfl
  -- the daemon after the deletions, after the subsystems, and at the end
  let d₁ := deleteSubsystems idl (deleteInterfaces idl { d with idlSeqno := seqno })
  let d₂ := idl.subsystems.foldl (ovsdbIfSubsysProcess P idl files) d₁
  have hend : pmdReconfigure P idl seqno files d = idl.interfaces.foldl (modifyInterface P) d₂ :=
    if_neg hne
  have hdel : ∀ n, d₁.ovsIntfs.find n =
      (d.ovsIntfs.find n).filter fun p => (idl.interfaceForUuid p.uuid).isSome :=
    find_deleteInterfaces hseq
  have hrows : HasRows idl d₁ := hasRows_deleteInterfaces hseq hidl.named
  have hgrown : Grown idl idl.subsystems d₁ d₂ :=
    grown_subsystems hfiles idl.subsystems d₁ hidl.subsystems.unique
  have hyaml := (ovsSubs_modifyInterfaces (P := P) idl.interfaces d₂).2
  refine ⟨hholds.unique, hholds.key, ?_, fun n q hn hlives => ?_, fun n p hn hvacant => ?_,
    htables⟩
  · rw [hend]
    exact hgrown.inPlace hidl.interfaces hrows
  · have hn₁ : d₁.ovsIntfs.find n = some q := by
      rw [hdel, hn, Option.filter_eq_some_iff]
      exact ⟨rfl, hlives⟩
    rw [hend]
    exact find_modifyInterfaces_of_find hidl.interfaces (hgrown.hasRows hrows)
      (hgrown.kept n q hn₁)
  · rw [hend] at hn ⊢
    obtain ⟨q, hq, intf, hm, -, hname, rfl⟩ :=
      exists_of_find_modifyInterfaces hidl.interfaces (hgrown.hasRows hrows) hn
    rcases hgrown.fresh n q hq with hn₁ | ⟨-, sub, hsub, intf', y, hw, hname', rfl⟩
    · rw [hdel, Option.filter_eq_some_iff] at hn₁
      have hgone := hvacant q hn₁.1
      rw [hgone] at hn₁
      cases hn₁.2
    · -- the row that gives `hw_enable` is the one the port was created for
      obtain rfl : intf = intf' :=
        List.inj_on_of_nodup_map hidl.interfaces hm (Idl.mem_interfaces_of_mem hw.1)
          (hname.trans hname'.symm)
      rw [hyaml]
      exact ⟨sub, hsub, intf, y, hw, hname, rfl⟩

/-- With the sequence number it knows, a reconfiguration returns early. The ports are in place. -/
theorem reconciled_of_eq (h : d.Holds nameOf Y Φ) (hd : InPlace idl d) (hknown : idl.KnownTo d) :
    Reconciled idl files d d := by
  refine ⟨h.unique, h.key, hd, fun n q hn _ => ⟨q.hwEnable, hn⟩, fun n p hn hvacant => ?_,
    fun sub hm => (if_pos (hknown sub hm)).symm⟩
  obtain ⟨intf, hm, huuid, -⟩ := hd.row n p hn
  have hrow : (idl.interfaceForUuid p.uuid).isSome = true :=
    List.find?_isSome.mpr ⟨intf, hm, by simpa using huuid⟩
  rw [hvacant p hn] at hrow
  cases hrow

/-- Ports that keep their rows and their `hw_enable` stay in place. -/
theorem InPlace.congr (h : InPlace idl d) (hyaml : d'.yaml = d.yaml)
    (hkeys : d'.ovsIntfs.keys = d.ovsIntfs.keys)
    (hports : ∀ n p', d'.ovsIntfs.find n = some p' →
      ∃ p, d.ovsIntfs.find n = some p ∧ p'.uuid = p.uuid ∧ p'.hwEnable = p.hwEnable) :
    InPlace idl d' := by
  refine ⟨fun n p' hn => ?_, fun sub hsub intf y hw => ?_⟩
  · obtain ⟨p, hp, huuid, hhw⟩ := hports n p' hn
    rw [huuid, hhw]
    exact h.row n p hp
  · rw [hyaml] at hw
    have hsome := h.complete sub hsub intf y hw
    rw [Option.isSome_iff_ne_none, ne_eq, Shash.find_eq_none_iff] at hsome ⊢
    rwa [hkeys]

end Reconfigure

/-! ## Runs of the daemon -/

/--
The sequence number says what the contents of the IDL are, and all YAML files can be read.
-/
def Event.Orderly (contentsAt : Nat → Idl) : Event σ → Prop
  | .idlRun idl seqno => idl = contentsAt seqno
  | .reconfigure files => YamlFiles.Readable files
  | _ => True

/-- What the YAML files are when an event reads them. -/
def Event.reads : Event σ → List (Subsystem → YamlFiles)
  | .reconfigure files => [files]
  | _ => []

/-- What the proofs about reconfigurations need of a port. -/
def PmPort.Plain (port : PmPort) : Prop := port.moduleDevice.pluggable = true ∧ port.Ready

/-- The subsystem is a row at some time. -/
def RowOf (contentsAt : Nat → Idl) (sub : Subsystem) : Prop := ∃ k, sub ∈ (contentsAt k).subsystems

/--
What holds of the daemon in every state: the ports are those of the IDL it last looked at, and so
are the records of subsystems. `reads` is what the YAML files were when they were read.
-/
structure System.Steady (contentsAt : Nat → Idl) (nameOf subNameOf : Uuid → String)
    (reads : List (Subsystem → YamlFiles)) (s : System σ) : Prop where
  idl : s.idl = contentsAt s.seqno
  ports : s.pmd.Holds nameOf (fun _ => True) PmPort.Plain
  inPlace : InPlace (contentsAt s.pmd.idlSeqno) s.pmd
  recorded : s.pmd.Recorded subNameOf
  known : (contentsAt s.pmd.idlSeqno).KnownTo s.pmd
  sourced : s.pmd.Sourced reads (RowOf contentsAt)

theorem ovsIntfs_ovsdbIfIntfConfigure (intfs : List Interface) (d : Pmd σ) :
    (intfs.foldl (fun d intf => ovsdbIfIntfConfigure P intf d) d).idlSeqno = d.idlSeqno ∧
      (intfs.foldl (fun d intf => ovsdbIfIntfConfigure P intf d) d).ovsIntfs = d.ovsIntfs := by
  refine List.foldlRecOn (motive := fun d' : Pmd σ => d'.idlSeqno = d.idlSeqno ∧
    d'.ovsIntfs = d.ovsIntfs) intfs _ ⟨rfl, rfl⟩ fun d' hd intf _ => ?_
  unfold ovsdbIfIntfConfigure
  cases d'.ovsIntfs.find intf.name <;> exact hd

namespace System.Steady

variable {contentsAt : Nat → Idl} {nameOf subNameOf : Uuid → String}
  {reads : List (Subsystem → YamlFiles)} {s : System σ} {files : Subsystem → YamlFiles}

/-- The ports that are created at first are in place. -/
theorem inPlace_init (hfiles : YamlFiles.Readable files) {idl : Idl}
    (hidl : idl.WellFormed nameOf subNameOf) (seqno : Nat) (world : σ) :
    InPlace idl (pmOvsdbIfInit P idl seqno files world) ∧
      (pmOvsdbIfInit P idl seqno files world).idlSeqno = seqno := by
  let d₀ : Pmd σ := { idlSeqno := seqno, world := world }
  let d₁ := idl.subsystems.foldl (ovsdbIfSubsysProcess P idl files) d₀
  have hgrown : Grown idl idl.subsystems d₀ d₁ :=
    grown_subsystems hfiles _ d₀ hidl.subsystems.unique
  have hend : pmOvsdbIfInit P idl seqno files world =
      idl.interfaces.foldl (fun d intf => ovsdbIfIntfConfigure P intf d) d₁ := rfl
  obtain ⟨hseqno, hports⟩ := ovsIntfs_ovsdbIfIntfConfigure (P := P) idl.interfaces d₁
  have hyaml := (ovsSubs_configureInterfaces (P := P) idl.interfaces d₁).2
  rw [hend]
  refine ⟨⟨fun n p hn => ?_, fun sub hsub intf y hw => ?_⟩, hseqno.trans hgrown.seqno⟩
  · rw [hports] at hn
    rcases hgrown.fresh n p hn with hn₀ | ⟨-, sub, -, intf, y, hw, hname, rfl⟩
    · cases hn₀
    · exact ⟨intf, Idl.mem_interfaces_of_mem hw.1, rfl, hname, rfl⟩
  · rw [hyaml] at hw
    rw [hports]
    exact hgrown.complete sub hsub intf y hw

/-- What is recorded at first. -/
theorem recorded_init {idl : Idl} (hidl : idl.NamedSubsystems subNameOf)
    {IsRow : Subsystem → Prop} (hread : files ∈ reads) (hrows : ∀ sub ∈ idl.subsystems, IsRow sub)
    (seqno : Nat) (world : σ) :
    let d := pmOvsdbIfInit P idl seqno files world
    d.Recorded subNameOf ∧ idl.KnownTo d ∧ d.Sourced reads IsRow := by
  intro d
  let d₀ : Pmd σ := { idlSeqno := seqno, world := world }
  let d₁ := idl.subsystems.foldl (ovsdbIfSubsysProcess P idl files) d₀
  obtain ⟨hsubs, hyaml⟩ := ovsSubs_configureInterfaces (P := P) idl.interfaces d₁
  have hproc : Processed files idl.subsystems d₀ d₁ :=
    processed_subsystems idl.subsystems d₀ hidl.unique
  -- nothing is recorded before the first reads
  have hrecorded₀ : d₀.Recorded subNameOf := ⟨List.nodup_nil, fun _ _ hn => by cases hn⟩
  have hsourced₀ : d₀.Sourced reads IsRow := fun _ _ hn => by cases hn
  have hsubs₀ : d₀.ovsSubs = (deleteSubsystems idl d₀).ovsSubs := rfl
  obtain ⟨hrecorded, hknown⟩ := hrecorded₀.reconfigure hidl hsubs₀ rfl hproc
  have hknown₁ : idl.KnownTo d₁ := fun sub hm => (hknown sub hm).1
  exact ⟨hrecorded.congr hsubs, hknown₁.congr hsubs,
    (hsourced₀.process hproc hread hrows).congr hsubs hyaml⟩

theorem initial (hwf : ∀ n, (contentsAt n).WellFormed nameOf subNameOf)
    (hfiles : YamlFiles.Readable files) (hread : files ∈ reads) (seqno : Nat) (world : σ)
    (db : Database) :
    (initial P (contentsAt seqno) seqno files world db).Steady contentsAt nameOf subNameOf
      reads := by
  obtain ⟨hinPlace, hseqno⟩ := inPlace_init (P := P) hfiles (hwf seqno) seqno world
  obtain ⟨hrecorded, hknown, hsourced⟩ := recorded_init (P := P) (hwf seqno).subsystems hread
    (fun sub hm => ⟨seqno, hm⟩ : ∀ sub ∈ (contentsAt seqno).subsystems, RowOf contentsAt sub)
    seqno world
  have hcontents : contentsAt (pmOvsdbIfInit P (contentsAt seqno) seqno files world).idlSeqno =
      contentsAt seqno := congrArg contentsAt hseqno
  refine ⟨rfl, ?_, ?_, hrecorded, ?_, hsourced⟩
  · exact Pmd.Holds.init (fun _ _ _ _ hplug => ⟨hplug, rfl⟩) (hwf seqno).named
      (fun _ _ _ _ => trivial) seqno world
  · show InPlace (contentsAt (pmOvsdbIfInit P (contentsAt seqno) seqno files world).idlSeqno) _
    rw [hcontents]
    exact hinPlace
  · show (contentsAt (pmOvsdbIfInit P (contentsAt seqno) seqno files world).idlSeqno).KnownTo _
    rw [hcontents]
    exact hknown

/-- **Every reconfiguration reconciles the ports.** -/
theorem reconfigure (h : s.Steady contentsAt nameOf subNameOf reads)
    (hwf : ∀ n, (contentsAt n).WellFormed nameOf subNameOf) (hfiles : YamlFiles.Readable files)
    (hread : files ∈ reads) :
    Reconciled s.idl files s.pmd (OpsPmd.step P s (.reconfigure files)).pmd ∧
      s.idl.KnownTo (OpsPmd.step P s (.reconfigure files)).pmd ∧
      (OpsPmd.step P s (.reconfigure files)).Steady contentsAt nameOf subNameOf reads := by
  have hports : (OpsPmd.step P s (.reconfigure files)).pmd.Holds nameOf (fun _ => True)
      PmPort.Plain :=
    h.ports.reconfigure (fun _ _ _ _ hplug => ⟨hplug, rfl⟩) (fun _ _ hp => hp)
      (by rw [h.idl]; exact (hwf _).named) (fun _ _ _ _ => trivial) s.seqno
  by_cases heq : s.seqno = s.pmd.idlSeqno
  · have hstep : OpsPmd.step P s (.reconfigure files) = s :=
      congrArg (fun d => ({ s with pmd := d } : System σ)) (if_pos heq)
    have hsame : s.idl = contentsAt s.pmd.idlSeqno := h.idl.trans (congrArg contentsAt heq)
    have hinPlace : InPlace s.idl s.pmd := hsame ▸ h.inPlace
    have hknown : s.idl.KnownTo s.pmd := hsame ▸ h.known
    rw [hstep]
    exact ⟨reconciled_of_eq h.ports hinPlace hknown, hknown, h⟩
  · have hidl : s.idl.WellFormed nameOf subNameOf := by
      rw [h.idl]
      exact hwf _
    have hrows : ∀ sub ∈ s.idl.subsystems, RowOf contentsAt sub := by
      intro sub hm
      rw [h.idl] at hm
      exact ⟨s.seqno, hm⟩
    obtain ⟨hrecorded, hsourced, hknown, htables⟩ := recorded_of_ne (P := P) h.recorded
      hidl.subsystems heq h.sourced hread hrows
    have hrec := reconciled_of_ne (P := P) h.ports
      (fun _ _ _ hplug => ⟨hplug, rfl⟩) (fun _ _ hp => hp) hidl hfiles heq htables
    have hcontents : contentsAt (OpsPmd.step P s (.reconfigure files)).pmd.idlSeqno = s.idl :=
      (congrArg contentsAt (idlSeqno_reconfigure files)).trans h.idl.symm
    refine ⟨hrec, hknown, h.idl, hports, ?_, hrecorded, ?_, hsourced⟩
    · rw [hcontents]
      exact hrec.inPlace
    · rw [hcontents]
      exact hknown

/-- A poll leaves the uuids and `hw_enable` of all ports. -/
theorem readState (h : s.Steady contentsAt nameOf subNameOf reads) (change : σ → σ) :
    (OpsPmd.step P s (.readState change)).Steady contentsAt nameOf subNameOf reads := by
  have hworld : ({ s.pmd with world := change s.pmd.world } : Pmd σ).Holds nameOf
      (fun _ => True) PmPort.Plain := h.ports.congr rfl rfl
  have hsame : ∀ {p : PmPort} (w : σ), p.Plain →
      PmPort.SameSetup p (pmReadModuleState P p w).2.1 :=
    fun w hp => sameSetup_pmReadModuleState hp.1 hp.2 w
  refine ⟨h.idl, hworld.readState fun _ p w _ hp => ?_, h.inPlace.congr rfl ?_ fun n p' hn => ?_,
    h.recorded.congr rfl, h.known, h.sourced⟩
  · refine ⟨(hsame w hp).toPortId, ?_, (hsame w hp).a2ReadRequested.trans hp.2⟩
    rw [(hsame w hp).toPortId]
    exact hp.1
  · exact Shash.keys_mapAccum _ _ _
  · obtain ⟨p, w, hm, rfl⟩ := Shash.mem_mapAccum (Shash.mem_of_find hn)
    have hp := hsame w (h.ports.port n p hm)
    refine ⟨p, h.ports.unique.find_of_mem hm, ?_, hp.hwEnable⟩
    rw [hp.toPortId]

/-- An update leaves all but the marks. -/
theorem update (h : s.Steady contentsAt nameOf subNameOf reads) (committed : Bool) :
    (OpsPmd.step P s (.update committed)).Steady contentsAt nameOf subNameOf reads := by
  let d := (pmOvsdbUpdate s.idl committed s.pmd s.db).1
  have hseqno : d.idlSeqno = s.pmd.idlSeqno := by
    rw [show d = _ from congrArg Prod.fst (pmOvsdbUpdate_eq ..)]
  have hsubs : d.ovsSubs = s.pmd.ovsSubs := by
    rw [show d = _ from congrArg Prod.fst (pmOvsdbUpdate_eq ..)]
  have hyaml : d.yaml = s.pmd.yaml := by
    rw [show d = _ from congrArg Prod.fst (pmOvsdbUpdate_eq ..)]
  have hkeys : d.ovsIntfs.keys = s.pmd.ovsIntfs.keys := by
    rw [show d = _ from congrArg Prod.fst (pmOvsdbUpdate_eq ..)]
    simp [Shash.keys]
  have hsettled : ∀ p : PmPort, (p.settled s.idl).hwEnable = p.hwEnable ∧
      (p.settled s.idl).a2ReadRequested = p.a2ReadRequested := by
    intro p
    unfold PmPort.settled
    split <;> exact ⟨rfl, rfl⟩
  have hports : d.Holds nameOf (fun _ => True) PmPort.Plain := by
    refine h.ports.update fun n p _ hp => ⟨?_, (hsettled p).2.trans hp.2⟩
    rw [PmPort.settled_toPortId]
    exact hp.1
  have hinPlace : InPlace (contentsAt s.pmd.idlSeqno) d := by
    refine h.inPlace.congr hyaml hkeys fun n p' hn => ?_
    obtain ⟨p, hm, rfl⟩ := mem_ovsIntfs_update.mp (Shash.mem_of_find hn)
    refine ⟨p, h.ports.unique.find_of_mem hm, ?_, (hsettled p).1⟩
    rw [PmPort.settled_toPortId]
  have hcontents : contentsAt d.idlSeqno = contentsAt s.pmd.idlSeqno := congrArg contentsAt hseqno
  exact ⟨h.idl, hports, hcontents ▸ hinPlace, h.recorded.congr hsubs,
    hcontents ▸ h.known.congr hsubs, h.sourced.congr hsubs hyaml⟩

theorem step (h : s.Steady contentsAt nameOf subNameOf reads)
    (hwf : ∀ n, (contentsAt n).WellFormed nameOf subNameOf) {e : Event σ}
    (he : e.Orderly contentsAt) (hreads : ∀ files ∈ e.reads, files ∈ reads) :
    (step P s e).Steady contentsAt nameOf subNameOf reads := by
  cases e with
  | idlRun idl seqno => exact ⟨he, h.ports, h.inPlace, h.recorded, h.known, h.sourced⟩
  | reconfigure files => exact (h.reconfigure hwf he (hreads files (List.mem_singleton_self _))).2.2
  | readState change => exact h.readState change
  | update committed => exact h.update committed

end System.Steady

/--
**After every call of `pmd_reconfigure`, in any run of the daemon, the ports are those of the
database.** Names are unique and immutable, the sequence number changes with the contents, and all
YAML files can be read. A subsystem has the YAML ports that one of the reads of the run gave for its
row: a row that is new to this call those in `files`.
-/
theorem reconciled_after_reconfigure (P : Platform σ) {contentsAt : Nat → Idl}
    {nameOf subNameOf : Uuid → String} (hwf : ∀ n, (contentsAt n).WellFormed nameOf subNameOf)
    {files₀ files : Subsystem → YamlFiles} (hfiles₀ : YamlFiles.Readable files₀)
    (hfiles : YamlFiles.Readable files) (seqno : Nat) (world : σ) (db : Database)
    (es : List (Event σ)) (hes : ∀ e ∈ es, e.Orderly contentsAt) :
    let s := Run.exec (step P) (initial P (contentsAt seqno) seqno files₀ world db) es
    let after := (step P s (.reconfigure files)).pmd
    Reconciled s.idl files s.pmd after ∧
      ∀ sub ∈ s.idl.subsystems, after.ovsSubs.find sub.name = some sub.uuid ∧
        ∃ read ∈ files₀ :: files :: es.flatMap Event.reads, ∃ sub', RowOf contentsAt sub' ∧
          sub'.uuid = sub.uuid ∧ sub'.name = sub.name ∧ after.yaml sub.name = (read sub').ports := by
  intro s after
  let reads := files₀ :: files :: es.flatMap Event.reads
  have hreads : ∀ e ∈ es, ∀ read ∈ e.reads, read ∈ reads := fun e he read hread =>
    List.mem_cons_of_mem _ (List.mem_cons_of_mem _ (List.mem_flatMap.mpr ⟨e, he, hread⟩))
  have hsteady : s.Steady contentsAt nameOf subNameOf reads :=
    Run.exec_invariant (fun _ e hs he => hs.step hwf (hes e he) (hreads e he))
      (System.Steady.initial hwf hfiles₀ (List.mem_cons_self ..) seqno world db)
      (Run.along_of_forall fun _ he => he)
  obtain ⟨hrec, hknown, hafter⟩ :=
    hsteady.reconfigure (P := P) hwf hfiles (List.mem_cons_of_mem _ (List.mem_cons_self ..))
  refine ⟨hrec, fun sub hm => ⟨hknown sub hm, ?_⟩⟩
  obtain ⟨read, hread, sub', hrow, hname, huuid, hports⟩ :=
    hafter.sourced sub.name sub.uuid (hknown sub hm)
  exact ⟨read, hread, sub', hrow, huuid, hname, hports⟩

/-- The contents of an IDL whose only interface is deleted and created again. -/
def recreatedAt (seqno : Nat) : Idl :=
  if seqno = 0 then onePortIdl
  else { onePortIdl with interfaces := [⟨4, "1", []⟩], subsystems := [⟨2, "base", "", [4]⟩] }

/-- The interface is deleted and created again between two calls. -/
theorem reconciled_after_recreation :
    let es : List (Event SimData) :=
      [.reconfigure onePortFiles, .readState id, .idlRun (recreatedAt 1) 1]
    let s := Run.exec (step simulation)
      (initial simulation (recreatedAt 0) 0 onePortFiles {} emptyDatabase) es
    let after := (step simulation s (.reconfigure onePortFiles)).pmd
    Reconciled s.idl onePortFiles s.pmd after ∧
      ∀ sub ∈ s.idl.subsystems, after.ovsSubs.find sub.name = some sub.uuid ∧
        ∃ read ∈ onePortFiles :: onePortFiles :: es.flatMap Event.reads, ∃ sub',
          RowOf recreatedAt sub' ∧ sub'.uuid = sub.uuid ∧ sub'.name = sub.name ∧
            after.yaml sub.name = (read sub').ports := by
  have hwf : ∀ n, (recreatedAt n).WellFormed (fun _ => "1") fun _ => "base" := by
    intro n
    unfold recreatedAt
    split
    · exact ⟨named_onePortIdl, by decide, by simp [onePortIdl], by decide⟩
    · exact ⟨by simp [Idl.Named], by decide, by simp, by decide⟩
  have hfiles : YamlFiles.Readable onePortFiles := fun _ => rfl
  refine reconciled_after_reconfigure simulation hwf hfiles hfiles 0 {} emptyDatabase _ ?_
  intro e he
  simp only [List.mem_cons, List.not_mem_nil, or_false] at he
  rcases he with rfl | rfl | rfl
  · exact hfiles
  · trivial
  · rfl

end OpsPmd
