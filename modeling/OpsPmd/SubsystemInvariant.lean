import OpsPmd.OvsdbAccess

/-!
# What the daemon knows of its subsystems

A subsystem is recorded in `ovs_subs` when its files are read, and taken out when its row is gone.
In between its ports are those that were read, whatever happens to the files.

* `Processed` — what the loop over the subsystems does to the records and to the YAML handle
* `find_deleteSubsystems` — which records are left when rows are gone
* `Pmd.Recorded`, `Pmd.Sourced` — every record is that of a row whose files were read
-/

namespace OpsPmd

variable {σ : Type} {P : Platform σ} {idl : Idl} {files : Subsystem → YamlFiles}

/-! ## What leaves the subsystems alone -/

theorem ovsSubs_ovsdbIfIntfCreate (intf : Interface) (subName : String) (d : Pmd σ) :
    (ovsdbIfIntfCreate P intf subName d).ovsSubs = d.ovsSubs ∧
      (ovsdbIfIntfCreate P intf subName d).yaml = d.yaml := by
  unfold ovsdbIfIntfCreate
  cases pmGetYamlPort d.yaml subName intf.name with
  | none => exact ⟨rfl, rfl⟩
  | some y =>
    dsimp only
    split <;> exact ⟨rfl, rfl⟩

theorem ovsSubs_createInterfaces (subName : String) (intfs : List Interface) (d : Pmd σ) :
    (createInterfaces P subName intfs d).ovsSubs = d.ovsSubs ∧
      (createInterfaces P subName intfs d).yaml = d.yaml := by
  refine List.foldlRecOn (motive := fun d' : Pmd σ => d'.ovsSubs = d.ovsSubs ∧ d'.yaml = d.yaml)
    intfs _ ⟨rfl, rfl⟩ fun d' hd intf _ => ?_
  cases d'.ovsIntfs.find intf.name with
  | some _ => exact hd
  | none =>
    obtain ⟨hsubs, hyaml⟩ := ovsSubs_ovsdbIfIntfCreate (P := P) intf subName d'
    exact ⟨hsubs.trans hd.1, hyaml.trans hd.2⟩

theorem ovsSubs_modifyInterfaces (intfs : List Interface) (d : Pmd σ) :
    (intfs.foldl (modifyInterface P) d).ovsSubs = d.ovsSubs ∧
      (intfs.foldl (modifyInterface P) d).yaml = d.yaml := by
  refine List.foldlRecOn (motive := fun d' : Pmd σ => d'.ovsSubs = d.ovsSubs ∧ d'.yaml = d.yaml)
    intfs _ ⟨rfl, rfl⟩ fun d' hd intf _ => ?_
  unfold modifyInterface
  cases d'.ovsIntfs.find intf.name <;> exact hd

theorem ovsSubs_configureInterfaces (intfs : List Interface) (d : Pmd σ) :
    (intfs.foldl (fun d intf => ovsdbIfIntfConfigure P intf d) d).ovsSubs = d.ovsSubs ∧
      (intfs.foldl (fun d intf => ovsdbIfIntfConfigure P intf d) d).yaml = d.yaml := by
  refine List.foldlRecOn (motive := fun d' : Pmd σ => d'.ovsSubs = d.ovsSubs ∧ d'.yaml = d.yaml)
    intfs _ ⟨rfl, rfl⟩ fun d' hd intf _ => ?_
  unfold ovsdbIfIntfConfigure
  cases d'.ovsIntfs.find intf.name <;> exact hd

/-! ## Processing -/

/-- The subsystems `subs` are recorded, and of those that were not the files were read. -/
structure Processed (files : Subsystem → YamlFiles) (subs : List Subsystem) (d d' : Pmd σ) :
    Prop where
  kept : ∀ n row, d.ovsSubs.find n = some row → d'.ovsSubs.find n = some row
  fresh : ∀ n row, d'.ovsSubs.find n = some row → d.ovsSubs.find n = some row ∨
    d.ovsSubs.find n = none ∧ ∃ sub ∈ subs, sub.name = n ∧ sub.uuid = row
  complete : ∀ sub ∈ subs, (d'.ovsSubs.find sub.name).isSome = true
  unique : d.ovsSubs.Unique → d'.ovsSubs.Unique
  /-- The files of a recorded subsystem are not read again. -/
  known : ∀ n, (d.ovsSubs.find n).isSome = true → d'.yaml n = d.yaml n
  read : ∀ sub ∈ subs, d.ovsSubs.find sub.name = none → d'.yaml sub.name = (files sub).ports

/-- What leaves the records and the YAML handle does not matter. -/
theorem Processed.congr {subs : List Subsystem} {d d' d'' : Pmd σ} (h : Processed files subs d d')
    (hsubs : d''.ovsSubs = d'.ovsSubs) (hyaml : d''.yaml = d'.yaml) :
    Processed files subs d d'' where
  kept n row hn := hsubs ▸ h.kept n row hn
  fresh n row hn := h.fresh n row (hsubs ▸ hn)
  complete sub hm := hsubs ▸ h.complete sub hm
  unique hu := hsubs ▸ h.unique hu
  known n hn := hyaml ▸ h.known n hn
  read sub hm hnone := hyaml ▸ h.read sub hm hnone

/-- A subsystem that is recorded already. -/
theorem processed_of_recorded {d : Pmd σ} {sub : Subsystem}
    (h : (d.ovsSubs.find sub.name).isSome = true) : Processed files [sub] d d := by
  refine ⟨fun _ _ hn => hn, fun _ _ hn => Or.inl hn, fun sub' hm => ?_, id, fun _ _ => rfl,
    fun sub' hm hnone => ?_⟩
  · rwa [List.mem_singleton.mp hm]
  · rw [List.mem_singleton.mp hm] at hnone
    rw [hnone] at h
    cases h

/-- A subsystem is recorded, and its files are read. -/
theorem processed_record {d : Pmd σ} {sub : Subsystem} (h : d.ovsSubs.find sub.name = none) :
    Processed files [sub] d
      { d with
        ovsSubs := d.ovsSubs.add sub.name sub.uuid
        yaml := Function.update d.yaml sub.name (files sub).ports } := by
  have hne : ∀ n, (d.ovsSubs.find n).isSome = true → sub.name ≠ n := by
    rintro n hn rfl
    rw [h] at hn
    cases hn
  refine ⟨fun n row hn => ?_, fun n row hn => ?_, fun sub' hm => ?_, fun hu => hu.add h,
    fun n hn => Function.update_of_ne (hne n hn).symm _ _, fun sub' hm _ => ?_⟩
  · exact Shash.find_add.trans ((if_neg (hne n (by rw [hn]; rfl))).trans hn)
  · rw [Shash.find_add] at hn
    by_cases hname : sub.name = n
    · rw [if_pos hname] at hn
      exact Or.inr ⟨hname ▸ h, sub, List.mem_singleton_self sub, hname, Option.some.inj hn⟩
    · rw [if_neg hname] at hn
      exact Or.inl hn
  · obtain rfl := List.mem_singleton.mp hm
    rw [Shash.find_add, if_pos rfl]
    rfl
  · obtain rfl := List.mem_singleton.mp hm
    exact Function.update_self ..

theorem processed_ovsdbIfSubsysProcess (d : Pmd σ) (sub : Subsystem) :
    Processed files [sub] d (ovsdbIfSubsysProcess P idl files d sub) := by
  have hports : ∀ {d' : Pmd σ}, Processed files [sub] d d' →
      Processed files [sub] d (createInterfaces P sub.name (idl.interfacesOf sub) d') :=
    fun h => h.congr (ovsSubs_createInterfaces ..).1 (ovsSubs_createInterfaces ..).2
  unfold ovsdbIfSubsysProcess
  cases hfind : d.ovsSubs.find sub.name with
  | some row => exact hports (processed_of_recorded (by rw [hfind]; rfl))
  | none =>
    -- recorded and read, whether the files are then used or not
    dsimp only
    split
    · exact processed_record hfind
    · exact hports (processed_record hfind)

theorem Processed.cons {sub : Subsystem} {subs : List Subsystem} {d d' d'' : Pmd σ}
    (h : Processed files [sub] d d') (h' : Processed files subs d' d'')
    (hname : sub.name ∉ subs.map Subsystem.name) : Processed files (sub :: subs) d d'' := by
  have hsub : (d'.ovsSubs.find sub.name).isSome = true := h.complete sub (List.mem_singleton_self sub)
  refine ⟨fun n row hn => h'.kept n row (h.kept n row hn), fun n row hn => ?_, fun sub' hm => ?_,
    fun hu => h'.unique (h.unique hu), fun n hn => ?_, fun sub' hm hnone => ?_⟩
  · rcases h'.fresh n row hn with hn' | ⟨hnone, sub', hm, hrest⟩
    · refine (h.fresh n row hn').imp id ?_
      rintro ⟨hnone, sub', hm, hrest⟩
      obtain rfl := List.mem_singleton.mp hm
      exact ⟨hnone, sub', List.mem_cons_self, hrest⟩
    · refine Or.inr ⟨?_, sub', List.mem_cons_of_mem _ hm, hrest⟩
      cases hfind : d.ovsSubs.find n with
      | none => rfl
      | some row' => exact absurd (hnone.symm.trans (h.kept n row' hfind)) (by simp)
  · rcases List.mem_cons.mp hm with rfl | hm
    · obtain ⟨row, hrow⟩ := Option.isSome_iff_exists.mp hsub
      rw [h'.kept _ row hrow]
      rfl
    · exact h'.complete sub' hm
  · obtain ⟨row, hrow⟩ := Option.isSome_iff_exists.mp hn
    rw [h'.known n (by rw [h.kept n row hrow]; rfl), h.known n hn]
  · rcases List.mem_cons.mp hm with rfl | hrest
    · rw [h'.known _ hsub, h.read _ (List.mem_singleton_self _) hnone]
    · -- the first subsystem has another name, so this one is still not recorded
      refine h'.read sub' hrest ?_
      cases hfind : d'.ovsSubs.find sub'.name with
      | none => rfl
      | some row =>
        rcases h.fresh _ row hfind with hold | ⟨-, sub₀, hm₀, hname₀, -⟩
        · rw [hnone] at hold
          cases hold
        · obtain rfl := List.mem_singleton.mp hm₀
          exact absurd (List.mem_map.mpr ⟨sub', hrest, hname₀.symm⟩) hname

/-- **The loop over the subsystems records all of them, and reads the files of the new ones.** -/
theorem processed_subsystems : ∀ (subs : List Subsystem) (d : Pmd σ),
    (subs.map Subsystem.name).Nodup →
      Processed files subs d (subs.foldl (ovsdbIfSubsysProcess P idl files) d)
  | [], d, _ =>
    ⟨fun _ _ hn => hn, fun _ _ hn => Or.inl hn, fun _ hm => (List.not_mem_nil hm).elim, id,
      fun _ _ => rfl, fun _ hm => (List.not_mem_nil hm).elim⟩
  | sub :: subs, d, hnd => by
    rw [List.map_cons, List.nodup_cons] at hnd
    exact (processed_ovsdbIfSubsysProcess d sub).cons (processed_subsystems subs _ hnd.2) hnd.1

theorem find_deleteSubsystems {d : Pmd σ} (h : d.ovsSubs.Unique) (n : String) :
    (deleteSubsystems idl d).ovsSubs.find n =
      (d.ovsSubs.find n).filter fun row => (idl.subsystemForUuid row).isSome :=
  h.find_deleteAll fun _ _ => rfl

theorem unique_deleteSubsystems {d : Pmd σ} (h : d.ovsSubs.Unique) :
    (deleteSubsystems idl d).ovsSubs.Unique := by
  show (d.ovsSubs.deleteAll _ _).Unique
  rw [h.deleteAll_eq_filter fun _ _ => rfl]
  exact h.filter _

/-! ## Records and rows -/

/-- Names of subsystems are unique, and belong to their rows. -/
structure Idl.NamedSubsystems (subNameOf : Uuid → String) (idl : Idl) : Prop where
  named : ∀ sub ∈ idl.subsystems, subNameOf sub.uuid = sub.name
  unique : (idl.subsystems.map Subsystem.name).Nodup

theorem Idl.mem_subsystems_of_forUuid {row : Uuid} {sub : Subsystem}
    (h : idl.subsystemForUuid row = some sub) : sub ∈ idl.subsystems ∧ sub.uuid = row :=
  ⟨List.mem_of_find?_eq_some h, by simpa using List.find?_some h⟩

theorem Idl.isSome_subsystemForUuid {sub : Subsystem} (h : sub ∈ idl.subsystems) :
    (idl.subsystemForUuid sub.uuid).isSome = true :=
  List.find?_isSome.mpr ⟨sub, h, by simp⟩

/-- Each name is recorded once, with a row that it belongs to. -/
structure Pmd.Recorded (subNameOf : Uuid → String) (d : Pmd σ) : Prop where
  unique : d.ovsSubs.Unique
  named : ∀ n row, d.ovsSubs.find n = some row → subNameOf row = n

/--
The ports in the YAML handle for a subsystem, when `pmd_reconfigure` is through with it: those it
had if its row was known, and those in its files if not.
-/
def Pmd.tableOf (d : Pmd σ) (files : Subsystem → YamlFiles) (sub : Subsystem) : List YamlPort :=
  if d.ovsSubs.find sub.name = some sub.uuid then d.yaml sub.name else (files sub).ports

namespace Pmd.Recorded

variable {subNameOf : Uuid → String} {d : Pmd σ}

theorem congr (h : d.Recorded subNameOf) {d' : Pmd σ} (hsubs : d'.ovsSubs = d.ovsSubs) :
    d'.Recorded subNameOf := ⟨hsubs ▸ h.unique, fun n row hn => h.named n row (hsubs ▸ hn)⟩

/-- A record of the name whose row is there is that of the subsystem. -/
theorem eq_of_find (h : d.Recorded subNameOf) (hidl : idl.NamedSubsystems subNameOf)
    {sub : Subsystem} (hm : sub ∈ idl.subsystems) {row : Uuid}
    (hfind : d.ovsSubs.find sub.name = some row)
    (hrow : (idl.subsystemForUuid row).isSome = true) : row = sub.uuid := by
  obtain ⟨sub', hfor⟩ := Option.isSome_iff_exists.mp hrow
  obtain ⟨hm', rfl⟩ := Idl.mem_subsystems_of_forUuid hfor
  have hname : sub'.name = sub.name := by rw [← hidl.named sub' hm', h.named _ _ hfind]
  rw [List.inj_on_of_nodup_map hidl.unique hm' hm hname]

/-- **A reconfiguration leaves a record for each row, and the ports of `tableOf`.** -/
theorem reconfigure (h : d.Recorded subNameOf) (hidl : idl.NamedSubsystems subNameOf) {d₁ : Pmd σ}
    (hsubs : d₁.ovsSubs = (deleteSubsystems idl d).ovsSubs) (hyaml : d₁.yaml = d.yaml)
    {d₂ : Pmd σ} (hproc : Processed files idl.subsystems d₁ d₂) :
    d₂.Recorded subNameOf ∧ ∀ sub ∈ idl.subsystems,
      d₂.ovsSubs.find sub.name = some sub.uuid ∧ d₂.yaml sub.name = d.tableOf files sub := by
  have hfind₁ : ∀ n, d₁.ovsSubs.find n =
      (d.ovsSubs.find n).filter fun row => (idl.subsystemForUuid row).isSome := by
    intro n
    rw [hsubs, find_deleteSubsystems h.unique]
  have hunique₁ : d₁.ovsSubs.Unique := hsubs ▸ unique_deleteSubsystems h.unique
  have hkept : ∀ n row, d₁.ovsSubs.find n = some row →
      d.ovsSubs.find n = some row ∧ (idl.subsystemForUuid row).isSome = true := by
    intro n row hn
    rw [hfind₁, Option.filter_eq_some_iff] at hn
    exact hn
  refine ⟨⟨hproc.unique hunique₁, fun n row hn => ?_⟩, fun sub hm => ⟨?_, ?_⟩⟩
  · rcases hproc.fresh n row hn with hold | ⟨-, sub, hm, rfl, rfl⟩
    · exact h.named n row (hkept n row hold).1
    · exact hidl.named sub hm
  · obtain ⟨row, hrow⟩ := Option.isSome_iff_exists.mp (hproc.complete sub hm)
    rw [hrow]
    rcases hproc.fresh _ row hrow with hold | ⟨-, sub', hm', hname, rfl⟩
    · obtain ⟨hd, hthere⟩ := hkept _ row hold
      rw [h.eq_of_find hidl hm hd hthere]
    · rw [List.inj_on_of_nodup_map hidl.unique hm' hm hname]
  · unfold tableOf
    by_cases hknown : d.ovsSubs.find sub.name = some sub.uuid
    · have hd₁ : d₁.ovsSubs.find sub.name = some sub.uuid := by
        rw [hfind₁, Option.filter_eq_some_iff]
        exact ⟨hknown, Idl.isSome_subsystemForUuid hm⟩
      rw [if_pos hknown, hproc.known _ (by rw [hd₁]; rfl), hyaml]
    · rw [if_neg hknown]
      refine hproc.read sub hm ?_
      cases hd₁ : d₁.ovsSubs.find sub.name with
      | none => rfl
      | some row =>
        obtain ⟨hd, hthere⟩ := hkept _ row hd₁
        rw [h.eq_of_find hidl hm hd hthere] at hd
        exact absurd hd hknown

end Pmd.Recorded

/-- The ports of each recorded subsystem are those that one of `reads` gave for its row. -/
def Pmd.Sourced (reads : List (Subsystem → YamlFiles)) (IsRow : Subsystem → Prop) (d : Pmd σ) :
    Prop :=
  ∀ n row, d.ovsSubs.find n = some row → ∃ files ∈ reads, ∃ sub, IsRow sub ∧ sub.name = n ∧
    sub.uuid = row ∧ d.yaml n = (files sub).ports

namespace Pmd.Sourced

variable {reads : List (Subsystem → YamlFiles)} {IsRow : Subsystem → Prop} {d d' : Pmd σ}

theorem congr (h : d.Sourced reads IsRow) (hsubs : d'.ovsSubs = d.ovsSubs)
    (hyaml : d'.yaml = d.yaml) : d'.Sourced reads IsRow := by
  intro n row hn
  rw [hsubs] at hn
  rw [hyaml]
  exact h n row hn

theorem deleteSubsystems (h : d.Sourced reads IsRow) (hunique : d.ovsSubs.Unique) (idl : Idl) :
    (deleteSubsystems idl d).Sourced reads IsRow := by
  intro n row hn
  rw [find_deleteSubsystems hunique, Option.filter_eq_some_iff] at hn
  exact h n row hn.1

theorem process {subs : List Subsystem} (h : d.Sourced reads IsRow)
    (hproc : Processed files subs d d') (hread : files ∈ reads) (hrows : ∀ sub ∈ subs, IsRow sub) :
    d'.Sourced reads IsRow := by
  intro n row hn
  rcases hproc.fresh n row hn with hold | ⟨hnone, sub, hm, rfl, rfl⟩
  · rw [hproc.known n (by rw [hold]; rfl)]
    exact h n row hold
  · exact ⟨files, hread, sub, hrows sub hm, rfl, rfl, hproc.read sub hm hnone⟩

end Pmd.Sourced

end OpsPmd
