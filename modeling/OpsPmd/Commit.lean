import OpsPmd.DaemonInvariant

/-!
# What an update publishes

`pm_ovsdb_update` makes one transaction of the ports whose mark is up and whose row exists, takes
their marks down and commits.

* `pmOvsdbUpdate_eq` — ports, transaction and commit in closed form
* `pmInfo_update` — what the database has for a port afterwards
-/

namespace OpsPmd

variable {σ : Type} {idl : Idl} {port : PmPort}

/-! ## One port -/

/-- The port is part of the next transaction. -/
def PmPort.Due (idl : Idl) (port : PmPort) : Prop :=
  (idl.interfaceForUuid port.uuid).isSome = true ∧ port.moduleInfoChanged = true

instance (idl : Idl) (port : PmPort) : Decidable (port.Due idl) :=
  inferInstanceAs (Decidable (_ ∧ _))

/-- The port after the loop of `pm_ovsdb_update`. -/
def PmPort.settled (idl : Idl) (port : PmPort) : PmPort :=
  if port.Due idl then { port with cells := port.cells.settle } else port

/-- What the loop adds to the transaction for the port. -/
def PmPort.writes (idl : Idl) (port : PmPort) : List TxnOp :=
  if port.Due idl then [.setPmInfo port.uuid port.pmInfo] else []

theorem updatePort_eq (port : PmPort) (txn : List TxnOp) :
    updatePort idl port txn = (port.settled idl, txn ++ port.writes idl) := by
  unfold PmPort.settled PmPort.writes
  by_cases h : port.Due idl
  · rw [if_pos h, if_pos h]
    obtain ⟨row, hrow⟩ := Option.isSome_iff_exists.mp h.1
    simp [updatePort, hrow, h.2]
  · rw [if_neg h, if_neg h, List.append_nil, updatePort]
    cases hrow : idl.interfaceForUuid port.uuid with
    | none => rfl
    | some row =>
      have hc : port.moduleInfoChanged = false := by simpa [PmPort.Due, hrow] using h
      simp [hc]

namespace PmPort

theorem settled_toPortId : (port.settled idl).toPortId = port.toPortId := by
  unfold settled
  split <;> rfl

theorem get_settled : (port.settled idl).cells.get = port.cells.get := by
  unfold settled
  split <;> rfl

theorem pmInfo_settled : (port.settled idl).pmInfo = port.pmInfo :=
  pmInfo_congr fun c => congrFun get_settled c

/-- The mark is down afterwards wherever the row exists. -/
theorem changed_settled (hrow : (idl.interfaceForUuid port.uuid).isSome = true) :
    (port.settled idl).moduleInfoChanged = false := by
  unfold settled
  by_cases h : port.Due idl
  · rw [if_pos h]
    rfl
  · rw [if_neg h]
    simpa [Due, hrow] using h

theorem settled_of_not_due (h : ¬port.Due idl) : port.settled idl = port := if_neg h

theorem mem_writes {u : Uuid} {m : Smap} :
    .setPmInfo u m ∈ port.writes idl ↔ port.Due idl ∧ u = port.uuid ∧ m = port.pmInfo := by
  unfold writes
  by_cases h : port.Due idl <;> simp [h]

theorem setCurHw_notMem_writes {u : Uuid} {n : Int} : .setCurHw u n ∉ port.writes idl := by
  unfold writes
  split <;> simp

end PmPort

/-! ## The transaction -/

theorem mapAccum_updatePort : ∀ (ports : Shash String PmPort) (txn : List TxnOp),
    ports.mapAccum (updatePort idl) txn =
      (ports.map fun node => (node.1, node.2.settled idl),
        txn ++ ports.flatMap fun node => node.2.writes idl)
  | [], txn => by simp [Shash.mapAccum]
  | (n, p) :: ports, txn => by
    simp [Shash.mapAccum, updatePort_eq, mapAccum_updatePort ports]

/-- The daemon's own row. -/
def Idl.daemonRow (idl : Idl) : Option DaemonRow :=
  idl.daemons.find? fun row => row.name == NAME_IN_DAEMON_TABLE

/-- What `pm_ovsdb_update` adds for the daemon's own row. -/
def curHwWrites (idl : Idl) (curHwSet : Bool) : List TxnOp :=
  if curHwSet then []
  else
    match idl.daemonRow with
    | some row => [.setCurHw row.uuid 1]
    | none => []

theorem updateCurHw_eq (curHwSet : Bool) (txn : List TxnOp) :
    updateCurHw idl curHwSet txn =
      (curHwSet || idl.daemonRow.isSome, txn ++ curHwWrites idl curHwSet) := by
  unfold updateCurHw curHwWrites Idl.daemonRow
  cases curHwSet with
  | true => simp
  | false => cases idl.daemons.find? fun row => row.name == NAME_IN_DAEMON_TABLE <;> simp

/-- All that an update writes. -/
def Pmd.writes (idl : Idl) (d : Pmd σ) : List TxnOp :=
  (d.ovsIntfs.flatMap fun node => node.2.writes idl) ++ curHwWrites idl d.curHwSet

/-- **An update settles the ports and commits what was due.** -/
theorem pmOvsdbUpdate_eq (committed : Bool) (d : Pmd σ) (db : Database) :
    pmOvsdbUpdate idl committed d db =
      ({ d with
          ovsIntfs := d.ovsIntfs.map fun node => (node.1, node.2.settled idl)
          curHwSet := d.curHwSet || idl.daemonRow.isSome },
        db.commit committed (d.writes idl)) := by
  simp [pmOvsdbUpdate, mapAccum_updatePort, updateCurHw_eq, Pmd.writes]

/-! ## The database after a transaction -/

namespace Database

theorem pmInfo_foldl_of_notMem {u : Uuid} : ∀ (ops : List TxnOp) (db : Database),
    (∀ m, .setPmInfo u m ∉ ops) → (ops.foldl apply db).pmInfo u = db.pmInfo u
  | [], _, _ => rfl
  | op :: ops, db, h => by
    rw [List.foldl_cons, pmInfo_foldl_of_notMem ops _ fun m hm => h m (List.mem_cons_of_mem _ hm)]
    cases op with
    | setPmInfo u' m =>
      have hne : u ≠ u' := by
        rintro rfl
        exact h m List.mem_cons_self
      exact Function.update_of_ne hne _ _
    | setCurHw u' n => rfl

/-- Where all writes to a row agree, the row has what they say. -/
theorem pmInfo_foldl_of_mem {u : Uuid} {m : Smap} : ∀ (ops : List TxnOp) (db : Database),
    .setPmInfo u m ∈ ops → (∀ m', .setPmInfo u m' ∈ ops → m' = m) →
      (ops.foldl apply db).pmInfo u = m
  | op :: ops, db, hmem, hsame => by
    have hsame' : ∀ m', .setPmInfo u m' ∈ ops → m' = m :=
      fun m' hm' => hsame m' (List.mem_cons_of_mem _ hm')
    rw [List.foldl_cons]
    by_cases hrest : .setPmInfo u m ∈ ops
    · exact pmInfo_foldl_of_mem ops _ hrest hsame'
    · obtain rfl : op = .setPmInfo u m :=
        ((List.mem_cons.mp hmem).resolve_right hrest).symm
      rw [pmInfo_foldl_of_notMem ops _ fun m' hm' => hrest (hsame' m' hm' ▸ hm')]
      show Function.update db.pmInfo u m u = m
      rw [Function.update_self]

theorem curHw_foldl_of_notMem {u : Uuid} : ∀ (ops : List TxnOp) (db : Database),
    (∀ n, .setCurHw u n ∉ ops) → (ops.foldl apply db).curHw u = db.curHw u
  | [], _, _ => rfl
  | op :: ops, db, h => by
    rw [List.foldl_cons, curHw_foldl_of_notMem ops _ fun n hn => h n (List.mem_cons_of_mem _ hn)]
    cases op with
    | setPmInfo u' m => rfl
    | setCurHw u' n =>
      have hne : u ≠ u' := by
        rintro rfl
        exact h n List.mem_cons_self
      exact Function.update_of_ne hne _ _

end Database

section Update

variable {nameOf : Uuid → String} {Y : YamlPort → Prop} {Φ Ψ : PmPort → Prop} {d : Pmd σ}
  {committed : Bool} {db : Database}

theorem mem_ovsIntfs_update {n : String} {p' : PmPort} :
    (n, p') ∈ (pmOvsdbUpdate idl committed d db).1.ovsIntfs ↔
      ∃ p, (n, p) ∈ d.ovsIntfs ∧ p' = p.settled idl := by
  rw [pmOvsdbUpdate_eq]
  simp only [List.mem_map, Prod.mk.injEq, Prod.exists]
  constructor
  · rintro ⟨_, p, hm, rfl, rfl⟩
    exact ⟨p, hm, rfl⟩
  · rintro ⟨p, hm, rfl⟩
    exact ⟨n, p, hm, rfl, rfl⟩

theorem unique_update (h : d.ovsIntfs.Unique) :
    (pmOvsdbUpdate idl committed d db).1.ovsIntfs.Unique := by
  rw [pmOvsdbUpdate_eq]
  have hkeys : Shash.keys (d.ovsIntfs.map fun node => (node.1, node.2.settled idl)) =
      d.ovsIntfs.keys := by simp [Shash.keys]
  rw [Shash.Unique, hkeys]
  exact h

theorem setPmInfo_mem_writes {u : Uuid} {m : Smap} :
    .setPmInfo u m ∈ d.writes idl ↔
      ∃ n p, (n, p) ∈ d.ovsIntfs ∧ p.Due idl ∧ u = p.uuid ∧ m = p.pmInfo := by
  have hcur : .setPmInfo u m ∉ curHwWrites idl d.curHwSet := by
    unfold curHwWrites
    cases d.curHwSet <;> cases idl.daemonRow <;> simp
  simp only [Pmd.writes, List.mem_append, hcur, or_false, List.mem_flatMap, PmPort.mem_writes,
    Prod.exists]

/-- **The database has the map of every port that was due, if the commit succeeds.** -/
theorem Pmd.Holds.pmInfo_update (h : d.Holds nameOf Y Φ) {n : String} {p : PmPort}
    (hm : (n, p) ∈ d.ovsIntfs) :
    (pmOvsdbUpdate idl committed d db).2.pmInfo p.uuid =
      if committed = true ∧ p.Due idl then p.pmInfo else db.pmInfo p.uuid := by
  rw [pmOvsdbUpdate_eq]
  show (db.commit committed (d.writes idl)).pmInfo p.uuid = _
  unfold Database.commit
  cases committed with
  | false => simp
  | true =>
    -- no other port has this row, so nothing else is written to it
    have hown : ∀ m, .setPmInfo p.uuid m ∈ d.writes idl → p.Due idl ∧ m = p.pmInfo := by
      intro m hmem
      obtain ⟨n', p', hm', hdue, hu, rfl⟩ := setPmInfo_mem_writes.mp hmem
      obtain rfl := h.eq_of_uuid hm hm' hu
      exact ⟨hdue, rfl⟩
    simp only [if_true, true_and]
    by_cases hdue : p.Due idl
    · rw [if_pos hdue]
      exact Database.pmInfo_foldl_of_mem _ _ (setPmInfo_mem_writes.mpr ⟨n, p, hm, hdue, rfl, rfl⟩)
        fun m' hm' => (hown m' hm').2
    · rw [if_neg hdue]
      exact Database.pmInfo_foldl_of_notMem _ _ fun m hm' => hdue (hown m hm').1

/-- The same for the daemon's own row. -/
theorem curHw_update {row : DaemonRow} (hrow : idl.daemonRow = some row) :
    (pmOvsdbUpdate idl committed d db).2.curHw row.uuid =
      if committed = true ∧ d.curHwSet = false then some 1 else db.curHw row.uuid := by
  rw [pmOvsdbUpdate_eq]
  show (db.commit committed (d.writes idl)).curHw row.uuid = _
  have hports : ∀ n, .setCurHw row.uuid n ∉ d.ovsIntfs.flatMap fun node => node.2.writes idl := by
    intro n hm
    obtain ⟨node, -, hnode⟩ := List.mem_flatMap.mp hm
    exact PmPort.setCurHw_notMem_writes hnode
  unfold Database.commit Pmd.writes curHwWrites
  cases committed with
  | false => simp
  | true =>
    simp only [if_true, true_and, List.foldl_append, hrow]
    cases d.curHwSet with
    | true => simpa using Database.curHw_foldl_of_notMem _ db hports
    | false => simp [Database.apply]

theorem curHwSet_update :
    (pmOvsdbUpdate idl committed d db).1.curHwSet = (d.curHwSet || idl.daemonRow.isSome) := by
  rw [pmOvsdbUpdate_eq]

/-- **An update takes `Φ` to what settling each port takes it to.** -/
theorem Pmd.Holds.update (h : d.Holds nameOf Y Φ)
    (hsettle : ∀ n p, (n, p) ∈ d.ovsIntfs → Φ p → Ψ (p.settled idl)) :
    (pmOvsdbUpdate idl committed d db).1.Holds nameOf Y Ψ := by
  have hyaml : (pmOvsdbUpdate idl committed d db).1.yaml = d.yaml := by rw [pmOvsdbUpdate_eq]
  refine ⟨unique_update h.unique, ?_, ?_, ?_, hyaml ▸ h.yaml⟩
  all_goals
    intro n p' hm
    obtain ⟨p, hp, rfl⟩ := mem_ovsIntfs_update.mp hm
  · rw [PmPort.settled_toPortId]
    exact h.key n p hp
  · rw [PmPort.settled_toPortId]
    exact h.row n p hp
  · exact hsettle n p hp (h.port n p hp)

end Update

end OpsPmd
