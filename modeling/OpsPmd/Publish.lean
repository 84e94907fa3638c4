import OpsPmd.Dom
import OpsPmd.Lib.Shash

/-!
# The map `pm_ovsdb_update` publishes (`ovsdb_access.c`)

The loop body of `pm_ovsdb_update` is a table of guarded calls of `smap_add`, one for each column
of the two column structs other than `a0`, `a2` and `a0_uppers`.

* `rows` — the table, in the order of the source
* `Paired` — the two columns that meet in one row are null together
* `find_pmInfo` — under `Paired` the map holds each published column under its name
-/

namespace OpsPmd

/-- `struct smap`, with its pairs in the order they were added. -/
abbrev Smap := Shash String String

/-- `if (module->guard) smap_add(&pm_info, key, module->value)`. -/
structure SmapRow where
  guard : Column
  key : String
  value : Column

/-- A row with one column as guard and value, under its name. -/
def Column.row (c : Column) : SmapRow where
  guard := c
  key := c.name
  value := c

open Quantity

/-- The rows of `ovs_module_columns`. -/
def infoRows : List SmapRow :=
  [InfoColumn.cableLength, .cableTechnology, .connector, .connectorStatus, .supportedSpeeds,
    .maxSpeed, .powerMode, .vendorName, .vendorOui, .vendorPartNumber, .vendorRevision,
    .vendorSerialNumber].map fun c => (Column.info c).row

/-- The rows of a quantity of the whole module. -/
def quantityRows (q : Quantity) : List SmapRow :=
  (q.current :: (q.flags ++ q.thresholds)).map fun c => (Column.dom c).row

/-- The rows of `tx_power`. The one for `tx_power_high_alarm` tests `rx_power_high_alarm`. -/
def txPowerRows : List SmapRow :=
  (Column.dom txPower.current).row ::
    { guard := .dom (rxPower.flag .highAlarm)
      key := "tx_power_high_alarm"
      value := .dom (txPower.flag .highAlarm) } ::
    ([txPower.flag .lowAlarm, txPower.flag .highWarning, txPower.flag .lowWarning] ++
      txPower.thresholds).map fun c => (Column.dom c).row

/-- The rows of a lane. -/
def laneRows (bias power : Quantity) : List SmapRow :=
  (bias.current :: power.current ::
    (bias.flags ++ bias.thresholds ++ power.flags ++ power.thresholds)).map
      fun c => (Column.dom c).row

/-- The rows of `pm_ovsdb_update`. -/
def rows : List SmapRow :=
  infoRows ++
    quantityRows temperature ++ quantityRows vcc ++ quantityRows txBias ++ quantityRows rxPower ++
    txPowerRows ++
    laneRows tx1Bias rx1Power ++ laneRows tx2Bias rx2Power ++ laneRows tx3Bias rx3Power ++
    laneRows tx4Bias rx4Power

namespace PmPort

/-- The calls of `smap_add` for a port, with a null value as `none`. -/
def smapAdds (port : PmPort) : List (String × Option String) :=
  (rows.filter fun r => (port.cells.get r.guard).isSome).map
    fun r => (r.key, port.cells.get r.value)

/-- `pm_info` as `pm_ovsdb_update` sets it. -/
def pmInfo (port : PmPort) : Smap :=
  port.smapAdds.filterMap fun (key, value) => value.map fun v => (key, v)

end PmPort

/-! ## The table -/

/-- The columns that are published. -/
def publishedColumns : List Column := rows.map SmapRow.value

theorem keys_rows_nodup : (rows.map SmapRow.key).Nodup := by decide +kernel

theorem key_of_mem_rows : ∀ r ∈ rows, r.key = r.value.name := by decide +kernel

theorem guard_of_mem_rows : ∀ r ∈ rows, r.guard = r.value ∨
    r.guard = .dom (rxPower.flag .highAlarm) ∧ r.value = .dom (txPower.flag .highAlarm) := by
  decide +kernel

/-- What is published is every column of the two structs but the raw pages. -/
theorem mem_publishedColumns {c : Column} :
    c ∈ publishedColumns ↔ c ≠ .info .a0 ∧ c ≠ .info .a2 ∧ c ≠ .info .a0Uppers := by
  rcases c with c | ⟨q, a⟩
  · cases c <;> decide
  · cases q <;> rcases a with _ | l | l <;> (try cases l) <;> decide

/-! ## The map -/

namespace PmPort

variable {port : PmPort}

/-- The columns that meet in the row of `tx_power_high_alarm` are null together. -/
def Paired (port : PmPort) : Prop :=
  (port.dom (rxPower.flag .highAlarm)).isSome = (port.dom (txPower.flag .highAlarm)).isSome

theorem Paired.guard_eq (h : port.Paired) {r : SmapRow} (hr : r ∈ rows) :
    (port.cells.get r.guard).isSome = (port.cells.get r.value).isSome := by
  rcases guard_of_mem_rows r hr with hg | ⟨hg, hv⟩
  · rw [hg]
  · rw [hg, hv]
    exact h

/-- `smap_add` never gets a null value. -/
theorem Paired.smapAdds_isSome (h : port.Paired) :
    ∀ a ∈ port.smapAdds, a.2.isSome = true := by
  intro a ha
  obtain ⟨r, hr, rfl⟩ := List.mem_map.mp ha
  obtain ⟨hmem, hguard⟩ := List.mem_filter.mp hr
  rw [← h.guard_eq hmem]
  exact hguard

/-- No key is added twice. -/
theorem keys_smapAdds_nodup (port : PmPort) : (port.smapAdds.map Prod.fst).Nodup := by
  have hmap : port.smapAdds.map Prod.fst =
      (rows.filter fun r => (port.cells.get r.guard).isSome).map SmapRow.key := by
    simp [smapAdds, Function.comp_def]
  rw [hmap]
  exact keys_rows_nodup.sublist (List.filter_sublist.map _)

theorem mem_pmInfo {k v : String} : (k, v) ∈ port.pmInfo ↔ (k, some v) ∈ port.smapAdds := by
  simp only [pmInfo, List.mem_filterMap, Option.map_eq_some_iff]
  constructor
  · rintro ⟨⟨k', _⟩, hmem, v', rfl, heq⟩
    obtain ⟨rfl, rfl⟩ := Prod.mk.inj heq
    exact hmem
  · intro h
    exact ⟨(k, some v), h, v, rfl, rfl⟩

theorem unique_pmInfo (port : PmPort) : port.pmInfo.Unique := by
  have hsub : ∀ l : List (String × Option String),
      ((l.filterMap fun (key, value) => value.map fun v => (key, v)).map Prod.fst).Sublist
        (l.map Prod.fst) := by
    intro l
    induction l with
    | nil => exact List.Sublist.slnil
    | cons a l ih =>
      obtain ⟨k, _ | v⟩ := a
      · exact ih.cons k
      · exact ih.cons_cons k
  exact port.keys_smapAdds_nodup.sublist (hsub _)

/-- Every pair of the map is a published column under its name. -/
theorem exists_of_mem_pmInfo {k v : String} (h : (k, v) ∈ port.pmInfo) :
    ∃ c ∈ publishedColumns, k = c.name ∧ port.cells.get c = some v := by
  obtain ⟨r, hr, heq⟩ := List.mem_map.mp (mem_pmInfo.mp h)
  obtain ⟨rfl, hv⟩ := Prod.mk.inj heq
  have hmem := List.mem_of_mem_filter hr
  exact ⟨r.value, List.mem_map_of_mem hmem, key_of_mem_rows r hmem, hv⟩

/-- **The map holds each published column under its name, and the null ones not at all.** -/
theorem Paired.find_pmInfo (h : port.Paired) {c : Column} (hc : c ∈ publishedColumns) :
    port.pmInfo.find c.name = port.cells.get c := by
  obtain ⟨r, hr, rfl⟩ := List.mem_map.mp hc
  rw [← key_of_mem_rows r hr]
  cases hv : port.cells.get r.value with
  | some v =>
    refine port.unique_pmInfo.find_of_mem (mem_pmInfo.mpr (List.mem_map.mpr ⟨r, ?_, by rw [hv]⟩))
    rw [List.mem_filter, h.guard_eq hr, hv]
    exact ⟨hr, rfl⟩
  | none =>
    rw [Shash.find_eq_none_iff]
    intro hk
    obtain ⟨⟨k, v⟩, hmem, hkey⟩ := List.mem_map.mp hk
    obtain ⟨r', hr', heq⟩ := List.mem_map.mp (mem_pmInfo.mp hmem)
    obtain ⟨hk', hv'⟩ := Prod.mk.inj heq
    have hrr : r' = r := List.inj_on_of_nodup_map keys_rows_nodup (List.mem_of_mem_filter hr') hr
      (hk'.trans hkey)
    rw [hrr, hv] at hv'
    cases hv'

/-- The map is a function of the published columns alone. -/
theorem pmInfo_congr {port' : PmPort} (h : ∀ c, port.cells.get c = port'.cells.get c) :
    port.pmInfo = port'.pmInfo := by
  simp only [pmInfo, smapAdds, h]

end PmPort

end OpsPmd
