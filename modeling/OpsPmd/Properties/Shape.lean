import OpsPmd.PortInvariant

/-!
# The shape of a port after a poll

Between two polls no diagnostics page is asked for, and the flags and the identification columns
have exactly one of the four shapes of `ShapeKind`.
-/

namespace OpsPmd

open PmInfo

variable {σ : Type} {port : PmPort} {t : ModuleType}

namespace PmPort

/-- No port has two shapes. -/
theorem hasShape_unique {j k : ShapeKind} (hj : port.HasShape j) (hk : port.HasShape k) :
    j = k := by
  -- `present` tells the first shape from the others, `retry` the second, the connector the last two
  cases j <;> cases k <;> try rfl
  all_goals
    simp only [HasShape] at hj hk
    first
      | exact absurd (hj.1.symm.trans hk.1) (by decide)
      | exact absurd (hj.2.1.symm.trans hk.2.1) (by decide)
      | skip
  · obtain ⟨c, hc, -, hne, -⟩ := hk.2.2.1
    exact absurd (Option.some.inj (hc.symm.trans hj.2.2.1)) hne
  · obtain ⟨c, hc, -, hne, -⟩ := hj.2.2.1
    exact absurd (Option.some.inj (hc.symm.trans hk.2.2.1)) hne

/-- What a poll leaves of a port. -/
def WellShaped (port : PmPort) : Prop :=
  port.a2ReadRequested = false ∧ ∃! k, port.HasShape k

theorem Inv.wellShaped_observe (h : port.Inv t) {o : Observation} (ho : Possible t port o) :
    (port.observe o).WellShaped := by
  obtain ⟨k, hk⟩ := h.shape_observe ho
  exact ⟨(h.observe ho).ready, k, hk, fun j hj => hasShape_unique hj hk⟩

end PmPort

/--
**After every poll of a port of a known connector kind, no diagnostics page is asked for and the
port has exactly one of the four shapes.** On the way `pm_parse` never takes its failure return.
-/
theorem wellShaped_after_poll (P : Platform σ) {yamlPort : YamlPort} (h : yamlPort.IsA t)
    (intf : Interface) (subName : String) (s : σ) (es : List (PortEvent σ)) (change : σ → σ) :
    let slot := Run.exec (portStep P) (newSlot intf subName yamlPort s) es
    (portStep P slot (.poll change)).port.WellShaped ∧ ∀ a0, (pmParse a0 slot.port).1 = 0 := by
  have hinv := inv_exec (P := P) h intf subName s es
  refine ⟨?_, fun a0 => by rw [pmParse_eq hinv.device]⟩
  rw [portStep_poll hinv]
  exact hinv.wellShaped_observe (observation_possible _)

/-- A simulated module is inserted, polled, removed and polled again. -/
theorem wellShaped_after_poll_simulation :
    let slot := Run.exec (portStep simulation)
      (newSlot ⟨0, "1", []⟩ "base" ModuleType.sfpPlus.device {})
      [.poll fun d => { d with moduleData := some srPage }]
    (portStep simulation slot (.poll fun d => { d with moduleData := none })).port.WellShaped ∧
      ∀ a0, (pmParse a0 slot.port).1 = 0 :=
  wellShaped_after_poll simulation (ModuleType.isA_device .sfpPlus) ⟨0, "1", []⟩ "base" {}
    [.poll fun d => { d with moduleData := some srPage }] fun d => { d with moduleData := none }

end OpsPmd
