import OpsPmd.Ghost
import OpsPmd.Commit

/-!
# Ports with worlds of their own

The modules in different ports have nothing to do with each other. `Platform.each` makes a platform
for one port into one for all ports, with a world for each row of the database.

* `pmReadModuleState_each` — a poll of a port is a poll in its own world
* `Pmd.Holds.pmReadState_each` — a poll of all ports is a poll of each, in any order
-/

namespace OpsPmd

variable {σ : Type} {P : Platform σ}

/-- The platform in the world of each port. -/
def Platform.each (P : Platform σ) : Platform (Uuid → σ) where
  getPresence port s :=
    (P.getPresence port (s port.uuid)).map id (Function.update s port.uuid)
  readA0 port offset s :=
    (P.readA0 port offset (s port.uuid)).map id (Function.update s port.uuid)
  readA2 port s := (P.readA2 port (s port.uuid)).map id (Function.update s port.uuid)
  resetPort port s := Function.update s port.uuid (P.resetPort port (s port.uuid))
  clearReset port s := Function.update s port.uuid (P.clearReset port (s port.uuid))
  configurePort port s := Function.update s port.uuid (P.configurePort port (s port.uuid))

/-- Where the other worlds stay as they are, it is the platform itself. -/
theorem Platform.overAt_each (P : Platform σ) (port : PortId) (s : Uuid → σ) :
    P.OverAt P.each (Function.update s port.uuid) port := by
  have hidem : ∀ w : σ, Function.update (Function.update s port.uuid w) port.uuid =
      Function.update s port.uuid := fun w => funext fun w' => Function.update_idem ..
  constructor
  · intro w
    simp only [Platform.each, Function.update_self, hidem]
  · intro offset w
    simp only [Platform.each, Function.update_self, hidem]
  · intro w
    simp only [Platform.each, Function.update_self, hidem]
  · intro w
    simp only [Platform.each, Function.update_self, hidem]

/-- **A poll of a port is a poll in its own world.** -/
theorem pmReadModuleState_each (P : Platform σ) (port : PmPort) (s : Uuid → σ) :
    pmReadModuleState P.each port s =
      mapPoll (Function.update s port.uuid) (pmReadModuleState P port (s port.uuid)) := by
  have hover := pmReadModuleState_overAt (P.overAt_each port.toPortId s) (s port.uuid)
  rwa [Function.update_eq_self] at hover

/-! ## Identity -/

theorem toPortId_readDiagnostics (port : PmPort) (n : Nat) (s : σ) :
    (readDiagnostics P port n s).2.1.toPortId = port.toPortId := by
  unfold readDiagnostics
  split
  · rfl
  · unfold pmSetA2
    dsimp only
    split
    · rfl
    · cases port.moduleDevice.connector with
      | none => rfl
      | some connector =>
        dsimp only
        cases moduleType connector <;> rfl

theorem toPortId_retryRead (port : PmPort) (offset : Nat) : ∀ (n : Nat) (s : σ),
    (retryRead P port offset n s).2.1.toPortId = port.toPortId
  | n, s => by
    have habsent : port.absent.toPortId = port.toPortId := by rw [PmPort.absent_frame]
    have hunreadable : port.unreadable.toPortId = port.toPortId := by rw [PmPort.unreadable_frame]
    rw [retryRead.eq_def]
    obtain ⟨present, s'⟩ := P.getPresence port.toPortId s
    dsimp only
    split
    · split
      · exact habsent
      · rfl
    · split
      · obtain ⟨a0, s''⟩ := P.readA0 port.toPortId offset s'
        cases a0 with
        | none =>
          cases n with
          | zero => exact hunreadable
          | succ n => exact toPortId_retryRead port offset n _
        | some a0 =>
          dsimp only
          split
          · cases n with
            | zero => exact hunreadable
            | succ n => exact toPortId_retryRead port offset n _
          · split
            · rw [toPortId_readDiagnostics, toPortId_setA2ReadRequest]
              exact toPortId_pmParse a0 port
            · rw [toPortId_readDiagnostics]
              exact toPortId_pmParse a0 port
      · exact toPortId_readDiagnostics port n s'

/-- No poll changes the identity of a port, of whatever kind. -/
theorem toPortId_pmReadModuleState (port : PmPort) (s : σ) :
    (pmReadModuleState P port s).2.1.toPortId = port.toPortId := by
  unfold pmReadModuleState
  split_ifs
  · exact toPortId_retryRead port _ 2 s
  · exact toPortId_retryRead port _ 2 s
  · rfl

/-! ## All ports -/

/-- The port after a poll in its own world. -/
def PmPort.polledIn (P : Platform σ) (s : Uuid → σ) (port : PmPort) : PmPort :=
  (pmReadModuleState P port (s port.uuid)).2.1

theorem PmPort.uuid_polledIn (P : Platform σ) (s : Uuid → σ) (port : PmPort) :
    (port.polledIn P s).uuid = port.uuid :=
  congrArg PortId.uuid (toPortId_pmReadModuleState port (s port.uuid))

section Each

variable {ports : Shash String PmPort}

/-- The step of `pm_read_state`. -/
def pollEach (P : Platform σ) (port : PmPort) (s : Uuid → σ) : PmPort × (Uuid → σ) :=
  (pmReadModuleState P.each port s).2

theorem pollEach_eq (port : PmPort) (s : Uuid → σ) :
    pollEach P port s =
      (port.polledIn P s,
        Function.update s port.uuid (pmReadModuleState P port (s port.uuid)).2.2) := by
  rw [pollEach, pmReadModuleState_each]
  rfl

/-- The poll of a port does not touch the worlds of the ports after it. -/
theorem mapAccum_pollEach : ∀ {ports : Shash String PmPort} {s : Uuid → σ},
    (ports.map fun node => node.2.uuid).Nodup →
      (ports.mapAccum (pollEach P) s).1 =
        ports.map fun node => (node.1, node.2.polledIn P s)
  | [], _, _ => rfl
  | (n, p) :: ports, s, hnd => by
    rw [List.map_cons, List.nodup_cons] at hnd
    unfold Shash.mapAccum
    rw [pollEach_eq]
    dsimp only
    rw [mapAccum_pollEach hnd.2, List.map_cons]
    refine congrArg _ (List.map_congr_left fun node hm => ?_)
    have hne : node.2.uuid ≠ p.uuid := fun heq =>
      hnd.1 (heq ▸ List.mem_map_of_mem (f := fun node : String × PmPort => node.2.uuid) hm)
    unfold PmPort.polledIn
    rw [Function.update_of_ne hne]

theorem world_pollEach_of_notMem {u : Uuid} : ∀ {ports : Shash String PmPort} {s : Uuid → σ},
    (∀ n p, (n, p) ∈ ports → p.uuid ≠ u) → (ports.mapAccum (pollEach P) s).2 u = s u
  | [], _, _ => rfl
  | (n, p) :: ports, s, hu => by
    unfold Shash.mapAccum
    rw [pollEach_eq]
    dsimp only
    rw [world_pollEach_of_notMem fun n' p' hm => hu n' p' (List.mem_cons_of_mem _ hm)]
    exact Function.update_of_ne (hu n p List.mem_cons_self).symm _ _

theorem world_pollEach_of_mem {n : String} {p : PmPort} :
    ∀ {ports : Shash String PmPort} {s : Uuid → σ},
    (ports.map fun node => node.2.uuid).Nodup → (n, p) ∈ ports →
      (ports.mapAccum (pollEach P) s).2 p.uuid = (pmReadModuleState P p (s p.uuid)).2.2
  | (n', p') :: ports, s, hnd, hm => by
    rw [List.map_cons, List.nodup_cons] at hnd
    unfold Shash.mapAccum
    rw [pollEach_eq]
    dsimp only
    rcases List.mem_cons.mp hm with heq | hm
    · obtain ⟨rfl, rfl⟩ := Prod.mk.inj heq
      rw [world_pollEach_of_notMem, Function.update_self]
      intro n' p' hm heq
      exact hnd.1 (heq ▸ List.mem_map_of_mem (f := fun node : String × PmPort => node.2.uuid) hm)
    · have hne : p.uuid ≠ p'.uuid := fun heq =>
        hnd.1 (heq ▸ List.mem_map_of_mem (f := fun node : String × PmPort => node.2.uuid) hm)
      rw [world_pollEach_of_mem hnd.2 hm, Function.update_of_ne hne]

end Each

namespace Pmd.Holds

variable {nameOf : Uuid → String} {Y : YamlPort → Prop} {Φ : PmPort → Prop} {d : Pmd (Uuid → σ)}

/-- No two ports share a row. -/
theorem nodup_uuid {d : Pmd σ} (h : d.Holds nameOf Y Φ) :
    (d.ovsIntfs.map fun node => node.2.uuid).Nodup := by
  have hnodup : d.ovsIntfs.Nodup := List.Nodup.of_map _ h.unique
  refine List.Nodup.map_on (fun node hm node' hm' heq => ?_) hnodup
  have hn : node.1 = node'.1 := by
    rw [← h.row node.1 node.2 hm, ← h.row node'.1 node'.2 hm', heq]
  have hp : (node.1, node.2) ∈ d.ovsIntfs := hm
  have hp' : (node'.1, node'.2) ∈ d.ovsIntfs := hm'
  exact Prod.ext hn (h.eq_of_uuid hp hp' heq)

/-- **A poll of all ports is a poll of each in its own world**, whatever the order. -/
theorem pmReadState_each (h : d.Holds nameOf Y Φ) (P : Platform σ) :
    (pmReadState P.each d).ovsIntfs =
        d.ovsIntfs.map (fun node => (node.1, node.2.polledIn P d.world)) ∧
      (∀ n p, (n, p) ∈ d.ovsIntfs →
        (pmReadState P.each d).world p.uuid = (pmReadModuleState P p (d.world p.uuid)).2.2) ∧
      ∀ u, (∀ n p, (n, p) ∈ d.ovsIntfs → p.uuid ≠ u) →
        (pmReadState P.each d).world u = d.world u :=
  ⟨mapAccum_pollEach h.nodup_uuid, fun _ _ hm => world_pollEach_of_mem h.nodup_uuid hm,
    fun _ hu => world_pollEach_of_notMem hu⟩

end Pmd.Holds

end OpsPmd
