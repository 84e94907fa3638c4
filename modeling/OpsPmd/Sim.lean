import OpsPmd.PortInvariant

/-!
# The simulation commands (`plug.c`, `pmd.c`)

`ops-pmd/sim` puts the contents of a file into a port or takes them out. A port of the simulation
is a `Slot` whose world is its `module_data`.
-/

namespace OpsPmd

abbrev SimPort := Slot SimData

/-- An SFP+ port with a module in it. -/
def simulatedSlot : SimPort :=
  newSlot ⟨0, "1", []⟩ "base" ModuleType.sfpPlus.device { moduleData := some srPage }

/-- `fread` of `sizeof(pm_sfp_serial_id_t)` bytes, `none` where the file is shorter. -/
def freadPage (content : List UInt8) : Option Page :=
  if 128 ≤ content.length then some fun i => content.getD i 0 else none

namespace SimPort

def setModuleData (p : SimPort) (moduleData : Option Page) : SimPort :=
  { p with world := { p.world with moduleData := moduleData } }

/--
`pmd_sim_insert` from the port on. `content` is what `fopen` finds, `none` where it fails. The old
data is freed before the file is opened.
-/
def insert (p : SimPort) (content : Option (List UInt8)) : Int × String × SimPort :=
  let p := p.setModuleData none
  match content with
  | none => (-1, "Can't open file", p)
  | some content =>
    match freadPage content with
    | none => (-1, "Unable to read data", p)
    | some data => (0, "Pluggable module inserted", p.setModuleData (some data))

/-- `pmd_sim_remove` from the port on. -/
def remove (p : SimPort) : Int × String × SimPort :=
  if p.world.moduleData.isNone then (-1, "Pluggable module not present", p)
  else (0, "Pluggable module removed", p.setModuleData none)

end SimPort

variable (ovsIntfs : Shash String SimPort)

/-- `pmd_sim_insert`, with the files there are. -/
def pmdSimInsert (files : String → Option (List UInt8)) (name file : String) :
    Int × String × Shash String SimPort :=
  match ovsIntfs.find name with
  | none => (-1, "No such interface", ovsIntfs)
  | some p =>
    let (rc, reply, p) := p.insert (files file)
    (rc, reply, ovsIntfs.set name p)

/-- `pmd_sim_remove`. -/
def pmdSimRemove (name : String) : Int × String × Shash String SimPort :=
  match ovsIntfs.find name with
  | none => (-1, "No such interface", ovsIntfs)
  | some p =>
    let (rc, reply, p) := p.remove
    (rc, reply, ovsIntfs.set name p)

/-- A reply of `unixctl`. -/
inductive Reply
  | ok (text : String)
  | error (text : String)
  deriving DecidableEq, Repr

/--
`pmd_unixctl_sim` on `argv[1]` and what follows it: the replies sent, and the ports afterwards.
-/
def pmdUnixctlSim (files : String → Option (List UInt8)) (interface : String)
    (args : List String) : List Reply × Shash String SimPort :=
  let finish (r : Int × String × Shash String SimPort) : List Reply × Shash String SimPort :=
    if r.1 < 0 then ([.error r.2.1], r.2.2) else ([.ok r.2.1], r.2.2)
  match args with
  | [command, file] =>
    if command == "insert" then finish (pmdSimInsert ovsIntfs files interface file)
    else ([], ovsIntfs)
  | [command] =>
    if command == "remove" then finish (pmdSimRemove ovsIntfs interface) else ([], ovsIntfs)
  | _ => ([], ovsIntfs)

/-! ## One port -/

/-- What happens to a port of the simulation. -/
inductive SimEvent
  | insert (content : Option (List UInt8))
  | remove
  | poll

def simStep (p : SimPort) : SimEvent → SimPort
  | .insert content => (p.insert content).2.2
  | .remove => p.remove.2.2
  | .poll => portStep simulation p (.poll id)

/-! ## What the simulated platform observes -/

variable {t : ModuleType} {p : SimPort}

/-- The observation the simulated platform makes of a port. -/
def simObservation (t : ModuleType) (port : PmPort) (moduleData : Option Page) : Observation :=
  match moduleData with
  | none => .absent
  | some a0 =>
    if port.present = true ∧ port.retry = false then .held
    else if sfppSumVerify a0 = 0 then
      .identified a0 (if t.requestsA2 a0 then some allOnes else none)
    else .unreadable

/-- Every A2 read of the simulation fails. -/
theorem retryReadA2_simulation (id : PortId) : ∀ (n : Nat) (data : SimData),
    retryReadA2 simulation id n data = (allOnes, data)
  | 0, _ => rfl
  | n + 1, data => by
    rw [retryReadA2.eq_def]
    exact retryReadA2_simulation id n data

theorem identify_simulation (port : PmPort) (offset : Nat) : ∀ (n : Nat) (data : SimData),
    identify simulation port offset n data =
      match data.moduleData with
      | none => (some .absent, n, data)
      | some a0 =>
        if port.present = true ∧ port.retry = false then (some .held, n, data)
        else if sfppSumVerify a0 = 0 then (some (.page a0), n, data)
        else (none, 0, data)
  | n, data => by
    have hround : attempt simulation port offset data =
        match data.moduleData with
        | none => (some .absent, data)
        | some a0 =>
          if port.present = true ∧ port.retry = false then (some .held, data)
          else if sfppSumVerify a0 = 0 then (some (.page a0), data)
          else (none, data) := by
      unfold attempt
      cases hd : data.moduleData <;> simp [simulation, hd]
    unfold identify
    cases hd : data.moduleData with
    | none => rw [hd] at hround; rw [Retry.loop_of_some hround]
    | some a0 =>
      rw [hd] at hround
      dsimp only at hround ⊢
      split_ifs at hround ⊢
      · rw [Retry.loop_of_some hround]
      · rw [Retry.loop_of_some hround]
      · cases n with
        | zero => rw [Retry.loop_zero_of_none hround]
        | succ n =>
          rw [Retry.loop_succ_of_none hround]
          -- a reset changes nothing, so the next round is like this one
          have hrec := identify_simulation port offset n data
          rw [hd] at hrec
          refine Eq.trans hrec ?_
          simp [*]

theorem observation_simulation (port : PmPort) (data : SimData) :
    observation simulation t port data = (simObservation t port data.moduleData, data) := by
  unfold observation simObservation
  rw [identify_simulation]
  cases data.moduleData with
  | none => rfl
  | some a0 =>
    dsimp only
    split_ifs <;> simp_all [retryReadA2_simulation]

end OpsPmd
