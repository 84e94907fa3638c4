import OpsPmd.Housed

/-!
# What is in memory where

An invariant of the memory alone, for ports and entries of `ovs_subs` that are given by what they
hold. What the daemon does to its memory is one lemma each.

* `PortsPlaced`, `SubsystemsPlaced` — the blocks of the ports and of the entries of `ovs_subs`
* `Placed` — both, in a heap where every pointer owns its block or is to a constant
* `Placed.create`, `Placed.perform`, `Placed.free`, `Placed.record`, `Placed.forget` — the
  operations
-/

namespace OpsPmd

/-! ## What a port holds -/

/-- What a port and its `module_data` are in memory. -/
def PmPort.contents (port : PmPort) (moduleData : Option Page) : Member → Option Contents
  | .self => some .struct
  | .instanceName => some (.text port.instanceName)
  | .subsystem => some (.text port.subsystem)
  | .moduleData => moduleData.map .data
  | .column c => (port.cells.get c).map .text

/-- What a port is in memory that was just created. -/
def newContents (instanceName subName : String) : Member → Option Contents
  | .self => some .struct
  | .instanceName => some (.text instanceName)
  | .subsystem => some (.text subName)
  | .moduleData | .column _ => none

theorem contents_newPort (intf : Interface) (subName : String) (yamlPort : YamlPort) :
    (newPort intf subName yamlPort).contents none = newContents intf.name subName := by
  funext x
  cases x <;> rfl

/-- What may be left of a port that was deleted, in the simulation and on hardware. -/
def Member.Left (simulated : Bool) : Member → Prop
  | .subsystem => True
  | .moduleData => simulated = true
  | .column (.info c) => c = .connector
  | .column (.dom _) => True
  | _ => False

/-- What `pm_delete_all_data` leaves is left, but for what `pmd_free_pm_port` frees itself. -/
theorem PmPort.left_pmDeleteAllData (p : PmPort) {simulated : Bool} {data : Option Page}
    (hdata : data.isSome = true → simulated = true) {x : Member} (hself : x ≠ .self)
    (hname : x ≠ .instanceName) (hx : p.pmDeleteAllData.contents data x ≠ none) :
    x.Left simulated := by
  cases x with
  | self => exact absurd rfl hself
  | instanceName => exact absurd rfl hname
  | subsystem => trivial
  | moduleData =>
    refine hdata ?_
    simpa [contents, Option.isSome_iff_ne_none] using hx
  | column c =>
    cases c with
    | dom d => trivial
    | info c =>
      show c = .connector
      by_contra hc
      have hinfo := (p.info_pmDeleteAllData c).trans (if_neg hc)
      exact hx (congrArg (Option.map Contents.text) hinfo)

/-! ## The invariant -/

/--
The structs of the ports hold what the ports hold, and of other structs there are remains only.
-/
structure PortsPlaced (simulated : Bool) (ports : String → Option (Member → Option Contents))
    (d : Directory String) (get : Place → Option Contents) : Prop where
  lists : d.Lists fun n => (ports n).isSome = true
  stored : ∀ n f, ports n = some f → ∀ x, get (.port (d.index n) x) = f x
  fresh : ∀ a x, d.count ≤ a → get (.port a x) = none
  gone : ∀ a x, (∀ n, (ports n).isSome = true → d.index n ≠ a) → get (.port a x) ≠ none →
    x.Left simulated
  /-- The name of its subsystem stays with a port for good. -/
  subsystem : ∀ a, a < d.count → get (.port a .subsystem) ≠ none

/-- The entries of `ovs_subs` have a block each, and there are no others. -/
structure SubsystemsPlaced (subs : String → Option Uuid) (d : Directory String)
    (get : Place → Option Contents) : Prop where
  lists : d.Lists fun n => (subs n).isSome = true
  stored : ∀ n row, subs n = some row → get (.subsystem (d.index n)) = some (.uuid row)
  gone : ∀ b, (∀ n, (subs n).isSome = true → d.index n ≠ b) → get (.subsystem b) = none

/-- The memory of the daemon. `heap` is what others had allocated when it started. -/
structure Placed (simulated : Bool) (heap : Heap Contents)
    (ports : String → Option (Member → Option Contents)) (subs : String → Option Uuid) (m : Memory)
    (r : Pointers Place Contents) : Prop where
  pointers : m.pointers = some r
  owned : Owned Place.owning heap.blocks r
  ports : PortsPlaced simulated ports m.ports r.cells.get
  subsystems : SubsystemsPlaced subs m.subsystems r.cells.get

variable {simulated : Bool} {heap : Heap Contents}
  {ports : String → Option (Member → Option Contents)} {subs : String → Option Uuid} {m : Memory}
  {r : Pointers Place Contents} {n : String} {f : Member → Option Contents}

theorem isSome_update {α : Type*} {g : String → Option α} {v : Option α} {n n' : String} :
    (Function.update g n v n').isSome = true ↔
      n' = n ∧ v.isSome = true ∨ n' ≠ n ∧ (g n').isSome = true := by
  by_cases heq : n' = n
  · simp [heq]
  · simp [heq]

/-! ## The structs of the ports -/

namespace PortsPlaced

variable {d : Directory String} {get get' : Place → Option Contents}

theorem congr (h : PortsPlaced simulated ports d get)
    (hget : ∀ a x, get' (.port a x) = get (.port a x)) : PortsPlaced simulated ports d get' where
  lists := h.lists
  stored n f hn x := (hget _ x).trans (h.stored n f hn x)
  fresh a x ha := (hget a x).trans (h.fresh a x ha)
  gone a x ha hx := h.gone a x ha (hget a x ▸ hx)
  subsystem a ha := hget a _ ▸ h.subsystem a ha

/-- Another port has another struct. -/
theorem index_ne (h : PortsPlaced simulated ports d get) (hn : (ports n).isSome = true) {n' : String}
    (hn' : (ports n').isSome = true) (hne : n' ≠ n) : d.index n' ≠ d.index n :=
  fun hsame => hne (h.lists.apart n' n hn' hn hsame)

/-- A change inside the struct of one port, whose subsystem keeps its name. -/
theorem within (h : PortsPlaced simulated ports d get) (hn : (ports n).isSome = true)
    (hother : ∀ a x, a ≠ d.index n → get' (.port a x) = get (.port a x))
    (hstored : ∀ x, get' (.port (d.index n) x) = f x) (hsub : f .subsystem ≠ none) :
    PortsPlaced simulated (Function.update ports n (some f)) d get' := by
  have hlive : ∀ n', (Function.update ports n (some f) n').isSome = true ↔
      (ports n').isSome = true := by
    intro n'
    rw [isSome_update]
    by_cases heq : n' = n
    · simp [heq, hn]
    · simp [heq]
  refine ⟨h.lists.mono fun n' => (hlive n').mp, fun n' f' hn' x => ?_, fun a x ha => ?_,
    fun a x ha hx => ?_, fun a ha => ?_⟩
  · by_cases heq : n' = n
    · subst heq
      rw [Function.update_self] at hn'
      rw [hstored, Option.some.inj hn']
    · rw [Function.update_of_ne heq] at hn'
      rw [hother _ x (h.index_ne hn (by rw [hn']; rfl) heq), h.stored n' f' hn']
  · have hlt := h.lists.lt n hn
    rw [hother a x (by omega), h.fresh a x ha]
  · have ha' : ∀ n', (ports n').isSome = true → d.index n' ≠ a := fun n' hn' =>
      ha n' ((hlive n').mpr hn')
    exact h.gone a x ha' (hother a x (ha' n hn).symm ▸ hx)
  · by_cases heq : a = d.index n
    · rw [heq, hstored]
      exact hsub
    · rw [hother a _ heq]
      exact h.subsystem a ha

/-- A new struct for a new port. -/
theorem create (h : PortsPlaced simulated ports d get)
    (hother : ∀ a x, a ≠ d.count → get' (.port a x) = get (.port a x))
    (hstored : ∀ x, get' (.port d.count x) = f x) (hsub : f .subsystem ≠ none)
    (hn : ports n = none) :
    PortsPlaced simulated (Function.update ports n (some f)) (d.add n) get' := by
  have hlive : ∀ n', n' ≠ n → (Function.update ports n (some f) n').isSome = true →
      (ports n').isSome = true := by
    intro n' hne hn'
    rwa [Function.update_of_ne hne] at hn'
  have hname : ∀ n', (ports n').isSome = true → n' ≠ n := by
    rintro n' hn' rfl
    rw [hn] at hn'
    cases hn'
  refine ⟨h.lists.add n hlive, fun n' f' hn' x => ?_, fun a x ha => ?_, fun a x ha hx => ?_,
    fun a ha => ?_⟩
  · by_cases heq : n' = n
    · subst heq
      rw [Function.update_self] at hn'
      rw [Directory.index_add_self, hstored, Option.some.inj hn']
    · rw [Function.update_of_ne heq] at hn'
      have hlt := h.lists.lt n' (by rw [hn']; rfl)
      rw [Directory.index_add_ne heq, hother _ x (Nat.ne_of_lt hlt), h.stored n' f' hn']
  · have ha' : d.count + 1 ≤ a := ha
    rw [hother a x (by omega), h.fresh a x (by omega)]
  · have hne : a ≠ d.count := by
      rintro rfl
      exact ha n (by rw [Function.update_self]; rfl) Directory.index_add_self
    refine h.gone a x (fun n' hn' => ?_) (hother a x hne ▸ hx)
    rw [← Directory.index_add_ne (hname n' hn')]
    exact ha n' (by rwa [Function.update_of_ne (hname n' hn')])
  · by_cases heq : a = d.count
    · rw [heq, hstored]
      exact hsub
    · have ha' : a < d.count + 1 := ha
      rw [hother a _ heq]
      exact h.subsystem a (by omega)

/-- A port is deleted, and of its struct there are remains only. -/
theorem remove (h : PortsPlaced simulated ports d get) (hn : (ports n).isSome = true)
    (hother : ∀ a x, a ≠ d.index n → get' (.port a x) = get (.port a x))
    (hleft : ∀ x, get' (.port (d.index n) x) ≠ none → x.Left simulated)
    (hsub : get' (.port (d.index n) .subsystem) ≠ none) :
    PortsPlaced simulated (Function.update ports n none) d get' := by
  have hlive : ∀ n', (Function.update ports n none n').isSome = true →
      n' ≠ n ∧ (ports n').isSome = true := by
    intro n' hn'
    rcases isSome_update.mp hn' with ⟨-, hnone⟩ | hn'
    · cases hnone
    · exact hn'
  refine ⟨h.lists.mono fun n' hn' => (hlive n' hn').2, fun n' f' hn' x => ?_, fun a x ha => ?_,
    fun a x ha hx => ?_, fun a ha => ?_⟩
  · obtain ⟨hne, hn''⟩ := hlive n' (by rw [hn']; rfl)
    rw [Function.update_of_ne hne] at hn'
    rw [hother _ x (h.index_ne hn hn'' hne), h.stored n' f' hn']
  · have hlt := h.lists.lt n hn
    rw [hother a x (by omega), h.fresh a x ha]
  · by_cases heq : a = d.index n
    · rw [heq] at hx
      exact hleft x hx
    · refine h.gone a x (fun n' hn' hsame => ?_) (hother a x heq ▸ hx)
      by_cases hne : n' = n
      · exact heq (hsame ▸ hne ▸ rfl)
      · exact ha n' (isSome_update.mpr (Or.inr ⟨hne, hn'⟩)) hsame
  · by_cases heq : a = d.index n
    · rw [heq]
      exact hsub
    · rw [hother a _ heq]
      exact h.subsystem a ha

end PortsPlaced

/-! ## The entries of `ovs_subs` -/

namespace SubsystemsPlaced

variable {d : Directory String} {get get' : Place → Option Contents} {row : Uuid}

theorem congr (h : SubsystemsPlaced subs d get)
    (hget : ∀ b, get' (.subsystem b) = get (.subsystem b)) : SubsystemsPlaced subs d get' where
  lists := h.lists
  stored n row hn := (hget _).trans (h.stored n row hn)
  gone b hb := (hget b).trans (h.gone b hb)

theorem create (h : SubsystemsPlaced subs d get) (hn : subs n = none)
    (hget : ∀ b, get' (.subsystem b) = if b = d.count then some (.uuid row) else get (.subsystem b)) :
    SubsystemsPlaced (Function.update subs n (some row)) (d.add n) get' := by
  have hlive : ∀ n', n' ≠ n → (Function.update subs n (some row) n').isSome = true →
      (subs n').isSome = true := by
    intro n' hne hn'
    rwa [Function.update_of_ne hne] at hn'
  refine ⟨h.lists.add n hlive, fun n' row' hn' => ?_, fun b hb => ?_⟩
  · rw [hget]
    by_cases heq : n' = n
    · subst heq
      rw [Function.update_self] at hn'
      rw [Directory.index_add_self, if_pos rfl, Option.some.inj hn']
    · rw [Function.update_of_ne heq] at hn'
      have hlt := h.lists.lt n' (by rw [hn']; rfl)
      rw [Directory.index_add_ne heq, if_neg (Nat.ne_of_lt hlt), h.stored n' row' hn']
  · have hne : b ≠ d.count := by
      rintro rfl
      exact hb n (by rw [Function.update_self]; rfl) Directory.index_add_self
    rw [hget, if_neg hne]
    refine h.gone b fun n' hn' => ?_
    have heq : n' ≠ n := by
      rintro rfl
      rw [hn] at hn'
      cases hn'
    rw [← Directory.index_add_ne heq]
    exact hb n' (by rwa [Function.update_of_ne heq])

theorem remove (h : SubsystemsPlaced subs d get) (hn : (subs n).isSome = true)
    (hget : ∀ b, get' (.subsystem b) = if b = d.index n then none else get (.subsystem b)) :
    SubsystemsPlaced (Function.update subs n none) d get' := by
  have hlive : ∀ n', (Function.update subs n none n').isSome = true →
      n' ≠ n ∧ (subs n').isSome = true := by
    intro n' hn'
    rcases isSome_update.mp hn' with ⟨-, hnone⟩ | hn'
    · cases hnone
    · exact hn'
  refine ⟨h.lists.mono fun n' hn' => (hlive n' hn').2, fun n' row' hn' => ?_, fun b hb => ?_⟩
  · obtain ⟨hne, hn''⟩ := hlive n' (by rw [hn']; rfl)
    rw [Function.update_of_ne hne] at hn'
    rw [hget, if_neg fun hsame => hne (h.lists.apart n' n hn'' hn hsame), h.stored n' row' hn']
  · rw [hget]
    split
    · rfl
    · rename_i hne
      refine h.gone b fun n' hn' hsame => ?_
      by_cases heq : n' = n
      · exact hne (hsame ▸ heq ▸ rfl)
      · exact hb n' (isSome_update.mpr (Or.inr ⟨heq, hn'⟩)) hsame

end SubsystemsPlaced

/-! ## The operations -/

namespace Placed

theorem empty (h : heap.Bounded) :
    Placed simulated heap (fun _ => none) (fun _ => none) (Memory.empty heap)
      (Pointers.null heap) where
  pointers := rfl
  owned := Owned.null h
  ports :=
    { lists := Directory.lists_empty fun _ => Bool.false_ne_true
      stored := fun _ _ hn => by cases hn
      fresh := fun _ _ _ => rfl
      gone := fun _ _ _ hx => absurd rfl hx
      subsystem := fun _ ha => absurd ha (Nat.not_lt_zero _) }
  subsystems :=
    { lists := Directory.lists_empty fun _ => Bool.false_ne_true
      stored := fun _ _ hn => by cases hn
      gone := fun _ _ => rfl }

/-- Statements that treat each place as what it is do not fault. -/
theorem exec (h : Placed simulated heap ports subs m r) {ops : List (PointerOp Place Contents)}
    (hfits : ∀ op ∈ ops, op.Fits Place.owning) :
    ∃ r', m.exec ops = { m with pointers := some r' } ∧ Owned Place.owning heap.blocks r' ∧
      r'.cells = ops.foldl PointerOp.onCells r.cells := by
  obtain ⟨r', hexec, howned, hcells⟩ := h.owned.execAll hfits
  refine ⟨r', ?_, howned, hcells⟩
  rw [Memory.exec, h.pointers, Option.bind_some, hexec]

/-- **Statements about the columns of a port do to memory what they do to the columns.** -/
theorem perform (h : Placed simulated heap ports subs m r) {p p' : PmPort} {data : Option Page}
    (hn : ports n = some (p.contents data)) {ops : List Statement}
    (hruns : Runs ops p.cells p'.cells) (hid : p'.toPortId = p.toPortId) :
    ∃ r', Placed simulated heap (Function.update ports n (some (p'.contents data))) subs
      (m.perform n ops) r' := by
  have hfits : ∀ op ∈ ops.map (PointerOp.map (Place.column (m.ports.index n)) .text
      Contents.asText), op.Fits Place.owning := by
    intro op' hop'
    obtain ⟨op, hop, rfl⟩ := List.mem_map.mp hop'
    exact PointerOp.fits_map.mpr (hruns.fits op hop)
  obtain ⟨r', hexec, howned, hcells⟩ := h.exec hfits
  have hold := h.ports.stored n _ hn
  have hcolumn : ∀ k, r'.cells.get (.port (m.ports.index n) (.column k)) =
      (p'.cells.get k).map .text := by
    intro k
    rw [hcells, ← hruns.cells]
    exact PointerOp.get_foldl_map (Place.column_injective _) (g := Contents.text) (fun _ => rfl) ops
      (fun k => hold (.column k)) k
  have hother : ∀ q, (∀ k, q ≠ Place.column (m.ports.index n) k) →
      r'.cells.get q = r.cells.get q := by
    intro q hq
    rw [hcells]
    exact PointerOp.get_foldl_of_ne hq ops _
  have hmember : ∀ x, (∀ k, x ≠ .column k) →
      r'.cells.get (.port (m.ports.index n) x) = p.contents data x := by
    intro x hx
    rw [hother _ fun k heq => hx k (Place.port.inj heq).2, hold]
  refine ⟨r', ?_⟩
  rw [Memory.perform, hexec]
  refine ⟨rfl, howned, h.ports.within (by rw [hn]; rfl) (fun a x ha => ?_) (fun x => ?_)
    (Option.some_ne_none _), h.subsystems.congr fun b => hother _ fun _ => Place.noConfusion⟩
  · exact hother _ fun k heq => ha (Place.port.inj heq).1
  · cases x with
    | column k => exact hcolumn k
    | instanceName =>
      exact (hmember _ fun _ => Member.noConfusion).trans (by simp only [PmPort.contents, hid])
    | subsystem =>
      exact (hmember _ fun _ => Member.noConfusion).trans (by simp only [PmPort.contents, hid])
    | self => exact hmember _ fun _ => Member.noConfusion
    | moduleData => exact hmember _ fun _ => Member.noConfusion

/-- A new port. -/
theorem create (h : Placed simulated heap ports subs m r) (hn : ports n = none) (subName : String) :
    ∃ r', Placed simulated heap (Function.update ports n (some (newContents n subName))) subs
      (m.create n subName) r' := by
  have hfits : ∀ op ∈ ([.renew (.port m.ports.count .self) .struct,
      .renew (.port m.ports.count .instanceName) (.text n),
      .renew (.port m.ports.count .subsystem) (.text subName)] :
      List (PointerOp Place Contents)), op.Fits Place.owning := by
    simp only [List.forall_mem_cons]
    exact ⟨rfl, rfl, rfl, fun _ hop => (List.not_mem_nil hop).elim⟩
  obtain ⟨r', hexec, howned, hcells⟩ := h.owned.execAll hfits
  have hget : ∀ q, r'.cells.get q =
      if q = .port m.ports.count .subsystem then some (.text subName)
      else if q = .port m.ports.count .instanceName then some (.text n)
      else if q = .port m.ports.count .self then some .struct else r.cells.get q := by
    intro q
    simp only [hcells, List.foldl_cons, List.foldl_nil, PointerOp.onCells, Cells.get_store]
  refine ⟨r', ?_⟩
  have hmem : m.create n subName = { m with pointers := some r', ports := m.ports.add n } := by
    rw [Memory.create, Memory.exec]
    dsimp only
    rw [h.pointers, Option.bind_some, hexec]
  rw [hmem]
  refine ⟨rfl, howned, h.ports.create (fun a x ha => ?_) (fun x => ?_) (Option.some_ne_none _) hn,
    h.subsystems.congr fun b => by simp [hget]⟩
  · simp [hget, ha]
  · rw [hget]
    cases x with
    | moduleData => simp [newContents, h.ports.fresh]
    | column c => simp [newContents, h.ports.fresh]
    | self => simp [newContents]
    | instanceName => simp [newContents]
    | subsystem => simp [newContents]

/--
`pmd_free_pm_port` leaves the name of the subsystem, the diagnostic columns and `module_data`.
-/
theorem free (h : Placed simulated heap ports subs m r) {p : PmPort} {data : Option Page}
    (hn : ports n = some (p.contents data)) (hdata : data.isSome = true → simulated = true) :
    ∃ r', Placed simulated heap (Function.update ports n none) subs (m.free n) r' := by
  have hid : p.pmDeleteAllData.toPortId = p.toPortId := by rw [p.cells_pmDeleteAllData]
  obtain ⟨r₁, h₁⟩ := h.perform hn (runs_pmDeleteAllData p) hid
  have hfits : ∀ op ∈ ([.release (.port (m.ports.index n) .instanceName),
      .release (.port (m.ports.index n) .self)] : List (PointerOp Place Contents)),
      op.Fits Place.owning := by
    simp only [List.forall_mem_cons]
    exact ⟨rfl, rfl, fun _ hop => (List.not_mem_nil hop).elim⟩
  obtain ⟨r', hexec, howned, hcells⟩ := h₁.exec hfits
  have hget : ∀ q, r'.cells.get q = if q = .port (m.ports.index n) .self then none
      else if q = .port (m.ports.index n) .instanceName then none else r₁.cells.get q := by
    intro q
    simp only [hcells, List.foldl_cons, List.foldl_nil, PointerOp.onCells, Cells.get_clear]
  have hstored : ∀ x, r₁.cells.get (.port (m.ports.index n) x) = p.pmDeleteAllData.contents data x :=
    h₁.ports.stored n _ (Function.update_self ..)
  have hsome :
      (Function.update ports n (some (p.pmDeleteAllData.contents data)) n).isSome = true := by
    rw [Function.update_self]
    rfl
  refine ⟨r', ?_⟩
  rw [Memory.free, hexec]
  have hremoved : PortsPlaced simulated (Function.update _ n none) _ r'.cells.get :=
    h₁.ports.remove hsome (fun a x (ha : a ≠ m.ports.index n) => by simp [hget, ha])
      (fun x (hx : r'.cells.get (.port (m.ports.index n) x) ≠ none) => ?_)
      (show r'.cells.get (.port (m.ports.index n) .subsystem) ≠ none from ?_)
  · rw [Function.update_idem] at hremoved
    exact ⟨rfl, howned, hremoved, h₁.subsystems.congr fun b => by simp [hget]⟩
  · rw [hget] at hx
    cases x with
    | self => simp at hx
    | instanceName => simp at hx
    | subsystem => trivial
    | moduleData =>
      exact p.left_pmDeleteAllData hdata (by simp) (by simp) (by simpa [hstored] using hx)
    | column c =>
      exact p.left_pmDeleteAllData hdata (by simp) (by simp) (by simpa [hstored] using hx)
  · rw [hget, if_neg (by simp), if_neg (by simp), hstored]
    exact Option.some_ne_none _

/-- A new entry of `ovs_subs`. -/
theorem record (h : Placed simulated heap ports subs m r) (hn : subs n = none) (row : Uuid) :
    ∃ r', Placed simulated heap ports (Function.update subs n (some row)) (m.record n row) r' := by
  have hfits : ∀ op ∈ ([.renew (.subsystem m.subsystems.count) (.uuid row)] :
      List (PointerOp Place Contents)), op.Fits Place.owning :=
    fun op hop => List.mem_singleton.mp hop ▸ rfl
  obtain ⟨r', hexec, howned, hcells⟩ := h.owned.execAll hfits
  have hget : ∀ q, r'.cells.get q =
      if q = .subsystem m.subsystems.count then some (.uuid row) else r.cells.get q := by
    intro q
    simp only [hcells, List.foldl_cons, List.foldl_nil, PointerOp.onCells, Cells.get_store]
  refine ⟨r', ?_⟩
  have hmem : m.record n row =
      { m with pointers := some r', subsystems := m.subsystems.add n } := by
    rw [Memory.record, Memory.exec]
    dsimp only
    rw [h.pointers, Option.bind_some, hexec]
  rw [hmem]
  exact ⟨rfl, howned, h.ports.congr fun a x => by simp [hget],
    h.subsystems.create hn fun b => by simp [hget]⟩

/-- An entry of `ovs_subs` is deleted. -/
theorem forget (h : Placed simulated heap ports subs m r) (hn : (subs n).isSome = true) :
    ∃ r', Placed simulated heap ports (Function.update subs n none) (m.forget n) r' := by
  have hfits : ∀ op ∈ ([.release (.subsystem (m.subsystems.index n))] :
      List (PointerOp Place Contents)), op.Fits Place.owning :=
    fun op hop => List.mem_singleton.mp hop ▸ rfl
  obtain ⟨r', hexec, howned, hcells⟩ := h.exec hfits
  have hget : ∀ q, r'.cells.get q =
      if q = .subsystem (m.subsystems.index n) then none else r.cells.get q := by
    intro q
    simp only [hcells, List.foldl_cons, List.foldl_nil, PointerOp.onCells, Cells.get_clear]
  refine ⟨r', ?_⟩
  rw [Memory.forget, hexec]
  exact ⟨rfl, howned, h.ports.congr fun a x => by simp [hget],
    h.subsystems.remove hn fun b => by simp [hget]⟩

/-! ## Loops -/

/-- Without the names in `keys`. -/
theorem update_none_notMem {α : Type*} (g : String → Option α) (n : String) (keys : List String) :
    (fun n' => if n' ∈ keys then none else Function.update g n none n') =
      fun n' => if n' ∈ n :: keys then none else g n' := by
  funext n'
  by_cases heq : n' = n
  · simp [heq]
  · simp [heq]

/-- Deletions of several ports. -/
theorem freeAll : ∀ {todo : Shash String PmPort} {ports : String → Option (Member → Option Contents)}
    {m : Memory} {r : Pointers Place Contents} {data : String → Option Page}, todo.Unique →
      (∀ n p, (n, p) ∈ todo → p.instanceName = n ∧ ports n = some (p.contents (data n))) →
      (∀ n, (data n).isSome = true → simulated = true) → Placed simulated heap ports subs m r →
      ∃ r', Placed simulated heap (fun n => if n ∈ todo.keys then none else ports n) subs
        (todo.foldl (fun m node => m.free node.2.instanceName) m) r'
  | [], _, _, r, _, _, _, _, h => ⟨r, by simpa [Shash.keys] using h⟩
  | (n, p) :: todo, ports, m, r, data, hu, htodo, hdata, h => by
    obtain ⟨hname, hp⟩ := htodo n p List.mem_cons_self
    obtain ⟨r₁, h₁⟩ := h.free hp (hdata n)
    have hrest : ∀ n' p', (n', p') ∈ todo → p'.instanceName = n' ∧
        Function.update ports n none n' = some (p'.contents (data n')) := by
      intro n' p' hm
      obtain ⟨hname', hp'⟩ := htodo n' p' (List.mem_cons_of_mem _ hm)
      have hmem : n' ∈ Shash.keys todo := List.mem_map_of_mem hm
      have hne : n' ≠ n := fun heq => hu.notMem_keys (heq ▸ hmem)
      exact ⟨hname', by rw [Function.update_of_ne hne, hp']⟩
    obtain ⟨r', h'⟩ := freeAll hu.tail hrest hdata h₁
    rw [update_none_notMem] at h'
    refine ⟨r', ?_⟩
    rw [List.foldl_cons, hname]
    exact h'

/-- Deletions of several entries of `ovs_subs`. -/
theorem forgetAll : ∀ {todo : Shash String Uuid} {subs : String → Option Uuid} {m : Memory}
    {r : Pointers Place Contents}, todo.Unique → (∀ n ∈ todo.keys, (subs n).isSome = true) →
      Placed simulated heap ports subs m r →
      ∃ r', Placed simulated heap ports (fun n => if n ∈ todo.keys then none else subs n)
        (todo.foldl (fun m node => m.forget node.1) m) r'
  | [], _, _, r, _, _, h => ⟨r, by simpa [Shash.keys] using h⟩
  | (n, row) :: todo, subs, m, r, hu, htodo, h => by
    obtain ⟨r₁, h₁⟩ := h.forget (htodo n List.mem_cons_self)
    have hrest : ∀ n' ∈ Shash.keys todo, (Function.update subs n none n').isSome = true := by
      intro n' hm
      have hne : n' ≠ n := fun heq => hu.notMem_keys (heq ▸ hm)
      rw [Function.update_of_ne hne]
      exact htodo n' (List.mem_cons_of_mem _ hm)
    obtain ⟨r', h'⟩ := forgetAll hu.tail hrest h₁
    rw [update_none_notMem] at h'
    exact ⟨r', h'⟩

end Placed

end OpsPmd
