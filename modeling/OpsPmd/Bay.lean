import OpsPmd.PortInvariant

/-!
# What a port is for

A port of the daemon has fifteen identification columns, over a hundred diagnostic ones and half a
dozen flags, which a poll changes one by one. What they stand for is less: which module the daemon
believes to be there, and the diagnostics it decoded last. A `Bay` has just that.

* `Bay.observe` — what a poll does to a bay
* `Bay.pmInfo` — what is published of it
* `bayStep` — the machine of one bay over a platform, to be compared with `portStep`
-/

namespace OpsPmd

open PmInfo

/-! ## Bays -/

/-- The module that is believed to be in a port. -/
inductive Ident
  /-- The port was never polled. -/
  | blank
  | empty
  | unreadable
  | known (a0 : Page)

namespace Ident

/-- What stands in an identification column, the raw pages apart. -/
def column (t : ModuleType) : Ident → InfoColumn → Option String
  | blank, _ => none
  | empty, c => noModule CONNECTOR_ABSENT c
  | unreadable, c => noModule CONNECTOR_UNKNOWN c
  | known a0, c => t.identity a0 c

def present : Ident → Bool
  | blank | empty => false
  | unreadable | known _ => true

def retry : Ident → Bool
  | unreadable => true
  | blank | empty | known _ => false

end Ident

/-- What stands in the diagnostic columns. -/
abbrev Diagnostics := DomColumn → Option String

/-- The text of a column after a write: the old one if the write takes it for the same. -/
def writtenText (w : Write Column String) : Option String → String
  | none => w.value
  | some old => if w.keep old then old else w.value

/-- The diagnostics after a page was decoded. -/
def decode (t : ModuleType) (a2 : Page) (dom : Diagnostics) : Diagnostics := fun d =>
  match (t.domWrites a2).find? fun w => w.key = .dom d with
  | some w => some (writtenText w (dom d))
  | none => dom d

/-- A port as it is seen from outside. -/
structure Bay where
  ident : Ident := .blank
  /-- The last module that was identified was an optical one. -/
  optical : Bool := false
  dom : Diagnostics := fun _ => none

namespace Bay

/-- Diagnostics stay where they are until others are decoded. -/
def observe (t : ModuleType) (b : Bay) : Observation → Bay
  | .absent => { b with ident := .empty }
  | .held => b
  | .unreadable => { b with ident := .unreadable }
  | .identified a0 a2 =>
    { ident := .known a0
      optical := (t.classify a0).optical
      dom := a2.elim b.dom fun a2 => decode t a2 b.dom }

def column (t : ModuleType) (b : Bay) : Column → Option String
  | .info c => b.ident.column t c
  | .dom d => b.dom d

/-- Each column that is not null, under its name. -/
def pmInfo (t : ModuleType) (b : Bay) : Smap :=
  publishedColumns.filterMap fun c => (b.column t c).map fun text => (c.name, text)

end Bay

/-! ## The machine -/

/-- A bay with its place, its configuration and the world its platform acts on. -/
structure BaySlot (σ : Type) where
  id : PortId
  hwEnable : Bool
  bay : Bay
  world : σ

namespace BaySlot

variable {σ : Type}

/-- The port a platform gets to see. -/
def toPort (s : BaySlot σ) : PmPort where
  toPortId := s.id
  hwEnable := s.hwEnable
  present := s.bay.ident.present
  retry := s.bay.ident.retry
  optical := s.bay.optical

end BaySlot

section Machine

variable {σ : Type} (P : Platform σ) (t : ModuleType)

def bayStep (s : BaySlot σ) : PortEvent σ → BaySlot σ
  | .poll change =>
    let (o, w) := observation P t s.toPort (change s.world)
    { s with bay := s.bay.observe t o, world := w }
  | .publish => s
  | .modify intf =>
    let s' : BaySlot σ := { s with hwEnable := ovsdbIfIntfGetHwEnable intf }
    if s.hwEnable = s'.hwEnable then s else { s' with world := P.configurePort s'.toPort s.world }

/-- The bay of a port that was just created. -/
def newBay (intf : Interface) (subName : String) (yamlPort : YamlPort) (s : σ) : BaySlot σ where
  id := (newPort intf subName yamlPort).toPortId
  hwEnable := ovsdbIfIntfGetHwEnable intf
  bay := {}
  world := s

end Machine

/-! ## Ports and their bays -/

/-- The columns and the flags of the port are those of the bay. -/
structure PmPort.Shows (t : ModuleType) (port : PmPort) (b : Bay) : Prop where
  inv : port.Inv t
  info : ∀ c, c ≠ .a0Uppers → c ≠ .a2 → port.info c = b.ident.column t c
  dom : ∀ d, port.dom d = b.dom d
  present : port.present = b.ident.present
  retry : port.present = true → port.retry = b.ident.retry
  optical : port.optical = b.optical

namespace PmPort

variable {port : PmPort} {t : ModuleType} {b : Bay}

/-- `pm_set_a2` leaves in the diagnostic columns what was decoded. -/
theorem dom_pmSetA2_eq_decode (h : port.moduleDevice.IsA t) (a2 : Page) :
    (pmSetA2 port a2).dom = decode t a2 port.dom := by
  funext d
  unfold decode
  cases hfind : (t.domWrites a2).find? fun w => w.key = .dom d with
  | some w =>
    have hkey : w.key = .dom d := by simpa using List.find?_some hfind
    rw [dom_pmSetA2_of_mem h (List.mem_of_find?_eq_some hfind) hkey, Cells.get_write_self, hkey]
    show some _ = some (writtenText w (port.cells.get (.dom d)))
    cases port.cells.get (.dom d) <;> rfl
  | none =>
    refine dom_pmSetA2_of_notMem h fun hd => ?_
    -- every column of the kind has a write
    have hkey : Column.dom d ∈ (t.domWrites a2).map Write.key := by
      rw [ModuleType.map_key_domWrites]
      exact List.mem_map_of_mem hd
    obtain ⟨w, hw, hwd⟩ := List.mem_map.mp hkey
    exact List.find?_eq_none.mp hfind w hw (by simpa using hwd)

namespace Shows

theorem newPort (intf : Interface) (subName : String) {yamlPort : YamlPort} (h : yamlPort.IsA t) :
    (newPort intf subName yamlPort).Shows t {} :=
  ⟨inv_newPort intf subName h, fun _ _ _ => rfl, fun _ => rfl, rfl,
    (fun hp => by cases hp), rfl⟩

/-- The port has to be read exactly if its bay has. -/
theorem needsRead_iff (h : port.Shows t b) {port' : PmPort}
    (hp : port'.present = b.ident.present) (hr : port'.retry = b.ident.retry) :
    port.NeedsRead ↔ port'.NeedsRead := by
  refine not_congr ?_
  rw [hp, hr, h.present]
  refine and_congr_right fun hpresent => ?_
  rw [h.retry (h.present.trans hpresent)]

/-- The marks and the configuration are not shown. -/
theorem retouch (h : port.Shows t b) (changed hwEnable : Bool) :
    ({ port with
      cells := { port.cells with changed := changed }
      hwEnable := hwEnable } : PmPort).Shows t b :=
  ⟨h.inv.retouch changed hwEnable, h.info, h.dom, h.present, h.retry, h.optical⟩

/-- **A poll does to the columns of a port what it does to its bay.** -/
theorem observe (h : port.Shows t b) {o : Observation} (ho : Possible t port o) :
    (port.observe o).Shows t (b.observe t o) := by
  have hinv := h.inv.observe ho
  match o with
  | .absent =>
    have hshape := h.inv.hasShape_settleAbsent
    refine ⟨hinv, fun c _ _ => ?_, fun d => ?_, hshape.1, fun hp => ?_, ?_⟩
    · exact hshape.info_absent c
    · exact (dom_settleAbsent d).trans (h.dom d)
    · exact absurd (hshape.1.symm.trans hp) Bool.false_ne_true
    · refine Eq.trans ?_ h.optical
      show port.settleAbsent.optical = port.optical
      unfold settleAbsent
      split
      · rw [absent_frame]
      · rfl
  | .held => exact h
  | .unreadable =>
    refine ⟨hinv, fun c _ _ => info_unreadable c, fun d => (dom_unreadable d).trans (h.dom d), ?_,
      fun _ => ?_, ?_⟩
    · show port.unreadable.present = true
      rw [unreadable_frame]
    · show port.unreadable.retry = true
      rw [unreadable_frame]
    · refine Eq.trans ?_ h.optical
      show port.unreadable.optical = port.optical
      rw [unreadable_frame]
  | .identified a0 a2 =>
    obtain ⟨hpresent, hretry, hoptical⟩ := flags_identified h.inv.device a0 a2
    have hdom : port.dom = b.dom := funext h.dom
    refine ⟨hinv, fun c h0 h2 => ?_, fun d => ?_, hpresent, fun _ => hretry, hoptical⟩
    · exact info_observe_identified h.inv.device h.inv.numeric a0 a2 h0 h2
    · cases a2 with
      | none => exact (dom_identified h.inv.device a0 d).trans (h.dom d)
      | some a2 =>
        show (pmSetA2 (port.identified a0) a2).dom d = decode t a2 b.dom d
        rw [dom_pmSetA2_eq_decode (isA_identified h.inv.device a0), ← hdom]
        exact congrArg (decode t a2 · d) (funext (dom_identified h.inv.device a0))

/-- A published column of the port is that of the bay. -/
theorem get_column (h : port.Shows t b) {c : Column} (hc : c ∈ publishedColumns) :
    port.cells.get c = b.column t c := by
  obtain ⟨-, h2, h0⟩ := mem_publishedColumns.mp hc
  cases c with
  | info c => exact h.info c (fun he => h0 (he ▸ rfl)) fun he => h2 (he ▸ rfl)
  | dom d => exact h.dom d

/-- **What is published of a port is what is published of its bay.** -/
theorem pmInfo (h : port.Shows t b) : port.pmInfo = b.pmInfo t := by
  have hguard : (rows.filter fun r => (port.cells.get r.guard).isSome) =
      rows.filter fun r => (port.cells.get r.value).isSome :=
    List.filter_congr fun r hr => h.inv.paired.guard_eq hr
  unfold PmPort.pmInfo PmPort.smapAdds Bay.pmInfo publishedColumns
  rw [hguard, List.filterMap_map, List.filterMap_map, List.filterMap_filter]
  refine List.filterMap_congr fun r hr => ?_
  have hcolumn := h.get_column (List.mem_map_of_mem hr)
  have hkey := key_of_mem_rows r hr
  simp only [Function.comp_apply, ← hcolumn, ← hkey]
  cases port.cells.get r.value <;> rfl

end Shows

end PmPort

end OpsPmd
