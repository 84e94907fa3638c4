import OpsPmd.OvsdbAccess
import Mathlib.Logic.Equiv.Defs

/-!
# Diagnostics byte by byte

What the columns of `ovs_module_dom_info` are in terms of the bytes of the page alone, without the
structs that `pm_set_a2` lays over it.

* `ModuleType.source` — where each column stands in a page
* `decoded_exactly` — all columns but the temperatures are what stands there
* `temperature_exact_iff` — a temperature is exact where its low byte is zero
-/

namespace OpsPmd

variable {t : ModuleType} {port : PmPort} {p q : Page}

/-! ## Where a column stands -/

/-- Where the value of a column stands in a page. -/
inductive Source
  /-- The big-endian word at a byte, in units of so many ten-thousandths. -/
  | word (i : Nat) (unit : Nat)
  /-- A bit of a byte. -/
  | flag (i : Nat) (k : Nat)
  deriving DecidableEq, Repr

namespace Source

/-- The bytes the value is taken from. -/
def bytes : Source → List Nat
  | word i _ => [i, i + 1]
  | flag i _ => [i]

/-- The value as a string. -/
def render (p : Page) : Source → String
  | word i unit =>
    CText.formatFixed
      ((((p (Fin.ofNat 128 i)).toNat * 256 + (p (Fin.ofNat 128 (i + 1))).toNat) * unit : Nat) : Int)
  | flag i k => if (p (Fin.ofNat 128 i)).toNat.testBit k then "On" else "Off"

theorem render_congr {src : Source} (h : ∀ i ∈ src.bytes, q (Fin.ofNat 128 i) = p (Fin.ofNat 128 i)) :
    src.render q = src.render p := by
  cases src with
  | word i unit =>
    rw [render, render, h i (by simp [bytes]), h (i + 1) (by simp [bytes])]
  | flag i k => rw [render, render, h i (by simp [bytes])]

end Source

namespace Level

/-- The place of a level among the four thresholds of a quantity. -/
def place : Level → Nat
  | highAlarm => 0 | lowAlarm => 1 | highWarning => 2 | lowWarning => 3

def isAlarm : Level → Bool
  | highAlarm | lowAlarm => true
  | highWarning | lowWarning => false

def isHigh : Level → Bool
  | highAlarm | highWarning => true
  | lowAlarm | lowWarning => false

end Level

/-- An SFP+ page: thresholds from byte 0, values from byte 96, flags in bytes 112 to 117. -/
def sfpSource : DomColumn → Option Source
  | ⟨.vcc, .value⟩ => some (.word 98 1)
  | ⟨.txBias, .value⟩ => some (.word 100 20)
  | ⟨.txPower, .value⟩ => some (.word 102 1)
  | ⟨.rxPower, .value⟩ => some (.word 104 1)
  | ⟨.vcc, .threshold l⟩ => some (.word (8 + 2 * l.place) 1)
  | ⟨.txBias, .threshold l⟩ => some (.word (16 + 2 * l.place) 20)
  | ⟨.txPower, .threshold l⟩ => some (.word (24 + 2 * l.place) 1)
  | ⟨.rxPower, .threshold l⟩ => some (.word (32 + 2 * l.place) 1)
  | ⟨.temperature, .flag l⟩ => some (.flag (alarmByte l) (6 + l.isHigh.toNat))
  | ⟨.vcc, .flag l⟩ => some (.flag (alarmByte l) (4 + l.isHigh.toNat))
  | ⟨.txBias, .flag l⟩ => some (.flag (alarmByte l) (2 + l.isHigh.toNat))
  | ⟨.txPower, .flag l⟩ => some (.flag (alarmByte l) l.isHigh.toNat)
  | ⟨.rxPower, .flag l⟩ => some (.flag (alarmByte l + 1) (6 + l.isHigh.toNat))
  | _ => none
where
  alarmByte (l : Level) : Nat := if l.isAlarm then 112 else 116

/-- The two quantities a QSFP page has for each lane. -/
inductive LaneKind
  | rxPower | txBias
  deriving DecidableEq, Repr

namespace LaneKind

def quantity : LaneKind → Fin 4 → Quantity
  | rxPower, 0 => .rx1Power | rxPower, 1 => .rx2Power
  | rxPower, 2 => .rx3Power | rxPower, 3 => .rx4Power
  | txBias, 0 => .tx1Bias | txBias, 1 => .tx2Bias
  | txBias, 2 => .tx3Bias | txBias, 3 => .tx4Bias

/-- The first byte of the values. -/
def values : LaneKind → Nat
  | rxPower => 34 | txBias => 42

/-- The first byte of the flags, two lanes to a byte. -/
def flags : LaneKind → Nat
  | rxPower => 9 | txBias => 11

def unit : LaneKind → Nat
  | rxPower => 1 | txBias => 20

/-- The odd lanes, counted from one, have the upper half of their byte. -/
def shift (lane : Fin 4) : Nat := if lane.val % 2 = 0 then 4 else 0

def source (kind : LaneKind) (lane : Fin 4) : Aspect → Option Source
  | .value => some (.word (kind.values + 2 * lane) kind.unit)
  | .flag l => some (.flag (kind.flags + lane / 2) (shift lane + (3 - l.place)))
  | .threshold _ => none

end LaneKind

/-- A QSFP page: flags of the lanes in bytes 9 to 12, values from byte 26. -/
def qsfpSource : DomColumn → Option Source
  | ⟨.vcc, .value⟩ => some (.word 26 1)
  | ⟨.rx1Power, a⟩ => LaneKind.rxPower.source 0 a
  | ⟨.rx2Power, a⟩ => LaneKind.rxPower.source 1 a
  | ⟨.rx3Power, a⟩ => LaneKind.rxPower.source 2 a
  | ⟨.rx4Power, a⟩ => LaneKind.rxPower.source 3 a
  | ⟨.tx1Bias, a⟩ => LaneKind.txBias.source 0 a
  | ⟨.tx2Bias, a⟩ => LaneKind.txBias.source 1 a
  | ⟨.tx3Bias, a⟩ => LaneKind.txBias.source 2 a
  | ⟨.tx4Bias, a⟩ => LaneKind.txBias.source 3 a
  | _ => none

/-- Where a column stands in the page of a kind. Temperatures are left out. -/
def ModuleType.source : ModuleType → DomColumn → Option Source
  | sfpPlus => sfpSource
  | qsfpPlus | qsfp28 => qsfpSource

theorem LaneKind.source_quantity (kind : LaneKind) (lane : Fin 4) (a : Aspect) :
    qsfpSource ⟨kind.quantity lane, a⟩ = kind.source lane a := by
  cases kind with
  | rxPower => match lane with | 0 | 1 | 2 | 3 => rfl
  | txBias => match lane with | 0 | 1 | 2 | 3 => rfl

/-- A temperature, or one of its thresholds. -/
def DomColumn.isTemperature : DomColumn → Bool
  | ⟨.temperature, .value⟩ => true
  | ⟨.temperature, .threshold _⟩ => true
  | _ => false

/-- The columns of a branch are the temperatures and those that stand somewhere. -/
theorem ModuleType.source_isSome_iff {t : ModuleType} {d : DomColumn} :
    (t.source d).isSome = true ↔ d ∈ t.domColumns ∧ d.isTemperature = false := by
  obtain ⟨q, a⟩ := d
  cases t <;> cases q <;> rcases a with _ | l | l <;> (try cases l) <;> decide

/-! ## Each row decodes what stands there -/

theorem word_eq (msb lsb : UInt8) : word msb lsb = msb.toNat * 256 + lsb.toNat := by
  have hlsb : lsb.toNat < 2 ^ 8 := lsb.toNat_lt
  rw [word, ← Nat.shiftLeft_add_eq_or_of_lt hlsb, Nat.shiftLeft_eq]

/-- A row stores what stands in the page for its column, if it is no temperature. -/
def Agrees (source : DomColumn → Option Source) (p : Page) (w : Write Column String) : Prop :=
  ∀ d src, w.key = .dom d → source d = some src → w.value = src.render p

theorem value_boolString (d : DomColumn) (b : Bool) :
    (boolString d b).value = if b then "On" else "Off" := by
  cases b <;> rfl

section Rows

variable {source : DomColumn → Option Source} {d : DomColumn} {msb lsb : UInt8} {i k : Nat}

theorem agrees_tenThousandths (hs : source d = some (.word i 1)) (hm : msb = p (Fin.ofNat 128 i))
    (hl : lsb = p (Fin.ofNat 128 (i + 1))) :
    Agrees source p (floatString d (tenThousandths msb lsb)) := by
  rintro d' src hd hsrc
  obtain rfl := Column.dom.inj hd
  obtain rfl := Option.some.inj (hs.symm.trans hsrc)
  simp [floatString, Source.render, tenThousandths, word_eq, hm, hl]

theorem agrees_fiveHundredths (hs : source d = some (.word i 20)) (hm : msb = p (Fin.ofNat 128 i))
    (hl : lsb = p (Fin.ofNat 128 (i + 1))) :
    Agrees source p (floatString d (fiveHundredths msb lsb)) := by
  rintro d' src hd hsrc
  obtain rfl := Column.dom.inj hd
  obtain rfl := Option.some.inj (hs.symm.trans hsrc)
  simp [floatString, Source.render, fiveHundredths, word_eq, hm, hl]

theorem agrees_flag {b : Bool} (hs : source d = some (.flag i k))
    (hb : b = p.bit (Fin.ofNat 128 i) k) : Agrees source p (boolString d b) := by
  rintro d' src hd hsrc
  rw [boolString_key] at hd
  obtain rfl := Column.dom.inj hd
  obtain rfl := Option.some.inj (hs.symm.trans hsrc)
  rw [value_boolString, hb]
  rfl

theorem agrees_celsius (hs : source d = none) : Agrees source p (floatString d (celsius msb lsb)) := by
  rintro d' src hd hsrc
  obtain rfl := Column.dom.inj hd
  rw [hs] at hsrc
  cases hsrc

end Rows

theorem agrees_sfpWrites (p : Page) : ∀ w ∈ sfpWrites p, Agrees sfpSource p w := by
  unfold sfpWrites
  repeat' refine List.forall_mem_cons.mpr ⟨?_, ?_⟩
  all_goals first
    | with_reducible apply agrees_flag
    | with_reducible apply agrees_celsius
    | with_reducible apply agrees_tenThousandths
    | with_reducible apply agrees_fiveHundredths
    | with_reducible exact List.forall_mem_nil _
  all_goals rfl

theorem agrees_qsfpWrites (p : Page) : ∀ w ∈ qsfpWrites p, Agrees qsfpSource p w := by
  unfold qsfpWrites
  repeat' refine List.forall_mem_cons.mpr ⟨?_, ?_⟩
  all_goals first
    | with_reducible apply agrees_flag
    | with_reducible apply agrees_celsius
    | with_reducible apply agrees_tenThousandths
    | with_reducible apply agrees_fiveHundredths
    | with_reducible exact List.forall_mem_nil _
  all_goals rfl

theorem agrees_domWrites (t : ModuleType) (p : Page) :
    ∀ w ∈ t.domWrites p, Agrees t.source p w := by
  cases t with
  | sfpPlus => exact agrees_sfpWrites p
  | qsfpPlus => exact agrees_qsfpWrites p
  | qsfp28 => exact agrees_qsfpWrites p

/-- **On null columns, each column of the branch becomes what stands in the page.** -/
theorem dom_pmSetA2_of_source (h : port.moduleDevice.IsA t) (hnull : ∀ d, port.dom d = none)
    {d : DomColumn} {src : Source} (hs : t.source d = some src) (p : Page) :
    (pmSetA2 port p).dom d = some (src.render p) := by
  have hd : d ∈ t.domColumns := (ModuleType.source_isSome_iff.mp (by rw [hs]; rfl)).1
  have hkey : Column.dom d ∈ (t.domWrites p).map Write.key := by
    rw [ModuleType.map_key_domWrites]
    exact List.mem_map_of_mem hd
  obtain ⟨w, hw, hwd⟩ := List.mem_map.mp hkey
  have hget : port.cells.get w.key = none := by
    rw [hwd]
    exact hnull d
  rw [dom_pmSetA2_of_mem h hw hwd, Cells.get_write_of_none hget]
  exact congrArg some (agrees_domWrites t p w hw d src hwd hs)

/-! ## Lanes -/

/-- The four bits a page has for a lane among its flags. -/
def Page.nibble (p : Page) (kind : LaneKind) (lane : Fin 4) : Nat :=
  (p (Fin.ofNat 128 (kind.flags + lane / 2))).toNat / 2 ^ LaneKind.shift lane % 2 ^ 4

/-- The page with the values and the flags of lane `π lane` in the place of those of `lane`. -/
def Page.permuteLanes (π : Equiv.Perm (Fin 4)) (p : Page) : Page := fun i =>
  let value (kind : LaneKind) : UInt8 :=
    let j := i.val - kind.values
    p (Fin.ofNat 128 (kind.values + 2 * (π (Fin.ofNat 4 (j / 2))).val + j % 2))
  let flags (kind : LaneKind) : UInt8 :=
    let j := i.val - kind.flags
    UInt8.ofNat (2 ^ 4 * p.nibble kind (π (Fin.ofNat 4 (2 * j))) +
      p.nibble kind (π (Fin.ofNat 4 (2 * j + 1))))
  if 34 ≤ i.val ∧ i.val < 42 then value .rxPower
  else if 42 ≤ i.val ∧ i.val < 50 then value .txBias
  else if 9 ≤ i.val ∧ i.val < 11 then flags .rxPower
  else if 11 ≤ i.val ∧ i.val < 13 then flags .txBias
  else p i

section Lanes

variable (π : Equiv.Perm (Fin 4)) (kind : LaneKind) (lane : Fin 4)

theorem permuteLanes_value {b : Nat} (hb : b < 2) :
    p.permuteLanes π (Fin.ofNat 128 (kind.values + 2 * lane + b)) =
      p (Fin.ofNat 128 (kind.values + 2 * (π lane).val + b)) := by
  rcases (by omega : b = 0 ∨ b = 1) with rfl | rfl
  · cases kind <;> match lane with | 0 | 1 | 2 | 3 => rfl
  · cases kind <;> match lane with | 0 | 1 | 2 | 3 => rfl

theorem nibble_lt : p.nibble kind lane < 2 ^ 4 := Nat.mod_lt _ (by decide)

theorem testBit_nibble {n : Nat} (hn : n < 4) :
    (p.nibble kind lane).testBit n =
      (p (Fin.ofNat 128 (kind.flags + lane / 2))).toNat.testBit (LaneKind.shift lane + n) := by
  rw [Page.nibble, Nat.testBit_mod_two_pow, Nat.testBit_div_two_pow, decide_eq_true hn,
    Bool.true_and, Nat.add_comm n]

/-- The upper half of a byte of two nibbles is the first one, the lower half the second. -/
theorem testBit_nibbles {a b n : Nat} (ha : a < 2 ^ 4) (hb : b < 2 ^ 4) (hn : n < 4) :
    (UInt8.ofNat (2 ^ 4 * a + b)).toNat.testBit (4 + n) = a.testBit n ∧
      (UInt8.ofNat (2 ^ 4 * a + b)).toNat.testBit (0 + n) = b.testBit n := by
  have hbyte : (UInt8.ofNat (2 ^ 4 * a + b)).toNat = 2 ^ 4 * a + b := by
    rw [UInt8.toNat_ofNat']
    exact Nat.mod_eq_of_lt (by omega)
  rw [hbyte, Nat.testBit_two_pow_mul_add a hb, Nat.testBit_two_pow_mul_add a hb]
  rw [if_neg (by omega), if_pos (by omega), Nat.add_sub_cancel_left, Nat.zero_add]
  exact ⟨rfl, rfl⟩

theorem permuteLanes_flag {n : Nat} (hn : n < 4) :
    (p.permuteLanes π (Fin.ofNat 128 (kind.flags + lane / 2))).toNat.testBit
        (LaneKind.shift lane + n) =
      (p (Fin.ofNat 128 (kind.flags + (π lane).val / 2))).toNat.testBit
        (LaneKind.shift (π lane) + n) := by
  rw [← testBit_nibble kind (π lane) hn]
  have hpair := fun l l' : Fin 4 =>
    testBit_nibbles (nibble_lt (p := p) kind (π l)) (nibble_lt (p := p) kind (π l')) hn
  cases kind with
  | rxPower =>
    match lane with
    | 0 => exact (hpair 0 1).1
    | 1 => exact (hpair 0 1).2
    | 2 => exact (hpair 2 3).1
    | 3 => exact (hpair 2 3).2
  | txBias =>
    match lane with
    | 0 => exact (hpair 0 1).1
    | 1 => exact (hpair 0 1).2
    | 2 => exact (hpair 2 3).1
    | 3 => exact (hpair 2 3).2

/-- What stands for a lane in the permuted page stands for the lane it comes from in the page. -/
theorem render_permuteLanes (a : Aspect) :
    (kind.source lane a).map (Source.render (p.permuteLanes π)) =
      (kind.source (π lane) a).map (Source.render p) := by
  cases a with
  | value =>
    have h0 := permuteLanes_value (p := p) π kind lane (show 0 < 2 by omega)
    have h1 := permuteLanes_value (p := p) π kind lane (show 1 < 2 by omega)
    rw [Nat.add_zero, Nat.add_zero] at h0
    simp only [LaneKind.source, Option.map_some, Source.render, h0, h1]
  | flag l =>
    have hbit := permuteLanes_flag (p := p) π kind lane (show 3 - l.place < 4 by omega)
    simp only [LaneKind.source, Option.map_some, Source.render, hbit]
  | threshold l => simp only [LaneKind.source, Option.map_none]

end Lanes

/-! ## Everything but the temperatures -/

/--
**On null columns `pm_set_a2` stores in each column of its branch, temperatures aside, what stands
in the page for it.** A column depends on its own bytes only, the columns of the other branch stay
null, and a permutation of the lanes of a QSFP page permutes their columns.
-/
theorem decoded_exactly (h : port.moduleDevice.IsA t) (hnull : ∀ d, port.dom d = none) (p : Page) :
    (∀ d ∈ t.domColumns, d.isTemperature = false →
      ∃ src, t.source d = some src ∧ (pmSetA2 port p).dom d = some (src.render p) ∧
        ∀ q : Page, (∀ i ∈ src.bytes, q (Fin.ofNat 128 i) = p (Fin.ofNat 128 i)) →
          (pmSetA2 port q).dom d = (pmSetA2 port p).dom d) ∧
    (∀ d, d ∉ t.domColumns → (pmSetA2 port p).dom d = none) ∧
    (t ≠ .sfpPlus → ∀ (π : Equiv.Perm (Fin 4)) (kind : LaneKind) (lane : Fin 4) (a : Aspect),
      (pmSetA2 port (p.permuteLanes π)).dom ⟨kind.quantity lane, a⟩ =
        (pmSetA2 port p).dom ⟨kind.quantity (π lane), a⟩) := by
  have hother : ∀ q : Page, ∀ d, d ∉ t.domColumns → (pmSetA2 port q).dom d = none :=
    fun q d hd => (dom_pmSetA2_of_notMem h hd).trans (hnull d)
  refine ⟨fun d hd htemp => ?_, hother p, fun ht π kind lane a => ?_⟩
  · obtain ⟨src, hs⟩ := Option.isSome_iff_exists.mp
      (ModuleType.source_isSome_iff.mpr ⟨hd, htemp⟩)
    refine ⟨src, hs, dom_pmSetA2_of_source h hnull hs p, fun q hq => ?_⟩
    rw [dom_pmSetA2_of_source h hnull hs q, dom_pmSetA2_of_source h hnull hs p,
      Source.render_congr hq]
  -- both QSFP types have the table of the lanes
  · have hsource : t.source = qsfpSource := by
      cases t with
      | sfpPlus => exact absurd rfl ht
      | qsfpPlus | qsfp28 => rfl
    -- a column of a lane is what stands in the page for it, or null if nothing does
    have hlane : ∀ (q : Page) (l : Fin 4), (pmSetA2 port q).dom ⟨kind.quantity l, a⟩ =
        (kind.source l a).map (Source.render q) := by
      intro q l
      have hs : t.source ⟨kind.quantity l, a⟩ = kind.source l a := by
        rw [hsource, LaneKind.source_quantity]
      cases hsrc : kind.source l a with
      | some src =>
        rw [hsrc] at hs
        exact dom_pmSetA2_of_source h hnull hs q
      | none =>
        rw [hsrc] at hs
        refine hother q _ fun hmem => ?_
        have hsome := ModuleType.source_isSome_iff.mpr ⟨hmem, by cases kind <;> match l with
          | 0 | 1 | 2 | 3 => rfl⟩
        rw [hs] at hsome
        cases hsome
    rw [hlane, hlane, render_permuteLanes]

/-- A page with the value 3.5 V and a high alarm of lane 2, whose lanes are rotated. -/
theorem decoded_exactly_qsfp :
    let port := newPort ⟨0, "1", []⟩ "base" ModuleType.qsfpPlus.device
    let p : Page := fun i => if i = 26 then 0x88 else if i = 27 then 0xb8 else if i = 9 then 8 else 0
    (∀ d ∈ ModuleType.domColumns .qsfpPlus, d.isTemperature = false →
      ∃ src, ModuleType.source .qsfpPlus d = some src ∧
        (pmSetA2 port p).dom d = some (src.render p) ∧
        ∀ q : Page, (∀ i ∈ src.bytes, q (Fin.ofNat 128 i) = p (Fin.ofNat 128 i)) →
          (pmSetA2 port q).dom d = (pmSetA2 port p).dom d) ∧
    (∀ d, d ∉ ModuleType.domColumns .qsfpPlus → (pmSetA2 port p).dom d = none) ∧
    (ModuleType.qsfpPlus ≠ .sfpPlus →
      ∀ (π : Equiv.Perm (Fin 4)) (kind : LaneKind) (lane : Fin 4) (a : Aspect),
        (pmSetA2 port (p.permuteLanes π)).dom ⟨kind.quantity lane, a⟩ =
          (pmSetA2 port p).dom ⟨kind.quantity (π lane), a⟩) :=
  decoded_exactly (ModuleType.isA_device .qsfpPlus) (fun _ => rfl) _

/-! ## Temperatures -/

/-- Where the temperature, or its threshold, starts in the page of a kind. -/
def ModuleType.temperatureAt : ModuleType → Aspect → Option Nat
  | sfpPlus, .value => some 96
  | sfpPlus, .threshold l => some (2 * l.place)
  | qsfpPlus, .value | qsfp28, .value => some 22
  | _, _ => none

/-- The word at a byte as a signed number. -/
def Page.signedWord (p : Page) (i : Nat) : Int :=
  let w := (p (Fin.ofNat 128 i)).toNat * 256 + (p (Fin.ofNat 128 (i + 1))).toNat
  if w < 2 ^ 15 then w else (w : Int) - 2 ^ 16

theorem signedWord_eq (p : Page) (i : Nat) :
    p.signedWord i =
      signedChar (p (Fin.ofNat 128 i)) * 256 + (p (Fin.ofNat 128 (i + 1))).toNat := by
  have hlsb := (p (Fin.ofNat 128 (i + 1))).toNat_lt
  unfold Page.signedWord signedChar
  dsimp only
  split_ifs <;> omega

/-- The number `pm_set_a2` formats for a column, in ten-thousandths. -/
def ModuleType.Formats (t : ModuleType) (p : Page) (d : DomColumn) (x : Int) : Prop :=
  floatString d x ∈ t.domWrites p

theorem formats_celsius {a : Aspect} {i : Nat} (hi : t.temperatureAt a = some i) (p : Page) :
    t.Formats p ⟨.temperature, a⟩
      (celsius (p (Fin.ofNat 128 i)) (p (Fin.ofNat 128 (i + 1)))) := by
  unfold ModuleType.Formats
  cases t with
  | qsfpPlus | qsfp28 =>
    cases a with
    | value =>
      obtain rfl := Option.some.inj hi
      exact List.mem_cons_self ..
    | flag l | threshold l => cases hi
  | sfpPlus =>
    rcases a with _ | l | l
    · obtain rfl := Option.some.inj hi
      exact List.mem_cons_self ..
    · cases hi
    · obtain rfl := Option.some.inj hi
      have hmem : ∀ w ∈ (sfpWrites p).drop 5 |>.take 4, w ∈ sfpWrites p :=
        fun w hw => List.mem_of_mem_drop (List.mem_of_mem_take hw)
      cases l with
      | highAlarm => exact hmem _ (List.mem_cons_self ..)
      | lowAlarm => exact hmem _ (.tail _ (List.mem_cons_self ..))
      | highWarning => exact hmem _ (.tail _ (.tail _ (List.mem_cons_self ..)))
      | lowWarning => exact hmem _ (.tail _ (.tail _ (.tail _ (List.mem_cons_self ..))))

/-- A column has one row, so one number. -/
theorem eq_celsius_of_formats {a : Aspect} {i : Nat} (hi : t.temperatureAt a = some i) {x : Int}
    (hx : t.Formats p ⟨.temperature, a⟩ x) :
    x = celsius (p (Fin.ofNat 128 i)) (p (Fin.ofNat 128 (i + 1))) := by
  have hrow := List.inj_on_of_nodup_map (t.keys_nodup p) hx (formats_celsius hi p) rfl
  have hkeep := congrFun (congrArg Write.keep hrow)
    (CText.formatFixed (celsius (p (Fin.ofNat 128 i)) (p (Fin.ofNat 128 (i + 1)))))
  simp only [floatString, strtol_formatFixed_celsius, beq_self_eq_true, beq_iff_eq] at hkeep
  exact hkeep.symm

theorem dom_pmSetA2_of_formats (h : port.moduleDevice.IsA t) (hnull : ∀ d, port.dom d = none)
    {d : DomColumn} {x : Int} (hx : t.Formats p d x) :
    (pmSetA2 port p).dom d = some (CText.formatFixed x) := by
  rw [dom_pmSetA2_of_mem h hx rfl, Cells.get_write_of_none (hnull d)]
  rfl

/-- Times 256, the number formatted is short of the signed word by the low byte. -/
theorem celsius_mul (p : Page) (i : Nat) :
    celsius (p (Fin.ofNat 128 i)) (p (Fin.ofNat 128 (i + 1))) * 256 =
      (p.signedWord i - (p (Fin.ofNat 128 (i + 1))).toNat) * 10000 := by
  rw [celsius_eq, signedWord_eq]
  omega

/--
The temperatures of two pages at a byte are decoded with their fractions: the numbers formatted, in
ten-thousandths, are the signed words over 256, and so in the order of the words.
-/
structure TemperatureExact (t : ModuleType) (port : PmPort) (a : Aspect) (i : Nat) (p q : Page)
    (x y : Int) : Prop where
  formats : t.Formats p ⟨.temperature, a⟩ x ∧ t.Formats q ⟨.temperature, a⟩ y
  stored : (pmSetA2 port p).dom ⟨.temperature, a⟩ = some (CText.formatFixed x) ∧
    (pmSetA2 port q).dom ⟨.temperature, a⟩ = some (CText.formatFixed y)
  exact : x * 256 = p.signedWord i * 10000 ∧ y * 256 = q.signedWord i * 10000
  ordered : p.signedWord i < q.signedWord i → x < y

/-- **A temperature is decoded with its fraction if and only if the fraction is zero.** -/
theorem temperature_exact_iff (h : port.moduleDevice.IsA t) (hnull : ∀ d, port.dom d = none)
    {a : Aspect} {i : Nat} (hi : t.temperatureAt a = some i) (p q : Page) :
    (∃ x y, TemperatureExact t port a i p q x y) ↔
      p (Fin.ofNat 128 (i + 1)) = 0 ∧ q (Fin.ofNat 128 (i + 1)) = 0 := by
  have hmul := fun r : Page => celsius_mul r i
  constructor
  · rintro ⟨x, y, ⟨hx, hy⟩, -, ⟨hxw, hyw⟩, -⟩
    rw [eq_celsius_of_formats hi hx, hmul p] at hxw
    rw [eq_celsius_of_formats hi hy, hmul q] at hyw
    constructor
    · exact UInt8.toNat_inj.mp (by simp only [UInt8.toNat_zero]; omega)
    · exact UInt8.toNat_inj.mp (by simp only [UInt8.toNat_zero]; omega)
  · rintro ⟨hp, hq⟩
    have hp' := hmul p
    have hq' := hmul q
    rw [hp, UInt8.toNat_zero, Int.natCast_zero, sub_zero, ← hp] at hp'
    rw [hq, UInt8.toNat_zero, Int.natCast_zero, sub_zero, ← hq] at hq'
    have hfp := formats_celsius hi p
    have hfq := formats_celsius hi q
    refine ⟨_, _, ⟨hfp, hfq⟩, ?_, ⟨hp', hq'⟩, fun hlt => ?_⟩
    · exact ⟨dom_pmSetA2_of_formats h hnull hfp, dom_pmSetA2_of_formats h hnull hfq⟩
    · omega

/-- 25 and -3 degrees on an SFP+ module, as its high alarm threshold. -/
theorem temperature_exact_iff_sfpPlus :
    let port := newPort ⟨0, "1", []⟩ "base" ModuleType.sfpPlus.device
    let p : Page := fun i => if i = 0 then 25 else 0
    let q : Page := fun i => if i = 0 then 0xfd else 0
    (∃ x y, TemperatureExact .sfpPlus port (.threshold .highAlarm) 0 p q x y) ↔
      p (Fin.ofNat 128 1) = 0 ∧ q (Fin.ofNat 128 1) = 0 :=
  temperature_exact_iff (ModuleType.isA_device .sfpPlus) (fun _ => rfl) rfl _ _

/-- A module at 25.5 degrees reports 25.00, and so does one at 25 degrees. -/
theorem temperature_fraction_lost :
    let port := newPort ⟨0, "1", []⟩ "base" ModuleType.sfpPlus.device
    let p : Page := fun i => if i = 96 then 25 else 0
    let q : Page := fun i => if i = 96 then 25 else if i = 97 then 0x80 else 0
    p.signedWord 96 < q.signedWord 96 ∧
      (pmSetA2 port q).dom Quantity.temperature.current = some "25.00" ∧
      (pmSetA2 port p).dom Quantity.temperature.current =
        (pmSetA2 port q).dom Quantity.temperature.current ∧
      ¬ ∃ x y, TemperatureExact .sfpPlus port .value 96 p q x y := by
  refine ⟨by decide, by decide +kernel, by decide +kernel, ?_⟩
  rintro ⟨x, y, ⟨hx, hy⟩, -, -, hlt⟩
  have hx' : x = 250000 := by
    rw [eq_celsius_of_formats rfl hx]
    decide
  have hy' : y = 250000 := by
    rw [eq_celsius_of_formats rfl hy]
    decide
  have hxy := hlt (by decide)
  omega

end OpsPmd
