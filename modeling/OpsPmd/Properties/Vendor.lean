import OpsPmd.PortInvariant
import OpsPmd.Lib.Padding

/-!
# Vendor strings

The vendor fields of a serial ID page are padded with spaces. `pm_parse` strips them with a loop
that starts at the end of the field, stops at a NUL, and never looks at the first byte.

* `vendorString_eq` — what the loop leaves
* `vendor_trimmed_iff` — the fields for which that is the text without trailing spaces
-/

namespace OpsPmd

open Padding

variable {t : ModuleType} {port : PmPort} {a0 b0 : Page}

/-! ## The loop -/

def isSpace (b : UInt8) : Bool := b = SPACE

def isText (b : UInt8) : Bool := b ≠ 0

theorem isText_of_isSpace (b : UInt8) (h : isSpace b = true) : isText b = true := by
  obtain rfl : b = SPACE := by simpa [isSpace] using h
  rfl

/-- A field as a string, up to a NUL and without trailing spaces. -/
def trimmed (field : List UInt8) : String :=
  String.ofList ((trim isSpace isText field).map CText.byteChar)

/-- NULs behind a list do not change its text. -/
theorem takeWhile_append_replicate (l : List UInt8) (m : Nat) :
    (l ++ List.replicate m 0).takeWhile isText = l.takeWhile isText := by
  have hnul : (List.replicate m (0 : UInt8)).takeWhile isText = [] := by
    cases m <;> rfl
  rw [List.takeWhile_append, hnul, List.append_nil]
  split
  · next hlen => exact ((List.takeWhile_prefix isText).eq_of_length hlen).symm
  · rfl

/--
The loop on a buffer that holds a field and NULs behind it. The induction is on the field from its
end: each space becomes one more NUL.
-/
theorem takeWhile_stripSpaces (a : UInt8) (l : List UInt8) : ∀ m : Nat,
    (stripSpaces l.length (a :: l ++ List.replicate m 0)).takeWhile isText =
      trimTail isSpace isText (a :: l) := by
  induction l using List.reverseRecOn with
  | nil => exact takeWhile_append_replicate [a]
  | append_singleton l x ih =>
    intro m
    have hget : (a :: (l ++ [x]) ++ List.replicate m 0).getD (l.length + 1) 0 = x := by
      simp [List.getD_eq_getElem?_getD]
    have hset : (a :: (l ++ [x]) ++ List.replicate m 0).set (l.length + 1) 0 =
        a :: l ++ List.replicate (m + 1) 0 := by
      simp [List.replicate_succ]
    rw [List.length_append, List.length_singleton, stripSpaces, hget, hset]
    by_cases hx : x = SPACE
    · have hpx : isSpace x = true := decide_eq_true hx
      rw [if_pos hx, ih (m + 1)]
      show _ = (a :: (l ++ [x]).rdropWhile isSpace).takeWhile isText
      rw [List.rdropWhile_concat_pos isSpace l x hpx]
      rfl
    · have hpx : ¬isSpace x = true := by simpa [isSpace] using hx
      rw [if_neg hx, takeWhile_append_replicate]
      show _ = (a :: (l ++ [x]).rdropWhile isSpace).takeWhile isText
      rw [List.rdropWhile_concat_neg isSpace l x hpx]

/-- **All but the first byte lose their trailing spaces.** -/
theorem vendorString_eq (a : UInt8) (l : List UInt8) :
    vendorString (a :: l) =
      String.ofList ((trimTail isSpace isText (a :: l)).map CText.byteChar) := by
  have hloop := takeWhile_stripSpaces a l 1
  unfold vendorString cString
  rw [List.length_cons, Nat.add_sub_cancel]
  exact congrArg (fun s => String.ofList (s.map CText.byteChar)) hloop

/-! ## Strings and bytes -/

theorem byteChar_injective : Function.Injective CText.byteChar := by
  have hall : ∀ n < 256, (Char.ofNat n).toNat = n := by decide +kernel
  intro b c h
  have hchar := congrArg Char.toNat h
  unfold CText.byteChar at hchar
  rw [hall _ b.toNat_lt, hall _ c.toNat_lt] at hchar
  exact UInt8.toNat_inj.mp hchar

/-- A trimmed string does not end in a space. -/
theorem getLast?_trimmed (field : List UInt8) : (trimmed field).toList.getLast? ≠ some ' ' := by
  intro hlast
  rw [trimmed, String.toList_ofList, List.getLast?_map, Option.map_eq_some_iff] at hlast
  obtain ⟨b, hb, hspace⟩ := hlast
  have hb' : b = SPACE := byteChar_injective hspace
  have hnot := getLast?_trim hb
  rw [hb'] at hnot
  cases hnot

/-- Two fields that differ in their padding only: spaces, and NULs behind them. -/
def SamePadded (f g : List UInt8) : Prop :=
  ∃ text k m k' m', f = text ++ List.replicate k SPACE ++ List.replicate m 0 ∧
    g = text ++ List.replicate k' SPACE ++ List.replicate m' 0

theorem trimmed_append (text : List UInt8) (k m : Nat) :
    trimmed (text ++ List.replicate k SPACE ++ List.replicate m 0) = trimmed text := by
  have hpad : ∀ x ∈ List.replicate k SPACE, isSpace x = true := by
    intro x hx
    rw [List.eq_of_mem_replicate hx]
    rfl
  have hnul : ∀ x ∈ List.replicate m (0 : UInt8), isText x = false := by
    intro x hx
    rw [List.eq_of_mem_replicate hx]
    rfl
  rw [trimmed, trim_append isText_of_isSpace hpad hnul]
  rfl

theorem SamePadded.trimmed_eq {f g : List UInt8} (h : SamePadded f g) : trimmed f = trimmed g := by
  obtain ⟨text, k, m, k', m', rfl, rfl⟩ := h
  rw [trimmed_append, trimmed_append]

/-! ## One field -/

/--
Not all of a field are spaces, and if there is a NUL in it the byte before the first one is no
space.
-/
def Strippable (field : List UInt8) : Prop :=
  (∃ b ∈ field, b ≠ SPACE) ∧
    (0 ∈ field → (field.takeWhile (· ≠ 0)).getLast? ≠ some SPACE)

/-- **The loop strips a field if and only if the field is strippable.** -/
theorem vendorString_eq_trimmed_iff {field : List UInt8} (hlen : 0 < field.length) :
    vendorString field = trimmed field ↔ Strippable field := by
  obtain ⟨a, l, rfl⟩ := List.exists_cons_of_length_pos hlen
  have hbytes : vendorString (a :: l) = trimmed (a :: l) ↔
      trimTail isSpace isText (a :: l) = trim isSpace isText (a :: l) := by
    rw [vendorString_eq, trimmed, String.ofList_inj]
    exact (List.map_injective_iff.mpr byteChar_injective).eq_iff
  have hnul : (∃ x ∈ a :: l, isText x = false) ↔ (0 : UInt8) ∈ a :: l := by
    constructor
    · rintro ⟨x, hx, hx0⟩
      obtain rfl : x = 0 := by simpa [isText] using hx0
      exact hx
    · intro h
      exact ⟨0, h, rfl⟩
  have hlast : (∀ x, ((a :: l).takeWhile isText).getLast? = some x → isSpace x = false) ↔
      ((a :: l).takeWhile (· ≠ 0)).getLast? ≠ some SPACE := by
    constructor
    · intro h heq
      cases h SPACE heq
    · intro h x hx
      refine decide_eq_false fun hspace => h ?_
      rw [← hspace]
      exact hx
  rw [hbytes, trimTail_eq_trim_iff isText_of_isSpace, hnul, hlast]
  unfold Strippable
  simp only [isSpace, decide_eq_false_iff_not, ne_eq]

/-! ## The columns -/

/-- The vendor fields that are stored as strings, with their columns. -/
def ModuleType.vendorFields (t : ModuleType) (a0 : Page) : List (InfoColumn × List UInt8) :=
  [(.vendorName, (t.vendor a0).vendorName), (.vendorPartNumber, (t.vendor a0).vendorPartNumber),
    (.vendorRevision, (t.vendor a0).vendorRevision),
    (.vendorSerialNumber, (t.vendor a0).vendorSerialNumber)]

theorem length_vendorFields : ∀ f ∈ t.vendorFields a0, 0 < f.2.length := by
  unfold ModuleType.vendorFields
  repeat' refine List.forall_mem_cons.mpr ⟨?_, ?_⟩
  all_goals first
    | exact List.forall_mem_nil _
    | cases t <;> exact Nat.succ_pos _

theorem info_vendorFields (h : port.moduleDevice.IsA t) :
    ∀ f ∈ t.vendorFields a0, (pmParse a0 port).2.info f.1 = some (vendorString f.2) := by
  have hinfo : ∀ c, (pmParse a0 port).2.info c =
      ((port.setModule (t.classify a0)).fillRest (t.vendor a0) a0).info c :=
    fun c => by rw [pmParse_eq h]
  unfold ModuleType.vendorFields
  repeat' refine List.forall_mem_cons.mpr ⟨?_, ?_⟩
  all_goals first
    | exact List.forall_mem_nil _
    | rw [hinfo, PmPort.info_fillRest]

/-- The columns of two pages hold the trimmed fields. -/
structure VendorTrimmed (t : ModuleType) (port : PmPort) (a0 b0 : Page) : Prop where
  exact : ∀ p ∈ [a0, b0], ∀ f ∈ t.vendorFields p,
    (pmParse p port).2.info f.1 = some (trimmed f.2)
  /-- They do not end in a space. -/
  noSpace : ∀ p ∈ [a0, b0], ∀ f ∈ t.vendorFields p, ∀ s,
    (pmParse p port).2.info f.1 = some s → s.toList.getLast? ≠ some ' '
  /-- They do not depend on the padding. -/
  padding : ∀ c f g, (c, f) ∈ t.vendorFields a0 → (c, g) ∈ t.vendorFields b0 → SamePadded f g →
    (pmParse a0 port).2.info c = (pmParse b0 port).2.info c

/-- **The vendor strings come out trimmed if and only if all their fields are strippable.** -/
theorem vendor_trimmed_iff (h : port.moduleDevice.IsA t) (a0 b0 : Page) :
    VendorTrimmed t port a0 b0 ↔
      ∀ p ∈ [a0, b0], ∀ f ∈ t.vendorFields p, Strippable f.2 := by
  have hone : ∀ p : Page, ∀ f ∈ t.vendorFields p,
      ((pmParse p port).2.info f.1 = some (trimmed f.2) ↔ Strippable f.2) := by
    intro p f hf
    rw [info_vendorFields h f hf, Option.some_inj,
      vendorString_eq_trimmed_iff (length_vendorFields f hf)]
  constructor
  · intro htrim p hp f hf
    exact (hone p f hf).mp (htrim.exact p hp f hf)
  · intro hall
    have hexact : ∀ p ∈ [a0, b0], ∀ f ∈ t.vendorFields p,
        (pmParse p port).2.info f.1 = some (trimmed f.2) :=
      fun p hp f hf => (hone p f hf).mpr (hall p hp f hf)
    refine ⟨hexact, fun p hp f hf s hs => ?_, fun c f g hf hg hpad => ?_⟩
    · rw [hexact p hp f hf] at hs
      obtain rfl := Option.some.inj hs
      exact getLast?_trimmed f.2
    · rw [hexact a0 (by simp) (c, f) hf, hexact b0 (by simp) (c, g) hg]
      exact congrArg some hpad.trimmed_eq

/-- A page whose vendor is `AB`, padded with spaces. Its other fields hold an `A` first. -/
theorem vendor_trimmed_iff_ab :
    let port := newPort ⟨0, "1", []⟩ "base" ModuleType.sfpPlus.device
    let a0 : Page := fun i => if i ∈ [20, 40, 56, 68] then 65 else if i = 21 then 66 else SPACE
    VendorTrimmed .sfpPlus port a0 a0 ↔
      ∀ p ∈ [a0, a0], ∀ f ∈ ModuleType.sfpPlus.vendorFields p, Strippable f.2 :=
  vendor_trimmed_iff (ModuleType.isA_device .sfpPlus) _ _

/-- A revision of four spaces is published as one space. -/
theorem blank_revision_not_trimmed :
    let port := newPort ⟨0, "1", []⟩ "base" ModuleType.sfpPlus.device
    let a0 : Page := fun _ => SPACE
    (pmParse a0 port).2.info .vendorRevision = some " " ∧
      trimmed (SfpSerialId.vendorRevision a0) = "" ∧ ¬VendorTrimmed .sfpPlus port a0 a0 := by
  refine ⟨by decide +kernel, by decide +kernel, fun htrim => ?_⟩
  have hfield : (InfoColumn.vendorRevision, SfpSerialId.vendorRevision fun _ => SPACE) ∈
      ModuleType.sfpPlus.vendorFields fun _ => SPACE :=
    .tail _ (.tail _ (List.mem_cons_self ..))
  exact htrim.noSpace _ (List.mem_cons_self ..) _ hfield " " (by decide +kernel) rfl

end OpsPmd
