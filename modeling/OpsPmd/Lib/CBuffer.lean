import OpsPmd.Lib.CText
import Mathlib.Logic.Function.Basic

/-!
# Stores into a buffer

The memory from a pointer on, with the positions that were stored to. Nothing stops a store beyond
the object the pointer is to, so whether the stores were in bounds can be asked afterwards.

* `Writer` — a pointer that moves on with each store, as in `*p++ = c`
* `mem_puts`, `stores_puts` — what a row of stores leaves, and where it stored
* `Text`, `string` — the string the first bytes of the memory hold
* `strncpy`, `strncat` — the copying functions, store by store
* `contents_strncpy`, `contents_strncat` — what they do to the bytes is what those of `CText` do
-/

/-- The memory from a pointer on. -/
structure CBuffer where
  mem : Nat → Char
  /-- The positions stored to, in order. -/
  stores : List Nat := []

namespace CBuffer

open CText

variable {b : CBuffer} {size k : Nat} {l t : List Char}

/-- `p[i] = c`. -/
def store (b : CBuffer) (i : Nat) (c : Char) : CBuffer where
  mem := Function.update b.mem i c
  stores := b.stores ++ [i]

/-- No store went beyond an object of `size` bytes. -/
def InBounds (b : CBuffer) (size : Nat) : Prop := ∀ i ∈ b.stores, i < size

instance : Decidable (b.InBounds size) := List.decidableBAll ..

/-! ## Rows of stores -/

/-- A buffer with the position the next store goes to. -/
structure Writer where
  buffer : CBuffer
  pos : Nat

namespace Writer

/-- `p[pos++] = c`. -/
def put (w : Writer) (c : Char) : Writer where
  buffer := w.buffer.store w.pos c
  pos := w.pos + 1

def puts (w : Writer) (l : List Char) : Writer := l.foldl put w

variable {w : Writer}

@[simp] theorem puts_nil : w.puts [] = w := rfl

@[simp] theorem puts_cons (c : Char) : w.puts (c :: l) = (w.put c).puts l := rfl

theorem puts_append (l m : List Char) : w.puts (l ++ m) = (w.puts l).puts m :=
  List.foldl_append

theorem stores_puts : ∀ {l : List Char} {w : Writer},
    (w.puts l).buffer.stores = w.buffer.stores ++ List.range' w.pos l.length
  | [], _ => by simp
  | c :: l, w => by
    rw [puts_cons, stores_puts, List.length_cons, List.range'_succ]
    simp [put, store]

/-- A row of stores leaves what is before it. -/
theorem mem_puts_of_lt : ∀ {l : List Char} {w : Writer}, k < w.pos →
    (w.puts l).buffer.mem k = w.buffer.mem k
  | [], _, _ => rfl
  | c :: l, w, h => by
    have hnext : k < (w.put c).pos := Nat.lt_succ_of_lt h
    rw [puts_cons, mem_puts_of_lt hnext]
    exact Function.update_of_ne (Nat.ne_of_lt h) _ _

/-- A row of stores leaves its characters one after the other, and what comes after them. -/
theorem mem_puts : ∀ {l : List Char} {w : Writer} (i : Nat),
    (w.puts l).buffer.mem (w.pos + i) = (l[i]?).getD (w.buffer.mem (w.pos + i))
  | [], _, _ => rfl
  | c :: l, w, 0 => by
    have hnext : w.pos < (w.put c).pos := Nat.lt_succ_self _
    rw [puts_cons, Nat.add_zero, mem_puts_of_lt hnext]
    exact Function.update_self ..
  | c :: l, w, i + 1 => by
    have hpos : w.pos + (i + 1) = (w.put c).pos + i := by
      show _ = w.pos + 1 + i
      omega
    have hold : (w.put c).buffer.mem (w.pos + (i + 1)) = w.buffer.mem (w.pos + (i + 1)) :=
      Function.update_of_ne (by omega) _ _
    rw [puts_cons, ← hold, hpos, mem_puts i, List.getElem?_cons_succ]

end Writer

/-! ## Strings -/

/-- Position of the first NUL among the first `size` bytes. -/
def strlen (b : CBuffer) (size : Nat) : Option Nat :=
  (List.range size).find? fun i => b.mem i = NUL

/-- The string in the first `size` bytes, `none` if they hold no terminator. -/
def string (b : CBuffer) (size : Nat) : Option String :=
  (b.strlen size).map fun k => String.ofList ((List.range k).map b.mem)

theorem strlen_eq_some_iff :
    b.strlen size = some k ↔ k < size ∧ b.mem k = NUL ∧ ∀ i < k, b.mem i ≠ NUL := by
  unfold strlen
  rw [List.find?_range_eq_some]
  simp only [decide_eq_true_eq, List.mem_range, Bool.not_eq_true', decide_eq_false_iff_not]
  constructor
  · rintro ⟨hk, hlt, hfirst⟩
    exact ⟨hlt, hk, hfirst⟩
  · rintro ⟨hlt, hk, hfirst⟩
    exact ⟨hk, hlt, hfirst⟩

theorem strlen_eq_none_iff : b.strlen size = none ↔ ∀ i < size, b.mem i ≠ NUL := by
  simp [strlen, List.find?_eq_none]

/-- The memory starts with these characters and a terminator. -/
structure Text (b : CBuffer) (t : List Char) : Prop where
  chars : ∀ i (h : i < t.length), b.mem i = t[i]
  terminator : b.mem t.length = NUL
  plain : NUL ∉ t

namespace Text

theorem strlen (h : b.Text t) (hlen : t.length < size) : b.strlen size = some t.length := by
  refine strlen_eq_some_iff.mpr ⟨hlen, h.terminator, fun i hi hnul => h.plain ?_⟩
  rw [← hnul, h.chars i hi]
  exact List.getElem_mem hi

theorem string (h : b.Text t) (hlen : t.length < size) :
    b.string size = some (String.ofList t) := by
  rw [CBuffer.string, h.strlen hlen, Option.map_some]
  refine congrArg (fun l => some (String.ofList l)) (List.ext_getElem (by simp) fun i _ hi => ?_)
  simp [h.chars i hi]

end Text

/--
What is stored after a text, up to a terminator, makes the text longer. What comes after the
terminator does not matter.
-/
theorem text_puts {w : Writer} {s rest : List Char} (hpos : w.pos = t.length)
    (hchars : ∀ i (h : i < t.length), w.buffer.mem i = t[i]) (hplain : NUL ∉ t ++ s) :
    (w.puts (s ++ NUL :: rest)).buffer.Text (t ++ s) where
  chars i hi := by
    rcases Nat.lt_or_ge i t.length with hlt | hge
    · rw [Writer.mem_puts_of_lt (by omega), hchars i hlt, List.getElem_append_left]
    · rw [List.length_append] at hi
      have hmem := Writer.mem_puts (l := s ++ NUL :: rest) (w := w) (i - t.length)
      have hi' : w.pos + (i - t.length) = i := by omega
      have hds : i - t.length < s.length := by omega
      rw [hi', List.getElem?_append_left hds, List.getElem?_eq_getElem hds] at hmem
      rw [hmem, List.getElem_append_right hge]
      rfl
  terminator := by
    have hmem := Writer.mem_puts (l := s ++ NUL :: rest) (w := w) s.length
    rw [hpos, List.getElem?_append_right (Nat.le_refl _), Nat.sub_self] at hmem
    rw [List.length_append, hmem]
    rfl
  plain := hplain

/-! ## Copying strings -/

/-- `strncpy(p, s, n)`. -/
def strncpy (b : CBuffer) (s : List Char) (n : Nat) : CBuffer :=
  (({ buffer := b, pos := 0 } : Writer).puts (CText.strncpy s n)).buffer

/--
`strncat(p, s, n)` on an object of `size` bytes, `none` where the search for the end of the string
in it leaves the object. The stores may leave it too.
-/
def strncat (b : CBuffer) (size : Nat) (s : List Char) (n : Nat) : Option CBuffer :=
  (b.strlen size).map fun k =>
    (({ buffer := b, pos := k } : Writer).puts (s.take n ++ [NUL])).buffer

theorem stores_strncpy (b : CBuffer) (s : List Char) (n : Nat) :
    (b.strncpy s n).stores = b.stores ++ List.range n := by
  rw [strncpy, Writer.stores_puts, List.range_eq_range', CText.strncpy]
  simp

theorem inBounds_strncpy {n : Nat} (h : b.InBounds n) (s : List Char) :
    (b.strncpy s n).InBounds n := by
  intro i hi
  rw [stores_strncpy] at hi
  rcases List.mem_append.mp hi with hi | hi
  · exact h i hi
  · exact List.mem_range.mp hi

/-- A string that fits with its terminator is copied whole. -/
theorem text_strncpy {s : List Char} {n : Nat} (hplain : NUL ∉ s) (h : s.length < n) :
    (b.strncpy s n).Text s := by
  obtain ⟨m, hm⟩ : ∃ m, n - s.length = m + 1 := ⟨n - s.length - 1, by omega⟩
  have hcopy : CText.strncpy s n = s ++ NUL :: List.replicate m NUL := by
    rw [CText.strncpy, List.take_append, List.take_of_length_le (by omega), List.take_replicate,
      Nat.min_eq_left (Nat.sub_le _ _), hm, List.replicate_succ]
  rw [strncpy, hcopy]
  exact text_puts (t := []) rfl (fun i hi => absurd hi (Nat.not_lt_zero i)) hplain

/-- Of a longer string no terminator is copied. -/
theorem strlen_strncpy_of_le {s : List Char} {n : Nat} (hplain : NUL ∉ s) (h : n ≤ s.length) :
    (b.strncpy s n).strlen n = none := by
  have hcopy : CText.strncpy s n = s.take n := by
    rw [CText.strncpy, List.take_append_of_le_length h]
  refine strlen_eq_none_iff.mpr fun i hi hnul => hplain ?_
  have his : i < (s.take n).length := by
    rw [List.length_take]
    omega
  have hmem := Writer.mem_puts (l := s.take n) (w := { buffer := b, pos := 0 }) i
  rw [Nat.zero_add, List.getElem?_eq_getElem his] at hmem
  rw [strncpy, hcopy, hmem] at hnul
  exact hnul ▸ List.mem_of_mem_take (List.getElem_mem his)

/-- Appending stores right after the string there is, whatever the bound on the source. -/
theorem strncat_of_text {s t : List Char} {n : Nat} (h : b.Text t) (hlen : t.length < size)
    (hplain : NUL ∉ s) :
    ∃ b', b.strncat size s n = some b' ∧ b'.Text (t ++ s.take n) ∧
      b'.stores = b.stores ++ List.range' t.length ((s.take n).length + 1) := by
  have hplain' : NUL ∉ t ++ s.take n := by
    rw [List.mem_append, not_or]
    exact ⟨h.plain, fun hmem => hplain (List.mem_of_mem_take hmem)⟩
  refine ⟨_, by rw [strncat, h.strlen hlen, Option.map_some], ?_, ?_⟩
  · exact text_puts (w := { buffer := b, pos := t.length }) rfl h.chars hplain'
  · rw [Writer.stores_puts, List.length_append]
    rfl

/-! ## The same on lists -/

/-- The first `size` bytes. -/
def contents (b : CBuffer) (size : Nat) : List Char := (List.range size).map b.mem

@[simp] theorem length_contents : (b.contents size).length = size := by simp [contents]

theorem contents_strncpy (b : CBuffer) (s : List Char) (n : Nat) :
    (b.strncpy s n).contents n = CText.strncpy s n := by
  have hlen : (CText.strncpy s n).length = n := by simp [CText.strncpy]
  refine List.ext_getElem (by rw [length_contents, hlen]) fun i _ hi => ?_
  have hmem := Writer.mem_puts (l := CText.strncpy s n) (w := { buffer := b, pos := 0 }) i
  rw [Nat.zero_add, List.getElem?_eq_getElem hi] at hmem
  simp only [contents, List.getElem_map, List.getElem_range]
  exact hmem

/-- The contents up to the terminator, and from there on. -/
theorem contents_split (h : b.strlen size = some k) :
    NUL ∉ b.contents k ∧ ∃ rest, b.contents size = b.contents k ++ NUL :: rest := by
  obtain ⟨hlt, hnul, hfirst⟩ := strlen_eq_some_iff.mp h
  constructor
  · intro hmem
    obtain ⟨i, hi, hnul'⟩ := List.mem_map.mp hmem
    exact hfirst i (List.mem_range.mp hi) hnul'
  · obtain ⟨m, rfl⟩ : ∃ m, size = k + (m + 1) := ⟨size - k - 1, by omega⟩
    refine ⟨(List.range m).map fun i => b.mem (k + (i + 1)), ?_⟩
    simp [contents, List.range_add, List.range_succ_eq_map, hnul, Function.comp_def]

theorem nul_notMem_contents (h : b.strlen size = none) : NUL ∉ b.contents size := by
  intro hmem
  obtain ⟨i, hi, hnul⟩ := List.mem_map.mp hmem
  exact strlen_eq_none_iff.mp h i (List.mem_range.mp hi) hnul

theorem bufferString_contents (b : CBuffer) (size : Nat) :
    bufferString (b.contents size) = b.string size := by
  unfold bufferString string
  cases h : b.strlen size with
  | none => exact if_neg (nul_notMem_contents h)
  | some k =>
    obtain ⟨hno, rest, hsplit⟩ := contents_split h
    have hplain : ∀ c ∈ b.contents k, decide (c ≠ NUL) = true := by
      intro c hc
      exact decide_eq_true fun hnul => hno (hnul ▸ hc)
    rw [if_pos (by rw [hsplit]; simp), hsplit, List.takeWhile_append_of_pos hplain]
    simp [contents]

theorem idxOf_contents_of_none (h : b.strlen size = none) :
    (b.contents size).idxOf NUL = size := by
  rw [List.idxOf_eq_length (nul_notMem_contents h), length_contents]

theorem idxOf_contents (h : b.strlen size = some k) : (b.contents size).idxOf NUL = k := by
  obtain ⟨hno, rest, hsplit⟩ := contents_split h
  rw [hsplit, List.idxOf_append, if_neg hno, List.idxOf_cons_self, length_contents, Nat.zero_add]

theorem getElem?_contents (b : CBuffer) {i size : Nat} (h : i < size) :
    (b.contents size)[i]? = some (b.mem i) := by
  simp [contents, h]

/-- A row of stores replaces a part of the contents. -/
theorem contents_puts (b : CBuffer) {k size : Nat} {l : List Char} (h : k + l.length ≤ size) :
    (({ buffer := b, pos := k } : Writer).puts l).buffer.contents size =
      (b.contents size).take k ++ l ++ (b.contents size).drop (k + l.length) := by
  have htake : ((b.contents size).take k).length = k := by
    rw [List.length_take, length_contents]
    omega
  refine List.ext_getElem? fun i => ?_
  rcases Nat.lt_or_ge i size with hi | hi
  · rw [getElem?_contents _ hi]
    rcases Nat.lt_or_ge i k with hlt | hge
    · -- before the stores
      have hleft : i < ((b.contents size).take k ++ l).length := by
        rw [List.length_append, htake]
        omega
      rw [Writer.mem_puts_of_lt hlt, List.getElem?_append_left hleft,
        List.getElem?_append_left (by omega), List.getElem?_take_of_lt hlt,
        getElem?_contents b hi]
    · obtain ⟨d, rfl⟩ : ∃ d, i = k + d := ⟨i - k, by omega⟩
      have hmem := Writer.mem_puts (l := l) (w := { buffer := b, pos := k }) d
      rw [hmem]
      rcases Nat.lt_or_ge d l.length with hd | hd
      · -- where they went
        have hleft : k + d < ((b.contents size).take k ++ l).length := by
          rw [List.length_append, htake]
          omega
        rw [List.getElem?_append_left hleft, List.getElem?_append_right (by omega), htake,
          Nat.add_sub_cancel_left, List.getElem?_eq_getElem hd]
        rfl
      · -- after them
        have hright : ((b.contents size).take k ++ l).length ≤ k + d := by
          rw [List.length_append, htake]
          omega
        have hindex : k + l.length + (k + d - ((b.contents size).take k ++ l).length) = k + d := by
          rw [List.length_append, htake]
          omega
        rw [List.getElem?_append_right hright, List.getElem?_drop, hindex, getElem?_contents b hi,
          List.getElem?_eq_none hd]
        rfl
  · rw [List.getElem?_eq_none (by rw [length_contents]; exact hi), List.getElem?_eq_none]
    simp only [List.length_append, htake, List.length_drop, length_contents]
    omega

/-- On lists, `strncat` fails where a store leaves the object as well. -/
theorem contents_strncat (hb : b.InBounds size) (s : List Char) (n : Nat) :
    CText.strncat (b.contents size) s n =
      ((b.strncat size s n).filter fun b' => b'.InBounds size).map (contents · size) := by
  unfold CText.strncat strncat
  cases h : b.strlen size with
  | none =>
    rw [idxOf_contents_of_none h, length_contents]
    exact if_neg (by simp)
  | some k =>
    have hbounds : (({ buffer := b, pos := k } : Writer).puts (s.take n ++ [NUL])).buffer.InBounds
        size ↔ k + (s.take n ++ [NUL]).length ≤ size := by
      rw [InBounds, Writer.stores_puts]
      constructor
      · intro hall
        have hlast := hall (k + (s.take n).length) (by simp [List.mem_range'])
        rw [List.length_append, List.length_singleton]
        omega
      · intro hfit i hi
        rcases List.mem_append.mp hi with hi | hi
        · exact hb i hi
        · obtain ⟨d, hd, rfl⟩ := List.mem_range'.mp hi
          show k + 1 * d < size
          omega
    rw [idxOf_contents h, length_contents, Option.map_some]
    dsimp only
    by_cases hfit : k + (s.take n ++ [NUL]).length ≤ size
    · rw [if_pos hfit, Option.filter_some, if_pos (by simpa using hbounds.mpr hfit),
        Option.map_some, contents_puts b hfit]
    · rw [if_neg hfit, Option.filter_some, if_neg (by simpa using fun h => hfit (hbounds.mp h))]
      rfl

end CBuffer
