import OpsPmd.Port
import OpsPmd.Lib.CBuffer

/-!
# The buffer of `hex_to_ascii`

`hexToAscii` is the text that `hex_to_ascii` returns. Here the function is modelled store by store,
with the buffer it allocates: the size is estimated as a separator for every four bytes, and the
loop puts one before every fourth byte but the first.

* `hexLoop_eq_puts` — the loop stores the text of `hexToAsciiFrom`
* `length_hexToAsciiFrom` — how many separators that has
* `pairDigits_hexToAsciiFrom` — the digits give the bytes back
* `hexToAsciiBuffer_faithful` — all of it together
-/

namespace OpsPmd

open CText CBuffer

/-! ## The function -/

/-- A `char` promoted to `int`. It depends on the platform whether a `char` is signed. -/
def promote (signed : Bool) (c : UInt8) : BitVec 32 :=
  if signed then c.toBitVec.signExtend 32 else c.toBitVec.setWidth 32

/-- `(c & 0xf0) >> 4`. -/
def highDigit (signed : Bool) (c : UInt8) : Nat := ((promote signed c &&& 0xf0).sshiftRight 4).toNat

/-- `c & 0xf`. -/
def lowDigit (signed : Bool) (c : UInt8) : Nat := (promote signed c &&& 0xf).toNat

/-- The loop of `hex_to_ascii` from index `i` on, with a writer for `ascii[j++]`. -/
def hexLoop (signed : Bool) : Nat → List UInt8 → Writer → Writer
  | _, [], w => w
  | i, c :: rest, w =>
    let w := if 0 < i ∧ i % 4 = 0 then w.put ' ' else w
    let w := w.put (asciiMap (highDigit signed c))
    let w := w.put (asciiMap (lowDigit signed c))
    hexLoop signed (i + 1) rest w

/-- What is left of an integer in an `int`. -/
def toInt32 (x : Int) : Int := x.bmod (2 ^ 32)

/-- The argument of `malloc`, computed as an `int`. -/
def asciiSize (bufSize : Int) : Nat :=
  (toInt32 (toInt32 (toInt32 (2 * bufSize) + bufSize.tdiv 4) + 1) % 2 ^ 64).toNat

/--
`hex_to_ascii`, with what `malloc` gives for a size: no memory, or memory with anything in it. The
indices stay below the size, so they are `int`s where the size is.
-/
def hexToAsciiBuffer (signed : Bool) (malloc : Nat → Option (Nat → Char)) (buf : List UInt8) :
    Option CBuffer :=
  (malloc (asciiSize buf.length)).map fun mem =>
    let w := hexLoop signed 0 buf { buffer := { mem := mem }, pos := 0 }
    w.buffer.store w.pos NUL

/-! ## The loop -/

theorem digits_promote : ∀ signed, ∀ n < 256,
    highDigit signed (UInt8.ofNat n) = n / 16 ∧ lowDigit signed (UInt8.ofNat n) = n % 16 := by
  decide +kernel

/-- The two digits of a byte do not depend on its sign. -/
theorem digits_eq (signed : Bool) (c : UInt8) :
    highDigit signed c = c.toNat / 16 ∧ lowDigit signed c = c.toNat % 16 := by
  have h := digits_promote signed c.toNat c.toNat_lt
  rwa [UInt8.ofNat_toNat] at h

/-- **The loop stores the text, character by character.** -/
theorem hexLoop_eq_puts (signed : Bool) : ∀ (i : Nat) (buf : List UInt8) (w : Writer),
    hexLoop signed i buf w = w.puts (hexToAsciiFrom i buf)
  | _, [], _ => rfl
  | i, c :: rest, w => by
    obtain ⟨hhigh, hlow⟩ := digits_eq signed c
    rw [hexLoop, hexToAsciiFrom, hexLoop_eq_puts signed (i + 1) rest, hhigh, hlow]
    by_cases hsep : 0 < i ∧ i % 4 = 0
    · rw [if_pos hsep, if_pos hsep]
      rfl
    · rw [if_neg hsep, if_neg hsep]
      rfl

/-! ## The text -/

/-- A separator is counted where the index passes a multiple of four. -/
theorem length_hexToAsciiFrom : ∀ (i : Nat) (buf : List UInt8),
    (hexToAsciiFrom i buf).length + (i - 1) / 4 = 2 * buf.length + (i + buf.length - 1) / 4
  | _, [] => by simp [hexToAsciiFrom]
  | i, c :: rest => by
    have hrest := length_hexToAsciiFrom (i + 1) rest
    rw [hexToAsciiFrom, List.length_append, List.length_append, List.length_cons]
    by_cases hsep : 0 < i ∧ i % 4 = 0
    · rw [if_pos hsep]
      simp only [List.length_cons, List.length_nil]
      omega
    · rw [if_neg hsep]
      simp only [List.length_cons, List.length_nil]
      omega

/-- The characters of the text. -/
theorem mem_hexToAsciiFrom {ch : Char} : ∀ {i : Nat} {buf : List UInt8},
    ch ∈ hexToAsciiFrom i buf → ch = ' ' ∨ ∃ n < 16, ch = asciiMap n
  | _, [], h => by cases h
  | i, c :: rest, h => by
    have hc := c.toNat_lt
    rw [hexToAsciiFrom, List.mem_append, List.mem_append] at h
    rcases h with (h | h) | h
    · left
      split_ifs at h
      · exact List.mem_singleton.mp h
      · cases h
    · right
      simp only [List.mem_cons, List.not_mem_nil, or_false] at h
      rcases h with rfl | rfl
      · exact ⟨_, by omega, rfl⟩
      · exact ⟨_, by omega, rfl⟩
    · exact mem_hexToAsciiFrom h

theorem hexValue_asciiMap : ∀ n < 16, hexValue (asciiMap n) = some n := by decide

theorem asciiMap_ne : ∀ n < 16, asciiMap n ≠ ' ' ∧ asciiMap n ≠ NUL := by decide

theorem nul_notMem_hexToAsciiFrom (i : Nat) (buf : List UInt8) : NUL ∉ hexToAsciiFrom i buf := by
  intro h
  rcases mem_hexToAsciiFrom h with hsp | ⟨n, hn, hd⟩
  · exact absurd hsp (by decide)
  · exact (asciiMap_ne n hn).2 hd.symm

/-- **The digits of the text, in pairs, are the bytes.** -/
theorem pairDigits_hexToAsciiFrom : ∀ (i : Nat) (buf : List UInt8),
    pairDigits ((hexToAsciiFrom i buf).filter (· ≠ ' ')) = some buf
  | _, [] => rfl
  | i, c :: rest => by
    have hc := c.toNat_lt
    have hhi : c.toNat / 16 < 16 := by omega
    have hlo : c.toNat % 16 < 16 := by omega
    have hsep : (if 0 < i ∧ i % 4 = 0 then [' '] else []).filter (· ≠ ' ') = [] := by
      split <;> rfl
    have hbyte : UInt8.ofNat (16 * (c.toNat / 16) + c.toNat % 16) = c := by
      rw [Nat.div_add_mod, UInt8.ofNat_toNat]
    rw [hexToAsciiFrom, List.filter_append, List.filter_append, hsep, List.nil_append,
      List.filter_cons_of_pos (by simpa using (asciiMap_ne _ hhi).1),
      List.filter_cons_of_pos (by simpa using (asciiMap_ne _ hlo).1), List.filter_nil]
    simp only [List.cons_append, List.nil_append, pairDigits, hexValue_asciiMap _ hhi,
      hexValue_asciiMap _ hlo, pairDigits_hexToAsciiFrom (i + 1) rest, hbyte]

/-! ## The buffer -/

theorem toInt32_of_lt {n : Nat} (h : n < 2 ^ 31) : toInt32 n = n :=
  Int.bmod_eq_of_le (by omega) (by omega)

/-- The size comes out right where it is an `int`. -/
theorem asciiSize_eq {n : Nat} (h : 2 * n + n / 4 + 1 < 2 ^ 31) :
    asciiSize n = 2 * n + n / 4 + 1 := by
  have hdouble : toInt32 (2 * (n : Int)) = (2 * n : Nat) := toInt32_of_lt (n := 2 * n) (by omega)
  have hwords : (n : Int).tdiv 4 = (n / 4 : Nat) := rfl
  have hsum : toInt32 ((2 * n : Nat) + (n / 4 : Nat) : Int) = (2 * n + n / 4 : Nat) :=
    toInt32_of_lt (n := 2 * n + n / 4) (by omega)
  have hone : toInt32 ((2 * n + n / 4 : Nat) + 1 : Int) = (2 * n + n / 4 + 1 : Nat) :=
    toInt32_of_lt (n := 2 * n + n / 4 + 1) (by omega)
  rw [asciiSize, hdouble, hwords, hsum, hone]
  omega

/-- What `hex_to_ascii` leaves in a buffer of this size. -/
structure Encodes (buf : List UInt8) (size : Nat) (b : CBuffer) : Prop where
  /-- No store is beyond the buffer. -/
  inBounds : b.InBounds size
  /-- The first NUL is the one stored last. -/
  terminated : b.strlen size = some (2 * buf.length + (buf.length - 1) / 4) ∧
    b.stores.getLast? = some (2 * buf.length + (buf.length - 1) / 4)
  decoded : ∃ text, b.string size = some text ∧
    pairDigits (text.toList.filter (· ≠ ' ')) = some buf

/-- The stores of a call, and the text in the buffer after it. -/
theorem hexToAsciiBuffer_eq {signed : Bool} {malloc : Nat → Option (Nat → Char)}
    {buf : List UInt8} {b : CBuffer} (h : hexToAsciiBuffer signed malloc buf = some b) :
    b.stores = List.range ((hexToAsciiFrom 0 buf).length + 1) ∧
      b.Text (hexToAsciiFrom 0 buf) := by
  obtain ⟨mem, -, rfl⟩ := Option.map_eq_some_iff.mp h
  have hputs : ∀ w : Writer, (hexLoop signed 0 buf w).buffer.store (hexLoop signed 0 buf w).pos NUL =
      (w.puts (hexToAsciiFrom 0 buf ++ [NUL])).buffer := by
    intro w
    rw [hexLoop_eq_puts, Writer.puts_append]
    rfl
  dsimp only
  rw [hputs]
  constructor
  · rw [Writer.stores_puts, List.length_append, List.range_eq_range']
    rfl
  · exact text_puts (t := []) rfl (fun i hi => absurd hi (Nat.not_lt_zero i))
      (nul_notMem_hexToAsciiFrom 0 buf)

/-- The text of a call is that of `hexToAscii`. -/
theorem string_hexToAsciiBuffer {signed : Bool} {malloc : Nat → Option (Nat → Char)}
    {buf : List UInt8} {b : CBuffer} (h : hexToAsciiBuffer signed malloc buf = some b) :
    b.string (2 * buf.length + buf.length / 4 + 1) = some (hexToAscii buf) := by
  have hlen := length_hexToAsciiFrom 0 buf
  exact (hexToAsciiBuffer_eq h).2.string (by omega)

theorem encodes_hexToAsciiBuffer {signed : Bool} {malloc : Nat → Option (Nat → Char)}
    {buf : List UInt8} {b : CBuffer} (h : hexToAsciiBuffer signed malloc buf = some b) :
    Encodes buf (2 * buf.length + buf.length / 4 + 1) b := by
  obtain ⟨hstores, htext⟩ := hexToAsciiBuffer_eq h
  have hlen := length_hexToAsciiFrom 0 buf
  have hlen' : (hexToAsciiFrom 0 buf).length = 2 * buf.length + (buf.length - 1) / 4 := by omega
  refine ⟨fun i hi => ?_, ⟨?_, ?_⟩, hexToAscii buf, string_hexToAsciiBuffer h, ?_⟩
  · rw [hstores, List.mem_range] at hi
    omega
  · rw [htext.strlen (by omega), hlen']
  · rw [hstores, hlen', List.range_succ, List.getLast?_append]
    rfl
  · rw [hexToAscii, String.toList_ofList]
    exact pairDigits_hexToAsciiFrom 0 buf

/--
**`hex_to_ascii` stays in its buffer and loses nothing.** It returns NULL where `malloc` does, and
else the text of the bytes, from which they can be read back.
-/
theorem hexToAsciiBuffer_faithful (signed : Bool) (malloc : Nat → Option (Nat → Char))
    (buf : List UInt8) (hrange : 2 * buf.length + buf.length / 4 + 1 < 2 ^ 31) :
    asciiSize buf.length = 2 * buf.length + buf.length / 4 + 1 ∧
    (hexToAsciiBuffer signed malloc buf = none ↔ malloc (asciiSize buf.length) = none) ∧
    ∀ b, hexToAsciiBuffer signed malloc buf = some b →
      Encodes buf (asciiSize buf.length) b ∧
      ∀ malloc' buf' b', buf'.length = buf.length →
        hexToAsciiBuffer signed malloc' buf' = some b' →
        b'.string (asciiSize buf.length) = b.string (asciiSize buf.length) → buf' = buf := by
  have hsize := asciiSize_eq hrange
  refine ⟨hsize, by rw [hexToAsciiBuffer, Option.map_eq_none_iff], fun b hb => ?_⟩
  rw [hsize]
  refine ⟨encodes_hexToAsciiBuffer hb, ?_⟩
  rintro malloc' buf' b' hlen hb' hsame
  rw [string_hexToAsciiBuffer hb, ← hlen, string_hexToAsciiBuffer hb'] at hsame
  exact hexToAscii_injective hlen (Option.some.inj hsame)

/-- Five bytes, two of them negative as signed `char`s. -/
theorem hexToAsciiBuffer_faithful_five :
    let buf : List UInt8 := [0x03, 0x04, 0xff, 0x10, 0x80]
    hexToAscii buf = "0304FF10 80" ∧
      ∃ b, hexToAsciiBuffer true (fun _ => some fun _ => ' ') buf = some b ∧
        Encodes buf (asciiSize 5) b := by
  obtain ⟨-, -, hfaithful⟩ := hexToAsciiBuffer_faithful true (fun _ => some fun _ => ' ')
    [0x03, 0x04, 0xff, 0x10, 0x80] (by decide)
  exact ⟨by decide +kernel, _, rfl, (hfaithful _ rfl).1⟩

end OpsPmd
