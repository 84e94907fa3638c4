import Mathlib.Tactic.Common
import Mathlib.Tactic.IntervalCases

/-!
# Text functions of the C library

C strings are `String`s with one `Char` below 256 for each byte.

* `strncpy`, `strncat` — on a buffer of fixed length, with the effects beyond it visible
* `pairDigits` — reading bytes from their hexadecimal digits
* `strtol` — `strtol(s, NULL, 0)`: blanks, sign, `0x`/`0` prefix, digits, clamped to `long`
* `formatInt` — `"%d"`
* `formatFixed` — `"%4.2f"` of a `float` given in ten-thousandths
* `strtol_formatFixed` — reading a fixed-point string back gives the part before the point
-/

namespace CText

/-- A byte as a character of a C string. -/
def byteChar (b : UInt8) : Char := Char.ofNat b.toNat

/-- `isspace` of the C locale. -/
def isBlank (c : Char) : Bool := c == ' ' || (9 ≤ c.toNat && c.toNat ≤ 13)

/-- Value of a digit in some base up to 36. -/
def digitValue (c : Char) : Option Nat :=
  if '0'.toNat ≤ c.toNat && c.toNat ≤ '9'.toNat then some (c.toNat - '0'.toNat)
  else if 'a'.toNat ≤ c.toNat && c.toNat ≤ 'z'.toNat then some (c.toNat - 'a'.toNat + 10)
  else if 'A'.toNat ≤ c.toNat && c.toNat ≤ 'Z'.toNat then some (c.toNat - 'A'.toNat + 10)
  else none

/-- Digits are read up to the first character that is none in this base. -/
def readDigits (base : Nat) : List Char → Nat → Nat
  | [], acc => acc
  | c :: rest, acc =>
    match digitValue c with
    | some d => if d < base then readDigits base rest (base * acc + d) else acc
    | none => acc

/-- The magnitude, with the base taken from the prefix. -/
def readMagnitude : List Char → Nat
  | '0' :: 'x' :: rest => readDigits 16 rest 0
  | '0' :: 'X' :: rest => readDigits 16 rest 0
  | '0' :: rest => readDigits 8 rest 0
  | l => readDigits 10 l 0

/-- Sign and magnitude. -/
def readSigned : List Char → Int
  | '-' :: rest => -(readMagnitude rest : Int)
  | '+' :: rest => readMagnitude rest
  | l => readMagnitude l

/-- `strtol(s, NULL, 0)` with a 64-bit `long`. -/
def strtol (s : String) : Int :=
  max (-(2 ^ 63)) (min (2 ^ 63 - 1) (readSigned (s.toList.dropWhile isBlank)))

/-- Value of a hexadecimal digit. -/
def hexValue (c : Char) : Option Nat := (digitValue c).filter (· < 16)

/-- The bytes with these digits, two for each. -/
def pairDigits : List Char → Option (List UInt8)
  | [] => some []
  | [_] => none
  | hi :: lo :: rest =>
    match hexValue hi, hexValue lo, pairDigits rest with
    | some h, some l, some bytes => some (UInt8.ofNat (16 * h + l) :: bytes)
    | _, _, _ => none

/-- The terminator of a C string. -/
def NUL : Char := Char.ofNat 0

/-- What `strncpy(d, s, n)` leaves in the first `n` places of `d`. -/
def strncpy (s : List Char) (n : Nat) : List Char := (s ++ List.replicate n NUL).take n

/--
`strncat(d, s, n)` on a buffer. `none` if it looks for the end of the string in `d`, or writes,
beyond the buffer. The bound `n` is on what is taken from `s`.
-/
def strncat (d s : List Char) (n : Nat) : Option (List Char) :=
  let k := d.idxOf NUL
  let t := s.take n ++ [NUL]
  if k + t.length ≤ d.length then some (d.take k ++ t ++ d.drop (k + t.length)) else none

/-- The string in a buffer, `none` if the buffer holds no terminator. -/
def bufferString (d : List Char) : Option String :=
  if NUL ∈ d then some (String.ofList (d.takeWhile (· ≠ NUL))) else none

/-- `"%d"`. -/
def formatInt (n : Int) : String := toString n

/-- Which side of `n / 10000` the nearest `float` lies on, by the sign. The mantissa has 24 bits. -/
def floatError (n : Nat) : Int :=
  let k := 55 - (n * 2 ^ 32 / 10000).log2
  (((n * 2 ^ k + 5000) / 10000 * 10000 : Nat) : Int) - (n * 2 ^ k : Nat)

/--
Hundredths nearest to `n` ten-thousandths, as `printf` rounds the `float` nearest to them: what
looks like a tie goes to the side the `float` lies on, and to even if the `float` is exact.
-/
def roundHundredths (n : Nat) : Nat :=
  if n % 100 < 50 then n / 100
  else if 50 < n % 100 then n / 100 + 1
  else if floatError n < 0 then n / 100
  else if 0 < floatError n then n / 100 + 1
  else n / 100 + n / 100 % 2

theorem roundHundredths_le (n : Nat) : roundHundredths n ≤ n / 100 + 1 := by
  unfold roundHundredths
  split_ifs <;> omega

/--
`"%4.2f"` of `x / 10000` held in a `float`. Two decimals and a point already fill the width of four.
-/
def formatFixed (x : Int) : String :=
  let h := roundHundredths x.natAbs
  (if x < 0 then "-" else "") ++ toString (h / 100) ++ "." ++
    String.ofList [Nat.digitChar (h % 100 / 10), Nat.digitChar (h % 10)]

/-! ## Reading digits back -/

theorem digitValue_digitChar {d : Nat} (h : d < 10) : digitValue (Nat.digitChar d) = some d := by
  interval_cases d <;> rfl

/-- All digits but the last, then the last. -/
theorem toDigits_split {n : Nat} (h : 10 ≤ n) :
    Nat.toDigits 10 n = Nat.toDigits 10 (n / 10) ++ [Nat.digitChar (n % 10)] := by
  have hd : n % 10 < 10 := Nat.mod_lt _ (by omega)
  have hpos : 0 < n / 10 := by omega
  rw [← Nat.toDigits_of_lt_base hd, Nat.toDigits_append_toDigits (by omega) hpos hd]
  congr 1
  omega

theorem readDigits_toDigits_append (n : Nat) (rest : List Char) :
    readDigits 10 (Nat.toDigits 10 n ++ rest) 0 = readDigits 10 rest n := by
  induction n using Nat.strongRecOn generalizing rest with
  | _ n ih =>
    by_cases h : n < 10
    · rw [Nat.toDigits_of_lt_base h]
      simp [readDigits, digitValue_digitChar h, h]
    · have hd : n % 10 < 10 := Nat.mod_lt _ (by omega)
      rw [toDigits_split (by omega), List.append_assoc, ih (n / 10) (by omega)]
      simp only [List.cons_append, List.nil_append, readDigits, digitValue_digitChar hd, hd,
        if_true]
      congr 1
      omega

/-- A positive number starts with a digit other than `0`. -/
theorem toDigits_head {n : Nat} (h : 0 < n) :
    ∃ d l, 0 < d ∧ d < 10 ∧ Nat.toDigits 10 n = Nat.digitChar d :: l := by
  induction n using Nat.strongRecOn with
  | _ n ih =>
    by_cases hn : n < 10
    · exact ⟨n, [], h, hn, Nat.toDigits_of_lt_base hn⟩
    · obtain ⟨d, l, h0, hd, hl⟩ := ih (n / 10) (by omega) (by omega)
      exact ⟨d, l ++ [Nat.digitChar (n % 10)], h0, hd, by rw [toDigits_split (by omega), hl]; rfl⟩

/-- Neither a blank nor a sign nor a base prefix stands before a decimal number. -/
theorem readSigned_toDigits_point (n : Nat) (rest : List Char) :
    readSigned ((Nat.toDigits 10 n ++ '.' :: rest).dropWhile isBlank) = n ∧
      readMagnitude (Nat.toDigits 10 n ++ '.' :: rest) = n := by
  rcases Nat.eq_zero_or_pos n with rfl | h
  · exact ⟨rfl, rfl⟩
  · have hread := readDigits_toDigits_append n ('.' :: rest)
    obtain ⟨d, l, h0, hd, hl⟩ := toDigits_head h
    rw [hl] at hread ⊢
    interval_cases d <;> exact ⟨congrArg Int.ofNat hread, hread⟩

/-- Neither a blank nor a sign nor a base prefix stands before a decimal number, alone. -/
theorem readSigned_toDigits (n : Nat) :
    readSigned ((Nat.toDigits 10 n).dropWhile isBlank) = n ∧
      readMagnitude (Nat.toDigits 10 n) = n := by
  rcases Nat.eq_zero_or_pos n with rfl | h
  · exact ⟨rfl, rfl⟩
  · have hread := readDigits_toDigits_append n []
    rw [List.append_nil] at hread
    obtain ⟨d, l, h0, hd, hl⟩ := toDigits_head h
    rw [hl] at hread ⊢
    interval_cases d <;> exact ⟨congrArg Int.ofNat hread, hread⟩

/-- A minus sign is no blank. -/
theorem readSigned_minus (l : List Char) :
    readSigned (('-' :: l).dropWhile isBlank) = -(readMagnitude l : Int) := rfl

/-- **Reading a printed number back gives the number.** -/
theorem strtol_formatInt {n : Int} (hlo : -(2 ^ 63) ≤ n) (hhi : n < 2 ^ 63) :
    strtol (formatInt n) = n := by
  unfold strtol
  cases n with
  | ofNat m =>
    have hs : (formatInt (Int.ofNat m)).toList = Nat.toDigits 10 m := Nat.toList_repr
    rw [hs, (readSigned_toDigits m).1]
    rw [Int.ofNat_eq_natCast] at hhi ⊢
    omega
  | negSucc m =>
    have hs : (formatInt (Int.negSucc m)).toList = '-' :: Nat.toDigits 10 (m + 1) := by
      have hrepr : formatInt (Int.negSucc m) = "-" ++ Nat.repr (m + 1) := rfl
      rw [hrepr, String.toList_append, Nat.toList_repr]
      rfl
    rw [hs, readSigned_minus, (readSigned_toDigits (m + 1)).2]
    omega

/-- The part before the point of a number printed with two decimals. -/
def wholePart (x : Int) : Int :=
  if x < 0 then -((roundHundredths x.natAbs / 100 : Nat) : Int)
  else ((roundHundredths x.natAbs / 100 : Nat) : Int)

theorem toList_formatFixed (x : Int) :
    (formatFixed x).toList = (if x < 0 then ['-'] else []) ++
      (Nat.toDigits 10 (roundHundredths x.natAbs / 100) ++ '.' ::
        [Nat.digitChar (roundHundredths x.natAbs % 100 / 10),
          Nat.digitChar (roundHundredths x.natAbs % 10)]) := by
  unfold formatFixed
  split <;> simp

/-- **Reading a fixed-point string back gives the part before the point.** -/
theorem strtol_formatFixed {x : Int} (h : x.natAbs < 10 ^ 18) :
    strtol (formatFixed x) = wholePart x := by
  have hle := roundHundredths_le x.natAbs
  have hb : roundHundredths x.natAbs / 100 < 10 ^ 15 := by omega
  unfold strtol
  rw [toList_formatFixed]
  obtain ⟨hpos, hmag⟩ := readSigned_toDigits_point (roundHundredths x.natAbs / 100)
    [Nat.digitChar (roundHundredths x.natAbs % 100 / 10),
      Nat.digitChar (roundHundredths x.natAbs % 10)]
  unfold wholePart
  split
  · rw [List.cons_append, List.nil_append, readSigned_minus, hmag]
    omega
  · rw [List.nil_append, hpos]
    omega

end CText
