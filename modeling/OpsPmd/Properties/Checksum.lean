import OpsPmd.Poll
import OpsPmd.OvsdbAccess
import OpsPmd.Lib.ByteSum

/-!
# The checksums of a serial ID page

Byte 63 covers the bytes before it, byte 95 those after byte 63. A change of one covered byte, or of
one of the two, is always seen.

* `sfppSumVerify_eq_zero_iff` — what an accepted page is
* `single_error_detected` — an accepted page with one wrong byte is not accepted
-/

namespace OpsPmd

open Finset

variable {σ : Type} {port : PmPort} {t : ModuleType} {b b' : Page}

/-! ## One sum -/

/-- The byte at `offset` is the sum of those from `start` to `stop` modulo 256. -/
def Page.SumsTo (b : Page) (start stop offset : Nat) : Prop :=
  (∑ i ∈ Icc start stop, (b (Fin.ofNat 128 i)).toNat) % 256 = (b (Fin.ofNat 128 offset)).toNat

theorem pmByteSum_eq (b : Page) (start stop offset : Nat) [Decidable (b.SumsTo start stop offset)] :
    pmByteSum b start stop offset = if b.SumsTo start stop offset then 0 else 1 := by
  have hsum : ((List.range' start (stop + 1 - start)).foldl
      (fun value idx => value + b (Fin.ofNat 128 idx)) 0).toNat =
      (∑ i ∈ Icc start stop, (b (Fin.ofNat 128 i)).toNat) % 256 := by
    rw [ByteSum.toNat_foldl, ByteSum.sum_Icc_eq_list]
    simp
  unfold pmByteSum
  simp only [ne_eq, ite_not]
  refine if_congr ?_ rfl rfl
  rw [Page.SumsTo, ← hsum, UInt8.toNat_inj]

/-- **An accepted page has both sums right.** -/
theorem sfppSumVerify_eq_zero_iff :
    sfppSumVerify b = 0 ↔ b.SumsTo 0 62 63 ∧ b.SumsTo 64 94 95 := by
  classical
  unfold sfppSumVerify
  rw [pmByteSum_eq, pmByteSum_eq]
  by_cases h1 : b.SumsTo 0 62 63
  · by_cases h2 : b.SumsTo 64 94 95
    · simp [h1, h2]
    · simp [h2]
  · simp [h1]

/-! ## One wrong byte -/

/-- Byte `i` is another one, and no other byte from `start` to `stop` is. -/
def Page.DiffersAt (b b' : Page) (i start stop : Nat) : Prop :=
  b' (Fin.ofNat 128 i) ≠ b (Fin.ofNat 128 i) ∧
    ∀ j, start ≤ j → j ≤ stop → j ≠ i → b' (Fin.ofNat 128 j) = b (Fin.ofNat 128 j)

/-- Exactly one of the bytes from `start` to `stop` is another one. -/
def Page.OneError (b b' : Page) (start stop : Nat) : Prop :=
  ∃ i, start ≤ i ∧ i ≤ stop ∧ b.DiffersAt b' i start stop

/-- A sum that is right is wrong after one change, of a summand or of the byte it is compared to. -/
theorem Page.SumsTo.not_of_differsAt {i start stop : Nat} (h : b.SumsTo start stop (stop + 1))
    (h1 : start ≤ i) (h2 : i ≤ stop + 1) (hdiff : b.DiffersAt b' i start (stop + 1)) :
    ¬b'.SumsTo start stop (stop + 1) := by
  obtain ⟨hne, hsame⟩ := hdiff
  have hne' : (b' (Fin.ofNat 128 i)).toNat ≠ (b (Fin.ofNat 128 i)).toNat :=
    fun heq => hne (UInt8.toNat_inj.mp heq)
  intro h'
  unfold Page.SumsTo at h h'
  by_cases hi : i = stop + 1
  · -- the sum is the same, the byte it is compared to is not
    have hsum : ∑ j ∈ Icc start stop, (b' (Fin.ofNat 128 j)).toNat =
        ∑ j ∈ Icc start stop, (b (Fin.ofNat 128 j)).toNat := by
      refine Finset.sum_congr rfl fun j hj => ?_
      obtain ⟨hj1, hj2⟩ := Finset.mem_Icc.mp hj
      rw [hsame j hj1 (by omega) (by omega)]
    rw [hsum, h, ← hi] at h'
    exact hne' h'.symm
  · have hmem : i ∈ Icc start stop := Finset.mem_Icc.mpr ⟨h1, by omega⟩
    have hcheck : b' (Fin.ofNat 128 (stop + 1)) = b (Fin.ofNat 128 (stop + 1)) :=
      hsame _ (by omega) (by omega) (fun heq => hi heq.symm)
    -- two sums with one different summand are equal modulo 256: so are the summands
    have hsums := (h'.trans (congrArg UInt8.toNat hcheck)).trans h.symm
    rw [ByteSum.sum_mod_eq_iff hmem fun j hj hji => ?_] at hsums
    · have hlt := (b (Fin.ofNat 128 i)).toNat_lt
      have hlt' := (b' (Fin.ofNat 128 i)).toNat_lt
      omega
    · obtain ⟨hj1, hj2⟩ := Finset.mem_Icc.mp hj
      rw [hsame j hj1 (by omega) hji]

/-- **An accepted page with one wrong byte among the first 96 is not accepted.** -/
theorem sfppSumVerify_ne_zero_of_oneError (h : sfppSumVerify b = 0) (herr : b.OneError b' 0 95) :
    sfppSumVerify b' ≠ 0 := by
  obtain ⟨hbase, hext⟩ := sfppSumVerify_eq_zero_iff.mp h
  obtain ⟨i, -, hi, hne, hsame⟩ := herr
  intro h'
  obtain ⟨hbase', hext'⟩ := sfppSumVerify_eq_zero_iff.mp h'
  by_cases hlow : i ≤ 63
  · refine hbase.not_of_differsAt (Nat.zero_le i) hlow ⟨hne, fun j _ hj hji => ?_⟩ hbase'
    exact hsame j (Nat.zero_le j) (by omega) hji
  · refine hext.not_of_differsAt (by omega) hi ⟨hne, fun j _ hj hji => ?_⟩ hext'
    exact hsame j (Nat.zero_le j) hj hji

/-- The sum and its test look at the summed bytes and at the one they are compared to. -/
theorem pmByteSum_congr {start stop offset : Nat}
    (h : ∀ j, start ≤ j → j ≤ stop → b' (Fin.ofNat 128 j) = b (Fin.ofNat 128 j))
    (hoff : b' (Fin.ofNat 128 offset) = b (Fin.ofNat 128 offset)) :
    pmByteSum b' start stop offset = pmByteSum b start stop offset := by
  classical
  have hiff : b'.SumsTo start stop offset ↔ b.SumsTo start stop offset := by
    unfold Page.SumsTo
    rw [hoff, Finset.sum_congr rfl fun j hj => ?_]
    obtain ⟨hj1, hj2⟩ := Finset.mem_Icc.mp hj
    rw [h j hj1 hj2]
  rw [pmByteSum_eq, pmByteSum_eq]
  exact if_congr hiff rfl rfl

/-- No byte from 96 on is covered. -/
theorem sfppSumVerify_congr (h : ∀ i : Fin 128, i.val < 96 → b' i = b i) :
    sfppSumVerify b' = sfppSumVerify b := by
  have hlow : ∀ j, j < 96 → b' (Fin.ofNat 128 j) = b (Fin.ofNat 128 j) := by
    intro j hj
    refine h _ ?_
    rw [Fin.val_ofNat, Nat.mod_eq_of_lt (by omega)]
    exact hj
  have hbase : pmByteSum b' 0 62 63 = pmByteSum b 0 62 63 :=
    pmByteSum_congr (fun j _ hj => hlow j (by omega)) (hlow 63 (by omega))
  have hext : pmByteSum b' 64 94 95 = pmByteSum b 64 94 95 :=
    pmByteSum_congr (fun j _ hj => hlow j (by omega)) (hlow 95 (by omega))
  rw [sfppSumVerify, sfppSumVerify, hbase, hext]

/-! ## What reaches `pm_parse` -/

/--
**The checksums detect every error in one covered byte, and `pm_read_module_state` parses no page
with one.** A poll parses the page that its `retry_read` loop identifies, and no other.
-/
theorem single_error_detected (P : Platform σ) (h : port.moduleDevice.IsA t) (s : σ) (b : Page) :
    (sfppSumVerify b = 0 ↔ b.SumsTo 0 62 63 ∧ b.SumsTo 64 94 95) ∧
    (sfppSumVerify b = 0 → ∀ b', b.OneError b' 0 95 → sfppSumVerify b' ≠ 0) ∧
    (∀ b' : Page, (∀ i : Fin 128, i.val < 96 → b' i = b i) →
      sfppSumVerify b' = sfppSumVerify b) ∧
    pmReadModuleState P port s = conclude P t port (identify P port t.serialIdOffset 2 s) ∧
    ∀ a0, (identify P port t.serialIdOffset 2 s).1 = some (.page a0) → sfppSumVerify b = 0 →
      ¬b.OneError a0 0 95 := by
  refine ⟨sfppSumVerify_eq_zero_iff, fun hb b' => sfppSumVerify_ne_zero_of_oneError hb,
    fun b' => sfppSumVerify_congr, pmReadModuleState_eq_conclude h s, fun a0 ha0 hb herr => ?_⟩
  have hcases := identify_cases P port t.serialIdOffset 2 s
  rw [ha0] at hcases
  exact sfppSumVerify_ne_zero_of_oneError hb herr hcases.2

/-- A simulated port with an SR module is polled. -/
theorem single_error_detected_srPage :
    let port := newPort ⟨0, "1", []⟩ "base" ModuleType.sfpPlus.device
    let world : SimData := { moduleData := some srPage }
    (sfppSumVerify srPage = 0 ↔ srPage.SumsTo 0 62 63 ∧ srPage.SumsTo 64 94 95) ∧
    (sfppSumVerify srPage = 0 → ∀ b', srPage.OneError b' 0 95 → sfppSumVerify b' ≠ 0) ∧
    (∀ b' : Page, (∀ i : Fin 128, i.val < 96 → b' i = srPage i) →
      sfppSumVerify b' = sfppSumVerify srPage) ∧
    pmReadModuleState simulation port world =
      conclude simulation .sfpPlus port (identify simulation port 0 2 world) ∧
    ∀ a0, (identify simulation port 0 2 world).1 = some (.page a0) → sfppSumVerify srPage = 0 →
      ¬srPage.OneError a0 0 95 :=
  single_error_detected simulation (ModuleType.isA_device .sfpPlus) { moduleData := some srPage }
    srPage

end OpsPmd
