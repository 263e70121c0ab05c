import Mathlib.Order.Bounds.Basic
import Mathlib.Tactic.NormNum
import Dsvd.Compact.Codec

/-! # Compact rounding

A positive target below `2^256` either fits in the 23-bit mantissa, and `BigToCompact`
keeps it whole, or `BigToCompact` keeps its leading part `q`, with `2^15 ≤ q < 2^23`, and
drops `k ≥ 1` low bytes. Decoding then gives `q * 256^k`: the target rounded down to the
grid of values a sign-clear compact word can denote, and encoding that value again gives
back the same word.
-/

namespace Dsvd

/-- What `BigToCompact` keeps of a positive magnitude `n`. -/
inductive Kept (n : Nat) : Prop
  | exact (hlt : n < 2 ^ 23) (hdec : compactToBig (UInt32.ofNat (compactOf n)) = n)
  | rounded (k : Nat) (hk : 1 ≤ k) (hk' : k + 3 < 256) (hlo : 2 ^ 15 ≤ n / 256 ^ k)
      (hhi : n / 256 ^ k < 2 ^ 23) (hword : compactOf n = (k + 3) * 2 ^ 24 + n / 256 ^ k)

theorem pow256_split {a b : Nat} (h : b ≤ a) : 256 ^ a = 256 ^ (a - b) * 256 ^ b := by
  rw [← pow_add, Nat.sub_add_cancel h]

theorem kept {n : Nat} (hn : 0 < n) (h : n < 2 ^ 256) : Kept n := by
  have h32 := byteLen_le_32 h
  have hlo := pow_byteLen_pred_le hn
  have hhi := lt_pow_byteLen n
  have hm := @rawMantissa_lt n
  have hc : compactOf n = if 2 ^ 23 ≤ rawMantissa n (byteLen n)
      then (byteLen n + 1) % 256 * 2 ^ 24 + rawMantissa n (byteLen n) / 256
      else byteLen n % 256 * 2 ^ 24 + rawMantissa n (byteLen n) := rfl
  generalize byteLen n = e at *
  have hp : 0 < 256 ^ (3 - e) := by positivity
  by_cases he : e ≤ 3
  · have h3 : 256 ^ e * 256 ^ (3 - e) = 2 ^ 24 := by rw [← pow_add, Nat.add_sub_cancel' he]; rfl
    simp only [rawMantissa, if_pos he] at hm hc
    by_cases hs : 2 ^ 23 ≤ n * 256 ^ (3 - e)
    · rw [if_pos hs, Nat.mod_eq_of_lt (by omega)] at hc
      by_cases he2 : e ≤ 2
      case pos =>
        -- the short magnitude is shifted back by one byte less: nothing is lost
        have hq : n * 256 ^ (3 - e) / 256 = n * 256 ^ (2 - e) := by
          rw [show 3 - e = (2 - e) + 1 by omega, pow_succ, ← Nat.mul_assoc,
            Nat.mul_div_cancel _ (by decide)]
        have hle : 256 ^ e ≤ 256 ^ 2 := Nat.pow_le_pow_right (by decide) he2
        refine .exact (by omega) ?_
        rw [hc, hq, compactToBig_ofNat (by omega) (by omega), gridVal, if_pos (by omega),
          show 3 - (e + 1) = 2 - e by omega, Nat.mul_div_cancel _ (by positivity)]
      case neg =>
        obtain rfl : e = 3 := by omega
        simp only [Nat.sub_self, pow_zero, Nat.mul_one] at hs hm hc
        exact .rounded 1 le_rfl (by decide) (by omega) (by omega) (by omega)
    · rw [if_neg hs, Nat.mod_eq_of_lt (by omega)] at hc
      refine .exact (by have := Nat.le_mul_of_pos_right n hp; omega) ?_
      rw [hc, compactToBig_ofNat (by omega) (by omega), gridVal, if_pos he,
        Nat.mul_div_cancel _ hp]
  · have hsplit := pow256_split (show 3 ≤ e by omega)
    have hlo' : 256 ^ (e - 1) = 256 ^ (e - 3) * 256 ^ 2 := by
      rw [← pow_add]; congr 1; omega
    have hpos : 0 < 256 ^ (e - 3) := by positivity
    have hq : 2 ^ 16 ≤ n / 256 ^ (e - 3) := by
      rw [Nat.le_div_iff_mul_le hpos]; rw [hlo'] at hlo; omega
    simp only [rawMantissa, if_neg he] at hm hc
    by_cases hs : 2 ^ 23 ≤ n / 256 ^ (e - 3)
    · rw [if_pos hs, Nat.mod_eq_of_lt (by omega)] at hc
      have hdiv : n / 256 ^ (e - 2) = n / 256 ^ (e - 3) / 256 := by
        rw [Nat.div_div_eq_div_mul, ← pow_succ]; congr 2; omega
      refine .rounded (e - 2) (by omega) (by omega) ?_ ?_ ?_
      · rw [hdiv]; omega
      · rw [hdiv]; omega
      · rw [hc, hdiv, show e - 2 + 3 = e + 1 by omega]
    · rw [if_neg hs, Nat.mod_eq_of_lt (by omega)] at hc
      refine .rounded (e - 3) (by omega) (by omega) (by omega) (by omega) ?_
      rw [hc, show e - 3 + 3 = e by omega]

theorem compactOf_signBit (n : Nat) : compactOf n / 2 ^ 23 % 2 = 0 := by
  have hm := @rawMantissa_lt n
  dsimp only [compactOf]; split <;> omega

theorem signBit_ofNat_compactOf (n : Nat) : UInt32.ofNat (compactOf n) &&& 0x00800000 = 0 := by
  apply UInt32.toNat.inj
  rw [UInt32.and_toNat, toNat_uint32_ofNat, show (0x00800000 : UInt32).toNat = 0x00800000 from rfl,
    land_signBit]
  have := compactOf_signBit n
  show compactOf n % 2 ^ 32 / 2 ^ 23 % 2 * 2 ^ 23 = 0
  omega

theorem toNat_signBit_clear {w : UInt32} (hw : w &&& 0x00800000 = 0) :
    w.toNat / 2 ^ 23 % 2 = 0 := by
  have := congrArg UInt32.toNat hw
  rw [UInt32.and_toNat, show (0x00800000 : UInt32).toNat = 0x00800000 from rfl,
    land_signBit, UInt32.toNat_zero] at this
  omega

/-- A sign-clear word denotes a mantissa below `2^23` times a power of 256. -/
theorem compactToBig_signClear {w : UInt32} (hw : w &&& 0x00800000 = 0) :
    ∃ a j, a < 2 ^ 23 ∧ compactToBig w = ((a * 256 ^ j : Nat) : Int) := by
  have hs := toNat_signBit_clear hw
  have hm : w.toNat % 2 ^ 23 < 2 ^ 23 := Nat.mod_lt _ (by decide)
  rw [compactToBig_eq, hs, if_neg (by decide), Int.one_mul, gridVal]
  split
  · exact ⟨w.toNat % 2 ^ 23 / 256 ^ (3 - w.toNat / 2 ^ 24), 0,
      lt_of_le_of_lt (Nat.div_le_self _ _) hm, by simp⟩
  · exact ⟨_, _, hm, rfl⟩

/-- Every grid point at most `n` is at most `n` rounded down to a multiple of `256^k`,
when the kept part `n / 256^k` has at least 16 bits. -/
theorem grid_le_rounded {a j n k : Nat} (ha : a < 2 ^ 23) (hv : a * 256 ^ j ≤ n)
    (hk : k = 0 ∨ 2 ^ 15 * 256 ^ k ≤ n) : a * 256 ^ j ≤ n / 256 ^ k * 256 ^ k := by
  rcases Nat.lt_or_ge j k with hjk | hjk
  · -- a lower grid point lies below `2^15 * 256^k`, which the rounded value reaches
    rcases hk with rfl | hk
    · omega
    have h1 : a * 256 ^ j < 2 ^ 15 * 256 ^ k := by
      calc a * 256 ^ j < 2 ^ 23 * 256 ^ j := Nat.mul_lt_mul_of_pos_right ha (by positivity)
        _ = 2 ^ 15 * 256 ^ (j + 1) := by rw [pow_succ]; omega
        _ ≤ 2 ^ 15 * 256 ^ k := Nat.mul_le_mul_left _ (Nat.pow_le_pow_right (by decide) hjk)
    have h2 : 2 ^ 15 ≤ n / 256 ^ k := (Nat.le_div_iff_mul_le (by positivity)).mpr (by omega)
    calc a * 256 ^ j ≤ 2 ^ 15 * 256 ^ k := h1.le
      _ ≤ n / 256 ^ k * 256 ^ k := Nat.mul_le_mul_right _ h2
  · rw [pow256_split hjk, ← Nat.mul_assoc] at hv ⊢
    exact Nat.mul_le_mul_right _ ((Nat.le_div_iff_mul_le (by positivity)).mpr hv)

theorem roundTrip_natCast {n : Nat} (hn : 0 < n) (h : n < 2 ^ 256) :
    ∃ k, compactToBig (bigToCompact n) = ((n / 256 ^ k * 256 ^ k : Nat) : Int) ∧
      (k = 0 ∨ 2 ^ 15 * 256 ^ k ≤ n) := by
  rw [bigToCompact_natCast hn]
  cases kept hn h with
  | exact _ hdec => exact ⟨0, by simpa using hdec, .inl rfl⟩
  | rounded k hk hk' hlo hhi hword =>
    refine ⟨k, ?_, .inr ?_⟩
    · rw [hword, compactToBig_ofNat hk' hhi, gridVal, if_neg (by omega), Nat.add_sub_cancel]
    · have := (Nat.le_div_iff_mul_le (by positivity)).mp hlo
      omega

/-- The values at most `n` that a compact word with the sign bit clear denotes. -/
def SignClearBelow (n : Int) : Set Int :=
  {v | v ≤ n ∧ ∃ w : UInt32, w &&& 0x00800000 = 0 ∧ compactToBig w = v}

theorem natCast_of_pos {n : Int} (h0 : 0 < n) (h1 : n < 2 ^ 256) :
    ∃ m : Nat, n = m ∧ 0 < m ∧ m < 2 ^ 256 := by
  obtain ⟨m, rfl⟩ := Int.eq_ofNat_of_zero_le h0.le
  exact ⟨m, rfl, by omega, by exact_mod_cast h1⟩

theorem roundTrip_mem {n : Int} (h0 : 0 < n) (h1 : n < 2 ^ 256) :
    compactToBig (bigToCompact n) ∈ SignClearBelow n := by
  obtain ⟨n, rfl, hn, h⟩ := natCast_of_pos h0 h1
  obtain ⟨k, hr, -⟩ := roundTrip_natCast hn h
  refine ⟨?_, bigToCompact n, ?_, rfl⟩
  · rw [hr]; exact_mod_cast Nat.div_mul_le_self n _
  · rw [bigToCompact_natCast hn]; exact signBit_ofNat_compactOf n

theorem roundTrip_isGreatest {n : Int} (h0 : 0 < n) (h1 : n < 2 ^ 256) :
    IsGreatest (SignClearBelow n) (compactToBig (bigToCompact n)) := by
  refine ⟨roundTrip_mem h0 h1, ?_⟩
  obtain ⟨n, rfl, hn, h⟩ := natCast_of_pos h0 h1
  obtain ⟨k, hr, hk⟩ := roundTrip_natCast hn h
  rintro v ⟨hv, w, hw, rfl⟩
  obtain ⟨a, j, ha, hwv⟩ := compactToBig_signClear hw
  rw [hwv] at hv ⊢
  rw [hr]
  exact_mod_cast grid_le_rounded ha (by exact_mod_cast hv) hk

theorem roundTrip_loss {n : Int} (h0 : 0 < n) (h1 : n < 2 ^ 256) :
    2 ^ 15 * (n - compactToBig (bigToCompact n)) < n := by
  obtain ⟨n, rfl, hn, h⟩ := natCast_of_pos h0 h1
  obtain ⟨k, hr, hk⟩ := roundTrip_natCast hn h
  have hsplit := Nat.div_add_mod' n (256 ^ k)
  have hmod : n % 256 ^ k < 256 ^ k := Nat.mod_lt _ (by positivity)
  rw [hr]
  rcases hk with rfl | hk
  · simpa using hn
  · omega

@[simp] theorem bigToCompact_zero : bigToCompact 0 = 0 := rfl

@[simp] theorem compactToBig_zero : compactToBig 0 = 0 := rfl

theorem roundTrip_nonneg {n : Int} (h0 : 0 ≤ n) (h1 : n < 2 ^ 256) :
    0 ≤ compactToBig (bigToCompact n) := by
  rcases h0.eq_or_lt with rfl | h0
  · simp
  · exact (roundTrip_isGreatest h0 h1).2 ⟨h0.le, 0, rfl, rfl⟩

theorem roundTrip_le {n : Int} (h0 : 0 ≤ n) (h1 : n < 2 ^ 256) :
    compactToBig (bigToCompact n) ≤ n := by
  rcases h0.eq_or_lt with rfl | h0
  · simp
  · exact (roundTrip_mem h0 h1).1

/-- Decode-after-encode is monotone on `[0, 2^256)`. -/
theorem roundTrip_mono {n m : Int} (h0 : 0 ≤ n) (hnm : n ≤ m) (hm : m < 2 ^ 256) :
    compactToBig (bigToCompact n) ≤ compactToBig (bigToCompact m) := by
  rcases h0.eq_or_lt with rfl | h0
  · simpa using roundTrip_nonneg hnm hm
  · have hmem := roundTrip_mem h0 (by omega)
    exact (roundTrip_isGreatest (by omega) hm).2 ⟨hmem.1.trans hnm, hmem.2⟩

/-- **Compact rounding.** For `0 < n < 2^256`, decoding `BigToCompact n` gives the largest
value at most `n` that a compact word with the sign bit clear denotes; so
decode-after-encode is monotone, and it loses less than `n / 2^15`. -/
theorem compactToBig_bigToCompact_isGreatest {n : Int} (h0 : 0 < n) (h1 : n < 2 ^ 256) :
    IsGreatest (SignClearBelow n) (compactToBig (bigToCompact n)) ∧
      (∀ m : Int, n ≤ m → m < 2 ^ 256 →
        compactToBig (bigToCompact n) ≤ compactToBig (bigToCompact m)) ∧
      2 ^ 15 * (n - compactToBig (bigToCompact n)) < n := by
  exact ⟨roundTrip_isGreatest h0 h1, fun m hm hm' => roundTrip_mono h0.le hm hm',
    roundTrip_loss h0 h1⟩

/-- The rounding at `0x80FFFF`, the value that loses its low byte. -/
theorem compactToBig_bigToCompact_isGreatest_80FFFF :
    (0 < (0x80FFFF : Int) ∧ (0x80FFFF : Int) < 2 ^ 256) ∧
      IsGreatest (SignClearBelow 0x80FFFF) (compactToBig (bigToCompact 0x80FFFF)) ∧
      (∀ m : Int, 0x80FFFF ≤ m → m < 2 ^ 256 →
        compactToBig (bigToCompact 0x80FFFF) ≤ compactToBig (bigToCompact m)) ∧
      2 ^ 15 * (0x80FFFF - compactToBig (bigToCompact 0x80FFFF)) < (0x80FFFF : Int) :=
  ⟨⟨by norm_num, by norm_num⟩, compactToBig_bigToCompact_isGreatest (by norm_num) (by norm_num)⟩

theorem shift_lt_of_lt {x k k' : Nat} (hk : k < k') (h : x / 256 ^ k < 2 ^ 23) :
    x / 256 ^ k' < 2 ^ 15 := by
  have hpow : 256 ^ k' = 256 ^ k * 256 * 256 ^ (k' - k - 1) := by
    rw [← pow_succ, ← pow_add]; congr 1; omega
  rw [hpow, ← Nat.div_div_eq_div_mul, ← Nat.div_div_eq_div_mul]
  exact lt_of_le_of_lt (Nat.div_le_self _ _) (by omega)

/-- At most one shift leaves a kept part between `2^15` and `2^23`. -/
theorem shift_unique {x k k' : Nat} (h : 2 ^ 15 ≤ x / 256 ^ k) (h₁ : x / 256 ^ k < 2 ^ 23)
    (h' : 2 ^ 15 ≤ x / 256 ^ k') (h₁' : x / 256 ^ k' < 2 ^ 23) : k = k' := by
  rcases Nat.lt_trichotomy k k' with hk | rfl | hk
  · exact absurd (shift_lt_of_lt hk h₁) (by omega)
  · rfl
  · exact absurd (shift_lt_of_lt hk h₁') (by omega)

/-- A word `BigToCompact` produces for `0 ≤ n < 2^256` survives a decode/encode cycle. -/
theorem bigToCompact_roundTrip {n : Int} (h0 : 0 ≤ n) (h1 : n < 2 ^ 256) :
    bigToCompact (compactToBig (bigToCompact n)) = bigToCompact n := by
  rcases h0.eq_or_lt with rfl | h0
  · rfl
  obtain ⟨n, rfl, hn, h⟩ := natCast_of_pos h0 h1
  rw [bigToCompact_natCast hn]
  cases kept hn h with
  | exact _ hdec => rw [hdec, bigToCompact_natCast hn]
  | rounded k hk hk' hlo hhi hword =>
    have hpos : 0 < 256 ^ k := by positivity
    have hle : n / 256 ^ k * 256 ^ k ≤ n := Nat.div_mul_le_self n _
    have hq : n / 256 ^ k * 256 ^ k / 256 ^ k = n / 256 ^ k := Nat.mul_div_cancel _ hpos
    have hr : 0 < n / 256 ^ k * 256 ^ k := Nat.mul_pos (by omega) hpos
    rw [hword, compactToBig_ofNat hk' hhi, gridVal, if_neg (by omega), Nat.add_sub_cancel,
      bigToCompact_natCast hr]
    cases kept hr (by omega) with
    | exact hlt _ =>
      have : 2 ^ 15 * 256 ≤ n / 256 ^ k * 256 ^ k :=
        Nat.mul_le_mul hlo (by simpa using Nat.pow_le_pow_right (by decide : 0 < 256) hk)
      omega
    | rounded k' _ _ hlo' hhi' hword' =>
      obtain rfl := shift_unique (by rwa [hq]) (by rwa [hq]) hlo' hhi'
      rw [hword', hq]

/-- **Encode undoes decode on the encoder's image.** Every word `BigToCompact` produces for
a target `0 < n < 2^256` survives a decode/encode cycle bit for bit. -/
theorem bigToCompact_compactToBig_bigToCompact {n : Int} (h0 : 0 < n) (h1 : n < 2 ^ 256) :
    bigToCompact (compactToBig (bigToCompact n)) = bigToCompact n :=
  bigToCompact_roundTrip h0.le h1

/-- The round trip at the Bitcoin genesis target `0x1d00ffff`. -/
theorem bigToCompact_compactToBig_bigToCompact_genesis :
    (0 < (0xffff * 256 ^ 26 : Int) ∧ (0xffff * 256 ^ 26 : Int) < 2 ^ 256) ∧
      bigToCompact (compactToBig (bigToCompact (0xffff * 256 ^ 26))) =
        bigToCompact (0xffff * 256 ^ 26) :=
  ⟨⟨by norm_num, by norm_num⟩, bigToCompact_compactToBig_bigToCompact (by norm_num) (by norm_num)⟩

end Dsvd
