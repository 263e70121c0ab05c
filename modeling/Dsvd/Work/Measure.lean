import Mathlib.Data.Nat.Digits
import Mathlib.SetTheory.Cardinal.Finite
import Dsvd.Compact.Codec

/-! # The two measures of proof of work

`HashToBig` copies a hash, reverses the copy in place by swapping `buf[i]` with
`buf[blen-1-i]` for `i < blen/2`, and reads the result with `SetBytes` as a big-endian
number. The swap loop reverses a buffer of any length, so a hash reads as the little-endian
number of its bytes, and `HashToBig` is a bijection from the 32-byte hashes onto
`[0, 2^256)`: comparing `HashToBig` values compares hashes without loss.

`CalcWork` turns a target into the work `2^256 / (target + 1)` it stands for. Through the
bijection, `target + 1` is the number of hashes that meet the target, so the work of a target
in `(0, 2^256)` is the number of all hashes over the number that meet it: how many one must
try, on average, to find one that does.
-/

namespace Dsvd

/-- `chainhash.Hash`: 32 bytes, least significant first. -/
def Hash := { b : List UInt8 // b.length = 32 }

/-- `new(big.Int).SetBytes(buf)`: the bytes as a big-endian unsigned number. -/
def setBytes (buf : List UInt8) : Nat := buf.foldl (fun acc b => acc * 256 + b.toNat) 0

/-- The swap loop of `HashToBig`, with `n` rounds left at index `i`: the tuple assignment
`buf[i], buf[blen-1-i] = buf[blen-1-i], buf[i]` reads both bytes before it writes. -/
def hashToBig.swapLoop (blen : Nat) : Nat → Nat → List UInt8 → List UInt8
  | 0, _, buf => buf
  | n + 1, i, buf =>
    swapLoop blen n (i + 1)
      ((buf.set i (buf.getD (blen - 1 - i) 0)).set (blen - 1 - i) (buf.getD i 0))

/-- `HashToBig`. -/
def hashToBig (hash : Hash) : Int :=
  let buf := hash.val
  let blen := buf.length
  (setBytes (hashToBig.swapLoop blen (blen / 2) 0 buf) : Int)

namespace hashToBig

/-- After `i` rounds the first and last `i` bytes hold the reversed bytes and the middle is
untouched. -/
def SwappedTo (orig : List UInt8) (i : Nat) (buf : List UInt8) : Prop :=
  buf.length = orig.length ∧ ∀ j, buf[j]? =
    if j < i ∨ orig.length - i ≤ j then orig.reverse[j]? else orig[j]?

theorem swappedTo_zero (orig : List UInt8) : SwappedTo orig 0 orig :=
  ⟨rfl, fun j => by
    split_ifs with h
    · rw [List.getElem?_eq_none (by omega), List.getElem?_eq_none (by simp; omega)]
    · rfl⟩

theorem swappedTo_succ {orig buf : List UInt8} {i : Nat} (h : SwappedTo orig i buf)
    (hi : i < orig.length / 2) :
    SwappedTo orig (i + 1) ((buf.set i (buf.getD (orig.length - 1 - i) 0)).set
      (orig.length - 1 - i) (buf.getD i 0)) := by
  obtain ⟨hlen, hbuf⟩ := h
  have hx : buf[i]? = orig[i]? := by rw [hbuf, if_neg (by omega)]
  have hy : buf[orig.length - 1 - i]? = orig[orig.length - 1 - i]? := by
    rw [hbuf, if_neg (by omega)]
  have hrev : ∀ j, j < orig.length → orig.reverse[j]? = orig[orig.length - 1 - j]? :=
    fun j hj => List.getElem?_reverse hj
  refine ⟨by simp [hlen], fun j => ?_⟩
  simp only [List.getElem?_set, List.length_set, hlen, List.getD_eq_getElem?_getD, hx, hy]
  by_cases hjk : orig.length - 1 - i = j
  · subst hjk
    rw [if_pos rfl, if_pos (by omega), if_pos (by omega), hrev _ (by omega),
      show orig.length - 1 - (orig.length - 1 - i) = i by omega,
      List.getElem?_eq_getElem (by omega), Option.getD_some]
  · rw [if_neg hjk]
    by_cases hji : i = j
    · subst hji
      rw [if_pos rfl, if_pos (by omega), if_pos (by omega), hrev _ (by omega),
        List.getElem?_eq_getElem (by omega), Option.getD_some]
    · rw [if_neg hji, hbuf]
      exact if_congr (by omega) rfl rfl

/-- The remaining rounds finish the reversal. -/
theorem swapLoop_of_swappedTo {orig : List UInt8} :
    ∀ (n i : Nat) (buf : List UInt8), SwappedTo orig i buf → i + n = orig.length / 2 →
      swapLoop orig.length n i buf = orig.reverse
  | 0, i, buf, ⟨hlen, hbuf⟩, hn => by
    refine List.ext_getElem? fun j => ?_
    rw [swapLoop, hbuf]
    split_ifs with hj
    · rfl
    · by_cases hjl : j < orig.length
      · rw [List.getElem?_reverse hjl, show orig.length - 1 - j = j by omega]
      · rw [List.getElem?_eq_none (by omega), List.getElem?_eq_none (by simp; omega)]
  | n + 1, i, buf, h, hn => swapLoop_of_swappedTo n (i + 1) _ (swappedTo_succ h (by omega)) (by omega)

/-- The swap loop reverses a buffer of any length. -/
theorem swapLoop_eq_reverse (buf : List UInt8) :
    swapLoop buf.length (buf.length / 2) 0 buf = buf.reverse :=
  swapLoop_of_swappedTo _ 0 buf (swappedTo_zero buf) (by omega)

end hashToBig

/-- Big-endian reading of the reversed bytes is the little-endian reading of the bytes. -/
theorem setBytes_reverse (buf : List UInt8) :
    setBytes buf.reverse = Nat.ofDigits 256 (buf.map UInt8.toNat) := by
  rw [setBytes, List.foldl_reverse]
  induction buf with
  | nil => rfl
  | cons b rest ih => rw [List.foldr_cons, ih, List.map_cons, Nat.ofDigits_cons]; ring

/-- Byte strings of one length are determined by their little-endian value. -/
theorem ofDigits_bytes_inj : ∀ {l₁ l₂ : List UInt8}, l₁.length = l₂.length →
    Nat.ofDigits 256 (l₁.map UInt8.toNat) = Nat.ofDigits 256 (l₂.map UInt8.toNat) → l₁ = l₂
  | [], [], _, _ => rfl
  | a :: l₁, b :: l₂, hlen, h => by
    simp only [List.map_cons, Nat.ofDigits_cons] at h
    have ha := a.toNat_lt_size
    have hb := b.toNat_lt_size
    have hab : a.toNat = b.toNat := by simp only [UInt8.size] at ha hb; omega
    rw [UInt8.toNat.inj hab]
    exact congrArg _ (ofDigits_bytes_inj (by simpa using hlen) (by omega))

/-- Every number below `256^k` is the little-endian value of `k` bytes. -/
theorem exists_ofDigits_bytes : ∀ (k n : Nat), n < 256 ^ k →
    ∃ l : List UInt8, l.length = k ∧ Nat.ofDigits 256 (l.map UInt8.toNat) = n
  | 0, n, h => ⟨[], rfl, by simp at h; simp [h]⟩
  | k + 1, n, h => by
    obtain ⟨l, hl, hv⟩ := exists_ofDigits_bytes k (n / 256) (by
      rw [pow_succ] at h; exact Nat.div_lt_of_lt_mul (by rwa [Nat.mul_comm]))
    refine ⟨UInt8.ofNat (n % 256) :: l, by simp [hl], ?_⟩
    have hb : (UInt8.ofNat (n % 256)).toNat = n % 256 :=
      UInt8.toNat_ofNat_of_lt (Nat.mod_lt _ (by decide))
    rw [List.map_cons, Nat.ofDigits_cons, hv, hb]
    omega

theorem hashToBig_eq (hash : Hash) :
    hashToBig hash = ((Nat.ofDigits 256 (hash.val.map UInt8.toNat) : Nat) : Int) := by
  simp only [hashToBig, hashToBig.swapLoop_eq_reverse, setBytes_reverse]

theorem hashToBig_nonneg (hash : Hash) : 0 ≤ hashToBig hash := by
  rw [hashToBig_eq]; omega

theorem hashToBig_lt (hash : Hash) : hashToBig hash < 2 ^ 256 := by
  have h := @Nat.ofDigits_lt_base_pow_length 256 (hash.val.map UInt8.toNat)
    (by decide) (by simp only [List.mem_map]; rintro _ ⟨b, -, rfl⟩; exact b.toNat_lt_size)
  rw [List.length_map, hash.property] at h
  rw [hashToBig_eq]; exact_mod_cast h

theorem hashToBig_injective : Function.Injective hashToBig := fun h₁ h₂ h => by
  rw [hashToBig_eq, hashToBig_eq, Nat.cast_inj] at h
  exact Subtype.ext (ofDigits_bytes_inj (h₁.property.trans h₂.property.symm) h)

theorem exists_hashToBig {n : Int} (h0 : 0 ≤ n) (h1 : n < 2 ^ 256) :
    ∃ hash : Hash, hashToBig hash = n := by
  obtain ⟨m, rfl⟩ := Int.eq_ofNat_of_zero_le h0
  obtain ⟨l, hl, hv⟩ := exists_ofDigits_bytes 32 m (by exact_mod_cast h1)
  exact ⟨⟨l, hl⟩, by rw [hashToBig_eq]; exact congrArg _ hv⟩

/-- **`HashToBig` is a bijection onto `[0, 2^256)`.** A hash reads as the little-endian
number of its 32 bytes; distinct hashes give distinct numbers, and every number in
`[0, 2^256)` is the value of a hash. -/
theorem hashToBig_bijective :
    (∀ hash : Hash, hashToBig hash = ((Nat.ofDigits 256 (hash.val.map UInt8.toNat) : Nat) : Int) ∧
      0 ≤ hashToBig hash ∧ hashToBig hash < 2 ^ 256) ∧
    Function.Injective hashToBig ∧
    ∀ n : Int, 0 ≤ n → n < 2 ^ 256 → ∃ hash : Hash, hashToBig hash = n :=
  ⟨fun hash => ⟨hashToBig_eq hash, hashToBig_nonneg hash, hashToBig_lt hash⟩, hashToBig_injective,
    fun _ => exists_hashToBig⟩

/-! ## `CalcWork` -/

theorem calcWork_of_pos {bits : UInt32} (h : 0 < compactToBig bits) :
    calcWork bits = 2 ^ 256 / (compactToBig bits + 1) := by
  rw [calcWork, if_neg (by omega)]

theorem calcWork_pos {bits : UInt32} (h0 : 0 < compactToBig bits)
    (h1 : compactToBig bits < 2 ^ 256) : 0 < calcWork bits := by
  rw [calcWork_of_pos h0, ← Int.add_one_le_iff, zero_add, Int.le_ediv_iff_mul_le (by omega)]
  omega

end Dsvd
