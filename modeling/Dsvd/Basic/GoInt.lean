import Mathlib.Algebra.Order.Ring.Int
import Mathlib.Data.Nat.Bitwise

/-! # Go integers

Go's `int32` and `int64` values are integers in the two's-complement ranges, and
each arithmetic operation on them wraps. A signed `/` or `%` truncates toward zero and
panics on a zero divisor; `big.Int`'s `Div` is Euclidean, which is Lean's `/` on `Int`.
A call of the modelled code ends with a value, an `AssertError`, or a runtime panic.
-/

namespace Dsvd

/-- Values of Go's `int32`. -/
def IsInt32 (x : Int) : Prop := -2147483648 ≤ x ∧ x < 2147483648

/-- Values of Go's `int64`. -/
def IsInt64 (x : Int) : Prop := -9223372036854775808 ≤ x ∧ x < 9223372036854775808

instance : DecidablePred IsInt32 := fun _ => inferInstanceAs (Decidable (_ ∧ _))
instance : DecidablePred IsInt64 := fun _ => inferInstanceAs (Decidable (_ ∧ _))

/-- The two's-complement wrap of an `int32` operation. -/
def wrap32 (x : Int) : Int := (x + 2147483648) % 4294967296 - 2147483648

/-- The two's-complement wrap of an `int64` operation. -/
def wrap64 (x : Int) : Int :=
  (x + 9223372036854775808) % 18446744073709551616 - 9223372036854775808

/-- The end of a call other than a value: the package's `AssertError` or a runtime panic. -/
inductive GoError where
  | assertError (msg : String)
  | divideByZero
  | nilDereference
  deriving DecidableEq, Repr

/-- Go's `/` on `int64`: truncating, and a panic on a zero divisor. -/
def quo64 (x y : Int) : Except GoError Int :=
  if y = 0 then .error .divideByZero else .ok (wrap64 (x.tdiv y))

/-- Go's `%` on `int32`: the remainder takes the dividend's sign; a zero divisor panics. -/
def rem32 (x y : Int) : Except GoError Int :=
  if y = 0 then .error .divideByZero else .ok (x.tmod y)

/-- `big.Int`'s `Div`: Euclidean division, and a panic on a zero divisor. -/
def bigDiv (x y : Int) : Except GoError Int :=
  if y = 0 then .error .divideByZero else .ok (x / y)

/-- `int64(d / time.Second)` for a `time.Duration` of `d` nanoseconds. -/
def seconds (d : Int) : Int := d.tdiv 1000000000

@[simp] theorem pure_eq_ok {ε α : Type} (a : α) : (pure a : Except ε α) = .ok a := rfl

@[simp] theorem ok_bind {ε α β : Type} (a : α) (f : α → Except ε β) :
    (Except.ok a >>= f) = f a := rfl

@[simp] theorem error_bind {ε α β : Type} (e : ε) (f : α → Except ε β) :
    (Except.error e >>= f : Except ε β) = .error e := rfl

theorem bind_eq_ok {ε α β : Type} {x : Except ε α} {f : α → Except ε β} {b : β} :
    x >>= f = .ok b ↔ ∃ a, x = .ok a ∧ f a = .ok b := by
  cases x <;> simp

theorem isInt32_wrap32 (x : Int) : IsInt32 (wrap32 x) := by
  unfold IsInt32 wrap32; omega

theorem isInt64_wrap64 (x : Int) : IsInt64 (wrap64 x) := by
  unfold IsInt64 wrap64; omega

/-- An `int32` operation whose exact result is in range does not wrap. -/
theorem wrap32_of_range {x : Int} (h1 : -2147483648 ≤ x) (h2 : x < 2147483648) :
    wrap32 x = x := by
  unfold wrap32; omega

theorem wrap64_of_range {x : Int} (h1 : -9223372036854775808 ≤ x)
    (h2 : x < 9223372036854775808) : wrap64 x = x := by
  unfold wrap64; omega

theorem IsInt32.isInt64 {x : Int} (h : IsInt32 x) : IsInt64 x := by
  unfold IsInt32 at h; unfold IsInt64; omega

/-- Go's clamp idiom `if a < b { a = b }`. -/
theorem ite_lt_eq_max {a b : Int} : (if a < b then b else a) = max b a := by
  rw [max_def]; split_ifs <;> omega

/-- Go's clamp idiom `if a > b { a = b }`. -/
theorem ite_gt_eq_min {a b : Int} : (if a > b then b else a) = min b a := by
  rw [min_def]; split_ifs <;> omega

/-- `wrap64` only sees its argument modulo `2^64`. -/
theorem wrap64_eq_iff {x y : Int} : wrap64 x = wrap64 y ↔ x % 18446744073709551616 =
    y % 18446744073709551616 := by
  unfold wrap64; omega

theorem wrap64_add_wrap64 (x y : Int) : wrap64 (wrap64 x + y) = wrap64 (x + y) := by
  unfold wrap64; omega

theorem wrap64_sub_wrap64 (x y : Int) : wrap64 (x - wrap64 y) = wrap64 (x - y) := by
  unfold wrap64; omega

theorem wrap64_mul_wrap64 (x y : Int) : wrap64 (wrap64 x * y) = wrap64 (x * y) := by
  rw [wrap64_eq_iff, Int.mul_emod, Int.mul_emod x]
  unfold wrap64; congr 2; omega

@[simp] theorem quo64_ok {x y : Int} (hy : y ≠ 0) : quo64 x y = .ok (wrap64 (x.tdiv y)) :=
  if_neg hy

@[simp] theorem rem32_ok {x y : Int} (hy : y ≠ 0) : rem32 x y = .ok (x.tmod y) := if_neg hy

@[simp] theorem bigDiv_ok {x y : Int} (hy : y ≠ 0) : bigDiv x y = .ok (x / y) := if_neg hy

@[simp] theorem bigDiv_zero (x : Int) : bigDiv x 0 = .error .divideByZero := if_pos rfl

theorem seconds_nonneg {d : Int} (h : 0 ≤ d) : 0 ≤ seconds d := by
  unfold seconds
  rw [Int.tdiv_eq_ediv h (by omega)]
  omega

/-- `int64(d / time.Second)` of an `int64` duration is an `int64`. -/
theorem isInt64_seconds {d : Int} (h : IsInt64 d) : IsInt64 (seconds d) := by
  unfold seconds IsInt64 at *
  rcases le_or_lt 0 d with h0 | h0
  · rw [Int.tdiv_eq_ediv h0 (by omega)]; omega
  · have h1 := Int.tdiv_nonneg (show 0 ≤ -d by omega) (show (0 : Int) ≤ 1000000000 by omega)
    have h2 : (-d).tdiv 1000000000 = -d / 1000000000 := Int.tdiv_eq_ediv (by omega) (by omega)
    rw [Int.neg_tdiv] at h1 h2
    omega

/-- Go's truncating division by a positive divisor is monotone. -/
theorem tdiv_le_tdiv {a b c : Int} (hc : 0 < c) (hab : a ≤ b) : a.tdiv c ≤ b.tdiv c := by
  have hnonneg : ∀ {a b : Int}, 0 ≤ a → a ≤ b → a.tdiv c ≤ b.tdiv c := fun ha hab => by
    rw [Int.tdiv_eq_ediv ha hc.le, Int.tdiv_eq_ediv (ha.trans hab) hc.le]
    exact Int.ediv_le_ediv hc hab
  rcases le_or_lt 0 a with ha | ha
  · exact hnonneg ha hab
  have hna := Int.neg_tdiv a c ▸ Int.tdiv_nonneg (show 0 ≤ -a by omega) hc.le
  rcases le_or_lt 0 b with hb | hb
  · have := Int.tdiv_nonneg hb hc.le
    omega
  · have := hnonneg (show 0 ≤ -b by omega) (neg_le_neg hab)
    rw [Int.neg_tdiv, Int.neg_tdiv] at this
    omega

end Dsvd
