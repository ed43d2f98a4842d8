import Mathlib.Data.Rat.Defs
import Mathlib.Algebra.Order.Group.Nat

/-!
# Python floats

A Python `float` is an IEEE 754 binary64 double. Each arithmetic result, and
`float()` of a decimal text, is the exact value rounded to the nearest double,
ties to the even significand, and an infinity once it passes the largest
double.

A finite double here is kept as IEEE 754 encodes it, on naturals: a sign, a
significand `m < 2^53` and a biased exponent `e < 2046`, with value
`m · 2^(e - 1074)`, where `m ≥ 2^52` unless `e = 0` (the subnormal range). So
two doubles are equal exactly when their fields are. `ofScaled neg M D` is the
double nearest to `±(M / D) · 2^-1074`: the exponent is read off the binary
length of `⌊M / D⌋`, the significand is the quotient by the last place,
rounded (`roundDiv`), and a significand that rounds up to `2^53` moves to the
next exponent.

A double rounds to itself (`ofScaled_of_isDouble`), so every integer below
`2^53` has an exact double, and so does its quotient by a power of two that
stays in the normal range (`ofScaled_mul_pow`).
-/

namespace LibStorageMgmt.Py

/-- `⌊log₂ n⌋`, and `0` for `0`, by halving; `n` halvings always suffice. -/
def log2 (n : Nat) : Nat := go n n
where
  /-- Halve `n` until it is below 2, at most `fuel` times. -/
  go : Nat → Nat → Nat
    | 0, _ => 0
    | fuel + 1, n => if n < 2 then 0 else go fuel (n / 2) + 1

theorem log2_go_spec : ∀ fuel n, 0 < n → n ≤ fuel →
    2 ^ log2.go fuel n ≤ n ∧ n < 2 ^ (log2.go fuel n + 1)
  | 0, _, hn, hf => absurd hf (by omega)
  | fuel + 1, n, hn, hf => by
    unfold log2.go
    split
    · simp only [Nat.pow_zero, Nat.zero_add, Nat.pow_one]
      omega
    · obtain ⟨h₁, h₂⟩ := log2_go_spec fuel (n / 2) (by omega) (by omega)
      have h₁' := (Nat.le_div_iff_mul_le Nat.zero_lt_two).mp h₁
      have h₂' := (Nat.div_lt_iff_lt_mul Nat.zero_lt_two).mp h₂
      rw [Nat.pow_succ, Nat.pow_succ]
      rw [Nat.pow_succ] at h₂'
      omega

/-- `2^log2 n ≤ n < 2^(log2 n + 1)` for every positive `n`. -/
theorem log2_spec {n : Nat} (hn : 0 < n) : 2 ^ log2 n ≤ n ∧ n < 2 ^ (log2 n + 1) :=
  log2_go_spec n n hn le_rfl

/-- The binary exponent is the one power of two that brackets `n`. -/
theorem log2_eq {n k : Nat} (h₁ : 2 ^ k ≤ n) (h₂ : n < 2 ^ (k + 1)) : log2 n = k := by
  obtain ⟨s₁, s₂⟩ := log2_spec (Nat.lt_of_lt_of_le (Nat.two_pow_pos k) h₁)
  have a := (Nat.pow_lt_pow_iff_right (by decide : 1 < 2)).mp (Nat.lt_of_le_of_lt s₁ h₂)
  have b := (Nat.pow_lt_pow_iff_right (by decide : 1 < 2)).mp (Nat.lt_of_le_of_lt h₁ s₂)
  omega

theorem log2_le {n k : Nat} (h : n < 2 ^ (k + 1)) : log2 n ≤ k := by
  rcases Nat.eq_zero_or_pos n with rfl | hn
  · exact Nat.zero_le k
  · exact Nat.lt_succ_iff.mp ((Nat.pow_lt_pow_iff_right (by decide : 1 < 2)).mp
      (Nat.lt_of_le_of_lt (log2_spec hn).1 h))

/-- `a / b` rounded to the nearest natural, ties to the even one. -/
def roundDiv (a b : Nat) : Nat :=
  let q := a / b
  let r := a % b
  if b < 2 * r ∨ (2 * r = b ∧ q % 2 = 1) then q + 1 else q

/-- An exact quotient needs no rounding. -/
theorem roundDiv_mul {m b : Nat} (hb : 0 < b) : roundDiv (m * b) b = m := by
  simp only [roundDiv, Nat.mul_div_cancel m hb, Nat.mul_mod_left]
  split <;> omega

/-- A Python `float`: a finite double with its sign, significand `m` and
biased exponent `e`, of value `±m · 2^(e - 1074)`, an infinity, or NaN. -/
inductive PyFloat where
  | finite (neg : Bool) (m e : Nat)
  | inf (neg : Bool)
  | nan
  deriving DecidableEq, Repr

namespace PyFloat

/-- The finite double `±m · 2^(e - 1074)`, or an infinity when `e` is past the
largest exponent. -/
def finiteOrInf (neg : Bool) (m e : Nat) : PyFloat :=
  if e < 2046 then finite neg m e else inf neg

/-- The double nearest to `±(M / D) · 2^-1074`, for `D > 0`. -/
def ofScaled (neg : Bool) (M D : Nat) : PyFloat :=
  let e := log2 (M / D) - 52
  let m := roundDiv M (D * 2 ^ e)
  if m = 2 ^ 53 then finiteOrInf neg (2 ^ 52) (e + 1) else finiteOrInf neg m e

/-- `x / d` for a positive integer `d`: the exact quotient, rounded. -/
def div (x : PyFloat) (d : Nat) : PyFloat :=
  match x with
  | finite neg m e => ofScaled neg (m * 2 ^ e) d
  | inf neg => inf neg
  | nan => nan

/-- The exact value of a finite double. -/
def value? : PyFloat → Option ℚ
  | finite neg m e => some ((if neg then -1 else 1) * (m * 2 ^ e : Nat) / 2 ^ 1074)
  | _ => none

/-- Zero rounds to the positive or negative zero. -/
theorem ofScaled_zero (neg : Bool) (D : Nat) : ofScaled neg 0 D = finite neg 0 0 := by
  have h0 : log2 0 = 0 := rfl
  simp [ofScaled, roundDiv, finiteOrInf, h0]

/-- The fields of a finite double, in IEEE 754's encoding. -/
def IsDouble (m e : Nat) : Prop := m < 2 ^ 53 ∧ e < 2046 ∧ (e = 0 ∨ 2 ^ 52 ≤ m)

/-- A double rounds to itself. -/
theorem ofScaled_of_isDouble {m e D : Nat} (neg : Bool) (h : IsDouble m e) (hD : 0 < D) :
    ofScaled neg (m * 2 ^ e * D) D = finite neg m e := by
  obtain ⟨hm, he, hnorm⟩ := h
  have hq : m * 2 ^ e * D / D = m * 2 ^ e := Nat.mul_div_cancel _ hD
  -- The exponent read off `⌊M / D⌋` is `e` itself.
  have hexp : log2 (m * 2 ^ e) - 52 = e := by
    rcases hnorm with rfl | hnorm
    · rw [Nat.pow_zero, Nat.mul_one]
      have := log2_le (k := 52) hm
      omega
    · have h₁ : 2 ^ (52 + e) ≤ m * 2 ^ e := by
        rw [Nat.pow_add]; exact Nat.mul_le_mul_right _ hnorm
      have h₂ : m * 2 ^ e < 2 ^ (52 + e + 1) := by
        rw [Nat.add_right_comm, Nat.pow_add]
        exact Nat.mul_lt_mul_of_pos_right hm (Nat.two_pow_pos e)
      rw [log2_eq h₁ h₂]
      omega
  have hround : roundDiv (m * 2 ^ e * D) (D * 2 ^ e) = m := by
    rw [Nat.mul_assoc, Nat.mul_comm (2 ^ e) D]
    exact roundDiv_mul (Nat.mul_pos hD (Nat.two_pow_pos e))
  simp only [ofScaled, hq, hexp, hround, Nat.ne_of_lt hm, if_false, finiteOrInf, if_pos he]

/-- `n · 2^k`, for `0 < n < 2^53`, is a double when its exponent stays in the
normal range: its significand is `n` shifted to 53 bits. -/
theorem ofScaled_mul_pow {n k : Nat} (neg : Bool) (hn : 0 < n) (hn' : n < 2 ^ 53)
    (hk : 52 - log2 n ≤ k) (hk' : k < 2046 + (52 - log2 n)) {D : Nat} (hD : 0 < D) :
    ofScaled neg (n * 2 ^ k * D) D = finite neg (n * 2 ^ (52 - log2 n)) (k - (52 - log2 n)) := by
  obtain ⟨h₁, h₂⟩ := log2_spec hn
  have hL := log2_le (k := 52) hn'
  have hsplit : n * 2 ^ k = n * 2 ^ (52 - log2 n) * 2 ^ (k - (52 - log2 n)) := by
    rw [Nat.mul_assoc, ← Nat.pow_add, Nat.add_sub_cancel' hk]
  have hdouble : IsDouble (n * 2 ^ (52 - log2 n)) (k - (52 - log2 n)) := by
    have hlo : 2 ^ 52 ≤ n * 2 ^ (52 - log2 n) := by
      calc 2 ^ 52 = 2 ^ log2 n * 2 ^ (52 - log2 n) := by rw [← Nat.pow_add]; congr 1; omega
        _ ≤ n * 2 ^ (52 - log2 n) := Nat.mul_le_mul_right _ h₁
    have hhi : n * 2 ^ (52 - log2 n) < 2 ^ 53 := by
      calc n * 2 ^ (52 - log2 n) < 2 ^ (log2 n + 1) * 2 ^ (52 - log2 n) :=
            Nat.mul_lt_mul_of_pos_right h₂ (Nat.two_pow_pos _)
        _ = 2 ^ 53 := by rw [← Nat.pow_add]; congr 1; omega
    exact ⟨hhi, by omega, .inr hlo⟩
  rw [hsplit]
  exact ofScaled_of_isDouble neg hdouble hD

/-- Dividing the double of `n · 2^K` by `2^j` only moves its exponent, while
the quotient stays in the normal range. -/
theorem div_pow_of_mul_pow {n K j : Nat} (neg : Bool) (hn : 0 < n) (hn' : n < 2 ^ 53)
    (hj : 52 - log2 n + j ≤ K) (hK : K < 2046 + (52 - log2 n)) :
    (ofScaled neg (n * 2 ^ K) 1).div (2 ^ j) =
      finite neg (n * 2 ^ (52 - log2 n)) (K - j - (52 - log2 n)) := by
  have h₁ := ofScaled_mul_pow (k := K) neg hn hn' (by omega) hK Nat.one_pos
  rw [Nat.mul_one] at h₁
  have hsplit : n * 2 ^ (52 - log2 n) * 2 ^ (K - (52 - log2 n)) = n * 2 ^ (K - j) * 2 ^ j := by
    rw [Nat.mul_assoc, ← Nat.pow_add, Nat.mul_assoc, ← Nat.pow_add]
    congr 2
    omega
  rw [h₁, div, hsplit]
  exact ofScaled_mul_pow neg hn hn' (by omega) (by omega) (Nat.two_pow_pos j)

/-- The value of the double `ofScaled_mul_pow` gives. -/
theorem value?_mul_pow {n k : Nat} (neg : Bool) (hk : 52 - log2 n ≤ k) :
    (finite neg (n * 2 ^ (52 - log2 n)) (k - (52 - log2 n))).value? =
      some (((if neg then -1 else 1) * (n * 2 ^ k : Nat) / 2 ^ 1074 : ℚ)) := by
  rw [value?, Nat.mul_assoc, ← Nat.pow_add, Nat.add_sub_cancel' hk]

end PyFloat

end LibStorageMgmt.Py
