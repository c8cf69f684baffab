import Mathlib.Algebra.Order.Field.Power
import Mathlib.Algebra.Order.Field.Rat
import Mathlib.Tactic.Linarith
import Mathlib.Tactic.NormNum
import Mathlib.Tactic.Positivity
import Mathlib.Tactic.Ring
import ServerConfig.Binary64.Decimal

/-!
# Rounding to double precision

A positive rational number belongs to one exponent of the format, and in units
of two to that exponent it has one nearest integer, ties going to the even one.
Rounding takes these two, so that it depends on the value of a fraction alone.
Main statements: a number that is close to one of the format, by a part in
`2 ^ 54` of it, is rounded to it, and rounding overflows from the middle between
the greatest number of the format and the next power of two on.
-/

namespace ServerConfig.Binary64

/-! ## The nearest integer -/

/-- An integer that is nearest to a number, and the even one of two that are. -/
structure Nearest (x : ℚ) (n : ℕ) : Prop where
  near : |x - n| ≤ 1 / 2
  even : |x - n| = 1 / 2 → n % 2 = 0

section Nearest

variable {x : ℚ} {m n a b : ℕ}

/-- Where the fractional part leaves no doubt, there is no other one as near. -/
theorem nearest_of_lt (near : |x - n| < 1 / 2) : Nearest x n :=
  ⟨near.le, fun tie => absurd tie near.ne⟩

/-- A multiple of a unit that is nearer than half of it is the nearest one. -/
theorem nearest_of_close {unit : ℚ} (positive : 0 < unit)
    (close : |x - n * unit| * 2 < unit) : Nearest (x / unit) n := by
  apply nearest_of_lt
  rw [div_sub' positive.ne', abs_div, abs_of_pos positive, mul_comm unit,
    div_lt_div_iff₀ positive two_pos, one_mul]
  exact close

theorem nearest_divNearest (positive : 0 < b) :
    Nearest ((a : ℚ) / b) (divNearest a b) := by
  have unit : (0 : ℚ) < b := by exact_mod_cast positive
  have whole : (a : ℚ) = b * (a / b : ℕ) + (a % b : ℕ) := by
    exact_mod_cast (Nat.div_add_mod a b).symm
  have rest : (a : ℚ) / b = (a / b : ℕ) + (a % b : ℕ) / (b : ℚ) := by
    rw [div_eq_iff unit.ne', add_mul, div_mul_cancel₀ _ unit.ne']
    linarith
  have nonneg : (0 : ℚ) ≤ (a % b : ℕ) / (b : ℚ) := by positivity
  have small : ((a % b : ℕ) : ℚ) / b < 1 := by
    rw [div_lt_one unit]
    exact_mod_cast Nat.mod_lt a positive
  have low : 2 * (a % b) < b ↔ ((a % b : ℕ) : ℚ) / b < 1 / 2 := by
    rw [div_lt_div_iff₀ unit two_pos, one_mul, mul_comm]
    exact_mod_cast Iff.rfl
  have high : b < 2 * (a % b) ↔ 1 / 2 < ((a % b : ℕ) : ℚ) / b := by
    rw [div_lt_div_iff₀ two_pos unit, one_mul, mul_comm]
    exact_mod_cast Iff.rfl
  rw [rest, divNearest]
  generalize ((a % b : ℕ) : ℚ) / b = part at *
  split_ifs with below above even
  · apply nearest_of_lt
    rw [add_sub_cancel_left, abs_of_nonneg nonneg]
    exact low.mp below
  · apply nearest_of_lt
    rw [Nat.cast_succ, add_sub_add_left_eq_sub, abs_of_neg (by linarith)]
    linarith [high.mp above]
  · have half : part = 1 / 2 :=
      le_antisymm (not_lt.mp (mt high.mpr above)) (not_lt.mp (mt low.mpr below))
    rw [half]
    exact ⟨by norm_num, fun _ => even⟩
  · have half : part = 1 / 2 :=
      le_antisymm (not_lt.mp (mt high.mpr above)) (not_lt.mp (mt low.mpr below))
    rw [half]
    refine ⟨?_, fun _ => by omega⟩
    rw [Nat.cast_succ]
    norm_num

theorem Nearest.le (nearest : Nearest x n) (other : Nearest x m) :
    n ≤ m := by
  by_contra greater
  have apart : (m : ℚ) + 1 ≤ n := by exact_mod_cast Nat.not_le.mp greater
  have upper := (abs_le.mp other.near).2
  have lower := (abs_le.mp nearest.near).1
  have tie : x = m + 1 / 2 := by linarith
  have next : (n : ℚ) = m + 1 := by linarith
  have even := other.even (by norm_num [tie])
  have evenToo := nearest.even (by norm_num [tie, next])
  have succ : n = m + 1 := by exact_mod_cast next
  omega

theorem Nearest.unique (nearest : Nearest x n) (other : Nearest x m) : n = m :=
  le_antisymm (nearest.le other) (other.le nearest)

end Nearest

/-! ## The exponent -/

/-- The exponent with which a positive number has a significand of full
precision, or the least exponent. -/
structure HasExponent (x : ℚ) (e : ℤ) : Prop where
  least : minExponent ≤ e
  below : x < 2 ^ 53 * 2 ^ e
  above : e = minExponent ∨ 2 ^ 52 * 2 ^ e ≤ x

section Exponent

variable {x : ℚ} {d e : ℤ} {p q : ℕ}

theorem two_zpow_le (le : d ≤ e) : (2 : ℚ) ^ d ≤ 2 ^ e :=
  zpow_le_zpow_right₀ one_le_two le

theorem two_zpow_add (e : ℤ) (n : ℕ) : (2 : ℚ) ^ (e + n) = 2 ^ n * 2 ^ e := by
  rw [zpow_add₀ two_ne_zero, zpow_natCast, mul_comm]

theorem HasExponent.le (has : HasExponent x d) (other : HasExponent x e) :
    d ≤ e := by
  by_contra greater
  rcases has.above with least | above
  · have := other.least
    omega
  · have double : 2 ^ 1 * (2 : ℚ) ^ e ≤ 2 ^ d := by
      rw [← two_zpow_add]
      exact two_zpow_le (by omega)
    have below := other.below
    norm_num at above below double
    linarith

theorem HasExponent.unique (has : HasExponent x d) (other : HasExponent x e) :
    d = e :=
  le_antisymm (has.le other) (other.le has)

/-- Dividing by a power of two keeps the denominator positive. -/
theorem scaleDown_value (positive : 0 < q) (e : ℤ) :
    0 < (scaleDown p q e).2 ∧
      ((scaleDown p q e).1 : ℚ) / (scaleDown p q e).2 = p / q / 2 ^ e := by
  cases e with
  | ofNat e =>
      refine ⟨Nat.mul_pos positive (Nat.two_pow_pos e), ?_⟩
      rw [Int.ofNat_eq_natCast, zpow_natCast, div_div]
      simp [scaleDown]
  | negSucc e =>
      refine ⟨positive, ?_⟩
      rw [zpow_negSucc, div_inv_eq_mul, div_mul_eq_mul_div]
      simp [scaleDown]

theorem log2_bounds (positive : 0 < p) :
    (2 : ℚ) ^ (p.log2 : ℤ) ≤ p ∧ (p : ℚ) < 2 ^ ((p.log2 : ℤ) + 1) := by
  constructor
  · rw [zpow_natCast]
    exact_mod_cast Nat.log2_self_le positive.ne'
  · have less : p < 2 ^ (p.log2 + 1) := Nat.lt_log2_self
    rw [← Nat.cast_succ, zpow_natCast]
    exact_mod_cast less

/-- The logarithms of a fraction tell its value up to a factor of two. -/
theorem guess_bounds (top : 0 < p) (bottom : 0 < q) :
    (2 : ℚ) ^ ((p.log2 : ℤ) - q.log2 - 1) ≤ p / q ∧
      (p : ℚ) / q < 2 ^ ((p.log2 : ℤ) - q.log2 + 1) := by
  obtain ⟨topLow, topHigh⟩ := log2_bounds top
  obtain ⟨bottomLow, bottomHigh⟩ := log2_bounds bottom
  have unit : (0 : ℚ) < q := by exact_mod_cast bottom
  have two : (2 : ℚ) ≠ 0 := two_ne_zero
  constructor
  · rw [le_div_iff₀ unit]
    calc
      (2 : ℚ) ^ ((p.log2 : ℤ) - q.log2 - 1) * q
          ≤ 2 ^ ((p.log2 : ℤ) - q.log2 - 1) * 2 ^ ((q.log2 : ℤ) + 1) := by
        gcongr
      _ = 2 ^ (p.log2 : ℤ) := by
        rw [← zpow_add₀ two]
        congr 1
        ring
      _ ≤ p := topLow
  · rw [div_lt_iff₀ unit]
    calc
      (p : ℚ) < 2 ^ ((p.log2 : ℤ) + 1) := topHigh
      _ = 2 ^ ((p.log2 : ℤ) - q.log2 + 1) * 2 ^ (q.log2 : ℤ) := by
        rw [← zpow_add₀ two]
        congr 1
        ring
      _ ≤ 2 ^ ((p.log2 : ℤ) - q.log2 + 1) * q := by
        gcongr

theorem hasExponent_exponentFor (top : 0 < p) (bottom : 0 < q) :
    HasExponent ((p : ℚ) / q) (exponentFor p q) := by
  obtain ⟨low, high⟩ := guess_bounds top bottom
  let guess : ℤ := (p.log2 : ℤ) - q.log2 - 53
  have lowGuess : 2 ^ 52 * (2 : ℚ) ^ guess ≤ p / q := by
    rw [← two_zpow_add]
    exact (two_zpow_le (by omega)).trans low
  have highGuess : (p : ℚ) / q < 2 ^ 54 * 2 ^ guess := by
    rw [← two_zpow_add]
    exact high.trans_le (two_zpow_le (by omega))
  obtain ⟨unit, value⟩ := scaleDown_value (p := p) bottom guess
  -- A guess that leaves one bit too many is one too small.
  have test : Nat.pow 2 precision ≤
        (scaleDown p q guess).1 / (scaleDown p q guess).2 ↔
      2 ^ 53 * (2 : ℚ) ^ guess ≤ p / q := by
    rw [Nat.le_div_iff_mul_le unit, ← le_div_iff₀ (by positivity), ← value,
      le_div_iff₀ (by exact_mod_cast unit)]
    exact_mod_cast Iff.rfl
  have exact : ∃ exact : ℤ, exponentFor p q = max exact minExponent ∧
      2 ^ 52 * (2 : ℚ) ^ exact ≤ p / q ∧
      (p : ℚ) / q < 2 ^ 53 * 2 ^ exact := by
    by_cases great : 2 ^ 53 * (2 : ℚ) ^ guess ≤ p / q
    · have next : (2 : ℚ) ^ (guess + 1) = 2 ^ 1 * 2 ^ guess :=
        two_zpow_add guess 1
      refine ⟨guess + 1, ?_, ?_, ?_⟩
      · exact congrArg (max · minExponent) (if_pos (test.mpr great))
      · rwa [next, ← mul_assoc, ← pow_add]
      · rwa [next, ← mul_assoc, ← pow_add]
    · refine ⟨guess, ?_, lowGuess, not_le.mp great⟩
      exact congrArg (max · minExponent) (if_neg (mt test.mp great))
  obtain ⟨exact, found, above, below⟩ := exact
  rw [found]
  constructor
  case least => exact le_max_right _ _
  case below =>
    refine below.trans_le ?_
    gcongr
    · exact one_le_two
    · exact le_max_left _ _
  case above =>
    rcases le_total exact minExponent with less | great
    · exact .inl (max_eq_right less)
    · rw [max_eq_left great]
      exact .inr above

end Exponent

/-! ## Rounding -/

/-- What a significand and an exponent are as a number, where the significand
may have been rounded up to one bit more. -/
def ofRounded (negative : Bool) (significand : ℕ) (exponent : ℤ) : Binary64 :=
  let (significand, exponent) :=
    if significand = Nat.pow 2 precision then
      (Nat.pow 2 (precision - 1), exponent + 1)
    else (significand, exponent)
  if maxExponent < exponent then .infinite negative
  else .finite negative significand exponent

section Rounding

variable {negative : Bool} {x : ℚ} {n p q s : ℕ} {e : ℤ}

/-- Rounding takes the nearest integer in units of the exponent. -/
theorem ofFraction_of_nearest (top : 0 < p) (bottom : 0 < q)
    (has : HasExponent ((p : ℚ) / q) e) (nearest : Nearest (p / q / 2 ^ e) n) :
    ofFraction negative p q = ofRounded negative n e := by
  obtain rfl : e = exponentFor p q :=
    has.unique (hasExponent_exponentFor top bottom)
  obtain ⟨unit, value⟩ := scaleDown_value (p := p) bottom (exponentFor p q)
  have rounded := nearest_divNearest
    (a := (scaleDown p q (exponentFor p q)).1) unit
  rw [value] at rounded
  rw [ofFraction, if_neg top.ne', nearest.unique rounded]
  rfl

/-- The integer and the exponent that rounding finds. -/
theorem exists_rounded (negative : Bool) (top : 0 < p) (bottom : 0 < q) :
    ∃ n e, HasExponent ((p : ℚ) / q) e ∧ Nearest (p / q / 2 ^ e) n ∧
      ofFraction negative p q = ofRounded negative n e := by
  have has := hasExponent_exponentFor top bottom
  obtain ⟨unit, value⟩ := scaleDown_value (p := p) bottom (exponentFor p q)
  have nearest := nearest_divNearest
    (a := (scaleDown p q (exponentFor p q)).1) unit
  rw [value] at nearest
  exact ⟨_, _, has, nearest, ofFraction_of_nearest top bottom has nearest⟩

/-- Rounding depends on the value of a fraction alone. -/
theorem ofFraction_congr {other unit : ℕ} (bottom : 0 < q)
    (positive : 0 < unit) (same : (p : ℚ) / q = other / unit) :
    ofFraction negative p q = ofFraction negative other unit := by
  have qPositive : (0 : ℚ) < q := by exact_mod_cast bottom
  have unitPositive : (0 : ℚ) < unit := by exact_mod_cast positive
  by_cases zero : p = 0
  · have zeroToo : other = 0 := by
      rw [zero, Nat.cast_zero, zero_div, eq_comm, div_eq_zero_iff,
        or_iff_left unitPositive.ne'] at same
      exact_mod_cast same
    rw [ofFraction, ofFraction, if_pos zero, if_pos zeroToo]
  · have top : 0 < p := Nat.pos_of_ne_zero zero
    have topToo : 0 < other := by
      rw [Nat.pos_iff_ne_zero]
      rintro rfl
      rw [Nat.cast_zero, zero_div, div_eq_zero_iff,
        or_iff_left qPositive.ne'] at same
      exact zero (by exact_mod_cast same)
    obtain ⟨n, e, has, nearest, rounded⟩ := exists_rounded negative top bottom
    rw [rounded]
    rw [same] at has nearest
    exact (ofFraction_of_nearest topToo positive has nearest).symm

/-- The significands and exponents of finite numbers. -/
structure Fits (significand : ℕ) (exponent : ℤ) : Prop where
  small : significand < 2 ^ 53
  least : minExponent ≤ exponent
  greatest : exponent ≤ maxExponent
  normal : 2 ^ 52 ≤ significand ∨ exponent = minExponent

theorem ofRounded_of_fits (fits : Fits s e) :
    ofRounded negative s e = .finite negative s e := by
  have small : s ≠ Nat.pow 2 precision := fits.small.ne
  rw [ofRounded, if_neg small]
  exact if_neg (not_lt.mpr fits.greatest)

theorem ofRounded_carry (fits : e ≤ maxExponent) :
    ofRounded negative (2 ^ 53) (e - 1) = .finite negative (2 ^ 52) e := by
  have carried : (2 ^ 53 : ℕ) = Nat.pow 2 precision := rfl
  rw [ofRounded, if_pos carried, sub_add_cancel]
  exact if_neg (not_lt.mpr fits)

/-- A number that is close to one of the format is rounded to it. -/
theorem ofFraction_of_close (top : 0 < p) (bottom : 0 < q) (fits : Fits s e)
    (close : |(p : ℚ) / q - s * 2 ^ e| * 2 ^ 54 < s * 2 ^ e) :
    ofFraction negative p q = .finite negative s e := by
  have unit : (0 : ℚ) < 2 ^ e := by positivity
  have small : (s : ℚ) + 1 ≤ 2 ^ 53 := by exact_mod_cast fits.small
  have significand : (s : ℚ) * 2 ^ e + 2 ^ e ≤ 2 ^ 53 * 2 ^ e := by
    rw [← add_one_mul]
    gcongr
  generalize same : (p : ℚ) / q = x at *
  have apart : |x - s * 2 ^ e| * 2 < 2 ^ e := by
    norm_num at close significand ⊢
    linarith
  obtain ⟨low, high⟩ := abs_lt.mp ((lt_div_iff₀ two_pos).mpr apart)
  by_cases above : e = minExponent ∨ 2 ^ 52 * 2 ^ e ≤ x
  · have has : HasExponent x e := ⟨fits.least, by linarith, above⟩
    rw [ofFraction_of_nearest top bottom (same.symm ▸ has)
      (same.symm ▸ nearest_of_close unit apart)]
    exact ofRounded_of_fits fits
  · -- Only the least significand has numbers below it with the next exponent.
    rw [not_or, not_le] at above
    obtain ⟨notLeast, below⟩ := above
    have least := fits.least
    obtain rfl : s = 2 ^ 52 := by
      by_contra other
      have normal := fits.normal.resolve_right notLeast
      have great : (2 : ℚ) ^ 52 + 1 ≤ s := by
        exact_mod_cast Nat.lt_of_le_of_ne normal (Ne.symm other)
      have product : ((2 : ℚ) ^ 52 + 1) * 2 ^ e ≤ s * 2 ^ e := by
        gcongr
      linarith
    have half : (2 : ℚ) ^ e = 2 ^ 1 * 2 ^ (e - 1) := by
      rw [← two_zpow_add]
      congr 1
      omega
    rw [Nat.cast_pow, Nat.cast_ofNat] at close low high
    rw [half] at close below low high unit
    have has : HasExponent x (e - 1) := by
      refine ⟨by omega, ?_, .inr ?_⟩
      · norm_num at below ⊢
        linarith
      · norm_num at low ⊢
        linarith
    have nearest : Nearest (x / 2 ^ (e - 1)) (2 ^ 53) := by
      refine nearest_of_close (by linarith) ?_
      have product : (2 : ℚ) ^ 52 * (2 ^ 1 * 2 ^ (e - 1)) =
          2 ^ 53 * 2 ^ (e - 1) := by ring
      rw [product] at close
      rw [Nat.cast_pow, Nat.cast_ofNat]
      linarith
    rw [ofFraction_of_nearest top bottom (same.symm ▸ has)
      (same.symm ▸ nearest)]
    exact ofRounded_carry fits.greatest

/-! ### Overflow -/

/-- The middle between the greatest number of the format and the next power of
two. -/
def reach : ℕ := (2 ^ 54 - 1) * 2 ^ 970

theorem reach_eq : (reach : ℚ) = (2 ^ 53 - 1 / 2) * 2 ^ maxExponent := by
  have exponent : (2 : ℚ) ^ maxExponent = 2 ^ 1 * 2 ^ (970 : ℤ) :=
    two_zpow_add 970 1
  have power : (2 : ℚ) ^ (970 : ℤ) = 2 ^ 970 := zpow_natCast 2 970
  rw [exponent, power, reach, Nat.cast_mul, Nat.cast_pow 2 970, Nat.cast_ofNat]
  generalize (2 : ℚ) ^ 970 = unit
  norm_num
  ring

/-- What is rounded has at most one bit more than the precision, and only near
the next power of two. -/
theorem Nearest.le_top (nearest : Nearest x n) (below : x < 2 ^ 53) :
    n ≤ 2 ^ 53 ∧ (n = 2 ^ 53 ↔ 2 ^ 53 - 1 / 2 ≤ x) := by
  obtain ⟨low, high⟩ := abs_le.mp nearest.near
  have top : n ≤ 2 ^ 53 := by
    have less : (n : ℚ) < (2 ^ 53 + 1 : ℕ) := by
      push_cast
      linarith
    exact Nat.lt_succ_iff.mp (by exact_mod_cast less)
  refine ⟨top, fun same => ?_, fun near => ?_⟩
  · rw [same, Nat.cast_pow, Nat.cast_ofNat] at low
    linarith
  · by_contra other
    have less : (n : ℚ) + 1 ≤ (2 ^ 53 : ℕ) := by
      exact_mod_cast Nat.lt_of_le_of_ne top other
    rw [Nat.cast_pow, Nat.cast_ofNat] at less
    -- A smaller one is nearest only as one of two, and then it is odd.
    have tie : |x - n| = 1 / 2 := by
      rw [abs_of_nonneg (by linarith)]
      linarith
    have next : n + 1 = 2 ^ 53 := by
      have exact : (n : ℚ) + 1 = (2 ^ 53 : ℕ) := by
        rw [Nat.cast_pow, Nat.cast_ofNat]
        linarith
      exact_mod_cast exact
    have even := nearest.even tie
    omega

theorem Nearest.le_normal (nearest : Nearest x n) (above : 2 ^ 52 ≤ x) :
    2 ^ 52 ≤ n := by
  obtain ⟨_, high⟩ := abs_le.mp nearest.near
  have less : ((2 ^ 52 : ℕ) : ℚ) < (n + 1 : ℕ) := by
    rw [Nat.cast_pow, Nat.cast_ofNat, Nat.cast_succ]
    linarith
  exact Nat.lt_succ_iff.mp (by exact_mod_cast less)

/-- What is rounded is a number of the format unless its exponent is too
great. -/
theorem ofRounded_cases (negative : Bool) (top : n ≤ 2 ^ 53)
    (least : minExponent ≤ e) (normal : e = minExponent ∨ 2 ^ 52 ≤ n) :
    (e < maxExponent ∨ e = maxExponent ∧ n ≠ 2 ^ 53) ∧
        (∃ s e', Fits s e' ∧ ofRounded negative n e = .finite negative s e') ∨
      (maxExponent < e ∨ e = maxExponent ∧ n = 2 ^ 53) ∧
        ofRounded negative n e = .infinite negative := by
  by_cases carry : n = 2 ^ 53
  · subst carry
    by_cases small : e < maxExponent
    · left
      have fits : Fits (2 ^ 52) (e + 1) :=
        ⟨by decide, by omega, by omega, .inl le_rfl⟩
      have carried := @ofRounded_carry negative (e + 1) fits.greatest
      rw [add_sub_cancel_right] at carried
      exact ⟨.inl small, _, _, fits, carried⟩
    · right
      refine ⟨?_, if_pos (Int.lt_add_one_iff.mpr (not_lt.mp small))⟩
      omega
  · have same : ¬ n = Nat.pow 2 precision := carry
    by_cases small : e ≤ maxExponent
    · left
      have fits : Fits n e :=
        ⟨Nat.lt_of_le_of_ne top carry, least, small, normal.symm⟩
      exact ⟨by omega, n, e, fits, ofRounded_of_fits fits⟩
    · right
      refine ⟨.inl (not_le.mp small), ?_⟩
      rw [ofRounded, if_neg same]
      exact if_pos (not_le.mp small)

private theorem zero_fits : Fits 0 minExponent :=
  ⟨by decide, le_rfl, by decide, .inr rfl⟩

/-- A fraction is rounded to a number of the format if it is below the reach of
the format, and to infinity if it is not. -/
theorem ofFraction_cases (negative : Bool) (bottom : 0 < q) :
    (p : ℚ) / q < reach ∧
        (∃ s e, Fits s e ∧ ofFraction negative p q = .finite negative s e) ∨
      (reach : ℚ) ≤ p / q ∧ ofFraction negative p q = .infinite negative := by
  have unit : (0 : ℚ) < 2 ^ maxExponent := by positivity
  rcases Nat.eq_zero_or_pos p with rfl | top
  · left
    rw [Nat.cast_zero, zero_div, reach_eq]
    refine ⟨mul_pos (by norm_num) unit, 0, minExponent, zero_fits, ?_⟩
    rw [ofFraction, if_pos rfl]
    rfl
  · obtain ⟨n, e, has, nearest, rounded⟩ := exists_rounded negative top bottom
    generalize (p : ℚ) / q = x at *
    have positive : (0 : ℚ) < 2 ^ e := by positivity
    have scaled : x / 2 ^ e < 2 ^ 53 := (div_lt_iff₀ positive).mpr has.below
    obtain ⟨least, carries⟩ := nearest.le_top scaled
    have normal : e = minExponent ∨ 2 ^ 52 ≤ n :=
      has.above.imp_right fun above =>
        nearest.le_normal ((le_div_iff₀ positive).mpr above)
    rw [rounded, reach_eq]
    rcases ofRounded_cases negative least has.least normal with
      ⟨small | ⟨rfl, notTop⟩, finite⟩ | ⟨great | ⟨rfl, isTop⟩, infinite⟩
    · left
      have step : 2 ^ 1 * (2 : ℚ) ^ e ≤ 2 ^ maxExponent := by
        rw [← two_zpow_add]
        exact two_zpow_le (by omega)
      have below := has.below
      norm_num at below step ⊢
      exact ⟨by linarith, finite⟩
    · left
      refine ⟨?_, finite⟩
      rw [← div_lt_iff₀ unit]
      exact not_le.mp (mt carries.mpr notTop)
    · right
      have step : 2 ^ 1 * (2 : ℚ) ^ maxExponent ≤ 2 ^ e := by
        rw [← two_zpow_add]
        exact two_zpow_le (by omega)
      have notLeast : e ≠ minExponent := by
        have order : minExponent ≤ maxExponent := by decide
        omega
      have above := has.above.resolve_left notLeast
      norm_num at above step ⊢
      exact ⟨by linarith, infinite⟩
    · right
      refine ⟨?_, infinite⟩
      rw [← le_div_iff₀ unit]
      exact carries.mp isTop

end Rounding

end ServerConfig.Binary64
