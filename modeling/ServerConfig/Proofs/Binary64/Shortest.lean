import Mathlib.Data.Nat.Cast.Order.Field
import ServerConfig.Proofs.Binary64.Rounding
import ServerConfig.Proofs.DecimalText

/-!
# The shortest decimal

A number is written with the fewest decimal digits that are rounded to it.
Seventeen are always enough: they leave an error of less than a part in
`2 ^ 54`.  Main statement: the digits and the position that are found for a
positive number of the format denote a decimal that is rounded to it.
-/

namespace ServerConfig

namespace Numeral

variable {digits later : List Nat} {digit n : Nat}

theorem ofDigits_append (digits later : List Nat) :
    ofDigits (digits ++ later) =
      ofDigits digits * 10 ^ later.length + ofDigits later := by
  induction later using List.reverseRecOn with
  | nil => simp [ofDigits]
  | append_singleton later digit ih =>
      have last (list : List Nat) : ofDigits (list ++ [digit]) =
          10 * ofDigits list + digit := by
        simp [ofDigits]
      rw [← List.append_assoc, last, ih, last, List.length_append,
        List.length_singleton, Nat.pow_succ]
      ring

theorem ofDigits_cons (digit : Nat) (later : List Nat) :
    ofDigits (digit :: later) = digit * 10 ^ later.length + ofDigits later := by
  have split := ofDigits_append [digit] later
  simpa [ofDigits] using split

theorem ofDigits_lt (small : ∀ digit ∈ digits, digit < 10) :
    ofDigits digits < 10 ^ digits.length := by
  induction digits with
  | nil => exact Nat.one_pos
  | cons digit later ih =>
      rw [List.forall_mem_cons] at small
      have rest := ih small.2
      have first : (digit + 1) * 10 ^ later.length ≤ 10 * 10 ^ later.length :=
        Nat.mul_le_mul_right _ small.1
      rw [ofDigits_cons, List.length_cons, Nat.pow_succ']
      rw [Nat.add_one_mul] at first
      omega

/-- Zeros in front do not matter. -/
theorem ofDigits_dropWhile (digits : List Nat) :
    ofDigits (digits.dropWhile (· == 0)) = ofDigits digits := by
  induction digits with
  | nil => rfl
  | cons digit later ih =>
      rw [List.dropWhile_cons]
      split
      · rename_i zero
        rw [ih, ofDigits_cons, eq_of_beq zero, Nat.zero_mul, Nat.zero_add]
      · rfl

/-- A number has no fewer digits than its first digit says. -/
theorem pow_le_ofDigits (first : digit ≠ 0) :
    10 ^ later.length ≤ ofDigits (digit :: later) := by
  rw [ofDigits_cons]
  have product : 1 * 10 ^ later.length ≤ digit * 10 ^ later.length :=
    Nat.mul_le_mul_right _ (Nat.pos_of_ne_zero first)
  omega

theorem pow_le_of_length_ofNat (positive : 0 < n) :
    10 ^ ((ofNat n).length - 1) ≤ n := by
  by_contra small
  have nonempty : 0 < (ofNat n).length :=
    List.length_pos_of_ne_nil ofNat_ne_nil
  by_cases single : (ofNat n).length = 1
  · rw [single] at small
    omega
  · have shorter : (ofNat n).length ≤ (ofNat n).length - 1 :=
      (Nat.length_toDigits_le_iff (by decide) (by omega)).mpr
        (Nat.not_le.mp small)
    omega

end Numeral

namespace Binary64

variable {negative : Bool} {digits : List Nat} {s p q count length : ℕ}
  {e exponent : ℤ}

/-! ## Fractions -/

theorem fraction_value (s : ℕ) (e : ℤ) :
    0 < (fraction s e).2 ∧
      ((fraction s e).1 : ℚ) / (fraction s e).2 = s * 2 ^ e := by
  cases e with
  | ofNat e =>
      refine ⟨Nat.one_pos, ?_⟩
      rw [Int.ofNat_eq_natCast, zpow_natCast]
      simp [fraction]
  | negSucc e =>
      refine ⟨Nat.two_pow_pos (e + 1), ?_⟩
      rw [zpow_negSucc, ← div_eq_mul_inv]
      simp [fraction]

theorem gridPoint_value (count : ℕ) (exponent : ℤ) :
    0 < (gridPoint count exponent).2 ∧
      ((gridPoint count exponent).1 : ℚ) / (gridPoint count exponent).2 =
        count * 10 ^ exponent := by
  cases exponent with
  | ofNat e =>
      refine ⟨Nat.one_pos, ?_⟩
      rw [Int.ofNat_eq_natCast, zpow_natCast]
      simp [gridPoint]
  | negSucc e =>
      refine ⟨Nat.pow_pos (by decide), ?_⟩
      rw [zpow_negSucc, ← div_eq_mul_inv]
      simp [gridPoint]

theorem inGridUnits_value (positive : 0 < q) (exponent : ℤ) :
    0 < (inGridUnits p q exponent).2 ∧
      ((inGridUnits p q exponent).1 : ℚ) / (inGridUnits p q exponent).2 =
        p / q / 10 ^ exponent := by
  cases exponent with
  | ofNat e =>
      refine ⟨Nat.mul_pos positive (Nat.pow_pos (by decide)), ?_⟩
      rw [Int.ofNat_eq_natCast, zpow_natCast, div_div]
      simp [inGridUnits]
  | negSucc e =>
      refine ⟨positive, ?_⟩
      rw [zpow_negSucc, div_inv_eq_mul, div_mul_eq_mul_div]
      simp [inGridUnits]

private theorem ofRounded_sign {n : ℕ}
    (finite : ofRounded false n exponent = .finite false s e) :
    ofRounded negative n exponent = .finite negative s e := by
  unfold ofRounded at finite ⊢
  generalize (if n = Nat.pow 2 precision then
      (Nat.pow 2 (precision - 1), exponent + 1)
    else (n, exponent)) = rounded at finite ⊢
  obtain ⟨significand, exponent⟩ := rounded
  dsimp only at finite ⊢
  by_cases great : maxExponent < exponent
  · rw [if_pos great] at finite
    cases finite
  · rw [if_neg great] at finite ⊢
    cases finite
    rfl

/-- The sign takes no part in rounding. -/
theorem ofFraction_sign (bottom : 0 < q)
    (finite : ofFraction false p q = .finite false s e) :
    ofFraction negative p q = .finite negative s e := by
  rcases Nat.eq_zero_or_pos p with rfl | top
  · rw [ofFraction, if_pos rfl, zeroOf] at finite ⊢
    cases finite
    rfl
  · obtain ⟨n, exponent, has, nearest, rounded⟩ :=
      exists_rounded false top bottom
    rw [ofFraction_of_nearest top bottom has nearest]
    exact ofRounded_sign (rounded.symm.trans finite)

/-! ## Decimals -/

/-- The first digit of a decimal and the number of its digits tell its size. -/
theorem decimal_bounds {digit : ℕ} {later : List ℕ} (nonzero : digit ≠ 0)
    (small : ∀ other ∈ digit :: later, other < 10) (exponent : ℤ) :
    (10 : ℚ) ^ ((later.length : ℤ) + exponent) ≤
        Numeral.ofDigits (digit :: later) * 10 ^ exponent ∧
      (Numeral.ofDigits (digit :: later) : ℚ) * 10 ^ exponent <
        10 ^ (((digit :: later).length : ℤ) + exponent) := by
  have least := @Numeral.pow_le_ofDigits later _ nonzero
  have greatest := Numeral.ofDigits_lt small
  rw [zpow_add₀ (by norm_num), zpow_add₀ (by norm_num), zpow_natCast,
    zpow_natCast]
  constructor <;> gcongr
  · exact_mod_cast least
  · exact_mod_cast greatest

/-- A decimal is rounded as the fraction that it is, unless it is far too great
or far too small. -/
theorem ofDecimal_eq (small : ∀ digit ∈ digits, digit < 10) (positive : 0 < q)
    (same : (Numeral.ofDigits digits : ℚ) * 10 ^ exponent = p / q)
    (low : (10 : ℚ) ^ (-decimalReach) ≤ p / q)
    (high : (p : ℚ) / q < 10 ^ decimalReach) :
    ofDecimal negative digits exponent = ofFraction negative p q := by
  rw [← same, ← Numeral.ofDigits_dropWhile] at low high
  rw [← Numeral.ofDigits_dropWhile] at same
  have smaller : ∀ digit ∈ digits.dropWhile (· == 0), digit < 10 :=
    fun digit member => small digit (List.dropWhile_subset _ member)
  have first := List.head?_dropWhile_not (· == 0) digits
  unfold ofDecimal
  dsimp only
  generalize digits.dropWhile (· == 0) = significant at *
  cases significant with
  | nil =>
      rw [Numeral.ofDigits, List.foldl_nil, Nat.cast_zero, zero_mul] at low
      exact absurd low (not_le.mpr (by positivity))
  | cons digit later =>
      have nonzero : digit ≠ 0 := by simpa using first
      obtain ⟨least, greatest⟩ := decimal_bounds nonzero smaller exponent
      have one_lt_ten : (1 : ℚ) < 10 := by norm_num
      have notGreat : ¬ decimalReach <
          ((digit :: later).length : ℤ) + exponent := by
        have order := (zpow_lt_zpow_iff_right₀ one_lt_ten).mp
          (least.trans_lt high)
        rw [List.length_cons, Nat.cast_succ]
        omega
      have notSmall : ¬ ((digit :: later).length : ℤ) + exponent <
          -decimalReach := by
        have order := (zpow_lt_zpow_iff_right₀ one_lt_ten).mp
          (low.trans_lt greatest)
        omega
      rw [List.isEmpty_cons, if_neg Bool.false_ne_true, if_neg notGreat,
        if_neg notSmall]
      obtain ⟨bottom, point⟩ :=
        gridPoint_value (Numeral.ofDigits (digit :: later)) exponent
      rw [← ofFraction_congr bottom positive (point.trans same)]
      cases exponent <;> rfl

/-! ## Seventeen digits -/

/-- The digits of the integer part of a multiple by a power of ten tell the size
of a fraction. -/
theorem pow_digits_le (bottom : 0 < q) (places : ℕ)
    (one : 1 ≤ (p : ℚ) / q * 10 ^ places) :
    (10 : ℚ) ^ (((Numeral.ofNat (p * Nat.pow 10 places / q)).length : ℤ) -
      places - 1) ≤ p / q := by
  have unit : (0 : ℚ) < q := by exact_mod_cast bottom
  have power : ((Nat.pow 10 places : ℕ) : ℚ) = 10 ^ places :=
    Nat.cast_pow 10 places
  have scaled : ((p * Nat.pow 10 places : ℕ) : ℚ) / q =
      p / q * 10 ^ places := by
    rw [Nat.cast_mul, power, mul_div_right_comm]
  generalize p * Nat.pow 10 places = top at scaled ⊢
  have counted : 0 < top / q := by
    apply Nat.div_pos _ bottom
    rw [← scaled, le_div_iff₀ unit, one_mul] at one
    exact_mod_cast one
  have nonempty : 0 < (Numeral.ofNat (top / q)).length :=
    List.length_pos_of_ne_nil Numeral.ofNat_ne_nil
  have digits := Numeral.pow_le_of_length_ofNat counted
  generalize (Numeral.ofNat (top / q)).length = length at *
  have whole : (10 : ℚ) ^ (length - 1) ≤ p / q * 10 ^ places :=
    calc
      (10 : ℚ) ^ (length - 1) ≤ (top / q : ℕ) := by exact_mod_cast digits
      _ ≤ top / q := Nat.cast_div_le
      _ = p / q * 10 ^ places := scaled
  have exponent : (length : ℤ) - places - 1 =
      ((length - 1 : ℕ) : ℤ) - places := by
    omega
  rw [exponent, zpow_sub₀ (by norm_num), zpow_natCast, zpow_natCast,
    div_le_iff₀ (by positivity)]
  exact whole

private theorem one_le_scaled (fits : Fits s e) (positive : 0 < s) :
    (1 : ℚ) ≤ s * 2 ^ e * 10 ^ leastPlace := by
  have least : (2 : ℚ) ^ minExponent ≤ 2 ^ e := two_zpow_le fits.least
  have enough : (2 : ℚ) ^ 1074 ≤ 10 ^ leastPlace := by
    have natural : 2 ^ 1074 ≤ 10 ^ leastPlace := by
      decide +kernel
    exact_mod_cast natural
  have one : (1 : ℚ) ≤ s := by exact_mod_cast positive
  have unit : (0 : ℚ) < 2 ^ minExponent := by positivity
  have inverse : (2 : ℚ) ^ minExponent * 2 ^ 1074 = 1 := by
    rw [minExponent, ← zpow_natCast, ← zpow_add₀ two_ne_zero]
    norm_num
  have nonneg : (0 : ℚ) ≤ 2 ^ 1074 := by positivity
  generalize (2 : ℚ) ^ 1074 = great at *
  generalize (10 : ℚ) ^ leastPlace = greater at *
  generalize (2 : ℚ) ^ minExponent = small at *
  calc
    (1 : ℚ) = 1 * (small * great) := by rw [inverse, one_mul]
    _ ≤ s * (2 ^ e * greater) := by gcongr
    _ = s * 2 ^ e * greater := by ring

/-- A positive number of the format has a digit in the place that the position
of its point tells. -/
theorem pow_pointPosition_le (fits : Fits s e) (positive : 0 < s) :
    (10 : ℚ) ^ (pointPosition (fraction s e).1 (fraction s e).2 - 1) ≤
      s * 2 ^ e := by
  obtain ⟨bottom, value⟩ := fraction_value s e
  have one := one_le_scaled fits positive
  rw [← value] at one ⊢
  exact pow_digits_le bottom leastPlace one

/-- In units of a decimal place that is small enough, the nearest integer is
rounded to the number. -/
theorem roundsTo_nearest (fits : Fits s e) (positive : 0 < s)
    (place : (10 : ℚ) ^ (exponent + 16) ≤ s * 2 ^ e)
    (nearest : Nearest (s * 2 ^ e / 10 ^ exponent) count) :
    roundsTo s e (gridPoint count exponent).1 (gridPoint count exponent).2 =
      true := by
  obtain ⟨bottom, value⟩ := gridPoint_value count exponent
  have unit : (0 : ℚ) < 10 ^ exponent := by positivity
  rw [zpow_add₀ (by norm_num)] at place
  have near : |(s : ℚ) * 2 ^ e - count * 10 ^ exponent| * 2 ≤
      10 ^ exponent := by
    have half := nearest.near
    rw [div_sub' unit.ne', abs_div, abs_of_pos unit,
      div_le_div_iff₀ unit two_pos, one_mul, mul_comm (10 ^ exponent)] at half
    exact half
  have close : |(count : ℚ) * 10 ^ exponent - s * 2 ^ e| * 2 ^ 54 <
      s * 2 ^ e := by
    rw [abs_sub_comm]
    generalize (s : ℚ) * 2 ^ e = x at *
    generalize (10 : ℚ) ^ exponent = ten at *
    norm_num at place ⊢
    linarith
  have top : 0 < (gridPoint count exponent).1 := by
    rw [Nat.pos_iff_ne_zero]
    intro zero
    rw [zero, Nat.cast_zero, zero_div] at value
    rw [← value, zero_sub, abs_neg, abs_of_pos (by positivity)] at close
    have number : (0 : ℚ) < s * 2 ^ e := by positivity
    linarith
  rw [roundsTo, beq_iff_eq]
  rw [← value] at close
  exact ofFraction_of_close top bottom fits close

theorem roundsTo_of_shortestOfLength?
    (found : shortestOfLength? s e length = some count) :
    let unit := pointPosition (fraction s e).1 (fraction s e).2 - length
    roundsTo s e (gridPoint count unit).1 (gridPoint count unit).2 = true := by
  rw [shortestOfLength?] at found
  have rounds := List.find?_some found
  exact rounds

/-- Seventeen digits are enough for every number of the format. -/
theorem shortestOfLength?_seventeen (fits : Fits s e) (positive : 0 < s) :
    shortestOfLength? s e 17 ≠ none := by
  rw [shortestOfLength?]
  intro none
  have rounds := List.find?_eq_none.mp none _ List.mem_cons_self
  obtain ⟨bottom, value⟩ := fraction_value s e
  have place := pow_pointPosition_le fits positive
  generalize pointPosition (fraction s e).1 (fraction s e).2 = position at *
  obtain ⟨unit, units⟩ :=
    @inGridUnits_value (fraction s e).1 _ bottom (position - 17)
  have nearest := @nearest_divNearest
    (inGridUnits (fraction s e).1 (fraction s e).2 (position - 17)).1 _ unit
  rw [units, value] at nearest
  have exponent : position - 1 = position - 17 + 16 := by ring
  rw [exponent] at place
  exact rounds (roundsTo_nearest fits positive place nearest)

theorem le_pointPosition (p q : ℕ) : -323 ≤ pointPosition p q := by
  have nonempty :
      0 < (Numeral.ofNat (p * Nat.pow 10 leastPlace / q)).length :=
    List.length_pos_of_ne_nil Numeral.ofNat_ne_nil
  have places : leastPlace = 324 := rfl
  rw [pointPosition]
  omega

/-- What is rounded to a positive number is no zero. -/
theorem count_pos (positive : 0 < s)
    (rounds : roundsTo s e (gridPoint count exponent).1
      (gridPoint count exponent).2 = true) : 0 < count := by
  rw [Nat.pos_iff_ne_zero]
  rintro rfl
  have zero : (gridPoint 0 exponent).1 = 0 := by
    cases exponent with
    | ofNat => exact Nat.zero_mul _
    | negSucc => rfl
  rw [roundsTo, beq_iff_eq, zero, ofFraction, if_pos rfl] at rounds
  cases rounds
  exact absurd positive (Nat.lt_irrefl 0)

/-- The digits that are found, in the places that are found, make a decimal
that is rounded to the number. -/
theorem exists_shortest (fits : Fits s e) (positive : 0 < s) :
    ∃ (count : ℕ) (exponent : ℤ), 0 < count ∧ -340 ≤ exponent ∧
      roundsTo s e (gridPoint count exponent).1
        (gridPoint count exponent).2 = true ∧
      shortest s e =
        (Numeral.ofNat count, exponent + (Numeral.ofNat count).length) := by
  rw [shortest]
  dsimp only
  cases search : (List.range 17).findSome? _ with
  | none =>
      have last := List.findSome?_eq_none_iff.mp search 16 (by decide)
      rw [Option.map_eq_none_iff] at last
      exact (shortestOfLength?_seventeen fits positive last).elim
  | some found =>
      obtain ⟨k, within, mapped⟩ := List.exists_of_findSome?_eq_some search
      obtain ⟨count, found, rfl⟩ := Option.map_eq_some_iff.mp mapped
      have rounds := roundsTo_of_shortestOfLength? found
      have least := le_pointPosition (fraction s e).1 (fraction s e).2
      have short := List.mem_range.mp within
      refine ⟨count, _, count_pos positive rounds, ?_, rounds, ?_⟩
      · omega
      · rw [Option.getD_some]
        congr 1
        ring

end Binary64

end ServerConfig
