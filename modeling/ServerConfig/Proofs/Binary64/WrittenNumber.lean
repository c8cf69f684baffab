import ServerConfig.Proofs.Binary64.Shortest
import ServerConfig.Proofs.Text.Trimming

/-!
# The text of a floating-point number

A text in positional or scientific notation has an integer part and a fraction,
an exponent, or both.  Digits without the zeros at their end denote the same
decimal in either notation.  Main statement: the text of a finite number has
such parts, and the decimal that they denote is rounded to that number.
-/

namespace ServerConfig

namespace Numeral

theorem ofAscii_append (digits later : List Char) :
    ofAscii (digits ++ later) =
      ofAscii digits * 10 ^ later.length + ofAscii later := by
  rw [ofAscii, digitValues, List.map_append, ofDigits_append, List.length_map]
  rfl

@[simp] theorem ofAscii_zeros (count : Nat) :
    ofAscii (List.replicate count '0') = 0 := by
  induction count with
  | zero => rfl
  | succ count ih =>
      rw [List.replicate_succ', ofAscii_append, ih]
      rfl

theorem digitValues_lt {digits : List Char}
    (ascii : ∀ c ∈ digits, c.isDigit = true) :
    ∀ digit ∈ digitValues digits, digit < 10 := by
  intro digit member
  obtain ⟨c, given, rfl⟩ := List.mem_map.mp member
  exact (digitChar_digit (ascii c given)).2

end Numeral

namespace Binary64

/-! ## Notation -/

/-- The parts of a number in positional or scientific notation. -/
structure Parts where
  whole : List Char
  fraction : Option (List Char)
  power : Option Int

namespace Parts

/-- The text of a fraction with the point before it. -/
def fractionText : Option (List Char) → List Char
  | none => []
  | some digits => '.' :: digits

/-- The text of an exponent. -/
def exponentText : Option Int → List Char
  | none => []
  | some power => powerText power

/-- The text that the parts make up. -/
def toChars (parts : Parts) : List Char :=
  parts.whole ++ (fractionText parts.fraction ++ exponentText parts.power)

/-- The digits on both sides of the point. -/
def digits (parts : Parts) : List Char :=
  parts.whole ++ parts.fraction.getD []

/-- The power of ten by which the digits are scaled. -/
def scale (parts : Parts) : Int :=
  parts.power.getD 0 - (parts.fraction.getD []).length

/-- The decimal that the parts denote. -/
def value (parts : Parts) : ℚ :=
  Numeral.ofAscii parts.digits * 10 ^ parts.scale

/-- Parts of a number that is no integer in writing: there is a fraction or an
exponent, and no needless zero in front. -/
structure WellFormed (parts : Parts) : Prop where
  ascii : ∀ c ∈ parts.digits, c.isDigit = true
  nonempty : parts.whole ≠ []
  plain : parts.whole.head? = some '0' → parts.whole.length = 1
  short : parts.whole.length ≤ 16
  fraction : parts.fraction ≠ some []
  marked : parts.fraction ≠ none ∨ parts.power ≠ none

end Parts

section Notation

variable {first : Char} {later : List Char} {position : Int}

/-- Only zeros at the end of digits are dropped. -/
theorem exists_zeros (digits : List Char) :
    ∃ count, dropTrailingZeros digits ++ List.replicate count '0' = digits := by
  have zeros : digits.reverse.takeWhile (· == '0') =
      List.replicate (digits.reverse.takeWhile (· == '0')).length '0' := by
    refine List.eq_replicate_of_mem fun c member => ?_
    have same := List.mem_takeWhile_imp member
    exact eq_of_beq same
  refine ⟨(digits.reverse.takeWhile (· == '0')).length, ?_⟩
  rw [dropTrailingZeros, Text.dropEndWhile, ← List.reverse_replicate, ← zeros,
    ← List.reverse_append, List.takeWhile_append_dropWhile,
    List.reverse_reverse]

/-- A number below one has an integer part of zero, and the zeros after the
point are part of the fraction. -/
theorem exists_positional_small
    (ascii : ∀ c ∈ first :: later, c.isDigit = true) (small : position ≤ 0) :
    ∃ parts : Parts, positional (first :: later) position = parts.toChars ∧
      parts.WellFormed ∧
      parts.value = Numeral.ofAscii (first :: later) *
        10 ^ (position - (first :: later).length) := by
  refine ⟨⟨['0'], some (List.replicate (-position).toNat '0' ++
    first :: later), none⟩, ?_, ?_, ?_⟩
  · rw [positional, if_pos small]
    simp [Parts.toChars, Parts.fractionText, Parts.exponentText]
  · constructor
    case ascii =>
      intro c member
      rw [Parts.digits, Option.getD_some, List.mem_append, List.mem_append,
        List.mem_singleton] at member
      rcases member with rfl | zero | digit
      · rfl
      · rw [List.eq_of_mem_replicate zero]
        rfl
      · exact ascii c digit
    case nonempty => exact List.cons_ne_nil _ _
    case plain => exact fun _ => rfl
    case short => simp
    case fraction => simp
    case marked => exact .inl nofun
  · have digits : Numeral.ofAscii ('0' ::
        (List.replicate (-position).toNat '0' ++ first :: later)) =
        Numeral.ofAscii (first :: later) := by
      rw [← List.cons_append, ← List.replicate_succ, Numeral.ofAscii_append,
        Numeral.ofAscii_zeros, Nat.zero_mul, Nat.zero_add]
    have scale : (0 : ℤ) - (List.replicate (-position).toNat '0' ++
        first :: later).length = position - (first :: later).length := by
      rw [List.length_append, List.length_replicate]
      omega
    rw [Parts.value, Parts.scale, Parts.digits]
    simp only [Option.getD_some, Option.getD_none, scale]
    rw [List.singleton_append, digits]

/-- Digits that end before the point are filled up with zeros, and one zero
follows the point. -/
theorem exists_positional_filled {count : ℕ}
    (ascii : ∀ c ∈ first :: later, c.isDigit = true) (nonzero : first ≠ '0')
    (short : (first :: later).length ≤ count) (within : count ≤ 16) :
    ∃ parts : Parts, positional (first :: later) count = parts.toChars ∧
      parts.WellFormed ∧
      parts.value = Numeral.ofAscii (first :: later) *
        10 ^ ((count : ℤ) - (first :: later).length) := by
  obtain ⟨zeros, rfl⟩ := Nat.exists_eq_add_of_le short
  have length : (first :: later ++ List.replicate zeros '0').length =
      (first :: later).length + zeros := by
    rw [List.length_append, List.length_replicate]
  have great : ¬ (((first :: later).length + zeros : ℕ) : ℤ) ≤ 0 := by
    rw [List.length_cons]
    omega
  refine ⟨⟨first :: later ++ List.replicate zeros '0', some ['0'], none⟩, ?_,
    ?_, ?_⟩
  · rw [positional, if_neg great]
    simp only [Int.toNat_natCast, Nat.add_sub_cancel_left]
    rw [← length, List.take_length, List.drop_length]
    rfl
  · constructor
    case ascii =>
      intro c member
      simp only [Parts.digits, Option.getD_some, List.append_assoc,
        List.mem_append, List.mem_singleton] at member
      rcases member with digit | zero | rfl
      · exact ascii c digit
      · rw [List.eq_of_mem_replicate zero]
        rfl
      · rfl
    case nonempty => exact List.cons_ne_nil _ _
    case plain => exact fun zero => (nonzero (Option.some.inj zero)).elim
    case short => rw [length]; exact within
    case fraction => exact nofun
    case marked => exact .inl nofun
  · have digits : Numeral.ofAscii (first :: later ++
        List.replicate zeros '0' ++ ['0']) =
        Numeral.ofAscii (first :: later) * 10 ^ zeros * 10 := by
      rw [Numeral.ofAscii_append, Numeral.ofAscii_append,
        Numeral.ofAscii_zeros, List.length_replicate]
      rfl
    rw [Parts.value, Parts.scale, Parts.digits]
    simp only [Option.getD_some, Option.getD_none, digits]
    have scale : (((first :: later).length + zeros : ℕ) : ℤ) -
        (first :: later).length = zeros := by
      omega
    rw [scale, zpow_natCast]
    simp

/-- Digits that go on behind the point are divided by it. -/
theorem exists_positional_divided {count : ℕ}
    (ascii : ∀ c ∈ first :: later, c.isDigit = true) (nonzero : first ≠ '0')
    (positive : 0 < count) (long : count < (first :: later).length)
    (within : count ≤ 16) :
    ∃ parts : Parts, positional (first :: later) count = parts.toChars ∧
      parts.WellFormed ∧
      parts.value = Numeral.ofAscii (first :: later) *
        10 ^ ((count : ℤ) - (first :: later).length) := by
  have behind : (first :: later).drop count ≠ [] := by
    rw [ne_eq, List.drop_eq_nil_iff]
    exact Nat.not_le.mpr long
  refine ⟨⟨(first :: later).take count, some ((first :: later).drop count),
    none⟩, ?_, ?_, ?_⟩
  · have great : ¬ (count : ℤ) ≤ 0 := by omega
    rw [positional, if_neg great]
    simp only [Int.toNat_natCast, Nat.sub_eq_zero_of_le long.le,
      List.replicate_zero, List.append_nil]
    rw [if_neg (by simpa using behind)]
    simp [Parts.toChars, Parts.fractionText, Parts.exponentText]
  · constructor
    case ascii =>
      intro c member
      rw [Parts.digits, Option.getD_some, List.take_append_drop] at member
      exact ascii c member
    case nonempty =>
      rw [ne_eq, List.take_eq_nil_iff, not_or]
      exact ⟨positive.ne', List.cons_ne_nil _ _⟩
    case plain =>
      obtain ⟨count, rfl⟩ := Nat.exists_eq_succ_of_ne_zero positive.ne'
      exact fun zero => (nonzero (Option.some.inj zero)).elim
    case short =>
      rw [List.length_take]
      omega
    case fraction => exact fun empty => behind (Option.some.inj empty)
    case marked => exact .inl nofun
  · have scale : (0 : ℤ) - ((first :: later).drop count).length =
        count - (first :: later).length := by
      rw [List.length_drop]
      omega
    rw [Parts.value, Parts.scale, Parts.digits]
    simp only [Option.getD_some, Option.getD_none, List.take_append_drop,
      scale]

theorem exists_positional (ascii : ∀ c ∈ first :: later, c.isDigit = true)
    (nonzero : first ≠ '0') (near : position ≤ 16) :
    ∃ parts : Parts, positional (first :: later) position = parts.toChars ∧
      parts.WellFormed ∧
      parts.value = Numeral.ofAscii (first :: later) *
        10 ^ (position - (first :: later).length) := by
  rcases Int.lt_or_le 0 position with great | small
  · obtain ⟨count, rfl⟩ := Int.eq_ofNat_of_zero_le great.le
    rcases Nat.lt_or_ge count (first :: later).length with long | short
    · exact exists_positional_divided ascii nonzero (by omega) long (by omega)
    · exact exists_positional_filled ascii nonzero short (by omega)
  · exact exists_positional_small ascii small

theorem exists_scientific (ascii : ∀ c ∈ first :: later, c.isDigit = true)
    (position : Int) :
    ∃ parts : Parts, scientific (first :: later) position = parts.toChars ∧
      parts.WellFormed ∧
      parts.value = Numeral.ofAscii (first :: later) *
        10 ^ (position - (first :: later).length) := by
  cases later with
  | nil =>
      refine ⟨⟨[first], none, some (position - 1)⟩, rfl, ?_, ?_⟩
      · exact ⟨ascii, List.cons_ne_nil _ _, fun _ => rfl, by simp, nofun,
          .inr nofun⟩
      · simp [Parts.value, Parts.digits, Parts.scale]
  | cons second rest =>
      refine ⟨⟨[first], some (second :: rest), some (position - 1)⟩, rfl, ?_,
        ?_⟩
      · exact ⟨ascii, List.cons_ne_nil _ _, fun _ => rfl, by simp, nofun,
          .inl nofun⟩
      · have scale : position - 1 - ((second :: rest).length : ℤ) =
            position - (first :: second :: rest).length := by
          simp only [List.length_cons]
          omega
        rw [← scale]
        rfl

end Notation

section Written

variable {negative : Bool} {s count : ℕ} {e exponent : ℤ}

/-- The digits of a positive number without the zeros at their end denote the
same decimal in the same places. -/
theorem exists_digits (positive : 0 < count) (exponent : ℤ) :
    ∃ first later, dropTrailingZeros (Numeral.ofNat count) = first :: later ∧
      (∀ c ∈ first :: later, c.isDigit = true) ∧ first ≠ '0' ∧
      (Numeral.ofAscii (first :: later) : ℚ) *
          10 ^ (exponent + (Numeral.ofNat count).length -
            (first :: later).length) =
        count * 10 ^ exponent := by
  obtain ⟨zeros, whole⟩ := exists_zeros (Numeral.ofNat count)
  have number := Numeral.ofAscii_ofNat count
  rw [← whole, Numeral.ofAscii_append, Numeral.ofAscii_zeros,
    List.length_replicate, Nat.add_zero] at number
  cases kept : dropTrailingZeros (Numeral.ofNat count) with
  | nil =>
      rw [kept] at number
      exact absurd number (by simpa [Numeral.ofAscii, Numeral.ofDigits,
        Numeral.digitValues] using positive.ne)
  | cons first later =>
      rw [kept] at whole number
      refine ⟨first, later, rfl, fun c member => ?_, ?_, ?_⟩
      · apply @Numeral.isDigit_of_mem_ofNat count
        rw [← whole]
        exact List.mem_append_left _ member
      · rintro rfl
        have nothing := @Numeral.eq_zero_of_head_ofNat count
        rw [← whole] at nothing
        exact positive.ne' (nothing rfl)
      · have place : exponent + (Numeral.ofNat count).length -
            (first :: later).length = exponent + zeros := by
          rw [← whole, List.length_append, List.length_replicate]
          omega
        rw [place, zpow_add₀ (by norm_num), zpow_natCast, ← number,
          Nat.cast_mul, Nat.cast_pow, Nat.cast_ofNat]
        ring

theorem reach_lt : (reach : ℚ) < 10 ^ decimalReach := by
  have natural : reach < 10 ^ decimalReach.toNat := by
    decide +kernel
  have same : ((decimalReach.toNat : ℕ) : ℤ) = decimalReach := by
    decide
  rw [← same, zpow_natCast]
  exact_mod_cast natural

/-- The parts of the text of a positive number denote a decimal that is rounded
to it. -/
theorem exists_parts_of_pos (fits : Fits s e) (positive : 0 < s)
    (negative : Bool) :
    ∃ parts : Parts,
      toText (.finite negative s e) =
        (if negative then '-' :: parts.toChars else parts.toChars) ∧
      parts.WellFormed ∧
      ofDecimal negative (Numeral.digitValues parts.digits) parts.scale =
        .finite negative s e := by
  obtain ⟨count, exponent, counted, least, rounds, found⟩ :=
    exists_shortest fits positive
  obtain ⟨first, later, kept, ascii, nonzero, value⟩ :=
    exists_digits counted exponent
  obtain ⟨bottom, point⟩ := gridPoint_value count exponent
  rw [roundsTo, beq_iff_eq] at rounds
  have written : ∃ parts : Parts,
      toText (.finite negative s e) =
        (if negative then '-' :: parts.toChars else parts.toChars) ∧
      parts.WellFormed ∧ parts.value = count * 10 ^ exponent := by
    rw [toText, if_neg positive.ne', found]
    dsimp only
    rw [kept]
    generalize exponent + (Numeral.ofNat count).length = position at value ⊢
    have body : ∃ parts : Parts,
        (if (decide (-4 < position) && decide (position ≤ 16)) = true then
          positional (first :: later) position
        else scientific (first :: later) position) = parts.toChars ∧
        parts.WellFormed ∧ parts.value = count * 10 ^ exponent := by
      rw [← value]
      split
      · rename_i near
        rw [Bool.and_eq_true, decide_eq_true_eq, decide_eq_true_eq] at near
        exact exists_positional ascii nonzero near.2
      · exact exists_scientific ascii position
    obtain ⟨parts, same, facts⟩ := body
    exact ⟨parts, by rw [same], facts⟩
  obtain ⟨parts, text, wellFormed, decimal⟩ := written
  have low : (10 : ℚ) ^ (-decimalReach) ≤ count * 10 ^ exponent := by
    have one : (1 : ℚ) ≤ count := by exact_mod_cast counted
    have order : -decimalReach ≤ exponent := by
      have bound : decimalReach = 400 := rfl
      omega
    calc
      (10 : ℚ) ^ (-decimalReach) ≤ 10 ^ exponent :=
        zpow_le_zpow_right₀ (by norm_num) order
      _ = 1 * 10 ^ exponent := (one_mul _).symm
      _ ≤ count * 10 ^ exponent := by gcongr
  have high : (count : ℚ) * 10 ^ exponent < 10 ^ decimalReach := by
    rw [← point]
    rcases ofFraction_cases false bottom with ⟨small, _⟩ | ⟨_, infinite⟩
    · exact small.trans reach_lt
    · rw [rounds] at infinite
      cases infinite
  rw [← point] at low high decimal
  refine ⟨parts, text, wellFormed, ?_⟩
  rw [ofDecimal_eq (Numeral.digitValues_lt wellFormed.ascii) bottom decimal
    low high]
  exact ofFraction_sign bottom rounds

/-- The text of a finite number has parts, and the decimal that they denote is
rounded to the number. -/
theorem exists_parts (fits : Fits s e) (negative : Bool) :
    ∃ parts : Parts,
      toText (.finite negative s e) =
        (if negative then '-' :: parts.toChars else parts.toChars) ∧
      parts.WellFormed ∧
      ofDecimal negative (Numeral.digitValues parts.digits) parts.scale =
        .finite negative s e := by
  rcases Nat.eq_zero_or_pos s with rfl | positive
  · obtain rfl : e = minExponent :=
      fits.normal.resolve_left (by decide)
    refine ⟨⟨['0'], some ['0'], none⟩, rfl, ?_, rfl⟩
    exact ⟨List.all_eq_true.mp rfl, List.cons_ne_nil _ _, fun _ => rfl,
      by decide, nofun, .inl nofun⟩
  · exact exists_parts_of_pos fits positive negative

end Written

end Binary64

end ServerConfig
