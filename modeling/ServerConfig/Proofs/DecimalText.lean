import Mathlib.Algebra.Group.Nat.Defs
import Mathlib.Data.List.Basic
import ServerConfig.Numeral

/-!
# Decimal text

The decimal text of a number reads back as that number.  It is the only text of
ASCII digits that does and has no needless zeros in front.
-/

namespace ServerConfig.Numeral

variable {digits : List Char} {n : Nat} {c : Char}

theorem ofAscii_eq (digits : List Char) :
    ofAscii digits = Nat.ofDigitChars 10 digits 0 := by
  rw [ofAscii, ofDigits, digitValues, List.foldl_map,
    Nat.ofDigitChars_eq_foldl]
  rfl

@[simp] theorem ofAscii_ofNat (n : Nat) : ofAscii (ofNat n) = n := by
  rw [ofAscii_eq, ofNat, Nat.ofDigitChars_ten_toDigits]

theorem ne_of_isDigit {other : Char} (digit : c.isDigit = true)
    (different : other.isDigit = false) : c ≠ other := by
  rintro rfl
  simp [different] at digit

theorem isDigit_of_mem_ofNat (member : c ∈ ofNat n) : c.isDigit = true :=
  Nat.isDigit_of_mem_toDigits (by decide) (by decide) member

theorem ofNat_ne_nil : ofNat n ≠ [] :=
  Nat.toDigits_ne_nil

/-- Only the text of zero starts with a zero. -/
theorem eq_zero_of_head_ofNat (zero : (ofNat n).head? = some '0') :
    n = 0 := by
  induction n using Nat.strongRecOn with
  | ind n ih =>
      by_cases small : n < 10
      · rw [ofNat, Nat.toDigits_of_lt_base small, List.head?_cons,
          Option.some.injEq, Nat.digitChar_eq_zero] at zero
        exact zero
      · have split : ofNat n = ofNat (n / 10) ++ [(n % 10).digitChar] :=
          Nat.toDigits_of_base_le (by decide) (by omega)
        rw [split, List.head?_append_of_ne_nil _ ofNat_ne_nil] at zero
        have shorter := ih (n / 10) (by omega) zero
        omega

theorem ofNat_plain (n : Nat) :
    ¬ ((ofNat n).head? = some '0' ∧ 1 < (ofNat n).length) := by
  rintro ⟨zero, long⟩
  rw [eq_zero_of_head_ofNat zero] at long
  exact absurd long (by decide)

theorem exists_digit_ofNat (n : Nat) :
    ∃ c later, ofNat n = c :: later ∧ c.isDigit = true := by
  cases start : ofNat n with
  | nil => exact absurd start ofNat_ne_nil
  | cons c later =>
      refine ⟨c, later, rfl, isDigit_of_mem_ofNat (n := n) ?_⟩
      rw [start]
      exact List.mem_cons_self

theorem digitChar_digit (digit : c.isDigit = true) :
    Nat.digitChar (c.toNat - 0x30) = c ∧ c.toNat - 0x30 < 10 := by
  simp only [Char.isDigit, Bool.and_eq_true, decide_eq_true_eq] at digit
  have low : 48 ≤ c.toNat := digit.1
  have high : c.toNat ≤ 57 := digit.2
  refine ⟨?_, by omega⟩
  apply Char.toNat_inj.mp
  rw [Nat.toNat_digitChar_of_lt_ten (by omega)]
  omega

/-- Digits that follow the text of a positive number belong to a greater
number. -/
theorem ofNat_append_digits (positive : 0 < n)
    (ascii : ∀ c ∈ digits, c.isDigit = true) :
    ofNat n ++ digits = ofNat (Nat.ofDigitChars 10 digits n) := by
  induction digits generalizing n with
  | nil => simp
  | cons c rest ih =>
      obtain ⟨same, small⟩ :=
        digitChar_digit (ascii c List.mem_cons_self)
      have one : ofNat n ++ [c] = ofNat (10 * n + (c.toNat - 0x30)) := by
        have appended := Nat.toDigits_append_toDigits (b := 10)
          (by decide) positive small
        rwa [Nat.toDigits_of_lt_base small, same] at appended
      calc
        ofNat n ++ c :: rest = ofNat n ++ [c] ++ rest := by simp
        _ = ofNat (10 * n + (c.toNat - 0x30)) ++ rest := by rw [one]
        _ = ofNat (Nat.ofDigitChars 10 rest (10 * n + (c.toNat - 0x30))) :=
          ih (by omega) fun c member => ascii c (List.mem_cons_of_mem _ member)
        _ = ofNat (Nat.ofDigitChars 10 (c :: rest) n) := by
          rw [Nat.ofDigitChars_cons]
          rfl

/-- Digits without needless zeros are the text of the number that they
denote. -/
theorem ofNat_ofAscii (nonempty : digits ≠ [])
    (ascii : ∀ c ∈ digits, c.isDigit = true)
    (plain : digits.head? = some '0' → digits.length = 1) :
    ofNat (ofAscii digits) = digits := by
  cases digits with
  | nil => exact (nonempty rfl).elim
  | cons c rest =>
      obtain ⟨same, small⟩ :=
        digitChar_digit (ascii c List.mem_cons_self)
      have alone : ofNat (c.toNat - 0x30) = [c] := by
        rw [ofNat, Nat.toDigits_of_lt_base small, same]
      rw [ofAscii_eq, Nat.ofDigitChars_cons, Nat.mul_zero, Nat.zero_add]
      by_cases zero : c = '0'
      · subst zero
        have last : rest = [] := by
          simpa using plain rfl
        rw [last]
        exact alone
      · have positive : 0 < c.toNat - 0x30 := by
          rw [Nat.pos_iff_ne_zero]
          intro nothing
          rw [nothing] at same
          exact zero same.symm
        have tail := ofNat_append_digits positive fun c member =>
          ascii c (List.mem_cons_of_mem _ member)
        rw [alone] at tail
        exact tail.symm

/-- The greatest number of a given number of digits. -/
theorem ofAscii_nines (count : Nat) :
    ofAscii (List.replicate count '9') + 1 = 10 ^ count := by
  induction count with
  | zero => rfl
  | succ count ih =>
      have next : ofAscii (List.replicate count '9' ++ ['9']) =
          10 * ofAscii (List.replicate count '9') + 9 := by
        simp [ofAscii, ofDigits, digitValues, List.foldl_append]
      rw [List.replicate_succ', next, Nat.pow_succ, ← ih]
      omega

end ServerConfig.Numeral

namespace ServerConfig.Text

private theorem digitChar_facts : ∀ n < 10,
    decimalValue? n.digitChar = some n ∧ isBlank n.digitChar = false ∧
      n.digitChar.toLower = n.digitChar := by
  decide +kernel

theorem digit_facts {c : Char} (digit : c.isDigit = true) :
    decimalValue? c = some (c.toNat - 0x30) ∧ isBlank c = false ∧
      c.toLower = c := by
  obtain ⟨same, small⟩ := Numeral.digitChar_digit digit
  have facts := digitChar_facts _ small
  rwa [same] at facts

end ServerConfig.Text
