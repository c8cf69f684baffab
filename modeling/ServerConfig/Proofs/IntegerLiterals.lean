import ServerConfig.Decoding
import ServerConfig.Proofs.LenientText

/-!
# Integer literals

The text of a variable for a number has to be a literal to base ten, although
the reader that it is then handed to accepts other texts as well.  `IsLiteral`
is the grammar, with the integer that a literal denotes by the places of its
digits.  Main statement: exactly the literals are decoded, as the integers that
they denote.
-/

namespace ServerConfig

namespace Numeral

/-- Digits behind at most one sign, and their value to base ten. -/
inductive IsLiteral : List Char → Int → Prop
  | unsigned {digits : List Char} (ascii : IsDigits digits) :
      IsLiteral digits (Nat.ofDigitChars 10 digits 0)
  | plus {digits : List Char} (ascii : IsDigits digits) :
      IsLiteral ('+' :: digits) (Nat.ofDigitChars 10 digits 0)
  | minus {digits : List Char} (ascii : IsDigits digits) :
      IsLiteral ('-' :: digits) (-(Nat.ofDigitChars 10 digits 0 : Int))

variable {digits text : List Char} {n : Int}

theorem IsDigits.cutSign (ascii : IsDigits digits) :
    cutSign digits = (false, digits) := by
  have unsigned := cutSign_withMinus ascii false []
  rwa [List.append_nil] at unsigned

/-- A literal is digits behind the sign that is cut off. -/
theorem isLiteral_iff :
    IsLiteral text n ↔
      IsDigits (cutSign text).2 ∧
        n = signed (cutSign text).1 (ofAscii (cutSign text).2) := by
  constructor
  · intro literal
    cases literal with
    | unsigned ascii =>
        rw [ascii.cutSign]
        exact ⟨ascii, congrArg Int.ofNat (ofAscii_eq _).symm⟩
    | plus ascii => exact ⟨ascii, congrArg Int.ofNat (ofAscii_eq _).symm⟩
    | minus ascii =>
        exact ⟨ascii, congrArg (fun value : Nat => -(value : Int))
          (ofAscii_eq _).symm⟩
  · rintro ⟨ascii, rfl⟩
    rw [ofAscii_eq]
    unfold Numeral.cutSign at ascii ⊢
    split at ascii
    · exact .plus ascii
    · exact .minus ascii
    · exact .unsigned ascii

theorem isLiteral_ofInt (n : Int) : IsLiteral (ofInt n) n := by
  cases n with
  | ofNat value =>
      have literal := IsLiteral.unsigned (isDigits_ofNat value)
      rwa [ofNat, Nat.ofDigitChars_ten_toDigits] at literal
  | negSucc value =>
      have literal := IsLiteral.minus (isDigits_ofNat (value + 1))
      rwa [ofNat, Nat.ofDigitChars_ten_toDigits] at literal

/-- Digits are at least as many as their number needs. -/
theorem length_ofNat_ofAscii_le (ascii : IsDigits digits) :
    (ofNat (ofAscii digits)).length ≤ digits.length := by
  induction digits with
  | nil => exact absurd rfl ascii.nonempty
  | cons c rest ih =>
      by_cases zero : c = '0'
      · subst zero
        change (ofNat (ofAscii rest)).length ≤ _
        by_cases last : rest = []
        · subst last
          decide
        · have later : IsDigits rest :=
            ⟨last, fun c member => ascii.ascii c (List.mem_cons_of_mem _ member)⟩
          exact (ih later).trans (Nat.le_succ _)
      · rw [ofNat_ofAscii ascii.nonempty ascii.ascii (by simp [zero])]

theorem IsLiteral.length_natAbs_le (literal : IsLiteral text n) :
    (ofNat n.natAbs).length ≤ text.length := by
  obtain ⟨ascii, rfl⟩ := isLiteral_iff.mp literal
  rw [natAbs_signed]
  exact (length_ofNat_ofAscii_le ascii).trans (suffix_cutSign text).length_le

end Numeral

namespace Decoding

open Numeral

variable {digits text : List Char} {n : Int} {raw : String}

/-- The gate that the texts of variables have to pass. -/
theorem isIntegerLiteral_iff :
    isIntegerLiteral text = true ↔ IsDigits (cutSign text).2 := by
  rw [isIntegerLiteral, Bool.and_eq_true, Bool.not_eq_true',
    List.isEmpty_eq_false_iff, List.all_eq_true]
  exact ⟨fun ⟨nonempty, ascii⟩ => ⟨nonempty, ascii⟩,
    fun ⟨nonempty, ascii⟩ => ⟨nonempty, ascii⟩⟩

/-- There is no white space around digits and a sign. -/
theorem stripWhile_of_digits (ascii : IsDigits (cutSign text).2) :
    Text.stripWhile Text.isWhiteSpace text = text := by
  have inside {c : Char} (member : c ∈ text) :
      c ∈ (cutSign text).2 ∨ c = '+' ∨ c = '-' := by
    unfold cutSign
    split
    · rcases List.mem_cons.mp member with sign | digit
      · exact .inr (.inl sign)
      · exact .inl digit
    · rcases List.mem_cons.mp member with sign | digit
      · exact .inr (.inr sign)
      · exact .inl digit
    · exact .inl member
  have visible {c : Char} (member : c ∈ text) :
      Text.isWhiteSpace c = false := by
    rcases inside member with digit | rfl | rfl
    · exact isWhiteSpace_of_isDigit (ascii.ascii c digit)
    · decide
    · decide
  exact Text.stripWhile_eq_self
    (fun c first => visible (List.mem_of_head? first))
    (fun c last => visible (List.mem_of_getLast? last))

/-- Behind at most one sign, digits are read leniently as a literal is. -/
theorem readLenient_of_digits (ascii : IsDigits (cutSign text).2) :
    readLenient text = .ok n ↔
      IsLiteral text n ∧ (ofNat n.natAbs).length ≤ digitLimit := by
  simp only [readLenient_eq_ok_iff, stripWhile_of_digits ascii, isLiteral_iff,
    spellsLenient_iff, ascii.spellsMagnitude_iff, exists_eq_left, ascii,
    true_and]

private theorem readNumber_eq_ok_iff :
    readNumber raw = .ok n ↔ readLenient raw.toList = .ok n := by
  rw [readNumber]
  cases readLenient raw.toList <;> simp [Except.mapError]

/-- A text decodes to a number exactly if it is a literal of that number, which
has no more digits than the limit. -/
theorem ofText_number_eq_ok_iff :
    ofText .number raw = .ok n ↔
      IsLiteral raw.toList n ∧ (ofNat n.natAbs).length ≤ digitLimit := by
  rw [ofText]
  by_cases gate : isIntegerLiteral raw.toList = true
  · rw [if_pos gate, ← readLenient_of_digits (isIntegerLiteral_iff.mp gate),
      ← readNumber_eq_ok_iff]
    cases readNumber raw <;> simp [Except.mapError]
  · rw [if_neg gate]
    constructor
    · intro decoded
      cases decoded
    · rintro ⟨literal, _⟩
      exact absurd (isIntegerLiteral_iff.mpr (isLiteral_iff.mp literal).1) gate

/-- Any other text is refused as it stands. -/
theorem ofText_number_of_not_literal
    (other : ∀ n, ¬ IsLiteral raw.toList n) :
    ofText .number raw = .error (.notAnInteger raw) := by
  have gate : ¬ isIntegerLiteral raw.toList = true := fun passed =>
    other _ (isLiteral_iff.mpr ⟨isIntegerLiteral_iff.mp passed, rfl⟩)
  rw [ofText, if_neg gate]

/-- Of the texts that are no longer than the limit of digits exactly the
literals are decoded, each as the number that it denotes.  What is no literal
is refused as it stands, and a number whose written text is no longer than that
limit, with its sign, is decoded from it. -/
theorem integer_literals_decoded (raw : String) :
    (raw.length ≤ digitLimit →
        ∀ n, ofText .number raw = .ok n ↔ IsLiteral raw.toList n) ∧
      ((∀ n, ¬ IsLiteral raw.toList n) →
        ofText .number raw = .error (.notAnInteger raw)) ∧
      ∀ n, write n = .ok raw → raw.length ≤ digitLimit →
        ofText .number raw = .ok n := by
  have literals (short : raw.length ≤ digitLimit) (n : Int) :
      ofText .number raw = .ok n ↔ IsLiteral raw.toList n := by
    rw [ofText_number_eq_ok_iff]
    refine and_iff_left_of_imp fun literal => ?_
    rw [← String.length_toList] at short
    exact literal.length_natAbs_le.trans short
  refine ⟨literals, ofText_number_of_not_literal, fun n written short => ?_⟩
  rw [literals short]
  rw [write] at written
  split at written
  · cases written
    rw [String.toList_ofList]
    exact isLiteral_ofInt n
  · cases written

theorem padded_literal_decoded :
    "-0042".length ≤ digitLimit ∧ IsLiteral "-0042".toList (-42) ∧
      ofText .number "-0042" = .ok (-42) := by
  have short : "-0042".length ≤ digitLimit := by decide
  have digits : IsDigits ['0', '0', '4', '2'] :=
    ⟨List.cons_ne_nil _ _, List.all_eq_true.mp rfl⟩
  have literal : IsLiteral "-0042".toList (-42) := IsLiteral.minus digits
  have decoded := (integer_literals_decoded "-0042").1 short (-42)
  exact ⟨short, literal, decoded.mpr literal⟩

end Decoding

end ServerConfig
