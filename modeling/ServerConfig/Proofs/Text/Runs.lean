import Mathlib.Data.List.Forall2
import Mathlib.Data.List.TakeWhile
import ServerConfig.Proofs.Text.Trimming
import ServerConfig.Text.Case
import ServerConfig.Text.Digit
import ServerConfig.Text.Word

/-!
# Runs of characters

The run of one kind of characters at the start of a text ends where the rest of
the text stops it.  The kinds are tables, and two of them have no character in
common if their ranges are apart.
-/

namespace ServerConfig.Text

section Runs

variable {keep : Char → Bool} {c : Char} {run rest : List Char}

/-- A text that does not go on with a character of this kind. -/
def Stops (keep : Char → Bool) (rest : List Char) : Prop :=
  ∀ c, rest.head? = some c → keep c = false

@[simp] theorem stops_nil : Stops keep [] := by
  simp [Stops]

@[simp] theorem stops_cons : Stops keep (c :: rest) ↔ keep c = false := by
  simp [Stops]

theorem takeWhile_append_of_stops (kept : ∀ c ∈ run, keep c = true)
    (stops : Stops keep rest) : (run ++ rest).takeWhile keep = run := by
  have nothing : rest.takeWhile keep = [] := by
    cases rest with
    | nil => rfl
    | cons c later => simp [stops_cons.mp stops]
  rw [List.takeWhile_append_of_pos kept, nothing, List.append_nil]

theorem dropWhile_append_of_stops (kept : ∀ c ∈ run, keep c = true)
    (stops : Stops keep rest) : (run ++ rest).dropWhile keep = rest := by
  rw [List.dropWhile_append_of_pos kept]
  cases rest with
  | nil => rfl
  | cons c later => simp [stops_cons.mp stops]

theorem exists_run (keep : Char → Bool) (text : List Char) :
    ∃ run rest, text = run ++ rest ∧ (∀ c ∈ run, keep c = true) ∧
      Stops keep rest := by
  exact ⟨text.takeWhile keep, text.dropWhile keep,
    List.takeWhile_append_dropWhile.symm,
    fun c member => List.mem_takeWhile_imp member,
    fun c first => head?_dropWhile first⟩

end Runs

/-- Decimal digits with their values. -/
def Digits (text : List Char) (digits : List Nat) : Prop :=
  List.Forall₂ (fun c digit => decimalValue? c = some digit) text digits

theorem digits_iff {text : List Char} {digits : List Nat} :
    Digits text digits ↔
      (∀ c ∈ text, isDecimal c = true) ∧
        text.filterMap decimalValue? = digits := by
  constructor
  · intro spells
    induction spells with
    | nil => simp
    | cons value _ ih =>
        refine ⟨List.forall_mem_cons.mpr ⟨Option.isSome_of_mem value, ih.1⟩, ?_⟩
        rw [List.filterMap_cons_some value, ih.2]
  · rintro ⟨decimal, rfl⟩
    induction text with
    | nil => exact .nil
    | cons c rest ih =>
        rw [List.forall_mem_cons] at decimal
        obtain ⟨digit, value⟩ := Option.isSome_iff_exists.mp decimal.1
        rw [List.filterMap_cons_some value]
        exact .cons value (ih decimal.2)

namespace CodeRanges

/-- No range of one list meets a range of the other. -/
def Apart (ranges others : CodeRanges) : Prop :=
  ∀ range ∈ ranges, ∀ other ∈ others,
    range.2 < other.1 ∨ other.2 < range.1

private theorem apart_iff_all {ranges others : CodeRanges} :
    Apart ranges others ↔
      (ranges.all fun range => others.all fun other =>
        range.2.blt other.1 || other.2.blt range.1) = true := by
  simp only [Apart, List.all_eq_true, Bool.or_eq_true, Nat.blt_eq]

instance (ranges others : CodeRanges) : Decidable (Apart ranges others) :=
  decidable_of_iff _ apart_iff_all.symm

theorem Apart.not_contains {ranges others : CodeRanges} {c : Char}
    (apart : Apart ranges others) (inside : ranges.contains c = true) :
    others.contains c = false := by
  rw [Bool.eq_false_iff]
  intro both
  obtain ⟨range, member, low, high⟩ := contains_iff.mp inside
  obtain ⟨other, otherMember, otherLow, otherHigh⟩ := contains_iff.mp both
  have apart := apart range member other otherMember
  omega

end CodeRanges

/-- The decimal digits. -/
def decimalRanges : CodeRanges :=
  decimalZeros.map fun start => (start, start + 9)

/-- The blanks. -/
def blankRanges : CodeRanges :=
  (0x1C, 0x1F) :: whiteSpaceRanges

/-- The word characters. -/
def wordRanges : CodeRanges :=
  [(0x30, 0x39), (0x41, 0x5A), (0x5F, 0x5F), (0x61, 0x7A)] ++
    alphanumericRanges

/-- The characters that have another form in lower case. -/
def loweredRanges : CodeRanges :=
  (0x41, 0x5A) :: lowerRuns.map fun run => (run.first, run.last)

variable {c : Char}

theorem isDecimal_eq (c : Char) : isDecimal c = decimalRanges.contains c := by
  rw [Bool.eq_iff_iff, isDecimal, decimalValue?, Option.isSome_map,
    List.find?_isSome, CodeRanges.contains_iff, decimalRanges]
  simp [Nat.lt_succ_iff]

theorem isBlank_eq (c : Char) : isBlank c = blankRanges.contains c := by
  rw [isBlank, isWhiteSpace, blankRanges, Bool.or_comm]
  rfl

theorem contains_of_isWord (word : isWord c = true) :
    wordRanges.contains c = true := by
  rw [wordRanges, CodeRanges.contains, List.any_append, Bool.or_eq_true]
  rw [isWord] at word
  split at word
  · left
    rw [Bool.or_eq_true, beq_iff_eq] at word
    rcases word with letter | rfl
    · delta Char.isAlphanum Char.isAlpha Char.isUpper Char.isLower
        Char.isDigit at letter
      simp only [Bool.or_eq_true, Bool.and_eq_true, decide_eq_true_eq]
        at letter
      have bounds : 0x41 ≤ c.toNat ∧ c.toNat ≤ 0x5A ∨
          0x61 ≤ c.toNat ∧ c.toNat ≤ 0x7A ∨
          0x30 ≤ c.toNat ∧ c.toNat ≤ 0x39 := by
        rw [← or_assoc]
        exact letter
      simp only [List.any_cons, List.any_nil, Bool.or_eq_true,
        Bool.and_eq_true, decide_eq_true_eq, Bool.or_false]
      omega
    · rfl
  · exact .inr word

theorem lowerChar_eq_self (same : loweredRanges.contains c = false) :
    lowerChar c = c := by
  rw [Bool.eq_false_iff, ne_eq, CodeRanges.contains_iff] at same
  rw [lowerChar]
  split
  · refine dif_neg fun upper => ?_
    exact same ⟨(0x41, 0x5A), List.mem_cons_self, upper.1, upper.2⟩
  · have uncovered : lowerRuns.find? (·.covers c) = none := by
      rw [List.find?_eq_none]
      intro run member covers
      simp only [CaseRun.covers, Bool.and_eq_true, decide_eq_true_eq]
        at covers
      exact same ⟨(run.first, run.last),
        List.mem_cons_of_mem _ (List.mem_map_of_mem member), covers.1⟩
    rw [uncovered]

theorem isBlank_of_isDecimal (decimal : isDecimal c = true) :
    isBlank c = false := by
  have apart : decimalRanges.Apart blankRanges := by decide +kernel
  rw [isDecimal_eq] at decimal
  rw [isBlank_eq]
  exact apart.not_contains decimal

theorem isBlank_of_isWord (word : isWord c = true) : isBlank c = false := by
  have apart : wordRanges.Apart blankRanges := by decide +kernel
  rw [isBlank_eq]
  exact apart.not_contains (contains_of_isWord word)

theorem lowerChar_of_isDecimal (decimal : isDecimal c = true) :
    lowerChar c = c := by
  have apart : decimalRanges.Apart loweredRanges := by decide +kernel
  rw [isDecimal_eq] at decimal
  exact lowerChar_eq_self (apart.not_contains decimal)

/-- The character is its own form in lower case, wherever it stands. -/
def KeepsCase (c : Char) : Prop :=
  c ≠ '\u03A3' ∧ c ≠ '\u0130' ∧ lowerChar c = c

instance (c : Char) : Decidable (KeepsCase c) :=
  inferInstanceAs (Decidable (_ ∧ _))

theorem keepsCase_of_isDecimal (decimal : isDecimal c = true) :
    KeepsCase c := by
  refine ⟨?_, ?_, lowerChar_of_isDecimal decimal⟩ <;>
  · rintro rfl
    exact absurd decimal (by decide +kernel)

theorem lowerAfter_eq_self {text : List Char}
    (kept : ∀ c ∈ text, KeepsCase c) (before : List Char) :
    lowerAfter before text = text := by
  induction text generalizing before with
  | nil => rfl
  | cons c rest ih =>
      obtain ⟨⟨sigma, dotted, same⟩, later⟩ := List.forall_mem_cons.mp kept
      rw [lowerAfter, if_neg sigma, if_neg dotted, same, ih later]
      rfl

end ServerConfig.Text
