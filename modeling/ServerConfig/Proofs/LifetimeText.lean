import ServerConfig.Lifetime
import ServerConfig.Proofs.DecimalText
import ServerConfig.Proofs.Text.Runs
import ServerConfig.Proofs.Text.Search

/-!
# The texts of lifetimes

A lifetime is spelled as a number of seconds, or as amounts with units one
after the other, in any order and as often as one likes; `Spells` is that
grammar.  Main statement: a text is read exactly if it belongs to the grammar,
apart from signs in front and the case of its letters, and a minus in front
makes every lifetime but zero unbounded.
-/

namespace ServerConfig

namespace Numeral

variable {digits : List Nat} {text : List Char} {n : Nat}

theorem readDigits_eq_ok_iff :
    readDigits digits = .ok n ↔
      digits.length ≤ digitLimit ∧ n = ofDigits digits := by
  rw [readDigits]
  split
  · rename_i short
    rw [Except.ok.injEq, eq_comm]
    exact (and_iff_right short).symm
  · rename_i long
    simp [long]

/-- Decimal digits of any script, as many as can be read, and their number. -/
structure SpellsNat (text : List Char) (n : Nat) : Prop where
  nonempty : text ≠ []
  short : text.length ≤ digitLimit
  digits : ∃ digits, Text.Digits text digits ∧ n = ofDigits digits

theorem SpellsNat.isDecimal {c : Char} (spells : SpellsNat text n)
    (member : c ∈ text) : Text.isDecimal c = true := by
  obtain ⟨digits, values, _⟩ := spells.digits
  exact (Text.digits_iff.mp values).1 c member

/-- Numbers are read from exactly the texts that spell them. -/
theorem readNat_eq_ok_iff : readNat text = .ok n ↔ SpellsNat text n := by
  have spelled : SpellsNat text n ↔
      (text.all Text.isDecimal && !text.isEmpty) = true ∧
        readDigits (text.filterMap Text.decimalValue?) = .ok n := by
    rw [readDigits_eq_ok_iff, Bool.and_eq_true, List.all_eq_true,
      Bool.not_eq_true', List.isEmpty_eq_false_iff]
    constructor
    · intro spells
      obtain ⟨digits, values, same⟩ := spells.digits
      have length := values.length_eq
      obtain ⟨decimal, rfl⟩ := Text.digits_iff.mp values
      exact ⟨⟨decimal, spells.nonempty⟩, by rw [← length]; exact spells.short,
        same⟩
    · intro read
      obtain ⟨⟨decimal, nonempty⟩, short, same⟩ := read
      have values := Text.digits_iff.mpr ⟨decimal, rfl⟩
      exact ⟨nonempty, by rw [values.length_eq]; exact short, _, values, same⟩
  rw [spelled, readNat]
  by_cases digits : (text.all Text.isDecimal && !text.isEmpty) = true
  · have whole : text.takeWhile Text.isDecimal = text := by
      rw [Bool.and_eq_true, List.all_eq_true] at digits
      exact List.takeWhile_eq_self_iff.mpr digits.1
    rw [whole, and_iff_right digits]
    cases readDigits (text.filterMap Text.decimalValue?) with
    | error cause => rfl
    | ok value =>
        change (if _ then _ else _) = _ ↔ _
        rw [if_pos digits]
  · constructor
    · intro read
      exfalso
      cases counted : readDigits
          ((text.takeWhile Text.isDecimal).filterMap Text.decimalValue?) with
      | error cause =>
          rw [counted] at read
          cases read
      | ok value =>
          rw [counted] at read
          change (if _ then _ else _) = _ at read
          rw [if_neg digits] at read
          cases read
    · intro both
      exact (digits both.1).elim

/-- ASCII digits spell the number that they denote. -/
theorem spellsNat_of_ascii (nonempty : text ≠ [])
    (ascii : ∀ c ∈ text, c.isDigit = true)
    (short : text.length ≤ digitLimit) : SpellsNat text (ofAscii text) := by
  refine ⟨nonempty, short, digitValues text, ?_, rfl⟩
  rw [Text.Digits, digitValues, List.forall₂_map_right_iff, List.forall₂_same]
  exact fun c member => (Text.digit_facts (ascii c member)).1

end Numeral

namespace Lifetime

/-- Amounts with units, one after the other. -/
inductive SpellsAmounts : List Char → List (Nat × TimeUnit) → Prop
  | nil : SpellsAmounts [] []
  | cons {number rest : List Char} {amount : Nat} {unit : TimeUnit}
      {amounts : List (Nat × TimeUnit)} :
      Numeral.SpellsNat number amount → SpellsAmounts rest amounts →
      SpellsAmounts (number ++ unit.letter :: rest) ((amount, unit) :: amounts)

/-- The seconds of amounts with units. -/
def total : List (Nat × TimeUnit) → Nat
  | [] => 0
  | (amount, unit) :: later => amount * unit.seconds + total later

/-- A number of seconds, or at least one amount with a unit. -/
inductive Spells : List Char → Nat → Prop
  | seconds {text : List Char} {n : Nat} :
      Numeral.SpellsNat text n → Spells text n
  | amounts {text : List Char} {amounts : List (Nat × TimeUnit)} :
      amounts ≠ [] → SpellsAmounts text amounts → Spells text (total amounts)

variable {c : Char} {text number rest body : List Char} {whole : String}
  {digits : List Nat} {amounts : List (Nat × TimeUnit)}
  {place sum amount seconds : Nat} {unit : TimeUnit}

/-! ## Amounts with units -/

theorem unit_letter (unit : TimeUnit) :
    Text.isDecimal unit.letter = false ∧
      TimeUnit.ofLetter? unit.letter = some unit ∧
      Text.isDigit unit.letter = false := by
  cases unit <;> decide +kernel

private theorem letter_of_ofLetter? (named : TimeUnit.ofLetter? c = some unit) :
    c = unit.letter := by
  have same := List.find?_some named
  rw [beq_iff_eq] at same
  exact same.symm

/-- The pattern matches digits and the letter of a unit behind all of them. -/
theorem amountPattern_eq_some_iff {more : Nat} :
    amountPattern c rest = some (more, (digits, unit)) ↔
      ∃ number later, c :: rest = number ++ unit.letter :: later ∧
        number ≠ [] ∧ Text.Digits number digits ∧ more = number.length := by
  rw [amountPattern]
  constructor
  · intro found
    obtain ⟨number, behind, whole, decimal, stops⟩ :=
      Text.exists_run Text.isDecimal (c :: rest)
    rw [whole, Text.takeWhile_append_of_stops decimal stops,
      Text.dropWhile_append_of_stops decimal stops] at found
    split at found
    · cases found
    · rename_i nonempty
      obtain ⟨_, named, same⟩ := Option.map_eq_some_iff.mp found
      cases same
      obtain ⟨letter, first, named⟩ := Option.bind_eq_some_iff.mp named
      obtain ⟨later, rfl⟩ := List.head?_eq_some_iff.mp first
      rw [letter_of_ofLetter? named] at whole
      exact ⟨number, later, whole, by simpa using nonempty,
        Text.digits_iff.mpr ⟨decimal, rfl⟩, rfl⟩
  · intro spelled
    obtain ⟨number, later, whole, nonempty, values, rfl⟩ := spelled
    obtain ⟨decimal, rfl⟩ := Text.digits_iff.mp values
    have stops : Text.Stops Text.isDecimal (unit.letter :: later) :=
      Text.stops_cons.mpr (unit_letter unit).1
    rw [whole, Text.takeWhile_append_of_stops decimal stops,
      Text.dropWhile_append_of_stops decimal stops,
      if_neg (by simpa using nonempty), List.head?_cons, Option.bind_some,
      (unit_letter unit).2.1]
    rfl

/-- The amounts with units in a text that starts at the given place. -/
def amountsFrom (place : Nat) (text : List Char) :
    List (Text.Found (List Nat × TimeUnit)) :=
  Text.locate place (Text.search amountPattern 0 text)

/-- An amount at the start is added, and the sum goes on behind it. -/
theorem sumAmounts_amount (values : Text.Digits number digits)
    (nonempty : number ≠ []) :
    sumAmounts place sum (amountsFrom place (number ++ unit.letter :: rest)) =
      match Numeral.readDigits digits with
      | .error cause => .error cause
      | .ok amount =>
          sumAmounts (place + number.length + 1) (sum + amount * unit.seconds)
            (amountsFrom (place + number.length + 1) rest) := by
  obtain ⟨c, more, rfl⟩ := List.exists_cons_of_ne_nil nonempty
  have found : amountPattern c (more ++ unit.letter :: rest) =
      some ((c :: more).length, (digits, unit)) :=
    amountPattern_eq_some_iff.mpr ⟨c :: more, rest, rfl, nonempty, values, rfl⟩
  have behind :
      (more ++ unit.letter :: rest).drop (c :: more).length = rest := by
    rw [List.length_cons, ← List.drop_drop, List.drop_left]
    rfl
  rw [amountsFrom, List.cons_append, Text.search_found found, behind,
    Text.locate, sumAmounts, if_neg (not_not.mpr rfl)]
  rfl

/-- The sum does not go on where no amount starts, whatever comes later. -/
theorem sumAmounts_gap (none : amountPattern c rest = none) :
    sumAmounts place sum (amountsFrom place (c :: rest)) =
      .ok (place, sum) := by
  rw [amountsFrom, Text.search_other none, Text.locate]
  cases later : Text.locate (place + 1) (Text.search amountPattern 0 rest) with
  | nil => rfl
  | cons found others =>
      have behind : place + 1 ≤ found.start := by
        apply Text.le_start
        rw [later]
        exact List.mem_cons_self
      exact if_pos (by omega)

theorem SpellsAmounts.sumAmounts_eq (spells : SpellsAmounts text amounts)
    (place sum : Nat) :
    sumAmounts place sum (amountsFrom place text) =
      .ok (place + text.length, sum + total amounts) := by
  induction spells generalizing place sum with
  | nil => rfl
  | @cons number rest amount unit amounts spelled _ ih =>
      obtain ⟨digits, values, rfl⟩ := spelled.digits
      have short := spelled.short
      rw [values.length_eq] at short
      rw [sumAmounts_amount values spelled.nonempty,
        Numeral.readDigits_eq_ok_iff.mpr ⟨short, rfl⟩]
      dsimp only
      rw [ih, total, List.length_append, List.length_cons]
      congr 2 <;> omega

/-- If nothing is left over, the text consists of amounts with units.  The
induction is on the length of the text, since one amount may take any number of
characters. -/
theorem exists_amounts
    (read : sumAmounts place sum (amountsFrom place text) =
      .ok (place + text.length, seconds)) :
    ∃ amounts, SpellsAmounts text amounts ∧ seconds = sum + total amounts := by
  induction length : text.length using Nat.strongRecOn
    generalizing text place sum with
  | ind size ih =>
      cases text with
      | nil =>
          cases read
          exact ⟨[], .nil, rfl⟩
      | cons c rest =>
          cases found : amountPattern c rest with
          | none =>
              rw [sumAmounts_gap found, Except.ok.injEq, Prod.mk.injEq,
                List.length_cons] at read
              omega
          | some entry =>
              obtain ⟨more, digits, unit⟩ := entry
              obtain ⟨number, later, whole, nonempty, values, _⟩ :=
                amountPattern_eq_some_iff.mp found
              rw [whole] at read length ⊢
              rw [List.length_append, List.length_cons] at length
              rw [sumAmounts_amount values nonempty] at read
              cases counted : Numeral.readDigits digits with
              | error cause =>
                  rw [counted] at read
                  cases read
              | ok amount =>
                  obtain ⟨short, rfl⟩ := Numeral.readDigits_eq_ok_iff.mp counted
                  have stop : place + (number ++ unit.letter :: later).length =
                      place + number.length + 1 + later.length := by
                    rw [List.length_append, List.length_cons]
                    omega
                  rw [counted, stop] at read
                  obtain ⟨amounts, spells, same⟩ :=
                    ih later.length (by omega) read rfl
                  rw [← values.length_eq] at short
                  refine ⟨_ :: amounts,
                    .cons ⟨nonempty, short, digits, values, rfl⟩ spells, ?_⟩
                  rw [same, total, Nat.add_assoc]

theorem SpellsAmounts.eq_nil_iff (spells : SpellsAmounts text amounts) :
    text = [] ↔ amounts = [] := by
  cases spells with
  | nil => simp
  | cons _ _ => simp

/-- Amounts end with the letter of a unit. -/
theorem SpellsAmounts.exists_letter (spells : SpellsAmounts text amounts)
    (nonempty : amounts ≠ []) :
    ∃ unit : TimeUnit, unit.letter ∈ text := by
  cases spells with
  | nil => exact (nonempty rfl).elim
  | @cons number rest amount unit amounts _ _ => exact ⟨unit, by simp⟩

/-! ## Texts without signs -/

theorem isDigit_of_isDecimal (decimal : Text.isDecimal c = true) :
    Text.isDigit c = true := by
  rw [Text.isDigit, decimal, Bool.true_or]

/-- A text without signs is read exactly if it belongs to the grammar. -/
theorem readBody_eq_ok_iff :
    readBody whole body = .ok seconds ↔ Spells body seconds := by
  rw [readBody]
  split
  · rename_i digits
    rw [Bool.and_eq_true, List.all_eq_true] at digits
    have number : (Numeral.readNat body).mapError Error.numeral = .ok seconds ↔
        Numeral.SpellsNat body seconds := by
      rw [← Numeral.readNat_eq_ok_iff]
      cases Numeral.readNat body <;> simp [Except.mapError]
    rw [number]
    constructor
    · exact .seconds
    · intro spells
      cases spells with
      | seconds spelled => exact spelled
      | amounts nonempty spelled =>
          obtain ⟨unit, member⟩ := spelled.exists_letter nonempty
          have digit := digits.1 _ member
          rw [(unit_letter unit).2.2] at digit
          cases digit
  · rename_i digits
    have apart : ∀ n, ¬ Numeral.SpellsNat body n := by
      intro n spelled
      apply digits
      rw [Bool.and_eq_true, List.all_eq_true]
      exact ⟨fun c member => isDigit_of_isDecimal (spelled.isDecimal member),
        by simpa using spelled.nonempty⟩
    have located : Text.findAll amountPattern body = amountsFrom 0 body := rfl
    rw [located]
    constructor
    · intro read
      split at read
      · cases read
      · rename_i place sum summed
        split at read
        · cases read
        · rename_i whole
          cases read
          simp only [Bool.or_eq_true, decide_eq_true_eq, not_or, not_not]
            at whole
          obtain ⟨positive, rfl⟩ := whole
          rw [← Nat.zero_add body.length] at summed
          obtain ⟨amounts, spelled, rfl⟩ := exists_amounts summed
          rw [Nat.zero_add]
          refine .amounts (fun empty => positive ?_) spelled
          rw [spelled.eq_nil_iff.mpr empty]
          rfl
    · intro spells
      cases spells with
      | seconds spelled => exact (apart _ spelled).elim
      | amounts nonempty spelled =>
          rw [spelled.sumAmounts_eq 0 0, Nat.zero_add, Nat.zero_add]
          have positive : body.length ≠ 0 := by
            intro empty
            exact nonempty
              (spelled.eq_nil_iff.mp (List.length_eq_zero_iff.mp empty))
          simp [positive]

theorem SpellsAmounts.char (spells : SpellsAmounts text amounts)
    (member : c ∈ text) :
    Text.isDecimal c = true ∨ ∃ unit : TimeUnit, c = unit.letter := by
  induction spells with
  | nil => cases member
  | @cons number rest amount unit amounts spelled _ ih =>
      rcases List.mem_append.mp member with digit | behind
      · exact .inl (spelled.isDecimal digit)
      · rcases List.mem_cons.mp behind with letter | later
        · exact .inr ⟨unit, letter⟩
        · exact ih later

theorem Spells.char (spells : Spells text seconds) (member : c ∈ text) :
    Text.isDecimal c = true ∨ ∃ unit : TimeUnit, c = unit.letter := by
  cases spells with
  | seconds spelled => exact .inl (spelled.isDecimal member)
  | amounts _ spelled => exact spelled.char member

theorem Spells.ne_nil (spells : Spells text seconds) : text ≠ [] := by
  cases spells with
  | seconds spelled => exact spelled.nonempty
  | amounts nonempty spelled =>
      exact fun empty => nonempty (spelled.eq_nil_iff.mp empty)

/-! ## Signs -/

/-- The lifetime of a number of seconds behind signs. -/
def signed (text : List Char) (seconds : Nat) : Int :=
  if text.head? = some '-' ∧ seconds ≠ 0 then -1 else seconds

theorem parse_eq (text : String) :
    parse text =
      if Text.lower (Text.trim text.toList) = [] then .error .empty
      else
        (readBody text
          ((Text.lower (Text.trim text.toList)).dropWhile isSign)).map
            (signed (Text.lower (Text.trim text.toList))) := by
  unfold parse
  generalize Text.lower (Text.trim text.toList) = shown
  cases shown with
  | nil => rfl
  | cons first later =>
      rw [if_neg (List.cons_ne_nil first later)]
      dsimp only
      cases readBody text ((first :: later).dropWhile isSign) with
      | error cause => rfl
      | ok seconds =>
          rw [Except.map, signed, apply_ite Except.ok]
          simp only [ne_eq, Bool.and_eq_true, decide_eq_true_eq]
          rfl

theorem parse_eq_ok_iff {text : String} {lifetime : Int} :
    parse text = .ok lifetime ↔
      ∃ seconds, Spells ((Text.lower (Text.trim text.toList)).dropWhile isSign)
          seconds ∧
        signed (Text.lower (Text.trim text.toList)) seconds = lifetime := by
  rw [parse_eq]
  split
  · rename_i empty
    rw [empty]
    constructor
    · intro read
      cases read
    · intro spelled
      obtain ⟨seconds, spells, _⟩ := spelled
      exact (spells.ne_nil rfl).elim
  · simp only [← @readBody_eq_ok_iff _ text _]
    cases readBody text
      ((Text.lower (Text.trim text.toList)).dropWhile isSign) <;>
      simp [Except.map]

/-- A text is read exactly if it belongs to the grammar in small letters and
behind its signs.  Its lifetime is the number of seconds that it spells there,
or no end if it starts with a minus and that number is not zero. -/
theorem parse_spelled (text : String) :
    let shown := Text.lower (Text.trim text.toList)
    let body := shown.dropWhile isSign
    (∀ lifetime, parse text = .ok lifetime ↔
        ∃ seconds, Spells body seconds ∧
          lifetime =
            if shown.head? = some '-' ∧ seconds ≠ 0 then -1
            else (seconds : Int)) ∧
      ((∃ cause, parse text = .error cause) ↔
        ∀ seconds, ¬ Spells body seconds) := by
  intro shown body
  constructor
  · intro lifetime
    rw [parse_eq_ok_iff]
    constructor
    · intro spelled
      obtain ⟨seconds, spells, same⟩ := spelled
      exact ⟨seconds, spells, same.symm⟩
    · intro spelled
      obtain ⟨seconds, spells, same⟩ := spelled
      exact ⟨seconds, spells, same.symm⟩
  · constructor
    · intro refused seconds spells
      obtain ⟨cause, read⟩ := refused
      have accepted := parse_eq_ok_iff.mpr ⟨seconds, spells, rfl⟩
      rw [read] at accepted
      cases accepted
    · intro apart
      cases read : parse text with
      | error cause => exact ⟨cause, rfl⟩
      | ok lifetime =>
          obtain ⟨seconds, spells, _⟩ := parse_eq_ok_iff.mp read
          exact (apart seconds spells).elim

/-! ## Texts in small letters -/

private theorem unit_letter_plain (unit : TimeUnit) :
    Text.isBlank unit.letter = false ∧ Text.KeepsCase unit.letter ∧
      isSign unit.letter = false := by
  cases unit <;> decide +kernel

theorem Spells.plain (spells : Spells text seconds) (member : c ∈ text) :
    Text.isBlank c = false ∧ Text.KeepsCase c ∧ isSign c = false := by
  rcases spells.char member with decimal | ⟨unit, rfl⟩
  · refine ⟨Text.isBlank_of_isDecimal decimal,
      Text.keepsCase_of_isDecimal decimal, ?_⟩
    rw [Bool.eq_false_iff, isSign]
    intro sign
    rw [Bool.or_eq_true, decide_eq_true_eq, decide_eq_true_eq] at sign
    rcases sign with rfl | rfl <;> exact absurd decimal (by decide +kernel)
  · exact unit_letter_plain unit

/-- What belongs to the grammar is read as it stands. -/
theorem Spells.parse (spells : Spells text seconds) :
    parse (String.ofList text) = .ok (seconds : Int) := by
  have trimmed : Text.trim text = text := by
    apply Text.trim_eq_self_iff.mpr
    constructor
    · exact fun c first => (spells.plain (List.mem_of_head? first)).1
    · exact fun c last => (spells.plain (List.mem_of_getLast? last)).1
  have small : Text.lower text = text :=
    Text.lowerAfter_eq_self (fun c member => (spells.plain member).2.1) []
  have unsigned : text.dropWhile isSign = text :=
    Text.dropWhile_eq_self_iff.mpr fun c first =>
      (spells.plain (List.mem_of_head? first)).2.2
  have positive : text.head? ≠ some '-' := by
    intro minus
    have plain := (spells.plain (List.mem_of_head? minus)).2.2
    exact absurd plain (by decide)
  rw [parse_eq, String.toList_ofList, trimmed, small, unsigned,
    if_neg spells.ne_nil, readBody_eq_ok_iff.mpr spells]
  simp [Except.map, signed, positive]

/-- A single amount is read as its number of seconds. -/
theorem parse_amount (nonempty : text ≠ [])
    (ascii : ∀ c ∈ text, c.isDigit = true)
    (short : text.length ≤ Numeral.digitLimit) :
    parse (String.ofList (text ++ [unit.letter])) =
      .ok ((Numeral.ofAscii text * unit.seconds : Nat) : Int) := by
  have amount := Numeral.spellsNat_of_ascii nonempty ascii short
  exact (Spells.amounts (List.cons_ne_nil _ _) (.cons amount .nil)).parse

end Lifetime

end ServerConfig
