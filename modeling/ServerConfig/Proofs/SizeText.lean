import ServerConfig.ByteSize
import ServerConfig.Proofs.IntegerText
import ServerConfig.Proofs.LenientText

/-!
# The texts of sizes

A size should be an integer, or a number with an optional unit, and nothing
else: `IsSize` is that grammar.  What is read may go on after the size, though:
`Leads` says which size a text begins with, and what is left over behind it.
Main statements: the texts that begin with a size are read, and such a text is a
size as a whole exactly if nothing is left over.
-/

namespace ServerConfig

namespace ByteSize

/-! ## Numbers -/

/-- A number in decimal notation, with its digits and the count of those after
the point. -/
inductive SpellsNumber : List Char → List Nat → Nat → Prop
  | whole {text : List Char} {digits : List Nat} (nonempty : text ≠ [])
      (values : Text.Digits text digits) : SpellsNumber text digits 0
  | point {whole fraction : List Char} {digits : List Nat}
      (nonempty : fraction ≠ [])
      (values : Text.Digits (whole ++ fraction) digits) :
      SpellsNumber (whole ++ '.' :: fraction) digits fraction.length

/-- A number does not go on here: not with a digit, and if it has no point, not
with a point and a digit. -/
structure Ends (places : Nat) (rest : List Char) : Prop where
  digit : Text.Stops Text.isDecimal rest
  point : places = 0 → ∀ later, rest = '.' :: later →
    Text.Stops Text.isDecimal later

variable {text number blanks name rest size : List Char} {digits : List Nat}
  {places bits bytes : Nat}

theorem exists_number (read : readDecimal? text = some (digits, places, rest)) :
    ∃ number, text = number ++ rest ∧ SpellsNumber number digits places ∧
      Ends places rest := by
  obtain ⟨whole, after, rfl, decimal, stops⟩ :=
    Text.exists_run Text.isDecimal text
  simp only [readDecimal?, Text.takeWhile_append_of_stops decimal stops,
    Text.dropWhile_append_of_stops decimal stops] at read
  split at read
  case h_1 later =>
    obtain ⟨fraction, behind, rfl, digit, ends⟩ :=
      Text.exists_run Text.isDecimal later
    simp only [Text.takeWhile_append_of_stops digit ends,
      Text.dropWhile_append_of_stops digit ends] at read
    split at read
    · rename_i nonempty
      cases read
      have values := Text.digits_iff.mpr
        ⟨List.forall_mem_append.mpr ⟨decimal, digit⟩, rfl⟩
      exact ⟨whole ++ '.' :: fraction, by simp,
        .point (by simpa using nonempty) values,
        ends, fun pointless => absurd pointless (by simpa using nonempty)⟩
    · rename_i bare
      split at read
      · cases read
      · rename_i nonempty
        cases read
        have nothing : fraction = [] := by simpa using bare
        refine ⟨whole, rfl, .whole (by simpa using nonempty)
          (Text.digits_iff.mpr ⟨decimal, rfl⟩), stops, ?_⟩
        rintro _ later same
        rw [nothing, List.nil_append, List.cons.injEq] at same
        rwa [← same.2]
  case h_2 pointless =>
    split at read
    · cases read
    · rename_i nonempty
      cases read
      exact ⟨whole, rfl, .whole (by simpa using nonempty)
        (Text.digits_iff.mpr ⟨decimal, rfl⟩), stops,
        fun _ later point => (pointless later point).elim⟩

theorem SpellsNumber.readDecimal?
    (spells : SpellsNumber number digits places) (ends : Ends places rest) :
    readDecimal? (number ++ rest) = some (digits, places, rest) := by
  cases spells with
  | whole nonempty values =>
      obtain ⟨decimal, rfl⟩ := Text.digits_iff.mp values
      simp only [ByteSize.readDecimal?,
        Text.takeWhile_append_of_stops decimal ends.digit,
        Text.dropWhile_append_of_stops decimal ends.digit]
      split
      · rename_i later
        have bare : later.takeWhile Text.isDecimal = [] :=
          @Text.takeWhile_append_of_stops Text.isDecimal [] later (by simp)
            (ends.point rfl later rfl)
        simp [bare, nonempty]
      · simp [nonempty]
  | @point whole fraction _ nonempty values =>
      obtain ⟨decimal, rfl⟩ := Text.digits_iff.mp values
      rw [List.forall_mem_append] at decimal
      have stops : Text.Stops Text.isDecimal ('.' :: (fraction ++ rest)) :=
        Text.stops_cons.mpr (by decide)
      rw [List.append_assoc, List.cons_append]
      simp only [ByteSize.readDecimal?,
        Text.takeWhile_append_of_stops decimal.1 stops,
        Text.dropWhile_append_of_stops decimal.1 stops,
        Text.takeWhile_append_of_stops decimal.2 ends.digit,
        Text.dropWhile_append_of_stops decimal.2 ends.digit]
      simp [nonempty]

/-! ## Units -/

/-- The name of a known unit in letters of either case, with its bits. -/
structure SpellsUnit (name : List Char) (bits : Nat) : Prop where
  word : ∀ c ∈ name, Text.isWord c = true
  known : bitsOfUnit? (Text.lower name) = some bits

theorem mem_of_bitsOfUnit? {letter : Char}
    (known : bitsOfUnit? (letter :: rest) = some bits) :
    letter ∈ 'b' :: scaleLetters := by
  by_contra unknown
  rw [List.mem_cons, not_or] at unknown
  have nowhere : scaleLetters.findIdx? (· == letter) = none := by
    rw [List.findIdx?_eq_none_iff]
    intro scale member
    rw [beq_eq_false_iff_ne]
    rintro rfl
    exact unknown.2 member
  unfold bitsOfUnit? at known
  split at known
  case h_1 empty => cases empty
  case h_2 byte => exact unknown.1 (List.cons.inj byte).1
  case h_3 bit => exact unknown.1 (List.cons.inj bit).1
  case h_4 same =>
    cases same
    rw [nowhere] at known
    cases known

/-- A known unit starts with a letter. -/
theorem SpellsUnit.starts (unit : SpellsUnit name bits) :
    ∃ first later, name = first :: later ∧ Text.isDecimal first = false ∧
      first ≠ '_' := by
  cases name with
  | nil => cases unit.known
  | cons first later =>
      -- A character that is its own lower case begins the name of the unit.
      have letter (same : Text.lowerChar first = first)
          (sigma : first ≠ '\u03A3') (dotted : first ≠ '\u0130') :
          first ∈ 'b' :: scaleLetters := by
        have known := unit.known
        rw [Text.lower, Text.lowerAfter, if_neg sigma, if_neg dotted, same]
          at known
        exact mem_of_bitsOfUnit? known
      refine ⟨first, later, rfl, ?_, ?_⟩
      · rw [Bool.eq_false_iff]
        intro decimal
        have member := letter (Text.lowerChar_of_isDecimal decimal)
          (by rintro rfl; exact absurd decimal (by decide))
          (by rintro rfl; exact absurd decimal (by decide))
        have letters : ('b' :: scaleLetters).all (!Text.isDecimal ·) = true := by
          decide
        have other := List.all_eq_true.mp letters first member
        simp [decimal] at other
      · rintro rfl
        exact absurd (letter (by decide) (by decide) (by decide)) (by decide)

theorem SpellsUnit.ne_nil (unit : SpellsUnit name bits) : name ≠ [] := by
  obtain ⟨first, later, rfl, _⟩ := unit.starts
  exact List.cons_ne_nil first later

/-- A number ends before a unit. -/
theorem SpellsUnit.ends (unit : SpellsUnit name bits)
    (blank : ∀ c ∈ blanks, Text.isBlank c = true) (places : Nat)
    (rest : List Char) : Ends places (blanks ++ (name ++ rest)) := by
  have start : ∃ c later, blanks ++ (name ++ rest) = c :: later ∧
      Text.isDecimal c = false ∧ c ≠ '.' := by
    cases blanks with
    | nil =>
        obtain ⟨first, later, rfl, decimal, _⟩ := unit.starts
        refine ⟨first, later ++ rest, rfl, decimal, ?_⟩
        rintro rfl
        exact absurd (unit.word '.' List.mem_cons_self) (by decide)
    | cons first later =>
        have blank := blank first List.mem_cons_self
        refine ⟨first, later ++ (name ++ rest), rfl, ?_, ?_⟩
        · rw [Bool.eq_false_iff]
          intro decimal
          rw [Text.isBlank_of_isDecimal decimal] at blank
          cases blank
        · rintro rfl
          exact absurd blank (by decide)
  obtain ⟨c, later, same, decimal, pointless⟩ := start
  rw [same]
  refine ⟨Text.stops_cons.mpr decimal, fun _ behind point => ?_⟩
  exact (pointless (List.cons.inj point).1).elim

theorem SpellsUnit.dropWhile_blanks (unit : SpellsUnit name bits)
    (blank : ∀ c ∈ blanks, Text.isBlank c = true) (rest : List Char) :
    (blanks ++ (name ++ rest)).dropWhile Text.isBlank = name ++ rest := by
  obtain ⟨first, later, rfl, _⟩ := unit.starts
  exact Text.dropWhile_append_of_stops blank (Text.stops_cons.mpr
    (Text.isBlank_of_isWord (unit.word first List.mem_cons_self)))

theorem readUnit?_of_stops
    (unitless : Text.Stops Text.isWord (text.dropWhile Text.isBlank)) :
    readUnit? text = some 8 := by
  have nothing : (text.dropWhile Text.isBlank).takeWhile Text.isWord = [] :=
    @Text.takeWhile_append_of_stops Text.isWord [] _ (by simp) unitless
  rw [readUnit?, nothing]

theorem SpellsUnit.readUnit? (unit : SpellsUnit name bits)
    (blank : ∀ c ∈ blanks, Text.isBlank c = true)
    (ends : Text.Stops Text.isWord rest) :
    readUnit? (blanks ++ (name ++ rest)) = some bits := by
  rw [ByteSize.readUnit?, unit.dropWhile_blanks blank,
    Text.takeWhile_append_of_stops unit.word ends]
  obtain ⟨first, later, rfl, _⟩ := unit.starts
  exact unit.known

theorem exists_unit (read : readUnit? text = some bits) :
    Text.Stops Text.isWord (text.dropWhile Text.isBlank) ∧ bits = 8 ∨
      ∃ blanks name rest, text = blanks ++ (name ++ rest) ∧
        (∀ c ∈ blanks, Text.isBlank c = true) ∧ SpellsUnit name bits ∧
        Text.Stops Text.isWord rest := by
  obtain ⟨blanks, behind, rfl, blank, stops⟩ :=
    Text.exists_run Text.isBlank text
  obtain ⟨name, rest, rfl, word, ends⟩ :=
    Text.exists_run Text.isWord behind
  rw [ByteSize.readUnit?, Text.dropWhile_append_of_stops blank stops,
    Text.takeWhile_append_of_stops word ends] at read
  rw [Text.dropWhile_append_of_stops blank stops]
  split at read
  · cases read
    exact .inl ⟨ends, rfl⟩
  · exact .inr ⟨blanks, name, rest, rfl, blank, ⟨word, read⟩, ends⟩

/-! ## Integers -/

/-- An integer that is a size: digits of any script, or an integer with a sign
that is read leniently.  Behind a minus only zero is a size. -/
inductive SpellsInteger : List Char → Nat → Prop
  | unsigned {text : List Char} {digits : List Nat}
      (spells : Numeral.SpellsDigits text digits)
      (short : digits.length ≤ Numeral.digitLimit) :
      SpellsInteger text (Numeral.ofDigits digits)
  | plus {text : List Char} {value : Nat}
      (spells : Numeral.SpellsMagnitude text value)
      (short : (Numeral.ofNat value).length ≤ Numeral.digitLimit) :
      SpellsInteger ('+' :: text) value
  | minus {text : List Char} (spells : Numeral.SpellsMagnitude text 0) :
      SpellsInteger ('-' :: text) 0

theorem readDecimal?_of_sign {sign : Char} (signed : sign = '+' ∨ sign = '-')
    (rest : List Char) : readDecimal? (sign :: rest) = none := by
  have plus : Text.isDecimal '+' = false := by decide
  have minus : Text.isDecimal '-' = false := by decide
  rcases signed with rfl | rfl <;> simp [readDecimal?, plus, minus]

theorem readDecimal?_of_isDecimal {c : Char} (decimal : Text.isDecimal c = true)
    (rest : List Char) : readDecimal? (c :: rest) ≠ none := by
  simp only [readDecimal?, List.takeWhile_cons_of_pos decimal,
    List.isEmpty_cons, List.cons_append]
  split
  · split <;> simp
  · simp

/-- Where a number is in front, an integer has no sign. -/
theorem readInt?_eq_some_iff {n : Int}
    (read : readDecimal? (Text.trim text) ≠ none) :
    Numeral.readInt? (Text.trim text) = some n ↔
      ∃ bytes : Nat, n = bytes ∧ SpellsInteger (Text.trim text) bytes := by
  rw [Numeral.readInt?_eq_some_iff, Text.trim_trim]
  generalize Text.trim text = trimmed at read
  constructor
  · intro spells
    cases spells with
    | unsigned spells short => exact ⟨_, rfl, .unsigned spells short⟩
    | plus _ _ => exact absurd (readDecimal?_of_sign (.inl rfl) _) read
    | minus _ _ => exact absurd (readDecimal?_of_sign (.inr rfl) _) read
  · rintro ⟨bytes, rfl, spells⟩
    cases spells with
    | unsigned spells short => exact .unsigned spells short
    | plus _ _ => exact absurd (readDecimal?_of_sign (.inl rfl) _) read
    | minus _ => exact absurd (readDecimal?_of_sign (.inr rfl) _) read

theorem readInt?_eq_none (read : readDecimal? (Text.trim text) ≠ none)
    (noInteger : ∀ bytes, ¬ SpellsInteger (Text.trim text) bytes) :
    Numeral.readInt? (Text.trim text) = none := by
  rw [Option.eq_none_iff_forall_ne_some]
  intro n integer
  obtain ⟨bytes, _, spells⟩ := (readInt?_eq_some_iff read).mp integer
  exact noInteger bytes spells

/-- Where no number is in front, an integer has a sign. -/
theorem readLenient_eq_ok_iff {n : Int}
    (unread : readDecimal? (Text.trim text) = none) :
    Numeral.readLenient (Text.trim text) = .ok n ∧ 0 ≤ n ↔
      ∃ bytes : Nat, n = bytes ∧ SpellsInteger (Text.trim text) bytes := by
  rw [Numeral.readLenient_eq_ok_iff, Text.stripWhile_trim]
  generalize Text.trim text = trimmed at unread
  constructor
  · rintro ⟨⟨spells, short⟩, size⟩
    cases spells with
    | unsigned spells =>
        obtain ⟨c, rest, rfl, digit⟩ := spells.starts
        have decimal : Text.isDecimal c = true :=
          Option.isSome_of_mem (Text.digit_facts digit).1
        exact absurd unread (readDecimal?_of_isDecimal decimal rest)
    | plus spells => exact ⟨_, rfl, .plus spells short⟩
    | @minus _ value spells =>
        have zero : value = 0 := by omega
        subst zero
        exact ⟨0, rfl, .minus spells⟩
  · rintro ⟨bytes, rfl, spells⟩
    refine ⟨?_, Int.natCast_nonneg bytes⟩
    cases spells with
    | unsigned spells _ =>
        obtain ⟨c, rest, rfl, decimal⟩ := spells.starts
        exact absurd unread (readDecimal?_of_isDecimal decimal rest)
    | plus spells short => exact ⟨.plus spells, short⟩
    | minus spells => exact ⟨.minus spells, by decide⟩

/-! ## Sizes -/

/-- A text that is a size as a whole. -/
inductive IsSize : List Char → Prop
  | integer {text : List Char} {bytes : Nat}
      (spells : SpellsInteger text bytes) : IsSize text
  | number {text : List Char} {digits : List Nat} {places : Nat}
      (spells : SpellsNumber text digits places) : IsSize text
  | unit {number blanks name : List Char} {digits : List Nat}
      {places bits : Nat} (spells : SpellsNumber number digits places)
      (blank : ∀ c ∈ blanks, Text.isBlank c = true)
      (named : SpellsUnit name bits) : IsSize (number ++ (blanks ++ name))

/-- A size at the start of a text, what is left over after it, and its bytes
unless it is infinite. -/
inductive Leads : List Char → List Char → Option Nat → Prop
  | integer {text : List Char} {bytes : Nat}
      (spells : SpellsInteger text bytes) : Leads text [] (some bytes)
  | number {number rest : List Char} {digits : List Nat} {places : Nat}
      (spells : SpellsNumber number digits places) (ends : Ends places rest)
      (unitless : Text.Stops Text.isWord (rest.dropWhile Text.isBlank))
      (noInteger : ∀ bytes, ¬ SpellsInteger (number ++ rest) bytes) :
      Leads number rest (scaled? digits places 8)
  | unit {number blanks name rest : List Char} {digits : List Nat}
      {places bits : Nat} (spells : SpellsNumber number digits places)
      (blank : ∀ c ∈ blanks, Text.isBlank c = true)
      (named : SpellsUnit name bits) (ends : Text.Stops Text.isWord rest) :
      Leads (number ++ (blanks ++ name)) rest (scaled? digits places bits)

/-- The end of reading a text with a size in front. -/
def ended (text : String) : Option Nat → Except Error Nat
  | some bytes => .ok bytes
  | none => .error (.infinite text)

variable {found : Option Nat}

/-- A number with a unit is no integer. -/
theorem SpellsUnit.not_spells (unit : SpellsUnit name bits)
    (spells : SpellsNumber number digits places)
    (blank : ∀ c ∈ blanks, Text.isBlank c = true) (rest : List Char)
    (bytes : Nat) :
    ¬ SpellsInteger (number ++ (blanks ++ (name ++ rest))) bytes := by
  have read := spells.readDecimal? (unit.ends blank places rest)
  intro integer
  generalize whole : number ++ (blanks ++ (name ++ rest)) = text at integer read
  cases integer with
  | unsigned integer _ =>
      obtain ⟨first, later, rfl, decimal, low⟩ := unit.starts
      have member : first ∈ text := by simp [← whole]
      rcases integer.decimal member with digit | same
      · rw [decimal] at digit
        cases digit
      · exact low same
  | plus _ _ =>
      rw [readDecimal?_of_sign (.inl rfl)] at read
      cases read
  | minus _ =>
      rw [readDecimal?_of_sign (.inr rfl)] at read
      cases read

theorem parse_of_number {text : String} {after : List Char}
    (read : readDecimal? (Text.trim text.toList) = some (digits, places, after))
    (unit : readUnit? after = some bits)
    (noInteger : ∀ bytes, ¬ SpellsInteger (Text.trim text.toList) bytes) :
    parse text = ended text (scaled? digits places bits) := by
  have none := readInt?_eq_none (read ▸ Option.some_ne_none _) noInteger
  simp only [parse, read, none, unit]
  cases scaled? digits places bits <;> rfl

theorem parse_of_spellsInteger {text : String}
    (spells : SpellsInteger (Text.trim text.toList) bytes) :
    parse text = .ok bytes := by
  cases read : readDecimal? (Text.trim text.toList) with
  | none =>
      obtain ⟨integer, size⟩ :=
        (readLenient_eq_ok_iff read).mpr ⟨bytes, rfl, spells⟩
      simp [parse, read, integer]
  | some number =>
      have integer := (readInt?_eq_some_iff
        (read ▸ Option.some_ne_none number)).mpr ⟨bytes, rfl, spells⟩
      simp [parse, read, integer]

/-- A text is read as the size in front of it. -/
theorem parse_of_leads {text : String}
    (whole : Text.trim text.toList = size ++ rest)
    (leads : Leads size rest found) : parse text = ended text found := by
  cases leads with
  | integer spells =>
      rw [List.append_nil] at whole
      exact parse_of_spellsInteger (whole ▸ spells)
  | number spells ends unitless noInteger =>
      refine parse_of_number ?_ (readUnit?_of_stops unitless) (whole ▸ noInteger)
      rw [whole]
      exact spells.readDecimal? ends
  | @unit number blanks name _ _ places _ spells blank named ends =>
      rw [List.append_assoc, List.append_assoc] at whole
      refine parse_of_number ?_ (named.readUnit? blank ends)
        (whole ▸ named.not_spells spells blank rest)
      rw [whole]
      exact spells.readDecimal? (named.ends blank places rest)

/-- A text is malformed, or there is a size in front of it. -/
theorem parse_cases (text : String) :
    parse text = .error (.malformed text) ∨
      ∃ size rest found, Text.trim text.toList = size ++ rest ∧
        Leads size rest found ∧ parse text = ended text found := by
  by_cases integer : ∃ bytes, SpellsInteger (Text.trim text.toList) bytes
  · obtain ⟨bytes, spells⟩ := integer
    exact .inr ⟨_, [], some bytes, (List.append_nil _).symm, .integer spells,
      parse_of_spellsInteger spells⟩
  rw [not_exists] at integer
  cases read : readDecimal? (Text.trim text.toList) with
  | none =>
      left
      have refused (n : Int) :
          ¬ (Numeral.readLenient (Text.trim text.toList) = .ok n ∧ 0 ≤ n) := by
        rw [readLenient_eq_ok_iff read]
        rintro ⟨bytes, _, spells⟩
        exact integer bytes spells
      simp only [parse, read]
      split
      · rename_i n found
        exact if_neg fun size => refused n ⟨found, size⟩
      · rfl
  | some number =>
      obtain ⟨digits, places, after⟩ := number
      cases unit : readUnit? after with
      | none =>
          left
          have none := readInt?_eq_none (read ▸ Option.some_ne_none _) integer
          simp only [parse, read, none, unit]
      | some bits =>
          right
          have parsed := parse_of_number read unit integer
          obtain ⟨number, whole, spells, ends⟩ := exists_number read
          rcases exists_unit unit with
            ⟨unitless, rfl⟩ | ⟨blanks, name, rest, rfl, blank, named, stops⟩
          · exact ⟨number, after, _, whole,
              .number spells ends unitless (whole ▸ integer), parsed⟩
          · exact ⟨number ++ (blanks ++ name), rest, _, by simp [whole],
              .unit spells blank named stops, parsed⟩

/-- The sizes that are infinite are found to be so, and all other errors are
about malformed texts. -/
theorem parse_error_iff {text : String} {cause : Error} :
    parse text = .error cause ↔
      cause = .infinite text ∧ (∃ size rest,
        Text.trim text.toList = size ++ rest ∧ Leads size rest none) ∨
      cause = .malformed text ∧ ∀ size rest found,
        Text.trim text.toList = size ++ rest → ¬ Leads size rest found := by
  constructor
  · intro failed
    rcases parse_cases text with
      malformed | ⟨size, rest, found, whole, leads, parsed⟩
    · right
      rw [malformed] at failed
      cases failed
      refine ⟨rfl, fun size rest found whole leads => ?_⟩
      rw [parse_of_leads whole leads] at malformed
      cases found <;> cases malformed
    · left
      rw [failed] at parsed
      cases found with
      | none =>
          cases parsed
          exact ⟨rfl, size, rest, whole, leads⟩
      | some _ => cases parsed
  · rintro (⟨rfl, size, rest, whole, leads⟩ | ⟨rfl, unread⟩)
    · exact parse_of_leads whole leads
    · rcases parse_cases text with
        malformed | ⟨size, rest, found, whole, leads, _⟩
      · exact malformed
      · exact (unread size rest found whole leads).elim

theorem text_of_parse_error {text : String} {cause : Error}
    (failed : parse text = .error cause) : cause.text = text := by
  rcases parse_error_iff.mp failed with ⟨rfl, _⟩ | ⟨rfl, _⟩ <;> rfl

theorem IsSize.exists_number (whole : IsSize text) :
    (∃ bytes, SpellsInteger text bytes) ∨
      ∃ digits places after,
        readDecimal? text = some (digits, places, after) ∧
          (after = [] ∨ ∃ blanks name bits, after = blanks ++ (name ++ []) ∧
            (∀ c ∈ blanks, Text.isBlank c = true) ∧ SpellsUnit name bits) := by
  cases whole with
  | integer spells => exact .inl ⟨_, spells⟩
  | @number _ digits places spells =>
      have ends : Ends places [] := ⟨Text.stops_nil, nofun⟩
      have read := spells.readDecimal? ends
      rw [List.append_nil] at read
      exact .inr ⟨digits, places, [], read, .inl rfl⟩
  | @unit number blanks name digits places bits spells blank named =>
      have read := spells.readDecimal? (named.ends blank places [])
      rw [List.append_nil] at read
      exact .inr ⟨digits, places, _, read,
        .inr ⟨blanks, name, bits, by simp, blank, named⟩⟩

end ByteSize

end ServerConfig
