import ServerConfig.Numeral
import ServerConfig.Proofs.Text.Trimming

/-!
# The texts of integers

`Spells` is the grammar of integers as a relation between texts and integers.
Main statement: reading accepts exactly the texts of the grammar, with blanks
around them, each for the integer that it spells.
-/

namespace ServerConfig.Numeral

variable {c : Char} {text : List Char} {digits : List Nat} {n : Int}

/-- Digits, between any two of which one low line may stand. -/
inductive SpellsDigits : List Char → List Nat → Prop
  | last {c : Char} {digit : Nat} (value : Text.decimalValue? c = some digit) :
      SpellsDigits [c] [digit]
  | next {c : Char} {digit : Nat} {text : List Char} {digits : List Nat}
      (value : Text.decimalValue? c = some digit)
      (later : SpellsDigits text digits) :
      SpellsDigits (c :: text) (digit :: digits)
  | apart {c : Char} {digit : Nat} {text : List Char} {digits : List Nat}
      (value : Text.decimalValue? c = some digit)
      (later : SpellsDigits text digits) :
      SpellsDigits (c :: '_' :: text) (digit :: digits)

/-- An integer within the limit of digits. -/
inductive Spells : List Char → Int → Prop
  | unsigned {text : List Char} {digits : List Nat}
      (spells : SpellsDigits text digits)
      (short : digits.length ≤ digitLimit) : Spells text (ofDigits digits)
  | plus {text : List Char} {digits : List Nat}
      (spells : SpellsDigits text digits)
      (short : digits.length ≤ digitLimit) :
      Spells ('+' :: text) (ofDigits digits)
  | minus {text : List Char} {digits : List Nat}
      (spells : SpellsDigits text digits)
      (short : digits.length ≤ digitLimit) :
      Spells ('-' :: text) (-(ofDigits digits : Int))

theorem SpellsDigits.starts (spells : SpellsDigits text digits) :
    ∃ first rest, text = first :: rest ∧ Text.isDecimal first = true := by
  cases spells with
  | last value => exact ⟨_, _, rfl, Option.isSome_of_mem value⟩
  | next value _ => exact ⟨_, _, rfl, Option.isSome_of_mem value⟩
  | apart value _ => exact ⟨_, _, rfl, Option.isSome_of_mem value⟩

theorem SpellsDigits.decimal (spells : SpellsDigits text digits)
    (member : c ∈ text) : Text.isDecimal c = true ∨ c = '_' := by
  induction spells with
  | last value =>
      rw [List.mem_singleton.mp member]
      exact .inl (Option.isSome_of_mem value)
  | next value _ ih =>
      rcases List.mem_cons.mp member with rfl | later
      · exact .inl (Option.isSome_of_mem value)
      · exact ih later
  | apart value _ ih =>
      rcases List.mem_cons.mp member with rfl | behind
      · exact .inl (Option.isSome_of_mem value)
      · rcases List.mem_cons.mp behind with low | later
        · exact .inr low
        · exact ih later

theorem Spells.char (spells : Spells text n) (member : c ∈ text) :
    (Text.isDecimal c = true ∨ c = '_') ∨ c = '+' ∨ c = '-' := by
  cases spells with
  | unsigned spells _ => exact .inl (spells.decimal member)
  | plus spells _ =>
      rcases List.mem_cons.mp member with sign | inside
      · exact .inr (.inl sign)
      · exact .inl (spells.decimal inside)
  | minus spells _ =>
      rcases List.mem_cons.mp member with sign | inside
      · exact .inr (.inr sign)
      · exact .inl (spells.decimal inside)

theorem separatedDigits?_eq_some_iff :
    separatedDigits? text = some digits ↔ SpellsDigits text digits := by
  constructor
  · intro read
    induction text using separatedDigits?.induct generalizing digits with
    | case1 => cases read
    | case2 c =>
        obtain ⟨digit, value, rfl⟩ := Option.map_eq_some_iff.mp read
        exact .last value
    | case3 c rest ih =>
        simp only [separatedDigits?, Option.bind_eq_bind,
          Option.bind_eq_some_iff] at read
        obtain ⟨digit, value, later, found, same⟩ := read
        cases same
        exact .apart value (ih found)
    | case4 c rest _ _ ih =>
        simp only [separatedDigits?, Option.bind_eq_bind,
          Option.bind_eq_some_iff] at read
        obtain ⟨digit, value, later, found, same⟩ := read
        cases same
        exact .next value (ih found)
  · intro spells
    induction spells with
    | last value => simp [separatedDigits?, value]
    | next value later ih =>
        obtain ⟨first, rest, rfl, decimal⟩ := later.starts
        have behind : ∀ more, first :: rest = '_' :: more → False := by
          rintro _ same
          cases same
          exact absurd decimal (by decide)
        rw [separatedDigits?.eq_4 _ _ (by simp) behind, value, ih]
        rfl
    | apart value later ih =>
        simp [separatedDigits?, value, ih]

theorem SpellsDigits.cutSign (spells : SpellsDigits text digits) :
    cutSign text = (false, text) := by
  obtain ⟨first, rest, rfl, decimal⟩ := spells.starts
  have plus : first ≠ '+' := by
    rintro rfl
    exact absurd decimal (by decide)
  have minus : first ≠ '-' := by
    rintro rfl
    exact absurd decimal (by decide)
  rw [Numeral.cutSign.eq_3]
  · intro more same
    exact plus (List.cons.inj same).1
  · intro more same
    exact minus (List.cons.inj same).1

/-- The texts that are read as integers are those of the grammar, with blanks
around them. -/
theorem readInt?_eq_some_iff :
    readInt? text = some n ↔ Spells (Text.trim text) n := by
  rw [readInt?]
  generalize Text.trim text = trimmed
  simp only [Option.bind_eq_bind, Option.bind_eq_some_iff,
    separatedDigits?_eq_some_iff, Option.ite_none_right_eq_some,
    Option.pure_def, Option.some.injEq]
  constructor
  · rintro ⟨digits, spells, short, rfl⟩
    unfold cutSign at spells ⊢
    split at spells
    case h_1 => exact .plus spells short
    case h_2 => exact .minus spells short
    case h_3 => exact .unsigned spells short
  · intro spells
    cases spells with
    | unsigned spells short =>
        rw [spells.cutSign]
        exact ⟨_, spells, short, rfl⟩
    | plus spells short => exact ⟨_, spells, short, rfl⟩
    | minus spells short => exact ⟨_, spells, short, rfl⟩

end ServerConfig.Numeral
