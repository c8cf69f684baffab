import Mathlib.Data.List.DropRight
import ServerConfig.Json.Reader
import ServerConfig.Json.Writer
import ServerConfig.Proofs.DecimalText

/-!
# JSON text

`Spells` is the grammar of JSON as a relation between texts and the values that
they spell, without floating-point numbers.  A value has many texts: there may
be space around items, and characters may be escaped or not.  Main statement:
reading takes every text of the grammar for the value that it spells, within
the limits of nesting and digits.
-/

namespace ServerConfig.Json

/-! ## The grammar -/

/-- A text of space only. -/
def AllSpace (text : List Char) : Prop :=
  ∀ c ∈ text, isSpace c = true

/-- Four hexadecimal digits spell a code unit. -/
inductive SpellsUnit : List Char → Nat → Prop where
  | digits {a b c d : Char} {first second third fourth : Nat} :
      Text.hexValue? a = some first → Text.hexValue? b = some second →
      Text.hexValue? c = some third → Text.hexValue? d = some fourth →
      SpellsUnit [a, b, c, d]
        (((first * 16 + second) * 16 + third) * 16 + fourth)

/-- The letters that spell a character after a reverse solidus. -/
def letterEscapes : List (Char × Char) :=
  [('"', '"'), ('\\', '\\'), ('/', '/'), ('b', '\x08'), ('f', '\x0c'),
   ('n', '\n'), ('r', '\r'), ('t', '\t')]

/-- A character spells itself, unless it has to be escaped.  Escapes are a
letter, a code unit, or a surrogate pair. -/
inductive SpellsChar : List Char → Char → Prop where
  | plain {c : Char} :
      c ≠ '"' → c ≠ '\\' → 0x20 ≤ c.toNat → SpellsChar [c] c
  | letter {escape c : Char} :
      (escape, c) ∈ letterEscapes → SpellsChar ['\\', escape] c
  | unit {digits : List Char} {c : Char} :
      SpellsUnit digits c.toNat → SpellsChar ('\\' :: 'u' :: digits) c
  | pair {high low : List Char} {c : Char} :
      0x10000 ≤ c.toNat →
      SpellsUnit high (0xD800 + (c.toNat - 0x10000) / 0x400) →
      SpellsUnit low (0xDC00 + (c.toNat - 0x10000) % 0x400) →
      SpellsChar ('\\' :: 'u' :: high ++ '\\' :: 'u' :: low) c

/-- The characters of a string are spelled one after another. -/
inductive SpellsChars : List Char → List Char → Prop where
  | nil : SpellsChars [] []
  | cons {text later chars : List Char} {c : Char} :
      SpellsChar text c → SpellsChars later chars →
      SpellsChars (text ++ later) (c :: chars)

/-- Items are spelled with space around them and commas in between. -/
inductive Separated {α : Type} (spells : List Char → α → Prop) :
    List Char → List α → Prop where
  | last {before text after : List Char} {item : α} :
      AllSpace before → spells text item → AllSpace after →
      Separated spells (before ++ text ++ after) [item]
  | next {before text after later : List Char} {item : α} {items : List α} :
      AllSpace before → spells text item → AllSpace after →
      Separated spells later items →
      Separated spells (before ++ text ++ after ++ ',' :: later)
        (item :: items)

/-- A member of an object is spelled by its name and its value. -/
inductive SpellsMember (spells : List Char → Json → Prop) :
    List Char → String × Json → Prop where
  | member {quoted before after text : List Char} {name : String}
      {value : Json} :
      SpellsChars quoted name.toList → AllSpace before → AllSpace after →
      spells text value →
      SpellsMember spells
        ('"' :: quoted ++ '"' :: before ++ ':' :: after ++ text) (name, value)

/-- A text spells a value.  Every name of an object is spelled once. -/
inductive Spells : List Char → Json → Prop where
  | null : Spells "null".toList .null
  | yes : Spells "true".toList (.bool true)
  | no : Spells "false".toList (.bool false)
  | natural {n : Nat} : Spells (Numeral.ofNat n) (.integer n)
  | negative {n : Nat} : Spells ('-' :: Numeral.ofNat n) (.integer (-n))
  | string {text : List Char} {value : String} :
      SpellsChars text value.toList →
      Spells ('"' :: text ++ ['"']) (.string value)
  | emptyArray {space : List Char} :
      AllSpace space → Spells ('[' :: space ++ [']']) (.array [])
  | array {text : List Char} {items : List Json} :
      Separated Spells text items →
      Spells ('[' :: text ++ [']']) (.array items)
  | emptyObject {space : List Char} :
      AllSpace space → Spells ('\x7b' :: space ++ ['\x7d']) (.object [])
  | object {text : List Char} {members : List (String × Json)} :
      Separated (SpellsMember Spells) text members →
      (Entries.names members).Nodup →
      Spells ('\x7b' :: text ++ ['\x7d']) (.object members)

mutual

/-- How deep the containers of a value are nested. -/
def nesting : Json → Nat
  | .array items => itemsNesting items + 1
  | .object members => membersNesting members + 1
  | _ => 0

/-- How deep the containers in the items of an array are nested. -/
def itemsNesting : List Json → Nat
  | [] => 0
  | item :: rest => max (nesting item) (itemsNesting rest)

/-- How deep the containers in the members of an object are nested. -/
def membersNesting : List (String × Json) → Nat
  | [] => 0
  | (_, value) :: rest => max (nesting value) (membersNesting rest)

end

mutual

/-- The integers in a value. -/
def integers : Json → List Int
  | .integer value => [value]
  | .array items => itemsIntegers items
  | .object members => membersIntegers members
  | _ => []

/-- The integers in the items of an array. -/
def itemsIntegers : List Json → List Int
  | [] => []
  | item :: rest => integers item ++ itemsIntegers rest

/-- The integers in the members of an object. -/
def membersIntegers : List (String × Json) → List Int
  | [] => []
  | (_, value) :: rest => integers value ++ membersIntegers rest

end

mutual

/-- What can be written depends on the integers alone. -/
theorem isWritable_iff :
    (value : Json) → (value.isWritable = true ↔ ∀ n ∈ value.integers,
      (Numeral.ofNat n.natAbs).length ≤ Numeral.digitLimit)
  | .null => by simp [isWritable, integers]
  | .bool _ => by simp [isWritable, integers]
  | .float _ => by simp [isWritable, integers]
  | .string _ => by simp [isWritable, integers]
  | .integer _ => by simp [isWritable, integers]
  | .array items => areWritable_iff_integers items
  | .object members => membersWritable_iff_integers members

theorem areWritable_iff_integers :
    (items : List Json) → (areWritable items = true ↔
      ∀ n ∈ itemsIntegers items,
        (Numeral.ofNat n.natAbs).length ≤ Numeral.digitLimit)
  | [] => by simp [areWritable, itemsIntegers]
  | item :: rest => by
      rw [areWritable, Bool.and_eq_true, isWritable_iff item,
        areWritable_iff_integers rest, itemsIntegers, List.forall_mem_append]

theorem membersWritable_iff_integers :
    (members : List (String × Json)) → (membersWritable members = true ↔
      ∀ n ∈ membersIntegers members,
        (Numeral.ofNat n.natAbs).length ≤ Numeral.digitLimit)
  | [] => by simp [membersWritable, membersIntegers]
  | (_, value) :: rest => by
      rw [membersWritable, Bool.and_eq_true, isWritable_iff value,
        membersWritable_iff_integers rest, membersIntegers, List.forall_mem_append]

end

/-- A value is within the limit of digits and a limit of nesting. -/
def Within (depth : Nat) (value : Json) : Prop :=
  value.isWritable = true ∧ value.nesting ≤ depth

theorem Within.items {depth : Nat} {items : List Json}
    (within : areWritable items = true ∧ itemsNesting items ≤ depth) :
    ∀ item ∈ items, item.Within depth := by
  induction items with
  | nil => intro item member; cases member
  | cons first rest ih =>
      simp only [areWritable, itemsNesting, Bool.and_eq_true, Nat.max_le]
        at within
      obtain ⟨⟨writable, laterWritable⟩, shallow, laterShallow⟩ := within
      intro item member
      rcases List.mem_cons.mp member with rfl | later
      · exact ⟨writable, shallow⟩
      · exact ih ⟨laterWritable, laterShallow⟩ item later

private theorem membersWritable_eq (members : List (String × Json)) :
    membersWritable members = areWritable (members.map Prod.snd) := by
  induction members with
  | nil => rfl
  | cons first rest ih =>
      rw [membersWritable, ih, List.map_cons, areWritable]

private theorem membersNesting_eq (members : List (String × Json)) :
    membersNesting members = itemsNesting (members.map Prod.snd) := by
  induction members with
  | nil => rfl
  | cons first rest ih =>
      rw [membersNesting, ih, List.map_cons, itemsNesting]

theorem Within.members {depth : Nat} {members : List (String × Json)}
    (within : membersWritable members = true ∧
      membersNesting members ≤ depth) :
    ∀ entry ∈ members, entry.2.Within depth := by
  rw [membersWritable_eq, membersNesting_eq] at within
  intro entry member
  exact Within.items within entry.2 (List.mem_map_of_mem member)

theorem Separated.mono {α : Type} {spells reads : List Char → α → Prop}
    {text : List Char} {items : List α} (separated : Separated spells text items)
    (weaker : ∀ text, ∀ item ∈ items, spells text item → reads text item) :
    Separated reads text items := by
  induction separated with
  | last before item after =>
      exact .last before (weaker _ _ List.mem_cons_self item) after
  | next before item after _ ih =>
      apply Separated.next before (weaker _ _ List.mem_cons_self item) after
      exact ih fun text item member =>
        weaker text item (List.mem_cons_of_mem _ member)

theorem SpellsMember.mono {spells reads : List Char → Json → Prop}
    {text : List Char} {entry : String × Json}
    (member : SpellsMember spells text entry)
    (weaker : ∀ text, spells text entry.2 → reads text entry.2) :
    SpellsMember reads text entry := by
  cases member with
  | member name before after value =>
      exact .member name before after (weaker _ value)

/-! ## Space -/

theorem skipSpace_append {space rest : List Char} (blank : AllSpace space) :
    skipSpace (space ++ rest) = skipSpace rest :=
  List.dropWhile_append_of_pos blank

theorem skipSpace_cons {c : Char} {rest : List Char}
    (token : isSpace c = false) : skipSpace (c :: rest) = c :: rest :=
  List.dropWhile_cons_of_neg (by simp [token])

theorem skipSpace_eq_nil {space : List Char} (blank : AllSpace space) :
    skipSpace space = [] :=
  List.dropWhile_eq_nil_iff.mpr blank

/-- What follows a number does not continue it. -/
def EndsNumber (rest : List Char) : Prop :=
  ∀ c ∈ rest.head?, c.isDigit = false ∧ c ≠ '.' ∧ c ≠ 'e' ∧ c ≠ 'E'

theorem endsNumber_append {space rest : List Char} (blank : AllSpace space)
    (ends : EndsNumber rest) : EndsNumber (space ++ rest) := by
  cases space with
  | nil => exact ends
  | cons first later =>
      intro c start
      obtain rfl : first = c := by simpa using start
      have white := blank first List.mem_cons_self
      simp only [isSpace, Bool.or_eq_true, decide_eq_true_eq] at white
      rcases white with ((rfl | rfl) | rfl) | rfl <;> decide

/-! ## Strings -/

section Strings

variable {text chars rest digits : List Char} {unit fuel : Nat} {c : Char}

theorem readUnit_of_spells (spells : SpellsUnit digits unit) :
    readUnit (digits ++ rest) = some (unit, rest) := by
  cases spells with
  | digits a b c d =>
      simp [readUnit, a, b, c, d]

/-- No character has the code of a surrogate. -/
theorem isSurrogate_toNat (c : Char) :
    isHighSurrogate c.toNat = false ∧ isLowSurrogate c.toNat = false := by
  have valid := c.valid
  have code : c.val.toNat = c.toNat := rfl
  simp only [isHighSurrogate, isLowSurrogate, Bool.and_eq_false_iff,
    decide_eq_false_iff_not]
  rcases valid with low | high <;> omega

theorem toNat_lt (c : Char) : c.toNat < 0x110000 := by
  have valid := c.valid
  have code : c.val.toNat = c.toNat := rfl
  rcases valid with low | high <;> omega

theorem readUnicodeEscape_unit (spells : SpellsUnit digits c.toNat) :
    readUnicodeEscape (digits ++ rest) = some (c, rest) := by
  have ⟨high, low⟩ := isSurrogate_toNat c
  simp [readUnicodeEscape, readUnit_of_spells spells, high, low]

private theorem ofSurrogates_of_toNat {high low : Nat}
    (code : 0x10000 + (high - 0xD800) * 0x400 + (low - 0xDC00) = c.toNat) :
    ofSurrogates high low = c := by
  rw [ofSurrogates, code, Char.ofNat_toNat]

theorem surrogates_toNat (great : 0x10000 ≤ c.toNat) :
    isHighSurrogate (0xD800 + (c.toNat - 0x10000) / 0x400) = true ∧
      isLowSurrogate (0xDC00 + (c.toNat - 0x10000) % 0x400) = true ∧
      ofSurrogates (0xD800 + (c.toNat - 0x10000) / 0x400)
        (0xDC00 + (c.toNat - 0x10000) % 0x400) = c := by
  have bounded := toNat_lt c
  refine ⟨?_, ?_, ofSurrogates_of_toNat (by omega)⟩
  · simp only [isHighSurrogate, Bool.and_eq_true, decide_eq_true_eq]
    omega
  · simp only [isLowSurrogate, Bool.and_eq_true, decide_eq_true_eq]
    omega

theorem readUnicodeEscape_pair {first second : List Char} {high low : Nat}
    (spellsHigh : SpellsUnit first high) (spellsLow : SpellsUnit second low)
    (isHigh : isHighSurrogate high = true)
    (isLow : isLowSurrogate low = true)
    (joined : ofSurrogates high low = c) :
    readUnicodeEscape (first ++ '\\' :: 'u' :: (second ++ rest)) =
      some (c, rest) := by
  simp [readUnicodeEscape, readUnit_of_spells spellsHigh,
    readUnit_of_spells spellsLow, isHigh, isLow, joined]

private theorem readEscape_letter {escape : Char}
    (spells : (escape, c) ∈ letterEscapes) :
    readEscape (escape :: rest) = some (c, rest) := by
  simp only [letterEscapes, List.mem_cons, List.not_mem_nil, or_false,
    Prod.mk.injEq] at spells
  rcases spells with ⟨rfl, rfl⟩ | ⟨rfl, rfl⟩ | ⟨rfl, rfl⟩ | ⟨rfl, rfl⟩ |
    ⟨rfl, rfl⟩ | ⟨rfl, rfl⟩ | ⟨rfl, rfl⟩ | ⟨rfl, rfl⟩ <;> rfl

theorem readChars_escape (escape : readEscape text = some (c, rest)) :
    readChars (fuel + 1) ('\\' :: text) =
      (readChars fuel rest).map fun (chars, rest) => (c :: chars, rest) := by
  rw [readChars, if_neg (by decide), if_neg (by decide), if_pos rfl, escape]
  simp only [Option.bind_eq_bind, Option.bind_some]
  cases readChars fuel rest <;> rfl

private theorem SpellsChar.length_pos (spells : SpellsChar text c) :
    0 < text.length := by
  cases spells <;> exact Nat.succ_pos _

/-- A character is read from what spells it. -/
theorem readChars_of_spellsChar (spells : SpellsChar text c) :
    readChars (fuel + 1) (text ++ rest) =
      (readChars fuel rest).map fun (chars, rest) => (c :: chars, rest) := by
  cases spells with
  | plain quote solidus printable =>
      rw [List.singleton_append, readChars, if_neg quote,
        if_neg (Nat.not_lt.mpr printable), if_neg solidus]
      simp only [Option.bind_eq_bind, Option.bind_some]
      cases readChars fuel rest <;> rfl
  | letter escape => exact readChars_escape (readEscape_letter escape)
  | unit digits =>
      exact readChars_escape (readUnicodeEscape_unit digits)
  | pair great first second =>
      obtain ⟨isHigh, isLow, joined⟩ := surrogates_toNat great
      have escape := @readUnicodeEscape_pair rest c _ _ _ _
        first second isHigh isLow joined
      simp only [List.append_assoc, List.cons_append]
      exact readChars_escape escape

theorem SpellsChars.length_le (spells : SpellsChars text chars) :
    chars.length ≤ text.length := by
  induction spells with
  | nil => exact Nat.le_refl 0
  | cons char _ ih =>
      have nonempty := char.length_pos
      simp only [List.length_cons, List.length_append]
      omega

private theorem readChars_of_spells (spells : SpellsChars text chars)
    (enough : chars.length < fuel) :
    readChars fuel (text ++ '"' :: rest) = some (chars, rest) := by
  induction spells generalizing fuel with
  | nil =>
      cases fuel with
      | zero => exact absurd enough (Nat.not_lt_zero _)
      | succ fuel => rfl
  | cons char _ ih =>
      cases fuel with
      | zero => exact absurd enough (Nat.not_lt_zero _)
      | succ fuel =>
          rw [List.append_assoc, readChars_of_spellsChar char,
            ih (Nat.lt_of_succ_lt_succ enough)]
          rfl

theorem readString_of_spells {value : String}
    (spells : SpellsChars text value.toList) :
    readString (text ++ '"' :: rest) = some (value, rest) := by
  have short := spells.length_le
  rw [readString, readChars_of_spells spells]
  · simp
  · rw [List.length_append]
    omega

end Strings

/-! ## Numbers -/

section Numbers

variable {n : Nat} {rest : List Char}

theorem spanDigits_ofNat (ends : EndsNumber rest) :
    Numeral.spanDigits (Numeral.ofNat n ++ rest) =
      (Numeral.ofNat n, rest) := by
  have digits : ∀ c ∈ Numeral.ofNat n, c.isDigit = true :=
    fun _ => Numeral.isDigit_of_mem_ofNat
  rw [Numeral.spanDigits, List.takeWhile_append_of_pos digits,
    List.dropWhile_append_of_pos digits]
  cases rest with
  | nil => simp
  | cons c later =>
      have other := (ends c rfl).1
      simp [other]

private theorem readFraction_of_ends (ends : EndsNumber rest) :
    readFraction rest = some (none, rest) := by
  unfold readFraction
  split
  · exact absurd rfl (ends '.' rfl).2.1
  · rfl

theorem readExponent_of_ends (ends : EndsNumber rest) :
    readExponent rest = some (none, rest) := by
  cases rest with
  | nil => rfl
  | cons c later =>
      obtain ⟨_, _, small, capital⟩ := ends c rfl
      simp [readExponent, small, capital]

theorem readUnsigned_ofNat {negative : Bool}
    (short : (Numeral.ofNat n).length ≤ Numeral.digitLimit)
    (ends : EndsNumber rest) :
    readUnsigned negative (Numeral.ofNat n ++ rest) =
      some (.integer (Numeral.signed negative n), rest) := by
  have plain := Numeral.ofNat_plain n
  rw [readUnsigned, spanDigits_ofNat ends]
  simp [plain, Numeral.ofNat_ne_nil, Nat.not_lt.mpr short,
    readFraction_of_ends ends, readExponent_of_ends ends]

/-- A digit starts no value but a number. -/
theorem readValue_digit {c : Char} {depth : Nat} (digit : c.isDigit = true) :
    readValue depth (c :: rest) = readUnsigned false (c :: rest) := by
  unfold readValue
  split <;> try exact absurd rfl (Numeral.ne_of_isDigit digit (by decide))
  unfold readNumber
  split
  · rename_i minus
    cases minus
    exact absurd digit (by decide)
  · rfl

theorem readValue_minus {c : Char} {depth : Nat} (digit : c.isDigit = true) :
    readValue depth ('-' :: c :: rest) = readUnsigned true (c :: rest) := by
  have finite : (c :: rest).head? ≠ some 'I' := by
    rw [List.head?_cons, ne_eq, Option.some.injEq]
    exact Numeral.ne_of_isDigit digit rfl
  have signed : readValue depth ('-' :: c :: rest) =
      readNumber ('-' :: c :: rest) := by
    simp [readValue]
  rw [signed, readNumber, if_neg finite]

end Numbers

/-! ## Items -/

/-- A reader takes a text for a value, whatever follows it.  The text starts
neither with space nor with a closing bracket. -/
structure Reads {α : Type} (read : List Char → Option (α × List Char))
    (text : List Char) (value : α) : Prop where
  starts : ∃ c later, text = c :: later ∧ isSpace c = false ∧
    c ≠ ']' ∧ c ≠ '\x7d'
  reads : ∀ rest, EndsNumber rest → read (text ++ rest) = some (value, rest)

section Items

variable {α : Type} {read : List Char → Option (α × List Char)}
  {text space rest : List Char} {value : α} {items : List α} {close : Char}
  {fuel : Nat}

theorem Reads.skipSpace (reads : Reads read text value)
    (blank : AllSpace space) :
    skipSpace (space ++ (text ++ rest)) = text ++ rest := by
  obtain ⟨c, later, rfl, token, _⟩ := reads.starts
  rw [skipSpace_append blank, List.cons_append, skipSpace_cons token]

theorem endsNumber_close (closing : close = ']' ∨ close = '\x7d') :
    EndsNumber (close :: rest) := by
  intro c start
  obtain rfl : close = c := by simpa using start
  rcases closing with rfl | rfl <;> decide

theorem endsNumber_comma : EndsNumber (',' :: rest) := by
  intro c start
  obtain rfl : ',' = c := by simpa using start
  decide

theorem isSpace_comma : isSpace ',' = false := rfl

theorem isSpace_close (closing : close = ']' ∨ close = '\x7d') :
    isSpace close = false := by
  rcases closing with rfl | rfl <;> rfl

theorem Separated.length_le (separated : Separated (Reads read) text items) :
    items.length ≤ text.length := by
  induction separated with
  | last _ item _ =>
      obtain ⟨c, later, rfl, _⟩ := item.starts
      simp only [List.length_append, List.length_cons, List.length_nil]
      omega
  | next _ _ _ _ ih =>
      simp only [List.length_append, List.length_cons]
      omega

/-- Reading items one after another, up to the closing bracket. -/
theorem readItems_of_separated
    (closing : close = ']' ∨ close = '\x7d')
    (separated : Separated (Reads read) text items)
    (enough : items.length ≤ fuel) :
    readItems read close fuel (text ++ close :: rest) = some (items, rest) := by
  induction separated generalizing fuel with
  | last before item after =>
      cases fuel with
      | zero => exact absurd enough (Nat.not_succ_le_zero _)
      | succ fuel =>
          have ends : EndsNumber (_ ++ close :: rest) :=
            endsNumber_append after (endsNumber_close closing)
          rw [readItems, List.append_assoc, List.append_assoc,
            item.skipSpace before, item.reads _ ends]
          simp [skipSpace_append after, skipSpace_cons (isSpace_close closing)]
  | next before item after _ ih =>
      cases fuel with
      | zero => exact absurd enough (Nat.not_succ_le_zero _)
      | succ fuel =>
          have different : ',' ≠ close := by
            rcases closing with rfl | rfl <;> decide
          rw [readItems, List.append_assoc, List.append_assoc,
            List.append_assoc, List.cons_append, item.skipSpace before,
            item.reads _ (endsNumber_append after endsNumber_comma)]
          simp [skipSpace_append after, skipSpace_cons isSpace_comma,
            different, ih (Nat.le_of_succ_le_succ enough)]

theorem Separated.starts (separated : Separated (Reads read) text items)
    (rest : List Char) :
    ∃ c later, Json.skipSpace (text ++ rest) = c :: later ∧
      c ≠ ']' ∧ c ≠ '\x7d' := by
  cases separated with
  | last before item after =>
      obtain ⟨c, later, start, _, notClosing⟩ := item.starts
      rw [List.append_assoc, List.append_assoc, item.skipSpace before, start]
      exact ⟨c, _, rfl, notClosing⟩
  | next before item after _ =>
      obtain ⟨c, later, start, _, notClosing⟩ := item.starts
      rw [List.append_assoc, List.append_assoc, List.append_assoc,
        item.skipSpace before, start]
      exact ⟨c, _, rfl, notClosing⟩

private theorem readItems_skipSpace :
    readItems read close fuel (Json.skipSpace text) =
      readItems read close fuel text := by
  cases fuel with
  | zero => rfl
  | succ fuel =>
      rw [readItems, readItems, Json.skipSpace, Json.skipSpace,
        List.dropWhile_idempotent]

theorem readContents_of_separated
    (closing : close = ']' ∨ close = '\x7d')
    (separated : Separated (Reads read) text items) :
    readContents read close (text ++ close :: rest) = some (items, rest) := by
  have short := separated.length_le
  have enough : items.length ≤ (text ++ close :: rest).length := by
    rw [List.length_append]
    omega
  have whole : readItems read close _ (text ++ close :: rest) = _ :=
    readItems_of_separated closing separated enough
  obtain ⟨c, later, start, bracket, brace⟩ :=
    separated.starts (close :: rest)
  have different : c ≠ close := by
    rcases closing with rfl | rfl <;> assumption
  rw [← readItems_skipSpace, start] at whole
  rw [readContents, start]
  exact (if_neg different).trans whole

theorem readContents_of_space (closing : close = ']' ∨ close = '\x7d')
    (blank : AllSpace space) :
    readContents read close (space ++ close :: rest) = some ([], rest) := by
  rw [readContents, skipSpace_append blank,
    skipSpace_cons (isSpace_close closing)]
  exact if_pos rfl

end Items

/-! ## Values -/

theorem isSpace_digit {c : Char} (digit : c.isDigit = true) :
    isSpace c = false ∧ c ≠ ']' ∧ c ≠ '\x7d' := by
  have other {letter : Char} (different : letter.isDigit = false) :
      c ≠ letter := Numeral.ne_of_isDigit digit different
  simp only [isSpace, Bool.or_eq_false_iff, decide_eq_false_iff_not]
  exact ⟨⟨⟨⟨other rfl, other rfl⟩, other rfl⟩, other rfl⟩, other rfl, other rfl⟩

theorem reads_member {depth : Nat} {text : List Char}
    {entry : String × Json}
    (spells : SpellsMember (Reads (readValue depth)) text entry) :
    Reads (readMember (readValue depth)) text entry := by
  cases spells with
  | member name before after value =>
      constructor
      case starts => exact ⟨_, _, rfl, by decide⟩
      case reads =>
        intro rest ends
        simp only [List.cons_append, List.append_assoc, readMember,
          readString_of_spells name, skipSpace_append before,
          skipSpace_cons (show isSpace ':' = false from rfl),
          value.skipSpace after, value.reads rest ends,
          Option.bind_eq_bind, Option.bind_some]
        rfl

theorem readName_append (name : String) {value : Json} {rest : List Char} :
    readName name value (name.toList ++ rest) = some (value, rest) := by
  simp [readName, ← String.length_toList]

theorem readValue_ofNat {depth n : Nat} {rest : List Char}
    (short : (Numeral.ofNat n).length ≤ Numeral.digitLimit)
    (ends : EndsNumber rest) :
    readValue depth (Numeral.ofNat n ++ rest) =
      some (.integer n, rest) := by
  have number : readUnsigned false _ = _ := readUnsigned_ofNat short ends
  obtain ⟨c, later, start, digit⟩ := Numeral.exists_digit_ofNat n
  rw [start, List.cons_append] at number ⊢
  rw [readValue_digit digit, number]
  rfl

theorem readValue_minus_ofNat {depth n : Nat} {rest : List Char}
    (short : (Numeral.ofNat n).length ≤ Numeral.digitLimit)
    (ends : EndsNumber rest) :
    readValue depth ('-' :: Numeral.ofNat n ++ rest) =
      some (.integer (-n), rest) := by
  have number : readUnsigned true _ = _ := readUnsigned_ofNat short ends
  obtain ⟨c, later, start, digit⟩ := Numeral.exists_digit_ofNat n
  rw [start, List.cons_append] at number
  rw [start, List.cons_append, List.cons_append, readValue_minus digit, number]
  rfl

section Values

variable {depth n : Nat} {text space : List Char}

theorem reads_null : Reads (readValue depth) "null".toList .null := by
  refine ⟨⟨_, _, rfl, by decide⟩, fun rest _ => ?_⟩
  simpa [readValue] using readName_append "null"

theorem reads_true : Reads (readValue depth) "true".toList (.bool true) := by
  refine ⟨⟨_, _, rfl, by decide⟩, fun rest _ => ?_⟩
  simpa [readValue] using readName_append "true"

theorem reads_false :
    Reads (readValue depth) "false".toList (.bool false) := by
  refine ⟨⟨_, _, rfl, by decide⟩, fun rest _ => ?_⟩
  simpa [readValue] using readName_append "false"

theorem reads_natural
    (short : (Numeral.ofNat n).length ≤ Numeral.digitLimit) :
    Reads (readValue depth) (Numeral.ofNat n) (.integer n) := by
  obtain ⟨c, later, start, digit⟩ := Numeral.exists_digit_ofNat n
  exact ⟨⟨c, later, start, isSpace_digit digit⟩,
    fun _ ends => readValue_ofNat short ends⟩

theorem reads_negative
    (short : (Numeral.ofNat n).length ≤ Numeral.digitLimit) :
    Reads (readValue depth) ('-' :: Numeral.ofNat n) (.integer (-n)) :=
  ⟨⟨_, _, rfl, by decide⟩, fun _ ends => readValue_minus_ofNat short ends⟩

theorem reads_string {value : String}
    (characters : SpellsChars text value.toList) :
    Reads (readValue depth) ('"' :: text ++ ['"']) (.string value) := by
  refine ⟨⟨_, _, rfl, by decide⟩, fun rest _ => ?_⟩
  simp [readValue, readString_of_spells characters]

theorem reads_emptyArray (blank : AllSpace space) :
    Reads (readValue (depth + 1)) ('[' :: space ++ [']']) (.array []) := by
  refine ⟨⟨_, _, rfl, by decide⟩, fun rest _ => ?_⟩
  simp [readValue, readContents_of_space (.inl rfl) blank]

theorem reads_array {items : List Json}
    (separated : Separated (Reads (readValue depth)) text items) :
    Reads (readValue (depth + 1)) ('[' :: text ++ [']']) (.array items) := by
  refine ⟨⟨_, _, rfl, by decide⟩, fun rest _ => ?_⟩
  simp [readValue, readContents_of_separated (.inl rfl) separated]

theorem reads_emptyObject (blank : AllSpace space) :
    Reads (readValue (depth + 1)) ('\x7b' :: space ++ ['\x7d'])
      (.object []) := by
  refine ⟨⟨_, _, rfl, by decide⟩, fun rest _ => ?_⟩
  simp [readValue, readContents_of_space (.inr rfl) blank, Entries.ofList]

theorem reads_object {members : List (String × Json)}
    (separated :
      Separated (SpellsMember (Reads (readValue depth))) text members)
    (distinct : (Entries.names members).Nodup) :
    Reads (readValue (depth + 1)) ('\x7b' :: text ++ ['\x7d'])
      (.object members) := by
  have entries : Separated (Reads (readMember (readValue depth))) text
      members :=
    separated.mono fun _ _ _ entry => reads_member entry
  refine ⟨⟨_, _, rfl, by decide⟩, fun rest _ => ?_⟩
  simp [readValue, readContents_of_separated (.inr rfl) entries,
    Entries.ofList_of_nodup distinct]

end Values

/-- Every text of the grammar is read as the value that it spells.  The
induction is on the nesting that is left. -/
theorem Spells.reads {depth : Nat} {text : List Char} {value : Json}
    (spells : Spells text value) (within : value.Within depth) :
    Reads (readValue depth) text value := by
  induction depth using Nat.strongRecOn generalizing text value with
  | ind depth ih =>
      obtain ⟨writable, shallow⟩ := within
      cases spells with
      | null => exact reads_null
      | yes => exact reads_true
      | no => exact reads_false
      | natural => exact reads_natural (by simpa [isWritable] using writable)
      | negative => exact reads_negative (by simpa [isWritable] using writable)
      | string characters => exact reads_string characters
      | emptyArray blank =>
          cases depth with
          | zero => exact absurd shallow (Nat.not_succ_le_zero _)
          | succ depth => exact reads_emptyArray blank
      | array separated =>
          cases depth with
          | zero => exact absurd shallow (Nat.not_succ_le_zero _)
          | succ depth =>
              apply reads_array
              exact separated.mono fun text item member spells =>
                ih depth (Nat.lt_succ_self _) spells <|
                  Within.items
                    ⟨writable, Nat.le_of_succ_le_succ shallow⟩ item member
      | emptyObject blank =>
          cases depth with
          | zero => exact absurd shallow (Nat.not_succ_le_zero _)
          | succ depth => exact reads_emptyObject blank
      | object separated distinct =>
          cases depth with
          | zero => exact absurd shallow (Nat.not_succ_le_zero _)
          | succ depth =>
              refine reads_object ?_ distinct
              exact separated.mono fun text entry member spells =>
                spells.mono fun text spells =>
                  ih depth (Nat.lt_succ_self _) spells <|
                    Within.members
                      ⟨writable, Nat.le_of_succ_le_succ shallow⟩ entry member

/-- A whole text spells a value, with space around it or not. -/
def SpellsText (text : String) (value : Json) : Prop :=
  ∃ before body after, AllSpace before ∧ Spells body value ∧ AllSpace after ∧
    text.toList = before ++ body ++ after

theorem read?_of_spellsText {text : String} {value : Json}
    (spells : SpellsText text value) (within : value.Within depthLimit) :
    read? text = some value := by
  obtain ⟨before, body, after, blankBefore, spells, blankAfter, same⟩ := spells
  have reads := spells.reads within
  have ends : EndsNumber after := by
    rw [← List.append_nil after]
    apply endsNumber_append blankAfter
    intro c start
    cases start
  rw [read?, readWithin?, same, List.append_assoc,
    reads.skipSpace blankBefore, reads.reads after ends]
  simp [skipSpace_eq_nil blankAfter]

end ServerConfig.Json
