import ServerConfig.Proofs.Binary64.WrittenNumber
import ServerConfig.Proofs.Json.Written
import ServerConfig.Proofs.Text.Runs

/-!
# One-line JSON text

The one-line text of a value holds floating-point numbers as well, so it goes
beyond the grammar without them; but each of its parts is read as what it was
written for, whatever follows it.  Main statements: reading the text gives the
value back, and the text has no line break in it.
-/

namespace ServerConfig

/-- A finite number is one of the format. -/
def Binary64.WellFormed : Binary64 → Prop
  | .finite _ significand exponent => Fits significand exponent
  | _ => True

namespace Json

/-- A value in which every number is one of its format, and every object has
each name once. -/
inductive WellFormed : Json → Prop where
  | null : WellFormed .null
  | bool {value : Bool} : WellFormed (.bool value)
  | integer {value : Int} : WellFormed (.integer value)
  | float {value : Binary64} : value.WellFormed → WellFormed (.float value)
  | string {value : String} : WellFormed (.string value)
  | array {items : List Json} :
      (∀ item ∈ items, WellFormed item) → WellFormed (.array items)
  | object {members : List (String × Json)} :
      (Entries.names members).Nodup →
      (∀ entry ∈ members, WellFormed entry.2) → WellFormed (.object members)

/-! ## Numbers -/

section Numbers

open Binary64 (Parts)

variable {negative : Bool} {digits rest : List Char} {parts : Parts}
  {depth : Nat}

theorem spanDigits_append (ascii : ∀ c ∈ digits, c.isDigit = true)
    (stops : Text.Stops Char.isDigit rest) :
    Numeral.spanDigits (digits ++ rest) = (digits, rest) := by
  rw [Numeral.spanDigits, Text.takeWhile_append_of_stops ascii stops,
    Text.dropWhile_append_of_stops ascii stops]

theorem EndsNumber.stops (ends : EndsNumber rest) :
    Text.Stops Char.isDigit rest := by
  intro c first
  exact (ends c first).1

/-- The digits after the sign of an exponent are those of its absolute value,
with a zero in front of a single one. -/
theorem exists_powerText (power : Int) :
    ∃ digits,
      Binary64.powerText power =
        'e' :: (if power < 0 then '-' else '+') :: digits ∧
      digits ≠ [] ∧ (∀ c ∈ digits, c.isDigit = true) ∧
      Numeral.ofAscii digits = power.natAbs := by
  have ascii : ∀ c ∈ Numeral.ofNat power.natAbs, c.isDigit = true :=
    fun _ => Numeral.isDigit_of_mem_ofNat
  refine ⟨_, rfl, ?_⟩
  split
  · refine ⟨List.cons_ne_nil _ _, List.forall_mem_cons.mpr ⟨rfl, ascii⟩, ?_⟩
    rw [← List.singleton_append, Numeral.ofAscii_append,
      Numeral.ofAscii_ofNat]
    exact (congrArg (· + _) (Nat.zero_mul _)).trans (Nat.zero_add _)
  · exact ⟨Numeral.ofNat_ne_nil, ascii, Numeral.ofAscii_ofNat _⟩

theorem readExponent_exponentText (power : Option Int)
    (ends : EndsNumber rest) :
    readExponent (Parts.exponentText power ++ rest) = some (power, rest) := by
  cases power with
  | none => exact readExponent_of_ends ends
  | some power =>
      obtain ⟨digits, text, nonempty, ascii, value⟩ := exists_powerText power
      have span := spanDigits_append ascii ends.stops
      rw [Parts.exponentText, text]
      rcases Int.lt_or_le power 0 with below | above
      · have signed : Numeral.signed true power.natAbs = power := by
          rw [Numeral.signed, if_pos rfl]
          omega
        simp [readExponent, if_pos below, Numeral.cutSign, span, nonempty,
          value, signed]
      · have signed : Numeral.signed false power.natAbs = power := by
          rw [Numeral.signed, if_neg Bool.false_ne_true]
          omega
        simp [readExponent, if_neg above.not_gt, Numeral.cutSign, span,
          nonempty, value, signed]

theorem stops_exponentText (power : Option Int) (ends : EndsNumber rest) :
    Text.Stops Char.isDigit (Parts.exponentText power ++ rest) ∧
      (Parts.exponentText power ++ rest).head? ≠ some '.' := by
  cases power with
  | none => exact ⟨ends.stops, fun point => (ends '.' point).2.1 rfl⟩
  | some power => exact ⟨Text.stops_cons.mpr rfl, nofun⟩

theorem readFraction_fractionText {fraction : Option (List Char)}
    (ascii : ∀ c ∈ fraction.getD [], c.isDigit = true)
    (nonempty : fraction ≠ some []) (power : Option Int)
    (ends : EndsNumber rest) :
    readFraction (Parts.fractionText fraction ++
        (Parts.exponentText power ++ rest)) =
      some (fraction, Parts.exponentText power ++ rest) := by
  obtain ⟨stops, noPoint⟩ := stops_exponentText power ends
  cases fraction with
  | none =>
      rw [Parts.fractionText, List.nil_append, readFraction.eq_def]
      split
      · rename_i point
        rw [point] at noPoint
        exact absurd rfl noPoint
      · rfl
  | some digits =>
      have present : digits ≠ [] := fun empty => nonempty (congrArg some empty)
      have span : Numeral.spanDigits
          (digits ++ (Parts.exponentText power ++ rest)) =
            (digits, Parts.exponentText power ++ rest) :=
        spanDigits_append ascii stops
      simp [Parts.fractionText, readFraction, span, present]

private theorem stops_fractionText (fraction : Option (List Char))
    (power : Option Int) (ends : EndsNumber rest) :
    Text.Stops Char.isDigit (Parts.fractionText fraction ++
      (Parts.exponentText power ++ rest)) := by
  cases fraction with
  | none => exact (stops_exponentText power ends).1
  | some digits => exact Text.stops_cons.mpr rfl

theorem readUnsigned_parts (wellFormed : parts.WellFormed)
    (ends : EndsNumber rest) :
    readUnsigned negative (parts.toChars ++ rest) =
      some (.float (.ofDecimal negative (Numeral.digitValues parts.digits)
        parts.scale), rest) := by
  obtain ⟨ascii, nonempty, plain, short, fraction, marked⟩ := wellFormed
  rw [Parts.digits, List.forall_mem_append] at ascii
  have span := spanDigits_append ascii.1
    (stops_fractionText parts.fraction parts.power ends)
  have within : ¬ Numeral.digitLimit < parts.whole.length := by
    have limit : Numeral.digitLimit = 4300 := rfl
    omega
  have leading : ¬ (parts.whole.head? = some '0' ∧ 1 < parts.whole.length) := by
    rintro ⟨zero, long⟩
    exact absurd (plain zero) long.ne'
  rw [Parts.toChars, List.append_assoc, List.append_assoc, readUnsigned, span]
  simp [nonempty, leading, within,
    readFraction_fractionText ascii.2 fraction parts.power ends,
    readExponent_exponentText parts.power ends]
  rw [if_neg fun integral => marked.elim (· integral.1) (· integral.2)]
  rfl

/-- The text of a number with a fraction or an exponent is read as the float to
which its decimal is rounded. -/
theorem reads_parts (wellFormed : parts.WellFormed) :
    Reads (readValue depth)
      (if negative then '-' :: parts.toChars else parts.toChars)
      (.float (.ofDecimal negative (Numeral.digitValues parts.digits)
        parts.scale)) := by
  obtain ⟨c, later, start⟩ := List.exists_cons_of_ne_nil wellFormed.nonempty
  have digit : c.isDigit = true := by
    apply wellFormed.ascii
    rw [Parts.digits, start]
    exact List.mem_append_left _ List.mem_cons_self
  obtain ⟨tail, text⟩ : ∃ tail, parts.toChars = c :: tail := by
    rw [Parts.toChars, start]
    exact ⟨_, rfl⟩
  have number {negative : Bool} {rest : List Char} (ends : EndsNumber rest) :=
    @readUnsigned_parts negative rest parts wellFormed ends
  rw [text] at number ⊢
  cases negative with
  | false =>
      refine ⟨⟨c, tail, rfl, isSpace_digit digit⟩, fun rest ends => ?_⟩
      exact (readValue_digit digit).trans (number ends)
  | true =>
      refine ⟨⟨'-', c :: tail, rfl, by decide⟩, fun rest ends => ?_⟩
      exact (readValue_minus digit).trans (number ends)

theorem writeFloat_finite (negative : Bool) (significand : Nat)
    (exponent : Int) :
    writeFloat (.finite negative significand exponent) =
      (Binary64.finite negative significand exponent).toText :=
  rfl

theorem reads_writeFloat {value : Binary64} (wellFormed : value.WellFormed) :
    Reads (readValue depth) (writeFloat value) (.float value) := by
  cases value with
  | nan =>
      refine ⟨⟨_, _, rfl, by decide⟩, fun rest _ => ?_⟩
      simpa [writeFloat, readValue] using readName_append "NaN"
  | infinite negative =>
      cases negative with
      | false =>
          refine ⟨⟨_, _, rfl, by decide⟩, fun rest _ => ?_⟩
          simpa [writeFloat, readValue] using readName_append "Infinity"
      | true =>
          refine ⟨⟨_, _, rfl, by decide⟩, fun rest _ => ?_⟩
          simpa [writeFloat, readValue, readNumber] using
            readName_append "Infinity"
  | finite negative significand exponent =>
      obtain ⟨parts, text, notated, rounded⟩ :=
        Binary64.exists_parts wellFormed negative
      have written := writeFloat_finite negative significand exponent
      rw [written, text, ← rounded]
      exact reads_parts notated

theorem reads_ofInt {value : Int}
    (short : (Numeral.ofNat value.natAbs).length ≤ Numeral.digitLimit) :
    Reads (readValue depth) (Numeral.ofInt value) (.integer value) := by
  cases value with
  | ofNat n => exact reads_natural short
  | negSucc n => exact reads_negative short

end Numbers

/-! ## Values -/

section Values

variable {depth : Nat} {texts : List (List Char)}

theorem renderItems_eq (items : List Json) :
    renderItems items = items.map render := by
  induction items with
  | nil => rfl
  | cons first rest ih => rw [renderItems, ih, List.map_cons]

/-- The text of a member. -/
def renderMember (entry : String × Json) : List Char :=
  writeString false entry.1 ++ ':' :: ' ' :: entry.2.render

theorem renderMembers_eq (members : List (String × Json)) :
    renderMembers members = members.map renderMember := by
  induction members with
  | nil => rfl
  | cons first rest ih =>
      rw [renderMembers, ih, List.map_cons]
      rfl

theorem reads_joinedItems {items : List Json}
    (spelled : List.Forall₂ (Reads (readValue depth)) texts items) :
    Reads (readValue (depth + 1)) ('[' :: joined [',', ' '] texts ++ [']'])
      (.array items) := by
  cases spelled with
  | nil => exact reads_emptyArray allSpace_nil
  | cons first rest =>
      exact reads_array (separated_joined allSpace_blank (.cons first rest)
        (List.cons_ne_nil _ _))

theorem reads_joinedMembers {members : List (String × Json)}
    (spelled : List.Forall₂ (SpellsMember (Reads (readValue depth))) texts
      members)
    (distinct : (Entries.names members).Nodup) :
    Reads (readValue (depth + 1))
      ('\x7b' :: joined [',', ' '] texts ++ ['\x7d']) (.object members) := by
  cases spelled with
  | nil => exact reads_emptyObject allSpace_nil
  | cons first rest =>
      exact reads_object (separated_joined allSpace_blank (.cons first rest)
        (List.cons_ne_nil _ _)) distinct

/-- The text of a value is read as the value, whatever follows it. -/
theorem reads_render {value : Json} (wellFormed : value.WellFormed)
    (within : value.Within depth) :
    Reads (readValue depth) value.render value := by
  induction wellFormed generalizing depth with
  | null => exact reads_null
  | @bool value =>
      cases value with
      | true => exact reads_true
      | false => exact reads_false
  | integer => exact reads_ofInt (of_decide_eq_true within.1)
  | float wellFormed => exact reads_writeFloat wellFormed
  | @string value =>
      exact reads_string (spellsChars_flatMap false value.toList)
  | @array items _ ih =>
      obtain ⟨writable, shallow⟩ := within
      cases depth with
      | zero => exact absurd shallow (Nat.not_succ_le_zero _)
      | succ depth =>
          have inner := Within.items
            ⟨writable, Nat.le_of_succ_le_succ shallow⟩
          rw [render, renderItems_eq]
          apply reads_joinedItems
          rw [List.forall₂_map_left_iff, List.forall₂_same]
          exact fun item member => ih item member (inner item member)
  | @object members distinct _ ih =>
      obtain ⟨writable, shallow⟩ := within
      cases depth with
      | zero => exact absurd shallow (Nat.not_succ_le_zero _)
      | succ depth =>
          have inner := Within.members
            ⟨writable, Nat.le_of_succ_le_succ shallow⟩
          rw [render, renderMembers_eq]
          refine reads_joinedMembers ?_ distinct
          rw [List.forall₂_map_left_iff, List.forall₂_same]
          exact fun entry member => spellsMember_writeString false
            (ih entry member (inner entry member))

/-- Reading the one-line text of a value gives the value back. -/
theorem readWithin?_render {value : Json} (wellFormed : value.WellFormed)
    (within : value.Within depth) :
    readWithin? depth (String.ofList value.render) = some value := by
  have reads := reads_render wellFormed within
  have start := @Reads.skipSpace _ _ _ [] [] _ reads allSpace_nil
  have whole := reads.reads [] nofun
  rw [List.nil_append, List.append_nil] at start
  rw [List.append_nil] at whole
  rw [readWithin?, String.toList_ofList, start, whole]
  rfl

end Values

/-! ## One line -/

section Lines

variable {text later : List Char} {texts : List (List Char)}

/-- A text without control characters, and so without line breaks. -/
def Inline (text : List Char) : Prop :=
  ∀ c ∈ text, 0x20 ≤ c.toNat

theorem inline_nil : Inline [] :=
  List.forall_mem_nil _

theorem Inline.append (inline : Inline text) (laterInline : Inline later) :
    Inline (text ++ later) :=
  List.forall_mem_append.mpr ⟨inline, laterInline⟩

theorem Inline.cons {c : Char} (printable : 0x20 ≤ c.toNat)
    (inline : Inline text) : Inline (c :: text) :=
  List.forall_mem_cons.mpr ⟨printable, inline⟩

theorem inline_of_all (all : (text.all fun c => 0x20 ≤ c.toNat) = true) :
    Inline text := by
  simpa [Inline] using all

theorem Inline.no_break (inline : Inline text) :
    ∀ c ∈ text, c ≠ '\n' ∧ c ≠ '\r' := by
  intro c member
  have printable := inline c member
  constructor <;>
  · rintro rfl
    exact absurd printable (by decide)

theorem inline_digits (ascii : ∀ c ∈ text, c.isDigit = true) :
    Inline text := by
  intro c member
  have digit := ascii c member
  simp only [Char.isDigit, Bool.and_eq_true, decide_eq_true_eq] at digit
  have low : 48 ≤ c.toNat := digit.1
  omega

theorem inline_ofInt (value : Int) : Inline (Numeral.ofInt value) := by
  have digits (n : Nat) : Inline (Numeral.ofNat n) :=
    inline_digits fun _ => Numeral.isDigit_of_mem_ofNat
  cases value with
  | ofNat n => exact digits n
  | negSucc n => exact .cons (by decide) (digits _)

theorem inline_joined (inline : ∀ text ∈ texts, Inline text) :
    Inline (joined [',', ' '] texts) := by
  induction texts with
  | nil => exact inline_nil
  | cons first rest ih =>
      rw [List.forall_mem_cons] at inline
      cases rest with
      | nil => exact inline.1
      | cons second rest =>
          have comma : Inline [',', ' '] := inline_of_all rfl
          exact (inline.1.append comma).append (ih inline.2)

private theorem inline_hexText (width unit : Nat) :
    Inline (Text.hexText width unit) := by
  have digit : ∀ value < 16, 0x20 ≤ (Text.hexDigit value).toNat := by
    decide
  induction width generalizing unit with
  | zero => exact inline_nil
  | succ width ih =>
      have last := digit (unit % 16) (Nat.mod_lt unit (by decide))
      exact (ih (unit / 16)).append (.cons last inline_nil)

theorem inline_escape {letter : Char} (printable : 0x20 ≤ letter.toNat)
    (inline : Inline text) : Inline ('\\' :: letter :: text) :=
  .cons (by decide) (.cons printable inline)

private theorem inline_writeChar (c : Char) : Inline (writeChar false c) := by
  unfold writeChar
  -- The characters with an escape of their own.
  iterate 7
    split
    · exact inline_escape (by decide) inline_nil
  split
  · exact inline_escape (by decide) (inline_hexText 4 c.toNat)
  · rename_i printable
    exact .cons (Nat.not_lt.mp printable) inline_nil

theorem inline_writeString (value : String) :
    Inline (writeString false value) := by
  have characters : Inline (value.toList.flatMap (writeChar false)) := by
    intro c member
    obtain ⟨original, _, written⟩ := List.mem_flatMap.mp member
    exact inline_writeChar original c written
  exact .cons (by decide) (characters.append (.cons (by decide) inline_nil))

theorem inline_parts {parts : Binary64.Parts}
    (wellFormed : parts.WellFormed) : Inline parts.toChars := by
  have digits := inline_digits wellFormed.ascii
  rw [Binary64.Parts.digits, Inline, List.forall_mem_append] at digits
  refine .append digits.1 (.append ?_ ?_)
  · cases fraction : parts.fraction with
    | none => exact inline_nil
    | some behind =>
        rw [fraction] at digits
        exact .cons (by decide) digits.2
  · cases parts.power with
    | none => exact inline_nil
    | some power =>
        obtain ⟨behind, text, _, ascii, _⟩ := exists_powerText power
        have sign : 0x20 ≤ (if power < 0 then '-' else '+').toNat := by
          split <;> decide
        rw [Binary64.Parts.exponentText, text]
        exact .cons (by decide) (.cons sign (inline_digits ascii))

private theorem inline_writeFloat {value : Binary64} (wellFormed : value.WellFormed) :
    Inline (writeFloat value) := by
  cases value with
  | nan => exact inline_of_all rfl
  | infinite negative => cases negative <;> exact inline_of_all rfl
  | finite negative significand exponent =>
      obtain ⟨parts, text, notated, _⟩ :=
        Binary64.exists_parts wellFormed negative
      rw [writeFloat_finite, text]
      cases negative with
      | false => exact inline_parts notated
      | true => exact .cons (by decide) (inline_parts notated)

/-- The one-line text of a value has no control characters. -/
theorem inline_render {value : Json} (wellFormed : value.WellFormed) :
    Inline value.render := by
  induction wellFormed with
  | null => exact inline_of_all rfl
  | @bool value => cases value <;> exact inline_of_all rfl
  | @integer value => exact inline_ofInt value
  | float wellFormed => exact inline_writeFloat wellFormed
  | @string value => exact inline_writeString value
  | @array items _ ih =>
      have inner : Inline (joined [',', ' '] (items.map render)) :=
        inline_joined (List.forall_mem_map.mpr ih)
      rw [render, renderItems_eq]
      exact .cons (by decide) (inner.append (.cons (by decide) inline_nil))
  | @object members _ _ ih =>
      have entry : ∀ entry ∈ members, Inline (renderMember entry) :=
        fun entry member => (inline_writeString entry.1).append
          (.cons (by decide) (.cons (by decide) (ih entry member)))
      have inner : Inline (joined [',', ' '] (members.map renderMember)) :=
        inline_joined (List.forall_mem_map.mpr entry)
      rw [render, renderMembers_eq]
      exact .cons (by decide) (inner.append (.cons (by decide) inline_nil))

end Lines

end Json

end ServerConfig
