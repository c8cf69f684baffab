import ServerConfig.Numeral.Lenient
import ServerConfig.Proofs.DecimalText
import ServerConfig.Proofs.Text.Runs
import ServerConfig.Proofs.Text.Split
import ServerConfig.Proofs.Text.Trimming

/-!
# The texts that are read leniently

`SpellsLenient` is the grammar of the lenient reader as a relation between texts
and integers.  Main statement: exactly the texts of the grammar, with white
space around them, are read, as the integers that they spell, provided that
these are within the limit of digits.
-/

namespace ServerConfig.Numeral

/-- ASCII digits, at least one. -/
structure IsDigits (digits : List Char) : Prop where
  nonempty : digits ≠ []
  ascii : ∀ c ∈ digits, c.isDigit = true

/-- ASCII digits, between any two of which one low line may stand, and the
digits alone. -/
inductive Grouped : List Char → List Char → Prop
  | last {c : Char} (digit : c.isDigit = true) : Grouped [c] [c]
  | next {c : Char} {text digits : List Char} (digit : c.isDigit = true)
      (later : Grouped text digits) : Grouped (c :: text) (c :: digits)
  | apart {c : Char} {text digits : List Char} (digit : c.isDigit = true)
      (later : Grouped text digits) : Grouped (c :: '_' :: text) (c :: digits)

/-- Needless zeros in front of a number, and low lines behind the first one. -/
inductive LeadingZeros : List Char → Prop
  | none : LeadingZeros []
  | some {later : List Char} (needless : ∀ c ∈ later, c = '0' ∨ c = '_') :
      LeadingZeros ('0' :: later)

/-- A fraction that is zero. -/
inductive ZeroFraction : List Char → Prop
  | none : ZeroFraction []
  | some {zeros : List Char} (zero : ∀ c ∈ zeros, c = '0') :
      ZeroFraction ('.' :: zeros)

/-- A number with all that is needless around it, and its value to base ten. -/
inductive SpellsMagnitude : List Char → Nat → Prop
  | intro {zeros text digits fraction : List Char}
      (leading : LeadingZeros zeros) (grouped : Grouped text digits)
      (zero : ZeroFraction fraction) :
      SpellsMagnitude (zeros ++ (text ++ fraction))
        (Nat.ofDigitChars 10 digits 0)

/-- Such a number behind at most one sign. -/
inductive SpellsLenient : List Char → Int → Prop
  | unsigned {text : List Char} {value : Nat}
      (spells : SpellsMagnitude text value) : SpellsLenient text value
  | plus {text : List Char} {value : Nat}
      (spells : SpellsMagnitude text value) : SpellsLenient ('+' :: text) value
  | minus {text : List Char} {value : Nat}
      (spells : SpellsMagnitude text value) :
      SpellsLenient ('-' :: text) (-(value : Int))

variable {text body digits run rest fraction : List Char} {c : Char}
  {negative : Bool} {value : Nat} {n : Int}

theorem isDigits_ofNat (value : Nat) : IsDigits (ofNat value) :=
  ⟨ofNat_ne_nil, fun _ => isDigit_of_mem_ofNat⟩

theorem IsDigits.notMem (ascii : IsDigits digits) (other : c.isDigit = false) :
    c ∉ digits := by
  intro member
  have digit := ascii.ascii c member
  rw [other] at digit
  cases digit

theorem ofNat_injective : Function.Injective ofNat := by
  intro value other same
  have read := congrArg ofAscii same
  rwa [ofAscii_ofNat, ofAscii_ofNat] at read

/-! ## Groups of digits -/

theorem IsDigits.grouped (ascii : IsDigits digits) : Grouped digits digits := by
  induction digits with
  | nil => exact absurd rfl ascii.nonempty
  | cons c rest ih =>
      have digit := ascii.ascii c List.mem_cons_self
      by_cases last : rest = []
      · subst last
        exact .last digit
      · exact .next digit (ih
          ⟨last, fun c member => ascii.ascii c (List.mem_cons_of_mem _ member)⟩)

theorem Grouped.isDigits (grouped : Grouped text digits) : IsDigits digits := by
  refine ⟨?_, fun c member => ?_⟩
  · cases grouped <;> exact List.cons_ne_nil _ _
  · induction grouped with
    | last digit =>
        rw [List.mem_singleton.mp member]
        exact digit
    | next digit _ ih | apart digit _ ih =>
        rcases List.mem_cons.mp member with rfl | later
        · exact digit
        · exact ih later

theorem Grouped.starts (grouped : Grouped text digits) :
    ∃ c rest, text = c :: rest ∧ c.isDigit = true := by
  cases grouped with
  | last digit | next digit _ | apart digit _ => exact ⟨_, _, rfl, digit⟩

theorem Grouped.notMem_point (grouped : Grouped text digits) : '.' ∉ text := by
  induction grouped with
  | last digit => simpa using (ne_of_isDigit digit rfl).symm
  | next digit _ ih => simpa [ih] using (ne_of_isDigit digit rfl).symm
  | apart digit _ ih => simpa [ih] using (ne_of_isDigit digit rfl).symm

private theorem ne_lowLine_of_isDigit (digit : c.isDigit = true) : c ≠ '_' :=
  ne_of_isDigit digit rfl

/-- Between low lines there is never nothing. -/
theorem Grouped.pieces (grouped : Grouped text digits) :
    [] ∉ Text.pieces '_' text ∧ (Text.pieces '_' text).flatten = digits := by
  induction grouped with
  | last digit =>
      rw [Text.pieces_of_notMem (by
        simpa using (ne_of_isDigit digit rfl).symm)]
      simp
  | next digit _ ih =>
      obtain ⟨piece, later, found, longer⟩ :=
        Text.pieces_cons_of_ne (ne_lowLine_of_isDigit digit) _
      rw [found] at ih
      rw [longer]
      simp_all
  | @apart c text _ digit _ ih =>
      have cut : Text.pieces '_' (c :: '_' :: text) =
          [c] :: Text.pieces '_' text := by
        simp [Text.pieces, ne_lowLine_of_isDigit digit]
      rw [cut]
      simp [ih]

theorem Grouped.withoutLowLines (grouped : Grouped text digits) :
    withoutLowLines text = digits := by
  have nowhere : (Text.pieces '_' text).any List.isEmpty = false := by
    rw [List.any_eq_false]
    rintro piece member empty
    exact grouped.pieces.1 (List.isEmpty_iff.mp empty ▸ member)
  rw [Numeral.withoutLowLines, nowhere, if_neg Bool.false_ne_true,
    grouped.pieces.2]

private theorem IsDigits.grouped_append (ascii : IsDigits run)
    (later : Grouped text digits) :
    Grouped (run ++ '_' :: text) (run ++ digits) := by
  have grouped := ascii.grouped
  clear ascii
  induction run with
  | nil => cases grouped
  | cons c rest ih =>
      cases grouped with
      | last digit => exact .apart digit later
      | next digit behind => exact .next digit (ih behind)
      | apart _ behind => exact absurd (behind.isDigits.ascii '_') (by simp)

private theorem grouped_joinPieces {cut : List (List Char)} (some : cut ≠ [])
    (nonempty : [] ∉ cut) (ascii : ∀ c ∈ cut.flatten, c.isDigit = true) :
    Grouped (Text.joinPieces '_' cut) cut.flatten := by
  induction cut with
  | nil => exact absurd rfl some
  | cons piece cut ih =>
      rw [List.mem_cons, not_or] at nonempty
      rw [List.flatten_cons] at ascii ⊢
      have digits : IsDigits piece :=
        ⟨Ne.symm nonempty.1, fun c member =>
          ascii c (List.mem_append_left _ member)⟩
      by_cases more : cut = []
      · subst more
        simpa [Text.joinPieces] using digits.grouped
      · have later := ih more nonempty.2 fun c member =>
          ascii c (List.mem_append_right _ member)
        rw [Text.joinPieces_cons piece more]
        exact digits.grouped_append later

theorem grouped_of_withoutLowLines (plain : withoutLowLines text = digits)
    (ascii : IsDigits digits) : Grouped text digits := by
  rw [withoutLowLines] at plain
  split at plain
  · rw [plain]
    exact ascii.grouped
  · rename_i nonempty
    have whole := grouped_joinPieces (Text.pieces_ne_nil '_' text)
      (by simpa using nonempty) (plain ▸ ascii.ascii)
    rwa [Text.joinPieces_pieces, plain] at whole

/-! ## Dropping what is needless -/

theorem exists_fraction (text : List Char) :
    ∃ fraction, ZeroFraction fraction ∧
      text = withoutZeroFraction text ++ fraction := by
  rw [withoutZeroFraction]
  rcases Text.cutFirst_cases '.' text with
    ⟨_, uncut⟩ | ⟨whole, behind, _, whole_eq, cut⟩
  · rw [uncut]
    exact ⟨[], .none, (List.append_nil text).symm⟩
  · rw [cut]
    dsimp only
    split
    · rename_i zero
      exact ⟨'.' :: behind, .some (by simpa using zero), whole_eq⟩
    · exact ⟨[], .none, (List.append_nil text).symm⟩

theorem withoutZeroFraction_append (pointless : '.' ∉ text)
    (zero : ZeroFraction fraction) :
    withoutZeroFraction (text ++ fraction) = text := by
  cases zero with
  | none =>
      rw [List.append_nil, withoutZeroFraction,
        Text.cutFirst_of_notMem pointless]
  | some zero =>
      rw [withoutZeroFraction, Text.cutFirst_append pointless]
      simpa using zero

/-- What is dropped are zeros and low lines. -/
theorem exists_of_dropZeros {last : Char} (needless : last = '0' ∨ last = '_')
    (dropped : dropZeros last text = some rest) :
    ∃ zeros, last :: text = zeros ++ rest ∧ ∀ c ∈ zeros, c = '0' ∨ c = '_' := by
  induction text generalizing last with
  | nil =>
      cases dropped
      exact ⟨[], rfl, nofun⟩
  | cons c text ih =>
      rw [dropZeros] at dropped
      split at dropped
      · rename_i more
        obtain ⟨zeros, split, all⟩ := ih (by simpa using more) dropped
        refine ⟨last :: zeros, by rw [split, List.cons_append], fun c member => ?_⟩
        rcases List.mem_cons.mp member with rfl | later
        · exact needless
        · exact all c later
      · split at dropped
        · cases dropped
          exact ⟨[last], rfl, by simpa using needless⟩
        · split at dropped
          · cases dropped
            exact ⟨[], rfl, nofun⟩
          · cases dropped

theorem exists_of_withoutLeadingZeros
    (dropped : withoutLeadingZeros body = some rest) :
    ∃ zeros, LeadingZeros zeros ∧ body = zeros ++ rest := by
  unfold withoutLeadingZeros at dropped
  split at dropped
  · cases dropped
  · split at dropped
    · rename_i zero
      subst zero
      obtain ⟨zeros, split, all⟩ := exists_of_dropZeros (.inl rfl) dropped
      cases zeros with
      | nil => exact ⟨[], .none, split⟩
      | cons first later =>
          cases (List.cons.inj split).1
          exact ⟨'0' :: later,
            .some fun c member => all c (List.mem_cons_of_mem _ member), split⟩
    · split at dropped
      · cases dropped
        exact ⟨[], .none, rfl⟩
      · cases dropped

theorem dropZeros_append {zeros : List Char}
    (needless : ∀ c ∈ zeros, c = '0' ∨ c = '_') (last : Char)
    (rest : List Char) :
    ∃ other, dropZeros last (zeros ++ rest) = dropZeros other rest := by
  induction zeros generalizing last with
  | nil => exact ⟨last, rfl⟩
  | cons c zeros ih =>
      obtain ⟨other, dropped⟩ :=
        ih (fun c member => needless c (List.mem_cons_of_mem _ member)) c
      refine ⟨other, ?_⟩
      rw [← dropped]
      rcases needless c List.mem_cons_self with rfl | rfl <;> rfl

/-- Digits without a zero in front stay as they are. -/
private theorem Grouped.dropZeros_of_ne (grouped : Grouped (c :: text) (c :: digits))
    (positive : c ≠ '0') (fraction : List Char) (last : Char) :
    dropZeros last (c :: text ++ fraction) = some (c :: text ++ fraction) ∧
      Grouped (c :: text) (ofNat (ofAscii (c :: digits))) := by
  have ascii := grouped.isDigits
  have digit := ascii.ascii c List.mem_cons_self
  constructor
  · simp [Numeral.dropZeros, positive, digit,
      ne_lowLine_of_isDigit digit]
  · rwa [ofNat_ofAscii ascii.nonempty ascii.ascii (by simp [positive])]

/-- Of groups of digits their number is left when the zeros in front are
dropped. -/
theorem Grouped.exists_plain (grouped : Grouped text digits)
    (zero : ZeroFraction fraction) (last : Char) :
    ∃ plain, dropZeros last (text ++ fraction) = some (plain ++ fraction) ∧
      Grouped plain (ofNat (ofAscii digits)) := by
  induction grouped generalizing last with
  | @last c digit =>
      by_cases positive : c = '0'
      · subst positive
        refine ⟨['0'], ?_, .last rfl⟩
        cases zero <;> rfl
      · exact ⟨[c], (Grouped.last digit).dropZeros_of_ne positive fraction last⟩
  | @next c text digits digit later ih =>
      by_cases positive : c = '0'
      · subst positive
        exact ih '0'
      · exact ⟨c :: text,
          (later.next digit).dropZeros_of_ne positive fraction last⟩
  | @apart c text digits digit later ih =>
      by_cases positive : c = '0'
      · subst positive
        exact ih '_'
      · exact ⟨c :: '_' :: text,
          (later.apart digit).dropZeros_of_ne positive fraction last⟩

theorem Grouped.withoutLeadingZeros (grouped : Grouped text digits)
    (fraction : List Char) (last : Char) :
    withoutLeadingZeros (text ++ fraction) = dropZeros last (text ++ fraction) := by
  obtain ⟨c, rest, rfl, digit⟩ := grouped.starts
  by_cases zero : c = '0'
  · simp [Numeral.withoutLeadingZeros, Numeral.dropZeros, zero]
  · simp [Numeral.withoutLeadingZeros, Numeral.dropZeros, zero, digit,
      ne_lowLine_of_isDigit digit]

/-- Exactly the texts of the grammar are left as plain digits. -/
theorem plainBody?_eq_some_ofNat_iff :
    plainBody? body = some (ofNat value) ↔ SpellsMagnitude body value := by
  constructor
  · intro left
    obtain ⟨kept, dropped, plain⟩ := Option.map_eq_some_iff.mp left
    obtain ⟨zeros, leading, rfl⟩ := exists_of_withoutLeadingZeros dropped
    obtain ⟨fraction, zero, split⟩ := exists_fraction kept
    have grouped := grouped_of_withoutLowLines plain (isDigits_ofNat value)
    have spells := SpellsMagnitude.intro leading grouped zero
    rwa [← split, ← ofAscii_eq, ofAscii_ofNat] at spells
  · rintro ⟨leading, grouped, zero⟩
    rename_i zeros text digits fraction
    have dropped : ∃ last, withoutLeadingZeros (zeros ++ (text ++ fraction)) =
        Numeral.dropZeros last (text ++ fraction) := by
      cases leading with
      | none => exact ⟨'0', grouped.withoutLeadingZeros fraction '0'⟩
      | some needless =>
          exact dropZeros_append needless '0' (text ++ fraction)
    obtain ⟨last, dropped⟩ := dropped
    obtain ⟨plain, kept, number⟩ := grouped.exists_plain zero last
    rw [plainBody?, dropped, kept, ← ofAscii_eq, Option.map_some,
      withoutZeroFraction_append number.notMem_point zero,
      number.withoutLowLines]

theorem SpellsMagnitude.unique {other : Nat} (spells : SpellsMagnitude body value)
    (again : SpellsMagnitude body other) : value = other := by
  have plain := plainBody?_eq_some_ofNat_iff.mpr spells
  rw [plainBody?_eq_some_ofNat_iff.mpr again, Option.some.injEq] at plain
  exact ofNat_injective plain.symm

/-- Digits alone spell their value. -/
theorem IsDigits.spellsMagnitude_iff (ascii : IsDigits digits) :
    SpellsMagnitude digits value ↔ value = ofAscii digits := by
  have spells := SpellsMagnitude.intro .none ascii.grouped .none
  rw [List.nil_append, List.append_nil, ← ofAscii_eq] at spells
  constructor
  · exact fun again => again.unique spells
  · rintro rfl
    exact spells

/-! ## Reading -/

/-- What is read is decided by the digits in front. -/
theorem readBody_append (ascii : ∀ c ∈ run, c.isDigit = true)
    (stops : Text.Stops Char.isDigit rest) :
    readBody negative (run ++ rest) =
      if run = [] ∨ run.head? = some '0' ∧ 1 < run.length then .error .malformed
      else if digitLimit < run.length then .error .tooLong
      else if rest ≠ [] then .error .malformed
      else .ok (signed negative (ofAscii run)) := by
  have longer : run.length < (run ++ rest).length ↔ rest ≠ [] := by
    rw [List.length_append, Nat.lt_add_right_iff_pos, List.length_pos_iff]
  simp only [readBody, Text.takeWhile_append_of_stops ascii stops, longer,
    Bool.or_eq_true, Bool.and_eq_true, List.isEmpty_iff, decide_eq_true_eq]

/-- Exactly the digits of numbers within the limit are read as they stand. -/
theorem readBody_eq_ok_iff :
    readBody negative body = .ok n ↔
      ∃ value, body = ofNat value ∧ (ofNat value).length ≤ digitLimit ∧
        n = signed negative value := by
  constructor
  · intro read
    obtain ⟨run, rest, rfl, ascii, stops⟩ := Text.exists_run Char.isDigit body
    rw [readBody_append ascii stops] at read
    split_ifs at read with needless long more
    cases read
    rw [not_or] at needless
    have plain : ofNat (ofAscii run) = run := by
      refine ofNat_ofAscii needless.1 ascii fun zero => ?_
      have some := List.length_pos_of_ne_nil needless.1
      have few : ¬ 1 < run.length := fun long => needless.2 ⟨zero, long⟩
      omega
    rw [not_not.mp more, List.append_nil]
    exact ⟨ofAscii run, plain.symm, by rw [plain]; omega, rfl⟩
  · rintro ⟨value, rfl, short, rfl⟩
    have read := @readBody_append _ _ negative (isDigits_ofNat value).ascii
      Text.stops_nil
    rw [List.append_nil] at read
    rw [read, if_neg (not_or.mpr ⟨ofNat_ne_nil, ofNat_plain value⟩),
      if_neg (Nat.not_lt.mpr short), if_neg (not_not.mpr rfl), ofAscii_ofNat]

/-- Too many digits in front, of which the first is no zero. -/
structure Exceeds (body run : List Char) : Prop where
  isPrefix : run <+: body
  ascii : ∀ c ∈ run, c.isDigit = true
  positive : run.head? ≠ some '0'
  long : digitLimit < run.length

theorem exists_exceeds (failed : readBody negative body = .error .tooLong) :
    ∃ run, Exceeds body run := by
  obtain ⟨run, rest, rfl, ascii, stops⟩ := Text.exists_run Char.isDigit body
  rw [readBody_append ascii stops] at failed
  split_ifs at failed with needless long
  · cases failed
  · rw [not_or] at needless
    have many : 1 < run.length := long.trans' (by decide)
    exact ⟨run, List.prefix_append run rest, ascii,
      fun zero => needless.2 ⟨zero, many⟩, long⟩
  · cases failed

theorem Exceeds.isDigits (exceeds : Exceeds body run) : IsDigits run := by
  refine ⟨?_, exceeds.ascii⟩
  rintro rfl
  exact absurd exceeds.long (by decide)

theorem Exceeds.readBody (exceeds : Exceeds body run) (negative : Bool) :
    readBody negative body = .error .tooLong := by
  obtain ⟨after, rfl⟩ := exceeds.isPrefix
  obtain ⟨more, rest, rfl, ascii, stops⟩ := Text.exists_run Char.isDigit after
  have nonempty := exceeds.isDigits.nonempty
  have longer : digitLimit < (run ++ more).length := by
    rw [List.length_append]
    exact Nat.lt_add_right _ exceeds.long
  rw [← List.append_assoc, readBody_append
    (List.forall_mem_append.mpr ⟨exceeds.ascii, ascii⟩) stops, if_neg,
    if_pos longer]
  rintro (nothing | ⟨zero, _⟩)
  · exact nonempty (List.append_eq_nil_iff.mp nothing).1
  · rw [List.head?_append_of_ne_nil run nonempty] at zero
    exact exceeds.positive zero

theorem prefix_withoutZeroFraction (pointless : '.' ∉ run)
    (isPrefix : run <+: text) : run <+: withoutZeroFraction text := by
  obtain ⟨rest, rfl⟩ := isPrefix
  rw [withoutZeroFraction]
  rcases Text.cutFirst_cases '.' rest with
    ⟨uncut, _⟩ | ⟨before, after, uncut, rfl, _⟩
  · rw [Text.cutFirst_of_notMem (by simp [pointless, uncut])]
    exact List.prefix_append run rest
  · rw [← List.append_assoc,
      Text.cutFirst_append (by simp [pointless, uncut])]
    dsimp only
    split
    · exact List.prefix_append run before
    · rw [List.append_assoc]
      exact List.prefix_append run _

private theorem prefix_withoutLowLines (solid : '_' ∉ run)
    (isPrefix : run <+: text) : run <+: withoutLowLines text := by
  rw [withoutLowLines]
  split
  · exact isPrefix
  · obtain ⟨rest, rfl⟩ := isPrefix
    have kept : run.filter (· != '_') = run :=
      List.filter_eq_self.mpr fun c member => by
        rw [bne_iff_ne]
        rintro rfl
        exact solid member
    rw [Text.flatten_pieces, List.filter_append, kept]
    exact List.prefix_append run _

/-- Too many digits stay too many. -/
theorem Exceeds.exists_plain (exceeds : Exceeds body run) :
    ∃ plain, plainBody? body = some plain ∧ Exceeds plain run := by
  have digits := exceeds.isDigits
  have kept : withoutLeadingZeros body = some body := by
    obtain ⟨c, rest, rfl⟩ := List.exists_cons_of_ne_nil digits.nonempty
    obtain ⟨after, rfl⟩ := exceeds.isPrefix
    have positive : c ≠ '0' := fun zero => exceeds.positive (by simp [zero])
    simp [withoutLeadingZeros, positive, exceeds.ascii c List.mem_cons_self]
  refine ⟨withoutLowLines (withoutZeroFraction body), ?_, ?_⟩
  · rw [plainBody?, kept]
    rfl
  · exact { exceeds with
      isPrefix := prefix_withoutLowLines (digits.notMem rfl)
        (prefix_withoutZeroFraction (digits.notMem rfl) exceeds.isPrefix) }

/-! ## Both readings -/

/-- A number behind a minus, or alone. -/
def withMinus (negative : Bool) (body : List Char) : List Char :=
  if negative then '-' :: body else body

theorem exists_readLiteral (text : List Char) :
    ∃ negative body, text = withMinus negative body ∧
      readLiteral text = readBody negative body := by
  unfold readLiteral
  split
  · exact ⟨true, _, rfl, rfl⟩
  · exact ⟨false, _, rfl, rfl⟩

theorem cutSign_withMinus (ascii : IsDigits run) (negative : Bool)
    (rest : List Char) :
    cutSign (withMinus negative (run ++ rest)) = (negative, run ++ rest) := by
  cases negative with
  | true => rfl
  | false =>
      obtain ⟨c, later, rfl⟩ := List.exists_cons_of_ne_nil ascii.nonempty
      have digit := ascii.ascii c List.mem_cons_self
      have plus : c ≠ '+' := ne_of_isDigit digit rfl
      have minus : c ≠ '-' := ne_of_isDigit digit rfl
      exact cutSign.eq_3 _ (fun _ same => plus (List.cons.inj same).1)
        fun _ same => minus (List.cons.inj same).1

theorem isWhiteSpace_of_isDigit (digit : c.isDigit = true) :
    Text.isWhiteSpace c = false :=
  Text.isWhiteSpace_of_isBlank (Text.digit_facts digit).2.1

/-- White space is dropped at the end only, if digits are in front. -/
theorem stripWhile_withMinus (ascii : IsDigits run) (negative : Bool)
    (rest : List Char) :
    Text.stripWhile Text.isWhiteSpace (withMinus negative (run ++ rest)) =
      withMinus negative
        (run ++ Text.dropEndWhile Text.isWhiteSpace rest) := by
  have behind (after : List Char) :
      withMinus negative (run ++ after) = withMinus negative run ++ after := by
    cases negative <;> rfl
  have visible {c : Char} (member : c ∈ withMinus negative run) :
      Text.isWhiteSpace c = false := by
    have inside : c = '-' ∨ c ∈ run := by
      cases negative with
      | true => exact List.mem_cons.mp member
      | false => exact .inr member
    rcases inside with rfl | digit
    · decide
    · exact isWhiteSpace_of_isDigit (ascii.ascii c digit)
  have nonempty : withMinus negative run ≠ [] := by
    cases negative with
    | true => exact List.cons_ne_nil '-' run
    | false => exact ascii.nonempty
  have front : (withMinus negative run ++ rest).dropWhile Text.isWhiteSpace =
      withMinus negative run ++ rest :=
    Text.dropWhile_eq_self_iff.mpr fun c first => by
      rw [List.head?_append_of_ne_nil _ nonempty] at first
      exact visible (List.mem_of_head? first)
  rw [behind, behind, Text.stripWhile, front, Text.dropEndWhile_append
    (fun c last => visible (List.mem_of_getLast? last)) nonempty]

private theorem plainBody?_ofNat (value : Nat) :
    plainBody? (ofNat value) = some (ofNat value) := by
  have spells := (isDigits_ofNat value).spellsMagnitude_iff.mpr
    (ofAscii_ofNat value).symm
  exact plainBody?_eq_some_ofNat_iff.mpr spells

/-- What the first reading finds, the second one finds as well. -/
theorem readLenient_eq (text : List Char) :
    readLenient text =
      match plainBody? (cutSign (Text.stripWhile Text.isWhiteSpace text)).2 with
      | some plain =>
          readBody (cutSign (Text.stripWhile Text.isWhiteSpace text)).1 plain
      | none => .error .malformed := by
  obtain ⟨negative, body, rfl, first⟩ := exists_readLiteral text
  rw [readLenient, first]
  cases read : readBody negative body with
  | ok n =>
      obtain ⟨value, rfl, short, rfl⟩ := readBody_eq_ok_iff.mp read
      have digits := isDigits_ofNat value
      have strip := stripWhile_withMinus digits negative []
      have cut := cutSign_withMinus digits negative []
      rw [List.append_nil] at strip cut
      have nothing : Text.dropEndWhile Text.isWhiteSpace [] = [] := rfl
      rw [strip, nothing, List.append_nil, cut, plainBody?_ofNat]
      exact read.symm
  | error cause =>
      cases cause with
      | malformed => rfl
      | tooLong =>
          obtain ⟨run, exceeds⟩ := exists_exceeds read
          obtain ⟨rest, rfl⟩ := exceeds.isPrefix
          have shorter : Exceeds
              (run ++ Text.dropEndWhile Text.isWhiteSpace rest) run :=
            { exceeds with isPrefix := List.prefix_append run _ }
          obtain ⟨plain, found, still⟩ := shorter.exists_plain
          rw [stripWhile_withMinus exceeds.isDigits,
            cutSign_withMinus exceeds.isDigits, found]
          exact (still.readBody negative).symm

theorem SpellsMagnitude.starts (spells : SpellsMagnitude text value) :
    ∃ c rest, text = c :: rest ∧ c.isDigit = true := by
  obtain ⟨leading, grouped, zero⟩ := spells
  cases leading with
  | none =>
      obtain ⟨c, rest, rfl, digit⟩ := grouped.starts
      exact ⟨c, _, rfl, digit⟩
  | some _ => exact ⟨'0', _, rfl, rfl⟩

theorem spellsLenient_iff :
    SpellsLenient text n ↔
      ∃ value, SpellsMagnitude (cutSign text).2 value ∧
        n = signed (cutSign text).1 value := by
  constructor
  · intro spells
    cases spells with
    | unsigned spells =>
        obtain ⟨c, rest, rfl, digit⟩ := spells.starts
        have unsigned : cutSign (c :: rest) = (false, c :: rest) :=
          cutSign_withMinus ⟨List.cons_ne_nil c [], by simpa⟩ false rest
        rw [unsigned]
        exact ⟨_, spells, rfl⟩
    | plus spells => exact ⟨_, spells, rfl⟩
    | minus spells => exact ⟨_, spells, rfl⟩
  · rintro ⟨value, spells, rfl⟩
    unfold cutSign at spells ⊢
    split at spells
    · exact .plus spells
    · exact .minus spells
    · exact .unsigned spells

theorem natAbs_signed (negative : Bool) (value : Nat) :
    (signed negative value).natAbs = value := by
  cases negative <;> simp [signed]

/-- Exactly the texts of the grammar are read, with white space around them, as
the integers within the limit that they spell. -/
theorem readLenient_eq_ok_iff :
    readLenient text = .ok n ↔
      SpellsLenient (Text.stripWhile Text.isWhiteSpace text) n ∧
        (ofNat n.natAbs).length ≤ digitLimit := by
  rw [readLenient_eq, spellsLenient_iff]
  generalize cutSign (Text.stripWhile Text.isWhiteSpace text) = cut
  obtain ⟨negative, body⟩ := cut
  dsimp only
  constructor
  · intro read
    split at read
    · rename_i plain found
      obtain ⟨value, rfl, short, rfl⟩ := readBody_eq_ok_iff.mp read
      rw [natAbs_signed]
      exact ⟨⟨value, plainBody?_eq_some_ofNat_iff.mp found, rfl⟩, short⟩
    · cases read
  · rintro ⟨⟨value, spells, rfl⟩, short⟩
    rw [natAbs_signed] at short
    rw [plainBody?_eq_some_ofNat_iff.mpr spells]
    exact readBody_eq_ok_iff.mpr ⟨value, rfl, short, rfl⟩

end ServerConfig.Numeral
