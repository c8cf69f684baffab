import ServerConfig.Proofs.Json.Text

/-!
# Written JSON text

The text that is written for a value, on one line or with indentation, is one
of the texts of the grammar, so that reading it gives the value back.
-/

namespace ServerConfig.Json

private theorem hexValue?_hexDigit :
    ∀ value < 16, Text.hexValue? (Text.hexDigit value) = some value := by
  decide

theorem spellsUnit_hexText {unit : Nat} (small : unit < 0x10000) :
    SpellsUnit (Text.hexText 4 unit) unit := by
  have digit (n : Nat) :
      Text.hexValue? (Text.hexDigit (n % 16)) = some (n % 16) :=
    hexValue?_hexDigit _ (Nat.mod_lt n (by decide))
  have spells := SpellsUnit.digits (digit (unit / 16 / 16 / 16))
    (digit (unit / 16 / 16)) (digit (unit / 16)) (digit unit)
  have value : ((unit / 16 / 16 / 16 % 16 * 16 + unit / 16 / 16 % 16) * 16 +
      unit / 16 % 16) * 16 + unit % 16 = unit := by
    omega
  rw [value] at spells
  exact spells

theorem spellsChar_unicodeEscape (c : Char) :
    SpellsChar (unicodeEscape c) c := by
  have bounded := toNat_lt c
  unfold unicodeEscape
  split
  · rename_i small
    exact .unit (spellsUnit_hexText small)
  · rename_i great
    exact .pair (Nat.not_lt.mp great) (spellsUnit_hexText (by omega))
      (spellsUnit_hexText (by omega))

theorem spellsChar_writeChar (asciiOnly : Bool) (c : Char) :
    SpellsChar (writeChar asciiOnly c) c := by
  unfold writeChar
  split
  · rename_i same
    subst same
    exact .letter (by decide)
  rename_i quote
  split
  · rename_i same
    subst same
    exact .letter (by decide)
  rename_i solidus
  -- Five control characters have a letter of their own.
  iterate 5
    split
    · rename_i same
      subst same
      exact .letter (by decide)
  split
  · rename_i control
    exact .unit (spellsUnit_hexText (by omega))
  rename_i printable
  split
  · exact spellsChar_unicodeEscape c
  · exact .plain quote solidus (Nat.not_lt.mp printable)

theorem spellsChars_flatMap (asciiOnly : Bool) (chars : List Char) :
    SpellsChars (chars.flatMap (writeChar asciiOnly)) chars := by
  induction chars with
  | nil => exact .nil
  | cons c rest ih =>
      rw [List.flatMap_cons]
      exact .cons (spellsChar_writeChar asciiOnly c) ih

mutual

/-- A value without floating-point numbers, in which every object has each name
once. -/
def isPlain : Json → Bool
  | .float _ => false
  | .array items => arePlain items
  | .object members =>
      decide (Entries.names members).Nodup && membersPlain members
  | _ => true

/-- All items of an array are plain. -/
def arePlain : List Json → Bool
  | [] => true
  | item :: rest => isPlain item && arePlain rest

/-- All members of an object are plain. -/
def membersPlain : List (String × Json) → Bool
  | [] => true
  | (_, value) :: rest => isPlain value && membersPlain rest

end

/-! ## Items and members -/

theorem allSpace_nil : AllSpace [] := by
  intro c member
  cases member

theorem AllSpace.append {space later : List Char} (blank : AllSpace space)
    (blankLater : AllSpace later) : AllSpace (space ++ later) :=
  List.forall_mem_append.mpr ⟨blank, blankLater⟩

section Separated

variable {α : Type} {spells : List Char → α → Prop}
  {space text later : List Char} {texts : List (List Char)} {item : α}
  {items : List α}

theorem Separated.space_append (blank : AllSpace space)
    (separated : Separated spells text items) :
    Separated spells (space ++ text) items := by
  cases separated with
  | last before item after =>
      rw [← List.append_assoc, ← List.append_assoc]
      exact .last (blank.append before) item after
  | next before item after later =>
      rw [← List.append_assoc, ← List.append_assoc, ← List.append_assoc]
      exact .next (blank.append before) item after later

theorem Separated.append_space (blank : AllSpace space)
    (separated : Separated spells text items) :
    Separated spells (text ++ space) items := by
  induction separated with
  | last before item after =>
      rw [List.append_assoc]
      exact .last before item (after.append blank)
  | next before item after _ ih =>
      rw [List.append_assoc, List.cons_append]
      exact .next before item after ih

private theorem Separated.singleton (only : spells text item) :
    Separated spells text [item] := by
  have separated := Separated.last allSpace_nil only allSpace_nil
  rwa [List.nil_append, List.append_nil] at separated

theorem Separated.cons (blank : AllSpace space) (first : spells text item)
    (separated : Separated spells later items) :
    Separated spells (text ++ ',' :: space ++ later) (item :: items) := by
  have whole := Separated.next allSpace_nil first allSpace_nil
    (separated.space_append blank)
  simpa using whole

/-- Texts that are joined by commas with space after them are separated. -/
theorem separated_joined (blank : AllSpace space)
    (spelled : List.Forall₂ spells texts items) (nonempty : items ≠ []) :
    Separated spells (joined (',' :: space) texts) items := by
  induction spelled with
  | nil => exact (nonempty rfl).elim
  | cons first rest ih =>
      cases rest with
      | nil => exact .singleton first
      | cons second later =>
          exact .cons blank first (ih (List.cons_ne_nil _ _))

end Separated

theorem allSpace_blank : AllSpace [' '] := by
  intro c member
  rw [List.mem_singleton.mp member]
  rfl

theorem spellsMember_writeString {spells : List Char → Json → Prop}
    {text : List Char} {name : String} {value : Json} (asciiOnly : Bool)
    (spelled : spells text value) :
    SpellsMember spells (writeString asciiOnly name ++ ':' :: ' ' :: text)
      (name, value) := by
  have entry := SpellsMember.member
    (spellsChars_flatMap asciiOnly name.toList) allSpace_nil allSpace_blank
    spelled
  simpa [writeString] using entry

/-! ## The one-line form -/

mutual

/-- The text written for a value is one of its texts. -/
theorem spells_render :
    (value : Json) → value.isPlain = true → Spells value.render value
  | .null, _ => .null
  | .bool true, _ => .yes
  | .bool false, _ => .no
  | .integer (.ofNat _), _ => .natural
  | .integer (.negSucc _), _ => .negative
  | .float _, plain => by cases plain
  | .string value, _ => .string (spellsChars_flatMap false value.toList)
  | .array [], _ => .emptyArray allSpace_nil
  | .array (first :: rest), plain =>
      .array (separated_joined allSpace_blank
        (spells_renderItems (first :: rest) plain) (List.cons_ne_nil _ _))
  | .object [], _ => .emptyObject allSpace_nil
  | .object (first :: rest), plain => by
      rw [isPlain, Bool.and_eq_true, decide_eq_true_eq] at plain
      exact .object (separated_joined allSpace_blank
        (spells_renderMembers (first :: rest) plain.2)
        (List.cons_ne_nil _ _)) plain.1

theorem spells_renderItems :
    (items : List Json) → arePlain items = true →
      List.Forall₂ Spells (renderItems items) items
  | [], _ => .nil
  | first :: rest, plain => by
      rw [arePlain, Bool.and_eq_true] at plain
      exact .cons (spells_render first plain.1)
        (spells_renderItems rest plain.2)

theorem spells_renderMembers :
    (members : List (String × Json)) → membersPlain members = true →
      List.Forall₂ (SpellsMember Spells) (renderMembers members) members
  | [], _ => .nil
  | (_, value) :: rest, plain => by
      rw [membersPlain, Bool.and_eq_true] at plain
      exact .cons (spellsMember_writeString false
        (spells_render value plain.1)) (spells_renderMembers rest plain.2)

end

theorem spellsText_of_spells {text : List Char} {value : Json}
    (spells : Spells text value) : SpellsText (String.ofList text) value := by
  refine ⟨[], text, [], allSpace_nil, spells, allSpace_nil, ?_⟩
  rw [String.toList_ofList, List.nil_append, List.append_nil]

theorem spellsText_render {value : Json} (plain : value.isPlain = true) :
    SpellsText (String.ofList value.render) value :=
  spellsText_of_spells (spells_render value plain)

/-! ## The indented form -/

theorem allSpace_newLine (level : Nat) : AllSpace (newLine level) := by
  intro c member
  rcases List.mem_cons.mp member with rfl | blank
  · rfl
  · rw [List.eq_of_mem_replicate blank]
    rfl

/-- Texts on lines of their own are separated, brackets aside. -/
theorem indented_eq {α : Type} {spells : List Char → α → Prop}
    {texts : List (List Char)} {items : List α} (level : Nat)
    (opening closing : Char) (spelled : List.Forall₂ spells texts items)
    (nonempty : items ≠ []) :
    ∃ text, indented level opening closing texts =
        opening :: text ++ [closing] ∧
      Separated spells text items := by
  have separated : Separated spells
      (newLine (level + 1) ++ (joined (',' :: newLine (level + 1)) texts ++
        newLine level)) items :=
    ((separated_joined (allSpace_newLine (level + 1)) spelled
      nonempty).append_space (allSpace_newLine level)).space_append
        (allSpace_newLine (level + 1))
  refine ⟨_, ?_, separated⟩
  cases spelled with
  | nil => exact (nonempty rfl).elim
  | cons first rest => simp [indented]

mutual

/-- The indented text of a value is one of its texts at every level. -/
theorem spells_renderIndented (level : Nat) :
    (value : Json) → value.isPlain = true →
      Spells (value.renderIndented level) value
  | .null, _ => .null
  | .bool true, _ => .yes
  | .bool false, _ => .no
  | .integer (.ofNat _), _ => .natural
  | .integer (.negSucc _), _ => .negative
  | .float _, plain => by cases plain
  | .string value, _ => .string (spellsChars_flatMap true value.toList)
  | .array [], _ => .emptyArray allSpace_nil
  | .array (first :: rest), plain => by
      obtain ⟨text, same, separated⟩ := indented_eq level '[' ']'
        (spells_indentItems (level + 1) (first :: rest) plain)
        (List.cons_ne_nil _ _)
      rw [renderIndented, same]
      exact .array separated
  | .object [], _ => .emptyObject allSpace_nil
  | .object (first :: rest), plain => by
      rw [isPlain, Bool.and_eq_true, decide_eq_true_eq] at plain
      obtain ⟨text, same, separated⟩ := indented_eq level '\x7b' '\x7d'
        (spells_indentMembers (level + 1) (first :: rest) plain.2)
        (List.cons_ne_nil _ _)
      rw [renderIndented, same]
      exact .object separated plain.1

theorem spells_indentItems (level : Nat) :
    (items : List Json) → arePlain items = true →
      List.Forall₂ Spells (indentItems level items) items
  | [], _ => .nil
  | first :: rest, plain => by
      rw [arePlain, Bool.and_eq_true] at plain
      exact .cons (spells_renderIndented level first plain.1)
        (spells_indentItems level rest plain.2)

theorem spells_indentMembers (level : Nat) :
    (members : List (String × Json)) → membersPlain members = true →
      List.Forall₂ (SpellsMember Spells) (indentMembers level members) members
  | [], _ => .nil
  | (_, value) :: rest, plain => by
      rw [membersPlain, Bool.and_eq_true] at plain
      exact .cons (spellsMember_writeString true
        (spells_renderIndented level value plain.1))
        (spells_indentMembers level rest plain.2)

end

/-- Reading what was written with indentation gives the value back. -/
theorem read?_of_writeIndented {value : Json} {text : String}
    (plain : value.isPlain = true) (shallow : value.nesting ≤ depthLimit)
    (written : value.writeIndented = .ok text) : read? text = some value := by
  unfold writeIndented at written
  split at written
  · rename_i writable
    cases written
    exact read?_of_spellsText
      (spellsText_of_spells (spells_renderIndented 0 value plain))
      ⟨writable, shallow⟩
  · cases written

end ServerConfig.Json
