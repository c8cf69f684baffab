import ServerConfig.Proofs.IntegerLiterals
import ServerConfig.Proofs.Json.Written

/-!
# Texts of values

A value of a setting comes from a source as a datum, or from the environment as
a text.  `Kind.Spells` says which texts are texts of a value.  Main statements:
decoding the datum of a value and decoding any text of it both give the value.
-/

namespace ServerConfig

/-! ## Data -/

namespace Decoding

private theorem both_ok {α β γ : Type} {combine : α → β → γ} {first : Decoded α}
    {second : Decoded β} {a : α} {b : β} (left : first = .ok a)
    (right : second = .ok b) : both combine first second = .ok (combine a b) := by
  rw [left, right]
  rfl

theorem textsFrom_ofJson (index : Nat) (values : List String) :
    textsFrom index (Datum.ofJsonItems (values.map .string)) = .ok values := by
  induction values generalizing index with
  | nil => rfl
  | cons value rest ih => exact both_ok rfl (ih (index + 1))

mutual

theorem json_ofJson : (value : Json) → json (.ofJson value) = .ok value
  | .null => rfl
  | .bool _ => rfl
  | .integer _ => rfl
  | .float _ => rfl
  | .string _ => rfl
  | .array items => by
      rw [Datum.ofJson, json, jsonItems_ofJson 0 items]
      rfl
  | .object members => by
      rw [Datum.ofJson, json, jsonMembers_ofJson members]
      rfl

theorem jsonItems_ofJson :
    (index : Nat) → (items : List Json) →
      jsonItems index (Datum.ofJsonItems items) = .ok items
  | _, [] => rfl
  | index, item :: rest => by
      rw [Datum.ofJsonItems, jsonItems, json_ofJson item,
        jsonItems_ofJson (index + 1) rest]
      rfl

theorem jsonMembers_ofJson :
    (members : List (String × Json)) →
      jsonMembers (Datum.ofJsonMembers members) = .ok members
  | [] => rfl
  | (name, value) :: rest => by
      rw [Datum.ofJsonMembers, jsonMembers, json_ofJson value,
        jsonMembers_ofJson rest]
      rfl

end

/-- A value of a setting is decoded from the datum that it is. -/
theorem value_ofJson (kind : Kind) (v : kind.Carrier) :
    value kind (.ofJson (kind.toJson v)) = .ok v := by
  cases kind with
  | flag => rfl
  | number => rfl
  | text => rfl
  | texts => exact textsFrom_ofJson 0 v
  | mapping => exact jsonMembers_ofJson v

end Decoding

/-! ## Texts -/

namespace Kind

/-- A text spells a value of a kind: a flag by one of two words, a number by
its digits, a text by itself, and everything else by JSON. -/
def Spells (kind : Kind) (text : String) (value : kind.Carrier) : Prop :=
  match kind, value with
  | .flag, value => text = if value then "true" else "false"
  | .number, value => text = String.ofList (Numeral.ofInt value)
  | .text, value => text = value
  | .texts, value => Json.SpellsText text (Kind.texts.toJson value)
  | .mapping, value => Json.SpellsText text (Kind.mapping.toJson value)

/-- One of the texts of a value, if it is plain. -/
def spelling : (kind : Kind) → kind.Carrier → String
  | .flag, value => if value then "true" else "false"
  | .number, value => String.ofList (Numeral.ofInt value)
  | .text, value => value
  | .texts, value => String.ofList (Kind.texts.toJson value).render
  | .mapping, value => String.ofList (Kind.mapping.toJson value).render

theorem spells_spelling {kind : Kind} {value : kind.Carrier}
    (plain : (kind.toJson value).isPlain = true) :
    kind.Spells (kind.spelling value) value := by
  cases kind with
  | flag => rfl
  | number => rfl
  | text => rfl
  | texts => exact Json.spellsText_render plain
  | mapping => exact Json.spellsText_render plain

end Kind

namespace Decoding

/-- Every text of a value is read as that value. -/
theorem ofText_of_spells {kind : Kind} {text : String} {value : kind.Carrier}
    (spells : kind.Spells text value)
    (within : (kind.toJson value).Within Json.depthLimit) :
    ofText kind text = .ok value := by
  cases kind with
  | flag =>
      cases spells
      cases value <;> decide +kernel
  | number =>
      cases spells
      have short : (Numeral.ofNat value.natAbs).length ≤ Numeral.digitLimit :=
        of_decide_eq_true within.1
      have literal : Numeral.IsLiteral
          (String.ofList (Numeral.ofInt value)).toList value := by
        rw [String.toList_ofList]
        exact Numeral.isLiteral_ofInt value
      exact ofText_number_eq_ok_iff.mpr ⟨literal, short⟩
  | text =>
      cases spells
      rfl
  | texts =>
      rw [ofText, jsonText, Json.read?_of_spellsText spells within]
      exact congrArg (Except.mapError TextError.faults) (value_ofJson .texts value)
  | mapping =>
      rw [ofText, jsonText, Json.read?_of_spellsText spells within]
      exact congrArg (Except.mapError TextError.faults) (value_ofJson .mapping value)

end Decoding

end ServerConfig
