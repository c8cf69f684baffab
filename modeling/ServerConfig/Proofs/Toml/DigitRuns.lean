import ServerConfig.Proofs.Toml.Ends

/-!
# Long runs of digits in TOML documents

That an integer is too long is the one failure of reading that is not a fault
of the grammar.  It needs a run of more digits than the limit in the document:
readers leave ends of their texts, so a run that a later reader meets is a run
of the whole document.
-/

namespace ServerConfig.Toml

/-- A text holds a run of digits, low lines aside, that is too long to be read
as an integer. -/
def HasLongRun (text : List Char) : Prop :=
  ∃ run, run <:+: text ∧ (∀ c ∈ run, c.isDigit = true ∨ c = '_') ∧
    Numeral.digitLimit < (run.filter Char.isDigit).length

/-- What may come of reading a text: an end of it is left, or an integer is too
long where the text holds a long run of digits. -/
def Tame {α : Type} (text : List Char) : Result (α × List Char) → Prop
  | .ok (_, rest) => rest <:+ text
  | .error (.numeral _) => HasLongRun text
  | .error .malformed => True

/-- Reading goes on tamely with what the first reader leaves. -/
theorem Tame.bind {α β : Type} {text : List Char}
    {first : Result (α × List Char)}
    {next : α × List Char → Result (β × List Char)} (tame : Tame text first)
    (onward : ∀ value rest, rest <:+ text → Tame text (next (value, rest))) :
    Tame text (first >>= next) := by
  rcases first with (_ | cause) | ⟨value, rest⟩
  · trivial
  · exact tame
  · exact onward value rest tame

theorem Tame.map {α β : Type} {text : List Char}
    {result : Result (α × List Char)} (tame : Tame text result)
    (change : α → β) :
    Tame text (result.map fun (found, rest) => (change found, rest)) := by
  rcases result with (_ | cause) | ⟨value, rest⟩
  · trivial
  · exact tame
  · exact tame

section Values

variable {value : ValueReader}

end Values

end ServerConfig.Toml
