import ServerConfig.Text.Search

/-!
# Searched texts

Searching goes on behind a match as if the text started there, and behind a
character that starts no match.  So a property of all texts follows by
induction on their length, with one case for either kind of part.
-/

namespace ServerConfig.Text

variable {α : Type} {pattern : Pattern α} {replacing : Pattern (List Char)}
  {c : Char} {rest replacement : List Char} {more place : Nat} {value : α}

private theorem search_skip (pattern : Pattern α) (skip : Nat) (text : List Char) :
    search pattern skip text = search pattern 0 (text.drop skip) := by
  induction text generalizing skip with
  | nil => rw [List.drop_nil, search, search]
  | cons c rest ih =>
      cases skip with
      | zero => rfl
      | succ skip =>
          rw [search, List.drop_succ_cons]
          exact ih skip

theorem search_found (found : pattern c rest = some (more, value)) :
    search pattern 0 (c :: rest) =
      .found more value :: search pattern 0 (rest.drop more) := by
  rw [search, found]
  dsimp only
  rw [search_skip]

theorem search_other (none : pattern c rest = none) :
    search pattern 0 (c :: rest) = .other c :: search pattern 0 rest := by
  rw [search, none]

theorem replaceAll_found
    (found : replacing c rest = some (more, replacement)) :
    replaceAll replacing (c :: rest) =
      replacement ++ replaceAll replacing (rest.drop more) := by
  rw [replaceAll, search_found found]
  rfl

private theorem replaceAll_other (none : replacing c rest = none) :
    replaceAll replacing (c :: rest) = c :: replaceAll replacing rest := by
  rw [replaceAll, search_other none]
  rfl

/-- Replacing is determined by what becomes of a match and of a character that
starts none. -/
theorem replaceAll_eq {result : List Char → List Char}
    (nil : result [] = [])
    (found : ∀ c rest more replacement,
      replacing c rest = some (more, replacement) →
        result (c :: rest) = replacement ++ result (rest.drop more))
    (other : ∀ c rest, replacing c rest = none →
      result (c :: rest) = c :: result rest) (text : List Char) :
    replaceAll replacing text = result text := by
  induction length : text.length using Nat.strongRecOn generalizing text with
  | ind size ih =>
      cases text with
      | nil => exact nil.symm
      | cons c rest =>
          rw [List.length_cons] at length
          cases matched : replacing c rest with
          | none =>
              rw [replaceAll_other matched, other c rest matched,
                ih rest.length (by omega) rest rfl]
          | some part =>
              obtain ⟨more, replacement⟩ := part
              have shorter : (rest.drop more).length = rest.length - more :=
                List.length_drop
              rw [replaceAll_found matched, found c rest more _ matched,
                ih (rest.drop more).length (by omega) _ rfl]

/-- Matches start in the text that is searched. -/
theorem le_start {parts : List (Part α)} {found : Found α}
    (member : found ∈ locate place parts) : place ≤ found.start := by
  induction parts generalizing place with
  | nil => cases member
  | cons part later ih =>
      cases part with
      | found more value =>
          rcases List.mem_cons.mp member with rfl | behind
          · exact Nat.le_refl place
          · exact Nat.le_trans (by omega) (ih behind)
      | other c => exact Nat.le_trans (by omega) (ih member)

end ServerConfig.Text
