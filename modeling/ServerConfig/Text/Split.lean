/-!
# Cutting text at a separator

The grammars of addresses, URLs and paths are read by cutting a text at the
first, the last or every occurrence of a separator.
-/

namespace ServerConfig.Text

/-- What stands before the first `separator`, and what follows it when there is
one. -/
def cutFirst (separator : Char) : List Char → List Char × Option (List Char)
  | [] => ([], none)
  | c :: rest =>
      if c = separator then ([], some rest)
      else
        let (before, after) := cutFirst separator rest
        (c :: before, after)

/-- What follows the last `separator`, or the whole text without one. -/
def afterLast (separator : Char) (text : List Char) : List Char :=
  (text.reverse.takeWhile (· != separator)).reverse

/-- The pieces between the occurrences of `separator`, empty ones included. -/
def pieces (separator : Char) : List Char → List (List Char)
  | [] => [[]]
  | c :: rest =>
      if c = separator then [] :: pieces separator rest
      else
        match pieces separator rest with
        | [] => [[c]]
        | piece :: later => (c :: piece) :: later

/-- The pieces joined by `separator`. -/
def joinPieces (separator : Char) : List (List Char) → List Char
  | [] => []
  | [piece] => piece
  | piece :: later => piece ++ separator :: joinPieces separator later

theorem pieces_ne_nil (separator : Char) (text : List Char) :
    pieces separator text ≠ [] := by
  cases text with
  | nil => simp [pieces]
  | cons c rest =>
      unfold pieces
      split
      · simp
      · split <;> simp

/-- Cutting at a separator loses nothing. -/
theorem joinPieces_pieces (separator : Char) (text : List Char) :
    joinPieces separator (pieces separator text) = text := by
  induction text with
  | nil => rfl
  | cons c rest ih =>
      unfold pieces
      have nonempty := pieces_ne_nil separator rest
      cases found : pieces separator rest with
      | nil => exact absurd found nonempty
      | cons piece later =>
          rw [found] at ih
          by_cases same : c = separator
          · simp [same, joinPieces, ih]
          · cases later with
            | nil => simp_all [joinPieces]
            | cons next later => simp_all [joinPieces]

end ServerConfig.Text
