import ServerConfig.Text.CodeRange

/-!
# Searching a text

A pattern is searched for from left to right, and the next match is looked for
behind the last one.
-/

namespace ServerConfig.Text

/-- A pattern is given the first character of a text and the rest.  Where it
matches, it tells how many characters of the rest belong to the match and what
the match stands for. -/
abbrev Pattern (α : Type) := Char → List Char → Option (Nat × α)

/-- A part of a text that was searched: a match, with the number of characters
behind its first one, or a character that belongs to no match. -/
inductive Part (α : Type) where
  | found (more : Nat) (value : α)
  | other (c : Char)
deriving DecidableEq, Repr

variable {α : Type}

/-- The parts of a text, of which the first `skip` characters belong to a match
that began before it. -/
def search (pattern : Pattern α) (skip : Nat) : List Char → List (Part α)
  | [] => []
  | c :: rest =>
      match skip with
      | skip + 1 => search pattern skip rest
      | 0 =>
          match pattern c rest with
          | some (more, value) => .found more value :: search pattern more rest
          | none => .other c :: search pattern 0 rest

/-- A match with the places in the text where it starts and stops. -/
structure Found (α : Type) where
  start : Nat
  stop : Nat
  value : α
deriving DecidableEq, Repr

/-- The matches among the parts of a text that starts at the given place. -/
def locate (place : Nat) : List (Part α) → List (Found α)
  | [] => []
  | .found more value :: later =>
      ⟨place, place + more + 1, value⟩ :: locate (place + more + 1) later
  | .other _ :: later => locate (place + 1) later

def findAll (pattern : Pattern α) (text : List Char) : List (Found α) :=
  locate 0 (search pattern 0 text)

/-- The text with all matches of a pattern replaced. -/
def replaceAll (pattern : Pattern (List Char)) (text : List Char) : List Char :=
  (search pattern 0 text).flatMap fun
    | .found _ replacement => replacement
    | .other c => [c]

end ServerConfig.Text
