import ServerConfig.Text.Split

/-!
# Cutting and joining

Cutting a text at every separator and joining pieces by it are inverse to each
other on pieces without the separator, and cutting at the first separator is
determined by what stands before it.
-/

namespace ServerConfig.Text

variable {separator : Char} {text before after piece : List Char}
  {cut : List (List Char)}

theorem pieces_cons_of_ne {c : Char} (other : c ≠ separator)
    (rest : List Char) :
    ∃ piece later, pieces separator rest = piece :: later ∧
      pieces separator (c :: rest) = (c :: piece) :: later := by
  cases found : pieces separator rest with
  | nil => exact (pieces_ne_nil separator rest found).elim
  | cons piece later =>
      refine ⟨piece, later, rfl, ?_⟩
      simp [pieces, other, found]

/-- A separator divides the pieces of a text. -/
theorem pieces_append (before after : List Char) :
    pieces separator (before ++ separator :: after) =
      pieces separator before ++ pieces separator after := by
  induction before with
  | nil => simp [pieces]
  | cons c rest ih =>
      by_cases same : c = separator
      · subst same
        simp only [List.cons_append, pieces, if_true, ih]
      · obtain ⟨piece, later, found, longer⟩ := pieces_cons_of_ne same rest
        obtain ⟨joined, others, foundAll, longerAll⟩ :=
          pieces_cons_of_ne same (rest ++ separator :: after)
        rw [ih, found, List.cons_append, List.cons.injEq] at foundAll
        rw [List.cons_append, longerAll, longer, List.cons_append,
          foundAll.1, foundAll.2]

theorem pieces_of_notMem (plain : separator ∉ text) :
    pieces separator text = [text] := by
  induction text with
  | nil => rfl
  | cons c rest ih =>
      rw [List.mem_cons, not_or] at plain
      simp [pieces, Ne.symm plain.1, ih plain.2]

theorem notMem_of_mem_pieces (member : piece ∈ pieces separator text) :
    separator ∉ piece := by
  induction text generalizing piece with
  | nil =>
      rw [pieces, List.mem_singleton] at member
      simp [member]
  | cons c rest ih =>
      by_cases same : c = separator
      · rw [pieces, if_pos same, List.mem_cons] at member
        rcases member with rfl | later
        · exact List.not_mem_nil
        · exact ih later
      · obtain ⟨head, later, found, longer⟩ := pieces_cons_of_ne same rest
        rw [longer, List.mem_cons] at member
        rw [found] at ih
        rcases member with rfl | member
        · rw [List.mem_cons, not_or]
          exact ⟨Ne.symm same, ih List.mem_cons_self⟩
        · exact ih (List.mem_cons_of_mem _ member)

/-- The pieces hold all but the separators. -/
theorem flatten_pieces (separator : Char) (text : List Char) :
    (pieces separator text).flatten = text.filter (· != separator) := by
  induction text with
  | nil => rfl
  | cons c rest ih =>
      by_cases same : c = separator
      · simp [pieces, same, ih]
      · obtain ⟨piece, later, found, longer⟩ := pieces_cons_of_ne same rest
        rw [found, List.flatten_cons] at ih
        rw [longer, List.flatten_cons, List.cons_append, ih,
          List.filter_cons_of_pos (by simpa using same)]

theorem joinPieces_cons (piece : List Char) (later : cut ≠ []) :
    joinPieces separator (piece :: cut) =
      piece ++ separator :: joinPieces separator cut := by
  cases cut with
  | nil => exact (later rfl).elim
  | cons next rest => rfl

/-- Pieces without the separator are found again. -/
theorem pieces_joinPieces (nonempty : cut ≠ [])
    (plain : ∀ piece ∈ cut, separator ∉ piece) :
    pieces separator (joinPieces separator cut) = cut := by
  induction cut with
  | nil => exact (nonempty rfl).elim
  | cons piece rest ih =>
      have alone := pieces_of_notMem (plain piece List.mem_cons_self)
      by_cases last : rest = []
      · rw [last]
        exact alone
      · rw [joinPieces_cons piece last, pieces_append, alone,
          ih last fun piece member => plain piece (.tail _ member)]
        rfl

theorem mem_joinPieces {c : Char} (member : c ∈ joinPieces separator cut) :
    c = separator ∨ ∃ piece ∈ cut, c ∈ piece := by
  induction cut with
  | nil => cases member
  | cons piece rest ih =>
      by_cases last : rest = []
      · subst last
        exact .inr ⟨piece, List.mem_cons_self, member⟩
      · rw [joinPieces_cons piece last, List.mem_append, List.mem_cons]
          at member
        rcases member with here | same | later
        · exact .inr ⟨piece, List.mem_cons_self, here⟩
        · exact .inl same
        · rcases ih later with same | ⟨other, found, inside⟩
          · exact .inl same
          · exact .inr ⟨other, List.mem_cons_of_mem _ found, inside⟩

theorem map_joinPieces (change : Char → Char) (cut : List (List Char)) :
    (joinPieces separator cut).map change =
      joinPieces (change separator) (cut.map (List.map change)) := by
  induction cut with
  | nil => rfl
  | cons piece rest ih =>
      by_cases last : rest = []
      · rw [last]
        rfl
      · rw [List.map_cons, joinPieces_cons piece last,
          joinPieces_cons _ (by simp [last]), List.map_append, List.map_cons,
          ih]

theorem filter_joinPieces {keep : Char → Bool}
    (dropped : keep separator = false) (cut : List (List Char)) :
    (joinPieces separator cut).filter keep = cut.flatten.filter keep := by
  induction cut with
  | nil => rfl
  | cons piece rest ih =>
      by_cases last : rest = []
      · rw [last, List.flatten_cons, List.flatten_nil, List.append_nil]
        rfl
      · rw [joinPieces_cons piece last, List.filter_append,
          List.filter_cons_of_neg (by simp [dropped]), ih, List.flatten_cons,
          List.filter_append]

theorem head?_joinPieces (nonempty : [] ∉ cut) :
    (joinPieces separator cut).head? = cut.flatten.head? := by
  match cut with
  | [] => rfl
  | [] :: _ => exact (nonempty List.mem_cons_self).elim
  | [_ :: _] => rfl
  | (_ :: _) :: _ :: _ => rfl

private theorem flatten_eq_nil_iff (nonempty : [] ∉ cut) :
    cut.flatten = [] ↔ cut = [] := by
  match cut with
  | [] => simp
  | [] :: _ => exact (nonempty List.mem_cons_self).elim
  | (_ :: _) :: _ => simp

theorem getLast?_joinPieces (nonempty : [] ∉ cut) :
    (joinPieces separator cut).getLast? = cut.flatten.getLast? := by
  induction cut with
  | nil => rfl
  | cons piece rest ih =>
      rw [List.mem_cons, not_or] at nonempty
      have same := ih nonempty.2
      cases last : rest.flatten.getLast? with
      | none =>
          rw [List.getLast?_eq_none_iff, flatten_eq_nil_iff nonempty.2] at last
          rw [last, List.flatten_cons, List.flatten_nil, List.append_nil]
          rfl
      | some c =>
          rw [last] at same
          have some : rest ≠ [] := by
            rintro rfl
            cases last
          have joined : joinPieces separator rest ≠ [] := by
            intro empty
            rw [empty] at same
            cases same
          rw [joinPieces_cons piece some, List.flatten_cons,
            List.getLast?_append, List.getLast?_append,
            List.getLast?_cons_of_ne_nil joined, same, last]

theorem cutFirst_of_notMem (plain : separator ∉ text) :
    cutFirst separator text = (text, none) := by
  induction text with
  | nil => rfl
  | cons c rest ih =>
      rw [List.mem_cons, not_or] at plain
      rw [cutFirst, if_neg (Ne.symm plain.1), ih plain.2]

theorem cutFirst_append (plain : separator ∉ before) :
    cutFirst separator (before ++ separator :: after) =
      (before, some after) := by
  induction before with
  | nil => simp [cutFirst]
  | cons c rest ih =>
      rw [List.mem_cons, not_or] at plain
      rw [List.cons_append, cutFirst, if_neg (Ne.symm plain.1), ih plain.2]

/-- A text is cut where it has a separator. -/
theorem cutFirst_cases (separator : Char) (text : List Char) :
    separator ∉ text ∧ cutFirst separator text = (text, none) ∨
      ∃ before after, separator ∉ before ∧
        text = before ++ separator :: after ∧
        cutFirst separator text = (before, some after) := by
  by_cases member : separator ∈ text
  · obtain ⟨before, after, rfl, plain⟩ := List.eq_append_cons_of_mem member
    exact .inr ⟨before, after, plain, rfl, cutFirst_append plain⟩
  · exact .inl ⟨member, cutFirst_of_notMem member⟩

/-- What is cut off a text, with the separator that announces it. -/
def marked (separator : Char) : Option (List Char) → List Char
  | none => []
  | some after => separator :: after

theorem cutFirst_marked (plain : separator ∉ before)
    (after : Option (List Char)) :
    cutFirst separator (before ++ marked separator after) =
      (before, after) := by
  cases after with
  | none =>
      rw [marked, List.append_nil]
      exact cutFirst_of_notMem plain
  | some after => exact cutFirst_append plain

/-- Cutting a text loses nothing. -/
theorem exists_cutFirst (separator : Char) (text : List Char) :
    ∃ before after, separator ∉ before ∧
      text = before ++ marked separator after ∧
      cutFirst separator text = (before, after) := by
  rcases cutFirst_cases separator text with
    ⟨plain, uncut⟩ | ⟨before, after, plain, whole, cut⟩
  · exact ⟨text, none, plain, (List.append_nil text).symm, uncut⟩
  · exact ⟨before, some after, plain, whole, cut⟩

end ServerConfig.Text
