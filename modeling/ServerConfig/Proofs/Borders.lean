import ServerConfig.Proofs.Text.Runs
import ServerConfig.Proofs.Text.Search
import ServerConfig.VariableName

/-!
# Borders between words

Words are set apart by replacing matches that do not overlap, and an acronym
takes as many capitals as it can.  Nevertheless no place is missed:
`markAcronyms`, `markCapitals` and `joinSeparators` go from one character to the
next, and they do the same as the replacements.  Main statement: the first two
replacements mark the borders between words, all of them and nothing else.
-/

namespace ServerConfig.VariableName

/-- Whether adjacent letters or digits `a` and `b`, with `after` behind them,
belong to different words: a capital starts a word after a small letter or
digit, and after a capital if a small letter follows. -/
def isBorder (a b : Char) (after : List Char) : Bool :=
  isCapital b && (isSmall a || a.isDigit) ||
    isCapital a && isCapital b && after.head?.any isSmall

/-- Mark the border between any two words. -/
def markBorders : List Char → List Char
  | a :: b :: rest =>
      if isBorder a b rest then a :: '_' :: markBorders (b :: rest)
      else a :: markBorders (b :: rest)
  | text => text

/-- Mark the border between an acronym and the capitalised word after it. -/
def markAcronyms : List Char → List Char
  | [] => []
  | c :: rest =>
      if isCapital c && startsWord rest then c :: '_' :: markAcronyms rest
      else c :: markAcronyms rest

/-- Mark the border between a small letter or digit and a capital after it. -/
def markCapitals : List Char → List Char
  | a :: b :: rest =>
      if (isSmall a || a.isDigit) && isCapital b then
        a :: '_' :: markCapitals (b :: rest)
      else a :: markCapitals (b :: rest)
  | text => text

/-- Put one low line in place of every run of characters that belong to no
word.  `inRun` tells whether the run has its low line already. -/
def joinSeparators (inRun : Bool) : List Char → List Char
  | [] => []
  | c :: rest =>
      if isWordChar c then c :: joinSeparators false rest
      else if inRun then joinSeparators true rest
      else '_' :: joinSeparators true rest

variable {a b c : Char} {text rest after front later replacement : List Char}
  {inRun : Bool} {count more : Nat}

/-! ## Kinds of characters -/

theorem isCapital_iff :
    isCapital c = true ↔ 0x41 ≤ c.toNat ∧ c.toNat ≤ 0x5A := by
  rw [isCapital, Bool.and_eq_true, decide_eq_true_eq, decide_eq_true_eq]
  exact Iff.rfl

theorem isSmall_iff :
    isSmall c = true ↔ 0x61 ≤ c.toNat ∧ c.toNat ≤ 0x7A := by
  rw [isSmall, Bool.and_eq_true, decide_eq_true_eq, decide_eq_true_eq]
  exact Iff.rfl

theorem isDigit_iff :
    c.isDigit = true ↔ 0x30 ≤ c.toNat ∧ c.toNat ≤ 0x39 := by
  rw [Char.isDigit, Bool.and_eq_true, decide_eq_true_eq, decide_eq_true_eq]
  exact Iff.rfl

theorem isWordChar_iff :
    isWordChar c = true ↔
      isCapital c = true ∨ isSmall c = true ∨ c.isDigit = true := by
  rw [isWordChar, Bool.or_eq_true, Bool.or_eq_true, or_assoc]

theorem other_of_isCapital (capital : isCapital c = true) :
    (isSmall c || c.isDigit) = false := by
  rw [Bool.eq_false_iff, ne_eq, Bool.or_eq_true, isSmall_iff, isDigit_iff]
  rw [isCapital_iff] at capital
  omega

theorem isWordChar_of_isBorder (border : isBorder a b after = true) :
    isWordChar a = true ∧ isWordChar b = true := by
  simp only [isBorder, Bool.or_eq_true, Bool.and_eq_true] at border
  rw [isWordChar_iff, isWordChar_iff]
  rcases border with ⟨capital, first⟩ | ⟨⟨first, capital⟩, _⟩
  · exact ⟨.inr first, .inl capital⟩
  · exact ⟨.inl first, .inl capital⟩

theorem any_isSmall_append (capitals : ∀ c ∈ front, isCapital c = true)
    (last : after.head?.any isSmall = false) :
    (front ++ after).head?.any isSmall = false := by
  cases front with
  | nil => exact last
  | cons c front =>
      have other := other_of_isCapital (capitals c List.mem_cons_self)
      rw [Bool.or_eq_false_iff] at other
      exact other.1

theorem startsWord_cons (b : Char) (after : List Char) :
    startsWord (b :: after) = (isCapital b && after.head?.any isSmall) := by
  cases after with
  | nil => exact (Bool.and_false _).symm
  | cons c after => rfl

/-! ## Acronyms -/

theorem exists_of_acronymLength? (found : acronymLength? text = some count) :
    ∃ front later, text = front ++ later ∧ front.length = count ∧
      front ≠ [] ∧ (∀ c ∈ front, isCapital c = true) ∧
      startsWord later = true := by
  induction text generalizing count with
  | nil => cases found
  | cons c rest ih =>
      rw [acronymLength?] at found
      split at found
      · cases found
      · rename_i capital
        rw [Bool.not_eq_true, Bool.not_eq_false'] at capital
        split at found
        · rename_i fewer read
          cases found
          obtain ⟨front, later, rfl, rfl, _, capitals, word⟩ := ih read
          exact ⟨c :: front, later, rfl, rfl, List.cons_ne_nil c front,
            List.forall_mem_cons.mpr ⟨capital, capitals⟩, word⟩
        · split at found
          · rename_i word
            cases found
            exact ⟨[c], rest, rfl, rfl, List.cons_ne_nil c [],
              by simpa using capital, word⟩
          · cases found

theorem startsWord_of_acronymLength?
    (none : acronymLength? (c :: rest) = none) (capital : isCapital c = true) :
    startsWord rest = false := by
  rw [acronymLength?, capital, Bool.not_true, if_neg Bool.false_ne_true]
    at none
  split at none
  · cases none
  · split at none
    · cases none
    · rename_i other
      exact Bool.eq_false_iff.mpr other

/-- What is set apart is capitals, and a capital and a small letter behind
them. -/
theorem exists_of_acronymEnd
    (found : acronymEnd c rest = some (more, replacement)) :
    ∃ front a b later, c :: rest = front ++ a :: b :: later ∧
      more = front.length + 1 ∧ replacement = front ++ ['_', a, b] ∧
      front ≠ [] ∧ (∀ c ∈ front, isCapital c = true) ∧
      isCapital a = true ∧ isSmall b = true := by
  obtain ⟨count, read, same⟩ := Option.map_eq_some_iff.mp found
  obtain ⟨front, later, whole, rfl, nonempty, capitals, word⟩ :=
    exists_of_acronymLength? read
  rw [whole, List.take_left, List.drop_left] at same
  match later with
  | a :: b :: later =>
      cases same
      rw [startsWord, Bool.and_eq_true] at word
      exact ⟨front, a, b, later, whole, rfl, rfl, nonempty, capitals, word⟩

theorem markAcronyms_acronym (nonempty : front ≠ [])
    (capitals : ∀ c ∈ front, isCapital c = true)
    (capital : isCapital a = true) (small : isSmall b = true) :
    markAcronyms (front ++ a :: b :: after) =
      front ++ '_' :: a :: b :: markAcronyms after := by
  induction front with
  | nil => exact (nonempty rfl).elim
  | cons c front ih =>
      rw [List.forall_mem_cons] at capitals
      cases front with
      | nil =>
          have other : isCapital b = false := by
            rw [Bool.eq_false_iff, ne_eq, isCapital_iff]
            rw [isSmall_iff] at small
            omega
          simp [markAcronyms, startsWord_cons, capitals.1, capital, small,
            other]
      | cons d front =>
          have later := ih (List.cons_ne_nil d front) capitals.2
          have inside : startsWord (d :: (front ++ a :: b :: after)) = false := by
            have last : (a :: b :: after).head?.any isSmall = false :=
              (Bool.or_eq_false_iff.mp (other_of_isCapital capital)).1
            rw [List.forall_mem_cons] at capitals
            rw [startsWord_cons, any_isSmall_append capitals.2.2 last,
              Bool.and_false]
          rw [List.cons_append] at later
          rw [List.cons_append, List.cons_append, markAcronyms, inside,
            Bool.and_false, if_neg Bool.false_ne_true, later]
          rfl

theorem replaceAll_acronymEnd (text : List Char) :
    Text.replaceAll acronymEnd text = markAcronyms text := by
  apply Text.replaceAll_eq
  case nil => rfl
  case found =>
    intro c rest more replacement found
    obtain ⟨front, a, b, later, whole, rfl, rfl, nonempty, capitals, capital,
      small⟩ := exists_of_acronymEnd found
    have behind : rest.drop (front.length + 1) = later :=
      calc
        rest.drop (front.length + 1) =
            (c :: rest).drop (front.length + 2) := rfl
        _ = ((front ++ a :: b :: later).drop front.length).drop 2 := by
          rw [whole, List.drop_drop]
        _ = later := by
          rw [List.drop_left]
          rfl
    rw [behind, whole, markAcronyms_acronym nonempty capitals capital small,
      List.append_assoc]
    rfl
  case other =>
    intro c rest none
    have unmarked : (isCapital c && startsWord rest) = false := by
      cases capital : isCapital c with
      | false => rfl
      | true =>
          rw [Bool.true_and]
          exact startsWord_of_acronymLength?
            (Option.map_eq_none_iff.mp none) capital
    rw [markAcronyms, unmarked, if_neg Bool.false_ne_true]

/-! ## Capitals -/

private theorem markCapitals_capital (capital : isCapital b = true)
    (after : List Char) :
    markCapitals (b :: after) = b :: markCapitals after := by
  cases after with
  | nil => rfl
  | cons c after =>
      rw [markCapitals, other_of_isCapital capital, Bool.false_and,
        if_neg Bool.false_ne_true]

theorem replaceAll_wordStart (text : List Char) :
    Text.replaceAll wordStart text = markCapitals text := by
  apply Text.replaceAll_eq
  case nil => rfl
  case found =>
    intro a rest more replacement found
    cases rest with
    | nil => cases found
    | cons b after =>
        rw [wordStart] at found
        split at found
        · rename_i border
          cases found
          have capital := ((Bool.and_eq_true _ _).mp border).2
          rw [markCapitals, if_pos border, markCapitals_capital capital]
          rfl
        · cases found
  case other =>
    intro a rest none
    cases rest with
    | nil => rfl
    | cons b after =>
        rw [wordStart] at none
        split at none
        · cases none
        · rename_i plain
          rw [markCapitals, if_neg plain]

/-! ## Separators -/

theorem joinSeparators_word (word : isWordChar c = true) :
    joinSeparators inRun (c :: text) = c :: joinSeparators false text := by
  rw [joinSeparators, if_pos word]

theorem joinSeparators_run (other : isWordChar c = false) :
    joinSeparators true (c :: text) = joinSeparators true text := by
  rw [joinSeparators, other]
  rfl

theorem joinSeparators_start (other : isWordChar c = false) :
    joinSeparators false (c :: text) = '_' :: joinSeparators true text := by
  rw [joinSeparators, other]
  rfl

/-- A run of separators has one low line, and it ends where a word starts. -/
theorem joinSeparators_append {run : List Char}
    (others : ∀ c ∈ run, (!isWordChar c) = true)
    (stops : Text.Stops (!isWordChar ·) rest) :
    joinSeparators true (run ++ rest) = joinSeparators false rest := by
  induction run with
  | nil =>
      cases rest with
      | nil => rfl
      | cons c rest =>
          have word : isWordChar c = true := by
            simpa using Text.stops_cons.mp stops
          rw [List.nil_append, joinSeparators_word word,
            joinSeparators_word word]
  | cons c run ih =>
      rw [List.forall_mem_cons, Bool.not_eq_true'] at others
      rw [List.cons_append, joinSeparators_run others.1, ih others.2]

theorem replaceAll_separators (text : List Char) :
    Text.replaceAll separators text = joinSeparators false text := by
  apply Text.replaceAll_eq
  case nil => rfl
  case found =>
    intro c rest more replacement found
    rw [separators] at found
    split at found
    · cases found
    · rename_i other
      rw [Bool.not_eq_true] at other
      obtain ⟨run, later, rfl, others, stops⟩ :=
        Text.exists_run (!isWordChar ·) rest
      rw [Text.takeWhile_append_of_stops others stops] at found
      cases found
      rw [List.drop_left, joinSeparators_start other,
        joinSeparators_append others stops]
      rfl
  case other =>
    intro c rest none
    rw [separators] at none
    split at none
    · rename_i word
      exact joinSeparators_word word
    · cases none

/-! ## One pass instead of two -/

private theorem exists_markAcronyms_cons (a : Char) (rest : List Char) :
    ∃ later, markAcronyms (a :: rest) = a :: later := by
  rw [markAcronyms]
  split <;> exact ⟨_, rfl⟩

/-- A low line separates words already. -/
theorem markCapitals_low (a b : Char) (rest : List Char) :
    markCapitals (a :: '_' :: b :: rest) =
      a :: '_' :: markCapitals (b :: rest) := by
  have low : isCapital '_' = false := by decide
  have first : (isSmall '_' || '_'.isDigit) = false := by decide
  rw [markCapitals, low, Bool.and_false, if_neg Bool.false_ne_true,
    markCapitals, first, Bool.false_and, if_neg Bool.false_ne_true]

/-- Both kinds of borders are marked as if at once. -/
theorem markCapitals_markAcronyms (text : List Char) :
    markCapitals (markAcronyms text) = markBorders text := by
  match text with
  | [] => rfl
  | [c] => simp [markAcronyms, startsWord, markCapitals, markBorders]
  | a :: b :: rest =>
      have ih := markCapitals_markAcronyms (b :: rest)
      obtain ⟨later, head⟩ := exists_markAcronyms_cons b rest
      rw [head] at ih
      rw [markAcronyms, startsWord_cons, ← Bool.and_assoc, markBorders,
        isBorder, ← ih, head]
      cases acronym :
          isCapital a && isCapital b && rest.head?.any isSmall with
      | true =>
          rw [Bool.or_true, if_pos rfl, if_pos rfl]
          exact markCapitals_low a b later
      | false =>
          rw [Bool.or_false, if_neg Bool.false_ne_true, Bool.and_comm,
            markCapitals]

/-- The replacements mark all borders and nothing else. -/
theorem replaceAll_borders (text : List Char) :
    Text.replaceAll wordStart (Text.replaceAll acronymEnd text) =
      markBorders text := by
  rw [replaceAll_acronymEnd, replaceAll_wordStart, markCapitals_markAcronyms]

end ServerConfig.VariableName
