import ServerConfig.Proofs.Borders
import ServerConfig.Proofs.Text.Split
import ServerConfig.Proofs.Text.Trimming

/-!
# The words of an identifier

Words consist of letters and digits.  Anything else separates them, and so does
the border between a capitalised word and what stands before it.  `words` finds
them in one pass over the identifier, and `Divides` says between which
characters they end.  Main statement: the name of an identifier consists of
these words in capitals, with single low lines between them.
-/

namespace ServerConfig.VariableName

/-- Whether the word of `a` goes on with what follows. -/
def goesOn (a : Char) : List Char → Bool
  | [] => false
  | b :: after => isWordChar b && !isBorder a b after

/-- Put a character in front of the first word. -/
def extendFirst (c : Char) : List (List Char) → List (List Char)
  | [] => [[c]]
  | word :: later => (c :: word) :: later

/-- The words of an identifier. -/
def words : List Char → List (List Char)
  | [] => []
  | c :: rest =>
      if !isWordChar c then words rest
      else if goesOn c rest then extendFirst c (words rest)
      else [c] :: words rest

variable {a b c : Char} {text rest after : List Char} {inRun : Bool}

/-! ## Words and separators -/

theorem words_of_other (other : isWordChar c = false) (rest : List Char) :
    words (c :: rest) = words rest := by
  rw [words, other]
  rfl

theorem words_of_goesOn (word : isWordChar c = true)
    (on : goesOn c rest = true) :
    words (c :: rest) = extendFirst c (words rest) := by
  rw [words, word, on]
  rfl

theorem words_of_ends (word : isWordChar c = true)
    (ends : goesOn c rest = false) :
    words (c :: rest) = [c] :: words rest := by
  rw [words, word, ends]
  rfl

theorem exists_of_goesOn (on : goesOn c rest = true) :
    ∃ b after, rest = b :: after ∧ isWordChar b = true ∧
      isBorder c b after = false := by
  cases rest with
  | nil => cases on
  | cons b after =>
      rw [goesOn, Bool.and_eq_true, Bool.not_eq_true'] at on
      exact ⟨b, after, rfl, on.1, on.2⟩

/-- A text that starts with a word character has a first word. -/
theorem exists_words_cons (word : isWordChar c = true) (rest : List Char) :
    ∃ later others, words (c :: rest) = (c :: later) :: others := by
  cases on : goesOn c rest with
  | false => exact ⟨[], words rest, words_of_ends word on⟩
  | true =>
      rw [words_of_goesOn word on]
      cases words rest with
      | nil => exact ⟨[], [], rfl⟩
      | cons first others => exact ⟨first, others, rfl⟩

theorem markBorders_of_other (other : isWordChar c = false)
    (rest : List Char) : markBorders (c :: rest) = c :: markBorders rest := by
  cases rest with
  | nil => rfl
  | cons b after =>
      rw [markBorders, if_neg]
      intro border
      rw [(isWordChar_of_isBorder border).1] at other
      cases other

private theorem exists_markBorders_cons (c : Char) (rest : List Char) :
    ∃ later, markBorders (c :: rest) = c :: later := by
  cases rest with
  | nil => exact ⟨[], rfl⟩
  | cons b rest =>
      rw [markBorders]
      split <;> exact ⟨_, rfl⟩

/-- A word that goes on is not marked. -/
theorem joinSeparators_goesOn (word : isWordChar c = true)
    (on : goesOn c rest = true) :
    joinSeparators inRun (markBorders (c :: rest)) =
      c :: joinSeparators true (markBorders rest) := by
  obtain ⟨b, after, rfl, next, inside⟩ := exists_of_goesOn on
  obtain ⟨later, head⟩ := exists_markBorders_cons b after
  rw [markBorders, inside, if_neg Bool.false_ne_true,
    joinSeparators_word word, head, joinSeparators_word next,
    joinSeparators_word next]

/-- A word that ends before the text does is followed by one low line. -/
theorem joinSeparators_ends (word : isWordChar c = true)
    (ends : goesOn c (b :: after) = false) :
    joinSeparators inRun (markBorders (c :: b :: after)) =
      c :: '_' :: joinSeparators true (markBorders (b :: after)) := by
  have low : isWordChar '_' = false := by decide
  cases border : isBorder c b after with
  | true =>
      rw [markBorders, border, if_pos rfl, joinSeparators_word word,
        joinSeparators_start low]
  | false =>
      have other : isWordChar b = false := by
        rwa [goesOn, border, Bool.not_false, Bool.and_true] at ends
      rw [markBorders, border, if_neg Bool.false_ne_true,
        joinSeparators_word word, markBorders_of_other other,
        joinSeparators_start other, joinSeparators_run other]

theorem joinPieces_extendFirst {cut : List (List Char)} (some : cut ≠ []) :
    Text.joinPieces '_' (extendFirst c cut) =
      c :: Text.joinPieces '_' cut := by
  match cut with
  | [] => exact (some rfl).elim
  | [_] => rfl
  | _ :: _ :: _ => rfl

/-- Within a run of separators the words are joined as they should be, but for a
low line that may be left at the end. -/
theorem exists_joinSeparators (text : List Char) :
    ∃ low, (∀ c ∈ low, c = '_') ∧
      joinSeparators true (markBorders text) =
        Text.joinPieces '_' (words text) ++ low := by
  induction text with
  | nil => exact ⟨[], by simp, rfl⟩
  | cons c rest ih =>
      obtain ⟨low, lows, same⟩ := ih
      cases word : isWordChar c with
      | false =>
          refine ⟨low, lows, ?_⟩
          rw [markBorders_of_other word, joinSeparators_run word, same,
            words_of_other word]
      | true =>
          cases on : goesOn c rest with
          | true =>
              obtain ⟨b, after, rfl, next, _⟩ := exists_of_goesOn on
              obtain ⟨later, others, first⟩ := exists_words_cons next after
              have some : words (b :: after) ≠ [] := by
                rw [first]
                exact List.cons_ne_nil _ _
              refine ⟨low, lows, ?_⟩
              rw [joinSeparators_goesOn word on, same, words_of_goesOn word on,
                joinPieces_extendFirst some, List.cons_append]
          | false =>
              rw [words_of_ends word on]
              cases rest with
              | nil =>
                  refine ⟨[], by simp, ?_⟩
                  exact joinSeparators_word word
              | cons b after =>
                  rw [joinSeparators_ends word on, same]
                  cases found : words (b :: after) with
                  | nil =>
                      refine ⟨'_' :: low, ?_, rfl⟩
                      exact List.forall_mem_cons.mpr ⟨rfl, lows⟩
                  | cons first others => exact ⟨low, lows, rfl⟩

/-! ## Letters and digits are kept -/

private theorem flatten_extendFirst (c : Char) (cut : List (List Char)) :
    (extendFirst c cut).flatten = c :: cut.flatten := by
  cases cut <;> rfl

theorem flatten_words (text : List Char) :
    (words text).flatten = text.filter isWordChar := by
  induction text with
  | nil => rfl
  | cons c rest ih =>
      cases word : isWordChar c with
      | false =>
          rw [words_of_other word, ih, List.filter_cons_of_neg (by simp [word])]
      | true =>
          rw [List.filter_cons_of_pos word, ← ih]
          cases on : goesOn c rest with
          | true => rw [words_of_goesOn word on, flatten_extendFirst]
          | false =>
              rw [words_of_ends word on]
              rfl

theorem nil_notMem_words (text : List Char) : [] ∉ words text := by
  induction text with
  | nil => exact List.not_mem_nil
  | cons c rest ih =>
      cases word : isWordChar c with
      | false => rwa [words_of_other word]
      | true =>
          cases on : goesOn c rest with
          | true =>
              rw [words_of_goesOn word on]
              cases found : words rest with
              | nil => simp [extendFirst]
              | cons first others =>
                  rw [found, List.mem_cons, not_or] at ih
                  simp [extendFirst, ih.2]
          | false => simp [words_of_ends word on, ih]

theorem isWordChar_of_mem_flatten (member : c ∈ (words text).flatten) :
    isWordChar c = true := by
  rw [flatten_words] at member
  exact (List.mem_filter.mp member).2

/-! ## Where words end -/

/-- A word ends behind these letters and digits. -/
def EndsBehind (cut : List (List Char)) (letters : List Char) : Prop :=
  ∃ earlier later, cut = earlier ++ later ∧ earlier.flatten = letters

section Ends

variable {cut : List (List Char)} {word letters : List Char}

theorem endsBehind_single :
    EndsBehind ([c] :: cut) (c :: letters) ↔ EndsBehind cut letters := by
  constructor
  · intro ends
    obtain ⟨earlier, later, split, same⟩ := ends
    cases earlier with
    | nil => cases same
    | cons first earlier =>
        obtain ⟨rfl, rfl⟩ := List.cons.inj split
        exact ⟨earlier, later, rfl, (List.cons.inj same).2⟩
  · intro ends
    obtain ⟨earlier, later, rfl, rfl⟩ := ends
    exact ⟨[c] :: earlier, later, rfl, rfl⟩

theorem endsBehind_extend (some : letters ≠ []) :
    EndsBehind ((c :: word) :: cut) (c :: letters) ↔
      EndsBehind (word :: cut) letters := by
  constructor
  · intro ends
    obtain ⟨earlier, later, split, same⟩ := ends
    cases earlier with
    | nil => cases same
    | cons first earlier =>
        obtain ⟨rfl, rfl⟩ := List.cons.inj split
        exact ⟨word :: earlier, later, rfl, (List.cons.inj same).2⟩
  · intro ends
    obtain ⟨earlier, later, split, same⟩ := ends
    cases earlier with
    | nil => exact (some same.symm).elim
    | cons first earlier =>
        obtain ⟨rfl, rfl⟩ := List.cons.inj split
        exact ⟨(c :: word) :: earlier, later, rfl, congrArg (c :: ·) same⟩

end Ends

/-- Words are divided exactly by other characters and by borders. -/
structure Divides (text : List Char) (cut : List (List Char)) : Prop where
  nonempty : [] ∉ cut
  letters : cut.flatten = text.filter isWordChar
  ends : ∀ before a gap b after, text = before ++ a :: (gap ++ b :: after) →
    isWordChar a = true → isWordChar b = true →
    (∀ c ∈ gap, isWordChar c = false) →
      (EndsBehind cut ((before ++ [a]).filter isWordChar) ↔
        gap ≠ [] ∨ isBorder a b after = true)

/-- The first word of a text ends behind its first character exactly if it does
not go on. -/
theorem endsBehind_first (word : isWordChar a = true) (rest : List Char) :
    EndsBehind (words (a :: rest)) [a] ↔ goesOn a rest = false := by
  cases on : goesOn a rest with
  | false =>
      rw [words_of_ends word on, endsBehind_single]
      simp only [iff_true]
      exact ⟨[], words rest, rfl, rfl⟩
  | true =>
      obtain ⟨b, after, rfl, next, _⟩ := exists_of_goesOn on
      obtain ⟨later, others, first⟩ := exists_words_cons next after
      simp only [Bool.true_eq_false, iff_false]
      intro ends
      rw [words_of_goesOn word on, first] at ends
      obtain ⟨earlier, behind, split, same⟩ := ends
      cases earlier with
      | nil => cases same
      | cons front earlier =>
          obtain ⟨rfl, _⟩ := List.cons.inj split
          cases same

/-- Whether a word ends does not depend on what stands before it. -/
theorem endsBehind_append (before : List Char) (word : isWordChar a = true)
    (rest : List Char) :
    EndsBehind (words (before ++ a :: rest))
        ((before ++ [a]).filter isWordChar) ↔
      EndsBehind (words (a :: rest)) [a] := by
  induction before with
  | nil =>
      rw [List.nil_append, List.nil_append, List.filter_cons_of_pos word]
      rfl
  | cons c before ih =>
      have some : (before ++ [a]).filter isWordChar ≠ [] := by
        simp [List.filter_append, word]
      rw [← ih, List.cons_append, List.cons_append]
      cases kept : isWordChar c with
      | false =>
          rw [words_of_other kept, List.filter_cons_of_neg (by simp [kept])]
      | true =>
          rw [List.filter_cons_of_pos kept]
          cases on : goesOn c (before ++ a :: rest) with
          | false => rw [words_of_ends kept on, endsBehind_single]
          | true =>
              obtain ⟨b, after, same, next, _⟩ := exists_of_goesOn on
              obtain ⟨later, others, first⟩ := exists_words_cons next after
              rw [words_of_goesOn kept on, same, first, extendFirst,
                endsBehind_extend some]

theorem divides_words (text : List Char) : Divides text (words text) := by
  constructor
  case nonempty => exact nil_notMem_words text
  case letters => exact flatten_words text
  case ends =>
    intro before a gap b after same word next others
    rw [same, endsBehind_append before word, endsBehind_first word]
    cases gap with
    | nil => simp [goesOn, next]
    | cons c gap =>
        have other := others c List.mem_cons_self
        simp [goesOn, other]

/-! ## Acronyms -/

private theorem goesOn_capitals {more : List Char} (first : isCapital a = true)
    (next : isCapital b = true) (upper : ∀ c ∈ more, isCapital c = true)
    (last : after.head?.any isSmall = false) :
    goesOn a (b :: (more ++ after)) = true := by
  have behind := any_isSmall_append upper last
  have word : isWordChar b = true := isWordChar_iff.mpr (.inl next)
  rw [goesOn, isBorder, other_of_isCapital first, behind, word,
    Bool.and_false, Bool.and_false]
  rfl

theorem words_capitals {capitals : List Char} (some : capitals ≠ [])
    (upper : ∀ c ∈ capitals, isCapital c = true)
    (last : after.head?.any isSmall = false) :
    ∃ back later, words (capitals ++ after) = (capitals ++ back) :: later := by
  match capitals with
  | [] => exact (some rfl).elim
  | [a] =>
      have word := isWordChar_iff.mpr (.inl (upper a List.mem_cons_self))
      exact exists_words_cons word after
  | a :: b :: more =>
      rw [List.forall_mem_cons] at upper
      have word := isWordChar_iff.mpr (.inl upper.1)
      obtain ⟨back, later, found⟩ :=
        words_capitals (List.cons_ne_nil b more) upper.2 last
      rw [List.forall_mem_cons] at upper
      have on := goesOn_capitals upper.1 upper.2.1 upper.2.2 last
      refine ⟨back, later, ?_⟩
      rw [List.cons_append] at found
      rw [List.cons_append, List.cons_append, words_of_goesOn word on, found]
      rfl

/-- What lies in one word does so behind any other text. -/
theorem exists_words_append {part : List Char} (before : List Char)
    (inside : ∃ back later, words (part ++ rest) = (part ++ back) :: later) :
    ∃ earlier front back later,
      words (before ++ (part ++ rest)) =
          earlier ++ (front ++ part ++ back) :: later ∧
        earlier.flatten ++ front = before.filter isWordChar := by
  induction before with
  | nil =>
      obtain ⟨back, later, found⟩ := inside
      exact ⟨[], [], back, later, found, rfl⟩
  | cons c before ih =>
      obtain ⟨earlier, front, back, later, found, same⟩ := ih
      rw [List.cons_append]
      cases word : isWordChar c with
      | false =>
          rw [words_of_other word, List.filter_cons_of_neg (by simp [word])]
          exact ⟨earlier, front, back, later, found, same⟩
      | true =>
          rw [List.filter_cons_of_pos word, ← same]
          cases on : goesOn c (before ++ (part ++ rest)) with
          | false =>
              rw [words_of_ends word on, found]
              exact ⟨[c] :: earlier, front, back, later, rfl, rfl⟩
          | true =>
              rw [words_of_goesOn word on, found]
              cases earlier with
              | nil => exact ⟨[], c :: front, back, later, rfl, rfl⟩
              | cons first earlier =>
                  exact ⟨(c :: first) :: earlier, front, back, later, rfl, rfl⟩

/-! ## Capitals -/

private theorem toUpper_facts : ∀ n < 0x80, isWordChar (Char.ofNat n) = true →
    isWordChar (Char.ofNat n).toUpper = true := by
  decide +kernel

private theorem isWordChar_toUpper (word : isWordChar c = true) :
    isWordChar c.toUpper = true := by
  have small : c.toNat < 0x80 := by
    rw [isWordChar_iff, isCapital_iff, isSmall_iff, isDigit_iff] at word
    omega
  have kept := toUpper_facts c.toNat small
  rw [Char.ofNat_toNat] at kept
  exact kept word

/-- The words of an identifier in capitals. -/
def upperWords (text : List Char) : List (List Char) :=
  (words text).map (List.map Char.toUpper)

theorem nil_notMem_upperWords (text : List Char) : [] ∉ upperWords text := by
  intro member
  obtain ⟨word, found, empty⟩ := List.mem_map.mp member
  rw [List.map_eq_nil_iff] at empty
  exact nil_notMem_words text (empty ▸ found)

theorem flatten_upperWords (text : List Char) :
    (upperWords text).flatten = (text.filter isWordChar).map Char.toUpper := by
  rw [upperWords, ← List.map_flatten, flatten_words]

theorem isWordChar_of_mem_upperWords
    (member : c ∈ (upperWords text).flatten) : isWordChar c = true := by
  rw [flatten_upperWords] at member
  obtain ⟨d, found, rfl⟩ := List.mem_map.mp member
  exact isWordChar_toUpper (List.mem_filter.mp found).2

private theorem exists_joinSeparators_start (text : List Char) :
    ∃ low, (∀ c ∈ low, c = '_') ∧
      joinSeparators false text = low ++ joinSeparators true text := by
  cases text with
  | nil => exact ⟨[], by simp, rfl⟩
  | cons c rest =>
      cases word : isWordChar c with
      | true =>
          refine ⟨[], by simp, ?_⟩
          rw [joinSeparators_word word, joinSeparators_word word]
          rfl
      | false =>
          refine ⟨['_'], by simp, ?_⟩
          rw [joinSeparators_start word, joinSeparators_run word]
          rfl

theorem screamingSnakeChars_eq (text : List Char) :
    screamingSnakeChars text = Text.joinPieces '_' (upperWords text) := by
  obtain ⟨front, fronts, start⟩ :=
    exists_joinSeparators_start (markBorders text)
  obtain ⟨back, backs, joined⟩ := exists_joinSeparators text
  have letter {c : Char} (member : c ∈ (words text).flatten) :
      (c == '_') = false := by
    rw [beq_eq_false_iff_ne]
    rintro rfl
    exact absurd (isWordChar_of_mem_flatten member) (by decide)
  have stripped : Text.stripWhile (· == '_')
      (front ++ (Text.joinPieces '_' (words text) ++ back)) =
        Text.joinPieces '_' (words text) := by
    apply Text.stripWhile_append
    · exact fun c member => beq_iff_eq.mpr (fronts c member)
    · exact fun c member => beq_iff_eq.mpr (backs c member)
    · intro c first
      rw [Text.head?_joinPieces (nil_notMem_words text)] at first
      exact letter (List.mem_of_head? first)
    · intro c last
      rw [Text.getLast?_joinPieces (nil_notMem_words text)] at last
      exact letter (List.mem_of_getLast? last)
  rw [screamingSnakeChars, replaceAll_borders, replaceAll_separators, start,
    joined, stripped, Text.map_joinPieces]
  rfl

/-- A name consists of the words of its identifier in capitals, with one low
line between any two of them and none at either end.  So it keeps all letters
and digits in their order, and every acronym in one word. -/
theorem screamingSnake_words (identifier : String) :
    let text := identifier.toList
    let name := (screamingSnake identifier).toList
    Divides text (words text) ∧
      name = Text.joinPieces '_' ((words text).map (List.map Char.toUpper)) ∧
      name.head? ≠ some '_' ∧ name.getLast? ≠ some '_' ∧
      name.filter isWordChar = (text.filter isWordChar).map Char.toUpper ∧
      ∀ before capitals after, text = before ++ (capitals ++ after) →
        capitals ≠ [] → (∀ c ∈ capitals, isCapital c = true) →
        after.head?.any isSmall = false →
          ∃ earlier front back later,
            words text = earlier ++ (front ++ capitals ++ back) :: later ∧
              earlier.flatten ++ front = before.filter isWordChar := by
  intro text name
  have same : name = Text.joinPieces '_' (upperWords text) := by
    rw [← screamingSnakeChars_eq]
    exact String.toList_ofList
  have letter : '_' ∉ (upperWords text).flatten := by
    intro member
    exact absurd (isWordChar_of_mem_upperWords member) (by decide)
  refine ⟨divides_words text, same, ?_, ?_, ?_, ?_⟩
  · rw [same, Text.head?_joinPieces (nil_notMem_upperWords text)]
    exact fun first => letter (List.mem_of_head? first)
  · rw [same, Text.getLast?_joinPieces (nil_notMem_upperWords text)]
    exact fun last => letter (List.mem_of_getLast? last)
  · rw [same, Text.filter_joinPieces (by decide), ← flatten_upperWords,
      List.filter_eq_self]
    exact fun c member => isWordChar_of_mem_upperWords member
  · intro before capitals after split some upper last
    rw [split]
    exact exists_words_append before (words_capitals some upper last)

example : words "GoogleAPIClient-v2ID".toList =
    ["Google".toList, "API".toList, "Client".toList, "v2".toList,
      "ID".toList] := by
  decide +kernel

end ServerConfig.VariableName
