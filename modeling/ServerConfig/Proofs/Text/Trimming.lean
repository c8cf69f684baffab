import Mathlib.Data.List.DropRight
import ServerConfig.Text.Blank
import ServerConfig.Text.Split

/-!
# The ends of a text

What is dropped from the end of a text, and what follows its last separator,
depends only on that end: both are determined by the last part of a text that
is put together.
-/

namespace ServerConfig.Text

variable {drop keep : Char → Bool} {separator c : Char}
  {text before after : List Char}

theorem dropEndWhile_isPrefix (drop : Char → Bool) (text : List Char) :
    dropEndWhile drop text <+: text :=
  List.rdropWhile_prefix drop text

/-- Nothing is dropped before a character that stays. -/
theorem dropEndWhile_append
    (stays : ∀ c, before.getLast? = some c → drop c = false)
    (nonempty : before ≠ []) (after : List Char) :
    dropEndWhile drop (before ++ after) =
      before ++ dropEndWhile drop after := by
  have kept : before.reverse.dropWhile drop = before.reverse := by
    cases reversed : before.reverse with
    | nil => exact (nonempty (List.reverse_eq_nil_iff.mp reversed)).elim
    | cons last rest =>
        have stays := stays last (by
          rw [List.getLast?_eq_head?_reverse, reversed, List.head?_cons])
        rw [List.dropWhile_cons_of_neg (by simp [stays])]
  rw [dropEndWhile, dropEndWhile, List.reverse_append, List.dropWhile_append]
  split
  · rename_i dropped
    rw [List.isEmpty_iff.mp dropped, kept, List.reverse_reverse,
      List.reverse_nil, List.append_nil]
  · rw [List.reverse_append, List.reverse_reverse]

theorem dropEndWhile_eq_self_iff :
    dropEndWhile drop text = text ↔
      ∀ c, text.getLast? = some c → drop c = false := by
  refine List.rdropWhile_eq_self_iff.trans ?_
  constructor
  · intro kept c last
    have nonempty : text ≠ [] := by
      rintro rfl
      cases last
    rw [List.getLast?_eq_some_getLast nonempty, Option.some.injEq] at last
    rw [← last]
    exact Bool.not_eq_true _ ▸ kept nonempty
  · intro kept nonempty dropped
    rw [kept _ (List.getLast?_eq_some_getLast nonempty)] at dropped
    cases dropped

theorem dropWhile_eq_self_iff :
    text.dropWhile drop = text ↔
      ∀ c, text.head? = some c → drop c = false := by
  rw [List.dropWhile_eq_self_iff]
  cases text <;> simp

theorem head?_dropWhile (first : (text.dropWhile drop).head? = some c) :
    drop c = false :=
  dropWhile_eq_self_iff.mp (List.dropWhile_idempotent drop text) c first

theorem dropEndWhile_idem (drop : Char → Bool) (text : List Char) :
    dropEndWhile drop (dropEndWhile drop text) = dropEndWhile drop text :=
  List.rdropWhile_idempotent drop text

theorem getLast?_dropEndWhile
    (last : (dropEndWhile drop text).getLast? = some c) : drop c = false :=
  dropEndWhile_eq_self_iff.mp (dropEndWhile_idem drop text) c last

/-- Nothing is dropped between ends that stay. -/
theorem stripWhile_eq_self
    (start : ∀ c, text.head? = some c → drop c = false)
    (stop : ∀ c, text.getLast? = some c → drop c = false) :
    stripWhile drop text = text := by
  rw [stripWhile, dropWhile_eq_self_iff.mpr start]
  exact dropEndWhile_eq_self_iff.mpr stop

/-- What is dropped around a text comes off it again. -/
theorem stripWhile_append (front : ∀ c ∈ before, drop c = true)
    (back : ∀ c ∈ after, drop c = true)
    (start : ∀ c, text.head? = some c → drop c = false)
    (stop : ∀ c, text.getLast? = some c → drop c = false) :
    stripWhile drop (before ++ (text ++ after)) = text := by
  have dropped : dropEndWhile drop after = [] := by
    rw [dropEndWhile, List.reverse_eq_nil_iff, List.dropWhile_eq_nil_iff]
    exact fun c member => back c (List.mem_reverse.mp member)
  rw [stripWhile, List.dropWhile_append_of_pos front]
  cases text with
  | nil =>
      rw [List.nil_append, List.dropWhile_eq_nil_iff.mpr back]
      rfl
  | cons c rest =>
      have kept : (c :: rest ++ after).dropWhile drop = c :: rest ++ after :=
        dropWhile_eq_self_iff.mpr start
      rw [kept, dropEndWhile_append stop (List.cons_ne_nil c rest), dropped,
        List.append_nil]

theorem trim_subset : trim text ⊆ text := by
  intro c member
  exact (List.dropWhile_sublist _).subset
    ((dropEndWhile_isPrefix _ _).subset member)

@[simp] theorem dropTrailingSlashes_idem (text : String) :
    dropTrailingSlashes (dropTrailingSlashes text) =
      dropTrailingSlashes text := by
  rw [dropTrailingSlashes, dropTrailingSlashes, String.toList_ofList,
    dropEndWhile_idem]

@[simp] theorem dropTrailingSlashes_empty : dropTrailingSlashes "" = "" :=
  rfl

theorem getLast?_dropTrailingSlashes (text : String) :
    (dropTrailingSlashes text).toList.getLast? ≠ some '/' := by
  intro last
  rw [dropTrailingSlashes, String.toList_ofList] at last
  cases getLast?_dropEndWhile last

theorem trim_sublist (text : List Char) : (trim text).Sublist text :=
  (dropEndWhile_isPrefix _ _).sublist.trans (List.dropWhile_sublist _)

/-- Only blanks at an end are trimmed. -/
theorem trim_eq_self_iff :
    trim text = text ↔
      (∀ c, text.head? = some c → isBlank c = false) ∧
        ∀ c, text.getLast? = some c → isBlank c = false := by
  constructor
  · intro same
    have whole : text.dropWhile isBlank = text := by
      apply (List.dropWhile_sublist _).eq_of_length_le
      have short := (dropEndWhile_isPrefix isBlank
        (text.dropWhile isBlank)).length_le
      rwa [← stripWhile, ← trim, same] at short
    rw [trim, stripWhile, whole] at same
    exact ⟨dropWhile_eq_self_iff.mp whole, dropEndWhile_eq_self_iff.mp same⟩
  · rintro ⟨start, stop⟩
    exact stripWhile_eq_self start stop

@[simp] theorem trim_trim (text : List Char) : trim (trim text) = trim text := by
  refine trim_eq_self_iff.mpr ⟨?_, fun c last => getLast?_dropEndWhile last⟩
  intro c first
  have front : (text.dropWhile isBlank).head? = some c := by
    obtain ⟨dropped, whole⟩ :=
      dropEndWhile_isPrefix isBlank (text.dropWhile isBlank)
    rw [← whole, List.head?_append, ← stripWhile, ← trim, first]
    rfl
  exact head?_dropWhile front

theorem isWhiteSpace_of_isBlank (visible : isBlank c = false) :
    isWhiteSpace c = false := by
  by_contra white
  rw [isBlank_of_isWhiteSpace (by simpa using white)] at visible
  cases visible

/-- A trimmed text has no white space at its ends. -/
theorem stripWhile_trim (text : List Char) :
    stripWhile isWhiteSpace (trim text) = trim text := by
  obtain ⟨start, stop⟩ := trim_eq_self_iff.mp (trim_trim text)
  exact stripWhile_eq_self
    (fun c first => isWhiteSpace_of_isBlank (start c first))
    (fun c last => isWhiteSpace_of_isBlank (stop c last))

theorem afterLast_append (plain : separator ∉ after) :
    afterLast separator (before ++ after) =
      afterLast separator before ++ after := by
  rw [afterLast, afterLast, List.reverse_append,
    List.takeWhile_append_of_pos, List.reverse_append, List.reverse_reverse]
  intro c member
  simp only [bne_iff_ne]
  rintro rfl
  exact plain (List.mem_reverse.mp member)

theorem afterLast_filter (kept : keep separator = true)
    (text : List Char) :
    afterLast separator (text.filter keep) =
      (afterLast separator text).filter keep := by
  have takeWhile_filter (text : List Char) :
      (text.filter keep).takeWhile (· != separator) =
        (text.takeWhile (· != separator)).filter keep := by
    induction text with
    | nil => rfl
    | cons c rest ih =>
        by_cases same : c = separator
        · subst same
          simp [kept]
        · by_cases keeps : keep c = true <;>
            simp [same, keeps, ih]
  rw [afterLast, afterLast, ← List.filter_reverse, takeWhile_filter,
    List.filter_reverse]

end ServerConfig.Text
