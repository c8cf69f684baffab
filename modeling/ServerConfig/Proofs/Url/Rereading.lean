import ServerConfig.Proofs.Url.Accessors
import ServerConfig.Proofs.Url.AddressHost
import ServerConfig.Proofs.Url.Reassembly

/-!
# Reading a written URL again

The text that is written for a URL is laid out like the one that the URL was
read from, with its scheme in lower case and without the marks of empty parts.
Nothing is left in it that reading drops, unless it ends with a blank.  Main
statement: absolute URLs are well formed, and those that were read from a text
without blanks are read from their own text again.
-/

namespace ServerConfig.Url

/-! ## Schemes in lower case -/

section Schemes

variable {c : Char}

private theorem schemeChar_lt (letter : isSchemeChar c = true) : c.toNat < 0x80 := by
  simp only [isSchemeChar, Bool.or_eq_true, decide_eq_true_eq] at letter
  rcases letter with ((alphanumeric | rfl) | rfl) | rfl
  · delta Char.isAlphanum Char.isAlpha Char.isUpper Char.isLower
      Char.isDigit at alphanumeric
    simp only [Bool.or_eq_true, Bool.and_eq_true, decide_eq_true_eq]
      at alphanumeric
    have bounds : (0x41 ≤ c.toNat ∧ c.toNat ≤ 0x5A ∨
        0x61 ≤ c.toNat ∧ c.toNat ≤ 0x7A) ∨
        0x30 ≤ c.toNat ∧ c.toNat ≤ 0x39 := alphanumeric
    omega
  · decide
  · decide
  · decide

private theorem ascii_toLower : ∀ code < 0x80, isSchemeChar (Char.ofNat code) = true →
    isSchemeChar (Char.ofNat code).toLower = true ∧
      (Char.ofNat code).toLower.toLower = (Char.ofNat code).toLower ∧
      (Char.ofNat code).toLower.isAlpha = (Char.ofNat code).isAlpha ∧
      Text.isBlank (Char.ofNat code) = false ∧
      isLeadingNoise (Char.ofNat code) = false := by
  decide +kernel

/-- A character of a scheme stays one in lower case, and is never dropped. -/
theorem schemeChar_facts (letter : isSchemeChar c = true) :
    isSchemeChar c.toLower = true ∧ c.toLower.toLower = c.toLower ∧
      c.toLower.isAlpha = c.isAlpha ∧ Text.isBlank c = false ∧
      isLeadingNoise c = false := by
  have facts := ascii_toLower c.toNat (schemeChar_lt letter)
  rw [Char.ofNat_toNat] at facts
  exact facts letter

end Schemes

/-! ## Reading what is laid out -/

section Layouts

variable {text name authority path : List Char}
  {query fragment : Option (List Char)} {url : Url}

theorem checked_of_split (parts : split text = .ok url) :
    checkBrackets url.authority.toList = .ok () ∧
      checkDelimiters url.authority.toList = .ok () := by
  simp only [split, bind, Except.bind, pure, Except.pure] at parts
  split at parts
  · cases parts
  · rename_i brackets
    split at parts
    · cases parts
    · rename_i delimiters
      cases parts
      rw [String.toList_ofList]
      exact ⟨brackets, delimiters⟩

namespace Layout

/-- The first character of a scheme that is cut off is a letter. -/
theorem starts (layout : Layout text name authority path query fragment)
    (cut : (cutScheme text).1 ≠ []) :
    ∀ c, name.head? = some c → c.isAlpha = true := by
  have unnamed : ':' ∉ name :=
    fun member => (schemeChar_ne (layout.name _ member)).1 rfl
  rw [cutScheme, layout.whole, Text.cutFirst_append unnamed] at cut
  cases name with
  | nil =>
      intro c head
      cases head
  | cons first more =>
      intro c head
      obtain rfl : first = c := by simpa using head
      by_contra other
      simp [other] at cut

theorem cutScheme_eq
    (layout : Layout text name authority path query fragment)
    (starts : ∀ c, name.head? = some c → c.isAlpha = true) :
    cutScheme text = (name.map Char.toLower, '/' :: '/' :: (authority ++ path ++
      Text.marked '?' query ++ Text.marked '#' fragment)) := by
  have unnamed : ':' ∉ name :=
    fun member => (schemeChar_ne (layout.name _ member)).1 rfl
  rw [cutScheme, layout.whole, Text.cutFirst_append unnamed]
  cases name with
  | nil => exact (layout.schemed rfl).elim
  | cons first more =>
      have letters : (first :: more).all isSchemeChar = true :=
        List.all_eq_true.mpr layout.name
      simp only [starts first rfl, letters, Bool.and_self, if_true]

/-- What follows the authority starts with a delimiter. -/
theorem stops (layout : Layout text name authority path query fragment) :
    Text.Stops (!endsAuthority ·)
      (path ++ Text.marked '?' query ++ Text.marked '#' fragment) := by
  rcases layout.rooted with rfl | rooted
  · cases query with
    | some part => exact Text.stops_cons.mpr rfl
    | none =>
        cases fragment with
        | some part => exact Text.stops_cons.mpr rfl
        | none => exact Text.stops_nil
  · intro c head
    rw [List.append_assoc, List.head?_append, rooted] at head
    cases head
    rfl

/-- A text that is laid out as a URL is cut into the parts of that URL. -/
theorem split_eq (layout : Layout text name authority path query fragment)
    (kept : clean text = text)
    (starts : ∀ c, name.head? = some c → c.isAlpha = true)
    (brackets : checkBrackets authority = .ok ())
    (delimiters : checkDelimiters authority = .ok ()) :
    split text = .ok (ofParts name authority path query fragment) := by
  have cut := layout.cutScheme_eq starts
  have inside : ∀ c ∈ authority, (!endsAuthority c) = true := by
    intro c member
    rw [layout.authority c member]
    rfl
  have front : authorityOf (authority ++ (path ++ Text.marked '?' query ++
      Text.marked '#' fragment)) = authority :=
    Text.takeWhile_append_of_stops inside layout.stops
  have back : resourceOf (authority ++ (path ++ Text.marked '?' query ++
      Text.marked '#' fragment)) =
        path ++ Text.marked '?' query ++ Text.marked '#' fragment :=
    Text.dropWhile_append_of_stops inside layout.stops
  rw [List.append_assoc, List.append_assoc, ← List.append_assoc path] at cut
  rw [← kept] at cut
  obtain ⟨url, parts⟩ := exists_split cut (front.symm ▸ brackets)
    (front.symm ▸ delimiters)
  have located := located_of_split cut parts
  have whole := Text.cutFirst_marked layout.plain fragment
  have inner := Text.cutFirst_marked layout.unqueried query
  rw [parts]
  cases url
  have scheme := located.scheme
  have authority := located.authority
  have path := located.path
  have query := located.query
  have fragment := located.fragment
  rw [front] at authority
  rw [back, whole, inner] at path query
  rw [back, whole] at fragment
  dsimp only at scheme authority path query fragment
  subst scheme authority path query fragment
  rfl

end Layout

end Layouts

/-! ## Writing and reading again -/

section Rereading

variable {text name authority path : List Char}
  {query fragment : Option (List Char)} {url : Url}

theorem marked_filter (mark : Char) (part : Option (List Char)) :
    Text.marked mark (part.filter (!·.isEmpty)) =
      shown mark (part.getD []) := by
  cases part with
  | none => rfl
  | some part => cases part <;> rfl

theorem getD_filter (part : Option (List Char)) :
    (part.filter (!·.isEmpty)).getD [] = part.getD [] := by
  cases part with
  | none => rfl
  | some part => cases part <;> rfl

theorem shown_subset (mark : Char) (part : Option (List Char)) :
    shown mark (part.getD []) ⊆ Text.marked mark part := by
  cases part with
  | none => exact List.nil_subset _
  | some part =>
      cases part with
      | nil => exact List.nil_subset _
      | cons c rest => exact List.Subset.refl _

namespace Layout

/-- The text of a URL is laid out as the URL, with its scheme in lower case and
without the marks of empty parts. -/
theorem rewritten
    (layout : Layout text name authority path query fragment) :
    Layout (ofParts name authority path query fragment).toChars
      (name.map Char.toLower) authority path (query.filter (!·.isEmpty))
      (fragment.filter (!·.isEmpty)) where
  whole := by
    rw [layout.toChars_ofParts, marked_filter, marked_filter]
  schemed := by
    simpa using layout.schemed
  name := by
    intro c member
    obtain ⟨letter, inside, rfl⟩ := List.mem_map.mp member
    exact (schemeChar_facts (layout.name letter inside)).1
  hosted := layout.hosted
  authority := layout.authority
  rooted := layout.rooted
  unqueried := layout.unqueried
  plain := by
    have plain := layout.plain
    rw [List.mem_append, not_or] at plain ⊢
    rw [marked_filter]
    exact ⟨plain.1, fun member => plain.2 (shown_subset '?' query member)⟩

/-- A character of the text of a URL is one of its scheme in lower case, or one
of the text that it was read from. -/
theorem mem_toChars
    (layout : Layout text name authority path query fragment) {c : Char}
    (member : c ∈ (ofParts name authority path query fragment).toChars) :
    isSchemeChar c = true ∨ c ∈ text := by
  rw [layout.toChars_ofParts] at member
  rw [layout.whole]
  simp only [List.mem_append, List.mem_cons] at member ⊢
  rcases member with scheme | rfl | rfl | rfl | ((place | resource) | queried) |
    told
  · exact .inl (layout.rewritten.name c scheme)
  · exact .inr (.inr (.inl rfl))
  · exact .inr (.inr (.inr (.inl rfl)))
  · exact .inr (.inr (.inr (.inl rfl)))
  · exact .inr (by simp [place])
  · exact .inr (by simp [resource])
  · exact .inr (by simp [shown_subset '?' query queried])
  · exact .inr (by simp [shown_subset '#' fragment told])

/-- A layout starts with a character of its scheme. -/
theorem head?_text
    (layout : Layout text name authority path query fragment) {c : Char}
    (head : text.head? = some c) : isSchemeChar c = true := by
  rw [layout.whole, List.head?_append_of_ne_nil _ layout.schemed] at head
  exact layout.name c (List.mem_of_head? head)

/-- Nothing of the text of a URL is removed when it is read. -/
theorem clean_toChars
    (layout : Layout (clean text) name authority path query fragment) :
    clean (ofParts name authority path query fragment).toChars =
      (ofParts name authority path query fragment).toChars := by
  rw [clean_eq_self_iff]
  constructor
  · intro c head
    exact (schemeChar_facts (layout.rewritten.head?_text head)).2.2.2.2
  · intro c member
    rcases layout.mem_toChars member with letter | inside
    · by_contra noise
      rw [Bool.not_eq_false] at noise
      have visible := (schemeChar_facts letter).2.2.2.1
      rw [isBlank_of_isLineNoise noise] at visible
      cases visible
    · simpa using (List.mem_filter.mp inside).2

theorem ofParts_rewritten
    (layout : Layout text name authority path query fragment) :
    ofParts (name.map Char.toLower) authority path (query.filter (!·.isEmpty))
        (fragment.filter (!·.isEmpty)) =
      ofParts name authority path query fragment := by
  have lower : (name.map Char.toLower).map Char.toLower =
      name.map Char.toLower := by
    rw [map_toLower_eq_self_iff]
    intro c member
    obtain ⟨letter, inside, rfl⟩ := List.mem_map.mp member
    exact (schemeChar_facts (layout.name letter inside)).2.1
  rw [ofParts, ofParts, lower, getD_filter, getD_filter]

end Layout

/-- A URL is read from its own text again exactly if that does not end with a
blank. -/
theorem parseAbsolute_toText_iff {text : String}
    (read : parseAbsolute text = .ok url) :
    parseAbsolute url.toText = .ok url ↔
      ∀ c, url.toText.toList.getLast? = some c → Text.isBlank c = false := by
  constructor
  · intro again
    exact ((toText_eq_iff again).mp rfl).stop
  · intro stop
    obtain ⟨parts, absolute⟩ := parseAbsolute_ok_iff.mp read
    obtain ⟨brackets, delimiters⟩ := checked_of_split parts
    have scheme := (scheme_authority_of_split parts).1
    obtain ⟨name, authority, path, query, fragment, layout, rfl⟩ :=
      exists_layout parts absolute
    rw [toText, String.toList_ofList] at stop
    have trimmed : Text.trim
        (ofParts name authority path query fragment).toChars =
          (ofParts name authority path query fragment).toChars := by
      refine Text.trim_eq_self_iff.mpr ⟨fun c head => ?_, stop⟩
      exact (schemeChar_facts (layout.rewritten.head?_text head)).2.2.2.1
    have schemed : (cutScheme (clean (Text.trim text.toList))).1 ≠ [] := by
      intro missing
      rw [missing] at scheme
      exact absolute.scheme scheme
    have starts : ∀ c, (name.map Char.toLower).head? = some c →
        c.isAlpha = true := by
      intro c head
      rw [List.head?_map] at head
      obtain ⟨first, start, rfl⟩ := Option.map_eq_some_iff.mp head
      have letter := layout.name first (List.mem_of_head? start)
      rw [(schemeChar_facts letter).2.2.1]
      exact layout.starts schemed first start
    refine parseAbsolute_ok_iff.mpr ⟨?_, absolute⟩
    rw [toText, String.toList_ofList, trimmed, ← layout.ofParts_rewritten]
    rw [ofParts, String.toList_ofList] at brackets delimiters
    have again := layout.rewritten.split_eq layout.clean_toChars starts
      brackets delimiters
    rwa [← layout.ofParts_rewritten] at again

/-- An absolute URL is well formed.  If the text that it was read from has no
blanks, it is read from its own text again, with all its parts. -/
theorem parseAbsolute_toText {text : String}
    (read : parseAbsolute text = .ok url) :
    url.WellFormed ∧
      ((∀ c ∈ text.toList, Text.isBlank c = false) →
        parseAbsolute url.toText = .ok url) := by
  obtain ⟨parts, absolute⟩ := parseAbsolute_ok_iff.mp read
  refine ⟨absolute.wellFormed, fun visible => ?_⟩
  rw [parseAbsolute_toText_iff read]
  intro c last
  obtain ⟨name, authority, path, query, fragment, layout, rfl⟩ :=
    exists_layout parts absolute
  rw [toText, String.toList_ofList] at last
  rcases layout.mem_toChars (List.mem_of_getLast? last) with letter | inside
  · exact (schemeChar_facts letter).2.2.2.1
  · exact visible c (Text.trim_subset ((clean_sublist _).subset inside))

/-- A URL with a scheme in capitals, a user, an address in brackets, an empty
query and marks inside its fragment. -/
def markedText : String := "HTTPS://me:x@[::1]:0443/a:/?#b?c#/"

theorem markedText_reread :
    ∃ url, parseAbsolute markedText = .ok url ∧
      (∀ c ∈ markedText.toList, Text.isBlank c = false) ∧
      url.toText ≠ markedText ∧ url.WellFormed ∧
      parseAbsolute url.toText = .ok url := by
  have read : parseAbsolute markedText = .ok
      { scheme := "https", authority := "me:x@[::1]:0443", path := "/a:/"
        fragment := "b?c#/" } := by
    decide +kernel
  have blanks : markedText.toList.any Text.isBlank = false := by
    decide +kernel
  have visible : ∀ c ∈ markedText.toList, Text.isBlank c = false :=
    fun c member => by simpa using List.any_eq_false.mp blanks c member
  obtain ⟨wellFormed, again⟩ := parseAbsolute_toText read
  exact ⟨_, read, visible, by decide +kernel, wellFormed, again visible⟩

end Rereading

end ServerConfig.Url
