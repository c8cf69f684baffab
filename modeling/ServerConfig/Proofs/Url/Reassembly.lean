import ServerConfig.Proofs.Url.Parsing

/-!
# Writing a URL that was read

Reading a URL drops characters around and inside of it, writes its scheme in
lower case, and forgets the marks of an empty query and an empty fragment.
`Layout` says where the parts of an absolute URL stand in the text that is left
after the first step.  Main statement: writing the URL gives the text again
exactly if that text is `Verbatim`, which is free of all that is changed.
-/

namespace ServerConfig.Url

/-! ## Where the parts stand -/

/-- A text of which the parts of an absolute URL are cut. -/
structure Layout (text name authority path : List Char)
    (query fragment : Option (List Char)) : Prop where
  whole : text = name ++ ':' :: '/' :: '/' :: (authority ++ path ++
    Text.marked '?' query ++ Text.marked '#' fragment)
  schemed : name ≠ []
  name : ∀ c ∈ name, isSchemeChar c = true
  hosted : authority ≠ []
  authority : ∀ c ∈ authority, endsAuthority c = false
  rooted : path = [] ∨ path.head? = some '/'
  unqueried : '?' ∉ path
  plain : '#' ∉ path ++ Text.marked '?' query

/-- The URL of parts that were cut. -/
def ofParts (name authority path : List Char)
    (query fragment : Option (List Char)) : Url where
  scheme := String.ofList (name.map Char.toLower)
  authority := String.ofList authority
  path := String.ofList path
  query := String.ofList (query.getD [])
  fragment := String.ofList (fragment.getD [])

section Cutting

variable {text name authority path location : List Char}
  {query fragment : Option (List Char)} {url : Url}

theorem cutScheme_cases (text : List Char) :
    cutScheme text = ([], text) ∨
      ∃ name rest, text = name ++ ':' :: rest ∧ name ≠ [] ∧
        (∀ c ∈ name, isSchemeChar c = true) ∧
        cutScheme text = (name.map Char.toLower, rest) := by
  rw [cutScheme]
  rcases Text.cutFirst_cases ':' text with
    ⟨_, uncut⟩ | ⟨name, rest, _, whole, cut⟩
  · rw [uncut]
    left
    cases text <;> rfl
  · rw [cut]
    cases name with
    | nil => exact .inl rfl
    | cons first more =>
        dsimp only
        split
        · rename_i letters
          rw [Bool.and_eq_true, List.all_eq_true] at letters
          exact .inr ⟨_, rest, whole, List.cons_ne_nil _ _, letters.2, rfl⟩
        · exact .inl rfl

theorem scheme_authority_of_split (parts : split text = .ok url) :
    url.scheme = String.ofList (cutScheme (clean text)).1 ∧
      url.authority = String.ofList
        ((cutAuthority (cutScheme (clean text)).2).1.getD []) := by
  simp only [split, bind, Except.bind, pure, Except.pure] at parts
  split at parts
  · cases parts
  · split at parts
    · cases parts
    · cases parts
      exact ⟨rfl, rfl⟩

/-- An absolute URL is read behind a scheme and two solidi. -/
theorem exists_located (parts : split text = .ok url)
    (absolute : url.Absolute) :
    ∃ name location,
      clean text = name ++ ':' :: '/' :: '/' :: location ∧ name ≠ [] ∧
        (∀ c ∈ name, isSchemeChar c = true) ∧
        Located (name.map Char.toLower) location url := by
  obtain ⟨scheme, authority⟩ := scheme_authority_of_split parts
  rcases cutScheme_cases (clean text) with
    uncut | ⟨name, rest, whole, named, letters, cut⟩
  · rw [uncut] at scheme
    exact (absolute.scheme scheme).elim
  · rw [cut] at authority
    have announced : ∃ location, rest = '/' :: '/' :: location := by
      by_contra other
      have absent : (cutAuthority rest).1 = none := by
        unfold cutAuthority
        split
        · exact (other ⟨_, rfl⟩).elim
        · rfl
      obtain ⟨host, found⟩ := absolute.host
      rw [absent] at authority
      rw [host?, authority] at found
      cases found
    obtain ⟨location, rfl⟩ := announced
    exact ⟨name, location, whole, named, letters, located_of_split cut parts⟩

theorem endsAuthority_of_head_resourceOf {c : Char}
    (head : (resourceOf location).head? = some c) : endsAuthority c = true := by
  simpa using Text.head?_dropWhile head

/-- A text that reads as an absolute URL is laid out as one. -/
theorem exists_layout (parts : split text = .ok url)
    (absolute : url.Absolute) :
    ∃ name authority path query fragment,
      Layout (clean text) name authority path query fragment ∧
        url = ofParts name authority path query fragment := by
  obtain ⟨name, location, whole, schemed, letters, located⟩ :=
    exists_located parts absolute
  obtain ⟨resource, fragment, plain, rest, cut⟩ :=
    Text.exists_cutFirst '#' (resourceOf location)
  obtain ⟨path, query, unqueried, inner, cutToo⟩ :=
    Text.exists_cutFirst '?' resource
  refine ⟨name, authorityOf location, path, query, fragment, ?_, ?_⟩
  · constructor
    case whole =>
      have both : location = authorityOf location ++ resourceOf location :=
        (List.takeWhile_append_dropWhile).symm
      rw [whole, List.append_assoc, List.append_assoc, ← List.append_assoc path,
        ← inner, ← rest, ← both]
    case schemed => exact schemed
    case name => exact letters
    case hosted =>
      intro empty
      obtain ⟨host, found⟩ := absolute.host
      rw [host?, located.authority, empty] at found
      cases found
    case authority =>
      intro c member
      simpa using List.mem_takeWhile_imp member
    case rooted =>
      cases path with
      | nil => exact .inl rfl
      | cons c more =>
          right
          have ends : endsAuthority c = true := by
            apply @endsAuthority_of_head_resourceOf location
            rw [rest, inner]
            rfl
          rw [inner] at plain
          simp only [List.cons_append, List.mem_cons, not_or] at plain unqueried
          simp only [endsAuthority, Bool.or_eq_true, decide_eq_true_eq] at ends
          rcases ends with (rfl | rfl) | rfl
          · rfl
          · exact (unqueried.1 rfl).elim
          · exact (plain.1 rfl).elim
    case unqueried => exact unqueried
    case plain => rwa [← inner]
  · cases url
    have scheme := located.scheme
    have authority := located.authority
    have path := located.path
    have query := located.query
    have fragment := located.fragment
    rw [cut, cutToo] at path query
    rw [cut] at fragment
    dsimp only at scheme authority path query fragment
    subst scheme authority path query fragment
    rfl

end Cutting

namespace Layout

variable {text name authority path : List Char}
  {query fragment : Option (List Char)}

theorem schemeChar_ne {c : Char} (letter : isSchemeChar c = true) :
    c ≠ ':' ∧ c ≠ '?' ∧ c ≠ '#' := by
  refine ⟨?_, ?_, ?_⟩ <;>
  · rintro rfl
    cases letter

/-- The text up to the path has no mark of a query or a fragment. -/
theorem front_plain
    (layout : Layout text name authority path query fragment) :
    '?' ∉ name ++ ':' :: '/' :: '/' :: authority ∧
      '#' ∉ name ++ ':' :: '/' :: '/' :: authority := by
  have inside : ∀ c ∈ name ++ ':' :: '/' :: '/' :: authority,
      c ≠ '?' ∧ c ≠ '#' := by
    intro c member
    simp only [List.mem_append, List.mem_cons] at member
    rcases member with scheme | rfl | rfl | rfl | place
    · exact (schemeChar_ne (layout.name c scheme)).2
    · decide
    · decide
    · decide
    · have inner := layout.authority c place
      constructor <;>
      · rintro rfl
        cases inner
  exact ⟨fun member => (inside _ member).1 rfl,
    fun member => (inside _ member).2 rfl⟩

theorem cut_scheme (layout : Layout text name authority path query fragment) :
    (Text.cutFirst ':' text).1 = name := by
  have unnamed : ':' ∉ name :=
    fun member => (schemeChar_ne (layout.name _ member)).1 rfl
  rw [layout.whole, Text.cutFirst_append unnamed]

theorem cut_fragment
    (layout : Layout text name authority path query fragment) :
    Text.cutFirst '#' text =
      (name ++ ':' :: '/' :: '/' :: authority ++ path ++
        Text.marked '?' query, fragment) := by
  have plain : '#' ∉ name ++ ':' :: '/' :: '/' :: authority ++ path ++
      Text.marked '?' query := by
    rw [List.append_assoc, List.mem_append, not_or]
    exact ⟨layout.front_plain.2, layout.plain⟩
  rw [← Text.cutFirst_marked plain fragment, layout.whole]
  simp only [List.append_assoc, List.cons_append]

theorem cut_query (layout : Layout text name authority path query fragment) :
    (Text.cutFirst '?' (Text.cutFirst '#' text).1).2 = query := by
  have unqueried : '?' ∉ name ++ ':' :: '/' :: '/' :: authority ++ path := by
    rw [List.mem_append, not_or]
    exact ⟨layout.front_plain.1, layout.unqueried⟩
  rw [layout.cut_fragment, Text.cutFirst_marked unqueried]

end Layout

/-! ## Writing -/

/-- A part of a URL with its mark, which only a part that is not empty has. -/
def shown (mark : Char) (part : List Char) : List Char :=
  if part.isEmpty then [] else mark :: part

section Writing

variable {text name authority path : List Char}
  {query fragment : Option (List Char)} {url : Url}

theorem Layout.toChars_ofParts
    (layout : Layout text name authority path query fragment) :
    (ofParts name authority path query fragment).toChars =
      name.map Char.toLower ++ ':' :: '/' :: '/' :: (authority ++ path ++
        shown '?' (query.getD []) ++ shown '#' (fragment.getD [])) := by
  have rooted : (path.isEmpty || decide (path.head? = some '/')) = true := by
    rcases layout.rooted with rfl | rooted
    · rfl
    · rw [decide_eq_true rooted, Bool.or_true]
  have schemed : (name.map Char.toLower).isEmpty = false := by
    simpa using layout.schemed
  have hosted : authority.isEmpty = false := by
    simpa using layout.hosted
  simp only [toChars, ofParts, String.toList_ofList, rooted, if_true, schemed,
    hosted, Bool.false_eq_true, if_false, shown]
  generalize query.getD [] = queried
  generalize fragment.getD [] = told
  cases queried <;> cases told <;> simp

theorem length_shown_le (mark : Char) (part : Option (List Char)) :
    (shown mark (part.getD [])).length ≤ (Text.marked mark part).length := by
  cases part with
  | none => exact Nat.zero_le _
  | some part =>
      cases part with
      | nil => exact Nat.zero_le _
      | cons c rest => exact Nat.le_refl _

private theorem shown_eq_marked_iff {mark : Char} {part : Option (List Char)} :
    shown mark (part.getD []) = Text.marked mark part ↔ part ≠ some [] := by
  cases part with
  | none => simp [shown, Text.marked]
  | some part => cases part <;> simp [shown, Text.marked]

theorem map_toLower_eq_self_iff :
    name.map Char.toLower = name ↔ ∀ c ∈ name, c.toLower = c := by
  conv_lhs => rw [← List.map_id name, List.map_map]
  rw [List.map_inj_left]
  rfl

/-- A laid out text is written again if its scheme is in lower case and no mark
stands in front of nothing. -/
theorem Layout.toChars_eq_iff
    (layout : Layout text name authority path query fragment) :
    (ofParts name authority path query fragment).toChars = text ↔
      (∀ c ∈ name, c.toLower = c) ∧ query ≠ some [] ∧ fragment ≠ some [] := by
  rw [layout.toChars_ofParts, ← map_toLower_eq_self_iff,
    ← @shown_eq_marked_iff '?', ← @shown_eq_marked_iff '#']
  constructor
  · intro same
    rw [layout.whole] at same
    obtain ⟨scheme, rest⟩ := List.append_inj same (List.length_map _)
    have parts : shown '?' (query.getD []) ++ shown '#' (fragment.getD []) =
        Text.marked '?' query ++ Text.marked '#' fragment := by
      simpa using rest
    have lengths := congrArg List.length parts
    rw [List.length_append, List.length_append] at lengths
    have shorter := length_shown_le '?' query
    have shorterToo := length_shown_le '#' fragment
    exact ⟨scheme, List.append_inj parts (by omega)⟩
  · rintro ⟨scheme, queried, told⟩
    rw [scheme, queried, told, ← layout.whole]

/-- A text of which nothing is dropped or changed when it is read as a URL and
written again. -/
structure Verbatim (text : List Char) : Prop where
  start : ∀ c, text.head? = some c →
    Text.isBlank c = false ∧ isLeadingNoise c = false
  stop : ∀ c, text.getLast? = some c → Text.isBlank c = false
  noiseless : ∀ c ∈ text, isLineNoise c = false
  lower : ∀ c ∈ (Text.cutFirst ':' text).1, c.toLower = c
  query : (Text.cutFirst '?' (Text.cutFirst '#' text).1).2 ≠ some []
  fragment : (Text.cutFirst '#' text).2 ≠ some []

theorem clean_sublist (text : List Char) : (clean text).Sublist text :=
  List.filter_sublist.trans (List.dropWhile_sublist _)

theorem clean_eq_self_iff :
    clean text = text ↔
      (∀ c, text.head? = some c → isLeadingNoise c = false) ∧
        ∀ c ∈ text, isLineNoise c = false := by
  have rest : text.filter (!isLineNoise ·) = text ↔
      ∀ c ∈ text, isLineNoise c = false := by
    rw [List.filter_eq_self]
    simp
  constructor
  · intro same
    have whole : text.dropWhile isLeadingNoise = text := by
      apply (List.dropWhile_sublist _).eq_of_length_le
      have short : (clean text).length ≤
          (text.dropWhile isLeadingNoise).length :=
        List.filter_sublist.length_le
      rwa [same] at short
    rw [clean, whole] at same
    exact ⟨Text.dropWhile_eq_self_iff.mp whole, rest.mp same⟩
  · rintro ⟨start, noiseless⟩
    rw [clean, Text.dropWhile_eq_self_iff.mpr start, rest.mpr noiseless]

/-- No URL is written longer than the text it was read from. -/
theorem Layout.length_toChars_le
    (layout : Layout text name authority path query fragment) :
    (ofParts name authority path query fragment).toChars.length ≤
      text.length := by
  have shorter := length_shown_le '?' query
  have shorterToo := length_shown_le '#' fragment
  rw [layout.toChars_ofParts, layout.whole]
  simp only [List.length_append, List.length_cons, List.length_map]
  omega

/-- The text of an absolute URL is written again exactly if it is verbatim. -/
theorem toText_eq_iff {text : String} (read : parseAbsolute text = .ok url) :
    url.toText = text ↔ Verbatim text.toList := by
  obtain ⟨parts, absolute⟩ := parseAbsolute_ok_iff.mp read
  obtain ⟨name, authority, path, query, fragment, layout, rfl⟩ :=
    exists_layout parts absolute
  have written : (ofParts name authority path query fragment).toText = text ↔
      (ofParts name authority path query fragment).toChars = text.toList := by
    rw [toText, ← String.toList_inj, String.toList_ofList]
  rw [written]
  generalize text.toList = chars at layout
  constructor
  · intro same
    have long := layout.length_toChars_le
    rw [same] at long
    have trimmed : Text.trim chars = chars :=
      (Text.trim_sublist chars).eq_of_length_le
        (long.trans (clean_sublist _).length_le)
    rw [trimmed] at layout long
    have cleaned : clean chars = chars :=
      (clean_sublist chars).eq_of_length_le long
    rw [cleaned] at layout
    obtain ⟨lower, queried, told⟩ := layout.toChars_eq_iff.mp same
    obtain ⟨start, stop⟩ := Text.trim_eq_self_iff.mp trimmed
    obtain ⟨quiet, noiseless⟩ := clean_eq_self_iff.mp cleaned
    constructor
    case start => exact fun c head => ⟨start c head, quiet c head⟩
    case stop => exact stop
    case noiseless => exact noiseless
    case lower => rwa [layout.cut_scheme]
    case query => rwa [layout.cut_query]
    case fragment => rwa [layout.cut_fragment]
  · intro verbatim
    have trimmed : Text.trim chars = chars :=
      Text.trim_eq_self_iff.mpr
        ⟨fun c head => (verbatim.start c head).1, verbatim.stop⟩
    have cleaned : clean chars = chars :=
      clean_eq_self_iff.mpr
        ⟨fun c head => (verbatim.start c head).2, verbatim.noiseless⟩
    rw [trimmed, cleaned] at layout
    have lower := verbatim.lower
    have queried := verbatim.query
    have told := verbatim.fragment
    rw [layout.cut_scheme] at lower
    rw [layout.cut_query] at queried
    rw [layout.cut_fragment] at told
    exact layout.toChars_eq_iff.mpr ⟨lower, queried, told⟩

end Writing

end ServerConfig.Url
