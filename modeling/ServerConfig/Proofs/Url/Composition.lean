import ServerConfig.Proofs.Url.Parsing

/-!
# What the URL of the server tells

The URL of the server is read back from a text that was put together from a
scheme, a host, a port and a path.  A delimiter, a blank or a line end in the
host or the path may move or drop parts of that text without making it
unreadable.  `Survives` says which hosts and paths are free of that, and the
main statement that a URL that composes tells exactly in their case what it was
composed from.  Only its scheme is always right.
-/

namespace ServerConfig.Url

/-- The characters of a text that a URL keeps. -/
def withoutNoise (text : List Char) : List Char :=
  text.filter (!isLineNoise ·)

/-- A path that starts with a solidus, unless it is empty. -/
def rooted (path : List Char) : List Char :=
  if path.isEmpty || path.head? = some '/' then path else '/' :: path

def schemeFor (tls : Bool) : String :=
  if tls then "https" else "http"

/-- What a reader finds behind the scheme of a server and two solidi. -/
def serverLocation (address : String) (port : Int) (path : String) :
    List Char :=
  withoutNoise (hostOfAddress address) ++ ':' :: Numeral.ofNat port.toNat ++
    withoutNoise (Text.dropEndWhile Text.isBlank
      (rooted (Text.dropTrailingSlashes path).toList))

section Reading

variable {tls : Bool} {address path : String} {port : Int} {url : Url}
  {digits host resource : List Char}

theorem toChars_of_authority {scheme authority path : String}
    (scheme_ne : scheme ≠ "") (authority_ne : authority ≠ "") :
    ({ scheme, authority, path } : Url).toChars =
      scheme.toList ++ ':' :: '/' :: '/' ::
        (authority.toList ++ rooted path.toList) := by
  have scheme_ne : scheme.toList.isEmpty = false := by simpa using scheme_ne
  have authority_ne : authority.toList.isEmpty = false := by
    simpa using authority_ne
  simp [toChars, rooted, scheme_ne, authority_ne]

private theorem withoutNoise_digits (ascii : ∀ c ∈ digits, c.isDigit = true) :
    withoutNoise digits = digits := by
  apply List.filter_eq_self.mpr
  intro c member
  have digit := ascii c member
  simp only [isLineNoise, Bool.not_eq_true', Bool.or_eq_false_iff,
    decide_eq_false_iff_not]
  refine ⟨⟨?_, ?_⟩, ?_⟩ <;> exact Numeral.ne_of_isDigit digit (by decide)

theorem withoutNoise_port (ascii : ∀ c ∈ digits, c.isDigit = true) :
    withoutNoise (':' :: digits) = ':' :: digits :=
  congrArg (List.cons ':') (withoutNoise_digits ascii)

theorem withoutNoise_append (first second : List Char) :
    withoutNoise (first ++ second) =
      withoutNoise first ++ withoutNoise second :=
  List.filter_append first second

/-- The text in front of a location starts with no blank, and all of it is
kept. -/
theorem scheme_front (tls : Bool) (location : List Char) :
    let text := (schemeFor tls).toList ++ ':' :: '/' :: '/' :: location
    text.dropWhile Text.isBlank = text ∧
      clean text = (schemeFor tls).toList ++
        ':' :: '/' :: '/' :: withoutNoise location := by
  cases tls <;> exact ⟨rfl, rfl⟩

theorem clean_server (ascii : ∀ c ∈ digits, c.isDigit = true)
    (nonempty : digits ≠ []) :
    clean (Text.trim ((schemeFor tls).toList ++ ':' :: '/' :: '/' ::
        (host ++ ':' :: digits ++ resource))) =
      (schemeFor tls).toList ++ ':' :: '/' :: '/' ::
        (withoutNoise host ++ ':' :: digits ++
          withoutNoise (Text.dropEndWhile Text.isBlank resource)) := by
  have stays : ∀ c, ((schemeFor tls).toList ++ ':' :: '/' :: '/' ::
      (host ++ ':' :: digits)).getLast? = some c → Text.isBlank c = false := by
    intro c last
    have ends : ((schemeFor tls).toList ++ ':' :: '/' :: '/' ::
        (host ++ ':' :: digits)).getLast? = digits.getLast? := by
      simp [List.getLast?_append, List.getLast?_cons,
        List.getLast?_eq_some_getLast nonempty]
    rw [ends] at last
    exact (Text.digit_facts (ascii c (List.mem_of_getLast? last))).2.1
  have trimmed : Text.trim ((schemeFor tls).toList ++ ':' :: '/' :: '/' ::
        (host ++ ':' :: digits ++ resource)) =
      (schemeFor tls).toList ++ ':' :: '/' :: '/' ::
        (host ++ ':' :: digits ++
          Text.dropEndWhile Text.isBlank resource) := by
    rw [Text.trim, Text.stripWhile, (scheme_front tls _).1]
    have dropped := Text.dropEndWhile_append stays (by simp) resource
    simpa using dropped
  rw [trimmed, (scheme_front tls _).2, withoutNoise_append,
    withoutNoise_append, withoutNoise_port ascii]

theorem cutScheme_server (tls : Bool) (location : List Char) :
    cutScheme ((schemeFor tls).toList ++ ':' :: '/' :: '/' :: location) =
      ((schemeFor tls).toList, '/' :: '/' :: location) := by
  cases tls <;> rfl

/-- The parts that the URL of a server is put together from. -/
def serverParts (tls : Bool) (address : String) (port : Int)
    (path : String) : Url where
  scheme := schemeFor tls
  authority := String.ofList
    (hostOfAddress address ++ ':' :: Numeral.ofInt port)
  path := Text.dropTrailingSlashes path

theorem ofServer_ok_iff :
    ofServer tls address port path = .ok url ↔
      isPort port = true ∧
        parseAbsolute (serverParts tls address port path).toText = .ok url := by
  cases inside : isPort port with
  | false => simp [ofServer_of_not_isPort inside]
  | true =>
      have composed : ofServer tls address port path =
          (parseAbsolute (serverParts tls address port path).toText).mapError
            .malformed := by
        simp only [ofServer, inside, Bool.not_true, Bool.false_eq_true,
          if_false]
        rfl
      rw [composed]
      cases parseAbsolute (serverParts tls address port path).toText <;>
        simp [Except.mapError]

private theorem ofInt_of_isPort (inside : isPort port = true) :
    Numeral.ofInt port = Numeral.ofNat port.toNat := by
  obtain ⟨n, rfl⟩ := Int.eq_ofNat_of_zero_le (isPort_iff.mp inside).1
  rfl

/-- Behind its scheme, the URL of a server is its location. -/
theorem cutScheme_serverParts (inside : isPort port = true) :
    cutScheme (clean (Text.trim
        (serverParts tls address port path).toText.toList)) =
      ((schemeFor tls).toList,
        '/' :: '/' :: serverLocation address port path) := by
  have scheme_ne : schemeFor tls ≠ "" := by
    cases tls <;> decide
  have authority_ne : String.ofList
      (hostOfAddress address ++ ':' :: Numeral.ofInt port) ≠ "" := by
    simp
  rw [toText, String.toList_ofList, serverParts,
    toChars_of_authority scheme_ne authority_ne, String.toList_ofList,
    ofInt_of_isPort inside,
    clean_server (fun c => Numeral.isDigit_of_mem_ofNat) Numeral.ofNat_ne_nil]
  exact cutScheme_server tls _

/-- Reading the URL of a server finds the text that was put together, but for
the characters that no URL keeps. -/
theorem located_of_ofServer
    (composed : ofServer tls address port path = .ok url) :
    Located (schemeFor tls).toList (serverLocation address port path) url ∧
      url.Absolute := by
  obtain ⟨inside, parsed⟩ := ofServer_ok_iff.mp composed
  obtain ⟨parts, absolute⟩ := parseAbsolute_ok_iff.mp parsed
  exact ⟨located_of_split (cutScheme_serverParts inside) parts, absolute⟩

/-! ### Where the location is cut -/

section Cut

variable {resource told : List Char}

theorem authorityOf_undelimited
    (undelimited : ∀ c ∈ host, endsAuthority c = false)
    (ascii : ∀ c ∈ digits, c.isDigit = true)
    (start : ∀ c, resource.head? = some c → endsAuthority c = true) :
    authorityOf (host ++ ':' :: digits ++ resource) = host ++ ':' :: digits ∧
      resourceOf (host ++ ':' :: digits ++ resource) = resource := by
  have passes : ∀ c ∈ host ++ ':' :: digits, (!endsAuthority c) = true := by
    intro c member
    rw [Bool.not_eq_true']
    rcases List.mem_append.mp member with member | member
    · exact undelimited c member
    · rcases List.mem_cons.mp member with rfl | member
      · rfl
      · have digit := ascii c member
        simp only [endsAuthority, Bool.or_eq_false_iff,
          decide_eq_false_iff_not]
        refine ⟨⟨?_, ?_⟩, ?_⟩ <;>
          exact Numeral.ne_of_isDigit digit (by decide)
  have stops : resource.takeWhile (!endsAuthority ·) = [] ∧
      resource.dropWhile (!endsAuthority ·) = resource := by
    cases resource with
    | nil => exact ⟨rfl, rfl⟩
    | cons c rest =>
        have ends := start c rfl
        exact ⟨List.takeWhile_cons_of_neg (by simp [ends]),
          List.dropWhile_cons_of_neg (by simp [ends])⟩
  rw [authorityOf, resourceOf, List.takeWhile_append_of_pos passes,
    List.dropWhile_append_of_pos passes, stops.1, stops.2, List.append_nil]
  exact ⟨rfl, rfl⟩

/-- A delimiter in the host cuts the location before the port. -/
theorem resourceOf_delimited {delimiter : Char} (member : delimiter ∈ host)
    (ends : endsAuthority delimiter = true) (rest : List Char) :
    ∃ front, resourceOf (host ++ rest) = front ++ rest := by
  refine ⟨host.dropWhile (!endsAuthority ·), ?_⟩
  rw [resourceOf, List.dropWhile_append]
  split
  · rename_i passed
    have pass := List.dropWhile_eq_nil_iff.mp (List.isEmpty_iff.mp passed)
      delimiter member
    simp [ends] at pass
  · rfl

/-- Without query and fragment, at most their marks stand behind a path. -/
theorem resource_marks
    (path : (Text.cutFirst '?' (Text.cutFirst '#' resource).1).1 = told)
    (query : (Text.cutFirst '?' (Text.cutFirst '#' resource).1).2.getD [] = [])
    (fragment : (Text.cutFirst '#' resource).2.getD [] = []) :
    '?' ∉ told ∧ '#' ∉ told ∧
      ∃ marks, resource = told ++ marks ∧ ∀ c ∈ marks, c = '?' ∨ c = '#' := by
  have queried {text : List Char} (plain : '#' ∉ text)
      (path : (Text.cutFirst '?' text).1 = told)
      (query : (Text.cutFirst '?' text).2.getD [] = []) :
      '?' ∉ told ∧ '#' ∉ told ∧ (text = told ∨ text = told ++ ['?']) := by
    rcases Text.cutFirst_cases '?' text with
      ⟨whole, uncut⟩ | ⟨before, after, fresh, rfl, cut⟩
    · rw [uncut] at path
      subst path
      exact ⟨whole, plain, .inl rfl⟩
    · rw [cut] at path query
      obtain rfl : before = told := path
      obtain rfl : after = [] := query
      refine ⟨fresh, fun member => plain ?_, .inr rfl⟩
      exact List.mem_append_left _ member
  rcases Text.cutFirst_cases '#' resource with
    ⟨whole, uncut⟩ | ⟨before, after, fresh, rfl, cut⟩
  · rw [uncut] at path query
    obtain ⟨unqueried, plain, same | marked⟩ := queried whole path query
    · exact ⟨unqueried, plain, [], by simpa using same, by simp⟩
    · exact ⟨unqueried, plain, ['?'], marked, by simp⟩
  · rw [cut] at path query fragment
    obtain rfl : after = [] := fragment
    obtain ⟨unqueried, plain, rfl | rfl⟩ := queried fresh path query
    · exact ⟨unqueried, plain, ['#'], rfl, by simp⟩
    · exact ⟨unqueried, plain, ['?', '#'], by simp, by simp⟩

/-- A path that is found again has lost nothing. -/
theorem kept_of_found {marks : List Char}
    (found : withoutNoise (Text.dropEndWhile Text.isBlank told) =
      told ++ marks) :
    (∀ c ∈ told, isLineNoise c = false) ∧
      ∀ c, told.getLast? = some c → Text.isBlank c = false := by
  have lasting := Text.dropEndWhile_isPrefix Text.isBlank told
  have kept : (withoutNoise (Text.dropEndWhile Text.isBlank told)).Sublist
      (Text.dropEndWhile Text.isBlank told) := List.filter_sublist
  have longer : told.length ≤
      (withoutNoise (Text.dropEndWhile Text.isBlank told)).length := by
    rw [found, List.length_append]
    exact Nat.le_add_right _ _
  have whole : Text.dropEndWhile Text.isBlank told = told :=
    lasting.eq_of_length_le (longer.trans kept.length_le)
  rw [whole] at kept longer
  have noiseless : withoutNoise told = told := kept.eq_of_length_le longer
  refine ⟨?_, Text.dropEndWhile_eq_self_iff.mp whole⟩
  intro c member
  have keeps := List.filter_eq_self.mp noiseless c member
  simpa using keeps

theorem getLast?_behind_colon (nonempty : digits ≠ [])
    (front rest : List Char) :
    (front ++ ':' :: digits ++ rest).getLast? =
      (digits ++ rest).getLast? := by
  rw [List.append_assoc, List.getLast?_append_of_ne_nil _ (by simp),
    List.cons_append, List.getLast?_cons]
  cases digits with
  | nil => exact (nonempty rfl).elim
  | cons c rest => simp [List.getLast?_cons]

/-- Behind a delimiter in the host, the port is taken for a part of the path or
of what follows the path. -/
theorem not_found_of_delimited {front marks : List Char}
    (ascii : ∀ c ∈ digits, c.isDigit = true) (nonempty : digits ≠ [])
    (plain : '?' ∉ told ∧ '#' ∉ told)
    (noiseless : ∀ c ∈ told, isLineNoise c = false)
    (mark : ∀ c ∈ marks, c = '?' ∨ c = '#') :
    front ++ ':' :: digits ++
        withoutNoise (Text.dropEndWhile Text.isBlank told) ≠
      told ++ marks := by
  intro found
  have lasting := Text.dropEndWhile_isPrefix Text.isBlank told
  have kept : withoutNoise (Text.dropEndWhile Text.isBlank told) =
      Text.dropEndWhile Text.isBlank told := by
    apply List.filter_eq_self.mpr
    intro c member
    simpa using noiseless c (lasting.subset member)
  rw [kept] at found
  have ends : (told ++ marks).getLast? =
      (digits ++ Text.dropEndWhile Text.isBlank told).getLast? := by
    rw [← found]
    exact getLast?_behind_colon nonempty _ _
  -- The last character is a digit or one of the path, so it is no mark.
  have unmarked : marks = [] := by
    by_contra marked
    rw [List.getLast?_append_of_ne_nil _ marked,
      List.getLast?_eq_some_getLast marked] at ends
    rcases List.mem_append.mp (List.mem_of_getLast? ends.symm) with
      digit | inside
    · rcases mark _ (List.getLast_mem marked) with same | same
      · cases ascii _ (same ▸ digit)
      · cases ascii _ (same ▸ digit)
    · rcases mark _ (List.getLast_mem marked) with same | same
      · exact plain.1 (lasting.subset (same ▸ inside))
      · exact plain.2 (lasting.subset (same ▸ inside))
  -- Nor is it blank, so that nothing was dropped and the front is too much.
  have visible : ∀ c, digits.getLast? = some c → Text.isBlank c = false :=
    fun c last => (Text.digit_facts (ascii c (List.mem_of_getLast? last))).2.1
  have whole : Text.dropEndWhile Text.isBlank told = told := by
    apply Text.dropEndWhile_eq_self_iff.mpr
    intro c last
    rw [unmarked, List.append_nil, last,
      ← Text.dropEndWhile_append visible nonempty] at ends
    exact Text.getLast?_dropEndWhile ends.symm
  rw [unmarked, whole] at found
  have lengths := congrArg List.length found
  simp only [List.length_append, List.length_cons, List.length_nil] at lengths
  omega

end Cut

/-! ### What survives -/

/-- An address and a path of which nothing is moved or dropped when a URL that
is composed of them is read: no delimiter is in the host, no bracket is left
open before its port, and the path has no mark of a query or fragment, no line
end or tab, and no blank at its end. -/
structure Survives (address path : String) : Prop where
  undelimited : ∀ c ∈ hostOfAddress address, endsAuthority c = false
  closed : '[' ∈ Text.afterLast '@' (hostOfAddress address) →
    ']' ∈ Text.afterLast '@' (hostOfAddress address)
  unmarked : ∀ c ∈ (Text.dropTrailingSlashes path).toList,
    c ≠ '?' ∧ c ≠ '#' ∧ isLineNoise c = false
  unpadded : ∀ c, (Text.dropTrailingSlashes path).toList.getLast? = some c →
    Text.isBlank c = false

/-- A URL that tells the settings that it was composed from. -/
structure Tells (url : Url) (tls : Bool) (port : Int) (path : String) :
    Prop where
  scheme : url.scheme = if tls then "https" else "http"
  port : ∃ n : Nat, url.port = .ok (some n) ∧ (n : Int) = port
  path : url.path = Text.dropTrailingSlashes path
  query : url.query = ""
  fragment : url.fragment = ""

theorem mem_withoutNoise {c : Char} (kept : isLineNoise c = false)
    {text : List Char} : c ∈ withoutNoise text ↔ c ∈ text := by
  rw [withoutNoise, List.mem_filter, kept]
  simp

theorem afterLast_withoutNoise (text : List Char) :
    Text.afterLast '@' (withoutNoise text) =
      withoutNoise (Text.afterLast '@' text) :=
  Text.afterLast_filter rfl text

theorem rooted_dropTrailingSlashes
    (start : path = "" ∨ path.toList.head? = some '/') :
    rooted (Text.dropTrailingSlashes path).toList =
      (Text.dropTrailingSlashes path).toList := by
  have lasting : (Text.dropTrailingSlashes path).toList <+: path.toList := by
    rw [Text.dropTrailingSlashes, String.toList_ofList]
    exact Text.dropEndWhile_isPrefix _ _
  cases short : (Text.dropTrailingSlashes path).toList with
  | nil => rfl
  | cons c rest =>
      rw [short] at lasting
      obtain ⟨dropped, whole⟩ := lasting
      have solidus : c = '/' := by
        rcases start with rfl | start
        · cases whole
        · rw [← whole, List.cons_append, List.head?_cons] at start
          exact Option.some.inj start
      simp [rooted, solidus]

private theorem rooted_cases (path : List Char) :
    rooted path = [] ∨ ∃ rest, rooted path = '/' :: rest := by
  rw [rooted]
  cases path with
  | nil => exact .inl rfl
  | cons c rest =>
      right
      split
      · rename_i start
        exact ⟨rest, by simpa using start⟩
      · exact ⟨c :: rest, rfl⟩

private theorem endsAuthority_of_head {c : Char} (path : List Char)
    (head : (withoutNoise (Text.dropEndWhile Text.isBlank
      (rooted path))).head? = some c) : endsAuthority c = true := by
  rcases rooted_cases path with empty | ⟨rest, start⟩
  · rw [empty] at head
    cases head
  · have solidus : Text.dropEndWhile Text.isBlank (['/'] ++ rest) =
        ['/'] ++ Text.dropEndWhile Text.isBlank rest := by
      refine Text.dropEndWhile_append ?_ (by simp) rest
      intro c last
      cases last
      rfl
    rw [start, ← List.singleton_append, solidus] at head
    cases head
    rfl

theorem serverLocation_undelimited
    (undelimited : ∀ c ∈ hostOfAddress address, endsAuthority c = false) :
    authorityOf (serverLocation address port path) =
        withoutNoise (hostOfAddress address) ++
          ':' :: Numeral.ofNat port.toNat ∧
      resourceOf (serverLocation address port path) =
        withoutNoise (Text.dropEndWhile Text.isBlank
          (rooted (Text.dropTrailingSlashes path).toList)) := by
  apply authorityOf_undelimited
  · intro c member
    exact undelimited c (List.mem_filter.mp member).1
  · intro c member
    exact Numeral.isDigit_of_mem_ofNat member
  · intro c head
    exact endsAuthority_of_head _ head

theorem port_of_undelimited
    (composed : ofServer tls address port path = .ok url)
    (undelimited : ∀ c ∈ hostOfAddress address, endsAuthority c = false) :
    url.port =
      if '[' ∈ Text.afterLast '@' (hostOfAddress address) ∧
          ']' ∉ Text.afterLast '@' (hostOfAddress address) then .ok none
      else .ok (some port.toNat) := by
  have inside := isPort_iff.mp (isPort_of_ofServer_ok composed)
  obtain ⟨located, absolute⟩ := located_of_ofServer composed
  obtain ⟨found, readable⟩ := absolute.port
  have authority := located.authority
  have brackets := located.brackets
  rw [(serverLocation_undelimited undelimited).1] at authority brackets
  rw [Url.port, authority, String.toList_ofList] at readable ⊢
  have opening : isLineNoise '[' = false := rfl
  have closing : isLineNoise ']' = false := rfl
  rw [port_authority (fun c => Numeral.isDigit_of_mem_ofNat) brackets readable]
  simp only [afterLast_withoutNoise, mem_withoutNoise opening,
    mem_withoutNoise closing]
  split
  · rfl
  · apply readPort_ofNat
    rw [maxPort]
    omega

theorem schemeFor_eq_of_ofServer
    (composed : ofServer tls address port path = .ok url) :
    url.scheme = schemeFor tls := by
  rw [(located_of_ofServer composed).1.scheme, String.ofList_toList]

/-- What is told without query and fragment stands at the end of the
location. -/
theorem Tells.resourceOf_location (told : url.Tells tls port path)
    (composed : ofServer tls address port path = .ok url) :
    '?' ∉ (Text.dropTrailingSlashes path).toList ∧
      '#' ∉ (Text.dropTrailingSlashes path).toList ∧
      ∃ marks, resourceOf (serverLocation address port path) =
          (Text.dropTrailingSlashes path).toList ++ marks ∧
        ∀ c ∈ marks, c = '?' ∨ c = '#' := by
  obtain ⟨located, _⟩ := located_of_ofServer composed
  apply resource_marks
  · rw [← told.path, located.path, String.toList_ofList]
  · simpa using located.query.symm.trans told.query
  · simpa using located.fragment.symm.trans told.fragment

theorem noiseless_serverLocation {c : Char}
    (member : c ∈ resourceOf (serverLocation address port path)) :
    isLineNoise c = false := by
  have inside : c ∈ serverLocation address port path :=
    (List.dropWhile_sublist _).subset member
  have kept (text : List Char) (member : c ∈ withoutNoise text) :
      isLineNoise c = false := by
    simpa using (List.mem_filter.mp member).2
  rcases List.mem_append.mp inside with server | resource
  · rcases List.mem_append.mp server with name | behind
    · exact kept _ name
    · have digits : withoutNoise (':' :: Numeral.ofNat port.toNat) =
          ':' :: Numeral.ofNat port.toNat :=
        withoutNoise_port fun c => Numeral.isDigit_of_mem_ofNat
      exact kept _ (digits.symm ▸ behind)
  · exact kept _ resource

theorem Tells.undelimited (told : url.Tells tls port path)
    (start : path = "" ∨ path.toList.head? = some '/')
    (composed : ofServer tls address port path = .ok url) :
    ∀ c ∈ hostOfAddress address, endsAuthority c = false := by
  intro c member
  by_contra ends
  rw [Bool.not_eq_false] at ends
  have delimiter : isLineNoise c = false := by
    simp only [endsAuthority, Bool.or_eq_true, decide_eq_true_eq] at ends
    rcases ends with (rfl | rfl) | rfl <;> rfl
  obtain ⟨unqueried, plain, marks, found, mark⟩ := told.resourceOf_location composed
  obtain ⟨front, cut⟩ := resourceOf_delimited
    ((mem_withoutNoise delimiter).mpr member) ends
    (':' :: Numeral.ofNat port.toNat ++
      withoutNoise (Text.dropEndWhile Text.isBlank
        (rooted (Text.dropTrailingSlashes path).toList)))
  have noiseless : ∀ c ∈ (Text.dropTrailingSlashes path).toList,
      isLineNoise c = false := by
    intro c member
    apply noiseless_serverLocation
    rw [found]
    exact List.mem_append_left _ member
  rw [rooted_dropTrailingSlashes start, ← List.append_assoc,
    ← List.append_assoc] at cut
  rw [serverLocation, rooted_dropTrailingSlashes start] at found
  exact not_found_of_delimited (fun c => Numeral.isDigit_of_mem_ofNat)
    Numeral.ofNat_ne_nil ⟨unqueried, plain⟩ noiseless mark
    (cut.symm.trans found)

theorem Tells.survives (told : url.Tells tls port path)
    (start : path = "" ∨ path.toList.head? = some '/')
    (composed : ofServer tls address port path = .ok url) :
    Survives address path := by
  have undelimited := told.undelimited start composed
  obtain ⟨unqueried, plain, marks, found, _⟩ := told.resourceOf_location composed
  rw [(serverLocation_undelimited undelimited).2,
    rooted_dropTrailingSlashes start] at found
  obtain ⟨noiseless, unpadded⟩ := kept_of_found found
  refine ⟨undelimited, ?_, ?_, unpadded⟩
  · intro opened
    by_contra unclosed
    obtain ⟨n, port, _⟩ := told.port
    rw [port_of_undelimited composed undelimited,
      if_pos ⟨opened, unclosed⟩] at port
    cases port
  · intro c member
    refine ⟨?_, ?_, noiseless c member⟩
    · rintro rfl
      exact unqueried member
    · rintro rfl
      exact plain member

theorem Survives.tells (survives : Survives address path)
    (start : path = "" ∨ path.toList.head? = some '/')
    (composed : ofServer tls address port path = .ok url) :
    url.Tells tls port path := by
  have inside := isPort_iff.mp (isPort_of_ofServer_ok composed)
  obtain ⟨located, _⟩ := located_of_ofServer composed
  have resource : resourceOf (serverLocation address port path) =
      (Text.dropTrailingSlashes path).toList := by
    rw [(serverLocation_undelimited survives.undelimited).2,
      rooted_dropTrailingSlashes start,
      Text.dropEndWhile_eq_self_iff.mpr survives.unpadded]
    apply List.filter_eq_self.mpr
    intro c member
    simp [(survives.unmarked c member).2.2]
  have unqueried : '?' ∉ (Text.dropTrailingSlashes path).toList :=
    fun member => (survives.unmarked _ member).1 rfl
  have plain : '#' ∉ (Text.dropTrailingSlashes path).toList :=
    fun member => (survives.unmarked _ member).2.1 rfl
  have whole := Text.cutFirst_of_notMem plain
  have path := Text.cutFirst_of_notMem unqueried
  constructor
  case scheme => exact schemeFor_eq_of_ofServer composed
  case port =>
    refine ⟨port.toNat, ?_, Int.toNat_of_nonneg inside.1⟩
    rw [port_of_undelimited composed survives.undelimited, if_neg]
    exact fun bracket => bracket.2 (survives.closed bracket.1)
  case path =>
    rw [located.path, resource, whole, path, String.ofList_toList]
  case query =>
    rw [located.query, resource, whole, path]
    rfl
  case fragment =>
    rw [located.fragment, resource, whole]
    rfl

end Reading

/-- A URL that composes from a path that is empty or starts with a solidus tells
its settings exactly if host and path survive the composition.  Its scheme is
right in any case. -/
theorem ofServer_tells_iff {tls : Bool} {address path : String} {port : Int}
    {url : Url} (start : path = "" ∨ path.toList.head? = some '/')
    (composed : ofServer tls address port path = .ok url) :
    url.scheme = (if tls then "https" else "http") ∧
      (url.Tells tls port path ↔ Survives address path) := by
  refine ⟨schemeFor_eq_of_ofServer composed, ?_⟩
  constructor
  · intro told
    exact told.survives start composed
  · intro survives
    exact survives.tells start composed

/-- The URL of a server on a version 6 address below a path. -/
theorem sample_server_tells :
    Survives " ::1 " "/root//" ∧
      ∃ url, ofServer true " ::1 " 443 "/root//" = .ok url ∧
        url.Tells true 443 "/root//" := by
  have host : hostOfAddress " ::1 " = "[::1]".toList := by
    decide +kernel
  have resource : (Text.dropTrailingSlashes "/root//").toList =
      "/root".toList := by
    decide +kernel
  have survives : Survives " ::1 " "/root//" := by
    constructor <;> simp only [host, resource]
    case undelimited =>
      have plain : ("[::1]".toList.all (!endsAuthority ·)) = true := by decide
      simpa using plain
    case closed => decide
    case unmarked =>
      have plain : ("/root".toList.all fun c =>
          c ≠ '?' ∧ c ≠ '#' ∧ isLineNoise c = false) = true := by decide
      simpa using plain
    case unpadded =>
      intro c last
      cases last
      rfl
  have composed : ofServer true " ::1 " 443 "/root//" =
      .ok { scheme := "https", authority := "[::1]:443", path := "/root" } := by
    decide +kernel
  exact ⟨survives, _, composed,
    (ofServer_tells_iff (.inr (by decide)) composed).2.mpr survives⟩

/-- The mark of a query in a path is not refused, and cuts that path. -/
theorem marked_path_untold :
    ofServer false "127.0.0.1" 8080 "/a?b" =
        .ok { scheme := "http", authority := "127.0.0.1:8080", path := "/a"
              query := "b" } ∧
      ¬ ∀ url, ofServer false "127.0.0.1" 8080 "/a?b" = .ok url →
        url.Tells false 8080 "/a?b" := by
  have composed : ofServer false "127.0.0.1" 8080 "/a?b" =
      .ok { scheme := "http", authority := "127.0.0.1:8080", path := "/a"
            query := "b" } := by
    decide +kernel
  refine ⟨composed, ?_⟩
  intro tells
  exact absurd (tells _ composed).query (by decide)

end ServerConfig.Url
