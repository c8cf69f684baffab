import ServerConfig.Proofs.Acceptance
import ServerConfig.Proofs.DecimalText
import ServerConfig.Proofs.Text.Split
import ServerConfig.Proofs.Text.Trimming

/-!
# Cutting a composed URL

The URL of the server is put together as text and read back.  `Located` says
what a reader finds behind a scheme and two solidi.  What stands there for the
server is its host, its port and its path, so that everything else about the
result is a question of where the first delimiter is in that text.
-/

namespace ServerConfig.Url

/-! ### Reading -/

section Reading

variable {text scheme location : List Char} {url : Url}

/-- The authority at the start of a location. -/
def authorityOf (location : List Char) : List Char :=
  location.takeWhile (!endsAuthority ·)

/-- The path, query and fragment of a location. -/
def resourceOf (location : List Char) : List Char :=
  location.dropWhile (!endsAuthority ·)

/-- What is read off a location behind a scheme. -/
structure Located (scheme location : List Char) (url : Url) : Prop where
  brackets : checkBrackets (authorityOf location) = .ok ()
  delimiters : checkDelimiters (authorityOf location) = .ok ()
  scheme : url.scheme = String.ofList scheme
  authority : url.authority = String.ofList (authorityOf location)
  path : url.path = String.ofList
    (Text.cutFirst '?' (Text.cutFirst '#' (resourceOf location)).1).1
  query : url.query = String.ofList
    ((Text.cutFirst '?' (Text.cutFirst '#' (resourceOf location)).1).2.getD [])
  fragment : url.fragment = String.ofList
    ((Text.cutFirst '#' (resourceOf location)).2.getD [])

theorem located_of_split
    (cut : cutScheme (clean text) = (scheme, '/' :: '/' :: location))
    (parts : split text = .ok url) : Located scheme location url := by
  have cutLocation : cutAuthority ('/' :: '/' :: location) =
      (some (authorityOf location), resourceOf location) := rfl
  simp only [split, cut, cutLocation, Option.getD_some] at parts
  cases brackets : checkBrackets (authorityOf location) with
  | error cause => simp [brackets, bind, Except.bind] at parts
  | ok _ =>
      cases delimiters : checkDelimiters (authorityOf location) with
      | error cause => simp [brackets, delimiters, bind, Except.bind] at parts
      | ok _ =>
          simp only [brackets, delimiters, bind, Except.bind, pure,
            Except.pure, Except.ok.injEq] at parts
          subst parts
          exact ⟨brackets, delimiters, rfl, rfl, rfl, rfl, rfl⟩

/-- An absolute URL that can be read. -/
structure Absolute (url : Url) : Prop where
  scheme : url.scheme ≠ ""
  host : ∃ host, url.host? = some host
  port : ∃ port, url.port = .ok port

theorem parseAbsolute_ok_iff {text : String} :
    parseAbsolute text = .ok url ↔
      split (Text.trim text.toList) = .ok url ∧ url.Absolute := by
  rw [parseAbsolute]
  cases parts : split (Text.trim text.toList) with
  | error cause => simp [bind, Except.bind]
  | ok found =>
      simp only [bind, Except.bind, pure, Except.pure, Except.ok.injEq]
      constructor
      · intro accepted
        cases scheme : found.scheme.isEmpty with
        | true => simp [scheme] at accepted
        | false =>
            cases host : found.host? with
            | none => simp [scheme, host] at accepted
            | some name =>
                cases port : found.port with
                | error cause => simp [scheme, host, port] at accepted
                | ok number =>
                    simp [scheme, host, port] at accepted
                    subst accepted
                    refine ⟨rfl, ?_, ⟨name, host⟩, ⟨number, port⟩⟩
                    simpa using scheme
      · rintro ⟨rfl, scheme, ⟨name, host⟩, ⟨number, port⟩⟩
        simp [scheme, host, port]

end Reading

/-! ### Ports -/

section Ports

variable {digits host : List Char} {n : Nat}

theorem isDigit_of_readPort {found : Option Nat}
    (readable : readPort digits = .ok found) :
    ∀ c ∈ digits, c.isDigit = true := by
  rw [readPort] at readable
  split at readable
  · rename_i nothing
    rw [List.isEmpty_iff.mp nothing]
    simp
  · split at readable
    · cases readable
    · rename_i ascii
      simpa using ascii

theorem le_of_readPort (readable : readPort digits = .ok (some n)) :
    n ≤ maxPort := by
  rw [readPort] at readable
  split at readable
  · cases readable
  · split at readable
    · cases readable
    · split at readable
      · cases readable
      · split at readable
        · rename_i small
          cases readable
          exact small
        · cases readable

theorem readPort_ofNat (small : n ≤ maxPort) :
    readPort (Numeral.ofNat n) = .ok (some n) := by
  have ascii : (Numeral.ofNat n).all Char.isDigit = true := by
    rw [List.all_eq_true]
    intro c member
    exact Numeral.isDigit_of_mem_ofNat member
  have short : (Numeral.ofNat n).length ≤ Numeral.digitLimit := by
    have five : (Numeral.ofNat n).length ≤ 5 := by
      rw [Numeral.ofNat, Nat.length_toDigits_le_iff (by decide) (by decide)]
      exact Nat.lt_of_le_of_lt small (by decide)
    exact five.trans (by decide)
  have nonempty : (Numeral.ofNat n).isEmpty = false := by
    simpa using Numeral.ofNat_ne_nil
  have value : Numeral.ofDigits (Numeral.digitValues (Numeral.ofNat n)) = n :=
    Numeral.ofAscii_ofNat n
  have values : (Numeral.digitValues (Numeral.ofNat n)).length ≤
      Numeral.digitLimit := by
    rw [Numeral.digitValues, List.length_map]
    exact short
  simp only [readPort, nonempty, ascii, Numeral.readDigits, if_pos values,
    value, if_pos small]
  rfl

theorem afterLast_authority (ascii : ∀ c ∈ digits, c.isDigit = true) :
    Text.afterLast '@' (host ++ ':' :: digits) =
      Text.afterLast '@' host ++ ':' :: digits := by
  apply Text.afterLast_append
  rw [List.mem_cons, not_or]
  refine ⟨by decide, fun member => ?_⟩
  simpa using ascii '@' member

private theorem mem_of_mem_afterLast {separator c : Char} {text : List Char}
    (member : c ∈ Text.afterLast separator text) : c ∈ text :=
  List.mem_reverse.mp
    ((List.takeWhile_sublist _).subset (List.mem_reverse.mp member))

/-- A bracket in the part of an authority that the host is read off opens that
part, and a colon follows where it is closed. -/
theorem opened_of_checkBrackets {authority before bracketed : List Char}
    (checked : checkBrackets authority = .ok ())
    (cut : Text.cutFirst '[' (Text.afterLast '@' authority) =
      (before, some bracketed)) :
    before = [] ∧ ∀ c rest,
      (Text.cutFirst ']' bracketed).2 = some (c :: rest) → c = ':' := by
  have opened : authority.contains '[' = true := by
    rw [List.contains_iff_mem]
    rcases Text.cutFirst_cases '[' (Text.afterLast '@' authority) with
      ⟨_, uncut⟩ | ⟨start, rest, _, found, _⟩
    · cases cut.symm.trans uncut
    · have member : '[' ∈ Text.afterLast '@' authority := by
        rw [found]
        exact List.mem_append_right _ List.mem_cons_self
      exact mem_of_mem_afterLast member
  simp only [checkBrackets, opened, cut] at checked
  split at checked
  · cases checked
  · simp only [Bool.not_true, Bool.false_eq_true, if_false] at checked
    split at checked
    · cases checked
    · rename_i empty
      refine ⟨by simpa using empty, ?_⟩
      intro c rest after
      by_contra other
      simp [after, other] at checked

section Authority

variable {found : Option Nat} {authority name after : List Char}

theorem not_readPort_colon {before : List Char} :
    readPort (before ++ ':' :: digits) ≠ .ok found := by
  intro readable
  have digit := isDigit_of_readPort readable ':'
    (List.mem_append_right _ List.mem_cons_self)
  cases digit

theorem notMem_colon_digits {c : Char}
    (ascii : ∀ c ∈ digits, c.isDigit = true) (other : c ≠ ':')
    (nonDigit : c.isDigit = false) : c ∉ ':' :: digits := by
  rw [List.mem_cons, not_or]
  refine ⟨other, fun member => ?_⟩
  rw [ascii c member] at nonDigit
  cases nonDigit

/-- Without a bracket, the first colon ends the host. -/
theorem port_of_unopened
    (place : Text.afterLast '@' authority = name ++ ':' :: digits)
    (ascii : ∀ c ∈ digits, c.isDigit = true) (unopened : '[' ∉ name)
    (readable : readPort (hostAndPort authority).2 = .ok found) :
    (hostAndPort authority).2 = digits := by
  have uncut : Text.cutFirst '[' (name ++ ':' :: digits) =
      (name ++ ':' :: digits, none) := by
    apply Text.cutFirst_of_notMem
    rw [List.mem_append, not_or]
    exact ⟨unopened, notMem_colon_digits ascii (by decide) (by decide)⟩
  simp only [hostAndPort, place, uncut] at readable ⊢
  rcases Text.cutFirst_cases ':' name with
    ⟨single, _⟩ | ⟨start, rest, first, rfl, _⟩
  · rw [Text.cutFirst_append single]
    rfl
  · rw [List.append_assoc, List.cons_append, Text.cutFirst_append first]
      at readable
    exact (not_readPort_colon readable).elim

/-- Behind a bracket that is left open there is no port. -/
theorem port_of_unclosed
    (place : Text.afterLast '@' authority = '[' :: (name ++ ':' :: digits))
    (ascii : ∀ c ∈ digits, c.isDigit = true) (unclosed : ']' ∉ name) :
    (hostAndPort authority).2 = [] := by
  have cut : Text.cutFirst '[' (Text.afterLast '@' authority) =
      ([], some (name ++ ':' :: digits)) := by
    rw [place]
    rfl
  have uncut : Text.cutFirst ']' (name ++ ':' :: digits) =
      (name ++ ':' :: digits, none) := by
    apply Text.cutFirst_of_notMem
    rw [List.mem_append, not_or]
    exact ⟨unclosed, notMem_colon_digits ascii (by decide) (by decide)⟩
  simp only [hostAndPort, cut, uncut]
  rfl

/-- Behind the bracket that closes a host the port follows at once. -/
theorem port_of_closed
    (place : Text.afterLast '@' authority =
      '[' :: (name ++ ']' :: (after ++ ':' :: digits)))
    (checked : checkBrackets authority = .ok ()) (first : ']' ∉ name)
    (readable : readPort (hostAndPort authority).2 = .ok found) :
    (hostAndPort authority).2 = digits := by
  have cut : Text.cutFirst '[' (Text.afterLast '@' authority) =
      ([], some (name ++ ']' :: (after ++ ':' :: digits))) := by
    rw [place]
    rfl
  have follows := (opened_of_checkBrackets checked cut).2
  simp only [hostAndPort, cut, Text.cutFirst_append first]
    at readable follows ⊢
  cases after with
  | nil => rfl
  | cons c rest =>
      obtain rfl := follows c (rest ++ ':' :: digits) rfl
      exact (not_readPort_colon readable).elim

/-- Where a port is read behind a host, it is the one that was put there, unless
a bracket before it is left open. -/
theorem port_authority (ascii : ∀ c ∈ digits, c.isDigit = true)
    (checked : checkBrackets (host ++ ':' :: digits) = .ok ())
    (readable : readPort (hostAndPort (host ++ ':' :: digits)).2 =
      .ok found) :
    (hostAndPort (host ++ ':' :: digits)).2 =
      if '[' ∈ Text.afterLast '@' host ∧ ']' ∉ Text.afterLast '@' host then []
      else digits := by
  have place : Text.afterLast '@' (host ++ ':' :: digits) =
      Text.afterLast '@' host ++ ':' :: digits := afterLast_authority ascii
  generalize Text.afterLast '@' host = name at place ⊢
  rcases Text.cutFirst_cases '[' name with
    ⟨unopened, _⟩ | ⟨before, bracketed, fresh, rfl, _⟩
  · rw [if_neg (fun bracket => unopened bracket.1)]
    exact port_of_unopened place ascii unopened readable
  · have cut : Text.cutFirst '['
        (Text.afterLast '@' (host ++ ':' :: digits)) =
          (before, some (bracketed ++ ':' :: digits)) := by
      rw [place, List.append_assoc, List.cons_append,
        Text.cutFirst_append fresh]
    obtain rfl := (opened_of_checkBrackets checked cut).1
    rcases Text.cutFirst_cases ']' bracketed with
      ⟨unclosed, _⟩ | ⟨name, after, first, rfl, _⟩
    · have opened : '[' ∈ [] ++ '[' :: bracketed ∧
          ']' ∉ [] ++ '[' :: bracketed := by
        simpa using unclosed
      rw [if_pos opened]
      exact port_of_unclosed place ascii unclosed
    · have closed : ']' ∈ [] ++ '[' :: (name ++ ']' :: after) := by simp
      rw [if_neg (fun bracket => bracket.2 closed)]
      have ordered : [] ++ '[' :: (name ++ ']' :: after) ++ ':' :: digits =
          '[' :: (name ++ ']' :: (after ++ ':' :: digits)) := by simp
      exact port_of_closed (place.trans ordered) checked first readable

end Authority

end Ports

end ServerConfig.Url
