import ServerConfig.Proofs.Net.WrittenAddress
import ServerConfig.Proofs.Text.Runs
import ServerConfig.Proofs.Url.Composition

/-!
# Servers that listen on an address

An address other than the unspecified one is the host of the URL of its server,
a version 6 address in square brackets.  None of its characters is a delimiter
of a URL, so the URL composes for every port, and its host is the shortest text
of the address again.  Main statement: such a URL composes and tells all that
it was composed from.
-/

namespace ServerConfig

namespace Text

theorem keepsCase_of_ascii {c : Char} (small : c.toNat < 0x80)
    (same : c.toLower = c) : KeepsCase c := by
  refine ⟨?_, ?_, ?_⟩
  · rintro rfl
    exact absurd small (by decide)
  · rintro rfl
    exact absurd small (by decide)
  · rw [lowerChar, if_pos small, same]

theorem afterLast_of_notMem {separator : Char} {text : List Char}
    (plain : separator ∉ text) : afterLast separator text = text :=
  @afterLast_append separator [] text plain

end Text

namespace Url

/-! ## Authorities of a host and a port -/

section Authority

variable {host digits authority : List Char}

/-- Without a bracket, what stands before the first colon is the host. -/
theorem hostAndPort_plain (noUser : '@' ∉ host) (unopened : '[' ∉ host)
    (single : ':' ∉ host) (ascii : ∀ c ∈ digits, c.isDigit = true) :
    hostAndPort (host ++ ':' :: digits) = (host, digits) := by
  have place : Text.afterLast '@' (host ++ ':' :: digits) =
      host ++ ':' :: digits := by
    rw [afterLast_authority ascii, Text.afterLast_of_notMem noUser]
  have uncut : Text.cutFirst '[' (host ++ ':' :: digits) =
      (host ++ ':' :: digits, none) := by
    apply Text.cutFirst_of_notMem
    rw [List.mem_append, not_or]
    exact ⟨unopened, notMem_colon_digits ascii (by decide) (by decide)⟩
  simp only [hostAndPort, place, uncut, Text.cutFirst_append single,
    Option.getD_some]

theorem cutFirst_bracketed (noUser : '@' ∉ host)
    (ascii : ∀ c ∈ digits, c.isDigit = true) :
    Text.cutFirst '['
        (Text.afterLast '@' ('[' :: host ++ [']'] ++ ':' :: digits)) =
      ([], some (host ++ ']' :: ':' :: digits)) := by
  have place : Text.afterLast '@' ('[' :: host ++ [']'] ++ ':' :: digits) =
      '[' :: (host ++ ']' :: ':' :: digits) := by
    rw [afterLast_authority ascii, Text.afterLast_of_notMem (by simpa)]
    simp
  rw [place]
  rfl

/-- What stands in brackets is the host. -/
theorem hostAndPort_bracketed (noUser : '@' ∉ host) (first : ']' ∉ host)
    (ascii : ∀ c ∈ digits, c.isDigit = true) :
    hostAndPort ('[' :: host ++ [']'] ++ ':' :: digits) = (host, digits) := by
  simp only [hostAndPort, cutFirst_bracketed noUser ascii,
    Text.cutFirst_append first]
  rfl

theorem checkBrackets_plain (unopened : '[' ∉ authority)
    (unclosed : ']' ∉ authority) : checkBrackets authority = .ok () := by
  simp [checkBrackets, unopened, unclosed]

theorem checkBrackets_bracketed (noUser : '@' ∉ host) (first : ']' ∉ host)
    (ascii : ∀ c ∈ digits, c.isDigit = true)
    (checked : checkBracketed host = .ok ()) :
    checkBrackets ('[' :: host ++ [']'] ++ ':' :: digits) = .ok () := by
  simp only [checkBrackets, cutFirst_bracketed noUser ascii,
    Text.cutFirst_append first]
  simp [checked]

theorem checkDelimiters_of_ascii
    (ascii : ∀ c ∈ authority, c.toNat < 0x80) :
    checkDelimiters authority = .ok () := by
  have beyond : ∀ code ∈ disguisedDelimiters, 0x80 ≤ code := by decide
  rw [checkDelimiters, if_neg]
  rw [List.any_eq_true]
  rintro ⟨c, member, listed⟩
  have small := ascii c member
  have great := beyond _ (List.contains_iff_mem.mp listed)
  omega

end Authority

/-! ## What composes -/

section Composition

variable {tls : Bool} {address path : String} {port : Int}

/-- A text is cut into parts where its authority passes both checks. -/
theorem exists_split {text scheme location : List Char}
    (cut : cutScheme (clean text) = (scheme, '/' :: '/' :: location))
    (brackets : checkBrackets (authorityOf location) = .ok ())
    (delimiters : checkDelimiters (authorityOf location) = .ok ()) :
    ∃ url, split text = .ok url := by
  have cutLocation : cutAuthority ('/' :: '/' :: location) =
      (some (authorityOf location), resourceOf location) := rfl
  simp only [split, cut, cutLocation, Option.getD_some, brackets, delimiters,
    bind, Except.bind, pure, Except.pure]
  exact ⟨_, rfl⟩

/-- The URL of a server composes where its location can be read. -/
theorem exists_ofServer (inside : isPort port = true)
    (brackets : checkBrackets
      (authorityOf (serverLocation address port path)) = .ok ())
    (delimiters : checkDelimiters
      (authorityOf (serverLocation address port path)) = .ok ())
    (host : (hostAndPort
      (authorityOf (serverLocation address port path))).1 ≠ [])
    (readable : ∃ found, readPort (hostAndPort
      (authorityOf (serverLocation address port path))).2 = .ok found) :
    ∃ url, ofServer tls address port path = .ok url := by
  have cut := @cutScheme_serverParts tls address path port inside
  obtain ⟨url, parts⟩ := exists_split cut brackets delimiters
  have located := located_of_split cut parts
  refine ⟨url, ofServer_ok_iff.mpr ⟨inside, ?_⟩⟩
  refine parseAbsolute_ok_iff.mpr ⟨parts, ?_⟩
  constructor
  case scheme =>
    rw [located.scheme, String.ofList_toList]
    cases tls <;> decide
  case host =>
    rw [host?, located.authority, String.toList_ofList,
      if_neg (by simpa using host)]
    exact ⟨_, rfl⟩
  case port =>
    rw [Url.port, located.authority, String.toList_ofList]
    exact readable

end Composition

end Url

namespace Net.Address

/-! ## Addresses of one host -/

/-- An address of one host, without a zone: any but the unspecified one. -/
inductive Specified : Address → Prop
  | v4 {bits : BitVec 32} : bits ≠ 0 → Specified (.v4 bits)
  | v6 {bits : BitVec 128} : bits ≠ 0 → Specified (.v6 bits none)

/-- The text of an address as the host of a URL. -/
def hostText : Address → List Char
  | .v4 bits => writeV4 bits
  | .v6 bits zone => '[' :: (Address.v6 bits zone).toChars ++ [']']

variable {host : Address} {text : List Char} {bits : BitVec 32} {c : Char}

theorem Specified.subset (specified : host.Specified) :
    host.toChars ⊆ plainChars := by
  cases specified with
  | @v4 bits _ => exact writeV4_subset bits
  | @v6 bits _ => exact writeV6_subset bits

/-- A character that no address is written with. -/
theorem Specified.notMem (specified : host.Specified)
    (other : c ∉ plainChars) : c ∉ host.toChars :=
  fun member => other (specified.subset member)

private theorem Specified.hostText_subset (specified : host.Specified) :
    host.hostText ⊆ "[]".toList ++ plainChars := by
  intro c member
  cases specified with
  | @v4 bits _ => exact List.mem_append_right _ (writeV4_subset bits member)
  | @v6 bits _ =>
      rw [hostText, List.cons_append, List.mem_cons, List.mem_append,
        List.mem_singleton] at member
      rcases member with rfl | inside | rfl
      · decide
      · exact List.mem_append_right _ (writeV6_subset bits inside)
      · decide

/-- No character of a host ends or starts a part of a URL. -/
theorem Specified.char_facts (specified : host.Specified)
    (member : c ∈ host.hostText) :
    c.toNat < 0x80 ∧ c ≠ '@' ∧ Url.endsAuthority c = false ∧
      Url.isLineNoise c = false := by
  have facts : (("[]".toList ++ plainChars).all fun c =>
      c.toNat < 0x80 ∧ c ≠ '@' ∧ Url.endsAuthority c = false ∧
        Url.isLineNoise c = false) = true := by
    decide
  exact of_decide_eq_true
    (List.all_eq_true.mp facts c (specified.hostText_subset member))

theorem Spells.eq_writeV4 (spells : Spells text (.v4 bits)) :
    text = writeV4 bits := by
  cases spells with
  | v4 bits => rfl
  | v6 spelled _ => cases spelled

theorem colon_notMem_writeV4 (bits : BitVec 32) : ':' ∉ writeV4 bits := by
  intro member
  rcases char_of_mem_writeV4 member with dot | digit
  · cases dot
  · cases digit

private theorem readChars?_wildcard : ∀ text ∈ Url.wildcards,
    readChars? text = none ∨ readChars? text = some (.v4 0) ∨
      readChars? text = some (.v6 0 none) := by
  decide +kernel

private theorem Specified.not_wildcard (specified : host.Specified)
    (spells : Spells text host) : text ∉ Url.wildcards := by
  intro wildcard
  have read := readChars?_eq_some_iff.mpr spells
  rcases readChars?_wildcard text wildcard with other | other | other
  · cases read.symm.trans other
  · obtain rfl := Option.some.inj (read.symm.trans other)
    cases specified with
    | v4 nonzero => exact nonzero rfl
  · obtain rfl := Option.some.inj (read.symm.trans other)
    cases specified with
    | v6 nonzero => exact nonzero rfl

end Net.Address

namespace Url

open Net.Address

section Host

variable {host : Net.Address} {address path : String} {port : Int}
  {text digits : List Char}

theorem hostOfAddress_of_spells (specified : host.Specified)
    (spells : Spells (Text.trim address.toList) host) :
    hostOfAddress address = host.hostText := by
  have read := readChars?_eq_some_iff.mpr spells
  have named := specified.not_wildcard spells
  rw [hostOfAddress, List.contains_eq_mem, if_neg (by simpa using named), read]
  cases specified with
  | v4 _ => exact spells.eq_writeV4
  | v6 _ => rfl

theorem undelimited_of_spells (specified : host.Specified)
    (spells : Spells (Text.trim address.toList) host) :
    ∀ c ∈ hostOfAddress address, endsAuthority c = false := by
  intro c member
  rw [hostOfAddress_of_spells specified spells] at member
  exact (specified.char_facts member).2.2.1

theorem hostAndPort_hostText (specified : host.Specified)
    (ascii : ∀ c ∈ digits, c.isDigit = true) :
    hostAndPort (host.hostText ++ ':' :: digits) = (host.toChars, digits) := by
  have noUser : '@' ∉ host.toChars := specified.notMem (by decide)
  have unopened : '[' ∉ host.toChars := specified.notMem (by decide)
  have unclosed : ']' ∉ host.toChars := specified.notMem (by decide)
  cases specified with
  | v4 _ =>
      exact hostAndPort_plain noUser unopened (colon_notMem_writeV4 _) ascii
  | v6 _ => exact hostAndPort_bracketed noUser unclosed ascii

private theorem checkBracketed_of_spells {bits : BitVec 128}
    (spells : Spells text (.v6 bits none)) (unversioned : 'v' ∉ text) :
    checkBracketed text = .ok () := by
  have other : text.head? ≠ some 'v' :=
    fun head => unversioned (List.mem_of_mem_head? head)
  rw [checkBracketed, if_neg other, readChars?_eq_some_iff.mpr spells]

theorem checkBrackets_hostText (specified : host.Specified)
    (spells : Spells text host)
    (ascii : ∀ c ∈ digits, c.isDigit = true) :
    checkBrackets (host.hostText ++ ':' :: digits) = .ok () := by
  have noUser : '@' ∉ host.toChars := specified.notMem (by decide)
  have unopened : '[' ∉ host.toChars := specified.notMem (by decide)
  have unclosed : ']' ∉ host.toChars := specified.notMem (by decide)
  have unversioned : 'v' ∉ host.toChars := specified.notMem (by decide)
  cases specified with
  | v4 _ =>
      apply checkBrackets_plain <;> rw [List.mem_append, not_or]
      · exact ⟨unopened, notMem_colon_digits ascii (by decide) (by decide)⟩
      · exact ⟨unclosed, notMem_colon_digits ascii (by decide) (by decide)⟩
  | v6 _ =>
      exact checkBrackets_bracketed noUser unclosed ascii
        (checkBracketed_of_spells spells.toChars unversioned)

theorem checkDelimiters_hostText (specified : host.Specified)
    (ascii : ∀ c ∈ digits, c.isDigit = true) :
    checkDelimiters (host.hostText ++ ':' :: digits) = .ok () := by
  apply checkDelimiters_of_ascii
  intro c member
  rcases List.mem_append.mp member with inside | behind
  · exact (specified.char_facts inside).1
  · rcases List.mem_cons.mp behind with rfl | digit
    · decide
    · have small := (Numeral.digitChar_digit (ascii c digit)).2
      omega

theorem lowerHost_toChars (specified : host.Specified) :
    lowerHost host.toChars = host.toChars := by
  have zoneless : '%' ∉ host.toChars := specified.notMem (by decide)
  have facts : (plainChars.all fun c =>
      c.toNat < 0x80 ∧ c.toLower = c) = true := by
    decide
  have small : ∀ c ∈ host.toChars, c.toNat < 0x80 ∧ c.toLower = c := by
    intro c member
    exact of_decide_eq_true
      (List.all_eq_true.mp facts c (specified.subset member))
  rw [lowerHost, Text.cutFirst_of_notMem zoneless]
  exact Text.lowerAfter_eq_self (fun c member =>
    Text.keepsCase_of_ascii (small c member).1 (small c member).2) []

theorem isBlank_of_isLineNoise {c : Char} (noise : isLineNoise c = true) :
    Text.isBlank c = true := by
  simp only [isLineNoise, Bool.or_eq_true, decide_eq_true_eq] at noise
  rcases noise with (rfl | rfl) | rfl <;> rfl

theorem survives_of_spells (specified : host.Specified)
    (spells : Spells (Text.trim address.toList) host)
    (plain : ∀ c ∈ path.toList, c ≠ '?' ∧ c ≠ '#' ∧ Text.isBlank c = false) :
    Survives address path := by
  have lasting : (Text.dropTrailingSlashes path).toList ⊆ path.toList := by
    rw [Text.dropTrailingSlashes, String.toList_ofList]
    exact (Text.dropEndWhile_isPrefix _ _).subset
  constructor
  case undelimited => exact undelimited_of_spells specified spells
  case closed =>
    have noUser : '@' ∉ host.hostText :=
      fun member => (specified.char_facts member).2.1 rfl
    rw [hostOfAddress_of_spells specified spells,
      Text.afterLast_of_notMem noUser]
    intro opened
    cases specified with
    | @v4 bits _ => exact absurd (writeV4_subset bits opened) (by decide)
    | v6 _ => simp [hostText]
  case unmarked =>
    intro c member
    obtain ⟨unqueried, unmarked, visible⟩ := plain c (lasting member)
    refine ⟨unqueried, unmarked, ?_⟩
    by_contra noise
    rw [isBlank_of_isLineNoise (Bool.not_eq_false _ ▸ noise)] at visible
    cases visible
  case unpadded =>
    intro c last
    exact (plain c (lasting (List.mem_of_getLast? last))).2.2

private theorem authorityOf_of_spells (specified : host.Specified)
    (spells : Spells (Text.trim address.toList) host) :
    authorityOf (serverLocation address port path) =
      host.hostText ++ ':' :: Numeral.ofNat port.toNat := by
  have kept : withoutNoise host.hostText = host.hostText := by
    apply List.filter_eq_self.mpr
    intro c member
    rw [(specified.char_facts member).2.2.2]
    rfl
  rw [(serverLocation_undelimited (undelimited_of_spells specified spells)).1,
    hostOfAddress_of_spells specified spells, kept]

end Host

/-- An address that is not the unspecified one composes with every port and
every path without marks and blanks.  The host of the URL is the shortest text
of the address, and the URL tells everything else that it was composed from. -/
theorem ofServer_of_address {tls : Bool} {address path : String} {port : Int}
    {host : Net.Address} (specified : host.Specified)
    (spells : Spells (Text.trim address.toList) host)
    (inside : 0 ≤ port ∧ port ≤ 65535)
    (start : path = "" ∨ path.toList.head? = some '/')
    (plain : ∀ c ∈ path.toList, c ≠ '?' ∧ c ≠ '#' ∧ Text.isBlank c = false) :
    ∃ url, ofServer tls address port path = .ok url ∧
      url.host? = some host.toText ∧ parse? host.toText = some host ∧
      url.Tells tls port path := by
  have ascii : ∀ c ∈ Numeral.ofNat port.toNat, c.isDigit = true :=
    fun c => Numeral.isDigit_of_mem_ofNat
  have authority := @authorityOf_of_spells host address path port specified
    spells
  have parts := hostAndPort_hostText specified ascii
  have nonempty : host.toChars ≠ [] := by
    intro empty
    exact not_spells_nil (empty ▸ spells.toChars)
  have composes : ∃ url, ofServer tls address port path = .ok url := by
    apply exists_ofServer (isPort_iff.mpr inside) <;> rw [authority]
    case brackets => exact checkBrackets_hostText specified spells ascii
    case delimiters => exact checkDelimiters_hostText specified ascii
    case host =>
      rw [parts]
      exact nonempty
    case readable =>
      rw [parts]
      exact ⟨_, readPort_ofNat (by rw [maxPort]; omega)⟩
  obtain ⟨url, composed⟩ := composes
  refine ⟨url, composed, ?_, ?_, ?_⟩
  · have located := (located_of_ofServer composed).1
    rw [host?, located.authority, String.toList_ofList, authority, parts,
      if_neg (by simpa using nonempty), lowerHost_toChars specified]
    rfl
  · rw [parse?, Net.Address.toText, String.toList_ofList]
    exact readChars?_eq_some_iff.mpr spells.toChars
  · exact (survives_of_spells specified spells plain).tells start composed

/-- A version 6 address with blanks around it, with leading zeros and great
letters, and with two runs of zeros of the same length. -/
theorem lengthy_address_composes :
    let host : Net.Address := .v6 0x20010DB8000000000001000000000ABC none
    Spells (Text.trim " 2001:0DB8:0:0:1:0:0:0ABC\n".toList) host ∧
      host.Specified ∧
      ∃ url, ofServer true " 2001:0DB8:0:0:1:0:0:0ABC\n" 65535 "/root//" =
          .ok url ∧
        url.host? = some "2001:db8::1:0:0:abc" ∧
        parse? "2001:db8::1:0:0:abc" = some host ∧
        url.Tells true 65535 "/root//" := by
  intro host
  have specified : host.Specified := .v6 (by decide)
  have spells :
      Spells (Text.trim " 2001:0DB8:0:0:1:0:0:0ABC\n".toList) host := by
    rw [← readChars?_eq_some_iff]
    decide +kernel
  have plain : ("/root//".toList.all fun c =>
      c ≠ '?' ∧ c ≠ '#' ∧ Text.isBlank c = false) = true := by
    decide +kernel
  have text : host.toText = "2001:db8::1:0:0:abc" := by
    decide +kernel
  rw [← text]
  refine ⟨spells, specified, ?_⟩
  exact ofServer_of_address specified spells (by decide) (.inr (by decide))
    (by simpa using plain)

end Url

end ServerConfig
