import ServerConfig.Proofs.Url.AddressHost

/-!
# Servers that listen everywhere

The unspecified address stands for all addresses of a server, and the URL of
such a server should name the loopback address in its place.  Whether an address
is the unspecified one is decided by its text, of which version 6 has many.
Main statement: the URL names the loopback address for the shortest text of
either version and for no other.  Any other text of the unspecified address
composes too, and its URL points at that very address.
-/

namespace ServerConfig

namespace Text

/-- A lower-case letter or a sign of ASCII is found in the lower-case text. -/
theorem mem_lowerAfter {c : Char} {text : List Char}
    (ascii : c.toNat < 0x80) (lower : c.toLower = c) (member : c ∈ text)
    (before : List Char) : c ∈ lowerAfter before text := by
  induction text generalizing before with
  | nil => cases member
  | cons first rest ih =>
      rw [lowerAfter, List.mem_append]
      rcases List.mem_cons.mp member with rfl | later
      · left
        have sigma : c ≠ '\u03A3' := by
          rintro rfl
          exact absurd ascii (by decide)
        have dotted : c ≠ '\u0130' := by
          rintro rfl
          exact absurd ascii (by decide)
        rw [if_neg sigma, if_neg dotted, lowerChar, if_pos ascii, lower]
        exact List.mem_singleton_self c
      · exact .inr (ih later (first :: before))

end Text

namespace Net.Address

/-- The address that stands for all addresses of a host. -/
inductive Unspecified : Address → Prop
  | v4 : Unspecified (.v4 0)
  | v6 (zone : Option String) : Unspecified (.v6 0 zone)

end Net.Address

namespace Url

open Net.Address

section Brackets

variable {c : Char} {host authority : List Char}

theorem mem_lowerHost (ascii : c.toNat < 0x80) (lower : c.toLower = c)
    (member : c ∈ host) : c ∈ lowerHost host := by
  rw [lowerHost]
  rcases Text.cutFirst_cases '%' host with
    ⟨_, uncut⟩ | ⟨before, zone, _, rfl, cut⟩
  · rw [uncut]
    exact Text.mem_lowerAfter ascii lower member []
  · rw [cut]
    rcases List.mem_append.mp member with name | behind
    · exact List.mem_append_left _
        (Text.mem_lowerAfter ascii lower name [])
    · exact List.mem_append_right _ behind

/-- The host that is read off an authority with brackets has been checked as an
address in brackets, even where it does not stand in them. -/
theorem checkBracketed_of_checkBrackets (opened : '[' ∈ authority)
    (checked : checkBrackets authority = .ok ()) :
    checkBracketed (hostAndPort authority).1 = .ok () := by
  have opened : authority.contains '[' = true := List.contains_iff_mem.mpr opened
  simp only [checkBrackets, opened, Bool.not_true, Bool.false_eq_true,
    if_false] at checked
  split at checked
  · cases checked
  · rw [hostAndPort]
    rcases Text.cutFirst_cases '[' (Text.afterLast '@' authority) with
      ⟨_, uncut⟩ | ⟨before, bracketed, _, _, cut⟩
    · simpa only [uncut] using checked
    · simp only [cut] at checked ⊢
      split at checked
      · cases checked
      · split at checked
        · split at checked
          · exact checked
          · cases checked
        · exact checked

/-- An address in brackets is not written like one of version 4. -/
theorem mem_of_checkBracketed (checked : checkBracketed host = .ok ()) :
    'v' ∈ host ∨ ':' ∈ host := by
  rw [checkBracketed] at checked
  split at checked
  · rename_i versioned
    exact .inl (List.mem_of_mem_head? versioned)
  · split at checked
    · cases checked
    · cases checked
    · rename_i bits zone read
      cases readChars?_eq_some_iff.mp read with
      | v6 spelled _ => exact .inr spelled.colon_mem

theorem lowerHost_ne_loopback (checked : checkBracketed host = .ok ()) :
    lowerHost host ≠ loopback := by
  intro same
  rcases mem_of_checkBracketed checked with versioned | colon
  · have member := mem_lowerHost (by decide) (by decide) versioned
    rw [same] at member
    exact absurd member (by decide)
  · have member := mem_lowerHost (by decide) (by decide) colon
    rw [same] at member
    exact absurd member (by decide)

end Brackets

section Server

variable {tls : Bool} {address path : String} {port : Int} {url : Url}
  {name host : List Char} {shown : Net.Address}

theorem hostOfAddress_of_spells_v6 {bits : BitVec 128} {zone : Option String}
    (spells : Spells (Text.trim address.toList) (.v6 bits zone))
    (other : Text.trim address.toList ∉ wildcards) :
    hostOfAddress address =
      '[' :: (Net.Address.v6 bits zone).toChars ++ [']'] := by
  rw [hostOfAddress, List.contains_eq_mem, if_neg (by simpa using other),
    readChars?_eq_some_iff.mpr spells]

/-- A server on an address in brackets does not name the loopback address,
whatever stands behind the address in the brackets. -/
theorem host?_ne_loopback {rest : List Char}
    (composed : ofServer tls address port path = .ok url)
    (named : hostOfAddress address = '[' :: rest) :
    url.host? ≠ some (String.ofList loopback) := by
  intro loops
  have located := (located_of_ofServer composed).1
  have opened : '[' ∈ authorityOf (serverLocation address port path) := by
    rw [serverLocation, named]
    exact List.mem_cons_self
  have checked := checkBracketed_of_checkBrackets opened located.brackets
  rw [host?, located.authority, String.toList_ofList] at loops
  split at loops
  · cases loops
  · exact lowerHost_ne_loopback checked
      (String.ofList_injective (Option.some.inj loops))

/-- A server composes if its name is a host of plain characters. -/
theorem exists_ofServer_of_named (inside : isPort port = true)
    (named : hostOfAddress address = name)
    (plain : ∀ c ∈ name, endsAuthority c = false ∧ isLineNoise c = false ∧
      c.toNat < 0x80)
    (brackets : checkBrackets (name ++ ':' :: Numeral.ofNat port.toNat) =
      .ok ())
    (parts : hostAndPort (name ++ ':' :: Numeral.ofNat port.toNat) =
      (host, Numeral.ofNat port.toNat))
    (nonempty : host ≠ []) :
    ∃ url, ofServer tls address port path = .ok url ∧
      url.host? = some (String.ofList (lowerHost host)) := by
  have undelimited : ∀ c ∈ hostOfAddress address, endsAuthority c = false := by
    rw [named]
    exact fun c member => (plain c member).1
  have kept : withoutNoise name = name := by
    apply List.filter_eq_self.mpr
    intro c member
    rw [(plain c member).2.1]
    rfl
  have authority : authorityOf (serverLocation address port path) =
      name ++ ':' :: Numeral.ofNat port.toNat := by
    rw [(serverLocation_undelimited undelimited).1, named, kept]
  have delimiters : checkDelimiters (name ++ ':' :: Numeral.ofNat port.toNat) =
      .ok () := by
    apply checkDelimiters_of_ascii
    intro c member
    rcases List.mem_append.mp member with inside | behind
    · exact (plain c inside).2.2
    · rcases List.mem_cons.mp behind with rfl | digit
      · decide
      · have small :=
          (Numeral.digitChar_digit (Numeral.isDigit_of_mem_ofNat digit)).2
        omega
  have composes : ∃ url, ofServer tls address port path = .ok url := by
    have bounds := isPort_iff.mp inside
    apply exists_ofServer inside <;> rw [authority]
    case brackets => exact brackets
    case delimiters => exact delimiters
    case host => rwa [parts]
    case readable =>
      rw [parts]
      exact ⟨_, readPort_ofNat (by rw [maxPort]; omega)⟩
  obtain ⟨url, composed⟩ := composes
  refine ⟨url, composed, ?_⟩
  have located := (located_of_ofServer composed).1
  rw [host?, located.authority, String.toList_ofList, authority, parts,
    if_neg (by simpa using nonempty)]

/-- The server of a wildcard address is reached by the loopback address. -/
theorem exists_ofServer_of_wildcard (inside : isPort port = true)
    (wildcard : Text.trim address.toList ∈ wildcards) :
    ∃ url, ofServer tls address port path = .ok url ∧
      url.host? = some (String.ofList loopback) := by
  have named : hostOfAddress address = loopback := by
    rw [hostOfAddress, List.contains_eq_mem, if_pos (by simpa using wildcard)]
  have plain : (loopback.all fun c => endsAuthority c = false ∧
      isLineNoise c = false ∧ c.toNat < 0x80) = true := by
    decide
  have digits : ∀ c ∈ Numeral.ofNat port.toNat, c.isDigit = true :=
    fun c => Numeral.isDigit_of_mem_ofNat
  have same : lowerHost loopback = loopback := by decide +kernel
  rw [← same]
  apply exists_ofServer_of_named inside named
  case plain => simpa using plain
  case brackets =>
    apply checkBrackets_plain <;> rw [List.mem_append, not_or]
    · exact ⟨by decide, notMem_colon_digits digits (by decide) (by decide)⟩
    · exact ⟨by decide, notMem_colon_digits digits (by decide) (by decide)⟩
  case parts =>
    exact hostAndPort_plain (by decide) (by decide) (by decide) digits
  case nonempty => decide

/-- A server on an address that is written as two colons points at it. -/
theorem exists_ofServer_of_brackets (inside : isPort port = true)
    (named : hostOfAddress address = "[::]".toList) :
    ∃ url, ofServer tls address port path = .ok url ∧
      url.host? = some "::" := by
  have plain : ("[::]".toList.all fun c => endsAuthority c = false ∧
      isLineNoise c = false ∧ c.toNat < 0x80) = true := by
    decide
  have digits : ∀ c ∈ Numeral.ofNat port.toNat, c.isDigit = true :=
    fun c => Numeral.isDigit_of_mem_ofNat
  have same : String.ofList (lowerHost "::".toList) = "::" := by
    decide +kernel
  rw [← same]
  apply exists_ofServer_of_named inside named
  case plain => simpa using plain
  case brackets =>
    exact @checkBrackets_bracketed "::".toList _ (by decide) (by decide) digits
      (by decide +kernel)
  case parts =>
    exact @hostAndPort_bracketed "::".toList _ (by decide) (by decide) digits
  case nonempty => decide

end Server

/-- A server on the unspecified address is reached by the loopback address
exactly if the address is given by its shortest text.  Any other text of it has
version 6, and the URL points at the unspecified address itself. -/
theorem ofServer_of_unspecified {tls : Bool} {address path : String}
    {port : Int} {host : Net.Address} (unspecified : host.Unspecified)
    (spells : Spells (Text.trim address.toList) host)
    (inside : 0 ≤ port ∧ port ≤ 65535) :
    ((∃ url, ofServer tls address port path = .ok url ∧
        url.host? = some "127.0.0.1") ↔
      Text.trim address.toList = "0.0.0.0".toList ∨
        Text.trim address.toList = "::".toList) ∧
    (host = .v6 0 none → Text.trim address.toList ≠ "::".toList →
      ∃ url, ofServer tls address port path = .ok url ∧
        url.host? = some "::") := by
  have inside := isPort_iff.mpr inside
  have wildcard_iff : Text.trim address.toList ∈ wildcards ↔
      Text.trim address.toList = "0.0.0.0".toList ∨
        Text.trim address.toList = "::".toList := by
    have named : Text.trim address.toList ≠ "".toList := by
      intro empty
      exact not_spells_nil (empty ▸ spells)
    simp only [wildcards, List.mem_cons, List.not_mem_nil, or_false, named,
      false_or]
  rw [← wildcard_iff]
  refine ⟨⟨?_, exists_ofServer_of_wildcard inside⟩, ?_⟩
  · rintro ⟨url, composed, loops⟩
    by_contra other
    cases unspecified with
    | v4 =>
        exact other (wildcard_iff.mpr (.inl spells.eq_writeV4))
    | v6 zone =>
        exact host?_ne_loopback composed
          (hostOfAddress_of_spells_v6 spells other) loops
  · rintro rfl unlike
    have other : Text.trim address.toList ∉ wildcards := by
      rw [wildcard_iff, not_or]
      refine ⟨?_, unlike⟩
      intro dotted
      have read := readChars?_eq_some_iff.mpr (dotted ▸ spells)
      cases read
    exact exists_ofServer_of_brackets inside
      (hostOfAddress_of_spells_v6 spells other)

/-- Blanks around the shortest text do not matter. -/
theorem padded_wildcard_loops_back :
    (Net.Address.v6 0 none).Unspecified ∧
      Spells (Text.trim " ::\n".toList) (.v6 0 none) ∧
      ∃ url, ofServer true " ::\n" 65535 "/root?a//" = .ok url ∧
        url.host? = some "127.0.0.1" := by
  have spells : Spells (Text.trim " ::\n".toList) (.v6 0 none) := by
    rw [← readChars?_eq_some_iff]
    decide +kernel
  have shortest : Text.trim " ::\n".toList = "::".toList := by
    decide +kernel
  refine ⟨.v6 none, spells, ?_⟩
  exact (ofServer_of_unspecified (.v6 none) spells (by decide)).1.mpr
    (.inr shortest)

/-- The unspecified address in full is not recognised, and the URL of a server
that listens on it points nowhere. -/
theorem full_wildcard_advertised :
    Spells (Text.trim "0:0:0:0:0:0:0:0".toList) (.v6 0 none) ∧
      ofServer false "0:0:0:0:0:0:0:0" 8080 "" =
        .ok { scheme := "http", authority := "[::]:8080" } ∧
      ¬ ∃ url, ofServer false "0:0:0:0:0:0:0:0" 8080 "" = .ok url ∧
        url.host? = some "127.0.0.1" := by
  have spells : Spells (Text.trim "0:0:0:0:0:0:0:0".toList) (.v6 0 none) := by
    rw [← readChars?_eq_some_iff]
    decide +kernel
  have composed : ofServer false "0:0:0:0:0:0:0:0" 8080 "" =
      .ok { scheme := "http", authority := "[::]:8080" } := by
    decide +kernel
  refine ⟨spells, composed, ?_⟩
  rintro ⟨url, composedToo, loops⟩
  obtain rfl := Except.ok.inj (composed.symm.trans composedToo)
  exact absurd loops (by decide +kernel)

end Url

end ServerConfig
