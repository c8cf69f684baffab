import ServerConfig.Proofs.Net.WrittenAddress
import ServerConfig.Proofs.Verdicts

/-!
# Canonical networks

A network has many texts, but it is written in one way only: with the shortest
text of its base and with the number of its leading bits.  That text denotes
the network again as long as the bits of the base behind the leading ones are
zero.  Main statement: this holds of all networks of a compiled whitelist, so a
whitelist that is written out and compiled again stays the same.
-/

namespace ServerConfig

namespace Net

theorem and_leadingMask_of_free {width length : Nat} {x : BitVec width}
    (free : ∀ index, length ≤ index → x.getMsbD index = false) :
    x &&& leadingMask width length = x := by
  apply BitVec.eq_of_getMsbD_eq
  intro index inside
  rw [BitVec.getMsbD_and, getMsbD_leadingMask]
  by_cases early : index < length
  · simp [early, inside]
  · simp [early, free index (Nat.le_of_not_lt early)]

namespace Network

variable {network : Network} {address : Address} {text : List Char}
  {length : Nat}

/-! ## Bases -/

/-- The address whose leading bits the members of a network share. -/
def base : Network → Address
  | .v4 bits _ => .v4 bits
  | .v6 bits zone _ => .v6 bits zone

/-- No bit of the base is set but the ones that the members share. -/
def Canonical (network : Network) : Prop :=
  ∀ index, network.length ≤ index → network.base.leadingBit index = false

@[simp] theorem length_around (address : Address) (length : Nat) :
    (around address length).length = length := by
  cases address <;> rfl

@[simp] theorem version_around (address : Address) (length : Nat) :
    (around address length).version = address.version := by
  cases address <;> rfl

theorem canonical_around (address : Address) (length : Nat) :
    (around address length).Canonical := by
  intro index behind
  rw [length_around] at behind
  have masked {width : Nat} (bits : BitVec width) :
      (bits &&& leadingMask width length).getMsbD index = false := by
    rw [BitVec.getMsbD_and, getMsbD_leadingMask,
      decide_eq_false (Nat.not_lt.mpr behind), Bool.false_and, Bool.and_false]
  cases address with
  | v4 bits => exact masked bits
  | v6 bits zone => exact masked bits

/-- A canonical network is the one around its base. -/
theorem Canonical.around_base (canonical : network.Canonical) :
    around network.base network.length = network := by
  cases network with
  | v4 bits length =>
      have same : bits &&& leadingMask 32 length = bits :=
        and_leadingMask_of_free canonical
      rw [base, around, Network.length, same]
  | v6 bits zone length =>
      have same : bits &&& leadingMask 128 length = bits :=
        and_leadingMask_of_free canonical
      rw [base, around, Network.length, same, if_pos rfl]

/-! ## Written networks -/

/-- The number of leading bits never exceeds that of all bits. -/
theorem SpellsEntry.bounded (spells : SpellsEntry text address length) :
    length ≤ address.version.width := by
  cases spells with
  | single => exact Nat.le_refl _
  | block4 bits spelled =>
      cases spelled with
      | length spelled => exact spelled.bounded
      | mask bounded => exact bounded
      | inverse _ proper => exact Nat.le_of_lt proper
  | block6 _ spelled => exact spelled.bounded

theorem SpellsEntry.exists_spells (spells : SpellsEntry text address length) :
    ∃ shown, address.Spells shown := by
  cases spells with
  | single spelled => exact ⟨_, spelled⟩
  | block4 bits _ => exact ⟨_, .v4 bits⟩
  | block6 spelled _ => exact ⟨_, spelled⟩

/-- The base of a network has a text if the address inside of it has one.  It
may have lost the zone of that address, but it has none of its own. -/
theorem spells_base_around (spells : address.Spells text) (length : Nat) :
    (around address length).base.Spells (around address length).base.toChars := by
  cases address with
  | v4 bits => exact .v4 _
  | v6 bits zone =>
      rw [around, base]
      split
      · exact spells.withBits _
      · exact Address.spells_toChars_unzoned _

theorem toList_toText (network : Network) :
    network.toText.toList =
      network.base.toChars ++ '/' :: Numeral.ofNat network.length := by
  cases network <;>
    simp [toText, base, Network.length, Address.toText, Numeral.ofNat]

private theorem spellsLength_ofNat {version : Version}
    (bounded : length ≤ version.width) :
    SpellsLength version.width (Numeral.ofNat length) length := by
  have small : length < 10 ^ 3 := by
    cases version <;> simp only [Version.width] at bounded <;> omega
  have short : (Numeral.ofNat length).length ≤ 3 :=
    (Nat.length_toDigits_le_iff (by decide) (by decide)).mpr small
  exact
    { nonempty := Numeral.ofNat_ne_nil
      digits := fun _ member => Numeral.isDigit_of_mem_ofNat member
      readable := Nat.le_trans short (by decide)
      value := Numeral.ofAscii_ofNat length
      bounded := bounded }

theorem spellsEntry_toText
    (spelled : network.base.Spells network.base.toChars)
    (bounded : network.length ≤ network.version.width) :
    SpellsEntry network.toText.toList network.base network.length := by
  rw [toList_toText]
  have number := spellsLength_ofNat bounded
  cases network with
  | v4 bits length => exact .block4 bits (.length number)
  | v6 bits zone length => exact .block6 spelled number

/-- A written network starts with a character of an address and ends with a
digit, so nothing is trimmed. -/
theorem trim_toText (network : Network) :
    Text.trim network.toText.toList = network.toText.toList := by
  rw [Text.trim_eq_self_iff, toList_toText]
  obtain ⟨first, rest, start, plain⟩ := network.base.toChars_start
  constructor
  · intro c head
    rw [start, List.cons_append, List.head?_cons, Option.some.injEq] at head
    rw [← head]
    exact Address.isBlank_of_mem_plainChars plain
  · intro c last
    rw [List.getLast?_append_cons,
      List.getLast?_cons_of_ne_nil Numeral.ofNat_ne_nil] at last
    have digit := Numeral.isDigit_of_mem_ofNat (List.mem_of_getLast? last)
    exact (Text.digit_facts digit).2.1

end Network

end Net

namespace Whitelist

open Net (Network)

variable {entry : Option String} {network : Network}

theorem canonical_of_readEntry (read : readEntry entry = .ok network) :
    network.Canonical := by
  obtain ⟨address, length, _, rfl⟩ := readEntry_eq_ok_iff.mp read
  exact Network.canonical_around address length

/-- The text of a network that was read denotes that network. -/
theorem readEntry_toText (read : readEntry entry = .ok network) :
    readEntry (some network.toText) = .ok network := by
  have canonical := canonical_of_readEntry read
  obtain ⟨address, length, denotes, rfl⟩ := readEntry_eq_ok_iff.mp read
  obtain ⟨shown, spells⟩ := denotes.exists_spells
  have written := Network.spellsEntry_toText
    (Network.spells_base_around spells length) (by simpa using denotes.bounded)
  rw [← Network.trim_toText] at written
  exact readEntry_eq_ok_iff.mpr ⟨_, _, written, canonical.around_base.symm⟩

/-- The networks of a compiled whitelist have no bits behind the leading ones,
and their texts compile to the same networks. -/
theorem compile_written {entries : List (Option String)}
    {networks : Whitelist} (compiled : compile entries = .ok networks) :
    compile (networks.map fun network => some network.toText) =
        .ok networks ∧
      ∀ network ∈ networks, network.Canonical := by
  have exists_entry (network : Network) (member : network ∈ networks) :
      ∃ entry, readEntry entry = .ok network := by
    obtain ⟨entry, _, read⟩ := (mem_compiled_iff compiled).mp member
    exact ⟨entry, read⟩
  constructor
  · rw [compile_eq_ok_iff, List.forall₂_map_left_iff, List.forall₂_same]
    intro network member
    obtain ⟨entry, read⟩ := exists_entry network member
    exact readEntry_toText read
  · intro network member
    obtain ⟨entry, read⟩ := exists_entry network member
    exact canonical_of_readEntry read

/-- Entries of all forms: addresses on their own, with a number of leading bits,
with a mask and with the complement of one, in short and in long texts, with
blanks around them and with bits that do not count. -/
def mixedEntries : List (Option String) :=
  [some "10.0.0.7", some " 10.9.8.7/8\n", some "172.16.5.4/255.240.0.0",
    some "192.168.7.9/0.0.0.255", some "::ffff:1.2.3.4",
    some "2001:0DB8:0:0:0:0:0:9/64", some "fe80::1%eth0",
    some "fe80::1%eth0/10"]

/-- The networks that the entries of all forms denote. -/
def mixedNetworks : Whitelist :=
  [.v4 0x0A000007 32, .v4 0x0A000000 8, .v4 0xAC100000 12,
    .v4 0xC0A80700 24, .v6 0xFFFF01020304 none 128,
    .v6 (0x20010DB8 <<< 96) none 64,
    .v6 (0xFE80 <<< 112 ||| 1) (some "eth0") 128,
    .v6 (0xFE80 <<< 112) none 10]

/-- The texts of networks of all forms compile to the same networks. -/
theorem mixed_entries_written :
    compile mixedEntries = .ok mixedNetworks ∧
      compile (mixedNetworks.map fun network => some network.toText) =
        .ok mixedNetworks ∧
      ∀ network ∈ mixedNetworks, network.Canonical := by
  have compiled : compile mixedEntries = .ok mixedNetworks := by
    decide +kernel
  exact ⟨compiled, compile_written compiled⟩

end Whitelist

end ServerConfig
