import ServerConfig.Proofs.Compilation
import ServerConfig.Proofs.Net.Membership
import ServerConfig.Proofs.Text.Trimming

/-!
# Verdicts on clients

The verdict of a whitelist on a client is a matter of addresses and leading
bits: of the address that the client counts as, and of those that the entries
denote.  The first main statement says which clients are allowed, without
networks, masks or the order of entries.  The second one is about entries that
are single addresses: such an entry allows its own address and no other, unless
it maps version 4 into version 6.  Clients are taken out of such addresses, but
entries are not, so an entry of that form allows nobody.
-/

namespace ServerConfig

namespace Net.Address

/-- What an address counts as: one of version 6 that maps an address of version
4 counts as the latter. -/
inductive CountsAs : Address → Address → Prop
  | version4 (bits : BitVec 32) : CountsAs (.v4 bits) (.v4 bits)
  | mapped {bits : BitVec 128} {inner : BitVec 32} (zone : Option String) :
      bits.toNat = 0xFFFF * 2 ^ 32 + inner.toNat →
      CountsAs (.v6 bits zone) (.v4 inner)
  | version6 {bits : BitVec 128} (zone : Option String) :
      (∀ inner : BitVec 32, bits.toNat ≠ 0xFFFF * 2 ^ 32 + inner.toNat) →
      CountsAs (.v6 bits zone) (.v6 bits zone)

/-- An address of version 6 maps one of version 4. -/
def IsMapped (address : Address) : Prop :=
  address.version = .v6 ∧ ∃ inner, address.CountsAs (.v4 inner)

/-- The same address, whatever the zones. -/
inductive SameBits : Address → Address → Prop
  | v4 (bits : BitVec 32) : SameBits (.v4 bits) (.v4 bits)
  | v6 (bits : BitVec 128) (zone other : Option String) :
      SameBits (.v6 bits zone) (.v6 bits other)

/-- Two addresses denote the same one: they count as the same address. -/
def SameHost (address other : Address) : Prop :=
  ∃ counted counted', address.CountsAs counted ∧ other.CountsAs counted' ∧
    counted.SameBits counted'

theorem shiftRight_eq_iff {bits : BitVec 128} :
    bits >>> 32 = 0xFFFF#128 ↔
      bits.toNat = 0xFFFF * 2 ^ 32 + (bits.setWidth 32).toNat := by
  rw [← BitVec.toNat_inj, BitVec.toNat_ushiftRight, BitVec.toNat_setWidth,
    BitVec.toNat_ofNat, Nat.shiftRight_eq_div_pow]
  omega

theorem countsAs_iff {address counted : Address} :
    address.CountsAs counted ↔ counted = address.unmapped := by
  cases address with
  | v4 bits =>
      constructor
      · intro counts
        cases counts
        rfl
      · rintro rfl
        exact .version4 bits
  | v6 bits zone =>
      rw [unmapped]
      split
      · rename_i mapped
        rw [shiftRight_eq_iff] at mapped
        constructor
        · intro counts
          cases counts with
          | mapped _ same =>
              congr 1
              apply BitVec.eq_of_toNat_eq
              omega
          | version6 _ other => exact (other _ mapped).elim
        · rintro rfl
          exact .mapped zone mapped
      · rename_i plain
        rw [shiftRight_eq_iff] at plain
        have other (inner : BitVec 32) :
            bits.toNat ≠ 0xFFFF * 2 ^ 32 + inner.toNat := by
          intro same
          apply plain
          rw [BitVec.toNat_setWidth, same]
          have small := inner.isLt
          omega
        constructor
        · intro counts
          cases counts with
          | mapped _ same => exact (other _ same).elim
          | version6 _ _ => rfl
        · rintro rfl
          exact .version6 zone other

theorem sameBits_iff_agree {address other : Address} :
    address.SameBits other ↔ address.Agree address.version.width other := by
  constructor
  · intro same
    cases same with
    | v4 bits => exact ⟨rfl, fun _ _ => rfl⟩
    | v6 bits zone other => exact ⟨rfl, fun _ _ => rfl⟩
  · intro agree
    cases address with
    | v4 bits =>
        cases other with
        | v4 bits' =>
            rw [BitVec.eq_of_getMsbD_eq agree.bits]
            exact .v4 bits'
        | v6 bits' zone => cases agree.version
    | v6 bits zone =>
        cases other with
        | v4 bits' => cases agree.version
        | v6 bits' zone' =>
            rw [BitVec.eq_of_getMsbD_eq agree.bits]
            exact .v6 bits' zone zone'

/-- Being the same as what an address counts as is denoting the same address,
except for addresses that count as another one themselves. -/
theorem sameBits_unmapped_iff {own shown : Address} :
    own.SameBits shown.unmapped ↔ own.SameHost shown ∧ ¬ own.IsMapped := by
  constructor
  · intro same
    have plain : ¬ own.IsMapped := by
      rintro ⟨six, inner, counts⟩
      cases own with
      | v4 bits => cases six
      | v6 bits zone =>
          cases counts with
          | mapped _ mapped =>
              generalize counted : shown.unmapped = other at same
              cases same with
              | v6 _ _ zone' =>
                  -- What another address counts as is not mapped again.
                  cases countsAs_iff.mpr counted.symm with
                  | version6 _ unlike => exact unlike inner mapped
    refine ⟨⟨own, shown.unmapped, ?_, countsAs_iff.mpr rfl, same⟩, plain⟩
    cases own with
    | v4 bits => exact .version4 bits
    | v6 bits zone =>
        apply CountsAs.version6
        intro inner mapped
        exact plain ⟨rfl, inner, .mapped zone mapped⟩
  · rintro ⟨⟨counted, counted', counts, counts', same⟩, plain⟩
    rw [countsAs_iff] at counts'
    rw [← counts']
    cases counts with
    | version4 bits => exact same
    | mapped zone mapped => exact (plain ⟨rfl, _, .mapped zone mapped⟩).elim
    | version6 zone _ => exact same

theorem SameHost.refl (address : Address) : address.SameHost address := by
  refine ⟨_, _, countsAs_iff.mpr rfl, countsAs_iff.mpr rfl, ?_⟩
  cases address.unmapped with
  | v4 bits => exact .v4 bits
  | v6 bits zone => exact .v6 bits zone zone

end Net.Address

namespace Whitelist

open Net (Address Network)

/-! ## Clients and entries -/

/-- The address that a client shows, as a text or as it is. -/
inductive Client.Shows : Client → Address → Prop
  | text {shown : String} {address : Address} :
      address.Spells (Text.trim shown.toList) → Shows (.text shown) address
  | address (known : Address) : Shows (.address known) known

/-- The address that a client counts as. -/
def Client.Means (client : Client) (address : Address) : Prop :=
  ∃ shown, client.Shows shown ∧ shown.CountsAs address

/-- The entry denotes an address of which the leading bits count. -/
def Denotes (entry : Option String) (address : Address) (length : Nat) :
    Prop :=
  Network.SpellsEntry (Text.trim (entry.getD "").toList) address length

theorem Client.means_iff {client : Client} {address : Address} :
    client.Means address ↔ client.address? = some address := by
  constructor
  · rintro ⟨shown, shows, counts⟩
    rw [Address.countsAs_iff] at counts
    cases shows with
    | text spelled =>
        rw [address?, Address.readChars?_eq_some_iff.mpr spelled, counts]
        rfl
    | address _ => rw [address?, counts]
  · intro found
    cases client with
    | text shown =>
        obtain ⟨read, spelled, rfl⟩ := Option.map_eq_some_iff.mp found
        exact ⟨read, .text (Address.readChars?_eq_some_iff.mp spelled),
          Address.countsAs_iff.mpr rfl⟩
    | address known =>
        cases found
        exact ⟨known, .address known, Address.countsAs_iff.mpr rfl⟩
    | absent => cases found
    | other => cases found

theorem readEntry_eq_ok_iff {entry : Option String} {network : Network} :
    readEntry entry = .ok network ↔
      ∃ base length, Denotes entry base length ∧
        network = .around base length := by
  unfold Denotes
  rw [← Network.parse_eq_ok_iff, readEntry]
  cases Network.parse (Text.trim (entry.getD "").toList) <;>
    simp [Except.mapError]

/-- A network of a compiled whitelist comes from one of the entries, and every
entry has its network. -/
theorem mem_compiled_iff {entries : List (Option String)}
    {whitelist : Whitelist} (compiled : compile entries = .ok whitelist)
    {network : Network} :
    network ∈ whitelist ↔
      ∃ entry ∈ entries, readEntry entry = .ok network := by
  rw [compile_eq_ok_iff] at compiled
  induction compiled with
  | nil => simp
  | cons read _ ih =>
      rw [List.mem_cons, ih]
      constructor
      · rintro (rfl | ⟨entry, member, later⟩)
        · exact ⟨_, List.mem_cons_self, read⟩
        · exact ⟨entry, List.mem_cons_of_mem _ member, later⟩
      · rintro ⟨entry, member, later⟩
        rcases List.mem_cons.mp member with rfl | member
        · rw [read, Except.ok.injEq] at later
          exact .inl later.symm
        · exact .inr ⟨entry, member, later⟩

variable {entries : List (Option String)} {whitelist : Whitelist}

theorem compiled_eq_nil_iff (compiled : compile entries = .ok whitelist) :
    whitelist = [] ↔ entries = [] := by
  rw [compile_eq_ok_iff] at compiled
  cases compiled <;> simp

/-- One of the entries has the leading bits of the address. -/
def Covers (entries : List (Option String)) (address : Address) : Prop :=
  ∃ entry ∈ entries, ∃ base length, Denotes entry base length ∧
    base.Agree length address

private theorem any_contains_iff (compiled : compile entries = .ok whitelist)
    (address : Address) :
    whitelist.any (·.contains address) = true ↔ Covers entries address := by
  rw [List.any_eq_true]
  constructor
  · rintro ⟨network, member, inside⟩
    obtain ⟨entry, found, read⟩ := (mem_compiled_iff compiled).mp member
    obtain ⟨base, length, denotes, rfl⟩ := readEntry_eq_ok_iff.mp read
    exact ⟨entry, found, base, length, denotes,
      Network.contains_around_iff.mp inside⟩
  · rintro ⟨entry, found, base, length, denotes, agree⟩
    have read := readEntry_eq_ok_iff.mpr ⟨base, length, denotes, rfl⟩
    exact ⟨_, (mem_compiled_iff compiled).mpr ⟨entry, found, read⟩,
      Network.contains_around_iff.mpr agree⟩

theorem allows_compiled_iff (compiled : compile entries = .ok whitelist)
    {client : Client} :
    whitelist.allows client = true ↔
      entries = [] ∨
        ∃ address, client.Means address ∧ Covers entries address := by
  rw [allows, Bool.or_eq_true, List.isEmpty_iff,
    compiled_eq_nil_iff compiled]
  simp only [Client.means_iff]
  cases client.address? with
  | none => simp
  | some address =>
      simp only [any_contains_iff compiled, Option.some.injEq,
        exists_eq_left']

theorem allows_of_means (compiled : compile entries = .ok whitelist)
    {client : Client} {address : Address} (means : client.Means address) :
    whitelist.allows client = true ↔ entries = [] ∨ Covers entries address := by
  rw [Client.means_iff] at means
  rw [allows_compiled_iff compiled]
  simp only [Client.means_iff, means, Option.some.injEq, exists_eq_left']

/-! ## All entries -/

/-- A whitelist without entries allows every client.  Any other one allows the
clients that count as an address with the leading bits of one of the entries,
so the order of the entries does not matter, nor how the address of a client is
written, and clients without an address are refused. -/
theorem allows_iff_covered (compiled : compile entries = .ok whitelist)
    (client : Client) :
    (whitelist.allows client = true ↔
      entries = [] ∨ ∃ address, client.Means address ∧
        ∃ entry ∈ entries, ∃ base length, Denotes entry base length ∧
          base.Agree length address) ∧
    (∀ others other, compile others = .ok other →
      (∀ entry, entry ∈ others ↔ entry ∈ entries) →
      other.allows client = whitelist.allows client) ∧
    (∀ again address, client.Means address → again.Means address →
      whitelist.allows again = whitelist.allows client) ∧
    (entries ≠ [] →
      whitelist.allows .absent = false ∧ whitelist.allows .other = false ∧
        ∀ text : String,
          (Text.trim text.toList = [] ∨
            ∀ address : Address, ¬ address.Spells (Text.trim text.toList)) →
          whitelist.allows (.text text) = false) := by
  refine ⟨allows_compiled_iff compiled, ?_, ?_, ?_⟩
  · intro others other compiledToo same
    have empty : others = [] ↔ entries = [] := by
      simp only [List.eq_nil_iff_forall_not_mem, same]
    have covered (address : Address) :
        Covers others address ↔ Covers entries address := by
      simp only [Covers, same]
    rw [Bool.eq_iff_iff, allows_compiled_iff compiledToo,
      allows_compiled_iff compiled, empty]
    simp only [covered]
  · intro again address means meansToo
    rw [Bool.eq_iff_iff, allows_of_means compiled meansToo,
      allows_of_means compiled means]
  · intro some
    have refused {stranger : Client}
        (unknown : ∀ address, ¬ stranger.Means address) :
        whitelist.allows stranger = false := by
      rw [Bool.eq_false_iff]
      intro allowed
      rcases (allows_compiled_iff compiled).mp allowed with
        none | ⟨address, means, _⟩
      · exact some none
      · exact unknown address means
    refine ⟨refused ?_, refused ?_, ?_⟩
    · rintro address ⟨shown, shows, _⟩
      cases shows
    · rintro address ⟨shown, shows, _⟩
      cases shows
    · intro text blank
      apply refused
      rintro address ⟨shown, shows, _⟩
      cases shows with
      | text spelled =>
          rcases blank with nothing | unreadable
          · rw [nothing] at spelled
            exact Address.not_spells_nil spelled
          · exact unreadable shown spelled

/-- A client of version 4 that shows up as one of version 6 belongs to a network
of version 4. -/
theorem mapped_client_covered :
    compile [some "10.0.0.7/8", some "::1"] =
        .ok [.v4 0x0A000000 8, .v6 1 none 128] ∧
      ∃ address, (Client.text "::ffff:10.1.2.3").Means address ∧
        ∃ entry ∈ [some "10.0.0.7/8", some "::1"], ∃ base length,
          Denotes entry base length ∧ base.Agree length address := by
  have compiled : compile [some "10.0.0.7/8", some "::1"] =
      .ok [.v4 0x0A000000 8, .v6 1 none 128] := by decide +kernel
  have allowed : Whitelist.allows [.v4 0x0A000000 8, .v6 1 none 128]
      (.text "::ffff:10.1.2.3") = true := by decide +kernel
  have covered := (allows_iff_covered compiled _).1.mp allowed
  exact ⟨compiled, covered.resolve_left (List.cons_ne_nil _ _)⟩

/-! ## Single addresses -/

/-- An entry without a solidus is a single address.  It allows exactly the
addresses that denote the same one, except for an address of version 6 that
maps one of version 4: such an entry allows nobody, not even itself. -/
theorem single_entry_allows_iff {entry : String} {network : Network}
    (bare : '/' ∉ entry.toList)
    (accepted : readEntry (some entry) = .ok network) :
    ∃ own : Address, own.Spells (Text.trim entry.toList) ∧
      compile [some entry] = .ok [network] ∧
      (∀ (text : String) (shown : Address),
        shown.Spells (Text.trim text.toList) →
        (Whitelist.allows [network] (.text text) = true ↔
          own.SameHost shown ∧ ¬ own.IsMapped)) ∧
      ((∀ (text : String) (shown : Address),
          shown.Spells (Text.trim text.toList) →
          (Whitelist.allows [network] (.text text) = true ↔
            own.SameHost shown)) ↔
        ¬ own.IsMapped) ∧
      (Whitelist.allows [network] (.text entry) = true ↔ ¬ own.IsMapped) := by
  obtain ⟨own, length, denotes, rfl⟩ := readEntry_eq_ok_iff.mp accepted
  have trimmed : '/' ∉ Text.trim entry.toList :=
    fun member => bare (Text.trim_subset member)
  obtain ⟨spelled, rfl⟩ :=
    Network.SpellsEntry.of_slash_notMem denotes trimmed
  have verdict (text : String) (shown : Address)
      (spells : shown.Spells (Text.trim text.toList)) :
      Whitelist.allows [.around own own.version.width] (.text text) = true ↔
        own.SameHost shown ∧ ¬ own.IsMapped := by
    have found : (Client.text text).address? = some shown.unmapped :=
      Client.means_iff.mp
        ⟨shown, .text spells, Address.countsAs_iff.mpr rfl⟩
    rw [← Address.sameBits_unmapped_iff, Address.sameBits_iff_agree,
      ← Network.contains_around_iff]
    simp [allows, found]
  have itself := verdict entry own spelled
  refine ⟨own, spelled, by simp [compile, accepted], verdict, ?_, ?_⟩
  · constructor
    · intro same
      have allowed := (same entry own spelled).mpr (.refl own)
      exact (itself.mp allowed).2
    · intro plain text shown spells
      rw [verdict text shown spells]
      exact and_iff_left plain
  · rw [itself]
    exact and_iff_right (.refl own)

/-- An entry in version 6 allows its address in any form. -/
theorem loopback_entry_allows_itself :
    ∃ own : Address, own.Spells "::1".toList ∧
      own.SameHost (.v6 1 (some "lo")) ∧ ¬ own.IsMapped ∧
      Whitelist.allows [.v6 1 none 128] (.text "::1") = true := by
  have accepted : readEntry (some "::1") = .ok (.v6 1 none 128) := by
    decide +kernel
  obtain ⟨own, spelled, _, verdict, _, itself⟩ :=
    single_entry_allows_iff (by decide) accepted
  have shown : Address.readChars? (Text.trim " 0:0::0:1%lo ".toList) =
      some (.v6 1 (some "lo")) := by decide +kernel
  have allowed : Whitelist.allows [.v6 1 none 128]
      (.text " 0:0::0:1%lo ") = true := by decide +kernel
  obtain ⟨same, plain⟩ :=
    (verdict _ _ (Address.readChars?_eq_some_iff.mp shown)).mp allowed
  exact ⟨own, spelled, same, plain, itself.mpr plain⟩

/-- The entry for an address that maps one of version 4 does not allow that
address. -/
theorem mapped_entry_refuses_itself :
    '/' ∉ "::ffff:1.2.3.4".toList ∧
      compile [some "::ffff:1.2.3.4"] = .ok [.v6 0xFFFF01020304 none 128] ∧
      (Address.v6 0xFFFF01020304 none).Spells "::ffff:1.2.3.4".toList ∧
      Whitelist.allows [.v6 0xFFFF01020304 none 128]
        (.text "::ffff:1.2.3.4") = false := by
  refine ⟨by decide, by decide +kernel, ?_, by decide +kernel⟩
  exact Address.readChars?_eq_some_iff.mp (by decide +kernel)

end Whitelist

end ServerConfig
