import Mathlib.Data.List.TakeWhile
import ServerConfig.Proofs.Net.AddressText

/-!
# Writing addresses

An address has one shortest text, in which hexadecimal digits are small, groups
have no needless zeros, and the longest run of at least two zero groups is left
out.  Main statement: that text spells the address, so reading it gives the
address back.  Nothing here depends on which of several runs is left out.
-/

namespace ServerConfig

namespace Text

private theorem ofHex_append_singleton (values : List Nat) (digit : Nat) :
    ofHex (values ++ [digit]) = 16 * ofHex values + digit := by
  rw [ofHex, ofHex, List.foldl_append]
  rfl

theorem hexValue?_digitChar : ∀ value < 16,
    hexValue? value.digitChar = some value := by
  decide

/-- A number is written with the digits that denote it. -/
theorem exists_hexDigits (n : Nat) :
    ∃ values, Nat.toDigits 16 n = values.map Nat.digitChar ∧
      (∀ value ∈ values, value < 16) ∧ ofHex values = n := by
  induction n using Nat.strongRecOn with
  | ind n ih =>
      by_cases small : n < 16
      · refine ⟨[n], ?_, by simpa using small, ?_⟩
        · exact Nat.toDigits_of_lt_base small
        · simp [ofHex]
      · obtain ⟨values, written, digits, same⟩ := ih (n / 16) (by omega)
        refine ⟨values ++ [n % 16], ?_, ?_, ?_⟩
        · rw [Nat.toDigits_of_base_le (by decide) (by omega), written,
            List.map_append]
          rfl
        · intro value member
          rcases List.mem_append.mp member with before | last
          · exact digits value before
          · rw [List.mem_singleton.mp last]
            omega
        · rw [ofHex_append_singleton, same]
          omega

end Text

namespace Net.Address

/-! ## Groups -/

private theorem spellsGroup_writeGroup {group : Nat} (small : group < 65536) :
    SpellsGroup (writeGroup group) group := by
  obtain ⟨values, written, digits, same⟩ := Text.exists_hexDigits group
  refine ⟨Nat.toDigits_ne_nil, ?_, values, same.symm, ?_⟩
  · exact (Nat.length_toDigits_le_iff (by decide) (by decide)).mpr small
  · rw [writeGroup, written, List.forall₂_map_left_iff, List.forall₂_same]
    intro value member
    exact Text.hexValue?_digitChar value (digits value member)

theorem spellsGroup_map {groups : List Nat}
    (small : ∀ group ∈ groups, group < 65536) :
    List.Forall₂ SpellsGroup (groups.map writeGroup) groups := by
  rw [List.forall₂_map_left_iff, List.forall₂_same]
  exact fun group member => spellsGroup_writeGroup (small group member)

theorem length_groupsOf (count value : Nat) :
    (groupsOf count value).length = count := by
  induction count generalizing value with
  | zero => rfl
  | succ count ih =>
      rw [groupsOf, List.length_append, ih, List.length_singleton]

theorem lt_of_mem_groupsOf {count value group : Nat}
    (member : group ∈ groupsOf count value) : group < 65536 := by
  induction count generalizing value with
  | zero => cases member
  | succ count ih =>
      rcases List.mem_append.mp member with before | last
      · exact ih before
      · rw [List.mem_singleton.mp last]
        exact Nat.mod_lt _ (by decide)

private theorem foldl_groupsOf (count value : Nat) :
    (groupsOf count value).foldl (fun value group => 65536 * value + group) 0 =
      value % 65536 ^ count := by
  induction count generalizing value with
  | zero => simp [groupsOf, Nat.mod_one]
  | succ count ih =>
      rw [groupsOf, List.foldl_append, ih, Nat.pow_succ, Nat.mul_comm _ 65536,
        Nat.mod_mul]
      simp only [List.foldl_cons, List.foldl_nil]
      omega

/-- The groups of an address denote it. -/
theorem ofGroups_groupsOf (bits : BitVec 128) :
    ofGroups (groupsOf 8 bits.toNat) = bits := by
  apply BitVec.eq_of_toNat_eq
  have small := bits.isLt
  rw [ofGroups, foldl_groupsOf, BitVec.toNat_ofNat]
  omega

/-! ## The run that is left out -/

private theorem exists_after_zeroRun (groups : List Nat) :
    ∃ after, groups = List.replicate (zeroRun groups) 0 ++ after := by
  refine ⟨groups.dropWhile (· == 0), ?_⟩
  have zeros : groups.takeWhile (· == 0) =
      List.replicate (zeroRun groups) 0 := by
    rw [List.eq_replicate_iff]
    refine ⟨rfl, fun group member => ?_⟩
    simpa using List.mem_takeWhile_imp member
  rw [← zeros, List.takeWhile_append_dropWhile]

theorem exists_around_longestZeroRun {groups : List Nat} {start length : Nat}
    (found : longestZeroRun groups = (start, length)) :
    ∃ before after, before.length = start ∧
      groups = before ++ List.replicate length 0 ++ after := by
  induction groups generalizing start length with
  | nil =>
      cases found
      exact ⟨[], [], rfl, rfl⟩
  | cons group rest ih =>
      rw [longestZeroRun] at found
      obtain ⟨before, after, first, same⟩ := ih rfl
      dsimp only at found
      split at found
      · cases found
        obtain ⟨after, split⟩ := exists_after_zeroRun (group :: rest)
        exact ⟨[], after, rfl, split⟩
      · cases found
        exact ⟨group :: before, after, by rw [List.length_cons, first],
          congrArg (List.cons group) same⟩

/-! ## Whole addresses -/

theorem spellsV6_writeV6 (bits : BitVec 128) :
    SpellsV6 (writeV6 bits) bits := by
  have small (group : Nat) (member : group ∈ groupsOf 8 bits.toNat) :
      group < 65536 := lt_of_mem_groupsOf member
  have count := length_groupsOf 8 bits.toNat
  have whole := ofGroups_groupsOf bits
  rw [writeV6]
  generalize groupsOf 8 bits.toNat = groups at small count whole ⊢
  rcases found : longestZeroRun groups with ⟨start, length⟩
  obtain ⟨before, after, rfl, split⟩ := exists_around_longestZeroRun found
  dsimp only
  split
  · rw [← whole]
    exact .full (.of_forall (spellsGroup_map small)) count
  · rename_i long
    have front : groups.take before.length = before := by
      rw [split, List.append_assoc, List.take_left]
    have back : groups.drop (before.length + length) = after := by
      rw [split, List.drop_left' (by simp)]
    have known : before.length + after.length + length = 8 := by
      rw [← count, split]
      simp only [List.length_append, List.length_replicate]
      omega
    have gap : 8 - (before.length + after.length) = length := by omega
    rw [front, back, ← whole, split, ← gap]
    rw [split] at small
    refine .gap (spellsGroup_map ?_) (.of_forall (spellsGroup_map ?_))
      (by omega)
    · exact fun group member => small group (by simp [member])
    · exact fun group member => small group (by simp [member])

theorem slash_notMem_writeV6 (bits : BitVec 128) : '/' ∉ writeV6 bits :=
  (spellsV6_writeV6 bits).notMem (by decide) (by decide) rfl

theorem spells_toChars_unzoned (bits : BitVec 128) :
    Spells (Address.v6 bits none).toChars (.v6 bits none) :=
  .v6 (.plain (spellsV6_writeV6 bits)) (slash_notMem_writeV6 bits)

/-- Bits are written whatever they are, and the zone as it was spelled. -/
theorem Spells.withBits {text : List Char} {bits : BitVec 128}
    {zone : Option String} (spells : Spells text (.v6 bits zone))
    (other : BitVec 128) :
    Spells (Address.v6 other zone).toChars (.v6 other zone) := by
  cases spells with
  | v6 spelled plain =>
      cases spelled with
      | plain _ => exact spells_toChars_unzoned other
      | zoned _ some single =>
          rw [Address.toChars, String.toList_ofList]
          refine .v6 (.zoned (spellsV6_writeV6 other) some single) ?_
          rw [List.mem_append, List.mem_cons, not_or, not_or] at plain ⊢
          exact ⟨slash_notMem_writeV6 other, plain.2⟩

/-- An address that any text spells is spelled by its shortest text. -/
theorem Spells.toChars {text : List Char} {address : Address}
    (spells : Spells text address) : Spells address.toChars address := by
  cases address with
  | v4 bits => exact .v4 bits
  | v6 bits zone => exact spells.withBits bits

/-! ## The characters of written addresses -/

/-- The characters of addresses without a zone. -/
def plainChars : List Char := ":.0123456789abcdef".toList

theorem digitChar_mem_plainChars : ∀ value < 16,
    value.digitChar ∈ plainChars := by
  decide

private theorem writeGroup_subset (group : Nat) : writeGroup group ⊆ plainChars := by
  intro c member
  obtain ⟨values, written, digits, _⟩ := Text.exists_hexDigits group
  rw [writeGroup, written, List.mem_map] at member
  obtain ⟨value, inside, rfl⟩ := member
  exact digitChar_mem_plainChars value (digits value inside)

theorem writeGroups_subset (groups : List Nat) :
    writeGroups groups ⊆ plainChars := by
  intro c member
  rcases Text.mem_joinPieces member with rfl | ⟨piece, found, inside⟩
  · decide
  · obtain ⟨group, _, rfl⟩ := List.mem_map.mp found
    exact writeGroup_subset group inside

theorem writeV6_subset (bits : BitVec 128) : writeV6 bits ⊆ plainChars := by
  intro c member
  rw [writeV6] at member
  dsimp only at member
  split at member
  · exact writeGroups_subset _ member
  · rw [List.mem_append, List.mem_cons, List.mem_cons] at member
    rcases member with before | rfl | rfl | after
    · exact writeGroups_subset _ before
    · decide
    · decide
    · exact writeGroups_subset _ after

theorem writeV4_subset (bits : BitVec 32) : writeV4 bits ⊆ plainChars := by
  intro c member
  rcases char_of_mem_writeV4 member with rfl | digit
  · decide
  · obtain ⟨same, small⟩ := Numeral.digitChar_digit digit
    rw [← same]
    exact digitChar_mem_plainChars _ (by omega)

theorem isBlank_of_mem_plainChars {c : Char} (member : c ∈ plainChars) :
    Text.isBlank c = false := by
  have plain : plainChars.all (!Text.isBlank ·) = true := by decide
  rw [List.all_eq_true] at plain
  exact (Bool.not_eq_true' _).mp (plain c member)

/-- A written address starts with a character of the address itself. -/
theorem toChars_start (address : Address) :
    ∃ first rest, address.toChars = first :: rest ∧ first ∈ plainChars := by
  have start {text : List Char} (nonempty : text ≠ [])
      (plain : text ⊆ plainChars) (more : List Char) :
      ∃ first rest, text ++ more = first :: rest ∧ first ∈ plainChars := by
    obtain ⟨first, rest, rfl⟩ := List.exists_cons_of_ne_nil nonempty
    exact ⟨first, rest ++ more, rfl, plain List.mem_cons_self⟩
  cases address with
  | v4 bits =>
      have found := start (List.ne_nil_of_mem (dot_mem_writeV4 bits))
        (writeV4_subset bits) []
      rwa [List.append_nil] at found
  | v6 bits zone =>
      have nonempty : writeV6 bits ≠ [] :=
        List.ne_nil_of_mem (spellsV6_writeV6 bits).colon_mem
      cases zone with
      | none =>
          have found := start nonempty (writeV6_subset bits) []
          rwa [List.append_nil] at found
      | some zone => exact start nonempty (writeV6_subset bits) _

end Net.Address

end ServerConfig
