import ServerConfig.Net.Network
import ServerConfig.Proofs.Net.AddressText

/-!
# Members of a network

A network is given by an address and a number of leading bits, in a text that
names the number, a mask or neither.  `SpellsEntry` is the grammar of such
texts.  Main statements: a text is read as a network exactly if it belongs to
the grammar, and the members of that network are the addresses that agree with
the given one on the leading bits.
-/

namespace ServerConfig.Net

/-! ## Leading bits -/

namespace Address

/-- The bits of an address, the most significant one first. -/
def leadingBit : Address → Nat → Bool
  | .v4 bits, index => bits.getMsbD index
  | .v6 bits _, index => bits.getMsbD index

/-- Addresses of one version that have the same leading bits. -/
structure Agree (length : Nat) (address other : Address) : Prop where
  version : address.version = other.version
  bits : ∀ index < length, address.leadingBit index = other.leadingBit index

end Address

theorem getMsbD_leadingMask (width length index : Nat) :
    (leadingMask width length).getMsbD index =
      (decide (index < length) && decide (index < width)) := by
  rw [leadingMask, BitVec.getMsbD_shiftLeft, BitVec.getMsbD_allOnes,
    Bool.eq_iff_iff]
  simp only [Bool.and_eq_true, decide_eq_true_eq]
  omega

/-- Masked numbers are equal if the bits that the mask keeps are. -/
theorem and_leadingMask_eq_iff {width length : Nat} {x y : BitVec width} :
    x &&& leadingMask width length = y &&& leadingMask width length ↔
      ∀ index < length, x.getMsbD index = y.getMsbD index := by
  constructor
  · intro same index early
    by_cases inside : index < width
    · have bit := congrArg (BitVec.getMsbD · index) same
      simpa [getMsbD_leadingMask, early, inside] using bit
    · rw [BitVec.getMsbD_of_ge x index (Nat.le_of_not_lt inside),
        BitVec.getMsbD_of_ge y index (Nat.le_of_not_lt inside)]
  · intro same
    apply BitVec.eq_of_getMsbD_eq
    intro index _
    rw [BitVec.getMsbD_and, BitVec.getMsbD_and, getMsbD_leadingMask]
    by_cases early : index < length
    · rw [same index early]
    · simp [early]

theorem leadingMask_self (width : Nat) :
    leadingMask width width = BitVec.allOnes width := by
  simp [leadingMask]

theorem leadingMask_zero (width : Nat) :
    leadingMask width 0 = BitVec.zero width := by
  simp [leadingMask]

theorem leadingMask_injective {width length other : Nat}
    (bounded : length ≤ width) (boundedToo : other ≤ width)
    (same : leadingMask width length = leadingMask width other) :
    length = other := by
  have bit (index : Nat) := congrArg (BitVec.getMsbD · index) same
  simp only [getMsbD_leadingMask] at bit
  by_contra different
  rcases Nat.lt_or_gt_of_ne different with shorter | longer
  · have differs := bit length
    simp [shorter, show length < width by omega] at differs
  · have differs := bit other
    simp [longer, show other < width by omega] at differs

/-- A mask is the complement of another one only if neither bit is kept. -/
theorem leadingMask_ne_not {width length other : Nat} (positive : 0 < length)
    (proper : length < width) :
    leadingMask width other ≠ ~~~leadingMask width length := by
  intro same
  have first := congrArg (BitVec.getMsbD · 0) same
  have last := congrArg (BitVec.getMsbD · length) same
  have nonempty : 0 < width := by omega
  simp only [getMsbD_leadingMask, BitVec.getMsbD_not, positive, proper,
    nonempty, decide_true, Bool.and_true, Bool.true_and, Bool.not_true,
    Nat.lt_irrefl, decide_false, Bool.not_false,
    decide_eq_false_iff_not, decide_eq_true_eq] at first last
  omega

namespace Network

/-- The members of a network agree with the address that it was made from. -/
theorem contains_around_iff {base address : Address} {length : Nat} :
    (around base length).contains address = true ↔
      Address.Agree length base address := by
  cases base with
  | v4 bits =>
      cases address with
      | v4 other =>
          simp only [around, contains, beq_iff_eq, and_leadingMask_eq_iff]
          constructor
          · intro same
            exact ⟨rfl, fun index early => (same index early).symm⟩
          · intro agree index early
            exact (agree.bits index early).symm
      | v6 other zone =>
          simp only [around, contains, Bool.false_eq_true, false_iff]
          intro agree
          cases agree.version
  | v6 bits zone =>
      cases address with
      | v4 other =>
          simp only [around, contains, Bool.false_eq_true, false_iff]
          intro agree
          cases agree.version
      | v6 other zone' =>
          simp only [around, contains, beq_iff_eq, and_leadingMask_eq_iff]
          constructor
          · intro same
            exact ⟨rfl, fun index early => (same index early).symm⟩
          · intro agree index early
            exact (agree.bits index early).symm

/-- A single address is a network in which no bit is free. -/
theorem single_eq_around (address : Address) :
    single address = around address address.version.width := by
  cases address with
  | v4 bits =>
      simp only [single, around, Address.version, Version.width,
        leadingMask_self, BitVec.and_allOnes]
  | v6 bits zone =>
      simp only [single, around, Address.version, Version.width,
        leadingMask_self, BitVec.and_allOnes, if_true]

/-! ## Texts -/

/-- A number of leading bits in digits. -/
structure SpellsLength (width : Nat) (text : List Char) (length : Nat) :
    Prop where
  nonempty : text ≠ []
  digits : ∀ c ∈ text, c.isDigit = true
  readable : text.length ≤ Numeral.digitLimit
  value : Numeral.ofAscii text = length
  bounded : length ≤ width

theorem readLength?_eq_some_iff {width length : Nat} {text : List Char} :
    readLength? width text = some length ↔ SpellsLength width text length := by
  rw [readLength?]
  split
  · rename_i shape
    simp only [Bool.or_eq_true, List.isEmpty_iff, Bool.not_eq_true',
      decide_eq_true_eq] at shape
    simp only [reduceCtorEq, false_iff]
    intro spells
    rcases shape with (empty | other) | long
    · exact spells.nonempty empty
    · rw [List.all_eq_true.mpr spells.digits] at other
      cases other
    · exact absurd spells.readable (Nat.not_le.mpr long)
  · rename_i shape
    simp only [Bool.or_eq_true, List.isEmpty_iff, Bool.not_eq_true',
      decide_eq_true_eq, not_or, Bool.not_eq_false, List.all_eq_true,
      Nat.not_lt] at shape
    dsimp only
    split
    · rename_i bounded
      rw [Option.some.injEq]
      constructor
      · rintro rfl
        exact ⟨shape.1.1, shape.1.2, shape.2, rfl, bounded⟩
      · intro spells
        exact spells.value
    · rename_i unbounded
      simp only [reduceCtorEq, false_iff]
      intro spells
      rw [spells.value] at unbounded
      exact unbounded spells.bounded

/-- What stands after the solidus in a version 4 network: the number of leading
bits, their mask or its complement.  All zeros and all ones are masks. -/
inductive SpellsMask : List Char → Nat → Prop
  | length {text : List Char} {length : Nat} :
      SpellsLength 32 text length → SpellsMask text length
  | mask {length : Nat} :
      length ≤ 32 → SpellsMask (Address.writeV4 (leadingMask 32 length)) length
  | inverse {length : Nat} :
      0 < length → length < 32 →
      SpellsMask (Address.writeV4 (~~~leadingMask 32 length)) length

theorem find?_mask_eq_some_iff {bits : BitVec 32} {length : Nat} :
    ((List.range 33).find? fun length => leadingMask 32 length == bits) =
        some length ↔
      length ≤ 32 ∧ leadingMask 32 length = bits := by
  constructor
  · intro found
    have member := List.mem_range.mp (List.mem_of_find?_eq_some found)
    exact ⟨by omega, by simpa using List.find?_some found⟩
  · rintro ⟨bounded, rfl⟩
    have some : ((List.range 33).find? fun other =>
        leadingMask 32 other == leadingMask 32 length).isSome = true := by
      rw [List.find?_isSome]
      exact ⟨length, List.mem_range.mpr (by omega), by simp⟩
    obtain ⟨other, found⟩ := Option.isSome_iff_exists.mp some
    have member := List.mem_range.mp (List.mem_of_find?_eq_some found)
    have same : leadingMask 32 other = leadingMask 32 length := by
      simpa using List.find?_some found
    rw [found, leadingMask_injective (by omega) bounded same]

theorem readDottedMask?_eq_some_iff {text : List Char} {length : Nat} :
    readDottedMask? text = some length ↔
      length ≤ 32 ∧ text = Address.writeV4 (leadingMask 32 length) ∨
        (0 < length ∧ length < 32) ∧
          text = Address.writeV4 (~~~leadingMask 32 length) := by
  simp only [readDottedMask?, Option.bind_eq_bind, Option.bind_eq_some_iff,
    Address.readV4?_eq_some_iff, Option.orElse_eq_orElse,
    Option.orElse_eq_or, Option.or_eq_some_iff, find?_mask_eq_some_iff]
  constructor
  · rintro ⟨bits, rfl, ⟨bounded, rfl⟩ | ⟨none, bounded, inverse⟩⟩
    · exact .inl ⟨bounded, rfl⟩
    · have other (number : Nat) (small : number ≤ 32) :
          leadingMask 32 number ≠ bits := by
        intro same
        rw [find?_mask_eq_some_iff.mpr ⟨small, same⟩] at none
        cases none
      have same : bits = ~~~leadingMask 32 length := by
        rw [inverse, BitVec.not_not]
      have positive : length ≠ 0 := by
        rintro rfl
        apply other 32 (Nat.le_refl 32)
        rw [same, leadingMask_self, leadingMask_zero]
        rfl
      have proper : length ≠ 32 := by
        rintro rfl
        apply other 0 (Nat.zero_le 32)
        rw [same, leadingMask_self, leadingMask_zero]
        rfl
      refine .inr ⟨by omega, ?_⟩
      rw [same]
  · rintro (⟨bounded, rfl⟩ | ⟨⟨positive, proper⟩, rfl⟩)
    · exact ⟨_, rfl, .inl ⟨bounded, rfl⟩⟩
    · refine ⟨_, rfl, .inr ⟨?_, by omega, by rw [BitVec.not_not]⟩⟩
      rw [Option.eq_none_iff_forall_ne_some]
      intro number found
      exact leadingMask_ne_not positive proper
        (find?_mask_eq_some_iff.mp found).2

theorem SpellsLength.notMem {width length : Nat} {text : List Char} {c : Char}
    (spells : SpellsLength width text length) (other : c.isDigit = false) :
    c ∉ text := by
  intro member
  rw [spells.digits c member] at other
  cases other

theorem readMask_eq_some_iff {text : List Char} {length : Nat} :
    (readLength? 32 text <|> readDottedMask? text) = some length ↔
      SpellsMask text length := by
  simp only [Option.orElse_eq_orElse, Option.orElse_eq_or,
    Option.or_eq_some_iff, readLength?_eq_some_iff,
    readDottedMask?_eq_some_iff]
  constructor
  · rintro (spelled | ⟨_, ⟨bounded, rfl⟩ | ⟨⟨positive, proper⟩, rfl⟩⟩)
    · exact .length spelled
    · exact .mask bounded
    · exact .inverse positive proper
  · have dotted (bits : BitVec 32) :
        readLength? 32 (Address.writeV4 bits) = none := by
      rw [Option.eq_none_iff_forall_ne_some]
      intro number read
      rw [readLength?_eq_some_iff] at read
      exact read.notMem rfl (Address.dot_mem_writeV4 bits)
    intro spells
    cases spells with
    | length spelled => exact .inl spelled
    | mask bounded => exact .inr ⟨dotted _, .inl ⟨bounded, rfl⟩⟩
    | inverse positive proper =>
        exact .inr ⟨dotted _, .inr ⟨⟨positive, proper⟩, rfl⟩⟩

theorem SpellsMask.slash_notMem {text : List Char} {length : Nat}
    (spells : SpellsMask text length) : '/' ∉ text := by
  cases spells with
  | length spelled => exact spelled.notMem rfl
  | mask _ => exact Address.slash_notMem_writeV4 _
  | inverse _ _ => exact Address.slash_notMem_writeV4 _

/-- The text spells an address and the number of its leading bits that count.
Those of an address on its own are all its bits. -/
inductive SpellsEntry : List Char → Address → Nat → Prop
  | single {text : List Char} {address : Address} :
      address.Spells text → SpellsEntry text address address.version.width
  | block4 {mask : List Char} {length : Nat} (bits : BitVec 32) :
      SpellsMask mask length →
      SpellsEntry (Address.writeV4 bits ++ '/' :: mask) (.v4 bits) length
  | block6 {text mask : List Char} {bits : BitVec 128} {zone : Option String}
      {length : Nat} :
      (Address.v6 bits zone).Spells text → SpellsLength 128 mask length →
      SpellsEntry (text ++ '/' :: mask) (.v6 bits zone) length

theorem ofParts?_eq_some_iff {text mask : List Char} {network : Network} :
    ofParts? text mask = some network ↔
      (∃ bits length, text = Address.writeV4 bits ∧ SpellsMask mask length ∧
        network = around (.v4 bits) length) ∨
      ∃ base length, Address.SpellsZoned text base ∧
        SpellsLength 128 mask length ∧ network = around base length := by
  have first : (do
      let bits ← Address.readV4? text
      let length ← readLength? 32 mask <|> readDottedMask? mask
      return around (.v4 bits) length : Option Network) = some network ↔
        ∃ bits length, text = Address.writeV4 bits ∧ SpellsMask mask length ∧
          network = around (.v4 bits) length := by
    simp only [Option.bind_eq_bind, Option.bind_eq_some_iff,
      Address.readV4?_eq_some_iff, readMask_eq_some_iff, Option.pure_def,
      Option.some.injEq]
    constructor
    · rintro ⟨bits, spelled, length, mask, rfl⟩
      exact ⟨bits, length, spelled, mask, rfl⟩
    · rintro ⟨bits, length, spelled, mask, rfl⟩
      exact ⟨bits, spelled, length, mask, rfl⟩
  have second : (do
      let base ← Address.readZoned? text
      let length ← readLength? 128 mask
      return around base length : Option Network) = some network ↔
        ∃ base length, Address.SpellsZoned text base ∧
          SpellsLength 128 mask length ∧ network = around base length := by
    simp only [Option.bind_eq_bind, Option.bind_eq_some_iff,
      Address.readZoned?_eq_some_iff, readLength?_eq_some_iff,
      Option.pure_def, Option.some.injEq]
    constructor
    · rintro ⟨base, spelled, length, number, rfl⟩
      exact ⟨base, length, spelled, number, rfl⟩
    · rintro ⟨base, length, spelled, number, rfl⟩
      exact ⟨base, spelled, length, number, rfl⟩
  -- A text of one version is none of the other, so the order does not matter.
  have apart (other : Network) : (do
      let bits ← Address.readV4? text
      let length ← readLength? 32 mask <|> readDottedMask? mask
      return around (.v4 bits) length : Option Network) = some other →
        ∀ base, ¬ Address.SpellsZoned text base := by
    intro read base spelled
    simp [Address.readV4?_of_spellsZoned spelled] at read
  rw [ofParts?, ← first, ← second]
  split
  · rename_i other read
    rw [read]
    constructor
    · exact .inl
    · rintro (same | later)
      · exact same
      · obtain ⟨base, _, spelled, _⟩ := second.mp later
        exact (apart other read base spelled).elim
  · rename_i read
    rw [read]
    simp only [reduceCtorEq, false_or]

theorem SpellsEntry.of_slash_notMem {text : List Char} {address : Address}
    {length : Nat} (spells : SpellsEntry text address length)
    (bare : '/' ∉ text) :
    address.Spells text ∧ length = address.version.width := by
  cases spells with
  | single spelled => exact ⟨spelled, rfl⟩
  | block4 => simp at bare
  | block6 => simp at bare

theorem readBlock?_eq_some_iff {text : List Char} {network : Network}
    (slash : '/' ∈ text) :
    readBlock? text = some network ↔
      ∃ address length, SpellsEntry text address length ∧
        network = around address length := by
  rw [readBlock?]
  constructor
  · intro read
    have joined := Text.joinPieces_pieces '/' text
    split at read
    · rename_i shown mask cut
      have member : shown ∈ Text.pieces '/' text := by simp [cut]
      have plain : '/' ∉ shown := Text.notMem_of_mem_pieces member
      rw [cut] at joined
      subst joined
      rcases ofParts?_eq_some_iff.mp read with
        ⟨bits, length, rfl, spelled, rfl⟩ | ⟨base, length, spelled, number, rfl⟩
      · exact ⟨_, _, .block4 bits spelled, rfl⟩
      · cases spelled with
        | plain spelled =>
            exact ⟨_, _, .block6 (.v6 (.plain spelled) plain) number, rfl⟩
        | zoned spelled some single =>
            exact ⟨_, _, .block6 (.v6 (.zoned spelled some single) plain)
              number, rfl⟩
    · cases read
  · rintro ⟨address, length, spells, rfl⟩
    cases spells with
    | single spelled =>
        cases spelled with
        | v4 bits => exact (Address.slash_notMem_writeV4 bits slash).elim
        | v6 _ bare => exact (bare slash).elim
    | block4 bits spelled =>
        rename_i mask
        have cut : Text.pieces '/' (Address.writeV4 bits ++ '/' :: mask) =
            [Address.writeV4 bits, mask] := by
          rw [Text.pieces_append,
            Text.pieces_of_notMem (Address.slash_notMem_writeV4 bits),
            Text.pieces_of_notMem spelled.slash_notMem]
          rfl
        rw [cut]
        exact ofParts?_eq_some_iff.mpr (.inl ⟨bits, _, rfl, spelled, rfl⟩)
    | block6 spelled number =>
        rename_i shown mask bits zone
        cases spelled with
        | v6 zoned plain =>
            have cut : Text.pieces '/' (shown ++ '/' :: mask) =
                [shown, mask] := by
              rw [Text.pieces_append, Text.pieces_of_notMem plain,
                Text.pieces_of_notMem (number.notMem rfl)]
              rfl
            rw [cut]
            exact ofParts?_eq_some_iff.mpr
              (.inr ⟨_, _, zoned, number, rfl⟩)

/-- A text is read as a network exactly if it spells an address and a number of
leading bits. -/
theorem parse_eq_ok_iff {text : List Char} {network : Network} :
    parse text = .ok network ↔
      ∃ address length, SpellsEntry text address length ∧
        network = around address length := by
  rw [parse]
  split
  · rename_i slash
    rw [List.contains_eq_mem, decide_eq_true_eq] at slash
    rw [← readBlock?_eq_some_iff slash]
    cases readBlock? text <;> simp
  · rename_i bare
    rw [List.contains_eq_mem, decide_eq_true_eq] at bare
    constructor
    · intro read
      split at read
      · rename_i address found
        cases read
        exact ⟨address, _, .single (Address.readChars?_eq_some_iff.mp found),
          single_eq_around address⟩
      · cases read
    · rintro ⟨address, length, spells, rfl⟩
      obtain ⟨spelled, rfl⟩ := spells.of_slash_notMem bare
      rw [Address.readChars?_eq_some_iff.mpr spelled]
      exact congrArg Except.ok (single_eq_around address)

end Network

end ServerConfig.Net
