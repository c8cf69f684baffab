import Mathlib.Data.List.Forall2
import ServerConfig.Net.Address
import ServerConfig.Proofs.DecimalText
import ServerConfig.Proofs.Text.Split

/-!
# The texts of addresses

`Spells` is the grammar of addresses as a relation between texts and addresses.
A version 4 address has one text only.  One of version 6 has many: groups have
leading zeros or not, letters are of either case, a run of zero groups may be
left out, and the last two groups may be written as a version 4 address.  Main
statement: reading accepts exactly the texts of the grammar, each for the
address that it spells.
-/

namespace ServerConfig.Net.Address

/-! ## Version 4 -/

theorem readOctet?_eq_some_iff {piece : List Char} {value : Nat} :
    readOctet? piece = some value ↔
      value < 256 ∧ piece = Numeral.ofNat value := by
  constructor
  · intro read
    rw [readOctet?] at read
    split at read
    · cases read
    rename_i shape
    split at read
    · cases read
    rename_i plain
    simp only [Bool.or_eq_true, List.isEmpty_iff, decide_eq_true_eq,
      Bool.not_eq_true', not_or, Nat.not_lt, Bool.not_eq_false,
      List.all_eq_true] at shape
    simp only [Bool.and_eq_true, decide_eq_true_eq, not_and, Nat.not_lt]
      at plain
    have same : Numeral.ofNat (Numeral.ofAscii piece) = piece := by
      apply Numeral.ofNat_ofAscii shape.1.1 shape.2
      intro zero
      have short := plain zero
      have long := List.length_pos_iff.mpr shape.1.1
      omega
    dsimp only at read
    split at read
    · rename_i bounded
      cases read
      exact ⟨by omega, same.symm⟩
    · cases read
  · rintro ⟨small, rfl⟩
    have short : (Numeral.ofNat value).length ≤ 3 :=
      (Nat.length_toDigits_le_iff (by decide) (by decide)).mpr (by omega)
    have ascii : (Numeral.ofNat value).all Char.isDigit = true :=
      List.all_eq_true.mpr fun _ => Numeral.isDigit_of_mem_ofNat
    have plain := Numeral.ofNat_plain value
    have shape : ((Numeral.ofNat value).isEmpty ||
        decide (3 < (Numeral.ofNat value).length) ||
        !(Numeral.ofNat value).all Char.isDigit) = false := by
      rw [ascii, List.isEmpty_eq_false_iff.mpr Numeral.ofNat_ne_nil,
        decide_eq_false (by omega)]
      rfl
    rw [readOctet?, shape, if_neg (by decide), if_neg (by simpa using plain),
      Numeral.ofAscii_ofNat]
    exact if_pos (by omega)

/-- A version 4 address is read from its text and from no other. -/
theorem readV4?_eq_some_iff {text : List Char} {bits : BitVec 32} :
    readV4? text = some bits ↔ text = writeV4 bits := by
  constructor
  · intro read
    unfold readV4? at read
    split at read
    · rename_i a b c d cut
      simp only [Option.bind_eq_bind, Option.bind_eq_some_iff,
        readOctet?_eq_some_iff] at read
      obtain ⟨first, ⟨firstSmall, rfl⟩, second, ⟨secondSmall, rfl⟩,
        third, ⟨thirdSmall, rfl⟩, fourth, ⟨fourthSmall, rfl⟩, same⟩ := read
      have value : bits.toNat =
          ((first * 256 + second) * 256 + third) * 256 + fourth := by
        cases same
        rw [BitVec.toNat_ofNat, Nat.mod_eq_of_lt]
        omega
      have high : bits.toNat / 16777216 = first := by omega
      have upper : bits.toNat / 65536 % 256 = second := by omega
      have lower : bits.toNat / 256 % 256 = third := by omega
      have low : bits.toNat % 256 = fourth := by omega
      rw [← Text.joinPieces_pieces '.' text, cut]
      simp only [writeV4, high, upper, lower, low]
    · cases read
  · rintro rfl
    have small := bits.isLt
    have octet (value : Nat) (bound : value < 256) :
        readOctet? (Numeral.ofNat value) = some value :=
      readOctet?_eq_some_iff.mpr ⟨bound, rfl⟩
    have plain (value : Nat) : '.' ∉ Numeral.ofNat value := fun member =>
      absurd (Numeral.isDigit_of_mem_ofNat member) (by decide)
    have cut : Text.pieces '.' (writeV4 bits) =
        [Numeral.ofNat (bits.toNat / 16777216),
          Numeral.ofNat (bits.toNat / 65536 % 256),
          Numeral.ofNat (bits.toNat / 256 % 256),
          Numeral.ofNat (bits.toNat % 256)] := by
      apply Text.pieces_joinPieces (List.cons_ne_nil _ _)
      intro piece member
      simp only [List.mem_cons, List.not_mem_nil, or_false] at member
      rcases member with rfl | rfl | rfl | rfl <;> exact plain _
    unfold readV4?
    simp only [cut, octet _ (show bits.toNat / 16777216 < 256 by omega),
      octet _ (show bits.toNat / 65536 % 256 < 256 by omega),
      octet _ (show bits.toNat / 256 % 256 < 256 by omega),
      octet _ (show bits.toNat % 256 < 256 by omega), Option.bind_eq_bind,
      Option.bind_some, Option.pure_def, Option.some.injEq]
    apply BitVec.eq_of_toNat_eq
    rw [BitVec.toNat_ofNat, Nat.mod_eq_of_lt] <;> omega

theorem dot_mem_writeV4 (bits : BitVec 32) : '.' ∈ writeV4 bits := by
  simp [writeV4, Text.joinPieces]

theorem char_of_mem_writeV4 {bits : BitVec 32} {c : Char}
    (member : c ∈ writeV4 bits) : c = '.' ∨ c.isDigit = true := by
  rcases Text.mem_joinPieces member with same | ⟨piece, found, inside⟩
  · exact .inl same
  · simp only [List.mem_cons, List.not_mem_nil, or_false] at found
    rcases found with rfl | rfl | rfl | rfl <;>
      exact .inr (Numeral.isDigit_of_mem_ofNat inside)

/-! ## Groups -/

/-- One to four hexadecimal digits of either case. -/
structure SpellsGroup (text : List Char) (group : Nat) : Prop where
  nonempty : text ≠ []
  short : text.length ≤ 4
  digits : ∃ values, group = Text.ofHex values ∧
    List.Forall₂ (fun c value => Text.hexValue? c = some value) text values

/-- Groups, the last two of which may be spelled like a version 4 address. -/
inductive SpellsGroups : List (List Char) → List Nat → Prop
  | nil : SpellsGroups [] []
  | dotted (bits : BitVec 32) :
      SpellsGroups [writeV4 bits] [bits.toNat / 65536, bits.toNat % 65536]
  | cons {text : List Char} {group : Nat} {rest : List (List Char)}
      {groups : List Nat} :
      SpellsGroup text group → SpellsGroups rest groups →
      SpellsGroups (text :: rest) (group :: groups)

theorem mapM_eq_some_iff {α β : Type} {read : α → Option β} {items : List α}
    {values : List β} :
    items.mapM read = some values ↔
      List.Forall₂ (fun item value => read item = some value) items values := by
  induction items generalizing values with
  | nil => simp [eq_comm]
  | cons item rest ih =>
      rw [List.mapM_cons, List.forall₂_cons_left_iff]
      simp only [Option.bind_eq_bind, Option.bind_eq_some_iff, ih,
        Option.pure_def, Option.some.injEq]
      constructor
      · rintro ⟨value, read, others, later, rfl⟩
        exact ⟨value, others, read, later, rfl⟩
      · rintro ⟨value, others, read, later, rfl⟩
        exact ⟨value, read, others, later, rfl⟩

theorem readGroup?_eq_some_iff {text : List Char} {group : Nat} :
    readGroup? text = some group ↔ SpellsGroup text group := by
  rw [readGroup?]
  split
  · rename_i shape
    simp only [Bool.or_eq_true, List.isEmpty_iff, decide_eq_true_eq] at shape
    simp only [reduceCtorEq, false_iff]
    intro spells
    rcases shape with empty | long
    · exact spells.nonempty empty
    · exact absurd spells.short (by omega)
  · rename_i shape
    simp only [Bool.or_eq_true, List.isEmpty_iff, decide_eq_true_eq, not_or,
      Nat.not_lt] at shape
    rw [Option.map_eq_some_iff]
    constructor
    · rintro ⟨values, read, rfl⟩
      exact ⟨shape.1, shape.2, values, rfl, mapM_eq_some_iff.mp read⟩
    · rintro ⟨_, _, values, rfl, digits⟩
      exact ⟨values, mapM_eq_some_iff.mpr digits, rfl⟩

theorem SpellsGroup.hex {text : List Char} {group : Nat} {c : Char}
    (spells : SpellsGroup text group) (member : c ∈ text) :
    (Text.hexValue? c).isSome = true := by
  obtain ⟨values, -, digits⟩ := spells.digits
  clear spells
  induction digits with
  | nil => cases member
  | cons read _ ih =>
      rcases List.mem_cons.mp member with rfl | later
      · rw [read]
        rfl
      · exact ih later

theorem SpellsGroup.notMem {text : List Char} {group : Nat} {c : Char}
    (spells : SpellsGroup text group) (other : Text.hexValue? c = none) :
    c ∉ text := by
  intro member
  have hex := spells.hex member
  rw [other] at hex
  cases hex

theorem readGroups?_eq_some_iff {cut : List (List Char)}
    {groups : List Nat} :
    readGroups? cut = some groups ↔ SpellsGroups cut groups := by
  induction cut generalizing groups with
  | nil =>
      simp only [readGroups?, Option.some.injEq]
      constructor
      · rintro rfl
        exact .nil
      · intro spells
        cases spells
        rfl
  | cons text rest ih =>
      cases rest with
      | nil =>
          rw [readGroups?]
          split
          · rename_i dotted
            rw [List.contains_eq_mem, decide_eq_true_eq] at dotted
            simp only [Option.map_eq_some_iff, readV4?_eq_some_iff]
            constructor
            · rintro ⟨bits, rfl, rfl⟩
              exact .dotted bits
            · intro spells
              cases spells with
              | dotted bits => exact ⟨bits, rfl, rfl⟩
              | cons spelled _ => exact (spelled.notMem rfl dotted).elim
          · rename_i plain
            rw [List.contains_eq_mem, decide_eq_true_eq] at plain
            simp only [Option.map_eq_some_iff, readGroup?_eq_some_iff]
            constructor
            · rintro ⟨group, spelled, rfl⟩
              exact .cons spelled .nil
            · intro spells
              cases spells with
              | dotted bits => exact (plain (dot_mem_writeV4 bits)).elim
              | cons spelled later =>
                  cases later
                  exact ⟨_, spelled, rfl⟩
      | cons next rest =>
          simp only [readGroups?, Option.bind_eq_bind,
            Option.bind_eq_some_iff, Option.pure_def, Option.some.injEq,
            readGroup?_eq_some_iff, ih]
          constructor
          · rintro ⟨group, spelled, others, later, rfl⟩
            exact .cons spelled later
          · intro spells
            cases spells with
            | cons spelled later => exact ⟨_, spelled, _, later, rfl⟩

theorem SpellsGroups.of_forall {cut : List (List Char)} {groups : List Nat}
    (spelled : List.Forall₂ SpellsGroup cut groups) :
    SpellsGroups cut groups := by
  induction spelled with
  | nil => exact .nil
  | cons first _ ih => exact .cons first ih

/-- The pieces of groups are not empty and consist of hexadecimal digits and
dots. -/
theorem SpellsGroups.piece {cut : List (List Char)} {groups : List Nat}
    {text : List Char} (spells : SpellsGroups cut groups)
    (member : text ∈ cut) :
    text ≠ [] ∧ ∀ c ∈ text, c = '.' ∨ (Text.hexValue? c).isSome = true := by
  induction spells with
  | nil => cases member
  | dotted bits =>
      rw [List.mem_singleton] at member
      subst member
      refine ⟨List.ne_nil_of_mem (dot_mem_writeV4 bits), ?_⟩
      intro c inside
      rcases char_of_mem_writeV4 inside with dot | digit
      · exact .inl dot
      · right
        rw [Text.hexValue?, if_pos digit]
        rfl
  | cons spelled _ ih =>
      rcases List.mem_cons.mp member with rfl | later
      · exact ⟨spelled.nonempty, fun _ inside => .inr (spelled.hex inside)⟩
      · exact ih later

theorem SpellsGroups.notMem {cut : List (List Char)} {groups : List Nat}
    {text : List Char} {c : Char} (spells : SpellsGroups cut groups)
    (member : text ∈ cut) (sign : c ≠ '.')
    (other : Text.hexValue? c = none) : c ∉ text := by
  intro inside
  rcases (spells.piece member).2 c inside with same | hex
  · exact sign same
  · rw [other] at hex
    cases hex

theorem SpellsGroups.length_le {cut : List (List Char)} {groups : List Nat}
    (spells : SpellsGroups cut groups) : groups.length ≤ cut.length + 1 := by
  induction spells with
  | nil => exact Nat.zero_le _
  | dotted bits => exact Nat.le_refl _
  | cons _ _ ih => exact Nat.succ_le_succ ih

/-! ## Version 6 -/

/-- Eight groups, or fewer of them around a gap that stands for zeros. -/
inductive SpellsV6 : List Char → BitVec 128 → Prop
  | full {cut : List (List Char)} {groups : List Nat} :
      SpellsGroups cut groups → groups.length = 8 →
      SpellsV6 (Text.joinPieces ':' cut) (ofGroups groups)
  | gap {before after : List (List Char)} {high low : List Nat} :
      List.Forall₂ SpellsGroup before high → SpellsGroups after low →
      high.length + low.length < 8 →
      SpellsV6
        (Text.joinPieces ':' before ++ ':' :: ':' :: Text.joinPieces ':' after)
        (ofGroups
          (high ++ List.replicate (8 - (high.length + low.length)) 0 ++ low))

theorem cutGap?_append {first : List Char} {others : List (List Char)}
    (nonempty : ∀ text ∈ others, text ≠ []) (next : List Char)
    (rest : List (List Char)) :
    cutGap? (first :: others ++ [] :: next :: rest) =
      some (first :: others, next :: rest) := by
  induction others generalizing first with
  | nil => rfl
  | cons text others ih =>
      have later := @ih text fun piece member =>
        nonempty piece (List.mem_cons_of_mem _ member)
      cases text with
      | nil => exact (nonempty [] List.mem_cons_self rfl).elim
      | cons c text =>
          rw [List.cons_append] at later
          simp only [List.cons_append, cutGap?, later, Option.map_some]

theorem cutGap?_eq_none {first : List Char} {others : List (List Char)}
    (nonempty : ∀ text ∈ others, text ≠ []) :
    cutGap? (first :: others) = none := by
  induction others generalizing first with
  | nil => rfl
  | cons text others ih =>
      have later := @ih text fun piece member =>
        nonempty piece (List.mem_cons_of_mem _ member)
      cases text with
      | nil => exact (nonempty [] List.mem_cons_self rfl).elim
      | cons c text => simp only [cutGap?, later, Option.map_none]

theorem cutGap?_eq_some {cut before after : List (List Char)}
    (found : cutGap? cut = some (before, after)) :
    cut = before ++ [] :: after ∧ before ≠ [] ∧ after ≠ [] := by
  fun_induction cutGap? cut generalizing before with
  | case1 first next rest =>
      cases found
      exact ⟨rfl, List.cons_ne_nil _ _, List.cons_ne_nil _ _⟩
  | case2 first text rest _ ih =>
      obtain ⟨⟨earlier, later⟩, found, same⟩ :=
        Option.map_eq_some_iff.mp found
      cases same
      obtain ⟨split, _, some⟩ := ih found
      exact ⟨by rw [split, List.cons_append], List.cons_ne_nil _ _, some⟩
  | case3 => cases found

theorem joinPieces_besideGap (side : List (List Char)) :
    Text.joinPieces ':' (besideGap side) = Text.joinPieces ':' side := by
  rw [besideGap]
  split
  · rename_i empty
    rw [empty]
    rfl
  · rfl

/-- The pieces of what stands on one side of a gap. -/
theorem pieces_side {side : List (List Char)}
    (nonempty : ∀ text ∈ side, text ≠ [])
    (plain : ∀ text ∈ side, ':' ∉ text) :
    ∃ first others,
      Text.pieces ':' (Text.joinPieces ':' side) = first :: others ∧
        (∀ text ∈ others, text ≠ []) ∧ besideGap (first :: others) = side := by
  cases side with
  | nil => exact ⟨[], [], rfl, by simp, rfl⟩
  | cons text rest =>
      refine ⟨text, rest,
        Text.pieces_joinPieces (List.cons_ne_nil _ _) plain, ?_, ?_⟩
      · intro piece member
        exact nonempty piece (List.mem_cons_of_mem _ member)
      · rw [besideGap, if_neg]
        intro same
        cases same
        exact nonempty [] List.mem_cons_self rfl

theorem joinPieces_append {separator : Char} {before after : List (List Char)}
    (some : before ≠ []) (others : after ≠ []) :
    Text.joinPieces separator (before ++ after) =
      Text.joinPieces separator before ++
        separator :: Text.joinPieces separator after := by
  induction before with
  | nil => exact (some rfl).elim
  | cons text rest ih =>
      by_cases last : rest = []
      · subst last
        exact Text.joinPieces_cons text others
      · rw [List.cons_append, Text.joinPieces_cons text last,
          Text.joinPieces_cons text (by simp [last]), ih last]
        simp

theorem readV6?_eq_some_iff {text : List Char} {bits : BitVec 128} :
    readV6? text = some bits ↔ SpellsV6 text bits := by
  constructor
  · intro read
    rw [readV6?] at read
    have joined := Text.joinPieces_pieces ':' text
    dsimp only at read
    split at read
    · rename_i before after cut
      obtain ⟨split, first, last⟩ := cutGap?_eq_some cut
      simp only [Option.bind_eq_bind, Option.bind_eq_some_iff,
        mapM_eq_some_iff, readGroups?_eq_some_iff] at read
      obtain ⟨high, before', low, after', bounded⟩ := read
      split at bounded
      · cases bounded
      · rename_i few
        cases bounded
        have shape : text = Text.joinPieces ':' (besideGap before) ++
            ':' :: ':' :: Text.joinPieces ':' (besideGap after) := by
          rw [joinPieces_besideGap, joinPieces_besideGap, ← joined, split,
            joinPieces_append first (List.cons_ne_nil _ _),
            Text.joinPieces_cons [] last]
          rfl
        rw [shape]
        refine .gap (before'.imp fun _ _ => readGroup?_eq_some_iff.mp) after' ?_
        omega
    · simp only [Option.bind_eq_bind, Option.bind_eq_some_iff,
        readGroups?_eq_some_iff] at read
      obtain ⟨groups, spelled, eight⟩ := read
      split at eight
      · cases eight
      · rename_i count
        cases eight
        rw [← joined]
        exact .full spelled (by omega)
  · intro spells
    rw [readV6?]
    cases spells with
    | full spelled eight =>
        rename_i cut groups
        have nonempty : cut ≠ [] := by
          rintro rfl
          cases spelled
          cases eight
        have parts : Text.pieces ':' (Text.joinPieces ':' cut) = cut :=
          Text.pieces_joinPieces nonempty fun _ member =>
            spelled.notMem member (by decide) rfl
        have noGap : cutGap? cut = none := by
          cases cut with
          | nil => exact (nonempty rfl).elim
          | cons first others =>
              apply cutGap?_eq_none
              intro piece member
              exact (spelled.piece (List.mem_cons_of_mem _ member)).1
        simp only [parts, noGap, readGroups?_eq_some_iff.mpr spelled,
          Option.bind_eq_bind, Option.bind_some]
        rw [if_neg (not_not.mpr eight)]
        rfl
    | gap spelledBefore spelledAfter few =>
        rename_i before after high low
        have groupsBefore := SpellsGroups.of_forall spelledBefore
        obtain ⟨first, others, piecesBefore, later, sideBefore⟩ :=
          pieces_side (fun _ member => (groupsBefore.piece member).1)
            fun _ member => groupsBefore.notMem member (by decide) rfl
        obtain ⟨next, rest, piecesAfter, _, sideAfter⟩ :=
          pieces_side (fun _ member => (spelledAfter.piece member).1)
            fun _ member => spelledAfter.notMem member (by decide) rfl
        have parts : Text.pieces ':' (Text.joinPieces ':' before ++
            ':' :: ':' :: Text.joinPieces ':' after) =
              first :: others ++ [] :: next :: rest := by
          rw [Text.pieces_append, piecesBefore]
          simp [Text.pieces, piecesAfter]
        have highRead : before.mapM readGroup? = some high :=
          mapM_eq_some_iff.mpr
            (spelledBefore.imp fun _ _ => readGroup?_eq_some_iff.mpr)
        simp only [parts, cutGap?_append later, sideBefore, sideAfter,
          highRead, readGroups?_eq_some_iff.mpr spelledAfter,
          Option.bind_eq_bind, Option.bind_some]
        rw [if_neg (by omega)]
        rfl

theorem SpellsV6.char {text : List Char} {bits : BitVec 128} {c : Char}
    (spells : SpellsV6 text bits) (member : c ∈ text) :
    c = ':' ∨ c = '.' ∨ (Text.hexValue? c).isSome = true := by
  have inside {cut : List (List Char)} {groups : List Nat}
      (spelled : SpellsGroups cut groups)
      (member : c ∈ Text.joinPieces ':' cut) :
      c = ':' ∨ c = '.' ∨ (Text.hexValue? c).isSome = true := by
    rcases Text.mem_joinPieces member with same | ⟨piece, found, inside⟩
    · exact .inl same
    · exact .inr ((spelled.piece found).2 c inside)
  cases spells with
  | full spelled _ => exact inside spelled member
  | gap spelledBefore spelledAfter _ =>
      simp only [List.mem_append, List.mem_cons] at member
      rcases member with before | colon | colon | after
      · exact inside (.of_forall spelledBefore) before
      · exact .inl colon
      · exact .inl colon
      · exact inside spelledAfter after

theorem SpellsV6.notMem {text : List Char} {bits : BitVec 128} {c : Char}
    (spells : SpellsV6 text bits) (colon : c ≠ ':') (sign : c ≠ '.')
    (other : Text.hexValue? c = none) : c ∉ text := by
  intro member
  rcases spells.char member with same | same | hex
  · exact colon same
  · exact sign same
  · rw [other] at hex
    cases hex

theorem SpellsV6.colon_mem {text : List Char} {bits : BitVec 128}
    (spells : SpellsV6 text bits) : ':' ∈ text := by
  cases spells with
  | gap => simp
  | full spelled eight =>
      rename_i cut groups
      have enough := spelled.length_le
      match cut with
      | [] | [_] => simp at enough; omega
      | first :: second :: rest => simp [Text.joinPieces]

/-- A version 6 address with or without a zone. -/
inductive SpellsZoned : List Char → Address → Prop
  | plain {text : List Char} {bits : BitVec 128} :
      SpellsV6 text bits → SpellsZoned text (.v6 bits none)
  | zoned {text zone : List Char} {bits : BitVec 128} :
      SpellsV6 text bits → zone ≠ [] → '%' ∉ zone →
      SpellsZoned (text ++ '%' :: zone) (.v6 bits (some (String.ofList zone)))

theorem readZoned?_eq_some_iff {text : List Char} {address : Address} :
    readZoned? text = some address ↔ SpellsZoned text address := by
  rw [readZoned?]
  constructor
  · intro read
    rcases Text.cutFirst_cases '%' text with
      ⟨_, cut⟩ | ⟨before, zone, _, rfl, cut⟩
    · rw [cut] at read
      obtain ⟨bits, found, rfl⟩ := Option.map_eq_some_iff.mp read
      exact .plain (readV6?_eq_some_iff.mp found)
    · rw [cut] at read
      dsimp only at read
      split at read
      · cases read
      · rename_i shape
        simp only [Bool.or_eq_true, List.isEmpty_iff, List.contains_eq_mem,
          decide_eq_true_eq, not_or] at shape
        obtain ⟨bits, found, rfl⟩ := Option.map_eq_some_iff.mp read
        exact .zoned (readV6?_eq_some_iff.mp found) shape.1 shape.2
  · intro spells
    cases spells with
    | plain spelled =>
        have plain : '%' ∉ text :=
          spelled.notMem (by decide) (by decide) rfl
        rw [Text.cutFirst_of_notMem plain]
        dsimp only
        rw [readV6?_eq_some_iff.mpr spelled]
        rfl
    | zoned spelled some single =>
        rename_i bare zone bits
        have plain : '%' ∉ bare :=
          spelled.notMem (by decide) (by decide) rfl
        rw [Text.cutFirst_append plain]
        dsimp only
        rw [if_neg (by simp [some, single]), readV6?_eq_some_iff.mpr spelled]
        rfl

theorem SpellsZoned.colon_mem {text : List Char} {address : Address}
    (spells : SpellsZoned text address) : ':' ∈ text := by
  cases spells with
  | plain spelled => exact spelled.colon_mem
  | zoned spelled _ _ => exact List.mem_append_left _ spelled.colon_mem

/-! ## Both versions -/

/-- The text spells the address. -/
inductive Spells : List Char → Address → Prop
  | v4 (bits : BitVec 32) : Spells (writeV4 bits) (.v4 bits)
  | v6 {text : List Char} {address : Address} :
      SpellsZoned text address → '/' ∉ text → Spells text address

theorem readV4?_of_spellsZoned {text : List Char} {address : Address}
    (spells : SpellsZoned text address) : readV4? text = none := by
  rw [Option.eq_none_iff_forall_ne_some]
  intro bits read
  rw [readV4?_eq_some_iff] at read
  have colon := spells.colon_mem
  rw [read] at colon
  rcases char_of_mem_writeV4 colon with dot | digit
  · cases dot
  · cases digit

theorem slash_notMem_writeV4 (bits : BitVec 32) : '/' ∉ writeV4 bits := by
  intro member
  rcases char_of_mem_writeV4 member with dot | digit
  · cases dot
  · cases digit

/-- An address is read from exactly the texts that spell it. -/
theorem readChars?_eq_some_iff {text : List Char} {address : Address} :
    readChars? text = some address ↔ Spells text address := by
  rw [readChars?]
  split
  · rename_i slash
    rw [List.contains_eq_mem, decide_eq_true_eq] at slash
    simp only [reduceCtorEq, false_iff]
    intro spells
    cases spells with
    | v4 bits => exact slash_notMem_writeV4 bits slash
    | v6 _ plain => exact plain slash
  · rename_i plain
    rw [List.contains_eq_mem, decide_eq_true_eq] at plain
    cases dotted : readV4? text with
    | some bits =>
        have same := readV4?_eq_some_iff.mp dotted
        simp only [Option.some.injEq]
        constructor
        · rintro rfl
          rw [same]
          exact .v4 bits
        · intro spells
          cases spells with
          | v4 other =>
              rw [readV4?_eq_some_iff.mpr rfl, Option.some.injEq] at dotted
              rw [dotted]
          | v6 spelled _ =>
              rw [readV4?_of_spellsZoned spelled] at dotted
              cases dotted
    | none =>
        dsimp only
        rw [readZoned?_eq_some_iff]
        constructor
        · intro spelled
          exact .v6 spelled plain
        · intro spells
          cases spells with
          | v4 bits =>
              rw [readV4?_eq_some_iff.mpr rfl] at dotted
              cases dotted
          | v6 spelled _ => exact spelled

theorem Spells.unique {text : List Char} {address other : Address}
    (spells : Spells text address) (again : Spells text other) :
    address = other := by
  rw [← readChars?_eq_some_iff] at spells again
  exact Option.some.inj (spells.symm.trans again)

theorem not_spells_nil {address : Address} : ¬ Spells [] address := by
  intro spells
  rw [← readChars?_eq_some_iff] at spells
  cases spells

end ServerConfig.Net.Address
