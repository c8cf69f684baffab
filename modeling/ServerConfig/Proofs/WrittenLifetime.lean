import Mathlib.Algebra.Group.Int.Defs
import ServerConfig.Proofs.LifetimeText

/-!
# Writing lifetimes

A lifetime with an end is written as amounts with units, the longest unit
first, where amounts of nothing are left out.  Each amount but that of days
stays below the next longer unit, so the amounts add up to the lifetime.  Main
statement: the text of a lifetime is read as that lifetime.
-/

namespace ServerConfig.Lifetime

/-- Amounts in the order of their units, with every unit at most once and with
no amount that is zero or makes up a longer unit. -/
structure Reduced (amounts : List (Nat × TimeUnit)) : Prop where
  order : (amounts.map Prod.snd).Sublist TimeUnit.all
  positive : ∀ entry ∈ amounts, 0 < entry.1
  hours : ∀ amount, (amount, .hour) ∈ amounts → amount < 24
  minutes : ∀ amount, (amount, .minute) ∈ amounts → amount < 60
  seconds : ∀ amount, (amount, .second) ∈ amounts → amount < 60

variable {units : List TimeUnit} {entries : List (Nat × TimeUnit)}
  {first unit : TimeUnit} {seconds amount : Nat}

theorem seconds_pos (unit : TimeUnit) : 0 < unit.seconds := by
  cases unit <;> decide

/-! ## Amounts of a number of seconds -/

/-- Nothing is lost if the last unit is the second. -/
theorem total_amounts (last : units.getLast? = some .second)
    (seconds : Nat) : total (amounts units seconds) = seconds := by
  induction units generalizing seconds with
  | nil => cases last
  | cons unit units ih =>
      have tail : total (amounts units (seconds % unit.seconds)) =
          seconds % unit.seconds := by
        cases units with
        | nil =>
            have same : unit = .second := Option.some.inj last
            subst same
            rw [TimeUnit.seconds, Nat.mod_one]
            rfl
        | cons next later =>
            rw [List.getLast?_cons_cons] at last
            exact ih last _
      have split := Nat.div_add_mod' seconds unit.seconds
      rw [amounts]
      by_cases none : seconds / unit.seconds = 0
      · rw [if_pos none, tail]
        rw [none, Nat.zero_mul, Nat.zero_add] at split
        exact split
      · rw [if_neg none, total, tail]
        exact split

theorem amounts_order (units : List TimeUnit) (seconds : Nat) :
    ((amounts units seconds).map Prod.snd).Sublist units := by
  induction units generalizing seconds with
  | nil => exact List.Sublist.refl []
  | cons unit units ih =>
      rw [amounts]
      split
      · exact (ih _).cons unit
      · rw [List.map_cons]
        exact (ih _).cons_cons unit

theorem mem_amounts_cons
    (member : (amount, unit) ∈ amounts (first :: units) seconds) :
    (unit = first ∧ amount = seconds / first.seconds ∧ 0 < amount) ∨
      (amount, unit) ∈ amounts units (seconds % first.seconds) := by
  rw [amounts] at member
  split at member
  · exact .inr member
  · rename_i some
    rcases List.mem_cons.mp member with same | later
    · cases same
      exact .inl ⟨rfl, rfl, Nat.pos_of_ne_zero some⟩
    · exact .inr later

theorem amount_pos (member : (amount, unit) ∈ amounts units seconds) :
    0 < amount := by
  induction units generalizing seconds with
  | nil => cases member
  | cons first units ih =>
      rcases mem_amounts_cons member with ⟨_, _, positive⟩ | later
      · exact positive
      · exact ih later

theorem amount_le (member : (amount, unit) ∈ amounts units seconds) :
    amount * unit.seconds ≤ seconds := by
  induction units generalizing seconds with
  | nil => cases member
  | cons first units ih =>
      rcases mem_amounts_cons member with ⟨rfl, rfl, _⟩ | later
      · exact Nat.div_mul_le_self seconds unit.seconds
      · exact (ih later).trans (Nat.mod_le seconds first.seconds)

/-- An amount of a shorter unit does not make up the longer one. -/
theorem amount_lt (member : (amount, unit) ∈ amounts (first :: units) seconds)
    (shorter : unit ≠ first) :
    (amount, unit) ∈ amounts units (seconds % first.seconds) ∧
      amount * unit.seconds < first.seconds := by
  rcases mem_amounts_cons member with ⟨same, _⟩ | later
  · exact (shorter same).elim
  · have below := Nat.mod_lt seconds (seconds_pos first)
    exact ⟨later, (amount_le later).trans_lt below⟩

theorem reduced_amounts (seconds : Nat) :
    Reduced (amounts TimeUnit.all seconds) := by
  constructor
  case order => exact amounts_order TimeUnit.all seconds
  case positive =>
    intro entry member
    exact amount_pos member
  case hours =>
    intro amount member
    obtain ⟨_, below⟩ := amount_lt member (by decide)
    simp only [TimeUnit.seconds] at below
    omega
  case minutes =>
    intro amount member
    obtain ⟨member, _⟩ := amount_lt member (by decide)
    obtain ⟨_, below⟩ := amount_lt member (by decide)
    simp only [TimeUnit.seconds] at below
    omega
  case seconds =>
    intro amount member
    obtain ⟨member, _⟩ := amount_lt member (by decide)
    obtain ⟨member, _⟩ := amount_lt member (by decide)
    obtain ⟨_, below⟩ := amount_lt member (by decide)
    simp only [TimeUnit.seconds] at below
    omega

/-! ## Texts -/

theorem spellsAmounts_amountsText
    (short : ∀ entry ∈ entries,
      (Numeral.ofNat entry.1).length ≤ Numeral.digitLimit) :
    SpellsAmounts (amountsText entries) entries := by
  induction entries with
  | nil => exact .nil
  | cons entry entries ih =>
      rw [List.forall_mem_cons] at short
      have spelled := Numeral.spellsNat_of_ascii Numeral.ofNat_ne_nil
        (fun c member => Numeral.isDigit_of_mem_ofNat member) short.1
      rw [Numeral.ofAscii_ofNat] at spelled
      exact .cons spelled (ih short.2)

theorem isWritable_iff :
    isWritable (seconds : Int) = true ↔
      ∀ entry ∈ amounts TimeUnit.all seconds,
        (Numeral.ofNat entry.1).length ≤ Numeral.digitLimit := by
  rw [isWritable, List.all_eq_true, Int.toNat_natCast]
  simp only [decide_eq_true_eq]

theorem isWritable_of_lt (small : seconds < 10 ^ Numeral.digitLimit) :
    isWritable (seconds : Int) = true := by
  rw [isWritable_iff]
  intro entry member
  have bounded : entry.1 ≤ seconds :=
    calc
      entry.1 ≤ entry.1 * entry.2.seconds :=
        Nat.le_mul_of_pos_right _ (seconds_pos entry.2)
      _ ≤ seconds := amount_le member
  apply (Nat.length_toDigits_le_iff (by decide) (by decide)).mpr
  exact bounded.trans_lt small

theorem formatChars_of_pos (positive : 0 < seconds) :
    formatChars (seconds : Int) = amountsText (amounts TimeUnit.all seconds) := by
  rw [formatChars, if_neg (by omega), if_neg (by omega), Int.toNat_natCast]

/-- The text of a lifetime belongs to the grammar. -/
theorem spells_formatChars (writable : isWritable (seconds : Int) = true) :
    Spells (formatChars (seconds : Int)) seconds := by
  by_cases nothing : seconds = 0
  · subst nothing
    have zero : Numeral.SpellsNat ['0'] 0 :=
      ⟨List.cons_ne_nil _ _, by decide, [0], .cons (by decide) .nil, rfl⟩
    exact .amounts (List.cons_ne_nil (0, .second) []) (.cons zero .nil)
  · have positive := Nat.pos_of_ne_zero nothing
    have spelled := spellsAmounts_amountsText (isWritable_iff.mp writable)
    have whole : total (amounts TimeUnit.all seconds) = seconds :=
      total_amounts rfl seconds
    have nonempty : amounts TimeUnit.all seconds ≠ [] := by
      intro empty
      rw [empty] at whole
      exact nothing whole.symm
    have spells := Spells.amounts nonempty spelled
    rwa [whole, ← formatChars_of_pos positive] at spells

/-- A text of a lifetime with an end is read as that lifetime. -/
theorem parse_of_format {lifetime : Int} {text : String}
    (bounded : 0 ≤ lifetime) (written : format lifetime = .ok text) :
    parse text = .ok lifetime := by
  obtain ⟨seconds, rfl⟩ := Int.eq_ofNat_of_zero_le bounded
  rw [format] at written
  split at written
  · rename_i writable
    cases written
    exact (spells_formatChars writable).parse
  · cases written

/-- A lifetime within the limit of digits has a text that is read as that
lifetime, and that lists reduced amounts unless the lifetime is zero.  No two
lifetimes with an end have the same text. -/
theorem format_read_back :
    (∀ lifetime : Int, 0 ≤ lifetime → lifetime < 10 ^ Numeral.digitLimit →
        ∃ text, format lifetime = .ok text ∧ parse text = .ok lifetime ∧
          (0 < lifetime → ∃ amounts, text.toList = amountsText amounts ∧
            Reduced amounts ∧ (total amounts : Int) = lifetime)) ∧
      ∀ lifetime other text, 0 ≤ lifetime → 0 ≤ other →
        format lifetime = .ok text → format other = .ok text →
          lifetime = other := by
  constructor
  · intro lifetime bounded small
    obtain ⟨seconds, rfl⟩ := Int.eq_ofNat_of_zero_le bounded
    have writable : isWritable (seconds : Int) = true := by
      apply isWritable_of_lt
      -- The power of the limit is not to be computed.
      generalize Numeral.digitLimit = limit at small ⊢
      exact_mod_cast small
    have written : format (seconds : Int) =
        .ok (String.ofList (formatChars (seconds : Int))) := by
      rw [format, if_pos writable]
    refine ⟨_, written, parse_of_format bounded written, ?_⟩
    intro positive
    refine ⟨amounts TimeUnit.all seconds, ?_, reduced_amounts seconds, ?_⟩
    · rw [String.toList_ofList, formatChars_of_pos (by omega)]
    · rw [total_amounts rfl seconds]
  · intro lifetime other text bounded otherBounded written writtenToo
    have read := parse_of_format bounded written
    have readToo := parse_of_format otherBounded writtenToo
    rw [read] at readToo
    exact Except.ok.inj readToo

theorem amounts_read_back :
    parse "1d2h3m4s" = .ok 93784 ∧
      ∃ amounts, "1d2h3m4s".toList = amountsText amounts ∧
        Reduced amounts ∧ total amounts = 93784 := by
  have written : format 93784 = .ok "1d2h3m4s" := by
    decide +kernel
  have small : (93784 : Int) < 10 ^ Numeral.digitLimit := by
    have digits : 5 ≤ Numeral.digitLimit := by decide
    -- The power of the limit is not to be computed.
    generalize Numeral.digitLimit = limit at digits ⊢
    calc
      (93784 : Int) < 10 ^ 5 := by decide
      _ ≤ 10 ^ limit := by
        exact_mod_cast Nat.pow_le_pow_right (by decide) digits
  obtain ⟨text, found, read, listed⟩ :=
    format_read_back.1 93784 (by decide) small
  obtain rfl : "1d2h3m4s" = text := Except.ok.inj (written.symm.trans found)
  obtain ⟨amounts, same, reduced, whole⟩ := listed (by decide)
  exact ⟨read, amounts, same, reduced, by omega⟩

end ServerConfig.Lifetime
