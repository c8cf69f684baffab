import Mathlib.Order.WithBot
import ServerConfig.Proofs.Consistency

/-!
# The order of lifetimes

A negative number of seconds stands for a lifetime without end, which is longer
than any other.  The rule for the bounds of lifetimes compares numbers, and
exempts those that have no end on either side.  Main statement: after a
validation the default lifetime is not longer than the greatest one, unless it
has no end itself; and any other in its place is accepted on the same terms.
-/

namespace ServerConfig

namespace Lifetime

/-- How long a lifetime lasts. -/
def duration (seconds : Int) : WithTop Nat :=
  if seconds < 0 then ⊤ else WithTop.some seconds.toNat

variable {seconds other : Int}

theorem duration_eq_top_iff : duration seconds = ⊤ ↔ seconds < 0 := by
  rw [duration]
  split
  · rename_i negative
    simpa using negative
  · rename_i bounded
    simpa using bounded

theorem duration_le_iff :
    duration seconds ≤ duration other ↔
      other < 0 ∨ 0 ≤ seconds ∧ seconds ≤ other := by
  by_cases endless : other < 0
  · have top := duration_eq_top_iff.mpr endless
    simp [top, endless]
  · by_cases negative : seconds < 0
    · have top := duration_eq_top_iff.mpr negative
      have bounded : duration other ≠ ⊤ :=
        fun same => endless (duration_eq_top_iff.mp same)
      rw [top, top_le_iff]
      constructor
      · exact fun same => (bounded same).elim
      · rintro (below | ⟨above, _⟩) <;> omega
    · rw [duration, duration, if_neg negative, if_neg endless,
        WithTop.coe_le_coe]
      omega

end Lifetime

namespace Configuration

/-- The configuration with another default lifetime. -/
def withDefaultLifetime (configuration : Configuration) (text : String)
    (seconds : Int) : Configuration :=
  (configuration.put .defaultLifetimeText text).put .defaultLifetime seconds

/-- The lifetimes that the settings give, as text or else as numbers, and that
validation leaves. -/
structure Lifetimes (configuration : Configuration) (default greatest : Int) :
    Prop where
  defaultInEffect :
    Settings.lifetimeInEffect configuration.settings.defaultLifetimeText
      configuration.settings.defaultLifetime = .ok default
  greatestInEffect :
    Settings.lifetimeInEffect configuration.settings.maxLifetimeText
      configuration.settings.maxLifetime = .ok greatest
  settledDefault :
    (Validation.validate configuration).configuration.settings.defaultLifetime =
      default
  settledGreatest :
    (Validation.validate configuration).configuration.settings.maxLifetime =
      greatest

end Configuration

namespace Validation

open Lifetime

variable {configuration : Configuration} {found : Findings}

theorem Accepts.lifetimes
    (accepts : Accepts configuration.settings.reading found) :
    configuration.Lifetimes found.default found.greatest := by
  constructor
  case defaultInEffect => exact accepts.default
  case greatestInEffect => exact accepts.greatest
  case settledDefault =>
    rw [accepts.validate_eq]
    exact settle_defaultLifetime configuration.settings found
  case settledGreatest =>
    rw [accepts.validate_eq]
    exact settle_maxLifetime configuration.settings found

private theorem reading_withDefaultLifetime (configuration : Configuration)
    (text : String) (seconds : Int) :
    (configuration.withDefaultLifetime text seconds).settings.reading =
      { configuration.settings.reading with
        defaultText := text
        default := Settings.lifetimeInEffect text seconds } :=
  rfl

/-- Another default lifetime is accepted if it has no end or is in order. -/
theorem Accepts.withDefaultLifetime_iff
    (accepts : Accepts configuration.settings.reading found) (text : String)
    (seconds : Int) :
    (validate (configuration.withDefaultLifetime text seconds)).result =
        .ok () ↔
      ∃ other, Settings.lifetimeInEffect text seconds = .ok other ∧
        (duration other ≤ duration found.greatest ∨ other < 0) := by
  simp only [validate_ok_iff, reading_withDefaultLifetime, duration_le_iff]
  constructor
  · rintro ⟨changed, acceptsChanged⟩
    have greatest : found.greatest = changed.greatest :=
      Except.ok.inj (accepts.greatest.symm.trans acceptsChanged.greatest)
    have bounds := acceptsChanged.bounds
    exact ⟨changed.default, acceptsChanged.default, by omega⟩
  · rintro ⟨other, inEffect, inOrder⟩
    have bounds : found.greatest < 0 ∨ other ≤ found.greatest := by omega
    exact ⟨{ found with default := other },
      { accepts with default := inEffect, bounds }⟩

/-- After a validation the default lifetime does not exceed the greatest one,
unless it has no end.  Any other, as a text or as a number, is accepted in its
place exactly if it keeps that order or has no end. -/
theorem lifetimes_ordered
    (valid : (validate configuration).result = .ok ()) :
    ∃ default greatest, configuration.Lifetimes default greatest ∧
      (duration default ≤ duration greatest ∨ duration default = ⊤) ∧
      ∀ text seconds,
        (validate (configuration.withDefaultLifetime text seconds)).result =
            .ok () ↔
          ∃ other, Settings.lifetimeInEffect text seconds = .ok other ∧
            (duration other ≤ duration greatest ∨ duration other = ⊤) := by
  obtain ⟨found, accepts⟩ := validate_ok_iff.mp valid
  refine ⟨found.default, found.greatest, accepts.lifetimes, ?_, ?_⟩
  · have bounds := accepts.bounds
    rw [duration_le_iff, duration_eq_top_iff]
    omega
  · intro text seconds
    simp only [duration_eq_top_iff]
    exact accepts.withDefaultLifetime_iff text seconds

/-- Lifetimes of the same length in different units, which replace numbers that
are not in order. -/
def equalLifetimes : Configuration :=
  .ofSettings
    { defaultLifetimeText := "1h30m"
      defaultLifetime := -1
      maxLifetimeText := "+5400"
      maxLifetime := 1 }

theorem equal_lifetimes_ordered :
    (validate equalLifetimes).result = .ok () ∧
      ∃ default greatest, equalLifetimes.Lifetimes default greatest ∧
        (duration default ≤ duration greatest ∨ duration default = ⊤) ∧
        ∀ text seconds,
          (validate (equalLifetimes.withDefaultLifetime text seconds)).result =
              .ok () ↔
            ∃ other, Settings.lifetimeInEffect text seconds = .ok other ∧
              (duration other ≤ duration greatest ∨ duration other = ⊤) := by
  have valid : (validate equalLifetimes).result = .ok () := by
    decide +kernel
  exact ⟨valid, lifetimes_ordered valid⟩

/-- A default lifetime without end is accepted next to a greatest one of a
day. -/
theorem endless_default_accepted :
    let endless := Configuration.ofSettings
      { defaultLifetimeText := "-30d"
        maxLifetime := 86400 }
    (validate endless).result = .ok () ∧ endless.Lifetimes (-1) 86400 ∧
      ¬ ∀ configuration, (validate configuration).result = .ok () →
        ∀ default greatest, configuration.Lifetimes default greatest →
          duration default ≤ duration greatest := by
  intro endless
  have valid : (validate endless).result = .ok () := by
    decide +kernel
  have lifetimes : endless.Lifetimes (-1) 86400 := by
    constructor <;> decide +kernel
  refine ⟨valid, lifetimes, fun ordered => ?_⟩
  have exceeded := duration_le_iff.mp (ordered endless valid _ _ lifetimes)
  omega

end Validation

end ServerConfig
