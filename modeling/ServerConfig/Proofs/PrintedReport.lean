import ServerConfig.Proofs.Binary64.Rounding
import ServerConfig.Proofs.Breaches
import ServerConfig.Proofs.Command.Agreement
import ServerConfig.Proofs.Consistency
import ServerConfig.Proofs.Log.JsonLine
import ServerConfig.Proofs.WrittenLifetime

/-!
# Reports that can be written

The report about a configuration fails where a number in it cannot be written:
a size needs an approximation in double precision, other integers are written
up to the limit of digits.  Validation bounds the port, but no limit of the
service and no integer in the mappings of the backends.  Main statement: the
report about a validated configuration, and so what the command prints about an
assembled one, is written exactly if none of these is too great.
-/

namespace ServerConfig

/-! ## Numbers -/

theorem Numeral.exists_write_iff {n : Int} :
    (∃ text, write n = .ok text) ↔ n.natAbs < writeLimit := by
  constructor
  · rintro ⟨text, written⟩
    by_contra great
    rw [write_of_le (Nat.not_lt.mp great)] at written
    cases written
  · intro small
    exact ⟨_, write_of_lt small⟩

/-- A size is written if it has an approximation in double precision. -/
theorem ByteSize.exists_format_iff {bytes : Int} :
    (∃ text, format bytes = .ok text) ↔ bytes.natAbs < Binary64.reach := by
  have cases := Binary64.ofFraction_cases (p := bytes.natAbs) (bytes < 0)
    Nat.one_pos
  rw [Nat.cast_one, div_one, Nat.cast_lt, Nat.cast_le] at cases
  rw [format, Binary64.ofInt]
  rcases cases with ⟨small, significand, exponent, _, finite⟩ |
    ⟨great, infinite⟩
  · rw [finite]
    exact ⟨fun _ => small, fun _ => ⟨_, rfl⟩⟩
  · rw [infinite]
    constructor
    · rintro ⟨text, written⟩
      cases written
    · intro small
      exact absurd small (Nat.not_lt.mpr great)

namespace Lifetime

private theorem isWritable_of_neg {lifetime : Int} (unbounded : lifetime < 0) :
    isWritable lifetime = true := by
  rw [isWritable, Int.toNat_of_nonpos unbounded.le]
  rfl

/-- Only the number of days can be too long. -/
theorem isWritable_iff_lt {lifetime : Int} :
    isWritable lifetime = true ↔ lifetime < 86400 * Numeral.writeLimit := by
  rcases Int.lt_or_le lifetime 0 with unbounded | bounded
  · exact ⟨fun _ => by omega, fun _ => isWritable_of_neg unbounded⟩
  · obtain ⟨seconds, rfl⟩ := Int.eq_ofNat_of_zero_le bounded
    rw [isWritable_iff]
    simp only [Numeral.length_ofNat_le_iff]
    have short : 60 < Numeral.writeLimit := by
      rw [← Numeral.length_ofNat_le_iff]
      decide
    have reduced := reduced_amounts seconds
    generalize Numeral.writeLimit = limit at short ⊢
    constructor
    · intro writable
      by_contra great
      have days : limit ≤ seconds / 86400 :=
        (Nat.le_div_iff_mul_le (by decide)).mpr (by omega)
      have member : (seconds / 86400, TimeUnit.day) ∈
          amounts TimeUnit.all seconds := by
        rw [TimeUnit.all, amounts, TimeUnit.seconds,
          if_neg (show seconds / 86400 ≠ 0 by omega)]
        exact List.mem_cons_self
      exact absurd (writable _ member) (Nat.not_lt.mpr days)
    · rintro small ⟨amount, unit⟩ member
      cases unit with
      | day =>
          have within := amount_le member
          simp only [TimeUnit.seconds] at within
          omega
      | hour =>
          have below := reduced.hours amount member
          omega
      | minute => exact (reduced.minutes amount member).trans short
      | second => exact (reduced.seconds amount member).trans short

theorem exists_format_iff {lifetime : Int} :
    (∃ text, format lifetime = .ok text) ↔
      lifetime < 86400 * Numeral.writeLimit := by
  rw [← isWritable_iff_lt, format]
  split <;> rename_i writable
  · exact ⟨fun _ => writable, fun _ => ⟨_, rfl⟩⟩
  · constructor
    · rintro ⟨text, written⟩
      cases written
    · intro written
      exact absurd written writable

end Lifetime

/-! ## Mappings -/

namespace Datum

theorem isWritable_ofJson (value : Json) :
    (ofJson value).isWritable = true ↔
      ∀ n ∈ value.integers, n.natAbs < Numeral.writeLimit := by
  rw [isWritable_ofJson_eq, Json.isWritable_iff]
  simp only [Numeral.length_ofNat_le_iff]

theorem exists_shown_iff {datum : Datum} :
    (∃ text, datum.shown = .ok text) ↔ datum.isWritable = true := by
  rw [shown]
  split <;> rename_i writable
  · exact ⟨fun _ => writable, fun _ => ⟨_, rfl⟩⟩
  · constructor
    · rintro ⟨text, written⟩
      cases written
    · intro written
      exact absurd written writable

end Datum

/-! ## Reports -/

/-- No number that the report shows is too great to be written, the port
aside. -/
structure Settings.Printable (settings : Settings) : Prop where
  maxFileSize : settings.maxFileSize.natAbs < Binary64.reach
  maxFilesPerUpload :
    settings.maxFilesPerUpload.natAbs < Numeral.writeLimit
  defaultLifetime : settings.defaultLifetime < 86400 * Numeral.writeLimit
  maxLifetime : settings.maxLifetime < 86400 * Numeral.writeLimit
  metadataBackend :
    ∀ n ∈ Json.membersIntegers settings.metadataBackendConfig,
      n.natAbs < Numeral.writeLimit
  dataBackend :
    ∀ n ∈ Json.membersIntegers settings.dataBackendConfig,
      n.natAbs < Numeral.writeLimit

namespace Report

variable {ε δ α β : Type}

private theorem exists_bind_iff {x : Except ε α} {f : α → Except ε β} :
    (∃ b, (x >>= f) = .ok b) ↔ ∃ a, x = .ok a ∧ ∃ b, f a = .ok b := by
  cases x with
  | error cause => simp [bind, Except.bind]
  | ok a => simp [bind, Except.bind]

private theorem mapError_eq_ok_iff {x : Except ε α} {f : ε → δ} {a : α} :
    x.mapError f = .ok a ↔ x = .ok a := by
  cases x <;> simp [Except.mapError]

end Report

namespace Configuration

open Report

variable {configuration : Configuration}

/-- Apart from its numbers there is nothing in a report that can fail. -/
theorem exists_dump_iff :
    (∃ text, configuration.dump = .ok text) ↔
      configuration.settings.listenPort.natAbs < Numeral.writeLimit ∧
        configuration.settings.Printable := by
  simp only [dump, exists_bind_iff, integer, size, lifetime, mapping,
    mapError_eq_ok_iff, pure, Except.pure, Except.ok.injEq, exists_eq',
    and_true, exists_and_right, Numeral.exists_write_iff,
    ByteSize.exists_format_iff, Lifetime.exists_format_iff,
    Datum.exists_shown_iff, Datum.isWritable_ofJson, Json.integers]
  constructor
  · rintro ⟨port, size, files, default, greatest, metadata, data⟩
    exact ⟨port, size, files, default, greatest, metadata, data⟩
  · rintro ⟨port, size, files, default, greatest, metadata, data⟩
    exact ⟨port, size, files, default, greatest, metadata, data⟩

theorem Consistent.exists_dump_iff (consistent : configuration.Consistent) :
    (∃ text, configuration.dump = .ok text) ↔
      configuration.settings.Printable := by
  rw [Configuration.exists_dump_iff, and_iff_right]
  have short : 65535 < Numeral.writeLimit := by
    rw [← Numeral.length_ofNat_le_iff]
    decide
  have port := consistent.port
  omega

end Configuration

namespace Command

theorem consistent_of_assemble {invocation : Invocation} {source : Source}
    {noEnvironment : Bool} {configuration : Configuration}
    (assembled : (assemble invocation source noEnvironment).2 =
      .ok configuration) :
    configuration.Consistent := by
  rw [assemble_eq] at assembled
  cases noEnvironment with
  | true => exact Configuration.load_consistent assembled
  | false =>
      rw [if_neg Bool.false_ne_true, Configuration.obtained] at assembled
      cases loaded : (Configuration.load invocation.read source).2 with
      | error cause =>
          rw [loaded] at assembled
          cases assembled
      | ok before =>
          rw [loaded, Except.bind, Configuration.overriddenBy] at assembled
          cases success : (before.override invocation.environment).result with
          | error cause =>
              rw [success] at assembled
              cases assembled
          | ok done =>
              rw [success] at assembled
              cases assembled
              exact Configuration.override_consistent success

end Command

namespace Validation

/-- The report about a configuration that validation accepts is written exactly
if none of the numbers that it shows is too great.  Likewise for the command
that assembles a configuration and does not print the settings that clients may
see: it either prints the report and ends normally, or it ends in an error that
is not about the configuration. -/
theorem reports_written (configuration : Configuration) :
    ((validate configuration).result = .ok () →
      ((∃ text, (validate configuration).configuration.dump = .ok text) ↔
        (validate configuration).configuration.settings.Printable)) ∧
      ∀ (invocation : Command.Invocation) (plan : Command.Plan),
        Command.Plan.make invocation.arguments invocation.environment =
          .ok plan →
        plan.choices.publicView = false →
        (Command.assemble invocation plan.source
          plan.choices.noEnvironment).2 = .ok configuration →
        (configuration.settings.Printable →
          ∃ text log, configuration.dump = .ok text ∧
            Command.run invocation = .finished 0 (text ++ "\n") log none) ∧
        (¬ configuration.settings.Printable →
          ∃ cause, configuration.dump = .error cause ∧
            Command.run invocation = .unreportable cause) := by
  constructor
  · intro valid
    exact (validate_consistent valid).exists_dump_iff
  · intro invocation plan made plain assembled
    have written := (Command.consistent_of_assemble assembled).exists_dump_iff
    have printed : Command.printed configuration plan.choices.publicView =
        configuration.dump := by
      rw [plain]
      rfl
    rw [Command.run, made]
    constructor
    · intro printable
      obtain ⟨text, dumped⟩ := written.mpr printable
      obtain ⟨log, finished⟩ :=
        Command.carryOut_of_printed assembled (printed.trans dumped)
      exact ⟨text, log, dumped, finished⟩
    · intro unprintable
      cases dumped : configuration.dump with
      | ok text => exact (unprintable (written.mp ⟨text, dumped⟩)).elim
      | error cause =>
          exact ⟨cause, rfl,
            Command.carryOut_of_unprintable assembled (printed.trans dumped)⟩

/-- A greatest file size with an approximation in double precision. -/
def greatSize : Configuration :=
  .ofSettings { maxFileSize := 2 ^ 1023 }

/-- The default configuration is printed. -/
def plainInvocation : Command.Invocation where
  arguments := ["--config", "site.cfg", "--no-env"]
  environment := []
  read := Command.oneFile
  time := ⟨"", ""⟩

theorem great_size_reported :
    (∃ text, (validate greatSize).configuration.dump = .ok text) ∧
      ∃ text log,
        Command.run plainInvocation = .finished 0 (text ++ "\n") log none := by
  constructor
  · have valid : (validate greatSize).result = .ok () := by
      decide +kernel
    apply ((reports_written greatSize).1 valid).mpr
    constructor <;> decide +kernel
  · obtain ⟨printed, _⟩ :=
      (reports_written _).2 plainInvocation _ rfl rfl rfl
    obtain ⟨text, log, _, ended⟩ := printed (by constructor <;> decide +kernel)
    exact ⟨text, log, ended⟩

/-- The limit is valid, but it is too great for the report. -/
theorem huge_size_unreported :
    let huge := Configuration.ofSettings { maxFileSize := 2 ^ 1024 }
    (validate huge).result = .ok () ∧
      (validate huge).configuration.dump = .error (.size .overflow) ∧
      ¬ ∀ configuration : Configuration,
        (validate configuration).result = .ok () →
          ∃ text, (validate configuration).configuration.dump = .ok text := by
  intro huge
  have valid : (validate huge).result = .ok () := by
    decide +kernel
  have failed : (validate huge).configuration.dump =
      .error (.size .overflow) := by
    decide +kernel
  refine ⟨valid, failed, fun written => ?_⟩
  obtain ⟨text, dumped⟩ := written huge valid
  rw [failed] at dumped
  cases dumped

end Validation

end ServerConfig
