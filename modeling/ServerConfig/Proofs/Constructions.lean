import ServerConfig.Proofs.LifetimeText
import ServerConfig.Proofs.UnexpectedErrors
import ServerConfig.Proofs.ValueTexts

/-!
# Two ways to construct a configuration

Values for some of the settings can be given by a source, as data under the
keys of the settings, or by an environment, as texts of variables.  The two are
decoded by different readers, and only overriding empties texts beside numbers.
Main statement: a configuration loaded from the source and the initial one
overridden by the environment are the same, and so is the failure to construct
them.
-/

namespace ServerConfig

open Validation (validate BeyondLimits Overlong)

/-- Values for some of the settings.  They are plain, and within the limits of
digits and of nesting. -/
structure Assignment where
  value : (field : Field) → Option field.kind.Carrier
  plain : ∀ field v, value field = some v →
    (field.kind.toJson v).isPlain = true
  /-- A minus is counted here. -/
  short : ∀ field v, value field = some v →
    ∀ n ∈ (field.kind.toJson v).integers,
      (Numeral.ofInt n).length ≤ Numeral.digitLimit
  shallow : ∀ field v, value field = some v →
    (field.kind.toJson v).nesting ≤ Json.depthLimit

namespace Assignment

theorem within (assignment : Assignment) (field : Field)
    (v : field.kind.Carrier) (present : assignment.value field = some v) :
    (field.kind.toJson v).Within Json.depthLimit := by
  refine ⟨Json.isWritable_iff _ |>.mpr fun n member => ?_,
    assignment.shallow field v present⟩
  have short := assignment.short field v present n member
  cases n with
  | ofNat n => exact short
  | negSucc n => exact Nat.le_of_succ_le short

/-- A source holds exactly the values of an assignment, each under the key of
its setting. -/
structure HeldBy (assignment : Assignment) (entries : Entries Datum) :
    Prop where
  held : ∀ field : Field, entries.lookup field.key =
    (assignment.value field).map fun v => .ofJson (field.kind.toJson v)
  keyed : ∀ name ∈ entries.names, ∃ field : Field, field.key = name

/-- An environment spells the values of an assignment, and overrides no other
setting. -/
structure SpelledBy (assignment : Assignment) (environment : Environment) :
    Prop where
  spelled : ∀ field v, assignment.value field = some v →
    ∃ text, environment.text? field = some text ∧ field.kind.Spells text v
  absent : ∀ field, assignment.value field = none →
    environment.text? field = none

/-- Put the values for a list of fields into settings. -/
def fill (assignment : Assignment) : List Field → Settings → Settings
  | [], settings => settings
  | field :: rest, settings =>
      match assignment.value field with
      | none => assignment.fill rest settings
      | some v => assignment.fill rest (settings.put field v)

/-- The settings with the values of an assignment, where it has any, and the
defaults elsewhere. -/
def settings (assignment : Assignment) : Settings :=
  assignment.fill Field.all Settings.defaults

section Settings

variable {assignment : Assignment} {fields : List Field} {field : Field}
  {settings : Settings}

theorem get_fill_of_notMem (other : field ∉ fields) :
    (assignment.fill fields settings).get field = settings.get field := by
  induction fields generalizing settings with
  | nil => rfl
  | cons head rest ih =>
      rw [List.mem_cons, not_or] at other
      rw [fill]
      cases assignment.value head with
      | none => exact ih other.2
      | some v => exact (ih other.2).trans (settings.get_put_of_ne other.1 v)

private theorem get_fill (member : field ∈ fields) :
    (assignment.fill fields settings).get field =
      (assignment.value field).getD (settings.get field) := by
  induction fields generalizing settings with
  | nil => cases member
  | cons head rest ih =>
      rw [fill]
      by_cases later : field ∈ rest
      · cases present : assignment.value head with
        | none => exact ih later
        | some v =>
            rw [ih later]
            by_cases same : field = head
            · subst same
              rw [present, Option.getD_some, Option.getD_some]
            · rw [settings.get_put_of_ne same]
      · obtain rfl : field = head := by simpa [later] using member
        cases present : assignment.value field with
        | none => exact get_fill_of_notMem later
        | some v =>
            exact (get_fill_of_notMem later).trans (settings.get_put_self _ v)

theorem get_settings (assignment : Assignment) (field : Field) :
    assignment.settings.get field =
      (assignment.value field).getD (Settings.defaults.get field) :=
  get_fill field.mem_all

end Settings

/-! ## Loading -/

section Loading

variable {assignment : Assignment} {entries : Entries Datum}

private theorem entry?_of_heldBy (held : assignment.HeldBy entries) (field : Field) :
    Decoding.entry? entries field =
      (assignment.value field).map fun v =>
        (field.key, .ofJson (field.kind.toJson v)) := by
  rw [Decoding.entry?, held.held]
  cases assignment.value field with
  | some v => rfl
  | none =>
      -- The name of a setting is no key, so the second look-up fails as well.
      have unnamed : entries.lookup field.name = none := by
        cases found : entries.lookup field.name with
        | none => rfl
        | some datum =>
            obtain ⟨other, same⟩ :=
              held.keyed _ (Entries.mem_names_of_lookup found)
            exact absurd same.symm (field.name_ne_key other)
      rw [Option.map_none, unnamed]
      rfl

/-- The values of an assignment are decoded from what holds them. -/
theorem settingsOf_of_heldBy (held : assignment.HeldBy entries)
    (fields : List Field) (settings : Settings) :
    Decoding.settingsOf entries settings fields =
      .ok (assignment.fill fields settings) := by
  induction fields generalizing settings with
  | nil => rfl
  | cons field rest ih =>
      rw [Decoding.settingsOf, entry?_of_heldBy held, fill]
      cases assignment.value field with
      | none => exact ih settings
      | some v =>
          have decoded := Decoding.value_ofJson field.kind v
          simp only [Option.map_some, decoded, Decoding.under, Except.mapError]
          exact ih (settings.put field v)

end Loading

/-! ## Overriding -/

section Overriding

variable {assignment : Assignment} {environment : Environment}
  {settings : Settings}

/-- Texts that overriding would empty have their defaults. -/
def FormsUnset (environment : Environment) (settings : Settings) : Prop :=
  ∀ field other, environment.Releases field other →
    settings.get other = Settings.defaults.get other

private theorem releaseTextForm_defaults (field : Field) :
    environment.releaseTextForm field Settings.defaults =
      Settings.defaults := by
  cases field <;> try rfl
  all_goals
    rw [Environment.releaseTextForm]
    split <;> rfl

theorem releaseTextForm_of_unset (unset : FormsUnset environment settings)
    (field : Field) :
    environment.releaseTextForm field settings = settings := by
  apply Settings.ext_get
  intro other
  by_cases releases : environment.Releases field other
  · rw [Environment.get_releaseTextForm_of_releases Settings.defaults releases,
      releaseTextForm_defaults, unset field other releases]
  · exact Environment.get_releaseTextForm_of_not releases

theorem FormsUnset.put {field : Field} (unset : FormsUnset environment settings)
    (given : (environment.text? field).isSome) (v : field.kind.Carrier) :
    FormsUnset environment (settings.put field v) := by
  intro source other releases
  have different : other ≠ field := by
    rintro rfl
    rw [releases.2] at given
    cases given
  rw [settings.get_put_of_ne different]
  exact unset source other releases

/-- The values of an assignment override settings without such texts.  What
overriding a number empties is empty by then, and stays so. -/
theorem overrideFields_of_spelledBy (spelled : assignment.SpelledBy environment)
    (fields : List Field) (unset : FormsUnset environment settings) :
    ∃ done, environment.overrideFields fields settings =
      (assignment.fill fields settings, .ok done) := by
  induction fields generalizing settings with
  | nil => exact ⟨[], rfl⟩
  | cons field rest ih =>
      rw [Environment.overrideFields, fill]
      cases present : assignment.value field with
      | none =>
          rw [spelled.absent field present]
          exact ih unset
      | some v =>
          obtain ⟨text, given, spells⟩ := spelled.spelled field v present
          have decoded := Decoding.ofText_of_spells spells
            (assignment.within field v present)
          have still : FormsUnset environment (settings.put field v) :=
            unset.put (by simp [given]) v
          obtain ⟨done, overridden⟩ := ih still
          refine ⟨field :: done, ?_⟩
          simp only [given, decoded, releaseTextForm_of_unset still,
            overridden]
          rfl

end Overriding

/-! ## Sources and environments of an assignment -/

section Existence

variable {α : Type} {name : Field → String} {values : Field → Option α}

/-- Entries of the settings that have a value, under the names given. -/
def named (name : Field → String) (values : Field → Option α) :
    List Field → Entries α
  | [] => []
  | field :: rest =>
      match values field with
      | none => named name values rest
      | some v => (name field, v) :: named name values rest

theorem lookup_named
    (distinct : ∀ field other, name field = name other → field = other)
    (fields : List Field) (field : Field) :
    (named name values fields).lookup (name field) =
      if field ∈ fields then values field else none := by
  induction fields with
  | nil => rfl
  | cons head rest ih =>
      rw [named]
      by_cases same : field = head
      · subst same
        rw [if_pos List.mem_cons_self]
        cases present : values field with
        | none =>
            refine ih.trans ?_
            rw [present, ite_self]
        | some v => rw [Entries.lookup_cons, if_pos rfl]
      · have other : name field ≠ name head := fun equal =>
          same (distinct _ _ equal)
        simp only [List.mem_cons, same, false_or]
        cases values head with
        | none => exact ih
        | some v => rw [Entries.lookup_cons, if_neg other, ih]

theorem exists_field_of_mem_named {fields : List Field} {text : String}
    (member : text ∈ (named name values fields).names) :
    ∃ field, name field = text := by
  induction fields with
  | nil => cases member
  | cons head rest ih =>
      rw [named] at member
      cases present : values head with
      | none =>
          rw [present] at member
          exact ih member
      | some v =>
          rw [present] at member
          rcases List.mem_cons.mp member with same | later
          · exact ⟨head, same.symm⟩
          · exact ih later

/-- A source of the values of an assignment. -/
def entries (assignment : Assignment) : Entries Datum :=
  named Field.key (fun field => (assignment.value field).map fun v =>
    .ofJson (field.kind.toJson v)) Field.all

/-- An environment that spells the values of an assignment. -/
def environment (assignment : Assignment) : Environment :=
  named Field.variableName (fun field =>
    (assignment.value field).map field.kind.spelling) Field.all

theorem heldBy_entries (assignment : Assignment) :
    assignment.HeldBy assignment.entries := by
  constructor
  case held =>
    intro field
    rw [entries, lookup_named Field.key_injective, if_pos field.mem_all]
  case keyed =>
    intro name member
    exact exists_field_of_mem_named member

theorem spelledBy_environment (assignment : Assignment) :
    assignment.SpelledBy assignment.environment := by
  have text (field : Field) : assignment.environment.text? field =
      (assignment.value field).map field.kind.spelling := by
    rw [Environment.text?, environment, lookup_named Field.variableName_injective,
      if_pos field.mem_all]
  constructor
  case spelled =>
    intro field v present
    refine ⟨field.kind.spelling v, ?_, ?_⟩
    · rw [text, present, Option.map_some]
    · exact Kind.spells_spelling (assignment.plain field v present)
  case absent =>
    intro field absent
    rw [text, absent, Option.map_none]

end Existence

/-! ## Both constructions -/

section Both

variable {assignment : Assignment} {source : String}
  {entries : Entries Datum} {environment : Environment}

theorem ofEntries_of_heldBy (held : assignment.HeldBy entries) :
    (Configuration.ofEntries source entries).2 =
      ((validate (.ofSettings assignment.settings)).result.mapError
        .ofFailure).map
        fun _ => (validate (.ofSettings assignment.settings)).configuration :=
  Configuration.ofEntries_of_ok
    (settingsOf_of_heldBy held Field.all Settings.defaults)

theorem override_of_spelledBy (spelled : assignment.SpelledBy environment) :
    (Configuration.initial.override environment).result =
        (validate (.ofSettings assignment.settings)).result.mapError
          .ofFailure ∧
      (Configuration.initial.override environment).configuration =
        (validate (.ofSettings assignment.settings)).configuration := by
  have unset : FormsUnset environment Settings.defaults := fun _ _ _ => rfl
  obtain ⟨done, overridden⟩ :=
    overrideFields_of_spelledBy spelled Field.all unset
  have success : (environment.overrideFields Field.all
      Configuration.initial.settings).2 = .ok done :=
    congrArg Prod.snd overridden
  have settled : Configuration.initial.withOverrides environment =
      .ofSettings assignment.settings :=
    congrArg (fun settings => { Configuration.initial with settings })
      (congrArg Prod.fst overridden)
  rw [← settled]
  exact Configuration.override_of_ok Configuration.initial success

end Both

/-- Values for some of the settings construct the same configuration from a
source and from an environment, or neither is constructed, for the same reason.
It is the validation of the values and, elsewhere, of the defaults; so the
reason is a violation that is reported as one, unless they are beyond the
limits. -/
theorem constructions_agree (assignment : Assignment) :
    (∃ entries, assignment.HeldBy entries) ∧
    (∃ environment, assignment.SpelledBy environment) ∧
    (∀ field, assignment.settings.get field =
      (assignment.value field).getD (Settings.defaults.get field)) ∧
    ∀ source entries environment,
      assignment.HeldBy entries → assignment.SpelledBy environment →
        (Configuration.ofEntries source entries).2 =
            (Configuration.initial.override environment).result.map
              (fun _ =>
                (Configuration.initial.override environment).configuration) ∧
          (Configuration.ofEntries source entries).2 =
            ((validate (.ofSettings assignment.settings)).result.mapError
              .ofFailure).map
              (fun _ =>
                (validate (.ofSettings assignment.settings)).configuration) ∧
          ∀ treatment,
            ((∃ loaded, (Configuration.ofEntries source entries).2 =
                  .ok loaded) ∨
                ∃ cause, (Configuration.ofEntries source entries).2 =
                    .error (.violation cause) ∧
                  cause.isExpected treatment = true) ↔
              ¬ BeyondLimits treatment assignment.settings.reading := by
  refine ⟨⟨_, assignment.heldBy_entries⟩,
    ⟨_, assignment.spelledBy_environment⟩, assignment.get_settings, ?_⟩
  intro source entries environment held spelled
  have loaded : (Configuration.ofEntries source entries).2 = _ :=
    ofEntries_of_heldBy held
  have overridden := override_of_spelledBy spelled
  refine ⟨?_, loaded, ?_⟩
  · rw [loaded, overridden.1, overridden.2]
  · intro treatment
    have unexpected := @Validation.unexpected_validate_iff treatment
      (.ofSettings assignment.settings)
    rw [loaded]
    refine Iff.trans ?_ (not_congr unexpected)
    cases (validate (.ofSettings assignment.settings)).result with
    | ok done => simp [Except.mapError, Except.map, not_unexpected_ok]
    | error failure =>
        rw [Except.mapError, unexpected_error_iff, Bool.not_eq_false]
        cases failure <;>
          simp [Except.map, AssemblyError.ofFailure, AssemblyError.isExpected]

/-- A network, a lifetime as text, and the settings of a backend. -/
def sample : Assignment where
  value
    | .uploadWhitelist => some ["10.0.0.0/8"]
    | .defaultLifetimeText => some "1h"
    | .metadataBackendConfig =>
        some [("Path", .string "meta.db"), ("Limits", .array [.integer 5])]
    | _ => none
  plain := by
    intro field v given
    cases field <;> cases given <;> decide
  short := by
    intro field v given
    cases field <;> cases given <;> decide
  shallow := by
    intro field v given
    cases field <;> cases given <;> decide

def sampleEntries : Entries Datum :=
  [("UploadWhitelist", .array [.string "10.0.0.0/8"]),
   ("DefaultTTLStr", .string "1h"),
   ("MetadataBackendConfig", .table
     [("Path", .string "meta.db"), ("Limits", .array [.integer 5])])]

def sampleEnvironment : Environment :=
  [("PLIKD_UPLOAD_WHITELIST", "[\"10.0.0.0/8\"]"),
   ("PLIKD_DEFAULT_TTL_STR", "1h"),
   ("PLIKD_METADATA_BACKEND_CONFIG",
     "\x7b\"Path\": \"meta.db\", \"Limits\": [5]\x7d")]

theorem sample_constructions_agree :
    sample.HeldBy sampleEntries ∧ sample.SpelledBy sampleEnvironment ∧
      ∃ loaded,
        (Configuration.ofEntries "plikd.cfg" sampleEntries).2 = .ok loaded ∧
          (Configuration.initial.override sampleEnvironment).result.map
            (fun _ => (Configuration.initial.override
              sampleEnvironment).configuration) = .ok loaded := by
  have held : sample.HeldBy sampleEntries := sample.heldBy_entries
  have spelled : sample.SpelledBy sampleEnvironment := by
    have same : sample.environment = sampleEnvironment := by decide +kernel
    rw [← same]
    exact sample.spelledBy_environment
  have valid : (validate (.ofSettings sample.settings)).result = .ok () := rfl
  obtain ⟨_, _, _, agree⟩ := constructions_agree sample
  obtain ⟨same, validated, _⟩ := agree "plikd.cfg" _ _ held spelled
  rw [valid] at validated
  exact ⟨held, spelled, _, validated, same.symm.trans validated⟩

/-- The default lifetime as text, and nothing else. -/
def ofLifetimeText (text : String) : Assignment where
  value
    | .defaultLifetimeText => some text
    | _ => none
  plain := by
    intro field v given
    cases field <;> cases given
    rfl
  short := by
    intro field v given
    cases field <;> cases given
    exact nofun
  shallow := by
    intro field v given
    cases field <;> cases given
    exact Nat.zero_le _

section Overlong

variable {text : String} {count : Nat}

theorem heldBy_lifetimeText :
    (ofLifetimeText text).HeldBy [("DefaultTTLStr", .string text)] :=
  heldBy_entries _

theorem spelledBy_lifetimeText :
    (ofLifetimeText text).SpelledBy [("PLIKD_DEFAULT_TTL_STR", text)] := by
  have named : Field.variableName .defaultLifetimeText =
      "PLIKD_DEFAULT_TTL_STR" := by
    decide +kernel
  rw [← named]
  exact spelledBy_environment _

theorem overlong_of_parse {seconds : Nat}
    (parsed : Lifetime.parse text = .ok (seconds : Int))
    (long : Numeral.writeLimit ≤ seconds) :
    Overlong (ofLifetimeText text).settings.reading := by
  have great : 2592000 < Numeral.writeLimit := by
    have digits : 7 ≤ Numeral.digitLimit := by decide
    unfold Numeral.writeLimit
    -- The power of the limit is not to be computed.
    generalize Numeral.digitLimit = limit at digits
    calc
      2592000 < 10 ^ 7 := by decide
      _ ≤ 10 ^ limit := Nat.pow_le_pow_right (by decide) digits
  have present : text ≠ "" := by
    rintro rfl
    cases parsed
  have default : (ofLifetimeText text).settings.reading.default =
      .ok (seconds : Int) :=
    (if_neg present).trans parsed
  have greatest : (ofLifetimeText text).settings.reading.greatest =
      .ok 2592000 := rfl
  exact ⟨⟨_, rfl⟩, seconds, 2592000, default, greatest, by decide, by omega,
    by omega⟩

theorem parse_nines (full : count = Numeral.digitLimit) :
    ∃ seconds : Nat, Numeral.writeLimit ≤ seconds ∧
      Lifetime.parse (String.ofList (List.replicate count '9' ++ ['d'])) =
        .ok (seconds : Int) := by
  have nines := Numeral.ofAscii_nines count
  have positive : 0 < count := by
    rw [full]
    decide
  have great : 10 ≤ 10 ^ count :=
    calc
      10 = 10 ^ 1 := rfl
      _ ≤ 10 ^ count := Nat.pow_le_pow_right (by decide) positive
  have ascii : ∀ c ∈ List.replicate count '9', c.isDigit = true := by
    intro c member
    rw [List.eq_of_mem_replicate member]
    rfl
  have nonempty : List.replicate count '9' ≠ [] := by
    rw [ne_eq, List.replicate_eq_nil_iff]
    omega
  have short : (List.replicate count '9').length ≤ Numeral.digitLimit := by
    rw [List.length_replicate, full]
  refine ⟨_, ?_, @Lifetime.parse_amount _ .day nonempty ascii short⟩
  have limit : Numeral.writeLimit = 10 ^ count := by
    unfold Numeral.writeLimit
    generalize Numeral.digitLimit = limit at full
    subst full
    rfl
  rw [limit, Lifetime.TimeUnit.seconds]
  omega

/-- A lifetime of 4300 nines in days. -/
def overlongText : String :=
  String.ofList (List.replicate 4300 '9' ++ ['d'])

/-- Such a default lifetime, given in either way, is refused with an error that
is not about the configuration. -/
theorem overlong_lifetime_unexpected :
    (ofLifetimeText overlongText).HeldBy
        [("DefaultTTLStr", .string overlongText)] ∧
      (ofLifetimeText overlongText).SpelledBy
        [("PLIKD_DEFAULT_TTL_STR", overlongText)] ∧
      Unexpected .refused (Configuration.ofEntries "plikd.cfg"
        [("DefaultTTLStr", .string overlongText)]).2 ∧
      Unexpected .refused (Configuration.initial.override
        [("PLIKD_DEFAULT_TTL_STR", overlongText)]).result := by
  obtain ⟨seconds, long, parsed⟩ := @parse_nines 4300 rfl
  have overlong : Overlong (ofLifetimeText overlongText).settings.reading :=
    overlong_of_parse parsed long
  have decoded := settingsOf_of_heldBy (@heldBy_lifetimeText overlongText)
    Field.all Settings.defaults
  refine ⟨heldBy_lifetimeText, spelledBy_lifetimeText, ?_, ?_⟩
  · exact Configuration.unexpected_ofEntries_iff.mpr ⟨_, decoded, .inr overlong⟩
  · rw [(override_of_spelledBy spelledBy_lifetimeText).1]
    exact Validation.unexpected_validate_iff.mpr (.inr overlong)

end Overlong

end Assignment

end ServerConfig
