import Mathlib.Data.List.Sort
import ServerConfig.Proofs.Layering

/-!
# What a successful overriding does

Overriding one setting may empty the text of another one that is overridden
later in the same pass, or was overridden before.  `OverrideEffect` says what
the whole pass amounts to: the settings whose variable is given, the texts that
are emptied for the sake of a number, and the settings that are kept, without
reference to the order of the steps.  As every look-up is for the variable of
one setting, neither the order of an environment nor its other variables
matter.
-/

namespace ServerConfig

open Validation

namespace Environment

variable {environment other : Environment} {fields : List Field}
  {field number text : Field} {settings : Settings}

/-- Every text that is given for a setting is one of its kind. -/
def Decodes (environment : Environment) : Prop :=
  ∀ field spelled, environment.text? field = some spelled →
    ∃ value, Decoding.ofText field.kind spelled = .ok value

/-- Every text that is given for one of some settings is one of its kind. -/
def DecodesAmong (environment : Environment) (fields : List Field) : Prop :=
  ∀ field ∈ fields, ∀ spelled, environment.text? field = some spelled →
    ∃ value, Decoding.ofText field.kind spelled = .ok value

theorem decodesAmong_all_iff :
    environment.DecodesAmong Field.all ↔ environment.Decodes :=
  ⟨fun decodes field => decodes field field.mem_all,
    fun decodes field _ => decodes field⟩

theorem decodesAmong_cons_iff :
    environment.DecodesAmong (field :: fields) ↔
      (∀ spelled, environment.text? field = some spelled →
        ∃ value, Decoding.ofText field.kind spelled = .ok value) ∧
      environment.DecodesAmong fields :=
  List.forall_mem_cons

private theorem all_toBool_iff_decodesAmong :
    (∀ field ∈ fields, ((environment.text? field).all fun spelled =>
        (Decoding.ofText field.kind spelled).toBool) = true) ↔
      environment.DecodesAmong fields := by
  refine forall₂_congr fun field _ => ?_
  rw [Option.all_eq_true]
  refine forall₂_congr fun spelled _ => ?_
  cases Decoding.ofText field.kind spelled <;> simp [Except.toBool]

instance decidableDecodesAmong (environment : Environment)
    (fields : List Field) : Decidable (environment.DecodesAmong fields) :=
  decidable_of_iff _ all_toBool_iff_decodesAmong

/-- The variables of an environment that override a setting. -/
def overriding (environment : Environment) : Environment :=
  environment.filter fun entry =>
    (Field.all.map Field.variableName).contains entry.1

/-- The settings whose variable is given, in order. -/
def givenFields (environment : Environment) (fields : List Field) :
    List Field :=
  fields.filter fun field => (environment.text? field).isSome

theorem overrideFields_of_decodes
    (decodes : environment.DecodesAmong fields) (settings : Settings) :
    (environment.overrideFields fields settings).2 =
      .ok (environment.givenFields fields) := by
  induction fields generalizing settings with
  | nil => rfl
  | cons field rest ih =>
      obtain ⟨first, later⟩ := decodesAmong_cons_iff.mp decodes
      rw [overrideFields, givenFields]
      cases given : environment.text? field with
      | none =>
          rw [List.filter_cons_of_neg (by simp [given])]
          exact ih later settings
      | some spelled =>
          obtain ⟨value, decoded⟩ := first spelled given
          rw [List.filter_cons_of_pos (by simp [given])]
          simp only [decoded, ih later]
          rfl

theorem variableName_givenFields (environment : Environment)
    (fields : List Field) :
    (environment.givenFields fields).map Field.variableName =
      (fields.map Field.variableName).filter (· ∈ environment.names) := by
  rw [givenFields, List.filter_map]
  congr 1
  apply List.filter_congr
  intro field _
  rw [Bool.eq_iff_iff, text?, Entries.isSome_lookup_iff, Function.comp_apply,
    decide_eq_true_eq]

/-- The text beside a number that is overridden is empty in the end, unless it
is given itself. -/
theorem toJson_overrideFields_of_releases
    (decodes : environment.DecodesAmong fields)
    (form : textFormOf number = some text)
    (absent : environment.text? text = none) (member : number ∈ fields)
    (given : (environment.text? number).isSome) :
    (environment.overrideFields fields settings).1.toJson text =
      .string "" := by
  induction fields generalizing settings with
  | nil => cases member
  | cons head rest ih =>
      obtain ⟨first, rested⟩ := decodesAmong_cons_iff.mp decodes
      rw [overrideFields]
      cases present : environment.text? head with
      | none =>
          rcases List.mem_cons.mp member with rfl | later
          · simp [present] at given
          · exact ih rested later
      | some spelled =>
          obtain ⟨value, decoded⟩ := first spelled present
          simp only [decoded]
          by_cases later : number ∈ rest
          · exact ih rested later
          · obtain rfl : number = head := by
              simpa [later] using member
            have kept : ¬ environment.Decides rest text := by
              rw [decides_text_iff form absent]
              exact fun decides => later decides.1
            rw [Settings.toJson, get_overrideFields_of_not kept]
            exact toJson_releaseTextForm ⟨form, absent⟩

/-- What a pass over some of the settings makes of all of them, if it succeeds.
The exceptions to a plain update are the texts beside numbers that are given
without their text. -/
structure EffectAmong (environment : Environment) (fields : List Field)
    (before after : Settings) : Prop where
  given : ∀ field ∈ fields, ∀ spelled,
    environment.text? field = some spelled →
      Decoding.ofText field.kind spelled = .ok (after.get field)
  emptied : ∀ number ∈ fields, ∀ text, textFormOf number = some text →
    (environment.text? number).isSome → environment.text? text = none →
      after.toJson text = .string ""
  kept : ∀ field, (field ∈ fields → environment.text? field = none) →
    (∀ number ∈ fields, textFormOf number = some field →
      (environment.text? number).isSome →
        (environment.text? field).isSome) →
      after.get field = before.get field

theorem effectAmong (decodes : environment.DecodesAmong fields)
    (before : Settings) :
    environment.EffectAmong fields before
      (environment.overrideFields fields before).1 := by
  constructor
  case given =>
    intro field member spelled given
    exact get_overrideFields_of_text
      (overrideFields_of_decodes decodes before) member given
  case emptied =>
    intro number member text form given absent
    exact toJson_overrideFields_of_releases decodes form absent member given
  case kept =>
    intro field absent unreleased
    apply get_overrideFields_of_not
    rintro ⟨source, member, given, rfl | ⟨form, released⟩⟩
    · simp [absent member] at given
    · have present := unreleased source member form given
      simp [released] at present

/-! ### Order and other variables -/

theorem text?_overriding (environment : Environment) (field : Field) :
    environment.overriding.text? field = environment.text? field := by
  apply Entries.lookup_filter
  intro spelled
  simpa using ⟨field, field.mem_all, rfl⟩

private theorem names_overriding_nodup (distinct : environment.names.Nodup) :
    environment.overriding.names.Nodup :=
  (List.filter_sublist.map Prod.fst).nodup distinct

theorem text?_eq_of_perm
    (permuted : environment.overriding.Perm other.overriding)
    (distinct : environment.names.Nodup) (field : Field) :
    environment.text? field = other.text? field := by
  calc
    environment.text? field = environment.overriding.text? field :=
      (environment.text?_overriding field).symm
    _ = other.overriding.text? field :=
      Entries.lookup_eq_of_perm permuted (names_overriding_nodup distinct) _
    _ = other.text? field := other.text?_overriding field

theorem overrideFields_congr
    (same : ∀ field, environment.text? field = other.text? field)
    (fields : List Field) (settings : Settings) :
    environment.overrideFields fields settings =
      other.overrideFields fields settings := by
  have released : environment.releaseTextForm = other.releaseTextForm := by
    funext field settings
    cases field <;> simp only [releaseTextForm, same]
  induction fields generalizing settings with
  | nil => rfl
  | cons field rest ih =>
      simp only [overrideFields, same, released, ih]

theorem not_lt_eq_true {first second : String} :
    (!decide (second < first)) = true ↔ first ≤ second := by
  rw [Bool.not_eq_true', decide_eq_false_iff_not, String.not_lt]

private theorem mergeSort_eq_of_perm {names others : List String}
    (permuted : names.Perm others) :
    names.mergeSort (fun first second => !decide (second < first)) =
      others.mergeSort (fun first second => !decide (second < first)) := by
  have sorted (names : List String) :
      (names.mergeSort fun first second => !decide (second < first)).Pairwise
        fun first second => (!decide (second < first)) = true := by
    apply List.pairwise_mergeSort
    · intro first second third below above
      exact not_lt_eq_true.mpr (String.le_trans (not_lt_eq_true.mp below)
        (not_lt_eq_true.mp above))
    · intro first second
      rw [Bool.or_eq_true, not_lt_eq_true, not_lt_eq_true]
      exact String.le_total first second
  apply List.Perm.eq_of_pairwise _ (sorted names) (sorted others)
  · exact (List.mergeSort_perm _ _).trans
      (permuted.trans (List.mergeSort_perm _ _).symm)
  · intro first second _ _ below above
    exact String.le_antisymm (not_lt_eq_true.mp below)
      (not_lt_eq_true.mp above)

theorem strayVariables_eq_of_perm (permuted : environment.Perm other) :
    environment.strayVariables = other.strayVariables :=
  mergeSort_eq_of_perm ((permuted.map Prod.fst).filter _)

/-! ### The whole pass -/

/-- What a successful overriding makes of settings.  The exceptions to a plain
update are the texts beside numbers that are given without their text. -/
structure OverrideEffect (environment : Environment)
    (before after : Settings) : Prop where
  given : ∀ field spelled, environment.text? field = some spelled →
    Decoding.ofText field.kind spelled = .ok (after.get field)
  emptied : ∀ number text, textFormOf number = some text →
    (environment.text? number).isSome → environment.text? text = none →
      after.toJson text = .string ""
  kept : ∀ field, environment.text? field = none →
    (∀ number, textFormOf number = some field →
      environment.text? number = none) →
      after.get field = before.get field

theorem overrideEffect (decodes : environment.Decodes) (before : Settings) :
    environment.OverrideEffect before (environment.overridden before) := by
  have effect := effectAmong (decodesAmong_all_iff.mpr decodes) before
  constructor
  case given => exact fun field => effect.given field field.mem_all
  case emptied => exact fun number => effect.emptied number number.mem_all
  case kept =>
    intro field absent unset
    refine effect.kept field (fun _ => absent) ?_
    intro number _ form given
    simp [unset number form] at given

/-- A limit is the one that its text names in the environment, unless that text
is empty or absent, and else the number of the environment, if there is one. -/
def LimitGiven {ε : Type} (environment : Environment)
    (parse : String → Except ε Int) (number text : Field) (limit : Int) :
    Prop :=
  (∀ spelled, environment.text? text = some spelled → spelled ≠ "" →
    parse spelled = .ok limit) ∧
  (∀ digits, environment.text? number = some digits →
    (environment.text? text).getD "" = "" →
      Decoding.ofText .number digits = .ok limit)

namespace OverrideEffect

variable {before after : Settings}

theorem toJson_text (effect : environment.OverrideEffect before after)
    (form : textFormOf number = some text) {spelled : String}
    (given : environment.text? text = some spelled) :
    after.toJson text = .string spelled :=
  toJson_of_decoded_text form (effect.given text spelled given)

theorem decoded_number (effect : environment.OverrideEffect before after)
    (form : textFormOf number = some text) {digits : String} {value : Int}
    (given : environment.text? number = some digits)
    (held : after.toJson number = .integer value) :
    Decoding.ofText .number digits = .ok value := by
  have decoded := effect.given number digits given
  cases number <;> cases form <;>
    exact decoded.trans (congrArg Except.ok (Json.integer.inj held))

/-- A limit in effect after overriding is the one that the environment
names. -/
theorem limitGiven {ε : Type} {parse : String → Except ε Int}
    {spelled : String} {value limit : Int}
    (effect : environment.OverrideEffect before after)
    (form : textFormOf number = some text)
    (heldText : after.toJson text = .string spelled)
    (held : after.toJson number = .integer value)
    (inEffect : (if spelled = "" then .ok value else parse spelled) =
      .ok limit) :
    environment.LimitGiven parse number text limit := by
  constructor
  · intro named given present
    have same : spelled = named :=
      Json.string.inj (heldText.symm.trans (effect.toJson_text form given))
    rw [if_neg (by rw [same]; exact present), same] at inEffect
    exact inEffect
  · intro digits given unnamed
    have released : after.toJson text = .string "" := by
      cases present : environment.text? text with
      | none => exact effect.emptied number text form (by simp [given]) present
      | some named =>
          rw [present, Option.getD_some] at unnamed
          rw [← unnamed]
          exact effect.toJson_text form present
    have empty : spelled = "" :=
      Json.string.inj (heldText.symm.trans released)
    rw [if_pos empty] at inEffect
    rw [← Except.ok.inj inEffect]
    exact effect.decoded_number form given held

end OverrideEffect

end Environment

/-! ## Overriding a configuration -/

namespace Configuration

variable {environment other : Environment}

/-- The limits of settings are those that the variables of an environment
name. -/
structure LimitsGiven (environment : Environment) (settings : Settings) :
    Prop where
  size : environment.LimitGiven
    (fun text => (ByteSize.parse text).map Int.ofNat)
    .maxFileSize .maxFileSizeText settings.maxFileSize
  default : environment.LimitGiven Lifetime.parse
    .defaultLifetime .defaultLifetimeText settings.defaultLifetime
  greatest : environment.LimitGiven Lifetime.parse
    .maxLifetime .maxLifetimeText settings.maxLifetime

theorem limitsGiven_of_effect {before : Settings}
    {configuration : Configuration}
    (effect : environment.OverrideEffect before configuration.settings)
    (valid : (validate configuration).result = .ok ()) :
    LimitsGiven environment (validate configuration).configuration.settings := by
  obtain ⟨found, accepts⟩ := validate_ok_iff.mp valid
  rw [accepts.validate_eq]
  constructor
  case size =>
    rw [settle_maxFileSize]
    exact effect.limitGiven rfl rfl rfl accepts.size
  case default =>
    rw [settle_defaultLifetime]
    exact effect.limitGiven rfl rfl rfl accepts.default
  case greatest =>
    rw [settle_maxLifetime]
    exact effect.limitGiven rfl rfl rfl accepts.greatest

theorem applyEnvironment_of_decodes (configuration : Configuration)
    (decodes : environment.Decodes) :
    configuration.applyEnvironment environment =
      { configuration := configuration.withOverrides environment
        records := environment.overrideRecords
          (environment.givenFields Field.all)
        result := .ok (environment.givenFields Field.all) } := by
  simp only [applyEnvironment, Environment.overrideFields_of_decodes
    (Environment.decodesAmong_all_iff.mpr decodes)]
  rfl

theorem applyEnvironment_congr (configuration : Configuration)
    (same : ∀ field, environment.text? field = other.text? field) :
    (configuration.applyEnvironment environment).result =
        (configuration.applyEnvironment other).result ∧
      (configuration.applyEnvironment environment).configuration =
        (configuration.applyEnvironment other).configuration := by
  have overridden := Environment.overrideFields_congr same Field.all
    configuration.settings
  constructor <;> simp only [applyEnvironment, overridden]

theorem applyEnvironment_eq_of_perm (configuration : Configuration)
    (distinct : environment.names.Nodup) (permuted : environment.Perm other) :
    configuration.applyEnvironment environment =
      configuration.applyEnvironment other := by
  have same (field : Field) : environment.text? field = other.text? field :=
    Entries.lookup_eq_of_perm permuted distinct field.variableName
  simp only [applyEnvironment, Environment.overrideFields_congr same,
    Environment.overrideRecords,
    Environment.strayVariables_eq_of_perm permuted]

/-- Overriding with texts that all decode applies exactly the variables that are
given, and a validation after it finds the limits that they name.  Neither the
order of the variables nor those that override nothing make a difference. -/
theorem applyEnvironment_effect (configuration : Configuration)
    (environment : Environment) (decodes : environment.Decodes) :
    let outcome := configuration.applyEnvironment environment
    (∃ fields, outcome.result = .ok fields ∧
      fields.map Field.variableName =
        (Field.all.map Field.variableName).filter (· ∈ environment.names)) ∧
    environment.OverrideEffect configuration.settings
      outcome.configuration.settings ∧
    outcome.configuration.derived = configuration.derived ∧
    outcome.configuration.autoClean = configuration.autoClean ∧
    (environment.names.Nodup → ∀ other : Environment,
      (environment.Perm other →
        configuration.applyEnvironment other = outcome) ∧
      (environment.overriding.Perm other.overriding →
        (configuration.applyEnvironment other).result = outcome.result ∧
        (configuration.applyEnvironment other).configuration =
          outcome.configuration)) ∧
    ((validate outcome.configuration).result = .ok () →
      LimitsGiven environment
        (validate outcome.configuration).configuration.settings) := by
  have effect := environment.overrideEffect decodes configuration.settings
  intro outcome
  have applied : outcome = _ :=
    configuration.applyEnvironment_of_decodes decodes
  refine ⟨⟨environment.givenFields Field.all, ?_, ?_⟩, ?_, ?_, ?_, ?_, ?_⟩
  · rw [applied]
  · exact environment.variableName_givenFields Field.all
  · rw [applied]
    exact effect
  · rw [applied]
    rfl
  · rw [applied]
    rfl
  · intro distinct other
    constructor
    · intro permuted
      exact (configuration.applyEnvironment_eq_of_perm distinct permuted).symm
    · intro permuted
      exact configuration.applyEnvironment_congr fun field =>
        (Environment.text?_eq_of_perm permuted distinct field).symm
  · rw [applied]
    exact limitsGiven_of_effect effect

/-- Two numbers are given, one with its text, in an environment that has other
variables as well and is not in the order of the settings. -/
def limitingEnvironment : Environment :=
  [("PLIKD_MAX_TTL_STR", "60d"), ("HOME", "/root"), ("PLIKD_MAX_TTL", "5"),
   ("PLIKD_MAX_FILE_SIZE", "+2048"), ("PLIKD_UNKNOWN", "1")]

/-- The text of the file size is emptied, the one of the lifetime is not. -/
theorem limitingEnvironment_effect :
    limitingEnvironment.Decodes ∧
      let outcome := applyEnvironment
        (ofSettings { maxFileSizeText := "1 MB" }) limitingEnvironment
      outcome.configuration.settings.maxFileSizeText = "" ∧
      (validate outcome.configuration).configuration.settings.maxFileSize =
        2048 ∧
      (validate outcome.configuration).configuration.settings.maxLifetime =
        5184000 := by
  have decodes : limitingEnvironment.Decodes :=
    Environment.decodesAmong_all_iff.mp (by decide +kernel)
  obtain ⟨_, effect, _, _, _, limits⟩ := applyEnvironment_effect
    (ofSettings { maxFileSizeText := "1 MB" }) limitingEnvironment decodes
  have given := limits (by decide +kernel)
  refine ⟨decodes, ?_, ?_, ?_⟩
  · exact Json.string.inj
      (effect.emptied .maxFileSize .maxFileSizeText rfl rfl rfl)
  · exact (Except.ok.inj (given.size.2 "+2048" rfl rfl)).symm
  · exact (Except.ok.inj (given.greatest.1 "60d" rfl (by decide))).symm

end Configuration

end ServerConfig
