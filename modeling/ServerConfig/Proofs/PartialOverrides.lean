import ServerConfig.Proofs.OverrideEffects

/-!
# Overriding that fails

Overriding stops at the first setting whose variable is no value of it, and
nothing is rolled back.  What is left is the effect of a pass over the settings
before that one, of which all variables decode.  A text may be empty in the end
although it is declared after the setting at fault, as the number beside it may
be declared before.
-/

namespace ServerConfig

namespace Environment

variable {environment : Environment} {fields earlier later : List Field}
  {field : Field} {text : String} {settings : Settings}

/-- Among some settings, the first one whose variable is given and no value of
it, and the settings before it. -/
structure FirstFailure (environment : Environment) (fields : List Field)
    (earlier : List Field) (field : Field) (text : String) : Prop where
  position : earlier ++ [field] <+: fields
  decodes : environment.DecodesAmong earlier
  given : environment.text? field = some text
  fails : ∀ value, Decoding.ofText field.kind text ≠ .ok value

/-- Some variable does not decode exactly if there is a first one. -/
theorem not_decodesAmong_iff :
    ¬ environment.DecodesAmong fields ↔
      ∃ earlier field text,
        environment.FirstFailure fields earlier field text := by
  constructor
  · intro fails
    induction fields with
    | nil => exact (fails nofun).elim
    | cons head rest ih =>
        by_cases first : ∀ spelled, environment.text? head = some spelled →
            ∃ value, Decoding.ofText head.kind spelled = .ok value
        · obtain ⟨earlier, field, text, failure⟩ := ih fun later =>
            fails (decodesAmong_cons_iff.mpr ⟨first, later⟩)
          exact ⟨head :: earlier, field, text,
            { position := List.cons_prefix_cons.mpr ⟨rfl, failure.position⟩
              decodes := decodesAmong_cons_iff.mpr ⟨first, failure.decodes⟩
              given := failure.given
              fails := failure.fails }⟩
        · push Not at first
          obtain ⟨text, given, fails⟩ := first
          exact ⟨[], head, text,
            { position := List.cons_prefix_cons.mpr ⟨rfl, List.nil_prefix⟩
              decodes := nofun
              given
              fails }⟩
  · rintro ⟨earlier, field, text, failure⟩ decodes
    have member : field ∈ fields :=
      failure.position.subset (List.mem_append_right _ List.mem_cons_self)
    obtain ⟨value, decoded⟩ := decodes field member text failure.given
    exact failure.fails value decoded

/-- Overriding goes no further than the first failure, and what it did before
stays. -/
theorem overrideFields_append_cons
    (decodes : environment.DecodesAmong earlier)
    (given : environment.text? field = some text)
    (fails : ∀ value, Decoding.ofText field.kind text ≠ .ok value) :
    environment.overrideFields (earlier ++ field :: later) settings =
      ((environment.overrideFields earlier settings).1,
        .error ⟨field, text⟩) := by
  induction earlier generalizing settings with
  | nil =>
      simp only [List.nil_append, overrideFields, given]
      cases decoded : Decoding.ofText field.kind text with
      | error cause => rfl
      | ok value => exact (fails value decoded).elim
  | cons head rest ih =>
      obtain ⟨first, rested⟩ := decodesAmong_cons_iff.mp decodes
      rw [List.cons_append, overrideFields, overrideFields]
      cases present : environment.text? head with
      | none => exact ih rested
      | some spelled =>
          obtain ⟨value, decoded⟩ := first spelled present
          simp only [decoded, ih rested]
          rfl

theorem FirstFailure.overrideFields
    (failure : environment.FirstFailure fields earlier field text)
    (settings : Settings) :
    environment.overrideFields fields settings =
      ((environment.overrideFields earlier settings).1,
        .error ⟨field, text⟩) := by
  obtain ⟨later, rfl⟩ := failure.position
  rw [List.append_assoc]
  exact overrideFields_append_cons failure.decodes failure.given failure.fails

theorem FirstFailure.notMem
    (failure : environment.FirstFailure fields earlier field text) :
    field ∉ earlier := by
  intro member
  obtain ⟨value, decoded⟩ :=
    failure.decodes field member text failure.given
  exact failure.fails value decoded

end Environment

namespace Configuration

variable {environment : Environment} {earlier : List Field} {field : Field}
  {text : String}

theorem applyEnvironment_of_failure (configuration : Configuration)
    (failure : environment.FirstFailure Field.all earlier field text) :
    configuration.applyEnvironment environment =
      { configuration :=
          { configuration with
            settings :=
              (environment.overrideFields earlier configuration.settings).1 }
        records := []
        result := .error ⟨field, text⟩ } := by
  simp only [applyEnvironment, failure.overrideFields]

/-- Overriding fails exactly if some variable is no value of its setting, and
then with the first of them.  The settings declared before that one have the
values of their variables, with the usual effect on the texts beside numbers;
nothing else changes, and there is no validation. -/
theorem applyEnvironment_stops (configuration : Configuration)
    (environment : Environment) :
    (¬ environment.Decodes ↔ ∃ earlier field text,
      environment.FirstFailure Field.all earlier field text) ∧
    ∀ earlier field text,
      environment.FirstFailure Field.all earlier field text →
      let outcome := configuration.applyEnvironment environment
      let after := outcome.configuration
      outcome.result = .error ⟨field, text⟩ ∧
      environment.EffectAmong earlier configuration.settings after.settings ∧
      after.settings.get field = configuration.settings.get field ∧
      after.derived = configuration.derived ∧
      after.autoClean = configuration.autoClean ∧
      outcome.records = [] ∧
      configuration.override environment =
        { outcome with result := .error (.coercion ⟨field, text⟩) } := by
  constructor
  · rw [← Environment.decodesAmong_all_iff]
    exact Environment.not_decodesAmong_iff
  · intro earlier field text failure
    have effect :=
      Environment.effectAmong failure.decodes configuration.settings
    simp only [override, configuration.applyEnvironment_of_failure failure,
      true_and, and_true]
    refine ⟨effect, ?_⟩
    apply effect.kept
    · exact fun member => (failure.notMem member).elim
    · -- Its own variable is given, so it is no text that a number empties.
      intro _ _ _ _
      rw [failure.given]
      rfl

/-- Two lifetimes are given, of which the second one is no number, with a
number declared before them and a flag at fault after them. -/
def failingEnvironment : Environment :=
  [("PLIKD_MAX_TTL", "forever"), ("PLIKD_DEFAULT_TTL", "5"),
   ("PLIKD_STREAM", "perhaps"), ("PLIKD_LISTEN_PORT", "9090")]

/-- The text of the first lifetime is emptied although it is declared after the
second one, of which the text is kept. -/
theorem failingEnvironment_stops :
    let before : Settings :=
      { defaultLifetimeText := "30d", maxLifetimeText := "60d" }
    let earlier := Field.all.takeWhile (· != .maxLifetime)
    let outcome := applyEnvironment (ofSettings before) failingEnvironment
    failingEnvironment.FirstFailure Field.all earlier .maxLifetime "forever" ∧
      outcome.result = .error ⟨.maxLifetime, "forever"⟩ ∧
      outcome.configuration.settings.listenPort = 9090 ∧
      outcome.configuration.settings.defaultLifetimeText = "" ∧
      outcome.configuration.settings.maxLifetimeText = "60d" := by
  intro before earlier outcome
  have failure : failingEnvironment.FirstFailure Field.all earlier
      .maxLifetime "forever" :=
    { position := by decide
      decodes := by decide +kernel
      given := rfl
      fails := nofun }
  obtain ⟨stopped, effect, _⟩ :=
    (applyEnvironment_stops (ofSettings before) failingEnvironment).2 _ _ _
      failure
  refine ⟨failure, stopped, ?_, ?_, ?_⟩
  · exact (Except.ok.inj (effect.given .listenPort (by decide) "9090" rfl)).symm
  · exact Json.string.inj (effect.emptied .defaultLifetime (by decide)
      .defaultLifetimeText rfl rfl rfl)
  · exact effect.kept .maxLifetimeText (by decide) (by decide)

end Configuration

end ServerConfig
