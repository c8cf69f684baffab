import Mathlib.Data.List.Forall2
import ServerConfig.Proofs.Secrecy.Validation
import ServerConfig.Source

/-!
# Assembling configurations that differ in secrets

Sources and environments look alike if only texts for secrets differ in them.
Such texts are decoded whatever they are, and no other value depends on them,
so settings that look alike come out, or the same error, with the same log
records.
-/

namespace ServerConfig

open Validation

/-- Both results are values that are alike, or both are the same error. -/
inductive ResultsAlike {ε α : Type} (alike : α → α → Prop) :
    Except ε α → Except ε α → Prop where
  | ok {first second : α} :
      alike first second → ResultsAlike alike (.ok first) (.ok second)
  | error (cause : ε) : ResultsAlike alike (.error cause) (.error cause)

/-- Two entries of a source look alike: they are the same, or texts for a
secret of which both or neither are empty. -/
inductive EntryLooksAlike : String × Datum → String × Datum → Prop where
  | same (entry : String × Datum) : EntryLooksAlike entry entry
  | secret {field : Field} {name first second : String} :
      field.isSecret = true →
      name = field.key ∨ name = field.name →
      (first = "" ↔ second = "") →
      EntryLooksAlike (name, .string first) (name, .string second)

/-- Two variables look alike: they are the same, or texts for a secret of which
both or neither are empty. -/
inductive VariableLooksAlike : String × String → String × String → Prop where
  | same (binding : String × String) : VariableLooksAlike binding binding
  | secret {field : Field} {first second : String} :
      field.isSecret = true →
      (first = "" ↔ second = "") →
      VariableLooksAlike (field.variableName, first)
        (field.variableName, second)

def Entries.LooksAlike (entries other : Entries Datum) : Prop :=
  List.Forall₂ EntryLooksAlike entries other

def Environment.LooksAlike (environment other : Environment) : Prop :=
  List.Forall₂ VariableLooksAlike environment other

theorem ResultsAlike.refl {ε α : Type} {alike : α → α → Prop}
    (reflexive : ∀ value, alike value value) (result : Except ε α) :
    ResultsAlike alike result result := by
  cases result with
  | ok value => exact .ok (reflexive value)
  | error cause => exact .error cause

theorem Entries.LooksAlike.refl (entries : Entries Datum) :
    entries.LooksAlike entries :=
  List.forall₂_same.mpr fun entry _ => .same entry

namespace Entries

variable {α : Type} {entries other : Entries α}
  {alike : String × α → String × α → Prop}

theorem names_eq_of_forall₂ (pairs : List.Forall₂ alike entries other)
    (named : ∀ entry second, alike entry second → entry.1 = second.1) :
    entries.names = other.names := by
  induction pairs with
  | nil => rfl
  | cons first _ ih => exact congrArg₂ List.cons (named _ _ first) ih

theorem lookup_rel_of_forall₂ (pairs : List.Forall₂ alike entries other)
    (named : ∀ entry second, alike entry second → entry.1 = second.1)
    (name : String) :
    Option.Rel (fun first second => alike (name, first) (name, second))
      (entries.lookup name) (other.lookup name) := by
  induction pairs with
  | nil => exact .none
  | @cons entry second _ _ first _ ih =>
      obtain ⟨own, value⟩ := entry
      obtain ⟨ownToo, valueToo⟩ := second
      have same : own = ownToo := named _ _ first
      subst same
      rw [lookup_cons, lookup_cons]
      split
      · rename_i found
        subst found
        exact .some first
      · exact ih

end Entries

/-! ## Overriding -/

namespace Environment.LooksAlike

variable {environment other : Environment} {settings before : Settings}

theorem refl (environment : Environment) :
    environment.LooksAlike environment :=
  List.forall₂_same.mpr fun entry _ => .same entry

theorem names (alike : environment.LooksAlike other) :
    Entries.names environment = Entries.names other := by
  refine Entries.names_eq_of_forall₂ alike ?_
  intro entry second first
  cases first <;> rfl

/-- The variable of a setting is missing from both environments, or has the
same text in both, unless the setting is a secret. -/
theorem text? (alike : environment.LooksAlike other) (field : Field) :
    Option.Rel (fun first second => first = second ∨
        field.isSecret = true ∧ (first = "" ↔ second = ""))
      (environment.text? field) (other.text? field) := by
  have found := Entries.lookup_rel_of_forall₂ alike
    (by intro entry second first; cases first <;> rfl) field.variableName
  unfold Environment.text?
  generalize List.lookup field.variableName environment = text at found ⊢
  generalize List.lookup field.variableName other = textToo at found ⊢
  cases found with
  | none => exact .none
  | some values =>
      refine .some ?_
      generalize named : field.variableName = name at values
      cases values with
      | same => exact .inl rfl
      | @secret source _ _ secret empty =>
          rw [Field.variableName_injective field source named]
          exact .inr ⟨secret, empty⟩

theorem isSome_text? (alike : environment.LooksAlike other) (field : Field) :
    (environment.text? field).isSome = (other.text? field).isSome := by
  have texts := alike.text? field
  generalize environment.text? field = text at texts ⊢
  generalize other.text? field = textToo at texts ⊢
  cases texts <;> rfl

theorem releaseTextForm (alike : environment.LooksAlike other)
    (similar : settings.LooksAlike before) (field : Field) :
    (environment.releaseTextForm field settings).LooksAlike
      (other.releaseTextForm field before) := by
  cases field <;> try exact similar
  case maxFileSize =>
    rw [Environment.releaseTextForm, Environment.releaseTextForm,
      alike.isSome_text?]
    split
    · exact similar
    · exact similar.putSame .maxFileSizeText ""
  case defaultLifetime =>
    rw [Environment.releaseTextForm, Environment.releaseTextForm,
      alike.isSome_text?]
    split
    · exact similar
    · exact similar.putSame .defaultLifetimeText ""
  case maxLifetime =>
    rw [Environment.releaseTextForm, Environment.releaseTextForm,
      alike.isSome_text?]
    split
    · exact similar
    · exact similar.putSame .maxLifetimeText ""

end Environment.LooksAlike

/-- Every text is a value of a secret. -/
theorem Decoding.ofText_secret {field : Field} {first second : String}
    (secret : field.isSecret = true) (empty : first = "" ↔ second = "") :
    ∃ value valueToo, Decoding.ofText field.kind first = .ok value ∧
      Decoding.ofText field.kind second = .ok valueToo ∧
      field.LooksAlike value valueToo := by
  have texts : Json.string first = .string "" ↔ Json.string second = .string "" := by
    simpa using empty
  cases field <;> cases secret
  case googleSecret.refl => exact ⟨first, second, rfl, rfl, .inr ⟨rfl, texts⟩⟩
  case ovhSecret.refl => exact ⟨first, second, rfl, rfl, .inr ⟨rfl, texts⟩⟩

namespace Environment.LooksAlike

variable {environment other : Environment} {settings before : Settings}

theorem overrideFields (alike : environment.LooksAlike other)
    (fields : List Field) (similar : settings.LooksAlike before) :
    (environment.overrideFields fields settings).1.LooksAlike
        (other.overrideFields fields before).1 ∧
      (environment.overrideFields fields settings).2 =
        (other.overrideFields fields before).2 := by
  induction fields generalizing settings before with
  | nil => exact ⟨similar, rfl⟩
  | cons field rest ih =>
      have texts := alike.text? field
      rw [Environment.overrideFields, Environment.overrideFields]
      generalize environment.text? field = text at texts ⊢
      generalize other.text? field = textToo at texts ⊢
      have goOn {value valueToo : field.kind.Carrier}
          (values : field.LooksAlike value valueToo) :=
        ih (alike.releaseTextForm (similar.put field values) field)
      cases texts with
      | none => exact ih similar
      | @some first second values =>
          dsimp only
          rcases values with same | ⟨secret, empty⟩
          · subst same
            cases Decoding.ofText field.kind first with
            | error cause => exact ⟨similar, rfl⟩
            | ok value =>
                obtain ⟨later, result⟩ := goOn (.refl field value)
                exact ⟨later, congrArg (Except.map (field :: ·)) result⟩
          · obtain ⟨value, valueToo, decoded, decodedToo, values⟩ :=
              Decoding.ofText_secret secret empty
            obtain ⟨later, result⟩ := goOn values
            rw [decoded, decodedToo]
            exact ⟨later, congrArg (Except.map (field :: ·)) result⟩

theorem overrideRecords (alike : environment.LooksAlike other)
    (overridden : List Field) :
    environment.overrideRecords overridden =
      other.overrideRecords overridden := by
  rw [Environment.overrideRecords, Environment.overrideRecords, strayVariables,
    strayVariables, alike.names]

end Environment.LooksAlike

namespace Configuration.LooksAlike

variable {configuration before : Configuration}
  {environment other : Environment}

theorem applyEnvironment (similar : configuration.LooksAlike before)
    (alike : environment.LooksAlike other) :
    (configuration.applyEnvironment environment).LooksAlike
      (before.applyEnvironment other) := by
  obtain ⟨settings, result⟩ :=
    alike.overrideFields Field.all similar.settings
  constructor
  case configuration =>
    exact ⟨settings, similar.derived, similar.autoClean⟩
  case records =>
    simp only [Configuration.applyEnvironment]
    rw [result]
    split
    · exact alike.overrideRecords _
    · rfl
  case result => exact result

theorem override (similar : configuration.LooksAlike before)
    (alike : environment.LooksAlike other) :
    (configuration.override environment).LooksAlike
      (before.override other) := by
  have applied := similar.applyEnvironment alike
  have validated := applied.configuration.validate
  unfold Configuration.override
  dsimp only
  rw [applied.result]
  split
  · exact ⟨applied.configuration, applied.records, rfl⟩
  · refine ⟨validated.configuration, ?_, ?_⟩
    · exact congrArg₂ _ applied.records validated.records
    · exact congrArg (Except.mapError AssemblyError.ofFailure) validated.result

end Configuration.LooksAlike

/-! ## Loading -/

namespace Decoding

variable {entries other : Entries Datum} {field : Field}

private theorem value_secret {first second : String} (secret : field.isSecret = true)
    (empty : first = "" ↔ second = "") :
    ResultsAlike field.LooksAlike (value field.kind (.string first))
      (value field.kind (.string second)) := by
  have texts : Json.string first = .string "" ↔ Json.string second = .string "" := by
    simpa using empty
  cases field <;> cases secret
  case googleSecret.refl => exact .ok (.inr ⟨rfl, texts⟩)
  case ovhSecret.refl => exact .ok (.inr ⟨rfl, texts⟩)

theorem value_alike {name : String} {first second : Datum}
    (alike : EntryLooksAlike (name, first) (name, second))
    (own : name = field.key ∨ name = field.name) :
    ResultsAlike field.LooksAlike (value field.kind first)
      (value field.kind second) := by
  cases alike with
  | same => exact .refl (.refl field) _
  | @secret source _ _ _ secret named empty =>
      have same : field = source := by
        rcases own with own | own <;> rcases named with named | named
        · exact Field.key_injective _ _ (own.symm.trans named)
        · exact absurd (named.symm.trans own) (source.name_ne_key field)
        · exact absurd (own.symm.trans named) (field.name_ne_key source)
        · exact Field.name_injective _ _ (own.symm.trans named)
      subst same
      exact value_secret secret empty

theorem entry?_alike (alike : entries.LooksAlike other) (field : Field) :
    Option.Rel (fun first second => first.1 = second.1 ∧
        EntryLooksAlike first second ∧
        (first.1 = field.key ∨ first.1 = field.name))
      (Decoding.entry? entries field) (Decoding.entry? other field) := by
  have named (entry second : String × Datum)
      (first : EntryLooksAlike entry second) : entry.1 = second.1 := by
    cases first <;> rfl
  have keyed := Entries.lookup_rel_of_forall₂ alike named field.key
  have called := Entries.lookup_rel_of_forall₂ alike named field.name
  unfold entry?
  generalize entries.lookup field.key = first at keyed ⊢
  generalize other.lookup field.key = second at keyed ⊢
  cases keyed with
  | some values => exact .some ⟨rfl, values, .inl rfl⟩
  | none =>
      dsimp only
      generalize entries.lookup field.name = first at called ⊢
      generalize other.lookup field.name = second at called ⊢
      cases called with
      | none => exact .none
      | some values => exact .some ⟨rfl, values, .inr rfl⟩

theorem settingsOf_alike {settings before : Settings}
    (alike : entries.LooksAlike other) (fields : List Field)
    (similar : settings.LooksAlike before) :
    ResultsAlike Settings.LooksAlike (settingsOf entries settings fields)
      (settingsOf other before fields) := by
  induction fields generalizing settings before with
  | nil => exact .ok similar
  | cons field rest ih =>
      have held := entry?_alike alike field
      rw [settingsOf, settingsOf]
      generalize entry? entries field = first at held ⊢
      generalize entry? other field = second at held ⊢
      cases held with
      | none => exact ih similar
      | @some entry entryToo both =>
          obtain ⟨name, datum⟩ := entry
          obtain ⟨nameToo, datumToo⟩ := entryToo
          obtain ⟨same, values, own⟩ := both
          dsimp only at same
          subst same
          have decoded := value_alike values own
          dsimp only
          generalize value field.kind datum = result at decoded ⊢
          generalize value field.kind datumToo = resultToo at decoded ⊢
          cases decoded with
          | ok found => exact ih (similar.put field found)
          | error faults =>
              have later := ih similar
              dsimp only [under, Except.mapError]
              generalize settingsOf entries settings rest = settled at later ⊢
              generalize settingsOf other before rest = settledToo at later ⊢
              cases later with
              | ok _ => exact .error _
              | error _ => exact .error _

end Decoding

namespace Configuration

variable {entries other : Entries Datum}

/-- What loading gives looks alike: the same log records, and configurations
that look alike or the same error. -/
structure LoadedAlike
    (first second : List Log.Record × Except AssemblyError Configuration) :
    Prop where
  records : first.1 = second.1
  result : ResultsAlike Configuration.LooksAlike first.2 second.2

theorem LoadedAlike.refl
    (loaded : List Log.Record × Except AssemblyError Configuration) :
    LoadedAlike loaded loaded :=
  ⟨rfl, .refl .refl loaded.2⟩

theorem ofEntries_alike (alike : entries.LooksAlike other) (source : String) :
    LoadedAlike (ofEntries source entries) (ofEntries source other) := by
  have names : entries.names = other.names :=
    Entries.names_eq_of_forall₂ alike
      (by intro entry second first; cases first <;> rfl)
  have decoded := Decoding.settingsOf_alike alike Field.all
    (.refl Settings.defaults)
  unfold ofEntries Decoding.settings
  rw [names]
  dsimp only
  generalize Decoding.settingsOf entries Settings.defaults Field.all = first
    at decoded ⊢
  generalize Decoding.settingsOf other Settings.defaults Field.all = second
    at decoded ⊢
  cases decoded with
  | error faults => exact ⟨rfl, .error _⟩
  | @ok settings before similar =>
      have validated := (LooksAlike.ofSettings similar).validate
      dsimp only
      rw [validated.records, validated.result]
      cases (validate (ofSettings before)).result with
      | error failure => exact ⟨rfl, .error _⟩
      | ok done => exact ⟨rfl, .ok validated.configuration⟩

theorem load_alike {read readToo : FilePath → Except Unavailable ByteArray}
    {source sourceToo : Source} (named : source.name = sourceToo.name)
    (alike : ResultsAlike Entries.LooksAlike (source.entries read)
      (sourceToo.entries readToo)) :
    LoadedAlike (load read source) (load readToo sourceToo) := by
  unfold load
  rw [named]
  generalize source.entries read = first at alike ⊢
  generalize sourceToo.entries readToo = second at alike ⊢
  cases alike with
  | error cause => exact ⟨rfl, .error cause⟩
  | ok entries => exact ofEntries_alike entries _

end Configuration

end ServerConfig
