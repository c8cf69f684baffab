import Mathlib.Data.List.Forall2
import ServerConfig.Proofs.Consistency
import ServerConfig.Proofs.FieldNames
import ServerConfig.Proofs.Layering

/-!
# Effective values of settings

Entries can hold a value for a setting under its key and under its name; the
one under the key counts.  Decoding looks at the values that count and at
nothing else, so it is the same for entries that differ in hidden values, in
unknown names or in their order.  Main statement: loading such entries ends in
the same way, and a setting without a value has its default unless validation
derives it from other settings.
-/

namespace ServerConfig

/-- The value that entries have for a setting: the one under its key or, where
there is none, the one under its name. -/
def Entries.effective? (entries : Entries Datum) (field : Field) :
    Option Datum :=
  (entries.lookup field.key).or (entries.lookup field.name)

/-- Entries may hold a setting under this name. -/
def Field.IsCalled (field : Field) (name : String) : Prop :=
  name = field.key ∨ name = field.name

/-- The same fault of the same setting, which may be called by its key in one
place and by its name in the other. -/
inductive Fault.SameSetting : Fault → Fault → Prop where
  | under {field : Field} {name other : String} (fault : Fault) :
      field.IsCalled name → field.IsCalled other →
      SameSetting (fault.under (.name name)) (fault.under (.name other))

/-! ## Decoding -/

namespace Decoding

variable {entries other : Entries Datum} {initial settings : Settings}
  {field : Field} {fields : List Field} {faults : List Fault}

/-- The name under which entries hold the value that counts. -/
def effectiveName (entries : Entries Datum) (field : Field) : String :=
  if (entries.lookup field.key).isSome then field.key else field.name

theorem isCalled_effectiveName (entries : Entries Datum) (field : Field) :
    field.IsCalled (effectiveName entries field) := by
  unfold effectiveName
  split
  · exact .inl rfl
  · exact .inr rfl

theorem entry?_eq (entries : Entries Datum) (field : Field) :
    entry? entries field = (entries.effective? field).map fun datum =>
      (effectiveName entries field, datum) := by
  unfold entry? Entries.effective? effectiveName
  cases entries.lookup field.key <;> rfl

/-- The value of a setting is the one that counts, decoded, or the initial one
where entries have none. -/
def Holds (entries : Entries Datum) (initial : Settings) (field : Field)
    (v : field.kind.Carrier) : Prop :=
  match entries.effective? field with
  | none => v = initial.get field
  | some datum => value field.kind datum = .ok v

/-- The value that counts for a setting is none of its kind. -/
def Refuses (entries : Entries Datum) (field : Field) : Prop :=
  ∃ datum faults, entries.effective? field = some datum ∧
    value field.kind datum = .error faults

/-- The faults of the value that counts for a setting. -/
def faultsOf (entries : Entries Datum) (field : Field) : List Fault :=
  match entries.effective? field with
  | none => []
  | some datum =>
      match value field.kind datum with
      | .ok _ => []
      | .error faults =>
          faults.map (Fault.under (.name (effectiveName entries field)))

theorem holds_or_refuses (entries : Entries Datum) (initial : Settings)
    (field : Field) :
    (∃ v, Holds entries initial field v) ∨ Refuses entries field := by
  unfold Holds Refuses
  cases entries.effective? field with
  | none => exact .inl ⟨_, rfl⟩
  | some datum =>
      cases decoded : value field.kind datum with
      | ok v => exact .inl ⟨v, decoded⟩
      | error faults => exact .inr ⟨datum, faults, rfl, decoded⟩

theorem Holds.unique {v w : field.kind.Carrier}
    (holds : Holds entries initial field v)
    (again : Holds entries initial field w) : v = w := by
  unfold Holds at holds again
  cases counted : entries.effective? field with
  | none =>
      rw [counted] at holds again
      exact holds.trans again.symm
  | some datum =>
      rw [counted] at holds again
      exact Except.ok.inj (holds.symm.trans again)

theorem Holds.not_refuses {v : field.kind.Carrier}
    (holds : Holds entries initial field v) : ¬ Refuses entries field := by
  rintro ⟨datum, faults, counted, refused⟩
  rw [Holds, counted] at holds
  cases holds.symm.trans refused

theorem Holds.faultsOf_eq_nil {v : field.kind.Carrier}
    (holds : Holds entries initial field v) : faultsOf entries field = [] := by
  unfold Holds at holds
  unfold faultsOf
  cases counted : entries.effective? field with
  | none => rfl
  | some datum =>
      rw [counted] at holds
      simp only [holds]

/-- Only the initial value of the setting itself matters. -/
theorem holds_congr {before : Settings} {v : field.kind.Carrier}
    (same : before.get field = initial.get field) :
    Holds entries before field v ↔ Holds entries initial field v := by
  rw [Holds, Holds, same]

/-! One setting is decoded at a time: its value is taken over, or its faults
come before those of the settings that follow. -/

theorem settingsOf_cons_of_holds {v : field.kind.Carrier}
    (holds : Holds entries initial field v) :
    settingsOf entries initial (field :: fields) =
      settingsOf entries (initial.put field v) fields := by
  rw [settingsOf, entry?_eq]
  unfold Holds at holds
  cases counted : entries.effective? field with
  | none =>
      rw [counted] at holds
      rw [holds, Settings.put_get]
      rfl
  | some datum =>
      rw [counted] at holds
      simp only [Option.map_some, holds, under, Except.mapError]

theorem settingsOf_cons_of_refuses (refuses : Refuses entries field) :
    settingsOf entries initial (field :: fields) =
      match settingsOf entries initial fields with
      | .ok _ => .error (faultsOf entries field)
      | .error later => .error (faultsOf entries field ++ later) := by
  obtain ⟨datum, faults, counted, refused⟩ := refuses
  rw [settingsOf, entry?_eq, faultsOf, counted]
  cases settingsOf entries initial fields <;>
    simp [refused, under, Except.mapError]

/-- Settings with the values of some fields, and with the other fields as they
are. -/
structure TakesOver (entries : Entries Datum) (initial : Settings)
    (fields : List Field) (settings : Settings) : Prop where
  held : ∀ field ∈ fields, Holds entries initial field (settings.get field)
  kept : ∀ field ∉ fields, settings.get field = initial.get field

theorem takesOver_nil :
    TakesOver entries initial [] settings ↔ settings = initial := by
  constructor
  · intro taken
    exact Settings.ext_get fun field => taken.kept field List.not_mem_nil
  · rintro rfl
    exact ⟨fun _ member => absurd member List.not_mem_nil, fun _ _ => rfl⟩

theorem takesOver_cons {v : field.kind.Carrier} (fresh : field ∉ fields)
    (holds : Holds entries initial field v) :
    TakesOver entries initial (field :: fields) settings ↔
      TakesOver entries (initial.put field v) fields settings := by
  have other {later : Field} (different : later ≠ field) :
      (initial.put field v).get later = initial.get later :=
    initial.get_put_of_ne different v
  constructor
  · intro taken
    have own : settings.get field = v :=
      (taken.held field List.mem_cons_self).unique holds
    constructor
    · intro later member
      have different := ne_of_mem_of_not_mem member fresh
      exact (holds_congr (other different)).mpr
        (taken.held later (List.mem_cons_of_mem _ member))
    · intro later absent
      by_cases same : later = field
      · subst same
        exact own.trans (initial.get_put_self later v).symm
      · have outside : later ∉ field :: fields := by
          rw [List.mem_cons, not_or]
          exact ⟨same, absent⟩
        exact (taken.kept later outside).trans (other same).symm
  · intro taken
    have own : settings.get field = v :=
      (taken.kept field fresh).trans (initial.get_put_self field v)
    constructor
    · intro later member
      rcases List.mem_cons.mp member with rfl | member
      · rwa [own]
      · have different := ne_of_mem_of_not_mem member fresh
        exact (holds_congr (other different)).mp (taken.held later member)
    · intro later absent
      rw [List.mem_cons, not_or] at absent
      exact (taken.kept later absent.2).trans (other absent.1)

/-- Settings are decoded exactly if each of them holds its value; the others
stay as they are. -/
theorem settingsOf_eq_ok_iff (distinct : fields.Nodup) :
    settingsOf entries initial fields = .ok settings ↔
      TakesOver entries initial fields settings := by
  -- The values taken over so far are the initial ones of the next setting.
  induction fields generalizing initial with
  | nil =>
      rw [settingsOf, Except.ok.injEq, takesOver_nil]
      exact eq_comm
  | cons field rest ih =>
      obtain ⟨fresh, distinct⟩ := List.nodup_cons.mp distinct
      rcases holds_or_refuses entries initial field with
        ⟨v, holds⟩ | refuses
      · rw [settingsOf_cons_of_holds holds, ih distinct,
          takesOver_cons fresh holds]
      · constructor
        · rw [settingsOf_cons_of_refuses refuses]
          intro decoded
          cases later : settingsOf entries initial rest <;>
            simp [later] at decoded
        · intro taken
          exact absurd refuses (taken.held field List.mem_cons_self).not_refuses

/-- Where decoding fails, the faults of every setting are reported, in
order. -/
theorem faults_of_settingsOf (distinct : fields.Nodup)
    (failed : settingsOf entries initial fields = .error faults) :
    faults = fields.flatMap (faultsOf entries) := by
  induction fields generalizing initial faults with
  | nil => cases failed
  | cons field rest ih =>
      obtain ⟨_, distinct⟩ := List.nodup_cons.mp distinct
      rw [List.flatMap_cons]
      rcases holds_or_refuses entries initial field with
        ⟨v, holds⟩ | refuses
      · rw [settingsOf_cons_of_holds holds] at failed
        rw [holds.faultsOf_eq_nil, List.nil_append]
        exact ih distinct failed
      · rw [settingsOf_cons_of_refuses refuses] at failed
        cases decoded : settingsOf entries initial rest with
        | ok settings =>
            have none : rest.flatMap (faultsOf entries) = [] := by
              rw [List.flatMap_eq_nil_iff]
              intro later member
              have taken := (settingsOf_eq_ok_iff distinct).mp decoded
              exact (taken.held later member).faultsOf_eq_nil
            rw [decoded] at failed
            rw [none, List.append_nil]
            exact (Except.error.inj failed).symm
        | error later =>
            rw [decoded] at failed
            rw [← ih distinct decoded]
            exact (Except.error.inj failed).symm

/-- The settings that entries decode to: each has the value that counts for it,
or its default. -/
theorem settings_eq_ok_iff :
    Decoding.settings entries = .ok settings ↔
      ∀ field, Holds entries Settings.defaults field (settings.get field) := by
  rw [Decoding.settings, settingsOf_eq_ok_iff Field.nodup_all]
  constructor
  · intro taken field
    exact taken.held field field.mem_all
  · intro holds
    exact ⟨fun field _ => holds field,
      fun field absent => absurd field.mem_all absent⟩

/-! ## Entries with the same effective values -/

section Agreement

variable (agree : ∀ field, entries.effective? field = other.effective? field)
include agree

theorem settings_eq_ok_congr :
    Decoding.settings entries = .ok settings ↔
      Decoding.settings other = .ok settings := by
  rw [settings_eq_ok_iff, settings_eq_ok_iff]
  refine forall_congr' fun field => ?_
  rw [Holds, Holds, agree field]

theorem faultsOf_sameSetting (field : Field) :
    List.Forall₂ Fault.SameSetting (faultsOf entries field)
      (faultsOf other field) := by
  unfold faultsOf
  rw [agree field]
  cases other.effective? field with
  | none => exact .nil
  | some datum =>
      dsimp only
      cases value field.kind datum with
      | ok v => exact .nil
      | error faults =>
          rw [List.forall₂_map_left_iff, List.forall₂_map_right_iff,
            List.forall₂_same]
          intro fault _
          exact .under fault (isCalled_effectiveName entries field)
            (isCalled_effectiveName other field)

/-- Decoding fails for both, and for the same faults. -/
theorem settings_error_sameSetting
    (failed : Decoding.settings entries = .error faults) :
    ∃ faultsToo, Decoding.settings other = .error faultsToo ∧
      List.Forall₂ Fault.SameSetting faults faultsToo := by
  cases decoded : Decoding.settings other with
  | ok settings =>
      rw [← settings_eq_ok_congr agree, failed] at decoded
      cases decoded
  | error faultsToo =>
      refine ⟨faultsToo, rfl, ?_⟩
      rw [faults_of_settingsOf Field.nodup_all failed,
        faults_of_settingsOf Field.nodup_all decoded]
      have same : List.Forall₂ Eq Field.all Field.all := List.forall₂_refl _
      refine List.rel_flatMap same ?_
      rintro field _ rfl
      exact faultsOf_sameSetting agree field

end Agreement

end Decoding

/-! ## Defaults -/

/-- A successful validation derives a setting from others: a limit from its
text, a provider of authentication from its credentials, and debugging from the
level of logging. -/
def Field.DerivedIn (settings : Settings) : Field → Prop
  | .maxFileSize => settings.maxFileSizeText ≠ ""
  | .defaultLifetime => settings.defaultLifetimeText ≠ ""
  | .maxLifetime => settings.maxLifetimeText ≠ ""
  | .googleAuthentication => True
  | .ovhAuthentication => True
  | .debug => settings.logsDebugging = true
  | _ => False

namespace Validation

variable {settings : Settings} {found : Findings} {field : Field}

/-- A number stays if, once settled, no text overrules it. -/
theorem settle_get_of_no_settled_text
    (accepts : Accepts settings.reading found) (number : Field) {text : Field}
    (form : Environment.textFormOf number = some text)
    (absent : (settle settings found).toJson text = .string "") :
    (settle settings found).get number = settings.get number := by
  have outside : text ∉ settledFields := by
    cases number <;> cases form <;> decide
  rw [Settings.toJson, get_settle_of_notMem outside] at absent
  exact accepts.get_settle_of_no_text form absent

/-- A default that is accepted stays, unless the setting is derived from
others. -/
theorem settle_get_of_default (accepts : Accepts settings.reading found)
    (unset : settings.get field = Settings.defaults.get field)
    (underived : ¬ field.DerivedIn (settle settings found)) :
    (settle settings found).get field = Settings.defaults.get field := by
  by_cases settled : field ∈ settledFields
  · simp only [settledFields, List.mem_cons, List.not_mem_nil, or_false]
      at settled
    -- The limits, the path, the URL for downloads, authentication, debugging.
    rcases settled with
      rfl | rfl | rfl | rfl | rfl | rfl | rfl | rfl
    · have absent := congrArg Json.string (not_not.mp underived)
      exact (settle_get_of_no_settled_text accepts .maxFileSize rfl
        absent).trans unset
    · have absent := congrArg Json.string (not_not.mp underived)
      exact (settle_get_of_no_settled_text accepts .defaultLifetime rfl
        absent).trans unset
    · have absent := congrArg Json.string (not_not.mp underived)
      exact (settle_get_of_no_settled_text accepts .maxLifetime rfl
        absent).trans unset
    -- The defaults have no solidus that could be dropped.
    · have empty : settings.path = "" := unset
      have stripped := settle_path settings found
      rwa [empty, Text.dropTrailingSlashes_empty] at stripped
    · have empty : settings.downloadDomain = "" := unset
      have stripped := settle_downloadDomain settings found
      rwa [empty, Text.dropTrailingSlashes_empty] at stripped
    · exact (underived trivial).elim
    · exact (underived trivial).elim
    · have off : settings.debug = false := unset
      have quiet : settings.logsDebugging = false := by
        have level : (settle settings found).logsDebugging =
            settings.logsDebugging := by
          rw [Settings.logsDebugging, settle_logLevel, Settings.logsDebugging]
        rw [← level]
        exact Bool.eq_false_iff.mpr underived
      have debug := settle_debug settings found
      rwa [off, quiet] at debug
  · exact (get_settle_of_notMem settled).trans unset

end Validation

/-! ## Loading -/

namespace Configuration

open Validation (validate validate_ok_iff settledFields get_settle_of_notMem
  settle_get_of_default)

variable {source : String} {entries other : Entries Datum}
  {loaded : Configuration}

/-- Two loads from a source end in the same way: with one configuration, with
one failure of its validation, or with the same faults of the same settings. -/
inductive SameEnd (source : String) :
    Except AssemblyError Configuration →
      Except AssemblyError Configuration → Prop where
  | loaded (configuration : Configuration) :
      SameEnd source (.ok configuration) (.ok configuration)
  | invalid (failure : Validation.Failure) :
      SameEnd source (.error (.ofFailure failure)) (.error (.ofFailure failure))
  | undecodable {faults faultsToo : List Fault} :
      List.Forall₂ Fault.SameSetting faults faultsToo →
      SameEnd source (.error (.undecodable source (.values faults)))
        (.error (.undecodable source (.values faultsToo)))

theorem ofEntries_sameEnd (source : String)
    (agree : ∀ field, entries.effective? field = other.effective? field) :
    SameEnd source (ofEntries source entries).2 (ofEntries source other).2 := by
  cases decoded : Decoding.settings entries with
  | error faults =>
      obtain ⟨faultsToo, failed, same⟩ :=
        Decoding.settings_error_sameSetting agree decoded
      rw [ofEntries_of_error decoded, ofEntries_of_error failed]
      exact .undecodable same
  | ok settings =>
      have decodedToo := (Decoding.settings_eq_ok_congr agree).mp decoded
      rw [ofEntries_of_ok decoded, ofEntries_of_ok decodedToo]
      cases (validate (ofSettings settings)).result with
      | error failure => exact .invalid failure
      | ok done => exact .loaded _

/-- A loaded configuration has the values that count, where a validation does
not settle them, and defaults, where it does not derive the settings. -/
theorem get_of_ofEntries (success : (ofEntries source entries).2 = .ok loaded)
    (field : Field) :
    (∀ datum, entries.effective? field = some datum → field ∉ settledFields →
        Decoding.value field.kind datum = .ok (loaded.settings.get field)) ∧
      (entries.effective? field = none → ¬ field.DerivedIn loaded.settings →
        loaded.settings.get field = Settings.defaults.get field) := by
  obtain ⟨settings, decoded, valid, rfl⟩ := exists_validated_of_ofEntries success
  obtain ⟨found, accepts⟩ := validate_ok_iff.mp valid
  have holds := Decoding.settings_eq_ok_iff.mp decoded field
  rw [accepts.validate_eq]
  unfold Decoding.Holds at holds
  constructor
  · intro datum counted outside
    rw [counted] at holds
    exact holds.trans (congrArg Except.ok (get_settle_of_notMem outside).symm)
  · intro absent underived
    rw [absent] at holds
    exact settle_get_of_default accepts holds underived

/-- Loading depends on the values that count and on nothing else: entries with
the same ones end in the same way, whatever other names they have, whatever
the key of a setting hides, and in any order.  A loaded configuration has those
values, and defaults for settings that have none. -/
theorem loading_depends_on_effective_values (source : String)
    (agree : ∀ field, entries.effective? field = other.effective? field) :
    SameEnd source (ofEntries source entries).2 (ofEntries source other).2 ∧
      ∀ loaded, (ofEntries source entries).2 = .ok loaded → ∀ field,
        (∀ datum, entries.effective? field = some datum →
          field ∉ settledFields →
            Decoding.value field.kind datum =
              .ok (loaded.settings.get field)) ∧
        (entries.effective? field = none →
          ¬ field.DerivedIn loaded.settings →
            loaded.settings.get field = Settings.defaults.get field) :=
  ⟨ofEntries_sameEnd source agree,
    fun _ success field => get_of_ofEntries success field⟩

/-- A port under its key hides one that is no number, and there is a name that
no setting has. -/
def crowdedEntries : Entries Datum :=
  [("listen_port", .string "none"), ("ListenPort", .integer 9000),
   ("Colour", .string "blue"), ("Path", .string "/files/")]

/-- The same values, for which the names of the settings are used. -/
def tidyEntries : Entries Datum :=
  [("path", .string "/files/"), ("listen_port", .integer 9000)]

theorem crowdedEntries_loaded :
    (∀ field, crowdedEntries.effective? field = tidyEntries.effective? field) ∧
      ∃ loaded,
        (ofEntries "plikd.cfg" crowdedEntries).2 = .ok loaded ∧
          (ofEntries "plikd.cfg" tidyEntries).2 = .ok loaded ∧
          loaded.settings.listenPort = 9000 ∧
          loaded.settings.logLevel = "INFO" := by
  have agree (field : Field) :
      crowdedEntries.effective? field = tidyEntries.effective? field := by
    cases field <;> rfl
  obtain ⟨same, values⟩ :=
    loading_depends_on_effective_values "plikd.cfg" agree
  have succeeds : (ofEntries "plikd.cfg" crowdedEntries).2.isOk = true := by
    decide +kernel
  cases success : (ofEntries "plikd.cfg" crowdedEntries).2 with
  | error cause =>
      rw [success] at succeeds
      cases succeeds
  | ok loaded =>
      have port := (values loaded success .listenPort).1 _ rfl (by decide)
      have level := (values loaded success .logLevel).2 rfl id
      refine ⟨agree, loaded, rfl, ?_, (Except.ok.inj port).symm, level⟩
      rw [success] at same
      generalize (ofEntries "plikd.cfg" tidyEntries).2 = result at same ⊢
      cases same
      rfl

end Configuration

end ServerConfig
