import ServerConfig.Proofs.Acceptance
import ServerConfig.Proofs.Compilation
import ServerConfig.Proofs.SizeText

/-!
# The first breach

Validation stops at the first rule that is broken.  `Validation.Breaks` says
for each setting at fault, from the reading of the settings alone, when its
rule is broken and which value is at fault; `FirstBreach` picks the first such
setting in the order of the rules.  The rules themselves work on a draft that
earlier rules have already changed.  `Guards` is what carries over from a rule
to those after it: passing a rule leaves the reading as it was.  A failure is
raised as a violation unless the reading is `BeyondLimits`.
-/

namespace ServerConfig

namespace Numeral

/-- The least number that is too long to be written. -/
def writeLimit : Nat := Nat.pow 10 digitLimit

theorem length_ofNat_le_iff {n : Nat} :
    (ofNat n).length ≤ digitLimit ↔ n < writeLimit := by
  unfold writeLimit
  have positive : 0 < digitLimit := by decide
  -- The power of the limit is not to be computed.
  generalize digitLimit = limit at positive ⊢
  exact Nat.length_toDigits_le_iff (by decide) positive

theorem write_of_lt {n : Int} (small : n.natAbs < writeLimit) :
    write n = .ok (String.ofList (ofInt n)) := by
  rw [write, if_pos (length_ofNat_le_iff.mpr small)]

theorem write_of_le {n : Int} (great : writeLimit ≤ n.natAbs) :
    write n = .error .unwritable := by
  rw [write, if_neg]
  rw [length_ofNat_le_iff]
  exact Nat.not_lt.mpr great

end Numeral

/-- The greatest file size that cannot be read is reported as it is written. -/
theorem Settings.text_of_size_error {settings : Settings}
    {cause : ByteSize.Error}
    (malformed : settings.reading.size = .error cause) :
    cause.text = settings.reading.sizeText := by
  simp only [reading, sizeInEffect] at malformed ⊢
  split at malformed
  · cases malformed
  · cases read : ByteSize.parse settings.maxFileSizeText with
    | ok bytes =>
        rw [read] at malformed
        cases malformed
    | error other =>
        rw [read] at malformed
        cases malformed
        exact ByteSize.text_of_parse_error read

namespace Validation

/-- The rule for a setting is broken, and this value is at fault. -/
inductive Breaks (reading : Reading) : Field → Json → Prop where
  | fileSize {cause : ByteSize.Error} :
      reading.size = .error cause →
      Breaks reading .maxFileSizeText (.string reading.sizeText)
  | defaultLifetimeText {cause : Lifetime.Error} :
      reading.default = .error cause →
      Breaks reading .defaultLifetimeText (.string reading.defaultText)
  | maxLifetimeText {cause : Lifetime.Error} :
      reading.greatest = .error cause →
      Breaks reading .maxLifetimeText (.string reading.greatestText)
  | lifetimeBounds {default greatest : Int} :
      reading.default = .ok default →
      reading.greatest = .ok greatest →
      0 ≤ greatest → greatest < default →
      Breaks reading .defaultLifetime (.integer default)
  | whitelist {entry : String} :
      reading.uploadWhitelist.find? (!Whitelist.isEntry ·) = some entry →
      Breaks reading .uploadWhitelist (.string entry)
  | path :
      reading.path ≠ "" → reading.path.toList.head? ≠ some '/' →
      Breaks reading .path (.string reading.path)
  | listenPort :
      ¬ (0 ≤ reading.listenPort ∧ reading.listenPort ≤ 65535) →
      Breaks reading .listenPort (.integer reading.listenPort)
  | listenAddress {cause : Url.ServerError} :
      0 ≤ reading.listenPort → reading.listenPort ≤ 65535 →
      reading.serverUrl = .error cause →
      Breaks reading .listenAddress (.string reading.listenAddress)
  | downloadDomain {text : String} {cause : Url.Error} :
      reading.download = some text →
      Url.parseAbsolute text = .error cause →
      Breaks reading .downloadDomain (.string text)
  | anonymousUploads :
      reading.noAnonymousUploads = true → reading.authentication = false →
      Breaks reading .noAnonymousUploads (.bool true)

/-- The settings that can be at fault, in the order of their rules. -/
def ruleOrder : List Field :=
  [.maxFileSizeText, .defaultLifetimeText, .maxLifetimeText, .defaultLifetime,
   .uploadWhitelist, .path, .listenPort, .listenAddress, .downloadDomain,
   .noAnonymousUploads]

/-- The first of some settings whose rule is broken: the rules for the settings
before it are not. -/
inductive FirstBreach (reading : Reading) :
    List Field → Field → Json → Prop where
  | here {field : Field} {rest : List Field} {value : Json} :
      Breaks reading field value →
      FirstBreach reading (field :: rest) field value
  | there {head field : Field} {rest : List Field} {value : Json} :
      (∀ other, ¬ Breaks reading head other) →
      FirstBreach reading rest field value →
      FirstBreach reading (head :: rest) field value

/-- A value at fault that is too long to be written.  Only the message about
the lifetimes writes the value as a number. -/
def Unreportable (field : Field) (value : Json) : Prop :=
  field = .defaultLifetime ∧
    ∃ default : Int, value = .integer default ∧
      (Numeral.writeLimit : Int) ≤ default

/-- The default lifetime exceeds the greatest one, and is too long to be
written. -/
def Overlong (reading : Reading) : Prop :=
  (∃ size, reading.size = .ok size) ∧
    ∃ default greatest : Int, reading.default = .ok default ∧
      reading.greatest = .ok greatest ∧ 0 ≤ greatest ∧ greatest < default ∧
      (Numeral.writeLimit : Int) ≤ default

/-- The size is infinite where that escapes, or the lifetimes are overlong. -/
def BeyondLimits (treatment : ByteSize.Treatment) (reading : Reading) : Prop :=
  (treatment = .escapes ∧
      ∃ text, reading.size = .error (.infinite text)) ∨
    Overlong reading

/-- A failure is the report of a setting at fault and a value. -/
inductive Failure.Reports : Failure → Field → Json → Prop where
  | violation {cause : Violation} :
      ¬ Unreportable cause.field cause.value →
      Reports (.violation cause) cause.field cause.value
  | unwritable {field : Field} {value : Json} :
      Unreportable field value →
      Reports (.numeral .unwritable) field value

theorem Failure.Reports.of_violation {cause : Violation} {field : Field}
    {value : Json} (reports : Failure.Reports (.violation cause) field value) :
    cause.field = field ∧ cause.value = value ∧ ¬ Unreportable field value := by
  cases reports with
  | violation reportable => exact ⟨rfl, rfl, reportable⟩

theorem Failure.Reports.of_numeral {cause : Numeral.Error} {field : Field}
    {value : Json} (reports : Failure.Reports (.numeral cause) field value) :
    cause = .unwritable ∧ Unreportable field value := by
  cases reports with
  | unwritable unreportable => exact ⟨rfl, unreportable⟩

/-- No setting is at fault twice with different values. -/
theorem Breaks.value_unique {reading : Reading} {field : Field}
    {value other : Json} (breaks : Breaks reading field value)
    (again : Breaks reading field other) : value = other := by
  cases breaks <;> cases again <;> simp_all

namespace FirstBreach

variable {reading : Reading} {fields rest : List Field} {field : Field}
  {value : Json}

theorem breaks (first : FirstBreach reading fields field value) :
    Breaks reading field value := by
  induction first with
  | here broken => exact broken
  | there _ _ ih => exact ih

/-- There is at most one first breach. -/
theorem unique {other : Field} {found : Json}
    (first : FirstBreach reading fields field value)
    (again : FirstBreach reading fields other found) :
    field = other ∧ value = found := by
  induction first with
  | here broken =>
      cases again with
      | here same => exact ⟨rfl, broken.value_unique same⟩
      | there unbroken _ => exact (unbroken _ broken).elim
  | there unbroken _ ih =>
      cases again with
      | here broken => exact (unbroken _ broken).elim
      | there _ later => exact ih later

theorem append_left (first : FirstBreach reading fields field value) :
    FirstBreach reading (fields ++ rest) field value := by
  induction first with
  | here broken => exact .here broken
  | there unbroken _ ih => exact .there unbroken ih

theorem append_right
    (unbroken : ∀ other ∈ fields, ∀ found, ¬ Breaks reading other found)
    (first : FirstBreach reading rest field value) :
    FirstBreach reading (fields ++ rest) field value := by
  induction fields with
  | nil => exact first
  | cons head tail ih =>
      refine .there (unbroken head List.mem_cons_self) (ih ?_)
      exact fun other member => unbroken other (List.mem_cons_of_mem _ member)

end FirstBreach

/-! ## What each rule guards -/

/-- A rule guards some settings: when it passes, none of them is at fault and
the reading is unchanged, and when it stops, it reports the first at fault. -/
structure Guards (rule : Rule) (fields : List Field) : Prop where
  unbroken : ∀ {draft next : Draft}, rule draft = (next, none) →
    ∀ field ∈ fields, ∀ value, ¬ Breaks draft.settings.reading field value
  kept : ∀ {draft next : Draft}, rule draft = (next, none) →
    next.settings.reading = draft.settings.reading
  reports : ∀ {draft final : Draft} {failure : Failure},
    rule draft = (final, some failure) →
    ∃ field value, FirstBreach draft.settings.reading fields field value ∧
      failure.Reports field value

/-- A violation of any other setting than a lifetime in seconds can be
reported. -/
theorem Failure.reports_violation {cause : Violation}
    (other : cause.field ≠ .defaultLifetime) :
    Failure.Reports (.violation cause) cause.field cause.value :=
  .violation fun unreportable => other unreportable.1

theorem fileSizeRule_guards : Guards fileSizeRule [.maxFileSizeText] where
  unbroken := by
    intro draft next passed field member value broken
    obtain ⟨bytes, inEffect, _⟩ := fileSizeRule_passes.mp passed
    rw [List.mem_singleton.mp member] at broken
    cases broken with
    | fileSize malformed => simp [malformed] at inEffect
  kept := by
    intro draft next passed
    obtain ⟨bytes, inEffect, rfl⟩ := fileSizeRule_passes.mp passed
    exact Settings.reading_put_maxFileSize inEffect
  reports := by
    intro draft final failure stopped
    rw [fileSizeRule_eq] at stopped
    split at stopped
    · cases stopped
    · rename_i cause malformed
      cases stopped
      refine ⟨_, _, .here (.fileSize malformed), ?_⟩
      rw [← Settings.text_of_size_error malformed]
      exact Failure.reports_violation (by simp [Violation.field])

theorem whitelistRule_guards : Guards whitelistRule [.uploadWhitelist] where
  unbroken := by
    intro draft next passed field member value broken
    obtain ⟨networks, compiled, _⟩ := whitelistRule_passes.mp passed
    rw [List.mem_singleton.mp member] at broken
    cases broken with
    | whitelist found =>
        simp [Whitelist.find?_of_compile_ok compiled] at found
  kept := by
    intro draft next passed
    obtain ⟨networks, _, rfl⟩ := whitelistRule_passes.mp passed
    rfl
  reports := by
    intro draft final failure stopped
    unfold whitelistRule at stopped
    split at stopped
    · rename_i cause malformed
      cases stopped
      obtain ⟨culprit, entry, found⟩ :=
        Whitelist.find?_of_compile_error malformed
      have value : (Violation.whitelist cause).value = .string culprit := by
        simp [Violation.value, entry]
      refine ⟨_, _, .here (.whitelist found), ?_⟩
      rw [← value]
      exact Failure.reports_violation (by simp [Violation.field])
    · cases stopped

theorem pathRule_guards : Guards pathRule [.path] where
  unbroken := by
    intro draft next passed field member value broken
    obtain ⟨rooted, _⟩ := pathRule_passes.mp passed
    rw [List.mem_singleton.mp member] at broken
    cases broken with
    | path nonempty unrooted => exact rooted.elim nonempty unrooted
  kept := by
    intro draft next passed
    obtain ⟨_, rfl⟩ := pathRule_passes.mp passed
    exact Settings.reading_settlePath
  reports := by
    intro draft final failure stopped
    rw [pathRule_eq] at stopped
    split at stopped
    · cases stopped
    · rename_i unrooted
      simp only [Bool.or_eq_true, String.isEmpty_iff, decide_eq_true_eq,
        not_or] at unrooted
      cases stopped
      exact ⟨_, _, .here (.path unrooted.1 unrooted.2),
        Failure.reports_violation (by simp [Violation.field])⟩

/-- A URL of the server that does not compose is the fault of the port if that
is out of range, and else of the address. -/
theorem serverRule_guards :
    Guards serverRule [.listenPort, .listenAddress] where
  unbroken := by
    intro draft next passed field member value broken
    obtain ⟨url, composed, _⟩ := serverRule_passes.mp passed
    have inside := Url.isPort_iff.mp (Url.isPort_of_ofServer_ok composed)
    cases broken <;> simp only [List.mem_cons, reduceCtorEq,
      List.not_mem_nil, or_self] at member
    · rename_i outside
      exact outside inside
    · rename_i failed
      simp [failed] at composed
  kept := by
    intro draft next passed
    obtain ⟨url, _, rfl⟩ := serverRule_passes.mp passed
    rfl
  reports := by
    intro draft final failure stopped
    by_cases inside : Url.isPort draft.settings.listenPort = true
    · have range := Url.isPort_iff.mp inside
      have unbroken : ∀ value,
          ¬ Breaks draft.settings.reading .listenPort value := by
        intro value broken
        cases broken with
        | listenPort outside => exact outside range
      unfold serverRule at stopped
      split at stopped
      · cases stopped
      · rename_i failed
        exact (Url.ofServer_ne_portOutOfRange inside failed).elim
      · rename_i failed
        cases stopped
        exact ⟨_, _,
          .there unbroken (.here (.listenAddress range.1 range.2 failed)),
          Failure.reports_violation (by simp [Violation.field])⟩
    · have failed : draft.settings.serverUrl = .error _ :=
        Url.ofServer_of_not_isPort (Bool.not_eq_true _ ▸ inside)
      rw [Url.isPort_iff] at inside
      simp only [serverRule, failed] at stopped
      cases stopped
      exact ⟨_, _, .here (.listenPort inside),
        Failure.reports_violation (by simp [Violation.field])⟩

theorem downloadRule_guards : Guards downloadRule [.downloadDomain] where
  unbroken := by
    intro draft next passed field member value broken
    obtain ⟨downloadUrl, download, _⟩ := downloadRule_passes.mp passed
    rw [List.mem_singleton.mp member] at broken
    cases broken with
    | downloadDomain named unread =>
        cases downloadUrl <;> simp [Downloads, named, unread] at download
  kept := by
    intro draft next passed
    obtain ⟨downloadUrl, download, rfl⟩ := downloadRule_passes.mp passed
    exact Settings.reading_settleDownload download.ne_empty
  reports := by
    intro draft final failure stopped
    rw [downloadRule_eq] at stopped
    split at stopped
    · cases stopped
    · rename_i text named
      split at stopped
      · rename_i cause unread
        cases stopped
        exact ⟨_, _, .here (.downloadDomain named unread),
          Failure.reports_violation (by simp [Violation.field])⟩
      · cases stopped

theorem authenticationRule_guards :
    Guards authenticationRule [.noAnonymousUploads] where
  unbroken := by
    intro draft next passed field member value broken
    obtain ⟨allowed, _⟩ := authenticationRule_passes.mp passed
    rw [List.mem_singleton.mp member] at broken
    cases broken with
    | anonymousUploads refused without => simp [allowed refused] at without
  kept := by
    intro draft next passed
    obtain ⟨_, rfl⟩ := authenticationRule_passes.mp passed
    exact Settings.reading_settleProviders
  reports := by
    intro draft final failure stopped
    rw [authenticationRule_eq] at stopped
    split at stopped
    · rename_i refused
      simp only [Bool.and_eq_true, Bool.not_eq_true'] at refused
      cases stopped
      exact ⟨_, _, .here (.anonymousUploads refused.1 refused.2),
        Failure.reports_violation (by simp [Violation.field])⟩
    · cases stopped

theorem debugRule_guards : Guards debugRule [] where
  unbroken := by
    intro draft next passed field member
    cases member
  kept := by
    intro draft next passed
    rw [debugRule_passes.mp passed]
    exact Settings.reading_settleDebugging
  reports := by
    intro draft final failure stopped
    unfold debugRule at stopped
    split at stopped <;> cases stopped

/-! ## Rules in order -/

theorem applyRules_append (before after : List Rule) (draft : Draft) :
    applyRules (before ++ after) draft =
      match applyRules before draft with
      | (next, some failure) => (next, some failure)
      | (next, none) => applyRules after next := by
  induction before generalizing draft with
  | nil => rfl
  | cons rule rest ih =>
      rw [List.cons_append, applyRules, applyRules]
      rcases outcome : rule draft with ⟨next, _ | failure⟩
      · exact ih next
      · rfl

/-- Rules in order guard what they guard one by one, in the same order. -/
theorem Guards.append {before after : List Rule} {fields others : List Field}
    (guards : Guards (applyRules before) fields)
    (later : Guards (applyRules after) others) :
    Guards (applyRules (before ++ after)) (fields ++ others) where
  unbroken := by
    intro draft next passed field member value broken
    rw [applyRules_append] at passed
    rcases outcome : applyRules before draft with ⟨middle, _ | failure⟩
    · rw [outcome] at passed
      rcases List.mem_append.mp member with early | late
      · exact guards.unbroken outcome field early value broken
      · rw [← guards.kept outcome] at broken
        exact later.unbroken passed field late value broken
    · simp [outcome] at passed
  kept := by
    intro draft next passed
    rw [applyRules_append] at passed
    rcases outcome : applyRules before draft with ⟨middle, _ | failure⟩
    · rw [outcome] at passed
      rw [later.kept passed, guards.kept outcome]
    · simp [outcome] at passed
  reports := by
    intro draft final failure stopped
    rw [applyRules_append] at stopped
    rcases outcome : applyRules before draft with ⟨middle, _ | early⟩
    · rw [outcome] at stopped
      obtain ⟨field, value, first, reports⟩ := later.reports stopped
      rw [guards.kept outcome] at first
      exact ⟨field, value, first.append_right (guards.unbroken outcome),
        reports⟩
    · rw [outcome] at stopped
      cases stopped
      obtain ⟨field, value, first, reports⟩ := guards.reports outcome
      exact ⟨field, value, first.append_left, reports⟩

theorem applyRules_singleton (rule : Rule) : applyRules [rule] = rule := by
  funext draft
  rcases outcome : rule draft with ⟨next, _ | failure⟩ <;>
    simp [applyRules, outcome, Draft.pass]

theorem Guards.single {rule : Rule} {fields : List Field}
    (guards : Guards rule fields) : Guards (applyRules [rule]) fields := by
  rwa [applyRules_singleton]

/-- The three rules for lifetimes.  The last of them compares the lifetimes
that the others have settled. -/
def lifetimeRules : List Rule :=
  [defaultLifetimeRule, maxLifetimeRule, lifetimeBoundsRule]

theorem lifetimeBoundsRule_stops {draft final : Draft} {failure : Failure}
    (stopped : lifetimeBoundsRule draft = (final, some failure)) :
    0 ≤ draft.settings.maxLifetime ∧
      draft.settings.maxLifetime < draft.settings.defaultLifetime ∧
      failure.Reports .defaultLifetime
        (.integer draft.settings.defaultLifetime) := by
  unfold lifetimeBoundsRule at stopped
  dsimp only at stopped
  split at stopped
  · rename_i exceeded
    simp only [Bool.and_eq_true, decide_eq_true_eq] at exceeded
    refine ⟨exceeded.1, exceeded.2, ?_⟩
    by_cases small : draft.settings.defaultLifetime.natAbs <
        Numeral.writeLimit
    · have smaller : draft.settings.maxLifetime.natAbs <
          Numeral.writeLimit := by omega
      rw [Numeral.write_of_lt small, Numeral.write_of_lt smaller] at stopped
      cases stopped
      apply @Failure.Reports.violation (.lifetimeBounds _ _)
      rintro ⟨_, default, same, long⟩
      simp only [Violation.value, Json.integer.injEq] at same
      omega
    · rw [Numeral.write_of_le (Nat.not_lt.mp small)] at stopped
      cases stopped
      refine .unwritable ⟨rfl, _, rfl, ?_⟩
      omega
  · cases stopped

/-- Lifetimes in seconds are compared as the texts settle them. -/
theorem lifetimeRules_pass {draft next : Draft}
    (passed : applyRules lifetimeRules draft = (next, none)) :
    ∃ default greatest, draft.settings.reading.default = .ok default ∧
      draft.settings.reading.greatest = .ok greatest ∧
      (greatest < 0 ∨ default ≤ greatest) ∧
      next.settings.reading = draft.settings.reading := by
  simp only [lifetimeRules, applyRules_cons_passes, applyRules_nil_passes,
    defaultLifetimeRule_passes, maxLifetimeRule_passes,
    lifetimeBoundsRule_passes] at passed
  obtain ⟨_, ⟨default, defaultFound, rfl⟩, _, ⟨greatest, greatestFound, rfl⟩,
    _, ⟨bounds, rfl⟩, rfl⟩ := passed
  simp only [Draft.modify_settings] at greatestFound ⊢
  have defaultKept := Settings.reading_put_defaultLifetime defaultFound
  have greatestKept := Settings.reading_put_maxLifetime greatestFound
  rw [defaultKept] at greatestKept greatestFound
  exact ⟨default, greatest, defaultFound, greatestFound, bounds, greatestKept⟩

/-- The first of the texts and the bounds that is at fault is reported. -/
theorem lifetimeRules_stop {draft final : Draft} {failure : Failure}
    (stopped : applyRules lifetimeRules draft = (final, some failure)) :
    ∃ field value, FirstBreach draft.settings.reading
        [.defaultLifetimeText, .maxLifetimeText, .defaultLifetime]
        field value ∧
      failure.Reports field value := by
  cases defaultFound : draft.settings.reading.default with
  | error cause =>
      simp only [lifetimeRules, applyRules, defaultLifetimeRule_eq,
        defaultFound, Draft.stop] at stopped
      cases stopped
      exact ⟨_, _, .here (.defaultLifetimeText defaultFound),
        Failure.reports_violation (by simp [Violation.field])⟩
  | ok default =>
      have readable : ∀ value,
          ¬ Breaks draft.settings.reading .defaultLifetimeText value := by
        intro value broken
        cases broken with
        | defaultLifetimeText malformed => simp [malformed] at defaultFound
      have defaultKept := Settings.reading_put_defaultLifetime defaultFound
      cases greatestFound : draft.settings.reading.greatest with
      | error cause =>
          simp only [lifetimeRules, applyRules, defaultLifetimeRule_eq,
            maxLifetimeRule_eq, defaultFound, Draft.pass, Draft.stop,
            Draft.modify_settings, defaultKept, greatestFound] at stopped
          cases stopped
          exact ⟨_, _, .there readable (.here (.maxLifetimeText greatestFound)),
            Failure.reports_violation (by simp [Violation.field])⟩
      | ok greatest =>
          have bothReadable : ∀ value,
              ¬ Breaks draft.settings.reading .maxLifetimeText value := by
            intro value broken
            cases broken with
            | maxLifetimeText malformed => simp [malformed] at greatestFound
          have settled : applyRules [lifetimeBoundsRule]
              ((draft.modify (·.put .defaultLifetime default)).modify
                (·.put .maxLifetime greatest)) = (final, some failure) := by
            simpa only [lifetimeRules, applyRules, defaultLifetimeRule_eq,
              maxLifetimeRule_eq, defaultFound, Draft.pass,
              Draft.modify_settings, defaultKept, greatestFound] using stopped
          rw [applyRules_singleton] at settled
          obtain ⟨nonnegative, exceeded, reports⟩ :=
            lifetimeBoundsRule_stops settled
          exact ⟨_, _, .there readable (.there bothReadable (.here
            (.lifetimeBounds defaultFound greatestFound nonnegative exceeded))),
            reports⟩

private theorem lifetimeRules_guards :
    Guards (applyRules lifetimeRules)
      [.defaultLifetimeText, .maxLifetimeText, .defaultLifetime] where
  unbroken := by
    intro draft next passed field member value broken
    obtain ⟨default, greatest, defaultFound, greatestFound, bounds, _⟩ :=
      lifetimeRules_pass passed
    cases broken <;> simp only [List.mem_cons, reduceCtorEq,
      List.not_mem_nil, or_self] at member
    · rename_i malformed
      simp [malformed] at defaultFound
    · rename_i malformed
      simp [malformed] at greatestFound
    · rename_i long short sameDefault sameGreatest nonnegative exceeded
      rw [sameDefault, Except.ok.injEq] at defaultFound
      rw [sameGreatest, Except.ok.injEq] at greatestFound
      omega
  kept := by
    intro draft next passed
    obtain ⟨_, _, _, _, _, kept⟩ := lifetimeRules_pass passed
    exact kept
  reports := lifetimeRules_stop

/-- All rules together guard all settings that can be at fault. -/
theorem rules_guard : Guards (applyRules rules) ruleOrder :=
  fileSizeRule_guards.single.append <| lifetimeRules_guards.append <|
    whitelistRule_guards.single.append <| pathRule_guards.single.append <|
    serverRule_guards.single.append <| downloadRule_guards.single.append <|
    authenticationRule_guards.single.append debugRule_guards.single

/-! ## Whole validations -/

theorem Breaks.mem_ruleOrder {reading : Reading} {field : Field}
    {value : Json} (broken : Breaks reading field value) :
    field ∈ ruleOrder := by
  cases broken <;> simp [ruleOrder]

section Validations

variable {configuration : Configuration}

/-- After a successful validation no rule is broken. -/
theorem not_breaks_of_validate_ok
    (valid : (validate configuration).result = .ok ()) (field : Field)
    (value : Json) : ¬ Breaks configuration.settings.reading field value := by
  intro broken
  unfold validate at valid
  split at valid
  · cases valid
  · rename_i draft passed
    exact rules_guard.unbroken passed field broken.mem_ruleOrder value broken

/-- A failure of validation reports the first breach. -/
theorem firstBreach_of_validate_error {failure : Failure}
    (failed : (validate configuration).result = .error failure) :
    ∃ field value,
      FirstBreach configuration.settings.reading ruleOrder field value ∧
        failure.Reports field value := by
  unfold validate at failed
  split at failed
  · rename_i draft cause stopped
    cases failed
    exact rules_guard.reports stopped
  · cases failed

/-- A first breach makes validation fail, and is reported. -/
theorem FirstBreach.validate_error {field : Field} {value : Json}
    (first : FirstBreach configuration.settings.reading ruleOrder field value) :
    ∃ failure, (validate configuration).result = .error failure ∧
      failure.Reports field value := by
  cases outcome : (validate configuration).result with
  | ok done => exact (not_breaks_of_validate_ok outcome _ _ first.breaks).elim
  | error failure =>
      obtain ⟨other, found, again, reports⟩ :=
        firstBreach_of_validate_error outcome
      obtain ⟨rfl, rfl⟩ := first.unique again
      exact ⟨failure, rfl, reports⟩

/-! ## Limits -/

/-- Overlong lifetimes are a first breach that cannot be reported. -/
theorem overlong_iff_firstBreach {reading : Reading} :
    Overlong reading ↔
      ∃ field value, FirstBreach reading ruleOrder field value ∧
        Unreportable field value := by
  constructor
  · rintro ⟨⟨size, sized⟩, default, greatest, defaultFound, greatestFound,
      nonnegative, exceeded, long⟩
    refine ⟨.defaultLifetime, .integer default, .there ?_ <| .there ?_ <|
      .there ?_ <| .here ?_, rfl, default, rfl, long⟩
    · intro value broken
      cases broken with
      | fileSize malformed => simp [sized] at malformed
    · intro value broken
      cases broken with
      | defaultLifetimeText malformed => simp [defaultFound] at malformed
    · intro value broken
      cases broken with
      | maxLifetimeText malformed => simp [greatestFound] at malformed
    · exact .lifetimeBounds defaultFound greatestFound nonnegative exceeded
  · rintro ⟨_, value, first, rfl, long, rfl, great⟩
    have broken := first.breaks
    cases first with
    | there readable later =>
        cases sized : reading.size with
        | error cause => exact (readable _ (.fileSize sized)).elim
        | ok size =>
            cases broken with
            | lifetimeBounds defaultFound greatestFound nonnegative exceeded =>
                exact ⟨⟨size, sized⟩, _, _, defaultFound, greatestFound,
                  nonnegative, exceeded, great⟩

/-- Validation fails without naming a setting exactly for overlong
lifetimes. -/
theorem validate_numeral_iff :
    (∃ cause, (validate configuration).result = .error (.numeral cause)) ↔
      Overlong configuration.settings.reading := by
  rw [overlong_iff_firstBreach]
  constructor
  · rintro ⟨cause, failed⟩
    obtain ⟨field, value, first, reports⟩ :=
      firstBreach_of_validate_error failed
    exact ⟨field, value, first, reports.of_numeral.2⟩
  · rintro ⟨field, value, first, unreportable⟩
    obtain ⟨failure, failed, reports⟩ := first.validate_error
    cases failure with
    | violation cause => exact (reports.of_violation.2.2 unreportable).elim
    | numeral cause => exact ⟨cause, failed⟩

/-- The rule for the file size is the first one. -/
theorem validate_fileSize_iff {cause : ByteSize.Error} :
    (validate configuration).result = .error (.violation (.fileSize cause)) ↔
      configuration.settings.reading.size = .error cause := by
  have stops {cause : ByteSize.Error}
      (size : configuration.settings.reading.size = .error cause) :
      (validate configuration).result =
        .error (.violation (.fileSize cause)) := by
    simp [validate, rules, applyRules, fileSizeRule_eq, size, Draft.stop]
  refine ⟨fun failed => ?_, stops⟩
  cases size : configuration.settings.reading.size with
  | ok bytes =>
      obtain ⟨field, value, first, reports⟩ :=
        firstBreach_of_validate_error failed
      obtain ⟨rfl, _⟩ := reports.of_violation
      cases first.breaks with
      | fileSize malformed => simp [size] at malformed
  | error other =>
      rw [stops size] at failed
      cases failed
      rfl

private theorem Failure.isExpected_eq_false_iff {treatment : ByteSize.Treatment}
    {failure : Failure} :
    failure.isExpected treatment = false ↔
      (treatment = .escapes ∧
          ∃ text, failure = .violation (.fileSize (.infinite text))) ∨
        ∃ cause, failure = .numeral cause := by
  cases failure with
  | numeral cause => simp [isExpected]
  | violation cause =>
      rcases cause with (_ | _) | _ <;> cases treatment <;>
        simp [isExpected, Violation.isExpected, ByteSize.Error.isExpected]

/-- A failure is no report of a violation exactly beyond the limits. -/
theorem unexpected_failure_iff {failure : Failure}
    (failed : (validate configuration).result = .error failure)
    (treatment : ByteSize.Treatment) :
    failure.isExpected treatment = false ↔
      BeyondLimits treatment configuration.settings.reading := by
  rw [Failure.isExpected_eq_false_iff, BeyondLimits, ← validate_numeral_iff]
  simp only [← validate_fileSize_iff, failed, Except.error.injEq]

theorem BeyondLimits.validate_error {treatment : ByteSize.Treatment}
    (beyond : BeyondLimits treatment configuration.settings.reading) :
    ∃ failure, (validate configuration).result = .error failure := by
  rcases beyond with ⟨_, text, size⟩ | overlong
  · exact ⟨_, validate_fileSize_iff.mpr size⟩
  · obtain ⟨cause, failed⟩ := validate_numeral_iff.mpr overlong
    exact ⟨_, failed⟩

/-- Validation succeeds exactly if no rule is broken.  Otherwise it fails, and
its failure reports the first breach in the order of the rules, whatever other
rules are broken.  It does so as the violation of a rule, unless the breach is
beyond the limits. -/
theorem validate_reports_first_breach (configuration : Configuration) :
    ((validate configuration).result = .ok () ↔
        ∀ field value,
          ¬ Breaks configuration.settings.reading field value) ∧
      (∀ failure, (validate configuration).result = .error failure →
        (∃ field value,
          FirstBreach configuration.settings.reading ruleOrder field value ∧
            failure.Reports field value) ∧
        ∀ treatment, failure.isExpected treatment = true ↔
          ¬ BeyondLimits treatment configuration.settings.reading) ∧
      (∀ field value,
        FirstBreach configuration.settings.reading ruleOrder field value →
          ∃ failure, (validate configuration).result = .error failure ∧
            failure.Reports field value) := by
  refine ⟨⟨not_breaks_of_validate_ok, fun unbroken => ?_⟩,
    fun failure failed =>
      ⟨firstBreach_of_validate_error failed, fun treatment => ?_⟩,
    fun field value => FirstBreach.validate_error⟩
  · cases outcome : (validate configuration).result with
    | ok done => rfl
    | error failure =>
        obtain ⟨field, value, first, _⟩ := firstBreach_of_validate_error outcome
        exact (unbroken field value first.breaks).elim
  · rw [← unexpected_failure_iff failed, Bool.not_eq_false]

/-- Lifetimes out of bounds are reported before a malformed whitelist. -/
theorem lifetimes_reported_before_whitelist :
    ∃ failure,
      (validate (.ofSettings
        { defaultLifetime := 2
          maxLifetime := 1
          uploadWhitelist := ["nowhere"] })).result = .error failure ∧
        failure.Reports .defaultLifetime (.integer 2) := by
  apply (validate_reports_first_breach _).2.2
  refine .there ?_ (.there ?_ (.there ?_ (.here ?_)))
  · intro value broken
    cases broken with
    | fileSize malformed => cases malformed
  · intro value broken
    cases broken with
    | defaultLifetimeText malformed => cases malformed
  · intro value broken
    cases broken with
    | maxLifetimeText malformed => cases malformed
  · exact .lifetimeBounds rfl rfl (by decide) (by decide)

end Validations

end Validation

end ServerConfig
