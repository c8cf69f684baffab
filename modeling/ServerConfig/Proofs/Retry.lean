import ServerConfig.Proofs.Layering

/-!
# Validating again after a failure

A validation that fails has settled some settings before, so a repetition
starts from other settings.  The rules do not notice, but for one case: of a
URL for downloads that consists of solidi nothing is left, and an empty text
means that there is no such URL.  `readingAfter` says what the rules read off
the settings when they are applied again.  Main statement: the same failure is
reported again exactly if no URL for downloads is lost, and a loss turns it
into a success.
-/

namespace ServerConfig

namespace Settings

variable {settings : Settings}

/-- Where solidi at the end are all there is of the URL for downloads, there is
none once it is settled. -/
theorem reading_settleDownload_of_lost
    (lost : settings.reading.download = some "") :
    settings.settleDownload.reading =
      { settings.reading with download := none } := by
  have gone : settings.settleDownload.reading.download = none := by
    simp only [reading] at lost ⊢
    split at lost
    · cases lost
    · exact if_pos (Option.some.inj lost)
  have same : ({ settings.reading with
      download := settings.settleDownload.reading.download } : Reading) =
        { settings.reading with download := none } := by rw [gone]
  exact same

end Settings

namespace Validation

/-! ## What the rules read again -/

/-- The URL for downloads is at fault, and nothing is left of it. -/
def Failure.losesDownload : Failure → Bool
  | .violation cause =>
      match cause.field, cause.value with
      | .downloadDomain, .string text => text.isEmpty
      | _, _ => false
  | .numeral _ => false

theorem Failure.losesDownload_violation_iff {cause : Violation} :
    (Failure.violation cause).losesDownload = true ↔
      cause.field = .downloadDomain ∧ cause.value = .string "" := by
  simp only [losesDownload]
  split
  · rename_i text field value
    simp [field, value]
  · rename_i other
    simp only [Bool.false_eq_true, false_iff]
    rintro ⟨field, value⟩
    exact other "" field value

/-- What the rules read off the settings that a rule leaves, when it has passed
or failed. -/
def readingAfter (reading : Reading) (failure? : Option Failure) : Reading :=
  if failure?.any Failure.losesDownload then { reading with download := none }
  else reading

/-- The settings that a rule leaves are read as `readingAfter` says. -/
def Rereads (rule : Rule) : Prop :=
  ∀ draft, (rule draft).1.settings.reading =
    readingAfter draft.settings.reading (rule draft).2

theorem fileSizeRule_rereads : Rereads fileSizeRule := by
  intro draft
  rw [fileSizeRule_eq]
  split
  · rename_i inEffect
    exact Settings.reading_put_maxFileSize inEffect
  · rfl

theorem defaultLifetimeRule_rereads : Rereads defaultLifetimeRule := by
  intro draft
  rw [defaultLifetimeRule_eq]
  split
  · rename_i inEffect
    exact Settings.reading_put_defaultLifetime inEffect
  · rfl

theorem maxLifetimeRule_rereads : Rereads maxLifetimeRule := by
  intro draft
  rw [maxLifetimeRule_eq]
  split
  · rename_i inEffect
    exact Settings.reading_put_maxLifetime inEffect
  · rfl

theorem lifetimeBoundsRule_rereads : Rereads lifetimeBoundsRule := by
  intro draft
  unfold lifetimeBoundsRule
  dsimp only
  split
  · split <;> rfl
  · rfl

theorem whitelistRule_rereads : Rereads whitelistRule := by
  intro draft
  unfold whitelistRule
  split <;> rfl

theorem pathRule_rereads : Rereads pathRule := by
  intro draft
  rw [pathRule_eq]
  split <;> exact Settings.reading_settlePath

theorem serverRule_rereads : Rereads serverRule := by
  intro draft
  unfold serverRule
  split <;> rfl

theorem downloadRule_rereads : Rereads downloadRule := by
  intro draft
  rw [downloadRule_eq]
  by_cases lost : draft.settings.reading.download = some ""
  · have unread : Url.parseAbsolute "" = .error .missingScheme := rfl
    simp only [lost, unread]
    exact Settings.reading_settleDownload_of_lost lost
  · have kept := Settings.reading_settleDownload lost
    split
    · exact kept
    · rename_i text named
      split
      · rename_i cause unread
        have left : text ≠ "" := by
          rintro rfl
          exact lost named
        have other : ¬ (Failure.violation
            (.downloadDomain text cause)).losesDownload = true := by
          rw [Failure.losesDownload_violation_iff]
          rintro ⟨_, same⟩
          exact left (Json.string.inj same)
        exact kept.trans (if_neg other).symm
      · exact kept

theorem authenticationRule_rereads : Rereads authenticationRule := by
  intro draft
  rw [authenticationRule_eq]
  split <;> rfl

theorem debugRule_rereads : Rereads debugRule := by
  intro draft
  unfold debugRule
  split <;> rfl

private theorem applyRules_rereads {rules : List Rule}
    (rereads : ∀ rule ∈ rules, Rereads rule) : Rereads (applyRules rules) := by
  induction rules with
  | nil =>
      intro draft
      rfl
  | cons rule rest ih =>
      intro draft
      have first := rereads rule List.mem_cons_self draft
      have later := ih fun rule member =>
        rereads rule (List.mem_cons_of_mem _ member)
      rw [applyRules]
      rcases outcome : rule draft with ⟨next, _ | failure⟩
      · rw [outcome] at first
        rw [later next, show next.settings.reading = draft.settings.reading
          from first]
      · rw [outcome] at first
        exact first

/-- All rules together, one by one. -/
theorem rules_reread : Rereads (applyRules rules) := by
  apply applyRules_rereads
  simp only [rules, List.forall_mem_cons, List.not_mem_nil, false_imp_iff,
    implies_true, and_true]
  exact ⟨fileSizeRule_rereads, defaultLifetimeRule_rereads,
    maxLifetimeRule_rereads, lifetimeBoundsRule_rereads,
    whitelistRule_rereads, pathRule_rereads, serverRule_rereads,
    downloadRule_rereads, authenticationRule_rereads, debugRule_rereads⟩

section Failed

variable {configuration : Configuration} {failure : Failure}

theorem reading_of_validate_error
    (failed : (validate configuration).result = .error failure) :
    (validate configuration).configuration.settings.reading =
      readingAfter configuration.settings.reading (some failure) := by
  have reread := rules_reread { settings := configuration.settings }
  unfold validate at failed ⊢
  split at failed
  · rename_i draft cause outcome
    cases failed
    rw [outcome] at reread
    simpa only [outcome] using reread
  · cases failed

/-- Where a URL for downloads is not lost, the same setting is at fault
again. -/
theorem firstBreach_again {field : Field} {value : Json}
    (failed : (validate configuration).result = .error failure)
    (left : failure.losesDownload = false)
    (first : FirstBreach configuration.settings.reading ruleOrder field
      value) :
    FirstBreach (validate configuration).configuration.settings.reading
      ruleOrder field value := by
  have kept : readingAfter configuration.settings.reading (some failure) =
      configuration.settings.reading := if_neg (by simp [left])
  rw [reading_of_validate_error failed, kept]
  exact first

theorem reading_of_lost
    (failed : (validate configuration).result = .error failure)
    (lost : failure.losesDownload = true) :
    (validate configuration).configuration.settings.reading =
      { configuration.settings.reading with download := none } := by
  rw [reading_of_validate_error failed]
  exact if_pos lost

end Failed

/-! ### What is still broken -/

section Broken

variable {reading : Reading} {before after : List Field} {field : Field}
  {value : Json}

/-- Without a URL for downloads no other rule is broken than before. -/
theorem Breaks.of_no_download
    (broken : Breaks { reading with download := none } field value) :
    field ≠ .downloadDomain ∧ Breaks reading field value := by
  cases broken with
  | fileSize malformed => exact ⟨by decide, .fileSize malformed⟩
  | defaultLifetimeText malformed =>
      exact ⟨by decide, .defaultLifetimeText malformed⟩
  | maxLifetimeText malformed => exact ⟨by decide, .maxLifetimeText malformed⟩
  | lifetimeBounds default greatest nonnegative exceeded =>
      exact ⟨by decide, .lifetimeBounds default greatest nonnegative exceeded⟩
  | whitelist found => exact ⟨by decide, .whitelist found⟩
  | path nonempty unrooted => exact ⟨by decide, .path nonempty unrooted⟩
  | listenPort outside => exact ⟨by decide, .listenPort outside⟩
  | listenAddress nonnegative bounded failed =>
      exact ⟨by decide, .listenAddress nonnegative bounded failed⟩
  | downloadDomain named unread => cases named
  | anonymousUploads refused without =>
      exact ⟨by decide, .anonymousUploads refused without⟩

theorem validate_ok_iff_not_breaks {configuration : Configuration} :
    (validate configuration).result = .ok () ↔
      ∀ field value, ¬ Breaks configuration.settings.reading field value := by
  refine ⟨not_breaks_of_validate_ok, fun unbroken => ?_⟩
  cases outcome : (validate configuration).result with
  | ok done => rfl
  | error failure =>
      obtain ⟨field, value, first, _⟩ := firstBreach_of_validate_error outcome
      exact (unbroken field value first.breaks).elim

/-- The rules before the first breach are not broken. -/
theorem FirstBreach.not_breaks_before
    (first : FirstBreach reading (before ++ field :: after) field value)
    (later : field ∉ before) {other : Field} (member : other ∈ before)
    (found : Json) : ¬ Breaks reading other found := by
  induction before with
  | nil => cases member
  | cons head rest ih =>
      rw [List.mem_cons, not_or] at later
      cases first with
      | here broken => exact (later.1 rfl).elim
      | there unbroken rested =>
          rcases List.mem_cons.mp member with rfl | inside
          · exact unbroken found
          · exact ih rested later.2 inside

/-- Once the URL for downloads is lost, at most the last rule is broken. -/
theorem FirstBreach.no_download_iff
    (first : FirstBreach reading ruleOrder .downloadDomain value) :
    (∀ field found,
        ¬ Breaks { reading with download := none } field found) ↔
      (reading.noAnonymousUploads = true → reading.authentication = true) := by
  constructor
  · intro unbroken refused
    by_contra without
    exact unbroken _ _ (.anonymousUploads refused (by simpa using without))
  · intro allowed field found broken
    obtain ⟨other, broken⟩ := broken.of_no_download
    have member := broken.mem_ruleOrder
    have split : ruleOrder = ruleOrder.take 8 ++
        .downloadDomain :: [.noAnonymousUploads] := rfl
    rw [split] at first member
    rcases List.mem_append.mp member with early | late
    · exact first.not_breaks_before (by decide) early found broken
    · rcases List.mem_cons.mp late with same | last
      · exact other same
      · rw [List.mem_singleton.mp last] at broken
        cases broken with
        | anonymousUploads refused without => simp [allowed refused] at without

end Broken

/-- The URL for downloads is the first setting at fault, and nothing but solidi
is in it. -/
def LosesDownload (settings : Settings) : Prop :=
  FirstBreach settings.reading ruleOrder .downloadDomain (.string "")

section Retry

variable {configuration : Configuration} {cause : Violation}

theorem losesDownload_iff
    (refused : (validate configuration).result = .error (.violation cause)) :
    (Failure.violation cause).losesDownload = true ↔
      LosesDownload configuration.settings := by
  obtain ⟨field, value, first, reports⟩ :=
    firstBreach_of_validate_error refused
  obtain ⟨rfl, rfl, _⟩ := reports.of_violation
  rw [Failure.losesDownload_violation_iff]
  constructor
  · rintro ⟨field, value⟩
    rw [field, value] at first
    exact first
  · intro lost
    exact first.unique lost

/-- What is reported without a loss is reported again. -/
theorem reported_again
    (refused : (validate configuration).result = .error (.violation cause))
    (left : ¬ LosesDownload configuration.settings) :
    ∃ again,
      (validate (validate configuration).configuration).result =
          .error (.violation again) ∧
        again.field = cause.field ∧ again.value = cause.value := by
  obtain ⟨field, value, first, reports⟩ :=
    firstBreach_of_validate_error refused
  obtain ⟨rfl, rfl, reportable⟩ := reports.of_violation
  rw [← losesDownload_iff refused, Bool.not_eq_true] at left
  obtain ⟨failure, repeated, reported⟩ :=
    (firstBreach_again refused left first).validate_error
  cases failure with
  | violation again =>
      obtain ⟨field, value, _⟩ := reported.of_violation
      exact ⟨again, repeated, field, value⟩
  | numeral _ => exact (reportable reported.of_numeral.2).elim

theorem reading_of_losesDownload
    (lost : LosesDownload configuration.settings) :
    (validate configuration).configuration.settings.reading =
      { configuration.settings.reading with download := none } := by
  obtain ⟨failure, refused, reports⟩ := lost.validate_error
  apply reading_of_lost refused
  cases failure with
  | violation cause => exact (losesDownload_iff refused).mpr lost
  | numeral _ => cases reports.of_numeral.2.1

/-- A URL for downloads that is lost is not reported again. -/
theorem not_reported_again (lost : LosesDownload configuration.settings)
    {again : Violation}
    (repeated : (validate (validate configuration).configuration).result =
      .error (.violation again)) : again.field ≠ .downloadDomain := by
  obtain ⟨field, value, first, reports⟩ :=
    firstBreach_of_validate_error repeated
  have broken := first.breaks
  rw [reading_of_losesDownload lost] at broken
  rw [reports.of_violation.1]
  exact broken.of_no_download.1

private theorem accepted_again_iff (lost : LosesDownload configuration.settings) :
    (validate (validate configuration).configuration).result = .ok () ↔
      (configuration.settings.noAnonymousUploads = true →
        configuration.settings.authentication = true) := by
  rw [validate_ok_iff_not_breaks, reading_of_losesDownload lost]
  exact FirstBreach.no_download_iff lost

end Retry

/-- A validation that is repeated after a violation reports the same setting and
value again, unless a URL for downloads is lost.  In that case the repetition
succeeds, provided that the last rule holds. -/
theorem retry_reports_iff {configuration : Configuration} {cause : Violation}
    (refused : (validate configuration).result = .error (.violation cause)) :
    ((∃ again,
        (validate (validate configuration).configuration).result =
            .error (.violation again) ∧
          again.field = cause.field ∧ again.value = cause.value) ↔
      ¬ LosesDownload configuration.settings) ∧
    (LosesDownload configuration.settings →
      ((validate (validate configuration).configuration).result = .ok () ↔
        (configuration.settings.noAnonymousUploads = true →
          configuration.settings.authentication = true))) := by
  refine ⟨⟨?_, reported_again refused⟩, accepted_again_iff⟩
  rintro ⟨again, repeated, field, _⟩ lost
  obtain ⟨named, _⟩ := Failure.losesDownload_violation_iff.mp
    ((losesDownload_iff refused).mpr lost)
  exact not_reported_again lost repeated (field.trans named)

/-- A path is reported again without its last solidus, before a URL for
downloads can be lost. -/
theorem unrooted_path_reported_again :
    ∃ cause,
      (validate (.ofSettings
        { path := "root/"
          downloadDomain := "/" })).result = .error (.violation cause) ∧
        ∃ again,
          (validate (validate (.ofSettings
            { path := "root/"
              downloadDomain := "/" })).configuration).result =
              .error (.violation again) ∧
            again.field = cause.field ∧ again.value = cause.value := by
  have refused : (validate (.ofSettings
      { path := "root/"
        downloadDomain := "/" })).result =
      .error (.violation (.path "root")) := by
    decide +kernel
  have left := (losesDownload_iff refused).not.mp (by decide)
  exact ⟨_, refused, (retry_reports_iff refused).1.mpr left⟩

/-- A URL for downloads of one solidus is refused at first and accepted
then. -/
theorem lone_solidus_accepted_again :
    (validate (validate (.ofSettings
        { downloadDomain := "/" })).configuration).result = .ok () ∧
      ¬ ∀ (configuration : Configuration) (cause : Violation),
        (validate configuration).result = .error (.violation cause) →
          ∃ again,
            (validate (validate configuration).configuration).result =
                .error (.violation again) ∧
              again.field = cause.field ∧ again.value = cause.value := by
  have refused : (validate (.ofSettings { downloadDomain := "/" })).result =
      .error (.violation (.downloadDomain "" .missingScheme)) := by
    decide +kernel
  have accepted : (validate (validate (.ofSettings
      { downloadDomain := "/" })).configuration).result = .ok () := by
    decide +kernel
  refine ⟨accepted, fun repeats => ?_⟩
  obtain ⟨again, repeated, _⟩ := repeats _ _ refused
  rw [accepted] at repeated
  cases repeated

end Validation

end ServerConfig
