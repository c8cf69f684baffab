import ServerConfig.Environment

/-!
# What an environment decides

Overriding goes through the fields one by one, and overriding a number may
empty the text beside it.  For each setting the outcome is nevertheless one of
two: either the environment decides its value, whatever it was before, or the
value is kept.  Which of the two holds, and whether overriding succeeds, does
not depend on the settings that are overridden.
-/

namespace ServerConfig.Environment

/-- The setting that holds a number as text. -/
def textFormOf : Field → Option Field
  | .maxFileSize => some .maxFileSizeText
  | .defaultLifetime => some .defaultLifetimeText
  | .maxLifetime => some .maxLifetimeText
  | _ => none

/-- Overriding the first setting empties the second one. -/
def Releases (environment : Environment) (field other : Field) : Prop :=
  textFormOf field = some other ∧ environment.text? other = none

/-- Overriding some of the settings decides the value of a setting. -/
def Decides (environment : Environment) (fields : List Field)
    (field : Field) : Prop :=
  ∃ source ∈ fields, (environment.text? source).isSome ∧
    (field = source ∨ environment.Releases source field)

section Release

variable {environment : Environment} {field other : Field}
  {settings : Settings}

/-- Overriding a setting empties at most one text, whatever the settings
are. -/
theorem releaseTextForm_cases (environment : Environment) (field : Field) :
    ((∀ text, ¬ environment.Releases field text) ∧
        ∀ settings, environment.releaseTextForm field settings = settings) ∨
      ∃ (text : Field) (empty : text.kind.Carrier),
        environment.Releases field text ∧
        text.kind.toJson empty = .string "" ∧
        ∀ settings, environment.releaseTextForm field settings =
          settings.put text empty := by
  have kept (form : textFormOf field = none)
      (unchanged : ∀ settings,
        environment.releaseTextForm field settings = settings) :
      (∀ text, ¬ environment.Releases field text) ∧ ∀ settings,
        environment.releaseTextForm field settings = settings := by
    refine ⟨?_, unchanged⟩
    rintro text ⟨named, _⟩
    cases form.symm.trans named
  have given {text : Field} (form : textFormOf field = some text)
      (present : (environment.text? text).isSome = true) (other : Field) :
      ¬ environment.Releases field other := by
    rintro ⟨named, absent⟩
    cases form.symm.trans named
    simp [absent] at present
  cases field
  case maxFileSize =>
    by_cases present : (environment.text? .maxFileSizeText).isSome = true
    · exact .inl ⟨given rfl present, fun _ => if_pos present⟩
    · exact .inr ⟨.maxFileSizeText, "", ⟨rfl, by simpa using present⟩, rfl,
        fun _ => if_neg present⟩
  case defaultLifetime =>
    by_cases present : (environment.text? .defaultLifetimeText).isSome = true
    · exact .inl ⟨given rfl present, fun _ => if_pos present⟩
    · exact .inr ⟨.defaultLifetimeText, "", ⟨rfl, by simpa using present⟩,
        rfl, fun _ => if_neg present⟩
  case maxLifetime =>
    by_cases present : (environment.text? .maxLifetimeText).isSome = true
    · exact .inl ⟨given rfl present, fun _ => if_pos present⟩
    · exact .inr ⟨.maxLifetimeText, "", ⟨rfl, by simpa using present⟩, rfl,
        fun _ => if_neg present⟩
  all_goals exact .inl (kept rfl fun _ => rfl)

theorem get_releaseTextForm_of_not (kept : ¬ environment.Releases field other) :
    (environment.releaseTextForm field settings).get other =
      settings.get other := by
  rcases environment.releaseTextForm_cases field with
    ⟨_, unchanged⟩ | ⟨text, empty, releases, _, emptied⟩
  · rw [unchanged]
  · rw [emptied]
    apply settings.get_put_of_ne
    rintro rfl
    exact kept releases

theorem Releases.unique {text : Field} (first : environment.Releases field text)
    (second : environment.Releases field other) : text = other :=
  Option.some.inj (first.1.symm.trans second.1)

theorem get_releaseTextForm_of_releases (before : Settings)
    (releases : environment.Releases field other) :
    (environment.releaseTextForm field settings).get other =
      (environment.releaseTextForm field before).get other := by
  rcases environment.releaseTextForm_cases field with
    ⟨none, _⟩ | ⟨text, empty, emptiesText, _, emptied⟩
  · exact (none other releases).elim
  · obtain rfl := emptiesText.unique releases
    rw [emptied, emptied, Settings.get_put_self, Settings.get_put_self]

theorem toJson_releaseTextForm (releases : environment.Releases field other) :
    (environment.releaseTextForm field settings).toJson other =
      .string "" := by
  rcases environment.releaseTextForm_cases field with
    ⟨none, _⟩ | ⟨text, empty, emptiesText, plain, emptied⟩
  · exact (none other releases).elim
  · obtain rfl := emptiesText.unique releases
    rw [Settings.toJson, emptied, Settings.get_put_self]
    exact plain

theorem not_releases_self : ¬ environment.Releases field field := by
  rintro ⟨form, _⟩
  cases field <;> cases form

/-- The text beside a number is decoded as it stands. -/
theorem toJson_of_decoded_text {number text : Field} {spelled : String}
    {value : text.kind.Carrier} (form : textFormOf number = some text)
    (decoded : Decoding.ofText text.kind spelled = .ok value) :
    text.kind.toJson value = .string spelled := by
  cases number <;> cases form <;>
    exact congrArg Json.string (Except.ok.inj decoded).symm

end Release

/-- Whether overriding succeeds does not depend on the settings. -/
theorem overrideFields_result (environment : Environment)
    (fields : List Field) (settings before : Settings) :
    (environment.overrideFields fields settings).2 =
      (environment.overrideFields fields before).2 := by
  induction fields generalizing settings before with
  | nil => rfl
  | cons field rest ih =>
      rw [overrideFields, overrideFields]
      cases environment.text? field with
      | none => exact ih settings before
      | some text =>
          dsimp only
          cases Decoding.ofText field.kind text with
          | error cause => rfl
          | ok value =>
              dsimp only
              rw [ih]

section Decided

variable {environment : Environment} {fields : List Field} {field : Field}
  {settings : Settings}

/-- A value that the environment does not decide is kept. -/
theorem get_overrideFields_of_not
    (kept : ¬ environment.Decides fields field) :
    (environment.overrideFields fields settings).1.get field =
      settings.get field := by
  induction fields generalizing settings with
  | nil => rfl
  | cons head rest ih =>
      have later : ¬ environment.Decides rest field := by
        rintro ⟨source, member, given, decides⟩
        exact kept ⟨source, List.mem_cons_of_mem _ member, given, decides⟩
      rw [overrideFields]
      cases present : environment.text? head with
      | none => exact ih later
      | some text =>
          have other : ¬ (field = head ∨ environment.Releases head field) := by
            intro decides
            exact kept ⟨head, List.mem_cons_self, by simp [present], decides⟩
          rw [not_or] at other
          dsimp only
          cases Decoding.ofText head.kind text with
          | error cause => rfl
          | ok value =>
              dsimp only
              rw [ih later, get_releaseTextForm_of_not other.2,
                settings.get_put_of_ne other.1]

/-- A value that the environment decides does not depend on the settings. -/
theorem get_overrideFields_of_decides {done : List Field} (before : Settings)
    (success : (environment.overrideFields fields settings).2 = .ok done)
    (decides : environment.Decides fields field) :
    (environment.overrideFields fields settings).1.get field =
      (environment.overrideFields fields before).1.get field := by
  induction fields generalizing settings before done with
  | nil =>
      obtain ⟨source, member, _⟩ := decides
      cases member
  | cons head rest ih =>
      rw [overrideFields] at success ⊢
      rw [overrideFields]
      cases present : environment.text? head with
      | none =>
          simp only [present] at success ⊢
          refine ih before success ?_
          obtain ⟨source, member, given, decides⟩ := decides
          rcases List.mem_cons.mp member with rfl | later
          · simp [present] at given
          · exact ⟨source, later, given, decides⟩
      | some text =>
          simp only [present] at success ⊢
          cases decoded : Decoding.ofText head.kind text with
          | error cause => simp [decoded] at success
          | ok value =>
              simp only [decoded] at success ⊢
              cases rested : (environment.overrideFields rest
                  (environment.releaseTextForm head
                    (settings.put head value))).2 with
              | error cause => simp [rested, Except.map] at success
              | ok others =>
                  by_cases later : environment.Decides rest field
                  · exact ih _ rested later
                  · rw [get_overrideFields_of_not later,
                      get_overrideFields_of_not later]
                    obtain ⟨source, member, given, decides⟩ := decides
                    rcases List.mem_cons.mp member with rfl | member
                    · rcases decides with rfl | releases
                      · rw [get_releaseTextForm_of_not not_releases_self,
                          get_releaseTextForm_of_not not_releases_self,
                          Settings.get_put_self, Settings.get_put_self]
                      · exact get_releaseTextForm_of_releases _ releases
                    · exact (later ⟨source, member, given, decides⟩).elim

/-- A setting whose variable is given has the value of its text. -/
theorem get_overrideFields_of_text {done : List Field} {text : String}
    (success : (environment.overrideFields fields settings).2 = .ok done)
    (member : field ∈ fields) (given : environment.text? field = some text) :
    Decoding.ofText field.kind text =
      .ok ((environment.overrideFields fields settings).1.get field) := by
  induction fields generalizing settings done with
  | nil => cases member
  | cons head rest ih =>
      rw [overrideFields] at success ⊢
      cases present : environment.text? head with
      | none =>
          simp only [present] at success ⊢
          rcases List.mem_cons.mp member with rfl | later
          · simp [present] at given
          · exact ih success later
      | some spelled =>
          simp only [present] at success ⊢
          cases decoded : Decoding.ofText head.kind spelled with
          | error cause => simp [decoded] at success
          | ok value =>
              simp only [decoded] at success ⊢
              cases rested : (environment.overrideFields rest
                  (environment.releaseTextForm head
                    (settings.put head value))).2 with
              | error cause => simp [rested, Except.map] at success
              | ok others =>
                  by_cases later : field ∈ rest
                  · exact ih rested later
                  · obtain rfl : field = head := by
                      simpa [later] using member
                    have kept : ¬ environment.Decides rest field := by
                      rintro ⟨source, found, _, rfl | ⟨_, absent⟩⟩
                      · exact later found
                      · simp [given] at absent
                    rw [get_overrideFields_of_not kept,
                      get_releaseTextForm_of_not not_releases_self,
                      Settings.get_put_self, ← decoded]
                    rw [given, Option.some.injEq] at present
                    rw [present]

end Decided

end ServerConfig.Environment
