import ServerConfig.Proofs.Log.Changes

/-!
# The handlers of the root

After any changes the root obeys the last of those that configure logging: one
handler of the program, in the layout and at the level that it asked for.  Main
statements: which handlers the root has after any changes, what they write, and
when none of them writes to standard output.
-/

namespace ServerConfig.Log

/-- A level is the one that a name chooses: the one that it names in any case,
or else that of information. -/
inductive Level.ChosenBy : Option String → Level → Prop where
  | named {name : String} {level : Level} :
      (Text.upperName name, level) ∈ named → ChosenBy (some name) level
  | unknown {name : String} :
      (∀ level, (Text.upperName name, level) ∉ named) →
      ChosenBy (some name) info
  | absent : ChosenBy none info

theorem Level.chosenBy_ofName (name : Option String) :
    Level.ChosenBy name (Level.ofName (name.getD "")) := by
  cases name with
  | none => exact .absent
  | some name =>
      rw [Option.getD_some, ofName]
      cases found : named.lookup (Text.upperName name) with
      | some level =>
          obtain ⟨before, after, split, _⟩ := List.lookup_eq_some_iff.mp found
          exact .named (split ▸ List.mem_append_right before List.mem_cons_self)
      | none =>
          apply ChosenBy.unknown
          intro level member
          rw [List.lookup_eq_none_iff] at found
          simpa using found _ member

namespace Root

/-- What a change asks of the level and of the layout. -/
def Change.configuration? : Change → Option (Option String × Layout)
  | .configure level layout => some (level, layout)
  | _ => none

/-- What the last of the changes that configure logging asks for. -/
def lastConfiguration (changes : List Change) :
    Option (Option String × Layout) :=
  (changes.filterMap Change.configuration?).getLast?

/-- The root has what the last configuration asked for. -/
structure Obeys (root : Root) (asked : Option (Option String × Layout)) :
    Prop where
  programs : root.handlers.filter Handler.isProgram =
    (asked.map fun asked => .program asked.2).toList
  level : ∀ name layout, asked = some (name, layout) → root.level.ChosenBy name

theorem filter_isProgram_relayout {layout before : Layout}
    {handlers : List Handler}
    (only : handlers.filter Handler.isProgram = [.program before]) :
    (relayout layout handlers).filter Handler.isProgram =
      [.program layout] := by
  induction handlers with
  | nil => cases only
  | cons handler rest ih =>
      cases handler with
      | program first =>
          have none : rest.filter Handler.isProgram = [] :=
            (List.cons.inj only).2
          exact congrArg (List.cons _) none
      | standardOutput number => exact ih only
      | other number => exact ih only

theorem filter_isProgram_configure {root : Root}
    {asked : Option (Option String × Layout)} (obeys : root.Obeys asked)
    (level : String) (layout : Layout) :
    (root.configure level layout).handlers.filter Handler.isProgram =
      [.program layout] := by
  have programs := obeys.programs
  rw [configure]
  cases asked with
  | none =>
      have missing : root.handlers.any Handler.isProgram = false := by
        rw [List.any_eq_false]
        exact List.filter_eq_nil_iff.mp programs
      rw [if_neg (by simp [missing]), List.filter_append, List.filter_comm,
        programs]
      rfl
  | some asked =>
      have installed : Handler.program asked.2 ∈ root.handlers := by
        apply List.mem_of_mem_filter (p := Handler.isProgram)
        rw [programs]
        exact List.mem_cons_self
      rw [if_pos (List.any_eq_true.mpr ⟨_, installed, rfl⟩)]
      exact filter_isProgram_relayout programs

theorem filter_isProgram_add {handler : Handler} (root : Root)
    (foreign : handler.isProgram = false) :
    (root.add handler).handlers.filter Handler.isProgram =
      root.handlers.filter Handler.isProgram := by
  rw [add]
  split
  · rfl
  · rw [List.filter_append, List.filter_cons_of_neg (by simp [foreign]),
      List.filter_nil, List.append_nil]

theorem level_add (root : Root) (handler : Handler) :
    (root.add handler).level = root.level := by
  rw [add]
  split <;> rfl

namespace Obeys

variable {root : Root} {asked : Option (Option String × Layout)}

theorem configured_iff (obeys : root.Obeys asked) :
    none ∈ root.identities ↔ asked.isSome = true := by
  rw [none_mem_identities_iff, List.any_eq_true]
  constructor
  · rintro ⟨handler, member, program⟩
    have found := List.mem_filter.mpr ⟨member, program⟩
    rw [obeys.programs] at found
    cases asked with
    | none => cases found
    | some asked => rfl
  · intro given
    obtain ⟨asked, rfl⟩ := Option.isSome_iff_exists.mp given
    have found : Handler.program asked.2 ∈
        root.handlers.filter Handler.isProgram := by
      rw [obeys.programs]
      exact List.mem_cons_self
    exact ⟨_, List.mem_filter.mp found⟩

theorem add {handler : Handler} (obeys : root.Obeys asked)
    (foreign : handler.isProgram = false) : (root.add handler).Obeys asked := by
  constructor
  case programs => rw [filter_isProgram_add root foreign, obeys.programs]
  case level =>
    rw [level_add]
    exact obeys.level

theorem apply (obeys : root.Obeys asked) (change : Change) :
    (root.apply change).Obeys (change.configuration?.or asked) := by
  cases change with
  | configure name layout =>
      constructor
      case programs => exact filter_isProgram_configure obeys _ layout
      case level =>
        rintro _ _ ⟨⟩
        exact Level.chosenBy_ofName name
  | addStandardOutput number => exact obeys.add rfl
  | addOther number => exact obeys.add rfl

end Obeys

theorem lastConfiguration_concat (changes : List Change) (change : Change) :
    lastConfiguration (changes ++ [change]) =
      change.configuration?.or (lastConfiguration changes) := by
  rw [lastConfiguration, List.filterMap_append, List.getLast?_append]
  cases change <;> rfl

theorem obeys_applyAll (changes : List Change) :
    (applyAll {} changes).Obeys (lastConfiguration changes) := by
  induction changes using List.reverseRecOn with
  | nil => exact ⟨rfl, fun _ _ asked => nomatch asked⟩
  | append_singleton changes change ih =>
      rw [applyAll_concat, lastConfiguration_concat]
      exact ih.apply change

/-! ## What is written -/

section Written

variable {root : Root} {record : Record} {time : Timestamp} {stream : Stream}

private theorem intercalate_empty (texts : List String) :
    ("".intercalate texts).toList = texts.flatMap String.toList := by
  rw [String.toList_intercalate]
  induction texts with
  | nil => rfl
  | cons text rest ih =>
      cases rest with
      | nil => simp
      | cons second later =>
          rw [List.map_cons, List.map_cons, List.intercalate_cons_cons,
            ← List.map_cons, ih]
          simp

theorem toList_emit (present : root.handlers ≠ []) :
    (root.emit record time stream).toList =
      root.handlers.flatMap fun handler =>
        (written record time stream handler).toList := by
  rw [emit, if_neg (by simpa using present), intercalate_empty,
    List.flatMap_map]

/-- Standard error is written to by the handler of the program alone. -/
theorem Obeys.emit_error {name : Option String} {layout : Layout}
    (obeys : root.Obeys (some (name, layout))) :
    root.emit record time .error =
      written record time .error (.program layout) := by
  have programs : root.handlers.filter Handler.isProgram =
      [.program layout] := obeys.programs
  have present : root.handlers ≠ [] := by
    intro none
    rw [none] at programs
    cases programs
  have silent (handlers : List Handler) :
      (handlers.flatMap fun handler =>
          (written record time .error handler).toList) =
        (handlers.filter Handler.isProgram).flatMap fun handler =>
          (written record time .error handler).toList := by
    induction handlers with
    | nil => rfl
    | cons handler rest ih =>
        cases handler with
        | program layout => exact congrArg (_ ++ ·) ih
        | standardOutput number => exact ih
        | other number => exact ih
  rw [← String.toList_inj, toList_emit present, silent, programs]
  exact List.append_nil _

end Written

/-- No handler writes to standard output. -/
def SparesOutput (root : Root) : Prop :=
  ∀ handler ∈ root.handlers, handler.isStandardOutput = false

/-- Handlers spare standard output if no record is written there. -/
theorem sparesOutput_iff_emit {root : Root} :
    root.SparesOutput ↔
      ∀ record time, root.emit record time .output = "" := by
  constructor
  · intro spares record time
    by_cases none : root.handlers = []
    · rw [emit, if_pos (by simpa using none)]
      rfl
    · rw [← String.toList_eq_nil_iff, toList_emit none,
        List.flatMap_eq_nil_iff]
      intro handler member
      cases handler with
      | program layout => rfl
      | standardOutput number => cases spares _ member
      | other number => rfl
  · intro silent handler member
    cases handler with
    | program layout => rfl
    | other number => rfl
    | standardOutput number =>
        have empty := silent default ⟨"", ""⟩
        rw [← String.toList_eq_nil_iff,
          toList_emit (List.ne_nil_of_mem member),
          List.flatMap_eq_nil_iff] at empty
        simpa [written] using empty _ member

theorem sparesOutput_iff_identities {root : Root} :
    root.SparesOutput ↔
      ∀ number, some (.standardOutput number) ∉ root.identities := by
  constructor
  · intro spares number member
    cases spares _ ((some_mem_identities_iff rfl).mp member)
  · intro missing handler member
    cases handler with
    | program layout => rfl
    | other number => rfl
    | standardOutput number =>
        exact absurd ((some_mem_identities_iff rfl).mpr member)
          (missing number)

/-! ## Handlers for standard output -/

/-- A handler for standard output is added after logging has been
configured. -/
def AddedLate (changes : List Change) : Prop :=
  ∃ earlier level layout later number,
    changes = earlier ++ .configure level layout :: later ∧
      .addStandardOutput number ∈ later

section Late

variable {changes : List Change} {change : Change}

theorem isSome_lastConfiguration_iff :
    (lastConfiguration changes).isSome = true ↔
      ∃ level layout, .configure level layout ∈ changes := by
  rw [lastConfiguration, List.getLast?_isSome, ne_eq,
    List.filterMap_eq_nil_iff]
  constructor
  · intro asked
    push Not at asked
    obtain ⟨change, member, given⟩ := asked
    cases change with
    | configure level layout => exact ⟨level, layout, member⟩
    | addStandardOutput number => exact (given rfl).elim
    | addOther number => exact (given rfl).elim
  · rintro ⟨level, layout, member⟩ unasked
    cases unasked _ member

theorem AddedLate.configured (late : AddedLate changes) :
    (lastConfiguration changes).isSome = true := by
  obtain ⟨earlier, level, layout, later, _, rfl, _⟩ := late
  exact isSome_lastConfiguration_iff.mpr
    ⟨level, layout, List.mem_append_right _ List.mem_cons_self⟩

theorem addedLate_concat_iff :
    AddedLate (changes ++ [change]) ↔
      AddedLate changes ∨
        (lastConfiguration changes).isSome = true ∧
          ∃ number, change = .addStandardOutput number := by
  constructor
  · rintro ⟨earlier, level, layout, later, number, split, member⟩
    rcases List.eq_nil_or_concat later with rfl | ⟨before, last, rfl⟩
    · cases member
    · rw [List.concat_eq_append] at split member
      rw [← List.cons_append, ← List.append_assoc] at split
      obtain ⟨rfl, same⟩ := List.append_inj' split rfl
      rw [List.mem_append, List.mem_singleton] at member
      rcases member with member | rfl
      · exact .inl ⟨earlier, level, layout, before, number, rfl, member⟩
      · refine .inr ⟨isSome_lastConfiguration_iff.mpr ?_, number,
          List.head_eq_of_cons_eq same⟩
        exact ⟨level, layout, List.mem_append_right _ List.mem_cons_self⟩
  · rintro (⟨earlier, level, layout, later, number, rfl, member⟩ |
      ⟨configured, number, rfl⟩)
    · exact ⟨earlier, level, layout, later ++ [change], number, by simp,
        List.mem_append_left _ member⟩
    · obtain ⟨level, layout, member⟩ :=
        isSome_lastConfiguration_iff.mp configured
      obtain ⟨earlier, later, rfl⟩ := List.append_of_mem member
      exact ⟨earlier, level, layout, later ++ [.addStandardOutput number],
        number, by simp, List.mem_append_right _ List.mem_cons_self⟩

/-- Once logging has been configured, the handlers for standard output are
those added since. -/
theorem exists_output_iff
    (configured : (lastConfiguration changes).isSome = true) :
    (∃ number, some (.standardOutput number) ∈
        (applyAll {} changes).identities) ↔ AddedLate changes := by
  -- By the last change: before the first configuration nothing is claimed, and
  -- from then on no handler is removed.
  induction changes using List.reverseRecOn with
  | nil => cases configured
  | append_singleton changes change ih =>
      have program := (obeys_applyAll changes).configured_iff
      have follows := follows_apply (applyAll {} changes) change
      rw [applyAll_concat, addedLate_concat_iff]
      cases before : (lastConfiguration changes).isSome with
      | true =>
          have lasting := program.mpr before
          simp only [follows.mem_iff (.inl lasting), exists_or, ih before,
            true_and, Change.handler?_eq_output_iff]
      | false =>
          have missing : none ∉ (applyAll {} changes).identities := by
            rw [program, before]
            exact Bool.false_ne_true
          have notLate : ¬ AddedLate changes := by
            intro late
            rw [late.configured] at before
            cases before
          rw [lastConfiguration_concat, Option.isSome_or, before,
            Bool.or_false] at configured
          cases change with
          | addStandardOutput number => cases configured
          | addOther number => cases configured
          | configure level layout =>
              simp [follows.output_notMem missing, notLate]

/-- Configuring logging reserves standard output unless a handler for it was
added after logging had been configured before.  Then nothing is written there
until such a handler is added again. -/
theorem configure_spares_output_iff (changes : List Change)
    (level : Option String) (layout : Layout) :
    let root := applyAll {} (changes ++ [.configure level layout])
    (root.SparesOutput ↔ ¬ AddedLate changes) ∧
    (root.SparesOutput ↔ ∀ record time, root.emit record time .output = "") ∧
    (root.SparesOutput → ∀ later : List Change,
      (∀ number, .addStandardOutput number ∉ later) → ∀ record time,
        (root.applyAll later).emit record time .output = "") := by
  intro root
  have late : AddedLate (changes ++ [.configure level layout]) ↔
      AddedLate changes := by
    simp [addedLate_concat_iff]
  have configured : (lastConfiguration
      (changes ++ [.configure level layout])).isSome = true := by
    rw [lastConfiguration_concat]
    rfl
  refine ⟨?_, sparesOutput_iff_emit, ?_⟩
  · rw [sparesOutput_iff_identities, ← late, ← exists_output_iff configured,
      not_exists]
  · intro spares later none
    rw [sparesOutput_iff_identities] at spares
    rw [← sparesOutput_iff_emit, sparesOutput_iff_identities]
    have program : Option.none ∈ root.identities :=
      (obeys_applyAll _).configured_iff.mpr configured
    intro number
    rw [mem_applyAll_iff (.inl program)]
    rintro (before | added)
    · exact spares number before
    · exact none number (by simpa using added)

/-- Logging is configured, a handler for standard output is added, and logging
is configured again. -/
theorem late_handler_writes :
    ¬ (applyAll {} [.configure none .human, .addStandardOutput 0,
        .configure none .human]).SparesOutput ∧
      (applyAll {} [.configure none .human, .addStandardOutput 0,
        .configure none .human]).logRecord
          { level := Level.info, logger := "", message := "x" } ⟨"", ""⟩
          .output = "x\n" := by
  constructor
  · intro spares
    cases spares (.standardOutput 0) (by decide)
  · decide

end Late

/-! ## All changes together -/

/-- After any changes the root has a handler of the program exactly if logging
has been configured, and then only one, in the layout asked for last and at the
level asked for last.  No handler is doubled; those that do not write to
standard output are never removed, and whatever changes follow, they keep their
order, as all handlers do once logging has been configured.  A record that is
not below the level, whose own level is positive, is written once by the
handler of the program, if its layout can hold it. -/
theorem handlers_after_changes (earlier later : List Change) :
    let root := applyAll {} earlier
    let after := applyAll {} (earlier ++ later)
    root.handlers.filter Handler.isProgram =
      ((lastConfiguration earlier).map fun asked => .program asked.2).toList ∧
    root.identities.Nodup ∧
    (∀ number, .other number ∈ root.handlers ↔ .addOther number ∈ earlier) ∧
    root.identities.filter sparesOutput <+:
      after.identities.filter sparesOutput ∧
    ∀ name layout, lastConfiguration earlier = some (name, layout) →
      root.identities <+: after.identities ∧
      root.level.ChosenBy name ∧
      ∀ record : Record, 0 < record.level → root.level ≤ record.level →
        record.isWritable layout = true → ∀ time,
          root.logRecord record time .error =
            record.line layout time ++ "\n" := by
  intro root after
  have obeys : root.Obeys (lastConfiguration earlier) := obeys_applyAll earlier
  have split : after = root.applyAll later := applyAll_append _ _ _
  refine ⟨obeys.programs, @nodup_applyAll {} List.nodup_nil earlier, ?_, ?_, ?_⟩
  · intro number
    have initial : some (.other number) ∉ (Root.identities {}) :=
      List.not_mem_nil
    rw [← some_mem_identities_iff rfl, mem_applyAll_iff (.inr rfl)]
    simp [initial]
  · rw [split]
    exact spared_kept_applyAll root later
  · intro name layout asked
    rw [asked] at obeys
    refine ⟨?_, obeys.level name layout rfl, ?_⟩
    · rw [split]
      exact configured_kept_applyAll (obeys.configured_iff.mpr rfl) later
    · intro record positive reached writable time
      have enabled : root.isEnabled record.level = true := by
        simp [isEnabled, positive, reached]
      rw [logRecord, if_pos enabled, obeys.emit_error, written, if_pos writable]

/-- At the lowest level that can be chosen a record of that level is not
written. -/
theorem unset_level_unwritten :
    let root := applyAll {} [.configure (some "NOTSET") .human]
    let record : Record :=
      { level := Level.unset, logger := "root", message := "x" }
    root.level ≤ record.level ∧
      ∀ time, root.logRecord record time .error = "" :=
  ⟨by decide, fun _ => rfl⟩

/-- Handlers are added before and after logging is configured twice. -/
def busyChanges : List Change :=
  [.addStandardOutput 0, .addOther 1, .configure none .human,
   .addStandardOutput 2, .addOther 1, .configure (some "debug") .json]

theorem busyChanges_handlers :
    let record : Record :=
      { level := Level.debug, logger := "server", message := "x" }
    lastConfiguration busyChanges = some (some "debug", .json) ∧
      (applyAll {} busyChanges).handlers.filter Handler.isProgram =
        [.program .json] ∧
      (applyAll {} busyChanges).level.ChosenBy (some "debug") ∧
      (applyAll {} busyChanges).level = Level.debug ∧
      (∀ time, (applyAll {} busyChanges).logRecord record time .error =
        record.jsonLine time ++ "\n") ∧
      (applyAll {} (busyChanges ++ [.configure none .human])).handlers =
        [.other 1, .program .human, .standardOutput 2] := by
  intro record
  have asked : lastConfiguration busyChanges = some (some "debug", .json) := by
    decide
  obtain ⟨programs, _, _, _, configured⟩ :=
    handlers_after_changes busyChanges []
  obtain ⟨_, chosen, logged⟩ := configured _ _ asked
  refine ⟨asked, ?_, chosen, by decide, ?_, by decide⟩
  · rw [programs, asked]
    rfl
  · exact logged record (by decide) (by decide) rfl

end Root

end ServerConfig.Log
