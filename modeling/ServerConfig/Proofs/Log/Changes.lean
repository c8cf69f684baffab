import Mathlib.Data.List.Infix
import ServerConfig.Log.Root

/-!
# Changes of the root

Logging may be configured again and again, with handlers added in between.  The
handler of the program stays what it is when its layout changes, so handlers
are compared by `Handler.identity`.  `Root.Follows` says what a change can do to
the list of identities; everything about places and numbers of handlers is an
induction over it.
-/

namespace ServerConfig.Log

/-- What a handler is, apart from its layout. -/
def Handler.identity : Handler → Option Handler
  | .program _ => none
  | handler => some handler

/-- A handler other than one that writes to standard output. -/
def sparesOutput (identity : Option Handler) : Bool :=
  !identity.any Handler.isStandardOutput

theorem Handler.identity_eq_none_iff {handler : Handler} :
    handler.identity = none ↔ handler.isProgram = true := by
  cases handler <;> simp [identity, isProgram]

theorem Handler.identity_eq_some_iff {handler other : Handler}
    (foreign : other.isProgram = false) :
    handler.identity = some other ↔ handler = other := by
  cases handler <;> cases other <;> simp_all [identity, isProgram]

theorem sparesOutput_identity (handler : Handler) :
    sparesOutput handler.identity = !handler.isStandardOutput := by
  cases handler <;> rfl

namespace Root

def identities (root : Root) : List (Option Handler) :=
  root.handlers.map Handler.identity

/-- The handler that a change adds. -/
def Change.handler? : Change → Option Handler
  | .configure _ _ => none
  | .addStandardOutput number => some (.standardOutput number)
  | .addOther number => some (.other number)

@[simp] theorem Change.handler?_eq_output_iff {change : Change}
    {number : Nat} :
    change.handler? = some (.standardOutput number) ↔
      change = .addStandardOutput number := by
  cases change <;> simp [handler?]

@[simp] theorem Change.handler?_eq_other_iff {change : Change} {number : Nat} :
    change.handler? = some (.other number) ↔ change = .addOther number := by
  cases change <;> simp [handler?]

/-- What a change makes of the identities of handlers. -/
inductive Follows : List (Option Handler) → Change → List (Option Handler) →
    Prop where
  | reconfigured {identities : List (Option Handler)} {level : Option String}
      {layout : Layout} :
      none ∈ identities → Follows identities (.configure level layout) identities
  | installed {identities : List (Option Handler)} {level : Option String}
      {layout : Layout} :
      none ∉ identities →
      Follows identities (.configure level layout)
        (identities.filter sparesOutput ++ [none])
  | present {identities : List (Option Handler)} {change : Change}
      {handler : Handler} :
      change.handler? = some handler → some handler ∈ identities →
      Follows identities change identities
  | added {identities : List (Option Handler)} {change : Change}
      {handler : Handler} :
      change.handler? = some handler → some handler ∉ identities →
      Follows identities change (identities ++ [some handler])

section Step

variable {root : Root} {change : Change}

theorem none_mem_identities_iff :
    none ∈ root.identities ↔ root.handlers.any Handler.isProgram = true := by
  simp [identities, Handler.identity_eq_none_iff]

theorem some_mem_identities_iff {handler : Handler}
    (foreign : handler.isProgram = false) :
    some handler ∈ root.identities ↔ handler ∈ root.handlers := by
  simp [identities, Handler.identity_eq_some_iff foreign]

private theorem identity_relayout (layout : Layout) (handlers : List Handler) :
    (relayout layout handlers).map Handler.identity =
      handlers.map Handler.identity := by
  induction handlers with
  | nil => rfl
  | cons handler rest ih =>
      cases handler with
      | program _ => rfl
      | standardOutput number => exact congrArg (List.cons _) ih
      | other number => exact congrArg (List.cons _) ih

theorem follows_configure (root : Root) (level : Option String)
    (layout : Layout) :
    Follows root.identities (.configure level layout)
      (root.apply (.configure level layout)).identities := by
  by_cases installed : root.handlers.any Handler.isProgram = true
  · have same : (root.apply (.configure level layout)).identities =
        root.identities := by
      rw [apply, configure, identities, if_pos installed]
      exact identity_relayout layout root.handlers
    rw [same]
    exact .reconfigured (none_mem_identities_iff.mpr installed)
  · have kept : (root.apply (.configure level layout)).identities =
        root.identities.filter sparesOutput ++ [none] := by
      rw [apply, configure, identities, if_neg installed, List.map_append,
        identities, List.filter_map]
      simp only [Function.comp_def, sparesOutput_identity]
      rfl
    rw [kept]
    exact .installed (mt none_mem_identities_iff.mp installed)

theorem follows_add {handler : Handler} (root : Root)
    (adds : change.handler? = some handler)
    (foreign : handler.isProgram = false) :
    Follows root.identities change (root.add handler).identities := by
  by_cases present : handler ∈ root.handlers
  · rw [add, if_pos (by simpa using present)]
    exact .present adds ((some_mem_identities_iff foreign).mpr present)
  · have appended : (root.add handler).identities =
        root.identities ++ [some handler] := by
      rw [add, if_neg (by simpa using present), identities, List.map_append,
        identities, List.map_singleton]
      rw [(Handler.identity_eq_some_iff foreign).mpr rfl]
    rw [appended]
    exact .added adds (mt (some_mem_identities_iff foreign).mp present)

theorem follows_apply (root : Root) (change : Change) :
    Follows root.identities change (root.apply change).identities := by
  cases change with
  | configure level layout => exact follows_configure root level layout
  | addStandardOutput number => exact follows_add root rfl rfl
  | addOther number => exact follows_add root rfl rfl

end Step

namespace Follows

variable {before after : List (Option Handler)} {change : Change}
  {handler : Handler}

theorem nodup (follows : Follows before change after)
    (distinct : before.Nodup) : after.Nodup := by
  cases follows with
  | reconfigured => exact distinct
  | present => exact distinct
  | installed missing =>
      refine List.nodup_append.mpr ⟨distinct.filter _, by simp, ?_⟩
      intro identity member other found same
      rw [List.mem_singleton.mp found] at same
      rw [same] at member
      exact missing (List.mem_of_mem_filter member)
  | added _ missing =>
      refine List.nodup_append.mpr ⟨distinct, by simp, ?_⟩
      intro identity member other found same
      rw [List.mem_singleton.mp found] at same
      exact missing (same ▸ member)

/-- Handlers that do not write to standard output keep their places, before any
new one. -/
theorem spared_kept (follows : Follows before change after) :
    before.filter sparesOutput <+: after.filter sparesOutput := by
  cases follows with
  | reconfigured => exact List.prefix_refl _
  | present => exact List.prefix_refl _
  | installed =>
      rw [List.filter_append, List.filter_filter]
      simp only [Bool.and_self]
      exact List.prefix_append _ _
  | added =>
      rw [List.filter_append]
      exact List.prefix_append _ _

/-- Once there is a handler of the program, all handlers keep their places. -/
theorem configured_kept (follows : Follows before change after)
    (configured : none ∈ before) : before <+: after := by
  cases follows with
  | reconfigured => exact List.prefix_refl _
  | present => exact List.prefix_refl _
  | installed missing => exact (missing configured).elim
  | added => exact List.prefix_append _ _

/-- A handler that is not removed is there from the change that adds it on. -/
theorem mem_iff (follows : Follows before change after)
    (lasting : none ∈ before ∨ sparesOutput (some handler) = true) :
    some handler ∈ after ↔
      some handler ∈ before ∨ change.handler? = some handler := by
  cases follows with
  | reconfigured => simp [Change.handler?]
  | installed missing =>
      -- Only here handlers are removed, and only before there is one of the
      -- program.
      have spared := lasting.resolve_left missing
      simp [Change.handler?, spared]
  | present adds member =>
      rw [adds]
      constructor
      · exact .inl
      · rintro (found | same)
        · exact found
        · exact same ▸ member
  | added adds =>
      rw [adds]
      simp [eq_comm]

/-- Configuring logging for the first time leaves no handler for standard
output. -/
theorem output_notMem {level : Option String} {layout : Layout} {number : Nat}
    (follows : Follows before (.configure level layout) after)
    (unconfigured : none ∉ before) :
    some (.standardOutput number) ∉ after := by
  cases follows with
  | reconfigured configured => exact (unconfigured configured).elim
  | installed => simp [sparesOutput, Handler.isStandardOutput]
  | present adds => cases adds
  | added adds => cases adds

/-- Configuring logging adds no handler for standard output. -/
theorem output_mem {level : Option String} {layout : Layout} {number : Nat}
    (follows : Follows before (.configure level layout) after)
    (member : some (.standardOutput number) ∈ after) :
    some (.standardOutput number) ∈ before := by
  cases follows with
  | reconfigured => exact member
  | installed => simp [sparesOutput, Handler.isStandardOutput] at member
  | present adds => cases adds
  | added adds => cases adds

end Follows

/-! ## Changes in order -/

section Run

variable {root : Root} {changes : List Change} {handler : Handler}

theorem applyAll_append (root : Root) (earlier later : List Change) :
    root.applyAll (earlier ++ later) = (root.applyAll earlier).applyAll later :=
  List.foldl_append

theorem applyAll_concat (root : Root) (changes : List Change)
    (change : Change) :
    root.applyAll (changes ++ [change]) =
      (root.applyAll changes).apply change :=
  applyAll_append root changes [change]

theorem nodup_applyAll (distinct : root.identities.Nodup)
    (changes : List Change) : (root.applyAll changes).identities.Nodup := by
  induction changes generalizing root with
  | nil => exact distinct
  | cons change rest ih => exact ih ((follows_apply root change).nodup distinct)

theorem spared_kept_applyAll (root : Root) (changes : List Change) :
    root.identities.filter sparesOutput <+:
      (root.applyAll changes).identities.filter sparesOutput := by
  induction changes generalizing root with
  | nil => exact List.prefix_refl _
  | cons change rest ih =>
      exact (follows_apply root change).spared_kept.trans (ih _)

theorem configured_kept_applyAll (configured : none ∈ root.identities)
    (changes : List Change) :
    root.identities <+: (root.applyAll changes).identities := by
  induction changes generalizing root with
  | nil => exact List.prefix_refl _
  | cons change rest ih =>
      have kept := (follows_apply root change).configured_kept configured
      exact kept.trans (ih (kept.subset configured))

theorem mem_applyAll_iff
    (lasting : none ∈ root.identities ∨ sparesOutput (some handler) = true)
    (changes : List Change) :
    some handler ∈ (root.applyAll changes).identities ↔
      some handler ∈ root.identities ∨
        ∃ change ∈ changes, change.handler? = some handler := by
  induction changes generalizing root with
  | nil => simp [applyAll]
  | cons change rest ih =>
      have follows := follows_apply root change
      have still : none ∈ (root.apply change).identities ∨
          sparesOutput (some handler) = true :=
        lasting.imp_left fun configured =>
          (follows.configured_kept configured).subset configured
      change some handler ∈ ((root.apply change).applyAll rest).identities ↔ _
      rw [ih still, follows.mem_iff lasting]
      simp [or_assoc]

end Run

end Root

end ServerConfig.Log
