import ServerConfig.Command.Run
import ServerConfig.Proofs.Log.Handlers

/-!
# What the command writes to standard output

The command starts from a root without handlers, and configuring logging adds
none that writes to standard output.  So of all its actions only those that
print have an effect there, whatever is logged, in whichever layout and at
whichever level.
-/

namespace ServerConfig

namespace Log.Root

theorem SparesOutput.configure {root : Root} (spares : root.SparesOutput)
    (level : String) (layout : Layout) :
    (root.configure level layout).SparesOutput := by
  rw [sparesOutput_iff_identities] at spares ⊢
  intro number member
  exact spares number
    ((follows_configure root (some level) layout).output_mem member)

theorem SparesOutput.logRecord {root : Root} (spares : root.SparesOutput)
    (record : Record) (time : Timestamp) :
    root.logRecord record time .output = "" := by
  rw [Root.logRecord, sparesOutput_iff_emit.mp spares, ite_self]

end Log.Root

namespace Command

/-- The texts that actions print. -/
def printedBy : List Action → String
  | [] => ""
  | .print text :: rest => text ++ printedBy rest
  | _ :: rest => printedBy rest

/-- What actions write to standard output is what they print. -/
theorem performed_output {root : Log.Root} (spares : root.SparesOutput)
    (layout : Log.Layout) (time : Log.Timestamp) (actions : List Action) :
    performed layout time .output root actions = printedBy actions := by
  -- The root changes on the way, but keeps sparing standard output.
  induction actions generalizing root with
  | nil => rfl
  | cons action rest ih =>
      cases action with
      | configureLogging level => exact ih (spares.configure level layout)
      | log record =>
          rw [performed, spares.logRecord, String.empty_append, ih spares]
          rfl
      | print text =>
          rw [performed, ih spares]
          rfl

theorem printedBy_logs (records : List Log.Record) (actions : List Action) :
    printedBy (records.map .log ++ actions) = printedBy actions := by
  induction records with
  | nil => rfl
  | cons record rest ih => exact ih

/-- A plan is finished with what its actions print on standard output. -/
theorem finish_eq (plan : Plan) (invocation : Invocation) (status : Nat)
    (actions : List Action) (cause : Option AssemblyError) :
    ∃ log, plan.finish invocation status actions cause =
      .finished status (printedBy actions) log cause := by
  have spares : (Log.Root.SparesOutput {}) := nofun
  have output := performed_output spares (layoutOf plan.bootstrap)
    invocation.time (.configureLogging "INFO" :: actions)
  exact ⟨_, congrArg (fun text => Outcome.finished status text _ cause) output⟩

section CarryOut

variable {plan : Plan} {invocation : Invocation} {cause : AssemblyError}
  {configuration : Configuration}

/-- An error about the configuration is reported with status 1, and nothing is
written to standard output. -/
theorem carryOut_of_expected
    (failed : (assemble invocation plan.source
      plan.choices.noEnvironment).2 = .error cause)
    (expected : cause.isExpected invocation.infiniteSizes = true) :
    ∃ log, plan.carryOut invocation = .finished 1 "" log (some cause) := by
  unfold Plan.carryOut
  generalize assemble invocation plan.source plan.choices.noEnvironment =
    outcome at failed ⊢
  obtain ⟨records, result⟩ := outcome
  obtain rfl : result = .error cause := failed
  obtain ⟨log, finished⟩ := finish_eq plan invocation 1
    ((records ++ [failureRecord cause]).map .log) (some cause)
  have nothing :
      printedBy ((records ++ [failureRecord cause]).map .log) = "" := by
    rw [← List.append_nil (List.map _ _), printedBy_logs]
    rfl
  rw [nothing] at finished
  exact ⟨log, (if_pos expected).trans finished⟩

theorem carryOut_of_unexpected
    (failed : (assemble invocation plan.source
      plan.choices.noEnvironment).2 = .error cause)
    (unexpected : cause.isExpected invocation.infiniteSizes = false) :
    plan.carryOut invocation = .aborted cause := by
  unfold Plan.carryOut
  generalize assemble invocation plan.source plan.choices.noEnvironment =
    outcome at failed ⊢
  obtain ⟨records, result⟩ := outcome
  obtain rfl : result = .error cause := failed
  exact if_neg (by simp [unexpected])

/-- What there is to print about a configuration is all that is written to
standard output. -/
theorem carryOut_of_printed {text : String}
    (assembled : (assemble invocation plan.source
      plan.choices.noEnvironment).2 = .ok configuration)
    (printable : printed configuration plan.choices.publicView = .ok text) :
    ∃ log, plan.carryOut invocation =
      .finished 0 (text ++ "\n") log none := by
  unfold Plan.carryOut
  generalize assemble invocation plan.source plan.choices.noEnvironment =
    outcome at assembled ⊢
  obtain ⟨records, result⟩ := outcome
  obtain rfl : result = .ok configuration := assembled
  obtain ⟨log, finished⟩ := finish_eq plan invocation 0
    (records.map .log ++
      [.configureLogging (chosenLevel configuration.settings),
        .print (text ++ "\n")]) none
  rw [printedBy_logs] at finished
  refine ⟨log, ?_⟩
  simp only [printable]
  exact finished.trans (by simp [printedBy])

theorem carryOut_of_unprintable {fault : Report.Error}
    (assembled : (assemble invocation plan.source
      plan.choices.noEnvironment).2 = .ok configuration)
    (unprintable : printed configuration plan.choices.publicView =
      .error fault) :
    plan.carryOut invocation = .unreportable fault := by
  unfold Plan.carryOut
  generalize assemble invocation plan.source plan.choices.noEnvironment =
    outcome at assembled ⊢
  obtain ⟨records, result⟩ := outcome
  obtain rfl : result = .ok configuration := assembled
  simp only [unprintable]

end CarryOut

end Command

end ServerConfig
