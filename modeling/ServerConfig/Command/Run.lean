import ServerConfig.Command.Arguments
import ServerConfig.Command.Bootstrap
import ServerConfig.Log.Root
import ServerConfig.Report

/-!
# The command

The command loads a configuration, overrides it from the environment, and
prints a report or the settings that clients may see.
-/

namespace ServerConfig.Command

/-- What the command is started with. -/
structure Invocation where
  arguments : List String
  environment : Environment
  /-- The contents of files. -/
  read : FilePath → Except Unavailable ByteArray
  /-- What becomes of sizes that are infinite. -/
  infiniteSizes : ByteSize.Treatment := .refused
  /-- The time that log lines show. -/
  time : Log.Timestamp

inductive Outcome where
  /-- The bootstrap settings are invalid. -/
  | rejected (faults : List Fault)
  | usage (usage : Usage)
  /-- The exit status, the texts written to standard output and to standard
  error, and the error because of which there is no configuration. -/
  | finished (status : Nat) (output : String) (log : String) (cause : Option AssemblyError)
  /-- An error that is not about the configuration. -/
  | aborted (cause : AssemblyError)
  /-- A report that cannot be written. -/
  | unreportable (cause : Report.Error)

/-- The configuration of an invocation: loaded from its source, then overridden
unless that is turned off. -/
def assemble (invocation : Invocation) (source : Source) (noEnvironment : Bool) :
    List Log.Record × Except AssemblyError Configuration :=
  match Configuration.load invocation.read source with
  | (records, .error cause) => (records, .error cause)
  | (records, .ok configuration) =>
      if noEnvironment then (records, .ok configuration)
      else
        let overridden := configuration.override invocation.environment
        (records ++ overridden.records,
          overridden.result.map fun _ => overridden.configuration)

def layoutOf (bootstrap : Bootstrap) : Log.Layout :=
  if bootstrap.jsonLogs then .json else .human

/-- The record of an error because of which there is no configuration. -/
def failureRecord (cause : AssemblyError) : Log.Record where
  level := Log.Level.error
  logger := "plikd_config.cli"
  message := "unable to load configuration: " ++ cause.message

/-- What is printed about a configuration. -/
def printed (configuration : Configuration) (publicView : Bool) : Except Report.Error String :=
  if publicView then configuration.publicText else configuration.dump

/-- What an invocation amounts to before anything is loaded. -/
structure Plan where
  bootstrap : Bootstrap
  choices : Choices

/-- The plan that arguments and an environment make, unless the command ends
without one. -/
def Plan.make (arguments : List String) (environment : Environment) : Except Outcome Plan :=
  match Bootstrap.ofEnvironment environment with
  | .error faults => .error (.rejected faults)
  | .ok bootstrap =>
      match Choices.ofArguments arguments with
      | .error usage => .error (.usage usage)
      | .ok choices => .ok ⟨bootstrap, choices⟩

/-- The source to load: the one that the arguments choose, or else that of the
bootstrap settings. -/
def Plan.source (plan : Plan) : Source :=
  (plan.choices.config.map Source.ofText).getD plan.bootstrap.source

/-- The level of logging that settings ask for. -/
def chosenLevel (settings : Settings) : String :=
  if settings.debug then "DEBUG" else settings.logLevel

/-- What the command does that can be seen. -/
inductive Action where
  | configureLogging (level : String)
  | log (record : Log.Record)
  /-- Write to standard output. -/
  | print (text : String)

/-- What actions write to a stream. -/
def performed (layout : Log.Layout) (time : Log.Timestamp) (stream : Log.Stream) :
    Log.Root → List Action → String
  | _, [] => ""
  | root, .configureLogging level :: rest =>
      performed layout time stream (root.configure level layout) rest
  | root, .log record :: rest =>
      root.logRecord record time stream ++ performed layout time stream root rest
  | root, .print text :: rest =>
      (match stream with | .output => text | .error => "") ++
        performed layout time stream root rest

/-- The end of the command after actions. -/
def Plan.finish (plan : Plan) (invocation : Invocation) (status : Nat) (actions : List Action)
    (cause : Option AssemblyError) : Outcome :=
  let written (stream : Log.Stream) : String :=
    performed (layoutOf plan.bootstrap) invocation.time stream {}
      (.configureLogging "INFO" :: actions)
  .finished status (written .output) (written .error) cause

def Plan.carryOut (plan : Plan) (invocation : Invocation) : Outcome :=
  match assemble invocation plan.source plan.choices.noEnvironment with
  | (records, .error cause) =>
      if cause.isExpected invocation.infiniteSizes then
        plan.finish invocation 1 ((records ++ [failureRecord cause]).map .log) (some cause)
      else .aborted cause
  | (records, .ok configuration) =>
      match printed configuration plan.choices.publicView with
      | .error cause => .unreportable cause
      | .ok text =>
          plan.finish invocation 0
            (records.map .log ++
              [.configureLogging (chosenLevel configuration.settings), .print (text ++ "\n")])
            none

def run (invocation : Invocation) : Outcome :=
  match Plan.make invocation.arguments invocation.environment with
  | .error outcome => outcome
  | .ok plan => plan.carryOut invocation

end ServerConfig.Command
