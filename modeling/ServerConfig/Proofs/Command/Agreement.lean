import ServerConfig.Proofs.Command.Requests
import ServerConfig.Proofs.Json.Written
import ServerConfig.Proofs.LoggingSettings

/-!
# The command and what it is made of

The command loads a configuration from the chosen source, overrides it unless
that is turned off, and prints one of two reports.  `obtained` is the same
without the command.  Main statement: the command reports an error exactly as
`obtained` ends in one, with nothing on standard output, and prints nothing but
the report of the configuration that is obtained.  How and what is logged makes
no difference to either.
-/

namespace ServerConfig

/-- The configuration that is loaded from a source and then overridden from an
environment, if one is given. -/
def Configuration.obtained (read : FilePath → Except Unavailable ByteArray)
    (source : Source) :
    Option Environment → Except AssemblyError Configuration
  | none => (Configuration.load read source).2
  | some environment =>
      (Configuration.load read source).2.bind (·.overriddenBy environment)

namespace Command

/-! ## Plans -/

/-- The text for the layout of logs is a flag, if there is one. -/
def Bootstrap.Valid (environment : Environment) : Prop :=
  ∀ text, Bootstrap.text? environment Bootstrap.jsonLogsName = some text →
    ∃ flag, Decoding.readFlag text = .ok flag

/-- The source that requests choose, or else the environment, or else the
packaged one. -/
def chosenSource (requests : List Request) (environment : Environment) :
    Source :=
  (((requests.filterMap Request.path?).getLast?.or
    (Bootstrap.text? environment Bootstrap.sourceName)).map
      Source.ofText).getD .packaged

private theorem ofEnvironment_of_valid {environment : Environment}
    (valid : Bootstrap.Valid environment) :
    ∃ bootstrap, Bootstrap.ofEnvironment environment = .ok bootstrap ∧
      bootstrap.source =
        ((Bootstrap.text? environment Bootstrap.sourceName).map
          Source.ofText).getD .packaged := by
  unfold Bootstrap.ofEnvironment
  cases given : Bootstrap.text? environment Bootstrap.jsonLogsName with
  | none => exact ⟨_, rfl, rfl⟩
  | some text =>
      obtain ⟨flag, decoded⟩ := valid text given
      simp only [decoded]
      exact ⟨_, rfl, rfl⟩

/-- Requests make a plan. -/
theorem make_requests {requests : List Request} {environment : Environment}
    (values : ∀ path, .config path ∈ requests → IsValue path)
    (valid : Bootstrap.Valid environment) :
    ∃ plan, Plan.make (requests.flatMap Request.arguments) environment =
        .ok plan ∧
      plan.source = chosenSource requests environment ∧
      plan.choices.noEnvironment = decide (.noEnvironment ∈ requests) ∧
      plan.choices.publicView = decide (.publicView ∈ requests) := by
  obtain ⟨bootstrap, made, source⟩ := ofEnvironment_of_valid valid
  refine ⟨⟨bootstrap, requests.foldl Request.choose {}⟩, ?_, ?_, ?_, ?_⟩
  · simp only [Plan.make, made, ofArguments_requests values]
  · rw [Plan.source, foldl_choose, source, chosenSource]
    cases (requests.filterMap Request.path?).getLast? <;> rfl
  · rw [foldl_choose]
    exact Bool.false_or _
  · rw [foldl_choose]
    exact Bool.false_or _

theorem assemble_eq (invocation : Invocation) (source : Source)
    (noEnvironment : Bool) :
    (assemble invocation source noEnvironment).2 =
      Configuration.obtained invocation.read source
        (if noEnvironment then none else some invocation.environment) := by
  unfold assemble
  cases noEnvironment with
  | true =>
      rw [if_pos rfl, Configuration.obtained]
      rcases Configuration.load invocation.read source with ⟨_, _ | _⟩ <;> rfl
  | false =>
      rw [if_neg Bool.false_ne_true, Configuration.obtained]
      rcases Configuration.load invocation.read source with ⟨_, _ | _⟩ <;> rfl

/-! ## Reports -/

theorem read?_publicText {configuration : Configuration} {text : String}
    (written : configuration.publicText = .ok text) :
    Json.read? text = some configuration.publicView := by
  rw [Configuration.publicText] at written
  cases outcome : configuration.publicView.writeIndented with
  | error cause => simp [outcome, Except.mapError] at written
  | ok other =>
      rw [outcome] at written
      cases written
      have shallow : configuration.publicView.nesting ≤ Json.depthLimit :=
        show 1 ≤ 200 by decide
      exact Json.read?_of_writeIndented rfl shallow outcome

/-! ## Logging -/

/-- The exit status of an outcome and what it leaves on standard output, unless
an error ends the command. -/
def Outcome.seen : Outcome → Option (Nat × String)
  | .finished status output _ _ => some (status, output)
  | _ => none

/-- What can be seen of the command once a configuration is obtained or not. -/
def shown (treatment : ByteSize.Treatment) (publicView : Bool) :
    Except AssemblyError Configuration → Option (Nat × String)
  | .error cause =>
      if cause.isExpected treatment then some (1, "") else none
  | .ok configuration =>
      match printed configuration publicView with
      | .error _ => none
      | .ok text => some (0, text ++ "\n")

theorem seen_carryOut (plan : Plan) (invocation : Invocation) :
    (plan.carryOut invocation).seen =
      shown invocation.infiniteSizes plan.choices.publicView
        (assemble invocation plan.source plan.choices.noEnvironment).2 := by
  cases assembled :
      (assemble invocation plan.source plan.choices.noEnvironment).2 with
  | error cause =>
      cases expected : cause.isExpected invocation.infiniteSizes with
      | true =>
          obtain ⟨log, ended⟩ := carryOut_of_expected assembled expected
          rw [ended, shown, if_pos expected]
          rfl
      | false =>
          rw [carryOut_of_unexpected assembled expected, shown,
            if_neg (by simp [expected])]
          rfl
  | ok configuration =>
      cases printable : printed configuration plan.choices.publicView with
      | error fault =>
          rw [carryOut_of_unprintable assembled printable]
          simp only [shown, printable]
          rfl
      | ok text =>
          obtain ⟨log, ended⟩ := carryOut_of_printed assembled printable
          rw [ended]
          simp only [shown, printable]
          rfl

/-- Configurations that agree but for logging are shown alike, and so are
errors. -/
theorem shown_congr {first second : Except AssemblyError Configuration}
    (ends : EndAlike Configuration.AgreeButLogging first second)
    (treatment : ByteSize.Treatment) (publicView : Bool) :
    shown treatment publicView first = shown treatment publicView second := by
  cases ends with
  | error same => simp only [shown, same treatment]
  | ok agree =>
      obtain ⟨dump, publicText⟩ := agree.reports
      simp only [shown, printed, dump, publicText]

/-- Two invocations that load a source and differ only in what is logged: in the
layout of logs, and in the settings of logging, in the source as well as in the
environment. -/
structure DifferInLogging (source : Source) (invocation other : Invocation) :
    Prop where
  arguments : invocation.arguments = other.arguments
  path : Bootstrap.text? invocation.environment Bootstrap.sourceName =
    Bootstrap.text? other.environment Bootstrap.sourceName
  layout : Bootstrap.Valid other.environment
  infiniteSizes : invocation.infiniteSizes = other.infiniteSizes
  environment : invocation.environment.AgreeButLogging other.environment
  loaded : EndAlike Settings.AgreeButLogging
    (source.settings invocation.read) (source.settings other.read)

theorem DifferInLogging.obtained {source : Source}
    {invocation other : Invocation}
    (differ : DifferInLogging source invocation other) (noEnvironment : Bool) :
    EndAlike Configuration.AgreeButLogging
      (Configuration.obtained invocation.read source
        (if noEnvironment then none else some invocation.environment))
      (Configuration.obtained other.read source
        (if noEnvironment then none else some other.environment)) := by
  have loaded := Configuration.load_endAlike differ.loaded
  cases noEnvironment with
  | true => exact loaded
  | false => exact loaded.bind fun _ _ agree =>
      agree.overriddenBy differ.environment

/-! ## The whole command -/

section Run

variable {invocation : Invocation} {requests : List Request}

/-- The command carries out the plan of its requests. -/
theorem run_requests
    (given : invocation.arguments = requests.flatMap Request.arguments)
    (values : ∀ path, .config path ∈ requests → IsValue path)
    (valid : Bootstrap.Valid invocation.environment) :
    ∃ plan : Plan, run invocation = plan.carryOut invocation ∧
      plan.choices.publicView = decide (.publicView ∈ requests) ∧
      (assemble invocation plan.source plan.choices.noEnvironment).2 =
        Configuration.obtained invocation.read
          (chosenSource requests invocation.environment)
          (if .noEnvironment ∈ requests then none
            else some invocation.environment) := by
  obtain ⟨plan, made, source, noEnvironment, publicView⟩ :=
    make_requests values valid
  refine ⟨plan, ?_, publicView, ?_⟩
  · rw [run, given, made]
  · rw [assemble_eq, source, noEnvironment]
    simp only [decide_eq_true_eq]

theorem seen_run
    (given : invocation.arguments = requests.flatMap Request.arguments)
    (values : ∀ path, .config path ∈ requests → IsValue path)
    (valid : Bootstrap.Valid invocation.environment) :
    (run invocation).seen =
      shown invocation.infiniteSizes (decide (.publicView ∈ requests))
        (Configuration.obtained invocation.read
          (chosenSource requests invocation.environment)
          (if .noEnvironment ∈ requests then none
            else some invocation.environment)) := by
  obtain ⟨plan, ran, publicView, assembled⟩ := run_requests given values valid
  rw [ran, seen_carryOut, publicView, assembled]

/-- The command agrees with what it is made of.  For requests whose paths are
values, in an environment with a valid layout of logs: if obtaining the
configuration ends in an error about the configuration, that is reported with
status 1 and nothing on standard output; if a configuration is obtained, the
status is 0 and standard output holds its report, or a JSON text of the settings
that clients may see.  What is logged makes no difference. -/
theorem run_agrees (invocation : Invocation) (requests : List Request)
    (given : invocation.arguments = requests.flatMap Request.arguments)
    (values : ∀ path, .config path ∈ requests → IsValue path)
    (valid : Bootstrap.Valid invocation.environment) :
    let result := Configuration.obtained invocation.read
      (chosenSource requests invocation.environment)
      (if .noEnvironment ∈ requests then none else some invocation.environment)
    (∀ cause, result = .error cause → cause.isExpected invocation.infiniteSizes = true →
      ∃ log, run invocation = .finished 1 "" log (some cause)) ∧
    (∀ configuration, result = .ok configuration →
      .publicView ∉ requests →
      ∀ text, configuration.dump = .ok text →
        ∃ log, run invocation = .finished 0 (text ++ "\n") log none) ∧
    (∀ configuration, result = .ok configuration →
      .publicView ∈ requests →
      ∀ text, configuration.publicText = .ok text →
        Json.read? text = some configuration.publicView ∧
        ∃ log, run invocation = .finished 0 (text ++ "\n") log none) ∧
    ∀ other, DifferInLogging (chosenSource requests invocation.environment)
        invocation other →
      (run invocation).seen = (run other).seen := by
  intro result
  obtain ⟨plan, ran, publicView, assembled⟩ := run_requests given values valid
  rw [ran]
  refine ⟨?_, ?_, ?_, ?_⟩
  · intro cause failed expected
    exact carryOut_of_expected (assembled.trans failed) expected
  · intro configuration obtained plain text dumped
    refine carryOut_of_printed (assembled.trans obtained) ?_
    rw [publicView, decide_eq_false plain]
    exact dumped
  · intro configuration obtained asked text written
    refine ⟨read?_publicText written, ?_⟩
    refine carryOut_of_printed (assembled.trans obtained) ?_
    rw [publicView, decide_eq_true asked]
    exact written
  · intro other differ
    have seen := seen_run (differ.arguments ▸ given) values differ.layout
    have source : chosenSource requests other.environment =
        chosenSource requests invocation.environment := by
      rw [chosenSource, chosenSource, differ.path]
    have alike := differ.obtained (decide (.noEnvironment ∈ requests))
    simp only [decide_eq_true_eq] at alike
    rw [← ran, seen_run given values valid, seen, source,
      differ.infiniteSizes]
    exact shown_congr alike _ _

end Run

/-- Files of which one is empty and all others are missing. -/
def oneFile (path : FilePath) : Except Unavailable ByteArray :=
  if path = .ofText "site.cfg" then .ok "".toUTF8 else .error .missing

/-- Clients' settings are asked for, without overrides, with logs as JSON
objects. -/
def publicInvocation : Invocation where
  arguments := ["--config", "site.cfg", "--no-env", "--public"]
  environment := [("plikd_log_json", "yes"), ("PLIKD_LISTEN_PORT", "none")]
  read := oneFile
  time := ⟨"", ""⟩

/-- The same with debugging, and with logs for people. -/
def debuggingInvocation : Invocation :=
  { publicInvocation with
    environment :=
      [("PLIKD_LISTEN_PORT", "none"), ("PLIKD_LOG_LEVEL", "warning"),
       ("PLIKD_DEBUG", "on")] }

theorem publicInvocation_differs :
    DifferInLogging (.ofText "site.cfg") publicInvocation
      debuggingInvocation where
  arguments := rfl
  path := rfl
  layout := by
    intro text given
    cases given
  infiniteSizes := rfl
  environment :=
    { texts := by
        have same : ∀ field ∈ Field.all, field.isLogging = false →
            publicInvocation.environment.text? field =
              debuggingInvocation.environment.text? field := by
          decide +kernel
        exact fun field => same field field.mem_all
      debugging := by decide +kernel }
  loaded := .refl .refl _

theorem publicInvocation_agrees :
    ∃ configuration text log,
      Configuration.obtained oneFile (.ofText "site.cfg") none =
        .ok configuration ∧
      configuration.publicText = .ok text ∧
      Json.read? text = some configuration.publicView ∧
      run publicInvocation = .finished 0 (text ++ "\n") log none ∧
      (run debuggingInvocation).seen = some (0, text ++ "\n") := by
  have values (path : String) (member : .config path ∈
      [Request.config "site.cfg", .noEnvironment, .publicView]) :
      IsValue path := by
    obtain rfl : path = "site.cfg" := by simpa using member
    exact isValue_of_head (by decide)
  have valid : Bootstrap.Valid publicInvocation.environment := by
    intro text given
    obtain rfl : "yes" = text := Option.some.inj given
    exact ⟨true, rfl⟩
  obtain ⟨_, _, agrees, seen⟩ := run_agrees publicInvocation
    [.config "site.cfg", .noEnvironment, .publicView] rfl values valid
  obtain ⟨readable, log, ended⟩ := agrees _ rfl (by decide) _ rfl
  refine ⟨_, _, log, rfl, rfl, readable, ended, ?_⟩
  rw [← seen debuggingInvocation publicInvocation_differs, ended]
  rfl

/-- The argument after the option for the path begins with a hyphen. -/
def hyphenInvocation : Invocation where
  arguments := ["--config", "-x"]
  environment := []
  read := oneFile
  time := ⟨"", ""⟩

/-- Two variables name a path, one of them in lower case. -/
def lowerCaseInvocation : Invocation where
  arguments := []
  environment := [("PLIKD_CONFIG", "other.cfg"), ("plikd_config", "site.cfg")]
  read := oneFile
  time := ⟨"", ""⟩

/-- A path that begins with a hyphen is taken for an option, and the variable
for the path counts under a name in another case as well. -/
theorem paths_misread :
    (Configuration.obtained oneFile (.ofText "-x") (some []) =
        .error (.unavailable "-x" .missing) ∧
      run hyphenInvocation = .usage .wrong) ∧
    Configuration.obtained oneFile (.ofText "other.cfg")
        (some lowerCaseInvocation.environment) =
      .error (.unavailable "other.cfg" .missing) ∧
    ∀ log cause,
      run lowerCaseInvocation ≠ .finished 1 "" log (some cause) := by
  refine ⟨⟨rfl, rfl⟩, rfl, ?_⟩
  have valid : Bootstrap.Valid lowerCaseInvocation.environment := by
    intro text given
    cases given
  have seen := @seen_run lowerCaseInvocation [] rfl nofun valid
  intro log cause ended
  rw [ended] at seen
  cases seen

end Command

end ServerConfig
