import Mathlib.Data.List.Induction
import ServerConfig.Command.Run
import ServerConfig.Proofs.Text.Split

/-!
# Requests to the command

Arguments are read as words before they are followed, so that a path which
begins with a hyphen may be taken for an option.  `Request` lists what can be
asked of the command, help aside; `IsValue` says of which paths the argument
after the option is a value.  Lists of requests whose paths are values make the
choices that they ask for: the last path counts, flags do not wear off.
-/

namespace ServerConfig.Command

/-- What can be asked of the command. -/
inductive Request where
  /-- The path is an argument of its own. -/
  | config (path : String)
  /-- The path follows an equals sign. -/
  | joined (path : String)
  | noEnvironment
  | publicView
deriving DecidableEq, Repr

namespace Request

/-- The arguments that make a request. -/
def arguments : Request → List String
  | .config path => ["--config", path]
  | .joined path => ["--config=" ++ path]
  | .noEnvironment => ["--no-env"]
  | .publicView => ["--public"]

/-- What the arguments of a request are taken for. -/
def words : Request → List Word
  | .config path => [.option .config none, .plain path]
  | .joined path => [.option .config (some path)]
  | .noEnvironment => [.option .noEnvironment none]
  | .publicView => [.option .publicView none]

def path? : Request → Option String
  | .config path => some path
  | .joined path => some path
  | _ => none

def choose (choices : Choices) : Request → Choices
  | .config path => { choices with config := some path }
  | .joined path => { choices with config := some path }
  | .noEnvironment => { choices with noEnvironment := true }
  | .publicView => { choices with publicView := true }

end Request

/-- An argument that is a value, and no option. -/
def IsValue (text : String) : Prop :=
  Word.ofText text = .ok (.plain text)

/-- A text that does not begin with a hyphen is a value. -/
theorem isValue_of_head {text : String}
    (plain : text.toList.head? ≠ some '-') : IsValue text := by
  unfold IsValue Word.ofText
  cases start : text.toList with
  | nil => rfl
  | cons c rest =>
      have other : c ≠ '-' := by simpa [start] using plain
      split <;> simp_all

/-! ## Words -/

theorem ofText_longName (flag : Flag) :
    Word.ofText flag.longName = .ok (.option flag none) := by
  cases flag <;> rfl

section Joined

variable (path : String)

theorem toList_joined :
    ("--config=" ++ path).toList = "--config".toList ++ '=' :: path.toList :=
  String.toList_append

theorem cutValue_joined :
    cutValue ("--config=" ++ path) = ("--config", some path) := by
  have cut : Text.cutFirst '=' ("--config=" ++ path).toList =
      ("--config".toList, some path.toList) := by
    rw [toList_joined]
    exact Text.cutFirst_append (by decide)
  rw [cutValue, cut]
  exact congrArg (Prod.mk _) (congrArg some String.ofList_toList)

/-- No option has an equals sign in its name. -/
theorem longName_ne_joined (flag : Flag) :
    flag.longName ≠ "--config=" ++ path := by
  intro same
  have sign : '=' ∈ flag.longName.toList := by
    rw [same, toList_joined]
    exact List.mem_append_right _ List.mem_cons_self
  cases flag <;> revert sign <;> decide

theorem ofText_joined :
    Word.ofText ("--config=" ++ path) =
      .ok (.option .config (some path)) := by
  have option : "--config=" ++ path ≠ "--" := by
    intro same
    have chars := congrArg String.toList same
    rw [toList_joined] at chars
    cases chars
  have unnamed :
      Flag.all.find? (·.longName == "--config=" ++ path) = none := by
    rw [List.find?_eq_none]
    intro flag _
    simpa using longName_ne_joined path flag
  have named : Flag.all.find? (·.longName == "--config") = some .config := rfl
  rw [Word.ofText, toList_joined]
  simp [option, cutValue_joined, unnamed, named]

end Joined

theorem wordsOf_cons {text : String} {word : Word} (rest : List String)
    (read : Word.ofText text = .ok word) (more : word ≠ .endOfOptions) :
    wordsOf (text :: rest) = (wordsOf rest).map (word :: ·) := by
  rw [wordsOf, read]
  simp only [bind, Except.bind, if_neg more]
  cases wordsOf rest <;> rfl

theorem wordsOf_arguments (request : Request) (rest : List String)
    (values : ∀ path, request = .config path → IsValue path) :
    wordsOf (request.arguments ++ rest) =
      (wordsOf rest).map (request.words ++ ·) := by
  cases request with
  | config path =>
      have first := wordsOf_cons (path :: rest) (ofText_longName .config)
        nofun
      rw [wordsOf_cons rest (values path rfl) nofun] at first
      refine first.trans ?_
      cases wordsOf rest <;> rfl
  | joined path => exact wordsOf_cons rest (ofText_joined path) nofun
  | noEnvironment =>
      exact wordsOf_cons rest (ofText_longName .noEnvironment) nofun
  | publicView => exact wordsOf_cons rest (ofText_longName .publicView) nofun

/-! ## Choices -/

section Choices

variable {requests : List Request}

private theorem wordsOf_requests
    (values : ∀ path, .config path ∈ requests → IsValue path) :
    wordsOf (requests.flatMap Request.arguments) =
      .ok (requests.flatMap Request.words) := by
  induction requests with
  | nil => rfl
  | cons request rest ih =>
      have own (path : String) (same : request = .config path) :
          IsValue path := values path (same ▸ List.mem_cons_self)
      rw [List.flatMap_cons, wordsOf_arguments request _ own,
        ih fun path member => values path (List.mem_cons_of_mem _ member)]
      rfl

private theorem follow_requests (requests : List Request) (choices : Choices) :
    follow choices false (requests.flatMap Request.words) =
      .ok (requests.foldl Request.choose choices) := by
  -- No word of a request is stray, and none ends the command.
  induction requests generalizing choices with
  | nil => rfl
  | cons request rest ih =>
      rw [List.flatMap_cons, List.foldl_cons, ← ih]
      cases request <;> rfl

/-- Requests whose paths are values make their choices. -/
theorem ofArguments_requests
    (values : ∀ path, .config path ∈ requests → IsValue path) :
    Choices.ofArguments (requests.flatMap Request.arguments) =
      .ok (requests.foldl Request.choose {}) := by
  rw [Choices.ofArguments, wordsOf_requests values]
  exact follow_requests requests {}

theorem foldl_choose (requests : List Request) (choices : Choices) :
    requests.foldl Request.choose choices =
      { config := ((requests.filterMap Request.path?).getLast?).or
          choices.config
        noEnvironment := choices.noEnvironment ||
          decide (.noEnvironment ∈ requests)
        publicView := choices.publicView ||
          decide (.publicView ∈ requests) } := by
  induction requests using List.reverseRecOn with
  | nil => simp
  | append_singleton requests request ih =>
      rw [List.foldl_append, ih, List.foldl_cons, List.foldl_nil]
      cases request <;> simp [Request.choose, Request.path?]

end Choices

end ServerConfig.Command
