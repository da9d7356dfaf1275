import CommentFold.CommandLine.Arguments
import CommentFold.FileFold
import CommentFold.Log.Line

/-! A run of the program. The arguments and the log filter are checked before any
file is touched. Then the files are folded one after the other, each is
confirmed, and the first failure ends the run: files before it stay folded,
and so does the file whose confirmation is refused. -/

namespace CommentFold.CommandLine

def helpLines : List String :=
  ["Rewrites runs of // line comments into /** */ block comments in place",
    "",
    "Usage: recomment [OPTIONS] [PATH]...",
    "",
    "Arguments:",
    "  [PATH]...  Source files to rewrite, processed in order",
    "",
    "Options:",
    "      --close-trailing-block  Closes a comment block that is still open at end of file",
    "      --log-filter <FILTER>   Tracing filter directive for diagnostic logs (for example `debug`) [default: warn]",
    "      --log-format <FORMAT>   Format of diagnostic logs written to stderr [default: compact]",
    "  -h, --help                  Print help",
    "  -V, --version               Print version"]

def helpText : Text := helpLines.flatMap fun line => line.toList ++ ['\n']

def versionText : Text := "recomment 0.1.0\n".toList

/-- Why a run fails. Setting up the log adds no fault: a process that has just started
has no other log in its place, and the filter for it has been read once already. -/
inductive RunFault where
  | usage (fault : UsageFault)
  | badFilter (filter : Text) (fault : Log.FilterFault)
  | file (failure : Failure)
  | output (fault : Fault)
  deriving DecidableEq, Repr

def RunFault.message : RunFault → Text
  | usage fault => "error: ".toList ++ fault.message
  | badFilter filter fault =>
    "invalid log filter '".toList ++ filter ++ "': ".toList ++ fault.message
  | file failure => failure.diagnostic
  | output fault => "failed to write output: ".toList ++ fault.message

/-- Which events a run logs, and in which form. -/
structure LogPlan where
  filter : Log.Filter
  format : Log.Format

variable {m : Type → Type} {σ : Type} [Monad m] [Console m]

def LogPlan.record (plan : LogPlan) (scope? : Option Scope) : List Event → m Unit
  | [] => pure ()
  | event :: rest => do
    match Log.line? plan.filter plan.format scope? event with
    | some line => Console.log line
    | none => pure ()
    plan.record scope? rest

def print (text : Text) : m (Except RunFault Unit) := do
  match ← Console.print (Utf8.encode text) with
  | .ok () => pure (.ok ())
  | .error fault => pure (.error (.output fault))

def confirmation (path : Path) : Text := "rewrote comments in ".toList ++ path.shown ++ ['\n']

variable [Storage m σ]

def foldEach (plan : LogPlan) (trailing : Trailing) : List Path → m (Except RunFault Unit)
  | [] => pure (.ok ())
  | path :: rest => do
    let outcome ← foldFile path trailing
    plan.record (some ⟨path⟩) outcome.events
    match outcome.result with
    | .error failure => pure (.error (.file failure))
    | .ok report =>
      match ← print (confirmation report.path) with
      | .error fault => pure (.error fault)
      | .ok () => foldEach plan trailing rest

def execute (filter : Log.Filter) (settings : Settings) : m (Except RunFault Unit) := do
  let plan : LogPlan := ⟨filter, settings.format⟩
  plan.record none [.started settings.paths.length]
  foldEach plan settings.trailing settings.paths

/-- What the arguments ask for. There is no answer if the reader of log filters breaks off. -/
def answer? (reader : Log.FilterReader) (arguments : List Bytes) : Option (m (Except RunFault Unit)) :=
  match readArguments arguments with
  | .error fault => some (pure (.error (.usage fault)))
  | .ok .help => some (print helpText)
  | .ok .version => some (print versionText)
  | .ok (.fold settings) =>
    match reader settings.filter with
    | .ok filter => some (execute filter settings)
    | .error (.refused fault) => some (pure (.error (.badFilter settings.filter fault)))
    | .error .brokenOff => none

/-- How a run ends. One that breaks off has said nothing of its own. -/
inductive ExitStatus where
  | success
  | failure
  | brokenOff
  deriving DecidableEq, Repr

def ExitStatus.code : ExitStatus → Nat
  | success => 0
  | failure => 1
  | brokenOff => 101

/-- A fault is complained about; whether the complaint is heard does not matter. -/
def conclude (action : m (Except RunFault Unit)) : m ExitStatus := do
  match ← action with
  | .ok () => pure .success
  | .error fault =>
    Console.complain (Utf8.encode (fault.message ++ ['\n']))
    pure .failure

/-- A run with some reader of log filters. -/
def runWith (reader : Log.FilterReader) (arguments : List Bytes) : m ExitStatus :=
  match answer? reader arguments with
  | some action => conclude action
  | none => pure .brokenOff

def run (arguments : List Bytes) : m ExitStatus := runWith Log.Filter.parse arguments

end CommentFold.CommandLine
