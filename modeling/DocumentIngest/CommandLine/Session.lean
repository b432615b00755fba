import DocumentIngest.CommandLine
import DocumentIngest.Report
import DocumentIngest.Settings.Loading

/-!
# A run from the command line

From arguments, environment and files to an exit code and what is said.
-/

namespace DocumentIngest

/-- How the program ends. -/
inductive CommandOutcome where
  /-- The command line did not lead to a run. -/
  | stopped (stop : CommandLineStop)
  /-- The settings could not be loaded. -/
  | misconfigured (failure : Failure)
  /-- The run did not complete. -/
  | failed (failure : Failure)
  | completed (report : RunReport)
deriving Repr

namespace CommandLineStop

/-- Asking for help or for the version is no mistake. -/
def exitCode : CommandLineStop → Nat
  | help | version => 0
  | _ => 2

end CommandLineStop

namespace CommandOutcome

def exitCode : CommandOutcome → Nat
  | stopped stop => stop.exitCode
  | misconfigured _ | failed _ => 1
  | completed _ => 0

/-- What the causes of a failure say when a store cannot be reached. -/
def signsOfSilence : List String :=
  ["error sending request", "connection refused", "Connection refused", "tcp connect error",
    "dns error", "could not reach the store"]

/-- Whether a text says that a store cannot be reached. -/
def tellsOfSilence (text : String) : Bool :=
  signsOfSilence.any fun sign => Text.occursIn sign.toList text.toList

/-- Whether a run failed because its store could not be reached, as far as its
causes tell. -/
def isSilent : CommandOutcome → Bool
  | failed failure => (failure.texts.drop 1).any tellsOfSilence
  | _ => false

/-- What is said about a store that cannot be reached. -/
def hint : String :=
  "🔧 hint: looks like the store isn't reachable. Check that Elasticsearch is " ++
    "actually running and that store.url points at it. If you're using Docker, " ++
    "\x60docker ps\x60 will tell you what's up. ☕"

/-- What is said about what went wrong. -/
def complaints (outcome : CommandOutcome) : List String :=
  match outcome with
  | stopped _ => []
  | misconfigured failure => ["Error: " ++ failure.message]
  | failed failure =>
      (failure.texts.take 1).map ("💀 error: " ++ ·) ++
        (failure.texts.drop 1).map ("⚠️  cause: " ++ ·) ++
        (if outcome.isSilent then [hint] else [])
  | completed report => report.complaints

/-- What is printed. -/
def output : CommandOutcome → String
  | completed report => Report.text report.summary
  | _ => ""

/-- The outcome with the time that the run took. -/
def lasting (milliseconds : Nat) : CommandOutcome → CommandOutcome
  | completed report =>
      completed { report with summary := { report.summary with elapsedMs := milliseconds } }
  | outcome => outcome

end CommandOutcome

namespace CommandLine

/-- Settings from everywhere, the command line last. -/
def settings (line : CommandLine) (files : FileTree) (environment : Environment) :
    Except Failure Settings :=
  match line.config.filter fun path => !files.exists? path with
  | some path =>
      .error (.plain
        ("💀 Configuration file '" ++ path ++ "' does not exist. Use an absolute path, " ++
          "to be absolutely certain."))
  | none =>
      attempting
        ("💀 We couldn't load the config. Take a look at the file and the INGX_* variables.")
        ((Settings.load files environment line.config line.credentials).map line.apply)

/-- Runs the program. -/
def execute {τ : Type} [WebServer τ] (arguments : List String) (environment : Environment)
    (server : τ) (pageLimit : Nat) (files : FileTree) (now : Int) : FileTree × CommandOutcome :=
  match parse arguments with
  | .error stop => (files, .stopped stop)
  | .ok line =>
      match line.settings files environment with
      | .error failure => (files, .misconfigured failure)
      | .ok settings =>
          match Run.ingest settings server pageLimit files now with
          | (files, .error failure) => (files, .failed failure)
          | (files, .ok report) => (files, .completed report)

end CommandLine

end DocumentIngest
