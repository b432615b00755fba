import DocumentIngest.Settings
import DocumentIngest.Text.Cutting

/-!
# The command line

Every option takes a value and may be given once.  Its value stands in the next
argument, or behind an equals sign, or right behind its letter.  Options override
what the settings say.
-/

namespace DocumentIngest

/-- What the command line asks for. -/
structure CommandLine where
  config : Option String := none
  credentials : Option String := none
  jobId : Option String := none
  jobSpec : Option String := none
  workers : Option Nat := none
  outputDirectory : Option String := none
  inputDirectory : Option String := none
  filePattern : Option String := none
  fileMask : Option String := none
  firstEpoch : Option Int := none
  lastEpoch : Option Int := none
deriving DecidableEq, Repr, Inhabited

/-- Why a command line does not lead to a run. -/
inductive CommandLineStop where
  /-- Help was asked for. -/
  | help
  /-- The version was asked for. -/
  | version
  | unknownArgument
  /-- An option has no value, or an empty one where a path belongs. -/
  | missingValue
  /-- A value is not what its option takes. -/
  | unreadableValue
  | repeatedOption
  /-- A value stands behind an option that takes none. -/
  | surplusValue
deriving DecidableEq, Repr

namespace CommandLine

/-- A reader of values. -/
abbrev ValueReader (α : Type) := String → Except CommandLineStop α

def textValue : ValueReader String :=
  .ok

def pathValue (value : String) : Except CommandLineStop String :=
  if value.isEmpty then .error .missingValue else .ok value

/-- The digits of a number, as a number. -/
def digits? (text : List Char) : Option Nat :=
  if !text.isEmpty && text.all Char.isDigit then
    some (text.foldl (fun value digit => value * 10 + (digit.toNat - '0'.toNat)) 0)
  else none

/-- An unsigned integer of 64 bits. -/
def naturalValue (value : String) : Except CommandLineStop Nat :=
  let digits :=
    match value.toList with
    | '+' :: rest => rest
    | rest => rest
  match digits? digits with
  | some number => if number < 2 ^ 64 then .ok number else .error .unreadableValue
  | none => .error .unreadableValue

/-- A signed integer of 64 bits. -/
def integerValue (value : String) : Except CommandLineStop Int :=
  let (negative, digits) :=
    match value.toList with
    | '-' :: rest => (true, rest)
    | '+' :: rest => (false, rest)
    | rest => (false, rest)
  match digits? digits with
  | some magnitude =>
      let number : Int := if negative then -magnitude else magnitude
      if -(2 ^ 63) ≤ number ∧ number < 2 ^ 63 then .ok number else .error .unreadableValue
  | none => .error .unreadableValue

/-- An option of the command line. -/
structure Choice where
  name : String
  letter : Option Char := none
  /-- Reads a value into the command line. -/
  store : CommandLine → String → Except CommandLineStop CommandLine

/-- An option whose values are read in some way. -/
def choice {α : Type} (name : String) (letter : Option Char) (reader : ValueReader α)
    (set : CommandLine → α → CommandLine) : Choice :=
  ⟨name, letter, fun line value => (reader value).map (set line)⟩

/-- The options. -/
def choices : List Choice :=
  [choice "config" (some 'c') pathValue fun line path => { line with config := some path },
    choice "credentials" none pathValue fun line path => { line with credentials := some path },
    choice "job-id" none textValue fun line id => { line with jobId := some id },
    choice "job-spec" none pathValue fun line path => { line with jobSpec := some path },
    choice "workers" (some 'w') naturalValue
      fun line count => { line with workers := some count },
    choice "output-dir" (some 'o') pathValue
      fun line path => { line with outputDirectory := some path },
    choice "input-dir" none pathValue fun line path => { line with inputDirectory := some path },
    choice "file-pattern" none textValue
      fun line pattern => { line with filePattern := some pattern },
    choice "file-mask" none textValue fun line mask => { line with fileMask := some mask },
    choice "first-epoch" none integerValue
      fun line second => { line with firstEpoch := some second },
    choice "last-epoch" none integerValue
      fun line second => { line with lastEpoch := some second }]

/-- A command line that is being read. -/
structure Draft where
  line : CommandLine := {}
  /-- The names of the options that have their value. -/
  given : List String := []
  /-- An option whose value was not looked at yet, and its value if it was met. -/
  pending : Option (Choice × Option String) := none
  /-- Whether nothing is an option any more. -/
  onlyPlain : Bool := false

namespace Draft

/-- Gives an option its value. -/
def assign (draft : Draft) (option : Choice) (value : String) : Except CommandLineStop Draft :=
  if draft.given.contains option.name then .error .repeatedOption
  else
    (option.store draft.line value).map fun line =>
      { draft with line, given := option.name :: draft.given }

/-- Looks at the value of the pending option. -/
def settle (draft : Draft) : Except CommandLineStop Draft :=
  match draft.pending with
  | none => .ok draft
  | some (_, none) => .error .missingValue
  | some (option, some value) => { draft with pending := none }.assign option value

/-- Meets an option; its value stands with it or follows. -/
def meet (draft : Draft) (option : Choice) (value : Option String) :
    Except CommandLineStop Draft := do
  let draft ← draft.settle
  match value with
  | some value => draft.assign option value
  | none => .ok { draft with pending := some (option, none) }

/-- Meets a request that ends the reading. -/
def quit (draft : Draft) (stop : CommandLineStop) : Except CommandLineStop Draft :=
  draft.settle.bind fun _ => .error stop

/-- Reads an argument behind two hyphens. -/
def readName (draft : Draft) (text : List Char) : Except CommandLineStop Draft :=
  match Text.cutAt '=' text with
  | (name, value) =>
      let name := String.ofList name
      let quitWith (stop : CommandLineStop) : Except CommandLineStop Draft :=
        if value.isSome then .error .surplusValue else draft.quit stop
      if name = "help" then quitWith .help
      else if name = "version" then quitWith .version
      else
        match choices.find? fun option => option.name == name with
        | some option => draft.meet option (value.map String.ofList)
        | none => .error .unknownArgument

/-- Reads an argument behind one hyphen. -/
def readLetter (draft : Draft) (letter : Char) (rest : List Char) :
    Except CommandLineStop Draft :=
  if letter = 'h' then draft.quit .help
  else if letter = 'V' then draft.quit .version
  else
    match choices.find? fun option => option.letter == some letter with
    | none => .error .unknownArgument
    | some option =>
        match rest with
        | [] => draft.meet option none
        | '=' :: value => draft.meet option (some (String.ofList value))
        | value => draft.meet option (some (String.ofList value))

/-- Reads an argument that is no option. -/
def readPlain (draft : Draft) (argument : String) : Except CommandLineStop Draft :=
  match draft.pending with
  | some (option, none) =>
      if draft.onlyPlain then .error .unknownArgument
      else .ok { draft with pending := some (option, some argument) }
  | _ => .error .unknownArgument

/-- Reads an argument. -/
def read (draft : Draft) (argument : String) : Except CommandLineStop Draft :=
  if draft.onlyPlain then draft.readPlain argument
  else
    match argument.toList with
    | ['-', '-'] => .ok { draft with onlyPlain := true }
    | '-' :: '-' :: rest => draft.readName rest
    | '-' :: letter :: rest => draft.readLetter letter rest
    | _ => draft.readPlain argument

end Draft

/-- Reads the arguments of a command line. -/
def parse (arguments : List String) : Except CommandLineStop CommandLine := do
  let draft ← arguments.foldlM Draft.read {}
  let draft ← draft.settle
  return draft.line

/-- Settings with what the command line says in their place. -/
def apply (line : CommandLine) (settings : Settings) : Settings :=
  { settings with
    runtime.workerCount := line.workers.getD settings.runtime.workerCount
    outputDirectory := line.outputDirectory.or settings.outputDirectory
    job.id := line.jobId.or settings.job.id
    job.specFile := line.jobSpec.or settings.job.specFile
    discovery.inputDirectory := line.inputDirectory.or settings.discovery.inputDirectory
    discovery.filePattern := line.filePattern.or settings.discovery.filePattern
    discovery.fileMask := line.fileMask.or settings.discovery.fileMask
    discovery.firstEpoch := line.firstEpoch.or settings.discovery.firstEpoch
    discovery.lastEpoch := line.lastEpoch.or settings.discovery.lastEpoch }

end CommandLine

end DocumentIngest
