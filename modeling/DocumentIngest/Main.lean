import DocumentIngest.CommandLine.Session
import Std.Time.DateTime.Timestamp

/-!
# The program

Takes the files below the working directory and the variables of the environment,
runs, and writes back the files that the run wrote.  The working directory stands for
the root, so no path leads out of it.
-/

namespace DocumentIngest

namespace Program

/-- The version that is printed. -/
def version : String := "ingx 0.1.0"

/-- The options, as they are printed. -/
def help : String :=
  "\n".intercalate
    ["Turn directories of observation files into store documents, once",
      "",
      "Usage: ingx [OPTIONS]",
      "",
      "Options:",
      "  -c, --config <CONFIG>              TOML config file",
      "      --credentials <CREDENTIALS>    TOML file with store credentials",
      "      --job-id <JOB_ID>              Load the job from the store",
      "      --job-spec <JOB_SPEC>          Load the job from a TOML or JSON file",
      "  -w, --workers <WORKERS>",
      "  -o, --output-dir <OUTPUT_DIR>      Write documents as JSON files here",
      "      --input-dir <INPUT_DIR>",
      "      --file-pattern <FILE_PATTERN>  Glob over file names",
      "      --file-mask <FILE_MASK>        strftime mask over file names",
      "      --first-epoch <FIRST_EPOCH>",
      "      --last-epoch <LAST_EPOCH>",
      "  -h, --help                         Print help",
      "  -V, --version                      Print version"]

/-- What is printed when the command line does not lead to a run. -/
def stopText : CommandLineStop → String
  | .help => help
  | .version => version
  | .unknownArgument => "error: unexpected argument found"
  | .missingValue => "error: a value is required but none was supplied"
  | .unreadableValue => "error: invalid value"
  | .repeatedOption => "error: an argument cannot be used multiple times"
  | .surplusValue => "error: unexpected value found"

/-- A modification time in milliseconds since the epoch. -/
def millisecondsOf (time : IO.FS.SystemTime) : Int :=
  time.sec * 1000 + (time.nsec.toNat / 1000000 : Nat)

/-- Reads folder entries with everything below them. -/
partial def readEntries (entries : Array IO.FS.DirEntry) : IO FileTree := do
  let mut tree : FileTree := []
  for entry in entries do
    try
      let metadata ← entry.path.metadata
      match metadata.type with
      | .dir =>
          let below ← readEntries (← entry.path.readDir)
          tree := Keyed.insert tree entry.fileName (.folder below)
      | .file =>
          let content ← IO.FS.readBinFile entry.path
          tree := Keyed.insert tree entry.fileName
            (.file content.toList (millisecondsOf metadata.modified))
      | _ => pure ()
    catch _ => pure ()
  return tree

/-- Writes the folders and files that are new or different. -/
partial def writeEntries (place : String) (before after : FileTree) : IO Unit := do
  for (name, node) in after do
    let path := Path.join place name
    match node with
    | .folder entries =>
        let known := ((Keyed.lookup before name).bind FileNode.entries?).getD []
        IO.FS.createDirAll path
        writeEntries path known entries
    | .file content _ =>
        if ((Keyed.lookup before name).bind FileNode.content?) ≠ some content then
          IO.FS.writeBinFile path ⟨content.toArray⟩

/-- The variables of the environment. -/
def readEnvironment : IO Environment := do
  try
    let content ← IO.FS.readBinFile "/proc/self/environ"
    let text := (String.fromUTF8? content).getD ""
    let entries := (Text.splitOn '\x00' text.toList).filterMap fun entry =>
      match Text.cutAt '=' entry with
      | (name, some value) => some (String.ofList name, String.ofList value)
      | _ => none
    return Keyed.ofPairs entries
  catch _ => return []

/-- More pages than any store has. -/
def pageLimit : Nat := 2 ^ 64

/-- Runs the program in the working directory. -/
def run (arguments : List String) : IO UInt32 := do
  let place ← IO.currentDir
  let files ← readEntries (← place.readDir)
  let environment ← readEnvironment
  let now ← Std.Time.Timestamp.now
  let started ← IO.monoMsNow
  let (written, outcome) :=
    CommandLine.execute arguments environment ({} : NoServer) pageLimit files
      now.toMillisecondsSinceUnixEpoch.val
  writeEntries "" files written
  let outcome := outcome.lasting ((← IO.monoMsNow) - started)
  for complaint in outcome.complaints do
    IO.eprintln complaint
  match outcome with
  | .stopped stop =>
      if stop.exitCode = 0 then IO.println (stopText stop) else IO.eprintln (stopText stop)
  | _ => IO.print outcome.output
  return UInt32.ofNat outcome.exitCode

end Program

end DocumentIngest

/-- Runs the program with the arguments of the command line. -/
def main (arguments : List String) : IO UInt32 :=
  DocumentIngest.Program.run arguments
