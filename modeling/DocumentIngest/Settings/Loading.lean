import DocumentIngest.Layer
import DocumentIngest.Settings
import DocumentIngest.Settings.Variable

/-!
# Loading settings

Settings come in three layers: variables of the environment, a file, and a second
file with credentials, each over the one before.
-/

namespace DocumentIngest

/-- The variables of the environment by name. -/
abbrev Environment := Keyed String

namespace Settings

/-- The layer of the environment. -/
def environmentLayer (environment : Environment) : Json.Fields :=
  environment.foldl
    (fun below entry =>
      match Variable.place? entry.1 with
      | none => below
      | some place =>
          match Variable.nested (Variable.ofText entry.2) place with
          | .object fields => Layer.cover below fields
          | _ => below)
    []

/-- The layer of a file that may not have been asked for. -/
def fileLayer (files : FileTree) : Option String → Except SettingsFault Json.Fields
  | none => .ok []
  | some path => Layer.ofFile .toml files path

/-- All layers, one over the other. -/
def layers (files : FileTree) (environment : Environment) (config credentials : Option String) :
    Except SettingsFault Json.Fields := do
  let configLayer ← fileLayer files config
  let credentialsLayer ← fileLayer files credentials
  return Layer.cover (Layer.cover (environmentLayer environment) configLayer) credentialsLayer

/-- What is said when settings cannot be loaded. -/
def attempt : Option String → String
  | some path =>
      "💀 Failed to parse configuration from file '" ++ path ++
        "' and environment variables (INGX_*). " ++
        "The file exists in our hearts, but apparently not on disk."
  | none =>
      "💀 Failed to parse configuration from environment variables (INGX_*). " ++
        "No file was provided, so this one's all on the environment. Classic."

/-- Loads settings. -/
def load (files : FileTree) (environment : Environment) (config credentials : Option String) :
    Except Failure Settings :=
  attempting (attempt config)
    (match layers files environment config credentials with
    | .error fault => .error (.of (.settings fault))
    | .ok fields =>
        (reader .lenient (.object fields)).mapError fun fault =>
          .of (.settings (.shape fault)))

end Settings

end DocumentIngest
