import CaptureLink.Config.Toml
import CaptureLink.Files

/-
  Configurations from files, and the configuration that is in
  force when the environment has had its say.

  Key definitions include:
    * `Config.ofFile`
    * `Config.effective`
-/

namespace CaptureLink

namespace Config

/- The configuration in a file, given what came of reading it. -/
def ofFile
    (words : Diagnosis)
    (name : String)
    (content : Except FileProblem (List UInt8)) :
    Except Fault Config :=
  match content >>= FileProblem.textOf with
  | .error problem =>
      .error (.config
        ("Failed to read config file " ++ name ++ ": " ++
          problem.message))
  | .ok text =>
      match ofToml? text with
      | some config => .ok config
      | none =>
          .error (.config
            ("Failed to parse config: " ++ words.noConfig text))

/- A configuration from a file, and the environment over it. -/
def effective
    (file : Config)
    (env : Environment) : Config :=
  file.merge (ofEnvironment env)

end Config

end CaptureLink
