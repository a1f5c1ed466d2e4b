import LazyDispatch.Text.Letters

/-! Configuration of registries and of console output. -/

namespace LazyDispatch

/-- What becomes of a signature that is registered again under its name. -/
inductive DuplicatePolicy where
  /-- It is accepted, and reported as ambiguous by streams made afterwards. -/
  | defer
  /-- Its registration fails. -/
  | reject
  deriving DecidableEq, Repr, Inhabited

def DuplicatePolicy.name : DuplicatePolicy → String
  | defer => "defer"
  | reject => "reject"

def DuplicatePolicy.ofName? (name : String) : Option DuplicatePolicy :=
  [defer, reject].find? fun policy => policy.name = name

structure Config where
  duplicatePolicy : DuplicatePolicy := .defer
  /-- Registries start with the operation `then`. -/
  builtins : Bool := true
  /-- Directives added to the console's filter. -/
  logFilter : Option String := none
  deriving DecidableEq, Repr

namespace Config

inductive Failure where
  /-- The file is missing or is not text. -/
  | io
  | toml
  | yaml
  | invalid (reason : String)
  deriving DecidableEq, Repr

def Failure.message : Failure → String
  | .io => "IO error"
  | .toml => "TOML parse error"
  | .yaml => "YAML parse error"
  | .invalid reason => "Invalid configuration: " ++ reason

def validate (config : Config) : Except Failure Config :=
  match config.logFilter with
  | none => .ok config
  | some filter =>
    if (Text.trim filter.toList).isEmpty then .error (.invalid "log_filter must not be empty")
    else .ok config

end Config
end LazyDispatch
