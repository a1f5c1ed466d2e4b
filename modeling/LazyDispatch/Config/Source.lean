import LazyDispatch.Config
import LazyDispatch.Config.Toml
import LazyDispatch.Config.Yaml

/-! Where a configuration comes from. -/

namespace LazyDispatch.Config

inductive Format where
  | toml
  | yaml
  deriving DecidableEq, Repr

inductive Source where
  | text (format : Format) (content : String)
  /-- A file by its bytes, or none if it is missing. -/
  | file (format : Format) (content : Option ByteArray)
  /-- Settings made one by one. What is not set keeps its default, and nothing is validated. -/
  | settings (duplicatePolicy : Option DuplicatePolicy) (builtins : Option Bool)
    (logFilter : Option String)

def ofText (format : Format) (content : String) : Except Failure Config :=
  match format with
  | .toml =>
    match Toml.config? content with
    | some config => config.validate
    | none => .error .toml
  | .yaml =>
    match Yaml.config? content with
    | some config => config.validate
    | none => .error .yaml

def Source.load : Source → Except Failure Config
  | text format content => ofText format content
  | file format content =>
    match content.bind String.fromUTF8? with
    | some content => ofText format content
    | none => .error .io
  | settings duplicatePolicy builtins logFilter =>
    .ok ⟨duplicatePolicy.getD .defer, builtins.getD true, logFilter⟩

end LazyDispatch.Config
