import LazyDispatch.Config
import LazyDispatch.Console
import LazyDispatch.Text.Alphanumeric
import LazyDispatch.Text.Letters

/-! Console filters. A filter is a set of directives, one for each target; the longest target that
an event's target begins with decides how fine its events may be. -/

namespace LazyDispatch.Console

/-- The levels by name, ASCII case ignored; `off` is no limit at all, and lets nothing through. -/
def levelNames : List (String × Option Level) :=
  [("off", none), ("error", some .error), ("warn", some .warn), ("info", some .info),
    ("debug", some .debug), ("trace", some .trace)]

def limitOfLetters? (letters : List Char) : Option (Option Level) :=
  let named := levelNames.find? fun (name, _) => name.toList = letters.map Char.toLower
  let digits := if letters.head? = some '+' then letters.tail else letters
  match named with
  | some (_, limit) => some limit
  | none =>
    if digits.isEmpty || !digits.all Char.isDigit then none
    else (levelNames[digits.foldl (fun n d => 10 * n + (d.toNat - 48)) 0]?).map Prod.snd

structure Directive where
  /-- Empty for every target. -/
  target : String
  limit : Option Level
  deriving DecidableEq, Repr

def startsDirective (c : Char) : Bool :=
  Text.isAlphanumeric c || c == '-' || c == ':' || c == '_'

/-- A level, a target or `target=level`. A bare target lets everything through. Blanks around a
directive belong to it, so that a bare one is a target no event has. -/
def Directive.ofLetters? (letters : List Char) : Option Directive :=
  let (target, rest) := letters.span (· ≠ '=')
  if !(Text.trim letters).head?.any startsDirective || target.contains '[' then none
  else
    match rest with
    | [] =>
      match limitOfLetters? target with
      | some limit => some ⟨"", limit⟩
      | none => some ⟨String.ofList target, some .trace⟩
    | _ :: level =>
      if target.head?.any Text.isBlank then none
      else if level.isEmpty then some ⟨String.ofList target, some .trace⟩
      else (limitOfLetters? level).map fun limit => ⟨String.ofList target, limit⟩

abbrev Filter : Type := List Directive

namespace Filter

def add (filter : Filter) (directive : Directive) : Filter :=
  (filter.filter fun other => other.target ≠ directive.target) ++ [directive]

def directives (text : String) : List Directive :=
  (Text.cutAt ',' text.toList).filterMap Directive.ofLetters?

def trimmedDirectives (text : String) : List Directive :=
  (Text.cutAt ',' text.toList).filterMap fun part => Directive.ofLetters? (Text.trim part)

def fallback : Directive := ⟨"opstream_dynamic", some .info⟩

def build (environment : Option String) (config : Config) : Filter :=
  let base := directives (environment.getD "")
  let base := if base.isEmpty then [fallback] else base
  (base ++ trimmedDirectives (config.logFilter.getD "")).foldl add []

def better (best : Option Directive) (directive : Directive) : Option Directive :=
  match best with
  | none => some directive
  | some held => if held.target.length < directive.target.length then some directive else best

def limit (filter : Filter) (target : String) : Option Level :=
  let fitting := filter.filter fun directive => directive.target.isPrefixOf target
  (fitting.foldl better none).bind Directive.limit

/-- The filter of the first start; later ones change nothing, and without any nothing is printed. -/
def ofStarts (environment : Option String) (starts : List Config) : Filter :=
  match starts with
  | [] => []
  | config :: _ => build environment config

end Filter
end LazyDispatch.Console
