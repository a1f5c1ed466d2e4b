import LazyDispatch.Config
import LazyDispatch.Config.Yaml.Node

/-! Configurations written as YAML. -/

namespace LazyDispatch.Yaml

def nulls : List String := ["null", "Null", "NULL", "~"]

def booleans : List (String × Bool) :=
  [("true", true), ("True", true), ("TRUE", true),
    ("false", false), ("False", false), ("FALSE", false)]

namespace Scalar

def bool? (scalar : Scalar) : Option Bool :=
  if scalar.style = .plain ∨ (scalar.style = .literal ∧ scalar.tag = some (standardTag "bool")) then
    booleans.lookup scalar.text
  else none

def optionalText? (scalar : Scalar) : Option (Option String) :=
  if scalar.style ≠ .plain then some (some scalar.text)
  else if scalar.tag = some (standardTag "null") then
    if nulls.contains scalar.text then some none else none
  else if scalar.tag.isNone ∧ (scalar.text.isEmpty ∨ nulls.contains scalar.text) then some none
  else some (some scalar.text)

def localTag? (scalar : Scalar) : Option String :=
  match scalar.tag with
  | some (0x21 :: name) => String.fromUTF8? name.toByteArray
  | _ => none

/-- A policy by name, or as the tag of nothing. -/
def policy? (scalar : Scalar) : Option DuplicatePolicy :=
  match scalar.localTag? with
  | none => DuplicatePolicy.ofName? scalar.text
  | some name =>
    if scalar.style = .plain ∧ (scalar.text.isEmpty ∨ nulls.contains scalar.text) then
      DuplicatePolicy.ofName? name
    else none

end Scalar

namespace Document

def scalar? (document : Document) : Node → Option Scalar
  | .scalar held => some held
  | .mention number => document.anchors.scalar? number
  | _ => none

def rows? (document : Document) : Option (List (String × Node)) :=
  match document.root with
  | .scalar held => if held.style = .plain ∧ held.text.isEmpty then some [] else none
  | .mapping rows => rows.mapM fun (key, value) => return ((← document.scalar? key).text, value)
  | _ => none

def setting? {α : Type} (document : Document) (rows : List (String × Node)) (key : String)
    (read : Scalar → Option α) : Option (Option α) :=
  match rows.filter fun row => row.1 = key with
  | [] => some none
  | [(_, value)] => do return some (← read (← document.scalar? value))
  | _ => none

end Document

def config? (text : String) : Option Config := do
  let document ← document? text
  let rows ← document.rows?
  let policy ← document.setting? rows "duplicate_policy" Scalar.policy?
  let builtins ← document.setting? rows "builtins" Scalar.bool?
  let logFilter ← document.setting? rows "log_filter" Scalar.optionalText?
  return ⟨policy.getD .defer, builtins.getD true, logFilter.join⟩

end LazyDispatch.Yaml
