import LazyDispatch.Signature.Parser
import LazyDispatch.Value.Display

/-! Edits of a registry, the events that registries and streams report, and registries ready for
use. An edit that fails changes and reports nothing. -/

namespace LazyDispatch

inductive Event where
  | operationRegistered (operation : String) (signatures : Nat)
  | operationsRemoved (count : Nat)
  | ambiguousSignature (clash : Clash)
  | streamCreated (source : Tag)
  /-- A call accepted for later, with the types predicted for it. -/
  | stepAppended (operation : String) (args : List Tag) (candidates : Nat) (predicted : Tag)
  /-- The candidate chosen for a step, reported before it runs. -/
  | stepResolved (operation : String) (step : Nat) (args : List Tag) (signature : Signature)
  | wrongTransformationArgs (operation : String) (step : Nat) (args : List Tag)
  | streamResolved (steps : Nat) (result : Tag)
  deriving DecidableEq, Repr

inductive Reference where
  /-- The native function of this name. -/
  | named (name : String)
  /-- A value, which must be a function. -/
  | value (value : Value)

def Reference.resolve : Reference → Except Failure Callable
  | named name =>
    match Native.ofName? name with
    | some native => .ok (.native native)
    | none => .error (.unknownCallable name)
  | value (.function callable) => .ok callable
  | value other => .error (.unknownCallable other.display)

inductive Edit where
  | operation (name : String) (texts : List String) (callable : Reference)
  | insert (overload : Overload)
  | remove (names : List String)
  | clear

namespace Edit

def operationByName (name : String) (texts : List String) : Edit :=
  operation name texts (.named name)

end Edit

/-- What all texts mean together, later repetitions dropped. -/
def Signature.parseAll (texts : List String) : Except Failure (List Signature) :=
  return (← texts.mapM Signature.parse).flatten.eraseDups

def Overload.registered (overload : Overload) : Event :=
  .operationRegistered overload.operation overload.signatures.length

namespace Registry

def inserting (registry : Registry) (overload : Overload) :
    Except Failure (Registry × List Event) :=
  return (← registry.insert overload, [overload.registered])

/-- The callable is looked at first, then the texts in order, then the policy. -/
def edit (registry : Registry) : Edit → Except Failure (Registry × List Event)
  | .operation name texts reference => do
    let callable ← reference.resolve
    let signatures ← Signature.parseAll texts
    registry.inserting ⟨name, signatures, callable⟩
  | .insert overload => registry.inserting overload
  | .remove names =>
    let (left, count) := registry.remove names
    return (left, [.operationsRemoved count])
  | .clear => return (registry.clear, [])

/-- The registry after edits, of which failing ones are skipped, and all that they report. -/
def editAll (registry : Registry) : List Edit → Registry × List Event
  | [] => (registry, [])
  | edit :: edits =>
    match registry.edit edit with
    | .error _ => registry.editAll edits
    | .ok (changed, events) =>
      let (final, later) := changed.editAll edits
      (final, events ++ later)

def startEvents (config : Config) : List Event :=
  if config.builtins then [applyOverload.registered] else []

end Registry

namespace Preset

def arithmeticEdit (arithmetic : Arithmetic) (text : String) : Edit :=
  .operation arithmetic.name [text] (.value (.function (.arithmetic arithmetic)))

def arithmetic : List Edit :=
  [arithmeticEdit .add "Number -> Number -> Number",
    arithmeticEdit .multiply "Number -> Number -> Number",
    arithmeticEdit .negate "Number -> Number",
    .operationByName "sum" ["List|Map -> Number"]]

def strings : List Edit :=
  [.operationByName "strlen" ["String -> Number"],
    .operationByName "strtoupper" ["String -> String"],
    .operationByName "strtolower" ["String -> String"],
    .operationByName "trim" ["String -> String"],
    .operationByName "str_repeat" ["String -> Number -> String"]]

def build (edits : List Edit) : Registry × List Event :=
  let (registry, events) := Registry.withBuiltins.editAll edits
  (registry, Registry.applyOverload.registered :: events)

end Preset
end LazyDispatch
