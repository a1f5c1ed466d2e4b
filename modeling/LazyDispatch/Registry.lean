import LazyDispatch.Callable
import LazyDispatch.Config
import LazyDispatch.Failure
import LazyDispatch.NameTable
import LazyDispatch.Signature.Parser

/-! Registries: the operations by name. Overloads that clash are let in and only reported when a
snapshot is taken, unless the policy refuses a signature held already. -/

namespace LazyDispatch

structure Overload where
  operation : String
  signatures : List Signature
  callable : Callable
  deriving DecidableEq, Repr

structure Registry where
  operations : NameTable (List Overload)
  duplicatePolicy : DuplicatePolicy

namespace Registry

def empty : Registry := ⟨.empty, .defer⟩

def overloads (registry : Registry) (name : String) : List Overload :=
  (registry.operations.get? name).getD []

def has (registry : Registry) (name : String) : Bool := registry.operations.contains name

def names (registry : Registry) : List String := registry.operations.names

def size (registry : Registry) : Nat := registry.operations.size

def isEmpty (registry : Registry) : Bool := registry.operations.isEmpty

def push (registry : Registry) (overload : Overload) : Registry :=
  { registry with
    operations := registry.operations.put overload.operation
      (registry.overloads overload.operation ++ [overload]) }

/-- Some signature of the overload is held under its name already, return type included. -/
def isDuplicate (registry : Registry) (overload : Overload) : Bool :=
  (registry.overloads overload.operation).any fun held =>
    held.signatures.any fun signature => overload.signatures.contains signature

def insert (registry : Registry) (overload : Overload) : Except Failure Registry :=
  if registry.duplicatePolicy = .reject ∧ registry.isDuplicate overload then
    .error (.duplicatedOperation overload.operation)
  else .ok (registry.push overload)

/-- Removes all overloads of the names, and counts the names that were there. -/
def remove (registry : Registry) : List String → Registry × Nat
  | [] => (registry, 0)
  | name :: names =>
    let (left, count) :=
      remove { registry with operations := registry.operations.erase name } names
    (left, if registry.has name then count + 1 else count)

def clear (registry : Registry) : Registry := { registry with operations := .empty }

def withPolicy (registry : Registry) (policy : DuplicatePolicy) : Registry :=
  { registry with duplicatePolicy := policy }

def applyOverload : Overload := ⟨"then", [⟨.any, [.function], .any⟩], .apply⟩

def withBuiltins : Registry := empty.push applyOverload

def ofConfig (config : Config) : Registry :=
  (if config.builtins then withBuiltins else empty).withPolicy config.duplicatePolicy

end Registry
end LazyDispatch
