import LazyDispatch.Registry

/-! Snapshots: validated copies of a registry. Within a snapshot no two signatures of an operation
share their parameters, so dispatch is unambiguous. -/

namespace LazyDispatch

structure Candidate where
  operation : String
  signature : Signature
  callable : Callable
  deriving DecidableEq, Repr

namespace Candidate

def params (candidate : Candidate) : List Tag := candidate.signature.params

def returns (candidate : Candidate) : Tag := candidate.signature.returns

def accepts (candidate : Candidate) (args : List Tag) : Bool := candidate.signature.accepts args

end Candidate

namespace Overload

def candidates (overload : Overload) : List Candidate :=
  overload.signatures.map fun signature => ⟨overload.operation, signature, overload.callable⟩

end Overload

/-- An operation and the first of its signatures whose parameters an earlier one has. -/
structure Clash where
  operation : String
  signature : Signature
  deriving DecidableEq, Repr

structure Snapshot where
  operations : NameTable (List Candidate)

namespace Snapshot

def candidates? (snapshot : Snapshot) (name : String) : Option (List Candidate) :=
  snapshot.operations.get? name

def has (snapshot : Snapshot) (name : String) : Bool := snapshot.operations.contains name

def names (snapshot : Snapshot) : List String := snapshot.operations.names

end Snapshot

/-- The first candidate with parameters already `seen`. -/
def firstRepeat (seen : List (List Tag)) : List Candidate → Option Candidate
  | [] => none
  | candidate :: rest =>
    if candidate.params ∈ seen then some candidate
    else firstRepeat (candidate.params :: seen) rest

namespace Registry

def candidates (registry : Registry) : NameTable (List Candidate) :=
  registry.operations.map fun overloads => overloads.flatMap Overload.candidates

def clash? (registry : Registry) : Option Clash :=
  registry.candidates.rows.findSome? fun (name, candidates) =>
    (firstRepeat [] candidates).map fun candidate => ⟨name, candidate.signature⟩

/-- An immutable copy, unless an operation is ambiguous. -/
def snapshot (registry : Registry) : Except Clash Snapshot :=
  match registry.clash? with
  | some clash => .error clash
  | none => .ok ⟨registry.candidates⟩

end Registry
end LazyDispatch
