import LazyDispatch.Store

/-! Streams at work: creation, calls, which keep the candidates that accept the prediction, and the
resolution that runs the pending steps once the actual values are known. How a callable runs is a
parameter. -/

namespace LazyDispatch

def predict? : List Candidate → Option Tag
  | [] => none
  | candidate :: rest => some (rest.foldl (fun tag next => tag.merge next.returns) candidate.returns)

/-- A call checked against a prediction: the step to run later and the next prediction. -/
def Snapshot.plan (snapshot : Snapshot) (predicted : Tag) (operation : String)
    (args : List Value) : Except Failure (PendingStep Value × Tag) :=
  match snapshot.candidates? operation with
  | none => .error (.unknownOperation operation)
  | some candidates =>
    let types := Value.tags predicted args
    let accepting := candidates.filter fun candidate => candidate.accepts types
    match predict? accepting with
    | none => .error (.wrongOperationArgs operation types)
    | some next => .ok (⟨operation, accepting, args⟩, next)

variable {σ : Type}

/-- Runs steps on a value, the first of them at place `index`. Each takes the first of its
candidates that accepts the actual types. -/
def resolve (call : Callable → List Value → Run σ Value) (index : Nat) (current : Value) :
    List (PendingStep Value) → Run σ Value
  | [] => return current
  | step :: rest => do
    let types := Value.tags current.tag step.args
    match step.candidates.find? fun candidate => candidate.accepts types with
    | none =>
      Run.emit (.wrongTransformationArgs step.operation index types)
      throw (.wrongTransformationArgs step.operation types (step.candidates.map Candidate.params))
    | some candidate =>
      Run.emit (.stepResolved step.operation index types candidate.signature)
      let next ← call candidate.callable (current :: step.args)
      resolve call (index + 1) next rest

namespace Stream

def start (snapshot : Snapshot) (source : Value) : Run σ (Stream Value) := do
  Run.emit (.streamCreated source.tag)
  return ⟨← Run.newCell, snapshot, source, source.tag, []⟩

def startShared (source : Value) : Run σ (Stream Value) := do
  start (← Run.takeSnapshot (← Run.store).shared) source

/-- The stream with a further call, whose types are checked against the prediction alone. -/
def invoke (stream : Stream Value) (operation : String) (args : List Value) :
    Run σ (Stream Value) := do
  let (step, next) ← Run.ofExcept (stream.snapshot.plan stream.predicted operation args)
  Run.emit (.stepAppended operation (Value.tags stream.predicted args) step.candidates.length next)
  return { stream with
    cell := ← Run.newCell
    predicted := next
    steps := stream.steps ++ [step] }

def andThen (stream : Stream Value) (callable : Callable) : Run σ (Stream Value) :=
  stream.invoke "then" [.function callable]

def isResolved (stream : Stream Value) (store : Store σ) : Bool :=
  (store.result? stream.cell).isSome

/-- The result, run for once and kept from then on. Callables may ask for the result of their own
stream meanwhile: the first one kept stands. A failure keeps nothing. -/
def result (call : Callable → List Value → Run σ Value) (stream : Stream Value) :
    Run σ Value := do
  match (← Run.store).result? stream.cell with
  | some kept => return kept
  | none =>
    let value ← resolve call 0 stream.source stream.steps
    Run.emit (.streamResolved stream.steps.length value.tag)
    Run.update fun store => store.keep stream.cell value
    return ((← Run.store).result? stream.cell).getD value

end Stream
end LazyDispatch
