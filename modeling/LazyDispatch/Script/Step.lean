import LazyDispatch.Script.Session

/-! Script steps and what they answer. -/

namespace LazyDispatch.Script

inductive SnapshotRef where
  | named (name : String)
  | ofStream (variableName : String)

inductive Step where
  | operation (name : String) (texts : List String) (callable : CallableLiteral)
  | operationByName (name : String) (texts : List String)
  | insert (name : String) (signatures : List Signature) (callable : CallableLiteral)
  | has (name : String)
  | remove (names : List String)
  | clear
  | names
  | overloads (name : String)
  | callOverload (name : String) (args : List Literal)
  | policy (policy : DuplicatePolicy)
  | new (origin : Origin) (dest : String)
  | fork (dest : String)
  | use (registry : String)
  | reset
  | configure (source : Config.Source)
  | guardOpen
  | guardOperation (name : String) (texts : List String) (callable : CallableLiteral)
  | guardOperationByName (name : String) (texts : List String)
  | guardTrack (name : String)
  | guardNames
  | guardClose
  | snapshot (dest : String)
  | snapshotNames (of : SnapshotRef)
  | snapshotHas (of : SnapshotRef) (name : String)
  | candidates (of : SnapshotRef) (name : String)
  | accepting (of : SnapshotRef) (name : String) (types : List Tag)
  | start (value : Literal) (base : Option String) (dest : String)
  | invoke (subject : String) (operation : String) (args : List Literal) (dest : String)
  | andThen (subject : String) (callable : CallableLiteral) (dest : String)
  | result (subject : String) (dest : Option String)
  | stream (subject : String)
  | same (left right : String)
  | set (dest : Option String) (value : Literal)
  | equal (left right : Literal)
  | calls
  | resetCalls

inductive Answer where
  | nothing
  | truth (truth : Bool)
  | truths (truths : List Bool)
  | count (count : Nat)
  | texts (texts : List String)
  | policy (policy : DuplicatePolicy)
  | registry (registry : Registry)
  | overloads (overloads : List Overload)
  | returned (value : Option Value)
  | snapshot (snapshot : Snapshot)
  | candidates (candidates : Option (List Candidate))
  | stream (stream : Stream Value)
  /-- The outcome of a resolution, whether the stream is resolved now, and the calls counted. -/
  | result (outcome : Except Failure Value) (resolved : Bool) (calls : Nat)
  | value (value : Value)

namespace Step

open Scripted

def snapshotOf : SnapshotRef → Scripted Snapshot
  | .named name => Scripted.snapshot name
  | .ofStream variableName => return (← Scripted.stream variableName).snapshot

def showRegistry : Scripted Answer := return .registry (← registry)

def kept (dest : String) (code : Run Notebook (Stream Value)) : Scripted Answer := do
  let stream ← onStore code
  setVariable dest (.stream stream)
  return .stream stream

def replaceGuard (next : Option Guard) : Scripted Unit := do
  let old := (← get).guard
  modify fun session => { session with guard := next }
  match old with
  | some guard => onStore guard.close
  | none => return

def guarded (registration : Guard → Guard × Run Notebook Unit) : Scripted Answer := do
  match (← get).guard with
  | none => misuse "no guard"
  | some guard =>
    let (tracked, code) := registration guard
    modify fun session => { session with guard := some tracked }
    onStore code
    showRegistry

/-- The answer of a step. A step that fails leaves the variables as they were. -/
def run : Step → Scripted Answer
  | operation name texts literal => do
    edit (.operation name texts (← reference literal))
    showRegistry
  | operationByName name texts => do
    edit (.operationByName name texts)
    showRegistry
  | insert name signatures literal => do
    edit (.insert ⟨name, signatures, ← callable literal⟩)
    showRegistry
  | has name => return .truth ((← registry).has name)
  | remove listed => do
    edit (.remove listed)
    showRegistry
  | clear => do
    edit .clear
    showRegistry
  | names => showRegistry
  | overloads name => return .overloads ((← registry).overloads name)
  | callOverload name literals => do
    let args ← values literals
    match (← registry).overloads name with
    | [] => return .returned none
    | overload :: _ =>
      return .returned (some (← onStore ((← get).call overload.callable args)))
  | policy choice => do
    setRegistry ((← registry).withPolicy choice)
    return .policy (← registry).duplicatePolicy
  | new source dest => do
    setPlace dest (← origin source)
    return .nothing
  | fork dest => do
    setPlace dest (.own (← registry))
    return .nothing
  | use name => do
    modify fun session => { session with current := name }
    showRegistry
  | reset => do
    onStore (Run.restart {})
    showRegistry
  | configure source => do
    onStore (Run.restart (← config source))
    showRegistry
  | guardOpen => do
    replaceGuard (some .empty)
    return .nothing
  | guardOperation name texts literal => do
    let callable ← reference literal
    guarded fun guard => guard.operation name texts callable
  | guardOperationByName name texts => guarded fun guard => guard.operationByName name texts
  | guardTrack name => do
    modify fun session => { session with guard := session.guard.map (·.track name) }
    return .nothing
  | guardNames => return .texts (((← get).guard.map (·.names)).getD [])
  | guardClose => do
    replaceGuard none
    showRegistry
  | snapshot dest => do
    let taken ← onStore (Run.takeSnapshot (← registry))
    setSnapshot dest taken
    return .snapshot taken
  | snapshotNames source => return .texts (← snapshotOf source).names
  | snapshotHas source name => return .truth ((← snapshotOf source).has name)
  | candidates source name => return .candidates ((← snapshotOf source).candidates? name)
  | accepting source name types => do
    let found := ((← snapshotOf source).candidates? name).getD []
    return .truths (found.map fun candidate => candidate.accepts types)
  | start literal base dest => do
    let source ← value literal
    match base with
    | some name => do
      let taken ← Scripted.snapshot name
      kept dest (Stream.start taken source)
    | none => do
      let current ← registry
      kept dest (do Stream.start (← Run.takeSnapshot current) source)
  | invoke subject called literals dest => do
    let pipeline ← Scripted.stream subject
    let args ← values literals
    kept dest (pipeline.invoke called args)
  | andThen subject literal dest => do
    let pipeline ← Scripted.stream subject
    let function ← callable literal
    kept dest (pipeline.andThen function)
  | result subject dest => do
    let pipeline ← Scripted.stream subject
    let outcome ← onStore (Run.attempt (pipeline.result (← get).call))
    match outcome, dest with
    | .ok value, some name => setVariable name value
    | _, _ => pure ()
    let session ← get
    return .result outcome (pipeline.isResolved session.store) session.notebook.calls
  | stream subject => return .stream (← Scripted.stream subject)
  | same left right => return .truth ((← Scripted.stream left).same (← Scripted.stream right))
  | set dest literal => do
    let value ← value literal
    match dest with
    | some name => setVariable name value
    | none => pure ()
    return .value value
  | equal left right => return .truth ((← value left) == (← value right))
  | calls => return .count (← get).notebook.calls
  | resetCalls => do
    modify fun session =>
      { session with store.host := { session.notebook with calls := 0 } }
    return .nothing

end Step

structure Turn where
  outcome : Except Trouble Answer
  events : List Event
  session : Session

namespace Session

def drain (session : Session) : List Event × Session :=
  (session.store.events, { session with store.events := [] })

def turn (session : Session) (code : Scripted Answer) : Turn :=
  let (outcome, after) := code.outcome session
  let (events, drained) := after.drain
  ⟨outcome, events, drained⟩

def define (session : Session) : List (String × Literal) → Except Trouble Session
  | [] => .ok session
  | (name, literal) :: rest =>
    match (Step.set (some name) literal).run.outcome session with
    | (.ok _, after) => define after rest
    | (.error trouble, _) => .error trouble

def openMain (session : Session) (source : Origin) : Except Trouble Session :=
  match (Step.new source "main").run.outcome session with
  | (.ok _, after) => .ok after.drain.2
  | (.error trouble, _) => .error trouble

def play (session : Session) : List Step → List Turn
  | [] => []
  | step :: steps =>
    let turn := session.turn step.run
    turn :: turn.session.play steps

end Session
end LazyDispatch.Script
