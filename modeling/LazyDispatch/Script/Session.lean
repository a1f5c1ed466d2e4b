import LazyDispatch.Config.Source
import LazyDispatch.Store
import LazyDispatch.Registry.Edit
import LazyDispatch.Script.Literal
import LazyDispatch.Value.Equality

/-! Script sessions: registries, snapshots and variables by name, with a store they all run on. -/

namespace LazyDispatch.Script

inductive Place where
  | own (registry : Registry)
  | shared

inductive Origin where
  | empty
  | builtins
  | arithmetic
  | strings
  | shared
  | config (source : Config.Source)

structure Session where
  places : NameTable Place
  current : String
  guard : Option Guard
  workshop : Workshop
  store : Store Notebook

/-- A part of a script. Its failure undoes nothing. -/
abbrev Scripted : Type → Type := ExceptT Trouble (StateM Session)

def depth : Nat := 1000000

namespace Session

def new : Session :=
  ⟨.empty, "main", none, .empty, Store.new .empty⟩

def notebook (session : Session) : Notebook := session.store.host

def bindings (session : Session) : NameTable Value := session.notebook.bindings

def call (session : Session) : Callable → List Value → Run Notebook Value :=
  session.workshop.host.call depth

end Session

namespace Scripted

variable {α : Type}

def misuse (what : String) : Scripted α := throw (.misuse what)

def fail (failure : Failure) : Scripted α := throw (.failure failure)

def ofExcept : Except Failure α → Scripted α
  | .ok value => return value
  | .error failure => fail failure

def outcome (code : Scripted α) (session : Session) : Except Trouble α × Session :=
  StateT.run (ExceptT.run code) session

def onStore (code : Run Notebook α) : Scripted α := do
  match code (← get).store with
  | none => misuse "the run comes to no end"
  | some (outcome, store) =>
    modify fun session => { session with store }
    ofExcept outcome

def make (making : NameTable Value → Making α) : Scripted α := do
  let session ← get
  let (outcome, workshop) := StateT.run (ExceptT.run (making session.bindings)) session.workshop
  set { session with workshop }
  match outcome with
  | .ok value => return value
  | .error trouble => throw trouble

def value (literal : Literal) : Scripted Value := make literal.make

def values (literals : List Literal) : Scripted (List Value) :=
  make fun bindings => Literal.makeItems bindings literals

def reference (literal : CallableLiteral) : Scripted Reference := make literal.make

def callable (literal : CallableLiteral) : Scripted Callable := do
  ofExcept (← reference literal).resolve

def setVariable (name : String) (value : Value) : Scripted Unit :=
  modify fun session =>
    { session with store.host := session.notebook.setVariable name value }

def setSnapshot (name : String) (snapshot : Snapshot) : Scripted Unit :=
  modify fun session =>
    { session with store.host := session.notebook.setSnapshot name snapshot }

def snapshot (name : String) : Scripted Snapshot := do
  match (← get).notebook.snapshots.get? name with
  | some snapshot => return snapshot
  | none => misuse ("no snapshot " ++ name)

def stream (name : String) : Scripted (Stream Value) := do
  match (← get).bindings.get? name with
  | some (.stream pipeline) => return pipeline
  | _ => misuse ("no stream " ++ name)

def config (source : Config.Source) : Scripted Config :=
  match source.load with
  | .ok config => return config
  | .error failure => throw (.config failure)

def report (events : List Event) : Scripted Unit :=
  modify fun session => { session with store := session.store.report events }

def built (registry : Registry × List Event) : Scripted Place := do
  report registry.2
  return .own registry.1

def origin : Origin → Scripted Place
  | .empty => return .own .empty
  | .builtins => built (Preset.build [])
  | .arithmetic => built (Preset.build Preset.arithmetic)
  | .strings => built (Preset.build Preset.strings)
  | .shared => return .shared
  | .config source => do
    let config ← config source
    built (Registry.ofConfig config, Registry.startEvents config)

def place : Scripted Place := do
  let session ← get
  match session.places.get? session.current with
  | some place => return place
  | none => misuse ("no registry " ++ session.current)

def setPlace (name : String) (place : Place) : Scripted Unit :=
  modify fun session => { session with places := session.places.put name place }

def registry : Scripted Registry := do
  match ← place with
  | .own registry => return registry
  | .shared => return (← get).store.shared

def setRegistry (registry : Registry) : Scripted Unit := do
  match ← place with
  | .own _ => setPlace (← get).current (.own registry)
  | .shared => modify fun session => { session with store.shared := registry }

def edit (change : Edit) : Scripted Unit := do
  let (registry, events) ← ofExcept ((← registry).edit change)
  setRegistry registry
  report events

def callOnce (literal : CallableLiteral) (args : List Literal) : Scripted (Callable × Value) := do
  let function ← callable literal
  let args ← values args
  return (function, ← onStore ((← get).call function args))

end Scripted
end LazyDispatch.Script
