import LazyDispatch.Native
import LazyDispatch.Resolution

/-! Hosts: the behaviour of custom callables. A callable acts by one request after another, each
answered before the next is chosen; so it may read and write the host's state, call functions,
build and resolve streams, its own included, and edit the shared registry. -/

namespace LazyDispatch

inductive Action (σ : Type) where
  | done (outcome : Except Failure Value)
  | read (next : σ → Action σ)
  | write (state : σ) (next : Action σ)
  | call (callable : Callable) (args : List Value) (next : Except Failure Value → Action σ)
  | result (stream : Stream Value) (next : Except Failure Value → Action σ)
  | start (snapshot : Snapshot) (source : Value) (next : Stream Value → Action σ)
  /-- A stream over the shared registry. -/
  | startShared (source : Value) (next : Except Failure (Stream Value) → Action σ)
  | invoke (stream : Stream Value) (operation : String) (args : List Value)
    (next : Except Failure (Stream Value) → Action σ)
  | edit (edit : Edit) (next : Except Failure Unit → Action σ)
  | restart (config : Config) (next : Action σ)

abbrev Host (σ : Type) : Type := Nat → List Value → Action σ

variable {σ : Type}

namespace Action

def answer (value : Value) : Action σ := done (.ok value)

def raise (message : String) : Action σ := done (.error (.raised message))

def unary (name : String) (args : List Value) (act : Value → Action σ) : Action σ :=
  match Callable.unary name args with
  | .ok value => act value
  | .error failure => done (.error failure)

def binary (name : String) (args : List Value) (act : Value → Value → Action σ) : Action σ :=
  match Callable.binary name args with
  | .ok (left, right) => act left right
  | .error failure => done (.error failure)

def invokeAll (stream : Stream Value) (finish : Stream Value → Action σ) :
    List (String × List Value) → Action σ
  | [] => finish stream
  | (operation, args) :: rest =>
    invoke stream operation args fun outcome =>
      match outcome with
      | .ok longer => invokeAll longer finish rest
      | .error failure => done (.error failure)

def run (runCall : Callable → List Value → Run σ Value) : Action σ → Run σ Value
  | done outcome => Run.ofExcept outcome
  | read next => do (next (← Run.store).host).run runCall
  | write state next => do
    Run.update fun store => { store with host := state }
    next.run runCall
  | call callable args next => do (next (← Run.attempt (runCall callable args))).run runCall
  | result stream next => do (next (← Run.attempt (stream.result runCall))).run runCall
  | start snapshot source next => do (next (← Stream.start snapshot source)).run runCall
  | startShared source next => do (next (← Run.attempt (Stream.startShared source))).run runCall
  | invoke stream operation args next => do
    (next (← Run.attempt (stream.invoke operation args))).run runCall
  | edit change next => do (next (← Run.attempt (Run.editShared change))).run runCall
  | restart config next => do
    Run.restart config
    next.run runCall

end Action

/-- Runs a callable. Calls may nest to a depth, without which even this one does not run. -/
def Host.call (host : Host σ) : Nat → Callable → List Value → Run σ Value
  | 0, _, _ => Run.outOfDepth
  | _ + 1, .native native, args => fun store =>
    (Halt.outcome? (native.run args)).map fun outcome => (outcome, store)
  | _ + 1, .arithmetic arithmetic, args => Run.ofExcept (arithmetic.run args)
  | depth + 1, .apply, args => do
    match ← Run.ofExcept (Callable.binary "then" args) with
    | (value, .function callable) => host.call depth callable [value]
    | (_, other) =>
      throw (.raised ("then() expects a function, " ++ other.tag.name ++ " given"))
  | depth + 1, .custom id _, args => (host id args).run (host.call depth)

end LazyDispatch
