import LazyDispatch.Host

/-! Ready-made behaviours for the custom callables of scripts. Every call is counted, one with a
wrong number of arguments too. -/

namespace LazyDispatch.Script

inductive Recipe where
  /-- The first argument, `null` without any. -/
  | first
  | identity
  | constant (value : Value)
  /-- The value of a variable when called. -/
  | fetch (variableName : String)
  /-- All arguments as a list. -/
  | pack
  | fail (message : String)
  | double
  | concat
  /-- Both arguments as a list, the second first. -/
  | swap
  /-- The source of a stream. -/
  | source
  /-- The result of a stream; other values as they are. -/
  | resolve
  /-- Like `resolve`, a failure becoming an error value. -/
  | recover
  | chain
  /-- The first calls fail. -/
  | flaky (failures : Nat)
  /-- The first call resolves the stream in a variable, later ones answer their argument. -/
  | reenter (variableName : String) (wrap : Bool)
  | remove (names : List String)
  | register (operation text native : String)
  /-- A pipeline of its own over the argument, by the snapshot of a name when called or by the shared
  registry. -/
  | pipe (steps : List (String × List Value)) (base : Option String) (deferred : Bool)

structure Notebook where
  /-- The variables that are set. -/
  bindings : NameTable Value
  /-- The snapshots taken, by name. -/
  snapshots : NameTable Snapshot
  /-- Calls counted since the counter was reset. -/
  calls : Nat
  /-- The ids of the callables whose earlier calls matter, once for each such call. -/
  used : List Nat

namespace Notebook

def empty : Notebook := ⟨.empty, .empty, 0, []⟩

def counted (notebook : Notebook) : Notebook := { notebook with calls := notebook.calls + 1 }

def usedBy (notebook : Notebook) (id : Nat) : Notebook :=
  { notebook with used := id :: notebook.used }

def setVariable (notebook : Notebook) (name : String) (value : Value) : Notebook :=
  { notebook with bindings := notebook.bindings.put name value }

def setSnapshot (notebook : Notebook) (name : String) (snapshot : Snapshot) : Notebook :=
  { notebook with snapshots := notebook.snapshots.put name snapshot }

end Notebook

/-- Acts on the number of earlier calls of `id` that got this far; this one counts from now on. -/
def Notebook.nth (id : Nat) (act : Nat → Action Notebook) : Action Notebook :=
  .read fun notebook => .write (notebook.usedBy id) (act (notebook.used.count id))

namespace Recipe

def act (recipe : Recipe) (id : Nat) (name : String) (args : List Value) : Action Notebook :=
  match recipe with
  | first => .answer (.ofOption args.head?)
  | identity => .unary name args .answer
  | constant value => .answer value
  | fetch variableName =>
    .read fun notebook => .answer (.ofOption (notebook.bindings.get? variableName))
  | pack => .answer (.list args)
  | fail message => .raise message
  | double =>
    .unary name args fun value =>
      match (do fit? (2 * (← value.int?).toInt) : Option Int64) with
      | some number => .answer (.int number)
      | none => .raise "double() expects an integer"
  | concat =>
    .binary name args fun left right =>
      match left, right with
      | .string a, .string b => .answer (.string (a ++ b))
      | _, _ => .raise "concat() expects two strings"
  | swap => .binary name args fun left right => .answer (.list [right, left])
  | source =>
    .unary name args fun value =>
      match value with
      | .stream pipeline => .answer pipeline.source
      | _ => .answer .null
  | resolve =>
    .unary name args fun value =>
      match value with
      | .stream pipeline => .result pipeline .done
      | other => .answer other
  | recover =>
    .unary name args fun value =>
      match value with
      | .stream pipeline =>
        .result pipeline fun outcome =>
          match outcome with
          | .ok result => .answer result
          | .error failure => .answer (.error (.ofFailure failure))
      | other => .answer other
  | chain =>
    .binary name args fun left right =>
      match left, right with
      | .error fault, .string message => .answer (.error (fault.chain message))
      | _, _ => .raise "chain() expects an error and a string"
  | flaky failures =>
    .unary name args fun value =>
      Notebook.nth id fun earlier => if earlier < failures then .raise "flaky" else .answer value
  | reenter variableName wrap =>
    .unary name args fun value =>
      Notebook.nth id fun earlier =>
        let finish (inner : Value) : Action Notebook := .answer (if wrap then .list [inner] else inner)
        if 0 < earlier then .answer value
        else
          .read fun notebook =>
            match notebook.bindings.get? variableName with
            | some (.stream pipeline) =>
              .result pipeline fun outcome =>
                match outcome with
                | .ok inner => finish inner
                | .error failure => .done (.error failure)
            | _ => finish value
  | remove names =>
    .unary name args fun value => .edit (.remove names) fun _ => .answer value
  | register operation text native =>
    .unary name args fun value =>
      .edit (.operation operation [text] (.named native)) fun outcome =>
        match outcome with
        | .ok _ => .answer value
        | .error failure => .done (.error failure)
  | pipe steps base deferred =>
    .unary name args fun value =>
      let go (stream : Stream Value) : Action Notebook :=
        .invokeAll stream
          (fun longer => if deferred then .answer (.stream longer) else .result longer .done) steps
      match base with
      | some snapshotName =>
        .read fun notebook =>
          match notebook.snapshots.get? snapshotName with
          | some snapshot => .start snapshot value go
          | none => .raise ("no snapshot " ++ snapshotName)
      | none =>
        .startShared value fun outcome =>
          match outcome with
          | .ok stream => go stream
          | .error failure => .done (.error failure)

def counted (recipe : Recipe) (id : Nat) (name : String) (args : List Value) : Action Notebook :=
  .read fun notebook => .write notebook.counted (recipe.act id name args)

end Recipe
end LazyDispatch.Script
