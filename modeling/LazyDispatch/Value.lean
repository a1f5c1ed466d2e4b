import LazyDispatch.Snapshot

/-! Runtime values. A value may be a stream, so a stream's data is stated over the values it holds;
a stream is immutable but for its result, which a store keeps under the stream's cell. -/

namespace LazyDispatch

/-- A call recorded on a stream, with the candidates that accepted the types predicted for it. -/
structure PendingStep (V : Type) where
  operation : String
  candidates : List Candidate
  /-- The arguments after the receiver. -/
  args : List V

structure Stream (V : Type) where
  cell : Nat
  snapshot : Snapshot
  source : V
  /-- The type predicted for the result. -/
  predicted : Tag
  steps : List (PendingStep V)

structure Record (V : Type) where
  className : String
  fields : List (String × V)

structure Resource where
  id : Nat
  kind : String
  handle : Int64
  deriving DecidableEq

inductive Key where
  | int (index : Int64)
  | text (name : String)
  deriving DecidableEq

inductive Value where
  | null
  | bool (truth : Bool)
  | int (number : Int64)
  | float (number : Float)
  | string (text : String)
  | resource (handle : Resource)
  | function (callable : Callable)
  | list (items : List Value)
  /-- Keyed entries in insertion order; keys may repeat. -/
  | map (entries : List (Key × Value))
  | object (record : Record Value)
  | error (fault : Fault)
  | stream (pipeline : Stream Value)

instance : Inhabited Value := ⟨.null⟩

/-- The keys are `first, first + 1, ..` in order. -/
def countsFrom (first : Nat) : List Key → Bool
  | [] => true
  | .int index :: keys => index.toInt == first && countsFrom (first + 1) keys
  | .text _ :: _ => false

namespace Value

/-- The tag of a value, never `any`. Entries keyed `0, 1, ..` in order make a list. -/
def tag : Value → Tag
  | null => .null
  | bool _ => .boolean
  | int _ => .number
  | float _ => .number
  | string _ => .string
  | resource _ => .resource
  | function _ => .function
  | list _ => .list
  | map entries => if countsFrom 0 (entries.map Prod.fst) then .list else .map
  | object _ => .object
  | error _ => .error
  | stream _ => .stream

def tags (receiver : Tag) (args : List Value) : List Tag := receiver :: args.map tag

def isNull : Value → Bool
  | null => true
  | _ => false

def bool? : Value → Option Bool
  | bool truth => some truth
  | _ => none

def int? : Value → Option Int64
  | int number => some number
  | _ => none

def float? : Value → Option Float
  | float number => some number
  | int number => some number.toFloat
  | _ => none

def string? : Value → Option String
  | string text => some text
  | _ => none

def list? : Value → Option (List Value)
  | list items => some items
  | _ => none

def function? : Value → Option Callable
  | function callable => some callable
  | _ => none

def items? : Value → Option (List Value)
  | list items => some items
  | map entries => some (entries.map Prod.snd)
  | _ => none

def entryCount? : Value → Option Nat
  | list items => some items.length
  | map entries => some entries.length
  | _ => none

/-- A natural number as an integer, in two's complement beyond the 64 bits. -/
def ofNat (n : Nat) : Value := int (Int64.ofNat n)

def ofOption : Option Value → Value
  | some value => value
  | none => null

end Value

def Key.toValue : Key → Value
  | int index => .int index
  | text name => .string name

def Record.get? (record : Record Value) (name : String) : Option Value :=
  (record.fields.find? fun field => field.1 = name).map Prod.snd

namespace Stream

variable {V : Type}

/-- Both are one stream: they share its cell, and with it the prediction. -/
def same (left right : Stream V) : Bool :=
  left.cell == right.cell && left.predicted == right.predicted

def display (stream : Stream V) : String := "Stream(" ++ stream.predicted.name ++ ")"

end Stream
end LazyDispatch
