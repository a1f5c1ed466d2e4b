import LazyDispatch.Text.LetterCase
import LazyDispatch.Text.Letters
import LazyDispatch.Value.Display

/-! What the native functions and the arithmetic compute. Any other number of arguments than a
function has fails, and so does a result beyond 64 bits. -/

namespace LazyDispatch

namespace Callable

def wrongCount (name : String) (wanted given : Nat) : Failure :=
  .raised (name ++ "() expects " ++ toString wanted ++ " argument(s), " ++ toString given ++ " given")

def unary (name : String) (args : List Value) : Except Failure Value :=
  match args with
  | [value] => .ok value
  | _ => .error (wrongCount name 1 args.length)

def binary (name : String) (args : List Value) : Except Failure (Value × Value) :=
  match args with
  | [first, second] => .ok (first, second)
  | _ => .error (wrongCount name 2 args.length)

def expected (name what : String) (given : Value) : Failure :=
  .raised (name ++ "() expects " ++ what ++ ", " ++ given.tag.name ++ " given")

end Callable

open Callable (unary binary expected)

def fit? (n : Int) : Option Int64 :=
  if -0x8000000000000000 ≤ n ∧ n < 0x8000000000000000 then some (Int64.ofInt n) else none

theorem fit?_eq_some_iff {n : Int} {i : Int64} : fit? n = some i ↔ n = i.toInt := by
  unfold fit?
  constructor
  · intro h
    split at h
    · rename_i fits
      cases h
      exact (Int64.toInt_ofInt_of_le (by omega) (by omega)).symm
    · cases h
  · rintro rfl
    have low := i.le_toInt
    have high := i.toInt_lt
    rw [if_pos ⟨by omega, by omega⟩, Int64.ofInt_toInt]

theorem fit?_eq_none_iff {n : Int} :
    fit? n = none ↔ n < -0x8000000000000000 ∨ 0x8000000000000000 ≤ n := by
  unfold fit?
  split <;> simp <;> omega

/-- What ends a call without a value: a failure that its caller can act on, or a panic, past which
nothing runs. -/
inductive Halt where
  | failure (reason : Failure)
  | panic (message : String)
  deriving DecidableEq, Repr

namespace Halt

def ofFailure {α : Type} : Except Failure α → Except Halt α := Except.mapError Halt.failure

instance : MonadLift (Except Failure) (Except Halt) := ⟨ofFailure⟩

def outcome? {α : Type} : Except Halt α → Option (Except Failure α)
  | .ok value => some (.ok value)
  | .error (.failure reason) => some (.error reason)
  | .error (.panic _) => none

theorem outcome?_eq_some_ok {α : Type} {ended : Except Halt α} {value : α} :
    outcome? ended = some (.ok value) ↔ ended = .ok value := by
  cases ended with
  | ok other => simp [outcome?]
  | error halt => cases halt <;> simp [outcome?]

end Halt

namespace Native

structure Total where
  integers : Int64
  floats : Float
  anyFloat : Bool

namespace Total

def zero : Total := ⟨0, 0, false⟩

def add (total : Total) : Value → Except Failure Total
  | .int number =>
    match fit? (total.integers.toInt + number.toInt) with
    | some integers => .ok { total with integers }
    | none => .error (.raised "sum() overflows a 64-bit integer")
  | .float number => .ok { total with floats := total.floats + number, anyFloat := true }
  | other => .error (expected "sum" "numbers" other)

def value (total : Total) : Value :=
  if total.anyFloat then .float (total.floats + total.integers.toFloat) else .int total.integers

end Total

def collection (name : String) (value : Value) : Except Failure (List Value) :=
  match value.items? with
  | some items => .ok items
  | none => .error (expected name "a collection" value)

def text (name : String) (value : Value) : Except Failure String :=
  match value.string? with
  | some text => .ok text
  | none => .error (expected name "a string" value)

def mapText (name : String) (f : List Char → List Char) (value : Value) : Except Failure Value :=
  return .string (String.ofList (f (← text name value).toList))

def times (value : Value) : Except Failure Nat :=
  match value with
  | .int number =>
    if 0 ≤ number.toInt then .ok number.toInt.toNat
    else .error (expected "str_repeat" "a non-negative integer" value)
  | _ => .error (expected "str_repeat" "a non-negative integer" value)

def summed (items : List Value) : Except Failure Value :=
  return (← items.foldlM Total.add Total.zero).value

def keysOf (value : Value) : Except Failure Value :=
  match value with
  | .list items => .ok (.list ((List.range items.length).map Value.ofNat))
  | .map entries => .ok (.list (entries.map fun entry => entry.1.toValue))
  | _ => .error (expected "keys" "a collection" value)

def reversed (value : Value) : Except Failure Value :=
  match value with
  | .string text => .ok (.string (String.ofList text.toList.reverse))
  | _ =>
    match value.items? with
    | some items => .ok (.list items.reverse)
    | none => .error (expected "reverse" "a string or a collection" value)

/-- A text in a row with itself. Copies of no text are no text, however many. -/
def copied (copies : Nat) (letters : List Char) : List Char :=
  if letters.isEmpty then [] else (List.replicate copies letters).flatten

/-- The most bytes that can be allocated at once. -/
def capacity : Nat := 0x7FFFFFFFFFFFFFFF

/-- The text is looked at before the number, and both before the room that the copies take. -/
def repeated (subject copies : Value) : Except Halt Value := do
  let subject ← text "str_repeat" subject
  let copies ← times copies
  if copies * subject.utf8ByteSize ≤ capacity then
    return .string (String.ofList (copied copies subject.toList))
  else throw (.panic "capacity overflow")

def run (native : Native) (args : List Value) : Except Halt Value := do
  match native with
  | strRepeat =>
    let (subject, copies) ← binary native.name args
    repeated subject copies
  | count => return .ofNat (← collection native.name (← unary native.name args)).length
  | head => return .ofOption (← collection native.name (← unary native.name args)).head?
  | last => return .ofOption (← collection native.name (← unary native.name args)).getLast?
  | values => return .list (← collection native.name (← unary native.name args))
  | sum => summed (← collection native.name (← unary native.name args))
  | keys => keysOf (← unary native.name args)
  | reverse => reversed (← unary native.name args)
  | strlen => return .ofNat (← text native.name (← unary native.name args)).length
  | strtolower => mapText native.name Text.lower (← unary native.name args)
  | strtoupper => mapText native.name Text.upper (← unary native.name args)
  | trim => mapText native.name Text.trim (← unary native.name args)
  | toText => return .string (← unary native.name args).display

end Native

namespace Arithmetic

def twoIntegers (arithmetic : Arithmetic) (f : Int → Int → Int) (args : List Value) :
    Except Failure Value := do
  let (left, right) ← binary arithmetic.name args
  match (do fit? (f (← left.int?).toInt (← right.int?).toInt) : Option Int64) with
  | some result => return .int result
  | none => throw (.raised (arithmetic.name ++ "() expects two integers"))

/-- A result beyond 64 bits fails like an operand that is no integer. -/
def run (arithmetic : Arithmetic) (args : List Value) : Except Failure Value :=
  match arithmetic with
  | add => twoIntegers arithmetic (· + ·) args
  | multiply => twoIntegers arithmetic (· * ·) args
  | negate => do
    let operand ← unary arithmetic.name args
    match (do fit? (-(← operand.int?).toInt) : Option Int64) with
    | some result => return .int result
    | none => throw (.raised (arithmetic.name ++ "() expects an integer"))

end Arithmetic
end LazyDispatch
