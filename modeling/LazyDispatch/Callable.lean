/-! Callables by identity. What one does when it runs is said elsewhere: for the native table and
arithmetic as a function on values, for a custom one by its host. -/

namespace LazyDispatch

inductive Native where
  | count
  | head
  | keys
  | last
  | reverse
  | strRepeat
  | strlen
  | strtolower
  | strtoupper
  | sum
  | toText
  | trim
  | values
  deriving DecidableEq, Repr

namespace Native

def all : List Native :=
  [count, head, keys, last, reverse, strRepeat, strlen, strtolower, strtoupper, sum, toText, trim,
    values]

def name : Native → String
  | count => "count"
  | head => "head"
  | keys => "keys"
  | last => "last"
  | reverse => "reverse"
  | strRepeat => "str_repeat"
  | strlen => "strlen"
  | strtolower => "strtolower"
  | strtoupper => "strtoupper"
  | sum => "sum"
  | toText => "to_string"
  | trim => "trim"
  | values => "values"

def ofName? (name : String) : Option Native := all.find? fun native => native.name = name

theorem ofName?_name (native : Native) : ofName? native.name = some native := by
  cases native <;> decide

end Native

inductive Arithmetic where
  | add
  | multiply
  | negate
  deriving DecidableEq, Repr

def Arithmetic.name : Arithmetic → String
  | add => "add"
  | multiply => "multiply"
  | negate => "negate"

/-- Two callables are equal when they are the same function, whatever others would compute. -/
inductive Callable where
  | native (function : Native)
  /-- Applies its second argument, a function, to its first. -/
  | apply
  | arithmetic (operation : Arithmetic)
  /-- Supplied by the host, which tells its callables apart by `id`. -/
  | custom (id : Nat) (name : String)
  deriving DecidableEq, Repr

namespace Callable

def name : Callable → String
  | native function => function.name
  | apply => "then"
  | arithmetic operation => operation.name
  | custom _ name => name

end Callable
end LazyDispatch
