import LazyDispatch.Value

/-! Equality of values. Numbers compare across their two kinds, with a small tolerance for floats;
resources, functions and streams compare by identity. -/

namespace LazyDispatch

def tolerance : Float := 2.220446049250313e-16

def closeTo (left right : Float) : Bool :=
  left == right || (left - right).abs < tolerance

namespace Value

mutual

/-- A list never equals a map, and entries count in order. -/
def eqv : Value → Value → Bool
  | null, null => true
  | bool a, bool b => a == b
  | int a, int b => a == b
  | float a, float b => closeTo a b || (a.isNaN && b.isNaN)
  | int a, float b => closeTo a.toFloat b
  | float a, int b => closeTo b.toFloat a
  | string a, string b => a == b
  | resource a, resource b => a == b
  | function a, function b => a == b
  | list as, list bs => eqvItems as bs
  | map as, map bs => eqvEntries as bs
  | object ⟨a, as⟩, object ⟨b, bs⟩ => a == b && eqvFields as bs
  | error a, error b => a == b
  | stream a, stream b => a.same b
  | _, _ => false

def eqvItems : List Value → List Value → Bool
  | [], [] => true
  | a :: as, b :: bs => a.eqv b && eqvItems as bs
  | _, _ => false

def eqvEntries : List (Key × Value) → List (Key × Value) → Bool
  | [], [] => true
  | (j, a) :: as, (k, b) :: bs => j == k && a.eqv b && eqvEntries as bs
  | _, _ => false

def eqvFields : List (String × Value) → List (String × Value) → Bool
  | [], [] => true
  | (j, a) :: as, (k, b) :: bs => j == k && a.eqv b && eqvFields as bs
  | _, _ => false

end

instance : BEq Value := ⟨eqv⟩

end Value
end LazyDispatch
