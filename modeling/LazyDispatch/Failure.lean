import LazyDispatch.Tag

/-! Failures of registration, dispatch and resolution, and the error values they become. -/

namespace LazyDispatch

structure Fault where
  message : String
  deriving DecidableEq, Repr

def Fault.chain (earlier : Fault) (message : String) : Fault :=
  ⟨earlier.message ++ " -> " ++ message⟩

def Fault.display (fault : Fault) : String := "[Error: " ++ fault.message ++ "]"

inductive Failure where
  /-- The callable given to a registration is not invocable. -/
  | unknownCallable (shown : String)
  /-- Signature text fails in syntax or vocabulary. -/
  | invalidSignature (text : String)
  /-- A call to a name that the snapshot lacks. -/
  | unknownOperation (operation : String)
  /-- A signature registered twice where that is refused. -/
  | duplicatedOperation (operation : String)
  /-- Two signatures of one operation share their parameters. -/
  | ambiguousSignature (operation : String)
  /-- No signature accepts the predicted types at call time. -/
  | wrongOperationArgs (operation : String) (args : List Tag)
  /-- No pending candidate accepts the actual types at resolution. -/
  | wrongTransformationArgs (operation : String) (args : List Tag) (expected : List (List Tag))
  /-- A callable failed. -/
  | callable (fault : Fault)
  deriving DecidableEq, Repr

namespace Failure

inductive Kind where
  | unknownCallable
  | invalidSignature
  | unknownOperation
  | duplicatedOperation
  | ambiguousSignature
  | wrongOperationArgs
  | wrongTransformationArgs
  | callable
  deriving DecidableEq, Repr

def Kind.name : Kind → String
  | .unknownCallable => "unknown-callable"
  | .invalidSignature => "invalid-signature"
  | .unknownOperation => "unknown-operation"
  | .duplicatedOperation => "duplicated-operation"
  | .ambiguousSignature => "ambiguous-signature"
  | .wrongOperationArgs => "wrong-operation-args"
  | .wrongTransformationArgs => "wrong-transformation-args"
  | .callable => "callable"

def kind : Failure → Kind
  | unknownCallable _ => .unknownCallable
  | invalidSignature _ => .invalidSignature
  | unknownOperation _ => .unknownOperation
  | duplicatedOperation _ => .duplicatedOperation
  | ambiguousSignature _ => .ambiguousSignature
  | wrongOperationArgs _ _ => .wrongOperationArgs
  | wrongTransformationArgs _ _ _ => .wrongTransformationArgs
  | callable _ => .callable

/-- Accepted tuples of types as alternatives: `(List) or (Map, Number)`. -/
def alternatives (tuples : List (List Tag)) : String :=
  " or ".intercalate (tuples.map fun tags => "(" ++ Tag.row tags ++ ")")

def message : Failure → String
  | unknownCallable shown => "Stream: unknown callable '" ++ shown ++ "'"
  | invalidSignature text =>
    "Stream: invalid signature '" ++ text ++ "' it should follow the syntax " ++
      "'TypeArg1 -> TypeArg2 -> ... -> ReturnType' and types to use are " ++ Tag.row Tag.all
  | unknownOperation operation => "Stream: call to unknown operation '" ++ operation ++ "'"
  | duplicatedOperation operation => "Stream: operation '" ++ operation ++ "' already exists"
  | ambiguousSignature operation =>
    "Stream: signatures of the operation '" ++ operation ++ "' are duplicated or ambiguous"
  | wrongOperationArgs operation args =>
    "Stream: wrong arguments (" ++ Tag.row args ++ ") given to operation '" ++ operation ++ "'"
  | wrongTransformationArgs operation args expected =>
    "Stream: operation '" ++ operation ++ "' could not be called with arguments types (" ++
      Tag.row args ++ "); expected types are " ++ alternatives expected
  | callable fault => fault.message

def raised (message : String) : Failure := callable ⟨message⟩

end Failure

def Fault.ofFailure (failure : Failure) : Fault := ⟨failure.message⟩

end LazyDispatch
