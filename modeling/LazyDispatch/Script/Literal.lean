import LazyDispatch.Script.Recipe

/-! Values as a script writes them. Each mention of a resource or of a ready-made function makes a
new one; a variable stands for the value it holds, identity included. -/

namespace LazyDispatch.Script

inductive Literal where
  | null
  | bool (truth : Bool)
  | int (number : Int64)
  | float (number : Float)
  | string (text : String)
  | list (items : List Literal)
  | map (entries : List (Key × Literal))
  | object (className : String) (fields : List (String × Literal))
  | error (message : String)
  | resource (kind : String) (handle : Int64)
  | fetch (variableName : String)
  | native (name : String)
  | made (name : String) (recipe : Recipe)
  | constant (name : String) (value : Literal)
  | pipe (name : String) (steps : List (String × List Literal)) (base : Option String)
    (deferred : Bool)

inductive CallableLiteral where
  | named (name : String)
  | value (literal : Literal)

inductive Trouble where
  | failure (failure : Failure)
  | config (failure : Config.Failure)
  /-- The step names something that does not exist. -/
  | misuse (what : String)

structure Workshop where
  recipes : Array (String × Recipe)
  resources : Nat

namespace Workshop

def empty : Workshop := ⟨#[], 0⟩

def host (workshop : Workshop) : Host Notebook := fun id args =>
  match workshop.recipes[id]? with
  | some (name, recipe) => recipe.counted id name args
  | none => .raise "no such callable"

end Workshop

abbrev Making : Type → Type := ExceptT Trouble (StateM Workshop)

namespace Making

def function (name : String) (recipe : Recipe) : Making Value := do
  let workshop ← get
  set { workshop with recipes := workshop.recipes.push (name, recipe) }
  return .function (.custom workshop.recipes.size name)

def resource (kind : String) (handle : Int64) : Making Value := do
  let workshop ← get
  set { workshop with resources := workshop.resources + 1 }
  return .resource ⟨workshop.resources, kind, handle⟩

def fetch (bindings : NameTable Value) (name : String) : Making Value :=
  match bindings.get? name with
  | some value => return value
  | none => throw (.misuse ("no variable " ++ name))

end Making

namespace Literal

mutual

def make (bindings : NameTable Value) : Literal → Making Value
  | null => return .null
  | bool truth => return .bool truth
  | int number => return .int number
  | float number => return .float number
  | string text => return .string text
  | list items => return .list (← makeItems bindings items)
  | map entries => return .map (← makeEntries bindings entries)
  | object className fields => return .object ⟨className, ← makeFields bindings fields⟩
  | error message => return .error ⟨message⟩
  | resource kind handle => Making.resource kind handle
  | fetch variableName => Making.fetch bindings variableName
  | native name =>
    match Native.ofName? name with
    | some found => return .function (.native found)
    | none => throw (.failure (.unknownCallable name))
  | made name recipe => Making.function name recipe
  | constant name value => do Making.function name (.constant (← value.make bindings))
  | pipe name steps base deferred => do
    let steps ← makeSteps bindings steps
    Making.function name (.pipe steps base deferred)

def makeItems (bindings : NameTable Value) : List Literal → Making (List Value)
  | [] => return []
  | item :: items => return (← item.make bindings) :: (← makeItems bindings items)

def makeEntries (bindings : NameTable Value) : List (Key × Literal) → Making (List (Key × Value))
  | [] => return []
  | (key, value) :: entries => return (key, ← value.make bindings) :: (← makeEntries bindings entries)

def makeFields (bindings : NameTable Value) : List (String × Literal) → Making (List (String × Value))
  | [] => return []
  | (name, value) :: fields => return (name, ← value.make bindings) :: (← makeFields bindings fields)

def makeSteps (bindings : NameTable Value) : List (String × List Literal) → Making (List (String × List Value))
  | [] => return []
  | (name, args) :: steps => return (name, ← makeItems bindings args) :: (← makeSteps bindings steps)

end

end Literal

def CallableLiteral.make (bindings : NameTable Value) : CallableLiteral → Making Reference
  | named name => return .named name
  | value literal => return .value (← literal.make bindings)

end LazyDispatch.Script
