/-! Type tags: the kinds of value that signatures are written in and dispatch compares. -/

namespace LazyDispatch

/-- The kind of a value. No value has the kind `any`: it stands only in signatures and in widened
predictions. A `list` is a collection keyed `0, 1, ..` in order, a `map` any other one. -/
inductive Tag where
  | null
  | boolean
  | number
  | string
  | resource
  | function
  | list
  | map
  | object
  | error
  | stream
  | any
  deriving DecidableEq, Repr, Inhabited

namespace Tag

def all : List Tag :=
  [null, boolean, number, string, resource, function, list, map, object, error, stream, any]

def name : Tag → String
  | null => "Null"
  | boolean => "Boolean"
  | number => "Number"
  | string => "String"
  | resource => "Resource"
  | function => "Function"
  | list => "List"
  | map => "Map"
  | object => "Object"
  | error => "Error"
  | stream => "Stream"
  | any => "Any"

def fold (letters : List Char) : List Char := letters.map Char.toLower

/-- The tag spelt by some letters, ASCII case ignored. `Array` is an older spelling of `Map`. -/
def ofLetters? (letters : List Char) : Option Tag :=
  if fold letters = "array".toList then some map
  else all.find? fun tag => fold tag.name.toList = fold letters

def ofName? (name : String) : Option Tag := ofLetters? name.toList

def isAny (tag : Tag) : Bool := tag = any

def accepts (parameter argument : Tag) : Bool :=
  parameter.isAny || argument.isAny || parameter = argument

/-- Two predictions as one: equal tags are kept, anything else widens to `any`. -/
def merge (left right : Tag) : Tag := if left = right then left else any

def rank : Tag → Nat
  | null => 0
  | boolean => 1
  | number => 2
  | string => 3
  | resource => 4
  | function => 5
  | list => 6
  | map => 7
  | object => 8
  | error => 9
  | stream => 10
  | any => 11

instance : Ord Tag := ⟨fun left right => compare left.rank right.rank⟩

def row (tags : List Tag) : String := ", ".intercalate (tags.map name)

end Tag
end LazyDispatch
