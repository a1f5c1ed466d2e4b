import LazyDispatch.Config
import LazyDispatch.Config.Toml.Item
import LazyDispatch.Config.Toml.Scalar

/-! TOML documents as text, and the configurations written so. -/

namespace LazyDispatch.Toml

open Text Text.Reader

/-- How deep arrays and inline tables may nest, and how many parts a key may have. -/
def nesting : Nat := 79

def simpleKey : Reader String :=
  (do
    match ← run isNameLetter with
    | [] => fail
    | letters => return String.ofList letters) <|> do
    return String.ofList (← basicString <|> literalString)

def keyPath : Reader Path := do
  let keys ← separated (do spaces; let key ← simpleKey; spaces; return key) (mark '.')
  match Path.ofKeys? keys with
  | some path => if keys.length ≤ nesting then return path else fail
  | none => fail

def entry (value : Reader Item) : Reader (Path × Item) := do
  let path ← keyPath
  mark '='
  spaces
  let item ← value
  spaces
  return (path, item)

def array (value : Reader Item) : Reader Item := do
  mark '['
  filler
  let items ← terminated (do let item ← value; filler; return item) (do mark ','; filler)
  mark ']'
  return .array items

def inlineTable (value : Reader Item) : Reader Item := do
  mark '\x7b'
  spaces
  let entries ← option (separated (entry value) (mark ','))
  mark '\x7d'
  match Item.ofEntries? (entries.getD []) with
  | some item => return item
  | none => fail

def plainValue : Reader Item :=
  (do return .string (← string)) <|>
  (do word "true"; return .bool true) <|>
  (do word "false"; return .bool false) <|>
  (do moment <|> decimal <|> special <|> integer; return .other)

def value : Nat → Reader Item
  | 0 => plainValue
  | depth + 1 => plainValue <|> array (value depth) <|> inlineTable (value depth)

def line : Reader Line := do
  spaces
  let said ←
    (do
      word "[["
      let path ← keyPath
      word "]]"
      return .element path) <|>
    (do
      mark '['
      let path ← keyPath
      mark ']'
      return .table path) <|>
    (do
      let (path, item) ← entry (value nesting)
      return .entry path item) <|>
    pure .blank
  spaces
  let _ ← option comment
  return said

def lines : Reader (List Line) := do
  let _ ← option (mark '\uFEFF')
  let lines ← separated line newline
  atEnd
  return lines

def read? (text : String) : Option Rows := do
  let (lines, _) ← lines text.toList
  Document.ofLines? lines

def Item.isEmpty : Item → Bool
  | array items => items.isEmpty
  | table _ rows => rows.isEmpty
  | _ => false

/-- A policy by name, or as the only key of a table with nothing in it. -/
def Item.policy? : Item → Option DuplicatePolicy
  | string text => DuplicatePolicy.ofName? text
  | table _ [(key, item)] => if item.isEmpty then DuplicatePolicy.ofName? key else none
  | _ => none

def Item.bool? : Item → Option Bool
  | bool truth => some truth
  | _ => none

def Item.string? : Item → Option String
  | string text => some text
  | _ => none

def Rows.setting? {α : Type} (rows : Rows) (key : String) (read : Item → Option α) :
    Option (Option α) :=
  match rows.find? fun row => row.1 = key with
  | none => some none
  | some (_, item) => (read item).map some

/-- The settings of a document; other keys are ignored. -/
def config? (text : String) : Option Config := do
  let rows ← read? text
  let policy ← rows.setting? "duplicate_policy" Item.policy?
  let builtins ← rows.setting? "builtins" Item.bool?
  let logFilter ← rows.setting? "log_filter" Item.string?
  return ⟨policy.getD .defer, builtins.getD true, logFilter⟩

end LazyDispatch.Toml
