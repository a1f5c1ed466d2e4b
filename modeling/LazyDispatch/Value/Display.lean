import LazyDispatch.Decimal.Shortest
import LazyDispatch.Value

/-! The text of a value. -/

namespace LazyDispatch

def Key.display : Key → String
  | int index => toString index
  | text name => name

namespace Value

def bracketed (items : List String) : String := "[" ++ ", ".intercalate items ++ "]"

def braced (entries : List (String × String)) : String :=
  "\x7b" ++ ", ".intercalate (entries.map fun (name, value) => name ++ ": " ++ value) ++ "\x7d"

mutual

/-- Strings stand in plain quotes, nothing is escaped, and a map that is tagged as a list reads as
one. -/
def display : Value → String
  | null => "null"
  | bool truth => if truth then "true" else "false"
  | int number => toString number
  | float number => Decimal.ofFloat number
  | string text => "\"" ++ text ++ "\""
  | resource _ => "[Resource]"
  | function _ => "[Function]"
  | list items => bracketed (displays items)
  | map entries =>
    if countsFrom 0 (entries.map Prod.fst) then bracketed (entryDisplays entries)
    else braced ((entries.map fun entry => entry.1.display).zip (entryDisplays entries))
  | object ⟨_, fields⟩ => braced ((fields.map Prod.fst).zip (fieldDisplays fields))
  | error fault => fault.display
  | stream pipeline => pipeline.display

def displays : List Value → List String
  | [] => []
  | value :: values => value.display :: displays values

def entryDisplays : List (Key × Value) → List String
  | [] => []
  | (_, value) :: entries => value.display :: entryDisplays entries

def fieldDisplays : List (String × Value) → List String
  | [] => []
  | (_, value) :: fields => value.display :: fieldDisplays fields

end

theorem displays_eq_map (values : List Value) : displays values = values.map display := by
  induction values with
  | nil => rfl
  | cons value values ih => simp [displays, ih]

theorem entryDisplays_eq_map (entries : List (Key × Value)) :
    entryDisplays entries = entries.map fun entry => entry.2.display := by
  induction entries with
  | nil => rfl
  | cons entry entries ih => simp [entryDisplays, ih]

theorem fieldDisplays_eq_map (fields : List (String × Value)) :
    fieldDisplays fields = fields.map fun field => field.2.display := by
  induction fields with
  | nil => rfl
  | cons field fields ih => simp [fieldDisplays, ih]

end Value

def Record.display (record : Record Value) : String := (Value.object record).display

end LazyDispatch
