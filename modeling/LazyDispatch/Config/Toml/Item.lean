/-! TOML data. Tables remember how they came to be, which decides who may add to them. -/

namespace LazyDispatch.Toml

inductive Origin where
  /-- By its own header. -/
  | header
  /-- By a header further in. -/
  | implied
  /-- By a dotted key. -/
  | dotted
  /-- Between braces; nothing may be added. -/
  | inline
  deriving DecidableEq, Repr

inductive Item where
  | string (text : String)
  | bool (truth : Bool)
  /-- A number or a time, which no setting takes. -/
  | other
  | array (items : List Item)
  | table (origin : Origin) (rows : List (String × Item))
  /-- An array of tables, by headers in double brackets. -/
  | tables (elements : List (List (String × Item)))

abbrev Rows : Type := List (String × Item)

namespace Rows

def alter (key : String) (change : Option Item → Option Item) : Rows → Option Rows
  | [] => (change none).map fun item => [(key, item)]
  | (other, item) :: rest =>
    if other = key then (change (some item)).map fun changed => (key, changed) :: rest
    else (alter key change rest).map ((other, item) :: ·)

def add (key : String) (item : Item) : Rows → Option Rows :=
  alter key fun held =>
    match held with
    | none => some item
    | some _ => none

def inLast (change : Rows → Option Rows) (elements : List Rows) : Option Item := do
  let last ← elements.getLast?
  return .tables (elements.dropLast ++ [← change last])

def under (change : Rows → Option Rows) : List String → Rows → Option Rows
  | [] => change
  | key :: path =>
    alter key fun held =>
      match held with
      | none => (under change path []).map (.table .implied)
      | some (.table .inline _) => none
      | some (.table origin rows) => (under change path rows).map (.table origin)
      | some (.tables elements) => inLast (under change path) elements
      | some _ => none

/-- Adds an item under a dotted key. Only tables made by dotted keys may be added to, though one may
pass through tables that a header implied. -/
def addDotted (item : Item) : List String → String → Rows → Option Rows
  | [], last => add last item
  | key :: path, last =>
    alter key fun held =>
      match held with
      | none => (addDotted item path last []).map (.table .dotted)
      | some (.table .dotted rows) => (addDotted item path last rows).map (.table .dotted)
      | some (.table .implied rows) =>
        if path.isEmpty then none else (addDotted item path last rows).map (.table .implied)
      | some (.tables elements) =>
        if path.isEmpty then none else inLast (addDotted item path last) elements
      | some _ => none

/-- A table by its header: a new one, or one that so far was only implied. -/
def openTable (key : String) : Rows → Option Rows :=
  alter key fun held =>
    match held with
    | none => some (.table .header [])
    | some (.table .implied rows) => some (.table .header rows)
    | some _ => none

def openElement (key : String) : Rows → Option Rows :=
  alter key fun held =>
    match held with
    | none => some (.tables [[]])
    | some (.tables elements) => some (.tables (elements ++ [[]]))
    | some _ => none

end Rows

structure Path where
  parents : List String
  last : String
  deriving DecidableEq, Repr

namespace Path

def ofKeys? (keys : List String) : Option Path :=
  keys.getLast?.map fun last => ⟨keys.dropLast, last⟩

def keys (path : Path) : List String := path.parents ++ [path.last]

end Path

def Item.ofEntries? (entries : List (Path × Item)) : Option Item :=
  (entries.foldlM
    (fun (rows : Rows) (entry : Path × Item) =>
      rows.addDotted entry.2 entry.1.parents entry.1.last) []).map (.table .inline)

inductive Line where
  | blank
  | table (path : Path)
  | element (path : Path)
  | entry (path : Path) (item : Item)

structure Document where
  rows : Rows
  current : List String

namespace Document

def line (document : Document) : Line → Option Document
  | .blank => some document
  | .table path => do
    let rows ← document.rows.under (Rows.openTable path.last) path.parents
    return ⟨rows, path.keys⟩
  | .element path => do
    let rows ← document.rows.under (Rows.openElement path.last) path.parents
    return ⟨rows, path.keys⟩
  | .entry path item => do
    let rows ← document.rows.under (Rows.addDotted item path.parents path.last) document.current
    return { document with rows }

def ofLines? (lines : List Line) : Option Rows :=
  (lines.foldlM line ⟨[], []⟩).map Document.rows

end Document
end LazyDispatch.Toml
