import LazyDispatch.Config.Yaml.Token

/-! YAML nodes, and the document of a text. -/

namespace LazyDispatch.Yaml

structure Scalar where
  text : String
  style : Style
  tag : Option (List UInt8)
  deriving Repr

inductive Node where
  | scalar (scalar : Scalar)
  | sequence (items : List Node)
  | mapping (rows : List (Node × Node))
  /-- The node that is anchored under a number. -/
  | mention (number : Nat)
  deriving Repr

def Node.empty : Node := .scalar ⟨"", .plain, none⟩

/-- Anchored nodes, of which only scalars are kept. A name stands for the number it got last; two names
may come to stand for one number, and then for the node that got it last. -/
structure Anchors where
  /-- The number of each name. -/
  names : List (String × Nat)
  /-- What each number is given to, the last first. -/
  nodes : List (Nat × Option Scalar)

namespace Anchors

def empty : Anchors := ⟨[], []⟩

def add (anchors : Anchors) (name : String) (scalar : Option Scalar) : Anchors :=
  let number := anchors.names.length
  ⟨(name, number) :: anchors.names.filter (·.1 ≠ name), (number, scalar) :: anchors.nodes⟩

def number? (anchors : Anchors) (name : String) : Option Nat := anchors.names.lookup name

def scalar? (anchors : Anchors) (number : Nat) : Option Scalar := (anchors.nodes.lookup number).join

end Anchors

structure Document where
  root : Node
  anchors : Anchors

structure Reading where
  tokens : List Token
  size : Nat
  handles : List (String × List UInt8)
  anchors : Anchors

abbrev NodeReader : Type → Type := StateT Reading Option

inductive Around where
  | brackets
  | block
  /-- A row of a block mapping, whose sequence need not be indented further. -/
  | row
  deriving DecidableEq

namespace NodeReader

variable {α : Type}

def fail : NodeReader α := fun _ => none

def peek : NodeReader (Option Token) := return (← get).tokens.head?

def drop : NodeReader Unit := modify fun reading => { reading with tokens := reading.tokens.tail }

def next : NodeReader Token := do
  match ← peek with
  | some token => drop; return token
  | none => fail

def isNext (tokens : List Token) : NodeReader Bool := return (← peek).any tokens.contains

def takes (token : Token) : NodeReader Bool := do
  let found ← isNext [token]
  if found then drop
  return found

def manyAfter (item : NodeReader (Option α)) : Nat → List α → NodeReader (List α)
  | 0, _ => fail
  | count + 1, items => do
    match ← item with
    | some value => manyAfter item count (value :: items)
    | none => return items.reverse

/-- Items up to the first that is none. Each takes some token, so there are no more of them than
tokens. -/
def many (item : NodeReader (Option α)) : NodeReader (List α) := do
  manyAfter item ((← get).size + 1) []

def unlessNext (tokens : List Token) (node : NodeReader Node) : NodeReader Node := do
  if ← isNext tokens then return .empty else node

def setAnchor (anchor : Option String) (scalar : Option Scalar) : NodeReader Unit :=
  match anchor with
  | some name =>
    modify fun reading => { reading with anchors := reading.anchors.add name scalar }
  | none => return

def mention (name : String) : NodeReader Node := do
  match (← get).anchors.number? name with
  | some number => return .mention number
  | none => fail

def anchor : NodeReader (Option String) := do
  match ← peek with
  | some (.anchor name) => drop; return some name
  | _ => return none

def tag : NodeReader (Option (List UInt8)) := do
  match ← peek with
  | some (.tag name) =>
    drop
    match name.resolve? (← get).handles with
    | some tag => return some tag
    | none => fail
  | _ => return none

def properties : NodeReader (Option String × Option (List UInt8)) := do
  match ← anchor with
  | some name => return (some name, ← tag)
  | none =>
    match ← tag with
    | some tag => return (← anchor, some tag)
    | none => return (none, none)

section collections

variable (node : Around → NodeReader Node)

def blockSequence : NodeReader Node :=
  .sequence <$> many do
    match ← next with
    | .blockEntry => some <$> unlessNext [.blockEntry, .blockEnd] (node .block)
    | .blockEnd => return none
    | _ => fail

def rowSequence : NodeReader Node :=
  .sequence <$> many do
    if ← takes .blockEntry then
      some <$> unlessNext [.blockEntry, .key, .value, .blockEnd] (node .block)
    else return none

def blockMapping : NodeReader Node :=
  .mapping <$> many do
    let part := unlessNext [.key, .value, .blockEnd] (node .row)
    match ← next with
    | .key =>
      let key ← part
      let value ← if ← takes .value then part else pure .empty
      return some (key, value)
    | .blockEnd => return none
    | _ => fail

def flow (close : Token) (item : NodeReader α) : NodeReader (List α) :=
  many do
    if ← takes close then return none
    else
      let value ← item
      if (← takes .flowEntry) || (← isNext [close]) then return some value else fail

def flowItem : NodeReader Node := do
  if ← takes .key then
    let key ←
      if ← isNext [.value, .flowEntry, .flowSequenceEnd] then drop; pure Node.empty
      else node .brackets
    let value ←
      if ← takes .value then unlessNext [.flowEntry, .flowSequenceEnd] (node .brackets)
      else pure .empty
    return .mapping [(key, value)]
  else node .brackets

def flowRow : NodeReader (Node × Node) := do
  if ← takes .key then
    let key ← unlessNext [.value, .flowEntry, .flowMappingEnd] (node .brackets)
    let value ←
      if ← takes .value then unlessNext [.flowEntry, .flowMappingEnd] (node .brackets)
      else pure .empty
    return (key, value)
  else return (← node .brackets, .empty)

def collection (around : Around) : NodeReader Node := do
  if around == .row && (← isNext [.blockEntry]) then rowSequence node
  else
    match ← next, around with
    | .flowSequenceStart, _ => .sequence <$> flow .flowSequenceEnd (flowItem node)
    | .flowMappingStart, _ => .mapping <$> flow .flowMappingEnd (flowRow node)
    | .blockSequenceStart, .block | .blockSequenceStart, .row => blockSequence node
    | .blockMappingStart, .block | .blockMappingStart, .row => blockMapping node
    | _, _ => fail

end collections

def starts (around : Around) : List Token :=
  match around with
  | .brackets => [.flowSequenceStart, .flowMappingStart]
  | .block => [.flowSequenceStart, .flowMappingStart, .blockSequenceStart, .blockMappingStart]
  | .row =>
    [.flowSequenceStart, .flowMappingStart, .blockSequenceStart, .blockMappingStart, .blockEntry]

def node : Nat → Around → NodeReader Node
  | 0, _ => fail
  | depth + 1, around => do
    match ← peek with
    | some (.mention name) => drop; mention name
    | _ =>
      let (anchor, tag) ← properties
      match ← peek with
      | some (.scalar text style) =>
        drop
        let scalar : Scalar := ⟨text, style, tag⟩
        setAnchor anchor (some scalar)
        return .scalar scalar
      | _ =>
        if ← isNext (starts around) then
          setAnchor anchor none
          collection (node depth) around
        else if anchor.isSome || tag.isSome then
          let scalar : Scalar := ⟨"", .plain, tag⟩
          setAnchor anchor (some scalar)
          return .scalar scalar
        else fail

/-- Takes in the directives in front of a document: at most one version, a known one, and at most one
meaning for a handle. -/
def directives : NodeReader (List Token) := do
  let directives ← many do
    match ← peek with
    | some token => if token.isDirective then drop; return some token else return none
    | none => return none
  let versions := directives.filterMap Token.version?
  let handles := directives.filterMap Token.handle?
  if versions.length ≤ 1 ∧ versions.all knownVersions.contains ∧ (handles.map Prod.fst).Nodup then
    modify fun reading => { reading with handles := handles ++ reading.handles }
    return directives
  else fail

def document : NodeReader Node := do
  let depth := (← get).size
  let directives ← directives
  let root ←
    if ← takes .documentStart then
      if (← peek).all Token.endsContent then pure .empty else node depth .block
    else if !directives.isEmpty then fail
    else if (← peek).isNone then pure .empty
    else node depth .block
  let _ ← many do return if ← takes .documentEnd then some () else none
  if (← peek).isSome then fail else return root

end NodeReader

def document? (text : String) : Option Document := do
  let tokens ← Token.scan? text
  let (root, reading) ← NodeReader.document ⟨tokens, tokens.length, standardHandles, .empty⟩
  return ⟨root, reading.anchors⟩

end LazyDispatch.Yaml
