import LazyDispatch.Failure
import LazyDispatch.Text.Letters

/-! Signatures, the types an operation takes and the type it returns, and the language they are
written in. A text is a chain of groups joined by `->`, a group a union of type names joined by `|`,
and the last group the return type: `Number|List -> String -> Number`. A text with unions means the
product of its groups. -/

namespace LazyDispatch

/-- A receiver type, the types of further arguments, and the return type; so never fewer than two
types. -/
structure Signature where
  receiver : Tag
  args : List Tag
  returns : Tag
  deriving DecidableEq, Repr

namespace Signature

def params (signature : Signature) : List Tag := signature.receiver :: signature.args

def types (signature : Signature) : List Tag := signature.params ++ [signature.returns]

def ofTypes? : List Tag → Option Signature
  | receiver :: second :: rest =>
    let others := second :: rest
    some ⟨receiver, others.dropLast, others.getLast (List.cons_ne_nil second rest)⟩
  | _ => none

def accepts (signature : Signature) (args : List Tag) : Bool :=
  signature.params.length == args.length &&
    (signature.params.zip args).all fun (parameter, argument) => parameter.accepts argument

def display (signature : Signature) : String := " -> ".intercalate (signature.types.map Tag.name)

theorem ofTypes?_types (signature : Signature) : ofTypes? signature.types = some signature := by
  obtain ⟨receiver, args, returns⟩ := signature
  cases args with
  | nil => rfl
  | cons second rest =>
    have init : ((second :: rest) ++ [returns]).dropLast = second :: rest := List.dropLast_concat
    rw [List.cons_append] at init
    simp [ofTypes?, types, params, init, List.getLast_cons]

/-- Lengthens each row by each type of a group, the rows varying fastest. A row that has come up
already is dropped. -/
def lengthen (rows : List (List Tag)) (group : List Tag) : List (List Tag) :=
  (group.flatMap fun tag => rows.map (· ++ [tag])).eraseDups

def expand (groups : List (List Tag)) : List (List Tag) := groups.foldl lengthen [[]]

def readGroup (letters : List Char) : Option (List Tag) :=
  (Text.cutAt '|' letters).mapM fun name => Tag.ofLetters? (Text.trim name)

/-- The signatures a text means, or nothing if it has fewer than two groups or an unknown name. -/
def read (letters : List Char) : Option (List Signature) := do
  let groups ← (Text.cutArrows letters).mapM readGroup
  if groups.length < 2 then none else some ((expand groups).filterMap ofTypes?)

def parse (text : String) : Except Failure (List Signature) :=
  match read text.toList with
  | some signatures => .ok signatures
  | none => .error (.invalidSignature text)

end Signature
end LazyDispatch
