import LazyDispatch.Text.Letters

/-! Places in YAML text, and the folding of its lines. -/

namespace LazyDispatch.Yaml

open Text (isSpace)

def isBreak (c : Char) : Bool := c == '\n' || c == '\u2028' || c == '\u2029'

def isAllowed (c : Char) : Bool :=
  let n := c.toNat
  n == 0x9 || n == 0xA || (0x20 ≤ n && n ≤ 0x7E) || (0xA0 ≤ n && n ≤ 0xFFFD) || 0x10000 ≤ n

def normalized : List Char → List Char
  | [] => []
  | '\x0d' :: '\n' :: rest => '\n' :: normalized rest
  | c :: rest => (if c == '\x0d' || c == '\u0085' then '\n' else c) :: normalized rest

structure Cursor where
  rest : List Char
  /-- The length of what came before, in UTF-8. -/
  offset : Nat
  line : Nat
  column : Nat

namespace Cursor

def start (letters : List Char) : Cursor := ⟨letters, 0, 0, 0⟩

def next (cursor : Cursor) : Cursor :=
  match cursor.rest with
  | [] => cursor
  | c :: rest =>
    let offset := cursor.offset + c.utf8Size
    if isBreak c then ⟨rest, offset, cursor.line + 1, 0⟩
    else ⟨rest, offset, cursor.line, cursor.column + 1⟩

def skip (count : Nat) (cursor : Cursor) : Cursor := count.repeat next cursor

def peek (cursor : Cursor) : Option Char := cursor.rest.head?

def atBlank (letters : List Char) : Bool :=
  match letters with
  | [] => true
  | c :: _ => isSpace c || isBreak c

def atDocumentMark (cursor : Cursor) : Bool :=
  cursor.column == 0 &&
    match cursor.rest with
    | a :: b :: c :: rest => a == b && b == c && (a == '-' || a == '.') && atBlank rest
    | _ => false

def skipWhile (p : Char → Bool) (cursor : Cursor) : List Char × Cursor :=
  let letters := cursor.rest.takeWhile p
  (letters, cursor.skip letters.length)

end Cursor

/-- Text under folding: the letters so far and the blanks since, of which a single line break between
letters is a space, and of several the first is left out. -/
structure Fold where
  /-- The last letter first. -/
  text : List Char
  /-- Blanks of the same line, the last first. -/
  blanks : List Char
  /-- A line has ended since; its break, unless it was escaped. -/
  ended : Option (Option Char)
  /-- Further line breaks, the last first. -/
  breaks : List Char

namespace Fold

def empty : Fold := ⟨[], [], none, []⟩

def joint (fold : Fold) : List Char :=
  match fold.ended with
  | none => fold.blanks
  | some none => fold.breaks
  | some (some c) =>
    if c == '\n' then if fold.breaks.isEmpty then [' '] else fold.breaks
    else fold.breaks ++ [c]

def settle (fold : Fold) : Fold := ⟨fold.joint ++ fold.text, [], none, []⟩

def letter (fold : Fold) (c : Char) : Fold :=
  let settled := fold.settle
  { settled with text := c :: settled.text }

def blank (fold : Fold) (c : Char) : Fold :=
  if isBreak c then
    if fold.ended.isSome then { fold with breaks := c :: fold.breaks }
    else { fold with blanks := [], ended := some (some c) }
  else if fold.ended.isSome then fold
  else { fold with blanks := c :: fold.blanks }

def result (fold : Fold) : String := String.ofList fold.text.reverse

end Fold
end LazyDispatch.Yaml
