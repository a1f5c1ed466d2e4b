import LazyDispatch.Config.Yaml.Cursor

/-! YAML scalars: plain, quoted, and blocks of lines. -/

namespace LazyDispatch.Yaml

open Text (hexDigit? isSpace)

inductive Style where
  | plain
  | quoted
  /-- A block whose lines are kept. -/
  | literal
  | folded
  deriving DecidableEq, Repr

def isFlowMark (c : Char) : Bool := c == ',' || c == '[' || c == ']' || c == '\x7b' || c == '\x7d'

def stopsPlain (flow : Bool) (c : Char) (rest : List Char) : Bool :=
  (c == ':' && Cursor.atBlank rest) || (flow && isFlowMark c)

def badColon (flow : Bool) (c : Char) (rest : List Char) : Bool :=
  flow && c == ':' && rest.head?.any fun d => isFlowMark d || d == '?'

def plainFrom (flow : Bool) (indent : Nat) :
    Nat → Bool → Cursor → Fold → Option (Fold × Cursor)
  | 0, _, cursor, fold => some (fold, cursor)
  | count + 1, fresh, cursor, fold =>
    match cursor.rest with
    | [] => some (fold, cursor)
    | c :: rest =>
      if isSpace c || isBreak c then
        if c == '\t' && fold.ended.isSome && cursor.column < indent then none
        else plainFrom flow indent count true cursor.next (fold.blank c)
      else if fresh && ((!fold.text.isEmpty && !flow && cursor.column < indent) ||
          cursor.atDocumentMark || c == '#') then
        some (fold, cursor)
      else if badColon flow c rest then none
      else if stopsPlain flow c rest then some (fold, cursor)
      else plainFrom flow indent count false cursor.next (fold.letter c)

def namedEscapes : List (Char × Char) :=
  [('0', '\x00'), ('a', '\x07'), ('b', '\x08'), ('t', '\t'), ('\t', '\t'), ('n', '\n'), ('v', '\x0b'),
    ('f', '\x0c'), ('r', '\x0d'), ('e', '\x1b'), (' ', ' '), ('"', '"'), ('/', '/'), ('\\', '\\'),
    ('N', '\u0085'), ('_', '\u00a0'), ('L', '\u2028'), ('P', '\u2029')]

def codedEscapes : List (Char × Nat) := [('x', 2), ('u', 4), ('U', 8)]

def escape? (letters : List Char) : Option (Char × Nat) := do
  let c ← letters.head?
  match namedEscapes.lookup c with
  | some meant => return (meant, 1)
  | none =>
    let width ← codedEscapes.lookup c
    let digits := letters.tail.take width
    if digits.length = width then
      let codes ← digits.mapM hexDigit?
      let code := codes.foldl (fun n d => 16 * n + d) 0
      if code.isValidChar then return (Char.ofNat code, 1 + width) else none
    else none

def quotedFrom (double : Bool) : Nat → Cursor → Fold → Option (Fold × Cursor)
  | 0, _, _ => none
  | count + 1, cursor, fold =>
    if cursor.atDocumentMark then none
    else
      match cursor.rest with
      | [] => none
      | c :: rest =>
        if isSpace c || isBreak c then quotedFrom double count cursor.next (fold.blank c)
        else if double && c == '"' then some (fold.settle, cursor.next)
        else if !double && c == '\'' then
          if rest.head? == some '\'' then
            quotedFrom double count (cursor.skip 2) (fold.letter '\'')
          else some (fold.settle, cursor.next)
        else if double && c == '\\' then
          if rest.head?.any isBreak then
            quotedFrom double count (cursor.skip 2) { fold.settle with ended := some none }
          else
            match escape? rest with
            | none => none
            | some (meant, width) =>
              quotedFrom double count (cursor.skip (1 + width)) (fold.letter meant)
        else quotedFrom double count cursor.next (fold.letter c)

inductive Chomp where
  | strip
  | clip
  | keep
  deriving DecidableEq

def chomp? (c : Char) : Option Chomp :=
  if c == '+' then some .keep else if c == '-' then some .strip else none

def blockMarks? (letters : List Char) : Option (Chomp × Option Nat × Nat) :=
  let indent? (c : Char) : Option Nat := if c.isDigit then some (c.toNat - 48) else none
  let marks : Chomp × Option Nat × Nat :=
    match letters with
    | a :: b :: _ =>
      match chomp? a, indent? a, chomp? b, indent? b with
      | some chomp, _, _, some indent => (chomp, some indent, 2)
      | some chomp, _, _, _ => (chomp, none, 1)
      | _, some indent, some chomp, _ => (chomp, some indent, 2)
      | _, some indent, _, _ => (.clip, some indent, 1)
      | _, _, _, _ => (.clip, none, 0)
    | [a] => ((chomp? a).getD .clip, indent? a, if a == '+' || a == '-' || a.isDigit then 1 else 0)
    | [] => (.clip, none, 0)
  if marks.2.1 == some 0 then none else some marks

/-- Empty lines and the indentation of the next one: their breaks, the widest indentation met. -/
def blockBreaks (indent : Option Nat) :
    Nat → Nat → List Char → Cursor → Option (List Char × Nat × Cursor)
  | 0, widest, breaks, cursor => some (breaks, widest, cursor)
  | count + 1, widest, breaks, cursor =>
    let inside := indent.all fun width => cursor.column < width
    match cursor.rest with
    | [] => some (breaks, max widest cursor.column, cursor)
    | c :: _ =>
      if inside && c == ' ' then blockBreaks indent count widest breaks cursor.next
      else if inside && c == '\t' then none
      else if isBreak c then
        blockBreaks indent count (max widest cursor.column) (c :: breaks) cursor.next
      else some (breaks, max widest cursor.column, cursor)

def blockLines (folded : Bool) (size indent : Nat) :
    Nat → List Char → List Char → List Char → Bool → Cursor →
      Option (List Char × List Char × List Char × Cursor)
  | 0, text, last, breaks, _, cursor => some (text, last, breaks, cursor)
  | count + 1, text, last, breaks, blankBefore, cursor =>
    if cursor.column == indent && !cursor.rest.isEmpty then
      let blank := cursor.peek.any isSpace
      let joint :=
        if folded && last == ['\n'] && !blankBefore && !blank then
          if breaks.isEmpty then [' '] else breaks
        else breaks ++ last
      let (letters, after) := cursor.skipWhile fun c => !isBreak c
      let ended := after.rest.take 1
      match blockBreaks (some indent) size 0 [] (after.skip ended.length) with
      | none => none
      | some (further, _, next) =>
        blockLines folded size indent count (letters.reverse ++ joint ++ text) ended further blank next
    else some (text, last, breaks, cursor)

/-- A block after its `|` or `>`, in a text of no more than `size` letters. Its lines are indented by
`least` at least, or by as much as its marks say beyond the collection around it. -/
def block (folded : Bool) (size least : Nat) (cursor : Cursor) : Option (String × Cursor) := do
  let (chomp, given, width) ← blockMarks? cursor.rest
  let (_, header) := (cursor.skip width).skipWhile isSpace
  let (_, header) :=
    if header.peek == some '#' then header.skipWhile fun c => !isBreak c else ([], header)
  if header.rest.isEmpty || header.peek.any isBreak then
    let body := header.next
    let fixed := given.map fun n => least - 1 + n
    let (breaks, widest, first) ← blockBreaks fixed size 0 [] body
    let indent := fixed.getD (max widest (max least 1))
    let (text, last, further, after) ←
      blockLines folded size indent size [] [] breaks false first
    let tail :=
      match chomp with
      | .strip => []
      | .clip => last
      | .keep => further ++ last
    return (String.ofList (tail ++ text).reverse, after)
  else none

end LazyDispatch.Yaml
