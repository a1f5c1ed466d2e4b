import LazyDispatch.Config.Yaml.TagName

/-! YAML tokens. Indentation opens and closes block collections, and a key is known as one only by
the colon after it, so its token is put in afterwards. -/

namespace LazyDispatch.Yaml

open Text (isNameLetter isSpace)

inductive Token where
  | version (major minor : Nat)
  /-- What a handle stands for. -/
  | handle (name : String) (beginning : List UInt8)
  | documentStart
  | documentEnd
  | blockSequenceStart
  | blockMappingStart
  | blockEnd
  | flowSequenceStart
  | flowSequenceEnd
  | flowMappingStart
  | flowMappingEnd
  | blockEntry
  | flowEntry
  | key
  | value
  | mention (name : String)
  | anchor (name : String)
  | tag (name : TagName)
  | scalar (text : String) (style : Style)
  deriving DecidableEq, Repr

namespace Token

def version? : Token → Option (Nat × Nat)
  | version major minor => some (major, minor)
  | _ => none

def handle? : Token → Option (String × List UInt8)
  | handle name beginning => some (name, beginning)
  | _ => none

def isDirective (token : Token) : Bool := token.version?.isSome || token.handle?.isSome

def endsContent (token : Token) : Bool :=
  token.isDirective || token == documentStart || token == documentEnd

end Token

def knownVersions : List (Nat × Nat) := [(1, 1), (1, 2)]

/-- A token that a colon later on its line may turn into a key. -/
structure PossibleKey where
  /-- It stands where only a key may stand. -/
  required : Bool
  /-- The place of its token. -/
  place : Nat
  start : Cursor

structure Scan where
  cursor : Cursor
  /-- The number of letters of the text, and one more. No loop over them takes more steps. -/
  size : Nat
  /-- The last token first. -/
  tokens : List Token
  /-- The number of tokens. -/
  count : Nat
  /-- The column of each open block collection, the innermost first. -/
  indents : List Nat
  /-- The possible key of each open collection in brackets and of the block around them, the
  innermost first. -/
  keys : List (Option PossibleKey)
  /-- A key may start here. -/
  keyAllowed : Bool

abbrev Scanning : Type → Type := StateT Scan Option

namespace Scan

def start (letters : List Char) : Scan :=
  ⟨Cursor.start letters, letters.length + 1, [], 0, [], [none], true⟩

def inFlow (scan : Scan) : Bool := !scan.keys.tail.isEmpty

def inner (scan : Scan) : Nat :=
  match scan.indents with
  | [] => 0
  | column :: _ => column + 1

def column (scan : Scan) : Nat := scan.cursor.column

end Scan

namespace Scanning

def fail {α : Type} : Scanning α := fun _ => none

def ensure (holds : Bool) : Scanning Unit := if holds then return else fail

def put (token : Token) : Scanning Unit :=
  modify fun scan => { scan with tokens := token :: scan.tokens, count := scan.count + 1 }

def putAt (place : Nat) (token : Token) : Scanning Unit :=
  modify fun scan =>
    let later := scan.count - place
    { scan with
      tokens := scan.tokens.take later ++ token :: scan.tokens.drop later
      count := scan.count + 1 }

def skip (count : Nat) : Scanning Unit :=
  modify fun scan => { scan with cursor := scan.cursor.skip count }

def takeWhile (p : Char → Bool) : Scanning (List Char) := do
  let scan ← get
  let (letters, cursor) := scan.cursor.skipWhile p
  set { scan with cursor }
  return letters

def allowKey (allowed : Bool) : Scanning Unit :=
  modify fun scan => { scan with keyAllowed := allowed }

def setKey (key : Option PossibleKey) : Scanning Unit :=
  modify fun scan => { scan with keys := key :: scan.keys.tail }

def dropKey : Scanning Unit := do
  match (← get).keys.head?.join with
  | some key => ensure !key.required
  | none => return
  setKey none

def saveKey : Scanning Unit := do
  let scan ← get
  if scan.keyAllowed then
    dropKey
    let required := !scan.inFlow && scan.indents.head? == some scan.column
    setKey (some ⟨required, scan.count, scan.cursor⟩)

/-- A key stays on one line and is not too long in UTF-8. -/
def isStale (cursor : Cursor) (key : PossibleKey) : Bool :=
  key.start.line < cursor.line || key.start.offset + 1024 < cursor.offset

def dropStaleKeys : Scanning Unit := do
  let scan ← get
  let stale (key : PossibleKey) : Bool := isStale scan.cursor key
  let kept (key : Option PossibleKey) : Option PossibleKey := key.filter (!stale ·)
  ensure !(scan.keys.any fun key => key.any fun held => stale held && held.required)
  set { scan with keys := scan.keys.map kept }

def indentTo (column place : Nat) (token : Token) : Scanning Unit := do
  let scan ← get
  if !scan.inFlow && scan.indents.head?.all (· < column) then
    set { scan with indents := column :: scan.indents }
    putAt place token

def indentHere (token : Token) : Scanning Unit := do
  let scan ← get
  indentTo scan.column scan.count token

def unindentTo (column : Option Nat) : Scanning Unit := do
  let scan ← get
  if !scan.inFlow then
    let closed := scan.indents.takeWhile fun indent => column.all (· < indent)
    set { scan with
      indents := scan.indents.drop closed.length
      tokens := List.replicate closed.length Token.blockEnd ++ scan.tokens
      count := scan.count + closed.length }

/-- Past blanks, comments and line breaks, and a byte order mark in front of a line. Tabs do not count
as blanks where a key may start. -/
def skipFiller : Nat → Scanning Unit
  | 0 => return
  | count + 1 => do
    let scan ← get
    match scan.cursor.rest with
    | [] => return
    | c :: _ =>
      if (c == '\uFEFF' && scan.column == 0) || c == ' ' ||
          (c == '\t' && (scan.inFlow || !scan.keyAllowed)) then
        skip 1
        skipFiller count
      else if c == '#' then
        let _ ← takeWhile fun c => !isBreak c
        skipFiller count
      else if isBreak c then
        set { scan with cursor := scan.cursor.next, keyAllowed := scan.keyAllowed || !scan.inFlow }
        skipFiller count
      else return

def endBlocks : Scanning Unit := do
  unindentTo none
  dropKey
  allowKey false

def documentMark (token : Token) : Scanning Unit := do
  endBlocks
  skip 3
  put token

def skipSpaces : Scanning Unit := do
  let _ ← takeWhile isSpace

def ensureBlank : Scanning Unit := do
  ensure (Cursor.atBlank (← get).cursor.rest)

def number : Scanning Nat := do
  let digits ← takeWhile Char.isDigit
  ensure (!digits.isEmpty && digits.length ≤ 9)
  return digits.foldl (fun n digit => 10 * n + (digit.toNat - 48)) 0

def directiveToken (name : List Char) : Scanning Token := do
  if name == "YAML".toList then
    let major ← number
    ensure ((← get).cursor.peek == some '.')
    skip 1
    return .version major (← number)
  else
    ensure (name == "TAG".toList)
    let handle ← takeWhile fun c => isNameLetter c || c == '!'
    ensure (isHandle handle)
    ensureBlank
    skipSpaces
    let letters ← takeWhile isEnclosedLetter
    ensureBlank
    match uriBytes? 0 letters with
    | some beginning =>
      ensure (!beginning.isEmpty)
      return .handle (String.ofList handle) beginning
    | none => fail

def directive : Scanning Unit := do
  endBlocks
  skip 1
  let name ← takeWhile isNameLetter
  ensureBlank
  skipSpaces
  put (← directiveToken name)
  skipSpaces
  if (← get).cursor.peek == some '#' then
    let _ ← takeWhile fun c => !isBreak c
  let cursor := (← get).cursor
  ensure (cursor.rest.isEmpty || cursor.peek.any isBreak)
  skip 1

def openFlow (token : Token) : Scanning Unit := do
  saveKey
  modify fun scan => { scan with keys := none :: scan.keys }
  allowKey true
  skip 1
  put token

def closeFlow (token : Token) : Scanning Unit := do
  dropKey
  modify fun scan => if scan.inFlow then { scan with keys := scan.keys.tail } else scan
  allowKey false
  skip 1
  put token

def flowEntry : Scanning Unit := do
  dropKey
  allowKey true
  skip 1
  put .flowEntry

def blockEntry : Scanning Unit := do
  let scan ← get
  if !scan.inFlow then
    ensure scan.keyAllowed
    indentHere .blockSequenceStart
  dropKey
  allowKey true
  skip 1
  put .blockEntry

def explicitKey : Scanning Unit := do
  let scan ← get
  if !scan.inFlow then
    ensure scan.keyAllowed
    indentHere .blockMappingStart
  dropKey
  allowKey !scan.inFlow
  skip 1
  put .key

def value : Scanning Unit := do
  let scan ← get
  match scan.keys.head?.join with
  | some key =>
    putAt key.place .key
    indentTo key.start.column key.place .blockMappingStart
    setKey none
    allowKey false
  | none =>
    if !scan.inFlow then
      ensure scan.keyAllowed
      indentHere .blockMappingStart
    allowKey !scan.inFlow
  skip 1
  put .value

def reference (token : String → Token) : Scanning Unit := do
  saveKey
  allowKey false
  skip 1
  let name ← takeWhile isNameLetter
  let cursor := (← get).cursor
  ensure (!name.isEmpty &&
    (Cursor.atBlank cursor.rest || cursor.peek.any fun c => "?:,]\x7d%@`".contains c))
  put (token (String.ofList name))

def tag : Scanning Unit := do
  saveKey
  allowKey false
  skip 1
  let name ←
    if (← get).cursor.peek == some '<' then
      skip 1
      let letters ← takeWhile isEnclosedLetter
      ensure (!letters.isEmpty && (← get).cursor.peek == some '>')
      skip 1
      pure ((uriBytes? 0 letters).map (⟨none, ·⟩))
    else TagName.ofLetters? <$> takeWhile isUriLetter
  let scan ← get
  ensure (Cursor.atBlank scan.cursor.rest || (scan.inFlow && scan.cursor.peek == some ','))
  match name with
  | some name => put (.tag name)
  | none => fail

def blockScalar (folded : Bool) : Scanning Unit := do
  dropKey
  allowKey true
  let scan ← get
  match block folded scan.size scan.inner scan.cursor.next with
  | some (text, cursor) =>
    set { scan with cursor }
    put (.scalar text (if folded then .folded else .literal))
  | none => fail

def quotedScalar (double : Bool) : Scanning Unit := do
  saveKey
  allowKey false
  skip 1
  let scan ← get
  match quotedFrom double scan.size scan.cursor Fold.empty with
  | some (fold, cursor) =>
    set { scan with cursor }
    put (.scalar fold.result .quoted)
  | none => fail

def plainScalar : Scanning Unit := do
  saveKey
  allowKey false
  let scan ← get
  match plainFrom scan.inFlow scan.inner scan.size true scan.cursor Fold.empty with
  | some (fold, cursor) =>
    set { scan with cursor, keyAllowed := scan.keyAllowed || fold.ended.isSome }
    put (.scalar fold.result .plain)
  | none => fail

def indicators : String := "-?:,[]\x7b\x7d#&*!|>'\"%@`"

def startsPlain (inFlow : Bool) (c : Char) (rest : List Char) : Bool :=
  !(isSpace c || indicators.contains c) || (c == '-' && !(rest.head?.any isSpace)) ||
    (!inFlow && (c == '?' || c == ':') && !Cursor.atBlank rest)

def token (c : Char) (rest : List Char) : Scanning Unit := do
  let scan ← get
  let flow := scan.inFlow
  let apart := Cursor.atBlank rest
  if scan.column == 0 && c == '%' then directive
  else if scan.cursor.atDocumentMark then
    documentMark (if c == '-' then .documentStart else .documentEnd)
  else if c == '[' then openFlow .flowSequenceStart
  else if c == '\x7b' then openFlow .flowMappingStart
  else if c == ']' then closeFlow .flowSequenceEnd
  else if c == '\x7d' then closeFlow .flowMappingEnd
  else if c == ',' then flowEntry
  else if c == '-' && apart then blockEntry
  else if c == '?' && (flow || apart) then explicitKey
  else if c == ':' && (flow || apart) then value
  else if c == '*' then reference .mention
  else if c == '&' then reference .anchor
  else if c == '!' then tag
  else if c == '|' && !flow then blockScalar false
  else if c == '>' && !flow then blockScalar true
  else if c == '\'' then quotedScalar false
  else if c == '"' then quotedScalar true
  else if startsPlain flow c rest then plainScalar
  else fail

/-- Every token takes some letter, so there are no more than letters. -/
def tokens : Nat → Scanning Unit
  | 0 => fail
  | count + 1 => do
    skipFiller (← get).size
    dropStaleKeys
    let scan ← get
    match scan.cursor.rest with
    | [] =>
      unindentTo none
      dropKey
    | c :: rest =>
      unindentTo (some scan.column)
      token c rest
      tokens count

end Scanning

def Token.scan? (text : String) : Option (List Token) :=
  let letters := normalized text.toList
  if letters.all isAllowed then
    let start := Scan.start letters
    (Scanning.tokens start.size start).map fun (_, scan) => scan.tokens.reverse
  else none

end LazyDispatch.Yaml
