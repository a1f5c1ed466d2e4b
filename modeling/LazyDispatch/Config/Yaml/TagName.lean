import LazyDispatch.Config.Yaml.Scalar

/-! Names of YAML tags: URIs, whose bytes may be written as escapes, and the handles that stand for
their beginnings. -/

namespace LazyDispatch.Yaml

open Text (hexDigit? isNameLetter)

def isUriLetter (c : Char) : Bool := isNameLetter c || ";/?:@&=+$.!~*'()%".contains c

def isEnclosedLetter (c : Char) : Bool := isUriLetter c || ",[]".contains c

def bytesAfter? (first : Nat) : Option Nat :=
  if first < 0x80 then some 0
  else if first < 0xC0 then none
  else if first < 0xE0 then some 1
  else if first < 0xF0 then some 2
  else if first < 0xF8 then some 3
  else none

/-- The bytes of a URI after a UTF-8 sequence that lacks `missing` of them. An escape is two
hexadecimal digits, and a sequence that escapes begin they also end; whether it means a character is
left open. -/
def uriBytes? : Nat → List Char → Option (List UInt8)
  | 0, [] => some []
  | missing, '%' :: high :: low :: rest => do
    let byte := 16 * (← hexDigit? high) + (← hexDigit? low)
    let missing ←
      match missing with
      | 0 => bytesAfter? byte
      | missing + 1 => if byte / 0x40 = 2 then some missing else none
    return byte.toUInt8 :: (← uriBytes? missing rest)
  | 0, c :: rest => if c = '%' then none else (uriBytes? 0 rest).map (c.toNat.toUInt8 :: ·)
  | _ + 1, _ => none

def untilZero (bytes : List UInt8) : List UInt8 := bytes.takeWhile (· ≠ 0)

def isHandle : List Char → Bool
  | '!' :: rest => rest.isEmpty || (rest.getLast? == some '!' && rest.dropLast.all isNameLetter)
  | _ => false

structure TagName where
  /-- What stands for the beginning, if anything does. -/
  handle : Option String
  rest : List UInt8
  deriving DecidableEq, Repr

namespace TagName

def bare : TagName := ⟨none, [0x21]⟩

def ofLetters? (letters : List Char) : Option TagName :=
  let (name, rest) := letters.span isNameLetter
  match rest with
  | '!' :: rest =>
    if rest.isEmpty then none
    else (uriBytes? 0 rest).map (⟨some (String.ofList ('!' :: name ++ ['!'])), ·⟩)
  | _ => do
    let bytes ← uriBytes? 0 letters
    return if (untilZero bytes).isEmpty then bare else ⟨some "!", bytes⟩

def resolve? (handles : List (String × List UInt8)) (name : TagName) : Option (List UInt8) :=
  match name.handle with
  | none => some (untilZero name.rest)
  | some handle =>
    (handles.lookup handle).map fun beginning => untilZero beginning ++ untilZero name.rest

end TagName

def asciiBytes (text : String) : List UInt8 := text.toList.map fun c => c.toNat.toUInt8

def standardTag (name : String) : List UInt8 := asciiBytes ("tag:yaml.org,2002:" ++ name)

def standardHandles : List (String × List UInt8) :=
  [("!", asciiBytes "!"), ("!!", standardTag "")]

end LazyDispatch.Yaml
