/-! Letters: blanks, digits and the letters of names, texts trimmed and cut at marks, and readers,
each of which takes a part off the front of some letters, or fails and takes nothing. -/

namespace LazyDispatch.Text

/-- The Unicode property White_Space. -/
def isBlank (c : Char) : Bool :=
  let n := c.toNat
  (0x9 ≤ n && n ≤ 0xD) || n == 0x20 || n == 0x85 || n == 0xA0 || n == 0x1680 ||
    (0x2000 ≤ n && n ≤ 0x200A) || n == 0x2028 || n == 0x2029 || n == 0x202F || n == 0x205F ||
    n == 0x3000

def isSpace (c : Char) : Bool := c == ' ' || c == '\t'

def isNameLetter (c : Char) : Bool := c.isAlphanum || c == '_' || c == '-'

def hexDigit? (c : Char) : Option Nat :=
  if c.isDigit then some (c.toNat - 48)
  else if 'a' ≤ c ∧ c ≤ 'f' then some (c.toNat - 87)
  else if 'A' ≤ c ∧ c ≤ 'F' then some (c.toNat - 55)
  else none

def trimBy (p : Char → Bool) (letters : List Char) : List Char :=
  ((letters.dropWhile p).reverse.dropWhile p).reverse

def trim : List Char → List Char := trimBy isBlank

def cutArrows : List Char → List (List Char)
  | [] => [[]]
  | '-' :: '>' :: rest => [] :: cutArrows rest
  | c :: rest => (cutArrows rest).modifyHead (c :: ·)

def cutAt (mark : Char) : List Char → List (List Char)
  | [] => [[]]
  | c :: rest =>
    if c = mark then [] :: cutAt mark rest else (cutAt mark rest).modifyHead (c :: ·)

abbrev Reader : Type → Type := StateT (List Char) Option

namespace Reader

variable {α β : Type}

def fail : Reader α := fun _ => none

def atEnd : Reader Unit := fun letters => if letters.isEmpty then some ((), letters) else none

def one (p : Char → Bool) : Reader Char
  | [] => none
  | c :: rest => if p c then some (c, rest) else none

def mark (c : Char) : Reader Unit := do
  let _ ← one (· == c)

def word (text : String) : Reader Unit := text.toList.forM mark

def run (p : Char → Bool) : Reader (List Char) := fun letters => some (letters.span p)

def option (reader : Reader α) : Reader (Option α) := fun letters =>
  match reader letters with
  | some (value, rest) => some (some value, rest)
  | none => some (none, letters)

def manyWithin (reader : Reader α) : List Char → Reader (List α)
  | [] => pure []
  | _ :: others => do
    match ← option reader with
    | some value => return value :: (← manyWithin reader others)
    | none => return []

/-- As many as there are. Each takes some letter, so there are no more of them than letters. -/
def many (reader : Reader α) : Reader (List α) := fun letters => manyWithin reader letters letters

def separated (reader : Reader α) (separator : Reader β) : Reader (List α) := do
  return (← reader) :: (← many (do let _ ← separator; reader))

def terminatedWithin (reader : Reader α) (separator : Reader β) : List Char → Reader (List α)
  | [] => pure []
  | _ :: others => do
    match ← option reader with
    | none => return []
    | some value =>
      match ← option separator with
      | none => return [value]
      | some _ => return value :: (← terminatedWithin reader separator others)

def terminated (reader : Reader α) (separator : Reader β) : Reader (List α) := fun letters =>
  terminatedWithin reader separator letters letters

end Reader
end LazyDispatch.Text
