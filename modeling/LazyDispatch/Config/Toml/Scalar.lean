import LazyDispatch.Text.Letters

/-! TOML scalars: strings in four kinds of quotes, numbers and times. Numbers and times are read
for their form and range alone. -/

namespace LazyDispatch.Toml

open Text Text.Reader

def isFree (c : Char) : Bool := c == '\t' || 0x80 ≤ c.toNat

def isCommentLetter (c : Char) : Bool := isFree c || (0x20 ≤ c.toNat && c.toNat ≤ 0x7E)

def spaces : Reader Unit := do
  let _ ← run isSpace

def newline : Reader Unit := mark '\n' <|> word "\r\n"

def comment : Reader Unit := do
  mark '#'
  let _ ← run isCommentLetter

def filler : Reader Unit := do
  let _ ← many ((do let _ ← one isSpace) <|> newline <|> comment)

/-! Strings. -/

def hexCharacter (digits : Nat) : Reader Char := do
  let codes ← (List.range digits).mapM fun _ => one fun c => (hexDigit? c).isSome
  let code := codes.foldl (fun n c => 16 * n + (hexDigit? c).getD 0) 0
  if code.isValidChar then return Char.ofNat code else fail

def escape : Reader Char := do
  mark '\\'
  match ← one fun _ => true with
  | 'b' => return '\x08'
  | 't' => return '\t'
  | 'n' => return '\n'
  | 'f' => return '\x0c'
  | 'r' => return '\r'
  | '"' => return '"'
  | '\\' => return '\\'
  | 'u' => hexCharacter 4
  | 'U' => hexCharacter 8
  | _ => fail

def isPlainBasic (c : Char) : Bool := isCommentLetter c && c != '"' && c != '\\'

def isPlainLiteral (c : Char) : Bool := isCommentLetter c && c != '\''

def basicString : Reader (List Char) := do
  mark '"'
  let letters ← many (one isPlainBasic <|> escape)
  mark '"'
  return letters

def literalString : Reader (List Char) := do
  mark '\''
  let letters ← run isPlainLiteral
  mark '\''
  return letters

def lineContinuation : Reader (List Char) := do
  mark '\\'
  spaces
  newline
  let _ ← many ((do let _ ← one isSpace) <|> newline)
  return []

/-- One or two quotes inside a text over several lines, where three would close it. -/
def innerQuotes (quote : Char) : Reader (List Char) := do
  let quotes ← run (· == quote)
  if quotes.length = 1 ∨ quotes.length = 2 then return quotes else fail

def closingQuotes (quote : Char) : Reader (List Char) := do
  let quotes ← run (· == quote)
  if 3 ≤ quotes.length ∧ quotes.length ≤ 5 then return quotes.drop 3 else fail

def lineBreak : Reader (List Char) := do
  newline
  return ['\n']

def multiline (quote : Char) (piece : Reader (List Char)) : Reader (List Char) := do
  word (String.ofList [quote, quote, quote])
  let _ ← option newline
  let pieces ← many (piece <|> lineBreak <|> innerQuotes quote)
  return pieces.flatten ++ (← closingQuotes quote)

def multilineBasic : Reader (List Char) :=
  multiline '"' ((do return [← one isPlainBasic]) <|> lineContinuation <|> (do return [← escape]))

def multilineLiteral : Reader (List Char) :=
  multiline '\'' (do return [← one isPlainLiteral])

def string : Reader String := do
  let letters ← multilineBasic <|> multilineLiteral <|> basicString <|> literalString
  return String.ofList letters

/-! Numbers. -/

def digits (isDigit : Char → Bool) : Reader (List Char) := do
  let first ← one isDigit
  let others ← many (do
    let _ ← option (mark '_')
    one isDigit)
  return first :: others

def sign : Reader Bool := do
  match ← option (one fun c => c == '+' || c == '-') with
  | some c => return c == '-'
  | none => return false

def numeral (base : Nat) (letters : List Char) : Nat :=
  letters.foldl (fun n c => base * n + (hexDigit? c).getD 0) 0

def whole : Reader (List Char) := do
  match ← digits Char.isDigit with
  | '0' :: _ :: _ => fail
  | letters => return letters

def based (start : String) (base : Nat) (isDigit : Char → Bool) : Reader Unit := do
  word start
  if numeral base (← digits isDigit) < 0x8000000000000000 then return else fail

def integer : Reader Unit :=
  based "0x" 16 (fun c => (hexDigit? c).isSome) <|>
  based "0o" 8 (fun c => '0' ≤ c && c ≤ '7') <|>
  based "0b" 2 (fun c => c == '0' || c == '1') <|> do
    let negative ← sign
    let n := numeral 10 (← whole)
    if n < 0x8000000000000000 ∨ negative ∧ n = 0x8000000000000000 then return else fail

/-- `mantissa * 10 ^ power` rounds to infinity: it is at least halfway past the largest double. -/
def overflows (mantissa : Nat) (power : Int) : Bool :=
  if mantissa = 0 then false
  else
    let top := (toString mantissa).length + power
    if top > 309 then true
    else if top < 309 then false
    else
      (Nat.pow 2 1024 - Nat.pow 2 970) * Nat.pow 10 (-power).toNat ≤
        mantissa * Nat.pow 10 power.toNat

def exponent : Reader Int := do
  let _ ← one fun c => c == 'e' || c == 'E'
  let negative ← sign
  let n := numeral 10 (← digits Char.isDigit)
  return if negative then -n else n

def fraction : Reader (List Char) := do
  mark '.'
  digits Char.isDigit

def decimal : Reader Unit := do
  let negative ← sign
  let integral ← whole
  let fractional ← option fraction
  let power ← option exponent
  if fractional.isNone && power.isNone then fail
  else
    let places := fractional.getD []
    if overflows (numeral 10 (integral ++ places)) (power.getD 0 - places.length) && !negative then
      fail
    else return

def special : Reader Unit := do
  let _ ← sign
  word "inf" <|> word "nan"

/-! Times. -/

def twoDigits (limit : Nat) : Reader Nat := do
  let tens ← one Char.isDigit
  let ones ← one Char.isDigit
  let n := numeral 10 [tens, ones]
  if n ≤ limit then return n else fail

def isLeap (year : Nat) : Bool := (year % 4 == 0 && year % 100 != 0) || year % 400 == 0

def monthLength (year month : Nat) : Nat :=
  if month = 2 then if isLeap year then 29 else 28
  else if month = 4 ∨ month = 6 ∨ month = 9 ∨ month = 11 then 30 else 31

def date : Reader Unit := do
  let year ← (List.range 4).mapM fun _ => one Char.isDigit
  mark '-'
  let month ← twoDigits 12
  mark '-'
  let day ← twoDigits (monthLength (numeral 10 year) month)
  if month = 0 ∨ day = 0 then fail else return

def time : Reader Unit := do
  let _ ← twoDigits 23
  mark ':'
  let _ ← twoDigits 59
  mark ':'
  let _ ← twoDigits 60
  let _ ← option (do
    mark '.'
    let _ ← one Char.isDigit
    run Char.isDigit)

def offset : Reader Unit :=
  (do let _ ← one fun c => c == 'Z' || c == 'z') <|> do
    let _ ← one fun c => c == '+' || c == '-'
    let _ ← twoDigits 23
    mark ':'
    let _ ← twoDigits 59

def moment : Reader Unit :=
  (do
    date
    let _ ← option (do
      let _ ← one fun c => c == 'T' || c == 't' || c == ' '
      time
      option offset)) <|> time

end LazyDispatch.Toml
