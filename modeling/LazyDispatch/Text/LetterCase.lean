import LazyDispatch.Text.LetterCase.Table

/-! Letter case. A letter may become several; a capital sigma becomes the final form where it ends
a word. -/

namespace LazyDispatch.Text.LetterCase

def covers (ranges : Array (Nat × Nat)) (code : Nat) : Bool :=
  ranges.any fun (first, last) => first ≤ code && code ≤ last

def mapped (runs : Array (Nat × Nat × Nat × Int)) (specials : Array (Nat × List Nat)) (c : Char) :
    List Char :=
  let code := c.toNat
  match specials.find? fun (special, _) => special == code with
  | some (_, codes) => codes.map Char.ofNat
  | none =>
    match runs.find? fun (first, last, stride, _) =>
        first ≤ code && code ≤ last && (code - first) % stride == 0 with
    | some (_, _, _, offset) => [Char.ofNat (code + offset).toNat]
    | none => [c]

def isCased (c : Char) : Bool := covers casedRanges c.toNat

def isIgnorable (c : Char) : Bool := covers ignorableRanges c.toNat

/-- The first letter that counts, going outward from a sigma, is a cased one. -/
def meetsCased (letters : List Char) : Bool :=
  match letters.dropWhile isIgnorable with
  | [] => false
  | c :: _ => isCased c

def lowerAfter (before : List Char) : List Char → List Char
  | [] => []
  | c :: rest =>
    let letters :=
      if c = 'Σ' then [if meetsCased before && !meetsCased rest then 'ς' else 'σ']
      else mapped lowerRuns lowerSpecials c
    letters ++ lowerAfter (c :: before) rest

end LetterCase

def upper (letters : List Char) : List Char :=
  letters.flatMap (LetterCase.mapped LetterCase.upperRuns LetterCase.upperSpecials)

def lower (letters : List Char) : List Char := LetterCase.lowerAfter [] letters

end LazyDispatch.Text
