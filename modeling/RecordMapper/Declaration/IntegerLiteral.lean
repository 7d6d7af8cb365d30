import RecordMapper.Numeral.Decimal
import RecordMapper.Text.Identifier

namespace RecordMapper.IntegerLiteral

def radix? : List Char → Option (Nat × List Char)
  | '0' :: 'x' :: cs => some (16, cs)
  | '0' :: 'o' :: cs => some (8, cs)
  | '0' :: 'b' :: cs => some (2, cs)
  | c :: cs => if c.isDigit then some (10, c :: cs) else none
  | [] => none

def digit? (radix : Nat) (c : Char) : Option Nat :=
  if c.isDigit then some (c.toNat - '0'.toNat)
  else if radix ≤ 10 then none
  else if 'a' ≤ c ∧ c ≤ 'f' then some (c.toNat - 'a'.toNat + 10)
  else if 'A' ≤ c ∧ c ≤ 'F' then some (c.toNat - 'A'.toNat + 10)
  else none

def scan (radix : Nat) : List Char → List Nat × List Char
  | [] => ([], [])
  | c :: cs =>
    if c = '_' then scan radix cs
    else match digit? radix c with
      | some d => (d :: (scan radix cs).1, (scan radix cs).2)
      | none => ([], c :: cs)

/-- Whether what follows decimal digits makes a number with places or an exponent of them. Behind an
exponent only an identifier may stand; anything else makes a type's name of the exponent too. -/
def startsFraction : List Char → Bool
  | '.' :: _ => true
  | c :: cs =>
    let exponent := cs.takeWhile fun d => d.isDigit || d = '_'
    (c = 'e' || c = 'E') &&
      (match cs.drop exponent.length with
        | [] => exponent.any Char.isDigit
        | '+' :: _ => true
        | '-' :: _ => true
        | rest => exponent.any Char.isDigit && Text.isIdentifier rest)
  | [] => false

def isSuffix (cs : List Char) : Bool :=
  cs.isEmpty || Text.isIdentifier cs

def readMagnitude? (cs : List Char) : Option Nat := do
  let (r, cs) ← radix? cs
  let (ds, rest) := scan r cs
  if ds = [] ∨ ds.any (fun d => r ≤ d) ∨ (r = 10 ∧ startsFraction rest) ∨ !isSuffix rest then none
  else some (ds.foldl (fun n d => n * r + d) 0)

def read? : List Char → Option (Bool × Nat)
  | '-' :: cs => (readMagnitude? cs).map (true, ·)
  | cs => (readMagnitude? cs).map (false, ·)

end RecordMapper.IntegerLiteral
