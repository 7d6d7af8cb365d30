import RecordMapper.Numeral.Decimal

/-!
Binary floating-point numbers: reading a decimal text as the nearest number of a format, and the
shortest decimal digits that read back.

A finite number is a sign, a whole significand and a power of two, so that everything here is exact
arithmetic on natural numbers.
-/

namespace RecordMapper

structure BinaryFormat where
  precision : Nat
  least : Int
  greatest : Int

def BinaryFormat.double : BinaryFormat := ⟨53, -1074, 971⟩

def BinaryFormat.single : BinaryFormat := ⟨24, -149, 104⟩

inductive Floating
  | nan
  | infinite (negative : Bool)
  | finite (negative : Bool) (significand : Nat) (exponent : Int)
  deriving DecidableEq

namespace Floating

def roundQuotient (num den : Nat) : Nat :=
  let q := num / den
  let r := num % den
  if den < 2 * r ∨ (2 * r = den ∧ q % 2 = 1) then q + 1 else q

def leadingBit (num den : Nat) : Int :=
  let k : Int := (num.log2 : Int) - den.log2
  if den * Nat.pow 2 k.toNat ≤ num * Nat.pow 2 (-k).toNat then k else k - 1

def nearest (f : BinaryFormat) (negative : Bool) (num den : Nat) : Floating :=
  if num = 0 then .finite negative 0 f.least
  else
    let e := max f.least (leadingBit num den - (f.precision - 1))
    let m := roundQuotient (num * Nat.pow 2 (-e).toNat) (den * Nat.pow 2 e.toNat)
    let r := if m = Nat.pow 2 f.precision then (m / 2, e + 1) else (m, e)
    if f.greatest < r.2 then .infinite negative else .finite negative r.1 r.2

/-- The number of a format nearest to `n` times ten to the `scale`.
Beyond four hundred places every format has only infinity and zero. -/
def ofDecimal (f : BinaryFormat) (negative : Bool) (n : Nat) (scale : Int) : Floating :=
  let places := (Numeral.digits n).length + scale
  if n = 0 ∨ places < -400 then .finite negative 0 f.least
  else if 400 < places then .infinite negative
  else nearest f negative (n * Nat.pow 10 scale.toNat) (Nat.pow 10 (-scale).toNat)

def widen (f : BinaryFormat) : Floating → Floating
  | .nan => .nan
  | .infinite negative => .infinite negative
  | .finite negative m e => nearest f negative (m * Nat.pow 2 e.toNat) (Nat.pow 2 (-e).toNat)

def same : Floating → Floating → Bool
  | .finite _ 0 _, .finite _ 0 _ => true
  | .nan, _ => false
  | x, y => decide (x = y)

def readExponent? : List Char → Option Int
  | [] => some 0
  | c :: cs => if c = 'e' ∨ c = 'E' then Numeral.readInt? cs else none

def readUnsigned? (f : BinaryFormat) (negative : Bool) (cs : List Char) : Option Floating :=
  let whole := cs.takeWhile Char.isDigit
  let rest := cs.dropWhile Char.isDigit
  let (places, rest) := match rest with
    | '.' :: r => (r.takeWhile Char.isDigit, r.dropWhile Char.isDigit)
    | r => ([], r)
  if whole = [] ∧ places = [] then none
  else (readExponent? rest).map fun e =>
    ofDecimal f negative (Numeral.value (whole ++ places)) (e - places.length)

def readMagnitude? (f : BinaryFormat) (negative : Bool) (cs : List Char) : Option Floating :=
  let name := String.ofList (cs.map Char.toLower)
  if name = "nan" then some .nan
  else if name = "inf" ∨ name = "infinity" then some (.infinite negative)
  else readUnsigned? f negative cs

def read? (f : BinaryFormat) : List Char → Option Floating
  | '-' :: cs => readMagnitude? f true cs
  | '+' :: cs => readMagnitude? f false cs
  | cs => readMagnitude? f false cs

def leadingPlace (num den : Nat) : Int :=
  if den ≤ num then (Numeral.digits (num / den)).length - 1
  else
    let k := (Numeral.digits (den / num)).length
    if den ≤ num * Nat.pow 10 (k - 1) then -((k : Int) - 1) else -(k : Int)

def onGrid? (f : BinaryFormat) (m : Nat) (e place : Int) : Option Nat :=
  let unit := Nat.pow 10 place.toNat * Nat.pow 2 (2 - e).toNat
  let scale := Nat.pow 2 (e - 2).toNat * Nat.pow 10 (-place).toNat
  let low := if m = Nat.pow 2 (f.precision - 1) ∧ f.least < e then 4 * m - 1 else 4 * m - 2
  let readsBack (d : Nat) : Bool :=
    if m % 2 = 0 then low * scale ≤ d * unit && d * unit ≤ (4 * m + 2) * scale
    else low * scale < d * unit && d * unit < (4 * m + 2) * scale
  let below := 4 * m * scale / unit
  let gap := 4 * m * scale % unit
  if readsBack below then
    if readsBack (below + 1) && unit ≤ 2 * gap then some (below + 1) else some below
  else if readsBack (below + 1) then some (below + 1) else none

/-- Tries ever finer grids; the last resort takes the digits of the finest. -/
def shortestFrom (f : BinaryFormat) (m : Nat) (e : Int) : Nat → Int → Nat × Int
  | 0, place => ((onGrid? f m e place).getD 0, place)
  | tries + 1, place =>
    match onGrid? f m e place with
    | some d => (d, place)
    | none => shortestFrom f m e tries (place - 1)

def shortest (f : BinaryFormat) (m : Nat) (e : Int) : Nat × Int :=
  shortestFrom f m e 16 (leadingPlace (m * Nat.pow 2 e.toNat) (Nat.pow 2 (-e).toNat))

structure Layout where
  pointed : Bool
  positional : Int → Bool

def writePositional (pointed : Bool) (ds : List Char) (point : Int) : List Char :=
  if point ≤ 0 then '0' :: '.' :: (List.replicate (-point).toNat '0' ++ ds)
  else
    let whole := ds.take point.toNat
    let places := ds.drop point.toNat
    whole ++ List.replicate (point.toNat - whole.length) '0' ++
      (if places ≠ [] then '.' :: places else if pointed then ['.', '0'] else [])

def writeScientific (ds : List Char) (point : Int) : List Char :=
  let places := ds.drop 1
  ds.take 1 ++ (if places = [] then [] else '.' :: places) ++
    'e' :: Numeral.writeInt (point - 1)

def Layout.write (l : Layout) (f : BinaryFormat) : Floating → List Char
  | .nan => ['N', 'a', 'N']
  | .infinite negative => (if negative then ['-'] else []) ++ ['i', 'n', 'f']
  | .finite negative m e =>
    (if negative then ['-'] else []) ++
      if m = 0 then '0' :: (if l.pointed then ['.', '0'] else [])
      else
        let (d, place) := shortest f m e
        let ds := Numeral.digits d
        let point := ds.length + place
        let ds := (ds.reverse.dropWhile (· == '0')).reverse
        if l.positional point then writePositional l.pointed ds point else writeScientific ds point

def plain : Layout := ⟨false, fun _ => true⟩

def inMessage : Layout := ⟨true, fun point => -3 ≤ point && point ≤ 16⟩

end Floating

end RecordMapper
