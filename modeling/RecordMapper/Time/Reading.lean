import RecordMapper.Time.Timestamp
import RecordMapper.Text.Blank

/-!
Reading timestamps from text.

White space may stand before every number, and in any amount, none included, between the date and
the time. A year has up to four digits, or a sign and any number of them; the other numbers have one
digit or two. A fraction has at least one digit, and those after the ninth are read and dropped. The
sixtieth second of a minute is a leap second.
-/

namespace RecordMapper.Timestamp

open Numeral Text

def takeDigits : (width : Nat) → List Char → List Char × List Char
  | 0, cs => ([], cs)
  | _ + 1, [] => ([], [])
  | width + 1, c :: cs =>
    if c.isDigit then
      let r := takeDigits width cs
      (c :: r.1, r.2)
    else ([], c :: cs)

def readDigits? (width : Nat) (cs : List Char) : Option (Nat × List Char) :=
  match takeDigits width cs with
  | ([], _) => none
  | (ds, rest) => some (value ds, rest)

def readNumber? (width : Nat) (cs : List Char) : Option (Nat × List Char) :=
  readDigits? width (trimStart cs)

def readYear? (cs : List Char) : Option (Int × List Char) :=
  match trimStart cs with
  | '-' :: cs => (readDigits? cs.length cs).map fun r => (-(r.1 : Int), r.2)
  | '+' :: cs => (readDigits? cs.length cs).map fun r => ((r.1 : Int), r.2)
  | cs => (readDigits? 4 cs).map fun r => ((r.1 : Int), r.2)

def expect? (c : Char) : List Char → Option (List Char)
  | [] => none
  | d :: cs => if c = d then some cs else none

def readDate? (cs : List Char) : Option (Date × List Char) := do
  let (year, cs) ← readYear? cs
  let cs ← expect? '-' cs
  let (month, cs) ← readNumber? 2 cs
  let cs ← expect? '-' cs
  let (day, cs) ← readNumber? 2 cs
  let date ← Date.of? year month day
  return (date, cs)

def readFraction? : List Char → Option (Nat × List Char)
  | '.' :: cs =>
    match takeDigits 9 cs with
    | ([], _) => none
    | (ds, rest) => some (value ds * Nat.pow 10 (9 - ds.length), rest.dropWhile Char.isDigit)
  | cs => some (0, cs)

def readTime? (date : Date) (cs : List Char) : Option (Timestamp × List Char) := do
  let (hour, cs) ← readNumber? 2 cs
  let cs ← expect? ':' cs
  let (minute, cs) ← readNumber? 2 cs
  let cs ← expect? ':' cs
  let (second, cs) ← readNumber? 2 cs
  let (fraction, cs) ← readFraction? cs
  let t ← if second = 60 then of? date hour minute 59 (1000000000 + fraction)
    else of? date hour minute second fraction
  return (t, cs)

def readSpaced? (cs : List Char) : Option (Timestamp × List Char) := do
  let (date, cs) ← readDate? cs
  readTime? date (trimStart cs)

def readJoined? (cs : List Char) : Option (Timestamp × List Char) := do
  let (date, cs) ← readDate? cs
  let cs ← expect? 'T' cs
  readTime? date cs

def atEnd? (r : Option (Timestamp × List Char)) : Option Timestamp :=
  r.bind fun r => if r.2 = [] then some r.1 else none

def read? (cs : List Char) : Option Timestamp :=
  (atEnd? (readSpaced? (trim cs))).or (atEnd? (readJoined? (trim cs)))

def isMinus (c : Char) : Bool := c == '-' || c == '−'

def readOffset? (cs : List Char) : Option Int :=
  let digitsOf (negative : Bool) (cs : List Char) : Option Int := do
    let (hours, cs) ← match cs with
      | h :: k :: cs => if h.isDigit && k.isDigit then some (value [h, k], cs) else none
      | _ => none
    let minutes ← match cs.dropWhile fun c => c == ':' || isBlank c with
      | [] => some 0
      | [m, n] =>
        if m.isDigit && n.isDigit && m.toNat < '6'.toNat then some (value [m, n]) else none
      | _ => none
    return (if negative then -1 else 1) * ((hours * 60 + minutes : Nat) : Int)
  match trimStart cs with
  | [c] => if c = 'Z' ∨ c = 'z' then some 0 else none
  | c :: cs => if c = '+' then digitsOf false cs else if isMinus c then digitsOf true cs else none
  | [] => none

/-- A server's timestamp. A plus sign announces an offset, which is then read and disregarded. -/
def readServer? (cs : List Char) : Option Timestamp :=
  if '+' ∈ cs then (readSpaced? cs).bind fun r => (readOffset? r.2).map fun _ => r.1
  else atEnd? (readSpaced? cs)

def readZoned? (cs : List Char) : Option Timestamp := do
  let (t, cs) ← readSpaced? cs
  let offset ← readOffset? cs
  if offset.natAbs < 1440 then t.minutesEarlier? offset else none

end RecordMapper.Timestamp
