import RecordMapper.Text.Letter
import RecordMapper.Text.Case

/-!
Names taken apart into words and joined again with underscores.

A name is cut at every character that is neither letter nor digit, between a lower case letter and
an upper case one, and before the last capital of a run that a lower case letter follows. Digits cut
nothing: they keep the case of the letter before them.
-/

namespace RecordMapper.Text

inductive LetterCase
  | none
  | lower
  | upper
  deriving DecidableEq

def LetterCase.after (seen : LetterCase) (c : Char) : LetterCase :=
  if isLower c then .lower else if isUpper c then .upper else seen

def cutWords (seen : LetterCase) (word : List Char) : List Char → List (List Char)
  | [] => []
  | [c] => [word ++ [c]]
  | c :: d :: rest =>
    if seen.after c = .lower ∧ isUpper d then
      (word ++ [c]) :: cutWords .none [] (d :: rest)
    else if seen = .upper ∧ isUpper c ∧ isLower d then
      word :: cutWords .none [c] (d :: rest)
    else cutWords (seen.after c) (word ++ [c]) (d :: rest)

def words (name : List Char) : List (List Char) :=
  (name.splitOnP fun c => !isAlphanumeric c).flatMap (cutWords .none [])

def upperWord (word : List Char) : List Char := word.flatMap upperForm

/-- A capital sigma that ends a word has a lower case form of its own. -/
def lowerWord : List Char → List Char
  | [] => []
  | ['Σ'] => ['ς']
  | c :: cs => lowerForm c ++ lowerWord cs

def joinWords (ws : List (List Char)) : List Char := ['_'].intercalate ws

def snakeCase (name : List Char) : List Char := joinWords ((words name).map lowerWord)

def shoutCase (name : List Char) : List Char := joinWords ((words name).map upperWord)

end RecordMapper.Text
