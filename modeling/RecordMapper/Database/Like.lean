namespace RecordMapper.Database

def suffixes : List α → List (List α)
  | [] => [[]]
  | a :: as => (a :: as) :: suffixes as

def sameLetter (c d : Char) : Bool := c.toLower == d.toLower

def like : (pattern : List Char) → List Char → Bool
  | [], cs => cs.isEmpty
  | '%' :: ps, cs => (suffixes cs).any (like ps)
  | _ :: _, [] => false
  | '_' :: ps, _ :: cs => like ps cs
  | p :: ps, c :: cs => sameLetter p c && like ps cs

def sameName (a b : String) : Bool :=
  a.toList.map Char.toLower == b.toList.map Char.toLower

end RecordMapper.Database
