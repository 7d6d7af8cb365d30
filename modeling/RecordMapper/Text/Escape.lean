import RecordMapper.Text.Visible

namespace RecordMapper.Text

def escapeChar : Char → List Char
  | '\x00' => ['\\', '0']
  | '\t' => ['\\', 't']
  | '\n' => ['\\', 'n']
  | '\r' => ['\\', 'r']
  | '"' => ['\\', '"']
  | '\\' => ['\\', '\\']
  | c => if isVisible c then [c]
    else ['\\', 'u', '\x7b'] ++ Nat.toDigits 16 c.toNat ++ ['\x7d']

def escape (cs : List Char) : List Char := '"' :: (cs.flatMap escapeChar ++ ['"'])

end RecordMapper.Text
