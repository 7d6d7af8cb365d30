import RecordMapper.Connection

/-!
A connection that answers from a script. Statements on transactions succeed unless they are to fail;
every other call takes the next reply, and with none left no row was affected.
-/

namespace RecordMapper

inductive Reply
  | affected (count : Nat)
  | rows (rows : List Row)
  | error (text : String)

structure Script where
  -- Each entry lets a statement on a transaction fail once.
  failing : List String := []
  replies : List Reply := []

namespace Script

def reply (ofCount : Nat → α) (ofRows : List Row → α) (s : Script) : Except Error α × Script :=
  match s.replies with
  | [] => (.ok (ofCount 0), s)
  | r :: replies =>
    let answer := match r with
      | .affected count => .ok (ofCount count)
      | .rows rows => .ok (ofRows rows)
      | .error text => .error (.unexpectedData text)
    (answer, { s with replies })

def run (ofCount : Nat → α) (ofRows : List Row → α) (sql : String) (s : Script) :
    Except Error α × Script :=
  if isTransactional sql then
    if sql ∈ s.failing then
      (.error (.unexpectedData (sql ++ " failed")), { s with failing := s.failing.erase sql })
    else (.ok (ofCount 0), s)
  else s.reply ofCount ofRows

def connection : Connection Script where
  execute := run id List.length
  fetchOptional := run (fun _ => none) List.head?
  fetchAll := run (fun _ => []) id

end Script

end RecordMapper
