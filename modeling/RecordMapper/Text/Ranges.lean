namespace RecordMapper.Text

def inRanges (ranges : List (Nat × Nat)) (c : Char) : Bool :=
  ranges.any fun r => r.1 ≤ c.toNat && c.toNat ≤ r.2

structure Run where
  first : Nat
  last : Nat
  step : Nat

def Run.holds (r : Run) (c : Char) : Bool :=
  r.first ≤ c.toNat && c.toNat ≤ r.last && (c.toNat - r.first) % r.step == 0

def inRuns (runs : List Run) (c : Char) : Bool := runs.any fun r => r.holds c

end RecordMapper.Text
