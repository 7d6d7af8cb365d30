namespace RecordMapper.Numeral

def digits (n : Nat) : List Char := Nat.toDigits 10 n

def value (ds : List Char) : Nat := Nat.ofDigitChars 10 ds 0

def padded (width n : Nat) : List Char :=
  List.replicate (width - (digits n).length) '0' ++ digits n

def readNat? (cs : List Char) : Option Nat :=
  if cs ≠ [] ∧ cs.all Char.isDigit then some (value cs) else none

def readInt? : List Char → Option Int
  | '-' :: cs => (readNat? cs).map fun n => -(n : Int)
  | '+' :: cs => (readNat? cs).map fun n => (n : Int)
  | cs => (readNat? cs).map fun n => (n : Int)

def writeInt : Int → List Char
  | .ofNat n => digits n
  | .negSucc n => '-' :: digits (n + 1)

def within (low high i : Int) : Bool := low ≤ i && i ≤ high

def fitsSigned (bits : Nat) (i : Int) : Bool :=
  within (-(Nat.pow 2 (bits - 1) : Nat)) ((Nat.pow 2 (bits - 1) : Nat) - 1) i

def fitsUnsigned (bits n : Nat) : Bool := n < Nat.pow 2 bits

def readSigned? (bits : Nat) (cs : List Char) : Option Int :=
  (readInt? cs).filter (fitsSigned bits)

def readInt64? (cs : List Char) : Option Int64 := (readSigned? 64 cs).map Int64.ofInt

def readUnsigned? (bits : Nat) : List Char → Option Nat
  | '+' :: cs => (readNat? cs).filter (fitsUnsigned bits)
  | cs => (readNat? cs).filter (fitsUnsigned bits)

theorem digits_ne_nil (n : Nat) : digits n ≠ [] := Nat.toDigits_ne_nil

theorem isDigit_of_mem_digits {n : Nat} {c : Char} (h : c ∈ digits n) : c.isDigit = true :=
  Nat.isDigit_of_mem_toDigits (by decide) (by decide) h

@[simp] theorem value_digits (n : Nat) : value (digits n) = n :=
  Nat.ofDigitChars_toDigits (by decide) (by decide)

theorem isDigit_of_mem_padded {w n : Nat} {c : Char} (h : c ∈ padded w n) :
    c.isDigit = true := by
  rcases List.mem_append.1 h with h | h
  · rw [List.eq_of_mem_replicate h]; rfl
  · exact isDigit_of_mem_digits h

theorem value_replicate_zero_append (k : Nat) (ds : List Char) :
    value (List.replicate k '0' ++ ds) = value ds := by
  induction k with
  | zero => rfl
  | succ k ih =>
    rw [List.replicate_succ, List.cons_append, value, Nat.ofDigitChars_cons]
    exact ih

@[simp] theorem value_padded (w n : Nat) : value (padded w n) = n := by
  simp [padded, value_replicate_zero_append]

theorem length_padded (w n : Nat) : (padded w n).length = max w (digits n).length := by
  simp only [padded, List.length_append, List.length_replicate]; omega

@[simp] theorem readNat_digits (n : Nat) : readNat? (digits n) = some n := by
  have h : (digits n).all Char.isDigit = true :=
    List.all_eq_true.2 fun _ hc => isDigit_of_mem_digits hc
  simp [readNat?, digits_ne_nil, h]

theorem readInt_digits (n : Nat) : readInt? (digits n) = some (n : Int) := by
  have h : ∀ c ∈ digits n, c.isDigit = true := fun _ hc => isDigit_of_mem_digits hc
  have hr := readNat_digits n
  revert h hr
  cases digits n with
  | nil => simp [readNat?]
  | cons c cs =>
    intro h hr
    have hc := h c (List.mem_cons_self ..)
    unfold readInt?
    split
    · simp_all
    · simp_all
    · simp [hr]

theorem readInt_writeInt (i : Int) : readInt? (writeInt i) = some i := by
  cases i with
  | ofNat n => exact readInt_digits n
  | negSucc n => simp [writeInt, readInt?, Int.negSucc_eq]

theorem fitsSigned_toInt (i : Int64) : fitsSigned 64 i.toInt = true := by
  have hl := i.le_toInt
  have hu := i.toInt_lt
  have h : Nat.pow 2 (64 - 1) = 9223372036854775808 := rfl
  simp only [fitsSigned, within, h, Bool.and_eq_true, decide_eq_true_eq]
  omega

theorem readInt64_writeInt (i : Int64) : readInt64? (writeInt i.toInt) = some i := by
  simp only [readInt64?, readSigned?, readInt_writeInt, Option.filter_some, fitsSigned_toInt,
    if_true, Option.map_some, Int64.ofInt_toInt]

end RecordMapper.Numeral
