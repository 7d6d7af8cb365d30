import RecordMapper.Proofs.Sql.Spelling

namespace RecordMapper.Text

open Numeral

def bytes (s : String) : List UInt8 := s.toByteArray.data.toList

def compareBytes (s t : String) : Ordering := compare (bytes s) (bytes t)

def Ascii (cs : List Char) : Prop := ∀ c ∈ cs, c.toNat < 128

theorem Ascii.append {as bs : List Char} (ha : Ascii as) (hb : Ascii bs) : Ascii (as ++ bs) :=
  fun c hc => (List.mem_append.1 hc).elim (ha c) (hb c)

theorem ascii_cons {c : Char} {cs : List Char} : Ascii (c :: cs) ↔ c.toNat < 128 ∧ Ascii cs := by
  simp [Ascii]

theorem toList_append_bytes (a b : ByteArray) :
    (a ++ b).data.toList = a.data.toList ++ b.data.toList := by
  rw [ByteArray.data_append, Array.toList_append]

theorem bytes_ofList {cs : List Char} (h : Ascii cs) :
    bytes (String.ofList cs) = cs.map fun c => c.val.toUInt8 := by
  rw [bytes, String.toByteArray_ofList]
  induction cs with
  | nil => rfl
  | cons c cs ih =>
    obtain ⟨hc, hcs⟩ := ascii_cons.1 h
    have hsize : c.utf8Size = 1 := Char.utf8Size_eq_one_iff.2 (by
      rw [UInt32.le_iff_toNat_le]
      exact Nat.le_of_lt_succ hc)
    rw [List.utf8Encode_cons, List.utf8Encode_singleton, toList_append_bytes, ih hcs,
      String.utf8EncodeChar_eq_singleton hsize]
    simp

theorem compare_byte {c d : Char} (hc : c.toNat < 128) (hd : d.toNat < 128) :
    compare c.val.toUInt8 d.val.toUInt8 = compare c d := by
  have hbyte : ∀ {c : Char}, c.toNat < 128 → c.val.toUInt8.toNat = c.toNat := fun h =>
    UInt32.toNat_toUInt8 _ ▸ Nat.mod_eq_of_lt (Nat.lt_trans h (by decide))
  have hlt : c.val.toUInt8 < d.val.toUInt8 ↔ c < d := by
    rw [UInt8.lt_iff_toNat_lt, hbyte hc, hbyte hd, Char.lt_def, UInt32.lt_iff_toNat_lt]
    rfl
  have heq : c.val.toUInt8 = d.val.toUInt8 ↔ c = d := by
    rw [← UInt8.toNat_inj, hbyte hc, hbyte hd, Char.toNat_inj]
  simp only [compare, compareOfLessAndEq, hlt, heq]

theorem compare_map_byte {cs ds : List Char} (hcs : Ascii cs) (hds : Ascii ds) :
    compare (cs.map fun c => c.val.toUInt8) (ds.map fun c => c.val.toUInt8) = compare cs ds := by
  induction cs generalizing ds with
  | nil => cases ds <;> rfl
  | cons c cs ih =>
    cases ds with
    | nil => rfl
    | cons d ds =>
      obtain ⟨hc, hcs⟩ := ascii_cons.1 hcs
      obtain ⟨hd, hds⟩ := ascii_cons.1 hds
      rw [List.map_cons, List.map_cons, List.compare_cons_cons, List.compare_cons_cons,
        compare_byte hc hd, ih hcs hds]

theorem compareBytes_ofList {cs ds : List Char} (hcs : Ascii cs) (hds : Ascii ds) :
    compareBytes (String.ofList cs) (String.ofList ds) = compare cs ds := by
  rw [compareBytes, bytes_ofList hcs, bytes_ofList hds, compare_map_byte hcs hds]

theorem compare_eq_lt {cs ds : List Char} :
    compare cs ds = .lt ↔ List.Lex (fun c d => c < d) cs ds := by
  constructor
  · intro h
    induction cs generalizing ds with
    | nil =>
      cases ds with
      | nil => contradiction
      | cons d ds => exact .nil
    | cons c cs ih =>
      cases ds with
      | nil => contradiction
      | cons d ds =>
        rw [List.compare_cons_cons, Ordering.then_eq_lt] at h
        rcases h with h | ⟨hfirst, hrest⟩
        · exact .rel (compareOfLessAndEq_eq_lt.1 h)
        · obtain rfl := Std.LawfulEqOrd.eq_of_compare hfirst
          exact .cons (ih hrest)
  · intro h
    induction h with
    | nil => rfl
    | cons _ ih => rw [List.compare_cons_cons, Std.compare_self, Ordering.eq_then, ih]
    | rel h =>
      rw [List.compare_cons_cons, Ordering.then_eq_lt]
      exact .inl (compareOfLessAndEq_eq_lt.2 h)

theorem compare_eq_eq {cs ds : List Char} : compare cs ds = .eq ↔ cs = ds := by
  constructor
  · intro h
    induction cs generalizing ds with
    | nil =>
      cases ds with
      | nil => rfl
      | cons d ds => contradiction
    | cons c cs ih =>
      cases ds with
      | nil => contradiction
      | cons d ds =>
        rw [List.compare_cons_cons, Ordering.then_eq_eq] at h
        rw [Std.LawfulEqOrd.eq_of_compare h.1, ih h.2]
  · rintro rfl
    exact Std.compare_self

theorem compareOfLessAndEq_ofList (cs ds : List Char) :
    compareOfLessAndEq (String.ofList cs) (String.ofList ds) = compare cs ds := by
  have hlt : String.ofList cs < String.ofList ds ↔ compare cs ds = .lt := by
    rw [String.lt_iff, String.toList_ofList, String.toList_ofList, compare_eq_lt]
    exact Iff.rfl
  have heq : cs = ds ↔ compare cs ds = .eq := compare_eq_eq.symm
  simp only [compareOfLessAndEq, hlt, String.ofList_inj, heq]
  cases compare cs ds <;> rfl

theorem compare_append {as bs cs ds : List Char} (h : as.length = bs.length) :
    compare (as ++ cs) (bs ++ ds) = (compare as bs).then (compare cs ds) := by
  induction as generalizing bs with
  | nil =>
    obtain rfl := List.eq_nil_of_length_eq_zero h.symm
    rfl
  | cons a as ih =>
    cases bs with
    | nil => contradiction
    | cons b bs =>
      rw [List.cons_append, List.cons_append, List.compare_cons_cons, List.compare_cons_cons,
        ih (Nat.succ.inj h), Ordering.then_assoc]

theorem compare_same (c : Char) (cs ds : List Char) :
    compare (c :: cs) (c :: ds) = compare cs ds := by
  rw [List.compare_cons_cons, Std.compare_self, Ordering.eq_then]

theorem compare_positions {b x y : Nat} (a c : Nat) (hx : x < b) (hy : y < b) :
    compare (a * b + x) (c * b + y) = (compare a c).then (compare x y) := by
  have hle : ∀ {m n : Nat}, m < n → m * b + b ≤ n * b := fun h => by
    rw [← Nat.succ_mul]
    exact Nat.mul_le_mul_right b h
  rcases Nat.lt_trichotomy a c with h | rfl | h
  · have hmore := hle h
    rw [Nat.compare_eq_lt.2 h, Nat.compare_eq_lt.2 (by omega)]
    rfl
  · rw [Nat.compare_eq_eq.2 rfl, Ordering.eq_then]
    rcases Nat.lt_trichotomy x y with h | rfl | h
    · rw [Nat.compare_eq_lt.2 h, Nat.compare_eq_lt.2 (by omega)]
    · rw [Nat.compare_eq_eq.2 rfl, Nat.compare_eq_eq.2 rfl]
    · rw [Nat.compare_eq_gt.2 h, Nat.compare_eq_gt.2 (by omega)]
  · have hmore := hle h
    rw [Nat.compare_eq_gt.2 h, Nat.compare_eq_gt.2 (by omega)]
    rfl

def digit (c : Char) : Nat := c.toNat - '0'.toNat

theorem digit_lt {c : Char} (h : c.isDigit = true) : digit c < 10 := by
  have hrange := Sql.toNat_of_isDigit h
  have hzero : '0'.toNat = 48 := rfl
  rw [digit]
  omega

theorem compare_digit {c d : Char} (hc : c.isDigit = true) (hd : d.isDigit = true) :
    compare (digit c) (digit d) = compare c d := by
  have hcrange := Sql.toNat_of_isDigit hc
  have hdrange := Sql.toNat_of_isDigit hd
  have hzero : '0'.toNat = 48 := rfl
  have hlt : digit c < digit d ↔ c < d := by
    rw [Char.lt_def, UInt32.lt_iff_toNat_lt, digit, digit]
    change _ ↔ c.toNat < d.toNat
    omega
  have heq : digit c = digit d ↔ c = d := by
    rw [← Char.toNat_inj, digit, digit]
    omega
  simp only [compare, compareOfLessAndEq, hlt, heq]

theorem compare_ofDigitChars {as bs : List Char} (has : ∀ c ∈ as, c.isDigit = true)
    (hbs : ∀ c ∈ bs, c.isDigit = true) (h : as.length = bs.length) (x y : Nat) :
    compare (Nat.ofDigitChars 10 as x) (Nat.ofDigitChars 10 bs y) =
      (compare x y).then (compare as bs) := by
  induction as generalizing bs x y with
  | nil =>
    obtain rfl := List.eq_nil_of_length_eq_zero h.symm
    rw [Nat.ofDigitChars_nil, Nat.ofDigitChars_nil, compare_eq_eq.2 rfl, Ordering.then_eq]
  | cons a as ih =>
    cases bs with
    | nil => exact absurd h (Nat.succ_ne_zero _)
    | cons b bs =>
      obtain ⟨ha, has⟩ := List.forall_mem_cons.1 has
      obtain ⟨hb, hbs⟩ := List.forall_mem_cons.1 hbs
      calc compare (Nat.ofDigitChars 10 (a :: as) x) (Nat.ofDigitChars 10 (b :: bs) y)
          = (compare (x * 10 + digit a) (y * 10 + digit b)).then (compare as bs) := by
            rw [Nat.ofDigitChars_cons, Nat.ofDigitChars_cons, ih has hbs (Nat.succ.inj h),
              Nat.mul_comm 10 x, Nat.mul_comm 10 y, digit, digit]
        _ = (compare x y).then (compare (a :: as) (b :: bs)) := by
            rw [compare_positions x y (digit_lt ha) (digit_lt hb), compare_digit ha hb,
              Ordering.then_assoc, List.compare_cons_cons]

theorem compare_value {as bs : List Char} (has : ∀ c ∈ as, c.isDigit = true)
    (hbs : ∀ c ∈ bs, c.isDigit = true) (h : as.length = bs.length) :
    compare as bs = compare (value as) (value bs) :=
  (compare_ofDigitChars has hbs h 0 0).symm

end RecordMapper.Text
