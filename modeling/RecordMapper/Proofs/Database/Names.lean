import RecordMapper.Database.Store

namespace RecordMapper.Database

theorem sameName_self (name : String) : sameName name name = true := by simp [sameName]

theorem sameName_iff {a b : String} :
    sameName a b = true ↔ a.toList.map Char.toLower = b.toList.map Char.toLower := by
  simp [sameName]

theorem sameName_right {a b : String} (h : sameName a b = true) (name : String) :
    sameName name a = sameName name b := by
  rw [sameName, sameName, sameName_iff.1 h]

theorem nil_mem_suffixes {α : Type} (as : List α) : [] ∈ suffixes as := by
  induction as with
  | nil => exact List.mem_cons_self ..
  | cons a as ih => exact List.mem_cons_of_mem _ ih

theorem like_anything (cs : List Char) : like ['%'] cs = true :=
  List.any_eq_true.2 ⟨[], nil_mem_suffixes cs, rfl⟩

theorem like_letter {p : Char} (hp : p ≠ '%' ∧ p ≠ '_') (ps : List Char) (c : Char)
    (cs : List Char) : like (p :: ps) (c :: cs) = (sameLetter p c && like ps cs) := by
  rw [like]
  · exact hp.1
  · exact hp.2

theorem like_nil {p : Char} (hp : p ≠ '%') (ps : List Char) : like (p :: ps) [] = false := by
  rw [like]
  exact hp

theorem like_append {word : List Char} (hword : ∀ p ∈ word, p ≠ '%' ∧ p ≠ '_') (ps cs : List Char) :
    like (word ++ ps) cs = true ↔ ∃ front back, cs = front ++ back ∧
      front.map Char.toLower = word.map Char.toLower ∧ like ps back = true := by
  induction word generalizing cs with
  | nil =>
    constructor
    · exact fun h => ⟨[], cs, rfl, rfl, h⟩
    · rintro ⟨front, back, rfl, hfront, hback⟩
      obtain rfl := List.map_eq_nil_iff.1 hfront
      exact hback
  | cons p word ih =>
    obtain ⟨hp, hword⟩ := List.forall_mem_cons.1 hword
    rw [List.cons_append]
    cases cs with
    | nil => simp [like_nil hp.1]
    | cons c cs =>
      rw [like_letter hp, Bool.and_eq_true, ih hword]
      constructor
      · rintro ⟨hpc, front, back, rfl, hfront, hback⟩
        have hpc : p.toLower = c.toLower := beq_iff_eq.1 hpc
        exact ⟨c :: front, back, rfl, by simp [hpc, hfront], hback⟩
      · rintro ⟨front, back, hcs, hfront, hback⟩
        obtain ⟨d, front, rfl⟩ : ∃ d rest, front = d :: rest := by
          cases front with
          | nil => simp at hfront
          | cons d rest => exact ⟨d, rest, rfl⟩
        obtain ⟨rfl, rfl⟩ := List.cons.inj hcs
        obtain ⟨hpc, hfront⟩ := List.cons.inj hfront
        exact ⟨beq_iff_eq.2 hpc.symm, front, back, rfl, hfront, hback⟩

def follower? (name : String) : Option Char :=
  if sameName (String.ofList (name.toList.take 6)) "sqlite" then name.toList[6]? else none

def isLookalike (name : String) : Bool := (follower? name).any (· != '_')

theorem follower_eq_some {name : String} {c : Char} :
    follower? name = some c ↔ ∃ front back, name.toList = front ++ c :: back ∧
      front.map Char.toLower = "sqlite".toList := by
  have hword : "sqlite".toList.map Char.toLower = "sqlite".toList := by decide
  rw [follower?, Option.ite_none_right_eq_some, sameName_iff, String.toList_ofList, hword]
  constructor
  · rintro ⟨hfront, hc⟩
    obtain ⟨hlength, rfl⟩ := List.getElem?_eq_some_iff.1 hc
    refine ⟨name.toList.take 6, name.toList.drop 7, ?_, hfront⟩
    rw [List.getElem_cons_drop, List.take_append_drop]
  · rintro ⟨front, back, hname, hfront⟩
    have hlength : front.length = 6 := by simpa using congrArg List.length hfront
    rw [hname, List.take_left' hlength, ← hlength]
    exact ⟨hfront, by simp⟩

theorem like_sqlite_eq_isSome (name : String) :
    like "sqlite_%".toList name.toList = (follower? name).isSome := by
  have hpattern : "sqlite_%".toList = "sqlite".toList ++ ['_', '%'] := by decide
  have hword : "sqlite".toList.map Char.toLower = "sqlite".toList := by decide
  have hplain : ∀ p ∈ "sqlite".toList, p ≠ '%' ∧ p ≠ '_' := by simp
  rw [Bool.eq_iff_iff, Option.isSome_iff_exists, hpattern, like_append hplain, hword]
  constructor
  · rintro ⟨front, back, hname, hfront, hback⟩
    cases back with
    | nil => cases hback
    | cons c back => exact ⟨c, follower_eq_some.2 ⟨front, back, hname, hfront⟩⟩
  · rintro ⟨c, hc⟩
    obtain ⟨front, back, hname, hfront⟩ := follower_eq_some.1 hc
    exact ⟨front, c :: back, hname, hfront, like_anything back⟩

theorem eq_underscore_of_toLower {c : Char} (h : c.toLower = '_') : c = '_' := by
  by_cases hupper : c.val ≥ 'A'.val ∧ c.val ≤ 'Z'.val
  · have hlower : c.toLower.val = c.val + 32 := congrArg Char.val (dif_pos hupper)
    rw [h] at hlower
    grind
  · exact (dif_neg hupper).symm.trans h

theorem isReserved_eq (name : String) : isReserved name = (follower? name == some '_') := by
  have hword : "sqlite_".toList.map Char.toLower = "sqlite".toList ++ ['_'] := by decide
  rw [Bool.eq_iff_iff, beq_iff_eq, follower_eq_some, isReserved, sameName_iff,
    String.toList_ofList, hword, List.map_eq_append_iff]
  constructor
  · rintro ⟨front, last, hname, hfront, hlast⟩
    obtain ⟨c, rfl, hc⟩ := List.map_eq_singleton_iff.1 hlast
    obtain rfl := eq_underscore_of_toLower hc
    refine ⟨front, name.toList.drop 7, ?_, hfront⟩
    rw [← List.singleton_append, ← List.append_assoc, ← hname, List.take_append_drop]
  · rintro ⟨front, back, hname, hfront⟩
    have hlength : front.length = 6 := by simpa using congrArg List.length hfront
    refine ⟨front, ['_'], ?_, hfront, by decide⟩
    rw [hname, ← List.singleton_append, ← List.append_assoc, List.take_left' (by simp [hlength])]

theorem like_sqlite_eq (name : String) :
    like "sqlite_%".toList name.toList = (isReserved name || isLookalike name) := by
  rw [like_sqlite_eq_isSome, isReserved_eq, isLookalike]
  cases follower? name with
  | none => rfl
  | some c => cases h : c == '_' <;> simp_all

theorem like_sqlite_congr {a b : String} (h : sameName a b = true) :
    like "sqlite_%".toList a.toList = like "sqlite_%".toList b.toList := by
  have himp {a b : String} (h : sameName a b = true) (ha : (follower? a).isSome = true) :
      (follower? b).isSome = true := by
    obtain ⟨c, hc⟩ := Option.isSome_iff_exists.1 ha
    obtain ⟨front, back, hname, hfront⟩ := follower_eq_some.1 hc
    have hletters := sameName_iff.1 h
    rw [hname, List.map_append, List.map_cons, hfront, eq_comm, List.map_eq_append_iff] at hletters
    obtain ⟨front', rest, hname', hfront', hrest⟩ := hletters
    obtain ⟨c', back', rfl, _, _⟩ := List.map_eq_cons_iff.1 hrest
    exact Option.isSome_iff_exists.2 ⟨c', follower_eq_some.2 ⟨front', back', hname', hfront'⟩⟩
  rw [like_sqlite_eq_isSome, like_sqlite_eq_isSome, Bool.eq_iff_iff]
  exact ⟨himp h, himp (sameName_iff.2 (sameName_iff.1 h).symm)⟩

theorem isReserved_of_isLookalike {name : String} (h : isLookalike name = true) :
    isReserved name = false := by
  rw [isLookalike] at h
  rw [isReserved_eq]
  cases hc : follower? name <;> simp_all

end RecordMapper.Database
