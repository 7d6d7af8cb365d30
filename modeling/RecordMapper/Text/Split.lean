namespace RecordMapper.Text

def after? : (lead : List Char) → List Char → Option (List Char)
  | [], cs => some cs
  | _ :: _, [] => none
  | l :: ls, c :: cs => if l = c then after? ls cs else none

def splitFirst? (separator : List Char) : List Char → Option (List Char × List Char)
  | [] => (after? separator []).map ([], ·)
  | c :: cs =>
    match after? separator (c :: cs) with
    | some rest => some ([], rest)
    | none => (splitFirst? separator cs).map fun r => (c :: r.1, r.2)

def splitLast? (separator : Char) : List Char → Option (List Char × List Char)
  | [] => none
  | c :: cs =>
    match splitLast? separator cs with
    | some r => some (c :: r.1, r.2)
    | none => if c = separator then some ([], cs) else none

theorem after_append (lead rest : List Char) : after? lead (lead ++ rest) = some rest := by
  induction lead with
  | nil => cases rest <;> rfl
  | cons l ls ih => simp [after?, ih]

theorem eq_append_of_after {lead cs rest : List Char} (h : after? lead cs = some rest) :
    cs = lead ++ rest := by
  fun_induction after? lead cs with
  | case1 => simpa using h
  | case2 => simp at h
  | case3 l ls cs ih => simp [ih h]
  | case4 => simp at h

theorem splitFirst_append (c : Char) (front back : List Char) (h : c ∉ front) :
    splitFirst? [c] (front ++ c :: back) = some (front, back) := by
  induction front with
  | nil => simp [splitFirst?, after?]
  | cons f fs ih =>
    simp only [List.mem_cons, not_or] at h
    simp [splitFirst?, after?, h.1, ih h.2]

theorem splitFirst_eq_none {c : Char} {cs : List Char} :
    splitFirst? [c] cs = none ↔ c ∉ cs := by
  induction cs with
  | nil => simp [splitFirst?, after?]
  | cons d ds ih =>
    by_cases h : c = d
    · simp [splitFirst?, after?, h]
    · simp [splitFirst?, after?, h, ih]

theorem splitLast_eq_none {c : Char} {cs : List Char} : splitLast? c cs = none ↔ c ∉ cs := by
  induction cs with
  | nil => simp [splitLast?]
  | cons d ds ih =>
    rw [splitLast?]
    cases h : splitLast? c ds with
    | some r => simp_all
    | none =>
      have := ih.1 h
      by_cases hd : d = c
      · simp [hd]
      · simp [hd, this, Ne.symm hd]

theorem splitLast_append (c : Char) (front back : List Char) (h : c ∉ back) :
    splitLast? c (front ++ c :: back) = some (front, back) := by
  induction front with
  | nil => simp [splitLast?, splitLast_eq_none.2 h]
  | cons f fs ih => simp [splitLast?, ih]

theorem splitLast_eq_some {c : Char} {cs front back : List Char} :
    splitLast? c cs = some (front, back) ↔ cs = front ++ c :: back ∧ c ∉ back := by
  refine ⟨fun h => ?_, fun ⟨h, hb⟩ => h ▸ splitLast_append c front back hb⟩
  induction cs generalizing front back with
  | nil => simp [splitLast?] at h
  | cons d ds ih =>
    rw [splitLast?] at h
    cases hs : splitLast? c ds with
    | some r =>
      rw [hs] at h
      obtain ⟨rfl, rfl⟩ := Prod.mk.inj (Option.some.inj h)
      have := ih hs
      exact ⟨by simp [this.1], this.2⟩
    | none =>
      rw [hs] at h
      by_cases hd : d = c
      · simp only [hd, if_true, Option.some.injEq, Prod.mk.injEq] at h
        obtain ⟨rfl, rfl⟩ := h
        exact ⟨by simp [hd], splitLast_eq_none.1 hs⟩
      · simp [hd] at h

end RecordMapper.Text
