import RecordMapper.Proofs.Builder.Faults

namespace RecordMapper

def Comparison.Fits (s : Schema) (p : Comparison) : Prop :=
  ∃ c, s.column? p.column = some c ∧
    if p.value = .null then p.op = .eq ∨ p.op = .ne else c.type.validate p.value = true

inductive Comparison.Unfit (s : Schema) (p : Comparison) : Error → Prop
  | noColumn : s.column? p.column = none →
      Unfit s p (.invalidArgument (.noColumn s.table p.column))
  | nullComparison : s.column? p.column = some c → p.value = .null → ¬(p.op = .eq ∨ p.op = .ne) →
      Unfit s p (.invalidArgument (.nullComparison p.op))
  | badValue : s.column? p.column = some c → p.value ≠ .null →
      c.type.validate p.value = false →
      Unfit s p (.validation (.badLiteral p.value c.type.kind))

def Assignable (s : Schema) (a : String × Value) : Prop :=
  ∃ c, s.column? a.1 = some c ∧
    if a.2 = .null then c.nullable = true else c.type.validate a.2 = true

inductive Unassignable (s : Schema) (a : String × Value) : Error → Prop
  | noColumn : s.column? a.1 = none →
      Unassignable s a (.invalidArgument (.noColumn s.table a.1))
  | notNullable : s.column? a.1 = some c → a.2 = .null → c.nullable = false →
      Unassignable s a (.validation (.notNullable s.table a.1))
  | badValue : s.column? a.1 = some c → a.2 ≠ .null → c.type.validate a.2 = false →
      Unassignable s a (.validation (.badLiteral a.2 c.type.kind))

theorem Comparison.fits_or_unfit (s : Schema) (p : Comparison) : p.Fits s ∨ ∃ e, p.Unfit s e := by
  cases hcolumn : s.column? p.column with
  | none => exact .inr ⟨_, .noColumn hcolumn⟩
  | some c =>
    by_cases hv : p.value = .null
    · by_cases hop : p.op = .eq ∨ p.op = .ne
      · exact .inl ⟨c, hcolumn, (if_pos hv).mpr hop⟩
      · exact .inr ⟨_, .nullComparison hcolumn hv hop⟩
    · cases hvalid : c.type.validate p.value with
      | true => exact .inl ⟨c, hcolumn, (if_neg hv).mpr hvalid⟩
      | false => exact .inr ⟨_, .badValue hcolumn hv hvalid⟩

theorem Comparison.Fits.rendered {s : Schema} {p : Comparison} (h : p.Fits s) (d : Dialect) :
    ∃ sql, conditionSql d s p.column p.op p.value = .ok sql := by
  obtain ⟨column, op, v⟩ := p
  obtain ⟨c, hcolumn, hfits⟩ := h
  simp only at hcolumn hfits
  split at hfits
  · rename_i hv
    subst hv
    rcases hfits with rfl | rfl <;> simp [conditionSql, hcolumn]
  · rename_i hv
    simp only [conditionSql, hcolumn, Value.isNull_of_ne hv, Bool.false_eq_true, if_false,
      c.type.literal_of_ne_null d hv, if_pos hfits]
    exact ⟨_, rfl⟩

theorem Comparison.Unfit.refused {s : Schema} {p : Comparison} {e : Error} (h : p.Unfit s e)
    (d : Dialect) : conditionSql d s p.column p.op p.value = .error e := by
  obtain ⟨column, op, v⟩ := p
  cases h with
  | noColumn hcolumn =>
    simp only at hcolumn
    simp only [conditionSql, hcolumn]
  | nullComparison hcolumn hv hop =>
    simp only at hcolumn hv hop
    subst hv
    cases op <;> simp_all [conditionSql]
  | @badValue c hcolumn hv hvalid =>
    simp only at hcolumn hv hvalid
    simp only [conditionSql, hcolumn, Value.isNull_of_ne hv, Bool.false_eq_true, if_false,
      c.type.literal_of_ne_null d hv, hvalid]
    rfl

theorem assignable_or_not (s : Schema) (a : String × Value) :
    Assignable s a ∨ ∃ e, Unassignable s a e := by
  cases hcolumn : s.column? a.1 with
  | none => exact .inr ⟨_, .noColumn hcolumn⟩
  | some c =>
    by_cases hv : a.2 = .null
    · cases hnullable : c.nullable with
      | true => exact .inl ⟨c, hcolumn, (if_pos hv).mpr hnullable⟩
      | false => exact .inr ⟨_, .notNullable hcolumn hv hnullable⟩
    · cases hvalid : c.type.validate a.2 with
      | true => exact .inl ⟨c, hcolumn, (if_neg hv).mpr hvalid⟩
      | false => exact .inr ⟨_, .badValue hcolumn hv hvalid⟩

theorem Assignable.rendered {s : Schema} {a : String × Value} (h : Assignable s a) (d : Dialect) :
    ∃ sql, assignmentSql d s a.1 a.2 = .ok sql := by
  obtain ⟨column, v⟩ := a
  obtain ⟨c, hcolumn, hfits⟩ := h
  simp only at hcolumn hfits
  split at hfits
  · rename_i hv
    subst hv
    obtain ⟨sql, hsql⟩ := c.type.literal_of_suits d (.inl rfl)
    simp [assignmentSql, hcolumn, hfits, hsql]
  · rename_i hv
    simp only [assignmentSql, hcolumn, Value.isNull_of_ne hv, Bool.false_and, Bool.false_eq_true,
      if_false, c.type.literal_of_ne_null d hv, if_pos hfits]
    exact ⟨_, rfl⟩

theorem Unassignable.refused {s : Schema} {a : String × Value} {e : Error}
    (h : Unassignable s a e) (d : Dialect) : assignmentSql d s a.1 a.2 = .error e := by
  obtain ⟨column, v⟩ := a
  cases h with
  | noColumn hcolumn =>
    simp only at hcolumn
    simp only [assignmentSql, hcolumn]
  | notNullable hcolumn hv hnullable =>
    simp only at hcolumn hv
    subst hv
    simp [assignmentSql, hcolumn, hnullable]
  | @badValue c hcolumn hv hvalid =>
    simp only at hcolumn hv hvalid
    simp only [assignmentSql, hcolumn, Value.isNull_of_ne hv, Bool.false_and, Bool.false_eq_true,
      if_false, c.type.literal_of_ne_null d hv, hvalid]
    rfl

inductive Part
  | condition (k : Connective) (p : Comparison)
  | assign (a : String × Value)

namespace Part

def condition? : Part → Option (Connective × Comparison)
  | condition k p => some (k, p)
  | assign _ => none

def assigned? : Part → Option (String × Value)
  | condition _ _ => none
  | assign a => some a

def apply (u : Update) : Part → Update
  | condition k p => u.condition k p.column p.op p.value
  | assign a => u.set a.1 a.2

inductive Right (s : Schema) (started : Bool) : Part → Prop
  | condition : (k = .filter ↔ started = false) → p.Fits s → Right s started (condition k p)
  | assign : Assignable s a → Right s started (assign a)

inductive Wrong (s : Schema) (started : Bool) : Part → Error → Prop
  | secondFilter : started = true →
      Wrong s started (condition .filter p) (.invalidArgument .secondFilter)
  | noFilter : started = false → k ≠ .filter →
      Wrong s started (condition k p) (.invalidArgument .noFilter)
  | condition : (k = .filter ↔ started = false) → p.Unfit s e →
      Wrong s started (condition k p) e
  | assign : Unassignable s a e → Wrong s started (assign a) e

variable {s : Schema} {started : Bool} {part : Part} {e : Error}

def render (d : Dialect) (s : Schema) (started : Bool) : Part → Except Error String
  | condition k p => Conditions.fragment d s started k p.column p.op p.value
  | assign a => assignmentSql d s a.1 a.2

theorem fragment_in_place {k : Connective} (h : k = .filter ↔ started = false) (d : Dialect)
    (s : Schema) (p : Comparison) :
    Conditions.fragment d s started k p.column p.op p.value = do
      return k.sql ++ (← conditionSql d s p.column p.op p.value) := by
  cases k <;> cases started <;> first | rfl | simp at h

theorem right_or_wrong (s : Schema) (started : Bool) (part : Part) :
    Right s started part ∨ ∃ e, Wrong s started part e := by
  cases part with
  | condition k p =>
    by_cases hplace : k = .filter ↔ started = false
    · exact (p.fits_or_unfit s).imp (.condition hplace) fun ⟨e, he⟩ => ⟨e, .condition hplace he⟩
    · refine .inr ?_
      by_cases hk : k = .filter
      · subst hk
        exact ⟨_, .secondFilter (by simpa using hplace)⟩
      · exact ⟨_, .noFilter (by simpa [hk] using hplace) hk⟩
  | assign a => exact (assignable_or_not s a).imp .assign fun ⟨e, he⟩ => ⟨e, .assign he⟩

theorem Right.rendered (h : Right s started part) (d : Dialect) :
    ∃ sql, part.render d s started = .ok sql := by
  cases h with
  | condition hplace hfits =>
    obtain ⟨sql, hsql⟩ := hfits.rendered d
    exact ⟨_, by rw [render, fragment_in_place hplace, hsql]; rfl⟩
  | assign ha => exact ha.rendered d

theorem Wrong.refused (h : Wrong s started part e) (d : Dialect) :
    part.render d s started = .error e := by
  cases h with
  | secondFilter hstarted =>
    subst hstarted
    rfl
  | @noFilter k _ hstarted hk =>
    subst hstarted
    cases k with
    | filter => contradiction
    | and => rfl
    | or => rfl
  | condition hplace hunfit =>
    rw [render, fragment_in_place hplace, hunfit.refused d]
    rfl
  | assign ha => exact ha.refused d

theorem Right.not_wrong (h : Right s started part) : ¬Wrong s started part e := by
  intro hwrong
  obtain ⟨sql, hsql⟩ := h.rendered .sqlite
  exact absurd (hsql.symm.trans (hwrong.refused .sqlite)) nofun

theorem Wrong.unique {e' : Error} (h : Wrong s started part e) (h' : Wrong s started part e') :
    e = e' :=
  Except.error.inj ((h.refused .sqlite).symm.trans (h'.refused .sqlite))

theorem apply_of_error {u : Update}
    (h : part.render u.dialect u.schema u.conditions.started = .error e) :
    (part.apply u).conditions.error = u.conditions.error.or (some e) := by
  cases part with
  | condition k p =>
    simp only [render] at h
    simp only [apply, Update.condition, Conditions.push, h, Conditions.fail]
  | assign a =>
    simp only [render] at h
    simp only [apply, Update.set, h, Conditions.fail]

theorem apply_of_ok {u : Update} {sql : String}
    (h : part.render u.dialect u.schema u.conditions.started = .ok sql) :
    (part.apply u).conditions.error = u.conditions.error ∧
      (part.apply u).conditions.fragments =
        u.conditions.fragments ++ (part.condition?.map fun _ => sql).toList ∧
      (part.apply u).assignments = u.assignments ++ (part.assigned?.map fun _ => sql).toList := by
  cases part with
  | condition k p =>
    simp only [render] at h
    simp [apply, Update.condition, Conditions.push, h, condition?, assigned?]
  | assign a =>
    simp only [render] at h
    simp [apply, Update.set, h, condition?, assigned?]

theorem apply_frame (u : Update) (part : Part) :
    (part.apply u).dialect = u.dialect ∧ (part.apply u).schema = u.schema ∧
      (part.apply u).conditions.started = (u.conditions.started || part.condition?.isSome) := by
  cases part with
  | condition k p =>
    refine ⟨rfl, rfl, ?_⟩
    simp only [apply, Update.condition, Conditions.push, condition?, Option.isSome_some,
      Bool.or_true]
    split <;> rfl
  | assign a =>
    simp only [apply, Update.set, condition?, Option.isSome_none, Bool.or_false]
    split <;> exact ⟨rfl, rfl, rfl⟩

end Part

end RecordMapper
