import RecordMapper.Proofs.Builder.Parts

/-!
Which chains of calls are accepted, and what is reported of the others.
Main statement: exactly the well-formed chains are accepted, with one fragment for each condition
and for each assignment, and of any other chain its first mistake is reported, in every dialect the
same.
-/

namespace RecordMapper

def conditionsOf (parts : List Part) : List (Connective × Comparison) :=
  parts.filterMap Part.condition?

def assignedOf (parts : List Part) : List (String × Value) := parts.filterMap Part.assigned?

def isStarted (parts : List Part) : Bool := !(conditionsOf parts).isEmpty

/-- Whether a chain of calls is well formed: its first condition is one of `filter` and no later one
is, and every condition and every assignment makes sense for the table. -/
structure WellFormed (s : Schema) (parts : List Part) : Prop where
  first : ∀ p ∈ (conditionsOf parts).head?, p.1 = .filter
  later : ∀ p ∈ (conditionsOf parts).tail, p.1 ≠ .filter
  fits : ∀ p ∈ conditionsOf parts, p.2.Fits s
  assignable : ∀ a ∈ assignedOf parts, Assignable s a

/-- Whether an error says what is wrong with the first wrong part of a chain. -/
def Blames (s : Schema) (parts : List Part) (e : Error) : Prop :=
  ∃ before part after, parts = before ++ part :: after ∧ WellFormed s before ∧
    part.Wrong s (isStarted before) e

theorem isStarted_concat (parts : List Part) (part : Part) :
    isStarted (parts ++ [part]) = (isStarted parts || part.condition?.isSome) := by
  cases part with
  | condition k p => simp [isStarted, conditionsOf, Part.condition?]
  | assign a => simp [isStarted, conditionsOf, Part.condition?, List.filterMap_cons]

theorem conditionsOf_condition (parts : List Part) (k : Connective) (p : Comparison) :
    conditionsOf (parts ++ [.condition k p]) = conditionsOf parts ++ [(k, p)] := by
  simp [conditionsOf, Part.condition?]

theorem conditionsOf_assign (parts : List Part) (a : String × Value) :
    conditionsOf (parts ++ [.assign a]) = conditionsOf parts := by
  simp [conditionsOf, Part.condition?, List.filterMap_cons]

theorem assignedOf_condition (parts : List Part) (k : Connective) (p : Comparison) :
    assignedOf (parts ++ [.condition k p]) = assignedOf parts := by
  simp [assignedOf, Part.assigned?, List.filterMap_cons]

theorem assignedOf_assign (parts : List Part) (a : String × Value) :
    assignedOf (parts ++ [.assign a]) = assignedOf parts ++ [a] := by
  simp [assignedOf, Part.assigned?]

theorem chained_concat {p : Connective × Comparison} {ps : List (Connective × Comparison)} :
    (∀ q ∈ (ps ++ [p]).head?, q.1 = .filter) ∧ (∀ q ∈ (ps ++ [p]).tail, q.1 ≠ .filter) ↔
      ((∀ q ∈ ps.head?, q.1 = .filter) ∧ ∀ q ∈ ps.tail, q.1 ≠ .filter) ∧
        (p.1 = .filter ↔ (!ps.isEmpty) = false) := by
  cases ps with
  | nil => simp
  | cons first ps => simp [or_imp, forall_and, and_assoc]

theorem wellFormed_concat {s : Schema} {parts : List Part} {part : Part} :
    WellFormed s (parts ++ [part]) ↔ WellFormed s parts ∧ part.Right s (isStarted parts) := by
  cases part with
  | condition k p =>
    constructor
    · rintro ⟨hfirst, hlater, hfits, hassignable⟩
      rw [conditionsOf_condition] at hfirst hlater hfits
      rw [assignedOf_condition] at hassignable
      obtain ⟨⟨hfirst, hlater⟩, hplace⟩ := chained_concat.1 ⟨hfirst, hlater⟩
      obtain ⟨hfits, hp⟩ := List.forall_mem_append.1 hfits
      exact ⟨⟨hfirst, hlater, hfits, hassignable⟩,
        .condition hplace (hp _ (List.mem_singleton_self _))⟩
    · rintro ⟨⟨hfirst, hlater, hfits, hassignable⟩, hright⟩
      obtain ⟨hplace, hp⟩ := hright
      obtain ⟨hfirst, hlater⟩ := (chained_concat (p := (k, p))).2 ⟨⟨hfirst, hlater⟩, hplace⟩
      rw [← conditionsOf_condition] at hfirst hlater
      rw [← assignedOf_condition] at hassignable
      refine ⟨hfirst, hlater, ?_, hassignable⟩
      rw [conditionsOf_condition]
      exact List.forall_mem_append.2 ⟨hfits, List.forall_mem_singleton.2 hp⟩
  | assign a =>
    constructor
    · rintro ⟨hfirst, hlater, hfits, hassignable⟩
      rw [conditionsOf_assign] at hfirst hlater hfits
      rw [assignedOf_assign] at hassignable
      obtain ⟨hassignable, ha⟩ := List.forall_mem_append.1 hassignable
      exact ⟨⟨hfirst, hlater, hfits, hassignable⟩, .assign (ha _ (List.mem_singleton_self _))⟩
    · rintro ⟨⟨hfirst, hlater, hfits, hassignable⟩, hright⟩
      obtain ha : Assignable s a := by cases hright; assumption
      rw [← conditionsOf_assign parts a] at hfirst hlater hfits
      refine ⟨hfirst, hlater, hfits, ?_⟩
      rw [assignedOf_assign]
      exact List.forall_mem_append.2 ⟨hassignable, List.forall_mem_singleton.2 ha⟩

theorem blames_concat {s : Schema} {parts : List Part} {part : Part} {e : Error} :
    Blames s (parts ++ [part]) e ↔
      Blames s parts e ∨ WellFormed s parts ∧ part.Wrong s (isStarted parts) e := by
  constructor
  · rintro ⟨before, wrong, after, hparts, hbefore, hwrong⟩
    rcases List.eq_nil_or_concat' after with rfl | ⟨after, last, rfl⟩
    · obtain ⟨rfl, hlast⟩ := List.append_inj' hparts rfl
      obtain rfl := List.singleton_inj.1 hlast
      exact .inr ⟨hbefore, hwrong⟩
    · rw [← List.cons_append, ← List.append_assoc] at hparts
      exact .inl ⟨before, wrong, after, (List.append_inj' hparts rfl).1, hbefore, hwrong⟩
  · rintro (⟨before, wrong, after, rfl, hbefore, hwrong⟩ | ⟨hparts, hwrong⟩)
    · exact ⟨before, wrong, after ++ [part], by simp, hbefore, hwrong⟩
    · exact ⟨parts, part, [], rfl, hparts, hwrong⟩

def build (d : Dialect) (s : Schema) (parts : List Part) : Update :=
  parts.foldl Part.apply { dialect := d, schema := s }

theorem build_append (d : Dialect) (s : Schema) (parts more : List Part) :
    build d s (parts ++ more) = more.foldl Part.apply (build d s parts) := List.foldl_append

theorem build_frame (d : Dialect) (s : Schema) (parts : List Part) :
    (build d s parts).dialect = d ∧ (build d s parts).schema = s ∧
      (build d s parts).conditions.started = isStarted parts := by
  induction parts using List.reverseRecOn with
  | nil => exact ⟨rfl, rfl, rfl⟩
  | append_singleton parts part ih =>
    obtain ⟨hd, hs, hstarted⟩ := ih
    obtain ⟨hd', hs', hstarted'⟩ := Part.apply_frame (build d s parts) part
    rw [build_append]
    exact ⟨hd'.trans hd, hs'.trans hs, by
      rw [isStarted_concat, ← hstarted]
      exact hstarted'⟩

theorem render_build (d : Dialect) (s : Schema) (parts : List Part) (part : Part) :
    part.render (build d s parts).dialect (build d s parts).schema
      (build d s parts).conditions.started = part.render d s (isStarted parts) := by
  obtain ⟨hd, hs, hstarted⟩ := build_frame d s parts
  rw [hd, hs, hstarted]

/-- What becomes of the texts of a chain: one for each condition, with its connective in front, and
one for each assignment. Each is rendered on its own, and says what was asked for. -/
structure Rendered (d : Dialect) (s : Schema) (parts : List Part) (fragments : List String)
    (assignments : List String) : Prop where
  conditions : List.Forall₂ (fun p text =>
    ∃ sql condition, conditionSql d s p.2.column p.2.op p.2.value = .ok sql ∧
      Sql.Condition.read? sql = some condition ∧ ReadsAs s p.2 condition ∧
      text = match p.1 with
        | .filter => sql
        | .and => "AND " ++ sql
        | .or => "OR " ++ sql)
    (conditionsOf parts) fragments
  assignments : List.Forall₂ (fun a text =>
    ∃ assignment, assignmentSql d s a.1 a.2 = .ok text ∧
      Sql.readAssignment? text = some assignment ∧ Assigns s a assignment)
    (assignedOf parts) assignments

theorem error_build (d : Dialect) (s : Schema) (parts : List Part) :
    ((build d s parts).conditions.error = none ↔ WellFormed s parts) ∧
      ∀ e, (build d s parts).conditions.error = some e ↔ Blames s parts e := by
  induction parts using List.reverseRecOn with
  | nil =>
    have hempty : WellFormed s [] := by constructor <;> simp [conditionsOf, assignedOf]
    refine ⟨iff_of_true rfl hempty, fun e => iff_of_false nofun ?_⟩
    rintro ⟨before, part, after, hparts, -⟩
    simp at hparts
  | append_singleton parts part ih =>
    obtain ⟨hnone, hsome⟩ := ih
    rw [build_append, List.foldl_cons, List.foldl_nil, wellFormed_concat]
    simp only [blames_concat]
    rcases part.right_or_wrong s (isStarted parts) with hright | ⟨e', hwrong⟩
    · obtain ⟨sql, hsql⟩ := hright.rendered d
      rw [(Part.apply_of_ok ((render_build d s parts part).trans hsql)).1]
      refine ⟨hnone.trans (and_iff_left hright).symm, fun e => ?_⟩
      rw [hsome, or_iff_left fun hlast => hright.not_wrong hlast.2]
    · rw [Part.apply_of_error ((render_build d s parts part).trans (hwrong.refused d))]
      refine ⟨iff_of_false (by simp) fun hboth => hboth.2.not_wrong hwrong, fun e => ?_⟩
      rw [Option.or_eq_some_iff, hsome, hnone, Option.some_inj]
      exact or_congr_right (and_congr_right fun _ =>
        ⟨fun heq => heq ▸ hwrong, fun hlast => hwrong.unique hlast⟩)

theorem rendered_build (d : Dialect) {s : Schema} {parts : List Part} (h : WellFormed s parts) :
    Rendered d s parts (build d s parts).conditions.fragments (build d s parts).assignments := by
  induction parts using List.reverseRecOn with
  | nil => exact ⟨.nil, .nil⟩
  | append_singleton parts part ih =>
    obtain ⟨hparts, hright⟩ := wellFormed_concat.1 h
    obtain ⟨hconditions, hassignments⟩ := ih hparts
    obtain ⟨sql, hsql⟩ := hright.rendered d
    obtain ⟨-, hfragments, hassigned⟩ :=
      Part.apply_of_ok ((render_build d s parts part).trans hsql)
    rw [build_append, List.foldl_cons, List.foldl_nil, hfragments, hassigned]
    cases hright with
    | @condition k p hplace hfits =>
      rw [Part.render, Part.fragment_in_place hplace] at hsql
      obtain ⟨text, htext, hreturn⟩ := except_bind_eq_ok hsql
      obtain rfl := Except.ok.inj hreturn
      refine ⟨?_, ?_⟩
      · rw [conditionsOf_condition]
        obtain ⟨condition, hreads, hspells⟩ := conditionSql_spells htext
        refine List.rel_append hconditions
          (.cons ⟨text, condition, htext, hspells.condition, hreads, ?_⟩ .nil)
        cases k with
        | filter => exact String.empty_append
        | and => rfl
        | or => rfl
      · rw [assignedOf_condition]
        simpa [Part.assigned?] using hassignments
    | @assign a ha =>
      refine ⟨?_, ?_⟩
      · rw [conditionsOf_assign]
        simpa [Part.condition?] using hconditions
      · rw [assignedOf_assign]
        obtain ⟨assignment, hassigns, hspells⟩ := assignmentSql_spells hsql
        exact List.rel_append hassignments
          (.cons ⟨assignment, hsql, hspells.assignment, hassigns⟩ .nil)

def QueryCall.parts : QueryCall → List Part
  | condition k p => [.condition k p]
  | equals column v => [.condition .filter ⟨column, .eq, v⟩]
  | limit _ => []

def UpdateCall.parts : UpdateCall → List Part
  | condition k p => [.condition k p]
  | equals column v => [.condition .filter ⟨column, .eq, v⟩]
  | set column v => [.assign (column, v)]
  | setAll pairs => pairs.map .assign

def DeleteCall.part (call : DeleteCall) : Part :=
  .condition call.comparison.1 call.comparison.2

theorem Query.build_ofCalls (d : Dialect) (m : Model α) (calls : List QueryCall) :
    (ofCalls d m calls).conditions =
      (build d m.schema (calls.flatMap QueryCall.parts)).conditions := by
  induction calls using List.reverseRecOn with
  | nil => rfl
  | append_singleton calls call ih =>
    obtain ⟨hd, hm, -⟩ := frame_ofCalls d m calls
    obtain ⟨hd', hs', -⟩ := build_frame d m.schema (calls.flatMap QueryCall.parts)
    rw [ofCalls_concat, List.flatMap_append, build_append]
    cases call with
    | limit n => exact ih
    | _ =>
      simp [QueryCall.apply, QueryCall.parts, Part.apply, Query.equals, Query.condition,
        Update.condition, hd, hm, ih, hd', hs']

theorem Update.build_ofCalls (d : Dialect) (s : Schema) (calls : List UpdateCall) :
    ofCalls d s calls = build d s (calls.flatMap UpdateCall.parts) := by
  induction calls using List.reverseRecOn with
  | nil => rfl
  | append_singleton calls call ih =>
    rw [ofCalls_concat, List.flatMap_append, build_append, ih]
    cases call with
    | setAll pairs => simp [UpdateCall.apply, UpdateCall.parts, List.foldl_map, Update.setAll,
        Part.apply]
    | _ => rfl

theorem Delete.build_ofCalls (d : Dialect) (s : Schema) (calls : List DeleteCall) :
    (ofCalls d s calls).dialect = d ∧ (ofCalls d s calls).schema = s ∧
      (ofCalls d s calls).conditions = (build d s (calls.map DeleteCall.part)).conditions := by
  induction calls using List.reverseRecOn with
  | nil => exact ⟨rfl, rfl, rfl⟩
  | append_singleton calls call ih =>
    have hstep : ofCalls d s (calls ++ [call]) = call.apply (ofCalls d s calls) := by
      simp [ofCalls]
    obtain ⟨hd, hs, hconditions⟩ := ih
    obtain ⟨hd', hs', -⟩ := build_frame d s (calls.map DeleteCall.part)
    rw [hstep, DeleteCall.apply_eq, List.map_append, build_append]
    refine ⟨hd, hs, ?_⟩
    simp [Delete.condition, DeleteCall.part, Part.apply, Update.condition, hd, hs, hconditions,
      hd', hs']

theorem assignedOf_query (calls : List QueryCall) :
    assignedOf (calls.flatMap QueryCall.parts) = [] := by
  simp only [assignedOf, List.filterMap_eq_nil_iff, List.mem_flatMap]
  rintro part ⟨call, -, hpart⟩
  cases call <;> simp_all [QueryCall.parts, Part.assigned?]

theorem assignedOf_delete (calls : List DeleteCall) :
    assignedOf (calls.map DeleteCall.part) = [] := by
  simp [assignedOf, DeleteCall.part, Part.assigned?]

theorem Conditions.check_eq_ok {cs : Conditions} : cs.check = .ok () ↔ cs.error = none := by
  rw [check]
  cases cs.error <;> simp

theorem Conditions.check_eq_error {cs : Conditions} {e : Error} :
    cs.check = .error e ↔ cs.error = some e := by
  rw [check]
  cases cs.error <;> simp

section terminal

variable {σ : Type} (c : Connection σ) (session : Session σ) {e : Error}

theorem Query.first_of_check {q : Query α} (h : q.conditions.check = .error e) :
    q.first c session = (.error e, session) := by
  rw [first, Session.bind_apply, Session.liftExcept_apply, h]

theorem Query.all_of_check {q : Query α} (h : q.conditions.check = .error e) :
    q.all c session = (.error e, session) := by
  rw [all, Session.bind_apply, Session.liftExcept_apply, h]

theorem Update.commit_of_check {u : Update} (h : u.conditions.check = .error e) :
    u.commit c session = (.error e, session) := by
  rw [commit, Session.bind_apply, Session.liftExcept_apply, h]

theorem Delete.commit_of_check {x : Delete} (h : x.conditions.check = .error e) :
    x.commit c session = (.error e, session) := by
  rw [commit, Session.bind_apply, Session.liftExcept_apply, h]

end terminal

structure Judged (s : Schema) (parts : List Part) (conditions : Dialect → Conditions)
    (assignments : Dialect → List String) : Prop where
  accepted : ∀ d, (conditions d).check = .ok () ↔ WellFormed s parts
  rendered : WellFormed s parts → ∀ d,
    Rendered d s parts (conditions d).fragments (assignments d)
  refused : ∀ d e, (conditions d).check = .error e ↔ Blames s parts e
  alike : (conditions .postgres).check = (conditions .sqlite).check

theorem judged {s : Schema} {parts : List Part} {conditions : Dialect → Conditions}
    {assignments : Dialect → List String}
    (hconditions : ∀ d, conditions d = (build d s parts).conditions)
    (hassignments : ∀ d, assignedOf parts = [] ∧ assignments d = [] ∨
      assignments d = (build d s parts).assignments) :
    Judged s parts conditions assignments := by
  have haccepted : ∀ d, (conditions d).check = .ok () ↔ WellFormed s parts := fun d => by
    rw [Conditions.check_eq_ok, hconditions, (error_build d s parts).1]
  have hrefused : ∀ d e, (conditions d).check = .error e ↔ Blames s parts e := fun d e => by
    rw [Conditions.check_eq_error, hconditions, (error_build d s parts).2]
  refine ⟨haccepted, fun h d => ?_, hrefused, ?_⟩
  · have hrendered := rendered_build d h
    rw [hconditions]
    rcases hassignments d with ⟨hnone, hempty⟩ | hsame
    · exact ⟨hrendered.conditions, hnone ▸ hempty ▸ .nil⟩
    · exact hsame ▸ hrendered
  · cases hcheck : (conditions .sqlite).check with
    | ok => exact (haccepted .postgres).2 ((haccepted .sqlite).1 hcheck)
    | error e => exact (hrefused .postgres e).2 ((hrefused .sqlite e).1 hcheck)

/-- Every chain of calls on a query, an update or a deletion is judged by its parts, and what is
wrong with it is all that comes of the attempt to run it. -/
theorem chains_judged (m : Model α) (s : Schema) :
    (∀ calls : List QueryCall,
      Judged m.schema (calls.flatMap QueryCall.parts)
        (fun d => (Query.ofCalls d m calls).conditions) (fun _ => []) ∧
      ∀ e, Blames m.schema (calls.flatMap QueryCall.parts) e →
        ∀ {σ : Type} (c : Connection σ) (session : Session σ) (d : Dialect),
          (Query.ofCalls d m calls).first c session = (.error e, session) ∧
          (Query.ofCalls d m calls).all c session = (.error e, session)) ∧
    (∀ calls : List UpdateCall,
      Judged s (calls.flatMap UpdateCall.parts)
        (fun d => (Update.ofCalls d s calls).conditions)
        (fun d => (Update.ofCalls d s calls).assignments) ∧
      ∀ e, Blames s (calls.flatMap UpdateCall.parts) e →
        ∀ {σ : Type} (c : Connection σ) (session : Session σ) (d : Dialect),
          (Update.ofCalls d s calls).commit c session = (.error e, session)) ∧
    (∀ calls : List DeleteCall,
      Judged s (calls.map DeleteCall.part)
        (fun d => (Delete.ofCalls d s calls).conditions) (fun _ => []) ∧
      ∀ e, Blames s (calls.map DeleteCall.part) e →
        ∀ {σ : Type} (c : Connection σ) (session : Session σ) (d : Dialect),
          (Delete.ofCalls d s calls).commit c session = (.error e, session)) := by
  refine ⟨fun calls => ?_, fun calls => ?_, fun calls => ?_⟩
  · have hjudged : Judged m.schema (calls.flatMap QueryCall.parts)
        (fun d => (Query.ofCalls d m calls).conditions) (fun _ => []) :=
      judged (fun d => Query.build_ofCalls d m calls)
        fun d => .inl ⟨assignedOf_query calls, rfl⟩
    refine ⟨hjudged, fun e he σ c session d => ?_⟩
    have hcheck := (hjudged.refused d e).2 he
    exact ⟨Query.first_of_check c session hcheck, Query.all_of_check c session hcheck⟩
  · have hjudged : Judged s (calls.flatMap UpdateCall.parts)
        (fun d => (Update.ofCalls d s calls).conditions)
        (fun d => (Update.ofCalls d s calls).assignments) :=
      judged (fun d => congrArg Update.conditions (Update.build_ofCalls d s calls))
        fun d => .inr (congrArg Update.assignments (Update.build_ofCalls d s calls))
    exact ⟨hjudged, fun e he σ c session d =>
      Update.commit_of_check c session ((hjudged.refused d e).2 he)⟩
  · have hjudged : Judged s (calls.map DeleteCall.part)
        (fun d => (Delete.ofCalls d s calls).conditions) (fun _ => []) :=
      judged (fun d => (Delete.build_ofCalls d s calls).2.2)
        fun d => .inl ⟨assignedOf_delete calls, rfl⟩
    exact ⟨hjudged, fun e he σ c session d =>
      Delete.commit_of_check c session ((hjudged.refused d e).2 he)⟩

namespace Sample

def hasty : List UpdateCall := [
  .set "on" (.boolean true), .equals "at" .null,
  .setAll [("on", .null), ("it's, here); --", .null)],
  .condition .filter afterLeap, .set "off" (.integer 1)]

def missing : Error := .validation (.notNullable "we\"ird t" "it's, here); --")

def patient : List UpdateCall := [
  .set "on" (.boolean true), .equals "at" .null,
  .condition .and ⟨"i\"d", .gt, .integer 5⟩, .condition .or ⟨"it's, here); --", .like, .text "a'%"⟩]

theorem patient_wellFormed : WellFormed diary (patient.flatMap UpdateCall.parts) := by
  refine ⟨by decide, by decide, ?_, ?_⟩
  · have hconditions : conditionsOf (patient.flatMap UpdateCall.parts) =
        [(.filter, ⟨"at", .eq, .null⟩), (.and, ⟨"i\"d", .gt, .integer 5⟩),
          (.or, ⟨"it's, here); --", .like, .text "a'%"⟩)] := rfl
    rw [hconditions, List.forall_mem_cons, List.forall_mem_cons, List.forall_mem_singleton]
    exact ⟨⟨_, rfl, by decide⟩, ⟨_, rfl, by decide⟩, _, rfl, by decide⟩
  · simp [patient, UpdateCall.parts, assignedOf, Part.assigned?, Assignable, diary, Schema.column?,
      ColumnType.validate, Value.kind?, ColumnType.plainBoolean, ColumnType.admits]

theorem hasty_and_patient :
    (Blames diary (hasty.flatMap UpdateCall.parts) missing ∧
      (Update.ofCalls .postgres diary hasty).conditions.check = .error missing ∧
      (Update.ofCalls .sqlite diary hasty).conditions.check = .error missing) ∧
    WellFormed diary (patient.flatMap UpdateCall.parts) ∧
      (Update.ofCalls .sqlite diary patient).conditions.check = .ok () ∧
      (Update.ofCalls .sqlite diary patient).conditions.fragments =
        ["\"at\" IS NULL", "AND \"i\"\"d\" > 5", "OR \"it's, here); --\" LIKE 'a''%'"] ∧
      (Update.ofCalls .sqlite diary patient).assignments = ["\"on\" = 1"] := by
  have hbefore : WellFormed diary
      [.assign ("on", .boolean true), .condition .filter ⟨"at", .eq, .null⟩,
        .assign ("on", .null)] := by
    refine ⟨by decide, by decide, ?_, ?_⟩
    · simp [conditionsOf, Part.condition?, Comparison.Fits, diary, Schema.column?]
    · simp [assignedOf, Part.assigned?, Assignable, diary, Schema.column?, ColumnType.validate,
        Value.kind?, ColumnType.plainBoolean, ColumnType.admits]
  have hcolumn : diary.column? "it's, here); --" =
      some { name := "it's, here); --", type := .plainString, nullable := false } := by
    decide +kernel
  have hblames : Blames diary (hasty.flatMap UpdateCall.parts) missing :=
    ⟨_, .assign ("it's, here); --", .null), _, rfl, hbefore,
      .assign (.notNullable hcolumn rfl rfl)⟩
  obtain ⟨-, hupdates, -⟩ := chains_judged (Model.ofSchema "Diary" diary) diary
  obtain ⟨hjudged, -⟩ := hupdates hasty
  obtain ⟨haccepted, -⟩ := hupdates patient
  have hrendered := haccepted.rendered patient_wellFormed .sqlite
  obtain ⟨hconditions, hassignments⟩ := hrendered
  have hfirst : conditionSql .sqlite diary "at" .eq .null = .ok "\"at\" IS NULL" := by
    decide +kernel
  have hsecond : conditionSql .sqlite diary "i\"d" .gt (.integer 5) = .ok "\"i\"\"d\" > 5" := by
    decide +kernel
  have hthird : conditionSql .sqlite diary "it's, here); --" .like (.text "a'%") =
      .ok "\"it's, here); --\" LIKE 'a''%'" := by decide +kernel
  have hassigned : assignmentSql .sqlite diary "on" (.boolean true) = .ok "\"on\" = 1" := by
    decide +kernel
  refine ⟨⟨hblames, (hjudged.refused .postgres missing).2 hblames,
    (hjudged.refused .sqlite missing).2 hblames⟩, patient_wellFormed,
    (haccepted.accepted .sqlite).2 patient_wellFormed, ?_, ?_⟩
  · generalize (Update.ofCalls .sqlite diary patient).conditions.fragments = fragments
      at hconditions ⊢
    rcases hconditions with
      _ | ⟨⟨_, _, hsql, -, -, rfl⟩, _ | ⟨⟨_, _, hsql', -, -, rfl⟩,
        _ | ⟨⟨_, _, hsql'', -, -, rfl⟩, _ | _⟩⟩⟩
    cases hfirst.symm.trans hsql
    cases hsecond.symm.trans hsql'
    cases hthird.symm.trans hsql''
    rfl
  · generalize (Update.ofCalls .sqlite diary patient).assignments = assignments
      at hassignments ⊢
    rcases hassignments with _ | ⟨⟨_, hsql, -, -⟩, _ | _⟩
    cases hassigned.symm.trans hsql
    rfl

end Sample

end RecordMapper
