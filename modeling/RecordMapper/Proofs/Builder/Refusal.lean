import RecordMapper.Proofs.Builder.Faults

namespace RecordMapper

def Request.lead? : List Request → Option Request
  | [] => none
  | report .. :: rs => lead? rs
  | r :: _ => some r

open Request

theorem lead_mistake {error? : Option Error} {rs : List Request} {e : Error}
    (h : lead? (mistake error? ++ rs) = some (.fail e)) :
    error? = some e ∨ error? = none ∧ lead? rs = some (.fail e) := by
  cases error? with
  | none => exact .inr ⟨rfl, h⟩
  | some e' =>
    cases h
    exact .inl rfl

namespace Insert

theorem toSql_of_items {b : Insert} {first : InsertItem} {rest : List InsertItem}
    (h : b.items = first :: rest) :
    (∃ other ∈ first :: rest, first.ident ≠ other.ident ∧
        b.toSql = .error (.differentModels
          (.found first.record.schema.table other.record.schema.table))) ∨
      (∀ x ∈ first :: rest, x.ident = first.ident) ∧
        b.toSql = ((first :: rest).mapM fun x => rowSql b.dialect first.record.schema x.record).map
          fun rows => some (Statement.insert first.record.schema.table
            first.record.schema.columnNames rows
            (first.record.schema.primaryKey?.map Column.name)) := by
  cases hfind : (first :: rest).find? fun item => item.ident ≠ first.ident with
  | some other =>
    refine .inl ⟨other, List.mem_of_find?_eq_some hfind, ?_, by simp only [toSql, h, hfind]⟩
    intro heq
    simpa [heq] using List.find?_some hfind
  | none =>
    refine .inr ⟨fun x hx => by simpa using List.find?_eq_none.1 hfind x hx, ?_⟩
    simp only [toSql, h, hfind]
    cases (first :: rest).mapM fun x => rowSql b.dialect first.record.schema x.record <;> rfl

end Insert

namespace Task

variable {d : Dialect}

theorem fault_of_toSql {xs : List Entity} {e : Error} (h : (Insert.ofItems d xs).toSql = .error e) :
    (insert xs).Fault d e := by
  have hitems := Insert.ofItems_items d xs
  cases hall : xs.filterMap Entity.item? with
  | nil =>
    rw [hall] at hitems
    simp [Insert.toSql, hitems] at h
  | cons first rest =>
    rw [hall] at hitems
    have hfirst : first ∈ first :: rest := List.mem_cons_self ..
    rcases Insert.toSql_of_items hitems with ⟨other, hother, hne, htoSql⟩ | ⟨_, htoSql⟩
    · cases htoSql.symm.trans h
      exact .mixed (hall ▸ hfirst) (hall ▸ hother) hne
    · rw [htoSql] at h
      cases hrows : (first :: rest).mapM fun x =>
          Insert.rowSql (Insert.ofItems d xs).dialect first.record.schema x.record with
      | ok rows =>
        rw [hrows] at h
        contradiction
      | error e' =>
        rw [hrows] at h
        cases h
        obtain ⟨x, hx, hrow⟩ := mapM_eq_error hrows
        obtain ⟨p, hp, hliteral⟩ := mapM_eq_error hrow
        exact .value hall hx hp (Insert.ofItems_dialect d xs ▸ hliteral)

theorem error_of_toSql {xs : List Entity} {first : InsertItem} {rest : List InsertItem}
    (hall : xs.filterMap Entity.item? = first :: rest)
    (h : ∃ x ∈ first :: rest, x.ident ≠ first.ident ∨
      ∃ p ∈ first.record.schema.columns.zip x.record.values, ∃ e,
        p.1.type.literal d p.2 = .error e) : ∃ e, (Insert.ofItems d xs).toSql = .error e := by
  have hitems := (Insert.ofItems_items d xs).trans hall
  rcases Insert.toSql_of_items hitems with ⟨_, _, _, htoSql⟩ | ⟨hsame, htoSql⟩
  · exact ⟨_, htoSql⟩
  · obtain ⟨x, hx, hne | ⟨p, hp, e, he⟩⟩ := h
    · exact absurd (hsame x hx) hne
    · rw [Insert.ofItems_dialect] at htoSql
      obtain ⟨e', hrow⟩ : ∃ e', Insert.rowSql d first.record.schema x.record = .error e' :=
        exists_mapM_eq_error hp he
      obtain ⟨e'', hrows⟩ := exists_mapM_eq_error
        (f := fun x : InsertItem => Insert.rowSql d first.record.schema x.record) hx hrow
      exact ⟨e'', by rw [htoSql, hrows]; rfl⟩

theorem assigned_eq_nil {s : Schema} {calls : List UpdateCall}
    (herror : (Update.ofCalls d s calls).conditions.error = none) :
    (Update.ofCalls d s calls).assignments = [] ↔ calls.flatMap UpdateCall.assigned = [] := by
  have hsay := (Update.say_ofCalls herror).assignments
  rw [← List.length_eq_zero_iff, ← List.length_eq_zero_iff, hsay.length_eq]

theorem fault_of_lead {t : Task} {e : Error} (h : lead? (t.requests d) = some (.fail e)) :
    t.Fault d e := by
  cases t with
  | first m calls =>
    rcases lead_mistake h with h | ⟨_, h⟩
    · exact .first h
    · cases h
  | all m calls =>
    rcases lead_mistake h with h | ⟨_, h⟩
    · exact .all h
    · cases h
  | insert xs =>
    rcases lead_mistake h with h | ⟨_, h⟩
    · rw [Insert.ofItems_error] at h
      obtain ⟨x, hx, hfailure⟩ := List.exists_of_findSome?_eq_some h
      exact .record hx (Entity.failure?_eq_some.1 hfailure)
    · split at h
      · rename_i e' htoSql
        cases h
        exact fault_of_toSql htoSql
      · cases h
      · cases h
  | update s calls =>
    rw [requests, action, Action.requests, List.append_assoc] at h
    rcases lead_mistake h with h | ⟨hnone, h⟩
    · exact .update h
    · split at h
      · rename_i hassignments
        cases h
        exact .unset ((assigned_eq_nil hnone).1 hassignments)
      · cases h
  | delete s calls =>
    rcases lead_mistake h with h | ⟨_, h⟩
    · exact .delete h
    · cases h
  | createTable s =>
    rw [requests, action, Action.requests] at h
    split at h
    · rename_i e' hsql
      cases h
      rcases except_bind_eq_error hsql with hsql | ⟨columns, _, hsql⟩
      · obtain ⟨col, hcol, hsql⟩ := mapM_eq_error hsql
        exact .column hcol hsql
      · contradiction
    · cases h
  | addColumn table col =>
    rw [requests, action, Action.requests, lead?] at h
    split at h
    · rename_i e' hsql
      cases h
      exact .addedColumn hsql
    · cases h
  | _ => cases h

theorem lead_of_fault {t : Task} {e : Error} (h : t.Fault d e) :
    ∃ e', lead? (t.requests d) = some (.fail e') := by
  have hbatch : ∀ {xs : List Entity} {e : Error}, (Insert.ofItems d xs).toSql = .error e →
      ∃ e', lead? ((insert xs).requests d) = some (.fail e') := by
    intro xs e htoSql
    rw [requests, action, Action.requests, htoSql]
    cases (Insert.ofItems d xs).error with
    | none => exact ⟨e, rfl⟩
    | some e' => exact ⟨e', rfl⟩
  cases h with
  | first herror =>
    rw [requests, action, Action.requests, herror]
    exact ⟨e, rfl⟩
  | all herror =>
    rw [requests, action, Action.requests, herror]
    exact ⟨e, rfl⟩
  | update herror =>
    rw [requests, action, Action.requests, herror]
    exact ⟨e, rfl⟩
  | @unset s calls hassigned =>
    rw [requests, action, Action.requests]
    cases herror : (Update.ofCalls d s calls).conditions.error with
    | some e' => exact ⟨e', rfl⟩
    | none =>
      rw [if_pos ((assigned_eq_nil herror).2 hassigned)]
      exact ⟨_, rfl⟩
  | delete herror =>
    rw [requests, action, Action.requests, herror]
    exact ⟨e, rfl⟩
  | @record xs x e hx hrecord =>
    rw [requests, action, Action.requests, Insert.ofItems_error]
    cases hfailure : xs.findSome? Entity.failure? with
    | some e' => exact ⟨e', rfl⟩
    | none =>
      have := List.findSome?_eq_none_iff.1 hfailure x hx
      rw [Entity.failure?_eq_some.2 hrecord] at this
      contradiction
  | @mixed xs x y hx hy hne =>
    cases hall : xs.filterMap Entity.item? with
    | nil => simp [hall] at hx
    | cons first rest =>
      rw [hall] at hx hy
      -- of two models, one is not the first item's
      obtain ⟨e, he⟩ : ∃ e, (Insert.ofItems d xs).toSql = .error e := by
        by_cases hfirst : x.ident = first.ident
        · exact error_of_toSql hall ⟨y, hy, .inl fun h => hne (hfirst.trans h.symm)⟩
        · exact error_of_toSql hall ⟨x, hx, .inl hfirst⟩
      exact hbatch he
  | @value xs x first rest p e hall hx hp hliteral =>
    obtain ⟨e, he⟩ := error_of_toSql hall ⟨x, hx, .inr ⟨p, hp, e, hliteral⟩⟩
    exact hbatch he
  | @column s col e hcol hsql =>
    obtain ⟨e', hall⟩ := exists_mapM_eq_error hcol hsql
    have hcreate : Migration.createTableSql d s = .error e' := by
      rw [Migration.createTableSql, hall]
      rfl
    rw [requests, action, Action.requests, hcreate]
    exact ⟨e', rfl⟩
  | addedColumn hsql =>
    rw [requests, action, Action.requests, hsql]
    exact ⟨e, rfl⟩

theorem nil_of_toSql {xs : List Entity} (herror : (Insert.ofItems d xs).error = none)
    (h : (Insert.ofItems d xs).toSql = .ok none) : xs = [] := by
  rw [Insert.ofItems_error, List.findSome?_eq_none_iff] at herror
  cases hall : xs.filterMap Entity.item? with
  | cons first rest =>
    have hitems := (Insert.ofItems_items d xs).trans hall
    rcases Insert.toSql_of_items hitems with ⟨_, _, _, htoSql⟩ | ⟨_, htoSql⟩
    · rw [htoSql] at h
      contradiction
    · rw [htoSql] at h
      obtain ⟨_, _, h⟩ := except_map_eq_ok h
      contradiction
  | nil =>
    -- every instance either gives a record or fails
    refine List.eq_nil_iff_forall_not_mem.2 fun x hx => ?_
    have hitem := List.filterMap_eq_nil_iff.1 hall x hx
    have hfailure := herror x hx
    rw [Entity.item?] at hitem
    rw [Entity.failure?] at hfailure
    cases hrecord : x.record with
    | ok r => simp [hrecord, Except.toOption] at hitem
    | error e => simp [hrecord] at hfailure

theorem requests_cases (d : Dialect) (t : Task) :
    t = .insert [] ∧ t.requests d = [] ∨
      (∃ e, lead? (t.requests d) = some (.fail e)) ∨
      (∃ call, lead? (t.requests d) = some (.statement call)) ∧
        ∀ e, .fail e ∉ t.requests d := by
  cases t with
  | first m calls =>
    rw [requests, action, Action.requests]
    cases (Query.ofCalls d m calls).conditions.error with
    | some e => exact .inr (.inl ⟨e, rfl⟩)
    | none => exact .inr (.inr ⟨⟨_, rfl⟩, by simp [mistake]⟩)
  | all m calls =>
    rw [requests, action, Action.requests]
    cases (Query.ofCalls d m calls).conditions.error with
    | some e => exact .inr (.inl ⟨e, rfl⟩)
    | none => exact .inr (.inr ⟨⟨_, rfl⟩, by simp [mistake]⟩)
  | insert xs =>
    rw [requests, action, Action.requests]
    cases herror : (Insert.ofItems d xs).error with
    | some e => exact .inr (.inl ⟨e, rfl⟩)
    | none =>
      cases htoSql : (Insert.ofItems d xs).toSql with
      | error e => exact .inr (.inl ⟨e, rfl⟩)
      | ok sql? =>
        cases sql? with
        | some sql => exact .inr (.inr ⟨⟨_, rfl⟩, by simp [mistake]⟩)
        | none =>
          obtain rfl := nil_of_toSql herror htoSql
          exact .inl ⟨rfl, rfl⟩
  | update s calls =>
    rw [requests, action, Action.requests]
    cases (Update.ofCalls d s calls).conditions.error with
    | some e => exact .inr (.inl ⟨e, rfl⟩)
    | none =>
      split
      · exact .inr (.inl ⟨_, rfl⟩)
      · exact .inr (.inr ⟨⟨_, rfl⟩, by simp [mistake, change]⟩)
  | delete s calls =>
    rw [requests, action, Action.requests]
    cases (Delete.ofCalls d s calls).conditions.error with
    | some e => exact .inr (.inl ⟨e, rfl⟩)
    | none => exact .inr (.inr ⟨⟨_, rfl⟩, by simp [mistake, change]⟩)
  | createTable s =>
    rw [requests, action, Action.requests]
    cases Migration.createTableSql d s with
    | error e => exact .inr (.inl ⟨e, rfl⟩)
    | ok sql => exact .inr (.inr ⟨⟨_, rfl⟩, by simp [change]⟩)
  | addColumn table col =>
    rw [requests, action, Action.requests]
    cases col.sql d with
    | error e => exact .inr (.inl ⟨e, rfl⟩)
    | ok sql =>
      refine .inr (.inr ⟨⟨_, rfl⟩, ?_⟩)
      simp only
      split <;> simp [change]
  | _ => exact .inr (.inr ⟨⟨_, rfl⟩, by simp [requests, action, Action.requests, change]⟩)

end Task

end RecordMapper
