import RecordMapper.Connection.Scripted
import RecordMapper.Proofs.Builder.Chains
import RecordMapper.Proofs.Database.Transactions
import RecordMapper.Proofs.Except
import RecordMapper.Proofs.Session.Runs

namespace RecordMapper

open Session

namespace Model

variable {m : Model α} {rows : List Row}

/-- What rows come to: an instance for each of them, in their order, or the error of the earliest of
those that cannot be read. -/
def Decodes (m : Model α) (rows : List Row) : Except Error (List α) → Prop
  | .ok as => List.Forall₂ (fun row a => m.ofRow row = .ok a) rows as
  | .error e => ∃ (i : Nat) (row : Row), rows[i]? = some row ∧ m.ofRow row = .error e ∧
      ∀ j < i, ∀ x, rows[j]? = some x → ∃ a, m.ofRow x = .ok a

theorem decodes_mapM (m : Model α) (rows : List Row) : m.Decodes rows (rows.mapM m.ofRow) := by
  cases h : rows.mapM m.ofRow with
  | ok as => exact forall₂_of_mapM h
  | error e => exact mapM_eq_error_iff.1 h

def ofRow? (m : Model α) : Option Row → Except Error (Option α)
  | none => .ok none
  | some row => (m.ofRow row).map some

theorem ofRow_head {as : List α} (h : rows.mapM m.ofRow = .ok as) :
    m.ofRow? rows.head? = .ok as.head? := by
  cases forall₂_of_mapM h with
  | nil => rfl
  | cons hrow _ => rw [List.head?_cons, List.head?_cons, ofRow?, hrow]; rfl

theorem error_of_head {e : Error} (h : m.ofRow? rows.head? = .error e) :
    rows.mapM m.ofRow = .error e := by
  cases rows with
  | nil => contradiction
  | cons row rows =>
    have hrow : m.ofRow row = .error e := except_map_eq_error h
    rw [List.mapM_cons, hrow]
    rfl

end Model

/-- Whether a connection, asked for one row by one text, answers with the first of the rows that it
answers with when asked for all of them by another, and fails alike. -/
def Connection.LeadsWith (c : Connection σ) (one all : String) (l : σ) : Prop :=
  (c.fetchOptional one l).1 = (c.fetchAll all l).1.map List.head?

namespace Query

variable (c : Connection σ) (q : Query α)

def pose : SessionM σ Unit := do
  Session.liftExcept q.conditions.check
  beginIfNeeded c

theorem all_apply (s : Session σ) :
    q.all c s = match q.pose c s with
      | (.ok _, t) =>
        ((c.fetchAll q.toSql t.link).1 >>= fun rows => rows.mapM q.model.ofRow,
          t.sent c ⟨.fetchAll, q.toSql⟩)
      | (.error e, t) => (.error e, t) := by
  simp only [all, pose, fetchAll, bind_apply, liftExcept_apply]
  cases q.conditions.check with
  | error e => rfl
  | ok u =>
    simp only
    generalize beginIfNeeded c s = r
    obtain ⟨e | u, t⟩ := r
    · rfl
    · simp only [call, sent, Call.send]
      cases (c.fetchAll q.toSql t.link).1 <;> rfl

theorem first_apply (s : Session σ) :
    q.first c s = match q.pose c s with
      | (.ok _, t) =>
        ((c.fetchOptional q.atMostOne.toSql t.link).1 >>= q.model.ofRow?,
          t.sent c ⟨.fetchOptional, q.atMostOne.toSql⟩)
      | (.error e, t) => (.error e, t) := by
  simp only [first, pose, fetchOne, bind_apply, liftExcept_apply]
  cases q.conditions.check with
  | error e => rfl
  | ok u =>
    simp only
    generalize beginIfNeeded c s = r
    obtain ⟨e | u, t⟩ := r
    · rfl
    · simp only [call, sent, Call.send]
      cases (c.fetchOptional q.atMostOne.toSql t.link).1 with
      | error e => rfl
      | ok row =>
        cases row with
        | none => rfl
        | some row => simp [map_apply, Model.ofRow?, bind, Except.bind]

variable {c q} {s t : Session σ} {e : Error}

theorem all_of_pose (h : q.pose c s = (.ok (), t)) :
    q.all c s = ((c.fetchAll q.toSql t.link).1 >>= fun rows => rows.mapM q.model.ofRow,
      t.sent c ⟨.fetchAll, q.toSql⟩) := by
  rw [all_apply, h]

theorem first_of_pose (h : q.pose c s = (.ok (), t)) :
    q.first c s = ((c.fetchOptional q.atMostOne.toSql t.link).1 >>= q.model.ofRow?,
      t.sent c ⟨.fetchOptional, q.atMostOne.toSql⟩) := by
  rw [first_apply, h]

theorem all_of_unposed (h : q.pose c s = (.error e, t)) : q.all c s = (.error e, t) := by
  rw [all_apply, h]

theorem first_of_unposed (h : q.pose c s = (.error e, t)) : q.first c s = (.error e, t) := by
  rw [first_apply, h]

theorem decodes_of_pose (h : q.pose c s = (.ok (), t)) {rows : List Row}
    (hrows : (c.fetchAll q.toSql t.link).1 = .ok rows) : q.model.Decodes rows (q.all c s).1 := by
  rw [all_of_pose h, hrows]
  exact q.model.decodes_mapM rows

theorem first_of_all
    (hc : ∀ t, q.pose c s = (.ok (), t) → c.LeadsWith q.atMostOne.toSql q.toSql t.link)
    {as : List α} (h : (q.all c s).1 = .ok as) : (q.first c s).1 = .ok as.head? := by
  cases hpose : q.pose c s with
  | mk result t =>
    cases result with
    | error e =>
      rw [all_of_unposed hpose] at h
      contradiction
    | ok u =>
      rw [all_of_pose hpose] at h
      obtain ⟨rows, hrows, hread⟩ := except_bind_eq_ok h
      rw [first_of_pose hpose, hc t hpose, hrows]
      exact Model.ofRow_head hread

theorem all_of_error
    (hc : ∀ t, q.pose c s = (.ok (), t) → c.LeadsWith q.atMostOne.toSql q.toSql t.link)
    (h : (q.first c s).1 = .error e) : (q.all c s).1 = .error e := by
  cases hpose : q.pose c s with
  | mk result t =>
    cases result with
    | error e' =>
      rw [first_of_unposed hpose] at h
      cases h
      rw [all_of_unposed hpose]
    | ok u =>
      rw [first_of_pose hpose, hc t hpose] at h
      rw [all_of_pose hpose]
      cases hrows : (c.fetchAll q.toSql t.link).1 with
      | error e' =>
        rw [hrows] at h
        cases h
        rfl
      | ok rows =>
        rw [hrows] at h
        exact Model.error_of_head h

theorem toSql_limited {q : Query α} (h : q.limit? ≠ none) : q.atMostOne.toSql = q.toSql := by
  obtain ⟨n, hn⟩ := Option.ne_none_iff_exists'.1 h
  simp [atMostOne, toSql, hn]

theorem toSql_unlimited {q : Query α} (h : q.limit? = none) :
    ∃ body, q.toSql = body ++ ";" ∧ q.atMostOne.toSql = body ++ " LIMIT 1;" := by
  have hone : q.atMostOne.limit? = some 1 := by rw [atMostOne, h]; rfl
  have hlimit : " LIMIT " ++ String.ofList (Numeral.digits 1) ++ ";" = " LIMIT 1;" := rfl
  refine ⟨"SELECT " ++ (if q.model.schema.columnNames = [] then "*"
      else Statement.nameList q.model.schema.columnNames) ++ " FROM " ++
      quoteName q.model.schema.table ++ Statement.whereClause q.conditions.fragments,
    ?_, ?_⟩
  · simp only [toSql, Statement.select, h, String.append_empty]
  · simp only [toSql, Statement.select, hone]
    rw [String.append_assoc, hlimit]
    rfl

end Query

namespace Script

theorem leadsWith {one all : String} (hone : isTransactional one = false)
    (hall : isTransactional all = false) (l : Script) : connection.LeadsWith one all l := by
  show (run (fun _ => none) List.head? one l).1 = (run (fun _ => []) id all l).1.map List.head?
  rw [run, run, hone, hall, if_neg Bool.false_ne_true, if_neg Bool.false_ne_true, reply, reply]
  cases l.replies with
  | nil => rfl
  | cons r replies => cases r <;> rfl

end Script

namespace Database

open Sql

theorem Store.select_one (s : Store) (table : String) (columns : List String) (f : Filter) :
    (s.select table columns f (some 1)).map (fun a => a.rows.head?) =
      (s.select table columns f none).map fun a => a.rows.head? := by
  rw [select, select]
  cases s.table table with
  | error refusal => rfl
  | ok t =>
    have hone : checkLimit (some 1) = .ok () := rfl
    simp only [hone, bind, Except.bind]
    simp [checkLimit, Except.map, pure, Except.pure, List.head?_take]

variable (db : Database)

theorem answer_select {sql table : String} {columns : List String} {f : Filter}
    {limit : Option Nat} (hread : Command.read? sql = some (.select table columns f limit)) :
    (db.answer sql).map Prod.fst = if '\x00' ∈ sql.toList then .error .unsupported
      else db.visible.select table columns f limit := by
  rw [db.answer_of_read hread]
  split
  · rfl
  · simp only [perform, Store.apply]
    cases db.visible.select table columns f limit <;> rfl

theorem leadsWith_of_answer {one all : String}
    (h : ((db.answer one).map Prod.fst).map (fun a => a.rows.head?) =
      ((db.answer all).map Prod.fst).map fun a => a.rows.head?) :
    connection.LeadsWith one all db := by
  show (run (fun a _ => a.rows.head?) one db).1 =
    (run (fun a _ => a.rows) all db).1.map List.head?
  rw [run, run]
  cases hone : db.answer one <;> cases hall : db.answer all <;>
    simp_all [Except.map]

theorem leadsWith {d : Dialect} {m : Model α} {calls : List QueryCall}
    (h : (Query.ofCalls d m calls).conditions.error = none) :
    connection.LeadsWith (Query.ofCalls d m calls).atMostOne.toSql
      (Query.ofCalls d m calls).toSql db := by
  have hsay := Query.say_ofCalls h
  generalize Query.ofCalls d m calls = q at hsay
  refine db.leadsWith_of_answer ?_
  by_cases hlimit : q.limit? = none
  · obtain ⟨f, -, hread⟩ := hsay.read_limited
    have hone := hread (q.limit?.or (some 1))
    have hall := hread q.limit?
    change Command.read? q.atMostOne.toSql = _ at hone
    change Command.read? q.toSql = _ at hall
    rw [hlimit] at hone hall
    obtain ⟨body, hbody, hbodyOne⟩ := Query.toSql_unlimited hlimit
    have htext : '\x00' ∈ q.atMostOne.toSql.toList ↔ '\x00' ∈ q.toSql.toList := by
      rw [hbody, hbodyOne, String.toList_append, String.toList_append]
      simp
    rw [db.answer_select hone, db.answer_select hall]
    by_cases hnul : '\x00' ∈ q.toSql.toList
    · rw [if_pos (htext.2 hnul), if_pos hnul]
    · rw [if_neg (mt htext.1 hnul), if_neg hnul]
      exact Store.select_one ..
  · rw [Query.toSql_limited hlimit]

end Database

open Query

/-- Of one chain of calls, the query for one row gives the first of the instances that the query for
all gives, and fails with the error of that one. If the chain has no mistake and a transaction is
open or can be begun, each sends its text, the first with a limit of one row if none was set; and
the rows that answer the second become instances up to the earliest that cannot be read. If not,
neither sends anything more. -/
theorem first_agrees {c : Connection σ} (d : Dialect) (m : Model α) (calls : List QueryCall)
    (s : Session (σ × List Call))
    (hc : ∀ t, (ofCalls d m calls).pose c.traced s = (.ok (), t) →
      c.LeadsWith (ofCalls d m calls).atMostOne.toSql (ofCalls d m calls).toSql t.link.1) :
    let q := ofCalls d m calls
    let all := q.all c.traced s
    let first := q.first c.traced s
    (∀ as, all.1 = .ok as → first.1 = .ok as.head?) ∧
    (∀ e, first.1 = .error e → all.1 = .error e) ∧
    (∀ t, q.pose c.traced s = (.ok (), t) →
      (∀ rows, (c.fetchAll q.toSql t.link.1).1 = .ok rows → m.Decodes rows all.1) ∧
      all.2.link.2 = t.link.2 ++ [⟨.fetchAll, q.toSql⟩] ∧
      first.2.link.2 = t.link.2 ++ [⟨.fetchOptional, q.atMostOne.toSql⟩]) ∧
    (∀ e t, q.pose c.traced s = (.error e, t) → all = (.error e, t) ∧ first = (.error e, t)) ∧
    (QueryCall.lastLimit? calls = none →
      ∃ body, q.toSql = body ++ ";" ∧ q.atMostOne.toSql = body ++ " LIMIT 1;") ∧
    (QueryCall.lastLimit? calls ≠ none → q.atMostOne.toSql = q.toSql) := by
  intro q all first
  have hmodel : q.model = m := (frame_ofCalls d m calls).2.1
  have hlimit : q.limit? = QueryCall.lastLimit? calls := (frame_ofCalls d m calls).2.2
  refine ⟨fun as => first_of_all hc, fun e => all_of_error hc, fun t hpose => ⟨?_, ?_, ?_⟩,
    fun e t hpose => ⟨all_of_unposed hpose, first_of_unposed hpose⟩,
    fun h => toSql_unlimited (hlimit.trans h), fun h => toSql_limited (hlimit ▸ h)⟩
  · intro rows hrows
    have hdecodes := decodes_of_pose hpose hrows
    rwa [hmodel] at hdecodes
  · show (q.all c.traced s).2.link.2 = _
    rw [all_of_pose hpose]
    rfl
  · show (q.first c.traced s).2.link.2 = _
    rw [first_of_pose hpose]
    rfl

namespace Sample

def tally : Model (Fields [⟨"count", .int64⟩]) :=
  .ofBindings "Tally" { table := "tally", columns := [{ name := "count", type := .plainInteger }] }
    [⟨"count", .int64⟩]

def counted (rows : List Row) : Session (Script × List Call) where
  dialect := .sqlite
  link := ({ replies := [.rows rows] }, [])
  connected := true

def positives : List QueryCall := [.condition .filter ⟨"count", .gt, .integer 0⟩]

def positive : Query (Fields [⟨"count", .int64⟩]) := .ofCalls .sqlite tally positives

theorem positive_leads (l : Script) :
    Script.connection.LeadsWith positive.atMostOne.toSql positive.toSql l :=
  Script.leadsWith (by decide +kernel) (by decide +kernel) l

theorem counted_first :
    let read := counted [[.integer 7], [.integer 8]]
    let unread := counted [[.text "nine"], [.integer 8]]
    let refusal := Error.validation (.badValue (.text "nine") "tally" "count")
    (∀ l, Script.connection.LeadsWith positive.atMostOne.toSql positive.toSql l) ∧
    (positive.all Script.connection.traced read).1 = .ok [.cons 7 .nil, .cons 8 .nil] ∧
    (positive.first Script.connection.traced read).1 = .ok (some (.cons 7 .nil)) ∧
    (positive.first Script.connection.traced read).2.link.2 = [.begin,
      ⟨.fetchOptional, "SELECT \"count\" FROM \"tally\" WHERE \"count\" > 0 LIMIT 1;"⟩] ∧
    (positive.first Script.connection.traced unread).1 = .error refusal ∧
    (positive.all Script.connection.traced unread).1 = .error refusal := by
  intro read unread refusal
  have hread : (positive.all Script.connection.traced read).1 =
    .ok [.cons 7 .nil, .cons 8 .nil] := rfl
  have hunread : (positive.first Script.connection.traced unread).1 = .error refusal := rfl
  obtain ⟨hfirst, -, hsent, -⟩ := first_agrees .sqlite tally positives read
    fun t _ => positive_leads t.link.1
  obtain ⟨-, herror, -⟩ := first_agrees .sqlite tally positives unread
    fun t _ => positive_leads t.link.1
  exact ⟨positive_leads, hread, hfirst _ hread, (hsent _ rfl).2.2, hunread, herror _ hunread⟩

end Sample

end RecordMapper
