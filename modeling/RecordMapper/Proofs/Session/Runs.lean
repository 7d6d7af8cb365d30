import RecordMapper.Proofs.Session.Ordinary

namespace RecordMapper

namespace Call

def send (c : Connection σ) (call : Call) (l : σ) : Except Error Unit × σ :=
  match call.kind with
  | .execute => ((c.execute call.sql l).1.map fun _ => (), (c.execute call.sql l).2)
  | .fetchOptional =>
    ((c.fetchOptional call.sql l).1.map fun _ => (), (c.fetchOptional call.sql l).2)
  | .fetchAll => ((c.fetchAll call.sql l).1.map fun _ => (), (c.fetchAll call.sql l).2)

def begin : Call := ⟨.execute, "BEGIN"⟩

def commit : Call := ⟨.execute, "COMMIT"⟩

def rollback : Call := ⟨.execute, "ROLLBACK"⟩

end Call

namespace Session

def sent (c : Connection σ) (call : Call) (s : Session σ) : Session σ :=
  { s with link := (call.send c s.link).2, log := s.log ++ c.announce call.sql }

def warned (s : Session σ) : Session σ :=
  if s.pendingWrites = true then
    s.logged .warn "Session disconnected with uncommitted changes, rolling back"
  else s

def rolledBack (c : Connection σ) (s : Session σ) : Session σ :=
  { s.warned with inTransaction := false, pendingWrites := false }.sent c .rollback

def ended (s : Session σ) : Session σ :=
  { s with connected := false }.logged .info ("Session disconnected (" ++ s.dialect.name ++ ")")

@[simp] theorem rolledBack_link (c : Connection σ) (s : Session σ) :
    (s.rolledBack c).link = (Call.rollback.send c s.link).2 := by
  rw [rolledBack, sent, warned]
  split <;> rfl

@[simp] theorem rolledBack_inTransaction (c : Connection σ) (s : Session σ) :
    (s.rolledBack c).inTransaction = false := rfl

@[simp] theorem ended_link (s : Session σ) : s.ended.link = s.link := rfl

@[simp] theorem ended_inTransaction (s : Session σ) :
    s.ended.inTransaction = s.inTransaction := rfl

variable (c : Connection σ)

theorem beginIfNeeded_apply (s : Session σ) :
    beginIfNeeded c s =
      if s.connected = false then (.error (.invalidArgument .notConnected), s)
      else if s.inTransaction = true then (.ok (), s)
      else match (Call.begin.send c s.link).1 with
        | .ok _ => (.ok (), { s.sent c .begin with inTransaction := true })
        | .error e => (.error e, s.sent c .begin) := by
  rw [beginIfNeeded, get_bind_apply]
  cases s.connected with
  | false => simp
  | true =>
    cases s.inTransaction with
    | true => simp
    | false =>
      simp only [Bool.not_true, Bool.false_eq_true, if_false, Bool.not_false, if_true,
        bind_apply, discard_apply, call, Call.send, Call.begin, sent, modify_apply,
        Bool.true_eq_false]
      cases (c.execute "BEGIN" s.link).1 <;> rfl

inductive Begins (s : Session σ) : Except Error Unit → Session σ → Prop
  | refused : s.connected = false → Begins s (.error (.invalidArgument .notConnected)) s
  | already : s.connected = true → s.inTransaction = true → Begins s (.ok ()) s
  | began {l : σ} : s.connected = true → s.inTransaction = false →
      Call.begin.send c s.link = (.ok (), l) →
      Begins s (.ok ()) { s.sent c .begin with inTransaction := true }
  | failed {l : σ} {e : Error} : s.connected = true → s.inTransaction = false →
      Call.begin.send c s.link = (.error e, l) → Begins s (.error e) (s.sent c .begin)

theorem begins_of_eq {s s' : Session σ} {result : Except Error Unit}
    (h : beginIfNeeded c s = (result, s')) : Begins c s result s' := by
  rw [beginIfNeeded_apply] at h
  cases hconnected : s.connected with
  | false =>
    rw [if_pos hconnected] at h
    cases h
    exact .refused hconnected
  | true =>
    rw [if_neg (by simp [hconnected])] at h
    cases hopen : s.inTransaction with
    | true =>
      rw [if_pos hopen] at h
      cases h
      exact .already hconnected hopen
    | false =>
      rw [if_neg (by simp [hopen])] at h
      cases hsend : Call.begin.send c s.link with
      | mk answer l =>
        rw [hsend] at h
        cases answer with
        | ok u =>
          cases h
          exact .began hconnected hopen hsend
        | error e =>
          cases h
          exact .failed hconnected hopen hsend

theorem statement_apply (call : Call) (s : Session σ) :
    statement c call s = match beginIfNeeded c s with
      | (.ok _, s) =>
        ((call.send c s.link).1,
          { s with
            pendingWrites := s.pendingWrites || decide (call.kind = CallKind.execute) }.sent c call)
      | (.error e, s) => (.error e, s) := by
  obtain ⟨kind, sql⟩ := call
  cases kind
  all_goals
    simp only [statement, execute, fetchOne, fetchAll, discard_apply, bind_apply]
    generalize beginIfNeeded c s = r
    obtain ⟨e | a, s⟩ := r
    · rfl
    · simp [Call.send, sent, Session.call]

theorem statement_cases {call : Call} {s s' : Session σ} {result : Except Error Unit}
    (h : statement c call s = (result, s')) :
    (∃ e, beginIfNeeded c s = (.error e, s') ∧ result = .error e) ∨
      ∃ begun pendingWrites, beginIfNeeded c s = (.ok (), begun) ∧
        (call.send c begun.link).1 = result ∧ s' = { begun with pendingWrites }.sent c call := by
  rw [statement_apply] at h
  cases hbegin : beginIfNeeded c s with
  | mk answer begun =>
    rw [hbegin] at h
    cases answer with
    | error e =>
      cases h
      exact .inl ⟨e, rfl, rfl⟩
    | ok u =>
      obtain ⟨hresult, hs'⟩ := Prod.mk.inj h
      exact .inr ⟨begun, _, rfl, hresult, hs'.symm⟩

theorem commit_apply (s : Session σ) :
    commit c s =
      if s.inTransaction = true then
        ((Call.commit.send c s.link).1,
          { s with inTransaction := false, pendingWrites := false }.sent c .commit)
      else (.ok (), s) := by
  rw [commit, get_bind_apply]
  split
  · simp [bind_apply, discard_apply, call, Call.send, Call.commit, sent]
  · rfl

theorem disconnect_apply (s : Session σ) :
    disconnect c s =
      if s.connected = false then (.ok (), s)
      else if s.inTransaction = false then (.ok (), s.ended)
      else match (Call.rollback.send c s.link).1 with
        | .ok _ => (.ok (), (s.rolledBack c).ended)
        | .error e => (.error e, s.rolledBack c) := by
  rw [disconnect, get_bind_apply]
  cases s.connected with
  | false => simp
  | true =>
    cases s.inTransaction with
    | false => rfl
    | true =>
      cases hpending : s.pendingWrites <;> cases hresult : (c.execute "ROLLBACK" s.link).1 <;>
        simp [bind_apply, discard_apply, call, Call.send, Call.rollback, sent, report, logged,
          warned, rolledBack, ended, hpending, hresult, Except.map]

theorem disconnect_of_closed {s : Session σ} (h : s.inTransaction = false) :
    (disconnect c s).1 = .ok () ∧ (disconnect c s).2.link = s.link := by
  rw [disconnect_apply]
  split
  · exact ⟨rfl, rfl⟩
  · exact ⟨rfl, rfl⟩

theorem disconnect_of_open {s : Session σ} (hconnected : s.connected = true)
    (h : s.inTransaction = true) :
    (disconnect c s).1 = (Call.rollback.send c s.link).1 ∧
      (disconnect c s).2.link = (Call.rollback.send c s.link).2 := by
  rw [disconnect_apply, if_neg (by simp [hconnected]), if_neg (by simp [h])]
  cases (Call.rollback.send c s.link).1 <;> simp

theorem close_link (s : Session σ) : (s.close c).link = (disconnect c s).2.link := by
  rw [close]
  split
  · rename_i h
    rw [h]
  · rename_i h
    rw [h]
    rfl

end Session

inductive Operation : Type 1
  | connect
  | disconnect
  | act (a : Action)

inductive Event
  | ran (call : Call)
  | committed
  | disconnected

def Request.event? : Request → Option Event
  | statement call => some (.ran call)
  | commit => some .committed
  | _ => none

namespace Session

def fresh (d : Dialect) (link : σ) : Session σ := { dialect := d, link }

def events (c : Connection σ) : List Request → Session σ → List Event
  | [], _ => []
  | r :: rs, s =>
    match meet c r s with
    | (.ok _, s) => r.event?.toList ++ events c rs s
    | (.error _, _) => []

end Session

namespace Operation

def run (c : Connection σ) : Operation → SessionM σ Unit
  | connect => Session.connect
  | disconnect => Session.disconnect c
  | act a => a.run c

def events (c : Connection σ) (s : Session σ) : Operation → List Event
  | connect => []
  | disconnect =>
    match Session.disconnect c s with
    | (.ok _, _) => [.disconnected]
    | (.error _, _) => []
  | act a => Session.events c (a.requests s.dialect) s

def Ordinary : Operation → Prop
  | act a => a.Ordinary
  | _ => True

end Operation

namespace Session

def runAll (c : Connection σ) : List Operation → Session σ → Session σ
  | [], s => s
  | op :: ops, s => runAll c ops (op.run c s).2

def history (c : Connection σ) : List Operation → Session σ → List Event
  | [], _ => []
  | op :: ops, s => op.events c s ++ history c ops (op.run c s).2

/-- What each single thing that can happen to a session keeps, together with what happened. -/
structure Preserves (c : Connection σ) (P : List Event → Session σ → Prop) : Prop where
  connected {es : List Event} {s : Session σ} : P es s → P es { s with connected := true }
  logged {es : List Event} {s : Session σ} (level : LogLevel) (text : String) :
    P es s → P es (s.logged level text)
  ran {es : List Event} {s s' : Session σ} {call : Call} : Ordinary call.sql → P es s →
    statement c call s = (.ok (), s') → P (es ++ [.ran call]) s'
  refused {es : List Event} {s s' : Session σ} {call : Call} {e : Error} : Ordinary call.sql →
    P es s → statement c call s = (.error e, s') → P es s'
  committed {es : List Event} {s s' : Session σ} : P es s → commit c s = (.ok (), s') →
    P (es ++ [.committed]) s'
  uncommitted {es : List Event} {s s' : Session σ} {e : Error} : P es s →
    commit c s = (.error e, s') → P es s'
  disconnected {es : List Event} {s s' : Session σ} : P es s → disconnect c s = (.ok (), s') →
    P (es ++ [.disconnected]) s'
  stayed {es : List Event} {s s' : Session σ} {e : Error} : P es s →
    disconnect c s = (.error e, s') → P es s'

namespace Preserves

variable {c : Connection σ} {P : List Event → Session σ → Prop}

theorem meetAll (h : Preserves c P) {rs : List Request} (hrs : ∀ r ∈ rs, r.Ordinary)
    {es : List Event} {s : Session σ} (hs : P es s) :
    P (es ++ events c rs s) (Session.meetAll c rs s).2 := by
  induction rs generalizing es s with
  | nil => simpa [Session.meetAll, events] using hs
  | cons r rs ih =>
    have hr := hrs r (List.mem_cons_self ..)
    have hrest := fun q hq => hrs q (List.mem_cons_of_mem r hq)
    rw [Session.meetAll, bind_apply, events]
    cases hmeet : meet c r s with
    | mk result next =>
      cases result with
      -- nothing is met after a request that fails
      | error e =>
        cases r with
        | statement call => simpa using h.refused hr hs hmeet
        | commit => simpa using h.uncommitted hs hmeet
        | report level text => cases hmeet
        | fail e =>
          cases hmeet
          simpa using hs
      | ok u =>
        rw [← List.append_assoc]
        refine ih hrest ?_
        cases r with
        | statement call => exact h.ran hr hs hmeet
        | commit => exact h.committed hs hmeet
        | report level text =>
          cases hmeet
          simpa [Request.event?] using h.logged level text hs
        | fail e => cases hmeet

theorem run (h : Preserves c P) {op : Operation} (hop : op.Ordinary) {es : List Event}
    {s : Session σ} (hs : P es s) : P (es ++ op.events c s) (op.run c s).2 := by
  cases op with
  | connect =>
    simp only [Operation.events, List.append_nil, Operation.run, connect, get_bind_apply]
    cases s.connected
    · exact h.logged _ _ (h.connected hs)
    · exact hs
  | disconnect =>
    simp only [Operation.events, Operation.run]
    cases hresult : disconnect c s with
    | mk result next =>
      cases result with
      | error e => simpa using h.stayed hs hresult
      | ok u => exact h.disconnected hs hresult
  | act a =>
    simp only [Operation.events, Operation.run, a.state_run]
    exact h.meetAll (a.ordinary_requests hop s.dialect) hs

theorem runAll (h : Preserves c P) {ops : List Operation} (hops : ∀ op ∈ ops, op.Ordinary)
    (es : List Event) {s : Session σ} (hs : P es s) :
    P (es ++ history c ops s) (Session.runAll c ops s) := by
  -- `es` is all that happened so far, which what is preserved may speak of
  induction ops generalizing es s with
  | nil => simpa [history, Session.runAll] using hs
  | cons op ops ih =>
    rw [history, Session.runAll, ← List.append_assoc]
    exact ih (fun o ho => hops o (List.mem_cons_of_mem op ho)) _
      (h.run (hops op (List.mem_cons_self ..)) hs)

end Preserves

end Session

end RecordMapper
