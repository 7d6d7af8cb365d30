import RecordMapper.Proofs.Session.Abandonment

/-!
What a session sends, call by call.
Main statements: whatever is done with a session is made of a few steps, and what it sends is what
its connection receives.
-/

namespace RecordMapper

inductive Signal
  | begin
  | statement (call : Call)
  | commit
  | rollback
  deriving DecidableEq

def Signal.call : Signal → Call
  | begin => .begin
  | statement call => call
  | commit => .commit
  | rollback => .rollback

def Signal.ofCall (call : Call) : Signal :=
  if call = .begin then begin
  else if call = .commit then commit
  else if call = .rollback then rollback
  else statement call

theorem Signal.eq_ofCall {signal : Signal}
    (h : ∀ call, signal = statement call → Ordinary call.sql) : signal = ofCall signal.call := by
  cases signal with
  | statement stated =>
    obtain ⟨hbegin, hcommit, hrollback⟩ := ne_of_ordinary (h stated rfl)
    simp [ofCall, call, hbegin, hcommit, hrollback]
  | _ => decide

structure Sent where
  signal : Signal
  failed : Bool
  deriving DecidableEq

def Signal.to (c : Connection σ) (signal : Signal) (l : σ) : Sent :=
  ⟨signal, failed (signal.call.send c l).1⟩

def Sent.outcome (e : Sent) : Call × Bool := (e.signal.call, e.failed)

def Entry.outcome (e : Entry σ) : Call × Bool := (e.call, e.failed)

@[simp] theorem failed_ok (a : α) : failed (.ok a) = false := rfl

@[simp] theorem failed_error (e : Error) : failed (.error e : Except Error α) = true := rfl

namespace Session

variable (c : Connection σ)

def sentToBegin (s : Session σ) : List Sent :=
  if s.connected = true ∧ s.inTransaction = false then [Signal.begin.to c s.link] else []

def sentToState (call : Call) (s : Session σ) : List Sent :=
  sentToBegin c s ++ match beginIfNeeded c s with
    | (.ok _, begun) => [(Signal.statement call).to c begun.link]
    | (.error _, _) => []

def sentToCommit (s : Session σ) : List Sent :=
  if s.inTransaction = true then [Signal.commit.to c s.link] else []

def sentToDisconnect (s : Session σ) : List Sent :=
  if s.connected = true ∧ s.inTransaction = true then [Signal.rollback.to c s.link] else []

def sentToMeet (s : Session σ) : Request → List Sent
  | .statement call => sentToState c call s
  | .commit => sentToCommit c s
  | _ => []

def sentToMeetAll : List Request → Session σ → List Sent
  | [], _ => []
  | r :: rs, s =>
    sentToMeet c s r ++ match meet c r s with
      | (.ok _, s) => sentToMeetAll rs s
      | (.error _, _) => []

end Session

def Operation.sends (c : Connection σ) (s : Session σ) : Operation → List Sent
  | connect => []
  | disconnect => Session.sentToDisconnect c s
  | act a => Session.sentToMeetAll c (a.requests s.dialect) s

namespace Session

variable (c : Connection σ)

def wire : List Operation → Session σ → List Sent
  | [], _ => []
  | op :: ops, s => op.sends c s ++ wire ops (op.run c s).2

/-- Every single thing that a session does, what it sends, and what becomes of the session. -/
inductive Step : Session σ → List Sent → Session σ → Prop
  | connected (s : Session σ) : Step s [] { s with connected := true }
  | logged (s : Session σ) (level : LogLevel) (text : String) : Step s [] (s.logged level text)
  | begun {s : Session σ} : s.connected = true → s.inTransaction = false →
      (Call.begin.send c s.link).1 = .ok () →
      Step s [⟨.begin, false⟩] { s.sent c .begin with inTransaction := true }
  | notBegun {s : Session σ} {e : Error} : s.connected = true → s.inTransaction = false →
      (Call.begin.send c s.link).1 = .error e → Step s [⟨.begin, true⟩] (s.sent c .begin)
  | stated {s : Session σ} (call : Call) : s.inTransaction = true →
      Step s [(Signal.statement call).to c s.link]
        ({ s with
          pendingWrites := s.pendingWrites || decide (call.kind = CallKind.execute) }.sent c call)
  | committed {s : Session σ} : s.inTransaction = true →
      Step s [Signal.commit.to c s.link]
        ({ s with inTransaction := false, pendingWrites := false }.sent c .commit)
  | rolledBack {s : Session σ} : s.connected = true → s.inTransaction = true →
      Step s [Signal.rollback.to c s.link] (s.rolledBack c)
  | ended {s : Session σ} : s.inTransaction = false → Step s [] s.ended

inductive Steps : Session σ → List Sent → Session σ → Prop
  | refl (s : Session σ) : Steps s [] s
  | tail {s t u : Session σ} {w more : List Sent} :
      Steps s w t → Step c t more u → Steps s (w ++ more) u

variable {c}

theorem Step.steps {s t : Session σ} {w : List Sent} (h : Step c s w t) : Steps c s w t := by
  simpa using (Steps.refl s).tail h

theorem Steps.trans {s t u : Session σ} {w more : List Sent} (h : Steps c s w t)
    (hmore : Steps c t more u) : Steps c s (w ++ more) u := by
  induction hmore with
  | refl => simpa using h
  | tail _ hstep ih =>
    rw [← List.append_assoc]
    exact ih.tail hstep

theorem Steps.keep {P : List Sent → Session σ → Prop}
    (hP : ∀ {w more s t}, P w s → Step c s more t → P (w ++ more) t) {s t : Session σ}
    {w more : List Sent} (h : Steps c s more t) (hs : P w s) : P (w ++ more) t := by
  induction h with
  | refl => simpa using hs
  | tail _ hstep ih =>
    rw [← List.append_assoc]
    exact hP ih hstep

variable (c)

theorem steps_begin (s : Session σ) :
    Steps c s (sentToBegin c s) (beginIfNeeded c s).2 := by
  rw [sentToBegin]
  cases hbegin : beginIfNeeded c s with
  | mk result begun =>
    cases begins_of_eq c hbegin with
    | refused hconnected => simpa [hconnected] using Steps.refl s
    | already hconnected hopen => simpa [hconnected, hopen] using Steps.refl s
    | began hconnected hclosed hsend =>
      have hok : (Call.begin.send c s.link).1 = .ok () := by rw [hsend]
      have hsent : Signal.begin.to c s.link = ⟨.begin, false⟩ := by
        simp [Signal.to, Signal.call, hok]
      rw [if_pos ⟨hconnected, hclosed⟩, hsent]
      exact (Step.begun hconnected hclosed hok).steps
    | @failed l e hconnected hclosed hsend =>
      have herror : (Call.begin.send c s.link).1 = .error e := by rw [hsend]
      have hsent : Signal.begin.to c s.link = ⟨.begin, true⟩ := by
        simp [Signal.to, Signal.call, herror]
      rw [if_pos ⟨hconnected, hclosed⟩, hsent]
      exact (Step.notBegun hconnected hclosed herror).steps

theorem inTransaction_of_begin {s begun : Session σ} {u : Unit}
    (h : beginIfNeeded c s = (.ok u, begun)) : begun.inTransaction = true := by
  cases begins_of_eq c h with
  | already _ hopen => exact hopen
  | began => rfl

theorem steps_statement (call : Call) (s : Session σ) :
    Steps c s (sentToState c call s) (statement c call s).2 := by
  have hbegin := steps_begin c s
  rw [sentToState, statement_apply]
  cases hresult : beginIfNeeded c s with
  | mk result begun =>
    rw [hresult] at hbegin
    cases result with
    | error e => simpa using hbegin
    | ok u => exact hbegin.tail (.stated call (inTransaction_of_begin c hresult))

theorem steps_commit (s : Session σ) : Steps c s (sentToCommit c s) (commit c s).2 := by
  rw [sentToCommit, commit_apply]
  split
  · rename_i hopen
    exact (Step.committed hopen).steps
  · exact .refl s

theorem steps_disconnect (s : Session σ) :
    Steps c s (sentToDisconnect c s) (disconnect c s).2 := by
  rw [sentToDisconnect, disconnect_apply]
  cases hconnected : s.connected with
  | false => simpa using Steps.refl s
  | true =>
    cases hopen : s.inTransaction with
    | false => simpa using (Step.ended hopen).steps
    | true =>
      have hrolledBack := (Step.rolledBack (c := c) hconnected hopen).steps
      simp only [Bool.true_eq_false, if_false, and_self, if_true]
      split
      · simpa using hrolledBack.tail (.ended rfl)
      · exact hrolledBack

theorem steps_meet (r : Request) (s : Session σ) :
    Steps c s (sentToMeet c s r) (meet c r s).2 := by
  cases r with
  | statement call => exact steps_statement c call s
  | commit => exact steps_commit c s
  | report level text => exact (Step.logged s level text).steps
  | fail e => exact .refl s

theorem steps_meetAll (rs : List Request) (s : Session σ) :
    Steps c s (sentToMeetAll c rs s) (meetAll c rs s).2 := by
  induction rs generalizing s with
  | nil => exact .refl s
  | cons r rs ih =>
    have hmeet := steps_meet c r s
    rw [sentToMeetAll, meetAll, bind_apply]
    cases hresult : meet c r s with
    | mk result next =>
      rw [hresult] at hmeet
      cases result with
      | error e => simpa using hmeet
      | ok u => exact hmeet.trans (ih next)

theorem steps_run (op : Operation) (s : Session σ) :
    Steps c s (op.sends c s) (op.run c s).2 := by
  cases op with
  | connect =>
    simp only [Operation.sends, Operation.run, connect, get_bind_apply]
    cases s.connected with
    | true => exact .refl s
    | false => exact (Step.connected s).steps.tail (.logged _ _ _)
  | disconnect => exact steps_disconnect c s
  | act a =>
    rw [Operation.sends, Operation.run, a.state_run]
    exact steps_meetAll c _ s

theorem steps_runAll (ops : List Operation) (s : Session σ) :
    Steps c s (wire c ops s) (runAll c ops s) := by
  induction ops generalizing s with
  | nil => exact .refl s
  | cons op ops ih => exact (steps_run c op s).trans (ih _)

theorem dialect_runAll (ops : List Operation) (s : Session σ) :
    (runAll c ops s).dialect = s.dialect := by
  have hstep : ∀ {w : List Sent} {t u : Session σ}, Step c t w u → u.dialect = t.dialect := by
    intro w t u h
    cases h with
    | rolledBack =>
      show t.warned.dialect = t.dialect
      rw [warned]
      split <;> rfl
    | _ => rfl
  exact (steps_runAll c ops s).keep (P := fun _ t => t.dialect = s.dialect)
    (fun ht h => (hstep h).trans ht) (w := []) rfl

variable {c}

theorem signal_of_sentToBegin {s : Session σ} {e : Sent} (he : e ∈ sentToBegin c s) :
    e.signal = .begin := by
  rw [sentToBegin] at he
  split at he
  · obtain rfl := List.mem_singleton.1 he
    rfl
  · contradiction

theorem mem_sentToMeetAll {rs : List Request} {s : Session σ} {e : Sent}
    (he : e ∈ sentToMeetAll c rs s) :
    e.signal = .begin ∨ e.signal = .commit ∨
      ∃ call, e.signal = .statement call ∧ .statement call ∈ rs := by
  induction rs generalizing s with
  | nil => contradiction
  | cons r rs ih =>
    rw [sentToMeetAll] at he
    rcases List.mem_append.1 he with he | he
    · cases r with
      | statement stated =>
        rw [sentToMeet, sentToState] at he
        rcases List.mem_append.1 he with he | he
        · exact .inl (signal_of_sentToBegin he)
        · split at he
          · obtain rfl := List.mem_singleton.1 he
            exact .inr (.inr ⟨stated, rfl, List.mem_cons_self ..⟩)
          · contradiction
      | commit =>
        rw [sentToMeet, sentToCommit] at he
        split at he
        · obtain rfl := List.mem_singleton.1 he
          exact .inr (.inl rfl)
        · contradiction
      | report level text => contradiction
      | fail e => contradiction
    · split at he
      · exact (ih he).imp_right fun h => h.imp_right fun ⟨call, hsignal, hcall⟩ =>
          ⟨call, hsignal, List.mem_cons_of_mem r hcall⟩
      · contradiction

theorem mem_wire {ops : List Operation} {s : Session σ} {e : Sent} {call : Call}
    (he : e ∈ wire c ops s) (hcall : e.signal = .statement call) :
    ∃ a, .act a ∈ ops ∧ ∃ d, .statement call ∈ a.requests d := by
  induction ops generalizing s with
  | nil => contradiction
  | cons op ops ih =>
    rcases List.mem_append.1 he with he | he
    · cases op with
      | connect => contradiction
      | disconnect =>
        rw [Operation.sends, sentToDisconnect] at he
        split at he
        · obtain rfl := List.mem_singleton.1 he
          contradiction
        · contradiction
      | act a =>
        rcases mem_sentToMeetAll he with hbegin | hcommit | ⟨stated, hstated, hmem⟩
        · cases hbegin.symm.trans hcall
        · cases hcommit.symm.trans hcall
        · cases hstated.symm.trans hcall
          exact ⟨a, List.mem_cons_self .., s.dialect, hmem⟩
    · obtain ⟨a, ha, hd⟩ := ih he
      exact ⟨a, List.mem_cons_of_mem op ha, hd⟩

variable (c)

theorem received_step {s t : Session (σ × List (Entry σ))} {w : List Sent}
    (h : Step c.recorded s w t) :
    t.link.2.map Entry.outcome = s.link.2.map Entry.outcome ++ w.map Sent.outcome := by
  cases h with
  | connected => simp
  | logged => simp [Session.logged]
  | begun _ _ hok =>
    have hok : (Call.begin.send c s.link.1).1 = .ok () := by rwa [send_recorded] at hok
    simp [sent, send_recorded, Entry.outcome, Sent.outcome, Signal.call, hok]
  | @notBegun e _ _ herror =>
    have herror : (Call.begin.send c s.link.1).1 = .error e := by rwa [send_recorded] at herror
    simp [sent, send_recorded, Entry.outcome, Sent.outcome, Signal.call, herror]
  | stated => simp [sent, send_recorded, Entry.outcome, Sent.outcome, Signal.to, Signal.call]
  | committed => simp [sent, send_recorded, Entry.outcome, Sent.outcome, Signal.to, Signal.call]
  | rolledBack => simp [send_recorded, Entry.outcome, Sent.outcome, Signal.to, Signal.call]
  | ended => simp

theorem received_steps {s t : Session (σ × List (Entry σ))} {w : List Sent}
    (h : Steps c.recorded s w t) :
    t.link.2.map Entry.outcome = s.link.2.map Entry.outcome ++ w.map Sent.outcome := by
  induction h with
  | refl => simp
  | tail _ hstep ih => rw [received_step c hstep, ih, List.map_append, List.append_assoc]

end Session

end RecordMapper
