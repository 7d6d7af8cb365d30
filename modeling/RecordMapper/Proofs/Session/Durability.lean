import RecordMapper.Proofs.Session.Runs

/-!
What lasts of a run over a connection with transactions.
Main statement: the statements that last are those that are followed by a commit before the next
disconnect, and the session knows whether a transaction is open.
-/

namespace RecordMapper

/-- A connection with transactions. What lasts and what the open transaction sees are told apart,
and a statement that fails changes neither. A transaction can always be ended. -/
structure Transactional (c : Connection σ) (durable : σ → δ) (working : σ → Option δ)
    (effect : Call → δ → δ) : Prop where
  begins {l l' : σ} : working l = none → Call.begin.send c l = (.ok (), l') →
    durable l' = durable l ∧ working l' = some (durable l)
  beginFails {l l' : σ} {e : Error} : working l = none → Call.begin.send c l = (.error e, l') →
    durable l' = durable l ∧ working l' = none
  runs {l l' : σ} {call : Call} {w : δ} : Ordinary call.sql → working l = some w →
    call.send c l = (.ok (), l') → durable l' = durable l ∧ working l' = some (effect call w)
  runFails {l l' : σ} {call : Call} {w : δ} {e : Error} : Ordinary call.sql → working l = some w →
    call.send c l = (.error e, l') → durable l' = durable l ∧ working l' = some w
  commits {l : σ} {w : δ} : working l = some w →
    ∃ l', Call.commit.send c l = (.ok (), l') ∧ durable l' = w ∧ working l' = none
  rollsBack {l : σ} {w : δ} : working l = some w →
    ∃ l', Call.rollback.send c l = (.ok (), l') ∧ durable l' = durable l ∧ working l' = none

def replay (effect : Call → δ → δ) (calls : List Call) (start : δ) : δ :=
  calls.foldl (fun w call => effect call w) start

namespace Event

def commitFollows : List Event → Bool
  | [] => false
  | ran _ :: es => commitFollows es
  | committed :: _ => true
  | disconnected :: _ => false

/-- The statements that are followed by a commit before the next disconnect. -/
def lasting : List Event → List Call
  | [] => []
  | ran call :: es => if commitFollows es then call :: lasting es else lasting es
  | _ :: es => lasting es

def ended : List Event → Bool
  | [] => false
  | ran _ :: es => ended es
  | _ => true

/-- The statements since the last commit or disconnect. -/
def pending : List Event → List Call
  | [] => []
  | ran call :: es => if ended es then pending es else call :: pending es
  | _ :: es => pending es

theorem ended_append (es more : List Event) : ended (es ++ more) = (ended es || ended more) := by
  induction es with
  | nil => rfl
  | cons e es ih => cases e <;> simp [ended, ih]

theorem commitFollows_append (es more : List Event) :
    commitFollows (es ++ more) = if ended es then commitFollows es else commitFollows more := by
  induction es with
  | nil => rfl
  | cons e es ih =>
    cases e with
    | ran call => exact ih
    | _ => rfl

theorem pending_ran (es : List Event) (call : Call) :
    pending (es ++ [ran call]) = pending es ++ [call] := by
  induction es with
  | nil => rfl
  | cons e es ih =>
    cases e with
    | ran first => cases h : ended es <;> simp [pending, ended_append, ended, h, ih]
    | _ => simpa [pending] using ih

theorem pending_ended (es : List Event) {e : Event} (he : ended [e] = true) :
    pending (es ++ [e]) = [] := by
  induction es with
  | nil => cases e <;> first | rfl | contradiction
  | cons first es ih => cases first <;> simp [pending, ended_append, he, ih]

theorem lasting_of_not_ended {es : List Event} (h : ended es = false) :
    commitFollows es = false ∧ lasting es = [] := by
  induction es with
  | nil => exact ⟨rfl, rfl⟩
  | cons e es ih =>
    cases e with
    | ran call =>
      obtain ⟨hfollows, hlasting⟩ := ih h
      simp [commitFollows, lasting, hfollows, hlasting]
    | _ => contradiction

theorem commitFollows_of_ended {es : List Event} (h : commitFollows es = true) :
    ended es = true := by
  cases hended : ended es with
  | true => rfl
  | false => simp [(lasting_of_not_ended hended).1] at h

theorem lasting_append (es : List Event) {e : Event} (he : commitFollows [e] = false) :
    lasting (es ++ [e]) = lasting es := by
  have hlast : lasting [e] = [] := by cases e <;> rfl
  induction es with
  | nil => exact hlast
  | cons first es ih =>
    cases first with
    | ran call =>
      -- where `es` holds a commit or a disconnect, `e` comes too late to matter
      have hfollows : commitFollows (es ++ [e]) = commitFollows es := by
        rw [commitFollows_append, he]
        cases h : commitFollows es with
        | true => simp [commitFollows_of_ended h]
        | false => simp
      simp [lasting, hfollows, ih]
    | _ => simpa [lasting] using ih

theorem lasting_committed (es : List Event) :
    lasting (es ++ [committed]) = lasting es ++ pending es := by
  induction es with
  | nil => rfl
  | cons first es ih =>
    cases first with
    | ran call =>
      cases h : ended es with
      | true =>
        cases hfollows : commitFollows es <;>
          simp [lasting, pending, commitFollows_append, h, hfollows, ih]
      | false =>
        obtain ⟨hfollows, hlasting⟩ := lasting_of_not_ended h
        simp [lasting, pending, commitFollows_append, commitFollows, h, hfollows, hlasting, ih]
    | _ => simpa [lasting, pending] using ih

end Event

open Event

variable {c : Connection σ} {durable : σ → δ} {working : σ → Option δ} {effect : Call → δ → δ}

structure Stands (durable : σ → δ) (working : σ → Option δ) (effect : Call → δ → δ) (start : δ)
    (es : List Event) (s : Session σ) : Prop where
  durable_eq : durable s.link = replay effect (lasting es) start
  working_eq : working s.link =
    if s.inTransaction then some (replay effect (pending es) (durable s.link)) else none
  pending_eq : s.inTransaction = false → pending es = []
  connected : s.inTransaction = true → s.connected = true

theorem replay_append (effect : Call → δ → δ) (calls more : List Call) (start : δ) :
    replay effect (calls ++ more) start = replay effect more (replay effect calls start) := by
  simp [replay]

theorem replay_concat (effect : Call → δ → δ) (calls : List Call) (call : Call) (start : δ) :
    replay effect (calls ++ [call]) start = effect call (replay effect calls start) := by
  simp [replay]

namespace Stands

variable {start : δ} {es : List Event} {s s' : Session σ}

theorem working_open (hs : Stands durable working effect start es s)
    (h : s.inTransaction = true) :
    working s.link = some (replay effect (pending es) (durable s.link)) := by
  rw [hs.working_eq, if_pos h]

theorem working_closed (hs : Stands durable working effect start es s)
    (h : s.inTransaction = false) : working s.link = none := by
  rw [hs.working_eq, if_neg (by simp [h])]

theorem pendingWrites (hs : Stands durable working effect start es s) (b : Bool) :
    Stands durable working effect start es { s with pendingWrites := b } :=
  ⟨hs.durable_eq, hs.working_eq, hs.pending_eq, hs.connected⟩

theorem begun (hc : Transactional c durable working effect)
    (hs : Stands durable working effect start es s) {result : Except Error Unit}
    (h : Session.beginIfNeeded c s = (result, s')) :
    Stands durable working effect start es s' ∧ (result = .ok () → s'.inTransaction = true) := by
  cases Session.begins_of_eq c h with
  | refused _ => exact ⟨hs, fun h => by cases h⟩
  | already _ hopen => exact ⟨hs, fun _ => hopen⟩
  | began hconnected hclosed hsend =>
    obtain ⟨hdurable, hworking⟩ := hc.begins (hs.working_closed hclosed) hsend
    refine ⟨⟨?_, ?_, fun h => ?_, fun _ => hconnected⟩, fun _ => rfl⟩
    · simpa [Session.sent, hsend, hdurable] using hs.durable_eq
    · simp [Session.sent, hsend, hdurable, hworking, hs.pending_eq hclosed, replay]
    · cases h
  | failed _ hclosed hsend =>
    obtain ⟨hdurable, hworking⟩ := hc.beginFails (hs.working_closed hclosed) hsend
    refine ⟨⟨?_, ?_, fun _ => hs.pending_eq hclosed, hs.connected⟩, fun h => by cases h⟩
    · simpa [Session.sent, hsend, hdurable] using hs.durable_eq
    · simp [Session.sent, hsend, hworking, hclosed]

theorem sent_ok (hc : Transactional c durable working effect)
    (hs : Stands durable working effect start es s) (hopen : s.inTransaction = true) {call : Call}
    (hcall : Ordinary call.sql) (h : (call.send c s.link).1 = .ok ()) :
    Stands durable working effect start (es ++ [.ran call]) (s.sent c call) := by
  obtain ⟨hdurable, hworking⟩ := hc.runs hcall (hs.working_open hopen) (Prod.ext h rfl)
  refine ⟨?_, ?_, ?_, hs.connected⟩
  · rw [lasting_append es rfl]
    exact hdurable.trans hs.durable_eq
  · rw [pending_ran, replay_concat]
    simp only [Session.sent, hopen, if_true, hdurable, hworking]
  · simp [Session.sent, hopen]

theorem sent_error (hc : Transactional c durable working effect)
    (hs : Stands durable working effect start es s) (hopen : s.inTransaction = true) {call : Call}
    {e : Error} (hcall : Ordinary call.sql) (h : (call.send c s.link).1 = .error e) :
    Stands durable working effect start es (s.sent c call) := by
  obtain ⟨hdurable, hworking⟩ := hc.runFails hcall (hs.working_open hopen) (Prod.ext h rfl)
  refine ⟨hdurable.trans hs.durable_eq, ?_, hs.pending_eq, hs.connected⟩
  simp only [Session.sent, hopen, if_true, hdurable, hworking]

theorem committed (hc : Transactional c durable working effect)
    (hs : Stands durable working effect start es s) :
    ∃ s', Session.commit c s = (.ok (), s') ∧
      Stands durable working effect start (es ++ [.committed]) s' := by
  rw [Session.commit_apply]
  by_cases hopen : s.inTransaction = true
  · obtain ⟨l, hsend, hdurable, hworking⟩ := hc.commits (hs.working_open hopen)
    rw [if_pos hopen, hsend]
    refine ⟨_, rfl, ?_, ?_, fun _ => pending_ended es rfl, nofun⟩
    · simp only [Session.sent, hsend, hdurable]
      rw [lasting_committed, replay_append, hs.durable_eq]
    · simp [Session.sent, hsend, hworking]
  · rw [if_neg hopen]
    rw [Bool.not_eq_true] at hopen
    have hpending := hs.pending_eq hopen
    refine ⟨s, rfl, ?_, ?_, fun _ => pending_ended es rfl, hs.connected⟩
    · rw [lasting_committed, hpending, List.append_nil]
      exact hs.durable_eq
    · rw [hs.working_closed hopen, hopen]
      rfl

theorem disconnected (hc : Transactional c durable working effect)
    (hs : Stands durable working effect start es s) :
    ∃ s', Session.disconnect c s = (.ok (), s') ∧
      Stands durable working effect start (es ++ [.disconnected]) s' ∧
      s'.inTransaction = false := by
  -- a session without a transaction disconnects without a call
  have hstill : ∀ s' : Session σ, s.inTransaction = false → s'.link = s.link →
      s'.inTransaction = false →
      Stands durable working effect start (es ++ [.disconnected]) s' := by
    intro s' hclosed hlink hclosed'
    refine ⟨?_, ?_, fun _ => pending_ended es rfl, by simp [hclosed']⟩
    · rw [lasting_append es rfl, hlink]
      exact hs.durable_eq
    · simp [hlink, hs.working_closed hclosed, hclosed']
  rw [Session.disconnect_apply]
  split
  · rename_i hconnected
    have hclosed : s.inTransaction = false := by
      rw [← Bool.not_eq_true]
      exact fun h => absurd (hs.connected h) (by simp [hconnected])
    exact ⟨s, rfl, hstill s hclosed rfl hclosed, hclosed⟩
  split
  · rename_i hclosed
    exact ⟨_, rfl, hstill _ hclosed rfl hclosed, hclosed⟩
  · rename_i hopen
    rw [Bool.not_eq_false] at hopen
    obtain ⟨l, hsend, hdurable, hworking⟩ := hc.rollsBack (hs.working_open hopen)
    rw [hsend]
    refine ⟨_, rfl, ⟨?_, ?_, fun _ => pending_ended es rfl, nofun⟩, rfl⟩
    · rw [lasting_append es rfl, Session.ended_link, Session.rolledBack_link, hsend, hdurable]
      exact hs.durable_eq
    · simp [hsend, hworking]

theorem preserves (hc : Transactional c durable working effect) (start : δ) :
    Session.Preserves c (Stands durable working effect start) where
  connected hs := ⟨hs.durable_eq, hs.working_eq, hs.pending_eq, fun _ => rfl⟩
  logged _ _ hs := ⟨hs.durable_eq, hs.working_eq, hs.pending_eq, hs.connected⟩
  ran := by
    intro es s s' call hcall hs h
    rcases Session.statement_cases c h with ⟨e, _, hresult⟩ | ⟨begun, p, hbegin, hsend, rfl⟩
    · contradiction
    · obtain ⟨hbegun, hopen⟩ := hs.begun hc hbegin
      exact (hbegun.pendingWrites p).sent_ok hc (hopen rfl) hcall hsend
  refused := by
    intro es s s' call e hcall hs h
    rcases Session.statement_cases c h with ⟨e, hbegin, _⟩ | ⟨begun, p, hbegin, hsend, rfl⟩
    · exact (hs.begun hc hbegin).1
    · obtain ⟨hbegun, hopen⟩ := hs.begun hc hbegin
      exact (hbegun.pendingWrites p).sent_error hc (hopen rfl) hcall hsend
  committed := by
    intro es s s' hs h
    obtain ⟨t, hcommit, ht⟩ := hs.committed hc
    cases h.symm.trans hcommit
    exact ht
  uncommitted := by
    intro es s s' e hs h
    obtain ⟨t, hcommit, _⟩ := hs.committed hc
    cases h.symm.trans hcommit
  disconnected := by
    intro es s s' hs h
    obtain ⟨t, hdisconnect, ht, _⟩ := hs.disconnected hc
    cases h.symm.trans hdisconnect
    exact ht
  stayed := by
    intro es s s' e hs h
    obtain ⟨t, hdisconnect, _⟩ := hs.disconnected hc
    cases h.symm.trans hdisconnect

end Stands

/-- A session in front of a connection with transactions: what lasts is what was committed before
the next disconnect, the session knows whether a transaction is open, and its end, however it comes,
leaves none open and takes back what was not committed. -/
theorem lasting_of_run (hc : Transactional c durable working effect) (d : Dialect) {link : σ}
    (hlink : working link = none) {ops : List Operation} (hops : ∀ op ∈ ops, op.Ordinary) :
    let s := Session.runAll c ops (Session.fresh d link)
    let kept :=
      replay effect (lasting (Session.history c ops (Session.fresh d link))) (durable link)
    durable s.link = kept ∧
      ((working s.link).isSome = true ↔ s.inTransaction = true) ∧
      (∀ s', s' = (Session.disconnect c s).2 ∨ s' = s.close c →
        working s'.link = none ∧ durable s'.link = kept) := by
  have hstart : Stands durable working effect (durable link) [] (Session.fresh d link) :=
    ⟨rfl, hlink, fun _ => rfl, nofun⟩
  have hstands := (Stands.preserves hc (durable link)).runAll hops [] hstart
  rw [List.nil_append] at hstands
  generalize Session.runAll c ops (Session.fresh d link) = s at hstands ⊢
  generalize Session.history c ops (Session.fresh d link) = es at hstands ⊢
  obtain ⟨t, hdisconnect, ht, hclosed⟩ := hstands.disconnected hc
  have hkept : durable t.link = replay effect (lasting es) (durable link) := by
    rw [ht.durable_eq, lasting_append es rfl]
  refine ⟨hstands.durable_eq, ?_, ?_⟩
  · rw [hstands.working_eq]
    split <;> simp_all
  · rintro s' (rfl | rfl)
    · rw [hdisconnect]
      exact ⟨ht.working_closed hclosed, hkept⟩
    · rw [Session.close, hdisconnect]
      exact ⟨ht.working_closed hclosed, hkept⟩

end RecordMapper
