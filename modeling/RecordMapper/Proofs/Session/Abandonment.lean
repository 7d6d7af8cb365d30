import RecordMapper.Connection.Scripted
import RecordMapper.Proofs.Session.Runs

namespace RecordMapper

/-- A connection on which a transaction stays open when its end fails. -/
structure StaysOpen (c : Connection σ) (isOpen : σ → Bool) : Prop where
  begins {l l' : σ} : Call.begin.send c l = (.ok (), l') → isOpen l' = true
  ends {l l' : σ} {call : Call} : call = .commit ∨ call = .rollback →
    call.send c l = (.ok (), l') → isOpen l' = false
  fails {l l' : σ} {call : Call} {e : Error} : call = .begin ∨ call = .commit ∨ call = .rollback →
    call.send c l = (.error e, l') → isOpen l' = isOpen l
  runs {l : σ} {call : Call} : Ordinary call.sql → isOpen (call.send c l).2 = isOpen l

structure Entry (σ : Type) where
  call : Call
  before : σ
  failed : Bool

def failed : Except Error α → Bool
  | .ok _ => false
  | .error _ => true

namespace Connection

def recording (kind : CallKind) (sql : String) (run : σ → Except Error α × σ)
    (s : σ × List (Entry σ)) : Except Error α × (σ × List (Entry σ)) :=
  let r := run s.1
  (r.1, r.2, s.2 ++ [⟨⟨kind, sql⟩, s.1, failed r.1⟩])

def recorded (c : Connection σ) : Connection (σ × List (Entry σ)) where
  execute sql := recording .execute sql (c.execute sql)
  fetchOptional sql := recording .fetchOptional sql (c.fetchOptional sql)
  fetchAll sql := recording .fetchAll sql (c.fetchAll sql)
  announce := c.announce

end Connection

theorem send_recorded (c : Connection σ) (call : Call) (s : σ × List (Entry σ)) :
    call.send c.recorded s =
      ((call.send c s.1).1, (call.send c s.1).2,
        s.2 ++ [⟨call, s.1, failed (call.send c s.1).1⟩]) := by
  obtain ⟨kind, sql⟩ := call
  cases kind with
  | execute =>
    simp only [Call.send, Connection.recorded, Connection.recording]
    cases (c.execute sql s.1).1 <;> rfl
  | fetchOptional =>
    simp only [Call.send, Connection.recorded, Connection.recording]
    cases (c.fetchOptional sql s.1).1 <;> rfl
  | fetchAll =>
    simp only [Call.send, Connection.recorded, Connection.recording]
    cases (c.fetchAll sql s.1).1 <;> rfl

def Entry.marks (e : Entry σ) : Bool :=
  (e.call = .begin && !e.failed) || e.call = .commit || e.call = .rollback

@[simp] theorem marks_begin (l : σ) (f : Bool) : (⟨.begin, l, f⟩ : Entry σ).marks = !f := by
  cases f <;> rfl

@[simp] theorem marks_commit (l : σ) (f : Bool) : (⟨.commit, l, f⟩ : Entry σ).marks = true := by
  cases f <;> rfl

@[simp] theorem marks_rollback (l : σ) (f : Bool) :
    (⟨.rollback, l, f⟩ : Entry σ).marks = true := by
  cases f <;> rfl

theorem ne_of_ordinary {call : Call} (h : Ordinary call.sql) :
    call ≠ .begin ∧ call ≠ .commit ∧ call ≠ .rollback := by
  have hsql := h.not_mem
  refine ⟨?_, ?_, ?_⟩
  all_goals
    rintro rfl
    exact hsql (by decide)

theorem marks_ordinary {call : Call} (h : Ordinary call.sql) (l : σ) (f : Bool) :
    (⟨call, l, f⟩ : Entry σ).marks = false := by
  obtain ⟨hbegin, hcommit, hrollback⟩ := ne_of_ordinary h
  simp [Entry.marks, hbegin, hcommit, hrollback]

/-- Whether the last call of those was to end a transaction and failed. -/
def adrift (record : List (Entry σ)) : Bool := (record.filter Entry.marks).getLast?.any Entry.failed

theorem adrift_concat (record : List (Entry σ)) (e : Entry σ) :
    adrift (record ++ [e]) = if e.marks then e.failed else adrift record := by
  cases h : e.marks <;> simp [adrift, h]

def BegunRight (isOpen : σ → Bool) (record : List (Entry σ)) : Prop :=
  ∀ before e rest, record = before ++ e :: rest → e.call = .begin →
    isOpen e.before = adrift before

theorem split_concat {as before after : List α} {a b : α} (h : as ++ [a] = before ++ b :: after) :
    as = before ∧ b = a ∧ after = [] ∨ ∃ rest, after = rest ++ [a] ∧ as = before ++ b :: rest := by
  rcases List.eq_nil_or_concat after with rfl | ⟨rest, last, rfl⟩
  · obtain ⟨rfl, hlast⟩ := List.append_inj' h rfl
    exact .inl ⟨rfl, (List.singleton_inj.1 hlast).symm, rfl⟩
  · rw [List.concat_eq_append, ← List.cons_append, ← List.append_assoc] at h
    obtain ⟨rfl, hlast⟩ := List.append_inj' h rfl
    obtain rfl := List.singleton_inj.1 hlast
    exact .inr ⟨rest, List.concat_eq_append, rfl⟩

theorem BegunRight.concat {isOpen : σ → Bool} {record : List (Entry σ)} {e : Entry σ}
    (h : BegunRight isOpen record) (he : e.call = .begin → isOpen e.before = adrift record) :
    BegunRight isOpen (record ++ [e]) := by
  intro before e' rest hrecord hcall
  rcases split_concat hrecord with ⟨rfl, rfl, _⟩ | ⟨rest, _, hbefore⟩
  · exact he hcall
  · exact h before e' rest hbefore hcall

structure Knows (isOpen : σ → Bool) (s : Session (σ × List (Entry σ))) : Prop where
  opened : s.inTransaction = true →
    s.connected = true ∧ isOpen s.link.1 = true ∧ adrift s.link.2 = false
  closed : s.inTransaction = false → isOpen s.link.1 = adrift s.link.2
  begun : BegunRight isOpen s.link.2

namespace Knows

variable {c : Connection σ} {isOpen : σ → Bool} {s s' : Session (σ × List (Entry σ))}

theorem begins (hc : StaysOpen c isOpen) (hs : Knows isOpen s) {result : Except Error Unit}
    (h : Session.beginIfNeeded c.recorded s = (result, s')) :
    Knows isOpen s' ∧ (result = .ok () → s'.inTransaction = true) := by
  cases Session.begins_of_eq c.recorded h with
  | refused _ => exact ⟨hs, fun h => by cases h⟩
  | already _ hopen => exact ⟨hs, fun _ => hopen⟩
  | began hconnected hclosed hsend =>
    rw [send_recorded] at hsend
    obtain ⟨hok, rfl⟩ := Prod.mk.inj hsend
    have hopen := hs.closed hclosed
    refine ⟨⟨fun _ => ⟨hconnected, ?_, ?_⟩, fun h => ?_, ?_⟩, fun _ => rfl⟩
    · simpa [Session.sent, send_recorded] using hc.begins (Prod.ext hok rfl)
    · simp [Session.sent, send_recorded, hok, adrift_concat, failed]
    · cases h
    · simpa [Session.sent, send_recorded] using hs.begun.concat fun _ => hopen
  | failed _ hclosed hsend =>
    rw [send_recorded] at hsend
    obtain ⟨herror, rfl⟩ := Prod.mk.inj hsend
    have hopen := hs.closed hclosed
    refine ⟨⟨fun h => ?_, fun _ => ?_, ?_⟩, fun h => by cases h⟩
    · simp [Session.sent, hclosed] at h
    · simpa [Session.sent, send_recorded, herror, adrift_concat, failed] using
        (hc.fails (.inl rfl) (Prod.ext herror rfl)).trans hopen
    · simpa [Session.sent, send_recorded] using hs.begun.concat fun _ => hopen

theorem sent (hc : StaysOpen c isOpen) (hs : Knows isOpen s) (hopen : s.inTransaction = true)
    {call : Call} (hcall : Ordinary call.sql) : Knows isOpen (s.sent c.recorded call) := by
  obtain ⟨hconnected, hlink, hadrift⟩ := hs.opened hopen
  refine ⟨fun _ => ⟨hconnected, ?_, ?_⟩, fun h => ?_, ?_⟩
  · simpa [Session.sent, send_recorded, hc.runs hcall] using hlink
  · simpa [Session.sent, send_recorded, adrift_concat, marks_ordinary hcall] using hadrift
  · simp [Session.sent, hopen] at h
  · simpa [Session.sent, send_recorded] using
      hs.begun.concat fun h => absurd h (ne_of_ordinary hcall).1

theorem finished (hc : StaysOpen c isOpen) (hs : Knows isOpen s) (hopen : s.inTransaction = true)
    {call : Call} (hcall : call = .commit ∨ call = .rollback)
    (hlink : s'.link = (call.send c.recorded s.link).2) (hclosed : s'.inTransaction = false) :
    Knows isOpen s' := by
  obtain ⟨_, hlink', _⟩ := hs.opened hopen
  have hmarks : ∀ l f, (⟨call, l, f⟩ : Entry σ).marks = true := by
    rcases hcall with rfl | rfl <;> simp
  have hbegin : call ≠ .begin := by rcases hcall with rfl | rfl <;> decide
  rw [send_recorded] at hlink
  refine ⟨by simp [hclosed], fun _ => ?_, ?_⟩
  · rw [hlink]
    simp only [adrift_concat, hmarks, if_true]
    cases hsend : call.send c s.link.1 with
    | mk answer l =>
      cases answer with
      | ok u => exact hc.ends hcall hsend
      -- the connection keeps the transaction that the session forgets
      | error e => exact (hc.fails (.inr hcall) hsend).trans hlink'
  · rw [hlink]
    exact hs.begun.concat fun h => absurd h hbegin

theorem stated (hc : StaysOpen c isOpen) (hs : Knows isOpen s) {call : Call}
    (hcall : Ordinary call.sql) {result : Except Error Unit}
    (h : Session.statement c.recorded call s = (result, s')) : Knows isOpen s' := by
  rcases Session.statement_cases _ h with ⟨e, hbegin, _⟩ | ⟨begun, p, hbegin, _, rfl⟩
  · exact (hs.begins hc hbegin).1
  · obtain ⟨hbegun, hopen⟩ := hs.begins hc hbegin
    have hpending : Knows isOpen { begun with pendingWrites := p } :=
      ⟨hbegun.opened, hbegun.closed, hbegun.begun⟩
    exact hpending.sent hc (hopen rfl) hcall

theorem committed (hc : StaysOpen c isOpen) (hs : Knows isOpen s) :
    Knows isOpen (Session.commit c.recorded s).2 := by
  rw [Session.commit_apply]
  split
  · rename_i hopen
    exact hs.finished hc hopen (.inl rfl) rfl rfl
  · exact hs

theorem disconnected (hc : StaysOpen c isOpen) (hs : Knows isOpen s) :
    Knows isOpen (Session.disconnect c.recorded s).2 := by
  rw [Session.disconnect_apply]
  split
  · exact hs
  split
  · rename_i hclosed
    refine ⟨fun h => ?_, fun _ => hs.closed hclosed, hs.begun⟩
    simp [hclosed] at h
  · rename_i hopen
    rw [Bool.not_eq_false] at hopen
    split
    · exact hs.finished hc hopen (.inr rfl) (by simp) rfl
    · exact hs.finished hc hopen (.inr rfl) (by simp) rfl

theorem preserves (hc : StaysOpen c isOpen) :
    Session.Preserves c.recorded fun _ s => Knows isOpen s where
  connected hs := ⟨fun h => ⟨rfl, (hs.opened h).2⟩, hs.closed, hs.begun⟩
  logged _ _ hs := ⟨hs.opened, hs.closed, hs.begun⟩
  ran hcall hs h := hs.stated hc hcall h
  refused hcall hs h := hs.stated hc hcall h
  committed hs h := by
    have := hs.committed hc
    rwa [h] at this
  uncommitted hs h := by
    have := hs.committed hc
    rwa [h] at this
  disconnected hs h := by
    have := hs.disconnected hc
    rwa [h] at this
  stayed hs h := by
    have := hs.disconnected hc
    rwa [h] at this

end Knows

/-- Whether a session ends with an attempt to take back what is open. -/
def TakesBack (s ended : Session (σ × List (Entry σ))) : Prop :=
  ∃ failed, ended.link.2 = s.link.2 ++ [⟨.rollback, s.link.1, failed⟩]

/-- A disconnect leaves a transaction open, the end of a session lets one be, and a transaction is
begun within another, exactly where an end of a transaction failed and none began since. -/
theorem abandoned_iff {c : Connection σ} {isOpen : σ → Bool} (hc : StaysOpen c isOpen) (d : Dialect)
    {link : σ} (hlink : isOpen link = false) {ops : List Operation}
    (hops : ∀ op ∈ ops, op.Ordinary) :
    let s := Session.runAll c.recorded ops (Session.fresh d (link, []))
    let left := Session.disconnect c.recorded s
    (left.1 = .ok () → (isOpen left.2.link.1 = true ↔ adrift s.link.2 = true)) ∧
      (isOpen s.link.1 = true → (TakesBack s (s.close c.recorded) ↔ adrift s.link.2 = false)) ∧
      (∀ before e rest, s.link.2 = before ++ e :: rest → e.call = .begin →
        (isOpen e.before = true ↔ adrift before = true)) := by
  have hstart : Knows isOpen (Session.fresh d (link, ([] : List (Entry σ)))) :=
    ⟨nofun, fun _ => hlink, by simp [BegunRight, Session.fresh]⟩
  have hs : Knows isOpen (Session.runAll c.recorded ops (Session.fresh d (link, []))) :=
    (Knows.preserves hc).runAll hops [] hstart
  generalize Session.runAll c.recorded ops (Session.fresh d (link, [])) = s at hs ⊢
  refine ⟨?_, ?_, fun before e rest hrecord hcall => by rw [hs.begun before e rest hrecord hcall]⟩
  all_goals cases hopen : s.inTransaction
  · intro _
    rw [(Session.disconnect_of_closed c.recorded hopen).2, hs.closed hopen]
  · intro hok
    obtain ⟨hconnected, _, hadrift⟩ := hs.opened hopen
    obtain ⟨hresult, hafter⟩ := Session.disconnect_of_open c.recorded hconnected hopen
    rw [hresult, send_recorded] at hok
    rw [hafter, send_recorded, hadrift, hc.ends (.inr rfl) (Prod.ext hok rfl)]
  · intro hlink
    have hadrift : adrift s.link.2 = true := (hs.closed hopen).symm.trans hlink
    rw [TakesBack, Session.close_link, (Session.disconnect_of_closed c.recorded hopen).2, hadrift]
    simp
  · intro _
    obtain ⟨hconnected, _, hadrift⟩ := hs.opened hopen
    obtain ⟨_, hafter⟩ := Session.disconnect_of_open c.recorded hconnected hopen
    rw [TakesBack, Session.close_link, hafter, send_recorded, hadrift]
    simp

namespace Connection

def openAfter (sql : String) (failed before : Bool) : Bool :=
  if failed then before
  else if sql = "BEGIN" then true
  else if sql = "COMMIT" ∨ sql = "ROLLBACK" then false
  else before

def watching (sql : String) (run : σ → Except Error α × σ) (s : σ × Bool) :
    Except Error α × (σ × Bool) :=
  let r := run s.1
  (r.1, r.2, openAfter sql (failed r.1) s.2)

def watched (c : Connection σ) : Connection (σ × Bool) where
  execute sql := watching sql (c.execute sql)
  fetchOptional sql := watching sql (c.fetchOptional sql)
  fetchAll sql := watching sql (c.fetchAll sql)
  announce := c.announce

theorem send_watched (c : Connection σ) (call : Call) (s : σ × Bool) :
    call.send c.watched s =
      ((call.send c s.1).1, (call.send c s.1).2,
        openAfter call.sql (failed (call.send c s.1).1) s.2) := by
  obtain ⟨kind, sql⟩ := call
  cases kind with
  | execute =>
    simp only [Call.send, watched, watching]
    cases (c.execute sql s.1).1 <;> rfl
  | fetchOptional =>
    simp only [Call.send, watched, watching]
    cases (c.fetchOptional sql s.1).1 <;> rfl
  | fetchAll =>
    simp only [Call.send, watched, watching]
    cases (c.fetchAll sql s.1).1 <;> rfl

theorem staysOpen_watched (c : Connection σ) : StaysOpen c.watched Prod.snd where
  begins := by
    intro l l' h
    rw [send_watched] at h
    obtain ⟨hok, rfl⟩ := Prod.mk.inj h
    rw [hok]
    rfl
  ends := by
    intro l l' call hcall h
    rw [send_watched] at h
    obtain ⟨hok, rfl⟩ := Prod.mk.inj h
    rw [hok]
    rcases hcall with rfl | rfl <;> rfl
  fails := by
    intro l l' call e _ h
    rw [send_watched] at h
    obtain ⟨herror, rfl⟩ := Prod.mk.inj h
    simp [herror, failed, openAfter]
  runs := by
    intro l call hcall
    have hsql := hcall.not_mem
    simp only [List.mem_cons, List.not_mem_nil, or_false, not_or] at hsql
    rw [send_watched]
    simp [openAfter, hsql]

end Connection

namespace Sample

def busyCommit : List Operation := [
  .connect,
  .act (.statement ⟨.execute, "INSERT INTO t VALUES (1);"⟩),
  .act .commit]

theorem busyCommit_ordinary : ∀ op ∈ busyCommit, op.Ordinary := by
  simp only [busyCommit, List.forall_mem_cons, List.not_mem_nil, false_implies, implies_true]
  exact ⟨trivial, ordinary_of_prefix "INSERT" (by decide) (by decide) (by decide), trivial, trivial⟩

def busy : Script := { failing := ["COMMIT"] }

theorem busyCommit_abandoned :
    StaysOpen Script.connection.watched Prod.snd ∧ (∀ op ∈ busyCommit, op.Ordinary) ∧
    let s := Session.runAll Script.connection.watched busyCommit
      (Session.fresh .sqlite (busy, false))
    let left := Session.disconnect Script.connection.watched s
    left.1 = .ok () ∧ left.2.link.2 = true := by
  refine ⟨Script.connection.staysOpen_watched, busyCommit_ordinary, ?_⟩
  decide +kernel

/-- Neither the end of that session nor a disconnect takes the row back. -/
theorem busyCommit_adrift :
    StaysOpen Script.connection.watched Prod.snd ∧ (busy, false).2 = false ∧
    (∀ op ∈ busyCommit, op.Ordinary) ∧
    let s := Session.runAll Script.connection.watched.recorded busyCommit
      (Session.fresh .sqlite ((busy, false), []))
    let left := Session.disconnect Script.connection.watched.recorded s
    adrift s.link.2 = true ∧ left.2.link.1.2 = true ∧
      ¬ TakesBack s (s.close Script.connection.watched.recorded) := by
  refine ⟨Script.connection.staysOpen_watched, rfl, busyCommit_ordinary, ?_⟩
  intro s left
  obtain ⟨hleft, hclose, _⟩ := abandoned_iff Script.connection.staysOpen_watched .sqlite
    (by rfl : (busy, false).2 = false) busyCommit_ordinary
  have hadrift : adrift s.link.2 = true := by decide +kernel
  have hok : left.1 = .ok () := rfl
  have hopen : s.link.1.2 = true := rfl
  refine ⟨hadrift, (hleft hok).2 hadrift, fun h => ?_⟩
  have := (hclose hopen).1 h
  rw [hadrift] at this
  cases this

end Sample

end RecordMapper
