import RecordMapper.Proofs.Engine.Journal
import RecordMapper.Proofs.Session.Durability
import RecordMapper.Proofs.Session.Wire

namespace RecordMapper

open Session Request SchemaVersion

/-- A version table behind a connection with transactions. `stored` lists its rows, none where it is
missing, and has no answer where another table bears its name. Statements may fail. -/
structure KeepsVersions (c : Connection σ) (working : σ → Option δ) (effect : Call → δ → δ)
    (stored : δ → Option (List Int64)) (d : Dialect) : Prop where
  creates {l l' : σ} {w : δ} {rows : List Int64} : working l = some w → stored w = some rows →
    Call.send c ⟨.execute, creation d⟩ l = (.ok (), l') →
    stored (effect ⟨.execute, creation d⟩ w) = some rows
  reads {l : σ} {w : δ} {rows : List Int64} {row : Option Row} : working l = some w →
    stored w = some rows → (c.fetchOptional query l).1 = .ok row →
    stored (effect reading w) = some rows ∧
      (row = none ∧ rows = [] ∨ ∃ v ∈ rows, row = some [.integer v])
  inserts {l l' : σ} {w : δ} {rows : List Int64} {v : Int64} : working l = some w →
    stored w = some rows → Call.send c ⟨.execute, insertion d v⟩ l = (.ok (), l') →
    stored (effect ⟨.execute, insertion d v⟩ w) = some (rows ++ [v])
  updates {l l' : σ} {w : δ} {rows : List Int64} {v : Int64} : working l = some w →
    stored w = some rows → Call.send c ⟨.execute, change d v⟩ l = (.ok (), l') →
    stored (effect ⟨.execute, change d v⟩ w) = some (rows.map fun _ => v)

def Spares (effect : Call → δ → δ) (stored : δ → Option (List Int64)) (call : Call) : Prop :=
  call ≠ reading ∧
    ∀ w rows, stored w = some rows → stored (effect call w) = some rows

structure Slim (durable : σ → δ) (working : σ → Option δ) (stored : δ → Option (List Int64))
    (l : σ) : Prop where
  kept : ∃ rows, stored (durable l) = some rows ∧ rows.length ≤ 1
  opened : ∀ w, working l = some w → ∃ rows, stored w = some rows ∧ rows.length ≤ 1

def Journal.HasFailure (j : Journal σ) : Prop := ∃ e ∈ j.calls, e.failed = true

theorem hasFailure_sent {c : Connection σ} {call : Call} {l : σ × Journal σ} {e : Error}
    (h : (call.send c l.1).1 = .error e) : (call.send c.journaled l).2.2.HasFailure := by
  rw [send_journaled]
  refine ⟨⟨call, l.1, failed (call.send c l.1).1⟩, ?_, ?_⟩
  · simp [Connection.journal]
  · rw [h]
    rfl

/-- A connected session, the rows that last, those that its transaction sees, and what was seen. -/
structure Holds (durable : σ → δ) (working : σ → Option δ) (stored : δ → Option (List Int64))
    (kept opened : List Int64) (sights : List Sight) (s : Session (σ × Journal σ)) : Prop where
  connected : s.connected = true
  durable_eq : stored (durable s.link.1) = some kept
  working_open : s.inTransaction = true → ∃ w, working s.link.1 = some w ∧ stored w = some opened
  working_closed : s.inTransaction = false → working s.link.1 = none ∧ opened = kept
  few : kept.length ≤ 1 ∧ opened.length ≤ 1
  sights_eq : s.link.2.sights = sights
  slim : ∀ e ∈ s.link.2.calls, Slim durable working stored e.before

namespace Holds

variable {c : Connection σ} {durable : σ → δ} {working : σ → Option δ} {effect : Call → δ → δ}
  {stored : δ → Option (List Int64)} {kept opened : List Int64} {sights : List Sight}
  {s t : Session (σ × Journal σ)}

theorem slim_link (hs : Holds durable working stored kept opened sights s) :
    Slim durable working stored s.link.1 where
  kept := ⟨kept, hs.durable_eq, hs.few.1⟩
  opened := by
    intro w hw
    cases hopen : s.inTransaction with
    | false =>
      rw [(hs.working_closed hopen).1] at hw
      contradiction
    | true =>
      obtain ⟨w', hw', hrows⟩ := hs.working_open hopen
      cases hw.symm.trans hw'
      exact ⟨opened, hrows, hs.few.2⟩

theorem slim_sent (hs : Holds durable working stored kept opened sights s) (call : Call) :
    ∀ e ∈ (call.send c.journaled s.link).2.2.calls, Slim durable working stored e.before := by
  intro e he
  rw [send_journaled] at he
  rcases List.mem_append.1 he with he | he
  · exact hs.slim e he
  · obtain rfl := List.mem_singleton.1 he
    exact hs.slim_link

theorem sights_sent (hs : Holds durable working stored kept opened sights s) {call : Call}
    (hcall : call ≠ reading) :
    (call.send c.journaled s.link).2.2.sights = sights := by
  rw [send_journaled]
  simp [Connection.journal, c.sights_of_ne hcall, hs.sights_eq]

theorem pendingWrites (hs : Holds durable working stored kept opened sights s) (b : Bool) :
    Holds durable working stored kept opened sights { s with pendingWrites := b } :=
  ⟨hs.connected, hs.durable_eq, hs.working_open, hs.working_closed, hs.few, hs.sights_eq, hs.slim⟩

theorem logged (hs : Holds durable working stored kept opened sights s) (level : LogLevel)
    (text : String) : Holds durable working stored kept opened sights (s.logged level text) :=
  ⟨hs.connected, hs.durable_eq, hs.working_open, hs.working_closed, hs.few, hs.sights_eq, hs.slim⟩

theorem begun (hc : Transactional c durable working effect)
    (hs : Holds durable working stored kept opened sights s) {result : Except Error Unit}
    (h : beginIfNeeded c.journaled s = (result, t)) :
    Holds durable working stored kept opened sights t ∧
      ((result = .ok () ∧ t.inTransaction = true) ∨
        ∃ e, result = .error e ∧ t.link.2.HasFailure) := by
  cases begins_of_eq c.journaled h with
  | refused hunconnected =>
    rw [hs.connected] at hunconnected
    contradiction
  | already _ hopen => exact ⟨hs, .inl ⟨rfl, hopen⟩⟩
  | began hconnected hclosed hsend =>
    rw [send_journaled] at hsend
    obtain ⟨hok, _⟩ := Prod.mk.inj hsend
    obtain ⟨hworking, rfl⟩ := hs.working_closed hclosed
    obtain ⟨hdurable, hworking⟩ := hc.begins hworking (Prod.ext hok rfl)
    refine ⟨⟨hconnected, ?_, fun _ => ?_, nofun, hs.few, hs.sights_sent (execute_ne_reading _),
      hs.slim_sent .begin⟩, .inl ⟨rfl, rfl⟩⟩
    · simpa [sent, send_journaled, hdurable] using hs.durable_eq
    · exact ⟨_, by simpa [sent, send_journaled] using hworking, hs.durable_eq⟩
  | @failed l e hconnected hclosed hsend =>
    rw [send_journaled] at hsend
    obtain ⟨herror, _⟩ := Prod.mk.inj hsend
    obtain ⟨hworking, rfl⟩ := hs.working_closed hclosed
    obtain ⟨hdurable, hworking⟩ := hc.beginFails hworking (Prod.ext herror rfl)
    refine ⟨⟨hconnected, ?_, fun h => ?_, fun _ => ?_, hs.few,
      hs.sights_sent (execute_ne_reading _), hs.slim_sent .begin⟩,
      .inr ⟨e, rfl, hasFailure_sent herror⟩⟩
    · simpa [sent, send_journaled, hdurable] using hs.durable_eq
    · exact absurd (hclosed.symm.trans h) (by simp)
    · exact ⟨by simpa [sent, send_journaled] using hworking, rfl⟩

theorem sent_ok (hc : Transactional c durable working effect)
    (hs : Holds durable working stored kept opened sights s) (hopen : s.inTransaction = true)
    {call : Call} (hcall : Ordinary call.sql) (h : (call.send c s.link.1).1 = .ok ())
    {rows : List Int64} (hrows : ∀ w, working s.link.1 = some w → stored w = some opened →
      stored (effect call w) = some rows) (hfew : rows.length ≤ 1) :
    Holds durable working stored kept rows (sights ++ c.sights call s.link.1)
      (s.sent c.journaled call) := by
  obtain ⟨w, hw, hopened⟩ := hs.working_open hopen
  obtain ⟨hdurable, hworking⟩ := hc.runs hcall hw (Prod.ext h rfl)
  refine ⟨hs.connected, ?_, fun _ => ⟨effect call w, ?_, hrows w hw hopened⟩, fun h => ?_,
    ⟨hs.few.1, hfew⟩, ?_, hs.slim_sent call⟩
  · simpa [sent, send_journaled, hdurable] using hs.durable_eq
  · simpa [sent, send_journaled] using hworking
  · exact absurd (hopen.symm.trans h) (by simp)
  · simp [sent, send_journaled, Connection.journal, hs.sights_eq]

theorem sent_error (hc : Transactional c durable working effect)
    (hs : Holds durable working stored kept opened sights s) (hopen : s.inTransaction = true)
    {call : Call} (hcall : Ordinary call.sql) {e : Error}
    (h : (call.send c s.link.1).1 = .error e) :
    Holds durable working stored kept opened sights (s.sent c.journaled call) := by
  obtain ⟨w, hw, hopened⟩ := hs.working_open hopen
  obtain ⟨hdurable, hworking⟩ := hc.runFails hcall hw (Prod.ext h rfl)
  refine ⟨hs.connected, ?_, fun _ => ⟨w, ?_, hopened⟩, fun h => ?_, hs.few, ?_,
    hs.slim_sent call⟩
  · simpa [sent, send_journaled, hdurable] using hs.durable_eq
  · simpa [sent, send_journaled] using hworking
  · exact absurd (hopen.symm.trans h) (by simp)
  · simp [sent, send_journaled, Connection.journal, Connection.sights_of_error h, hs.sights_eq]

theorem stated (hc : Transactional c durable working effect)
    (hs : Holds durable working stored kept opened sights s) {call : Call}
    (hcall : Ordinary call.sql) (hne : call ≠ reading) {rows : List Int64}
    (hrows : ∀ {l l' w}, working l = some w → stored w = some opened →
      call.send c l = (.ok (), l') → stored (effect call w) = some rows) (hfew : rows.length ≤ 1)
    {result : Except Error Unit} (h : statement c.journaled call s = (result, t)) :
    (result = .ok () ∧ Holds durable working stored kept rows sights t) ∨
      ∃ e, result = .error e ∧ Holds durable working stored kept opened sights t ∧
        t.link.2.HasFailure := by
  rcases statement_cases c.journaled h with ⟨e, hbegin, rfl⟩ | ⟨begun, p, hbegin, hsend, rfl⟩
  · obtain ⟨ht, ⟨habsurd, _⟩ | ⟨_, _, hfailure⟩⟩ := hs.begun hc hbegin
    · contradiction
    · exact .inr ⟨e, rfl, ht, hfailure⟩
  · obtain ⟨hbegun, ⟨_, hopen⟩ | ⟨_, habsurd, _⟩⟩ := hs.begun hc hbegin
    · have hpending := hbegun.pendingWrites p
      rw [send_journaled] at hsend
      cases result with
      | ok u =>
        have hsent := hpending.sent_ok hc hopen hcall hsend
          (fun w hw hopened => hrows hw hopened (Prod.ext hsend rfl)) hfew
        rw [c.sights_of_ne hne, List.append_nil] at hsent
        exact .inl ⟨rfl, hsent⟩
      | error e => exact .inr ⟨e, rfl, hpending.sent_error hc hopen hcall hsend,
          hasFailure_sent hsend⟩
    · contradiction

theorem committed (hc : Transactional c durable working effect)
    (hs : Holds durable working stored kept opened sights s) :
    ∃ t, commit c.journaled s = (.ok (), t) ∧
      Holds durable working stored opened opened sights t := by
  rw [commit_apply]
  split
  · rename_i hopen
    obtain ⟨w, hw, hopened⟩ := hs.working_open hopen
    obtain ⟨l, hsend, hdurable, hworking⟩ := hc.commits hw
    refine ⟨_, Prod.ext (by rw [send_journaled, hsend]) rfl, ?_⟩
    refine ⟨hs.connected, ?_, nofun, fun _ => ⟨?_, rfl⟩, ⟨hs.few.2, hs.few.2⟩,
      hs.sights_sent (execute_ne_reading _), hs.slim_sent .commit⟩
    · simpa [sent, send_journaled, hsend, hdurable] using hopened
    · simp [sent, send_journaled, hsend, hworking]
  · rename_i hclosed
    rw [Bool.not_eq_true] at hclosed
    obtain ⟨hworking, rfl⟩ := hs.working_closed hclosed
    exact ⟨s, rfl, hs⟩

theorem changed (hc : Transactional c durable working effect)
    (hs : Holds durable working stored kept opened sights s) {sql : String}
    (hsql : RecordMapper.Ordinary sql) {rows : List Int64}
    (hrows : ∀ {l l' w}, working l = some w → stored w = some opened →
      Call.send c ⟨.execute, sql⟩ l = (.ok (), l') →
      stored (effect ⟨.execute, sql⟩ w) = some rows) (hfew : rows.length ≤ 1)
    {result : Except Error Unit}
    (h : meetAll c.journaled (Request.change sql) s = (result, t)) :
    (result = .ok () ∧ Holds durable working stored rows rows sights t) ∨
      ∃ e, result = .error e ∧ Holds durable working stored kept opened sights t ∧
        t.link.2.HasFailure := by
  have hcall : RecordMapper.Ordinary (Call.sql ⟨.execute, sql⟩) := hsql
  rw [Request.change, meetAll, bind_apply] at h
  cases hmeet : meet c.journaled (.statement ⟨.execute, sql⟩) s with
  | mk answer next =>
    rw [hmeet] at h
    rcases hs.stated hc hcall (execute_ne_reading sql) hrows hfew hmeet with
      ⟨rfl, hnext⟩ | ⟨e, rfl, hnext⟩
    · obtain ⟨u, hcommit, hu⟩ := hnext.committed hc
      simp only [meetAll_singleton, meet, hcommit] at h
      cases h
      exact .inl ⟨rfl, hu⟩
    · cases h
      exact .inr ⟨e, rfl, hnext⟩

theorem spared (hc : Transactional c durable working effect)
    (hs : Holds durable working stored kept kept sights s) {rs : List Request}
    (hrs : ∀ r ∈ rs, r.Ordinary)
    (hspares : ∀ call, .statement call ∈ rs → Spares effect stored call) :
    Holds durable working stored kept kept sights (meetAll c.journaled rs s).2 := by
  induction rs generalizing s with
  | nil => exact hs
  | cons r rs ih =>
    have hnext : Holds durable working stored kept kept sights (meet c.journaled r s).2 := by
      cases r with
      | statement call =>
        obtain ⟨hne, heffect⟩ := hspares call (List.mem_cons_self ..)
        rcases hs.stated hc (hrs _ (List.mem_cons_self ..)) hne
          (fun _ hopened _ => heffect _ _ hopened) hs.few.1 (Prod.ext rfl rfl) with
          ⟨_, hnext⟩ | ⟨_, _, hnext, _⟩
        · exact hnext
        · exact hnext
      | commit =>
        obtain ⟨t, hcommit, ht⟩ := hs.committed hc
        rw [meet, hcommit]
        exact ht
      | report level text => exact hs.logged level text
      | fail e => exact hs
    rw [meetAll, bind_apply]
    cases hmeet : meet c.journaled r s with
    | mk result next =>
      rw [hmeet] at hnext
      cases result with
      | error e => exact hnext
      | ok u =>
        exact ih hnext (fun q hq => hrs q (List.mem_cons_of_mem r hq))
          fun call hcall => hspares call (List.mem_cons_of_mem r hcall)

end Holds

theorem fetchOne_apply (c : Connection σ) (sql : String) (s : Session σ) :
    fetchOne c sql s = match beginIfNeeded c s with
      | (.ok _, s) => ((c.fetchOptional sql s.link).1, s.sent c ⟨.fetchOptional, sql⟩)
      | (.error e, s) => (.error e, s) := by
  rw [fetchOne, bind_apply]
  generalize beginIfNeeded c s = r
  obtain ⟨e | u, t⟩ := r <;> rfl

theorem send_fetchOptional (c : Connection σ) (sql : String) (l : σ) :
    (Call.send c ⟨.fetchOptional, sql⟩ l).1 = (c.fetchOptional sql l).1.map fun _ => () := rfl

theorem dialect_fetchOne (c : Connection σ) (sql : String) (s : Session σ) :
    (fetchOne c sql s).2.dialect = s.dialect := by
  have hstatement : (Session.statement c ⟨.fetchOptional, sql⟩ s).2 = (fetchOne c sql s).2 := by
    simp [Session.statement, discard_apply]
  rw [← hstatement]
  exact dialect_runAll c [.act (.statement ⟨.fetchOptional, sql⟩)] s

def Plan.Spares (d : Dialect) (effect : Call → δ → δ) (stored : δ → Option (List Int64))
    (p : Plan σ) : Prop :=
  ∀ s, ∀ a ∈ (p s).1, a.Ordinary ∧
    ∀ call, .statement call ∈ a.requests d → RecordMapper.Spares effect stored call

namespace Holds

variable {c : Connection σ} {durable : σ → δ} {working : σ → Option δ} {effect : Call → δ → δ}
  {stored : δ → Option (List Int64)} {kept opened : List Int64} {sights : List Sight}
  {s t : Session (σ × Journal σ)}

theorem runAll_spared (hc : Transactional c durable working effect)
    (hs : Holds durable working stored kept kept sights s) {actions : List Action}
    (hspares : ∀ a ∈ actions, a.Ordinary ∧
      ∀ call, .statement call ∈ a.requests s.dialect → Spares effect stored call) :
    Holds durable working stored kept kept sights
      (runAll c.journaled (actions.map .act) s) := by
  induction actions generalizing s with
  | nil => exact hs
  | cons a actions ih =>
    obtain ⟨hordinary, hstatements⟩ := hspares a (List.mem_cons_self ..)
    have hdialect := dialect_runAll c.journaled [.act a] s
    refine ih ?_ fun b hb => ?_
    · rw [Operation.run, a.state_run]
      exact hs.spared hc (a.ordinary_requests hordinary _) hstatements
    · rw [show ((Operation.act a).run c.journaled s).2.dialect = s.dialect from hdialect]
      exact hspares b (List.mem_cons_of_mem a hb)

theorem hooked (hc : Transactional c durable working effect)
    (hs : Holds durable working stored kept kept sights s) {p : Plan σ}
    (hp : p.Spares s.dialect effect stored) (call : HookCall) :
    Holds durable working stored kept kept
      (sights ++ [.hook call (failed (p.hook c call s).1)]) (p.hook c call s).2 := by
  have hdone := hs.runAll_spared hc (hp s)
  exact ⟨hdone.connected, hdone.durable_eq, hdone.working_open, hdone.working_closed, hdone.few,
    by rw [← hdone.sights_eq]; rfl, hdone.slim⟩

theorem read (hc : Transactional c durable working effect) {d : Dialect}
    (hv : KeepsVersions c working effect stored d)
    (hs : Holds durable working stored kept opened sights s) {result : Except Error (Option Row)}
    (h : fetchOne c.journaled query s = (result, t)) :
    (∃ row, result = .ok row ∧
        Holds durable working stored kept opened (sights ++ [.read row]) t ∧
        (row = none ∧ opened = [] ∨ ∃ v ∈ opened, row = some [.integer v])) ∨
      ∃ e, result = .error e ∧ Holds durable working stored kept opened sights t := by
  rw [fetchOne_apply] at h
  cases hbegin : beginIfNeeded c.journaled s with
  | mk answer begun =>
    rw [hbegin] at h
    obtain ⟨hbegun, ⟨rfl, hopen⟩ | ⟨e, rfl, _⟩⟩ := hs.begun hc hbegin
    · obtain ⟨hresult, rfl⟩ := Prod.mk.inj h
      rw [fetchOptional_journaled] at hresult
      cases result with
      | error e =>
        have hsend := (send_fetchOptional c query begun.link.1).trans (congrArg _ hresult)
        exact .inr ⟨e, rfl, hbegun.sent_error hc hopen ordinary_reading hsend⟩
      | ok row =>
        have hsend := (send_fetchOptional c query begun.link.1).trans (congrArg _ hresult)
        obtain ⟨w, hw, hopened⟩ := hbegun.working_open hopen
        have hsent := hbegun.sent_ok hc hopen ordinary_reading hsend
          (fun w hw hopened => (hv.reads hw hopened hresult).1) hbegun.few.2
        rw [Connection.sights_of_read hresult] at hsent
        exact .inl ⟨row, rfl, hsent, (hv.reads hw hopened hresult).2⟩
    · cases h
      exact .inr ⟨e, rfl, hbegun⟩

end Holds

structure Rests (durable : σ → δ) (working : σ → Option δ) (stored : δ → Option (List Int64))
    (kept : List Int64) (sights : List Sight) (l : σ × Journal σ) : Prop where
  durable_eq : stored (durable l.1) = some kept
  working_eq : working l.1 = none
  few : kept.length ≤ 1
  sights_eq : l.2.sights = sights
  slim : ∀ e ∈ l.2.calls, Slim durable working stored e.before

section

variable {c : Connection σ} {durable : σ → δ} {working : σ → Option δ} {effect : Call → δ → δ}
  {stored : δ → Option (List Int64)} {kept opened : List Int64} {sights : List Sight}
  {s t : Session (σ × Journal σ)}

theorem Rests.holds (hs : Rests durable working stored kept sights s.link)
    (hconnected : s.connected = true) (hclosed : s.inTransaction = false) :
    Holds durable working stored kept kept sights s :=
  ⟨hconnected, hs.durable_eq, fun h => absurd (hclosed.symm.trans h) (by simp),
    fun _ => ⟨hs.working_eq, rfl⟩, ⟨hs.few, hs.few⟩, hs.sights_eq, hs.slim⟩

theorem Holds.disconnected (hc : Transactional c durable working effect)
    (hs : Holds durable working stored kept opened sights s) :
    ∃ t, disconnect c.journaled s = (.ok (), t) ∧ s.close c.journaled = t ∧ t.connected = false ∧
      Rests durable working stored kept sights t.link ∧
      (s.link.2.HasFailure → t.link.2.HasFailure) := by
  have hclose : ∀ t, disconnect c.journaled s = (.ok (), t) → s.close c.journaled = t := by
    intro t h
    rw [close, h]
  rw [disconnect_apply, if_neg (by simp [hs.connected])] at hclose ⊢
  cases hopen : s.inTransaction with
  | false =>
    rw [if_pos hopen] at hclose
    obtain ⟨hworking, _⟩ := hs.working_closed hopen
    exact ⟨s.ended, rfl, hclose _ rfl, rfl,
      ⟨hs.durable_eq, hworking, hs.few.1, hs.sights_eq, hs.slim⟩, id⟩
  | true =>
    obtain ⟨w, hw, _⟩ := hs.working_open hopen
    obtain ⟨l, hsend, hdurable, hworking⟩ := hc.rollsBack hw
    have hok : (Call.rollback.send c.journaled s.link).1 = .ok () := by
      rw [send_journaled, hsend]
    rw [if_neg (by simp [hopen]), hok] at hclose
    simp only [Bool.true_eq_false, if_false, hok]
    refine ⟨_, rfl, hclose _ rfl, rfl, ?_, fun hfailure => ?_⟩
    · rw [ended_link, rolledBack_link]
      refine ⟨?_, ?_, hs.few.1, hs.sights_sent (execute_ne_reading _), hs.slim_sent .rollback⟩
      · simpa [send_journaled, hsend, hdurable] using hs.durable_eq
      · simp [send_journaled, hsend, hworking]
    · rw [ended_link, rolledBack_link, send_journaled]
      obtain ⟨e, he, hfailed⟩ := hfailure
      exact ⟨e, List.mem_append_left _ he, hfailed⟩

end

end RecordMapper
