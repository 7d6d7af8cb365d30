import RecordMapper.Proofs.Catalog.Listing
import RecordMapper.Proofs.Engine.Bootstrap

namespace RecordMapper

open Session Catalog

namespace Journal

instance (j : Journal σ) : Decidable j.HasFailure :=
  inferInstanceAs (Decidable (∃ e ∈ j.calls, e.failed = true))

def made (j : Journal σ) : List Call := j.calls.map Entry.call

theorem made_journal (c : Connection σ) (call : Call) (l : σ) (j : Journal σ) :
    (c.journal call l j).made = j.made ++ [call] := by
  simp [made, Connection.journal]

theorem hasFailure_send {c : Connection σ} (call : Call) {l : σ × Journal σ}
    (h : l.2.HasFailure) : (call.send c.journaled l).2.2.HasFailure := by
  obtain ⟨e, he, hfailed⟩ := h
  rw [send_journaled]
  exact ⟨e, List.mem_append_left _ he, hfailed⟩

end Journal

namespace Sends

variable {c : Connection σ} {l l' : σ × Journal σ} {xs sent : List Call}
  {outcome : Except Error Unit}

theorem hasFailure (h : Sends c.journaled l xs sent outcome l') (hl : l.2.HasFailure) :
    l'.2.HasFailure := by
  induction h with
  | done => exact hl
  | @failed l l' call e rest hsend =>
    have hnext := Journal.hasFailure_send (c := c) call hl
    rwa [hsend] at hnext
  | @succeeded l l' l'' call rest sent outcome hsend _ ih =>
    have hnext := Journal.hasFailure_send (c := c) call hl
    rw [hsend] at hnext
    exact ih hnext

theorem of_journaled (h : Sends c.journaled l xs sent outcome l') (hj : ¬ l'.2.HasFailure) :
    outcome = .ok () ∧ Sends c l.1 xs xs (.ok ()) l'.1 ∧ l'.2.made = l.2.made ++ xs := by
  induction h with
  | done l => exact ⟨rfl, .done l.1, (List.append_nil _).symm⟩
  | @failed l l' call e rest hsend =>
    have herror : (call.send c l.1).1 = .error e := by
      rw [send_journaled] at hsend
      exact (Prod.mk.inj hsend).1
    have hnext := hasFailure_sent herror
    rw [hsend] at hnext
    exact absurd hnext hj
  | @succeeded l l' l'' call rest sent outcome hsend _ ih =>
    rw [send_journaled] at hsend
    obtain ⟨hanswer, rfl⟩ := Prod.mk.inj hsend
    obtain ⟨hok, hsends, hmade⟩ := ih hj
    exact ⟨hok, .succeeded (Prod.ext hanswer rfl) hsends, by simp [hmade, Journal.made_journal]⟩

end Sends

namespace Migration

theorem tableList_apply (c : Connection σ) (s : Session σ) :
    tableList c s = match beginIfNeeded c s with
      | (.ok _, t) =>
        ((c.fetchAll (Catalog.tableList s.dialect) t.link).1 >>= fun rows =>
          rows.mapM fun row => requiredTextAt row 0,
          t.sent c ⟨.fetchAll, Catalog.tableList s.dialect⟩)
      | (.error e, t) => (.error e, t) := by
  rw [tableList, get_bind_apply, bind_apply, fetchAll, bind_apply]
  generalize beginIfNeeded c s = r
  obtain ⟨e | u, t⟩ := r
  · rfl
  · simp only [call, liftExcept_apply]
    cases hrows : (c.fetchAll (Catalog.tableList s.dialect) t.link).1 <;>
      simp [hrows, bind, Except.bind, sent, Call.send]

theorem connected_tableList (c : Connection σ) (s : Session σ) :
    (tableList c s).2.connected = s.connected := by
  rw [tableList_apply, ← connected_beginIfNeeded c s]
  cases beginIfNeeded c s with
  | mk answer t => cases answer <;> rfl

end Migration

namespace Catalog

theorem mapM_requiredTextAt (names : List String) :
    (names.map fun name => [Value.text name]).mapM (fun row => requiredTextAt row 0) =
      .ok names :=
  mapM_of_forall₂ (List.forall₂_map_left_iff.2 (List.forall₂_same.2 fun _ _ => rfl))

variable {c : Connection σ} {kept : σ → List String} {opened : σ → Option (List String)}

structure Lists (kept : σ → List String) (opened : σ → Option (List String))
    (s : Session (σ × Journal σ)) (names : List String) (t : Session (σ × Journal σ)) : Prop where
  connected : t.connected = true
  dialect : t.dialect = .sqlite
  inTransaction : t.inTransaction = true
  kept_eq : kept t.link.1 = kept s.link.1
  opened_eq : opened t.link.1 = some (seen kept opened s.link.1)
  made_eq : t.link.2.made = s.link.2.made ++
    ((if s.inTransaction then [] else [.begin]) ++ [⟨.fetchAll, tableList .sqlite⟩])
  perm : names.Perm (listed (seen kept opened s.link.1))

theorem KeepsTables.lists_of_session (hc : KeepsTables c kept opened)
    {s : Session (σ × Journal σ)} (hs : s.connected = true) (hdialect : s.dialect = .sqlite)
    (hopen : (opened s.link.1).isSome = s.inTransaction)
    (hj : ¬ (Migration.tableList c.journaled s).2.link.2.HasFailure) :
    ∃ names t, Migration.tableList c.journaled s = (.ok names, t) ∧
      Lists kept opened s names t := by
  have hperforms := Performs.beginIfNeeded (c := c.journaled) hs
  obtain ⟨_, hsends⟩ := hperforms.sends_ok
  rw [Migration.tableList_apply, hdialect] at hj ⊢
  cases hbegin : beginIfNeeded c.journaled s with
  | mk answer t =>
    rw [hbegin] at hj hperforms hsends
    cases answer with
    | error e =>
      obtain ⟨habsurd, _⟩ := hsends.of_journaled hj
      cases habsurd
    | ok u =>
      have hbefore : ¬ t.link.2.HasFailure := fun h => hj (Journal.hasFailure_send _ h)
      obtain ⟨_, hsends, hmade⟩ := hsends.of_journaled hbefore
      obtain ⟨hkept, hopened⟩ := hc.begun hopen hsends
      cases hfetch : c.fetchAll (tableList .sqlite) t.link.1 with
      | mk result l =>
        cases result with
        | error e => exact absurd (hasFailure_sent (by rw [Call.send, hfetch]; rfl)) hj
        | ok rows =>
          obtain ⟨hsame, hstill, names, rfl, hperm⟩ := hc.lists hopened hfetch
          have hlink : (t.sent c.journaled ⟨.fetchAll, tableList .sqlite⟩).link =
              (l, c.journal ⟨.fetchAll, tableList .sqlite⟩ t.link.1 t.link.2) := by
            rw [sent, send_journaled, Call.send, hfetch]
          simp only [Database.like_sqlite_eq] at hperm
          refine ⟨names, _, Prod.ext ?_ rfl, ?_⟩
          · rw [← mapM_requiredTextAt names]
            exact congrArg (fun r => r.1 >>= fun rows => rows.mapM fun row => requiredTextAt row 0)
              hfetch
          · refine ⟨hperforms.connected.trans hs, hperforms.dialect.trans hdialect,
              hperforms.inTransaction rfl, ?_, ?_, ?_, hperm⟩
            · rw [hlink]
              exact hsame.trans hkept
            · rw [hlink]
              exact hstill
            · rw [hlink, Journal.made_journal, hmade, List.append_assoc]

end Catalog

namespace Session

theorem sends_disconnect (c : Connection σ) (s : Session σ) :
    ∃ sent, Sends c s.link (if s.connected && s.inTransaction then [.rollback] else []) sent
      (disconnect c s).1 (disconnect c s).2.link := by
  cases hopen : s.inTransaction with
  | false =>
    obtain ⟨hok, hlink⟩ := disconnect_of_closed c hopen
    rw [hok, hlink, Bool.and_false, if_neg Bool.false_ne_true]
    exact ⟨[], .done s.link⟩
  | true =>
    cases hconnected : s.connected with
    | false =>
      rw [disconnect_apply, if_pos hconnected]
      exact ⟨[], .done s.link⟩
    | true =>
      obtain ⟨hresult, hlink⟩ := disconnect_of_open c hconnected hopen
      rw [hresult, hlink]
      exact ⟨_, .one c .rollback s.link⟩

theorem link_disconnect (c : Connection σ) (s : Session σ) :
    (disconnect c (disconnect c s).2).2.link = (disconnect c s).2.link := by
  rw [disconnect_apply c s]
  split
  · rename_i hunconnected
    rw [disconnect_apply, if_pos hunconnected]
  split
  · rename_i hclosed
    exact (disconnect_of_closed (s := s.ended) c hclosed).2
  · split
    · exact (disconnect_of_closed c rfl).2
    · exact (disconnect_of_closed c rfl).2

end Session

namespace Engine

theorem withSession_apply (c : Connection σ) (work : SessionM σ α) (e : Engine σ) :
    (withSession c work e).1 =
        ((work e.session).1 >>= fun a => (disconnect c (work e.session).2).1.map fun _ => a) ∧
      (withSession c work e).2.link = (disconnect c (work e.session).2).2.link := by
  cases hwork : work e.session with
  | mk result t =>
    cases result with
    | error er =>
      have hfailed : (work >>= fun a => disconnect c >>= fun _ => pure a) e.session =
          (.error er, t) := by
        simp only [Session.bind_apply, hwork]
      refine ⟨congrArg Prod.fst hfailed, ?_⟩
      have hlink := congrArg (fun r => (r.2.close c).link) hfailed
      exact hlink.trans (close_link c t)
    | ok a =>
      have hdone : (work >>= fun a => disconnect c >>= fun _ => pure a) e.session =
          ((disconnect c t).1.map fun _ => a, (disconnect c t).2) := by
        simp only [Session.bind_apply, hwork]
        cases disconnect c t with
        | mk ended u => cases ended <;> rfl
      refine ⟨congrArg Prod.fst hdone, ?_⟩
      have hlink := congrArg (fun r => (r.2.close c).link) hdone
      exact hlink.trans ((close_link c _).trans (link_disconnect c t))

theorem hasFailure_withSession {c : Connection σ} {work : SessionM (σ × Journal σ) α}
    {e : Engine (σ × Journal σ)} (h : (work e.session).2.link.2.HasFailure) :
    (withSession c.journaled work e).2.link.2.HasFailure := by
  obtain ⟨_, hsends⟩ := sends_disconnect c.journaled (work e.session).2
  rw [(withSession_apply c.journaled work e).2]
  exact hsends.hasFailure h

/-- The calls that list the tables and drop those that are listed, each in a transaction of its own.
The first finds that of the listing open. -/
def clearing (names : List String) : List Call :=
  [.begin, ⟨.fetchAll, tableList .sqlite⟩] ++
    (Call.changes true (names.map Statement.dropTable) ++ if names = [] then [.rollback] else [])

def dropListed (c : Connection σ) (names : List String) : SessionM σ Unit := do
  Migration.runAll c (Statement.clearDatabase (← get).dialect names)
  report .info ("Dropped " ++ number names.length ++ " tables")

theorem performs_dropListed (c : Connection σ) {s : Session σ} (hs : s.connected = true)
    (names : List String) :
    Performs c (Call.changes s.inTransaction (Statement.clearDatabase s.dialect names)) (.ok ())
      (s.inTransaction && (Statement.clearDatabase s.dialect names).isEmpty) s
      (dropListed c names s) := by
  rw [dropListed, Session.get_bind_apply, ← List.append_nil (Call.changes _ _)]
  refine (Performs.runAll hs _).bind fun t _ _ hopen => ?_
  rw [← hopen]
  exact Performs.report c _ _ t

variable {c : Connection σ} {kept : σ → List String} {opened : σ → Option (List String)}

theorem hasFailure_of_listing {s : Session (σ × Journal σ)} (hs : s.connected = true)
    (h : (Migration.tableList c.journaled s).2.link.2.HasFailure) :
    ((Migration.tableList c.journaled >>= dropListed c.journaled) s).2.link.2.HasFailure := by
  have hconnected := (Migration.connected_tableList c.journaled s).trans hs
  rw [Session.bind_apply]
  cases hlist : Migration.tableList c.journaled s with
  | mk result t =>
    rw [hlist] at h hconnected
    cases result with
    | error er => exact h
    | ok names =>
      obtain ⟨_, hsends⟩ := (performs_dropListed c.journaled hconnected names).sends_ok
      exact hsends.hasFailure h

theorem cleared_of_dropListed (hc : KeepsTables c kept opened) {t : Session (σ × Journal σ)}
    (hconnected : t.connected = true) (hdialect : t.dialect = .sqlite)
    (hopen : t.inTransaction = true) (hopened : opened t.link.1 = some (kept t.link.1))
    {names : List String} :
    let dropped := dropListed c.journaled names t
    let ended := disconnect c.journaled dropped.2
    ¬ ended.2.link.2.HasFailure → dropped.1 = .ok () ∧ ended.1 = .ok () ∧
      ended.2.link.2.made = t.link.2.made ++
        (Call.changes true (names.map Statement.dropTable) ++
          if names = [] then [.rollback] else []) ∧
      kept ended.2.link.1 = without names (kept t.link.1) ∧ opened ended.2.link.1 = none := by
  intro dropped ended hj
  have hperforms := performs_dropListed c.journaled hconnected names
  obtain ⟨_, hdrops⟩ := hperforms.sends_ok
  obtain ⟨_, hends⟩ := sends_disconnect c.journaled dropped.2
  -- a failure among the drops would still be in the journal at the end
  obtain ⟨hdropped, hdrops, hmade⟩ := hdrops.of_journaled fun h => hj (hends.hasFailure h)
  obtain ⟨hended, hends, hmade'⟩ := hends.of_journaled hj
  have hstill := hperforms.inTransaction hdropped
  rw [hopen, hdialect, Statement.clearDatabase] at hdrops hmade hstill
  have hlast : (if dropped.2.connected && dropped.2.inTransaction then [Call.rollback] else []) =
      if names = [] then [.rollback] else [] := by
    rw [hperforms.connected, hconnected, hstill]
    cases names <;> rfl
  rw [hlast] at hends hmade'
  obtain ⟨hleft, hnone⟩ := hc.cleared hopened (hdrops.append hends)
  exact ⟨hdropped, hended, by rw [hmade', hmade, List.append_assoc], hleft, hnone⟩

theorem cleared_of_dropAllTables (hc : KeepsTables c kept opened) {e : Engine (σ × Journal σ)}
    (hdialect : e.dialect = .sqlite) (hclosed : opened e.link.1 = none) :
    let done := dropAllTables c.journaled e
    ¬ done.2.link.2.HasFailure → ∃ names, done.1 = .ok () ∧
      names.Perm (listed (kept e.link.1)) ∧ done.2.link.2.made = e.link.2.made ++ clearing names ∧
      kept done.2.link.1 = overlooked (kept e.link.1) ∧ opened done.2.link.1 = none := by
  intro done hj
  have hsession : (opened e.session.link.1).isSome = e.session.inTransaction := by
    show (opened e.link.1).isSome = false
    rw [hclosed, Option.isSome_none]
  have hseen : seen kept opened e.session.link.1 = kept e.link.1 := by
    show seen kept opened e.link.1 = kept e.link.1
    rw [seen, hclosed, Option.getD_none]
  obtain ⟨names, t, hlist, ht⟩ := hc.lists_of_session (s := e.session) rfl hdialect hsession
    fun h => hj (hasFailure_withSession (hasFailure_of_listing rfl h))
  have hopened : opened t.link.1 = some (kept t.link.1) := by
    rw [ht.opened_eq, ht.kept_eq, hseen]
    rfl
  obtain ⟨hresult, hlink⟩ := withSession_apply c.journaled
    (Migration.tableList c.journaled >>= dropListed c.journaled) e
  rw [Session.bind_apply, hlist] at hresult hlink
  replace hresult : done.1 = _ := hresult
  replace hlink : done.2.link = _ := hlink
  rw [hlink] at hj ⊢
  obtain ⟨hdropped, hended, hmade, hleft, hnone⟩ :=
    cleared_of_dropListed hc ht.connected ht.dialect ht.inTransaction hopened hj
  rw [hresult, hdropped, hended]
  refine ⟨names, rfl, hseen ▸ ht.perm, ?_, ?_, hnone⟩
  · rw [hmade, ht.made_eq, List.append_assoc]
    rfl
  · rw [hleft, ht.kept_eq]
    exact without_listed (hseen ▸ ht.perm)

end Engine

open Database (isReserved isLookalike)

/-- Where no call fails, the tables of the user are listed, each once, and each is dropped in a
transaction that is committed, but for those whose names only look reserved. So exactly if there is
none of these, no table is missing from a listing, and none of the user is left. -/
theorem cleared_iff {c : Connection σ} {kept : σ → List String}
    {opened : σ → Option (List String)} (hc : KeepsTables c kept opened) :
    (∀ s : Session (σ × Journal σ), s.connected = true → s.dialect = .sqlite →
      (opened s.link.1).isSome = s.inTransaction →
      let names := seen kept opened s.link.1
      let listing := Migration.tableList c.journaled s
      ¬ listing.2.link.2.HasFailure → ∃ found, listing.1 = .ok found ∧ found.Perm (listed names) ∧
        (found.Perm (users names) ↔ ∀ name ∈ names, isLookalike name = false)) ∧
    ∀ e : Engine (σ × Journal σ), e.dialect = .sqlite → opened e.link.1 = none →
      let names := kept e.link.1
      let done := Engine.dropAllTables c.journaled e
      ¬ done.2.link.2.HasFailure → ∃ found, done.1 = .ok () ∧ found.Perm (listed names) ∧
        done.2.link.2.made = e.link.2.made ++ Engine.clearing found ∧
        kept done.2.link.1 = overlooked names ∧ opened done.2.link.1 = none ∧
        (users (kept done.2.link.1) = [] ↔ ∀ name ∈ names, isLookalike name = false) := by
  constructor
  · intro s hs hdialect hopen names listing hj
    obtain ⟨found, t, hlist, ht⟩ := hc.lists_of_session hs hdialect hopen hj
    exact ⟨found, congrArg Prod.fst hlist, ht.perm, perm_users_iff ht.perm⟩
  · intro e hdialect hclosed names done hj
    obtain ⟨found, hok, hperm, hmade, hleft, hnone⟩ :=
      Engine.cleared_of_dropAllTables hc hdialect hclosed hj
    exact ⟨found, hok, hperm, hmade, hleft, hnone, hleft ▸ users_overlooked_iff names⟩

namespace Sample

open Database

def titles (name : String) : StoredTable where
  definition := { name, columns := [{ name := "title", type := "TEXT" }], foreignKeys := [] }

def archive (names : List String) : Engine (Database × Journal Database) :=
  .opened .sqliteMemory 1 ({ durable := { tables := names.map titles } }, {})

def mixed : Engine (Database × Journal Database) := archive ["say \"when\"", "SQLiteFiles"]

theorem mixed_cleared :
    KeepsTables connection (fun db => db.durable.names) (fun db => db.working.map Store.names) ∧
    mixed.session.connected = true ∧ mixed.dialect = .sqlite ∧ mixed.link.1.working = none ∧
    ¬ (Migration.tableList connection.journaled mixed.session).2.link.2.HasFailure ∧
    (∃ found, (Migration.tableList connection.journaled mixed.session).1 = .ok found ∧
      found.Perm ["say \"when\""]) ∧
    let done := Engine.dropAllTables connection.journaled mixed
    ¬ done.2.link.2.HasFailure ∧ done.1 = .ok () ∧
      done.2.link.1.durable.names = ["SQLiteFiles"] ∧
      done.2.link.1.working.map Store.names = none := by
  obtain ⟨hlists, hdrops⟩ := cleared_iff keepsTables
  have hlisting :
      ¬ (Migration.tableList connection.journaled mixed.session).2.link.2.HasFailure := by
    decide +kernel
  have hdone : ¬ (Engine.dropAllTables connection.journaled mixed).2.link.2.HasFailure := by
    decide +kernel
  have hlisted : listed mixed.link.1.durable.names = ["say \"when\""] := by decide
  have hleft : overlooked mixed.link.1.durable.names = ["SQLiteFiles"] := by decide
  obtain ⟨found, hfound, hperm, _⟩ := hlists mixed.session rfl rfl rfl hlisting
  obtain ⟨_, hok, _, _, hkept, hnone, _⟩ := hdrops mixed rfl rfl hdone
  exact ⟨keepsTables, rfl, rfl, rfl, hlisting, ⟨found, hfound, hlisted ▸ hperm⟩, hdone, hok,
    hkept.trans hleft, hnone⟩

/-- A table of the user that is neither listed nor dropped, though nothing fails. -/
theorem sqlitefiles_left :
    let e := archive ["orm_db_version", "sqlitefiles"]
    let listing := Migration.tableList connection.journaled e.session
    let done := Engine.dropAllTables connection.journaled e
    isReserved "sqlitefiles" = false ∧ "sqlitefiles" ∈ e.link.1.durable.names ∧
      ¬ listing.2.link.2.HasFailure ∧ listing.1 = .ok ["orm_db_version"] ∧
      ¬ done.2.link.2.HasFailure ∧ done.1 = .ok () ∧
      done.2.link.1.durable.names = ["sqlitefiles"] := by
  decide +kernel

end Sample

end RecordMapper
