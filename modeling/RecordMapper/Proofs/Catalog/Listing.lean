import RecordMapper.Proofs.Database.Names
import RecordMapper.Proofs.Database.Transactions
import RecordMapper.Proofs.Migration.Steps
import RecordMapper.Proofs.Sql.Statements

/-!
The tables that the catalog query lists, and what is left when these are dropped.
Main statements: the query overlooks tables whose names look reserved, and calls that drop all
tables that it lists leave these.
-/

namespace RecordMapper

open Database Sql Token

namespace Catalog

def users (names : List String) : List String := names.filter fun name => !isReserved name

/-- The tables that no listing names. -/
def overlooked (names : List String) : List String :=
  names.filter fun name => isReserved name || isLookalike name

def listed (names : List String) : List String :=
  names.filter fun name => !(isReserved name || isLookalike name)

theorem perm_users_iff {listing names : List String} (h : listing.Perm (listed names)) :
    listing.Perm (users names) ↔ ∀ name ∈ names, isLookalike name = false := by
  have hsublist : (listed names).Sublist (users names) :=
    List.monotone_filter_right names fun name hname => by simp_all
  constructor
  · intro husers name hname
    have heq := hsublist.eq_of_length (h.symm.trans husers).length_eq
    by_contra hlike
    rw [Bool.not_eq_false] at hlike
    have hmem : name ∈ users names :=
      List.mem_filter.2 ⟨hname, by simp [isReserved_of_isLookalike hlike]⟩
    rw [← heq] at hmem
    simpa [hlike] using (List.mem_filter.1 hmem).2
  · intro hlike
    have heq : listed names = users names :=
      List.filter_congr fun name hname => by simp [hlike name hname]
    exact heq ▸ h

theorem users_overlooked_iff (names : List String) :
    users (overlooked names) = [] ↔ ∀ name ∈ names, isLookalike name = false := by
  simp only [users, overlooked, List.filter_filter, List.filter_eq_nil_iff]
  refine forall₂_congr fun name _ => ?_
  cases hlike : isLookalike name with
  | false => cases isReserved name <;> simp
  | true => simp [isReserved_of_isLookalike hlike]

def without (dropped names : List String) : List String :=
  dropped.foldl (fun names name => names.filter fun other => !sameName other name) names

theorem without_eq (dropped names : List String) :
    without dropped names = names.filter fun other => !dropped.any (sameName other) := by
  induction dropped generalizing names with
  | nil => simp [without]
  | cons name dropped ih =>
    have hrest := ih (names.filter fun other => !sameName other name)
    rw [without] at hrest
    rw [without, List.foldl_cons, hrest, List.filter_filter]
    refine List.filter_congr fun other _ => ?_
    rw [List.any_cons, Bool.not_or, Bool.and_comm]

theorem without_listed {listing names : List String} (h : listing.Perm (listed names)) :
    without listing names = overlooked names := by
  rw [without_eq]
  refine List.filter_congr fun name hname => ?_
  cases hlike : isReserved name || isLookalike name with
  | false =>
    have hmem : name ∈ listing := h.mem_iff.2 (List.mem_filter.2 ⟨hname, by simp [hlike]⟩)
    simpa using ⟨name, hmem, sameName_self name⟩
  | true =>
    rw [Bool.not_eq_true', List.any_eq_false]
    intro other hother hsame
    have hfound := (List.mem_filter.1 (h.mem_iff.1 hother)).2
    rw [← like_sqlite_eq, like_sqlite_congr hsame, like_sqlite_eq] at hlike
    simp [hlike] at hfound

/-- A catalog behind a connection with transactions: the names of the tables that last, and of those
that the open transaction sees. Nothing is said of calls that fail. -/
structure KeepsTables (c : Connection σ) (kept : σ → List String)
    (opened : σ → Option (List String)) : Prop where
  begins {l l' : σ} : opened l = none → Call.begin.send c l = (.ok (), l') →
    kept l' = kept l ∧ opened l' = some (kept l)
  -- The tables unlike the pattern are listed, each in a row of its own.
  lists {l l' : σ} {names : List String} {rows : List Row} : opened l = some names →
    c.fetchAll (tableList .sqlite) l = (.ok rows, l') →
    kept l' = kept l ∧ opened l' = some names ∧ ∃ listing : List String,
      rows = listing.map (fun name => [.text name]) ∧
        listing.Perm (names.filter fun name => !like "sqlite_%".toList name.toList)
  drops {l l' : σ} {names : List String} {sql name : String} : opened l = some names →
    Command.read? sql = some (.dropTable name) → Call.send c ⟨.execute, sql⟩ l = (.ok (), l') →
    kept l' = kept l ∧ opened l' = some (names.filter fun other => !sameName other name)
  commits {l l' : σ} {names : List String} : opened l = some names →
    Call.commit.send c l = (.ok (), l') → kept l' = names ∧ opened l' = none
  rollsBack {l l' : σ} {names : List String} : opened l = some names →
    Call.rollback.send c l = (.ok (), l') → kept l' = kept l ∧ opened l' = none

def seen (kept : σ → List String) (opened : σ → Option (List String)) (l : σ) : List String :=
  (opened l).getD (kept l)

namespace KeepsTables

variable {c : Connection σ} {kept : σ → List String} {opened : σ → Option (List String)}
  {l l' : σ} {names listing : List String} {sent : List Call}

theorem begun (hc : KeepsTables c kept opened) {inTransaction : Bool}
    (hopen : (opened l).isSome = inTransaction)
    (h : Sends c l (if inTransaction then [] else [.begin]) sent (.ok ()) l') :
    kept l' = kept l ∧ opened l' = some (seen kept opened l) := by
  cases hopened : opened l with
  | some names =>
    rw [← hopen, hopened] at h
    cases h
    exact ⟨rfl, by rw [seen, hopened, Option.getD_some]⟩
  | none =>
    rw [← hopen, hopened] at h
    obtain ⟨_, _, hbegin, h⟩ := h.cons_ok
    cases h
    rw [seen, hopened]
    exact hc.begins hopened hbegin

theorem drop_committed (hc : KeepsTables c kept opened) (hopened : opened l = some names)
    {name : String} {rest : List Call}
    (h : Sends c l (⟨.execute, Statement.dropTable name⟩ :: .commit :: rest) sent (.ok ()) l') :
    ∃ next sent', kept next = without [name] names ∧ opened next = none ∧
      Sends c next rest sent' (.ok ()) l' := by
  obtain ⟨dropped, _, hdrop, h⟩ := h.cons_ok
  obtain ⟨committed, _, hcommit, h⟩ := h.cons_ok
  obtain ⟨_, hdropped⟩ := hc.drops hopened (read_dropTable name) hdrop
  obtain ⟨hkept, hnone⟩ := hc.commits hdropped hcommit
  exact ⟨committed, _, hkept, hnone, h⟩

theorem dropped (hc : KeepsTables c kept opened) (hopened : opened l = none)
    (h : Sends c l (Call.changes false (listing.map Statement.dropTable)) sent (.ok ()) l') :
    kept l' = without listing (kept l) ∧ opened l' = none := by
  induction listing generalizing l sent with
  | nil =>
    cases h
    exact ⟨rfl, hopened⟩
  | cons name listing ih =>
    obtain ⟨begun, _, hbegin, h⟩ := h.cons_ok
    obtain ⟨hsame, hbegun⟩ := hc.begins hopened hbegin
    obtain ⟨next, _, hnext, hclosed, h⟩ := hc.drop_committed hbegun h
    obtain ⟨hkept, hnone⟩ := ih hclosed h
    exact ⟨hkept.trans (congrArg (without listing) hnext), hnone⟩

theorem cleared (hc : KeepsTables c kept opened) (hopened : opened l = some (kept l))
    (h : Sends c l (Call.changes true (listing.map Statement.dropTable) ++
      if listing = [] then [.rollback] else []) sent (.ok ()) l') :
    kept l' = without listing (kept l) ∧ opened l' = none := by
  cases listing with
  | nil =>
    obtain ⟨next, _, hrollback, h⟩ := h.cons_ok
    cases h
    exact hc.rollsBack hopened hrollback
  | cons name listing =>
    rw [if_neg (List.cons_ne_nil _ _), List.append_nil] at h
    obtain ⟨next, _, hnext, hclosed, h⟩ := hc.drop_committed hopened h
    obtain ⟨hkept, hnone⟩ := hc.dropped hclosed h
    exact ⟨hkept.trans (congrArg (without listing) hnext), hnone⟩

end KeepsTables

end Catalog

namespace Database

def Store.names (s : Store) : List String := s.tables.map StoredTable.name

theorem names_dropTable {s s' : Store} {name : String} (h : s.dropTable name = .ok s') :
    s'.names = s.names.filter fun other => !sameName other name := by
  rw [Store.dropTable] at h
  split at h
  · cases h
  · cases h
    rw [Store.names, Store.names, List.filter_map]
    rfl

theorem keepsTables :
    Catalog.KeepsTables connection (fun db => db.durable.names)
      (fun db => db.working.map Store.names) where
  begins := by
    intro db db' hnone h
    obtain ⟨hdurable, hworking⟩ := transactional.begins (Option.map_eq_none_iff.1 hnone) h
    exact ⟨congrArg Store.names hdurable, congrArg (Option.map Store.names) hworking⟩
  lists := by
    intro db db' names rows hsome h
    obtain ⟨s, hs, rfl⟩ := Option.map_eq_some_iff.1 hsome
    have hvisible : db.visible = s := by simp [visible, hs]
    simp only [connection, run, answer, if_true, hvisible] at h
    obtain ⟨hrows, rfl⟩ := Prod.mk.inj h
    exact ⟨rfl, hsome, s.listTables, (Except.ok.inj hrows).symm, List.mergeSort_perm _ _⟩
  drops := by
    intro db db' names sql name hsome hread h
    obtain ⟨s, hs, rfl⟩ := Option.map_eq_some_iff.1 hsome
    obtain ⟨a, hanswer⟩ := answer_of_send h
    obtain ⟨happly, hdurable, hworking⟩ := apply_of_answer hs hread rfl hanswer .execute
    obtain ⟨s', hdrop, hs'⟩ := except_bind_eq_ok happly
    cases hs'
    exact ⟨congrArg Store.names hdurable, by rw [hworking, Option.map_some, names_dropTable hdrop]⟩
  commits := by
    intro db db' names hsome h
    obtain ⟨s, hs, rfl⟩ := Option.map_eq_some_iff.1 hsome
    obtain ⟨committed, hsend, hdurable, hworking⟩ := transactional.commits hs
    cases h.symm.trans hsend
    exact ⟨congrArg Store.names hdurable, congrArg (Option.map Store.names) hworking⟩
  rollsBack := by
    intro db db' names hsome h
    obtain ⟨s, hs, rfl⟩ := Option.map_eq_some_iff.1 hsome
    obtain ⟨back, hsend, hdurable, hworking⟩ := transactional.rollsBack hs
    cases h.symm.trans hsend
    exact ⟨congrArg Store.names hdurable, congrArg (Option.map Store.names) hworking⟩

end Database

end RecordMapper
