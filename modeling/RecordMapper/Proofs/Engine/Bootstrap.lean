import RecordMapper.Proofs.Engine.Versions

/-!
The start of an engine on a database that keeps its version.
Main statement: a start has one of six outcomes, each with the rows that it leaves, what it read and
which hook it called.
-/

namespace RecordMapper

open Session Request SchemaVersion

def stamping (c : Connection σ) (text : String) (hook : SessionM σ Unit) (sql : String) :
    SessionM σ Unit := do
  report .info text
  hook
  meetAll c (Request.change sql)

theorem migrate_apply (c : Connection σ) (version : Int64) (hooks : Hooks σ) (s : Session σ) :
    let shown (v : Int64) := (Value.integer v).display
    Engine.migrate c version hooks s = match fetchOne c query s with
      | (.error e, t) => (.error e, t)
      | (.ok none, t) =>
        stamping c ("No schema version stored, creating schema version " ++ shown version)
          (hooks.onCreate.getD (pure ())) (insertion s.dialect version) t
      | (.ok (some row), t) => match model.ofRow row with
        | .error e => (.error e, t)
        | .ok ⟨stored⟩ =>
          if stored ≠ version then
            stamping c
              ("Migrating schema from version " ++ shown stored ++ " to " ++ shown version)
              (hooks.onUpdate.elim (pure ()) fun hook => hook stored version)
              (change s.dialect version) t
          else (.ok (), t) := by
  intro shown
  rw [Engine.migrate, get_bind_apply, bind_apply, first_apply]
  generalize fetchOne c query s = r
  obtain ⟨e | _ | row, t⟩ := r
  · rfl
  · simp [stamping, shown, insert_eq c s.dialect, requests_insert]
  · cases hrow : model.ofRow row with
    | error e => simp [Except.map, hrow]
    | ok version? =>
      obtain ⟨stored⟩ := version?
      by_cases h : stored = version
      · simp [Except.map, hrow, h]
      · simp [stamping, shown, Except.map, hrow, h, update_eq c s.dialect, requests_update]

def called (call : HookCall) (hook? : Option (Plan σ)) (failed : Bool) : List Sight :=
  if hook?.isSome then [.hook call failed] else []

/-- All that can come of a start on stored rows: its result and the rows that it leaves, by what is
noted in the journal. -/
inductive Outcome (x : Start σ) (kept : List Int64) (j : Journal σ) :
    Except Error Unit → List Int64 → Prop
  | unread {e : Error} : j.sights = [] → Outcome x kept j (.error e) kept
  | uncreated {e : Error} {f : Bool} : kept = [] →
      j.sights = .read none :: called .create x.onCreate f → (f = true ∨ j.HasFailure) →
      Outcome x kept j (.error e) kept
  | created : kept = [] → j.sights = .read none :: called .create x.onCreate false →
      Outcome x kept j (.ok ()) [x.version]
  | current : kept = [x.version] → j.sights = [.read (some [.integer x.version])] →
      Outcome x kept j (.ok ()) [x.version]
  | outdated {v : Int64} {e : Error} {f : Bool} : kept = [v] → v ≠ x.version →
      j.sights = .read (some [.integer v]) ::
        called (.update v x.version) (x.onUpdate.map (· v x.version)) f →
      Outcome x kept j (.error e) kept
  | updated {v : Int64} : kept = [v] → v ≠ x.version →
      j.sights = .read (some [.integer v]) ::
        called (.update v x.version) (x.onUpdate.map (· v x.version)) false →
      Outcome x kept j (.ok ()) [x.version]

theorem eq_singleton_of_mem {v : Int64} {rows : List Int64} (hv : v ∈ rows)
    (hfew : rows.length ≤ 1) : rows = [v] := by
  match rows with
  | [] => contradiction
  | [w] => rw [List.mem_singleton.1 hv]
  | _ :: _ :: _ => simp at hfew

variable {c : Connection σ} {durable : σ → δ} {working : σ → Option δ} {effect : Call → δ → δ}
  {stored : δ → Option (List Int64)} {kept : List Int64} {sights : List Sight}
  {s t : Session (σ × Journal σ)}

theorem Holds.stamped (hc : Transactional c durable working effect)
    (hs : Holds durable working stored kept kept sights s) {text sql : String} {call : HookCall}
    {hook? : Option (Plan σ)} (hhook : ∀ p ∈ hook?, p.Spares s.dialect effect stored)
    (hsql : RecordMapper.Ordinary sql) {v : Int64}
    (hrows : ∀ {l l' w}, working l = some w → stored w = some kept →
      Call.send c ⟨.execute, sql⟩ l = (.ok (), l') →
      stored (effect ⟨.execute, sql⟩ w) = some [v]) {result : Except Error Unit}
    (h : stamping c.journaled text (hook?.elim (pure ()) fun p => p.hook c call) sql s =
      (result, t)) :
    (result = .ok () ∧
        Holds durable working stored [v] [v] (sights ++ called call hook? false) t) ∨
      ∃ e f, result = .error e ∧
        Holds durable working stored kept kept (sights ++ called call hook? f) t ∧
        (f = true ∨ t.link.2.HasFailure) := by
  have hfew : ([v] : List Int64).length ≤ 1 := by simp
  have hlogged := hs.logged .info text
  have hstamp : (hook?.elim (pure ()) (fun p => p.hook c call) >>= fun _ =>
      meetAll c.journaled (Request.change sql)) (s.logged .info text) = (result, t) := h
  rw [bind_apply] at hstamp
  cases hook? with
  | none =>
    rw [called, if_neg (by simp), List.append_nil]
    rcases hlogged.changed hc hsql hrows hfew hstamp with ⟨hok, ht⟩ | ⟨e, he, ht, hfailure⟩
    · exact .inl ⟨hok, ht⟩
    · exact .inr ⟨e, false, he, by simpa [called] using ht, .inr hfailure⟩
  | some p =>
    have hdone := hlogged.hooked hc (hhook p rfl) call
    simp only [Option.elim_some] at hstamp
    cases hresult : p.hook c call (s.logged .info text) with
    | mk answer u =>
      rw [hresult] at hdone hstamp
      cases answer with
      | error e =>
        cases hstamp
        exact .inr ⟨e, true, rfl, hdone, .inl rfl⟩
      | ok done =>
        rcases hdone.changed hc hsql hrows hfew hstamp with ⟨hok, ht⟩ | ⟨e, he, ht, hfailure⟩
        · exact .inl ⟨hok, ht⟩
        · exact .inr ⟨e, false, he, ht, .inr hfailure⟩

/-- Whether the hooks of a start do not touch the version table. -/
structure Start.Spares (effect : Call → δ → δ) (stored : δ → Option (List Int64)) (x : Start σ) :
    Prop where
  onCreate : ∀ p ∈ x.onCreate, p.Spares x.url.driver.dialect effect stored
  onUpdate : ∀ p ∈ x.onUpdate, ∀ v, (p v x.version).Spares x.url.driver.dialect effect stored

theorem Holds.migrated (hc : Transactional c durable working effect) {x : Start σ}
    (hv : KeepsVersions c working effect stored x.url.driver.dialect) (hx : x.Spares effect stored)
    (hdialect : s.dialect = x.url.driver.dialect)
    (hs : Holds durable working stored kept kept [] s) {result : Except Error Unit}
    (h : Engine.migrate c.journaled x.version (x.hooks c) s = (result, t)) :
    ∃ rows, Holds durable working stored rows rows t.link.2.sights t ∧
      Outcome x kept t.link.2 result rows := by
  rw [migrate_apply] at h
  have hread := dialect_fetchOne c.journaled query s
  cases hfetch : fetchOne c.journaled query s with
  | mk answer u =>
    rw [hfetch] at h hread
    have hu : u.dialect = x.url.driver.dialect := hread.trans hdialect
    rw [hdialect] at h
    rcases hs.read hc hv hfetch with ⟨row, rfl, hu', ⟨rfl, rfl⟩ | ⟨v, hv', rfl⟩⟩ | ⟨e, rfl, hu'⟩
    · have hhook : (x.hooks c).onCreate.getD (pure ()) =
          x.onCreate.elim (pure ()) fun p => p.hook c .create := by
        cases h : x.onCreate <;> simp [Start.hooks, h]
      simp only [hhook] at h
      rcases hu'.stamped hc (hu ▸ hx.onCreate) (ordinary_insertion _ _)
        (fun hw hkept hsend => hv.inserts hw hkept hsend) h with ⟨rfl, ht⟩ | ⟨e, f, rfl, ht, hf⟩
      · exact ⟨_, ht.sights_eq ▸ ht, .created rfl ht.sights_eq⟩
      · exact ⟨_, ht.sights_eq ▸ ht, .uncreated rfl ht.sights_eq hf⟩
    · obtain rfl : kept = [v] := eq_singleton_of_mem hv' hs.few.1
      have hhook : ((x.hooks c).onUpdate.elim (pure ()) fun hook => hook v x.version) =
          (x.onUpdate.map (· v x.version)).elim (pure ())
            fun p => p.hook c (.update v x.version) := by
        cases h : x.onUpdate <;> simp [Start.hooks, h]
      simp only [ofRow_integer, hhook] at h
      by_cases hcurrent : v = x.version
      · rw [if_neg (by simp [hcurrent])] at h
        cases h
        rw [hcurrent] at hu'
        exact ⟨_, hu'.sights_eq ▸ hu', .current (by rw [hcurrent]) hu'.sights_eq⟩
      · rw [if_pos hcurrent] at h
        have hspares : ∀ p ∈ x.onUpdate.map (· v x.version), p.Spares u.dialect effect stored := by
          intro p hp
          obtain ⟨q, hq, rfl⟩ := Option.map_eq_some_iff.1 hp
          exact hu ▸ hx.onUpdate q hq v
        rcases hu'.stamped hc hspares (SchemaVersion.ordinary_change _ _)
          (fun hw hkept hsend => hv.updates hw hkept hsend) h with ⟨rfl, ht⟩ | ⟨e, f, rfl, ht, hf⟩
        · exact ⟨_, ht.sights_eq ▸ ht, .updated rfl hcurrent ht.sights_eq⟩
        · exact ⟨_, ht.sights_eq ▸ ht, .outdated rfl hcurrent ht.sights_eq⟩
    · cases h
      exact ⟨kept, hu'.sights_eq ▸ hu', .unread hu'.sights_eq⟩

theorem Holds.ensured (hc : Transactional c durable working effect)
    (hv : KeepsVersions c working effect stored s.dialect)
    (hs : Holds durable working stored kept kept sights s) {result : Except Error Unit}
    (h : Migration.createTable c.journaled schema s = (result, t)) :
    Holds durable working stored kept kept sights t := by
  rw [createTable_apply, requests_createTable, meetAll_append, bind_apply] at h
  cases hchange : meetAll c.journaled (Request.change (creation s.dialect)) s with
  | mk answer u =>
    rw [hchange] at h
    rcases hs.changed hc (ordinary_creation s.dialect)
      (fun hw hkept hsend => hv.creates hw hkept hsend) hs.few.1 hchange with
      ⟨rfl, hu⟩ | ⟨e, rfl, hu, _⟩
    · cases h
      exact hu.logged _ _
    · cases h
      exact hu

namespace Engine

theorem bind_apply (work : EngineM σ α) (next : α → EngineM σ β) (e : Engine σ) :
    (work >>= next) e = match work e with
      | (.ok a, e) => next a e
      | (.error er, e) => (.error er, e) := by
  show ExceptT.bindCont next (work e).1 (work e).2 = _
  generalize work e = r
  obtain ⟨er | a, e⟩ := r <;> rfl

theorem modify_apply (f : Engine σ → Engine σ) (e : Engine σ) :
    (modify f : EngineM σ PUnit) e = (.ok ⟨⟩, f e) := rfl

theorem get_apply (e : Engine σ) : (get : EngineM σ (Engine σ)) e = (.ok e, e) := rfl

theorem sessions_apply (c : Connection σ) (first : SessionM σ Unit)
    (second : Engine σ → SessionM σ Unit) (e : Engine σ) :
    (do
      modify (setState .connected)
      withSession c first
      modify (setState .versionTableEnsured)
      withSession c (second (← get))
      modify (setState .migrated) : EngineM σ Unit) e =
      match withSession c first (e.setState .connected) with
      | (.error er, e) => (.error er, e)
      | (.ok _, e) =>
        let e := e.setState .versionTableEnsured
        match withSession c (second e) e with
        | (.error er, e) => (.error er, e)
        | (.ok _, e) => (.ok (), e.setState .migrated) := by
  simp only [bind_apply, modify_apply, get_apply]
  generalize withSession c first (e.setState .connected) = r
  obtain ⟨er | a, e⟩ := r
  · rfl
  · simp only
    generalize withSession c (second (e.setState .versionTableEnsured))
      (e.setState .versionTableEnsured) = r
    obtain ⟨er | a, e⟩ := r <;> rfl

theorem bootstrap_apply (c : Connection σ) (hooks : Hooks σ) (e : Engine σ) :
    bootstrap c hooks e =
      match withSession c (Migration.createTable c schema) (e.setState .connected) with
      | (.error er, e) => (.error er, e)
      | (.ok _, e) =>
        let e := e.setState .versionTableEnsured
        match withSession c (migrate c e.version hooks) e with
        | (.error er, e) => (.error er, e)
        | (.ok _, e) => (.ok (), e.setState .migrated) :=
  sessions_apply c (Migration.createTable c schema) (fun e => migrate c e.version hooks) e

theorem rests_withSession (hc : Transactional c durable working effect)
    {work : SessionM (σ × Journal σ) α} {e : Engine (σ × Journal σ)} {result : Except Error α}
    {opened : List Int64} (h : work e.session = (result, t))
    (ht : Holds durable working stored kept opened sights t) :
    ∃ e', withSession c.journaled work e = (result, e') ∧
      Rests durable working stored kept sights e'.link ∧
      (t.link.2.HasFailure → e'.link.2.HasFailure) ∧ e'.url = e.url ∧ e'.version = e.version := by
  obtain ⟨u, hdisconnect, hclose, hconnected, hu, hfailure⟩ := ht.disconnected hc
  -- a session that is disconnected already has no end of its own
  have hagain : u.close c.journaled = u := by
    rw [close, disconnect_apply, if_pos hconnected]
  cases result with
  | ok a =>
    refine ⟨e.afterSession c.journaled u, ?_, ?_, ?_, rfl, rfl⟩
    · simp [withSession, Session.bind_apply, map_apply, h, hdisconnect, Except.map]
    · rwa [afterSession, hagain]
    · rwa [afterSession, hagain]
  | error er =>
    refine ⟨e.afterSession c.journaled t, ?_, ?_, ?_, rfl, rfl⟩
    · simp [withSession, Session.bind_apply, h]
    · rwa [afterSession, hclose]
    · rwa [afterSession, hclose]

theorem holds_session {e : Engine (σ × Journal σ)}
    (h : Rests durable working stored kept sights e.link) :
    Holds durable working stored kept kept sights e.session :=
  Rests.holds (s := e.session) h rfl rfl

end Engine

theorem Outcome.of_journal {x : Start σ} {j j' : Journal σ} {result : Except Error Unit}
    {rows : List Int64} (h : Outcome x kept j result rows) (hsights : j'.sights = j.sights)
    (hfailure : j.HasFailure → j'.HasFailure) : Outcome x kept j' result rows := by
  cases h with
  | unread hseen => exact .unread (hsights.trans hseen)
  | uncreated hkept hseen hf => exact .uncreated hkept (hsights.trans hseen) (hf.imp_right hfailure)
  | created hkept hseen => exact .created hkept (hsights.trans hseen)
  | current hkept hseen => exact .current hkept (hsights.trans hseen)
  | outdated hkept hne hseen => exact .outdated hkept hne (hsights.trans hseen)
  | updated hkept hne hseen => exact .updated hkept hne (hsights.trans hseen)

theorem outcome_of_start (hc : Transactional c durable working effect) {x : Start σ}
    (hv : KeepsVersions c working effect stored x.url.driver.dialect) (hx : x.Spares effect stored)
    (hworking : working x.link = none) (hkept : stored (durable x.link) = some kept)
    (hfew : kept.length ≤ 1) :
    let done := x.run c
    ∃ rows, Rests durable working stored rows done.2.link.2.sights done.2.link ∧
      Outcome x kept done.2.link.2 done.1 rows ∧
      (done.1 = .ok () → done.2.state = .migrated) := by
  intro done
  have hdone : done = Engine.bootstrap c.journaled (x.hooks c)
      (Engine.opened x.url x.version (x.link, {})) := rfl
  rw [Engine.bootstrap_apply] at hdone
  have hstart : Rests durable working stored kept []
      ((Engine.opened x.url x.version (x.link, ({} : Journal σ))).setState .connected).link :=
    ⟨hkept, hworking, hfew, rfl, nofun⟩
  generalize hopened : (Engine.opened x.url x.version (x.link, ({} : Journal σ))).setState
    .connected = e at hdone hstart
  have hurl : e.url = x.url := by rw [← hopened]; rfl
  have hversion : e.version = x.version := by rw [← hopened]; rfl
  cases hfirst : Migration.createTable c.journaled schema e.session with
  | mk result t =>
    have hdialect : e.session.dialect = x.url.driver.dialect := by rw [← hurl]; rfl
    have hensured := (Engine.holds_session hstart).ensured hc (hdialect ▸ hv) hfirst
    obtain ⟨e', hsession, hrests, _, hurl', hversion'⟩ :=
      Engine.rests_withSession hc hfirst hensured
    rw [hsession] at hdone
    cases result with
    | error er =>
      rw [hdone]
      exact ⟨kept, hrests.sights_eq ▸ hrests, .unread hrests.sights_eq, nofun⟩
    | ok u =>
      generalize hready : e'.setState .versionTableEnsured = ready at hdone
      have hlink : ready.link = e'.link := by rw [← hready]; rfl
      have hdialect : ready.session.dialect = x.url.driver.dialect := by
        rw [← hurl, ← hurl', ← hready]
        rfl
      have hwanted : ready.version = x.version := by
        rw [← hversion, ← hversion', ← hready]
        rfl
      simp only [hready, hwanted] at hdone
      cases hsecond : Engine.migrate c.journaled x.version (x.hooks c) ready.session with
      | mk result t =>
        obtain ⟨rows, ht, houtcome⟩ :=
          (Engine.holds_session (hlink ▸ hrests)).migrated hc hv hx hdialect hsecond
        obtain ⟨e'', hsession, hrests, hfailure, _⟩ := Engine.rests_withSession hc hsecond ht
        rw [hsession] at hdone
        have houtcome := houtcome.of_journal hrests.sights_eq hfailure
        cases result with
        | error er =>
          rw [hdone]
          exact ⟨rows, hrests.sights_eq ▸ hrests, houtcome, nofun⟩
        | ok u =>
          rw [hdone]
          exact ⟨rows, hrests.sights_eq ▸ hrests, houtcome, fun _ => rfl⟩

def Sight.isHook : Sight → Bool
  | read _ => false
  | hook .. => true

theorem hook_mem_called {call call' : HookCall} {hook? : Option (Plan σ)} {f f' : Bool} :
    .hook call f ∈ called call' hook? f' ↔ call = call' ∧ f = f' ∧ hook?.isSome = true := by
  cases hook? <;> simp [called]

theorem read_not_mem_called {row : Option Row} {call : HookCall} {hook? : Option (Plan σ)}
    {f : Bool} : .read row ∉ called call hook? f := by
  cases hook? <;> simp [called]

theorem countP_called (call : HookCall) (hook? : Option (Plan σ)) (f : Bool) :
    (called call hook? f).countP Sight.isHook ≤ 1 := by
  cases hook? <;> simp [called, Sight.isHook]

theorem update_mem_iff {seen : List Sight} {v stored target wanted : Int64}
    {hook? : Option (Plan σ)} {f : Bool} (hne : stored ≠ wanted)
    (hseen : seen = .read (some [.integer stored]) :: called (.update stored wanted) hook? f) :
    (∃ f, .hook (.update v target) f ∈ seen) ↔
      hook?.isSome = true ∧ .read (some [.integer v]) ∈ seen ∧ v ≠ wanted ∧ target = wanted := by
  subst hseen
  constructor
  · rintro ⟨f', hf⟩
    simp only [List.mem_cons, reduceCtorEq, false_or, hook_mem_called, HookCall.update.injEq] at hf
    obtain ⟨⟨rfl, rfl⟩, _, hsome⟩ := hf
    exact ⟨hsome, List.mem_cons_self .., hne, rfl⟩
  · rintro ⟨hsome, hread, _, rfl⟩
    rcases List.mem_cons.1 hread with hread | hread
    · cases hread
      exact ⟨f, List.mem_cons_of_mem _ (hook_mem_called.2 ⟨rfl, rfl, hsome⟩)⟩
    · exact absurd hread read_not_mem_called

namespace Outcome

variable {x : Start σ} {j : Journal σ} {result : Except Error Unit} {rows : List Int64}

theorem rows_of_ok (h : Outcome x kept j (.ok ()) rows) : rows = [x.version] := by
  cases h <;> rfl

theorem rows_of_error {e : Error} (h : Outcome x kept j (.error e) rows) : rows = kept := by
  cases h <;> rfl

theorem creates_iff (h : Outcome x kept j result rows) :
    (∃ f, .hook .create f ∈ j.sights) ↔ x.onCreate.isSome = true ∧ .read none ∈ j.sights := by
  cases h with
  | unread hseen => simp [hseen]
  | uncreated _ hseen _ => simp [hseen, hook_mem_called]
  | created _ hseen => simp [hseen, hook_mem_called]
  | current _ hseen => simp [hseen]
  | outdated _ _ hseen => simp [hseen, hook_mem_called, read_not_mem_called]
  | updated _ _ hseen => simp [hseen, hook_mem_called, read_not_mem_called]

theorem updates_iff (h : Outcome x kept j result rows) (v target : Int64) :
    (∃ f, .hook (.update v target) f ∈ j.sights) ↔
      x.onUpdate.isSome = true ∧ .read (some [.integer v]) ∈ j.sights ∧ v ≠ x.version ∧
        target = x.version := by
  cases h with
  | unread hseen => simp [hseen]
  | uncreated _ hseen _ => simp [hseen, hook_mem_called, read_not_mem_called]
  | created _ hseen => simp [hseen, hook_mem_called, read_not_mem_called]
  | current _ hseen => grind
  | outdated _ hne hseen => simpa using update_mem_iff hne hseen
  | updated _ hne hseen => simpa using update_mem_iff hne hseen

theorem hooks_le_one (h : Outcome x kept j result rows) : j.sights.countP Sight.isHook ≤ 1 := by
  cases h with
  | unread hseen => simp [hseen]
  | current _ hseen => simp [hseen, Sight.isHook]
  | uncreated _ hseen _ => simpa [hseen, Sight.isHook] using countP_called ..
  | created _ hseen => simpa [hseen, Sight.isHook] using countP_called ..
  | outdated _ _ hseen => simpa [hseen, Sight.isHook] using countP_called ..
  | updated _ _ hseen => simpa [hseen, Sight.isHook] using countP_called ..

theorem created_add_length (h : Outcome x kept j result rows) (hj : ¬ j.HasFailure) :
    (if .hook .create false ∈ j.sights then 1 else 0) + kept.length ≤ rows.length := by
  cases h with
  | unread hseen => simp [hseen]
  | uncreated hkept hseen hf =>
    obtain rfl := hf.resolve_right hj
    simp [hseen, hkept, hook_mem_called]
  | created hkept hseen =>
    rw [hkept]
    split <;> simp
  | current hkept hseen => simp [hseen, hkept]
  | outdated hkept _ hseen => simp [hseen, hkept, hook_mem_called]
  | updated hkept _ hseen => simp [hseen, hkept, hook_mem_called]

end Outcome

def Consecutive (c : Connection σ) (durable : σ → δ) (working : σ → Option δ) :
    δ → List (Start σ) → Prop
  | _, [] => True
  | w, x :: xs =>
    durable x.link = w ∧ working x.link = none ∧
      Consecutive c durable working (durable (x.run c).2.link.1) xs

/-- What a start does about the version that is stored. -/
structure Start.Sound (c : Connection σ) (durable : σ → δ) (working : σ → Option δ)
    (stored : δ → Option (List Int64)) (x : Start σ) : Prop where
  -- At each call and afterwards there is at most one version.
  slim : (∀ e ∈ (x.run c).2.link.2.calls, Slim durable working stored e.before) ∧
    Slim durable working stored (x.run c).2.link.1
  succeeds : (x.run c).1 = .ok () →
    stored (durable (x.run c).2.link.1) = some [x.version] ∧ (x.run c).2.state = .migrated
  fails {e : Error} : (x.run c).1 = .error e →
    stored (durable (x.run c).2.link.1) = stored (durable x.link)
  creates : (∃ f, .hook .create f ∈ (x.run c).2.link.2.sights) ↔
    x.onCreate.isSome = true ∧ .read none ∈ (x.run c).2.link.2.sights
  updates (v target : Int64) : (∃ f, .hook (.update v target) f ∈ (x.run c).2.link.2.sights) ↔
    x.onUpdate.isSome = true ∧ .read (some [.integer v]) ∈ (x.run c).2.link.2.sights ∧
      v ≠ x.version ∧ target = x.version
  hooks_le_one : (x.run c).2.link.2.sights.countP Sight.isHook ≤ 1

theorem Start.sound_of_outcome {x : Start σ} {rows : List Int64}
    (hkept : stored (durable x.link) = some kept)
    (hrests : Rests durable working stored rows (x.run c).2.link.2.sights (x.run c).2.link)
    (houtcome : Outcome x kept (x.run c).2.link.2 (x.run c).1 rows)
    (hstate : (x.run c).1 = .ok () → (x.run c).2.state = .migrated) :
    x.Sound c durable working stored where
  slim := ⟨hrests.slim, ⟨rows, hrests.durable_eq, hrests.few⟩, by simp [hrests.working_eq]⟩
  succeeds h := by
    rw [h] at houtcome
    exact ⟨houtcome.rows_of_ok ▸ hrests.durable_eq, hstate h⟩
  fails h := by
    rw [h] at houtcome
    rw [hkept, ← houtcome.rows_of_error]
    exact hrests.durable_eq
  creates := houtcome.creates_iff
  updates := houtcome.updates_iff
  hooks_le_one := houtcome.hooks_le_one

/-- However often engines are started on a database, and whatever their hooks do: there is never
more than one version, a start that succeeds leaves its own and one that fails leaves what there
was, hooks are called for what was read, and without failing statements only one start creates. -/
theorem versions_of_starts (hc : Transactional c durable working effect) {d : Dialect}
    (hv : KeepsVersions c working effect stored d) {xs : List (Start σ)}
    (hxs : ∀ x ∈ xs, x.url.driver.dialect = d ∧ x.Spares effect stored) {w : δ}
    (hkept : stored w = some kept) (hfew : kept.length ≤ 1)
    (h : Consecutive c durable working w xs) :
    (∀ x ∈ xs, x.Sound c durable working stored) ∧
      ((∀ x ∈ xs, ¬ (x.run c).2.link.2.HasFailure) →
        xs.countP (fun x => .hook .create false ∈ (x.run c).2.link.2.sights) +
          kept.length ≤ 1) := by
  induction xs generalizing w kept with
  | nil => exact ⟨nofun, fun _ => by simpa using hfew⟩
  | cons x xs ih =>
    obtain ⟨rfl, hworking, hrest⟩ := h
    obtain ⟨hdialect, hspares⟩ := hxs x (List.mem_cons_self ..)
    obtain ⟨rows, hrests, houtcome, hstate⟩ :=
      outcome_of_start hc (hdialect ▸ hv) hspares hworking hkept hfew
    obtain ⟨hsound, hcount⟩ := ih (fun y hy => hxs y (List.mem_cons_of_mem x hy))
      hrests.durable_eq hrests.few hrest
    refine ⟨List.forall_mem_cons.2 ⟨Start.sound_of_outcome hkept hrests houtcome hstate, hsound⟩,
      fun hfailures => ?_⟩
    have hlength := houtcome.created_add_length (hfailures x (List.mem_cons_self ..))
    have hrestCount := hcount fun y hy => hfailures y (List.mem_cons_of_mem x hy)
    rw [List.countP_cons]
    simp only [decide_eq_true_eq]
    omega

end RecordMapper
