import RecordMapper.Connection.Scripted
import RecordMapper.Proofs.Engine.Bootstrap
import RecordMapper.Proofs.Url.Writing

namespace RecordMapper

open Text

namespace DbUrl

def told (text : String) : Except String String :=
  match parse text with
  | .ok u => .ok u.display
  | .error e => .error e.message

def secured (scheme user password location : String) : String :=
  scheme ++ "://" ++ (user ++ ":" ++ password ++ "@" ++ location)

def unsecured (scheme user location : String) : String :=
  scheme ++ "://" ++ (user ++ "@" ++ location)

def withPassword (password : String) (u : DbUrl) : DbUrl := { u with password := some password }

theorem server_password {user location : List Char} (huser : ':' ∉ user)
    (hlocation : '@' ∉ location) (password : List Char) :
    server .postgres ((user ++ ':' :: password) ++ '@' :: location) =
      (server .postgres (user ++ '@' :: location)).map (withPassword (String.ofList password)) := by
  rw [server, server, credentials_password huser hlocation, credentials_user huser hlocation]
  simp only
  cases address ((splitFirst? ['/'] location).getD (location, [])).1 with
  | error e => rfl
  | ok place => rfl

variable {scheme user location : String}

theorem parse_secured (hscheme : Driver.ofName scheme = .ok .postgres) (huser : ':' ∉ user.toList)
    (hlocation : '@' ∉ location.toList) (password : String) :
    parse (secured scheme user password location) =
      (parse (unsecured scheme user location)).map (withPassword password) := by
  have hread (rest : String) : parse (scheme ++ "://" ++ rest) = server .postgres rest.toList := by
    have hnamed := parse_of_named (Driver.named_of_ofName hscheme) rest.toList
    rwa [String.ofList_toList] at hnamed
  have hserver := server_password huser hlocation password.toList
  rw [String.ofList_toList] at hserver
  rw [secured, unsecured, hread, hread]
  simpa using hserver

theorem told_secured (hscheme : Driver.ofName scheme = .ok .postgres) (huser : ':' ∉ user.toList)
    (hlocation : '@' ∉ location.toList) (password : String) :
    told (secured scheme user password location) = told (unsecured scheme user location) := by
  rw [told, told, parse_secured hscheme huser hlocation]
  cases parse (unsecured scheme user location) <;> rfl

end DbUrl

namespace Engine

variable (c : Connection σ) {e : Engine σ} {u v : DbUrl}

def withUrl (u : DbUrl) (e : Engine σ) : Engine σ := { e with url := u }

theorem log_disconnected (hdisplay : u.display = e.url.display) :
    (e.withUrl u).disconnected.log = e.disconnected.log := by
  simp [disconnected, setState, logged, withUrl, hdisplay]

theorem summary_withUrl (hdriver : u.driver = e.url.driver) (hdisplay : u.display = e.url.display) :
    (e.withUrl u).summary = e.summary := by
  have hdialect : (e.withUrl u).dialect = e.dialect := congrArg Driver.dialect hdriver
  have hurl : (e.withUrl u).url.display = e.url.display := hdisplay
  unfold summary
  rw [hurl, hdialect]
  rfl

theorem session_withUrl (hdriver : u.driver = e.url.driver) :
    (e.withUrl u).session = e.session := by
  rw [session, session, dialect, dialect, withUrl, hdriver]

theorem withSession_withUrl (hdriver : u.driver = e.url.driver) (work : SessionM σ α) :
    withSession c work (e.withUrl u) =
      ((withSession c work e).1, (withSession c work e).2.withUrl u) := by
  simp only [withSession, session_withUrl hdriver]
  rfl

theorem bootstrap_withUrl (hdriver : u.driver = e.url.driver) (hooks : Hooks σ) :
    bootstrap c hooks (e.withUrl u) =
      ((bootstrap c hooks e).1, (bootstrap c hooks e).2.withUrl u) := by
  have hstate (state : EngineState) (x : Engine σ) :
      (x.withUrl u).setState state = (x.setState state).withUrl u := rfl
  have hversion (x : Engine σ) : (x.withUrl u).version = x.version := rfl
  rw [bootstrap_apply, bootstrap_apply, hstate, withSession_withUrl c (e := e.setState _) hdriver]
  cases hfirst : withSession c (Migration.createTable c SchemaVersion.schema)
      (e.setState .connected) with
  | mk result next =>
    have hnext : u.driver = next.url.driver := by
      rw [hdriver, show next = _ from (congrArg Prod.snd hfirst).symm]
      rfl
    cases result with
    | error er => rfl
    | ok a =>
      simp only [hstate, hversion, withSession_withUrl c (e := next.setState _) hnext]
      cases withSession c (migrate c (next.setState .versionTableEnsured).version hooks)
          (next.setState .versionTableEnsured) with
      | mk result last => cases result <;> rfl

theorem connect_alike (hdriver : v.driver = u.driver) (hdisplay : v.display = u.display)
    (version : Int64) (hooks : Hooks σ) (link : σ) :
    connect c v version hooks link =
      ((connect c u version hooks link).1, (connect c u version hooks link).2.withUrl v) := by
  have hopened : opened v version link = (opened u version link).withUrl v := by
    rw [opened, opened, withUrl, hdisplay]
  rw [connect, connect, hopened]
  exact bootstrap_withUrl c hdriver hooks

theorem url_connect (u : DbUrl) (version : Int64) (hooks : Hooks σ) (link : σ) :
    (connect c u version hooks link).2.url = u :=
  congrArg (fun r => r.2.url) (connect_alike c (v := u) rfl rfl version hooks link)

end Engine

open DbUrl

/-- Whatever password a URL of a server holds, the same is told of it, and the same as of the URL
without the password. If it is read, an engine opened on it answers and logs the same, also when it
is disconnected, and is summed up in the same line. -/
theorem passwords_untold {scheme user location : String}
    (hscheme : Driver.ofName scheme = .ok .postgres) (huser : ':' ∉ user.toList)
    (hlocation : '@' ∉ location.toList) (password other : String) :
    told (secured scheme user password location) = told (secured scheme user other location) ∧
    told (secured scheme user password location) = told (unsecured scheme user location) ∧
    ∀ {u v : DbUrl}, parse (secured scheme user password location) = .ok u →
      parse (secured scheme user other location) = .ok v →
      ∀ {σ : Type} (c : Connection σ) (version : Int64) (hooks : Hooks σ) (link : σ),
        let e := Engine.connect c u version hooks link
        let f := Engine.connect c v version hooks link
        e.1 = f.1 ∧ e.2.log = f.2.log ∧ e.2.disconnected.log = f.2.disconnected.log ∧
          e.2.summary = f.2.summary := by
  have htold := told_secured hscheme huser hlocation
  refine ⟨(htold password).trans (htold other).symm, htold password, ?_⟩
  intro u v hu hv σ c version hooks link e f
  rw [parse_secured hscheme huser hlocation] at hu hv
  obtain ⟨w, hw, rfl⟩ := except_map_eq_ok hu
  obtain ⟨w', hw', rfl⟩ := except_map_eq_ok hv
  cases hw.symm.trans hw'
  have hf : f = (e.1, e.2.withUrl (w.withPassword other)) :=
    Engine.connect_alike c (u := w.withPassword password) (v := w.withPassword other) rfl rfl
      version hooks link
  have hurl : e.2.url = w.withPassword password := Engine.url_connect c _ version hooks link
  have hdriver : (w.withPassword other).driver = e.2.url.driver := by rw [hurl]; rfl
  have hdisplay : (w.withPassword other).display = e.2.url.display := by rw [hurl]; rfl
  rw [hf]
  exact ⟨rfl, rfl, (Engine.log_disconnected hdisplay).symm,
    (Engine.summary_withUrl hdriver hdisplay).symm⟩

namespace Sample

def vault : DbUrl := .postgres "vault" 5432 "q1" "ops@eu" "p@ss:w/rd://"

theorem vault_untold :
    Driver.ofName "PostgreSQL" = .ok .postgres ∧ ':' ∉ "ops@eu".toList ∧
    '@' ∉ "vault:5432/q1".toList ∧
    parse "PostgreSQL://ops@eu:p@ss:w/rd://@vault:5432/q1" = .ok vault ∧
    parse "PostgreSQL://ops@eu:@vault:5432/q1" = .ok (vault.withPassword "") ∧
    told "PostgreSQL://ops@eu:p@ss:w/rd://@vault:5432/q1" =
      .ok "postgres://ops@eu@vault:5432/q1" ∧
    told "PostgreSQL://ops@eu:p@ss:w/rd://@vault:5432/q1" =
      told "PostgreSQL://ops@eu:@vault:5432/q1" ∧
    ∀ link : Script,
      (Engine.connect Script.connection vault 1 {} link).2.log =
        (Engine.connect Script.connection (vault.withPassword "") 1 {} link).2.log := by
  have hscheme : Driver.ofName "PostgreSQL" = .ok .postgres := rfl
  have huser : ':' ∉ "ops@eu".toList := by decide
  have hlocation : '@' ∉ "vault:5432/q1".toList := by decide
  have hread : parse "PostgreSQL://ops@eu:p@ss:w/rd://@vault:5432/q1" = .ok vault := rfl
  have hempty : parse "PostgreSQL://ops@eu:@vault:5432/q1" = .ok (vault.withPassword "") := rfl
  obtain ⟨htold, -, hengine⟩ := passwords_untold hscheme huser hlocation "p@ss:w/rd://" ""
  refine ⟨hscheme, huser, hlocation, hread, hempty, rfl, htold, fun link => ?_⟩
  exact (hengine hread hempty Script.connection 1 {} link).2.1

example : told "postgres://ops:p@ss@vault:54x/q1" =
    .error "Invalid argument: invalid port 54x in database url" := rfl

end Sample

end RecordMapper
