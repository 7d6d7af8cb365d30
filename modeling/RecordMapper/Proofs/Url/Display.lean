import RecordMapper.Proofs.Except
import RecordMapper.Proofs.Url.Writing

namespace RecordMapper

open Text

namespace DbUrl

theorem credentials_sound {rest location : List Char} {user password : Option String}
    (h : credentials rest = (user, password, location)) :
    (∀ name ∈ user, ':' ∉ name.toList) ∧ '@' ∉ location := by
  cases hlast : splitLast? '@' rest with
  | none =>
    have hrest := splitLast_eq_none.1 hlast
    rw [credentials_of_not_mem hrest] at h
    cases h
    exact ⟨by simp, hrest⟩
  | some cut =>
    obtain ⟨who, behind⟩ := cut
    obtain ⟨rfl, hbehind⟩ := splitLast_eq_some.1 hlast
    by_cases hcolon : ':' ∈ who
    · obtain ⟨name, secret, rfl, hname⟩ := List.eq_append_cons_of_mem hcolon
      rw [credentials_password hname hbehind] at h
      cases h
      exact ⟨by simpa using hname, hbehind⟩
    · rw [credentials_user hcolon hbehind] at h
      cases h
      exact ⟨by simpa using hcolon, hbehind⟩

theorem path_sound {location place database : List Char}
    (h : (splitFirst? ['/'] location).getD (location, []) = (place, database)) :
    '/' ∉ place ∧ place ⊆ location ∧ database ⊆ location := by
  cases hfirst : splitFirst? ['/'] location with
  | none =>
    rw [hfirst] at h
    cases h
    exact ⟨splitFirst_eq_none.1 hfirst, List.Subset.refl _, List.nil_subset _⟩
  | some cut =>
    rw [hfirst] at h
    cases h
    obtain ⟨rfl, hplace⟩ := splitFirst_char_eq_some.1 hfirst
    exact ⟨hplace, List.subset_append_left .., fun c hc =>
      List.mem_append_right _ (List.mem_cons_of_mem _ hc)⟩

theorem address_sound {place host : List Char} {port : Option UInt16}
    (h : address place = .ok (host, port)) : host ⊆ place ∧ (port = none → ':' ∉ host) := by
  cases hlast : splitLast? ':' place with
  | none =>
    have hplace := splitLast_eq_none.1 hlast
    rw [address_of_not_mem hplace] at h
    cases h
    exact ⟨List.Subset.refl _, fun _ => hplace⟩
  | some cut =>
    obtain ⟨front, digits⟩ := cut
    obtain ⟨rfl, hdigits⟩ := splitLast_eq_some.1 hlast
    rw [address_append hdigits] at h
    cases hread : Numeral.readUnsigned? 16 digits with
    | none =>
      rw [hread] at h
      contradiction
    | some n =>
      rw [hread] at h
      cases h
      exact ⟨List.subset_append_left .., by simp⟩

def shown (u : DbUrl) : UrlParts where
  credentials := u.user.map fun user => (user, none)
  host := some (u.host.getD "localhost")
  port := u.port
  path := some u.database

theorem proper_of_server {rest : List Char} {u : DbUrl} (h : server .postgres rest = .ok u) :
    u.shown.Proper := by
  obtain ⟨⟨user, password, location⟩, hcredentials⟩ : ∃ r, credentials rest = r := ⟨_, rfl⟩
  obtain ⟨⟨place, database⟩, hpath⟩ :
    ∃ r, (splitFirst? ['/'] location).getD (location, []) = r := ⟨_, rfl⟩
  rw [server] at h
  simp only [hcredentials, hpath] at h
  obtain ⟨⟨host, port⟩, haddress, hreturn⟩ := except_bind_eq_ok h
  obtain ⟨huser, hat⟩ := credentials_sound hcredentials
  obtain ⟨hslash, hplace, hdatabase⟩ := path_sound hpath
  obtain ⟨hhost, hcolon⟩ := address_sound haddress
  have hlocal : "localhost" ≠ "" ∧ '/' ∉ "localhost".toList ∧ '@' ∉ "localhost".toList := by decide
  cases hreturn
  refine ⟨?_, ?_, ?_, ?_⟩
  · intro c hc
    obtain ⟨name, hname, rfl⟩ := Option.map_eq_some_iff.1 hc
    exact huser name hname
  · rintro name ⟨⟩
    by_cases hempty : host = []
    · rw [if_pos hempty]
      exact hlocal
    · rw [if_neg hempty, Option.getD_some, String.toList_ofList]
      refine ⟨?_, fun h => hslash (hhost h), fun h => hat (hplace (hhost h))⟩
      simpa using hempty
  · rintro hport name ⟨⟩
    by_cases hempty : host = []
    · rw [if_pos hempty]
      exact (by decide : ':' ∉ "localhost".toList)
    · rw [if_neg hempty, Option.getD_some, String.toList_ofList]
      exact hcolon hport
  · rintro name ⟨⟩
    rw [String.toList_ofList]
    exact fun h => hat (hdatabase h)

theorem display_eq_write {u : DbUrl} (hdriver : u.driver = .postgres) :
    u.display = u.shown.write "postgres" := by
  obtain ⟨driver, host, port, database, user, password⟩ := u
  cases hdriver
  rw [← String.toList_inj]
  cases user <;> cases port <;>
    simp [display, shown, UrlParts.write, UrlParts.writeUser, UrlParts.writeHost,
      UrlParts.writePath]

theorem server_of_parse {text : String} {u : DbUrl} (h : parse text = .ok u)
    (hdriver : u.driver = .postgres) : ∃ rest, server .postgres rest = .ok u := by
  rw [parse] at h
  split at h
  · simp only at h
    split at h
    · contradiction
    · cases h
      contradiction
  · split at h
    · contradiction
    · obtain ⟨driver, -, h⟩ := except_bind_eq_ok h
      cases driver with
      | sqlite =>
        cases h
        contradiction
      | postgres => exact ⟨_, h⟩

theorem parse_path {path : String} (hpath : path ≠ "") :
    parse ("sqlite://" ++ path) = .ok (sqlite path) := by
  have htext : ("sqlite://" ++ path).toList =
      ['s', 'q', 'l', 'i', 't', 'e', ':'] ++ (['/', '/'] ++ path.toList) := by simp
  have hne : path.toList ≠ [] := by simpa using hpath
  simp only [parse, htext, after_append, Option.getD_some, if_neg hne, String.ofList_toList]

theorem parse_memory : parse "sqlite::memory:" = .ok sqliteMemory := rfl

theorem parse_display_sqlite {path : String} (hpath : path ≠ "") :
    parse (sqlite path).display = .ok (sqlite path) := by
  by_cases hmemory : path = memoryName
  · rw [hmemory]
    exact parse_memory
  · have hdisplay : (sqlite path).display = "sqlite://" ++ path := by
      simp [display, sqlite, isMemory, hmemory]
    rw [hdisplay, parse_path hpath]

end DbUrl

open DbUrl

/-- What is displayed of a server's URL that was read is read again as the same URL with its host
spelled out and without its password, and displaying that changes nothing more. What is displayed
of a path is read again as that path. -/
theorem parse_display :
    (∀ {text : String} {u : DbUrl}, parse text = .ok u → u.driver = .postgres →
      let again := { u with password := none, host := some (u.host.getD "localhost") }
      parse u.display = .ok again ∧ again.display = u.display) ∧
    ∀ {path : String}, path ≠ "" → parse (sqlite path).display = .ok (sqlite path) := by
  refine ⟨fun {text u} h hdriver => ?_, parse_display_sqlite⟩
  intro again
  obtain ⟨rest, hserver⟩ := server_of_parse h hdriver
  have hagain : u.shown.url = again := by
    obtain ⟨driver, host, port, database, user, password⟩ := u
    cases hdriver
    cases user <;> rfl
  have hname : Driver.postgres.Named "postgres" := ⟨"postgres", by decide, by decide⟩
  constructor
  · rw [display_eq_write hdriver, UrlParts.write, parse_of_named hname,
      server_write (proper_of_server hserver), hagain]
  · rw [display_eq_write (u := again) hdriver, display_eq_write hdriver]
    rfl

namespace Sample

def relay : DbUrl where
  driver := .postgres
  port := some 5432
  database := ""
  user := some "ops@eu"
  password := some "p:/w@rd"

theorem relay_displayed :
    parse "psycopg2://ops@eu:p:/w@rd@:+05432" = .ok relay ∧ relay.driver = .postgres ∧
    relay.display = "postgres://ops@eu@localhost:5432/" ∧
    parse relay.display = .ok { relay with password := none, host := some "localhost" } ∧
    "//data://app@2:" ≠ "" ∧
    parse (sqlite "//data://app@2:").display = .ok (sqlite "//data://app@2:") := by
  have hread : parse "psycopg2://ops@eu:p:/w@rd@:+05432" = .ok relay := rfl
  have hpath : "//data://app@2:" ≠ "" := by decide
  exact ⟨hread, rfl, rfl, (parse_display.1 hread rfl).1, hpath, parse_display.2 hpath⟩

end Sample

end RecordMapper
