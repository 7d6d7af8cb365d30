import RecordMapper.Proofs.Text.Splitting
import RecordMapper.Url

namespace RecordMapper

open Text

namespace Driver

def aliases : Driver → List String
  | postgres => ["postgres", "postgresql", "psycopg2"]
  | sqlite => ["sqlite", "sqlite3"]

/-- Whether a text is a name of the driver, in letters of either case. -/
def Named (d : Driver) (name : String) : Prop :=
  ∃ a ∈ d.aliases, name.toList.map Char.toLower = a.toList

theorem ofName_of_named {d : Driver} {name : String} (h : d.Named name) : ofName name = .ok d := by
  obtain ⟨a, ha, hname⟩ := h
  rw [ofName, hname, String.ofList_toList]
  cases d with
  | postgres => exact if_pos (by simpa [aliases] using ha)
  | sqlite =>
    have hother : ∀ b ∈ sqlite.aliases, ¬ (b = "postgres" ∨ b = "postgresql" ∨ b = "psycopg2") := by
      decide
    rw [if_neg (hother a ha), if_pos (by simpa [aliases] using ha)]

theorem named_of_ofName {d : Driver} {name : String} (h : ofName name = .ok d) : d.Named name := by
  rw [ofName] at h
  split at h
  · rename_i hserver
    cases h
    exact ⟨_, by simpa [aliases] using hserver, String.toList_ofList.symm⟩
  · split at h
    · rename_i hpath
      cases h
      exact ⟨_, by simpa [aliases] using hpath, String.toList_ofList.symm⟩
    · contradiction

variable {name : String}

theorem colon_not_mem_of_named {d : Driver} (h : d.Named name) : ':' ∉ name.toList := by
  obtain ⟨a, ha, hname⟩ := h
  have hall : ∀ a ∈ d.aliases, ':' ∉ a.toList := by
    cases d <;> decide
  intro hmem
  refine hall a ha (hname ▸ ?_)
  exact List.mem_map.2 ⟨':', hmem, rfl⟩

end Driver

structure UrlParts where
  credentials : Option (String × Option String) := none
  host : Option String := none
  port : Option UInt16 := none
  path : Option String := none

namespace UrlParts

def writeUser (p : UrlParts) : List Char :=
  match p.credentials with
  | none => []
  | some (user, none) => user.toList ++ ['@']
  | some (user, some password) => user.toList ++ ':' :: password.toList ++ ['@']

def writeHost (p : UrlParts) : List Char :=
  (p.host.getD "").toList ++ match p.port with
    | none => []
    | some port => ':' :: Numeral.digits port.toNat

def writePath (p : UrlParts) : List Char :=
  match p.path with
  | none => []
  | some path => '/' :: path.toList

def write (scheme : String) (p : UrlParts) : String :=
  scheme ++ "://" ++ String.ofList (p.writeUser ++ (p.writeHost ++ p.writePath))

def url (p : UrlParts) : DbUrl where
  driver := .postgres
  host := p.host
  port := p.port
  database := p.path.getD ""
  user := p.credentials.map Prod.fst
  password := p.credentials.bind Prod.snd

/-- Whether no part holds what ends it. A host may hold colons if a port follows it. -/
structure Proper (p : UrlParts) : Prop where
  user : ∀ c ∈ p.credentials, ':' ∉ c.1.toList
  host : ∀ host ∈ p.host, host ≠ "" ∧ '/' ∉ host.toList ∧ '@' ∉ host.toList
  portless : p.port = none → ∀ host ∈ p.host, ':' ∉ host.toList
  path : ∀ path ∈ p.path, '@' ∉ path.toList

end UrlParts

namespace DbUrl

variable {p : UrlParts}

theorem credentials_of_not_mem {location : List Char} (hlocation : '@' ∉ location) :
    credentials location = (none, none, location) := by
  rw [credentials, splitLast_eq_none.2 hlocation]

theorem credentials_user {user location : List Char} (huser : ':' ∉ user)
    (hlocation : '@' ∉ location) :
    credentials (user ++ '@' :: location) = (some (String.ofList user), none, location) := by
  rw [credentials, splitLast_append '@' user location hlocation]
  simp only [splitFirst_eq_none.2 huser]

theorem credentials_password {user location : List Char} (huser : ':' ∉ user)
    (hlocation : '@' ∉ location) (password : List Char) :
    credentials ((user ++ ':' :: password) ++ '@' :: location) =
      (some (String.ofList user), some (String.ofList password), location) := by
  rw [credentials, splitLast_append '@' (user ++ ':' :: password) location hlocation]
  simp only [splitFirst_append ':' user password huser]

theorem credentials_write (hp : p.Proper) {location : List Char} (hlocation : '@' ∉ location) :
    credentials (p.writeUser ++ location) = (p.url.user, p.url.password, location) := by
  rw [UrlParts.writeUser, UrlParts.url]
  cases hcredentials : p.credentials with
  | none => exact credentials_of_not_mem hlocation
  | some c =>
    obtain ⟨user, password⟩ := c
    have huser : ':' ∉ user.toList := hp.user _ hcredentials
    cases password with
    | none => simpa using credentials_user huser hlocation
    | some password =>
      have hread := credentials_password huser hlocation password.toList
      simpa using hread

theorem readUnsigned_digits {bits n : Nat} (h : Numeral.fitsUnsigned bits n = true) :
    Numeral.readUnsigned? bits (Numeral.digits n) = some n := by
  have hread := Numeral.readNat_digits n
  have hdigits : ∀ c ∈ Numeral.digits n, c.isDigit = true := fun _ => Numeral.isDigit_of_mem_digits
  revert hread hdigits
  cases Numeral.digits n with
  | nil => simp [Numeral.readNat?]
  | cons c cs =>
    intro hread hdigits
    have hc := hdigits c (List.mem_cons_self ..)
    rw [Numeral.readUnsigned?]
    · rw [hread, Option.filter_some, h, if_pos rfl]
    · rintro cs' heq
      cases heq
      contradiction

theorem address_of_not_mem {text : List Char} (htext : ':' ∉ text) :
    address text = .ok (text, none) := by
  rw [address, splitLast_eq_none.2 htext]

theorem address_append {digits : List Char} (hdigits : ':' ∉ digits) (host : List Char) :
    address (host ++ ':' :: digits) = (Numeral.readUnsigned? 16 digits).elim
      (.error (.invalidArgument (.badPort (String.ofList digits))))
      fun n => .ok (host, some (UInt16.ofNat n)) := by
  rw [address, splitLast_append _ _ _ hdigits]
  cases hread : Numeral.readUnsigned? 16 digits with
  | none => simp [hread]
  | some n => simp [hread]

theorem address_write (hp : p.Proper) :
    address p.writeHost = .ok ((p.host.getD "").toList, p.port) := by
  cases hport : p.port with
  | none =>
    have hhost : ':' ∉ (p.host.getD "").toList := by
      cases hhost : p.host with
      | none => exact List.not_mem_nil
      | some host => exact hp.portless hport host hhost
    rw [UrlParts.writeHost, hport, List.append_nil, address_of_not_mem hhost]
  | some port =>
    have hdigits : ':' ∉ Numeral.digits port.toNat := fun h =>
      absurd (Numeral.isDigit_of_mem_digits h) (by decide)
    have hfits : Numeral.fitsUnsigned 16 port.toNat = true := by
      have hlt := port.toNat_lt
      simpa [Numeral.fitsUnsigned] using hlt
    rw [UrlParts.writeHost, hport, address_append hdigits, readUnsigned_digits hfits]
    simp

theorem not_mem_writeHost (hp : p.Proper) {c : Char} (hc : c = '@' ∨ c = '/') :
    c ∉ p.writeHost := by
  intro hmem
  rcases List.mem_append.1 hmem with hmem | hmem
  · cases hhost : p.host with
    | none =>
      rw [hhost] at hmem
      contradiction
    | some host =>
      rw [hhost] at hmem
      obtain ⟨-, hslash, hat⟩ := hp.host host hhost
      rcases hc with rfl | rfl
      · exact hat hmem
      · exact hslash hmem
  · cases hport : p.port with
    | none =>
      rw [hport] at hmem
      contradiction
    | some port =>
      rw [hport] at hmem
      have hcolon : c ≠ ':' := by rcases hc with rfl | rfl <;> decide
      have hdigit := Numeral.isDigit_of_mem_digits (List.mem_of_ne_of_mem hcolon hmem)
      rcases hc with rfl | rfl <;> exact absurd hdigit (by decide)

theorem not_mem_location (hp : p.Proper) : '@' ∉ p.writeHost ++ p.writePath := by
  intro hmem
  rcases List.mem_append.1 hmem with hmem | hmem
  · exact not_mem_writeHost hp (.inl rfl) hmem
  · cases hpath : p.path with
    | none =>
      rw [UrlParts.writePath, hpath] at hmem
      contradiction
    | some path =>
      rw [UrlParts.writePath, hpath] at hmem
      exact hp.path path hpath (List.mem_of_ne_of_mem (by decide) hmem)

theorem path_write (hp : p.Proper) :
    (splitFirst? ['/'] (p.writeHost ++ p.writePath)).getD (p.writeHost ++ p.writePath, []) =
      (p.writeHost, (p.path.getD "").toList) := by
  have hslash := not_mem_writeHost hp (.inr rfl)
  cases hpath : p.path with
  | none =>
    rw [UrlParts.writePath, hpath, List.append_nil, splitFirst_eq_none.2 hslash]
    rfl
  | some path =>
    rw [UrlParts.writePath, hpath, splitFirst_append _ _ _ hslash]
    rfl

theorem server_write (hp : p.Proper) :
    server .postgres (p.writeUser ++ (p.writeHost ++ p.writePath)) = .ok p.url := by
  have hhost : (if (p.host.getD "").toList = [] then none else some (p.host.getD "")) = p.host := by
    cases hhost : p.host with
    | none => rfl
    | some host => simp [(hp.host host hhost).1]
  simp only [server, credentials_write hp (not_mem_location hp), path_write hp, address_write hp,
    bind, Except.bind, String.ofList_toList]
  rw [hhost]
  rfl

def behind : Driver → List Char → Except Error DbUrl
  | .postgres, rest => server .postgres rest
  | .sqlite, rest => .ok (sqlite (String.ofList rest))

theorem after_sqlite_eq_none {scheme : String} (hcolon : ':' ∉ scheme.toList)
    (hscheme : scheme ≠ "sqlite") (rest : List Char) :
    after? ['s', 'q', 'l', 'i', 't', 'e', ':'] (scheme.toList ++ ':' :: rest) = none := by
  rw [after_eq_none]
  rintro ⟨more, hmore⟩
  have hplain : splitFirst? [':'] ("sqlite".toList ++ ':' :: more) = some ("sqlite".toList, more) :=
    splitFirst_append ':' _ more (by decide)
  have hsplit := splitFirst_append ':' scheme.toList rest hcolon
  rw [← hmore] at hsplit
  have hsame := Option.some.inj (hplain.symm.trans hsplit)
  exact hscheme (String.toList_inj.1 (congrArg Prod.fst hsame).symm)

theorem parse_of_scheme {scheme : String} (hcolon : ':' ∉ scheme.toList)
    (hscheme : scheme ≠ "sqlite") (rest : List Char) :
    parse (scheme ++ "://" ++ String.ofList rest) =
      Driver.ofName scheme >>= fun d => behind d rest := by
  have htext : (scheme ++ "://" ++ String.ofList rest).toList =
      scheme.toList ++ ([':', '/', '/'] ++ rest) := by simp
  have hsqlite := after_sqlite_eq_none hcolon hscheme ('/' :: '/' :: rest)
  have hsplit := splitFirst_separator ':' ['/', '/'] rest hcolon
  simp only [List.cons_append, List.nil_append] at htext hsplit
  simp only [parse, htext, hsqlite, hsplit, String.ofList_toList]
  cases Driver.ofName scheme with
  | error e => rfl
  | ok d => cases d <;> rfl

theorem parse_of_named {scheme : String} (hscheme : Driver.postgres.Named scheme)
    (rest : List Char) :
    parse (scheme ++ "://" ++ String.ofList rest) = server .postgres rest := by
  have hname := Driver.ofName_of_named hscheme
  have hne : scheme ≠ "sqlite" := by
    rintro rfl
    contradiction
  rw [parse_of_scheme (Driver.colon_not_mem_of_named hscheme) hne, hname]
  rfl

end DbUrl

/-- A URL of a server is read as the parts that it was written from, whatever name its driver goes
by and whichever parts are left out. -/
theorem parse_write {scheme : String} (hscheme : Driver.postgres.Named scheme) {p : UrlParts}
    (hp : p.Proper) : DbUrl.parse (p.write scheme) = .ok p.url := by
  rw [UrlParts.write, DbUrl.parse_of_named hscheme, DbUrl.server_write hp]

namespace Sample

def portal : UrlParts where
  credentials := some ("ops/eu@west", some "p@ss:w/rd")
  host := some "fe80::1"
  port := some 5432
  path := some "orders/2024:q1"

theorem portal_read :
    Driver.postgres.Named "PostgreSQL" ∧ portal.Proper ∧
    portal.write "PostgreSQL" = "PostgreSQL://ops/eu@west:p@ss:w/rd@fe80::1:5432/orders/2024:q1" ∧
    DbUrl.parse (portal.write "PostgreSQL") =
      .ok (.postgres "fe80::1" 5432 "orders/2024:q1" "ops/eu@west" "p@ss:w/rd") := by
  have hscheme : Driver.postgres.Named "PostgreSQL" := ⟨"postgresql", by decide, by decide⟩
  have hproper : portal.Proper := by constructor <;> simp [portal]
  exact ⟨hscheme, hproper, rfl, parse_write hscheme hproper⟩

end Sample

end RecordMapper
