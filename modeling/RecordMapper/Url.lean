import RecordMapper.Dialect
import RecordMapper.Error
import RecordMapper.Text.Split

namespace RecordMapper

inductive Driver
  | postgres
  | sqlite
  deriving DecidableEq

namespace Driver

def name : Driver → String
  | postgres => "postgres"
  | sqlite => "sqlite"

def dialect : Driver → Dialect
  | postgres => .postgres
  | sqlite => .sqlite

def ofName (name : String) : Except Error Driver :=
  let known := String.ofList (name.toList.map Char.toLower)
  if known = "postgres" ∨ known = "postgresql" ∨ known = "psycopg2" then .ok postgres
  else if known = "sqlite" ∨ known = "sqlite3" then .ok sqlite
  else .error (.unknownDriver name)

end Driver

structure DbUrl where
  driver : Driver
  host : Option String := none
  port : Option UInt16 := none
  database : String
  user : Option String := none
  password : Option String := none
  deriving DecidableEq

namespace DbUrl

def memoryName : String := ":memory:"

def sqlite (path : String) : DbUrl := { driver := .sqlite, database := path }

def sqliteMemory : DbUrl := sqlite memoryName

def postgres (host : String) (port : UInt16) (database user password : String) : DbUrl :=
  { driver := .postgres, host, port, database, user, password }

def isMemory (u : DbUrl) : Bool := u.driver = .sqlite && u.database = memoryName

/-- User and password before the last at-sign; a colon divides them. -/
def credentials (rest : List Char) : Option String × Option String × List Char :=
  match Text.splitLast? '@' rest with
  | none => (none, none, rest)
  | some (who, location) =>
    match Text.splitFirst? [':'] who with
    | none => (some (String.ofList who), none, location)
    | some (user, password) => (some (String.ofList user), some (String.ofList password), location)

def address (text : List Char) : Except Error (List Char × Option UInt16) :=
  match Text.splitLast? ':' text with
  | none => .ok (text, none)
  | some (host, port) =>
    match Numeral.readUnsigned? 16 port with
    | some n => .ok (host, some (UInt16.ofNat n))
    | none => .error (.invalidArgument (.badPort (String.ofList port)))

def server (driver : Driver) (rest : List Char) : Except Error DbUrl := do
  let (user, password, location) := credentials rest
  let (place, database) := (Text.splitFirst? ['/'] location).getD (location, [])
  let (host, port) ← address place
  return {
    driver, port, user, password
    host := if host = [] then none else some (String.ofList host)
    database := String.ofList database }

def parse (url : String) : Except Error DbUrl :=
  match Text.after? ['s', 'q', 'l', 'i', 't', 'e', ':'] url.toList with
  | some rest =>
    let path := (Text.after? ['/', '/'] rest).getD rest
    if path = [] then .error (.invalidArgument .noDatabasePath)
    else .ok (sqlite (String.ofList path))
  | none =>
    match Text.splitFirst? [':', '/', '/'] url.toList with
    | none => .error (.invalidArgument (.malformedUrl url))
    | some (scheme, rest) => do
      match ← Driver.ofName (String.ofList scheme) with
      | .sqlite => return sqlite (String.ofList rest)
      | .postgres => server .postgres rest

def display (u : DbUrl) : String :=
  match u.driver with
  | .sqlite => if u.isMemory then "sqlite::memory:" else "sqlite://" ++ u.database
  | .postgres =>
    "postgres://" ++ (match u.user with
      | some user => user ++ "@"
      | none => "") ++ u.host.getD "localhost" ++ (match u.port with
      | some port => ":" ++ String.ofList (Numeral.digits port.toNat)
      | none => "") ++ "/" ++ u.database

end DbUrl

inductive ConfigValue
  | null
  | text (s : String)
  | whole (i : Int)
  -- A boolean, or a number that is not whole.
  | other
  | list (items : List ConfigValue)
  | object (entries : List (String × ConfigValue))
  deriving Inhabited

namespace ConfigValue

def text? : ConfigValue → Option String
  | text s => some s
  | _ => none

def port? : ConfigValue → Option UInt16
  | whole i => if 0 ≤ i ∧ Numeral.fitsUnsigned 16 i.toNat then some (UInt16.ofNat i.toNat) else none
  | _ => none

def setting? (read : ConfigValue → Option α) : Option ConfigValue → Option (Option α)
  | none => some none
  | some null => some none
  | some v => (read v).map some

def get? (name : String) (position : Nat) : ConfigValue → Option ConfigValue
  | object entries => entries.lookup name
  | list items => items[position]?
  | _ => none

def isSettings : ConfigValue → Bool
  | object _ => true
  | list items => items.length ≤ 6
  | _ => false

end ConfigValue

def DbUrl.ofConfig? (v : ConfigValue) : Option DbUrl := do
  guard v.isSettings
  let driver ← (Driver.ofName (← (← v.get? "driver" 0).text?)).toOption
  let host ← ConfigValue.setting? ConfigValue.text? (v.get? "host" 1)
  let port ← ConfigValue.setting? ConfigValue.port? (v.get? "port" 2)
  let database ← (← v.get? "database" 3).text?
  let user ← ConfigValue.setting? ConfigValue.text? (v.get? "user" 4)
  let password ← ConfigValue.setting? ConfigValue.text? (v.get? "password" 5)
  return { driver, host, port, database, user, password }

end RecordMapper
