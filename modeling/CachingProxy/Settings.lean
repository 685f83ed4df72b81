import CachingProxy.Cache
import CachingProxy.Origin.Table
import CachingProxy.Toml.Document
import CachingProxy.Url.Basic

namespace CachingProxy

structure ServerSettings where
  host : String := "0.0.0.0"
  tcpPort : Nat := 8080
  loops : Option Nat := none
  requestTimeoutSecs : Nat := 30

structure LogSettings where
  level : String := "info"
  json : Bool := false

structure Settings where
  server : ServerSettings := {}
  cache : CacheSettings := {}
  origins : Origins := .empty
  logging : LogSettings := {}

namespace Settings

/-- The values of the named fields. A record is a table, or an array of its fields in order; what is not
known is ignored. -/
def fields? (names : List String) : Toml → Option (List (Option Toml))
  | .table _ es => some (names.map fun n => Toml.Entries.get? n es)
  | .array items => some (names.mapIdx fun i _ => items[i]?)
  | .tables items => some (names.mapIdx fun i _ => items[i]?)
  | .moment _ => some (names.map fun _ => none)
  | _ => none

def orDefault {α : Type} (read : Toml → Option α) (d : α) : Option Toml → Option α
  | some v => read v
  | none => some d

def text? : Toml → Option String
  | .text s => some s
  | _ => none

def boolean? : Toml → Option Bool
  | .boolean b => some b
  | _ => none

/-- A natural number below 2^(bits). -/
def natural? (bits : Nat) : Toml → Option Nat
  | .integer n => if 0 ≤ n ∧ n < (Nat.pow 2 bits : Int) then some n.toNat else none
  | _ => none

/-- The name under which a date or time counts as a table. -/
def momentKey : String := "$__toml_private_datetime"

/-- A table with values of one type under names of any kind. -/
def table? {α : Type} (read : Toml → Option α) : Toml → Option (Assoc String α)
  | .table _ es => collect es
  | .moment m => collect [(momentKey, .text (String.ofList m.render))]
  | _ => none
where
  collect (es : Toml.Entries) : Option (Assoc String α) :=
    es.foldlM (fun t e => (read e.2).map fun a => t.set e.1 a) .empty

def server? (v : Toml) : Option ServerSettings := do
  match ← fields? ["host", "port", "workers", "request_timeout_secs"] v with
  | [host, tcpPort, loops, timeout] =>
    let d : ServerSettings := {}
    return {
      host := ← orDefault text? d.host host
      tcpPort := ← orDefault (natural? 16) d.tcpPort tcpPort
      loops := ← orDefault (fun v => (natural? 64 v).map some) d.loops loops
      requestTimeoutSecs := ← orDefault (natural? 64) d.requestTimeoutSecs timeout }
  | _ => none

def cache? (v : Toml) : Option CacheSettings := do
  match ← fields? ["buffer_size_per_host", "coalescing"] v with
  | [capacity, merging] =>
    let d : CacheSettings := {}
    return {
      capacity := ← orDefault (natural? 64) d.capacity capacity
      merging := ← orDefault boolean? d.merging merging }
  | _ => none

def origin? (v : Toml) : Option Origin := do
  match ← fields? ["url", "timeout_secs", "max_retries", "headers"] v with
  | [url, timeout, retries, headers] =>
    let d : Origin := { url := ← text? (← url) }
    return { d with
      timeoutSecs := ← orDefault (natural? 64) d.timeoutSecs timeout
      maxRetries := ← orDefault (natural? 32) d.maxRetries retries
      headers := ← orDefault (table? text?) d.headers headers }
  | _ => none

def logging? (v : Toml) : Option LogSettings := do
  match ← fields? ["level", "json_format"] v with
  | [level, json] =>
    let d : LogSettings := {}
    return { level := ← orDefault text? d.level level, json := ← orDefault boolean? d.json json }
  | _ => none

def ofEntries? (es : Toml.Entries) : Option Settings := do
  let d : Settings := {}
  return {
    server := ← orDefault server? d.server (Toml.Entries.get? "server" es)
    cache := ← orDefault cache? d.cache (Toml.Entries.get? "cache" es)
    origins := ← orDefault (table? origin?) d.origins (Toml.Entries.get? "origins" es)
    logging := ← orDefault logging? d.logging (Toml.Entries.get? "logging" es) }

def checkOrigin (name : String) (o : Origin) : Except Failure Unit :=
  match Url.parse o.url with
  | .error e => .error ⟨.settings, "Invalid url for origin " ++ name ++ ": " ++ e.message⟩
  | .ok u =>
    if u.scheme = "http" ∨ u.scheme = "https" then .ok ()
    else .error ⟨.settings, "Origin " ++ name ++ " must use http or https, got " ++ u.scheme⟩

/-- Refuses settings that could not work once there are requests. -/
def check (s : Settings) : Except Failure Unit := do
  s.cache.check
  if s.server.loops = some 0 then throw ⟨.settings, "server.workers must be at least 1"⟩
  for (name, o) in s.origins.entries do
    checkOrigin name o

def ofDocument (document : String) : Except Failure Settings :=
  match (Toml.Entries.parse? document).bind ofEntries? with
  | some s => do
    s.check
    return s
  | none => .error ⟨.settings, "Failed to parse config:"⟩

inductive Found
  | nothing
  | file (content : Bytes)

def load : Found → Except Failure Settings
  | .nothing =>
    .error ⟨.settings, "Failed to read config file: No such file or directory (os error 2)"⟩
  | .file content =>
    match content.text? with
    | some document => ofDocument document
    | none =>
      .error ⟨.settings, "Failed to read config file: stream did not contain valid UTF-8"⟩

/-- The settings in a file, or the defaults if there is none; whether there was one. -/
def locate : Found → Except Failure (Settings × Bool)
  | .nothing => do
    let s : Settings := {}
    s.check
    return (s, false)
  | found => (load found).map fun s => (s, true)

def address (s : Settings) : String := s.server.host ++ ":" ++ toString s.server.tcpPort

end Settings
end CachingProxy
