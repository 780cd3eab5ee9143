import ChainRpc.Binary64.Decimal
import ChainRpc.Http.Headers
import ChainRpc.Log
import ChainRpc.Signature
import ChainRpc.Text.Upper
import ChainRpc.Value.Shown

/-!
# Settings

A client is set up from defaults, which the environment gives, from the caller's settings and from
overrides on top of them. A level in the settings also sets up the logger of the library.
-/

namespace ChainRpc

inductive SettingsFault
  | notSettings
  | call (cause : CallFault)
  | unknownLevel (name : Text)
  | notLevel (value : Value)
  | notNumber (raw : Text)
  | headers (cause : Http.Headers.Malformed)
  | shortTimeout
  /-- What is given in the place of a part of the client is of this type, which has nothing under the
  name. -/
  | foreign (typeName name : Text)

def SettingsFault.message : SettingsFault → Text
  | .notSettings       => "settings must be ClientSettings | dict | str | None"
  | .call cause        => cause.message
  | .unknownLevel name => "Unknown level: " ++ name.quoted
  | .notLevel value    =>
    match value.shown? with
    | some shown => "Level not an integer or a valid string: " ++ shown
    | none       => tooLargeMessage
  | .notNumber raw => "could not convert string to float: " ++ raw.quoted
  | .headers cause => cause.message
  | .shortTimeout  => "tuple index out of range"
  | .foreign typeName name =>
    Text.concat [typeName.inApostrophes, " object has no attribute ", name.inApostrophes]

/-! ### Defaults -/

def defaultUrl : Text := "http://127.0.0.1:8114"

/-- What the environment says of clients; a silent one says this. -/
structure Defaults where
  url : Text := defaultUrl
  timeout : Option Binary64 := none
  token : Option Text := none
  logLevel : Option Text := none

namespace Defaults

/-- A timeout in seconds; none for a blank text. -/
def timeout? (raw : Text) : Except SettingsFault (Option Binary64) :=
  if raw.all CodePoint.isBlank then .ok none
  else
    match Binary64.ofText? raw with
    | some x => .ok (some x)
    | none   => .error (.notNumber raw)

def nonEmpty (t : Text) : Option Text :=
  if t = [] then none else some t

def ofEnvironment (env : Entries Text) : Except SettingsFault Defaults := do
  let setting (name : Text) : Text := (env.get? name).getD []
  let timeout ← timeout? (setting "CKB_RPC_TIMEOUT")
  return {
    url := (env.get? "CKB_RPC_URL").getD defaultUrl
    timeout := timeout
    token := nonEmpty (setting "CKB_RPC_TOKEN")
    logLevel := nonEmpty (setting "UCKB_LOG_LEVEL").upper }

end Defaults

/-! ### Settings of a client -/

/-- The settings of a client. They are kept as they are given and checked when the client is set up. -/
structure Settings where
  url : Value
  /-- A number of seconds, or null for no limit. -/
  timeout : Value := .null
  headers : Value := .dict []
  authToken : Value := .null
  /-- The name or the number of a level, or null. -/
  logLevel : Value := .null

namespace Settings

def ofDefaults (d : Defaults) : Settings where
  url := .str d.url
  timeout := (d.timeout.map Value.float).getD .null
  authToken := (d.token.map Value.str).getD .null
  logLevel := (d.logLevel.map Value.str).getD .null

def label : Text := "ClientSettings.__init__"

def set (s : Settings) (name : Text) (value : Value) : Except SettingsFault Settings :=
  if name = "url" then .ok { s with url := value }
  else if name = "timeout" then .ok { s with timeout := value }
  else if name = "headers" then .ok { s with headers := value }
  else if name = "auth_token" then .ok { s with authToken := value }
  else if name = "log_level" then .ok { s with logLevel := value }
  else if name = Signature.receiverName then .error (.call (.repeated label name))
  else .error (.call (.unexpected label name))

/-- Puts values in the places of settings, one after the other. -/
def setAll (s : Settings) : Entries Value → Except SettingsFault Settings
  | [] => .ok s
  | (name, value) :: rest => do (← s.set name value).setAll rest

inductive Source
  | settings (s : Settings)
  /-- Null for the defaults, a URL, or a dictionary of settings. -/
  | value (v : Value)

/-- The settings that a caller gives on top of defaults. -/
def ofSource (d : Defaults) : Source → Except SettingsFault Settings
  | .settings s             => .ok s
  | .value .null            => .ok (ofDefaults d)
  | .value (.str t)         => .ok { ofDefaults d with url := .str t }
  | .value (.dict entries)  => (ofDefaults d).setAll entries
  | .value _                => .error .notSettings

def postHeaders (s : Settings) : Except SettingsFault Http.Headers :=
  (Http.Headers.build s.headers s.authToken).mapError .headers

/-- How long the client waits for an answer; a tuple says so in its second place. -/
def readTimeout (s : Settings) : Except SettingsFault Value :=
  match s.timeout with
  | .tuple (_ :: timeout :: _) => .ok timeout
  | .tuple _ => .error .shortTimeout
  | timeout  => .ok timeout

end Settings

/-! ### The logger -/

structure Logger where
  /-- A number or a truth value. Records below it are dropped; nothing is set at zero. -/
  level : Value := .int 0
  formats : List Text := []

namespace Logger

def format : Text := "%(asctime)s - %(name)s - %(levelname)s - %(message)s"

def levelOf : Value → Except SettingsFault Value
  | .int n  => .ok (.int n)
  | .bool b => .ok (.bool b)
  | .str t  =>
    match Log.threshold? t with
    | some n => .ok (.int n)
    | none   => .error (.unknownLevel t)
  | v => .error (.notLevel v)

def withLevel (logger : Logger) (level : Value) : Except SettingsFault Logger :=
  (levelOf level).map fun level => { logger with level := level }

/-- The least rank of the records that pass. Where no level is set, warnings do. -/
def threshold (logger : Logger) : Int :=
  if ¬ logger.level.isTruthy then Log.Level.warning.rank
  else
    match logger.level with
    | .int n => n
    | _      => 1

/-- Sets up the logger for a client: a level is set, and a handler added if there is none. Without a
level the logger is left to the program around. -/
def configure (logger : Logger) (s : Settings) : Except SettingsFault Logger :=
  match s.logLevel with
  | .null => .ok logger
  | level => do
    let logger ← logger.withLevel level
    return { logger with formats := if logger.formats = [] then [format] else logger.formats }

end Logger

/-! ### Setting up -/

structure ClientParts where
  settings : Settings
  /-- A transport other than the client's own, or null. -/
  transport : Value := .null
  /-- A registry other than the library's, or null. -/
  registry : Value := .null

namespace ClientParts

/-- What a caller gives a client of a class: settings, and on top of them values under the names of
settings or of other parts. -/
def ofCall (className : Text) (d : Defaults) (source : Settings.Source) (named : Entries Value) :
    Except SettingsFault ClientParts := do
  let given : List Text := [Signature.receiverName, "settings"]
  match named.names.find? (· ∈ given) with
  | some name => throw (.call (.repeated (className ++ (".__init__" : Text)) name))
  | none      => pure ()
  let others : List Text := ["transport", "registry"]
  let settings ← (← Settings.ofSource d source).setAll (named.filter (·.1 ∉ others))
  return {
    settings := settings
    transport := (named.get? "transport").getD .null
    registry := (named.get? "registry").getD .null }

end ClientParts

structure Setup where
  settings : Settings
  headers : Http.Headers
  timeout : Value
  logger : Logger

/-- Sets a client up: first the logger, then the transport. -/
def ClientParts.setUp (parts : ClientParts) (logger : Logger) : Except SettingsFault Setup := do
  let logger ← logger.configure parts.settings
  if parts.transport ≠ .null then throw (.foreign parts.transport.typeName "url")
  let headers ← parts.settings.postHeaders
  let timeout ← parts.settings.readTimeout
  if parts.registry ≠ .null then throw (.foreign parts.registry.typeName "name")
  return ⟨parts.settings, headers, timeout, logger⟩

end ChainRpc
