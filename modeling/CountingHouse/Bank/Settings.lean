/-
The settings of the bank.

Every setting has a default and a variable of the environment that overrides it. A
variable that is not set, or whose text does not spell a value of the setting, leaves
the default; but a number of seconds that is an integer and too long for a span makes
loading fail. Settings may be loaded that the bank cannot work with; `flaw?` says what
is wrong with them.
-/
import CountingHouse.Token.Issuer
import CountingHouse.Transfer.Policy

set_option autoImplicit false

namespace CountingHouse

open Text

/-! ## Settings -/

/-- The settings of the bank. -/
structure Settings where
  databaseUrl : String := "postgres://localhost/bankcore"
  maxConnections : Nat := 10
  administrator : String := "admin"
  logLevel : String := "info"
  symmetricKey : String := ""
  format : TokenFormat := .signed
  accessDuration : Span := .ofSeconds (15 * 60)
  refreshDuration : Span := .ofSeconds (24 * 60 * 60)
  transfer : TransferPolicy := {}
  deriving DecidableEq, Repr

/-- What is wrong with settings. -/
inductive SettingsFlaw where
  | emptyDatabaseUrl
  | noConnections
  | emptyAdministrator
  | shortKey (least : Nat)
  | accessDurationNotPositive
  | refreshShorterThanAccess
  | zeroLockTimeout
  deriving DecidableEq, Repr

def SettingsFlaw.message : SettingsFlaw → String
  | emptyDatabaseUrl => "Database URL cannot be empty"
  | noConnections => "Max connections cannot be 0"
  | emptyAdministrator => "Admin username cannot be empty"
  | shortKey least =>
    "Token symmetric key must be at least " ++ intText least ++ " characters"
  | accessDurationNotPositive => "Access token duration must be positive"
  | refreshShorterThanAccess =>
    "Refresh token duration cannot be shorter than access token duration"
  | zeroLockTimeout => "Lock timeout cannot be 0"

namespace Settings

/-- The first thing that is wrong with settings. -/
def flaw? (c : Settings) : Option SettingsFlaw :=
  if c.databaseUrl = "" then some .emptyDatabaseUrl
  else if c.maxConnections = 0 then some .noConnections
  else if c.administrator = "" then some .emptyAdministrator
  else if (utf8 c.symmetricKey).length < leastKeyLength then some (.shortKey leastKeyLength)
  else if c.accessDuration ≤ .zero then some .accessDurationNotPositive
  else if c.refreshDuration < c.accessDuration then some .refreshShorterThanAccess
  else if c.transfer.lockTimeout = .zero then some .zeroLockTimeout
  else none

/-! ## The environment -/

/-- The variables that are set. -/
abbrev Environment := String → Option String

/-- The value that a variable spells, or else a default. -/
def setting {α : Type} (env : Environment) (name : String) (read : List Char → Option α)
    (default : α) : α :=
  ((env name).bind fun text => read text.toList).getD default

def readBits (bits : Nat) : List Char → Option Nat := readNat? (Nat.pow 2 bits - 1)

/-- The span of a number of seconds in a variable, or else a default; `none` if the number is
an integer and too long. -/
def spanSetting (env : Environment) (name : String) (default : Span) : Option Span :=
  match (env name).bind fun text => readInt? leastStored greatestStored text.toList with
  | some seconds => Span.ofSeconds? seconds
  | none => some default

/-- The settings that the environment describes. -/
def ofEnvironment? (env : Environment) : Option Settings := do
  let default : Settings := {}
  let text name value := setting env name (some ∘ String.ofList) value
  let accessDuration ← spanSetting env "ACCESS_TOKEN_DURATION_SECS" default.accessDuration
  let refreshDuration ← spanSetting env "REFRESH_TOKEN_DURATION_SECS" default.refreshDuration
  return {
    databaseUrl := text "DATABASE_URL" default.databaseUrl
    maxConnections := setting env "DATABASE_MAX_CONNECTIONS" (readBits 32) default.maxConnections
    administrator := text "ADMIN_USERNAME" default.administrator
    logLevel := text "LOG_LEVEL" default.logLevel
    symmetricKey := text "TOKEN_SYMMETRIC_KEY" default.symmetricKey
    format := setting env "TOKEN_MAKER"
      (fun s => (TokenFormat.parse (String.ofList s)).toOption) default.format
    accessDuration
    refreshDuration
    transfer := {
      maxRetries := setting env "TRANSFER_MAX_RETRIES" (readBits 32) default.transfer.maxRetries
      retryBackoff := setting env "TRANSFER_RETRY_BACKOFF_MS"
        (fun s => (readBits 64 s).map Delay.ofMillis) default.transfer.retryBackoff
      lockTimeout := setting env "LOCK_TIMEOUT_MS"
        (fun s => (readBits 64 s).map Delay.ofMillis) default.transfer.lockTimeout } }

end Settings

end CountingHouse
