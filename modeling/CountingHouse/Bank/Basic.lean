/-
The bank.

A bank is put together from its settings and works on stores. Its callers have been
identified before: an operation takes the name in their verified claims. A bank that is
told to stop finishes what it has begun and refuses whatever could change the stores
with an error that may be retried; reading goes on, and so do the checks of
credentials and the revocation of sessions.
-/
import CountingHouse.Bank.Settings
import CountingHouse.Desk.Accounts
import CountingHouse.Desk.Rates
import CountingHouse.Desk.Credentials
import CountingHouse.Transfer.Execution

set_option autoImplicit false

namespace CountingHouse

/-! ## Phases -/

/-- Whether the bank still takes on new work. -/
inductive Phase where
  | running
  | shuttingDown
  deriving DecidableEq, Repr

def Phase.accepts : Phase → Bool
  | running => true
  | shuttingDown => false

/-! ## The bank and its premises -/

/-- What a bank is set up with. -/
structure Bank where
  backend : Backend
  credentials : CredentialDesk
  administrator : String
  transfer : TransferPolicy
  refreshDuration : Span

/-- What changes while a bank works. -/
structure Premises where
  phase : Phase := .running
  stores : Stores
  deriving Repr

/-- What is handed out at a login. -/
structure LoginGrant where
  session : SessionId
  username : String
  accessToken : String
  accessExpiry : Instant
  refreshToken : String
  refreshExpiry : Instant

abbrev BankOperation (α : Type) : Type := ExceptT BankError (StateM Premises) α

namespace Bank

/-- The bank of some settings, if the key makes tokens. -/
def new (backend : Backend) (c : Settings) : Except BankError Bank :=
  match TokenIssuer.new c.format c.symmetricKey with
  | .ok issuer =>
    .ok ⟨backend, ⟨issuer, c.accessDuration⟩, c.administrator, c.transfer, c.refreshDuration⟩
  | .error e => .error e.toBankError

def inStores {α : Type} (operation : Operation α) : BankOperation α :=
  fun p => let (answer, stores) := operation p.stores; (answer, { p with stores })

/-- An operation on the stores that is refused once the bank has been told to stop. -/
def whileRunning {α : Type} (operation : Operation α) : BankOperation α :=
  fun p => if p.phase.accepts then inStores operation p
    else (.error (.contention .shuttingDown), p)

def stop (p : Premises) : Premises := { p with phase := .shuttingDown }

variable (bank : Bank)

/-! ## Credentials -/

/-- An access token and a refresh session for a user whose password has been checked. The
two tokens are drawn one after the other. -/
def login (access refresh : Draw) (username : String) (client : Client) :
    BankOperation LoginGrant :=
  whileRunning do
    let (token, claims) ←
      bank.credentials.issueAccess access username bank.credentials.accessDuration
    let issued ←
      bank.credentials.issueRefresh bank.backend refresh username bank.refreshDuration client
    return ⟨issued.session, claims.username, token, claims.expiresAt, issued.refreshToken,
      issued.expiresAt⟩

def issueAccess (draw : Draw) (username : String) (duration : Span) :
    BankOperation (String × Claims) :=
  inStores (bank.credentials.issueAccess draw username duration)

/-- A new refresh token with its session. -/
def issueRefresh (draw : Draw) (username : String) (duration : Span) (client : Client) :
    BankOperation RefreshGrant :=
  whileRunning (bank.credentials.issueRefresh bank.backend draw username duration client)

def verify (token : String) : BankOperation Claims :=
  inStores (bank.credentials.verify token)

def authorize (header : Option String) : BankOperation Claims :=
  inStores (bank.credentials.authorize header)

/-- A new access token in return for a refresh token. -/
def renew (draw : Draw) (token : String) : BankOperation (String × Claims) :=
  whileRunning (bank.credentials.renew bank.backend draw token)

def revoke (caller : String) (session : SessionId) : BankOperation Session :=
  inStores (CredentialDesk.revoke bank.backend caller session)

/-! ## Transfers -/

/-- Moves money from an account of the caller's, in the currency that a text names. -/
def transferMoney (caller : String) (source target : AccountId) (amount : Int)
    (currency : String) : Procedure Premises (Except BankError TransferReceipt) :=
  .act (whileRunning (.of (Currency.parse currency))) fun
    | .error e => .finished (.error e)
    | .ok currency =>
      (TransferOrder.carryOut bank.backend bank.transfer.lockTimeout bank.transfer
        ⟨source, target, amount, currency, caller⟩).zoom Premises.stores
          fun stores p => { p with stores }

/-! ## Accounts -/

def openAccount (caller currency : String) : BankOperation Account :=
  whileRunning (AccountDesk.openAccount bank.backend caller currency)

def account (caller : String) (id : AccountId) : BankOperation Account :=
  inStores (AccountDesk.account bank.backend caller id)

def accounts (caller : String) (pageNumber pageSize : Int) : BankOperation (List Account) :=
  inStores do AccountDesk.accounts bank.backend caller (← .of (Page.new pageNumber pageSize))

/-- A page of the statement of an account of the caller's. -/
def statement (caller : String) (request : StatementRequest) :
    BankOperation (List StatementLine) :=
  inStores (AccountDesk.statement bank.backend caller request)

/-! ## Rates -/

/-- Adds the first rate of a pair, for the administrator. -/
def createRate (caller base target : String) (rate : Decimal) : BankOperation ExchangeRate :=
  whileRunning (RateDesk.create bank.backend bank.administrator caller base target rate)

/-- Replaces the rate of a row, for the administrator. -/
def updateRate (caller : String) (id : RateId) (rate : Decimal) : BankOperation ExchangeRate :=
  whileRunning (RateDesk.update bank.backend bank.administrator caller id rate)

def rate (base target : String) : BankOperation ExchangeRate :=
  inStores (RateDesk.rate bank.backend base target)

def rates : BankOperation (List ExchangeRate) := inStores (RateDesk.list bank.backend)

/-! ## Laws -/

/-- A bank that was told to stop leaves the stores alone where it takes on no new work. -/
theorem whileRunning_stop {α : Type} (operation : Operation α) (p : Premises) :
    whileRunning operation (stop p) = (.error (.contention .shuttingDown), stop p) := rfl

end Bank

end CountingHouse
