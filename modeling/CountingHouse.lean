import CountingHouse.Text.Blank
import CountingHouse.Text.Upper
import CountingHouse.Text.Base64
import CountingHouse.Json.Reader
import CountingHouse.Json.Printer
import CountingHouse.Decimal.Json
import CountingHouse.Calendar.Rfc3339
import CountingHouse.Failure.Storage
import CountingHouse.Money.Amount
import CountingHouse.Rates.Table
import CountingHouse.Ledger.UnitOfWork
import CountingHouse.Crypto.Gcm
import CountingHouse.Token.Issuer
import CountingHouse.Desk.Credentials
import CountingHouse.Schedule.Activity
import CountingHouse.Transfer.Execution
import CountingHouse.Bank.Basic
import CountingHouse.Proofs.Ledger.Moves
import CountingHouse.Proofs.Ledger.Isolation
import CountingHouse.Proofs.Transfer.Plans
import CountingHouse.Proofs.Transfer.Stages
import CountingHouse.Proofs.Transfer.Alone
import CountingHouse.Proofs.Transfer.Retries
import CountingHouse.Proofs.Transfer.Repetition
import CountingHouse.Proofs.Transfer.Objections
import CountingHouse.Proofs.Transfer.Single
import CountingHouse.Proofs.Transfer.Floor
import CountingHouse.Proofs.Transfer.Orderly
import CountingHouse.Proofs.Ledger.Numbers
import CountingHouse.Proofs.Transfer.Books
import CountingHouse.Proofs.Transfer.Replay
import CountingHouse.Proofs.Transfer.Serial
import CountingHouse.Proofs.Ledger.Holders
import CountingHouse.Proofs.Ledger.Queue
import CountingHouse.Proofs.Transfer.Waiting
import CountingHouse.Proofs.Transfer.Journal
import CountingHouse.Proofs.Ledger.Paging
import CountingHouse.Proofs.Ledger.Days
import CountingHouse.Proofs.Ledger.Listings
import CountingHouse.Proofs.Transfer.Statements
import CountingHouse.Proofs.Schedule.Pieces
import CountingHouse.Proofs.Transfer.Pieces
import CountingHouse.Proofs.Bank.Hall
import CountingHouse.Proofs.Bank.Mirror
import CountingHouse.Proofs.Bank.Guard
import CountingHouse.Proofs.Text.Numeral
import CountingHouse.Proofs.Text.Utf8
import CountingHouse.Proofs.Text.Base64
import CountingHouse.Proofs.Json.RoundTrip
import CountingHouse.Proofs.Json.Records
import CountingHouse.Proofs.Text.Uuid
import CountingHouse.Proofs.Calendar.Civil
import CountingHouse.Proofs.Calendar.Order
import CountingHouse.Proofs.Calendar.Spelling
import CountingHouse.Proofs.Calendar.Spans
import CountingHouse.Proofs.Crypto.Gcm
import CountingHouse.Proofs.Token.RoundTrip
import CountingHouse.Proofs.Token.Signed
import CountingHouse.Proofs.Token.Sealed
import CountingHouse.Proofs.Desk.Credentials
import CountingHouse.Proofs.Desk.Refusal
import CountingHouse.Proofs.Session.Table
import CountingHouse.Proofs.Session.Visits
import CountingHouse.Proofs.Session.Lifetimes
import CountingHouse.Proofs.Session.Renewal
import CountingHouse.Proofs.Decimal.Rounding
import CountingHouse.Proofs.Decimal.Inverse
import CountingHouse.Proofs.Rates.Conversion
import CountingHouse.Proofs.Rates.Order
import CountingHouse.Proofs.Rates.Rows
import CountingHouse.Proofs.Rates.Integrity
import CountingHouse.Proofs.Bank.Closing
import CountingHouse.Proofs.Text.Fields
import CountingHouse.Proofs.Text.Letters
import CountingHouse.Proofs.Text.Trim
import CountingHouse.Proofs.Desk.Header
import CountingHouse.Proofs.Bank.Login
import CountingHouse.Proofs.Money.Codes
import CountingHouse.Proofs.Json.Documents
import CountingHouse.Proofs.Decimal.Spelling
import CountingHouse.Proofs.Bank.Documents
import CountingHouse.Proofs.Bank.Acceptance
import CountingHouse.Proofs.Bank.Environment
import CountingHouse.Proofs.Schedule.Multiples
import CountingHouse.Proofs.Transfer.Pauses
