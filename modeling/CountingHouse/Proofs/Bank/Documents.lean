/-
The documents of the bank are read back.

Everything that the bank sends or takes as a document is made of the same few parts: texts,
integers that fit a row, currencies, dates, instants, identifiers and decimals. Each part is read
as it was written, if the integers fit and the leap seconds are at the end of a minute; of a
decimal only the sign of a zero is lost. So the records made of them are read as they were
written, the parts that may be missing included.
-/
import CountingHouse.Ledger.Statement
import CountingHouse.Rates.Exchange
import CountingHouse.Session.Basic
import CountingHouse.Transfer.Order
import CountingHouse.Proofs.Decimal.Spelling
import CountingHouse.Proofs.Json.Documents
import CountingHouse.Proofs.Ledger.Paging
import CountingHouse.Proofs.Money.Codes
import CountingHouse.Proofs.Token.RoundTrip

set_option autoImplicit false

namespace CountingHouse

open Text

/-! ## Parts of records -/

/-- A currency is written as its code. There are four of them, so the proof is by cases. -/
theorem Currency.carries (c : Currency) : Json.Carries ofJson? c.toJson c :=
  ⟨Json.isSpelled_ofText _, c.ofJson?_settled⟩

/-- A decimal is written as text, with its scale. What comes back is the decimal as shown, because
the sign of a zero is not written. -/
theorem Decimal.carries (d : Decimal) : Json.Carries ofJson? d.toJson d.shown :=
  ⟨Json.isSpelled_ofText _, d.ofJson?_settled⟩

/-- An instant, if it is one that a clock shows; others have a leap second where none can be, and
their text is another instant's. -/
theorem Instant.carries {t : Instant} (h : t.IsRegular) : Json.Carries ofJson? t.toJson t := by
  refine ⟨Json.isSpelled_ofText _, ?_⟩
  rw [ofJson?_settled, shown_of_isRegular h]

/-- A date, whatever its year: the text says how many digits and which sign a year has. -/
theorem Date.carries (d : Date) : Json.Carries ofJson? d.toJson d := by
  refine ⟨Json.isSpelled_ofText _, ?_⟩
  have hread := Json.characters?_settled d.write
  have hcivil : readCivil? d.write = some (d.civil, []) := by
    simpa using readCivil?_write d []
  simp only [toJson, toText, Json.ofText, Json.settled, ofJson?, String.toList_ofList, hread,
    Option.bind_eq_bind, Option.bind_some, read?, hcivil]
  exact ofCivil?_civil d

/-- A date that may be missing. It is written as null then, and null is read as missing again. -/
theorem Date.carries_ofOption (o : Option Date) :
    Json.Carries (fun j => Json.optional? ofJson? (some j)) (Json.ofOption toJson o) o := by
  have h := Json.carries_ofOption (fun _ => rfl) Date.carries o
  rwa [Option.map_id'] at h

/-- A decimal that may be missing, with the same loss as a decimal that is there. -/
theorem Decimal.carries_ofOption (o : Option Decimal) : Json.Carries
    (fun j => Json.optional? ofJson? (some j)) (Json.ofOption toJson o) (o.map shown) :=
  Json.carries_ofOption (fun _ => rfl) Decimal.carries o

/-! ## Pairs and pages -/

/-- A pair passes the check of its reader because its currencies are different, which is part of
what a pair is. -/
theorem CurrencyPair.carries (p : CurrencyPair) : Json.Carries ofJson? p.toJson p := by
  have hbase := p.base.carries
  have htarget := p.target.carries
  refine Json.carries_ofFields ["base", "target"] rfl (by decide)
    (by simp [hbase.isSpelled, htarget.isSpelled]) fun j hj => ?_
  unfold ofJson?
  rw [hj]
  simp only [List.map_cons, List.map_nil, Option.bind_eq_bind, Option.bind_some, Json.required?,
    hbase.read_settled, htarget.read_settled, new, dif_neg p.base_ne_target]
  rfl

/-- Whether a page is one that is accepted. -/
def Page.IsAccepted (p : Page) : Prop := new p.number p.size = .ok p

/-- The numbers of an accepted page have room in 64 bits; accepting bounds both of them. -/
theorem Page.isStored_of_isAccepted {p : Page} (h : p.IsAccepted) :
    IsStored p.number ∧ IsStored p.size := by
  obtain ⟨-, hnumber, hleast, hgreatest, hstored⟩ := new_eq_ok_iff.mp h
  unfold leastSize at hleast
  unfold greatestSize at hgreatest
  -- in front of a page are at least five rows for each page before it
  have hrows : (p.number - 1) * 5 ≤ (p.number - 1) * p.size :=
    Int.mul_le_mul_of_nonneg_left hleast (by omega)
  unfold IsStored leastStored greatestStored at hstored ⊢
  omega

/-- A page passes the check of its reader if it has passed that check when it was made. -/
theorem Page.carries {p : Page} (h : p.IsAccepted) : Json.Carries ofJson? p.toJson p := by
  obtain ⟨hnumber, hsize⟩ := isStored_of_isAccepted h
  have hnumber := Json.carries_ofInt hnumber
  have hsize := Json.carries_ofInt hsize
  refine Json.carries_ofFields ["page_id", "page_size"] rfl (by decide)
    (by simp [hnumber.isSpelled, hsize.isSpelled]) fun j hj => ?_
  unfold ofJson?
  rw [hj]
  simp only [List.map_cons, List.map_nil, Option.bind_eq_bind, Option.bind_some, Json.required?,
    hnumber.read_settled, hsize.read_settled]
  rw [h]
  rfl

/-! ## Orders and requests -/

/-- Whether the integers of an order fit a row. -/
structure TransferOrder.IsStorable (r : TransferOrder) : Prop where
  source : IsStored r.source.number
  target : IsStored r.target.number
  amount : IsStored r.amount

/-- An order, with numbers that have room in 64 bits. It need not be one that could be carried
out. -/
theorem TransferOrder.carries {r : TransferOrder} (h : r.IsStorable) :
    Json.Carries ofJson? r.toJson r := by
  have hsource := Json.carries_ofInt h.source
  have htarget := Json.carries_ofInt h.target
  have hamount := Json.carries_ofInt h.amount
  have hcurrency := r.currency.carries
  have howner := Json.carries_ofText r.owner
  refine Json.carries_ofFields fieldNames rfl (by decide)
    (by simp [hsource.isSpelled, htarget.isSpelled, hamount.isSpelled, hcurrency.isSpelled,
      howner.isSpelled]) fun j hj => ?_
  unfold ofJson?
  rw [hj]
  simp only [List.map_cons, List.map_nil, Option.bind_eq_bind, Option.bind_some, Json.required?,
    hsource.read_settled, htarget.read_settled, hamount.read_settled, hcurrency.read_settled,
    howner.read_settled]
  rfl

/-- Whether the number of the account fits a row and the page is accepted. -/
structure StatementRequest.IsStorable (r : StatementRequest) : Prop where
  account : IsStored r.account.number
  page : r.page.IsAccepted

/-- A request for a statement, with an accepted page. Dates that are missing come back as
missing. -/
theorem StatementRequest.carries {r : StatementRequest} (h : r.IsStorable) :
    Json.Carries ofJson? r.toJson r := by
  have haccount := Json.carries_ofInt h.account
  have hpage := Page.carries h.page
  have hstart := Date.carries_ofOption r.startDate
  have hend := Date.carries_ofOption r.endDate
  refine Json.carries_ofFields fieldNames rfl (by decide)
    (by simp [haccount.isSpelled, hpage.isSpelled, hstart.isSpelled,
      hend.isSpelled]) fun j hj => ?_
  unfold ofJson?
  rw [hj]
  simp only [List.map_cons, List.map_nil, Option.bind_eq_bind, Option.bind_some, Json.required?,
    haccount.read_settled, hpage.read_settled, hstart.read_settled, hend.read_settled]
  rfl

/-- What is known of a client is two texts, each of which may be missing. -/
theorem Client.carries (c : Client) : Json.Carries ofJson? c.toJson c := by
  have huserAgent := Json.carries_ofText c.userAgent
  have hclientIp := Json.carries_ofText c.clientIp
  refine Json.carries_ofFields ["user_agent", "client_ip"] rfl (by decide)
    (by simp [huserAgent.isSpelled, hclientIp.isSpelled]) fun j hj => ?_
  unfold ofJson?
  rw [hj]
  simp only [List.map_cons, List.map_nil, Option.bind_eq_bind, Option.bind_some, Json.required?,
    huserAgent.read_settled, hclientIp.read_settled]
  rfl

/-! ## Rows of the ledger -/

/-- Whether the integers of an account fit a row, and its instant is one of a clock. -/
structure Account.IsStorable (a : Account) : Prop where
  id : IsStored a.id.number
  balance : IsStored a.balance
  createdAt : a.createdAt.IsRegular

/-- A row of an account: its time has to be one that a clock shows, its numbers storable. -/
theorem Account.carries {a : Account} (h : a.IsStorable) : Json.Carries ofJson? a.toJson a := by
  have hid := Json.carries_ofInt h.id
  have howner := Json.carries_ofText a.owner
  have hbalance := Json.carries_ofInt h.balance
  have hcurrency := a.currency.carries
  have hcreated := Instant.carries h.createdAt
  refine Json.carries_ofFields fieldNames rfl (by decide)
    (by simp [hid.isSpelled, howner.isSpelled, hbalance.isSpelled, hcurrency.isSpelled,
      hcreated.isSpelled]) fun j hj => ?_
  unfold ofJson?
  rw [hj]
  simp only [List.map_cons, List.map_nil, Option.bind_eq_bind, Option.bind_some, Json.required?,
    hid.read_settled, howner.read_settled, hbalance.read_settled, hcurrency.read_settled,
    hcreated.read_settled]
  rfl

/-- Whether the integers of a transfer fit a row, and its instant is one of a clock. -/
structure Transfer.IsStorable (t : Transfer) : Prop where
  id : IsStored t.id.number
  source : IsStored t.source.number
  target : IsStored t.target.number
  amount : IsStored t.amount
  sourceAmount : IsStored t.sourceAmount
  createdAt : t.createdAt.IsRegular

/-- The transfer as it is read. -/
def Transfer.shown (t : Transfer) : Transfer :=
  { t with exchangeRate := t.exchangeRate.map Decimal.shown }

/-- A row of a transfer. Its rate comes back as shown, the rest as it is. -/
theorem Transfer.carries {t : Transfer} (h : t.IsStorable) :
    Json.Carries ofJson? t.toJson t.shown := by
  have hid := Json.carries_ofInt h.id
  have hsource := Json.carries_ofInt h.source
  have htarget := Json.carries_ofInt h.target
  have hamount := Json.carries_ofInt h.amount
  have hsourceAmount := Json.carries_ofInt h.sourceAmount
  have hrate := Decimal.carries_ofOption t.exchangeRate
  have hcreated := Instant.carries h.createdAt
  refine Json.carries_ofFields fieldNames rfl (by decide)
    (by simp [hid.isSpelled, hsource.isSpelled, htarget.isSpelled, hamount.isSpelled,
      hsourceAmount.isSpelled, hrate.isSpelled, hcreated.isSpelled]) fun j hj => ?_
  unfold ofJson?
  rw [hj]
  simp only [List.map_cons, List.map_nil, Option.bind_eq_bind, Option.bind_some, Json.required?,
    hid.read_settled, hsource.read_settled, htarget.read_settled, hamount.read_settled,
    hsourceAmount.read_settled, hrate.read_settled, hcreated.read_settled]
  rfl

/-- Whether the integers of an entry fit a row, and its instant is one of a clock. -/
structure Entry.IsStorable (e : Entry) : Prop where
  id : IsStored e.id.number
  account : IsStored e.account.number
  transfer : IsStored e.transfer.number
  amount : IsStored e.amount
  createdAt : e.createdAt.IsRegular

/-- A row of an entry. It has no decimal, so nothing is lost. -/
theorem Entry.carries {e : Entry} (h : e.IsStorable) : Json.Carries ofJson? e.toJson e := by
  have hid := Json.carries_ofInt h.id
  have haccount := Json.carries_ofInt h.account
  have htransfer := Json.carries_ofInt h.transfer
  have hamount := Json.carries_ofInt h.amount
  have hcreated := Instant.carries h.createdAt
  refine Json.carries_ofFields fieldNames rfl (by decide)
    (by simp [hid.isSpelled, haccount.isSpelled, htransfer.isSpelled, hamount.isSpelled,
      hcreated.isSpelled]) fun j hj => ?_
  unfold ofJson?
  rw [hj]
  simp only [List.map_cons, List.map_nil, Option.bind_eq_bind, Option.bind_some, Json.required?,
    hid.read_settled, haccount.read_settled, htransfer.read_settled, hamount.read_settled,
    hcreated.read_settled]
  rfl

/-- Whether all rows in a receipt are storable. -/
structure TransferReceipt.IsStorable (r : TransferReceipt) : Prop where
  transfer : r.transfer.IsStorable
  sourceEntry : r.sourceEntry.IsStorable
  targetEntry : r.targetEntry.IsStorable
  sourceAccount : r.sourceAccount.IsStorable
  targetAccount : r.targetAccount.IsStorable

/-- The receipt as it is read. -/
def TransferReceipt.shown (r : TransferReceipt) : TransferReceipt :=
  { r with transfer := r.transfer.shown }

/-- A receipt, from the five rows in it. -/
theorem TransferReceipt.carries {r : TransferReceipt} (h : r.IsStorable) :
    Json.Carries ofJson? r.toJson r.shown := by
  have htransfer := Transfer.carries h.transfer
  have hsourceEntry := Entry.carries h.sourceEntry
  have htargetEntry := Entry.carries h.targetEntry
  have hsourceAccount := Account.carries h.sourceAccount
  have htargetAccount := Account.carries h.targetAccount
  refine Json.carries_ofFields fieldNames rfl (by decide)
    (by simp [htransfer.isSpelled, hsourceEntry.isSpelled, htargetEntry.isSpelled,
      hsourceAccount.isSpelled, htargetAccount.isSpelled]) fun j hj => ?_
  unfold ofJson?
  rw [hj]
  simp only [List.map_cons, List.map_nil, Option.bind_eq_bind, Option.bind_some, Json.required?,
    htransfer.read_settled, hsourceEntry.read_settled, htargetEntry.read_settled,
    hsourceAccount.read_settled, htargetAccount.read_settled]
  rfl

/-- Whether the transfer of a line is storable and its signed amount fits a row. -/
structure StatementLine.IsStorable (l : StatementLine) : Prop where
  transfer : l.transfer.IsStorable
  signedAmount : IsStored l.signedAmount

/-- The line as it is read. -/
def StatementLine.shown (l : StatementLine) : StatementLine :=
  { l with transfer := l.transfer.shown }

/-- A line of a statement: a transfer and a signed amount. -/
theorem StatementLine.carries {l : StatementLine} (h : l.IsStorable) :
    Json.Carries ofJson? l.toJson l.shown := by
  have htransfer := Transfer.carries h.transfer
  have hamount := Json.carries_ofInt h.signedAmount
  refine Json.carries_ofFields ["transfer", "signed_amount"] rfl (by decide)
    (by simp [htransfer.isSpelled, hamount.isSpelled]) fun j hj => ?_
  unfold ofJson?
  rw [hj]
  simp only [List.map_cons, List.map_nil, Option.bind_eq_bind, Option.bind_some, Json.required?,
    htransfer.read_settled, hamount.read_settled]
  rfl

/-! ## Rates and conversions -/

/-- Whether the number of a rate fits a row, and its instants are those of a clock. -/
structure ExchangeRate.IsStorable (r : ExchangeRate) : Prop where
  id : IsStored r.id.number
  createdAt : r.createdAt.IsRegular
  updatedAt : r.updatedAt.IsRegular

/-- The row as it is read. -/
def ExchangeRate.shown (r : ExchangeRate) : ExchangeRate := { r with rate := r.rate.shown }

/-- A row of a rate; the rate itself comes back as shown. -/
theorem ExchangeRate.carries {r : ExchangeRate} (h : r.IsStorable) :
    Json.Carries ofJson? r.toJson r.shown := by
  have hid := Json.carries_ofInt h.id
  have hbase := r.base.carries
  have htarget := r.target.carries
  have hrate := r.rate.carries
  have hcreated := Instant.carries h.createdAt
  have hupdated := Instant.carries h.updatedAt
  refine Json.carries_ofFields fieldNames rfl (by decide)
    (by simp [hid.isSpelled, hbase.isSpelled, htarget.isSpelled, hrate.isSpelled,
      hcreated.isSpelled, hupdated.isSpelled]) fun j hj => ?_
  unfold ofJson?
  rw [hj]
  simp only [List.map_cons, List.map_nil, Option.bind_eq_bind, Option.bind_some, Json.required?,
    hid.read_settled, hbase.read_settled, htarget.read_settled, hrate.read_settled,
    hcreated.read_settled, hupdated.read_settled]
  rfl

/-- Whether the amounts of a conversion fit a row. -/
structure Conversion.IsStorable (c : Conversion) : Prop where
  sourceAmount : IsStored c.sourceAmount
  convertedAmount : IsStored c.convertedAmount

/-- The conversion as it is read. -/
def Conversion.shown (c : Conversion) : Conversion := { c with rate := c.rate.shown }

/-- A conversion: two amounts and the rate between them. -/
theorem Conversion.carries {c : Conversion} (h : c.IsStorable) :
    Json.Carries ofJson? c.toJson c.shown := by
  have hsource := Json.carries_ofInt h.sourceAmount
  have hconverted := Json.carries_ofInt h.convertedAmount
  have hrate := c.rate.carries
  refine Json.carries_ofFields ["source_amount", "converted_amount", "rate"] rfl (by decide)
    (by simp [hsource.isSpelled, hconverted.isSpelled, hrate.isSpelled]) fun j hj => ?_
  unfold ofJson?
  rw [hj]
  simp only [List.map_cons, List.map_nil, Option.bind_eq_bind, Option.bind_some, Json.required?,
    hsource.read_settled, hconverted.read_settled, hrate.read_settled]
  rfl

/-- Whether the instants in claims are those of a clock. -/
structure Claims.IsStorable (c : Claims) : Prop where
  issuedAt : c.issuedAt.IsRegular
  expiresAt : c.expiresAt.IsRegular

/-- The claims of a token, whose times both have to be ones that a clock shows. -/
theorem Claims.carries {c : Claims} (h : c.IsStorable) : Json.Carries ofJson? c.toJson c := by
  refine ⟨c.isSpelled_toJson, ?_⟩
  rw [c.ofJson?_settled, shown_of_isRegular h.issuedAt h.expiresAt]

/-! ## What is shown -/

/-- A transfer is shown as it is if its rate, where it has one, is not negative. Then no sign of a
zero can be lost. -/
theorem Transfer.shown_of_not_isNegative {t : Transfer}
    (h : ∀ d ∈ t.exchangeRate, d.isNegative = false) : t.shown = t := by
  have hrate : t.exchangeRate.map Decimal.shown = t.exchangeRate := by
    rcases hrate : t.exchangeRate with _ | d
    · rfl
    · exact congrArg some (Decimal.shown_of_not_isNegative (h d hrate))
  unfold shown
  rw [hrate]

/-! ## All documents -/

/-- What is written is read as it was. -/
structure WrittenIsRead : Prop where
  /-- Currencies are read back, and so are pairs of two of them -/
  currency : ∀ c : Currency, Json.fromText? Currency.ofJson? c.toJson.render = some c
  pair : ∀ p : CurrencyPair, Json.fromText? CurrencyPair.ofJson? p.toJson.render = some p
  /-- and pages that were accepted, -/
  page : ∀ number size p, Page.new number size = .ok p →
    Json.fromText? Page.ofJson? p.toJson.render = some p
  /-- requests, orders, clients, -/
  request : ∀ r : StatementRequest, r.IsStorable →
    Json.fromText? StatementRequest.ofJson? r.toJson.render = some r
  order : ∀ r : TransferOrder, r.IsStorable →
    Json.fromText? TransferOrder.ofJson? r.toJson.render = some r
  client : ∀ c : Client, Json.fromText? Client.ofJson? c.toJson.render = some c
  /-- accounts, entries and claims. -/
  account : ∀ a : Account, a.IsStorable →
    Json.fromText? Account.ofJson? a.toJson.render = some a
  entry : ∀ e : Entry, e.IsStorable → Json.fromText? Entry.ofJson? e.toJson.render = some e
  claims : ∀ c : Claims, c.IsStorable → Json.fromText? Claims.ofJson? c.toJson.render = some c
  /-- What has a decimal in it is read as it is shown: -/
  transfer : ∀ t : Transfer, t.IsStorable →
    Json.fromText? Transfer.ofJson? t.toJson.render = some t.shown
  receipt : ∀ r : TransferReceipt, r.IsStorable →
    Json.fromText? TransferReceipt.ofJson? r.toJson.render = some r.shown
  line : ∀ l : StatementLine, l.IsStorable →
    Json.fromText? StatementLine.ofJson? l.toJson.render = some l.shown
  rate : ∀ r : ExchangeRate, r.IsStorable →
    Json.fromText? ExchangeRate.ofJson? r.toJson.render = some r.shown
  conversion : ∀ c : Conversion, c.IsStorable →
    Json.fromText? Conversion.ofJson? c.toJson.render = some c.shown
  /-- with the same number and the same digits behind the point, -/
  decimal : ∀ d : Decimal, d.shown.coefficient = d.coefficient ∧ d.shown.scale = d.scale
  /-- and, unless a decimal has a sign, altogether as it was. -/
  transfer_shown : ∀ t : Transfer, (∀ d ∈ t.exchangeRate, d.isNegative = false) → t.shown = t
  receipt_shown : ∀ r : TransferReceipt,
    (∀ d ∈ r.transfer.exchangeRate, d.isNegative = false) → r.shown = r
  line_shown : ∀ l : StatementLine,
    (∀ d ∈ l.transfer.exchangeRate, d.isNegative = false) → l.shown = l
  rate_shown : ∀ r : ExchangeRate, r.rate.isNegative = false → r.shown = r
  conversion_shown : ∀ c : Conversion, c.rate.isNegative = false → c.shown = c

/-- What is written is read back, type by type. All work is done by `carries`; what is left here is
that reading the text is reading the document (`Carries.fromText?_render`), and that a value without
a negative decimal is what is shown of it. -/
theorem writtenIsRead : WrittenIsRead where
  currency c := c.carries.fromText?_render
  pair p := p.carries.fromText?_render
  page number size p h := by
    obtain ⟨rfl, -⟩ := Page.new_eq_ok_iff.mp h
    have haccepted : Page.IsAccepted ⟨number, size⟩ := h
    exact (Page.carries haccepted).fromText?_render
  request _ h := (StatementRequest.carries h).fromText?_render
  order _ h := (TransferOrder.carries h).fromText?_render
  client c := c.carries.fromText?_render
  account _ h := (Account.carries h).fromText?_render
  entry _ h := (Entry.carries h).fromText?_render
  claims _ h := (Claims.carries h).fromText?_render
  transfer _ h := (Transfer.carries h).fromText?_render
  receipt _ h := (TransferReceipt.carries h).fromText?_render
  line _ h := (StatementLine.carries h).fromText?_render
  rate _ h := (ExchangeRate.carries h).fromText?_render
  conversion _ h := (Conversion.carries h).fromText?_render
  decimal d := ⟨d.coefficient_shown, rfl⟩
  transfer_shown _ h := Transfer.shown_of_not_isNegative h
  receipt_shown r h := by
    rw [TransferReceipt.shown, Transfer.shown_of_not_isNegative h]
  line_shown l h := by
    rw [StatementLine.shown, Transfer.shown_of_not_isNegative h]
  rate_shown r h := by
    rw [ExchangeRate.shown, Decimal.shown_of_not_isNegative h]
  conversion_shown c h := by
    rw [Conversion.shown, Decimal.shown_of_not_isNegative h]

end CountingHouse
