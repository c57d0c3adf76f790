/-
Documents that others have written.

A reader takes a record in many spellings: its members in any order and among others, or the
values alone. Whatever the spelling, a currency or a page in it is read from a field of the record,
by the reader that reads one alone. So no currency and no page gets past that reader, and those
that it lets through are sound: they are read again when they are written.
-/
import CountingHouse.Proofs.Bank.Documents

set_option autoImplicit false

namespace CountingHouse

variable {j : Json}

/-- Whether a record has a field that is read as a value. -/
def Json.HasField {α : Type} (j : Json) (names : List String) (name : String)
    (read : Json → Option α) (a : α) : Prop :=
  ∃ values value, j.record? names 0 = some values
    ∧ (names.zip values).lookup name = some (some value) ∧ read value = some a

/-! ## Currencies -/

namespace Currency

/-- A document is read as a currency if it is a text that names it. -/
theorem ofJson?_eq_some_iff {c : Currency} :
    ofJson? j = some c ↔ ∃ word, j.text? = some word ∧ Names word c := by
  unfold ofJson?
  simp only [Option.bind_eq_bind, Option.bind_eq_some_iff, ← parse_eq_ok_iff]
  refine exists_congr fun word => and_congr_right fun _ => ?_
  rcases parse word with _ | d <;> simp [Except.toOption]

/-- Whether a currency has one of the four codes, and its document is read as itself. -/
structure IsSupported (c : Currency) : Prop where
  code : c.code ∈ ["USD", "EUR", "KES", "GBP"]
  document : Json.fromText? ofJson? c.toJson.render = some c

/-- Every currency is supported: its code has three capitals, is read as the currency, and is what
its document holds. Four cases, each by evaluation. -/
theorem isSupported (c : Currency) : c.IsSupported :=
  ⟨exists_code_eq_iff.mp ⟨c, rfl⟩, c.carries.fromText?_render⟩

end Currency

/-- A pair that was accepted has the sides that it was made of, unchanged and unswapped. -/
theorem CurrencyPair.eq_of_new {base target : Currency} {p : CurrencyPair}
    (h : (new base target).toOption = some p) : p.base = base ∧ p.target = target := by
  unfold new at h
  split at h
  · cases h
  · cases h
    exact ⟨rfl, rfl⟩

/-- A document accepted as a pair has both of its currencies in fields of their names. -/
theorem CurrencyPair.fields_of_ofJson? {p : CurrencyPair} (h : ofJson? j = some p) :
    j.HasField ["base", "target"] "base" Currency.ofJson? p.base
      ∧ j.HasField ["base", "target"] "target" Currency.ofJson? p.target := by
  unfold ofJson? at h
  obtain ⟨values, hvalues, h⟩ := Option.bind_eq_some_iff.mp h
  split at h
  · simp only [Option.bind_eq_bind, Option.bind_eq_some_iff, Json.required?] at h
    obtain ⟨c, ⟨base, rfl, hbase⟩, d, ⟨target, rfl, htarget⟩, hnew⟩ := h
    obtain ⟨rfl, rfl⟩ := eq_of_new hnew
    exact ⟨⟨_, base, hvalues, rfl, hbase⟩, ⟨_, target, hvalues, rfl, htarget⟩⟩
  · cases h

/-- The currency of an accepted order stands in its document, and was read like a currency alone. -/
theorem TransferOrder.currency_of_ofJson? {r : TransferOrder} (h : ofJson? j = some r) :
    j.HasField fieldNames "currency" Currency.ofJson? r.currency := by
  unfold ofJson? at h
  obtain ⟨values, hvalues, h⟩ := Option.bind_eq_some_iff.mp h
  split at h
  · simp only [Option.bind_eq_bind, Option.bind_eq_some_iff, Json.required?] at h
    obtain ⟨_, -, _, -, _, -, c, ⟨value, rfl, hcurrency⟩, _, -, hr⟩ := h
    cases hr
    exact ⟨_, value, hvalues, rfl, hcurrency⟩
  · cases h

/-- The same for the currency of an account. -/
theorem Account.currency_of_ofJson? {a : Account} (h : ofJson? j = some a) :
    j.HasField fieldNames "currency" Currency.ofJson? a.currency := by
  unfold ofJson? at h
  obtain ⟨values, hvalues, h⟩ := Option.bind_eq_some_iff.mp h
  split at h
  · simp only [Option.bind_eq_bind, Option.bind_eq_some_iff, Json.required?] at h
    obtain ⟨_, -, _, -, _, -, c, ⟨value, rfl, hcurrency⟩, _, -, ha⟩ := h
    cases ha
    exact ⟨_, value, hvalues, rfl, hcurrency⟩
  · cases h

/-- The same for both currencies of a rate. They are read one by one and not as a pair, so nothing
is said here about their being different. -/
theorem ExchangeRate.currencies_of_ofJson? {r : ExchangeRate} (h : ofJson? j = some r) :
    j.HasField fieldNames "base_currency" Currency.ofJson? r.base
      ∧ j.HasField fieldNames "target_currency" Currency.ofJson? r.target := by
  unfold ofJson? at h
  obtain ⟨values, hvalues, h⟩ := Option.bind_eq_some_iff.mp h
  split at h
  · simp only [Option.bind_eq_bind, Option.bind_eq_some_iff, Json.required?] at h
    obtain ⟨_, -, c, ⟨base, rfl, hbase⟩, d, ⟨target, rfl, htarget⟩, _, -, _, -, _, -, hr⟩ := h
    cases hr
    exact ⟨⟨_, base, hvalues, rfl, hbase⟩, ⟨_, target, hvalues, rfl, htarget⟩⟩
  · cases h

/-- The accounts of a receipt are read as they would be alone. -/
theorem TransferReceipt.accounts_of_ofJson? {r : TransferReceipt} (h : ofJson? j = some r) :
    j.HasField fieldNames "from_account" Account.ofJson? r.sourceAccount
      ∧ j.HasField fieldNames "to_account" Account.ofJson? r.targetAccount := by
  unfold ofJson? at h
  obtain ⟨values, hvalues, h⟩ := Option.bind_eq_some_iff.mp h
  split at h
  · simp only [Option.bind_eq_bind, Option.bind_eq_some_iff, Json.required?] at h
    -- the accounts are the last of the five rows
    obtain ⟨_, -, _, -, _, -, a, ⟨source, rfl, hsource⟩, b, ⟨target, rfl, htarget⟩, hr⟩ := h
    cases hr
    exact ⟨⟨_, source, hvalues, rfl, hsource⟩, ⟨_, target, hvalues, rfl, htarget⟩⟩
  · cases h

/-! ## Pages -/

/-- A page that is read is one that is accepted. -/
theorem Page.isAccepted_of_ofJson? {p : Page} (h : ofJson? j = some p) : p.IsAccepted := by
  unfold ofJson? at h
  obtain ⟨values, -, h⟩ := Option.bind_eq_some_iff.mp h
  split at h
  · simp only [Option.bind_eq_bind, Option.bind_eq_some_iff] at h
    obtain ⟨number, -, size, -, hnew⟩ := h
    rcases hpage : new number size with _ | q
    · rw [hpage] at hnew
      cases hnew
    · rw [hpage] at hnew
      cases hnew
      obtain ⟨rfl, -⟩ := new_eq_ok_iff.mp hpage
      exact hpage
  · cases h

/-- The page of an accepted request was read like a page alone, so it has passed the same check. -/
theorem StatementRequest.page_of_ofJson? {r : StatementRequest} (h : ofJson? j = some r) :
    j.HasField fieldNames "page" Page.ofJson? r.page := by
  unfold ofJson? at h
  obtain ⟨values, hvalues, h⟩ := Option.bind_eq_some_iff.mp h
  split at h
  · simp only [Option.bind_eq_bind, Option.bind_eq_some_iff, Json.required?] at h
    obtain ⟨_, -, p, ⟨value, rfl, hpage⟩, _, -, _, -, hr⟩ := h
    cases hr
    exact ⟨_, value, hvalues, rfl, hpage⟩
  · cases h

/-- A field that is read as a page holds an accepted one. -/
theorem Json.HasField.isAccepted {names : List String} {name : String} {p : Page}
    (h : j.HasField names name Page.ofJson? p) : p.IsAccepted := by
  obtain ⟨values, value, -, -, hread⟩ := h
  exact Page.isAccepted_of_ofJson? hread

/-! ## All documents -/

/-- What is read from a document is sound. -/
structure ReadIsSound (j : Json) : Prop where
  /-- What is read as a currency is a text that names it, and the currency is supported. -/
  currency_iff : ∀ c, Currency.ofJson? j = some c
    ↔ ∃ word, j.text? = some word ∧ Currency.Names word c
  currency : ∀ c, Currency.ofJson? j = some c → c.IsSupported
  /-- A pair has two different currencies, and is read back. -/
  pair : ∀ p, CurrencyPair.ofJson? j = some p → p.base ≠ p.target
    ∧ j.HasField ["base", "target"] "base" Currency.ofJson? p.base ∧ p.base.IsSupported
    ∧ j.HasField ["base", "target"] "target" Currency.ofJson? p.target ∧ p.target.IsSupported
    ∧ Json.fromText? CurrencyPair.ofJson? p.toJson.render = some p
  /-- The currencies of orders, accounts, rates and receipts are read the same way. -/
  order : ∀ r, TransferOrder.ofJson? j = some r →
    j.HasField TransferOrder.fieldNames "currency" Currency.ofJson? r.currency
      ∧ r.currency.IsSupported
  account : ∀ a, Account.ofJson? j = some a →
    j.HasField Account.fieldNames "currency" Currency.ofJson? a.currency ∧ a.currency.IsSupported
  rate : ∀ r, ExchangeRate.ofJson? j = some r →
    j.HasField ExchangeRate.fieldNames "base_currency" Currency.ofJson? r.base
      ∧ r.base.IsSupported
      ∧ j.HasField ExchangeRate.fieldNames "target_currency" Currency.ofJson? r.target
      ∧ r.target.IsSupported
  receipt : ∀ r, TransferReceipt.ofJson? j = some r →
    j.HasField TransferReceipt.fieldNames "from_account" Account.ofJson? r.sourceAccount
      ∧ r.sourceAccount.currency.IsSupported
      ∧ j.HasField TransferReceipt.fieldNames "to_account" Account.ofJson? r.targetAccount
      ∧ r.targetAccount.currency.IsSupported
  /-- A page is one that is accepted, and is read back, -/
  page : ∀ p, Page.ofJson? j = some p →
    Page.new p.number p.size = .ok p ∧ Json.fromText? Page.ofJson? p.toJson.render = some p
  /-- and so is the page of a request. -/
  request : ∀ r, StatementRequest.ofJson? j = some r →
    j.HasField StatementRequest.fieldNames "page" Page.ofJson? r.page
      ∧ Page.new r.page.number r.page.size = .ok r.page
      ∧ Json.fromText? Page.ofJson? r.page.toJson.render = some r.page

/-- Whatever is read from a document was read soundly. Each clause takes the reader of its record
apart down to the field, and leaves the field to the reader of its type. -/
theorem readIsSound (j : Json) : ReadIsSound j where
  currency_iff _ := Currency.ofJson?_eq_some_iff
  currency c _ := c.isSupported
  pair p h := by
    obtain ⟨hbase, htarget⟩ := CurrencyPair.fields_of_ofJson? h
    exact ⟨p.base_ne_target, hbase, p.base.isSupported, htarget, p.target.isSupported,
      p.carries.fromText?_render⟩
  order r h := ⟨TransferOrder.currency_of_ofJson? h, r.currency.isSupported⟩
  account a h := ⟨Account.currency_of_ofJson? h, a.currency.isSupported⟩
  rate r h := by
    obtain ⟨hbase, htarget⟩ := ExchangeRate.currencies_of_ofJson? h
    exact ⟨hbase, r.base.isSupported, htarget, r.target.isSupported⟩
  receipt r h := by
    obtain ⟨hsource, htarget⟩ := TransferReceipt.accounts_of_ofJson? h
    exact ⟨hsource, r.sourceAccount.currency.isSupported, htarget,
      r.targetAccount.currency.isSupported⟩
  page p h := by
    have haccepted := Page.isAccepted_of_ofJson? h
    exact ⟨haccepted, (Page.carries haccepted).fromText?_render⟩
  request r h := by
    have hfield := StatementRequest.page_of_ofJson? h
    exact ⟨hfield, hfield.isAccepted, (Page.carries hfield.isAccepted).fromText?_render⟩

/-- The documents of the bank are read as they are written, and what is read is sound, whoever has
written it. -/
theorem documents_readBack :
    WrittenIsRead ∧ ∀ text j, Json.parse? text = some j → ReadIsSound j :=
  ⟨writtenIsRead, fun _ j _ => readIsSound j⟩

end CountingHouse
