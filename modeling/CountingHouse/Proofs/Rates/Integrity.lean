/-
Rates at the counter, through any history.

A history is a list of calls of the rate desk, each at a reading of the clock, by anybody and
with anything in it. Whatever was called on a table that was empty at first, the table and what
the desk says about it have the properties of `Integrity`. In particular a rate is read as it was
last written for just that direction, and whoever is not the administrator writes nothing.

What a call does to the table is one of the cases of `RateTable.Writes` (`writes_attend`), so a
history keeps whatever each of them keeps.
-/
import CountingHouse.Proofs.Bank.Requests
import CountingHouse.Proofs.Decimal.Rounding
import CountingHouse.Proofs.Rates.Rows
import CountingHouse.Proofs.Session.Visits

set_option autoImplicit false

namespace CountingHouse

/-! ## Calls -/

/-- A call of the rate desk. -/
inductive RateCall where
  | create (caller base target : String) (rate : Decimal)
  | update (caller : String) (id : RateId) (rate : Decimal)
  | rate (base target : String)
  | list

/-- Who wants to write, in a call that writes. -/
def RateCall.writer? : RateCall → Option String
  | .create caller _ _ _ => some caller
  | .update caller _ _ => some caller
  | .rate _ _ | .list => none

/-- A call and the time at which it is made. -/
structure RateVisit where
  now : Instant
  call : RateCall

namespace RateDesk

open Operation

/-- What a call is answered with. -/
def answer (administrator : String) (s : Stores) : RateCall → Except BankError (List ExchangeRate)
  | .create caller base target rate =>
    (create .memory administrator caller base target rate s).1.map ([·])
  | .update caller id rate => (update .memory administrator caller id rate s).1.map ([·])
  | .rate base target => (RateDesk.rate .memory base target s).1.map ([·])
  | .list => (list .memory s).1

/-- The stores after a call, whatever the answer is. -/
def attend (administrator : String) (s : Stores) : RateCall → Stores
  | .create caller base target rate =>
    (create .memory administrator caller base target rate s).2
  | .update caller id rate => (update .memory administrator caller id rate s).2
  | .rate base target => (RateDesk.rate .memory base target s).2
  | .list => (list .memory s).2

/-- The rows that a call is answered with for having written them. -/
def written (administrator : String) (s : Stores) (call : RateCall) : List ExchangeRate :=
  match call.writer?, answer administrator s call with
  | some _, .ok rows => rows
  | _, _ => []

def receive (administrator : String) (s : Stores) (v : RateVisit) : Stores :=
  attend administrator (s.atTime v.now) v.call

/-- The stores after a history, the first visit of the list first. -/
def run (administrator : String) (s : Stores) (visits : List RateVisit) : Stores :=
  visits.foldl (receive administrator) s

/-- The rows that are written in a history, the first one first. -/
def log (administrator : String) : Stores → List RateVisit → List ExchangeRate
  | _, [] => []
  | s, v :: visits =>
    written administrator (s.atTime v.now) v.call
      ++ log administrator (receive administrator s v) visits

variable {administrator caller base target : String} {s : Stores} {pair : CurrencyPair}
variable {rate : Decimal} {id : RateId} {row : ExchangeRate} {e : BankError}

/-! ## What each call comes to -/

/-- Only the administrator creates a rate; a stranger changes nothing. -/
theorem create_of_stranger (h : caller ≠ administrator) (base target : String) (rate : Decimal)
    (s : Stores) : create .memory administrator caller base target rate s
      = (.error (.unauthorized .notAdministrator), s) := by
  unfold create
  rw [requireAdministrator_eq, if_neg h, of_error_bind]

/-- Only the administrator updates a rate; a stranger changes nothing. -/
theorem update_of_stranger (h : caller ≠ administrator) (id : RateId) (rate : Decimal)
    (s : Stores) : update .memory administrator caller id rate s
      = (.error (.unauthorized .notAdministrator), s) := by
  unfold update
  rw [requireAdministrator_eq, if_neg h, of_error_bind]

/-- A new rate is stamped with the clock of the stores, and only the table of rates is touched. -/
theorem createRate_run (pair : CurrencyPair) (rate : Decimal) (s : Stores) :
    Backend.memory.createRate pair rate s
      = ((s.rates.create pair rate s.clock).1,
        { s with rates := (s.rates.create pair rate s.clock).2 }) := rfl

/-- An updated rate is stamped with the clock of the stores, and only the table of rates is
touched. -/
theorem updateRate_run (id : RateId) (rate : Decimal) (s : Stores) :
    Backend.memory.updateRate id rate s
      = ((s.rates.update id rate s.clock).1,
        { s with rates := (s.rates.update id rate s.clock).2 }) := rfl

/-- The administrator adds the first rate of a pair. -/
theorem create_of_parse (administrator : String)
    (hparse : CurrencyPair.parse base target = .ok pair)
    (hrate : rate.isPositive = true) (hnone : s.rates.current? pair = none) :
    create .memory administrator administrator base target rate s
      = (.ok (s.rates.firstRow pair rate s.clock),
        { s with rates := s.rates.enter pair (s.rates.firstRow pair rate s.clock) }) := by
  unfold create
  rw [requireAdministrator_eq, if_pos rfl, of_ok_bind, hparse, of_ok_bind,
    positiveRate_of_isPositive hrate, of_ok_bind, createRate_run,
    RateTable.create_of_none s.clock hrate hnone]
  rfl

/-- Otherwise nothing is done. -/
theorem create_run_cases (administrator caller base target : String) (rate : Decimal) (s : Stores) :
    (∃ e, create .memory administrator caller base target rate s = (.error e, s)) ∨
    (caller = administrator ∧ ∃ pair, CurrencyPair.parse base target = .ok pair ∧
      rate.isPositive = true ∧ s.rates.current? pair = none) := by
  by_cases hcaller : caller = administrator
  · unfold create
    rw [requireAdministrator_eq, if_pos hcaller, of_ok_bind]
    rcases hparse : CurrencyPair.parse base target with e | pair
    · exact .inl ⟨e, of_error_bind e _ s⟩
    · rw [of_ok_bind]
      rcases positiveRate_cases rate with ⟨e, hrate⟩ | ⟨hpositive, hrate⟩
      · rw [hrate]
        exact .inl ⟨e, of_error_bind e _ s⟩
      · rw [hrate, of_ok_bind, createRate_run]
        rcases s.rates.create_cases pair rate s.clock with ⟨e, hcreate⟩ | ⟨-, hnone, -⟩
        · rw [hcreate]
          exact .inl ⟨e, rfl⟩
        · exact .inr ⟨hcaller, pair, rfl, hpositive, hnone⟩
  · exact .inl ⟨_, create_of_stranger hcaller base target rate s⟩

/-- The administrator puts another rate into the row of a number. -/
theorem update_of_find? (administrator : String) {entry : CurrencyPair × ExchangeRate}
    (hrate : rate.isPositive = true)
    (hfind : s.rates.rows.find? (fun entry => entry.2.id == id) = some entry) :
    update .memory administrator administrator id rate s
      = (.ok { entry.2 with rate, updatedAt := s.clock }, { s with
          rates := s.rates.replace id { entry.2 with rate, updatedAt := s.clock } }) := by
  unfold update
  rw [requireAdministrator_eq, if_pos rfl, of_ok_bind, positiveRate_of_isPositive hrate, of_ok_bind,
    updateRate_run, RateTable.update_of_find? s.clock hrate hfind]

/-- Otherwise nothing is done. -/
theorem update_run_cases (administrator caller : String) (id : RateId) (rate : Decimal)
    (s : Stores) :
    (∃ e, update .memory administrator caller id rate s = (.error e, s)) ∨
    (caller = administrator ∧ rate.isPositive = true ∧
      ∃ entry, s.rates.rows.find? (fun entry => entry.2.id == id) = some entry) := by
  by_cases hcaller : caller = administrator
  · unfold update
    rw [requireAdministrator_eq, if_pos hcaller, of_ok_bind]
    rcases positiveRate_cases rate with ⟨e, hrate⟩ | ⟨hpositive, hrate⟩
    · rw [hrate]
      exact .inl ⟨e, of_error_bind e _ s⟩
    · rw [hrate, of_ok_bind, updateRate_run]
      rcases s.rates.update_cases id rate s.clock with ⟨e, hupdate⟩ | ⟨-, entry, hfind, -⟩
      · rw [hupdate]
        exact .inl ⟨e, rfl⟩
      · exact .inr ⟨hcaller, hpositive, entry, hfind⟩
  · exact .inl ⟨_, update_of_stranger hcaller id rate s⟩

/-- A rate is read off the row of its own pair. -/
theorem rate_of_parse (hparse : CurrencyPair.parse base target = .ok pair) (s : Stores) :
    RateDesk.rate .memory base target s
      = ((s.rates.current? pair).elim (.error (.rateNotFound pair.base pair.target)) .ok, s) := by
  have hcall : Backend.memory.rate? pair s = (.ok (s.rates.current? pair), s) := rfl
  unfold RateDesk.rate
  rw [hparse, of_ok_bind, bind_of_ok hcall]
  rcases s.rates.current? pair with _ | row
  · rfl
  · rfl

/-! ## One call -/

/-- A call that is answered with an error has done nothing. -/
theorem attend_of_error {call : RateCall} (h : answer administrator s call = .error e) :
    attend administrator s call = s := by
  cases call with
  | create caller base target rate =>
    rcases create_run_cases administrator caller base target rate s with
      ⟨e, hrun⟩ | ⟨rfl, pair, hparse, hpositive, hnone⟩
    · exact congrArg Prod.snd hrun
    · rw [answer, create_of_parse caller hparse hpositive hnone] at h
      cases h
  | update caller id rate =>
    rcases update_run_cases administrator caller id rate s with
      ⟨e, hrun⟩ | ⟨rfl, hpositive, entry, hfind⟩
    · exact congrArg Prod.snd hrun
    · rw [answer, update_of_find? caller hpositive hfind] at h
      cases h
  | rate base target => exact reads_rate base target s
  | list => rfl

/-- A call of anybody else than the administrator's is refused. -/
theorem answer_of_stranger {call : RateCall} (hcaller : call.writer? = some caller)
    (hne : caller ≠ administrator) :
    answer administrator s call = .error (.unauthorized .notAdministrator) := by
  cases call with
  | create caller' base target rate =>
    cases hcaller
    rw [answer, create_of_stranger hne]
    rfl
  | update caller' id rate =>
    cases hcaller
    rw [answer, update_of_stranger hne]
    rfl
  | rate base target => cases hcaller
  | list => cases hcaller

/-- A call that only asks for rates leaves the stores as they are. -/
theorem attend_of_reader {call : RateCall} (h : call.writer? = none) :
    attend administrator s call = s := by
  cases call with
  | create caller base target rate => cases h
  | update caller id rate => cases h
  | rate base target => exact reads_rate base target s
  | list => rfl

/-- Every call does to the table what a single write can do, and answers for exactly the row that it
has written. -/
theorem writes_attend (hsound : s.rates.Sound) (administrator : String) (call : RateCall) :
    s.rates.Writes (attend administrator s call).rates (written administrator s call) := by
  cases call with
  | create caller base target rate =>
    rcases create_run_cases administrator caller base target rate s with
      ⟨e, hrun⟩ | ⟨rfl, pair, hparse, hpositive, hnone⟩
    · rw [attend, written, answer, hrun]
      exact .nothing rfl
    · rw [attend, written, answer, create_of_parse caller hparse hpositive hnone]
      exact .enters pair rate s.clock hpositive hnone rfl
  | update caller id rate =>
    rcases update_run_cases administrator caller id rate s with
      ⟨e, hrun⟩ | ⟨rfl, hpositive, entry, hfind⟩
    · rw [attend, written, answer, hrun]
      exact .nothing rfl
    · -- only a sound table is known to have no second row of that number
      obtain ⟨before, after, hrows, -, -, hreplace⟩ := hsound.exists_middle hfind
      rw [attend, written, answer, update_of_find? caller hpositive hfind]
      exact .replaces before entry.1 entry.2 after rate s.clock hpositive hrows (hreplace _)
  | rate base target =>
    have hreader : (RateCall.rate base target).writer? = none := rfl
    rw [attend_of_reader hreader]
    exact .nothing rfl
  | list => exact .nothing rfl

/-! ## Histories -/

/-- A table stays sound over every history. -/
theorem sound_run (administrator : String) {s : Stores} (hsound : s.rates.Sound)
    (visits : List RateVisit) : (run administrator s visits).rates.Sound := by
  induction visits generalizing s with
  | nil => exact hsound
  | cons v visits ih =>
    have hwrites := writes_attend (s := s.atTime v.now) hsound administrator v.call
    exact ih (hsound.writes hwrites)

/-- Over every history the table holds for each pair what was written for it last. -/
theorem tracks_run (administrator : String) {s : Stores} (hsound : s.rates.Sound)
    {rows : List ExchangeRate} (htracks : s.rates.Tracks rows) (visits : List RateVisit) :
    (run administrator s visits).rates.Tracks (rows ++ log administrator s visits) := by
  -- `rows` are those that were written before the history
  induction visits generalizing s rows with
  | nil =>
    rw [log, List.append_nil]
    exact htracks
  | cons v visits ih =>
    have hwrites := writes_attend (s := s.atTime v.now) hsound administrator v.call
    have hrest := ih (hsound.writes hwrites) (htracks.writes hsound hwrites)
    rw [List.append_assoc] at hrest
    exact hrest

/-! ## Integrity -/

/-- What holds of the rates on file, and of what the desk says about them, after rows have been
written. -/
structure Integrity (administrator : String) (s : Stores) (log : List ExchangeRate) : Prop where
  /-- There is at most one row for each pair. -/
  pairs : (s.rates.rows.map Prod.fst).Nodup
  /-- No two rows have the same number. -/
  ids : (s.rates.rows.map fun entry => entry.2.id).Nodup
  numbers : ∀ entry ∈ s.rates.rows, 1 ≤ entry.2.id.number ∧ entry.2.id.number ≤ 12
  /-- A row is filed under its own pair, of two different currencies, and its rate is above
  zero. -/
  filed : ∀ entry ∈ s.rates.rows, entry.2.IsFor entry.1 ∧ entry.2.base ≠ entry.2.target
    ∧ 0 < entry.2.rate.value
  /-- The row that is read is the one that was last written for just that pair. -/
  read : ∀ base target pair row, CurrencyPair.parse base target = .ok pair →
    RateTable.lastFor pair log = some row → (RateDesk.rate .memory base target s).1 = .ok row
  missing : ∀ base target pair, CurrencyPair.parse base target = .ok pair →
    RateTable.lastFor pair log = none →
      (RateDesk.rate .memory base target s).1 = .error (.rateNotFound pair.base pair.target)
  unreadable : ∀ base target e, CurrencyPair.parse base target = .error e →
    (RateDesk.rate .memory base target s).1 = .error e
  /-- Every row is listed once, in the order of the numbers. -/
  listed : ∃ rows, (list .memory s).1 = .ok rows ∧ rows.Perm (s.rates.rows.map Prod.snd)
    ∧ rows.Pairwise fun a b => a.id.number < b.id.number
  /-- The administrator creates the first row of a pair, with any rate above zero. -/
  creates : ∀ base target pair rate, CurrencyPair.parse base target = .ok pair →
    RateTable.lastFor pair log = none → 0 < rate.value →
    ∃ row, (create .memory administrator administrator base target rate s).1 = .ok row
  /-- A row is created as it was asked for, for a pair that had none. -/
  created : ∀ caller base target rate row,
    (create .memory administrator caller base target rate s).1 = .ok row →
    ∃ pair, CurrencyPair.parse base target = .ok pair ∧ RateTable.lastFor pair log = none
      ∧ row.IsFor pair ∧ row.rate = rate
      ∧ (create .memory administrator caller base target rate s).2
        = { s with rates := s.rates.enter pair row }
  /-- The administrator updates any row, to any rate above zero. -/
  updates : ∀ entry ∈ s.rates.rows, ∀ rate : Decimal, 0 < rate.value →
    ∃ row, (update .memory administrator administrator entry.2.id rate s).1 = .ok row
  /-- An update changes the rate and the date of one row, the one with the number. -/
  updated : ∀ caller id rate row, (update .memory administrator caller id rate s).1 = .ok row →
    ∃ before pair old after, s.rates.rows = before ++ (pair, old) :: after ∧ old.id = id
      ∧ (∀ other ∈ before ++ after, other.2.id ≠ id)
      ∧ row = { old with rate, updatedAt := s.clock }
      ∧ (update .memory administrator caller id rate s).2
        = { s with rates := { s.rates with rows := before ++ (pair, row) :: after } }
  /-- Nothing is changed by a call that fails. -/
  failed : ∀ call e, answer administrator s call = .error e → attend administrator s call = s
  /-- Whoever else wants to write is refused. -/
  strangers : ∀ call caller, call.writer? = some caller → caller ≠ administrator →
    answer administrator s call = .error (.unauthorized .notAdministrator)
      ∧ attend administrator s call = s
  /-- Nothing is changed by reading. -/
  readers : ∀ call, call.writer? = none → attend administrator s call = s

/-- Of a sound table that goes with its log, every clause holds: what is asked is read off the
table, and what is written is one row or none. -/
theorem integrity_of_sound (administrator : String) {log : List ExchangeRate}
    (hsound : s.rates.Sound) (htracks : s.rates.Tracks log) : Integrity administrator s log where
  pairs := hsound.pairs
  ids := hsound.ids
  numbers := by
    intro entry hentry
    -- a row takes one number and a pair one row, so no number exceeds the number of pairs
    obtain ⟨hfirst, hlast⟩ := hsound.numbers entry hentry
    have hlength := CurrencyPair.length_le_of_nodup hsound.pairs
    rw [List.length_map] at hlength
    rw [hsound.next] at hlast
    omega
  filed := by
    intro entry hentry
    have hfor := hsound.filed entry hentry
    refine ⟨hfor, ?_, (Decimal.isPositive_iff _).mp (hsound.positive entry hentry)⟩
    rw [hfor.1, hfor.2]
    exact entry.1.base_ne_target
  read := by
    intro base target pair row hparse hlast
    -- the table answers as the log does, and so every read is settled by the last write of the pair
    rw [rate_of_parse hparse, htracks, hlast]
    rfl
  missing := by
    intro base target pair hparse hnone
    rw [rate_of_parse hparse, htracks, hnone]
    rfl
  unreadable := by
    intro base target e hparse
    rw [RateDesk.rate, hparse, of_error_bind]
  listed := ⟨s.rates.list, rfl, hsound.list⟩
  creates := by
    intro base target pair rate hparse hnone hrate
    rw [create_of_parse administrator hparse ((Decimal.isPositive_iff rate).mpr hrate)
      ((htracks pair).trans hnone)]
    exact ⟨_, rfl⟩
  created := by
    intro caller base target rate row hanswer
    rcases create_run_cases administrator caller base target rate s with
      ⟨e, hrun⟩ | ⟨rfl, pair, hparse, hpositive, hnone⟩
    · rw [hrun] at hanswer
      cases hanswer
    · rw [create_of_parse caller hparse hpositive hnone] at hanswer ⊢
      cases hanswer
      exact ⟨pair, hparse, (htracks pair).symm.trans hnone, ⟨rfl, rfl⟩, rfl, rfl⟩
  updates := by
    intro entry hentry rate hrate
    have hfind := find?_key_of_mem (fun entry : CurrencyPair × ExchangeRate => entry.2.id)
      hsound.ids hentry
    rw [update_of_find? administrator ((Decimal.isPositive_iff rate).mpr hrate) hfind]
    exact ⟨_, rfl⟩
  updated := by
    intro caller id rate row hanswer
    rcases update_run_cases administrator caller id rate s with
      ⟨e, hrun⟩ | ⟨rfl, hpositive, entry, hfind⟩
    · rw [hrun] at hanswer
      cases hanswer
    · -- the one row with the identifier is replaced where it stands, and its neighbours stay
      obtain ⟨before, after, hrows, hid, hothers, hreplace⟩ := hsound.exists_middle hfind
      rw [update_of_find? caller hpositive hfind] at hanswer ⊢
      cases hanswer
      refine ⟨before, entry.1, entry.2, after, hrows, hid, hothers, rfl, ?_⟩
      rw [hreplace]
  failed := fun _ _ hfailed => attend_of_error hfailed
  strangers := fun _ _ hcaller hne =>
    have hrefused := answer_of_stranger hcaller hne
    ⟨hrefused, attend_of_error hrefused⟩
  readers := fun _ hreader => attend_of_reader hreader

/-- Whatever is called by whomever, beginning with an empty table, and at whatever time one looks
at it. -/
theorem integrity_run (administrator : String) (s : Stores) (visits : List RateVisit)
    (now : Instant) :
    Integrity administrator ((run administrator { s with rates := .empty } visits).atTime now)
      (log administrator { s with rates := .empty } visits) := by
  let fresh : Stores := { s with rates := .empty }
  have hsound := sound_run administrator (s := fresh) RateTable.sound_empty visits
  have htracks := tracks_run administrator (s := fresh) RateTable.sound_empty
    RateTable.tracks_empty visits
  exact integrity_of_sound administrator hsound htracks

/-- The inverse of a rate is not a rate. -/
example :
    let s := run "root" { clock := default } [⟨default, .create "root" "usd" "kes" .one⟩]
    (RateDesk.rate .memory "kes" "usd" s).1 = .error (.rateNotFound .kes .usd) := by
  cbv

end RateDesk

end CountingHouse
