/-
A range of dates selects whole days.

The last day of a range is included, so a range ends where the next day starts. An instant is at
or behind the start of a day if its own day is not before it (`Instant.midnight_le_iff`), to the
last nanosecond and inside a leap second, too; so the half-open interval of instants holds
exactly those whose day is in the range. And it does so by the calendar: the order of dates and
the day after one are those of years, months and days.

A request is refused for its dates in three cases only, one of which is that no date comes after
the last one. Ranges that meet without a gap select what one range over both of them selects.
-/
import CountingHouse.Ledger.Statement
import CountingHouse.Proofs.Calendar.Order

set_option autoImplicit false

namespace CountingHouse

namespace Instant

variable {t : Instant} {d e : Date}

/-- An instant is not before the start of a day if its day is not before that day. -/
theorem midnight_le_iff : midnight d ≤ t ↔ d ≤ t.date := by
  have hsecond := t.second_lt
  have hnano := t.nano_lt
  rw [le_iff_rank_le, Date.le_iff_day_le]
  unfold rank midnight
  dsimp only
  omega

/-- An instant is before the start of a day if its day is before that day. -/
theorem lt_midnight_iff : t < midnight d ↔ t.date < d := by
  have hsecond := t.second_lt
  have hnano := t.nano_lt
  rw [lt_iff_rank_lt, Date.lt_iff_day_lt]
  unfold rank midnight
  dsimp only
  omega

end Instant

namespace Date

variable {d e : Date}

/-- A date has no next one if it is the last of all. -/
theorem next?_eq_none_iff : d.next? = none ↔ ∀ e : Date, e ≤ d := by
  unfold next? ofDay?
  constructor
  · intro h e
    split at h
    · cases h
    · rename_i hout
      have hfirst := d.firstDay_le
      have hlast := e.le_lastDay
      rw [le_iff_day_le]
      omega
  · intro h
    have hlast : lastDay ≤ d.day := h ⟨lastDay, by decide, Int.le_refl _⟩
    rw [dif_neg (by omega)]

/-- Nothing is between a date and the next one. -/
theorem lt_iff_le_of_next? {next : Date} (h : d.next? = some next) : e < next ↔ e ≤ d := by
  have hday := day_of_next? h
  rw [lt_iff_day_lt, le_iff_day_le]
  omega

end Date

namespace StatementRequest

variable {r : StatementRequest} {f : TransferSelection} {first last next : Date}

/-! ## What a request is answered with -/

/-- What can be wrong with the dates of a request: there is only one of them, they are the wrong
way round, or there is no day after the last one. -/
def Misdated (r : StatementRequest) : Prop :=
  r.startDate.isSome ≠ r.endDate.isSome
    ∨ ∃ first last, r.startDate = some first ∧ r.endDate = some last
      ∧ (last.civil < first.civil ∨ ∀ d : Date, d.civil ≤ last.civil)

/-- The selection of a request between two instants. -/
def between (r : StatementRequest) (since before : Option Instant) : TransferSelection :=
  ⟨r.account, since, before, r.page.limit, r.page.offset⟩

/-- Without dates every transfer of the account is in question. -/
theorem selection_of_none (hstart : r.startDate = none) (hend : r.endDate = none) :
    r.selection = .ok (r.between none none) := by
  unfold selection
  rw [hstart, hend]
  rfl

/-- Two dates the right way round select from the start of the first day to the start of the day
after the last. -/
theorem selection_of_some (hstart : r.startDate = some first) (hend : r.endDate = some last)
    (hle : first ≤ last) (hnext : last.next? = some next) :
    r.selection = .ok (r.between (some (.midnight first)) (some (.midnight next))) := by
  have hnot : ¬ last < first := Int.not_lt.mpr hle
  unfold selection
  rw [hstart, hend]
  dsimp only
  rw [if_neg hnot, hnext]
  rfl

/-- The three ways in which a request can be answered. -/
theorem selection_cases (r : StatementRequest) :
    (r.Misdated ∧ ∃ v, r.selection = .error (.validation v))
      ∨ (r.startDate = none ∧ r.endDate = none ∧ r.selection = .ok (r.between none none))
      ∨ ∃ first last next, r.startDate = some first ∧ r.endDate = some last ∧ first ≤ last
        ∧ last.next? = some next
        ∧ r.selection = .ok (r.between (some (.midnight first)) (some (.midnight next))) := by
  -- both dates or neither; with both, they are in order and the second has a next day
  rcases hstart : r.startDate with _ | first <;> rcases hend : r.endDate with _ | last
  · exact .inr (.inl ⟨rfl, rfl, selection_of_none hstart hend⟩)
  · refine .inl ⟨.inl ?_, .dateMissing, ?_⟩
    · simp [hstart, hend]
    · unfold selection
      rw [hstart, hend]
      rfl
  · refine .inl ⟨.inl ?_, .dateMissing, ?_⟩
    · simp [hstart, hend]
    · unfold selection
      rw [hstart, hend]
      rfl
  · by_cases hreversed : last < first
    · refine .inl ⟨.inr ⟨first, last, hstart, hend, .inl ?_⟩, .datesReversed, ?_⟩
      · exact Date.lt_iff_civil_lt.mp hreversed
      · unfold selection
        rw [hstart, hend]
        dsimp only
        rw [if_pos hreversed]
        rfl
    · rcases hnext : last.next? with _ | next
      · refine .inl ⟨.inr ⟨first, last, hstart, hend, .inr fun d => ?_⟩, .endDateOutOfRange, ?_⟩
        · exact Date.le_iff_civil_le.mp (Date.next?_eq_none_iff.mp hnext d)
        · unfold selection
          rw [hstart, hend]
          dsimp only
          rw [if_neg hreversed, hnext]
          rfl
      · have hle : first ≤ last := Int.not_lt.mp hreversed
        exact .inr (.inr ⟨first, last, next, rfl, rfl, hle, hnext,
          selection_of_some hstart hend hle hnext⟩)

/-- A selection is of the account and the page of its request. -/
theorem exists_between (h : r.selection = .ok f) : ∃ since before, f = r.between since before := by
  rcases r.selection_cases with ⟨-, v, hrefused⟩ | ⟨-, -, hok⟩ | ⟨_, _, _, -, -, -, -, hok⟩
  · rw [hrefused] at h
    cases h
  all_goals
    rw [hok] at h
    exact ⟨_, _, (Except.ok.inj h).symm⟩

/-- A request is refused exactly if something is wrong with its dates, and then as invalid. -/
theorem misdated_iff : r.Misdated ↔ ∃ v, r.selection = .error (.validation v) := by
  constructor
  · intro h
    rcases r.selection_cases with ⟨-, hrefused⟩ | ⟨hstart, hend, -⟩ |
      ⟨first, last, next, hstart, hend, hle, hnext, -⟩
    · exact hrefused
    · -- there is nothing wrong with no dates
      rcases h with hone | ⟨first, last, hfirst, -⟩
      · rw [hstart, hend] at hone
        exact absurd rfl hone
      · rw [hstart] at hfirst
        cases hfirst
    · rcases h with hone | ⟨first', last', hfirst, hlast, hwrong⟩
      · rw [hstart, hend] at hone
        exact absurd rfl hone
      · rw [hstart] at hfirst
        rw [hend] at hlast
        cases hfirst
        cases hlast
        rcases hwrong with hreversed | hfinal
        · exact absurd (Date.lt_iff_civil_lt.mpr hreversed) (Int.not_lt.mpr hle)
        · have hnone := Date.next?_eq_none_iff.mpr fun d => Date.le_iff_civil_le.mpr (hfinal d)
          rw [hnone] at hnext
          cases hnext
  · rintro ⟨v, hv⟩
    rcases r.selection_cases with ⟨hmisdated, -⟩ | ⟨-, -, hok⟩ | ⟨_, _, _, -, -, -, -, hok⟩
    · exact hmisdated
    all_goals
      rw [hok] at hv
      cases hv

/-! ## What is selected -/

/-- Whether a day is in the range of a request. Without dates every day is. -/
def Covers (r : StatementRequest) (d : Date) : Prop :=
  (r.startDate = none ∧ r.endDate = none)
    ∨ ∃ first last, r.startDate = some first ∧ r.endDate = some last
      ∧ first.civil ≤ d.civil ∧ d.civil ≤ last.civil

/-- A transfer is selected if it touches the account and was made on a day of the range. -/
theorem admits_iff {t : Transfer} (h : r.selection = .ok f) :
    f.admits t = true ↔ t.touches r.account = true ∧ r.Covers t.createdAt.date := by
  rcases r.selection_cases with ⟨-, v, hrefused⟩ | ⟨hstart, hend, hok⟩ |
    ⟨first, last, next, hstart, hend, -, hnext, hok⟩
  · rw [hrefused] at h
    cases h
  · obtain rfl := Except.ok.inj (hok.symm.trans h)
    have hcovers : r.Covers t.createdAt.date := .inl ⟨hstart, hend⟩
    simp only [TransferSelection.admits, between, Option.all_none, Bool.and_true, hcovers, and_true]
  · obtain rfl := Except.ok.inj (hok.symm.trans h)
    have hcovers : r.Covers t.createdAt.date
        ↔ first ≤ t.createdAt.date ∧ t.createdAt.date ≤ last := by
      simp only [Covers, hstart, hend, reduceCtorEq, false_and, false_or, Option.some.injEq,
        exists_and_left, exists_eq_left', Date.le_iff_civil_le]
    -- the range ends where the next day starts
    rw [hcovers, ← Date.lt_iff_le_of_next? hnext, ← Instant.midnight_le_iff,
      ← Instant.lt_midnight_iff]
    simp only [TransferSelection.admits, between, Option.all_some, Bool.and_eq_true,
      decide_eq_true_eq, and_assoc]

/-! ## Ranges -/

/-- The same request for another range. -/
def spanning (r : StatementRequest) (first last : Date) : StatementRequest :=
  { r with startDate := some first, endDate := some last }

@[simp]
theorem account_spanning (r : StatementRequest) (first last : Date) :
    (r.spanning first last).account = r.account := rfl

/-- A range covers the days from its first to its last, both included. -/
theorem covers_spanning {d : Date} : (r.spanning first last).Covers d ↔ first ≤ d ∧ d ≤ last := by
  simp only [Covers, spanning, reduceCtorEq, false_and, false_or, Option.some.injEq,
    exists_and_left, exists_eq_left', Date.le_iff_civil_le]

/-- A range the right way round, with a day behind its end, is a selection. -/
theorem selection_spanning (hle : first ≤ last) (hnext : last.next? = some next) :
    ∃ f, (r.spanning first last).selection = .ok f :=
  ⟨_, selection_of_some rfl rfl hle hnext⟩

/-- What the dates of a request select. -/
structure SelectsDays (r : StatementRequest) : Prop where
  /-- A request is refused if something is wrong with its dates. -/
  refused_iff : (∃ v, r.selection = .error (.validation v)) ↔ r.Misdated
  /-- Otherwise it is a selection. -/
  accepted : ¬ r.Misdated → ∃ f, r.selection = .ok f
  /-- Of the transfers that touch the account, those of the days of the range are selected,
  whatever the instant. -/
  admits_iff : ∀ f t, r.selection = .ok f → t.touches r.account = true →
    (f.admits t = true ↔ r.Covers t.createdAt.date)
  /-- A range may be cut in two behind any day of it but the last. It selects what either part
  selects, and no transfer is selected by both. If it ends with the last date of all, it is refused,
  and so is its second part. -/
  parts : ∀ first middle last : Date, first.civil ≤ middle.civil → middle.civil < last.civil →
    ∃ next : Date, next.civil = middle.civil.following
      ∧ ∃ f, (r.spanning first middle).selection = .ok f
        ∧ (((∀ d : Date, d.civil ≤ last.civil) ∧ (r.spanning next last).Misdated
            ∧ (r.spanning first last).Misdated)
          ∨ ∃ g h, (r.spanning next last).selection = .ok g
            ∧ (r.spanning first last).selection = .ok h
            ∧ ∀ t, ¬ (f.admits t = true ∧ g.admits t = true)
              ∧ (h.admits t = true ↔ f.admits t = true ∨ g.admits t = true))

/-- Two ranges without a gap between them. -/
theorem parts_of_next? {middle : Date} {g h : TransferSelection} (hfirst : first ≤ middle)
    (hlast : next ≤ last) (hnext : middle.next? = some next)
    (hf : (r.spanning first middle).selection = .ok f)
    (hg : (r.spanning next last).selection = .ok g)
    (hh : (r.spanning first last).selection = .ok h) (t : Transfer) :
    ¬ (f.admits t = true ∧ g.admits t = true)
      ∧ (h.admits t = true ↔ f.admits t = true ∨ g.admits t = true) := by
  have hday := Date.day_of_next? hnext
  rw [admits_iff hf, admits_iff hg, admits_iff hh, covers_spanning, covers_spanning,
    covers_spanning]
  -- over the numbers of the days, the second range begins one after the end of the first
  simp only [account_spanning, Date.le_iff_day_le] at hfirst hlast ⊢
  constructor
  · rintro ⟨⟨-, -, hbefore⟩, -, hafter, -⟩
    omega
  · constructor
    · rintro ⟨htouches, hstart, hend⟩
      rcases Int.lt_or_le middle.day t.createdAt.date.day with hafter | hbefore
      · exact .inr ⟨htouches, by omega, hend⟩
      · exact .inl ⟨htouches, hstart, hbefore⟩
    · rintro (⟨htouches, hstart, hbefore⟩ | ⟨htouches, hafter, hend⟩)
      · exact ⟨htouches, hstart, by omega⟩
      · exact ⟨htouches, by omega, hend⟩

/-- Every request selects whole days, by the calendar. -/
theorem selectsDays (r : StatementRequest) : r.SelectsDays where
  refused_iff := misdated_iff.symm
  accepted h := by
    rcases r.selection_cases with ⟨hmisdated, -⟩ | ⟨-, -, hok⟩ | ⟨_, _, _, -, -, -, -, hok⟩
    · exact absurd hmisdated h
    · exact ⟨_, hok⟩
    · exact ⟨_, hok⟩
  admits_iff f t h ht := by
    rw [admits_iff h, ht]
    simp only [true_and]
  parts first middle last hfirst hlast := by
    rw [← Date.le_iff_civil_le] at hfirst
    rw [← Date.lt_iff_civil_lt] at hlast
    -- a day follows, because there is a later one
    obtain ⟨next, hnext⟩ : ∃ next, middle.next? = some next := by
      rw [← Option.ne_none_iff_exists']
      intro hnone
      have hle := Date.next?_eq_none_iff.mp hnone last
      rw [Date.lt_iff_day_lt] at hlast
      rw [Date.le_iff_day_le] at hle
      omega
    obtain ⟨f, hf⟩ := selection_spanning (r := r) hfirst hnext
    -- the second part starts no later than it ends
    have hsecond : next ≤ last := by
      have hday := Date.day_of_next? hnext
      rw [Date.lt_iff_day_lt] at hlast
      rw [Date.le_iff_day_le]
      omega
    have hwhole : first ≤ last := by
      rw [Date.le_iff_day_le] at hfirst ⊢
      rw [Date.lt_iff_day_lt] at hlast
      omega
    refine ⟨next, Date.next?_eq_some_iff.mp hnext, f, hf, ?_⟩
    rcases hover : last.next? with _ | beyond
    · have hfinal : ∀ d : Date, d.civil ≤ last.civil := fun d =>
        Date.le_iff_civil_le.mp (Date.next?_eq_none_iff.mp hover d)
      exact .inl ⟨hfinal, .inr ⟨next, last, rfl, rfl, .inr hfinal⟩,
        .inr ⟨first, last, rfl, rfl, .inr hfinal⟩⟩
    · obtain ⟨g, hg⟩ := selection_spanning (r := r) hsecond hover
      obtain ⟨h, hh⟩ := selection_spanning (r := r) hwhole hover
      exact .inr ⟨g, h, hg, hh, parts_of_next? hfirst hsecond hnext hf hg hh⟩

end StatementRequest

end CountingHouse
