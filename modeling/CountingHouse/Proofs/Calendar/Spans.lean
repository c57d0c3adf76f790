/-
What a span later means.

Outside leap seconds an instant is the nanoseconds since day zero and nothing else, so adding a
span and taking the difference undo each other. From an instant inside a leap second a short
span may end inside the same one, and every other span ends outside all of them; so what comes
of a regular instant is regular. A span that is not negative leads to a later instant, and if
that one has a date, so have all before it (`exists_add?_of_le`).
-/
import CountingHouse.Proofs.Calendar.Spelling

set_option autoImplicit false

namespace CountingHouse.Instant

variable {t u : Instant} {s : Span} {n m : Int}

/-! ## The order -/

/-- The order of instants is that of the integers that rank them, and total like it. -/
theorem not_lt : ¬ t < u ↔ u ≤ t := Int.not_lt

theorem not_le : ¬ t ≤ u ↔ u < t := Int.not_le

/-- It is transitive for the same reason. -/
theorem le_trans {v : Instant} (htu : t ≤ u) (huv : u ≤ v) : t ≤ v := Int.le_trans htu huv

/-! ## Adding a span -/

/-- The date of a number of nanoseconds is the whole days in it, rounded down before the start of
the count. -/
theorem day_of_ofNanos? (h : ofNanos? n = some t) : t.date.day = n / 86400000000000 := by
  unfold ofNanos? at h
  obtain ⟨date, hdate, h⟩ := Option.bind_eq_some_iff.mp h
  unfold Date.ofDay? at hdate
  split at hdate
  · cases hdate
    simp only at h
    split at h
    · cases h
      rfl
    · cases h
  · cases hdate

/-- The instant of a count of nanoseconds has that count and is in no leap second. -/
theorem eq_of_ofNanos? (h : ofNanos? n = some t) : t.isLeap = false ∧ t.nanos = n := by
  have hday := day_of_ofNanos? h
  unfold ofNanos? at h
  obtain ⟨date, hdate, h⟩ := Option.bind_eq_some_iff.mp h
  simp only at h
  split at h
  · cases h
    constructor
    · simp only [isLeap, decide_eq_false_iff_not]
      omega
    · change date.day = _ at hday
      simp only [nanos, hday]
      omega
  · cases h

/-- Outside leap seconds the difference is the span that was added. -/
theorem since_of_add? (ht : t.isLeap = false) (h : t.add? s = some u) : u.since t = s := by
  unfold add? at h
  rw [ht] at h
  obtain ⟨-, hnanos⟩ := eq_of_ofNanos? h
  have hdifference : t.nanos + s.nanos - t.nanos = s.nanos := by omega
  unfold since
  rw [hnanos, hdifference]

/-- An instant that is not in a leap second is one that a clock shows. -/
theorem isRegular_of_isLeap_eq_false (h : t.isLeap = false) : t.IsRegular := by
  intro hleap
  rw [h] at hleap
  cases hleap

/-- Adding a span to an instant of a clock gives one again: the sum stays in the leap second, or is
in none. -/
theorem isRegular_of_add? (ht : t.IsRegular) (h : t.add? s = some u) : u.IsRegular := by
  unfold add? at h
  by_cases hleap : t.isLeap = true
  · rw [if_pos hleap] at h
    simp only at h
    split at h
    · split at h
      · -- the instant stays in its leap second
        cases h
        exact fun _ => ht hleap
      · cases h
    · split at h
      · exact isRegular_of_isLeap_eq_false (eq_of_ofNanos? h).1
      · exact isRegular_of_isLeap_eq_false (eq_of_ofNanos? h).1
  · rw [if_neg hleap] at h
    exact isRegular_of_isLeap_eq_false (eq_of_ofNanos? h).1

/-! ## Spans that are not negative -/

/-- A number of nanoseconds is an instant if its day is a date. The time of day never is what
fails. -/
theorem exists_ofNanos? (hfirst : Date.firstDay ≤ n / 86400000000000)
    (hlast : n / 86400000000000 ≤ Date.lastDay) : ∃ t, ofNanos? n = some t := by
  have hdate : Date.ofDay? (n / 86400000000000) = some ⟨n / 86400000000000, hfirst, hlast⟩ :=
    dif_pos ⟨hfirst, hlast⟩
  have hrest : (n % 86400000000000).toNat / 1000000000 < 86400
      ∧ (n % 86400000000000).toNat % 1000000000 < 2000000000 := by omega
  unfold ofNanos?
  rw [hdate, Option.bind_eq_bind, Option.bind_some]
  simp only
  rw [dif_pos hrest]
  exact ⟨_, rfl⟩

/-- What lies between an instant and another has a date. -/
theorem exists_ofNanos?_of_le (hfirst : t.date.day * 86400000000000 ≤ n) (hn : n ≤ m)
    (h : ofNanos? m = some u) : ∃ v, ofNanos? n = some v := by
  have hday := day_of_ofNanos? h
  have htd := t.date.firstDay_le
  have hud := u.date.le_lastDay
  exact exists_ofNanos? (by omega) (by omega)

/-- There is a date for a shorter span if there is one for a longer one. -/
theorem exists_add?_of_le {long : Span} (hpositive : Span.zero ≤ s) (hle : s ≤ long)
    (h : t.add? long = some u) : ∃ v, t.add? s = some v := by
  have hs : 0 ≤ s.nanos := hpositive
  have hlong : s.nanos ≤ long.nanos := hle
  have hnanos : t.nanos = (t.date.day * 86400 + t.second) * 1000000000 + t.nano := rfl
  unfold add? at h ⊢
  by_cases hleap : t.isLeap = true
  · have hnano : 1000000000 ≤ t.nano := of_decide_eq_true hleap
    rw [if_pos hleap] at h ⊢
    simp only at h ⊢
    by_cases hstays : s.nanos.natAbs < 1000000000 ∧ (t.nano : Int) + s.nanos < 2000000000
    · rw [if_pos hstays, dif_pos (by omega)]
      exact ⟨_, rfl⟩
    · rw [if_neg hstays, if_neg (by omega)]
      rw [if_neg (by omega), if_neg (by omega)] at h
      exact exists_ofNanos?_of_le (t := t) (by omega) (by omega) h
  · rw [if_neg hleap] at h ⊢
    exact exists_ofNanos?_of_le (t := t) (by omega) (by omega) h

/-- Time goes on by a positive span. -/
theorem le_of_add? (hpositive : Span.zero ≤ s) (h : t.add? s = some u) : t ≤ u := by
  have hs : 0 ≤ s.nanos := hpositive
  have hnanos : t.nanos = (t.date.day * 86400 + t.second) * 1000000000 + t.nano := rfl
  have hnanos' : u.nanos = (u.date.day * 86400 + u.second) * 1000000000 + u.nano := rfl
  have hrank : t.rank = (t.date.day * 86400 + t.second) * 2000000000 + t.nano := rfl
  have hrank' : u.rank = (u.date.day * 86400 + u.second) * 2000000000 + u.nano := rfl
  rw [le_iff_rank_le]
  unfold add? at h
  -- from within a leap second the sum may stay in that second; otherwise it is regular
  by_cases hleap : t.isLeap = true
  · have hnano : 1000000000 ≤ t.nano := of_decide_eq_true hleap
    rw [if_pos hleap] at h
    simp only at h
    split at h
    · split at h
      · cases h
        simp only at hrank'
        omega
      · cases h
    · rw [if_neg (by omega)] at h
      obtain ⟨hregular, hsum⟩ := eq_of_ofNanos? h
      have hnano' : ¬ 1000000000 ≤ u.nano := of_decide_eq_false hregular
      have := t.nano_lt
      omega
  · have hnano : ¬ 1000000000 ≤ t.nano := mt decide_eq_true hleap
    rw [if_neg hleap] at h
    obtain ⟨hregular, hsum⟩ := eq_of_ofNanos? h
    have hnano' : ¬ 1000000000 ≤ u.nano := of_decide_eq_false hregular
    omega

end CountingHouse.Instant
