/-
The life of a session.

`Lasting` is what can be relied on at the desk for as long as the clock does not go back. A
session that has been filed stays on file and changes in nothing but its flag; the flag is
raised by its own user and in time, or never; and once a session has ended, by either way, it
stays ended in that way. The last of these needs the clock: an expired session is not blocked
because nobody comes back to a time before its expiry.
-/
import CountingHouse.Proofs.Session.Visits

set_option autoImplicit false

namespace CountingHouse

/-- Whether the clock does not go back from a visit to a later one. -/
def Forward (visits : List Visit) : Prop := visits.Pairwise fun v w => v.now ≤ w.now

instance (visits : List Visit) : Decidable (Forward visits) :=
  inferInstanceAs (Decidable (visits.Pairwise fun v w => v.now ≤ w.now))

/-! ## Sessions that have ended -/

namespace Session

variable {r : Session} {now t : Instant} {visits : List Visit}

/-- A session that is not active is blocked, or it is not and its time is over. -/
theorem isBlocked_or_expired (h : r.state now ≠ .active) :
    r.isBlocked = true ∨ (r.isBlocked = false ∧ r.expiresAt < now) := by
  rw [ne_eq, state_eq_active_iff, Classical.not_and_iff_not_or_not, Bool.not_eq_false,
    Instant.not_le] at h
  by_cases hblocked : r.isBlocked = true
  · exact .inl hblocked
  · exact .inr ⟨Bool.eq_false_iff.mpr hblocked, h.resolve_left hblocked⟩

/-- A session that has ended is in the same state at all later times. -/
theorem state_of_ended (h : r.state now ≠ .active) (ht : now ≤ t) : r.state t = r.state now := by
  rcases isBlocked_or_expired h with hblocked | ⟨hflag, hexpired⟩
  · rw [state_of_isBlocked hblocked, state_of_isBlocked hblocked]
  · have hlater : r.expiresAt < t := Int.lt_of_lt_of_le hexpired ht
    unfold state
    rw [hflag, if_neg Bool.false_ne_true, if_neg Bool.false_ne_true, if_pos hexpired,
      if_pos hlater]

/-- A session that has ended is not changed any more. -/
theorem after_of_ended (h : r.state now ≠ .active) (hlater : ∀ v ∈ visits, now ≤ v.now) :
    r.after visits = r := by
  have hflag : (r.isBlocked || visits.any fun v => v.ends r) = r.isBlocked := by
    rcases isBlocked_or_expired h with hblocked | ⟨-, hexpired⟩
    · rw [hblocked, Bool.true_or]
    · -- a visit that ends a session comes no later than its expiry, which has passed
      have hnone : (visits.any fun v => v.ends r) = false := by
        refine List.any_eq_false.mpr fun v hv hends => ?_
        have hlive : now ≤ r.expiresAt :=
          Instant.le_trans (hlater v hv) (Visit.ends_iff.mp hends).2
        exact Instant.not_lt.mpr hlive hexpired
      rw [hnone, Bool.or_false]
  unfold after
  rw [hflag]

end Session

namespace CredentialDesk

/-! ## What lasts -/

/-- What becomes of the sessions in a history. -/
structure Lasting (d : CredentialDesk) (s : Stores) (visits : List Visit) : Prop where
  /-- No session is ever removed, and none changes but in its flag, which is never lowered. -/
  kept : ∀ earlier later, visits = earlier ++ later → ∀ id r,
    (d.run s earlier).sessions.find? id = some r →
    ∃ blocked, (d.run s visits).sessions.find? id = some { r with isBlocked := blocked } ∧
      (r.isBlocked = true → blocked = true)
  /-- A flag is raised only by revoking the session under the name of its user no later than it
  expires. All other sessions are left alone by that. -/
  ended : ∀ earlier v later, visits = earlier ++ v :: later → ∀ id r r',
    (d.run s earlier).sessions.find? id = some r → r.isBlocked = false →
    (d.run s (earlier ++ [v])).sessions.find? id = some r' → r'.isBlocked = true →
    v.call = .revoke r.username id ∧ v.now ≤ r.expiresAt ∧
      ∀ other, other ≠ id → (d.run s (earlier ++ [v])).sessions.find? other
        = (d.run s earlier).sessions.find? other
  /-- A session that has expired or is blocked at some time is so at all later times, whatever
  is done from then on. -/
  final : ∀ earlier later, visits = earlier ++ later → ∀ now, (∀ v ∈ later, now ≤ v.now) →
    ∀ id r, (d.run s earlier).sessions.find? id = some r → r.state now ≠ .active →
    ∀ t, now ≤ t → ∃ r', (d.run s visits).sessions.find? id = some r' ∧
      r'.state t = r.state now
  /-- A revocation that succeeded succeeds again with the same session and changes nothing,
  whatever is done in between. -/
  repeated : ∀ earlier v between w later, visits = earlier ++ v :: between ++ w :: later →
    ∀ username id r, v.call = .revoke username id → w.call = .revoke username id →
    (revoke .memory username id ((d.run s earlier).atTime v.now)).1 = .ok r →
    revoke .memory username id ((d.run s (earlier ++ v :: between)).atTime w.now)
      = (.ok r, (d.run s (earlier ++ v :: between)).atTime w.now)

variable {d : CredentialDesk} {s : Stores} {v : Visit} {id : SessionId} {r r' : Session}
variable {visits between : List Visit}

/-- The visit that raises a flag. -/
theorem ends_of_raised (hfound : s.sessions.find? id = some r) (hclear : r.isBlocked = false)
    (hfound' : (d.receive s v).sessions.find? id = some r') (hraised : r'.isBlocked = true) :
    v.ends r = true := by
  have hafter : r.after [v] = r' := Option.some.inj ((find?_receive hfound v).symm.trans hfound')
  rw [← hafter] at hraised
  simp only [Session.after, hclear, List.any_cons, List.any_nil, Bool.or_false,
    Bool.false_or] at hraised
  exact hraised

/-- A visit that ends a session leaves all others as they are. -/
theorem find?_receive_of_ends (hends : v.ends r = true) {other : SessionId}
    (hother : other ≠ r.id) :
    (d.receive s v).sessions.find? other = s.sessions.find? other := by
  have hcall := (Visit.ends_iff.mp hends).1
  rcases d.receive_cases s v with ⟨username, g, draw, duration, client, hissue, -⟩ | hsame
  · rw [hcall] at hissue
    cases hissue
  · rw [hsame, map_after_eq_self]
    intro r' hfound' hends'
    have hcall' := (Visit.ends_iff.mp hends').1
    rw [hcall] at hcall'
    have hid := (DeskCall.revoke.inj hcall').2
    exact absurd ((SessionTable.id_of_find? hfound').symm.trans hid.symm) hother

/-- What has been handed back is handed back again. -/
theorem revoke_again {username : String} {t : Instant} (hcall : v.call = .revoke username id)
    (hanswer : (revoke .memory username id (s.atTime v.now)).1 = .ok r)
    (hbetween : ∀ w ∈ between, v.now ≤ w.now) (ht : v.now ≤ t) :
    revoke .memory username id ((d.run s (v :: between)).atTime t)
      = (.ok r, (d.run s (v :: between)).atTime t) := by
  obtain ⟨hname, hended, hfound⟩ := ended_of_revoke hanswer
  have hfirst : d.receive s v = (revoke .memory username id (s.atTime v.now)).2 := by
    unfold receive
    rw [hcall]
    rfl
  -- the session had ended by the first revocation, so what is done in between does not change it
  rw [← hfirst] at hfound
  have hfound' : (d.run s (v :: between)).sessions.find? id = some r := by
    have hstill := find?_run (d := d) hfound between
    rw [Session.after_of_ended hended hbetween] at hstill
    exact hstill
  have hended' : r.state t ≠ .active := by
    rw [Session.state_of_ended hended ht]
    exact hended
  rw [← hname]
  exact revoke_of_ended (s := (d.run s (v :: between)).atTime t) hfound' hended'

/-- Sessions last, whoever calls for what, as long as the clock does not go back. -/
theorem lasting_of_forward (d : CredentialDesk) (s : Stores) {visits : List Visit}
    (hclock : Forward visits) : d.Lasting s visits where
  kept := by
    -- the row is still there, changed only in its mark
    rintro earlier later rfl id r hfound
    refine ⟨(r.after later).isBlocked, ?_, fun hblocked => ?_⟩
    · rw [run_append]
      exact find?_run hfound later
    · simp only [Session.after, hblocked, Bool.true_or]
  ended := by
    -- a mark that is raised was raised by a revocation that reached the row
    rintro earlier v later rfl id r r' hfound hclear hfound' hraised
    rw [run_append] at hfound'
    have hends := ends_of_raised hfound hclear hfound' hraised
    have hid : r.id = id := SessionTable.id_of_find? hfound
    obtain ⟨hcall, hlive⟩ := Visit.ends_iff.mp hends
    rw [hid] at hcall
    refine ⟨hcall, hlive, fun other hother => ?_⟩
    rw [run_append]
    exact find?_receive_of_ends hends (hid ▸ hother)
  final := by
    -- a row that has ended passes through later visits unchanged
    rintro earlier later rfl now hlater id r hfound hended t ht
    refine ⟨r, ?_, Session.state_of_ended hended ht⟩
    have hstill := find?_run (d := d) hfound later
    rw [Session.after_of_ended hended hlater] at hstill
    rw [run_append]
    exact hstill
  repeated := by
    rintro earlier v between w later rfl username id r hcall - hanswer
    -- the clock of the second revocation is not before that of the first
    rw [Forward, List.append_assoc, List.pairwise_append, List.cons_append,
      List.pairwise_cons] at hclock
    have hbetween : ∀ u ∈ between, v.now ≤ u.now :=
      fun u hu => hclock.2.1.1 u (List.mem_append_left _ hu)
    have hw : v.now ≤ w.now :=
      hclock.2.1.1 w (List.mem_append_right _ List.mem_cons_self)
    rw [run_append]
    exact revoke_again hcall hanswer hbetween hw

/-- A session that expires at 20 is revoked at 10, by a stranger first. At 30 it is still
blocked and is handed back as such, after somebody has tried a token in between. -/
theorem lasting_after_revocation :
    let d : CredentialDesk := ⟨⟨.signed, List.replicate 32 0, by decide⟩, .ofSeconds 60⟩
    let ten : Instant := ⟨Date.epoch, 10, 0, by decide, by decide⟩
    let twenty : Instant := ⟨Date.epoch, 20, 0, by decide, by decide⟩
    let thirty : Instant := ⟨Date.epoch, 30, 0, by decide, by decide⟩
    let id : SessionId := ⟨.ofRandom 7⟩
    let r : Session := ⟨id, "ann", "token", {}, false, twenty, default⟩
    let s : Stores := { clock := default, sessions := ⟨[r]⟩ }
    let first : List Visit := [⟨ten, .revoke "bob" id⟩, ⟨ten, .revoke "ann" id⟩]
    let visits : List Visit := first ++
      [⟨twenty, .renew ⟨8, Vector.replicate 12 0⟩ "token"⟩, ⟨thirty, .revoke "ann" id⟩]
    Forward visits ∧
      (∃ r', (d.run s visits).sessions.find? id = some r' ∧ r'.state thirty = .blocked) ∧
      (revoke .memory "ann" id ((d.run s (visits.take 3)).atTime thirty)).1
        = .ok { r with isBlocked := true } := by
  intro d ten twenty thirty id r s first visits
  have hclock : Forward visits := by decide
  -- neither the stranger's attempt before the revocation nor the renewal after it changes its end
  have hlasting := lasting_of_forward d s hclock
  have hfound : (d.run s first).sessions.find? id = some { r with isBlocked := true } := by
    decide +kernel
  have hanswer : (revoke .memory "ann" id ((d.run s (visits.take 1)).atTime ten)).1
      = .ok { r with isBlocked := true } := by decide +kernel
  have hlater : ∀ v ∈ visits.drop 2, ten ≤ v.now := by decide
  have hthirty : ten ≤ thirty := by decide
  have hended : Session.state { r with isBlocked := true } ten ≠ .active := by decide
  refine ⟨hclock, ?_, ?_⟩
  · exact hlasting.final first _ rfl ten hlater id _ hfound hended thirty hthirty
  · exact congrArg Prod.fst
      (hlasting.repeated (visits.take 1) _ [_] _ [] rfl "ann" id _ rfl rfl hanswer)

end CredentialDesk

end CountingHouse
