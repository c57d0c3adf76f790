/-
What a table of sessions shows under each identifier.

The table is known by its look-ups and nothing else. Filing a session shows it under its
identifier and leaves the others; an identifier that is taken is not overwritten. Blocking
raises the flag of one session and leaves the others.
-/
import CountingHouse.Session.Table

set_option autoImplicit false

namespace CountingHouse.SessionTable

variable {t : SessionTable} {id k : SessionId} {r : Session}

/-- A session is found under its own identifier. -/
theorem id_of_find? (h : t.find? id = some r) : r.id = id := by
  have hid := List.find?_some h
  exact eq_of_beq hid

/-! ## Filing -/

/-- The table with one more session. -/
def enter (t : SessionTable) (r : Session) : SessionTable := { rows := t.rows ++ [r] }

/-- A session that is entered is found behind those that were there before. -/
theorem find?_enter (t : SessionTable) (r : Session) (id : SessionId) :
    (t.enter r).find? id = (t.find? id).or (if r.id = id then some r else none) := by
  unfold find? enter
  rw [List.find?_append, List.find?_singleton]
  by_cases hid : r.id = id
  · rw [if_pos hid, if_pos (beq_iff_eq.mpr hid)]
  · rw [if_neg hid, if_neg (mt beq_iff_eq.mp hid)]

/-- Entering a session hides none that was there. -/
theorem find?_enter_of_some (h : t.find? id = some r) (r' : Session) :
    (t.enter r').find? id = some r := by
  rw [find?_enter, h, Option.some_or]

/-- A session under a new identifier is found as it was entered. -/
theorem find?_enter_self (h : t.find? r.id = none) : (t.enter r).find? r.id = some r := by
  rw [find?_enter, h, Option.none_or, if_pos rfl]

/-- Entering a session changes nothing under another identifier. -/
theorem find?_enter_of_ne (h : r.id ≠ id) : (t.enter r).find? id = t.find? id := by
  rw [find?_enter, if_neg h, Option.or_none]

variable {username token : String} {client : Client} {expiresAt now : Instant}

/-- Under a free identifier a session is filed that is not blocked, and handed back. -/
theorem create_of_none (h : t.find? id = none) :
    t.create id username token client expiresAt now
      = (.ok ⟨id, username, token, client, false, expiresAt, now⟩,
        t.enter ⟨id, username, token, client, false, expiresAt, now⟩) := by
  unfold create
  rw [h]
  rfl

/-- Under an identifier in use nothing is filed. -/
theorem create_of_some (h : t.find? id = some r) :
    t.create id username token client expiresAt now = (.error (.duplicate (.session id)), t) := by
  unfold create
  rw [h]

/-! ## Blocking -/

/-- Blocking changes what is found under one identifier, in nothing but the mark. -/
theorem find?_block (t : SessionTable) (id k : SessionId) :
    (t.block id).2.find? k
      = (t.find? k).map fun r => if r.id == id then { r with isBlocked := true } else r := by
  have hkept : (fun r : Session => r.id == k)
      ∘ (fun r : Session => if r.id == id then { r with isBlocked := true } else r)
      = fun r => r.id == k := by
    funext r
    by_cases hid : (r.id == id) = true
    · simp only [Function.comp_apply, if_pos hid]
    · simp only [Function.comp_apply, if_neg hid]
  unfold block find?
  rw [List.find?_map, hkept]

/-- The session that was blocked is found with the mark. -/
theorem find?_block_self (h : t.find? id = some r) :
    (t.block id).2.find? id = some { r with isBlocked := true } := by
  rw [find?_block, h, Option.map_some, if_pos (beq_iff_eq.mpr (id_of_find? h))]

/-- Blocking a session changes nothing under another identifier. -/
theorem find?_block_of_ne (h : k ≠ id) : (t.block id).2.find? k = t.find? k := by
  rw [find?_block]
  rcases hfound : t.find? k with _ | r
  · rfl
  · have hid : ¬ (r.id == id) = true := by
      rw [beq_iff_eq, id_of_find? hfound]
      exact h
    rw [Option.map_some, if_neg hid]

end CountingHouse.SessionTable
