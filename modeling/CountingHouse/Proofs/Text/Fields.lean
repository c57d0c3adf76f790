/-
The fields of a text that is put together from words.

A word is a text without blanks that is not empty. A word in front of a blank, or of nothing, is
the first field, and the others are those of the rest; so a text with blanks between words is
taken apart into just these words. The other way round a text has such a word at its front, behind
blanks, if it has a field at all (`exists_of_fields_eq_cons`), and without fields it is blank.
What is written in base 64 has no blanks in it, and neither has anything else in a token.
-/
import CountingHouse.Text.Blank
import CountingHouse.Proofs.Text.Base64

set_option autoImplicit false

namespace CountingHouse.Text

/-! ## Words -/

/-- A text without blanks that is not empty. -/
structure IsWord (s : List Char) : Prop where
  ne_nil : s ≠ []
  not_blank : ∀ c ∈ s, isBlank c = false

/-- A word in the form that can be decided. -/
theorem isWord_iff {s : List Char} :
    IsWord s ↔ s ≠ [] ∧ (s.all fun c => !isBlank c) = true := by
  simp only [List.all_eq_true, Bool.not_eq_true']
  exact ⟨fun h => ⟨h.ne_nil, h.not_blank⟩, fun h => ⟨h.1, h.2⟩⟩

instance (s : List Char) : Decidable (IsWord s) := decidable_of_iff' _ isWord_iff

/-- Something that is not blank, or nothing, in front of a word. -/
theorem IsWord.append {s t : List Char} (hs : ∀ c ∈ s, isBlank c = false) (ht : IsWord t) :
    IsWord (s ++ t) := by
  refine ⟨List.append_ne_nil_of_right_ne_nil s ht.ne_nil, fun c hc => ?_⟩
  rcases List.mem_append.mp hc with hc | hc
  · exact hs c hc
  · exact ht.not_blank c hc

/-- A word followed by characters that are no blanks is a word. -/
theorem IsWord.append_left {s t : List Char} (hs : IsWord s) (ht : ∀ c ∈ t, isBlank c = false) :
    IsWord (s ++ t) := by
  refine ⟨List.append_ne_nil_of_left_ne_nil hs.ne_nil t, fun c hc => ?_⟩
  rcases List.mem_append.mp hc with hc | hc
  · exact hs.not_blank c hc
  · exact ht c hc

/-! ## Blanks -/

/-- Whether there is nothing but blanks in a text. -/
def AreBlank (s : List Char) : Prop := ∀ c ∈ s, isBlank c = true

instance (s : List Char) : Decidable (AreBlank s) :=
  decidable_of_iff (s.all isBlank = true) List.all_eq_true

/-- There is nothing but blanks in the empty text. -/
theorem areBlank_nil : AreBlank [] := fun _ hc => absurd hc List.not_mem_nil

/-- A text is blank if its first character is and the rest of it is. -/
theorem areBlank_cons {c : Char} {s : List Char} :
    AreBlank (c :: s) ↔ isBlank c = true ∧ AreBlank s := List.forall_mem_cons

/-! ## Fields -/

/-- A word is the first field of a text if it ends where a blank or nothing follows. -/
theorem fields_append {s rest : List Char} (hs : IsWord s)
    (hrest : rest.head?.all isBlank = true) : fields (s ++ rest) = s :: fields rest := by
  obtain ⟨hne, hblank⟩ := hs
  induction s with
  | nil => exact absurd rfl hne
  | cons c s ih =>
    have hc : ¬ isBlank c = true := by
      rw [hblank c List.mem_cons_self]
      exact Bool.false_ne_true
    rw [List.cons_append, fields, if_neg hc]
    rcases s with _ | ⟨d, s⟩
    · rw [List.nil_append, if_pos hrest]
    · -- the word goes on, so this character joins what is found behind it
      have hd : isBlank d = false := hblank d (List.mem_cons_of_mem c List.mem_cons_self)
      have hmore : ¬ (d :: s ++ rest).head?.all isBlank = true := by
        rw [List.cons_append, List.head?_cons, Option.all_some, hd]
        exact Bool.false_ne_true
      rw [if_neg hmore, ih (List.cons_ne_nil d s) fun e he => hblank e (List.mem_cons_of_mem c he)]

/-- Blanks in front of a text change none of its fields. -/
theorem fields_append_of_areBlank {front : List Char} (hfront : AreBlank front) (s : List Char) :
    fields (front ++ s) = fields s := by
  induction front with
  | nil => rfl
  | cons c front ih =>
    rw [areBlank_cons] at hfront
    rw [List.cons_append, fields_cons_blank hfront.1, ih hfront.2]

/-- A text has no fields exactly if it is blank. -/
theorem fields_eq_nil_iff {s : List Char} : fields s = [] ↔ AreBlank s := by
  constructor
  · intro h
    induction s with
    | nil => exact areBlank_nil
    | cons c s ih =>
      rw [fields] at h
      split at h
      · next hc => exact areBlank_cons.mpr ⟨hc, ih h⟩
      · split at h
        · exact absurd h (List.cons_ne_nil _ _)
        · split at h <;> exact absurd h (List.cons_ne_nil _ _)
  · intro h
    have hfields := fields_append_of_areBlank h []
    rw [List.append_nil] at hfields
    exact hfields

/-- The first field of a text is a word behind blanks, and the others are those of the rest. -/
theorem exists_of_fields_eq_cons {s field : List Char} {more : List (List Char)}
    (h : fields s = field :: more) : ∃ front rest, AreBlank front ∧ IsWord field
      ∧ rest.head?.all isBlank = true ∧ s = front ++ field ++ rest ∧ fields rest = more := by
  induction s generalizing field more with
  | nil => exact absurd h.symm (List.cons_ne_nil field more)
  | cons c s ih =>
    by_cases hc : isBlank c = true
    · rw [fields_cons_blank hc] at h
      obtain ⟨front, rest, hfront, hfield, hrest, rfl, hmore⟩ := ih h
      exact ⟨c :: front, rest, areBlank_cons.mpr ⟨hc, hfront⟩, hfield, hrest, rfl, hmore⟩
    · have hword : IsWord [c] := ⟨List.cons_ne_nil c [], by simpa using hc⟩
      rw [fields, if_neg hc] at h
      split at h
      · next hends =>
        cases h
        exact ⟨[], s, areBlank_nil, hword, hends, rfl, rfl⟩
      · next hgoes =>
        -- the text goes on without a blank, so it has a field and no blanks in front of it
        rcases hfields : fields s with _ | ⟨run, others⟩
        · refine absurd ?_ hgoes
          cases s with
          | nil => rfl
          | cons d s => exact (areBlank_cons.mp (fields_eq_nil_iff.mp hfields)).1
        · rw [hfields] at h
          cases h
          obtain ⟨front, rest, hfront, hrun, hrest, rfl, hmore⟩ := ih hfields
          cases front with
          | nil =>
            have hfirst := hword.append_left hrun.not_blank
            exact ⟨[], rest, areBlank_nil, hfirst, hrest, rfl, hmore⟩
          | cons d front => exact absurd (areBlank_cons.mp hfront).1 hgoes

/-- A text has two fields if it is two words with blanks around them and between them. -/
theorem fields_eq_two_iff {s first second : List Char} : fields s = [first, second]
    ↔ ∃ front gap back, AreBlank front ∧ IsWord first ∧ AreBlank gap ∧ gap ≠ [] ∧ IsWord second
      ∧ AreBlank back ∧ s = front ++ first ++ gap ++ second ++ back := by
  constructor
  · intro h
    obtain ⟨front, rest, hfront, hfirst, hrest, rfl, hmore⟩ := exists_of_fields_eq_cons h
    obtain ⟨gap, back, hgap, hsecond, -, rfl, hback⟩ := exists_of_fields_eq_cons hmore
    refine ⟨front, gap, back, hfront, hfirst, hgap, ?_, hsecond, fields_eq_nil_iff.mp hback, ?_⟩
    · -- without a gap the first word would not end there
      rintro rfl
      obtain ⟨c, word, rfl⟩ := List.exists_cons_of_ne_nil hsecond.ne_nil
      have hc : isBlank c = true := hrest
      rw [hsecond.not_blank c List.mem_cons_self] at hc
      cases hc
    · simp only [List.append_assoc]
  · rintro ⟨front, gap, back, hfront, hfirst, hgap, hne, hsecond, hback, rfl⟩
    have hends : (gap ++ (second ++ back)).head?.all isBlank = true := by
      obtain ⟨c, blanks, rfl⟩ := List.exists_cons_of_ne_nil hne
      exact (areBlank_cons.mp hgap).1
    have hlast : back.head?.all isBlank = true := by
      cases back with
      | nil => rfl
      | cons c back => exact (areBlank_cons.mp hback).1
    simp only [List.append_assoc]
    rw [fields_append_of_areBlank hfront, fields_append hfirst hends,
      fields_append_of_areBlank hgap, fields_append hsecond hlast, fields_eq_nil_iff.mpr hback]

/-! ## Characters -/

/-- Nothing is blank from the exclamation mark up to the tilde. -/
theorem isBlank_eq_false_of_graphic {c : Char} (hfirst : 0x21 ≤ c.toNat) (hlast : c.toNat ≤ 0x7E) :
    isBlank c = false := by
  simp only [isBlank, Bool.or_eq_false_iff, Bool.and_eq_false_iff, decide_eq_false_iff_not,
    beq_eq_false_iff_ne]
  omega

/-- A digit of the alphabet is no blank. -/
theorem isBlank_eq_false_of_isDigit {c : Char} (h : Base64.IsDigit c) : isBlank c = false := by
  have hrange : ∀ {a b : Char}, 0x21 ≤ a.toNat → b.toNat ≤ 0x7E → a ≤ c ∧ c ≤ b →
      isBlank c = false := by
    intro a b ha hb hc
    exact isBlank_eq_false_of_graphic (Nat.le_trans ha hc.1) (Nat.le_trans hc.2 hb)
  obtain ⟨n, hn⟩ := h
  unfold Base64.value? at hn
  split at hn
  · next hc => exact hrange (by decide) (by decide) hc
  · split at hn
    · next hc => exact hrange (by decide) (by decide) hc
    · split at hn
      · next hc => exact hrange (by decide) (by decide) hc
      · split at hn
        · next hc =>
          rw [hc]
          decide
        · split at hn
          · next hc =>
            rw [hc]
            decide
          · cases hn

/-- There are no blanks in an encoded text. -/
theorem notBlank_encode (bytes : List UInt8) : ∀ c ∈ Base64.encode bytes, isBlank c = false :=
  fun _ hc => isBlank_eq_false_of_isDigit (Base64.isDigit_of_mem_encode hc)

end CountingHouse.Text
