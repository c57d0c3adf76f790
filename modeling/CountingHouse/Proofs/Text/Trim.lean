/-
What is left of a text when it has been trimmed.

Trimming finds the one core of a text that neither starts nor ends with a blank and has nothing
but blanks around it. Of a text that is a word with blanks around it, that core is the word.
-/
import CountingHouse.Proofs.Text.Fields
import Mathlib.Data.List.TakeWhile

set_option autoImplicit false

namespace CountingHouse.Text

variable {s front core back : List Char}

/-! ## Blanks around a text -/

/-- Whether a text is a core with blanks around it. -/
def Wraps (s core : List Char) : Prop :=
  ∃ front back, AreBlank front ∧ AreBlank back ∧ s = front ++ core ++ back

/-! ## Trimming -/

/-- Blanks in front of something that does not start with one. -/
theorem trimFront_append_of_areBlank (hfront : AreBlank front)
    (hs : ∀ c ∈ s.head?, isBlank c = false) : trimFront (front ++ s) = s := by
  unfold trimFront
  induction front with
  | nil =>
    cases s with
    | nil => rfl
    | cons c s => rw [List.nil_append, List.dropWhile_cons, hs c rfl, if_neg Bool.false_ne_true]
  | cons c front ih =>
    have hrest : AreBlank front := fun d hd => hfront d (List.mem_cons_of_mem c hd)
    rw [List.cons_append, List.dropWhile_cons, hfront c List.mem_cons_self, if_pos rfl, ih hrest]

/-- Trimming the front takes away blanks, and nothing else. -/
theorem exists_trimFront (s : List Char) : ∃ front, AreBlank front ∧ s = front ++ trimFront s :=
  ⟨s.takeWhile isBlank, fun _ hc => List.mem_takeWhile_imp hc,
    List.takeWhile_append_dropWhile.symm⟩

/-- A text is what is left of it by trimming, with blanks around. -/
theorem wraps_trim (s : List Char) : Wraps s (trim s) := by
  obtain ⟨front, hfront, hs⟩ := exists_trimFront s
  obtain ⟨back, hback, hcore⟩ := exists_trimFront (trimFront s).reverse
  refine ⟨front, back.reverse, hfront, fun c hc => hback c (List.mem_reverse.mp hc), ?_⟩
  have hmiddle : trimFront s = trim s ++ back.reverse := by
    rw [← List.reverse_reverse (trimFront s), hcore, List.reverse_append, trim]
  rw [List.append_assoc, ← hmiddle]
  exact hs

/-- Nothing of a word is lost. -/
theorem IsWord.trim_eq (hcore : IsWord core) (h : Wraps s core) : trim s = core := by
  obtain ⟨front, back, hfront, hback, rfl⟩ := h
  have hhead : ∀ c ∈ (core ++ back).head?, isBlank c = false := by
    obtain ⟨d, word, rfl⟩ := List.exists_cons_of_ne_nil hcore.ne_nil
    rintro c ⟨⟩
    exact hcore.not_blank d List.mem_cons_self
  have hlast : ∀ c ∈ core.reverse.head?, isBlank c = false := by
    intro c hc
    exact hcore.not_blank c (List.mem_reverse.mp (List.mem_of_mem_head? hc))
  have hreverse : AreBlank back.reverse := fun c hc => hback c (List.mem_reverse.mp hc)
  rw [trim, List.append_assoc, trimFront_append_of_areBlank hfront hhead, List.reverse_append,
    trimFront_append_of_areBlank hreverse hlast, List.reverse_reverse]

/-- What only words have, a text has when it is trimmed exactly if some core of it has it. -/
theorem trim_iff_exists_wraps {p : List Char → Prop} (hword : ∀ core, p core → IsWord core) :
    p (trim s) ↔ ∃ core, Wraps s core ∧ p core := by
  constructor
  · intro h
    exact ⟨trim s, wraps_trim s, h⟩
  · rintro ⟨core, hwraps, hcore⟩
    rw [(hword core hcore).trim_eq hwraps]
    exact hcore

end CountingHouse.Text
