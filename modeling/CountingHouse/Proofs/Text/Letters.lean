/-
Letters whose case does not matter.

Small letters are compared inside ASCII, and what becomes an ASCII letter was one. Capitals come
from the whole of Unicode, and of what becomes an ASCII capital two letters were none: the long
`ſ` becomes an `S` and the dotless `ı` an `I`. A character that becomes several ones leaves a
piece of the upper-cased text. So a word that has none of these pieces in it is the upper case
only of texts that have one character for each of its letters (`upper_eq_iff`).
-/
import CountingHouse.Text.Upper
import CountingHouse.Proofs.Text.Fields
import Mathlib

set_option autoImplicit false

namespace CountingHouse.Text

/-- Whether a character is an ASCII letter in upper or in lower case. -/
def SameLetter (letter c : Char) : Prop := c = letter.toUpper ∨ c = letter.toLower

instance (letter c : Char) : Decidable (SameLetter letter c) :=
  inferInstanceAs (Decidable (c = letter.toUpper ∨ c = letter.toLower))

/-- Whether a text is a word, whatever the case of its letters. -/
def SameWord (word s : List Char) : Prop := List.Forall₂ SameLetter word s

instance (word s : List Char) : Decidable (SameWord word s) :=
  inferInstanceAs (Decidable (List.Forall₂ SameLetter word s))

variable {letter c : Char} {word s : List Char}

/-! ## ASCII letters -/

/-- What holds of the numbers of the ASCII characters holds of these. -/
theorem forall_ascii {P : Char → Prop} (h : ∀ n < 128, P (Char.ofNat n)) :
    ∀ c : Char, c.toNat < 128 → P c := by
  intro c hc
  have hn := h c.toNat hc
  rwa [Char.ofNat_toNat] at hn

/-- The small letters are from 0x61 to 0x7A. -/
theorem toNat_of_isLower (h : c.isLower = true) : 0x61 ≤ c.toNat ∧ c.toNat ≤ 0x7A := by
  simp only [Char.isLower, Bool.and_eq_true, decide_eq_true_eq] at h
  exact h

/-- The capitals are from 0x41 to 0x5A. -/
theorem toNat_of_isUpper (h : c.isUpper = true) : 0x41 ≤ c.toNat ∧ c.toNat ≤ 0x5A := by
  simp only [Char.isUpper, decide_eq_true_eq] at h
  exact h

/-- Lowering leaves a small letter alone, and gives it back from its capital. -/
theorem cases_of_isLower (h : c.isLower = true) : c.toLower = c ∧ c.toUpper.toLower = c := by
  have hc := toNat_of_isLower h
  have small : ∀ c : Char, c.toNat < 128 → c.isLower = true →
      c.toLower = c ∧ c.toUpper.toLower = c := forall_ascii (by decide)
  exact small c (by omega) h

/-- Raising leaves a capital alone, and gives it back from its small letter, which is 32 places
behind it. -/
theorem cases_of_isUpper (h : c.isUpper = true) :
    c.toUpper = c ∧ c.toLower.toUpper = c ∧ c.toLower.toNat = c.toNat + 32 := by
  have hc := toNat_of_isUpper h
  have small : ∀ c : Char, c.toNat < 128 → c.isUpper = true →
      c.toUpper = c ∧ c.toLower.toUpper = c ∧ c.toLower.toNat = c.toNat + 32 :=
    forall_ascii (by decide)
  exact small c (by omega) h

/-- Lowering leaves alone whatever is no capital. -/
theorem toLower_eq_self (h : ¬ c.isUpper = true) : c.toLower = c := by
  simp only [Char.isUpper, decide_eq_true_eq] at h
  exact dif_neg h

/-- No letter is blank, in whatever case. -/
theorem isBlank_of_sameLetter (hletter : letter.isAlpha = true) (h : SameLetter letter c) :
    isBlank c = false := by
  have hrange : letter.toNat < 128 := by
    simp only [Char.isAlpha, Bool.or_eq_true] at hletter
    rcases hletter with hupper | hlower
    · have := toNat_of_isUpper hupper
      omega
    · have := toNat_of_isLower hlower
      omega
  have small : ∀ c : Char, c.toNat < 128 → c.isAlpha = true →
      isBlank c.toUpper = false ∧ isBlank c.toLower = false := forall_ascii (by decide)
  obtain ⟨hupper, hlower⟩ := small letter hrange hletter
  rcases h with rfl | rfl
  · exact hupper
  · exact hlower

/-- What stands for the letters of a word is a word, if nothing that stands for one is blank. -/
theorem isWord_of_forall₂ {stands : Char → Char → Prop} (hne : word ≠ [])
    (hblank : ∀ letter ∈ word, ∀ c, stands letter c → isBlank c = false)
    (h : List.Forall₂ stands word s) : IsWord s := by
  refine ⟨?_, ?_⟩
  · rintro rfl
    exact hne (List.forall₂_nil_right_iff.mp h)
  · clear hne
    induction h with
    | nil => exact fun c hc => absurd hc List.not_mem_nil
    | @cons letter d word s hstands _ ih =>
      have hrest := ih fun other hother => hblank other (List.mem_cons_of_mem letter hother)
      intro c hc
      rcases List.mem_cons.mp hc with rfl | hc
      · exact hblank letter List.mem_cons_self c hstands
      · exact hrest c hc

/-- What is a word of small letters, whatever the case, is a word. -/
theorem isWord_of_sameWord (hne : word ≠ []) (hlower : ∀ letter ∈ word, letter.isLower = true)
    (h : SameWord word s) : IsWord s := by
  refine isWord_of_forall₂ hne (fun letter hletter c hsame => ?_) h
  exact isBlank_of_sameLetter (by rw [Char.isAlpha, hlower letter hletter, Bool.or_true]) hsame

/-! ## Small letters -/

/-- What is lowered to a small letter is that letter or its capital. -/
theorem toLower_eq_iff (hletter : letter.isLower = true) :
    c.toLower = letter ↔ SameLetter letter c := by
  obtain ⟨hsmall, hback⟩ := cases_of_isLower hletter
  constructor
  · rintro rfl
    by_cases hc : c.isUpper = true
    · exact .inl (cases_of_isUpper hc).2.1.symm
    · rw [toLower_eq_self hc] at hsmall ⊢
      exact .inr hsmall.symm
  · rintro (rfl | rfl)
    · exact hback
    · rw [hsmall, hsmall]

/-- A text in small letters is a word of small letters exactly if it has been that word, whatever
the case of its letters. -/
theorem lowerAscii_eq_iff (hword : ∀ c ∈ word, c.isLower = true) :
    lowerAscii s = word ↔ SameWord word s := by
  induction word generalizing s with
  | nil => simp [lowerAscii, SameWord]
  | cons letter word ih =>
    have hmore : ∀ {s}, lowerAscii s = word ↔ SameWord word s :=
      ih fun c hc => hword c (List.mem_cons_of_mem letter hc)
    cases s with
    | nil => simp [lowerAscii, SameWord]
    | cons c s =>
      have hc := toLower_eq_iff (c := c) (hword letter List.mem_cons_self)
      unfold lowerAscii SameWord at hmore ⊢
      rw [List.map_cons, List.cons.injEq, hc, hmore, List.forall₂_cons]

/-! ## Capitals -/

/-- A number that stands for a character other than the first one is the number of it. -/
theorem toNat_ofNat_of_pos {n : Nat} (h : 0 < (Char.ofNat n).toNat) : (Char.ofNat n).toNat = n := by
  unfold Char.ofNat at h ⊢
  split at h
  · next hvalid =>
    rw [dif_pos hvalid]
    rfl
  · exact absurd h (by decide)

/-- Of the characters that have an upper case of one character, all but three runs have theirs
behind the ASCII capitals. -/
theorem caseRuns_ascii : ∀ run ∈ caseRuns, run = ⟨0x61, 0x7A, 1, -32⟩
    ∨ run = ⟨0x131, 0x131, 1, -232⟩ ∨ run = ⟨0x17F, 0x17F, 1, -300⟩
    ∨ 0x5A < run.first + run.shift := by decide +kernel

/-- The characters that are listed with an expansion are raised to more than one. -/
theorem two_le_length_of_mem_caseExpansions : ∀ e ∈ caseExpansions, 2 ≤ e.2.length := by
  decide +kernel

/-- What becomes of a character: one character by its run, several ones, or itself. -/
theorem upperChar_cases (c : Char) :
    (∃ run ∈ caseRuns, run.covers c.toNat = true
      ∧ upperChar c = [Char.ofNat (c.toNat + run.shift).toNat]) ∨
    (∃ e ∈ caseExpansions, upperChar c = e.2.map Char.ofNat) ∨ upperChar c = [c] := by
  unfold upperChar
  split
  · next run hrun =>
    have hcovers : run.covers c.toNat = true :=
      List.find?_some (p := fun run : CaseRun => run.covers c.toNat) hrun
    exact .inl ⟨run, List.mem_of_find?_eq_some hrun, hcovers, rfl⟩
  · split
    · next codes hcodes =>
      obtain ⟨before, after, hlist, -⟩ := List.lookup_eq_some_iff.mp hcodes
      have hmem : (c.toNat, codes) ∈ caseExpansions := by
        rw [hlist]
        exact List.mem_append_right before List.mem_cons_self
      exact .inr (.inl ⟨(c.toNat, codes), hmem, rfl⟩)
    · exact .inr (.inr rfl)

/-- A letter is the upper case of itself in either case. -/
theorem upperChar_of_sameLetter (hletter : letter.isUpper = true) (h : SameLetter letter c) :
    upperChar c = [letter] := by
  have hrange := toNat_of_isUpper hletter
  have small : ∀ letter : Char, letter.toNat < 128 → letter.isUpper = true →
      upperChar letter.toUpper = [letter] ∧ upperChar letter.toLower = [letter] :=
    forall_ascii (by decide +kernel)
  obtain ⟨hcapital, hsmall⟩ := small letter (by omega) hletter
  rcases h with rfl | rfl
  · exact hcapital
  · exact hsmall

/-- The characters whose upper case is an ASCII capital are the letter in either case, and two
more. -/
theorem upperChar_eq_singleton_iff (hletter : letter.isUpper = true) :
    upperChar c = [letter]
      ↔ SameLetter letter c ∨ (letter = 'S' ∧ c = 'ſ') ∨ (letter = 'I' ∧ c = 'ı') := by
  have hrange := toNat_of_isUpper hletter
  obtain ⟨hcapital, -, hsmall⟩ := cases_of_isUpper hletter
  constructor
  · intro h
    rcases upperChar_cases c with ⟨run, hrun, hcovers, hone⟩ | ⟨e, he, hmany⟩ | hself
    · -- a capital that is found by a run lies where the run leads
      have hchar : Char.ofNat (c.toNat + run.shift).toNat = letter := by
        rw [hone] at h
        exact (List.cons.inj h).1
      have hnumber : letter.toNat = (c.toNat + run.shift).toNat := by
        rw [← hchar]
        exact toNat_ofNat_of_pos (by rw [hchar]; omega)
      simp only [CaseRun.covers, Bool.and_eq_true, decide_eq_true_eq] at hcovers
      have hfirst := hcovers.1.1
      have hlast := hcovers.1.2
      rcases caseRuns_ascii run hrun with rfl | rfl | rfl | hbehind
      · simp only at hfirst hlast hnumber
        exact .inl (.inr (Char.toNat_inj.mp (by omega)))
      · simp only at hfirst hlast hnumber
        have hletter : letter.toNat = 'I'.toNat := by rw [show 'I'.toNat = 0x49 from rfl]; omega
        have hc : c.toNat = 'ı'.toNat := by rw [show 'ı'.toNat = 0x131 from rfl]; omega
        exact .inr (.inr ⟨Char.toNat_inj.mp hletter, Char.toNat_inj.mp hc⟩)
      · simp only at hfirst hlast hnumber
        have hletter : letter.toNat = 'S'.toNat := by rw [show 'S'.toNat = 0x53 from rfl]; omega
        have hc : c.toNat = 'ſ'.toNat := by rw [show 'ſ'.toNat = 0x17F from rfl]; omega
        exact .inr (.inl ⟨Char.toNat_inj.mp hletter, Char.toNat_inj.mp hc⟩)
      · omega
    · have hlength := two_le_length_of_mem_caseExpansions e he
      rw [hmany] at h
      have hone : e.2.length = 1 := by rw [← List.length_map Char.ofNat, h, List.length_singleton]
      omega
    · rw [hself] at h
      exact .inl (.inl ((List.cons.inj h).1.trans hcapital.symm))
  · rintro (hsame | ⟨rfl, rfl⟩ | ⟨rfl, rfl⟩)
    · exact upperChar_of_sameLetter hletter hsame
    · decide +kernel
    · decide +kernel

/-! ## Words in capitals -/

/-- A text becomes a word of capitals character by character, if no character becomes a piece of
two or more letters of the word. -/
theorem upper_eq_iff (hpieces : ∀ e ∈ caseExpansions, ¬ e.2.map Char.ofNat <:+: word) :
    upper s = word ↔ List.Forall₂ (fun letter c => upperChar c = [letter]) word s := by
  constructor
  · intro h
    induction s generalizing word with
    | nil =>
      rw [← h]
      exact .nil
    | cons c s ih =>
      have hcons : upperChar c ++ upper s = word := h
      -- what a word is free of, its rest is free of
      have hrest : ∀ e ∈ caseExpansions, ¬ e.2.map Char.ofNat <:+: upper s := fun e he hpiece =>
        hpieces e he (hpiece.trans (hcons ▸ (List.suffix_append (upperChar c) (upper s)).isInfix))
      obtain ⟨letter, hletter⟩ : ∃ letter, upperChar c = [letter] := by
        rcases upperChar_cases c with ⟨run, -, -, hone⟩ | ⟨e, he, hmany⟩ | hself
        · exact ⟨_, hone⟩
        · refine absurd ?_ (hpieces e he)
          rw [← hmany, ← hcons]
          exact (List.prefix_append (upperChar c) (upper s)).isInfix
        · exact ⟨c, hself⟩
      rw [← hcons, hletter]
      exact .cons hletter (ih hrest rfl)
  · intro h
    clear hpieces
    induction h with
    | nil => rfl
    | cons hletter _ ih =>
      change upperChar _ ++ upper _ = _
      rw [hletter, ih, List.singleton_append]

end CountingHouse.Text
