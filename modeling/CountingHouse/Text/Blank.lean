/-
White space, and the two cuts that depend on it: trimming a text and splitting
it into fields.

A character is blank when Unicode gives it the property `White_Space`: 25 code
points, listed below as ranges. That is a wider class than the ASCII one (a
no-break space or a line separator counts) and a narrower one than "looks
empty" (the zero-width space does not). A field is a maximal run of characters
that are not blank, so `fields` never returns an empty field and does not care
how many blanks stand between two fields, or before the first and after the
last.
-/

set_option autoImplicit false

namespace CountingHouse.Text

/-! ## The character class -/

/-- Blank characters: those with the Unicode property `White_Space`. -/
def isBlank (c : Char) : Bool :=
  let n := c.toNat
  (0x09 ≤ n && n ≤ 0x0D) || n == 0x20 || n == 0x85 || n == 0xA0 || n == 0x1680
    || (0x2000 ≤ n && n ≤ 0x200A) || n == 0x2028 || n == 0x2029 || n == 0x202F
    || n == 0x205F || n == 0x3000

/-- Every character that the ASCII class calls white space is blank. -/
theorem isBlank_of_isWhitespace {c : Char} (h : c.isWhitespace = true) : isBlank c = true := by
  simp only [Char.isWhitespace, Bool.or_eq_true, decide_eq_true_eq] at h
  rcases h with ((rfl | rfl) | rfl) | rfl <;> decide

/-! ## Trimming -/

def trimFront (s : List Char) : List Char := s.dropWhile isBlank

/-- The text without the blanks at its front and at its end. -/
def trim (s : List Char) : List Char := (trimFront (trimFront s).reverse).reverse

/-! ## Fields -/

/-- The maximal runs of characters that are not blank, in order. A character
joins the run that starts right behind it, and starts a run of its own when a
blank or the end of the text follows. -/
def fields : List Char → List (List Char)
  | [] => []
  | c :: rest =>
    if isBlank c then fields rest
    else if rest.head?.all isBlank then [c] :: fields rest
    else match fields rest with
      | [] => [[c]]
      | run :: more => (c :: run) :: more

/-- A blank in front of a text changes none of its fields. -/
@[simp]
theorem fields_cons_blank {c : Char} (h : isBlank c = true) (s : List Char) :
    fields (c :: s) = fields s := by
  simp [fields, h]

theorem ne_nil_of_mem_fields {s f : List Char} (h : f ∈ fields s) : f ≠ [] := by
  induction s generalizing f with
  | nil => simp [fields] at h
  | cons c rest ih =>
    rw [fields] at h
    split at h
    · exact ih h
    · split at h
      · rcases List.mem_cons.1 h with rfl | h
        · simp
        · exact ih h
      · split at h
        · simp_all
        · next run more heq =>
          rcases List.mem_cons.1 h with rfl | h
          · simp
          · exact ih (heq ▸ List.mem_cons_of_mem _ h)

end CountingHouse.Text
