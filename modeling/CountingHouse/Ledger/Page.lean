/-
Pages of a listing.

Pages are numbered from one and hold five to ten rows. A page is accepted only if
the number of rows in front of it can be stored. The offset of a page that was
never checked stops at the ends of the stored integers.
-/
import CountingHouse.Failure.BankError

set_option autoImplicit false

namespace CountingHouse

/-- A page of a listing. -/
structure Page where
  number : Int
  size : Int
  deriving DecidableEq, Repr

namespace Page

def leastSize : Int := 5

def greatestSize : Int := 10

/-- The page of that number and size, if there is one. -/
def new (number size : Int) : Except BankError Page :=
  if number < 1 then Violation.pageIdTooSmall.refuse
  else if size < leastSize ∨ greatestSize < size then
    (Violation.pageSizeOutOfBounds leastSize greatestSize).refuse
  else if IsStored ((number - 1) * size) then .ok ⟨number, size⟩
  else Violation.pageIdOutOfRange.refuse

def limit (p : Page) : Int := p.size

def offset (p : Page) : Int :=
  max leastStored (min greatestStored ((p.number - 1) * p.size))

/-- The rows of a listing from an offset on, up to a limit. Negative bounds count as zero. -/
def select {α : Type} (limit offset : Int) (rows : List α) : List α :=
  (rows.drop offset.toNat).take limit.toNat

def toJson (p : Page) : Json :=
  .ofFields [("page_id", .ofInt p.number), ("page_size", .ofInt p.size)]

def ofJson? (j : Json) : Option Page := do
  match ← j.record? ["page_id", "page_size"] 0 with
  | [number, size] =>
    (new (← Json.required? Json.stored? number) (← Json.required? Json.stored? size)).toOption
  | _ => none

end Page

end CountingHouse
