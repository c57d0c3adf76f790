/-
Pages of a listing, one after the other.

A page is accepted if its number and its size are in bounds and the number of rows in front of
it can be stored, and then it shows exactly the rows that its number says. So whoever turns the
pages of a listing from the first one until one is empty (`Turned`) has seen every row once, in
the order of the listing; and there is such a page, as long as its offset can be stored.
-/
import CountingHouse.Ledger.Page
import Mathlib.Data.List.Basic
import Mathlib.Data.Nat.Find
import Mathlib.Order.Lattice

set_option autoImplicit false

namespace CountingHouse

namespace Page

variable {α : Type} {number size : Int} {p : Page} {rows : List α}

/-! ## One page -/

/-- A page is accepted exactly if number and size are within their bounds and its offset can be
stored. -/
theorem new_eq_ok_iff :
    new number size = .ok p ↔ p = ⟨number, size⟩ ∧ 1 ≤ number ∧ leastSize ≤ size ∧
      size ≤ greatestSize ∧ IsStored ((number - 1) * size) := by
  unfold new
  -- the three checks in their order
  by_cases hnumber : number < 1
  · rw [if_pos hnumber]
    constructor
    · intro h
      cases h
    · rintro ⟨-, hone, -⟩
      omega
  · rw [if_neg hnumber]
    by_cases hsize : size < leastSize ∨ greatestSize < size
    · rw [if_pos hsize]
      constructor
      · intro h
        cases h
      · rintro ⟨-, -, hleast, hgreatest, -⟩
        omega
    · rw [if_neg hsize]
      by_cases hstored : IsStored ((number - 1) * size)
      · rw [if_pos hstored]
        constructor
        · intro h
          exact ⟨(Except.ok.inj h).symm, by omega, by omega, by omega, hstored⟩
        · rintro ⟨rfl, -⟩
          rfl
      · rw [if_neg hstored]
        constructor
        · intro h
          cases h
        · rintro ⟨-, -, -, -, h⟩
          exact absurd h hstored

/-- The offset of an accepted page is the number of rows in front of it. -/
theorem offset_of_new (h : new number size = .ok p) : p.offset = (number - 1) * size := by
  obtain ⟨rfl, -, -, -, hleast, hgreatest⟩ := new_eq_ok_iff.mp h
  unfold offset
  rw [min_eq_right hgreatest, max_eq_right hleast]

/-- A page holds at least one row, so going through the pages gets somewhere. -/
theorem pos_of_new (h : new number size = .ok p) : 0 < size := by
  obtain ⟨-, -, hleast, -⟩ := new_eq_ok_iff.mp h
  have hpos : 0 < leastSize := by decide
  omega

/-- What a page shows of a listing. -/
theorem select_of_new {k : Nat} (h : new (k + 1) size = .ok p) (rows : List α) :
    select p.limit p.offset rows = (rows.drop (k * size.toNat)).take size.toNat := by
  have hoffset : p.offset.toNat = k * size.toNat := by
    have hsize : size = (size.toNat : Int) := (Int.toNat_of_nonneg (pos_of_new h).le).symm
    rw [offset_of_new h, Int.add_sub_cancel, hsize, ← Int.natCast_mul, Int.toNat_natCast,
      Int.toNat_natCast]
  have hlimit : p.limit = size := by
    obtain ⟨rfl, -⟩ := new_eq_ok_iff.mp h
    rfl
  unfold select
  rw [hoffset, hlimit]

/-! ## All pages -/

/-- Pages of one size that are read from the first one on, until one is empty. What a page
says is up to `answers`. -/
structure Turned (size : Int) (answers : Page → List α → Prop) (pages : List (List α)) : Prop where
  full : ∀ (k : Nat) shown, pages[k]? = some shown →
    shown ≠ [] ∧ ∃ p, new (k + 1) size = .ok p ∧ answers p shown
  empty : ∃ p, new (pages.length + 1) size = .ok p ∧ answers p []

/-- Consecutive pieces of equal size are a front of the rows, up to the end of the last piece. -/
theorem flatten_chunks (rows : List α) (n k : Nat) :
    ((List.range k).map fun i => (rows.drop (i * n)).take n).flatten = rows.take (k * n) := by
  induction k with
  | zero => simp
  | succ k ih =>
    rw [List.range_succ, List.map_append, List.flatten_append, ih, Nat.succ_mul, List.take_add]
    simp

variable {answers : Page → List α → Prop} {pages : List (List α)}

/-- Whoever has turned all pages has seen every row once, in its place. -/
theorem Turned.flatten_eq (h : Turned size answers pages)
    (hanswers : ∀ number p shown, new number size = .ok p → answers p shown →
      shown = select p.limit p.offset rows) : pages.flatten = rows := by
  have hshown : ∀ k p shown, new ((k : Nat) + 1) size = .ok p → answers p shown →
      shown = (rows.drop (k * size.toNat)).take size.toNat := by
    intro k p shown hnew hanswer
    rw [hanswers _ p shown hnew hanswer, select_of_new hnew]
  have hpages : pages = (List.range pages.length).map fun i =>
      (rows.drop (i * size.toNat)).take size.toNat := by
    refine List.ext_getElem? fun k => ?_
    rcases hk : pages[k]? with _ | shown
    · have hlength : pages.length ≤ k := List.getElem?_eq_none_iff.mp hk
      rw [eq_comm, List.getElem?_eq_none_iff, List.length_map, List.length_range]
      exact hlength
    · obtain ⟨hlt, -⟩ := List.getElem?_eq_some_iff.mp hk
      obtain ⟨-, p, hnew, hanswer⟩ := h.full k shown hk
      rw [List.getElem?_map, List.getElem?_range hlt, Option.map_some,
        hshown k p shown hnew hanswer]
  -- the empty page says that there is nothing left
  have hlength : rows.length ≤ pages.length * size.toNat := by
    obtain ⟨p, hnew, hanswer⟩ := h.empty
    have hpos : 0 < size := pos_of_new hnew
    have hnone := congrArg List.length (hshown pages.length p [] hnew hanswer)
    rw [List.length_nil, List.length_take, List.length_drop] at hnone
    omega
  rw [hpages, flatten_chunks, List.take_of_length_le hlength]

/-- There is an empty page, if the number of rows in front of it can be stored. -/
theorem exists_turned (hleast : leastSize ≤ size) (hgreatest : size ≤ greatestSize)
    (hroom : IsStored (rows.length + size))
    (hanswers : ∀ number p, new number size = .ok p →
      answers p (select p.limit p.offset rows)) : ∃ pages, Turned size answers pages := by
  have hpos : 0 < size.toNat := by
    have h : 0 < leastSize := by decide
    omega
  have hsize : size = (size.toNat : Int) := by omega
  -- so many pages are not empty
  have henough : ∃ count, rows.length ≤ count * size.toNat :=
    ⟨rows.length, Nat.le_mul_of_pos_right _ hpos⟩
  obtain ⟨count, hcount, hleastCount⟩ : ∃ count, rows.length ≤ count * size.toNat ∧
      ∀ k < count, k * size.toNat < rows.length := by
    refine ⟨Nat.find henough, Nat.find_spec henough, ?_⟩
    intro k hk
    exact Nat.not_le.mp (Nat.find_min henough hk)
  have hbound : count * size.toNat ≤ rows.length + size.toNat := by
    rcases count with _ | last
    · omega
    · have hlast := hleastCount last (Nat.lt_succ_self last)
      rw [Nat.succ_mul]
      omega
  have hnew : ∀ k ≤ count, ∃ p, new ((k : Nat) + 1) size = .ok p := by
    intro k hk
    refine ⟨_, new_eq_ok_iff.mpr ⟨rfl, by omega, hleast, hgreatest, ?_⟩⟩
    have hle : k * size.toNat ≤ count * size.toNat := Nat.mul_le_mul_right _ hk
    have hoffset : ((k : Int) + 1 - 1) * size = ((k * size.toNat : Nat) : Int) := by
      rw [Int.add_sub_cancel, Int.natCast_mul, ← hsize]
    rw [hoffset]
    unfold IsStored at hroom ⊢
    have hneg : leastStored ≤ 0 := by decide
    omega
  refine ⟨(List.range count).map fun i => (rows.drop (i * size.toNat)).take size.toNat, ?_, ?_⟩
  · intro k shown hk
    rw [List.getElem?_map, Option.map_eq_some_iff] at hk
    obtain ⟨i, hi, rfl⟩ := hk
    obtain ⟨hlt, hik⟩ := List.getElem?_eq_some_iff.mp hi
    rw [List.getElem_range] at hik
    subst hik
    rw [List.length_range] at hlt
    constructor
    · have hrest := hleastCount k hlt
      have hlength : ((rows.drop (k * size.toNat)).take size.toNat).length ≠ 0 := by
        rw [List.length_take, List.length_drop]
        omega
      exact fun hnil => hlength (List.length_eq_zero_iff.mpr hnil)
    · obtain ⟨p, hp⟩ := hnew k (Nat.le_of_lt hlt)
      refine ⟨p, hp, ?_⟩
      rw [← select_of_new hp]
      exact hanswers _ p hp
  · rw [List.length_map, List.length_range]
    obtain ⟨p, hp⟩ := hnew count (Nat.le_refl _)
    refine ⟨p, hp, ?_⟩
    have hnil : (rows.drop (count * size.toNat)).take size.toNat = [] := by
      rw [List.drop_of_length_le hcount, List.take_nil]
    rw [← hnil, ← select_of_new hp]
    exact hanswers _ p hp

end Page

end CountingHouse
