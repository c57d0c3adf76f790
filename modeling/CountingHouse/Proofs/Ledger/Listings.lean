/-
What is shown is cut from one listing.

The accounts of an owner are kept in the order of their numbers. Transfers are not: a number is
drawn when a transfer is recorded, and units are committed in any order, so the journal has to be
sorted before it is shown. Either way there is one listing, which is all that was asked for, each
row once, in the strict order of the numbers (`IsListing`); there is no second one, and the pages
of any size are cut from it where their numbers say (`Page.Cuts`). Put one behind the other they
are its front.

Nothing else is needed for that than that numbers are not used twice (`Ledger.Filed`), which holds
of a ledger whatever was done to it.
-/
import CountingHouse.Proofs.Desk.Operations
import CountingHouse.Proofs.Ledger.Days
import CountingHouse.Proofs.Ledger.Numbers
import CountingHouse.Proofs.Ledger.Paging

set_option autoImplicit false

namespace CountingHouse

/-! ## Listings -/

/-- All of some rows, in the strict order of their numbers. -/
structure IsListing {α : Type} (number : α → Int) (rows listing : List α) : Prop where
  complete : listing.Perm rows
  ascending : listing.Pairwise fun a b => number a < number b

section Listings

variable {α : Type} {number : α → Int} {rows listing listing' : List α}

/-- Rows have one listing. -/
theorem IsListing.unique (h : IsListing number rows listing)
    (h' : IsListing number rows listing') : listing = listing' := by
  refine List.Perm.eq_of_pairwise ?_ h.ascending h'.ascending (h.complete.trans h'.complete.symm)
  intro a b _ _ hab hba
  exact absurd hab (Int.lt_asymm hba)

/-- Rows that are in order list themselves. -/
theorem isListing_filter (h : rows.Pairwise fun a b => number a < number b) (p : α → Bool) :
    IsListing number (rows.filter p) (rows.filter p) :=
  ⟨.refl _, h.sublist List.filter_sublist⟩

/-- Sorting makes a listing of rows whose numbers are different. -/
theorem isListing_mergeSort (h : (rows.map number).Nodup) :
    IsListing number rows (rows.mergeSort fun a b => number a ≤ number b) := by
  have hperm := List.mergeSort_perm rows fun a b => number a ≤ number b
  have hsorted : (rows.mergeSort fun a b => number a ≤ number b).Pairwise
      fun a b => number a ≤ number b := by
    apply List.Pairwise.imp of_decide_eq_true
    apply List.pairwise_mergeSort
    · intro a b c hab hbc
      simp only [decide_eq_true_eq] at hab hbc ⊢
      omega
    · intro a b
      simp only [Bool.or_eq_true, decide_eq_true_eq]
      omega
  have hdistinct : (rows.mergeSort fun a b => number a ≤ number b).Pairwise
      fun a b => number a ≠ number b :=
    List.pairwise_map.mp ((hperm.map number).nodup_iff.mpr h)
  refine ⟨hperm, (hsorted.and hdistinct).imp ?_⟩
  rintro a b ⟨hle, hne⟩
  exact Int.lt_iff_le_and_ne.mpr ⟨hle, hne⟩

end Listings

/-! ## Pages of a listing -/

namespace Page

variable {α : Type} {number size : Int} {p : Page} {pages : List Page} {listing : List α}

/-- The pages of a size from the first one on. -/
def AreFirst (size : Int) (pages : List Page) : Prop :=
  ∀ (k : Nat) p, pages[k]? = some p → new (k + 1) size = .ok p

/-- What pages show, where they are cut from a listing. -/
structure Cuts (listing : List α) (shown : Page → List α) : Prop where
  /-- A page shows the rows from its offset up to the offset of the next page. -/
  page : ∀ number size p, new number size = .ok p →
    shown p = listing.extract ((number - 1) * size).toNat (number * size).toNat
  /-- The first pages show as many rows of the listing as they have room for, or all of it. -/
  first : ∀ size pages, AreFirst size pages →
    pages.flatMap shown = listing.take (pages.length * size.toNat)

/-- A page is accepted if its number is positive, its size is from 5 to 10 and the rows in front of
it can be counted in 64 bits. -/
theorem accepted_iff : (∃ p, new number size = .ok p)
    ↔ 1 ≤ number ∧ 5 ≤ size ∧ size ≤ 10 ∧ (number - 1) * size ≤ greatestStored := by
  simp only [new_eq_ok_iff]
  constructor
  · rintro ⟨_, -, hone, hleast, hgreatest, -, hstored⟩
    exact ⟨hone, hleast, hgreatest, hstored⟩
  · rintro ⟨hone, hleast, hgreatest, hstored⟩
    -- no offset is too small, since none is negative
    have hnonneg : 0 ≤ (number - 1) * size := Int.mul_nonneg (by omega) (by omega)
    have hneg : leastStored ≤ 0 := by decide
    exact ⟨_, rfl, hone, hleast, hgreatest, Int.le_trans hneg hnonneg, hstored⟩

/-- A page holds as many rows as was asked for. -/
theorem limit_of_new (h : new number size = .ok p) : p.limit = size := by
  obtain ⟨rfl, -⟩ := new_eq_ok_iff.mp h
  rfl

/-- Selecting rows by an accepted page cuts the listing. -/
theorem cuts_select (listing : List α) :
    Cuts listing fun p => select p.limit p.offset listing := by
  have hpage : ∀ number size p, new number size = .ok p → select p.limit p.offset listing
      = listing.extract ((number - 1) * size).toNat (number * size).toNat := by
    intro number size p h
    have hwidth : (number * size).toNat - ((number - 1) * size).toNat = size.toNat := by
      have hsucc : number * size = (number - 1) * size + size := by
        rw [Int.sub_mul, Int.one_mul, Int.sub_add_cancel]
      have hnonneg : 0 ≤ (number - 1) * size := by
        obtain ⟨-, hone, -⟩ := new_eq_ok_iff.mp h
        exact Int.mul_nonneg (by omega) (pos_of_new h).le
      have hpos := pos_of_new h
      omega
    rw [select, offset_of_new h, limit_of_new h, List.extract_eq_take_drop, hwidth]
  refine ⟨hpage, fun size pages hpages => ?_⟩
  -- the pages show chunks of one length
  have hchunks : pages.map (fun p => select p.limit p.offset listing)
      = (List.range pages.length).map fun k => (listing.drop (k * size.toNat)).take size.toNat := by
    refine List.ext_getElem? fun k => ?_
    rw [List.getElem?_map, List.getElem?_map]
    rcases hk : pages[k]? with _ | p
    · have hlength : pages.length ≤ k := List.getElem?_eq_none_iff.mp hk
      have hnone : (List.range pages.length)[k]? = none := by
        rw [List.getElem?_eq_none_iff, List.length_range]
        exact hlength
      rw [hnone, Option.map_none, Option.map_none]
    · obtain ⟨hlt, -⟩ := List.getElem?_eq_some_iff.mp hk
      rw [List.getElem?_range hlt, Option.map_some, Option.map_some,
        select_of_new (hpages k p hk)]
  rw [List.flatMap_def, hchunks, flatten_chunks]

end Page

/-! ## What a ledger shows -/

namespace Ledger

variable {l : Ledger} {a : Account} {row : AccountId} {t : Transfer} {ts : List Transfer}

/-- Tables in which numbers are not used twice. The accounts are kept by their numbers. -/
structure Filed (l : Ledger) : Prop where
  accounts : l.accounts.Pairwise fun a b => a.id.number < b.id.number
  transfers : (l.transfers.map Transfer.id).Nodup

/-- So are the tables of every ledger. -/
theorem filed_run_empty (moves : List Move) : (empty.run moves).Filed :=
  ⟨(sound_run_empty moves).ascending, (numbered_run_empty .transfers moves).transfers_nodup⟩

/-- The transfers of a selection are listed by sorting them. -/
theorem isListing_transfers (h : (l.transfers.map Transfer.id).Nodup) (p : Transfer → Bool) :
    IsListing (fun t => t.id.number) (l.transfers.filter p)
      ((l.transfers.filter p).mergeSort fun a b => a.id.number ≤ b.id.number) := by
  refine isListing_mergeSort ?_
  have hids : ((l.transfers.filter p).map Transfer.id).Nodup :=
    h.sublist (List.filter_sublist.map Transfer.id)
  have hinjective : Function.Injective TransferId.number :=
    fun _ _ hnumber => congrArg TransferId.mk hnumber
  have hnumbers := hids.map hinjective
  rw [List.map_map] at hnumbers
  exact hnumbers

/-- The account that is found under the number of one is that one. -/
theorem Filed.account?_of_mem (h : l.Filed) (ha : a ∈ l.accounts) : l.account? a.id = some a :=
  find?_key_of_mem Account.id (ids_nodup_of_ascending h.accounts) ha

/-! ## At the counter -/

/-- The line of a transfer on an account that it touches. -/
def lineOn (row : AccountId) (t : Transfer) : StatementLine := ⟨t, (t.signedAmount? row).getD 0⟩

/-- A transfer that touches an account has a line on it. -/
theorem line_of?_eq (ht : t.touches row = true) :
    StatementLine.of? row t = some (lineOn row t) := by
  rw [← Transfer.isSome_signedAmount?] at ht
  obtain ⟨amount, hamount⟩ := Option.isSome_iff_exists.mp ht
  unfold StatementLine.of? lineOn
  rw [hamount]
  rfl

/-- Transfers that touch an account have a line each. -/
theorem lines_of_touching (h : ∀ t ∈ ts, t.touches row = true) :
    ts.filterMap (StatementLine.of? row) = ts.map (lineOn row) :=
  List.filterMap_eq_map_iff_forall_eq_some.mpr fun t ht => line_of?_eq (h t ht)

/-- A line shows its transfer. -/
theorem transfer_lineOn (row : AccountId) (ts : List Transfer) :
    (ts.map (lineOn row)).map StatementLine.transfer = ts := by
  rw [List.map_map]
  exact List.map_id _

/-- Every transfer on a page of a selection is admitted by it. -/
theorem admits_of_mem_transfersOf {f : TransferSelection} (h : t ∈ l.transfersOf f) :
    f.admits t = true := by
  have hsorted := List.mem_of_mem_drop (List.mem_of_mem_take h)
  exact (List.mem_filter.mp ((List.mergeSort_perm _ _).mem_iff.mp hsorted)).2

/-- The owner of an account is shown the transfers of a page of the selection. -/
theorem Filed.statement_shown {s : Stores} (h : s.ledger.Filed) (ha : a ∈ s.ledger.accounts)
    {request : StatementRequest} {f : TransferSelection} (haccount : request.account = a.id)
    (hselection : request.selection = .ok f) :
    ∃ lines, AccountDesk.statement .memory a.owner request s = (.ok lines, s)
      ∧ lines.map StatementLine.transfer = s.ledger.transfersOf
        { f with limit := request.page.limit, offset := request.page.offset } := by
  have hfound : s.ledger.account? request.account = some a := by
    rw [haccount]
    exact h.account?_of_mem ha
  have hpage : { f with limit := request.page.limit, offset := request.page.offset } = f := by
    obtain ⟨since, before, rfl⟩ := StatementRequest.exists_between hselection
    rfl
  refine ⟨_, AccountDesk.statement_of_owner hfound hselection, ?_⟩
  rw [hpage, lines_of_touching, transfer_lineOn]
  intro t ht
  exact ((StatementRequest.admits_iff hselection).mp (admits_of_mem_transfersOf ht)).1

end Ledger

/-- What pages are, and what they show to those who list accounts and transfers. -/
structure Stores.Paged (s : Stores) : Prop where
  /-- A page is accepted if its number and its size are in bounds and the number of the rows in
  front of it can be stored. -/
  accepted_iff : ∀ number size, (∃ p, Page.new number size = .ok p)
    ↔ 1 ≤ number ∧ 5 ≤ size ∧ size ≤ 10 ∧ (number - 1) * size ≤ greatestStored
  bounds : ∀ number size p, Page.new number size = .ok p →
    p.offset = (number - 1) * size ∧ p.limit = size
  /-- The accounts of an owner have a listing, from which pages of them are cut. -/
  accounts : ∀ owner, ∃ listing,
    IsListing (fun a => a.id.number) (s.ledger.accounts.filter fun a => a.belongsTo owner) listing
      ∧ Page.Cuts listing fun p => s.ledger.accountsOf owner p.limit p.offset
  /-- So have the transfers of a selection. -/
  transfers : ∀ f : TransferSelection, ∃ listing,
    IsListing (fun t => t.id.number) (s.ledger.transfers.filter f.admits) listing
      ∧ Page.Cuts listing fun p =>
        s.ledger.transfersOf { f with limit := p.limit, offset := p.offset }
  /-- At the counter an owner is shown pages of the accounts. -/
  accounts_shown : ∀ owner p, AccountDesk.accounts .memory owner p s
    = (.ok (s.ledger.accountsOf owner p.limit p.offset), s)
  /-- There the owner of an account is shown a line for each transfer of a page. -/
  statement_shown : ∀ a ∈ s.ledger.accounts, ∀ request f, request.account = a.id →
    request.selection = .ok f → ∃ lines,
      AccountDesk.statement .memory a.owner request s = (.ok lines, s)
        ∧ lines.map StatementLine.transfer = s.ledger.transfersOf
          { f with limit := request.page.limit, offset := request.page.offset }

/-- Where numbers are not used twice, whatever is listed is shown in pages that are cut from one
listing. -/
theorem Stores.paged_of_filed {s : Stores} (h : s.ledger.Filed) : s.Paged where
  accepted_iff _ _ := Page.accepted_iff
  bounds _ _ _ hnew := ⟨Page.offset_of_new hnew, Page.limit_of_new hnew⟩
  accounts _ := ⟨_, isListing_filter h.accounts _, Page.cuts_select _⟩
  transfers f := ⟨_, Ledger.isListing_transfers h.transfers f.admits, Page.cuts_select _⟩
  accounts_shown _ _ := rfl
  statement_shown _ ha _ _ haccount hselection := h.statement_shown ha haccount hselection

/-- Six transfers of which the first is committed last: the first page shows the first five of
them, the second page the sixth. -/
theorem Stores.paged_after_late_commit :
    let record (unit : Nat) (amount : Int) : Move :=
      .recordTransfer ⟨unit⟩ ⟨1⟩ ⟨2⟩ amount amount none default
    let moves : List Move := [.begin, .begin, record 0 11, record 1 12, record 1 13, record 1 14,
      record 1 15, record 1 16, .commit ⟨1⟩, .commit ⟨0⟩]
    let s : Stores := ⟨default, Ledger.empty.run moves, {}, {}⟩
    let numbers (ts : List Transfer) : List Int := ts.map fun t => t.id.number
    s.ledger.Filed ∧ numbers s.ledger.transfers = [2, 3, 4, 5, 6, 1]
      ∧ (∃ p, Page.new 2 5 = .ok p
        ∧ numbers (s.ledger.transfersOf ⟨⟨2⟩, none, none, p.limit, p.offset⟩) = [6]) := by
  intro record moves s numbers
  have hfiled : s.ledger.Filed := Ledger.filed_run_empty moves
  have hpaged := paged_of_filed hfiled
  obtain ⟨listing, hlisting, hcuts⟩ := hpaged.transfers ⟨⟨2⟩, none, none, 0, 0⟩
  obtain ⟨p, hp⟩ := (hpaged.accepted_iff 2 5).mpr (by decide)
  let t (number amount : Int) : Transfer := ⟨⟨number⟩, ⟨1⟩, ⟨2⟩, amount, amount, none, default⟩
  have hsorted : listing = [t 1 11, t 2 12, t 3 13, t 4 14, t 5 15, t 6 16] :=
    hlisting.unique ⟨by decide, by decide⟩
  refine ⟨hfiled, rfl, p, hp, ?_⟩
  have hpage := hcuts.page 2 5 p hp
  rw [hsorted] at hpage
  exact congrArg numbers hpage

end CountingHouse
