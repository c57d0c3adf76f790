/-
What a table of rates keeps from row to row.

A table is filed by pairs and changed by numbers. Both agree as long as no pair and no number
occurs twice and each row is about the pair under which it is filed (`RateTable.Sound`). All that
one call can write is a new row for a pair that has none, or another rate in the one row of a
number (`RateTable.Writes`); that a table stays sound has just these two cases.

What is on file is compared with the rows that were answered to those who wrote them. The row of
a pair is the last of them that is about it (`RateTable.Tracks`), and there is none if none of
them is.
-/
import CountingHouse.Proofs.Rates.Table

set_option autoImplicit false

namespace CountingHouse

/-! ## Pairs -/

namespace CurrencyPair

variable {p q : CurrencyPair}

/-- A pair is its two currencies in their order. -/
theorem eq_of_currencies_eq (hbase : p.base = q.base) (htarget : p.target = q.target) : p = q := by
  obtain ⟨base, target, hp⟩ := p
  obtain ⟨base', target', hq⟩ := q
  cases hbase
  cases htarget
  rfl

/-- There are twelve pairs. -/
theorem length_le_of_nodup {pairs : List CurrencyPair} (h : pairs.Nodup) : pairs.length ≤ 12 := by
  let currencies := fun p : CurrencyPair => (p.base, p.target)
  have hinjective : Function.Injective currencies := fun p q hsame =>
    eq_of_currencies_eq (congrArg Prod.fst hsame) (congrArg Prod.snd hsame)
  have hsubset : pairs.map currencies
      ⊆ (Currency.all.product Currency.all).filter fun c => c.1 ≠ c.2 := by
    intro c hc
    obtain ⟨p, -, rfl⟩ := List.mem_map.mp hc
    refine List.mem_filter.mpr ⟨?_, decide_eq_true p.base_ne_target⟩
    exact List.mem_product.mpr ⟨p.base.mem_all, p.target.mem_all⟩
  have hlength := ((h.map hinjective).subperm hsubset).length_le
  rw [List.length_map] at hlength
  exact hlength

end CurrencyPair

/-- Whether a row is about a pair. -/
def ExchangeRate.IsFor (row : ExchangeRate) (pair : CurrencyPair) : Prop :=
  row.base = pair.base ∧ row.target = pair.target

instance (row : ExchangeRate) (pair : CurrencyPair) : Decidable (row.IsFor pair) :=
  inferInstanceAs (Decidable (_ ∧ _))

/-- A row is for one pair only. -/
theorem ExchangeRate.IsFor.unique {row : ExchangeRate} {p q : CurrencyPair} (hp : row.IsFor p)
    (hq : row.IsFor q) : p = q :=
  CurrencyPair.eq_of_currencies_eq (hp.1.symm.trans hq.1) (hp.2.symm.trans hq.2)

/-! ## Tables -/

/-- What is found in a list behind the key that stands in its middle, and only there. -/
theorem lookup_middle {κ β : Type} [DecidableEq κ] {before after : List (κ × β)} {k p : κ} {v : β}
    (hfresh : k ∉ before.map Prod.fst) :
    (before ++ (k, v) :: after).lookup p
      = if p = k then some v else (before ++ after).lookup p := by
  rw [List.lookup_append, List.lookup_append, List.lookup_cons]
  by_cases hp : p = k
  · have hnone : before.lookup k = none := by
      refine List.lookup_eq_none_iff.mpr fun entry hentry => bne_iff_ne.mpr fun hk => hfresh ?_
      rw [hk]
      exact List.mem_map_of_mem hentry
    subst hp
    rw [hnone, if_pos rfl, beq_self_eq_true]
    rfl
  · rw [if_neg hp, beq_false_of_ne hp]

namespace RateTable

variable {t t' : RateTable} {pair p : CurrencyPair} {row : ExchangeRate}
variable {before after : List (CurrencyPair × ExchangeRate)} {log rows : List ExchangeRate}

/-- What holds of a table at all times. -/
structure Sound (t : RateTable) : Prop where
  pairs : (t.rows.map Prod.fst).Nodup
  ids : (t.rows.map fun entry => entry.2.id).Nodup
  numbers : ∀ entry ∈ t.rows, 1 ≤ entry.2.id.number ∧ entry.2.id.number < t.nextId
  next : t.nextId = t.rows.length + 1
  filed : ∀ entry ∈ t.rows, entry.2.IsFor entry.1
  positive : t.Positive

/-- A table starts sound, since there is nothing in it. -/
theorem sound_empty : empty.Sound where
  pairs := List.nodup_nil
  ids := List.nodup_nil
  numbers := fun _ hentry => absurd hentry List.not_mem_nil
  next := rfl
  filed := fun _ hentry => absurd hentry List.not_mem_nil
  positive := positive_empty

/-- The first row of a pair. -/
def firstRow (t : RateTable) (pair : CurrencyPair) (rate : Decimal) (now : Instant) :
    ExchangeRate := ⟨⟨t.nextId⟩, pair.base, pair.target, rate, now, now⟩

/-- All that one call can do to a table, and the rows that it answers for having written them. -/
inductive Writes (t t' : RateTable) : List ExchangeRate → Prop
  | nothing (h : t' = t) : Writes t t' []
  | enters (pair : CurrencyPair) (rate : Decimal) (now : Instant) (hrate : rate.isPositive = true)
      (hnone : t.current? pair = none) (h : t' = t.enter pair (t.firstRow pair rate now)) :
      Writes t t' [t.firstRow pair rate now]
  | replaces (before : List (CurrencyPair × ExchangeRate)) (pair : CurrencyPair)
      (old : ExchangeRate) (after : List (CurrencyPair × ExchangeRate)) (rate : Decimal)
      (now : Instant) (hrate : rate.isPositive = true)
      (hrows : t.rows = before ++ (pair, old) :: after)
      (h : t' = { t with
        rows := before ++ (pair, { old with rate, updatedAt := now }) :: after }) :
      Writes t t' [{ old with rate, updatedAt := now }]

/-- A pair without a current rate is not among those of the table. -/
theorem notMem_pairs (hnone : t.current? pair = none) : pair ∉ t.rows.map Prod.fst := by
  intro hpair
  obtain ⟨entry, hentry, rfl⟩ := List.mem_map.mp hpair
  exact bne_iff_ne.mp (List.lookup_eq_none_iff.mp hnone entry hentry) rfl

/-- The next identifier is not in use. -/
theorem Sound.notMem_ids (h : t.Sound) : ⟨t.nextId⟩ ∉ t.rows.map fun entry => entry.2.id := by
  intro hid
  obtain ⟨entry, hentry, hsame⟩ := List.mem_map.mp hid
  have hbelow := (h.numbers entry hentry).2
  rw [hsame] at hbelow
  exact Int.lt_irrefl _ hbelow

/-- A row that is entered is the current one of its pair, and the other pairs keep theirs. -/
theorem current?_enter (hnone : t.current? pair = none) :
    (t.enter pair row).current? p = if p = pair then some row else t.current? p := by
  have hfresh := notMem_pairs hnone
  have hlookup : (t.rows ++ [(pair, row)]).lookup p
      = if p = pair then some row else (t.rows ++ []).lookup p := lookup_middle hfresh
  rw [List.append_nil] at hlookup
  exact hlookup

/-- A row that is replaced in its place is the current one of its pair, and the other pairs keep
theirs. -/
theorem current?_middle (h : t.Sound) {old : ExchangeRate}
    (hrows : t.rows = before ++ (pair, old) :: after) :
    ({ t with rows := before ++ (pair, row) :: after } : RateTable).current? p
      = if p = pair then some row else t.current? p := by
  have hpairs := h.pairs
  rw [hrows, List.map_append, List.map_cons, List.nodup_middle] at hpairs
  have hfresh : pair ∉ before.map Prod.fst :=
    fun hpair => (List.nodup_cons.mp hpairs).1 (List.mem_append_left _ hpair)
  have hold : t.current? p = if p = pair then some old else (before ++ after).lookup p := by
    unfold current?
    rw [hrows]
    exact lookup_middle hfresh
  have hnew : (before ++ (pair, row) :: after).lookup p
      = if p = pair then some row else (before ++ after).lookup p := lookup_middle hfresh
  -- both tables agree outside the pair, because both agree with the rows around it
  refine hnew.trans ?_
  rw [hold]
  by_cases hp : p = pair
  · rw [if_pos hp, if_pos hp]
  · rw [if_neg hp, if_neg hp, if_neg hp]

/-- The row in the middle is one of the table. -/
theorem mem_rows_of_middle {old : ExchangeRate} (hrows : t.rows = before ++ (pair, old) :: after) :
    (pair, old) ∈ t.rows := by
  rw [hrows]
  exact List.mem_append_right _ List.mem_cons_self

/-- Entering a row for a pair that has none keeps a table sound, under the next identifier. -/
theorem Sound.enter (h : t.Sound) {rate : Decimal} (hrate : rate.isPositive = true) (now : Instant)
    (hnone : t.current? pair = none) : (t.enter pair (t.firstRow pair rate now)).Sound := by
  have hmem : ∀ entry ∈ (t.enter pair (t.firstRow pair rate now)).rows,
      entry ∈ t.rows ∨ entry = (pair, t.firstRow pair rate now) := by
    intro entry hentry
    exact (List.mem_append.mp hentry).imp_right List.mem_singleton.mp
  -- the table grows at its end, by a row under a new pair and the next number
  constructor
  case pairs =>
    have hpairs : ((t.enter pair (t.firstRow pair rate now)).rows.map Prod.fst)
        = t.rows.map Prod.fst ++ [pair] := List.map_append
    rw [hpairs]
    exact h.pairs.append (List.nodup_singleton _)
      (List.disjoint_singleton.mpr (notMem_pairs hnone))
  case ids =>
    have hids : ((t.enter pair (t.firstRow pair rate now)).rows.map fun entry => entry.2.id)
        = (t.rows.map fun entry => entry.2.id) ++ [⟨t.nextId⟩] := List.map_append
    rw [hids]
    exact h.ids.append (List.nodup_singleton _) (List.disjoint_singleton.mpr h.notMem_ids)
  case numbers =>
    intro entry hentry
    have hnext : (t.enter pair (t.firstRow pair rate now)).nextId = t.nextId + 1 := rfl
    rw [hnext]
    rcases hmem entry hentry with hold | rfl
    · have hnumber := h.numbers entry hold
      omega
    · have hnumber : (t.firstRow pair rate now).id.number = t.nextId := rfl
      rw [hnumber, h.next]
      omega
  case next =>
    change t.nextId + 1 = ((t.rows ++ [_]).length : Int) + 1
    rw [List.length_append, List.length_singleton, h.next]
    rfl
  case filed =>
    intro entry hentry
    rcases hmem entry hentry with hold | rfl
    · exact h.filed entry hold
    · exact ⟨rfl, rfl⟩
  case positive =>
    intro entry hentry
    rcases hmem entry hentry with hold | rfl
    · exact h.positive entry hold
    · exact hrate

/-- Putting another positive rate in a row keeps a table sound: pair, identifier and place are as
they were. -/
theorem Sound.replaces (h : t.Sound) {old : ExchangeRate} {rate : Decimal} (now : Instant)
    (hrate : rate.isPositive = true) (hrows : t.rows = before ++ (pair, old) :: after) :
    ({ t with rows := before ++ (pair, { old with rate, updatedAt := now }) :: after }
      : RateTable).Sound := by
  have hold := mem_rows_of_middle hrows
  have hkept : ∀ entry ∈ before ++ (pair, { old with rate, updatedAt := now }) :: after,
      entry ∈ t.rows ∨ entry = (pair, { old with rate, updatedAt := now }) := by
    intro entry hentry
    rw [hrows]
    rcases List.mem_append.mp hentry with hbefore | hentry
    · exact .inl (List.mem_append_left _ hbefore)
    · rcases List.mem_cons.mp hentry with rfl | hafter
      · exact .inr rfl
      · exact .inl (List.mem_append_right _ (List.mem_cons_of_mem _ hafter))
  -- pairs, identifiers and length are read off lists the replacement does not change; the rest is
  -- asked of each row, and the new one keeps all but the rate of the old
  constructor
  case pairs =>
    have hpairs := h.pairs
    rw [hrows, List.map_append] at hpairs
    rw [List.map_append]
    exact hpairs
  case ids =>
    have hids := h.ids
    rw [hrows, List.map_append] at hids
    rw [List.map_append]
    exact hids
  case numbers =>
    intro entry hentry
    rcases hkept entry hentry with hentry | rfl
    · exact h.numbers entry hentry
    · exact h.numbers (pair, old) hold
  case next =>
    have hnext := h.next
    rw [hrows, List.length_append, List.length_cons] at hnext
    rw [List.length_append, List.length_cons]
    exact hnext
  case filed =>
    intro entry hentry
    rcases hkept entry hentry with hentry | rfl
    · exact h.filed entry hentry
    · exact h.filed (pair, old) hold
  case positive =>
    intro entry hentry
    rcases hkept entry hentry with hentry | rfl
    · exact h.positive entry hentry
    · exact hrate

/-- All that one call can do to a table keeps it sound. -/
theorem Sound.writes (h : t.Sound) (hwrites : t.Writes t' rows) : t'.Sound := by
  cases hwrites with
  | nothing hsame =>
    rw [hsame]
    exact h
  | enters pair rate now hrate hnone henter =>
    rw [henter]
    exact h.enter hrate now hnone
  | replaces before pair old after rate now hrate hrows hreplaced =>
    rw [hreplaced]
    exact h.replaces now hrate hrows

/-- Only one row has a number, so that only one is replaced. -/
theorem Sound.exists_middle (h : t.Sound) {id : RateId} {entry : CurrencyPair × ExchangeRate}
    (hfind : t.rows.find? (fun entry => entry.2.id == id) = some entry) :
    ∃ before after, t.rows = before ++ entry :: after ∧ entry.2.id = id
      ∧ (∀ other ∈ before ++ after, other.2.id ≠ id)
      ∧ ∀ row, t.replace id row = { t with rows := before ++ (entry.1, row) :: after } := by
  obtain ⟨hmatch, before, after, hrows, -⟩ := List.find?_eq_some_iff_append.mp hfind
  have hid := eq_of_beq hmatch
  -- a second row with the identifier would make it occur twice
  have hothers : ∀ other ∈ before ++ after, other.2.id ≠ id := by
    have hids := h.ids
    rw [hrows, List.map_append, List.map_cons, List.nodup_middle, hid, ← List.map_append] at hids
    intro other hother hsame
    refine (List.nodup_cons.mp hids).1 ?_
    rw [← hsame]
    exact List.mem_map_of_mem hother
  refine ⟨before, after, hrows, hid, hothers, fun row => ?_⟩
  -- rows with other identifiers pass through the replacement unchanged
  have hkept : ∀ rows : List (CurrencyPair × ExchangeRate), (∀ other ∈ rows, other.2.id ≠ id) →
      (rows.map fun entry => if entry.2.id == id then (entry.1, row) else entry) = rows := by
    intro rows hrows
    refine Eq.trans (List.map_congr_left (g := fun other => other) ?_) (List.map_id' rows)
    exact fun other hother => if_neg (mt eq_of_beq (hrows other hother))
  unfold replace
  rw [hrows, List.map_append, List.map_cons, if_pos (beq_iff_eq.mpr hid),
    hkept before fun other hother => hothers other (List.mem_append_left _ hother),
    hkept after fun other hother => hothers other (List.mem_append_right _ hother)]

/-! ## What was written last -/

/-- The last of some rows that is about a pair. -/
def lastFor (pair : CurrencyPair) (log : List ExchangeRate) : Option ExchangeRate :=
  log.reverse.find? fun row => row.IsFor pair

/-- The row that is written now is the last one of its pair. -/
theorem lastFor_concat (pair : CurrencyPair) (log : List ExchangeRate) (row : ExchangeRate) :
    lastFor pair (log ++ [row]) = if row.IsFor pair then some row else lastFor pair log := by
  unfold lastFor
  rw [List.reverse_concat, List.find?_cons]
  by_cases h : row.IsFor pair
  · rw [if_pos h, decide_eq_true h]
  · rw [if_neg h, decide_eq_false h]

/-- Whether the row of each pair is the last one that was written for it. -/
def Tracks (t : RateTable) (log : List ExchangeRate) : Prop :=
  ∀ pair, t.current? pair = lastFor pair log

/-- An empty table goes with an empty log. -/
theorem tracks_empty : empty.Tracks [] := fun _ => rfl

/-- A table goes with its log still when a row is logged that is now the current one of its pair,
and no other pair has changed. -/
theorem Tracks.concat (h : t.Tracks log) (hrow : row.IsFor pair)
    (hcurrent : ∀ p, t'.current? p = if p = pair then some row else t.current? p) :
    t'.Tracks (log ++ [row]) := by
  intro p
  rw [hcurrent, lastFor_concat, h p]
  by_cases hp : p = pair
  · subst hp
    rw [if_pos rfl, if_pos hrow]
  · -- a row is about one pair only, so this one is not in question for another
    rw [if_neg hp, if_neg fun hfor => hp (hfor.unique hrow)]

/-- All that one call can do to a table is told by the rows that it answers for. -/
theorem Tracks.writes (h : t.Tracks log) (hsound : t.Sound) (hwrites : t.Writes t' rows) :
    t'.Tracks (log ++ rows) := by
  cases hwrites with
  | nothing hsame =>
    rw [hsame, List.append_nil]
    exact h
  | enters pair rate now hrate hnone henter =>
    rw [henter]
    exact h.concat ⟨rfl, rfl⟩ fun p => current?_enter hnone
  | replaces before pair old after rate now hrate hrows hreplaced =>
    have hfor : ({ old with rate, updatedAt := now } : ExchangeRate).IsFor pair :=
      hsound.filed (pair, old) (mem_rows_of_middle hrows)
    rw [hreplaced]
    exact h.concat hfor fun p => current?_middle hsound hrows

/-! ## Lists -/

/-- The list of a table has each row once, in the order of the numbers. -/
theorem Sound.list (h : t.Sound) :
    t.list.Perm (t.rows.map Prod.snd)
      ∧ t.list.Pairwise fun a b => a.id.number < b.id.number := by
  have hperm : t.list.Perm (t.rows.map Prod.snd) := List.mergeSort_perm _ _
  have hsorted : t.list.Pairwise fun a b => a.id.number ≤ b.id.number := by
    have hle : t.list.Pairwise fun a b => decide (a.id.number ≤ b.id.number) = true := by
      refine List.pairwise_mergeSort (fun a b c hab hbc => ?_) (fun a b => ?_) _
      · rw [decide_eq_true_eq] at hab hbc ⊢
        exact hab.trans hbc
      · rw [Bool.or_eq_true, decide_eq_true_eq, decide_eq_true_eq]
        exact Int.le_total _ _
    exact hle.imp fun hab => of_decide_eq_true hab
  have hdistinct : t.list.Pairwise fun a b => a.id ≠ b.id := by
    have hids : (t.rows.map Prod.snd).Pairwise fun a b => a.id ≠ b.id := by
      refine List.pairwise_map.mp ?_
      rw [List.map_map]
      exact h.ids
    exact (hperm.pairwise_iff fun hne => hne.symm).mpr hids
  refine ⟨hperm, (hsorted.and hdistinct).imp fun ⟨hle, hne⟩ => lt_of_le_of_ne hle fun hsame => ?_⟩
  exact hne (congrArg RateId.mk hsame)

end RateTable

end CountingHouse
