/-
Texts and records are read back.

How a document settles when it has been written does not matter to whoever reads a text in it:
a control character spells itself, whether it stands there or its code unit does. So the fields
of a record that has been written are read as what they were, if they have different names.

A record can also be read from a document that nobody here has written. Such a document has one
of two shapes: an object, in which the fields are found by their names, or an array of the
values alone.
-/
import CountingHouse.Proofs.Json.RoundTrip

set_option autoImplicit false

namespace CountingHouse.Json

/-! ## Texts -/

/-- A code unit that is no surrogate is a character. -/
theorem characters?_unit_cons {code : Nat} (h : code < 0xD800) (rest : List Piece) :
    characters? (.unit code :: rest) = (characters? rest).map (Char.ofNat code :: ·) := by
  have hhigh : isHighSurrogate code = false := by
    simp only [isHighSurrogate, Bool.and_eq_false_iff, decide_eq_false_iff_not]
    omega
  have hlow : isLowSurrogate code = false := by
    simp only [isLowSurrogate, Bool.and_eq_false_iff, decide_eq_false_iff_not]
    omega
  match rest with
  | [] => simp [characters?, hhigh, hlow]
  | .unit low :: rest => simp [characters?, hhigh, hlow]
  | .char c :: rest => simp [characters?, hhigh, hlow]
  | .stray b :: rest => simp [characters?, hhigh, hlow]

/-- What is read of a text spells the text. -/
theorem characters?_settled (s : List Char) :
    characters? ((pieces s).map Piece.settled) = some s := by
  induction s with
  | nil => rfl
  | cons c s ih =>
    have hcons : (pieces (c :: s)).map Piece.settled
        = Piece.settled (.char c) :: (pieces s).map Piece.settled := rfl
    rw [hcons, Piece.settled]
    by_cases hlong : Piece.isLongControl c = true
    · have hcontrol : c.toNat < 0x20 := by
        simp only [Piece.isLongControl, Bool.and_eq_true, decide_eq_true_eq] at hlong
        exact hlong.1
      rw [if_pos hlong, characters?_unit_cons (by omega), ih, Option.map_some, Char.ofNat_toNat]
    · rw [if_neg hlong, characters?, ih, Option.map_some]

/-- The characters of a text have a written form, whatever they are. -/
theorem isSpelled_pieces (s : List Char) : ∀ x ∈ pieces s, x.IsSpelled := by
  intro x hx
  obtain ⟨c, -, rfl⟩ := List.mem_map.mp hx
  trivial

/-- A text has a written form. -/
theorem isSpelled_ofText (s : String) : (ofText s).IsSpelled := isSpelled_pieces s.toList

/-- A text is read from its string, although some characters come back as code units. -/
theorem text?_settled_ofText (s : String) : text? (ofText s).settled = some s := by
  have hread := characters?_settled s.toList
  simp only [ofText, settled, text?, hread, Option.map_some, String.ofList_toList]

/-- A text is never null, so what is read of one that has been written is there. -/
theorem optional?_ofText {α : Type} {read : Json → Option α} {a : α} {s : String}
    (h : read (ofText s).settled = some a) :
    optional? read (some (ofText s).settled) = some (some a) := by
  unfold ofText settled at h ⊢
  exact congrArg (Option.map some) h

/-! ## Records -/

variable {fields : List (String × Json)}

/-- A record has a written form if its fields have one. -/
theorem isSpelled_ofFields (h : ∀ f ∈ fields, f.2.IsSpelled) : (ofFields fields).IsSpelled := by
  have hmembers : MembersSpelled (fields.map fun f => (pieces f.1.toList, f.2)) := by
    induction fields with
    | nil => trivial
    | cons f fields ih =>
      exact ⟨isSpelled_pieces f.1.toList, h f List.mem_cons_self,
        ih fun g hg => h g (List.mem_cons_of_mem f hg)⟩
  exact hmembers

/-- The fields of a record when it has been written. -/
def settledFields (fields : List (String × Json)) : List (String × Json) :=
  fields.map fun f => (f.1, f.2.settled)

/-- Writing a record does not change the names of its fields. -/
theorem map_fst_settledFields (fields : List (String × Json)) :
    (settledFields fields).map Prod.fst = fields.map Prod.fst := by
  unfold settledFields
  rw [List.map_map]
  rfl

/-- The members of a record that has been written, under their names. -/
theorem mapM_settledMembers (fields : List (String × Json)) :
    (settledMembers (fields.map fun (name, value) => (pieces name.toList, value))).mapM
        (fun (key, value) => do return (String.ofList (← characters? key), value))
      = some (settledFields fields) := by
  induction fields with
  | nil => rfl
  | cons f fields ih =>
    have hkey := characters?_settled f.1.toList
    rw [List.map_cons, settledMembers, List.mapM_cons, ih]
    simp only [hkey, Option.bind_eq_bind, Option.bind_some, String.ofList_toList]
    rfl

/-- Where no name is repeated, each name is looked up as the field it stands on. -/
theorem lookup_of_nodup {l : List (String × Json)} (hnodup : (l.map Prod.fst).Nodup) :
    (l.map Prod.fst).map (fun name => l.lookup name) = l.map fun f => some f.2 := by
  induction l with
  | nil => rfl
  | cons f l ih =>
    rw [List.map_cons, List.nodup_cons] at hnodup
    rw [List.map_cons, List.map_cons, List.map_cons, List.lookup_cons_self]
    congr 1
    rw [← ih hnodup.2]
    refine List.map_congr_left fun name hname => ?_
    have hne : ¬ name = f.1 := fun h => hnodup.1 (h ▸ hname)
    rw [List.lookup_cons, beq_false_of_ne hne]

/-- The fields of a record that has been written are read in their order. -/
theorem record?_settled_ofFields (fields : List (String × Json))
    (hnodup : (fields.map Prod.fst).Nodup) (spare : Nat) :
    record? (fields.map Prod.fst) spare (ofFields fields).settled
      = some (fields.map fun f => some f.2.settled) := by
  rw [← map_fst_settledFields] at hnodup ⊢
  have honce : (((settledFields fields).map Prod.fst).all fun name =>
      (settledFields fields).countP (·.1 == name) ≤ 1) = true := by
    refine List.all_eq_true.mpr fun name _ => decide_eq_true ?_
    have hcount := List.nodup_iff_count_le_one.mp hnodup name
    rw [List.count, List.countP_map] at hcount
    exact hcount
  unfold ofFields
  rw [settled, record?, mapM_settledMembers]
  simp only [Option.bind_eq_bind, Option.bind_some, honce, lookup_of_nodup hnodup]
  unfold settledFields
  rw [List.map_map]
  rfl

/-! ## Shapes of records -/

section Shapes

variable {names : List String} {spare : Nat} {read : List (Option Json)}

/-- All elements have a result exactly if the results, each marked as there, are the list of
results. -/
theorem mapM_eq_some_iff {α β : Type} {f : α → Option β} {l : List α} {l' : List β} :
    l.mapM f = some l' ↔ l.map f = l'.map some := by
  induction l generalizing l' with
  | nil =>
    rw [List.mapM_nil, List.map_nil]
    cases l' <;> simp
  | cons a l ih =>
    rw [List.mapM_cons, List.map_cons]
    cases l' with
    | nil =>
      simp only [Option.bind_eq_bind, Option.bind_eq_some_iff]
      simp
    | cons b l' =>
      simp only [Option.bind_eq_bind, Option.bind_eq_some_iff, Option.pure_def, Option.some.injEq,
        List.cons.injEq, List.map_cons, ← ih]
      constructor
      · rintro ⟨b', hb, rest, hrest, rfl, rfl⟩
        exact ⟨hb, hrest⟩
      · rintro ⟨hb, hrest⟩
        exact ⟨b, hb, l', hrest, rfl, rfl⟩

/-- Whether these are the members of an object under the names that their keys spell. -/
def Spells (members : List (List Piece × Json)) (named : List (String × Json)) : Prop :=
  members.map (fun m => (characters? m.1).map fun key => (String.ofList key, m.2)) = named.map some

/-- The names of an object are what its keys are read as, one after the other; every key has to be
readable. -/
theorem spells_iff {members : List (List Piece × Json)} {named : List (String × Json)} :
    Spells members named
      ↔ members.mapM (fun m => (characters? m.1).bind fun key => some (String.ofList key, m.2))
        = some named := by
  have hkey : ∀ m : List Piece × Json,
      (characters? m.1).bind (fun key => some (String.ofList key, m.2))
        = (characters? m.1).map fun key => (String.ofList key, m.2) := by
    intro m
    rcases characters? m.1 with _ | key <;> rfl
  rw [mapM_eq_some_iff, List.map_congr_left fun m _ => hkey m]
  rfl

/-- All keys of an object are read, and none of the names in question is repeated. -/
theorem record?_object_eq_some_iff {members : List (List Piece × Json)} :
    record? names spare (.object members) = some read
      ↔ ∃ named, Spells members named ∧ (∀ name ∈ names, named.countP (·.1 == name) ≤ 1)
        ∧ read = names.map fun name => named.lookup name := by
  simp only [record?, Option.bind_eq_bind, Option.bind_eq_some_iff, Option.guard_eq_some',
    List.all_eq_true, decide_eq_true_eq, Option.pure_def, Option.some.injEq]
  constructor
  · rintro ⟨named, hnamed, -, honce, hread⟩
    exact ⟨named, spells_iff.mpr hnamed, honce, hread.symm⟩
  · rintro ⟨named, hnamed, honce, hread⟩
    exact ⟨named, spells_iff.mp hnamed, (), honce, hread.symm⟩

/-- An array is read as a record by position: it holds at least the fields that may not be spared
and at most all, and those behind its end are missing. -/
theorem record?_array_eq_some_iff {items : List Json} :
    record? names spare (.array items) = some read
      ↔ (items.length ≤ names.length ∧ names.length ≤ items.length + spare)
        ∧ read = items.map some ++ List.replicate (names.length - items.length) none := by
  simp only [record?, Option.bind_eq_bind, Option.bind_eq_some_iff, Option.guard_eq_some',
    Option.pure_def, Option.some.injEq]
  constructor
  · rintro ⟨-, hlength, hread⟩
    exact ⟨hlength, hread.symm⟩
  · rintro ⟨hlength, hread⟩
    exact ⟨(), hlength, hread.symm⟩

/-- A name that is not repeated is looked up as the only member that has it. -/
theorem filter_eq_of_countP_le_one {named : List (String × Json)} {name : String}
    (h : named.countP (·.1 == name) ≤ 1) :
    named.filter (·.1 == name) = (named.lookup name).toList.map fun value => (name, value) := by
  induction named with
  | nil => rfl
  | cons n named ih =>
    by_cases hname : n.1 = name
    · have hbeq : (n.1 == name) = true := beq_iff_eq.mpr hname
      simp only [List.countP_cons, hbeq, if_true] at h
      have hnone : named.filter (·.1 == name) = [] := by
        rw [← List.length_eq_zero_iff, ← List.countP_eq_length_filter]
        omega
      have hlookup : (n :: named).lookup name = some n.2 := by
        rw [← hname]
        exact List.lookup_cons_self
      simp only [List.filter_cons, hbeq, if_true, hnone, hlookup, Option.toList_some,
        List.map_cons, List.map_nil]
      rw [← hname]
    · have hbeq : (n.1 == name) = false := beq_false_of_ne hname
      simp only [List.countP_cons, hbeq, Bool.false_eq_true, if_false, Nat.add_zero] at h
      have hlookup : (n :: named).lookup name = named.lookup name := by
        rw [List.lookup_cons, beq_false_of_ne (Ne.symm hname)]
      simp only [List.filter_cons, hbeq, Bool.false_eq_true, if_false, hlookup, ih h]

/-- A name has one member, and this value, exactly if it is not repeated and is looked up so. -/
theorem filter_eq_singleton_iff {named : List (String × Json)} {name : String} {value : Json} :
    named.filter (·.1 == name) = [(name, value)]
      ↔ named.countP (·.1 == name) ≤ 1 ∧ named.lookup name = some value := by
  constructor
  · intro h
    have honce : named.countP (·.1 == name) ≤ 1 := by
      rw [List.countP_eq_length_filter, h]
      exact Nat.le_refl 1
    rw [filter_eq_of_countP_le_one honce] at h
    rcases hlookup : named.lookup name with _ | found
    · simp [hlookup] at h
    · exact ⟨honce, by simpa [hlookup] using h⟩
  · rintro ⟨honce, hlookup⟩
    rw [filter_eq_of_countP_le_one honce, hlookup]
    rfl

/-- A name has no member exactly if it is not repeated and is not found. -/
theorem filter_eq_nil_iff_lookup {named : List (String × Json)} {name : String} :
    named.filter (·.1 == name) = []
      ↔ named.countP (·.1 == name) ≤ 1 ∧ named.lookup name = none := by
  constructor
  · intro h
    have honce : named.countP (·.1 == name) ≤ 1 := by
      rw [List.countP_eq_length_filter, h]
      exact Nat.zero_le 1
    rw [filter_eq_of_countP_le_one honce] at h
    rcases hlookup : named.lookup name with _ | found
    · exact ⟨honce, rfl⟩
    · simp [hlookup] at h
  · rintro ⟨honce, hlookup⟩
    rw [filter_eq_of_countP_le_one honce, hlookup]
    rfl

end Shapes

end CountingHouse.Json
