/-
Which signed tokens are accepted.

A token is accepted if and only if it is what this file calls signed: three segments with two
dots between them, of which the first is the written form of a header that declares our
algorithm, and the last the written form of the whole code of the first two. Nothing is left to
the reader. A text has one list of segments, base 64 is read in one way only, and the code is
compared as a whole; so a header and claims admit one code, and no text with fewer bytes, with
padding or with a spare segment passes for another.

What the claims say comes after that, and nothing but the clock comes in there: two signed
tokens with the same claims are answered alike, whatever their headers and their keys are.
-/
import CountingHouse.Token.Signed
import CountingHouse.Proofs.Json.Records
import CountingHouse.Proofs.Text.Base64
import CountingHouse.Proofs.Token.RoundTrip

set_option autoImplicit false

namespace CountingHouse.SignedToken

open Text Crypto

/-! ## Segments -/

section Segments

variable {s a b c : List Char}

/-- The segments with dots between them are the text. -/
theorem intercalate_segments (s : List Char) : ['.'].intercalate (segments s) = s := by
  induction s with
  | nil => rfl
  | cons c rest ih =>
    rw [segments]
    rcases hrest : segments rest with _ | ⟨first, more⟩
    · exact absurd hrest (segments_ne_nil rest)
    · rw [hrest] at ih
      by_cases hdot : c = '.'
      · rw [if_pos hdot, List.intercalate_cons_cons, ih, hdot]
        rfl
      · rw [if_neg hdot]
        rcases more with _ | ⟨second, more⟩
        · rw [List.intercalate_singleton] at ih ⊢
          rw [ih]
        · rw [List.intercalate_cons_cons] at ih ⊢
          rw [← ih]
          rfl

/-- A text is cut at every dot, so there is none in its segments. -/
theorem dot_notMem_of_mem_segments {p : List Char} (h : p ∈ segments s) : '.' ∉ p := by
  induction s generalizing p with
  | nil =>
    rw [segments, List.mem_singleton] at h
    rw [h]
    exact List.not_mem_nil
  | cons c rest ih =>
    rw [segments] at h
    by_cases hdot : c = '.'
    · rw [if_pos hdot, List.mem_cons] at h
      rcases h with rfl | h
      · exact List.not_mem_nil
      · exact ih h
    · rw [if_neg hdot] at h
      rcases hrest : segments rest with _ | ⟨first, more⟩
      · exact absurd hrest (segments_ne_nil rest)
      · simp only [hrest, List.mem_cons] at h ih
        rcases h with rfl | h
        · intro hmem
          rcases List.mem_cons.mp hmem with h | h
          · exact hdot h.symm
          · exact ih (.inl rfl) h
        · exact ih (.inr h)

/-- Three segments with dots between them. -/
def joined (a b c : List Char) : List Char := a ++ '.' :: b ++ '.' :: c

/-- The first two segments of three that are joined are found again, if there is no dot in them. -/
theorem segments_joined (ha : '.' ∉ a) (hb : '.' ∉ b) :
    segments (joined a b c) = a :: b :: segments c := by
  rw [joined, List.append_assoc, List.cons_append, segments_append ha, segments_append hb]

/-- A text has three segments if there are two dots in it, and they are what stands between. -/
theorem segments_eq_three_iff : segments s = [a, b, c]
    ↔ s = joined a b c ∧ '.' ∉ a ∧ '.' ∉ b ∧ '.' ∉ c := by
  constructor
  · intro h
    have hs := intercalate_segments s
    have hdotless : ∀ p ∈ [a, b, c], '.' ∉ p := fun p hp =>
      dot_notMem_of_mem_segments (s := s) (h ▸ hp)
    refine ⟨?_, hdotless a (by simp), hdotless b (by simp), hdotless c (by simp)⟩
    rw [h] at hs
    rw [← hs, joined]
    simp [List.intercalate_cons_cons]
  · rintro ⟨hs, ha, hb, hc⟩
    rw [hs, segments_joined ha hb, segments_of_not_mem hc]

end Segments

/-! ## Headers -/

namespace Header

/-- Whether a value may stand for the kind of a token: null or a text. -/
def IsKind (j : Json) : Prop := j = .null ∨ ∃ kind, j.text? = some kind

/-- A document that is a header and declares this algorithm. -/
inductive Declares (algorithm : String) : Json → Prop where
  /-- An object. The key of each member spells a name; one member declares the algorithm, and at
  most one the kind. Members with other names are of no account. -/
  | object {members : List (List Piece × Json)} {named : List (String × Json)} {value : Json}
      (spells : Json.Spells members named)
      (alg : named.filter (·.1 == "alg") = [("alg", value)])
      (declared : value.text? = some algorithm)
      (typ : named.filter (·.1 == "typ") = []
        ∨ ∃ kind, named.filter (·.1 == "typ") = [("typ", kind)] ∧ IsKind kind) :
      Declares algorithm (.object members)
  /-- An array of the algorithm and, perhaps, the kind. -/
  | array {value : Json} {kinds : List Json} (declared : value.text? = some algorithm)
      (typ : kinds = [] ∨ ∃ kind, kinds = [kind] ∧ IsKind kind) :
      Declares algorithm (.array (value :: kinds))

variable {j : Json} {algorithm : String}

/-- The kind is read if it is absent or may stand. -/
theorem exists_optional?_iff {field : Option Json} :
    (∃ kind, Json.optional? Json.text? field = some kind)
      ↔ field = none ∨ ∃ value, field = some value ∧ IsKind value := by
  unfold IsKind
  rcases field with _ | value
  · simp [Json.optional?]
  · by_cases hnull : value = .null
    · simp [hnull, Json.optional?]
    · have hread : Json.optional? Json.text? (some value) = (value.text?).map some := by
        cases value with
        | null => exact absurd rfl hnull
        | _ => rfl
      simp [hread, hnull]

/-- A header is read exactly if it is a record that has an algorithm, which is a text, and may have
a kind, which is null or a text. -/
theorem exists_ofJson?_iff : (∃ kind, ofJson? j = some ⟨algorithm, kind⟩)
    ↔ ∃ alg typ, j.record? ["alg", "typ"] 1 = some [alg, typ]
      ∧ alg.bind Json.text? = some algorithm
      ∧ (typ = none ∨ ∃ kind, typ = some kind ∧ IsKind kind) := by
  simp only [← exists_optional?_iff]
  unfold ofJson?
  rcases j.record? ["alg", "typ"] 1 with _ | fields
  · simp
  · match fields with
    | [] => simp
    | [_] => simp
    | [alg, typ] => simp [Json.required?, Option.bind_eq_some_iff]
    | _ :: _ :: _ :: _ => simp

/-- The headers among the objects: a name that is not repeated is looked up as its only member. -/
theorem exists_ofJson?_object_iff {members : List (List Piece × Json)} :
    (∃ kind, ofJson? (.object members) = some ⟨algorithm, kind⟩)
      ↔ Declares algorithm (.object members) := by
  simp only [exists_ofJson?_iff, Json.record?_object_eq_some_iff]
  constructor
  · -- the type may be left out, but neither name may be given twice
    rintro ⟨alg, typ, ⟨named, hspells, honce, hfields⟩, hdeclared, hkind⟩
    simp only [List.map_cons, List.map_nil, List.cons.injEq, and_true] at hfields
    obtain ⟨value, rfl, htext⟩ := Option.bind_eq_some_iff.mp hdeclared
    have halg := Json.filter_eq_singleton_iff.mpr ⟨honce "alg" (by simp), hfields.1.symm⟩
    refine .object hspells halg htext ?_
    rcases hkind with rfl | ⟨kind, rfl, hkind⟩
    · exact .inl (Json.filter_eq_nil_iff_lookup.mpr ⟨honce "typ" (by simp), hfields.2.symm⟩)
    · exact .inr ⟨kind,
        Json.filter_eq_singleton_iff.mpr ⟨honce "typ" (by simp), hfields.2.symm⟩, hkind⟩
  · intro h
    cases h with
    | @object _ named value hspells halg htext htyp =>
      obtain ⟨hone, hvalue⟩ := Json.filter_eq_singleton_iff.mp halg
      have hkind : named.countP (·.1 == "typ") ≤ 1
          ∧ (named.lookup "typ" = none ∨ ∃ kind, named.lookup "typ" = some kind ∧ IsKind kind) := by
        rcases htyp with h | ⟨kind, h, hkind⟩
        · obtain ⟨honce, hnone⟩ := Json.filter_eq_nil_iff_lookup.mp h
          exact ⟨honce, .inl hnone⟩
        · obtain ⟨honce, hsome⟩ := Json.filter_eq_singleton_iff.mp h
          exact ⟨honce, .inr ⟨kind, hsome, hkind⟩⟩
      have honce : ∀ name ∈ ["alg", "typ"], named.countP (·.1 == name) ≤ 1 := by
        simpa using ⟨hone, hkind.1⟩
      refine ⟨named.lookup "alg", named.lookup "typ", ⟨named, hspells, honce, rfl⟩, ?_, hkind.2⟩
      rw [hvalue]
      exact htext

/-- The headers among the arrays, which have one or two items. -/
theorem exists_ofJson?_array_iff {items : List Json} :
    (∃ kind, ofJson? (.array items) = some ⟨algorithm, kind⟩)
      ↔ Declares algorithm (.array items) := by
  rw [exists_ofJson?_iff]
  simp only [Json.record?_array_eq_some_iff]
  constructor
  · rintro ⟨alg, typ, ⟨hlength, hfields⟩, hdeclared, hkind⟩
    -- an array gives the fields by position, and the type may be missing at its end
    match items with
    | [] => simp at hlength
    | [value] =>
      obtain ⟨rfl, rfl⟩ : alg = some value ∧ typ = none := by simpa using hfields
      exact .array hdeclared (.inl rfl)
    | [value, kind] =>
      obtain ⟨rfl, rfl⟩ : alg = some value ∧ typ = some kind := by simpa using hfields
      obtain ⟨_, rfl, hkind⟩ : ∃ k, kind = k ∧ IsKind k := by simpa using hkind
      exact .array hdeclared (.inr ⟨_, rfl, hkind⟩)
    | _ :: _ :: _ :: _ => simp at hlength
  · intro h
    cases h with
    | @array value kinds htext htyp =>
      rcases htyp with rfl | ⟨kind, rfl, hkind⟩
      · exact ⟨some value, none, ⟨by simp, rfl⟩, htext, .inl rfl⟩
      · exact ⟨some value, some kind, ⟨by simp, rfl⟩, htext, .inr ⟨kind, rfl, hkind⟩⟩

/-- A document is read as a header with an algorithm if it declares that. -/
theorem declares_iff : (∃ kind, ofJson? j = some ⟨algorithm, kind⟩) ↔ Declares algorithm j := by
  cases j with
  | object members => exact exists_ofJson?_object_iff
  | array items => exact exists_ofJson?_array_iff
  | _ =>
    constructor
    · rw [exists_ofJson?_iff]
      simp [Json.record?]
    · intro h
      cases h

end Header

/-! ## Tokens -/

/-- A segment that is the written form of a header of ours. -/
def IsHeader (header : List Char) : Prop :=
  ∃ bytes document, header = Base64.encode bytes ∧ Json.ofBytes? bytes = some document
    ∧ Header.Declares "HS256" document

/-- The headers that are accepted are those that name the one algorithm. -/
theorem acceptsHeader_iff {header : List Char} : acceptsHeader header = true ↔ IsHeader header := by
  have hread : acceptsHeader header = true ↔ ∃ h, ((Base64.decode? header).bind fun bytes =>
      (Json.ofBytes? bytes).bind Header.ofJson?) = some h ∧ h.algorithm = "HS256" := by
    unfold acceptsHeader
    rcases (Base64.decode? header).bind fun bytes =>
      (Json.ofBytes? bytes).bind Header.ofJson? with _ | h
    · simp
    · simp [algorithm]
  rw [hread]
  unfold IsHeader
  simp only [← Header.declares_iff, Option.bind_eq_some_iff, Base64.decode?_eq_some_iff]
  constructor
  · rintro ⟨h, ⟨bytes, hbytes, document, hdocument, hheader⟩, halgorithm⟩
    refine ⟨bytes, document, hbytes, hdocument, h.kind, ?_⟩
    rw [hheader, ← halgorithm]
  · rintro ⟨bytes, document, hbytes, hdocument, kind, hheader⟩
    exact ⟨⟨"HS256", kind⟩, ⟨bytes, hbytes, document, hdocument, hheader⟩, rfl⟩

/-- There is no dot in an accepted header, since it is decoded. -/
theorem IsHeader.dot_notMem {header : List Char} (h : IsHeader header) : '.' ∉ header := by
  obtain ⟨bytes, -, rfl, -⟩ := h
  exact Base64.dot_notMem_encode bytes

/-- A token that is signed under a key. -/
structure IsSigned (key : List UInt8) (token : String) (header claims : List Char) : Prop where
  /-- Its header declares our algorithm. -/
  isHeader : IsHeader header
  /-- Its claims are one segment. -/
  dot_notMem : '.' ∉ claims
  /-- Its code is the whole code of header and claims. -/
  token_eq : token.toList
    = joined header claims (Base64.encode (hmac key (Utf8.encode (header ++ '.' :: claims))))

namespace IsSigned

variable {key : List UInt8} {token : String} {header claims header' claims' : List Char}

/-- A signed token has three segments, the last of which is its code. -/
theorem segments_eq (h : IsSigned key token header claims) :
    segments token.toList
      = [header, claims, Base64.encode (signature key header claims)] :=
  segments_eq_three_iff.mpr
    ⟨h.token_eq, h.isHeader.dot_notMem, h.dot_notMem, Base64.dot_notMem_encode _⟩

/-- A token is signed in one way only. -/
theorem unique (h : IsSigned key token header claims) (h' : IsSigned key token header' claims') :
    header = header' ∧ claims = claims' := by
  have hsame := h.segments_eq.symm.trans h'.segments_eq
  simp only [List.cons.injEq] at hsame
  exact ⟨hsame.1, hsame.2.1⟩

end IsSigned

/-- What is looked at before the claims decides whether a token is signed. -/
theorem isSigned_iff {key : List UInt8} {token : String} {header claims : List Char} :
    IsSigned key token header claims
      ↔ ∃ code, segments token.toList = [header, claims, code]
        ∧ (acceptsHeader header
          && Base64.decode? code == some (signature key header claims)) = true := by
  simp only [Bool.and_eq_true, acceptsHeader_iff, beq_iff_eq, Base64.decode?_eq_some_iff]
  constructor
  · intro h
    exact ⟨_, h.segments_eq, h.isHeader, rfl⟩
  · rintro ⟨code, hsegments, hheader, hcode⟩
    rw [hcode] at hsegments
    obtain ⟨htoken, -, hclaims, -⟩ := segments_eq_three_iff.mp hsegments
    refine ⟨hheader, hclaims, ?_⟩
    rw [htoken, signature, signingInput]

/-- What is issued under a key is signed with it. -/
theorem isSigned_create (key : List UInt8) (content : Claims) :
    IsSigned key (create key content) (Base64.encode (utf8 Header.issued.toJson.render))
      (Base64.encode content.write) := by
  refine ⟨acceptsHeader_iff.mp acceptsHeader_issued, Base64.dot_notMem_encode _, ?_⟩
  rw [create, String.toList_ofList, signature, signingInput, joined]

/-! ## Claims -/

/-- A segment that carries these claims: the written form of a document of them. -/
def Carries (claims : List Char) (c : Claims) : Prop :=
  ∃ bytes document, claims = Base64.encode bytes ∧ Json.ofBytes? bytes = some document
    ∧ Claims.ofJson? document = some c

/-- An answer to the claims of a signed token, by the clock. -/
structure Judges (claims : List Char) (now : Instant) (answer : Except TokenError Claims) :
    Prop where
  unreadable : (∀ c, ¬ Carries claims c) → answer = .error (.invalidClaims .unreadable)
  nameless : ∀ c, Carries claims c → c.username = "" →
    answer = .error (.invalidClaims .emptyUsername)
  expired : ∀ c, Carries claims c → c.username ≠ "" → c.expiresAt < now → answer = .error .expired
  good : ∀ c, Carries claims c → c.username ≠ "" → now ≤ c.expiresAt → answer = .ok c

/-- The four cases are all there are, so claims and clock leave one answer. -/
theorem Judges.unique {claims : List Char} {now : Instant}
    {answer answer' : Except TokenError Claims}
    (h : Judges claims now answer) (h' : Judges claims now answer') : answer = answer' := by
  by_cases hcarries : ∃ c, Carries claims c
  · obtain ⟨c, hc⟩ := hcarries
    by_cases hname : c.username = ""
    · rw [h.nameless c hc hname, h'.nameless c hc hname]
    · by_cases hlive : now ≤ c.expiresAt
      · rw [h.good c hc hname hlive, h'.good c hc hname hlive]
      · have hlate := Instant.not_le.mp hlive
        rw [h.expired c hc hname hlate, h'.expired c hc hname hlate]
  · have hnone : ∀ c, ¬ Carries claims c := fun c hc => hcarries ⟨c, hc⟩
    rw [h.unreadable hnone, h'.unreadable hnone]

/-- The answer to a segment of claims. -/
def answer (claims : List Char) (now : Instant) : Except TokenError Claims :=
  match Base64.decode? claims with
  | some bytes => Claims.read bytes now
  | none => .error (.invalidClaims .unreadable)

/-- Claims are carried exactly if they are read, through the alphabet, the bytes and the
document. -/
theorem carries_iff {claims : List Char} {c : Claims} : Carries claims c
    ↔ ((Base64.decode? claims).bind fun bytes => (Json.ofBytes? bytes).bind Claims.ofJson?)
      = some c := by
  simp only [Option.bind_eq_some_iff, Base64.decode?_eq_some_iff]
  constructor
  · rintro ⟨bytes, document, hbytes, hdocument, hread⟩
    exact ⟨bytes, hbytes, document, hdocument, hread⟩
  · rintro ⟨bytes, hbytes, document, hdocument, hread⟩
    exact ⟨bytes, document, hbytes, hdocument, hread⟩

/-- Claims that can be read are judged by the clock. -/
theorem answer_of_carries {claims : List Char} {c : Claims} (h : Carries claims c) (now : Instant) :
    answer claims now = c.validate now := by
  obtain ⟨bytes, document, hbytes, hdocument, hread⟩ := h
  rw [answer, Base64.decode?_eq_some_iff.mpr hbytes]
  simp only [Claims.read, hdocument, Option.bind_some, hread]

/-- What cannot be read as claims is refused as unreadable. -/
theorem answer_of_not_carries {claims : List Char} (h : ∀ c, ¬ Carries claims c) (now : Instant) :
    answer claims now = .error (.invalidClaims .unreadable) := by
  unfold answer Claims.read
  rcases hbytes : Base64.decode? claims with _ | bytes
  · rfl
  · rcases hread : (Json.ofBytes? bytes).bind Claims.ofJson? with _ | c
    · simp only [hread]
    · refine absurd (carries_iff.mpr ?_) (h c)
      rw [hbytes, Option.bind_some, hread]

/-- The answer of the reader is one that the claims and the clock allow. -/
theorem judges_answer (claims : List Char) (now : Instant) :
    Judges claims now (answer claims now) := by
  refine ⟨fun h => answer_of_not_carries h now, fun c hc hname => ?_, fun c hc hname hlate => ?_,
    fun c hc hname hlive => ?_⟩
  · rw [answer_of_carries hc, Claims.validate, if_pos hname]
  · rw [answer_of_carries hc, Claims.validate_of_username_ne hname,
      if_neg (Instant.not_le.mpr hlate)]
  · rw [answer_of_carries hc, Claims.validate_of_username_ne hname, if_pos hlive]

/-- Whatever claims say, a code is not what is wrong with them. -/
theorem answer_ne_invalidSignature (claims : List Char) (now : Instant) :
    answer claims now ≠ .error .invalidSignature := by
  by_cases hcarries : ∃ c, Carries claims c
  · obtain ⟨c, hc⟩ := hcarries
    rw [answer_of_carries hc, Claims.validate]
    split_ifs <;> simp
  · rw [answer_of_not_carries (fun c hc => hcarries ⟨c, hc⟩)]
    simp

/-! ## Verification -/

section Verification

variable {key : List UInt8} {token : String} {header claims : List Char}

/-- Under its key a signed token is answered by what it claims. -/
theorem verify_of_isSigned (h : IsSigned key token header claims) (now : Instant) :
    verify key now token = answer claims now := by
  obtain ⟨code, hsegments, hours⟩ := isSigned_iff.mp h
  rw [verify, hsegments]
  show (if _ then answer claims now else _) = answer claims now
  rw [if_pos hours]

/-- A token that is not signed under the key is refused as such, whatever its claims are. -/
theorem verify_of_not_isSigned (h : ∀ header claims, ¬ IsSigned key token header claims)
    (now : Instant) : verify key now token = .error .invalidSignature := by
  unfold verify
  split
  · rename_i header claims code hsegments
    rw [if_neg fun hours => h header claims (isSigned_iff.mpr ⟨code, hsegments, hours⟩)]
  · rfl

/-- Whether a token passes its code depends on whether it was signed under the key, and on nothing
else. -/
theorem verify_ne_invalidSignature_iff {now : Instant} :
    verify key now token ≠ .error .invalidSignature
      ↔ ∃ header claims, IsSigned key token header claims := by
  constructor
  · intro h
    by_contra hnone
    simp only [not_exists] at hnone
    exact h (verify_of_not_isSigned hnone now)
  · rintro ⟨header, claims, hsigned⟩
    rw [verify_of_isSigned hsigned]
    exact answer_ne_invalidSignature claims now

/-- The one code of a header and claims. -/
theorem isSigned_joined_iff {code : List Char} (hheader : IsHeader header)
    (hclaims : '.' ∉ claims) :
    (∃ h c, IsSigned key (String.ofList (joined header claims code)) h c)
      ↔ code = Base64.encode (signature key header claims) := by
  constructor
  · rintro ⟨h, c, hsigned⟩
    have hsegments := hsigned.segments_eq
    rw [String.toList_ofList, segments_joined hheader.dot_notMem hclaims] at hsegments
    simp only [List.cons.injEq] at hsegments
    obtain ⟨rfl, rfl, hcode⟩ := hsegments
    rw [← intercalate_segments code, hcode, List.intercalate_singleton]
  · intro h
    refine ⟨header, claims, hheader, hclaims, ?_⟩
    rw [String.toList_ofList, h, signature, signingInput]

end Verification

/-- What a key makes of tokens. -/
structure Authenticates (key : List UInt8) : Prop where
  /-- A token is accepted if it is signed, and whatever else it is, it is refused alike. -/
  accepted_iff : ∀ token now, verify key now token ≠ .error .invalidSignature
    ↔ ∃ header claims, IsSigned key token header claims
  /-- Header and claims of a signed token are the token's own. -/
  unique : ∀ token header claims header' claims', IsSigned key token header claims →
    IsSigned key token header' claims' → header = header' ∧ claims = claims'
  /-- The code has all of its 32 bytes. -/
  length_code : ∀ header claims,
    (hmac key (Utf8.encode (header ++ '.' :: claims))).length = 32
  /-- A header of ours and claims admit one code. -/
  one_code : ∀ header claims now, IsHeader header → '.' ∉ claims →
    ∃! code, verify key now (String.ofList (joined header claims code)) ≠ .error .invalidSignature
  /-- A signed token is answered by its claims and the clock: as unreadable or nameless, as
  expired, or with the claims. -/
  judges : ∀ token header claims now, IsSigned key token header claims →
    Judges claims now (verify key now token)
  /-- There is no second answer that fits the claims and the clock. -/
  judged_once : ∀ claims now answer answer', Judges claims now answer →
    Judges claims now answer' → answer = answer'
  /-- What is issued under the key is signed with it, so it is never refused for its code. -/
  issued : ∀ content, IsSigned key (create key content)
    (Base64.encode (utf8 Header.issued.toJson.render)) (Base64.encode content.write)
  /-- No other key and no other header make a difference to that. -/
  alike : ∀ token header claims key' token' header' now, IsSigned key token header claims →
    IsSigned key' token' header' claims → verify key now token = verify key' now token'

/-- Under any key, the tokens that are accepted are those that are signed with it, and they are
answered by their claims and the clock. -/
theorem authenticates (key : List UInt8) : Authenticates key where
  accepted_iff _ _ := verify_ne_invalidSignature_iff
  unique _ _ _ _ _ h h' := h.unique h'
  length_code _ _ := length_hmac _ _
  one_code header claims now hheader hclaims := by
    refine ⟨Base64.encode (signature key header claims), ?_, ?_⟩
    · exact verify_ne_invalidSignature_iff.mpr ((isSigned_joined_iff hheader hclaims).mpr rfl)
    · intro code hcode
      exact (isSigned_joined_iff hheader hclaims).mp (verify_ne_invalidSignature_iff.mp hcode)
  judges token header claims now h := by
    rw [verify_of_isSigned h]
    exact judges_answer claims now
  judged_once _ _ _ _ h h' := h.unique h'
  issued content := isSigned_create key content
  alike token header claims key' token' header' now h h' := by
    rw [verify_of_isSigned h, verify_of_isSigned h']

end CountingHouse.SignedToken
