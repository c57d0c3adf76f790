/-
Tokens are read back.

What an issuer has written it reads as the claims that it wrote, under any key, in both formats
and whatever the claims say; nothing is refused before the clock is looked at. The formats have
little in common: one signs three segments in the open, and the segments can be told apart
because base 64 has no dot in it; the other seals everything behind one header. Both carry the
same document, and a document is read back together with the texts, the identifier and the
instants in it.

An instant is read as it shows itself. So the claims come back exactly if their instants are
those of a clock, which has its leap seconds at the end of a minute.
-/
import CountingHouse.Token.Issuer
import CountingHouse.Proofs.Calendar.Spans
import CountingHouse.Proofs.Crypto.Gcm
import CountingHouse.Proofs.Json.Records
import CountingHouse.Proofs.Text.Base64
import CountingHouse.Proofs.Text.Uuid

set_option autoImplicit false

namespace CountingHouse

open Text Crypto

/-! ## The parts of a document -/

/-- An identifier is read back from its document. -/
theorem Uuid.ofJson?_settled (u : Uuid) : ofJson? u.toJson.settled = some u := by
  have hread := Json.characters?_settled u.write
  simp only [toJson, toText, Json.ofText, Json.settled, ofJson?, String.toList_ofList, hread,
    Option.bind_eq_bind, Option.bind_some, read?_write]

/-- An instant is read back from its document, as the instant that its text shows. -/
theorem Instant.ofJson?_settled (t : Instant) : ofJson? t.toJson.settled = some t.shown := by
  have hread := Json.characters?_settled t.write
  simp only [toJson, toText, Json.ofText, Json.settled, ofJson?, String.toList_ofList, hread,
    Option.bind_eq_bind, Option.bind_some, read?_write]

/-! ## Claims -/

namespace Claims

variable {draw : Draw} {now : Instant} {username : String} {duration : Span} {c : Claims}

/-- Claims are made exactly for a user with a name and a time of life that ends at some instant;
they are those of the draw and the clock. -/
theorem new_eq_ok_iff : new draw now username duration = .ok c
    ↔ username ≠ "" ∧ now.add? duration = some c.expiresAt
      ∧ c = ⟨.ofRandom draw.identifier, username, now, c.expiresAt⟩ := by
  unfold new
  by_cases hname : username = ""
  · simp [hname]
  · rw [if_neg hname]
    rcases hexpiry : now.add? duration with _ | expiry
    · simp
    · constructor
      · rintro h
        cases h
        exact ⟨hname, rfl, rfl⟩
      · rintro ⟨-, hsame, hc⟩
        cases hsame
        rw [hc]

/-- Claims that name a user are good until they expire. -/
theorem validate_of_username_ne (hname : c.username ≠ "") (now : Instant) :
    c.validate now = if now ≤ c.expiresAt then .ok c else .error .expired := by
  unfold validate
  rw [if_neg hname]
  by_cases hlive : now ≤ c.expiresAt
  · rw [if_pos hlive, if_neg (Instant.not_lt.mpr hlive)]
  · rw [if_neg hlive, if_pos (Instant.not_le.mp hlive)]

/-- The claims as they are read: their instants as they are shown. -/
def shown (c : Claims) : Claims :=
  { c with issuedAt := c.issuedAt.shown, expiresAt := c.expiresAt.shown }

/-- Claims with instants that a clock shows are what their text shows. -/
theorem shown_of_isRegular (hissued : c.issuedAt.IsRegular)
    (hexpires : c.expiresAt.IsRegular) : c.shown = c := by
  unfold shown
  rw [Instant.shown_of_isRegular hissued, Instant.shown_of_isRegular hexpires]

/-- Claims have a written form. -/
theorem isSpelled_toJson (c : Claims) : c.toJson.IsSpelled := by
  refine Json.isSpelled_ofFields fun f hf => ?_
  simp only [List.mem_cons, List.not_mem_nil, or_false] at hf
  rcases hf with rfl | rfl | rfl | rfl <;> exact Json.isSpelled_ofText _

/-- Claims are read back from their document, with the instants that it shows. -/
theorem ofJson?_settled (c : Claims) : ofJson? c.toJson.settled = some c.shown := by
  have hfields := Json.record?_settled_ofFields [("id", c.id.toJson),
    ("username", .ofText c.username), ("issued_at", c.issuedAt.toJson),
    ("expires_at", c.expiresAt.toJson)] (by simp) 0
  change Json.record? fieldNames 0 c.toJson.settled = _ at hfields
  unfold ofJson?
  rw [hfields]
  simp only [List.map_cons, List.map_nil, Option.bind_eq_bind, Option.bind_some, Json.required?,
    Uuid.ofJson?_settled, Json.text?_settled_ofText, Instant.ofJson?_settled]
  rfl

/-- The claims in what has been written are checked against the clock and nothing else. -/
theorem read_write (c : Claims) (now : Instant) : read c.write now = c.shown.validate now := by
  unfold read write
  rw [Json.ofBytes?_render c.isSpelled_toJson, Option.bind_some, ofJson?_settled]

end Claims

/-! ## Signed tokens -/

namespace SignedToken

/-- The header of a new token is one of ours. -/
theorem acceptsHeader_issued :
    acceptsHeader (Base64.encode (utf8 Header.issued.toJson.render)) = true := by
  have hspelled : Header.issued.toJson.IsSpelled := by
    refine Json.isSpelled_ofFields fun f hf => ?_
    simp only [Header.issued, List.mem_cons, List.not_mem_nil, or_false] at hf
    rcases hf with rfl | rfl <;> exact Json.isSpelled_ofText _
  have hfields := Json.record?_settled_ofFields [("alg", .ofText algorithm),
    ("typ", .ofText "JWT")] (by simp) 1
  change Json.record? ["alg", "typ"] 1 Header.issued.toJson.settled = _ at hfields
  have hread : Header.ofJson? Header.issued.toJson.settled = some Header.issued := by
    unfold Header.ofJson?
    rw [hfields]
    simp only [List.map_cons, List.map_nil, Option.bind_eq_bind, Option.bind_some, Json.required?,
      Json.text?_settled_ofText, Json.optional?_ofText (Json.text?_settled_ofText _)]
    rfl
  unfold acceptsHeader
  simp only [Base64.decode?_encode, Option.bind_some, Json.ofBytes?_render hspelled, hread]
  rfl

/-- A signed token is judged by the claims it was made of, with the instants that their text
shows. -/
theorem verify_create (key : List UInt8) (c : Claims) (now : Instant) :
    verify key now (create key c) = c.shown.validate now := by
  have hsegments : segments (create key c).toList
      = [Base64.encode (utf8 Header.issued.toJson.render), Base64.encode c.write,
        Base64.encode (signature key (Base64.encode (utf8 Header.issued.toJson.render))
          (Base64.encode c.write))] := by
    unfold create signingInput
    rw [String.toList_ofList, List.append_assoc, List.cons_append,
      segments_append (Base64.dot_notMem_encode _), segments_append (Base64.dot_notMem_encode _),
      segments_of_not_mem (Base64.dot_notMem_encode _)]
  unfold verify
  rw [hsegments]
  simp only [acceptsHeader_issued, Base64.decode?_encode, BEq.rfl, Bool.and_self, if_true]
  exact c.read_write now

end SignedToken

/-! ## Sealed tokens -/

namespace SealedToken

/-- A text that has been sealed with a nonce is behind it in the body. -/
theorem openBody?_body (key text : List UInt8) {nonce : List UInt8}
    (hnonce : nonce.length = nonceLength) : openBody? key (body key nonce text) = some text := by
  have hlong : nonceLength < (body key nonce text).length := by
    unfold body
    rw [List.length_append, Gcm.length_close, hnonce]
    have htag : 0 < Gcm.tagLength := by decide
    omega
  unfold openBody?
  rw [if_pos hlong]
  unfold body
  rw [← hnonce, List.take_left, List.drop_left, Gcm.open?_close]

/-- A sealed token is judged by the claims it was made of, with the instants that their text
shows. -/
theorem verify_create (key : List UInt8) (nonce : Vector UInt8 12) (c : Claims) (now : Instant) :
    verify key now (create key nonce c) = c.shown.validate now := by
  have hbehind : behind? header.toList (create key nonce c).toList
      = some (Base64.encode (body key nonce.toList c.write)) := by
    rw [behind?_eq_some_iff]
    unfold create
    rw [String.toList_append, String.toList_ofList]
  have hnonce : nonce.toList.length = nonceLength := Vector.length_toList
  unfold verify
  rw [hbehind, Option.bind_some, Base64.decode?_encode, Option.bind_some,
    openBody?_body key _ hnonce]
  exact c.read_write now

end SealedToken

/-! ## Issuers -/

namespace TokenIssuer

variable {i : TokenIssuer} {draw : Draw} {now : Instant} {username : String} {duration : Span}

/-- A token is issued exactly if its claims can be made, and it is their text. -/
theorem create_eq_ok_iff {token : String} {c : Claims} :
    i.create draw now username duration = .ok (token, c)
      ↔ Claims.new draw now username duration = .ok c ∧ token = i.write draw.nonce c := by
  unfold create
  rcases Claims.new draw now username duration with e | c'
  · constructor
    · intro h
      cases h
    · rintro ⟨h, -⟩
      cases h
  · constructor
    · intro h
      cases h
      exact ⟨rfl, rfl⟩
    · rintro ⟨h, rfl⟩
      cases h
      rfl

/-- If the claims cannot be made, no token is issued. -/
theorem create_of_error {e : TokenError} (h : Claims.new draw now username duration = .error e) :
    i.create draw now username duration = .error e := by
  unfold create
  rw [h]
  rfl

/-- A token is read as the claims in it, as far as the clock allows. -/
theorem verify_write (i : TokenIssuer) (nonce : Vector UInt8 12) (c : Claims) (now : Instant) :
    i.verify now (i.write nonce c) = c.shown.validate now := by
  unfold verify write
  rcases i.format with _ | _
  · exact SignedToken.verify_create i.key c now
  · exact SealedToken.verify_create i.key nonce c now

/-- A token that names a user is good until it expires. It shows an expiry that is no earlier. -/
theorem verify_of_live (i : TokenIssuer) (nonce : Vector UInt8 12) {c : Claims}
    (hname : c.username ≠ "") (hlive : now ≤ c.expiresAt) :
    i.verify now (i.write nonce c) = .ok c.shown := by
  have hnamed : c.shown.username ≠ "" := hname
  have hshown : now ≤ c.shown.expiresAt := Instant.le_trans hlive (Instant.le_shown _)
  rw [verify_write, Claims.validate_of_username_ne hnamed, if_pos hshown]

/-- A token that is made for a user is good under the same key until it expires, when it is
refused as expired and for no other reason. Until then it is read as exactly the claims that it
was made for, whatever its identifier is. The clock may show a leap second where there can be
one. -/
theorem verify_issued (i : TokenIssuer) (draw : Draw) {now : Instant} (hnow : now.IsRegular)
    {username : String} (hname : username ≠ "") {duration : Span} {expiry : Instant}
    (hexpiry : now.add? duration = some expiry) :
    i.create draw now username duration
        = .ok (i.write draw.nonce ⟨.ofRandom draw.identifier, username, now, expiry⟩,
          ⟨.ofRandom draw.identifier, username, now, expiry⟩)
      ∧ ∀ id t, i.verify t (i.write draw.nonce ⟨id, username, now, expiry⟩)
        = if t ≤ expiry then .ok ⟨id, username, now, expiry⟩ else .error .expired := by
  refine ⟨create_eq_ok_iff.mpr ⟨Claims.new_eq_ok_iff.mpr ⟨hname, hexpiry, rfl⟩, rfl⟩,
    fun id t => ?_⟩
  have hshown : Claims.shown ⟨id, username, now, expiry⟩ = ⟨id, username, now, expiry⟩ :=
    Claims.shown_of_isRegular hnow (Instant.isRegular_of_add? hnow hexpiry)
  rw [verify_write, hshown, Claims.validate_of_username_ne hname]

/-- A token that is made inside the leap second that ends the year 10000, and expires a quarter
of a second before, is good at its expiry and refused when it is made. -/
theorem verify_issued_in_leap_second :
    let i : TokenIssuer := ⟨.sealed, List.replicate 32 0, by decide⟩
    let draw : Draw := ⟨7, Vector.replicate 12 0⟩
    let username := "\"\\\u0001é"
    let now : Instant := ⟨⟨2933262, by decide, by decide⟩, 86399, 1500000000, by decide, by decide⟩
    let expiry : Instant :=
      ⟨⟨2933262, by decide, by decide⟩, 86399, 1250000000, by decide, by decide⟩
    let claims : Claims := ⟨.ofRandom 7, username, now, expiry⟩
    now.IsRegular ∧ username ≠ "" ∧ now.add? (.ofMillis (-250)) = some expiry
      ∧ i.create draw now username (.ofMillis (-250)) = .ok (i.write draw.nonce claims, claims)
      ∧ i.verify expiry (i.write draw.nonce claims) = .ok claims
      ∧ i.verify now (i.write draw.nonce claims) = .error .expired := by
  intro i draw username now expiry claims
  have hnow : now.IsRegular := fun _ => by decide
  have hname : username ≠ "" := by decide
  have hexpiry : now.add? (.ofMillis (-250)) = some expiry := by decide
  obtain ⟨hcreate, hverify⟩ := verify_issued i draw hnow hname hexpiry
  have hgood : expiry ≤ expiry := by decide
  have hlate : ¬ now ≤ expiry := by decide
  refine ⟨hnow, hname, hexpiry, hcreate, ?_, ?_⟩
  · exact (hverify _ expiry).trans (if_pos hgood)
  · exact (hverify _ now).trans (if_neg hlate)

end TokenIssuer

end CountingHouse
