/-
Which sealed tokens are accepted.

A token is accepted if and only if something is sealed in it under the key: the header of the
format, and behind it in base 64 a nonce of twelve bytes and the sealed form of a text, which is
bound to the header. The reader takes that apart step by step, and every step has an inverse. A
text is a front and something behind it in one way, base 64 is read in one way only, the nonce
has its length, and what the cipher opens is the sealed form of what comes out. So a token has
one nonce and one text, and whoever seals that text again with that nonce writes the same token.

What comes out is then answered as the same claims are in a signed token, by what they say and
by the clock. A token of one format is never one of the other, whatever the two keys are: the
header of a sealed token has a dot in it, and in front of the dot stands no header of a signed
one, since these are two characters that base 64 does not write.
-/
import CountingHouse.Proofs.Token.Signed

set_option autoImplicit false

namespace CountingHouse.SealedToken

open Text Crypto

variable {key key' nonce nonce' text text' bytes : List UInt8} {token token' : String}

/-! ## Sealing -/

/-- The token in which a text is sealed with a nonce. -/
def write (key nonce text : List UInt8) : String :=
  header ++ String.ofList (Base64.encode (body key nonce text))

/-- A token is its claims sealed under the key and the nonce. -/
theorem create_eq_write (key : List UInt8) (nonce : Vector UInt8 12) (c : Claims) :
    create key nonce c = write key nonce.toList c.write := rfl

/-- A token in which a text is sealed under a key. -/
structure IsSealed (key : List UInt8) (token : String) (nonce text : List UInt8) : Prop where
  length_nonce : nonce.length = 12
  /-- Behind the header stand the nonce and the text, which is encrypted under the derived key
  and authenticated together with the header. -/
  token_eq : token.toList = "v1.local.".toList ++ Base64.encode (nonce
    ++ Gcm.close (hkdf (utf8 "bankcore-token") key (utf8 "v1.local.")) nonce (utf8 "v1.local.")
      text)

/-- A body is opened if it is a nonce and a text that was sealed with it. -/
theorem openBody?_eq_some_iff :
    openBody? key bytes = some text
      ↔ ∃ nonce : List UInt8, nonce.length = 12 ∧ bytes = body key nonce text := by
  constructor
  · intro h
    unfold openBody? at h
    by_cases hlong : nonceLength < bytes.length
    · rw [if_pos hlong, Gcm.open?_eq_some_iff] at h
      refine ⟨bytes.take nonceLength, ?_, ?_⟩
      · rw [List.length_take]
        exact min_eq_left hlong.le
      · unfold body
        rw [← h, List.take_append_drop]
    · rw [if_neg hlong] at h
      cases h
  · rintro ⟨nonce, hnonce, rfl⟩
    exact openBody?_body key text hnonce

/-- What is opened before the claims are looked at. -/
theorem isSealed_iff : (∃ nonce, IsSealed key token nonce text)
    ↔ ((behind? header.toList token.toList).bind Base64.decode?).bind (openBody? key)
      = some text := by
  -- every step of the reader has an inverse, so both sides name the same pieces
  simp only [Option.bind_eq_some_iff, behind?_eq_some_iff, Base64.decode?_eq_some_iff,
    openBody?_eq_some_iff]
  constructor
  · rintro ⟨nonce, hlength, htoken⟩
    exact ⟨body key nonce text, ⟨_, htoken, rfl⟩, nonce, hlength, rfl⟩
  · rintro ⟨_, ⟨_, htoken, rfl⟩, nonce, hlength, rfl⟩
    exact ⟨nonce, hlength, htoken⟩

namespace IsSealed

/-- A token is determined by its key, its nonce and its text. -/
theorem write_eq (h : IsSealed key token nonce text) : write key nonce text = token := by
  rw [← String.toList_inj, write, String.toList_append, String.toList_ofList, h.token_eq]
  rfl

/-- A token has one nonce and one text sealed in it. -/
theorem unique (h : IsSealed key token nonce text) (h' : IsSealed key token nonce' text') :
    nonce = nonce' ∧ text = text' := by
  have hencoded := List.append_cancel_left (h.token_eq.symm.trans h'.token_eq)
  have hbodies : body key nonce text = body key nonce' text' := by
    have hdecoded := congrArg Base64.decode? hencoded
    rw [Base64.decode?_encode, Base64.decode?_encode] at hdecoded
    exact Option.some.inj hdecoded
  -- the nonces are of one length, so each part is the same
  have hlength : nonce.length = nonce'.length := h.length_nonce.trans h'.length_nonce.symm
  obtain ⟨rfl, hclosed⟩ := List.append_inj hbodies hlength
  refine ⟨rfl, ?_⟩
  have hopened := Gcm.open?_close (cipherKey key) nonce (utf8 header) text
  rw [hclosed, Gcm.open?_close] at hopened
  exact (Option.some.inj hopened).symm

end IsSealed

/-- What is issued under a key is sealed with it. -/
theorem isSealed_create (key : List UInt8) (nonce : Vector UInt8 12) (c : Claims) :
    IsSealed key (create key nonce c) nonce.toList c.write := by
  refine ⟨Vector.length_toList, ?_⟩
  rw [create_eq_write, write, String.toList_append, String.toList_ofList]
  rfl

/-! ## Verification -/

/-- Under its key a sealed token is answered by what is sealed in it. -/
theorem verify_of_isSealed (h : IsSealed key token nonce text) (now : Instant) :
    verify key now token = Claims.read text now := by
  unfold verify
  rw [isSealed_iff.mp ⟨nonce, h⟩]

/-- A token that nothing was sealed to under the key is refused as such. -/
theorem verify_of_not_isSealed (h : ∀ nonce text, ¬ IsSealed key token nonce text)
    (now : Instant) : verify key now token = .error .invalidSignature := by
  unfold verify
  rcases hopened : ((behind? header.toList token.toList).bind Base64.decode?).bind (openBody? key)
    with _ | text
  · rfl
  · obtain ⟨nonce, hsealed⟩ := isSealed_iff.mpr hopened
    exact absurd hsealed (h nonce text)

/-- A text is answered as it is in the open. -/
theorem read_eq_answer (text : List UInt8) (now : Instant) :
    Claims.read text now = SignedToken.answer (Base64.encode text) now := by
  unfold SignedToken.answer
  rw [Base64.decode?_encode]

/-- Whether a token passes its seal depends on whether it was sealed under the key, and on nothing
else. -/
theorem verify_ne_invalidSignature_iff {now : Instant} :
    verify key now token ≠ .error .invalidSignature
      ↔ ∃ nonce text, IsSealed key token nonce text := by
  constructor
  · intro h
    by_contra hnone
    simp only [not_exists] at hnone
    exact h (verify_of_not_isSealed hnone now)
  · rintro ⟨nonce, text, hsealed⟩
    rw [verify_of_isSealed hsealed, read_eq_answer]
    exact SignedToken.answer_ne_invalidSignature _ now

/-! ## The two formats -/

/-- The first segment of a sealed token is not the header of a signed one. -/
theorem not_isHeader_front : ¬ SignedToken.IsHeader ['v', '1'] := by
  rintro ⟨bytes, -, hencoded, -⟩
  have hread : Base64.decode? ['v', '1'] = some bytes := Base64.decode?_eq_some_iff.mpr hencoded
  have hrefused : Base64.decode? ['v', '1'] = none := by decide
  rw [hrefused] at hread
  cases hread

/-- No token is both sealed and signed, under whatever keys. -/
theorem IsSealed.not_isSigned (h : IsSealed key token nonce text) (header claims : List Char) :
    ¬ SignedToken.IsSigned key' token header claims := by
  intro hsigned
  have hfront : token.toList = ['v', '1'] ++ '.' :: ("local.".toList ++ Base64.encode (nonce
      ++ Gcm.close (hkdf (utf8 "bankcore-token") key (utf8 "v1.local.")) nonce (utf8 "v1.local.")
        text)) := h.token_eq
  have hdot : '.' ∉ ['v', '1'] := by decide
  have hsegments := hsigned.segments_eq
  rw [hfront, SignedToken.segments_append hdot] at hsegments
  have hheader : header = ['v', '1'] := (List.cons.inj hsegments).1.symm
  exact not_isHeader_front (hheader ▸ hsigned.isHeader)

/-- What a key makes of sealed tokens. -/
structure Encloses (key : List UInt8) : Prop where
  /-- What is issued has the claims sealed in it, with the nonce that was drawn for it. -/
  issued : ∀ nonce c, IsSealed key (create key nonce c) nonce.toList c.write
  /-- A token is accepted if something is sealed in it, and whatever else it is, it is refused
  alike. -/
  accepted_iff : ∀ token now, verify key now token ≠ .error .invalidSignature
    ↔ ∃ nonce text, IsSealed key token nonce text
  /-- Nonce and text of a sealed token are the token's own. -/
  unique : ∀ token nonce text nonce' text', IsSealed key token nonce text →
    IsSealed key token nonce' text' → nonce = nonce' ∧ text = text'
  /-- The text makes the same token when it is sealed with the nonce again. -/
  again : ∀ token nonce text, IsSealed key token nonce text → write key nonce text = token
  /-- A text that is sealed is answered as it would be in the open: as unreadable or nameless, as
  expired, or with the claims. -/
  judges : ∀ token nonce text now, IsSealed key token nonce text →
    SignedToken.Judges (Base64.encode text) now (verify key now token)
  /-- No other key and no other nonce make a difference to that. -/
  alike : ∀ token nonce text key' token' nonce' now, IsSealed key token nonce text →
    IsSealed key' token' nonce' text → verify key now token = verify key' now token'
  /-- What is accepted here is not accepted as a signed token, at any time and under any key. -/
  apart : ∀ token now key' now', verify key now token = .error .invalidSignature
    ∨ SignedToken.verify key' now' token = .error .invalidSignature

/-- Under any key, the tokens that are accepted are those in which something is sealed with it.
They are answered by that and the clock, and no signed token is among them. -/
theorem encloses (key : List UInt8) : Encloses key where
  issued := isSealed_create key
  accepted_iff _ _ := verify_ne_invalidSignature_iff
  unique _ _ _ _ _ h h' := h.unique h'
  again _ _ _ h := h.write_eq
  judges token nonce text now h := by
    rw [verify_of_isSealed h, read_eq_answer]
    exact SignedToken.judges_answer _ now
  alike token nonce text key' token' nonce' now h h' := by
    rw [verify_of_isSealed h, verify_of_isSealed h']
  apart token now key' now' := by
    by_cases hsealed : ∃ nonce text, IsSealed key token nonce text
    · obtain ⟨nonce, text, h⟩ := hsealed
      exact .inr (SignedToken.verify_of_not_isSigned (fun _ _ => h.not_isSigned _ _) now')
    · simp only [not_exists] at hsealed
      exact .inl (verify_of_not_isSealed hsealed now)

end CountingHouse.SealedToken
