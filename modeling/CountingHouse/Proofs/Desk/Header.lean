/-
Credentials in a header.

A header presents a credential if it is two words, the scheme *bearer* in any case and the
credential, with any blanks around them and between them (`Presents`). Such a header is answered
as the credential would be, and every other one, or none, as a missing credential. A token of
either format is one word, because its segments are written in base 64 and what stands between
them is not blank; so a token that has been issued can be presented in whatever spacing.
-/
import CountingHouse.Desk.Credentials
import CountingHouse.Proofs.Text.Letters
import CountingHouse.Proofs.Token.RoundTrip

set_option autoImplicit false

namespace CountingHouse

open Text

/-! ## Tokens -/

namespace TokenIssuer

/-- A token is one word. -/
theorem isWord_write (i : TokenIssuer) (nonce : Vector UInt8 12) (claims : Claims) :
    IsWord (i.write nonce claims).toList := by
  unfold write
  rcases i.format with _ | _
  · -- three segments, and the dots between them
    have hdot : ∀ {s : List Char}, (∀ c ∈ s, isBlank c = false) → IsWord ('.' :: s) := by
      intro s hs
      have hword : IsWord ['.'] := by decide
      exact hword.append_left hs
    unfold SignedToken.create SignedToken.signingInput
    simp only [String.toList_ofList, List.append_assoc, List.cons_append]
    refine .append (notBlank_encode _) (hdot (IsWord.append (notBlank_encode _) ?_).not_blank)
    exact hdot (notBlank_encode _)
  · have hheader : IsWord SealedToken.header.toList := by decide
    unfold SealedToken.create
    rw [String.toList_append, String.toList_ofList]
    exact hheader.append_left (notBlank_encode _)

/-- A token of either format is a word: it is put together from characters without blanks, and it is
not empty. -/
theorem isWord_of_create {i : TokenIssuer} {draw : Draw} {now : Instant} {username token : String}
    {duration : Span} {claims : Claims}
    (h : i.create draw now username duration = .ok (token, claims)) : IsWord token.toList := by
  obtain ⟨-, rfl⟩ := create_eq_ok_iff.mp h
  exact i.isWord_write draw.nonce claims

end TokenIssuer

/-! ## Headers -/

namespace CredentialDesk

variable {header token : String}

/-- The scheme in front of a credential. -/
def scheme : List Char := "bearer".toList

/-- Whether a header presents a credential: the scheme and the credential, with blanks around them
and between them. -/
def Presents (header token : String) : Prop :=
  ∃ front bearer gap back : List Char, AreBlank front ∧ SameWord scheme bearer ∧ AreBlank gap
    ∧ gap ≠ [] ∧ IsWord token.toList ∧ AreBlank back
    ∧ header.toList = front ++ bearer ++ gap ++ token.toList ++ back

/-- The scheme is of small letters only, as a comparison without regard to case asks for. -/
theorem letters_of_scheme : ∀ letter ∈ scheme, letter.isLower = true := by
  simp [scheme]

/-- What is found in a header is the credential that it presents. -/
theorem credential?_eq_some_iff :
    credential? (some header) = some token ↔ Presents header token := by
  have hscheme : ∀ {bearer : List Char},
      lowerAscii bearer = "bearer".toList ↔ SameWord scheme bearer :=
    lowerAscii_eq_iff letters_of_scheme
  unfold credential?
  simp only [Option.bind_eq_bind, Option.bind_some]
  constructor
  · intro h
    split at h
    · next bearer credential hfields =>
      simp only [Option.bind_eq_some_iff, Option.guard_eq_some', Option.pure_def,
        Option.some.injEq, exists_const] at h
      obtain ⟨hbearer, rfl⟩ := h
      -- the two fields are cut out of the header, whose blanks are what stands around them
      obtain ⟨front, gap, back, hfront, -, hgap, hne, hcredential, hback, hheader⟩ :=
        fields_eq_two_iff.mp hfields
      rw [← String.toList_ofList (l := credential)] at hcredential hheader
      exact ⟨front, bearer, gap, back, hfront, hscheme.mp hbearer, hgap, hne, hcredential, hback,
        hheader⟩
    · cases h
  · rintro ⟨front, bearer, gap, back, hfront, hbearer, hgap, hne, htoken, hback, hheader⟩
    have hword : IsWord bearer := isWord_of_sameWord (by decide) letters_of_scheme hbearer
    have hfields : fields header.toList = [bearer, token.toList] := fields_eq_two_iff.mpr
      ⟨front, gap, back, hfront, hword, hgap, hne, htoken, hback, hheader⟩
    simp only [hfields, hscheme.mpr hbearer, guard_true, String.ofList_toList]
    rfl

/-- A header that presents a credential comes to the verification of that credential. -/
theorem authorize_of_presents (d : CredentialDesk) (h : Presents header token) :
    d.authorize (some header) = d.verify token := by
  unfold authorize
  rw [credential?_eq_some_iff.mpr h]

/-- A word is the credential behind the scheme and a space. -/
theorem presents_bearer (h : IsWord token.toList) : Presents ("Bearer " ++ token) token := by
  have hfront : "Bearer ".toList = "Bearer".toList ++ [' '] := by decide
  refine ⟨[], "Bearer".toList, [' '], [], areBlank_nil, by decide, by decide,
    List.cons_ne_nil _ _, h, areBlank_nil, ?_⟩
  rw [String.toList_append, hfront, List.nil_append, List.append_nil]

/-- How headers are answered. -/
structure AnswersHeaders (d : CredentialDesk) : Prop where
  /-- A header that presents a credential is answered as the credential. -/
  presented : ∀ header token, Presents header token → d.authorize (some header) = d.verify token
  /-- Any other header, or none, is refused for want of a credential. -/
  missing : ∀ header : Option String, (∀ h token, header = some h → ¬ Presents h token) →
    ∀ s, d.authorize header s = (.error (.unauthorized .missingCredential), s)
  /-- A token that is issued can be presented behind the scheme in any case and any spacing. -/
  issued : ∀ draw now username duration token claims,
    d.issuer.create draw now username duration = .ok (token, claims) →
    ∀ front bearer gap back : List Char, AreBlank front → SameWord scheme bearer → AreBlank gap →
      gap ≠ [] → AreBlank back →
      d.authorize (some (String.ofList (front ++ bearer ++ gap ++ token.toList ++ back)))
        = d.verify token

/-- A desk of either format takes credentials from the headers that present one, and from no
others. -/
theorem answersHeaders (d : CredentialDesk) : d.AnswersHeaders where
  presented _ _ h := d.authorize_of_presents h
  missing header h s := by
    have hnone : credential? header = none := by
      rcases header with _ | header
      · rfl
      · rcases hfound : credential? (some header) with _ | token
        · rfl
        · exact absurd (credential?_eq_some_iff.mp hfound) (h header token rfl)
    unfold authorize
    rw [hnone]
    rfl
  issued _ _ _ _ token _ h front bearer gap back hfront hbearer hgap hne hback := by
    refine d.authorize_of_presents ⟨front, bearer, gap, back, hfront, hbearer, hgap, hne,
      TokenIssuer.isWord_of_create h, hback, ?_⟩
    rw [String.toList_ofList]

end CredentialDesk

end CountingHouse
