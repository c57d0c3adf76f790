/-
Signed tokens: JSON web tokens with HMAC-SHA256.

A token is three segments with dots between them: a header, the claims, and the
authentication code of the first two with their dot, each in base 64. The claims can
be read by anybody and changed by nobody. Only one algorithm is accepted. Everything
about the code is checked before the claims are looked at, so a token that is not one
of ours is refused in one way.
-/
import CountingHouse.Token.Claims
import CountingHouse.Text.Base64
import CountingHouse.Crypto.Sha256

set_option autoImplicit false

namespace CountingHouse.SignedToken

open Text Crypto

/-! ## Headers -/

def algorithm : String := "HS256"

/-- The header of a token. -/
structure Header where
  algorithm : String
  kind : Option String
  deriving DecidableEq, Repr

namespace Header

def issued : Header := ⟨SignedToken.algorithm, some "JWT"⟩

/-- The document of a header, in which an absent kind is left out. -/
def toJson (h : Header) : Json :=
  .ofFields (("alg", .ofText h.algorithm) ::
    match h.kind with
    | some kind => [("typ", .ofText kind)]
    | none => [])

def ofJson? (j : Json) : Option Header := do
  match ← j.record? ["alg", "typ"] 1 with
  | [algorithm, kind] =>
    return ⟨← Json.required? Json.text? algorithm, ← Json.optional? Json.text? kind⟩
  | _ => none

end Header

/-! ## Tokens -/

/-- The segments of a text: what stands between its dots. -/
def segments : List Char → List (List Char)
  | [] => [[]]
  | c :: rest =>
    if c = '.' then [] :: segments rest
    else match segments rest with
      | [] => [[c]]
      | first :: more => (c :: first) :: more

/-- What is signed: header and claims with a dot between them. -/
def signingInput (header claims : List Char) : List Char := header ++ '.' :: claims

/-- The authentication code of a header and claims. -/
def signature (key : List UInt8) (header claims : List Char) : List UInt8 :=
  hmac key (Utf8.encode (signingInput header claims))

def create (key : List UInt8) (content : Claims) : String :=
  let header := Base64.encode (utf8 Header.issued.toJson.render)
  let claims := Base64.encode content.write
  String.ofList
    (signingInput header claims ++ '.' :: Base64.encode (signature key header claims))

/-- Whether a segment is the header of a token of ours. -/
def acceptsHeader (header : List Char) : Bool :=
  match (Base64.decode? header).bind fun bytes => (Json.ofBytes? bytes).bind Header.ofJson? with
  | some h => h.algorithm == algorithm
  | none => false

def verify (key : List UInt8) (now : Instant) (token : String) : Except TokenError Claims :=
  match segments token.toList with
  | [header, claims, code] =>
    if acceptsHeader header && Base64.decode? code == some (signature key header claims) then
      match Base64.decode? claims with
      | some bytes => Claims.read bytes now
      | none => .error (.invalidClaims .unreadable)
    else .error .invalidSignature
  | _ => .error .invalidSignature

/-! ## Laws -/

theorem segments_ne_nil (s : List Char) : segments s ≠ [] := by
  cases s with
  | nil => simp [segments]
  | cons c rest =>
    rw [segments]
    split
    · simp
    · split <;> simp

theorem segments_of_not_mem {s : List Char} (h : '.' ∉ s) : segments s = [s] := by
  induction s with
  | nil => rfl
  | cons c rest ih =>
    have hc : c ≠ '.' := fun e => h (by simp [e])
    have hrest : '.' ∉ rest := fun m => h (List.mem_cons_of_mem _ m)
    rw [segments, if_neg hc, ih hrest]

/-- A text without dots in front of a dot is the first segment. -/
theorem segments_append {s : List Char} (h : '.' ∉ s) (rest : List Char) :
    segments (s ++ '.' :: rest) = s :: segments rest := by
  induction s with
  | nil => simp [segments]
  | cons c s ih =>
    have hc : c ≠ '.' := fun e => h (by simp [e])
    have hs : '.' ∉ s := fun m => h (List.mem_cons_of_mem _ m)
    rw [List.cons_append, segments, if_neg hc, ih hs]

end CountingHouse.SignedToken
