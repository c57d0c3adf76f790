/-
Sealed tokens: claims under authenticated encryption.

A token is a fixed header and, in base 64, a nonce with the sealed claims behind it.
The header is bound to the claims as associated data, so the same bytes are worth
nothing behind another header. The key of the cipher is derived from the configured
one. Nobody without the key reads the claims or changes them.
-/
import CountingHouse.Token.Claims
import CountingHouse.Text.Base64
import CountingHouse.Crypto.Gcm

set_option autoImplicit false

namespace CountingHouse.SealedToken

open Text Crypto

def header : String := "v1.local."

def nonceLength : Nat := 12

def cipherKey (key : List UInt8) : List UInt8 := hkdf (utf8 "bankcore-token") key (utf8 header)

/-- A nonce and the sealed form of a text behind it. -/
def body (key nonce text : List UInt8) : List UInt8 :=
  nonce ++ Gcm.close (cipherKey key) nonce (utf8 header) text

def create (key : List UInt8) (nonce : Vector UInt8 12) (claims : Claims) : String :=
  header ++ String.ofList (Base64.encode (body key nonce.toList claims.write))

def openBody? (key bytes : List UInt8) : Option (List UInt8) :=
  if nonceLength < bytes.length then
    Gcm.open? (cipherKey key) (bytes.take nonceLength) (utf8 header) (bytes.drop nonceLength)
  else none

/-- The characters behind a front, if the text starts with it. -/
def behind? : List Char → List Char → Option (List Char)
  | [], s => some s
  | _ :: _, [] => none
  | a :: front, c :: s => if a = c then behind? front s else none

def verify (key : List UInt8) (now : Instant) (token : String) : Except TokenError Claims :=
  match ((behind? header.toList token.toList).bind Base64.decode?).bind (openBody? key) with
  | some bytes => Claims.read bytes now
  | none => .error .invalidSignature

/-- A text starts with a front exactly if it is that front and something behind it. -/
theorem behind?_eq_some_iff {front s rest : List Char} :
    behind? front s = some rest ↔ s = front ++ rest := by
  induction front generalizing s with
  | nil => simp [behind?]
  | cons a front ih =>
    cases s with
    | nil => simp [behind?]
    | cons c s =>
      by_cases h : a = c
      · subst h
        simp [behind?, ih]
      · simp [behind?, h, Ne.symm h]

end CountingHouse.SealedToken
