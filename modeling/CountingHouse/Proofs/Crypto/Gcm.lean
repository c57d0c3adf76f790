/-
What has been sealed can be opened, and nothing else.

Sealing and opening combine a text with the same keystream, because a text and its masked form
are of one length, and combining twice is no change. The tag is made from the masked text, so
whoever opens it makes the same one. For the same reasons what is opened was sealed: masked
again, the text is what was in front of the tag, and the tag has been compared as a whole.
-/
import CountingHouse.Crypto.Gcm

set_option autoImplicit false

namespace CountingHouse.Crypto.Gcm

open Aes256 (Block)

/-- Covering a text twice with the same stream uncovers it, if the stream is long enough. -/
theorem zipWith_xor_zipWith_xor {text stream : List UInt8} (h : text.length ≤ stream.length) :
    List.zipWith (· ^^^ ·) (List.zipWith (· ^^^ ·) text stream) stream = text := by
  induction text generalizing stream with
  | nil => simp
  | cons a text ih =>
    match stream, h with
    | b :: stream, h =>
      have hrest := ih (Nat.le_of_succ_le_succ h)
      simp only [List.zipWith_cons_cons, hrest, UInt8.xor_assoc, UInt8.xor_self, UInt8.xor_zero]

/-- The keystream takes itself off again. -/
theorem mask_mask (keys : List Block) (nonce text : List UInt8) :
    mask keys nonce (mask keys nonce text) = text := by
  have hlength := length_mask keys nonce text
  have hstream : text.length ≤ (keystream keys nonce ((text.length + 15) / 16)).length := by
    rw [length_keystream]
    omega
  unfold mask at hlength ⊢
  rw [hlength]
  exact zipWith_xor_zipWith_xor hstream

/-- What is closed is longer than the text by the tag. -/
theorem length_close (key nonce associated text : List UInt8) :
    (close key nonce associated text).length = text.length + tagLength := by
  simp [close]

/-- What has been closed is opened, with the same key, nonce and associated bytes. -/
theorem open?_close (key nonce associated text : List UInt8) :
    open? key nonce associated (close key nonce associated text) = some text := by
  have hlength : (close key nonce associated text).length - tagLength
      = (mask (Aes256.roundKeys key) nonce text).length := by
    rw [length_close, length_mask, Nat.add_sub_cancel]
  have hle : tagLength ≤ (close key nonce associated text).length := by
    rw [length_close]
    exact Nat.le_add_left _ _
  unfold open?
  simp only [hlength]
  unfold close at hle ⊢
  simp only [List.take_left, List.drop_left]
  rw [if_pos ⟨hle, trivial⟩, mask_mask]

/-- Whatever is opened is the sealed form of what comes out. -/
theorem eq_close_of_open? {key nonce associated body text : List UInt8}
    (h : open? key nonce associated body = some text) :
    body = close key nonce associated text := by
  unfold open? at h
  dsimp only at h
  split at h
  · rename_i hours
    obtain ⟨-, htag⟩ := hours
    have htext := Option.some.inj h
    unfold close
    dsimp only
    rw [← htext, mask_mask, ← htag, List.take_append_drop]
  · cases h

/-- A form can be opened if it is the sealed form of a text, and it is that of one text only. -/
theorem open?_eq_some_iff {key nonce associated body text : List UInt8} :
    open? key nonce associated body = some text ↔ body = close key nonce associated text := by
  constructor
  · exact eq_close_of_open?
  · rintro rfl
    exact open?_close key nonce associated text

end CountingHouse.Crypto.Gcm
