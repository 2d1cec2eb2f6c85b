import Mathlib.Data.Set.Basic

/-!
# Signature schemes

A signature scheme with 64 byte signatures, as a program uses it: keys, signing and
verification are opaque.  What a program may rely on is stated as properties of the
scheme: that it verifies its own signatures (`Correct`), and, for the ideal scheme of
a security argument, that a key accepts only messages its owner signed
(`Unforgeable`).
-/

namespace Signing

/-- The 64 bytes of a signature. -/
structure Signature where
  bytes : List UInt8
  length_eq : bytes.length = 64

namespace Signature

/-- Bytes as a signature, if there are 64 of them. -/
def fromBytes (bs : List UInt8) : Option Signature :=
  if h : bs.length = 64 then some ⟨bs, h⟩ else none

@[simp] lemma fromBytes_bytes (sig : Signature) : fromBytes sig.bytes = some sig := by
  rw [fromBytes, dif_pos sig.length_eq]

lemma bytes_of_fromBytes {bs : List UInt8} {sig : Signature} (h : fromBytes bs = some sig) :
    sig.bytes = bs := by
  rw [fromBytes] at h
  split at h
  · rw [← Option.some.inj h]
  · exact absurd h (by simp)

end Signature

structure Scheme where
  SigningKey : Type
  VerifyingKey : Type
  /-- The public half of a key. -/
  verifyingKey : SigningKey → VerifyingKey
  sign : SigningKey → List UInt8 → Signature
  verify : VerifyingKey → List UInt8 → Signature → Bool

/-- Every signature verifies under the matching key. -/
def Scheme.Correct (S : Scheme) : Prop :=
  ∀ sk msg, S.verify (S.verifyingKey sk) msg (S.sign sk msg) = true

/-- The key accepts only messages that were signed. -/
def Scheme.Unforgeable (S : Scheme) (vk : S.VerifyingKey) (signed : Set (List UInt8)) : Prop :=
  ∀ msg sig, S.verify vk msg sig = true → msg ∈ signed

/-- A scheme with a single key that signs every message with the same bytes and
accepts the messages for which `accepted` holds. -/
abbrev Scheme.constant (accepted : List UInt8 → Bool) : Scheme where
  SigningKey := Unit
  VerifyingKey := Unit
  verifyingKey _ := ()
  sign _ _ := ⟨List.replicate 64 0, by simp⟩
  verify _ msg _ := accepted msg

lemma Scheme.constant_correct : (Scheme.constant fun _ => true).Correct := fun _ _ => rfl

end Signing
