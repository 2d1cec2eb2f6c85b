import Haske.AccessToken.Compact

/-!
# The offline verifier

The command line tool that a gate runs.  It loads the issuer's public key, takes the
pass from an argument or from an image, and tries the two formats in turn: first the
JSON pass and then, whatever the reason it failed for, the compact one.

What the tool takes from its machine is a `Host`: the contents of files, the QR codes
found in an image and the key library's reading of 32 bytes.  It looks at the clock
once in each branch, and the two readings are the arguments `now` and `now'`.
-/

namespace Haske

open Serde Signing Result

structure Args where
  publicKey : Option String
  token : Option String
  qrImage : Option String

structure Host (S : Scheme) where
  /-- `fs::read_to_string`. -/
  readToString : String → Option String
  /-- `VerifyingKey::from_bytes`. -/
  fromBytes : List UInt8 → Option S.VerifyingKey
  /-- The grids detected in an image file, each with what it decodes to. -/
  detectGrids : String → Option (List (Option String))

/-- An error of a library, or one the tool words itself. -/
inductive VerifierError where
  | library
  | message (text : String)
deriving DecidableEq

section

variable {S : Scheme} (host : Host S)

def loadPublicKey (path : Option String) : Except VerifierError S.VerifyingKey := do
  let publicKeyB64 ←
    match path with
    | some path => okOr (host.readToString path) .library
    | none => .ok "REPLACE_WITH_BASE64_PUBLIC_KEY"
  let publicKeyBytes ←
    okOr (Base64.decode Base64.standard true (Utf8.asBytes (Utf8.trim publicKeyB64))) .library
  if publicKeyBytes.length = 32 then
    okOr (host.fromBytes publicKeyBytes) .library
  else .error (.message "invalid public key length")

def decodeQrImage (path : String) : Except VerifierError String := do
  let grids ← okOr (host.detectGrids path) .library
  match grids with
  -- the loop over the grids returns or fails at the first of them
  | grid :: _ => okOr grid .library
  | [] => .error (.message "no QR code detected")

/-- The pass to check. -/
def Args.readToken (args : Args) : Except VerifierError String :=
  match args.token, args.qrImage with
  | some token, _ => .ok token
  | none, some qrImage => decodeQrImage host qrImage
  | none, none => .error (.message "provide --token or --qr-image")

def isExpired (now expiresAt : UInt64) : Bool := now > expiresAt

def run (args : Args) (now now' : UInt64) : Except VerifierError Bool := do
  let publicKey ← loadPublicKey host args.publicKey
  let token ← args.readToken host
  let token := Utf8.trim token
  if verifyTokenString S token publicKey now = .valid then
    .ok true
  else
    match verifyCompactToken S token publicKey with
    | .ok payload => .ok (!isExpired now' payload.expiresAt)
    | .error _ => .ok false

/-- The line that is printed and the exit status. -/
def main (args : Args) (now now' : UInt64) : String × ℕ :=
  match run host args now now' with
  | .ok true => ("VALID", 0)
  | .ok false => ("INVALID", 1)
  | .error _ => ("INVALID", 1)

variable {host}

/-! ### The public key -/

/-- There is no white space in base64 text. -/
lemma isWhitespace_of_mem_encode {A : Base64.Alphabet} {pad : Bool} {bs : List UInt8} {c : Char}
    (hletter : ∀ v, Utf8.isWhitespace (Char.ofNat (A.symbol v).toNat) = false)
    (hc : c ∈ (Base64.encode A pad bs).toList) : Utf8.isWhitespace c = false := by
  rw [Base64.encode, Utf8.toList_ofAscii, List.mem_map] at hc
  obtain ⟨b, hb, rfl⟩ := hc
  rcases Base64.mem_encodeBytes hb with ⟨v, rfl⟩ | ⟨-, rfl⟩
  · exact hletter v
  · decide

lemma trim_encode (bs : List UInt8) :
    Utf8.trim (Base64.encode Base64.standard true bs) = Base64.encode Base64.standard true bs :=
  Utf8.trim_of_forall fun _ hc => isWhitespace_of_mem_encode (by decide) hc

/-- The key in a file that holds its base64 text. -/
lemma loadPublicKey_of_file {path : String} {bytes : List UInt8} {publicKey : S.VerifyingKey}
    (hfile : host.readToString path = some (Base64.encode Base64.standard true bytes))
    (hlength : bytes.length = 32) (hkey : host.fromBytes bytes = some publicKey) :
    loadPublicKey host (some path) = .ok publicKey := by
  simp only [loadPublicKey, hfile, okOr_some, bind_ok, trim_encode, Base64.decode_encode, hlength,
    hkey, if_true]

/-- A machine with one key in every file, and no images. -/
def Host.withKey (publicKey : S.VerifyingKey) : Host S where
  readToString _ := some (Base64.encode Base64.standard true (List.replicate 32 0))
  fromBytes _ := some publicKey
  detectGrids _ := none

lemma loadPublicKey_withKey (publicKey : S.VerifyingKey) (path : String) :
    loadPublicKey (Host.withKey publicKey) (some path) = .ok publicKey :=
  loadPublicKey_of_file rfl (by simp) rfl

lemma Args.readToken_of_token {args : Args} {token : String} (h : args.token = some token) :
    args.readToken host = .ok token := by
  simp [Args.readToken, h]

/-! ### The verdict -/

/-- The verdict on the text of a pass under a key. -/
def Accepts (S : Scheme) (publicKey : S.VerifyingKey) (text : String) (now now' : UInt64) : Prop :=
  (∃ signed, fromStr SignedAccessToken.ofDoc text = some signed ∧
    verifySignedTokenAt S signed publicKey now = .ok ()) ∨
  ∃ p, verifyCompactToken S text publicKey = .ok p ∧ now' ≤ p.expiresAt

/-- The tool answers `true` exactly for the passes that one of the formats accepts. -/
theorem run_eq_ok_true {args : Args} {publicKey : S.VerifyingKey} {token : String}
    {now now' : UInt64} (hkey : loadPublicKey host args.publicKey = .ok publicKey)
    (htoken : args.readToken host = .ok token) :
    run host args now now' = .ok true ↔ Accepts S publicKey (Utf8.trim token) now now' := by
  simp only [run, hkey, htoken, bind_ok]
  by_cases hjson : verifyTokenString S (Utf8.trim token) publicKey now = .valid
  · rw [if_pos hjson]
    exact iff_of_true rfl (Or.inl (verifyTokenString_eq_valid.1 hjson))
  · rw [if_neg hjson]
    have hnot := mt verifyTokenString_eq_valid.2 hjson
    rw [Accepts, or_iff_right hnot]
    cases hcompact : verifyCompactToken S (Utf8.trim token) publicKey with
    | error e => simp
    | ok p => simp [isExpired]

/-- With a key and a pass to check, the tool gives a verdict. -/
lemma run_eq_ok {args : Args} {publicKey : S.VerifyingKey} {token : String} (now now' : UInt64)
    (hkey : loadPublicKey host args.publicKey = .ok publicKey)
    (htoken : args.readToken host = .ok token) :
    ∃ verdict, run host args now now' = .ok verdict := by
  simp only [run, hkey, htoken, bind_ok]
  split
  · exact ⟨true, rfl⟩
  · split
    · exact ⟨_, rfl⟩
    · exact ⟨false, rfl⟩

/-- The verdict is whether the pass is accepted. -/
lemma run_eq_decide {args : Args} {publicKey : S.VerifyingKey} {token : String}
    {now now' : UInt64} {p : Prop} [Decidable p]
    (hkey : loadPublicKey host args.publicKey = .ok publicKey)
    (htoken : args.readToken host = .ok token)
    (haccepts : Accepts S publicKey (Utf8.trim token) now now' ↔ p) :
    run host args now now' = .ok (decide p) := by
  obtain ⟨verdict, hverdict⟩ := run_eq_ok now now' hkey htoken
  have hiff : verdict = true ↔ p := by
    rw [← haccepts, ← run_eq_ok_true hkey htoken, hverdict, Except.ok.injEq]
  rw [hverdict, Except.ok.injEq, ← Bool.coe_iff_coe, hiff, decide_eq_true_iff]

/-- A run that gives a verdict had a pass to check. -/
lemma readToken_of_run {args : Args} {now now' : UInt64} {verdict : Bool}
    (h : run host args now now' = .ok verdict) : ∃ token, args.readToken host = .ok token := by
  simp only [run, bind_eq_ok] at h
  obtain ⟨-, -, token, htoken, -⟩ := h
  exact ⟨token, htoken⟩

end

end Haske
