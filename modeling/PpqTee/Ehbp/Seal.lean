import PpqTee.Error
import PpqTee.Lib.BigEndian

/-! HPKE-sealing a request body to the enclave's attested public key. -/

namespace PpqTee.Ehbp

def U32_MAX : Nat := 2 ^ 32 - 1

/-- The `hpke` crate with the suite X25519-HKDF-SHA256 / HKDF-SHA256 / AES-256-GCM, base
mode. Every step may fail with a message; `Entropy` is what encapsulation draws. -/
structure Hpke where
  Entropy : Type
  PublicKey : Type
  SenderCtx : Type
  publicKeyFromBytes : Vector UInt8 32 → Except String PublicKey
  setupSender : Entropy → PublicKey → (info : Bytes) → Except String (Bytes × SenderCtx)
  ctxSeal : SenderCtx → (plaintext aad : Bytes) → Except String Bytes × SenderCtx
  ctxExport : SenderCtx → (label : Bytes) → (n : Nat) → Except String (Vector UInt8 n)

/-- Everything needed to decrypt one response, retained from the request. -/
structure ResponseSession where
  exportedSecret : Vector UInt8 32
  enc : Vector UInt8 32
  deriving DecidableEq, Repr

structure SealedRequest where
  enc : Vector UInt8 32
  body : Bytes
  session : ResponseSession
  deriving DecidableEq, Repr

def REQUEST_INFO : Bytes := utf8 "ehbp request"

def RESPONSE_EXPORT_LABEL : Bytes := utf8 "ehbp response"

/-- Prepend the 4-byte big-endian ciphertext length; `as u32` drops the bits above 32. -/
def frame (ciphertext : Bytes) : Bytes :=
  BigEndian.toBytes 4 (ciphertext.length % 2 ^ 32) ++ ciphertext

@[simp] theorem length_frame (ciphertext : Bytes) :
    (frame ciphertext).length = 4 + ciphertext.length := by
  simp [frame]

theorem frame_ne_nil (ciphertext : Bytes) : frame ciphertext ≠ [] :=
  List.ne_nil_of_length_pos (by rw [length_frame]; omega)

@[simp] theorem drop_frame (ciphertext : Bytes) : (frame ciphertext).drop 4 = ciphertext := by
  unfold frame
  rw [List.drop_left' (BigEndian.length_toBytes 4 _)]

/-- `[u8; 32]::try_from`. -/
def toArray32 (bytes : Bytes) : Option (Vector UInt8 32) :=
  if h : bytes.length = 32 then some ⟨bytes.toArray, by simpa using h⟩ else none

/-- `seal::seal`. `entropy` is what this call's encapsulation draws. -/
def sealBody (hpke : Hpke) (entropy : hpke.Entropy) (publicKey : Vector UInt8 32)
    (plaintext : Bytes) : Result SealedRequest :=
  -- a request longer than this could not be framed, and is refused rather than cut
  if plaintext.length > U32_MAX - 16 then
    .error (.ehbp "request body is too large to frame")
  else do
    let pk ← (hpke.publicKeyFromBytes publicKey).mapError fun e =>
      .ehbp s!"bad enclave public key: {e}"
    let (enc, ctx) ← (hpke.setupSender entropy pk REQUEST_INFO).mapError fun e =>
      .ehbp s!"HPKE setup failed: {e}"
    let (sealed, ctx) := hpke.ctxSeal ctx plaintext []
    let ct ← sealed.mapError fun e => .ehbp s!"sealing request failed: {e}"
    let exportedSecret ← (hpke.ctxExport ctx RESPONSE_EXPORT_LABEL 32).mapError fun e =>
      .ehbp s!"HPKE export failed: {e}"
    match toArray32 enc with
    | none => .error (.ehbp "encapsulated key is not 32 bytes")
    | some encBytes =>
      .ok { enc := encBytes, body := frame ct, session := ⟨exportedSecret, encBytes⟩ }

/-- What the errors of `seal` begin with. -/
def sealErrors : List String :=
  ["request body is too large to frame", "bad enclave public key: ", "HPKE setup failed: ",
    "sealing request failed: ", "HPKE export failed: ", "encapsulated key is not 32 bytes"]

theorem sealBody_errors (hpke : Hpke) (entropy : hpke.Entropy) (publicKey : Vector UInt8 32)
    (plaintext : Bytes) :
    Fails (BeginsWith sealErrors) (sealBody hpke entropy publicKey plaintext) := by
  unfold sealBody
  split
  · exact .error (.literal (by decide))
  · apply Fails.bindMapError (BeginsWith.caused (by decide))
    intro pk
    apply Fails.bindMapError (BeginsWith.caused (by decide))
    intro setup
    apply Fails.bindMapError (BeginsWith.caused (by decide))
    intro ct
    apply Fails.bindMapError (BeginsWith.caused (by decide))
    intro exportedSecret
    split
    · exact .error (.literal (by decide))
    · exact .ok _

/-- The steps of a `seal` that succeeded. -/
theorem sealBody_ok {hpke : Hpke} {entropy : hpke.Entropy} {publicKey : Vector UInt8 32}
    {plaintext : Bytes} {isSealed : SealedRequest} :
    sealBody hpke entropy publicKey plaintext = .ok isSealed ↔
      plaintext.length ≤ U32_MAX - 16 ∧ ∃ pk enc ctx ctx' ct secret encBytes,
        hpke.publicKeyFromBytes publicKey = .ok pk ∧
        hpke.setupSender entropy pk REQUEST_INFO = .ok (enc, ctx) ∧
        hpke.ctxSeal ctx plaintext [] = (.ok ct, ctx') ∧
        hpke.ctxExport ctx' RESPONSE_EXPORT_LABEL 32 = .ok secret ∧
        toArray32 enc = some encBytes ∧ isSealed = ⟨encBytes, frame ct, ⟨secret, encBytes⟩⟩ := by
  unfold sealBody
  apply Iff.intro
  · intro done
    by_cases large : plaintext.length > U32_MAX - 16
    · rw [if_pos large] at done
      cases done
    · rw [if_neg large] at done
      obtain ⟨pk, key, rest⟩ := bind_ok.mp done
      obtain ⟨⟨enc, ctx⟩, setup, rest⟩ := bind_ok.mp rest
      rcases called : hpke.ctxSeal ctx plaintext [] with ⟨result, ctx'⟩
      simp only [called] at rest
      obtain ⟨ct, encrypted, rest⟩ := bind_ok.mp rest
      obtain ⟨secret, exported, rest⟩ := bind_ok.mp rest
      rw [mapError_ok] at key setup encrypted exported
      rw [encrypted] at called
      split at rest
      · cases rest
      · rename_i encBytes array
        cases rest
        exact ⟨Nat.not_lt.mp large, pk, enc, ctx, ctx', ct, secret, encBytes, key, setup, called,
          exported, array, rfl⟩
  · intro steps
    obtain ⟨small, pk, enc, ctx, ctx', ct, secret, encBytes, key, setup, encrypted, exported, array,
      same⟩ := steps
    rw [if_neg (Nat.not_lt.mpr small), same]
    simp only [key, setup, encrypted, exported, array, Except.mapError, ok_bind]

end PpqTee.Ehbp
