import PpqTee.Client.Agreement
import PpqTee.Client.Completion
import PpqTee.Client.Rig
import PpqTee.Ehbp.RoundTrip

/-! The enclave half of the protocol, as the tests run it, and the whole exchange between it and the
client: what either of them sends is what the other one gets. -/

namespace PpqTee.Client
open Ehbp

/-- The receiving half of the `hpke` crate, in the same suite. -/
structure HpkeReceiver where
  PrivateKey : Type
  EncappedKey : Type
  ReceiverCtx : Type
  encappedKeyFromBytes : Vector UInt8 32 → Except String EncappedKey
  setupReceiver : PrivateKey → EncappedKey → (info : Bytes) → Except String ReceiverCtx
  ctxOpen : ReceiverCtx → (ciphertext aad : Bytes) → Except String Bytes × ReceiverCtx
  ctxExport : ReceiverCtx → (label : Bytes) → (n : Nat) → Except String (Vector UInt8 n)

/-- A request as it arrived on the wire. -/
structure Recorded where
  headers : String → Option String
  body : Bytes

/-- The loop over the frames of a request. `none` is a panic: a frame past the end of the body, or
one that does not authenticate. -/
def openFrames (receiver : HpkeReceiver) (ctx : receiver.ReceiverCtx) (plaintext rest : Bytes) :
    Option (Bytes × receiver.ReceiverCtx) :=
  if _more : rest.length ≥ 4 then
    let n := BigEndian.ofBytes (rest.take 4)
    let rest := rest.drop 4
    if n ≤ rest.length then
      match receiver.ctxOpen ctx (rest.take n) [] with
      | (.ok opened, ctx) => openFrames receiver ctx (plaintext ++ opened) (rest.drop n)
      | (.error _, _) => none
    else none
  else some (plaintext, ctx)
termination_by rest.length
decreasing_by
  simp only [List.length_drop]
  omega

/-- What the enclave has of a request once it is open. -/
structure OpenedRequest where
  enc : Vector UInt8 32
  plaintext : Bytes
  exportedSecret : Vector UInt8 32
  deriving DecidableEq, Repr

/-- The first half of `enclave`, as far as the exported secret. -/
def openRequest (crates : Crates) (receiver : HpkeReceiver) (sk : receiver.PrivateKey)
    (request : Recorded) : Option OpenedRequest := do
  let text ← request.headers "ehbp-encapsulated-key"
  let bytes ← (crates.hexDecode text).toOption
  let encBytes ← toArray32 bytes
  let enc ← (receiver.encappedKeyFromBytes encBytes).toOption
  let ctx ← (receiver.setupReceiver sk enc REQUEST_INFO).toOption
  let (plaintext, ctx) ← openFrames receiver ctx [] request.body
  let secret ← (receiver.ctxExport ctx RESPONSE_EXPORT_LABEL 32).toOption
  some ⟨encBytes, plaintext, secret⟩

/-- `enclave`: open the sealed request, then seal `parts` back, under a nonce that the tests fix.
`none` is a panic. -/
def enclave (crates : Crates) (receiver : HpkeReceiver) (sk : receiver.PrivateKey) (nonce : Bytes)
    (request : Recorded) (parts : List Bytes) : Option (Value × Bytes) := do
  let opened ← openRequest crates receiver sk request
  let sealer ← (FrameSealer.new crates.toCrypto opened.exportedSecret opened.enc nonce).toOption
  let frames ← (sealer.sealAll crates.toCrypto parts).toOption
  let v ← (crates.jsonFromSlice opened.plaintext).toOption
  some (v, frames.flatten)

/-- `nonce_header`. -/
def nonceHeader (crates : Crates) (nonce : Bytes) : String × Bytes :=
  ("ehbp-response-nonce", utf8 (crates.hexEncode nonce))

/-- What both ends rely on: the AEAD and HKDF do their work, hex decodes to what was encoded, and
headers carry the text they are given. -/
structure Crates.Lawful (crates : Crates) : Prop where
  honest : Honest crates.toCrypto
  capable : Capable crates.toCrypto
  carries : Carries crates
  hex : ∀ bytes, crates.hexDecode (crates.hexEncode bytes) = .ok bytes
  solid : ∀ bytes, ∀ c ∈ (crates.hexEncode bytes).toList, isWhitespace c = false
  visible : ∀ bytes,
    crates.headerValueToStr (utf8 (crates.hexEncode bytes)) = some (crates.hexEncode bytes)

/-- Every header is text. -/
def HeaderMap.Readable (headers : HeaderMap) : Prop :=
  ∀ header ∈ headers, ∃ text, header.2 = utf8 text

namespace HeaderMap

theorem Readable.insert {headers : HeaderMap} (readable : headers.Readable) (name text : String) :
    (HeaderMap.insert headers name (utf8 text)).Readable := by
  intro header member
  rcases List.mem_append.mp member with old | new
  · exact readable header (List.mem_filter.mp old).1
  · rw [List.mem_singleton.mp new]
    exact ⟨text, rfl⟩

end HeaderMap

/-! The request on its way to the enclave. -/

theorem openFrames_frame {receiver : HpkeReceiver} {ctx ctx' : receiver.ReceiverCtx}
    {ct plaintext : Bytes} (fits : ct.length ≤ U32_MAX)
    (opens : receiver.ctxOpen ctx ct [] = (.ok plaintext, ctx')) :
    openFrames receiver ctx [] (frame ct) = some (plaintext, ctx') := by
  have announced : BigEndian.ofBytes ((frame ct).take 4) = ct.length := by
    have first := lenPrefix_frame fits []
    rw [List.append_nil] at first
    exact first
  have ended : openFrames receiver ctx' ([] ++ plaintext) [] = some (plaintext, ctx') := by
    rw [openFrames, dif_neg (by decide), List.nil_append]
  rw [openFrames, dif_pos (by rw [length_frame]; omega)]
  simp only [announced, drop_frame]
  rw [if_pos (Nat.le_refl _), List.take_length, List.drop_length, opens]
  exact ended

def HpkeReceiver.clear : HpkeReceiver where
  PrivateKey := Unit
  EncappedKey := Unit
  ReceiverCtx := Unit
  encappedKeyFromBytes _ := .ok ()
  setupReceiver _ _ _ := .ok ()
  ctxOpen ctx ciphertext _ := (.ok (ciphertext.take (ciphertext.length - 16)), ctx)
  ctxExport _ _ n := .ok (Vector.replicate n 0)

def digitValue (c : Char) : Except String Nat :=
  if c.isDigit then .ok (c.toNat - 48)
  else if 'a' ≤ c ∧ c ≤ 'f' then .ok (c.toNat - 87)
  else .error s!"Invalid character {c}"

def hexText (bytes : Bytes) : String :=
  String.ofList (bytes.flatMap fun b => [Nat.digitChar (b.toNat / 16), Nat.digitChar (b.toNat % 16)])

def hexBytes : List Char → Except String Bytes
  | [] => .ok []
  | [_] => .error "Odd number of digits"
  | high :: low :: rest => do
    let high ← digitValue high
    let low ← digitValue low
    let later ← hexBytes rest
    .ok (UInt8.ofNat (high * 16 + low) :: later)

theorem digitValue_digitChar : ∀ n < 16, digitValue (Nat.digitChar n) = .ok n := by decide

theorem isWhitespace_digitChar : ∀ n < 16, isWhitespace (Nat.digitChar n) = false := by decide

theorem hexBytes_hexText (bytes : Bytes) : hexBytes (hexText bytes).toList = .ok bytes := by
  rw [hexText, String.toList_ofList]
  induction bytes with
  | nil => rfl
  | cons b bytes ih =>
    have bounded := b.toNat_lt
    have whole : b.toNat / 16 * 16 + b.toNat % 16 = b.toNat := by omega
    rw [List.flatMap_cons]
    show hexBytes (Nat.digitChar (b.toNat / 16) :: Nat.digitChar (b.toNat % 16) ::
      bytes.flatMap fun b => [Nat.digitChar (b.toNat / 16), Nat.digitChar (b.toNat % 16)]) = _
    rw [hexBytes, digitValue_digitChar _ (by omega), digitValue_digitChar _ (by omega), ih]
    simp only [ok_bind, whole, UInt8.ofNat_toNat]

theorem hexText_solid (bytes : Bytes) : ∀ c ∈ (hexText bytes).toList, isWhitespace c = false := by
  intro c member
  rw [hexText, String.toList_ofList, List.mem_flatMap] at member
  obtain ⟨b, _, digit⟩ := member
  have bounded := b.toNat_lt
  rcases List.mem_pair.mp digit with high | low
  · rw [high]
    exact isWhitespace_digitChar _ (by omega)
  · rw [low]
    exact isWhitespace_digitChar _ (by omega)

def pairedText : Bytes := utf8 "\x7b\"model\":\"m\"\x7d"

def pairedJson (bytes : Bytes) : Except JsonError Value :=
  if bytes = pairedText then .ok (.object [("model", .string "m")])
  else .error ⟨"expected value at line 1 column 1"⟩

def pairedCrates : Crates where
  toCrypto := .clear
  toHpke := .clear
  hexDecode text := hexBytes text.toList
  hexEncode := hexText
  jsonFromSlice := pairedJson
  jsonToVec _ := .ok pairedText
  headerValueFromStr text := some (utf8 text)
  headerValueToStr bytes := (fromUtf8 bytes).toOption
  hexIsHeaderValue _ := rfl

theorem lawful_paired : pairedCrates.Lawful where
  honest := honest_clear
  capable := capable_clear
  carries text value same := (Option.some.inj same).symm
  hex := hexBytes_hexText
  solid := hexText_solid
  visible bytes := by
    show (fromUtf8 (utf8 (hexText bytes))).toOption = some (hexText bytes)
    rw [fromUtf8_utf8]
    rfl

def pairedCall : SealCall where
  client := plainClient
  url := "https://a.b/private/v1/chat/completions"
  sent := [("model", .string "m")]
  plaintext := pairedText
  headers := [("x-private-model", utf8 "m"), ("x-query-source", utf8 "api")]

end PpqTee.Client
