import PpqTee.Ehbp.Seal

/-! Deriving the EHBP response AEAD, opening response frames, and the server half that
seals them. -/

namespace PpqTee.Ehbp

abbrev Key := Vector UInt8 32
abbrev Nonce := Vector UInt8 12

/-- HKDF-SHA256 and AES-256-GCM. `extract` takes the salt and the input key material;
`none` is an AEAD failure. -/
structure Crypto where
  extract : (salt ikm : Bytes) → Bytes
  expand : (prk info : Bytes) → (n : Nat) → Except String (Vector UInt8 n)
  encrypt : Key → Nonce → (plaintext : Bytes) → Option Bytes
  decrypt : Key → Nonce → (ciphertext : Bytes) → Option Bytes

def RESPONSE_NONCE_LEN : Nat := 32

/-- `u64::checked_add`. -/
def checkedAdd (a b : UInt64) : Option UInt64 :=
  if a.toNat + b.toNat < 2 ^ 64 then some (a + b) else none

/-- `prk = Extract(salt = enc ‖ response_nonce, ikm = secret)`, then
`key = Expand(prk, "key", 32)` and `nonce = Expand(prk, "nonce", 12)`. -/
def derive (crypto : Crypto) (secret enc : Vector UInt8 32) (responseNonce : Bytes) :
    Result (Key × Nonce) :=
  if responseNonce.length ≠ RESPONSE_NONCE_LEN then
    .error (.ehbp s!"response nonce is {responseNonce.length} bytes, want {RESPONSE_NONCE_LEN}")
  else do
    let salt := enc.toList ++ responseNonce
    let hk := crypto.extract salt secret.toList
    let key ← (crypto.expand hk (utf8 "key") 32).mapError fun e =>
      .ehbp s!"key expansion failed: {e}"
    let base ← (crypto.expand hk (utf8 "nonce") 12).mapError fun e =>
      .ehbp s!"nonce expansion failed: {e}"
    .ok (key, base)

/-- `base XOR seq`, with `seq` big-endian in the last 8 of the 12 bytes. -/
def frameNonce (base : Nonce) (seq : UInt64) : Nonce :=
  Vector.ofFn fun i =>
    if i.val < 4 then base[i] else base[i] ^^^ (BigEndian.toBytes 8 seq.toNat).getD (i.val - 4) 0

structure FrameOpener where
  cipher : Key
  base : Nonce
  seq : UInt64
  deriving DecidableEq, Repr

def ResponseSession.opener (crypto : Crypto) (session : ResponseSession) (responseNonce : Bytes) :
    Result FrameOpener := do
  let (cipher, base) ← derive crypto session.exportedSecret session.enc responseNonce
  .ok { cipher, base, seq := 0 }

/-- Open one frame's ciphertext, without the length prefix. The sequence number moves only
once a frame has authenticated. -/
def FrameOpener.openFrame (crypto : Crypto) (opener : FrameOpener) (ciphertext : Bytes) :
    Result Bytes × FrameOpener :=
  match crypto.decrypt opener.cipher (frameNonce opener.base opener.seq) ciphertext with
  | none => (.error (.ehbp "response frame failed authentication"), opener)
  | some plain =>
    match checkedAdd opener.seq 1 with
    | none => (.error (.ehbp "response frame sequence exhausted"), opener)
    | some seq => (.ok plain, { opener with seq })

/-- The server half of the response AEAD; `seq` is `none` once the sealer is poisoned. -/
structure FrameSealer where
  cipher : Key
  base : Nonce
  seq : Option UInt64
  deriving DecidableEq, Repr

def FrameSealer.new (crypto : Crypto) (secret enc : Vector UInt8 32) (responseNonce : Bytes) :
    Result FrameSealer := do
  let (cipher, base) ← derive crypto secret enc responseNonce
  .ok { cipher, base, seq := some 0 }

/-- Seal one frame, length-prefixed. The sequence number is burnt before the encryption and
given back, advanced, only on the way out. -/
def FrameSealer.sealFrame (crypto : Crypto) (sealer : FrameSealer) (plaintext : Bytes) :
    Result Bytes × FrameSealer :=
  match sealer.seq with
  | none =>
    (.error (.ehbp "response frame sealer is poisoned; its nonces cannot be reused"), sealer)
  | some seq =>
    let burnt := { sealer with seq := none }
    match crypto.encrypt sealer.cipher (frameNonce sealer.base seq) plaintext with
    | none => (.error (.ehbp "sealing response frame failed"), burnt)
    | some ct =>
      if ct.length > U32_MAX then
        (.error (.ehbp "response frame is too large to frame"), burnt)
      else
        (.ok (frame ct), { burnt with seq := checkedAdd seq 1 })

/-- What the errors of `derive` begin with. -/
def deriveErrors : List String :=
  ["response nonce is ", "key expansion failed: ", "nonce expansion failed: "]

theorem opener_errors (crypto : Crypto) (session : ResponseSession) (responseNonce : Bytes) :
    Fails (BeginsWith deriveErrors) (session.opener crypto responseNonce) := by
  unfold ResponseSession.opener derive
  apply Fails.bind
  · split
    · apply Fails.error
      rw [String.append_assoc, String.append_assoc]
      exact .caused (by decide) _
    · apply Fails.bindMapError (BeginsWith.caused (by decide))
      intro key
      apply Fails.bindMapError (BeginsWith.caused (by decide))
      intro base
      exact .ok _
  · intro keys
    exact .ok _

theorem checkedAdd_one {seq next : UInt64} :
    checkedAdd seq 1 = some next ↔ seq.toNat + 1 < 2 ^ 64 ∧ next = seq + 1 := by
  unfold checkedAdd
  by_cases room : seq.toNat + (1 : UInt64).toNat < 2 ^ 64
  · rw [if_pos room]
    simp only [Option.some.injEq, eq_comm (a := seq + 1)]
    exact ⟨fun same => ⟨room, same⟩, And.right⟩
  · rw [if_neg room]
    simp only [reduceCtorEq, false_iff, not_and]
    intro fits
    exact absurd fits room

theorem toNat_succ {seq : UInt64} (room : seq.toNat + 1 < 2 ^ 64) :
    (seq + 1).toNat = seq.toNat + 1 := by
  rw [UInt64.toNat_add]
  exact Nat.mod_eq_of_lt room

theorem frameNonce_injective (base : Nonce) {seq seq' : UInt64}
    (same : frameNonce base seq = frameNonce base seq') : seq = seq' := by
  apply UInt64.toNat_inj.mp
  apply BigEndian.toBytes_injective 8 seq.toNat_lt seq'.toNat_lt
  apply List.ext_getElem (by simp)
  intro i inside inside'
  have bounded : i < 8 := by simpa using inside
  have masked := congrArg (fun nonce : Nonce => nonce[4 + i]) same
  simp only [frameNonce, Vector.getElem_ofFn, Nat.add_sub_cancel_left,
    show ¬ 4 + i < 4 by omega, if_false] at masked
  simp only [List.getD_eq_getElem?_getD, List.getElem?_eq_getElem inside,
    List.getElem?_eq_getElem inside', Option.getD_some] at masked
  exact (UInt8.xor_right_inj _).mp masked

/-- A frame is opened when it decrypts under the nonce of the current sequence number, which
then moves on by one; the last sequence number opens nothing. -/
theorem FrameOpener.openFrame_ok {crypto : Crypto} {opener opener' : FrameOpener}
    {ciphertext plain : Bytes} :
    opener.openFrame crypto ciphertext = (.ok plain, opener') ↔
      crypto.decrypt opener.cipher (frameNonce opener.base opener.seq) ciphertext = some plain ∧
      opener.seq.toNat + 1 < 2 ^ 64 ∧ opener' = { opener with seq := opener.seq + 1 } := by
  unfold FrameOpener.openFrame
  cases decrypted : crypto.decrypt opener.cipher (frameNonce opener.base opener.seq) ciphertext with
  | none => simp
  | some bytes =>
    cases moved : checkedAdd opener.seq 1 with
    | none =>
      have stuck : ¬ opener.seq.toNat + 1 < 2 ^ 64 := by
        intro room
        have some := checkedAdd_one.mpr ⟨room, rfl⟩
        rw [moved] at some
        cases some
      simp only [stuck, Prod.mk.injEq, reduceCtorEq, false_and, and_false]
    | some next =>
      obtain ⟨room, same⟩ := checkedAdd_one.mp moved
      subst same
      simp only [room, Prod.mk.injEq, Except.ok.injEq, Option.some.injEq, true_and,
        eq_comm (a := opener')]

theorem FrameOpener.openFrame_error {crypto : Crypto} {opener opener' : FrameOpener}
    {ciphertext : Bytes} {e : Error}
    (refused : opener.openFrame crypto ciphertext = (.error e, opener')) :
    opener' = opener ∧ ∃ message, e = .ehbp message := by
  unfold FrameOpener.openFrame at refused
  split at refused
  · cases refused
    exact ⟨rfl, _, rfl⟩
  · split at refused
    · cases refused
      exact ⟨rfl, _, rfl⟩
    · cases refused

theorem FrameSealer.sealFrame_ok {crypto : Crypto} {sealer sealer' : FrameSealer}
    {plain wire : Bytes} :
    sealer.sealFrame crypto plain = (.ok wire, sealer') ↔
      ∃ seq ct, sealer.seq = some seq ∧
        crypto.encrypt sealer.cipher (frameNonce sealer.base seq) plain = some ct ∧
        ct.length ≤ U32_MAX ∧ wire = frame ct ∧
        sealer' = { sealer with seq := checkedAdd seq 1 } := by
  unfold FrameSealer.sealFrame
  cases current : sealer.seq with
  | none => simp
  | some seq =>
    cases encrypted : crypto.encrypt sealer.cipher (frameNonce sealer.base seq) plain with
    | none => simp [encrypted]
    | some ct =>
      by_cases large : ct.length > U32_MAX
      · simp [encrypted, large]
      · simp [encrypted, large, eq_comm]
        omega

theorem FrameSealer.sealFrame_error {crypto : Crypto} {sealer sealer' : FrameSealer}
    {plain : Bytes} {e : Error} (refused : sealer.sealFrame crypto plain = (.error e, sealer')) :
    sealer' = { sealer with seq := none } := by
  unfold FrameSealer.sealFrame at refused
  cases current : sealer.seq with
  | none =>
    rw [current] at refused
    cases refused
    rw [← current]
  | some seq =>
    rw [current] at refused
    simp only at refused
    split at refused
    · cases refused; rfl
    · split at refused <;> cases refused
      rfl

/-- A cipher in the clear, to run the model with: the nonce and four zeros make the tag. -/
def Crypto.clear : Crypto where
  extract salt ikm := salt ++ ikm
  expand _ _ n := .ok (Vector.replicate n 0)
  encrypt _ nonce plaintext := some (plaintext ++ (nonce.toList ++ List.replicate 4 0))
  decrypt _ nonce ciphertext :=
    if nonce.toList ++ List.replicate 4 0 <:+ ciphertext then
      some (ciphertext.take (ciphertext.length - 16))
    else none

end PpqTee.Ehbp
