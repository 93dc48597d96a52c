import PpqTee.Ehbp.Wire

/-! Both sealers against the length prefix they write: which plaintexts they admit, and that
nothing they emit can be read in two ways. -/

namespace PpqTee.Ehbp

/-- Split a framed stream into its ciphertexts, behind those already in `out`. `none` is the
panic of a slice past the end. -/
def unframe (out : List Bytes) (rest : Bytes) : Option (List Bytes) :=
  if _more : rest.length ≥ 4 then
    let n := BigEndian.ofBytes (rest.take 4)
    let rest := rest.drop 4
    if n ≤ rest.length then unframe (out ++ [rest.take n]) (rest.drop n) else none
  else some out
termination_by rest.length
decreasing_by
  simp only [List.length_drop]
  omega

/-- AES-GCM appends a tag of 16 bytes, in HPKE as in the response AEAD. -/
def Hpke.Tagged (hpke : Hpke) : Prop :=
  ∀ ctx plaintext aad ct ctx', hpke.ctxSeal ctx plaintext aad = (.ok ct, ctx') →
    ct.length = plaintext.length + 16

def Crypto.Tagged (crypto : Crypto) : Prop :=
  ∀ key nonce plaintext ct, crypto.encrypt key nonce plaintext = some ct →
    ct.length = plaintext.length + 16

/-- The HPKE steps of `seal` succeed, and `ct` is the ciphertext they give. -/
def Hpke.Gives (hpke : Hpke) (entropy : hpke.Entropy) (publicKey : Vector UInt8 32)
    (plaintext ct : Bytes) : Prop :=
  ∃ pk enc ctx ctx' secret encBytes, hpke.publicKeyFromBytes publicKey = .ok pk ∧
    hpke.setupSender entropy pk REQUEST_INFO = .ok (enc, ctx) ∧
    hpke.ctxSeal ctx plaintext [] = (.ok ct, ctx') ∧
    hpke.ctxExport ctx' RESPONSE_EXPORT_LABEL 32 = .ok secret ∧ toArray32 enc = some encBytes

/-- The ciphertext of `plaintext`, its length in 32 bits, and both of them as they are emitted. -/
structure Framed (plaintext ct emitted : Bytes) : Prop where
  tag : ct.length = plaintext.length + 16
  fits : ct.length < 2 ^ 32
  bytes : emitted = BigEndian.toBytes 4 ct.length ++ ct

theorem framed_frame {plaintext ct : Bytes} (tag : ct.length = plaintext.length + 16)
    (fits : ct.length ≤ U32_MAX) : Framed plaintext ct (frame ct) := by
  have small : ct.length < 2 ^ 32 := Nat.lt_of_le_of_lt fits (by decide)
  refine ⟨tag, small, ?_⟩
  rw [frame, Nat.mod_eq_of_lt small]

/-- The guard is on the plaintext; on the ciphertext it is the 32-bit limit. -/
theorem admits_iff {plaintext ct : Bytes} (tag : ct.length = plaintext.length + 16) :
    plaintext.length ≤ U32_MAX - 16 ↔ ct.length ≤ U32_MAX := by
  have large : 16 ≤ U32_MAX := by decide
  omega

section Seal

variable {hpke : Hpke} {entropy : hpke.Entropy} {publicKey : Vector UInt8 32} {plaintext : Bytes}

theorem gives_tag (tagged : hpke.Tagged) {ct : Bytes}
    (gives : hpke.Gives entropy publicKey plaintext ct) : ct.length = plaintext.length + 16 := by
  obtain ⟨_, _, _, _, _, _, _, _, encrypted, _⟩ := gives
  exact tagged _ _ _ _ _ encrypted

theorem sealBody_admits {sealed : SealedRequest}
    (done : sealBody hpke entropy publicKey plaintext = .ok sealed) :
    plaintext.length ≤ U32_MAX - 16 ∧
      ∃ ct, hpke.Gives entropy publicKey plaintext ct ∧ sealed.body = frame ct := by
  obtain ⟨small, pk, enc, ctx, ctx', ct, secret, encBytes, key, setup, encrypted, exported, array,
    same⟩ := sealBody_ok.mp done
  rw [same]
  exact ⟨small, ct, ⟨pk, enc, ctx, ctx', secret, encBytes, key, setup, encrypted, exported, array⟩,
    rfl⟩

theorem sealBody_gives {ct : Bytes} (gives : hpke.Gives entropy publicKey plaintext ct)
    (small : plaintext.length ≤ U32_MAX - 16) :
    ∃ sealed, sealBody hpke entropy publicKey plaintext = .ok sealed := by
  obtain ⟨pk, enc, ctx, ctx', secret, encBytes, key, setup, encrypted, exported, array⟩ := gives
  exact ⟨_, sealBody_ok.mpr ⟨small, pk, enc, ctx, ctx', ct, secret, encBytes, key, setup, encrypted,
    exported, array, rfl⟩⟩

end Seal

theorem unframe_frame {ct : Bytes} (fits : ct.length ≤ U32_MAX) (out : List Bytes) (rest : Bytes) :
    unframe out (frame ct ++ rest) = unframe (out ++ [ct]) rest := by
  have announced : BigEndian.ofBytes ((frame ct ++ rest).take 4) = ct.length :=
    lenPrefix_frame fits rest
  have behind : (frame ct ++ rest).drop 4 = ct ++ rest := by
    rw [List.drop_append_of_le_length (by rw [length_frame]; omega), drop_frame]
  rw [unframe, dif_pos (by rw [List.length_append, length_frame]; omega)]
  simp only [announced, behind]
  rw [if_pos (by rw [List.length_append]; omega), List.take_left, List.drop_left]

theorem unframe_wire (out : List Bytes) {cts : List Bytes}
    (fits : ∀ ct ∈ cts, ct.length ≤ U32_MAX) : unframe out (wire cts) = some (out ++ cts) := by
  induction cts generalizing out with
  | nil =>
    rw [wire_nil, unframe, dif_neg (by decide), List.append_nil]
  | cons ct cts ih =>
    rw [List.forall_mem_cons] at fits
    calc unframe out (wire (ct :: cts)) = unframe (out ++ [ct]) (wire cts) := by
          rw [wire_cons, unframe_frame fits.1]
      _ = some (out ++ [ct] ++ cts) := ih (out ++ [ct]) fits.2
      _ = some (out ++ ct :: cts) := by rw [List.append_assoc, List.singleton_append]

theorem wire_injective {cts cts' : List Bytes} (fits : ∀ ct ∈ cts, ct.length ≤ U32_MAX)
    (fits' : ∀ ct ∈ cts', ct.length ≤ U32_MAX) (same : wire cts = wire cts') : cts = cts' := by
  apply Option.some.inj
  calc some cts = unframe [] (wire cts) := (unframe_wire [] fits).symm
    _ = unframe [] (wire cts') := by rw [same]
    _ = some cts' := unframe_wire [] fits'

/-- What either sealer emits is the length of the ciphertext in 32 bits and the ciphertext; `seal`
refuses no plaintext that this leaves room for; and frames split in one way only. -/
theorem frames_uniquely_decodable (hpke : Hpke) (crypto : Crypto) (hpkeTagged : hpke.Tagged)
    (tagged : crypto.Tagged) :
    (∀ entropy publicKey plaintext sealed,
      sealBody hpke entropy publicKey plaintext = .ok sealed →
      ∃ ct, hpke.Gives entropy publicKey plaintext ct ∧ Framed plaintext ct sealed.body) ∧
    (∀ (sealer sealer' : FrameSealer) (plaintext emitted : Bytes),
      sealer.sealFrame crypto plaintext = (.ok emitted, sealer') →
      ∃ seq ct, sealer.seq = some seq ∧
        crypto.encrypt sealer.cipher (frameNonce sealer.base seq) plaintext = some ct ∧
        Framed plaintext ct emitted) ∧
    (∀ entropy publicKey plaintext ct, hpke.Gives entropy publicKey plaintext ct →
      ((∃ sealed, sealBody hpke entropy publicKey plaintext = .ok sealed) ↔
        plaintext.length ≤ U32_MAX - 16) ∧
      (plaintext.length ≤ U32_MAX - 16 ↔ ct.length ≤ U32_MAX)) ∧
    (∀ cts : List Bytes, (∀ ct ∈ cts, ct.length ≤ U32_MAX) → unframe [] (wire cts) = some cts) ∧
    ∀ cts cts' : List Bytes, (∀ ct ∈ cts, ct.length ≤ U32_MAX) →
      (∀ ct ∈ cts', ct.length ≤ U32_MAX) → wire cts = wire cts' → cts = cts' := by
  refine ⟨?_, ?_, ?_, fun cts fits => unframe_wire [] fits,
    fun cts cts' fits fits' same => wire_injective fits fits' same⟩
  · intro entropy publicKey plaintext sealed done
    obtain ⟨small, ct, gives, framed⟩ := sealBody_admits done
    have tag := gives_tag hpkeTagged gives
    refine ⟨ct, gives, ?_⟩
    rw [framed]
    exact framed_frame tag ((admits_iff tag).mp small)
  · intro sealer sealer' plaintext emitted done
    obtain ⟨seq, ct, current, encrypted, fits, framed, _⟩ := FrameSealer.sealFrame_ok.mp done
    refine ⟨seq, ct, current, encrypted, ?_⟩
    rw [framed]
    exact framed_frame (tagged _ _ _ _ encrypted) fits
  · intro entropy publicKey plaintext ct gives
    refine ⟨⟨?_, sealBody_gives gives⟩, admits_iff (gives_tag hpkeTagged gives)⟩
    intro admitted
    obtain ⟨sealed, done⟩ := admitted
    exact (sealBody_admits done).1

/-- HPKE in the clear, with sixteen zeros for a tag. -/
def Hpke.clear : Hpke where
  Entropy := Unit
  PublicKey := Unit
  SenderCtx := Unit
  publicKeyFromBytes _ := .ok ()
  setupSender _ _ _ := .ok (List.replicate 32 0, ())
  ctxSeal ctx plaintext _ := (.ok (plaintext ++ List.replicate 16 0), ctx)
  ctxExport _ _ n := .ok (Vector.replicate n 0)

theorem tagged_hpke_clear : Hpke.clear.Tagged := by
  intro ctx plaintext aad ct ctx' encrypted
  cases encrypted
  rw [List.length_append, List.length_replicate]

theorem tagged_clear : Crypto.clear.Tagged := by
  intro key nonce plaintext ct encrypted
  exact (honest_clear _ _ _ _ encrypted).2

theorem frames_uniquely_decodable_clear :
    unframe [] (wire [utf8 "one", [], utf8 "two"]) = some [utf8 "one", [], utf8 "two"] := by
  have small : ∀ ct ∈ [utf8 "one", [], utf8 "two"], ct.length ≤ U32_MAX := by decide
  exact (frames_uniquely_decodable .clear .clear tagged_hpke_clear tagged_clear).2.2.2.1 _ small

end PpqTee.Ehbp
