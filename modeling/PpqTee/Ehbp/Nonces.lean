import PpqTee.Ehbp.Open

/-! The nonces a sealer uses over its whole life, whatever fails and however often its caller
tries again. -/

namespace PpqTee.Ehbp

/-- `base XOR n`, with `n` big-endian in the last 8 of the 12 bytes, byte by byte. -/
structure Masked (base : Nonce) (n : Nat) (nonce : Nonce) : Prop where
  front : ∀ j (_ : j < 4), nonce[j] = base[j]
  back : ∀ j (_ : j < 8), nonce[4 + j] = base[4 + j] ^^^ UInt8.ofNat (n / 256 ^ (7 - j))

theorem masked_frameNonce (base : Nonce) (seq : UInt64) :
    Masked base seq.toNat (frameNonce base seq) where
  front j inside := by
    unfold frameNonce
    rw [Vector.getElem_ofFn]
    exact if_pos inside
  back j inside := by
    unfold frameNonce
    rw [Vector.getElem_ofFn]
    simp only [show ¬ 4 + j < 4 by omega, if_false, Nat.add_sub_cancel_left]
    rw [List.getD_eq_getElem?_getD, BigEndian.getElem?_toBytes 8 _ inside]
    rfl

/-- One call of `sealFrame`: the nonce it passed to the AEAD, if it got that far, and what it
returned. -/
structure Attempt where
  nonce : Option Nonce
  result : Result Bytes

def Attempt.succeeds (attempt : Attempt) : Bool := attempt.result.isOk

/-- It failed, and never reached the AEAD. -/
def Attempt.Refused (attempt : Attempt) : Prop :=
  attempt.nonce = none ∧ attempt.succeeds = false

/-- It is what a sealer's call came to: a success is what the AEAD made under the recorded nonce,
and nothing that the AEAD would do under any other nonce has a part in it. -/
structure Attempt.Records (attempt : Attempt) (sealer : FrameSealer) (crypto : Crypto)
    (plain : Bytes) : Prop where
  result : attempt.result = (sealer.sealFrame crypto plain).1
  encrypts : ∀ wire, attempt.result = .ok wire → ∃ nonce ct, attempt.nonce = some nonce ∧
    crypto.encrypt sealer.cipher nonce plain = some ct ∧ wire = frame ct
  consults : ∀ crypto' : Crypto, (∀ nonce, attempt.nonce = some nonce →
      crypto.encrypt sealer.cipher nonce plain = crypto'.encrypt sealer.cipher nonce plain) →
    attempt.result = (sealer.sealFrame crypto' plain).1

namespace FrameSealer

/-- The one nonce under which the next call may encrypt. -/
def consults (sealer : FrameSealer) : Option Nonce := sealer.seq.map (frameNonce sealer.base)

/-- All calls of a run. What the AEAD does may differ from call to call, so that it can fail at
any of them, and succeed when the caller tries the same again. -/
def callAll : FrameSealer → List (Crypto × Bytes) → List Attempt
  | _, [] => []
  | sealer, (crypto, plain) :: calls =>
    ⟨sealer.consults, (sealer.sealFrame crypto plain).1⟩ ::
      callAll (sealer.sealFrame crypto plain).2 calls

/-- Two AEADs that agree on that nonce, and on no other, make no difference to a call. -/
theorem sealFrame_consults {sealer : FrameSealer} {crypto crypto' : Crypto} {plain : Bytes}
    (agree : ∀ nonce, sealer.consults = some nonce →
      crypto.encrypt sealer.cipher nonce plain = crypto'.encrypt sealer.cipher nonce plain) :
    sealer.sealFrame crypto plain = sealer.sealFrame crypto' plain := by
  unfold sealFrame
  cases current : sealer.seq with
  | none => rfl
  | some seq =>
    have same := agree (frameNonce sealer.base seq) (by rw [consults, current]; rfl)
    simp only [same]

theorem records_call (sealer : FrameSealer) (crypto : Crypto) (plain : Bytes) :
    Attempt.Records ⟨sealer.consults, (sealer.sealFrame crypto plain).1⟩ sealer crypto plain where
  result := rfl
  encrypts wire succeeds := by
    obtain ⟨seq, ct, current, encrypted, _, same, _⟩ :=
      sealFrame_ok.mp (Prod.ext succeeds rfl : sealer.sealFrame crypto plain = (.ok wire, _))
    exact ⟨_, ct, by rw [consults, current]; rfl, encrypted, same⟩
  consults crypto' agree := congrArg Prod.fst (sealFrame_consults agree)

theorem sealFrame_poisoned {sealer : FrameSealer} (poisoned : sealer.seq = none) (crypto : Crypto)
    (plain : Bytes) : ∃ e, sealer.sealFrame crypto plain = (.error e, sealer) := by
  unfold sealFrame
  rw [poisoned]
  exact ⟨_, rfl⟩

/-- A call burns the sequence number, or hands on the next one if there is one. -/
theorem sealFrame_cases (sealer : FrameSealer) (crypto : Crypto) (plain : Bytes) :
    (∃ e, sealer.sealFrame crypto plain = (.error e, { sealer with seq := none })) ∨
    ∃ seq wire, sealer.seq = some seq ∧
      sealer.sealFrame crypto plain = (.ok wire, { sealer with seq := checkedAdd seq 1 }) := by
  rcases called : sealer.sealFrame crypto plain with ⟨result, sealer'⟩
  cases result with
  | error e => exact .inl ⟨e, by rw [sealFrame_error called]⟩
  | ok wire =>
    obtain ⟨seq, ct, current, _, _, _, moved⟩ := sealFrame_ok.mp called
    exact .inr ⟨seq, wire, current, by rw [moved]⟩

/-- The attempts of a run, one for each call, are those of a sealer that keeps its key and base. -/
theorem callAll_records (sealer : FrameSealer) (calls : List (Crypto × Bytes)) :
    List.Forall₂ (fun (call : Crypto × Bytes) (attempt : Attempt) =>
      ∃ seq, attempt.Records { sealer with seq } call.1 call.2) calls (sealer.callAll calls) := by
  induction calls generalizing sealer with
  | nil => exact .nil
  | cons call calls ih =>
    rw [callAll]
    apply List.Forall₂.cons
    · exact ⟨sealer.seq, records_call sealer call.1 call.2⟩
    · have later := ih (sealer.sealFrame call.1 call.2).2
      rcases sealFrame_cases sealer call.1 call.2 with ⟨e, called⟩ | ⟨seq, wire, current, called⟩
      · rw [called] at later ⊢
        exact later
      · rw [called] at later ⊢
        exact later

theorem callAll_poisoned {sealer : FrameSealer} (poisoned : sealer.seq = none)
    (calls : List (Crypto × Bytes)) : ∀ attempt ∈ sealer.callAll calls, attempt.Refused := by
  induction calls with
  | nil => simp [callAll]
  | cons call calls ih =>
    obtain ⟨e, refused⟩ := sealFrame_poisoned poisoned call.1 call.2
    rw [callAll, refused, List.forall_mem_cons]
    exact ⟨⟨by rw [consults, poisoned]; rfl, rfl⟩, ih⟩

/-- Every nonce of a run belongs to a sequence number that the sealer had not passed yet. -/
theorem callAll_turn {sealer : FrameSealer} {calls : List (Crypto × Bytes)} {attempt : Attempt}
    {nonce : Nonce} (member : attempt ∈ sealer.callAll calls) (used : attempt.nonce = some nonce) :
    ∃ seq turn, sealer.seq = some seq ∧ seq.toNat ≤ turn.toNat ∧
      nonce = frameNonce sealer.base turn := by
  induction calls generalizing sealer with
  | nil => cases member
  | cons call calls ih =>
    rw [callAll, List.mem_cons] at member
    rcases member with first | later
    · rw [first] at used
      obtain ⟨seq, current, same⟩ := Option.map_eq_some_iff.mp used
      exact ⟨seq, seq, current, Nat.le_refl _, same.symm⟩
    · rcases sealFrame_cases sealer call.1 call.2 with ⟨e, called⟩ | ⟨seq, wire, current, called⟩
      · rw [called] at later
        have nothing := (callAll_poisoned rfl calls attempt later).1
        rw [used] at nothing
        cases nothing
      · rw [called] at later
        obtain ⟨next, turn, moved, bounded, same⟩ := ih later
        obtain ⟨room, advanced⟩ := checkedAdd_one.mp moved
        rw [advanced, toNat_succ room] at bounded
        exact ⟨seq, turn, current, by omega, same⟩

theorem callAll_distinct (sealer : FrameSealer) (calls : List (Crypto × Bytes)) :
    ((sealer.callAll calls).filterMap Attempt.nonce).Nodup := by
  induction calls generalizing sealer with
  | nil => exact List.nodup_nil
  | cons call calls ih =>
    rw [callAll]
    cases current : sealer.seq with
    | none =>
      have first : sealer.consults = none := by rw [consults, current]; rfl
      simp only [List.filterMap_cons, first]
      exact ih _
    | some seq =>
      have first : sealer.consults = some (frameNonce sealer.base seq) := by
        rw [consults, current]
        rfl
      simp only [List.filterMap_cons, first, List.nodup_cons]
      refine ⟨?_, ih _⟩
      intro again
      obtain ⟨attempt, member, used⟩ := List.mem_filterMap.mp again
      obtain ⟨next, turn, moved, bounded, same⟩ := callAll_turn member used
      rcases sealFrame_cases sealer call.1 call.2 with ⟨e, called⟩ | ⟨seq', wire, current', called⟩
      · rw [called] at moved
        cases moved
      · rw [current] at current'
        cases current'
        rw [called] at moved same
        obtain ⟨room, advanced⟩ := checkedAdd_one.mp moved
        rw [advanced, toNat_succ room] at bounded
        rw [← frameNonce_injective sealer.base same] at bounded
        omega

theorem callAll_success {sealer : FrameSealer} {calls : List (Crypto × Bytes)} {seq : UInt64}
    (current : sealer.seq = some seq) {i : Nat} {attempt : Attempt}
    (sealed : ((sealer.callAll calls).filter Attempt.succeeds)[i]? = some attempt) :
    ∃ turn : UInt64, turn.toNat = seq.toNat + i ∧
      attempt.nonce = some (frameNonce sealer.base turn) := by
  induction calls generalizing sealer seq i with
  | nil => cases sealed
  | cons call calls ih =>
    rw [callAll] at sealed
    rcases sealFrame_cases sealer call.1 call.2 with ⟨e, called⟩ | ⟨seq', wire, current', called⟩
    · rw [called, List.filter_cons_of_neg (by simp [Attempt.succeeds, Except.isOk, Except.toBool])]
        at sealed
      have member := List.mem_filter.mp (List.mem_of_getElem? sealed)
      have refused := callAll_poisoned rfl calls attempt member.1
      rw [refused.2] at member
      cases member.2
    · rw [current] at current'
      cases current'
      rw [called, List.filter_cons_of_pos rfl] at sealed
      cases i with
      | zero =>
        cases sealed
        exact ⟨seq, rfl, by simp [consults, current]⟩
      | succ i =>
        rw [List.getElem?_cons_succ] at sealed
        cases moved : checkedAdd seq 1 with
        | none =>
          have member := List.mem_filter.mp (List.mem_of_getElem? sealed)
          have refused := callAll_poisoned moved calls attempt member.1
          rw [refused.2] at member
          cases member.2
        | some next =>
          obtain ⟨turn, counted, used⟩ := ih moved sealed
          obtain ⟨room, advanced⟩ := checkedAdd_one.mp moved
          refine ⟨turn, ?_, used⟩
          rw [counted, advanced, toNat_succ room]
          omega

/-- Once a call has failed, or has used the last sequence number, the rest is refused. -/
theorem callAll_stops (sealer : FrameSealer) (calls : List (Crypto × Bytes)) :
    (sealer.callAll calls).Pairwise fun attempt later =>
      attempt.succeeds = false ∨
        attempt.nonce = some (frameNonce sealer.base (UInt64.ofNat (2 ^ 64 - 1))) →
      later.Refused := by
  induction calls generalizing sealer with
  | nil => exact List.Pairwise.nil
  | cons call calls ih =>
    rw [callAll, List.pairwise_cons]
    rcases sealFrame_cases sealer call.1 call.2 with ⟨e, called⟩ | ⟨seq, wire, current, called⟩
    · rw [called]
      exact ⟨fun later member _ => callAll_poisoned rfl calls later member,
        ih { sealer with seq := none }⟩
    · rw [called]
      refine ⟨?_, ih { sealer with seq := checkedAdd seq 1 }⟩
      intro later member ended
      rcases ended with failed | last
      · cases failed
      · obtain ⟨seq', current', same⟩ := Option.map_eq_some_iff.mp last
        rw [current] at current'
        cases current'
        have final := frameNonce_injective sealer.base same
        have exhausted : checkedAdd seq 1 = none := by
          rw [final]
          rfl
        exact callAll_poisoned exhausted calls later member

/-- No nonce is used twice; the i-th success from sequence number `seq` on is under the nonce of
`seq + i`; and nothing is encrypted after a failure or after the last sequence number. The nonces
are those that the calls encrypt under. -/
theorem nonces_never_repeat (sealer : FrameSealer) (calls : List (Crypto × Bytes)) :
    List.Forall₂ (fun (call : Crypto × Bytes) (attempt : Attempt) =>
      ∃ seq, attempt.Records { sealer with seq } call.1 call.2) calls (sealer.callAll calls) ∧
    ((sealer.callAll calls).filterMap Attempt.nonce).Nodup ∧
    (∀ seq, sealer.seq = some seq → ∀ i attempt,
      ((sealer.callAll calls).filter Attempt.succeeds)[i]? = some attempt →
      ∃ nonce, attempt.nonce = some nonce ∧ Masked sealer.base (seq.toNat + i) nonce) ∧
    (sealer.callAll calls).Pairwise fun attempt later =>
      attempt.succeeds = false ∨
        attempt.nonce = some (frameNonce sealer.base (UInt64.ofNat (2 ^ 64 - 1))) →
      later.Refused := by
  refine ⟨callAll_records sealer calls, callAll_distinct sealer calls, ?_,
    callAll_stops sealer calls⟩
  intro seq current i attempt sealed
  obtain ⟨turn, counted, used⟩ := callAll_success current sealed
  refine ⟨frameNonce sealer.base turn, used, ?_⟩
  rw [← counted]
  exact masked_frameNonce sealer.base turn

end FrameSealer

end PpqTee.Ehbp
