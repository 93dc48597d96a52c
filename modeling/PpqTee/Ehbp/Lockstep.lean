import PpqTee.Ehbp.RoundTrip

/-! What the opener makes of any sequence of ciphertexts, junk among them, and how far it
keeps up with the sealer. -/

namespace PpqTee.Ehbp
namespace FrameOpener

/-- What each of the calls returned, and the opener they left. -/
def callAll (crypto : Crypto) : FrameOpener → List Bytes → List (Result Bytes) × FrameOpener
  | opener, [] => ([], opener)
  | opener, ct :: cts =>
    let (result, opener) := opener.openFrame crypto ct
    let (later, opener) := callAll crypto opener cts
    (result :: later, opener)

/-- The `Ok` results, in order. -/
def delivered (results : List (Result Bytes)) : List Bytes := results.filterMap Except.toOption

/-- The ciphertexts whose call returned `Ok`. -/
def accepted (crypto : Crypto) (opener : FrameOpener) (cts : List Bytes) : List Bytes :=
  ((cts.zip (opener.callAll crypto cts).1).filter fun call => call.2.isOk).map Prod.fst

variable {crypto : Crypto} {opener opener' : FrameOpener} {ct plain : Bytes}

theorem callAll_ok (opened : opener.openFrame crypto ct = (.ok plain, opener')) (cts : List Bytes) :
    opener.callAll crypto (ct :: cts) =
      (.ok plain :: (opener'.callAll crypto cts).1, (opener'.callAll crypto cts).2) := by
  rw [callAll, opened]

theorem openFrame_kept {e : Error} (refused : (opener.openFrame crypto ct).1 = .error e) :
    (opener.openFrame crypto ct).2 = opener := by
  have called : opener.openFrame crypto ct = (.error e, (opener.openFrame crypto ct).2) := by
    rw [← refused]
  exact (openFrame_error called).1

theorem callAll_error {e : Error} (refused : (opener.openFrame crypto ct).1 = .error e)
    (cts : List Bytes) : opener.callAll crypto (ct :: cts) =
      (.error e :: (opener.callAll crypto cts).1, (opener.callAll crypto cts).2) := by
  have called : opener.openFrame crypto ct = (.error e, opener) :=
    Prod.ext refused (openFrame_kept refused)
  rw [callAll, called]

theorem accepted_ok (opened : opener.openFrame crypto ct = (.ok plain, opener')) (cts : List Bytes) :
    accepted crypto opener (ct :: cts) = ct :: accepted crypto opener' cts := by
  unfold accepted
  rw [callAll_ok opened, List.zip_cons_cons, List.filter_cons_of_pos rfl, List.map_cons]

theorem accepted_error {e : Error} (refused : (opener.openFrame crypto ct).1 = .error e)
    (cts : List Bytes) : accepted crypto opener (ct :: cts) = accepted crypto opener cts := by
  unfold accepted
  rw [callAll_error refused, List.zip_cons_cons, List.filter_cons_of_neg Bool.false_ne_true]

theorem openFrame_cases (crypto : Crypto) (opener : FrameOpener) (ct : Bytes) :
    (∃ e, (opener.openFrame crypto ct).1 = .error e) ∨
      ∃ plain opener', opener.openFrame crypto ct = (.ok plain, opener') := by
  rcases called : opener.openFrame crypto ct with ⟨result, opener'⟩
  cases result with
  | error e => exact .inl ⟨e, rfl⟩
  | ok plain => exact .inr ⟨plain, opener', rfl⟩

theorem accepted_sublist (crypto : Crypto) (opener : FrameOpener) (cts : List Bytes) :
    (accepted crypto opener cts).Sublist cts := by
  induction cts generalizing opener with
  | nil => exact List.Sublist.refl []
  | cons ct cts ih =>
    rcases openFrame_cases crypto opener ct with ⟨e, refused⟩ | ⟨plain, opener', opened⟩
    · rw [accepted_error refused]
      exact (ih opener).cons ct
    · rw [accepted_ok opened]
      exact (ih opener').cons_cons ct

/-- The accepted ciphertexts alone: the same deliveries, the same opener, nothing refused. -/
theorem callAll_accepted (crypto : Crypto) (opener : FrameOpener) (cts : List Bytes) :
    opener.callAll crypto (accepted crypto opener cts) =
      ((delivered (opener.callAll crypto cts).1).map .ok, (opener.callAll crypto cts).2) := by
  induction cts generalizing opener with
  | nil => rfl
  | cons ct cts ih =>
    rcases openFrame_cases crypto opener ct with ⟨e, refused⟩ | ⟨plain, opener', opened⟩
    · rw [accepted_error refused, callAll_error refused]
      exact ih opener
    · rw [accepted_ok opened, callAll_ok opened, callAll_ok opened, ih opener']
      rfl

/-- The j-th delivery is the decryption of the j-th accepted ciphertext under the j-th sequence
number from the opener's on. -/
theorem delivered_decrypts {cts : List Bytes} {j : Nat}
    (member : (delivered (opener.callAll crypto cts).1)[j]? = some plain) :
    ∃ ct turn, (accepted crypto opener cts)[j]? = some ct ∧
      turn.toNat = opener.seq.toNat + j ∧
      crypto.decrypt opener.cipher (frameNonce opener.base turn) ct = some plain := by
  induction cts generalizing opener j with
  | nil => cases member
  | cons head cts ih =>
    rcases openFrame_cases crypto opener head with ⟨e, refused⟩ | ⟨first, opener', opened⟩
    · rw [accepted_error refused]
      rw [callAll_error refused] at member
      exact ih member
    · obtain ⟨decrypted, room, moved⟩ := openFrame_ok.mp opened
      rw [accepted_ok opened]
      rw [callAll_ok opened] at member
      cases j with
      | zero =>
        cases member
        exact ⟨head, opener.seq, rfl, rfl, decrypted⟩
      | succ j =>
        obtain ⟨ct, turn, kept, counted, later⟩ := ih (j := j) member
        rw [moved] at counted later
        refine ⟨ct, turn, kept, ?_, later⟩
        calc turn.toNat = (opener.seq + 1).toNat + j := counted
          _ = opener.seq.toNat + (j + 1) := by rw [toNat_succ room, Nat.add_assoc, Nat.add_comm 1]

/-- Calls of which some are marked as genuine, with what each of them returned. -/
def outcomes (crypto : Crypto) (opener : FrameOpener) (calls : List (Bytes × Bool)) :
    List ((Bytes × Bool) × Result Bytes) :=
  calls.zip (opener.callAll crypto (calls.map Prod.fst)).1

/-- Junk among the genuine ciphertexts, wherever it is put: if it is rejected, every genuine one
returns what it returns without it. -/
theorem callAll_genuine (crypto : Crypto) (opener : FrameOpener) (calls : List (Bytes × Bool))
    (junk : ∀ call ∈ outcomes crypto opener calls, call.1.2 = false → call.2.isOk = false) :
    opener.callAll crypto ((calls.filter Prod.snd).map Prod.fst) =
      (((outcomes crypto opener calls).filter fun call => call.1.2).map Prod.snd,
        (opener.callAll crypto (calls.map Prod.fst)).2) := by
  induction calls generalizing opener with
  | nil => rfl
  | cons call calls ih =>
    obtain ⟨ct, genuine⟩ := call
    unfold outcomes at junk ih ⊢
    rw [List.map_cons] at junk ⊢
    rcases openFrame_cases crypto opener ct with ⟨e, refused⟩ | ⟨plain, opener', opened⟩
    · rw [callAll_error refused, List.zip_cons_cons] at junk ⊢
      have later := ih opener (List.forall_mem_cons.mp junk).2
      cases genuine with
      | false => exact later
      | true =>
        rw [List.filter_cons_of_pos rfl, List.filter_cons_of_pos rfl, List.map_cons, List.map_cons,
          callAll_error refused, later]
    · rw [callAll_ok opened, List.zip_cons_cons] at junk ⊢
      have later := ih opener' (List.forall_mem_cons.mp junk).2
      cases genuine with
      | false => exact absurd ((List.forall_mem_cons.mp junk).1 rfl) Bool.noConfusion
      | true =>
        rw [List.filter_cons_of_pos rfl, List.filter_cons_of_pos rfl, List.map_cons, List.map_cons,
          callAll_ok opened, later]

/-- What the opener rejects, for whatever reason, makes no difference to anything it accepts. -/
theorem rejected_frames_invisible (crypto : Crypto) (opener : FrameOpener) (cts : List Bytes) :
    (accepted crypto opener cts).Sublist cts ∧
    opener.callAll crypto (accepted crypto opener cts) =
      ((delivered (opener.callAll crypto cts).1).map .ok, (opener.callAll crypto cts).2) ∧
    (∀ (j : Nat) (plain : Bytes), (delivered (opener.callAll crypto cts).1)[j]? = some plain →
      ∃ ct turn, (accepted crypto opener cts)[j]? = some ct ∧
        turn.toNat = opener.seq.toNat + j ∧
        crypto.decrypt opener.cipher (frameNonce opener.base turn) ct = some plain) ∧
    (∀ (opener : FrameOpener) (ct : Bytes) (e : Error),
      (opener.openFrame crypto ct).1 = .error e → (opener.openFrame crypto ct).2 = opener) ∧
    ∀ calls : List (Bytes × Bool),
      (∀ call ∈ outcomes crypto opener calls, call.1.2 = false → call.2.isOk = false) →
      opener.callAll crypto ((calls.filter Prod.snd).map Prod.fst) =
        (((outcomes crypto opener calls).filter fun call => call.1.2).map Prod.snd,
          (opener.callAll crypto (calls.map Prod.fst)).2) := by
  refine ⟨accepted_sublist crypto opener cts, callAll_accepted crypto opener cts, ?_, ?_,
    callAll_genuine crypto opener⟩
  · intro j plain member
    exact delivered_decrypts member
  · intro opener ct e refused
    exact openFrame_kept refused

end FrameOpener

/-- A sealer and an opener at one sequence number: what the one seals the other delivers, and
then both stand at the next number or both refuse every further frame. -/
def Lockstep (crypto : Crypto) (cipher : Key) (base : Nonce) (seq : UInt64) (plain : Bytes) :
    Prop :=
  ∀ sealed sealer',
    FrameSealer.sealFrame crypto ⟨cipher, base, some seq⟩ plain = (.ok sealed, sealer') →
    ∃ opener', FrameOpener.openFrame crypto ⟨cipher, base, seq⟩ (sealed.drop 4) =
        (.ok plain, opener') ∧
      ((∃ next : UInt64, next.toNat = seq.toNat + 1 ∧ sealer' = ⟨cipher, base, some next⟩ ∧
          opener' = ⟨cipher, base, next⟩) ∨
        ((∀ later, (sealer'.sealFrame crypto later).1.isOk = false) ∧
          ∀ later, (opener'.openFrame crypto later).1.isOk = false))

variable {crypto : Crypto}

theorem lockstep_of_room (honest : Honest crypto) (cipher : Key) (base : Nonce) {seq : UInt64}
    (room : seq.toNat + 1 < 2 ^ 64) (plain : Bytes) : Lockstep crypto cipher base seq plain := by
  intro sealed sealer' called
  obtain ⟨seq', ct, current, encrypted, _, framed, moved⟩ := FrameSealer.sealFrame_ok.mp called
  cases current
  have decrypts := (honest _ _ _ _ encrypted).1
  rw [checkedAdd_one.mpr ⟨room, rfl⟩] at moved
  rw [framed, drop_frame]
  exact ⟨⟨cipher, base, seq + 1⟩, FrameOpener.openFrame_ok.mpr ⟨decrypts, room, rfl⟩,
    .inl ⟨seq + 1, toNat_succ room, moved, rfl⟩⟩

theorem lockstep_of_large (honest : Honest crypto) (cipher : Key) (base : Nonce) (seq : UInt64)
    {plain : Bytes} (large : U32_MAX < plain.length + 16) :
    Lockstep crypto cipher base seq plain := by
  intro sealed sealer' called
  obtain ⟨seq', ct, _, encrypted, fits, _⟩ := FrameSealer.sealFrame_ok.mp called
  rw [(honest _ _ _ _ encrypted).2] at fits
  exact absurd fits (Nat.not_le.mpr large)

/-- The sealer uses the last sequence number, the opener never does: they keep in step at every
other one. -/
theorem lockstep_iff (honest : Honest crypto) (capable : Capable crypto) (cipher : Key)
    (base : Nonce) (seq : UInt64) (plain : Bytes) :
    Lockstep crypto cipher base seq plain ↔
      seq.toNat < 2 ^ 64 - 1 ∨ U32_MAX < plain.length + 16 := by
  apply Iff.intro
  · intro lockstep
    by_cases large : U32_MAX < plain.length + 16
    · exact .inr large
    · obtain ⟨ct, encrypted⟩ := capable.encrypts cipher (frameNonce base seq) plain
        (Nat.not_lt.mp large)
      have fits : ct.length ≤ U32_MAX := by
        rw [(honest _ _ _ _ encrypted).2]
        exact Nat.not_lt.mp large
      obtain ⟨opener', opened, _⟩ := lockstep _ _
        (FrameSealer.sealFrame_ok.mpr ⟨seq, ct, rfl, encrypted, fits, rfl, rfl⟩)
      obtain ⟨_, room, _⟩ := FrameOpener.openFrame_ok.mp opened
      exact .inl (Nat.lt_sub_of_add_lt room)
  · intro condition
    rcases condition with room | large
    · exact lockstep_of_room honest cipher base (Nat.add_lt_of_lt_sub room) plain
    · exact lockstep_of_large honest cipher base seq large

theorem lockstep_iff_clear :
    Lockstep .clear (Vector.replicate 32 0) (Vector.replicate 12 0) 0 (utf8 "pong") ↔
      (0 : UInt64).toNat < 2 ^ 64 - 1 ∨ U32_MAX < (utf8 "pong").length + 16 :=
  lockstep_iff honest_clear capable_clear _ _ _ _

/-- The frame of the last sequence number: sealed, and not opened. -/
theorem last_frame_undeliverable :
    ¬ Lockstep .clear (Vector.replicate 32 0) (Vector.replicate 12 0)
      (UInt64.ofNat (2 ^ 64 - 1)) [] := by
  intro lockstep
  obtain ⟨opener', opened, _⟩ := lockstep _ _ rfl
  have room := (FrameOpener.openFrame_ok.mp opened).2.1
  exact absurd room (by decide)

end PpqTee.Ehbp
