import PpqTee.Ehbp.Reference

/-! What an adversary on the wire can make the decoder deliver: under an ideal AEAD, only a
prefix of what the server half sealed, in order and without repetition. -/

namespace PpqTee.Ehbp

structure Sealing where
  nonce : Nonce
  ciphertext : Bytes
  plain : Bytes
  deriving DecidableEq, Repr

/-- Everything a sealer hands out when it is called with these plaintexts one after another. -/
def FrameSealer.sealings (crypto : Crypto) : FrameSealer → List Bytes → List Sealing
  | _, [] => []
  | sealer, plain :: plains =>
    match sealer.seq, sealer.sealFrame crypto plain with
    | some seq, (.ok wire, sealer') =>
      ⟨frameNonce sealer.base seq, wire.drop 4, plain⟩ :: sealings crypto sealer' plains
    | _, (_, sealer') => sealings crypto sealer' plains

def received (results : List (Result Bytes)) : Bytes :=
  results.flatMap fun
    | .ok bytes => bytes
    | .error _ => []

variable {crypto : Crypto}

theorem sealings_poisoned (sealer : FrameSealer) (plains : List Bytes)
    (poisoned : sealer.seq = none) : sealer.sealings crypto plains = [] := by
  induction plains with
  | nil => rfl
  | cons plain plains ih =>
    unfold FrameSealer.sealings FrameSealer.sealFrame
    simp only [poisoned]
    exact ih

theorem sealings_nonce (sealer : FrameSealer) (plains : List Bytes) (seq : UInt64)
    (current : sealer.seq = some seq) (i : Nat) (entry : Sealing)
    (sealed : (sealer.sealings crypto plains)[i]? = some entry) :
    ∃ turn : UInt64, turn.toNat = seq.toNat + i ∧ entry.nonce = frameNonce sealer.base turn := by
  induction plains generalizing sealer seq i with
  | nil => simp [FrameSealer.sealings] at sealed
  | cons plain plains ih =>
    unfold FrameSealer.sealings at sealed
    rw [current] at sealed
    cases called : sealer.sealFrame crypto plain with
    | mk result sealer' =>
      rw [called] at sealed
      cases result with
      | error e =>
        simp only at sealed
        rw [sealings_poisoned sealer' plains (by rw [FrameSealer.sealFrame_error called])] at sealed
        simp at sealed
      | ok wire =>
        simp only at sealed
        obtain ⟨seq', ct, same, _, _, _, moved⟩ := FrameSealer.sealFrame_ok.mp called
        rw [current] at same
        cases same
        cases i with
        | zero =>
          cases sealed
          exact ⟨seq, rfl, rfl⟩
        | succ i =>
          rw [List.getElem?_cons_succ] at sealed
          cases next : checkedAdd seq 1 with
          | none =>
            rw [sealings_poisoned sealer' plains (by rw [moved, next])] at sealed
            simp at sealed
          | some later =>
            obtain ⟨turn, counted, nonce⟩ := ih sealer' later (by rw [moved, next]) i sealed
            obtain ⟨room, same⟩ := checkedAdd_one.mp next
            refine ⟨turn, ?_, by rw [nonce, moved]⟩
            rw [counted, same, toNat_succ room]
            omega

/-- Only the frame whose turn it is opens, and it opens to what was sealed. -/
def Authentic (crypto : Crypto) (cipher : Key) (base : Nonce) (plains : List Bytes) : Prop :=
  ∀ (seq : UInt64) (ct plain : Bytes),
    crypto.decrypt cipher (frameNonce base seq) ct = some plain → plains[seq.toNat]? = some plain

/-- An ideal AEAD opens only what was sealed, and each of it only at its own place. -/
theorem authentic_of_ideal (sealer : FrameSealer) (calls : List Bytes)
    (fresh : sealer.seq = some 0)
    (ideal : ∀ nonce ct plain, crypto.decrypt sealer.cipher nonce ct = some plain →
      ⟨nonce, ct, plain⟩ ∈ sealer.sealings crypto calls) :
    Authentic crypto sealer.cipher sealer.base
      ((sealer.sealings crypto calls).map Sealing.plain) := by
  intro seq ct plain decrypted
  obtain ⟨i, sealed⟩ := List.mem_iff_getElem?.mp (ideal _ _ _ decrypted)
  obtain ⟨turn, counted, nonce⟩ := sealings_nonce sealer calls 0 fresh i _ sealed
  have same : seq = turn := frameNonce_injective sealer.base nonce
  rw [List.getElem?_map, same, counted]
  simp [sealed]

theorem reads_authentic {cipher : Key} {base : Nonce} {plains : List Bytes}
    (authentic : Authentic crypto cipher base plains) {opener opener' : FrameOpener}
    {w rest : Bytes} {frames : List Opened} (keyed : opener.cipher = cipher)
    (based : opener.base = base)
    (reads : (frameScanner crypto).Reads opener w frames opener' rest) :
    ∃ m, plaintext frames = ((plains.drop opener.seq.toNat).take m).flatten ∧
      opener'.seq.toNat = opener.seq.toNat + m ∧ opener'.cipher = cipher ∧
      opener'.base = base := by
  induction reads with
  | nil => exact ⟨0, by simp [plaintext], rfl, keyed, based⟩
  | @cons opener opener₁ opener₂ w rest frame frames size turn _ ih =>
    rcases frameTurn_cases crypto opener w with ⟨same, _⟩ | ⟨_, _, same⟩ | ⟨_, _, same⟩ |
      ⟨_, _, _, _, ⟨plain, opened, same⟩ | ⟨_, _, same⟩⟩
    all_goals
      rw [frameScanner_next, same] at turn
      cases turn
    · obtain ⟨m, later, moved⟩ := ih keyed based
      exact ⟨m, by simpa [plaintext] using later, moved⟩
    · obtain ⟨decrypted, room, moved⟩ := FrameOpener.openFrame_ok.mp opened
      rw [keyed, based] at decrypted
      have sealed := authentic _ _ _ decrypted
      obtain ⟨m, later, counted, kept⟩ :=
        ih (by rw [moved]; exact keyed) (by rw [moved]; exact based)
      have advanced : opener₁.seq.toNat = opener.seq.toNat + 1 := by
        rw [moved]
        exact toNat_succ room
      obtain ⟨inside, here⟩ := List.getElem?_eq_some_iff.mp sealed
      refine ⟨m + 1, ?_, by omega, kept⟩
      rw [List.drop_eq_getElem_cons inside, List.take_succ_cons, List.flatten_cons, here,
        ← advanced, ← later]
      rfl

/-- Whatever is pushed, the plaintexts that come out are the next ones in order. -/
theorem pushAll_authentic {cipher : Key} {base : Nonce} {plains : List Bytes}
    (authentic : Authentic crypto cipher base plains) (opener : FrameOpener) (buf : Bytes)
    (keyed : opener.cipher = cipher) (based : opener.base = base) (chunks : List Bytes) :
    ∃ m, received (FrameDecoder.pushAll crypto { opener, buf, failed := false } chunks).1 =
      ((plains.drop opener.seq.toNat).take m).flatten := by
  induction chunks generalizing opener buf with
  | nil => exact ⟨0, by simp [FrameDecoder.pushAll, received]⟩
  | cons chunk chunks ih =>
    unfold FrameDecoder.pushAll
    rw [FrameDecoder.push_live]
    rcases Incremental.Scanner.scan_cases (frameScanner crypto) opener (buf ++ chunk) with
      ⟨frames, opener', rest, scanned, reads, -⟩ | ⟨frames, _, _, _, e, opener', _, _, scanned⟩
    · rw [scanned]
      obtain ⟨m, first, moved, keyed', based'⟩ := reads_authentic authentic keyed based reads
      obtain ⟨n, later⟩ := ih opener' rest keyed' based'
      refine ⟨m + n, ?_⟩
      rw [List.take_add, List.flatten_append, List.drop_drop, ← moved, ← later, ← first]
      rfl
    · -- a refused push delivers nothing, and nothing comes after it
      rw [scanned]
      refine ⟨0, ?_⟩
      simp only [FrameDecoder.pushAll_failed]
      simp [received]

theorem opener_of_sealer {secret enc : Vector UInt8 32} {responseNonce : Bytes}
    {sealer : FrameSealer} {opener : FrameOpener}
    (sealing : FrameSealer.new crypto secret enc responseNonce = .ok sealer)
    (opening : (ResponseSession.mk secret enc).opener crypto responseNonce = .ok opener) :
    sealer.seq = some 0 ∧ opener = ⟨sealer.cipher, sealer.base, 0⟩ := by
  unfold FrameSealer.new at sealing
  unfold ResponseSession.opener at opening
  obtain ⟨⟨cipher, base⟩, derived, made⟩ := bind_ok.mp sealing
  rw [show derive crypto secret enc responseNonce = _ from derived] at opening
  cases made
  cases opening
  exact ⟨rfl, rfl⟩

/-- Under an ideal AEAD, whatever an adversary delivers, the caller receives a prefix of what
was sealed; and a push that fails is the last one with any effect. -/
theorem push_delivers_in_order (crypto : Crypto) (secret enc : Vector UInt8 32)
    (responseNonce : Bytes) (sealer : FrameSealer) (opener : FrameOpener) (calls : List Bytes)
    (sealing : FrameSealer.new crypto secret enc responseNonce = .ok sealer)
    (opening : (ResponseSession.mk secret enc).opener crypto responseNonce = .ok opener)
    (ideal : ∀ nonce ct plain, crypto.decrypt sealer.cipher nonce ct = some plain ↔
      ⟨nonce, ct, plain⟩ ∈ sealer.sealings crypto calls)
    (chunks : List Bytes) :
    (∃ j, j ≤ (sealer.sealings crypto calls).length ∧
      received ((FrameDecoder.new opener).pushAll crypto chunks).1 =
        (((sealer.sealings crypto calls).map Sealing.plain).take j).flatten) ∧
    ∀ before chunk after e decoder, chunks = before ++ chunk :: after →
      ((FrameDecoder.new opener).pushAll crypto before).2.push crypto chunk = (.error e, decoder) →
      decoder.pushAll crypto after = (List.replicate after.length (.error poisoned), decoder) ∧
        decoder.finish = .error poisoned := by
  obtain ⟨fresh, same⟩ := opener_of_sealer sealing opening
  constructor
  · have authentic := authentic_of_ideal sealer calls fresh fun nonce ct plain =>
      (ideal nonce ct plain).mp
    have delivered := pushAll_authentic authentic opener [] (by rw [same]) (by rw [same]) chunks
    obtain ⟨m, delivered⟩ := delivered
    refine ⟨min m (sealer.sealings crypto calls).length, Nat.min_le_right _ _, ?_⟩
    rw [show FrameDecoder.new opener = ⟨opener, [], false⟩ from rfl, delivered, same]
    have whole : ((sealer.sealings crypto calls).map Sealing.plain).length =
        (sealer.sealings crypto calls).length := List.length_map _
    rw [← whole, ← List.take_take, List.take_length]
    rfl
  · intro before chunk after e decoder _ refused
    have failed := FrameDecoder.push_error crypto refused
    exact ⟨FrameDecoder.pushAll_failed crypto decoder after failed,
      FrameDecoder.finish_failed decoder failed⟩

/-- Decryption by looking up what was sealed. -/
def lookup (table : List Sealing) (nonce : Nonce) (ciphertext : Bytes) : Option Bytes :=
  (table.find? fun entry => entry.nonce = nonce ∧ entry.ciphertext = ciphertext).map Sealing.plain

theorem lookup_eq_some {table : List Sealing} (distinct : (table.map Sealing.nonce).Nodup)
    (nonce : Nonce) (ct plain : Bytes) :
    lookup table nonce ct = some plain ↔ ⟨nonce, ct, plain⟩ ∈ table := by
  unfold lookup
  induction table with
  | nil => simp
  | cons entry table ih =>
    rw [List.map_cons, List.nodup_cons] at distinct
    rw [List.mem_cons, ← ih distinct.2]
    by_cases here : entry.nonce = nonce ∧ entry.ciphertext = ct
    · have first : List.find? (fun entry => entry.nonce = nonce ∧ entry.ciphertext = ct)
          (entry :: table) = some entry := List.find?_cons_of_pos (by simpa using here)
      have elsewhere : List.find? (fun entry => entry.nonce = nonce ∧ entry.ciphertext = ct)
          table = none := by
        rw [List.find?_eq_none]
        intro other member same
        have same : other.nonce = nonce ∧ other.ciphertext = ct := by simpa using same
        exact distinct.1 (List.mem_map.mpr ⟨other, member, same.1.trans here.1.symm⟩)
      rw [first, elsewhere]
      obtain ⟨nonce₀, ct₀, plain₀⟩ := entry
      obtain ⟨same, also⟩ := here
      simp only at same also
      subst same also
      simp only [Option.map_some, Option.map_none, reduceCtorEq, or_false, Option.some.injEq,
        Sealing.mk.injEq, true_and]
      exact eq_comm
    · have first : List.find? (fun entry => entry.nonce = nonce ∧ entry.ciphertext = ct)
          (entry :: table) = List.find? (fun entry => entry.nonce = nonce ∧ entry.ciphertext = ct)
          table := List.find?_cons_of_neg (by simpa using here)
      rw [first]
      constructor
      · exact .inr
      · rintro (same | found)
        · subst same
          exact absurd ⟨rfl, rfl⟩ here
        · exact found

/-- Two frames sealed in the clear, and an AEAD that opens nothing else. -/
def twoSealed : List Sealing :=
  FrameSealer.sealings .clear ⟨Vector.replicate 32 0, Vector.replicate 12 0, some 0⟩ [[1], [2, 3]]

/-- The second frame delivered before the first, and a caller that pushes on regardless. -/
theorem push_delivers_in_order_reordered :
    ∃ j, j ≤ 2 ∧ received ((FrameDecoder.new ⟨Vector.replicate 32 0, Vector.replicate 12 0, 0⟩).pushAll
      { Crypto.clear with decrypt := fun _ => lookup twoSealed }
      (twoSealed.reverse.map fun entry => frame entry.ciphertext)).1 =
        ([[1], [2, 3]].take j).flatten :=
  (push_delivers_in_order { Crypto.clear with decrypt := fun _ => lookup twoSealed }
    (Vector.replicate 32 0) (Vector.replicate 32 0) (List.replicate 32 0)
    ⟨Vector.replicate 32 0, Vector.replicate 12 0, some 0⟩ _ [[1], [2, 3]] rfl rfl
    (fun nonce ct plain => lookup_eq_some (by decide) nonce ct plain) _).1

end PpqTee.Ehbp
