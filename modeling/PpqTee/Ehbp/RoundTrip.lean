import PpqTee.Ehbp.Wire

/-! Sealing and decoding as inverse to each other: whatever is sealed comes out again, however
the bytes are cut and whatever zero-length frames stand between the sealed ones. -/

namespace PpqTee.Ehbp

/-- HKDF expands to any length it allows, and the AEAD encrypts whatever could be framed. -/
structure Capable (crypto : Crypto) : Prop where
  expands : ∀ prk info n, n ≤ 255 * 32 → ∃ okm, crypto.expand prk info n = .ok okm
  encrypts : ∀ key nonce plain, plain.length + 16 ≤ U32_MAX →
    ∃ ct, crypto.encrypt key nonce plain = some ct

variable {crypto : Crypto}

theorem capable_clear : Capable .clear where
  expands _ _ n _ := ⟨Vector.replicate n 0, rfl⟩
  encrypts _ _ _ _ := ⟨_, rfl⟩

theorem derive_ok (capable : Capable crypto) (secret enc : Vector UInt8 32) {responseNonce : Bytes}
    (long : responseNonce.length = RESPONSE_NONCE_LEN) :
    ∃ cipher base, derive crypto secret enc responseNonce = .ok (cipher, base) := by
  obtain ⟨cipher, key⟩ := capable.expands (crypto.extract (enc.toList ++ responseNonce) secret.toList)
    (utf8 "key") 32 (by decide)
  obtain ⟨base, nonce⟩ := capable.expands
    (crypto.extract (enc.toList ++ responseNonce) secret.toList) (utf8 "nonce") 12 (by decide)
  refine ⟨cipher, base, ?_⟩
  unfold derive
  rw [if_neg (not_not.mpr long)]
  simp only [key, nonce]
  rfl

/-- The i-th of these frames encrypts the i-th plaintext under the i-th sequence number from
`seq` on. -/
def SealedFrom (crypto : Crypto) (sealer : FrameSealer) (seq : UInt64) (plains wires : List Bytes) :
    Prop :=
  wires.length = plains.length ∧ ∀ i plain, plains[i]? = some plain →
    ∃ ct, crypto.encrypt sealer.cipher (frameNonce sealer.base (seq + UInt64.ofNat i)) plain = some ct ∧
      wires[i]? = some (frame ct)

/-- As long as there are sequence numbers for them, all plaintexts that can be framed are sealed. -/
theorem sealAll_ok (honest : Honest crypto) (capable : Capable crypto) {sealer : FrameSealer}
    {seq : UInt64} (plains : List Bytes) (current : sealer.seq = some seq)
    (room : seq.toNat + plains.length < 2 ^ 64)
    (fits : ∀ plain ∈ plains, plain.length + 16 ≤ U32_MAX) :
    ∃ wires, sealer.sealAll crypto plains = .ok wires ∧ SealedFrom crypto sealer seq plains wires := by
  induction plains generalizing sealer seq with
  | nil => exact ⟨[], rfl, rfl, by simp⟩
  | cons plain plains ih =>
    rw [List.forall_mem_cons] at fits
    rw [List.length_cons] at room
    obtain ⟨ct, encrypted⟩ := capable.encrypts sealer.cipher (frameNonce sealer.base seq) plain fits.1
    have size := (honest _ _ _ _ encrypted).2
    have advanced : (seq + 1).toNat = seq.toNat + 1 := toNat_succ (by omega)
    have next : (⟨sealer.cipher, sealer.base, checkedAdd seq 1⟩ : FrameSealer).seq = some (seq + 1) :=
      checkedAdd_one.mpr ⟨by omega, rfl⟩
    obtain ⟨later, rest, counted, each⟩ := ih next (by omega) fits.2
    refine ⟨frame ct :: later, ?_, by simp [counted], ?_⟩
    · exact sealAll_cons.mpr ⟨seq, ct, later, current, encrypted, by omega, rfl, rest⟩
    · intro i other member
      cases i with
      | zero =>
        cases member
        exact ⟨ct, by simpa using encrypted, rfl⟩
      | succ i =>
        obtain ⟨ct', encrypted', here⟩ := each i other member
        have turn : seq + UInt64.ofNat (i + 1) = seq + 1 + UInt64.ofNat i := by
          rw [UInt64.ofNat_add, UInt64.add_assoc, UInt64.add_comm (UInt64.ofNat i)]
          rfl
        exact ⟨ct', by rw [turn]; exact encrypted', here⟩

theorem frame_eq_empty {ct : Bytes} : frame ct = frame [] ↔ ct = [] := by
  constructor
  · intro same
    rw [← drop_frame ct, same, drop_frame]
  · intro same
    rw [same]

/-- With zero-length frames anywhere between them, the frames that were sealed open to what was
sealed, and each of them, but nothing else, uses up a sequence number. -/
theorem openAll_sealed (honest : Honest crypto) {sealer : FrameSealer} {opener : FrameOpener}
    {cts plains wires : List Bytes} (cipher : sealer.cipher = opener.cipher)
    (base : sealer.base = opener.base) (current : sealer.seq = some opener.seq)
    (sealed : sealer.sealAll crypto plains = .ok wires)
    (kept : (cts.map frame).filter (· ≠ frame []) = wires)
    (room : opener.seq.toNat + plains.length < 2 ^ 64)
    (fits : ∀ plain ∈ plains, plain.length + 16 ≤ MAX_FRAME_LEN) :
    ∃ opener', openAll crypto opener cts = some (plains.flatten, opener') ∧
      opener'.seq.toNat = opener.seq.toNat + plains.length := by
  induction cts generalizing sealer opener plains wires with
  | nil =>
    cases plains with
    | nil => exact ⟨opener, rfl, rfl⟩
    | cons plain plains =>
      obtain ⟨_, ct, later, _, _, _, same, _⟩ := sealAll_cons.mp sealed
      rw [same] at kept
      cases kept
  | cons ct cts ih =>
    rw [openAll]
    by_cases skipped : ct = []
    · subst skipped
      rw [if_pos rfl]
      exact ih cipher base current sealed (by simpa using kept) room fits
    · have first : frame ct ≠ frame [] := fun same => skipped (frame_eq_empty.mp same)
      rw [List.map_cons, List.filter_cons_of_pos (by simpa using first)] at kept
      cases plains with
      | nil =>
        cases sealed
        cases kept
      | cons plain plains =>
        obtain ⟨seq, ct', later, current', encrypted, _, same, rest⟩ := sealAll_cons.mp sealed
        rw [current] at current'
        cases current'
        rw [same] at kept
        obtain ⟨head, tail⟩ := List.cons.inj kept
        have body : ct = ct' := by rw [← drop_frame ct, head, drop_frame]
        subst body
        rw [List.forall_mem_cons] at fits
        rw [List.length_cons] at room
        obtain ⟨decrypted, size⟩ := honest _ _ _ _ encrypted
        rw [cipher, base] at decrypted
        have opened := FrameOpener.openFrame_ok.mpr ⟨decrypted, (by omega), rfl⟩
        have advanced : (opener.seq + 1).toNat = opener.seq.toNat + 1 := toNat_succ (by omega)
        have next : checkedAdd opener.seq 1 = some (opener.seq + 1) :=
          checkedAdd_one.mpr ⟨by omega, rfl⟩
        have cipher' : (⟨sealer.cipher, sealer.base, checkedAdd opener.seq 1⟩ : FrameSealer).cipher =
          (⟨opener.cipher, opener.base, opener.seq + 1⟩ : FrameOpener).cipher := cipher
        have left : (opener.seq + 1).toNat + plains.length < 2 ^ 64 := by omega
        obtain ⟨opener', opens, moved⟩ := ih cipher' base next rest tail left fits.2
        rw [if_neg skipped, if_neg (by omega), opened]
        refine ⟨opener', ?_, ?_⟩
        · simp only [opens, Option.map_some, List.flatten_cons]
        · simp only at moved
          rw [moved, List.length_cons]
          omega

/-- A wire whose frames open is accepted in any chunks, and nothing is left over. -/
theorem pushAll_wire {opener opener' : FrameOpener} {cts chunks : List Bytes} {plain : Bytes}
    (opens : openAll crypto opener cts = some (plain, opener'))
    (whole : chunks.flatten = wire cts) :
    ∃ outs : List Bytes, (FrameDecoder.new opener).pushAll crypto chunks =
        (outs.map .ok, { opener := opener', buf := [], failed := false }) ∧ outs.flatten = plain := by
  obtain ⟨frames, reads, plaintexts⟩ := reads_openAll opens []
  have scanned := Incremental.Scanner.scan_of_reads reads
  rw [Incremental.Scanner.scan_wait (frameScanner_nil crypto opener'), List.append_nil,
    List.append_nil, ← whole] at scanned
  obtain ⟨outs, fed, together, _⟩ :=
    Incremental.Scanner.feedAll_more (frameScanner_nil crypto opener) scanned
  have live := FrameDecoder.pushAll_live crypto opener [] chunks
  rw [fed] at live
  refine ⟨outs.map plaintext, ?_, ?_⟩
  · rw [List.map_map]
    exact live
  · rw [← plaintext_flatten, together, plaintexts]

/-- Whatever zero-length frames are added to these, and however the result is cut, the decoder
accepts every piece, delivers exactly these plaintexts and ends cleanly, having used as many
sequence numbers as there are plaintexts. -/
def Recovers (crypto : Crypto) (opener : FrameOpener) (wires plains : List Bytes) : Prop :=
  ∀ delivered chunks : List Bytes, delivered.filter (· ≠ frame []) = wires →
    chunks.flatten = delivered.flatten →
    ∃ (outs : List Bytes) (decoder : FrameDecoder),
      (FrameDecoder.new opener).pushAll crypto chunks = (outs.map .ok, decoder) ∧
      outs.flatten = plains.flatten ∧ decoder.finish = .ok () ∧
      decoder.opener.seq.toNat = opener.seq.toNat + plains.length

theorem recovers_sealed (honest : Honest crypto) {sealer : FrameSealer} {opener : FrameOpener}
    {plains wires : List Bytes} (cipher : sealer.cipher = opener.cipher)
    (base : sealer.base = opener.base) (current : sealer.seq = some opener.seq)
    (sealed : sealer.sealAll crypto plains = .ok wires)
    (room : opener.seq.toNat + plains.length < 2 ^ 64)
    (fits : ∀ plain ∈ plains, plain.length + 16 ≤ MAX_FRAME_LEN) :
    Recovers crypto opener wires plains := by
  intro delivered chunks kept whole
  obtain ⟨cts, framed, _⟩ := sealAll_wire sealed
  have each : ∀ one ∈ delivered, frame (one.drop 4) = one := by
    intro one member
    by_cases empty : one = frame []
    · rw [empty, drop_frame]
    · have real : one ∈ cts.map frame := by
        rw [← framed, ← kept]
        exact List.mem_filter.mpr ⟨member, by simpa using empty⟩
      obtain ⟨ct, _, same⟩ := List.mem_map.mp real
      rw [← same, drop_frame]
  have split : (delivered.map (List.drop 4)).map frame = delivered := by
    rw [List.map_map]
    exact (List.map_congr_left each).trans (List.map_id delivered)
  obtain ⟨opener', opens, moved⟩ :=
    openAll_sealed honest cipher base current sealed (by rw [split, kept]) room fits
  have together : chunks.flatten = wire (delivered.map (List.drop 4)) := by
    rw [whole, wire, split]
  obtain ⟨outs, pushed, plaintexts⟩ := pushAll_wire opens together
  exact ⟨outs, _, pushed, plaintexts, rfl, moved⟩

/-- Seal, then decode: the identity on lists of plaintexts, an empty one included, which is sealed
to a frame of its own and not to a zero-length one. -/
theorem seal_then_decode (crypto : Crypto) (honest : Honest crypto) (capable : Capable crypto)
    (secret enc : Vector UInt8 32) (responseNonce : Bytes)
    (long : responseNonce.length = RESPONSE_NONCE_LEN) (plains : List Bytes)
    (few : plains.length < 2 ^ 64) (fits : ∀ plain ∈ plains, plain.length + 16 ≤ MAX_FRAME_LEN) :
    ∃ sealer opener wires, FrameSealer.new crypto secret enc responseNonce = .ok sealer ∧
      (ResponseSession.mk secret enc).opener crypto responseNonce = .ok opener ∧
      opener.seq = 0 ∧ sealer.sealAll crypto plains = .ok wires ∧
      SealedFrom crypto sealer 0 plains wires ∧ frame [] ∉ wires ∧
      Recovers crypto opener wires plains := by
  obtain ⟨cipher, base, derived⟩ := derive_ok capable secret enc long
  have small : MAX_FRAME_LEN ≤ U32_MAX := by decide
  have room : (0 : UInt64).toNat + plains.length < 2 ^ 64 := by
    rw [UInt64.toNat_zero, Nat.zero_add]
    exact few
  have fresh : (⟨cipher, base, some 0⟩ : FrameSealer).seq = some 0 := rfl
  obtain ⟨wires, sealed, each⟩ := sealAll_ok honest capable plains fresh room fun plain member =>
    Nat.le_trans (fits plain member) small
  refine ⟨⟨cipher, base, some 0⟩, ⟨cipher, base, 0⟩, wires, ?_, ?_, rfl, sealed, each, ?_, ?_⟩
  · rw [FrameSealer.new, derived]
    rfl
  · rw [ResponseSession.opener, derived]
    rfl
  · intro empty
    obtain ⟨i, inside, here⟩ := List.mem_iff_getElem.mp empty
    have inside' : i < plains.length := each.1 ▸ inside
    obtain ⟨ct, encrypted, framed⟩ := each.2 i plains[i] (List.getElem?_eq_getElem inside')
    rw [List.getElem?_eq_getElem inside, here] at framed
    have none : ct = [] := frame_eq_empty.mp (Option.some.inj framed).symm
    have size := (honest _ _ _ _ encrypted).2
    rw [none] at size
    cases size
  · exact recovers_sealed honest rfl rfl rfl sealed room fits

/-- An empty plaintext and another one, sealed in the clear. -/
theorem seal_then_decode_clear :
    ∃ sealer opener wires,
      FrameSealer.new .clear (Vector.replicate 32 0) (Vector.replicate 32 0) (List.replicate 32 0) =
        .ok sealer ∧
      (ResponseSession.mk (Vector.replicate 32 0) (Vector.replicate 32 0)).opener .clear
        (List.replicate 32 0) = .ok opener ∧
      opener.seq = 0 ∧ sealer.sealAll .clear [[], [1]] = .ok wires ∧
      SealedFrom .clear sealer 0 [[], [1]] wires ∧ frame [] ∉ wires ∧
      Recovers .clear opener wires [[], [1]] :=
  seal_then_decode .clear honest_clear capable_clear (Vector.replicate 32 0) (Vector.replicate 32 0)
    (List.replicate 32 0) rfl [[], [1]] (by decide) (by decide)

end PpqTee.Ehbp
