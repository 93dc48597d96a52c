import PpqTee.Client.Agreement

/-! A response that is cut short. The framing has no end marker, so whether a cut shows
depends on where it falls. -/

namespace PpqTee.Client
open Ehbp

variable {crypto : Crypto}

/-- The buffered reader fails, and the stream ends in an error. -/
def TruncationDetected (crypto : Crypto) (opener : FrameOpener) (response : Response) : Prop :=
  (∃ e, openBody crypto (FrameDecoder.new opener) response = .error e) ∧
    ∃ items e, openStream crypto (FrameDecoder.new opener) response = .ok items ∧
      items.getLast? = some (.error e)

/-- The cut falls between two frames, and no frame before it is longer than the decoder takes. -/
def BetweenFrames (wires : List Bytes) (cut : Bytes) : Prop :=
  ∃ j, cut = (wires.take j).flatten ∧ ∀ sealed ∈ wires.take j, sealed.length ≤ 4 + MAX_FRAME_LEN

theorem truncation_detected_iff {opener : FrameOpener} {response : Response}
    (success : response.status.isSuccess = true) :
    TruncationDetected crypto opener response ↔
      ¬ ∃ out, Complete crypto opener response.body out := by
  have body : (∃ e, openBody crypto (FrameDecoder.new opener) response = .error e) ↔
      ¬ ∃ out, Complete crypto opener response.body out := by
    constructor
    · intro failing completed
      obtain ⟨e, failed⟩ := failing
      obtain ⟨out, complete⟩ := completed
      rw [openBody_ok.mpr ⟨success, complete⟩] at failed
      cases failed
    · intro incomplete
      cases result : openBody crypto (FrameDecoder.new opener) response with
      | error e => exact ⟨e, rfl⟩
      | ok out => exact absurd ⟨out, (openBody_ok.mp result).2⟩ incomplete
  have stream : (∃ items e, openStream crypto (FrameDecoder.new opener) response = .ok items ∧
      items.getLast? = some (.error e)) ↔
      ∃ e, openBody crypto (FrameDecoder.new opener) response = .error e := by
    constructor
    · intro ending
      obtain ⟨items, e, opened, last⟩ := ending
      exact ⟨e, (openBody_error_iff success).mpr ⟨items, opened, last⟩⟩
    · intro failing
      obtain ⟨e, failed⟩ := failing
      obtain ⟨items, opened, last⟩ := (openBody_error_iff success).mp failed
      exact ⟨items, e, opened, last⟩
  unfold TruncationDetected
  rw [stream, and_self, body]

theorem readAll_chunks (chunks : List Bytes) :
    readAll (chunks.map .ok) = .ok chunks.flatten := by
  induction chunks with
  | nil => rfl
  | cons chunk chunks ih =>
    rw [List.map_cons, readAll, ih]
    rfl

theorem between_of_complete {opener : FrameOpener} {sealer : FrameSealer}
    {plains wires chunks : List Bytes} {out : Bytes}
    (sealed : sealer.sealAll crypto plains = .ok wires) (cut : chunks.flatten <+: wires.flatten)
    (complete : Complete crypto opener (chunks.map .ok) out) :
    BetweenFrames wires chunks.flatten := by
  obtain ⟨bytes, frames, opener', delivered, scanned, -⟩ := complete
  rw [readAll_chunks] at delivered
  cases delivered
  obtain ⟨whole, decrypted⟩ := reads_wire (Incremental.Scanner.reads_of_scan scanned)
  obtain ⟨cts, same, -, bounded⟩ := sealAll_wire sealed
  rw [List.append_nil] at whole
  subst same
  have small : MAX_FRAME_LEN ≤ U32_MAX := by decide
  have framed := wire_prefix (fun ct member => (decrypted.fits ct member).trans small) bounded
    (by rw [← whole]; exact cut)
  refine ⟨(frames.map Opened.ciphertext).length, ?_, ?_⟩
  · rw [← List.map_take, ← framed]
    exact whole
  · intro sealed member
    rw [← List.map_take, ← framed] at member
    obtain ⟨ct, inside, same⟩ := List.mem_map.mp member
    have fits := decrypted.fits ct inside
    rw [← same, length_frame]
    omega

theorem complete_of_between (honest : Honest crypto) {opener : FrameOpener} {sealer : FrameSealer}
    {plains wires chunks : List Bytes} (cipher : sealer.cipher = opener.cipher)
    (base : sealer.base = opener.base) (seq : sealer.seq = some opener.seq)
    (sealed : sealer.sealAll crypto plains = .ok wires) (strict : chunks.flatten ≠ wires.flatten)
    (between : BetweenFrames wires chunks.flatten) :
    ∃ out, Complete crypto opener (chunks.map .ok) out := by
  obtain ⟨j, same, fits⟩ := between
  have inside : j < wires.length := by
    by_contra outside
    rw [List.take_of_length_le (by omega)] at same
    exact strict same
  obtain ⟨frames, opener', reads, -⟩ := reads_sealed honest cipher base seq sealed j inside fits []
  rw [List.append_nil, ← same] at reads
  exact ⟨plaintext frames, complete_of_reads (readAll_chunks chunks) reads⟩

/-- A strict prefix of what the enclave sealed is refused by both readers, unless it was cut
between two frames. -/
theorem truncation_detected_unless_between_frames (crypto : Crypto) (honest : Honest crypto)
    (secret enc : Vector UInt8 32) (responseNonce : Bytes) (sealer : FrameSealer)
    (opener : FrameOpener) (plains wires chunks : List Bytes) (response : Response)
    (sealing : FrameSealer.new crypto secret enc responseNonce = .ok sealer)
    (opening : (ResponseSession.mk secret enc).opener crypto responseNonce = .ok opener)
    (sealed : sealer.sealAll crypto plains = .ok wires)
    (cut : chunks.flatten <+: wires.flatten) (strict : chunks.flatten ≠ wires.flatten)
    (success : response.status.isSuccess = true) (delivered : response.body = chunks.map .ok) :
    TruncationDetected crypto opener response ↔ ¬ BetweenFrames wires chunks.flatten := by
  obtain ⟨fresh, same⟩ := opener_of_sealer sealing opening
  rw [truncation_detected_iff success, delivered]
  apply not_congr
  constructor
  · intro completed
    obtain ⟨out, complete⟩ := completed
    exact between_of_complete sealed cut complete
  · intro between
    exact complete_of_between honest (by rw [same]) (by rw [same]) (by rw [fresh, same]) sealed
      strict between

def twoFrames : List Bytes := twoSealed.map fun entry => frame entry.ciphertext

theorem sealAll_twoFrames :
    FrameSealer.sealAll .clear ⟨Vector.replicate 32 0, Vector.replicate 12 0, some 0⟩ [[1], [2, 3]] =
      .ok twoFrames := rfl

theorem truncation_detected_inside_frame :
    TruncationDetected .clear ⟨Vector.replicate 32 0, Vector.replicate 12 0, 0⟩
      ⟨⟨200, by decide⟩, [], [.ok (twoFrames.flatten.take 30)]⟩ ↔
    ¬ BetweenFrames twoFrames [twoFrames.flatten.take 30].flatten :=
  truncation_detected_unless_between_frames .clear honest_clear (Vector.replicate 32 0)
    (Vector.replicate 32 0) (List.replicate 32 0)
    ⟨Vector.replicate 32 0, Vector.replicate 12 0, some 0⟩ _ [[1], [2, 3]] _
    [twoFrames.flatten.take 30] _ rfl rfl sealAll_twoFrames (by decide) (by decide) rfl rfl

/-- Cut after the first of two frames, the response passes for a whole one. -/
theorem truncation_undetected_between_frames :
    ∃ sealer opener,
      FrameSealer.new .clear (Vector.replicate 32 0) (Vector.replicate 32 0)
        (List.replicate 32 0) = .ok sealer ∧
      (ResponseSession.mk (Vector.replicate 32 0) (Vector.replicate 32 0)).opener .clear
        (List.replicate 32 0) = .ok opener ∧
      sealer.sealAll .clear [[1], [2, 3]] = .ok twoFrames ∧
      (twoFrames.take 1).flatten <+: twoFrames.flatten ∧
      (twoFrames.take 1).flatten ≠ twoFrames.flatten ∧
      ¬ TruncationDetected .clear opener ⟨⟨200, by decide⟩, [], (twoFrames.take 1).map .ok⟩ := by
  have strict : (twoFrames.take 1).flatten ≠ twoFrames.flatten := by decide
  refine ⟨_, _, rfl, rfl, sealAll_twoFrames, by decide, strict, ?_⟩
  rw [truncation_detected_iff rfl, not_not]
  exact complete_of_between honest_clear rfl rfl rfl sealAll_twoFrames strict
    ⟨1, rfl, by decide⟩

end PpqTee.Client
