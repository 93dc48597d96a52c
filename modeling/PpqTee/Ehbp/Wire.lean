import PpqTee.Ehbp.Reference

/-! Wires as sequences of frames: what reading frames off a wire says about the wire, and
that a wire written by the sealer reads back. -/

namespace PpqTee.Ehbp

def wire (cts : List Bytes) : Bytes := (cts.map frame).flatten

@[simp] theorem wire_nil : wire [] = [] := rfl

theorem wire_cons (ct : Bytes) (cts : List Bytes) : wire (ct :: cts) = frame ct ++ wire cts := rfl

theorem lenPrefix_frame {ct : Bytes} (fits : ct.length ≤ U32_MAX) (rest : Bytes) :
    lenPrefix (frame ct ++ rest) = ct.length := by
  unfold U32_MAX at fits
  unfold lenPrefix frame
  rw [List.append_assoc, List.take_left' (BigEndian.length_toBytes 4 _),
    BigEndian.ofBytes_toBytes_mod, Nat.mod_eq_of_lt (by omega), Nat.mod_eq_of_lt (by omega)]

theorem lenPrefix_lt (w : Bytes) : lenPrefix w < 2 ^ 32 := by
  have bounded := BigEndian.ofBytes_lt (w.take 4)
  have short : (w.take 4).length ≤ 4 := by
    rw [List.length_take]
    omega
  have grows : 256 ^ (w.take 4).length ≤ 256 ^ 4 := Nat.pow_le_pow_right (by decide) short
  unfold lenPrefix
  omega

theorem eq_frame_append {w : Bytes} (whole : 4 + lenPrefix w ≤ w.length) :
    w = frame ((w.drop 4).take (lenPrefix w)) ++ w.drop (4 + lenPrefix w) := by
  have size : ((w.drop 4).take (lenPrefix w)).length = lenPrefix w := by
    rw [List.length_take, List.length_drop]
    omega
  have head : BigEndian.toBytes 4 (lenPrefix w) = w.take 4 := by
    have four : (w.take 4).length = 4 := by
      rw [List.length_take]
      omega
    have back := BigEndian.toBytes_ofBytes (w.take 4)
    rwa [four] at back
  unfold frame
  rw [size, Nat.mod_eq_of_lt (lenPrefix_lt w), head, List.append_assoc, ← List.drop_drop,
    List.take_append_drop, List.take_append_drop]

theorem frameTurn_wire {crypto : Crypto} {opener opener' : FrameOpener} {ct plain : Bytes}
    (nonempty : ct ≠ []) (fits : ct.length ≤ MAX_FRAME_LEN)
    (opened : opener.openFrame crypto ct = (.ok plain, opener')) (rest : Bytes) :
    frameTurn crypto opener (frame ct ++ rest) = .token (4 + ct.length) ⟨ct, plain⟩ opener' := by
  have small : MAX_FRAME_LEN ≤ U32_MAX := by decide
  have announced := lenPrefix_frame (by omega : ct.length ≤ U32_MAX) rest
  have positive : 0 < ct.length := List.length_pos_iff.mpr nonempty
  have body : ((frame ct ++ rest).drop 4).take ct.length = ct := by
    rw [List.drop_append_of_le_length (by rw [length_frame]; omega), drop_frame, List.take_left]
  have turn : frameTurn crypto opener (frame ct ++ rest) = _ :=
    frameTurn_frame (by rw [announced]; exact fits)
      (by rw [announced, List.length_append, length_frame]; omega) (by rw [announced]; exact positive)
  rw [turn, announced, body, opened]

theorem frameTurn_skip (crypto : Crypto) (opener : FrameOpener) (rest : Bytes) :
    frameTurn crypto opener (frame [] ++ rest) = .token 4 ⟨[], []⟩ opener := by
  have fits : ([] : Bytes).length ≤ U32_MAX := Nat.zero_le _
  have announced := lenPrefix_frame fits rest
  apply frameTurn_empty
  · rw [List.length_append, length_frame]
    omega
  · exact announced

/-- One frame more at the front. -/
theorem reads_frame {crypto : Crypto} {opener opener₁ opener₂ : FrameOpener} {ct plain : Bytes}
    {w rest : Bytes} {frames : List Opened} (nonempty : ct ≠ []) (fits : ct.length ≤ MAX_FRAME_LEN)
    (opened : opener.openFrame crypto ct = (.ok plain, opener₁))
    (reads : (frameScanner crypto).Reads opener₁ w frames opener₂ rest) :
    (frameScanner crypto).Reads opener (frame ct ++ w) (⟨ct, plain⟩ :: frames) opener₂ rest := by
  have turn := frameTurn_wire nonempty fits opened w
  rw [← frameScanner_next] at turn
  apply Incremental.Scanner.Reads.cons turn
  rwa [List.drop_left' (length_frame ct)]

theorem reads_skip {crypto : Crypto} {opener opener' : FrameOpener} {w rest : Bytes}
    {frames : List Opened} (reads : (frameScanner crypto).Reads opener w frames opener' rest) :
    (frameScanner crypto).Reads opener (frame [] ++ w) (⟨[], []⟩ :: frames) opener' rest := by
  have four : (frame []).length = 4 := by rw [length_frame, List.length_nil]
  have turn := frameTurn_skip crypto opener w
  rw [← frameScanner_next] at turn
  apply Incremental.Scanner.Reads.cons turn
  rwa [List.drop_left' four]

/-- Opening the frames of a wire one after another, empty ones skipped: the plaintext and the
opener left, unless a frame is too long or does not open. -/
def openAll (crypto : Crypto) : FrameOpener → List Bytes → Option (Bytes × FrameOpener)
  | opener, [] => some ([], opener)
  | opener, ct :: cts =>
    if ct = [] then openAll crypto opener cts
    else if ct.length > MAX_FRAME_LEN then none
    else
      match opener.openFrame crypto ct with
      | (.ok plain, opener) => (openAll crypto opener cts).map fun later => (plain ++ later.1, later.2)
      | (.error _, _) => none

theorem reads_openAll {crypto : Crypto} {opener opener' : FrameOpener} {cts : List Bytes}
    {plain : Bytes} (opens : openAll crypto opener cts = some (plain, opener')) (rest : Bytes) :
    ∃ frames, (frameScanner crypto).Reads opener (wire cts ++ rest) frames opener' rest ∧
      plaintext frames = plain := by
  induction cts generalizing opener plain with
  | nil =>
    cases opens
    exact ⟨[], .nil _ rest, rfl⟩
  | cons ct cts ih =>
    rw [wire_cons, List.append_assoc]
    unfold openAll at opens
    by_cases skipped : ct = []
    · subst skipped
      rw [if_pos rfl] at opens
      obtain ⟨frames, reads, plaintexts⟩ := ih opens
      exact ⟨⟨[], []⟩ :: frames, reads_skip reads, plaintexts⟩
    · rw [if_neg skipped] at opens
      split at opens
      · cases opens
      rename_i fits
      split at opens
      · rename_i first opener₁ opened
        obtain ⟨⟨later, last⟩, tail, same⟩ := Option.map_eq_some_iff.mp opens
        cases same
        obtain ⟨frames, reads, plaintexts⟩ := ih tail
        refine ⟨⟨ct, first⟩ :: frames, ?_, by rw [← plaintexts]; rfl⟩
        exact reads_frame skipped (Nat.not_lt.mp fits) opened reads
      · cases opens

/-- The frames of a wire are determined by its bytes, also on a wire that has been cut. -/
theorem wire_prefix {cts cts' : List Bytes} (fits : ∀ ct ∈ cts, ct.length ≤ U32_MAX)
    (fits' : ∀ ct ∈ cts', ct.length ≤ U32_MAX) (cut : wire cts <+: wire cts') :
    cts = cts'.take cts.length := by
  induction cts generalizing cts' with
  | nil => simp
  | cons ct cts ih =>
    cases cts' with
    | nil =>
      have empty := List.prefix_nil.mp cut
      rw [wire_cons] at empty
      exact absurd (List.append_eq_nil_iff.mp empty).1 (frame_ne_nil ct)
    | cons ct' cts' =>
      rw [List.forall_mem_cons] at fits fits'
      obtain ⟨rest, whole⟩ := cut
      rw [wire_cons, wire_cons, List.append_assoc] at whole
      have sizes : ct.length = ct'.length := by
        rw [← lenPrefix_frame fits.1 (wire cts ++ rest), whole, lenPrefix_frame fits'.1]
      have parts := List.append_inj whole (by rw [length_frame, length_frame, sizes])
      have same : ct = ct' := by
        rw [← drop_frame ct, parts.1, drop_frame]
      rw [List.length_cons, List.take_succ_cons, ← same, ← ih fits.2 fits'.2 ⟨rest, parts.2⟩]

/-- The non-empty ones among `cts` decrypt, in order, to `plains`: the i-th under the i-th
sequence number from the opener's on. -/
structure Decrypted (crypto : Crypto) (opener : FrameOpener) (cts plains : List Bytes) : Prop where
  fits : ∀ ct ∈ cts, ct.length ≤ MAX_FRAME_LEN
  room : opener.seq.toNat + plains.length < 2 ^ 64
  count : (cts.filter (· ≠ [])).length = plains.length
  decrypts : ∀ i ct, (cts.filter (· ≠ []))[i]? = some ct →
    crypto.decrypt opener.cipher (frameNonce opener.base (opener.seq + UInt64.ofNat i)) ct = plains[i]?

variable {crypto : Crypto}

theorem Decrypted.nil (opener : FrameOpener) : Decrypted crypto opener [] [] where
  fits := by simp
  room := opener.seq.toNat_lt
  count := rfl
  decrypts := by simp

theorem Decrypted.cons_skip {opener : FrameOpener} {cts plains : List Bytes}
    (later : Decrypted crypto opener cts plains) : Decrypted crypto opener ([] :: cts) plains where
  fits := by
    rw [List.forall_mem_cons]
    exact ⟨Nat.zero_le _, later.fits⟩
  room := later.room
  count := by simpa using later.count
  decrypts := by simpa using later.decrypts

theorem Decrypted.cons {opener opener' : FrameOpener} {ct plain : Bytes} {cts plains : List Bytes}
    (nonempty : ct ≠ []) (fits : ct.length ≤ MAX_FRAME_LEN)
    (opened : opener.openFrame crypto ct = (.ok plain, opener'))
    (later : Decrypted crypto opener' cts plains) :
    Decrypted crypto opener (ct :: cts) (plain :: plains) := by
  obtain ⟨decrypted, room, moved⟩ := FrameOpener.openFrame_ok.mp opened
  have kept : (ct :: cts).filter (· ≠ []) = ct :: cts.filter (· ≠ []) := by simp [nonempty]
  have seq : opener'.seq = opener.seq + 1 := by rw [moved]
  have counted : opener'.seq.toNat = opener.seq.toNat + 1 := by rw [seq, toNat_succ room]
  constructor
  · rw [List.forall_mem_cons]
    exact ⟨fits, later.fits⟩
  · have after := later.room
    rw [List.length_cons]
    omega
  · rw [kept, List.length_cons, List.length_cons, later.count]
  · intro i body member
    rw [kept] at member
    cases i with
    | zero =>
      cases member
      simpa using decrypted
    | succ i =>
      rw [List.getElem?_cons_succ] at member ⊢
      have next := later.decrypts i body member
      have turn : opener.seq + UInt64.ofNat (i + 1) = opener.seq + 1 + UInt64.ofNat i := by
        rw [UInt64.ofNat_add, UInt64.add_assoc, UInt64.add_comm (UInt64.ofNat i)]
        rfl
      rw [moved] at next
      rw [← next, turn]

/-- What was read off a wire is its frames, each of which was opened in its turn. -/
theorem reads_wire {opener opener' : FrameOpener} {w rest : Bytes} {frames : List Opened}
    (reads : (frameScanner crypto).Reads opener w frames opener' rest) :
    w = wire (frames.map Opened.ciphertext) ++ rest ∧
      Decrypted crypto opener (frames.map Opened.ciphertext) (emitted frames) := by
  induction reads with
  | nil opener w => exact ⟨rfl, .nil opener⟩
  | @cons opener opener₁ opener₂ w rest read frames size turn _ ih =>
    obtain ⟨whole, later⟩ := ih
    rcases frameTurn_cases crypto opener w with ⟨same, _⟩ | ⟨_, _, same⟩ | ⟨long, empty, same⟩ |
      ⟨nonempty, fits, covered, opener', ⟨plain, opened, same⟩ | ⟨_, _, same⟩⟩
    all_goals
      rw [frameScanner_next, same] at turn
      cases turn
    · have first := eq_frame_append (w := w) (by omega)
      rw [empty, List.take_zero] at first
      refine ⟨?_, by simpa [emitted_cons_empty] using later.cons_skip⟩
      rw [List.map_cons, wire_cons, List.append_assoc, ← whole]
      exact first
    · have body := body_ne_nil nonempty covered
      refine ⟨?_, ?_⟩
      · rw [List.map_cons, wire_cons, List.append_assoc, ← whole]
        exact eq_frame_append covered
      · rw [List.map_cons, emitted_cons_frame _ _ _ body]
        refine later.cons body ?_ opened
        rw [List.length_take]
        omega

/-- An AEAD that decrypts what it encrypted and adds a tag of 16 bytes. -/
def Honest (crypto : Crypto) : Prop :=
  ∀ key nonce plain ct, crypto.encrypt key nonce plain = some ct →
    crypto.decrypt key nonce ct = some plain ∧ ct.length = plain.length + 16

theorem honest_clear : Honest .clear := by
  intro key nonce plain ct encrypted
  have same : plain ++ (nonce.toList ++ List.replicate 4 0) = ct := Option.some.inj encrypted
  have tag : (nonce.toList ++ List.replicate 4 (0 : UInt8)).length = 16 := by simp
  subst same
  refine ⟨?_, by rw [List.length_append, tag]⟩
  show (if nonce.toList ++ List.replicate 4 0 <:+ plain ++ (nonce.toList ++ List.replicate 4 0)
    then some _ else none) = _
  rw [if_pos (List.suffix_append _ _), List.length_append, tag, Nat.add_sub_cancel, List.take_left]

theorem openAll_frame {crypto : Crypto} (honest : Honest crypto) {opener : FrameOpener}
    {plain ct : Bytes}
    (encrypted : crypto.encrypt opener.cipher (frameNonce opener.base opener.seq) plain = some ct)
    (room : opener.seq.toNat + 1 < 2 ^ 64) (fits : ct.length ≤ MAX_FRAME_LEN) :
    openAll crypto opener [ct] = some (plain ++ [], { opener with seq := opener.seq + 1 }) := by
  obtain ⟨decrypts, size⟩ := honest _ _ _ _ encrypted
  have opened := FrameOpener.openFrame_ok.mpr ⟨decrypts, room, rfl⟩
  have nonempty : ct ≠ [] := List.ne_nil_of_length_pos (by omega)
  unfold openAll
  rw [if_neg nonempty, if_neg (Nat.not_lt.mpr fits), opened]
  rfl

def FrameSealer.sealAll (crypto : Crypto) : FrameSealer → List Bytes → Result (List Bytes)
  | _, [] => .ok []
  | sealer, plain :: plains => do
    let (result, sealer) := sealer.sealFrame crypto plain
    let sealed ← result
    let later ← sealAll crypto sealer plains
    .ok (sealed :: later)

theorem sealAll_cons {sealer : FrameSealer} {plain : Bytes} {plains wires : List Bytes} :
    sealer.sealAll crypto (plain :: plains) = .ok wires ↔
      ∃ seq ct later, sealer.seq = some seq ∧
        crypto.encrypt sealer.cipher (frameNonce sealer.base seq) plain = some ct ∧
        ct.length ≤ U32_MAX ∧ wires = frame ct :: later ∧
        FrameSealer.sealAll crypto { sealer with seq := checkedAdd seq 1 } plains = .ok later := by
  rw [FrameSealer.sealAll]
  rcases called : sealer.sealFrame crypto plain with ⟨result, sealer'⟩
  constructor
  · intro sealed
    obtain ⟨first, same, sealed⟩ := bind_ok.mp sealed
    obtain ⟨later, rest, made⟩ := bind_ok.mp sealed
    subst same
    cases made
    obtain ⟨seq, ct, current, encrypted, fits, framed, moved⟩ := FrameSealer.sealFrame_ok.mp called
    exact ⟨seq, ct, later, current, encrypted, fits, by rw [framed], by rw [← moved, rest]⟩
  · intro parts
    obtain ⟨seq, ct, later, current, encrypted, fits, same, rest⟩ := parts
    have sealed := FrameSealer.sealFrame_ok.mpr ⟨seq, ct, current, encrypted, fits, rfl, rfl⟩
    rw [called] at sealed
    cases sealed
    rw [same]
    simp only
    rw [rest]
    rfl

theorem sealAll_wire {sealer : FrameSealer} {plains wires : List Bytes}
    (sealed : sealer.sealAll crypto plains = .ok wires) :
    ∃ cts : List Bytes, wires = cts.map frame ∧ cts.length = plains.length ∧
      ∀ ct ∈ cts, ct.length ≤ U32_MAX := by
  induction plains generalizing sealer wires with
  | nil =>
    cases sealed
    exact ⟨[], rfl, rfl, by simp⟩
  | cons plain plains ih =>
    obtain ⟨seq, ct, later, _, _, fits, same, rest⟩ := sealAll_cons.mp sealed
    obtain ⟨cts, framed, counted, bounded⟩ := ih rest
    refine ⟨ct :: cts, by rw [same, framed]; rfl, by simp [counted], ?_⟩
    rw [List.forall_mem_cons]
    exact ⟨fits, bounded⟩

/-- The first frames of a sealed wire are read back, unless one is too long. All but the last
frame that could ever be sealed can be opened, hence the strict bound. -/
theorem reads_sealed (honest : Honest crypto) {sealer : FrameSealer} {opener : FrameOpener}
    {plains wires : List Bytes} (cipher : sealer.cipher = opener.cipher)
    (base : sealer.base = opener.base) (seq : sealer.seq = some opener.seq)
    (sealed : sealer.sealAll crypto plains = .ok wires) (j : Nat) (strict : j < wires.length)
    (fits : ∀ sealed ∈ wires.take j, sealed.length ≤ 4 + MAX_FRAME_LEN) (rest : Bytes) :
    ∃ frames opener', (frameScanner crypto).Reads opener ((wires.take j).flatten ++ rest) frames
      opener' rest ∧ plaintext frames = (plains.take j).flatten := by
  induction j generalizing sealer opener plains wires with
  | zero => exact ⟨[], opener, by simpa using .nil opener rest, rfl⟩
  | succ j ih =>
    cases plains with
    | nil =>
      cases sealed
      simp at strict
    | cons plain plains =>
      obtain ⟨seq', ct, later, current, encrypted, bounded, same, rest'⟩ := sealAll_cons.mp sealed
      subst same
      rw [seq] at current
      cases current
      obtain ⟨decrypted, size⟩ := honest _ _ _ _ encrypted
      rw [cipher, base] at decrypted
      rw [List.length_cons] at strict
      rw [List.take_succ_cons, List.forall_mem_cons, length_frame] at fits
      -- the frame after this one was sealed too, so this was not the last sequence number
      have next : ∃ seq', checkedAdd opener.seq 1 = some seq' := by
        cases plains with
        | nil =>
          cases rest'
          simp at strict
        | cons plain' plains =>
          obtain ⟨seq', _, _, current, _⟩ := sealAll_cons.mp rest'
          exact ⟨seq', current⟩
      obtain ⟨seq', moved⟩ := next
      obtain ⟨room, advanced⟩ := checkedAdd_one.mp moved
      have opened := FrameOpener.openFrame_ok.mpr ⟨decrypted, room, rfl⟩
      have cipher' : (⟨sealer.cipher, sealer.base, checkedAdd opener.seq 1⟩ : FrameSealer).cipher =
        (⟨opener.cipher, opener.base, opener.seq + 1⟩ : FrameOpener).cipher := cipher
      have base' : (⟨sealer.cipher, sealer.base, checkedAdd opener.seq 1⟩ : FrameSealer).base =
        (⟨opener.cipher, opener.base, opener.seq + 1⟩ : FrameOpener).base := base
      obtain ⟨frames, opener', reads, plaintexts⟩ :=
        ih cipher' base' (by rw [moved, advanced]) rest' (by omega) fits.2
      refine ⟨⟨ct, plain⟩ :: frames, opener', ?_, ?_⟩
      · rw [List.take_succ_cons, List.flatten_cons, List.append_assoc]
        have nonempty : ct ≠ [] := List.ne_nil_of_length_pos (by omega)
        exact reads_frame nonempty (by omega) opened reads
      · rw [List.take_succ_cons, List.flatten_cons, ← plaintexts]
        rfl

end PpqTee.Ehbp
