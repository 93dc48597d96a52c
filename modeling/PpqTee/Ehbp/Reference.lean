import PpqTee.Ehbp.Stream

/-! Decoding a whole byte string at once, and the incremental decoder as its refinement:
cutting the bytes into chunks changes neither what is decoded nor what is refused. -/

namespace PpqTee.Ehbp

/-- What batch decoding makes of a byte string: the plaintexts of the frames that opened, and
either the bytes left over or the error, with the offset at which the offending length
prefix or frame is complete. -/
inductive Reference where
  | leftover (plains : List Bytes) (rest : Bytes)
  | failure (plains : List Bytes) (e : Error) (needed : Nat)

/-- Put the frame that came before in front: the plaintext it gave, if any, and its size. -/
def Reference.behind (plain : Option Bytes) (size : Nat) : Reference → Reference
  | .leftover plains rest => .leftover (plain.toList ++ plains) rest
  | .failure plains e needed => .failure (plain.toList ++ plains) e (size + needed)

/-- Parse `w` greedily from the opener's sequence number on. -/
def reference (crypto : Crypto) (opener : FrameOpener) (w : Bytes) : Reference :=
  if _short : w.length < 4 then .leftover [] w
  else
    let len := BigEndian.ofBytes (w.take 4)
    if len > MAX_FRAME_LEN then .failure [] (oversized len) 4
    else if w.length < 4 + len then .leftover [] w
    else if len = 0 then (reference crypto opener (w.drop 4)).behind none 4
    else
      match opener.openFrame crypto ((w.drop 4).take len) with
      | (.error e, _) => .failure [] e (4 + len)
      | (.ok plain, opener) =>
        (reference crypto opener (w.drop (4 + len))).behind (some plain) (4 + len)
termination_by w.length
decreasing_by all_goals simp only [List.length_drop]; omega

def emitted (frames : List Opened) : List Bytes :=
  (frames.filter fun frame => !frame.ciphertext.isEmpty).map Opened.plain

theorem emitted_cons_empty (frames : List Opened) :
    emitted (⟨[], []⟩ :: frames) = emitted frames := by
  simp [emitted]

theorem emitted_cons_frame (body plain : Bytes) (frames : List Opened) (nonempty : body ≠ []) :
    emitted (⟨body, plain⟩ :: frames) = plain :: emitted frames := by
  simp [emitted, nonempty]

theorem emitted_append (first later : List Opened) :
    emitted (first ++ later) = emitted first ++ emitted later := by
  simp [emitted]

theorem plaintext_append (first later : List Opened) :
    plaintext (first ++ later) = plaintext first ++ plaintext later := by
  unfold plaintext
  exact List.flatMap_append

theorem plaintext_flatten (pieces : List (List Opened)) :
    plaintext pieces.flatten = (pieces.map plaintext).flatten := by
  induction pieces with
  | nil => rfl
  | cons piece pieces ih =>
    rw [List.flatten_cons, List.map_cons, List.flatten_cons, ← ih, plaintext_append]

theorem body_ne_nil {w : Bytes} (nonempty : 0 < lenPrefix w) (whole : 4 + lenPrefix w ≤ w.length) :
    (w.drop 4).take (lenPrefix w) ≠ [] := by
  apply List.ne_nil_of_length_pos
  rw [List.length_take, List.length_drop]
  omega

/-- The batch decoder is the scan of the whole input. -/
theorem reference_eq_scan (crypto : Crypto) (opener : FrameOpener) (w : Bytes) :
    reference crypto opener w =
      match (frameScanner crypto).scan opener w with
      | (frames, .more _ rest) => .leftover (emitted frames) rest
      | (frames, .rejected needed e _) => .failure (emitted frames) e needed := by
  induction size : w.length using Nat.strongRecOn generalizing opener w with
  | ind size ih =>
    rw [reference]
    change (if _short : w.length < 4 then Reference.leftover [] w
      else if lenPrefix w > MAX_FRAME_LEN then .failure [] (oversized (lenPrefix w)) 4
      else if w.length < 4 + lenPrefix w then .leftover [] w
      else if lenPrefix w = 0 then (reference crypto opener (w.drop 4)).behind none 4
      else
        match opener.openFrame crypto ((w.drop 4).take (lenPrefix w)) with
        | (.error e, _) => .failure [] e (4 + lenPrefix w)
        | (.ok plain, opener) =>
          (reference crypto opener (w.drop (4 + lenPrefix w))).behind (some plain)
            (4 + lenPrefix w)) = _
    rcases frameTurn_cases crypto opener w with ⟨turn, unfinished⟩ | ⟨long, exceeds, turn⟩ |
      ⟨long, empty, turn⟩ | ⟨nonempty, fits, whole, opener', ⟨plain, opened, turn⟩ | ⟨e, opened, turn⟩⟩
    · rw [Incremental.Scanner.scan_wait (S := frameScanner crypto) turn]
      rcases unfinished with short | ⟨fits, partly⟩
      · rw [dif_pos short]; rfl
      · rw [if_neg (show ¬ lenPrefix w > MAX_FRAME_LEN by omega), if_pos partly, dite_eq_ite, ite_self]
        rfl
    · rw [Incremental.Scanner.scan_reject (S := frameScanner crypto) turn]
      rw [dif_neg (by omega), if_pos exceeds]
      rfl
    · rw [Incremental.Scanner.scan_token (S := frameScanner crypto) turn]
      rw [dif_neg (by omega), if_neg (by rw [empty]; omega), if_neg (by omega), if_pos empty,
        ih (w.drop 4).length (by simp only [List.length_drop]; omega) opener (w.drop 4) rfl]
      obtain ⟨frames, ending⟩ := (frameScanner crypto).scan opener (w.drop 4)
      cases ending <;> simp [Incremental.Ending.after, Reference.behind, emitted_cons_empty]
    · rw [Incremental.Scanner.scan_token (S := frameScanner crypto) turn]
      rw [dif_neg (by omega), if_neg (by omega), if_neg (by omega), if_neg (by omega), opened]
      simp only
      rw [ih (w.drop (4 + lenPrefix w)).length (by simp only [List.length_drop]; omega) opener'
        (w.drop (4 + lenPrefix w)) rfl]
      obtain ⟨frames, ending⟩ := (frameScanner crypto).scan opener' (w.drop (4 + lenPrefix w))
      cases ending <;>
        simp [Incremental.Ending.after, Reference.behind,
          emitted_cons_frame _ _ _ (body_ne_nil nonempty whole)]
    · rw [Incremental.Scanner.scan_reject (S := frameScanner crypto) turn]
      rw [dif_neg (by omega), if_neg (by omega), if_neg (by omega), if_neg (by omega), opened]
      rfl

theorem plain_of_skipped {crypto : Crypto} {opener opener' : FrameOpener} {w rest : Bytes}
    {frames : List Opened} (reads : (frameScanner crypto).Reads opener w frames opener' rest) :
    ∀ frame ∈ frames, frame.ciphertext = [] → frame.plain = [] := by
  induction reads with
  | nil => simp
  | @cons opener opener₁ opener₂ w rest frame frames size turn _ ih =>
    rw [List.forall_mem_cons]
    refine ⟨?_, ih⟩
    rcases frameTurn_cases crypto opener w with ⟨same, _⟩ | ⟨_, _, same⟩ | ⟨_, _, same⟩ |
      ⟨nonempty, _, whole, _, ⟨plain, _, same⟩ | ⟨_, _, same⟩⟩
    all_goals
      rw [frameScanner_next, same] at turn
      cases turn
    · intro _
      rfl
    · intro empty
      exact absurd empty (body_ne_nil nonempty whole)

theorem plaintext_eq_emitted {frames : List Opened}
    (skipped : ∀ frame ∈ frames, frame.ciphertext = [] → frame.plain = []) :
    plaintext frames = (emitted frames).flatten := by
  induction frames with
  | nil => rfl
  | cons frame frames ih =>
    rw [List.forall_mem_cons] at skipped
    have later := ih skipped.2
    obtain ⟨ciphertext, plain⟩ := frame
    by_cases empty : ciphertext = []
    · subst empty
      have none : plain = [] := skipped.1 rfl
      subst none
      rw [emitted_cons_empty, ← later]
      rfl
    · rw [emitted_cons_frame _ _ _ empty, List.flatten_cons, ← later]
      rfl

namespace FrameDecoder

variable (crypto : Crypto)

/-- Once poisoned, a decoder answers every call with the same error and stays as it is. -/
theorem push_failed (decoder : FrameDecoder) (chunk : Bytes) (failed : decoder.failed = true) :
    decoder.push crypto chunk = (.error poisoned, decoder) := by
  rw [push, if_pos failed]

theorem pushAll_failed (decoder : FrameDecoder) (chunks : List Bytes)
    (failed : decoder.failed = true) :
    decoder.pushAll crypto chunks = (List.replicate chunks.length (.error poisoned), decoder) := by
  induction chunks with
  | nil => rfl
  | cons chunk chunks ih =>
    simp [pushAll, push_failed crypto decoder chunk failed, ih, List.replicate_succ]

theorem push_error {decoder decoder' : FrameDecoder} {chunk : Bytes} {e : Error}
    (refused : decoder.push crypto chunk = (.error e, decoder')) : decoder'.failed = true := by
  unfold push at refused
  by_cases failed : decoder.failed = true
  · rw [if_pos failed] at refused
    cases refused
    exact failed
  · rw [if_neg failed] at refused
    simp only at refused
    split at refused <;> cases refused
    rfl

theorem finish_failed (decoder : FrameDecoder) (failed : decoder.failed = true) :
    decoder.finish = .error poisoned := by
  rw [finish, if_pos failed]

theorem finish_live (opener : FrameOpener) (buf : Bytes) :
    finish { opener, buf, failed := false } = .ok () ↔ buf = [] := by
  cases buf <;> simp [finish]

/-- A push on a decoder that has not failed is one feeding of the scanner. -/
theorem push_live (opener : FrameOpener) (buf chunk : Bytes) :
    push crypto { opener, buf, failed := false } chunk =
      match (frameScanner crypto).scan opener (buf ++ chunk) with
      | (frames, .more opener rest) =>
        (.ok (plaintext frames), { opener, buf := rest, failed := false })
      | (_, .rejected _ e opener) =>
        (.error e, { opener, buf := buf ++ chunk, failed := true }) := by
  have looped := loop_eq_scan crypto (buf ++ chunk) 0 [] opener (Nat.zero_le _)
  rw [List.drop_zero] at looped
  simp only [push, Bool.false_eq_true, if_false]
  rw [looped]
  rcases Incremental.Scanner.scan_cases (frameScanner crypto) opener (buf ++ chunk) with
    ⟨frames, opener', rest, scanned, reads, -⟩ | ⟨frames, _, _, _, e, opener', _, _, scanned⟩
  · obtain ⟨n, bounded, -, rfl⟩ := reads.suffix
    rw [scanned]
    simp only [List.nil_append, List.length_drop, Nat.sub_sub_self bounded]
  · rw [scanned]

theorem push_error_ehbp {decoder decoder' : FrameDecoder} {chunk : Bytes} {e : Error}
    (refused : decoder.push crypto chunk = (.error e, decoder')) : ∃ message, e = .ehbp message := by
  obtain ⟨opener, buf, failed⟩ := decoder
  cases failed with
  | true =>
    rw [push_failed crypto _ chunk rfl] at refused
    cases refused
    exact ⟨_, rfl⟩
  | false =>
    rw [push_live] at refused
    rcases Incremental.Scanner.scan_cases (frameScanner crypto) opener (buf ++ chunk) with
      ⟨_, _, _, scanned, -⟩ | ⟨_, opener₁, rest, _, _, _, _, rejects, scanned⟩
    all_goals
      rw [scanned] at refused
      cases refused
    rcases frameTurn_cases crypto opener₁ rest with ⟨same, _⟩ | ⟨_, _, same⟩ | ⟨_, _, same⟩ |
      ⟨_, _, _, _, ⟨_, _, same⟩ | ⟨_, opened, same⟩⟩
    all_goals
      rw [frameScanner_next, same] at rejects
      cases rejects
    · exact ⟨_, rfl⟩
    · exact (FrameOpener.openFrame_error opened).2

/-- Pushing chunk after chunk is feeding the scanner, up to the first refusal. -/
theorem pushAll_live (opener : FrameOpener) (buf : Bytes) (chunks : List Bytes) :
    match (frameScanner crypto).feedAll opener buf chunks with
    | (outs, .more opener' rest) =>
      pushAll crypto { opener, buf, failed := false } chunks =
        (outs.map fun frames => .ok (plaintext frames), { opener := opener', buf := rest, failed := false })
    | (outs, .rejected _ e opener') =>
      ∃ after buf', pushAll crypto { opener, buf, failed := false } chunks =
        ((outs.map fun frames => .ok (plaintext frames)) ++ .error e :: after,
          { opener := opener', buf := buf', failed := true }) := by
  induction chunks generalizing opener buf with
  | nil => rfl
  | cons chunk chunks ih =>
    rw [Incremental.Scanner.feedAll, pushAll, push_live]
    obtain ⟨frames, ending⟩ := (frameScanner crypto).scan opener (buf ++ chunk)
    cases ending with
    | more opener₁ rest₁ =>
      simp only
      have tail := ih opener₁ rest₁
      rcases fed : (frameScanner crypto).feedAll opener₁ rest₁ chunks with ⟨outs, ending⟩
      rw [fed] at tail
      cases ending with
      | more opener₂ rest₂ =>
        simp only at tail ⊢
        simp [tail]
      | rejected n e opener₂ =>
        simp only at tail ⊢
        obtain ⟨after, buf', pushed⟩ := tail
        exact ⟨after, buf', by simp [pushed]⟩
    | rejected n e opener₁ =>
      refine ⟨List.replicate chunks.length (.error poisoned), buf ++ chunk, ?_⟩
      simp [pushAll_failed]

end FrameDecoder

/-- Whatever the chunking, the incremental decoder agrees with decoding all the bytes at once:
it delivers the same plaintext and ends cleanly exactly when nothing is left over, and it
refuses the push that completes the offending length prefix or frame, after delivering
whole frames only. -/
theorem push_refines_reference (crypto : Crypto) (opener : FrameOpener) (chunks : List Bytes) :
    let pushed := (FrameDecoder.new opener).pushAll crypto chunks
    match reference crypto opener chunks.flatten with
    | .leftover plains rest =>
      ∃ outs : List Bytes, pushed.1 = outs.map .ok ∧ outs.flatten = plains.flatten ∧
        (pushed.2.finish = .ok () ↔ rest = [])
    | .failure plains e needed =>
      ∃ (outs : List Bytes) (after : List (Result Bytes)),
        pushed.1 = outs.map .ok ++ .error e :: after ∧
        (chunks.take outs.length).flatten.length < needed ∧
        needed ≤ (chunks.take (outs.length + 1)).flatten.length ∧
        ∃ k, outs.flatten = (plains.take k).flatten := by
  intro pushed
  have live := FrameDecoder.pushAll_live crypto opener [] chunks
  have waits := frameScanner_nil crypto opener
  rw [reference_eq_scan]
  rcases Incremental.Scanner.scan_cases (frameScanner crypto) opener chunks.flatten with
    ⟨frames, opener', rest, scanned, reads, -⟩ |
    ⟨frames, opener₁, rest, n, e, opener', reads, rejects, scanned⟩
  · have fed := Incremental.Scanner.feedAll_more waits scanned
    obtain ⟨outs, fed, together, -⟩ := fed
    rw [fed] at live
    rw [scanned]
    refine ⟨outs.map plaintext, ?_, ?_, ?_⟩
    · rw [List.map_map]
      exact congrArg Prod.fst live
    · rw [← plaintext_eq_emitted (plain_of_skipped reads), ← together, plaintext_flatten]
    · rw [show pushed = _ from live]
      exact FrameDecoder.finish_live opener' rest
  · have fed := Incremental.Scanner.feedAll_rejected waits scanned
    obtain ⟨outs, m, fed, initial, -, before, upto⟩ := fed
    rw [fed] at live
    obtain ⟨after, buf', live⟩ := live
    rw [scanned]
    refine ⟨outs.map plaintext, after, ?_, ?_, ?_, ?_⟩
    · rw [List.map_map]
      exact congrArg Prod.fst live
    · simpa using before
    · simpa using upto
    · obtain ⟨later, whole⟩ := initial
      have skipped := plain_of_skipped reads
      rw [← whole] at skipped ⊢
      refine ⟨(emitted outs.flatten).length, ?_⟩
      rw [emitted_append, List.take_left, ← plaintext_flatten,
        plaintext_eq_emitted fun frame member => skipped frame (List.mem_append_left _ member)]

end PpqTee.Ehbp
