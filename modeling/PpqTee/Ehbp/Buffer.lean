import PpqTee.Ehbp.Wire

/-! What the decoder keeps between pushes, and that no push can panic: every subtraction, sum
and slice of its loop is in bounds, whatever lengths the wire declares. -/

namespace PpqTee.Ehbp

/-- The start of one frame, and never all of it. -/
def Partial (buf : Bytes) : Prop :=
  buf = [] ∨ (0 < buf.length ∧ buf.length < 4) ∨
    (4 ≤ buf.length ∧ lenPrefix buf ≤ MAX_FRAME_LEN ∧ buf.length < 4 + lenPrefix buf)

theorem Partial.length_lt {buf : Bytes} (start : Partial buf) :
    buf.length < 4 + MAX_FRAME_LEN := by
  rcases start with empty | ⟨_, short⟩ | ⟨_, fits, partly⟩
  · rw [empty]
    decide
  · omega
  · omega

theorem partial_of_wait {crypto : Crypto} {opener : FrameOpener} {rest : Bytes}
    (waits : (frameScanner crypto).next opener rest = .wait) : Partial rest := by
  rw [frameScanner_next] at waits
  rcases frameTurn_cases crypto opener rest with ⟨_, unfinished⟩ | ⟨_, _, same⟩ | ⟨_, _, same⟩ |
    ⟨_, _, _, _, ⟨_, _, same⟩ | ⟨_, _, same⟩⟩
  · unfold Partial
    by_cases empty : rest = []
    · exact .inl empty
    have positive := List.length_pos_iff.mpr empty
    by_cases short : rest.length < 4
    · exact .inr (.inl ⟨positive, short⟩)
    · rcases unfinished with absurdly | bounds
      · exact absurd absurdly short
      · exact .inr (.inr ⟨by omega, bounds⟩)
  all_goals
    rw [waits] at same
    cases same

/-! `usize` arithmetic and slicing as Rust runs them; `none` is a panic. -/

def usizeSub (a b : Nat) : Option Nat := if b ≤ a then some (a - b) else none

def usizeAdd (usizeMax a b : Nat) : Option Nat := if a + b ≤ usizeMax then some (a + b) else none

def sliceOrPanic (buf : Bytes) (start stop : Nat) : Option Bytes :=
  if start ≤ stop ∧ stop ≤ buf.length then some (slice buf start stop) else none

namespace FrameDecoder

variable (crypto : Crypto) (usizeMax : Nat)

/-- The loop of `push` with its run-time checks, for at most `frames` frames. -/
def checkedLoop (buf : Bytes) : (frames : Nat) → (pos : Nat) → (out : Bytes) → FrameOpener →
    Option (Except (Error × FrameOpener) (Nat × Bytes × FrameOpener))
  | frames, pos, out, opener => do
    let remaining ← usizeSub buf.length pos
    if remaining < 4 then some (.ok (pos, out, opener))
    else
      let lenStop ← usizeAdd usizeMax pos 4
      let lenBytes ← sliceOrPanic buf pos lenStop
      let len := BigEndian.ofBytes lenBytes
      if len > MAX_FRAME_LEN then some (.error (oversized len, opener))
      else
        let needed ← usizeAdd usizeMax 4 len
        if remaining < needed then some (.ok (pos, out, opener))
        else
          let frameStart ← usizeAdd usizeMax pos 4
          let frameEnd ← usizeAdd usizeMax frameStart len
          match frames with
          | 0 => none
          | frames + 1 =>
            if len > 0 then
              let body ← sliceOrPanic buf frameStart frameEnd
              match opener.openFrame crypto body with
              | (.ok plain, opener) => checkedLoop buf frames frameEnd (out ++ plain) opener
              | (.error e, opener) => some (.error (e, opener))
            else checkedLoop buf frames frameEnd out opener

/-- `push` with its run-time checks; no more frames than one for every four bytes. -/
def checkedPush (decoder : FrameDecoder) (chunk : Bytes) : Option (Result Bytes × FrameDecoder) :=
  if decoder.failed then some (.error poisoned, decoder)
  else do
    let buf := decoder.buf ++ chunk
    match ← checkedLoop crypto usizeMax buf (buf.length / 4) 0 [] decoder.opener with
    | .ok (pos, out, opener) =>
      if pos ≤ buf.length then some (.ok out, { opener, buf := buf.drop pos, failed := false })
      else none
    | .error (e, opener) => some (.error e, { opener, buf, failed := true })

variable {crypto usizeMax}

theorem usizeSub_of_le {a b : Nat} (within : b ≤ a) : usizeSub a b = some (a - b) := if_pos within

theorem usizeAdd_of_le {a b : Nat} (fits : a + b ≤ usizeMax) :
    usizeAdd usizeMax a b = some (a + b) := if_pos fits

theorem sliceOrPanic_of_le {buf : Bytes} {start stop : Nat} (ordered : start ≤ stop)
    (within : stop ≤ buf.length) : sliceOrPanic buf start stop = some (slice buf start stop) :=
  if_pos ⟨ordered, within⟩

/-- From a cursor within the buffer the loop runs without a panic, and each frame it consumes
takes four bytes at least. -/
theorem checkedLoop_eq (wide : U32_MAX ≤ usizeMax) {buf : Bytes} (fits : buf.length ≤ usizeMax)
    (frames pos : Nat) (out : Bytes) (opener : FrameOpener) (within : pos ≤ buf.length)
    (enough : (buf.length - pos) / 4 ≤ frames) :
    checkedLoop crypto usizeMax buf frames pos out opener = some (loop crypto buf pos out opener) := by
  have capped : 4 + MAX_FRAME_LEN ≤ U32_MAX := by decide
  induction frames generalizing pos out opener with
  | zero =>
    have short : buf.length - pos < 4 := by omega
    rw [checkedLoop, loop, usizeSub_of_le within]
    simp only [Option.bind_eq_bind, Option.bind_some, if_pos short]
  | succ frames ih =>
    rw [checkedLoop, loop, usizeSub_of_le within]
    simp only [Option.bind_eq_bind, Option.bind_some]
    by_cases short : buf.length - pos < 4
    · rw [if_pos short, if_pos short]
    rw [if_neg short, if_neg short, usizeAdd_of_le (by omega)]
    simp only [Option.bind_some]
    rw [sliceOrPanic_of_le (Nat.le_add_right pos 4) (by omega)]
    simp only [Option.bind_some]
    generalize BigEndian.ofBytes (slice buf pos (pos + 4)) = len
    by_cases exceeds : len > MAX_FRAME_LEN
    · rw [if_pos exceeds, if_pos exceeds]
    rw [if_neg exceeds, if_neg exceeds, usizeAdd_of_le (by omega)]
    simp only [Option.bind_some]
    by_cases partly : buf.length - pos < 4 + len
    · rw [if_pos partly, if_pos partly]
    rw [if_neg partly, if_neg partly, usizeAdd_of_le (by omega)]
    simp only [Option.bind_some]
    have later : ∀ out opener, checkedLoop crypto usizeMax buf frames (pos + 4 + len) out opener =
        some (loop crypto buf (pos + 4 + len) out opener) := by
      intro out opener
      exact ih _ _ _ (by omega) (by omega)
    by_cases nonempty : len > 0
    · rw [if_pos nonempty, if_pos nonempty, sliceOrPanic_of_le (by omega) (by omega)]
      simp only [Option.bind_some]
      rcases opener.openFrame crypto (slice buf (pos + 4) (pos + 4 + len)) with ⟨plain | e, opener'⟩
      · rfl
      · exact later _ _
    · rw [if_neg nonempty, if_neg nonempty]
      exact later _ _

theorem loop_within {buf out out' : Bytes} {pos pos' : Nat} {opener opener' : FrameOpener}
    (within : pos ≤ buf.length)
    (looped : loop crypto buf pos out opener = .ok (pos', out', opener')) : pos' ≤ buf.length := by
  rw [loop_eq_scan crypto buf pos out opener within] at looped
  split at looped <;> cases looped
  exact Nat.sub_le _ _

theorem checkedPush_eq (wide : U32_MAX ≤ usizeMax) (decoder : FrameDecoder) (chunk : Bytes)
    (fits : (decoder.buf ++ chunk).length ≤ usizeMax) :
    decoder.checkedPush crypto usizeMax chunk = some (decoder.push crypto chunk) := by
  unfold checkedPush push
  by_cases failed : decoder.failed = true
  · rw [if_pos failed, if_pos failed]
  have checked : checkedLoop crypto usizeMax _ _ 0 [] decoder.opener = _ :=
    checkedLoop_eq wide fits ((decoder.buf ++ chunk).length / 4) 0 [] decoder.opener (Nat.zero_le _)
      (Nat.le_refl _)
  rw [if_neg failed, if_neg failed]
  simp only [checked, Option.bind_eq_bind, Option.bind_some]
  cases looped : loop crypto (decoder.buf ++ chunk) 0 [] decoder.opener with
  | error refused => rfl
  | ok result =>
    obtain ⟨pos, out, opener⟩ := result
    exact if_pos (loop_within (Nat.zero_le _) looped)

theorem push_keeps {decoder decoder' : FrameDecoder} {chunk out : Bytes}
    (pushed : decoder.push crypto chunk = (.ok out, decoder')) : Partial decoder'.buf := by
  obtain ⟨opener, buf, failed⟩ := decoder
  cases failed with
  | true =>
    rw [push_failed crypto _ chunk rfl] at pushed
    cases pushed
  | false =>
    rw [push_live] at pushed
    rcases Incremental.Scanner.scan_cases (frameScanner crypto) opener (buf ++ chunk) with
      ⟨_, _, _, scanned, _, waits⟩ | ⟨_, _, _, _, _, _, _, _, scanned⟩
    · rw [scanned] at pushed
      cases pushed
      exact partial_of_wait waits
    · rw [scanned] at pushed
      cases pushed

theorem pushAll_cons (decoder : FrameDecoder) (chunk : Bytes) (chunks : List Bytes) :
    decoder.pushAll crypto (chunk :: chunks) =
      ((decoder.push crypto chunk).1 :: ((decoder.push crypto chunk).2.pushAll crypto chunks).1,
        ((decoder.push crypto chunk).2.pushAll crypto chunks).2) := rfl

theorem pushAll_append (decoder : FrameDecoder) (first later : List Bytes) :
    decoder.pushAll crypto (first ++ later) =
      ((decoder.pushAll crypto first).1 ++ ((decoder.pushAll crypto first).2.pushAll crypto later).1,
        ((decoder.pushAll crypto first).2.pushAll crypto later).2) := by
  induction first generalizing decoder with
  | nil => rfl
  | cons chunk first ih =>
    rw [List.cons_append, pushAll_cons, pushAll_cons, ih, List.cons_append]

theorem length_pushAll (decoder : FrameDecoder) (chunks : List Bytes) :
    (decoder.pushAll crypto chunks).1.length = chunks.length := by
  induction chunks generalizing decoder with
  | nil => rfl
  | cons chunk chunks ih =>
    rw [pushAll_cons, List.length_cons, List.length_cons, ih]

/-- Behind frames that open, a length prefix that is too large is refused by the push that brings
its fourth byte, and by no push before it. -/
theorem push_oversized {opener opener' : FrameOpener} {chunks cts : List Bytes}
    {chunk w plain : Bytes} (whole : (chunks ++ [chunk]).flatten = wire cts ++ w)
    (opens : openAll crypto opener cts = some (plain, opener')) (fourth : 4 ≤ w.length)
    (exceeds : MAX_FRAME_LEN < lenPrefix w)
    (missing : chunks.flatten.length < (wire cts).length + 4) :
    (∀ result ∈ ((new opener).pushAll crypto chunks).1, ∃ out, result = .ok out) ∧
      (((new opener).pushAll crypto chunks).2.push crypto chunk).1 = .error (oversized (lenPrefix w)) := by
  obtain ⟨frames, reads, -⟩ := reads_openAll opens w
  have rejects : frameTurn crypto opener' w = _ := frameTurn_oversized fourth exceeds
  have scanned := Incremental.Scanner.scan_of_reads reads
  rw [Incremental.Scanner.scan_reject (S := frameScanner crypto) rejects, ← whole] at scanned
  obtain ⟨outs, n, fed, -, counted, before, upto⟩ :=
    Incremental.Scanner.feedAll_rejected (frameScanner_nil crypto opener) scanned
  rw [whole] at before upto
  simp only [List.nil_append, List.length_append, Nat.add_sub_cancel] at before upto
  -- the push that is refused is the last one: all before it together miss the fourth byte
  have last : outs.length = chunks.length := by
    by_contra other
    rw [List.length_append, List.length_singleton] at counted
    rw [List.take_append_of_le_length (by omega)] at upto
    have parts := congrArg List.flatten (List.take_append_drop (outs.length + 1) chunks)
    have sizes := congrArg List.length parts
    rw [List.flatten_append, List.length_append] at sizes
    omega
  have live := pushAll_live crypto opener [] (chunks ++ [chunk])
  rw [fed] at live
  obtain ⟨after, buf', live⟩ := live
  have results := congrArg Prod.fst live
  rw [show FrameDecoder.mk opener [] false = new opener from rfl, pushAll_append] at results
  obtain ⟨accepted, refused⟩ := List.append_inj results
    (by rw [length_pushAll, List.length_map, last])
  refine ⟨?_, (List.cons.inj refused).1⟩
  rw [accepted]
  intro result member
  obtain ⟨frames, _, same⟩ := List.mem_map.mp member
  exact ⟨_, same.symm⟩

/-- After every push that is accepted a fresh decoder holds the start of one frame, of at most the
maximal length; a prefix above it is refused with its fourth byte; no push panics or takes more
frames off than a quarter of its bytes; and a decoder that has refused a push is left as it is. -/
theorem buffer_bounded (crypto : Crypto) (opener : FrameOpener) (chunks : List Bytes)
    (chunk : Bytes) :
    (∀ out decoder, ((new opener).pushAll crypto chunks).2.push crypto chunk = (.ok out, decoder) →
      Partial decoder.buf ∧ decoder.buf.length < 4 + MAX_FRAME_LEN) ∧
    (∀ cts w plain opener', (chunks ++ [chunk]).flatten = wire cts ++ w →
      openAll crypto opener cts = some (plain, opener') → 4 ≤ w.length →
      MAX_FRAME_LEN < lenPrefix w → chunks.flatten.length < (wire cts).length + 4 →
      (∀ result ∈ ((new opener).pushAll crypto chunks).1, ∃ out, result = .ok out) ∧
        (((new opener).pushAll crypto chunks).2.push crypto chunk).1 =
          .error (oversized (lenPrefix w))) ∧
    (∀ usizeMax, U32_MAX ≤ usizeMax →
      (((new opener).pushAll crypto chunks).2.buf ++ chunk).length ≤ usizeMax →
      ((new opener).pushAll crypto chunks).2.checkedPush crypto usizeMax chunk =
        some (((new opener).pushAll crypto chunks).2.push crypto chunk)) ∧
    ∀ e decoder, ((new opener).pushAll crypto chunks).2.push crypto chunk = (.error e, decoder) →
      ∀ later, (decoder.pushAll crypto later).2.buf = decoder.buf := by
  refine ⟨?_, ?_, ?_, ?_⟩
  · intro out decoder pushed
    exact ⟨push_keeps pushed, (push_keeps pushed).length_lt⟩
  · intro cts w plain opener' whole opens fourth exceeds missing
    exact push_oversized whole opens fourth exceeds missing
  · intro usizeMax wide fits
    exact checkedPush_eq wide _ chunk fits
  · intro e decoder refused later
    rw [pushAll_failed crypto decoder later (push_error crypto refused)]

end FrameDecoder

end PpqTee.Ehbp
