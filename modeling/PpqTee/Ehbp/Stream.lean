import PpqTee.Ehbp.Open
import PpqTee.Lib.Incremental

/-! Reassembling EHBP frames from a byte stream that may split them anywhere. -/

namespace PpqTee.Ehbp

def MAX_FRAME_LEN : Nat := 16 * 1024 * 1024

def slice (buf : Bytes) (start stop : Nat) : Bytes := (buf.drop start).take (stop - start)

structure FrameDecoder where
  opener : FrameOpener
  buf : Bytes
  failed : Bool
  deriving DecidableEq, Repr

def poisoned : Error := .ehbp "frame decoder is poisoned by an earlier failure"

def oversized (len : Nat) : Error :=
  .ehbp s!"frame length {len} exceeds maximum of {MAX_FRAME_LEN} bytes"

namespace FrameDecoder

variable (crypto : Crypto)

def new (opener : FrameOpener) : FrameDecoder := { opener, buf := [], failed := false }

/-- The loop of `push`: the cursor, the plaintext so far and the opener go round. An error
carries the opener as the failing call left it. -/
def loop (buf : Bytes) (pos : Nat) (out : Bytes) (opener : FrameOpener) :
    Except (Error × FrameOpener) (Nat × Bytes × FrameOpener) :=
  let remaining := buf.length - pos
  if remaining < 4 then .ok (pos, out, opener)
  else
    let len := BigEndian.ofBytes (slice buf pos (pos + 4))
    if len > MAX_FRAME_LEN then .error (oversized len, opener)
    else if remaining < 4 + len then .ok (pos, out, opener)
    else
      let frameStart := pos + 4
      let frameEnd := frameStart + len
      -- a zero-length frame is skipped without touching the AEAD sequence
      if len > 0 then
        match opener.openFrame crypto (slice buf frameStart frameEnd) with
        | (.ok plain, opener) => loop buf frameEnd (out ++ plain) opener
        | (.error e, opener) => .error (e, opener)
      else loop buf frameEnd out opener
termination_by buf.length - pos
decreasing_by all_goals omega

/-- Feed transport bytes. The cursor is drained only when the whole loop succeeded. -/
def push (decoder : FrameDecoder) (chunk : Bytes) : Result Bytes × FrameDecoder :=
  if decoder.failed then (.error poisoned, decoder)
  else
    let buf := decoder.buf ++ chunk
    match loop crypto buf 0 [] decoder.opener with
    | .ok (pos, out, opener) => (.ok out, { opener, buf := buf.drop pos, failed := false })
    | .error (e, opener) => (.error e, { opener, buf, failed := true })

/-- Assert that the stream ended on a frame boundary. -/
def finish (decoder : FrameDecoder) : Result Unit :=
  if decoder.failed then .error poisoned
  else if decoder.buf.isEmpty then .ok ()
  else .error (.ehbp s!"stream ended mid-frame with {decoder.buf.length} bytes buffered")

/-- A caller that pushes chunk after chunk, ignoring errors. -/
def pushAll (decoder : FrameDecoder) : List Bytes → List (Result Bytes) × FrameDecoder
  | [] => ([], decoder)
  | chunk :: chunks =>
    let (result, decoder) := decoder.push crypto chunk
    let later := pushAll decoder chunks
    (result :: later.1, later.2)

end FrameDecoder

/-! The decoder as an instance of incremental scanning. -/

/-- A frame taken off the wire: its ciphertext and the plaintext it opened to. A skipped
frame has neither. -/
structure Opened where
  ciphertext : Bytes
  plain : Bytes
  deriving DecidableEq, Repr

def lenPrefix (w : Bytes) : Nat := BigEndian.ofBytes (w.take 4)

/-- The decision of one turn of the loop, on the bytes from the cursor on. -/
def frameTurn (crypto : Crypto) (opener : FrameOpener) (w : Bytes) :
    Incremental.Turn FrameOpener Opened Error :=
  if w.length < 4 then .wait
  else if lenPrefix w > MAX_FRAME_LEN then .reject 4 (oversized (lenPrefix w)) opener
  else if w.length < 4 + lenPrefix w then .wait
  else if lenPrefix w > 0 then
    let body := (w.drop 4).take (lenPrefix w)
    match opener.openFrame crypto body with
    | (.ok plain, opener) => .token (4 + lenPrefix w) ⟨body, plain⟩ opener
    | (.error e, opener) => .reject (4 + lenPrefix w) e opener
  else .token 4 ⟨[], []⟩ opener

section Turns

variable {crypto : Crypto} {opener : FrameOpener} {w : Bytes}

theorem frameTurn_short (short : w.length < 4) : frameTurn crypto opener w = .wait := by
  rw [frameTurn, if_pos short]

theorem frameTurn_oversized (long : 4 ≤ w.length) (exceeds : MAX_FRAME_LEN < lenPrefix w) :
    frameTurn crypto opener w = .reject 4 (oversized (lenPrefix w)) opener := by
  rw [frameTurn, if_neg (by omega), if_pos exceeds]

theorem frameTurn_incomplete (fits : lenPrefix w ≤ MAX_FRAME_LEN)
    (partly : w.length < 4 + lenPrefix w) : frameTurn crypto opener w = .wait := by
  by_cases short : w.length < 4
  · exact frameTurn_short short
  · rw [frameTurn, if_neg short, if_neg (by omega), if_pos partly]

theorem frameTurn_empty (long : 4 ≤ w.length) (empty : lenPrefix w = 0) :
    frameTurn crypto opener w = .token 4 ⟨[], []⟩ opener := by
  rw [frameTurn, if_neg (by omega), if_neg (by rw [empty]; omega), if_neg (by omega),
    if_neg (by omega)]

theorem frameTurn_frame (fits : lenPrefix w ≤ MAX_FRAME_LEN) (whole : 4 + lenPrefix w ≤ w.length)
    (nonempty : 0 < lenPrefix w) :
    frameTurn crypto opener w =
      match opener.openFrame crypto ((w.drop 4).take (lenPrefix w)) with
      | (.ok plain, opener') =>
        .token (4 + lenPrefix w) ⟨(w.drop 4).take (lenPrefix w), plain⟩ opener'
      | (.error e, opener') => .reject (4 + lenPrefix w) e opener' := by
  rw [frameTurn, if_neg (by omega), if_neg (by omega), if_neg (by omega), if_pos nonempty]

theorem frameTurn_cases (crypto : Crypto) (opener : FrameOpener) (w : Bytes) :
    (frameTurn crypto opener w = .wait ∧
      (w.length < 4 ∨ (lenPrefix w ≤ MAX_FRAME_LEN ∧ w.length < 4 + lenPrefix w))) ∨
    (4 ≤ w.length ∧ MAX_FRAME_LEN < lenPrefix w ∧
      frameTurn crypto opener w = .reject 4 (oversized (lenPrefix w)) opener) ∨
    (4 ≤ w.length ∧ lenPrefix w = 0 ∧ frameTurn crypto opener w = .token 4 ⟨[], []⟩ opener) ∨
    (0 < lenPrefix w ∧ lenPrefix w ≤ MAX_FRAME_LEN ∧ 4 + lenPrefix w ≤ w.length ∧
      ∃ opener', (∃ plain,
          opener.openFrame crypto ((w.drop 4).take (lenPrefix w)) = (.ok plain, opener') ∧
          frameTurn crypto opener w =
            .token (4 + lenPrefix w) ⟨(w.drop 4).take (lenPrefix w), plain⟩ opener') ∨
        (∃ e, opener.openFrame crypto ((w.drop 4).take (lenPrefix w)) = (.error e, opener') ∧
          frameTurn crypto opener w = .reject (4 + lenPrefix w) e opener')) := by
  by_cases short : w.length < 4
  · exact .inl ⟨frameTurn_short short, .inl short⟩
  by_cases exceeds : MAX_FRAME_LEN < lenPrefix w
  · exact .inr (.inl ⟨by omega, exceeds, frameTurn_oversized (by omega) exceeds⟩)
  by_cases partly : w.length < 4 + lenPrefix w
  · exact .inl ⟨frameTurn_incomplete (by omega) partly, .inr ⟨by omega, partly⟩⟩
  by_cases empty : lenPrefix w = 0
  · exact .inr (.inr (.inl ⟨by omega, empty, frameTurn_empty (by omega) empty⟩))
  refine .inr (.inr (.inr ⟨by omega, by omega, by omega, ?_⟩))
  have turn : frameTurn crypto opener w = _ :=
    frameTurn_frame (by omega) (by omega) (by omega)
  rcases opened : opener.openFrame crypto ((w.drop 4).take (lenPrefix w)) with ⟨result, opener'⟩
  rw [opened] at turn
  cases result with
  | ok plain => exact ⟨opener', .inl ⟨plain, rfl, turn⟩⟩
  | error e => exact ⟨opener', .inr ⟨e, rfl, turn⟩⟩

theorem lenPrefix_congr {w' : Bytes} {n : Nat} (four : 4 ≤ n) (agree : w'.take n = w.take n) :
    lenPrefix w' = lenPrefix w := by
  have prefixes := congrArg (List.take 4) agree
  rw [List.take_take, List.take_take, Nat.min_eq_left four] at prefixes
  rw [lenPrefix, lenPrefix, prefixes]

/-- A turn that decides rests on the length prefix alone, or on the prefix and the body. -/
theorem frameTurn_size {n : Nat} (decides : (frameTurn crypto opener w).size = some n) :
    4 ≤ n ∧ n ≤ w.length ∧
      (n = 4 + lenPrefix w ∨ (n = 4 ∧ MAX_FRAME_LEN < lenPrefix w)) := by
  rcases frameTurn_cases crypto opener w with ⟨turn, _⟩ | ⟨long, exceeds, turn⟩ |
    ⟨long, empty, turn⟩ | ⟨nonempty, fits, whole, opener', ⟨plain, _, turn⟩ | ⟨e, _, turn⟩⟩
  all_goals
    rw [turn] at decides
    simp only [Incremental.Turn.size, Option.some.injEq, reduceCtorEq] at decides
    try subst decides
  · exact ⟨by omega, long, .inr ⟨rfl, exceeds⟩⟩
  · exact ⟨by omega, long, .inl (by omega)⟩
  · exact ⟨by omega, whole, .inl rfl⟩
  · exact ⟨by omega, whole, .inl rfl⟩

/-- Two inputs that agree on the bytes a turn rests on get the same decision. -/
theorem frameTurn_decided {w' : Bytes} {n : Nat}
    (decides : (frameTurn crypto opener w).size = some n) (agree : w'.take n = w.take n) :
    frameTurn crypto opener w' = frameTurn crypto opener w := by
  obtain ⟨four, covered, resting⟩ := frameTurn_size decides
  have lengths : n ≤ w'.length := by
    have same := congrArg List.length agree
    simp only [List.length_take] at same
    omega
  have lens := lenPrefix_congr four agree
  rcases resting with rfl | ⟨rfl, exceeds⟩
  · have bodies : (w'.drop 4).take (lenPrefix w) = (w.drop 4).take (lenPrefix w) := by
      have same := congrArg (List.drop 4) agree
      rwa [List.drop_take, List.drop_take, Nat.add_sub_cancel_left] at same
    simp only [frameTurn, lens, bodies, show ¬ w'.length < 4 by omega, show ¬ w.length < 4 by omega,
      show ¬ w'.length < 4 + lenPrefix w by omega, show ¬ w.length < 4 + lenPrefix w by omega]
  · rw [frameTurn_oversized (by omega) exceeds, frameTurn_oversized (by omega) (by rwa [lens]), lens]

end Turns

/-- The decoder's loop as a scanner of frames. -/
def frameScanner (crypto : Crypto) : Incremental.Scanner FrameOpener UInt8 Opened Error where
  next := frameTurn crypto
  positive decides := Nat.lt_of_lt_of_le (by decide) (frameTurn_size decides).1
  enough decides := (frameTurn_size decides).2.1
  decided decides agree := frameTurn_decided decides agree

theorem frameScanner_next (crypto : Crypto) : (frameScanner crypto).next = frameTurn crypto := rfl

theorem frameScanner_nil (crypto : Crypto) (opener : FrameOpener) :
    (frameScanner crypto).next opener [] = .wait := by
  rw [frameScanner_next]
  exact frameTurn_short (by decide)

def plaintext (frames : List Opened) : Bytes := frames.flatMap Opened.plain

namespace FrameDecoder

variable (crypto : Crypto)

private theorem slice_len (buf : Bytes) (pos : Nat) :
    BigEndian.ofBytes (slice buf pos (pos + 4)) = lenPrefix (buf.drop pos) := by
  rw [slice, lenPrefix, Nat.add_sub_cancel_left]

private theorem slice_body (buf : Bytes) (pos len : Nat) :
    slice buf (pos + 4) (pos + 4 + len) = ((buf.drop pos).drop 4).take len := by
  rw [slice, List.drop_drop, Nat.add_sub_cancel_left]

theorem loop_turn (buf : Bytes) (pos : Nat) (out : Bytes) (opener : FrameOpener) :
    loop crypto buf pos out opener =
      match frameTurn crypto opener (buf.drop pos) with
      | .wait => .ok (pos, out, opener)
      | .reject _ e opener' => .error (e, opener')
      | .token size frame opener' => loop crypto buf (pos + size) (out ++ frame.plain) opener' := by
  rw [loop]
  simp only [slice_len, slice_body]
  rcases frameTurn_cases crypto opener (buf.drop pos) with ⟨turn, unfinished⟩ | ⟨long, exceeds, turn⟩ |
    ⟨long, empty, turn⟩ | ⟨nonempty, fits, whole, opener', ⟨plain, opened, turn⟩ | ⟨e, opened, turn⟩⟩
  all_goals simp only [turn, List.length_drop] at *
  · rcases unfinished with short | ⟨fits, partly⟩
    · rw [if_pos short]
    · rw [if_neg (show ¬ lenPrefix (buf.drop pos) > MAX_FRAME_LEN by omega), if_pos partly, ite_self]
  · rw [if_neg (by omega), if_pos exceeds]
  · rw [if_neg (by omega), if_neg (by rw [empty]; omega), if_neg (by omega), if_neg (by omega),
      empty, Nat.add_zero, List.append_nil]
  · rw [if_neg (by omega), if_neg (by omega), if_neg (by omega), if_pos nonempty, opened,
      Nat.add_assoc]
  · rw [if_neg (by omega), if_neg (by omega), if_neg (by omega), if_pos nonempty, opened]

/-- From any cursor, the loop is the scan of what lies behind the cursor. -/
theorem loop_eq_scan (buf : Bytes) (pos : Nat) (out : Bytes) (opener : FrameOpener)
    (within : pos ≤ buf.length) :
    loop crypto buf pos out opener =
      match (frameScanner crypto).scan opener (buf.drop pos) with
      | (frames, .more opener' rest) =>
        .ok (buf.length - rest.length, out ++ plaintext frames, opener')
      | (_, .rejected _ e opener') => .error (e, opener') := by
  induction left : buf.length - pos using Nat.strongRecOn generalizing pos out opener with
  | ind left ih =>
    rw [loop_turn]
    cases turn : frameTurn crypto opener (buf.drop pos) with
    | wait =>
      rw [Incremental.Scanner.scan_wait turn]
      simp only [List.length_drop, plaintext, List.flatMap_nil, List.append_nil]
      rw [Nat.sub_sub_self within]
    | reject needed e opener' => rw [Incremental.Scanner.scan_reject turn]
    | token size frame opener' =>
      obtain ⟨four, covered, -⟩ := frameTurn_size (by rw [turn]; rfl)
      rw [List.length_drop] at covered
      have later := Incremental.Scanner.scan_token (S := frameScanner crypto) turn
      rw [List.drop_drop] at later
      simp only
      rw [later, ih (buf.length - (pos + size)) (by omega) (pos + size) _ _ (by omega) rfl]
      obtain ⟨frames, ending⟩ := (frameScanner crypto).scan opener' (buf.drop (pos + size))
      cases ending with
      | more => simp [Incremental.Ending.after, plaintext]
      | rejected => simp [Incremental.Ending.after]

end FrameDecoder

end PpqTee.Ehbp
