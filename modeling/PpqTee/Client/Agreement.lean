import PpqTee.Client.Reading
import PpqTee.Lib.Unfolding

/-! The buffered and the streaming reader agree: the stream is the unfolding of the same pushes
that the buffered reader makes in a loop. -/

namespace PpqTee.Client
open Ehbp Unfolding

/-- The decoder and the rest of the transport, until the stream has ended. -/
abbrev StreamState := Option (FrameDecoder × List (Except ReqwestError Bytes))

/-- The closure that `open_stream` unfolds. -/
def streamTurn (crypto : Crypto) : StreamState → Option (Result Bytes × StreamState)
  | none => none
  | some (decoder, .ok chunk :: inner) =>
    match decoder.push crypto chunk with
    | (.ok plain, decoder) => some (.ok plain, some (decoder, inner))
    | (.error e, _) => some (.error e, none)
  | some (_, .error e :: _) => some (.error (.http e), none)
  | some (decoder, []) =>
    match decoder.finish with
    | .ok () => none
    | .error e => some (.error e, none)

variable {crypto : Crypto}

theorem streamItems_yields (decoder : FrameDecoder) (body : List (Except ReqwestError Bytes)) :
    Yields (streamTurn crypto) (some (decoder, body)) (streamItems crypto decoder body) := by
  have ended : Yields (streamTurn crypto) none [] := .stop rfl
  induction body generalizing decoder with
  | nil =>
    unfold streamItems
    cases finished : decoder.finish with
    | ok _ =>
      apply Yields.stop
      rw [streamTurn, finished]
    | error e =>
      apply Yields.next _ ended
      rw [streamTurn, finished]
  | cons chunk inner ih =>
    cases chunk with
    | error cause => exact .next rfl ended
    | ok chunk =>
      unfold streamItems
      rcases pushed : decoder.push crypto chunk with ⟨e | plain, decoder'⟩
      · apply Yields.next _ ended
        rw [streamTurn, pushed]
      · apply Yields.next _ (ih decoder')
        rw [streamTurn, pushed]

theorem streamTurn_failed {state state' : StreamState} {e : Error}
    (turns : streamTurn crypto state = some (.error e, state')) : state' = none := by
  unfold streamTurn at turns
  split at turns
  · cases turns
  · split at turns <;> cases turns
    rfl
  · cases turns
    rfl
  · split at turns <;> cases turns
    rfl

/-- The stream of a success, polled to its end, is the unfolding without its empty items. -/
theorem openStream_yields {decoder : FrameDecoder} {response : Response}
    {items : List (Result Bytes)} :
    openStream crypto decoder response = .ok items ↔ response.status.isSuccess = true ∧
      ∃ raw, Yields (streamTurn crypto) (some (decoder, response.body)) raw ∧
        items = raw.filter nonEmpty := by
  have yields : Yields (streamTurn crypto) _ _ := streamItems_yields decoder response.body
  cases success : response.status.isSuccess with
  | false =>
    rw [openStream_failure success]
    cases drained crypto decoder [] response.body <;> simp [bind, Except.bind]
  | true =>
    rw [openStream_success success]
    constructor
    · intro opened
      exact ⟨rfl, _, yields, (Except.ok.inj opened).symm⟩
    · intro streams
      obtain ⟨_, raw, again, same⟩ := streams
      rw [same, again.unique yields]

theorem flatten_filter_nonEmpty (plains : List Bytes) :
    (plains.filter fun plain => !plain.isEmpty).flatten = plains.flatten := by
  induction plains with
  | nil => rfl
  | cons plain plains ih =>
    cases plain with
    | nil => exact ih
    | cons byte plain => exact congrArg (byte :: plain ++ ·) ih

/-- On a success both readers are one drain: it fails with the last item, or ends with all. -/
theorem streamed_drained (crypto : Crypto) (decoder : FrameDecoder)
    (body : List (Except ReqwestError Bytes)) :
    match drained crypto decoder [] body with
    | .ok total =>
      ∃ plains : List Bytes,
        (streamItems crypto decoder body).filter nonEmpty = plains.map .ok ∧
        total = plains.flatten
    | .error e =>
      ∃ plains : List Bytes,
        (streamItems crypto decoder body).filter nonEmpty = plains.map .ok ++ [.error e] := by
  have items := streamItems_drained crypto decoder [] body
  cases result : drained crypto decoder [] body with
  | ok total =>
    rw [result] at items
    obtain ⟨plains, same, whole⟩ := items
    simp only
    exact ⟨_, by rw [same, filter_nonEmpty], by rw [whole, flatten_filter_nonEmpty]; rfl⟩
  | error e =>
    rw [result] at items
    obtain ⟨plains, same⟩ := items
    simp only
    exact ⟨_, by rw [same, List.filter_append, filter_nonEmpty]; rfl⟩

theorem openBody_success {response : Response} (success : response.status.isSuccess = true)
    (decoder : FrameDecoder) :
    openBody crypto decoder response = drained crypto decoder [] response.body := by
  rw [openBody_eq]
  cases drained crypto decoder [] response.body with
  | error e => rfl
  | ok total =>
    show (if response.status.isSuccess then _ else _) = _
    rw [if_pos success]

theorem openBody_ok_iff {decoder : FrameDecoder} {response : Response} {out : Bytes} :
    openBody crypto decoder response = .ok out ↔ ∃ plains : List Bytes,
      openStream crypto decoder response = .ok (plains.map .ok) ∧ out = plains.flatten := by
  cases success : response.status.isSuccess with
  | false =>
    rw [openStream_failure success, openBody_eq]
    cases drained crypto decoder [] response.body <;> simp [bind, Except.bind, success]
  | true =>
    rw [openStream_success success, openBody_success success]
    have streamed := streamed_drained crypto decoder response.body
    cases result : drained crypto decoder [] response.body with
    | ok total =>
      rw [result] at streamed
      obtain ⟨plains, items, whole⟩ := streamed
      rw [items]
      constructor
      · intro same
        exact ⟨plains, rfl, by rw [← Except.ok.inj same, whole]⟩
      · intro stream
        obtain ⟨plains', same, out⟩ := stream
        have plains_eq : plains = plains' :=
          List.map_injective_iff.mpr (fun _ _ => Except.ok.inj) (Except.ok.inj same)
        rw [whole, out, plains_eq]
    | error e =>
      rw [result] at streamed
      obtain ⟨plains, items⟩ := streamed
      rw [items]
      constructor
      · intro same
        cases same
      · intro stream
        obtain ⟨plains', same, _⟩ := stream
        have member : (.error e : Result Bytes) ∈ plains'.map .ok := by
          rw [← Except.ok.inj same]
          simp
        simp at member

theorem openBody_error_iff {decoder : FrameDecoder} {response : Response} {e : Error}
    (success : response.status.isSuccess = true) :
    openBody crypto decoder response = .error e ↔ ∃ items,
      openStream crypto decoder response = .ok items ∧ items.getLast? = some (.error e) := by
  rw [openStream_success success, openBody_success success]
  have streamed := streamed_drained crypto decoder response.body
  cases result : drained crypto decoder [] response.body with
  | ok total =>
    rw [result] at streamed
    obtain ⟨plains, items, _⟩ := streamed
    rw [items]
    simp
  | error e' =>
    rw [result] at streamed
    obtain ⟨plains, items⟩ := streamed
    rw [items]
    simp

theorem refusals_agree {decoder : FrameDecoder} {response : Response}
    (failure : response.status.isSuccess = false) : ∃ e,
      openBody crypto decoder response = .error e ∧
      openStream crypto decoder response = .error e := by
  rw [openStream_failure failure, openBody_eq]
  cases drained crypto decoder [] response.body with
  | error e => exact ⟨e, rfl, rfl⟩
  | ok out => exact ⟨enclaveError response.status out, by simp [bind, Except.bind, failure], rfl⟩

/-- The filter takes nothing from the terminal state: an error is the last item polled. -/
theorem stream_ends {decoder : FrameDecoder} {response : Response} {items before : List (Result Bytes)}
    {e : Error} {after : List (Result Bytes)}
    (opened : openStream crypto decoder response = .ok items)
    (whole : items = before ++ .error e :: after) : after = [] := by
  obtain ⟨_, raw, yields, same⟩ := openStream_yields.mp opened
  rw [whole] at same
  obtain ⟨front, back, split, _, kept⟩ := List.filter_eq_append_iff.mp same.symm
  obtain ⟨skipped, rest, cut, _, _, later⟩ := List.filter_eq_cons_iff.mp kept
  have split : raw = (front ++ skipped) ++ .error e :: rest := by
    rw [split, cut, List.append_assoc]
  have ends : ∀ state (item : Result Bytes) state', streamTurn crypto state = some (item, state') →
      (∃ e, item = .error e) → streamTurn crypto state' = none := by
    intro state item state' turns failed
    obtain ⟨e, same⟩ := failed
    subst same
    rw [streamTurn_failed turns]
    rfl
  rw [yields.last ends split ⟨e, rfl⟩] at later
  exact later.symm

theorem stream_error_last {decoder : FrameDecoder} {response : Response}
    {items : List (Result Bytes)} {i : Nat} {e : Error}
    (opened : openStream crypto decoder response = .ok items)
    (failed : items[i]? = some (.error e)) : items.length = i + 1 := by
  obtain ⟨within, same⟩ := List.getElem?_eq_some_iff.mp failed
  have whole : items = items.take i ++ .error e :: items.drop (i + 1) := by
    rw [← same, ← List.drop_eq_getElem_cons, List.take_append_drop]
  have none := stream_ends opened whole
  have later : items.length - (i + 1) = 0 := by
    rw [← List.length_drop, none, List.length_nil]
  omega

/-- On every response the two readers agree, and the stream is fused at its first error. -/
theorem readers_agree (crypto : Crypto) (decoder : FrameDecoder) (response : Response) :
    (∀ out, openBody crypto decoder response = .ok out ↔ ∃ plains : List Bytes,
      openStream crypto decoder response = .ok (plains.map .ok) ∧ out = plains.flatten) ∧
    (response.status.isSuccess = true → ∀ e, openBody crypto decoder response = .error e ↔
      ∃ items, openStream crypto decoder response = .ok items ∧
        items.getLast? = some (.error e)) ∧
    (response.status.isSuccess = false → ∃ e, openBody crypto decoder response = .error e ∧
      openStream crypto decoder response = .error e) ∧
    ∀ items : List (Result Bytes), openStream crypto decoder response = .ok items →
      (∀ before e after, items = before ++ .error e :: after → after = []) ∧
      (∀ (i j : Nat) e e', items[i]? = some (.error e) → items[j]? = some (.error e') → i = j) ∧
      (.ok [] : Result Bytes) ∉ items := by
  refine ⟨fun out => openBody_ok_iff, fun success e => openBody_error_iff success,
    refusals_agree, ?_⟩
  intro items opened
  refine ⟨fun before e after => stream_ends opened, ?_, ?_⟩
  · intro i j e e' first second
    have at_i := stream_error_last opened first
    have at_j := stream_error_last opened second
    omega
  · intro empty
    obtain ⟨_, raw, _, same⟩ := openStream_yields.mp opened
    rw [same] at empty
    cases (List.mem_filter.mp empty).2

end PpqTee.Client
