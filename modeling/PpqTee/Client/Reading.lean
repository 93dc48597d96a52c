import PpqTee.Client
import PpqTee.Ehbp.Delivery
import PpqTee.Ehbp.Wire

/-! What the two readers of a sealed response hand out, in terms of the frames that arrived. -/

namespace PpqTee.Client
open Ehbp

/-- The bytes that arrive before the transport ends or fails. -/
def arrived : List (Except ReqwestError Bytes) → Bytes
  | .ok chunk :: rest => chunk ++ arrived rest
  | _ => []

variable {crypto : Crypto}

/-- The transport ended without an error, and what it delivered was a sequence of whole frames
that all opened, together to `out`. -/
def Complete (crypto : Crypto) (opener : FrameOpener) (body : List (Except ReqwestError Bytes))
    (out : Bytes) : Prop :=
  ∃ bytes frames opener', readAll body = .ok bytes ∧
    (frameScanner crypto).scan opener bytes = (frames, .more opener' []) ∧ out = plaintext frames

/-- Draining a body and asserting the frame boundary, as both readers do. -/
def drained (crypto : Crypto) (decoder : FrameDecoder) (out : Bytes)
    (body : List (Except ReqwestError Bytes)) : Result Bytes := do
  let (out, decoder) ← drain crypto decoder out body
  decoder.finish
  .ok out

theorem openBody_eq (decoder : FrameDecoder) (response : Response) :
    openBody crypto decoder response = (drained crypto decoder [] response.body >>= fun out =>
      if response.status.isSuccess then .ok out
      else .error (enclaveError response.status out)) := by
  unfold openBody drained
  rcases drain crypto decoder [] response.body with e | ⟨out, decoder'⟩
  · rfl
  · simp only [bind, Except.bind]
    cases decoder'.finish <;> rfl

theorem openStream_success {response : Response} (success : response.status.isSuccess = true)
    (decoder : FrameDecoder) : openStream crypto decoder response =
      .ok ((streamItems crypto decoder response.body).filter nonEmpty) := by
  unfold openStream
  rw [if_neg (by rw [success]; decide)]

theorem openStream_failure {response : Response} (failure : response.status.isSuccess = false)
    (decoder : FrameDecoder) : openStream crypto decoder response =
      (drained crypto decoder [] response.body >>= fun out =>
        .error (enclaveError response.status out)) := by
  unfold openStream drained
  rw [if_pos (by rw [failure]; decide)]
  rcases drain crypto decoder [] response.body with e | ⟨out, decoder'⟩
  · rfl
  · simp only [bind, Except.bind]
    cases decoder'.finish <;> rfl

theorem drained_cons (decoder : FrameDecoder) (out chunk : Bytes)
    (rest : List (Except ReqwestError Bytes)) :
    drained crypto decoder out (.ok chunk :: rest) =
      match decoder.push crypto chunk with
      | (.ok plain, decoder) => drained crypto decoder (out ++ plain) rest
      | (.error e, _) => .error e := by
  unfold drained
  rw [drain]
  simp only [Except.mapError, bind, Except.bind]
  rcases decoder.push crypto chunk with ⟨e | plain, decoder'⟩ <;> rfl

theorem drained_nil (decoder : FrameDecoder) (out : Bytes) :
    drained crypto decoder out [] = (decoder.finish >>= fun _ => .ok out) := rfl

theorem scan_waiting {opener opener' : FrameOpener} {buf rest : Bytes} {frames : List Opened}
    (waits : (frameScanner crypto).next opener buf = .wait) :
    (frameScanner crypto).scan opener buf = (frames, .more opener' rest) ↔
      frames = [] ∧ opener' = opener ∧ rest = buf := by
  rw [Incremental.Scanner.scan_wait waits]
  simp [eq_comm]

/-- Behind the bytes buffered, the body delivers the rest of these frames and ends after them. -/
def Drains (crypto : Crypto) (opener : FrameOpener) (buf : Bytes)
    (body : List (Except ReqwestError Bytes)) (frames : List Opened) : Prop :=
  ∃ bytes opener', readAll body = .ok bytes ∧
    (frameScanner crypto).scan opener (buf ++ bytes) = (frames, .more opener' [])

theorem readAll_cons {chunk bytes : Bytes} {rest : List (Except ReqwestError Bytes)} :
    readAll (.ok chunk :: rest) = .ok bytes ↔
      ∃ later, readAll rest = .ok later ∧ bytes = chunk ++ later := by
  rw [readAll]
  cases readAll rest with
  | error e => simp [bind, Except.bind]
  | ok later => simp [bind, Except.bind, eq_comm]

section Drains

variable {opener opener₁ : FrameOpener} {buf chunk left : Bytes} {first frames : List Opened}
  {rest : List (Except ReqwestError Bytes)}

theorem drains_nil (waits : (frameScanner crypto).next opener buf = .wait) :
    Drains crypto opener buf [] frames ↔ frames = [] ∧ buf = [] := by
  constructor
  · intro drains
    obtain ⟨bytes, opener', delivered, scanned⟩ := drains
    cases delivered
    rw [List.append_nil, scan_waiting waits] at scanned
    exact ⟨scanned.1, scanned.2.2.symm⟩
  · intro ended
    obtain ⟨none, empty⟩ := ended
    subst none
    refine ⟨[], opener, rfl, ?_⟩
    rw [List.append_nil]
    exact (scan_waiting waits).mpr ⟨rfl, rfl, empty.symm⟩

theorem drains_error {e : ReqwestError} : ¬ Drains crypto opener buf (.error e :: rest) frames := by
  intro drains
  obtain ⟨_, _, delivered, _⟩ := drains
  cases delivered

/-- A chunk that completes frames hands on what is left of it. -/
theorem drains_cons
    (reads : (frameScanner crypto).Reads opener (buf ++ chunk) first opener₁ left) :
    Drains crypto opener buf (.ok chunk :: rest) frames ↔
      ∃ later, Drains crypto opener₁ left rest later ∧ frames = first ++ later := by
  constructor
  · intro drains
    obtain ⟨bytes, opener', delivered, whole⟩ := drains
    obtain ⟨later, delivered', cut⟩ := readAll_cons.mp delivered
    rw [cut, ← List.append_assoc,
      Incremental.Scanner.scan_more_of_reads (reads.append later)] at whole
    obtain ⟨frames', scanned, both⟩ := whole
    exact ⟨frames', ⟨later, opener', delivered', scanned⟩, both⟩
  · intro drains
    obtain ⟨frames', ⟨bytes, opener', delivered, scanned⟩, both⟩ := drains
    refine ⟨chunk ++ bytes, opener', readAll_cons.mpr ⟨bytes, delivered, rfl⟩, ?_⟩
    rw [← List.append_assoc, Incremental.Scanner.scan_more_of_reads (reads.append bytes)]
    exact ⟨frames', scanned, both⟩

theorem drains_rejected {needed : Nat} {e : Error} {opener₂ : FrameOpener}
    (reads : (frameScanner crypto).Reads opener (buf ++ chunk) first opener₁ left)
    (rejects : (frameScanner crypto).next opener₁ left = .reject needed e opener₂) :
    ¬ Drains crypto opener buf (.ok chunk :: rest) frames := by
  intro drains
  obtain ⟨bytes, opener', delivered, whole⟩ := drains
  obtain ⟨later, _, cut⟩ := readAll_cons.mp delivered
  rw [cut, ← List.append_assoc] at whole
  exact Incremental.Scanner.scan_of_rejected reads rejects later whole

end Drains

/-- A body is drained without an error exactly when it is complete. -/
theorem drained_ok {opener : FrameOpener} {buf out total : Bytes}
    {body : List (Except ReqwestError Bytes)}
    (waits : (frameScanner crypto).next opener buf = .wait) :
    drained crypto ⟨opener, buf, false⟩ out body = .ok total ↔
      ∃ frames, Drains crypto opener buf body frames ∧ total = out ++ plaintext frames := by
  induction body generalizing opener buf out with
  | nil =>
    rw [drained_nil, bind_ok]
    simp only [drains_nil waits]
    constructor
    · intro finishes
      obtain ⟨_, finished, same⟩ := finishes
      cases same
      exact ⟨[], ⟨rfl, (FrameDecoder.finish_live opener buf).mp finished⟩, by simp [plaintext]⟩
    · intro ended
      obtain ⟨frames, ⟨none, empty⟩, same⟩ := ended
      subst none
      exact ⟨(), (FrameDecoder.finish_live opener buf).mpr empty, by simp [same, plaintext]⟩
  | cons chunk rest ih =>
    cases chunk with
    | error e =>
      constructor
      · intro drained
        cases drained
      · intro drains
        obtain ⟨frames, drains, _⟩ := drains
        exact absurd drains drains_error
    | ok chunk =>
      rw [drained_cons, FrameDecoder.push_live]
      rcases Incremental.Scanner.scan_cases (frameScanner crypto) opener (buf ++ chunk) with
        ⟨first, opener₁, left, scanned, reads, waits₁⟩ |
        ⟨first, opener₁, left, needed, e, opener₂, reads, rejects, scanned⟩
      · rw [scanned]
        simp only
        rw [ih waits₁]
        simp only [drains_cons reads]
        constructor
        · intro drains
          obtain ⟨frames, drains, same⟩ := drains
          exact ⟨first ++ frames, ⟨frames, drains, rfl⟩,
            by rw [same, plaintext_append, List.append_assoc]⟩
        · intro drains
          obtain ⟨frames, ⟨later, drains, both⟩, same⟩ := drains
          exact ⟨later, drains, by rw [same, both, plaintext_append, List.append_assoc]⟩
      · rw [scanned]
        constructor
        · intro drained
          cases drained
        · intro drains
          obtain ⟨frames, drains, _⟩ := drains
          exact absurd drains (drains_rejected reads rejects)

theorem drained_new {opener : FrameOpener} {out : Bytes}
    {body : List (Except ReqwestError Bytes)} :
    drained crypto (FrameDecoder.new opener) [] body = .ok out ↔
      Complete crypto opener body out := by
  have live : FrameDecoder.new opener = ⟨opener, [], false⟩ := rfl
  rw [live, drained_ok (frameScanner_nil crypto opener)]
  constructor
  · intro drains
    obtain ⟨frames, ⟨bytes, opener', delivered, scanned⟩, same⟩ := drains
    exact ⟨bytes, frames, opener', delivered, scanned, same⟩
  · intro complete
    obtain ⟨bytes, frames, opener', delivered, scanned, same⟩ := complete
    exact ⟨frames, ⟨bytes, opener', delivered, scanned⟩, same⟩

theorem complete_of_reads {opener opener' : FrameOpener} {bytes : Bytes} {frames : List Opened}
    {body : List (Except ReqwestError Bytes)} (delivered : readAll body = .ok bytes)
    (reads : (frameScanner crypto).Reads opener bytes frames opener' []) :
    Complete crypto opener body (plaintext frames) := by
  have waits := Incremental.Scanner.scan_wait (frameScanner_nil crypto opener')
  have scanned : (frameScanner crypto).scan opener bytes = (frames ++ [], .more opener' []) :=
    (Incremental.Scanner.scan_more_of_reads reads).mpr ⟨[], waits, rfl⟩
  rw [List.append_nil] at scanned
  exact ⟨bytes, frames, opener', delivered, scanned, rfl⟩

theorem complete_openAll {opener opener' : FrameOpener} {cts : List Bytes} {plain : Bytes}
    (opens : openAll crypto opener cts = some (plain, opener')) :
    Complete crypto opener [.ok (wire cts)] plain := by
  obtain ⟨frames, reads, plaintexts⟩ := reads_openAll opens []
  rw [← plaintexts]
  exact complete_of_reads rfl reads

theorem drained_error {decoder : FrameDecoder} {out : Bytes}
    {body : List (Except ReqwestError Bytes)} {e : Error}
    (failed : drained crypto decoder out body = .error e) :
    (∃ cause, e = .http cause) ∨ ∃ message, e = .ehbp message := by
  induction body generalizing decoder out with
  | nil =>
    rw [drained_nil] at failed
    unfold FrameDecoder.finish at failed
    split at failed
    · cases failed
      exact .inr ⟨_, rfl⟩
    · split at failed <;> cases failed
      exact .inr ⟨_, rfl⟩
  | cons chunk rest ih =>
    cases chunk with
    | error cause =>
      cases failed
      exact .inl ⟨cause, rfl⟩
    | ok chunk =>
      rw [drained_cons] at failed
      rcases pushed : decoder.push crypto chunk with ⟨e' | plain, decoder'⟩
      all_goals rw [pushed] at failed
      · cases failed
        exact .inr (FrameDecoder.push_error_ehbp crypto pushed)
      · exact ih failed

theorem openBody_ok {opener : FrameOpener} {response : Response} {out : Bytes} :
    openBody crypto (FrameDecoder.new opener) response = .ok out ↔
      response.status.isSuccess = true ∧ Complete crypto opener response.body out := by
  rw [openBody_eq, bind_ok]
  constructor
  · intro opened
    obtain ⟨total, complete, same⟩ := opened
    cases success : response.status.isSuccess with
    | true =>
      rw [success] at same
      cases same
      exact ⟨rfl, drained_new.mp complete⟩
    | false =>
      rw [success] at same
      cases same
  · intro opened
    obtain ⟨success, complete⟩ := opened
    exact ⟨out, drained_new.mpr complete, by rw [success]; rfl⟩

theorem openBody_enclave {opener : FrameOpener} {response : Response} {code : Nat} {text : String} :
    openBody crypto (FrameDecoder.new opener) response = .error (.enclave code text) ↔
      response.status.isSuccess = false ∧ ∃ out, Complete crypto opener response.body out ∧
        .enclave code text = enclaveError response.status out := by
  rw [openBody_eq]
  cases result : drained crypto (FrameDecoder.new opener) [] response.body with
  | error e =>
    constructor
    · intro same
      cases same
      rcases drained_error result with ⟨_, same⟩ | ⟨_, same⟩ <;> cases same
    · intro refused
      obtain ⟨_, out, complete, _⟩ := refused
      rw [drained_new.mpr complete] at result
      cases result
  | ok out =>
    have complete := drained_new.mp result
    cases success : response.status.isSuccess with
    | true => simp [bind, Except.bind]
    | false =>
      simp only [bind, Except.bind, Bool.false_eq_true, if_false, Except.error.injEq, true_and]
      constructor
      · intro same
        exact ⟨out, complete, same.symm⟩
      · intro refused
        obtain ⟨out', complete', same⟩ := refused
        rw [drained_new.mpr complete'] at result
        cases result
        exact same.symm

theorem openStream_enclave {opener : FrameOpener} {response : Response} {code : Nat}
    {text : String} :
    openStream crypto (FrameDecoder.new opener) response = .error (.enclave code text) ↔
      openBody crypto (FrameDecoder.new opener) response = .error (.enclave code text) := by
  cases success : response.status.isSuccess with
  | true =>
    rw [openStream_success success, openBody_enclave, success]
    simp
  | false =>
    rw [openStream_failure success, openBody_eq]
    cases drained crypto (FrameDecoder.new opener) [] response.body with
    | error e => simp [bind, Except.bind]
    | ok out => simp [bind, Except.bind, success]

/-! Enclave errors and authentication. -/

theorem wire_replicate_nil (k : Nat) : wire (List.replicate k []) = List.replicate (4 * k) 0 := by
  induction k with
  | zero => rfl
  | succ k ih =>
    have empty : frame [] = List.replicate 4 0 := by decide
    rw [List.replicate_succ, wire_cons, ih, empty, List.replicate_append_replicate, Nat.mul_succ,
      Nat.add_comm]

theorem scan_replicate_nil (opener : FrameOpener) (k : Nat) :
    (frameScanner crypto).scan opener (wire (List.replicate k [])) =
      (List.replicate k ⟨[], []⟩, .more opener []) := by
  induction k with
  | zero => exact Incremental.Scanner.scan_wait (frameScanner_nil crypto opener)
  | succ k ih =>
    have turn : (frameScanner crypto).next opener (frame [] ++ wire (List.replicate k [])) =
        .token 4 ⟨[], []⟩ opener := by
      rw [frameScanner_next]
      exact frameTurn_skip crypto opener _
    rw [List.replicate_succ, wire_cons, Incremental.Scanner.scan_token turn,
      List.drop_left' (by rw [length_frame]; rfl : (frame []).length = 4), ih]
    rfl

/-- Every enclave error comes with a frame that decrypted. -/
def EnclaveAuthenticated (crypto : Crypto) (opener : FrameOpener) (response : Response) : Prop :=
  ∀ code text,
    (openBody crypto (FrameDecoder.new opener) response = .error (.enclave code text) ∨
      openStream crypto (FrameDecoder.new opener) response = .error (.enclave code text)) →
    ∃ cts plains, readAll response.body = .ok (wire cts) ∧ Decrypted crypto opener cts plains ∧
      plains ≠ []

/-- The status is no success, and the body is empty or nothing but zero-length frames. -/
def OnlyEmptyFrames (response : Response) : Prop :=
  response.status.isSuccess = false ∧ ∃ k, readAll response.body = .ok (List.replicate (4 * k) 0)

theorem enclave_of_empty_frames {opener : FrameOpener} {response : Response}
    (empty : OnlyEmptyFrames response) :
    openBody crypto (FrameDecoder.new opener) response =
      .error (enclaveError response.status []) := by
  obtain ⟨failure, k, delivered⟩ := empty
  apply openBody_enclave.mpr
  rw [← wire_replicate_nil] at delivered
  refine ⟨failure, [], ⟨_, _, opener, delivered, scan_replicate_nil opener k, ?_⟩, rfl⟩
  simp [plaintext]

theorem not_decrypted_of_empty_frames {opener : FrameOpener} {cts plains : List Bytes} {k : Nat}
    (empty : wire cts = List.replicate (4 * k) 0) (decrypted : Decrypted crypto opener cts plains) :
    plains = [] := by
  have small : MAX_FRAME_LEN ≤ U32_MAX := by decide
  rw [← wire_replicate_nil] at empty
  have fits' : ∀ ct ∈ List.replicate k ([] : Bytes), ct.length ≤ U32_MAX := by
    intro ct member
    rw [List.eq_of_mem_replicate member]
    exact Nat.zero_le _
  have same := wire_prefix (fun ct member => (decrypted.fits ct member).trans small) fits'
    (empty ▸ List.prefix_refl _)
  have none : cts.filter (· ≠ []) = [] := by
    rw [same, List.take_replicate]
    simp
  have counted := decrypted.count
  rw [none] at counted
  exact List.length_eq_zero_iff.mp counted.symm

/-- Enclave errors are authenticated on every response but those of zero-length frames. -/
theorem enclave_authenticated_iff (crypto : Crypto) (opener : FrameOpener) (response : Response) :
    EnclaveAuthenticated crypto opener response ↔ ¬ OnlyEmptyFrames response := by
  constructor
  · intro authenticated empty
    obtain ⟨cts, plains, delivered, decrypted, some⟩ :=
      authenticated _ _ (.inl (enclave_of_empty_frames empty))
    obtain ⟨_, k, zeros⟩ := empty
    rw [zeros] at delivered
    exact some (not_decrypted_of_empty_frames (Except.ok.inj delivered).symm decrypted)
  · intro some code text enclave
    have enclave : openBody crypto (FrameDecoder.new opener) response =
        .error (.enclave code text) := by
      rcases enclave with body | stream
      · exact body
      · exact openStream_enclave.mp stream
    obtain ⟨failure, out, complete, _⟩ := openBody_enclave.mp enclave
    obtain ⟨bytes, frames, opener', delivered, scanned, _⟩ := complete
    have reads := Incremental.Scanner.reads_of_scan scanned
    obtain ⟨whole, decrypted⟩ := reads_wire reads
    rw [List.append_nil] at whole
    refine ⟨frames.map Opened.ciphertext, emitted frames, by rw [delivered, ← whole], decrypted, ?_⟩
    intro none
    apply some
    have counted := decrypted.count
    rw [none, List.length_nil, List.length_eq_zero_iff, List.filter_eq_nil_iff] at counted
    have empties : frames.map Opened.ciphertext = List.replicate frames.length [] := by
      rw [List.eq_replicate_iff]
      exact ⟨List.length_map _, fun ct member => by simpa using counted ct member⟩
    rw [empties, wire_replicate_nil] at whole
    exact ⟨failure, frames.length, by rw [delivered, whole]⟩

def emptyAnswer : Response :=
  ⟨⟨500, by decide⟩, [("ehbp-response-nonce", utf8 (String.ofList (List.replicate 64 '0')))], []⟩

/-- Anyone can send that, without a key. -/
theorem enclave_error_unauthenticated :
    ¬ EnclaveAuthenticated .clear ⟨Vector.replicate 32 0, Vector.replicate 12 0, 0⟩
      emptyAnswer := by
  intro authenticated
  have empty : OnlyEmptyFrames emptyAnswer := ⟨rfl, 0, rfl⟩
  obtain ⟨cts, plains, delivered, decrypted, some⟩ :=
    authenticated _ _ (.inl (enclave_of_empty_frames empty))
  have zeros : wire cts = List.replicate (4 * 0) 0 := (Except.ok.inj delivered).symm
  exact some (not_decrypted_of_empty_frames zeros decrypted)

/-! The stream. -/

/-- The stream yields what the buffered reader collects, and fails where it fails. -/
theorem streamItems_drained (crypto : Crypto) (decoder : FrameDecoder) (out : Bytes)
    (body : List (Except ReqwestError Bytes)) :
    match drained crypto decoder out body with
    | .ok total =>
      ∃ plains : List Bytes, streamItems crypto decoder body = plains.map .ok ∧
        total = out ++ plains.flatten
    | .error e =>
      ∃ plains : List Bytes, streamItems crypto decoder body = plains.map .ok ++ [.error e] := by
  induction body generalizing decoder out with
  | nil =>
    rw [drained_nil, streamItems]
    cases decoder.finish with
    | ok _ => exact ⟨[], rfl, by simp⟩
    | error e => exact ⟨[], rfl⟩
  | cons chunk rest ih =>
    cases chunk with
    | error cause => exact ⟨[], rfl⟩
    | ok chunk =>
      rw [drained_cons, streamItems]
      rcases decoder.push crypto chunk with ⟨e | plain, decoder'⟩
      · exact ⟨[], rfl⟩
      · have later := ih decoder' (out ++ plain)
        simp only at later ⊢
        cases result : drained crypto decoder' (out ++ plain) rest with
        | ok total =>
          rw [result] at later
          obtain ⟨plains, items, same⟩ := later
          exact ⟨plain :: plains, by rw [items]; rfl, by rw [same]; simp⟩
        | error e =>
          rw [result] at later
          obtain ⟨plains, items⟩ := later
          exact ⟨plain :: plains, by rw [items]; rfl⟩

theorem filter_nonEmpty (plains : List Bytes) :
    (plains.map Except.ok).filter nonEmpty =
      (plains.filter fun plain => !plain.isEmpty).map .ok := by
  rw [List.filter_map]
  rfl

/-- What the stream hands out are the plaintexts of the frames that arrived first. -/
theorem streamItems_reads {opener : FrameOpener} {buf : Bytes}
    (waits : (frameScanner crypto).next opener buf = .wait)
    (body : List (Except ReqwestError Bytes)) :
    ∃ frames opener' rest,
      (frameScanner crypto).Reads opener (buf ++ arrived body) frames opener' rest ∧
      received (streamItems crypto ⟨opener, buf, false⟩ body) = plaintext frames := by
  induction body generalizing opener buf with
  | nil =>
    refine ⟨[], opener, _, .nil opener _, ?_⟩
    rw [streamItems]
    cases (⟨opener, buf, false⟩ : FrameDecoder).finish <;> rfl
  | cons chunk rest ih =>
    cases chunk with
    | error cause => exact ⟨[], opener, _, .nil opener _, rfl⟩
    | ok chunk =>
      rw [arrived, streamItems, FrameDecoder.push_live, ← List.append_assoc]
      rcases Incremental.Scanner.scan_cases (frameScanner crypto) opener (buf ++ chunk) with
        ⟨first, opener₁, left, scanned, reads, waits₁⟩ | ⟨_, _, _, _, _, _, _, _, scanned⟩
      · rw [scanned]
        obtain ⟨frames, opener', rest', later, handed⟩ := ih waits₁
        refine ⟨first ++ frames, opener', rest', (reads.append _).trans later, ?_⟩
        rw [plaintext_append, ← handed]
        rfl
      · rw [scanned]
        exact ⟨[], opener, _, .nil opener _, rfl⟩

theorem received_filter (items : List (Result Bytes)) :
    received (items.filter nonEmpty) = received items := by
  induction items with
  | nil => rfl
  | cons item items ih =>
    rcases item with e | plain
    · exact ih
    · cases plain with
      | nil => exact ih
      | cons byte plain =>
        show byte :: plain ++ received (items.filter nonEmpty) = byte :: plain ++ received items
        rw [ih]

end PpqTee.Client
