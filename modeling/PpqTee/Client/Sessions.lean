import PpqTee.Client.Enclave
import PpqTee.Ehbp.Delivery
import PpqTee.Lib.Transition

/-! Many exchanges with one enclave, over a network that delivers whatever it likes to whomever it
likes: which answer a client can be made to accept. -/

namespace PpqTee.Client
open Ehbp

/-- A request that some client of the enclave has sealed and sent. -/
structure Exchange where
  plaintext : Bytes
  request : Request
  session : ResponseSession

/-- An answer that the enclave has sealed. -/
structure SealedAnswer where
  opened : OpenedRequest
  nonce : Bytes
  parts : List Bytes
  deriving DecidableEq

/-- What has been sealed so far, by the clients and by the enclave. -/
structure World where
  exchanges : List Exchange
  answers : List SealedAnswer

/-- A client sends a request; the enclave is shown one, which need not be that of any client, and
may be one that it has answered before; or a client is shown a response, from whomever. -/
inductive NetAction (crates : Crates) where
  | send (call : SealCall) (entropy : crates.Entropy)
  | answer (recorded : Recorded) (nonce : Bytes) (parts : List Bytes)
  | deliver (i : Nat) (response : Response)

variable {crates : Crates}

def netStep (crates : Crates) (receiver : HpkeReceiver) (sk : receiver.PrivateKey) (w : World) :
    NetAction crates → Option World
  | .send call entropy =>
    match sealRequest crates call.client entropy call.url call.plaintext call.headers with
    | .ok (request, session) =>
      some { w with exchanges := w.exchanges ++ [⟨call.plaintext, request, session⟩] }
    | .error _ => none
  | .answer recorded nonce parts =>
    match openRequest crates receiver sk recorded, enclave crates receiver sk nonce recorded parts with
    | some opened, some _ => some { w with answers := w.answers ++ [⟨opened, nonce, parts⟩] }
    | _, _ => none
  | .deliver i _ => if i < w.exchanges.length then some w else none

/-- What the readers make plaintext of: a body, the items of a stream, or the text of an error. -/
inductive HandsOut (crypto : Crypto) (decoder : FrameDecoder) (response : Response) : Bytes → Prop
  | body {out : Bytes} : openBody crypto decoder response = .ok out →
      HandsOut crypto decoder response out
  | stream {items : List (Result Bytes)} : openStream crypto decoder response = .ok items →
      HandsOut crypto decoder response (received items)
  | refusal {out : Bytes} : response.status.isSuccess = false →
      drained crypto decoder [] response.body = .ok out → HandsOut crypto decoder response out

theorem arrived_of_readAll {body : List (Except ReqwestError Bytes)} {bytes : Bytes}
    (delivered : readAll body = .ok bytes) : arrived body = bytes := by
  induction body generalizing bytes with
  | nil =>
    cases delivered
    rfl
  | cons chunk rest ih =>
    cases chunk with
    | error e => cases delivered
    | ok chunk =>
      obtain ⟨later, delivered, same⟩ := readAll_cons.mp delivered
      rw [arrived, ih delivered, same]

theorem handsOut_decrypted {crypto : Crypto} {opener : FrameOpener} {response : Response}
    {out : Bytes} (hands : HandsOut crypto (FrameDecoder.new opener) response out) :
    ∃ cts plains rest, arrived response.body = wire cts ++ rest ∧
      Decrypted crypto opener cts plains ∧ out = plains.flatten := by
  have whole : ∀ {out : Bytes}, Complete crypto opener response.body out →
      ∃ cts plains rest, arrived response.body = wire cts ++ rest ∧
        Decrypted crypto opener cts plains ∧ out = plains.flatten := by
    intro out complete
    obtain ⟨cts, plains, delivered, decrypted, same⟩ := complete_decrypted complete
    refine ⟨cts, plains, [], ?_, decrypted, same⟩
    rw [List.append_nil, arrived_of_readAll delivered]
  cases hands with
  | body opened => exact whole (openBody_ok.mp opened).2
  | refusal _ drains => exact whole (drained_new.mp drains)
  | stream opened =>
    obtain ⟨_, same⟩ := openStream_ok opened
    obtain ⟨frames, opener', rest, reads, handed⟩ :=
      streamItems_reads (frameScanner_nil crypto opener) response.body
    obtain ⟨cut, decrypted⟩ := reads_wire reads
    refine ⟨_, emitted frames, rest, cut, decrypted, ?_⟩
    rw [same, received_filter, ← plaintext_eq_emitted (plain_of_skipped reads)]
    exact handed

/-- The sealer under which the enclave gave an answer. -/
def SealedAnswer.Sealer (crates : Crates) (a : SealedAnswer) (sealer : FrameSealer) : Prop :=
  FrameSealer.new crates.toCrypto a.opened.exportedSecret a.opened.enc a.nonce = .ok sealer

/-- What the cryptography promises about the keys of an exchange, when this response is delivered to
it: no frame decrypts that the enclave did not seal, no other inputs to HKDF have given the same key,
and HPKE opens nothing under the encapsulated key but the one request that was sealed with it. -/
structure Ideal (crates : Crates) (receiver : HpkeReceiver) (sk : receiver.PrivateKey) (w : World)
    (e : Exchange) (response : Response) (opener : FrameOpener) : Prop where
  unforged : ∀ cts rest, arrived response.body = wire cts ++ rest → ∀ ct ∈ cts, ∀ nonce plain,
    crates.decrypt opener.cipher nonce ct = some plain →
    ∃ a ∈ w.answers, ∃ sealer, a.Sealer crates sealer ∧ sealer.cipher = opener.cipher ∧
      ⟨nonce, ct, plain⟩ ∈ sealer.sealings crates.toCrypto a.parts
  separated : ∀ a ∈ w.answers, ∀ nonce base,
    derive crates.toCrypto a.opened.exportedSecret a.opened.enc a.nonce = .ok (opener.cipher, base) →
    derive crates.toCrypto e.session.exportedSecret e.session.enc nonce =
      .ok (opener.cipher, opener.base) →
    a.opened.exportedSecret = e.session.exportedSecret ∧ a.opened.enc = e.session.enc ∧
      a.nonce = nonce
  sealedOnce : ∀ key ctx, receiver.encappedKeyFromBytes e.session.enc = .ok key →
    receiver.setupReceiver sk key REQUEST_INFO = .ok ctx → ∀ ct aad plain ctx',
    receiver.ctxOpen ctx ct aad = (.ok plain, ctx') → plain = e.plaintext ∧
      ∀ ct' aad' plain' ctx'', receiver.ctxOpen ctx' ct' aad' ≠ (.ok plain', ctx'')

/-- The enclave draws a nonce of its own for every answer, also to a request that it has seen. -/
def FreshNonces (w : World) : Prop :=
  ∀ a ∈ w.answers, ∀ b ∈ w.answers, a.opened.enc = b.opened.enc → a.nonce = b.nonce → a = b

/-- The enclave gave this answer to a request that it could open. -/
def SealedAnswer.Genuine (crates : Crates) (receiver : HpkeReceiver) (sk : receiver.PrivateKey)
    (a : SealedAnswer) : Prop :=
  ∃ recorded v bytes, openRequest crates receiver sk recorded = some a.opened ∧
    enclave crates receiver sk a.nonce recorded a.parts = some (v, bytes)

def World.Genuine (crates : Crates) (receiver : HpkeReceiver) (sk : receiver.PrivateKey)
    (w : World) : Prop :=
  ∀ a ∈ w.answers, a.Genuine crates receiver sk

variable {receiver : HpkeReceiver} {sk : receiver.PrivateKey} {w : World}

theorem netStep_send {call : SealCall} {entropy : crates.Entropy} {request : Request}
    {session : ResponseSession}
    (made : sealRequest crates call.client entropy call.url call.plaintext call.headers =
      .ok (request, session)) :
    netStep crates receiver sk w (.send call entropy) =
      some { w with exchanges := w.exchanges ++ [⟨call.plaintext, request, session⟩] } := by
  unfold netStep
  simp only [made]

theorem netStep_answer {recorded : Recorded} {nonce : Bytes} {parts : List Bytes}
    {opened : OpenedRequest} {out : Value × Bytes}
    (opens : openRequest crates receiver sk recorded = some opened)
    (answers : enclave crates receiver sk nonce recorded parts = some out) :
    netStep crates receiver sk w (.answer recorded nonce parts) =
      some { w with answers := w.answers ++ [⟨opened, nonce, parts⟩] } := by
  unfold netStep
  simp only [opens, answers]

theorem World.Genuine.step {w' : World} {a : NetAction crates}
    (genuine : w.Genuine crates receiver sk) (taken : netStep crates receiver sk w a = some w') :
    w'.Genuine crates receiver sk := by
  cases a with
  | send call entropy =>
    simp only [netStep] at taken
    split at taken
    · cases taken
      exact genuine
    · cases taken
  | answer recorded nonce parts =>
    simp only [netStep] at taken
    split at taken
    · rename_i opened out opens answers
      obtain ⟨v, bytes⟩ := out
      cases taken
      intro answer member
      rcases List.mem_append.mp member with old | new
      · exact genuine answer old
      · rw [List.mem_singleton.mp new]
        exact ⟨recorded, v, bytes, opens, answers⟩
    · cases taken
  | deliver i response =>
    simp only [netStep] at taken
    split at taken
    · cases taken
      exact genuine
    · cases taken

theorem genuine_run {trace : List (World × NetAction crates)}
    (run : Transition.Run (netStep crates receiver sk) ⟨[], []⟩ trace w) :
    w.Genuine crates receiver sk := by
  apply run.invariant
  · intro answer member
    cases member
  · intro trace s a s' _ genuine taken
    exact genuine.step taken

/-! What one answer is. -/

theorem sealings_sealAll {crypto : Crypto} {sealer : FrameSealer} {parts frames : List Bytes}
    (isSealed : sealer.sealAll crypto parts = .ok frames) :
    (sealer.sealings crypto parts).map Sealing.plain = parts := by
  induction parts generalizing sealer frames with
  | nil => rfl
  | cons part parts ih =>
    obtain ⟨seq, ct, later, current, encrypted, fits, _, rest⟩ := sealAll_cons.mp isSealed
    have called := FrameSealer.sealFrame_ok.mpr ⟨seq, ct, current, encrypted, fits, rfl, rfl⟩
    rw [FrameSealer.sealings, called]
    simp only [current, List.map_cons, ih rest]

theorem enclave_some {recorded : Recorded} {nonce bytes : Bytes} {parts : List Bytes} {v : Value}
    {opened : OpenedRequest} (opens : openRequest crates receiver sk recorded = some opened)
    (answers : enclave crates receiver sk nonce recorded parts = some (v, bytes)) :
    ∃ sealer frames, FrameSealer.new crates.toCrypto opened.exportedSecret opened.enc nonce =
        .ok sealer ∧
      sealer.sealAll crates.toCrypto parts = .ok frames ∧
      crates.jsonFromSlice opened.plaintext = .ok v := by
  unfold enclave at answers
  simp only [opens, Option.bind_eq_bind, Option.bind_some, Option.bind_eq_some_iff,
    toOption_ok, Option.some.injEq, Prod.mk.injEq] at answers
  obtain ⟨sealer, starts, frames, isSealed, v', parses, same, _⟩ := answers
  rw [same] at parses
  exact ⟨sealer, frames, starts, isSealed, parses⟩

theorem openFrames_cases {ctx ctx' : receiver.ReceiverCtx} {out rest opened : Bytes}
    (opens : openFrames receiver ctx out rest = some (opened, ctx')) :
    opened = out ∨ ∃ ct plain after left, receiver.ctxOpen ctx ct [] = (.ok plain, after) ∧
      openFrames receiver after (out ++ plain) left = some (opened, ctx') := by
  rw [openFrames] at opens
  split at opens
  · simp only at opens
    split at opens
    · split at opens
      · rename_i plain after called
        exact .inr ⟨_, plain, after, _, called, opens⟩
      · cases opens
    · cases opens
  · cases opens
    exact .inl rfl

/-- Under an encapsulated key that sealed one request, a body is that request or holds nothing. -/
theorem openFrames_once {ctx ctx' : receiver.ReceiverCtx} {plaintext rest opened : Bytes}
    (once : ∀ ct aad plain after, receiver.ctxOpen ctx ct aad = (.ok plain, after) →
      plain = plaintext ∧ ∀ ct' aad' plain' after', receiver.ctxOpen after ct' aad' ≠
        (.ok plain', after'))
    (opens : openFrames receiver ctx [] rest = some (opened, ctx')) :
    opened = [] ∨ opened = plaintext := by
  rcases openFrames_cases opens with none | ⟨ct, plain, after, left, called, later⟩
  · exact .inl none
  · obtain ⟨same, never⟩ := once ct [] plain after called
    rcases openFrames_cases later with ended | ⟨ct', plain', after', _, called', _⟩
    · right
      rw [ended, List.nil_append, same]
    · exact absurd called' (never ct' [] plain' after')

/-- An answer to a request under the encapsulated key of an exchange is one to its request. -/
theorem SealedAnswer.Genuine.plaintext (rejectsEmpty : ∀ v, crates.jsonFromSlice [] ≠ .ok v)
    {a : SealedAnswer} {e : Exchange} {response : Response} {opener : FrameOpener}
    (genuine : a.Genuine crates receiver sk)
    (ideal : Ideal crates receiver sk w e response opener)
    (same : a.opened.enc = e.session.enc) : a.opened.plaintext = e.plaintext := by
  obtain ⟨recorded, v, bytes, opens, answers⟩ := genuine
  obtain ⟨_, _, _, _, parses⟩ := enclave_some opens answers
  unfold openRequest at opens
  simp only [Option.bind_eq_bind, Option.bind_eq_some_iff, toOption_ok, Option.some.injEq]
    at opens
  obtain ⟨_, _, _, _, enc, _, key, decoded, ctx, receives, ⟨plaintext, ctx'⟩, frames, _, _, whole⟩ :=
    opens
  rw [← whole] at same parses ⊢
  simp only at same parses ⊢
  rw [same] at decoded
  rcases openFrames_once (ideal.sealedOnce key ctx decoded receives) frames with none | found
  · rw [none] at parses
    exact absurd parses (rejectsEmpty v)
  · exact found

/-- Whatever decrypts in its turn is the part of an answer that has the same place. -/
theorem Ideal.part {e : Exchange} {response : Response} {opener : FrameOpener}
    (ideal : Ideal crates receiver sk w e response opener)
    (genuine : w.Genuine crates receiver sk) {nonce : Bytes}
    (derived : derive crates.toCrypto e.session.exportedSecret e.session.enc nonce =
      .ok (opener.cipher, opener.base))
    {cts : List Bytes} {rest ct plain : Bytes} {seq : UInt64}
    (whole : arrived response.body = wire cts ++ rest) (member : ct ∈ cts)
    (decrypted : crates.decrypt opener.cipher (frameNonce opener.base seq) ct = some plain) :
    ∃ a ∈ w.answers, a.opened.exportedSecret = e.session.exportedSecret ∧
      a.opened.enc = e.session.enc ∧ a.nonce = nonce ∧ a.parts[seq.toNat]? = some plain := by
  obtain ⟨a, answered, sealer, starts, keyed, entry⟩ :=
    ideal.unforged cts rest whole ct member _ plain decrypted
  obtain ⟨⟨cipher, base⟩, keys, made⟩ := bind_ok.mp starts
  cases made
  simp only at keyed
  subst keyed
  obtain ⟨secret, enc, same⟩ := ideal.separated a answered nonce base keys derived
  rw [secret, enc, same, derived] at keys
  cases keys
  obtain ⟨recorded, v, bytes, opens, answers⟩ := genuine a answered
  obtain ⟨sealer', frames, starts', isSealed, _⟩ := enclave_some opens answers
  have again : sealer' = ⟨opener.cipher, opener.base, some 0⟩ := by
    rw [SealedAnswer.Sealer, starts'] at starts
    exact Except.ok.inj starts
  subst again
  obtain ⟨i, found⟩ := List.mem_iff_getElem?.mp entry
  obtain ⟨turn, counted, same'⟩ := sealings_nonce _ _ 0 rfl i _ found
  have turns : seq = turn := frameNonce_injective opener.base same'
  refine ⟨a, answered, secret, enc, same, ?_⟩
  rw [← sealings_sealAll isSealed, List.getElem?_map, turns, counted]
  simp [found]

/-- And so is each plaintext of a delivery, counted from the first. -/
theorem Ideal.parts {e : Exchange} {response : Response} {opener : FrameOpener}
    (ideal : Ideal crates receiver sk w e response opener)
    (genuine : w.Genuine crates receiver sk) {nonce : Bytes}
    (derived : derive crates.toCrypto e.session.exportedSecret e.session.enc nonce =
      .ok (opener.cipher, opener.base))
    (fresh : opener.seq = 0) {cts plains : List Bytes} {rest : Bytes}
    (whole : arrived response.body = wire cts ++ rest)
    (decrypted : Decrypted crates.toCrypto opener cts plains) {k : Nat} {plain : Bytes}
    (found : plains[k]? = some plain) :
    ∃ a ∈ w.answers, a.opened.exportedSecret = e.session.exportedSecret ∧
      a.opened.enc = e.session.enc ∧ a.nonce = nonce ∧ a.parts[k]? = some plain := by
  obtain ⟨inside, _⟩ := List.getElem?_eq_some_iff.mp found
  have kept : k < (cts.filter (· ≠ [])).length := by rw [decrypted.count]; exact inside
  have here := List.getElem?_eq_getElem kept
  have opens := decrypted.decrypts k _ here
  have room := decrypted.room
  rw [fresh, UInt64.toNat_zero, Nat.zero_add] at room
  have turn : (0 + UInt64.ofNat k).toNat = k := by
    rw [UInt64.zero_add, UInt64.toNat_ofNat']
    exact Nat.mod_eq_of_lt (by omega)
  rw [found, fresh] at opens
  have member := (List.mem_filter.mp (List.getElem_mem kept)).1
  have part := ideal.part genuine derived whole member opens
  rw [turn] at part
  exact part

/-- Every delivery in the run meets ideal cryptography, and an enclave that draws fresh nonces. -/
def Protected (crates : Crates) (receiver : HpkeReceiver) (sk : receiver.PrivateKey) :
    World × NetAction crates → Prop
  | (w, .deliver i response) => FreshNonces w ∧ ∀ e opener, w.exchanges[i]? = some e →
      Keyed crates e.session response opener → Ideal crates receiver sk w e response opener
  | _ => True

/-- What a delivery hands out is a beginning of one answer to the request that was sealed. -/
theorem delivery_bound (rejectsEmpty : ∀ v, crates.jsonFromSlice [] ≠ .ok v)
    {trace : List (World × NetAction crates)}
    (run : Transition.Run (netStep crates receiver sk) ⟨[], []⟩ trace w)
    (isProtected : ∀ event ∈ trace, Protected crates receiver sk event) {m : World} {i : Nat}
    {response : Response} (delivered : (m, .deliver i response) ∈ trace) {e : Exchange}
    (exchange : m.exchanges[i]? = some e) {decoder : FrameDecoder}
    (got : receive crates e.session response = .ok (decoder, response)) {out : Bytes}
    (hands : HandsOut crates.toCrypto decoder response out) (nonempty : out ≠ []) :
    ∃ a ∈ m.answers, a.opened = ⟨e.session.enc, e.plaintext, e.session.exportedSecret⟩ ∧
      ∃ n, out = (a.parts.take n).flatten := by
  obtain ⟨before, m', reached, _⟩ := run.of_mem delivered
  have genuine := genuine_run reached
  obtain ⟨_, opener, decodes, keyed⟩ := receive_ok got
  subst decodes
  obtain ⟨freshNonces, ideals⟩ := isProtected _ delivered
  have ideal := ideals e opener exchange keyed
  obtain ⟨_, _, nonce, _, _, _, _, derived⟩ := keyed.derived
  obtain ⟨cts, plains, rest, whole, decrypted, same⟩ := handsOut_decrypted hands
  have part : ∀ (k : Nat) (plain : Bytes), plains[k]? = some plain → ∃ a ∈ m.answers,
      a.opened.exportedSecret = e.session.exportedSecret ∧ a.opened.enc = e.session.enc ∧
      a.nonce = nonce ∧ a.parts[k]? = some plain := fun k plain found =>
    ideal.parts genuine derived keyed.fresh whole decrypted found
  cases plains with
  | nil => exact absurd same nonempty
  | cons first later =>
    obtain ⟨a, answered, secret, enc, drawn, _⟩ := part 0 first rfl
    refine ⟨a, answered, ?_, (first :: later).length, ?_⟩
    · have asked := (genuine a answered).plaintext rejectsEmpty ideal enc
      rw [← asked, ← secret, ← enc]
    · have prefixes : first :: later = a.parts.take (first :: later).length := by
        apply List.ext_getElem?
        intro k
        by_cases inside : k < (first :: later).length
        · obtain ⟨b, answered', _, enc', drawn', parts⟩ :=
            part k _ (List.getElem?_eq_getElem inside)
          have one := freshNonces b answered' a answered (by rw [enc', enc]) (by rw [drawn', drawn])
          rw [List.getElem?_take_of_lt inside, ← one, parts, List.getElem?_eq_getElem inside]
        · have after := Nat.not_lt.mp inside
          rw [List.getElem?_eq_none after, List.getElem?_eq_none]
          exact (List.length_take_le _ _).trans after
      rw [same, ← prefixes]

/-- Whatever the network does, with however many exchanges open and requests answered more than
once: all that a client is ever handed out comes from one answer that the enclave gave to the very
request of this client, in order and from its beginning. -/
theorem session_bound (crates : Crates) (rejectsEmpty : ∀ v, crates.jsonFromSlice [] ≠ .ok v)
    (receiver : HpkeReceiver) (sk : receiver.PrivateKey) (trace : List (World × NetAction crates))
    (w : World) (run : Transition.Run (netStep crates receiver sk) ⟨[], []⟩ trace w)
    (isProtected : ∀ event ∈ trace, Protected crates receiver sk event) (m : World) (i : Nat)
    (response : Response) (delivered : (m, .deliver i response) ∈ trace) (e : Exchange)
    (exchange : m.exchanges[i]? = some e) (decoder : FrameDecoder)
    (got : receive crates e.session response = .ok (decoder, response)) (out : Bytes)
    (hands : HandsOut crates.toCrypto decoder response out) (nonempty : out ≠ []) :
    ∃ a ∈ m.answers, a.opened = ⟨e.session.enc, e.plaintext, e.session.exportedSecret⟩ ∧
      ∃ n, out = (a.parts.take n).flatten :=
  delivery_bound rejectsEmpty run isProtected delivered exchange got hands nonempty

/-! One exchange, with cryptography that is ideal as far as it goes. -/

def boundNonce : Bytes := List.replicate 32 17

def boundSealer : FrameSealer := ⟨Vector.replicate 32 17, Vector.replicate 12 17, some 0⟩

def boundParts : List Bytes := [[110, 117], [108, 108]]

/-- The key is the nonce, and opens what was sealed under it. -/
def boundCrypto : Crypto where
  extract salt ikm := salt ++ ikm
  expand prk _ n := .ok (Vector.ofFn fun i : Fin n => prk.getD (32 + i.val) 0)
  encrypt := Crypto.clear.encrypt
  decrypt key nonce ct :=
    if key = boundSealer.cipher then lookup (boundSealer.sealings .clear boundParts) nonce ct else none

def boundCrates : Crates := { pairedCrates with toCrypto := boundCrypto }

/-- It opens the one request, once. -/
def boundReceiver : HpkeReceiver where
  PrivateKey := Unit
  EncappedKey := Unit
  ReceiverCtx := Bool
  encappedKeyFromBytes _ := .ok ()
  setupReceiver _ _ _ := .ok true
  ctxOpen ctx ct _ :=
    if ctx && ct = pairedText ++ List.replicate 16 0 then (.ok pairedText, false)
    else (.error "OpenError", ctx)
  ctxExport _ _ n := .ok (Vector.replicate n 0)

def boundRecorded : Recorded where
  headers name :=
    if name = "ehbp-encapsulated-key" then some (hexText (List.replicate 32 0)) else none
  body := frame (pairedText ++ List.replicate 16 0)

def boundAnswer : SealedAnswer :=
  ⟨⟨Vector.replicate 32 0, pairedText, Vector.replicate 32 0⟩, boundNonce, boundParts⟩

def boundCts : List Bytes := (boundSealer.sealings .clear boundParts).map Sealing.ciphertext

def boundResponse : Response :=
  ⟨.OK, [nonceHeader boundCrates boundNonce], [.ok (wire boundCts)]⟩

theorem derive_bound {secret enc : Vector UInt8 32} {nonce : Bytes} {cipher : Key} {base : Nonce}
    (derived : derive boundCrypto secret enc nonce = .ok (cipher, base)) :
    cipher.toList = nonce := by
  have long := derive_ok derived
  unfold derive at derived
  rw [if_neg (not_not.mpr long)] at derived
  obtain ⟨key, expanded, rest⟩ := bind_ok.mp derived
  obtain ⟨_, _, same⟩ := bind_ok.mp rest
  rw [← (Prod.mk.inj (Except.ok.inj same)).1, ← Except.ok.inj (mapError_ok.mp expanded)]
  apply List.ext_getElem
  · rw [Vector.length_toList, long]
    rfl
  · intro i inside inside'
    rw [Vector.getElem_toList, Vector.getElem_ofFn]
    show ((enc.toList ++ nonce) ++ secret.toList).getD (32 + i) 0 = nonce[i]
    rw [List.append_assoc, List.getD_eq_getElem?_getD, List.getElem?_append_right (by simp),
      Vector.length_toList, Nat.add_sub_cancel_left, List.getElem?_append_left inside',
      List.getElem?_eq_getElem inside', Option.getD_some]

theorem openRequest_bound :
    openRequest boundCrates boundReceiver () boundRecorded = some boundAnswer.opened := by
  have text : boundRecorded.headers "ehbp-encapsulated-key" =
      some (hexText (List.replicate 32 0)) := rfl
  have decoded : boundCrates.hexDecode (hexText (List.replicate 32 0)) =
      .ok (List.replicate 32 0) := hexBytes_hexText _
  have frames : openFrames boundReceiver true [] boundRecorded.body = some (pairedText, false) :=
    openFrames_frame (by decide) rfl
  unfold openRequest
  simp only [text, decoded, Except.toOption, Option.bind_eq_bind, Option.bind_some]
  show (openFrames boundReceiver true [] boundRecorded.body).bind _ = _
  rw [frames]
  rfl

theorem enclave_bound : ∃ out, enclave boundCrates boundReceiver () boundNonce boundRecorded
    boundParts = some out := by
  have starts : FrameSealer.new boundCrates.toCrypto (Vector.replicate 32 0) (Vector.replicate 32 0)
      boundNonce = .ok boundSealer := by rfl
  have parses : boundCrates.jsonFromSlice pairedText = .ok (.object [("model", .string "m")]) := by
    show pairedJson pairedText = _
    unfold pairedJson
    rw [if_pos rfl]
  unfold enclave
  rw [openRequest_bound]
  simp only [Option.bind_eq_bind, Option.bind_some, boundAnswer, starts, parses, Except.toOption]
  exact ⟨_, rfl⟩

theorem ideal_bound {e : Exchange} (session : e.session = ⟨Vector.replicate 32 0, Vector.replicate 32 0⟩)
    (plaintext : e.plaintext = pairedText) (opener : FrameOpener) :
    Ideal boundCrates boundReceiver () ⟨[e], [boundAnswer]⟩ e boundResponse opener where
  unforged cts rest _ ct _ nonce plain decrypted := by
    refine ⟨boundAnswer, List.mem_singleton_self _, boundSealer, rfl, ?_⟩
    have opens : (if opener.cipher = boundSealer.cipher then
        lookup (boundSealer.sealings .clear boundParts) nonce ct else none) = some plain := decrypted
    split at opens
    · rename_i same
      exact ⟨same.symm, (lookup_eq_some (by decide) nonce ct plain).mp opens⟩
    · cases opens
  separated a member nonce base derived derived' := by
    rw [List.mem_singleton.mp member] at derived ⊢
    rw [session] at derived' ⊢
    have drawn : boundAnswer.nonce = nonce := (derive_bound derived).symm.trans (derive_bound derived')
    exact ⟨rfl, rfl, drawn⟩
  sealedOnce key ctx _ fresh ct aad plain ctx' opens := by
    cases fresh
    rw [plaintext]
    have opens : (if true && ct = pairedText ++ List.replicate 16 0 then (Except.ok pairedText, false)
        else (.error "OpenError", true)) = (Except.ok plain, ctx') := opens
    split at opens
    · cases opens
      refine ⟨rfl, ?_⟩
      intro ct' aad' plain' ctx'' again
      cases again
    · cases opens

def boundSession : ResponseSession := ⟨Vector.replicate 32 0, Vector.replicate 32 0⟩

theorem receive_bound : receive boundCrates boundSession boundResponse =
    .ok (FrameDecoder.new ⟨boundSealer.cipher, boundSealer.base, 0⟩, boundResponse) := by
  apply receive_keyed
  have visible : boundCrates.headerValueToStr (utf8 (hexText boundNonce)) =
      some (hexText boundNonce) := lawful_paired.visible boundNonce
  exact ⟨⟨_, _, boundNonce, rfl, visible, hexBytes_hexText boundNonce, rfl, rfl⟩, rfl⟩

theorem openBody_bound : openBody boundCrates.toCrypto
    (FrameDecoder.new ⟨boundSealer.cipher, boundSealer.base, 0⟩) boundResponse =
      .ok (utf8 "null") := by
  apply openBody_ok.mpr
  refine ⟨rfl, ?_⟩
  have opens : ∃ opener', openAll boundCrypto ⟨boundSealer.cipher, boundSealer.base, 0⟩ boundCts =
      some (utf8 "null", opener') := ⟨_, rfl⟩
  obtain ⟨opener', opens⟩ := opens
  exact complete_openAll opens

theorem boundCrates_rejectsEmpty (v : Value) : boundCrates.jsonFromSlice [] ≠ .ok v := by
  show pairedJson [] ≠ .ok v
  unfold pairedJson
  rw [if_neg (by decide)]
  intro same
  cases same

def boundRequest : Request where
  url := pairedCall.url
  headers := sealedHeaders pairedCall.headers (utf8 "Bearer k")
    (utf8 (hexText (List.replicate 32 0)))
  body := boundRecorded.body

def boundWorld : World := ⟨[⟨pairedText, boundRequest, boundSession⟩], [boundAnswer]⟩

def boundTrace : List (World × NetAction boundCrates) :=
  [(⟨[], []⟩, .send pairedCall ()),
    (⟨boundWorld.exchanges, []⟩, .answer boundRecorded boundNonce boundParts),
    (boundWorld, .deliver 0 boundResponse)]

theorem run_bound :
    Transition.Run (netStep boundCrates boundReceiver ()) ⟨[], []⟩ boundTrace boundWorld := by
  obtain ⟨out, answers⟩ := enclave_bound
  have made : sealRequest boundCrates pairedCall.client () pairedCall.url pairedCall.plaintext
      pairedCall.headers = .ok (boundRequest, boundSession) := rfl
  have sent : netStep boundCrates boundReceiver () ⟨[], []⟩ (.send pairedCall ()) =
      some ⟨boundWorld.exchanges, []⟩ := netStep_send made
  have answered : netStep boundCrates boundReceiver () ⟨boundWorld.exchanges, []⟩
      (.answer boundRecorded boundNonce boundParts) = some boundWorld :=
    netStep_answer openRequest_bound answers
  have delivered : netStep boundCrates boundReceiver () boundWorld (.deliver 0 boundResponse) =
      some boundWorld := rfl
  exact ((Transition.Run.start.next sent).next answered).next delivered

theorem protected_bound : ∀ event ∈ boundTrace, Protected boundCrates boundReceiver () event := by
  rw [boundTrace, List.forall_mem_cons, List.forall_mem_cons, List.forall_mem_singleton]
  refine ⟨trivial, trivial, ?_, ?_⟩
  · intro a first b second _ _
    rw [List.mem_singleton.mp first, List.mem_singleton.mp second]
  · intro e opener found _
    cases found
    exact ideal_bound rfl rfl opener

/-- A request answered in two parts. -/
theorem session_bound_exchange :
    ∃ a ∈ boundWorld.answers, a.opened = ⟨boundSession.enc, pairedText, boundSession.exportedSecret⟩ ∧
      ∃ n, utf8 "null" = (a.parts.take n).flatten :=
  session_bound boundCrates boundCrates_rejectsEmpty boundReceiver () boundTrace boundWorld
    run_bound protected_bound boundWorld 0 boundResponse (by simp [boundTrace]) _ rfl _ receive_bound _
    (.body openBody_bound) (by decide)

end PpqTee.Client
