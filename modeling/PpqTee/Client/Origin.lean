import PpqTee.Client.Rig
import PpqTee.Lib.Url

/-! Where a sealed request may go: the guard of `seal_and_send`, a comparison of strings, against
the scheme and the authority of the URLs. -/

namespace PpqTee.Client
open Ehbp

/-- What `seal_and_send` says when it refuses a URL. -/
def refusal (client : PpqClient) (url : String) : Error :=
  let base := trimEndMatches client.baseUrl '/'
  .ehbp s!"refusing to seal a request to {url}, which is outside the configured base URL {base}"

variable {crates : Crates}

theorem sealRequest_refuses {client : PpqClient} {url : String} (outside : ¬ client.Allows url)
    (entropy : crates.Entropy) (plaintext : Bytes) (headers : HeaderMap) :
    sealRequest crates client entropy url plaintext headers = .error (refusal client url) := by
  unfold sealRequest
  exact if_pos (not_not.mp (mt PpqClient.allows_iff.mpr outside))

theorem below_base {client : PpqClient} {url : String} (allows : client.Allows url) :
    ∃ more, url.toList = (trimEndMatches client.baseUrl '/').toList ++ '/' :: more := by
  obtain ⟨begins, slash⟩ := allows
  obtain ⟨tail, whole⟩ := begins
  rw [← whole, List.drop_left] at slash
  obtain ⟨more, same⟩ := List.head?_eq_some_iff.mp slash
  exact ⟨more, by rw [← whole, same]⟩

theorem same_origin {client : PpqClient} {url : String} {base : Url}
    (parsed : Url.parse client.baseUrl.toList = some base) (isBase : base.IsBase)
    (allows : client.Allows url) : ∃ rest, Url.parse url.toList = some { base with rest } := by
  obtain ⟨more, same⟩ := below_base allows
  obtain ⟨slashes, trims⟩ := toList_trimEndMatches client.baseUrl '/'
  rw [same]
  exact Url.parse_below parsed isBase trims more

/-- Whatever slashes end the base URL, a path behind it begins with one. -/
theorem baseUrl_allows (client : PpqClient) {path : String}
    (slash : path.toList.head? = some '/') : client.Allows (client.baseUrl ++ path) := by
  obtain ⟨n, cut⟩ := toList_trimEndMatches client.baseUrl '/'
  unfold PpqClient.Allows
  rw [String.toList_append, cut, List.append_assoc]
  refine ⟨List.prefix_append _ _, ?_⟩
  rw [List.drop_left]
  cases n with
  | zero => exact slash
  | succ n => rfl

/-! No other error says what a refusal says. -/

/-- A message that does not begin as a refusal does. -/
def Unlike (message : String) : Prop :=
  3 ≤ message.toList.length ∧ message.toList.take 3 ≠ ['r', 'e', 'f']

instance (message : String) : Decidable (Unlike message) :=
  inferInstanceAs (Decidable (_ ∧ _))

theorem Unlike.append {message : String} (unlike : Unlike message) (rest : String) :
    Unlike (message ++ rest) := by
  obtain ⟨long, other⟩ := unlike
  unfold Unlike
  rw [String.toList_append, List.length_append, List.take_append_of_le_length long]
  exact ⟨Nat.le_add_right_of_le long, other⟩

def NoRefusal : Error → Prop
  | .ehbp message => Unlike message
  | _ => True

theorem not_noRefusal (client : PpqClient) (url : String) : ¬ NoRefusal (refusal client url) := by
  intro unlike
  apply unlike.2
  apply Eq.symm
  apply List.prefix_iff_eq_take.mp
  simp only [String.toList_append]
  apply List.prefix_append_of_prefix
  apply List.prefix_append_of_prefix
  apply List.prefix_append_of_prefix
  decide

theorem noRefusal_of_begins {texts : List String} (others : ∀ text ∈ texts, Unlike text)
    {e : Error} (begins : BeginsWith texts e) : NoRefusal e := by
  cases e with
  | ehbp message =>
    obtain ⟨text, member, cause, same⟩ := begins
    rw [same]
    exact (others text member).append cause
  | _ => trivial

theorem sealErrors_unlike : ∀ text ∈ sealErrors, Unlike text := by decide

theorem deriveErrors_unlike : ∀ text ∈ deriveErrors, Unlike text := by decide

theorem receive_noRefusal (session : ResponseSession) (response : Response) :
    Fails NoRefusal (receive crates session response) := by
  unfold receive
  split
  · split
    · apply Fails.error
      show Unlike _
      decide
    · exact .error trivial
  · apply Fails.bindMapError
    · intro cause
      have begins : Unlike "response nonce is not hex: " := by decide
      exact begins.append cause
    · intro nonce
      apply Fails.bind
      · exact (opener_errors _ _ _).weaken fun _ => noRefusal_of_begins deriveErrors_unlike
      · intro opener
        exact .ok _

/-- Behind the guard nothing refuses a URL. -/
theorem sealRequest_noRefusal {client : PpqClient} {url : String} (allows : client.Allows url)
    (entropy : crates.Entropy) (plaintext : Bytes) (headers : HeaderMap) :
    Fails NoRefusal (sealRequest crates client entropy url plaintext headers) := by
  unfold sealRequest
  simp only
  rw [if_neg (PpqClient.allows_iff.mp allows)]
  apply Fails.bind
  · exact (sealBody_errors _ _ _ _).weaken fun _ => noRefusal_of_begins sealErrors_unlike
  · intro isSealed
    split
    · exact .error trivial
    · exact .ok _

theorem sealAndSend_noRefusal {client : PpqClient} {url : String} (allows : client.Allows url)
    (upstream : Upstream crates) (plaintext : Bytes) (headers : HeaderMap) :
    Fails NoRefusal (sealAndSend crates client upstream url plaintext headers) := by
  unfold sealAndSend
  apply Fails.bind (sealRequest_noRefusal allows _ _ _)
  intro made
  apply Fails.bindMapError
  · intro cause
    exact trivial
  · intro response
    exact receive_noRefusal _ _

/-- What is not refused is on the origin of the base URL, and so is every request that is put
together; the two transports' own URLs are not refused. -/
theorem origin_kept (crates : Crates) (client : PpqClient) (base : Url)
    (parsed : Url.parse client.baseUrl.toList = some base) (isBase : base.IsBase) :
    (∀ upstream url plaintext headers,
      sealAndSend crates client upstream url plaintext headers ≠ .error (refusal client url) →
      ∃ rest, Url.parse url.toList = some { base with rest }) ∧
    (∀ entropy url plaintext headers request session,
      sealRequest crates client entropy url plaintext headers = .ok (request, session) →
      ∃ rest, Url.parse request.url.toList = some { base with rest }) ∧
    ∀ path ∈ [CHAT_COMPLETIONS_PATH, RIG_BASE_PATH ++ "/chat/completions"],
      ∀ upstream plaintext headers,
        sealAndSend crates client upstream (client.baseUrl ++ path) plaintext headers ≠
          .error (refusal client (client.baseUrl ++ path)) := by
  refine ⟨?_, ?_, ?_⟩
  · intro upstream url plaintext headers passes
    apply same_origin parsed isBase
    by_contra outside
    apply passes
    unfold sealAndSend
    rw [sealRequest_refuses outside, error_bind]
  · intro entropy url plaintext headers request session made
    obtain ⟨allows, _, _, _, _, _, _, _, same⟩ := sealRequest_ok.mp made
    rw [same]
    exact same_origin parsed isBase allows
  · intro path member upstream plaintext headers refused
    have slash : path.toList.head? = some '/' := by
      simp only [List.mem_cons, List.not_mem_nil, or_false] at member
      rcases member with json | rig
      · rw [json]
        decide
      · rw [rig]
        decide
    have allows := baseUrl_allows client slash
    exact not_noRefusal client _ (sealAndSend_noRefusal allows upstream plaintext headers _ refused)

theorem origin_kept_plain :
    ∃ request session,
      sealRequest plainCrates plainClient () "https://a.b/private/v1/chat/completions" [] [] =
        .ok (request, session) ∧
      ∃ rest, Url.parse request.url.toList = some ⟨"https".toList, "a.b".toList, rest⟩ := by
  have kept := (origin_kept plainCrates plainClient ⟨"https".toList, "a.b".toList, []⟩ rfl
    ⟨by decide, .inl rfl⟩).2.1
  have made : ∃ result, sealRequest plainCrates plainClient ()
      "https://a.b/private/v1/chat/completions" [] [] = .ok result := ⟨_, rfl⟩
  obtain ⟨⟨request, session⟩, made⟩ := made
  exact ⟨request, session, made, kept () _ [] [] request session made⟩

end PpqTee.Client
