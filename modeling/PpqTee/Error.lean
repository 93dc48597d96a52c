import Mathlib.Algebra.Group.Nat.Defs
import Mathlib.Data.List.Basic

/-! The failure modes of the crate. Errors of other crates are kept as the one thing the
code ever takes from them, their message. -/

namespace PpqTee

abbrev Bytes := List UInt8

/-- The UTF-8 bytes of a string, `as_bytes` of the source. -/
def utf8 (text : String) : Bytes := text.toByteArray.data.toList

/-- Times and durations are numbers of nanoseconds. -/
def Duration.fromSecs (secs : Nat) : Nat := secs * 10 ^ 9

structure ReqwestError where
  message : String
  deriving DecidableEq, Repr

structure JsonError where
  message : String
  deriving DecidableEq, Repr

inductive Error where
  | http (e : ReqwestError)
  | json (e : JsonError)
  | attestation (message : String)
  | ehbp (message : String)
  | unauthenticatedUpstream (status : Nat) (body : String)
  | enclave (status : Nat) (body : String)
  | invalidModelId (id : String)
  deriving DecidableEq, Repr

abbrev Result (α : Type) := Except Error α

/-- `http::StatusCode`: a number of three digits. -/
structure StatusCode where
  code : Nat
  threeDigits : 100 ≤ code ∧ code < 1000
  deriving DecidableEq, Repr

namespace StatusCode

def OK : StatusCode := ⟨200, by decide⟩
def BAD_REQUEST : StatusCode := ⟨400, by decide⟩
def NOT_FOUND : StatusCode := ⟨404, by decide⟩
def PAYLOAD_TOO_LARGE : StatusCode := ⟨413, by decide⟩
def BAD_GATEWAY : StatusCode := ⟨502, by decide⟩
def SERVICE_UNAVAILABLE : StatusCode := ⟨503, by decide⟩

def isSuccess (status : StatusCode) : Bool := 200 ≤ status.code && status.code < 300

def fromU16 (code : Nat) : Option StatusCode :=
  if threeDigits : 100 ≤ code ∧ code < 1000 then some ⟨code, threeDigits⟩ else none

theorem code_of_fromU16 {code : Nat} {status : StatusCode} (read : fromU16 code = some status) :
    status.code = code := by
  unfold fromU16 at read
  split at read
  · cases read
    rfl
  · cases read

theorem fromU16_code (status : StatusCode) : fromU16 status.code = some status := by
  unfold fromU16
  rw [dif_pos status.threeDigits]

end StatusCode

def ensure (holds : Prop) [Decidable holds] (e : Error) : Result Unit :=
  if holds then .ok () else .error e

theorem ensure_ok {holds : Prop} [Decidable holds] {e : Error} {u : Unit} :
    ensure holds e = .ok u ↔ holds := by
  unfold ensure
  by_cases held : holds <;> simp [held]

/-- `Option::ok_or_else`. -/
def okOr {α : Type} (found : Option α) (e : Error) : Result α :=
  match found with
  | some a => .ok a
  | none => .error e

theorem okOr_ok {α : Type} {found : Option α} {e : Error} {a : α} :
    okOr found e = .ok a ↔ found = some a := by
  cases found <;> simp [okOr]

/-- What a chain of `?` that succeeded went through. -/
theorem bind_ok {ε α β : Type} {first : Except ε α} {next : α → Except ε β} {b : β} :
    (first >>= next) = .ok b ↔ ∃ a, first = .ok a ∧ next a = .ok b := by
  cases first <;> simp [bind, Except.bind]

theorem mapError_ok {α ε ε' : Type} {first : Except ε α} {f : ε → ε'} {a : α} :
    first.mapError f = .ok a ↔ first = .ok a := by
  cases first <;> simp [Except.mapError]

theorem toOption_ok {α ε : Type} {result : Except ε α} {a : α} :
    result.toOption = some a ↔ result = .ok a := by
  cases result <;> simp [Except.toOption]

theorem map_ok {α β : Type} {result : Result α} {f : α → β} {b : β} :
    result.map f = .ok b ↔ ∃ a, result = .ok a ∧ f a = b := by
  cases result <;> simp [Except.map]

theorem ok_bind {ε α β : Type} (a : α) (next : α → Except ε β) :
    (Except.ok a >>= next) = next a := rfl

theorem error_bind {ε α β : Type} (e : ε) (next : α → Except ε β) :
    (Except.error e >>= next) = .error e := rfl

theorem bind_map {α β γ : Type} (first : Result α) (next : α → Result β) (f : β → γ) :
    (first >>= next).map f = first >>= fun a => (next a).map f := by
  cases first <;> rfl

theorem map_mapError {α β ε : Type} (result : Except ε α) (wrap : ε → Error) (f : α → β) :
    (result.mapError wrap).map f = result.mapError wrap >>= fun a => .ok (f a) := by
  cases result <;> rfl

/-- Whatever this fails with, it is one of the errors allowed. -/
def Fails {α : Type} (allowed : Error → Prop) (result : Result α) : Prop :=
  ∀ e, result = .error e → allowed e

namespace Fails

variable {α β ε : Type} {allowed : Error → Prop} {e : Error}

theorem ok (a : α) : Fails allowed (.ok a) := by
  intro e failed
  cases failed

theorem error (fine : allowed e) : Fails allowed (.error e : Result α) := by
  intro e failed
  cases failed
  exact fine

theorem bindOf {first : Result α} {next : α → Result β} (fails : Fails allowed first)
    (later : ∀ a, first = .ok a → Fails allowed (next a)) : Fails allowed (first >>= next) := by
  intro e failed
  cases first with
  | error cause =>
    cases failed
    exact fails e rfl
  | ok a => exact later a rfl e failed

theorem bind {first : Result α} {next : α → Result β} (fails : Fails allowed first)
    (later : ∀ a, Fails allowed (next a)) : Fails allowed (first >>= next) :=
  fails.bindOf fun a _ => later a

theorem map {result : Result α} (fails : Fails allowed result) (f : α → β) :
    Fails allowed (result.map f) := by
  cases result with
  | ok a => exact .ok (f a)
  | error e => exact .error (fails e rfl)

theorem mapError {first : Except ε α} {f : ε → Error} (fine : ∀ cause, allowed (f cause)) :
    Fails allowed (first.mapError f) := by
  cases first with
  | error cause => exact error (fine cause)
  | ok a => exact ok a

theorem ensure {holds : Prop} [Decidable holds] (fine : allowed e) :
    Fails allowed (ensure holds e) := by
  unfold PpqTee.ensure
  by_cases held : holds
  · rw [if_pos held]
    exact ok ()
  · rw [if_neg held]
    exact error fine

theorem okOr {found : Option α} (fine : allowed e) : Fails allowed (okOr found e) := by
  cases found with
  | none => exact error fine
  | some a => exact ok a

theorem bindMapError {first : Except ε α} {f : ε → Error} {next : α → Result β}
    (fine : ∀ cause, allowed (f cause)) (later : ∀ a, Fails allowed (next a)) :
    Fails allowed (first.mapError f >>= next) :=
  (mapError fine).bind later

theorem bindEnsure {holds : Prop} [Decidable holds] {next : Unit → Result β} (fine : allowed e)
    (later : Fails allowed (next ())) : Fails allowed (PpqTee.ensure holds e >>= next) :=
  (ensure fine).bind fun _ => later

theorem bindOkOr {found : Option α} {next : α → Result β} (fine : allowed e)
    (later : ∀ a, Fails allowed (next a)) : Fails allowed (PpqTee.okOr found e >>= next) :=
  (okOr fine).bind later

theorem weaken {allowed' : Error → Prop} {result : Result α} (fails : Fails allowed result)
    (wider : ∀ e, allowed e → allowed' e) : Fails allowed' result :=
  fun e failed => wider e (fails e failed)

end Fails

def IsAttestation : Error → Prop
  | .attestation _ => True
  | _ => False

/-- An error that is not answered with a success status. -/
def NoSuccess : Error → Prop
  | .enclave status _ => ¬ (200 ≤ status ∧ status < 300)
  | _ => True

/-- An EHBP error that begins with one of these texts, with a cause behind it or nothing. -/
def BeginsWith (texts : List String) : Error → Prop
  | .ehbp message => ∃ text ∈ texts, ∃ cause, message = text ++ cause
  | _ => False

namespace BeginsWith

variable {texts : List String} {text : String}

theorem literal (member : text ∈ texts) : BeginsWith texts (.ehbp text) :=
  ⟨text, member, "", String.append_empty.symm⟩

theorem caused (member : text ∈ texts) (cause : String) :
    BeginsWith texts (.ehbp (text ++ cause)) :=
  ⟨text, member, cause, rfl⟩

theorem noSuccess {e : Error} (begins : BeginsWith texts e) : NoSuccess e := by
  cases e with
  | enclave status body => cases begins
  | _ => trivial

end BeginsWith

end PpqTee
