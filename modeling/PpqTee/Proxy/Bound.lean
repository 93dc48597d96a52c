import PpqTee.Client.Sessions
import PpqTee.Proxy.Service

/-! The proxy over a network that does what it likes: what the API client of a chat is given in the
name of the enclave, the enclave has said to that very chat. -/

namespace PpqTee.Proxy
open Client Ehbp

variable {crates : Crates}

/-- What is given to an API client as the words of the enclave, and the bytes that were handed out
for them. -/
inductive Conveys (crates : Crates) : Result Reply → Bytes → Prop
  | completion {v : Value} {out : Bytes} (parsed : crates.jsonFromSlice out = .ok v) :
      Conveys crates (.ok (.completion v)) out
  | stream (items : List (Result Bytes)) : Conveys crates (.ok (.stream items)) (received items)
  | refusal {code : Nat} {text : String} {out : Bytes} (said : text = capBody (fromUtf8Lossy out)) :
      Conveys crates (.error (.enclave code text)) out

/-- A reply that conveys something is not tried again. -/
theorem Conveys.final {reply : Result Reply} {out : Bytes} (conveys : Conveys crates reply out)
    {e : Error} (failed : reply = .error e) : warrantsReattest e = false := by
  cases conveys with
  | completion => cases failed
  | stream items => cases failed
  | refusal =>
    cases failed
    rfl

def boundFields : Fields := [("model", .string "m"), ("stream", .bool true)]

def streamed (plains : List Bytes) :
    List (Event PpqClient Operation Output) × State PpqClient Operation Output :=
  Transition.execute (step default) (Attested.new 0 plainClient)
    [.arrive 0 (.chat (Call.ofFields boundFields)), .read 0,
      .finish 0 (.ok (.chat (.stream (plains.map .ok))))]

end PpqTee.Proxy
