import PpqTee.Client.Fetch
import PpqTee.Client.Redirects
import PpqTee.Proxy.Service

/-! Where the clients of a run come from, and so to whom its requests are sealed. -/

namespace PpqTee.Proxy
open Client

section Clients

variable {C B T : Type} {policy : ReattestPolicy}

/-- The client of the start, or one that an attestation of the run has made. -/
inductive Lineage (now : Nat) (client : C) (trace : List (Event C B T)) : Cached C → Prop
  | first : Lineage now client trace ⟨now, ⟨0, client⟩⟩
  | attested {m : State C B T} {i : Nat} {value : C} : (m, .attested i (.ok value)) ∈ trace →
      Lineage now client trace ⟨m.now, ⟨m.minted, value⟩⟩

theorem Lineage.snoc {now : Nat} {client : C} {trace : List (Event C B T)} {cached : Cached C}
    (lineage : Lineage now client trace cached) (event : Event C B T) :
    Lineage now client (trace ++ [event]) cached := by
  cases lineage with
  | first => exact .first
  | attested member => exact .attested (List.mem_append_left _ member)

/-- Every client that can still be used has its lineage: that in the slot, and those that requests
hold. -/
structure Descended (now : Nat) (client : C) (trace : List (Event C B T)) (s : State C B T) :
    Prop where
  slot : ∀ cached, s.slot = some cached → Lineage now client trace cached
  held : ∀ i cached, (s.tasks i).held = some cached → Lineage now client trace cached

theorem Descended.snoc {now : Nat} {client : C} {trace : List (Event C B T)} {s : State C B T}
    (descended : Descended now client trace s) (event : Event C B T) :
    Descended now client (trace ++ [event]) s where
  slot cached current := (descended.slot cached current).snoc event
  held i cached holds := (descended.held i cached holds).snoc event

/-- A request comes to hold a client that has its lineage, and nothing is put into the slot. -/
theorem Descended.set {now : Nat} {client : C} {trace : List (Event C B T)} {s s' : State C B T}
    (descended : Descended now client trace s) (i : Nat) (t : Task C B T)
    (tasks : s'.tasks = (s.set i t).tasks)
    (slot : ∀ cached, s'.slot = some cached → s.slot = some cached)
    (held : ∀ cached, t.held = some cached → Lineage now client trace cached) :
    Descended now client trace s' where
  slot cached current := descended.slot cached (slot cached current)
  held j cached holds := by
    rw [tasks] at holds
    by_cases here : j = i
    · rw [here, set_same] at holds
      exact held cached holds
    · rw [set_other s t here] at holds
      exact descended.held j cached holds

end Clients

def Call.sealCall (crates : Crates) (client : PpqClient) : Call → Result SealCall
  | .completion body => jsonCall crates client body false
  | .stream body => jsonCall crates client body true

section Runs

variable {crates : Crates} {catalogueFromStr : String → Except JsonError (List Value)}
  {attester : Builder} {policy : ReattestPolicy} {now : Nat} {client : PpqClient}
  {trace : List (Event PpqClient Operation Output)} {s : State PpqClient Operation Output}

section Reads

variable {reqwest : Reqwest} {client : PpqClient} {entropy : crates.Entropy} {wire other : Wire}

end Reads

end Runs

end PpqTee.Proxy
