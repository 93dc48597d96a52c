import PpqTee.Client.Backend
import PpqTee.Client.Catalogue

/-! What leaves: the requests that a client sends, and those that `reqwest` makes of them when it is
redirected. -/

namespace PpqTee.Client
open Ehbp

/-- A request on the wire, but for the headers that `reqwest` puts into all of them. -/
structure Hop where
  method : String
  url : String
  headers : HeaderMap
  body : Bytes

/-- What a network answers to the n-th request of one `send`. -/
abbrev Wire := (n : Nat) → Hop → Except ReqwestError Response

/-- `reqwest`: all that a `send` comes to over a network, and the errors it makes of a token that is
no header value and of a status from 400 on. -/
structure Reqwest where
  execute : Wire → Hop → Except ReqwestError Response
  invalidBearer : ReqwestError
  statusError : (url : String) → StatusCode → ReqwestError

def Request.hop (request : Request) : Hop :=
  ⟨"POST", request.url, request.headers, request.body⟩

def modelsHop (url : String) (bearer : Bytes) : Hop := ⟨"GET", url, [("authorization", bearer)], []⟩

variable {crates : Crates}

def Reqwest.upstream (reqwest : Reqwest) (entropy : crates.Entropy) (wire : Wire) :
    Upstream crates where
  entropy := entropy
  send request := reqwest.execute wire request.hop

def Reqwest.listing (reqwest : Reqwest) (wire : Wire) : Listing where
  get url bearer := reqwest.execute wire (modelsHop url bearer)
  invalidBearer := reqwest.invalidBearer
  statusError := reqwest.statusError

variable {reqwest : Reqwest} {client : PpqClient} {entropy : crates.Entropy} {wire other : Wire}

def gone : Response := ⟨.NOT_FOUND, [], [.ok (utf8 "gone")]⟩

end PpqTee.Client
