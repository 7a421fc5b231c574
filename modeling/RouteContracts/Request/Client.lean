import RouteContracts.Request.Outgoing

/-! # Clients
A client hands requests to a transport. What the transport does is its own affair; a request is prepared first, and one
that cannot be prepared never gets to it.

* `Client.send`: prepares a request and sends it. -/

namespace RouteContracts

/-- A transport, with effects and responses of its own, and the base of all URLs. -/
structure Client (μ : Type → Type) (ρ : Type) where
  /-- What is done with a request: there is a response, or the text of a failure. -/
  transport : Outgoing → μ (Except String ρ)
  /-- What stands in front of every path. -/
  base : String

namespace Client

variable {μ : Type → Type} [Monad μ] {ρ : Type}

/-- **Sends a request**: the transport of what `Outgoing.prepare` gives, unless that fails. -/
def send (client : Client μ ρ) (method : Method) (pattern : String) (options : RequestOptions) :
    μ (Except RequestError ρ × List Notice) :=
  match Outgoing.prepare client.base method pattern options with
  | .error why => pure (.error why, [])
  | .ok (request, notices) => do
    match ← client.transport request with
    | .ok response => pure (.ok response, notices)
    | .error why => pure (.error (.transport why), notices)

end Client

end RouteContracts
