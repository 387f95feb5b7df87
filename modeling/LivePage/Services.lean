/-
The services that the parts of a running program share: one client for
requests, and one loader. Every editor has a playground of its own.

* `Services.ofSettings`, `Services.shutdown`: their beginning and end;
* `Services.playground`: a fresh playground on them.
-/
import LivePage.Playground

namespace LivePage

/-- The client that sends requests. -/
structure Client where
  /-- How long a request may take, in seconds. -/
  timeout : Double
  closed : Bool

structure Services where
  settings : Settings
  client : Client
  loader : Loader

namespace Services

def ofSettings (settings : Settings) : Services where
  settings := settings
  client := ⟨settings.httpTimeout, false⟩
  loader := .ofSettings settings

/-- Ends the services: the client is closed. -/
def shutdown (s : Services) : Services := { s with client := { s.client with closed := true } }

/-- A fresh playground, which loads with the shared loader. -/
def playground (s : Services) (network : List Delivery) : Playground :=
  .ofLoader s.loader network

end Services

end LivePage
