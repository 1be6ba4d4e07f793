import Intermediary.Request

/-!
# Forwarding fields

A request that is passed on names its client at the end of a list in its
header.  A client that already stands in that list has sent it in a circle.
-/

namespace Intermediary

namespace Forwarding

def forwardedFor : String := "X-Forwarded-For"

/-- The field that tells how the first client made the request. -/
def forwardedProto : String := "X-Forwarded-Proto"

/-- Whether the client of a request is already listed in it. -/
def containsLoop (request : Request) : Bool :=
  (request.header.items forwardedFor).contains request.client

theorem containsLoop_iff (request : Request) :
    containsLoop request = true ↔ request.client ∈ request.header.items forwardedFor :=
  List.contains_iff_mem

def addFields (client : String) (header : Header) : Header :=
  (header.set forwardedProto "http").append forwardedFor client

def mark (request : Request) : Request :=
  { request with header := addFields request.client request.header }

/-- A request as it is sent on: marked, and with the host that was resolved. -/
def augment (request : Request) : Request :=
  let marked := mark request
  { marked with header := marked.header.set hostField request.hostHeader }

end Forwarding

end Intermediary
