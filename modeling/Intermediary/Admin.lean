import Intermediary.Admin.CeilingBody
import Intermediary.Cache
import Intermediary.MediaType
import Intermediary.Tracker

/-!
# The administration interface

Four routes show what the proxy does and change its cache.  Whoever asks must
hold the key; a request without it is refused before anything else about it is
looked at.
-/

namespace Intermediary

open Text

structure AdminRequest where
  method : Method
  /-- The path, with a query behind it if there is one. -/
  target : String
  header : List (String × Bytes)
  body : Bytes
  deriving DecidableEq, Repr

namespace AdminRequest

def field? (request : AdminRequest) (name : String) : Option Bytes :=
  (request.header.find? fun (other, _) => sameIgnoringCase other name).map
    Prod.snd

def isPlain (b : UInt8) : Bool :=
  (0x20 ≤ b && b < 0x7F) || b == 0x09

/-- The first value of a field, if it is plain text. -/
def text? (request : AdminRequest) (name : String) : Option String :=
  (request.field? name).bind fun value =>
    if value.all isPlain then Bytes.text? value else none

def path (request : AdminRequest) : String :=
  String.ofList (request.target.toList.takeWhile fun c => c ≠ '?' ∧ c ≠ '#')

def announcesJson (request : AdminRequest) : Bool :=
  ((request.text? "content-type").bind MediaType.ofText?).any MediaType.isJson

end AdminRequest

inductive AdminRoute where
  | status
  | cache
  | clear
  | ceiling
  deriving DecidableEq, Repr

namespace AdminRoute

def all : List AdminRoute := [.status, .cache, .clear, .ceiling]

def path : AdminRoute -> String
  | .status => "/admin/status"
  | .cache => "/admin/cache"
  | .clear => "/admin/cache/clear"
  | .ceiling => "/admin/cache/max-age"

def methods : AdminRoute -> List Method
  | .status | .cache => [.get, .head]
  | .clear => [.post]
  | .ceiling => [.put]

def ofPath? (path : String) : Option AdminRoute :=
  all.find? (·.path == path)

/-- The methods that a route takes, as they are told to whoever used another. -/
def allow (route : AdminRoute) : String :=
  ",".intercalate (route.methods.map Method.token)

end AdminRoute

inductive AdminReport where
  | status (connections : Nat)
  | cache (entries : Nat) (ceiling : Option Nat)
  | cleared (entries : Nat)
  deriving DecidableEq, Repr

structure AdminReply where
  status : Status
  report : Option AdminReport
  /-- The methods that would have been taken. -/
  allow : Option String
  deriving DecidableEq, Repr

namespace Status

def unauthorized : Status := ⟨401⟩
def notFound : Status := ⟨404⟩
def payloadTooLarge : Status := ⟨413⟩
def unsupportedMediaType : Status := ⟨415⟩
def unprocessable : Status := ⟨422⟩

end Status

structure Admin where
  key : String
  cache : Cache
  tracker : Tracker
  deriving DecidableEq, Repr

namespace Admin

def version : String := "0.1.0"

def operational : String := "operational"

def scheme : String := "Bearer "

/-- The longest body that is read, in bytes. -/
def bodyLimit : Nat := 2097152

def isAuthorized (admin : Admin) (request : AdminRequest) : Bool :=
  request.text? "authorization" == some (scheme ++ admin.key)

def reporting (report : AdminReport) : AdminReply :=
  ⟨.ok, some report, none⟩

def refusing (status : Status) : AdminReply :=
  ⟨status, none, none⟩

def cacheReport (cache : Cache) : AdminReport :=
  .cache cache.size cache.ceiling

def faultStatus : BodyFault -> Status
  | .malformed => .badRequest
  | .unsuitable => .unprocessable

/-- Bound the lifetime of what is stored from now on, as a body says. -/
def setCeiling (admin : Admin) (request : AdminRequest) :
    AdminReply × Admin :=
  if ! request.announcesJson then (refusing .unsupportedMediaType, admin)
  else if bodyLimit < request.body.length then
    (refusing .payloadTooLarge, admin)
  else
    match CeilingBody.read request.body with
    | .error fault => (refusing (faultStatus fault), admin)
    | .ok seconds =>
        let changed := { admin with cache := admin.cache.setCeiling seconds }
        (reporting (cacheReport changed.cache), changed)

def perform (admin : Admin) (request : AdminRequest) :
    AdminRoute -> AdminReply × Admin
  | .status => (reporting (.status admin.tracker.active), admin)
  | .cache => (reporting (cacheReport admin.cache), admin)
  | .clear =>
      (reporting (.cleared admin.cache.size),
        { admin with cache := admin.cache.clear.1 })
  | .ceiling => admin.setCeiling request

/-- Do what a route is for, if it takes the method. -/
def dispatch (admin : Admin) (request : AdminRequest) :
    AdminReply × Admin :=
  match AdminRoute.ofPath? request.path with
  | none => (refusing .notFound, admin)
  | some route =>
      if route.methods.contains request.method then
        admin.perform request route
      else (refusing .methodNotAllowed, admin)

/-- The methods to be told to whoever used another on a route. -/
def allow? (request : AdminRequest) : Option String :=
  match AdminRoute.ofPath? request.path with
  | none => none
  | some route =>
      if route.methods.contains request.method then none else some route.allow

/-- The answer without what a request of its method does not get. -/
def trimmed (request : AdminRequest) (reply : AdminReply) : AdminReply :=
  { reply with
    report := if request.method = .head then none else reply.report
    allow := allow? request }

def answer (admin : Admin) (request : AdminRequest) : AdminReply × Admin :=
  if admin.isAuthorized request then
    let (reply, after) := admin.dispatch request
    (trimmed request reply, after)
  else (trimmed request (refusing .unauthorized), admin)

end Admin

end Intermediary
