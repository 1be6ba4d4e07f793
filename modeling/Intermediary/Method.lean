import Intermediary.Message.Error

/-!
# Request methods

The methods that have a meaning of their own, and every other token.
-/

namespace Intermediary

inductive Method where
  | get
  | head
  | post
  | put
  | delete
  | options
  | trace
  | patch
  | connect
  | extension (token : String)
  deriving DecidableEq, Repr

namespace Method

def token : Method -> String
  | .get => "GET"
  | .head => "HEAD"
  | .post => "POST"
  | .put => "PUT"
  | .delete => "DELETE"
  | .options => "OPTIONS"
  | .trace => "TRACE"
  | .patch => "PATCH"
  | .connect => "CONNECT"
  | .extension name => name

def known : List Method :=
  [.get, .head, .post, .put, .delete, .options, .trace, .patch, .connect]

def isTokenChar (c : Char) : Bool :=
  c.isAlphanum || "!#$%&'*+-.^_\x60|~".toList.contains c

def ofToken (word : String) : Except MessageError Method :=
  match known.find? (·.token == word) with
  | some method => .ok method
  | none =>
      if word ≠ "" ∧ word.toList.all isTokenChar then .ok (.extension word)
      else .error (.malformed (.method word))

def isExtension : Method -> Bool
  | .extension _ => true
  | _ => false

end Method

end Intermediary
