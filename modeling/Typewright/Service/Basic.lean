/-
Services: the operations of a document, with what they take and what they answer.
-/
import Typewright.Metadata.Basic

namespace Typewright

/-- A method of an operation. -/
inductive Method where
  | get
  | put
  | post
  | delete
  | patch
  | head
  | options
  | trace
deriving Repr, DecidableEq

namespace Method

/-- Every method, in the order in which the operations of a path are listed. -/
def all : List Method := [get, put, post, delete, patch, head, options, trace]

/-- The name of a method. -/
def name : Method → String
  | get => "get"
  | put => "put"
  | post => "post"
  | delete => "delete"
  | patch => "patch"
  | head => "head"
  | options => "options"
  | trace => "trace"

/-- The name of a method in capitals. -/
def capitals (m : Method) : String := Text.upper m.name

/-- Whether a method changes nothing. -/
def isSafe : Method → Bool
  | get | head | options | trace => true
  | _ => false

/-- Whether a method can be repeated without further effect. -/
def isIdempotent : Method → Bool
  | put | delete => true
  | m => m.isSafe

end Method

/-- What an operation is meant to do. -/
inductive Intent where
  | query
  | create
  | update
  | delete
  | custom
deriving Repr, DecidableEq

/-- The name of an intent. -/
def Intent.name : Intent → String
  | query => "query"
  | create => "create"
  | update => "update"
  | delete => "delete"
  | custom => "custom"

/-- The intent of a method. -/
def Method.intent : Method → Intent
  | .get | .head | .options => .query
  | .post => .create
  | .put | .patch => .update
  | .delete => .delete
  | .trace => .custom

/-- Where an operation takes an input from. -/
inductive Place where
  | path
  | query
  | header
  | cookie
  | body
deriving Repr, DecidableEq

namespace Place

/-- The name of a place. -/
def name : Place → String
  | path => "path"
  | query => "query"
  | header => "header"
  | cookie => "cookie"
  | body => "body"

/-- The place that a parameter declares; the body is not one of them. -/
def ofParameter? (v : Value) : Option Place := [path, query, header, cookie].find? (v.isText ·.name)

end Place

/-- What the status of a response means. -/
inductive Outcome where
  | success
  | clientError
  | serverError
  | redirect
  | informational
deriving Repr, DecidableEq

namespace Outcome

/-- The name of an outcome. -/
def name : Outcome → String
  | success => "success"
  | clientError => "client_error"
  | serverError => "server_error"
  | redirect => "redirect"
  | informational => "informational"

/-- The outcome that the first character of a status tells. -/
def ofStatus (status : String) : Outcome :=
  match status.toList with
  | '1' :: _ => informational
  | '2' :: _ => success
  | '3' :: _ => redirect
  | '4' :: _ => clientError
  | _ => serverError

end Outcome

/-- What an operation takes. -/
structure Input where
  name : String
  dataType : DataType
  place : Place
  isRequired : Bool := false
  description : Option String := none
  default : Value := .null

/-- What an operation answers. -/
structure Output where
  name : String
  outcome : Outcome
  dataType : Option DataType := none
  description : Option String := none

/-- An operation. Its path is that of the service with its intent. -/
structure Endpoint where
  name : String
  path : String
  method : Method
  httpPath : Value
  requiresAuthentication : Bool := false
  isDeprecated : Bool := false
  tags : List String := []
  inputs : List Input := []
  outputs : List Output := []
  description : Value := .null

/-- A service. -/
structure Service where
  name : String
  version : String
  description : Option String := none
  endpoints : List Endpoint := []

namespace Service

/-- The endpoint of a path. -/
def endpoint? (s : Service) (path : String) : Option Endpoint :=
  s.endpoints.find? (·.path == path)

/-- The endpoints of an HTTP path. -/
def endpointsAt (s : Service) (httpPath : Value) : List Endpoint :=
  s.endpoints.filter fun e => e.httpPath.sameKey httpPath

end Service

end Typewright
