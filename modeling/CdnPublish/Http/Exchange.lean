import CdnPublish.FileTree
import CdnPublish.Json.Basic
import CdnPublish.Program
import CdnPublish.Url.Parser

/-!
# Exchanges

One request and what comes of it. Whoever carries requests is told the method, the URL and the body,
and reports an answer with a status and a body, or that no answer came. A `WebProgram` is a program
of such exchanges.
-/

namespace CdnPublish.Http

/-- The method of a request. -/
inductive Method where
  | get
  | head
  | post
  | put
  deriving DecidableEq, Repr

/-- A method as it is sent. -/
def Method.word : Method → String
  | .get => "GET"
  | .head => "HEAD"
  | .post => "POST"
  | .put => "PUT"

/-- What a request carries. -/
inductive Body where
  | nothing
  | json (value : Json)
  | octets (content : FileTree.Opened)

/-- The media type of a body. -/
def Body.mediaType? : Body → Option String
  | .nothing => none
  | .json _ => some "application/json"
  | .octets _ => some "application/octet-stream"

/-- A request. -/
structure Request where
  method : Method
  url : String
  body : Body

/-- The name under which requests are sent. -/
def userAgent : String := "exodus/0.1.11"

/-- Where a request goes: a URL of the web's two protocols. Any other request has nowhere to go. -/
def Request.destination? (request : Request) : Option Url :=
  match Url.parse request.url with
  | .ok url =>
    if url.scheme = "http".toList || url.scheme = "https".toList then some url else none
  | .error _ => none

/-- What a request to a URL asks for: the path and a query that says something. -/
def target (url : Url) : String :=
  match url.query with
  | none => String.ofList url.path.text
  | some [] => String.ofList url.path.text
  | some query => String.ofList (url.path.text ++ '?' :: query)

/-- What came of a request. -/
inductive Reply where
  | answered (status : Nat) (body : Bytes)
  | lost (cause : String)
  deriving DecidableEq, Repr

/-- The least status that is a refusal. -/
def leastRefusal : Nat := 400

/-- The status of a resource that is not there. -/
def missing : Nat := 404

/-- One question to the surroundings of a program of exchanges. -/
inductive Question where
  | exchange (request : Request)
  | sleep (seconds : Nat)
  | currentDate

/-- The answers to a question. -/
def Question.Answer : Question → Type
  | .exchange _ => Reply
  | .sleep _ => Unit
  | .currentDate => String

/-- A program of exchanges. -/
abbrev WebProgram := Program Question Question.Answer

/-- Sends a request. -/
def exchange (request : Request) : WebProgram Reply :=
  Program.question (Question.exchange request)

/-- Sleeps. -/
def sleep (seconds : Nat) : WebProgram Unit :=
  Program.question (Question.sleep seconds)

/-- Asks for the current date. -/
def currentDate : WebProgram String :=
  Program.question Question.currentDate

end CdnPublish.Http
