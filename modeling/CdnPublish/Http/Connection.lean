import CdnPublish.Gateway
import CdnPublish.Http.Exchange
import CdnPublish.Http.Pem
import CdnPublish.Settings
import CdnPublish.Wire

/-!
# The gateway over HTTP

A connection knows where the gateway and its store are. It answers the questions of a workflow by
exchanges: each question is one request, and the answer is read from the reply. Links that the
gateway has handed out are resolved against the base URL and otherwise used as they are.
-/

namespace CdnPublish

namespace Http

/-- A gateway that can be addressed. -/
structure Connection where
  base : Url
  gwUrl : String
  uploadUrl : String
  deriving Repr

/-- The wording for a body that is not what was asked for. -/
def malformedBody : String := "the body is not the expected JSON"

/-- The wording for a file that does not hold what it should. -/
def malformedPem : String := "no usable certificate or key in PEM form"

/-- The bytes of a file of credentials. -/
def credentialFile (tree : FileTree) (path : LocalPath) : Except SyncFault Bytes :=
  (tree.read path).mapError fun cause => .ofLocal (.unreadable path cause)

/-- The fault of a file of credentials whose content is of no use. -/
def unusable (path : LocalPath) : SyncFault :=
  .tls s!"{path.shown}: {malformedPem}"

/-- Checks that a client certificate and its key can be used. -/
def checkIdentity (tree : FileTree) (cert key : LocalPath) : Except SyncFault Unit := do
  let certificate ← credentialFile tree cert
  let privateKey ← credentialFile tree key
  if Pem.hasPrivateKey privateKey && Pem.hasCertificate certificate then return ()
  else throw (unusable cert)

/-- Checks that a bundle of authorities can be used. -/
def checkAuthorities (tree : FileTree) (bundle : LocalPath) : Except SyncFault Unit := do
  if Pem.hasCertificate (← credentialFile tree bundle) then return ()
  else throw (unusable bundle)

namespace Connection

/-- The connection that settings describe, once all credentials have been checked. -/
def ofSettings (tree : FileTree) (settings : Settings) : Except SyncFault Connection := do
  let base ← (Url.parse (settings.gwUrl ++ "/")).mapError (.invalidLink settings.gwUrl)
  match settings.cert, settings.key with
  | some cert, some key => checkIdentity tree cert key
  | _, _ => pure ()
  match settings.caBundle with
  | some bundle => checkAuthorities tree bundle
  | none => pure ()
  return ⟨base, settings.gwUrl, settings.uploadUrl⟩

/-- The URL behind a link of the gateway. -/
def resolve (connection : Connection) (link : String) : Except SyncFault String :=
  match connection.base.join link with
  | .ok url => .ok url.text
  | .error fault => .error (.invalidLink link fault)

/-- The URL of one of the gateway's own paths. -/
def endpoint (connection : Connection) (path : String) : String :=
  connection.gwUrl ++ "/" ++ String.ofList (path.toList.dropWhile (· = '/'))

/-- The URL of a blob. -/
def blobUrl (connection : Connection) (env : String) (key : ContentKey) : String :=
  s!"{connection.uploadUrl}/{env}/{key.text}"

end Connection

/-- A program of exchanges that may end with a fault. -/
abbrev WebWorkflow := ExceptT SyncFault WebProgram

namespace WebWorkflow

/-- Tells one entry. -/
def note (entry : Log.Entry) : WebWorkflow Unit :=
  ExceptT.lift (Program.note entry)

/-- A result that is known without asking. -/
def ofExcept {Result : Type} (result : Except SyncFault Result) : WebWorkflow Result :=
  ExceptT.mk (.done result)

end WebWorkflow

/-- Tells that a request is sent. -/
def noteRequest (method : Method) (url : String) (fields : List (String × String)) :
    WebWorkflow Unit :=
  WebWorkflow.note ⟨.debug, method.word, ("url", url) :: fields⟩

/-- What a gateway says about a refusal. -/
def detailOf? (body : Bytes) : Option String :=
  (Json.Tree.ofReceived? ((Text.decodeLossy body).map some)).bind Wire.detail?

/-- What is told about a refusal. -/
def refusalEntry (url : String) (status : Nat) (detail : String) : Log.Entry :=
  ⟨.error, "gateway error", [("url", url), ("status", toString status), ("detail", detail)]⟩

/-- The fault of a refusal. -/
def refusal {Result : Type} (url : String) (status : Nat) (body : Bytes) : WebWorkflow Result := do
  let detail := detailOf? body
  match detail with
  | some text => WebWorkflow.note (refusalEntry url status text)
  | none => pure ()
  throw (.status url status detail)

/-- The body of the reply to a request, unless it is a refusal. `url` is what the request is called
in faults. -/
def send (url : String) (request : Request) : WebWorkflow Bytes := do
  match ← ExceptT.lift (exchange request) with
  | .lost cause => throw (.transport url cause)
  | .answered status body =>
    if leastRefusal ≤ status then refusal url status body else return body

/-- Reads a body with a reader of records. -/
def decode {Result : Type} (url : String) (read? : Json.Tree → Option Result) (body : Bytes) :
    WebWorkflow Result :=
  match (Json.Tree.ofReceived? (Text.receive body)).bind read? with
  | some result => pure result
  | none => throw (.decode url malformedBody)

/-- The URL with a deadline in its query; one that cannot be read stays as it is. -/
def withDeadline (url : String) : Option String → String
  | none => url
  | some deadline =>
    match Url.parse url with
    | .ok parsed => (parsed.withQueryPair "deadline".toList deadline.toList).text
    | .error _ => url

namespace Connection

variable (connection : Connection)

/-- Creates a publish. -/
def createPublish (env : String) : WebWorkflow Publish := do
  let url := connection.endpoint (env ++ "/publish")
  noteRequest .post url []
  decode url Publish.ofTree? (← send url ⟨.post, url, .nothing⟩)

/-- Adds an item to a publish. -/
def addItem (publish : Publish) (record : ItemRecord) : WebWorkflow Unit := do
  let link ← WebWorkflow.ofExcept (publish.links.require "publish" publish.id "self")
  let url ← WebWorkflow.ofExcept (connection.resolve link)
  noteRequest .put url [("web_uri", record.webUri)]
  let _ ← send url ⟨.put, url, .json (.array [record.toJson])⟩

/-- Commits a publish. -/
def commitPublish (publish : Publish) (deadline : Option String) : WebWorkflow Task := do
  let link ← WebWorkflow.ofExcept (publish.links.require "publish" publish.id "commit")
  let url ← WebWorkflow.ofExcept (connection.resolve link)
  noteRequest .post url []
  decode url Task.ofTree? (← send url ⟨.post, withDeadline url deadline, .nothing⟩)

/-- Gets the task behind a link. -/
def getTask (link : String) : WebWorkflow Task := do
  let url ← WebWorkflow.ofExcept (connection.resolve link)
  noteRequest .get url []
  decode url Task.ofTree? (← send url ⟨.get, url, .nothing⟩)

/-- Flushes paths from the caches. -/
def flushCache (env : String) (paths : List String) : WebWorkflow Task := do
  let url := connection.endpoint (env ++ "/cdn-flush")
  noteRequest .post url [("paths", toString paths.length)]
  let records := paths.map fun path => (⟨path⟩ : FlushRecord).toJson
  decode url Task.ofTree? (← send url ⟨.post, url, .json (.array records)⟩)

/-- Asks who the caller is. -/
def whoami : WebWorkflow Json := do
  let url := connection.endpoint "whoami"
  decode url Json.Tree.value? (← send url ⟨.get, url, .nothing⟩)

/-- Asks whether the store has a blob. -/
def blobExists (env : String) (key : ContentKey) : WebWorkflow Bool := do
  let url := connection.blobUrl env key
  match ← ExceptT.lift (exchange ⟨.head, url, .nothing⟩) with
  | .lost cause => throw (.transport url cause)
  | .answered status body =>
    if status = missing then return false
    else if leastRefusal ≤ status then refusal url status body
    else return true

/-- Stores a blob. -/
def putBlob (env : String) (key : ContentKey) (source : FileTree.Opened) : WebWorkflow Unit := do
  let url := connection.blobUrl env key
  noteRequest .put url []
  let _ ← send url ⟨.put, url, .octets source⟩

/-- Answers a question of a workflow by exchanges. -/
def answer : (question : CdnPublish.Question) → WebProgram question.Answer
  | .createPublish env => (connection.createPublish env).run
  | .addItem publish record => (connection.addItem publish record).run
  | .commitPublish publish deadline => (connection.commitPublish publish deadline).run
  | .getTask link => (connection.getTask link).run
  | .flushCache env paths => (connection.flushCache env paths).run
  | .whoami => connection.whoami.run
  | .blobExists env key => (connection.blobExists env key).run
  | .putBlob env key source => (connection.putBlob env key source).run
  | .sleep seconds => Http.sleep seconds
  | .currentDate => Http.currentDate

/-- A program of gateway questions as a program of exchanges. -/
def carry {Result : Type} (program : GatewayProgram Result) : WebProgram Result :=
  program.answeredBy connection.answer

end Connection

end Http

end CdnPublish
