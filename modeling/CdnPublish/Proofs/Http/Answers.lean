import CdnPublish.Http.Connection
import CdnPublish.Proofs.Program.Answered
import CdnPublish.Proofs.Program.Fallible

/-!
# How questions are answered over HTTP

Every question of a workflow is answered by at most one exchange. What is made of the reply is said
once: `received` for the body, `decoded` for a record in it. A question for which a link is missing
or leads nowhere is answered by a fault, without an exchange.
-/

namespace CdnPublish.Http

open Program

/-- One question of a program of exchanges with its answer. -/
abbrev WebTurn := Program.Turn Question Question.Answer

/-- The turn in which a request is sent. -/
def exchangeOf (request : Request) (reply : Reply) : WebTurn :=
  ⟨.exchange request, reply⟩

/-- The method of the request that a turn has sent, if it has sent one. -/
def method? : WebTurn → Option Method
  | ⟨.exchange request, _⟩ => some request.method
  | _ => none

/-- The status of the reply, if there was one. -/
def status? : WebTurn → Option Nat
  | ⟨.exchange _, .answered status _⟩ => some status
  | _ => none

/-- The method by which a question is put to the gateway or its store. -/
def methodOf : CdnPublish.Question → Option Method
  | .createPublish _ => some .post
  | .addItem _ _ => some .put
  | .commitPublish _ _ => some .post
  | .getTask _ => some .get
  | .flushCache _ _ => some .post
  | .whoami => some .get
  | .blobExists _ _ => some .head
  | .putBlob _ _ _ => some .put
  | .sleep _ => none
  | .currentDate => none

/-- The body of a reply, unless the reply was lost or is a refusal. -/
def received (url : String) : Reply → Except SyncFault Bytes
  | .lost cause => .error (.transport url cause)
  | .answered status body =>
    if leastRefusal ≤ status then .error (.status url status (detailOf? body)) else .ok body

/-- The record in a body. -/
def decoded {Result : Type} (url : String) (read? : Json.Tree → Option Result) (body : Bytes) :
    Except SyncFault Result :=
  match (Json.Tree.ofReceived? (Text.receive body)).bind read? with
  | some result => .ok result
  | none => .error (.decode url malformedBody)

/-- The record that a body holds. -/
def recordOf? {Result : Type} (read? : Json.Tree → Option Result) (body : Bytes) : Option Result :=
  (Json.Tree.ofReceived? (Text.receive body)).bind read?

/-- The record that a reply brings, which a refusal never does. -/
def recordIn? {Result : Type} (read? : Json.Tree → Option Result) : Reply → Option Result
  | .lost _ => none
  | .answered status body => if leastRefusal ≤ status then none else recordOf? read? body

/-- The record that a turn has brought. -/
def broughtBy? {Record : Type} (read? : Json.Tree → Option Record) : WebTurn → Option Record
  | ⟨.exchange _, reply⟩ => recordIn? read? reply
  | _ => none

/-- What the reply to a question for a blob says. -/
def present (url : String) : Reply → Except SyncFault Bool
  | .lost cause => .error (.transport url cause)
  | .answered status body =>
    if status = missing then .ok false
    else if leastRefusal ≤ status then .error (.status url status (detailOf? body))
    else .ok true

variable {Result : Type} {url : String} {request : Request} {turns : List WebTurn}

theorem decoded_of_recordOf {read? : Json.Tree → Option Result} {body : Bytes} {record : Result}
    (read : recordOf? read? body = some record) : decoded url read? body = .ok record := by
  unfold decoded
  rw [show (Json.Tree.ofReceived? (Text.receive body)).bind read? = some record from read]

theorem recordIn?_of_tree {read? : Json.Tree → Option Result} {status : Nat} {body : Bytes}
    {tree : Json.Tree} (accepted : status < leastRefusal)
    (received : Json.Tree.ofReceived? (Text.receive body) = some tree) :
    recordIn? read? (.answered status body) = read? tree := by
  rw [recordIn?, if_neg (Nat.not_le.mpr accepted), recordOf?, received]
  rfl

/-- A record is taken from a reply exactly if the reply brings it. -/
theorem received_decoded_eq_ok_iff {read? : Json.Tree → Option Result} {reply : Reply}
    {record : Result} :
    (received url reply >>= decoded url read?) = .ok record ↔
      recordIn? read? reply = some record := by
  cases reply with
  | lost cause =>
      constructor
      · intro taken
        cases taken
      · intro brought
        cases brought
  | answered status body =>
      rw [received, recordIn?]
      by_cases refused : leastRefusal ≤ status
      · rw [if_pos refused, if_pos refused]
        constructor
        · intro taken
          cases taken
        · intro brought
          cases brought
      · rw [if_neg refused, if_neg refused]
        change decoded url read? body = .ok record ↔ _
        constructor
        · intro taken
          unfold decoded at taken
          split at taken
          · rename_i read
            cases taken
            exact read
          · cases taken
        · exact decoded_of_recordOf

theorem runs_noteRequest_bind_iff {method : Method} {fields : List (String × String)}
    {next : Unit → WebWorkflow Result} {ending : Option (Except SyncFault Result)} :
    Runs (noteRequest method url fields >>= next).run turns ending ↔
      Runs (next ()).run turns ending :=
  runs_tell_iff

/-- A refusal is a fault, whether or not the gateway says more about it. -/
theorem runs_refusal_iff {status : Nat} {body : Bytes} {ending : Option (Except SyncFault Result)} :
    Runs (refusal url status body : WebWorkflow Result).run turns ending ↔
      turns = [] ∧ ending = some (.error (.status url status (detailOf? body))) := by
  unfold refusal
  cases detailOf? body with
  | none => exact runs_done_iff
  | some text => exact runs_tell_iff.trans runs_done_iff

/-- An exchange of which the reply alone decides the result. -/
theorem runs_exchange_bind_iff {next : Reply → WebWorkflow Result}
    {judge : Reply → Except SyncFault Result}
    (judged : ∀ reply later ending, Runs (next reply).run later ending ↔
      later = [] ∧ ending = some (judge reply))
    {ending : Option (Except SyncFault Result)} :
    Runs (ExceptT.lift (exchange request) >>= next).run turns ending ↔
      ∃ reply, turns = [exchangeOf request reply] ∧ ending = some (judge reply) := by
  constructor
  · intro run
    rcases runs_ask_iff.mp run with ⟨reply, later, ran, rfl⟩
    rcases (judged reply later ending).mp ran with ⟨rfl, rfl⟩
    exact ⟨reply, rfl, rfl⟩
  · rintro ⟨reply, rfl, rfl⟩
    apply runs_ask_iff.mpr
    exact ⟨reply, [], (judged reply [] _).mpr ⟨rfl, rfl⟩, rfl⟩

theorem runs_send_iff {ending : Option (Except SyncFault Bytes)} :
    Runs (send url request).run turns ending ↔
      ∃ reply, turns = [exchangeOf request reply] ∧ ending = some (received url reply) := by
  apply runs_exchange_bind_iff
  intro reply later ending
  cases reply with
  | lost cause => exact runs_done_iff
  | answered status body =>
      simp only [received]
      split
      · exact runs_refusal_iff
      · exact runs_done_iff

theorem runs_decode_iff {read? : Json.Tree → Option Result} {body : Bytes}
    {ending : Option (Except SyncFault Result)} :
    Runs (decode url read? body).run turns ending ↔
      turns = [] ∧ ending = some (decoded url read? body) := by
  unfold decode decoded
  cases (Json.Tree.ofReceived? (Text.receive body)).bind read? with
  | some result => exact runs_done_iff
  | none => exact runs_done_iff

/-- A request of which only the success counts is one exchange. -/
theorem runs_send_discard_iff {ending : Option (Except SyncFault Unit)} :
    Runs (send url request >>= fun _ => pure ()).run turns ending ↔
      ∃ reply, turns = [exchangeOf request reply] ∧
        ending = some ((received url reply).map fun _ => ()) := by
  rw [runs_run_bind_pure_iff]
  simp only [runs_send_iff]
  constructor
  · rintro ⟨ended, ⟨reply, rfl, rfl⟩, rfl⟩
    exact ⟨reply, rfl, rfl⟩
  · rintro ⟨reply, rfl, rfl⟩
    exact ⟨_, ⟨reply, rfl, rfl⟩, rfl⟩

theorem runs_send_decode_iff {read? : Json.Tree → Option Result}
    {ending : Option (Except SyncFault Result)} :
    Runs (send url request >>= decode url read?).run turns ending ↔
      ∃ reply, turns = [exchangeOf request reply] ∧
        ending = some (received url reply >>= decoded url read?) := by
  rw [runs_run_bind_iff]
  simp only [runs_send_iff, runs_decode_iff]
  constructor
  · rintro (⟨_, body, _, ⟨reply, rfl, taken⟩, ⟨rfl, rfl⟩, rfl⟩ |
      ⟨fault, ⟨reply, rfl, refused⟩, rfl⟩ | ⟨⟨reply, -, never⟩, -⟩)
    · refine ⟨reply, rfl, ?_⟩
      rw [← Option.some.inj taken]
      rfl
    · refine ⟨reply, rfl, ?_⟩
      rw [← Option.some.inj refused]
      rfl
    · cases never
  · rintro ⟨reply, rfl, rfl⟩
    cases taken : received url reply with
    | ok body => exact Or.inl ⟨_, body, [], ⟨reply, rfl, by rw [taken]⟩, ⟨rfl, rfl⟩, rfl⟩
    | error fault => exact Or.inr (Or.inl ⟨fault, ⟨reply, rfl, by rw [taken]⟩, rfl⟩)

/-- Where a link of the gateway leads. -/
def Connection.address (connection : Connection) (links : Links) (object id rel : String) :
    Except SyncFault String := do
  connection.resolve (← links.require object id rel)

variable {connection : Connection}

/-- A link that is missing or leads nowhere keeps a request from being sent. -/
theorem runs_address_bind_iff {links : Links} {object id rel : String}
    {next : String → WebWorkflow Result} {ending : Option (Except SyncFault Result)} :
    Runs (WebWorkflow.ofExcept (links.require object id rel) >>= fun link =>
      WebWorkflow.ofExcept (connection.resolve link) >>= next).run turns ending ↔
      (∃ url, connection.address links object id rel = .ok url ∧ Runs (next url).run turns ending) ∨
      (∃ fault, connection.address links object id rel = .error fault ∧ turns = [] ∧
        ending = some (.error fault)) := by
  unfold Connection.address
  cases links.require object id rel with
  | ok link =>
      change Runs (WebWorkflow.ofExcept (connection.resolve link) >>= next).run turns ending ↔
        (∃ url, connection.resolve link = .ok url ∧ _) ∨
        (∃ fault, connection.resolve link = .error fault ∧ _)
      exact runs_known_bind_iff
  | error fault =>
      refine Iff.trans runs_known_bind_iff ?_
      constructor
      · rintro (⟨link, impossible, -⟩ | ended)
        · cases impossible
        · exact Or.inr ended
      · rintro (⟨url, impossible, -⟩ | ended)
        · cases impossible
        · exact Or.inr ended

namespace Connection

theorem runs_createPublish_iff {env : String} {ending : Option (Except SyncFault Publish)} :
    Runs (connection.createPublish env).run turns ending ↔
      ∃ reply, turns =
          [exchangeOf ⟨.post, connection.endpoint (env ++ "/publish"), .nothing⟩ reply] ∧
        ending = some (received (connection.endpoint (env ++ "/publish")) reply >>=
          decoded (connection.endpoint (env ++ "/publish")) Publish.ofTree?) :=
  runs_noteRequest_bind_iff.trans runs_send_decode_iff

/-- Adding an item is one PUT, if the publish says where. -/
theorem runs_addItem_iff {publish : Publish} {record : ItemRecord}
    {ending : Option (Except SyncFault Unit)} :
    Runs (connection.addItem publish record).run turns ending ↔
      (∃ url, connection.address publish.links "publish" publish.id "self" = .ok url ∧
        ∃ reply, turns = [exchangeOf ⟨.put, url, .json (.array [record.toJson])⟩ reply] ∧
          ending = some ((received url reply).map fun _ => ())) ∨
      (∃ fault, connection.address publish.links "publish" publish.id "self" = .error fault ∧
        turns = [] ∧ ending = some (.error fault)) := by
  refine runs_address_bind_iff.trans ?_
  simp only [runs_noteRequest_bind_iff, runs_send_discard_iff]

theorem runs_commitPublish_iff {publish : Publish} {deadline : Option String}
    {ending : Option (Except SyncFault Task)} :
    Runs (connection.commitPublish publish deadline).run turns ending ↔
      (∃ url, connection.address publish.links "publish" publish.id "commit" = .ok url ∧
        ∃ reply, turns = [exchangeOf ⟨.post, withDeadline url deadline, .nothing⟩ reply] ∧
          ending = some (received url reply >>= decoded url Task.ofTree?)) ∨
      (∃ fault, connection.address publish.links "publish" publish.id "commit" = .error fault ∧
        turns = [] ∧ ending = some (.error fault)) := by
  refine runs_address_bind_iff.trans ?_
  simp only [runs_noteRequest_bind_iff, runs_send_decode_iff]

theorem runs_getTask_iff {link : String} {ending : Option (Except SyncFault Task)} :
    Runs (connection.getTask link).run turns ending ↔
      (∃ url, connection.resolve link = .ok url ∧
        ∃ reply, turns = [exchangeOf ⟨.get, url, .nothing⟩ reply] ∧
          ending = some (received url reply >>= decoded url Task.ofTree?)) ∨
      (∃ fault, connection.resolve link = .error fault ∧
        turns = [] ∧ ending = some (.error fault)) := by
  refine runs_known_bind_iff.trans ?_
  simp only [runs_noteRequest_bind_iff, runs_send_decode_iff]

theorem runs_flushCache_iff {env : String} {paths : List String}
    {ending : Option (Except SyncFault Task)} :
    Runs (connection.flushCache env paths).run turns ending ↔
      ∃ reply, turns = [exchangeOf ⟨.post, connection.endpoint (env ++ "/cdn-flush"),
          .json (.array (paths.map fun path => (⟨path⟩ : FlushRecord).toJson))⟩ reply] ∧
        ending = some (received (connection.endpoint (env ++ "/cdn-flush")) reply >>=
          decoded (connection.endpoint (env ++ "/cdn-flush")) Task.ofTree?) :=
  runs_noteRequest_bind_iff.trans runs_send_decode_iff

theorem runs_whoami_iff {ending : Option (Except SyncFault Json)} :
    Runs connection.whoami.run turns ending ↔
      ∃ reply, turns = [exchangeOf ⟨.get, connection.endpoint "whoami", .nothing⟩ reply] ∧
        ending = some (received (connection.endpoint "whoami") reply >>=
          decoded (connection.endpoint "whoami") Json.Tree.value?) :=
  runs_send_decode_iff

theorem runs_blobExists_iff {env : String} {key : ContentKey}
    {ending : Option (Except SyncFault Bool)} :
    Runs (connection.blobExists env key).run turns ending ↔
      ∃ reply, turns = [exchangeOf ⟨.head, connection.blobUrl env key, .nothing⟩ reply] ∧
        ending = some (present (connection.blobUrl env key) reply) := by
  apply runs_exchange_bind_iff
  intro reply later ending
  cases reply with
  | lost cause => exact runs_done_iff
  | answered status body =>
      simp only [present]
      split
      · exact runs_done_iff
      · split
        · exact runs_refusal_iff
        · exact runs_done_iff

theorem runs_putBlob_iff {env : String} {key : ContentKey} {source : FileTree.Opened}
    {ending : Option (Except SyncFault Unit)} :
    Runs (connection.putBlob env key source).run turns ending ↔
      ∃ reply, turns = [exchangeOf ⟨.put, connection.blobUrl env key, .octets source⟩ reply] ∧
        ending = some ((received (connection.blobUrl env key) reply).map fun _ => ()) :=
  runs_noteRequest_bind_iff.trans runs_send_discard_iff

/-- Every question is answered in the end, by at most one turn, with the method of the question. -/
theorem answer_of_runs {question : CdnPublish.Question} {given : Option question.Answer}
    (run : Runs (connection.answer question) turns given) :
    (∃ value, given = some value) ∧ turns.length ≤ 1 ∧
      ∀ turn ∈ turns, method? turn = methodOf question := by
  have nothing : ([] : List WebTurn).length ≤ 1 ∧
      ∀ turn ∈ ([] : List WebTurn), method? turn = methodOf question := by simp
  have single : ∀ turn, method? turn = methodOf question →
      [turn].length ≤ 1 ∧ ∀ other ∈ [turn], method? other = methodOf question := by
    intro turn same
    simpa using same
  cases question with
  | createPublish env =>
      rcases runs_createPublish_iff.mp run with ⟨reply, rfl, ended⟩
      exact ⟨⟨_, ended⟩, single _ rfl⟩
  | addItem publish record =>
      rcases runs_addItem_iff.mp run with ⟨url, -, reply, rfl, ended⟩ | ⟨fault, -, rfl, ended⟩
      · exact ⟨⟨_, ended⟩, single _ rfl⟩
      · exact ⟨⟨_, ended⟩, nothing⟩
  | commitPublish publish deadline =>
      rcases runs_commitPublish_iff.mp run with
        ⟨url, -, reply, rfl, ended⟩ | ⟨fault, -, rfl, ended⟩
      · exact ⟨⟨_, ended⟩, single _ rfl⟩
      · exact ⟨⟨_, ended⟩, nothing⟩
  | getTask link =>
      rcases runs_getTask_iff.mp run with ⟨url, -, reply, rfl, ended⟩ | ⟨fault, -, rfl, ended⟩
      · exact ⟨⟨_, ended⟩, single _ rfl⟩
      · exact ⟨⟨_, ended⟩, nothing⟩
  | flushCache env paths =>
      rcases runs_flushCache_iff.mp run with ⟨reply, rfl, ended⟩
      exact ⟨⟨_, ended⟩, single _ rfl⟩
  | whoami =>
      rcases runs_whoami_iff.mp run with ⟨reply, rfl, ended⟩
      exact ⟨⟨_, ended⟩, single _ rfl⟩
  | blobExists env key =>
      rcases runs_blobExists_iff.mp run with ⟨reply, rfl, ended⟩
      exact ⟨⟨_, ended⟩, single _ rfl⟩
  | putBlob env key source =>
      rcases runs_putBlob_iff.mp run with ⟨reply, rfl, ended⟩
      exact ⟨⟨_, ended⟩, single _ rfl⟩
  | sleep seconds =>
      rcases runs_question_iff.mp run with ⟨value, ended, rfl⟩
      exact ⟨⟨value, ended⟩, single _ rfl⟩
  | currentDate =>
      rcases runs_question_iff.mp run with ⟨date, ended, rfl⟩
      exact ⟨⟨date, ended⟩, single _ rfl⟩

/-- The runs of a workflow over HTTP are its runs, carried out. -/
theorem runs_carry_iff {Result : Type} {program : GatewayProgram Result}
    {ending : Option Result} :
    Runs (connection.carry program) turns ending ↔
      ∃ asked, Runs program asked ending ∧ Carried connection.answer asked turns :=
  runs_answeredBy_iff fun _ _ _ ran => (answer_of_runs ran).1

end Connection

end CdnPublish.Http
