import CdnPublish.Proofs.Gateway.Kinds
import CdnPublish.Proofs.Http.Answers
import CdnPublish.Proofs.Program.Lockstep

/-!
# Objects without their names

A publish matters to a client for its links, a task for its state and its links. What else the
gateway says about them is for people to read. To say that no request depends on it, the objects
are stripped of it, and so are the faults and reports in which they turn up; two replies are then
alike if they bring objects that are the same when stripped, and in every other case only if they
are the same.
-/

namespace CdnPublish

/-- The publish with nothing but its links. -/
def Publish.unnamed (publish : Publish) : Publish :=
  ⟨"", publish.links, none, none⟩

/-- The task with nothing but its state and its links. -/
def Task.unnamed (task : Task) : Task :=
  ⟨"", task.state, task.links, none, none, none⟩

/-- The fault without the names of the objects that it is about, and without what the gateway says
in its own words. -/
def SyncFault.unnamed : SyncFault → SyncFault
  | .status url code _ => .status url code none
  | .missingLink object _ name => .missingLink object "" name
  | .partialPublish publish added intended cause =>
    .partialPublish publish.unnamed added intended cause.unnamed
  | .incompletePublish _ added intended => .incompletePublish "" added intended
  | .invalidState _ state action => .invalidState "" state action
  | fault => fault

/-- The session without the name of its publish. -/
def Session.unnamed (session : Session) : Session :=
  { session with publish := session.publish.unnamed }

/-- The report without the names of its publish and its task. -/
def Sync.Report.unnamed (report : Report) : Report :=
  { report with publish := report.publish.map (·.unnamed), task := report.task.map (·.unnamed) }

theorem Publish.links_eq_of_unnamed {publish other : Publish}
    (alike : publish.unnamed = other.unnamed) : publish.links = other.links :=
  (Publish.mk.inj alike).2.1

theorem Task.state_eq_of_unnamed {task other : Task} (alike : task.unnamed = other.unnamed) :
    task.state = other.state :=
  (Task.mk.inj alike).2.1

theorem Task.links_eq_of_unnamed {task other : Task} (alike : task.unnamed = other.unnamed) :
    task.links = other.links :=
  (Task.mk.inj alike).2.2.1

theorem SyncFault.isTransient_unnamed (fault : SyncFault) :
    fault.unnamed.isTransient = fault.isTransient := by
  cases fault <;> rfl

namespace Http

open Program

/-- What the reply to the next POST is to bring. -/
inductive Awaited where
  | publish
  | task
  deriving DecidableEq, Repr

/-- Two replies are the same, or they bring records of which the same can be seen. -/
inductive SameBut {Record View : Type} (read? : Json.Tree → Option Record) (view : Record → View) :
    Reply → Reply → Prop where
  | same (reply : Reply) : SameBut read? view reply reply
  | renamed (status : Nat) {body another : Bytes} {record other : Record}
      (read : recordOf? read? body = some record) (readOther : recordOf? read? another = some other)
      (alike : view record = view other) :
      SameBut read? view (.answered status body) (.answered status another)

/-- The replies to a request are alike: they may tell a publish or a task by another name where the
request asks for one, and are the same otherwise. -/
def RepliesAlike (awaited : Awaited) : Method → Reply → Reply → Prop
  | .post =>
    match awaited with
    | .publish => SameBut Publish.ofTree? Publish.unnamed
    | .task => SameBut Task.ofTree? Task.unnamed
  | .get => SameBut Task.ofTree? Task.unnamed
  | .put => Eq
  | .head => Eq

/-- The answers alike are those that differ only in the names of objects. The first POST of a sync
brings a publish and every other one a task. -/
def anonymity : Tolerance Question Question.Answer Awaited where
  next
    | awaited, .exchange request => if request.method = .post then .task else awaited
    | awaited, _ => awaited
  alike
    | awaited, .exchange request => RepliesAlike awaited request.method
    | _, .sleep _ => Eq
    | _, .currentDate => Eq

/-- Two endings are alike: values that are related, of programs that have come to the same point, or
faults that are the same but for the names. -/
inductive EndAlike {Result Other : Type} (later : Awaited) (related : Result → Other → Prop) :
    Awaited → Except SyncFault Result → Except SyncFault Other → Prop where
  | value {result : Result} {other : Other} (alike : related result other) :
      EndAlike later related later (.ok result) (.ok other)
  | fault (awaited : Awaited) {fault other : SyncFault} (alike : fault.unnamed = other.unnamed) :
      EndAlike later related awaited (.error fault) (.error other)

/-- How a workflow ended, without the names. -/
def unnamedEnd {Result View : Type} (view : Result → View) :
    Except SyncFault Result → Except SyncFault View
  | .ok result => .ok (view result)
  | .error fault => .error fault.unnamed

/-- The programs of exchanges are in step, whatever names the gateway gives. -/
abbrev Anonymous {Result Other : Type} (ended : Awaited → Result → Other → Prop) (awaited : Awaited)
    (first : WebProgram Result) (second : WebProgram Other) : Prop :=
  InStep anonymity ended awaited first second

instance (question : Question) : Nonempty question.Answer :=
  match question with
  | .exchange _ => ⟨.lost ""⟩
  | .sleep _ => ⟨()⟩
  | .currentDate => ⟨""⟩

variable {Result Other Value Another View : Type} {awaited middle later : Awaited}
  {connection : Connection} {url : String} {request : Request}

/-- Records taken from replies that are alike look the same. -/
theorem SameBut.received_decoded {read? : Json.Tree → Option Result} {view : Result → View}
    {reply other : Reply} (alike : SameBut read? view reply other) :
    EndAlike later (fun record another => view record = view another) later
      (received url reply >>= decoded url read?) (received url other >>= decoded url read?) := by
  cases alike with
  | same =>
      cases received url reply >>= decoded url read? with
      | ok record => exact .value rfl
      | error fault => exact .fault later rfl
  | @renamed status body another record other read readOther alike =>
      rw [received, received]
      by_cases refused : leastRefusal ≤ status
      · rw [if_pos refused, if_pos refused]
        exact .fault later rfl
      · rw [if_neg refused, if_neg refused]
        have first : (Except.ok body >>= decoded url read?) = .ok record := decoded_of_recordOf read
        have second : (Except.ok another >>= decoded url read?) = .ok other :=
          decoded_of_recordOf readOther
        rw [first, second]
        exact .value alike

theorem EndAlike.same (awaited : Awaited) (result : Except SyncFault Result) :
    EndAlike awaited Eq awaited result result := by
  cases result with
  | ok value => exact .value rfl
  | error fault => exact .fault awaited rfl

theorem EndAlike.unnamedEnd_eq {view : Result → View} {ended another : Except SyncFault Result}
    (alike : EndAlike later (fun result other => view result = view other) awaited ended another) :
    unnamedEnd view ended = unnamedEnd view another := by
  cases alike with
  | value same => exact congrArg Except.ok same
  | fault _ same => exact congrArg Except.error same

theorem anonymous_exchange {first : WebProgram Result} {second : WebProgram Other}
    {ended : Awaited → Result → Other → Prop} {judge : Reply → Result} {otherJudge : Reply → Other}
    (run : ∀ reply, Runs first [exchangeOf request reply] (some (judge reply)))
    (otherRun : ∀ reply, Runs second [exchangeOf request reply] (some (otherJudge reply)))
    (alike : ∀ reply other, RepliesAlike awaited request.method reply other →
      ended (anonymity.next awaited (.exchange request)) (judge reply) (otherJudge other)) :
    Anonymous ended awaited first second := by
  have asked : ∀ answer : (Question.exchange request).Answer,
      Runs first [⟨.exchange request, answer⟩] (some (judge answer)) := run
  exact .of_question asked otherRun alike

theorem anonymous_exchange_self {program : WebProgram Result}
    {ended : Awaited → Result → Result → Prop} {judge : Reply → Result}
    (run : ∀ turns ending, Runs program turns ending ↔
      ∃ reply, turns = [exchangeOf request reply] ∧ ending = some (judge reply))
    (alike : ∀ reply other, RepliesAlike awaited request.method reply other →
      ended (anonymity.next awaited (.exchange request)) (judge reply) (judge other)) :
    Anonymous ended awaited program program := by
  have ran : ∀ reply, Runs program [exchangeOf request reply] (some (judge reply)) := by
    intro reply
    exact (run _ _).mpr ⟨reply, rfl, rfl⟩
  exact anonymous_exchange ran ran alike

section Sequences

/-- A sequence of programs that may fail is in step if its parts are. -/
theorem anonymous_run_bind_of {first : Workflow Value} {second : Workflow Another}
    {next : Value → Workflow Result} {other : Another → Workflow Other}
    {related : Value → Another → Prop}
    {ended : Awaited → Except SyncFault Result → Except SyncFault Other → Prop}
    (steps : Anonymous (EndAlike middle related) awaited (connection.carry first.run)
      (connection.carry second.run))
    (goesOn : ∀ value another, related value another →
      Anonymous ended middle (connection.carry (next value).run)
        (connection.carry (other another).run))
    (failed : ∀ last fault cause, fault.unnamed = cause.unnamed →
      ended last (.error fault) (.error cause)) :
    Anonymous ended awaited (connection.carry (first >>= next).run)
      (connection.carry (second >>= other).run) := by
  rw [ExceptT.run_bind, ExceptT.run_bind]
  unfold Connection.carry
  rw [answeredBy_bind, answeredBy_bind]
  apply steps.bind
  intro last given another alike
  cases alike with
  | value alike => exact goesOn _ _ alike
  | fault _ alike => exact .done (failed last _ _ alike)

theorem anonymous_run_bind {first : Workflow Value} {second : Workflow Another}
    {next : Value → Workflow Result} {other : Another → Workflow Other}
    {related : Value → Another → Prop} {ended : Result → Other → Prop}
    (steps : Anonymous (EndAlike middle related) awaited (connection.carry first.run)
      (connection.carry second.run))
    (goesOn : ∀ value another, related value another →
      Anonymous (EndAlike later ended) middle (connection.carry (next value).run)
        (connection.carry (other another).run)) :
    Anonymous (EndAlike later ended) awaited (connection.carry (first >>= next).run)
      (connection.carry (second >>= other).run) :=
  anonymous_run_bind_of steps goesOn fun last _ _ alike => .fault last alike

theorem anonymous_bind {first : GatewayProgram Value} {second : GatewayProgram Another}
    {next : Value → GatewayProgram Result} {other : Another → GatewayProgram Other}
    {related : Awaited → Value → Another → Prop} {ended : Awaited → Result → Other → Prop}
    (steps : Anonymous related awaited (connection.carry first) (connection.carry second))
    (goesOn : ∀ last value another, related last value another →
      Anonymous ended last (connection.carry (next value)) (connection.carry (other another))) :
    Anonymous ended awaited (connection.carry (first >>= next))
      (connection.carry (second >>= other)) := by
  unfold Connection.carry
  rw [answeredBy_bind, answeredBy_bind]
  exact steps.bind goesOn

end Sequences

theorem anonymous_question (asked another : CdnPublish.Question)
    {ended : Awaited → asked.Answer → another.Answer → Prop}
    (steps : Anonymous ended awaited (connection.answer asked) (connection.answer another)) :
    Anonymous ended awaited (connection.carry (question asked))
      (connection.carry (question another)) := by
  apply steps.bind
  intro last answer other alike
  exact .done alike

/-- An exchange whose URL may be wanting. -/
theorem anonymous_addressed {first : WebWorkflow Result} {second : WebWorkflow Other}
    {known another : Except SyncFault String} {request : String → Request}
    {judge : String → Reply → Except SyncFault Result}
    {otherJudge : String → Reply → Except SyncFault Other}
    {ended : Awaited → Except SyncFault Result → Except SyncFault Other → Prop}
    (same : EndAlike awaited Eq awaited known another)
    (run : ∀ turns ending, Runs first.run turns ending ↔
      (∃ url, known = .ok url ∧ ∃ reply, turns = [exchangeOf (request url) reply] ∧
        ending = some (judge url reply)) ∨
      (∃ fault, known = .error fault ∧ turns = [] ∧ ending = some (.error fault)))
    (otherRun : ∀ turns ending, Runs second.run turns ending ↔
      (∃ url, another = .ok url ∧ ∃ reply, turns = [exchangeOf (request url) reply] ∧
        ending = some (otherJudge url reply)) ∨
      (∃ fault, another = .error fault ∧ turns = [] ∧ ending = some (.error fault)))
    (alike : ∀ url reply other, RepliesAlike awaited (request url).method reply other →
      ended (anonymity.next awaited (.exchange (request url))) (judge url reply)
        (otherJudge url other))
    (unsent : ∀ fault other, fault.unnamed = other.unnamed →
      ended awaited (.error fault) (.error other)) :
    Anonymous ended awaited first.run second.run := by
  cases same with
  | @value url other same =>
      cases same
      apply anonymous_exchange
      · intro reply
        exact (run _ _).mpr (Or.inl ⟨url, rfl, reply, rfl, rfl⟩)
      · intro reply
        exact (otherRun _ _).mpr (Or.inl ⟨url, rfl, reply, rfl, rfl⟩)
      · exact alike url
  | @fault _ fault other same =>
      apply InStep.of_runs_nil
      · exact (run _ _).mpr (Or.inr ⟨fault, rfl, rfl, rfl⟩)
      · exact (otherRun _ _).mpr (Or.inr ⟨other, rfl, rfl, rfl⟩)
      · exact unsent fault other same

theorem require_alike {task other : Task} (alike : task.unnamed = other.unnamed) (rel : String) :
    EndAlike awaited Eq awaited (task.links.require "task" task.id rel)
      (other.links.require "task" other.id rel) := by
  rw [Task.links_eq_of_unnamed alike]
  unfold Links.require
  cases other.links.get? rel with
  | some link => exact .value rfl
  | none => exact .fault awaited rfl

theorem address_alike {publish other : Publish} (alike : publish.unnamed = other.unnamed)
    (rel : String) :
    EndAlike awaited Eq awaited (connection.address publish.links "publish" publish.id rel)
      (connection.address other.links "publish" other.id rel) := by
  rw [Publish.links_eq_of_unnamed alike]
  unfold Connection.address Links.require
  cases other.links.get? rel with
  | some link => exact .same awaited (connection.resolve link)
  | none => exact .fault awaited rfl

namespace Connection

variable (connection)

theorem anonymous_createPublish (env : String) :
    Anonymous (EndAlike .task fun publish other => publish.unnamed = other.unnamed) .publish
      (connection.answer (.createPublish env)) (connection.answer (.createPublish env)) := by
  apply anonymous_exchange_self
  · intro turns ending
    exact runs_createPublish_iff
  · intro reply other alike
    exact SameBut.received_decoded alike

theorem anonymous_flushCache (env : String) (paths : List String) :
    Anonymous (EndAlike .task fun task other => task.unnamed = other.unnamed) .task
      (connection.answer (.flushCache env paths)) (connection.answer (.flushCache env paths)) := by
  apply anonymous_exchange_self
  · intro turns ending
    exact runs_flushCache_iff
  · intro reply other alike
    exact SameBut.received_decoded alike

theorem anonymous_addItem {publish other : Publish} (alike : publish.unnamed = other.unnamed)
    (record : ItemRecord) :
    Anonymous (EndAlike awaited fun _ _ => True) awaited
      (connection.answer (.addItem publish record))
      (connection.answer (.addItem other record)) := by
  apply anonymous_addressed (address_alike alike "self")
  · intro turns ending
    exact runs_addItem_iff
  · intro turns ending
    exact runs_addItem_iff
  · intro url reply another same
    cases same
    cases received url reply with
    | ok body => exact .value trivial
    | error fault => exact .fault awaited rfl
  · intro fault another same
    exact .fault awaited same

theorem anonymous_commitPublish {publish other : Publish}
    (alike : publish.unnamed = other.unnamed) (deadline : Option String) :
    Anonymous (EndAlike .task fun task other => task.unnamed = other.unnamed) .task
      (connection.answer (.commitPublish publish deadline))
      (connection.answer (.commitPublish other deadline)) := by
  apply anonymous_addressed (address_alike alike "commit")
  · intro turns ending
    exact runs_commitPublish_iff
  · intro turns ending
    exact runs_commitPublish_iff
  · intro url reply another same
    exact SameBut.received_decoded same
  · intro fault another same
    exact .fault .task same

/-- Asking for a task leaves open what a POST will bring, also if it fails. -/
theorem anonymous_getTask (link : String) :
    Anonymous (fun last task other => last = awaited ∧
        EndAlike awaited (fun task other => task.unnamed = other.unnamed) awaited task other)
      awaited (connection.answer (.getTask link)) (connection.answer (.getTask link)) := by
  apply anonymous_addressed (.same awaited (connection.resolve link))
  · intro turns ending
    exact runs_getTask_iff
  · intro turns ending
    exact runs_getTask_iff
  · intro url reply another same
    exact ⟨rfl, SameBut.received_decoded same⟩
  · intro fault another same
    exact ⟨rfl, .fault awaited same⟩

/-- The answers of the store and of the clock name no object of the gateway. -/
theorem anonymous_of_kind {question : CdnPublish.Question}
    (nameless : question.kind = .blob ∨ question.kind = .time) :
    Anonymous (fun last answer other => last = awaited ∧ answer = other) awaited
      (connection.answer question) (connection.answer question) := by
  cases question with
  | blobExists env key =>
      apply anonymous_exchange_self
      · intro turns ending
        exact runs_blobExists_iff
      · rintro reply other same
        cases same
        exact ⟨rfl, rfl⟩
  | putBlob env key source =>
      apply anonymous_exchange_self
      · intro turns ending
        exact runs_putBlob_iff
      · rintro reply other same
        cases same
        exact ⟨rfl, rfl⟩
  | sleep seconds => exact .ask _ fun answer other same => .done ⟨rfl, same⟩
  | currentDate => exact .ask _ fun answer other same => .done ⟨rfl, same⟩
  | _ => rcases nameless with impossible | impossible <;> cases impossible

end Connection

/-- Where only the store and the clock are asked, no names are given. -/
theorem anonymous_of_asksOnly {workflow : Workflow Result}
    (asks : workflow.run.AsksOnly fun question => question.kind = .blob ∨ question.kind = .time) :
    Anonymous (EndAlike awaited Eq) awaited (connection.carry workflow.run)
      (connection.carry workflow.run) := by
  apply InStep.answeredBy asks
  · intro question nameless
    exact connection.anonymous_of_kind nameless
  · exact EndAlike.same awaited

end Http

end CdnPublish
