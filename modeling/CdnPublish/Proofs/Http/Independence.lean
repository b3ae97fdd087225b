import CdnPublish.Proofs.Http.Addresses
import CdnPublish.Proofs.Http.Anonymity
import CdnPublish.Proofs.Poll.Rounds

/-!
# Workflows do not depend on names

A sync, a flush and a watch send the same requests whatever the gateway calls its publishes and
tasks, and they end alike. Each part of them is shown to be in step with itself when it is given
objects that differ only in their names.
-/

namespace CdnPublish.Http

open Program Sync

/-- The sessions after two steps differ only in names, and so do the results. -/
def StepAlike {Result Other : Type} (related : Result → Other → Prop) (awaited : Awaited)
    (step : Session.Step Result) (other : Session.Step Other) : Prop :=
  step.1.unnamed = other.1.unnamed ∧ EndAlike .task related awaited step.2 other.2

/-- The tasks differ only in names. -/
def TasksAlike (task other : Task) : Prop :=
  task.unnamed = other.unnamed

variable {connection : Connection} {Result Other : Type} {awaited : Awaited}

theorem anonymous_ofExcept {result : Except SyncFault Result} {given : Except SyncFault Other}
    {related : Result → Other → Prop} (alike : EndAlike awaited related awaited result given) :
    Anonymous (EndAlike awaited related) awaited
      (connection.carry (Workflow.ofExcept result).run)
      (connection.carry (Workflow.ofExcept given).run) :=
  .done alike

theorem map_eq_of_rel {View : Type} {view : Result → View} {otherView : Other → View}
    {related : Result → Other → Prop} {ending : Option Result} {another : Option Other}
    (ends : Option.Rel related ending another)
    (same : ∀ result other, related result other → view result = otherView other) :
    ending.map view = another.map otherView := by
  cases ends with
  | some alike => exact congrArg some (same _ _ alike)
  | none => rfl

section Sessions

variable {session other : Session} {date : String}

theorem anonymous_create (env : String) (intended : Nat) :
    Anonymous (EndAlike .task fun session other => session.unnamed = other.unnamed) .publish
      (connection.carry (Session.create env intended).run)
      (connection.carry (Session.create env intended).run) := by
  have created := anonymous_question (.createPublish env) (.createPublish env)
    (connection.anonymous_createPublish env)
  apply anonymous_run_bind created
  intro publish other alike
  refine .tell_left _ (.tell_right _ (.done (.value ?_)))
  simp only [Session.unnamed, Session.ofPublish, alike]

theorem anonymous_session_addItem (alike : session.unnamed = other.unnamed) (date : String)
    (item : Item) :
    Anonymous (StepAlike fun _ _ => True) .task (connection.carry (session.addItem date item))
      (connection.carry (other.addItem date item)) := by
  rcases session with ⟨publish, state, intended, added⟩
  rcases other with ⟨another, _, _, _⟩
  rcases Session.mk.inj alike with ⟨publishes, rfl, rfl, rfl⟩
  unfold Session.addItem
  by_cases isOpen : state = .opened
  · rw [if_neg (not_not_intro isOpen), if_neg (not_not_intro isOpen)]
    apply anonymous_bind
      (anonymous_question (.addItem publish _) _ (connection.anonymous_addItem publishes _))
    intro last answer given same
    cases same with
    | value _ =>
        refine .tell_left _ (.tell_right _ (.done ⟨?_, .value trivial⟩))
        simp only [Session.unnamed, Session.withAdded, publishes]
    | fault _ causes =>
        refine .tell_left _ (.tell_right _ (.done ⟨?_, .fault last ?_⟩))
        · simp only [Session.unnamed, Session.withState, publishes]
        · simp only [Session.abandonment, SyncFault.unnamed, publishes, causes]
  · rw [if_pos isOpen, if_pos isOpen]
    exact .done ⟨alike, .fault .task rfl⟩

/-- As long as the items are taken, the sessions go on differing only in names. -/
theorem anonymous_addItems (alike : session.unnamed = other.unnamed) (date : String)
    (items : List Item) :
    Anonymous (StepAlike fun _ _ => True) .task (connection.carry (session.addItems date items))
      (connection.carry (other.addItems date items)) := by
  induction items generalizing session other with
  | nil => exact .done ⟨alike, .value trivial⟩
  | cons item items induction_hypothesis =>
      unfold Session.addItems
      apply anonymous_bind (anonymous_session_addItem alike date item)
      rintro last ⟨session, result⟩ ⟨other, another⟩ ⟨alike, ends⟩
      cases ends with
      | value _ => exact induction_hypothesis alike
      | fault _ same => exact .done ⟨alike, .fault last same⟩

theorem anonymous_commit (alike : session.unnamed = other.unnamed) (deadline : Option String) :
    Anonymous (StepAlike TasksAlike) .task (connection.carry (session.commit deadline))
      (connection.carry (other.commit deadline)) := by
  rcases session with ⟨publish, state, intended, added⟩
  rcases other with ⟨another, _, _, _⟩
  rcases Session.mk.inj alike with ⟨publishes, rfl, rfl, rfl⟩
  unfold Session.commit
  by_cases isOpen : state = .opened
  · rw [if_neg (not_not_intro isOpen), if_neg (not_not_intro isOpen)]
    by_cases complete : added = intended
    · rw [if_neg (not_not_intro complete), if_neg (not_not_intro complete)]
      apply anonymous_bind (anonymous_question (.commitPublish publish deadline) _
        (connection.anonymous_commitPublish publishes deadline))
      intro last answer given same
      cases same with
      | value tasks =>
          refine .tell_left _ (.tell_right _ (.done ⟨?_, .value tasks⟩))
          simp only [Session.unnamed, Session.withState, publishes]
      | fault _ causes => exact .done ⟨alike, .fault last causes⟩
    · rw [if_pos complete, if_pos complete]
      exact .done ⟨alike, .fault .task rfl⟩
  · rw [if_pos isOpen, if_pos isOpen]
    exact .done ⟨alike, .fault .task rfl⟩

theorem anonymous_afterStep {step : GatewayProgram (Session.Step Result)}
    {another : GatewayProgram (Session.Step Other)} {related : Result → Other → Prop}
    (steps : Anonymous (StepAlike related) .task (connection.carry step)
      (connection.carry another)) :
    Anonymous (EndAlike .task fun given other =>
        given.1.unnamed = other.1.unnamed ∧ related given.2 other.2) .task
      (connection.carry (afterStep step).run) (connection.carry (afterStep another).run) := by
  rw [Client.afterStep_eq, Client.afterStep_eq]
  apply anonymous_bind steps
  rintro last ⟨session, result⟩ ⟨other, given⟩ ⟨alike, ends⟩
  cases ends with
  | value same => exact .done (.value ⟨alike, same⟩)
  | fault _ same => exact .done (.fault last same)

theorem finish_alike {task given : Task} (alike : session.unnamed = other.unnamed)
    (same : TasksAlike task given) :
    EndAlike .task Eq .task (session.finish task).2 (other.finish given).2 := by
  rcases session with ⟨publish, state, intended, added⟩
  rcases other with ⟨another, _, _, _⟩
  rcases Session.mk.inj alike with ⟨publishes, rfl, rfl, rfl⟩
  unfold Session.finish
  rw [Task.state_eq_of_unnamed same]
  by_cases committed : state = .commitRequested
  · rw [if_neg (not_not_intro committed), if_neg (not_not_intro committed)]
    cases Session.finalState? given.state with
    | some state => exact .value rfl
    | none => exact .fault .task rfl
  · rw [if_pos committed, if_pos committed]
    exact .fault .task rfl

end Sessions

section Waiting

variable {poller : Poller} {task other : Task}

theorem anonymous_fetchSelf (alike : TasksAlike task other) :
    Anonymous
      (fun last fetched given => last = .task ∧ EndAlike .task TasksAlike .task fetched given)
      .task (connection.carry (Poller.fetchSelf task))
      (connection.carry (Poller.fetchSelf other)) := by
  have links : EndAlike .task Eq .task (task.links.require "task" task.id "self")
      (other.links.require "task" other.id "self") :=
    require_alike alike "self"
  unfold Poller.fetchSelf
  generalize task.links.require "task" task.id "self" = link at links ⊢
  generalize other.links.require "task" other.id "self" = another at links ⊢
  cases links with
  | value same =>
      cases same
      exact anonymous_question (.getTask _) (.getTask _) (connection.anonymous_getTask _)
  | fault _ same => exact .done ⟨rfl, .fault .task same⟩

theorem anonymous_rounds_of_terminal (alike : TasksAlike task other)
    (finished : task.state.isTerminal = true) (patience failures : Nat) :
    Anonymous (EndAlike .task TasksAlike) .task
      (connection.carry (poller.rounds Poller.fetchSelf patience failures task))
      (connection.carry (poller.rounds Poller.fetchSelf patience failures other)) := by
  have alsoFinished := Task.state_eq_of_unnamed alike ▸ finished
  rw [Poller.rounds_of_terminal finished, Poller.rounds_of_terminal alsoFinished]
  exact .done (.value alike)

/-- A round leads two tasks that differ only in names to two others that do. -/
theorem anonymous_rounds (alike : TasksAlike task other) (patience failures : Nat) :
    Anonymous (EndAlike .task TasksAlike) .task
      (connection.carry (poller.rounds Poller.fetchSelf patience failures task))
      (connection.carry (poller.rounds Poller.fetchSelf patience failures other)) := by
  induction patience generalizing failures task other with
  | zero =>
      cases finished : task.state.isTerminal with
      | true => exact anonymous_rounds_of_terminal alike finished 0 failures
      | false =>
          have alsoWaiting := Task.state_eq_of_unnamed alike ▸ finished
          rw [Poller.rounds_of_impatient finished, Poller.rounds_of_impatient alsoWaiting]
          exact .stalled _
  | succ patience induction_hypothesis =>
      cases finished : task.state.isTerminal with
      | true => exact anonymous_rounds_of_terminal alike finished (patience + 1) failures
      | false =>
          have alsoWaiting := Task.state_eq_of_unnamed alike ▸ finished
          rw [Poller.rounds_of_waiting finished, Poller.rounds_of_waiting alsoWaiting]
          have slept : Anonymous (fun last _ _ => last = .task) .task
              (connection.carry (Gateway.sleep poller.interval))
              (connection.carry (Gateway.sleep poller.interval)) :=
            .ask _ fun _ _ _ => .done rfl
          apply anonymous_bind slept
          rintro last _ _ rfl
          apply anonymous_bind (anonymous_fetchSelf alike)
          rintro last answer given ⟨rfl, same⟩
          cases same with
          | value same =>
              exact .tell_left _ (.tell_right _ (induction_hypothesis same 0))
          | @fault _ fault cause causes =>
              have transient : fault.isTransient = cause.isTransient := by
                rw [← fault.isTransient_unnamed, causes, cause.isTransient_unnamed]
              rw [Poller.afterFetch, Poller.afterFetch, transient]
              split
              · exact .tell_left _ (.tell_right _ (induction_hypothesis alike _))
              · exact .done (.fault .task causes)

theorem anonymous_awaitTask (alike : TasksAlike task other) :
    Anonymous (EndAlike .task TasksAlike) .task (connection.carry (poller.awaitTask task).run)
      (connection.carry (poller.awaitTask other).run) := by
  have waited : Anonymous (EndAlike .task TasksAlike) .task
      (connection.carry (poller.awaitTerminal Poller.fetchSelf task).run)
      (connection.carry (poller.awaitTerminal Poller.fetchSelf other).run) :=
    anonymous_rounds alike poller.patience 0
  apply anonymous_run_bind waited
  intro ended given same
  exact .tell_left _ (.tell_right _ (.done (.value same)))

end Waiting

section Clients

variable {client : Client}

theorem anonymous_conclude {session other : Session} {task given : Task}
    (sessions : session.unnamed = other.unnamed) (tasks : TasksAlike task given)
    (options : Options) :
    Anonymous (EndAlike .task TasksAlike) .task
      (connection.carry (client.conclude options session task).run)
      (connection.carry (client.conclude options other given).run) := by
  unfold Client.conclude
  cases options.wait with
  | true =>
      apply anonymous_run_bind (anonymous_awaitTask tasks)
      intro ended another same
      apply anonymous_run_bind (anonymous_ofExcept (finish_alike sessions same))
      intro _ _ _
      exact .done (.value same)
  | false =>
      apply anonymous_run_bind (anonymous_ofExcept (require_alike tasks "self"))
      intro _ _ _
      exact .tell_left _ (.tell_right _ (.done (.value tasks)))

theorem anonymous_register (options : Options) (items : List Item) (date : String) :
    Anonymous (EndAlike .task fun done other =>
        done.1.unnamed = other.1.unnamed ∧ TasksAlike done.2 other.2) .publish
      (connection.carry (client.register options items date).run)
      (connection.carry (client.register options items date).run) := by
  apply anonymous_run_bind (anonymous_create client.env items.length)
  intro session other alike
  apply anonymous_run_bind (anonymous_afterStep (anonymous_addItems alike date items))
  rintro ⟨filled, _⟩ ⟨also, _⟩ ⟨alike, -⟩
  apply anonymous_run_bind
    (anonymous_afterStep (anonymous_commit alike options.commitDeadline))
  rintro ⟨committed, task⟩ ⟨also, given⟩ ⟨alike, tasks⟩
  apply anonymous_run_bind (anonymous_conclude alike tasks options)
  intro ended another same
  refine .done (.value ⟨?_, same⟩)
  exact congrArg Session.publish alike

theorem anonymous_upload_publish (laterTree : FileTree) (options : Options)
    (items : List Item) :
    Anonymous (EndAlike .task fun report other : Report => report.unnamed = other.unnamed) .publish
      (connection.carry (uploadAll laterTree client.env options.checkExisting [] .none items >>=
        fun uploads => client.publishItems options items >>= fun done =>
          pure ⟨items, uploads, some done.1, some done.2, options.dryRun⟩).run)
      (connection.carry (uploadAll laterTree client.env options.checkExisting [] .none items >>=
        fun uploads => client.publishItems options items >>= fun done =>
          pure ⟨items, uploads, some done.1, some done.2, options.dryRun⟩).run) := by
  have stored : (uploadAll laterTree client.env options.checkExisting [] .none items).run.AsksOnly
      fun question => question.kind = .blob ∨ question.kind = .time :=
    (asksOnly_uploadAll ..).imp fun _ isBlob => Or.inl isBlob
  have dated : (startDate options).run.AsksOnly
      fun question => question.kind = .blob ∨ question.kind = .time := by
    unfold startDate
    cases options.fromDate with
    | some date => trivial
    | none => exact ⟨Or.inr rfl, fun _ => trivial⟩
  apply anonymous_run_bind (anonymous_of_asksOnly stored)
  rintro uploads _ rfl
  have published : Anonymous (EndAlike .task fun done other =>
        done.1.unnamed = other.1.unnamed ∧ TasksAlike done.2 other.2) .publish
      (connection.carry (client.publishItems options items).run)
      (connection.carry (client.publishItems options items).run) := by
    rw [client.publishItems_eq]
    apply anonymous_run_bind (anonymous_of_asksOnly dated)
    rintro date _ rfl
    exact anonymous_register options items date
  apply anonymous_run_bind published
  rintro ⟨publish, task⟩ ⟨another, given⟩ ⟨publishes, tasks⟩
  refine .done (.value ?_)
  have sameTask : task.unnamed = given.unnamed := tasks
  simp only [Report.unnamed, Option.map_some, publishes, sameTask]

theorem anonymous_sync (tree laterTree : FileTree) (source : LocalPath) (destination : String)
    (options : Options) :
    Anonymous (fun _ ended another =>
        unnamedEnd Report.unnamed ended = unnamedEnd Report.unnamed another) .publish
      (connection.carry (client.sync tree source destination options laterTree).run)
      (connection.carry (client.sync tree source destination options laterTree).run) := by
  have planned : (Workflow.ofNarrated ((plan tree source destination options).mapFault
      .ofLocal)).run.AsksOnly fun question => question.kind = .blob ∨ question.kind = .time :=
    asksOnly_ofNarrated _
  apply anonymous_run_bind_of (anonymous_of_asksOnly planned)
  · rintro items _ rfl
    split
    · exact .done rfl
    · apply (anonymous_upload_publish laterTree options items).mono
      intro last ended another alike
      exact alike.unnamedEnd_eq
  · intro last fault cause same
    exact congrArg Except.error same

theorem anonymous_flush (paths : List String) :
    Anonymous (EndAlike .task TasksAlike) .task (connection.carry (client.flush paths).run)
      (connection.carry (client.flush paths).run) := by
  have requested : Anonymous (EndAlike .task TasksAlike) .task
      (connection.carry (Flush.request client.env paths).run)
      (connection.carry (Flush.request client.env paths).run) := by
    unfold Flush.request
    split
    · exact .done (.fault .task rfl)
    · apply anonymous_run_bind (anonymous_ofExcept (.same .task _))
      rintro canonical _ rfl
      have flushed := anonymous_question (.flushCache client.env canonical)
        (.flushCache client.env canonical) (connection.anonymous_flushCache client.env canonical)
      apply anonymous_run_bind flushed
      intro task other alike
      exact .tell_left _ (.tell_right _ (.done (.value alike)))
  apply anonymous_run_bind requested
  intro task other alike
  exact anonymous_awaitTask alike

theorem anonymous_watch (link : String) :
    Anonymous (EndAlike .task TasksAlike) .task (connection.carry (client.watch link).run)
      (connection.carry (client.watch link).run) := by
  have seen : Anonymous (EndAlike .task TasksAlike) .task
      (connection.carry (Gateway.getTask link)) (connection.carry (Gateway.getTask link)) := by
    apply (anonymous_question (.getTask link) (.getTask link)
      (connection.anonymous_getTask link)).mono
    rintro last task other ⟨rfl, alike⟩
    exact alike
  apply anonymous_run_bind seen
  intro task other alike
  exact .tell_left _ (.tell_right _ (anonymous_awaitTask alike))

end Clients

/-- No request depends on what the gateway calls its publishes and tasks. Take any two runs of a
sync, a flush or a watch in which the replies to the same requests differ in nothing else, and the
date is the same: both send the same requests in the same order, and both end in the same way. What
a sync sends its requests to are the links of the publish, just as the reply that created it has
them. -/
theorem requests_ignore_names (connection : Connection) (client : Client) :
    (∀ tree laterTree source destination options turns others ending another,
      Runs (connection.carry (client.sync tree source destination options laterTree).run)
        turns ending →
      Runs (connection.carry (client.sync tree source destination options laterTree).run)
        others another →
      Agree anonymity .publish turns others →
        asked turns = asked others ∧
        ending.map (unnamedEnd Report.unnamed) = another.map (unnamedEnd Report.unnamed)) ∧
    (∀ paths turns others ending another,
      Runs (connection.carry (client.flush paths).run) turns ending →
      Runs (connection.carry (client.flush paths).run) others another →
      Agree anonymity .task turns others →
        asked turns = asked others ∧
        ending.map (unnamedEnd Task.unnamed) = another.map (unnamedEnd Task.unnamed)) ∧
    (∀ link turns others ending another,
      Runs (connection.carry (client.watch link).run) turns ending →
      Runs (connection.carry (client.watch link).run) others another →
      Agree anonymity .task turns others →
        asked turns = asked others ∧
        ending.map (unnamedEnd Task.unnamed) = another.map (unnamedEnd Task.unnamed)) ∧
    (∀ tree laterTree source destination options turns ending,
      Runs (connection.carry (client.sync tree source destination options laterTree).run)
        turns ending →
        FollowsLinks connection client.env options.commitDeadline turns) := by
  refine ⟨?_, ?_, ?_, ?_⟩
  · intro tree laterTree source destination options turns others ending another run otherRun agree
    rcases (anonymous_sync tree laterTree source destination options).runs run otherRun agree with
      ⟨same, last, ends⟩
    exact ⟨same, map_eq_of_rel ends fun _ _ alike => alike⟩
  · intro paths turns others ending another run otherRun agree
    rcases (anonymous_flush paths).runs run otherRun agree with ⟨same, last, ends⟩
    exact ⟨same, map_eq_of_rel ends fun _ _ alike => alike.unnamedEnd_eq⟩
  · intro link turns others ending another run otherRun agree
    rcases (anonymous_watch link).runs run otherRun agree with ⟨same, last, ends⟩
    exact ⟨same, map_eq_of_rel ends fun _ _ alike => alike.unnamedEnd_eq⟩
  · intro tree laterTree source destination options turns ending run
    exact followsLinks_of_runs_sync run

/-- The text of a publish that goes by another name and says more about itself. -/
def renamedBody : Bytes :=
  .ofString ("\x7b\"id\":\"q\",\"env\":\"live\",\"state\":\"PENDING\","
    ++ "\"links\":\x7b\"self\":\"/p\",\"commit\":\"/c\"\x7d\x7d")

/-- The reply in which it is created. -/
def renamedReply : Reply :=
  .answered 200 renamedBody

/-- The publish of that name. -/
def renamedPublish : Publish := ⟨"q", linkedPublish.links, some "live", some "PENDING"⟩

theorem recordIn?_renamedReply : recordIn? Publish.ofTree? renamedReply = some renamedPublish := by
  have received : Json.Tree.ofReceived? (Text.receive renamedBody) =
      some (.object [(some "id", .string (some "q")), (some "env", .string (some "live")),
        (some "state", .string (some "PENDING")), (some "links", linksTree)]) := by cbv
  exact (recordIn?_of_tree (by decide) received).trans rfl

theorem agree_renamed :
    Agree anonymity .publish (journalFrom creationReply 200) (journalFrom renamedReply 200) := by
  have created : SameBut Publish.ofTree? Publish.unnamed creationReply renamedReply :=
    .renamed 200 recordIn?_creationReply recordIn?_renamedReply rfl
  exact .more rfl (.more rfl (.more created (.more rfl (.more (.same _) (.over_left _ _)))))

/-- A sync of one file sends the same requests whether its publish is called by the one name or by
the other. -/
theorem requests_ignore_names_renamed :
    Agree anonymity .publish (journalFrom creationReply 200) (journalFrom renamedReply 200) ∧
    asked (journalFrom creationReply 200) = asked (journalFrom renamedReply 200) ∧
    FollowsLinks rootGateway "live" none (journalFrom renamedReply 200) := by
  have ignored := requests_ignore_names rootGateway ⟨"live", ⟨5, 1, 9⟩⟩
  have run := runs_journalFrom recordIn?_creationReply rfl (show 200 < leastRefusal by decide)
  have otherRun := runs_journalFrom recordIn?_renamedReply rfl (show 200 < leastRefusal by decide)
  refine ⟨agree_renamed, ?_, ?_⟩
  · exact (ignored.1 _ _ _ _ _ _ _ _ _ run otherRun agree_renamed).1
  · exact ignored.2.2.2 _ _ _ _ _ _ _ otherRun

end CdnPublish.Http
