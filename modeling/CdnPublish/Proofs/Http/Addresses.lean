import CdnPublish.Proofs.Http.Acceptance

/-!
# Where items and commits are sent

The reply that creates a publish says where its items are put and where its commit is posted. A sync
sends them there and nowhere else: it puts its items to where the `self` link of that reply leads,
and posts the commit to where the `commit` link leads, with the deadline if there is one.
-/

namespace CdnPublish.Http

open Program

/-- The publish that the first POST has brought. -/
def created? (turns : List WebTurn) : Option Publish :=
  (turns.filter isPost).head?.bind (broughtBy? Publish.ofTree?)

/-- The first POST asks for a publish. Every item is put to where the link of that publish leads,
and so is every other POST sent, which asks for the commit. -/
structure FollowsLinks (connection : Connection) (env : String) (deadline : Option String)
    (turns : List WebTurn) : Prop where
  creation : ∀ turn ∈ (turns.filter isPost).head?, ∃ reply, turn =
    exchangeOf ⟨.post, connection.endpoint (env ++ "/publish"), .nothing⟩ reply
  items : ∀ url value reply, exchangeOf ⟨.put, url, .json value⟩ reply ∈ turns →
    ∃ publish link, created? turns = some publish ∧ publish.links.get? "self" = some link ∧
      connection.resolve link = .ok url
  commits : ∀ turn ∈ (turns.filter isPost).tail, ∃ publish link url reply,
    created? turns = some publish ∧ publish.links.get? "commit" = some link ∧
      connection.resolve link = .ok url ∧
      turn = exchangeOf ⟨.post, withDeadline url deadline, .nothing⟩ reply

section Sync

open CdnPublish.Sync

variable {client : Client} {options : Options} {items : List Item} {date env : String}
  {deadline : Option String} {turns before : List GatewayTurn}

/-- Nothing is posted and no item is put. -/
def Unposted (turns : List GatewayTurn) : Prop :=
  turns.filter posts = [] ∧ ∀ turn ∈ turns, turn.question.kind ≠ .addition

/-- One publish is asked for. Only if it is created, items are added, and to it, and only its commit
is asked for. -/
structure Addressed (env : String) (deadline : Option String) (answer : Except SyncFault Publish)
    (commits turns : List GatewayTurn) : Prop where
  posts : turns.filter posts = Session.creationOf env answer :: commits
  commits : ∀ turn ∈ commits, ∃ publish given, answer = .ok publish ∧
    turn = Session.commitOf publish deadline given
  additions : ∀ turn ∈ turns, ∀ publish record, turn.question = .addItem publish record →
    answer = .ok publish

theorem unposted_nil : Unposted [] :=
  ⟨rfl, by simp⟩

theorem unposted_of_kinds (quiet : ∀ turn ∈ turns, turn.question.kind = .blob ∨
    turn.question.kind = .poll ∨ turn.question.kind = .time) : Unposted turns := by
  have others : ∀ kind : CdnPublish.Question.Kind, kind = .blob ∨ kind = .poll ∨ kind = .time →
      kind ≠ .creation ∧ kind ≠ .commit ∧ kind ≠ .flush ∧ kind ≠ .addition := by
    rintro kind (rfl | rfl | rfl) <;> decide
  constructor
  · apply List.filter_eq_nil_iff.mpr
    intro turn mem posted
    rcases others _ (quiet turn mem) with ⟨notCreation, notCommit, notFlush, -⟩
    rcases posts_iff.mp posted with isKind | isKind | isKind
    · exact notCreation isKind
    · exact notCommit isKind
    · exact notFlush isKind
  · intro turn mem
    exact (others _ (quiet turn mem)).2.2.2

theorem Addressed.append_left {answer : Except SyncFault Publish} {commits : List GatewayTurn}
    (addressed : Addressed env deadline answer commits turns) (unposted : Unposted before) :
    Addressed env deadline answer commits (before ++ turns) := by
  refine ⟨?_, addressed.commits, ?_⟩
  · rw [List.filter_append, unposted.1, List.nil_append]
    exact addressed.posts
  · intro turn mem publish record asked
    rcases List.mem_append.mp mem with early | late
    · refine absurd ?_ (unposted.2 turn early)
      rw [asked]
      rfl
    · exact addressed.additions turn late publish record asked

/-- All these turns add items to one publish. -/
def AddsTo (publish : Publish) (turns : List GatewayTurn) : Prop :=
  ∀ turn ∈ turns, ∃ record, turn.question = .addItem publish record

theorem addsTo_additions (publish : Publish) (date : String) (items : List Item) :
    AddsTo publish (items.map (Session.additionOf publish date)) := by
  intro turn mem
  rcases List.mem_map.mp mem with ⟨item, -, rfl⟩
  exact ⟨_, rfl⟩

theorem addsTo_refused (publish : Publish) (date : String) (items : List Item) (cause : SyncFault)
    (item : Item) :
    AddsTo publish
      (items.map (Session.additionOf publish date) ++
        [Session.refusalOf publish date cause item]) := by
  intro turn mem
  rcases List.mem_append.mp mem with taken | refused
  · exact addsTo_additions publish date items turn taken
  · cases List.mem_singleton.mp refused
    exact ⟨_, rfl⟩

theorem addressed_of_addsTo {publish : Publish} {added commits later : List GatewayTurn}
    (adds : AddsTo publish added)
    (asks : ∀ turn ∈ commits, ∃ given, turn = Session.commitOf publish deadline given)
    (unposted : Unposted later) :
    Addressed env deadline (.ok publish) commits
      (Session.creationOf env (.ok publish) :: (added ++ (commits ++ later))) := by
  constructor
  · have additions : added.filter posts = [] := by
      apply List.filter_eq_nil_iff.mpr
      intro turn mem
      rcases adds turn mem with ⟨record, asked⟩
      simp [posts, asked, methodOf]
    have committed : commits.filter posts = commits := by
      apply List.filter_eq_self.mpr
      intro turn mem
      rcases asks turn mem with ⟨given, rfl⟩
      rfl
    rw [List.filter_cons_of_pos rfl, List.filter_append, List.filter_append, additions, committed,
      unposted.1, List.nil_append, List.append_nil]
  · intro turn mem
    rcases asks turn mem with ⟨given, same⟩
    exact ⟨publish, given, rfl, same⟩
  · intro turn mem other record asked
    rcases List.mem_cons.mp mem with rfl | mem
    · cases asked
    rcases List.mem_append.mp mem with isAdded | mem
    · rcases adds turn isAdded with ⟨taken, same⟩
      cases same.symm.trans asked
      rfl
    rcases List.mem_append.mp mem with isCommit | isLater
    · rcases asks turn isCommit with ⟨given, rfl⟩
      cases asked
    · refine absurd ?_ (unposted.2 turn isLater)
      rw [asked]
      rfl

theorem addressed_of_course {ending : Option (Except SyncFault (Publish × Task))}
    (course : Client.Course client options items date turns ending) :
    ∃ answer commits, Addressed client.env options.commitDeadline answer commits turns := by
  cases course with
  | uncreated fault =>
      refine ⟨.error fault, [], rfl, by simp, ?_⟩
      intro turn mem publish record asked
      cases List.mem_singleton.mp mem
      cases asked
  | @refused publish before after item split cause =>
      have addressed : Addressed client.env options.commitDeadline (.ok publish) []
          (_ :: (_ ++ ([] ++ []))) :=
        addressed_of_addsTo (addsTo_refused publish date before cause item) (by simp) unposted_nil
      rw [List.append_nil, List.append_nil] at addressed
      exact ⟨_, _, addressed⟩
  | denied publish fault =>
      have addressed : Addressed client.env options.commitDeadline (.ok publish) _
          (_ :: (_ ++ ([Session.commitOf publish options.commitDeadline (.error fault)] ++ []))) :=
        addressed_of_addsTo (addsTo_additions publish date items) (by simp) unposted_nil
      rw [List.append_nil] at addressed
      exact ⟨_, _, addressed⟩
  | @granted publish task later ending concluded =>
      rcases concluded with ⟨ended, run, -⟩
      have polled : Unposted later := unposted_of_kinds fun turn mem =>
        Or.inr (run.asks_allowed (client.asksOnly_conclude ..) turn mem)
      have addressed : Addressed client.env options.commitDeadline (.ok publish) _
          (_ :: (_ ++ ([Session.commitOf publish options.commitDeadline (.ok task)] ++ later))) :=
        addressed_of_addsTo (addsTo_additions publish date items) (by simp) polled
      exact ⟨_, _, addressed⟩

theorem unposted_or_addressed {tree laterTree : FileTree} {source : LocalPath}
    {destination : String} {ending : Option (Except SyncFault Report)}
    (run : Runs (client.sync tree source destination options laterTree).run turns ending) :
    Unposted turns ∨
      ∃ answer commits, Addressed client.env options.commitDeadline answer commits turns := by
  cases Client.runs_sync_iff.mp run with
  | unplanned planned => exact Or.inl unposted_nil
  | idle planned idle => exact Or.inl unposted_nil
  | unstored planned active refused =>
      have blobs : OfKind .blob turns := refused.asks_allowed (asksOnly_uploadAll _ _ _ _ _ _)
      exact Or.inl (unposted_of_kinds fun turn mem => Or.inl (blobs turn mem))
  | @published items before later uploads ended planned active stored published =>
      have blobs : OfKind .blob before := stored.asks_allowed (asksOnly_uploadAll _ _ _ _ _ _)
      rcases Client.runs_publishItems_iff.mp published with ⟨dated, date, rest, ran, course, rfl⟩
      have timed : OfKind .time dated := ofKind_of_runs_startDate ran
      rcases addressed_of_course course with ⟨answer, commits, addressed⟩
      have known := addressed.append_left
        (unposted_of_kinds fun turn mem => Or.inr (Or.inr (timed turn mem)))
      have whole := known.append_left (unposted_of_kinds fun turn mem => Or.inl (blobs turn mem))
      exact Or.inr ⟨answer, commits, whole⟩

end Sync

section Carried

variable {connection : Connection} {turns stretch : List WebTurn}

theorem address_eq_ok_iff {links : Links} {object id rel url : String} :
    connection.address links object id rel = .ok url ↔
      ∃ link, links.get? rel = some link ∧ connection.resolve link = .ok url := by
  unfold Connection.address Links.require
  cases links.get? rel with
  | some link =>
      change connection.resolve link = .ok url ↔ _
      simp
  | none =>
      constructor
      · intro never
        cases never
      · rintro ⟨link, never, -⟩
        cases never

/-- Only an item is put as JSON, and it is put to where the link of its publish leads. -/
theorem addition_of_runs_answer {question : CdnPublish.Question} {given : Option question.Answer}
    (run : Runs (connection.answer question) stretch given) {url : String} {value : Json}
    {reply : Reply} (mem : exchangeOf ⟨.put, url, .json value⟩ reply ∈ stretch) :
    ∃ publish record, question = .addItem publish record ∧
      connection.address publish.links "publish" publish.id "self" = .ok url := by
  have method := (Connection.answer_of_runs run).2.2 _ mem
  cases question with
  | addItem publish record =>
      rcases Connection.runs_addItem_iff.mp run with ⟨there, leads, other, rfl, -⟩ | ⟨_, -, rfl, -⟩
      · cases List.mem_singleton.mp mem
        exact ⟨publish, record, rfl, leads⟩
      · cases mem
  | putBlob env key source =>
      rcases Connection.runs_putBlob_iff.mp run with ⟨other, rfl, -⟩
      cases List.mem_singleton.mp mem
  | _ => cases method

theorem filter_isPost_of_carried {outer : List GatewayTurn}
    (carried : Carried connection.answer outer turns) :
    Carried connection.answer (outer.filter posts) (turns.filter isPost) := by
  apply carried.filter
  intro turn stretch run inner mem
  simp only [isPost, posts, (Connection.answer_of_runs run).2.2 inner mem]

/-- The first POST of a sync asks for the publish, and the others carry out the asking for its
commit. -/
theorem exists_creation_of_carried {env : String} {answer : Except SyncFault Publish}
    {commits : List GatewayTurn}
    (carried : Carried connection.answer (Session.creationOf env answer :: commits) turns) :
    ∃ reply later,
      turns = exchangeOf ⟨.post, connection.endpoint (env ++ "/publish"), .nothing⟩ reply :: later ∧
      (∀ publish, answer = .ok publish → recordIn? Publish.ofTree? reply = some publish) ∧
      Carried connection.answer commits later := by
  cases carried with
  | more run carried =>
      rcases Connection.runs_createPublish_iff.mp run with ⟨reply, rfl, same⟩
      refine ⟨reply, _, rfl, ?_, carried⟩
      rintro publish rfl
      exact received_decoded_eq_ok_iff.mp (Option.some.inj same).symm

end Carried

/-- Every sync sends its items and its commit to where the links of its publish lead. The POSTs
carry out just those questions that are posted, and a PUT of JSON adds an item. -/
theorem followsLinks_of_runs_sync {connection : Connection} {client : Client}
    {tree laterTree : FileTree} {source : LocalPath} {destination : String}
    {options : CdnPublish.Sync.Options} {turns : List WebTurn}
    {ending : Option (Except SyncFault CdnPublish.Sync.Report)}
    (run : Runs (connection.carry (client.sync tree source destination options laterTree).run)
      turns ending) :
    FollowsLinks connection client.env options.commitDeadline turns := by
  rcases Connection.runs_carry_iff.mp run with ⟨outer, asked, carried⟩
  have posted := filter_isPost_of_carried carried
  have put : ∀ url value reply, exchangeOf ⟨.put, url, .json value⟩ reply ∈ turns →
      ∃ turn ∈ outer, ∃ publish record, turn.question = .addItem publish record ∧
        connection.address publish.links "publish" publish.id "self" = .ok url := by
    intro url value reply mem
    rcases carried.exists_of_mem mem with ⟨turn, isTurn, stretch, ran, isPart⟩
    exact ⟨turn, isTurn, addition_of_runs_answer ran isPart⟩
  rcases unposted_or_addressed asked with ⟨silent, noItems⟩ | ⟨answer, commits, addressed⟩
  · have none : turns.filter isPost = [] := by
      rw [silent] at posted
      generalize turns.filter isPost = web at posted
      cases posted
      rfl
    refine ⟨by simp [none], ?_, by simp [none]⟩
    intro url value reply mem
    rcases put url value reply mem with ⟨turn, isTurn, publish, record, adds, -⟩
    refine absurd ?_ (noItems turn isTurn)
    rw [adds]
    rfl
  · rw [addressed.posts] at posted
    rcases exists_creation_of_carried posted with ⟨first, later, web, brought, rest⟩
    have created : ∀ publish, answer = .ok publish → created? turns = some publish := by
      intro publish same
      unfold created?
      rw [web]
      exact brought publish same
    refine ⟨?_, ?_, ?_⟩
    · intro turn isFirst
      rw [web] at isFirst
      cases isFirst
      exact ⟨first, rfl⟩
    · intro url value reply mem
      rcases put url value reply mem with ⟨turn, isTurn, publish, record, adds, leads⟩
      have same := addressed.additions turn isTurn publish record adds
      rcases address_eq_ok_iff.mp leads with ⟨link, linked, resolved⟩
      exact ⟨publish, link, created publish same, linked, resolved⟩
    · intro turn mem
      rw [web, List.tail_cons] at mem
      rcases rest.exists_of_mem mem with ⟨asked, isAsked, stretch, ran, isPart⟩
      rcases addressed.commits asked isAsked with ⟨publish, given, same, rfl⟩
      rcases Connection.runs_commitPublish_iff.mp ran with
        ⟨url, leads, reply, rfl, -⟩ | ⟨fault, -, rfl, -⟩
      · cases List.mem_singleton.mp isPart
        rcases address_eq_ok_iff.mp leads with ⟨link, linked, resolved⟩
        exact ⟨publish, link, url, reply, created publish same, linked, resolved, rfl⟩
      · cases isPart

end CdnPublish.Http
