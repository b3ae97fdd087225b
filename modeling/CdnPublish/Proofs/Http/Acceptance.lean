import CdnPublish.Proofs.Http.Answers
import CdnPublish.Proofs.Program.Answered
import CdnPublish.Proofs.Sync.Commit

/-!
# What a commit relies on

A sync sends its commit once everything it has put has been taken, and once every blob that it has
not put was said to be there. Over HTTP this means that each of these requests was answered, and
with a status that is not a refusal. A refusal starts at 400, so a status below 200 and one from 300
to 399 pass for success: whether all that a commit relies on was truly done depends on the gateway
not answering with such a status.
-/

namespace CdnPublish.Http

open Program

/-- Whether the turn is a POST. -/
def isPost (turn : WebTurn) : Bool :=
  method? turn = some .post

/-- The commit counts on it: something is put, or a blob is not put because it is there. -/
def ReliedOn (turn : WebTurn) : Prop :=
  method? turn = some .put ∨ (method? turn = some .head ∧ status? turn ≠ some missing)

/-- The request was answered, and not with a refusal. -/
def Accepted (turn : WebTurn) : Prop :=
  ∃ status, status? turn = some status ∧ status < leastRefusal

/-- The request was answered with a status of success. -/
def Successful (turn : WebTurn) : Prop :=
  ∃ status, status? turn = some status ∧ 200 ≤ status ∧ status ≤ 299

/-- The status is neither one of success nor a refusal. -/
def Ambiguous (status : Nat) : Prop :=
  status < 200 ∨ (300 ≤ status ∧ status < leastRefusal)

/-- What was accepted was done, unless its status is ambiguous. -/
theorem Accepted.successful_iff {turn : WebTurn} (accepted : Accepted turn) :
    Successful turn ↔ ∀ status, status? turn = some status → ¬Ambiguous status := by
  rcases accepted with ⟨status, answered, below⟩
  constructor
  · rintro ⟨success, same, atLeast, atMost⟩ other otherSame ambiguous
    cases same.symm.trans otherSame
    rcases ambiguous with early | ⟨late, -⟩
    · omega
    · omega
  · intro clear
    have notAmbiguous := clear status answered
    refine ⟨status, answered, ?_, ?_⟩
    · apply Nat.le_of_not_lt
      exact fun early => notAmbiguous (Or.inl early)
    · apply Nat.le_of_lt_succ
      apply Nat.lt_of_not_le
      exact fun late => notAmbiguous (Or.inr ⟨late, below⟩)

theorem accepted_of_received {url : String} {request : Request} {reply : Reply} {body : Bytes}
    (taken : received url reply = .ok body) : Accepted (exchangeOf request reply) := by
  cases reply with
  | lost cause => cases taken
  | answered status content =>
      by_cases refused : leastRefusal ≤ status
      · rw [received, if_pos refused] at taken
        cases taken
      · exact ⟨status, rfl, Nat.lt_of_not_le refused⟩

/-- A blob that was looked up is missing, or the request was accepted. -/
theorem accepted_of_present {url : String} {request : Request} {reply : Reply} {found : Bool}
    (known : present url reply = .ok found)
    (reliedOn : status? (exchangeOf request reply) ≠ some missing) :
    Accepted (exchangeOf request reply) := by
  cases reply with
  | lost cause => cases known
  | answered status body =>
      have other : status ≠ missing := fun same => reliedOn (congrArg some same)
      rw [present, if_neg other] at known
      by_cases refused : leastRefusal ≤ status
      · rw [if_pos refused] at known
        cases known
      · exact ⟨status, rfl, Nat.lt_of_not_le refused⟩

/-- Something that the commit counts on was refused. -/
def fails : GatewayTurn → Bool
  | ⟨.addItem _ _, .error _⟩ => true
  | ⟨.blobExists _ _, .error _⟩ => true
  | ⟨.putBlob _ _ _, .error _⟩ => true
  | _ => false

/-- The question is put by a POST. -/
def posts (turn : GatewayTurn) : Bool :=
  methodOf turn.question = some .post

theorem posts_iff {turn : GatewayTurn} :
    posts turn = true ↔ turn.question.kind = .creation ∨ turn.question.kind = .commit ∨
      turn.question.kind = .flush := by
  rcases turn with ⟨question, answer⟩
  cases question <;> simp [posts, methodOf, CdnPublish.Question.kind]

theorem accepted_of_discarded {url : String} {request : Request} {reply : Reply} {taken : Unit}
    (answered : some (.ok taken) = some ((received url reply).map fun _ => ())) :
    Accepted (exchangeOf request reply) := by
  cases body : received url reply with
  | ok bytes => exact accepted_of_received body
  | error fault =>
      rw [body] at answered
      cases answered

section Carried

variable {connection : Connection} {turn : GatewayTurn} {outer : List GatewayTurn}
  {turns : List WebTurn}

/-- A question is put by at most one POST, and only if that is its method. -/
theorem countP_isPost_le (run : Runs (connection.answer turn.question) turns (some turn.answer)) :
    turns.countP isPost ≤ if posts turn = true then 1 else 0 := by
  rcases Connection.answer_of_runs run with ⟨-, short, method⟩
  split
  · exact Nat.le_trans List.countP_le_length short
  · rename_i other
    have none : turns.countP isPost = 0 := by
      apply List.countP_eq_zero.mpr
      intro web mem
      simpa [isPost, posts, method web mem] using other
    exact Nat.le_of_eq none

/-- There are at most as many POSTs as questions that are put by one. -/
theorem countP_isPost_le_of_carried (carried : Carried connection.answer outer turns) :
    turns.countP isPost ≤ outer.countP posts := by
  induction carried with
  | none => exact Nat.le_refl 0
  | more run carried induction_hypothesis =>
      rw [List.countP_append, List.countP_cons, Nat.add_comm]
      exact Nat.add_le_add induction_hypothesis (countP_isPost_le run)

/-- Where nothing that the commit counts on was refused, all that it relies on was accepted. Only
three kinds of questions are put by a PUT or a HEAD. -/
theorem accepted_of_runs_answer
    (run : Runs (connection.answer turn.question) turns (some turn.answer))
    (unfailing : fails turn = false) : ∀ web ∈ turns, ReliedOn web → Accepted web := by
  have other : ∀ question : CdnPublish.Question, turn.question = question →
      methodOf question ≠ some .put → methodOf question ≠ some .head →
      ∀ web ∈ turns, ReliedOn web → Accepted web := by
    intro question same notPut notHead web mem reliedOn
    have method := (Connection.answer_of_runs run).2.2 web mem
    rw [same] at method
    rcases reliedOn with put | ⟨head, -⟩
    · exact absurd (method.symm.trans put) notPut
    · exact absurd (method.symm.trans head) notHead
  rcases turn with ⟨question, answer⟩
  cases question with
  | addItem publish record =>
      rcases Connection.runs_addItem_iff.mp run with
        ⟨url, -, reply, rfl, answered⟩ | ⟨fault, -, rfl, -⟩
      · intro web mem reliedOn
        rw [List.mem_singleton.mp mem]
        cases answer with
        | ok taken => exact accepted_of_discarded answered
        | error fault => cases unfailing
      · simp
  | blobExists env key =>
      rcases Connection.runs_blobExists_iff.mp run with ⟨reply, rfl, answered⟩
      intro web mem reliedOn
      rw [List.mem_singleton.mp mem] at reliedOn ⊢
      cases answer with
      | ok found =>
          rcases reliedOn with put | ⟨-, notMissing⟩
          · cases put
          · exact accepted_of_present (Option.some.inj answered).symm notMissing
      | error fault => cases unfailing
  | putBlob env key source =>
      rcases Connection.runs_putBlob_iff.mp run with ⟨reply, rfl, answered⟩
      intro web mem reliedOn
      rw [List.mem_singleton.mp mem]
      cases answer with
      | ok taken => exact accepted_of_discarded answered
      | error fault => cases unfailing
  | createPublish env => exact other _ rfl nofun nofun
  | commitPublish publish deadline => exact other _ rfl nofun nofun
  | getTask link => exact other _ rfl nofun nofun
  | flushCache env paths => exact other _ rfl nofun nofun
  | whoami => exact other _ rfl nofun nofun
  | sleep seconds => exact other _ rfl nofun nofun
  | currentDate => exact other _ rfl nofun nofun

theorem accepted_of_carried (carried : Carried connection.answer outer turns)
    (unfailing : ∀ turn ∈ outer, fails turn = false) :
    ∀ web ∈ turns, ReliedOn web → Accepted web := by
  induction carried with
  | none => simp
  | more run carried induction_hypothesis =>
      intro web mem reliedOn
      rcases List.mem_append.mp mem with here | later
      · exact accepted_of_runs_answer run (unfailing _ List.mem_cons_self) web here reliedOn
      · exact induction_hypothesis (fun turn mem => unfailing turn (List.mem_cons_of_mem _ mem)) web
          later reliedOn

end Carried

section Sync

open CdnPublish.Sync

variable {client : Client} {options : Options} {items : List Item} {date : String}
  {turns : List GatewayTurn}

theorem unfailing_of_kind {turn : GatewayTurn} (notItem : turn.question.kind ≠ .addition)
    (notBlob : turn.question.kind ≠ .blob) : fails turn = false := by
  rcases turn with ⟨question, answer⟩
  cases question with
  | addItem publish record => exact absurd rfl notItem
  | blobExists env key => exact absurd rfl notBlob
  | putBlob env key source => exact absurd rfl notBlob
  | _ => rfl

theorem unfailing_of_granted {turn : GatewayTurn} (granted : Upload.granted turn = true) :
    fails turn = false := by
  rcases turn with ⟨question, answer⟩
  cases question with
  | blobExists env key =>
      cases answer with
      | ok found => rfl
      | error fault => cases granted
  | putBlob env key source =>
      cases answer with
      | ok taken => rfl
      | error fault => cases granted
  | _ => cases granted

theorem countP_posts_eq_zero (quiet : ∀ turn ∈ turns, turn.question.kind ≠ .creation ∧
    turn.question.kind ≠ .commit ∧ turn.question.kind ≠ .flush) : turns.countP posts = 0 := by
  apply List.countP_eq_zero.mpr
  intro turn mem posted
  rcases posts_iff.mp posted with isKind | isKind | isKind
  · exact (quiet turn mem).1 isKind
  · exact (quiet turn mem).2.1 isKind
  · exact (quiet turn mem).2.2 isKind

theorem countP_posts_of_ofKind {kind : CdnPublish.Question.Kind} (same : OfKind kind turns)
    (other : kind ≠ .creation ∧ kind ≠ .commit ∧ kind ≠ .flush) : turns.countP posts = 0 := by
  apply countP_posts_eq_zero
  intro turn mem
  rw [same turn mem]
  exact other

/-- The turns come to a commit: at most one POST goes before it and none follows it, and nothing
that it counts on was refused. -/
def ComesToCommit (deadline : Option String) (turns : List GatewayTurn) : Prop :=
  (∀ turn ∈ turns, fails turn = false) ∧ ∃ first publish answer later,
    turns = first ++ Session.commitOf publish deadline answer :: later ∧
      first.countP posts ≤ 1 ∧ later.countP posts = 0

theorem ComesToCommit.append_left {deadline : Option String} {before : List GatewayTurn}
    (committing : ComesToCommit deadline turns) (quiet : before.countP posts = 0)
    (unfailing : ∀ turn ∈ before, fails turn = false) :
    ComesToCommit deadline (before ++ turns) := by
  rcases committing with ⟨unfailingAfter, first, publish, answer, later, rfl, few, silent⟩
  refine ⟨?_, before ++ first, publish, answer, later, (List.append_assoc ..).symm, ?_, silent⟩
  · intro turn mem
    rcases List.mem_append.mp mem with early | late
    · exact unfailing turn early
    · exact unfailingAfter turn late
  · rw [List.countP_append, quiet, Nat.zero_add]
    exact few

/-- A publish that has taken all its items comes to its commit. -/
theorem comesToCommit_of_filled {env : String} {publish : Publish} {deadline : Option String}
    {answer : Except SyncFault Task} {later : List GatewayTurn}
    (timed : ∀ turn ∈ later, turn.question.kind = .poll ∨ turn.question.kind = .time) :
    ComesToCommit deadline (Session.creationOf env (.ok publish) ::
      (items.map (Session.additionOf publish date) ++
        Session.commitOf publish deadline answer :: later)) := by
  refine ⟨?_, Session.creationOf env (.ok publish) :: items.map (Session.additionOf publish date),
    publish, answer, later, rfl, ?_, ?_⟩
  · intro turn mem
    rcases List.mem_cons.mp mem with rfl | registered
    · rfl
    · rcases List.mem_append.mp registered with added | asked
      · rcases List.mem_map.mp added with ⟨item, -, rfl⟩
        rfl
      · rcases List.mem_cons.mp asked with rfl | after
        · rfl
        · rcases timed turn after with isPoll | isTime
          · exact unfailing_of_kind (by simp [isPoll]) (by simp [isPoll])
          · exact unfailing_of_kind (by simp [isTime]) (by simp [isTime])
  · rw [List.countP_cons,
      countP_posts_of_ofKind (Session.ofKind_additions publish date items) (by decide)]
    exact Nat.le_refl 1
  · apply countP_posts_eq_zero
    intro turn mem
    rcases timed turn mem with isPoll | isTime
    · simp [isPoll]
    · simp [isTime]

/-- From the creation of a publish on, there is one POST and no more, or there is a commit. -/
theorem countP_posts_or_comesToCommit {ending : Option (Except SyncFault (Publish × Task))}
    (course : Client.Course client options items date turns ending) :
    turns.countP posts ≤ 1 ∨ ComesToCommit options.commitDeadline turns := by
  cases course with
  | uncreated fault => exact Or.inl List.countP_le_length
  | @refused publish before after item split cause =>
      left
      have additions := countP_posts_of_ofKind
        (Session.ofKind_refused publish date before cause item) (by decide)
      rw [List.countP_cons, additions]
      exact Nat.le_refl 1
  | denied publish fault => exact Or.inr (comesToCommit_of_filled (by simp))
  | granted publish task concluded =>
      rcases concluded with ⟨ended, run, -⟩
      exact Or.inr (comesToCommit_of_filled (run.asks_allowed (client.asksOnly_conclude ..)))

/-- A sync with more than one POST comes to its commit. -/
theorem comesToCommit_of_runs_sync {tree laterTree : FileTree} {source : LocalPath}
    {destination : String} {ending : Option (Except SyncFault Report)}
    (run : Runs (client.sync tree source destination options laterTree).run turns ending)
    (posted : 2 ≤ turns.countP posts) : ComesToCommit options.commitDeadline turns := by
  cases Client.runs_sync_iff.mp run with
  | unplanned planned => cases posted
  | idle planned idle => cases posted
  | unstored planned active refused =>
      have blobs : OfKind .blob turns := refused.asks_allowed (asksOnly_uploadAll _ _ _ _ _ _)
      rw [countP_posts_of_ofKind blobs (by decide)] at posted
      cases posted
  | @published items before later uploads ended planned active stored published =>
      have blobs : OfKind .blob before := stored.asks_allowed (asksOnly_uploadAll _ _ _ _ _ _)
      have quiet := countP_posts_of_ofKind blobs (by decide)
      rcases Client.runs_publishItems_iff.mp published with ⟨dated, date, rest, ran, course, rfl⟩
      have timed : OfKind .time dated := ofKind_of_runs_startDate ran
      have quietDated := countP_posts_of_ofKind timed (by decide)
      rw [List.countP_append, List.countP_append, quiet, quietDated] at posted
      rcases countP_posts_or_comesToCommit course with single | committing
      · omega
      · have datedCommit := committing.append_left quietDated fun turn isDate =>
          unfailing_of_kind (by simp [timed turn isDate]) (by simp [timed turn isDate])
        exact datedCommit.append_left quiet fun turn uploaded =>
          unfailing_of_granted ((stored_of_runs_uploadAll stored).2 turn uploaded)

end Sync

variable {connection : Connection} {client : Client} {tree laterTree : FileTree}
  {source : LocalPath} {destination : String} {options : CdnPublish.Sync.Options}
  {turns before after : List WebTurn} {creation commit : WebTurn}

/-- The request for the commit of a publish is sent. -/
def IsCommitRequest (connection : Connection) (deadline : Option String) (turn : WebTurn) : Prop :=
  ∃ (publish : Publish) (url : String) (reply : Reply),
    connection.address publish.links "publish" publish.id "commit" = .ok url ∧
      turn = exchangeOf ⟨.post, withDeadline url deadline, .nothing⟩ reply

/-- Where at most one POST goes before, a POST that has another before it comes later. -/
theorem mem_of_second_post {first second : List WebTurn} (few : first.countP isPost ≤ 1)
    (split : first ++ second = before ++ commit :: after) (isCommit : isPost commit = true)
    (earlier : 0 < before.countP isPost) : commit ∈ second := by
  rcases List.append_eq_append_iff.mp split with ⟨rest, rfl, rfl⟩ | ⟨rest, rfl, same⟩
  · simp
  · cases rest with
    | nil =>
        rw [List.nil_append] at same
        rw [← same]
        exact List.mem_cons_self
    | cons other rest =>
        rcases List.cons.inj same with ⟨rfl, -⟩
        rw [List.countP_append, List.countP_cons, if_pos isCommit] at few
        omega

/-- The second POST of a sync asks for the commit. -/
theorem isCommitRequest_of_second_post {deadline : Option String} {outer : List GatewayTurn}
    (carried : Carried connection.answer outer turns) (committing : ComesToCommit deadline outer)
    (split : turns = before ++ commit :: after) (isCommit : isPost commit = true)
    (earlier : 0 < before.countP isPost) : IsCommitRequest connection deadline commit := by
  rcases committing with ⟨-, first, publish, answer, later, rfl, few, silent⟩
  rcases carried_append_iff.mp carried with ⟨start, rest, startCarried, restCarried, rfl⟩
  have startFew := Nat.le_trans (countP_isPost_le_of_carried startCarried) few
  have mem := mem_of_second_post startFew split isCommit earlier
  cases restCarried with
  | more run laterCarried =>
      rcases List.mem_append.mp mem with asked | polled
      · rcases Connection.runs_commitPublish_iff.mp run with
          ⟨url, address, reply, rfl, -⟩ | ⟨fault, -, rfl, -⟩
        · exact ⟨publish, url, reply, address, List.mem_singleton.mp asked⟩
        · cases asked
      · have none : 0 < 0 := by
          calc 0 < _ := List.countP_pos_iff.mpr ⟨commit, polled, isCommit⟩
            _ ≤ _ := countP_isPost_le_of_carried laterCarried
            _ = 0 := silent
        exact absurd none (Nat.lt_irrefl 0)

/-- What a sync over HTTP relies on when it sends its second POST, which asks for the commit of what
the first has created. All of it was accepted. That it was all answered with a status of success
holds exactly if no status was ambiguous. -/
theorem accepted_before_commit {ending : Option (Except SyncFault CdnPublish.Sync.Report)}
    (run : Runs (connection.carry (client.sync tree source destination options laterTree).run)
      turns ending)
    (split : turns = before ++ commit :: after) (isCommit : method? commit = some .post)
    (created : creation ∈ before) (isCreation : method? creation = some .post) :
    IsCommitRequest connection options.commitDeadline commit ∧
    (∀ turn ∈ before, ReliedOn turn → Accepted turn) ∧
    ((∀ turn ∈ before, ReliedOn turn → Successful turn) ↔
      ∀ turn ∈ before, ReliedOn turn → ∀ status, status? turn = some status →
        ¬Ambiguous status) := by
  rcases (runs_answeredBy_iff fun _ _ _ ran => (Connection.answer_of_runs ran).1).mp run with
    ⟨outer, asked, carried⟩
  have first : 0 < before.countP isPost :=
    List.countP_pos_iff.mpr ⟨creation, created, by simpa [isPost] using isCreation⟩
  have second : isPost commit = true := by simpa [isPost] using isCommit
  have posted : 2 ≤ turns.countP isPost := by
    rw [split, List.countP_append, List.countP_cons, if_pos second]
    omega
  have committing := comesToCommit_of_runs_sync asked
    (Nat.le_trans posted (countP_isPost_le_of_carried carried))
  have accepted : ∀ turn ∈ before, ReliedOn turn → Accepted turn := by
    intro turn mem
    apply accepted_of_carried carried committing.1
    rw [split]
    exact List.mem_append_left _ mem
  refine ⟨isCommitRequest_of_second_post carried committing split second first, accepted, ?_, ?_⟩
  · intro successful turn mem reliedOn
    exact (accepted turn mem reliedOn).successful_iff.mp (successful turn mem reliedOn)
  · intro clear turn mem reliedOn
    exact (accepted turn mem reliedOn).successful_iff.mpr (clear turn mem reliedOn)

section Journal

/-- A gateway at the root of a host. -/
def rootGateway : Connection where
  base := ⟨"http".toList, some ⟨[], [], .domain "gw".toList, none⟩, .segments [[]], none, none⟩
  gwUrl := "http://gw"
  uploadUrl := "http://gw/upload"

/-- A publish that says where its items and its commit go. -/
def linkedPublish : Publish := ⟨"p", ⟨[("commit", "/c"), ("self", "/p")], by decide⟩, none, none⟩

/-- The text of the publish. -/
def creationBody : Bytes :=
  .ofString "\x7b\"id\":\"p\",\"links\":\x7b\"self\":\"/p\",\"commit\":\"/c\"\x7d\x7d"

/-- The tree of the links of the publish. -/
def linksTree : Json.Tree :=
  .object [(some "self", .string (some "/p")), (some "commit", .string (some "/c"))]

/-- The reply in which a publish is created. -/
def creationReply : Reply :=
  .answered 200 creationBody

/-- The reply in which a commit is granted that is already complete. -/
def commitReply : Reply :=
  .answered 200 (.ofString "\x7b\"id\":\"t\",\"state\":\"COMPLETE\"\x7d")

/-- The exchanges of a sync of one file with the gateway of a connection. The publish is created by
the given reply, its item is put to one address and answered with the given status, and its commit
is asked for at another. -/
def journalAt (connection : Connection) (creation : Reply) (itemUrl : String) (status : Nat)
    (commitUrl : String) : List WebTurn :=
  [exchangeOf ⟨.put, connection.blobUrl "live" (.ofBytes [104, 105]),
      .octets ⟨2, .ok [104, 105]⟩⟩ (.answered 200 []),
    ⟨.currentDate, "now"⟩,
    exchangeOf ⟨.post, connection.endpoint "live/publish", .nothing⟩ creation,
    exchangeOf ⟨.put, itemUrl, .json (.array [(singleItem.record "now").toJson])⟩
      (.answered status []),
    exchangeOf ⟨.post, commitUrl, .nothing⟩ commitReply]

/-- The exchanges of a sync of one file, whose publish is created by the given reply. -/
def journalFrom (creation : Reply) (status : Nat) : List WebTurn :=
  [exchangeOf ⟨.put, rootGateway.blobUrl "live" (.ofBytes [104, 105]), .octets ⟨2, .ok [104, 105]⟩⟩
      (.answered 200 []),
    ⟨.currentDate, "now"⟩,
    exchangeOf ⟨.post, "http://gw/live/publish", .nothing⟩ creation,
    exchangeOf ⟨.put, "http://gw/p", .json (.array [(singleItem.record "now").toJson])⟩
      (.answered status []),
    exchangeOf ⟨.post, "http://gw/c", .nothing⟩ commitReply]

/-- The exchanges of a sync of one file, whose item is answered with the given status. -/
def journal (status : Nat) : List WebTurn :=
  journalFrom creationReply status

/-- A sync of one file goes on to its commit at any gateway whose publish leads somewhere, if the
status of the item is not a refusal. -/
theorem carried_journalAt {connection : Connection} {creation : Reply} {publish : Publish}
    {itemUrl url : String} {status : Nat} {deadline : Option String}
    (brought : recordIn? Publish.ofTree? creation = some publish)
    (itemAddress : connection.address publish.links "publish" publish.id "self" = .ok itemUrl)
    (commitAddress : connection.address publish.links "publish" publish.id "commit" = .ok url)
    (accepted : status < leastRefusal) :
    Carried connection.answer (datedTurns deadline publish)
      (journalAt connection creation itemUrl status (withDeadline url deadline)) := by
  have stored : Runs (connection.putBlob "live" (.ofBytes [104, 105]) ⟨2, .ok [104, 105]⟩).run
      [exchangeOf ⟨.put, connection.blobUrl "live" (.ofBytes [104, 105]),
        .octets ⟨2, .ok [104, 105]⟩⟩ (.answered 200 [])] (some (.ok ())) :=
    Connection.runs_putBlob_iff.mpr ⟨.answered 200 [], rfl, rfl⟩
  have dated : Runs currentDate [⟨.currentDate, "now"⟩] (some "now") :=
    runs_question_iff.mpr ⟨"now", rfl, rfl⟩
  have created : Runs (connection.createPublish "live").run
      [exchangeOf ⟨.post, connection.endpoint "live/publish", .nothing⟩ creation]
      (some (.ok publish)) :=
    Connection.runs_createPublish_iff.mpr
      ⟨creation, rfl, congrArg some (received_decoded_eq_ok_iff.mpr brought).symm⟩
  have added : Runs (connection.addItem publish (singleItem.record "now")).run
      [exchangeOf ⟨.put, itemUrl, .json (.array [(singleItem.record "now").toJson])⟩
        (.answered status [])] (some (.ok ())) := by
    apply Connection.runs_addItem_iff.mpr
    refine Or.inl ⟨itemUrl, itemAddress, .answered status [], rfl, ?_⟩
    rw [received, if_neg (Nat.not_le_of_lt accepted)]
    rfl
  have granted : recordIn? Task.ofTree? commitReply =
      some ⟨"t", .complete, .none, none, none, none⟩ := by cbv
  have committed : Runs (connection.commitPublish publish deadline).run
      [exchangeOf ⟨.post, withDeadline url deadline, .nothing⟩ commitReply]
      (some (.ok ⟨"t", .complete, .none, none, none, none⟩)) :=
    Connection.runs_commitPublish_iff.mpr (Or.inl ⟨url, commitAddress, commitReply, rfl,
      congrArg some (received_decoded_eq_ok_iff.mpr granted).symm⟩)
  exact .single stored (.single dated (.single created (.single added (.single committed .none))))

/-- Any status that is not a refusal lets the sync go on to its commit, whatever the publish is
called. -/
theorem runs_journalFrom {creation : Reply} {publish : Publish} {status : Nat}
    (brought : recordIn? Publish.ofTree? creation = some publish)
    (linked : publish.links = linkedPublish.links) (accepted : status < leastRefusal) :
    Runs (rootGateway.carry
        ((Client.mk "live" ⟨5, 1, 9⟩).sync singleFile singlePath "/d" .plain).run)
      (journalFrom creation status)
      (some (.ok ⟨[singleItem], ⟨1, 0⟩, some publish,
        some ⟨"t", .complete, .none, none, none, none⟩, false⟩)) := by
  have itemAddress : rootGateway.address publish.links "publish" publish.id "self" =
      .ok "http://gw/p" := by
    rw [linked]
    cbv
  have commitAddress : rootGateway.address publish.links "publish" publish.id "commit" =
      .ok "http://gw/c" := by
    rw [linked]
    cbv
  have endpoint : rootGateway.endpoint "live/publish" = "http://gw/live/publish" := by decide
  have carried : Carried rootGateway.answer (datedTurns none publish)
      (journalAt rootGateway creation "http://gw/p" status "http://gw/c") :=
    carried_journalAt brought itemAddress commitAddress accepted
  have run := Connection.runs_carry_iff.mpr
    ⟨singleTurns publish, runs_sync_singleFile publish, carried⟩
  rw [journalAt, endpoint] at run
  exact run

theorem recordIn?_creationReply :
    recordIn? Publish.ofTree? creationReply = some linkedPublish := by
  have received : Json.Tree.ofReceived? (Text.receive creationBody) =
      some (.object [(some "id", .string (some "p")), (some "links", linksTree)]) := by cbv
  exact (recordIn?_of_tree (by decide) received).trans rfl

theorem runs_journal {status : Nat} (accepted : status < leastRefusal) :
    Runs (rootGateway.carry
        ((Client.mk "live" ⟨5, 1, 9⟩).sync singleFile singlePath "/d" .plain).run)
      (journal status)
      (some (.ok ⟨[singleItem], ⟨1, 0⟩, some linkedPublish,
        some ⟨"t", .complete, .none, none, none, none⟩, false⟩)) :=
  runs_journalFrom recordIn?_creationReply rfl accepted

/-- The exchanges before the commit. -/
def journalBefore (status : Nat) : List WebTurn :=
  (journal status).dropLast

/-- A sync of which every request succeeds. -/
theorem accepted_before_commit_journal :
    IsCommitRequest rootGateway none
      (exchangeOf ⟨.post, "http://gw/c", .nothing⟩ commitReply) ∧
    (∀ turn ∈ journalBefore 200, ReliedOn turn → Accepted turn) ∧
    ((∀ turn ∈ journalBefore 200, ReliedOn turn → Successful turn) ↔
      ∀ turn ∈ journalBefore 200, ReliedOn turn → ∀ status, status? turn = some status →
        ¬Ambiguous status) := by
  have split : journal 200 = journalBefore 200 ++
      exchangeOf ⟨.post, "http://gw/c", .nothing⟩ commitReply :: [] := rfl
  have created : exchangeOf ⟨.post, "http://gw/live/publish", .nothing⟩ creationReply ∈
      journalBefore 200 := .tail _ (.tail _ (.head _))
  exact accepted_before_commit (runs_journal (by decide)) split rfl created rfl

/-- An item that is answered with 304 does not keep the sync from its commit. -/
theorem commit_sent_after_not_modified :
    Runs (rootGateway.carry
        ((Client.mk "live" ⟨5, 1, 9⟩).sync singleFile singlePath "/d" .plain).run)
      (journal 304)
      (some (.ok ⟨[singleItem], ⟨1, 0⟩, some linkedPublish,
        some ⟨"t", .complete, .none, none, none, none⟩, false⟩)) ∧
    ∃ creation commit, journal 304 = journalBefore 304 ++ [commit] ∧
      method? commit = some .post ∧ creation ∈ journalBefore 304 ∧
      method? creation = some .post ∧
      ¬∀ turn ∈ journalBefore 304, ReliedOn turn → Successful turn := by
  refine ⟨runs_journal (by decide),
    exchangeOf ⟨.post, "http://gw/live/publish", .nothing⟩ creationReply,
    exchangeOf ⟨.post, "http://gw/c", .nothing⟩ commitReply, rfl, rfl, .tail _ (.tail _ (.head _)),
    rfl, ?_⟩
  intro successful
  have added : exchangeOf ⟨.put, "http://gw/p", .json (.array [(singleItem.record "now").toJson])⟩
      (.answered 304 []) ∈ journalBefore 304 := .tail _ (.tail _ (.tail _ (.head _)))
  rcases successful _ added (Or.inl rfl) with ⟨status, answered, -, atMost⟩
  cases answered
  omega

end Journal

end CdnPublish.Http
