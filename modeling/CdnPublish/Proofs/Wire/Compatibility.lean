import CdnPublish.Proofs.Json.Grammar
import CdnPublish.Proofs.Poll.Unknown
import CdnPublish.Proofs.Wire.Fields

/-!
# Reading records of a later gateway

A gateway may come to say more than it does now: members under names that this library does not
know, and states of a task that it has no word for. Neither keeps a task or a publish from being
read. A reader looks at the members under its own names, each of which may stand once, so all that
stands besides them may be there or not.

Names and states are texts. The notation of strings also has room for a string without a text, such
as half of a pair without the other half. It may stand anywhere inside a value that is passed over,
but a record with a member of that name, or a task with that state, is not read.
-/

namespace CdnPublish

open CdnPublish.Json (BlankForm Tree MemberText ObjectText ValueForm)

namespace Wire

/-- The second list of members is the first with others put in, whose names are not among those
given. -/
inductive Extends (names : List String) :
    List (Option String × Tree) → List (Option String × Tree) → Prop where
  | none : Extends names [] []
  | kept {older newer : List (Option String × Tree)} (member : Option String × Tree)
      (later : Extends names older newer) : Extends names (member :: older) (member :: newer)
  | inserted {older newer : List (Option String × Tree)} {name : String} (unknown : name ∉ names)
      (tree : Tree) (later : Extends names older newer) :
      Extends names older ((some name, tree) :: newer)

variable {names : List String} {older newer : List (Option String × Tree)}
  {found : List (Option Tree)}

theorem lookup_filter (name : String) (entries : List (String × Tree)) :
    (entries.filter (·.1 = name)).lookup name = entries.lookup name := by
  induction entries with
  | nil => rfl
  | cons entry entries induction_hypothesis =>
      rcases entry with ⟨key, tree⟩
      by_cases same : key = name
      · simp [same]
      · have other : (name == key) = false := by simpa using Ne.symm same
        simpa [same, other, List.lookup_cons] using induction_hypothesis

theorem Extends.isSome (extended : Extends names older newer) :
    (∀ member ∈ newer, member.1.isSome = true) ↔ ∀ member ∈ older, member.1.isSome = true := by
  induction extended with
  | none => exact Iff.rfl
  | kept member later induction_hypothesis =>
      rw [List.forall_mem_cons, List.forall_mem_cons, induction_hypothesis]
  | inserted unknown tree later induction_hypothesis =>
      rw [List.forall_mem_cons, induction_hypothesis]
      exact and_iff_right rfl

theorem Extends.filter_textNamed? (extended : Extends names older newer) {name : String}
    (isGiven : name ∈ names) :
    (newer.filterMap textNamed?).filter (·.1 = name) =
      (older.filterMap textNamed?).filter (·.1 = name) := by
  induction extended with
  | none => rfl
  | kept member later induction_hypothesis =>
      rw [List.filterMap_cons, List.filterMap_cons]
      cases textNamed? member with
      | none => exact induction_hypothesis
      | some entry => simp only [List.filter_cons, induction_hypothesis]
  | @inserted older newer key unknown tree later induction_hypothesis =>
      have other : key ≠ name := by
        rintro rfl
        exact unknown isGiven
      simpa [textNamed?, other] using induction_hypothesis

/-- Members under other names make no difference to what is found under those given, nor to whether
it can be found. -/
theorem Extends.fields? (extended : Extends names older newer) :
    fields? names (.object newer) = fields? names (.object older) := by
  have lookups : ∀ name ∈ names, (newer.filterMap textNamed?).lookup name =
      (older.filterMap textNamed?).lookup name := by
    intro name isGiven
    rw [← lookup_filter, extended.filter_textNamed? isGiven, lookup_filter]
  have once : (∀ name ∈ names, ((newer.filterMap textNamed?).filter (·.1 = name)).length ≤ 1) ↔
      ∀ name ∈ names, ((older.filterMap textNamed?).filter (·.1 = name)).length ≤ 1 :=
    forall₂_congr fun name isGiven => by rw [extended.filter_textNamed? isGiven]
  apply Option.ext
  intro found
  rw [fields?_object_eq_some_iff, fields?_object_eq_some_iff, extended.isSome, once,
    List.map_congr_left lookups]

section Replaced

variable {before after : List (Option String × Tree)} {name key : String} {tree other : Tree}

theorem filterMap_textNamed?_around :
    (before ++ (some name, tree) :: after).filterMap textNamed? =
      before.filterMap textNamed? ++ (name, tree) :: after.filterMap textNamed? := by
  simp [textNamed?]

theorem length_filter_replaced {first second : List (String × Tree)} :
    ((first ++ (name, other) :: second).filter (·.1 = key)).length =
      ((first ++ (name, tree) :: second).filter (·.1 = key)).length := by
  by_cases same : name = key <;> simp [same]

theorem lookup_eq_none_of_once {first second : List (String × Tree)}
    (once : ((first ++ (name, tree) :: second).filter (·.1 = name)).length ≤ 1) :
    first.lookup name = none := by
  have absent : first.filter (·.1 = name) = [] := by
    rw [List.filter_append, List.length_append, List.filter_cons_of_pos (by simp),
      List.length_cons] at once
    exact List.eq_nil_of_length_eq_zero (by omega)
  rw [← lookup_filter, absent]
  rfl

theorem lookup_replaced {first second : List (String × Tree)}
    (once : ((first ++ (name, tree) :: second).filter (·.1 = name)).length ≤ 1) :
    (fun key => (first ++ (name, other) :: second).lookup key) =
      Function.update (fun key => (first ++ (name, tree) :: second).lookup key) name
        (some other) := by
  funext key
  by_cases same : key = name
  · subst same
    rw [Function.update_self, List.lookup_append, lookup_eq_none_of_once once]
    simp
  · have differs : (key == name) = false := by simpa using same
    rw [Function.update_of_ne same]
    simp [List.lookup_append, List.lookup_cons, differs]

/-- Another value under a name that is given changes what is found there and nothing else. -/
theorem fields?_replaced (isGiven : name ∈ names)
    (read : fields? names (.object (before ++ (some name, tree) :: after)) = some found)
    (other : Tree) :
    ∃ look : String → Option Tree, found = names.map look ∧
      fields? names (.object (before ++ (some name, other) :: after)) =
        some (names.map (Function.update look name (some other))) := by
  rcases fields?_object_eq_some_iff.mp read with ⟨texts, once, rfl⟩
  rw [filterMap_textNamed?_around] at once ⊢
  refine ⟨_, rfl, fields?_object_eq_some_iff.mpr ⟨?_, ?_, ?_⟩⟩
  · rw [List.forall_mem_append, List.forall_mem_cons] at texts ⊢
    exact texts
  · intro key isKey
    rw [filterMap_textNamed?_around, length_filter_replaced]
    exact once key isKey
  · rw [filterMap_textNamed?_around]
    exact congrArg names.map (lookup_replaced (once name isGiven))

end Replaced

end Wire

open Wire (Extends)

variable {older newer before after : List (Option String × Tree)} {tree : Tree}

namespace TaskState

theorem ofWord_of_not_mem {word : String}
    (unknown : word ∉ ["COMPLETE", "FAILED", "IN_PROGRESS", "NOT_STARTED"]) :
    ofWord word = .unknown := by
  simp only [List.mem_cons, List.not_mem_nil, or_false, not_or] at unknown
  simp [ofWord, unknown]

end TaskState

namespace Task

/-- The names under which a task has its members. -/
def memberNames : List String :=
  ["id", "state", "links", "updated", "publish_id", "deadline"]

theorem ofTree?_of_extends (extended : Extends memberNames older newer) :
    ofTree? (.object newer) = ofTree? (.object older) := by
  have same : Wire.fields? ["id", "state", "links", "updated", "publish_id", "deadline"]
    (.object newer) = _ := extended.fields?
  rw [ofTree?, same]
  rfl

theorem ofTree?_of_fields {look : String → Option Tree}
    (read : Wire.fields? memberNames tree = some (memberNames.map look)) :
    ofTree? tree = do
      return {
        id := ← Wire.required Wire.text? (look "id")
        state := ← Wire.required TaskState.ofTree? (look "state")
        links := ← Wire.defaulted Links.none Links.ofTree? (look "links")
        updated := ← Wire.optional? (look "updated")
        publishId := ← Wire.optional? (look "publish_id")
        deadline := ← Wire.optional? (look "deadline") } := by
  have same : Wire.fields? ["id", "state", "links", "updated", "publish_id", "deadline"]
    tree = _ := read
  rw [ofTree?, same]
  rfl

theorem exists_fields_of_ofTree? {task : Task} (read : ofTree? tree = some task) :
    ∃ found, Wire.fields? memberNames tree = some found := by
  rcases fields : Wire.fields? memberNames tree with _ | found
  · have missing : Wire.fields? ["id", "state", "links", "updated", "publish_id", "deadline"]
      tree = none := fields
    rw [ofTree?, missing] at read
    cases read
  · exact ⟨found, rfl⟩

theorem ofTree?_of_unknown_word {task : Task} {word : String}
    (unknown : word ∉ ["COMPLETE", "FAILED", "IN_PROGRESS", "NOT_STARTED"])
    (read : ofTree? (.object (before ++ (some "state", tree) :: after)) = some task) :
    ofTree? (.object (before ++ (some "state", .string (some word)) :: after)) =
      some { task with state := .unknown } := by
  rcases exists_fields_of_ofTree? read with ⟨found, fields⟩
  rcases Wire.fields?_replaced (by decide) fields (.string (some word)) with ⟨look, rfl, replaced⟩
  rw [ofTree?_of_fields fields] at read
  rw [ofTree?_of_fields replaced]
  simp only [Option.bind_eq_bind, Option.bind_eq_some_iff, Option.pure_def] at read
  rcases read with ⟨id, hasId, state, -, links, hasLinks, updated, hasUpdated, publishId,
    hasPublishId, deadline, hasDeadline, same⟩
  cases same
  have stated : Wire.required TaskState.ofTree? (some (.string (some word))) = some .unknown :=
    congrArg some (TaskState.ofWord_of_not_mem unknown)
  simp [hasId, hasLinks, hasUpdated, hasPublishId, hasDeadline, stated]

end Task

namespace Publish

/-- The names under which a publish has its members. -/
def memberNames : List String :=
  ["id", "links", "env", "state"]

theorem ofTree?_of_extends (extended : Extends memberNames older newer) :
    ofTree? (.object newer) = ofTree? (.object older) := by
  have same : Wire.fields? ["id", "links", "env", "state"] (.object newer) = _ := extended.fields?
  rw [ofTree?, same]
  rfl

end Publish

open Program Poller

/-- What a later gateway adds is passed over. Members under names that are not declared, at any
place and with whatever values the notation has, change nothing about what a task or a publish is
read as, and a state that has no word here is read as the unknown state. A wait treats that state as
it treats a task in progress: over the gateway it takes the same turns to the same end, and with any
way of fetching it comes to the same end after answers that are alike. -/
theorem Wire.forward_compatible :
    (∀ value, ValueForm value → ∃ tree, Tree.ofReceived? (value.map some) = some tree) ∧
    (∀ older newer entries more, ObjectText older entries → ObjectText newer more →
      (Extends Task.memberNames entries more →
        (Tree.ofReceived? newer).bind Task.ofTree? = (Tree.ofReceived? older).bind Task.ofTree?) ∧
      (Extends Publish.memberNames entries more →
        (Tree.ofReceived? newer).bind Publish.ofTree? =
          (Tree.ofReceived? older).bind Publish.ofTree?)) ∧
    (∀ older newer before after tree word task,
      ObjectText older (before ++ (some "state", tree) :: after) →
      ObjectText newer (before ++ (some "state", .string (some word)) :: after) →
      word ∉ ["COMPLETE", "FAILED", "IN_PROGRESS", "NOT_STARTED"] →
      (Tree.ofReceived? older).bind Task.ofTree? = some task →
      (Tree.ofReceived? newer).bind Task.ofTree? = some { task with state := .unknown }) ∧
    TaskState.unknown.isTerminal = false ∧
    (∀ (poller : Poller) (task : Task) turns ending,
      Runs (poller.awaitTask { task with state := .unknown }).run turns ending ↔
        Runs (poller.awaitTask { task with state := .inProgress }).run turns ending) ∧
    (∀ (poller : Poller) fetch (task : Task) answers others turns otherTurns ending,
      List.Forall₂ Fetched.Alike answers others →
      Rounds poller fetch { task with state := .unknown } answers turns →
      Rounds poller fetch { task with state := .inProgress } others otherTurns →
      (Runs (poller.awaitTerminal fetch { task with state := .unknown }).run turns ending ↔
        Runs (poller.awaitTerminal fetch { task with state := .inProgress }).run otherTurns
          ending)) := by
  refine ⟨?_, ?_, ?_, rfl, ?_, ?_⟩
  · exact fun value form => form.exists_tree
  · intro older newer entries more spelled spelledMore
    rw [Json.ofReceived?_of_objectText spelled, Json.ofReceived?_of_objectText spelledMore]
    exact ⟨Task.ofTree?_of_extends, Publish.ofTree?_of_extends⟩
  · intro older newer before after tree word task spelled spelledWord unknown read
    rw [Json.ofReceived?_of_objectText spelled] at read
    rw [Json.ofReceived?_of_objectText spelledWord]
    exact Task.ofTree?_of_unknown_word unknown read
  · intro poller task turns ending
    exact runs_awaitTask_unknown_iff poller task
  · intro poller fetch task answers others turns otherTurns ending alike taken otherTaken
    exact runs_rounds_iff_of_alike alike taken otherTaken rfl rfl

section Paused

open Text (Received)

/-- A text as it is received without a fault. -/
def receivedText (text : String) : Received :=
  text.toList.map some

/-- A task of which only the state is told. -/
def taskIn (state : TaskState) : Task :=
  ⟨"t", state, .none, none, none, none⟩

/-- The members of that task. -/
def taskMembers (word : String) : List (Option String × Tree) :=
  [(some "id", .string (some "t")), (some "state", .string (some word))]

/-- A member that no task has. -/
def shards : Option String × Tree :=
  (some "shards", .array [.null])

/-- The task in progress. -/
def startedText : Received :=
  receivedText "\x7b\"id\":\"t\",\"state\":\"IN_PROGRESS\"\x7d"

/-- The same with its shards. -/
def shardedText : Received :=
  receivedText "\x7b\"id\":\"t\",\"state\":\"IN_PROGRESS\", \"shards\": [null]\x7d"

/-- The same in a state that has no word here. -/
def pausedText : Received :=
  receivedText "\x7b\"id\":\"t\",\"state\":\"PAUSED\", \"shards\": [null]\x7d"

theorem memberText_id :
    MemberText (receivedText "\"id\":\"t\"") (some "id", .string (some "t")) :=
  ⟨receivedText "\"id\"", receivedText "\"t\"", by decide, by decide, rfl⟩

theorem memberText_inProgress : MemberText (receivedText "\"state\":\"IN_PROGRESS\"")
    (some "state", .string (some "IN_PROGRESS")) :=
  ⟨receivedText "\"state\"", receivedText "\"IN_PROGRESS\"", by decide, by decide, rfl⟩

theorem memberText_paused : MemberText (receivedText "\"state\":\"PAUSED\"")
    (some "state", .string (some "PAUSED")) :=
  ⟨receivedText "\"state\"", receivedText "\"PAUSED\"", by decide, by decide, rfl⟩

theorem memberText_shards : MemberText (receivedText " \"shards\": [null]") shards :=
  ⟨receivedText " \"shards\"", receivedText " [null]", by decide, by decide, rfl⟩

theorem valueForm_shards : ValueForm [' ', '[', 'n', 'u', 'l', 'l', ']'] := by
  have words : ∀ element ∈ [['n', 'u', 'l', 'l']], ValueForm element := by
    rw [List.forall_mem_singleton]
    exact .word (by simp)
  exact @ValueForm.padded [' '] _ [] (by simp [BlankForm]) (by simp [BlankForm]) (.array words)

theorem objectText_started : ObjectText startedText (taskMembers "IN_PROGRESS") :=
  ⟨[], _, [], by decide, rfl, rfl, .cons memberText_id (.cons memberText_inProgress .nil)⟩

theorem objectText_sharded : ObjectText shardedText (taskMembers "IN_PROGRESS" ++ [shards]) :=
  ⟨[], _, [], by decide, rfl, rfl,
    .cons memberText_id (.cons memberText_inProgress (.cons memberText_shards .nil))⟩

theorem objectText_paused : ObjectText pausedText (taskMembers "PAUSED" ++ [shards]) :=
  ⟨[], _, [], by decide, rfl, rfl,
    .cons memberText_id (.cons memberText_paused (.cons memberText_shards .nil))⟩

/-- Asks for a task by its name. -/
def fetchNamed : Fetch :=
  fun task => Gateway.getTask task.id

/-- The turns in which the task is seen in a state and then complete. -/
def seenTurns (state : TaskState) : List GatewayTurn :=
  [Poller.pause ⟨5, 1, 9⟩, sightOf "t" (taskIn state), Poller.pause ⟨5, 1, 9⟩,
    sightOf "t" (taskIn .complete)]

theorem runs_fetchNamed (before after : TaskState) :
    Runs (fetchNamed (taskIn before)) [sightOf "t" (taskIn after)] (some (.ok (taskIn after))) :=
  .ask _ (.done _)

theorem rounds_seenTurns (state : TaskState) : Rounds ⟨5, 1, 9⟩ fetchNamed (taskIn state)
    [.ok (taskIn state), .ok (taskIn .complete)] (seenTurns state) :=
  .more (runs_fetchNamed ..) (.more (runs_fetchNamed ..) (.none _))

theorem runs_seenTurns_inProgress :
    Runs ((Poller.mk 5 1 9).rounds fetchNamed 9 0 (taskIn .inProgress)) (seenTurns .inProgress)
      (some (.ok (taskIn .complete))) := by
  have last : Runs ((Poller.mk 5 1 9).rounds fetchNamed 8 0 (taskIn .inProgress))
      [Poller.pause ⟨5, 1, 9⟩, sightOf "t" (taskIn .complete)] (some (.ok (taskIn .complete))) :=
    (runs_last_round_iff rfl (runs_fetchNamed ..) rfl).mpr ⟨rfl, rfl⟩
  exact (runs_round_iff rfl (runs_fetchNamed .inProgress .inProgress) rfl).mpr last

/-- A task in progress is described with a member more and then in a state more; it is waited for
until it is complete. -/
theorem Wire.forward_compatible_paused :
    (∃ tree, Tree.ofReceived? (receivedText " [null]") = some tree) ∧
    ObjectText startedText (taskMembers "IN_PROGRESS") ∧
    ObjectText shardedText (taskMembers "IN_PROGRESS" ++ [shards]) ∧
    ObjectText pausedText (taskMembers "PAUSED" ++ [shards]) ∧
    Extends Task.memberNames (taskMembers "IN_PROGRESS") (taskMembers "IN_PROGRESS" ++ [shards]) ∧
    (Tree.ofReceived? shardedText).bind Task.ofTree? = some (taskIn .inProgress) ∧
    (Tree.ofReceived? pausedText).bind Task.ofTree? = some (taskIn .unknown) ∧
    Rounds ⟨5, 1, 9⟩ fetchNamed (taskIn .unknown) [.ok (taskIn .unknown), .ok (taskIn .complete)]
      (seenTurns .unknown) ∧
    Rounds ⟨5, 1, 9⟩ fetchNamed (taskIn .inProgress)
      [.ok (taskIn .inProgress), .ok (taskIn .complete)] (seenTurns .inProgress) ∧
    Runs ((Poller.mk 5 1 9).awaitTerminal fetchNamed (taskIn .unknown)).run (seenTurns .unknown)
      (some (.ok (taskIn .complete))) := by
  have extended : Extends Task.memberNames (taskMembers "IN_PROGRESS")
      (taskMembers "IN_PROGRESS" ++ [shards]) :=
    .kept _ (.kept _ (.inserted (by decide) _ .none))
  have started : (Tree.ofReceived? startedText).bind Task.ofTree? = some (taskIn .inProgress) := by
    decide
  have sharded : (Tree.ofReceived? shardedText).bind Task.ofTree? = some (taskIn .inProgress) := by
    rw [(Wire.forward_compatible.2.1 _ _ _ _ objectText_started objectText_sharded).1 extended]
    exact started
  have paused : (Tree.ofReceived? pausedText).bind Task.ofTree? = some (taskIn .unknown) :=
    Wire.forward_compatible.2.2.1 _ _ [(some "id", .string (some "t"))] [shards] _ "PAUSED" _
      objectText_sharded objectText_paused (by decide) sharded
  have alike : List.Forall₂ Fetched.Alike [.ok (taskIn .unknown), .ok (taskIn .complete)]
      [.ok (taskIn .inProgress), .ok (taskIn .complete)] :=
    .cons (.unnamed (taskIn .inProgress)) (.cons (.same _) .nil)
  have waited := Wire.forward_compatible.2.2.2.2.2 ⟨5, 1, 9⟩ fetchNamed (taskIn .inProgress) _ _ _ _
    (some (.ok (taskIn .complete))) alike (rounds_seenTurns .unknown)
    (rounds_seenTurns .inProgress)
  exact ⟨Wire.forward_compatible.1 _ valueForm_shards, objectText_started, objectText_sharded,
    objectText_paused, extended, sharded, paused, rounds_seenTurns _, rounds_seenTurns _,
    waited.mpr runs_seenTurns_inProgress⟩

end Paused

end CdnPublish
