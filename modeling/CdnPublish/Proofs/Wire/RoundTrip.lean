import CdnPublish.Proofs.Wire.Fields

/-!
# Records are read back

The names of the fields of every record differ from each other, and what is written under each of
them is read back. A reader of the same type therefore gets from the text of a written record the
record itself, whatever characters its texts have and whichever fields are left out.
-/

namespace CdnPublish

open CdnPublish.Json (Tree Spells)
open Wire (Field)

namespace Links

variable {links : Links} {pairs : List (String × String)}

/-- A link whose name comes after all others is put last. -/
theorem entries_insert_of_last {name target : String}
    (last : ∀ entry ∈ links.entries, entry.1 < name) :
    (links.insert name target).entries = links.entries ++ [(name, target)] := by
  have before : links.entries.filter (·.1 < name) = links.entries := by
    apply List.filter_eq_self.mpr
    simpa using fun own target mem => last (own, target) mem
  have after : links.entries.filter (name < ·.1) = [] := by
    apply List.filter_eq_nil_iff.mpr
    intro entry mem
    rw [decide_eq_true_eq]
    exact String.lt_asymm (last entry mem)
  change links.entries.filter (·.1 < name) ++
    (name, target) :: links.entries.filter (name < ·.1) = _
  rw [before, after]

theorem entries_foldl_insert
    (ordered : (links.entries ++ pairs).Pairwise fun first second => first.1 < second.1) :
    (pairs.foldl (fun links pair => links.insert pair.1 pair.2) links).entries =
      links.entries ++ pairs := by
  induction pairs generalizing links with
  | nil => simp
  | cons pair pairs induction_hypothesis =>
      have last : ∀ entry ∈ links.entries, entry.1 < pair.1 :=
        fun entry mem => (List.pairwise_append.mp ordered).2.2 entry mem pair List.mem_cons_self
      have inserted : (links.insert pair.1 pair.2).entries = links.entries ++ [(pair.1, pair.2)] :=
        entries_insert_of_last last
      rw [List.foldl_cons, induction_hypothesis, inserted]
      · simp
      · rw [inserted]
        simpa using ordered

/-- Links are made of their own entries. -/
theorem ofList_entries (links : Links) : ofList links.entries = links := by
  have same : (ofList links.entries).entries = links.entries :=
    @entries_foldl_insert none links.entries links.ordered
  rcases links with ⟨entries, ordered⟩
  generalize ofList entries = made at same
  rcases made with ⟨others, _⟩
  obtain rfl : others = entries := same
  rfl

/-- The tree of links. -/
def tree (links : Links) : Tree :=
  .object (links.entries.map fun (name, target) => (some name, .string (some target)))

theorem spells_toJson (links : Links) : Spells links.toJson links.tree := by
  apply Json.spells_object
  induction links.entries with
  | nil => exact .nil
  | cons entry entries induction_hypothesis =>
      exact .cons ⟨rfl, Json.spells_string entry.2⟩ induction_hypothesis

@[simp] theorem ofTree?_tree (links : Links) : ofTree? links.tree = some links := by
  have read : (links.entries.map fun entry =>
      (some entry.1, Tree.string (some entry.2))).mapM entry? = some links.entries := by
    induction links.entries with
    | nil => rfl
    | cons entry entries induction_hypothesis => simp_all [Wire.text?, entry?]
  simp [ofTree?, tree, read, ofList_entries]

end Links

namespace TaskState

theorem spells_toJson (state : TaskState) :
    Spells state.toJson (.string (some state.word)) :=
  Json.spells_string state.word

@[simp] theorem ofTree?_word (state : TaskState) :
    ofTree? (.string (some state.word)) = some state :=
  congrArg some (ofWord_word state)

end TaskState

namespace Wire

/-- A task state under a name. -/
def Field.state (name : String) (state : TaskState) : Field :=
  ⟨name, some (state.toJson, .string (some state.word))⟩

/-- Links under a name. -/
def Field.links (name : String) (links : Links) : Field :=
  ⟨name, some (links.toJson, links.tree)⟩

namespace Field

theorem faithful_state (name : String) (state : TaskState) : (Field.state name state).Faithful := by
  rintro content ⟨⟩
  exact state.spells_toJson

theorem faithful_links (name : String) (links : Links) : (Field.links name links).Faithful := by
  rintro content ⟨⟩
  exact links.spells_toJson

@[simp] theorem required_state (name : String) (state : TaskState) :
    required TaskState.ofTree? (Field.state name state).tree? = some state :=
  state.ofTree?_word

@[simp] theorem defaulted_links (name : String) (links : Links) :
    defaulted Links.none Links.ofTree? (Field.links name links).tree? = some links :=
  links.ofTree?_tree

end Field

end Wire

namespace Task

/-- The declared fields of a task. -/
def fields (task : Task) : List Field :=
  [.text "id" task.id, .state "state" task.state, .links "links" task.links,
    .nullable "updated" task.updated, .optional "publish_id" task.publishId,
    .optional "deadline" task.deadline]

theorem toJson_eq_object (task : Task) : task.toJson = Wire.object task.fields := by
  rcases task with ⟨id, state, links, updated, publishId, deadline⟩
  cases publishId <;> cases deadline <;> rfl

theorem ofTree?_render (task : Task) :
    (Tree.ofString? task.toJson.render).bind ofTree? = some task := by
  have faithful : ∀ field ∈ task.fields, field.Faithful := by
    simp [fields, Field.faithful_text, Field.faithful_state, Field.faithful_links,
      Field.faithful_nullable, Field.faithful_optional]
  have distinct : (task.fields.map Field.name).Nodup := by
    change ["id", "state", "links", "updated", "publish_id", "deadline"].Nodup
    decide
  rw [toJson_eq_object]
  apply Wire.bind_render faithful distinct
  intro tree (read : Wire.fields? ["id", "state", "links", "updated", "publish_id", "deadline"]
    tree = _)
  simp [ofTree?, read, fields]

end Task

namespace Publish

/-- The declared fields of a publish. -/
def fields (publish : Publish) : List Field :=
  [.text "id" publish.id, .links "links" publish.links, .optional "env" publish.env,
    .optional "state" publish.state]

theorem toJson_eq_object (publish : Publish) : publish.toJson = Wire.object publish.fields := by
  rcases publish with ⟨id, links, env, state⟩
  cases env <;> cases state <;> rfl

theorem ofTree?_render (publish : Publish) :
    (Tree.ofString? publish.toJson.render).bind ofTree? = some publish := by
  have faithful : ∀ field ∈ publish.fields, field.Faithful := by
    simp [fields, Field.faithful_text, Field.faithful_links, Field.faithful_optional]
  have distinct : (publish.fields.map Field.name).Nodup := by
    change ["id", "links", "env", "state"].Nodup
    decide
  rw [toJson_eq_object]
  apply Wire.bind_render faithful distinct
  intro tree (read : Wire.fields? ["id", "links", "env", "state"] tree = _)
  simp [ofTree?, read, fields]

/-- A field that is left out leaves no trace in the text. -/
example : (Publish.mk "a\n\"é" Links.none none (some "")).toJson.render =
    "\x7b\"id\":\"a\\n\\\"é\",\"links\":\x7b\x7d,\"state\":\"\"\x7d" := by
  cbv

end Publish

namespace ItemRecord

/-- The declared fields of the record of an item. -/
def fields (record : ItemRecord) : List Field :=
  [.text "web_uri" record.webUri, .optional "object_key" record.objectKey,
    .optional "link_to" record.linkTo, .optional "content_type" record.contentType,
    .text "from_date" record.fromDate]

theorem toJson_eq_object (record : ItemRecord) : record.toJson = Wire.object record.fields := by
  rcases record with ⟨webUri, objectKey, linkTo, contentType, fromDate⟩
  cases objectKey <;> cases linkTo <;> cases contentType <;> rfl

theorem ofTree?_render (record : ItemRecord) :
    (Tree.ofString? record.toJson.render).bind ofTree? = some record := by
  have faithful : ∀ field ∈ record.fields, field.Faithful := by
    simp [fields, Field.faithful_text, Field.faithful_optional]
  have distinct : (record.fields.map Field.name).Nodup := by
    change ["web_uri", "object_key", "link_to", "content_type", "from_date"].Nodup
    decide
  rw [toJson_eq_object]
  apply Wire.bind_render faithful distinct
  intro tree (read : Wire.fields? ["web_uri", "object_key", "link_to", "content_type", "from_date"]
    tree = _)
  simp [ofTree?, read, fields]

end ItemRecord

namespace FlushRecord

/-- The declared fields of a path to flush. -/
def fields (record : FlushRecord) : List Field :=
  [.text "web_uri" record.webUri]

theorem ofTree?_render (record : FlushRecord) :
    (Tree.ofString? record.toJson.render).bind ofTree? = some record := by
  have faithful : ∀ field ∈ record.fields, field.Faithful := by
    simp [fields, Field.faithful_text]
  have distinct : (record.fields.map Field.name).Nodup := List.nodup_singleton _
  change (Tree.ofString? (Wire.object record.fields).render).bind ofTree? = some record
  apply Wire.bind_render faithful distinct
  intro tree (read : Wire.fields? ["web_uri"] tree = _)
  simp [ofTree?, read, fields]

end FlushRecord

theorem Links.ofTree?_render (links : Links) :
    (Tree.ofString? links.toJson.render).bind ofTree? = some links := by
  rw [Json.ofString?_render links.spells_toJson]
  exact links.ofTree?_tree

/-- Every record is read back from the text that it is written as. -/
theorem Wire.records_read_back :
    (∀ task : Task, (Tree.ofString? task.toJson.render).bind Task.ofTree? = some task) ∧
    (∀ publish : Publish,
      (Tree.ofString? publish.toJson.render).bind Publish.ofTree? = some publish) ∧
    (∀ links : Links, (Tree.ofString? links.toJson.render).bind Links.ofTree? = some links) ∧
    (∀ record : ItemRecord,
      (Tree.ofString? record.toJson.render).bind ItemRecord.ofTree? = some record) ∧
    (∀ record : FlushRecord,
      (Tree.ofString? record.toJson.render).bind FlushRecord.ofTree? = some record) :=
  ⟨Task.ofTree?_render, Publish.ofTree?_render, Links.ofTree?_render, ItemRecord.ofTree?_render,
    FlushRecord.ofTree?_render⟩

end CdnPublish
