import CdnPublish.Wire
import CdnPublish.Proofs.Json.Reading

/-!
# The fields of records

A reader of a record looks at the members of an object under the names that it declares. A record is
written as the object of its declared fields, less those that are left out. When no two of them have
one name, a reader finds under each name what was written there, and nothing under the names that
were left out.
-/

namespace CdnPublish

open CdnPublish.Json (Tree Spells SpellsMember)

namespace Wire

section Object

variable {names : List String} {members : List (Option String × Tree)}
  {found : List (Option Tree)}

/-- A member whose name is a text. -/
def textNamed? : Option String × Tree → Option (String × Tree)
  | (name, tree) => name.map (·, tree)

theorem mapM_textNamed?_eq_some_iff {entries : List (String × Tree)} :
    members.mapM textNamed? = some entries ↔
      (∀ member ∈ members, member.1.isSome = true) ∧ members.filterMap textNamed? = entries := by
  induction members generalizing entries with
  | nil => simp
  | cons member members induction_hypothesis =>
      rw [List.mapM_cons, List.forall_mem_cons]
      rcases member with ⟨_ | name, tree⟩
      · simp [textNamed?]
      · have first : textNamed? (some name, tree) = some (name, tree) := rfl
        simp only [first, Option.bind_eq_bind, Option.bind_some, Option.bind_eq_some_iff,
          induction_hypothesis, List.filterMap_cons, Option.isSome_some, true_and, Option.pure_def,
          Option.some.injEq]
        constructor
        · rintro ⟨entries, ⟨texts, rfl⟩, rfl⟩
          exact ⟨texts, rfl⟩
        · rintro ⟨texts, rfl⟩
          exact ⟨_, ⟨texts, rfl⟩, rfl⟩

/-- An object is read if all its names are texts and none of those given stands twice; under each
of these is found what stands there. -/
theorem fields?_object_eq_some_iff : fields? names (.object members) = some found ↔
    (∀ member ∈ members, member.1.isSome = true) ∧
    (∀ name ∈ names, ((members.filterMap textNamed?).filter (·.1 = name)).length ≤ 1) ∧
    names.map (fun name => (members.filterMap textNamed?).lookup name) = found := by
  change (members.mapM textNamed? >>= fun entries =>
    if names.all fun name => (entries.filter (·.1 = name)).length ≤ 1 then
      some (names.map fun name => entries.lookup name)
    else none) = some found ↔ _
  simp only [Option.bind_eq_bind, Option.bind_eq_some_iff, mapM_textNamed?_eq_some_iff,
    Option.ite_none_right_eq_some, List.all_eq_true, decide_eq_true_eq, Option.some.injEq]
  constructor
  · rintro ⟨entries, ⟨texts, rfl⟩, once, found⟩
    exact ⟨texts, once, found⟩
  · rintro ⟨texts, once, found⟩
    exact ⟨_, ⟨texts, rfl⟩, once, found⟩

end Object

/-- A declared field of a record: its name, and the value written under it with the tree that it
spells, unless the field is left out. -/
structure Field where
  name : String
  content : Option (Json × Tree)

namespace Field

/-- The member that is written for a field. -/
def member? (field : Field) : Option (String × Json) :=
  field.content.map fun content => (field.name, content.1)

/-- The tree of a field under its name. -/
def named? (field : Field) : Option (String × Tree) :=
  field.content.map fun content => (field.name, content.2)

/-- What is read under the name of a field. -/
def tree? (field : Field) : Option Tree :=
  field.content.map Prod.snd

/-- A field that is written with a value which spells its tree. -/
def Faithful (field : Field) : Prop :=
  ∀ content ∈ field.content, Spells content.1 content.2

/-- A text that is written. -/
def text (name text : String) : Field :=
  ⟨name, some (.string text, .string (some text))⟩

/-- A text that is left out when there is none. -/
def optional (name : String) (value : Option String) : Field :=
  ⟨name, value.map fun text => (.string text, .string (some text))⟩

/-- A text that is written as `null` when there is none. -/
def nullable (name : String) (value : Option String) : Field :=
  ⟨name, some (value.elim .null .string, value.elim .null fun text => .string (some text))⟩

theorem faithful_text (name text : String) : (Field.text name text).Faithful := by
  rintro content ⟨⟩
  exact Json.spells_string text

theorem faithful_optional (name : String) (value : Option String) :
    (optional name value).Faithful := by
  intro content written
  rcases Option.map_eq_some_iff.mp written with ⟨text, -, rfl⟩
  exact Json.spells_string text

theorem faithful_nullable (name : String) (value : Option String) :
    (nullable name value).Faithful := by
  rintro content ⟨⟩
  cases value with
  | none => exact Json.spells_null
  | some text => exact Json.spells_string text

@[simp] theorem required_text (name text : String) :
    required text? (Field.text name text).tree? = some text :=
  rfl

@[simp] theorem optional?_optional (name : String) (value : Option String) :
    optional? (optional name value).tree? = some value := by
  cases value <;> rfl

@[simp] theorem optional?_nullable (name : String) (value : Option String) :
    optional? (nullable name value).tree? = some value := by
  cases value <;> rfl

end Field

/-- The object of the fields of a record, less those that are left out. -/
def object (fields : List Field) : Json :=
  .object (fields.filterMap Field.member?)

/-- The tree that the object of the fields spells. -/
def tree (fields : List Field) : Tree :=
  .object ((fields.filterMap Field.named?).map fun entry => (some entry.1, entry.2))

variable {fields : List Field}

theorem spells_object (faithful : ∀ field ∈ fields, field.Faithful) :
    Spells (object fields) (tree fields) := by
  apply Json.spells_object
  induction fields with
  | nil => exact .nil
  | cons field fields induction_hypothesis =>
      have later := induction_hypothesis fun field isField =>
        faithful field (List.mem_cons_of_mem _ isField)
      rcases field with ⟨name, content⟩
      cases content with
      | none => exact later
      | some content =>
          have spelled : Spells content.1 content.2 :=
            faithful _ List.mem_cons_self content rfl
          exact .cons ⟨rfl, spelled⟩ later

theorem named_sublist (fields : List Field) :
    ((fields.filterMap Field.named?).map Prod.fst).Sublist (fields.map Field.name) := by
  induction fields with
  | nil => exact .slnil
  | cons field fields induction_hypothesis =>
      rcases field with ⟨name, content⟩
      cases content with
      | none => exact induction_hypothesis.cons name
      | some content => exact induction_hypothesis.cons_cons name

theorem name_mem_of_mem_named {entry : String × Tree}
    (isNamed : entry ∈ fields.filterMap Field.named?) : entry.1 ∈ fields.map Field.name :=
  (named_sublist fields).subset (List.mem_map_of_mem isNamed)

theorem lookup_named {field : Field} (distinct : (fields.map Field.name).Nodup)
    (isField : field ∈ fields) :
    (fields.filterMap Field.named?).lookup field.name = field.tree? := by
  induction fields with
  | nil => exact absurd isField List.not_mem_nil
  | cons first fields induction_hypothesis =>
      rw [List.map_cons, List.nodup_cons] at distinct
      rcases distinct with ⟨fresh, distinct⟩
      rcases List.mem_cons.mp isField with rfl | later
      · rcases field with ⟨name, content⟩
        cases content with
        | none =>
            apply List.lookup_eq_none_iff.mpr
            intro entry isNamed
            have among : entry.1 ∈ fields.map Field.name := name_mem_of_mem_named isNamed
            have other : name ≠ entry.1 := by
              rintro rfl
              exact fresh among
            simpa using other
        | some content => simp [Field.named?, Field.tree?]
      · have other : field.name ≠ first.name := by
          intro same
          exact fresh (same ▸ List.mem_map_of_mem later)
        have found := induction_hypothesis distinct later
        rcases first with ⟨name, content⟩
        cases content with
        | none => exact found
        | some content =>
            have differs : (field.name == name) = false := by simpa using other
            simpa [Field.named?, List.lookup_cons, differs] using found

theorem length_filter_name_le_one {entries : List (String × Tree)}
    (distinct : (entries.map Prod.fst).Nodup) (name : String) :
    (entries.filter (·.1 = name)).length ≤ 1 := by
  have once := List.nodup_iff_count_le_one.mp distinct name
  rw [List.count, List.countP_map, List.countP_eq_length_filter] at once
  simpa [Function.comp_def, beq_eq_decide] using once

theorem filterMap_textNamed?_map (entries : List (String × Tree)) :
    (entries.map fun entry => (some entry.1, entry.2)).filterMap textNamed? = entries := by
  rw [List.filterMap_map]
  exact List.filterMap_some

/-- Under each declared name stands what was written for it. -/
theorem fields?_tree (distinct : (fields.map Field.name).Nodup) :
    fields? (fields.map Field.name) (tree fields) = some (fields.map Field.tree?) := by
  refine fields?_object_eq_some_iff.mpr ⟨?_, ?_, ?_⟩
  · intro member isMember
    rcases List.mem_map.mp isMember with ⟨entry, -, rfl⟩
    rfl
  · intro name _
    rw [filterMap_textNamed?_map]
    exact length_filter_name_le_one (distinct.sublist (named_sublist fields)) name
  · rw [filterMap_textNamed?_map, List.map_map]
    exact List.map_congr_left fun field isField => lookup_named distinct isField

/-- A reader who makes do with the trees of the fields reads the text of their object. -/
theorem bind_render {Value : Type} {read? : Tree → Option Value} {value : Value}
    (faithful : ∀ field ∈ fields, field.Faithful) (distinct : (fields.map Field.name).Nodup)
    (reads : ∀ tree, fields? (fields.map Field.name) tree = some (fields.map Field.tree?) →
      read? tree = some value) :
    (Tree.ofString? (object fields).render).bind read? = some value := by
  rw [Json.ofString?_render (spells_object faithful)]
  exact reads (tree fields) (fields?_tree distinct)

end Wire

end CdnPublish
