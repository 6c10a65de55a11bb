import FlatTables.Proofs.Engine.Plan

/-!
# Projected schemas and rows

A schema is projected by names, and a row by the positions that the schema has for the names. The
two stay aligned: a projected row has, under every projected name, the value that the row has under
it, and a projection of a projection is one projection. No step of this looks at the order of the
names, which may differ from the order of the schema.
-/

namespace FlatTables
namespace Engine

open Plan (ordinals exists_ordinals_iff project?_ordinals)

/-- A list of results that are all there has its results at the places of what they come from. -/
theorem getElem?_filterMap_of_isSome
    {find : α → Option β}
    {list : List α}
    (all : ∀ element ∈ list, (find element).isSome)
    (place : Nat) :
    (list.filterMap find)[place]? = list[place]?.bind find := by
  induction list generalizing place with
  | nil => rfl
  | cons first rest inductionHypothesis =>
      obtain ⟨here, others⟩ := List.forall_mem_cons.1 all
      obtain ⟨own, found⟩ := Option.isSome_iff_exists.1 here
      rw [List.filterMap_cons_some found]
      cases place with
      | zero => exact found.symm
      | succ place => exact inductionHypothesis others place

/-- A schema and a row are projected by names. -/
structure Projects (schema : Schema) (row : Row) (names : List String) (projected : Schema)
    (result : Row) : Prop where
  schema_eq : schema.project names = .ok projected
  row_eq : ∃ positions, ordinals schema names = .ok positions ∧ row.project? positions = some result

/-- What a name has in a schema with a row: a position, with an attribute and a value there. -/
structure HasAt (schema : Schema) (row : Row) (name : String) (position : Nat) (attr : Attribute)
    (value : Value) : Prop where
  index : schema.indexOf? name = some position
  attributeThere : schema.attributes[position]? = some attr
  valueThere : row[position]? = some value

section
variable
  {schema : Schema}
  {row : Row}
  (conforms : row.Conforms schema)
include conforms

/-- Every name of a schema has a position. -/
theorem exists_hasAt
    {name : String}
    (known : name ∈ schema.names) :
    ∃ position attr value, HasAt schema row name position attr value ∧
      schema.attribute? name = some attr ∧ row.valueOf? schema name = some value := by
  obtain ⟨position, index⟩ := Schema.exists_indexOf? known
  obtain ⟨attr, value, named, atPosition, byName, _⟩ := conforms.value_at index
  obtain ⟨own, there⟩ := List.getElem?_of_mem (List.mem_of_find?_eq_some named)
  have same := Schema.indexOf?_of_getElem? there
  rw [Schema.name_of_attribute? named, index] at same
  obtain rfl := Option.some.inj same
  exact ⟨position, attr, value, ⟨index, there, atPosition⟩, named, byName⟩

/-- Distinct names of a schema project it together with a row. -/
theorem exists_projects
    {names : List String}
    (distinct : names.Nodup)
    (known : ∀ name ∈ names, name ∈ schema.names) :
    ∃ projected, Projects schema row names projected (row.valuesOf schema names) ∧
      (row.valuesOf schema names).Conforms projected := by
  obtain ⟨projected, project⟩ := Schema.exists_project known distinct
  obtain ⟨positions, located⟩ := (exists_ordinals_iff schema names).2 known
  obtain ⟨values, types⟩ := project?_ordinals located conforms
  refine ⟨projected, ⟨project, positions, located, values⟩, ?_⟩
  rw [Row.Conforms, types, Schema.types, (Schema.project_eq_ok project).1]

/-- A projected schema and row have at the place of a name what they had at its position. -/
theorem hasAt_of_project
    {names : List String}
    (known : ∀ name ∈ names, name ∈ schema.names)
    {projected : Schema}
    (project : schema.project names = .ok projected)
    {place : Nat}
    {name : String}
    (there : names[place]? = some name) :
    ∃ position attr value, HasAt schema row name position attr value ∧
      HasAt projected (row.valuesOf schema names) name place attr value ∧
      schema.attribute? name = some attr ∧ row.valueOf? schema name = some value := by
  obtain ⟨position, attr, value, before, named, byName⟩ :=
    exists_hasAt conforms (known name (List.mem_of_getElem? there))
  have attributeThere : projected.attributes[place]? = some attr := by
    rw [(Schema.project_eq_ok project).1, getElem?_filterMap_of_isSome, there, Option.bind_some,
      named]
    intro other member
    obtain ⟨_, _, _, _, found, _⟩ := exists_hasAt conforms (known other member)
    simp [found]
  have valueThere : (row.valuesOf schema names)[place]? = some value := by
    rw [Row.valuesOf, getElem?_filterMap_of_isSome, there, Option.bind_some, byName]
    intro other member
    obtain ⟨_, _, _, _, _, found⟩ := exists_hasAt conforms (known other member)
    simp [found]
  have index := Schema.indexOf?_of_getElem? attributeThere
  rw [Schema.name_of_attribute? named] at index
  exact ⟨position, attr, value, before, ⟨index, attributeThere, valueThere⟩, named, byName⟩

/-- A name has the same attribute and the same value before and after the projection. -/
theorem found_of_project
    {names : List String}
    (known : ∀ name ∈ names, name ∈ schema.names)
    {projected : Schema}
    (project : schema.project names = .ok projected)
    {name : String}
    (member : name ∈ names) :
    projected.attribute? name = schema.attribute? name ∧
      (row.valuesOf schema names).valueOf? projected name = row.valueOf? schema name := by
  obtain ⟨place, there⟩ := List.getElem?_of_mem member
  obtain ⟨_, attr, value, _, after, named, byName⟩ := hasAt_of_project conforms known project there
  constructor
  · have found := Schema.attribute?_eq_some (List.mem_of_getElem? after.attributeThere)
    rw [Schema.name_of_attribute? named] at found
    rw [found, named]
  · rw [Row.valueOf?_eq, after.index, Option.bind_some, after.valueThere, byName]

/-- A projection of a projection is one projection. -/
theorem exists_projects_twice
    {names inner : List String}
    (known : ∀ name ∈ names, name ∈ schema.names)
    {projected : Schema}
    (project : schema.project names = .ok projected)
    (resultConforms : (row.valuesOf schema names).Conforms projected)
    (distinct : inner.Nodup)
    (within : inner ⊆ names) :
    ∃ innerSchema innerRow, Projects schema row inner innerSchema innerRow ∧
      Projects projected (row.valuesOf schema names) inner innerSchema innerRow := by
  have innerKnown : ∀ name ∈ inner, name ∈ projected.names := fun name member => by
    rw [(Schema.project_eq_ok project).2]
    exact within member
  have found := fun name (member : name ∈ inner) =>
    found_of_project conforms known project (within member)
  obtain ⟨direct, directProjects, _⟩ :=
    exists_projects conforms distinct fun name member => known name (within member)
  obtain ⟨again, againProjects, _⟩ := exists_projects resultConforms distinct innerKnown
  have sameRow : (row.valuesOf schema names).valuesOf projected inner = row.valuesOf schema inner :=
    List.filterMap_congr fun name member => (found name member).2
  have sameAttributes : again.attributes = direct.attributes := by
    rw [(Schema.project_eq_ok againProjects.schema_eq).1,
      (Schema.project_eq_ok directProjects.schema_eq).1]
    exact List.filterMap_congr fun name member => (found name member).1
  obtain rfl : again = direct := by
    cases again
    cases direct
    cases sameAttributes
    rfl
  rw [sameRow] at againProjects
  exact ⟨again, _, directProjects, againProjects⟩

end

/-! ## Agreement -/

/-- A list of attributes is no schema exactly if a name occurs twice. -/
theorem exists_ofAttributes_error_iff (attributes : List Attribute) :
    (∃ fault, Schema.ofAttributes attributes = .error fault) ↔
      ∃ name, [name, name].Sublist (attributes.map Attribute.name) := by
  have nodup_iff : (∃ schema, Schema.ofAttributes attributes = .ok schema) ↔
      (attributes.map Attribute.name).Nodup := by
    constructor
    · rintro ⟨schema, built⟩
      exact (Schema.ofAttributes_eq_ok_iff attributes schema).1 built ▸ schema.nodup_names
    · exact fun nodup => ⟨_, Schema.ofAttributes_of_nodup nodup⟩
  have fails_iff : (∃ fault, Schema.ofAttributes attributes = .error fault) ↔
      ¬ ∃ schema, Schema.ofAttributes attributes = .ok schema := by
    cases Schema.ofAttributes attributes <;> simp
  rw [fails_iff, nodup_iff, List.nodup_iff_sublist, not_forall_not]

/-- Distinct names of a schema project it, and by the positions that it has for them every row that
conforms to it. The projected schema has the names in their order, each with the attribute that it
had, and the projected row conforms to it and has under each name the value that the row had. To
project these again is to project the schema and the row at once. A list of attributes is no schema
exactly if a name occurs twice. -/
theorem projections_agree :
    (∀ (schema : Schema) (names : List String) (row : Row), names.Nodup →
      (∀ name ∈ names, name ∈ schema.names) → row.Conforms schema →
        ∃ projected result, Projects schema row names projected result ∧
          projected.names = names ∧ result.Conforms projected ∧
          (∀ (place : Nat) (name : String), names[place]? = some name →
            ∃ position attr value, HasAt schema row name position attr value ∧
              HasAt projected result name place attr value) ∧
          ∀ inner : List String, inner.Nodup → inner ⊆ names →
            ∃ innerSchema innerRow, Projects schema row inner innerSchema innerRow ∧
              Projects projected result inner innerSchema innerRow) ∧
    ∀ attributes : List Attribute, (∃ fault, Schema.ofAttributes attributes = .error fault) ↔
      ∃ name, [name, name].Sublist (attributes.map Attribute.name) := by
  refine ⟨fun schema names row distinct known conforms => ?_, exists_ofAttributes_error_iff⟩
  obtain ⟨projected, projects, resultConforms⟩ := exists_projects conforms distinct known
  have project := projects.schema_eq
  refine ⟨projected, _, projects, (Schema.project_eq_ok project).2, resultConforms,
    fun place name there => ?_, fun inner innerDistinct within => ?_⟩
  · obtain ⟨position, attr, value, before, after, _⟩ := hasAt_of_project conforms known project there
    exact ⟨position, attr, value, before, after⟩
  · exact exists_projects_twice conforms known project resultConforms innerDistinct within

/-- Two of three attributes of different types are projected in the opposite order. -/
theorem projections_agree_reversed :
    ∃ projected result,
      Projects ⟨[⟨"t", .text⟩, ⟨"n", .integer⟩, ⟨"k", .integer⟩], by decide⟩
        [.text "x", .integer 1, .integer 2] ["k", "t"] projected result ∧
      HasAt projected result "t" 1 ⟨"t", .text⟩ (.text "x") ∧
      Schema.ofAttributes [⟨"t", .text⟩, ⟨"n", .integer⟩, ⟨"t", .integer⟩] = .error ⟨"t"⟩ := by
  obtain ⟨projected, result, projects, _, _, agree, _⟩ := projections_agree.1
    ⟨[⟨"t", .text⟩, ⟨"n", .integer⟩, ⟨"k", .integer⟩], by decide⟩ ["k", "t"]
    [.text "x", .integer 1, .integer 2] (by decide) (by decide) (by decide)
  obtain ⟨position, attr, value, before, after⟩ := agree 1 "t" rfl
  have here : position = 0 := by
    have index := before.index
    cases index
    rfl
  subst here
  cases before.attributeThere
  cases before.valueThere
  exact ⟨projected, result, projects, after, by decide⟩

end Engine
end FlatTables
