import FlatTables.Proofs.Engine.Noninterference
import FlatTables.Proofs.Evaluation
import FlatTables.Proofs.Query.Quoting
import FlatTables.Proofs.Samples

/-!
# Written values come back

A row is written into the text of an insertion, value by value, and a text into the condition of a
query. The tokens of such a statement are the ones that were written, its literals are read as the
values they were made of, and so the insertion adds just the row and the query finds just the rows
with the text. Nothing is assumed of the characters of names and texts.
-/

namespace FlatTables

/-! ## Equality with a text -/

/-- The condition that a column equals a text. -/
def Condition.equalsText (column content : String) : Condition :=
  ⟨column, .equal, (Value.text content).literal⟩

/-- The literal of a text is read as the text. -/
theorem coerce_text (content : String) :
    Literal.coerce .text (Value.text content).literal = .ok (.text content) := by
  have spellable : (Value.text content).Spellable := trivial
  exact spellable.coerce_literal

section
variable
  {schema : Schema}
  {attr : Attribute}
  (member : attr ∈ schema.attributes)
  (isText : attr.type = .text)
  (content : String)
include member isText

/-- The condition that a text attribute equals a text can be bound. -/
theorem exists_bind_equalsText :
    ∃ bound, (Condition.equalsText attr.name content).bind schema = .ok bound := by
  have named : attr.name = (Condition.equalsText attr.name content).column := rfl
  obtain ⟨position, binds⟩ := Condition.exists_bindAt member named
  refine ⟨⟨Condition.equalsText attr.name content, position, .text content⟩, ?_⟩
  rw [binds]
  simp [Condition.equalsText, Condition.bindAt, isText, coerce_text, ComparisonOp.isEquality]

/-- A conforming row meets the condition exactly if it has just that text under the attribute. -/
theorem isMetBy_equalsText
    {row : Row}
    (conforms : row.Conforms schema) :
    (Condition.equalsText attr.name content).isMetBy schema row =
      decide (row.valueOf? schema attr.name = some (.text content)) := by
  obtain ⟨position, index⟩ := Schema.exists_indexOf? (List.mem_map_of_mem member)
  obtain ⟨own, value, named, _, byName, valueType⟩ := conforms.value_at index
  obtain rfl := Option.some.inj (named.symm.trans (Schema.attribute?_eq_some member))
  rw [isText] at valueType
  cases value with
  | integer n => cases valueType
  | real x => cases valueType
  | text s =>
      simp [Condition.isMetBy, Condition.equalsText, named, byName, isText, coerce_text,
        ComparisonOp.accepts, ComparisonOp.apply, Value.relation, ComparisonOp.holds,
        ComparisonOp.holdsOf, compareTexts_isEq]

end

namespace Engine

open Query
open Storage (Folder Gateway Journal Workspace)

variable {σ : Type}

namespace Plan

/-- The literals of a conforming row that can be stored are planned to be added as that row. -/
theorem ofInsert_literal
    {catalog : Catalog}
    {name : String}
    {table : Table}
    (found : catalog.find? name = some table)
    {row : Row}
    (conforms : row.Conforms table.schema)
    (spellable : ∀ value ∈ row, value.Spellable)
    (storable : Literal.ensureStorable row (row.map Value.literal) = .ok ()) :
    ofInsert catalog name table.schema.names (row.map Value.literal) =
      .ok (.insert { table with rows := table.rows ++ [row] } row) := by
  have lengths : table.schema.names.length = (row.map Value.literal).length := by
    rw [Schema.names, List.length_map, List.length_map, conforms.length_eq]
  exact Fits.ofInsert_eq ⟨found, lengths, rfl⟩ (coerceAll_literal conforms spellable) storable

end Plan

section
variable
  (gateway : Gateway σ)
  {database : Database σ}
  {catalog : Catalog}
  (loaded : database.catalog = some catalog)
  (sound : catalog.Sound)
  {name : String}
  {table : Table}
  (found : catalog.find? name = some table)
include loaded sound found

/-- A text of an insertion adds its row to the table and hands it to the gateway. -/
theorem trial_insertion
    (attributes : table.schema.attributes ≠ [])
    {row : Row}
    (conforms : row.Conforms table.schema)
    (spellable : ∀ value ∈ row, value.Spellable)
    (storable : Literal.ensureStorable row (row.map Value.literal) = .ok ())
    {sql : String}
    (layout : Layout (insertionForms name table.schema.names row) sql.toList) :
    (database.trial gateway sql).turn.database.catalog = some (catalog.edit name (· ++ [row])) ∧
      (database.trial gateway sql).attempt? =
        some ⟨.append table.name row,
          gateway.append { table with rows := table.rows ++ [row] } row database.storage⟩ ∧
      ((∃ failure, (database.trial gateway sql).turn.result =
          .ok (.accepted (.inserted (table.name.getD "") failure))) ↔
        (database.trial gateway sql).FailsReportably) := by
  have rowNonempty := conforms.ne_nil attributes
  have namesNonempty : table.schema.names ≠ [] := by simpa [Schema.names] using attributes
  have parsed := parse_of_insertion namesNonempty rowNonempty layout
  have planned : Plan.ofText catalog sql =
      .ok (.insert { table with rows := table.rows ++ [row] } row) :=
    Plan.ofText_eq_ok_iff.2 ⟨_, parsed, Plan.ofInsert_literal found conforms spellable storable⟩
  obtain ⟨attempted, _, held⟩ := trial_of_planned gateway loaded planned
  refine ⟨?_, attempted, ?_, ?_⟩
  · rw [← sound.update_eq_edit found (· ++ [row])]
    exact held.catalog_eq
  · rintro ⟨failure, accepted⟩
    exact (answered_iff_failsReportably gateway loaded sound sql).1 ⟨_, accepted⟩
  · intro reportable
    obtain ⟨failure, accepted, _⟩ := accepted_of_planned loaded planned reportable
    exact ⟨failure, accepted⟩

/-- A text of a query for a text returns the rows that have it, and changes nothing. -/
theorem trial_textQuery
    {attr : Attribute}
    (member : attr ∈ table.schema.attributes)
    (isText : attr.type = .text)
    {content sql : String}
    (layout : Layout (textQueryForms name attr.name content) sql.toList) :
    (database.trial gateway sql).turn.result =
        .ok (.accepted (.selected
          { name := none
            schema := table.schema
            rows := table.rows.filter fun row =>
              row.valueOf? table.schema attr.name = some (.text content) })) ∧
      (database.trial gateway sql).turn.database.catalog = some catalog ∧
      (database.trial gateway sql).turn.database.storage = database.storage := by
  have conforming : table.Conforming := sound.conforming table (Catalog.mem_of_find? found)
  obtain ⟨bound, binds⟩ := exists_bind_equalsText member isText content
  have whole : Plan.bindWhere (some (Condition.equalsText attr.name content)) table.schema =
      .ok (some bound) := by rw [Plan.bindWhere, binds]; rfl
  have selected : table.rows.filter
        (Plan.selects (some (Condition.equalsText attr.name content)) table.schema) =
      table.rows.filter fun row =>
        row.valueOf? table.schema attr.name = some (.text content) :=
    List.filter_congr fun row inRows =>
      isMetBy_equalsText member isText content (conforming row inRows)
  have planned : Plan.ofText catalog sql = .ok (.select
      { name := none
        schema := table.schema
        rows := table.rows.filter
          (Plan.selects (some (Condition.equalsText attr.name content)) table.schema) }) :=
    Plan.ofText_eq_ok_iff.2 ⟨_, parse_of_textQuery layout, Plan.ofSelect_all found conforming whole⟩
  obtain ⟨_, result, held⟩ := trial_of_planned gateway loaded planned
  rw [← selected]
  exact ⟨result, held.catalog_eq, held.storage_eq⟩

/-- The text of an insertion, with the names as plain words or in double quotes and with every value
as a literal, adds exactly its row to the table and hands exactly this row to the gateway, and it is
accepted if and only if the gateway does not fail in a way that cannot be reported. The text of a
query for a text returns exactly the rows that have this text under the attribute, whatever the text
holds. Both hold for any other layout of the same tokens. -/
theorem written_values_come_back
    (attributes : table.schema.attributes ≠ []) :
    (∀ row : Row, row.Conforms table.schema → (∀ value ∈ row, value.Spellable) →
      Literal.ensureStorable row (row.map Value.literal) = .ok () →
      (∀ word words, SpellsName name word → List.Forall₂ SpellsName table.schema.names words →
        Layout (insertionForms name table.schema.names row)
          (Statement.insert word words (row.map Value.spelled)).text.toList) ∧
      ∀ sql : String, Layout (insertionForms name table.schema.names row) sql.toList →
        (database.trial gateway sql).turn.database.catalog =
            some (catalog.edit name (· ++ [row])) ∧
          (database.trial gateway sql).attempt? =
            some ⟨.append table.name row,
              gateway.append { table with rows := table.rows ++ [row] } row database.storage⟩ ∧
          ((∃ failure, (database.trial gateway sql).turn.result =
              .ok (.accepted (.inserted (table.name.getD "") failure))) ↔
            (database.trial gateway sql).FailsReportably)) ∧
    ∀ attr ∈ table.schema.attributes, attr.type = .text → ∀ content : String,
      (∀ word column, SpellsName name word → SpellsName attr.name column →
        Layout (textQueryForms name attr.name content)
          (Statement.select .all word
            (some ⟨column, .equal, (Value.text content).spelled⟩)).text.toList) ∧
      ∀ sql : String, Layout (textQueryForms name attr.name content) sql.toList →
        (database.trial gateway sql).turn.result =
            .ok (.accepted (.selected
              { name := none
                schema := table.schema
                rows := table.rows.filter fun row =>
                  row.valueOf? table.schema attr.name = some (.text content) })) ∧
          (database.trial gateway sql).turn.database.catalog = some catalog ∧
          (database.trial gateway sql).turn.database.storage = database.storage := by
  constructor
  · intro row conforms spellable storable
    have rowNonempty := conforms.ne_nil attributes
    have namesNonempty : table.schema.names ≠ [] := by simpa [Schema.names] using attributes
    refine ⟨fun word words spellsName spellNames => ?_, fun sql layout => ?_⟩
    · exact layout_insertionText spellsName spellNames namesNonempty spellable rowNonempty
    · exact trial_insertion gateway loaded sound found attributes conforms spellable storable layout
  · intro attr member isText content
    refine ⟨fun word column spellsName spellsColumn => ?_, fun sql layout => ?_⟩
    · exact layout_textQueryText spellsName spellsColumn content
    · exact trial_textQuery gateway loaded sound found member isText layout

end

/-- A table whose name is a reserved word, with a quote in the name of a column. -/
def quotingTable : Table where
  name := some "select"
  schema := ⟨[⟨"it\"s", .text⟩, ⟨"n", .integer⟩], by decide⟩
  rows := [[.text "'", .integer 0]]

/-- A database that is not started, over a journal that describes the table. -/
def quotingJournal : Database Journal where
  storage :=
    { drafts := [⟨quotingTable.name, quotingTable.schema.attributes, quotingTable.rows⟩] }

/-- Quotes, a semicolon and the start of a comment stay in the text that is written, and a lone
quote is found. -/
theorem written_values_come_back_sample :
    ((quotingJournal.start Journal.gateway).database.execute Journal.gateway
        "INSERT INTO \"select\" (\"it\"\"s\", n) VALUES ('o''clock; --', -7)").database.catalog =
      some ⟨[{ quotingTable with
        rows := [[.text "'", .integer 0], [.text "o'clock; --", .integer (-7)]] }]⟩ ∧
    ((quotingJournal.start Journal.gateway).database.execute Journal.gateway
        "SELECT * FROM \"select\" WHERE \"it\"\"s\" = ''''").result =
      .ok (.accepted (.selected { quotingTable with name := none })) := by
  have loaded : (quotingJournal.start Journal.gateway).database.catalog =
      some ⟨[quotingTable]⟩ := by decide +kernel
  have sound : Catalog.Sound ⟨[quotingTable]⟩ :=
    Journal.loadsSound quotingJournal.storage _ (by decide +kernel)
  have found : Catalog.find? ⟨[quotingTable]⟩ "select" = some quotingTable := by decide +kernel
  obtain ⟨inserts, finds⟩ := written_values_come_back Journal.gateway loaded sound found (by decide)
  have word : SpellsName "select" "\"select\"" := spellsName_quotedName "select"
  have quoted : SpellsName "it\"s" "\"it\"\"s\"" := spellsName_quotedName "it\"s"
  have plain : SpellsName "n" "n" := .bareName ⟨by decide, by decide⟩
  constructor
  · have spellable : ∀ value ∈ [Value.text "o'clock; --", .integer (-7)], value.Spellable := by
      intro value member
      rcases List.mem_pair.1 member with rfl | rfl
      · trivial
      · unfold Value.Spellable
        decide
    obtain ⟨layout, adds⟩ := inserts [.text "o'clock; --", .integer (-7)] (by decide) spellable
      (by decide)
    have added := (adds _ (layout _ _ word (.cons quoted (.cons plain .nil)))).1
    have textEq : (Statement.insert "\"select\"" ["\"it\"\"s\"", "n"]
        ([.text "o'clock; --", .integer (-7)].map Value.spelled)).text =
          "INSERT INTO \"select\" (\"it\"\"s\", n) VALUES ('o''clock; --', -7)" := by decide +kernel
    rw [textEq] at added
    exact added.trans (by decide +kernel)
  · obtain ⟨layout, returns⟩ := finds ⟨"it\"s", .text⟩ (by decide) rfl "'"
    have returned := (returns _ (layout _ _ word quoted)).1
    have textEq : (Statement.select .all "\"select\""
        (some ⟨"\"it\"\"s\"", .equal, (Value.text "'").spelled⟩)).text =
          "SELECT * FROM \"select\" WHERE \"it\"\"s\" = ''''" := by decide +kernel
    rw [textEq] at returned
    exact returned.trans (by decide +kernel)

/-- A row that is to go into a file with a null character in its name is not accepted. -/
theorem written_values_can_go_unanswered :
    ¬ ∀ (folder : Folder) (idle : Database Workspace),
      (idle.start folder.gateway).result = .ok () →
      ∀ (catalog : Catalog) (name : String) (table : Table),
        (idle.start folder.gateway).database.catalog = some catalog →
        catalog.find? name = some table →
        table.schema.attributes ≠ [] →
        ∀ row : Row, row.Conforms table.schema → (∀ value ∈ row, value.Spellable) →
          Literal.ensureStorable row (row.map Value.literal) = .ok () →
          ∀ word words, SpellsName name word → List.Forall₂ SpellsName table.schema.names words →
            ∃ failure, ((idle.start folder.gateway).database.execute folder.gateway
              (Statement.insert word words (row.map Value.spelled)).text).result =
                .ok (.accepted (.inserted (table.name.getD "") failure)) := by
  intro always
  have found : Catalog.find? ⟨[{ sampleTable with rows := [] }]⟩ "T" =
      some { sampleTable with rows := [] } := by
    decide +kernel
  have spellable : ∀ value ∈ [Value.integer 1], value.Spellable := by
    intro value member
    obtain rfl := List.mem_singleton.1 member
    unfold Value.Spellable
    decide
  have bare : SpellsName "T" "T" := .bareName ⟨by decide, by decide⟩
  have bareColumn : SpellsName "a" "a" := .bareName ⟨by decide, by decide⟩
  obtain ⟨failure, accepted⟩ :=
    always nullFolder _ start_nullFolder _ _ _ catalog_nullFolder found (by decide) [.integer 1]
      (by decide) spellable (by decide) "T" ["a"] bare (.cons bareColumn .nil)
  have unanswered : (((sampleDatabase "T(a:Integer)\n").start nullFolder.gateway).database.execute
      nullFolder.gateway (Statement.insert "T" ["a"] ([.integer 1].map Value.spelled)).text).result =
        .error .nullCharacter := by
    decide +kernel
  cases accepted.symm.trans unanswered

end Engine
end FlatTables
