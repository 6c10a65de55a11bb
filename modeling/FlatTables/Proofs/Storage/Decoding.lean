import FlatTables.Proofs.Decimal.RealSpelling
import FlatTables.Proofs.Samples
import FlatTables.Proofs.Text.LineBreaks

/-!
# Well-formed data files

A data file is well-formed if each of its lines is blank or lists a row: its fields are as many as
the attributes, and each of them spells a value of its attribute's type. A well-formed file is read
as the rows that its lines list. Of any other file the first line that is neither blank nor lists a
row is blamed, for the number of its fields or else for the leftmost field that spells no value.
-/

namespace FlatTables

/-! ## Fields -/

namespace Literal

/-- A text spells a value of a type. Every text spells itself. -/
inductive Spells : AttributeType → List Char → Value → Prop
  | integer {text : List Char} {n : Int}
      (spells : Decimal.SpellsInteger text n) :
      Spells .integer text (.integer n)
  | text (text : List Char) :
      Spells .text text (.text (String.ofList text))
  | real {text : List Char} {x : Decimal.Binary64}
      (spells : Decimal.SpellsReal text x) :
      Spells .real text (.real x)

/-- A text is read as a value of a type exactly if it spells the value. -/
theorem readAs?_eq_some_iff
    (type : AttributeType)
    (text : List Char)
    (value : Value) :
    readAs? type text = some value ↔ Spells type text value := by
  cases type with
  | integer =>
      simp only [readAs?, Option.map_eq_some_iff, Decimal.readInteger?_eq_some_iff]
      constructor
      · rintro ⟨n, spells, rfl⟩
        exact .integer spells
      · intro spelled
        cases spelled with
        | integer spells => exact ⟨_, spells, rfl⟩
  | text =>
      constructor
      · intro read
        exact Option.some.inj read ▸ .text text
      · rintro ⟨⟩
        rfl
  | real =>
      simp only [readAs?, Option.map_eq_some_iff, Decimal.readReal?_eq_some_iff]
      constructor
      · rintro ⟨x, spells, rfl⟩
        exact .real spells
      · intro spelled
        cases spelled with
        | real spells => exact ⟨_, spells, rfl⟩

end Literal

namespace Storage
namespace DataFile

/-- A field, without the blanks around it, spells a value of an attribute's type. -/
def FieldSpells (pair : Attribute × List Char) (value : Value) : Prop :=
  Literal.Spells pair.1.type (Text.trimChars pair.2) value

theorem readTrimmed_eq_ok_iff
    (pair : Attribute × List Char)
    (value : Value) :
    Literal.readField pair.1.type (String.ofList (Text.trimChars pair.2)) = .ok value ↔
      FieldSpells pair value := by
  rw [readField_eq_ok_iff, String.toList_ofList, Literal.readAs?_eq_some_iff, FieldSpells]

theorem readTrimmed_eq_error_iff
    (pair : Attribute × List Char)
    (rejection : Rejection) :
    Literal.readField pair.1.type (String.ofList (Text.trimChars pair.2)) = .error rejection ↔
      (∀ value, ¬ FieldSpells pair value) ∧
        rejection =
          .invalidLiteral (String.ofList (Text.trimChars pair.2)) pair.1.type none := by
  simp only [← readTrimmed_eq_ok_iff]
  unfold Literal.readField
  cases Literal.readAs? pair.1.type (String.ofList (Text.trimChars pair.2)).toList <;>
    simp [eq_comm]

/-- Fields are read one by one, each under its attribute. -/
theorem readFields_eq_mapM
    (attributes : List Attribute)
    (fields : List (List Char)) :
    readFields attributes fields = (attributes.zip fields).mapM fun pair =>
      Literal.readField pair.1.type (String.ofList (Text.trimChars pair.2)) := by
  induction attributes generalizing fields with
  | nil => rfl
  | cons attr rest inductionHypothesis =>
      cases fields with
      | nil => rfl
      | cons field fields =>
          rw [List.zip_cons_cons, List.mapM_cons, ← inductionHypothesis, readFields]
          cases Literal.readField attr.type (String.ofList (Text.trimChars field)) <;> rfl

/-! ## Lines -/

/-- A line is made of fields: a comma stands between them, and none of them holds one. -/
structure HasFields (line : List Char) (fields : List (List Char)) : Prop where
  nonempty : fields ≠ []
  joined : List.intercalate [','] fields = line
  unseparated : ∀ field ∈ fields, ',' ∉ field

theorem hasFields_iff
    (line : List Char)
    (fields : List (List Char)) :
    HasFields line fields ↔ fields = Text.splitFields Literal.fieldSeparator line := by
  constructor
  · rintro ⟨nonempty, rfl, unseparated⟩
    exact (Text.splitFields_intercalate nonempty unseparated).symm
  · rintro rfl
    exact ⟨Text.splitFields_ne_nil _ _, Text.intercalate_splitFields _ _,
      fun field member => (Text.mem_splitFields member).1⟩

/-- A line lists the values of a row: it has one field for every attribute, which spells the value
under the attribute. -/
inductive Lists (schema : Schema) (line : List Char) (row : Row) : Prop
  | intro {fields : List (List Char)}
      (hasFields : HasFields line fields)
      (arity : fields.length = schema.arity)
      (values : List.Forall₂ FieldSpells (schema.attributes.zip fields) row)

/-- What is wrong with a line that lists no row: it has too few or too many fields, or the leftmost
of those that spell no value is to blame. -/
inductive Blames (path : Path) (schema : Schema) (number : Nat) (line : List Char) :
    StorageFault → Prop
  | count {fields : List (List Char)}
      (hasFields : HasFields line fields)
      (differs : fields.length ≠ schema.arity) :
      Blames path schema number line (.fieldCount schema.arity fields.length path number)
  | field {fields : List (List Char)} {attr : Attribute} {field : List Char}
      (hasFields : HasFields line fields)
      (arity : fields.length = schema.arity)
      (leftmost : Reached (fun pair => ∃ value, FieldSpells pair value)
        (schema.attributes.zip fields) (attr, field))
      (unspelled : ∀ value, ¬ FieldSpells (attr, field) value) :
      Blames path schema number line
        (.badField (.invalidLiteral (String.ofList (Text.trimChars field)) attr.type none)
          path number)

theorem reads_iff_lists
    (schema : Schema)
    (line : List Char)
    (row : Row) :
    Reads schema line row ↔ Lists schema line row := by
  have values : ∀ fields, readFields schema.attributes fields = .ok row ↔
      List.Forall₂ FieldSpells (schema.attributes.zip fields) row := by
    intro fields
    simp only [readFields_eq_mapM, mapM_eq_ok_iff, readTrimmed_eq_ok_iff]
  constructor
  · rintro ⟨arity, read⟩
    exact ⟨(hasFields_iff ..).2 rfl, arity, (values _).1 read⟩
  · rintro ⟨hasFields, arity, listed⟩
    obtain rfl := (hasFields_iff ..).1 hasFields
    exact ⟨arity, (values _).2 listed⟩

/-- A line is not read exactly for what is wrong with it. -/
theorem readLine_eq_error_iff
    (path : Path)
    (schema : Schema)
    (number : Nat)
    (line : List Char)
    (fault : StorageFault) :
    readLine path schema number line = .error fault ↔ Blames path schema number line fault := by
  have own := (hasFields_iff line _).2 rfl
  unfold readLine
  by_cases arity : (Text.splitFields Literal.fieldSeparator line).length = schema.arity
  · rw [if_neg (not_not_intro arity), mapError_eq_error_iff]
    simp only [readFields_eq_mapM, mapM_eq_error_iff, readTrimmed_eq_ok_iff,
      readTrimmed_eq_error_iff]
    constructor
    · rintro ⟨_, ⟨pair, leftmost, unspelled, rfl⟩, rfl⟩
      exact .field own arity leftmost unspelled
    · rintro (⟨hasFields, differs⟩ | ⟨hasFields, _, leftmost, unspelled⟩)
      · exact absurd ((hasFields_iff ..).1 hasFields ▸ arity) differs
      · obtain rfl := (hasFields_iff ..).1 hasFields
        exact ⟨_, ⟨_, leftmost, unspelled, rfl⟩, rfl⟩
  · rw [if_pos arity, Except.error.injEq]
    constructor
    · rintro rfl
      exact .count own arity
    · rintro (⟨hasFields, _⟩ | ⟨hasFields, sameArity, _⟩)
      · rw [(hasFields_iff ..).1 hasFields]
      · exact absurd ((hasFields_iff ..).1 hasFields ▸ sameArity) arity

/-- Whoever is blamed, the fault belongs to the class of data files and tells the line. -/
theorem Blames.tells
    {path : Path}
    {schema : Schema}
    {number : Nat}
    {line : List Char}
    {fault : StorageFault}
    (blames : Blames path schema number line fault) :
    fault.label = "DataFileError" ∧ fault.line? = some number := by
  cases blames <;> exact ⟨rfl, rfl⟩

/-! ## Files -/

/-- The line is skipped, or it lists a row. -/
def WellFormed (schema : Schema) (line : List Char) : Prop :=
  line.all Text.isBlank = true ∨ ∃ row, Lists schema line row

theorem wellFormed_iff
    (path : Path)
    (schema : Schema)
    (number : Nat)
    (line : List Char) :
    WellFormed schema line ↔
      line.all Text.isBlank = true ∨ ∃ row, readLine path schema number line = .ok row := by
  simp only [WellFormed, readLine_eq_ok_iff, reads_iff_lists]

instance (schema : Schema) (line : List Char) : Decidable (WellFormed schema line) :=
  decidable_of_iff
    (line.all Text.isBlank = true ∨
      (readLine (.ofString "") schema 0 line).toOption.isSome = true) <| by
    rw [wellFormed_iff (.ofString "") schema 0]
    cases readLine (.ofString "") schema 0 line <;> simp [Except.toOption]

/-- Lines are not read exactly for what is wrong with the first that is not well-formed. -/
theorem readLines_eq_error_iff
    (path : Path)
    (schema : Schema)
    (numbered : List (String × Nat))
    (fault : StorageFault) :
    readLines path schema numbered = .error fault ↔
      ∃ own, Reached (fun other => WellFormed schema other.1.toList) numbered own ∧
        own.1.toList.all Text.isBlank = false ∧
          Blames path schema own.2 own.1.toList fault := by
  induction numbered with
  | nil => simp [readLines]
  | cons first rest inductionHypothesis =>
      obtain ⟨line, number⟩ := first
      rw [readLines, exists_reached_cons_iff, ← inductionHypothesis,
        wellFormed_iff path schema number, ← readLine_eq_error_iff]
      cases blank : line.toList.all Text.isBlank with
      | true => simp [Text.isBlankText, blank]
      | false =>
          cases read : readLine path schema number line.toList with
          | error own => simp [Text.isBlankText, blank]
          | ok row => simp [Text.isBlankText, blank, map_eq_error_iff]

/-- The first line of a file that is not well-formed. Blank lines count in its number. -/
inductive FirstMalformed (schema : Schema) (lines : List (List Char)) (number : Nat)
    (line : List Char) : Prop
  | intro {before after : List (List Char)}
      (split : lines = before ++ line :: after)
      (numbered : number = before.length + 1)
      (wellFormed : ∀ other ∈ before, WellFormed schema other)
      (malformed : ¬ WellFormed schema line)

/-- A line that is not blank is blamed exactly if it is not well-formed. -/
theorem not_wellFormed_of_blames
    {path : Path}
    {schema : Schema}
    {number : Nat}
    {line : List Char}
    {fault : StorageFault}
    (notBlank : line.all Text.isBlank = false)
    (blames : Blames path schema number line fault) :
    ¬ WellFormed schema line := by
  rw [wellFormed_iff path schema number, (readLine_eq_error_iff ..).2 blames, notBlank]
  simp

/-- The text of a file is not read exactly for what is wrong with its first malformed line. -/
theorem ofText_eq_error_iff
    (path : Path)
    (schema : Schema)
    {text : String}
    {lines : List (List Char)}
    (madeOf : Text.MadeOf Text.isNewline text.toList lines)
    (fault : StorageFault) :
    ofText path schema text = .error fault ↔
      ∃ number line, FirstMalformed schema lines number line ∧
        Blames path schema number line fault := by
  have linesEq : Text.lines text = lines.map String.ofList := by
    rw [Text.lines, madeOf.eq_splitLines]
  have charsEq : (lines.map String.ofList).map String.toList = lines := by
    rw [List.map_map]
    exact List.map_id'' (fun _ => String.toList_ofList) lines
  rw [ofText, linesEq, readLines_eq_error_iff]
  simp only [reached_zipIdx_iff fun other : String => WellFormed schema other.toList]
  constructor
  · rintro ⟨⟨own, _⟩, ⟨before, after, split, rfl, wellFormed⟩, notBlank, blames⟩
    rw [split, List.map_append, List.map_cons] at charsEq
    refine ⟨_, own.toList, ⟨charsEq.symm, ?_, ?_, not_wellFormed_of_blames notBlank blames⟩, blames⟩
    · rw [List.length_map, Nat.add_comm]
    · exact List.forall_mem_map.2 wellFormed
  · rintro ⟨_, line, ⟨rfl, rfl, wellFormed, malformed⟩, blames⟩
    rename_i before after
    refine ⟨(String.ofList line, before.length + 1),
      ⟨before.map String.ofList, after.map String.ofList, ?_, ?_, ?_⟩, ?_, ?_⟩
    · rw [List.map_append, List.map_cons]
    · rw [List.length_map, Nat.add_comm]
    · simpa using wellFormed
    · rw [String.toList_ofList]
      exact Bool.eq_false_iff.2 fun blank => malformed (.inl blank)
    · rwa [String.toList_ofList]

/-- The text of a file is read as rows exactly if its lines that are not blank list them. -/
theorem ofText_eq_ok_iff
    (path : Path)
    (schema : Schema)
    {text : String}
    {lines : List (List Char)}
    (madeOf : Text.MadeOf Text.isNewline text.toList lines)
    (rows : List Row) :
    ofText path schema text = .ok rows ↔
      List.Forall₂ (Lists schema) (lines.filter (!·.all Text.isBlank)) rows := by
  have related : Reads schema = Lists schema :=
    funext fun line => funext fun row => propext (reads_iff_lists schema line row)
  rw [ofText, readLines_eq_ok_iff, bodyLines_toString, bodyLines, ← madeOf.eq_splitLines, related]

/-- If the lines that are not blank list rows, all lines are well-formed. -/
theorem wellFormed_of_lists
    {schema : Schema}
    {lines : List (List Char)}
    {rows : List Row}
    (list : List.Forall₂ (Lists schema) (lines.filter (!·.all Text.isBlank)) rows)
    {line : List Char}
    (member : line ∈ lines) :
    WellFormed schema line := by
  by_cases blank : line.all Text.isBlank = true
  · exact .inl blank
  · have inBody : line ∈ lines.filter (!·.all Text.isBlank) :=
      List.mem_filter.2 ⟨member, by simpa using blank⟩
    obtain ⟨row, _, lists⟩ := exists_of_mem_right list.flip inBody
    exact .inr ⟨row, lists⟩

/-- The first malformed line stands in the file. -/
theorem FirstMalformed.exists_malformed
    {schema : Schema}
    {lines : List (List Char)}
    {number : Nat}
    {line : List Char}
    (first : FirstMalformed schema lines number line) :
    line ∈ lines ∧ ¬ WellFormed schema line := by
  obtain ⟨rfl, _, _, malformed⟩ := first
  exact ⟨by simp, malformed⟩

end DataFile

namespace Folder

open DataFile (WellFormed Lists FirstMalformed Blames)

/-- The rows of a table are those that the text of its data file is read as. -/
theorem readRows_eq_ofText
    (folder : Folder)
    (table : String)
    (schema : Schema)
    {workspace : Workspace}
    {text : String}
    (content : workspace.read (folder.tablePath table) = .ok text.toUTF8) :
    (folder.readRows table schema workspace).result =
      (DataFile.ofText (folder.tablePath table) schema text).mapError .storage := by
  simp only [readRows, Workspace.isPresent_of_read content, content, rowsOfBytes,
    Text.decodeStream_toUTF8, Text.Stream.lines, DataFile.ofText]
  cases DataFile.readLines (folder.tablePath table) schema ((Text.lines text).zipIdx 1) <;> rfl

/-- The text of a data file is made of certain lines. If all of them are well-formed, those that are
not blank list the rows of the table, in order. Otherwise no rows are read, and the fault tells what
is wrong with the first line that is not well-formed, and its number. -/
theorem readRows_lists_or_blames
    (folder : Folder)
    (table : String)
    (schema : Schema)
    {workspace : Workspace}
    {text : String}
    (content : workspace.read (folder.tablePath table) = .ok text.toUTF8) :
    ∃ lines : List (List Char),
      (∀ own, Text.MadeOf Text.isNewline text.toList own ↔ own = lines) ∧
      ((∀ line ∈ lines, WellFormed schema line) →
        ∃ rows, (folder.readRows table schema workspace).result = .ok rows ∧
          List.Forall₂ (Lists schema) (lines.filter (!·.all Text.isBlank)) rows ∧
          ∀ row ∈ rows, row.Conforms schema) ∧
      ((∃ line ∈ lines, ¬ WellFormed schema line) →
        ∃ number line fault,
          (folder.readRows table schema workspace).result = .error (.storage fault) ∧
          FirstMalformed schema lines number line ∧
          Blames (folder.tablePath table) schema number line fault ∧
          fault.label = "DataFileError" ∧ fault.line? = some number) := by
  have madeOf : Text.MadeOf Text.isNewline text.toList _ := Text.madeOf_splitLines text.toList
  refine ⟨_, fun own => Text.madeOf_iff, ?_⟩
  rw [readRows_eq_ofText folder table schema content]
  cases read : DataFile.ofText (folder.tablePath table) schema text with
  | ok rows =>
      have list := (DataFile.ofText_eq_ok_iff _ _ madeOf _).1 read
      refine ⟨fun _ => ⟨rows, rfl, list, fun row member => ?_⟩, ?_⟩
      · obtain ⟨line, _, lists⟩ := DataFile.exists_of_mem_right list member
        exact ((DataFile.reads_iff_lists ..).2 lists).conforms
      · rintro ⟨line, member, malformed⟩
        exact absurd (DataFile.wellFormed_of_lists list member) malformed
  | error fault =>
      obtain ⟨number, line, first, blames⟩ :=
        (DataFile.ofText_eq_error_iff _ _ madeOf _).1 read
      obtain ⟨label, told⟩ := blames.tells
      refine ⟨fun wellFormed => ?_, fun _ => ⟨number, line, fault, rfl, first, blames, label, told⟩⟩
      obtain ⟨member, malformed⟩ := first.exists_malformed
      exact absurd (wellFormed line member) malformed

/-- A table with a whole number and a real number in every row. -/
def pairSchema : Schema :=
  ⟨[⟨"n", .integer⟩, ⟨"x", .real⟩], by decide⟩

/-- A text whose lines end in all three ways. The second line is blank, and the last is empty. -/
def mixedText : String :=
  "1,2.5\r \n\u0663,.5e1\r\n\n"

/-- The lines of the text that are not blank list two rows. With two malformed lines behind them,
the first of these is blamed for its three fields, and its number counts all lines before it. -/
theorem readRows_mixedText :
    (∃ rows,
      ((usual (.ofString "db")).readRows "T" pairSchema
        (sampleWorkspace [("T.csv", mixedText)])).result = .ok rows ∧
      List.Forall₂ (Lists pairSchema) ["1,2.5".toList, "\u0663,.5e1".toList] rows) ∧
    ∃ line,
      ((usual (.ofString "db")).readRows "T" pairSchema
        (sampleWorkspace [("T.csv", mixedText ++ "7,x,9\nbad")])).result =
          .error (.storage (.fieldCount 2 3 (.ofString "db/T.csv") 5)) ∧
      Blames (.ofString "db/T.csv") pairSchema 5 line
        (.fieldCount 2 3 (.ofString "db/T.csv") 5) := by
  constructor
  · obtain ⟨lines, madeOf, listed, _⟩ := readRows_lists_or_blames (usual (.ofString "db")) "T"
      pairSchema
      (show (sampleWorkspace [("T.csv", mixedText)]).read _ = .ok mixedText.toUTF8 by
        decide +kernel)
    obtain rfl : lines = ["1,2.5".toList, [' '], "\u0663,.5e1".toList, []] :=
      (Text.madeOf_iff.1 ((madeOf lines).2 rfl)).trans (by decide +kernel)
    obtain ⟨rows, read, lists, _⟩ := listed (by decide +kernel)
    exact ⟨rows, read, lists⟩
  · obtain ⟨lines, madeOf, _, blamed⟩ := readRows_lists_or_blames (usual (.ofString "db")) "T"
      pairSchema
      (show (sampleWorkspace [("T.csv", mixedText ++ "7,x,9\nbad")]).read _ =
        .ok (mixedText ++ "7,x,9\nbad").toUTF8 by decide +kernel)
    obtain rfl := Text.madeOf_iff.1 ((madeOf lines).2 rfl)
    obtain ⟨number, line, fault, read, _, blames, _, told⟩ := blamed (by decide +kernel)
    have evaluated : ((usual (.ofString "db")).readRows "T" pairSchema
        (sampleWorkspace [("T.csv", mixedText ++ "7,x,9\nbad")])).result =
          .error (.storage (.fieldCount 2 3 (.ofString "db/T.csv") 5)) := by
      decide +kernel
    obtain rfl := Fault.storage.inj (Except.error.inj (read.symm.trans evaluated))
    obtain rfl := Option.some.inj told
    exact ⟨line, evaluated, blames⟩

end Folder
end Storage
end FlatTables
