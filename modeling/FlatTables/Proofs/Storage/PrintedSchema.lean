import FlatTables.Proofs.Storage.Folder
import FlatTables.Proofs.Storage.SchemaFile
import FlatTables.Proofs.Text.CodeRanges
import FlatTables.Proofs.Text.LineBreaks

/-!
# Printed schemas

A schema file lists the printed lines of tables in order, and between them blank lines and comments.
If the tables and their attributes have proper names and the names of the tables differ in more than
case, the file is read as exactly these tables. For no name of a word character can be mistaken for
what separates it from the next.
-/

namespace FlatTables
namespace Text

/-- A blank in front is dropped. -/
theorem trimChars_cons_of_blank
    {c : Char}
    (blank : isBlank c = true)
    (s : List Char) :
    trimChars (c :: s) = trimChars s := by
  rw [trimChars, trimChars, List.dropWhile_cons_of_pos blank]

/-- Fields that are separated by a comma and a blank are cut at the commas, and every field but the
first keeps the blank in front of it. -/
theorem splitFields_intercalate_blank
    {separator blank : Char}
    (differ : separator ≠ blank)
    {field : List Char}
    {fields : List (List Char)}
    (clean : ∀ own ∈ field :: fields, separator ∉ own) :
    splitFields separator (List.intercalate [separator, blank] (field :: fields)) =
      field :: fields.map (blank :: ·) := by
  have joined : List.intercalate [separator, blank] (field :: fields) =
      List.intercalate [separator] (field :: fields.map (blank :: ·)) := by
    clear clean
    induction fields generalizing field with
    | nil => simp
    | cons next others inductionHypothesis =>
        rw [List.intercalate_cons_cons, inductionHypothesis, List.map_cons,
          List.intercalate_cons_cons]
        cases others <;> simp [List.intercalate_cons_cons]
  rw [joined]
  apply splitFields_intercalate (List.cons_ne_nil _ _)
  intro own member
  rcases List.mem_cons.1 member with rfl | inRest
  · exact clean own List.mem_cons_self
  · obtain ⟨other, inFields, rfl⟩ := List.mem_map.1 inRest
    rw [List.mem_cons, not_or]
    exact ⟨differ, clean other (List.mem_cons_of_mem field inFields)⟩

end Text

namespace Storage
namespace SchemaFile

/-! ## Names -/

/-- Every character that a name starts with is a word character. -/
theorem isWord_of_startsName
    {c : Char}
    (start : startsName c = true) :
    Text.isWord c = true := by
  have ascii : c.toNat < 128 := by
    rcases Bool.or_eq_true_iff.1 start with alpha | underscore
    · exact Text.ascii_of_isAlpha alpha
    · rw [eq_of_beq underscore]
      decide
  exact Text.of_ascii (by decide +kernel) ascii start

namespace IsName

variable
  {name : String}
  (isName : IsName name)
include isName

theorem isWord_of_mem
    {c : Char}
    (member : c ∈ name.toList) :
    Text.isWord c = true := by
  obtain ⟨first, rest, equal, start, word⟩ := isName
  rw [equal] at member
  rcases List.mem_cons.1 member with rfl | inRest
  · exact isWord_of_startsName start
  · exact word c inRest

/-- A name in front of what does not go on with it is split off whole. -/
theorem splitName?_append
    {c : Char}
    (noWord : Text.isWord c = false)
    (noBlank : Text.isBlank c = false)
    (rest : List Char) :
    splitName? (name.toList ++ c :: rest) = some (name.toList, c :: rest) := by
  obtain ⟨first, others, equal, start, word⟩ := isName
  rw [equal, List.cons_append, splitName?, if_pos start, List.takeWhile_append_of_pos word,
    List.dropWhile_append_of_pos word, List.takeWhile_cons_of_neg (by simp [noWord]),
    List.dropWhile_cons_of_neg (by simp [noWord]), List.dropWhile_cons_of_neg (by simp [noBlank]),
    List.append_nil]

end IsName

/-! ## Attributes -/

/-- The name of a type holds ASCII letters only, and it is the name of this type. -/
theorem ofName?_name (type : AttributeType) :
    type.name.toList ≠ [] ∧ type.name.toList.all Char.isAlpha = true ∧
      AttributeType.ofName? type.name = some type := by
  cases type <;> decide

/-- No character of a printed attribute is blank or a comma. -/
theorem attribute_text_chars
    {attr : Attribute}
    (isName : IsName attr.name)
    {c : Char}
    (member : c ∈ attr.text.toList) :
    Text.isBlank c = false ∧ c ≠ ',' := by
  have ofWord : Text.isWord c = true → Text.isBlank c = false ∧ c ≠ ',' := by
    intro word
    refine ⟨Text.isBlank_of_isWord word, ?_⟩
    rintro rfl
    exact absurd word (by decide)
  have typeIsName : IsName attr.type.name := by
    cases attr.type <;> decide
  simp only [Attribute.text, String.toList_append, List.mem_append] at member
  rcases member with (inName | isColon) | inType
  · exact ofWord (isName.isWord_of_mem inName)
  · obtain rfl : c = ':' := by simpa using isColon
    decide
  · exact ofWord (typeIsName.isWord_of_mem inType)

/-- A printed attribute reads as the attribute. -/
theorem readAttribute_text
    (path : Path)
    (number : Nat)
    {attr : Attribute}
    (isName : IsName attr.name) :
    readAttribute path number attr.text.toList = .ok attr := by
  obtain ⟨nonempty, letters, known⟩ := ofName?_name attr.type
  have noBlank : attr.type.name.toList.dropWhile Text.isBlank = attr.type.name.toList := by
    cases attr.type <;> decide
  have text : attr.text.toList = attr.name.toList ++ ':' :: attr.type.name.toList := by
    simp [Attribute.text]
  have split : splitAttribute? attr.text.toList =
      some (attr.name.toList, attr.type.name.toList) := by
    rw [splitAttribute?, text, isName.splitName?_append (by decide) (by decide)]
    simp only [noBlank, nonempty, letters, ne_eq, not_false_eq_true, and_self, if_true]
  simp only [readAttribute, split, String.ofList_toList, known]

/-- Printed attributes with blanks in front of them read as the attributes. -/
theorem readAttributes_texts
    (path : Path)
    (number : Nat)
    {attributes : List Attribute}
    (names : ∀ attr ∈ attributes, IsName attr.name)
    {tokens : List (List Char)}
    (printed : List.Forall₂ (fun attr token => Text.trimChars token = attr.text.toList)
      attributes tokens) :
    readAttributes path number tokens = .ok attributes := by
  induction printed with
  | nil => rfl
  | cons first rest inductionHypothesis =>
      rw [List.forall_mem_cons] at names
      rw [readAttributes, first, readAttribute_text path number names.1]
      simp only [inductionHypothesis names.2, Except.map]

/-! ## Lines -/

/-- What is listed of a table: its name, and in parentheses its printed attributes. -/
theorem toList_lineOf (named : NamedSchema) :
    (lineOf named).toList = named.1.toList ++ '(' ::
      (List.intercalate [',', ' '] (named.2.attributes.map (·.text.toList)) ++ [')']) := by
  simp [lineOf, Schema.text, String.toList_intercalate, Function.comp_def]

/-- A table that can be listed: its name and those of its attributes are proper, and it has an
attribute. -/
structure Printable (named : NamedSchema) : Prop where
  isName : IsName named.1
  attributes : named.2.attributes ≠ []
  areNames : ∀ attr ∈ named.2.attributes, IsName attr.name

namespace Printable

variable
  {named : NamedSchema}
  (printable : Printable named)
include printable

/-- The printed attributes are recovered from the text between the parentheses. -/
theorem readAttributes_inner
    (path : Path)
    (number : Nat) :
    readAttributes path number (Text.splitFields ','
      (List.intercalate [',', ' '] (named.2.attributes.map (·.text.toList)))) =
        .ok named.2.attributes := by
  have names := printable.areNames
  have trimmed : ∀ attr ∈ named.2.attributes,
      Text.trimChars attr.text.toList = attr.text.toList ∧ ',' ∉ attr.text.toList := by
    intro attr member
    refine ⟨Text.trimChars_of_no_blank ?_, ?_⟩
    · intro c inText
      exact (attribute_text_chars (names attr member) inText).1
    · intro inText
      exact (attribute_text_chars (names attr member) inText).2 rfl
  cases equal : named.2.attributes with
  | nil => exact absurd equal printable.attributes
  | cons first rest =>
      rw [equal] at names trimmed
      rw [List.map_cons, Text.splitFields_intercalate_blank (by decide)]
      · apply readAttributes_texts path number names
        refine List.Forall₂.cons (trimmed first List.mem_cons_self).1 ?_
        rw [List.map_map, List.forall₂_map_right_iff, List.forall₂_same]
        intro attr member
        rw [Function.comp_apply, Text.trimChars_cons_of_blank (by decide)]
        exact (trimmed attr (List.mem_cons_of_mem first member)).1
      · intro own member
        have inTexts : own ∈ (first :: rest).map (·.text.toList) := member
        obtain ⟨attr, inAttributes, rfl⟩ := List.mem_map.1 inTexts
        exact (trimmed attr inAttributes).2

/-- The line of a table reads as the table. -/
theorem readLine_lineOf
    (path : Path)
    (number : Nat) :
    readLine path number (lineOf named).toList = .ok named := by
  have split : splitLine? (lineOf named).toList =
      some (named.1.toList,
        List.intercalate [',', ' '] (named.2.attributes.map (·.text.toList))) := by
    rw [splitLine?, toList_lineOf, printable.isName.splitName?_append (by decide) (by decide)]
    simp
  have built : Schema.ofAttributes named.2.attributes = .ok named.2 :=
    Schema.ofAttributes_of_nodup named.2.nodup_names
  simp only [readLine, split, printable.readAttributes_inner path number, built,
    String.ofList_toList]

/-- It has no blanks at its ends, and it is not taken for a comment. -/
theorem trimChars_lineOf :
    Text.trimChars (lineOf named).toList = (lineOf named).toList ∧
      isSkipped (lineOf named).toList = false := by
  obtain ⟨first, rest, equal, start, _⟩ := printable.isName
  have starts : (lineOf named).toList.head? = some first := by
    rw [toList_lineOf, equal, List.cons_append, List.head?_cons]
  have ends : (lineOf named).toList.getLast? = some ')' := by
    rw [toList_lineOf, ← List.cons_append, ← List.append_assoc, List.getLast?_concat]
  refine ⟨Text.trimChars_of_ends ?_ ?_, ?_⟩
  · intro c isFirst
    obtain rfl := Option.some.inj (starts.symm.trans isFirst)
    exact Text.isBlank_of_isWord (isWord_of_startsName start)
  · intro c isLast
    obtain rfl := Option.some.inj (ends.symm.trans isLast)
    decide
  · have noComment : first ≠ '#' := by
      rintro rfl
      exact absurd start (by decide)
    simpa [isSkipped, starts] using noComment

/-- It is one line. -/
theorem lineOf_within :
    ∀ c ∈ (lineOf named).toList, Text.isLineBoundary c = false := by
  have ofBlank : ∀ c, Text.isBlank c = false → Text.isLineBoundary c = false := by
    intro c notBlank
    rw [Bool.eq_false_iff] at notBlank ⊢
    exact mt Text.isBlank_of_isLineBoundary notBlank
  intro c member
  rw [toList_lineOf, List.mem_append, List.mem_cons, List.mem_append, List.mem_singleton] at member
  rcases member with inName | rfl | inAttributes | rfl
  · exact ofBlank c (Text.isBlank_of_isWord (printable.isName.isWord_of_mem inName))
  · decide
  · rcases Text.mem_intercalate inAttributes with inSeparator | ⟨text, inTexts, inText⟩
    · simp only [List.mem_cons, List.not_mem_nil, or_false] at inSeparator
      rcases inSeparator with rfl | rfl <;> decide
    · obtain ⟨attr, inSchema, rfl⟩ := List.mem_map.1 inTexts
      exact ofBlank c (attribute_text_chars (printable.areNames attr inSchema) inText).1
  · decide

end Printable

/-! ## Files -/

/-- A line that lists no table: it is blank, or a comment, perhaps with blanks in front of it. -/
inductive ListsNothing : List Char → Prop
  | blank {line : List Char} (allBlank : ∀ c ∈ line, Text.isBlank c = true) :
      ListsNothing line
  | comment {blanks text : List Char} (allBlank : ∀ c ∈ blanks, Text.isBlank c = true) :
      ListsNothing (blanks ++ '#' :: text)

/-- The lines of a schema file list the printed tables in order. -/
inductive Lists : List (List Char) → List NamedSchema → Prop
  | nil : Lists [] []
  | nothing {line : List Char} {lines : List (List Char)} {schemas : List NamedSchema}
      (skipped : ListsNothing line)
      (within : ∀ c ∈ line, Text.isLineBoundary c = false)
      (others : Lists lines schemas) :
      Lists (line :: lines) schemas
  | table {named : NamedSchema} {lines : List (List Char)} {schemas : List NamedSchema}
      (others : Lists lines schemas) :
      Lists ((lineOf named).toList :: lines) (named :: schemas)

/-- Such a line is skipped. -/
theorem ListsNothing.isSkipped_trimChars
    {line : List Char}
    (skipped : ListsNothing line) :
    isSkipped (Text.trimChars line) = true := by
  cases skipped with
  | blank allBlank =>
      rw [(Text.trimChars_eq_nil_iff line).2 (List.all_eq_true.2 allBlank)]
      rfl
  | @comment blanks text allBlank =>
      have front : (blanks ++ '#' :: text).dropWhile Text.isBlank = '#' :: text := by
        rw [List.dropWhile_append_of_pos allBlank, List.dropWhile_cons_of_neg (by decide)]
      have isPrefix := Text.trimChars_isPrefix (blanks ++ '#' :: text)
      rw [front] at isPrefix
      cases trimmed : Text.trimChars (blanks ++ '#' :: text) with
      | nil => rfl
      | cons c rest =>
          rw [trimmed, List.cons_prefix_cons] at isPrefix
          obtain ⟨rfl, _⟩ := isPrefix
          rfl

section
variable
  {lines : List (List Char)}
  {schemas : List NamedSchema}
  (lists : Lists lines schemas)
  (printable : ∀ named ∈ schemas, Printable named)
include lists printable

/-- The lines of a schema file hold no line boundary. -/
theorem Lists.within : ∀ line ∈ lines, ∀ c ∈ line, Text.isLineBoundary c = false := by
  induction lists with
  | nil => simp
  | nothing skipped own others inductionHypothesis =>
      rw [List.forall_mem_cons]
      exact ⟨own, inductionHypothesis printable⟩
  | table others inductionHypothesis =>
      rw [List.forall_mem_cons] at printable ⊢
      exact ⟨printable.1.lineOf_within, inductionHypothesis printable.2⟩

/-- Numbered lines are read as the tables they list, if these have names of their own. -/
theorem Lists.readLines_eq
    (path : Path)
    (distinct : (schemas.map fun named => Text.fold named.1).Nodup)
    {seen : List String}
    (fresh : ∀ named ∈ schemas, Text.fold named.1 ∉ seen)
    (number : Nat) :
    readLines path seen (lines.zipIdx number) = .ok schemas := by
  induction lists generalizing seen number with
  | nil => rfl
  | nothing skipped own others inductionHypothesis =>
      rw [List.zipIdx_cons, readLines, if_pos skipped.isSkipped_trimChars]
      exact inductionHypothesis printable distinct fresh (number + 1)
  | @table named _ schemas others inductionHypothesis =>
      rw [List.forall_mem_cons] at printable fresh
      rw [List.map_cons, List.nodup_cons] at distinct
      obtain ⟨trimmed, listed⟩ := printable.1.trimChars_lineOf
      have freshThen : ∀ other ∈ schemas, Text.fold other.1 ∉ Text.fold named.1 :: seen := by
        intro other member inSeen
        rcases List.mem_cons.1 inSeen with same | before
        · exact distinct.1 (List.mem_map.2 ⟨other, member, same⟩)
        · exact fresh.2 other member before
      rw [List.zipIdx_cons, readLines, trimmed]
      simp only [listed, Bool.false_eq_true, if_false, printable.1.readLine_lineOf path number,
        fresh.1, inductionHypothesis printable.2 distinct.2 freshThen (number + 1), Except.map]

end

end SchemaFile

namespace Folder

open SchemaFile (ListsNothing Lists Printable lineOf)

/-- If tables have proper names and attributes, and no two of the names are the same but for case, a
schema file that lists them in order, with any blank lines and comments between them, reads as exactly
these tables. The lines may be written with a line feed behind each, or broken at any line boundary.
-/
theorem readSchemas_of_printed
    {schemas : List NamedSchema}
    (printable : ∀ named ∈ schemas, Printable named)
    (distinct : (schemas.map fun named => Text.fold named.1).Nodup)
    {lines : List (List Char)}
    (lists : Lists lines schemas) :
    Text.MadeOf Text.isLineBoundary (lines.flatMap (· ++ ['\n'])) lines ∧
      ∀ text : String, Text.MadeOf Text.isLineBoundary text.toList lines →
        ∀ (folder : Folder) (workspace : Workspace),
          workspace.read folder.schemaPath = .ok text.toUTF8 →
          folder.readSchemas workspace = .ok schemas := by
  refine ⟨Text.madeOf_flatMap_newline (by decide) (lists.within printable), ?_⟩
  intro text madeOf folder workspace reads
  refine (folder.readSchemas_eq_ok_iff workspace schemas).2 ⟨text, reads, ?_⟩
  rw [SchemaFile.ofText, ← madeOf.eq_splitLines]
  exact lists.readLines_eq printable folder.schemaPath distinct
    (fun named _ => List.not_mem_nil) 1

/-- Two tables with letters and digits of several scripts in their names. -/
def sampleListing : List NamedSchema :=
  [("Gebäude_2", ⟨[⟨"größe", .real⟩, ⟨"_名", .text⟩], by decide⟩),
   ("x", ⟨[⟨"a²", .integer⟩], by decide⟩)]

/-- A schema file that lists them. -/
def sampleListingText : String :=
  "#x(a:Text)\nGebäude_2(größe:Real, _名:Text)\r\n\t\u2028x(a²:Integer)\x0b # end"

/-- They are read from a file with a blank line, comments and line ends of several kinds. -/
theorem readSchemas_of_printed_sample :
    (∀ named ∈ sampleListing, Printable named) ∧
    (sampleListing.map fun named => Text.fold named.1).Nodup ∧
    readSchemas ⟨.ofString "db", "schema.txt", ".csv"⟩
        { entries := [(["db"], .directory), (["db", "schema.txt"], .file sampleListingText.toUTF8)] } =
      .ok sampleListing := by
  have printable : ∀ named ∈ sampleListing, Printable named := by
    have names : ∀ named ∈ sampleListing, SchemaFile.IsName named.1 ∧
        named.2.attributes ≠ [] ∧ ∀ attr ∈ named.2.attributes, SchemaFile.IsName attr.name := by
      decide +kernel
    intro named member
    obtain ⟨isName, attributes, areNames⟩ := names named member
    exact ⟨isName, attributes, areNames⟩
  have distinct : (sampleListing.map fun named => Text.fold named.1).Nodup := by
    decide +kernel
  have oneLine : ∀ line : List Char, line.all (fun c => !Text.isLineBoundary c) = true →
      ∀ c ∈ line, Text.isLineBoundary c = false := by
    intro line noBoundary c member
    simpa using List.all_eq_true.1 noBoundary c member
  have lists : Lists
      ["#x(a:Text)".toList, (lineOf sampleListing[0]).toList, ['\t'],
        (lineOf sampleListing[1]).toList, " # end".toList] sampleListing := by
    apply Lists.nothing (@ListsNothing.comment [] _ (by simp)) (oneLine _ (by decide))
    apply Lists.table
    apply Lists.nothing (.blank (List.all_eq_true.1 (by decide))) (oneLine _ (by decide))
    apply Lists.table
    apply Lists.nothing (@ListsNothing.comment [' '] _ (List.all_eq_true.1 (by decide)))
    · exact oneLine _ (by decide)
    · exact .nil
  refine ⟨printable, distinct, ?_⟩
  apply (readSchemas_of_printed printable distinct lists).2 sampleListingText
  · exact Text.madeOf_iff.2 (by decide +kernel)
  · decide +kernel

end Folder
end Storage
end FlatTables
