import FlatTables.Proofs.Storage.DataLine
import FlatTables.Proofs.Text.Encoding
import FlatTables.Storage.Folder

/-!
# Contents of data files

A file holds rows if its lines that are not blank are, one by one, lines of these rows: lines that
were there when the file was loaded, or lines written since. Appending a row adds one line to those
that are there, and overwriting a file leaves the lines of the new rows only. Loading the file then
reads every row back with its texts trimmed, unless a row written since is not finite.
-/

namespace FlatTables
namespace Storage
namespace DataFile

/-- The lines of a text that are not blank. -/
def bodyLines (text : List Char) : List (List Char) :=
  (Text.splitLines Text.isNewline text).filter (!·.all Text.isBlank)

/-- A row of a data file, together with where its line comes from: it was there when the file was
loaded, or it has been written since. -/
inductive Stored
  | kept (row : Row)
  | written (row : Row)
  deriving DecidableEq

namespace Stored

/-- The stored row. -/
def row : Stored → Row
  | .kept row => row
  | .written row => row

/-- The line of the row can be read. -/
def Readable : Stored → Prop
  | .kept _ => True
  | .written row => row.Finite

/-- The line is one of the stored row. -/
inductive IsLine (schema : Schema) : List Char → Stored → Prop
  | kept {line : List Char} {row : Row}
      (reads : Reads schema line row) :
      IsLine schema line (.kept row)
  | written {line : List Char} {row : Row}
      (reads : ∀ read, Reads schema line read ↔ row.Finite ∧ read = row.trimmed) :
      IsLine schema line (.written row)

/-- A line of a stored row is read as the row with its texts trimmed, if it can be read. -/
theorem IsLine.reads_iff
    {schema : Schema}
    {line : List Char}
    {stored : Stored}
    (isLine : IsLine schema line stored)
    (read : Row) :
    Reads schema line read ↔ stored.Readable ∧ read = stored.row.trimmed := by
  cases isLine with
  | kept reads =>
      rw [row, reads.trimmed_eq]
      constructor
      · intro readsAgain
        exact ⟨trivial, readsAgain.unique reads⟩
      · rintro ⟨_, rfl⟩
        exact reads
  | written reads => exact reads read

end Stored

/-- The content of a data file, if there is one, holds stored rows. -/
def HoldsRows (schema : Schema) (content : Option ByteArray) (stored : List Stored) : Prop :=
  ∃ text : String, content.getD ByteArray.empty = text.toUTF8 ∧
    List.Forall₂ (Stored.IsLine schema) (bodyLines text.toList) stored

/-! ## Reading -/

theorem readLines_eq_ok_iff
    (path : Path)
    (schema : Schema)
    (numbered : List (String × Nat))
    (rows : List Row) :
    readLines path schema numbered = .ok rows ↔
      List.Forall₂ (Reads schema)
        ((numbered.map (·.1.toList)).filter (!·.all Text.isBlank)) rows := by
  induction numbered generalizing rows with
  | nil => simp [readLines, eq_comm]
  | cons first rest inductionHypothesis =>
      obtain ⟨line, number⟩ := first
      unfold readLines
      cases blank : line.toList.all Text.isBlank with
      | true => simp [Text.isBlankText, blank, inductionHypothesis]
      | false =>
          simp only [Text.isBlankText, blank, Bool.false_eq_true, if_false, List.map_cons,
            List.filter_cons, Bool.not_false, if_true, List.forall₂_cons_left_iff]
          cases read : readLine path schema number line.toList with
          | error fault =>
              simp only [reduceCtorEq, false_iff, not_exists, not_and]
              intro row _ reads
              rw [(readLine_eq_ok_iff ..).2 reads] at read
              cases read
          | ok row =>
              have reads := (readLine_eq_ok_iff ..).1 read
              simp only [map_eq_ok_iff, inductionHypothesis]
              constructor
              · rintro ⟨others, readsOthers, rfl⟩
                exact ⟨row, others, reads, readsOthers, rfl⟩
              · rintro ⟨other, others, readsOther, readsOthers, rfl⟩
                exact ⟨others, readsOthers, by rw [reads.unique readsOther]⟩

theorem bodyLines_toString (text : String) :
    (((Text.lines text).zipIdx 1).map (·.1.toList)).filter (!·.all Text.isBlank) =
      bodyLines text.toList := by
  have lines : ((Text.lines text).zipIdx 1).map (·.1.toList) =
      Text.splitLines Text.isNewline text.toList := by
    rw [← Function.comp_def String.toList Prod.fst, ← List.map_map, List.zipIdx_map_fst,
      Text.lines, List.map_map]
    simp [Function.comp_def]
  rw [lines, bodyLines]

/-- The bytes of a file are read as rows exactly if they encode a text whose lines that are not
blank are read as the rows. -/
theorem rowsOfBytes_eq_ok_iff
    (path : Path)
    (schema : Schema)
    (bytes : ByteArray)
    (rows : List Row) :
    Folder.rowsOfBytes path schema bytes = .ok rows ↔
      ∃ text : String, bytes = text.toUTF8 ∧
        List.Forall₂ (Reads schema) (bodyLines text.toList) rows := by
  unfold Folder.rowsOfBytes Text.decodeStream
  cases decoded : Text.decode bytes with
  | error fault =>
      have notText : ¬ ∃ text : String, bytes = text.toUTF8 ∧
          List.Forall₂ (Reads schema) (bodyLines text.toList) rows := by
        rintro ⟨text, encoded, _⟩
        rw [(Text.decode_eq_ok_iff bytes text).2 encoded] at decoded
        cases decoded
      refine iff_of_false ?_ notText
      dsimp only
      split <;> simp_all
  | ok text =>
      have encoded := (Text.decode_eq_ok_iff bytes text).1 decoded
      have sole : ∀ other : String, bytes = other.toUTF8 → other = text := by
        intro other otherEncoded
        have again := (Text.decode_eq_ok_iff bytes other).2 otherEncoded
        exact Except.ok.inj (again.symm.trans decoded)
      have readText : (∃ own : String, bytes = own.toUTF8 ∧
          List.Forall₂ (Reads schema) (bodyLines own.toList) rows) ↔
            readLines path schema ((Text.lines text).zipIdx 1) = .ok rows := by
        rw [readLines_eq_ok_iff, bodyLines_toString]
        constructor
        · rintro ⟨own, ownEncoded, reads⟩
          exact sole own ownEncoded ▸ reads
        · intro reads
          exact ⟨text, encoded, reads⟩
      rw [readText]
      simp only [Text.Stream.lines]
      cases readLines path schema ((Text.lines text).zipIdx 1) <;> simp

/-- A file that can be loaded holds the rows it is read as. -/
theorem holdsRows_of_rowsOfBytes
    {path : Path}
    {schema : Schema}
    {bytes : ByteArray}
    {rows : List Row}
    (read : Folder.rowsOfBytes path schema bytes = .ok rows) :
    HoldsRows schema (some bytes) (rows.map .kept) := by
  obtain ⟨text, encoded, reads⟩ := (rowsOfBytes_eq_ok_iff ..).1 read
  refine ⟨text, encoded, ?_⟩
  rw [List.forall₂_map_right_iff]
  exact reads.imp fun _ _ readsLine => .kept readsLine

/-- Every row a file is read as can be written again. -/
theorem encodable_of_rowsOfBytes
    {path : Path}
    {schema : Schema}
    {bytes : ByteArray}
    {rows : List Row}
    (read : Folder.rowsOfBytes path schema bytes = .ok rows)
    (attributes : schema.attributes ≠ [])
    {row : Row}
    (member : row ∈ rows) :
    Encodable row := by
  obtain ⟨text, _, reads⟩ := (rowsOfBytes_eq_ok_iff ..).1 read
  obtain ⟨line, lineMember, readsLine⟩ := exists_of_mem_right reads member
  obtain ⟨inText, notBlank⟩ := List.mem_filter.1 lineMember
  refine encodable_of_storable (readsLine.conforms.ne_nil attributes) readsLine.writable
    (readsLine.storable (Text.mem_splitLines inText) ?_)
  simpa using notBlank

/-- A missing file holds no rows. -/
theorem holdsRows_none (schema : Schema) : HoldsRows schema none [] :=
  ⟨"", rfl, by simp [bodyLines, Text.splitLines]⟩

/-- A missing file holds nothing else. -/
theorem HoldsRows.eq_nil
    {schema : Schema}
    {stored : List Stored}
    (holds : HoldsRows schema none stored) :
    stored = [] := by
  obtain ⟨text, encoded, areLines⟩ := holds
  have empty : text = "" := (String.toByteArray_inj.1 encoded).symm
  rw [empty, bodyLines] at areLines
  simpa [Text.splitLines] using areLines

private theorem forall₂_reads_iff
    {schema : Schema}
    {lines : List (List Char)}
    {stored : List Stored}
    (areLines : List.Forall₂ (Stored.IsLine schema) lines stored)
    (rows : List Row) :
    List.Forall₂ (Reads schema) lines rows ↔
      (∀ own ∈ stored, own.Readable) ∧ rows = stored.map (·.row.trimmed) := by
  induction areLines generalizing rows with
  | nil => simp
  | cons isLine others inductionHypothesis =>
      simp only [List.forall₂_cons_left_iff, isLine.reads_iff, inductionHypothesis,
        List.forall_mem_cons, List.map_cons]
      constructor
      · rintro ⟨row, rest, ⟨readable, rfl⟩, ⟨restReadable, rfl⟩, rfl⟩
        exact ⟨⟨readable, restReadable⟩, rfl⟩
      · rintro ⟨⟨readable, restReadable⟩, rfl⟩
        exact ⟨_, _, ⟨readable, rfl⟩, ⟨restReadable, rfl⟩, rfl⟩

/-- A file that holds rows can be loaded exactly if all of them are readable, and is then read as
these rows with their texts trimmed. -/
theorem HoldsRows.rowsOfBytes_iff
    {schema : Schema}
    {bytes : ByteArray}
    {stored : List Stored}
    (holds : HoldsRows schema (some bytes) stored)
    (path : Path)
    (rows : List Row) :
    Folder.rowsOfBytes path schema bytes = .ok rows ↔
      (∀ own ∈ stored, own.Readable) ∧ rows = stored.map (·.row.trimmed) := by
  obtain ⟨text, encoded, areLines⟩ := holds
  rw [rowsOfBytes_eq_ok_iff, ← forall₂_reads_iff areLines]
  constructor
  · rintro ⟨other, otherEncoded, reads⟩
    have same : other = text := by
      apply Except.ok.inj
      rw [← (Text.decode_eq_ok_iff _ _).2 otherEncoded, ← (Text.decode_eq_ok_iff _ _).2 encoded]
      rfl
    exact same ▸ reads
  · intro reads
    exact ⟨text, encoded, reads⟩

/-- A row that is held and can be read conforms to the schema when it is read. -/
theorem HoldsRows.conforms_of_readable
    {schema : Schema}
    {content : Option ByteArray}
    {stored : List Stored}
    (holds : HoldsRows schema content stored)
    (readable : ∀ own ∈ stored, own.Readable)
    {row : Row}
    (member : row ∈ stored.map (·.row.trimmed)) :
    row.Conforms schema := by
  obtain ⟨text, _, areLines⟩ := holds
  obtain ⟨own, inStored, rfl⟩ := List.mem_map.1 member
  obtain ⟨line, _, isLine⟩ := exists_of_mem_right areLines inStored
  exact ((isLine.reads_iff _).2 ⟨readable own inStored, rfl⟩).conforms

/-! ## Writing -/

/-- A text ends its line exactly if it is empty or ends with a line feed. -/
theorem endsLine_toUTF8 (text : String) :
    endsLine text.toUTF8 = true ↔ Text.AtLineStart text.toList := by
  rw [← Text.getLast?_toUTF8]
  unfold endsLine
  generalize text.toUTF8 = bytes
  have lastByte : bytes.data.toList.getLast? = bytes[bytes.size - 1]? := by
    rw [List.getLast?_eq_getElem?, Array.getElem?_toList]
    rfl
  rw [lastByte]
  by_cases empty : bytes.size = 0
  · simp [empty]
  · have some : bytes[bytes.size - 1]? = some bytes[bytes.size - 1] := getElem?_pos _ _ (by omega)
    simp [empty, some]

private theorem bodyLines_line
    {line : List Char}
    (within : ∀ c ∈ line, Text.isNewline c = false)
    (notBlank : line.all Text.isBlank = false) :
    bodyLines (line ++ ['\n']) = [line] := by
  have nonempty : line ≠ [] := by
    rintro rfl
    cases notBlank
  rw [bodyLines, Text.splitLines_line nonempty within]
  simp [notBlank]

/-- A line added to a text, on a line of its own, is one more line that is not blank. -/
theorem bodyLines_append_line
    (text : List Char)
    {line : List Char}
    (within : ∀ c ∈ line, Text.isNewline c = false)
    (notBlank : line.all Text.isBlank = false) :
    (Text.AtLineStart text → bodyLines (text ++ (line ++ ['\n'])) = bodyLines text ++ [line]) ∧
      (¬ Text.AtLineStart text →
        bodyLines (text ++ '\n' :: (line ++ ['\n'])) = bodyLines text ++ [line]) := by
  have own := bodyLines_line within notBlank
  unfold bodyLines at own ⊢
  constructor
  · intro atStart
    rw [Text.splitLines_append atStart, List.filter_append, own]
  · intro inLine
    rw [Text.splitLines_append_newline inLine, List.filter_append, own]

/-- The text that is added to a file with some content for a line. -/
def appended (content : ByteArray) (line : String) : String :=
  ownLine (endsLine content) line

/-- Appending a row to a file adds it behind the stored rows. -/
theorem HoldsRows.append
    {schema : Schema}
    {content : Option ByteArray}
    {stored : List Stored}
    (holds : HoldsRows schema content stored)
    {row : Row}
    {line : String}
    (encoded : encode row = .ok line)
    (conforms : row.Conforms schema)
    (nonempty : row ≠ []) :
    HoldsRows schema
      (some (content.getD ByteArray.empty ++
        (appended (content.getD ByteArray.empty) line).toUTF8))
      (stored ++ [.written row]) := by
  obtain ⟨text, textEncoded, areLines⟩ := holds
  obtain ⟨body, lineEq, within, notBlank, reads⟩ := reads_of_encode encoded conforms nonempty
  obtain ⟨atStartEq, inLineEq⟩ := bodyLines_append_line text.toList within notBlank
  refine ⟨text ++ appended (content.getD ByteArray.empty) line, ?_, ?_⟩
  · rw [Option.getD_some, textEncoded, Text.toUTF8_append]
  · have bodyEq : bodyLines (text ++ appended (content.getD ByteArray.empty) line).toList =
        bodyLines text.toList ++ [body] := by
      unfold appended ownLine
      rw [textEncoded, String.toList_append]
      by_cases ends : endsLine text.toUTF8 = true
      · rw [if_pos ends, lineEq]
        exact atStartEq ((endsLine_toUTF8 text).1 ends)
      · rw [if_neg ends, String.toList_append, lineEq]
        exact inLineEq fun atStart => ends ((endsLine_toUTF8 text).2 atStart)
    rw [bodyEq]
    exact List.rel_append areLines (.cons (.written reads) .nil)

theorem encodeAll_eq_ok
    {rows : List Row}
    {lines : List String}
    (encoded : encodeAll rows = .ok lines) :
    List.Forall₂ (fun row line => encode row = .ok line) rows lines := by
  induction rows generalizing lines with
  | nil =>
      cases encoded
      exact .nil
  | cons row rest inductionHypothesis =>
      unfold encodeAll at encoded
      cases first : encode row with
      | error fault => simp [first] at encoded
      | ok line =>
          simp only [first, map_eq_ok_iff] at encoded
          obtain ⟨others, encodedOthers, rfl⟩ := encoded
          exact .cons first (inductionHypothesis encodedOthers)

/-- Rows that all have a line can be written as a whole. -/
theorem encodeAll_of_encodable
    {rows : List Row}
    (encodable : ∀ row ∈ rows, Encodable row) :
    ∃ lines, encodeAll rows = .ok lines := by
  induction rows with
  | nil => exact ⟨[], rfl⟩
  | cons row rest inductionHypothesis =>
      obtain ⟨line, first⟩ := encodable row (by simp)
      obtain ⟨lines, others⟩ := inductionHypothesis fun other member =>
        encodable other (List.mem_cons_of_mem row member)
      exact ⟨line :: lines, by simp [encodeAll, first, others, Except.map]⟩

/-- A file overwritten with rows holds these rows only. -/
theorem holdsRows_of_encodeAll
    {schema : Schema}
    {rows : List Row}
    {lines : List String}
    (encoded : encodeAll rows = .ok lines)
    (conforming : ∀ row ∈ rows, row.Conforms schema)
    (nonempty : ∀ row ∈ rows, row ≠ []) :
    HoldsRows schema (some (textOf lines).toUTF8) (rows.map .written) := by
  refine ⟨textOf lines, rfl, ?_⟩
  have written := encodeAll_eq_ok encoded
  clear encoded
  unfold textOf
  induction written with
  | nil => simp [bodyLines, Text.splitLines]
  | @cons row line rows lines first others inductionHypothesis =>
      obtain ⟨body, lineEq, within, notBlank, reads⟩ :=
        reads_of_encode first (conforming row (by simp)) (nonempty row (by simp))
      have tail := inductionHypothesis
        (fun other member => conforming other (List.mem_cons_of_mem row member))
        (fun other member => nonempty other (List.mem_cons_of_mem row member))
      have split : bodyLines (String.join (line :: lines)).toList =
          [body] ++ bodyLines (String.join lines).toList := by
        rw [String.join_cons, String.toList_append, lineEq]
        unfold bodyLines
        rw [Text.splitLines_append (Text.atLineStart_append_newline body), List.filter_append]
        exact congrArg (· ++ _) (bodyLines_line within notBlank)
      rw [split]
      exact .cons (.written reads) tail

end DataFile
end Storage
end FlatTables
