import FlatTables.Proofs.Schema
import FlatTables.Proofs.Text.Lines
import FlatTables.Storage.SchemaFile

/-!
# Schema files that can be read

The tables of a schema file have distinct folded names, and every table has at least one attribute.
A name starts with an ASCII letter or an underscore and goes on with word characters, so it holds
neither a path separator nor a null character.
-/

namespace FlatTables
namespace Storage
namespace SchemaFile

/-- The text is a name of a schema file. -/
def IsName (name : String) : Prop :=
  ∃ c rest, name.toList = c :: rest ∧ startsName c = true ∧ ∀ other ∈ rest, Text.isWord other = true

theorem isName_iff (name : String) :
    IsName name ↔
      name.toList.head?.any startsName = true ∧ name.toList.tail.all Text.isWord = true := by
  unfold IsName
  cases name.toList with
  | nil => simp
  | cons c rest => simp

instance : DecidablePred IsName :=
  fun name => decidable_of_iff _ (isName_iff name).symm

/-- A name does not hold characters that no name starts or goes on with. -/
theorem IsName.not_mem
    {name : String}
    (isName : IsName name)
    {c : Char}
    (noStart : startsName c = false)
    (noWord : Text.isWord c = false) :
    c ∉ name.toList := by
  obtain ⟨first, rest, equal, start, word⟩ := isName
  intro member
  rw [equal] at member
  rcases List.mem_cons.1 member with rfl | inRest
  · rw [noStart] at start
    cases start
  · rw [word c inRest] at noWord
    cases noWord

theorem IsName.slash_not_mem
    {name : String}
    (isName : IsName name) :
    '/' ∉ name.toList :=
  isName.not_mem (by decide) (by decide)

theorem IsName.null_not_mem
    {name : String}
    (isName : IsName name) :
    '\x00' ∉ name.toList :=
  isName.not_mem (by decide) (by decide)

/-- A text that starts with a name does not stand for a directory. -/
theorem IsName.append_not_mem
    {name : String}
    (isName : IsName name)
    (rest : String) :
    name ++ rest ∉ ["", ".", ".."] := by
  obtain ⟨first, others, equal, start, _⟩ := isName
  have head : (name ++ rest).toList.head? = some first := by
    rw [String.toList_append, equal]
    rfl
  have noDot : first ≠ '.' := by
    rintro rfl
    exact absurd start (by decide)
  intro member
  simp only [List.mem_cons, List.not_mem_nil, or_false] at member
  rcases member with empty | one | two
  · simp [empty] at head
  · exact noDot (by simpa [one] using head.symm)
  · exact noDot (by simpa [two] using head.symm)

theorem isName_of_splitName?
    {text name rest : List Char}
    (split : splitName? text = some (name, rest)) :
    IsName (String.ofList name) := by
  cases text with
  | nil => cases split
  | cons c tail =>
      cases start : startsName c with
      | false => simp [splitName?, start] at split
      | true =>
          simp only [splitName?, start, if_true, Option.some.injEq, Prod.mk.injEq] at split
          obtain ⟨rfl, _⟩ := split
          refine ⟨c, tail.takeWhile Text.isWord, by simp, start, ?_⟩
          exact fun other member => List.mem_takeWhile_imp member

theorem isName_of_splitLine?
    {line name attributes : List Char}
    (split : splitLine? line = some (name, attributes)) :
    IsName (String.ofList name) := by
  unfold splitLine? at split
  split at split
  · rename_i named
    split at split
    · cases split
      exact isName_of_splitName? named
    · cases split
  · cases split

theorem readAttributes_length
    {path : Path}
    {number : Nat}
    {tokens : List (List Char)}
    {attributes : List Attribute}
    (read : readAttributes path number tokens = .ok attributes) :
    attributes.length = tokens.length := by
  induction tokens generalizing attributes with
  | nil =>
      cases read
      rfl
  | cons token rest inductionHypothesis =>
      unfold readAttributes at read
      cases first : readAttribute path number (Text.trimChars token) with
      | error fault => simp [first] at read
      | ok attr =>
          simp only [first, map_eq_ok_iff] at read
          obtain ⟨others, readRest, rfl⟩ := read
          rw [List.length_cons, List.length_cons, inductionHypothesis readRest]

/-- A schema line gives a name and at least one attribute. -/
theorem readLine_eq_ok
    {path : Path}
    {number : Nat}
    {line : List Char}
    {named : NamedSchema}
    (read : readLine path number line = .ok named) :
    IsName named.1 ∧ named.2.attributes ≠ [] := by
  unfold readLine at read
  cases split : splitLine? line with
  | none => simp [split] at read
  | some parts =>
      obtain ⟨name, tokens⟩ := parts
      simp only [split] at read
      cases readTokens : readAttributes path number (Text.splitFields ',' tokens) with
      | error fault => simp [readTokens] at read
      | ok attributes =>
          simp only [readTokens] at read
          cases built : Schema.ofAttributes attributes with
          | error fault => simp [built] at read
          | ok schema =>
              simp only [built, Except.ok.injEq] at read
              subst read
              refine ⟨isName_of_splitLine? split, ?_⟩
              rw [(Schema.ofAttributes_eq_ok_iff _ _).1 built]
              intro empty
              have lengths := readAttributes_length readTokens
              rw [empty, List.length_nil] at lengths
              exact Text.splitFields_ne_nil ',' tokens (List.length_eq_zero_iff.1 lengths.symm)

/-- What a schema file is read as: distinct folded names, every one a name, and at least one
attribute for each. -/
theorem readLines_eq_ok
    {path : Path}
    {seen : List String}
    {numbered : List (List Char × Nat)}
    {schemas : List NamedSchema}
    (read : readLines path seen numbered = .ok schemas) :
    (schemas.map fun named => Text.fold named.1).Nodup ∧
      ∀ named ∈ schemas,
        Text.fold named.1 ∉ seen ∧ IsName named.1 ∧ named.2.attributes ≠ [] := by
  induction numbered generalizing seen schemas with
  | nil =>
      cases read
      exact ⟨List.nodup_nil, by simp⟩
  | cons first rest inductionHypothesis =>
      obtain ⟨line, number⟩ := first
      unfold readLines at read
      cases skipped : isSkipped (Text.trimChars line) with
      | true =>
          simp only [skipped, if_true] at read
          exact inductionHypothesis read
      | false =>
          simp only [skipped, Bool.false_eq_true, if_false] at read
          cases own : readLine path number (Text.trimChars line) with
          | error fault => simp [own] at read
          | ok named =>
              simp only [own] at read
              split at read
              · cases read
              · rename_i fresh
                obtain ⟨others, readRest, rfl⟩ := map_eq_ok_iff.1 read
                obtain ⟨nodup, names⟩ := inductionHypothesis readRest
                have unlike : ∀ other ∈ others, Text.fold named.1 ≠ Text.fold other.1 := by
                  intro other member same
                  exact (names other member).1 (by simp [same])
                refine ⟨?_, ?_⟩
                · rw [List.map_cons, List.nodup_cons]
                  refine ⟨fun member => ?_, nodup⟩
                  obtain ⟨other, otherMember, same⟩ := List.mem_map.1 member
                  exact unlike other otherMember same.symm
                · intro other member
                  rcases List.mem_cons.1 member with rfl | inRest
                  · exact ⟨fresh, readLine_eq_ok own⟩
                  · obtain ⟨notSeen, isName, attributes⟩ := names other inRest
                    exact ⟨fun inSeen => notSeen (List.mem_cons_of_mem _ inSeen), isName,
                      attributes⟩

/-- The tables of a schema file have distinct folded names, proper names and attributes. -/
theorem ofText_eq_ok
    {path : Path}
    {text : String}
    {schemas : List NamedSchema}
    (read : ofText path text = .ok schemas) :
    (schemas.map fun named => Text.fold named.1).Nodup ∧
      ∀ named ∈ schemas, IsName named.1 ∧ named.2.attributes ≠ [] := by
  obtain ⟨nodup, names⟩ := readLines_eq_ok read
  exact ⟨nodup, fun named member => (names named member).2⟩

end SchemaFile
end Storage
end FlatTables
