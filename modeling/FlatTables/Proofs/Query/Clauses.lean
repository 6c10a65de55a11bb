import FlatTables.Proofs.Text.Lines
import FlatTables.Query.Parser

/-!
# Clauses

A rejection shows a part of the text that is rejected: from the token at fault on, or between two
tokens. The part is in one piece and blanks are cut off its ends, so it may be empty.
-/

namespace FlatTables

open Text (isBlank trimChars)

/-- A part of a text in one piece that neither starts nor ends with a blank. -/
structure IsExcerpt (source : List Char) (clause : String) : Prop where
  part : clause.toList <:+: source
  starts : ∀ c, clause.toList.head? = some c → isBlank c = false
  ends : ∀ c, clause.toList.getLast? = some c → isBlank c = false

/-- The text cannot be read as a statement, and the rejection shows a part of it. -/
inductive Rejection.Cites (source : List Char) : Rejection → Prop
  | ungrammatical (fault : GrammarFault) {clause : String} (excerpt : IsExcerpt source clause) :
      Cites source (.ungrammatical fault clause)
  | malformedCondition (fault : ConditionFault) {clause : String}
      (excerpt : IsExcerpt source clause) :
      Cites source (.malformedCondition fault clause)

namespace Query

theorem isExcerpt_trimChars
    {source part : List Char}
    (isPart : part <:+: source) :
    IsExcerpt source (String.ofList (trimChars part)) := by
  have inPart : trimChars part <:+: part :=
    (Text.trimChars_isPrefix part).isInfix.trans (List.dropWhile_suffix isBlank).isInfix
  constructor <;> rw [String.toList_ofList]
  · exact inPart.trans isPart
  · exact fun _ => Text.head?_trimChars
  · exact fun _ => Text.getLast?_trimChars

theorem isExcerpt_clauseFrom
    (source : List Char)
    (position : Nat) :
    IsExcerpt source (clauseFrom source position) :=
  isExcerpt_trimChars (List.drop_suffix position source).isInfix

theorem isExcerpt_clauseBetween
    (source : List Char)
    (start stop : Nat) :
    IsExcerpt source (Parser.clauseBetween source start stop) :=
  isExcerpt_trimChars
    ((List.drop_suffix start _).isInfix.trans (List.take_prefix stop source).isInfix)

theorem isExcerpt_empty (source : List Char) : IsExcerpt source "" :=
  ⟨List.nil_infix, nofun, nofun⟩

end Query
end FlatTables
