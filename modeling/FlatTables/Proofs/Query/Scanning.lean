import FlatTables.Proofs.Query.Padding

/-!
# What pieces are in the text

A piece of a statement is a part of its text, and of which kind it is can be seen from the part and
from what follows it: a quoted text is closed and no further quote follows, an operator is the
longest one that stands there, a word goes on as far as a word can. The pieces of a statement lie in
its text one behind the other.
-/

namespace FlatTables
namespace Query

open Text (isBlank)

/-- The last character of a text and the first one behind it are not both characters of words. -/
def Apart (own after : List Char) : Prop :=
  ∀ c d, own.getLast? = some c → after.head? = some d → isWordChar d = true →
    isWordChar c = false

/-- A part of a text, with what follows it, is a piece of a kind. Only a quoted text starts with a
single quote. -/
inductive IsPiece : LexemeKind → List Char → List Char → Prop
  | blank {c : Char} {tail after : List Char} (blank : ∀ d ∈ c :: tail, isBlank d = true) :
      IsPiece .blank (c :: tail) after
  | comment {opensHint : Bool} {c : Char} {tail after : List Char} (noText : c ≠ '\'')
      (apart : Apart (c :: tail) after) :
      IsPiece (.comment opensHint) (c :: tail) after
  | number (marked : Bool) {c : Char} {tail after : List Char} (digit : c.isDigit = true)
      (stops : numberLength marked .absent (tail ++ after) = tail.length) :
      IsPiece .number (c :: tail) after
  | quotedText (content : String) {after : List Char} (closed : after.head? ≠ some '\'') :
      IsPiece (.quotedText content) ('\'' :: (doubled '\'' content.toList ++ ['\''])) after
  | quotedName (content : String) {after : List Char} (closed : after.head? ≠ some '"') :
      IsPiece (.quotedName content) ('"' :: (doubled '"' content.toList ++ ['"'])) after
  | nationalText {mark : Char} (content : String) {after : List Char}
      (isMark : mark = 'N' ∨ mark = 'n') (closed : after.head? ≠ some '\'') :
      IsPiece (.nationalText content)
        (mark :: '\'' :: (doubled '\'' content.toList ++ ['\''])) after
  | symbol {c : Char} {tail after : List Char} (noText : c ≠ '\'')
      (delimiters : ∀ d ∈ c :: tail, isDelimiter d = true)
      (longest : ∀ operator ∈ operators, operator.toList <+: c :: (tail ++ after) →
        operator.toList.length ≤ tail.length + 1) :
      IsPiece .symbol (c :: tail) after
  | phrase {c : Char} {tail after : List Char} (noText : c ≠ '\'') :
      IsPiece .phrase (c :: tail) after
  | word {c : Char} {tail after : List Char} (inside : ∀ d ∈ c :: tail, isWordChar d = true)
      (ends : ∀ d, after.head? = some d → isWordChar d = false) :
      IsPiece .word (c :: tail) after

/-! ## Operators -/

/-- An operator is found where its characters stand. -/
theorem spellingLength?_eq_some_iff
    {spelling : List Char}
    (plain : ∀ s ∈ spelling, s ≠ ' ' ∧ isWordChar s = false)
    (text : List Char)
    (length : Nat) :
    spellingLength? spelling text = some length ↔
      spelling <+: text ∧ length = spelling.length := by
  induction spelling generalizing text length with
  | nil => simp [spellingLength?, eq_comm]
  | cons s spelling inductionHypothesis =>
      obtain ⟨⟨notSpace, noWord⟩, others⟩ := List.forall_mem_cons.1 plain
      cases text with
      | nil => simp [spellingLength?]
      | cons c text =>
          have sameCase : s.toUpper = c.toUpper ↔ s = c :=
            ⟨eq_of_toUpper_eq noWord, congrArg Char.toUpper⟩
          by_cases same : s = c
          · subst same
            simp only [spellingLength?, notSpace, if_false, if_true, Option.map_eq_some_iff,
              inductionHypothesis others, List.cons_prefix_cons, true_and, List.length_cons]
            constructor
            · rintro ⟨shorter, ⟨standsThere, rfl⟩, rfl⟩
              exact ⟨standsThere, rfl⟩
            · rintro ⟨standsThere, rfl⟩
              exact ⟨_, ⟨standsThere, rfl⟩, rfl⟩
          · simp [spellingLength?, notSpace, sameCase, same]

theorem isDelimiter_of_mem_operators
    {operator : String}
    (member : operator ∈ operators)
    {s : Char}
    (inOperator : s ∈ operator.toList) :
    s ≠ ' ' ∧ isDelimiter s = true := by
  have all : operators.all (fun operator => operator.toList.all fun s =>
      s != ' ' && isDelimiter s) = true := by
    decide
  have own := List.all_eq_true.1 (List.all_eq_true.1 all operator member) s inOperator
  simpa only [Bool.and_eq_true, bne_iff_ne, ne_eq] using own

theorem operator_spelled_iff
    {operator : String}
    (member : operator ∈ operators)
    (text : List Char)
    (length : Nat) :
    spellingLength? operator.toList text = some length ↔
      operator.toList <+: text ∧ length = operator.toList.length := by
  refine spellingLength?_eq_some_iff (fun s inOperator => ?_) text length
  obtain ⟨notSpace, delimiter⟩ := isDelimiter_of_mem_operators member inOperator
  exact ⟨notSpace, by simp [isWordChar, delimiter]⟩

/-- An operator stands in the list before those it starts with. -/
theorem operators_ordered :
    operators.Pairwise fun first second =>
      ¬ (first.toList <+: second.toList ∧ first.toList.length < second.toList.length) := by
  decide

/-- The operator that is found is the longest one that stands there. -/
theorem operatorLength?_eq_some
    {text : List Char}
    {length : Nat}
    (found : operatorLength? text = some length) :
    ∃ operator ∈ operators, operator.toList <+: text ∧ length = operator.toList.length ∧
      ∀ longer ∈ operators, longer.toList <+: text → longer.toList.length ≤ length := by
  obtain ⟨before, operator, behind, split, own, earlier⟩ := List.findSome?_eq_some_iff.1 found
  have member : operator ∈ operators := by simp [split]
  obtain ⟨standsThere, rfl⟩ := (operator_spelled_iff member text length).1 own
  refine ⟨operator, member, standsThere, rfl, fun longer inOperators alsoThere => ?_⟩
  have place := inOperators
  rw [split, List.mem_append, List.mem_cons] at place
  rcases place with inBefore | rfl | inBehind
  · have spelled := (operator_spelled_iff inOperators text _).2 ⟨alsoThere, rfl⟩
    rw [earlier longer inBefore] at spelled
    cases spelled
  · exact Nat.le_refl _
  · have ordered := operators_ordered
    rw [split, List.pairwise_append, List.pairwise_cons] at ordered
    by_contra tooLong
    have shorter := Nat.lt_of_not_le tooLong
    exact ordered.2.1.1 longer inBehind
      ⟨List.prefix_of_prefix_length_le standsThere alsoThere (Nat.le_of_lt shorter), shorter⟩

theorem operatorLength?_eq_none_iff (text : List Char) :
    operatorLength? text = none ↔ ∀ operator ∈ operators, ¬ operator.toList <+: text := by
  rw [operatorLength?, List.findSome?_eq_none_iff]
  refine forall₂_congr fun operator member => ?_
  rw [Option.eq_none_iff_forall_ne_some]
  constructor
  · intro nowhere standsThere
    exact nowhere _ ((operator_spelled_iff member text _).2 ⟨standsThere, rfl⟩)
  · intro notThere length spelled
    exact notThere ((operator_spelled_iff member text length).1 spelled).1

/-! ## Cuts -/

/-- What stops a run is not of its kind. -/
theorem eq_false_of_head?_dropWhile
    {goesOn : α → Bool}
    {list : List α}
    {first : α}
    (isHead : (list.dropWhile goesOn).head? = some first) :
    goesOn first = false := by
  have stops := List.head?_dropWhile_not goesOn list
  rwa [isHead] at stops

/-- A piece takes characters of the text after its first one, and it is a piece of its kind. -/
def CutsPiece (c : Char) (rest : List Char) (result : Except UnclosedFault Cut) : Prop :=
  ∀ kind extra, result = .ok (kind, extra) →
    ∃ tail after, rest = tail ++ after ∧ extra = tail.length ∧ IsPiece kind (c :: tail) after

theorem CutsPiece.ite
    {c : Char}
    {rest : List Char}
    {condition : Prop}
    [Decidable condition]
    {own other : Except UnclosedFault Cut}
    (holds : condition → CutsPiece c rest own)
    (fails : ¬ condition → CutsPiece c rest other) :
    CutsPiece c rest (if condition then own else other) := by
  split
  · exact holds ‹_›
  · exact fails ‹_›

section
variable {c : Char} {rest : List Char}

theorem CutsPiece.takeWhile
    {kind : LexemeKind}
    {goesOn : Char → Bool}
    (isPiece : IsPiece kind (c :: rest.takeWhile goesOn) (rest.dropWhile goesOn)) :
    CutsPiece c rest (.ok (kind, (rest.takeWhile goesOn).length)) := by
  rintro _ _ ⟨⟩
  exact ⟨_, _, List.takeWhile_append_dropWhile.symm, rfl, isPiece⟩

theorem CutsPiece.alone
    {kind : LexemeKind}
    (isPiece : IsPiece kind [c] rest) :
    CutsPiece c rest (.ok (kind, 0)) := by
  rintro _ _ ⟨⟩
  exact ⟨[], rest, rfl, rfl, isPiece⟩

/-- What stands behind an opening stands in the whole text. -/
theorem split_of_drop
    {opening : Nat}
    {own after : List Char}
    (split : rest.drop opening = own ++ after)
    (nonempty : own ≠ []) :
    rest = (rest.take opening ++ own) ++ after ∧
      (rest.take opening ++ own).length = opening + own.length := by
  constructor
  · rw [List.append_assoc, ← split, List.take_append_drop]
  · have within : opening ≤ rest.length := by
      by_contra outside
      rw [List.drop_eq_nil_of_le (by omega)] at split
      exact nonempty (List.append_eq_nil_iff.1 split.symm).1
    rw [List.length_append, List.length_take_of_le within]

/-! ### Quotes -/

/-- A quoted text that is closed goes up to the first quote that is not doubled. -/
theorem quotedContent_eq_ok
    {quote : Char}
    {text content : List Char}
    {length : Nat}
    (closed : quotedContent quote text = .ok (content, length)) :
    ∃ after, text = (doubled quote content ++ [quote]) ++ after ∧
      length = (doubled quote content ++ [quote]).length ∧ after.head? ≠ some quote := by
  fun_induction quotedContent quote text generalizing content length with
  | case1 => cases closed
  | case2 =>
      cases closed
      exact ⟨[], rfl, rfl, by simp⟩
  | case3 => cases closed
  | case4 tail nonempty inductionHypothesis =>
      obtain ⟨⟨inner, own⟩, read, equal⟩ := map_eq_ok_iff.1 closed
      cases equal
      obtain ⟨after, rfl, rfl, noQuote⟩ := inductionHypothesis read
      exact ⟨after, by simp [doubled], by simp [doubled], noQuote⟩
  | case5 d tail unlike =>
      cases closed
      exact ⟨d :: tail, rfl, rfl, by simpa using unlike⟩
  | case6 d tail unlike inductionHypothesis =>
      obtain ⟨⟨inner, own⟩, read, equal⟩ := map_eq_ok_iff.1 closed
      cases equal
      obtain ⟨after, rfl, rfl, noQuote⟩ := inductionHypothesis read
      exact ⟨after, by simp [doubled, unlike], by simp [doubled, unlike], noQuote⟩

theorem cutsPiece_cutQuoted
    {kind : String → LexemeKind}
    {quote : Char}
    {opening : Nat}
    (isPiece : ∀ (content : String) (after : List Char), after.head? ≠ some quote →
      IsPiece (kind content)
        (c :: (rest.take opening ++ (doubled quote content.toList ++ [quote]))) after) :
    CutsPiece c rest (cutQuoted kind quote opening rest) := by
  intro own extra cutEq
  obtain ⟨⟨content, length⟩, read, equal⟩ := map_eq_ok_iff.1 cutEq
  cases equal
  unfold quotedFrom at read
  split at read
  · cases read
  · obtain ⟨after, split, rfl, closed⟩ := quotedContent_eq_ok read
    obtain ⟨whole, length⟩ := split_of_drop split (by simp)
    refine ⟨_, after, whole, length.symm, ?_⟩
    have content := isPiece (String.ofList content) after closed
    rwa [String.toList_ofList] at content

/-! ### Comments -/

/-- A comment goes up to a closing mark. -/
theorem commentLength?_eq_some
    {inner closing : List Char}
    {depth : Nat}
    {entered : Bool}
    {text : List Char}
    {length : Nat}
    (closed : commentLength? inner closing depth entered text = some length) :
    ∃ body after, text = (body ++ closing) ++ after ∧ length = (body ++ closing).length := by
  fun_induction commentLength? inner closing depth entered text generalizing length with
  | case1 => cases closed
  | case2 depth entered c rest opens inductionHypothesis =>
      obtain ⟨shorter, own, rfl⟩ := Option.map_eq_some_iff.1 closed
      obtain ⟨behind, text⟩ := List.isPrefixOf_iff_prefix.1 opens.2.1
      rw [← text, List.drop_left] at own inductionHypothesis
      obtain ⟨body, after, rfl, rfl⟩ := inductionHypothesis own
      refine ⟨inner ++ body, after, by rw [← text]; simp, ?_⟩
      simp only [List.length_append]
      omega
  | case3 entered c rest opens closes =>
      cases closed
      obtain ⟨after, text⟩ := List.isPrefixOf_iff_prefix.1 closes
      exact ⟨[], after, text.symm, rfl⟩
  | case4 depth entered c rest opens closes deep inductionHypothesis =>
      obtain ⟨shorter, own, rfl⟩ := Option.map_eq_some_iff.1 closed
      obtain ⟨body, after, rfl, rfl⟩ := inductionHypothesis own
      exact ⟨c :: body, after, rfl, rfl⟩
  | case5 depth entered c rest opens closes inductionHypothesis =>
      obtain ⟨shorter, own, rfl⟩ := Option.map_eq_some_iff.1 closed
      obtain ⟨body, after, rfl, rfl⟩ := inductionHypothesis own
      exact ⟨c :: body, after, rfl, rfl⟩

theorem cutsPiece_cutComment
    {opensHint : Bool}
    {opening : Nat}
    {inner : List Char}
    (before : List Char)
    {last : Char}
    (noText : c ≠ '\'')
    (noWord : isWordChar last = false) :
    CutsPiece c rest (cutComment opensHint opening inner (before ++ [last]) rest) := by
  intro kind extra cutEq
  unfold cutComment at cutEq
  split at cutEq
  · rename_i length closed
    cases cutEq
    obtain ⟨body, after, split, rfl⟩ := commentLength?_eq_some closed
    obtain ⟨whole, length⟩ := split_of_drop split (by simp)
    refine ⟨_, after, whole, length.symm, .comment noText fun d e isLast _ _ => ?_⟩
    rw [← List.append_assoc, ← List.append_assoc, ← List.cons_append, List.getLast?_concat]
      at isLast
    cases isLast
    exact noWord
  · cases cutEq

/-! ### Plain pieces -/

theorem cutsPiece_cutPlain
    (notBlank : isBlank c = false)
    (noText : c ≠ '\'') :
    CutsPiece c rest (.ok (cutPlain c rest)) := by
  unfold cutPlain
  cases operator : operatorLength? (c :: rest) with
  | some length =>
      rintro _ _ ⟨⟩
      obtain ⟨own, member, standsThere, rfl, longest⟩ := operatorLength?_eq_some operator
      obtain ⟨after, split⟩ := standsThere
      cases spelled : own.toList with
      | nil =>
          exfalso
          have nonempty : ∀ operator ∈ operators, operator.toList ≠ [] := by decide
          exact nonempty own member spelled
      | cons d tail =>
          rw [spelled] at split longest
          obtain ⟨rfl, rfl⟩ := List.cons.inj split
          refine ⟨tail, after, rfl, rfl, .symbol noText (fun e inOwn => ?_) longest⟩
          exact (isDelimiter_of_mem_operators member (spelled ▸ inOwn)).2
  | none =>
      cases phrase : phraseLength? (c :: rest) with
      | some length =>
          rintro _ _ ⟨⟩
          obtain ⟨own, _, filtered⟩ := List.exists_of_findSome?_eq_some phrase
          have within := spellingLength?_le (Option.filter_eq_some_iff.1 filtered).1
          rw [List.length_cons] at within
          refine ⟨rest.take (length - 1), rest.drop (length - 1), ?_, ?_, .phrase noText⟩
          · exact (List.take_append_drop _ _).symm
          · rw [List.length_take_of_le (by omega)]
      | none =>
          have nowhere := (operatorLength?_eq_none_iff _).1 operator
          dsimp only
          split
          · rename_i delimiter
            refine .alone (.symbol noText (by simpa using delimiter) ?_)
            exact fun own member standsThere => absurd standsThere (nowhere own member)
          · rename_i noDelimiter
            refine .takeWhile (.word (fun d member => ?_) fun d first => ?_)
            · rcases List.mem_cons.1 member with rfl | inside
              · simp [isWordChar, notBlank, noDelimiter]
              · exact List.mem_takeWhile_imp inside
            · exact eq_false_of_head?_dropWhile first

/-- What is cut from a text is a piece of it. -/
theorem cutsPiece_cut (marked : Bool) : CutsPiece c rest (cut marked c rest) := by
  unfold cut
  refine .ite (fun spacing => .takeWhile (.blank fun d member => ?_)) fun noSpacing => ?_
  · rcases List.mem_cons.1 member with rfl | inside
    · exact isBlank_of_isSpacing spacing
    · exact isBlank_of_isSpacing (List.mem_takeWhile_imp inside)
  refine .ite (fun blank => .alone (.blank (by simpa using blank))) fun notBlank => ?_
  refine .ite (fun digit => ?_) fun noDigit => ?_
  · rintro _ _ ⟨⟩
    have within := numberLength_le marked .absent rest
    refine ⟨rest.take (numberLength marked .absent rest),
      rest.drop (numberLength marked .absent rest), (List.take_append_drop _ _).symm,
      (List.length_take_of_le within).symm, .number marked digit ?_⟩
    rw [List.take_append_drop, List.length_take_of_le within]
  refine .ite (fun isQuote => ?_) fun _ => ?_
  · subst isQuote
    exact cutsPiece_cutQuoted fun content after closed => .quotedName content closed
  refine .ite (fun isQuote => ?_) fun noText => ?_
  · subst isQuote
    exact cutsPiece_cutQuoted fun content after closed => .quotedText content closed
  refine .ite (fun national => ?_) fun _ => ?_
  · refine cutsPiece_cutQuoted fun content after closed => ?_
    have opening : rest.take 1 = ['\''] := by simp [List.take_one, national.2]
    rw [opening]
    exact .nationalText content national.1 closed
  refine .ite (fun _ => .takeWhile (.comment noText fun d e _ first isWord => ?_)) fun _ => ?_
  · -- Only the end of a line stands behind a comment of this kind.
    have stops := eq_false_of_head?_dropWhile first
    simp only [endsLine, Bool.not_eq_false', Bool.or_eq_true, beq_iff_eq] at stops
    rcases stops with rfl | rfl <;> exact absurd isWord (by decide)
  refine .ite (fun _ => cutsPiece_cutComment ['*'] noText (by decide)) fun _ => ?_
  refine .ite (fun _ => cutsPiece_cutComment ['*'] noText (by decide)) fun _ => ?_
  refine .ite (fun _ => cutsPiece_cutComment ['#'] noText (by decide)) fun _ => ?_
  exact cutsPiece_cutPlain (Bool.eq_false_iff.2 notBlank) noText

end

/-! ## Pieces in a row -/

/-- Pieces lie in a text one behind the other, behind a part that stands before the text. -/
inductive Lie : (before : List Char) → List Lexeme → (text : List Char) → Prop
  | nil (before : List Char) : Lie before [] []
  | cons {kind : LexemeKind} {before own after : List Char} {pieces : List Lexeme}
      (isPiece : IsPiece kind own after) (others : Lie (before ++ own) pieces after) :
      Lie before (⟨kind, before.length, own⟩ :: pieces) (own ++ after)

/-- The pieces a text is cut into lie in it. -/
theorem lie_of_lexemesFrom
    {marked : Bool}
    {before text : List Char}
    {pieces : List Lexeme}
    (cutEq : lexemesFrom marked before.length text = .ok pieces) :
    Lie before pieces text := by
  generalize position : before.length = start at cutEq
  fun_induction lexemesFrom marked start text generalizing before pieces with
  | case1 =>
      cases cutEq
      exact .nil before
  | case2 => cases cutEq
  | case3 marked start c rest kind extra cutsIt _ =>
      rename_i inductionHypothesis
      obtain ⟨others, cutRest, equal⟩ := map_eq_ok_iff.1 cutEq
      cases equal
      subst position
      obtain ⟨tail, after, rfl, rfl, isPiece⟩ := cutsPiece_cut marked kind extra cutsIt
      rw [List.drop_left] at cutRest inductionHypothesis
      have others := @inductionHypothesis (before ++ c :: tail) _
        (by rw [List.length_append, List.length_cons]; omega) cutRest
      change Lie before (⟨kind, before.length, c :: (tail ++ after).take tail.length⟩ :: _) _
      rw [List.take_left]
      exact .cons isPiece others

/-- The pieces in front of others take up their texts. -/
theorem Lie.split
    {before text : List Char}
    {front pieces : List Lexeme}
    (lie : Lie before (front ++ pieces) text) :
    ∃ after, text = front.flatMap Lexeme.text ++ after ∧
      Lie (before ++ front.flatMap Lexeme.text) pieces after := by
  induction front generalizing before text with
  | nil => exact ⟨text, rfl, by simpa using lie⟩
  | cons piece front inductionHypothesis =>
      cases lie with
      | cons isPiece others =>
          obtain ⟨after, rfl, behind⟩ := inductionHypothesis others
          refine ⟨after, by simp, ?_⟩
          rwa [List.flatMap_cons, ← List.append_assoc]

/-- Only a quoted text starts with a single quote. -/
theorem IsPiece.exists_quotedText
    {kind : LexemeKind}
    {own after : List Char}
    (isPiece : IsPiece kind own after)
    (first : own.head? = some '\'') :
    ∃ content : List Char, own = '\'' :: (doubled '\'' content ++ ['\'']) := by
  cases isPiece with
  | blank blank =>
      cases Option.some.inj first
      exact absurd (blank '\'' List.mem_cons_self) (by decide)
  | comment noText | symbol noText | phrase noText =>
      exact absurd (Option.some.inj first) noText
  | number marked digit =>
      cases Option.some.inj first
      exact absurd digit (by decide)
  | quotedText content => exact ⟨content.toList, rfl⟩
  | quotedName => exact absurd (Option.some.inj first) (by decide)
  | nationalText content isMark =>
      cases Option.some.inj first
      exact absurd isMark (by decide)
  | word inside =>
      cases Option.some.inj first
      exact absurd (inside '\'' List.mem_cons_self) (by decide)

end Query
end FlatTables
