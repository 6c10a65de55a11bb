import FlatTables.Proofs.Query.Acceptance

/-!
# Malformed conditions

A rejected list of tokens is either ungrammatical or has a malformed condition. The second is the
case exactly if the tokens up to WHERE are those of a query or a deletion, and the tokens between
WHERE and the first semicolon or end are no condition. The recursive descent fails ungrammatically
wherever it fails, so only the reading of a condition has to be looked at closely. Positions matter
here, since the clause of the error is a part of the source text: what a reader leaves over is
followed as tokens and not only as forms.
-/

namespace FlatTables
namespace Query

/-- The tokens of a statement that may have a condition, up to the name of its table. -/
inductive IsHead : List TokenForm → Prop
  | select {columns : Columns} {columnForms : List TokenForm} (table : String)
      (derivesColumns : DerivesColumns columns columnForms) :
      IsHead (.keyword .select :: columnForms ++ [.keyword .from, .name table])
  | delete (table : String) : IsHead [.keyword .delete, .keyword .from, .name table]

/-- The tokens of a condition without its keyword. -/
inductive IsPredicate : List TokenForm → Prop
  | intro {literal : String} {operand : TokenForm} (column : String) (op : ComparisonOp)
      (isOperand : IsOperand literal operand) :
      IsPredicate [.name column, .operator op, operand]

/-- The tokens are those of a query or a deletion up to WHERE. What stands behind WHERE, up to the
first semicolon or end, is no condition. -/
inductive HasBadCondition : List Token → List Token → Token → Prop
  | intro {head inside after : List Token} {keyword stop : Token}
      (isHead : IsHead (head.map Token.form))
      (isWhere : keyword.form = .keyword .where)
      (goesOn : ∀ token ∈ inside, token.form ≠ .semicolon ∧ token.form ≠ .finish)
      (stops : stop.form = .semicolon ∨ stop.form = .finish)
      (bad : ¬ IsPredicate (inside.map Token.form)) :
      HasBadCondition (head ++ keyword :: (inside ++ stop :: after)) inside stop

namespace Parser

/-! ## Readers that fail ungrammatically -/

/-- Whatever rejection a reader ends with, it is ungrammatical. -/
def FailsUngrammatically (result : Except Rejection α) : Prop :=
  ∀ rejection, result = .error rejection → ∃ fault clause, rejection = .ungrammatical fault clause

theorem FailsUngrammatically.ok (value : α) :
    FailsUngrammatically (.ok value) := by
  intro rejection failed
  cases failed

theorem FailsUngrammatically.unexpected
    (source : List Char)
    (what : Expectation)
    (tokens : List Token) :
    FailsUngrammatically (.error (unexpected source what tokens) : Except Rejection α) := by
  intro rejection failed
  cases failed
  exact ⟨_, _, rfl⟩

theorem FailsUngrammatically.map
    {result : Except Rejection α}
    (fails : FailsUngrammatically result)
    (change : α → β) :
    FailsUngrammatically (result.map change) :=
  fun rejection failed => fails rejection (map_eq_error_iff.1 failed)

theorem FailsUngrammatically.bind
    {result : Except Rejection α}
    {next : α → Except Rejection β}
    (fails : FailsUngrammatically result)
    (nextFails : ∀ value, FailsUngrammatically (next value)) :
    FailsUngrammatically (result >>= next) := by
  intro rejection failed
  rcases bind_eq_error_iff.1 failed with first | ⟨value, -, second⟩
  · exact fails rejection first
  · exact nextFails value rejection second

/-- A sequence fails ungrammatically with its first part, or its first part has been read. -/
theorem FailsUngrammatically.bind_or_ok
    {result : Except Rejection α}
    (fails : FailsUngrammatically result)
    (next : α → Except Rejection β) :
    FailsUngrammatically (result >>= next) ∨
      ∃ value, result = .ok value ∧ (result >>= next) = next value := by
  cases result with
  | error own =>
      left
      rintro rejection ⟨⟩
      exact fails own rfl
  | ok value => exact .inr ⟨value, rfl, rfl⟩

section
variable (source : List Char) (tokens : List Token)

theorem expect_fails
    (form : TokenForm)
    (what : Expectation) :
    FailsUngrammatically (expect source form what tokens) := by
  unfold expect
  split
  · split
    · exact .ok _
    · exact .unexpected source what _
  · exact .unexpected source what _

theorem name_fails (what : Expectation) :
    FailsUngrammatically (name source what tokens) := by
  unfold name
  split
  · exact .ok _
  · exact .unexpected source what _

theorem moreNames_fails :
    FailsUngrammatically (moreNames source tokens) := by
  fun_induction moreNames source tokens with
  | case1 _ _ _ _ inductionHypothesis => exact inductionHypothesis.map _
  | case2 => exact .unexpected source _ _
  | case3 => exact .ok _

theorem names_fails :
    FailsUngrammatically (names source tokens) :=
  (name_fails source tokens _).bind fun (_, rest) =>
    (moreNames_fails source rest).bind fun _ => .ok _

theorem literal_fails :
    FailsUngrammatically (literal source tokens) := by
  unfold literal
  split
  · exact .unexpected source _ _
  · split
    · exact .ok _
    · exact .unexpected source _ _

theorem moreLiterals_fails :
    FailsUngrammatically (moreLiterals source tokens) := by
  fun_induction moreLiterals source tokens with
  | case1 _ _ _ _ _ inductionHypothesis => exact inductionHypothesis.map _
  | case2 => exact .unexpected source _ _
  | case3 => exact .unexpected source _ _
  | case4 => exact .ok _

theorem literals_fails :
    FailsUngrammatically (literals source tokens) :=
  (literal_fails source tokens).bind fun (_, rest) =>
    (moreLiterals_fails source rest).bind fun _ => .ok _

theorem columns_fails :
    FailsUngrammatically (columns source tokens) := by
  unfold columns
  split
  · exact .ok _
  · exact (names_fails source _).map _

/-- An insertion has no condition that could be malformed. -/
theorem insert_fails :
    FailsUngrammatically (insert source tokens) :=
  (expect_fails source tokens _ _).bind fun _ =>
    (name_fails source _ _).bind fun _ =>
      (expect_fails source _ _ _).bind fun _ =>
        (names_fails source _).bind fun _ =>
          (expect_fails source _ _ _).bind fun _ =>
            (expect_fails source _ _ _).bind fun _ =>
              (expect_fails source _ _ _).bind fun _ =>
                (literals_fails source _).bind fun _ =>
                  (expect_fails source _ _ _).bind fun _ => .ok _

end

/-! ## What readers leave over -/

section
variable {source : List Char} {tokens rest : List Token}

theorem expect_suffix
    {form : TokenForm}
    {what : Expectation}
    (read : expect source form what tokens = .ok rest) :
    rest <:+ tokens := by
  unfold expect at read
  split at read
  · split at read
    · cases read
      exact List.suffix_cons _ _
    · cases read
  · cases read

theorem name_suffix
    {what : Expectation}
    {own : String}
    (read : name source what tokens = .ok (own, rest)) :
    rest <:+ tokens := by
  unfold name at read
  split at read
  · cases read
    exact List.suffix_cons _ _
  · cases read

theorem moreNames_suffix
    {others : List String}
    (read : moreNames source tokens = .ok (others, rest)) :
    rest <:+ tokens := by
  fun_induction moreNames source tokens generalizing others with
  | case1 comma own position behind inductionHypothesis =>
      obtain ⟨⟨more, left⟩, readMore, equal⟩ := map_eq_ok_iff.1 read
      cases equal
      exact (inductionHypothesis readMore).trans
        ((List.suffix_cons _ _).trans (List.suffix_cons _ _))
  | case2 => cases read
  | case3 =>
      cases read
      exact List.suffix_rfl

theorem columns_suffix
    {own : Columns}
    (read : columns source tokens = .ok (own, rest)) :
    rest <:+ tokens := by
  unfold columns at read
  split at read
  · cases read
    exact List.suffix_cons _ _
  · obtain ⟨⟨_, _⟩, readNames, equal⟩ := map_eq_ok_iff.1 read
    cases equal
    obtain ⟨⟨_, _⟩, readFirst, readRest⟩ := bind_eq_ok_iff.1 readNames
    obtain ⟨⟨_, _⟩, readOthers, equal⟩ := bind_eq_ok_iff.1 readRest
    cases equal
    exact (moreNames_suffix readOthers).trans (name_suffix readFirst)

/-- The tokens in front of a suffix have the forms in front of the suffix's forms. -/
theorem exists_front_of_suffix
    {forms : List TokenForm}
    (suffix : rest <:+ tokens)
    (shape : tokens.map Token.form = forms ++ rest.map Token.form) :
    ∃ front, tokens = front ++ rest ∧ front.map Token.form = forms := by
  obtain ⟨front, rfl⟩ := suffix
  rw [List.map_append] at shape
  exact ⟨front, rfl, List.append_cancel_right shape⟩

/-- Two suffixes of the same forms are the same tokens. -/
theorem eq_of_suffix_of_form
    {other : List Token}
    (suffix : rest <:+ tokens)
    (otherSuffix : other <:+ tokens)
    (sameForms : rest.map Token.form = other.map Token.form) :
    rest = other := by
  have sameLength : rest.length = other.length := by
    simpa using congrArg List.length sameForms
  rcases List.suffix_or_suffix_of_suffix suffix otherSuffix with inner | inner
  · exact inner.eq_of_length sameLength
  · exact (inner.eq_of_length sameLength.symm).symm

end

/-! ## The head of a statement -/

section
variable (source : List Char)

/-- FROM and a name are read as what they are, and leave over exactly what follows them. -/
theorem read_from_table
    {front : List Token}
    {table : String}
    (shape : front.map Token.form = [.keyword .from, .name table])
    (rest : List Token)
    (next : Read String → Except Rejection α) :
    (expectKeyword source .from (front ++ rest) >>= fun rest =>
      name source .tableName rest >>= next) = next (table, rest) := by
  obtain ⟨⟨form, position⟩, behind, rfl, rfl, behindShape⟩ := List.map_eq_cons_iff.1 shape
  obtain ⟨⟨form, tablePosition⟩, none, rfl, rfl, noneShape⟩ := List.map_eq_cons_iff.1 behindShape
  rw [List.map_eq_nil_iff.1 noneShape]
  rfl

/-- Tokens that do not start with FROM and a name are rejected ungrammatically. -/
theorem from_table_fails_or_read
    (tokens : List Token)
    (next : Read String → Except Rejection α) :
    FailsUngrammatically (expectKeyword source .from tokens >>= fun rest =>
        name source .tableName rest >>= next) ∨
      ∃ front rest table, tokens = front ++ rest ∧
        front.map Token.form = [.keyword .from, .name table] := by
  rcases (expect_fails source tokens _ _).bind_or_ok _ with fails | ⟨beforeTable, readFrom, step⟩
  · exact .inl fails
  rcases (name_fails source beforeTable .tableName).bind_or_ok next with
    fails | ⟨⟨table, rest⟩, readTable, -⟩
  · left
    rw [expectKeyword, step]
    exact fails
  · right
    have shape : tokens.map Token.form =
        [.keyword .from, .name table] ++ rest.map Token.form := by
      rw [expect_eq_ok readFrom, name_eq_ok readTable]
      rfl
    obtain ⟨front, split, frontShape⟩ :=
      exists_front_of_suffix ((name_suffix readTable).trans (expect_suffix readFrom)) shape
    exact ⟨front, rest, table, split, frontShape⟩

/-- A statement fails ungrammatically, or its head can be read. -/
theorem statement_fails_or_head (tokens : List Token) :
    FailsUngrammatically (statement source tokens) ∨
      ∃ head rest, tokens = head ++ rest ∧ IsHead (head.map Token.form) := by
  unfold statement
  split
  · rename_i position behind
    rcases (columns_fails source behind).bind_or_ok _ with
      fails | ⟨⟨own, beforeFrom⟩, readColumns, step⟩
    · exact .inl fails
    rw [select, step]
    refine (from_table_fails_or_read source beforeFrom _).imp_right ?_
    rintro ⟨front, rest, table, rfl, frontShape⟩
    obtain ⟨tree, -, shape⟩ := columns_eq_ok readColumns
    obtain ⟨columnTokens, rfl, columnShape⟩ :=
      exists_front_of_suffix (columns_suffix readColumns) shape
    refine ⟨⟨.keyword .select, position⟩ :: columnTokens ++ front, rest, by simp, ?_⟩
    simp only [List.map_append, List.map_cons, columnShape, frontShape]
    exact .select table tree.derivesColumns
  · exact .inl (insert_fails source _)
  · rename_i position behind
    refine (from_table_fails_or_read source behind _).imp_right ?_
    rintro ⟨front, rest, table, rfl, frontShape⟩
    refine ⟨⟨.keyword .delete, position⟩ :: front, rest, rfl, ?_⟩
    rw [List.map_cons, frontShape]
    exact .delete table
  · left
    rintro _ ⟨⟩
    exact ⟨_, _, rfl⟩

/-- Behind its head, a statement fails exactly as its optional condition does. -/
theorem statement_eq_error_iff_of_isHead
    {head : List Token}
    (isHead : IsHead (head.map Token.form))
    (rest : List Token)
    (rejection : Rejection) :
    statement source (head ++ rest) = .error rejection ↔
      optionalCondition source rest = .error rejection := by
  generalize shape : head.map Token.form = forms at isHead
  cases isHead with
  | @select columns columnForms table derivesColumns =>
      obtain ⟨⟨form, position⟩, behind, rfl, rfl, behindShape⟩ := List.map_eq_cons_iff.1 shape
      obtain ⟨columnTokens, front, rfl, rfl, frontShape⟩ := List.map_eq_append_iff.1 behindShape
      have columnsRead : Parser.columns source (columnTokens ++ (front ++ rest)) =
          .ok (columns, front ++ rest) := by
        have noComma : ((front ++ rest).map Token.form).head? ≠ some .comma := by
          rw [List.map_append, frontShape]
          simp
        obtain ⟨left, read, leftShape⟩ :=
          leaves_columns source derivesColumns List.map_append noComma
        rw [read, eq_of_suffix_of_form (columns_suffix read) (List.suffix_append _ _) leftShape]
      simp only [List.cons_append, List.append_assoc, statement, select, bind_of_ok columnsRead,
        read_from_table source frontShape]
      simp [bind_eq_error_iff, pure, Except.pure]
  | delete table =>
      obtain ⟨⟨form, position⟩, front, rfl, rfl, frontShape⟩ := List.map_eq_cons_iff.1 shape
      simp only [List.cons_append, statement, delete, read_from_table source frontShape]
      simp [bind_eq_error_iff, pure, Except.pure]

end

/-! ## The condition -/

/-- Tokens are taken for a condition exactly if they are one. -/
theorem conditionOf_eq_ok_iff (tokens : List Token) :
    (∃ own, conditionOf tokens = .ok own) ↔ IsPredicate (tokens.map Token.form) := by
  constructor
  · rintro ⟨own, read⟩
    obtain ⟨tree, -, shape⟩ := conditionOf_eq_ok read
    rw [(List.cons.inj shape).2]
    exact .intro tree.column tree.op tree.operand.isOperand
  · intro isPredicate
    generalize shape : tokens.map Token.form = forms at isPredicate
    cases isPredicate with
    | intro column op isOperand =>
        obtain ⟨⟨form, position⟩, behind, rfl, rfl, behindShape⟩ := List.map_eq_cons_iff.1 shape
        obtain ⟨⟨form, opPosition⟩, right, rfl, rfl, rightShape⟩ :=
          List.map_eq_cons_iff.1 behindShape
        obtain ⟨⟨form, ownPosition⟩, none, rfl, rfl, noneShape⟩ :=
          List.map_eq_cons_iff.1 rightShape
        rw [List.map_eq_nil_iff.1 noneShape]
        exact ⟨_, conditionOf_of_isOperand isOperand _ _ position opPosition ownPosition⟩

theorem conditionOf_eq_error_iff (tokens : List Token) :
    (∃ fault, conditionOf tokens = .error fault) ↔ ¬ IsPredicate (tokens.map Token.form) := by
  rw [← conditionOf_eq_ok_iff]
  cases conditionOf tokens <;> simp

/-- A token does not end a condition exactly if it is neither a semicolon nor the end. -/
theorem endsCondition_eq_false_iff (token : Token) :
    endsCondition token = false ↔ token.form ≠ .semicolon ∧ token.form ≠ .finish := by
  simp [endsCondition]

theorem endsCondition_eq_true_iff (token : Token) :
    endsCondition token = true ↔ token.form = .semicolon ∨ token.form = .finish := by
  simp [endsCondition]

section
variable {source : List Char} {inside after : List Token} {stop : Token}

/-- A condition is what stands in front of the first semicolon or end. If it is none, the clause of
the error is its text. -/
theorem condition_eq_error_iff
    (goesOn : ∀ token ∈ inside, endsCondition token = false)
    (stops : endsCondition stop = true)
    (rejection : Rejection) :
    condition source (inside ++ stop :: after) = .error rejection ↔
      ∃ fault, conditionOf inside = .error fault ∧
        rejection = .malformedCondition fault
          (clauseBetween source (inside.headD stop).position stop.position) := by
  have taken : (inside ++ stop :: after).takeWhile (!endsCondition ·) = inside := by
    rw [List.takeWhile_append_of_pos (by simpa using goesOn)]
    simp [stops]
  have dropped : (inside ++ stop :: after).dropWhile (!endsCondition ·) = stop :: after := by
    rw [List.dropWhile_append_of_pos (by simpa using goesOn)]
    simp [stops]
  have first : headToken source (inside ++ stop :: after) = inside.headD stop := by
    cases inside <;> rfl
  simp only [condition, taken, dropped, first]
  cases conditionOf inside with
  | ok own => simp
  | error fault => simp [headToken, eq_comm]

end

/-- Tokens behind WHERE that have an end token are the condition, where it ends, and a rest. -/
theorem exists_inside_stop
    {tokens : List Token}
    {last : Token}
    (member : last ∈ tokens)
    (ends : last.form = .finish) :
    ∃ inside stop after, tokens = inside ++ stop :: after ∧
      (∀ token ∈ inside, endsCondition token = false) ∧ endsCondition stop = true := by
  have found : ∃ token ∈ tokens, endsCondition token = true :=
    ⟨last, member, (endsCondition_eq_true_iff last).2 (.inr ends)⟩
  obtain ⟨stop, isStop⟩ := Option.isSome_iff_exists.1 (List.find?_isSome.2 (by simpa using found))
  obtain ⟨stops, inside, after, split, goesOn⟩ := List.find?_eq_some_iff_append.1 isStop
  exact ⟨inside, stop, after, split, by simpa using goesOn, stops⟩

/-- What follows a token that is not the end still has the last token of the list. -/
theorem last_mem_of_split
    {body head behind : List Token}
    {last token : Token}
    (split : body ++ [last] = head ++ token :: behind)
    (differs : token ≠ last) :
    last ∈ behind := by
  have isLast := congrArg List.getLast? split
  rw [List.getLast?_concat, List.getLast?_append_cons] at isLast
  exact (List.mem_cons.1 (List.mem_of_getLast? isLast.symm)).resolve_left (Ne.symm differs)

/-- A statement is rejected ungrammatically, or it has a bad condition and is rejected for it, with
the text of the condition. -/
theorem ungrammatical_or_malformed_of_statement
    {source : List Char}
    {body : List Token}
    {last : Token}
    (ends : last.form = .finish)
    {rejection : Rejection}
    (failed : statement source (body ++ [last]) = .error rejection) :
    (∃ fault clause, rejection = .ungrammatical fault clause) ∨
      ∃ inside stop fault, HasBadCondition (body ++ [last]) inside stop ∧
        rejection = .malformedCondition fault
          (clauseBetween source (inside.headD stop).position stop.position) := by
  rcases statement_fails_or_head source (body ++ [last]) with
    fails | ⟨head, rest, split, isHead⟩
  · exact .inl (fails rejection failed)
  rw [split, statement_eq_error_iff_of_isHead source isHead] at failed
  unfold optionalCondition at failed
  split at failed
  · rename_i position behind
    have member : last ∈ behind :=
      last_mem_of_split split (by rintro rfl; cases ends)
    obtain ⟨inside, stop, after, rfl, goesOn, stops⟩ := exists_inside_stop member ends
    obtain ⟨fault, isFault, equal⟩ :=
      (condition_eq_error_iff goesOn stops _).1 (map_eq_error_iff.1 failed)
    refine .inr ⟨inside, stop, fault, ?_, equal⟩
    rw [split]
    exact .intro isHead rfl
      (fun token inInside => (endsCondition_eq_false_iff token).1 (goesOn token inInside))
      ((endsCondition_eq_true_iff stop).1 stops)
      ((conditionOf_eq_error_iff inside).1 ⟨fault, isFault⟩)
  · cases failed

/-- A statement with a bad condition is rejected for it. -/
theorem statement_of_hasBadCondition
    {tokens inside : List Token}
    {stop : Token}
    (bad : HasBadCondition tokens inside stop)
    (source : List Char) :
    ∃ fault, statement source tokens = .error (.malformedCondition fault
      (clauseBetween source (inside.headD stop).position stop.position)) := by
  cases bad with
  | @intro head inside after keyword stop isHead isWhere goesOn stops bad =>
      obtain ⟨form, position⟩ := keyword
      obtain ⟨fault, isFault⟩ := (conditionOf_eq_error_iff inside).2 bad
      refine ⟨fault, (statement_eq_error_iff_of_isHead source isHead _ _).2 ?_⟩
      cases isWhere
      rw [optionalCondition, map_eq_error_iff]
      exact (condition_eq_error_iff
        (fun token inInside => (endsCondition_eq_false_iff token).2 (goesOn token inInside))
        ((endsCondition_eq_true_iff stop).2 stops) _).2 ⟨fault, isFault, rfl⟩

/-- The parser rejects a list of tokens with an end token as malformed exactly if the list has a bad
condition, and the clause is then the text from the first token after WHERE up to the semicolon or
end. Every other rejection is ungrammatical. -/
theorem ofTokens_malformed_iff
    (source : List Char)
    (body : List Token)
    (last : Token)
    (ends : last.form = .finish) :
    (∀ clause,
      (∃ fault, ofTokens source (body ++ [last]) = .error (.malformedCondition fault clause)) ↔
        ∃ inside stop, HasBadCondition (body ++ [last]) inside stop ∧
          clause = String.ofList (Text.trimChars
            ((source.take stop.position).drop (inside.headD stop).position))) ∧
      ∀ rejection, ofTokens source (body ++ [last]) = .error rejection →
        (¬ ∃ inside stop, HasBadCondition (body ++ [last]) inside stop) →
          ∃ fault clause, rejection = .ungrammatical fault clause := by
  -- A statement that was read is rejected ungrammatically, for the text behind it.
  have either : ∀ rejection, ofTokens source (body ++ [last]) = .error rejection →
      (∃ fault clause, rejection = .ungrammatical fault clause) ∨
        ∃ inside stop fault, HasBadCondition (body ++ [last]) inside stop ∧
          rejection = .malformedCondition fault
            (clauseBetween source (inside.headD stop).position stop.position) := by
    intro rejection failed
    rcases bind_eq_error_iff.1 failed with ofStatement | ⟨⟨own, rest⟩, -, trailing⟩
    · exact ungrammatical_or_malformed_of_statement ends ofStatement
    · dsimp only at trailing
      split at trailing
      · cases trailing
      · cases trailing
        exact .inl ⟨_, _, rfl⟩
  refine ⟨fun clause => ⟨?_, ?_⟩, fun rejection failed noBadCondition => ?_⟩
  · rintro ⟨fault, failed⟩
    rcases either _ failed with ⟨_, _, equal⟩ | ⟨inside, stop, _, bad, equal⟩
    · cases equal
    · cases equal
      exact ⟨inside, stop, bad, rfl⟩
  · rintro ⟨inside, stop, bad, rfl⟩
    obtain ⟨fault, failed⟩ := statement_of_hasBadCondition bad source
    exact ⟨fault, bind_of_error failed⟩
  · rcases either rejection failed with ungrammatical | ⟨inside, stop, _, bad, -⟩
    · exact ungrammatical
    · exact absurd ⟨inside, stop, bad⟩ noBadCondition

/-- A comparison without a right side is malformed, and its clause ends at the semicolon. -/
theorem ofTokens_malformed_sample :
    ∃ fault, ofTokens "DELETE FROM T WHERE a = ; b".toList
      ([⟨.keyword .delete, 0⟩, ⟨.keyword .from, 7⟩, ⟨.name "T", 12⟩, ⟨.keyword .where, 14⟩,
        ⟨.name "a", 20⟩, ⟨.operator .equal, 22⟩, ⟨.semicolon, 24⟩, ⟨.name "b", 26⟩] ++
          [⟨.finish, 27⟩]) = .error (.malformedCondition fault "a =") := by
  refine ((ofTokens_malformed_iff "DELETE FROM T WHERE a = ; b".toList _ ⟨.finish, 27⟩ rfl).1 _).2
    ⟨[⟨.name "a", 20⟩, ⟨.operator .equal, 22⟩], ⟨.semicolon, 24⟩, ?_, by decide +kernel⟩
  change HasBadCondition ([⟨.keyword .delete, 0⟩, ⟨.keyword .from, 7⟩, ⟨.name "T", 12⟩] ++
    ⟨.keyword .where, 14⟩ :: ([⟨.name "a", 20⟩, ⟨.operator .equal, 22⟩] ++
      ⟨.semicolon, 24⟩ :: [⟨.name "b", 26⟩, ⟨.finish, 27⟩])) _ _
  exact .intro (.delete "T") rfl (by decide) (.inl rfl) nofun

end Parser
end Query
end FlatTables
