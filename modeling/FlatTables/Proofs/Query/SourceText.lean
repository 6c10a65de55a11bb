import FlatTables.Proofs.Query.Origins

/-!
# Tokens and the source text

Every token is what the text shows at its position: the text of a quoted literal, a whole word, an
operator that is no part of a longer one, a mark, or a number. There are three exceptions. The
arguments of a command are one text without being in quotes, a quoted text with the mark of national
characters is a name, and a doubled equality sign is the operator that is spelled with one.
-/

namespace FlatTables
namespace Query

open Text (isBlank)

/-! ## What a text shows -/

/-- A whole word stands between two parts of a text. -/
structure WordAt (before word after : List Char) : Prop where
  nonempty : word ≠ []
  inside : ∀ c ∈ word, isWordChar c = true
  starts : StartsWord before (word ++ after)
  ends : ∀ c, after.head? = some c → isWordChar c = false

/-- A text that follows another one shows a token at its front. -/
inductive Shows (before : List Char) : (text : List Char) → TokenForm → Prop
  | text (content : String) {after : List Char} (closed : after.head? ≠ some '\'') :
      Shows before ('\'' :: (doubled '\'' content.toList ++ '\'' :: after)) (.text content)
  | bareName {name : String} {after : List Char} (isWord : WordAt before name.toList after) :
      Shows before (name.toList ++ after) (.name name)
  | quotedName (name : String) {after : List Char} (closed : after.head? ≠ some '"') :
      Shows before ('"' :: (doubled '"' name.toList ++ '"' :: after)) (.name name)
  | keyword {keyword : Keyword} {word after : List Char} (isWord : WordAt before word after)
      (upper : upperWord word = keyword.text.toList) :
      Shows before (word ++ after) (.keyword keyword)
  | operator {op : ComparisonOp} {spelling after : List Char}
      (spells : spelling = op.symbol.toList ∨ op = .notEqual ∧ spelling = ['<', '>'])
      (longest : ∀ operator ∈ operators, operator.toList <+: spelling ++ after →
        operator.toList.length ≤ spelling.length) :
      Shows before (spelling ++ after) (.operator op)
  | mark {form : TokenForm} {after : List Char}
      (isMark : form ∈ [TokenForm.comma, .open, .close, .star, .semicolon]) :
      Shows before (form.contents.toList ++ after) form
  | number {digits : String} {after : List Char}
      (isNumber : NumberAt before digits.toList after) :
      Shows before (digits.toList ++ after) (.number digits)
  | signed {sign : Char} {digits after : List Char} (isSign : sign = '+' ∨ sign = '-') :
      Shows before (sign :: after) (.number (String.ofList (sign :: digits)))

/-- The tokens that are not what the text shows: a quoted text in national characters as a name, a
doubled equality sign as a single one, and the arguments of a command as a text. Its position is
that of the last piece of the arguments, or their end. -/
inductive Slips : (before text : List Char) → TokenForm → Prop
  | nationalName {before after : List Char} {mark : Char} {name : String}
      (isMark : mark = 'N' ∨ mark = 'n') (closed : after.head? ≠ some '\'')
      (other : name.toList ≠ [mark]) :
      Slips before (mark :: '\'' :: (doubled '\'' name.toList ++ '\'' :: after)) (.name name)
  | doubledEqual (before after : List Char) :
      Slips before ('=' :: '=' :: after) (.operator .equal)
  | commandText {before word inside last after : List Char}
      (isCommand : ∃ command ∈ commandWords, upperWord word = command.toList)
      (closed : ∀ c, after.head? = some c → c = ';')
      (literal : last.head? = some '\'' →
        ∃ content : List Char, last = '\'' :: (doubled '\'' content ++ ['\''])) :
      Slips (before ++ (word ++ inside)) (last ++ after)
        (.text (String.ofList (Text.trimChars (inside ++ last))))

/-! ## The exceptions are exceptions -/

/-- A part without blanks at its ends is not shortened where it stands last. -/
theorem length_le_length_trimChars
    (last : List Char)
    {first final : Char}
    (starts : last.head? = some first)
    (firstNotBlank : isBlank first = false)
    (ends : last.getLast? = some final)
    (finalNotBlank : isBlank final = false)
    (inside : List Char) :
    last.length ≤ (Text.trimChars (inside ++ last)).length := by
  have kept : last.dropWhile isBlank = last := by
    cases last with
    | nil => rfl
    | cons c rest =>
        cases starts
        exact List.dropWhile_cons_of_neg (by simp [firstNotBlank])
  have suffix : last <:+ (inside ++ last).dropWhile isBlank := by
    rw [List.dropWhile_append]
    split
    · exact ⟨[], kept.symm⟩
    · exact List.suffix_append _ _
  obtain ⟨padding, blank, split⟩ := Text.exists_padding (inside ++ last)
  rw [split] at suffix
  cases padding.eq_nil_or_concat' with
  | inl empty =>
      rw [empty, List.append_nil] at suffix
      exact suffix.length_le
  | inr concat =>
      -- The part would end with a blank.
      obtain ⟨front, d, rfl⟩ := concat
      obtain ⟨before, whole⟩ := suffix
      have isLast := congrArg List.getLast? whole
      rw [List.getLast?_append, ends, ← List.append_assoc, List.getLast?_concat] at isLast
      cases isLast
      rw [blank final (by simp)] at finalNotBlank
      cases finalNotBlank

/-- A quoted text has one content. -/
theorem content_unique
    {quote : Char}
    {content other after rest : List Char}
    (closed : after.head? ≠ some quote)
    (otherClosed : rest.head? ≠ some quote)
    (same : doubled quote content ++ quote :: after = doubled quote other ++ quote :: rest) :
    content = other := by
  have read := quotedContent_doubled quote content closed
  rw [same, quotedContent_doubled quote other otherClosed] at read
  cases read
  rfl

theorem length_le_length_doubled
    (quote : Char)
    (content : List Char) :
    content.length ≤ (doubled quote content).length := by
  induction content with
  | nil => exact Nat.le_refl _
  | cons c content inductionHypothesis =>
      rw [doubled, List.flatMap_cons, List.length_append, List.length_cons, Nat.add_comm]
      refine Nat.add_le_add ?_ inductionHypothesis
      split <;> simp

/-- A token that is an exception is not what the text shows. -/
theorem Slips.not_shows
    {before text : List Char}
    {form : TokenForm}
    (slips : Slips before text form) :
    ¬ Shows before text form := by
  intro shown
  cases slips with
  | @nationalName before after mark name isMark closed other =>
      generalize whole : mark :: '\'' :: (doubled '\'' name.toList ++ '\'' :: after) = text at shown
      cases shown with
      | @bareName name rest isWord =>
          cases spelled : name.toList with
          | nil => exact isWord.nonempty spelled
          | cons c tail =>
              rw [spelled] at whole
              obtain ⟨rfl, behind⟩ := List.cons.inj whole
              cases tail with
              | nil => exact other spelled
              | cons d tail =>
                  obtain ⟨rfl, _⟩ := List.cons.inj behind
                  exact absurd (isWord.inside '\'' (by simp [spelled])) (by decide)
      | quotedName name =>
          obtain ⟨rfl, _⟩ := List.cons.inj whole
          exact absurd isMark (by decide)
      | mark isMark => simp at isMark
  | doubledEqual before after =>
      generalize whole : '=' :: '=' :: after = text at shown
      generalize isEqual : TokenForm.operator .equal = form at shown
      cases shown with
      | @operator op spelling rest spells longest =>
          cases isEqual
          have short : spelling = ['='] := by simpa [ComparisonOp.symbol] using spells
          have long := longest "==" (by decide) (by rw [← whole]; exact ⟨after, rfl⟩)
          rw [short] at long
          exact absurd long (by decide)
      | mark isMark =>
          subst isEqual
          simp at isMark
      | _ => cases isEqual
  | @commandText before word inside last after isCommand closed literal =>
      generalize whole : last ++ after = text at shown
      generalize isText : TokenForm.text _ = form at shown
      cases shown with
      | @text content rest otherClosed =>
          have isContent := congrArg String.toList (TokenForm.text.inj isText)
          rw [String.toList_ofList] at isContent
          cases last with
          | nil =>
              have first := congrArg List.head? whole
              exact absurd (closed '\'' first) (by decide)
          | cons c tail =>
              obtain ⟨rfl, _⟩ := List.cons.inj whole
              obtain ⟨inner, isLiteral⟩ := literal rfl
              -- The literal at this place would hold a text that has the literal as its end.
              have noQuote : after.head? ≠ some '\'' := fun first =>
                absurd (closed '\'' first) (by decide)
              rw [isLiteral] at whole isContent
              have same : inner = content.toList :=
                content_unique noQuote otherClosed (by simpa using whole)
              have long := length_le_length_trimChars
                ('\'' :: (doubled '\'' inner ++ ['\''])) rfl (by decide)
                (by rw [← List.cons_append, List.getLast?_concat]) (by decide) inside
              rw [isContent, ← same, List.length_cons, List.length_append] at long
              have := length_le_length_doubled '\'' inner
              omega
      | mark isMark =>
          subst isText
          simp at isMark
      | _ => cases isText

/-! ## Tokens of pieces -/

theorem plainName?_eq_some
    {word : List Char}
    {form : TokenForm}
    (isForm : plainName? word = some form) :
    form = .name (String.ofList word) := by
  unfold plainName? at isForm
  split at isForm
  · exact (Option.some.inj isForm).symm
  · cases isForm

/-- An operator is found by its text, or by the second spelling of inequality. -/
theorem spelling_of_ofSymbol?
    {spelling : List Char}
    {op : ComparisonOp}
    (found : ComparisonOp.ofSymbol? (String.ofList spelling) = some op) :
    spelling = op.symbol.toList ∨ op = .notEqual ∧ spelling = ['<', '>'] := by
  unfold ComparisonOp.ofSymbol? at found
  split at found
  · rename_i isSecond
    have spelled := congrArg String.toList isSecond
    rw [String.toList_ofList] at spelled
    exact .inr ⟨(Option.some.inj found).symm, spelled⟩
  · have isSymbol : op.symbol = String.ofList spelling := by simpa using List.find?_some found
    rw [isSymbol, String.toList_ofList]
    exact .inl rfl

section
variable {before own after : List Char} {form : TokenForm}

/-- What a symbol stands for, the text shows, unless it is a doubled equality sign. -/
theorem shows_or_slips_of_symbolForm?
    (longest : ∀ operator ∈ operators, operator.toList <+: own ++ after →
      operator.toList.length ≤ own.length)
    (isForm : symbolForm? own = some form) :
    Shows before (own ++ after) form ∨ Slips before (own ++ after) form := by
  unfold symbolForm? at isForm
  split at isForm
  · cases isForm
    exact .inl (@Shows.mark before .comma after (by simp))
  · cases isForm
    exact .inl (@Shows.mark before .open after (by simp))
  · cases isForm
    exact .inl (@Shows.mark before .close after (by simp))
  · cases isForm
    exact .inl (@Shows.mark before .star after (by simp))
  · cases isForm
    exact .inl (@Shows.mark before .semicolon after (by simp))
  · cases isForm
    exact .inr (.doubledEqual before after)
  · obtain ⟨op, found, rfl⟩ := Option.map_eq_some_iff.1 isForm
    exact .inl (.operator (spelling_of_ofSymbol? found) longest)

/-- What a word stands for, the text shows. -/
theorem shows_of_word
    (isWord : WordAt before own after)
    {position : Nat}
    (isForm : Lexeme.form? ⟨.word, position, own⟩ = some form) :
    Shows before (own ++ after) form := by
  simp only [Lexeme.form?] at isForm
  split at isForm
  · rename_i isKeyword
    cases isForm
    exact .keyword isWord (ofWord?_eq_some_iff.1 isKeyword)
  · obtain rfl := plainName?_eq_some isForm
    have shown := @Shows.bareName before (String.ofList own) after
    rw [String.toList_ofList] at shown
    exact shown isWord

/-- What a quoted text with the mark of national characters stands for is an exception, unless the
mark itself is quoted. -/
theorem shows_or_slips_of_national
    {mark : Char}
    {content : String}
    (isMark : mark = 'N' ∨ mark = 'n')
    (closed : after.head? ≠ some '\'')
    (fresh : Fresh before (mark :: '\'' :: (doubled '\'' content.toList ++ '\'' :: after)))
    (isForm : plainName? content.toList = some form) :
    Shows before (mark :: '\'' :: (doubled '\'' content.toList ++ '\'' :: after)) form ∨
      Slips before (mark :: '\'' :: (doubled '\'' content.toList ++ '\'' :: after)) form := by
  obtain rfl := plainName?_eq_some isForm
  rw [String.ofList_toList]
  by_cases same : content.toList = [mark]
  · left
    have isWordMark : isWordChar mark = true := by rcases isMark with rfl | rfl <;> decide
    have isWord : WordAt before content.toList
        ('\'' :: (doubled '\'' content.toList ++ '\'' :: after)) := by
      constructor
      · simp [same]
      · simpa [same] using isWordMark
      · rw [same]
        rw [same] at fresh
        exact fresh.startsWord rfl isWordMark
      · rintro _ ⟨⟩
        decide
    have shown := Shows.bareName isWord
    rwa [same] at shown ⊢
  · exact .inr (.nationalName isMark closed same)

/-- What a piece stands for, the text shows, or it is an exception. -/
theorem IsPiece.shows_or_slips
    {kind : LexemeKind}
    (isPiece : IsPiece kind own after)
    (fresh : Fresh before (own ++ after))
    {position : Nat}
    (isForm : Lexeme.form? ⟨kind, position, own⟩ = some form) :
    Shows before (own ++ after) form ∨ Slips before (own ++ after) form := by
  cases isPiece with
  | blank | comment | phrase => cases isForm
  | @number marked c tail _ digit stops =>
      cases isForm
      have shown := @Shows.number before (String.ofList (c :: tail)) after
      rw [String.toList_ofList] at shown
      exact .inl (shown (.intro marked (fresh.endsOutsideWord rfl digit) digit stops))
  | quotedText content closed =>
      cases isForm
      simpa using Or.inl (.text content closed)
  | quotedName content closed =>
      cases isForm
      simpa using Or.inl (.quotedName content closed)
  | nationalText content isMark closed =>
      simp only [List.cons_append, List.append_assoc, List.nil_append] at fresh ⊢
      exact shows_or_slips_of_national isMark closed fresh isForm
  | symbol noText delimiters longest => exact shows_or_slips_of_symbolForm? longest isForm
  | word inside ends =>
      refine .inl (shows_of_word ⟨List.cons_ne_nil _ _, inside, ?_, ends⟩ isForm)
      exact fresh.startsWord rfl (inside _ List.mem_cons_self)

end

section
variable {source : List Char} {piece : Lexeme}

/-- What a piece with an origin stands for, the text shows where the piece starts, or it is an
exception. -/
theorem Origin.shows_or_slips
    (origin : Origin source piece)
    {form : TokenForm}
    (isForm : piece.form? = some form) :
    Shows (source.take piece.start) (source.drop piece.start) form ∨
      Slips (source.take piece.start) (source.drop piece.start) form := by
  cases origin with
  | own split isPiece fresh =>
      rw [split, List.take_left, List.drop_left]
      exact isPiece.shows_or_slips fresh isForm
  | hint => cases isForm
  | arguments split isCommand closed literal =>
      cases isForm
      rw [split, List.take_left, List.drop_left]
      exact .inr (.commandText isCommand closed literal)

/-- A sign in front of a number stands where the number starts. -/
theorem Origin.shows_signed
    (origin : Origin source piece)
    (isSign : piece.isSign = true)
    (digits : List Char) :
    Shows (source.take piece.start) (source.drop piece.start)
      (.number (String.ofList (piece.text ++ digits))) := by
  have isSymbol : piece.kind = .symbol ∧ (piece.text = ['+'] ∨ piece.text = ['-']) := by
    simpa [Lexeme.isSign, Lexeme.isSymbol, ← and_or_left] using isSign
  obtain ⟨isSymbol, sign⟩ := isSymbol
  cases origin with
  | own split isPiece fresh =>
      rw [split, List.take_left, List.drop_left]
      rcases sign with rfl | rfl
      · exact .signed (.inl rfl)
      · exact .signed (.inr rfl)
  | hint => cases isSymbol
  | arguments => cases isSymbol

end

/-- A piece of joined pieces is one of them, or it starts with a sign that is one of them. -/
theorem mem_joinSigns
    {pieces : List Lexeme}
    {piece : Lexeme}
    (member : piece ∈ joinSigns pieces) :
    piece ∈ pieces ∨ ∃ sign ∈ pieces, ∃ digits, sign.isSign = true ∧
      piece = ⟨.number, sign.start, sign.text ++ digits⟩ := by
  induction pieces using joinSigns.induct with
  | case1 lexeme next rest signed inductionHypothesis =>
      have isSign := (Bool.and_eq_true_iff.1 signed).1
      rw [joinSigns, if_pos signed] at member
      rcases List.mem_cons.1 member with rfl | inRest
      · exact .inr ⟨lexeme, List.mem_cons_self, next.text, isSign, rfl⟩
      · rcases inductionHypothesis inRest with own | ⟨sign, inSigns, joined⟩
        · exact .inl (by simp [own])
        · exact .inr ⟨sign, by simp [inSigns], joined⟩
  | case2 lexeme next rest unsigned inductionHypothesis =>
      rw [joinSigns, if_neg unsigned] at member
      rcases List.mem_cons.1 member with rfl | inRest
      · exact .inl List.mem_cons_self
      · rcases inductionHypothesis inRest with own | ⟨sign, inSigns, joined⟩
        · exact .inl (List.mem_cons_of_mem _ own)
        · exact .inr ⟨sign, List.mem_cons_of_mem _ inSigns, joined⟩
  | case3 lexemes noPair =>
      rw [joinSigns] at member
      · exact .inl member
      · exact noPair

/-- Only signs and numbers are joined. -/
theorem phrase_mem_joinSigns
    {pieces : List Lexeme}
    {piece : Lexeme}
    (isPhrase : piece.kind = .phrase)
    (member : piece ∈ pieces) :
    piece ∈ joinSigns pieces := by
  induction pieces using joinSigns.induct with
  | case1 lexeme next rest signed inductionHypothesis =>
      obtain ⟨isSign, isNumber⟩ := Bool.and_eq_true_iff.1 signed
      rw [joinSigns, if_pos signed]
      rcases List.mem_cons.1 member with rfl | inOthers
      · simp [Lexeme.isSign, Lexeme.isSymbol, isPhrase] at isSign
      · rcases List.mem_cons.1 inOthers with rfl | inRest
        · simp [isPhrase] at isNumber
        · exact List.mem_cons_of_mem _ (inductionHypothesis inRest)
  | case2 lexeme next rest unsigned inductionHypothesis =>
      rw [joinSigns, if_neg unsigned]
      rcases List.mem_cons.1 member with rfl | inRest
      · exact List.mem_cons_self
      · exact List.mem_cons_of_mem _ (inductionHypothesis inRest)
  | case3 lexemes noPair =>
      rw [joinSigns]
      · exact member
      · exact noPair

/-- If pieces have tokens, every piece stands for one, and every token but the end is one of a
piece. -/
theorem tokensOf_eq_ok
    {source : List Char}
    {pieces : List Lexeme}
    {tokens : List Token}
    (read : tokensOf source pieces = .ok tokens) :
    (∀ piece ∈ pieces, piece.form? ≠ none) ∧
      ∀ token ∈ tokens, token.form ≠ .finish →
        ∃ piece ∈ pieces, piece.form? = some token.form ∧ token.position = piece.start := by
  induction pieces generalizing tokens with
  | nil =>
      cases read
      refine ⟨nofun, fun token member counts => ?_⟩
      obtain rfl := List.mem_singleton.1 member
      exact absurd rfl counts
  | cons piece rest inductionHypothesis =>
      rw [tokensOf, Lexeme.token] at read
      cases isForm : piece.form? with
      | none => simp [isForm] at read
      | some form =>
          simp only [isForm] at read
          obtain ⟨others, readRest, rfl⟩ := map_eq_ok_iff.1 read
          obtain ⟨haveForms, fromPieces⟩ := inductionHypothesis readRest
          refine ⟨List.forall_mem_cons.2 ⟨by simp [isForm], haveForms⟩, ?_⟩
          intro token member counts
          rcases List.mem_cons.1 member with rfl | inOthers
          · exact ⟨piece, List.mem_cons_self, isForm, rfl⟩
          · obtain ⟨own, inRest, standsFor⟩ := fromPieces token inOthers counts
            exact ⟨own, List.mem_cons_of_mem _ inRest, standsFor⟩

/-- Every token but the end is what the text shows at its position, exactly unless it is one of the
exceptions. -/
theorem tokenize_shows_iff
    {sql : String}
    {tokens : List Token}
    (read : tokenize sql = .ok tokens)
    {token : Token}
    (member : token ∈ tokens)
    (counts : token.form ≠ .finish) :
    Shows (sql.toList.take token.position) (sql.toList.drop token.position) token.form ↔
      ¬ Slips (sql.toList.take token.position) (sql.toList.drop token.position) token.form := by
  refine ⟨fun shown slips => slips.not_shows shown, fun noSlip => ?_⟩
  unfold tokenize at read
  dsimp only at read
  split at read
  · cases read
  rename_i pieces cutEq
  obtain ⟨haveForms, fromPieces⟩ := tokensOf_eq_ok read
  have noPhrase : ∀ piece ∈ significant pieces, piece.kind ≠ .phrase := by
    intro piece inPieces isPhrase
    refine haveForms piece (phrase_mem_joinSigns isPhrase inPieces) ?_
    simp [Lexeme.form?, isPhrase]
  have lie : Lie [] pieces sql.toList := lie_of_lexemesFrom cutEq
  have origins : ∀ piece ∈ significant pieces, Origin sql.toList piece :=
    origin_of_mem_significantAfter rfl lie (fresh_nil _) noPhrase
  obtain ⟨piece, inJoined, isForm, isStart⟩ := fromPieces token member counts
  rw [isStart] at noSlip ⊢
  rcases mem_joinSigns inJoined with inPieces | ⟨sign, inPieces, digits, isSign, rfl⟩
  · exact ((origins piece inPieces).shows_or_slips isForm).resolve_right noSlip
  · have shown := (origins sign inPieces).shows_signed isSign digits
    rwa [← Option.some.inj isForm]

/-- The arguments of a command are a text that is not in quotes. -/
theorem tokenize_shows_iff_command :
    tokenize "EXECUTE x" = .ok [⟨.name "EXECUTE", 0⟩, ⟨.text "x", 8⟩, ⟨.finish, 9⟩] ∧
      ¬ Shows "EXECUTE ".toList "x".toList (.text "x") := by
  have read : tokenize "EXECUTE x" =
      .ok [⟨.name "EXECUTE", 0⟩, ⟨.text "x", 8⟩, ⟨.finish, 9⟩] := by
    decide +kernel
  have slips : Slips ([] ++ ("EXECUTE".toList ++ [' '])) (['x'] ++ [])
      (.text (String.ofList (Text.trimChars ([' '] ++ ['x'])))) :=
    .commandText ⟨"EXECUTE", by decide, by decide⟩ nofun nofun
  have member : (⟨.text "x", 8⟩ : Token) ∈
      [(⟨.name "EXECUTE", 0⟩ : Token), ⟨.text "x", 8⟩, ⟨.finish, 9⟩] := by
    decide
  exact ⟨read, fun shown => (tokenize_shows_iff read member (by decide)).1 shown slips⟩

/-- The text of a command, a quoted text in national characters and a doubled equality sign give
tokens that the text does not show. -/
theorem tokenize_can_slip :
    (tokenize "SHOW 'a'" = .ok [⟨.name "SHOW", 0⟩, ⟨.text "'a'", 5⟩, ⟨.finish, 8⟩] ∧
      ¬ Shows "SHOW ".toList "'a'".toList (.text "'a'")) ∧
    (tokenize "N'a'" = .ok [⟨.name "a", 0⟩, ⟨.finish, 4⟩] ∧
      ¬ Shows [] "N'a'".toList (.name "a")) ∧
    tokenize "a==1" = .ok [⟨.name "a", 0⟩, ⟨.operator .equal, 1⟩, ⟨.number "1", 3⟩, ⟨.finish, 4⟩] ∧
      ¬ Shows "a".toList "==1".toList (.operator .equal) := by
  have command : Slips ([] ++ ("SHOW".toList ++ [' '])) ("'a'".toList ++ [])
      (.text (String.ofList (Text.trimChars ([' '] ++ "'a'".toList)))) :=
    .commandText ⟨"SHOW", by decide, by decide⟩ nofun fun _ => ⟨['a'], by decide⟩
  have national : Slips [] ('N' :: '\'' :: (doubled '\'' "a".toList ++ '\'' :: [])) (.name "a") :=
    .nationalName (.inl rfl) nofun (by decide)
  have equality : Slips ['a'] ('=' :: '=' :: ['1']) (.operator .equal) := .doubledEqual _ _
  exact ⟨⟨by decide +kernel, command.not_shows⟩, ⟨by decide +kernel, national.not_shows⟩,
    by decide +kernel, equality.not_shows⟩

end Query
end FlatTables
