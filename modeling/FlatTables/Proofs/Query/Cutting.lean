import FlatTables.Proofs.Query.Spelling

/-!
# Cutting spelled tokens

Each spelling of a token is cut as one piece from what follows it. Words are the delicate ones: a
word together with the words after it can be a phrase, which is one piece. Behind an operator or a
number, only a character that could go on with it matters.
-/

namespace FlatTables
namespace Query

open Decimal (IsAsciiDigits)
open Text (isBlank)

/-! ## Operators -/

/-- A character that no operator holds. -/
def IsForeign (c : Char) : Prop :=
  isBlank c = true ∨ isWordChar c = true ∨ c ∈ tightMarks

theorem EndsToken.isForeign
    {rest : List Char}
    (ends : EndsToken rest) :
    ∀ c, rest.head? = some c → IsForeign c := by
  intro c first
  rcases ends c first with blank | tight
  · exact .inl blank
  · exact .inr (.inr tight)

theorem EndsToken.isWordChar_eq_false
    {rest : List Char}
    (ends : EndsToken rest)
    {c : Char}
    (first : rest.head? = some c) :
    isWordChar c = false := by
  rcases ends c first with blank | tight
  · simp [isWordChar, blank]
  · have all : tightMarks.all (!isWordChar ·) = true := by decide
    simpa using List.all_eq_true.1 all c tight

/-- Only blanks and tight marks stand behind a token that needs its end. -/
theorem EndsToken.head?_ne
    {rest : List Char}
    (ends : EndsToken rest)
    {c : Char}
    (notBlank : isBlank c = false)
    (notTight : c ∉ tightMarks) :
    rest.head? ≠ some c := by
  intro first
  rcases ends c first with blank | tight
  · exact Bool.eq_false_iff.1 notBlank blank
  · exact notTight tight

/-- An operator holds no foreign character, in whatever case. -/
theorem toUpper_ne_of_isForeign
    {operator : String}
    (member : operator ∈ operators)
    {s : Char}
    (inOperator : s ∈ operator.toList)
    {c : Char}
    (foreign : IsForeign c) :
    s ≠ ' ' ∧ s.toUpper ≠ c.toUpper := by
  have all : operators.all (fun operator => operator.toList.all fun s =>
      s != ' ' && !isBlank s && isDelimiter s && !tightMarks.contains s) = true := by
    decide
  have own := List.all_eq_true.1 (List.all_eq_true.1 all operator member) s inOperator
  simp only [Bool.and_eq_true, bne_iff_ne, Bool.not_eq_true', ne_eq] at own
  obtain ⟨⟨⟨notSpace, notBlank⟩, delimiter⟩, notTight⟩ := own
  have noWord : isWordChar s = false := by simp [isWordChar, delimiter]
  refine ⟨notSpace, fun same => ?_⟩
  obtain rfl := eq_of_toUpper_eq noWord same
  rcases foreign with blank | word | tight
  · exact Bool.eq_false_iff.1 notBlank blank
  · exact Bool.eq_false_iff.1 noWord word
  · exact Bool.eq_false_iff.1 notTight (List.contains_iff_mem.2 tight)

/-- Foreign characters behind a text make it no longer operator. -/
theorem spellingLength?_append
    {spelling : List Char}
    {rest : List Char}
    (apart : ∀ s ∈ spelling, s ≠ ' ' ∧ ∀ c, rest.head? = some c → s.toUpper ≠ c.toUpper)
    (text : List Char) :
    spellingLength? spelling (text ++ rest) = spellingLength? spelling text := by
  induction spelling generalizing text with
  | nil => simp [spellingLength?]
  | cons s spelling inductionHypothesis =>
      obtain ⟨notSpace, unlike⟩ := apart s List.mem_cons_self
      have others := inductionHypothesis fun other member =>
        apart other (List.mem_cons_of_mem s member)
      cases text with
      | nil =>
          cases rest with
          | nil => rfl
          | cons c rest => simp [spellingLength?, notSpace, unlike c rfl]
      | cons d text => simp only [List.cons_append, spellingLength?, notSpace, if_false, others]

/-- What is found first depends on what is found for each element only. -/
theorem findSome?_congr
    {list : List α}
    {find other : α → Option β}
    (same : ∀ element ∈ list, find element = other element) :
    list.findSome? find = list.findSome? other := by
  induction list with
  | nil => rfl
  | cons first rest inductionHypothesis =>
      rw [List.forall_mem_cons] at same
      rw [List.findSome?_cons, List.findSome?_cons, same.1, inductionHypothesis same.2]

theorem operatorLength?_append
    {rest : List Char}
    (foreign : ∀ c, rest.head? = some c → IsForeign c)
    (text : List Char) :
    operatorLength? (text ++ rest) = operatorLength? text :=
  findSome?_congr fun _ member =>
    spellingLength?_append (fun s inOperator =>
      ⟨(toUpper_ne_of_isForeign member inOperator (.inl (by decide : isBlank ' ' = true))).1,
        fun c first => (toUpper_ne_of_isForeign member inOperator (foreign c first)).2⟩) text

/-- No operator starts with a foreign character. -/
theorem operatorLength?_eq_none
    {c : Char}
    (foreign : IsForeign c)
    (rest : List Char) :
    operatorLength? (c :: rest) = none := by
  have empty : ∀ operator ∈ operators, operator.toList ≠ [] := by decide
  unfold operatorLength?
  refine List.findSome?_eq_none_iff.2 fun operator member => ?_
  cases spelled : operator.toList with
  | nil => exact absurd spelled (empty operator member)
  | cons s spelling =>
      have first : s ∈ operator.toList := spelled ▸ List.mem_cons_self
      obtain ⟨notSpace, unlike⟩ := toUpper_ne_of_isForeign member first foreign
      simp only [spellingLength?, notSpace, unlike, if_false]

/-! ## Phrases -/

/-- The first word of a phrase. -/
def phraseHead (phrase : String) : List Char :=
  phrase.toList.takeWhile isWordChar

/-- A phrase from the character that ends its first word. -/
def phraseTail (phrase : String) : List Char :=
  phrase.toList.dropWhile isWordChar

/-- A text goes on with what completes a phrase. -/
def CompletesPhrase (rest : List Char) : Prop :=
  ∃ phrase ∈ phrases, ∃ length, spellingLength? (phraseTail phrase) rest = some length

/-- The first word of a phrase is in upper case. A blank or dash comes after it, and behind that
another word in upper case. -/
theorem phrase_parts
    {phrase : String}
    (member : phrase ∈ phrases) :
    (∀ s ∈ phraseHead phrase, s.isUpper = true) ∧ phraseHead phrase ≠ [] ∧
      ∃ separator s second, phraseTail phrase = separator :: s :: second ∧
        (separator = ' ' ∨ separator = '-') ∧ ∀ letter ∈ s :: second, letter.isUpper = true := by
  have all : phrases.all (fun phrase => (phraseHead phrase).all Char.isUpper &&
      !(phraseHead phrase).isEmpty &&
        (phraseTail phrase).head?.any (fun separator => separator == ' ' || separator == '-') &&
          (phraseTail phrase).tail.all Char.isUpper && !(phraseTail phrase).tail.isEmpty) =
        true := by
    decide
  have own := List.all_eq_true.1 all phrase member
  simp only [Bool.and_eq_true, List.all_eq_true, Bool.not_eq_true', List.isEmpty_eq_false_iff]
    at own
  obtain ⟨⟨⟨⟨upper, nonempty⟩, separated⟩, letters⟩, goesOn⟩ := own
  obtain ⟨s, second, tail⟩ := List.exists_cons_of_ne_nil goesOn
  cases whole : phraseTail phrase with
  | nil => simp [whole] at tail
  | cons separator others =>
      rw [whole, List.tail_cons] at tail letters
      subst tail
      refine ⟨upper, nonempty, separator, s, second, rfl, ?_, letters⟩
      simpa [whole] using separated

/-- A word with what follows it is spelled as a phrase only if the word is the first one of the
phrase and what follows completes it. -/
theorem spelled_as_phrase
    {head : List Char}
    (letters : ∀ s ∈ head, isWordChar s = true)
    {separator : Char}
    (isSeparator : separator = ' ' ∨ separator = '-')
    (second : List Char)
    {word rest : List Char}
    (wordChars : ∀ c ∈ word, isWordChar c = true)
    (ends : EndsToken rest)
    {length : Nat}
    (spelled : spellingLength? (head ++ separator :: second) (word ++ rest) = some length) :
    head.map Char.toUpper = word.map Char.toUpper ∧
      ∃ remaining, spellingLength? (separator :: second) rest = some remaining := by
  induction head generalizing word length with
  | nil =>
      cases word with
      | nil => exact ⟨rfl, length, spelled⟩
      | cons c word =>
          exfalso
          have isWord := wordChars c List.mem_cons_self
          have notBlank := (isWordChar_eq_true_iff.1 isWord).1
          rcases isSeparator with rfl | rfl
          · simp [spellingLength?, notBlank] at spelled
          · have unlike : ¬ '-'.toUpper = c.toUpper :=
              (toUpper_ne_toUpper isWord (by decide)).symm
            rw [List.nil_append, List.cons_append, spellingLength?, if_neg (by decide),
              if_neg unlike] at spelled
            cases spelled
  | cons s head inductionHypothesis =>
      have letter := letters s List.mem_cons_self
      have notSpace : s ≠ ' ' := ne_of_isWordChar letter (by decide)
      cases word with
      | nil =>
          -- The word ends too early: what follows it starts with no letter.
          exfalso
          cases rest with
          | nil => simp [spellingLength?] at spelled
          | cons d rest =>
              have unlike : ¬ s.toUpper = d.toUpper :=
                toUpper_ne_toUpper letter (ends.isWordChar_eq_false rfl)
              simp [spellingLength?, notSpace, unlike] at spelled
      | cons c word =>
          simp only [List.cons_append, spellingLength?, notSpace, if_false] at spelled
          split at spelled
          · rename_i same
            obtain ⟨shorter, spelledRest, _⟩ := Option.map_eq_some_iff.1 spelled
            obtain ⟨others, completed⟩ := inductionHypothesis
              (fun other member => letters other (List.mem_cons_of_mem s member))
              (fun other member => wordChars other (List.mem_cons_of_mem c member)) spelledRest
            exact ⟨by rw [List.map_cons, List.map_cons, same, others], completed⟩
          · cases spelled

/-- A word is no phrase if it is the first word of none, or if what follows completes none. -/
theorem phraseLength?_eq_none
    {word rest : List Char}
    (wordChars : ∀ c ∈ word, isWordChar c = true)
    (ends : EndsToken rest)
    (noPhrase : (∀ phrase ∈ phrases, phraseHead phrase ≠ word.map Char.toUpper) ∨
      ¬ CompletesPhrase rest) :
    phraseLength? (word ++ rest) = none := by
  unfold phraseLength?
  refine List.findSome?_eq_none_iff.2 fun phrase member => ?_
  obtain ⟨upper, _, separator, s, second, tail, isSeparator, _⟩ := phrase_parts member
  have parts : phrase.toList = phraseHead phrase ++ separator :: s :: second := by
    rw [← tail, phraseHead, phraseTail, List.takeWhile_append_dropWhile]
  cases spelled : spellingLength? phrase.toList (word ++ rest) with
  | none => rfl
  | some length =>
      exfalso
      rw [parts] at spelled
      obtain ⟨same, remaining, completed⟩ := spelled_as_phrase
        (fun s inHead => isWordChar_of_isUpper (upper s inHead)) isSeparator (s :: second)
        wordChars ends spelled
      have headEq : (phraseHead phrase).map Char.toUpper = phraseHead phrase := by
        conv_rhs => rw [← List.map_id (phraseHead phrase)]
        exact List.map_congr_left fun s inHead =>
          toUpper_of_not_isLower (isLower_of_isUpper (upper s inHead))
      rcases noPhrase with notHead | notCompleted
      · exact notHead phrase member (headEq.symm.trans same)
      · exact notCompleted ⟨phrase, member, remaining, tail ▸ completed⟩

/-- A phrase starts with a letter. -/
theorem phraseLength?_eq_none_of_delimiter
    {c : Char}
    (noWord : isWordChar c = false)
    (rest : List Char) :
    phraseLength? (c :: rest) = none := by
  unfold phraseLength?
  refine List.findSome?_eq_none_iff.2 fun phrase member => ?_
  obtain ⟨upper, nonempty, _⟩ := phrase_parts member
  obtain ⟨s, head, headEq⟩ := List.exists_cons_of_ne_nil nonempty
  have letter : isWordChar s = true :=
    isWordChar_of_isUpper (upper s (headEq ▸ List.mem_cons_self))
  have spelling : phrase.toList = s :: (head ++ phraseTail phrase) := by
    rw [← List.cons_append, ← headEq, phraseHead, phraseTail, List.takeWhile_append_dropWhile]
  have notSpace : s ≠ ' ' := ne_of_isWordChar letter (by decide)
  have unlike : ¬ s.toUpper = c.toUpper := toUpper_ne_toUpper letter noWord
  simp [spelling, spellingLength?, notSpace, unlike]

/-! ## Words -/

/-- A word is cut where it ends. -/
theorem cut_word
    {c : Char}
    {tail rest : List Char}
    (noDigit : c.isDigit = false)
    (wordChars : ∀ d ∈ c :: tail, isWordChar d = true)
    (ends : EndsToken rest)
    (noPhrase : (∀ phrase ∈ phrases, phraseHead phrase ≠ (c :: tail).map Char.toUpper) ∨
      ¬ CompletesPhrase rest) :
    cut false c (tail ++ rest) = .ok (.word, tail.length) := by
  have isWord := wordChars c List.mem_cons_self
  obtain ⟨notBlank, notDelimiter⟩ := isWordChar_eq_true_iff.1 isWord
  have unlike : ∀ d, isWordChar d = false → c ≠ d := fun d => ne_of_isWordChar isWord
  have noQuote : ¬ ((c = 'N' ∨ c = 'n') ∧ (tail ++ rest).head? = some '\'') := by
    rintro ⟨_, first⟩
    cases tail with
    | nil => exact ends.head?_ne (by decide) (by decide) first
    | cons d tail =>
        obtain rfl := Option.some.inj first
        exact absurd (wordChars '\'' (by simp)) (by decide)
  have stops : rest.takeWhile (fun d => !isBlank d && !isDelimiter d) = [] := by
    cases rest with
    | nil => rfl
    | cons d rest =>
        have noWord := ends.isWordChar_eq_false rfl
        exact List.takeWhile_cons_of_neg (by simpa [isWordChar] using noWord)
  have length : wordLength (tail ++ rest) = tail.length := by
    rw [wordLength, List.takeWhile_append_of_pos, stops, List.append_nil]
    exact fun d member => wordChars d (List.mem_cons_of_mem c member)
  have noOperator : operatorLength? (c :: (tail ++ rest)) = none :=
    operatorLength?_eq_none (.inr (.inl isWord)) _
  have noPhrase : phraseLength? (c :: (tail ++ rest)) = none :=
    phraseLength?_eq_none wordChars ends noPhrase
  rw [cut, isSpacing_eq_false notBlank, notBlank, noDigit, if_neg noQuote]
  simp [unlike '"' (by decide), unlike '\'' (by decide), unlike '-' (by decide),
    unlike '/' (by decide),
    unlike '\x7b' (by decide), cutPlain, noOperator, noPhrase, notDelimiter, length]

/-! ## Quoted texts -/

theorem quotedContent_cons_of_ne
    {quote c : Char}
    (notQuote : c ≠ quote)
    (text : List Char) :
    quotedContent quote (c :: text) =
      (quotedContent quote text).map fun (content, length) => (c :: content, length + 1) := by
  cases text <;> simp [quotedContent, notQuote]

/-- The content of a quoted text is found again if no further quote follows. -/
theorem quotedContent_doubled
    (quote : Char)
    (content : List Char)
    {rest : List Char}
    (apart : rest.head? ≠ some quote) :
    quotedContent quote (doubled quote content ++ quote :: rest) =
      .ok (content, (doubled quote content).length + 1) := by
  induction content with
  | nil =>
      cases rest with
      | nil => simp [doubled, quotedContent]
      | cons d rest =>
          have unlike : d ≠ quote := by simpa using apart
          simp [doubled, quotedContent, unlike]
  | cons c content inductionHypothesis =>
      by_cases isQuote : c = quote
      · subst isQuote
        have whole : doubled c (c :: content) = c :: c :: doubled c content := by simp [doubled]
        rw [whole, List.cons_append, List.cons_append, quotedContent, if_pos rfl]
        simp [inductionHypothesis, Except.map]
      · have whole : doubled quote (c :: content) = c :: doubled quote content := by
          simp [doubled, isQuote]
        rw [whole, List.cons_append, quotedContent_cons_of_ne isQuote, inductionHypothesis]
        rfl

theorem cutQuoted_doubled
    (kind : String → LexemeKind)
    (quote : Char)
    (content : String)
    {rest : List Char}
    (apart : rest.head? ≠ some quote) :
    cutQuoted kind quote 0 (doubled quote content.toList ++ [quote] ++ rest) =
      .ok (kind content, (doubled quote content.toList ++ [quote]).length) := by
  have opened : doubled quote content.toList ++ quote :: rest ≠ [] := by simp
  rw [List.append_assoc, List.singleton_append]
  simp [cutQuoted, quotedFrom, opened, quotedContent_doubled quote content.toList apart,
    Except.map]

theorem cut_quotedName
    (name : String)
    {rest : List Char}
    (apart : rest.head? ≠ some '"') :
    cut false '"' (doubled '"' name.toList ++ ['"'] ++ rest) =
      .ok (.quotedName name, (doubled '"' name.toList ++ ['"']).length) := by
  rw [cut, if_neg (by decide), if_neg (by decide), if_neg (by decide), if_pos rfl]
  exact cutQuoted_doubled .quotedName '"' name apart

theorem cut_quotedText
    (content : String)
    {rest : List Char}
    (apart : rest.head? ≠ some '\'') :
    cut false '\'' (doubled '\'' content.toList ++ ['\''] ++ rest) =
      .ok (.quotedText content, (doubled '\'' content.toList ++ ['\'']).length) := by
  rw [cut, if_neg (by decide), if_neg (by decide), if_neg (by decide),
    if_neg (by decide), if_pos rfl]
  exact cutQuoted_doubled .quotedText '\'' content apart

/-! ## Numbers -/

theorem numberLength_digits
    {digits : List Char}
    (ascii : IsAsciiDigits digits)
    (point : Bool)
    (exponent : ExponentState)
    (rest : List Char) :
    numberLength point exponent (digits ++ rest) =
      digits.length + numberLength point exponent rest := by
  induction digits with
  | nil => simp
  | cons c digits inductionHypothesis =>
      have others := inductionHypothesis fun d member => ascii d (List.mem_cons_of_mem c member)
      rw [List.cons_append, numberLength, if_pos (ascii c List.mem_cons_self), others,
        List.length_cons]
      omega

theorem EndsToken.numberLength_eq_zero
    {rest : List Char}
    (ends : EndsToken rest)
    (point : Bool)
    (exponent : ExponentState) :
    numberLength point exponent rest = 0 := by
  cases rest with
  | nil => rfl
  | cons c rest =>
      have noDigit : c.isDigit = false := isDigit_eq_false (ends.isWordChar_eq_false rfl)
      have unlike : ∀ d ∈ ['.', '-', '+', 'e', 'E'], c ≠ d := by
        intro d member same
        have all : ['.', '-', '+', 'e', 'E'].all
            (fun d => !isBlank d && !tightMarks.contains d) = true := by
          decide
        have inside : isBlank d = false ∧ d ∉ tightMarks := by
          simpa using List.all_eq_true.1 all d member
        exact ends.head?_ne inside.1 inside.2 (congrArg some same)
      simp [numberLength, noDigit, unlike '.' (by decide), unlike '-' (by decide),
        unlike '+' (by decide), unlike 'e' (by decide), unlike 'E' (by decide)]

theorem IsExponent.numberLength_eq
    {exponent rest : List Char}
    (isExponent : IsExponent exponent)
    (ends : EndsToken rest)
    (point : Bool) :
    numberLength point .absent (exponent ++ rest) = exponent.length := by
  cases isExponent with
  | absent => exact ends.numberLength_eq_zero point .absent
  | present isMark isSign ascii nonempty =>
      rename_i mark sign digits
      have first : ∀ tail, (digits ++ tail).head?.any Char.isDigit = true := by
        intro tail
        obtain ⟨d, others, rfl⟩ := List.exists_cons_of_ne_nil nonempty
        simpa using ascii d List.mem_cons_self
      have signed : numberLength point .unsigned (sign ++ (digits ++ rest)) =
          sign.length + digits.length := by
        cases isSign with
        | absent =>
            rw [List.nil_append, numberLength_digits ascii, ends.numberLength_eq_zero]
            simp
        | plus =>
            rw [List.singleton_append, numberLength, if_neg (by decide), if_neg (by simp),
              if_pos ⟨.inr rfl, rfl, first rest⟩, numberLength_digits ascii,
              ends.numberLength_eq_zero]
            simp [Nat.add_comm]
        | minus =>
            rw [List.singleton_append, numberLength, if_neg (by decide), if_neg (by simp),
              if_pos ⟨.inl rfl, rfl, first rest⟩, numberLength_digits ascii,
              ends.numberLength_eq_zero]
            simp [Nat.add_comm]
      rw [List.cons_append, List.append_assoc, numberLength]
      rcases isMark with rfl | rfl
      · simp [signed]
      · simp [signed]

theorem IsFraction.numberLength_eq
    {fraction exponent rest : List Char}
    (isFraction : IsFraction fraction)
    (isExponent : IsExponent exponent)
    (ends : EndsToken rest) :
    numberLength false .absent (fraction ++ (exponent ++ rest)) =
      fraction.length + exponent.length := by
  cases isFraction with
  | absent => simpa using isExponent.numberLength_eq ends false
  | present ascii nonempty =>
      rw [List.cons_append, numberLength, if_neg (by decide), if_pos ⟨rfl, rfl⟩,
        numberLength_digits ascii, isExponent.numberLength_eq ends, List.length_cons]
      omega

/-- Digits with an optional fraction and exponent are cut where the number ends. -/
theorem cut_number
    {c : Char}
    {digits fraction exponent rest : List Char}
    (ascii : IsAsciiDigits (c :: digits))
    (isFraction : IsFraction fraction)
    (isExponent : IsExponent exponent)
    (ends : EndsToken rest) :
    cut false c (digits ++ (fraction ++ exponent) ++ rest) =
      .ok (.number, (digits ++ (fraction ++ exponent)).length) := by
  have digit : c.isDigit = true := ascii c List.mem_cons_self
  have isWord : isWordChar c = true := isWordChar_of_isDigit digit
  have notBlank : isBlank c = false := (isWordChar_eq_true_iff.1 isWord).1
  have length : numberLength false .absent (digits ++ (fraction ++ (exponent ++ rest))) =
      digits.length + (fraction.length + exponent.length) := by
    rw [numberLength_digits fun d member => ascii d (List.mem_cons_of_mem c member),
      isFraction.numberLength_eq isExponent ends]
  rw [cut, isSpacing_eq_false notBlank, notBlank]
  simp [digit, length]

/-! ## Symbols -/

/-- An operator or mark is cut as the operator at the front, or as one character. -/
theorem cut_symbol
    {c : Char}
    {tail rest : List Char}
    (delimiter : isDelimiter c = true)
    (opensNothing : c ∉ ['"', '\'', '/', '\x7b'])
    (noComment : ¬ (c = '-' ∧ (tail ++ rest).head? = some '-'))
    (length : (operatorLength? (c :: (tail ++ rest))).getD 1 = tail.length + 1) :
    cut false c (tail ++ rest) = .ok (.symbol, tail.length) := by
  have notBlank := isBlank_of_isDelimiter delimiter
  have noWord : isWordChar c = false := by simp [isWordChar, delimiter]
  have noLetter : ¬ ((c = 'N' ∨ c = 'n') ∧ (tail ++ rest).head? = some '\'') := by
    rintro ⟨rfl | rfl, _⟩
    · exact absurd delimiter (by decide)
    · exact absurd delimiter (by decide)
  have plain : cutPlain c (tail ++ rest) = (.symbol, tail.length) := by
    unfold cutPlain
    cases found : operatorLength? (c :: (tail ++ rest)) with
    | some own =>
        rw [found, Option.getD_some] at length
        simp [length]
    | none =>
        rw [found, Option.getD_none] at length
        have alone : tail.length = 0 := by omega
        simp [phraseLength?_eq_none_of_delimiter noWord, delimiter, alone]
  simp only [List.mem_cons, List.not_mem_nil, or_false, not_or] at opensNothing
  obtain ⟨notName, notText, notSlash, notBrace⟩ := opensNothing
  rw [cut, if_neg (by simp [isSpacing_eq_false notBlank]), if_neg (by simp [notBlank]),
    if_neg (by simp [isDigit_eq_false noWord]),
    if_neg notName, if_neg notText, if_neg noLetter, if_neg noComment,
    if_neg (fun own => notSlash own.1), if_neg (fun own => notSlash own.1),
    if_neg (fun own => notBrace own.1), plain]

end Query
end FlatTables
