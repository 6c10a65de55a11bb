import FlatTables.Text.Blank
import FlatTables.Text.Field
import FlatTables.Text.Line
import Mathlib.Data.List.DropRight
import Mathlib.Data.List.Intervals

/-!
# Trimming, fields and lines

Trimming a trimmed text does nothing, and texts without blanks are trimmed. Fields without
separators are recovered from the text they are joined to. Lines are recovered from a text to
which a further text is appended on a line of its own, whichever break the first text ends with.
-/

namespace FlatTables
namespace Text

/-! ## Trimming -/

/-- A trimmed text is what is left after its leading blanks, without its last blanks. -/
theorem trimChars_isPrefix (s : List Char) : trimChars s <+: s.dropWhile isBlank :=
  List.rdropWhile_prefix isBlank _

theorem mem_of_mem_trimChars
    {c : Char}
    {s : List Char}
    (member : c ∈ trimChars s) :
    c ∈ s :=
  (List.dropWhile_suffix isBlank).subset ((trimChars_isPrefix s).subset member)

/-- A text whose ends are no blanks is trimmed. -/
theorem trimChars_of_ends
    {s : List Char}
    (first : ∀ c ∈ s.head?, isBlank c = false)
    (last : ∀ c ∈ s.getLast?, isBlank c = false) :
    trimChars s = s := by
  have front : s.dropWhile isBlank = s := by
    cases s with
    | nil => rfl
    | cons c rest => simp [first c rfl]
  have back : s.reverse.dropWhile isBlank = s.reverse := by
    rw [List.dropWhile_eq_self_iff]
    intro nonempty
    simp only [List.getElem_zero, List.head_reverse, Bool.not_eq_true]
    exact last _ (List.getLast_mem_getLast? _)
  rw [trimChars, trimEndChars, front, back, List.reverse_reverse]

theorem trimChars_of_no_blank
    {s : List Char}
    (clean : ∀ c ∈ s, isBlank c = false) :
    trimChars s = s :=
  trimChars_of_ends
    (fun c first => clean c (List.mem_of_mem_head? first))
    (fun c last => clean c (List.mem_of_mem_getLast? last))

/-- The ends of a trimmed text are no blanks. -/
theorem head?_trimChars
    {s : List Char}
    {c : Char}
    (first : c ∈ (trimChars s).head?) :
    isBlank c = false := by
  obtain ⟨suffix, split⟩ := trimChars_isPrefix s
  have nonempty : trimChars s ≠ [] := by
    rintro empty
    simp [empty] at first
  have firstOfFront : c ∈ (s.dropWhile isBlank).head? := by
    rw [← split, List.head?_append_of_ne_nil _ nonempty]
    exact first
  have notBlank := List.head?_dropWhile_not isBlank s
  rw [Option.mem_def.1 firstOfFront] at notBlank
  simpa using notBlank

theorem getLast?_trimChars
    {s : List Char}
    {c : Char}
    (last : c ∈ (trimChars s).getLast?) :
    isBlank c = false := by
  have notBlank := List.head?_dropWhile_not isBlank (s.dropWhile isBlank).reverse
  rw [trimChars, trimEndChars, List.getLast?_reverse] at last
  rw [Option.mem_def.1 last] at notBlank
  simpa using notBlank

/-- Trimming twice is trimming once. -/
@[simp] theorem trimChars_trimChars (s : List Char) : trimChars (trimChars s) = trimChars s :=
  trimChars_of_ends (fun _ => head?_trimChars) (fun _ => getLast?_trimChars)

/-- Nothing is left of a text exactly if it is blank. -/
theorem trimChars_eq_nil_iff (s : List Char) : trimChars s = [] ↔ s.all isBlank := by
  constructor
  · intro empty
    have backEmpty : (s.dropWhile isBlank).reverse.dropWhile isBlank = [] := by
      simpa [trimChars, trimEndChars] using empty
    have frontBlank : ∀ c ∈ s.dropWhile isBlank, isBlank c := by
      simpa using List.dropWhile_eq_nil_iff.1 backEmpty
    have frontEmpty : s.dropWhile isBlank = [] := by
      by_contra nonempty
      have notBlank := List.head_dropWhile_not isBlank nonempty
      exact absurd (frontBlank _ (List.head_mem nonempty)) (by simp [notBlank])
    exact List.all_eq_true.2 (List.dropWhile_eq_nil_iff.1 frontEmpty)
  · intro blank
    have frontEmpty : s.dropWhile isBlank = [] :=
      List.dropWhile_eq_nil_iff.2 (List.all_eq_true.1 blank)
    simp [trimChars, trimEndChars, frontEmpty]

/-! ## Fields -/

theorem splitFields_ne_nil
    (separator : Char)
    (s : List Char) :
    splitFields separator s ≠ [] := by
  cases s with
  | nil => simp [splitFields]
  | cons c rest =>
      unfold splitFields
      split
      · simp
      · split <;> simp

theorem splitFields_of_not_mem
    {separator : Char}
    {field : List Char}
    (clean : separator ∉ field) :
    splitFields separator field = [field] := by
  induction field with
  | nil => rfl
  | cons c rest inductionHypothesis =>
      obtain ⟨different, restClean⟩ := not_or.1 (mt List.mem_cons.2 clean)
      rw [splitFields, if_neg (Ne.symm different), inductionHypothesis restClean]

theorem splitFields_append_cons
    {separator : Char}
    {field : List Char}
    (clean : separator ∉ field)
    (rest : List Char) :
    splitFields separator (field ++ separator :: rest) = field :: splitFields separator rest := by
  induction field with
  | nil => simp [splitFields]
  | cons c tail inductionHypothesis =>
      obtain ⟨different, tailClean⟩ := not_or.1 (mt List.mem_cons.2 clean)
      rw [List.cons_append, splitFields, if_neg (Ne.symm different), inductionHypothesis tailClean]

/-- Fields without separators are recovered from the text they are joined to. -/
theorem splitFields_intercalate
    {separator : Char}
    {fields : List (List Char)}
    (nonempty : fields ≠ [])
    (clean : ∀ field ∈ fields, separator ∉ field) :
    splitFields separator (List.intercalate [separator] fields) = fields := by
  induction fields with
  | nil => exact absurd rfl nonempty
  | cons field rest inductionHypothesis =>
      have fieldClean := clean field List.mem_cons_self
      cases rest with
      | nil => simpa using splitFields_of_not_mem fieldClean
      | cons next others =>
          have restClean : ∀ field ∈ next :: others, separator ∉ field := fun field member =>
            clean field (List.mem_cons_of_mem _ member)
          rw [List.intercalate_cons_cons, List.append_assoc, List.singleton_append,
            splitFields_append_cons fieldClean, inductionHypothesis (by simp) restClean]

/-- A character of joined fields belongs to the separator or to one of the fields. -/
theorem mem_intercalate
    {c : Char}
    {separator : List Char}
    {fields : List (List Char)}
    (member : c ∈ List.intercalate separator fields) :
    c ∈ separator ∨ ∃ field ∈ fields, c ∈ field := by
  induction fields with
  | nil => cases member
  | cons field rest inductionHypothesis =>
      by_cases last : rest = []
      · subst last
        rw [List.intercalate_singleton] at member
        exact .inr ⟨field, by simp, member⟩
      · rw [List.intercalate_cons_of_ne_nil last] at member
        simp only [List.mem_append] at member
        rcases member with (inField | inSeparator) | inRest
        · exact .inr ⟨field, by simp, inField⟩
        · exact .inl inSeparator
        · refine (inductionHypothesis inRest).imp id ?_
          rintro ⟨own, ownMember, inOwn⟩
          exact ⟨own, List.mem_cons_of_mem field ownMember, inOwn⟩

/-- The characters of every field are among those of the joined fields. -/
theorem mem_intercalate_of_mem
    {c : Char}
    (separator : List Char)
    {fields : List (List Char)}
    {field : List Char}
    (member : field ∈ fields)
    (inField : c ∈ field) :
    c ∈ List.intercalate separator fields := by
  induction fields with
  | nil => cases member
  | cons first rest inductionHypothesis =>
      by_cases last : rest = []
      · subst last
        rw [List.intercalate_singleton, ← List.mem_singleton.1 member]
        exact inField
      · rw [List.intercalate_cons_of_ne_nil last]
        rcases List.mem_cons.1 member with rfl | inRest
        · simp [inField]
        · simp [inductionHypothesis inRest]

/-- The fields of a text, joined by the separator, are the text. -/
theorem intercalate_splitFields
    (separator : Char)
    (s : List Char) :
    List.intercalate [separator] (splitFields separator s) = s := by
  induction s with
  | nil => rfl
  | cons c rest inductionHypothesis =>
      unfold splitFields
      by_cases here : c = separator
      · rw [if_pos here, List.intercalate_cons_of_ne_nil (splitFields_ne_nil separator rest),
          inductionHypothesis, here]
        rfl
      · rw [if_neg here]
        cases split : splitFields separator rest with
        | nil => exact absurd split (splitFields_ne_nil separator rest)
        | cons field fields =>
            rw [split] at inductionHypothesis
            rw [← inductionHypothesis, ← List.intercalate_cons_cons_left]

/-- A field holds no separator and only characters of the text. -/
theorem mem_splitFields
    {separator : Char}
    {s field : List Char}
    (member : field ∈ splitFields separator s) :
    separator ∉ field ∧ ∀ c ∈ field, c ∈ s := by
  induction s generalizing field with
  | nil =>
      cases List.mem_singleton.1 member
      exact ⟨List.not_mem_nil, fun _ none => absurd none List.not_mem_nil⟩
  | cons c rest inductionHypothesis =>
      unfold splitFields at member
      split at member
      · rcases List.mem_cons.1 member with rfl | later
        · exact ⟨List.not_mem_nil, fun _ none => absurd none List.not_mem_nil⟩
        · obtain ⟨clean, contained⟩ := inductionHypothesis later
          exact ⟨clean, fun d inField => List.mem_cons_of_mem c (contained d inField)⟩
      · rename_i different
        split at member
        · rename_i empty
          exact absurd empty (splitFields_ne_nil separator rest)
        · rename_i first others fields
          rcases List.mem_cons.1 member with rfl | later
          · obtain ⟨clean, contained⟩ := inductionHypothesis
              (fields ▸ List.mem_cons_self : first ∈ splitFields separator rest)
            refine ⟨?_, ?_⟩
            · simp [clean, Ne.symm different]
            · rintro d (_ | ⟨_, inField⟩)
              · exact List.mem_cons_self
              · exact List.mem_cons_of_mem c (contained d inField)
          · obtain ⟨clean, contained⟩ := inductionHypothesis
              (fields ▸ List.mem_cons_of_mem first later : field ∈ splitFields separator rest)
            exact ⟨clean, fun d inField => List.mem_cons_of_mem c (contained d inField)⟩

/-! ## Lines -/

/-- A further text starts on a line of its own: nothing stands before it, or a line feed does. -/
def AtLineStart (text : List Char) : Prop :=
  ∀ c ∈ text.getLast?, c = '\n'

theorem atLineStart_nil : AtLineStart [] := by
  intro c last
  cases last

theorem atLineStart_append_newline (text : List Char) : AtLineStart (text ++ ['\n']) := by
  intro c last
  simpa using last.symm

theorem atLineStart_cons_iff
    (c : Char)
    {rest : List Char}
    (nonempty : rest ≠ []) :
    AtLineStart (c :: rest) ↔ AtLineStart rest := by
  cases rest with
  | nil => exact absurd rfl nonempty
  | cons d rest => simp [AtLineStart]

theorem atLineStart_newline_cons_iff (rest : List Char) :
    AtLineStart ('\n' :: rest) ↔ AtLineStart rest := by
  by_cases empty : rest = []
  · subst empty
    exact iff_of_true (atLineStart_append_newline []) atLineStart_nil
  · exact atLineStart_cons_iff _ empty

/-- Taking a line feed into a break does not change where the text ends. -/
theorem atLineStart_afterBreak_iff
    (c : Char)
    (rest : List Char) :
    AtLineStart (afterBreak c rest) ↔ AtLineStart rest := by
  unfold afterBreak
  split
  · split
    · exact (atLineStart_newline_cons_iff _).symm
    · rfl
  · rfl

theorem splitLines_ne_nil
    (isBreak : Char → Bool)
    {text : List Char}
    (nonempty : text ≠ []) :
    splitLines isBreak text ≠ [] := by
  cases text with
  | nil => exact absurd rfl nonempty
  | cons c rest =>
      rw [splitLines]
      split
      · simp
      · split <;> simp

/-- The first character of a line goes in front of the first of the lines behind it. -/
theorem splitLines_cons_append
    {isBreak : Char → Bool}
    {c : Char}
    {rest whole : List Char}
    {others : List (List Char)}
    (within : isBreak c = false)
    (nonempty : rest ≠ [])
    (split : splitLines isBreak whole = splitLines isBreak rest ++ others) :
    splitLines isBreak (c :: whole) = splitLines isBreak (c :: rest) ++ others := by
  obtain ⟨line, lines, cut⟩ := List.exists_cons_of_ne_nil (splitLines_ne_nil isBreak nonempty)
  rw [splitLines, splitLines, split, cut]
  simp [within]

theorem afterBreak_append
    {c : Char}
    {rest : List Char}
    (nonempty : rest ≠ [])
    (further : List Char) :
    afterBreak c (rest ++ further) = afterBreak c rest ++ further := by
  cases rest with
  | nil => exact absurd rfl nonempty
  | cons d rest =>
      unfold afterBreak
      split
      · rename_i tail equal
        obtain ⟨rfl, rfl⟩ := List.cons.inj equal
        by_cases pair : c = '\r' <;> simp [pair]
      · rename_i notFeed
        split
        · rename_i tail equal
          obtain ⟨rfl, rfl⟩ := List.cons.inj equal
          exact absurd rfl (notFeed _)
        · rfl

@[simp] theorem afterBreak_newline (rest : List Char) : afterBreak '\n' rest = rest := by
  unfold afterBreak
  split <;> simp

theorem splitLines_break_cons
    {isBreak : Char → Bool}
    {c : Char}
    (breaks : isBreak c)
    (rest : List Char) :
    splitLines isBreak (c :: rest) = [] :: splitLines isBreak (afterBreak c rest) := by
  rw [splitLines, if_pos breaks]

/-- Behind a line feed the lines of a further text are lines of their own. -/
theorem splitLines_append
    {text : List Char}
    (atStart : AtLineStart text)
    (further : List Char) :
    splitLines isNewline (text ++ further) =
      splitLines isNewline text ++ splitLines isNewline further := by
  fun_induction splitLines isNewline text with
  | case1 => rfl
  | case2 c rest breaks inductionHypothesis =>
      rw [List.cons_append, splitLines_break_cons breaks, List.cons_append]
      by_cases empty : rest = []
      · subst empty
        obtain rfl : c = '\n' := atStart c rfl
        simpa using inductionHypothesis atLineStart_nil
      · have restAtStart : AtLineStart (afterBreak c rest) :=
          (atLineStart_afterBreak_iff c rest).2 ((atLineStart_cons_iff c empty).1 atStart)
        rw [afterBreak_append empty, inductionHypothesis restAtStart]
  | case3 c rest within cut inductionHypothesis =>
      -- A last line without a break cannot end with a line feed.
      obtain rfl : rest = [] := by
        by_contra nonempty
        exact splitLines_ne_nil isNewline nonempty cut
      obtain rfl : c = '\n' := atStart c rfl
      exact absurd rfl within
  | case4 c rest within line lines cut inductionHypothesis =>
      have nonempty : rest ≠ [] := by
        rintro rfl
        simp [splitLines] at cut
      have split := splitLines_cons_append (by simpa using within) nonempty
        (inductionHypothesis ((atLineStart_cons_iff c nonempty).1 atStart))
      rw [List.cons_append, split, splitLines, if_neg within, cut]

/-- A line feed put behind a text that does not end with one starts a new line, even where the
text ends with a carriage return, and does not add a line. -/
theorem splitLines_append_newline
    {text : List Char}
    (inLine : ¬ AtLineStart text)
    (further : List Char) :
    splitLines isNewline (text ++ '\n' :: further) =
      splitLines isNewline text ++ splitLines isNewline further := by
  fun_induction splitLines isNewline text with
  | case1 => exact absurd atLineStart_nil inLine
  | case2 c rest breaks inductionHypothesis =>
      rw [List.cons_append, splitLines_break_cons breaks, List.cons_append]
      by_cases empty : rest = []
      · subst empty
        have notFeed : c ≠ '\n' := by
          rintro rfl
          exact inLine (atLineStart_append_newline [])
        obtain rfl : c = '\r' := by simpa [isNewline, notFeed] using breaks
        simp [afterBreak, splitLines]
      · have restInLine : ¬ AtLineStart (afterBreak c rest) := fun atStart =>
          inLine ((atLineStart_cons_iff c empty).2 ((atLineStart_afterBreak_iff c rest).1 atStart))
        rw [afterBreak_append empty, inductionHypothesis restInLine]
  | case3 c rest within cut inductionHypothesis =>
      obtain rfl : rest = [] := by
        by_contra nonempty
        exact splitLines_ne_nil isNewline nonempty cut
      have feed : isNewline '\n' = true := rfl
      rw [List.cons_append, List.nil_append, splitLines, if_neg within,
        splitLines_break_cons feed, afterBreak_newline]
      rfl
  | case4 c rest within line lines cut inductionHypothesis =>
      have nonempty : rest ≠ [] := by
        rintro rfl
        simp [splitLines] at cut
      have restInLine : ¬ AtLineStart rest := fun atStart =>
        inLine ((atLineStart_cons_iff c nonempty).2 atStart)
      have split := splitLines_cons_append (by simpa using within) nonempty
        (inductionHypothesis restInLine)
      rw [List.cons_append, split, splitLines, if_neg within, cut]

/-- A text without breaks is one line. -/
theorem splitLines_of_no_break
    {isBreak : Char → Bool}
    {line : List Char}
    (nonempty : line ≠ [])
    (within : ∀ c ∈ line, isBreak c = false) :
    splitLines isBreak line = [line] := by
  induction line with
  | nil => exact absurd rfl nonempty
  | cons c rest inductionHypothesis =>
      have first := within c List.mem_cons_self
      by_cases empty : rest = []
      · subst empty
        simp [splitLines, first]
      · have others := inductionHypothesis empty fun d member =>
          within d (List.mem_cons_of_mem c member)
        simp [splitLines, first, others]

/-- A text without breaks and a line feed are one line. -/
theorem splitLines_line
    {line : List Char}
    (nonempty : line ≠ [])
    (within : ∀ c ∈ line, isNewline c = false) :
    splitLines isNewline (line ++ ['\n']) = [line] := by
  have inLine : ¬ AtLineStart line := by
    intro atStart
    have last := List.getLast_mem nonempty
    have feed := atStart _ (List.getLast?_eq_some_getLast nonempty)
    rw [feed] at last
    exact absurd (within _ last) (by decide)
  rw [splitLines_append_newline inLine, splitLines_of_no_break nonempty within, splitLines,
    List.append_nil]

/-- A text without breaks and a single break of any kind are one line. -/
theorem splitLines_of_break
    {isBreak : Char → Bool}
    {line ending : List Char}
    (within : ∀ c ∈ line, isBreak c = false)
    (single : splitLines isBreak ending = [[]]) :
    splitLines isBreak (line ++ ending) = [line] := by
  induction line with
  | nil => exact single
  | cons c rest inductionHypothesis =>
      have others := inductionHypothesis fun d member => within d (List.mem_cons_of_mem c member)
      rw [List.cons_append, splitLines, others]
      simp [within c List.mem_cons_self]

/-- A text without breaks is the first line if a break stands behind it. -/
theorem splitLines_append_break
    {isBreak : Char → Bool}
    {line : List Char}
    {c : Char}
    (within : ∀ d ∈ line, isBreak d = false)
    (breaks : isBreak c)
    (rest : List Char) :
    splitLines isBreak (line ++ c :: rest) = line :: splitLines isBreak (afterBreak c rest) := by
  induction line with
  | nil => exact splitLines_break_cons breaks rest
  | cons d tail inductionHypothesis =>
      have others := inductionHypothesis fun own member =>
        within own (List.mem_cons_of_mem d member)
      rw [List.cons_append, splitLines, others]
      simp [within d List.mem_cons_self]

/-- A line of a text holds no break. -/
theorem mem_splitLines
    {isBreak : Char → Bool}
    {text line : List Char}
    (member : line ∈ splitLines isBreak text) :
    ∀ c ∈ line, isBreak c = false := by
  fun_induction splitLines isBreak text generalizing line with
  | case1 => cases member
  | case2 c rest breaks inductionHypothesis =>
      rcases List.mem_cons.1 member with rfl | later
      · exact fun _ none => absurd none List.not_mem_nil
      · exact inductionHypothesis later
  | case3 c rest within cut inductionHypothesis =>
      cases List.mem_singleton.1 member
      simpa using within
  | case4 c rest within first lines cut inductionHypothesis =>
      rcases List.mem_cons.1 member with rfl | later
      · rintro d (_ | ⟨_, inLine⟩)
        · simpa using within
        · exact inductionHypothesis (by simp [cut]) d inLine
      · exact inductionHypothesis (by simp [cut, later])

end Text
end FlatTables
