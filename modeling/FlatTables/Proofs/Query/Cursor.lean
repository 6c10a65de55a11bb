import FlatTables.Query.Cursor
import FlatTables.Proofs.Except
import FlatTables.Proofs.Query.Clauses

/-!
# Cursors stay on the tape

Reading through a cursor comes to an end, and to the same one as reading the tokens as a list. This
takes no more than that the last token is the end: a token is passed only if it is another one, so
there is always a token behind it, and no loop makes more rounds than there are tokens. Every step
is compared with a reader of lists, which is given the tokens from the cursor on and leaves over
those from where the step leaves the cursor. Where both reject the tokens, the rejection shows a part
of the text.
-/

namespace FlatTables
namespace Query

/-! ## Steps in a row -/

namespace Reading

variable {α β : Type} {rounds start place : Nat}

theorem perform_bind_of_ok
    {reading : Reading α}
    {value : α}
    (ended : reading.perform rounds start = (.ok value, place))
    (next : α → Reading β) :
    (reading >>= next).perform rounds start = (next value).perform rounds place := by
  simp only [perform, ReaderT.run_bind, ExceptT.run_bind] at ended ⊢
  simp [ended]

theorem perform_bind_of_error
    {reading : Reading α}
    {stop : Stop}
    (ended : reading.perform rounds start = (.error stop, place))
    (next : α → Reading β) :
    (reading >>= next).perform rounds start = (.error stop, place) := by
  simp only [perform, ReaderT.run_bind, ExceptT.run_bind] at ended ⊢
  simp [ended]

end Reading

namespace Tape

variable {α β : Type} {tape : Tape} {rounds : Nat}

/-- The last token on the tape is the end. -/
def Closed (tape : Tape) : Prop :=
  ∃ body last, tape.tokens = body ++ [last] ∧ last.form = .finish

/-! ## What steps come to -/

/-- Steps have ended as a reader of lists does that was given the tokens from the start on. The
cursor is on the tape and has not gone back, and a rejection shows a part of the text. -/
inductive EndsAs (tape : Tape) (start : Nat) :
    Except Rejection (Parser.Read α) → Except Stop α × Nat → Prop
  | ok {value : α} {place : Nat} (onTape : place < tape.tokens.length) (forward : start ≤ place) :
      EndsAs tape start (.ok (value, tape.tokens.drop place)) (.ok value, place)
  | rejected {rejection : Rejection} {place : Nat} (onTape : place < tape.tokens.length)
      (forward : start ≤ place) (cites : rejection.Cites tape.source) :
      EndsAs tape start (.error rejection) (.error (.rejected rejection), place)

/-- Wherever the cursor starts on the tape, steps end as a reader of lists does. -/
def Follows (tape : Tape) (rounds : Nat) (reading : Reading α)
    (read : List Token → Except Rejection (Parser.Read α)) : Prop :=
  ∀ start < tape.tokens.length, EndsAs tape start (read (tape.tokens.drop start))
    (reading.perform rounds start)

theorem EndsAs.forward
    {start later : Nat}
    {result : Except Rejection (Parser.Read α)}
    {outcome : Except Stop α × Nat}
    (ends : EndsAs tape later result outcome)
    (earlier : start ≤ later) :
    EndsAs tape start result outcome := by
  cases ends with
  | ok onTape forward => exact .ok onTape (Nat.le_trans earlier forward)
  | rejected onTape forward cites =>
      exact .rejected onTape (Nat.le_trans earlier forward) cites

theorem EndsAs.bind
    {start : Nat}
    {reading : Reading α}
    {next : α → Reading β}
    {result : Except Rejection (Parser.Read α)}
    {readNext : Parser.Read α → Except Rejection (Parser.Read β)}
    (ends : EndsAs tape start result (reading.perform rounds start))
    (nextFollows : ∀ value, Follows tape rounds (next value) fun rest => readNext (value, rest)) :
    EndsAs tape start (result >>= readNext) ((reading >>= next).perform rounds start) := by
  generalize ended : reading.perform rounds start = outcome at ends
  cases ends with
  | @ok value place onTape forward =>
      rw [Reading.perform_bind_of_ok ended]
      exact (nextFollows value place onTape).forward forward
  | rejected onTape forward cites =>
      rw [Reading.perform_bind_of_error ended]
      exact .rejected onTape forward cites

theorem EndsAs.map
    {start : Nat}
    {reading : Reading α}
    {result : Except Rejection (Parser.Read α)}
    (ends : EndsAs tape start result (reading.perform rounds start))
    (change : α → β) :
    EndsAs tape start (result.map fun read => (change read.1, read.2))
      ((reading >>= fun value => pure (change value)).perform rounds start) := by
  generalize ended : reading.perform rounds start = outcome at ends
  cases ends with
  | ok onTape forward =>
      rw [Reading.perform_bind_of_ok ended]
      exact .ok onTape forward
  | rejected onTape forward cites =>
      rw [Reading.perform_bind_of_error ended]
      exact .rejected onTape forward cites

namespace Follows

variable
  {reading : Reading α}
  {read : List Token → Except Rejection (Parser.Read α)}

theorem pure (value : α) :
    Follows tape rounds (Pure.pure value) fun tokens => .ok (value, tokens) :=
  fun _ onTape => .ok onTape (Nat.le_refl _)

theorem reject
    {rejection : Rejection}
    (cites : rejection.Cites tape.source) :
    Follows tape rounds (throw (.rejected rejection) : Reading α) fun _ => .error rejection :=
  fun _ onTape => .rejected onTape (Nat.le_refl _) cites

theorem bind
    (follows : Follows tape rounds reading read)
    {next : α → Reading β}
    {readNext : Parser.Read α → Except Rejection (Parser.Read β)}
    (nextFollows : ∀ value, Follows tape rounds (next value) fun rest => readNext (value, rest)) :
    Follows tape rounds (reading >>= next) fun tokens => read tokens >>= readNext :=
  fun start onTape => (follows start onTape).bind nextFollows

theorem map
    (follows : Follows tape rounds reading read)
    (change : α → β) :
    Follows tape rounds (reading >>= fun value => Pure.pure (change value)) fun tokens =>
      (read tokens).map fun own => (change own.1, own.2) :=
  fun start onTape => (follows start onTape).map change

end Follows

/-! ## Single tokens -/

/-- On the tape, there is a token under the cursor. -/
theorem exists_drop_eq_cons
    {start : Nat}
    (onTape : start < tape.tokens.length) :
    ∃ token, tape.tokens.drop start = token :: tape.tokens.drop (start + 1) :=
  ⟨_, List.drop_eq_getElem_cons onTape⟩

section
variable
  {start : Nat}
  {token : Token}
  {rest : List Token}
  (here : tape.tokens.drop start = token :: rest)
include here

theorem perform_peek : tape.peek.perform rounds start = (.ok token, start) := by
  have under : tape.tokens[start]? = some token := by
    rw [← List.head?_drop, here, List.head?_cons]
  have got : (get : Reading Nat).perform rounds start = (.ok start, start) := rfl
  rw [peek, Reading.perform_bind_of_ok got, under]
  rfl

/-- A token that is not the end is passed. -/
theorem perform_advance
    (passes : token.form ≠ .finish) :
    tape.advance.perform rounds start = (.ok token, start + 1) := by
  rw [advance, Reading.perform_bind_of_ok (perform_peek here)]
  simp only [passes, ne_eq, not_false_eq_true, if_true]
  rfl

/-- Behind a token that is not the end there is another one. -/
theorem Closed.behind
    (closed : tape.Closed)
    (passes : token.form ≠ .finish) :
    start + 1 < tape.tokens.length := by
  by_contra past
  have noOthers := congrArg List.tail here
  rw [List.tail_drop, List.drop_eq_nil_of_le (Nat.le_of_not_lt past), List.tail_cons] at noOthers
  obtain ⟨body, last, split, ends⟩ := closed
  have isLast := congrArg List.getLast? here
  rw [← noOthers, List.getLast?_drop, if_neg ?_, split, List.getLast?_concat] at isLast
  · cases isLast
    exact passes ends
  · intro tooShort
    rw [List.drop_eq_nil_of_le tooShort] at here
    cases here

/-- A step reads the token under the cursor with those behind it. -/
theorem Follows.at_token
    {reading : Reading α}
    {read : List Token → Except Rejection (Parser.Read α)}
    (follows : Follows tape rounds reading read)
    (onTape : start < tape.tokens.length) :
    EndsAs tape start (read (token :: rest)) (reading.perform rounds start) := by
  rw [← here]
  exact follows start onTape

end

end Tape

/-! ## Readers of lists -/

namespace Parser

variable {α : Type}

/-- Read one token that holds what is looked for. -/
def held (source : List Char) (held? : TokenForm → Option α) (what : Expectation) :
    List Token → Except Rejection (Read α)
  | token :: rest =>
      match held? token.form with
      | some item => .ok (item, rest)
      | none => .error (unexpected source what (token :: rest))
  | [] => .error (unexpected source what [])

/-- Pass a token if it has a given form, and tell whether it has. -/
def accepted (form : TokenForm) : List Token → Except Rejection (Read Bool)
  | token :: rest => if token.form = form then .ok (true, rest) else .ok (false, token :: rest)
  | [] => .ok (false, [])

/-- Read one more item of a list, if there is a comma. -/
def oneMore (source : List Char) (held? : TokenForm → Option α) (what : Expectation)
    (tokens : List Token) : Except Rejection (Read (Option α)) :=
  accepted .comma tokens >>= fun own =>
    if own.1 then (held source held? what own.2).map fun item => (some item.1, item.2)
    else .ok (none, own.2)

/-- Read the items after the first one of a list. -/
def moreHeld (source : List Char) (held? : TokenForm → Option α) (what : Expectation) :
    List Token → Except Rejection (Read (List α))
  | ⟨.comma, _⟩ :: token :: rest =>
      match held? token.form with
      | some item => (moreHeld source held? what rest).map fun own => (item :: own.1, own.2)
      | none => .error (unexpected source what (token :: rest))
  | [⟨.comma, _⟩] => .error (unexpected source what [])
  | tokens => .ok ([], tokens)

/-- Look at the first token. -/
def looked (source : List Char) (tokens : List Token) : Except Rejection (Read Token) :=
  .ok (headToken source tokens, tokens)

/-- Pass all tokens up to the one at which a condition ends. -/
def inside (tokens : List Token) : Except Rejection (Read (List Token)) :=
  .ok (tokens.takeWhile (!endsCondition ·), tokens.dropWhile (!endsCondition ·))

/-- Pass a token at which no condition ends. -/
def inside? : List Token → Except Rejection (Read (Option Token))
  | token :: rest =>
      if endsCondition token then .ok (none, token :: rest) else .ok (some token, rest)
  | [] => .ok (none, [])

section
variable
  (source : List Char)
  (held? : TokenForm → Option α)
  (what : Expectation)

theorem oneMore_cons
    (token : Token)
    (rest : List Token) :
    oneMore source held? what (token :: rest) =
      if token.form = .comma then
        (held source held? what rest).map fun item => (some item.1, item.2)
      else .ok (none, token :: rest) := by
  rw [oneMore, accepted]
  split <;> rfl

/-- One more item takes its comma and its own token. -/
theorem length_lt_of_oneMore
    {tokens rest : List Token}
    {item : α}
    (read : oneMore source held? what tokens = .ok (some item, rest)) :
    rest.length < tokens.length := by
  cases tokens with
  | nil => cases read
  | cons comma behind =>
      rw [oneMore_cons] at read
      split at read
      · obtain ⟨⟨own, left⟩, readHeld, equal⟩ := map_eq_ok_iff.1 read
        cases equal
        cases behind with
        | nil => cases readHeld
        | cons token behind =>
            rw [held] at readHeld
            split at readHeld
            · cases readHeld
              simp only [List.length_cons]
              omega
            · cases readHeld
      · cases read

/-- Further items are one more item and the items after it, or none. -/
theorem moreHeld_eq (tokens : List Token) :
    moreHeld source held? what tokens = oneMore source held? what tokens >>= fun own =>
      match own.1 with
      | none => .ok ([], own.2)
      | some item =>
          (moreHeld source held? what own.2).map fun others => (item :: others.1, others.2) := by
  cases tokens with
  | nil => rfl
  | cons comma behind =>
      obtain ⟨form, position⟩ := comma
      cases form with
      | comma =>
          cases behind with
          | nil => rfl
          | cons token rest =>
              rw [oneMore_cons, if_pos rfl, moreHeld, held]
              cases held? token.form <;> rfl
      | _ => rfl

end

theorem name_eq (source : List Char) (what : Expectation) :
    name source what = held source Tape.name? what := by
  funext tokens
  cases tokens with
  | nil => rfl
  | cons token rest =>
      obtain ⟨form, position⟩ := token
      cases form <;> rfl

theorem literal_eq (source : List Char) :
    literal source = held source literal? .literal := by
  funext tokens
  cases tokens with
  | nil => rfl
  | cons token rest =>
      rw [literal, held]
      cases literal? token.form <;> rfl

theorem expect_eq
    (source : List Char)
    (form : TokenForm)
    (what : Expectation)
    (tokens : List Token) :
    (expect source form what tokens).map (fun rest => ((), rest)) =
      held source (fun own => if own = form then some () else none) what tokens := by
  cases tokens with
  | nil => rfl
  | cons token rest =>
      by_cases here : token.form = form
      · simp [expect, held, here, Except.map]
      · simp [expect, held, here, Except.map]

theorem moreNames_eq (source : List Char) :
    moreNames source = moreHeld source Tape.name? .attributeName := by
  funext tokens
  induction tokens using moreNames.induct with
  | case1 comma own position rest inductionHypothesis =>
      rw [moreNames, moreHeld, inductionHypothesis]
      rfl
  | case2 comma rest noName =>
      cases rest with
      | nil => rfl
      | cons token rest =>
          obtain ⟨form, position⟩ := token
          cases form with
          | name own => exact absurd rfl (noName own position rest)
          | _ => rfl
  | case3 tokens noNames noComma =>
      cases tokens with
      | nil => rfl
      | cons token rest =>
          obtain ⟨form, position⟩ := token
          cases form with
          | comma => exact absurd rfl (noComma position rest)
          | _ => rfl

theorem moreLiterals_eq (source : List Char) :
    moreLiterals source = moreHeld source literal? .literal := by
  funext tokens
  induction tokens using moreLiterals.induct with
  | case1 comma token rest item isItem inductionHypothesis =>
      rw [moreLiterals, moreHeld, isItem, inductionHypothesis]
  | case2 comma token rest noItem => rw [moreLiterals, moreHeld, noItem]
  | case3 comma => rfl
  | case4 tokens noItems noComma =>
      cases tokens with
      | nil => rfl
      | cons token rest =>
          obtain ⟨form, position⟩ := token
          cases form with
          | comma =>
              cases rest with
              | nil => exact absurd rfl (noComma position)
              | cons token rest => exact absurd rfl (noItems position token rest)
          | _ => rfl

theorem columns_eq (source : List Char) :
    columns source = fun tokens => accepted .star tokens >>= fun own =>
      if own.1 then .ok (.all, own.2)
      else (names source own.2).map fun names => (.listed names.1, names.2) := by
  funext tokens
  cases tokens with
  | nil => rfl
  | cons token rest =>
      obtain ⟨form, position⟩ := token
      cases form <;> rfl

theorem optionalCondition_eq (source : List Char) :
    optionalCondition source = fun tokens => accepted (.keyword .where) tokens >>= fun own =>
      if own.1 then (condition source own.2).map fun condition => (some condition.1, condition.2)
      else .ok (none, own.2) := by
  funext tokens
  cases tokens with
  | nil => rfl
  | cons token rest =>
      obtain ⟨form, position⟩ := token
      cases form with
      | keyword word => cases word <;> rfl
      | _ => rfl

/-- Read a statement with its optional semicolon, and nothing behind it. -/
def whole (source : List Char) (tokens : List Token) : Except Rejection (Read Statement) := do
  let (own, rest) ← statement source tokens
  let (_, rest) ← accepted .semicolon rest
  let (last, rest) ← looked source rest
  if last.form = .finish then return (own, rest)
  else .error (.ungrammatical .trailing (clauseFrom source last.position))

theorem ofTokens_eq
    (source : List Char)
    (tokens : List Token) :
    ofTokens source tokens = (whole source tokens).map Prod.fst := by
  have skipped : ∀ rest, ∃ taken, accepted .semicolon rest = .ok (taken, skipSemicolon rest) := by
    intro rest
    cases rest with
    | nil => exact ⟨false, rfl⟩
    | cons token behind =>
        obtain ⟨form, position⟩ := token
        cases form <;> exact ⟨_, rfl⟩
  rw [ofTokens, whole]
  cases statement source tokens with
  | error rejection => rfl
  | ok own =>
      obtain ⟨taken, isSkipped⟩ := skipped own.2
      simp only [looked, bind_of_ok rfl, bind_of_ok isSkipped]
      split <;> rfl

/-- A condition is what is passed up to its end, with the text between the tokens looked at before
and after that. -/
theorem condition_eq (source : List Char) :
    condition source = fun tokens => (do
      let (first, rest) ← looked source tokens
      let (own, rest) ← inside rest
      let (ending, rest) ← looked source rest
      match conditionOf own with
      | .ok condition => return (condition, rest)
      | .error fault =>
          .error (.malformedCondition fault
            (clauseBetween source first.position ending.position))) := by
  funext tokens
  simp only [condition, looked, inside, bind_of_ok rfl]
  cases conditionOf (tokens.takeWhile (!endsCondition ·)) <;> rfl

end Parser

namespace Tape

variable {α β : Type} {tape : Tape} {rounds : Nat}

/-! ## Steps and readers -/

namespace Follows

/-- Going on with a step follows a reader that goes on with the reader of the step, if that takes a
token whenever it gives something. There are enough rounds, since every one takes a token. -/
theorem collect
    {step : Reading (Option α)}
    {read : List Token → Except Rejection (Parser.Read (Option α))}
    {readAll : List Token → Except Rejection (Parser.Read (List α))}
    (enough : tape.tokens.length ≤ rounds)
    (follows : Follows tape rounds step read)
    (takes : ∀ tokens item rest, read tokens = .ok (some item, rest) →
      rest.length < tokens.length)
    (goesOn : ∀ tokens, readAll tokens = read tokens >>= fun own =>
      match own.1 with
      | none => .ok ([], own.2)
      | some item => (readAll own.2).map fun others => (item :: others.1, others.2)) :
    Follows tape rounds (Reading.collect step) readAll := by
  -- With fewer tokens from the cursor on, fewer rounds are enough.
  have within : ∀ limit start, start < tape.tokens.length → tape.tokens.length ≤ start + limit →
      EndsAs tape start (readAll (tape.tokens.drop start))
        ((Reading.collectWithin step limit).perform rounds start) := by
    intro limit
    induction limit with
    | zero => intro start onTape noRounds; omega
    | succ limit inductionHypothesis =>
        intro start onTape enoughRounds
        have ends := follows start onTape
        rw [goesOn, Reading.collectWithin]
        generalize ended : step.perform rounds start = outcome at ends
        generalize result : read (tape.tokens.drop start) = own at ends
        cases ends with
        | @ok value place placeOnTape forward =>
            rw [Reading.perform_bind_of_ok ended]
            cases value with
            | none => exact .ok placeOnTape forward
            | some item =>
                have shorter := takes _ _ _ result
                rw [List.length_drop, List.length_drop] at shorter
                have others := inductionHypothesis place placeOnTape (by omega)
                exact (others.map (item :: ·)).forward forward
        | rejected placeOnTape forward cites =>
            rw [Reading.perform_bind_of_error ended]
            exact .rejected placeOnTape forward cites
  intro start onTape
  have asked : (MonadReader.read : Reading Nat).perform rounds start = (.ok rounds, start) := rfl
  rw [Reading.collect, Reading.perform_bind_of_ok asked]
  exact within rounds start onTape (Nat.le_trans enough (Nat.le_add_left _ _))

theorem peek :
    Follows tape rounds tape.peek (Parser.looked tape.source) := by
  intro start onTape
  obtain ⟨token, here⟩ := exists_drop_eq_cons onTape
  have first : Parser.headToken tape.source (tape.tokens.drop start) = token := by
    rw [here]
    rfl
  rw [perform_peek here, ← first]
  exact .ok onTape (Nat.le_refl start)

section
variable (closed : tape.Closed)
include closed

theorem accept
    (form : TokenForm)
    (passes : form ≠ .finish) :
    Follows tape rounds (tape.accept form) (Parser.accepted form) := by
  intro start onTape
  obtain ⟨token, here⟩ := exists_drop_eq_cons onTape
  rw [Tape.accept, Reading.perform_bind_of_ok (perform_peek here), here, Parser.accepted]
  by_cases same : token.form = form
  · have tokenPasses : token.form ≠ .finish := same ▸ passes
    rw [if_pos same, if_pos same, Reading.perform_bind_of_ok (perform_advance here tokenPasses)]
    exact .ok (closed.behind here tokenPasses) (Nat.le_succ start)
  · rw [if_neg same, if_neg same, ← here]
    exact .ok onTape (Nat.le_refl start)

theorem expect
    (held? : TokenForm → Option α)
    (noEnd : held? .finish = none)
    (what : Expectation) :
    Follows tape rounds (tape.expect held? what) (Parser.held tape.source held? what) := by
  intro start onTape
  obtain ⟨token, here⟩ := exists_drop_eq_cons onTape
  rw [Tape.expect, Reading.perform_bind_of_ok (perform_peek here), here, Parser.held]
  cases isHeld : held? token.form with
  | some item =>
      have passes : token.form ≠ .finish := fun ends => by simp [ends, noEnd] at isHeld
      dsimp only
      rw [Reading.perform_bind_of_ok (perform_advance here passes)]
      exact .ok (closed.behind here passes) (Nat.le_succ start)
  | none =>
      exact .rejected onTape (Nat.le_refl start) (.ungrammatical _ (isExcerpt_clauseFrom _ _))

theorem oneMore
    (held? : TokenForm → Option α)
    (noEnd : held? .finish = none)
    (what : Expectation) :
    Follows tape rounds
      (do if ← tape.accept .comma then return some (← tape.expect held? what) else return none)
      (Parser.oneMore tape.source held? what) := by
  refine (accept closed .comma (by decide)).bind fun taken => ?_
  cases taken with
  | true => exact (expect closed held? noEnd what).map some
  | false => exact .pure none

theorem expectForm
    (form : TokenForm)
    (noEnd : form ≠ .finish)
    (what : Expectation) :
    Follows tape rounds (tape.expectForm form what) fun tokens =>
      (Parser.expect tape.source form what tokens).map fun rest => ((), rest) := by
  simp only [Parser.expect_eq]
  exact expect closed _ (if_neg noEnd.symm) what

theorem name (what : Expectation) :
    Follows tape rounds (tape.name what) (Parser.name tape.source what) := by
  rw [Parser.name_eq]
  exact expect closed _ rfl what

/-- A fixed form is read in front of something else. -/
theorem expectForm_bind
    (form : TokenForm)
    (noEnd : form ≠ .finish)
    (what : Expectation)
    {next : Reading α}
    {readNext : List Token → Except Rejection (Parser.Read α)}
    (nextFollows : Follows tape rounds next readNext) :
    Follows tape rounds (tape.expectForm form what >>= fun _ => next) fun tokens =>
      Parser.expect tape.source form what tokens >>= readNext := by
  have follows : Follows tape rounds (tape.expectForm form what >>= fun _ => next) fun tokens =>
      (Parser.expect tape.source form what tokens).map (fun rest => ((), rest)) >>= fun own =>
        readNext own.2 :=
    (expectForm closed form noEnd what).bind fun _ => nextFollows
  have same : ∀ tokens,
      ((Parser.expect tape.source form what tokens).map (fun rest => ((), rest)) >>= fun own =>
        readNext own.2) = Parser.expect tape.source form what tokens >>= readNext := by
    intro tokens
    cases Parser.expect tape.source form what tokens <;> rfl
  simpa only [same] using follows

/-! ## Lists and conditions -/

variable (enough : tape.tokens.length ≤ rounds)
include enough

theorem list
    (held? : TokenForm → Option α)
    (noEnd : held? .finish = none)
    (what : Expectation) :
    Follows tape rounds (tape.list (tape.expect held? what)) fun tokens => do
      let (first, rest) ← Parser.held tape.source held? what tokens
      let (others, rest) ← Parser.moreHeld tape.source held? what rest
      return (first :: others, rest) := by
  refine (expect closed held? noEnd what).bind fun first => ?_
  refine Follows.bind (.collect enough (oneMore closed held? noEnd what) ?_ ?_) fun others => .pure _
  · exact fun _ _ _ => Parser.length_lt_of_oneMore tape.source held? what
  · exact Parser.moreHeld_eq tape.source held? what

/-- The tokens up to the end of a condition are passed. -/
theorem upToEnding :
    Follows tape rounds tape.upToEnding Parser.inside := by
  have step : Follows tape rounds
      (do if Parser.endsCondition (← tape.peek) then return none
          else return some (← tape.advance))
      Parser.inside? := by
    intro start onTape
    obtain ⟨token, here⟩ := exists_drop_eq_cons onTape
    rw [Reading.perform_bind_of_ok (perform_peek here), here, Parser.inside?]
    cases ends : Parser.endsCondition token with
    | true =>
        rw [if_pos rfl, if_pos rfl, ← here]
        exact .ok onTape (Nat.le_refl start)
    | false =>
        have passes : token.form ≠ .finish := fun isEnd => by
          simp [Parser.endsCondition, isEnd] at ends
        rw [if_neg Bool.false_ne_true, if_neg Bool.false_ne_true,
          Reading.perform_bind_of_ok (perform_advance here passes)]
        exact .ok (closed.behind here passes) (Nat.le_succ start)
  refine .collect enough step (fun tokens token rest read => ?_) fun tokens => ?_
  · cases tokens with
    | nil => cases read
    | cons first behind =>
        rw [Parser.inside?] at read
        split at read
        · cases read
        · cases read
          exact Nat.lt_succ_self _
  · cases tokens with
    | nil => rfl
    | cons token rest =>
        rw [Parser.inside, Parser.inside?, List.takeWhile_cons, List.dropWhile_cons]
        cases Parser.endsCondition token <;> rfl

theorem names : Follows tape rounds tape.names (Parser.names tape.source) := by
  have follows := list closed enough Tape.name? rfl .attributeName
  rw [← Parser.name_eq, ← Parser.moreNames_eq] at follows
  exact follows

theorem literals : Follows tape rounds tape.literals (Parser.literals tape.source) := by
  have follows := list closed enough Parser.literal? rfl .literal
  rw [← Parser.literal_eq, ← Parser.moreLiterals_eq] at follows
  exact follows

theorem columns : Follows tape rounds tape.columns (Parser.columns tape.source) := by
  rw [Parser.columns_eq]
  refine (accept closed .star (by decide)).bind fun taken => ?_
  cases taken with
  | true => exact .pure _
  | false => exact (names closed enough).map Columns.listed

theorem condition : Follows tape rounds tape.condition (Parser.condition tape.source) := by
  rw [Parser.condition_eq]
  refine peek.bind fun first => (upToEnding closed enough).bind fun inside => ?_
  refine peek.bind fun ending => ?_
  dsimp only
  cases Parser.conditionOf inside with
  | ok condition => exact .pure condition
  | error fault => exact .reject (.malformedCondition fault (isExcerpt_clauseBetween _ _ _))

theorem optionalCondition :
    Follows tape rounds tape.optionalCondition (Parser.optionalCondition tape.source) := by
  rw [Parser.optionalCondition_eq]
  refine (accept closed (.keyword .where) (by decide)).bind fun taken => ?_
  cases taken with
  | true => exact (condition closed enough).map some
  | false => exact .pure none

/-! ## Statements -/

theorem select :
    Follows tape rounds tape.select fun tokens =>
      Parser.expectKeyword tape.source .select tokens >>= Parser.select tape.source := by
  refine expectForm_bind closed _ (by decide) _ ?_
  refine (columns closed enough).bind fun columns => ?_
  refine expectForm_bind closed _ (by decide) _ ?_
  refine (name closed _).bind fun table => ?_
  exact (optionalCondition closed enough).bind fun condition => .pure _

theorem insert :
    Follows tape rounds tape.insert fun tokens =>
      Parser.expectKeyword tape.source .insert tokens >>= Parser.insert tape.source := by
  refine expectForm_bind closed _ (by decide) _ ?_
  refine expectForm_bind closed _ (by decide) _ ?_
  refine (name closed _).bind fun table => ?_
  refine expectForm_bind closed _ (by decide) _ ?_
  refine (names closed enough).bind fun attributes => ?_
  refine expectForm_bind closed _ (by decide) _ ?_
  refine expectForm_bind closed _ (by decide) _ ?_
  refine expectForm_bind closed _ (by decide) _ ?_
  refine (literals closed enough).bind fun literals => ?_
  exact expectForm_bind closed _ (by decide) _ (.pure _)

theorem delete :
    Follows tape rounds tape.delete fun tokens =>
      Parser.expectKeyword tape.source .delete tokens >>= Parser.delete tape.source := by
  refine expectForm_bind closed _ (by decide) _ ?_
  refine expectForm_bind closed _ (by decide) _ ?_
  refine (name closed _).bind fun table => ?_
  exact (optionalCondition closed enough).bind fun condition => .pure _

theorem statement : Follows tape rounds tape.statement (Parser.statement tape.source) := by
  intro start onTape
  obtain ⟨⟨form, position⟩, here⟩ := exists_drop_eq_cons onTape
  rw [Tape.statement, Reading.perform_bind_of_ok (perform_peek here), here]
  have unsupported : EndsAs tape start
      (.error (.ungrammatical .unsupported (clauseFrom tape.source 0)))
      ((throw (.rejected (.ungrammatical .unsupported (clauseFrom tape.source 0))) :
        Reading Statement).perform rounds start) :=
    .rejected onTape (Nat.le_refl start) (.ungrammatical _ (isExcerpt_clauseFrom _ _))
  cases form with
  | keyword word =>
      cases word with
      | select => exact (select closed enough).at_token here onTape
      | insert => exact (insert closed enough).at_token here onTape
      | delete => exact (delete closed enough).at_token here onTape
      | _ => exact unsupported
  | _ => exact unsupported

theorem parse : Follows tape rounds tape.parse (Parser.whole tape.source) := by
  refine (statement closed enough).bind fun own => ?_
  refine (accept closed .semicolon (by decide)).bind fun skipped => ?_
  refine peek.bind fun last => ?_
  dsimp only
  split
  · exact .pure own
  · exact .reject (.ungrammatical _ (isExcerpt_clauseFrom _ _))

end

end Follows

section
variable (closed : tape.Closed)
include closed

theorem endsAs_whole
    (enough : tape.tokens.length ≤ rounds) :
    EndsAs tape 0 (Parser.whole tape.source tape.tokens) (tape.parse.perform rounds 0) := by
  have nonempty : 0 < tape.tokens.length := by
    obtain ⟨body, last, split, _⟩ := closed
    simp [split]
  simpa only [List.drop_zero] using Follows.parse closed enough 0 nonempty

/-- Reading through a cursor ends, with the statement that the tokens make up or with the same
rejection, and with the cursor on the tape. -/
theorem perform_parse
    (enough : tape.tokens.length ≤ rounds) :
    ∃ place < tape.tokens.length, tape.parse.perform rounds 0 =
      ((Parser.ofTokens tape.source tape.tokens).mapError .rejected, place) := by
  have ends := endsAs_whole closed enough
  rw [Parser.ofTokens_eq]
  generalize tape.parse.perform rounds 0 = outcome at ends ⊢
  generalize Parser.whole tape.source tape.tokens = result at ends ⊢
  cases ends with
  | ok onTape => exact ⟨_, onTape, rfl⟩
  | rejected onTape => exact ⟨_, onTape, rfl⟩

/-- The rejection of the tokens on the tape shows a part of the text. -/
theorem cites_of_ofTokens
    {rejection : Rejection}
    (rejected : Parser.ofTokens tape.source tape.tokens = .error rejection) :
    rejection.Cites tape.source := by
  have ends := endsAs_whole closed (Nat.le_refl _)
  rw [Parser.ofTokens_eq] at rejected
  rw [map_eq_error_iff.1 rejected] at ends
  generalize tape.parse.perform _ 0 = outcome at ends
  cases ends with
  | rejected _ _ cites => exact cites

end

end Tape
end Query
end FlatTables
