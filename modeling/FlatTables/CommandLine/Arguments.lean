import FlatTables.Decimal.Text
import FlatTables.Storage.Path
import FlatTables.Text.Quoted

/-!
# Command-line arguments

Options may stand anywhere, may be abbreviated as long as that is clear, and may have their value
attached; of an option given repeatedly the last value counts. After a pair of dashes everything
is positional. There is room for one positional argument.
-/

namespace FlatTables
namespace CommandLine

/-- An option. -/
inductive OptionName
  | help
  | command
  | file
  | serve
  | host
  | portNumber
  | logLevel
  deriving DecidableEq, Repr

namespace OptionName

/-- All spellings of options. -/
def spellings : List (String × OptionName) :=
  [("-h", .help), ("--help", .help), ("-c", .command), ("--command", .command), ("-f", .file),
   ("--file", .file), ("--serve", .serve), ("--host", .host), ("--port", .portNumber),
   ("--log-level", .logLevel)]

/-- The name of an option in messages: all its spellings. -/
def display (option : OptionName) : String :=
  String.intercalate "/" ((spellings.filter (·.2 = option)).map Prod.fst)

/-- The option is followed by a value. -/
def takesValue : OptionName → Bool
  | .help | .serve => false
  | _ => true

end OptionName

/-- Why arguments are refused. -/
inductive UsageFault
  | ambiguous (given : String) (matching : List String)
  | missingValue (option : OptionName)
  | unwantedValue (option : OptionName) (value : String)
  | notInteger (option : OptionName) (value : String)
  | noChoice (option : OptionName) (value : String) (choices : List String)
  | unrecognized (arguments : List String)
  deriving DecidableEq, Repr

/-- The wording of a usage fault. -/
def UsageFault.message : UsageFault → String
  | .ambiguous given matching =>
      "ambiguous option: " ++ given ++ " could match " ++ String.intercalate ", " matching
  | .missingValue option => "argument " ++ option.display ++ ": expected one argument"
  | .unwantedValue option value =>
      "argument " ++ option.display ++ ": ignored explicit argument " ++ Text.quoted value
  | .notInteger option value =>
      "argument " ++ option.display ++ ": invalid int value: " ++ Text.quoted value
  | .noChoice option value choices =>
      "argument " ++ option.display ++ ": invalid choice: " ++ Text.quoted value
        ++ " (choose from " ++ String.intercalate ", " (choices.map Text.quoted) ++ ")"
  | .unrecognized arguments =>
      "unrecognized arguments: " ++ String.intercalate " " arguments

/-- What the arguments ask for. -/
structure Arguments where
  directory : Option Storage.Path := none
  command : Option String := none
  file : Option Storage.Path := none
  serve : Bool := false
  host : Option String := none
  portNumber : Option Int := none
  logLevel : Option String := none
  deriving DecidableEq, Repr

/-! ## Telling options from positional arguments -/

/-- What is attached to an option, either with an equality sign or directly. -/
structure Attachment where
  withSign : Bool
  text : List Char
  deriving DecidableEq, Repr

/-- An argument by its role. An option may be unknown, and may have something attached. -/
inductive Piece
  | positional (text : String)
  | separator
  | known (option : OptionName) (short : Bool) (attached : Option Attachment)
  | unknown (text : String)
  deriving DecidableEq, Repr

/-- The argument that ends all options. -/
def separatorText : String := "--"

/-- The text before the first equality sign, and what is attached after it. -/
def splitAtSign (s : List Char) : List Char × Option Attachment :=
  match s.dropWhile (· ≠ '=') with
  | _ :: value => (s.takeWhile (· ≠ '='), some ⟨true, value⟩)
  | [] => (s, none)

/-- An option as it was spelt. -/
def spelt (spelling : String) (option : OptionName) (attached : Option Attachment) : Piece :=
  .known option (spelling.length = 2) attached

/-- The options a text may mean if it is no full spelling: those a long name abbreviates, or the
one a short name with an attached value starts with. -/
def candidates (s : List Char) : List (String × Piece) :=
  if ['-', '-'].isPrefixOf s then
    let (name, attached) := splitAtSign s
    (OptionName.spellings.filter fun (spelling, _) => name.isPrefixOf spelling.toList).map
      fun (spelling, option) => (spelling, spelt spelling option attached)
  else
    (OptionName.spellings.filter fun (spelling, _) => spelling.toList = s.take 2).map
      fun (spelling, option) => (spelling, spelt spelling option (some ⟨false, s.drop 2⟩))

/-- A text of digits, at least one. -/
def isDigits (s : List Char) : Bool :=
  s ≠ [] && s.all Text.isDigit

/-- The text is a negative number, perhaps with a line feed at its end. -/
def isNegativeNumber (s : List Char) : Bool :=
  match if s.getLast? = some '\n' then s.dropLast else s with
  | '-' :: digits =>
      isDigits digits ||
        match digits.dropWhile Text.isDigit with
        | '.' :: fraction => isDigits fraction
        | _ => false
  | _ => false

/-- The role of an argument that is no full spelling of an option, with or without a value. -/
def pieceOfCandidates (text : String) : Except UsageFault Piece :=
  match candidates text.toList with
  | [(_, piece)] => .ok piece
  | [] =>
      if isNegativeNumber text.toList ∨ ' ' ∈ text.toList then .ok (.positional text)
      else .ok (.unknown text)
  | several => .error (.ambiguous text (several.map Prod.fst))

/-- The role of an argument before any separator. -/
def pieceOf (text : String) : Except UsageFault Piece :=
  if text.toList.head? ≠ some '-' then .ok (.positional text)
  else
    match OptionName.spellings.lookup text with
    | some option => .ok (spelt text option none)
    | none =>
        if text.length = 1 then .ok (.positional text)
        else
          let (name, attached) := splitAtSign text.toList
          let spelling := String.ofList name
          match OptionName.spellings.lookup spelling, attached with
          | some option, some attached => .ok (spelt spelling option (some attached))
          | _, _ => pieceOfCandidates text

/-- The roles of all arguments. -/
def piecesOf : List String → Except UsageFault (List Piece)
  | [] => .ok []
  | text :: rest =>
      if text = separatorText then .ok (.separator :: rest.map .positional)
      else do
        let piece ← pieceOf text
        let others ← piecesOf rest
        return piece :: others

/-! ## Values -/

/-- The log levels that can be asked for. -/
def logLevels : List String :=
  ["DEBUG", "INFO", "WARNING", "ERROR", "CRITICAL"]

/-- Read an integer with blanks around it and underscores between its digits. -/
def readNumber? (s : String) : Option Int :=
  Decimal.readInteger? (Decimal.joinDigits false (Text.trimChars s.toList))

/-- Record the value of an option. -/
def setValue (arguments : Arguments) (option : OptionName) (value : String) :
    Except UsageFault Arguments :=
  match option with
  | .help => .ok arguments
  | .serve => .ok { arguments with serve := true }
  | .command => .ok { arguments with command := some value }
  | .file => .ok { arguments with file := some (.ofString value) }
  | .host => .ok { arguments with host := some value }
  | .portNumber =>
      match readNumber? value with
      | some n => .ok { arguments with portNumber := some n }
      | none => .error (.notInteger option value)
  | .logLevel =>
      if value ∈ logLevels then .ok { arguments with logLevel := some value }
      else .error (.noChoice option value logLevels)

/-! ## Options -/

/-- An option and its value, which is empty if it takes none. -/
abbrev Assignment := OptionName × String

/-- An option with nothing attached takes the next piece as its value if it needs one. -/
def separateValue (option : OptionName) (pieces : List Piece) :
    Except UsageFault (List Assignment × List Piece) :=
  if option.takesValue then
    match pieces with
    | .positional value :: rest => .ok ([(option, value)], rest)
    | _ => .error (.missingValue option)
  else .ok ([(option, "")], pieces)

/-- What is attached to a short option after the letter of another one. -/
def furtherAttachment : List Char → Option Attachment
  | [] => none
  | '=' :: value => some ⟨true, value⟩
  | text => some ⟨false, text⟩

/-- The options in one argument: what is attached to an option is its value, or further short
options if it takes none. The pieces come back less a value that was taken from them. -/
def assignments (option : OptionName) (short : Bool) (pieces : List Piece)
    (attached : Option Attachment) : Except UsageFault (List Assignment × List Piece) :=
  match attached with
  | none => separateValue option pieces
  | some ⟨withSign, text⟩ =>
      if option.takesValue then .ok ([(option, String.ofList text)], pieces)
      else
        match text with
        | letter :: more =>
            if short && !withSign && letter != '-' then
              match OptionName.spellings.lookup (String.ofList ['-', letter]) with
              | none => .ok ([(option, "")], pieces)
              | some next =>
                  (assignments next true pieces (furtherAttachment more)).map
                    fun (given, rest) => ((option, "") :: given, rest)
            else .error (.unwantedValue option (String.ofList text))
        | [] => .error (.unwantedValue option "")
termination_by (attached.map fun attachment => attachment.text.length + 1).getD 0
decreasing_by
  cases more with
  | nil => simp [furtherAttachment]
  | cons c rest =>
      unfold furtherAttachment
      split <;> simp_all

/-! ## Reading all arguments -/

/-- What the arguments come to: help is asked for, or a run is. -/
inductive Reading
  | help
  | run (arguments : Arguments)
  deriving DecidableEq, Repr

/-- The state of reading: what has been read, whether the positional argument has been seen, and
the arguments nothing is known about. -/
structure State where
  arguments : Arguments := {}
  settled : Bool := false
  strange : List String := []

/-- The text of a piece that stands on its own. -/
def Piece.text : Piece → String
  | .positional text | .unknown text => text
  | .separator | .known .. => separatorText

/-- Record assignments; a request for help ends the reading. -/
def assign (arguments : Arguments) : List Assignment → Except UsageFault (Option Arguments)
  | [] => .ok (some arguments)
  | (.help, _) :: _ => .ok none
  | (option, value) :: rest => do
      let arguments ← setValue arguments option value
      assign arguments rest

/-- The pieces hold a further option. -/
def hasOption (pieces : List Piece) : Bool :=
  pieces.any fun
    | .known .. | .unknown _ => true
    | _ => false

/-- Split the pieces taken by the positional argument off the pieces after all options:
separators and at most one text. -/
def takeDirectory (pieces : List Piece) : List String × List Piece :=
  let isSeparator (piece : Piece) : Bool := piece = .separator
  let leading := pieces.takeWhile isSeparator
  match pieces.dropWhile isSeparator with
  | .positional text :: rest =>
      ((leading.map Piece.text) ++ text :: (rest.takeWhile isSeparator).map Piece.text,
        rest.dropWhile isSeparator)
  | rest => (leading.map Piece.text, rest)

/-- The value of the positional argument among the texts it has taken; the first pair of dashes
is taken away. -/
def directoryOf (taken : List String) : Option Storage.Path :=
  (taken.erase separatorText).head?.map .ofString

/-- Read the pieces after all options. -/
def finish (state : State) (pieces : List Piece) : Except UsageFault Reading :=
  let (arguments, rest) :=
    if state.settled then (state.arguments, pieces)
    else
      let (taken, rest) := takeDirectory pieces
      ({ state.arguments with directory := directoryOf taken }, rest)
  match state.strange ++ rest.map Piece.text with
  | [] => .ok (.run arguments)
  | strange => .error (.unrecognized strange)

/-- Note a positional argument that stands before an option. -/
def State.place (state : State) (text : String) : State :=
  if state.settled then { state with strange := state.strange ++ [text] }
  else
    { state with
      settled := true
      arguments := { state.arguments with directory := some (.ofString text) } }

theorem length_separateValue_le {option : OptionName} {pieces rest : List Piece}
    {given : List Assignment} (read : separateValue option pieces = .ok (given, rest)) :
    rest.length ≤ pieces.length := by
  unfold separateValue at read
  split at read
  · split at read
    · cases read
      exact Nat.le_succ _
    · cases read
  · cases read
    exact Nat.le_refl _

theorem length_assignments_le {option : OptionName} {short : Bool} {pieces rest : List Piece}
    {attached : Option Attachment} {given : List Assignment}
    (read : assignments option short pieces attached = .ok (given, rest)) :
    rest.length ≤ pieces.length := by
  fun_induction assignments option short pieces attached generalizing given with
  | case1 => exact length_separateValue_le read
  | case4 option short withSign _ letter more _ other _ inductionHypothesis =>
      cases others : assignments other true pieces (furtherAttachment more) with
      | error fault =>
          rw [others] at read
          cases read
      | ok pair =>
          rw [others] at read
          cases read
          exact inductionHypothesis others
  | _ => cases read <;> exact Nat.le_refl _

/-- Read pieces in order. -/
def readPieces (state : State) (pieces : List Piece) : Except UsageFault Reading :=
  match pieces with
  | .known option short attached :: rest =>
      match read : assignments option short rest attached with
      | .error fault => .error fault
      | .ok (given, others) =>
          have _shorter := length_assignments_le read
          match assign state.arguments given with
          | .error fault => .error fault
          | .ok none => .ok .help
          | .ok (some arguments) => readPieces { state with arguments } others
  | .unknown text :: rest => readPieces { state with strange := state.strange ++ [text] } rest
  | .positional text :: rest =>
      if hasOption rest then readPieces (state.place text) rest
      else finish state (.positional text :: rest)
  | pieces => finish state pieces
termination_by pieces.length

/-- Read the arguments of a command line. -/
def read (arguments : List String) : Except UsageFault Reading := do
  readPieces {} (← piecesOf arguments)

end CommandLine
end FlatTables
