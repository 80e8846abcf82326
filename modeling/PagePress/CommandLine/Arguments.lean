import PagePress.Text.Digit
import PagePress.Text.Quoted
import PagePress.Text.Split

/-!
The arguments of the command line. Options may stand anywhere, may be cut short as long as they
stay unambiguous, and take a value from behind an equals sign or from the next word; behind two
dashes no word is an option. The other words are taken for the arguments that have no name, in
order; words too many are refused after everything else. Two dashes where a value is due are
dropped, and nothing is left of the value.
-/

set_option autoImplicit false

namespace PagePress

inductive OptionName
  | help
  | config
  | encoding
  | lineMap
  | save
  | logLevel
  deriving DecidableEq, Repr

def OptionName.spellings : List (String × OptionName) := [
  ("-h", .help), ("--help", .help), ("--config", .config), ("--encoding", .encoding),
  ("--line-map", .lineMap), ("--save", .save), ("--log-level", .logLevel)]

def OptionName.shown (o : OptionName) : String :=
  "/".intercalate ((spellings.filter fun (_, other) => other == o).map (·.1))

/-- What is given for an argument: a word, or `none` for two dashes that were dropped. -/
abbrev Given := Option String

/-- What the command line asks for. Only the arguments that every run needs tell a dropped word from
one that was never there. -/
structure Arguments where
  source : String
  unit : Given
  config : Option String
  encoding : Given
  lineMap : Option String
  save : Option String
  logLevel : Given
  deriving DecidableEq, Repr

inductive UsageError
  | ambiguous (word : String) (spellings : List String)
  | missingValue (option : OptionName)
  | ignoredValue (option : OptionName) (value : String)
  | required (names : List String)
  | unrecognized (words : List String)
  deriving DecidableEq, Repr

def UsageError.message : UsageError → String
  | .ambiguous word spellings =>
    "ambiguous option: " ++ word ++ " could match " ++ ", ".intercalate spellings
  | .missingValue option => "argument " ++ option.shown ++ ": expected one argument"
  | .ignoredValue option value =>
    "argument " ++ option.shown ++ ": ignored explicit argument " ++ Text.Quoted.quote value
  | .required names => "the following arguments are required: " ++ ", ".intercalate names
  | .unrecognized words => "unrecognized arguments: " ++ " ".intercalate words

/-- What a word of the command line is. -/
inductive WordKind
  | plain
  | separator
  | option (name : OptionName) (value : Option String)
  | unknown
  deriving DecidableEq, Repr

namespace Arguments

open Text.Split (startsWith)

def cutAtEquals (word : String) : String × Option String :=
  let front := word.toList.takeWhile (· != '=')
  match word.toList.drop front.length with
  | [] => (word, none)
  | _ :: value => (String.ofList front, some (String.ofList value))

def optionOf? (spelling : String) : Option OptionName := OptionName.spellings.lookup spelling

/-- The options that a word may be short for, each with its spelling and the value in the word. -/
def candidates (word : String) : List (String × OptionName × Option String) :=
  if startsWith word "--" then
    let (front, value) := cutAtEquals word
    (OptionName.spellings.filter fun (spelling, _) => startsWith spelling front).map
      fun (spelling, name) => (spelling, name, value)
  else if startsWith word "-h" then
    [("-h", .help, some (String.ofList (word.toList.drop 2)))]
  else []

/-- Whether a word is a negative number, which is no option. -/
def isNegativeNumber (word : String) : Bool :=
  let isNumber (cs : List Char) : Bool := !cs.isEmpty && cs.all Text.Digit.isDecimal
  match word.toList with
  | '-' :: body =>
    let body := if body.getLast? = some '\n' then body.dropLast else body
    match Text.Split.parts '.' body with
    | [whole] => isNumber whole
    | [whole, fraction] => whole.all Text.Digit.isDecimal && isNumber fraction
    | _ => false
  | _ => false

/-- What a word is that starts with a dash and is no option as it stands. -/
def kindOfShort (word : String) : Except UsageError WordKind :=
  match candidates word with
  | [(_, name, value)] => .ok (.option name value)
  | [] =>
    if isNegativeNumber word || word.toList.contains ' ' then .ok .plain else .ok .unknown
  | several => .error (.ambiguous word (several.map (·.1)))

def kindOf (word : String) : Except UsageError WordKind :=
  if !startsWith word "-" then .ok .plain
  else
    match optionOf? word with
    | some name => .ok (.option name none)
    | none =>
      if word = "-" then .ok .plain
      else
        match cutAtEquals word with
        | (spelling, some value) =>
          match optionOf? spelling with
          | some name => .ok (.option name (some value))
          | none => kindOfShort word
        | (_, none) => kindOfShort word

/-- What the words are, one by one; behind two dashes all are plain. -/
def kinds : List String → Except UsageError (List (String × WordKind))
  | [] => .ok []
  | word :: rest =>
    if word = "--" then .ok ((word, .separator) :: rest.map fun word => (word, .plain))
    else do
      let kind ← kindOf word
      let rest ← kinds rest
      pure ((word, kind) :: rest)

/-- What was taken from the words so far: the plain ones, the options in the order in which they
were given, and the words too many. -/
structure Taken where
  plain : List Given
  options : List (OptionName × Given)
  extra : List String
  deriving DecidableEq, Repr

def plainNames : List String := ["source", "unit_name"]

def Taken.isOpen (t : Taken) : Bool := t.plain.length < plainNames.length

def given (word : String) : Given := if word = "--" then none else some word

def Taken.addPlain (t : Taken) (word : Given) : Taken := { t with plain := t.plain ++ [word] }

def Taken.addExtra (t : Taken) (word : String) : Taken := { t with extra := t.extra ++ [word] }

def Taken.addOption (t : Taken) (name : OptionName) (value : Given) : Taken :=
  { t with options := t.options ++ [(name, value)] }

def withoutSeparator : List (String × WordKind) → List (String × WordKind)
  | (_, .separator) :: rest => rest
  | words => words

private theorem length_withoutSeparator (words : List (String × WordKind)) :
    (withoutSeparator words).length ≤ words.length := by
  unfold withoutSeparator
  split <;> simp

/-- What the option for help makes of a value: none may follow it, but it may itself be repeated in
its short form. -/
def helpError? (word value : String) : Option UsageError :=
  let rest := value.toList.dropWhile (· == 'h')
  if startsWith word "--" || value = "" then some (.ignoredValue .help value)
  else if rest.isEmpty then none
  else some (.ignoredValue .help (String.ofList rest))

/-- Takes the words one after the other. Two dashes go with the plain word behind or in front of
them. `none` stands for a command line that asks for help. -/
def take : List (String × WordKind) → Taken → Except UsageError (Option Taken)
  | [], t => .ok (some t)
  | (word, .plain) :: rest, t =>
    if t.isOpen then take (withoutSeparator rest) (t.addPlain (given word))
    else take rest (t.addExtra word)
  | (dashes, .separator) :: rest, t =>
    match rest with
    | (word, .plain) :: rest =>
      if t.isOpen then take rest (t.addPlain (some word))
      else take rest ((t.addExtra dashes).addExtra word)
    | rest => take rest (t.addExtra dashes)
  | (word, .unknown) :: rest, t => take rest (t.addExtra word)
  | (word, .option .help value) :: _, _ =>
    match value.bind (helpError? word) with
    | none => .ok none
    | some error => .error error
  | (_, .option name (some value)) :: rest, t => take rest (t.addOption name (given value))
  | (_, .option name none) :: rest, t =>
    match rest with
    | (value, .plain) :: rest => take rest (t.addOption name (some value))
    | _ => .error (.missingValue name)
termination_by words => words.length
decreasing_by
  all_goals have shorter := length_withoutSeparator rest
  all_goals (simp_all only [List.length_cons]; omega)

/-- The value of an option: the last one that was given. -/
def Taken.option? (t : Taken) (name : OptionName) : Option Given :=
  ((t.options.reverse.find? fun (other, _) => other == name)).map (·.2)

/-- The arguments that were taken. Two dashes are dropped in front of another argument only if they
are not the first, so the first is always a word. -/
def ofTaken (t : Taken) : Except UsageError Arguments :=
  match t.plain with
  | source :: unit :: _ =>
    if t.extra.isEmpty then
      .ok {
        source := source.getD "--"
        unit
        config := (t.option? .config).join
        encoding := (t.option? .encoding).getD (some "utf-8")
        lineMap := (t.option? .lineMap).join
        save := (t.option? .save).join
        logLevel := (t.option? .logLevel).getD (some "WARNING") }
    else .error (.unrecognized t.extra)
  | taken => .error (.required (plainNames.drop taken.length))

/-- Reads the words of a command line. `none` stands for one that asks for help. -/
def read (words : List String) : Except UsageError (Option Arguments) := do
  let words ← kinds words
  match ← take words ⟨[], [], []⟩ with
  | none => pure none
  | some taken => some <$> ofTaken taken

end Arguments

end PagePress
