import SelectQuery.CommandLine.Program

/-!
# A reader of options

A reader of arguments to run the program with. Options may stand anywhere among the words of the query. They
are settled one by one in the order in which they stand, so that a request for the version counts only if
nothing is wrong before it. All that the program relies on is that `Options.read` takes arguments without a
hyphen for words (`Options.read_spec`).

A reader of log filters stands beside it (`LogFilter.read`). It keeps an empty log.
-/

namespace SelectQuery.CommandLine

namespace Options

/-! ## Arguments -/

/-- What the options with a value set. -/
inductive Setting where
  | format
  | logLevel
  deriving DecidableEq

/-- What a single argument is by its form. -/
inductive Argument where
  | word (text : String)
  /-- Two hyphens: all arguments behind them are words. -/
  | endOfOptions
  | help
  | version
  /-- An option, with its value if the argument holds one behind an equals sign. -/
  | setting (s : Setting) (value? : Option String)
  /-- An argument that looks like an option and is none. -/
  | unknown (text : String)
  deriving DecidableEq

namespace Argument

/-- The option with a long name, if there is one. -/
def ofLong? (name : String) (value? : Option String) : Option Argument :=
  match name, value? with
  | "format", _ => some (.setting .format value?)
  | "log-level", _ => some (.setting .logLevel value?)
  | "help", none => some .help
  | "version", none => some .version
  | _, _ => none

/-- Tells the form of an argument. A single hyphen is a word. Behind two hyphens stands a long name, perhaps
with a value; behind one hyphen stand options of a letter each. -/
def ofString (arg : String) : Argument :=
  match arg.toList with
  | ['-'] => .word arg
  | ['-', '-'] => .endOfOptions
  | '-' :: '-' :: long =>
    let name := String.ofList (long.takeWhile (· != '='))
    let value? := (long.dropWhile (· != '=')).tail?.map String.ofList
    (ofLong? name value?).getD (.unknown arg)
  | '-' :: 'h' :: _ => .help
  | '-' :: 'V' :: _ => .version
  | '-' :: _ => .unknown arg
  | _ => .word arg

theorem ofString_eq_word {arg : String} (h : arg.toList.head? ≠ some '-') : ofString arg = .word arg := by
  unfold ofString
  split <;> simp_all

end Argument

/-- Can an argument be the value of the option before it? Not if it looks like an option itself. -/
def isValue (arg : String) : Bool :=
  match Argument.ofString arg with
  | .word _ => true
  | _ => false

/-! ## Errors -/

/-- Why the arguments cannot be understood. -/
inductive UsageError where
  | unknownArgument (text : String)
  | missingValue (s : Setting)
  | invalidValue (s : Setting) (value : String)
  | repeated (s : Setting)
  deriving DecidableEq

def Setting.name : Setting → String
  | .format => "--format"
  | .logLevel => "--log-level"

def UsageError.message : UsageError → String
  | .unknownArgument text => "unknown argument " ++ text
  | .missingValue s => "missing value for " ++ s.name
  | .invalidValue s value => "invalid value for " ++ s.name ++ ": " ++ value
  | .repeated s => s.name ++ " given more than once"

def UsageError.exit (e : UsageError) : Exit := ⟨2, "", "error: " ++ e.message ++ "\n"⟩

/-! ## Reading -/

def versionText : String := "sqlselect 0.1.0"

def helpText : String :=
  "Parses a SELECT statement and prints it back in canonical form\n\n" ++
    "Usage: sqlselect [--format text|json] [--log-level LEVEL] [QUERY]..."

/-- What has been read off the arguments so far. -/
structure Settings where
  format : Option Format
  logLevel : Option String
  words : List String
  deriving DecidableEq

def formatOfName? : String → Option Format
  | "text" => some .text
  | "json" => some .json
  | _ => none

namespace Settings

def initial : Settings := ⟨none, none, []⟩

def addWords (s : Settings) (words : List String) : Settings := { s with words := s.words ++ words }

/-- Sets a value, which can be done only once. -/
def set (s : Settings) (setting : Setting) (value : String) : Except UsageError Settings :=
  match setting, s.format, s.logLevel with
  | .format, none, _ =>
    match formatOfName? value with
    | some format => .ok { s with format := some format }
    | none => .error (.invalidValue .format value)
  | .logLevel, _, none => .ok { s with logLevel := some value }
  | setting, _, _ => .error (.repeated setting)

def request (s : Settings) : Request :=
  ⟨s.format.getD .text, s.logLevel.getD defaultLevel, s.words⟩

/-- Reads the arguments that are left. -/
def read (s : Settings) : List String → Except Exit Request
  | [] => .ok s.request
  | arg :: args =>
    match Argument.ofString arg with
    | .word text => (s.addWords [text]).read args
    | .endOfOptions => .ok (s.addWords args).request
    | .help => .error ⟨0, helpText ++ "\n", ""⟩
    | .version => .error ⟨0, versionText ++ "\n", ""⟩
    | .unknown text => .error (UsageError.unknownArgument text).exit
    | .setting setting (some value) =>
      match s.set setting value with
      | .ok s' => s'.read args
      | .error e => .error e.exit
    | .setting setting none =>
      match args with
      | [] => .error (UsageError.missingValue setting).exit
      | value :: args =>
        if isValue value then
          match s.set setting value with
          | .ok s' => s'.read args
          | .error e => .error e.exit
        else .error (UsageError.missingValue setting).exit

theorem read_words {s : Settings} {words : List String}
    (h : ∀ word ∈ words, word.toList.head? ≠ some '-') :
    s.read words = .ok (s.addWords words).request := by
  induction words generalizing s with
  | nil => simp [read, addWords]
  | cons word words ih =>
    obtain ⟨hword, hwords⟩ := List.forall_mem_cons.1 h
    rw [read, Argument.ofString_eq_word hword]
    simpa [addWords] using ih (s := s.addWords [word]) hwords

end Settings

def read (args : List String) : Except Exit Request := Settings.initial.read args

theorem read_spec : ReaderSpec read where
  words _ h := Settings.read_words h

end Options

namespace LogFilter

/-- Each level by its name and by its number. -/
def levels : List String :=
  ["off", "error", "warn", "info", "debug", "trace", "0", "1", "2", "3", "4", "5"]

/-- Are the characters a directive of a filter? A directive tells what it is about, perhaps with brackets,
and may set a level for it behind an equals sign. A level may also stand alone. -/
def isDirective (cs : List Char) : Bool :=
  let behindBrackets := (cs.reverse.takeWhile (· != ']')).reverse
  match behindBrackets.dropWhile (· != '=') with
  | [] => true
  | _ :: level => level.isEmpty || levels.contains (String.ofList (level.map Char.toLower))

/-- Reads a list of directives with commas between them. Whatever they say, nothing is put into the log. -/
def read (description : String) : Except String Filter :=
  if (description.toList.splitOn ',').all isDirective then .ok fun _ => false
  else .error "invalid filter directive"

theorem read_spec : FilterSpec read where
  default := ⟨_, if_pos (by decide +kernel), fun _ => rfl⟩

end LogFilter

end SelectQuery.CommandLine
