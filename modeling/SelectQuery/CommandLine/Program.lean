import SelectQuery.Statement.Json
import SelectQuery.Statement.Read

/-!
# The program on its host

The program takes the words of a query from its arguments and writes the statement, as query text or as JSON
(`Host.run`). It neither reads its arguments itself nor the description of a log filter, and it does not put
the lines of the log together. For these it relies on its host, which is a parameter here. What may be relied
on is said beside it (`ReaderSpec`, `FilterSpec`).
-/

namespace SelectQuery.CommandLine

/-! ## Requests -/

inductive Format where
  | text
  | json
  deriving DecidableEq

/-- What the arguments ask for (`Cli`). -/
structure Request where
  format : Format
  /-- The log filter, unless the surroundings set one. -/
  logLevel : String
  words : List String
  deriving DecidableEq

def defaultLevel : String := "warn"

def Request.ofWords (words : List String) : Request := ⟨.text, defaultLevel, words⟩

/-- The text that the words of a query make up (`join_args`). A space follows every word, the last one
too. -/
def queryText (words : List String) : String := String.join (words.map (· ++ " "))

/-! ## The log -/

/-- What is logged, with the part of the program that it comes from. -/
structure Record extends LogRecord where
  target : String
  deriving DecidableEq

/-- The records of a query that is read: the query itself, which `main` logs, and then what the reading
logs. -/
def records (query : String) : List Record :=
  ⟨⟨.debug, "parsing", [("sql", .text query)]⟩, "sqlselect"⟩ ::
    (Statement.log query).map (⟨·, "sqlselect::sql::parser"⟩)

abbrev Filter := Record → Bool

/-! ## Hosts -/

/-- How the program ends: its exit code and what it has written. -/
structure Exit where
  code : Nat
  stdout : String
  stderr : String
  deriving DecidableEq

/-- What the program relies on. -/
structure Host where
  /-- Reads the arguments (`parse` of `Cli`). Some of them are answered by the reader, and then the program
  ends. -/
  readArguments : List String → Except Exit Request
  /-- Reads the description of a log filter (`try_new`), or tells what is wrong with it. -/
  readFilter : String → Except String Filter
  /-- The description of a log filter in the surroundings, if there is one. -/
  logVariable : Option String
  /-- The line of the log for a record, given the number of lines before it. -/
  logLine : Nat → Record → String

/-- What may be relied on of a reader of arguments: one that does not start with a hyphen is a word of the
query, and what is not asked for has its default. -/
structure ReaderSpec (read : List String → Except Exit Request) : Prop where
  words : ∀ words, (∀ word ∈ words, word.toList.head? ≠ some '-') → read words = .ok (.ofWords words)

/-- What may be relied on of a reader of log filters: by default, the log has room for warnings and nothing
below them. Nothing that the program tells the log is as important as a warning. -/
structure FilterSpec (read : String → Except String Filter) : Prop where
  default : ∃ filter, read defaultLevel = .ok filter ∧ ∀ record, filter record = false

/-! ## Running -/

def Format.write (f : Format) (s : Statement) : String :=
  match f with
  | .text => s.render
  | .json => s.toJson.indented

def errorReport (error : String) : String := "Error: " ++ error ++ "\n"

/-- An error with its cause, which is set off from what the program was doing. -/
def withCause (context cause : String) : String := context ++ "\n\nCaused by:\n    " ++ cause

namespace Host

/-- The log filter: that of the surroundings, if they have one that can be read (`try_from_default_env`), and
else the one asked for. -/
def filter (h : Host) (level : String) : Except String Filter :=
  match h.logVariable.map h.readFilter with
  | some (.ok filter) => .ok filter
  | _ => h.readFilter level

/-- The log of a query that is read: a line for each record that passes the filter. -/
def log (h : Host) (filter : Filter) (query : String) : String :=
  String.join (((records query).filter filter).mapIdx h.logLine)

/-- Reads a query and writes its statement (the end of `main`). -/
def runQuery (h : Host) (filter : Filter) (format : Format) (query : String) : Exit :=
  let log := h.log filter query
  match Statement.parse query with
  | .ok s => ⟨0, format.write s ++ "\n", log⟩
  | .error e => ⟨1, "", log ++ errorReport (withCause "parse query" e.message)⟩

/-- Runs the program on its arguments (`main`). -/
def run (h : Host) (args : List String) : Exit :=
  match h.readArguments args with
  | .error exit => exit
  | .ok request =>
    match h.filter request.logLevel with
    | .error e => ⟨1, "", errorReport (withCause "invalid log filter" e)⟩
    | .ok filter =>
      if request.words = [] then ⟨1, "", errorReport "Missing <query>"⟩
      else h.runQuery filter request.format (queryText request.words)

end Host

end SelectQuery.CommandLine
