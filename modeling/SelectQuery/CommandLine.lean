import SelectQuery.CommandLine.Options

/-!
# The command line

The program on a host with the options of `Options.read` and without a log.
-/

namespace SelectQuery.CommandLine

/-- A host that reads options and writes no log. -/
def Host.quiet (logVariable : Option String) : Host where
  readArguments := Options.read
  readFilter := LogFilter.read
  logVariable := logVariable
  logLine _ _ := ""

/-- Runs the program on its arguments, with no log filter in the surroundings. -/
def run (args : List String) : Exit := (Host.quiet none).run args

end SelectQuery.CommandLine
