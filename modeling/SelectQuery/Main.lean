import SelectQuery.CommandLine

/-!
# The process

Runs the program on the arguments and the surroundings of the process and passes on what it gives.
-/

def main (args : List String) : IO UInt32 := do
  let host := SelectQuery.CommandLine.Host.quiet (← IO.getEnv "RUST_LOG")
  let exit := host.run args
  (← IO.getStdout).putStr exit.stdout
  (← IO.getStderr).putStr exit.stderr
  return exit.code.toUInt32
