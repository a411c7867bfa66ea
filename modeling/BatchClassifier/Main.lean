import BatchClassifier.CommandLine.Program

namespace BatchClassifier.CommandLine

def readEnvironment : IO Environment := do
  let flags := Flag.all.filterMap fun f => f.entry.value.map (·.environment)
  let names := Help.noStyles :: Help.forcedStyles :: flags
  let found ← names.filterMapM fun name => do return (← IO.getEnv name).map fun value => (name, value)
  return (found.lookup ·)

end BatchClassifier.CommandLine

open BatchClassifier.CommandLine in
def main (args : List String) : IO UInt32 := do
  let exit := run { environment := ← readEnvironment } args
  IO.print exit.stdout
  IO.eprint exit.stderr
  return exit.code.toUInt32
