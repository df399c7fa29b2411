import QuizEngine.Settings

/-!
# The program

The program reads its settings from the environment. Where they do not let it start, it
says why on standard error and ends with an exit code that is not zero.
-/

namespace QuizEngine

/-- The settings that the environment of the process names. -/
def readEnvironment : IO Environment := do
  let named ← Settings.names.filterMapM fun name => do
    return (← IO.getEnv name).map fun s => (name, s)
  return fun name => named.lookup name

end QuizEngine

/-- Starts the program. -/
def main : IO UInt32 := do
  match QuizEngine.startFault? (← QuizEngine.readEnvironment) with
  | some fault =>
    IO.eprintln fault.text
    return UInt32.ofNat fault.exitCode
  | none => return 0
