import CellularAutomaton.CommandLine.Program

/-!
# The command
-/
open CellularAutomaton

def readPath (path : String) : IO (Except CommandLine.FileError String) := do
  match ← (IO.FS.readBinFile path).toBaseIO with
  | .ok bytes =>
    match String.fromUTF8? bytes with
    | some text => return .ok text
    | none => return .error .notText
  | .error (.inappropriateType _ code _) =>
    return .error (if code = 21 then .isDirectory else .notDirectory)
  | .error (.invalidArgument ..) => return .error .nameTooLong
  | .error (.permissionDenied ..) => return .error .denied
  | .error _ => return .error .missing

/-- Reads the files that the arguments name, runs the program on them, and writes what it says. -/
def main (args : List String) : IO UInt32 := do
  let seed := (← IO.getRandomBytes 8).foldl (fun s b => s * 256 + b.toUInt64) 0
  let paths := match CommandLine.read args with
    | .ok g => g.config.toList ++ g.rules.toList
    | .error _ => []
  let contents ← paths.mapM fun (path : String) => do return (path, ← readPath path)
  let files : CommandLine.Files := fun path => (contents.lookup path).getD (.error .missing)
  let outcome := CommandLine.run files (Random.wordsOfSeed seed) args
  (← IO.getStdout).putStr outcome.output
  unless outcome.errors.isEmpty do
    (← IO.getStderr).putStrLn outcome.errors
  return UInt32.ofNat (outcome.exitCode.getD 0)
