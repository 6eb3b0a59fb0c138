import Ndef.Command

/-!
# The program

Reads the environment, the settings file and the standard input, and prints the
outcome of the run.
-/

namespace Ndef.Program

/-- The values of the variables that the program knows. -/
def readEnvironment : IO Environment := do
  let keys := ["NFC_NDEF_LANGUAGE", "NFC_NDEF_CONTAINER", "LC_ALL", "LC_MESSAGES", "LANG"]
  let values ← keys.mapM fun key => do
    return (← IO.getEnv key).map (key, ·)
  return fun key => (values.filterMap (·)).lookup key

/-- The first of the files that exists, if it can be read. -/
def readFirst : List String → IO (Option Bytes)
  | [] => return none
  | path :: rest => do
    try
      return some (← IO.FS.readBinFile path).data.toList
    catch
      | .noFileOrDirectory .. => readFirst rest
      | _ => return none

/-- The settings file of the user, or else the one of the system. -/
def readSettingsFile : IO (Option Bytes) := do
  let home ← IO.getEnv "HOME"
  let own := home.map (· ++ "/.config/nfc-ndef/config.toml")
  readFirst (own.toList ++ ["/etc/nfc-ndef/config.toml"])

/-- All that is left on the stream, after what was read of it. -/
partial def readAll (stream : IO.FS.Stream) (before : ByteArray) : IO ByteArray := do
  let chunk ← stream.read 65536
  if chunk.isEmpty then return before else readAll stream (before ++ chunk)

/-- The standard input, if the invocation needs it. -/
def readInput (invocation : Invocation) : IO Bytes := do
  if invocation.readsInput then
    return (← readAll (← IO.getStdin) ByteArray.empty).data.toList
  else return []

/-- Runs the program and returns its exit status. -/
def start (arguments : List String) : IO UInt32 := do
  let env ← readEnvironment
  let settings := Settings.load (← readSettingsFile) env
  let result ← match Invocation.prepare settings env arguments with
    | .ok invocation => pure (invocation.answer (← readInput invocation))
    | .error error => pure (.error error)
  let outcome := Outcome.of result
  IO.print outcome.output
  IO.eprint outcome.errors
  return UInt32.ofNat outcome.status

end Ndef.Program

def main (arguments : List String) : IO UInt32 :=
  Ndef.Program.start arguments
