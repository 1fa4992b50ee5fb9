import ChainIndex.Command
import Std.Time.DateTime.Timestamp

/-!
# The program

Runs the command on the files of the system. An archive is a file with the JSON form of its store.
-/

set_option autoImplicit false

namespace ChainIndex.Program

def readFile? (path : String) : IO (Option Command.File) := do
  try
    return some (.ofText (← IO.FS.readFile path))
  catch _ =>
    return none

def writeArchive (path : String) (store : Store) : IO Bool := do
  try
    IO.FS.writeFile path (toJson store).text
    return true
  catch _ =>
    return false

def disk : Command.Disk IO := ⟨readFile?, writeArchive⟩

def clock : IO Timestamp := do
  let now ← Std.Time.Timestamp.now
  return (Timestamp.sinceEpoch? now.toNanosecondsSinceUnixEpoch.toInt.toNat).getD .epoch

end ChainIndex.Program

def main (arguments : List String) : IO UInt32 := do
  let output ← ChainIndex.Command.run ChainIndex.Program.disk (← ChainIndex.Program.clock) arguments
  IO.print output.stdout
  IO.eprint output.stderr
  return output.code.toUInt32
