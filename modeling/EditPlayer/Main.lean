import EditPlayer.CommandLine.Run
set_option autoImplicit false

/-!
# The command line

Reads arguments and files, carries out the command, and prints its report.
-/

namespace EditPlayer

instance : FileStore IO where
  read path := do
    try
      let bytes ← IO.FS.readBinFile (String.ofList path)
      return .ok bytes.toList
    catch
      | .noFileOrDirectory .. => return .error .missing
      | _ => return .error .unreadable
  write path bytes := do
    try
      IO.FS.writeBinFile (String.ofList path) ⟨bytes.toArray⟩
      return true
    catch _ => return false
  makeParents path := do
    try
      IO.FS.createDirAll (String.ofList (Text.join ['/'] ((path.splitOn '/').dropLast)))
      return true
    catch _ => return false

end EditPlayer

/-- Carries out the command that the arguments ask for. -/
def main (arguments : List String) : IO UInt32 := do
  let report ← EditPlayer.CommandLine.run (m := IO) (arguments.map String.toList)
  IO.print (String.ofList report.output)
  if let some failure := report.failure then
    IO.eprintln ("Error: " ++ String.ofList failure)
  return report.exitCode.toUInt32
