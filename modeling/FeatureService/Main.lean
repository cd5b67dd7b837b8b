import FeatureService.Command.Run

/-!
# The program

The outer layer: files, variables and streams.
-/

namespace FeatureService

def readText (file : IO.FS.Handle) : IO FileState := do
  try
    return .text (← file.readToEnd)
  catch error =>
    return .unreadable (toString error)

def lookAt (path : String) : IO FileState := do
  try
    readText (← IO.FS.Handle.mk path .read)
  catch
    | .noFileOrDirectory .. | .inappropriateType .. | .invalidArgument .. => return .absent
    | error => return .unreadable (toString error)

/-- Appends events to the log file below a home directory. A log that cannot be
written is left out. -/
def writeLog (home : String) (events : List LogEvent) : IO Unit := do
  try
    let directory := home ++ "/.geoformat/logs"
    IO.FS.createDirAll directory
    IO.FS.withFile (directory ++ "/cli") .append fun file =>
      events.forM fun event => file.putStrLn event.line
  catch _ => return

end FeatureService

open FeatureService in
def main (words : List String) : IO UInt32 := do
  let home ← IO.getEnv "HOME"
  let filters := [← IO.getEnv "GEOFORMAT_LOG", ← IO.getEnv "RUST_LOG"]
  let ending ← runProgram lookAt home filters words
  home.forM fun home => writeLog home ending.log
  if ending.showsLog then ending.log.forM fun event => IO.eprintln event.line
  IO.print ending.output
  ending.complaint.forM fun complaint => IO.eprintln ("Error: " ++ complaint)
  return ending.exit
