import UnitForge.CommandLine.Run

set_option autoImplicit false

/-!
# The command line program

The outer layer: it copies what the words of the command line lead to into a tree of files, runs the
command line on the tree, prints the report, and writes the files that were made or changed. It runs
no other program, so that a formatter program is always missing.
-/

namespace UnitForge.Program

open CommandLine

/-- The entry that a path leads to, through links. -/
partial def load (path : String) : IO Entry := do
  let place ← IO.FS.realPath path
  if ← place.isDir then
    let found ← place.readDir
    let entries ← found.toList.mapM fun e => do
      return (e.fileName.toList, ← load (path ++ "/" ++ e.fileName))
    return .directory entries
  else return .file (← IO.FS.readBinFile path).toList

/-- The words of a command line that may be paths, also those after an equals sign. -/
def paths (words : List String) : List String :=
  words ++ words.flatMap fun word => (word.splitOn "=").drop 1

/-- The tree of files with what a path leads to, if it leads to anything. -/
def mount (d : Disk) (path : String) : IO Disk := do
  try
    let place ← IO.FS.realPath path
    return d.put (Path.parse place.toString.toList).parts (← load path)
  catch _ => return d

/-- The tree of files that a command line is about. -/
def tree (words : List String) : IO Disk := do
  let place ← IO.currentDir
  let names := (Path.parse place.toString.toList).parts
  let start : Disk := ⟨Entry.put (.directory []) names (.directory []), names⟩
  (paths words).foldlM mount start

/-- The files of a tree, by the names that lead to them from the root. -/
def allFiles (d : Disk) : List (Text × List UInt8) := Entry.files [] d.root

/-- Writes the files that were made or changed. -/
def save (before after : Disk) : IO Unit := do
  for (path, content) in allFiles after do
    if Keyed.get? (allFiles before) path != some content then
      let target := Path.parse ('/' :: path)
      IO.FS.createDirAll (String.ofList target.parent.toText)
      IO.FS.writeBinFile (String.ofList target.toText) ⟨content.toArray⟩

/-- Prints a report. -/
def print (report : Report) : IO Unit := do
  for row in report.table do
    IO.println (String.ofList (Text.join (Text.lit "  ") row))
  for line in report.output do
    IO.println (String.ofList line)
  for line in report.hint do
    IO.eprintln (String.ofList line)
  if let some message := report.error then
    IO.eprintln ("Error: " ++ String.ofList message)
  if let some failure := report.fatal then
    IO.eprintln (String.ofList failure.message)

end UnitForge.Program

/-- Runs the command line. -/
def main (words : List String) : IO UInt32 := do
  let before ← UnitForge.Program.tree words
  let report := UnitForge.CommandLine.run before (fun _ _ => .missing) (words.map String.toList)
  UnitForge.Program.save before report.disk
  UnitForge.Program.print report
  return UInt32.ofNat report.status
