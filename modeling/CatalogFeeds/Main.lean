import CatalogFeeds.Command.Run
import Std.Time.DateTime.Timestamp
/-!
The program itself.

The files of the working directory are read into a file tree, the run is computed on it, and the
files that the run has written are put back. Requests are refused, so that commands live on what
the cache holds.
-/

namespace CatalogFeeds.Program

open CatalogFeeds.Time

/-- The file or directory that an entry of a directory stands for. -/
partial def readEntry (entry : IO.FS.DirEntry) : IO (Option (String × FileTree)) := do
  let info ← entry.path.symlinkMetadata
  let modified : Instant := ⟨info.modified.sec, info.modified.nsec.toNat⟩
  match info.type with
  | .file => return some (entry.fileName, .file (← IO.FS.readBinFile entry.path) modified)
  | .dir =>
    let entries ← (← entry.path.readDir).filterMapM readEntry
    return some (entry.fileName, .directory modified (Members.ofList entries.toList))
  | _ => return none

/-- The files of the working directory. -/
def readFiles (now : Instant) : IO FileTree := do
  let here ← IO.currentDir
  let entries ← (← here.readDir).filterMapM readEntry
  return .directory now (Members.ofList entries.toList)

/-- What stood in the place of an entry before. -/
def childBefore? (before : Option FileTree) (name : String) : Option FileTree :=
  before.bind fun tree => (tree.find [name]).toOption

/-- Puts back what has been written. -/
partial def putBack (place : List String) (before : Option FileTree) : FileTree → IO Unit
  | .file content modified => do
    if before.map (·.modified) != some modified then
      IO.FS.writeBinFile ("/".intercalate place) content
  | .directory _ entries => do
    if before.isNone then
      IO.FS.createDirAll ("/".intercalate place)
    for (name, tree) in entries do
      putBack (place ++ [name]) (childBefore? before name) tree

/-- The present time. -/
def currentTime : IO Instant := do
  let now ← Std.Time.Timestamp.now
  return ⟨now.val.second.val, now.val.nano.val.toNat⟩

/-- Answers no request. -/
def refuse : Transport := fun request =>
  .error (.transport request.method (Url.maskText request.url.render) "connection refused")

end CatalogFeeds.Program

/-- Runs the program on the files of the working directory. -/
def main (arguments : List String) : IO UInt32 := do
  let now ← CatalogFeeds.Program.currentTime
  let before ← CatalogFeeds.Program.readFiles now
  let outcome := CatalogFeeds.Command.run arguments before CatalogFeeds.Program.refuse now
  CatalogFeeds.Program.putBack [] (some before) outcome.files
  IO.print outcome.output
  IO.eprint outcome.complaint
  return outcome.code.toUInt32
