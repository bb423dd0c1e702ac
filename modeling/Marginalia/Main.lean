import Marginalia.CommandLine.Run

/-!
# The program

Reads what a run may look at into a disk, runs, and writes what has changed back.
-/

namespace Marginalia.Program

set_option autoImplicit false

/-- A text of the system. -/
def textOf (s : Bytes) : String := (String.fromUTF8? ⟨s.toArray⟩).getD ""

/-- Adds the directories that lead to a path, as far as they are there. -/
def addWay (disk : Disk) (path : Bytes) : IO Disk := do
  let here ← IO.currentDir
  let mut disk := disk
  for dir in (Path.ancestors (Path.directory (Path.absolute disk.cwd path))).reverse do
    if ← (here / textOf dir).isDir then
      disk := (disk.makeDirs dir).toOption.getD disk
  return disk

/-- Adds a file; one that cannot be read is like a link to nowhere. -/
def addFile (disk : Disk) (path : Bytes) : IO Disk := do
  try
    let content ← IO.FS.readBinFile (textOf path)
    return (disk.write path content.toList).toOption.getD disk
  catch _ => return disk.makeLink path (utf8 "/nonexistent")

/-- Adds what is at a path, and below it if it is a directory. -/
partial def addTree (disk : Disk) (path : Bytes) : IO Disk := do
  let here := (← IO.currentDir) / textOf path
  if ← here.isDir then
    let mut disk := (disk.makeDirs path).toOption.getD disk
    for entry in ← here.readDir do
      let name := utf8 entry.fileName
      let below := Path.join [path, name]
      let link := (← entry.path.symlinkMetadata).type == .symlink
      if ← entry.path.isDir then
        if link then disk := disk.makeLink below (utf8 "/")
        else if !skipsDirectory name then disk ← addTree disk below
      else disk ← addFile disk below
    return disk
  else if ← here.pathExists then addFile disk path
  else return disk

/-- Adds the files with settings that may hold at a path. -/
def addConfigs (disk : Disk) (path : Bytes) : IO Disk := do
  let mut disk := disk
  for dir in Path.ancestors (Path.absolute disk.cwd path) do
    let candidate := Path.join [dir, Config.fileName]
    if ← ((← IO.currentDir) / textOf candidate).pathExists then
      disk ← addTree disk candidate
  return disk

/-- All of the standard input. -/
partial def readAll (input : IO.FS.Stream) (done : ByteArray) : IO ByteArray := do
  let more ← input.read 65536
  if more.isEmpty then return done else readAll input (done ++ more)

/-- The directory for caches. -/
def cacheHome : IO Bytes := do
  match ← IO.getEnv "XDG_CACHE_HOME", ← IO.getEnv "HOME" with
  | some dir, home => if dir.isEmpty then return utf8 (home.getD "" ++ "/.cache") else return utf8 dir
  | none, home => return utf8 (home.getD "" ++ "/.cache")

/-- The world around a run. -/
def worldFor (arguments : List Bytes) : IO CommandLine.World := do
  let cwd := utf8 (← IO.currentDir).toString
  let mut disk : Disk := ({ cwd } : Disk)
  disk := (disk.makeDirs cwd).toOption.getD disk
  for path in CommandLine.pathsOf arguments do
    disk ← addTree (← addConfigs (← addWay disk path) path) (Path.absolute cwd path)
  let stdin ← if arguments.contains (utf8 "-") then readAll (← IO.getStdin) .empty else pure .empty
  let world : CommandLine.World :=
    { disk, stdin := stdin.toList, cacheHome := ← cacheHome, terminal := ← (← IO.getStdout).isTty
      toolchain := utf8 "lean4" }
  match CommandLine.cacheDirOf world arguments with
  | some dir => return { world with disk := ← addTree (← addWay disk dir) (Path.absolute cwd dir) }
  | none => return world

/-- Writes the files of a disk that another one does not have. -/
def writeBack (before after : Disk) : IO Unit := do
  for (place, entry) in after.entries do
    match entry with
    | .file content =>
      if (before.at? place) != some (.file content) then
        let path := Path.ofElements true place
        IO.FS.createDirAll (textOf (Path.directory path))
        IO.FS.writeBinFile (textOf path) ⟨content.toArray⟩
    | _ => pure ()

end Marginalia.Program

open Marginalia in
/-- Runs the program and gives its exit status. -/
def main (args : List String) : IO UInt32 := do
  let arguments := args.map utf8
  let world ← Program.worldFor arguments
  let reply := CommandLine.run world arguments
  Program.writeBack world.disk reply.disk
  (← IO.getStdout).write ⟨reply.stdout.toArray⟩
  (← IO.getStderr).write ⟨reply.stderr.toArray⟩
  return if reply.failed then 1 else 0
