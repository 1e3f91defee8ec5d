import Depot.CommandLine.Help
import Depot.Http.Scripted
import Depot.Files.Disk
import Depot.Program.Command

/-!
# The program

The outermost layer: files, the clock, the environment and the streams of the machine that runs the
program. It has no network of its own, so that a download from another machine fails as it does
where no network can be reached.

## Main definitions

* `main` : the program.
-/

namespace Depot.Program

/-- The number that the system gives an error, which may come with its sign changed. -/
def systemNumber (code : UInt32) : Nat :=
  if code.toNat < Nat.pow 2 31 then code.toNat else Nat.pow 2 32 - code.toNat

/-- A fault of the system. -/
def faultOf : IO.Error → IoFault
  | .noFileOrDirectory .. => Disk.notFound
  | .alreadyExists .. => Disk.alreadyExists
  | .inappropriateType _ code _ =>
    if systemNumber code = 20 then Disk.notADirectory else Disk.isADirectory
  | e => ⟨.other, toString e⟩

/-- Does something with files, and tells the fault if that fails. -/
def trying {α : Type} (action : IO α) : IO (Except IoFault α) := do
  try
    return .ok (← action)
  catch e =>
    return .error (faultOf e)

/-- The bytes of a file. -/
def bytesOf (p : Path) : IO Bytes := do
  return (← IO.FS.readBinFile p.text).toList

/-- The names of the directories directly below a directory. -/
def dirsBelow (p : Path) : IO (List String) := do
  let entries ← (← IO.FS.realPath p.text).readDir
  let dirs ← entries.toList.filterM fun entry => entry.path.isDir
  return (dirs.map fun entry => entry.fileName).mergeSort

/-- Whether a path names something, and whether that is a directory. -/
def lookAt (p : Path) : IO (Option Bool) := do
  let found ← trying do (← IO.FS.realPath p.text).isDir
  return found.toOption

/-- Creates a directory, which may be there already. -/
def ensureDir (p : Path) : IO (Except IoFault Unit) := do
  match ← trying (IO.FS.createDir p.text) with
  | .ok () => return .ok ()
  | .error fault => return if (← lookAt p) = some true then .ok () else .error fault

instance : FileStore IO where
  has p := return (← lookAt p).isSome
  isFile p := return (← lookAt p) = some false
  createDirs p := createWithAbove ensureDir p (p.text.length + 1)
  readText p := do
    match ← trying (bytesOf p) with
    | .error fault => return .error fault
    | .ok bytes => return (Bytes.toText? bytes).elim (.error Disk.invalidText) .ok
  write p bytes := trying (IO.FS.writeBinFile p.text ⟨bytes.toArray⟩)
  remove p := trying (IO.FS.removeFile p.text)
  readBytes p := trying (bytesOf p)
  create p := trying (IO.FS.writeBinFile p.text ⟨#[]⟩)
  append p bytes := trying do
    let handle ← IO.FS.Handle.mk p.text .append
    handle.write ⟨bytes.toArray⟩
  listDirs p := trying (dirsBelow p)

instance : Clock IO where
  draw := do
    let n ← IO.rand 0 2000
    return ((n : Rat) - 1000) / 5000
  wait ns := IO.sleep (UInt32.ofNat (ns / milliseconds 1))

instance : Network IO where
  send r := return (ScriptedNetwork.request r ScriptedNetwork.unreachable).1

instance : Transports IO :=
  HttpClient.transports none

/-- What the environment says of the surroundings. -/
def surroundings : IO Surroundings := do
  let arch ← trying (bytesOf ⟨"/proc/sys/kernel/arch"⟩)
  return {
    settingsFile := defaultSettingsPath? (← IO.getEnv "XDG_CONFIG_HOME") (← IO.getEnv "HOME")
    tempDir := ⟨(← IO.getEnv "TMPDIR").getD "/tmp"⟩
    archName := (arch.toOption.bind Bytes.toText?).elim "x86_64" Text.trim }

/-- Tells what a command line comes to if it is not carried out. -/
def tellUsage : CommandLine.UsageFault → IO UInt32
  | .displayHelp => do
    IO.println CommandLine.usage
    return 0
  | .displayVersion => do
    IO.println CommandLine.version
    return 0
  | fault => do
    IO.eprintln ("error: " ++ fault.message ++ "\n\n" ++ CommandLine.usage)
    return 2

end Depot.Program

open Depot in
/-- The program. -/
def main (args : List String) : IO UInt32 := do
  match Invocation.parse? args with
  | .error fault => Program.tellUsage fault
  | .ok inv =>
    match ← (inv.run (← Program.surroundings) : ExceptT RunFault IO String).run with
    | .ok text =>
      IO.print text
      return 0
    | .error fault =>
      IO.eprintln fault.report
      return 1
