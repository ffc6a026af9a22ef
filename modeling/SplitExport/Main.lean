import SplitExport.Command.Run
import SplitExport.Files.Tree
import SplitExport.Log.Journal

/-!
# The program — one run of the command with real files

`main` reads the file that the command line names, runs the command, and prints what the run gives:
first the log, then the queries or the error. No driver is linked to it, so that every connection is
refused; an export that is not split needs none.
-/

namespace SplitExport.Command

open SplitExport.Files SplitExport.Log

/-- The path of the file that a command line names. -/
def sqlPath? (line : List String) : Option String :=
  match Request.read line with
  | .ok (.run a) => a.sqlFile.value?.map tidy
  | _ => none

/-- The number of an error of the operating system, which may come with a minus sign. -/
def errorNumber (code : UInt32) : Nat :=
  if code < 0x80000000 then code.toNat else (0 - code).toNat

/-- What is wrong with a path that could not be read. -/
def defectOf : IO.Error → FileDefect
  | .noFileOrDirectory .. => .missing
  | .inappropriateType _ code _ => if errorNumber code = 20 then .notDirectory else .isDirectory
  | .permissionDenied _ code text => .other (errorNumber code) text
  | other => .other 5 (toString other)

/-- Reads the octets of a file. -/
def readOctets (path : String) : IO (Except FileError (List UInt8)) := do
  if let .error defect := checkPath path then return .error ⟨defect, path⟩
  try return .ok (← IO.FS.readBinFile path).toList
  catch e => return .error ⟨defectOf e, path⟩

/-- The refusal of every connection. -/
def noDriver : Fault :=
  ⟨"InterfaceError", "no driver is available", .database⟩

/-- Prints a run, and gives the exit code. -/
def CommandRun.print (run : CommandRun) : IO UInt32 := do
  for record in (Journal.logAll { memory := none } run.events).records do
    IO.eprintln ("[" ++ record.level.name ++ "] " ++ record.text)
  IO.print run.stdout
  IO.eprint run.stderr
  match run.ending with
  | .finished code | .left code => return UInt32.ofNat code
  | .escaped kind message | .aborted kind message => do
    IO.eprintln (kind ++ ": " ++ message)
    return 1

/-- Runs the command on a command line, and gives the exit code. -/
def perform (line : List String) : IO UInt32 := do
  let content ← match sqlPath? line with
    | some path => readOctets path
    | none => pure (.ok [])
  let password := (← IO.getEnv "PEQ_DB_PASSWORD").getD ""
  (run { files := fun _ => content, password, connect := fun _ => .error noDriver } line).print

end SplitExport.Command

/-- Runs the command. -/
def main (line : List String) : IO UInt32 :=
  SplitExport.Command.perform line
