import SplitExport.Files.Tree
import SplitExport.Log.Journal
import SplitExport.Settings

/-!
# Log registries — named loggers, their outlets and their threads

* A `Channel` is what loggers of one name share: a level and outlets, set up by the first of them.
* A `Logger` has counts of its own, and a context for each thread.
* A `Registry` holds the channels, the loggers by the variables that hold them, and the files that
  lines are appended to. `Registry.register` makes a logger, `Registry.log` tells one of an event.
-/

namespace SplitExport.Log

open SplitExport.Files SplitExport.Number SplitExport.Text

/-! ## Parts -/

/-- What loggers of one name share. -/
structure Channel where
  level : Level := .notSet
  /-- The ways to the log files, beside the console. -/
  files : List (List String) := []
deriving DecidableEq, Repr

/-- The console and the files. -/
def Channel.outlets (c : Channel) : Nat :=
  c.files.length + 1

/-- A logger: its name, its counts and its contexts. -/
structure Logger where
  channel : String
  built : Nat := 0
  failed : Nat := 0
  contexts : List (String × Option Context) := []
deriving DecidableEq, Repr

/-- All loggers. -/
structure Registry where
  channels : List (String × Channel) := []
  loggers : List (String × Logger) := []
  tree : Tree := {}
  /-- The text that stands for the time of day. -/
  stamp : String := ""
deriving Repr

/-- A pair list with the value of a key set. -/
def setKey {α : Type} (entries : List (String × α)) (key : String) (value : α) : List (String × α) :=
  if (entries.lookup key).isSome then
    entries.map fun entry => if entry.1 == key then (key, value) else entry
  else entries ++ [(key, value)]

/-- Why a logger cannot be set up. -/
inductive SetupError where
  | level (cause : LevelError)
  /-- The path of the log file is no text. -/
  | pathNotText (typeName : String)
  /-- The path of the log file cannot be the path of a file. -/
  | path (cause : FileError)
deriving DecidableEq, Repr

namespace SetupError

/-- The cause in words. -/
def message : SetupError → String
  | .level cause => cause.message
  | .pathNotText typeName => "expected str, bytes or os.PathLike object, not " ++ typeName
  | .path cause => cause.message

/-- The name of the class of errors that a cause belongs to. -/
def kind : SetupError → String
  | .pathNotText _ => "TypeError"
  | _ => "ValueError"

end SetupError

/-! ## Loggers -/

namespace Logger

/-- What a logger knows in a thread. -/
def stateIn (l : Logger) (thread : String) : State :=
  ⟨(l.contexts.lookup thread).getD none, l.built, l.failed⟩

/-- The logger after a thread has come to a state. -/
def withState (l : Logger) (thread : String) (s : State) : Logger :=
  { l with
    built := s.built
    failed := s.failed
    contexts := setKey l.contexts thread s.context }

end Logger

/-! ## Registries -/

namespace Registry

/-- A line of the log. -/
def line (r : Registry) (record : Record) : String :=
  "[" ++ r.stamp ++ "] [" ++ record.level.name ++ "] " ++ record.text ++ "\n"

/-- The path of the log file that settings ask for, if they ask for one. -/
def filePath? (settings : LogSettings) : Except SetupError (Option String) :=
  if !settings.file.isTruthy then .ok none
  else
    match settings.file with
    | .text path => .ok (some path)
    | other => .error (.pathNotText other.typeName)

/-- Opens a log file for appending, making the directories above it: the tree afterwards, and the way to
    the file or what went wrong. -/
def openFile (tree : Tree) (path : String) : Tree × Except FileError (List String) :=
  let directory := directoryPart path
  let (tree, failure) :=
    if directory.isEmpty then (tree, none)
    else tree.makeDirectories (parts directory).length directory
  match failure with
  | some e => (tree, .error e)
  | none =>
    match tree.openForAppending (absolute tree.working path) with
    | .ok (tree, way) => (tree, .ok way)
    | .error e => (tree, .error e)

/-- The complaint about a log file that cannot be used. -/
def complaint (path : String) (e : FileError) : Record :=
  ⟨.warning, "Failed to setup file logging to " ++ path ++ ": " ++ e.message⟩

/-- Sets up the outlets of a channel: the ways to its files, what the console shows, and the registry with
    the files that were made. A log file that the operating system refuses is complained about. -/
def openOutlets (r : Registry) (settings : LogSettings) :
    Except SetupError (List (List String)) × String × Registry :=
  match filePath? settings with
  | .error e => (.error e, "", r)
  | .ok none => (.ok [], "", r)
  | .ok (some path) =>
    match openFile r.tree path with
    | (tree, .ok way) => (.ok [way], "", { r with tree })
    | (tree, .error e) =>
      if e.defect = .embeddedNul then (.error (.path e), "", { r with tree })
      else (.ok [], r.line (complaint path e), { r with tree })

/-- Sets up a channel: how it is left, whether that went well, what the console shows, and the registry
    with the files that were made. -/
def openChannel (r : Registry) (settings : LogSettings) :
    Channel × Except SetupError Unit × String × Registry :=
  match r.openOutlets settings with
  | (.error e, shown, r) => ({}, .error e, shown, r)
  | (.ok files, shown, r) =>
    match Level.ofSetting settings.level with
    | .error e => ({ files }, .error (.level e), shown, r)
    | .ok level => ({ level, files }, .ok (), shown, r)

/-- Makes a logger for a variable. The first logger of a name sets up its channel; if that fails, the
    channel stays as far as it was set up, and the variable as it was. -/
def register (r : Registry) (holder name : String) (settings : LogSettings) :
    Except SetupError Channel × String × Registry :=
  let assign (r : Registry) : Registry :=
    { r with loggers := setKey r.loggers holder { channel := name } }
  match r.channels.lookup name with
  | some channel => (.ok channel, "", assign r)
  | none =>
    let (channel, done, shown, r) := r.openChannel settings
    let r := { r with channels := setKey r.channels name channel }
    match done with
    | .error e => (.error e, shown, r)
    | .ok () => (.ok channel, shown, assign r)

/-- Writes a record to the outlets of a channel, if its level admits it: what the console shows, and
    the registry afterwards. -/
def write (r : Registry) (channel : Channel) (record : Record) : String × Registry :=
  if channel.level.admits record.level then
    let line := r.line record
    (line, { r with tree := channel.files.foldl (·.appendTo · line.toUTF8.toList) r.tree })
  else ("", r)

/-- Tells the logger of a variable of an event in a thread: what the console shows, unless the logger refuses
    to tell, and the registry afterwards; `none` if the variable holds no logger. -/
def log (r : Registry) (holder thread : String) (memory : Option Nat) (e : Event) :
    Option (Except OversizeInteger String × Registry) := do
  let logger ← r.loggers.lookup holder
  let channel := (r.channels.lookup logger.channel).getD {}
  let state := logger.stateIn thread
  let r := { r with loggers := setKey r.loggers holder (logger.withState thread (state.after e)) }
  if state.refuses channel.level e then return (.error {}, r)
  match state.record? memory e with
  | none => return (.ok "", r)
  | some record =>
    let (shown, r) := r.write channel record
    return (.ok shown, r)

end Registry

end SplitExport.Log
