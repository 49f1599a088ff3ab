import CodeAtlas.Disk.Edit
import CodeAtlas.Log.Filter

/-!
# Logging

What can be set about logging, and starting it: the filters are read, and the day's log file is
made beside the path that was set, with the date after its name.
-/

namespace CodeAtlas

/-- The form of the lines of a log. -/
inductive LogFormat where
  /-- For people. -/
  | text
  /-- One object a line. -/
  | json
  deriving DecidableEq, Repr

namespace LogFormat

/-- The name of a form. -/
def name : LogFormat → Text
  | .text => "text".toList
  | .json => "json".toList

/-- The form with the given name. -/
def ofName? (s : Text) : Option LogFormat := [.text, .json].find? fun f => f.name == s

end LogFormat

/-- What can be set about logging. -/
structure LogSettings where
  /-- The filter for standard error. -/
  level : Text
  /-- The form of the lines on standard error. -/
  format : LogFormat
  /-- The path after which log files are named, if there are to be any. -/
  file : Option Text
  /-- The filter for the log file. -/
  fileLevel : Text
  deriving DecidableEq, Repr

/-- Why logging cannot start. -/
inductive LogError where
  /-- A filter has a fault. -/
  | badFilter (filter : Text) (fault : LogFilter.Fault)
  /-- The path of the log file ends in no file name. -/
  | noFileName (path : Text)
  /-- The log file cannot be opened. -/
  | cannotOpen (path : Text)
  deriving DecidableEq, Repr

namespace LogError

/-- The words for the error. -/
def message : LogError → Text
  | .badFilter filter _ => "invalid log filter '".toList ++ filter ++ ['\'']
  | .noFileName path => "log file path ".toList ++ path ++ " has no file name".toList
  | .cannotOpen path => "cannot open log file ".toList ++ path

/-- The words for the error and for its causes. An unknown level is named once as the fault of
the directive and once on its own. -/
def report : LogError → Text
  | .badFilter filter .noTarget =>
    message (.badFilter filter .noTarget) ++ ": ".toList ++ LogFilter.Fault.noTarget.message
  | .badFilter filter .unknownLevel =>
    message (.badFilter filter .unknownLevel) ++ ": ".toList ++
      LogFilter.Fault.unknownLevel.message ++ ": ".toList ++
      LogFilter.Fault.unknownLevel.message
  | e => e.message

end LogError

/-- A filter, if it has no fault. -/
def checkFilter (filter : Text) : Except LogError Unit :=
  match LogFilter.fault? filter with
  | some fault => .error (.badFilter filter fault)
  | none => .ok ()

/-- The directory and the file name of a path. A slash at the end and components `.` do not
count; `..` is no file name. -/
def splitFileName? (path : Text) : Option (Text × Text) :=
  let pieces := (Text.splitAt '/' path).filter fun p => !p.isEmpty && p != ['.']
  match pieces.getLast? with
  | none => none
  | some name =>
    if name = ['.', '.'] then none
    else
      let directory := Text.join ['/'] pieces.dropLast
      some (if isAbsolute path.utf8 then '/' :: directory else directory, name)

namespace Disk

/-- The disk with the log file of the day for a path. -/
def openLogFile (d : Disk) (path date : Text) : Except LogError Disk :=
  match splitFileName? path with
  | none => .error (.noFileName path)
  | some (directory, name) =>
    match d.edit? (.touchFile (joinPath directory.utf8 (Text.utf8 (name ++ '.' :: date)))) with
    | some d => .ok d
    | none => .error (.cannotOpen path)

/-- The disk once logging has started. -/
def startLog (d : Disk) (s : LogSettings) (date : Text) : Except LogError Disk := do
  checkFilter s.level
  match s.file with
  | none => pure d
  | some path =>
    let d ← d.openLogFile path date
    checkFilter s.fileLevel
    pure d

end Disk

end CodeAtlas
