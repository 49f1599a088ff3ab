import CodeAtlas.Cli.Settings
import CodeAtlas.Server.Session

/-!
# The program

A run takes its settings from the arguments and the environment. It then prints the names of the
tools, or starts the log and serves one session.
-/

namespace CodeAtlas

/-- How a run ends. -/
structure Outcome where
  /-- The exit code. -/
  exitCode : Nat
  /-- What it has printed. -/
  output : Text
  /-- The line that says why it failed, if it did. -/
  failure : Option Text
  /-- The disk at the end. -/
  disk : Disk

namespace Outcome

/-- A run that succeeds. -/
def success (d : Disk) (lines : List Text) : Outcome :=
  ⟨0, lines.flatMap (· ++ ['\n']), none, d⟩

/-- A run that fails. -/
def failed (d : Disk) (why : Text) : Outcome :=
  ⟨1, [], some (programName.toList ++ [':', ' '] ++ why), d⟩

end Outcome

/-- The line that tells the version. -/
def versionLine : Text := programName.toList ++ ' ' :: programVersion.toList

/-- The lines that tell the flags. -/
def helpLines : List Text :=
  (Flag.all.map fun f => "  --".toList ++ f.name ++ " <VALUE>".toList) ++
    ["  --list-tools".toList, "  --help".toList, "  --version".toList]

namespace Disk

/-- What a run does before it serves: it ends, or goes on with the disk on which the log has
started. -/
def prepare (d : Disk) (date : Text) (env : Environment) (args : List Text) :
    Except Outcome Disk :=
  match Settings.resolve env args with
  | .error .help => .error (.success d helpLines)
  | .error .version => .error (.success d [versionLine])
  | .error _ => .error ⟨2, [], none, d⟩
  | .ok s =>
    if s.listTools then .error (.success d (s.tools.enabled.map Tool.name))
    else
      match d.startLog s.log date with
      | .error e => .error (.failed d e.report)
      | .ok d => .ok d

/-- A run of the program on a disk, on the given date, with its arguments, its environment and
the lines of its input. -/
def run (d : Disk) (r : Python.Reader) (date : Text) (env : Environment) (args input : List Text) :
    Outcome :=
  match d.prepare date env args with
  | .error o => o
  | .ok d =>
    match d.serve r input with
    | .error e => .failed d e.message
    | .ok lines => .success d lines

end Disk

end CodeAtlas
