import CodeAtlas.Disk.Image
import CodeAtlas.Program
import CodeAtlas.Python.Recovery

/-!
# The command line

The program explores a disk image, which the variable `PROJECT_EXPLORER_DISK` describes, and
answers the lines of standard input as they come.
-/

namespace CodeAtlas.Main

/-- The disk that a text describes. -/
def diskOf (image : Option String) : Disk :=
  match image.bind fun s => Json.parse? s.toList with
  | some (.arr edits) => Disk.empty.amendAll ['/'] edits
  | _ => .empty

/-- The variables that flags look at. -/
def environment : IO Environment :=
  Flag.all.filterMapM fun f => do
    return (← IO.getEnv (String.ofList f.variableName)).map fun v => (f.variableName, v.toList)

/-- Prints what a run has to say at its end. -/
def finish (o : Outcome) : IO UInt32 := do
  IO.print (String.ofList o.output)
  if let some why := o.failure then IO.eprintln (String.ofList why)
  return o.exitCode.toUInt32

/-- Answers lines until the input ends. -/
partial def serve (d : Disk) (introduced : Bool) : IO UInt32 := do
  let line ← (← IO.getStdin).getLine
  if line.isEmpty then
    finish (if introduced then .success d [] else .failed d SessionError.closed.message)
  else
    match d.hear Python.Reader.standard introduced line.toList with
    | .error e => finish (.failed d e.message)
    | .ok (introduced, reply) =>
      if let some r := reply then
        IO.println (String.ofList r)
        (← IO.getStdout).flush
      serve d introduced

end CodeAtlas.Main

open CodeAtlas in
/-- Runs the program with the given arguments. -/
def main (args : List String) : IO UInt32 := do
  let disk := Main.diskOf (← IO.getEnv "PROJECT_EXPLORER_DISK")
  let env ← Main.environment
  match disk.prepare "1970-01-01".toList env (args.map String.toList) with
  | .error o => Main.finish o
  | .ok d => Main.serve d false
