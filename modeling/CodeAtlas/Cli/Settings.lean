import CodeAtlas.Cli.Arguments
import CodeAtlas.Tool

/-!
# Settings

A setting is the value of its flag, or else of its variable, or else its default. The variable of
a flag that is given does not count, even if it holds no valid value.
-/

namespace CodeAtlas

/-- The variables of the environment with their values. -/
abbrev Environment := List (Text × Text)

/-- What a run of the program is to do. -/
structure Settings where
  /-- The tools turned on. -/
  tools : ToolSet
  /-- The settings of the log. -/
  log : LogSettings
  /-- Whether to do no more than print the names of the tools. -/
  listTools : Bool
  deriving DecidableEq, Repr

namespace Given

/-- The value of a flag, on the command line or in the environment. -/
def value? (g : Given) (env : Environment) (f : Flag) : Option Text :=
  (g.values.lookup f).or (env.lookup f.variableName)

/-- Whether a tool is turned on by its flag. -/
def turnsOn (g : Given) (env : Environment) (f : Flag) : Bool :=
  ((g.value? env f).bind Flag.bool?).getD true

/-- The settings, every value being accepted. -/
def settings (g : Given) (env : Environment) : Settings where
  tools := ⟨g.turnsOn env .dirTree, g.turnsOn env .pythonOutline, g.turnsOn env .markdownOutline⟩
  log :=
    { level := (g.value? env .logLevel).getD "info".toList
      format := ((g.value? env .logFormat).bind LogFormat.ofName?).getD .text
      file := g.value? env .logFile
      fileLevel := (g.value? env .logFileLevel).getD "debug".toList }
  listTools := g.listTools

end Given

/-- The settings of a run with the given arguments and environment. -/
def Settings.resolve (env : Environment) (args : List Text) : Except Stop Settings := do
  let g ← Given.ofArguments args
  if Flag.all.all fun f => (g.value? env f).all f.accepts then pure (g.settings env)
  else .error .invalidValue

end CodeAtlas
