import CodeAtlas.Log.Basic

/-!
# Flags

The flags that take a value. The value can also come from a variable of the environment, and
has a default otherwise.
-/

namespace CodeAtlas

/-- A flag that takes a value. -/
inductive Flag where
  /-- Whether the tool `dir_tree` is turned on. -/
  | dirTree
  /-- Whether the tool `python_outline` is turned on. -/
  | pythonOutline
  /-- Whether the tool `markdown_outline` is turned on. -/
  | markdownOutline
  /-- The log filter for standard error. -/
  | logLevel
  /-- The form of the log lines on standard error. -/
  | logFormat
  /-- The path of the log file. -/
  | logFile
  /-- The log filter for the log file. -/
  | logFileLevel
  deriving DecidableEq, Repr

namespace Flag

/-- The flags in the order in which they are declared. -/
def all : List Flag :=
  [.dirTree, .pythonOutline, .markdownOutline, .logLevel, .logFormat, .logFile, .logFileLevel]

/-- The name of a flag, which two dashes precede on a command line. -/
def name : Flag → Text
  | .dirTree => "dir-tree".toList
  | .pythonOutline => "python-outline".toList
  | .markdownOutline => "markdown-outline".toList
  | .logLevel => "log-level".toList
  | .logFormat => "log-format".toList
  | .logFile => "log-file".toList
  | .logFileLevel => "log-file-level".toList

/-- The flag with the given name. -/
def ofName? (s : Text) : Option Flag := all.find? (·.name == s)

/-- The variable of the environment for a flag. -/
def variableName : Flag → Text
  | .dirTree => "PROJECT_EXPLORER_DIR_TREE_ENABLED".toList
  | .pythonOutline => "PROJECT_EXPLORER_PYTHON_OUTLINE_ENABLED".toList
  | .markdownOutline => "PROJECT_EXPLORER_MARKDOWN_OUTLINE_ENABLED".toList
  | .logLevel => "PROJECT_EXPLORER_LOG_LEVEL".toList
  | .logFormat => "PROJECT_EXPLORER_LOG_FORMAT".toList
  | .logFile => "PROJECT_EXPLORER_LOG_FILE".toList
  | .logFileLevel => "PROJECT_EXPLORER_LOG_FILE_LEVEL".toList

/-- The boolean that a text spells. -/
def bool? (s : Text) : Option Bool :=
  if s = "true".toList then some true
  else if s = "false".toList then some false
  else none

/-- Whether a text can be the value of a flag. -/
def accepts : Flag → Text → Bool
  | .dirTree, s | .pythonOutline, s | .markdownOutline, s => (bool? s).isSome
  | .logLevel, _ | .logFileLevel, _ => true
  | .logFormat, s => (LogFormat.ofName? s).isSome
  | .logFile, s => !s.isEmpty

end Flag

end CodeAtlas
