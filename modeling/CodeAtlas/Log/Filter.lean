import CodeAtlas.Text.Blank

/-!
# Log filters

A log filter is a list of directives separated by commas. A directive is a level, a target, or
a target with a level after an equals sign; a target without a level, or with an empty one,
lets everything through.
-/

namespace CodeAtlas.LogFilter

/-- What is wrong with a directive. -/
inductive Fault where
  /-- There is no target before the equals sign. -/
  | noTarget
  /-- What follows the equals sign is no level. -/
  | unknownLevel
  deriving DecidableEq, Repr

/-- The words for the fault. -/
def Fault.message : Fault → Text
  | .noTarget => "invalid filter directive".toList
  | .unknownLevel =>
    "error parsing level filter: expected one of \"off\", \"error\", ".toList ++
      "\"warn\", \"info\", \"debug\", \"trace\", or a number 0-5".toList

/-- The names of the levels, in any case of their letters, and their numbers. -/
def isLevel (s : Text) : Bool :=
  ["off", "error", "warn", "info", "debug", "trace", "0", "1", "2", "3", "4", "5"].any
    fun l => l.toList == Text.asciiLower s

/-- The fault of one directive. -/
def directiveFault? (s : Text) : Option Fault :=
  match s.dropWhile (· != '=') with
  | [] => none
  | _ :: level =>
    match s.takeWhile (· != '=') with
    | [] => some .noTarget
    | c :: _ =>
      if isBlank c then some .unknownLevel
      else if level.isEmpty || isLevel level then none
      else some .unknownLevel

/-- The fault of the first directive that has one. Empty directives are skipped. -/
def fault? (filter : Text) : Option Fault :=
  ((Text.splitAt ',' filter).filter (!·.isEmpty)).findSome? directiveFault?

end CodeAtlas.LogFilter
