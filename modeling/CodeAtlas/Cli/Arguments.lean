import CodeAtlas.Cli.Flag

/-!
# Arguments

A command line is read argument by argument. The value of a flag follows it after an equals
sign or as the next argument; in the second case it is looked at when the next flag comes or the
arguments end, so that an unknown argument right behind it is reported first.
-/

namespace CodeAtlas

/-- Why the reading of a command line ends early. -/
inductive Stop where
  /-- A value is missing or not accepted. -/
  | invalidValue
  /-- An argument means nothing. -/
  | unknownArgument
  /-- A flag is given twice. -/
  | argumentConflict
  /-- A flag that takes no value has one. -/
  | tooManyValues
  /-- Help is asked for. -/
  | help
  /-- The version is asked for. -/
  | version
  deriving DecidableEq, Repr

/-- The form of an argument. -/
inductive Argument where
  /-- `--`, after which there are no flags. -/
  | separator
  /-- Two dashes and a name, perhaps with a value after an equals sign. -/
  | long (name : Text) (value : Option Text)
  /-- One dash and a letter, whatever follows. -/
  | short (letter : Char)
  /-- Anything else. -/
  | plain
  deriving DecidableEq, Repr

/-- The form that an argument has. -/
def Argument.ofText : Text → Argument
  | ['-', '-'] => .separator
  | '-' :: '-' :: s =>
    .long (s.takeWhile (· != '=')) (s.dropWhile (· != '=')).tail?
  | '-' :: c :: _ => .short c
  | _ => .plain

/-- The flags given on a command line. -/
structure Given where
  /-- The values of the flags that take one. -/
  values : List (Flag × Text)
  /-- Whether the names of the tools are asked for. -/
  listTools : Bool
  deriving DecidableEq, Repr

namespace Given

/-- With no flag given. -/
def none : Given := ⟨[], false⟩

/-- With one more flag. -/
def add (g : Given) (f : Flag) (value : Text) : Except Stop Given :=
  if (g.values.lookup f).isSome then .error .argumentConflict
  else if f.accepts value then .ok { g with values := g.values ++ [(f, value)] }
  else .error .invalidValue

/-- With the names of the tools asked for. -/
def addListTools (g : Given) : Except Stop Given :=
  if g.listTools then .error .argumentConflict else .ok { g with listTools := true }

end Given

/-- A command line partly read. -/
structure Reading where
  /-- The flags given so far. -/
  given : Given
  /-- The flag that came last, if its value has not been looked at, with its value, if that
  has come. -/
  pending : Option (Flag × Option Text)
  /-- Whether the separator has come. -/
  separated : Bool
  deriving DecidableEq, Repr

namespace Reading

/-- Nothing read. -/
def start : Reading := ⟨.none, none, false⟩

/-- The flags given once the pending one is taken in. -/
def settle (r : Reading) : Except Stop Given :=
  match r.pending with
  | none => .ok r.given
  | some (_, none) => .error .invalidValue
  | some (f, some value) => r.given.add f value

/-- A flag that ends the reading, unless the pending one has a fault. -/
def finishWith (r : Reading) (s : Stop) : Except Stop Reading :=
  match r.settle with
  | .error e => .error e
  | .ok _ => .error s

/-- The reading after a flag that takes no value, provided it has none. -/
def bare (value : Option Text) (next : Except Stop Reading) : Except Stop Reading :=
  if value.isSome then .error .tooManyValues else next

/-- The reading after one more argument. -/
def step (r : Reading) (arg : Text) : Except Stop Reading :=
  if r.separated then .error .unknownArgument
  else
    match Argument.ofText arg with
    | .separator => .ok { r with separated := true }
    | .short c =>
      if c = 'h' then r.finishWith .help
      else if c = 'V' then r.finishWith .version
      else .error .unknownArgument
    | .plain =>
      match r.pending with
      | some (f, none) => .ok { r with pending := some (f, some arg) }
      | _ => .error .unknownArgument
    | .long name value =>
      match Flag.ofName? name, value with
      | some f, some value => do
        let g ← r.settle
        let g ← g.add f value
        pure ⟨g, none, false⟩
      | some f, none => do
        let g ← r.settle
        pure ⟨g, some (f, none), false⟩
      | none, _ =>
        if name = "list-tools".toList then
          bare value do
            let g ← r.settle
            let g ← g.addListTools
            pure ⟨g, none, false⟩
        else if name = "help".toList then bare value (r.finishWith .help)
        else if name = "version".toList then bare value (r.finishWith .version)
        else .error .unknownArgument

end Reading

/-- The flags that a command line gives. -/
def Given.ofArguments (args : List Text) : Except Stop Given := do
  let r ← args.foldlM Reading.step .start
  r.settle

end CodeAtlas
