import Registrar.Command
import Registrar.Text.Decimal

/-!
# The command line

Options of the program stand in front of the command, options of the command behind it. A long
option may be shortened as long as only one begins so, short options may be joined, and two
dashes end the options. What is asked for first counts: help behind a mistake is not given, and
a mistake behind a call for help is not seen. Only what is left over is complained about last.
-/

namespace Registrar.CommandLine

/-- What an option does. -/
inductive Role where
  /-- It asks for help. -/
  | help
  /-- It sets a mark. -/
  | mark
  /-- It has a value, which may have to be one of some. -/
  | value (choices : Option (List String))
  deriving DecidableEq, Repr

/-- An option. -/
structure Flag where
  /-- The long name, with its dashes. -/
  name : String
  /-- The short name, with its dash. -/
  short : Option String := none
  role : Role
  deriving DecidableEq, Repr

/-- The option that asks for help. -/
def helpFlag : Flag := { name := "--help", short := some "-h", role := .help }

/-- An option with a value. -/
def valueFlag (name : String) (choices : Option (List String) := none) : Flag :=
  { name, role := .value choices }

/-- The options of the program. -/
def programFlags : List Flag :=
  [helpFlag, valueFlag "--format" (some Format.registry.keys), valueFlag "--config",
   { name := "--verbose", short := some "-v", role := .mark }]

/-- The options of both commands. -/
def commonFlags : List Flag :=
  [helpFlag, valueFlag "--strategy" (some Strategy.registry.keys), valueFlag "--exclude"]

/-- The options of the command that prints. -/
def generateFlags : List Flag :=
  commonFlags ++ [valueFlag "--dir", valueFlag "--init"]

/-- The options of the command that writes. -/
def walkFlags : List Flag :=
  commonFlags ++ [valueFlag "--out", valueFlag "--package",
    { name := "--keep-going", role := .mark }]

/-- Why the arguments lead to no command. -/
inductive Stop where
  /-- They ask for help. -/
  | help
  /-- They are rejected. -/
  | rejected
  deriving DecidableEq, Repr

/-! ### Telling options from other arguments -/

/-- What an argument looks like. -/
inductive Shape where
  /-- It is no option. -/
  | plain
  /-- It ends the options. -/
  | dashes
  /-- It is an option: its name as it is written, and the text behind the name. -/
  | option (name : List Char) (behind : List Char)
  /-- It looks like an option but is none. -/
  | stranger
  deriving DecidableEq, Repr

/-- The names of options with their dashes. -/
def names (flags : List Flag) : List (List Char) :=
  flags.flatMap fun f => (f.short.toList ++ [f.name]).map String.toList

/-- Cuts a text in front of its first equals sign. -/
def cut (s : List Char) : List Char × List Char :=
  s.span (· ≠ '=')

/-- The options that an argument may be short for, each with the text behind its name. -/
def candidates (flags : List Flag) (s : List Char) : List (List Char × List Char) :=
  if "--".toList.isPrefixOf s then
    ((names flags).filter (cut s).1.isPrefixOf).map fun name => (name, (cut s).2)
  else (names flags).filterMap fun name =>
    if name = s.take 2 then some (name, s.drop 2)
    else if s.isPrefixOf name then some (name, [])
    else none

/-- A decimal digit. -/
def isDigit (c : Char) : Bool :=
  (Text.decimalValue? c).isSome

/-- A negative number, which is no option. -/
def isNegative (s : List Char) : Bool :=
  match s with
  | '-' :: s =>
    match s.dropWhile isDigit with
    | [] => !s.isEmpty
    | '.' :: rest => !rest.isEmpty && rest.all isDigit
    | _ => false
  | _ => false

/-- What an argument looks like; one that is short for several options is rejected. -/
def shape (flags : List Flag) (s : List Char) : Except Stop Shape :=
  if s = "--".toList then .ok .dashes
  else if s.head? ≠ some '-' then .ok .plain
  else if s.length = 1 then .ok .plain
  else if (names flags).contains (cut s).1 then .ok (.option (cut s).1 (cut s).2)
  else match candidates flags s with
    | _ :: _ :: _ => .error .rejected
    | [(name, behind)] => .ok (.option name behind)
    | [] => .ok (if isNegative s || s.contains ' ' then .plain else .stranger)

/-- The arguments with what they look like; behind two dashes there are no options. -/
def shapes (flags : List Flag) : List String → Except Stop (List (String × Shape))
  | [] => .ok []
  | arg :: rest => do
    match ← shape flags arg.toList with
    | .dashes => return (arg, .dashes) :: rest.map fun arg => (arg, .plain)
    | s => return (arg, s) :: (← shapes flags rest)

/-! ### Options with their values -/

/-- The option of a name. -/
def flag? (flags : List Flag) (name : List Char) : Option Flag :=
  flags.find? fun f => f.name.toList = name || f.short.any fun s => s.toList = name

/-- The option has a value. -/
def Flag.hasValue (f : Flag) : Bool :=
  match f.role with
  | .value _ => true
  | _ => false

/-- What stands last in one argument. -/
inductive Last where
  /-- An option, with the value that the argument gives it. -/
  | option (f : Flag) (value : Option (List Char))
  /-- Letters that are no options. -/
  | stranger

/-- What is joined in one argument. -/
structure Joined where
  /-- The options in front of the last, which have no value. -/
  before : List Flag := []
  last : Last

/-- What an option and the text behind its name say. An equals sign is followed by the value of
the option in front of it. An option without a value may be followed by the letters of short
options. -/
def joined (flags : List Flag) (f : Flag) : List Char → Option Joined
  | [] => some { last := .option f none }
  | c :: rest =>
    if c = '=' then if f.hasValue then some { last := .option f (some rest) } else none
    else if f.hasValue then some { last := .option f (some (c :: rest)) }
    else if c = '-' then none
    else match flag? flags ['-', c] with
      | none => some { before := [f], last := .stranger }
      | some g => (joined flags g rest).map fun j => { j with before := f :: j.before }

/-- One thing that the arguments say. -/
inductive Item where
  /-- An option with its value, if it has one. -/
  | option (f : Flag) (value : String)
  /-- An argument that is no option, with the arguments behind it. -/
  | plain (arg : String) (behind : List String)
  /-- Two dashes, with the arguments behind them. -/
  | dashes (behind : List String)
  /-- An option that there is not. -/
  | stranger
  /-- A mistake. -/
  | mistake

/-- A value that is no choice is a mistake. -/
def valued (f : Flag) (value : String) : Item :=
  match f.role with
  | .value (some choices) => if choices.contains value then .option f value else .mistake
  | _ => .option f value

/-- What stands last in an argument, behind the options joined with it. -/
def Joined.items (j : Joined) (last : Item) (rest : List Item) : List Item :=
  j.before.map (.option · "") ++ last :: rest

/-- What the arguments say, up to the first mistake. -/
def items (flags : List Flag) : List (String × Shape) → List Item
  | [] => []
  | (arg, .plain) :: rest => .plain arg (rest.map Prod.fst) :: items flags rest
  | (_, .dashes) :: rest => [.dashes (rest.map Prod.fst)]
  | (_, .stranger) :: rest => .stranger :: items flags rest
  | (_, .option name behind) :: rest =>
    match (flag? flags name).bind (joined flags · behind) with
    | none => [.mistake]
    | some j =>
      match j.last with
      | .stranger => j.items .stranger (items flags rest)
      | .option f (some value) => j.items (valued f (String.ofList value)) (items flags rest)
      | .option f none =>
        if f.hasValue then
          match rest with
          | (value, .plain) :: rest => j.items (valued f value) (items flags rest)
          | _ => [.mistake]
        else j.items (.option f "") (items flags rest)

/-! ### Arguments of the program and of a command -/

/-- What has been read of some arguments. -/
structure Given where
  /-- The options with their values, in order. -/
  options : List (String × String) := []
  /-- The arguments that are no options, in order. -/
  args : List String := []
  /-- Something is left over. -/
  surplus : Bool := false

namespace Given

/-- The last value of an option. -/
def value? (g : Given) (name : String) : Option String :=
  g.options.reverse.lookup name

/-- The last value of an option, empty if there is none. -/
def value (g : Given) (name : String) : String :=
  (g.value? name).getD ""

/-- All values of an option. -/
def values (g : Given) (name : String) : List String :=
  (g.options.filter fun o => o.1 = name).map Prod.snd

/-- The option is given. -/
def has (g : Given) (name : String) : Bool :=
  (g.value? name).isSome

/-- Adds an option. -/
def addOption (g : Given) (f : Flag) (value : String) : Except Stop Given :=
  if f.role = .help then .error .help
  else .ok { g with options := g.options ++ [(f.name, value)] }

end Given

/-- Reads the arguments in front of a command, and the command with those behind it. -/
def readProgram (g : Given) : List Item → Except Stop (Given × Option (String × List String))
  | [] => .ok (g, none)
  | .option f value :: rest => do readProgram (← g.addOption f value) rest
  | .plain arg behind :: _ => .ok (g, some (arg, behind))
  | .stranger :: rest => readProgram { g with surplus := true } rest
  | .dashes _ :: _ => .error .rejected
  | .mistake :: _ => .error .rejected

/-- Reads the arguments behind two dashes; `open'` says that an argument stands right in front
of them, and `count` arguments are asked for. -/
def readBehind (g : Given) (count : Nat) (open' : Bool) (behind : List String) :
    Except Stop Given :=
  let free := count - g.args.length
  if free = 0 then .ok { g with surplus := g.surplus || !open' || !behind.isEmpty }
  else
    let taken := behind.take free
    if (if open' then taken else taken.drop 1).contains "--" then .error .rejected
    else .ok { g with
      args := g.args ++ taken
      surplus := g.surplus || free < behind.length }

/-- Reads the arguments of a command that asks for a number of them. -/
def readCommand (count : Nat) (g : Given) (open' : Bool) : List Item → Except Stop Given
  | [] => .ok g
  | .option f value :: rest => do readCommand count (← g.addOption f value) false rest
  | .plain arg _ :: rest =>
    if g.args.length < count then
      readCommand count { g with args := g.args ++ [arg] } true rest
    else readCommand count { g with surplus := true } false rest
  | .stranger :: rest => readCommand count { g with surplus := true } false rest
  | .dashes behind :: _ => readBehind g count open' behind
  | .mistake :: _ => .error .rejected

/-- Reads all arguments of a command. -/
def readAll (flags : List Flag) (count : Nat) (args : List String) : Except Stop Given := do
  let g ← readCommand count {} false (items flags (← shapes flags args))
  if g.args.length < count then throw .rejected else return g

/-! ### Commands -/

/-- What the arguments ask for. -/
inductive Request where
  | generate (g : Generate)
  | walk (w : Walk)
  /-- No command is given. -/
  | none

/-- The settings of a command. -/
def settings (program command : Given) : Settings :=
  { format := program.value? "--format"
    config := program.value "--config"
    verbose := program.has "--verbose"
    strategy := command.value? "--strategy"
    exclude := command.values "--exclude" }

/-- What is left over is rejected. -/
def refuseSurplus (g : Given) : Except Stop Unit :=
  if g.surplus then .error .rejected else .ok ()

/-- The request of a command. -/
def requestOf (program : Given) (command : String) (args : List String) :
    Except Stop Request := do
  if command = "generate" then
    let g ← readAll generateFlags 2 args
    refuseSurplus program
    refuseSurplus g
    return .generate
      { settings := settings program g
        root := g.args.headD ""
        path := (g.args.drop 1).headD ""
        dir := g.value "--dir"
        init := g.value? "--init" }
  else if command = "walk" then
    let g ← readAll walkFlags 1 args
    refuseSurplus program
    refuseSurplus g
    return .walk
      { settings := settings program g
        root := g.args.headD ""
        out := g.value "--out"
        package := g.value "--package"
        keepGoing := g.has "--keep-going" }
  else throw .rejected

/-- What the arguments ask for. -/
def parse (args : List String) : Except Stop Request := do
  let (program, command) ← readProgram {} (items programFlags (← shapes programFlags args))
  match command with
  | some (name, behind) => requestOf program name behind
  | none =>
    refuseSurplus program
    return .none

/-- How the program is called. -/
def usage : String :=
  "usage: bindgen [-h] [--format \x7bgo,json\x7d] [--config FILE] [-v] \x7bgenerate,walk\x7d ...\n"

/-- The help text. -/
def help : String :=
  usage ++ "\nGenerate interpreter registration code for Go packages.\n\ncommands:\n" ++
    "  generate [--strategy S] [--exclude NAME] [--dir DIR] [--init INIT] ROOT PATH\n" ++
    "  walk [--strategy S] [--exclude NAME] [--out OUT] [--package PACKAGE]" ++
    " [--keep-going] ROOT\n"

/-- What the program leaves: files, output, error output, and how it ends. -/
structure Outcome where
  files : FileTree
  output : String := ""
  errors : String := ""
  status : Except Fault Nat

/-- The outcome of a run. -/
def Outcome.ofRun (s : Settings) (r : Run) : Outcome :=
  { files := r.files, output := r.output, errors := r.report s.verbose, status := r.status }

/-- Runs the program with arguments on a tree of files. -/
def run (host : Host) (args : List String) (files : FileTree) : Outcome :=
  match parse args with
  | .error .help => { files, output := help, status := .ok 0 }
  | .error .rejected => { files, errors := usage, status := .ok 2 }
  | .ok .none => { files, output := help, status := .ok 1 }
  | .ok (.generate g) => .ofRun g.settings (g.run host files)
  | .ok (.walk w) => .ofRun w.settings (w.run host files)

end Registrar.CommandLine
