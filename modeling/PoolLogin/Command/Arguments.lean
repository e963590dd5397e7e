import PoolLogin.FileTree.Path
import PoolLogin.Login.Truncate
import PoolLogin.Text.Split

/-!
The three commands with what is asked of them, and command lines. Options and arguments may be
mixed, the last use of an option counts, and a double dash ends the options. A line that asks for no
command in this way is refused.
-/

namespace PoolLogin

/-- A command with its arguments and options. -/
inductive Command where
  /-- Show the parts of worker names. -/
  | parse (names : List Text) (format : Text) (limit : Int)
  /-- Read every worker name of a file, and write rows to another or print them. -/
  | batch (input : Path) (output : Option Path) (format : Text) (limit : Int)
  /-- Check scenarios, the built-in ones and those of a file, and write what was found. -/
  | check (cases : Option Path) (builtin : Bool) (output : Option Path)
  deriving DecidableEq, Repr

namespace Command

/-- The names of the commands. -/
inductive Verb where
  | parse
  | batch
  | check
  deriving DecidableEq, Repr

/-- The options of all commands. -/
inductive Flag where
  | format
  | limit
  | output
  | cases
  | builtin
  | noBuiltin
  deriving DecidableEq, Repr

def Flag.takesValue : Flag → Bool
  | builtin => false
  | noBuiltin => false
  | _ => true

def Verb.ofText? (name : Text) : Option Verb :=
  if name = "parse".toList then some parse
  else if name = "batch".toList then some batch
  else if name = "check".toList then some check
  else none

/-- The options of a command by their names. -/
def Verb.longFlags : Verb → List (String × Flag)
  | parse => [("--format", .format), ("--max-length", .limit)]
  | batch => [("--format", .format), ("--max-length", .limit), ("--output", .output)]
  | check =>
    [("--cases", .cases), ("--predefined", .builtin), ("--no-predefined", .noBuiltin),
      ("--output", .output)]

/-- The options of a command by their letters. -/
def Verb.shortFlags : Verb → List (Char × Flag)
  | parse => [('f', .format)]
  | batch => [('f', .format), ('o', .output)]
  | check => [('c', .cases), ('o', .output)]

/-- The option that an argument uses, and the value that is attached to it. A name may be followed
by an equals sign and a value, a letter by the value itself. -/
def Verb.flag? (verb : Verb) (argument : Text) : Option (Flag × Option Text) :=
  let (name, attached) := Text.splitOnce ['='] argument
  match verb.longFlags.find? fun entry => entry.1.toList == name with
  | some (_, flag) => some (flag, attached)
  | none => match argument with
    | '-' :: '-' :: _ => none
    | _ :: letter :: rest =>
      (verb.shortFlags.find? fun entry => entry.1 == letter).map fun (_, flag) =>
        (flag, if rest.isEmpty then none else some rest)
    | _ => none

/-- What a command line gives: uses of options in order, and arguments. -/
structure Given where
  flags : List (Flag × Text) := []
  arguments : List Text := []
  deriving DecidableEq, Repr

/-- Whether an argument uses options; a single dash does not. -/
def usesFlag : Text → Bool
  | '-' :: _ :: _ => true
  | _ => false

/-- Tell the options from the arguments of a command. -/
def Verb.given? (verb : Verb) : List Text → Option Given
  | [] => some {}
  | argument :: rest =>
    if argument = ['-', '-'] then some { arguments := rest }
    else if usesFlag argument then
      match verb.flag? argument with
      | none => none
      | some (flag, attached) =>
        if flag.takesValue then
          match attached, rest with
          | some value, rest =>
            (verb.given? rest).map fun g => { g with flags := (flag, value) :: g.flags }
          | none, value :: rest =>
            (verb.given? rest).map fun g => { g with flags := (flag, value) :: g.flags }
          | none, [] => none
        else if attached.isSome then none
        else (verb.given? rest).map fun g => { g with flags := (flag, []) :: g.flags }
    else (verb.given? rest).map fun g => { g with arguments := argument :: g.arguments }

namespace Given

/-- The value of an option in its last use. -/
def last? (given : Given) (flag : Flag) : Option Text :=
  (given.flags.reverse.find? fun use => use.1 == flag).map (·.2)

def limit? (given : Given) : Option Int :=
  match given.last? .limit with
  | none => some Login.defaultLimit
  | some text => limitOfText? text

def wantsBuiltin (given : Given) : Bool :=
  match given.flags.reverse.find? fun use => use.1 == .builtin || use.1 == .noBuiltin with
  | some (.noBuiltin, _) => false
  | _ => true

end Given

/-- The path of a text. No path holds the character that ends the texts of the system. -/
def pathOfText? (text : Text) : Option Path :=
  if text.contains '\x00' then none else some (.ofText text)

/-- The path that an option gives, if it is used. -/
def Given.path? (given : Given) (flag : Flag) : Option (Option Path) :=
  match given.last? flag with
  | none => some none
  | some text => (pathOfText? text).map some

/-- The command of a verb with its options and arguments. -/
def ofGiven? (verb : Verb) (given : Given) : Option Command := do
  match verb, given.arguments with
  | .parse, name :: names =>
    return .parse (name :: names) ((given.last? .format).getD "text".toList) (← given.limit?)
  | .batch, [input] =>
    return .batch (← pathOfText? input) (← given.path? .output)
      ((given.last? .format).getD "jsonl".toList) (← given.limit?)
  | .check, [] =>
    return .check (← given.path? .cases) given.wantsBuiltin (← given.path? .output)
  | _, _ => none

/-- The command that a command line asks for. A double dash may stand in front of its name. -/
def ofArguments? (arguments : List Text) : Option Command := do
  let arguments := match arguments with
    | ['-', '-'] :: rest => rest
    | arguments => arguments
  match arguments with
  | [] => none
  | name :: rest =>
    let verb ← Verb.ofText? name
    ofGiven? verb (← verb.given? rest)

end Command

end PoolLogin
