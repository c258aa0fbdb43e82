/-!
Command lines: what the arguments ask for.

A command line has two parts, each with settings of its own: what stands before the name of a
command, and what stands after it. An option gets its value in the same argument or in the next one;
it counts as given when something follows that is not its value. Nothing may be given twice in one
part. After two dashes all arguments are operands.
-/

namespace Architecture.CommandLine

/-- How a result is written. -/
inductive Format where
  | text
  | json
  | compact
deriving DecidableEq, Repr

inductive Command where
  /-- Evaluates the rules. -/
  | check (path : String) (format : Format)
  /-- Shows what the types refer to, or only those types whose names hold a text. -/
  | graph (path : String) (filter : Option String) (format : Format)
  | listRules
  /-- Writes a configuration to start from. -/
  | init (force : Bool)
deriving DecidableEq, Repr

/-- What a command line asks for. -/
inductive Request where
  | run (config : Option String) (command : Command)
  | help
  | version
deriving DecidableEq, Repr

/-- What can be given with a command. -/
inductive Setting where
  | verbose
  | config
  | path
  | format
  | filter
  | force
  | help
  | version
deriving DecidableEq, Repr

/-- Why the reading of arguments ends early. -/
inductive Halt where
  /-- The arguments do not follow the rules. -/
  | refused
  /-- Something else than a command is asked for. -/
  | instead (request : Request)
deriving DecidableEq, Repr

def Format.ofName? : String → Option Format
  | "text" => some .text
  | "json" => some .json
  | "compact" => some .compact
  | _ => none

namespace Setting

def long? : Setting → Option String
  | .verbose => some "verbose"
  | .config => some "config"
  | .path => none
  | .format => some "format"
  | .filter => some "type"
  | .force => some "force"
  | .help => some "help"
  | .version => some "version"

def short? : Setting → Option Char
  | .verbose => some 'v'
  | .config => some 'c'
  | .path => none
  | .format => some 'f'
  | .filter => some 't'
  | .force => none
  | .help => some 'h'
  | .version => some 'V'

def takesValue : Setting → Bool
  | .config | .path | .format | .filter => true
  | .verbose | .force | .help | .version => false

/-- Whether a setting can have a value. Paths are not empty. -/
def admits (s : Setting) (value : String) : Bool :=
  match s with
  | .config | .path => value ≠ ""
  | .format => (Format.ofName? value).isSome
  | _ => true

end Setting

inductive CommandName where
  | check
  | graph
  | listRules
  | init
  | help
deriving DecidableEq, Repr

namespace CommandName

def ofName? : String → Option CommandName
  | "check" => some .check
  | "graph" => some .graph
  | "list-rules" => some .listRules
  | "init" => some .init
  | "help" => some .help
  | _ => none

/-- The settings that may follow the name. -/
def settings : CommandName → List Setting
  | .check => [.verbose, .config, .help, .path, .format]
  | .graph => [.verbose, .config, .help, .path, .format, .filter]
  | .listRules => [.verbose, .config, .help]
  | .init => [.verbose, .config, .help, .force]
  | .help => []

end CommandName

/-- The settings that may stand before a command. -/
def leadingSettings : List Setting := [.verbose, .config, .help, .version]

/-- The settings of one part of a command line, as far as they have been read. -/
structure Part where
  allowed : List Setting
  given : List (Setting × String) := []
  /-- A setting that does not count as given yet, with its value if there is one. -/
  pending : Option (Setting × Option String) := none
  operandsOnly : Bool := false
deriving DecidableEq, Repr

namespace Part

def value? (p : Part) (s : Setting) : Option String := p.given.lookup s

/-- Whether the next argument is the value of an option, unless it is an option itself. -/
def awaitsValue (p : Part) : Bool :=
  match p.pending with
  | some (_, none) => true
  | _ => false

/-- A setting counts as given, with a value. -/
def give (p : Part) (s : Setting) (value : String) : Except Halt Part :=
  if (p.value? s).isSome || !s.admits value then .error .refused
  else .ok { p with given := p.given ++ [(s, value)] }

/-- What is pending counts as given. -/
def settle (p : Part) : Except Halt Part :=
  match p.pending with
  | none => .ok p
  | some (_, none) => .error .refused
  | some (s, some value) => { p with pending := none }.give s value

/-- A setting without a value. -/
def giveFlag (p : Part) (s : Setting) : Except Halt Part := do
  let p ← p.settle
  match s with
  | .help => .error (.instead .help)
  | .version => .error (.instead .version)
  | _ => p.give s ""

/-- A setting with the value that stands in the same argument, or with the one to come. -/
def giveOption (p : Part) (s : Setting) (attached : Option String) : Except Halt Part := do
  let p ← p.settle
  match attached with
  | some value => p.give s value
  | none => .ok { p with pending := some (s, none) }

/-- An argument after its two dashes. -/
def readLong (p : Part) (text : List Char) : Except Halt Part :=
  let name := String.ofList (text.takeWhile (· ≠ '='))
  let attached := match text.dropWhile (· ≠ '=') with
    | [] => none
    | _ :: value => some (String.ofList value)
  match p.allowed.find? (·.long? = some name) with
  | none => .error .refused
  | some s =>
    if s.takesValue then p.giveOption s attached
    else if attached.isSome then .error .refused
    else p.giveFlag s

/-- An argument after its single dash: flags, and at the end an option with its value. -/
def readShort (p : Part) : List Char → Except Halt Part
  | [] => .ok p
  | c :: rest =>
    match p.allowed.find? (·.short? = some c) with
    | none => .error .refused
    | some s =>
      if s.takesValue then
        p.giveOption s <| match rest with
          | [] => none
          | '=' :: value => some (String.ofList value)
          | value => some (String.ofList value)
      else do (← p.giveFlag s).readShort rest

/-- An argument that is a path, if one is allowed and none has been given. -/
def readOperand (p : Part) (text : String) : Except Halt Part := do
  let p ← p.settle
  if p.allowed.contains .path && (p.value? .path).isNone then
    return { p with pending := some (.path, some text) }
  else .error .refused

/-- An argument that is no option: the value that is awaited, or an operand. -/
def readPlain (p : Part) (text : String) : Except Halt Part :=
  match p.pending with
  | some (s, none) => .ok { p with pending := some (s, some text) }
  | _ => p.readOperand text

def readArgument (p : Part) (text : String) : Except Halt Part :=
  if p.operandsOnly then p.readOperand text
  else match text.toList with
    | ['-', '-'] => .ok { p with operandsOnly := true }
    | '-' :: '-' :: rest => p.readLong rest
    | ['-'] => p.readPlain text
    | '-' :: rest => p.readShort rest
    | _ => p.readPlain text

def readAll (p : Part) (arguments : List String) : Except Halt Part := do
  (← arguments.foldlM readArgument p).settle

/-- The command that an argument names, where a command may stand. -/
def command? (p : Part) (text : String) : Option CommandName :=
  if p.operandsOnly || p.awaitsValue then none else CommandName.ofName? text

end Part

/-- The command that the settings after its name describe. -/
def command (name : CommandName) (p : Part) : Except Halt Command :=
  let path := (p.value? .path).getD "."
  let format := ((p.value? .format).bind Format.ofName?).getD .text
  match name with
  | .check => .ok (.check path format)
  | .graph => .ok (.graph path (p.value? .filter) format)
  | .listRules => .ok .listRules
  | .init => .ok (.init (p.value? .force).isSome)
  | .help => .error .refused

/-- Help on the whole or on one command. -/
def helpOn : List String → Halt
  | [] => .instead .help
  | [name] => if (CommandName.ofName? name).isSome then .instead .help else .refused
  | _ => .refused

/-- Reads up to the name of a command, then what follows it. The file of the configuration that is
named after the command wins. -/
def readFrom (leading : Part) : List String → Except Halt Request
  | [] => .error .refused
  | argument :: rest =>
    match leading.command? argument with
    | none => do readFrom (← leading.readArgument argument) rest
    | some .help => .error (helpOn rest)
    | some name => do
      let following ← Part.readAll { allowed := name.settings } rest
      let leading ← leading.settle
      let command ← command name following
      return .run (following.value? .config <|> leading.value? .config) command

/-- What the arguments ask for, unless they do not follow the rules. -/
def request? (arguments : List String) : Option Request :=
  match readFrom { allowed := leadingSettings } arguments with
  | .ok request => some request
  | .error (.instead request) => some request
  | .error .refused => none

end Architecture.CommandLine
