/-
The arguments of the program, read from left to right. The first thing that is
found wrong, or the first request for help, decides.

    [--config FILE] serve [--listen ADDRESS]
    [--config FILE] load [--url URL] [--streams N] [--size N] [--timeout N]
    help [COMMAND]

An option's value is the next argument, which then may not look like an option,
or follows an equals sign. Every option may be given once; `--config` once
before and once after the command, and the later one counts.

A value that is an argument of its own is looked at late: when the next option
comes, or at the end. So a request for help after the command is granted even
if the last value before the command is bad.
-/
import StreamMux.CommandLine.Address

namespace StreamMux.CommandLine

structure LoadOptions where
  url : String
  streams : Nat
  size : Nat
  /-- Read deadline of each stream, in seconds. -/
  timeout : Nat
deriving DecidableEq, Repr

inductive Command
  | serve (listen : Address)
  | load (options : LoadOptions)
deriving DecidableEq, Repr

/-- What the arguments ask for. -/
inductive Request
  | help
  | invalid
  | run (config : Option String) (command : Command)
deriving DecidableEq, Repr

inductive OptionName
  | config | listen | url | streams | size | timeout
deriving DecidableEq, Repr

/-- An argument as far as its own spelling tells. -/
inductive Token
  | option (name : OptionName) (attached : Option String)
  | help
  /-- `--` on its own: what follows are no options. -/
  | endOfOptions
  /-- It looks like an option but is none, or is misspelt. -/
  | unknown
  | plain (text : String)
deriving DecidableEq, Repr

/-- The options of a command, by name; `none` is before the command. -/
inductive Scope
  | top | serve | load
deriving DecidableEq, Repr

def Scope.option? (scope : Scope) (name : String) : Option OptionName :=
  match scope, name with
  | _, "config" => some .config
  | .serve, "listen" => some .listen
  | .load, "url" => some .url
  | .load, "streams" => some .streams
  | .load, "size" => some .size
  | .load, "timeout" => some .timeout
  | _, _ => none

def Scope.token (scope : Scope) (arg : String) : Token :=
  match arg.toList with
  | ['-', '-'] => .endOfOptions
  | ['-'] => .plain arg
  | '-' :: '-' :: rest =>
    let name := String.ofList (rest.takeWhile (· != '='))
    let attached := match rest.dropWhile (· != '=') with
      | [] => none
      | _ :: value => some (String.ofList value)
    match name, attached with
    | "help", none => .help
    | _, _ =>
      match scope.option? name with
      | some o => .option o attached
      | none => .unknown
  | '-' :: 'h' :: _ => .help
  | '-' :: _ => .unknown
  | _ => .plain arg

/-- A number of at most 64 bits; a plus sign and zeros may stand in front. -/
def number? (text : String) : Option Nat :=
  Text.unsigned? UInt64.size text.toList

/-- The values given so far, as they were written. -/
abbrev Given := List (OptionName × String)

/-- Whether the text is a value of the option. -/
def OptionName.accepts (name : OptionName) (value : String) : Bool :=
  match name with
  | .config => !value.isEmpty
  | .listen => (Address.parse? value).isSome
  | .url => true
  | .streams | .size | .timeout => (number? value).isSome

/-- Adds an option to those given; `none` if it was there or has a bad value. -/
def give (given : Given) (name : OptionName) (value : String) : Option Given :=
  if given.any (·.1 = name) || !name.accepts value then none else some (given ++ [(name, value)])

/-- The options read so far; the last one may wait to be looked at. -/
structure Reading where
  given : Given
  waiting : Option (OptionName × String)

/-- Looks at the option that waits; `none` if it was there before or has a bad
value. -/
def Reading.settle (r : Reading) : Option Given :=
  match r.waiting with
  | none => some r.given
  | some (name, value) => give r.given name value

/-- How reading a run of options ends. -/
inductive Stop
  | help
  | invalid
  /-- No argument is left. -/
  | done (given : Given)
  /-- An argument that is no option, and those after it. -/
  | word (before : Reading) (word : String) (rest : List String)

/-- Reads options up to the first argument that is none. -/
def readOptions (scope : Scope) (r : Reading) : List String → Stop
  | [] =>
    match r.settle with
    | some given => .done given
    | none => .invalid
  | arg :: rest =>
    match scope.token arg, r.settle with
    | .plain word, _ => .word r word rest
    | .unknown, _ | _, none => .invalid
    | .help, some _ => .help
    | .endOfOptions, some given => if rest.isEmpty then .done given else .invalid
    | .option name (some value), some given =>
      match give given name value with
      | some given => readOptions scope ⟨given, none⟩ rest
      | none => .invalid
    | .option name none, some given =>
      match rest with
      | [] => .invalid
      | value :: rest =>
        match scope.token value with
        | .plain _ => readOptions scope ⟨given, some (name, value)⟩ rest
        | _ => .invalid

def Given.value? (given : Given) (name : OptionName) : Option String :=
  (given.find? (·.1 = name)).map (·.2)

def Given.number (given : Given) (name : OptionName) (default : Nat) : Nat :=
  ((given.value? name).bind number?).getD default

def defaultAddress : Address := .v4 [127, 0, 0, 1] 9400

/-- The command with the values given for it. -/
def commandOf (scope : Scope) (given : Given) : Command :=
  match scope with
  | .load => .load {
      url := (given.value? .url).getD "ws://127.0.0.1:9400"
      streams := given.number .streams 50
      size := given.number .size (64 * 1024)
      timeout := given.number .timeout 30 }
  | _ => .serve (((given.value? .listen).bind Address.parse?).getD defaultAddress)

/-- Reads what follows the name of a command. -/
def readCommand (scope : Scope) (before : Given) (args : List String) : Request :=
  match readOptions scope ⟨[], none⟩ args with
  | .help => .help
  | .invalid | .word _ _ _ => .invalid
  | .done given =>
    .run ((given.value? .config).or (before.value? .config)) (commandOf scope given)

/-- Reads what begins with the name of a command. -/
def readWord (before : Given) (word : String) (rest : List String) : Request :=
  match word with
  | "serve" => readCommand .serve before rest
  | "load" => readCommand .load before rest
  | "help" =>
    match rest with
    | [] => .help
    | [topic] => if ["serve", "load", "help"].contains topic then .help else .invalid
    | _ => .invalid
  | _ => .invalid

/-- Reads the arguments of the program. -/
def readArguments (args : List String) : Request :=
  match readOptions .top ⟨[], none⟩ args with
  | .help => .help
  | .invalid | .done _ => .invalid
  | .word before word rest =>
    match readWord (before.settle.getD []) word rest, before.settle with
    | .run _ _, none => .invalid
    | request, _ => request

end StreamMux.CommandLine
