import ScriptBridge.Files.Path

/-!
# Command line arguments

An option of the program stands in front of the subcommand; what follows the subcommand belongs to it. Options may be
written apart from their value, or together with it behind an equals sign. Behind two dashes nothing is an option. Each
option may be given once.
-/
namespace ScriptBridge.Cli

inductive Command where
  /-- Show where files are kept. -/
  | paths
  /-- Write an example configuration. -/
  | init (force : Bool)
  /-- List the configured scripts. -/
  | scripts
  /-- Print the input sections of a manifest. -/
  | sections (file : Path)
  /-- Replay key releases against a manifest. -/
  | dispatch (file : Path) (targets : List String) (state : String)
  deriving Repr

structure Arguments where
  config : Option Path
  command : Command
  deriving Repr

inductive Invocation where
  | run (arguments : Arguments)
  | version
  | help
  /-- They are not understood. -/
  | refused
  deriving Repr

/-- One argument by its form. -/
inductive Argument where
  /-- Two dashes and a name, possibly with a value. -/
  | long (name : List Char) (value : Option (List Char))
  /-- One dash and letters. -/
  | short (letters : List Char)
  /-- Two dashes alone. -/
  | divider
  | plain (text : List Char)
  deriving DecidableEq, Repr

def Argument.ofChars : List Char → Argument
  | ['-', '-'] => .divider
  | '-' :: '-' :: body =>
    let name := body.takeWhile (· ≠ '=')
    .long name (if body.contains '=' then some (body.drop (name.length + 1)) else none)
  | '-' :: c :: letters => .short (c :: letters)
  | text => .plain text

def Argument.ofString (text : String) : Argument := .ofChars text.toList

/-- The argument is taken as the value of the option in front of it. -/
def value? (text : String) : Option String :=
  match Argument.ofString text with
  | .plain _ => some text
  | _ => none

/-- A path given as an argument; it cannot be empty. -/
def path? (text : String) : Option Path := if text = "" then none else some (.ofString text)

/-- The value behind a letter: an equals sign in front of it does not belong to it. -/
def attached (value : List Char) : String :=
  String.ofList (if value.head? = some '=' then value.drop 1 else value)

/-- What a subcommand accepts. -/
structure Shape where
  force : Bool := false
  state : Bool := false
  /-- The most arguments that are no options; any number if there is none. -/
  most : Option Nat := some 0

structure Given where
  force : Bool := false
  state : Option String := none
  /-- The arguments that are no options, in order. -/
  operands : List String := []

/-- Adds an argument that is no option, if there is room for it. -/
def Given.addOperand (given : Given) (shape : Shape) (text : String) : Option Given :=
  if shape.most.all (given.operands.length < ·) then some { given with operands := given.operands ++ [text] }
  else none

/-- Why the arguments of a subcommand do not make a command. -/
inductive Stop where
  | help
  | refused

def gather (shape : Shape) (given : Given) : List String → Except Stop Given
  | [] => .ok given
  | text :: rest =>
    match Argument.ofString text with
    | .divider =>
      match rest.foldlM (fun given text => given.addOperand shape text) given with
      | some given => .ok given
      | none => .error .refused
    | .short letters => .error (if letters.head? = some 'h' then .help else .refused)
    | .long name value =>
      let name := String.ofList name
      if name = "help" && value.isNone then .error .help
      else if name = "force" && shape.force && value.isNone && !given.force then
        gather shape { given with force := true } rest
      else if name = "state" && shape.state && given.state.isNone then
        match value with
        | some text => gather shape { given with state := some (String.ofList text) } rest
        | none =>
          match rest with
          | [] => .error .refused
          | next :: rest =>
            match value? next with
            | some text => gather shape { given with state := some text } rest
            | none => .error .refused
      else .error .refused
    | .plain _ =>
      match given.addOperand shape text with
      | some given => gather shape given rest
      | none => .error .refused

def shape? (name : String) : Option Shape :=
  if name = "paths" ∨ name = "scripts" then some {}
  else if name = "init" then some { force := true }
  else if name = "sections" then some { most := some 1 }
  else if name = "dispatch" then some { state := true, most := none }
  else none

/-- The command that a subcommand makes of what it was given. -/
def command? (name : String) (given : Given) : Option Command :=
  if name = "paths" then some .paths
  else if name = "scripts" then some .scripts
  else if name = "init" then some (.init given.force)
  else
    match given.operands with
    | [] => none
    | file :: targets =>
      match path? file with
      | none => none
      | some file =>
        if name = "sections" then some (.sections file)
        else if targets.isEmpty then none
        else some (.dispatch file targets (given.state.getD "u-"))

def readCommand (config : Option Path) (name : String) (rest : List String) : Invocation :=
  if name = "help" then
    match rest with
    | [] => .help
    | [topic] => if topic = "help" ∨ (shape? topic).isSome then .help else .refused
    | _ => .refused
  else
    match shape? name with
    | none => .refused
    | some shape =>
      match gather shape {} rest with
      | .error .help => .help
      | .error .refused => .refused
      | .ok given =>
        match command? name given with
        | some command => .run ⟨config, command⟩
        | none => .refused

/-- The arguments from the given place on, with the configuration file named so far. -/
def readFrom (config : Option Path) : List String → Invocation
  | [] => .refused
  | text :: rest =>
    match Argument.ofString text with
    | .divider => .refused
    | .plain _ => readCommand config text rest
    | .short ('V' :: _) => .version
    | .short ('h' :: _) => .help
    | .short ('c' :: value) => if value.isEmpty then apart rest else joined (attached value) rest
    | .short _ => .refused
    | .long name value =>
      if name = "config".toList then
        match value with
        | some value => joined (String.ofList value) rest
        | none => apart rest
      else if name = "version".toList && value.isNone then .version
      else if name = "help".toList && value.isNone then .help
      else .refused
where
  /-- The configuration file is the next argument. -/
  apart : List String → Invocation
    | [] => .refused
    | next :: rest =>
      match value? next with
      | some value => joined value rest
      | none => .refused
  /-- The configuration file is given. -/
  joined (value : String) (rest : List String) : Invocation :=
    match config, path? value with
    | none, some path => readFrom (some path) rest
    | _, _ => .refused

def read (arguments : List String) : Invocation := readFrom none arguments

end ScriptBridge.Cli
