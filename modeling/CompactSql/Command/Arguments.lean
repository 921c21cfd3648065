import CompactSql.Text.Controls

/-!
# Command lines

A command line names a command, its options and perhaps a file. The options that all commands share
may stand before the command as well as behind it; then the ones behind it win. An option that takes
a value has it attached, behind `=` or right behind its letter, or as the next argument. Behind `--`
everything is a file. The variable of the environment that stands for `--verbose` counts wherever
that option is not given.

## Main definitions

* `Command`, `Switch`, `Setting` — the commands, the options without and those with a value.
* `UsageError`, `UsageError.line` — what is wrong with a command line, and how it is put into words.
* `Invocation` — what a command line asks for.
* `Arguments`, `Arguments.parse` — the arguments of one command, and how they are read.
* `Invocation.ofArguments` — reads a whole command line.
-/

namespace CompactSql

/-! ## Commands and options -/

/-- The commands. `root` is the program itself, before any command is named. -/
inductive Command where
  | root
  | minify
  | tokens
  deriving DecidableEq, Repr

/-- The options without a value. -/
inductive Switch where
  | verbose
  | comments
  | noTrailingSemicolon
  | json
  | help
  | version
  deriving DecidableEq, Repr

/-- The options with a value. -/
inductive Setting where
  | config
  | keywords
  deriving DecidableEq, Repr

/-- An option. -/
inductive Opt where
  | switch (s : Switch)
  | setting (s : Setting)
  deriving DecidableEq, Repr

/-- The commands that may be named, with their names. -/
def Command.ofName? (name : Text) : Option Command :=
  if name = "minify".toList then some .minify
  else if name = "tokens".toList then some .tokens
  else none

/-- The name of the command that explains the others. -/
def helpCommand : Text := "help".toList

/-- The long name of a switch. -/
def Switch.name : Switch → String
  | verbose => "verbose"
  | comments => "comments"
  | noTrailingSemicolon => "no-trailing-semicolon"
  | json => "json"
  | help => "help"
  | version => "version"

/-- A switch as it is named in messages. -/
def Switch.display (s : Switch) : String := "--" ++ s.name

/-- The long name of a setting. -/
def Setting.name : Setting → String
  | config => "config"
  | keywords => "keywords"

/-- A setting as it is named in messages. -/
def Setting.display : Setting → String
  | config => "--config <CONFIG>"
  | keywords => "--keywords <KEYWORDS>"

namespace Command

/-- The switches of a command. -/
def switches : Command → List Switch
  | root => [.verbose, .help, .version]
  | minify => [.verbose, .comments, .noTrailingSemicolon, .help]
  | tokens => [.verbose, .json, .help]

/-- The option of a command with a given long name. -/
def longOption? (c : Command) (name : Text) : Option Opt :=
  (c.switches.map Opt.switch ++ [Opt.setting .config, Opt.setting .keywords]).find? fun o =>
    match o with
    | .switch s => s.name.toList == name
    | .setting s => s.name.toList == name

/-- The option of a command with a given letter. -/
def shortOption? (c : Command) (letter : Char) : Option Opt :=
  match letter with
  | 'c' => some (.setting .config)
  | 'k' => some (.setting .keywords)
  | 'v' => some (.switch .verbose)
  | 'h' => some (.switch .help)
  | 'V' => if c = root then some (.switch .version) else none
  | _ => none

end Command

/-! ## What may come of a command line -/

/-- What is wrong with a command line. -/
inductive UsageError where
  | unrecognizedCommand (name : Text)
  | unexpectedArgument (argument : Text)
  | unexpectedValue (value : Text) (option : Switch)
  | valueRequired (place : String)
  | usedTwice (option : String)
  | invalidValue (value : Text) (option : Switch)
  | missingCommand
  | noArguments
  deriving DecidableEq, Repr

/-- What the program is for. -/
def purpose : String := "Command-line tool that minifies and tokenizes Postgres SQL statements"

namespace UsageError

/-- A text of the command line as messages show it: between quotes and without its control
sequences. -/
def shown (t : Text) : String := "'" ++ String.ofList t.withoutControls ++ "'"

/-- The error in words. -/
def message : UsageError → String
  | unrecognizedCommand name => "error: unrecognized subcommand " ++ shown name
  | unexpectedArgument argument => "error: unexpected argument " ++ shown argument ++ " found"
  | unexpectedValue value option =>
    "error: unexpected value " ++ shown value ++ " for '" ++ option.display ++
      "' found; no more were expected"
  | valueRequired place => "error: a value is required for '" ++ place ++ "' but none was supplied"
  | usedTwice option => "error: the argument '" ++ option ++ "' cannot be used multiple times"
  | invalidValue value option =>
    "error: invalid value " ++ shown value ++ " for '" ++ option.display ++ "'"
  | missingCommand => "error: 'pgsql-minify' requires a subcommand but one was not provided"
  | noArguments => purpose

/-- What is written about the error: the first line of the message. -/
def line (e : UsageError) : Text := e.message.toList.takeWhile (· != '\n')

end UsageError

/-- Why a command line is not read to its end. -/
inductive Stop where
  | help
  | version
  | usage (e : UsageError)
  deriving DecidableEq, Repr

/-! ## The arguments of one command -/

/-- Where a value belongs. -/
inductive Slot where
  | setting (s : Setting)
  | file
  deriving DecidableEq, Repr

/-- A place for a value as it is named in messages. -/
def Slot.display : Slot → String
  | setting s => s.display
  | file => "[FILE]"

/-- The arguments of one command that have been read. The last value is pending until the next
argument has been looked at, and is checked only then. -/
structure Arguments where
  config? : Option Text := none
  keywords? : Option Text := none
  file? : Option Text := none
  given : List Switch := []
  pending? : Option (Slot × Option Text) := none
  deriving DecidableEq, Repr

namespace Arguments

/-- The value in a place. -/
def get? (a : Arguments) : Slot → Option Text
  | .setting .config => a.config?
  | .setting .keywords => a.keywords?
  | .file => a.file?

/-- The arguments with a value put into a place. -/
def set (a : Arguments) (s : Slot) (value : Text) : Arguments :=
  match s with
  | .setting .config => { a with config? := some value }
  | .setting .keywords => { a with keywords? := some value }
  | .file => { a with file? := some value }

/-- Puts a value into its place, which must be empty, while the value must not. -/
def store (a : Arguments) (s : Slot) : Option Text → Except Stop Arguments
  | none => .error (.usage (.valueRequired s.display))
  | some value =>
    if (a.get? s).isSome then .error (.usage (.usedTwice s.display))
    else if value.isEmpty then .error (.usage (.valueRequired s.display))
    else .ok (a.set s value)

/-- Puts the pending value into its place. -/
def settle (a : Arguments) : Except Stop Arguments :=
  match a.pending? with
  | none => .ok a
  | some (s, value?) => { a with pending? := none }.store s value?

/-- Whether the next argument is the value of a setting. -/
def awaitsValue (a : Arguments) : Bool :=
  match a.pending? with
  | some (.setting _, none) => true
  | _ => false

/-- Reads a switch. -/
def addSwitch (a : Arguments) (s : Switch) : Except Stop Arguments := do
  let a ← a.settle
  match s with
  | .help => .error .help
  | .version => .error .version
  | s =>
    if a.given.contains s then .error (.usage (.usedTwice s.display))
    else return { a with given := s :: a.given }

/-- Reads a setting with the value that is attached to it, or makes it pending. -/
def addSetting (a : Arguments) (s : Setting) (attached? : Option Text) :
    Except Stop Arguments := do
  let a ← a.settle
  match attached? with
  | some value => a.store (.setting s) (some value)
  | none => return { a with pending? := some (.setting s, none) }

/-- Reads an option by its long name. -/
def addLong (c : Command) (a : Arguments) (name : Text) (attached? : Option Text) :
    Except Stop Arguments :=
  match c.longOption? name with
  | none => .error (.usage (.unexpectedArgument ('-' :: '-' :: name)))
  | some (.setting s) => a.addSetting s attached?
  | some (.switch s) =>
    match attached? with
    | some value => .error (.usage (.unexpectedValue value s))
    | none => a.addSwitch s

/-- Reads options by their letters. What follows the letter of a setting is its value. -/
def addShort (c : Command) (a : Arguments) : Text → Except Stop Arguments
  | [] => .ok a
  | letter :: letters =>
    match c.shortOption? letter with
    | none => .error (.usage (.unexpectedArgument ['-', letter]))
    | some (.switch s) => do addShort c (← a.addSwitch s) letters
    | some (.setting s) =>
      match letters with
      | [] => a.addSetting s none
      | '=' :: value => a.addSetting s (some value)
      | value => a.addSetting s (some value)

/-- Reads an argument that is no option. -/
def addPlain (c : Command) (a : Arguments) (behindDashes : Bool) (argument : Text) :
    Except Stop Arguments :=
  match c with
  | .root =>
    if behindDashes && ((Command.ofName? argument).isSome || argument = helpCommand) then
      .error (.usage (.unexpectedArgument argument))
    else .error (.usage (.unrecognizedCommand argument))
  | _ =>
    match a.pending? with
    | some (.file, _) => .error (.usage (.unexpectedArgument argument))
    | _ =>
      if a.file?.isSome then .error (.usage (.unexpectedArgument argument))
      else do return { ← a.settle with pending? := some (.file, some argument) }

/-- A long option cut into its name and the value behind `=`. -/
def cutValue (t : Text) : Text × Option Text :=
  match Text.cutAt ['='] t with
  | some (name, value) => (name, some value)
  | none => (t, none)

/-- Reads the arguments of a command, up to the name of another one. -/
def parse (c : Command) (a : Arguments) (behindDashes : Bool) :
    List Text → Except Stop (Arguments × Option (Text × List Text))
  | [] => .ok (a, none)
  | argument :: others =>
    if behindDashes then do
      parse c (← a.addPlain c true argument) true others
    else if c = .root && !a.awaitsValue &&
        ((Command.ofName? argument).isSome || argument = helpCommand) then
      .ok (a, some (argument, others))
    else
      match argument with
      | ['-', '-'] => parse c a true others
      | '-' :: '-' :: long => do
        let (name, attached?) := cutValue long
        parse c (← a.addLong c name attached?) false others
      | '-' :: letter :: letters => do
        parse c (← a.addShort c (letter :: letters)) false others
      | plain =>
        match a.pending? with
        | some (.setting s, none) =>
          parse c { a with pending? := some (.setting s, some plain) } false others
        | _ => do parse c (← a.addPlain c false plain) false others

/-- Whether the environment asks for more output, if it has to be looked at. -/
def verboseIn (a : Arguments) (environment? : Option Text) : Except Stop Bool :=
  if a.given.contains .verbose then .ok true
  else
    match environment? with
    | none => .ok false
    | some value =>
      if value.isEmpty then .error (.usage (.valueRequired Switch.verbose.display))
      else if value = "true".toList then .ok true
      else if value = "false".toList then .ok false
      else .error (.usage (.invalidValue value .verbose))

end Arguments

/-! ## Whole command lines -/

/-- What a command does. -/
inductive Action where
  /-- Writes the compact form of a statement. -/
  | minify (comments noTrailingSemicolon : Bool)
  /-- Writes the tokens of a statement. -/
  | tokens (json : Bool)
  deriving DecidableEq, Repr

/-- What a command line asks for. -/
structure Invocation where
  config? : Option Text
  keywords? : Option Text
  file? : Option Text
  verbose : Bool
  action : Action
  deriving DecidableEq, Repr

namespace Invocation

/-- What a command asks for, from the arguments before and behind its name. -/
def ofParts (c : Command) (before behind : Arguments) (verbose : Bool) : Invocation where
  config? := behind.config? <|> before.config?
  keywords? := behind.keywords? <|> before.keywords?
  file? := behind.file?
  verbose := verbose
  action :=
    if c = .tokens then .tokens (behind.given.contains .json)
    else .minify (behind.given.contains .comments) (behind.given.contains .noTrailingSemicolon)

/-- What is wrong where no command is named. -/
def withoutCommand (a : Arguments) (environment? : Option Text) : UsageError :=
  if a.config?.isNone && a.keywords?.isNone && a.given.isEmpty && environment?.isNone then
    .noArguments
  else .missingCommand

/-- What comes of the arguments behind `help`: one command at most may be named, since commands have
no commands of their own. -/
def explain : List Text → Stop
  | [] => .help
  | name :: others =>
    if (Command.ofName? name).isSome || name = helpCommand then
      match others with
      | [] => .help
      | other :: _ => .usage (.unrecognizedCommand other)
    else .usage (.unrecognizedCommand name)

/-- Reads a command line. `environment?` is the value of the variable that stands for `--verbose`.
The arguments behind the name of the command are looked at before those in front of it are
checked. -/
def ofArguments (arguments : List Text) (environment? : Option Text) : Except Stop Invocation := do
  let (before, named?) ← Arguments.parse .root {} false arguments
  match named? with
  | none =>
    let before ← before.settle
    let _ ← before.verboseIn environment?
    .error (.usage (withoutCommand before environment?))
  | some (name, others) =>
    match Command.ofName? name with
    | none => .error (explain others)
    | some c =>
      let (behind, _) ← Arguments.parse c {} false others
      let behind ← behind.settle
      let verboseBehind ← behind.verboseIn environment?
      let before ← before.settle
      let verboseBefore ← before.verboseIn environment?
      return ofParts c before behind (verboseBehind || verboseBefore)

end Invocation

end CompactSql
