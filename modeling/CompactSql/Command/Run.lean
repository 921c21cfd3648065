import CompactSql.Command.Arguments
import CompactSql.Compact
import CompactSql.Input.Source
import CompactSql.Listing

/-!
# Running a command

A command reads the configuration, the keywords and the statement, in this order, and then writes
its answer. The first of them that cannot be read ends it, without any answer.

## Main definitions

* `Notice` — what is reported while a command runs.
* `Outputs` — the exit code and what is written.
* `Invocation.run` — runs a command.
* `runCommandLine` — reads a command line and runs what it asks for.
-/

namespace CompactSql

/-! ## Notices -/

/-- The text of a boolean in a notice. -/
def boolText (b : Bool) : String := if b then "true" else "false"

/-- A configuration in a notice. -/
def Config.description (c : Config) : String :=
  let keywords := match c.keywords? with
    | none => "None"
    | some ws => "Some([" ++ ", ".intercalate (ws.map (String.ofList ·.quoted)) ++ "])"
  "Config \x7b include_comments: " ++ boolText c.comments ++ ", include_trailing_semicolon: " ++
    boolText c.semicolon ++ ", keywords: " ++ keywords ++ " \x7d"

/-- Something that is reported while a command runs. -/
inductive Notice where
  | configRead (path : Text)
  | keywordsRead (count : Nat) (path : Text)
  | minifying (c : Config)
  | minified (e : Event)
  | scanned (count : Nat)
  deriving DecidableEq, Repr

namespace Notice

/-- The notice in words. -/
def message : Notice → String
  | configRead path => "loaded config path=" ++ String.ofList path
  | keywordsRead count path =>
    "loaded keyword list count=" ++ toString count ++ " path=" ++ String.ofList path
  | minifying c => "minifying config=" ++ c.description
  | minified e => e.message ++ " tokens=" ++ toString e.number
  | scanned count => "scanned statement count=" ++ toString count

/-- The line of a log that holds the notice. -/
def line (n : Notice) : String := Level.debug.name ++ " " ++ n.message ++ "\n"

end Notice

/-! ## Outputs -/

/-- The exit code of a command, and what it writes to standard output and standard error. -/
structure Outputs where
  code : UInt32
  output : Text
  errors : Text
  deriving DecidableEq, Repr

/-- A text whose lines, the first one too, are indented. -/
def indented (s : String) : String :=
  "    " ++ String.ofList (s.toList.flatMap fun c => if c = '\n' then "\n    ".toList else [c])

/-- What is written about an error of input. -/
def InputError.report (e : InputError) : String :=
  "Error: " ++ e.message ++ "\n" ++
    match e.cause? with
    | some cause => "\nCaused by:\n" ++ indented cause ++ "\n"
    | none => ""

/-- What a command has come to: its answer or the error that ended it, and what was reported until
then. -/
structure Ran where
  notices : List Notice
  answer : Except InputError Text

namespace Ran

/-- The outputs of a command, with or without the notices. -/
def outputs (r : Ran) (verbose : Bool) : Outputs :=
  let log := if verbose then r.notices.flatMap (·.line.toList) else []
  match r.answer with
  | .ok output => ⟨0, output, log⟩
  | .error e => ⟨1, [], log ++ e.report.toList⟩

/-- The command with notices that precede its own. -/
def after (notices : List Notice) (r : Ran) : Ran := ⟨notices ++ r.notices, r.answer⟩

end Ran

/-! ## Running -/

namespace Invocation

variable {m : Type → Type} [Monad m]

/-- The configuration as the options of a command change it. -/
def adjust (action : Action) (c : Config) : Config :=
  match action with
  | .minify comments noTrailingSemicolon =>
    { c with
      comments := c.comments || comments
      semicolon := c.semicolon && !noTrailingSemicolon }
  | .tokens _ => c

/-- The answer of a command to a statement, and what is reported about it. -/
def respond (action : Action) (c : Config) (statement : Text) : Ran :=
  let o := c.options
  match action with
  | .minify .. =>
    ⟨((compactEvents o statement).filter (·.level = .debug)).map .minified,
      .ok (compact o statement ++ ['\n'])⟩
  | .tokens json =>
    let ts := scan o.keywordSet statement
    ⟨[.scanned ts.length], .ok (if json then jsonListing ts ++ ['\n'] else listing ts)⟩

/-- Reads the statement and answers to it. -/
def runWith (i : Invocation) (s : Source m) (c : Config) : m Ran := do
  let c := adjust i.action c
  let announced : List Notice := match i.action with
    | .minify .. => [.minifying c]
    | .tokens _ => []
  match ← s.readStatement i.file? with
  | .error e => return ⟨announced, .error e⟩
  | .ok statement => return (respond i.action c statement).after announced

/-- Reads the keywords, if a list is named, and goes on with them. -/
def runKeywords (i : Invocation) (s : Source m) (c : Config) : m Ran :=
  match i.keywords? with
  | none => i.runWith s c
  | some path => do
    match ← s.readKeywords path with
    | .error e => return ⟨[], .error e⟩
    | .ok ws =>
      return (← i.runWith s { c with keywords? := some ws }).after [.keywordsRead ws.length path]

/-- Reads the configuration, if one is named, and goes on with it. -/
def runConfig (i : Invocation) (s : Source m) : m Ran :=
  match i.config? with
  | none => i.runKeywords s {}
  | some path => do
    match ← s.readConfig path with
    | .error e => return ⟨[], .error e⟩
    | .ok c => return (← i.runKeywords s c).after [.configRead path]

/-- Runs a command. -/
def run (i : Invocation) (s : Source m) : m Outputs := do
  return (← i.runConfig s).outputs i.verbose

end Invocation

/-- What is written about the program's version. -/
def versionText : String := "pgsql-minify 0.1.0\n"

/-- What is written to explain the program. -/
def helpText : String :=
  purpose ++ "\n\n" ++
  "Usage: pgsql-minify [OPTIONS] <COMMAND>\n\n" ++
  "Commands:\n" ++
  "  minify  Print the minified statement\n" ++
  "  tokens  Print the token stream\n" ++
  "  help    Print this message or the help of the given subcommand(s)\n\n" ++
  "Options:\n" ++
  "  -c, --config <CONFIG>      JSON config file\n" ++
  "  -k, --keywords <KEYWORDS>  Whitespace-separated keyword list replacing the default set\n" ++
  "  -v, --verbose              Enable verbose output\n" ++
  "  -h, --help                 Print help\n" ++
  "  -V, --version              Print version\n"

/-- The outputs where a command line is not read to its end. -/
def Stop.outputs : Stop → Outputs
  | help => ⟨0, helpText.toList, []⟩
  | version => ⟨0, versionText.toList, []⟩
  | usage e => ⟨2, [], e.line⟩

/-- Reads a command line and runs what it asks for. -/
def runCommandLine {m : Type → Type} [Monad m] (s : Source m) (arguments : List Text)
    (environment? : Option Text) : m Outputs :=
  match Invocation.ofArguments arguments environment? with
  | .error stop => return stop.outputs
  | .ok i => i.run s

end CompactSql
