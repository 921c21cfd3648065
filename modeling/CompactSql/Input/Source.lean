import CompactSql.Config.Json
import CompactSql.Input.Error

/-!
# Sources of input

Everything that is read comes from a source, which yields the bytes of files and of standard input.
What is done with those bytes does not depend on where they come from.

## Main definitions

* `Source` — where the bytes of files and of standard input come from.
* `textOfBytes` — the text that bytes stand for.
* `Source.readFile`, `Source.readStatement` — reading a text from a file, or a statement.
* `Source.readKeywords` — reading a list of keywords.
* `Source.readConfig` — reading a configuration.
-/

namespace CompactSql

/-- Where the bytes of files and of standard input come from. -/
structure Source (m : Type → Type) where
  /-- The bytes of the file at a path. -/
  file : Text → m (Except ReadFault ByteArray)
  /-- The bytes of standard input. -/
  standardInput : m (Except ReadFault ByteArray)

/-- The text that bytes stand for in UTF-8. -/
def textOfBytes (bytes : ByteArray) : Except ReadFault Text :=
  match String.fromUTF8? bytes with
  | some s => .ok s.toList
  | none => .error .notUtf8

/-- A statement that is read from standard input. -/
def statementOfBytes (bytes : Except ReadFault ByteArray) : Except InputError Text :=
  (bytes.bind textOfBytes).mapError .standardInput

/-- The words of a list of keywords, in lowercase, of which there must be one at least. -/
def keywordsOfText (path : Text) (content : Text) : Except InputError (List Text) :=
  match content.words.map lowercase with
  | [] => .error (.noKeywords path)
  | w :: ws => .ok (w :: ws)

/-- The configuration in a file. If it gives keywords, one of them at least must not be blank. -/
def configOfText (path : Text) (content : Text) : Except InputError Config :=
  match Config.ofJson content with
  | .error e => .error (.config path e content)
  | .ok c => if c.hasNoKeywords then .error (.noKeywords path) else .ok c

namespace Source

variable {m : Type → Type} [Monad m]

/-- Reads the text of a file. -/
def readFile (s : Source m) (path : Text) : m (Except InputError Text) := do
  return ((← s.file path).bind textOfBytes).mapError (.file path)

/-- Reads a statement from a file or, if none is given, from standard input. -/
def readStatement (s : Source m) : Option Text → m (Except InputError Text)
  | some path => s.readFile path
  | none => do return statementOfBytes (← s.standardInput)

/-- Reads a list of keywords. -/
def readKeywords (s : Source m) (path : Text) : m (Except InputError (List Text)) := do
  return (← s.readFile path).bind (keywordsOfText path)

/-- Reads a configuration. -/
def readConfig (s : Source m) (path : Text) : m (Except InputError Config) := do
  return (← s.readFile path).bind (configOfText path)

end Source

end CompactSql
