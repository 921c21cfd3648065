import CompactSql.Json.Error

/-!
# Errors of input

Files and standard input may turn out to be unreadable, a configuration to be no JSON text of one,
and a list of keywords to be empty.

## Main definitions

* `ReadFault` — why bytes could not be read, or were no text.
* `InputError` — what went wrong with an input.
* `InputError.message`, `InputError.cause?` — the error in words, and what caused it.
-/

namespace CompactSql

/-- Why an input could not be read as a text. -/
inductive ReadFault where
  | notFound
  | notDirectory
  | isDirectory
  | nameTooLong
  | nulInName
  | notUtf8
  | other (message : String)
  deriving DecidableEq, Repr

/-- The fault in words. -/
def ReadFault.message : ReadFault → String
  | notFound => "No such file or directory (os error 2)"
  | notDirectory => "Not a directory (os error 20)"
  | isDirectory => "Is a directory (os error 21)"
  | nameTooLong => "File name too long (os error 36)"
  | nulInName => "file name contained an unexpected NUL byte"
  | notUtf8 => "stream did not contain valid UTF-8"
  | other message => message

/-- What went wrong with an input. -/
inductive InputError where
  | file (path : Text) (fault : ReadFault)
  | standardInput (fault : ReadFault)
  | config (path : Text) (failure : Json.Failure) (content : Text)
  | noKeywords (path : Text)
  deriving DecidableEq, Repr

namespace InputError

/-- A path between quotes. -/
def inQuotes (path : Text) : String := "'" ++ String.ofList path ++ "'"

/-- The error in words. -/
def message : InputError → String
  | file path fault => "Failed to read " ++ inQuotes path ++ ": " ++ fault.message
  | standardInput fault => "Failed to read standard input: " ++ fault.message
  | config path failure content =>
    "Invalid config file " ++ inQuotes path ++ ": " ++ failure.message content
  | noKeywords path => "Keyword list " ++ inQuotes path ++ " contains no words"

/-- What caused the error, in words. -/
def cause? : InputError → Option String
  | file _ fault => some fault.message
  | standardInput fault => some fault.message
  | config _ failure content => some (failure.message content)
  | noKeywords _ => none

end InputError

end CompactSql
