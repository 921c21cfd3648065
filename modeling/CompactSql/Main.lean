import CompactSql.Command.Run

/-!
# The program

Reads the command line, the environment and the files that it names, and writes the outputs of the
command.
-/

namespace CompactSql

/-- The number of a system error, whose sign may have been turned. -/
def errorNumber (code : UInt32) : Nat := if code < 0x80000000 then code.toNat else (-code).toNat

/-- Why a file could not be read. -/
def faultOfError : IO.Error → ReadFault
  | .noFileOrDirectory .. => .notFound
  | .permissionDenied .. => .other "Permission denied (os error 13)"
  | .inappropriateType _ code details =>
    match errorNumber code with
    | 20 => .notDirectory
    | 21 => .isDirectory
    | _ => .other details
  | .invalidArgument _ code details =>
    if errorNumber code = 36 then .nameTooLong else .other details
  | e => .other (toString e)

/-- The bytes that an action reads, or why it could not. -/
def bytesOf (read : IO ByteArray) : IO (Except ReadFault ByteArray) := do
  try
    return .ok (← read)
  catch e =>
    return .error (faultOfError e)

/-- The bytes of a stream up to its end, behind those that have been read. -/
partial def bytesToEnd (input : IO.FS.Stream) (done : ByteArray) : IO ByteArray := do
  let bytes ← input.read 65536
  if bytes.isEmpty then return done else bytesToEnd input (done ++ bytes)

/-- The files of the system, and the standard input of the program. -/
def systemSource : Source IO where
  file path :=
    if path.isEmpty then return .error .notFound
    else if path.contains '\x00' then return .error .nulInName
    else bytesOf (IO.FS.readBinFile (String.ofList path))
  standardInput := bytesOf do bytesToEnd (← IO.getStdin) .empty

end CompactSql

open CompactSql in
/-- Runs the command line. -/
def main (arguments : List String) : IO UInt32 := do
  let environment? ← IO.getEnv "PGSQL_MINIFY_VERBOSE"
  let outputs ←
    runCommandLine systemSource (arguments.map String.toList) (environment?.map String.toList)
  (← IO.getStdout).putStr (String.ofList outputs.output)
  (← IO.getStderr).putStr (String.ofList outputs.errors)
  return outputs.code
