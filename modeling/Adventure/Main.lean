/-
The program: arguments, files and standard input go in, and what the run says comes out.
-/
import Adventure.CommandLine

namespace Adventure.Main

/-- The number of a system error; some calls report it negated. -/
def errorNumber (code : UInt32) : Nat :=
  if code > 0x7FFFFFFF then (0 - code).toNat else code.toNat

/-- Why the system could not read a file. -/
def readFault : IO.Error → ReadFault
  | .noFileOrDirectory .. => .notFound
  | .inappropriateType _ code _ => if errorNumber code = 20 then .notDirectory else .isDirectory
  | .invalidArgument _ code details =>
    if errorNumber code = 36 then .nameTooLong else .other details
  | .permissionDenied .. => .other "Permission denied (os error 13)"
  | e => .other e.toString

/-- Reads a file as text. -/
def readText (path : String) : IO (Except ReadFault String) := do
  try
    let contents ← IO.FS.readBinFile path
    match Text.decode? contents.toList with
    | some text => return .ok text
    | none => return .error .notText
  catch e => return .error (readFault e)

/-- Reads the alias file that the arguments name, if they name one. -/
def readAliasFile (arguments : List String) : IO (Except ReadFault String) := do
  match Invocation.parse arguments with
  | .ok i =>
    match i.aliasFile with
    | some path => readText path
    | none => return .error .notFound
  | .error _ => return .error .notFound

/-- Whether the arguments ask for standard input at all. -/
def readsInput (arguments : List String) : Bool :=
  match Invocation.parse arguments with
  | .ok i => !i.help && !i.version
  | .error _ => false

end Adventure.Main

/-- Runs the program. -/
def main (arguments : List String) : IO UInt32 := do
  let file ← Adventure.Main.readAliasFile arguments
  let input ←
    if Adventure.Main.readsInput arguments then (← IO.getStdin).readBinToEnd else pure .empty
  let outcome := Adventure.CommandLine.run arguments (fun _ => file) input.toList
  IO.print outcome.output
  if let some fault := outcome.fault then
    IO.eprint (Adventure.CommandLine.Outcome.errorText fault.message)
  return outcome.code.toUInt32
