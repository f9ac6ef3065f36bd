/-
The command line.

Arguments are read from left to right in groups: a switch by itself, or the option for the
alias file with the argument behind it, whatever that looks like.  Help goes before the
version, and both before any work.  A named alias file has to be there and to be right.
Then standard input is answered line by line, or taken as a conversation.

A run is a function of its arguments, the files and standard input.
-/
import Adventure.Aliases.File
import Adventure.Session.Batch
import Adventure.Session.Exchange

namespace Adventure

/-- What a switch turns on. -/
inductive Switch where
  | help
  | version
  | batch
  | verbose
  | tokens
  | json
  deriving DecidableEq, Repr

namespace Switch

/-- Reads a switch. -/
def ofArgument? (argument : String) : Option Switch :=
  if argument = "-h" ∨ argument = "--help" then some .help
  else if argument = "-V" ∨ argument = "--version" then some .version
  else if argument = "-b" ∨ argument = "--batch" then some .batch
  else if argument = "-v" ∨ argument = "--verbose" then some .verbose
  else if argument = "--tokens" then some .tokens
  else if argument = "--json" then some .json
  else none

end Switch

/-- What the arguments ask for. -/
structure Invocation where
  aliasFile : Option String := none
  help : Bool := false
  version : Bool := false
  batch : Bool := false
  verbose : Bool := false
  tokens : Bool := false
  json : Bool := false
  deriving DecidableEq, Repr

/-- Why arguments cannot be read. -/
inductive UsageFault where
  | aliasesWithoutFile
  | unknownOption (argument : String)
  deriving DecidableEq, Repr

namespace UsageFault

/-- The fault in words. -/
def message : UsageFault → String
  | aliasesWithoutFile => "--aliases requires a file"
  | unknownOption argument => "unknown option: " ++ argument

end UsageFault

namespace Invocation

/-- Turns a switch on. -/
def turnOn (i : Invocation) : Switch → Invocation
  | .help => { i with help := true }
  | .version => { i with version := true }
  | .batch => { i with batch := true }
  | .verbose => { i with verbose := true }
  | .tokens => { i with tokens := true }
  | .json => { i with json := true }

/-- Whether an argument is the option for the alias file. -/
def isAliasOption (argument : String) : Bool :=
  argument == "-a" || argument == "--aliases"

/-- Reads the arguments that follow those already read. -/
def parseFrom (i : Invocation) : List String → Except UsageFault Invocation
  | [] => .ok i
  | argument :: rest =>
    match Switch.ofArgument? argument with
    | some switch => (i.turnOn switch).parseFrom rest
    | none =>
      if isAliasOption argument then
        match rest with
        | [] => .error .aliasesWithoutFile
        | file :: rest => { i with aliasFile := some file }.parseFrom rest
      else .error (.unknownOption argument)

/-- Reads the arguments after the name of the program. -/
def parse (arguments : List String) : Except UsageFault Invocation :=
  ({} : Invocation).parseFrom arguments

/-- The settings of the session that is asked for. -/
def settings (i : Invocation) : Settings where
  showBanner := !i.batch
  showTokens := i.tokens
  format := if i.json then .json else .text

end Invocation

namespace CommandLine

/-- The help text. -/
def helpText : String :=
  "\n".intercalate
    ["\x1b[1mWaymark\x1b[0m - Command parser for text adventures",
     "",
     "\x1b[1mUSAGE:\x1b[0m",
     "    waymark [OPTIONS]",
     "",
     "\x1b[1mOPTIONS:\x1b[0m",
     "    -h, --help           Print help information",
     "    -V, --version        Print version information",
     "    -a, --aliases FILE   Load keyword aliases from a YAML file",
     "    -b, --batch          Parse stdin line by line and exit (no REPL)",
     "    --tokens             Print the token stream for each line",
     "    --json               Print each command as JSON",
     "    -v, --verbose        Debug logging on stderr (otherwise RUST_LOG, default warn)",
     "",
     "\x1b[1mEXAMPLES:\x1b[0m",
     "    waymark                          Start interactive REPL",
     "    waymark -a aliases.yaml          Start REPL with extra aliases",
     "    echo 'use key on door' | waymark -b --json",
     "",
     "\x1b[1mREPL COMMANDS:\x1b[0m",
     "    :help                Meta commands and verb aliases",
     "    :aliases             List loaded aliases",
     "    :tokens              Toggle the token display",
     "    :json                Toggle JSON output",
     "    :quit                Exit REPL",
     "    Ctrl+D               Exit REPL",
     ""]

/-- The version text. -/
def versionText : String :=
  "waymark 0.1.0\n"

/-- Why a run fails. -/
inductive Fault where
  | usage (fault : UsageFault)
  | aliases (fault : Aliases.FileFault)
  | session (failure : Failure)
  deriving DecidableEq, Repr

namespace Fault

/-- The fault in words. -/
def message : Fault → String
  | usage fault => fault.message
  | aliases fault => fault.failure.message
  | session failure => failure.message

end Fault

/-- How a run ends. -/
structure Outcome where
  /-- What goes to standard output. -/
  output : String := ""
  /-- Why it fails, if it does. -/
  fault : Option Fault := none
  deriving DecidableEq, Repr

namespace Outcome

/-- The exit code. -/
def code (o : Outcome) : Nat :=
  if o.fault.isSome then 1 else 0

/-- A fault as it goes to standard error. -/
def errorText (message : String) : String :=
  "\x1b[31mError: " ++ message ++ "\x1b[0m\n"

/-- The outcome of a run that printed something and may have failed. -/
def ofResult (output : String) : Except Failure Unit → Outcome
  | .ok () => { output }
  | .error failure => { output, fault := some (.session failure) }

end Outcome

/-- Answers standard input in a session. -/
def serve (batch : Bool) (s : Session) (input : List UInt8) : Outcome :=
  if batch then
    let run := s.answer {} input
    .ofResult run.output run.result
  else
    let transcript := s.run (Input.ofBytes input)
    .ofResult transcript.output transcript.result

/-- The session that is asked for. -/
def session (i : Invocation) (readFile : String → Except ReadFault String) :
    Except Aliases.FileFault Session :=
  match i.aliasFile with
  | none => .ok (.ofOverlay i.settings .empty)
  | some path => do
    let loaded ← Aliases.load? path (readFile path)
    return .ofOverlay i.settings loaded.overlay

/-- Does what the arguments ask for. -/
def invoke (i : Invocation) (readFile : String → Except ReadFault String)
    (input : List UInt8) : Outcome :=
  if i.help then { output := helpText }
  else if i.version then { output := versionText }
  else
    match session i readFile with
    | .ok s => serve i.batch s input
    | .error fault => { fault := some (.aliases fault) }

/-- Runs the program with arguments, files and standard input. -/
def run (arguments : List String) (readFile : String → Except ReadFault String)
    (input : List UInt8) : Outcome :=
  match Invocation.parse arguments with
  | .ok i => invoke i readFile input
  | .error fault => { fault := some (.usage fault) }

end CommandLine

end Adventure
