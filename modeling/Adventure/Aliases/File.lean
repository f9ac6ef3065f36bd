/-
Aliases from a file.

The file has been read, or could not be; what the reading gave comes with its path.  A
strict load answers with a fault, and a lenient one with no aliases and a notice.
-/
import Adventure.Aliases.Document
import Adventure.FileTree

namespace Adventure.Aliases

/-- Why a file gives no aliases. -/
inductive FileFault where
  /-- It could not be read. -/
  | unreadable (path : String) (fault : ReadFault)
  /-- It does not hold an alias document. -/
  | document (path : String) (fault : DocumentFault)
  deriving DecidableEq, Repr

namespace FileFault

/-- The fault as a failure; a faulty document is placed in its file. -/
def failure : FileFault → Failure
  | unreadable path fault => ⟨.io path fault.message, none⟩
  | document path fault =>
    let context := fault.failure.context.getD {}
    { fault.failure with context := some { context with source := some path } }

end FileFault

/-- What a file gives, or why it gives nothing. -/
def load? (path : String) (contents : Except ReadFault String) : Except FileFault Loaded :=
  match contents with
  | .error fault => .error (.unreadable path fault)
  | .ok text =>
    match parse? text with
    | .ok loaded => .ok loaded
    | .error fault => .error (.document path fault)

/-- What a file gives; a faulty one gives no aliases. -/
def load (path : String) (contents : Except ReadFault String) : Loaded :=
  match load? path contents with
  | .ok loaded => loaded
  | .error _ => ⟨.empty, [.fileIgnored path]⟩

end Adventure.Aliases
