/-
Aliases from a YAML document.

The document is a mapping whose key `aliases` holds either a mapping from aliases to
canonical names or a list of entries with the keys `alias` and `canonical`.  A canonical
name is the name of a kind or a word that every game knows.

Each entry is judged by itself.  A good one is an alias with its kind; a bad one is a
notice and nothing else.  So a bad entry never changes what the good ones give, and every
bad entry is accounted for.  Only a document without a usable section, or a text that is
not YAML, is a fault.
-/
import Adventure.Failure
import Adventure.Notice
import Adventure.Vocabulary
import Adventure.Yaml.Value

namespace Adventure.Aliases

/-- The kind that a canonical name stands for. -/
def resolve? (name : String) : Option Kind :=
  let upper := Overlay.key name
  if upper.isEmpty then none
  else ((Kind.ofName? upper).or (Vocabulary.builtin.find? upper)).filter fun kind =>
    !kind.isStructural

/-! ### Judging entries -/

/-- What an entry gives: an alias with its kind, or a notice why it is dropped. -/
abbrev Verdict := Except Notice (String × Kind)

/-- Judges an alias and its canonical name.  Both have to be scalars, the canonical name
has to be known, and the alias must not be blank. -/
def judge (word canonical : Yaml.Value) : Verdict :=
  match word.scalarText?, canonical.scalarText? with
  | some word, some canonical =>
    match resolve? canonical with
    | some kind =>
      if Overlay.accepts word kind then .ok (word, kind) else .error (.aliasBlank canonical)
    | none => .error (.canonicalUnknown word canonical)
  | _, _ => .error .entryNotScalar

/-- The value of a named part of a list entry, from its entries by name; none where it is
missing or comes twice. -/
def part? (name : String) (parts : List (String × Yaml.Value)) : Option Yaml.Value :=
  match parts.filter fun part => part.1 == name with
  | [(_, value)] => some value
  | _ => none

/-- A part of a list entry, by the name that its key spells. -/
def named? (part : Yaml.Value × Yaml.Value) : Option (String × Yaml.Value) :=
  match part.1.untagged with
  | .string name => some (name, part.2)
  | _ => none

/-- The two sides of a list entry: it is a mapping, all its keys are strings, and each side
comes once. -/
def sides? (item : Yaml.Value) : Option (Yaml.Value × Yaml.Value) :=
  match item.untagged with
  | .mapping entries => do
    let parts ← entries.mapM named?
    return (← part? "alias" parts, ← part? "canonical" parts)
  | _ => none

/-- Judges an item of the list form. -/
def judgeItem (item : Yaml.Value) : Verdict :=
  match sides? item with
  | some (word, canonical) => judge word canonical
  | none => .error .entryMalformed

/-! ### Loading a document -/

/-- Why a document gives no aliases. -/
inductive DocumentFault where
  /-- It is not a YAML document. -/
  | yaml (fault : Yaml.Fault)
  /-- There is no key `aliases`. -/
  | noSection
  /-- The section is neither a mapping nor a list. -/
  | badSection
  deriving DecidableEq, Repr

namespace DocumentFault

/-- The fault as a failure.  A YAML fault with a place gives that place, counted from
one. -/
def failure : DocumentFault → Failure
  | yaml fault =>
    ⟨.config fault.message,
      fault.mark?.map fun mark => { position := some (mark.line + 1, mark.column + 1) }⟩
  | noSection => ⟨.config "missing top-level 'aliases' key", none⟩
  | badSection => ⟨.config "'aliases' must be a mapping or a list", none⟩

end DocumentFault

/-- What a document gives: aliases, and notices about the entries that were dropped. -/
structure Loaded where
  overlay : Overlay
  notices : List Notice := []

namespace Loaded

/-- Collects verdicts: the aliases go into an overlay in order, the notices stay in
order. -/
def ofVerdicts (verdicts : List Verdict) : Loaded where
  overlay := .ofPairs (verdicts.filterMap Except.toOption)
  notices := verdicts.filterMap fun
    | .error notice => some notice
    | .ok _ => none

end Loaded

/-- The verdicts on the entries of a section. -/
def verdicts? : Yaml.Value → Option (List Verdict)
  | .null => some []
  | .mapping entries => some (entries.map fun entry => judge entry.1 entry.2)
  | .sequence items => some (items.map judgeItem)
  | _ => none

/-- Loads a document. -/
def ofValue (document : Yaml.Value) : Except DocumentFault Loaded :=
  match document.get? "aliases" with
  | none => .error .noSection
  | some contents =>
    match verdicts? contents with
    | some verdicts => .ok (.ofVerdicts verdicts)
    | none => .error .badSection

/-- Loads the text of a document. -/
def parse? (text : String) : Except DocumentFault Loaded :=
  match Yaml.read text with
  | .ok document => ofValue document
  | .error fault => .error (.yaml fault)

/-- Loads the text of a document; a faulty one gives no aliases. -/
def parse (text : String) : Loaded :=
  match parse? text with
  | .ok loaded => loaded
  | .error _ => ⟨.empty, [.documentIgnored]⟩

end Adventure.Aliases
