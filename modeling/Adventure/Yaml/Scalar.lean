/-
The text of scalars.

Plain and quoted scalars may go over several lines.  Between two of their words stands
either the white space as written, or, where lines were broken, a space for a single
break and one break less for more than one; `Gap` collects what stands there.  Block
scalars keep their lines, or fold them, below a header that says how the end is cut.

Loops are bounded by the number of characters left, since each round takes at least one.
-/
import Adventure.Text.Hex
import Adventure.Yaml.Fault

namespace Adventure.Yaml

/-! ### Gaps between words -/

/-- What stands between two words of a scalar. -/
structure Gap where
  /-- Blanks on the line of the first word. -/
  blanks : List Char := []
  /-- Whether the line ended. -/
  broken : Bool := false
  /-- The first line break; empty if it was escaped. -/
  firstBreak : List Char := []
  /-- The line breaks after the first. -/
  moreBreaks : List Char := []

namespace Gap

/-- What a gap contributes to the text. -/
def text (g : Gap) : List Char :=
  if !g.broken then g.blanks
  else if g.firstBreak == ['\n'] then
    if g.moreBreaks.isEmpty then [' '] else g.moreBreaks
  else g.firstBreak ++ g.moreBreaks

/-- Takes blanks and breaks.  Where `tabLimit` is given, a tab before that column of a
later line is a fault. -/
def take (tabLimit : Option Nat) : Nat → Gap → Cursor → Except Fault (Gap × Cursor)
  | 0, g, c => .ok (g, c)
  | fuel + 1, g, c =>
    match c.peek with
    | none => .ok (g, c)
    | some char =>
      if isBlank char then
        if g.broken && char == '\t' && (tabLimit.any fun limit => c.column < limit) then
          c.fail .tabInIndentation
        else
          let g := if g.broken then g else { g with blanks := g.blanks ++ [char] }
          take tabLimit fuel g (c.skip 1)
      else if isBreak char then
        let (text, c) := c.takeBreak
        let g :=
          if g.broken then { g with moreBreaks := g.moreBreaks ++ text }
          else { g with blanks := [], broken := true, firstBreak := text }
        take tabLimit fuel g c
      else .ok (g, c)

end Gap

/-! ### Plain scalars -/

/-- Whether a character belongs to flow collections. -/
def isFlowIndicator (c : Char) : Bool :=
  c == ',' || c == '[' || c == ']' || c == '\x7b' || c == '\x7d'

/-- Takes a word of a plain scalar: up to a blank, a colon before a blank, or, in a flow
collection, one of its indicators. -/
def plainWord (flow : Bool) : Nat → Cursor → Except Fault (List Char × Cursor)
  | 0, c => .ok ([], c)
  | fuel + 1, c =>
    match c.peek with
    | none => .ok ([], c)
    | some char =>
      let next := c.peekAt 1
      if isBlankOrEnd (some char) then .ok ([], c)
      else if flow && char == ':' && (next.any fun n => isFlowIndicator n || n == '?') then
        c.fail .unexpectedColon
      else if (char == ':' && isBlankOrEnd next) || (flow && isFlowIndicator char) then .ok ([], c)
      else do
        let (word, c) ← plainWord flow fuel (c.skip 1)
        return (char :: word, c)

/-- Takes words and the gaps between them.  The last part of the answer says whether the
scalar was left on a later line. -/
def plainWords (flow : Bool) (indent : Nat) :
    Nat → Gap → List Char → Cursor → Except Fault (List Char × Bool × Cursor)
  | 0, gap, text, c => .ok (text, gap.broken, c)
  | fuel + 1, gap, text, c => do
    if c.atDocumentMarker || c.at? '#' then return (text, gap.broken, c)
    let (word, c) ← plainWord flow c.left c
    if word.isEmpty then return (text, gap.broken, c)
    let text := text ++ gap.text ++ word
    let (gap, c) ← Gap.take (some indent) c.left {} c
    if gap.blanks.isEmpty && !gap.broken then return (text, false, c)
    if !flow && c.column < indent then return (text, gap.broken, c)
    plainWords flow indent fuel gap text c

/-- Takes a plain scalar inside a block of the given indentation. -/
def plainScalar (flow : Bool) (indent : Nat) (c : Cursor) :
    Except Fault (String × Bool × Cursor) := do
  let (text, broken, c) ← plainWords flow indent (c.left + 1) {} [] c
  return (String.ofList text, broken, c)

/-! ### Quoted scalars -/

/-- The character of an escape with one letter. -/
def escapedChar? (c : Char) : Option Char :=
  match c with
  | '0' => some (Char.ofNat 0x00)
  | 'a' => some (Char.ofNat 0x07)
  | 'b' => some (Char.ofNat 0x08)
  | 't' => some '\t'
  | '\t' => some '\t'
  | 'n' => some '\n'
  | 'v' => some (Char.ofNat 0x0B)
  | 'f' => some (Char.ofNat 0x0C)
  | 'r' => some '\r'
  | 'e' => some (Char.ofNat 0x1B)
  | ' ' => some ' '
  | '"' => some '"'
  | '/' => some '/'
  | '\\' => some '\\'
  | 'N' => some '\u0085'
  | '_' => some '\u00A0'
  | 'L' => some '\u2028'
  | 'P' => some '\u2029'
  | _ => none

/-- The number of hexadecimal digits after an escape letter. -/
def escapeDigits? (c : Char) : Option Nat :=
  match c with
  | 'x' => some 2
  | 'u' => some 4
  | 'U' => some 8
  | _ => none

/-- Takes an escape, backslash and all. -/
def takeEscape (c : Cursor) : Except Fault (Char × Cursor) :=
  match c.peekAt 1 with
  | none => c.fail .badEscape
  | some letter =>
    match escapedChar? letter, escapeDigits? letter with
    | some char, _ => .ok (char, c.skip 2)
    | none, some count =>
      let digits := (c.rest.drop 2).take count
      match Text.hexNumber? digits with
      | some code =>
        if digits.length == count && (code < 0xD800 || (0xDFFF < code && code ≤ 0x10FFFF)) then
          .ok (Char.ofNat code, c.skip (2 + count))
        else c.fail .badEscape
      | none => c.fail .badEscape
    | none, none => c.fail .badEscape

/-- Takes a word of a quoted scalar: up to a blank, the closing quote, or an escaped line
break, which the last part of the answer tells. -/
def quotedWord (quote : Char) : Nat → Cursor → Except Fault (List Char × Bool × Cursor)
  | 0, c => .ok ([], false, c)
  | fuel + 1, c =>
    match c.peek with
    | none => .ok ([], false, c)
    | some char =>
      if isBlankOrEnd (some char) then .ok ([], false, c)
      else if quote == '\'' && char == '\'' && c.peekAt 1 == some '\'' then do
        let (word, escaped, c) ← quotedWord quote fuel (c.skip 2)
        return ('\'' :: word, escaped, c)
      else if char == quote then .ok ([], false, c)
      else if quote == '"' && char == '\\' then
        if c.peekAt 1 |>.any isBreak then .ok ([], true, (c.skip 1).takeBreak.2)
        else do
          let (escape, c) ← takeEscape c
          let (word, escaped, c) ← quotedWord quote fuel c
          return (escape :: word, escaped, c)
      else do
        let (word, escaped, c) ← quotedWord quote fuel (c.skip 1)
        return (char :: word, escaped, c)

/-- Takes words and the gaps between them, up to the closing quote. -/
def quotedWords (quote : Char) : Nat → List Char → Cursor → Except Fault (List Char × Cursor)
  | 0, _, c => c.fail .unclosedQuote
  | fuel + 1, text, c => do
    if c.atDocumentMarker || c.atEnd then c.fail .unclosedQuote
    else
      let (word, escaped, c) ← quotedWord quote c.left c
      let text := text ++ word
      if !escaped && c.at? quote then return (text, c.skip 1)
      else
        let (gap, c) ← Gap.take none c.left { broken := escaped } c
        quotedWords quote fuel (text ++ gap.text) c

/-- Takes a quoted scalar, from its opening quote. -/
def quotedScalar (quote : Char) (c : Cursor) : Except Fault (String × Cursor) := do
  let (text, c) ← quotedWords quote (c.left + 1) [] (c.skip 1)
  return (String.ofList text, c)

/-! ### Block scalars -/

/-- What happens to the line breaks at the end of a block scalar. -/
inductive Chomp where
  | strip
  | clip
  | keep
  deriving DecidableEq

/-- Takes a chomping indicator, if there is one. -/
def takeChomp (c : Cursor) : Option Chomp × Cursor :=
  if c.at? '+' then (some .keep, c.skip 1)
  else if c.at? '-' then (some .strip, c.skip 1)
  else (none, c)

/-- Takes an indentation indicator, if there is one; zero is a fault. -/
def takeIncrement (c : Cursor) : Except Fault (Option Nat × Cursor) :=
  match c.peek with
  | some char =>
    if char == '0' then c.fail .badBlockHeader
    else if char.isDigit then .ok (some (char.toNat - '0'.toNat), c.skip 1)
    else .ok (none, c)
  | none => .ok (none, c)

/-- Takes the header of a block scalar after its indicator, with its line. -/
def blockHeader (c : Cursor) : Except Fault (Chomp × Option Nat × Cursor) := do
  let (chomp, c) := takeChomp c
  let (increment, c) ← takeIncrement c
  let (chomp, c) :=
    match chomp, increment with
    | none, some _ => takeChomp c
    | chomp, _ => (chomp, c)
  let c := c.skipWhile isBlank
  let c := if c.at? '#' then c.skipToBreak else c
  if !isBreakOrEnd c.peek then c.fail .badBlockHeader
  else return (chomp.getD .clip, increment, c.takeBreak.2)

/-- Takes empty lines and the indentation of the line after them.  An indentation of zero
is not known yet; the answer has the greatest column reached. -/
def blockBreaks (indent : Nat) :
    Nat → List Char → Nat → Cursor → Except Fault (List Char × Nat × Cursor)
  | 0, breaks, deepest, c => .ok (breaks, deepest, c)
  | fuel + 1, breaks, deepest, c =>
    let spaces := (c.rest.takeWhile (· == ' ')).length
    let c := c.skip (if indent == 0 then spaces else min spaces (indent - c.column))
    let deepest := max deepest c.column
    if (indent == 0 || c.column < indent) && c.at? '\t' then c.fail .tabInIndentation
    else if c.peek.any isBreak then
      let (text, c) := c.takeBreak
      blockBreaks indent fuel (breaks ++ text) deepest c
    else .ok (breaks, deepest, c)

/-- Takes the lines of a block scalar.  `lineBreak` ended the line before, `breaks` are
the empty lines after it, and `blank` tells whether that line started with a blank. -/
def blockLines (literal : Bool) (indent : Nat) :
    Nat → List Char → List Char → List Char → Bool → Cursor →
      Except Fault (List Char × List Char × List Char × Cursor)
  | 0, text, lineBreak, breaks, _, c => .ok (text, lineBreak, breaks, c)
  | fuel + 1, text, lineBreak, breaks, blank, c =>
    if c.column != indent || c.atEnd then .ok (text, lineBreak, breaks, c)
    else do
      let nowBlank := c.peek.any isBlank
      let joint :=
        if !literal && lineBreak == ['\n'] && !blank && !nowBlank then
          if breaks.isEmpty then [' '] else []
        else lineBreak
      let (line, c) := c.takeWhile fun char => !isBreak char
      let (lineBreak, c) := c.takeBreak
      let (more, _, c) ← blockBreaks indent (c.left + 1) [] 0 c
      blockLines literal indent fuel (text ++ joint ++ breaks ++ line) lineBreak more nowBlank c

/-- Takes a block scalar, from its indicator, inside a block of the given indentation. -/
def blockScalar (literal : Bool) (parent : Int) (c : Cursor) : Except Fault (String × Cursor) := do
  let (chomp, increment, c) ← blockHeader (c.skip 1)
  let known := (increment.map fun n => (max parent 0).toNat + n).getD 0
  let (breaks, deepest, c) ← blockBreaks known (c.left + 1) [] 0 c
  let indent := if known == 0 then max (max deepest (parent + 1).toNat) 1 else known
  let (text, lineBreak, breaks, c) ← blockLines literal indent (c.left + 1) [] [] breaks false c
  let tail :=
    match chomp with
    | .strip => []
    | .clip => lineBreak
    | .keep => lineBreak ++ breaks
  return (String.ofList (text ++ tail), c)

end Adventure.Yaml
