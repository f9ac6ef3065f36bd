/-
Colours only add to a line.

The highlighter walks through a line with a cursor and takes the spans of the tokens at their word:
it copies what lies before a token, the token in its colour, and goes on behind it.  Spans that
overlap, come out of order or end inside of a character would make it lose text, write it twice or
cut where nothing can be cut.  `Coloured` is the walk with every stretch that it takes, each of
which has to be there, and with what the stretches come to without colours, which for a line from
its start is the line.

In a line without an escape character the only ones are those of the codes, so the codes are found
again wherever they stand, and without them the line is left.
-/
import Adventure.Proofs.Scan
import Adventure.Terminal.Highlight

namespace Adventure

theorem Text.utf8ByteSize_eq (s : String) : s.utf8ByteSize = byteLength s.toList := by
  have hchars : ∀ cs : List Char, (String.ofList cs).utf8ByteSize = byteLength cs := by
    intro cs
    induction cs with
    | nil => rfl
    | cons c cs ih =>
        rw [String.ofList_cons, String.utf8ByteSize_append, String.utf8ByteSize_singleton, ih,
          byteLength_cons]
  rw [← hchars, String.ofList_toList]

theorem Span.text_of_slice? {s : Span} {source : String} {cs : List Char}
    (h : Text.slice? s.start s.stop source.toList = some cs) :
    s.text source = String.ofList cs := by
  simp only [text, h]

namespace Terminal

/-! ### The walk through a line -/

/-- The walk through a line from a byte offset on: the tokens to come, what is left of the line,
and what it is in colours.  `leading` says that no token has been passed yet. -/
inductive Coloured (line : String) : Nat → Bool → List Token → String → String → Prop
  | rest {cursor : Nat} {leading : Bool} {marker : Token} {tail : List Char}
      (hmarker : marker.isEol = true)
      (htail : Text.slice? cursor line.utf8ByteSize line.toList = some tail) :
      Coloured line cursor leading [marker] (String.ofList tail) (String.ofList tail)
  | token {cursor : Nat} {leading : Bool} {t : Token} {ts : List Token} {gap text : List Char}
      {plain painted : String} (hkind : t.isEol = false)
      (hgap : Text.slice? cursor t.span.start line.toList = some gap)
      (htext : Text.slice? t.span.start t.span.stop line.toList = some text)
      (hrest : Coloured line t.span.stop false ts plain painted) :
      Coloured line cursor leading (t :: ts) (String.ofList gap ++ String.ofList text ++ plain)
        (String.ofList gap ++ Colour.paint (colourOf t.kind leading) (String.ofList text)
          ++ painted)

theorem stretch_eq {line : String} {start stop : Nat} {cs : List Char}
    (h : Text.slice? start stop line.toList = some cs) :
    stretch line start stop = String.ofList cs :=
  Span.text_of_slice? h

/-- The highlighter takes that walk. -/
theorem Coloured.paintTokens_eq {line : String} {cursor : Nat} {leading : Bool} {ts : List Token}
    {plain painted : String} (h : Coloured line cursor leading ts plain painted) :
    paintTokens line cursor leading ts = painted := by
  induction h with
  | rest hmarker htail => rw [paintTokens, if_pos hmarker, stretch_eq htail]
  | token hkind hgap htext hrest ih =>
      rw [paintTokens, if_neg (by simp [hkind]), stretch_eq hgap, Span.text_of_slice? htext, ih]

/-- **The tokens of a line can be walked through**, from wherever a cut has come to. -/
theorem exists_coloured {o : Overlay} {p : Position} {cs : List Char} {ts : List Token}
    (h : Scan.Cuts (.extended o) p cs ts) :
    ∀ front, p = Position.after {} front → ∀ line : String, line.toList = front ++ cs →
      ∀ leading, ∃ painted,
        Coloured line (Text.byteLength front) leading ts (String.ofList cs) painted := by
  induction h with
  | @finish p gap hgap =>
      rintro front rfl line hline leading
      refine ⟨_, .rest rfl (Text.slice?_eq_some_iff.mpr ⟨front, [], by simp [hline], rfl, ?_⟩)⟩
      rw [Text.utf8ByteSize_eq, hline]
  | @token p gap q ts hgap hq htokens ih =>
      rintro front rfl line hline leading
      have hplace := Position.after_after_append {} front gap q.covered
      have hstart : (Position.after {} front).after gap = Position.after {} (front ++ gap) :=
        (Position.after_append _ _ _).symm
      obtain ⟨painted, hcoloured⟩ :=
        ih (front ++ gap ++ q.covered) hplace line (by simp [hline]) false
      have hplain : String.ofList (gap ++ (q.covered ++ q.rest))
          = String.ofList gap ++ String.ofList q.covered ++ String.ofList q.rest := by
        simp [String.append_assoc]
      rw [hplace, hstart, hplain]
      rw [← q.stop_token (Position.after {} (front ++ gap))] at hcoloured
      refine ⟨_, .token ?_ ?_ ?_ hcoloured⟩
      · simpa [Token.isEol, Scan.Piece.token] using hq.kind_ne_eol
      · rw [q.start_token, Text.slice?_eq_some_iff]
        exact ⟨front, q.covered ++ q.rest, hline, rfl, rfl⟩
      · rw [q.start_token, q.stop_token, Text.slice?_eq_some_iff]
        exact ⟨front ++ gap, q.rest, by simp [hline], rfl, rfl⟩

/-! ### Taking the codes out -/

/-- The codes that turn colours on, and the one that turns them off. -/
def codes : List String :=
  [Colour.yellow.code, Colour.cyan.code, Colour.blue.code, Colour.boldGreen.code, Colour.reset]

/-- Characters without the codes in them; so many characters at the front are left of a code. -/
def withoutCodesFrom : Nat → List Char → List Char
  | _, [] => []
  | n + 1, _ :: cs => withoutCodesFrom n cs
  | 0, c :: cs =>
    match codes.find? fun code => code.toList.isPrefixOf (c :: cs) with
    | some code => withoutCodesFrom (code.length - 1) cs
    | none => c :: withoutCodesFrom 0 cs

/-- A text with all codes taken out. -/
def withoutCodes (s : String) : String :=
  String.ofList (withoutCodesFrom 0 s.toList)

theorem withoutCodesFrom_code : ∀ code ∈ codes, ∀ rest,
    withoutCodesFrom 0 (code.toList ++ rest) = withoutCodesFrom 0 rest := by
  simp only [codes, List.forall_mem_cons]
  refine ⟨?_, ?_, ?_, ?_, ?_, by simp⟩
  all_goals exact fun rest => rfl

theorem withoutCodesFrom_plain {text : List Char} (h : '\x1b' ∉ text) (rest : List Char) :
    withoutCodesFrom 0 (text ++ rest) = text ++ withoutCodesFrom 0 rest := by
  induction text with
  | nil => rfl
  | cons c cs ih =>
      have hc := List.ne_of_not_mem_cons h
      have hnone : (codes.find? fun code => code.toList.isPrefixOf (c :: (cs ++ rest))) = none := by
        rw [List.find?_eq_none]
        have hcodes : ∀ code ∈ codes, ∃ tail, code.toList = '\x1b' :: tail := by
          simp [codes, Colour.code, Colour.reset]
        intro code hcode
        obtain ⟨tail, htail⟩ := hcodes code hcode
        simp [htail, hc]
      rw [List.cons_append, withoutCodesFrom, hnone, List.cons_append,
        ← ih (List.not_mem_of_not_mem_cons h)]

theorem withoutCodesFrom_paint {text : List Char} (h : '\x1b' ∉ text) (colour : Option Colour)
    (rest : List Char) :
    withoutCodesFrom 0 ((Colour.paint colour (String.ofList text)).toList ++ rest)
      = text ++ withoutCodesFrom 0 rest := by
  cases colour with
  | none => simp only [Colour.paint, String.toList_ofList, withoutCodesFrom_plain h]
  | some colour =>
      have hcode : colour.code ∈ codes := by cases colour <;> simp [codes]
      have hreset : Colour.reset ∈ codes := by simp [codes]
      simp only [Colour.paint, String.toList_append, String.toList_ofList, List.append_assoc]
      rw [withoutCodesFrom_code _ hcode, withoutCodesFrom_plain h, withoutCodesFrom_code _ hreset]

theorem Coloured.withoutCodes {line : String} {cursor : Nat} {leading : Bool} {ts : List Token}
    {plain painted : String} (h : Coloured line cursor leading ts plain painted)
    (hplain : '\x1b' ∉ plain.toList) :
    withoutCodesFrom 0 painted.toList = plain.toList := by
  induction h with
  | rest hmarker htail =>
      have h := withoutCodesFrom_plain hplain []
      simpa [withoutCodesFrom] using h
  | @token cursor leading t ts gap text plain painted hkind hgap htext hrest ih =>
      simp only [String.toList_append, String.toList_ofList, List.mem_append, not_or] at hplain ⊢
      obtain ⟨⟨hgap, htext⟩, hplain⟩ := hplain
      rw [List.append_assoc, withoutCodesFrom_plain hgap, List.append_assoc,
        withoutCodesFrom_paint htext, ih hplain]

/-- **Highlighting only adds colour.**  The highlighter can take every stretch that it takes, they
are the line, and each token is in its colour and nothing else is changed.  Without the codes a line
without escape characters is left as it was. -/
theorem highlight_only_adds_colour (o : Overlay) (line : String) :
    Coloured line 0 true (scan (.extended o) line) line (highlight (.extended o) line) ∧
      ('\x1b' ∉ line.toList → withoutCodes (highlight (.extended o) line) = line) := by
  have hcuts := scan_eq_iff.mp (Eq.refl (scan (.extended o) line))
  obtain ⟨painted, hcoloured⟩ := exists_coloured hcuts [] rfl line rfl true
  rw [String.ofList_toList, ← hcoloured.paintTokens_eq] at hcoloured
  refine ⟨hcoloured, fun hplain => ?_⟩
  have hleft := hcoloured.withoutCodes hplain
  rw [withoutCodes, highlight]
  exact (congrArg String.ofList hleft).trans String.ofList_toList

/-- There is text before the first token, a word of two-byte characters between signs that are
passed over, and a text in quotes that is left open. -/
theorem highlight_only_adds_colour_tor :
    let o : Overlay := .ofPairs [("nimm", .verb .take), ("nach", .to_)]
    let line := "… nimm «Kräuter» nach east \"tor"
    '\x1b' ∉ line.toList ∧
      highlight (.extended o) line = "… \x1b[1;32mnimm\x1b[0m «Kräuter» \x1b[34mnach\x1b[0m " ++
        "\x1b[36meast\x1b[0m \x1b[33m\"tor\x1b[0m" ∧
      withoutCodes (highlight (.extended o) line) = line := by
  intro o line
  have hplain : '\x1b' ∉ line.toList := by decide
  exact ⟨hplain, by decide +kernel, (highlight_only_adds_colour o line).2 hplain⟩

end Terminal

end Adventure
