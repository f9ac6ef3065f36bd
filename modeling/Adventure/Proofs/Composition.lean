/-
A text can be scanned in parts.

A cut of a text goes on behind it where no text in quotes is left open and no word can
grow: `Cuts.append`.  Whether quotes are left open is a matter of counting them.  Every
piece but an unclosed one has an even number, an unclosed one has a single quote and only
the end of the text behind it, and gaps have none, so the count is even exactly if all
texts in quotes were closed.

The part behind is then scanned from another place than when it stands alone.  `shift`
says what that does to a place.  Columns are the reason why it is not one addition: they
count from the last line feed, so what stands before a text moves the columns of its first
line only.  A place does not know by its number that it is there, since the numbers of lines
come round again in a text that is long enough.  The text knows.
-/
import Adventure.Proofs.Positions
import Mathlib.Algebra.Group.Nat.Even

namespace Adventure

namespace Text

/-- The number of quotes in a text. -/
def quotes (cs : List Char) : Nat :=
  cs.count '"'

@[simp] theorem quotes_append (a b : List Char) : quotes (a ++ b) = quotes a + quotes b :=
  List.count_append

theorem quotes_eq_zero {cs : List Char} (h : '"' ∉ cs) : quotes cs = 0 :=
  List.count_eq_zero.mpr h

theorem quotes_unclosed {cs : List Char} (h : '"' ∉ cs) : quotes ('"' :: cs) = 1 := by
  rw [quotes, List.count_cons_self, ← quotes, quotes_eq_zero h]

theorem quotes_quoted {cs : List Char} (h : '"' ∉ cs) : quotes ('"' :: cs ++ ['"']) = 2 := by
  rw [quotes_append, quotes_unclosed h]
  rfl

end Text

/-! ### Places behind another text -/

/-- A stretch of a text as it is counted when `front` is put before the text. -/
def Span.shift (front text : List Char) (s : Span) : Span where
  start := s.start + Text.byteLength front
  stop := s.stop + Text.byteLength front
  line := s.line + (front.count '\n' : UInt32)
  column :=
    if Text.row text s.start = 0 then s.column + Text.lastLineLength front else s.column

/-- A token of a text as it is placed when `front` is put before the text. -/
def Token.shift (front text : List Char) (t : Token) : Token :=
  { t with span := t.span.shift front text }

/-- A stretch that begins behind some of the text begins behind both then. -/
theorem Span.shift_between (front before before' back : List Char) :
    (between (.after {} before) (.after {} before')).shift front (before ++ back)
      = between (.after {} (front ++ before)) (.after {} (front ++ before')) := by
  simp only [Position.after_start, between, shift, Text.row_append, Text.lastLineLength_append,
    Text.byteLength_append, List.count_append, UInt32.ofNat_add, UInt32.add_assoc, mk.injEq,
    and_true]
  exact ⟨Nat.add_comm _ _, Nat.add_comm _ _, congrArg (1 + ·) (UInt32.add_comm _ _)⟩

theorem Token.shift_endAt (front text : List Char) :
    (endAt (.after {} text)).shift front text = endAt (.after {} (front ++ text)) := by
  have hspan := Span.shift_between front text text []
  rw [List.append_nil] at hspan
  rw [shift, endAt, Span.point, hspan, endAt, Span.point]

namespace Scan

variable {v : Vocabulary} {p : Position}

theorem Piece.shift_token (q : Piece) (front before before' back : List Char) :
    (q.token (.after {} before) (.after {} before')).shift front (before ++ back)
      = q.token (.after {} (front ++ before)) (.after {} (front ++ before')) := by
  rw [Token.shift, Piece.token, Span.shift_between, Piece.token]

/-- **What is put in front of a text moves its tokens and does nothing else to them.** -/
theorem Cuts.shift (front : List Char) {cs : List Char} {ts : List Token} (h : Cuts v p cs ts) :
    ∀ before, p = Position.after {} before →
      Cuts v (.after {} (front ++ before)) cs (ts.map (Token.shift front (before ++ cs))) := by
  induction h with
  | @finish p gap hgap =>
      rintro before rfl
      have hcuts := Cuts.finish (v := v) (p := .after {} (front ++ before)) hgap
      rw [← Position.after_append, List.append_assoc, ← Token.shift_endAt] at hcuts
      rw [← Position.after_append]
      exact hcuts
  | @token p gap q ts hgap hq htokens ih =>
      rintro before rfl
      have hplace := Position.after_after_append {} before gap q.covered
      have hplace' := Position.after_after_append {} (front ++ before) gap q.covered
      have hrest := ih (before ++ gap ++ q.covered) hplace
      simp only [← List.append_assoc] at hrest
      rw [← hplace'] at hrest
      have hcuts := Cuts.token hgap hq hrest
      have htoken := q.shift_token front (before ++ gap) (before ++ gap ++ q.covered)
        (q.covered ++ q.rest)
      simp only [← List.append_assoc] at hcuts htoken ⊢
      rw [← Position.after_append, hplace', ← htoken] at hcuts
      rw [List.map_cons, ← Position.after_append, hplace]
      exact hcuts

/-- The tokens of a text are found again behind any other. -/
theorem cuts_behind (v : Vocabulary) (front : List Char) (text : String) :
    Cuts v (Position.after {} front) text.toList
      ((scan v text).map (Token.shift front text.toList)) := by
  have hcuts := Cuts.shift front (scan_eq_iff.mp (Eq.refl (scan v text))) [] rfl
  rw [List.append_nil, List.nil_append] at hcuts
  exact hcuts

/-! ### Pieces and quotes -/

/-- A piece closes its quotes, or it is a text in quotes that runs to the end. -/
theorem Whole.quotes {q : Piece} (h : Whole v q) :
    Even (Text.quotes q.covered) ∨ Text.quotes (q.covered ++ q.rest) = 1 ∧ q.rest = [] := by
  cases h with
  | talk rest => exact Or.inl ⟨0, rfl⟩
  | help rest => exact Or.inl ⟨0, rfl⟩
  | quoted rest hbody => exact Or.inl ⟨1, Text.quotes_quoted hbody⟩
  | unclosed hbody => exact Or.inr ⟨by rw [List.append_nil, Text.quotes_unclosed hbody], rfl⟩
  | @word word rest hne hword hrest =>
      have hquote : '"' ∉ word := fun hmem => absurd (hword _ hmem) (by decide)
      exact Or.inl ⟨0, Text.quotes_eq_zero hquote⟩

/-- A piece that has closed its quotes is whole in front of whatever does not make it longer. -/
theorem Whole.withRest {q : Piece} (h : Whole v q) {rest : List Char}
    (hclosed : Even (Text.quotes q.covered) ∨ rest = [])
    (hrest : rest.head? = q.rest.head? ∨ ∀ c ∈ rest.head?, Text.isWordChar c = false) :
    Whole v { q with rest } := by
  cases h with
  | talk _ => exact .talk rest
  | help _ => exact .help rest
  | quoted _ hbody => exact .quoted rest hbody
  | unclosed hbody =>
      rcases hclosed with heven | rfl
      · rw [Text.quotes_unclosed hbody] at heven
        exact absurd heven (by decide)
      · exact .unclosed hbody
  | word hne hword hstop =>
      refine .word hne hword ?_
      rcases hrest with hsame | hrest
      · rw [hsame]
        exact hstop
      · exact hrest

theorem quotes_gap {gap : List Char} (hgap : ∀ c ∈ gap, isIgnored c = true) :
    Text.quotes gap = 0 :=
  Text.quotes_eq_zero fun hmem => absurd (hgap _ hmem) (by decide)

/-! ### Cuts put together -/

theorem Cuts.ne_nil {cs : List Char} {ts : List Token} (h : Cuts v p cs ts) : ts ≠ [] := by
  cases h with
  | finish => exact List.cons_ne_nil _ _
  | token => exact List.cons_ne_nil _ _

theorem Cuts.behind_gap {gap cs : List Char} {ts : List Token}
    (hgap : ∀ c ∈ gap, isIgnored c = true) (h : Cuts v (p.after gap) cs ts) :
    Cuts v p (gap ++ cs) ts := by
  generalize hstart : p.after gap = start at h
  cases h with
  | @finish _ gap' hgap' =>
      subst hstart
      rw [← Position.after_append]
      exact .finish (List.forall_mem_append.mpr ⟨hgap, hgap'⟩)
  | @token _ gap' q ts hgap' hq htokens =>
      subst hstart
      rw [← Position.after_append, ← List.append_assoc] at htokens
      rw [← Position.after_append, ← Position.after_append, ← List.append_assoc gap gap' q.covered,
        ← List.append_assoc gap gap' (q.covered ++ q.rest)]
      exact .token (List.forall_mem_append.mpr ⟨hgap, hgap'⟩) hq htokens

/-- **A cut goes on behind a text that leaves no quotes open.** -/
theorem Cuts.append {front back : List Char} {ts us : List Token} (h : Cuts v p front ts)
    (heven : Even (Text.quotes front)) (hseam : ∀ c ∈ back.head?, Text.isWordChar c = false)
    (hback : Cuts v (p.after front) back us) : Cuts v p (front ++ back) (ts.dropLast ++ us) := by
  induction h with
  | @finish p gap hgap => exact hback.behind_gap hgap
  | @token p gap q ts hgap hq htokens ih =>
      rw [Text.quotes_append, quotes_gap hgap, Nat.zero_add] at heven
      rcases hq.quotes with hcovered | ⟨hone, -⟩
      · rw [Text.quotes_append, Nat.even_add] at heven
        rw [← List.append_assoc, Position.after_append] at hback
        have hwhole : Whole v { q with rest := q.rest ++ back } := by
          refine hq.withRest (Or.inl hcovered) ?_
          cases hrest : q.rest with
          | nil => exact Or.inr hseam
          | cons c rest => exact Or.inl rfl
        have hcuts := Cuts.token hgap hwhole (ih (heven.mp hcovered) hback)
        rw [List.dropLast_cons_of_ne_nil htokens.ne_nil, List.append_assoc, List.append_assoc]
        exact hcuts
      · -- Quotes left open to the end would make the count odd.
        rw [hone] at heven
        exact absurd heven (by decide)

end Scan

/-- The tokens in front of the end marker. -/
def Token.visible (tokens : List Token) : List Token :=
  tokens.filter fun t => !t.isEol

theorem Line.visible_eq {o : Overlay} {input : String} {body : List Token} {marker : Token}
    (h : Line o input body marker) : Token.visible (scan (.extended o) input) = body := by
  have hbody : body.filter (fun t => !t.isEol) = body := by
    rw [List.filter_eq_self]
    intro t ht
    simp [Token.isEol, h.kinds t ht]
  rw [Token.visible, h.scan_eq, List.filter_append, hbody]
  simp [Token.isEol, h.marker_kind]

/-- A text goes on behind one that leaves no quotes open. -/
theorem Line.scan_append {o : Overlay} {front back : String} {body : List Token} {marker : Token}
    (h : Line o front body marker) (heven : Even (Text.quotes front.toList))
    (hseam : ∀ c ∈ back.toList.head?, Text.isWordChar c = false) {ts : List Token}
    (hback : Scan.Cuts (.extended o) (Position.after {} front.toList) back.toList ts) :
    scan (.extended o) (front ++ back) = body ++ ts := by
  have hcuts := (scan_eq_iff.mp h.scan_eq).append heven hseam hback
  rw [List.dropLast_concat] at hcuts
  rw [scan_eq_iff, String.toList_append]
  exact hcuts

/-- **Scanning is compositional.**  A text that leaves no quotes open, then a character that
is part of no token, then any other text: the tokens are those of the first text and those of
the last, placed behind the first and the character. -/
theorem scan_compositional (o : Overlay) (a b : String) (c : Char)
    (hword : Text.isWordChar c = false) (hsign : c ≠ '@' ∧ c ≠ '?' ∧ c ≠ '"')
    (heven : Even (a.toList.count '"')) :
    scan (.extended o) (a ++ String.singleton c ++ b)
      = Token.visible (scan (.extended o) a)
        ++ (scan (.extended o) b).map (Token.shift (a.toList ++ [c]) b.toList) := by
  obtain ⟨body, marker, hline⟩ := exists_line o a
  have hgap : ∀ d ∈ [c], Scan.isIgnored d = true := by
    intro d hd
    rw [List.mem_singleton.mp hd]
    exact Scan.isIgnored_iff.mpr ⟨hword, hsign⟩
  have hback := Scan.cuts_behind (.extended o) (a.toList ++ [c]) b
  rw [Position.after_append] at hback
  rw [hline.visible_eq, String.append_assoc]
  refine hline.scan_append heven ?_ ?_
  · simpa using hword
  · simpa using hback.behind_gap hgap

/-- Only the first line of the text behind moves to the right, and a line feed in quotes ends
a line like any other. -/
theorem scan_compositional_lines :
    let o : Overlay := .ofPairs [("nach", .to_)]
    let a := "say \"hé\nho\""
    let b := "nach\nnord"
    Text.isWordChar '…' = false ∧ ('…' ≠ '@' ∧ '…' ≠ '?' ∧ '…' ≠ '"') ∧
      Even (a.toList.count '"') ∧
      scan (.extended o) (a ++ String.singleton '…' ++ b) =
        [⟨.verb .talk, "say", ⟨0, 3, 1, 0⟩⟩, ⟨.string, "hé\nho", ⟨4, 12, 1, 4⟩⟩,
          ⟨.to_, "nach", ⟨15, 19, 2, 4⟩⟩, ⟨.identifier, "nord", ⟨20, 24, 3, 0⟩⟩,
          ⟨.eol, "", ⟨24, 24, 3, 4⟩⟩] := by
  intro o a b
  have hword : Text.isWordChar '…' = false := by decide +kernel
  have hsign : '…' ≠ '@' ∧ '…' ≠ '?' ∧ '…' ≠ '"' := by decide
  have heven : Even (a.toList.count '"') := by decide
  refine ⟨hword, hsign, heven, ?_⟩
  rw [scan_compositional o a b '…' hword hsign heven]
  decide +kernel

end Adventure
