/-
Spaces and punctuation mean nothing.

What a line means is in its tokens, and its tokens are found again when they are typed out
as they stood in the line with one space between neighbours.  `Row` says when pieces can be
typed out like that: each has to be whole where a text ends, which a space behind it amounts
to, and quotes may be left open by the last one only.  The pieces of a line are such a row
(`Cuts.exists_row`), and a row that is typed out is cut into its pieces (`Row.cuts`), which
stand in the new text as they stood in the old one.
-/
import Adventure.Proofs.Composition
import Adventure.Proofs.Places

namespace Adventure

namespace Scan

variable {v : Vocabulary}

/-- What the token of a piece says, wherever it stands. -/
def Piece.wording (q : Piece) : Kind × String :=
  (q.kind, String.ofList q.lexeme)

/-- Pieces that stay apart when they are typed out with spaces between them. -/
inductive Row (v : Vocabulary) : List Piece → Prop
  | nil : Row v []
  | cons {q : Piece} {qs : List Piece} (hq : Whole v { q with rest := [] })
      (hclosed : Even (Text.quotes q.covered) ∨ qs = []) (hqs : Row v qs) : Row v (q :: qs)

/-- Pieces typed out with one space between neighbours. -/
def typed (qs : List Piece) : List Char :=
  [' '].intercalate (qs.map Piece.covered)

theorem isIgnored_space : ∀ c ∈ [' '], isIgnored c = true := by
  intro c hc
  obtain rfl : c = ' ' := List.mem_singleton.mp hc
  decide

theorem head?_space (rest : List Char) :
    ∀ c ∈ (' ' :: rest).head?, Text.isWordChar c = false := by
  intro c hc
  obtain rfl : ' ' = c := Option.some.inj hc
  decide

/-- **The pieces of a text are a row.** -/
theorem Cuts.exists_row {p : Position} {cs : List Char} {ts : List Token} (h : Cuts v p cs ts) :
    ∃ qs, Row v qs ∧ ts.dropLast.map Token.wording = qs.map Piece.wording ∧
      ∀ front : List Char, p = Position.after {} front → ∀ input : String,
        input.toList = front ++ cs →
          ts.dropLast.map (fun t => t.span.text input)
            = qs.map fun q => String.ofList q.covered := by
  induction h with
  | finish hgap => exact ⟨[], .nil, rfl, fun _ _ _ _ => rfl⟩
  | @token p gap q ts hgap hq htokens ih =>
      obtain ⟨qs, hqs, hwording, htexts⟩ := ih
      have hwhole : Whole v { q with rest := [] } := hq.withRest (Or.inr rfl) (Or.inr (by simp))
      refine ⟨q :: qs, .cons hwhole ?_ hqs, ?_, ?_⟩
      · rcases hq.quotes with hclosed | ⟨-, hrest⟩
        · exact Or.inl hclosed
        · -- Quotes that are left open take all of the text, so no piece is left.
          rw [hrest] at htokens
          rw [htokens.of_nil] at hwording
          exact Or.inr (List.map_eq_nil_iff.mp hwording.symm)
      · rw [List.dropLast_cons_of_ne_nil htokens.ne_nil, List.map_cons, List.map_cons, hwording]
        rfl
      · rintro front rfl input hinput
        have hplace := Position.after_after_append {} front gap q.covered
        have hrest := htexts (front ++ gap ++ q.covered) hplace input (by simp [hinput])
        have hfirst := q.text_token input (front ++ gap) q.rest (by simp [hinput])
        rw [List.dropLast_cons_of_ne_nil htokens.ne_nil, List.map_cons, List.map_cons, hrest,
          hplace, ← Position.after_append, hfirst]

/-- Behind a piece that is typed out there is a space and the others, or nothing. -/
theorem typed_cons (q : Piece) (qs : List Piece) :
    ∃ gap, (∀ c ∈ gap, isIgnored c = true) ∧ typed (q :: qs) = q.covered ++ (gap ++ typed qs) ∧
      (∀ c ∈ (gap ++ typed qs).head?, Text.isWordChar c = false) ∧
      (qs = [] → gap ++ typed qs = []) := by
  cases qs with
  | nil => exact ⟨[], by simp, by simp [typed], by simp [typed], fun _ => rfl⟩
  | cons u us =>
      refine ⟨[' '], isIgnored_space, ?_, head?_space _, fun h => nomatch h⟩
      rw [typed, List.map_cons, List.map_cons, List.intercalate_cons_cons, List.append_assoc,
        typed, List.map_cons]

/-- **A row that is typed out is cut into its pieces.** -/
theorem Row.cuts {qs : List Piece} (h : Row v qs) :
    ∀ front gap : List Char, (∀ c ∈ gap, isIgnored c = true) →
      ∃ tokens marker, Cuts v (Position.after {} front) (gap ++ typed qs) (tokens ++ [marker]) ∧
        tokens.map Token.wording = qs.map Piece.wording ∧
        ∀ input : String, input.toList = front ++ (gap ++ typed qs) →
          tokens.map (fun t => t.span.text input) = qs.map fun q => String.ofList q.covered := by
  induction h with
  | nil =>
      intro front gap hgap
      have hcuts := Cuts.finish (v := v) (p := Position.after {} front) hgap
      rw [← List.append_nil gap] at hcuts
      exact ⟨[], _, hcuts, rfl, fun _ _ => rfl⟩
  | @cons q qs hq hclosed hqs ih =>
      intro front gap hgap
      obtain ⟨gap', hgap', htyped, hstop, hlast⟩ := typed_cons q qs
      obtain ⟨tokens, marker, hcuts, hwording, htexts⟩ := ih (front ++ gap ++ q.covered) gap' hgap'
      have hwhole : Whole v { q with rest := gap' ++ typed qs } :=
        hq.withRest (hclosed.imp_right hlast) (Or.inr hstop)
      have hplace := Position.after_after_append {} front gap q.covered
      rw [← hplace] at hcuts
      rw [htyped]
      refine ⟨_ :: tokens, marker, .token hgap hwhole hcuts, ?_, ?_⟩
      · rw [List.map_cons, List.map_cons, hwording]
        rfl
      · intro input hinput
        have hrest := htexts input (by simp [hinput])
        have hfirst := q.text_token input (front ++ gap) (gap' ++ typed qs) (by simp [hinput])
        rw [← hplace, Position.after_append] at hfirst
        rw [List.map_cons, List.map_cons, hrest]
        exact congrArg (· :: _) hfirst

end Scan

/-- The tokens of a line as they stand in it, with one space between neighbours. -/
def respaced (v : Vocabulary) (input : String) : String :=
  " ".intercalate ((Token.visible (scan v input)).map fun t => t.span.text input)

theorem Line.respaced_eq {o : Overlay} {input : String} {body : List Token} {marker : Token}
    (h : Line o input body marker) :
    respaced (.extended o) input = " ".intercalate (body.map fun t => t.span.text input) := by
  rw [respaced, h.visible_eq]

/-- **A line that is respaced has the tokens of the line, standing as they stood.** -/
theorem Line.exists_respaced {o : Overlay} {input : String} {body : List Token} {marker : Token}
    (h : Line o input body marker) :
    ∃ body' marker', Line o (respaced (.extended o) input) body' marker' ∧
      body'.map Token.wording = body.map Token.wording ∧
      body'.map (fun t => t.span.text (respaced (.extended o) input))
        = body.map fun t => t.span.text input := by
  obtain ⟨qs, hqs, hwording, htexts⟩ := (scan_eq_iff.mp h.scan_eq).exists_row
  have htexts' := htexts [] rfl input rfl
  rw [List.dropLast_concat] at hwording htexts'
  have htyped : (respaced (.extended o) input).toList = Scan.typed qs := by
    rw [h.respaced_eq, htexts', String.toList_intercalate, List.map_map, Scan.typed]
    simp [Function.comp_def]
  obtain ⟨tokens, marker', hrow, hsame, hsameTexts⟩ := hqs.cuts [] [] (by simp)
  have hscan : scan (.extended o) (respaced (.extended o) input) = tokens ++ [marker'] := by
    rw [scan_eq_iff, htyped]
    exact hrow
  obtain ⟨body', marker'', hline⟩ := exists_line o (respaced (.extended o) input)
  obtain ⟨rfl, rfl⟩ := hline.eq_of_scan hscan
  refine ⟨body', marker'', hline, hsame.trans hwording.symm, ?_⟩
  rw [hsameTexts _ htyped, htexts']

/-- The end markers of two lines say the same, so the lines say the same if their words do. -/
theorem Line.wordings_eq {o : Overlay} {input input' : String} {body body' : List Token}
    {marker marker' : Token} (h : Line o input body marker) (h' : Line o input' body' marker')
    (hwording : body'.map Token.wording = body.map Token.wording) :
    (scan (.extended o) input').map Token.wording
      = (scan (.extended o) input).map Token.wording := by
  rw [h.scan_eq, h'.scan_eq, List.map_append, List.map_append, h.marker_eq, h'.marker_eq, hwording]
  rfl

/-- **Spacing and punctuation do not change what a line means.** -/
theorem respaced_means_same (i : Interpreter) (input : String) :
    (i.tokens (respaced i.vocabulary input)).map Token.wording
        = (i.tokens input).map Token.wording ∧
      respaced i.vocabulary (respaced i.vocabulary input) = respaced i.vocabulary input ∧
      Node.Alike (· = ·) (fun _ _ => True) (i.compile input)
        (i.compile (respaced i.vocabulary input)) := by
  obtain ⟨o⟩ := i
  obtain ⟨body, marker, hline⟩ := exists_line o input
  obtain ⟨body', marker', hline', hwording, htexts⟩ := hline.exists_respaced
  have hagain : respaced (.extended o) (respaced (.extended o) input)
      = respaced (.extended o) input := by
    rw [hline'.respaced_eq, htexts, ← hline.respaced_eq]
  exact ⟨hline.wordings_eq hline' hwording, hagain,
    hline.compile_alike Likeness.eq hline' (Token.alike_of_wording Likeness.eq hwording.symm)⟩

end Adventure
