/-
A line as the rules see it.

The rules never look at the end marker: they are given the tokens in front of it.  A scan
puts exactly one marker behind all other tokens, so the meaning of a line is a function of
those tokens, `Node.ofWords`, and every one of them has its place in the line.
-/
import Adventure.Interpreter
import Adventure.Proofs.Rules
import Adventure.Proofs.Scan

namespace Adventure

/-- The tokens of a line in front of its end marker. -/
structure Line (o : Overlay) (input : String) (body : List Token) (marker : Token) : Prop where
  scan_eq : scan (.extended o) input = body ++ [marker]
  marker_kind : marker.kind = .eol
  kinds : ∀ t ∈ body, t.kind ≠ .eol
  placed : ∀ t ∈ body, ∃ front q, Scan.Placed (.extended o) input.toList t front q

theorem exists_line (o : Overlay) (input : String) : ∃ body marker, Line o input body marker := by
  obtain ⟨body, hscan, hplaced⟩ := scan_placed (.extended o) input
  refine ⟨body, _, hscan, rfl, ?_, ?_⟩
  · intro t ht
    obtain ⟨front, q, h, -⟩ := hplaced t ht
    rw [h.kind_eq]
    exact h.whole.kind_ne_eol
  · intro t ht
    obtain ⟨front, q, h, -⟩ := hplaced t ht
    exact ⟨front, q, h⟩

/-- A text has one row of tokens and one marker. -/
theorem Line.eq_of_scan {o : Overlay} {input : String} {body body' : List Token}
    {marker marker' : Token} (h : Line o input body marker)
    (hscan : scan (.extended o) input = body' ++ [marker']) : body = body' ∧ marker = marker' := by
  have heq := h.scan_eq.symm.trans hscan
  exact ⟨List.append_inj_left' heq rfl, List.singleton_inj.mp (List.append_inj_right' heq rfl)⟩

/-- The marker of a line stands behind all of it. -/
theorem Line.marker_eq {o : Overlay} {input : String} {body : List Token} {marker : Token}
    (h : Line o input body marker) : marker = .endAt (Position.after {} input.toList) := by
  obtain ⟨body', hscan, -⟩ := scan_placed (.extended o) input
  exact (h.eq_of_scan hscan).2

/-- The meaning of the tokens in front of an end marker. -/
def Node.ofWords (input : String) : List Token → Node
  | [] => .unknown
  | first :: args =>
    match first.kind with
    | .direction _ => .verb (.perform .go) (.ofTarget first.lexeme)
    | .verb k => ofRuling input (.ofVerb k first args)
    | _ => .unknown

theorem takeWhile_args {args : List Token} {marker : Token} (hargs : ∀ t ∈ args, t.kind ≠ .eol)
    (hmarker : marker.kind = .eol) :
    ((args ++ [marker]).takeWhile fun t => !t.isEol) = args := by
  have hall : ∀ t ∈ args, (!t.isEol) = true := by
    intro t ht
    simp [Token.isEol, hargs t ht]
  rw [List.takeWhile_append_of_pos hall,
    List.takeWhile_cons_of_neg (by simp [Token.isEol, hmarker]), List.append_nil]

/-- The tokens in front of the first end marker; all of them where there is none. -/
def Token.spoken (tokens : List Token) : List Token :=
  tokens.takeWhile fun t => !t.isEol

/-- Tokens mean what those in front of their first end marker mean, wherever they come from. -/
theorem Node.ofTokens_eq (input : String) (tokens : List Token) :
    ofTokens input tokens = ofWords input (Token.spoken tokens) := by
  unfold Token.spoken
  cases tokens with
  | nil => rfl
  | cons first rest =>
      by_cases hfirst : first.kind = .eol
      · rw [List.takeWhile_cons_of_neg (by simp [Token.isEol, hfirst])]
        simp only [ofTokens, hfirst, ofWords]
      · rw [List.takeWhile_cons_of_pos (by simp [Token.isEol, hfirst])]
        rfl

/-- **A line means what the tokens in front of its end marker mean.** -/
theorem Line.compile_eq {o : Overlay} {input : String} {body : List Token} {marker : Token}
    (h : Line o input body marker) :
    (Interpreter.mk o).compile input = Node.ofWords input body := by
  show Node.ofTokens input (scan (.extended o) input) = Node.ofWords input body
  rw [Node.ofTokens_eq, h.scan_eq, Token.spoken, takeWhile_args h.kinds h.marker_kind]

/-- All that the tokens of a line can mean, by their first one. -/
inductive Means (input : String) : List Token → Node → Prop
  | nothing : Means input [] .unknown
  | stray {first : Token} {args : List Token} (hdirection : first.kind.isDirection = false)
      (hverb : first.kind.verb? = none) : Means input (first :: args) .unknown
  | direction {first : Token} {args : List Token} (hdirection : first.kind.isDirection = true) :
      Means input (first :: args) (.verb (.perform .go) (.ofTarget first.lexeme))
  | performed {first : Token} {args : List Token} {k k' : Verb} {phrase : Phrase}
      (hk : first.kind = .verb k) (hruling : Ruling.ofVerb k first args = .ok (k', phrase)) :
      Means input (first :: args) (.verb (.perform k') phrase)
  | rejected {first : Token} {args : List Token} {k : Verb} {e : Objection}
      (hk : first.kind = .verb k) (hruling : Ruling.ofVerb k first args = .error e) :
      Means input (first :: args) (.error ⟨e.complaint.message, e.column, input⟩)

theorem means_ofWords (input : String) (body : List Token) :
    Means input body (Node.ofWords input body) := by
  cases body with
  | nil => exact .nothing
  | cons first args =>
      simp only [Node.ofWords]
      split
      · rename_i hkind
        exact .direction (by rw [hkind]; rfl)
      · rename_i k hkind
        cases hruling : Ruling.ofVerb k first args with
        | ok ruling => exact .performed hkind hruling
        | error e => exact .rejected hkind hruling
      · rename_i hnotDirection hnotVerb
        cases hkind : first.kind with
        | verb k => exact absurd hkind (hnotVerb k)
        | direction d => exact absurd hkind (hnotDirection d)
        | _ => exact .stray (by rw [hkind]; rfl) (by rw [hkind]; rfl)

/-- **An error blames a token of its line** that breaks the rule of the verb. -/
theorem exists_breaks {o : Overlay} {input : String} {e : ParseError}
    (h : (Interpreter.mk o).compile input = .error e) :
    ∃ k verb args marker complaint t, Line o input (verb :: args) marker ∧ verb.kind = .verb k ∧
      Ruling.Breaks k verb args complaint t ∧ e = ⟨complaint.message, t.column, input⟩ := by
  obtain ⟨body, marker, hline⟩ := exists_line o input
  have hmeans := means_ofWords input body
  rw [← hline.compile_eq, h] at hmeans
  cases hmeans with
  | @rejected verb args k objection hk hruling =>
      obtain ⟨t, hbreaks, hcolumn⟩ := Ruling.blames_ofVerb hruling
      exact ⟨k, verb, args, marker, _, t, hline, hk, hbreaks, by rw [hcolumn]⟩

theorem error_interpret_iff {i : Interpreter} {input : String} {e : ParseError} :
    (i.interpret input).error = some e ↔ i.compile input = .error e := by
  show (Command.ofNode (some (i.compile input))).error = some e ↔ _
  cases i.compile input with
  | error e' => simp [Command.ofNode, Command.ofError]
  | verb action phrase => simp [Command.ofNode]
  | unknown => simp [Command.ofNode, Command.unknown]

end Adventure
