/-
The case of ASCII letters means nothing.

Scanning keeps step with folding: the tokens of a text in lower case are the tokens of the
text in lower case, in the same places (`scan_foldCase`).  Two texts that differ in case
alone have the same lower case, so their tokens have the same kinds, which are looked up in
upper case, and the same places.  Their spellings differ in case at most, and no rule asks
for more (`Line.compile_alike`).
-/
import Adventure.Proofs.Alike

namespace Adventure

/-- A token spelled in lower case. -/
def Token.foldCase (t : Token) : Token :=
  { t with lexeme := Text.foldCase t.lexeme }

namespace Position

theorem next_toLower (p : Position) (c : Char) : p.next c.toLower = p.next c := by
  have hfeed : c.toLower = '\n' ↔ c = '\n' := Text.toLower_eq_iff (by decide) (by decide) c
  simp only [next, hfeed, Text.utf8Size_toLower]

theorem after_map_toLower (cs : List Char) :
    ∀ p : Position, p.after (cs.map Char.toLower) = p.after cs := by
  induction cs with
  | nil => intro p; rfl
  | cons c cs ih => intro p; rw [List.map_cons, after_cons, after_cons, next_toLower, ih]

end Position

namespace Scan

variable {v : Vocabulary}

/-- A piece of a text, as it is cut from the text in lower case. -/
def Piece.foldCase (q : Piece) : Piece where
  kind := q.kind
  lexeme := q.lexeme.map Char.toLower
  covered := q.covered.map Char.toLower
  rest := q.rest.map Char.toLower

theorem isIgnored_toLower (c : Char) : isIgnored c.toLower = isIgnored c := by
  have htalk : c.toLower = '@' ↔ c = '@' := Text.toLower_eq_iff (by decide) (by decide) c
  have hhelp : c.toLower = '?' ↔ c = '?' := Text.toLower_eq_iff (by decide) (by decide) c
  have hquote : c.toLower = '"' ↔ c = '"' := Text.toLower_eq_iff (by decide) (by decide) c
  rw [Bool.eq_iff_iff, isIgnored_iff, isIgnored_iff, Text.isWordChar_toLower, ne_eq, ne_eq, ne_eq,
    htalk, hhelp, hquote]

theorem quote_mem_map_toLower {cs : List Char} (h : '"' ∉ cs) : '"' ∉ cs.map Char.toLower := by
  intro hmem
  obtain ⟨c, hc, hquote⟩ := List.mem_map.mp hmem
  rw [(Text.toLower_eq_iff (by decide) (by decide) c).mp hquote] at hc
  exact h hc

theorem kindOf_map_toLower (v : Vocabulary) (word : List Char) :
    v.kindOf (String.ofList (word.map Char.toLower)) = v.kindOf (String.ofList word) := by
  rw [← Text.foldCase_ofList, Vocabulary.kindOf, Text.upper_foldCase, Vocabulary.kindOf]

theorem Piece.foldCase_token (q : Piece) (a b : Position) :
    (q.token a b).foldCase = q.foldCase.token a b := by
  rw [Piece.token, Token.foldCase, Text.foldCase_ofList]
  rfl

/-- **A piece in lower case is a piece, of the same kind.** -/
theorem Whole.foldCase {q : Piece} (h : Whole v q) : Whole v q.foldCase := by
  cases h with
  | talk rest => exact .talk _
  | help rest => exact .help _
  | @quoted body rest hbody =>
      have hcovered : ('"' :: body ++ ['"']).map Char.toLower
          = '"' :: body.map Char.toLower ++ ['"'] := by
        rw [List.map_append]
        rfl
      rw [Piece.foldCase, hcovered]
      exact .quoted _ (quote_mem_map_toLower hbody)
  | unclosed hbody => exact .unclosed (quote_mem_map_toLower hbody)
  | @word word rest hne hword hrest =>
      rw [Piece.foldCase, ← kindOf_map_toLower]
      refine .word (by simpa using hne) ?_ ?_
      · intro c hc
        obtain ⟨d, hd, rfl⟩ := List.mem_map.mp hc
        rw [Text.isWordChar_toLower]
        exact hword d hd
      · intro c hc
        rw [List.head?_map] at hc
        obtain ⟨d, hd, rfl⟩ := Option.map_eq_some_iff.mp hc
        rw [Text.isWordChar_toLower]
        exact hrest d hd

/-- **A text in lower case is cut where the text is cut.** -/
theorem Cuts.foldCase {p : Position} {cs : List Char} {ts : List Token} (h : Cuts v p cs ts) :
    Cuts v p (cs.map Char.toLower) (ts.map Token.foldCase) := by
  have hignored : ∀ gap : List Char, (∀ c ∈ gap, isIgnored c = true) →
      ∀ c ∈ gap.map Char.toLower, isIgnored c = true := by
    intro gap hgap c hc
    obtain ⟨d, hd, rfl⟩ := List.mem_map.mp hc
    rw [isIgnored_toLower]
    exact hgap d hd
  induction h with
  | @finish p gap hgap =>
      have hcuts := Cuts.finish (v := v) (p := p) (hignored gap hgap)
      rw [Position.after_map_toLower] at hcuts
      exact hcuts
  | @token p gap q ts hgap hq htokens ih =>
      have hplace : p.after (gap.map Char.toLower ++ q.covered.map Char.toLower)
          = p.after (gap ++ q.covered) := by
        rw [← List.map_append, Position.after_map_toLower]
      rw [← hplace] at ih
      have hcuts := Cuts.token (hignored gap hgap) hq.foldCase ih
      rw [Position.after_map_toLower, show q.foldCase.covered = q.covered.map Char.toLower from rfl,
        hplace] at hcuts
      rw [List.map_append, List.map_append, List.map_cons, Piece.foldCase_token]
      exact hcuts

end Scan

theorem scan_foldCase (v : Vocabulary) (input : String) :
    scan v (Text.foldCase input) = (scan v input).map Token.foldCase := by
  have hcuts := (scan_eq_iff.mp (Eq.refl (scan v input))).foldCase
  rw [scan_eq_iff, Text.toList_foldCase]
  exact hcuts

/-- Texts that differ in case at most are alike to the rules. -/
theorem Likeness.sameIgnoringCase : Likeness fun s t => Text.sameIgnoringCase s t = true where
  refl := by
    intro s
    rw [Text.sameIgnoringCase, beq_self_eq_true]
  append := by
    intro s s' t t' hs ht
    rw [Text.sameIgnoringCase, beq_iff_eq] at hs ht ⊢
    rw [String.toList_append, String.toList_append, List.map_append, List.map_append, hs, ht]
  blank := by
    intro s s' h
    rw [← Text.isBlankText_foldCase, Text.sameIgnoringCase_iff.mp h, Text.isBlankText_foldCase]

theorem Token.alike_of_foldCase {args args' : List Token}
    (h : args.map Token.foldCase = args'.map Token.foldCase) :
    List.Forall₂ (Token.Alike (fun s t => Text.sameIgnoringCase s t = true) (· = ·))
      args args' := by
  rw [← List.forall₂_eq_eq_eq, List.forall₂_map_left_iff, List.forall₂_map_right_iff] at h
  refine h.imp ?_
  intro t t' ht
  have hkind : t.foldCase.kind = t'.foldCase.kind := congrArg Token.kind ht
  have hlexeme : t.foldCase.lexeme = t'.foldCase.lexeme := congrArg Token.lexeme ht
  have hcolumn : t.foldCase.column = t'.foldCase.column := congrArg Token.column ht
  have hspelled := Text.sameIgnoringCase_iff.mpr hlexeme
  exact ⟨hkind, hspelled, fun _ => hspelled, hcolumn⟩

/-- **The case of ASCII letters does not matter.** -/
theorem letter_case_irrelevant (i : Interpreter) (x y : String)
    (h : Text.sameIgnoringCase x y = true) :
    (i.tokens x).map Token.kind = (i.tokens y).map Token.kind ∧
      (i.tokens x).map Token.span = (i.tokens y).map Token.span ∧
      Node.Alike (fun s t => Text.sameIgnoringCase s t = true) (· = ·)
        (i.compile x) (i.compile y) := by
  obtain ⟨o⟩ := i
  have hfold : (scan (.extended o) x).map Token.foldCase
      = (scan (.extended o) y).map Token.foldCase := by
    rw [← scan_foldCase, Text.sameIgnoringCase_iff.mp h, scan_foldCase]
  have hkinds := congrArg (List.map Token.kind) hfold
  have hspans := congrArg (List.map Token.span) hfold
  rw [List.map_map, List.map_map] at hkinds hspans
  obtain ⟨body, marker, hline⟩ := exists_line o x
  obtain ⟨body', marker', hline'⟩ := exists_line o y
  rw [hline.scan_eq, hline'.scan_eq, List.map_append, List.map_append] at hfold
  have hbody := List.append_inj_left' hfold rfl
  exact ⟨hkinds, hspans, hline.compile_alike Likeness.sameIgnoringCase hline'
    (Token.alike_of_foldCase hbody)⟩

/-- An alias, a letter outside ASCII and an error that quotes a word. -/
theorem letter_case_irrelevant_avec :
    let i : Interpreter := ⟨.ofPairs [("Avec", .preposition .with_)]⟩
    let x := "attack Élan AVEC"
    let y := "ATTACK ÉlaN avec"
    Text.sameIgnoringCase x y = true ∧
      i.compile x = .error ⟨"Expected object after 'avec'", 12, x⟩ ∧
      (i.tokens x).map Token.kind = (i.tokens y).map Token.kind ∧
      (i.tokens x).map Token.span = (i.tokens y).map Token.span ∧
      Node.Alike (fun s t => Text.sameIgnoringCase s t = true) (· = ·)
        (i.compile x) (i.compile y) := by
  intro i x y
  have hsame : Text.sameIgnoringCase x y = true := by decide
  exact ⟨hsame, by decide +kernel, letter_case_irrelevant i x y hsame⟩

end Adventure
