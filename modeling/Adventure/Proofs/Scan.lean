/-
What a scan cuts a text into.

A scan asks for tokens until it is given an end marker.  No piece of a text is one, since no
word of a vocabulary is, so the first end marker is the one behind the text: a scan is a
loop over a place and the characters that are left.  `Cuts` says the same without the loop:
a text is a gap, a piece, a gap, a piece and so on, and its tokens are the pieces with the
places where they begin and end.  What makes that a description of one scan and not of many
is `Whole`: a piece has taken all that the text gives it, so a word is not followed by one
more word character and a text in quotes stops at a quote or at the end.

`tokens_eq_iff` is the bridge.  Read from left to right it turns facts about the loop into
inductions over `Cuts`; read from right to left it computes the scan of a text that is
put together from pieces.
-/
import Adventure.Token.Scan
import Adventure.Proofs.Vocabulary

namespace Adventure

theorem Kind.exists_of_isDirection {k : Kind} (h : k.isDirection = true) :
    ∃ d, k = .direction d := by
  cases k with
  | direction d => exact ⟨d, rfl⟩
  | _ => exact Bool.noConfusion h

namespace Scan

/-! ### Pieces that have taken all they can -/

/-- A piece that is as long as the text allows. -/
inductive Whole (v : Vocabulary) : Piece → Prop
  | talk (rest : List Char) : Whole v ⟨.verb .talk, ['@'], ['@'], rest⟩
  | help (rest : List Char) : Whole v ⟨.verb .help, ['?'], ['?'], rest⟩
  | quoted {body : List Char} (rest : List Char) (hbody : '"' ∉ body) :
      Whole v ⟨.string, body, '"' :: body ++ ['"'], rest⟩
  | unclosed {body : List Char} (hbody : '"' ∉ body) : Whole v ⟨.string, body, '"' :: body, []⟩
  | word {word rest : List Char} (hne : word ≠ [])
      (hword : ∀ c ∈ word, Text.isWordChar c = true)
      (hrest : ∀ c ∈ rest.head?, Text.isWordChar c = false) :
      Whole v ⟨v.kindOf (String.ofList word), word, word, rest⟩

theorem isIgnored_iff {c : Char} :
    isIgnored c = true ↔ Text.isWordChar c = false ∧ c ≠ '@' ∧ c ≠ '?' ∧ c ≠ '"' := by
  simp only [isIgnored, startsToken, Bool.not_eq_true', Bool.or_eq_false_iff,
    beq_eq_false_iff_ne, ne_eq]
  tauto

theorem startsToken_of_not_isIgnored {c : Char} (h : isIgnored c = false) :
    startsToken c = true := by
  simpa [isIgnored] using h

theorem whole_quotedPiece (v : Vocabulary) (cs : List Char) : Whole v (quotedPiece cs) := by
  have hbody : '"' ∉ cs.takeWhile (· != '"') := by
    intro hmem
    have := List.mem_takeWhile_imp hmem
    simp at this
  unfold quotedPiece
  split
  · exact .unclosed hbody
  · rename_i quote rest hrest
    have hquote := Text.head?_dropWhile_false (· != '"') cs quote (by rw [hrest]; rfl)
    have heq : quote = '"' := by simpa using hquote
    subst heq
    exact .quoted rest hbody

theorem whole_wordPiece (v : Vocabulary) {c : Char} (cs : List Char)
    (hc : Text.isWordChar c = true) : Whole v (wordPiece v c cs) := by
  refine .word (by simp) ?_ (Text.head?_dropWhile_false _ cs)
  intro d hd
  rcases List.mem_cons.mp hd with rfl | hd
  · exact hc
  · exact List.mem_takeWhile_imp hd

/-- The scanner cuts off whole pieces. -/
theorem whole_piece (v : Vocabulary) {c : Char} (cs : List Char) (hc : startsToken c = true) :
    Whole v (piece v c cs) := by
  unfold piece
  by_cases hat : c = '@'
  · rw [if_pos hat, hat]
    exact .talk cs
  rw [if_neg hat]
  by_cases hask : c = '?'
  · rw [if_pos hask, hask]
    exact .help cs
  rw [if_neg hask]
  by_cases hquote : c = '"'
  · rw [if_pos hquote]
    exact whole_quotedPiece v cs
  · rw [if_neg hquote]
    exact whole_wordPiece v cs (by simpa [startsToken, hat, hask, hquote] using hc)

namespace Whole

variable {v : Vocabulary} {q : Piece}

/-- A text that begins with a whole piece is cut there. -/
theorem exists_piece (h : Whole v q) :
    ∃ c cs, q.covered ++ q.rest = c :: cs ∧ startsToken c = true ∧ piece v c cs = q := by
  cases h with
  | talk rest => exact ⟨'@', rest, rfl, by decide, by simp [piece]⟩
  | help rest => exact ⟨'?', rest, rfl, by decide, by simp [piece]⟩
  | @quoted body rest hbody =>
      have hrun : ∀ c ∈ body, (c != '"') = true := by
        intro c hc
        simpa using fun heq : c = '"' => hbody (heq ▸ hc)
      have hrest : ∀ c ∈ ('"' :: rest).head?, (c != '"') = false := by simp
      refine ⟨'"', body ++ '"' :: rest, by simp, by decide, ?_⟩
      simp [piece, quotedPiece, Text.takeWhile_run hrun hrest, Text.dropWhile_run hrun hrest]
  | @unclosed body hbody =>
      have hrun : ∀ c ∈ body, (c != '"') = true := by
        intro c hc
        simpa using fun heq : c = '"' => hbody (heq ▸ hc)
      have htake : body.takeWhile (· != '"') = body := List.takeWhile_eq_self_iff.mpr hrun
      have hdrop : body.dropWhile (· != '"') = [] := List.dropWhile_eq_nil_iff.mpr hrun
      exact ⟨'"', body, by simp, by decide, by simp [piece, quotedPiece, htake, hdrop]⟩
  | @word word rest hne hword hrest =>
      obtain ⟨c, cs, rfl⟩ := List.exists_cons_of_ne_nil hne
      have hc := hword c (by simp)
      have hat : c ≠ '@' := by rintro rfl; exact absurd hc (by decide)
      have hask : c ≠ '?' := by rintro rfl; exact absurd hc (by decide)
      have hquote : c ≠ '"' := by rintro rfl; exact absurd hc (by decide)
      have hcs : ∀ d ∈ cs, Text.isWordChar d = true := fun d hd => hword d (by simp [hd])
      refine ⟨c, cs ++ rest, rfl, by simp [startsToken, hc], ?_⟩
      simp [piece, hat, hask, hquote, wordPiece, Text.takeWhile_run hcs hrest,
        Text.dropWhile_run hcs hrest]

theorem covered_ne_nil (h : Whole v q) : q.covered ≠ [] := by
  cases h with
  | word hne => exact hne
  | _ => simp

/-- A piece that is neither a verb nor quoted is a word, of the kind the vocabulary says. -/
theorem word_of_kind (h : Whole v q) (hverb : q.kind.verb? = none) (hstring : q.kind ≠ .string) :
    q.lexeme ≠ [] ∧ (∀ c ∈ q.lexeme, Text.isWordChar c = true) ∧
      q.kind = v.kindOf (String.ofList q.lexeme) := by
  cases h with
  | talk rest => exact nomatch hverb
  | help rest => exact nomatch hverb
  | quoted rest hbody => exact absurd rfl hstring
  | unclosed hbody => exact absurd rfl hstring
  | word hne hword hrest => exact ⟨hne, hword, rfl⟩

/-- No piece is an end marker, for no vocabulary turns a word into one. -/
theorem kind_ne_eol (h : Whole v q) : q.kind ≠ .eol := by
  cases h with
  | word hne hword hrest => exact Vocabulary.kindOf_ne_eol v _
  | _ => exact Kind.noConfusion

end Whole

/-! ### Texts cut into tokens -/

/-- The token of a piece between two places. -/
def Piece.token (q : Piece) (a b : Position) : Token :=
  ⟨q.kind, String.ofList q.lexeme, .between a b⟩

/-- The tokens of a text that starts at a place: gaps and whole pieces in turn, and the
end marker behind the last gap. -/
inductive Cuts (v : Vocabulary) : Position → List Char → List Token → Prop
  | finish {p : Position} {gap : List Char} (hgap : ∀ c ∈ gap, isIgnored c = true) :
      Cuts v p gap [.endAt (p.after gap)]
  | token {p : Position} {gap : List Char} {q : Piece} {tokens : List Token}
      (hgap : ∀ c ∈ gap, isIgnored c = true) (hq : Whole v q)
      (htokens : Cuts v (p.after (gap ++ q.covered)) q.rest tokens) :
      Cuts v p (gap ++ (q.covered ++ q.rest))
        (q.token (p.after gap) (p.after (gap ++ q.covered)) :: tokens)

end Scan

namespace Scanner

open Scan

theorem step?_eq_none_iff {s : Scanner} :
    s.step? = none ↔ ∀ c ∈ s.rest, isIgnored c = true := by
  rw [← List.dropWhile_eq_nil_iff]
  show s.step? = none ↔ s.skip.rest = []
  unfold step?
  split
  · rename_i hrest
    simp [hrest]
  · rename_i hrest
    simp [hrest]

/-- **A step passes over a gap and cuts off a whole piece.** -/
theorem step?_eq_some_iff {s s' : Scanner} {t : Token} :
    s.step? = some (t, s') ↔
      ∃ gap q, (∀ c ∈ gap, isIgnored c = true) ∧ Whole s.vocabulary q ∧
        s.rest = gap ++ (q.covered ++ q.rest) ∧
        t = q.token (s.position.after gap) (s.position.after (gap ++ q.covered)) ∧
        s' = { s with position := s.position.after (gap ++ q.covered), rest := q.rest } := by
  constructor
  · intro h
    have hsplit : s.rest.takeWhile isIgnored ++ s.skip.rest = s.rest :=
      List.takeWhile_append_dropWhile
    unfold step? at h
    split at h
    · simp at h
    · rename_i c cs hrest
      have hc : startsToken c = true :=
        startsToken_of_not_isIgnored
          (Text.head?_dropWhile_false isIgnored s.rest c (congrArg List.head? hrest))
      simp only [Option.some.injEq, Prod.mk.injEq] at h
      obtain ⟨rfl, rfl⟩ := h
      refine ⟨s.rest.takeWhile isIgnored, piece s.vocabulary c cs,
        fun d hd => List.mem_takeWhile_imp hd, whole_piece s.vocabulary cs hc, ?_, ?_, ?_⟩
      · rw [piece_covered, ← hrest, hsplit]
      · rw [Position.after_append]
        rfl
      · rw [Position.after_append]
        rfl
  · rintro ⟨gap, q, hgap, hq, hrest, rfl, rfl⟩
    obtain ⟨c, cs, hcs, hc, hpiece⟩ := hq.exists_piece
    have hstop : ∀ d ∈ (c :: cs).head?, isIgnored d = false := by simp [isIgnored, hc]
    rw [hcs] at hrest
    have hskip : s.skip = { s with position := s.position.after gap, rest := c :: cs } := by
      rw [skip, hrest, Text.takeWhile_run hgap hstop, Text.dropWhile_run hgap hstop]
    rw [step?, hskip]
    simp only [hpiece, Position.after_append]
    rfl

theorem next_of_none {s : Scanner} (h : s.step? = none) :
    s.next = (.endAt s.skip.position, s.skip) := by
  rw [next, h]
  rfl

theorem next_of_some {s s' : Scanner} {t : Token} (h : s.step? = some (t, s')) :
    s.next = (t, s') := by
  rw [next, h]
  rfl

theorem isEol_of_some {s s' : Scanner} {t : Token} (h : s.step? = some (t, s')) :
    t.isEol = false := by
  obtain ⟨gap, q, -, hq, -, rfl, -⟩ := step?_eq_some_iff.mp h
  simp [Token.isEol, Piece.token, hq.kind_ne_eol]

/-- A scanner is at its end marker or one token in front of a scanner that has less to read. -/
@[elab_as_elim]
theorem step_induction {motive : Scanner → Prop}
    (finish : ∀ s, s.step? = none → motive s)
    (token : ∀ s t s', s.step? = some (t, s') → motive s' → motive s) (s : Scanner) :
    motive s := by
  cases h : s.step? with
  | none => exact finish s h
  | some r =>
      obtain ⟨t, s'⟩ := r
      exact token s t s' h (step_induction finish token s')
termination_by s.rest.length
decreasing_by exact length_lt_of_step? h

end Scanner

/-! ### Streams

A stream asks each token whether it is an end marker, and has no other way to know that the text
is over.
-/

namespace TokenStream

theorem drain_of_next?_none {s : TokenStream} (h : s.next? = none) : s.drain = ([], s) := by
  rw [drain]
  split
  · rfl
  · rename_i hsome
    exact absurd (hsome.symm.trans h) (Option.some_ne_none _)

theorem drain_of_next?_some {s s' : TokenStream} {t : Token} (h : s.next? = some (t, s')) :
    s.drain = (t :: s'.drain.1, s'.drain.2) := by
  rw [drain]
  split
  · rename_i hnone
    exact absurd (h.symm.trans hnone) (Option.some_ne_none _)
  · rename_i hsome
    obtain ⟨rfl, rfl⟩ := Prod.mk.inj (Option.some.inj (h.symm.trans hsome))
    rfl

/-- Behind the text a stream gives one end marker. -/
theorem drain_of_none {s : Scanner} (h : s.step? = none) :
    (mk s false).drain = ([.endAt s.skip.position], ⟨s.skip, true⟩) := by
  have hnext : (mk s false).next? = some (.endAt s.skip.position, ⟨s.skip, true⟩) := by
    simp only [next?, Bool.false_eq_true, if_false, Scanner.next_of_none h]
    rfl
  rw [drain_of_next?_some hnext, drain_of_next?_none rfl]

/-- **A stream does not end within a text**, because no token of it is an end marker. -/
theorem drain_of_some {s s' : Scanner} {t : Token} (h : s.step? = some (t, s')) :
    (mk s false).drain = (t :: (mk s' false).drain.1, (mk s' false).drain.2) := by
  refine drain_of_next?_some ?_
  simp only [next?, Bool.false_eq_true, if_false, Scanner.next_of_some h,
    Scanner.isEol_of_some h]

end TokenStream

namespace Scanner

open Scan

theorem tokens_of_none {s : Scanner} (h : s.step? = none) :
    s.tokens = [.endAt s.skip.position] := by
  rw [tokens, TokenStream.drain_of_none h]

theorem tokens_of_some {s s' : Scanner} {t : Token} (h : s.step? = some (t, s')) :
    s.tokens = t :: s'.tokens := by
  rw [tokens, TokenStream.drain_of_some h, tokens]

theorem cuts_tokens (s : Scanner) : Cuts s.vocabulary s.position s.rest s.tokens := by
  induction s using step_induction with
  | finish s hnone =>
      have hgap := step?_eq_none_iff.mp hnone
      have hskip : s.skip.position = s.position.after s.rest := by
        rw [skip, List.takeWhile_eq_self_iff.mpr hgap]
      rw [tokens_of_none hnone, hskip]
      exact .finish hgap
  | token s t s' hsome ih =>
      rw [tokens_of_some hsome]
      obtain ⟨gap, q, hgap, hq, hrest, rfl, rfl⟩ := step?_eq_some_iff.mp hsome
      rw [hrest]
      exact .token hgap hq ih

theorem tokens_of_cuts {v : Vocabulary} {p : Position} {rest : List Char} {ts : List Token}
    (h : Cuts v p rest ts) : (Scanner.mk v p rest).tokens = ts := by
  induction h with
  | @finish p gap hgap =>
      have hnone := step?_eq_none_iff (s := ⟨v, p, gap⟩).mpr hgap
      rw [tokens_of_none hnone, skip]
      simp only [List.takeWhile_eq_self_iff.mpr hgap]
  | @token p gap q ts hgap hq htokens ih =>
      have hsome := step?_eq_some_iff (s := ⟨v, p, gap ++ (q.covered ++ q.rest)⟩).mpr
        ⟨gap, q, hgap, hq, rfl, rfl, rfl⟩
      rw [tokens_of_some hsome, ih]

/-- **A scan gives the tokens that the text is cut into, and the text can be cut in no
other way.** -/
theorem tokens_eq_iff {s : Scanner} {ts : List Token} :
    s.tokens = ts ↔ Cuts s.vocabulary s.position s.rest ts := by
  constructor
  · rintro rfl
    exact cuts_tokens s
  · exact tokens_of_cuts

end Scanner

namespace Scan

/-! ### Where tokens stand in the text

A cut of a whole text knows how much of the text lies in front of each piece.  Lines,
columns and offsets are all read off that front, so `Placed` names it instead of the
numbers.
-/

/-- No word runs across the border of two texts. -/
def Seam (front back : List Char) : Prop :=
  ∀ c ∈ front.getLast?, ∀ d ∈ back.head?, Text.isWordChar c = true → Text.isWordChar d = false

theorem seam_nil (back : List Char) : Seam [] back := by
  intro c hc
  simp at hc

theorem seam_concat {c : Char} (hc : Text.isWordChar c = false) (front back : List Char) :
    Seam (front ++ [c]) back := by
  intro d hd _ _ hword
  rw [List.getLast?_concat, Option.mem_some_iff] at hd
  rw [← hd, hc] at hword
  simp at hword

/-- A gap moves the border, since a word cannot end in it. -/
theorem Seam.gap {front gap back : List Char} (h : Seam front (gap ++ back))
    (hgap : ∀ c ∈ gap, isIgnored c = true) : Seam (front ++ gap) back := by
  rcases List.eq_nil_or_concat gap with rfl | ⟨init, last, rfl⟩
  · rw [List.append_nil]
    exact h
  · have hlast := (isIgnored_iff.mp (hgap last (by simp))).1
    rw [List.concat_eq_append, ← List.append_assoc]
    exact seam_concat hlast _ back

theorem Whole.seam {v : Vocabulary} {q : Piece} (h : Whole v q) (front : List Char) :
    Seam (front ++ q.covered) q.rest := by
  cases h with
  | talk rest => exact seam_concat (by decide) front rest
  | help rest => exact seam_concat (by decide) front rest
  | quoted rest hbody =>
      rw [← List.append_assoc]
      exact seam_concat (by decide) _ rest
  | unclosed hbody =>
      intro c _ d hd
      simp at hd
  | word hne hword hrest =>
      intro c _ d hd _
      exact hrest d hd

/-- A token covers the characters of its piece. -/
theorem Piece.text_token (q : Piece) (input : String) (front rest : List Char)
    (hinput : input.toList = front ++ (q.covered ++ rest)) :
    (q.token (Position.after {} front) (Position.after {} (front ++ q.covered))).span.text input
      = String.ofList q.covered := by
  have hslice : Text.slice? (Position.after {} front).offset
      (Position.after {} (front ++ q.covered)).offset input.toList = some q.covered := by
    rw [Position.offset_start, Position.offset_start]
    exact Text.slice?_eq_some_iff.mpr ⟨front, rest, hinput, rfl, rfl⟩
  simp only [Piece.token, Span.between, Span.text, hslice]

theorem Piece.start_token (q : Piece) (front : List Char) (b : Position) :
    (q.token (Position.after {} front) b).span.start = Text.byteLength front :=
  Position.offset_start front

theorem Piece.stop_token (q : Piece) (a : Position) (front : List Char) :
    (q.token a (Position.after {} front)).span.stop = Text.byteLength front :=
  Position.offset_start front

/-- A token stands in a text as the piece `q`, with `front` before it. -/
structure Placed (v : Vocabulary) (text : List Char) (t : Token) (front : List Char)
    (q : Piece) : Prop where
  /-- The token took all it could. -/
  whole : Whole v q
  /-- The text is what is before it, what it covers and what is behind it. -/
  text_eq : text = front ++ (q.covered ++ q.rest)
  /-- Kind, spelling and places are those of the piece. -/
  token_eq : t = q.token (Position.after {} front) (Position.after {} (front ++ q.covered))
  /-- It does not begin inside a word. -/
  seam : Seam front (q.covered ++ q.rest)

namespace Placed

variable {v : Vocabulary} {text front : List Char} {t : Token} {q : Piece}

theorem kind_eq (h : Placed v text t front q) : t.kind = q.kind := by
  rw [h.token_eq]
  rfl

theorem lexeme_eq (h : Placed v text t front q) : t.lexeme = String.ofList q.lexeme := by
  rw [h.token_eq]
  rfl

theorem start_eq (h : Placed v text t front q) : t.span.start = Text.byteLength front := by
  rw [h.token_eq, q.start_token]

theorem stop_eq (h : Placed v text t front q) :
    t.span.stop = Text.byteLength (front ++ q.covered) := by
  rw [h.token_eq, q.stop_token]

/-- The span of a token covers the token's own characters. -/
theorem span_text {input : String} (h : Placed v input.toList t front q) :
    t.span.text input = String.ofList q.covered := by
  rw [h.token_eq]
  exact q.text_token input front q.rest h.text_eq

theorem column_lt (h : Placed v text t front q) : t.column < text.length := by
  have hcolumn : t.column ≤ front.length := by
    rw [h.token_eq]
    exact Position.column_start_le front
  have hcovered := List.length_pos_iff.mpr h.whole.covered_ne_nil
  rw [h.text_eq, List.length_append, List.length_append]
  omega

/-- A direction is a word, and word characters can be seen. -/
theorem exists_visible (h : Placed v text t front q) (hdirection : t.kind.isDirection = true) :
    ∃ x ∈ t.lexeme.toList, Text.isBlank x = false := by
  rw [h.kind_eq] at hdirection
  obtain ⟨d, hkind⟩ := Kind.exists_of_isDirection hdirection
  obtain ⟨hne, hword, -⟩ := h.whole.word_of_kind (by rw [hkind]; rfl)
    (by rw [hkind]; exact Kind.noConfusion)
  obtain ⟨x, rest, hlexeme⟩ := List.exists_cons_of_ne_nil hne
  refine ⟨x, ?_, Text.not_isBlank_of_isWordChar (hword x (by simp [hlexeme]))⟩
  rw [h.lexeme_eq, String.toList_ofList, hlexeme]
  simp

/-- An `away` is a word that the vocabulary reads so. -/
theorem kindOf_away (h : Placed v text t front q) (hkind : t.kind = .away) :
    v.kindOf t.lexeme = .away := by
  rw [h.kind_eq] at hkind
  have hword := h.whole.word_of_kind (by rw [hkind]; rfl) (by rw [hkind]; exact Kind.noConfusion)
  rw [h.lexeme_eq, ← hword.2.2, hkind]

end Placed

theorem Cuts.of_nil {v : Vocabulary} {p : Position} {ts : List Token} (h : Cuts v p [] ts) :
    ts = [.endAt p] := by
  have hfinish : Cuts v p [] [.endAt p] := .finish (by simp)
  rw [← Scanner.tokens_of_cuts h, Scanner.tokens_of_cuts hfinish]

/-- **Every token but the end marker is a piece of the text, and one with nothing behind
it is the last.** -/
theorem Cuts.placed {v : Vocabulary} {p : Position} {rest : List Char} {ts : List Token}
    (h : Cuts v p rest ts) :
    ∀ front, p = Position.after {} front → Seam front rest →
      ∃ body, ts = body ++ [.endAt (Position.after {} (front ++ rest))] ∧
        ∀ t ∈ body, ∃ front' q, Placed v (front ++ rest) t front' q ∧
          (q.rest = [] → body.getLast? = some t) := by
  induction h with
  | @finish p gap hgap =>
      rintro front rfl -
      exact ⟨[], by rw [← Position.after_append]; rfl, by simp⟩
  | @token p gap q ts hgap hq htokens ih =>
      rintro front rfl hseam
      have hpos := Position.after_after_append {} front gap q.covered
      have htext : front ++ (gap ++ (q.covered ++ q.rest))
          = front ++ gap ++ q.covered ++ q.rest := by
        simp
      obtain ⟨body, rfl, hbody⟩ := ih (front ++ gap ++ q.covered) hpos (hq.seam _)
      rw [htext]
      refine ⟨_ :: body, by rw [List.cons_append], ?_⟩
      intro t ht
      rcases List.mem_cons.mp ht with rfl | ht
      · refine ⟨front ++ gap, q, ⟨hq, by simp, ?_, hseam.gap hgap⟩, ?_⟩
        · rw [hpos, ← Position.after_append]
        · intro hrest
          rw [hrest] at htokens
          have hlen := congrArg List.length htokens.of_nil
          have hnil : body = [] := by simpa using hlen
          rw [hnil, List.getLast?_singleton]
      · obtain ⟨front', q', hplaced, hlast⟩ := hbody t ht
        refine ⟨front', q', hplaced, ?_⟩
        intro hrest
        rw [List.getLast?_cons, hlast hrest]
        rfl

end Scan

theorem scan_eq_iff {v : Vocabulary} {input : String} {ts : List Token} :
    scan v input = ts ↔ Scan.Cuts v {} input.toList ts :=
  Scanner.tokens_eq_iff

/-- The tokens of a text are placed pieces and the end marker behind all of it. -/
theorem scan_placed (v : Vocabulary) (input : String) :
    ∃ body, scan v input = body ++ [.endAt (Position.after {} input.toList)] ∧
      ∀ t ∈ body, ∃ front q, Scan.Placed v input.toList t front q ∧
        (q.rest = [] → body.getLast? = some t) :=
  (scan_eq_iff.mp rfl).placed [] rfl (Scan.seam_nil _)

end Adventure
