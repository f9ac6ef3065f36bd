/-
A scan loses nothing of a text.

Error columns, colours and completions all take the spans of the tokens at their word.
This file says what the spans promise: they follow each other in the text, they cut it
only between characters, and whatever lies outside of them could not have started a
token.  Inside, a word is as long as it can be on both sides, a sign is one character, and
a text in quotes is spelled without its quotes.

All of it is read off the pieces.  `scan_placed` gives each token its piece and what stands
before it; `Cuts.gaps` follows the cut once more for what lies between the pieces.
-/
import Adventure.Proofs.Scan

namespace Adventure

/-- Two stretches in order, with text between them that could start no token. -/
structure Gap (text : List Char) (a b : Span) : Prop where
  ordered : a.stop ≤ b.start
  passed : ∃ gap, Text.slice? a.stop b.start text = some gap ∧
    ∀ c ∈ gap, Text.isWordChar c = false ∧ c ≠ '@' ∧ c ≠ '?' ∧ c ≠ '"'

/-- A token that is a word of the text and no part of a longer one. -/
structure IsWord (input : String) (t : Token) : Prop where
  spelled : t.span.text input = t.lexeme
  chars : ∀ c ∈ t.lexeme.toList, Text.isWordChar c = true
  /-- No word character stands before it. -/
  left : ∀ front back, Text.splitAtByte? t.span.start input.toList = some (front, back) →
    ∀ c ∈ front.getLast?, Text.isWordChar c = false
  /-- No word character stands behind it. -/
  right : ∀ front back, Text.splitAtByte? t.span.stop input.toList = some (front, back) →
    ∀ c ∈ back.head?, Text.isWordChar c = false

/-- A token that is a text in quotes.  Only the last token may lack the closing quote, and
then it runs to the end. -/
structure IsQuoted (input : String) (tokens : List Token) (t : Token) : Prop where
  body : '"' ∉ t.lexeme.toList
  spelled : t.span.text input = "\"" ++ t.lexeme ++ "\"" ∨
    t.span.text input = "\"" ++ t.lexeme ∧ tokens.getLast? = some t ∧
      t.span.stop = Text.byteLength input.toList

/-- The first character that a token covers. -/
def Token.first? (input : String) (t : Token) : Option Char :=
  (t.span.text input).toList.head?

/-- What tokens and an end marker say about the text they were cut from. -/
structure Lossless (input : String) (tokens : List Token) (last : Token) : Prop where
  /-- The end marker covers nothing and stands behind the last byte. -/
  marker : last.kind = .eol ∧ last.span.start = Text.byteLength input.toList ∧
    last.span.stop = Text.byteLength input.toList
  /-- No other token is an end marker. -/
  kinds : ∀ t ∈ tokens, t.kind ≠ .eol
  /-- Every other token covers something. -/
  covering : ∀ t ∈ tokens, t.span.start < t.span.stop
  /-- Tokens start and end between characters. -/
  boundaries : ∀ t ∈ tokens ++ [last],
    (Text.splitAtByte? t.span.start input.toList).isSome = true ∧
      (Text.splitAtByte? t.span.stop input.toList).isSome = true
  /-- They come in order, from the start of the text to its end marker, and what lies
  between two of them was rightly passed over. -/
  gaps : List.IsChain (Gap input.toList) ({} :: (tokens ++ [last]).map Token.span)
  /-- A token begins with a character that can start one. -/
  starts : ∀ t ∈ tokens, ∃ c, t.first? input = some c ∧
    (Text.isWordChar c = true ∨ c = '@' ∨ c = '?' ∨ c = '"')
  words : ∀ t ∈ tokens, ∀ c, t.first? input = some c → Text.isWordChar c = true →
    IsWord input t
  signs : ∀ t ∈ tokens, ∀ c, t.first? input = some c → c = '@' ∨ c = '?' →
    t.span.text input = String.singleton c ∧ t.lexeme = String.singleton c
  strings : ∀ t ∈ tokens, t.kind = .string ↔ t.first? input = some '"'
  quoted : ∀ t ∈ tokens, t.kind = .string → IsQuoted input tokens t

namespace Scan

/-! ### What lies between the pieces -/

theorem gap_of_append {front gap rest : List Char} (hgap : ∀ c ∈ gap, isIgnored c = true)
    {a b : Span} (ha : a.stop = Text.byteLength front)
    (hb : b.start = Text.byteLength (front ++ gap)) : Gap (front ++ (gap ++ rest)) a b := by
  refine ⟨?_, gap, ?_, fun c hc => isIgnored_iff.mp (hgap c hc)⟩
  · rw [ha, hb]
    exact Text.byteLength_le_append front gap
  · exact Text.slice?_eq_some_iff.mpr ⟨front, rest, rfl, ha.symm, hb.symm⟩

/-- **Between two tokens of a cut lies a gap**, also in front of the first one if the
stretch `a` ends where the cut begins. -/
theorem Cuts.gaps {v : Vocabulary} {p : Position} {rest : List Char} {ts : List Token}
    (h : Cuts v p rest ts) :
    ∀ front, p = Position.after {} front → ∀ a : Span, a.stop = Text.byteLength front →
      List.IsChain (Gap (front ++ rest)) (a :: ts.map Token.span) := by
  induction h with
  | @finish p gap hgap =>
      rintro front rfl a ha
      have hgap' : Gap (front ++ (gap ++ [])) a
          (Token.endAt ((Position.after {} front).after gap)).span :=
        gap_of_append hgap ha (Position.offset_after_after front gap)
      rw [List.append_nil] at hgap'
      exact List.isChain_cons_cons.mpr ⟨hgap', List.isChain_singleton _⟩
  | @token p gap q ts hgap hq htokens ih =>
      rintro front rfl a ha
      have hpos := Position.after_after_append {} front gap q.covered
      rw [List.map_cons]
      refine List.isChain_cons_cons.mpr ⟨?_, ?_⟩
      · exact gap_of_append hgap ha (Position.offset_after_after front gap)
      · have htext : front ++ (gap ++ (q.covered ++ q.rest))
            = front ++ gap ++ q.covered ++ q.rest := by
          simp
        rw [htext]
        refine ih _ hpos _ ?_
        rw [hpos, ← Position.offset_start]
        rfl

/-! ### What the first character of a piece decides -/

namespace Whole

variable {v : Vocabulary} {q : Piece} {c : Char}

theorem exists_head (h : Whole v q) :
    ∃ c, q.covered.head? = some c ∧
      (Text.isWordChar c = true ∨ c = '@' ∨ c = '?' ∨ c = '"') := by
  cases h with
  | talk rest => exact ⟨'@', rfl, by simp⟩
  | help rest => exact ⟨'?', rfl, by simp⟩
  | quoted rest hbody => exact ⟨'"', rfl, by simp⟩
  | unclosed hbody => exact ⟨'"', rfl, by simp⟩
  | word hne hword hrest =>
      obtain ⟨c, cs, rfl⟩ := List.exists_cons_of_ne_nil hne
      exact ⟨c, rfl, Or.inl (hword c (by simp))⟩

/-- A piece that begins like a word is one. -/
theorem word_of_head (h : Whole v q) (hhead : q.covered.head? = some c)
    (hc : Text.isWordChar c = true) :
    q.lexeme = q.covered ∧ (∀ d ∈ q.covered, Text.isWordChar d = true) ∧
      ∀ d ∈ q.rest.head?, Text.isWordChar d = false := by
  cases h with
  | word hne hword hrest => exact ⟨rfl, hword, hrest⟩
  | _ =>
      -- The other pieces begin with a sign or a quote, which are no word characters.
      obtain rfl : _ = c := Option.some.inj hhead
      exact absurd hc (by decide)

theorem sign_of_head (h : Whole v q) (hhead : q.covered.head? = some c)
    (hc : c = '@' ∨ c = '?') : q.covered = [c] ∧ q.lexeme = [c] := by
  cases h with
  | talk rest =>
      obtain rfl : '@' = c := Option.some.inj hhead
      exact ⟨rfl, rfl⟩
  | help rest =>
      obtain rfl : '?' = c := Option.some.inj hhead
      exact ⟨rfl, rfl⟩
  | quoted rest hbody =>
      obtain rfl : '"' = c := Option.some.inj hhead
      simp at hc
  | unclosed hbody =>
      obtain rfl : '"' = c := Option.some.inj hhead
      simp at hc
  | word hne hword hrest =>
      have hc' := hword c (List.mem_of_head? hhead)
      rcases hc with rfl | rfl
      · exact absurd hc' (by decide)
      · exact absurd hc' (by decide)

/-- Only quotes make a text in quotes: no alias gives a word that kind. -/
theorem kind_eq_string_iff {o : Overlay} (h : Whole (.extended o) q) :
    q.kind = .string ↔ q.covered.head? = some '"' := by
  cases h with
  | talk rest => simp
  | help rest => simp
  | quoted rest hbody => simp
  | unclosed hbody => simp
  | word hne hword hrest =>
      constructor
      · intro hkind
        exact absurd hkind (Vocabulary.kindOf_ne_string _ _)
      · intro hhead
        exact absurd (hword _ (List.mem_of_head? hhead)) (by decide)

theorem quoted_of_kind {o : Overlay} (h : Whole (.extended o) q) (hkind : q.kind = .string) :
    '"' ∉ q.lexeme ∧ (q.covered = '"' :: q.lexeme ++ ['"'] ∨
      q.covered = '"' :: q.lexeme ∧ q.rest = []) := by
  cases h with
  | talk rest => exact Kind.noConfusion hkind
  | help rest => exact Kind.noConfusion hkind
  | quoted rest hbody => exact ⟨hbody, Or.inl rfl⟩
  | unclosed hbody => exact ⟨hbody, Or.inr ⟨rfl, rfl⟩⟩
  | word hne hword hrest => exact absurd hkind (Vocabulary.kindOf_ne_string _ _)

end Whole

namespace Placed

variable {v : Vocabulary} {input : String} {t : Token} {front : List Char} {q : Piece}

theorem first?_eq (h : Placed v input.toList t front q) : t.first? input = q.covered.head? := by
  rw [Token.first?, h.span_text, String.toList_ofList]

theorem split_start (h : Placed v input.toList t front q) :
    Text.splitAtByte? t.span.start input.toList = some (front, q.covered ++ q.rest) :=
  Text.splitAtByte?_eq_some_iff.mpr ⟨h.text_eq, h.start_eq.symm⟩

theorem split_stop (h : Placed v input.toList t front q) :
    Text.splitAtByte? t.span.stop input.toList = some (front ++ q.covered, q.rest) := by
  refine Text.splitAtByte?_eq_some_iff.mpr ⟨?_, h.stop_eq.symm⟩
  rw [h.text_eq, List.append_assoc]

theorem start_lt_stop (h : Placed v input.toList t front q) : t.span.start < t.span.stop := by
  rw [h.start_eq, h.stop_eq]
  exact (Text.byteLength_lt_append_iff front q.covered).mpr h.whole.covered_ne_nil

theorem isWord (h : Placed v input.toList t front q) {c : Char}
    (hfirst : t.first? input = some c) (hc : Text.isWordChar c = true) : IsWord input t := by
  rw [h.first?_eq] at hfirst
  obtain ⟨hlexeme, hchars, hright⟩ := h.whole.word_of_head hfirst hc
  refine ⟨?_, ?_, ?_, ?_⟩
  · rw [h.span_text, h.lexeme_eq, hlexeme]
  · rw [h.lexeme_eq, hlexeme, String.toList_ofList]
    exact hchars
  · intro front' back' hsplit d hd
    rw [h.split_start, Option.some.injEq, Prod.mk.injEq] at hsplit
    obtain ⟨rfl, -⟩ := hsplit
    have hhead : c ∈ (q.covered ++ q.rest).head? := by
      rw [List.head?_append, hfirst]
      rfl
    by_contra hword
    rw [h.seam d hd c hhead (by simpa using hword)] at hc
    exact Bool.noConfusion hc
  · intro front' back' hsplit
    rw [h.split_stop, Option.some.injEq, Prod.mk.injEq] at hsplit
    obtain ⟨-, rfl⟩ := hsplit
    exact hright

theorem spelled_of_sign (h : Placed v input.toList t front q) {c : Char}
    (hfirst : t.first? input = some c) (hc : c = '@' ∨ c = '?') :
    t.span.text input = String.singleton c ∧ t.lexeme = String.singleton c := by
  rw [h.first?_eq] at hfirst
  obtain ⟨hcovered, hlexeme⟩ := h.whole.sign_of_head hfirst hc
  rw [h.span_text, h.lexeme_eq, hcovered, hlexeme]
  exact ⟨rfl, rfl⟩

theorem isQuoted {o : Overlay} (h : Placed (.extended o) input.toList t front q)
    {tokens : List Token} (hlast : q.rest = [] → tokens.getLast? = some t)
    (hkind : t.kind = .string) : IsQuoted input tokens t := by
  rw [h.kind_eq] at hkind
  obtain ⟨hbody, hcovered⟩ := h.whole.quoted_of_kind hkind
  refine ⟨?_, ?_⟩
  · rw [h.lexeme_eq, String.toList_ofList]
    exact hbody
  · rw [h.span_text, h.lexeme_eq]
    rcases hcovered with hclosed | ⟨hopen, hrest⟩
    · refine Or.inl ?_
      rw [hclosed, ← String.toList_inj]
      simp
    · refine Or.inr ⟨?_, hlast hrest, ?_⟩
      · rw [hopen, ← String.toList_inj]
        simp
      · rw [h.stop_eq, h.text_eq, hrest, List.append_nil]

end Placed

end Scan

/-- **A scan is lossless.**  Whatever the aliases and whatever the text, the tokens in front
of the end marker partition it with the gaps between them. -/
theorem scan_lossless (o : Overlay) (input : String) :
    ∃ tokens last, scan (.extended o) input = tokens ++ [last] ∧
      Lossless input tokens last := by
  obtain ⟨tokens, hscan, hplaced⟩ := scan_placed (.extended o) input
  have hend : (Position.after {} input.toList).offset = Text.byteLength input.toList :=
    Position.offset_start _
  refine ⟨tokens, _, hscan, ?_⟩
  refine
    { marker := ⟨rfl, hend, hend⟩
      kinds := ?_
      covering := ?_
      boundaries := ?_
      gaps := ?_
      starts := ?_
      words := ?_
      signs := ?_
      strings := ?_
      quoted := ?_ }
  · intro t ht
    obtain ⟨front, q, h, -⟩ := hplaced t ht
    rw [h.kind_eq]
    exact h.whole.kind_ne_eol
  · intro t ht
    obtain ⟨front, q, h, -⟩ := hplaced t ht
    exact h.start_lt_stop
  · intro t ht
    rcases List.mem_append.mp ht with ht | ht
    · obtain ⟨front, q, h, -⟩ := hplaced t ht
      rw [h.split_start, h.split_stop]
      exact ⟨rfl, rfl⟩
    · obtain rfl := List.mem_singleton.mp ht
      have hsplit := Text.splitAtByte?_byteLength input.toList
      rw [← hend] at hsplit
      exact ⟨Option.isSome_of_eq_some hsplit, Option.isSome_of_eq_some hsplit⟩
  · have hcuts := Scanner.tokens_eq_iff.mp hscan
    exact hcuts.gaps [] rfl {} rfl
  · intro t ht
    obtain ⟨front, q, h, -⟩ := hplaced t ht
    rw [h.first?_eq]
    exact h.whole.exists_head
  · intro t ht c hfirst hc
    obtain ⟨front, q, h, -⟩ := hplaced t ht
    exact h.isWord hfirst hc
  · intro t ht c hfirst hc
    obtain ⟨front, q, h, -⟩ := hplaced t ht
    exact h.spelled_of_sign hfirst hc
  · intro t ht
    obtain ⟨front, q, h, -⟩ := hplaced t ht
    rw [h.kind_eq, h.first?_eq]
    exact h.whole.kind_eq_string_iff
  · intro t ht hkind
    obtain ⟨front, q, h, hlast⟩ := hplaced t ht
    exact h.isQuoted hlast hkind

end Adventure
