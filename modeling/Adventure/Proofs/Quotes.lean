/-
The completer and the scanner agree on what is inside of quotes.

The completer counts the quotes before the cursor, and the scanner reads the whole line.  They agree
because nothing but a text in quotes has quotes in it: of a gap, a word or a sign every part has
none, and of a text in quotes every part has one but the empty part and the one that has the closing
quote too.  So the quotes before a place are even in number up to the piece that the place divides,
and that piece settles the matter.
-/
import Adventure.Proofs.Composition
import Adventure.Proofs.Lossless
import Adventure.Terminal.Completion
import Mathlib.Algebra.Ring.Parity

namespace Adventure

/-- Whether a place of a line is within the quotes of a token: it is behind the opening quote and
not behind the closing one, if there is one. -/
def Token.Encloses (line : String) (t : Token) (pos : Nat) : Prop :=
  t.kind = .string ∧ t.span.start < pos ∧
    (pos < t.span.stop ∨ t.span.text line = "\"" ++ t.lexeme)

/-- To a token it is all the same how far behind its end a place is. -/
theorem Token.encloses_stop_iff {line : String} {t : Token} {pos : Nat}
    (hspan : t.span.start < t.span.stop) (hpos : t.span.stop ≤ pos) :
    t.Encloses line t.span.stop ↔ t.Encloses line pos := by
  have hstart : t.span.start < pos := Nat.lt_of_lt_of_le hspan hpos
  simp only [Token.Encloses, hspan, hstart, Nat.lt_irrefl, Nat.not_lt.mpr hpos]

namespace Scan

variable {o : Overlay} {q : Piece}

/-! ### Quotes in a part of a piece -/

theorem Whole.quote_not_mem (h : Whole (.extended o) q) (hkind : q.kind ≠ .string) :
    '"' ∉ q.covered := by
  cases h with
  | talk rest => exact fun hmem => absurd (List.mem_singleton.mp hmem) (by decide)
  | help rest => exact fun hmem => absurd (List.mem_singleton.mp hmem) (by decide)
  | quoted rest hbody => exact absurd rfl hkind
  | unclosed hbody => exact absurd rfl hkind
  | word hne hword hrest => exact fun hmem => absurd (hword _ hmem) (by decide)

/-- A part from the front of a text in quotes has the opening quote and no other, unless it is
empty or has the closing quote too. -/
theorem odd_quotes_quoted {body part rest : List Char} (hbody : '"' ∉ body)
    (hsplit : '"' :: body ++ ['"'] = part ++ rest) :
    Odd (Text.quotes part) ↔ part ≠ [] ∧ rest ≠ [] := by
  cases part with
  | nil => simp [Text.quotes]
  | cons c part =>
      rcases List.eq_nil_or_concat rest with rfl | ⟨init, last, rfl⟩
      · rw [← List.append_nil (c :: part), ← hsplit, Text.quotes_quoted hbody]
        simp
      · rw [List.concat_eq_append, ← List.append_assoc] at hsplit
        obtain ⟨rfl, rfl⟩ := List.cons.inj (List.append_inj' hsplit rfl).1
        rw [Text.quotes_unclosed fun hmem => hbody (List.mem_append_left _ hmem)]
        simp

/-- A part from the front of a text whose quotes are not closed has the opening quote, unless it
is empty. -/
theorem odd_quotes_unclosed {body part rest : List Char} (hbody : '"' ∉ body)
    (hsplit : '"' :: body = part ++ rest) : Odd (Text.quotes part) ↔ part ≠ [] := by
  cases part with
  | nil => simp [Text.quotes]
  | cons c part =>
      obtain ⟨rfl, rfl⟩ := List.cons.inj hsplit
      rw [Text.quotes_unclosed fun hmem => hbody (List.mem_append_left _ hmem)]
      simp

theorem Whole.odd_quotes_iff (h : Whole (.extended o) q) {part rest : List Char}
    (hsplit : q.covered = part ++ rest) :
    Odd (Text.quotes part) ↔
      q.kind = .string ∧ part ≠ [] ∧ (rest ≠ [] ∨ q.covered = '"' :: q.lexeme) := by
  by_cases hkind : q.kind = .string
  · rw [and_iff_right hkind]
    obtain ⟨hbody, hclosed | ⟨hopen, -⟩⟩ := h.quoted_of_kind hkind
    · have hne : q.covered ≠ '"' :: q.lexeme := by
        rw [hclosed]
        simp
      rw [odd_quotes_quoted hbody (hclosed.symm.trans hsplit), or_iff_left hne]
    · rw [odd_quotes_unclosed hbody (hopen.symm.trans hsplit), and_iff_left (Or.inr hopen)]
  · have hpart : '"' ∉ part := by
      intro hmem
      refine h.quote_not_mem hkind ?_
      rw [hsplit]
      exact List.mem_append_left _ hmem
    rw [Text.quotes_eq_zero hpart]
    simp [hkind]

/-- **A piece has an odd number of quotes before a place in it or at its end if its token encloses
the place.** -/
theorem Whole.odd_quotes_iff_encloses (h : Whole (.extended o) q) {line : String}
    {front part rest : List Char} (hline : line.toList = front ++ (q.covered ++ q.rest))
    (hsplit : q.covered = part ++ rest) :
    Odd (Text.quotes part) ↔
      (q.token (Position.after {} front) (Position.after {} (front ++ q.covered))).Encloses line
        (Text.byteLength (front ++ part)) := by
  have hstart := Text.byteLength_lt_append_iff front part
  have hstop := Text.byteLength_lt_append_iff (front ++ part) rest
  rw [List.append_assoc, ← hsplit] at hstop
  have hopen : String.ofList q.covered = "\"" ++ String.ofList q.lexeme ↔
      q.covered = '"' :: q.lexeme := by
    rw [← String.toList_inj]
    simp
  rw [Token.Encloses, q.start_token, q.stop_token, q.text_token line front q.rest hline, hstart,
    hstop]
  show _ ↔ q.kind = .string ∧ part ≠ [] ∧
    (rest ≠ [] ∨ String.ofList q.covered = "\"" ++ String.ofList q.lexeme)
  rw [hopen]
  exact h.odd_quotes_iff hsplit

/-- A whole piece has an odd number of quotes if its token encloses the places behind it. -/
theorem Whole.odd_quotes_iff_encloses_behind (h : Whole (.extended o) q) {line : String}
    {front : List Char} (hline : line.toList = front ++ (q.covered ++ q.rest)) {pos : Nat}
    (hpos : Text.byteLength (front ++ q.covered) ≤ pos) :
    Odd (Text.quotes q.covered) ↔
      (q.token (Position.after {} front) (Position.after {} (front ++ q.covered))).Encloses line
        pos := by
  have hend := h.odd_quotes_iff_encloses hline (List.append_nil q.covered).symm
  have hspan := (Text.byteLength_lt_append_iff front q.covered).mpr h.covered_ne_nil
  rw [hend, ← q.stop_token (Position.after {} front)]
  refine Token.encloses_stop_iff ?_ ?_
  · rwa [q.start_token, q.stop_token]
  · rwa [q.stop_token]

/-! ### Quotes before a place of a line -/

theorem le_start_of_gap {front gap : List Char} {stop : Position} {ts : List Token}
    (hbehind : ∀ t ∈ ts, Text.byteLength (front ++ gap ++ q.covered) ≤ t.span.start) :
    ∀ t ∈ q.token (Position.after {} (front ++ gap)) stop :: ts,
      Text.byteLength (front ++ gap) ≤ t.span.start := by
  refine List.forall_mem_cons.mpr ⟨(q.start_token _ stop).ge, fun t ht => ?_⟩
  exact (Text.byteLength_le_append _ q.covered).trans (hbehind t ht)

/-- The tokens of a cut begin where it does or behind. -/
theorem Cuts.le_start {v : Vocabulary} {p : Position} {cs : List Char} {ts : List Token}
    (h : Cuts v p cs ts) : ∀ front, p = Position.after {} front →
      ∀ t ∈ ts, Text.byteLength front ≤ t.span.start := by
  induction h with
  | @finish p gap hgap =>
      rintro front rfl t ht
      obtain rfl := List.mem_singleton.mp ht
      show Text.byteLength front ≤ ((Position.after {} front).after gap).offset
      rw [Position.offset_after_after]
      exact Text.byteLength_le_append front gap
  | @token p gap q ts hgap hq htokens ih =>
      rintro front rfl t ht
      have hplace := Position.after_after_append {} front gap q.covered
      rw [← Position.after_append] at ht
      exact (Text.byteLength_le_append front gap).trans (le_start_of_gap (ih _ hplace) t ht)

/-- No token encloses a place that it begins at or behind. -/
theorem not_encloses {line : String} {ts : List Token} {pos : Nat}
    (h : ∀ t ∈ ts, pos ≤ t.span.start) : ¬ ∃ t ∈ ts, t.Encloses line pos := by
  rintro ⟨t, ht, -, hstart, -⟩
  have hle := h t ht
  omega

/-- **The quotes before a place of a cut are odd in number if a token encloses it.** -/
theorem Cuts.odd_quotes_iff {p : Position} {cs : List Char} {ts : List Token}
    (h : Cuts (.extended o) p cs ts) :
    ∀ front, p = Position.after {} front → ∀ line : String, line.toList = front ++ cs →
      ∀ before behind, cs = before ++ behind →
        (Odd (Text.quotes before) ↔
          ∃ t ∈ ts, t.Encloses line (Text.byteLength (front ++ before))) := by
  induction h with
  | @finish p gap hgap =>
      rintro front rfl line hline before behind rfl
      have hquotes : Text.quotes before = 0 :=
        quotes_gap fun c hc => hgap c (List.mem_append_left _ hc)
      rw [hquotes]
      simp [Token.Encloses, Token.endAt]
  | @token p gap q ts hgap hq htokens ih =>
      rintro front rfl line hline before behind hsplit
      have hplace := Position.after_after_append {} front gap q.covered
      have hline' : line.toList = front ++ gap ++ (q.covered ++ q.rest) := by
        rw [hline, List.append_assoc]
      have hbehind : ∀ t ∈ ts, Text.byteLength (front ++ gap ++ q.covered) ≤ t.span.start :=
        htokens.le_start _ hplace
      rw [hplace, ← Position.after_append]
      rcases List.append_eq_append_iff.mp hsplit with ⟨part, rfl, hpart⟩ | ⟨gapRest, rfl, -⟩
      · rw [Text.quotes_append, quotes_gap hgap, Nat.zero_add, ← List.append_assoc,
          List.exists_mem_cons_iff]
        rcases List.append_eq_append_iff.mp hpart with ⟨next, rfl, hnext⟩ | ⟨rest, hrest, -⟩
        · -- The piece is before the place: it has closed its quotes, or nothing is behind it.
          have hlater := ih _ hplace line (by rw [hline', ← List.append_assoc]) next behind hnext
          rw [← List.append_assoc,
            ← hq.odd_quotes_iff_encloses_behind hline' (Text.byteLength_le_append _ next), ← hlater,
            Text.quotes_append]
          rcases hq.quotes with heven | ⟨-, hnil⟩
          · rw [or_iff_right (Nat.not_odd_iff_even.mpr heven), Nat.odd_add', iff_true_right heven]
          · obtain ⟨rfl, -⟩ := List.append_eq_nil_iff.mp (hnext.symm.trans hnil)
            simp [Text.quotes]
        · -- The place is in the piece or at its end.
          rw [hq.odd_quotes_iff_encloses hline' hrest, or_iff_left]
          refine not_encloses fun t ht => le_trans ?_ (hbehind t ht)
          rw [hrest, ← List.append_assoc]
          exact Text.byteLength_le_append _ rest
      · have hquotes : Text.quotes before = 0 :=
          quotes_gap fun c hc => hgap c (List.mem_append_left _ hc)
        have hbefore : Text.byteLength (front ++ before) ≤
            Text.byteLength (front ++ (before ++ gapRest)) := by
          rw [← List.append_assoc]
          exact Text.byteLength_le_append _ gapRest
        rw [hquotes]
        exact iff_of_false (by decide)
          (not_encloses fun t ht => hbefore.trans (le_start_of_gap hbehind t ht))

end Scan

namespace Terminal

/-- **Within quotes for the completer is within quotes for the scanner.** -/
theorem within_quotes_iff (o : Overlay) (line : String) (pos : Nat) (before : List Char)
    (h : Text.slice? 0 pos line.toList = some before) :
    (inQuotes before = true ↔ ∃ t ∈ scan (.extended o) line, t.Encloses line pos) ∧
      (inQuotes before = true → (complete (.extended o) line pos).candidates = []) := by
  constructor
  · obtain ⟨front, behind, hline, hfront, rfl⟩ := Text.slice?_eq_some_iff.mp h
    obtain rfl := Text.byteLength_eq_zero_iff.mp hfront
    rw [inQuotes, beq_iff_eq, ← Nat.odd_iff]
    exact (scan_eq_iff.mp rfl).odd_quotes_iff [] rfl line rfl before behind hline
  · intro hquotes
    simp [complete, h, completeAfter, hquotes]

/-- Behind a text in quotes with characters of two bytes, and behind one that is left open. -/
theorem within_quotes_iff_tor :
    let o : Overlay := .ofPairs [("sag", .verb .talk)]
    let line := "sag \"grüß\" \"tor"
    Text.slice? 0 12 line.toList = some "sag \"grüß\"".toList ∧
      Text.slice? 0 17 line.toList = some line.toList ∧
      (¬ ∃ t ∈ scan (.extended o) line, t.Encloses line 12) ∧
      (∃ t ∈ scan (.extended o) line, t.Encloses line 17) ∧
      (complete (.extended o) line 17).candidates = [] := by
  intro o line
  have hbehind : Text.slice? 0 12 line.toList = some "sag \"grüß\"".toList := by decide
  have hend : Text.slice? 0 17 line.toList = some line.toList := by decide
  obtain ⟨hclosed, -⟩ := within_quotes_iff o line 12 _ hbehind
  obtain ⟨hopen, hnone⟩ := within_quotes_iff o line 17 _ hend
  have hodd : inQuotes line.toList = true := by decide
  exact ⟨hbehind, hend, mt hclosed.mpr (by decide), hopen.mp hodd, hnone hodd⟩

end Terminal

end Adventure
