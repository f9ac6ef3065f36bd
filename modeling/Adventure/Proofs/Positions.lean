/-
Lines and columns of tokens.

A scanner carries three counters along, and every loop of it moves all three.  They stay in step
because each of them is a count of the characters read so far: the bytes, the line feeds, and the
characters behind the last line feed.  A token takes its place from the scanner once the gap in
front of it has been passed over, so what is counted is exactly what stands before the token, text
in quotes and its line feeds included.  The end marker is placed like a token in front of nothing.

Lines are numbered in words of 32 bits, so what a span holds is a count of line feeds cut to
such a word, and the row of a place is better read off the text.  A text with too few line
feeds to fill a word never comes to the end of the numbers, and there both agree.
-/
import Adventure.Proofs.Line
import Mathlib.Data.List.DropRight

namespace Adventure

namespace Text

/-! ### Rows and columns of a text -/

/-- The number of characters behind the last line feed. -/
def lastLineLength (cs : List Char) : Nat :=
  (cs.rtakeWhile (· != '\n')).length

/-- The row that a byte offset of a text is in, counted from zero: the line feeds in front of
it. -/
def row (text : List Char) (offset : Nat) : Nat :=
  match splitAtByte? offset text with
  | some (front, _) => front.count '\n'
  | none => 0

theorem count_feed_of_ne {c : Char} (hc : c ≠ '\n') : [c].count '\n' = 0 :=
  List.count_eq_zero.mpr (by simpa using Ne.symm hc)

theorem lastLineLength_feed (cs : List Char) : lastLineLength (cs ++ ['\n']) = 0 := by
  rw [lastLineLength, List.rtakeWhile_concat_neg _ _ _ (by decide), List.length_nil]

theorem lastLineLength_concat {c : Char} (hc : c ≠ '\n') (cs : List Char) :
    lastLineLength (cs ++ [c]) = lastLineLength cs + 1 := by
  rw [lastLineLength, List.rtakeWhile_concat_pos _ _ _ (by simpa using hc), List.length_append]
  rfl

/-- **What stands in front of a text moves the columns of its first row.** -/
theorem lastLineLength_append (front cs : List Char) :
    lastLineLength (front ++ cs)
      = if cs.count '\n' = 0 then lastLineLength cs + lastLineLength front
        else lastLineLength cs := by
  induction cs using List.reverseRecOn with
  | nil => simp [lastLineLength]
  | append_singleton cs c ih =>
      rw [← List.append_assoc, List.count_append]
      by_cases hc : c = '\n'
      · subst hc
        rw [lastLineLength_feed, lastLineLength_feed, if_neg (by simp)]
      · rw [lastLineLength_concat hc, lastLineLength_concat hc, ih, count_feed_of_ne hc]
        show _ = if cs.count '\n' = 0 then _ else _
        split
        · exact Nat.add_right_comm _ _ _
        · rfl

theorem row_append (front back : List Char) :
    row (front ++ back) (byteLength front) = front.count '\n' := by
  rw [row, splitAtByte?_eq_some_iff.mpr ⟨rfl, rfl⟩]

end Text

namespace Position

/-! ### The counters after a text -/

/-- **All three counters are counts of the text behind them.** -/
theorem after_start (cs : List Char) :
    after {} cs = ⟨Text.byteLength cs, 1 + (cs.count '\n' : UInt32), Text.lastLineLength cs⟩ := by
  induction cs using List.reverseRecOn with
  | nil => rfl
  | append_singleton cs c ih =>
      rw [after_append, ih, after_cons, after_nil, next, Text.byteLength_append, List.count_append]
      by_cases hc : c = '\n'
      · subst hc
        rw [if_pos rfl, Text.lastLineLength_feed, List.count_singleton_self, UInt32.ofNat_add,
          UInt32.add_assoc]
        rfl
      · rw [if_neg hc, Text.lastLineLength_concat hc, Text.count_feed_of_ne hc]
        rfl

theorem line_start (cs : List Char) : (after {} cs).line = 1 + (cs.count '\n' : UInt32) := by
  rw [after_start]

theorem column_start (cs : List Char) : (after {} cs).column = Text.lastLineLength cs := by
  rw [after_start]

/-- A word that is not full holds the number. -/
theorem toNat_line_start {cs : List Char} (h : 1 + cs.count '\n' < UInt32.size) :
    (after {} cs).line.toNat = 1 + cs.count '\n' := by
  rw [line_start, UInt32.toNat_add, UInt32.toNat_ofNat_of_lt' (by omega)]
  exact Nat.mod_eq_of_lt h

end Position

/-! ### What stands in front of a token -/

namespace Scan.Placed

variable {v : Vocabulary} {input : String} {t : Token} {front : List Char} {q : Piece}

theorem line_eq (h : Placed v input.toList t front q) :
    t.span.line = 1 + (front.count '\n' : UInt32) := by
  rw [h.token_eq]
  exact Position.line_start front

theorem column_eq (h : Placed v input.toList t front q) :
    t.column = Text.lastLineLength front := by
  rw [h.token_eq]
  exact Position.column_start front

theorem row_eq (h : Placed v input.toList t front q) :
    Text.row input.toList t.span.start = front.count '\n' := by
  rw [h.start_eq, h.text_eq, Text.row_append]

end Scan.Placed

/-- A token of a text begins where some front of the text ends; the end marker begins where all
of it ends. -/
theorem exists_front {v : Vocabulary} {input : String} {t : Token} (h : t ∈ scan v input) :
    ∃ front back stop, input.toList = front ++ back ∧
      t.span = .between (Position.after {} front) stop := by
  obtain ⟨body, hscan, hplaced⟩ := scan_placed v input
  rw [hscan] at h
  rcases List.mem_append.mp h with hbody | hmarker
  · obtain ⟨front, q, hq, -⟩ := hplaced t hbody
    refine ⟨front, q.covered ++ q.rest, Position.after {} (front ++ q.covered), hq.text_eq, ?_⟩
    rw [hq.token_eq]
    rfl
  · rw [List.mem_singleton.mp hmarker]
    exact ⟨input.toList, [], _, (List.append_nil _).symm, rfl⟩

/-- **Tokens stand where their spans say.**  Whatever the vocabulary, the line of a token is the
number of line feeds in front of its first byte, counted from one, and its column the number of
characters behind the last of them.  The number of a line never outgrows its word. -/
theorem token_positions (v : Vocabulary) (input : String)
    (hfeeds : input.toList.count '\n' < UInt32.size - 1) (t : Token) (ht : t ∈ scan v input) :
    ∃ front back, Text.splitAtByte? t.span.start input.toList = some (front, back) ∧
      (t.span.line : Nat) = 1 + front.count '\n' ∧ 1 + front.count '\n' < UInt32.size ∧
      t.span.column = Text.lastLineLength front := by
  obtain ⟨front, back, stop, hinput, hspan⟩ := exists_front ht
  have hcount : front.count '\n' ≤ input.toList.count '\n' := by
    rw [hinput, List.count_append]
    exact Nat.le_add_right _ _
  have hfits : 1 + front.count '\n' < UInt32.size := by omega
  refine ⟨front, back, Text.splitAtByte?_eq_some_iff.mpr ⟨hinput, ?_⟩, ?_, hfits, ?_⟩
  · rw [hspan]
    exact (Position.offset_start front).symm
  · rw [hspan]
    exact Position.toNat_line_start hfits
  · rw [hspan]
    exact Position.column_start front

/-- The last word stands behind a line feed in quotes and one outside, and behind a letter of two
bytes and a sign of four. -/
theorem token_positions_third_line :
    let v := Vocabulary.extended (.ofPairs [("nord", .direction .north)])
    let input := "say \"a\nb\"\né 😀 NORD"
    let t : Token := ⟨.direction .north, "NORD", ⟨18, 22, 3, 4⟩⟩
    input.toList.count '\n' < UInt32.size - 1 ∧ t ∈ scan v input ∧
      ∃ front back, Text.splitAtByte? t.span.start input.toList = some (front, back) ∧
        ((3 : UInt32) : Nat) = 1 + front.count '\n' ∧ 1 + front.count '\n' < UInt32.size ∧
        4 = Text.lastLineLength front := by
  intro v input t
  have hfeeds : input.toList.count '\n' < UInt32.size - 1 := by decide
  have ht : t ∈ scan v input := by decide +kernel
  exact ⟨hfeeds, ht, token_positions v input hfeeds t ht⟩

end Adventure
