/-
A run over a stream, line by line.

A stream is cut into lines before anybody knows whether they are text, so a run over whole lines
and what is behind them is two runs, one after the other, and only the second one says how it
ends.  A stream that is text is whole lines and a rest of them.  A stream that is no text has
whole lines of text up to the first line that is none, and there the run ends, with the answers to
the lines before it written and nothing else.

The end of a line may be a carriage return and a line feed, and the carriage return is cut off
before the line is decoded.  That does not hide what is wrong with a line: a line is text with the
carriage return exactly if it is without.
-/
import Adventure.Proofs.Batch

namespace Adventure

namespace Text

/-- A stream with a line that is no text, and the text of the lines before the first such one. -/
inductive BreaksBehind : String → List UInt8 → Prop
  | intro {text : String} {line rest : List UInt8} (hwhole : EndsLine (encode text))
      (hfeed : 10 ∉ line) (hline : decode? line = none) (hrest : ∀ byte ∈ rest.head?, byte = 10) :
      BreaksBehind text (encode text ++ (line ++ rest))

theorem endsLine_append {a b : List UInt8} (ha : EndsLine a) (hb : EndsLine b) :
    EndsLine (a ++ b) := by
  intro byte hbyte
  cases b with
  | nil => exact ha byte (by simpa using hbyte)
  | cons c cs =>
      rw [List.getLast?_append_of_ne_nil _ (by simp)] at hbyte
      exact hb byte hbyte

theorem endsLine_feed (bytes : List UInt8) : EndsLine (bytes ++ [10]) := by
  intro byte hbyte
  simpa using hbyte.symm

/-- A stream is a line and what begins with its line feed. -/
theorem exists_line_rest (bytes : List UInt8) :
    ∃ line rest, bytes = line ++ rest ∧ 10 ∉ line ∧ ∀ byte ∈ rest.head?, byte = 10 := by
  refine ⟨bytes.takeWhile (· != 10), bytes.dropWhile (· != 10),
    List.takeWhile_append_dropWhile.symm, ?_, ?_⟩
  · intro hmem
    simpa using List.mem_takeWhile_imp hmem
  · intro byte hbyte
    have hnot := List.head?_dropWhile_not (· != 10) bytes
    rw [Option.mem_def.mp hbyte] at hnot
    simpa using hnot

/-- Whole lines of text move the break of a stream and nothing else. -/
theorem BreaksBehind.behind {front text : String} {bytes : List UInt8}
    (hfront : EndsLine (encode front)) (h : BreaksBehind text bytes) :
    BreaksBehind (front ++ text) (encode front ++ bytes) := by
  cases h with
  | @intro line rest hwhole hfeed hline hrest =>
      rw [← List.append_assoc, ← encode_append]
      refine .intro ?_ hfeed hline hrest
      rw [encode_append]
      exact endsLine_append hfront hwhole

/-- **A stream that is no text breaks at some line.** -/
theorem exists_breaksBehind {bytes : List UInt8} (h : decode? bytes = none) :
    ∃ text, BreaksBehind text bytes := by
  induction hlength : bytes.length using Nat.strong_induction_on generalizing bytes with
  | _ n ih =>
      obtain ⟨line, rest, rfl, hfeed, hrest⟩ := exists_line_rest bytes
      cases hline : decode? line with
      | none =>
          have hbreaks : BreaksBehind "" (encode "" ++ (line ++ rest)) :=
            .intro (by simp [EndsLine, encode]) hfeed hline hrest
          exact ⟨"", hbreaks⟩
      | some first =>
          obtain rfl := decode?_eq_some_iff.mp hline
          cases rest with
          | nil => simp [decode?_encode] at h
          | cons byte rest =>
              -- The first line is text, so the break is behind it.
              obtain rfl : byte = 10 := hrest byte rfl
              have hbytes : encode first ++ 10 :: rest = encode (first ++ "\n") ++ rest := by
                rw [encode_append, List.append_assoc]
                rfl
              rw [hbytes] at h ⊢
              have hnone : decode? rest = none := by
                rw [Option.eq_none_iff_forall_ne_some]
                intro text htext
                rw [decode?_eq_some_iff.mp htext, ← encode_append, decode?_encode] at h
                exact Option.some_ne_none _ h
              obtain ⟨text, htext⟩ := ih rest.length (by simp [← hlength]; omega) hnone rfl
              refine ⟨first ++ "\n" ++ text, htext.behind ?_⟩
              rw [encode_append]
              exact endsLine_feed (encode first)

/-- A carriage return does not make the difference between text and bytes that are none. -/
theorem decode?_endedLine {line : List UInt8} (h : decode? line = none) :
    decode? (endedLine line.reverse) = none := by
  rw [Option.eq_none_iff_forall_ne_some] at h ⊢
  intro text htext
  rcases List.eq_nil_or_concat line with rfl | ⟨init, last, rfl⟩
  · exact h text htext
  · rw [List.concat_eq_append, List.reverse_concat] at htext
    by_cases hlast : last = 13
    · rw [hlast, endedLine, List.reverse_reverse] at htext
      refine h (text ++ "\r") (decode?_eq_some_iff.mpr ?_)
      rw [hlast, encode_append, ← decode?_eq_some_iff.mp htext, List.concat_eq_append]
      rfl
    · rw [endedLine] at htext
      · refine h text ?_
        simpa using htext
      · simpa using hlast

theorem byteLines_breaks {line rest : List UInt8} (hfeed : 10 ∉ line) (hline : decode? line = none)
    (hrest : ∀ byte ∈ rest.head?, byte = 10) :
    ∃ raw lines, byteLines (line ++ rest) = raw :: lines ∧ decode? raw = none := by
  rw [byteLines, linesFrom_append hfeed, List.append_nil]
  cases rest with
  | nil =>
      have hne : line ≠ [] := by
        rintro rfl
        exact absurd hline (by decide)
      refine ⟨line, [], ?_, hline⟩
      simp [linesFrom, hne]
  | cons byte rest =>
      obtain rfl : byte = 10 := hrest byte rfl
      exact ⟨_, linesFrom [] rest, by rw [linesFrom, if_pos rfl], decode?_endedLine hline⟩

end Text

namespace Session

variable {s : Session} {sink : Sink}

/-- **A run over whole lines of text and more is a run over the lines and then one over the
rest.** -/
theorem answer_append (hwrites : sink.refusesWrites = none) {text : String}
    (hwhole : Text.EndsLine (Text.encode text)) (rest : List UInt8) :
    s.answer sink (Text.encode text ++ rest) = .wrote (s.transcript text) (s.answer sink rest) := by
  rw [answer, Text.byteLines_append hwhole, Text.byteLines_encode, answerLines_encode hwrites]
  rfl

theorem answer_breaksBehind (hwrites : sink.refusesWrites = none) {text : String}
    {bytes : List UInt8} (h : Text.BreaksBehind text bytes) :
    s.answer sink bytes = .wrote (s.transcript text) (.failed Failure.notText) := by
  cases h with
  | @intro line rest hwhole hfeed hline hrest =>
      obtain ⟨raw, lines, hlines, hraw⟩ := Text.byteLines_breaks hfeed hline hrest
      have hfailed : s.answer sink (line ++ rest) = .failed Failure.notText := by
        rw [answer, hlines, answerLines, hraw]
      rw [answer_append hwrites hwhole, hfailed]

end Session

/-- **A run takes a stream line by line.**  Where writes are taken, whole lines of text and what is
behind them are two runs, and the second one says how it ends.  A text is answered as a whole; a
stream that is no text is answered up to the first line that is none, where it fails. -/
theorem batch_line_by_line (s : Session) (sink : Sink) (hwrites : sink.refusesWrites = none) :
    (∀ a b : List UInt8, (Text.decode? a).isSome = true → Text.EndsLine a →
      s.answer sink (a ++ b) = .wrote (s.answer sink a).output (s.answer sink b)) ∧
    (∀ text, (s.answer sink (Text.encode text)).output = s.transcript text ∧
      (sink.refusesFlushes = none → (s.answer sink (Text.encode text)).result = .ok ())) ∧
    (∀ text bytes, Text.BreaksBehind text bytes →
      s.answer sink bytes =
        { output := s.transcript text, flushes := 0,
          result := .error ⟨.io "<stream>" Failure.notText, none⟩ }) ∧
    ∀ bytes, (∃ text, bytes = Text.encode text) ∨ ∃ text, Text.BreaksBehind text bytes := by
  refine ⟨?_, ?_, ?_, ?_⟩
  · intro a b htext hwhole
    obtain ⟨text, htext⟩ := Option.isSome_iff_exists.mp htext
    obtain rfl := Text.decode?_eq_some_iff.mp htext
    rw [Session.answer_append hwrites hwhole, Session.output_answer hwrites]
  · intro text
    exact ⟨Session.output_answer hwrites text,
      fun hflushes => Session.result_answer hwrites hflushes text⟩
  · intro text bytes hbreaks
    rw [Session.answer_breaksBehind hwrites hbreaks, BatchRun.wrote, BatchRun.failed,
      String.append_empty]
    rfl
  · intro bytes
    cases hbytes : Text.decode? bytes with
    | some text => exact Or.inl ⟨text, Text.decode?_eq_some_iff.mp hbytes⟩
    | none => exact Or.inr (Text.exists_breaksBehind hbytes)

/-- A blank line is passed over, and the carriage return of the broken line is cut off before it is
looked at; one that no line feed follows stays in its line. -/
theorem batch_line_by_line_broken :
    let s : Session := .ofOverlay { showTokens := true } (.ofPairs [("nord", .direction .north)])
    let whole := "nord\r\n \n"
    let broken : List UInt8 := [0x6C, 0xC3, 13] ++ 10 :: Text.encode "look"
    Text.EndsLine (Text.encode whole) ∧ Text.BreaksBehind whole (Text.encode whole ++ broken) ∧
      s.answer {} (Text.encode whole ++ broken) =
        { output := "N(nord)@0 EOL@4\ngo target=\"nord\"\n", flushes := 0,
          result := .error ⟨.io "<stream>" Failure.notText, none⟩ } ∧
      s.answer {} (Text.encode whole ++ Text.encode "take\r") =
        .wrote (s.answer {} (Text.encode whole)).output (s.answer {} (Text.encode "take\r")) ∧
      (s.answer {} (Text.encode "take\r")).output = "TAKE(take)@0 EOL@5\ntake\n" ∧
      (s.answer {} (Text.encode "take\r")).result = .ok () := by
  intro s whole broken
  have hwhole : Text.EndsLine (Text.encode whole) := by decide +kernel
  have hbroken : Text.BreaksBehind whole (Text.encode whole ++ broken) :=
    .intro hwhole (by decide) (by decide +kernel) (by simp)
  obtain ⟨happend, htext, hbreaks, -⟩ := batch_line_by_line s {} rfl
  refine ⟨hwhole, hbroken, ?_, happend _ _ ?_ hwhole, ?_, (htext "take\r").2 rfl⟩
  · rw [hbreaks whole _ hbroken]
    congr 1
    decide +kernel
  · rw [Text.decode?_encode]
    rfl
  · rw [(htext "take\r").1]
    decide +kernel

end Adventure
