/-
What a run over a stream answers.

A run has one answer for each line that is not blank, in order, and what it writes is these
answers with a line feed behind each.  That a reader of the output finds the answers again
is a matter of the answers: in JSON none of them has a line feed in it, and each reads back
as the command it was written for.

A column that does not fit in a machine word would not read back.  No line that fits in
memory has one, since a column lies in its line.
-/
import Adventure.Session.Batch
import Adventure.Proofs.Command
import Adventure.Proofs.Line
import Adventure.Proofs.Lines

namespace Adventure

/-- The column of an error lies in its line. -/
theorem Session.column_lt {s : Session} {line : String} {e : ParseError}
    (h : (s.parse line).error = some e) : e.column < line.length := by
  obtain ⟨k, verb, args, marker, complaint, t, hline, -, hbreaks, rfl⟩ :=
    exists_breaks (error_interpret_iff.mp h)
  obtain ⟨front, q, hplaced⟩ := hline.placed t hbreaks.mem
  rw [← String.length_toList]
  exact hplaced.column_lt

namespace Session

variable {s : Session} {sink : Sink}

/-- The lines of a text that are answered. -/
def asked (text : String) : List String :=
  (Text.lines text).filter fun line => !Text.isBlankText line

/-- What is written for a text: the answer to each line that is not blank, and a line feed behind
it. -/
def transcript (s : Session) (text : String) : String :=
  String.join ((asked text).map fun line => s.render line ++ "\n")

/-- A run writes the answers to the lines that are text, and goes on behind them. -/
theorem answerLines_encode (h : sink.refusesWrites = none) (lines : List String)
    (rest : List (List UInt8)) :
    s.answerLines sink (lines.map Text.encode ++ rest)
      = .wrote (String.join ((lines.filter fun line => !Text.isBlankText line).map fun line =>
          s.render line ++ "\n")) (s.answerLines sink rest) := by
  induction lines with
  | nil => simp [BatchRun.wrote]
  | cons line lines ih =>
      rw [List.map_cons, List.cons_append, answerLines.eq_2, Text.decode?_encode]
      by_cases hblank : Text.isBlankText line = true
      · simp [hblank, ih]
      · simp [hblank, ih, h, BatchRun.wrote, String.append_assoc]

/-- **A run over a text** writes its transcript and ends as a run over nothing does. -/
theorem answer_encode (h : sink.refusesWrites = none) (text : String) :
    s.answer sink (Text.encode text) = .wrote (s.transcript text) (s.answerLines sink []) := by
  have hlines := answerLines_encode (s := s) h (Text.lines text) []
  rw [List.append_nil] at hlines
  rw [answer, Text.byteLines_encode, hlines]
  rfl

theorem render_json (hjson : s.settings.format = .json) (hplain : s.settings.showTokens = false)
    (line : String) : s.render line = (s.parse line).render := by
  simp [render, renderCommand, tokenRow, hjson, hplain]

/-- What was written has one line for each line that was asked, ended by a line feed, and it
reads back as the command of that line. -/
structure Recoverable (s : Session) (text output : String) : Prop where
  /-- Every line of the output ends in a line feed. -/
  ended : output = String.join ((Text.lines output).map fun row => row ++ "\n")
  /-- The lines are the commands, in order. -/
  commands : (Text.lines output).map Command.read?
    = (asked text).map fun line => some (s.parse line)

theorem output_answer (hwrites : sink.refusesWrites = none) (text : String) :
    (s.answer sink (Text.encode text)).output = s.transcript text := by
  have hend : (s.answerLines sink []).output = "" := by
    rw [answerLines]
    cases sink.refusesFlushes with
    | none => rfl
    | some message => rfl
  simp [answer_encode hwrites, BatchRun.wrote, hend]

theorem output_answer_json (hjson : s.settings.format = .json)
    (hplain : s.settings.showTokens = false) (hwrites : sink.refusesWrites = none)
    (text : String) : (s.answer sink (Text.encode text)).output
      = String.join (((asked text).map fun line => (s.parse line).render).map fun row =>
          row ++ "\n") := by
  rw [output_answer hwrites, transcript]
  simp [render_json hjson hplain, Function.comp_def]

theorem result_answer (hwrites : sink.refusesWrites = none)
    (hflushes : sink.refusesFlushes = none) (text : String) :
    (s.answer sink (Text.encode text)).result = .ok () := by
  simp [answer_encode hwrites, BatchRun.wrote, answerLines, hflushes]

/-- The output of a run in JSON is cut into its answers again. -/
theorem recoverable_answer (hjson : s.settings.format = .json)
    (hplain : s.settings.showTokens = false) (hwrites : sink.refusesWrites = none) {text : String}
    (hfits : ∀ line ∈ Text.lines text, line.length ≤ UInt64.size) :
    s.Recoverable text (s.answer sink (Text.encode text)).output := by
  have hrows : ∀ row ∈ (asked text).map fun line => (s.parse line).render,
      '\n' ∉ row.toList ∧ '\r' ∉ row.toList := by
    intro row hrow
    obtain ⟨line, -, rfl⟩ := List.mem_map.mp hrow
    have hprintable := (s.parse line).printable_render
    constructor
    · intro hmem
      exact absurd (hprintable _ hmem) (by decide)
    · intro hmem
      exact absurd (hprintable _ hmem) (by decide)
  have hrun := output_answer_json hjson hplain hwrites text
  have hlines : Text.lines (s.answer sink (Text.encode text)).output
      = (asked text).map fun line => (s.parse line).render := by
    rw [hrun, Text.lines_join hrows]
  refine ⟨by rw [hlines, hrun], ?_⟩
  rw [hlines, List.map_map]
  refine List.map_congr_left fun line hline => ?_
  refine Command.read?_render fun e he => ?_
  exact Nat.lt_of_lt_of_le (column_lt he) (hfits line (List.mem_filter.mp hline).1)

end Session

/-- **Answers in JSON are one to a line and read back.**  Every command with a column that is
a machine word comes back from its text, in which there are no control characters.  So a run
over a stream of text, the lines of which fit in memory, writes one line for each line that is
not blank, and the command of that line is read from it. -/
theorem json_answers_read_back :
    (∀ c : Command, (∀ e, c.error = some e → e.column < UInt64.size) →
      Command.read? c.render = some c ∧ ∀ x ∈ c.render.toList, 0x20 ≤ x.toNat) ∧
    ∀ (s : Session) (sink : Sink) (text : String), s.settings.format = .json →
      s.settings.showTokens = false → sink.refusesWrites = none →
      (∀ line ∈ Text.lines text, line.length ≤ UInt64.size) →
        s.Recoverable text (s.answer sink (Text.encode text)).output ∧
          (sink.refusesFlushes = none → (s.answer sink (Text.encode text)).result = .ok ()) := by
  constructor
  · intro c hcolumn
    exact ⟨Command.read?_render hcolumn, c.printable_render⟩
  · intro s sink text hjson hplain hwrites hfits
    refine ⟨Session.recoverable_answer hjson hplain hwrites hfits, ?_⟩
    intro hflushes
    exact Session.result_answer hwrites hflushes text

/-- A line that breaks a rule, a blank one, and one that has no line feed behind it. -/
theorem json_answers_read_back_look_in :
    let s : Session := { settings := { format := .json } }
    let text := "look in\r\n \nsay \"hi\""
    let c : Command := { error := some ⟨"Expected target before 'in'", 5, "look in\t"⟩ }
    Command.read? c.render = some c ∧ Session.asked text = ["look in", "say \"hi\""] ∧
      s.Recoverable text (s.answer {} (Text.encode text)).output ∧
      (s.answer {} (Text.encode text)).result = .ok () := by
  intro s text c
  have hcolumn : ∀ e, c.error = some e → e.column < UInt64.size := by
    intro e he
    obtain rfl := Option.some.inj he
    decide
  have hfits : ∀ line ∈ Text.lines text, line.length ≤ UInt64.size := by
    decide +kernel
  have hrun := json_answers_read_back.2 s {} text rfl rfl rfl hfits
  exact ⟨(json_answers_read_back.1 c hcolumn).1, by decide +kernel, hrun.1, hrun.2 rfl⟩

end Adventure
