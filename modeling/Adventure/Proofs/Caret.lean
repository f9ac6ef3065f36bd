/-
Where the caret stands.

The answer to a line with an error repeats the line, puts a caret below it and says what is
wrong.  How far to the right the caret goes is the column of a token, and columns count from
the last line feed before the token.  So in the row that the token stands in, its first
character is where the caret points, however many rows there are; but the caret itself goes
below the last of them.  Both meet for a token in the last row, and every token of a line
without line feeds is one.

Which token that is follows from the words of the error, as the faults of a line do.
-/
import Adventure.Proofs.Diagnostics
import Adventure.Proofs.Lossless
import Adventure.Proofs.Positions
import Adventure.Session

namespace Adventure

/-! ### Rows of a text -/

namespace Text

/-- The rows that a text is shown in: each line feed begins another one. -/
def rows (text : String) : List (List Char) :=
  text.toList.splitOn '\n'

/-- The character in some row and column of a text, both counted from zero. -/
def charAt? (text : String) (row column : Nat) : Option Char :=
  (rows text)[row]?.bind fun cs => cs[column]?

theorem length_splitOn (cs : List Char) : (cs.splitOn '\n').length = cs.count '\n' + 1 := by
  induction cs with
  | nil => rfl
  | cons c cs ih =>
      rw [List.splitOn_cons_eq_if_modifyHead, List.count_cons]
      by_cases hc : c = '\n'
      · simp [hc, ih]
      · simp [hc, ih]

theorem getElem?_splitOn_zero (cs : List Char) :
    (cs.splitOn '\n')[0]? = some (cs.takeWhile (· != '\n')) := by
  induction cs with
  | nil => rfl
  | cons c cs ih =>
      rw [List.splitOn_cons_eq_if_modifyHead]
      by_cases hc : c = '\n'
      · simp [hc]
      · rw [if_neg (by simpa using hc), List.takeWhile_cons_of_pos (by simpa using hc),
          ← List.head?_eq_getElem?, List.head?_modifyHead, List.head?_eq_getElem?, ih]
        rfl

/-- **The row that two parts of a text meet in** is the last one of the first part and the
first one of the second. -/
theorem getElem?_splitOn_append (front : List Char) :
    ∀ back, ((front ++ back).splitOn '\n')[front.count '\n']?
      = some (front.rtakeWhile (· != '\n') ++ back.takeWhile (· != '\n')) := by
  induction front using List.reverseRecOn with
  | nil => exact getElem?_splitOn_zero
  | append_singleton front c ih =>
      intro back
      rw [List.append_assoc, List.singleton_append, List.count_append]
      by_cases hc : c = '\n'
      · subst hc
        rw [List.splitOn_append_cons_self, List.rtakeWhile_concat_neg _ _ _ (by decide),
          List.count_singleton_self, ← length_splitOn, List.getElem?_append_right (Nat.le_refl _),
          Nat.sub_self, List.nil_append]
        exact getElem?_splitOn_zero back
      · rw [count_feed_of_ne hc, Nat.add_zero, ih, List.takeWhile_cons_of_pos (by simpa using hc),
          List.rtakeWhile_concat_pos _ _ _ (by simpa using hc), List.append_assoc,
          List.singleton_append]

theorem rows_append (a b : String) : rows (a ++ "\n" ++ b) = rows a ++ rows b := by
  rw [rows, String.toList_append, String.toList_append]
  show (a.toList ++ ['\n'] ++ b.toList).splitOn '\n' = _
  rw [List.append_assoc, List.singleton_append, List.splitOn_append_cons_self, rows, rows]

theorem rows_of_not_mem {text : String} (h : '\n' ∉ text.toList) : rows text = [text.toList] :=
  List.splitOn_eq_singleton h

/-- What is put below a text leaves its rows alone. -/
theorem charAt?_append (a b : String) {row : Nat} (hrow : row < (rows a).length) (column : Nat) :
    charAt? (a ++ "\n" ++ b) row column = charAt? a row column := by
  rw [charAt?, rows_append, List.getElem?_append_left hrow, charAt?]

/-- The rows of a text below another one come behind the rows of that one. -/
theorem charAt?_below (a b : String) (row column : Nat) :
    charAt? (a ++ "\n" ++ b) ((rows a).length + row) column = charAt? b row column := by
  rw [charAt?, rows_append, List.getElem?_append_right (Nat.le_add_right _ _),
    Nat.add_sub_cancel_left, charAt?]

end Text

/-! ### Where tokens are seen -/

namespace Scan.Placed

variable {v : Vocabulary} {input : String} {t : Token} {front : List Char} {q : Piece}

theorem row_lt (h : Placed v input.toList t front q) :
    Text.row input.toList t.span.start < (Text.rows input).length := by
  rw [h.row_eq, Text.rows, Text.length_splitOn, h.text_eq, List.count_append]
  omega

/-- The line of a token is its row, counted from one in a word. -/
theorem line_eq_row (h : Placed v input.toList t front q) :
    t.span.line = 1 + (Text.row input.toList t.span.start : UInt32) := by
  rw [h.row_eq, h.line_eq]

/-- **A token is seen in its row, where its column says.** -/
theorem charAt?_eq (h : Placed v input.toList t front q) :
    Text.charAt? input (Text.row input.toList t.span.start) t.column = t.first? input := by
  obtain ⟨c, hhead, hstarts⟩ := h.whole.exists_head
  obtain ⟨rest, hcovered⟩ := List.head?_eq_some_iff.mp hhead
  have hc : c ≠ '\n' := by
    rintro rfl
    exact absurd hstarts (by decide)
  rw [h.first?_eq, hhead, Text.charAt?, Text.rows, h.row_eq, h.text_eq,
    Text.getElem?_splitOn_append, Option.bind_some, h.column_eq, Text.lastLineLength, hcovered,
    List.cons_append, List.takeWhile_cons_of_pos (by simpa using hc),
    List.getElem?_append_right (Nat.le_refl _), Nat.sub_self, List.getElem?_cons_zero]

end Scan.Placed

/-! ### Which token an error is about -/

namespace Fault

/-- The token that a fault of a verb and the words after it is about. -/
def blamed? (k : Verb) (verb : Token) (args : List Token) : Fault → Option Token
  | .verb => some verb
  | .extra => Ruling.refused? k args
  | .destination => args.getLast?
  | .preposition => args.find? (·.kind.isSplitting)

theorem Explains.blamed {e : ParseError} {k : Verb} {verb : Token} {args : List Token}
    {fault : Fault} (h : fault.Explains e k verb args) :
    ∃ t, fault.blamed? k verb args = some t ∧ t.column = e.column := by
  cases fault with
  | verb => exact ⟨verb, rfl, h.2.symm⟩
  | extra =>
      obtain ⟨-, t, ht, hcolumn⟩ := h
      exact ⟨t, ht, hcolumn.symm⟩
  | destination =>
      obtain ⟨-, t, ht, -, hcolumn⟩ := h
      exact ⟨t, ht, hcolumn.symm⟩
  | preposition =>
      obtain ⟨p, hp, hcolumn, -⟩ := h
      exact ⟨p, hp, hcolumn.symm⟩

theorem mem_of_blamed? {k : Verb} {verb t : Token} {args : List Token} {fault : Fault}
    (h : fault.blamed? k verb args = some t) : fault = .verb ∧ t = verb ∨ t ∈ args := by
  cases fault with
  | verb => exact Or.inl ⟨rfl, (Option.some.inj h).symm⟩
  | extra => exact Or.inr (Ruling.mem_of_refused? h)
  | destination => exact Or.inr (List.mem_of_getLast? h)
  | preposition => exact Or.inr (List.mem_of_find?_eq_some h)

end Fault

/-- The token that an error is about, among all tokens of its line. -/
def ParseError.blamed? (e : ParseError) : List Token → Option Token
  | [] => none
  | verb :: rest =>
    match verb.kind with
    | .verb k => (Fault.ofMessage e.message).blamed? k verb rest.dropLast
    | _ => none

theorem Line.blamed?_eq {o : Overlay} {input : String} {verb : Token} {args : List Token}
    {marker : Token} {k : Verb} (h : Line o input (verb :: args) marker) (hk : verb.kind = .verb k)
    (e : ParseError) : e.blamed? (scan (.extended o) input)
      = (Fault.ofMessage e.message).blamed? k verb args := by
  rw [h.scan_eq, List.cons_append, ParseError.blamed?, hk, List.dropLast_concat]

theorem exists_blamed {o : Overlay} {input : String} {e : ParseError}
    (h : (Interpreter.mk o).compile input = .error e) :
    ∃ t, e.blamed? (scan (.extended o) input) = some t ∧ t.column = e.column ∧
      ∃ front q, Scan.Placed (.extended o) input.toList t front q := by
  obtain ⟨k, verb, args, marker, complaint, t', hline, hk, hbreaks, rfl⟩ := exists_breaks h
  obtain ⟨fault, hfault⟩ := Fault.exists_of_breaks hbreaks
    (e := ⟨complaint.message, t'.column, input⟩) rfl rfl
  obtain ⟨t, hblamed, hcolumn⟩ := hfault.blamed
  have hmem : t ∈ verb :: args :=
    List.mem_cons.mpr ((Fault.mem_of_blamed? hblamed).imp_left And.right)
  refine ⟨t, ?_, hcolumn, hline.placed t hmem⟩
  rw [hline.blamed?_eq hk, ← hfault.eq_ofMessage]
  exact hblamed

namespace Session

/-- What an answer shows of the token that an error is about. -/
structure Points (input answer : String) (e : ParseError) (t : Token) : Prop where
  /-- In the row of the token, its first character stands in the column of the error. -/
  shown : (t.first? input).isSome = true ∧
    Text.charAt? answer (Text.row input.toList t.span.start) e.column = t.first? input
  /-- The row is the one that the token names, as far as a word counts. -/
  row : t.span.line = 1 + (Text.row input.toList t.span.start : UInt32)
  /-- So does the caret in the row below the line. -/
  caret : Text.charAt? answer (Text.rows input).length e.column = some '^'
  /-- A token in the last row of the line is right above the caret. -/
  above : Text.row input.toList t.span.start + 1 = (Text.rows input).length →
    Text.charAt? answer ((Text.rows input).length - 1) e.column = t.first? input
  /-- A line without line feeds has one row. -/
  alone : '\n' ∉ input.toList →
    Text.row input.toList t.span.start + 1 = (Text.rows input).length

theorem charAt?_caret (e : ParseError) (below : String) :
    Text.charAt? (e.caret ++ "\n" ++ below) 0 e.column = some '^' := by
  have hchars : e.caret.toList = List.replicate e.column ' ' ++ ['^'] := String.toList_ofList
  have hfeed : '\n' ∉ e.caret.toList := by
    rw [hchars]
    simp
  have hrows := Text.rows_of_not_mem hfeed
  rw [Text.charAt?_append _ _ (by simp [hrows]), Text.charAt?, hrows, hchars]
  simp

/-- **The caret stands in the column of the token that an error is about.**  The answer is the
line, a caret in the column of the error, and what is wrong. -/
theorem caret_points (s : Session) (input : String) {e : ParseError}
    (htext : s.settings.format = .text) (hplain : s.settings.showTokens = false)
    (herror : (s.parse input).error = some e) :
    s.render input = input ++ "\n" ++ (String.ofList (List.replicate e.column ' ') ++ "^") ++
        "\n" ++ e.message ∧
      ∃ t, e.blamed? (s.interpreter.tokens input) = some t ∧ t.column = e.column ∧
        Points input (s.render input) e t := by
  have hcompile := error_interpret_iff.mp herror
  have hinput : e.input = input := by
    obtain ⟨k, verb, args, marker, complaint, t, -, -, -, rfl⟩ := exists_breaks hcompile
    rfl
  have hanswer : s.render input = input ++ "\n" ++ (e.caret ++ "\n" ++ e.message) := by
    simp [render, renderCommand, tokenRow, hplain, htext, commandText, herror, hinput,
      String.append_assoc]
  have hcaret : e.caret = String.ofList (List.replicate e.column ' ') ++ "^" := by
    rw [ParseError.caret, ← String.toList_inj]
    simp
  refine ⟨by rw [hanswer, hcaret]; simp only [String.append_assoc], ?_⟩
  obtain ⟨t, hblamed, hcolumn, front, q, hplaced⟩ := exists_blamed hcompile
  refine ⟨t, hblamed, hcolumn, ?_⟩
  have hfirst : (t.first? input).isSome = true := by
    obtain ⟨c, hc, -⟩ := hplaced.whole.exists_head
    rw [hplaced.first?_eq, hc]
    rfl
  have hlast := hplaced.row_lt
  have hshown : Text.charAt? (s.render input) (Text.row input.toList t.span.start) e.column
      = t.first? input := by
    rw [hanswer, Text.charAt?_append _ _ hlast, ← hcolumn]
    exact hplaced.charAt?_eq
  refine ⟨⟨hfirst, hshown⟩, hplaced.line_eq_row, ?_, ?_, ?_⟩
  · rw [hanswer]
    exact (Text.charAt?_below input _ 0 e.column).trans (charAt?_caret e _)
  · intro hrow
    rw [← hrow]
    exact hshown
  · intro hfeed
    rw [Text.rows_of_not_mem hfeed] at hlast ⊢
    rw [List.length_singleton] at hlast ⊢
    omega

/-- The second row holds the preposition, and a letter before it that takes two bytes. -/
theorem caret_points_second_row :
    let s : Session := {}
    let input := "put\nclé in"
    let e : ParseError := ⟨"Expected object after 'in'", 4, input⟩
    s.settings.format = .text ∧ s.settings.showTokens = false ∧
      (s.parse input).error = some e ∧
      s.render input = "put\nclé in\n    ^\nExpected object after 'in'" ∧
      ∃ t, e.blamed? (s.interpreter.tokens input) = some t ∧ t.column = 4 ∧
        Points input (s.render input) e t := by
  intro s input e
  have herror : (s.parse input).error = some e := by decide +kernel
  obtain ⟨hrender, hpoints⟩ := caret_points s input rfl rfl herror
  exact ⟨rfl, rfl, herror, by rw [hrender]; decide +kernel, hpoints⟩

/-- A token in the first of two rows has another word between itself and the caret. -/
theorem caret_below_other_row :
    let s : Session := {}
    let input := "use on door\nlamp"
    let e : ParseError := ⟨"Expected target before 'on'", 4, input⟩
    let t : Token := ⟨.preposition .on, "on", ⟨4, 6, 1, 4⟩⟩
    s.settings.format = .text ∧ s.settings.showTokens = false ∧
      (s.parse input).error = some e ∧ e.blamed? (s.interpreter.tokens input) = some t ∧
      t.first? input = some 'o' ∧
      s.render input = "use on door\nlamp\n    ^\nExpected target before 'on'" ∧
      Text.charAt? (s.render input) ((Text.rows input).length - 1) e.column = none := by
  decide +kernel

end Session

end Adventure
