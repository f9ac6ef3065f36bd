/-
An error points at the token that broke the rule.

A player sees the words of an error and a caret, so both must be about the same token of
the line as it was typed.  The rules report columns of tokens they have sliced out of the
line; `Ruling.blames_ofVerb` traces each of them back.  What is left to say here is which
token that is, in terms of the words of the error alone: the four kinds of error exclude
each other by their words, so an error can be read in one way only.
-/
import Adventure.Proofs.Line

namespace Adventure

/-- What an error is about. -/
inductive Fault where
  /-- The verb, which lacks a destination or a partner. -/
  | verb
  /-- A word that the verb does not allow. -/
  | extra
  /-- The last `to` of words that are nothing else. -/
  | destination
  /-- A preposition that lacks words on one side. -/
  | preposition
  deriving DecidableEq, Repr

namespace Fault

/-- The words and the column of an error about a verb and the words after it. -/
def Explains (e : ParseError) (k : Verb) (verb : Token) (args : List Token) : Fault → Prop
  | .verb => (e.message = "Go where?" ∨ e.message = "Talk to whom?") ∧ e.column = verb.column
  | .extra =>
    e.message = "Unexpected input after '" ++ Text.lower verb.lexeme ++ "'" ∧
      ∃ t, Ruling.refused? k args = some t ∧ e.column = t.column
  | .destination =>
    (∀ t ∈ args, t.kind = .to_) ∧ ∃ t, args.getLast? = some t ∧
      e.message = "Expected destination after '" ++ Text.lower t.lexeme ++ "'" ∧
      e.column = t.column
  | .preposition =>
    ∃ p, args.find? (·.kind.isSplitting) = some p ∧ e.column = p.column ∧
      (e.message = "Expected target before '" ++ Text.lower p.lexeme ++ "'" ∧
          (Ruling.divided k args).head? = some p ∨
        e.message = "Expected object after '" ++ Text.lower p.lexeme ++ "'" ∧
          (Ruling.divided k args).getLast? = some p ∧ (Ruling.divided k args).head? ≠ some p)

/-! ### The words of an error tell its fault -/

/-- The fault that an error's words name, decided by two of their letters. -/
def ofMessage (message : String) : Fault :=
  match message.toList[0]?, message.toList[9]? with
  | some 'U', _ => .extra
  | some 'E', some 'd' => .destination
  | some 'E', _ => .preposition
  | _, _ => .verb

theorem Explains.eq_ofMessage {e : ParseError} {k : Verb} {verb : Token} {args : List Token}
    {fault : Fault} (h : fault.Explains e k verb args) : fault = ofMessage e.message := by
  cases fault with
  | verb =>
      obtain ⟨hmessage | hmessage, -⟩ := h
      · rw [hmessage]
        decide
      · rw [hmessage]
        decide
  | extra =>
      rw [h.1]
      simp [ofMessage]
  | destination =>
      obtain ⟨-, t, -, hmessage, -⟩ := h
      rw [hmessage]
      simp [ofMessage]
  | preposition =>
      obtain ⟨p, -, -, ⟨hmessage, -⟩ | ⟨hmessage, -⟩⟩ := h
      · rw [hmessage]
        simp [ofMessage]
      · rw [hmessage]
        simp [ofMessage]

/-! ### Every broken rule is a fault -/

theorem find?_dropWhile_to (args : List Token) :
    (args.dropWhile (·.kind == .to_)).find? (·.kind.isSplitting)
      = args.find? (·.kind.isSplitting) := by
  induction args with
  | nil => rfl
  | cons t rest ih =>
      by_cases ht : t.kind = .to_
      · rw [List.dropWhile_cons_of_pos (by simp [ht]), ih,
          List.find?_cons_of_neg (by simp [ht, Kind.isSplitting])]
      · rw [List.dropWhile_cons_of_neg (by simp [ht])]

/-- The first preposition of the words that a rule divides is the first of all words, since
no leading `to` splits. -/
theorem find?_divided (k : Verb) (args : List Token) :
    (Ruling.divided k args).find? (·.kind.isSplitting) = args.find? (·.kind.isSplitting) := by
  unfold Ruling.divided
  split
  · exact find?_dropWhile_to args
  · exact find?_dropWhile_to args
  · rfl

theorem exists_of_breaks {k : Verb} {verb t : Token} {args : List Token} {c : Complaint}
    (h : Ruling.Breaks k verb args c t) {e : ParseError} (hmessage : e.message = c.message)
    (hcolumn : e.column = t.column) : ∃ fault : Fault, fault.Explains e k verb args := by
  cases h with
  | goWhere hk => exact ⟨.verb, Or.inl hmessage, hcolumn⟩
  | talkToWhom hk => exact ⟨.verb, Or.inr hmessage, hcolumn⟩
  | refused ht => exact ⟨.extra, hmessage, t, ht, hcolumn⟩
  | dangling hk hargs ht => exact ⟨.destination, hargs, t, ht, hmessage, hcolumn⟩
  | noTarget hwords hp =>
      refine ⟨.preposition, t, ?_, hcolumn, Or.inl ⟨hmessage, ?_⟩⟩
      · rw [← find?_divided k, hwords]
        simp [hp]
      · rw [hwords, List.head?_cons]
  | @noObject before _ hwords hplain hp hbefore =>
      have hnone : before.find? (·.kind.isSplitting) = none := by
        rw [List.find?_eq_none]
        intro a ha
        simp [hplain a ha]
      refine ⟨.preposition, t, ?_, hcolumn, Or.inr ⟨hmessage, ?_, ?_⟩⟩
      · rw [← find?_divided k, hwords, List.find?_append, hnone]
        simp [hp]
      · rw [hwords, List.getLast?_concat]
      · obtain ⟨a, rest, rfl⟩ := List.exists_cons_of_ne_nil hbefore
        rw [hwords, List.cons_append, List.head?_cons]
        intro hhead
        have hat : a = t := Option.some.inj hhead
        rw [← hat, hplain a (by simp)] at hp
        exact Bool.noConfusion hp

end Fault

/-- **An error is about one token of its line.**  It carries the line, its column lies in the
line, and its words tell which token the column belongs to. -/
theorem compile_error_explained (i : Interpreter) (input : String) (e : ParseError)
    (h : i.compile input = .error e) :
    e.input = input ∧ e.column < input.length ∧
      ∃ k verb args marker, i.tokens input = verb :: args ++ [marker] ∧
        verb.kind = .verb k ∧ (∀ t ∈ args, t.kind ≠ .eol) ∧ marker.kind = .eol ∧
        ∃! fault : Fault, fault.Explains e k verb args := by
  obtain ⟨body, marker, hline⟩ := exists_line i.overlay input
  have hmeans := means_ofWords input body
  rw [← hline.compile_eq, show (Interpreter.mk i.overlay).compile input = .error e from h] at hmeans
  cases hmeans with
  | @rejected verb args k objection hk hruling =>
      obtain ⟨t, hbreaks, hcolumn⟩ := Ruling.blames_ofVerb hruling
      obtain ⟨front, q, hplaced⟩ := hline.placed t hbreaks.mem
      obtain ⟨fault, hfault⟩ := Fault.exists_of_breaks hbreaks
        (e := ⟨objection.complaint.message, objection.column, input⟩) rfl hcolumn
      refine ⟨rfl, ?_, k, verb, args, marker, hline.scan_eq, hk, ?_, hline.marker_kind, fault,
        hfault, ?_⟩
      · show objection.column < input.length
        rw [hcolumn, ← String.length_toList]
        exact hplaced.column_lt
      · intro a ha
        exact hline.kinds a (List.mem_cons_of_mem _ ha)
      · intro other hother
        rw [hother.eq_ofMessage, hfault.eq_ofMessage]

/-- The column counts characters of the second line, and the preposition is an alias. -/
theorem compile_error_explained_second_line :
    let i : Interpreter :=
      ⟨.ofPairs [("Attaque", .verb .attack), ("avec", .preposition .with_)]⟩
    let input := "attaque\n «gobelin» AVEC"
    let e : ParseError := ⟨"Expected object after 'avec'", 11, input⟩
    i.compile input = .error e ∧ e.input = input ∧ e.column < input.length ∧
      ∃ k verb args marker, i.tokens input = verb :: args ++ [marker] ∧
        verb.kind = .verb k ∧ (∀ t ∈ args, t.kind ≠ .eol) ∧ marker.kind = .eol ∧
        ∃! fault : Fault, fault.Explains e k verb args := by
  intro i input e
  have h : i.compile input = .error e := by decide +kernel
  exact ⟨h, compile_error_explained i input e h⟩

end Adventure
