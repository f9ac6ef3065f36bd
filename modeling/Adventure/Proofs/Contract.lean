/-
What the rest of a game can rely on.

A command is a plain record, and commands read from data files can hold anything.  Those
that come from a line cannot.  They are of three sorts that exclude each other, and which
fields a sort or an action leaves empty is fixed; `Ruling.Keeps` has the part of it that
the rules of the verbs are responsible for.

The one promise that no rule makes is that a direction by itself has a visible name.  It
holds because a direction is a word and word characters are not blank.
-/
import Adventure.Proofs.Line

namespace Adventure

namespace Command

/-- A command that reports a broken rule and asks for nothing. -/
structure Malformed (line : String) (c : Command) : Prop where
  error : ∃ e, c.error = some e ∧ e.input = line
  action : c.action = .unknown
  argument : c.argument = ""
  target : c.target = ""
  preposition : c.preposition = none
  object : c.object = none

/-- A command that asks for something. -/
structure Successful (v : Vocabulary) (c : Command) : Prop where
  error : c.error = none
  action : c.action ≠ .unknown
  /-- A preposition comes with an object. -/
  paired : c.preposition.isSome = true ↔ c.object.isSome = true
  /-- One goes somewhere and talks to somebody. -/
  somewhere : c.action = .perform .go ∨ c.action = .perform .talk →
    ∃ x ∈ c.target.toList, Text.isBlank x = false
  /-- Some verbs stand alone. -/
  alone : c.action ∈ [.perform .help, .perform .listen, .perform .inventory, .perform .quit] →
    c.argument = "" ∧ c.target = "" ∧ c.preposition = none
  /-- One flees away, and how often it is said does not matter. -/
  flee : c.action = .perform .flee → c.target = "" ∧ c.preposition = none ∧
    ∃ words : List String, (∀ w ∈ words, v.kindOf w = .away) ∧
      c.argument = " ".intercalate words

/-- What can become of a line. -/
inductive Outcome where
  | unknown
  | malformed
  | successful
  deriving DecidableEq, Repr

namespace Outcome

/-- Whether a command shows that this became of a line. -/
def Shown (v : Vocabulary) (line : String) (c : Command) : Outcome → Prop
  | .unknown => c = Command.unknown
  | .malformed => c.Malformed line
  | .successful => c.Successful v

/-- The outcome that error and action of a command tell. -/
def of (c : Command) : Outcome :=
  if c.error.isSome then .malformed
  else if c.action = .unknown then .unknown
  else .successful

theorem Shown.eq_of {v : Vocabulary} {line : String} {c : Command} {outcome : Outcome}
    (h : outcome.Shown v line c) : outcome = of c := by
  unfold of
  cases outcome with
  | unknown =>
      rw [show c = Command.unknown from h]
      rfl
  | malformed =>
      obtain ⟨e, he, -⟩ := Malformed.error h
      rw [he]
      rfl
  | successful =>
      rw [Successful.error h, if_neg (by simp), if_neg (Successful.action h)]

end Outcome

/-! ### The command of each meaning -/

theorem malformed_ofNode {line : String} {e : ParseError} (he : e.input = line) :
    (ofNode (some (.error e))).Malformed line :=
  ⟨⟨e, rfl, he⟩, rfl, rfl, rfl, rfl, rfl⟩

theorem successful_direction (v : Vocabulary) {name : String}
    (hname : ∃ x ∈ name.toList, Text.isBlank x = false) :
    (ofNode (some (.verb (.perform .go) (.ofTarget name)))).Successful v where
  error := rfl
  action := by simp [ofNode]
  paired := by simp [ofNode, Phrase.ofTarget]
  somewhere := fun _ => hname
  alone := by simp [ofNode]
  flee := by simp [ofNode]

theorem successful_performed {v : Vocabulary} {k : Verb} {args : List Token} {phrase : Phrase}
    (h : Ruling.Keeps k args phrase)
    (haway : ∀ t ∈ args, t.kind = .away → v.kindOf t.lexeme = .away) :
    (ofNode (some (.verb (.perform k) phrase))).Successful v where
  error := rfl
  action := by simp [ofNode]
  paired := by
    show phrase.preposition.isSome = true ↔ phrase.object.isSome = true
    rw [h.paired]
  somewhere := by
    intro hk
    have hblank := h.somewhere (by simpa [ofNode] using hk)
    show ∃ x ∈ phrase.target.toList, Text.isBlank x = false
    simpa [Text.isBlankText] using hblank
  alone := by
    intro hk
    have hempty := h.empty (by
      simp only [ofNode, List.mem_cons, Action.perform.injEq, List.not_mem_nil, or_false] at hk
      rcases hk with rfl | rfl | rfl | rfl <;> rfl)
    rw [hempty]
    exact ⟨rfl, rfl, rfl⟩
  flee := by
    intro hk
    obtain ⟨hargs, hphrase⟩ := h.away (by simpa [ofNode] using hk)
    rw [hphrase]
    refine ⟨rfl, rfl, args.map Token.lexeme, ?_, rfl⟩
    intro w hw
    obtain ⟨t, ht, rfl⟩ := List.mem_map.mp hw
    exact haway t ht (hargs t ht)

end Command

namespace Command.Outcome

theorem Shown.eq_unknown_iff {v : Vocabulary} {line : String} {c : Command} {outcome : Outcome}
    (h : outcome.Shown v line c) : c = Command.unknown ↔ outcome = .unknown := by
  constructor
  · intro hc
    rw [h.eq_of, hc]
    rfl
  · rintro rfl
    exact h

end Command.Outcome

/-- Whether a token begins nothing that is understood. -/
def Token.LeadsNowhere (t : Token) : Prop :=
  t.kind = .eol ∨ t.kind.isDirection = false ∧ Action.ofKind? t.kind = none

/-- The sort of a command follows the meaning of the line. -/
theorem exists_shown {o : Overlay} {line : String} {body : List Token} {marker : Token}
    (hline : Line o line body marker) :
    ∃ outcome : Command.Outcome,
      outcome.Shown (.extended o) line (.ofNode (some (Node.ofWords line body))) ∧
        (outcome = .unknown ↔ ∀ first ∈ (body ++ [marker]).head?, first.LeadsNowhere) := by
  have hmeans := means_ofWords line body
  generalize Node.ofWords line body = node at hmeans
  cases hmeans with
  | nothing =>
      refine ⟨.unknown, rfl, iff_of_true rfl ?_⟩
      intro first hfirst
      obtain rfl : marker = first := by simpa using hfirst
      exact Or.inl hline.marker_kind
  | @stray first args hdirection hverb =>
      refine ⟨.unknown, rfl, iff_of_true rfl ?_⟩
      intro t ht
      obtain rfl : first = t := by simpa using ht
      exact Or.inr ⟨hdirection, by rw [Action.ofKind?, hverb]; rfl⟩
  | @direction first args hdirection =>
      obtain ⟨front, q, hplaced⟩ := hline.placed first (by simp)
      refine ⟨.successful,
        Command.successful_direction _ (hplaced.exists_visible hdirection),
        iff_of_false (by simp) ?_⟩
      intro hfirst
      rcases hfirst first rfl with hkind | ⟨hnot, -⟩
      · exact hline.kinds first (by simp) hkind
      · rw [hdirection] at hnot
        exact Bool.noConfusion hnot
  | @performed first args k k' phrase hk hruling =>
      refine ⟨.successful, Command.successful_performed (Ruling.keeps_ofVerb hruling) ?_,
        iff_of_false (by simp) ?_⟩
      · intro t ht hkind
        obtain ⟨front, q, hplaced⟩ := hline.placed t (List.mem_cons_of_mem _ ht)
        exact hplaced.kindOf_away hkind
      · intro hfirst
        rcases hfirst first rfl with hkind | ⟨-, hnone⟩
        · exact hline.kinds first (by simp) hkind
        · rw [hk] at hnone
          exact nomatch hnone
  | @rejected first args k e hk hruling =>
      refine ⟨.malformed, Command.malformed_ofNode rfl, iff_of_false (by simp) ?_⟩
      intro hfirst
      rcases hfirst first rfl with hkind | ⟨-, hnone⟩
      · exact hline.kinds first (by simp) hkind
      · rw [hk] at hnone
        exact nomatch hnone

/-- **What becomes of a line.**  Its command is of exactly one sort, and nothing was
understood exactly when the line does not begin with a direction or a verb. -/
theorem interpret_contract (i : Interpreter) (line : String) :
    (∃! outcome : Command.Outcome, outcome.Shown i.vocabulary line (i.interpret line)) ∧
      (i.interpret line = .unknown ↔
        ∃ first rest, i.tokens line = first :: rest ∧
          (first.kind = .eol ∨
            first.kind.isDirection = false ∧ Action.ofKind? first.kind = none)) := by
  obtain ⟨body, marker, hline⟩ := exists_line i.overlay line
  have hinterpret : i.interpret line = .ofNode (some (Node.ofWords line body)) :=
    congrArg (Command.ofNode ∘ some) hline.compile_eq
  have htokens : i.tokens line = body ++ [marker] := hline.scan_eq
  obtain ⟨outcome, hshown, hunknown⟩ := exists_shown hline
  rw [hinterpret, htokens, hshown.eq_unknown_iff, hunknown]
  refine ⟨⟨outcome, hshown, ?_⟩, ?_, ?_⟩
  · intro other hother
    rw [hother.eq_of, hshown.eq_of]
  · intro hfirst
    obtain ⟨first, rest, hbody⟩ := List.exists_cons_of_ne_nil (List.concat_ne_nil marker body)
    rw [hbody] at hfirst ⊢
    exact ⟨first, rest, rfl, hfirst first rfl⟩
  · rintro ⟨first, rest, hbody, hfirst⟩ t ht
    rw [hbody] at ht
    obtain rfl : first = t := by simpa using ht
    exact hfirst

end Adventure
