/-
What the description of a command tells.

A description has three parts, and two of them may be missing: an empty target is left out, and so
is the object of a command without a preposition.  Target and object are any texts, but they are
quoted.  What stands between the quoted texts are words without spaces and equals signs, so each
part is read up to the next sign and it is the sign that tells the parts apart: behind the word
`target` there is an equals sign if it names the target, and a space if it is a preposition.

That prepositions are words is not said by the type of a command.  It holds of commands that come
from lines: a preposition is the lower case of a word of the line.
-/
import Adventure.Proofs.Command
import Adventure.Proofs.Contract
import Adventure.Proofs.Division
import Adventure.Proofs.Quoting
import Adventure.Proofs.Reparse

namespace Adventure

/-! ### Where prepositions come from -/

theorem Kind.exists_of_isSplitting {k : Kind} (h : k.isSplitting = true) :
    ∃ p, k = .preposition p := by
  cases k with
  | preposition p => exact ⟨p, rfl⟩
  | _ => exact Bool.noConfusion h

namespace Ruling

variable {k k' : Verb} {verb : Token} {args : List Token} {phrase : Phrase}

/-- **The preposition of a phrase is one of the words behind the verb, in lower case.** -/
theorem preposition_ofVerb (h : ofVerb k verb args = .ok (k', phrase)) {word : String}
    (hword : phrase.preposition = some word) :
    ∃ p ∈ args, p.kind.isSplitting = true ∧ word = Text.lower p.lexeme := by
  have hkeeps := keeps_ofVerb h
  have halone : k'.standsAlone = false := by
    rw [Bool.eq_false_iff]
    intro hk
    rw [hkeeps.empty hk] at hword
    exact nomatch hword
  have hflee : k' ≠ .flee := by
    intro hk
    rw [(hkeeps.away hk).2] at hword
    exact nomatch hword
  -- The verb performed has the phrase from some of the words, and these it covers.
  obtain ⟨kept, hkept, -, hagain⟩ := recalls_ofVerb h
  have hcovers := covers_ofVerb halone hflee (hagain { verb with lexeme := "" } rfl)
  split at hcovers
  · rw [hcovers] at hword
    exact nomatch hword
  · have hparts := hcovers.parts
    cases hfind : (divided k' kept).find? (·.kind.isSplitting) with
    | none =>
        rw [hfind] at hparts
        rw [hparts.1] at hword
        exact nomatch hword
    | some p =>
        rw [hfind] at hparts
        obtain ⟨before, after, -, -, -, -, hpreposition, -⟩ := hparts
        have hp : p ∈ divided k' kept := List.mem_of_find?_eq_some hfind
        refine ⟨p, hkept p ((divided_sublist k' kept).subset hp), ?_, ?_⟩
        · simpa using List.find?_some hfind
        · exact Option.some.inj (hword.symm.trans hpreposition)

end Ruling

namespace Action

theorem not_isDelimiter_name (a : Action) : ∀ x ∈ a.name.toList, Text.isDelimiter x = false := by
  have hall : ∀ a ∈ all, (a.name.toList.any Text.isDelimiter) = false := by
    decide +kernel
  exact Text.forall_not_isDelimiter (hall a a.mem_all)

/-- Different actions have different names. -/
theorem name_inj {a b : Action} (h : a.name = b.name) : a = b := by
  have hall : ∀ a ∈ all, ∀ b ∈ all, a.name = b.name → a = b := by
    decide +kernel
  exact hall a a.mem_all b b.mem_all h

end Action

namespace Command

/-! ### Commands that can be told apart -/

/-- A command without an error whose preposition comes with an object and is a word. -/
structure Worded (c : Command) : Prop where
  error : c.error = none
  paired : c.preposition.isSome = c.object.isSome
  preposition : ∀ word ∈ c.preposition, ∀ x ∈ word.toList, Text.isDelimiter x = false

theorem worded_unknown : unknown.Worded :=
  ⟨rfl, rfl, by simp [unknown]⟩

theorem worded_direction (name : String) :
    (ofNode (some (.verb (.perform .go) (.ofTarget name)))).Worded :=
  ⟨rfl, rfl, by simp [ofNode, Phrase.ofTarget]⟩

/-- **A command that a line gives is worded, unless it is an error.** -/
theorem worded_interpret {i : Interpreter} {line : String}
    (h : (i.interpret line).isError = false) : (i.interpret line).Worded := by
  obtain ⟨body, marker, hline⟩ := exists_line i.overlay line
  have hinterpret : i.interpret line = .ofNode (some (Node.ofWords line body)) :=
    congrArg (Command.ofNode ∘ some) hline.compile_eq
  rw [hinterpret] at h ⊢
  have hmeans := means_ofWords line body
  generalize Node.ofWords line body = node at hmeans h
  cases hmeans with
  | nothing => exact worded_unknown
  | stray => exact worded_unknown
  | @direction first _ => exact worded_direction first.lexeme
  | rejected => exact nomatch h
  | @performed first args k k' phrase hk hruling =>
      refine ⟨rfl, (Ruling.keeps_ofVerb hruling).paired, ?_⟩
      intro word hword
      obtain ⟨p, hp, hsplitting, rfl⟩ := Ruling.preposition_ofVerb hruling hword
      obtain ⟨front, q, hplaced⟩ := hline.placed p (List.mem_cons_of_mem _ hp)
      rw [hplaced.kind_eq] at hsplitting
      obtain ⟨preposition, hkind⟩ := Kind.exists_of_isSplitting hsplitting
      obtain ⟨-, hchars, -⟩ := hplaced.whole.word_of_kind (by rw [hkind]; rfl)
        (by rw [hkind]; exact Kind.noConfusion)
      refine Text.not_isDelimiter_lower ?_
      rw [hplaced.lexeme_eq, String.toList_ofList]
      exact hchars

/-! ### The parts of a description -/

/-- A target by its name. -/
def targetPart (target : String) : List Char :=
  ' ' :: ("target".toList ++ '=' :: (Text.quoted target).toList)

/-- An object behind its preposition. -/
def objectPart (preposition object : String) : List Char :=
  ' ' :: (preposition.toList ++ ' ' :: ("object".toList ++ '=' :: (Text.quoted object).toList))

theorem describeTarget_eq (c : Command) :
    c.describeTarget.toList = if c.target = "" then [] else targetPart c.target := by
  unfold describeTarget
  simp only [String.isEmpty_iff]
  split
  · rfl
  · rw [String.toList_append]
    rfl

theorem toList_describeObject {c : Command} {preposition object : String}
    (hpreposition : c.preposition = some preposition) (hobject : c.object = some object) :
    c.describeObject.toList = objectPart preposition object := by
  rw [describeObject, hpreposition, hobject]
  show (" " ++ preposition ++ " object=" ++ Text.quoted object).toList = _
  simp [objectPart, String.toList_append]

/-- The object of a worded command is there or not. -/
theorem Worded.object_cases {c : Command} (h : c.Worded) :
    (c.preposition = none ∧ c.object = none ∧ c.describeObject.toList = []) ∨
      ∃ preposition object, c.preposition = some preposition ∧ c.object = some object ∧
        c.describeObject.toList = objectPart preposition object := by
  have hpaired := h.paired
  cases hpreposition : c.preposition with
  | none =>
      rw [hpreposition] at hpaired
      have hobject : c.object = none := Option.not_isSome_iff_eq_none.mp (by simp [← hpaired])
      exact Or.inl ⟨rfl, hobject, by rw [describeObject, hpreposition]; rfl⟩
  | some preposition =>
      rw [hpreposition] at hpaired
      obtain ⟨object, hobject⟩ := Option.isSome_iff_exists.mp hpaired.symm
      exact Or.inr ⟨preposition, object, rfl, hobject,
        toList_describeObject hpreposition hobject⟩

theorem describe_eq {c : Command} (h : c.error = none) :
    c.describe.toList
      = c.action.name.toList ++ (c.describeTarget.toList ++ c.describeObject.toList) := by
  simp [describe, h, String.toList_append]

/-! ### Reading the parts -/

/-- A word is read up to the sign behind it. -/
theorem word_append_inj {a b : String} {x y : Char} {r s : List Char}
    (ha : ∀ c ∈ a.toList, Text.isDelimiter c = false) (hx : Text.isDelimiter x = true)
    (hb : ∀ c ∈ b.toList, Text.isDelimiter c = false) (hy : Text.isDelimiter y = true)
    (h : a.toList ++ x :: r = b.toList ++ y :: s) : a = b ∧ x = y ∧ r = s := by
  obtain ⟨hword, hrest⟩ := Text.run_append_inj (p := fun c => !Text.isDelimiter c)
    (by simpa using ha) (by simpa using hx) (by simpa using hb) (by simpa using hy) h
  obtain ⟨hsign, hrest⟩ := List.cons.inj hrest
  exact ⟨String.toList_inj.mp hword, hsign, hrest⟩

theorem objectPart_inj {p p' o o' : String} (hp : ∀ c ∈ p.toList, Text.isDelimiter c = false)
    (hp' : ∀ c ∈ p'.toList, Text.isDelimiter c = false) (h : objectPart p o = objectPart p' o') :
    p = p' ∧ o = o' := by
  obtain ⟨hword, -, hrest⟩ := word_append_inj hp (by decide) hp' (by decide) (List.cons.inj h).2
  have hquoted : (Text.quoted o).toList ++ [] = (Text.quoted o').toList ++ [] := by
    rw [(List.cons.inj (List.append_cancel_left hrest)).2]
  exact ⟨hword, (Text.quoted_append_inj hquoted).1⟩

namespace Worded

variable {c d : Command}

/-- An object is not taken for a target, even if its preposition is called so. -/
theorem describeObject_ne_target (h : c.Worded) (target : String) (rest : List Char) :
    c.describeObject.toList ≠ targetPart target ++ rest := by
  intro heq
  rcases h.object_cases with ⟨-, -, hnone⟩ | ⟨preposition, object, hpreposition, -, hsome⟩
  · rw [hnone] at heq
    exact nomatch heq
  · rw [hsome, targetPart, List.cons_append, List.append_assoc] at heq
    obtain ⟨-, hsign, -⟩ := word_append_inj (h.preposition preposition hpreposition) (by decide)
      (Text.forall_not_isDelimiter (by decide)) (by decide) (List.cons.inj heq).2
    exact absurd hsign (by decide)

theorem tail_inj (hc : c.Worded) (hd : d.Worded)
    (h : c.describeTarget.toList ++ c.describeObject.toList
      = d.describeTarget.toList ++ d.describeObject.toList) :
    c.target = d.target ∧ c.describeObject.toList = d.describeObject.toList := by
  rw [describeTarget_eq, describeTarget_eq] at h
  by_cases htarget : c.target = ""
  · by_cases htarget' : d.target = ""
    · rw [if_pos htarget, if_pos htarget'] at h
      exact ⟨htarget.trans htarget'.symm, h⟩
    · rw [if_pos htarget, if_neg htarget'] at h
      exact absurd h (hc.describeObject_ne_target d.target _)
  · by_cases htarget' : d.target = ""
    · rw [if_neg htarget, if_pos htarget'] at h
      exact absurd h.symm (hd.describeObject_ne_target c.target _)
    · rw [if_neg htarget, if_neg htarget', targetPart, targetPart] at h
      simp only [List.cons_append, List.append_assoc, List.cons.injEq, true_and,
        List.append_cancel_left_eq] at h
      exact Text.quoted_append_inj h

theorem object_inj (hc : c.Worded) (hd : d.Worded)
    (h : c.describeObject.toList = d.describeObject.toList) :
    c.preposition = d.preposition ∧ c.object = d.object := by
  rcases hc.object_cases with ⟨hp, ho, hnone⟩ | ⟨p, o, hp, ho, hsome⟩
  · rcases hd.object_cases with ⟨hp', ho', -⟩ | ⟨p', o', -, -, hsome'⟩
    · exact ⟨hp.trans hp'.symm, ho.trans ho'.symm⟩
    · rw [hnone, hsome'] at h
      exact nomatch h
  · rcases hd.object_cases with ⟨-, -, hnone'⟩ | ⟨p', o', hp', ho', hsome'⟩
    · rw [hsome, hnone'] at h
      exact nomatch h
    · rw [hsome, hsome'] at h
      obtain ⟨rfl, rfl⟩ := objectPart_inj (hc.preposition p hp) (hd.preposition p' hp') h
      exact ⟨hp.trans hp'.symm, ho.trans ho'.symm⟩

/-- Behind the name of the action there is a space or nothing. -/
theorem head_tail (h : c.Worded) :
    ∀ x ∈ (c.describeTarget.toList ++ c.describeObject.toList).head?, x = ' ' := by
  intro x hx
  rw [describeTarget_eq] at hx
  split at hx
  · rcases h.object_cases with ⟨-, -, hnone⟩ | ⟨_, _, -, -, hsome⟩
    · simp [hnone] at hx
    · rw [hsome, objectPart, List.nil_append, List.head?_cons, Option.mem_some_iff] at hx
      exact hx.symm
  · rw [targetPart, List.cons_append, List.head?_cons, Option.mem_some_iff] at hx
    exact hx.symm

/-- **The description of a worded command tells all of it but the argument.** -/
theorem describe_inj (hc : c.Worded) (hd : d.Worded) (h : c.describe = d.describe) :
    c.action = d.action ∧ c.target = d.target ∧ c.preposition = d.preposition ∧
      c.object = d.object := by
  have hchars : c.describe.toList = d.describe.toList := congrArg String.toList h
  rw [describe_eq hc.error, describe_eq hd.error] at hchars
  have hstop : ∀ {c : Command}, c.Worded → ∀ x ∈ (c.describeTarget.toList ++
      c.describeObject.toList).head?, (!Text.isDelimiter x) = false := by
    intro c hc x hx
    rw [hc.head_tail x hx]
    rfl
  obtain ⟨hname, htail⟩ := Text.run_append_inj (p := fun x => !Text.isDelimiter x)
    (by simpa using c.action.not_isDelimiter_name) (hstop hc)
    (by simpa using d.action.not_isDelimiter_name) (hstop hd) hchars
  obtain ⟨htarget, hobject⟩ := hc.tail_inj hd htail
  exact ⟨Action.name_inj (String.toList_inj.mp hname), htarget, hc.object_inj hd hobject⟩

/-- **The description of a worded command has no control characters.** -/
theorem not_isControl_describe (h : c.Worded) :
    ∀ x ∈ c.describe.toList, Text.isControl x = false := by
  have hword : ∀ s : String, (∀ x ∈ s.toList, Text.isDelimiter x = false) →
      ∀ x ∈ s.toList, Text.isControl x = false :=
    fun s hs x hx => Text.not_isControl_of_not_isDelimiter (hs x hx)
  have htarget : ∀ x ∈ c.describeTarget.toList, Text.isControl x = false := by
    rw [describeTarget_eq]
    split
    · simp
    · simp only [targetPart, List.forall_mem_cons, List.forall_mem_append]
      exact ⟨by decide, hword "target" (Text.forall_not_isDelimiter (by decide)), by decide,
        Text.not_isControl_quoted c.target⟩
  have hobject : ∀ x ∈ c.describeObject.toList, Text.isControl x = false := by
    rcases h.object_cases with ⟨-, -, hnone⟩ | ⟨preposition, object, hpreposition, -, hsome⟩
    · simp [hnone]
    · simp only [hsome, objectPart, List.forall_mem_cons, List.forall_mem_append]
      exact ⟨by decide, hword preposition (h.preposition preposition hpreposition), by decide,
        hword "object" (Text.forall_not_isDelimiter (by decide)), by decide,
        Text.not_isControl_quoted object⟩
  rw [describe_eq h.error]
  simp only [List.forall_mem_append]
  exact ⟨hword c.action.name c.action.not_isDelimiter_name, htarget, hobject⟩

end Worded

end Command

/-- **A description is one line and tells all of a command but its argument.**  A line that gives
a command and no error has a description without control characters, whatever stands in its
quoted texts and whatever its aliases are called.  Where two such lines, each read with aliases of
its own, have the same description, they ask for the same action with the same target, preposition
and object. -/
theorem describe_tells_command {i : Interpreter} {line : String}
    (hline : (i.interpret line).isError = false) :
    (∀ x ∈ (i.interpret line).describe.toList, Text.isControl x = false) ∧
      ∀ (j : Interpreter) (line' : String), (j.interpret line').isError = false →
        (i.interpret line).describe = (j.interpret line').describe →
          (i.interpret line).action = (j.interpret line').action ∧
            (i.interpret line).target = (j.interpret line').target ∧
            (i.interpret line).preposition = (j.interpret line').preposition ∧
            (i.interpret line).object = (j.interpret line').object := by
  have hworded := Command.worded_interpret hline
  exact ⟨hworded.not_isControl_describe,
    fun j line' hline' heq => hworded.describe_inj (Command.worded_interpret hline') heq⟩

/-- A preposition that is called `target`, an equals sign, a line feed and no text at all in
quotes. -/
theorem describe_tells_command_target :
    let i : Interpreter := ⟨.ofPairs [("Target", .preposition .with_), ("nimm", .verb .take)]⟩
    let j : Interpreter := ⟨.ofPairs [("target", .preposition .in_)]⟩
    let line := "nimm \"\" Target \"=\n\\\""
    let line' := "take,\n\"\" TARGET, \"=\n\\\""
    (i.interpret line).isError = false ∧ (j.interpret line').isError = false ∧
      (i.interpret line).describe = "take target object=\"=\\n\\\\\"" ∧
      (∀ x ∈ (i.interpret line).describe.toList, Text.isControl x = false) ∧
      (i.interpret line).preposition = (j.interpret line').preposition ∧
      (i.interpret line).object = (j.interpret line').object := by
  intro i j line line'
  have hinterpret : i.interpret line =
      { action := .perform .take, argument := " Target =\n\\", preposition := some "target",
        object := some "=\n\\" } := by
    decide +kernel
  have hinterpret' : j.interpret line' =
      { action := .perform .take, argument := " TARGET =\n\\", preposition := some "target",
        object := some "=\n\\" } := by
    decide +kernel
  have hline : (i.interpret line).isError = false := by rw [hinterpret]; rfl
  have hline' : (j.interpret line').isError = false := by rw [hinterpret']; rfl
  have hdescribe : (i.interpret line).describe = "take target object=\"=\\n\\\\\"" := by
    rw [hinterpret]
    decide +kernel
  have hdescribe' : (i.interpret line).describe = (j.interpret line').describe := by
    rw [hdescribe, hinterpret']
    decide +kernel
  obtain ⟨hcontrol, hsame⟩ := describe_tells_command hline
  obtain ⟨-, -, hpreposition, hobject⟩ := hsame j line' hline' hdescribe'
  exact ⟨hline, hline', hdescribe, hcontrol, hpreposition, hobject⟩

end Adventure
