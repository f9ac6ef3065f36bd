/-
What a session remembers of the lines it has answered.

A session is asked line after line, and each answer may change it.  What a line can change
is two settings, and it can only turn them to their other side: `:tokens` one of them,
`:json` the other, when nothing but blanks stands around them.  So a session after some lines
is the session before them with each setting turned once for each such line (`flipped`), and
turning twice is turning not at all.

Everything a line is answered with comes from the aliases and from these two settings.  The
rest of a session, its prompt, its welcome and its synonyms, never comes into an answer to a
line that is not about the session, and a run over a stream gives the same answers.
-/
import Adventure.Session.Exchange
import Adventure.Proofs.Batch
import Mathlib.Algebra.Ring.Parity

namespace Adventure

theorem Format.toggle_toggle (f : Format) : f.toggle.toggle = f := by
  cases f with
  | text => rfl
  | json => rfl

namespace Session

variable {s : Session}

/-- How often a meta command is among lines. -/
def times (command : String) (lines : List String) : Nat :=
  lines.countP fun line => Text.trim line == command

/-- A session with its two settings turned once for each line that asks for it. -/
def flipped (s : Session) (lines : List String) : Session :=
  { s with
    settings :=
      { s.settings with
        showTokens := not^[times ":tokens" lines] s.settings.showTokens
        format := Format.toggle^[times ":json" lines] s.settings.format } }

@[simp] theorem prompt_flipped (s : Session) (lines : List String) :
    (s.flipped lines).settings.prompt = s.settings.prompt := rfl

/-! ### One line -/

theorem evalMeta_session (s : Session) (command : String) :
    (s.evalMeta command).2 =
      if command = ":tokens" then s.toggleTokens
      else if command = ":json" then s.toggleJson
      else s := by
  by_cases htokens : command = ":tokens"
  · rw [htokens]
    rfl
  by_cases hjson : command = ":json"
  · rw [hjson]
    rfl
  rw [if_neg htokens, if_neg hjson]
  unfold evalMeta
  rw [if_neg htokens, if_neg hjson]
  split_ifs with hhelp haliases hquit
  all_goals rfl

theorem flipped_singleton (s : Session) (line : String) :
    s.flipped [line] =
      if Text.trim line = ":tokens" then s.toggleTokens
      else if Text.trim line = ":json" then s.toggleJson
      else s := by
  unfold flipped times
  by_cases htokens : Text.trim line = ":tokens"
  · simp [htokens, toggleTokens]
  by_cases hjson : Text.trim line = ":json"
  · simp [hjson, toggleJson]
  · simp [htokens, hjson]

theorem trim_ne_of_not_isMeta {line command : String} (h : isMeta line = false)
    (hcommand : command.toList.head? = some ':') : Text.trim line ≠ command := by
  intro heq
  rw [isMeta, heq, hcommand] at h
  exact absurd h (by decide)

/-- **What a line does to a session.** -/
theorem eval_session (s : Session) (line : String) : (s.eval line).2 = s.flipped [line] := by
  rw [flipped_singleton]
  unfold eval
  by_cases hmeta : isMeta line = true
  · rw [if_pos hmeta]
    exact evalMeta_session s (Text.trim line)
  · have hnot := Bool.eq_false_iff.mpr hmeta
    rw [if_neg hmeta, if_neg (trim_ne_of_not_isMeta hnot rfl),
      if_neg (trim_ne_of_not_isMeta hnot rfl)]

theorem eval_of_not_isMeta (s : Session) {line : String} (h : isMeta line = false) :
    s.eval line =
      (if (s.parse line).action = .perform .quit then .quit (s.render line)
        else .goOn (s.render line), s) := by
  unfold eval
  rw [if_neg (by simp [h])]
  rfl

theorem text_eval (s : Session) {line : String} (h : isMeta line = false) :
    (s.eval line).1.text = s.render line := by
  rw [eval_of_not_isMeta s h]
  by_cases hquit : (s.parse line).action = .perform .quit
  · rw [if_pos hquit]
    rfl
  · rw [if_neg hquit]
    rfl

/-! ### Any number of lines -/

theorem flipped_append (s : Session) (a b : List String) :
    s.flipped (a ++ b) = (s.flipped a).flipped b := by
  unfold flipped times
  rw [List.countP_append, List.countP_append, Nat.add_comm, Function.iterate_add_apply,
    Nat.add_comm (List.countP _ a), Function.iterate_add_apply]

theorem evalAll_cons (s : Session) (line : String) (rest : List String) :
    s.evalAll (line :: rest) = s.eval line :: (s.eval line).2.evalAll rest := by
  rw [evalAll]

theorem length_evalAll (s : Session) (lines : List String) :
    (s.evalAll lines).length = lines.length := by
  induction lines generalizing s with
  | nil => rfl
  | cons line rest ih => rw [evalAll_cons, List.length_cons, ih, List.length_cons]

/-- **Lines are answered by the session that the lines before them left.** -/
theorem evalAll_append (s : Session) (a b : List String) :
    s.evalAll (a ++ b) = s.evalAll a ++ (s.flipped a).evalAll b := by
  induction a generalizing s with
  | nil => rfl
  | cons line rest ih =>
      rw [List.cons_append, evalAll_cons, evalAll_cons, List.cons_append, ih, eval_session,
        ← flipped_append, List.singleton_append]

/-- Turning twice is turning not at all, so only the parity counts. -/
theorem iterate_eq_of_even_iff {α : Type} {f : α → α} (hf : Function.Involutive f) {m n : Nat}
    (h : Even m ↔ Even n) : f^[m] = f^[n] := by
  by_cases hm : Even m
  · rw [hf.iterate_even hm, hf.iterate_even (h.mp hm)]
  · have hn : ¬ Even n := fun hn => hm (h.mpr hn)
    rw [hf.iterate_odd (Nat.not_even_iff_odd.mp hm), hf.iterate_odd (Nat.not_even_iff_odd.mp hn)]

theorem flipped_congr (s : Session) {a b : List String}
    (htokens : Even (times ":tokens" a) ↔ Even (times ":tokens" b))
    (hjson : Even (times ":json" a) ↔ Even (times ":json" b)) : s.flipped a = s.flipped b := by
  unfold flipped
  rw [iterate_eq_of_even_iff Bool.involutive_not htokens,
    iterate_eq_of_even_iff Format.toggle_toggle hjson]

/-! ### Answers of a fresh session -/

/-- An answer comes from the aliases and the two settings. -/
theorem render_congr {s s' : Session} (hinterpreter : s.interpreter = s'.interpreter)
    (htokens : s.settings.showTokens = s'.settings.showTokens)
    (hformat : s.settings.format = s'.settings.format) (line : String) :
    s.render line = s'.render line := by
  simp only [render, renderCommand, tokenRow, parse, hinterpreter, htokens, hformat]

/-- A run over one line writes the answer to it. -/
theorem output_answer_alone (s : Session) {line ending : String}
    (hblank : Text.isBlankText line = false) (hfeed : '\n' ∉ line.toList)
    (hreturn : '\r' ∉ line.toList) (hending : ending ∈ ["", "\n", "\r\n"])
    (refusal : Option String) :
    (s.answer { refusesFlushes := refusal } (Text.encode (line ++ ending))).output
      = s.render line ++ "\n" := by
  have hne : line.toList ≠ [] := by
    intro hnil
    simp [Text.isBlankText, hnil] at hblank
  have hasked : asked (line ++ ending) = [line] := by
    rw [asked, Text.lines_alone hfeed hreturn hne hending]
    simp [hblank]
  rw [output_answer rfl, transcript, hasked]
  simp

/-- A session that has answered nothing yet, with the aliases and the two settings of
another. -/
def fresh (s : Session) (prompt : String) (showBanner : Bool) : Session :=
  ofOverlay ⟨prompt, showBanner, s.settings.showTokens, s.settings.format⟩ s.interpreter.overlay

theorem render_fresh (s : Session) (prompt : String) (showBanner : Bool) (line : String) :
    s.render line = (s.fresh prompt showBanner).render line :=
  render_congr rfl rfl rfl line

/-- **What came before counts by two parities.**  The session that answers a line is the one at
the start with each of the two settings turned once for each line before that asks for it, and
nothing else of it changed, so any lines with these numbers even or odd alike leave the same
session.  A line that is not about the session gets the answer of a fresh session with the
same aliases and these settings, and a run of the fresh session over this line alone writes
that answer. -/
theorem answers_by_parities (s : Session) (before : List String) (line : String)
    (rest : List String) :
    (s.evalAll (before ++ line :: rest))[before.length]? = some ((s.flipped before).eval line) ∧
      (∀ other : List String,
        (Even (times ":tokens" other) ↔ Even (times ":tokens" before)) →
        (Even (times ":json" other) ↔ Even (times ":json" before)) →
          s.flipped other = s.flipped before) ∧
      (isMeta line = false → ∀ prompt showBanner,
        let fresh := (s.flipped before).fresh prompt showBanner
        ((s.flipped before).eval line).1.text = fresh.render line ∧
          (Text.isBlankText line = false → '\n' ∉ line.toList → '\r' ∉ line.toList →
            ∀ ending ∈ ["", "\n", "\r\n"], ∀ refusal,
              (fresh.answer { refusesFlushes := refusal } (Text.encode (line ++ ending))).output
                = ((s.flipped before).eval line).1.text ++ "\n")) := by
  refine ⟨?_, fun other => flipped_congr s, ?_⟩
  · have hlength := length_evalAll s before
    rw [evalAll_append, List.getElem?_append_right (Nat.le_of_eq hlength), hlength, Nat.sub_self,
      evalAll_cons, List.getElem?_cons_zero]
  · intro hmeta prompt showBanner fresh
    have htext : ((s.flipped before).eval line).1.text = fresh.render line := by
      rw [text_eval _ hmeta]
      exact render_fresh _ prompt showBanner line
    refine ⟨htext, ?_⟩
    intro hblank hfeed hreturn ending hending refusal
    rw [htext]
    exact output_answer_alone fresh hblank hfeed hreturn hending refusal

/-- Two of the lines turn the row of tokens on and off again, one turns JSON on, and the others
only look like it. -/
theorem answers_by_parities_nord :
    let s : Session :=
      .ofOverlay { showTokens := true } (.ofPairs [("nord", .direction .north)])
    let before := [" :tokens", ":tokens on", "quit", ":json\t", ":JSON", ":tokens"]
    let answer :=
      "N(nord)@1 EOL@5\n\x7b\"action\":\"Go\",\"argument\":\"nord\",\"target\":\"nord\"," ++
      "\"preposition\":null,\"object\":null,\"error\":null\x7d"
    s.flipped [":json"] = s.flipped before ∧ isMeta " nord" = false ∧
      Text.isBlankText " nord" = false ∧
      ((s.evalAll (before ++ [" nord"]))[before.length]?).map (fun r => r.1.text) = some answer ∧
      (((s.flipped before).fresh "? " false).answer {} (Text.encode (" nord" ++ "\r\n"))).output
        = answer ++ "\n" := by
  intro s before answer
  have hmeta : isMeta " nord" = false := by decide +kernel
  have hblank : Text.isBlankText " nord" = false := by decide +kernel
  obtain ⟨hanswer, hparities, hfresh⟩ := answers_by_parities s before " nord" []
  obtain ⟨htext, hrun⟩ := hfresh hmeta "? " false
  have hvalue : ((s.flipped before).eval " nord").1.text = answer := by decide +kernel
  refine ⟨hparities [":json"] (by decide +kernel) (by decide +kernel), hmeta, hblank, ?_, ?_⟩
  · rw [hanswer, Option.map_some, hvalue]
  · rw [← hvalue]
    exact hrun hblank (by decide) (by decide) "\r\n" (by decide) none

end Session

end Adventure
