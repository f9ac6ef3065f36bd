/-
How far a conversation goes, and what it leaves behind.

A conversation reads on until a reading ends it: the end of the script, a reading that fails,
or a line that quits.  Whether a line quits does not depend on what was said before it, since
no line changes the aliases.  So the readings that a conversation takes can be told from the
script alone, and `Accounts` says what its transcript has to show for them.

A conversation is a recursion over its script, so it comes to an end, and one induction over
the script says where.  A reading that does not end the conversation is put in front of what
the rest leads to, with the session as the line leaves it; a reading that ends it leaves the
rest of the script unread.
-/
import Adventure.Proofs.Exchange

namespace Adventure

namespace Reply

/-- Whether the conversation ends with this answer. -/
def isQuit : Reply → Bool
  | goOn _ => false
  | quit _ => true

/-- What is printed of an answer: a quit without words prints nothing. -/
def printed : Reply → String
  | goOn text => text ++ "\n"
  | quit text => if text.isEmpty then "" else text ++ "\n"

end Reply

namespace Input

/-- The line of a reading, unless it is blank. -/
def heard? : Input → Option String
  | line text => if Text.isBlankText text then none else some text
  | _ => none

/-- Why a reading failed. -/
def failure? : Input → Option Failure
  | failure f => some f
  | _ => none

/-- Whether nothing was said. -/
def isIdle : Input → Bool
  | line text => Text.isBlankText text
  | interrupt => true
  | _ => false

end Input

namespace Transcript

/-- Transcripts that differ in their prompts at most. -/
structure Agrees (t u : Transcript) : Prop where
  result : t.result = u.result
  history : t.history = u.history
  output : t.output = u.output

variable {t u : Transcript}

theorem Agrees.refl (t : Transcript) : t.Agrees t :=
  ⟨rfl, rfl, rfl⟩

/-- One prompt more or less makes no difference. -/
theorem Agrees.under {prompt : String} (h : t.Agrees u) : t.Agrees (.prompted prompt u) :=
  ⟨h.result, h.history, h.output⟩

theorem Agrees.prompted {prompt : String} (h : t.Agrees u) :
    (Transcript.prompted prompt t).Agrees (.prompted prompt u) :=
  ⟨h.result, h.history, h.output⟩

theorem Agrees.heard {line printed : String} (h : t.Agrees u) :
    (Transcript.heard line printed t).Agrees (.heard line printed u) :=
  ⟨h.result, congrArg (List.cons line) h.history, congrArg (printed ++ ·) h.output⟩

end Transcript

namespace Session

/-- Whether a line ends the conversation, if it is not blank. -/
def quits (s : Session) (line : String) : Bool :=
  Text.trim line == ":quit" || Text.trim line == ":q" ||
    !isMeta line && (s.parse line).action == .perform .quit

/-- Whether a reading ends the conversation. -/
def endsWith (s : Session) : Input → Bool
  | .line text => !Text.isBlankText text && s.quits text
  | .interrupt => false
  | .eof => true
  | .failure _ => true

/-- The welcome, if there is one. -/
def welcome (s : Session) : String :=
  if s.settings.showBanner then banner else ""

/-! ### One reading -/

theorem isQuit_evalMeta (s : Session) (command : String) :
    (s.evalMeta command).1.isQuit = (command == ":quit" || command == ":q") := by
  by_cases hquit : command = ":quit" ∨ command = ":q"
  · rcases hquit with rfl | rfl
    · rfl
    · rfl
  · have hfalse : (command == ":quit" || command == ":q") = false := by simpa using hquit
    unfold evalMeta
    rw [hfalse, if_neg hquit]
    split_ifs
    all_goals rfl

/-- **A line gets a last answer exactly if it quits.** -/
theorem isQuit_eval (s : Session) (line : String) : (s.eval line).1.isQuit = s.quits line := by
  cases hmeta : isMeta line with
  | true =>
      have heval : s.eval line = s.evalMeta (Text.trim line) := by
        rw [eval, if_pos hmeta]
      rw [heval, isQuit_evalMeta, quits, hmeta]
      simp
  | false =>
      have hquit : Text.trim line ≠ ":quit" := trim_ne_of_not_isMeta hmeta rfl
      have hq : Text.trim line ≠ ":q" := trim_ne_of_not_isMeta hmeta rfl
      rw [eval_of_not_isMeta s hmeta]
      by_cases hparse : (s.parse line).action = .perform .quit
      · simp [quits, hmeta, hparse, Reply.isQuit]
      · simp [quits, hmeta, hparse, hquit, hq, Reply.isQuit]

/-- No line changes which readings end the conversation. -/
theorem endsWith_flipped (s : Session) (lines : List String) :
    (s.flipped lines).endsWith = s.endsWith := by
  funext i
  cases i with
  | line text => rfl
  | interrupt => rfl
  | eof => rfl
  | failure f => rfl

theorem converse_blank (s : Session) {line : String} (h : Text.isBlankText line = true)
    (rest : List Input) :
    s.converse (.line line :: rest) = .prompted s.settings.prompt (s.converse rest) := by
  rw [converse, if_pos h]

/-- A line that is not blank is remembered and answered, and ends the conversation if it
quits. -/
theorem converse_line (s : Session) {line : String} (h : Text.isBlankText line = false)
    (rest : List Input) :
    s.converse (.line line :: rest) = .prompted s.settings.prompt
      (.heard line (s.eval line).1.printed
        (if s.quits line then .farewell else (s.flipped [line]).converse rest)) := by
  rw [converse, if_neg (by simp [h]), ← isQuit_eval, ← eval_session]
  cases s.eval line with
  | mk reply s' =>
      cases reply with
      | goOn text => rfl
      | quit text => rfl

/-! ### A whole conversation -/

/-- What a transcript shows for readings, of which the last one ended the conversation. -/
structure Accounts (s : Session) (welcome : String) (reads : List Input) (last : Input)
    (t : Transcript) : Prop where
  /-- One prompt for each reading, and always the same. -/
  prompts : t.prompts = List.replicate (reads ++ [last]).length s.settings.prompt
  /-- All lines that are not blank, as they were typed. -/
  history : t.history = (reads ++ [last]).filterMap Input.heard?
  /-- The welcome, the answers to these lines, and a farewell unless a reading failed. -/
  output : t.output = welcome ++ String.join ((s.evalAll t.history).map fun r => r.1.printed) ++
    if last.failure?.isSome then "" else "\nGoodbye!\n"
  /-- A failure if a reading failed, and then that one. -/
  result : t.result = match last.failure? with
    | some f => .error f
    | none => .ok ()

/-- The readings that a conversation takes from a script, with the one that ends it. -/
structure Takes (s : Session) (script reads : List Input) (last : Input) : Prop where
  /-- They are read in order, and behind the script is the end. -/
  reading : reads ++ [last] <+: script ++ [.eof]
  /-- None before the last ends the conversation. -/
  going : ∀ i ∈ reads, s.endsWith i = false
  /-- The last one does. -/
  ended : s.endsWith last = true

variable {s : Session} {reads script : List Input} {i last : Input} {t : Transcript}

theorem Takes.one (h : s.endsWith i = true) : s.Takes (i :: script) [] i where
  reading := List.cons_prefix_cons.mpr ⟨rfl, List.nil_prefix⟩
  going := by simp
  ended := h

theorem Takes.more (h : s.endsWith i = false) (ht : s.Takes script reads last) :
    s.Takes (i :: script) (i :: reads) last where
  reading := List.cons_prefix_cons.mpr ⟨rfl, ht.reading⟩
  going := List.forall_mem_cons.mpr ⟨h, ht.going⟩
  ended := ht.ended

/-- What is said in a conversation does not change how far it goes. -/
theorem Takes.of_flipped {lines : List String} (h : (s.flipped lines).Takes script reads last) :
    s.Takes script reads last := by
  obtain ⟨hreading, hgoing, hended⟩ := h
  rw [endsWith_flipped] at hgoing hended
  exact ⟨hreading, hgoing, hended⟩

theorem accounts_eof (s : Session) :
    s.Accounts "" [] .eof (.prompted s.settings.prompt .farewell) :=
  ⟨rfl, rfl, rfl, rfl⟩

/-- A reading in which nothing is said takes a prompt. -/
theorem Accounts.idle (h : s.Accounts "" reads last t) (hi : i.heard? = none) :
    s.Accounts "" (i :: reads) last (.prompted s.settings.prompt t) where
  prompts := congrArg (List.cons s.settings.prompt) h.prompts
  history := by
    rw [List.cons_append, List.filterMap_cons_none hi]
    exact h.history
  output := h.output
  result := h.result

/-- A line is remembered, and its answer is printed before the answers to the lines behind it,
which the session gives as the line left it. -/
theorem Accounts.heard {line : String} (h : (s.flipped [line]).Accounts "" reads last t)
    (hblank : Text.isBlankText line = false) :
    s.Accounts "" (.line line :: reads) last
      (.prompted s.settings.prompt (.heard line (s.eval line).1.printed t)) where
  prompts := by
    have hprompts := h.prompts
    rw [prompt_flipped] at hprompts
    exact congrArg (List.cons s.settings.prompt) hprompts
  history := by
    have hheard : (Input.line line).heard? = some line := if_neg (by simp [hblank])
    rw [List.cons_append, List.filterMap_cons_some hheard]
    exact congrArg (List.cons line) h.history
  output := by
    have hrest := h.output
    show (s.eval line).1.printed ++ t.output
      = "" ++ String.join ((s.evalAll (line :: t.history)).map fun r => r.1.printed) ++ _
    rw [hrest, evalAll_cons, eval_session, List.map_cons, String.join_cons]
    simp [String.append_assoc]
  result := h.result

theorem accounts_quit {line : String} (hblank : Text.isBlankText line = false) :
    s.Accounts "" [] (.line line)
      (.prompted s.settings.prompt (.heard line (s.eval line).1.printed .farewell)) where
  prompts := rfl
  history := by
    have hheard : (Input.line line).heard? = some line := if_neg (by simp [hblank])
    rw [List.nil_append, List.filterMap_cons_some hheard]
    rfl
  output := by
    show (s.eval line).1.printed ++ "\nGoodbye!\n"
      = "" ++ String.join ((s.evalAll [line]).map fun r => r.1.printed) ++ "\nGoodbye!\n"
    rw [evalAll_cons]
    simp [evalAll]
  result := rfl

theorem accounts_converse (script : List Input) :
    ∀ s : Session, ∃ reads last, s.Takes script reads last ∧
      s.Accounts "" reads last (s.converse script) := by
  induction script with
  | nil =>
      intro s
      exact ⟨[], .eof, ⟨List.prefix_refl _, by simp, rfl⟩, s.accounts_eof⟩
  | cons i script ih =>
      intro s
      cases i with
      | eof => exact ⟨[], .eof, .one rfl, s.accounts_eof⟩
      | failure f => exact ⟨[], .failure f, .one rfl, ⟨rfl, rfl, rfl, rfl⟩⟩
      | interrupt =>
          obtain ⟨reads, last, htakes, haccounts⟩ := ih s
          exact ⟨.interrupt :: reads, last, .more rfl htakes, haccounts.idle rfl⟩
      | line line =>
          cases hblank : Text.isBlankText line with
          | true =>
              obtain ⟨reads, last, htakes, haccounts⟩ := ih s
              have hends : s.endsWith (.line line) = false := by simp [endsWith, hblank]
              rw [converse_blank s hblank]
              exact ⟨.line line :: reads, last, .more hends htakes,
                haccounts.idle (if_pos hblank)⟩
          | false =>
              have hends : s.endsWith (.line line) = s.quits line := by simp [endsWith, hblank]
              rw [converse_line s hblank]
              cases hquits : s.quits line with
              | true =>
                  rw [if_pos rfl]
                  exact ⟨[], .line line, .one (hends.trans hquits), accounts_quit hblank⟩
              | false =>
                  obtain ⟨reads, last, htakes, haccounts⟩ := ih (s.flipped [line])
                  rw [if_neg (by simp)]
                  exact ⟨.line line :: reads, last, .more (hends.trans hquits) htakes.of_flipped,
                    haccounts.heard hblank⟩

theorem run_eq (s : Session) (script : List Input) :
    s.run script =
      { s.converse script with output := s.welcome ++ (s.converse script).output } := by
  unfold run welcome
  cases s.settings.showBanner with
  | true => rfl
  | false => simp

theorem accounts_run (s : Session) (script : List Input) :
    ∃ reads last, s.Takes script reads last ∧
      s.Accounts s.welcome reads last (s.run script) := by
  obtain ⟨reads, last, htakes, haccounts⟩ := accounts_converse script s
  refine ⟨reads, last, htakes, ?_⟩
  rw [run_eq]
  refine ⟨haccounts.prompts, haccounts.history, ?_, haccounts.result⟩
  show s.welcome ++ (s.converse script).output = s.welcome ++ _ ++ _
  rw [haccounts.output]
  simp [String.append_assoc]

/-! ### Readings in which nothing is said -/

/-- A script without its interrupts and its blank lines says the same. -/
theorem agrees_converse (script : List Input) :
    ∀ s : Session,
      (s.converse (script.filter fun i => !i.isIdle)).Agrees (s.converse script) := by
  induction script with
  | nil => exact fun s => .refl _
  | cons i script ih =>
      intro s
      by_cases hidle : i.isIdle = true
      · rw [List.filter_cons_of_neg (by simp [hidle])]
        cases i with
        | eof => exact Bool.noConfusion hidle
        | failure f => exact Bool.noConfusion hidle
        | interrupt => exact (ih s).under
        | line line =>
            rw [converse_blank s hidle]
            exact (ih s).under
      · rw [List.filter_cons_of_pos (by simp [hidle])]
        cases i with
        | eof => exact .refl _
        | failure f => exact .refl _
        | interrupt => exact absurd rfl hidle
        | line line =>
            have hblank : Text.isBlankText line = false := Bool.eq_false_iff.mpr hidle
            rw [converse_line s hblank, converse_line s hblank]
            refine .prompted (.heard ?_)
            cases s.quits line with
            | true => exact .refl _
            | false => exact ih (s.flipped [line])

end Session

/-- **A conversation is its script.**  It takes the readings up to the first that is the end, a
failure or a line that quits, and its transcript shows for each of them what it should: a
prompt for every reading, the lines that are not blank and their answers in order, and at the
end a farewell or the failure.  Interrupts and blank lines take a prompt each and do nothing
else. -/
theorem conversation_accounted (s : Session) (script : List Input) :
    (∃ reads last, s.Takes script reads last ∧
      s.Accounts s.welcome reads last (s.run script)) ∧
      (s.run (script.filter fun i => !i.isIdle)).Agrees (s.run script) := by
  have hagrees := s.agrees_converse script
  refine ⟨s.accounts_run script, ?_⟩
  rw [s.run_eq, s.run_eq]
  exact ⟨hagrees.result, hagrees.history, congrArg (s.welcome ++ ·) hagrees.output⟩

end Adventure
