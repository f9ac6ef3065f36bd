/-
What the rules of the verbs do with the words after a verb.

Each rule is a few lines, but they share a step and drop words before it, so a column in
an error has come a long way from the token it belongs to.  `Divided` says once, for all
words, what the shared step can answer.  On top of it, `Breaks` lists every way in which
words can break the rule of their verb together with the token that is blamed for it, and
`Keeps` lists what a rule promises of a phrase that it lets through.  The rules are opened
here and nowhere else.
-/
import Adventure.Node
import Mathlib.Data.List.TakeWhile

namespace Adventure

/-! ### Dividing words at a preposition -/

/-- What can come of dividing words: nothing to divide, a preposition with words on both
sides, or one that lacks them. -/
inductive Divided (args : List Token) : Except Objection Phrase → Prop
  | whole (hplain : ∀ t ∈ args, t.kind.isSplitting = false) :
      Divided args (.ok (.ofTarget (Token.join args)))
  | parts {before after : List Token} {p : Token} (hargs : args = before ++ p :: after)
      (hplain : ∀ t ∈ before, t.kind.isSplitting = false) (hp : p.kind.isSplitting = true)
      (hbefore : before ≠ []) (hafter : after ≠ []) :
      Divided args (.ok ⟨Token.join args, Token.join before, some (Text.lower p.lexeme),
        some (Token.join after)⟩)
  | noTarget {after : List Token} {p : Token} (hargs : args = p :: after)
      (hp : p.kind.isSplitting = true) :
      Divided args (.error ⟨.noTargetBefore (Text.lower p.lexeme), p.column⟩)
  | noObject {before : List Token} {p : Token} (hargs : args = before ++ [p])
      (hplain : ∀ t ∈ before, t.kind.isSplitting = false) (hp : p.kind.isSplitting = true)
      (hbefore : before ≠ []) :
      Divided args (.error ⟨.noObjectAfter (Text.lower p.lexeme), p.column⟩)

theorem isSplitting_of_dropWhile {args after : List Token} {p : Token}
    (h : (args.dropWhile fun t => !t.kind.isSplitting) = p :: after) :
    p.kind.isSplitting = true := by
  have hhead := List.head?_dropWhile_not (fun t : Token => !t.kind.isSplitting) args
  rw [h] at hhead
  simpa using hhead

/-- **Words are divided at their first splitting preposition.** -/
theorem divided_split (args : List Token) : Divided args (Phrase.split args) := by
  have hargs := List.takeWhile_append_dropWhile (p := fun t : Token => !t.kind.isSplitting)
    (l := args)
  have hplain : ∀ t ∈ args.takeWhile fun t => !t.kind.isSplitting,
      t.kind.isSplitting = false := by
    intro t ht
    simpa using List.mem_takeWhile_imp ht
  unfold Phrase.split
  cases hdrop : args.dropWhile fun t => !t.kind.isSplitting with
  | nil =>
      refine .whole fun t ht => ?_
      simpa using List.dropWhile_eq_nil_iff.mp hdrop t ht
  | cons p after =>
      have hp := isSplitting_of_dropWhile hdrop
      rw [hdrop] at hargs
      simp only [List.isEmpty_iff]
      by_cases hbefore : (args.takeWhile fun t => !t.kind.isSplitting) = []
      · rw [if_pos hbefore]
        rw [hbefore, List.nil_append] at hargs
        exact .noTarget hargs.symm hp
      rw [if_neg hbefore]
      by_cases hafter : after = []
      · rw [if_pos hafter]
        rw [hafter] at hargs
        exact .noObject hargs.symm hplain hp hbefore
      · rw [if_neg hafter]
        exact .parts hargs.symm hplain hp hbefore hafter

namespace Ruling

theorem bind_eq_ok {α β : Type} {x : Except Objection α} {f : α → Except Objection β} {b : β}
    (h : x >>= f = .ok b) : ∃ a, x = .ok a ∧ f a = .ok b := by
  cases x with
  | error e => exact nomatch h
  | ok a => exact ⟨a, rfl, h⟩

theorem bind_eq_error {α β : Type} {x : Except Objection α} {f : α → Except Objection β}
    {e : Objection} (h : x >>= f = .error e) : x = .error e ∨ ∃ a, x = .ok a ∧ f a = .error e := by
  cases x with
  | error e' =>
      obtain rfl : e' = e := Except.error.inj h
      exact Or.inl rfl
  | ok a => exact Or.inr ⟨a, rfl, h⟩

/-- Words that are divided and then checked are let through if both go well. -/
theorem checked_eq_ok_iff {x : Except Objection Phrase} {blank : Phrase → Bool} {e : Objection}
    {f : Phrase → Verb × Phrase} {r : Verb × Phrase} :
    (do
      let phrase ← x
      if blank phrase then
        throw e
      return f phrase : Ruling) = .ok r ↔
      ∃ phrase, x = .ok phrase ∧ blank phrase = false ∧ f phrase = r := by
  constructor
  · intro h
    obtain ⟨phrase, hx, hreturn⟩ := bind_eq_ok h
    cases hblank : blank phrase with
    | true =>
        rw [if_pos hblank] at hreturn
        exact nomatch hreturn
    | false =>
        rw [if_neg (by simp [hblank])] at hreturn
        exact ⟨phrase, hx, hblank, Except.ok.inj hreturn⟩
  · rintro ⟨phrase, rfl, hblank, rfl⟩
    show (if blank phrase = true then _ else _) = _
    rw [if_neg (by simp [hblank])]
    rfl

/-! ### Ways to break a rule -/

/-- The words that a rule divides: moving and talking drop the leading `to`s. -/
def divided (k : Verb) (args : List Token) : List Token :=
  match k with
  | .go | .talk => args.dropWhile (·.kind == .to_)
  | _ => args

/-- The first word that a verb does not allow behind it. -/
def refused? (k : Verb) (args : List Token) : Option Token :=
  if k.standsAlone then args.head?
  else if k = .flee then args.find? fun t => t.kind != .away
  else none

/-- A complaint about words that break the rule of their verb, and the token to blame. -/
inductive Breaks (k : Verb) (verb : Token) (args : List Token) : Complaint → Token → Prop
  | goWhere (hk : k = .go) : Breaks k verb args .goWhere verb
  | talkToWhom (hk : k = .talk) : Breaks k verb args .talkToWhom verb
  | refused {t : Token} (ht : refused? k args = some t) :
      Breaks k verb args (.unexpectedAfter (Text.lower verb.lexeme)) t
  | dangling {t : Token} (hk : k = .go) (hargs : ∀ a ∈ args, a.kind = .to_)
      (ht : args.getLast? = some t) :
      Breaks k verb args (.noDestinationAfter (Text.lower t.lexeme)) t
  | noTarget {after : List Token} {p : Token} (hwords : divided k args = p :: after)
      (hp : p.kind.isSplitting = true) :
      Breaks k verb args (.noTargetBefore (Text.lower p.lexeme)) p
  | noObject {before : List Token} {p : Token} (hwords : divided k args = before ++ [p])
      (hplain : ∀ t ∈ before, t.kind.isSplitting = false) (hp : p.kind.isSplitting = true)
      (hbefore : before ≠ []) :
      Breaks k verb args (.noObjectAfter (Text.lower p.lexeme)) p

/-- An objection to words that break their verb's rule, with the column of the token to
blame. -/
def Blames (k : Verb) (verb : Token) (args : List Token) (e : Objection) : Prop :=
  ∃ t, Breaks k verb args e.complaint t ∧ e.column = t.column

variable {k : Verb} {verb : Token} {args : List Token} {e : Objection}

/-! ### Moving

The rule with the most ways out.  `Moved` goes through them in the order of the rule.
-/

/-- Where a movement leads: a direction wins over the target of the phrase. -/
def destination (args : List Token) (phrase : Phrase) : String :=
  match args.find? (·.kind.isDirection) with
  | some direction => direction.lexeme
  | none => phrase.target

/-- What can come of a movement. -/
inductive Moved (verb : Token) (args : List Token) : Ruling → Prop
  | flees (hrun : Text.sameIgnoringCase verb.lexeme "run" = true)
      (haway : ∀ t ∈ args, t.kind = .away) :
      Moved verb args (.ok (.flee, { raw := Token.join args }))
  | dangling {t : Token} (hto : ∀ a ∈ args, a.kind = .to_) (ht : args.getLast? = some t) :
      Moved verb args (.error ⟨.noDestinationAfter (Text.lower t.lexeme), t.column⟩)
  | broken {e : Objection} (hsplit : Phrase.split (divided .go args) = .error e) :
      Moved verb args (.error e)
  | nowhere {phrase : Phrase} (hsplit : Phrase.split (divided .go args) = .ok phrase)
      (hblank : Text.isBlankText (destination args phrase) = true) :
      Moved verb args (.error ⟨.goWhere, verb.column⟩)
  | goes {phrase : Phrase} (hsplit : Phrase.split (divided .go args) = .ok phrase)
      (hblank : Text.isBlankText (destination args phrase) = false) :
      Moved verb args
        (.ok (.go, { phrase with raw := Token.join args, target := destination args phrase }))

theorem flee_of_away (haway : ∀ t ∈ args, t.kind = .away) :
    flee verb args = .ok (.flee, { raw := Token.join args }) := by
  have hnone : (args.find? fun t => t.kind != .away) = none := by
    rw [List.find?_eq_none]
    intro t ht
    simp [haway t ht]
  rw [flee, hnone]

/-- The second half of the rule: words behind the leading `to`s are divided, and what comes
of them must lead somewhere. -/
def goTo (verb : Token) (args rest : List Token) : Ruling := do
  let phrase ← Phrase.split rest
  if Text.isBlankText (destination args phrase) then
    throw ⟨.goWhere, verb.column⟩
  return (.go, { phrase with raw := Token.join args, target := destination args phrase })

theorem goTo_eq_ok_iff {rest : List Token} {r : Verb × Phrase} :
    goTo verb args rest = .ok r ↔
      ∃ phrase, Phrase.split rest = .ok phrase ∧
        Text.isBlankText (destination args phrase) = false ∧
        (.go, { phrase with raw := Token.join args, target := destination args phrase }) = r :=
  checked_eq_ok_iff

theorem talk_eq_ok_iff {r : Verb × Phrase} :
    talk verb args = .ok r ↔
      ∃ phrase, Phrase.split (args.dropWhile (·.kind == .to_)) = .ok phrase ∧
        Text.isBlankText phrase.target = false ∧
        (.talk, { phrase with raw := Token.join args }) = r :=
  checked_eq_ok_iff

theorem move_eq (verb : Token) (args : List Token) :
    move verb args =
      if Text.sameIgnoringCase verb.lexeme "run" && args.all (·.kind == .away) then
        flee verb args
      else
        match args.dropWhile (·.kind == .to_),
          (args.takeWhile (·.kind == .to_)).getLast? with
        | [], some to_ => .error ⟨.noDestinationAfter (Text.lower to_.lexeme), to_.column⟩
        | rest, _ => goTo verb args rest :=
  rfl

theorem moved_goTo (verb : Token) (args : List Token) :
    Moved verb args (goTo verb args (divided .go args)) := by
  unfold goTo
  cases hsplit : Phrase.split (divided .go args) with
  | error e => exact .broken hsplit
  | ok phrase =>
      cases hblank : Text.isBlankText (destination args phrase) with
      | true =>
          simp only [bind, Except.bind, hblank, if_true]
          exact .nowhere hsplit hblank
      | false =>
          simp only [bind, Except.bind, hblank, Bool.false_eq_true, if_false]
          exact .goes hsplit hblank

theorem moved_move (verb : Token) (args : List Token) : Moved verb args (move verb args) := by
  rw [move_eq]
  split
  · rename_i hrun
    simp only [Bool.and_eq_true, List.all_eq_true, beq_iff_eq] at hrun
    rw [flee_of_away hrun.2]
    exact .flees hrun.1 hrun.2
  · split
    · rename_i to_ hdrop hlast
      -- Nothing is left behind the leading `to`s, so they are all there is.
      have hto : ∀ a ∈ args, a.kind = .to_ := by
        intro a ha
        simpa using List.dropWhile_eq_nil_iff.mp hdrop a ha
      have htake : args.takeWhile (·.kind == .to_) = args :=
        List.takeWhile_eq_self_iff.mpr fun a ha => by simp [hto a ha]
      rw [htake] at hlast
      exact .dangling hto hlast
    · exact moved_goTo verb args

/-! ### Every error blames a token -/

theorem blames_of_split (h : Phrase.split (divided k args) = .error e) :
    Blames k verb args e := by
  have hdivided := divided_split (divided k args)
  rw [h] at hdivided
  cases hdivided with
  | noTarget hwords hp => exact ⟨_, .noTarget hwords hp, rfl⟩
  | noObject hwords hplain hp hbefore => exact ⟨_, .noObject hwords hplain hp hbefore, rfl⟩

theorem blames_alone (hk : k.standsAlone = true) (h : alone k verb args = .error e) :
    Blames k verb args e := by
  cases args with
  | nil => simp [alone] at h
  | cons extra rest =>
      obtain rfl := Except.error.inj h
      exact ⟨extra, .refused (by rw [refused?, if_pos hk]; rfl), rfl⟩

theorem blames_flee (h : flee verb args = .error e) : Blames .flee verb args e := by
  unfold flee at h
  split at h
  · rename_i extra hextra
    obtain rfl := Except.error.inj h
    exact ⟨extra, .refused hextra, rfl⟩
  · simp at h

theorem blames_move (h : move verb args = .error e) : Blames .go verb args e := by
  have hmoved := moved_move verb args
  rw [h] at hmoved
  cases hmoved with
  | dangling hto ht => exact ⟨_, .dangling rfl hto ht, rfl⟩
  | broken hsplit => exact blames_of_split hsplit
  | nowhere hsplit hblank => exact ⟨verb, .goWhere rfl, rfl⟩

theorem blames_look (h : look args = .error e) : Blames .look verb args e := by
  rcases bind_eq_error h with hsplit | ⟨phrase, -, hreturn⟩
  · exact blames_of_split hsplit
  · cases args with
    | nil => exact nomatch hreturn
    | cons first rest => exact nomatch hreturn

theorem blames_talk (h : talk verb args = .error e) : Blames .talk verb args e := by
  rcases bind_eq_error h with hsplit | ⟨phrase, -, hreturn⟩
  · exact blames_of_split hsplit
  · by_cases hblank : Text.isBlankText phrase.target = true
    · rw [if_pos hblank] at hreturn
      obtain rfl := Except.error.inj hreturn
      exact ⟨verb, .talkToWhom rfl, rfl⟩
    · rw [if_neg hblank] at hreturn
      exact nomatch hreturn

theorem blames_plain (hk : divided k args = args)
    (h : (do return (k, ← Phrase.split args) : Ruling) = .error e) : Blames k verb args e := by
  rcases bind_eq_error h with hsplit | ⟨phrase, -, hreturn⟩
  · rw [← hk] at hsplit
    exact blames_of_split hsplit
  · exact nomatch hreturn

/-- **Every error of every rule blames a token for a broken rule.** -/
theorem blames_ofVerb (h : ofVerb k verb args = .error e) : Blames k verb args e := by
  cases k with
  | go => exact blames_move h
  | look => exact blames_look h
  | flee => exact blames_flee h
  | talk => exact blames_talk h
  | help | listen | inventory | quit => exact blames_alone rfl h
  | _ => exact blames_plain rfl h

theorem mem_of_refused? {t : Token} (h : refused? k args = some t) : t ∈ args := by
  unfold refused? at h
  split at h
  · exact List.mem_of_head? h
  · split at h
    · exact List.mem_of_find?_eq_some h
    · simp at h

theorem divided_sublist (k : Verb) (args : List Token) : (divided k args).Sublist args := by
  unfold divided
  split
  · exact List.dropWhile_sublist _
  · exact List.dropWhile_sublist _
  · exact List.Sublist.refl _

/-- The blame falls on the verb or on a word behind it. -/
theorem Breaks.mem {c : Complaint} {t : Token} (h : Breaks k verb args c t) :
    t ∈ verb :: args := by
  cases h with
  | goWhere hk => simp
  | talkToWhom hk => simp
  | refused ht => exact List.mem_cons_of_mem _ (mem_of_refused? ht)
  | dangling hk hargs ht => exact List.mem_cons_of_mem _ (List.mem_of_getLast? ht)
  | noTarget hwords hp =>
      refine List.mem_cons_of_mem _ ((divided_sublist k args).subset ?_)
      rw [hwords]
      simp
  | noObject hwords hplain hp hbefore =>
      refine List.mem_cons_of_mem _ ((divided_sublist k args).subset ?_)
      rw [hwords]
      simp

/-! ### What a phrase that is let through is like -/

/-- What a verb that is performed promises of its phrase. -/
structure Keeps (k : Verb) (args : List Token) (phrase : Phrase) : Prop where
  /-- A preposition comes with an object. -/
  paired : phrase.preposition.isSome = phrase.object.isSome
  /-- One goes somewhere and talks to somebody. -/
  somewhere : k = .go ∨ k = .talk → Text.isBlankText phrase.target = false
  /-- A verb that stands alone has no phrase. -/
  empty : k.standsAlone = true → phrase = {}
  /-- One flees away or just flees. -/
  away : k = .flee → (∀ t ∈ args, t.kind = .away) ∧ phrase = { raw := Token.join args }

theorem paired_of_split {phrase : Phrase} (h : Phrase.split args = .ok phrase) :
    phrase.preposition.isSome = phrase.object.isSome := by
  have hdivided := divided_split args
  rw [h] at hdivided
  cases hdivided with
  | whole hplain => rfl
  | parts hargs hplain hp hbefore hafter => rfl

variable {k' : Verb} {phrase : Phrase}

theorem raw_of_split (h : Phrase.split args = .ok phrase) : phrase.raw = Token.join args := by
  have hdivided := divided_split args
  rw [h] at hdivided
  cases hdivided with
  | whole hplain => rfl
  | parts hargs hplain hp hbefore hafter => rfl

theorem keeps_flee (haway : ∀ t ∈ args, t.kind = .away) :
    Keeps .flee args { raw := Token.join args } where
  paired := rfl
  somewhere := by simp
  empty := by simp [Verb.standsAlone]
  away := fun _ => ⟨haway, rfl⟩

/-- The other verbs promise no more than what dividing words gives. -/
theorem keeps_plain (hsplit : Phrase.split args = .ok phrase) (hgo : k ≠ .go) (htalk : k ≠ .talk)
    (hflee : k ≠ .flee) (halone : k.standsAlone = false) : Keeps k args phrase where
  paired := paired_of_split hsplit
  somewhere := by simp [hgo, htalk]
  empty := by simp [halone]
  away := by simp [hflee]

theorem keeps_of_alone (hk : k.standsAlone = true) (h : alone k verb args = .ok (k', phrase)) :
    Keeps k' args phrase := by
  cases args with
  | cons extra rest => simp [alone] at h
  | nil =>
      simp only [alone, Except.ok.injEq, Prod.mk.injEq] at h
      obtain ⟨rfl, rfl⟩ := h
      refine ⟨rfl, ?_, fun _ => rfl, ?_⟩
      · rintro (rfl | rfl) <;> exact Bool.noConfusion hk
      · rintro rfl
        exact Bool.noConfusion hk

theorem keeps_of_flee (h : flee verb args = .ok (k', phrase)) : Keeps k' args phrase := by
  unfold flee at h
  split at h
  · simp at h
  · rename_i hnone
    have haway : ∀ t ∈ args, t.kind = .away := by
      intro t ht
      simpa using List.find?_eq_none.mp hnone t ht
    simp only [Except.ok.injEq, Prod.mk.injEq] at h
    obtain ⟨rfl, rfl⟩ := h
    exact keeps_flee haway

theorem keeps_of_move (h : move verb args = .ok (k', phrase)) : Keeps k' args phrase := by
  have hmoved := moved_move verb args
  rw [h] at hmoved
  cases hmoved with
  | flees hrun haway => exact keeps_flee haway
  | goes hsplit hblank =>
      have hpaired := paired_of_split hsplit
      exact ⟨hpaired, fun _ => hblank, by simp [Verb.standsAlone], by simp⟩

theorem keeps_of_look (h : look args = .ok (k', phrase)) : Keeps k' args phrase := by
  obtain ⟨split, hsplit, hreturn⟩ := bind_eq_ok h
  cases args with
  | nil =>
      obtain ⟨rfl, rfl⟩ := Prod.mk.inj (Except.ok.inj hreturn)
      exact keeps_plain hsplit (by simp) (by simp) (by simp) rfl
  | cons first rest =>
      obtain ⟨rfl, rfl⟩ := Prod.mk.inj (Except.ok.inj hreturn)
      cases isAround first with
      | true => exact ⟨rfl, by simp, fun _ => rfl, by simp⟩
      | false => exact keeps_plain hsplit (by simp) (by simp) (by simp) rfl

theorem keeps_of_talk (h : talk verb args = .ok (k', phrase)) : Keeps k' args phrase := by
  obtain ⟨split, hsplit, hblank, hreturn⟩ := talk_eq_ok_iff.mp h
  obtain ⟨rfl, rfl⟩ := Prod.mk.inj hreturn
  have hpaired := paired_of_split hsplit
  exact ⟨hpaired, fun _ => hblank, by simp [Verb.standsAlone], by simp⟩

theorem keeps_of_plain (hgo : k ≠ .go) (htalk : k ≠ .talk) (hflee : k ≠ .flee)
    (halone : k.standsAlone = false)
    (h : (do return (k, ← Phrase.split args) : Ruling) = .ok (k', phrase)) :
    Keeps k' args phrase := by
  obtain ⟨split, hsplit, hreturn⟩ := bind_eq_ok h
  obtain ⟨rfl, rfl⟩ := Prod.mk.inj (Except.ok.inj hreturn)
  exact keeps_plain hsplit hgo htalk hflee halone

/-- **Every phrase that a rule lets through keeps what its verb promises.** -/
theorem keeps_ofVerb (h : ofVerb k verb args = .ok (k', phrase)) : Keeps k' args phrase := by
  cases k with
  | go => exact keeps_of_move h
  | look => exact keeps_of_look h
  | flee => exact keeps_of_flee h
  | talk => exact keeps_of_talk h
  | help | listen | inventory | quit => exact keeps_of_alone rfl h
  | _ => exact keeps_of_plain (by simp) (by simp) (by simp) rfl h

end Ruling

end Adventure
