/-
Which way a movement goes.

Moving has more ways out than any other rule, and on rare words several of them are open at
once: to run away north, to go to an empty text in quotes, to run to nowhere at all.  The rule
spreads the choice over checks inside of checks.  Here it is one list: each `Way` has a
condition that is read off the words alone, the ways stand in the order in which they win, and
a movement takes the first one that is open.

One way is not the rule's own doing.  A direction that is found is never too blank to go to,
because a direction is a word, and that is known only of tokens which come from a line.
-/
import Adventure.Proofs.Line

namespace Adventure

/-- The ways a movement can go, each before those that it wins over. -/
inductive Way where
  /-- To run, or to run away, is to flee. -/
  | flees
  /-- There are `to`s and nothing else. -/
  | dangling
  /-- Nothing stands before the preposition. -/
  | noTarget
  /-- Nothing stands after the preposition. -/
  | noObject
  /-- A direction is there. -/
  | heads
  /-- There is no place to go to. -/
  | nowhere
  /-- There is one. -/
  | goes
  deriving DecidableEq, Repr

namespace Way

/-- All ways, in their order. -/
def all : List Way :=
  [flees, dangling, noTarget, noObject, heads, nowhere, goes]

/-- The words behind the leading `to`s. -/
def behindTo (args : List Token) : List Token :=
  args.dropWhile (·.kind == .to_)

/-- The first splitting preposition behind the leading `to`s. -/
def preposition? (args : List Token) : Option Token :=
  (behindTo args).find? (·.kind.isSplitting)

/-- How many words stand between the leading `to`s and that preposition. -/
def place? (args : List Token) : Option Nat :=
  (behindTo args).findIdx? (·.kind.isSplitting)

/-- The name of the place to go to: the words before the preposition. -/
def destination (args : List Token) : String :=
  Token.join ((behindTo args).takeWhile fun t => !t.kind.isSplitting)

/-- Whether a way is open to a verb and the words behind it. -/
def isOpen (verb : Token) (args : List Token) : Way → Bool
  | flees => Text.sameIgnoringCase verb.lexeme "run" && args.all (·.kind == .away)
  | dangling => !args.isEmpty && args.all (·.kind == .to_)
  | noTarget => place? args == some 0
  | noObject => place? args == some ((behindTo args).length - 1)
  | heads => args.any (·.kind.isDirection)
  | nowhere => Text.isBlankText (destination args)
  | goes => true

/-- The way that is taken: the first one that is open. -/
def taken (verb : Token) (args : List Token) : Way :=
  (all.find? (isOpen verb args)).getD goes

/-- The phrase of a movement to a target. -/
def phrase (args : List Token) (target : String) : Phrase where
  raw := Token.join args
  target := target
  preposition := (preposition? args).map fun p => Text.lower p.lexeme
  object := (place? args).map fun n => Token.join ((behindTo args).drop (n + 1))

/-- What a line means whose movement takes a way. -/
def Leads (input : String) (verb : Token) (args : List Token) (node : Node) : Way → Prop
  | flees => node = .verb (.perform .flee) { raw := Token.join args }
  | dangling =>
    ∃ t, args.getLast? = some t ∧
      node = .error ⟨"Expected destination after '" ++ Text.lower t.lexeme ++ "'", t.column, input⟩
  | noTarget =>
    ∃ p, preposition? args = some p ∧
      node = .error ⟨"Expected target before '" ++ Text.lower p.lexeme ++ "'", p.column, input⟩
  | noObject =>
    ∃ p, preposition? args = some p ∧
      node = .error ⟨"Expected object after '" ++ Text.lower p.lexeme ++ "'", p.column, input⟩
  | heads =>
    ∃ d, args.find? (·.kind.isDirection) = some d ∧
      node = .verb (.perform .go) (phrase args d.lexeme)
  | nowhere => node = .error ⟨"Go where?", verb.column, input⟩
  | goes => node = .verb (.perform .go) (phrase args (destination args))

variable {input : String} {verb : Token} {args before after : List Token} {p : Token}

/-! ### Where the words are divided -/

section Divided

variable (hargs : behindTo args = before ++ p :: after)
  (hplain : ∀ t ∈ before, t.kind.isSplitting = false) (hp : p.kind.isSplitting = true)

include hargs hplain hp

theorem preposition?_eq : preposition? args = some p := by
  have hnone : before.find? (·.kind.isSplitting) = none := by
    rw [List.find?_eq_none]
    intro t ht
    simp [hplain t ht]
  rw [preposition?, hargs, List.find?_append, hnone]
  simp [hp]

theorem place?_eq : place? args = some before.length := by
  have hnone : before.findIdx? (·.kind.isSplitting) = none := by
    rw [List.findIdx?_eq_none_iff]
    exact hplain
  rw [place?, hargs, List.findIdx?_append, hnone]
  simp [List.findIdx?_cons, hp]

theorem destination_of_divided : destination args = Token.join before := by
  have hall : ∀ t ∈ before, (!t.kind.isSplitting) = true := by
    intro t ht
    simp [hplain t ht]
  rw [destination, hargs, List.takeWhile_append_of_pos hall,
    List.takeWhile_cons_of_neg (by simp [hp]), List.append_nil]

end Divided

section Whole

variable (hplain : ∀ t ∈ behindTo args, t.kind.isSplitting = false)

include hplain

theorem preposition?_of_whole : preposition? args = none := by
  rw [preposition?, List.find?_eq_none]
  intro t ht
  simp [hplain t ht]

theorem place?_of_whole : place? args = none := by
  rw [place?, List.findIdx?_eq_none_iff]
  exact hplain

theorem destination_of_whole : destination args = Token.join (behindTo args) := by
  have hall : (behindTo args).takeWhile (fun t => !t.kind.isSplitting) = behindTo args := by
    rw [List.takeWhile_eq_self_iff]
    intro t ht
    simp [hplain t ht]
  rw [destination, hall]

end Whole

/-! ### The rule takes the first open way -/

/-- An open way is taken if those before it are closed. -/
theorem taken_eq (front : List Way) (way : Way) {back : List Way}
    (hall : all = front ++ way :: back) (hclosed : ∀ w ∈ front, isOpen verb args w = false)
    (hopen : isOpen verb args way = true) :
    taken verb args = way := by
  have hfront : front.find? (isOpen verb args) = none := by
    rw [List.find?_eq_none]
    intro w hw
    simp [hclosed w hw]
  rw [taken, hall, List.find?_append, hfront, List.find?_cons_of_pos hopen]
  rfl

theorem forall_closed_concat {front : List Way} {way : Way}
    (hfront : ∀ w ∈ front, isOpen verb args w = false) (hway : isOpen verb args way = false) :
    ∀ w ∈ front ++ [way], isOpen verb args w = false :=
  List.forall_mem_append.mpr ⟨hfront, by simpa using hway⟩

theorem goTo_of_ok {rest : List Token} {split : Phrase} (hsplit : Phrase.split rest = .ok split) :
    Ruling.goTo verb args rest =
      if Text.isBlankText (Ruling.destination args split) then .error ⟨.goWhere, verb.column⟩
      else .ok (.go, { split with
        raw := Token.join args, target := Ruling.destination args split }) := by
  rw [Ruling.goTo, hsplit]
  rfl

/-- Where no preposition is left dangling, what counts is whether there is a direction, and
then whether the destination can be seen. -/
theorem leads_of_split {split : Phrase} (hsplit : Phrase.split (behindTo args) = .ok split)
    (hphrase : split = { phrase args (destination args) with raw := Token.join (behindTo args) })
    (hclosed : ∀ w ∈ [flees, dangling, noTarget, noObject], isOpen verb args w = false)
    (hvisible : ∀ d, args.find? (·.kind.isDirection) = some d →
      Text.isBlankText d.lexeme = false) :
    (taken verb args).Leads input verb args
      (.ofRuling input (Ruling.goTo verb args (behindTo args))) := by
  rw [goTo_of_ok hsplit]
  cases hdirection : args.find? (·.kind.isDirection) with
  | some d =>
      have hkind : d.kind.isDirection = true := by simpa using List.find?_some hdirection
      have hopen : isOpen verb args heads = true :=
        List.any_eq_true.mpr ⟨d, List.mem_of_find?_eq_some hdirection, hkind⟩
      have hgoal : Ruling.destination args split = d.lexeme := by
        rw [Ruling.destination, hdirection]
      rw [taken_eq _ heads rfl hclosed hopen, hgoal, if_neg (by simp [hvisible d hdirection]),
        hphrase]
      exact ⟨d, hdirection, rfl⟩
  | none =>
      have hheads : isOpen verb args heads = false := by
        rw [isOpen, List.any_eq_false]
        exact List.find?_eq_none.mp hdirection
      have hgoal : Ruling.destination args split = destination args := by
        rw [Ruling.destination, hdirection, hphrase]
        rfl
      have hclosed' := forall_closed_concat hclosed hheads
      rw [hgoal]
      by_cases hblank : Text.isBlankText (destination args) = true
      · rw [taken_eq _ nowhere rfl hclosed' hblank, if_pos hblank]
        rfl
      · have hnowhere : isOpen verb args nowhere = false := by simpa [isOpen] using hblank
        rw [taken_eq _ goes rfl (forall_closed_concat hclosed' hnowhere) rfl, if_neg hblank,
          hphrase]
        rfl

/-- Behind the leading `to`s, words are divided before anything else is asked. -/
theorem leads_goTo (hclosed : ∀ w ∈ [flees, dangling], isOpen verb args w = false)
    (hvisible : ∀ d, args.find? (·.kind.isDirection) = some d →
      Text.isBlankText d.lexeme = false) :
    (taken verb args).Leads input verb args
      (.ofRuling input (Ruling.goTo verb args (behindTo args))) := by
  have hdivided := divided_split (behindTo args)
  cases hsplit : Phrase.split (behindTo args) with
  | error e =>
      have hrule : Ruling.goTo verb args (behindTo args) = .error e := by
        rw [Ruling.goTo, hsplit]
        rfl
      rw [hsplit] at hdivided
      rw [hrule]
      cases hdivided with
      | @noTarget after p hwords hp =>
          have hargs : behindTo args = [] ++ p :: after := hwords
          have hopen : isOpen verb args noTarget = true := by
            simp [isOpen, place?_eq hargs (by simp) hp]
          rw [taken_eq _ noTarget rfl hclosed hopen]
          exact ⟨p, preposition?_eq hargs (by simp) hp, rfl⟩
      | @noObject before p hargs hplain hp hbefore =>
          have hplace := place?_eq hargs hplain hp
          have hopen : isOpen verb args noObject = true := by simp [isOpen, hplace, hargs]
          have hfirst : isOpen verb args noTarget = false := by simp [isOpen, hplace, hbefore]
          rw [taken_eq _ noObject rfl (forall_closed_concat hclosed hfirst) hopen]
          exact ⟨p, preposition?_eq hargs hplain hp, rfl⟩
  | ok split =>
      rw [hsplit] at hdivided
      cases hdivided with
      | whole hplain =>
          have hplace := place?_of_whole hplain
          have hfirst : isOpen verb args noTarget = false := by simp [isOpen, hplace]
          have hlast : isOpen verb args noObject = false := by simp [isOpen, hplace]
          refine leads_of_split hsplit ?_
            (forall_closed_concat (forall_closed_concat hclosed hfirst) hlast) hvisible
          rw [phrase, preposition?_of_whole hplain, hplace, destination_of_whole hplain]
          rfl
      | @parts before after p hargs hplain hp hbefore hafter =>
          have hplace := place?_eq hargs hplain hp
          have hfirst : isOpen verb args noTarget = false := by simp [isOpen, hplace, hbefore]
          have hlast : isOpen verb args noObject = false := by
            simp [isOpen, hplace, hargs, hafter]
          refine leads_of_split hsplit ?_
            (forall_closed_concat (forall_closed_concat hclosed hfirst) hlast) hvisible
          rw [phrase, preposition?_eq hargs hplain hp, hplace,
            destination_of_divided hargs hplain hp, hargs]
          simp

theorem move_of_flees (hflees : isOpen verb args flees = true) :
    Ruling.move verb args = .ok (.flee, { raw := Token.join args }) := by
  have haway : ∀ t ∈ args, t.kind = .away := by
    simpa using (Bool.and_eq_true_iff.mp hflees).2
  rw [Ruling.move_eq]
  exact (if_pos hflees).trans (Ruling.flee_of_away haway)

theorem move_of_dangling (hflees : isOpen verb args flees = false)
    (hto : ∀ t ∈ args, t.kind = .to_) {t : Token} (ht : args.getLast? = some t) :
    Ruling.move verb args = .error ⟨.noDestinationAfter (Text.lower t.lexeme), t.column⟩ := by
  have hdrop : args.dropWhile (·.kind == .to_) = [] :=
    List.dropWhile_eq_nil_iff.mpr fun a ha => by simp [hto a ha]
  have htake : args.takeWhile (·.kind == .to_) = args :=
    List.takeWhile_eq_self_iff.mpr fun a ha => by simp [hto a ha]
  rw [Ruling.move_eq, hdrop, htake, ht]
  exact if_neg (Bool.eq_false_iff.mp hflees)

theorem move_of_not_dangling (hflees : isOpen verb args flees = false)
    (hdangling : isOpen verb args dangling = false) :
    Ruling.move verb args = Ruling.goTo verb args (behindTo args) := by
  rw [Ruling.move_eq]
  refine (if_neg (Bool.eq_false_iff.mp hflees)).trans ?_
  split
  · rename_i to_ hdrop hlast
    -- A last leading `to` with nothing behind it would make the way open.
    have hall : args.all (·.kind == .to_) = true :=
      List.all_eq_true.mpr (List.dropWhile_eq_nil_iff.mp hdrop)
    have hempty : args = [] := by simpa [isOpen, hall] using hdangling
    rw [hempty] at hlast
    exact nomatch hlast
  · rfl

/-- **The rule of moving takes the first open way.** -/
theorem leads_move (hvisible : ∀ d, args.find? (·.kind.isDirection) = some d →
      Text.isBlankText d.lexeme = false) :
    (taken verb args).Leads input verb args (.ofRuling input (Ruling.move verb args)) := by
  by_cases hflees : isOpen verb args flees = true
  · rw [taken_eq [] flees rfl (by simp) hflees, move_of_flees hflees]
    rfl
  rw [Bool.not_eq_true] at hflees
  have hclosed : ∀ w ∈ [flees], isOpen verb args w = false := by simpa using hflees
  by_cases hdangling : isOpen verb args dangling = true
  · have hwords : args ≠ [] ∧ ∀ t ∈ args, t.kind = .to_ := by simpa [isOpen] using hdangling
    obtain ⟨t, ht⟩ := List.getLast?_isSome.mpr hwords.1 |> Option.isSome_iff_exists.mp
    rw [taken_eq _ dangling rfl hclosed hdangling, move_of_dangling hflees hwords.2 ht]
    exact ⟨t, ht, rfl⟩
  · rw [Bool.not_eq_true] at hdangling
    rw [move_of_not_dangling hflees hdangling]
    exact leads_goTo (forall_closed_concat hclosed hdangling) hvisible

/-- With a direction among the words, only a dangling preposition is in the way of it. -/
theorem taken_of_direction (hdirection : args.any (·.kind.isDirection) = true) :
    taken verb args ∈ [noTarget, noObject, heads] := by
  obtain ⟨d, hd, hkind⟩ := List.any_eq_true.mp hdirection
  have hne : d.kind ≠ .away ∧ d.kind ≠ .to_ := by
    constructor
    · intro heq
      rw [heq] at hkind
      exact Bool.noConfusion hkind
    · intro heq
      rw [heq] at hkind
      exact Bool.noConfusion hkind
  have hflees : isOpen verb args flees = false := by
    have haway : args.all (·.kind == .away) = false :=
      List.all_eq_false.mpr ⟨d, hd, by simpa using hne.1⟩
    simp [isOpen, haway]
  have hdangling : isOpen verb args dangling = false := by
    have hto : args.all (·.kind == .to_) = false :=
      List.all_eq_false.mpr ⟨d, hd, by simpa using hne.2⟩
    simp [isOpen, hto]
  have hclosed : ∀ w ∈ [flees, dangling], isOpen verb args w = false := by
    simp [hflees, hdangling]
  by_cases htarget : isOpen verb args noTarget = true
  · rw [taken_eq _ noTarget rfl hclosed htarget]
    simp
  have hclosed' := forall_closed_concat hclosed (by simpa using htarget)
  by_cases hobject : isOpen verb args noObject = true
  · rw [taken_eq _ noObject rfl hclosed' hobject]
    simp
  · have hclosed'' := forall_closed_concat hclosed' (by simpa using hobject)
    rw [taken_eq _ heads rfl hclosed'' hdirection]
    simp

end Way

/-- **A movement takes the first open way.**  Of a line that begins with a verb of movement, the
first way that is open to the verb and the words behind it says all there is to say: the verb
performed and its phrase, or the words of the error and the token it is about.  A direction
among the words is where it goes, unless a preposition behind the leading `to`s is dangling. -/
theorem movement_takes_first_way (i : Interpreter) (input : String) (verb : Token)
    (behind : List Token) (htokens : i.tokens input = verb :: behind)
    (hverb : verb.kind = .verb .go) :
    let args := behind.takeWhile fun t => !t.isEol
    (Way.taken verb args).Leads input verb args (i.compile input) ∧
      (args.any (·.kind.isDirection) = true →
        Way.taken verb args ∈ [.noTarget, .noObject, .heads]) := by
  intro args
  refine ⟨?_, Way.taken_of_direction⟩
  obtain ⟨body, marker, hline⟩ := exists_line i.overlay input
  have hscan : body ++ [marker] = verb :: behind := hline.scan_eq.symm.trans htokens
  cases body with
  | nil =>
      obtain ⟨rfl, -⟩ := List.cons.inj hscan
      rw [hline.marker_kind] at hverb
      exact nomatch hverb
  | cons first words =>
      obtain ⟨rfl, rfl⟩ := List.cons.inj hscan
      have hargs : args = words :=
        takeWhile_args (fun t ht => hline.kinds t (by simp [ht])) hline.marker_kind
      have hcompile : i.compile input = .ofRuling input (.move first words) := by
        refine hline.compile_eq.trans ?_
        simp only [Node.ofWords, hverb]
        rfl
      rw [hcompile, hargs]
      refine Way.leads_move fun d hd => ?_
      obtain ⟨front, q, hplaced⟩ := hline.placed d (by simp [List.mem_of_find?_eq_some hd])
      obtain ⟨c, hc, hblank⟩ := hplaced.exists_visible (by simpa using List.find?_some hd)
      exact List.all_eq_false.mpr ⟨c, hc, by simp [hblank]⟩

/-- To run, with a `to`, an empty text in quotes, an `away`, a preposition and a direction. -/
theorem movement_takes_first_way_upward :
    let i : Interpreter := ⟨.ofPairs [("hoch", .direction .up)]⟩
    let input := "RUN to \"\" away in Hoch"
    let verb : Token := ⟨.verb .go, "RUN", ⟨0, 3, 1, 0⟩⟩
    let behind : List Token :=
      [⟨.to_, "to", ⟨4, 6, 1, 4⟩⟩, ⟨.string, "", ⟨7, 9, 1, 7⟩⟩, ⟨.away, "away", ⟨10, 14, 1, 10⟩⟩,
        ⟨.preposition .in_, "in", ⟨15, 17, 1, 15⟩⟩, ⟨.direction .up, "Hoch", ⟨18, 22, 1, 18⟩⟩,
        ⟨.eol, "", ⟨22, 22, 1, 22⟩⟩]
    let args := behind.takeWhile fun t => !t.isEol
    i.tokens input = verb :: behind ∧ verb.kind = .verb .go ∧
      args.any (·.kind.isDirection) = true ∧
      i.compile input = .verb (.perform .go) ⟨"to  away in Hoch", "Hoch", some "in", some "Hoch"⟩ ∧
      (Way.taken verb args).Leads input verb args (i.compile input) ∧
      Way.taken verb args ∈ [.noTarget, .noObject, .heads] := by
  intro i input verb behind args
  have htokens : i.tokens input = verb :: behind := by decide +kernel
  have hdirection : args.any (·.kind.isDirection) = true := by decide
  have hway := movement_takes_first_way i input verb behind htokens rfl
  exact ⟨htokens, rfl, hdirection, by decide +kernel, hway.1, hway.2 hdirection⟩

end Adventure
