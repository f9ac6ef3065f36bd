/-
Dividing a phrase loses no word.

A verb's words are taken apart twice before they become a phrase.  Moving and talking drop the
leading `to`s, and the rest is divided at its first preposition.  Both are cuts of a list, so
all of the words are still there, in order, and what is said of the whole of them, `raw`, can
be put together again from the parts: `join_parts`.  The parts of a division are never empty
lists, which is why the spaces between them are the spaces of the whole, also where a part is
a single empty text in quotes.

Two rules go beyond it.  A movement names a direction as its target wherever in the words it
stands, and to look around is to look at nothing.
-/
import Adventure.Proofs.Rules

namespace Adventure

namespace Token

/-- Words joined in two lots have one space between the lots. -/
theorem join_append {a b : List Token} (ha : a ≠ []) (hb : b ≠ []) :
    join (a ++ b) = join a ++ " " ++ join b := by
  unfold join
  rw [List.map_append]
  exact String.intercalate_append_of_ne_nil (by simpa using ha) (by simpa using hb)

/-- Words can be joined in parts before the parts are joined. -/
theorem join_parts (front : List Token) {before after : List Token} (p : Token)
    (hbefore : before ≠ []) (hafter : after ≠ []) :
    " ".intercalate (front.map lexeme ++ [join before, p.lexeme, join after])
      = join (front ++ (before ++ p :: after)) := by
  have hparts : " ".intercalate [join before, p.lexeme, join after]
      = join (before ++ p :: after) := by
    have hp : join [p] = p.lexeme := String.intercalate_singleton
    have hbehind : join ([p] ++ after) = join [p] ++ " " ++ join after :=
      join_append (List.cons_ne_nil p []) hafter
    rw [List.singleton_append, hp] at hbehind
    rw [join_append hbefore (List.cons_ne_nil p after), hbehind]
    simp [String.append_assoc]
  cases front with
  | nil => exact hparts
  | cons t front =>
      have hwords : before ++ p :: after ≠ [] := List.append_ne_nil_of_left_ne_nil hbefore _
      rw [String.intercalate_append_of_ne_nil (by simp) (by simp), hparts,
        join_append (List.cons_ne_nil t front) hwords]
      rfl

end Token

namespace Ruling

/-- The leading words that a rule drops. -/
def dropped (k : Verb) (args : List Token) : List Token :=
  match k with
  | .go | .talk => args.takeWhile (·.kind == .to_)
  | _ => []

theorem dropped_append_divided (k : Verb) (args : List Token) :
    dropped k args ++ divided k args = args := by
  cases k with
  | go => exact List.takeWhile_append_dropWhile
  | talk => exact List.takeWhile_append_dropWhile
  | _ => rfl

/-- What a verb calls its target: a movement has a direction for it if there is one. -/
def targetOf (k : Verb) (args : List Token) (name : String) : String :=
  match k with
  | .go => ((args.find? (·.kind.isDirection)).map Token.lexeme).getD name
  | _ => name

theorem destination_eq (args : List Token) (phrase : Phrase) :
    destination args phrase = targetOf .go args phrase.target := by
  unfold destination targetOf
  cases args.find? (·.kind.isDirection) with
  | none => rfl
  | some direction => rfl

theorem targetOf_of_ne {k : Verb} (hk : k ≠ .go) (args : List Token) (name : String) :
    targetOf k args name = name := by
  unfold targetOf
  split
  · exact absurd rfl hk
  · rfl

/-- How a phrase comes of the words behind a verb. -/
structure Covers (k : Verb) (args : List Token) (phrase : Phrase) : Prop where
  /-- All words are there, in order. -/
  raw : phrase.raw = Token.join args
  /-- The words are divided at their first preposition, with words on both sides of it, and the
  parts make up all there was; without a preposition all words are the target. -/
  parts : match (divided k args).find? (·.kind.isSplitting) with
    | none =>
      phrase.preposition = none ∧ phrase.object = none ∧
        phrase.target = targetOf k args (Token.join (divided k args))
    | some p =>
      ∃ before after, divided k args = before ++ p :: after ∧ before ≠ [] ∧ after ≠ [] ∧
        before.all (fun t => !t.kind.isSplitting) = true ∧
        phrase.preposition = some (Text.lower p.lexeme) ∧
        phrase.object = some (Token.join after) ∧
        phrase.target = targetOf k args (Token.join before) ∧
        phrase.raw = " ".intercalate
          ((dropped k args).map Token.lexeme ++ [Token.join before, p.lexeme, Token.join after])

variable {k : Verb} {verb : Token} {args : List Token} {phrase split : Phrase}

/-- **A phrase with the parts of a division covers the words.** -/
theorem covers_of_split (hsplit : Phrase.split (divided k args) = .ok split)
    (hraw : phrase.raw = Token.join args) (hpreposition : phrase.preposition = split.preposition)
    (hobject : phrase.object = split.object)
    (htarget : phrase.target = targetOf k args split.target) : Covers k args phrase := by
  refine ⟨hraw, ?_⟩
  have hdivided := divided_split (divided k args)
  rw [hsplit] at hdivided
  rw [hpreposition, hobject, htarget]
  cases hdivided with
  | whole hplain =>
      have hnone : (divided k args).find? (·.kind.isSplitting) = none := by
        rw [List.find?_eq_none]
        intro t ht
        simp [hplain t ht]
      rw [hnone]
      exact ⟨rfl, rfl, rfl⟩
  | @parts before after p hwords hplain hp hbefore hafter =>
      have hfirst : before.find? (·.kind.isSplitting) = none := by
        rw [List.find?_eq_none]
        intro t ht
        simp [hplain t ht]
      have hfind : (divided k args).find? (·.kind.isSplitting) = some p := by
        rw [hwords, List.find?_append, hfirst]
        simp [hp]
      rw [hfind]
      refine ⟨before, after, hwords, hbefore, hafter, ?_, rfl, rfl, rfl, ?_⟩
      · rw [List.all_eq_true]
        intro t ht
        simp [hplain t ht]
      · rw [hraw, Token.join_parts _ p hbefore hafter, ← hwords, dropped_append_divided]

theorem covers_of_move (h : move verb args = .ok (.go, phrase)) : Covers .go args phrase := by
  have hmoved := moved_move verb args
  rw [h] at hmoved
  cases hmoved with
  | goes hsplit hblank => exact covers_of_split hsplit rfl rfl rfl (destination_eq args _)

theorem covers_of_talk (h : talk verb args = .ok (.talk, phrase)) : Covers .talk args phrase := by
  obtain ⟨split, hsplit, hblank, hreturn⟩ := talk_eq_ok_iff.mp h
  obtain ⟨-, rfl⟩ := Prod.mk.inj hreturn
  exact covers_of_split hsplit rfl rfl rfl rfl

/-- Words that are divided as they are. -/
theorem covers_of_whole (hk : divided k args = args) (hgo : k ≠ .go)
    (hsplit : Phrase.split args = .ok phrase) : Covers k args phrase := by
  have hraw := raw_of_split hsplit
  rw [← hk] at hsplit
  exact covers_of_split hsplit hraw rfl rfl (targetOf_of_ne hgo args phrase.target).symm

/-- Whether words begin with `around`. -/
def beginsAround (args : List Token) : Bool :=
  args.head?.any isAround

theorem covers_of_look (h : look args = .ok (.look, phrase)) :
    if beginsAround args then phrase = {} else Covers .look args phrase := by
  obtain ⟨split, hsplit, hreturn⟩ := bind_eq_ok h
  cases args with
  | nil =>
      obtain ⟨-, rfl⟩ := Prod.mk.inj (Except.ok.inj hreturn)
      exact covers_of_whole rfl (by simp) hsplit
  | cons first rest =>
      obtain ⟨-, rfl⟩ := Prod.mk.inj (Except.ok.inj hreturn)
      show if isAround first = true then _ else _
      cases haround : isAround first with
      | true => rfl
      | false => exact covers_of_whole rfl (by simp) hsplit

/-- **A verb that is performed covers its words**, unless it is to look around. -/
theorem covers_ofVerb (halone : k.standsAlone = false) (hflee : k ≠ .flee)
    (h : ofVerb k verb args = .ok (k, phrase)) :
    if k = .look ∧ beginsAround args = true then phrase = {} else Covers k args phrase := by
  cases k with
  | go => exact covers_of_move h
  | talk => exact covers_of_talk h
  | look =>
      have hlook := covers_of_look h
      simpa using hlook
  | flee => exact absurd rfl hflee
  | help | listen | inventory | quit => exact Bool.noConfusion halone
  | _ =>
      obtain ⟨split, hsplit, hreturn⟩ := bind_eq_ok h
      obtain ⟨-, rfl⟩ := Prod.mk.inj (Except.ok.inj hreturn)
      exact covers_of_whole rfl (by simp) hsplit

end Ruling

/-- **No word is lost, doubled or moved.**  Tokens that need not come from a scan, with a verb
in front that may have words behind it: if they mean that this verb is performed, its phrase
has all the words up to the first end marker, in order, and the target, the preposition and
the object are the parts of them around the first preposition.  A direction is the target of a
movement wherever it stands, and looking around leaves nothing. -/
theorem performed_phrase_covers (input : String) (first : Token) (rest : List Token) (k : Verb)
    (phrase : Phrase) (hk : first.kind = .verb k) (halone : k.standsAlone = false)
    (hflee : k ≠ .flee)
    (h : Node.ofTokens input (first :: rest) = .verb (.perform k) phrase) :
    let args := rest.takeWhile fun t => !t.isEol
    if k = .look ∧ Ruling.beginsAround args = true then phrase = {}
    else Ruling.Covers k args phrase := by
  intro args
  have hnode : Node.ofRuling input (.ofVerb k first args) = .verb (.perform k) phrase := by
    simpa only [Node.ofTokens, hk] using h
  cases hruling : Ruling.ofVerb k first args with
  | error e =>
      rw [hruling] at hnode
      exact nomatch hnode
  | ok ruling =>
      obtain ⟨k', phrase'⟩ := ruling
      rw [hruling] at hnode
      simp only [Node.ofRuling, Node.verb.injEq, Action.perform.injEq] at hnode
      obtain ⟨rfl, rfl⟩ := hnode
      exact Ruling.covers_ofVerb halone hflee hruling

/-- Two leading `to`s, an empty text in quotes as the target, a second preposition that belongs
to the object, and a direction that hides the target. -/
theorem performed_phrase_covers_upstairs :
    let first : Token := ⟨.verb .go, "Steig", {}⟩
    let rest : List Token :=
      [⟨.to_, "zu", {}⟩, ⟨.to_, "TO", {}⟩, ⟨.string, "", {}⟩, ⟨.preposition .in_, "IN", {}⟩,
        ⟨.preposition .on, "on", {}⟩, ⟨.direction .up, "Hoch", {}⟩, ⟨.eol, "", {}⟩,
        ⟨.identifier, "unread", {}⟩]
    let phrase : Phrase := ⟨"zu TO  IN on Hoch", "Hoch", some "in", some "on Hoch"⟩
    first.kind = .verb .go ∧ Verb.go.standsAlone = false ∧ Verb.go ≠ .flee ∧
      Node.ofTokens "" (first :: rest) = .verb (.perform .go) phrase ∧
      Ruling.Covers .go (rest.takeWhile fun t => !t.isEol) phrase := by
  intro first rest phrase
  have h : Node.ofTokens "" (first :: rest) = .verb (.perform .go) phrase := by decide +kernel
  have hcovers := performed_phrase_covers "" first rest .go phrase rfl rfl (by decide) h
  rw [if_neg (by simp)] at hcovers
  exact ⟨rfl, rfl, by decide, h, hcovers⟩

end Adventure
