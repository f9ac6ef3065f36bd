/-
What the rules can tell apart.

A rule reads the kind of every token.  Of the spelling of a token it asks three things:
whether there is anything to see in it, how it compares with a few words in any case, and
what it looks like in lower case; the last two it asks of words only, never of a text in
quotes.  Columns go into its errors and nowhere else.

So two rows of tokens that agree in kinds, that differ in the spelling of words at most by
case, and in the spelling of quoted texts by any `Likeness` at all, get the same ruling:
the same verb with phrases as like as the words, or the same complaint about tokens in the
same place.  `ofWords_alike` says so once, for every likeness of texts and every relation
between columns.
-/
import Adventure.Proofs.LetterCase
import Adventure.Proofs.Line
import Mathlib.Data.List.Forall2

namespace Adventure

/-- A relation between texts that passes from words to the texts joined of them and never
relates a text with nothing to see to one with something. -/
structure Likeness (L : String → String → Prop) : Prop where
  refl : ∀ s, L s s
  append : ∀ {s s' t t'}, L s s' → L t t' → L (s ++ t) (s' ++ t')
  blank : ∀ {s s'}, L s s' → Text.isBlankText s = Text.isBlankText s'

/-- Two tokens that no rule tells apart, with columns related by `C`. -/
structure Token.Alike (L : String → String → Prop) (C : Nat → Nat → Prop) (t t' : Token) :
    Prop where
  kind : t.kind = t'.kind
  lexeme : L t.lexeme t'.lexeme
  /-- Only the letters of quoted texts are free to differ in more than case. -/
  spelled : t.kind ≠ .string → Text.sameIgnoringCase t.lexeme t'.lexeme = true
  column : C t.column t'.column

/-- Two phrases that differ in their texts by `L`. -/
structure Phrase.Alike (L : String → String → Prop) (p p' : Phrase) : Prop where
  raw : L p.raw p'.raw
  target : L p.target p'.target
  preposition : p.preposition = p'.preposition
  object : Option.Rel L p.object p'.object

/-- Two meanings of one sort: a verb with phrases that differ by `L`, or the same words of
error about columns that differ by `C`. -/
inductive Node.Alike (L : String → String → Prop) (C : Nat → Nat → Prop) : Node → Node → Prop
  | verb (action : Action) {phrase phrase' : Phrase} (hphrase : phrase.Alike L phrase') :
      Alike L C (.verb action phrase) (.verb action phrase')
  | error {e e' : ParseError} (hmessage : e.message = e'.message)
      (hcolumn : C e.column e'.column) : Alike L C (.error e) (.error e')
  | unknown : Alike L C .unknown .unknown

namespace Likeness

variable {L : String → String → Prop}

theorem intercalate (hL : Likeness L) {words words' : List String}
    (h : List.Forall₂ L words words') :
    L (" ".intercalate words) (" ".intercalate words') := by
  induction h with
  | nil => exact hL.refl ""
  | @cons w w' rest rest' hw hrest ih =>
      cases hrest with
      | nil =>
          rw [String.intercalate_singleton, String.intercalate_singleton]
          exact hw
      | cons hu htail =>
          rw [String.intercalate_cons_cons, String.intercalate_cons_cons]
          exact hL.append (hL.append hw (hL.refl " ")) ih

theorem eq : Likeness (· = ·) where
  refl := fun _ => rfl
  append := fun h h' => congrArg₂ (· ++ ·) h h'
  blank := fun h => congrArg Text.isBlankText h

end Likeness

namespace Token

variable {L : String → String → Prop} {C : Nat → Nat → Prop} {t t' : Token}
  {args args' : List Token}

theorem Alike.lower (h : Alike L C t t') (hkind : t.kind ≠ .string) :
    Text.lower t.lexeme = Text.lower t'.lexeme :=
  Text.lower_eq_of_sameIgnoringCase (h.spelled hkind)

/-! ### Like tokens in a row -/

theorem join_alike (hL : Likeness L) (h : List.Forall₂ (Alike L C) args args') :
    L (join args) (join args') := by
  refine hL.intercalate ?_
  rw [List.forall₂_map_left_iff, List.forall₂_map_right_iff]
  exact h.imp fun _ _ ht => ht.lexeme

theorem all_alike (p : Kind → Bool) (h : List.Forall₂ (Alike L C) args args') :
    (args.all fun t => p t.kind) = args'.all fun t => p t.kind := by
  induction h with
  | nil => rfl
  | cons ht hrest ih => rw [List.all_cons, List.all_cons, ih, ht.kind]

theorem takeWhile_alike (p : Kind → Bool) (h : List.Forall₂ (Alike L C) args args') :
    List.Forall₂ (Alike L C) (args.takeWhile fun t => p t.kind)
      (args'.takeWhile fun t => p t.kind) := by
  induction h with
  | nil => exact .nil
  | @cons t t' rest rest' ht hrest ih =>
      rw [List.takeWhile_cons, List.takeWhile_cons, ← ht.kind]
      split
      · exact .cons ht ih
      · exact .nil

theorem dropWhile_alike (p : Kind → Bool) (h : List.Forall₂ (Alike L C) args args') :
    List.Forall₂ (Alike L C) (args.dropWhile fun t => p t.kind)
      (args'.dropWhile fun t => p t.kind) := by
  induction h with
  | nil => exact .nil
  | @cons t t' rest rest' ht hrest ih =>
      rw [List.dropWhile_cons, List.dropWhile_cons, ← ht.kind]
      split
      · exact ih
      · exact .cons ht hrest

theorem find?_alike (p : Kind → Bool) (h : List.Forall₂ (Alike L C) args args') :
    Option.Rel (Alike L C) (args.find? fun t => p t.kind) (args'.find? fun t => p t.kind) := by
  induction h with
  | nil => exact .none
  | @cons t t' rest rest' ht hrest ih =>
      rw [List.find?_cons, List.find?_cons, ← ht.kind]
      split
      · exact .some ht
      · exact ih

theorem getLast?_alike (h : List.Forall₂ (Alike L C) args args') :
    Option.Rel (Alike L C) args.getLast? args'.getLast? := by
  have hreverse := List.rel_reverse h
  rw [← List.head?_reverse, ← List.head?_reverse]
  generalize args.reverse = row at hreverse ⊢
  generalize args'.reverse = row' at hreverse ⊢
  cases hreverse with
  | nil => exact .none
  | cons ht hrest => exact .some ht

end Token

namespace Ruling

/-! ### Like rulings

An error may quote the verb.  The verbs of two like lines need not be spelled alike, so
what is quoted is kept apart from what the rules decide.
-/

/-- The same complaint, but for the verb that it quotes. -/
inductive Requoted (verb verb' : Token) : Complaint → Complaint → Prop
  | same (c : Complaint) : Requoted verb verb' c c
  | verb : Requoted verb verb' (.unexpectedAfter (Text.lower verb.lexeme))
      (.unexpectedAfter (Text.lower verb'.lexeme))

theorem Requoted.eq {verb verb' : Token} (hverb : Text.lower verb.lexeme = Text.lower verb'.lexeme)
    {c c' : Complaint} (h : Requoted verb verb' c c') : c = c' := by
  cases h with
  | same => rfl
  | verb => rw [hverb]

/-- Results that are alike by `Q` if they are right, and complain alike if they are wrong. -/
inductive Agree {α : Type} (C : Nat → Nat → Prop) (verb verb' : Token) (Q : α → α → Prop) :
    Except Objection α → Except Objection α → Prop
  | ok {a a' : α} (h : Q a a') : Agree C verb verb' Q (.ok a) (.ok a')
  | error {c c' : Complaint} {m n : Nat} (hcomplaint : Requoted verb verb' c c')
      (hcolumn : C m n) : Agree C verb verb' Q (.error ⟨c, m⟩) (.error ⟨c', n⟩)

variable {L : String → String → Prop} {C : Nat → Nat → Prop} {verb verb' : Token}
  {args args' rest rest' : List Token} {phrase phrase' : Phrase}

theorem Agree.bind {α β : Type} {Q : α → α → Prop} {R : β → β → Prop}
    {x x' : Except Objection α} {f f' : α → Except Objection β}
    (hx : Agree C verb verb' Q x x')
    (hf : ∀ a a', Q a a' → Agree C verb verb' R (f a) (f' a')) :
    Agree C verb verb' R (x >>= f) (x' >>= f') := by
  cases hx with
  | ok h => exact hf _ _ h
  | error hcomplaint hcolumn => exact .error hcomplaint hcolumn

/-- The same verb with like phrases. -/
def SameDeed (L : String → String → Prop) (r r' : Verb × Phrase) : Prop :=
  r.1 = r'.1 ∧ r.2.Alike L r'.2

/-! ### The rules -/

theorem agree_split (hL : Likeness L) (h : List.Forall₂ (Token.Alike L C) args args') :
    Agree C verb verb' (Phrase.Alike L) (Phrase.split args) (Phrase.split args') := by
  have hbefore := Token.takeWhile_alike (fun k => !k.isSplitting) h
  have hdrop := Token.dropWhile_alike (fun k => !k.isSplitting) h
  unfold Phrase.split
  cases hargs : args.dropWhile fun t => !t.kind.isSplitting with
  | nil =>
      rw [hargs, List.forall₂_nil_left_iff] at hdrop
      rw [hdrop]
      have hjoin := Token.join_alike hL h
      exact .ok ⟨hjoin, hjoin, rfl, .none⟩
  | cons p after =>
      rw [hargs, List.forall₂_cons_left_iff] at hdrop
      obtain ⟨p', after', hp, hafter, hargs'⟩ := hdrop
      have hsplitting := isSplitting_of_dropWhile hargs
      have hword := hp.lower (by intro hkind; rw [hkind] at hsplitting; exact nomatch hsplitting)
      rw [hargs']
      simp only [List.isEmpty_iff_length_eq_zero, hbefore.length_eq, hafter.length_eq, hword]
      split
      · exact .error (.same _) hp.column
      · split
        · exact .error (.same _) hp.column
        · exact .ok ⟨Token.join_alike hL h, Token.join_alike hL hbefore, rfl,
            .some (Token.join_alike hL hafter)⟩

theorem agree_alone (hL : Likeness L) (k : Verb)
    (h : List.Forall₂ (Token.Alike L C) args args') :
    Agree C verb verb' (SameDeed L) (alone k verb args) (alone k verb' args') := by
  cases h with
  | nil => exact .ok ⟨rfl, hL.refl _, hL.refl _, rfl, .none⟩
  | cons ht hrest => exact .error .verb ht.column

theorem agree_flee (hL : Likeness L) (h : List.Forall₂ (Token.Alike L C) args args') :
    Agree C verb verb' (SameDeed L) (flee verb args) (flee verb' args') := by
  have hextra := Token.find?_alike (fun k => k != .away) h
  unfold flee
  generalize (args.find? fun t => t.kind != .away) = extra at hextra ⊢
  generalize (args'.find? fun t => t.kind != .away) = extra' at hextra ⊢
  cases hextra with
  | none => exact .ok ⟨rfl, Token.join_alike hL h, hL.refl _, rfl, .none⟩
  | some ht => exact .error .verb ht.column

theorem destination_alike (h : List.Forall₂ (Token.Alike L C) args args')
    (hphrase : phrase.Alike L phrase') :
    L (destination args phrase) (destination args' phrase') := by
  have hdirection := Token.find?_alike Kind.isDirection h
  unfold destination
  generalize (args.find? fun t => t.kind.isDirection) = d at hdirection ⊢
  generalize (args'.find? fun t => t.kind.isDirection) = d' at hdirection ⊢
  cases hdirection with
  | none => exact hphrase.target
  | some ht => exact ht.lexeme

theorem agree_goTo (hL : Likeness L) (hcolumn : C verb.column verb'.column)
    (h : List.Forall₂ (Token.Alike L C) args args')
    (hrest : List.Forall₂ (Token.Alike L C) rest rest') :
    Agree C verb verb' (SameDeed L) (goTo verb args rest) (goTo verb' args' rest') := by
  refine (agree_split hL hrest).bind ?_
  intro phrase phrase' hphrase
  have hdestination := destination_alike h hphrase
  rw [hL.blank hdestination]
  split
  · exact .error (.same _) hcolumn
  · exact .ok ⟨rfl, Token.join_alike hL h, hdestination, hphrase.preposition, hphrase.object⟩

theorem agree_move (hL : Likeness L) (hcolumn : C verb.column verb'.column)
    (hrun : Text.sameIgnoringCase verb.lexeme "run" = Text.sameIgnoringCase verb'.lexeme "run")
    (h : List.Forall₂ (Token.Alike L C) args args') :
    Agree C verb verb' (SameDeed L) (move verb args) (move verb' args') := by
  have hrest := Token.dropWhile_alike (fun k => k == .to_) h
  have hlast := Token.getLast?_alike (Token.takeWhile_alike (fun k => k == .to_) h)
  have hkind : ∀ t ∈ (args.takeWhile fun t => t.kind == .to_).getLast?, t.kind = .to_ := by
    intro t ht
    simpa using List.mem_takeWhile_imp (List.mem_of_getLast? ht)
  rw [move_eq, move_eq, hrun, Token.all_alike (fun k => k == .away) h]
  generalize (args.dropWhile fun t => t.kind == .to_) = rest at hrest ⊢
  generalize (args'.dropWhile fun t => t.kind == .to_) = rest' at hrest ⊢
  generalize (args.takeWhile fun t => t.kind == .to_).getLast? = last at hlast hkind ⊢
  generalize (args'.takeWhile fun t => t.kind == .to_).getLast? = last' at hlast ⊢
  split
  · exact agree_flee hL h
  · cases hrest with
    | cons ht htail => exact agree_goTo hL hcolumn h (.cons ht htail)
    | nil =>
        cases hlast with
        | none => exact agree_goTo hL hcolumn h .nil
        | @some to_ to_' hto =>
            have hword := hto.lower (by rw [hkind to_ rfl]; exact Kind.noConfusion)
            simp only [hword]
            exact .error (.same _) hto.column

theorem isAround_alike {t t' : Token} (h : t.Alike L C t') : isAround t = isAround t' := by
  unfold isAround
  rw [← h.kind]
  by_cases hkind : t.kind = .identifier
  · rw [h.lower (by rw [hkind]; exact Kind.noConfusion)]
  · rw [beq_eq_false_iff_ne.mpr hkind, Bool.false_and, Bool.false_and]

theorem agree_look (hL : Likeness L) (h : List.Forall₂ (Token.Alike L C) args args') :
    Agree C verb verb' (SameDeed L) (look args) (look args') := by
  refine (agree_split hL h).bind ?_
  intro phrase phrase' hphrase
  cases h with
  | nil => exact .ok ⟨rfl, hphrase⟩
  | @cons first first' rest rest' ht hrest =>
      refine .ok ⟨rfl, ?_⟩
      show Phrase.Alike L (if isAround first then {} else phrase)
        (if isAround first' then {} else phrase')
      rw [isAround_alike ht]
      split
      · exact ⟨hL.refl _, hL.refl _, rfl, .none⟩
      · exact hphrase

theorem agree_talk (hL : Likeness L) (hcolumn : C verb.column verb'.column)
    (h : List.Forall₂ (Token.Alike L C) args args') :
    Agree C verb verb' (SameDeed L) (talk verb args) (talk verb' args') := by
  refine (agree_split hL (Token.dropWhile_alike (fun k => k == .to_) h)).bind ?_
  intro phrase phrase' hphrase
  rw [hL.blank hphrase.target]
  split
  · exact .error (.same _) hcolumn
  · exact .ok ⟨rfl, Token.join_alike hL h, hphrase.target, hphrase.preposition, hphrase.object⟩

/-- **No rule tells like words apart.** -/
theorem agree_ofVerb (hL : Likeness L) (k : Verb) (hcolumn : C verb.column verb'.column)
    (hrun : Text.sameIgnoringCase verb.lexeme "run" = Text.sameIgnoringCase verb'.lexeme "run")
    (h : List.Forall₂ (Token.Alike L C) args args') :
    Agree C verb verb' (SameDeed L) (ofVerb k verb args) (ofVerb k verb' args') := by
  cases k with
  | go => exact agree_move hL hcolumn hrun h
  | look => exact agree_look hL h
  | flee => exact agree_flee hL h
  | talk => exact agree_talk hL hcolumn h
  | help | listen | inventory | quit => exact agree_alone hL _ h
  | _ => exact (agree_split hL h).bind fun _ _ hphrase => .ok ⟨rfl, hphrase⟩

end Ruling

/-! ### Meanings -/

variable {L : String → String → Prop} {C : Nat → Nat → Prop}

/-- **Like words mean alike.** -/
theorem Node.ofWords_alike (hL : Likeness L) (input input' : String) {body body' : List Token}
    (h : List.Forall₂ (Token.Alike L C) body body') :
    (ofWords input body).Alike L C (ofWords input' body') := by
  cases h with
  | nil => exact .unknown
  | @cons first first' args args' hfirst hargs =>
      simp only [ofWords, ← hfirst.kind]
      split
      · exact .verb _ ⟨hfirst.lexeme, hfirst.lexeme, rfl, .none⟩
      · rename_i k hkind
        have hword : first.kind ≠ .string := by
          rw [hkind]
          exact Kind.noConfusion
        have hrun := Text.sameIgnoringCase_congr (hfirst.spelled hword) "run"
        have hagree := Ruling.agree_ofVerb hL k hfirst.column hrun hargs
        generalize Ruling.ofVerb k first args = ruling at hagree ⊢
        generalize Ruling.ofVerb k first' args' = ruling' at hagree ⊢
        cases hagree with
        | @ok r r' hdeed =>
            obtain ⟨k', phrase⟩ := r
            obtain ⟨k'', phrase'⟩ := r'
            obtain ⟨rfl, hphrase⟩ := hdeed
            exact .verb _ hphrase
        | error hcomplaint hcolumn =>
            rw [hcomplaint.eq (hfirst.lower hword)]
            exact .error rfl hcolumn
      · exact .unknown

/-- Lines with like tokens mean alike. -/
theorem Line.compile_alike (hL : Likeness L) {o : Overlay} {input input' : String}
    {body body' : List Token} {marker marker' : Token} (hline : Line o input body marker)
    (hline' : Line o input' body' marker') (h : List.Forall₂ (Token.Alike L C) body body') :
    ((Interpreter.mk o).compile input).Alike L C ((Interpreter.mk o).compile input') := by
  rw [hline.compile_eq, hline'.compile_eq]
  exact Node.ofWords_alike hL input input' h

end Adventure
