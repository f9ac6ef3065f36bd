/-
Places do not matter to the rules.

A rule reads kinds and spellings.  Columns go into its errors and nowhere else, so two lines
with the same kinds and spellings get the same ruling, however differently they are spaced.
-/
import Adventure.Proofs.Alike

namespace Adventure

namespace Token

/-- A token without its place. -/
def wording (t : Token) : Kind × String :=
  (t.kind, t.lexeme)

/-- Tokens of one kind and one spelling are alike, whatever texts are compared by. -/
theorem alike_of_same {L : String → String → Prop} (hL : Likeness L) {C : Nat → Nat → Prop}
    {t t' : Token} (hkind : t.kind = t'.kind) (hlexeme : t.lexeme = t'.lexeme)
    (hcolumn : C t.column t'.column) : Alike L C t t' := by
  refine ⟨hkind, ?_, ?_, hcolumn⟩
  · rw [hlexeme]
    exact hL.refl _
  · intro _
    rw [hlexeme, Text.sameIgnoringCase, beq_self_eq_true]

/-- Tokens in other places are alike. -/
theorem alike_of_wording {L : String → String → Prop} (hL : Likeness L) {args args' : List Token}
    (h : args.map wording = args'.map wording) :
    List.Forall₂ (Alike L fun _ _ => True) args args' := by
  rw [← List.forall₂_eq_eq_eq, List.forall₂_map_left_iff, List.forall₂_map_right_iff] at h
  refine h.imp ?_
  intro t t' ht
  obtain ⟨hkind, hlexeme⟩ := Prod.mk.inj ht
  exact alike_of_same hL hkind hlexeme trivial

end Token

theorem Phrase.Alike.eq {p p' : Phrase} (h : p.Alike (· = ·) p') : p = p' := by
  obtain ⟨hraw, htarget, hpreposition, hobject⟩ := h
  have hobject' : p.object = p'.object := by
    generalize p.object = object at hobject ⊢
    generalize p'.object = object' at hobject ⊢
    cases hobject with
    | none => rfl
    | some h => rw [h]
  cases p
  cases p'
  simp_all

/-- **Words let through in one place are let through in another.** -/
theorem Ruling.ofVerb_ok_of_wording {k : Verb} {verb : Token} {args args' : List Token}
    {r : Verb × Phrase} (hargs : args.map Token.wording = args'.map Token.wording)
    (h : ofVerb k verb args = .ok r) : ofVerb k verb args' = .ok r := by
  have hagree : Agree (fun _ _ => True) verb verb (SameDeed (· = ·))
      (ofVerb k verb args) (ofVerb k verb args') :=
    agree_ofVerb Likeness.eq k trivial rfl (Token.alike_of_wording Likeness.eq hargs)
  rw [h] at hagree
  generalize ofVerb k verb args' = ruling at hagree ⊢
  cases hagree with
  | ok hdeed => rw [Prod.ext hdeed.1 hdeed.2.eq]

end Adventure
