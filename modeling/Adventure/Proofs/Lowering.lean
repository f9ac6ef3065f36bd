/-
Lower case in parts.

The final sigma makes lower case a matter of neighbours: what stands before a letter and behind it
has a say in what becomes of it.  But it is only the nearest character that case does not look
past.  A character which is neither a letter with case nor looked past cuts a text in two, and each
part is lower-cased as if it were alone.  A slash is one, so words with slashes between them may be
lower-cased together or one by one.
-/
import Adventure.Proofs.CaseTables
import Adventure.Text.Lower

namespace Adventure.Text

/-! ### No text vanishes -/

theorem lowerSpecials_ne_nil : ∀ entry ∈ lowerSpecials, entry.2 ≠ [] := by
  decide

theorem lowerChar_ne_nil (c : Char) : lowerChar c ≠ [] := by
  unfold lowerChar
  by_cases hascii : c.toNat < 0x80
  · rw [if_pos hascii]
    simp
  · rw [if_neg hascii]
    cases hspecial : lowerSpecials.lookup c.toNat with
    | none => simp
    | some form =>
        simpa using lowerSpecials_ne_nil _ (mem_of_lookup hspecial)

theorem lower_ne_empty {s : String} (h : s ≠ "") : lower s ≠ "" := by
  rw [lower, ne_eq, String.ofList_eq_empty_iff]
  cases hs : s.toList with
  | nil => exact absurd (String.toList_eq_nil_iff.mp hs) h
  | cons c cs =>
      rw [lowerChars]
      refine List.append_ne_nil_of_left_ne_nil ?_ _
      split
      · exact List.cons_ne_nil _ _
      · exact lowerChar_ne_nil c

theorem intercalate_ne_empty {word : String} {words : List String} (separator : String)
    (hmem : word ∈ words) (hword : word ≠ "") : separator.intercalate words ≠ "" := by
  induction words with
  | nil => exact absurd hmem List.not_mem_nil
  | cons other rest ih =>
      cases rest with
      | nil =>
          rw [String.intercalate_singleton, ← List.mem_singleton.mp hmem]
          exact hword
      | cons next rest =>
          rw [String.intercalate_cons_cons, ne_eq, String.append_eq_empty_iff,
            String.append_eq_empty_iff]
          rintro ⟨⟨rfl, -⟩, hrest⟩
          rcases List.mem_cons.mp hmem with rfl | hmem
          · exact hword rfl
          · exact ih hmem hrest

/-- A character that stays as it is stays in the text. -/
theorem mem_lower {c : Char} (hplain : lowerChar c = [c]) (hsigma : c ≠ 'Σ') {s : String}
    (h : c ∈ s.toList) : c ∈ (lower s).toList := by
  have hchars : ∀ cs : List Char, c ∈ cs → ∀ before, c ∈ lowerChars before cs := by
    intro cs hcs
    induction cs with
    | nil => exact absurd hcs List.not_mem_nil
    | cons d cs ih =>
        intro before
        rw [lowerChars, List.mem_append]
        rcases List.mem_cons.mp hcs with rfl | hcs
        · rw [if_neg hsigma, hplain]
          exact Or.inl (List.mem_singleton_self c)
        · exact Or.inr (ih hcs _)
  rw [lower, String.toList_ofList]
  exact hchars s.toList h []

/-! ### Characters that divide a text -/

/-- A character that stays as it is, and that no case rule looks past or counts as a letter. -/
structure Divides (c : Char) : Prop where
  plain : lowerChar c = [c]
  not_sigma : c ≠ 'Σ'
  not_ignorable : isCaseIgnorable c = false
  not_cased : isCased c = false

theorem divides_slash : Divides '/' where
  plain := by decide
  not_sigma := by decide
  not_ignorable := by decide +kernel
  not_cased := by decide +kernel

namespace Divides

variable {c : Char}

/-- Case does not see what is behind a dividing character. -/
theorem startsCased_append (h : Divides c) (cs rest : List Char) :
    startsCased (cs ++ c :: rest) = startsCased cs := by
  unfold startsCased
  rw [List.dropWhile_append]
  cases cs.dropWhile isCaseIgnorable with
  | nil => simp [h.not_ignorable, h.not_cased]
  | cons d ds => rfl

theorem lowerChars_front (h : Divides c) (a b : List Char) :
    ∀ before, lowerChars before (a ++ c :: b)
      = lowerChars before a ++ lowerChars (a.reverse ++ before) (c :: b) := by
  induction a with
  | nil => intro before; rfl
  | cons d a ih =>
      intro before
      simp only [List.cons_append, lowerChars, lowerSigma, h.startsCased_append, ih,
        List.reverse_cons, List.append_assoc, List.nil_append]

theorem lowerChars_behind (h : Divides c) (far b : List Char) :
    ∀ near, lowerChars (near ++ c :: far) b = lowerChars near b := by
  induction b with
  | nil => intro near; rfl
  | cons d b ih =>
      intro near
      have hrest := ih (d :: near)
      rw [List.cons_append] at hrest
      simp only [lowerChars, lowerSigma, h.startsCased_append, hrest]

/-- **The parts of a divided text are lower-cased one by one.** -/
theorem lower_append (h : Divides c) (a b : String) :
    lower (a ++ String.singleton c ++ b) = lower a ++ String.singleton c ++ lower b := by
  have hchars : (a ++ String.singleton c ++ b).toList = a.toList ++ c :: b.toList := by simp
  have hbehind := h.lowerChars_behind a.toList.reverse b.toList []
  rw [List.nil_append] at hbehind
  rw [lower, hchars, h.lowerChars_front, List.append_nil, lowerChars, if_neg h.not_sigma, h.plain,
    hbehind, lower, lower, ← String.toList_inj]
  simp

theorem lower_intercalate (h : Divides c) (words : List String) :
    lower ((String.singleton c).intercalate words)
      = (String.singleton c).intercalate (words.map lower) := by
  induction words with
  | nil => rfl
  | cons word rest ih =>
      cases rest with
      | nil => rw [List.map_singleton, String.intercalate_singleton, String.intercalate_singleton]
      | cons other rest =>
          rw [String.intercalate_cons_cons, h.lower_append, ih]
          simp only [List.map_cons, String.intercalate_cons_cons]

end Divides

end Adventure.Text
