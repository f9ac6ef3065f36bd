/-
The case of ASCII letters.

Case is folded in four ways: words are looked up in upper case, quoted in errors in lower
case, compared with `run` letter by letter and with `around` in lower case.  They fold
ASCII letters alike, and whatever else is asked of a character has the same answer for a
capital and its small letter.  Each fact is stated as one about `Char.toLower` and checked
for the twenty-six capitals, since no other character is changed by it.

The one rule that looks at neighbours is the final sigma.  It asks whether they are cased,
and a letter is cased in either case.
-/
import Adventure.Text.Ascii
import Adventure.Text.Lower
import Adventure.Text.Upper
import Adventure.Proofs.Text

namespace Adventure

namespace Text

/-! ### Single characters -/

/-- The letters that `Char.toLower` changes. -/
def capitals : List Char :=
  (List.range 26).map fun i => Char.ofNat (65 + i)

theorem toLower_eq_or_mem (c : Char) : c.toLower = c ∨ c ∈ capitals := by
  unfold Char.toLower
  by_cases h : c.val ≥ 'A'.val ∧ c.val ≤ 'Z'.val
  · obtain ⟨hlo, hhi⟩ := h
    change 65 ≤ c.toNat at hlo
    change c.toNat ≤ 90 at hhi
    refine Or.inr (List.mem_map.mpr ⟨c.toNat - 65, List.mem_range.mpr (by omega), ?_⟩)
    rw [show 65 + (c.toNat - 65) = c.toNat by omega, Char.ofNat_toNat]
  · rw [dif_neg h]
    exact Or.inl rfl

/-- What holds of the small form of each capital as of the capital holds of all characters. -/
theorem apply_toLower {α : Type} [DecidableEq α] {f : Char → α}
    (h : (capitals.all fun c => f c.toLower = f c) = true) (c : Char) : f c.toLower = f c := by
  rcases toLower_eq_or_mem c with hsame | hcapital
  · rw [hsame]
  · exact of_decide_eq_true (List.all_eq_true.mp h c hcapital)

theorem toLower_toLower (c : Char) : c.toLower.toLower = c.toLower :=
  apply_toLower (by decide) c

@[simp] theorem isWordChar_toLower (c : Char) : isWordChar c.toLower = isWordChar c :=
  apply_toLower (by decide) c

@[simp] theorem isBlank_toLower (c : Char) : isBlank c.toLower = isBlank c :=
  apply_toLower (by decide) c

theorem isCased_toLower (c : Char) : isCased c.toLower = isCased c :=
  apply_toLower (by decide) c

theorem isCaseIgnorable_toLower (c : Char) : isCaseIgnorable c.toLower = isCaseIgnorable c :=
  apply_toLower (by decide +kernel) c

theorem upperChar_toLower (c : Char) : upperChar c.toLower = upperChar c :=
  apply_toLower (by decide) c

theorem lowerChar_toLower (c : Char) : lowerChar c.toLower = lowerChar c :=
  apply_toLower (by decide) c

@[simp] theorem utf8Size_toLower (c : Char) : c.toLower.utf8Size = c.utf8Size :=
  apply_toLower (by decide) c

/-- Only letters become letters. -/
theorem toLower_eq_iff {k : Char} (hlower : k.toLower = k)
    (h : (capitals.all fun c => c.toLower != k) = true) (c : Char) : c.toLower = k ↔ c = k := by
  constructor
  · intro hc
    rcases toLower_eq_or_mem c with hsame | hcapital
    · rw [← hsame, hc]
    · exact absurd hc (bne_iff_ne.mp (List.all_eq_true.mp h c hcapital))
  · rintro rfl
    exact hlower

/-! ### Texts -/

/-- A text with its ASCII letters in lower case. -/
def foldCase (s : String) : String :=
  String.ofList (s.toList.map Char.toLower)

@[simp] theorem toList_foldCase (s : String) : (foldCase s).toList = s.toList.map Char.toLower :=
  String.toList_ofList

theorem foldCase_ofList (cs : List Char) :
    foldCase (String.ofList cs) = String.ofList (cs.map Char.toLower) := by
  rw [foldCase, String.toList_ofList]

theorem sameIgnoringCase_iff {s t : String} :
    sameIgnoringCase s t = true ↔ foldCase s = foldCase t := by
  rw [sameIgnoringCase, beq_iff_eq, foldCase, foldCase, String.ofList_inj]

theorem sameIgnoringCase_foldCase (s t : String) :
    sameIgnoringCase (foldCase s) t = sameIgnoringCase s t := by
  have hfold : Char.toLower ∘ Char.toLower = Char.toLower := funext toLower_toLower
  rw [sameIgnoringCase, sameIgnoringCase, toList_foldCase, List.map_map, hfold]

@[simp] theorem isBlankText_foldCase (s : String) : isBlankText (foldCase s) = isBlankText s := by
  rw [isBlankText, toList_foldCase, List.all_map]
  congr 1
  funext c
  exact isBlank_toLower c

@[simp] theorem upper_foldCase (s : String) : upper (foldCase s) = upper s := by
  rw [upper, upper, toList_foldCase, List.flatMap_map]
  congr 2
  funext c
  exact upperChar_toLower c

theorem startsCased_map_toLower (cs : List Char) :
    startsCased (cs.map Char.toLower) = startsCased cs := by
  have hignorable : isCaseIgnorable ∘ Char.toLower = isCaseIgnorable :=
    funext isCaseIgnorable_toLower
  unfold startsCased
  rw [List.dropWhile_map, hignorable]
  cases cs.dropWhile isCaseIgnorable with
  | nil => rfl
  | cons c rest => exact isCased_toLower c

theorem lowerSigma_map_toLower (before after : List Char) :
    lowerSigma (before.map Char.toLower) (after.map Char.toLower) = lowerSigma before after := by
  rw [lowerSigma, startsCased_map_toLower, startsCased_map_toLower, lowerSigma]

theorem lowerChars_map_toLower (cs : List Char) :
    ∀ before,
      lowerChars (before.map Char.toLower) (cs.map Char.toLower) = lowerChars before cs := by
  induction cs with
  | nil => intro before; rfl
  | cons c cs ih =>
      intro before
      have hsigma : c.toLower = 'Σ' ↔ c = 'Σ' := toLower_eq_iff (by decide) (by decide) c
      have hrest := ih (c :: before)
      rw [List.map_cons] at hrest
      simp only [List.map_cons, lowerChars, hrest, hsigma, lowerSigma_map_toLower,
        lowerChar_toLower]

@[simp] theorem lower_foldCase (s : String) : lower (foldCase s) = lower s := by
  rw [lower, lower, toList_foldCase]
  exact congrArg String.ofList (lowerChars_map_toLower s.toList [])

/-- In ASCII there is no more to lower case than to fold the letters. -/
theorem lower_of_ascii {s : String} (h : ∀ c ∈ s.toList, c.toNat < 0x80) :
    lower s = foldCase s := by
  have hchars : ∀ cs : List Char, (∀ c ∈ cs, c.toNat < 0x80) →
      ∀ before, lowerChars before cs = cs.map Char.toLower := by
    intro cs hcs
    induction cs with
    | nil => intro before; rfl
    | cons c cs ih =>
        intro before
        obtain ⟨hc, hcs⟩ := List.forall_mem_cons.mp hcs
        have hsigma : c ≠ 'Σ' := by
          rintro rfl
          exact absurd hc (by decide)
        rw [lowerChars, if_neg hsigma, lowerChar, if_pos hc, ih hcs]
        rfl
  rw [lower, hchars s.toList h, foldCase]

theorem lower_eq_of_sameIgnoringCase {s t : String} (h : sameIgnoringCase s t = true) :
    lower s = lower t := by
  rw [← lower_foldCase s, sameIgnoringCase_iff.mp h, lower_foldCase]

/-- Texts that differ at most in case are compared alike. -/
theorem sameIgnoringCase_congr {s t : String} (h : sameIgnoringCase s t = true) (u : String) :
    sameIgnoringCase s u = sameIgnoringCase t u := by
  rw [← sameIgnoringCase_foldCase s, sameIgnoringCase_iff.mp h, sameIgnoringCase_foldCase]

end Text

end Adventure
