/-
The form that aliases are stored in.

An alias is stored without blanks at its ends and in upper case.  The blanks are cut off first, so
it takes an argument that none are left: the case of a visible character never changes to a blank,
and no character vanishes.  For the ends of a text that is enough, whatever is between them.

Upper case is reached at once, so that a stored alias is its own stored form.  Nothing says so but
the tables: a code point can be in one of them on either side, and what the runs of a table give
has to be compared with what its runs take.
-/
import Adventure.Proofs.CaseTables
import Adventure.Proofs.Text
import Adventure.Vocabulary.Overlay
import Mathlib.Data.List.DropRight

namespace Adventure

namespace Text

/-! ### Upper-casing character by character -/

theorem upperSpecials_ne_nil : ∀ entry ∈ upperSpecials, entry.2 ≠ [] := by
  decide

theorem upperChar_ne_nil (c : Char) : upperChar c ≠ [] := by
  unfold upperChar
  by_cases hascii : c.toNat < 0x80
  · rw [if_pos hascii]
    simp
  · rw [if_neg hascii]
    cases hspecial : upperSpecials.lookup c.toNat with
    | none => simp
    | some form =>
        simpa using upperSpecials_ne_nil _ (mem_of_lookup hspecial)

/-- Changing the case makes no text vanish. -/
theorem upper_eq_empty_iff {s : String} : upper s = "" ↔ s = "" := by
  rw [upper, String.ofList_eq_empty_iff, List.flatMap_eq_nil_iff, ← String.toList_eq_nil_iff]
  constructor
  · intro h
    refine List.eq_nil_iff_forall_not_mem.mpr ?_
    intro c hc
    exact upperChar_ne_nil c (h c hc)
  · intro h c hc
    rw [h] at hc
    exact absurd hc (by simp)

/-- What becomes of a character, by the table that says so. -/
inductive UpperForm (c : Char) : Char → Prop
  | ascii (hascii : c.toNat < 0x80) : UpperForm c c.toUpper
  | special {entry : Nat × List Nat} (hentry : entry ∈ upperSpecials) {n : Nat}
      (hn : n ∈ entry.2) : UpperForm c (Char.ofNat n)
  | run {run : CaseRun} (hrun : run ∈ upperRuns) (hholds : run.holds c.toNat = true) :
      UpperForm c (Char.ofNat (run.send c.toNat))
  | unchanged (hascii : ¬ c.toNat < 0x80) (hspecial : upperSpecials.lookup c.toNat = none)
      (hruns : ∀ run ∈ upperRuns, run.holds c.toNat = false) : UpperForm c c

theorem upperForm_of_mem {c d : Char} (hd : d ∈ upperChar c) : UpperForm c d := by
  unfold upperChar at hd
  by_cases hascii : c.toNat < 0x80
  · rw [if_pos hascii, List.mem_singleton] at hd
    rw [hd]
    exact .ascii hascii
  rw [if_neg hascii] at hd
  cases hspecial : upperSpecials.lookup c.toNat with
  | some form =>
      rw [hspecial] at hd
      obtain ⟨n, hn, rfl⟩ := List.mem_map.mp hd
      exact .special (mem_of_lookup hspecial) hn
  | none =>
      rw [hspecial, List.mem_singleton] at hd
      rw [hd]
      have happlied := CaseRun.applied_apply upperRuns c.toNat
      generalize CaseRun.apply upperRuns c.toNat = image at happlied
      cases happlied with
      | sent hrun hholds => exact .run hrun hholds
      | stays hruns =>
          rw [Char.ofNat_toNat]
          exact .unchanged hascii hspecial hruns

/-- A number that is no code point stands for the null character. -/
theorem apply_ofNat {p : Nat → Bool} {b : Bool} {n : Nat} (h : p n = b) (hnull : p 0 = b) :
    p (Char.ofNat n).toNat = b := by
  by_cases hvalid : n.isValidChar
  · rw [show Char.ofNat n = Char.ofNatAux n hvalid from dif_pos hvalid]
    exact h
  · rw [show Char.ofNat n = '\x00' from dif_neg hvalid]
    exact hnull

/-! ### No new blanks -/

/-- Whether a code point is blank. -/
def isBlankCode (n : Nat) : Bool :=
  blankRanges.any fun range => range.1 ≤ n && n ≤ range.2

theorem isBlank_ofNat {n : Nat} (h : isBlankCode n = false) : isBlank (Char.ofNat n) = false :=
  apply_ofNat (p := isBlankCode) h (by decide)

theorem isBlank_toUpper {c : Char} (hascii : c.toNat < 0x80) (h : isBlank c = false) :
    isBlank c.toUpper = false := by
  have hall : ∀ n < 0x80, isBlank (Char.ofNat n) = false →
      isBlank (Char.ofNat n).toUpper = false := by
    decide
  rw [← Char.ofNat_toNat c] at h ⊢
  exact hall c.toNat hascii h

theorem upperSpecials_not_blank : ∀ entry ∈ upperSpecials, ∀ n ∈ entry.2,
    isBlankCode n = false := by
  decide

/-- All that a run sends its code points to lies between two numbers, with no blank between. -/
theorem upperRuns_not_blank : ∀ run ∈ upperRuns, ∀ range ∈ blankRanges,
    range.2 < run.image ∨ run.image + (run.last - run.first) < range.1 := by
  decide +kernel

theorem isBlankCode_send {run : CaseRun} (hrun : run ∈ upperRuns) {n : Nat}
    (hn : run.holds n = true) : isBlankCode (run.send n) = false := by
  have hbetween := CaseRun.send_between hn
  rw [isBlankCode, List.any_eq_false]
  intro range hrange
  have hapart := upperRuns_not_blank run hrun range hrange
  simp only [Bool.and_eq_true, decide_eq_true_eq]
  omega

/-- **Upper case makes no blanks.** -/
theorem not_isBlank_of_mem_upperChar {c d : Char} (hc : isBlank c = false)
    (hd : d ∈ upperChar c) : isBlank d = false := by
  cases upperForm_of_mem hd with
  | ascii hascii => exact isBlank_toUpper hascii hc
  | special hentry hn => exact isBlank_ofNat (upperSpecials_not_blank _ hentry _ hn)
  | run hrun hholds => exact isBlank_ofNat (isBlankCode_send hrun hholds)
  | unchanged => exact hc

/-! ### Capitals stay

Upper case sends code points in runs of one or two steps, so it is enough to look at pairs of runs:
what one of them gives must not be what another one takes.
-/

/-- The runs of code points from U+0080 on that upper case changes; each of those with a longer
form is a run of its own. -/
def changedRuns : List CaseRun :=
  upperRuns ++ upperSpecials.map fun entry => ⟨entry.1, entry.1, 1, entry.1⟩

/-- Whether upper case leaves a code point alone. -/
def isUpperCode (n : Nat) : Bool :=
  (n < 0x61 || 0x7A < n) && changedRuns.all fun run => !run.holds n

/-- Whether all that the first run sends its code points to lies in front of the second or behind
it, or falls between its code points. -/
def CaseRun.avoids (run q : CaseRun) : Bool :=
  Nat.blt (run.image + (run.last - run.first)) q.first || (Nat.blt q.last run.image ||
    Nat.beq q.step 2 && (Nat.beq run.step 2 || Nat.beq run.first run.last) &&
      Nat.beq ((run.image + q.first) % 2) 1)

theorem holds_send {run q : CaseRun} (havoids : run.avoids q = true) {n : Nat}
    (hn : run.holds n = true) : q.holds (run.send n) = false := by
  rw [Bool.eq_false_iff]
  intro hq
  simp only [CaseRun.holds, Bool.and_eq_true, decide_eq_true_eq, beq_iff_eq] at hn hq
  simp only [CaseRun.avoids, Bool.and_eq_true, Bool.or_eq_true, Nat.blt_eq, Nat.beq_eq] at havoids
  rw [CaseRun.send] at hq
  rcases havoids with hfront | hbehind | ⟨⟨hstep, hrun⟩, hodd⟩
  · omega
  · omega
  · -- The second run takes every other code point, and this is not one of them.
    rw [hstep] at hq
    rcases hrun with hrun | hrun
    · rw [hrun] at hn
      omega
    · omega

theorem upperRuns_avoid : (upperRuns.all fun run => changedRuns.all run.avoids) = true := by
  decide +kernel

theorem upperSpecials_isUpperCode : ∀ entry ∈ upperSpecials, ∀ n ∈ entry.2,
    isUpperCode n = true := by
  decide +kernel

/-- In ASCII there is nothing to change but the small letters. -/
theorem isUpperCode_ascii {n : Nat} (hascii : n < 0x80) :
    isUpperCode n = true ↔ n < 0x61 ∨ 0x7A < n := by
  have hfirst : ∀ run ∈ changedRuns, 0x80 ≤ run.first := by
    decide +kernel
  have hruns : ∀ run ∈ changedRuns, (!run.holds n) = true := by
    intro run hrun
    have hbehind := hfirst run hrun
    simp only [CaseRun.holds, Bool.not_eq_true', Bool.and_eq_false_iff, decide_eq_false_iff_not]
    omega
  rw [isUpperCode, List.all_eq_true.mpr hruns]
  simp

theorem isUpperCode_toUpper {c : Char} (hascii : c.toNat < 0x80) :
    isUpperCode c.toUpper.toNat = true := by
  have hall : ∀ n < 0x80, (Char.ofNat n).toUpper.toNat < 0x80 ∧
      ((Char.ofNat n).toUpper.toNat < 0x61 ∨ 0x7A < (Char.ofNat n).toUpper.toNat) := by
    decide
  have hc := hall c.toNat hascii
  rw [Char.ofNat_toNat] at hc
  exact (isUpperCode_ascii hc.1).mpr hc.2

theorem isUpperCode_ofNat {n : Nat} (h : isUpperCode n = true) :
    isUpperCode (Char.ofNat n).toNat = true :=
  apply_ofNat h ((isUpperCode_ascii (by decide)).mpr (by decide))

theorem isUpperCode_send {run : CaseRun} (hrun : run ∈ upperRuns) {n : Nat}
    (hn : run.holds n = true) : isUpperCode (run.send n) = true := by
  have havoids := List.all_eq_true.mp (List.all_eq_true.mp upperRuns_avoid run hrun)
  have hruns : ∀ q ∈ changedRuns, (!q.holds (run.send n)) = true := by
    intro q hq
    rw [holds_send (havoids q hq) hn]
    rfl
  have hcapital : run.send n < 0x61 ∨ 0x7A < run.send n := by
    have hascii : ∀ run ∈ upperRuns,
        run.image + (run.last - run.first) < 0x61 ∨ 0x7A < run.image := by
      decide +kernel
    have himage := hascii run hrun
    have hbetween := CaseRun.send_between hn
    omega
  rw [isUpperCode, List.all_eq_true.mpr hruns]
  simpa using hcapital

/-- A code point that no table has is left alone. -/
theorem isUpperCode_of_unchanged {n : Nat} (hascii : ¬ n < 0x80)
    (hspecial : upperSpecials.lookup n = none) (hruns : ∀ run ∈ upperRuns, run.holds n = false) :
    isUpperCode n = true := by
  have hchanged : ∀ run ∈ changedRuns, (!run.holds n) = true := by
    intro run hrun
    rcases List.mem_append.mp hrun with hrun | hrun
    · simp [hruns run hrun]
    · obtain ⟨entry, hentry, rfl⟩ := List.mem_map.mp hrun
      have hne : n ≠ entry.1 := by simpa using List.lookup_eq_none_iff.mp hspecial entry hentry
      simp only [CaseRun.holds, Bool.not_eq_true', Bool.and_eq_false_iff, decide_eq_false_iff_not]
      omega
  rw [isUpperCode, List.all_eq_true.mpr hchanged]
  simp
  omega

/-- **Upper case gives capitals only.** -/
theorem isUpperCode_of_mem_upperChar {c d : Char} (hd : d ∈ upperChar c) :
    isUpperCode d.toNat = true := by
  cases upperForm_of_mem hd with
  | ascii hascii => exact isUpperCode_toUpper hascii
  | special hentry hn => exact isUpperCode_ofNat (upperSpecials_isUpperCode _ hentry _ hn)
  | run hrun hholds => exact isUpperCode_ofNat (isUpperCode_send hrun hholds)
  | unchanged hascii hspecial hruns => exact isUpperCode_of_unchanged hascii hspecial hruns

theorem upperChar_of_isUpperCode {c : Char} (h : isUpperCode c.toNat = true) :
    upperChar c = [c] := by
  have hholds : ∀ run ∈ changedRuns, run.holds c.toNat = false := by
    have hruns := (Bool.and_eq_true _ _ ▸ h : _ ∧ _).2
    simpa using hruns
  unfold upperChar
  by_cases hascii : c.toNat < 0x80
  · have hall : ∀ n < 0x80, n < 0x61 ∨ 0x7A < n → (Char.ofNat n).toUpper = Char.ofNat n := by
      decide
    have hc := hall c.toNat hascii ((isUpperCode_ascii hascii).mp h)
    rw [Char.ofNat_toNat] at hc
    rw [if_pos hascii, hc]
  have hspecial : upperSpecials.lookup c.toNat = none := by
    refine List.lookup_eq_none_iff.mpr fun entry hentry => ?_
    have hentry := hholds _ (List.mem_append_right _ (List.mem_map.mpr ⟨entry, hentry, rfl⟩))
    by_contra hne
    have heq : c.toNat = entry.1 := by simpa using hne
    simp [CaseRun.holds, heq] at hentry
  have hruns : CaseRun.apply upperRuns c.toNat = c.toNat :=
    CaseRun.apply_of_not_holds fun run hrun => hholds run (List.mem_append_left _ hrun)
  rw [if_neg hascii, hspecial, hruns, Char.ofNat_toNat]

/-- **Upper case is reached at once.** -/
theorem upper_upper (s : String) : upper (upper s) = upper s := by
  have hcapitals : ∀ d ∈ s.toList.flatMap upperChar, upperChar d = [d] := by
    intro d hd
    obtain ⟨c, -, hd⟩ := List.mem_flatMap.mp hd
    exact upperChar_of_isUpperCode (isUpperCode_of_mem_upperChar hd)
  rw [upper, upper, String.toList_ofList, List.flatMap_congr hcapitals, List.flatMap_singleton']

/-! ### Texts without blanks at their ends -/

/-- A text that neither begins nor ends with a blank. -/
structure Trimmed (cs : List Char) : Prop where
  first : ∀ c ∈ cs.head?, isBlank c = false
  last : ∀ c ∈ cs.getLast?, isBlank c = false

theorem dropWhile_blank {cs : List Char} (h : ∀ c ∈ cs.head?, isBlank c = false) :
    cs.dropWhile isBlank = cs := by
  cases cs with
  | nil => rfl
  | cons c rest => rw [List.dropWhile_cons_of_neg (by simp [h c rfl])]

/-- There is nothing to trim. -/
theorem Trimmed.trim_eq {s : String} (h : Trimmed s.toList) : trim s = s := by
  have hlast : ∀ c ∈ s.toList.reverse.head?, isBlank c = false := by
    rw [List.head?_reverse]
    exact h.last
  rw [trim, trimStartChars, dropWhile_blank h.first, trimEndChars, dropWhile_blank hlast,
    List.reverse_reverse, String.ofList_toList]

theorem trimmed_trim (s : String) : Trimmed (trim s).toList := by
  rw [trim, String.toList_ofList]
  constructor
  · intro c hc
    have hfront : trimEndChars (trimStartChars s.toList) <+: trimStartChars s.toList :=
      List.rdropWhile_prefix isBlank (trimStartChars s.toList)
    obtain ⟨back, hback⟩ := hfront
    refine head?_dropWhile_false isBlank s.toList c ?_
    show c ∈ (trimStartChars s.toList).head?
    rw [← hback, List.head?_append, Option.mem_def.mp hc]
    rfl
  · rw [trimEndChars, List.getLast?_reverse]
    exact head?_dropWhile_false isBlank _

/-- A text without blanks is not trimmed. -/
theorem trim_of_visible {s : String} (h : ∀ c ∈ s.toList, isBlank c = false) : trim s = s :=
  Trimmed.trim_eq
    ⟨fun c hc => h c (List.mem_of_head? hc), fun c hc => h c (List.mem_of_getLast? hc)⟩

theorem Trimmed.upper {s : String} (h : Trimmed s.toList) : Trimmed (upper s).toList := by
  rw [Text.upper, String.toList_ofList]
  constructor
  · intro d hd
    cases hs : s.toList with
    | nil => simp [hs] at hd
    | cons c rest =>
        rw [hs, List.flatMap_cons, List.head?_append_of_ne_nil _ (upperChar_ne_nil c)] at hd
        exact not_isBlank_of_mem_upperChar (h.first c (by simp [hs])) (List.mem_of_head? hd)
  · intro d hd
    rcases List.eq_nil_or_concat s.toList with hs | ⟨front, c, hs⟩
    · simp [hs] at hd
    · rw [hs, List.concat_eq_append, List.flatMap_append, List.flatMap_singleton,
        List.getLast?_append_of_ne_nil _ (upperChar_ne_nil c)] at hd
      exact not_isBlank_of_mem_upperChar (h.last c (by simp [hs])) (List.mem_of_getLast? hd)

end Text

namespace Overlay

/-- **Stored aliases have no blanks at their ends.** -/
theorem trim_key (word : String) : Text.trim (key word) = key word :=
  (Text.trimmed_trim word).upper.trim_eq

/-- **Storing a stored alias changes nothing.** -/
theorem key_key (word : String) : key (key word) = key word := by
  rw [key, trim_key, key, Text.upper_upper]

end Overlay

end Adventure
