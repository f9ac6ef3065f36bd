/-
Quoted texts can be told apart, and stay on one line.

What is written for a character never begins like what is written for another one, so a
quoted text is read from its front, character by character, and its closing quote is where what is
written for no character begins.  Nothing has to be known of what follows it.

The last section is about the words that stand between quoted texts.  They are words of a line
in lower case, and no letter becomes a control character, a space or an equals sign.
-/
import Adventure.Proofs.CaseTables
import Adventure.Proofs.Text
import Adventure.Text.Lower
import Adventure.Text.Quoted

namespace Adventure.Text

/-! ### Hexadecimal digits -/

theorem hexNumber?_concat (cs : List Char) (c : Char) :
    hexNumber? (cs ++ [c]) = do return 16 * (← hexNumber? cs) + (← hexValue? c) := by
  rw [hexNumber?, List.foldl_concat]
  rfl

theorem hexValue?_digitChar : ∀ n < 16, hexValue? n.digitChar = some n := by
  decide

/-- The digits of a number spell it. -/
theorem hexNumber?_hexDigits (n : Nat) : hexNumber? (hexDigits n) = some n := by
  unfold hexDigits
  induction n using Nat.strong_induction_on with
  | _ n ih =>
      by_cases hsmall : n < 16
      · rw [Nat.toDigits_of_lt_base hsmall]
        show (do return 16 * 0 + (← hexValue? n.digitChar)) = some n
        rw [hexValue?_digitChar n hsmall]
        simp
      · have hlast := hexValue?_digitChar (n % 16) (Nat.mod_lt n (by decide))
        rw [Nat.toDigits_of_base_le (by decide) (by omega), hexNumber?_concat,
          ih (n / 16) (by omega), hlast]
        simp only [Option.pure_def, Option.bind_eq_bind, Option.bind_some]
        rw [Nat.div_add_mod]

theorem exists_digit_of_mem {n : Nat} {c : Char} (h : c ∈ hexDigits n) :
    ∃ d < 16, c = d.digitChar := by
  unfold hexDigits at h
  induction n using Nat.strong_induction_on with
  | _ n ih =>
      by_cases hsmall : n < 16
      · rw [Nat.toDigits_of_lt_base hsmall, List.mem_singleton] at h
        exact ⟨n, hsmall, h⟩
      · rw [Nat.toDigits_of_base_le (by decide) (by omega), List.mem_append,
          List.mem_singleton] at h
        rcases h with h | h
        · exact ih (n / 16) (by omega) h
        · exact ⟨n % 16, Nat.mod_lt n (by decide), h⟩

/-- The digits of a number end where something stands that is no digit. -/
theorem hexDigits_append_inj {m n : Nat} {r s : List Char}
    (h : hexDigits m ++ '\x7d' :: r = hexDigits n ++ '\x7d' :: s) : m = n ∧ r = s := by
  have hrun : ∀ n, ∀ c ∈ hexDigits n, (hexValue? c).isSome = true := by
    intro n c hc
    obtain ⟨d, hd, rfl⟩ := exists_digit_of_mem hc
    rw [hexValue?_digitChar d hd]
    rfl
  have hstop : ∀ rest : List Char, ∀ c ∈ ('\x7d' :: rest).head?, (hexValue? c).isSome = false := by
    intro rest c hc
    obtain rfl : '\x7d' = c := by simpa using hc
    rfl
  obtain ⟨hdigits, hrest⟩ := run_append_inj (hrun m) (hstop r) (hrun n) (hstop s) h
  refine ⟨?_, (List.cons.inj hrest).2⟩
  rw [← Option.some_inj, ← hexNumber?_hexDigits m, hdigits, hexNumber?_hexDigits]

/-! ### What is written for a character -/

/-- The character that a letter behind a backslash stands for. -/
def named? : Char → Option Char
  | '"' => some '"'
  | '\\' => some '\\'
  | '0' => some '\x00'
  | 't' => some '\t'
  | 'n' => some '\n'
  | 'r' => some '\r'
  | _ => none

/-- How a character can be written between quotes. -/
inductive Writes : Char → List Char → Prop
  | letter {c letter : Char} (h : named? letter = some c) : Writes c ['\\', letter]
  | code {c : Char} (h : isHidden c = true) :
      Writes c ('\\' :: 'u' :: '\x7b' :: (hexDigits c.toNat ++ ['\x7d']))
  | itself {c : Char} (hquote : c ≠ '"') (hslash : c ≠ '\\') (h : isHidden c = false) :
      Writes c [c]

theorem writes_quoteChar (c : Char) : Writes c (quoteChar c) := by
  unfold quoteChar
  by_cases hquote : c = '"'
  · rw [if_pos hquote]
    exact .letter (by rw [hquote]; rfl)
  rw [if_neg hquote]
  by_cases hslash : c = '\\'
  · rw [if_pos hslash]
    exact .letter (by rw [hslash]; rfl)
  rw [if_neg hslash]
  by_cases hnull : c.toNat = 0
  · rw [if_pos hnull]
    rw [← Char.ofNat_toNat c, hnull]
    exact .letter rfl
  rw [if_neg hnull]
  by_cases htab : c = '\t'
  · rw [if_pos htab]
    exact .letter (by rw [htab]; rfl)
  rw [if_neg htab]
  by_cases hfeed : c = '\n'
  · rw [if_pos hfeed]
    exact .letter (by rw [hfeed]; rfl)
  rw [if_neg hfeed]
  by_cases hreturn : c = '\r'
  · rw [if_pos hreturn]
    exact .letter (by rw [hreturn]; rfl)
  rw [if_neg hreturn]
  cases hhidden : isHidden c with
  | true => exact .code hhidden
  | false => exact .itself hquote hslash hhidden

namespace Writes

variable {c d : Char} {a b r s : List Char}

/-- **One character is read from the front.** -/
theorem append_inj (hc : Writes c a) (hd : Writes d b) (h : a ++ r = b ++ s) :
    c = d ∧ r = s := by
  cases hc with
  | @letter letter hletter =>
      cases hd with
      | @letter letter' hletter' =>
          obtain ⟨rfl, rfl⟩ : letter = letter' ∧ r = s := by simpa using h
          exact ⟨Option.some.inj (hletter.symm.trans hletter'), rfl⟩
      | code =>
          obtain rfl : letter = 'u' := by simp at h; exact h.1
          exact nomatch hletter
      | itself _ hslash => exact absurd (by simp at h; exact h.1.symm) hslash
  | code =>
      cases hd with
      | @letter letter hletter =>
          obtain rfl : letter = 'u' := by simp at h; exact h.1.symm
          exact nomatch hletter
      | code =>
          have hdigits : hexDigits c.toNat ++ '\x7d' :: r = hexDigits d.toNat ++ '\x7d' :: s := by
            simpa using h
          obtain ⟨hcode, hrest⟩ := hexDigits_append_inj hdigits
          exact ⟨Char.toNat_inj.mp hcode, hrest⟩
      | itself _ hslash => exact absurd (by simp at h; exact h.1.symm) hslash
  | itself _ hslash =>
      cases hd with
      | letter => exact absurd (by simp at h; exact h.1) hslash
      | code => exact absurd (by simp at h; exact h.1) hslash
      | itself => simpa using h

/-- A closing quote is nothing that is written for a character. -/
theorem ne_quote (hc : Writes c a) : a ++ r ≠ '"' :: s := by
  cases hc with
  | letter => simp
  | code => simp
  | itself hquote => simp [hquote]

end Writes

theorem flatMap_quoteChar_append_inj {r s : List Char} : ∀ {a b : List Char},
    a.flatMap quoteChar ++ '"' :: r = b.flatMap quoteChar ++ '"' :: s → a = b ∧ r = s
  | [], [], h => ⟨rfl, by simpa using h⟩
  | [], d :: b, h => by
      rw [List.flatMap_cons, List.append_assoc] at h
      exact absurd h.symm (writes_quoteChar d).ne_quote
  | c :: a, [], h => by
      rw [List.flatMap_cons, List.append_assoc] at h
      exact absurd h (writes_quoteChar c).ne_quote
  | c :: a, d :: b, h => by
      rw [List.flatMap_cons, List.flatMap_cons, List.append_assoc, List.append_assoc] at h
      obtain ⟨rfl, hrest⟩ := (writes_quoteChar c).append_inj (writes_quoteChar d) h
      obtain ⟨rfl, rfl⟩ := flatMap_quoteChar_append_inj hrest
      exact ⟨rfl, rfl⟩

/-- **A quoted text is read from the front, whatever follows it.** -/
theorem quoted_append_inj {a b : String} {r s : List Char}
    (h : (quoted a).toList ++ r = (quoted b).toList ++ s) : a = b ∧ r = s := by
  have hbody : a.toList.flatMap quoteChar ++ '"' :: r = b.toList.flatMap quoteChar ++ '"' :: s := by
    simpa [quoted] using h
  obtain ⟨htext, hrest⟩ := flatMap_quoteChar_append_inj hbody
  exact ⟨String.toList_inj.mp htext, hrest⟩

/-! ### No control characters -/

/-- Control characters. -/
def controlRanges : List (Nat × Nat) :=
  [(0x00, 0x1F), (0x7F, 0x9F)]

/-- A character that stands for an action and not for a sign, such as a line feed. -/
def isControl (c : Char) : Bool :=
  inRanges controlRanges c

theorem not_isControl_of_not_isHidden {c : Char} (h : isHidden c = false) :
    isControl c = false := by
  rw [Bool.eq_false_iff]
  intro hcontrol
  unfold isHidden at h
  split at h
  · rename_i hascii
    simp only [isControl, inRanges, controlRanges, List.any_cons, List.any_nil, Bool.or_false,
      Bool.or_eq_true, Bool.and_eq_true, decide_eq_true_eq, Bool.or_eq_false_iff,
      decide_eq_false_iff_not, beq_eq_false_iff_ne] at hcontrol h
    omega
  · rename_i hascii
    refine Bool.eq_false_iff.mp h (inRanges_iff.mpr ⟨(0x80, 0xA0), List.mem_cons_self, ?_⟩)
    obtain ⟨range, hrange, hlow, hhigh⟩ := inRanges_iff.mp hcontrol
    simp only [controlRanges, List.mem_cons, List.not_mem_nil, or_false] at hrange
    rcases hrange with rfl | rfl <;> (simp only at hlow hhigh ⊢; omega)

theorem not_isControl_of_named? {letter c : Char} (h : named? letter = some c) :
    isControl letter = false := by
  unfold named? at h
  split at h
  case h_7 => exact nomatch h
  all_goals decide

/-- What is written for a character has no control characters. -/
theorem Writes.not_isControl {c : Char} {written : List Char} (h : Writes c written) :
    ∀ x ∈ written, isControl x = false := by
  cases h with
  | @letter letter hletter =>
      simpa using ⟨by decide, not_isControl_of_named? hletter⟩
  | code hhidden =>
      have hdigits : ∀ x ∈ hexDigits c.toNat, isControl x = false := by
        intro x hx
        have hall : ∀ d < 16, isControl d.digitChar = false := by decide
        obtain ⟨d, hd, rfl⟩ := exists_digit_of_mem hx
        exact hall d hd
      simp only [List.forall_mem_cons, List.forall_mem_append]
      exact ⟨by decide, by decide, by decide, hdigits, by decide, by simp⟩
  | itself hquote hslash hvisible =>
      simpa using not_isControl_of_not_isHidden hvisible

/-- **A quoted text has no control characters.** -/
theorem not_isControl_quoted (s : String) : ∀ c ∈ (quoted s).toList, isControl c = false := by
  simp only [quoted, String.toList_ofList, List.forall_mem_cons, List.forall_mem_append]
  refine ⟨⟨by decide, ?_⟩, by decide, by simp⟩
  intro x hx
  obtain ⟨c, -, hx⟩ := List.mem_flatMap.mp hx
  exact (writes_quoteChar c).not_isControl x hx

/-! ### Words between quoted texts -/

/-- Control characters, the space and the equals sign. -/
def delimiterRanges : List (Nat × Nat) :=
  [(0x00, 0x20), (0x3D, 0x3D), (0x7F, 0x9F)]

/-- A character that ends a word between quoted texts, or that no line can have. -/
def isDelimiter (c : Char) : Bool :=
  inRanges delimiterRanges c

/-- A fixed word is looked through for delimiters. -/
theorem forall_not_isDelimiter {cs : List Char} (h : (cs.any isDelimiter) = false) :
    ∀ c ∈ cs, isDelimiter c = false := by
  simpa using h

theorem not_isControl_of_not_isDelimiter {c : Char} (h : isDelimiter c = false) :
    isControl c = false := by
  rw [Bool.eq_false_iff] at h ⊢
  intro hcontrol
  obtain ⟨range, hrange, hlow, hhigh⟩ := inRanges_iff.mp hcontrol
  simp only [controlRanges, List.mem_cons, List.not_mem_nil, or_false] at hrange
  refine h (inRanges_iff.mpr ?_)
  rcases hrange with rfl | rfl
  · exact ⟨(0x00, 0x20), by simp [delimiterRanges], hlow, Nat.le_succ_of_le hhigh⟩
  · exact ⟨(0x7F, 0x9F), by simp [delimiterRanges], hlow, hhigh⟩

/-- All that a run sends its code points to lies between two numbers, which are code points with
no delimiter between. -/
theorem lowerRuns_not_delimiter : ∀ run ∈ lowerRuns,
    (run.image + (run.last - run.first) < 0xD800 ∨
      0xDFFF < run.image ∧ run.image + (run.last - run.first) < 0x110000) ∧
      ∀ range ∈ delimiterRanges,
        range.2 < run.image ∨ run.image + (run.last - run.first) < range.1 := by
  decide +kernel

theorem not_isDelimiter_send {run : CaseRun} (hrun : run ∈ lowerRuns) {n : Nat}
    (hn : run.holds n = true) : isDelimiter (Char.ofNat (run.send n)) = false := by
  obtain ⟨hscalar, hapart⟩ := lowerRuns_not_delimiter run hrun
  have hbetween := CaseRun.send_between hn
  have hvalid : (run.send n).isValidChar := by
    rw [Nat.isValidChar]
    omega
  have hcode : (Char.ofNat (run.send n)).toNat = run.send n := by
    rw [Char.ofNat, dif_pos hvalid]
    rfl
  rw [Bool.eq_false_iff]
  intro hdelimiter
  obtain ⟨range, hrange, hlow, hhigh⟩ := inRanges_iff.mp hdelimiter
  have hout := hapart range hrange
  omega

/-- A word character stays clear of delimiters in lower case. -/
theorem not_isDelimiter_of_mem_lowerChar {c d : Char} (hc : isWordChar c = true)
    (hd : d ∈ lowerChar c) : isDelimiter d = false := by
  unfold lowerChar at hd
  by_cases hascii : c.toNat < 0x80
  · have hall : ∀ n < 0x80, isWordChar (Char.ofNat n) = true →
        isDelimiter (Char.ofNat n).toLower = false := by
      decide
    rw [if_pos hascii, List.mem_singleton] at hd
    rw [hd, ← Char.ofNat_toNat c]
    exact hall c.toNat hascii (by rwa [Char.ofNat_toNat])
  rw [if_neg hascii] at hd
  cases hspecial : lowerSpecials.lookup c.toNat with
  | some form =>
      have hall : ∀ entry ∈ lowerSpecials, ∀ n ∈ entry.2, isDelimiter (Char.ofNat n) = false := by
        decide
      rw [hspecial] at hd
      obtain ⟨n, hn, rfl⟩ := List.mem_map.mp hd
      exact hall _ (mem_of_lookup hspecial) n hn
  | none =>
      rw [hspecial, List.mem_singleton] at hd
      rw [hd]
      have happlied := CaseRun.applied_apply lowerRuns c.toNat
      generalize CaseRun.apply lowerRuns c.toNat = image at happlied
      cases happlied with
      | sent hrun hholds => exact not_isDelimiter_send hrun hholds
      | stays =>
          -- The character stays, and it is a letter or a digit.
          simp only [isWordChar, isAlphanumeric, if_neg hascii, Bool.or_eq_true, beq_iff_eq] at hc
          rw [Char.ofNat_toNat]
          rcases hc with (hc | rfl) | rfl
          · exact not_inRanges_of_disjoint (by decide +kernel) hc
          · decide
          · decide

/-- **Words of a line have no delimiters in lower case.** -/
theorem not_isDelimiter_lower {s : String} (h : ∀ c ∈ s.toList, isWordChar c = true) :
    ∀ d ∈ (lower s).toList, isDelimiter d = false := by
  have hchars : ∀ cs : List Char, (∀ c ∈ cs, isWordChar c = true) → ∀ before,
      ∀ d ∈ lowerChars before cs, isDelimiter d = false := by
    intro cs hcs
    induction cs with
    | nil => simp [lowerChars]
    | cons c cs ih =>
        intro before
        obtain ⟨hc, hcs⟩ := List.forall_mem_cons.mp hcs
        rw [lowerChars, List.forall_mem_append]
        refine ⟨?_, ih hcs _⟩
        by_cases hsigma : c = 'Σ'
        · rw [if_pos hsigma, List.forall_mem_singleton, lowerSigma]
          split
          · decide
          · decide
        · rw [if_neg hsigma]
          exact fun d hd => not_isDelimiter_of_mem_lowerChar hc hd
  rw [lower, String.toList_ofList]
  exact hchars s.toList h []

end Adventure.Text
