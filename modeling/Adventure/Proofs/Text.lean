/-
Offsets, columns and characters.

Everything a token says about its place comes from two folds over the characters read so
far: the byte length, which gives offsets, and `Position.after`, which gives lines and
columns.  A cut at a byte offset is the inverse of the first fold.  `splitAtByte?` finds a
cut exactly when the text falls into two parts of which the first has that many bytes, so
a proof that knows the parts never has to look at the offsets again.

The last section is about the classes of characters.  Blank characters and word
characters have tables of their own, and nothing but the tables says that no character is
in both.
-/
import Adventure.Span
import Adventure.Text.Blank
import Adventure.Text.WordChar
import Mathlib.Data.List.Chain
import Mathlib.Data.List.TakeWhile

namespace Adventure

namespace Text

/-! ### Cuts at byte offsets -/

@[simp] theorem byteLength_nil : byteLength [] = 0 := rfl

@[simp] theorem byteLength_cons (c : Char) (cs : List Char) :
    byteLength (c :: cs) = c.utf8Size + byteLength cs := rfl

@[simp] theorem byteLength_append (a b : List Char) :
    byteLength (a ++ b) = byteLength a + byteLength b := by
  induction a with
  | nil => simp
  | cons c cs ih => rw [List.cons_append, byteLength_cons, byteLength_cons, ih, Nat.add_assoc]

theorem byteLength_pos {cs : List Char} (h : cs ≠ []) : 0 < byteLength cs := by
  cases cs with
  | nil => exact absurd rfl h
  | cons c cs =>
      have hc := c.utf8Size_pos
      rw [byteLength_cons]
      omega

theorem byteLength_eq_zero_iff {cs : List Char} : byteLength cs = 0 ↔ cs = [] := by
  constructor
  · intro hlen
    by_contra hne
    exact absurd hlen (Nat.ne_of_gt (byteLength_pos hne))
  · rintro rfl
    rfl

theorem byteLength_le_append (front cs : List Char) :
    byteLength front ≤ byteLength (front ++ cs) := by
  rw [byteLength_append]
  exact Nat.le_add_right _ _

theorem byteLength_lt_append_iff (front cs : List Char) :
    byteLength front < byteLength (front ++ cs) ↔ cs ≠ [] := by
  rw [byteLength_append, Nat.lt_add_right_iff_pos, Nat.pos_iff_ne_zero, ne_eq,
    byteLength_eq_zero_iff]

/-- A cut at an offset is a way to read the text as two parts, the first that long. -/
theorem splitAtByte?_eq_some_iff {cs front back : List Char} {n : Nat} :
    splitAtByte? n cs = some (front, back) ↔ cs = front ++ back ∧ byteLength front = n := by
  fun_induction splitAtByte? n cs generalizing front back with
  | case1 cs =>
      constructor
      · intro h
        simp only [Option.some.injEq, Prod.mk.injEq] at h
        obtain ⟨rfl, rfl⟩ := h
        exact ⟨rfl, rfl⟩
      · rintro ⟨rfl, hlen⟩
        rw [byteLength_eq_zero_iff.mp hlen, List.nil_append]
  | case2 n =>
      constructor
      · intro h
        simp at h
      · rintro ⟨hcs, hlen⟩
        obtain ⟨rfl, -⟩ := List.append_eq_nil_iff.mp hcs.symm
        simp at hlen
  | case3 n c cs hle ih =>
      rw [Option.map_eq_some_iff]
      constructor
      · rintro ⟨⟨a, b⟩, hab, heq⟩
        obtain ⟨hcs, hlen⟩ := ih.mp hab
        simp only [Prod.mk.injEq] at heq
        obtain ⟨rfl, rfl⟩ := heq
        refine ⟨by rw [hcs, List.cons_append], ?_⟩
        rw [byteLength_cons]
        omega
      · rintro ⟨hcs, hlen⟩
        cases front with
        | nil => simp at hlen
        | cons d a =>
            rw [List.cons_append, List.cons.injEq] at hcs
            obtain ⟨rfl, hcs⟩ := hcs
            rw [byteLength_cons] at hlen
            exact ⟨(a, back), ih.mpr ⟨hcs, by omega⟩, rfl⟩
  | case4 n c cs hgt =>
      constructor
      · intro h
        simp at h
      · rintro ⟨hcs, hlen⟩
        cases front with
        | nil => simp at hlen
        | cons d a =>
            rw [List.cons_append, List.cons.injEq] at hcs
            obtain ⟨rfl, -⟩ := hcs
            rw [byteLength_cons] at hlen
            omega

theorem splitAtByte?_byteLength (cs : List Char) :
    splitAtByte? (byteLength cs) cs = some (cs, []) :=
  splitAtByte?_eq_some_iff.mpr ⟨(List.append_nil cs).symm, rfl⟩

/-- The stretch between two offsets is the middle of three parts. -/
theorem slice?_eq_some_iff {cs middle : List Char} {start stop : Nat} :
    slice? start stop cs = some middle ↔
      ∃ front back, cs = front ++ (middle ++ back) ∧ byteLength front = start ∧
        byteLength (front ++ middle) = stop := by
  unfold slice?
  by_cases hle : start ≤ stop
  · simp only [guard, if_pos hle, Option.bind_eq_bind, Option.pure_def, Option.bind_some,
      Option.bind_eq_some_iff, Option.some.injEq]
    constructor
    · rintro ⟨⟨front, rest⟩, hfront, ⟨mid, back⟩, hmid, rfl⟩
      obtain ⟨rfl, hfrontLen⟩ := splitAtByte?_eq_some_iff.mp hfront
      obtain ⟨rfl, hmidLen⟩ := splitAtByte?_eq_some_iff.mp hmid
      refine ⟨front, back, rfl, hfrontLen, ?_⟩
      rw [byteLength_append, hfrontLen, hmidLen]
      omega
    · rintro ⟨front, back, rfl, hfrontLen, hlen⟩
      rw [byteLength_append] at hlen
      exact ⟨(front, middle ++ back), splitAtByte?_eq_some_iff.mpr ⟨rfl, hfrontLen⟩,
        (middle, back), splitAtByte?_eq_some_iff.mpr ⟨rfl, by omega⟩, rfl⟩
  · constructor
    · intro h
      simp [guard, hle] at h
    · rintro ⟨front, back, -, hfrontLen, hlen⟩
      rw [byteLength_append] at hlen
      omega

end Text

namespace Position

/-! ### Positions after more characters -/

@[simp] theorem after_nil (p : Position) : p.after [] = p := rfl

@[simp] theorem after_cons (p : Position) (c : Char) (cs : List Char) :
    p.after (c :: cs) = (p.next c).after cs := rfl

theorem after_append (p : Position) (a b : List Char) :
    p.after (a ++ b) = (p.after a).after b :=
  List.foldl_append

theorem after_after_append (p : Position) (a b c : List Char) :
    (p.after a).after (b ++ c) = p.after (a ++ b ++ c) := by
  rw [← after_append, List.append_assoc]

theorem offset_next (p : Position) (c : Char) : (p.next c).offset = p.offset + c.utf8Size := by
  unfold next
  split <;> rfl

theorem offset_after (p : Position) (cs : List Char) :
    (p.after cs).offset = p.offset + Text.byteLength cs := by
  induction cs generalizing p with
  | nil => rfl
  | cons c cs ih => rw [after_cons, ih, offset_next, Text.byteLength_cons, Nat.add_assoc]

theorem offset_start (cs : List Char) : (after {} cs).offset = Text.byteLength cs := by
  rw [offset_after]
  exact Nat.zero_add _

theorem offset_after_after (a b : List Char) :
    ((after {} a).after b).offset = Text.byteLength (a ++ b) := by
  rw [← after_append, offset_start]

theorem column_next_le (p : Position) (c : Char) : (p.next c).column ≤ p.column + 1 := by
  unfold next
  split
  · exact Nat.zero_le _
  · exact Nat.le_refl _

/-- A column counts characters that were read, not more. -/
theorem column_after_le (p : Position) (cs : List Char) :
    (p.after cs).column ≤ p.column + cs.length := by
  induction cs generalizing p with
  | nil => exact Nat.le_refl _
  | cons c cs ih =>
      have hstep := column_next_le p c
      have hrest := ih (p.next c)
      rw [after_cons, List.length_cons]
      omega

theorem column_start_le (cs : List Char) : (after {} cs).column ≤ cs.length := by
  have h := column_after_le {} cs
  rwa [Nat.zero_add] at h

end Position

namespace Text

/-! ### Runs that stop

A run of characters with a property, followed by nothing or by a character without it.
-/

section Runs

variable {p : Char → Bool} {run rest : List Char}

theorem takeWhile_run (hrun : ∀ c ∈ run, p c = true) (hrest : ∀ c ∈ rest.head?, p c = false) :
    (run ++ rest).takeWhile p = run := by
  rw [List.takeWhile_append_of_pos hrun]
  cases rest with
  | nil => simp
  | cons c cs =>
      have hc : p c = false := hrest c rfl
      rw [List.takeWhile_cons_of_neg (by simp [hc]), List.append_nil]

theorem dropWhile_run (hrun : ∀ c ∈ run, p c = true) (hrest : ∀ c ∈ rest.head?, p c = false) :
    (run ++ rest).dropWhile p = rest := by
  rw [List.dropWhile_append_of_pos hrun]
  cases rest with
  | nil => rfl
  | cons c cs =>
      have hc : p c = false := hrest c rfl
      rw [List.dropWhile_cons_of_neg (by simp [hc])]

/-- Texts that go on behind such a run agree in the run and in what is behind it. -/
theorem run_append_inj {run' rest' : List Char} (hrun : ∀ c ∈ run, p c = true)
    (hrest : ∀ c ∈ rest.head?, p c = false) (hrun' : ∀ c ∈ run', p c = true)
    (hrest' : ∀ c ∈ rest'.head?, p c = false) (h : run ++ rest = run' ++ rest') :
    run = run' ∧ rest = rest' := by
  constructor
  · rw [← takeWhile_run hrun hrest, h, takeWhile_run hrun' hrest']
  · rw [← dropWhile_run hrun hrest, h, dropWhile_run hrun' hrest']

end Runs

theorem head?_dropWhile_false (p : Char → Bool) (cs : List Char) :
    ∀ c ∈ (cs.dropWhile p).head?, p c = false := by
  intro c hc
  have h := List.head?_dropWhile_not p cs
  rw [Option.mem_def.mp hc] at h
  exact h

/-! ### Classes of characters -/

theorem inRanges_iff {ranges : List (Nat × Nat)} {c : Char} :
    inRanges ranges c = true ↔ ∃ r ∈ ranges, r.1 ≤ c.toNat ∧ c.toNat ≤ r.2 := by
  simp [inRanges]

/-- Two tables without a common code point have no common character. -/
theorem not_inRanges_of_disjoint {rs qs : List (Nat × Nat)}
    (hdisjoint : (rs.all fun r => qs.all fun q => r.2 < q.1 || q.2 < r.1) = true) {c : Char}
    (h : inRanges rs c = true) : inRanges qs c = false := by
  rw [Bool.eq_false_iff]
  intro hq
  obtain ⟨r, hr, hrlo, hrhi⟩ := inRanges_iff.mp h
  obtain ⟨q, hq, hqlo, hqhi⟩ := inRanges_iff.mp hq
  have hrq := List.all_eq_true.mp (List.all_eq_true.mp hdisjoint r hr) q hq
  simp only [Bool.or_eq_true, decide_eq_true_eq] at hrq
  omega

/-- ASCII letters and digits lie between `0` and `z`. -/
theorem inRanges_of_isAlphanum {c : Char} (h : c.isAlphanum = true) :
    inRanges [(0x30, 0x7A)] c = true := by
  have hcode : (decide ('A'.val ≤ c.val ∧ c.val ≤ 'Z'.val) ||
      (decide ('a'.val ≤ c.val) && decide (c.val ≤ 'z'.val)) ||
      (decide ('0'.val ≤ c.val) && decide (c.val ≤ '9'.val))) = true := h
  simp only [Bool.or_eq_true, Bool.and_eq_true, decide_eq_true_eq, UInt32.le_iff_toNat_le] at hcode
  change ((65 ≤ c.toNat ∧ c.toNat ≤ 90) ∨ 97 ≤ c.toNat ∧ c.toNat ≤ 122) ∨
    48 ≤ c.toNat ∧ c.toNat ≤ 57 at hcode
  refine inRanges_iff.mpr ⟨(0x30, 0x7A), by simp, ?_⟩
  show 48 ≤ c.toNat ∧ c.toNat ≤ 122
  omega

/-- No word contains a blank. -/
theorem not_isBlank_of_isWordChar {c : Char} (h : isWordChar c = true) : isBlank c = false := by
  simp only [isWordChar, isAlphanumeric, Bool.or_eq_true, beq_iff_eq] at h
  rcases h with (h | rfl) | rfl
  · split at h
    · exact not_inRanges_of_disjoint (by decide) (inRanges_of_isAlphanum h)
    · exact not_inRanges_of_disjoint (by decide +kernel) h
  · decide
  · decide

end Text

end Adventure
