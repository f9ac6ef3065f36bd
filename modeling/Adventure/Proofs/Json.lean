/-
What is written as JSON reads back.

A value keeps its strings and numbers as they are written, so not every value has a text
that can be read: a literal may be no literal at all.  `Written` says which values come up
when texts, natural numbers and their collections are written.  Of these, the reader takes
exactly the written text off the front of what follows and gives the value back.

Two things have to be right at the seams.  A number goes on as long as digits come, so
what follows a value has to stop it; behind a value that was written there is a comma, a
closing bracket or the end.  And the reader runs on fuel: one unit for each character is
enough, since each value, item and field has a character of its own.
-/
import Adventure.Json.Read
import Adventure.Proofs.Text
import Mathlib.Data.Option.Basic

namespace Adventure.Json

/-! ### Literals -/

/-- How a character can be written in a literal. -/
inductive Escapes : Char → List Char → Prop
  | letter {c letter : Char} (h : escaped? letter = some c) (hletter : 0x20 ≤ letter.toNat) :
      Escapes c ['\\', letter]
  | code {c : Char} (h : c.toNat < 0x20) :
      Escapes c ['\\', 'u', '0', '0', Nat.digitChar (c.toNat / 16), Nat.digitChar (c.toNat % 16)]
  | itself {c : Char} (hquote : c ≠ '"') (hslash : c ≠ '\\') (h : 0x20 ≤ c.toNat) :
      Escapes c [c]

theorem escapes_escapeChar (c : Char) : Escapes c (escapeChar c) := by
  -- A character with a letter of its own is named by its code.
  have hletter : ∀ {letter : Char} {n : Nat}, c.toNat = n →
      escaped? letter = some (Char.ofNat n) → 0x20 ≤ letter.toNat → Escapes c ['\\', letter] := by
    rintro letter n rfl h hletter
    rw [Char.ofNat_toNat] at h
    exact .letter h hletter
  unfold escapeChar
  by_cases hquote : c = '"'
  · rw [if_pos hquote, hquote]
    exact .letter rfl (by decide)
  rw [if_neg hquote]
  by_cases hslash : c = '\\'
  · rw [if_pos hslash, hslash]
    exact .letter rfl (by decide)
  rw [if_neg hslash]
  by_cases hback : c.toNat = 0x08
  · rw [if_pos hback]
    exact hletter hback rfl (by decide)
  rw [if_neg hback]
  by_cases htab : c.toNat = 0x09
  · rw [if_pos htab]
    exact hletter htab rfl (by decide)
  rw [if_neg htab]
  by_cases hfeed : c.toNat = 0x0A
  · rw [if_pos hfeed]
    exact hletter hfeed rfl (by decide)
  rw [if_neg hfeed]
  by_cases hform : c.toNat = 0x0C
  · rw [if_pos hform]
    exact hletter hform rfl (by decide)
  rw [if_neg hform]
  by_cases hret : c.toNat = 0x0D
  · rw [if_pos hret]
    exact hletter hret rfl (by decide)
  rw [if_neg hret]
  by_cases hcode : c.toNat < 0x20
  · rw [if_pos hcode]
    exact .code hcode
  rw [if_neg hcode]
  exact .itself hquote hslash (by omega)

theorem hexNumber?_code : ∀ n < 0x20,
    Text.hexNumber? ['0', '0', Nat.digitChar (n / 16), Nat.digitChar (n % 16)] = some n := by
  decide

theorem ne_u_of_escaped? {letter c : Char} (h : escaped? letter = some c) : letter ≠ 'u' := by
  rintro rfl
  exact nomatch h

/-- A literal is not cut inside of what is written for a character. -/
theorem literal?_append {c : Char} {written : List Char} (h : Escapes c written)
    (tail : List Char) :
    literal? (written ++ tail)
      = (literal? tail).map fun (body, rest) => (written ++ body, rest) := by
  cases h with
  | letter h _ =>
      simp [literal?, h, ne_u_of_escaped? h, Option.map_eq_bind]
  | code h =>
      simp [literal?, hexNumber?_code _ h, Option.map_eq_bind]
  | itself hquote hslash h =>
      simp [literal?, hslash, h, Option.map_eq_bind]

theorem literal?_escape (text : String) (rest : List Char) :
    literal? (escape text ++ '"' :: rest) = some (escape text, rest) := by
  unfold escape
  induction text.toList with
  | nil => simp [literal?]
  | cons c cs ih =>
      rw [List.flatMap_cons, List.append_assoc, literal?_append (escapes_escapeChar c), ih]
      rfl

theorem not_isHighSurrogate_of_lt {n : Nat} (h : n < 0x20) : isHighSurrogate n = false := by
  simp only [isHighSurrogate, Bool.and_eq_false_iff, decide_eq_false_iff_not]
  omega

theorem not_isLowSurrogate_of_lt {n : Nat} (h : n < 0x20) : isLowSurrogate n = false := by
  simp only [isLowSurrogate, Bool.and_eq_false_iff, decide_eq_false_iff_not]
  omega

/-- What is written for a character stands for it. -/
theorem unescapeChars_append {c : Char} {written : List Char} (h : Escapes c written)
    (tail : List Char) :
    unescapeChars (written ++ tail) = (unescapeChars tail).map (c :: ·) := by
  cases h with
  | letter h _ =>
      simp [unescapeChars, h, ne_u_of_escaped? h, Option.map_eq_bind]
  | code h =>
      have hhigh := not_isHighSurrogate_of_lt h
      have hlow := not_isLowSurrogate_of_lt h
      -- One more escape of this form may follow; the two are a pair only for other codes.
      by_cases hnext : ∃ p q r s rest, tail = '\\' :: 'u' :: p :: q :: r :: s :: rest
      · obtain ⟨p, q, r, s, rest, rfl⟩ := hnext
        simp only [List.cons_append, List.nil_append]
        rw [unescapeChars.eq_2]
        simp [hexNumber?_code _ h, hhigh, hlow, Option.map_eq_bind]
      · push Not at hnext
        simp [unescapeChars, hexNumber?_code _ h, hhigh, hlow, Option.map_eq_bind]
  | itself hquote hslash h =>
      simp [unescapeChars, hslash, Option.map_eq_bind]

theorem unescape?_escape (text : String) : unescape? (escape text) = some text := by
  have h : ∀ cs : List Char, unescapeChars (cs.flatMap escapeChar) = some cs := by
    intro cs
    induction cs with
    | nil => simp [unescapeChars]
    | cons c cs ih =>
        rw [List.flatMap_cons, unescapeChars_append (escapes_escapeChar c), ih]
        rfl
  rw [unescape?, escape, h, Option.map_some, String.ofList_toList]

/-! ### Numbers -/

/-- What stops a value: a comma, a closing bracket, or the end. -/
inductive Stops : List Char → Prop
  | finish : Stops []
  | comma (rest : List Char) : Stops (',' :: rest)
  | bracket (rest : List Char) : Stops (']' :: rest)
  | brace (rest : List Char) : Stops ('\x7d' :: rest)

theorem Stops.not_isDigit {rest : List Char} (h : Stops rest) :
    ∀ c ∈ rest.head?, c.isDigit = false := by
  cases h with
  | finish => simp
  | _ => simp

/-- Only zero is written with a leading zero. -/
theorem head?_toDigits {n : Nat} (h : 0 < n) : (Nat.toDigits 10 n).head? ≠ some '0' := by
  induction n using Nat.strong_induction_on with
  | h n ih =>
      by_cases hlt : n < 10
      · have hdigit : ∀ d < 10, 0 < d → [Nat.digitChar d].head? ≠ some '0' := by decide
        rw [Nat.toDigits_of_lt_base hlt]
        exact hdigit n hlt h
      · have hrest := ih (n / 10) (by omega) (by omega)
        rw [Nat.toDigits_of_base_le (by decide) (by omega), List.head?_append]
        cases hhead : (Nat.toDigits 10 (n / 10)).head? with
        | none => exact absurd (List.head?_eq_none_iff.mp hhead) Nat.toDigits_ne_nil
        | some c => rwa [hhead] at hrest

theorem isDigit_of_mem {n : Nat} : ∀ c ∈ Nat.toDigits 10 n, c.isDigit = true := by
  intro c hc
  exact Nat.isDigit_of_mem_toDigits (by decide) (by decide) hc

theorem exists_toDigits (n : Nat) : ∃ d ds, Nat.toDigits 10 n = d :: ds ∧ d.isDigit = true := by
  cases hwritten : Nat.toDigits 10 n with
  | nil => exact absurd hwritten Nat.toDigits_ne_nil
  | cons d ds => exact ⟨d, ds, rfl, isDigit_of_mem d (hwritten ▸ List.mem_cons_self)⟩

theorem ne_of_isDigit {d c : Char} (hd : d.isDigit = true) (hc : c.isDigit = false) : d ≠ c := by
  rintro rfl
  rw [hd] at hc
  exact nomatch hc

theorem isSpace_of_isDigit {d : Char} (hd : d.isDigit = true) : isSpace d = false := by
  simp [isSpace, ne_of_isDigit hd]

theorem whole?_toDigits (n : Nat) {rest : List Char} (h : Stops rest) :
    whole? (Nat.toDigits 10 n ++ rest) = some (Nat.toDigits 10 n, rest) := by
  have hdigits : digits? (Nat.toDigits 10 n ++ rest) = some (Nat.toDigits 10 n, rest) := by
    unfold digits?
    rw [Text.takeWhile_run isDigit_of_mem h.not_isDigit,
      Text.dropWhile_run isDigit_of_mem h.not_isDigit, if_neg (by simp [Nat.toDigits_ne_nil])]
  have hzero : ((Nat.toDigits 10 n).length == 1 || (Nat.toDigits 10 n).head? != some '0')
      = true := by
    cases n with
    | zero => decide
    | succ n => simp [head?_toDigits (Nat.succ_pos n)]
  simp only [whole?, hdigits, Option.bind_eq_bind, Option.bind_some, hzero]
  rfl

theorem number?_toDigits (n : Nat) {rest : List Char} (h : Stops rest) :
    number? (Nat.toDigits 10 n ++ rest) = some (Nat.toDigits 10 n, rest) := by
  have hfraction : fraction? rest = some ([], rest) := by
    cases h with
    | _ => rfl
  have hexponent : exponent? rest = some ([], rest) := by
    cases h with
    | _ => rfl
  have hunsigned : unsigned? (Nat.toDigits 10 n ++ rest) = some (Nat.toDigits 10 n, rest) := by
    simp [unsigned?, whole?_toDigits n h, hfraction, hexponent]
  obtain ⟨d, ds, hwritten, hd⟩ := exists_toDigits n
  rw [hwritten, List.cons_append] at hunsigned ⊢
  rw [number?.eq_def]
  split
  · rename_i heq
    exact absurd (List.cons.inj heq).1 (ne_of_isDigit hd (by decide))
  · exact hunsigned

/-! ### Values -/

/-- What begins with a digit is a number. -/
theorem value?_of_isDigit {d : Char} (hd : d.isDigit = true) (fuel : Nat) (cs : List Char) :
    value? (fuel + 1) (d :: cs)
      = (number? (d :: cs)).map fun (literal, rest) => (.number literal, rest) := by
  rw [value?, skipSpace, List.dropWhile_cons_of_neg (by simp [isSpace_of_isDigit hd])]
  split
  -- All other values begin with a mark that is no digit.
  all_goals simp_all [ne_of_isDigit hd, Option.map_eq_bind]

/-- A value that comes up when texts, natural numbers and their collections are written. -/
inductive Written : Json → Prop
  | null : Written .null
  | bool (b : Bool) : Written (.bool b)
  | ofText (text : String) : Written (.ofText text)
  | ofNat (n : Nat) : Written (.ofNat n)
  | array {items : List Json} (h : ∀ item ∈ items, Written item) : Written (.array items)
  | object {fields : List (List Char × Json)}
      (hkeys : ∀ field ∈ fields, ∃ name, field.1 = escape name)
      (h : ∀ field ∈ fields, Written field.2) : Written (.object fields)

/-- A value reads back with enough fuel for its text, whatever follows. -/
def ReadsBack (j : Json) : Prop :=
  ∀ fuel rest, j.write.length ≤ fuel → Stops rest → value? fuel (j.write ++ rest) = some (j, rest)

/-- What is written for a value begins with a character of its own. -/
theorem Written.exists_head {j : Json} (h : Written j) :
    ∃ c cs, j.write = c :: cs ∧ isSpace c = false ∧ c ≠ ']' := by
  cases h with
  | null => exact ⟨'n', _, rfl, by decide, by decide⟩
  | bool b =>
      cases b with
      | true => exact ⟨'t', _, rfl, by decide, by decide⟩
      | false => exact ⟨'f', _, rfl, by decide, by decide⟩
  | ofText text => exact ⟨'"', _, rfl, by decide, by decide⟩
  | ofNat n =>
      obtain ⟨d, ds, hwritten, hd⟩ := exists_toDigits n
      exact ⟨d, ds, hwritten, isSpace_of_isDigit hd, ne_of_isDigit hd (by decide)⟩
  | array h => exact ⟨'[', _, by rw [write]; rfl, by decide, by decide⟩
  | object hkeys h => exact ⟨'\x7b', _, by rw [write]; rfl, by decide, by decide⟩

theorem exists_head_writeItems {items : List Json} (hne : items ≠ [])
    (h : ∀ item ∈ items, Written item) :
    ∃ c cs, writeItems items = c :: cs ∧ isSpace c = false ∧ c ≠ ']' := by
  cases items with
  | nil => exact absurd rfl hne
  | cons item others =>
      obtain ⟨c, cs, hwritten, hc⟩ := (h item List.mem_cons_self).exists_head
      cases others with
      | nil => exact ⟨c, cs, hwritten, hc⟩
      | cons next others =>
          refine ⟨c, cs ++ ',' :: writeItems (next :: others), ?_, hc⟩
          simp only [writeItems, hwritten, List.cons_append]

theorem exists_head_writeFields {fields : List (List Char × Json)} (hne : fields ≠ []) :
    ∃ cs, writeFields fields = '"' :: cs := by
  cases fields with
  | nil => exact absurd rfl hne
  | cons field others =>
      cases others with
      | nil => exact ⟨_, by simp only [writeFields, List.cons_append]; rfl⟩
      | cons next others => exact ⟨_, by simp only [writeFields, List.cons_append]; rfl⟩

theorem readsBack_ofText (text : String) : ReadsBack (.ofText text) := by
  intro fuel rest hfuel hrest
  cases fuel with
  | zero => simp [ofText, write] at hfuel
  | succ fuel => simp [ofText, write, value?, skipSpace, isSpace, literal?_escape]

theorem readsBack_ofNat (n : Nat) : ReadsBack (.ofNat n) := by
  intro fuel rest hfuel hrest
  have hnumber := number?_toDigits n hrest
  obtain ⟨d, ds, hwritten, hd⟩ := exists_toDigits n
  rw [ofNat, write, hwritten] at hfuel
  rw [hwritten, List.cons_append] at hnumber
  cases fuel with
  | zero => simp at hfuel
  | succ fuel =>
      rw [ofNat, write, hwritten, List.cons_append, value?_of_isDigit hd, hnumber]
      rfl

/-- Items read back if each of them does. -/
theorem items?_writeItems {items : List Json} (hne : items ≠ [])
    (h : ∀ item ∈ items, ReadsBack item) : ∀ fuel rest, (writeItems items).length < fuel →
      items? fuel (writeItems items ++ ']' :: rest) = some (items, rest) := by
  induction items with
  | nil => exact absurd rfl hne
  | cons item others ih =>
      intro fuel rest hfuel
      obtain ⟨hitem, hitems⟩ := List.forall_mem_cons.mp h
      cases fuel with
      | zero => exact absurd hfuel (Nat.not_lt_zero _)
      | succ fuel =>
          cases others with
          | nil =>
              rw [writeItems] at hfuel ⊢
              have hread := hitem fuel (']' :: rest) (by omega) (.bracket rest)
              simp [items?, hread, skipSpace, isSpace]
          | cons next others =>
              simp only [writeItems, List.length_append, List.length_cons] at hfuel
              have hread := hitem fuel (',' :: (writeItems (next :: others) ++ ']' :: rest))
                (by omega) (.comma _)
              have hothers := ih (by simp) hitems fuel rest (by omega)
              simp [writeItems, items?, hread, hothers, skipSpace, isSpace]

/-- Fields read back if their values do and their keys are texts. -/
theorem fields?_writeFields {fields : List (List Char × Json)} (hne : fields ≠ [])
    (hkeys : ∀ field ∈ fields, ∃ name, field.1 = escape name)
    (h : ∀ field ∈ fields, ReadsBack field.2) : ∀ fuel rest, (writeFields fields).length < fuel →
      fields? fuel (writeFields fields ++ '\x7d' :: rest) = some (fields, rest) := by
  induction fields with
  | nil => exact absurd rfl hne
  | cons field others ih =>
      intro fuel rest hfuel
      obtain ⟨key, value⟩ := field
      obtain ⟨⟨name, rfl⟩, hothersKeys⟩ := List.forall_mem_cons.mp hkeys
      have hvalue : ReadsBack value := h _ List.mem_cons_self
      cases fuel with
      | zero => exact absurd hfuel (Nat.not_lt_zero _)
      | succ fuel =>
          cases others with
          | nil =>
              simp only [writeFields, List.length_append, List.length_cons] at hfuel
              have hread := hvalue fuel ('\x7d' :: rest) (by omega) (.brace rest)
              simp [writeFields, fields?, hread, literal?_escape, skipSpace, isSpace]
          | cons next others =>
              simp only [writeFields, List.length_append, List.length_cons] at hfuel
              have hread := hvalue fuel (',' :: (writeFields (next :: others) ++ '\x7d' :: rest))
                (by omega) (.comma _)
              have hothers := ih (by simp) hothersKeys (List.forall_mem_cons.mp h).2 fuel rest
                (by omega)
              simp [writeFields, fields?, hread, hothers, literal?_escape, skipSpace, isSpace]

theorem readsBack_array {items : List Json} (hitems : ∀ item ∈ items, Written item)
    (h : ∀ item ∈ items, ReadsBack item) : ReadsBack (.array items) := by
  intro fuel rest hfuel hrest
  simp only [write, List.length_cons, List.length_append] at hfuel
  cases fuel with
  | zero => omega
  | succ fuel =>
      by_cases hempty : items = []
      · simp [hempty, write, writeItems, value?, skipSpace, isSpace]
      · have hread := items?_writeItems hempty h fuel rest (by omega)
        -- The text of the first item is not mistaken for the closing bracket.
        obtain ⟨c, cs, hwritten, hspace, hbracket⟩ := exists_head_writeItems hempty hitems
        rw [hwritten, List.cons_append] at hread
        simp [write, value?, skipSpace, hwritten, hspace, hbracket, hread,
          (by decide : isSpace '[' = false)]

theorem readsBack_object {fields : List (List Char × Json)}
    (hkeys : ∀ field ∈ fields, ∃ name, field.1 = escape name)
    (h : ∀ field ∈ fields, ReadsBack field.2) : ReadsBack (.object fields) := by
  intro fuel rest hfuel hrest
  simp only [write, List.length_cons, List.length_append] at hfuel
  cases fuel with
  | zero => omega
  | succ fuel =>
      by_cases hempty : fields = []
      · simp [hempty, write, writeFields, value?, skipSpace, isSpace]
      · have hread := fields?_writeFields hempty hkeys h fuel rest (by omega)
        obtain ⟨cs, hwritten⟩ := exists_head_writeFields hempty
        rw [hwritten, List.cons_append] at hread
        simp [write, value?, skipSpace, isSpace, hwritten, hread]

/-- **Whatever is written reads back from the front of any text that stops it.** -/
theorem Written.readsBack {j : Json} (h : Written j) : ReadsBack j := by
  induction h with
  | null =>
      intro fuel rest hfuel hrest
      cases fuel with
      | zero => simp [write] at hfuel
      | succ fuel => simp [write, value?, skipSpace, isSpace, word?]
  | bool b =>
      intro fuel rest hfuel hrest
      cases fuel with
      | zero => cases b <;> simp [write] at hfuel
      | succ fuel => cases b <;> simp [write, value?, skipSpace, isSpace, word?]
  | ofText text => exact readsBack_ofText text
  | ofNat n => exact readsBack_ofNat n
  | array hitems ih => exact readsBack_array hitems ih
  | object hkeys _ ih => exact readsBack_object hkeys ih

/-- **The text of a value reads back.** -/
theorem read?_render {j : Json} (h : Written j) : read? j.render = some j := by
  have htext : j.render.toList = j.write := String.toList_ofList
  have hread := h.readsBack (2 * j.write.length + 2) [] (by omega) .finish
  rw [List.append_nil] at hread
  simp only [read?, htext, hread, Option.bind_eq_bind, Option.bind_some]
  rfl

/-! ### No control characters -/

/-- Whether a text keeps to characters from the space on. -/
def Printable (cs : List Char) : Prop :=
  ∀ c ∈ cs, 0x20 ≤ c.toNat

theorem printable_append {a b : List Char} : Printable (a ++ b) ↔ Printable a ∧ Printable b := by
  simp only [Printable, List.forall_mem_append]

theorem printable_cons {c : Char} {cs : List Char} :
    Printable (c :: cs) ↔ 0x20 ≤ c.toNat ∧ Printable cs := by
  simp only [Printable, List.forall_mem_cons]

theorem printable_nil : Printable [] := by
  simp [Printable]

theorem printable_code : ∀ n < 0x20,
    0x20 ≤ (Nat.digitChar (n / 16)).toNat ∧ 0x20 ≤ (Nat.digitChar (n % 16)).toNat := by
  decide

theorem Escapes.printable {c : Char} {written : List Char} (h : Escapes c written) :
    Printable written := by
  cases h with
  | letter _ hletter => simp [Printable, hletter]
  | code h => simp [Printable, printable_code _ h]
  | itself _ _ h => simp [Printable, h]

theorem printable_escape (text : String) : Printable (escape text) := by
  intro c hc
  obtain ⟨d, -, hd⟩ := List.mem_flatMap.mp hc
  exact (escapes_escapeChar d).printable c hd

theorem printable_toDigits (n : Nat) : Printable (Nat.toDigits 10 n) := by
  intro c hc
  have hdigit := isDigit_of_mem c hc
  simp only [Char.isDigit, Bool.and_eq_true, decide_eq_true_eq, UInt32.le_iff_toNat_le] at hdigit
  exact Nat.le_trans (by decide) hdigit.1

theorem printable_writeItems {items : List Json} (h : ∀ item ∈ items, Printable item.write) :
    Printable (writeItems items) := by
  induction items with
  | nil => exact printable_nil
  | cons item others ih =>
      obtain ⟨hitem, hothers⟩ := List.forall_mem_cons.mp h
      cases others with
      | nil => exact hitem
      | cons next others =>
          simp [writeItems, printable_append, printable_cons, hitem, ih hothers]

theorem printable_writeFields {fields : List (List Char × Json)}
    (hkeys : ∀ field ∈ fields, Printable field.1)
    (h : ∀ field ∈ fields, Printable field.2.write) : Printable (writeFields fields) := by
  induction fields with
  | nil => exact printable_nil
  | cons field others ih =>
      obtain ⟨hkey, hothersKeys⟩ := List.forall_mem_cons.mp hkeys
      obtain ⟨hvalue, hothers⟩ := List.forall_mem_cons.mp h
      cases others with
      | nil => simp [writeFields, printable_append, printable_cons, hkey, hvalue]
      | cons next others =>
          simp [writeFields, printable_append, printable_cons, hkey, hvalue,
            ih hothersKeys hothers]

/-- **The text of a value has no control character in it.** -/
theorem Written.printable {j : Json} (h : Written j) : Printable j.write := by
  induction h with
  | null => simp [write, Printable]
  | bool b =>
      cases b with
      | _ => simp [write, Printable]
  | ofText text =>
      simp [Json.ofText, write, printable_append, printable_cons, printable_nil, printable_escape]
  | ofNat n => exact printable_toDigits n
  | array _ ih =>
      simp [write, printable_append, printable_cons, printable_nil, printable_writeItems ih]
  | @object fields hkeys _ ih =>
      have hprintable : ∀ field ∈ fields, Printable field.1 := by
        intro field hfield
        obtain ⟨name, hname⟩ := hkeys field hfield
        exact hname ▸ printable_escape name
      simp [write, printable_append, printable_cons, printable_nil,
        printable_writeFields hprintable ih]

end Adventure.Json
