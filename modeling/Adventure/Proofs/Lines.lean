/-
The lines of a stream that is text.

A stream is cut into lines before anybody knows whether its bytes are text, at the byte of
the line feed and with an eye on the byte of the carriage return.  `Text.lines` cuts a text
at its characters.  The two agree because no other character has either of these bytes in
it: the bytes of a character that is longer than one byte are all 128 or more.
-/
import Adventure.Text.Lines
import Mathlib.Data.List.Basic

namespace Adventure.Text

/-! ### Lines by characters -/

/-- The lines of characters: a line feed, or a carriage return with a line feed, ends one. -/
def charLines : List Char → List (List Char)
  | [] => []
  | '\n' :: cs => [] :: charLines cs
  | '\r' :: '\n' :: cs => [] :: charLines cs
  | c :: cs =>
    match charLines cs with
    | [] => [[c]]
    | line :: rest => (c :: line) :: rest

/-- The lines of a text, without their ends. -/
def lines (text : String) : List String :=
  (charLines text.toList).map String.ofList

/-- A line that is ended by a line feed: a carriage return at its end does not count. -/
def endedChars : List Char → List Char
  | [] => []
  | ['\r'] => []
  | c :: cs => c :: endedChars cs

theorem endedChars_concat (front : List Char) {c : Char} (hc : c ≠ '\r') :
    endedChars (front ++ [c]) = front ++ [c] := by
  induction front with
  | nil => simp [endedChars, hc]
  | cons d front ih => simp [endedChars, ih]

theorem endedChars_concat_return (front : List Char) : endedChars (front ++ ['\r']) = front := by
  induction front with
  | nil => rfl
  | cons d front ih => simp [endedChars, ih]

theorem endedChars_of_not_mem {line : List Char} (h : '\r' ∉ line) : endedChars line = line := by
  rcases List.eq_nil_or_concat line with rfl | ⟨front, c, rfl⟩
  · rfl
  · rw [List.concat_eq_append] at h ⊢
    refine endedChars_concat front ?_
    rintro rfl
    simp at h

/-- A character that begins no end of a line goes to the line behind it. -/
theorem charLines_cons {c : Char} {cs : List Char} (hfeed : c ≠ '\n')
    (hreturn : c = '\r' → cs.head? ≠ some '\n') :
    charLines (c :: cs) = (c :: (charLines cs).headD []) :: (charLines cs).tail := by
  rw [charLines.eq_def]
  split
  · simp_all
  · simp_all
  · simp_all
  · rename_i heq
    obtain ⟨rfl, rfl⟩ := List.cons.inj heq
    cases charLines cs with
    | nil => rfl
    | cons line rest => rfl

/-- A line feed ends the characters before it. -/
theorem charLines_ended {line : List Char} (hline : '\n' ∉ line) (cs : List Char) :
    charLines (line ++ '\n' :: cs) = endedChars line :: charLines cs := by
  induction line with
  | nil => simp [charLines, endedChars]
  | cons c line ih =>
      have hc := List.ne_of_not_mem_cons hline
      have hline := List.not_mem_of_not_mem_cons hline
      by_cases hlast : c = '\r' ∧ line = []
      · obtain ⟨rfl, rfl⟩ := hlast
        simp [charLines, endedChars]
      · have hreturn : c = '\r' → (line ++ '\n' :: cs).head? ≠ some '\n' := by
          intro hc'
          cases line with
          | nil => exact absurd ⟨hc', rfl⟩ hlast
          | cons d line => simpa using (List.ne_of_not_mem_cons hline).symm
        have hended : endedChars (c :: line) = c :: endedChars line := by
          rw [endedChars]
          simpa using hlast
        rw [List.cons_append, charLines_cons hc.symm hreturn, ih hline, hended]
        rfl

theorem charLines_of_not_mem {line : List Char} (hline : '\n' ∉ line) (hne : line ≠ []) :
    charLines line = [line] := by
  induction line with
  | nil => exact absurd rfl hne
  | cons c line ih =>
      have hc := List.ne_of_not_mem_cons hline
      have hline := List.not_mem_of_not_mem_cons hline
      have hreturn : c = '\r' → line.head? ≠ some '\n' := by
        intro _ hhead
        exact hline (List.mem_of_mem_head? hhead)
      rw [charLines_cons hc.symm hreturn]
      by_cases hempty : line = []
      · rw [hempty]
        rfl
      · rw [ih hline hempty]
        rfl

/-- Lines without carriage returns come back from a text in which each is ended. -/
theorem lines_join {rows : List String}
    (h : ∀ row ∈ rows, '\n' ∉ row.toList ∧ '\r' ∉ row.toList) :
    lines (String.join (rows.map fun row => row ++ "\n")) = rows := by
  induction rows with
  | nil => rfl
  | cons row rest ih =>
      obtain ⟨⟨hfeed, hreturn⟩, hrest⟩ := List.forall_mem_cons.mp h
      have htext : (String.join ((row :: rest).map fun row => row ++ "\n")).toList
          = row.toList ++ '\n' :: (String.join (rest.map fun row => row ++ "\n")).toList := by
        simp [String.join_cons]
      have hlines := ih hrest
      rw [lines] at hlines ⊢
      rw [htext, charLines_ended hfeed, List.map_cons, hlines, endedChars_of_not_mem hreturn,
        String.ofList_toList]

/-- A line by itself is the only line, whichever way it is ended. -/
theorem lines_alone {line ending : String} (hfeed : '\n' ∉ line.toList)
    (hreturn : '\r' ∉ line.toList) (hne : line.toList ≠ [])
    (hending : ending ∈ ["", "\n", "\r\n"]) : lines (line ++ ending) = [line] := by
  have halone : charLines (line ++ ending).toList = [line.toList] := by
    rw [String.toList_append]
    simp only [List.mem_cons, List.not_mem_nil, or_false] at hending
    rcases hending with rfl | rfl | rfl
    · show charLines (line.toList ++ []) = _
      rw [List.append_nil, charLines_of_not_mem hfeed hne]
    · show charLines (line.toList ++ ['\n']) = _
      rw [charLines_ended hfeed, endedChars_of_not_mem hreturn]
      rfl
    · show charLines (line.toList ++ ['\r', '\n']) = _
      rw [List.append_cons line.toList '\r' ['\n'], charLines_ended (by simpa using hfeed),
        endedChars_concat_return]
      rfl
  rw [lines, halone, List.map_singleton, String.ofList_toList]

/-! ### Characters and their bytes -/

/-- The bytes of characters. -/
def charBytes (cs : List Char) : List UInt8 :=
  cs.flatMap String.utf8EncodeChar

theorem encode_eq (text : String) : encode text = charBytes text.toList := by
  have hbytes : text.toUTF8 = (charBytes text.toList).toByteArray := by
    rw [charBytes, String.toUTF8_eq_toByteArray]
    conv_lhs => rw [← String.ofList_toList (s := text), String.toByteArray_ofList]
    rfl
  rw [encode, hbytes, List.data_toByteArray, List.toList_toArray]

theorem decode?_encode (text : String) : decode? (encode text) = some text := by
  have hbytes : (⟨(encode text).toArray⟩ : ByteArray) = text.toByteArray := rfl
  rw [decode?, hbytes, String.fromUTF8?, dif_pos text.isValidUTF8]
  rfl

/-- Only the bytes of a text are text. -/
theorem decode?_eq_some_iff {bytes : List UInt8} {text : String} :
    decode? bytes = some text ↔ bytes = encode text := by
  constructor
  · intro h
    simp only [decode?, String.fromUTF8?, Option.dite_none_right_eq_some, Option.some.injEq] at h
    obtain ⟨hvalid, rfl⟩ := h
    rfl
  · rintro rfl
    exact decode?_encode text

/-- A byte of a character is the character or is not below 128. -/
theorem toNat_of_mem_utf8EncodeChar {c : Char} {byte : UInt8}
    (h : byte ∈ String.utf8EncodeChar c) : byte.toNat = c.toNat ∨ 128 ≤ byte.toNat := by
  have hof : ∀ n, (UInt8.ofNat n).toNat = n % 256 := fun n => UInt8.toNat_ofNat'
  have hcode : c.val.toNat = c.toNat := rfl
  simp only [String.utf8EncodeChar, hcode] at h
  split_ifs at h
  · simp only [List.mem_singleton] at h
    rw [h, hof]
    omega
  all_goals
    simp only [List.mem_cons, List.not_mem_nil, or_false] at h
    right
  · rcases h with rfl | rfl
    all_goals
      rw [hof]
      omega
  · rcases h with rfl | rfl | rfl
    all_goals
      rw [hof]
      omega
  · rcases h with rfl | rfl | rfl | rfl
    all_goals
      rw [hof]
      omega

theorem eq_of_mem_utf8EncodeChar {c d : Char} {byte : UInt8}
    (h : byte ∈ String.utf8EncodeChar c) (hbyte : byte.toNat = d.toNat) (hd : d.toNat < 128) :
    c = d := by
  refine Char.toNat_inj.mp ?_
  rcases toNat_of_mem_utf8EncodeChar h with hcode | hlarge
  · omega
  · omega

/-! ### Lines by bytes -/

theorem linesFrom_append {bytes : List UInt8} (h : 10 ∉ bytes) (current rest : List UInt8) :
    linesFrom current (bytes ++ rest) = linesFrom (bytes.reverse ++ current) rest := by
  induction bytes generalizing current with
  | nil => rfl
  | cons byte bytes ih =>
      have hbyte := List.ne_of_not_mem_cons h
      rw [List.cons_append, linesFrom, if_neg hbyte.symm, ih (List.not_mem_of_not_mem_cons h)]
      simp

/-- Behind a line feed the lines are those of another stream. -/
theorem linesFrom_feed (front back : List UInt8) : ∀ current,
    linesFrom current (front ++ 10 :: back)
      = linesFrom current (front ++ [10]) ++ byteLines back := by
  induction front with
  | nil => intro current; simp [linesFrom, byteLines]
  | cons byte front ih =>
      intro current
      simp only [List.cons_append, linesFrom]
      by_cases hbyte : byte = 10
      · rw [if_pos hbyte, if_pos hbyte, ih, List.cons_append]
      · rw [if_neg hbyte, if_neg hbyte, ih]

/-- Bytes that stop where a line does. -/
def EndsLine (bytes : List UInt8) : Prop :=
  ∀ byte ∈ bytes.getLast?, byte = 10

instance (bytes : List UInt8) : Decidable (EndsLine bytes) :=
  inferInstanceAs (Decidable (∀ byte ∈ bytes.getLast?, byte = 10))

/-- **Whole lines stay as they are, whatever comes behind them.** -/
theorem byteLines_append {front : List UInt8} (h : EndsLine front) (back : List UInt8) :
    byteLines (front ++ back) = byteLines front ++ byteLines back := by
  rcases List.eq_nil_or_concat front with rfl | ⟨init, last, rfl⟩
  · rfl
  · obtain rfl : last = 10 := h last (by simp)
    rw [List.concat_eq_append, List.append_assoc]
    exact linesFrom_feed init back []

theorem charBytes_append (a b : List Char) : charBytes (a ++ b) = charBytes a ++ charBytes b :=
  List.flatMap_append

theorem encode_append (s t : String) : encode (s ++ t) = encode s ++ encode t := by
  rw [encode_eq, encode_eq, encode_eq, String.toList_append, charBytes_append]

theorem utf8EncodeChar_ne_nil (c : Char) : String.utf8EncodeChar c ≠ [] := by
  intro h
  have hlength := String.length_utf8EncodeChar c
  rw [h, List.length_nil] at hlength
  exact absurd hlength.symm (Nat.ne_of_gt c.utf8Size_pos)

theorem charBytes_ne_nil {cs : List Char} (h : cs ≠ []) : charBytes cs ≠ [] := by
  cases cs with
  | nil => exact absurd rfl h
  | cons c cs =>
      intro hbytes
      exact utf8EncodeChar_ne_nil c (List.append_eq_nil_iff.mp hbytes).1

/-- The end of a line is cut off its bytes as it is cut off its characters. -/
theorem endedLine_charBytes (line : List Char) :
    endedLine (charBytes line).reverse = charBytes (endedChars line) := by
  rcases List.eq_nil_or_concat line with rfl | ⟨front, c, rfl⟩
  · rfl
  · have hbytes : charBytes (front ++ [c]) = charBytes front ++ String.utf8EncodeChar c := by
      rw [charBytes_append]
      simp [charBytes]
    rw [List.concat_eq_append]
    by_cases hc : c = '\r'
    · rw [hbytes, hc, endedChars_concat_return]
      show endedLine ((charBytes front ++ [13]).reverse) = _
      rw [List.reverse_concat, endedLine, List.reverse_reverse]
    · rw [endedChars_concat front hc, hbytes]
      rcases List.eq_nil_or_concat (String.utf8EncodeChar c) with hnil | ⟨init, byte, hlast⟩
      · exact absurd hnil (utf8EncodeChar_ne_nil c)
      · have hbyte : byte ≠ 13 := by
          rintro rfl
          have hmem : 13 ∈ String.utf8EncodeChar c := by simp [hlast]
          exact hc (eq_of_mem_utf8EncodeChar hmem rfl (by decide))
        rw [hlast, List.concat_eq_append, ← List.append_assoc, List.reverse_concat, endedLine]
        · simp
        · simpa using hbyte

/-- What has been read of a line is the bytes of its characters. -/
theorem linesFrom_charBytes (cs : List Char) : ∀ line, '\n' ∉ line →
    linesFrom (charBytes line).reverse (charBytes cs) = (charLines (line ++ cs)).map charBytes := by
  induction cs with
  | nil =>
      intro line hline
      rw [List.append_nil, show charBytes [] = [] from rfl, linesFrom]
      by_cases hempty : line = []
      · rw [hempty]
        rfl
      · rw [charLines_of_not_mem hline hempty, if_neg (by simpa using charBytes_ne_nil hempty)]
        simp
  | cons c cs ih =>
      intro line hline
      by_cases hc : c = '\n'
      · rw [hc, charLines_ended hline, List.map_cons, ← endedLine_charBytes]
        show linesFrom _ (10 :: charBytes cs) = _
        rw [linesFrom, if_pos rfl]
        exact congrArg _ (ih [] (by simp))
      · have hstep : charBytes (c :: cs) = String.utf8EncodeChar c ++ charBytes cs := rfl
        have hbytes : 10 ∉ String.utf8EncodeChar c := by
          intro h
          exact hc (eq_of_mem_utf8EncodeChar h rfl (by decide))
        have hread : (String.utf8EncodeChar c).reverse ++ (charBytes line).reverse
            = (charBytes (line ++ [c])).reverse := by
          rw [charBytes_append, List.reverse_append]
          simp [charBytes]
        rw [hstep, linesFrom_append hbytes, hread,
          ih (line ++ [c]) (by simp [hline, Ne.symm hc]), List.append_assoc, List.singleton_append]

/-- **The lines of a stream that is text are the lines of the text.** -/
theorem byteLines_encode (text : String) : byteLines (encode text) = (lines text).map encode := by
  have h := linesFrom_charBytes text.toList [] (by simp)
  rw [byteLines, encode_eq, lines, List.map_map]
  rw [show (charBytes []).reverse = [] from rfl, List.nil_append] at h
  rw [h]
  refine List.map_congr_left fun line _ => ?_
  rw [Function.comp_apply, encode_eq, String.toList_ofList]

end Adventure.Text
