/-
What is completed is understood.

The completer and the scanner cut a text in different ways.  For the completer a word begins behind
a blank, and for the scanner wherever a word character follows another character.  A blank is no
word character, so behind it there begins a word for both, and what stands before it is scanned
as if nothing followed.  The completer spells words in lower case and the scanner looks
them up in upper case.  A vocabulary has its words in upper case, and upper case is reached at
once, so an ASCII word comes back from lower case.

Quotes are where this could fail: within them nothing is a word.  The completer offers nothing
where their number is odd, and what has been typed of a word that it offers has none.
-/
import Adventure.Proofs.Composition
import Adventure.Proofs.LetterCase
import Adventure.Proofs.Lowering
import Adventure.Proofs.Overlay
import Adventure.Terminal.Completion
import Mathlib.Algebra.Ring.Parity

namespace Adventure

/-! ### Words behind a blank -/

namespace Text

theorem not_isWordChar_of_isBlank {c : Char} (h : isBlank c = true) : isWordChar c = false := by
  rw [Bool.eq_false_iff]
  intro hword
  rw [not_isBlank_of_isWordChar hword] at h
  exact Bool.noConfusion h

end Text

namespace Scan

theorem isIgnored_of_isBlank {c : Char} (h : Text.isBlank c = true) : isIgnored c = true := by
  have hne : ∀ d, Text.isBlank d = false → c ≠ d := by
    rintro d hd rfl
    rw [h] at hd
    exact Bool.noConfusion hd
  exact isIgnored_iff.mpr ⟨Text.not_isWordChar_of_isBlank h, hne '@' (by decide),
    hne '?' (by decide), hne '"' (by decide)⟩

end Scan

/-- A cut goes on behind the tokens of a text that leaves no quotes open. -/
theorem Line.cuts_append {o : Overlay} {front back : List Char} {body ts : List Token}
    {marker : Token} (h : Line o (String.ofList front) body marker)
    (heven : Even (Text.quotes front)) (hseam : ∀ c ∈ back.head?, Text.isWordChar c = false)
    (hback : Scan.Cuts (.extended o) (Position.after {} front) back ts) :
    Scan.Cuts (.extended o) {} (front ++ back) (body ++ ts) := by
  have hfront := scan_eq_iff.mp h.scan_eq
  rw [String.toList_ofList] at hfront
  have hcuts := hfront.append heven hseam hback
  rwa [List.dropLast_concat] at hcuts

/-- **A word behind a blank is one more token**, if the text before it leaves no quotes open. -/
theorem scan_word_behind_blank (o : Overlay) {front : List Char}
    (heven : Even (Text.quotes front)) (hfront : ∀ c ∈ front.getLast?, Text.isBlank c = true)
    {word : String} (hne : word ≠ "") (hword : ∀ c ∈ word.toList, Text.isWordChar c = true) :
    scan (.extended o) (String.ofList front ++ word)
      = Token.visible (scan (.extended o) (String.ofList front)) ++
        [⟨Vocabulary.kindOf (.extended o) word, word,
            .between (Position.after {} front) (Position.after {} (front ++ word.toList))⟩,
          .endAt (Position.after {} (front ++ word.toList))] := by
  obtain ⟨body, marker, hline⟩ := exists_line o (String.ofList front)
  rw [hline.visible_eq]
  rcases List.eq_nil_or_concat front with rfl | ⟨init, c, rfl⟩
  · have hbody : body = [] := by
      have hscan : scan (.extended o) (String.ofList []) = [] ++ [.endAt {}] :=
        (scan_eq_iff.mp (Eq.refl (scan (.extended o) (String.ofList [])))).of_nil
      exact (hline.eq_of_scan hscan).1
    have hcuts := Scan.cuts_word (.extended o) {} [] (by simp) hne hword
    rw [hbody, List.nil_append, scan_eq_iff, String.toList_append, String.toList_ofList]
    exact hcuts
  · -- The text before the blank is scanned first, alone and with the word.
    rw [List.concat_eq_append] at hline heven hfront ⊢
    have hblank : Text.isBlank c = true := hfront c (by simp)
    have hgap : ∀ d ∈ [c], Scan.isIgnored d = true := by
      simpa using Scan.isIgnored_of_isBlank hblank
    have hinit : Even (Text.quotes init) := by
      rwa [Text.quotes_append, Scan.quotes_gap hgap, Nat.add_zero] at heven
    have hseam : ∀ back : List Char, ∀ d ∈ (c :: back).head?, Text.isWordChar d = false := by
      simpa using Text.not_isWordChar_of_isBlank hblank
    obtain ⟨body', marker', hline'⟩ := exists_line o (String.ofList init)
    have hbody : body = body' := by
      have hcuts := hline'.cuts_append hinit (hseam []) (.finish hgap)
      rw [← String.toList_ofList (l := init ++ [c])] at hcuts
      exact (hline.eq_of_scan (scan_eq_iff.mpr hcuts)).1
    have hcuts := hline'.cuts_append hinit (hseam word.toList)
      (Scan.cuts_word _ _ [c] hgap hne hword)
    rw [← Position.after_append, ← Position.after_append] at hcuts
    rw [hbody, scan_eq_iff, String.toList_append, String.toList_ofList, List.append_assoc init]
    exact hcuts

/-! ### Words of a vocabulary -/

namespace Vocabulary

variable {calls : List (String × Kind)} {word : String} {kind : Kind}

/-- **A vocabulary has its words in upper case.** -/
theorem upper_of_find? (h : (extended (.ofPairs calls)).find? word = some kind) :
    Text.upper word = word := by
  rw [find?_extended] at h
  rcases Option.or_eq_some_iff.mp h with halias | ⟨-, hbuiltin⟩
  · have hkey := Overlay.key_of_find? halias
    rw [Overlay.key] at hkey
    rw [← hkey, Text.upper_upper]
  · have hall : ∀ e ∈ builtinWords, Text.upper e.1 = e.1 := by decide +kernel
    exact hall (word, kind) (mem_builtinWords hbuiltin)

/-- An ASCII word is found again from its lower case. -/
theorem kindOf_lower (h : (extended (.ofPairs calls)).find? word = some kind)
    (hascii : ∀ c ∈ word.toList, c.toNat < 0x80) :
    (extended (.ofPairs calls)).kindOf (Text.lower word) = kind := by
  rw [kindOf, Text.lower_of_ascii hascii, Text.upper_foldCase, upper_of_find? h, h,
    Option.getD_some]

end Vocabulary

namespace Terminal

/-! ### Candidates -/

theorem divideAtWord_eq (before : List Char) :
    divideAtWord before = (before.rdropWhile fun c => !Text.isBlank c,
      before.rtakeWhile fun c => !Text.isBlank c) := by
  have hparts := List.rdropWhile_append_rtakeWhile (p := fun c => !Text.isBlank c) (l := before)
  have hlength := congrArg List.length hparts
  rw [List.length_append] at hlength
  refine Prod.ext ?_ rfl
  calc before.take (before.length - (before.rtakeWhile fun c => !Text.isBlank c).length)
      = (before.rdropWhile (fun c => !Text.isBlank c)
          ++ before.rtakeWhile fun c => !Text.isBlank c).take
          (before.length - (before.rtakeWhile fun c => !Text.isBlank c).length) := by rw [hparts]
    _ = before.rdropWhile fun c => !Text.isBlank c := List.take_left' (by omega)

/-- **The word at the cursor is what stands behind the last blank.** -/
theorem exists_divided (before : List Char) :
    ∃ front word, divideAtWord before = (front, word) ∧ before = front ++ word ∧
      (∀ c ∈ word, Text.isBlank c = false) ∧ ∀ c ∈ front.getLast?, Text.isBlank c = true := by
  refine ⟨_, _, divideAtWord_eq before, List.rdropWhile_append_rtakeWhile.symm, ?_, ?_⟩
  · intro c hc
    simpa using List.mem_rtakeWhile_imp hc
  · intro c hc
    rw [List.rdropWhile, List.getLast?_reverse] at hc
    simpa using Text.head?_dropWhile_false _ _ c hc

theorem mem_completionWords {v : Vocabulary} {word : String} :
    word ∈ completionWords v ↔ word ∈ v.words.map Text.lower ∨ word ∈ Session.metaCommands := by
  rw [completionWords, WordMap.ofList, WordMap.mem_words_insertAll, List.map_map,
    ← List.mem_append]
  simp [WordMap.empty, WordMap.words, Function.comp_def]

/-- What is offered, from the two parts of the text before the cursor. -/
theorem completeAfter_eq {before front word : List Char}
    (h : divideAtWord before = (front, word)) (v : Vocabulary) :
    completeAfter v before = ⟨Text.byteLength front,
      if inQuotes before = true then []
      else (completionWords v).filter fun candidate =>
        (Text.lower (String.ofList word)).toList.isPrefixOf candidate.toList⟩ := by
  simp only [completeAfter, h]
  split
  · rfl
  · rfl

theorem mem_candidates_iff {before front word : List Char}
    (h : divideAtWord before = (front, word)) {v : Vocabulary} {w : String} :
    w ∈ (completeAfter v before).candidates ↔ inQuotes before = false ∧
      (w ∈ v.words.map Text.lower ∨ w ∈ Session.metaCommands) ∧
        (Text.lower (String.ofList word)).toList <+: w.toList := by
  rw [completeAfter_eq h]
  cases inQuotes before with
  | true => simp
  | false =>
      rw [if_neg Bool.false_ne_true, List.mem_filter, mem_completionWords,
        List.isPrefixOf_iff_prefix]
      simp

theorem sorted_candidates (v : Vocabulary) (before : List Char) :
    (completeAfter v before).candidates.Pairwise (· < ·) := by
  obtain ⟨front, word, h, -⟩ := exists_divided before
  rw [completeAfter_eq h]
  split
  · exact .nil
  · exact (WordMap.words_sorted _).filter _

/-- Where a word without quotes is offered, what has been typed of it has none. -/
theorem quote_not_mem_typed {typed : List Char} {word : String}
    (hoffered : (Text.lower (String.ofList typed)).toList <+: word.toList)
    (hword : '"' ∉ word.toList) : '"' ∉ typed := by
  intro hquote
  have hlower : '"' ∈ (Text.lower (String.ofList typed)).toList :=
    Text.mem_lower (by decide) (by decide) (by rwa [String.toList_ofList])
  exact hword (hoffered.subset hlower)

/-- Whether a keyword is made of ASCII word characters. -/
def isTypeable (keyword : String) : Bool :=
  keyword.toList.all fun x => x.toNat < 0x80 && Text.isWordChar x

theorem isTypeable_iff {keyword : String} : isTypeable keyword = true ↔
    (∀ x ∈ keyword.toList, x.toNat < 0x80) ∧ ∀ x ∈ keyword.toList, Text.isWordChar x = true := by
  simp [isTypeable, forall_and]

theorem isWordChar_lower {keyword : String} (h : isTypeable keyword = true) :
    ∀ x ∈ (Text.lower keyword).toList, Text.isWordChar x = true := by
  obtain ⟨hascii, hword⟩ := isTypeable_iff.mp h
  intro x hx
  rw [Text.lower_of_ascii hascii, Text.toList_foldCase] at hx
  obtain ⟨c, hc, rfl⟩ := List.mem_map.mp hx
  rw [Text.isWordChar_toLower]
  exact hword c hc

/-- Where the completer offers a word without quotes, the text before it leaves none open. -/
theorem even_quotes_front {front typed : List Char} {word : String}
    (hquotes : inQuotes (front ++ typed) = false)
    (hoffered : (Text.lower (String.ofList typed)).toList <+: word.toList)
    (hword : ∀ x ∈ word.toList, Text.isWordChar x = true) : Even (Text.quotes front) := by
  have htyped : '"' ∉ typed :=
    quote_not_mem_typed hoffered fun hmem => absurd (hword _ hmem) (by decide)
  have heven : Even (Text.quotes (front ++ typed)) := by
    rw [← Nat.not_odd_iff_even, Nat.odd_iff]
    exact beq_eq_false_iff_ne.mp hquotes
  rwa [Text.quotes_append, Text.quotes_eq_zero htyped, Nat.add_zero] at heven

/-- **A keyword that is offered and accepted is one more token**, of the kind of the keyword. -/
theorem scan_accepted {calls : List (String × Kind)} {before front typed : List Char}
    (hdivided : divideAtWord before = (front, typed)) (hbefore : before = front ++ typed)
    (hblank : ∀ x ∈ front.getLast?, Text.isBlank x = true) {keyword : String} {kind : Kind}
    (hkind : (Vocabulary.extended (.ofPairs calls)).find? keyword = some kind)
    (hkeyword : isTypeable keyword = true)
    (hoffered : Text.lower keyword ∈
      (completeAfter (.extended (.ofPairs calls)) before).candidates) :
    scan (.extended (.ofPairs calls)) (String.ofList front ++ Text.lower keyword)
      = Token.visible (scan (.extended (.ofPairs calls)) (String.ofList front)) ++
        [⟨kind, Text.lower keyword, .between (Position.after {} front)
            (Position.after {} (front ++ (Text.lower keyword).toList))⟩,
          .endAt (Position.after {} (front ++ (Text.lower keyword).toList))] := by
  obtain ⟨hquotes, -, hbegins⟩ := (mem_candidates_iff hdivided).mp hoffered
  rw [hbefore] at hquotes
  have hne : keyword ≠ "" := by
    rintro rfl
    rw [Vocabulary.find?_empty] at hkind
    exact nomatch hkind
  have hword := isWordChar_lower hkeyword
  have hscan := scan_word_behind_blank (.ofPairs calls) (even_quotes_front hquotes hbegins hword)
    hblank (Text.lower_ne_empty hne) hword
  rwa [Vocabulary.kindOf_lower hkind (isTypeable_iff.mp hkeyword).1] at hscan

/-- The completion at a place of a line with the text `before` in front of it, which is `front`
and behind it the `word` that is completed. -/
structure Completes (v : Vocabulary) (line : String) (pos : Nat) (before front word : List Char)
    (c : Completion) : Prop where
  start_le : c.start ≤ pos
  /-- The start is where a character starts, or the end. -/
  front_eq : Text.slice? 0 c.start line.toList = some front
  word_eq : Text.slice? c.start pos line.toList = some word
  /-- There is no blank in the word, and one before it unless the word begins the line. -/
  visible : ∀ x ∈ word, Text.isBlank x = false
  behind_blank : ∀ x ∈ front.getLast?, Text.isBlank x = true
  sorted : c.candidates.Pairwise (· < ·)
  /-- Keywords in lower case and meta commands are offered if they begin like the word. -/
  offered : inQuotes before = false → ∀ w, w ∈ c.candidates ↔
    (w ∈ v.words.map Text.lower ∨ w ∈ Session.metaCommands) ∧
      (Text.lower (String.ofList word)).toList <+: w.toList
  /-- With a keyword that is offered in the place of the word, there is one more token than
  without it: all of the keyword, of the kind that the vocabulary says. -/
  accepted : ∀ keyword ∈ v.words, isTypeable keyword = true →
    Text.lower keyword ∈ c.candidates →
    let start := Position.after {} front
    let stop := Position.after {} (front ++ (Text.lower keyword).toList)
    ∃ kind, v.find? keyword = some kind ∧
      scan v (String.ofList front ++ Text.lower keyword)
        = Token.visible (scan v (String.ofList front)) ++
          [⟨kind, Text.lower keyword, .between start stop⟩, .endAt stop]

/-- **What is completed is understood.**  Whatever the aliases, the line and the place in it: the
completion starts behind the last blank before the place, outside of quotes it offers in order what
begins like the word there, and a keyword of ASCII word characters that is offered is scanned as
that keyword once it has been put there. -/
theorem completions_recognised (calls : List (String × Kind)) (line : String) (pos : Nat)
    (before : List Char) (h : Text.slice? 0 pos line.toList = some before) :
    let v := Vocabulary.extended (.ofPairs calls)
    ∃ front word, Completes v line pos before front word (complete v line pos) := by
  intro v
  obtain ⟨front, word, hdivided, hbefore, hvisible, hblank⟩ := exists_divided before
  obtain ⟨none, behind, hline, hnone, hpos⟩ := Text.slice?_eq_some_iff.mp h
  obtain rfl := Text.byteLength_eq_zero_iff.mp hnone
  rw [List.nil_append] at hline hpos
  have hcomplete : complete v line pos = completeAfter v before := by rw [complete, h]; rfl
  have hstart : (complete v line pos).start = Text.byteLength front := by
    rw [hcomplete, completeAfter_eq hdivided]
  have hparts : line.toList = front ++ (word ++ behind) := by
    rw [hline, hbefore, List.append_assoc]
  refine ⟨front, word, ?_, ?_, ?_, hvisible, hblank, ?_, ?_, ?_⟩
  · rw [hstart, ← hpos, hbefore]
    exact Text.byteLength_le_append front word
  · exact Text.slice?_eq_some_iff.mpr ⟨[], word ++ behind, hparts, rfl, hstart.symm⟩
  · exact Text.slice?_eq_some_iff.mpr ⟨front, behind, hparts, hstart.symm, hbefore ▸ hpos⟩
  · rw [hcomplete]
    exact sorted_candidates v before
  · intro hquotes w
    rw [hcomplete, mem_candidates_iff hdivided, hquotes]
    simp
  · intro keyword hkeyword htypeable hoffered start stop
    obtain ⟨kind, hkind⟩ := WordMap.mem_words_iff.mp hkeyword
    rw [hcomplete] at hoffered
    exact ⟨kind, hkind, scan_accepted hdivided hbefore hblank hkind htypeable hoffered⟩

/-- Behind a closed text in quotes and a wide blank, with more of the line behind the place. -/
theorem completions_recognised_hebe :
    let calls : List (String × Kind) := [(" Hebe", .verb .take)]
    let v := Vocabulary.extended (.ofPairs calls)
    let line := "nimm \"a b\"\u3000HE wohl"
    Text.slice? 0 15 line.toList = some "nimm \"a b\"\u3000HE".toList ∧
      (complete v line 15).start = 13 ∧ "hebe" ∈ (complete v line 15).candidates ∧
      scan v "nimm \"a b\"\u3000hebe" =
        [⟨.identifier, "nimm", ⟨0, 4, 1, 0⟩⟩, ⟨.string, "a b", ⟨5, 10, 1, 5⟩⟩,
          ⟨.verb .take, "hebe", ⟨13, 17, 1, 11⟩⟩, ⟨.eol, "", ⟨17, 17, 1, 15⟩⟩] := by
  intro calls v line
  have hslice : Text.slice? 0 15 line.toList = some "nimm \"a b\"\u3000HE".toList := by decide
  have hstart : (complete v line 15).start = 13 := by decide +kernel
  have hkind : v.find? "HEBE" = some (.verb .take) := by decide +kernel
  have hkeyword : "HEBE" ∈ v.words := WordMap.mem_words_iff.mpr ⟨_, hkind⟩
  obtain ⟨front, word, hcompletes⟩ := completions_recognised calls line 15 _ hslice
  have hfront : Text.slice? 0 13 line.toList = some "nimm \"a b\"\u3000".toList := by decide
  have hword : Text.slice? 13 15 line.toList = some "HE".toList := by decide
  rw [← hstart] at hfront hword
  obtain rfl := Option.some.inj (hfront.symm.trans hcompletes.front_eq)
  obtain rfl := Option.some.inj (hword.symm.trans hcompletes.word_eq)
  have hoffered : "hebe" ∈ (complete v line 15).candidates :=
    (hcompletes.offered (by decide) "hebe").mpr
      ⟨Or.inl (List.mem_map_of_mem hkeyword), by decide⟩
  obtain ⟨kind, hfind, hscan⟩ :=
    hcompletes.accepted "HEBE" hkeyword (by decide) hoffered
  obtain rfl : .verb .take = kind := Option.some.inj (hkind.symm.trans hfind)
  exact ⟨hslice, hstart, hoffered, hscan.trans (by decide +kernel)⟩

end Terminal

end Adventure
