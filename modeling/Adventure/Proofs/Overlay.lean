/-
From an accepted alias to a scanned word.

An alias is brought into its stored form in three places: when it is inserted, when it is
asked for, and when a word of a line is looked up.  The first two cut blanks off and
change the case, the last only changes the case.  They agree because a word of a line has
no blanks to cut off, and because changing the case never makes a text empty, so that an
alias is refused exactly if there is nothing to see in it.
-/
import Adventure.Proofs.Scan
import Adventure.Proofs.Stored
import Mathlib.Data.List.Find

namespace Adventure

namespace Overlay

/-- An alias is accepted if something of it is left to see and its kind can be had by a
word. -/
theorem accepts_iff {word : String} {kind : Kind} :
    accepts word kind = true ↔ Text.trim word ≠ "" ∧ kind.isStructural = false := by
  simp [accepts, key, Text.upper_eq_empty_iff]

/-- Word characters are stored as they are looked up. -/
theorem key_of_word {word : String} (h : ∀ c ∈ word.toList, Text.isWordChar c = true) :
    key word = Text.upper word := by
  rw [key, Text.trim_of_visible]
  intro c hc
  exact Text.not_isBlank_of_isWordChar (h c hc)

/-! ### Histories of insertions -/

theorem insert?_isSome_iff {o : Overlay} {word : String} {kind : Kind} :
    (o.insert? word kind).isSome = true ↔ accepts word kind = true := by
  unfold insert?
  by_cases h : accepts word kind = true
  · simp [h]
  · simp [h]

theorem insert_of_refused {o : Overlay} {word : String} {kind : Kind}
    (h : accepts word kind = false) : o.insert word kind = o := by
  simp [insert, insert?, h]

theorem words_insert {o : Overlay} {word : String} {kind : Kind}
    (h : accepts word kind = true) :
    (o.insert word kind).words = o.words.insert (key word) kind := by
  simp [insert, insert?, h]

theorem find?_insert (o : Overlay) (word u : String) (kind : Kind) :
    (o.insert word kind).words.find? u
      = if accepts word kind = true ∧ key word = u then some kind else o.words.find? u := by
  by_cases haccepts : accepts word kind = true
  · rw [words_insert haccepts, WordMap.find?_insert]
    simp only [haccepts, true_and, eq_comm]
  · rw [if_neg (fun h => haccepts h.1), insert_of_refused (by simpa using haccepts)]

/-- **What is stored is a stored form.** -/
theorem key_of_find? {calls : List (String × Kind)} {word : String} {kind : Kind}
    (h : (ofPairs calls).words.find? word = some kind) : key word = word := by
  induction calls using List.reverseRecOn with
  | nil => exact nomatch h
  | append_singleton calls call ih =>
      rw [ofPairs, insertAll, List.foldl_concat, find?_insert] at h
      by_cases hcall : accepts call.1 call.2 = true ∧ key call.1 = word
      · rw [← hcall.2, key_key]
      · rw [if_neg hcall] at h
        exact ih h

/-- The kind that the last accepted insertion of a word gave it. -/
def lastAccepted (calls : List (String × Kind)) (word : String) : Option Kind :=
  (calls.reverse.find? fun call => decide (Text.trim call.1 ≠ "" ∧
    call.2.isStructural = false ∧ key call.1 = key word)).map Prod.snd

theorem find?_insertAll (calls : List (String × Kind)) (word : String) :
    ∀ o : Overlay, (o.insertAll calls).find? word
      = (lastAccepted calls word).or (o.find? word) := by
  induction calls with
  | nil => intro o; rfl
  | cons call rest ih =>
      intro o
      have hstep : (o.insert call.1 call.2).find? word
          = (lastAccepted [call] word).or (o.find? word) := by
        rw [find?, find?_insert]
        simp only [accepts_iff, and_assoc, lastAccepted, List.reverse_singleton, find?]
        by_cases h : Text.trim call.1 ≠ "" ∧ call.2.isStructural = false ∧
            key call.1 = key word
        · rw [if_pos h, List.find?_cons_of_pos (by simpa using h)]
          rfl
        · rw [if_neg h, List.find?_cons_of_neg (by simpa using h)]
          rfl
      have hlast : lastAccepted (call :: rest) word
          = (lastAccepted rest word).or (lastAccepted [call] word) := by
        simp only [lastAccepted, List.reverse_cons, List.find?_append, Option.map_or,
          List.reverse_nil, List.nil_append]
      rw [insertAll, List.foldl_cons, ← insertAll, ih, hstep, hlast, Option.or_assoc]

/-- **The last accepted insertion of a word counts.** -/
theorem find?_ofPairs (calls : List (String × Kind)) (word : String) :
    (ofPairs calls).find? word = lastAccepted calls word := by
  rw [ofPairs, find?_insertAll]
  simp [find?, empty, WordMap.empty, WordMap.find?]

/-- The same, with the insertions before and behind the one that counts. -/
theorem find?_ofPairs_eq_some_iff {calls : List (String × Kind)}
    (haccepts : ∀ call ∈ calls, accepts call.1 call.2 = true) {word : String} {kind : Kind} :
    (ofPairs calls).find? word = some kind ↔
      ∃ front name back, calls = front ++ (name, kind) :: back ∧ key name = key word ∧
        ∀ call ∈ back, key call.1 ≠ key word := by
  have hlast : ∀ call ∈ calls.reverse, decide (Text.trim call.1 ≠ "" ∧
      call.2.isStructural = false ∧ key call.1 = key word) = decide (key call.1 = key word) := by
    intro call hcall
    have h := accepts_iff.mp (haccepts call (List.mem_reverse.mp hcall))
    simp [h.1, h.2]
  rw [find?_ofPairs, lastAccepted, List.find?_congr hlast, Option.map_eq_some_iff]
  constructor
  · rintro ⟨⟨name, k⟩, hfind, rfl⟩
    obtain ⟨hname, back, front, hcalls, hback⟩ := List.find?_eq_some_iff_append.mp hfind
    refine ⟨front.reverse, name, back.reverse, ?_, by simpa using hname, ?_⟩
    · simpa using congrArg List.reverse hcalls
    · intro call hcall
      simpa using hback call (List.mem_reverse.mp hcall)
  · rintro ⟨front, name, back, rfl, hname, hback⟩
    refine ⟨(name, kind), List.find?_eq_some_iff_append.mpr ?_, rfl⟩
    refine ⟨by simpa using hname, back.reverse, front.reverse, by simp, ?_⟩
    intro call hcall
    simpa using hback call (List.mem_reverse.mp hcall)

end Overlay

/-! ### Scanning one word -/

namespace Scan

/-- A word that ends a text, with a gap before it. -/
theorem cuts_word (v : Vocabulary) (p : Position) (gap : List Char)
    (hgap : ∀ c ∈ gap, isIgnored c = true) {word : String} (hne : word ≠ "")
    (hword : ∀ c ∈ word.toList, Text.isWordChar c = true) :
    Cuts v p (gap ++ word.toList)
      [⟨v.kindOf word, word, .between (p.after gap) (p.after (gap ++ word.toList))⟩,
        .endAt (p.after (gap ++ word.toList))] := by
  have hwhole : Whole v ⟨v.kindOf (String.ofList word.toList), word.toList, word.toList, []⟩ :=
    .word (by simpa using hne) hword (by simp)
  have hcuts := Cuts.token (p := p) hgap hwhole (.finish (by simp))
  rw [List.append_nil, Piece.token, String.ofList_toList] at hcuts
  exact hcuts

/-- A text of word characters is one token. -/
theorem scan_word (v : Vocabulary) {word : String} (hne : word ≠ "")
    (hword : ∀ c ∈ word.toList, Text.isWordChar c = true) :
    ∃ span place, scan v word = [⟨v.kindOf word, word, span⟩, .endAt place] :=
  ⟨_, _, scan_eq_iff.mpr (cuts_word v {} [] (by simp) hne hword)⟩

end Scan

/-- What a history of insertions into an empty overlay promises, up to the scanner. -/
structure Overlay.Reaches (calls : List (String × Kind)) (o : Overlay) (v : Vocabulary) :
    Prop where
  /-- An insertion succeeds if the alias can be seen and the kind is not structural. -/
  accepted : ∀ word kind, (o.insert? word kind).isSome = true ↔
    Text.trim word ≠ "" ∧ kind.isStructural = false
  /-- One that does not succeed changes nothing. -/
  refused : ∀ word kind, (o.insert? word kind).isSome = false → o.insert word kind = o
  /-- An alias has the kind that its last accepted insertion gave it. -/
  find : ∀ word, o.find? word = Overlay.lastAccepted calls word
  /-- Every stored form is looked up among the aliases first. -/
  lookup : ∀ u, v.find? u = (o.words.find? u).or (Vocabulary.builtin.find? u)
  /-- The words of a kind come in order, each once. -/
  words_sorted : ∀ kind, (v.wordsWith kind).Pairwise (· < ·)
  /-- They are the words that are looked up to it. -/
  mem_words : ∀ kind u, u ∈ v.wordsWith kind ↔ v.find? u = some kind
  /-- Only aliases that are no words of every game make the vocabulary larger. -/
  size : v.size = Vocabulary.builtin.size +
    (o.words.words.filter fun u => !Vocabulary.builtin.contains u).length
  /-- A text of word characters is one token of the kind of the alias, or else of the word,
  or else an identifier. -/
  scan : ∀ word, word ≠ "" → (∀ c ∈ word.toList, Text.isWordChar c = true) →
    ∃ token marker, Adventure.scan v word = [token, marker] ∧ token.lexeme = word ∧
      token.kind = ((o.find? word).or (Vocabulary.builtin.find? (Text.upper word))).getD
        .identifier ∧ marker.kind = .eol

theorem Vocabulary.size_extended (o : Overlay) :
    (extended o).size
      = builtin.size + (o.words.words.filter fun u => !builtin.contains u).length := by
  rw [toWordMap_extended, Overlay.toList, WordMap.size_insertAll builtin.toWordMap o.words.distinct,
    WordMap.words, List.filter_map, List.length_map]
  rfl

/-- **An alias that is accepted is found, listed, counted and scanned.** -/
theorem overlay_reaches_scanner (calls : List (String × Kind)) :
    Overlay.Reaches calls (.ofPairs calls) (.extended (.ofPairs calls)) where
  accepted := by
    intro word kind
    rw [Overlay.insert?_isSome_iff, Overlay.accepts_iff]
  refused := by
    intro word kind h
    refine Overlay.insert_of_refused ?_
    rw [Bool.eq_false_iff] at h ⊢
    rwa [ne_eq, Overlay.insert?_isSome_iff] at h
  find := Overlay.find?_ofPairs calls
  lookup := Vocabulary.find?_extended _
  words_sorted := WordMap.wordsWith_sorted _
  mem_words := fun _ _ => WordMap.mem_wordsWith_iff
  size := Vocabulary.size_extended _
  scan := by
    intro word hne hword
    obtain ⟨span, place, hscan⟩ := Scan.scan_word (.extended (.ofPairs calls)) hne hword
    refine ⟨_, _, hscan, rfl, ?_, rfl⟩
    show Vocabulary.kindOf _ word = _
    rw [Vocabulary.kindOf, Vocabulary.find?_extended, Overlay.find?, Overlay.key_of_word hword]

end Adventure
