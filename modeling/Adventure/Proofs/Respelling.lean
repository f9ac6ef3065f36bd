/-
One verb in two spellings.

An alias is made to be typed in place of another word for its verb, and the rest of the line must
not notice.  The rest is cut into the same tokens behind either word; only their places differ, by
the length of the word and on its own line alone.  The rules ask for the spelling of a verb in two
places.  `run` is a word of its own, so it is left out here, and an error about a word that the
verb does not allow quotes the verb.  What else an error says, and which token it is about, depends
on the kinds and the spellings behind the verb.

So the two lines mean the same, or both break the same rule with the same token, and the columns
of the errors tell how far that token has moved.
-/
import Adventure.Proofs.Caret
import Adventure.Proofs.Composition
import Adventure.Proofs.Overlay
import Adventure.Proofs.Places

namespace Adventure

/-! ### A text behind a word -/

namespace Vocabulary

variable {o : Overlay} {word : String} {kind : Kind}

theorem ne_empty_of_find? (h : (extended o).find? (Text.upper word) = some kind) :
    word ≠ "" := by
  rintro rfl
  rw [Text.upper_eq_empty_iff.mpr rfl, find?_empty] at h
  exact nomatch h

theorem kindOf_of_find? (h : (extended o).find? (Text.upper word) = some kind) :
    (extended o).kindOf word = kind := by
  rw [kindOf, h, Option.getD_some]

end Vocabulary

/-- The token of a word at the start of a text. -/
def Token.leading (kind : Kind) (word : String) : Token :=
  ⟨kind, word, .between {} (Position.after {} word.toList)⟩

/-- **A text behind a word is cut as it is without it**, and only its places change. -/
theorem Line.behind_word {o : Overlay} {word text : String} {body : List Token} {marker : Token}
    (h : Line o text body marker) (hne : word ≠ "")
    (hword : ∀ c ∈ word.toList, Text.isWordChar c = true)
    (hseam : ∀ c ∈ text.toList.head?, Text.isWordChar c = false) :
    Line o (word ++ text)
      (Token.leading ((Vocabulary.extended o).kindOf word) word
        :: body.map (Token.shift word.toList text.toList))
      (marker.shift word.toList text.toList) := by
  have hwhole : Scan.Whole (.extended o)
      ⟨(Vocabulary.extended o).kindOf (String.ofList word.toList), word.toList, word.toList,
        text.toList⟩ :=
    .word (by simpa using hne) hword hseam
  have hcuts := @Scan.Cuts.token _ {} [] _ _ (by simp) hwhole
    (Scan.cuts_behind (.extended o) word.toList text)
  have hscan : scan (.extended o) (word ++ text)
      = (Token.leading ((Vocabulary.extended o).kindOf word) word
          :: body.map (Token.shift word.toList text.toList))
        ++ [marker.shift word.toList text.toList] := by
    rw [scan_eq_iff, String.toList_append]
    rw [h.scan_eq, List.map_append, Scan.Piece.token, String.ofList_toList] at hcuts
    exact hcuts
  obtain ⟨body', marker', hline⟩ := exists_line o (word ++ text)
  obtain ⟨rfl, rfl⟩ := hline.eq_of_scan hscan
  exact hline

namespace Token

theorem map_wording_shift (front text : List Char) (tokens : List Token) :
    (tokens.map (shift front text)).map wording = tokens.map wording := by
  rw [List.map_map]
  rfl

/-- A token of the first row moves to the right, any other stays in its column. -/
theorem column_shift (front text : List Char) (t : Token) :
    (t.shift front text).column
      = if Text.row text t.span.start = 0 then t.column + Text.lastLineLength front
        else t.column :=
  rfl

end Token

theorem Text.lastLineLength_of_word {word : String}
    (h : ∀ c ∈ word.toList, isWordChar c = true) : lastLineLength word.toList = word.length := by
  have hall : word.toList.rtakeWhile (· != '\n') = word.toList := by
    rw [List.rtakeWhile_eq_self_iff]
    intro c hc
    have hne : c ≠ '\n' := by
      rintro rfl
      exact absurd (h _ hc) (by decide)
    simpa using hne
  rw [lastLineLength, hall, String.length_toList]

/-! ### One fault behind two words -/

namespace Fault

/-- What a fault behind a verb is about does not depend on places. -/
theorem blamed?_shift {fault : Fault} (hfault : fault ≠ .verb) (k : Verb) (verb verb' : Token)
    (front text : List Char) (args : List Token) :
    fault.blamed? k verb (args.map (Token.shift front text))
      = (fault.blamed? k verb' args).map (Token.shift front text) := by
  have hkind : ∀ t, (Token.shift front text t).kind = t.kind := fun _ => rfl
  cases fault with
  | verb => exact absurd rfl hfault
  | extra =>
      simp only [blamed?, Ruling.refused?]
      split
      · exact List.head?_map
      · split
        · simp [List.find?_map, hkind]
        · rfl
  | destination => exact List.getLast?_map
  | preposition => simp [blamed?, List.find?_map, hkind]

theorem ofMessage_unexpectedAfter (word : String) :
    ofMessage (Complaint.unexpectedAfter word).message = .extra := by
  show ofMessage ("Unexpected input after '" ++ word ++ "'") = .extra
  simp [ofMessage]

end Fault

/-- Two errors in one text behind two words for a verb. -/
structure ParseError.Respelled (i : Interpreter) (a b text : String) (e e' : ParseError) :
    Prop where
  /-- Each quotes its own verb, or both say the same. -/
  message : e.message = "Unexpected input after '" ++ Text.lower a ++ "'" ∧
      e'.message = "Unexpected input after '" ++ Text.lower b ++ "'" ∨
    e.message = e'.message ∧ Fault.ofMessage e.message ≠ .extra
  /-- Both are about the verb, which begins the line, or about one token of the text.  On the
  first line that token has moved with the length of the verb. -/
  reported : (e.blamed? (i.tokens (a ++ text)) = (i.tokens (a ++ text)).head? ∧
      e'.blamed? (i.tokens (b ++ text)) = (i.tokens (b ++ text)).head? ∧
      e.column = 0 ∧ e'.column = 0) ∨
    ∃ t ∈ i.tokens text,
      e.blamed? (i.tokens (a ++ text)) = some (t.shift a.toList text.toList) ∧
      e'.blamed? (i.tokens (b ++ text)) = some (t.shift b.toList text.toList) ∧
      if Text.row text.toList t.span.start = 0 then
        (e.column : Int) - e'.column = a.length - b.length
      else e.column = e'.column

/-- What two words for one verb make of a text: the same command, or two errors. -/
inductive Node.Respelled (i : Interpreter) (a b text : String) : Node → Node → Prop
  | verb (action : Action) (phrase : Phrase) :
      Respelled i a b text (.verb action phrase) (.verb action phrase)
  | error {e e' : ParseError} (h : e.Respelled i a b text e') :
      Respelled i a b text (.error e) (.error e')

section Behind

variable {o : Overlay} {a b text : String} {k : Verb} {body : List Token} {marker marker' : Token}

/-- What an error in a text behind a word is about: the word, or what the fault is about in the
text alone. -/
theorem Fault.Explains.located {e : ParseError} {fault : Fault}
    (h : fault.Explains e k (.leading (.verb k) a) (body.map (Token.shift a.toList text.toList)))
    (hline : Line o (a ++ text)
      (.leading (.verb k) a :: body.map (Token.shift a.toList text.toList)) marker)
    (verb : Token) :
    (fault = .verb ∧ e.column = 0 ∧
      e.blamed? (scan (.extended o) (a ++ text)) = (scan (.extended o) (a ++ text)).head?) ∨
    ∃ t ∈ body, fault.blamed? k verb body = some t ∧ fault ≠ .verb ∧
      e.column = (t.shift a.toList text.toList).column ∧
      e.blamed? (scan (.extended o) (a ++ text)) = some (t.shift a.toList text.toList) := by
  obtain ⟨t, hblamed, hcolumn⟩ := h.blamed
  have hreported := hline.blamed?_eq rfl e
  rw [← h.eq_ofMessage, hblamed] at hreported
  by_cases hfault : fault = .verb
  · subst hfault
    obtain rfl := Option.some.inj hblamed
    exact Or.inl ⟨rfl, hcolumn.symm, by rw [hreported, hline.scan_eq]; rfl⟩
  · rw [blamed?_shift hfault k _ verb, Option.map_eq_some_iff] at hblamed
    obtain ⟨u, hu, rfl⟩ := hblamed
    have hmem : u ∈ body := (mem_of_blamed? hu).resolve_left fun hverb => hfault hverb.1
    exact Or.inr ⟨u, hmem, hu, hfault, hcolumn.symm, hreported⟩

/-- **Two complaints about one text come of one fault.** -/
theorem Ruling.Requoted.respelled {c c' : Complaint} {t t' : Token}
    (h : Requoted (.leading (.verb k) a) (.leading (.verb k) b) c c')
    (ha : ∀ c ∈ a.toList, Text.isWordChar c = true)
    (hb : ∀ c ∈ b.toList, Text.isWordChar c = true)
    (hbody : ∀ u ∈ body, u ∈ scan (.extended o) text)
    (hline : Line o (a ++ text)
      (.leading (.verb k) a :: body.map (Token.shift a.toList text.toList)) marker)
    (hline' : Line o (b ++ text)
      (.leading (.verb k) b :: body.map (Token.shift b.toList text.toList)) marker')
    (hbreaks : Breaks k (.leading (.verb k) a) (body.map (Token.shift a.toList text.toList)) c t)
    (hbreaks' :
      Breaks k (.leading (.verb k) b) (body.map (Token.shift b.toList text.toList)) c' t') :
    ParseError.Respelled ⟨o⟩ a b text ⟨c.message, t.column, a ++ text⟩
      ⟨c'.message, t'.column, b ++ text⟩ := by
  obtain ⟨fault, hfault⟩ := Fault.exists_of_breaks hbreaks
    (e := ⟨c.message, t.column, a ++ text⟩) rfl rfl
  obtain ⟨fault', hfault'⟩ := Fault.exists_of_breaks hbreaks'
    (e := ⟨c'.message, t'.column, b ++ text⟩) rfl rfl
  have hsame : fault' = fault := by
    rw [hfault.eq_ofMessage, hfault'.eq_ofMessage]
    cases h with
    | same => rfl
    | verb => rw [Fault.ofMessage_unexpectedAfter, Fault.ofMessage_unexpectedAfter]
  subst hsame
  refine ⟨?_, ?_⟩
  · by_cases hextra : fault' = .extra
    · subst hextra
      exact Or.inl ⟨hfault.1, hfault'.1⟩
    · rw [hfault.eq_ofMessage] at hextra
      cases h with
      | same => exact Or.inr ⟨rfl, hextra⟩
      | verb => exact absurd (Fault.ofMessage_unexpectedAfter _) hextra
  · rcases hfault.located hline (.leading (.verb k) a) with
      ⟨hverb, hcolumn, hreported⟩ | ⟨u, hu, hblamed, hverb, hcolumn, hreported⟩
    · rcases hfault'.located hline' (.leading (.verb k) a) with
        ⟨-, hcolumn', hreported'⟩ | ⟨_, _, _, hverb', _⟩
      · exact Or.inl ⟨hreported, hreported', hcolumn, hcolumn'⟩
      · exact absurd hverb hverb'
    · rcases hfault'.located hline' (.leading (.verb k) a) with
        ⟨hverb', _⟩ | ⟨u', -, hblamed', -, hcolumn', hreported'⟩
      · exact absurd hverb' hverb
      · obtain rfl : u = u' := Option.some.inj (hblamed.symm.trans hblamed')
        refine Or.inr ⟨u, hbody u hu, hreported, hreported', ?_⟩
        rw [hcolumn, hcolumn', Token.column_shift, Token.column_shift,
          Text.lastLineLength_of_word ha, Text.lastLineLength_of_word hb]
        split
        · omega
        · rfl

end Behind

/-- **An alias can be typed for any other word of its verb.**  Two words that the vocabulary
sends to one verb, neither of them `run`, and any text behind them that does not go on with the
word: both lines are understood, and they mean the same or break the same rule. -/
theorem alias_transparent (i : Interpreter) (a b text : String) (k : Verb)
    (ha : ∀ c ∈ a.toList, Text.isWordChar c = true)
    (hb : ∀ c ∈ b.toList, Text.isWordChar c = true)
    (hrun : Text.sameIgnoringCase a "run" = false) (hrun' : Text.sameIgnoringCase b "run" = false)
    (hk : i.vocabulary.find? (Text.upper a) = some (.verb k))
    (hk' : i.vocabulary.find? (Text.upper b) = some (.verb k))
    (htext : ∀ c ∈ text.toList.head?, Text.isWordChar c = false) :
    Node.Respelled i a b text (i.compile (a ++ text)) (i.compile (b ++ text)) := by
  obtain ⟨o⟩ := i
  obtain ⟨body, marker, hbody⟩ := exists_line o text
  have hline := hbody.behind_word (Vocabulary.ne_empty_of_find? hk) ha htext
  have hline' := hbody.behind_word (Vocabulary.ne_empty_of_find? hk') hb htext
  rw [Vocabulary.kindOf_of_find? hk] at hline
  rw [Vocabulary.kindOf_of_find? hk'] at hline'
  have hwords : (body.map (Token.shift a.toList text.toList)).map Token.wording
      = (body.map (Token.shift b.toList text.toList)).map Token.wording := by
    rw [Token.map_wording_shift, Token.map_wording_shift]
  have hagree : Ruling.Agree (fun _ _ => True) (.leading (.verb k) a) (.leading (.verb k) b)
      (Ruling.SameDeed (· = ·))
      (Ruling.ofVerb k (.leading (.verb k) a) (body.map (Token.shift a.toList text.toList)))
      (Ruling.ofVerb k (.leading (.verb k) b) (body.map (Token.shift b.toList text.toList))) :=
    Ruling.agree_ofVerb Likeness.eq k trivial (hrun.trans hrun'.symm)
      (Token.alike_of_wording Likeness.eq hwords)
  rw [hline.compile_eq, hline'.compile_eq]
  show Node.Respelled ⟨o⟩ a b text (.ofRuling _ (.ofVerb k _ _)) (.ofRuling _ (.ofVerb k _ _))
  generalize hruling : Ruling.ofVerb k (.leading (.verb k) a) _ = ruling at hagree ⊢
  generalize hruling' : Ruling.ofVerb k (.leading (.verb k) b) _ = ruling' at hagree ⊢
  cases hagree with
  | @ok r r' hdeed =>
      rw [Prod.ext hdeed.1 hdeed.2.eq]
      exact .verb _ _
  | error hcomplaint =>
      obtain ⟨t, hbreaks, rfl⟩ := Ruling.blames_ofVerb hruling
      obtain ⟨t', hbreaks', rfl⟩ := Ruling.blames_ofVerb hruling'
      refine .error (hcomplaint.respelled ha hb (fun u hu => ?_) hline hline' hbreaks hbreaks')
      rw [hbody.scan_eq]
      exact List.mem_append_left _ hu

/-- Each error quotes its own word, and the longer word has moved the refused one to the right. -/
theorem alias_transparent_hilfe :
    let i : Interpreter := ⟨.ofPairs [("hilfe", .verb .help)]⟩
    let e : ParseError := ⟨"Unexpected input after 'help'", 5, "HELP mé\nnow"⟩
    let e' : ParseError := ⟨"Unexpected input after 'hilfe'", 6, "Hilfe mé\nnow"⟩
    (∀ c ∈ "HELP".toList, Text.isWordChar c = true) ∧
      (∀ c ∈ "Hilfe".toList, Text.isWordChar c = true) ∧
      Text.sameIgnoringCase "HELP" "run" = false ∧ Text.sameIgnoringCase "Hilfe" "run" = false ∧
      i.vocabulary.find? (Text.upper "HELP") = some (.verb .help) ∧
      i.vocabulary.find? (Text.upper "Hilfe") = some (.verb .help) ∧
      (∀ c ∈ " mé\nnow".toList.head?, Text.isWordChar c = false) ∧
      i.compile "HELP mé\nnow" = .error e ∧ i.compile "Hilfe mé\nnow" = .error e' ∧
      e.Respelled i "HELP" "Hilfe" " mé\nnow" e' := by
  intro i e e'
  have ha : ∀ c ∈ "HELP".toList, Text.isWordChar c = true := List.all_eq_true.mp (by decide +kernel)
  have hb : ∀ c ∈ "Hilfe".toList, Text.isWordChar c = true :=
    List.all_eq_true.mp (by decide +kernel)
  have hrun : Text.sameIgnoringCase "HELP" "run" = false := by decide +kernel
  have hrun' : Text.sameIgnoringCase "Hilfe" "run" = false := by decide +kernel
  have hk : i.vocabulary.find? (Text.upper "HELP") = some (.verb .help) := by decide +kernel
  have hk' : i.vocabulary.find? (Text.upper "Hilfe") = some (.verb .help) := by decide +kernel
  have htext : ∀ c ∈ " mé\nnow".toList.head?, Text.isWordChar c = false := by
    have hhead : " mé\nnow".toList.head? = some ' ' := by decide +kernel
    rw [hhead]
    rintro c ⟨⟩
    decide
  have herror : i.compile ("HELP" ++ " mé\nnow") = .error e := by decide +kernel
  have herror' : i.compile ("Hilfe" ++ " mé\nnow") = .error e' := by decide +kernel
  have hnodes := alias_transparent i "HELP" "Hilfe" " mé\nnow" .help ha hb hrun hrun' hk hk' htext
  rw [herror, herror'] at hnodes
  cases hnodes with
  | error hrespelled =>
      exact ⟨ha, hb, hrun, hrun', hk, hk', htext, herror, herror', hrespelled⟩

end Adventure
