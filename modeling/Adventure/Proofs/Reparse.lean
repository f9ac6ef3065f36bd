/-
A command can be read back.

The name of the action and the argument, put together again with a space, mean what the
line meant.  Three things have to agree.  The rules keep the argument whole, or drop so
much of it that the rest is read the same way: `Line.recalls` finds the tokens that are
kept.  Spelled out with single spaces those tokens are cut as they were, because none of
them can grow across a space: `cuts_joined`.  And the places, which did change, do not
matter.

Quoted texts are the exception, since an argument leaves their quotes out.
-/
import Adventure.Proofs.Spacing

namespace Adventure

namespace Ruling

/-! ### Rules applied again

A rule that lets words through asks nothing of the verb's spelling but whether it is
`run`, so it lets them through after the verb's own name as well.
-/

variable {k k' : Verb} {verb verb' : Token} {args : List Token} {phrase : Phrase}

/-- A ruling on kept words gives the phrase again, whatever the verb is called. -/
def Again (k : Verb) (phrase : Phrase) (kept : List Token) : Prop :=
  phrase.raw = Token.join kept ∧
    ∀ verb : Token, Text.sameIgnoringCase verb.lexeme "run" = false →
      ofVerb k verb kept = .ok (k, phrase)

theorem again_flee (haway : ∀ t ∈ args, t.kind = .away) :
    Again .flee { raw := Token.join args } args :=
  ⟨rfl, fun _ _ => flee_of_away haway⟩

/-- Going somewhere does not depend on how the verb is spelled. -/
theorem again_goTo {rest : List Token} (h : goTo verb args rest = .ok (k', phrase)) :
    k' = .go ∧ phrase.raw = Token.join args ∧
      ∀ verb' : Token, goTo verb' args rest = .ok (k', phrase) := by
  obtain ⟨split, hsplit, hblank, hreturn⟩ := goTo_eq_ok_iff.mp h
  obtain ⟨rfl, rfl⟩ := Prod.mk.inj hreturn
  exact ⟨rfl, rfl, fun verb' => goTo_eq_ok_iff.mpr ⟨split, hsplit, hblank, rfl⟩⟩

theorem again_move (h : move verb args = .ok (k', phrase)) : Again k' phrase args := by
  rw [move_eq] at h
  split at h
  · rename_i hrun
    simp only [Bool.and_eq_true, List.all_eq_true, beq_iff_eq] at hrun
    rw [flee_of_away hrun.2] at h
    obtain ⟨rfl, rfl⟩ := Prod.mk.inj (Except.ok.inj h)
    exact again_flee hrun.2
  · split at h
    · exact nomatch h
    · rename_i hnot
      obtain ⟨rfl, hraw, hgoTo⟩ := again_goTo h
      refine ⟨hraw, ?_⟩
      intro verb' hrun
      show move verb' args = _
      rw [move_eq, hrun, Bool.false_and, if_neg (by simp)]
      split
      · rename_i to_ hdrop hlast
        exact absurd hlast (hnot to_ hdrop)
      · exact hgoTo verb'

theorem again_look (h : look args = .ok (k', phrase)) :
    ∃ kept, (∀ t ∈ kept, t ∈ args) ∧ Again k' phrase kept := by
  obtain ⟨split, hsplit, hreturn⟩ := bind_eq_ok h
  cases args with
  | nil =>
      obtain ⟨rfl, rfl⟩ := Prod.mk.inj (Except.ok.inj hreturn)
      exact ⟨[], by simp, raw_of_split hsplit, fun _ _ => h⟩
  | cons first rest =>
      cases haround : isAround first with
      | true =>
          -- Nothing of the words is kept, and looking at nothing gives nothing.
          simp only [haround, if_true] at hreturn
          obtain ⟨rfl, rfl⟩ := Prod.mk.inj (Except.ok.inj hreturn)
          exact ⟨[], by simp, rfl, fun _ _ => rfl⟩
      | false =>
          simp only [haround, Bool.false_eq_true, if_false] at hreturn
          obtain ⟨rfl, rfl⟩ := Prod.mk.inj (Except.ok.inj hreturn)
          exact ⟨first :: rest, fun _ ht => ht, raw_of_split hsplit, fun _ _ => h⟩

theorem again_talk (h : talk verb args = .ok (k', phrase)) : Again k' phrase args := by
  obtain ⟨split, hsplit, hblank, hreturn⟩ := talk_eq_ok_iff.mp h
  obtain ⟨rfl, rfl⟩ := Prod.mk.inj hreturn
  exact ⟨rfl, fun verb' _ => talk_eq_ok_iff.mpr ⟨split, hsplit, hblank, rfl⟩⟩

theorem again_of_flee (h : flee verb args = .ok (k', phrase)) : Again k' phrase args := by
  unfold flee at h
  split at h
  · exact nomatch h
  · rename_i hnone
    obtain ⟨rfl, rfl⟩ := Prod.mk.inj (Except.ok.inj h)
    refine again_flee ?_
    intro t ht
    simpa using List.find?_eq_none.mp hnone t ht

/-- Some tokens of the line are enough to get the phrase again. -/
def Recalls (k : Verb) (phrase : Phrase) (tokens : List Token) : Prop :=
  ∃ kept, (∀ t ∈ kept, t ∈ tokens) ∧ Again k phrase kept

theorem Again.recalls {kept : List Token} (h : Again k phrase kept) : Recalls k phrase kept :=
  ⟨kept, fun _ ht => ht, h⟩

/-- **What a rule lets through, it lets through again.** -/
theorem recalls_ofVerb (h : ofVerb k verb args = .ok (k', phrase)) : Recalls k' phrase args := by
  cases k with
  | go => exact (again_move h).recalls
  | look => exact again_look h
  | flee => exact (again_of_flee h).recalls
  | talk => exact (again_talk h).recalls
  | help | listen | inventory | quit =>
      cases args with
      | cons extra rest => exact nomatch h
      | nil =>
          obtain ⟨rfl, rfl⟩ := Prod.mk.inj (Except.ok.inj h)
          exact Again.recalls ⟨rfl, fun _ _ => rfl⟩
  | _ =>
      obtain ⟨split, hsplit, hreturn⟩ := bind_eq_ok h
      obtain ⟨rfl, rfl⟩ := Prod.mk.inj (Except.ok.inj hreturn)
      exact Again.recalls ⟨raw_of_split hsplit, fun _ _ => h⟩

/-- A direction by itself is a destination as well. -/
theorem again_direction {t : Token} (hdirection : t.kind.isDirection = true)
    (hvisible : ∃ x ∈ t.lexeme.toList, Text.isBlank x = false) :
    Again .go (.ofTarget t.lexeme) [t] := by
  have hblank : Text.isBlankText t.lexeme = false := by
    simpa [Text.isBlankText] using hvisible
  have hraw : Token.join [t] = t.lexeme := String.intercalate_singleton
  obtain ⟨d, hkind⟩ := Kind.exists_of_isDirection hdirection
  have hsplit : Phrase.split [t] = .ok (.ofTarget t.lexeme) := by
    simp [Phrase.split, hkind, Kind.isSplitting, hraw]
  have htarget : destination [t] (.ofTarget t.lexeme) = t.lexeme := by
    simp [destination, hdirection]
  refine ⟨hraw.symm, fun verb hrun => ?_⟩
  show move verb [t] = _
  rw [move_eq, hrun, Bool.false_and, if_neg (by simp)]
  simp only [List.dropWhile_cons, List.takeWhile_cons, hkind]
  refine goTo_eq_ok_iff.mpr ⟨.ofTarget t.lexeme, hsplit, ?_, ?_⟩
  · rw [htarget]
    exact hblank
  · rw [htarget, hraw]
    rfl

end Ruling

namespace Scan

/-! ### Tokens spelled out again

A word grows as long as word characters follow it and a sign does not grow at all, so a
space behind either gives it back.
-/

variable {v : Vocabulary}

/-- A token that is cut off wherever it is spelled with no word character behind it. -/
def Stands (v : Vocabulary) (t : Token) : Prop :=
  ∀ rest : List Char, (∀ c ∈ rest.head?, Text.isWordChar c = false) →
    Whole v ⟨t.kind, t.lexeme.toList, t.lexeme.toList, rest⟩

/-- Without quotes in a text all its tokens are words and signs. -/
theorem Placed.stands {text front : List Char} {t : Token} {q : Piece}
    (h : Placed v text t front q) (hquote : '"' ∉ text) : Stands v t := by
  have hcovered : '"' ∉ q.covered := by
    rw [h.text_eq] at hquote
    simp only [List.mem_append, not_or] at hquote
    exact hquote.2.1
  intro rest hrest
  rw [h.kind_eq, h.lexeme_eq, String.toList_ofList]
  have hwhole := h.whole
  clear h
  -- A text in quotes would have brought its opening quote from the line.
  cases hwhole with
  | talk _ => exact .talk rest
  | help _ => exact .help rest
  | quoted _ hbody => exact absurd (by simp) hcovered
  | unclosed hbody => exact absurd (by simp) hcovered
  | word hne hword _ => exact .word hne hword hrest

theorem whole_name {k : Verb} {rest : List Char} (hname : v.kindOf k.name = .verb k)
    (hrest : ∀ c ∈ rest.head?, Text.isWordChar c = false) :
    Whole v ⟨.verb k, k.name.toList, k.name.toList, rest⟩ := by
  have hne : k.name.toList ≠ [] := by cases k <;> decide
  have hword : k.name.toList.all Text.isWordChar = true := by cases k <;> decide
  have hwhole : Whole v _ := .word hne (List.all_eq_true.mp hword) hrest
  rw [String.ofList_toList, hname] at hwhole
  exact hwhole

/-- A token as a piece that covers its own spelling. -/
def Piece.ofToken (t : Token) : Piece :=
  ⟨t.kind, t.lexeme.toList, t.lexeme.toList, []⟩

theorem row_of_stands {kept : List Token} (hkept : ∀ t ∈ kept, Stands v t) :
    Row v (kept.map Piece.ofToken) := by
  induction kept with
  | nil => exact .nil
  | cons t rest ih =>
      have hstands := hkept t (by simp)
      refine .cons (hstands [] (by simp)) ?_ (ih fun u hu => hkept u (by simp [hu]))
      -- A token that can stand before a space has left no quotes open.
      rcases (hstands [' '] (head?_space [])).quotes with hclosed | ⟨-, hrest⟩
      · exact Or.inl hclosed
      · exact absurd hrest (by simp)

theorem typed_ofToken (kept : List Token) :
    typed (kept.map Piece.ofToken) = (Token.join kept).toList := by
  rw [typed, Token.join, String.toList_intercalate, List.map_map, List.map_map]
  rfl

/-- **Tokens spelled out with spaces are cut as they were.** -/
theorem cuts_joined {kept : List Token} (hkept : ∀ t ∈ kept, Stands v t) (front : List Char) :
    ∃ tokens marker, Cuts v (Position.after {} front) (' ' :: (Token.join kept).toList)
        (tokens ++ [marker]) ∧
      tokens.map Token.wording = kept.map Token.wording := by
  obtain ⟨tokens, marker, hcuts, hsame, -⟩ :=
    (row_of_stands hkept).cuts front [' '] isIgnored_space
  rw [typed_ofToken] at hcuts
  refine ⟨tokens, marker, hcuts, hsame.trans ?_⟩
  rw [List.map_map]
  refine List.map_congr_left ?_
  intro t _
  simp [Piece.ofToken, Piece.wording, Token.wording]

/-- A verb by its name and tokens behind it are found again where they are typed out. -/
theorem scan_sentence {k : Verb} {kept : List Token} (hname : v.kindOf k.name = .verb k)
    (hkept : ∀ t ∈ kept, Stands v t) :
    ∃ verb args marker,
      scan v (k.name ++ " " ++ Token.join kept) = verb :: args ++ [marker] ∧
        verb.kind = .verb k ∧ verb.lexeme = k.name ∧
        args.map Token.wording = kept.map Token.wording := by
  have htext : (k.name ++ " " ++ Token.join kept).toList
      = [] ++ (k.name.toList ++ ' ' :: (Token.join kept).toList) := by
    simp
  have hwhole := whole_name hname (head?_space (Token.join kept).toList)
  obtain ⟨args, marker, hcuts, hsame⟩ := cuts_joined hkept k.name.toList
  have hgap : ∀ c ∈ ([] : List Char), isIgnored c = true := by simp
  have hscan := Scanner.tokens_of_cuts (.token hgap hwhole hcuts)
  rw [← htext] at hscan
  exact ⟨_, args, marker, hscan, rfl, String.ofList_toList, hsame⟩

end Scan

/-! ### Commands read back -/

/-- Whatever a line asks for can be recalled from its own tokens. -/
theorem Line.recalls {o : Overlay} {input : String} {body : List Token} {marker : Token}
    (hline : Line o input body marker) {action : Action} {phrase : Phrase}
    (h : Node.ofWords input body = .verb action phrase) :
    ∃ k, action = .perform k ∧ Ruling.Recalls k phrase body := by
  have hmeans := means_ofWords input body
  rw [h] at hmeans
  cases hmeans with
  | @direction first args hdirection =>
      obtain ⟨front, q, hplaced⟩ := hline.placed first (by simp)
      have hagain := Ruling.again_direction hdirection (hplaced.exists_visible hdirection)
      exact ⟨.go, rfl, [first], by simp, hagain⟩
  | @performed first args k k' phrase hk hruling =>
      obtain ⟨kept, hkept, hagain⟩ := Ruling.recalls_ofVerb hruling
      exact ⟨k', rfl, kept, fun t ht => List.mem_cons_of_mem _ (hkept t ht), hagain⟩

/-- What is said of a verb and the kept words holds when they are typed out. -/
theorem compile_sentence {o : Overlay} {k : Verb} {phrase : Phrase} {kept : List Token}
    (hname : (Vocabulary.extended o).kindOf k.name = .verb k)
    (hkept : ∀ t ∈ kept, Scan.Stands (.extended o) t) (hagain : Ruling.Again k phrase kept) :
    (Interpreter.mk o).compile (k.name ++ " " ++ phrase.raw) = .verb (.perform k) phrase := by
  obtain ⟨hraw, hrule⟩ := hagain
  have hrun : Text.sameIgnoringCase k.name "run" = false := by cases k <;> decide
  rw [hraw]
  obtain ⟨verb, args, marker, hscan, hkind, hlexeme, hsame⟩ := Scan.scan_sentence hname hkept
  obtain ⟨body, marker', hline⟩ := exists_line o (k.name ++ " " ++ Token.join kept)
  -- The line that was typed out has the tokens just found, whatever its end marker.
  have hbody : body = verb :: args := (hline.eq_of_scan hscan).1
  have hruling : Ruling.ofVerb k verb args = .ok (k, phrase) :=
    Ruling.ofVerb_ok_of_wording hsame.symm (hrule verb (by rw [hlexeme]; exact hrun))
  rw [hline.compile_eq, hbody, Node.ofWords]
  simp only [hkind, hruling, Node.ofRuling]

/-- **A command can be read back.**  Where no alias hides the name of an action, the name
and the argument of a command that was understood give the command again, unless the line
had a text in quotes. -/
theorem interpret_again (i : Interpreter) (line : String)
    (hnames : ∀ k : Verb, i.vocabulary.kindOf k.name = Vocabulary.builtin.kindOf k.name)
    (hquote : '"' ∉ line.toList) (herror : (i.interpret line).error = none)
    (haction : (i.interpret line).action ≠ .unknown) :
    i.interpret ((i.interpret line).action.name ++ " " ++ (i.interpret line).argument)
      = i.interpret line := by
  obtain ⟨body, marker, hline⟩ := exists_line i.overlay line
  cases hnode : i.compile line with
  | error e =>
      rw [Interpreter.interpret, hnode] at herror
      exact nomatch herror
  | unknown =>
      rw [Interpreter.interpret, hnode] at haction
      exact absurd rfl haction
  | verb action phrase =>
      have hwords : Node.ofWords line body = .verb action phrase :=
        hline.compile_eq.symm.trans hnode
      obtain ⟨k, rfl, kept, hkept, hagain⟩ := hline.recalls hwords
      have hstands : ∀ t ∈ kept, Scan.Stands i.vocabulary t := by
        intro t ht
        obtain ⟨front, q, hplaced⟩ := hline.placed t (hkept t ht)
        exact hplaced.stands hquote
      have hname := (hnames k).trans (Vocabulary.builtin_kindOf_name k)
      have hagain' := compile_sentence hname hstands hagain
      have hcommand : i.interpret line = .ofNode (some (.verb (.perform k) phrase)) :=
        congrArg (Command.ofNode ∘ some) hnode
      rw [hcommand]
      exact congrArg (Command.ofNode ∘ some) hagain'

/-- Leading `to`s, a sign, a direction, and spacing that the argument does not have. -/
theorem interpret_again_norden :
    let i : Interpreter := ⟨.ofPairs [("Norden", .direction .north), ("nach", .to_)]⟩
    let line := "walk nach, NACH (dem)norden @ tor"
    let c : Command := ⟨.perform .go, "nach NACH dem norden @ tor", "norden", none, none, none⟩
    i.interpret line = c ∧ i.interpret "go nach NACH dem norden @ tor" = c := by
  intro i line c
  have hnames : ∀ k : Verb, i.vocabulary.kindOf k.name = Vocabulary.builtin.kindOf k.name := by
    intro k
    refine Vocabulary.kindOf_extended_of_none ?_
    cases k <;> decide +kernel
  have hc : i.interpret line = c := by decide +kernel
  have hagain := interpret_again i line hnames (by decide) (by rw [hc]) (by rw [hc]; decide)
  rw [hc] at hagain
  exact ⟨hc, hagain⟩

end Adventure
