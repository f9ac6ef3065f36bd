/-
A text in quotes is opaque.

A player can quote anything but a quote, so what is quoted must not take part in the
grammar.  Where no quotes are open, a quoted text is one token whatever is in it
(`scan_quoting`), what is before it is scanned as if nothing followed, and what is behind it
as if nothing were before, in another place.  Of the token itself the rules only ask whether
there is anything to see in it: nobody can be talked to who has a blank name.
-/
import Adventure.Proofs.Composition
import Adventure.Proofs.Spacing

namespace Adventure

/-- A text in quotes behind another text. -/
def quotedBehind (before text : String) : String :=
  before ++ "\"" ++ text ++ "\""

/-- A line with a text in quotes. -/
def quoting (before behind text : String) : String :=
  quotedBehind before text ++ behind

/-- The quoted text of such a line as a token. -/
def Token.quoted (before text : String) : Token :=
  ⟨.string, text, .between (Position.after {} before.toList)
    (Position.after {} (quotedBehind before text).toList)⟩

theorem toList_quotedBehind (before text : String) :
    (quotedBehind before text).toList = before.toList ++ ('"' :: text.toList ++ ['"']) := by
  simp [quotedBehind]

/-- **A quoted text is one token, and parts what is before from what is behind.** -/
theorem Line.scan_quoting {o : Overlay} {before : String} {body : List Token} {marker : Token}
    (h : Line o before body marker) (heven : Even (Text.quotes before.toList)) {text : String}
    (htext : '"' ∉ text.toList) (behind : String) :
    scan (.extended o) (quoting before behind text)
      = body ++ Token.quoted before text
          :: (scan (.extended o) behind).map
            (Token.shift (quotedBehind before text).toList behind.toList) := by
  have hplace : Position.after {} (quotedBehind before text).toList
      = (Position.after {} before.toList).after ('"' :: text.toList ++ ['"']) := by
    rw [toList_quotedBehind, Position.after_append]
  have hline : quoting before behind text = before ++ ("\"" ++ text ++ "\"" ++ behind) := by
    simp [quoting, quotedBehind, String.append_assoc]
  have hbehind := Scan.cuts_behind (.extended o) (quotedBehind before text).toList behind
  rw [hplace] at hbehind
  have hgap : ∀ c ∈ ([] : List Char), Scan.isIgnored c = true := by simp
  have hcuts := Scan.Cuts.token hgap (.quoted behind.toList htext) hbehind
  rw [hline]
  refine h.scan_append heven ?_ ?_
  · intro c hc
    obtain rfl : '"' = c := by simpa using hc
    decide
  · rw [Token.quoted, hplace]
    simpa [Scan.Piece.token] using hcuts

/-- The rules are given the same words, but for the quoted one. -/
theorem Line.exists_quoting {o : Overlay} {before behind : String} {body body' : List Token}
    {marker marker' : Token} (h : Line o before body marker) (h' : Line o behind body' marker')
    (heven : Even (Text.quotes before.toList)) {text : String} (htext : '"' ∉ text.toList) :
    ∃ after marker'', Line o (quoting before behind text)
        (body ++ Token.quoted before text :: after) marker'' ∧
      after.map Token.wording = body'.map Token.wording := by
  have hscan := h.scan_quoting heven htext behind
  rw [h'.scan_eq, List.map_append, ← List.cons_append, ← List.append_assoc] at hscan
  obtain ⟨row, marker'', hline⟩ := exists_line o (quoting before behind text)
  obtain ⟨rfl, rfl⟩ := hline.eq_of_scan hscan
  refine ⟨_, _, hline, ?_⟩
  rw [List.map_map]
  rfl

theorem Line.wordings_quoting {o : Overlay} {before : String} {body : List Token}
    {marker : Token} (h : Line o before body marker) (heven : Even (Text.quotes before.toList))
    {text : String} (htext : '"' ∉ text.toList) (behind : String) :
    (scan (.extended o) (quoting before behind text)).map Token.wording
      = body.map Token.wording
        ++ (.string, text) :: (scan (.extended o) behind).map Token.wording := by
  rw [h.scan_quoting heven htext, List.map_append, List.map_cons, List.map_map]
  rfl

/-- Texts are alike to the rules if there is something to see in both or in neither. -/
theorem Likeness.blankness : Likeness fun s t => Text.isBlankText s = Text.isBlankText t where
  refl := fun _ => rfl
  append := by
    intro s s' t t' hs ht
    rw [Text.isBlankText, Text.isBlankText, String.toList_append, String.toList_append,
      List.all_append, List.all_append]
    exact congrArg₂ (· && ·) hs ht
  blank := id

theorem Token.quoted_alike (before : String) {text text' : String}
    (h : Text.isBlankText text = Text.isBlankText text') :
    Token.Alike (fun s t => Text.isBlankText s = Text.isBlankText t) (fun _ _ => True)
      (Token.quoted before text) (Token.quoted before text') :=
  ⟨rfl, h, fun hkind => absurd rfl hkind, trivial⟩

/-- **What is written in quotes takes no part in the grammar.**  Other words in the quotes
change one token of the line and no other, and where neither text is blank, they change
neither what is done nor what is complained of. -/
theorem quoted_text_opaque (i : Interpreter) (a b s s' : String)
    (heven : Even (a.toList.count '"')) (hs : '"' ∉ s.toList) (hs' : '"' ∉ s'.toList) :
    (i.tokens (quoting a b s)).map Token.kind = (i.tokens (quoting a b s')).map Token.kind ∧
      (∃ before after,
        (i.tokens (quoting a b s)).map Token.wording = before ++ (.string, s) :: after ∧
          (i.tokens (quoting a b s')).map Token.wording = before ++ (.string, s') :: after ∧
          before.length = (Token.visible (i.tokens a)).length) ∧
      ((∃ c ∈ s.toList, Text.isBlank c = false) → (∃ c ∈ s'.toList, Text.isBlank c = false) →
        Node.Alike (fun s t => Text.isBlankText s = Text.isBlankText t) (fun _ _ => True)
          (i.compile (quoting a b s)) (i.compile (quoting a b s'))) := by
  obtain ⟨o⟩ := i
  obtain ⟨body, marker, ha⟩ := exists_line o a
  have hwordings := ha.wordings_quoting heven hs b
  have hwordings' := ha.wordings_quoting heven hs' b
  refine ⟨?_, ⟨_, _, hwordings, hwordings', ?_⟩, ?_⟩
  · have hkinds := congrArg (List.map Prod.fst) hwordings
    have hkinds' := congrArg (List.map Prod.fst) hwordings'
    rw [List.map_map, List.map_append, List.map_cons] at hkinds hkinds'
    exact hkinds.trans hkinds'.symm
  · rw [List.length_map]
    exact congrArg List.length ha.visible_eq.symm
  · intro hvisible hvisible'
    obtain ⟨body', marker', hb⟩ := exists_line o b
    obtain ⟨after, last, hline, hafter⟩ := ha.exists_quoting hb heven hs
    obtain ⟨after', last', hline', hafter'⟩ := ha.exists_quoting hb heven hs'
    have hblank : ∀ {t : String}, (∃ c ∈ t.toList, Text.isBlank c = false) →
        Text.isBlankText t = false := by
      intro t ht
      simpa [Text.isBlankText] using ht
    refine hline.compile_alike Likeness.blankness hline' ?_
    refine List.rel_append (Token.alike_of_wording Likeness.blankness rfl) (.cons ?_ ?_)
    · exact Token.quoted_alike a ((hblank hvisible).trans (hblank hvisible').symm)
    · exact Token.alike_of_wording Likeness.blankness (hafter.trans hafter'.symm)

/-- A preposition, an alias and a direction in quotes, behind quotes that were closed. -/
theorem quoted_text_opaque_words :
    let i : Interpreter := ⟨.ofPairs [("nach", .to_)]⟩
    let a := "put \"\" "
    let b := " in box"
    let s := "with nach north"
    let s' := "ß"
    Even (a.toList.count '"') ∧ '"' ∉ s.toList ∧ '"' ∉ s'.toList ∧
      (i.tokens (quoting a b s)).map Token.kind
        = [.verb .put, .string, .string, .preposition .in_, .identifier, .eol] ∧
      (i.tokens (quoting a b s)).map Token.kind = (i.tokens (quoting a b s')).map Token.kind ∧
      Node.Alike (fun s t => Text.isBlankText s = Text.isBlankText t) (fun _ _ => True)
        (i.compile (quoting a b s)) (i.compile (quoting a b s')) := by
  intro i a b s s'
  have heven : Even (a.toList.count '"') := by decide
  have hs : '"' ∉ s.toList := by decide
  have hs' : '"' ∉ s'.toList := by decide
  obtain ⟨hkinds, -, halike⟩ := quoted_text_opaque i a b s s' heven hs hs'
  have hvisible : ∃ c ∈ s.toList, Text.isBlank c = false := ⟨'w', by decide, by decide⟩
  have hvisible' : ∃ c ∈ s'.toList, Text.isBlank c = false := ⟨'ß', by decide, by decide⟩
  exact ⟨heven, hs, hs', by decide +kernel, hkinds, halike hvisible hvisible'⟩

end Adventure
