/-
What an alias leaves alone.

A scan asks the vocabulary for the kind of each word it has cut off, and for nothing else: where
words begin and end is a matter of their characters.  Two vocabularies that agree on the words of
a text therefore give it the same tokens, whatever they say of other words.  An alias changes the
vocabulary at one upper-case form, so it concerns the texts with a word of that form.  That may be
a form which no word can have, as that of an alias with a space in it.

For the same reason the order of insertions is of no account as long as the stored forms differ.
An overlay is the map it holds, and each insertion speaks of its own form.
-/
import Adventure.Proofs.Line
import Adventure.Proofs.Lossless
import Adventure.Proofs.Overlay

namespace Adventure

/-- Whether a token is a word of the text: it begins with a word character there. -/
def Token.isWordIn (input : String) (t : Token) : Bool :=
  (t.first? input).any Text.isWordChar

/-! ### Texts whose words two vocabularies agree on -/

namespace Scan

variable {v v' : Vocabulary}

theorem Whole.under {q : Piece} (h : Whole v q)
    (hkind : q.covered.head?.any Text.isWordChar = true →
      v'.kindOf (String.ofList q.lexeme) = v.kindOf (String.ofList q.lexeme)) : Whole v' q := by
  cases h with
  | talk rest => exact .talk rest
  | help rest => exact .help rest
  | quoted rest hbody => exact .quoted rest hbody
  | unclosed hbody => exact .unclosed hbody
  | @word word rest hne hword hrest =>
      obtain ⟨c, cs, rfl⟩ := List.exists_cons_of_ne_nil hne
      rw [← hkind (hword c (by simp))]
      exact .word hne hword hrest

theorem Piece.isWordIn_token (q : Piece) {input : String} {front rest : List Char}
    (hinput : input.toList = front ++ (q.covered ++ rest)) :
    (q.token (Position.after {} front) (Position.after {} (front ++ q.covered))).isWordIn input
      = q.covered.head?.any Text.isWordChar := by
  rw [Token.isWordIn, Token.first?, q.text_token input front rest hinput, String.toList_ofList]

/-- **A cut asks a vocabulary for the words of the text only.** -/
theorem Cuts.under {p : Position} {cs : List Char} {ts : List Token} (h : Cuts v p cs ts) :
    ∀ front, p = Position.after {} front → ∀ input : String, input.toList = front ++ cs →
      (∀ t ∈ ts, t.isWordIn input = true → v'.kindOf t.lexeme = v.kindOf t.lexeme) →
        Cuts v' p cs ts := by
  induction h with
  | finish hgap => exact fun _ _ _ _ _ => .finish hgap
  | @token p gap q ts hgap hq htokens ih =>
      rintro front rfl input hinput hkinds
      obtain ⟨hfirst, hrest⟩ := List.forall_mem_cons.mp hkinds
      have hplace := Position.after_after_append {} front gap q.covered
      have hstands : input.toList = front ++ gap ++ (q.covered ++ q.rest) := by simp [hinput]
      have hwhole : Whole v' q := by
        refine hq.under fun hword => hfirst ?_
        rw [hplace, ← Position.after_append, q.isWordIn_token hstands]
        exact hword
      exact .token hgap hwhole
        (ih (front ++ gap ++ q.covered) hplace input (by simp [hinput]) hrest)

end Scan

theorem scan_congr {v v' : Vocabulary} {input : String}
    (h : ∀ t ∈ scan v input, t.isWordIn input = true → v'.kindOf t.lexeme = v.kindOf t.lexeme) :
    scan v' input = scan v input :=
  scan_eq_iff.mpr ((scan_eq_iff.mp rfl).under [] rfl input rfl h)

/-- One more alias changes the kind of the words of its form. -/
theorem Vocabulary.kindOf_insert {o : Overlay} {name word : String} (kind : Kind)
    (h : Text.upper word ≠ Overlay.key name) :
    (extended (o.insert name kind)).kindOf word = (extended o).kindOf word := by
  rw [kindOf, kindOf, find?_extended, find?_extended, Overlay.find?_insert,
    if_neg fun hsame => h hsame.2.symm]

/-! ### Insertions in any order -/

namespace Overlay

theorem ext_find? {o o' : Overlay} (h : ∀ u, o.words.find? u = o'.words.find? u) : o = o' := by
  have hwords := WordMap.ext_find? h
  cases o
  cases o'
  simpa using hwords

theorem insert_comm (o : Overlay) {word word' : String} (kind kind' : Kind)
    (h : key word ≠ key word') :
    (o.insert word kind).insert word' kind' = (o.insert word' kind').insert word kind := by
  refine ext_find? fun u => ?_
  rw [find?_insert, find?_insert, find?_insert, find?_insert]
  by_cases hword : key word = u
  · subst hword
    simp [h.symm]
  · simp [hword]

/-- **Aliases with different stored forms can be inserted in any order.** -/
theorem insertAll_perm (o : Overlay) {calls calls' : List (String × Kind)}
    (hdistinct : calls.Pairwise fun call call' => key call.1 ≠ key call'.1)
    (hperm : calls.Perm calls') : o.insertAll calls = o.insertAll calls' := by
  refine hperm.foldl_eq' (fun call hcall call' hcall' o => ?_) o
  by_cases hsame : call = call'
  · rw [hsame]
  · refine insert_comm o _ _ fun hkey => hsame ?_
    exact List.inj_on_of_nodup_map (List.pairwise_map.mpr hdistinct) hcall hcall' hkey

end Overlay

/-- Two interpreters that make the same of a line. -/
structure Interpreter.ReadsAlike (i i' : Interpreter) (input : String) : Prop where
  tokens : i.tokens input = i'.tokens input
  node : i.compile input = i'.compile input
  command : i.interpret input = i'.interpret input

theorem Interpreter.readsAlike_of_scan {o o' : Overlay} {input : String}
    (h : scan (.extended o) input = scan (.extended o') input) : ReadsAlike ⟨o⟩ ⟨o'⟩ input := by
  have htokens : tokens ⟨o⟩ input = tokens ⟨o'⟩ input := by
    simp only [tokens, vocabulary]
    exact h
  have hnode : compile ⟨o⟩ input = compile ⟨o'⟩ input := by rw [compile, compile, htokens]
  exact ⟨htokens, hnode, by rw [interpret, interpret, hnode]⟩

/-- **An alias affects only the lines that use it.**  A line without a word of the alias's form
is read as before, whatever overlay the alias joins.  Aliases of different forms give one overlay,
and so one reading of every line, in whatever order they come. -/
theorem alias_affects_its_lines_only (o : Overlay) :
    (∀ (name : String) (kind : Kind) (input : String),
      (∀ t ∈ scan (.extended o) input, t.isWordIn input = true →
        Text.upper t.lexeme ≠ Overlay.key name) →
      Interpreter.ReadsAlike ⟨o.insert name kind⟩ ⟨o⟩ input) ∧
    ∀ calls calls' : List (String × Kind),
      (calls.Pairwise fun call call' => Overlay.key call.1 ≠ Overlay.key call'.1) →
      calls.Perm calls' →
        o.insertAll calls = o.insertAll calls' ∧
          ∀ input, Interpreter.ReadsAlike ⟨o.insertAll calls⟩ ⟨o.insertAll calls'⟩ input := by
  constructor
  · intro name kind input hwords
    have htokens : scan (.extended (o.insert name kind)) input = scan (.extended o) input :=
      scan_congr fun t ht hword => Vocabulary.kindOf_insert kind (hwords t ht hword)
    exact Interpreter.readsAlike_of_scan htokens
  · intro calls calls' hdistinct hperm
    have hsame := o.insertAll_perm hdistinct hperm
    refine ⟨hsame, fun input => ?_⟩
    rw [hsame]
    exact ⟨rfl, rfl, rfl⟩

/-- The alias stands in the line in quotes and as a part of a word, but not as a word.  Of the
aliases inserted in two orders one has a longer form than it is typed, and one is refused. -/
theorem alias_affects_its_lines_only_strasse :
    let o := Overlay.ofPairs [("avec", .preposition .with_)]
    let input := "attack \"Straße\" AVEC Straßenbahn"
    let calls : List (String × Kind) :=
      [("ß", .verb .take), (" nord", .direction .north), ("stop", .eol)]
    (∀ t ∈ scan (.extended o) input, t.isWordIn input = true →
        Text.upper t.lexeme ≠ Overlay.key " straße") ∧
      Interpreter.ReadsAlike ⟨o.insert " straße" (.verb .go)⟩ ⟨o⟩ input ∧
      (calls.Pairwise fun call call' => Overlay.key call.1 ≠ Overlay.key call'.1) ∧
      calls.Perm calls.reverse ∧ o.insertAll calls = o.insertAll calls.reverse := by
  intro o input calls
  have hwords : ∀ t ∈ scan (.extended o) input, t.isWordIn input = true →
      Text.upper t.lexeme ≠ Overlay.key " straße" := by decide +kernel
  have hdistinct : calls.Pairwise fun call call' => Overlay.key call.1 ≠ Overlay.key call'.1 := by
    decide +kernel
  have hperm : calls.Perm calls.reverse := calls.reverse_perm.symm
  obtain ⟨halias, horder⟩ := alias_affects_its_lines_only o
  exact ⟨hwords, halias " straße" (.verb .go) input hwords, hdistinct, hperm,
    (horder calls calls.reverse hdistinct hperm).1⟩

end Adventure
