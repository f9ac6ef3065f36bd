/-
What the meaning of tokens can depend on.

Tokens do not have to come from a scan.  There may be no end marker or several, words may have no
letters, and a span may say anything.  Of all that a rule reads the kinds and the spellings in front
of the first end marker.  A column is read for one purpose: when a rule is broken, the column of the
token that broke it goes into the error.  The rules never compare columns, so any relation between
the columns of two rows will do to follow them, and here it is to stand at one index.  What the rule
picks out in the one row it therefore picks out at the same index in the other.
-/
import Adventure.Proofs.Places

namespace Adventure

namespace Token

/-- Two columns of tokens at one index, in front of the first end marker. -/
structure AtOneIndex (tokens tokens' : List Token) (n column column' : Nat) : Prop where
  spoken : n < (spoken tokens).length
  first : tokens[n]?.map Token.column = some column
  second : tokens'[n]?.map Token.column = some column'

/-- In front of the first end marker an index is the same as in the whole row. -/
theorem getElem?_of_spoken {tokens : List Token} {n : Nat} (h : n < (spoken tokens).length) :
    tokens[n]? = some (spoken tokens)[n] := by
  have hfront : spoken tokens <+: tokens := List.takeWhile_prefix _
  rw [hfront.getElem h, List.getElem?_eq_getElem]

/-- **Words that agree in kind and spelling are alike**, and their columns stand at one index. -/
theorem alike_at_one_index {L : String → String → Prop} (hL : Likeness L)
    {tokens tokens' : List Token}
    (h : (spoken tokens).map wording = (spoken tokens').map wording) :
    List.Forall₂ (Alike L fun column column' => ∃ n, AtOneIndex tokens tokens' n column column')
      (spoken tokens) (spoken tokens') := by
  have hlength : (spoken tokens).length = (spoken tokens').length := by
    simpa using congrArg List.length h
  refine List.forall₂_iff_get.mpr ⟨hlength, ?_⟩
  intro n hn hn'
  have hword : wording (spoken tokens)[n] = wording (spoken tokens')[n] := by
    simpa [hn, hn'] using congrArg (·[n]?) h
  obtain ⟨hkind, hlexeme⟩ := Prod.mk.inj hword
  refine alike_of_same hL hkind hlexeme ⟨n, hn, ?_, ?_⟩
  · rw [getElem?_of_spoken hn]
    rfl
  · rw [getElem?_of_spoken hn']
    rfl

end Token

/-- Two meanings that are the same but for what an error says of its input: its column is that of
the token at some index, the same one in both rows of tokens, and the input is its own. -/
inductive Node.SameButPlaced (input input' : String) (tokens tokens' : List Token) :
    Node → Node → Prop
  | verb (action : Action) (phrase : Phrase) :
      SameButPlaced input input' tokens tokens' (.verb action phrase) (.verb action phrase)
  | error (message : String) {n column column' : Nat}
      (hcolumn : Token.AtOneIndex tokens tokens' n column column') :
      SameButPlaced input input' tokens tokens' (.error ⟨message, column, input⟩)
        (.error ⟨message, column', input'⟩)
  | unknown : SameButPlaced input input' tokens tokens' .unknown .unknown

/-- An error reports the input that it was given. -/
theorem Means.input_eq {input : String} {body : List Token} {e : ParseError}
    (h : Means input body (.error e)) : e.input = input := by
  cases h with
  | rejected => rfl

/-- **Meaning is local.**  Two rows of tokens that agree, up to the first end marker, in the kinds
and the spellings of their tokens mean the same, on whatever inputs.  Both are the same verb with
the same phrase, or the same complaint about the tokens at one index, or both are not understood.
Spans have no say in that, nor has anything behind an end marker. -/
theorem same_wording_means_same (input input' : String) (tokens tokens' : List Token)
    (h : (Token.spoken tokens).map Token.wording = (Token.spoken tokens').map Token.wording) :
    Node.SameButPlaced input input' tokens tokens' (.ofTokens input tokens)
      (.ofTokens input' tokens') := by
  have hmeans := means_ofWords input (Token.spoken tokens)
  have hmeans' := means_ofWords input' (Token.spoken tokens')
  have halike := Node.ofWords_alike Likeness.eq input input'
    (Token.alike_at_one_index Likeness.eq h)
  rw [Node.ofTokens_eq, Node.ofTokens_eq]
  generalize Node.ofWords input (Token.spoken tokens) = node at hmeans halike ⊢
  generalize Node.ofWords input' (Token.spoken tokens') = node' at hmeans' halike ⊢
  cases halike with
  | verb action hphrase =>
      rw [hphrase.eq]
      exact .verb _ _
  | @error e e' hmessage hcolumn =>
      obtain ⟨message, column, line⟩ := e
      obtain ⟨message', column', line'⟩ := e'
      obtain rfl : message = message' := hmessage
      obtain rfl : line = input := hmeans.input_eq
      obtain rfl : line' = input' := hmeans'.input_eq
      obtain ⟨n, hindex⟩ := hcolumn
      exact .error message hindex
  | unknown => exact .unknown

/-- A row without an end marker and one with two, with spans that no text has. -/
theorem same_wording_means_same_put_in :
    let tokens : List Token :=
      [⟨.verb .put, "Put", {}⟩, ⟨.string, "", ⟨9, 3, 0, 5⟩⟩,
        ⟨.preposition .in_, "IN", ⟨1, 1, 7, 40⟩⟩]
    let tokens' : List Token :=
      [⟨.verb .put, "Put", ⟨0, 3, 1, 0⟩⟩, ⟨.string, "", ⟨4, 6, 1, 4⟩⟩,
        ⟨.preposition .in_, "IN", ⟨7, 9, 1, 7⟩⟩, ⟨.eol, "box", ⟨9, 9, 1, 9⟩⟩,
        ⟨.identifier, "box", ⟨9, 12, 1, 9⟩⟩, ⟨.eol, "", ⟨12, 12, 1, 12⟩⟩]
    (Token.spoken tokens).map Token.wording = (Token.spoken tokens').map Token.wording ∧
      Node.ofTokens "put" tokens = .error ⟨"Expected object after 'in'", 40, "put"⟩ ∧
      Node.ofTokens "Put \"\" IN" tokens'
        = .error ⟨"Expected object after 'in'", 7, "Put \"\" IN"⟩ ∧
      Node.SameButPlaced "put" "Put \"\" IN" tokens tokens' (.ofTokens "put" tokens)
        (.ofTokens "Put \"\" IN" tokens') := by
  intro tokens tokens'
  have hwording : (Token.spoken tokens).map Token.wording
      = (Token.spoken tokens').map Token.wording := by
    decide
  exact ⟨hwording, by decide +kernel, by decide +kernel,
    same_wording_means_same "put" "Put \"\" IN" tokens tokens' hwording⟩

end Adventure
