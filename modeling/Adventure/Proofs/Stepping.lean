/-
A scanner asked for one token at a time.

There are two ways to read a text token by token.  A request, `next`, can be made as often as
one likes and repeats the end marker at the end.  A stream gives the first end marker it is
given, and is over.  Both can be used on the same text, first one and then the other, and a
request does not tell the stream that it has met the end.

What a scanner still has to give is its `tokens`, and a stream goes through all of them: it would
be over too soon if a word could be an end marker, and no vocabulary has such a word.  So each way
is described by what it does to the tokens.  A request takes the first one away unless it is the
end marker, which it leaves (`next_tokens`).  Hence requests that go on behind the end change
nothing any more, and a stream that is started then has the end marker to give, and nothing else.
-/
import Adventure.Proofs.Line

namespace Adventure

namespace Scanner

variable {s : Scanner}

theorem tokens_ne_nil (s : Scanner) : s.tokens ≠ [] := by
  cases h : s.step? with
  | none =>
      rw [tokens_of_none h]
      exact List.cons_ne_nil _ _
  | some r =>
      obtain ⟨t, s'⟩ := r
      rw [tokens_of_some h]
      exact List.cons_ne_nil _ _

/-- Behind the last token there is nothing to pass over a second time. -/
theorem tokens_skip (h : s.step? = none) : s.skip.tokens = [.endAt s.skip.position] := by
  have hrest : s.skip.rest = [] := List.dropWhile_eq_nil_iff.mpr (step?_eq_none_iff.mp h)
  have hnone : s.skip.step? = none := step?_eq_none_iff.mpr (by simp [hrest])
  have hskip : s.skip.skip.position = s.skip.position := by
    rw [skip, hrest]
    rfl
  rw [tokens_of_none hnone, hskip]

/-- **A request takes the first token away, and leaves an end marker where it is.** -/
theorem next_tokens (s : Scanner) :
    ∃ t rest, s.tokens = t :: rest ∧ s.next.1 = t ∧
      s.next.2.tokens = if rest = [] then [t] else rest := by
  cases h : s.step? with
  | none =>
      refine ⟨.endAt s.skip.position, [], tokens_of_none h, ?_, ?_⟩
      · rw [next_of_none h]
      · rw [next_of_none h, if_pos rfl]
        exact tokens_skip h
  | some r =>
      obtain ⟨t, s'⟩ := r
      refine ⟨t, s'.tokens, tokens_of_some h, ?_, ?_⟩
      · rw [next_of_some h]
      · rw [next_of_some h, if_neg (tokens_ne_nil s')]

/-- **A request that is not answered by an end marker takes characters away.** -/
theorem next_consumes (s : Scanner) :
    s.next.1.isEol = true ∨ ∃ taken, taken ≠ [] ∧ s.rest = taken ++ s.next.2.rest := by
  cases h : s.step? with
  | none =>
      rw [next_of_none h]
      exact Or.inl rfl
  | some r =>
      obtain ⟨t, s'⟩ := r
      obtain ⟨gap, q, hgap, hq, hrest, -, hs'⟩ := step?_eq_some_iff.mp h
      refine Or.inr ⟨gap ++ q.covered, ?_, ?_⟩
      · intro hnil
        exact hq.covered_ne_nil (List.append_eq_nil_iff.mp hnil).2
      · rw [next_of_some h, hs', hrest, List.append_assoc]

/-- Each token but the last takes a character. -/
theorem length_tokens_le (s : Scanner) : s.tokens.length ≤ s.rest.length + 1 := by
  induction s using step_induction with
  | finish s hnone =>
      rw [tokens_of_none hnone]
      exact Nat.le_add_left _ _
  | token s t s' hsome ih =>
      have hlt := length_lt_of_step? hsome
      rw [tokens_of_some hsome, List.length_cons]
      omega

/-- **What requests give and what they leave**: tokens while there are any, and then the
marker as often as it is asked for. -/
theorem take_tokens (n : Nat) :
    ∀ (s : Scanner) (body : List Token) (marker : Token), s.tokens = body ++ [marker] →
      (s.take n).1 = body.take n ++ List.replicate (n - body.length) marker ∧
        (s.take n).2.tokens = body.drop n ++ [marker] := by
  induction n with
  | zero =>
      intro s body marker h
      refine ⟨by simp [take], ?_⟩
      rw [List.drop_zero]
      exact h
  | succ n ih =>
      intro s body marker h
      obtain ⟨t, rest, htokens, hnext, hleft⟩ := next_tokens s
      rw [h] at htokens
      show s.next.1 :: (s.next.2.take n).1 = _ ∧ (s.next.2.take n).2.tokens = _
      cases body with
      | nil =>
          obtain ⟨rfl, rfl⟩ := List.cons.inj htokens
          rw [if_pos rfl] at hleft
          obtain ⟨hsteps, hrest⟩ := ih s.next.2 [] marker hleft
          rw [hnext, hsteps, hrest]
          refine ⟨?_, by simp⟩
          simp [List.replicate_succ]
      | cons u body =>
          rw [List.cons_append] at htokens
          obtain ⟨rfl, rfl⟩ := List.cons.inj htokens
          rw [if_neg (List.concat_ne_nil marker body)] at hleft
          obtain ⟨hsteps, hrest⟩ := ih s.next.2 body marker hleft
          rw [hnext, hsteps, hrest]
          refine ⟨?_, by simp⟩
          simp

end Scanner

namespace TokenStream

theorem next?_eq_none_iff {s : TokenStream} : s.next? = none ↔ s.finished = true := by
  rw [next?]
  split
  · rename_i hfinished
    exact iff_of_true rfl hfinished
  · rename_i hgoing
    exact iff_of_false (Option.some_ne_none _) hgoing

/-- **A stream that has been read to its end is over.** -/
theorem finished_drain (s : TokenStream) : s.drain.2.finished = true := by
  fun_induction drain s with
  | case1 s hnone => exact next?_eq_none_iff.mp hnone
  | case2 s t s' hsome rest s'' hdrain ih =>
      rw [hdrain] at ih
      exact ih

end TokenStream

/-- **Scanning step by step.**  The tokens of a text end in an end marker and have no other,
and a request that is not answered by one takes characters away, so there is at most one
token more than there are characters.  Any number of requests give the first tokens, and the
marker once for each request behind the end; a stream that goes on there gives the tokens
that are left, at least the marker, and is then over for good. -/
theorem scan_stepwise (o : Overlay) (input : String) :
    let tokens := scan (.extended o) input
    ∃ marker, tokens.getLast? = some marker ∧ marker.isEol = true ∧
      tokens.countP Token.isEol = 1 ∧
      (∀ s : Scanner, s.next.1.isEol = true ∨
        ∃ taken, taken ≠ [] ∧ s.rest = taken ++ s.next.2.rest) ∧
      tokens.length ≤ input.length + 1 ∧
      ∀ n, let steps := (Scanner.start (.extended o) input).take n
        let rest := (TokenStream.mk steps.2 false).drain
        (if n < tokens.length then
          steps.1 = tokens.take n ∧ rest.1 = tokens.drop n
        else
          steps.1 = tokens ++ List.replicate (n - tokens.length) marker ∧ rest.1 = [marker]) ∧
        rest.2.next? = none ∧ rest.2.drain = ([], rest.2) := by
  intro tokens
  obtain ⟨body, marker, hline⟩ := exists_line o input
  have htokens : tokens = body ++ [marker] := hline.scan_eq
  have hmarker : marker.isEol = true := by simp [Token.isEol, hline.marker_kind]
  have hbody : body.countP Token.isEol = 0 := by
    rw [List.countP_eq_zero]
    intro t ht
    simp [Token.isEol, hline.kinds t ht]
  refine ⟨marker, ?_, hmarker, ?_, Scanner.next_consumes, ?_, ?_⟩
  · rw [htokens, List.getLast?_concat]
  · rw [htokens, List.countP_append, hbody]
    simp [hmarker]
  · have hlength := Scanner.length_tokens_le (.start (.extended o) input)
    rw [← String.length_toList]
    exact hlength
  · intro n steps rest
    obtain ⟨hsteps, hleft⟩ :=
      Scanner.take_tokens n (.start (.extended o) input) body marker htokens
    have hover : rest.2.next? = none :=
      TokenStream.next?_eq_none_iff.mpr (TokenStream.finished_drain ⟨steps.2, false⟩)
    refine ⟨?_, hover, TokenStream.drain_of_next?_none hover⟩
    have hsteps : steps.1 = body.take n ++ List.replicate (n - body.length) marker := hsteps
    have hrest : rest.1 = body.drop n ++ [marker] := hleft
    rw [htokens, List.length_append, List.length_singleton]
    split
    · rename_i hn
      have hle : n ≤ body.length := by omega
      rw [hsteps, hrest, List.take_append_of_le_length hle, List.drop_append_of_le_length hle]
      simp [Nat.sub_eq_zero_of_le hle]
    · rename_i hn
      have hle : body.length ≤ n := by omega
      have hmore : n - body.length = n - (body.length + 1) + 1 := by omega
      rw [hsteps, hrest, List.take_of_length_le hle, List.drop_of_length_le hle, hmore]
      simp [List.replicate_succ]

end Adventure
