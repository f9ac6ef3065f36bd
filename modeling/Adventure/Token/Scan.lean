/-
Cutting a line into tokens.

Tokens are the signs `@` and `?`, texts in double quotes, and words; every other
character is passed over.  A quoted text without a closing quote runs to the end.  A
word is as long as it can be and gets its kind from the vocabulary.  A scanner is the
text not yet read and the position where it starts.  Each token takes at least one
character away, and at the end of the text there are end markers only.  A scan is the
stream of tokens up to the first end marker.
-/
import Adventure.Text.WordChar
import Adventure.Token
import Adventure.Vocabulary

namespace Adventure

namespace Scan

/-- A character that starts a token. -/
def startsToken (c : Char) : Bool :=
  c == '@' || c == '?' || c == '"' || Text.isWordChar c

/-- A character that is passed over between tokens. -/
def isIgnored (c : Char) : Bool :=
  !startsToken c

/-- A token cut off the front of a text: its kind and spelling, the characters it
covers, and the text after it. -/
structure Piece where
  kind : Kind
  lexeme : List Char
  covered : List Char
  rest : List Char

/-- The quoted text whose opening quote has just been read. -/
def quotedPiece (cs : List Char) : Piece :=
  let body := cs.takeWhile (· != '"')
  match cs.dropWhile (· != '"') with
  | [] => ⟨.string, body, '"' :: body, []⟩
  | quote :: rest => ⟨.string, body, '"' :: body ++ [quote], rest⟩

/-- The word with first character `c`. -/
def wordPiece (v : Vocabulary) (c : Char) (cs : List Char) : Piece :=
  let word := c :: cs.takeWhile Text.isWordChar
  ⟨v.kindOf (String.ofList word), word, word, cs.dropWhile Text.isWordChar⟩

/-- The token with first character `c`. -/
def piece (v : Vocabulary) (c : Char) (cs : List Char) : Piece :=
  if c = '@' then ⟨.verb .talk, [c], [c], cs⟩
  else if c = '?' then ⟨.verb .help, [c], [c], cs⟩
  else if c = '"' then quotedPiece cs
  else wordPiece v c cs

/-- A piece and what follows it are the text it was cut from. -/
theorem piece_covered (v : Vocabulary) (c : Char) (cs : List Char) :
    (piece v c cs).covered ++ (piece v c cs).rest = c :: cs := by
  unfold piece
  split
  · rfl
  · split
    · rfl
    · split
      · rename_i h
        subst h
        have split := List.takeWhile_append_dropWhile (p := (· != '"')) (l := cs)
        unfold quotedPiece
        split <;> simp_all
      · simp [wordPiece, List.takeWhile_append_dropWhile]

/-- A piece covers its first character at least. -/
theorem piece_covered_ne_nil (v : Vocabulary) (c : Char) (cs : List Char) :
    (piece v c cs).covered ≠ [] := by
  unfold piece
  split
  · simp
  · split
    · simp
    · split
      · unfold quotedPiece
        split <;> simp
      · simp [wordPiece]

end Scan

/-- A text being read: the vocabulary, the place reached, and what is left. -/
structure Scanner where
  vocabulary : Vocabulary
  position : Position := {}
  rest : List Char

namespace Scanner

/-- The scanner at the start of a text. -/
def start (v : Vocabulary) (input : String) : Scanner :=
  ⟨v, {}, input.toList⟩

/-- The scanner after the characters that are passed over. -/
def skip (s : Scanner) : Scanner :=
  { s with
    position := s.position.after (s.rest.takeWhile Scan.isIgnored)
    rest := s.rest.dropWhile Scan.isIgnored }

/-- The next token and the scanner after it, if the text holds one more. -/
def step? (s : Scanner) : Option (Token × Scanner) :=
  match s.skip.rest with
  | [] => none
  | c :: cs =>
    let piece := Scan.piece s.vocabulary c cs
    let stop := s.skip.position.after piece.covered
    some
      (⟨piece.kind, String.ofList piece.lexeme, .between s.skip.position stop⟩,
       { s with position := stop, rest := piece.rest })

/-- Each token shortens the text. -/
theorem length_lt_of_step? {s s' : Scanner} {t : Token} (h : s.step? = some (t, s')) :
    s'.rest.length < s.rest.length := by
  have hskip : s.skip.rest.length ≤ s.rest.length := by
    simpa [skip] using (List.dropWhile_sublist (p := Scan.isIgnored) (l := s.rest)).length_le
  unfold step? at h
  split at h
  · simp at h
  · rename_i c cs hrest
    obtain ⟨-, rfl⟩ := Prod.mk.inj (Option.some.inj h)
    have hpiece := congrArg List.length (Scan.piece_covered s.vocabulary c cs)
    have hpos := List.length_pos_iff.2 (Scan.piece_covered_ne_nil s.vocabulary c cs)
    rw [hrest] at hskip
    simp only [List.length_append, List.length_cons] at hpiece hskip
    simp only
    omega

/-- The next token and the scanner after it; at the end of the text the end marker,
however often it is asked for. -/
def next (s : Scanner) : Token × Scanner :=
  s.step?.getD (.endAt s.skip.position, s.skip)

/-- The next so many tokens and the scanner after them. -/
def take (s : Scanner) : Nat → List Token × Scanner
  | 0 => ([], s)
  | n + 1 =>
    let (token, s') := s.next
    let (tokens, s'') := s'.take n
    (token :: tokens, s'')

end Scanner

/-- A scanner read as a stream, which ends for good after it has given an end marker. -/
structure TokenStream where
  scanner : Scanner
  finished : Bool := false

namespace TokenStream

/-- The next token of the stream, if it has not ended. -/
def next? (s : TokenStream) : Option (Token × TokenStream) :=
  if s.finished then none
  else
    let (token, scanner) := s.scanner.next
    some (token, ⟨scanner, token.isEol⟩)

/-- A bound for the number of tokens that are left. -/
def remaining (s : TokenStream) : Nat :=
  if s.finished then 0 else s.scanner.rest.length + 1

/-- Each token comes nearer to the end. -/
theorem remaining_lt_of_next? {s s' : TokenStream} {t : Token} (h : s.next? = some (t, s')) :
    s'.remaining < s.remaining := by
  obtain ⟨scanner, finished⟩ := s
  cases finished with
  | true => simp [next?] at h
  | false =>
    simp only [next?, Scanner.next, Bool.false_eq_true, if_false, Option.some.injEq,
      Prod.mk.injEq] at h
    obtain ⟨-, rfl⟩ := h
    cases hstep : scanner.step? with
    | none => simp [remaining, Token.endAt, Token.isEol]
    | some r =>
      obtain ⟨t, scanner'⟩ := r
      have hlt := Scanner.length_lt_of_step? hstep
      simp only [remaining, Option.getD_some, Bool.false_eq_true, if_false]
      split <;> omega

/-- All tokens of the stream, and the stream that is left. -/
def drain (s : TokenStream) : List Token × TokenStream :=
  match _h : s.next? with
  | none => ([], s)
  | some (token, s') =>
    let (tokens, s'') := s'.drain
    (token :: tokens, s'')
termination_by s.remaining
decreasing_by exact remaining_lt_of_next? _h

end TokenStream

/-- All tokens that are left in a scanner, up to the first end marker. -/
def Scanner.tokens (s : Scanner) : List Token :=
  (TokenStream.mk s false).drain.1

/-- The tokens of a text. -/
def scan (v : Vocabulary) (input : String) : List Token :=
  (Scanner.start v input).tokens

end Adventure
