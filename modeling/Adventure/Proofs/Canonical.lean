/-
Which words stand for themselves.

A word that is no synonym stands for itself or for nothing.  It stands for itself once it has
been the verb of some synonym, and for good: the list of a verb stays when the last word has
left it.  Help looks closer and shows a verb only as long as something is on its list.  The two
views of a verb part where all of its synonyms have been given to other verbs, and then two
histories that end in the same synonyms answer differently.
-/
import Adventure.Proofs.Synonyms

namespace Adventure.Synonyms

/-- Whether a word is a synonym of some verb. -/
def isSynonym (s : Synonyms) (word : String) : Bool :=
  s.verbOf.contains (key word)

/-- Whether some pair of a history made a word the verb of a synonym. -/
def names (pairs : List (String × String)) (verb : String) : Bool :=
  pairs.any fun pair => accepts pair.1 pair.2 && key pair.2 == verb

/-! ### Lists stay -/

variable {s : Synonyms} {m : Account}

theorem contains_withdraw (s : Synonyms) (word verb : String) :
    (s.withdraw word).lists.contains verb = s.lists.contains verb := by
  unfold withdraw
  split
  · exact WordMap.contains_modify _ _ _ _
  · rfl

theorem contains_insert (s : Synonyms) (word verb other : String) :
    (s.insert word verb).lists.contains other
      = (names [(word, verb)] other || s.lists.contains other) := by
  unfold insert
  by_cases haccepts : accepts word verb = true
  · rw [if_pos haccepts]
    show ((s.withdraw (key word)).lists.insert (key verb) _).contains other = _
    rw [WordMap.contains_insert, contains_withdraw]
    simp [names, haccepts, Bool.beq_comm]
  · rw [if_neg haccepts]
    simp [names, haccepts]

/-- **A verb has a list once some pair has named it.** -/
theorem contains_insertAll (pairs : List (String × String)) (verb : String) :
    ∀ s : Synonyms, (s.insertAll pairs).lists.contains verb
      = (names pairs verb || s.lists.contains verb) := by
  induction pairs with
  | nil => intro s; rfl
  | cons pair rest ih =>
      intro s
      rw [insertAll_cons, ih, contains_insert, ← Bool.or_assoc]
      simp [names, Bool.or_comm]

theorem canonicalize?_of_not_isSynonym {word : String} (h : s.isSynonym word = false) :
    s.canonicalize? word = if s.lists.contains (key word) then some (key word) else none := by
  have hnone : s.verbOf.find? (key word) = none := by
    simpa [isSynonym, WordMap.contains] using h
  rw [canonicalize?, hnone]

theorem contains_of_mem_canonicals {verb : String} (h : verb ∈ s.canonicals) :
    s.lists.contains verb = true := by
  obtain ⟨⟨v, list⟩, hentry, rfl⟩ := List.mem_map.mp h
  have hfind := WordMap.mem_entries_iff.mp (List.mem_filter.mp hentry).1
  rw [WordMap.contains, hfind]
  rfl

/-! ### What a history says -/

/-- The two tables that a history can begin with. -/
inductive Start where
  | empty
  | builtin
  deriving DecidableEq, Repr

namespace Start

/-- The table itself. -/
def table : Start → Synonyms
  | empty => {}
  | builtin => .builtin

/-- The pairs that it was made from. -/
def pairs : Start → List (String × String)
  | empty => []
  | builtin => builtinPairs

/-- The table after some changes. -/
def after (start : Start) (changes : List Change) : Synonyms :=
  changes.foldl Change.apply start.table

/-- All pairs that have been inserted into it then. -/
def history (start : Start) (changes : List Change) : List (String × String) :=
  start.pairs ++ changes.flatMap Change.pairs

theorem after_eq (start : Start) (changes : List Change) :
    start.after changes = ({} : Synonyms).insertAll (start.history changes) := by
  rw [after, foldl_apply, history, insertAll_append]
  cases start with
  | empty => rfl
  | builtin => rfl

end Start

/-- Which words stand for themselves, told by the pairs that a table was made from. -/
structure Standing (s : Synonyms) (pairs : List (String × String)) : Prop where
  /-- A word that is no synonym stands for itself once it has been named, else for nothing. -/
  itself : ∀ word, s.isSynonym word = false →
    s.canonicalize? word = if names pairs (key word) then some (key word) else none
  /-- A verb that is shown has been named. -/
  shown : ∀ verb ∈ s.canonicals, names pairs verb = true
  /-- A word stands for itself just while it is shown, unless it has been named and all of its
  synonyms have gone. -/
  parted : ∀ word, s.isSynonym word = false →
    (((s.canonicalize? word).isSome = true ↔ key word ∈ s.canonicals) ↔
      (names pairs (key word) = true → key word ∈ s.canonicals))

theorem standing_insertAll (pairs : List (String × String)) :
    Standing (({} : Synonyms).insertAll pairs) pairs := by
  have hcontains : ∀ verb, (({} : Synonyms).insertAll pairs).lists.contains verb
      = names pairs verb := by
    intro verb
    rw [contains_insertAll]
    exact Bool.or_false _
  have hitself : ∀ word, (({} : Synonyms).insertAll pairs).isSynonym word = false →
      (({} : Synonyms).insertAll pairs).canonicalize? word
        = if names pairs (key word) then some (key word) else none := by
    intro word hword
    rw [canonicalize?_of_not_isSynonym hword, hcontains]
  have hshown : ∀ verb ∈ (({} : Synonyms).insertAll pairs).canonicals,
      names pairs verb = true := by
    intro verb hverb
    rw [← hcontains]
    exact contains_of_mem_canonicals hverb
  refine ⟨hitself, hshown, ?_⟩
  intro word hword
  rw [hitself word hword]
  have hback := hshown (key word)
  cases hnames : names pairs (key word) with
  | true => simp
  | false =>
      rw [hnames] at hback
      simpa using hback

/-- **What stands for itself is a matter of history.**  After any changes to the empty table or
to the one every game starts with, a word that is no synonym stands for itself if some pair has
named it, whether or not it is still shown.  Two histories with the same synonyms answer alike
but for the words that only one of them has named. -/
theorem canonicalize_by_history (start : Start) (changes : List Change) :
    Standing (start.after changes) (start.history changes) ∧
      ∀ changes', (∀ u, (start.after changes').verbOf.find? u
          = (start.after changes).verbOf.find? u) →
        ∀ word, names (start.history changes') (key word)
            = names (start.history changes) (key word) →
          (start.after changes').canonicalize? word = (start.after changes).canonicalize? word := by
  have hstanding : ∀ changes, Standing (start.after changes) (start.history changes) := by
    intro changes
    rw [Start.after_eq]
    exact standing_insertAll _
  refine ⟨hstanding changes, ?_⟩
  intro changes' hverbOf word hnames
  have hsame : (start.after changes').isSynonym word = (start.after changes).isSynonym word := by
    rw [isSynonym, isSynonym, WordMap.contains, WordMap.contains, hverbOf]
  cases hword : (start.after changes).isSynonym word with
  | true =>
      obtain ⟨verb, hverb⟩ := Option.isSome_iff_exists.mp hword
      rw [canonicalize?, canonicalize?, hverbOf, hverb]
  | false =>
      rw [(hstanding changes').itself word (hsame.trans hword),
        (hstanding changes).itself word hword, hnames]

/-- `open` loses its only synonym, gets it back and loses it again. -/
theorem canonicalize_by_history_open :
    let once : List Change := [.insert "unlock" "open", .insert "unlock" "take"]
    let twice : List Change :=
      [.insert "Unlock" "open", .insert "unlock" "take", .insert "unlock" " OPEN",
        .insert "unlock" "take"]
    (Start.empty.after once).isSynonym "Open" = false ∧
      (Start.empty.after once).canonicalize? "Open" = some "open" ∧
      "open" ∉ (Start.empty.after once).canonicals ∧
      (Start.empty.after twice).canonicalize? "Open" = some "open" := by
  intro once twice
  have hword : (Start.empty.after once).isSynonym "Open" = false := by decide +kernel
  have hnamed : names (Start.empty.history once) (key "Open") = true := by decide +kernel
  have hsame : (Start.empty.after twice).verbOf.entries
      = (Start.empty.after once).verbOf.entries := by decide +kernel
  obtain ⟨hstanding, htwice⟩ := canonicalize_by_history .empty once
  have hopen : (Start.empty.after once).canonicalize? "Open" = some "open" := by
    rw [hstanding.itself "Open" hword, if_pos hnamed]
    decide +kernel
  refine ⟨hword, hopen, by decide +kernel, ?_⟩
  rw [← hopen]
  refine htwice twice (fun u => ?_) "Open" (by decide +kernel)
  rw [WordMap.find?, WordMap.find?, hsame]

/-- A verb that has lost its only synonym is no longer shown but stands for itself, which it
does not where it never had one. -/
theorem lost_verb_stands_for_itself :
    let moved : List Change := [.insert "smash" "attack", .insert "smash" "craft"]
    let plain : List Change := [.insert "smash" "craft"]
    (Start.empty.after moved).verbOf.entries = (Start.empty.after plain).verbOf.entries ∧
      (Start.empty.after moved).isSynonym "attack" = false ∧
      (Start.empty.after moved).canonicals = ["craft"] ∧
      (Start.empty.after moved).canonicalize? "attack" = some "attack" ∧
      (Start.empty.after plain).canonicalize? "attack" = none := by
  decide +kernel

end Adventure.Synonyms
