/-
Synonyms kept two ways say one thing.

A table holds the verb of each synonym and, apart from it, the list of synonyms of each
verb.  The plain account of the same history is one finite map that knows nothing of lists:
a pair of words is entered or left out, and a later pair for a word replaces an earlier
one.  `Agrees` ties a table to an account.  It says of the lists that a word is on the list
of the verb the account gives it and on no other, which is what a move from one list to
another has to keep; everything help asks of a table then follows from the account alone.
-/
import Adventure.Synonyms
import Adventure.Proofs.WordMap
import Mathlib.Data.Finmap

namespace Adventure.Synonyms

/-- The plain account of a history: the verb of each synonym. -/
abbrev Account := Finmap fun _ : String => String

namespace Account

/-- Enters a pair.  A blank side, or a word paired with itself, is left out. -/
def enter (m : Account) (pair : String × String) : Account :=
  if key pair.1 ≠ "" ∧ key pair.2 ≠ "" ∧ key pair.1 ≠ key pair.2 then
    m.insert (key pair.1) (key pair.2)
  else m

/-- The account of pairs entered in order. -/
def ofPairs (pairs : List (String × String)) : Account :=
  pairs.foldl enter ∅

end Account

/-- Something done to a table. -/
inductive Change where
  | insert (word verb : String)
  | extend (o : Overlay)

namespace Change

/-- The table after a change. -/
def apply (s : Synonyms) : Change → Synonyms
  | insert word verb => s.insert word verb
  | extend o => s.extend o

/-- The pairs that a change brings, in order: for an overlay those of its aliases that stand
for verbs, with the names of these verbs. -/
def pairs : Change → List (String × String)
  | insert word verb => [(word, verb)]
  | extend o => pairsOf o

end Change

/-- A table tells the verbs of an account, and lists each word under its verb only. -/
structure Agrees (s : Synonyms) (m : Account) : Prop where
  verbOf : ∀ word, s.verbOf.find? word = m.lookup word
  listed : ∀ verb word, word ∈ (s.listOf verb).words ↔ m.lookup word = some verb

variable {s : Synonyms} {m : Account}

/-! ### What one change does -/

theorem verbOf_withdraw (s : Synonyms) (word : String) : (s.withdraw word).verbOf = s.verbOf := by
  unfold withdraw
  split <;> rfl

theorem find?_verbOf_assign (s : Synonyms) (word verb u : String) :
    ((s.withdraw word).assign word verb).verbOf.find? u
      = if u = word then some verb else s.verbOf.find? u := by
  rw [← verbOf_withdraw s word]
  exact WordMap.find?_insert _ word u verb

theorem mem_listOf_assign (s : Synonyms) (word verb other u : String) :
    u ∈ ((s.assign word verb).listOf other).words ↔
      (other = verb ∧ u = word) ∨ u ∈ (s.listOf other).words := by
  show u ∈ (((s.lists.insert verb _).find? other).getD .empty).words ↔ _
  rw [WordMap.find?_insert]
  by_cases hother : other = verb
  · subst hother
    rw [if_pos rfl, Option.getD_some, WordMap.mem_words_insert]
    simp
  · rw [if_neg hother]
    simp [hother, listOf]

/-- A withdrawn word is on no list, and nothing else has changed. -/
theorem Agrees.mem_listOf_withdraw (h : Agrees s m) (word other u : String) :
    u ∈ ((s.withdraw word).listOf other).words ↔ u ≠ word ∧ u ∈ (s.listOf other).words := by
  -- Where nothing is taken off a list, the word was not on it.
  have hkept : s.verbOf.find? word ≠ some other →
      (u ∈ (s.listOf other).words ↔ u ≠ word ∧ u ∈ (s.listOf other).words) := by
    intro hne
    refine ⟨fun hu => ⟨?_, hu⟩, fun hu => hu.2⟩
    rintro rfl
    rw [h.listed, ← h.verbOf] at hu
    exact hne hu
  cases hprevious : s.verbOf.find? word with
  | none =>
      have hsame : s.withdraw word = s := by
        unfold withdraw
        rw [hprevious]
      rw [hsame]
      exact hkept (by rw [hprevious]; simp)
  | some previous =>
      have hlists : (s.withdraw word).lists = s.lists.modify previous (·.erase word) := by
        unfold withdraw
        rw [hprevious]
      rw [listOf, hlists, WordMap.find?_modify]
      by_cases hother : other = previous
      · rw [if_pos hother, listOf]
        cases hlist : s.lists.find? other with
        | none => simp [WordMap.empty, WordMap.words]
        | some list => simpa using WordMap.mem_words_erase
      · rw [if_neg hother]
        refine hkept ?_
        rw [hprevious]
        simpa using fun heq : previous = other => hother heq.symm

/-- **One pair keeps table and account in agreement.** -/
theorem Agrees.insert (h : Agrees s m) (word verb : String) :
    Agrees (s.insert word verb) (m.enter (word, verb)) := by
  unfold Synonyms.insert Account.enter
  by_cases haccepts : key word ≠ "" ∧ key verb ≠ "" ∧ key word ≠ key verb
  · have hbool : accepts word verb = true := by simpa [accepts, and_assoc] using haccepts
    rw [if_pos hbool, if_pos haccepts]
    constructor
    · intro u
      rw [find?_verbOf_assign]
      by_cases hu : u = key word
      · rw [if_pos hu, hu, Finmap.lookup_insert]
      · rw [if_neg hu, h.verbOf, Finmap.lookup_insert_of_ne m hu]
    · intro other u
      rw [mem_listOf_assign, h.mem_listOf_withdraw]
      by_cases hu : u = key word
      · subst hu
        rw [Finmap.lookup_insert]
        simp [eq_comm]
      · rw [Finmap.lookup_insert_of_ne m hu, h.listed]
        simp [hu]
  · have hbool : ¬ accepts word verb = true := by
      intro hbool
      exact haccepts (by simpa [accepts, and_assoc] using hbool)
    rw [if_neg hbool, if_neg haccepts]
    exact h

/-! ### What a history does -/

theorem agrees_empty : Agrees {} ∅ where
  verbOf := fun _ => rfl
  listed := by
    intro verb word
    simp [listOf, WordMap.find?, WordMap.empty, WordMap.words]

theorem insertAll_cons (s : Synonyms) (pair : String × String) (rest : List (String × String)) :
    s.insertAll (pair :: rest) = (s.insert pair.1 pair.2).insertAll rest := by
  simp only [insertAll, List.foldl_cons]

theorem Agrees.insertAll (h : Agrees s m) (pairs : List (String × String)) :
    Agrees (s.insertAll pairs) (pairs.foldl Account.enter m) := by
  induction pairs generalizing s m with
  | nil => exact h
  | cons pair rest ih =>
      rw [insertAll_cons, List.foldl_cons]
      exact ih (h.insert pair.1 pair.2)

theorem insertAll_append (s : Synonyms) (pairs pairs' : List (String × String)) :
    s.insertAll (pairs ++ pairs') = (s.insertAll pairs).insertAll pairs' :=
  List.foldl_append

/-- The table of a game, whatever its aliases. -/
theorem agrees_extend (o : Overlay) :
    Agrees (builtin.extend o) ((pairsOf o).foldl Account.enter (.ofPairs builtinPairs)) :=
  (agrees_empty.insertAll builtinPairs).insertAll (pairsOf o)

/-- A word is listed under the verb that it stands for. -/
theorem Agrees.mem_synonymsOf (h : Agrees s m) {word verb : String} :
    word ∈ s.synonymsOf verb ↔ s.verbOf.find? word = some (key verb) := by
  rw [synonymsOf, h.listed, h.verbOf]

theorem find?_verbOf_insert (s : Synonyms) (word verb u : String) :
    (s.insert word verb).verbOf.find? u
      = if accepts word verb = true ∧ u = key word then some (key verb) else s.verbOf.find? u := by
  unfold Synonyms.insert
  by_cases haccepts : accepts word verb = true
  · rw [if_pos haccepts, find?_verbOf_assign]
    simp [haccepts]
  · simp [haccepts]

/-- **An accepted pair for a word decides its verb.**  Without one the word has the verb that it
had. -/
theorem find?_verbOf_insertAll (pairs : List (String × String)) (word : String) :
    ∀ s : Synonyms,
      (∃ pair ∈ pairs, accepts pair.1 pair.2 = true ∧ key pair.1 = word ∧
        (s.insertAll pairs).verbOf.find? word = some (key pair.2)) ∨
      ((∀ pair ∈ pairs, accepts pair.1 pair.2 = true → key pair.1 ≠ word) ∧
        (s.insertAll pairs).verbOf.find? word = s.verbOf.find? word) := by
  induction pairs with
  | nil => exact fun s => Or.inr ⟨by simp, rfl⟩
  | cons head rest ih =>
      intro s
      rw [insertAll_cons]
      rcases ih (s.insert head.1 head.2) with ⟨pair, hpair, hdecides⟩ | ⟨hrest, hfind⟩
      · exact Or.inl ⟨pair, List.mem_cons_of_mem head hpair, hdecides⟩
      -- Nothing behind the head speaks of the word, so the head has the last say.
      rw [hfind, find?_verbOf_insert]
      by_cases hhead : accepts head.1 head.2 = true ∧ word = key head.1
      · rw [if_pos hhead]
        exact Or.inl ⟨head, List.mem_cons_self, hhead.1, hhead.2.symm, rfl⟩
      · rw [if_neg hhead]
        refine Or.inr ⟨?_, rfl⟩
        rintro pair hpair haccepts rfl
        rcases List.mem_cons.mp hpair with rfl | hpair
        · exact hhead ⟨haccepts, rfl⟩
        · exact hrest pair hpair haccepts rfl

theorem apply_eq (s : Synonyms) (change : Change) :
    change.apply s = s.insertAll change.pairs := by
  cases change with
  | insert word verb =>
      rw [Change.apply, Change.pairs, insertAll_cons, insertAll, List.foldl_nil]
  | extend o => simp only [Change.apply, Change.pairs, extend]

/-- Changes insert their pairs and do nothing else. -/
theorem foldl_apply (changes : List Change) (s : Synonyms) :
    changes.foldl Change.apply s = s.insertAll (changes.flatMap Change.pairs) := by
  induction changes generalizing s with
  | nil => rfl
  | cons change rest ih =>
      rw [List.foldl_cons, ih, apply_eq, List.flatMap_cons, insertAll_append]

/-- Everything a table is asked for, told by an account. -/
structure Answers (s : Synonyms) (m : Account) : Prop where
  /-- A word of the account stands for the verb the account gives it. -/
  canonicalize : ∀ word verb, m.lookup (key word) = some verb →
    s.canonicalize? word = some verb
  /-- The synonyms of a verb come in order, each once. -/
  synonyms_sorted : ∀ verb, (s.synonymsOf verb).Pairwise (· < ·)
  /-- They are the words that the account sends to the verb. -/
  mem_synonyms : ∀ verb word, word ∈ s.synonymsOf verb ↔ m.lookup word = some (key verb)
  /-- The verbs with synonyms come in order, each once. -/
  canonicals_sorted : s.canonicals.Pairwise (· < ·)
  /-- They are the verbs that the account sends a word to. -/
  mem_canonicals : ∀ verb, verb ∈ s.canonicals ↔ ∃ word, m.lookup word = some verb
  /-- Help speaks of synonyms where there are any. -/
  alsoAccepts : ∀ verb, (s.alsoAccepts? verb).isSome = true ↔ s.synonymsOf verb ≠ []
  /-- The number of synonyms is that of the words in the account. -/
  size : s.size = m.keys.card

theorem mem_canonicals_iff (s : Synonyms) (verb : String) :
    verb ∈ s.canonicals ↔ ∃ word, word ∈ (s.listOf verb).words := by
  simp only [canonicals, List.mem_map, List.mem_filter, Bool.not_eq_eq_eq_not, Bool.not_true,
    WordMap.isEmpty_eq_false_iff]
  constructor
  · rintro ⟨⟨v, list⟩, ⟨he, hlist⟩, rfl⟩
    rw [listOf, WordMap.mem_entries_iff.mp he]
    exact hlist
  · rintro ⟨word, hword⟩
    cases hlist : s.lists.find? verb with
    | none =>
        rw [listOf, hlist] at hword
        simp [WordMap.empty, WordMap.words] at hword
    | some list =>
        rw [listOf, hlist] at hword
        exact ⟨(verb, list), ⟨WordMap.mem_entries_iff.mpr hlist, word, hword⟩, rfl⟩

/-- The words of a table are the domain of its account. -/
theorem Agrees.size_eq (h : Agrees s m) : s.size = m.keys.card := by
  have hwords : s.verbOf.words.toFinset = m.keys := by
    ext word
    rw [List.mem_toFinset, WordMap.mem_words_iff, Finmap.mem_keys, Finmap.mem_iff, h.verbOf]
  rw [← hwords, List.toFinset_card_of_nodup s.verbOf.words_nodup]
  simp [size, WordMap.size, WordMap.words]

theorem Agrees.answers (h : Agrees s m) : Answers s m where
  canonicalize := by
    intro word verb hverb
    rw [canonicalize?, h.verbOf, hverb]
  synonyms_sorted := fun verb => (s.listOf (key verb)).words_sorted
  mem_synonyms := fun verb word => h.listed (key verb) word
  canonicals_sorted := List.pairwise_map.mpr (s.lists.sorted.filter _)
  mem_canonicals := by
    intro verb
    rw [mem_canonicals_iff]
    simp only [h.listed]
  alsoAccepts := by
    intro verb
    unfold alsoAccepts?
    cases s.synonymsOf verb with
    | nil => simp
    | cons word rest => simp
  size := h.size_eq

end Adventure.Synonyms
