/-
Help and the grammar.

Help keeps a table of its own for what words mean, and lines are read with another.  Both grow
by the same aliases, but help compares words in lower case, the grammar in upper case, and help
passes over aliases that stand for no verb.  What help says of a word comes from an alias or is
what every game says, and in both cases the grammar says the same, but for two gaps: an alias
that help passes over hides a word from the grammar only, and two aliases can fall together in
lower case.  The main result is about words outside the second gap and names what is in the
first.
-/
import Adventure.Proofs.Canonical
import Adventure.Proofs.Vocabulary
import Adventure.Session

namespace Adventure

namespace Synonyms

/-! ### What every game says -/

/-- The verb of a word in lower case in every game: a verb stands for itself. -/
def plainVerb? (word : String) : Option String :=
  if word ∈ Verb.all.map Verb.name then some word else builtinPairs.lookup word

theorem key_name (v : Verb) : key v.name = v.name := by
  cases v <;> decide +kernel

/-- A word counts for a verb unless it is blank or the verb's own name. -/
theorem accepts_name {word : String} {v : Verb} :
    accepts word v.name = true ↔ key word ≠ "" ∧ key word ≠ v.name := by
  have hname : v.name ≠ "" := by cases v <;> decide
  simp [accepts, key_name, hname]

theorem plainVerb?_name (v : Verb) : plainVerb? v.name = some v.name := by
  cases v <;> rfl

theorem plainVerb?_of_mem : ∀ pair ∈ builtinPairs,
    key pair.1 = pair.1 ∧ key pair.2 = pair.2 ∧
      plainVerb? pair.1 = some pair.2 ∧ plainVerb? pair.2 = some pair.2 := by
  decide +kernel

/-- Without aliases help and the grammar agree on all words of the grammar. -/
theorem plainVerb?_builtinWords : ∀ e ∈ Vocabulary.builtinWords,
    plainVerb? (key e.1) = e.2.verb?.map Verb.name := by
  decide +kernel

/-! ### What aliases add -/

variable {o : Overlay} {word verb : String}

theorem mem_pairsOf {pair : String × String} :
    pair ∈ pairsOf o ↔ ∃ v, o.words.find? pair.1 = some (.verb v) ∧ pair.2 = v.name := by
  obtain ⟨w, name⟩ := pair
  simp only [pairsOf, Overlay.toList, List.mem_filterMap, Prod.exists, ← WordMap.mem_entries_iff]
  constructor
  · rintro ⟨u, kind, hentry, hpair⟩
    cases kind with
    | verb v =>
        obtain ⟨rfl, rfl⟩ : u = w ∧ v.name = name := by
          simpa [Action.ofKind?, Kind.verb?, Action.name] using hpair
        exact ⟨v, hentry, rfl⟩
    | _ => simp [Action.ofKind?, Kind.verb?] at hpair
  · rintro ⟨v, hentry, rfl⟩
    exact ⟨w, .verb v, hentry, rfl⟩

/-- Every verb of a pair stands for itself. -/
theorem plainVerb?_of_names (h : names (builtinPairs ++ pairsOf o) verb = true) :
    plainVerb? verb = some verb := by
  obtain ⟨pair, hpair, hnames⟩ := List.any_eq_true.mp h
  have hkey : key pair.2 = verb := by simpa using (Bool.and_eq_true_iff.mp hnames).2
  rcases List.mem_append.mp hpair with hbuiltin | halias
  · obtain ⟨-, hnormal, -, hself⟩ := plainVerb?_of_mem pair hbuiltin
    rw [← hkey, hnormal, hself]
  · obtain ⟨v, -, hname⟩ := mem_pairsOf.mp halias
    rw [← hkey, hname, key_name, plainVerb?_name]

/-- What help says of a word comes from an alias or is what every game says. -/
theorem canonicalize?_extend (h : (builtin.extend o).canonicalize? word = some verb) :
    (∃ other v, o.words.find? other = some (.verb v) ∧ key other = key word ∧ verb = v.name) ∨
      ((∀ pair ∈ pairsOf o, accepts pair.1 pair.2 = true → key pair.1 ≠ key word) ∧
        plainVerb? (key word) = some verb) := by
  rcases find?_verbOf_insertAll (pairsOf o) (key word) builtin with
    ⟨pair, hpair, -, hkey, hfind⟩ | ⟨hnone, hfind⟩
  · obtain ⟨v, halias, hname⟩ := mem_pairsOf.mp hpair
    refine Or.inl ⟨pair.1, v, halias, hkey, ?_⟩
    rw [canonicalize?, extend, hfind, hname, key_name] at h
    exact (Option.some.inj h).symm
  refine Or.inr ⟨hnone, ?_⟩
  rcases find?_verbOf_insertAll builtinPairs (key word) {} with
    ⟨pair, hpair, -, hkey, hbuiltin⟩ | ⟨-, hbuiltin⟩
  · obtain ⟨hnormal, hnormal', hplain, -⟩ := plainVerb?_of_mem pair hpair
    rw [canonicalize?, extend, hfind, builtin, hbuiltin, hnormal'] at h
    rw [← hkey, hnormal, hplain]
    exact h
  · have hword : (builtin.extend o).isSynonym word = false := by
      rw [isSynonym, WordMap.contains, extend, hfind, builtin, hbuiltin]
      rfl
    have hlists : (builtin.extend o).lists.contains (key word)
        = names (builtinPairs ++ pairsOf o) (key word) := by
      rw [extend, builtin, ← insertAll_append, contains_insertAll]
      exact Bool.or_false _
    rw [canonicalize?_of_not_isSynonym hword, hlists] at h
    by_cases hnames : names (builtinPairs ++ pairsOf o) (key word) = true
    · rw [if_pos hnames] at h
      rw [plainVerb?_of_names hnames]
      exact h
    · rw [if_neg hnames] at h
      cases h

/-- An alias for a verb is a pair that counts, or is what every game says of the word. -/
theorem plainVerb?_of_alias {v : Verb} (halias : o.words.find? word = some (.verb v))
    (hnone : ∀ pair ∈ pairsOf o, accepts pair.1 pair.2 = true → key pair.1 ≠ key word)
    (h : plainVerb? (key word) = some verb) : verb = v.name := by
  have hrefused : ¬ accepts word v.name = true := fun haccepts =>
    hnone (word, v.name) (mem_pairsOf.mpr ⟨v, halias, rfl⟩) haccepts rfl
  have hword : key word ≠ "" := by
    intro hblank
    have hplain : plainVerb? "" = none := rfl
    rw [hblank, hplain] at h
    cases h
  have hsame : key word = v.name := by
    by_contra hne
    exact hrefused (accepts_name.mpr ⟨hword, hne⟩)
  rw [hsame, plainVerb?_name] at h
  exact (Option.some.inj h).symm

/-- Aliases that stand for no verb bring no pairs. -/
theorem pairsOf_erase {o' : Overlay} {kind : Kind} (halias : o.words.find? word = some kind)
    (hidle : Action.ofKind? kind = none) (herase : o'.words = o.words.erase word) :
    pairsOf o' = pairsOf o := by
  rw [pairsOf, pairsOf, Overlay.toList, Overlay.toList, herase, WordMap.erase,
    List.filterMap_filter]
  refine List.filterMap_congr fun entry hentry => ?_
  by_cases hword : entry.1 = word
  · have hkind : entry.2 = kind := by
      have hfind := WordMap.mem_entries_iff.mp (show (entry.1, entry.2) ∈ _ from hentry)
      rw [hword, halias] at hfind
      exact (Option.some.inj hfind).symm
    simp [hword, hkind, hidle]
  · simp [hword]

end Synonyms

namespace Session

open Synonyms (key)

/-- An alias that help passes over: it stands for no verb, and help is as it is without it. -/
structure Skipped (settings : Settings) (o : Overlay) (word : String) (kind : Kind) : Prop where
  hides : o.words.find? word = some kind
  idle : Action.ofKind? kind = none
  same : ∀ o' : Overlay, o'.words = o.words.erase word →
    (ofOverlay settings o').synonyms = (ofOverlay settings o).synonyms

/-- **Help says what the grammar says.**  Let a word be such that each alias with the same lower
case that stands for a verb stands for the word's own.  If help knows a verb for the word, then
the word performs this verb at the head of a line, or it is an alias that help passes over.  And
help knows a verb for each word that it lists. -/
theorem help_follows_grammar (settings : Settings) (o : Overlay) {word : String} {kind : Kind}
    (hword : (ofOverlay settings o).interpreter.vocabulary.find? word = some kind)
    (hcase : ∀ other v, o.words.find? other = some (.verb v) → key other = key word →
      kind = .verb v) :
    (∀ verb, (ofOverlay settings o).synonyms.canonicalize? word = some verb →
      (Action.ofKind? kind).map Action.name = some verb ∨ Skipped settings o word kind) ∧
    (∀ verb, key word ∈ (ofOverlay settings o).synonyms.synonymsOf verb →
      (ofOverlay settings o).synonyms.canonicalize? word = some (key verb)) := by
  have hfind : (o.words.find? word).or (Vocabulary.builtin.find? word) = some kind := by
    rw [← Vocabulary.find?_extended]
    exact hword
  refine ⟨fun verb hverb => ?_, fun verb hlisted => ?_⟩
  · rcases Synonyms.canonicalize?_extend hverb with ⟨other, v, hother, hkey, rfl⟩ | ⟨hnone, hplain⟩
    · rw [hcase other v hother hkey]
      exact Or.inl rfl
    cases halias : o.words.find? word with
    | none =>
        rw [halias, Option.none_or] at hfind
        have hplain' := Synonyms.plainVerb?_builtinWords _ (Vocabulary.mem_builtinWords hfind)
        refine Or.inl ?_
        rw [Action.ofKind?, Option.map_map, ← hplain, hplain']
        rfl
    | some k =>
        obtain rfl : k = kind := by
          rw [halias, Option.some_or] at hfind
          exact Option.some.inj hfind
        cases k with
        | verb v =>
            rw [Synonyms.plainVerb?_of_alias halias hnone hplain]
            exact Or.inl rfl
        | _ =>
            refine Or.inr ⟨halias, rfl, fun o' herase => ?_⟩
            show Synonyms.builtin.extend o' = Synonyms.builtin.extend o
            rw [Synonyms.extend, Synonyms.pairsOf_erase halias rfl herase, Synonyms.extend]
  · have hagrees := Synonyms.agrees_extend o
    exact hagrees.answers.canonicalize word _ ((hagrees.answers.mem_synonyms verb _).mp hlisted)

/-- `get` has become a word for looking and `yank` one for taking, and help says so. -/
theorem help_follows_grammar_get :
    let o := Overlay.ofPairs [("get", .verb .look), ("yank", .verb .take)]
    let s := ofOverlay {} o
    s.interpreter.vocabulary.find? "GET" = some (.verb .look) ∧
      (∀ other v, o.words.find? other = some (.verb v) → key other = key "GET" →
        Kind.verb .look = .verb v) ∧
      s.synonyms.canonicalize? "GET" = some "look" ∧
      ((Action.ofKind? (.verb .look)).map Action.name = some "look" ∨
        Skipped {} o "GET" (.verb .look)) := by
  intro o s
  have hword : s.interpreter.vocabulary.find? "GET" = some (.verb .look) := by decide +kernel
  have hentries : ∀ e ∈ o.words.entries, key e.1 = key "GET" → e.2 = .verb .look := by
    decide +kernel
  have hcase : ∀ other v, o.words.find? other = some (.verb v) → key other = key "GET" →
      Kind.verb .look = .verb v := fun other v hother hkey =>
    (hentries _ (WordMap.mem_entries_of_find? hother) hkey).symm
  have hlisted : key "GET" ∈ s.synonyms.synonymsOf "Look" := by decide +kernel
  have hverb : key "Look" = "look" := by decide +kernel
  obtain ⟨hverbs, hknows⟩ := help_follows_grammar {} o hword hcase
  have hget : s.synonyms.canonicalize? "GET" = some "look" := by
    rw [← hverb]
    exact hknows "Look" hlisted
  exact ⟨hword, hcase, hget, hverbs "look" hget⟩

/-- Help goes on to list `grab` where it has become a direction, and takes `ASK` for an alias
that has a Kelvin sign for its last letter. -/
theorem help_parts_from_grammar :
    let grab := ofOverlay {} (.ofPairs [("grab", .direction .north)])
    let ask := ofOverlay {} (.ofPairs [("as\u212a", .verb .look)])
    grab.interpreter.vocabulary.find? "GRAB" = some (.direction .north) ∧
      Action.ofKind? (.direction .north) = none ∧
      grab.synonyms.canonicalize? "GRAB" = some "take" ∧
      ask.interpreter.vocabulary.find? "ASK" = some (.verb .talk) ∧
      (Action.ofKind? (.verb .talk)).map Action.name = some "talk" ∧
      ask.synonyms.canonicalize? "ASK" = some "look" := by
  decide +kernel

end Session

end Adventure
