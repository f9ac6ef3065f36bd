/-
Finite maps by what they send a word to.

A map is the list of its entries, and that list is in order, so a word has at most one
entry.  Everything a map is asked for can therefore be said with `find?`: which entries it
has, which words, which words with some value, and how many.  Each operation on maps gets
one equation for `find?`, and nothing else looks at the list.
-/
import Adventure.WordMap
import Mathlib.Data.List.Sort

namespace Adventure

namespace WordMap

variable {α : Type}

theorem mem_entries_of_find? {m : WordMap α} {word : String} {value : α}
    (h : m.find? word = some value) : (word, value) ∈ m.entries := by
  obtain ⟨front, back, hentries, -⟩ := List.lookup_eq_some_iff.mp h
  rw [hentries]
  simp

theorem lookup_insertEntry (word u : String) (value : α) (l : List (String × α)) :
    (insertEntry word value l).lookup u = if u = word then some value else l.lookup u := by
  induction l with
  | nil =>
      by_cases hu : u = word
      · rw [if_pos hu, insertEntry, hu, List.lookup_cons_self]
      · rw [if_neg hu, insertEntry, List.lookup_cons, beq_false_of_ne hu]
  | cons head rest ih =>
      obtain ⟨w, x⟩ := head
      simp only [insertEntry]
      by_cases hu : u = word
      · subst hu
        rw [if_pos rfl]
        by_cases hlt : u < w
        · rw [if_pos hlt, List.lookup_cons_self]
        rw [if_neg hlt]
        by_cases heq : u = w
        · rw [if_pos heq, List.lookup_cons_self]
        · rw [if_neg heq, List.lookup_cons, beq_false_of_ne heq, ih, if_pos rfl]
      · have hne : (u == word) = false := beq_false_of_ne hu
        rw [if_neg hu]
        by_cases hlt : word < w
        · rw [if_pos hlt, List.lookup_cons, hne]
        rw [if_neg hlt]
        by_cases heq : word = w
        · subst heq
          rw [if_pos rfl, List.lookup_cons, List.lookup_cons, hne]
        · rw [if_neg heq, List.lookup_cons, List.lookup_cons, ih, if_neg hu]

theorem find?_insert (m : WordMap α) (word u : String) (value : α) :
    (m.insert word value).find? u = if u = word then some value else m.find? u :=
  lookup_insertEntry word u value m.entries

/-- **The last pair for a word wins, and a word without a pair keeps its value.** -/
theorem find?_insertAll (pairs : List (String × α)) (u : String) :
    ∀ m : WordMap α, (m.insertAll pairs).find? u = (pairs.reverse.lookup u).or (m.find? u) := by
  induction pairs with
  | nil => intro m; rfl
  | cons pair rest ih =>
      intro m
      show ((m.insert pair.1 pair.2).insertAll rest).find? u = _
      rw [ih, find?_insert, List.reverse_cons, List.lookup_append, Option.or_assoc]
      by_cases hu : u = pair.1
      · rw [if_pos hu, hu, List.lookup_cons_self]
        rfl
      · rw [if_neg hu, List.lookup_cons, beq_false_of_ne hu]
        rfl

theorem mem_of_mem_ofList {pairs : List (String × α)} {e : String × α}
    (h : e ∈ (ofList pairs).entries) : e ∈ pairs :=
  entries_insertAll (by simp [empty]) (fun _ he => he) e h

/-! ### Entries and words -/

/-- Where no word comes twice, every entry is found. -/
theorem lookup_of_mem {l : List (String × α)} (hdistinct : l.Pairwise fun a b => a.1 ≠ b.1)
    {word : String} {value : α} (h : (word, value) ∈ l) : l.lookup word = some value := by
  obtain ⟨front, back, rfl⟩ := List.append_of_mem h
  refine List.lookup_eq_some_iff.mpr ⟨front, back, rfl, ?_⟩
  intro e he
  have hne : e.1 ≠ word := (List.pairwise_append.mp hdistinct).2.2 e he (word, value) (by simp)
  simpa using hne.symm

theorem distinct (m : WordMap α) : m.entries.Pairwise fun a b => a.1 ≠ b.1 := by
  refine m.sorted.imp ?_
  intro a b hlt heq
  exact String.lt_irrefl b.1 (heq ▸ hlt)

/-- A map holds an entry exactly if it sends the word there. -/
theorem mem_entries_iff {m : WordMap α} {word : String} {value : α} :
    (word, value) ∈ m.entries ↔ m.find? word = some value :=
  ⟨lookup_of_mem m.distinct, mem_entries_of_find?⟩

/-- **A map is what it sends words to.** -/
theorem ext_find? {m m' : WordMap α} (h : ∀ u, m.find? u = m'.find? u) : m = m' := by
  have hirrefl : Std.Irrefl fun a b : String × α => a.1 < b.1 := ⟨fun a => String.lt_irrefl a.1⟩
  have hantisymm : Std.Antisymm fun a b : String × α => a.1 < b.1 :=
    ⟨fun a b hab hba => absurd (String.lt_trans hab hba) (String.lt_irrefl a.1)⟩
  have hentries : m.entries = m'.entries := by
    refine List.Pairwise.eq_of_mem_iff m.sorted m'.sorted fun e => ?_
    obtain ⟨word, value⟩ := e
    rw [mem_entries_iff, mem_entries_iff, h]
  cases m
  cases m'
  simpa using hentries

/-- It does not matter from which end a map is read. -/
theorem lookup_reverse_entries (m : WordMap α) (word : String) :
    m.entries.reverse.lookup word = m.find? word := by
  refine Option.ext fun value => ?_
  rw [← mem_entries_iff]
  constructor
  · intro h
    obtain ⟨front, back, hentries, -⟩ := List.lookup_eq_some_iff.mp h
    rw [← List.mem_reverse, hentries]
    simp
  · intro h
    refine lookup_of_mem (List.pairwise_reverse.mpr ?_) (List.mem_reverse.mpr h)
    exact m.distinct.imp Ne.symm

theorem mem_words_iff {m : WordMap α} {word : String} :
    word ∈ m.words ↔ ∃ value, m.find? word = some value := by
  simp only [words, List.mem_map, ← mem_entries_iff]
  constructor
  · rintro ⟨⟨w, value⟩, he, rfl⟩
    exact ⟨value, he⟩
  · rintro ⟨value, he⟩
    exact ⟨(word, value), he, rfl⟩

theorem words_sorted (m : WordMap α) : m.words.Pairwise (· < ·) :=
  List.pairwise_map.mpr m.sorted

theorem words_nodup (m : WordMap α) : m.words.Nodup :=
  List.pairwise_map.mpr m.distinct

theorem wordsWith_sorted [BEq α] (m : WordMap α) (value : α) :
    (m.wordsWith value).Pairwise (· < ·) :=
  List.pairwise_map.mpr (m.sorted.filter _)

theorem mem_wordsWith_iff [BEq α] [LawfulBEq α] {m : WordMap α} {value : α} {word : String} :
    word ∈ m.wordsWith value ↔ m.find? word = some value := by
  rw [← mem_entries_iff]
  simp only [wordsWith, List.mem_map, List.mem_filter, beq_iff_eq]
  constructor
  · rintro ⟨⟨w, x⟩, ⟨he, rfl⟩, rfl⟩
    exact he
  · intro he
    exact ⟨(word, value), ⟨he, rfl⟩, rfl⟩

/-! ### Taking words away and changing values -/

theorem find?_erase (m : WordMap α) (word u : String) :
    (m.erase word).find? u = if u = word then none else m.find? u := by
  by_cases hu : u = word
  · rw [if_pos hu]
    refine List.lookup_eq_none_iff.mpr ?_
    intro e he
    have hne : e.1 ≠ word := by simpa using (List.mem_filter.mp he).2
    rw [hu]
    simpa using hne.symm
  · rw [if_neg hu]
    refine Option.ext fun value => ?_
    rw [← mem_entries_iff, ← mem_entries_iff]
    simp [erase, hu]

theorem find?_modify (m : WordMap α) (word u : String) (change : α → α) :
    (m.modify word change).find? u
      = if u = word then (m.find? u).map change else m.find? u := by
  unfold modify
  cases hword : m.find? word with
  | none =>
      by_cases hu : u = word
      · rw [if_pos hu, hu, hword]
        rfl
      · rw [if_neg hu]
  | some value =>
      rw [find?_insert]
      by_cases hu : u = word
      · rw [if_pos hu, if_pos hu, hu, hword]
        rfl
      · rw [if_neg hu, if_neg hu]

theorem mem_words_insert {m : WordMap α} {word u : String} {value : α} :
    u ∈ (m.insert word value).words ↔ u = word ∨ u ∈ m.words := by
  rw [mem_words_iff, mem_words_iff, find?_insert]
  by_cases hu : u = word
  · simp [hu]
  · simp [hu]

/-- The words of pairs that are inserted, and those that were there. -/
theorem mem_words_insertAll {pairs : List (String × α)} {u : String} :
    ∀ {m : WordMap α}, u ∈ (m.insertAll pairs).words ↔ u ∈ pairs.map Prod.fst ∨ u ∈ m.words := by
  induction pairs with
  | nil => simp [insertAll]
  | cons pair rest ih =>
      intro m
      show u ∈ ((m.insert pair.1 pair.2).insertAll rest).words ↔ _
      rw [ih, mem_words_insert, List.map_cons, List.mem_cons]
      tauto

theorem mem_words_erase {m : WordMap α} {word u : String} :
    u ∈ (m.erase word).words ↔ u ≠ word ∧ u ∈ m.words := by
  rw [mem_words_iff, mem_words_iff, find?_erase]
  by_cases hu : u = word
  · simp [hu]
  · simp [hu]

/-! ### Counting -/

theorem isEmpty_eq_false_iff {m : WordMap α} : m.isEmpty = false ↔ ∃ word, word ∈ m.words := by
  rw [isEmpty, List.isEmpty_eq_false_iff_exists_mem]
  simp [words]

theorem length_insertEntry (word : String) (value : α) {l : List (String × α)}
    (hsorted : l.Pairwise fun a b => a.1 < b.1) :
    (insertEntry word value l).length
      = if (l.lookup word).isSome then l.length else l.length + 1 := by
  induction l with
  | nil => rfl
  | cons head rest ih =>
      obtain ⟨w, x⟩ := head
      obtain ⟨hhead, hrest⟩ := List.pairwise_cons.mp hsorted
      simp only [insertEntry]
      by_cases heq : word = w
      · subst heq
        rw [if_neg (String.lt_irrefl word), if_pos rfl, List.lookup_cons_self]
        rfl
      · rw [List.lookup_cons, beq_false_of_ne heq]
        by_cases hlt : word < w
        · have hnone : rest.lookup word = none := by
            refine List.lookup_eq_none_iff.mpr fun e he => ?_
            have hlt' : word < e.1 := String.lt_trans hlt (hhead e he)
            simpa using fun h : word = e.1 => String.lt_irrefl _ (h ▸ hlt')
          rw [if_pos hlt, hnone]
          rfl
        · rw [if_neg hlt, if_neg heq, List.length_cons, ih hrest]
          split <;> rfl

theorem size_insert (m : WordMap α) (word : String) (value : α) :
    (m.insert word value).size = if m.contains word then m.size else m.size + 1 :=
  length_insertEntry word value m.sorted

theorem contains_insert (m : WordMap α) (word u : String) (value : α) :
    (m.insert word value).contains u = (u == word || m.contains u) := by
  rw [contains, find?_insert]
  by_cases hu : u = word
  · simp [hu]
  · simp [hu, contains]

theorem contains_modify (m : WordMap α) (word u : String) (change : α → α) :
    (m.modify word change).contains u = m.contains u := by
  rw [contains, find?_modify, contains]
  by_cases hu : u = word
  · rw [if_pos hu, Option.isSome_map]
  · rw [if_neg hu]

/-- **A map grows by the new words.**  Among pairs for different words these are the pairs
whose words the map did not know. -/
theorem size_insertAll {pairs : List (String × α)} :
    ∀ m : WordMap α, (pairs.Pairwise fun a b => a.1 ≠ b.1) →
      (m.insertAll pairs).size
        = m.size + (pairs.filter fun pair => !m.contains pair.1).length := by
  induction pairs with
  | nil => intro m _; rfl
  | cons pair rest ih =>
      intro m hpairs
      obtain ⟨hpair, hrest⟩ := List.pairwise_cons.mp hpairs
      -- The words still to come are not the one just inserted.
      have hfilter : (rest.filter fun p => !(m.insert pair.1 pair.2).contains p.1)
          = rest.filter fun p => !m.contains p.1 := by
        refine List.filter_congr fun p hp => ?_
        rw [contains_insert, beq_false_of_ne (hpair p hp).symm, Bool.false_or]
      show ((m.insert pair.1 pair.2).insertAll rest).size = _
      rw [ih _ hrest, hfilter, size_insert, List.filter_cons]
      by_cases hcontains : m.contains pair.1 = true
      · simp [hcontains]
      · simp only [hcontains, Bool.not_false, if_true, List.length_cons]
        simp only [Bool.false_eq_true, if_false]
        omega

end WordMap

end Adventure
