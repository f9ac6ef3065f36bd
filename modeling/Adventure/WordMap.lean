/-
Finite maps from words, kept in the order of the words.

Answers list words in code point order, so the map is its own listing: a list of
entries with strictly increasing words.  The order is part of the type.  Two maps that
send every word to the same value are therefore equal, whatever history built them.
-/

namespace Adventure

namespace WordMap

/-- Puts an entry at its place in a list ordered by word, in front of greater words and
in place of an entry for the same word. -/
def insertEntry {α : Type} (word : String) (value : α) : List (String × α) → List (String × α)
  | [] => [(word, value)]
  | (w, v) :: rest =>
    if word < w then (word, value) :: (w, v) :: rest
    else if word = w then (word, value) :: rest
    else (w, v) :: insertEntry word value rest

/-- An entry of the list after an insertion is the new one or an old one. -/
theorem mem_insertEntry {α : Type} {word : String} {value : α} {e : String × α}
    {l : List (String × α)} (h : e ∈ insertEntry word value l) : e = (word, value) ∨ e ∈ l := by
  induction l with
  | nil => simp_all [insertEntry]
  | cons head rest ih =>
    obtain ⟨w, v⟩ := head
    simp only [insertEntry] at h
    split at h
    · simpa using h
    · split at h
      · simp only [List.mem_cons] at h ⊢
        exact h.elim .inl fun h => .inr (.inr h)
      · simp only [List.mem_cons] at h ⊢
        rcases h with h | h
        · exact .inr (.inl h)
        · exact (ih h).elim .inl fun h => .inr (.inr h)

/-- Insertion keeps the words strictly increasing. -/
theorem pairwise_insertEntry {α : Type} {word : String} {value : α} {l : List (String × α)}
    (h : l.Pairwise fun a b => a.1 < b.1) :
    (insertEntry word value l).Pairwise fun a b => a.1 < b.1 := by
  induction l with
  | nil => simp [insertEntry]
  | cons head rest ih =>
    obtain ⟨w, v⟩ := head
    obtain ⟨hhead, hrest⟩ := List.pairwise_cons.1 h
    simp only [insertEntry]
    split
    · rename_i hlt
      refine List.pairwise_cons.2 ⟨fun e he => ?_, h⟩
      rcases List.mem_cons.1 he with rfl | he
      · exact hlt
      · exact String.lt_trans hlt (hhead e he)
    · split
      · rename_i heq
        subst heq
        exact List.pairwise_cons.2 ⟨hhead, hrest⟩
      · refine List.pairwise_cons.2 ⟨fun e he => ?_, ih hrest⟩
        rcases mem_insertEntry he with rfl | he
        · grind
        · exact hhead e he

end WordMap

/-- A finite map from words, listed in increasing order of the words. -/
structure WordMap (α : Type) where
  /-- The words and their values. -/
  entries : List (String × α)
  /-- Each word comes once, in order. -/
  sorted : entries.Pairwise fun a b => a.1 < b.1

namespace WordMap

/-- The map without words. -/
def empty {α : Type} : WordMap α :=
  ⟨[], .nil⟩

/-- Sends a word to a value, whatever it was sent to before. -/
def insert {α : Type} (m : WordMap α) (word : String) (value : α) : WordMap α :=
  ⟨insertEntry word value m.entries, pairwise_insertEntry m.sorted⟩

/-- Inserts pairs from the first to the last, so that the last one for a word stays. -/
def insertAll {α : Type} (m : WordMap α) (pairs : List (String × α)) : WordMap α :=
  pairs.foldl (fun m p => m.insert p.1 p.2) m

/-- The map that pairs build, inserted in order. -/
def ofList {α : Type} (pairs : List (String × α)) : WordMap α :=
  empty.insertAll pairs

/-- What holds of a map's entries and of the pairs inserted holds of all entries then. -/
theorem entries_insertAll {α : Type} {P : String × α → Prop} {pairs : List (String × α)} :
    ∀ {m : WordMap α}, (∀ e ∈ m.entries, P e) → (∀ e ∈ pairs, P e) →
      ∀ e ∈ (m.insertAll pairs).entries, P e := by
  induction pairs with
  | nil => intro m hm _; exact hm
  | cons pair rest ih =>
    intro m hm hpairs
    refine ih (m := m.insert pair.1 pair.2) ?_ (fun e he => hpairs e (by simp [he]))
    intro e he
    rcases mem_insertEntry he with rfl | hold
    · exact hpairs pair (by simp)
    · exact hm e hold

/-- The map without a word. -/
def erase {α : Type} (m : WordMap α) (word : String) : WordMap α :=
  ⟨m.entries.filter fun e => e.1 != word, m.sorted.filter _⟩

/-- The value of a word. -/
def find? {α : Type} (m : WordMap α) (word : String) : Option α :=
  m.entries.lookup word

/-- Changes the value of a word that has one. -/
def modify {α : Type} (m : WordMap α) (word : String) (change : α → α) : WordMap α :=
  match m.find? word with
  | some value => m.insert word (change value)
  | none => m

/-- Whether a word has a value. -/
def contains {α : Type} (m : WordMap α) (word : String) : Bool :=
  (m.find? word).isSome

/-- The words, in order. -/
def words {α : Type} (m : WordMap α) : List String :=
  m.entries.map Prod.fst

/-- The number of words. -/
def size {α : Type} (m : WordMap α) : Nat :=
  m.entries.length

/-- Whether there is no word. -/
def isEmpty {α : Type} (m : WordMap α) : Bool :=
  m.entries.isEmpty

/-- The words with a given value, in order. -/
def wordsWith {α : Type} [BEq α] (m : WordMap α) (value : α) : List String :=
  (m.entries.filter fun e => e.2 == value).map Prod.fst

end WordMap

/-- Words, each once and in order. -/
abbrev WordSet := WordMap Unit

end Adventure
