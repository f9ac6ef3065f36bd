/-
What a vocabulary can say of a word.

The scanner decides by the first character that something is a text in quotes, and by the
end of the line that something is the end marker.  That a word never looks like either is
not the scanner's doing: it rests on no vocabulary holding a structural kind, neither
among the words every game knows nor among the aliases laid over them.
-/
import Adventure.Vocabulary
import Adventure.Proofs.Text
import Adventure.Proofs.WordMap

namespace Adventure

namespace Vocabulary

theorem toWordMap_extended (o : Overlay) :
    (extended o).toWordMap = builtin.insertAll o.toList :=
  rfl

theorem mem_builtinWords {word : String} {kind : Kind} (h : builtin.find? word = some kind) :
    (word, kind) ∈ builtinWords :=
  WordMap.mem_of_mem_ofList (WordMap.mem_entries_of_find? h)

theorem kindOf_eq_or (v : Vocabulary) (word : String) :
    v.kindOf word = .identifier ∨ (v.kindOf word).isStructural = false := by
  unfold kindOf
  cases hfind : v.find? (Text.upper word) with
  | none => exact Or.inl rfl
  | some kind => exact Or.inr (v.proper _ (WordMap.mem_entries_of_find? hfind))

/-- A word is an identifier or what some vocabulary entry says, so never the rest. -/
theorem kindOf_ne (v : Vocabulary) (word : String) {k : Kind} (hk : k.isStructural = true)
    (hne : k ≠ .identifier) : v.kindOf word ≠ k := by
  rintro rfl
  rcases kindOf_eq_or v word with h | h
  · exact hne h
  · rw [h] at hk
    exact Bool.noConfusion hk

theorem kindOf_ne_string (v : Vocabulary) (word : String) : v.kindOf word ≠ .string :=
  kindOf_ne v word rfl (by decide)

theorem kindOf_ne_eol (v : Vocabulary) (word : String) : v.kindOf word ≠ .eol :=
  kindOf_ne v word rfl (by decide)

/-- **Aliases win, and hide nothing else.** -/
theorem find?_extended (o : Overlay) (u : String) :
    (extended o).find? u = (o.words.find? u).or (builtin.find? u) := by
  rw [toWordMap_extended, WordMap.find?_insertAll, Overlay.toList,
    WordMap.lookup_reverse_entries]

/-- No vocabulary holds the empty word. -/
theorem find?_empty (o : Overlay) : (extended o).find? "" = none := by
  have halias : o.words.find? "" = none := by
    rw [Option.eq_none_iff_forall_ne_some]
    intro kind hkind
    exact (o.proper _ (WordMap.mem_entries_of_find? hkind)).1 rfl
  have hbuiltin : builtin.find? "" = none := by
    rw [Option.eq_none_iff_forall_ne_some]
    intro kind hkind
    have hword : ∀ e ∈ builtinWords, e.1 ≠ "" := by decide
    exact hword _ (mem_builtinWords hkind) rfl
  rw [find?_extended, halias, hbuiltin, Option.none_or]

/-- An alias changes no other word. -/
theorem kindOf_extended_of_none {o : Overlay} {word : String}
    (h : o.words.find? (Text.upper word) = none) :
    (extended o).kindOf word = builtin.kindOf word := by
  rw [kindOf, find?_extended, h, Option.none_or, kindOf]

/-- Without aliases the name of an action leads a line of its own rule. -/
theorem builtin_kindOf_name (v : Verb) : builtin.kindOf v.name = .verb v := by
  unfold kindOf builtin WordMap.ofList
  rw [WordMap.find?_insertAll]
  cases v <;> decide

end Vocabulary

end Adventure
