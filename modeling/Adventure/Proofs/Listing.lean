/-
Where help shows an alias.

Help has a line for each verb with synonyms and a last line for the directions.  An alias for a
verb takes a long way there: through the stored form, which is in upper case, into a table in lower
case, where it may first have to leave the list of another verb, and from that table into the text.
What could go wrong on the way is that another alias of the overlay comes to the same lower case
and takes the word over.  Where no two do, each alias arrives at the verb that it performs.

The exception is an alias that spells the name of its own verb: no word is a synonym of itself.

Directions come straight from the vocabulary.  Their words are lower-cased all at once, with the
slashes between them, which is the same as one by one.
-/
import Adventure.Proofs.Help
import Adventure.Proofs.Lowering
import Adventure.Proofs.Overlay

namespace Adventure

namespace Synonyms

variable {o : Overlay} {word : String}

/-- **An alias that no other one meets in lower case stands for its verb.** -/
theorem find?_verbOf_extend {v : Verb}
    (hdistinct : o.toList.Pairwise fun e e' => key e.1 ≠ key e'.1)
    (halias : o.words.find? word = some (.verb v)) (haccepts : accepts word v.name = true) :
    (builtin.extend o).verbOf.find? (key word) = some v.name := by
  rcases find?_verbOf_insertAll (pairsOf o) (key word) builtin with
    ⟨⟨other, name⟩, hpair, -, hkey, hfind⟩ | ⟨hnone, -⟩
  · obtain ⟨v', hother, rfl⟩ := mem_pairsOf.mp hpair
    have hsame : (other, Kind.verb v') = (word, Kind.verb v) :=
      List.inj_on_of_nodup_map (List.pairwise_map.mpr hdistinct)
        (WordMap.mem_entries_of_find? hother) (WordMap.mem_entries_of_find? halias) hkey
    obtain ⟨rfl, hkind⟩ := Prod.mk.inj hsame
    obtain rfl := Kind.verb.inj hkind
    rw [extend, hfind, key_name]
  · exact absurd rfl (hnone (word, v.name) (mem_pairsOf.mpr ⟨v, halias, rfl⟩) haccepts)

end Synonyms

namespace Session

open Synonyms (key)

/-! ### The lines of help -/

variable {s : Session} {word verb : String}

/-- The help line of a verb, with the words that are also accepted for it. -/
def entry (s : Session) (verb : String) : String :=
  "  " ++ padded verb ++ " also accepts: " ++ ", ".intercalate (s.synonyms.synonymsOf verb) ++ "\n"

/-- The words of a direction in lower case. -/
def directionWords (s : Session) (d : Direction) : List String :=
  (s.interpreter.vocabulary.wordsWith (.direction d)).map Text.lower

theorem verbLine_of_mem (h : word ∈ s.synonyms.synonymsOf verb) :
    s.verbLine verb = some (s.entry verb) := by
  have hne : (s.synonyms.synonymsOf verb).isEmpty = false := by
    rw [List.isEmpty_eq_false_iff]
    exact List.ne_nil_of_mem h
  rw [verbLine, Synonyms.alsoAccepts?, if_neg (by simp [hne]), Option.map_some, entry]
  simp only [String.append_assoc]
  rfl

theorem directionGroup_eq (s : Session) (d : Direction) :
    s.directionGroup d = "/".intercalate (s.directionWords d) :=
  Text.divides_slash.lower_intercalate _

theorem helpText_eq (s : Session) :
    s.helpText = String.join (s.synonyms.canonicals.filterMap s.verbLine) ++
      "  directions " ++ ", ".intercalate s.directionGroups ++ "\n" := by
  have hpadded : padded "directions" = "directions" := by decide
  rw [helpText, hpadded]
  simp only [String.append_assoc]
  rfl

/-- The line of a verb stands between those of the verbs before it and behind it. -/
theorem helpText_of_mem (hverb : key verb = verb) (h : word ∈ s.synonyms.synonymsOf verb) :
    ∃ front back, s.synonyms.canonicals = front ++ verb :: back ∧
      s.helpText = String.join (front.filterMap s.verbLine) ++ s.entry verb ++
        String.join (back.filterMap s.verbLine) ++
        "  directions " ++ ", ".intercalate s.directionGroups ++ "\n" := by
  have hlisted : word ∈ (s.synonyms.listOf verb).words := by rwa [Synonyms.synonymsOf, hverb] at h
  obtain ⟨front, back, hcanonicals⟩ :=
    List.append_of_mem ((Synonyms.mem_canonicals_iff s.synonyms verb).mpr ⟨word, hlisted⟩)
  refine ⟨front, back, hcanonicals, ?_⟩
  rw [helpText_eq, hcanonicals, List.filterMap_append, List.filterMap_cons_some (verbLine_of_mem h),
    String.join_append, String.join_cons, ← String.append_assoc]

/-- A direction with a word has its group in help. -/
theorem directionGroup_mem {d : Direction}
    (h : s.interpreter.vocabulary.find? word = some (.direction d)) :
    Text.lower word ∈ s.directionWords d ∧
      "/".intercalate (s.directionWords d) ∈ s.directionGroups := by
  have hlisted : Text.lower word ∈ s.directionWords d :=
    List.mem_map_of_mem (WordMap.mem_wordsWith_iff.mpr h)
  have hword : word ≠ "" := by
    rintro rfl
    rw [Interpreter.vocabulary, Vocabulary.find?_empty] at h
    exact nomatch h
  have hgroup := Text.intercalate_ne_empty "/" hlisted (Text.lower_ne_empty hword)
  have hall : d ∈ Direction.all := by cases d <;> decide
  rw [← directionGroup_eq] at hgroup ⊢
  exact ⟨hlisted, List.mem_filter.mpr ⟨List.mem_map_of_mem hall, by simpa using hgroup⟩⟩

/-- What help says of an alias for a verb. -/
structure ListsAlias (s : Session) (word verb : String) : Prop where
  canonical : s.synonyms.canonicalize? word = some verb
  listed : Text.lower word ∈ s.synonyms.synonymsOf verb
  /-- It is on no other list. -/
  only : ∀ other, Text.lower word ∈ s.synonyms.synonymsOf other → key other = verb
  /-- The line of the verb is in the text, between those of the verbs before it and behind it. -/
  shown : ∃ front back, s.synonyms.canonicals = front ++ verb :: back ∧
    s.helpText = String.join (front.filterMap s.verbLine) ++ s.entry verb ++
      String.join (back.filterMap s.verbLine) ++
      "  directions " ++ ", ".intercalate s.directionGroups ++ "\n"

/-- What help says of a word for a direction. -/
structure ListsDirection (s : Session) (word : String) (d : Direction) : Prop where
  grouped : Text.lower word ∈ s.directionWords d
  /-- The words of the direction make one group, with slashes between them. -/
  listed : "/".intercalate (s.directionWords d) ∈ s.directionGroups
  /-- The groups are on the last line. -/
  shown : s.helpText = String.join (s.synonyms.canonicals.filterMap s.verbLine) ++
    "  directions " ++ ", ".intercalate s.directionGroups ++ "\n"

/-- **Help lists every alias under what it does.**  Let no two aliases of a game fall together
in lower case.  Then each alias that performs an action, and is not the name of that action, is on
the list of the action and on no other, whichever verb it stood for before, and the line of the
action shows it.  Each word for a direction, alias or not, is in the group of its direction. -/
theorem help_lists_aliases (settings : Settings) (calls : List (String × Kind))
    (hdistinct : (Overlay.ofPairs calls).toList.Pairwise fun e e' => key e.1 ≠ key e'.1) :
    (∀ word kind action, (word, kind) ∈ (Overlay.ofPairs calls).toList →
      Action.ofKind? kind = some action → Text.lower word ≠ action.name →
        ListsAlias (ofOverlay settings (.ofPairs calls)) word action.name) ∧
    ∀ word d,
      (ofOverlay settings (.ofPairs calls)).interpreter.vocabulary.find? word
        = some (.direction d) →
        ListsDirection (ofOverlay settings (.ofPairs calls)) word d := by
  constructor
  · intro word kind action hentry haction hname
    obtain ⟨v, rfl, rfl⟩ : ∃ v, kind = .verb v ∧ action = .perform v := by
      cases kind with
      | verb v => exact ⟨v, rfl, (Option.some.inj haction).symm⟩
      | _ => exact nomatch haction
    have halias := WordMap.mem_entries_iff.mp hentry
    have hkey : key word = Text.lower word := by
      rw [key, ← Overlay.key_of_find? halias, Overlay.trim_key]
    have hverb := Synonyms.key_name v
    have hword : key word ≠ "" := by
      rw [hkey]
      exact Text.lower_ne_empty ((Overlay.ofPairs calls).proper _ hentry).1
    have haccepts : Synonyms.accepts word v.name = true :=
      Synonyms.accepts_name.mpr ⟨hword, hkey ▸ hname⟩
    have hfind := Synonyms.find?_verbOf_extend hdistinct halias haccepts
    have hmem : ∀ other,
        Text.lower word ∈ (Synonyms.builtin.extend (.ofPairs calls)).synonymsOf other ↔
          v.name = key other := by
      intro other
      rw [(Synonyms.agrees_extend _).mem_synonymsOf, ← hkey, hfind, Option.some_inj]
    refine ⟨?_, (hmem v.name).mpr hverb.symm, fun other h => ((hmem other).mp h).symm, ?_⟩
    · show Synonyms.canonicalize? (Synonyms.builtin.extend _) word = some v.name
      rw [Synonyms.canonicalize?, hfind]
    · exact helpText_of_mem hverb ((hmem v.name).mpr hverb.symm)
  · intro word d hword
    obtain ⟨hgrouped, hlisted⟩ := directionGroup_mem hword
    exact ⟨hgrouped, hlisted, helpText_eq _⟩

/-- `get` has left the list of `take`, which has got `look` for it.  The word for north ends in a
final sigma. -/
theorem help_lists_aliases_get :
    let calls : List (String × Kind) :=
      [("Get", .verb .look), (" look ", .verb .take), ("δρόμος", .direction .north)]
    let s := ofOverlay {} (.ofPairs calls)
    ((Overlay.ofPairs calls).toList.Pairwise fun e e' => key e.1 ≠ key e'.1) ∧
      ("GET", Kind.verb .look) ∈ (Overlay.ofPairs calls).toList ∧
      Action.ofKind? (.verb .look) = some (.perform .look) ∧
      Text.lower "GET" ≠ Action.name (.perform .look) ∧ ListsAlias s "GET" "look" ∧
      s.interpreter.vocabulary.find? "ΔΡΌΜΟΣ" = some (.direction .north) ∧
      ListsDirection s "ΔΡΌΜΟΣ" .north := by
  intro calls s
  have hdistinct : (Overlay.ofPairs calls).toList.Pairwise fun e e' => key e.1 ≠ key e'.1 := by
    decide +kernel
  have hentry : ("GET", Kind.verb .look) ∈ (Overlay.ofPairs calls).toList := by decide +kernel
  have hname : Text.lower "GET" ≠ Action.name (.perform .look) := by decide +kernel
  have halias : (Overlay.ofPairs calls).words.find? "ΔΡΌΜΟΣ" = some (.direction .north) := by
    decide +kernel
  have hword : s.interpreter.vocabulary.find? "ΔΡΌΜΟΣ" = some (.direction .north) := by
    show (Vocabulary.extended (.ofPairs calls)).find? _ = _
    rw [Vocabulary.find?_extended, halias, Option.some_or]
  obtain ⟨haliases, hdirections⟩ := help_lists_aliases {} calls hdistinct
  exact ⟨hdistinct, hentry, rfl, hname, haliases "GET" _ _ hentry rfl hname, hword,
    hdirections "ΔΡΌΜΟΣ" .north hword⟩

end Session

end Adventure
