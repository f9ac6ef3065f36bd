/-
An overlay gives itself back.

An overlay shows its aliases as it has stored them, and a stored alias is its own stored form.  So
whatever an overlay shows is found under the name that is shown, and inserting all of it again
stores the same words with the same kinds.  No two of them are the same word, which is why the
order does not matter.

A document of aliases says the kinds by name.  Every kind that an overlay can hold is found by its
name, and every alias that it holds is one that can be inserted, so nothing is dropped on the way.
-/
import Adventure.Proofs.Aliases
import Adventure.Proofs.Frame

namespace Adventure

namespace Overlay

variable {o : Overlay} {pairs : List (String × Kind)}

/-- Pairs that can be inserted, each under the form it is stored in. -/
def Stored (pairs : List (String × Kind)) : Prop :=
  ∀ pair ∈ pairs, accepts pair.1 pair.2 = true ∧ key pair.1 = pair.1

theorem stored_toList (calls : List (String × Kind)) : Stored (ofPairs calls).toList := by
  intro entry hentry
  have hkey : key entry.1 = entry.1 := key_of_find? (WordMap.mem_entries_iff.mp hentry)
  obtain ⟨hne, hkind⟩ := (ofPairs calls).proper entry hentry
  rw [accepts, hkey]
  simp [hne, hkind]

theorem words_insertAll (h : Stored pairs) :
    ∀ o : Overlay, (o.insertAll pairs).words = o.words.insertAll pairs := by
  induction pairs with
  | nil => intro o; rfl
  | cons pair rest ih =>
      intro o
      obtain ⟨⟨haccepts, hkey⟩, hrest⟩ := List.forall_mem_cons.mp h
      have hwords := words_insert (o := o) haccepts
      rw [hkey] at hwords
      rw [insertAll, List.foldl_cons, ← insertAll, ih hrest, hwords]
      simp only [WordMap.insertAll, List.foldl_cons]

/-- A stored alias is found under the name that is shown. -/
theorem find?_of_mem (h : Stored o.toList) {entry : String × Kind} (hentry : entry ∈ o.toList) :
    o.find? entry.1 = some entry.2 := by
  rw [find?, (h entry hentry).2]
  exact WordMap.mem_entries_iff.mp hentry

/-- **An overlay is built again from what it shows.** -/
theorem ofPairs_toList (h : Stored o.toList) : ofPairs o.toList = o := by
  refine ext_find? fun u => ?_
  show (empty.insertAll o.toList).words.find? u = o.words.find? u
  rw [words_insertAll h, WordMap.find?_insertAll, toList, WordMap.lookup_reverse_entries]
  exact Option.or_none

theorem ofPairs_perm (h : Stored o.toList) (hperm : pairs.Perm o.toList) : ofPairs pairs = o := by
  have hdistinct : o.toList.Pairwise fun entry entry' => key entry.1 ≠ key entry'.1 := by
    refine o.words.distinct.imp_of_mem fun {entry entry'} hentry hentry' hne => ?_
    rw [(h entry hentry).2, (h entry' hentry').2]
    exact hne
  have hsame : ofPairs o.toList = ofPairs pairs := insertAll_perm empty hdistinct hperm.symm
  rw [← hsame, ofPairs_toList h]

end Overlay

theorem Kind.mem_all (kind : Kind) : kind ∈ Kind.all := by
  cases kind with
  | verb v => cases v with | _ => decide
  | direction d => cases d with | _ => decide
  | preposition p => cases p with | _ => decide
  | _ => decide

namespace Aliases

open Adventure.Yaml (Value)

theorem resolve?_name {kind : Kind} (h : kind.isStructural = false) :
    resolve? kind.name = some kind := by
  have hall : ∀ kind ∈ Kind.all, kind.isStructural = false → resolve? kind.name = some kind := by
    decide +kernel
  exact hall kind (Kind.mem_all kind) h

/-- Aliases with the names of their kinds, as the section of a document. -/
def written (pairs : List (String × Kind)) : Value :=
  .mapping (pairs.map fun pair => (.string pair.1, .string pair.2.name))

theorem judge_written {word : String} {kind : Kind} (h : Overlay.accepts word kind = true) :
    judge (.string word) (.string kind.name) = .ok (word, kind) := by
  obtain ⟨hvisible, hkind⟩ := Overlay.accepts_iff.mp h
  exact judge_eq_ok_iff.mpr ⟨rfl, _, rfl, resolve?_name hkind, hvisible⟩

/-- **Written aliases load as they are, and nothing is dropped.** -/
theorem ofValue_written {pairs : List (String × Kind)}
    (haccepts : ∀ pair ∈ pairs, Overlay.accepts pair.1 pair.2 = true) {document : Value}
    (h : document.get? "aliases" = some (written pairs)) :
    ofValue document = .ok ⟨.ofPairs pairs, []⟩ := by
  have hverdicts : verdicts? (written pairs) = some (pairs.map .ok) := by
    simp only [written, verdicts?, List.map_map, Option.some.injEq, List.map_inj_left,
      Function.comp_apply]
    intro pair hpair
    exact judge_written (haccepts pair hpair)
  have hgiven : (pairs.map Except.ok : List Verdict).filterMap Except.toOption = pairs := by
    simp [List.filterMap_map, Function.comp_def, Except.toOption]
  simp only [ofValue, h, hverdicts, Loaded.ofVerdicts, hgiven]
  simp

end Aliases

/-- **Overlays are in normal form and reload to themselves.**  Whatever was inserted, each alias is
found under the name that is shown, all of them inserted again in any order give the same overlay,
and so does a document that lists them with the names of their kinds, without a notice. -/
theorem overlay_reloads (calls : List (String × Kind)) :
    let o := Overlay.ofPairs calls
    (∀ entry ∈ o.toList, o.find? entry.1 = some entry.2) ∧
      ∀ pairs : List (String × Kind), pairs.Perm o.toList →
        Overlay.ofPairs pairs = o ∧
          ∀ document, document.get? "aliases" = some (Aliases.written pairs) →
            Aliases.ofValue document = .ok ⟨o, []⟩ ∧
              ∀ text, Yaml.read text = .ok document → Aliases.parse? text = .ok ⟨o, []⟩ := by
  intro o
  have hstored : Overlay.Stored o.toList := Overlay.stored_toList calls
  refine ⟨fun entry hentry => Overlay.find?_of_mem hstored hentry, fun pairs hperm => ?_⟩
  have hsame := Overlay.ofPairs_perm hstored hperm
  refine ⟨hsame, fun document hdocument => ?_⟩
  have haccepts : ∀ pair ∈ pairs, Overlay.accepts pair.1 pair.2 = true :=
    fun pair hpair => (hstored pair (hperm.subset hpair)).1
  have hload := Aliases.ofValue_written haccepts hdocument
  rw [hsame] at hload
  exact ⟨hload, fun text htext => (Aliases.parse?_of_read htext).trans hload⟩

/-- One alias is stored in a longer form than it was typed in and inserted twice, another is
refused, and the aliases come back in another order. -/
theorem overlay_reloads_strasse :
    let o := Overlay.ofPairs [(" straße", .verb .go), ("nord", .direction .north),
      ("STRASSE\u00a0", .verb .attack), ("stop", .eol)]
    let pairs : List (String × Kind) := [("STRASSE", .verb .attack), ("NORD", .direction .north)]
    let document : Yaml.Value := .mapping [(.string "aliases", Aliases.written pairs)]
    pairs.Perm o.toList ∧ document.get? "aliases" = some (Aliases.written pairs) ∧
      o.find? "STRASSE" = some (.verb .attack) ∧ Overlay.ofPairs pairs = o ∧
      Aliases.ofValue document = .ok ⟨o, []⟩ := by
  intro o pairs document
  have hlist : o.toList = pairs.reverse := by decide +kernel
  have hperm : pairs.Perm o.toList := by
    rw [hlist]
    exact pairs.reverse_perm.symm
  have hdocument : document.get? "aliases" = some (Aliases.written pairs) := rfl
  obtain ⟨hfind, hreload⟩ := overlay_reloads [(" straße", .verb .go), ("nord", .direction .north),
    ("STRASSE\u00a0", .verb .attack), ("stop", .eol)]
  obtain ⟨hsame, hload⟩ := hreload pairs hperm
  refine ⟨hperm, hdocument, hfind ("STRASSE", .verb .attack) ?_, hsame, (hload _ hdocument).1⟩
  exact hperm.subset (by simp [pairs])

end Adventure
