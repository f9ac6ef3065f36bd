/-
An alias document gives what its good entries give.

A section of aliases comes in two forms, and an entry of either form can be bad in several
ways.  `Entry.Gives` says of both forms at once what a good entry is and which alias and
kind it gives.  The judges of the two forms decide exactly that, so the overlay is the
history of the good entries and of nothing else, and the notices are one for each of the
others.

A list item has to be a mapping from names: a key that is no string spoils it, even if
both sides are there.
-/
import Adventure.Aliases.Document
import Adventure.Proofs.Overlay

namespace Adventure.Aliases

open Adventure.Yaml (Value)

/-- An entry of a section. -/
inductive Entry where
  /-- An entry of the mapping form. -/
  | pair (word canonical : Value)
  /-- An item of the list form. -/
  | item (value : Value)

/-- The entries of the section of a document that is a mapping or a list. -/
inductive Section (document : Value) : List Entry → Prop
  | mapping {pairs : List (Value × Value)} (h : document.get? "aliases" = some (.mapping pairs)) :
      Section document (pairs.map fun pair => .pair pair.1 pair.2)
  | list {items : List Value} (h : document.get? "aliases" = some (.sequence items)) :
      Section document (items.map .item)

/-- Whether a key spells a name, its tags aside. -/
def spells (name : String) (key : Value) : Bool :=
  match key.untagged with
  | .string text => text == name
  | _ => false

/-- The values that a mapping has under a name. -/
def under (name : String) (parts : List (Value × Value)) : List Value :=
  (parts.filter fun part => spells name part.1).map Prod.snd

namespace Entry

/-- The alias side and the canonical side of an entry.  A list item has them if it is a
mapping, its tags aside, with strings for keys and with one value under either name. -/
inductive Sides : Entry → Value → Value → Prop
  | pair (word canonical : Value) : Sides (.pair word canonical) word canonical
  | item {value word canonical : Value} {parts : List (Value × Value)}
      (hmapping : value.untagged = .mapping parts)
      (hkeys : ∀ part ∈ parts, ∃ name, part.1.untagged = .string name)
      (hword : under "alias" parts = [word])
      (hcanonical : under "canonical" parts = [canonical]) : Sides (.item value) word canonical

/-- A good entry gives an alias and its kind: both sides are scalars, the canonical one names
a kind, and something of the alias can be seen. -/
inductive Gives (e : Entry) (name : String) (kind : Kind) : Prop
  | intro {word canonical : Value} {text : String} (hsides : Sides e word canonical)
      (hword : word.scalarText? = some name) (hcanonical : canonical.scalarText? = some text)
      (hkind : resolve? text = some kind) (hvisible : Text.trim name ≠ "")

/-- An entry that gives something. -/
def Good (e : Entry) : Prop :=
  ∃ name kind, Gives e name kind

/-- What becomes of an entry. -/
def verdict : Entry → Verdict
  | pair word canonical => judge word canonical
  | item value => judgeItem value

end Entry

/-! ### The judges decide what is good -/

theorem resolve?_not_structural {text : String} {kind : Kind} (h : resolve? text = some kind) :
    kind.isStructural = false := by
  unfold resolve? at h
  simp only at h
  by_cases hempty : (Overlay.key text).isEmpty = true
  · rw [if_pos hempty] at h
    exact nomatch h
  · rw [if_neg hempty] at h
    have hkind := (Option.filter_eq_some_iff.mp h).2
    simpa using hkind

theorem judge_eq_ok_iff {word canonical : Value} {name : String} {kind : Kind} :
    judge word canonical = .ok (name, kind) ↔
      word.scalarText? = some name ∧
        ∃ text, canonical.scalarText? = some text ∧ resolve? text = some kind ∧
          Text.trim name ≠ "" := by
  constructor
  · intro h
    unfold judge at h
    split at h
    · rename_i name' text hword hcanonical
      split at h
      · rename_i kind' hkind
        split at h
        · rename_i haccepts
          obtain ⟨rfl, rfl⟩ := Prod.mk.inj (Except.ok.inj h)
          exact ⟨hword, text, hcanonical, hkind, (Overlay.accepts_iff.mp haccepts).1⟩
        · exact nomatch h
      · exact nomatch h
    · exact nomatch h
  · intro h
    obtain ⟨hword, text, hcanonical, hkind, hvisible⟩ := h
    have haccepts : Overlay.accepts name kind = true :=
      Overlay.accepts_iff.mpr ⟨hvisible, resolve?_not_structural hkind⟩
    simp only [judge, hword, hcanonical, hkind, haccepts, if_true]

/-- All keys spell names exactly if the parts can be listed by name. -/
theorem mapM_named?_eq_some_iff {entries : List (Value × Value)} :
    ∀ parts, entries.mapM named? = some parts ↔
      (∀ entry ∈ entries, ∃ name, entry.1.untagged = .string name) ∧
        parts = entries.filterMap named? := by
  induction entries with
  | nil => intro parts; simp [eq_comm]
  | cons entry rest ih =>
      intro parts
      rw [List.mapM_cons]
      cases hkey : entry.1.untagged with
      | string name =>
          have hnamed : named? entry = some (name, entry.2) := by rw [named?, hkey]
          simp only [hnamed, Option.bind_eq_bind, Option.bind_some, Option.pure_def,
            Option.bind_eq_some_iff, Option.some.injEq, ih, List.forall_mem_cons, hkey,
            List.filterMap_cons, Yaml.Value.string.injEq, exists_eq', true_and]
          constructor
          · rintro ⟨parts', ⟨hkeys, rfl⟩, rfl⟩
            exact ⟨hkeys, rfl⟩
          · rintro ⟨hkeys, rfl⟩
            exact ⟨_, ⟨hkeys, rfl⟩, rfl⟩
      | _ =>
          have hnamed : named? entry = none := by rw [named?, hkey]
          simp [hnamed, hkey]

theorem map_filter_named? (name : String) (entries : List (Value × Value)) :
    ((entries.filterMap named?).filter fun part => part.1 == name).map Prod.snd
      = under name entries := by
  induction entries with
  | nil => rfl
  | cons entry rest ih =>
      rw [under] at ih ⊢
      cases hkey : entry.1.untagged with
      | string text =>
          have hnamed : named? entry = some (text, entry.2) := by rw [named?, hkey]
          have hspells : spells name entry.1 = (text == name) := by rw [spells, hkey]
          rw [List.filterMap_cons_some hnamed, List.filter_cons, List.filter_cons, hspells]
          by_cases htext : (text == name) = true
          · rw [if_pos htext, if_pos htext, List.map_cons, List.map_cons, ih]
          · rw [if_neg htext, if_neg htext, ih]
      | _ =>
          have hnamed : named? entry = none := by rw [named?, hkey]
          have hspells : spells name entry.1 = false := by rw [spells, hkey]
          rw [List.filterMap_cons_none hnamed, List.filter_cons_of_neg (by simp [hspells]), ih]

theorem part?_eq_some_iff {name : String} {parts : List (String × Value)} {value : Value} :
    part? name parts = some value ↔
      (parts.filter fun part => part.1 == name).map Prod.snd = [value] := by
  unfold part?
  cases parts.filter fun part => part.1 == name with
  | nil => simp
  | cons part rest =>
      cases rest with
      | nil => simp
      | cons _ _ => simp

theorem sides?_eq_some_iff {value word canonical : Value} :
    sides? value = some (word, canonical) ↔ Entry.Sides (.item value) word canonical := by
  constructor
  · intro h
    unfold sides? at h
    cases hvalue : value.untagged with
    | mapping entries =>
        simp only [hvalue, Option.bind_eq_bind, Option.pure_def, Option.bind_eq_some_iff,
          Option.some.injEq, Prod.mk.injEq] at h
        obtain ⟨parts, hparts, w, hw, c, hc, rfl, rfl⟩ := h
        obtain ⟨hkeys, rfl⟩ := (mapM_named?_eq_some_iff parts).mp hparts
        rw [part?_eq_some_iff, map_filter_named?] at hw hc
        exact .item hvalue hkeys hw hc
    | _ =>
        rw [hvalue] at h
        exact nomatch h
  · intro h
    cases h with
    | @item _ _ _ entries hmapping hkeys hword hcanonical =>
        have hparts := (mapM_named?_eq_some_iff _).mpr ⟨hkeys, rfl⟩
        rw [← map_filter_named?, ← part?_eq_some_iff] at hword hcanonical
        simp [sides?, hmapping, hparts, hword, hcanonical]

/-- **An entry is let through exactly if it is good, with what it gives.** -/
theorem verdict_eq_ok_iff {e : Entry} {name : String} {kind : Kind} :
    e.verdict = .ok (name, kind) ↔ e.Gives name kind := by
  have hjudge : ∀ {word canonical : Value}, e.Sides word canonical →
      (judge word canonical = .ok (name, kind) → e.Gives name kind) := by
    intro word canonical hsides h
    obtain ⟨hword, text, hcanonical, hkind, hvisible⟩ := judge_eq_ok_iff.mp h
    exact .intro hsides hword hcanonical hkind hvisible
  constructor
  · intro h
    cases e with
    | pair word canonical => exact hjudge (.pair word canonical) h
    | item value =>
        rw [Entry.verdict, judgeItem] at h
        cases hsides : sides? value with
        | none =>
            rw [hsides] at h
            exact nomatch h
        | some sides =>
            rw [hsides] at h
            exact hjudge (sides?_eq_some_iff.mp hsides) h
  · rintro ⟨hsides, hword, hcanonical, hkind, hvisible⟩
    have h := judge_eq_ok_iff.mpr ⟨hword, _, hcanonical, hkind, hvisible⟩
    cases e with
    | pair word canonical =>
        cases hsides with
        | pair => exact h
    | item value =>
        rw [Entry.verdict, judgeItem, sides?_eq_some_iff.mpr hsides]
        exact h

theorem good_iff {e : Entry} : e.Good ↔ e.verdict.toOption.isSome = true := by
  constructor
  · rintro ⟨name, kind, h⟩
    rw [verdict_eq_ok_iff.mpr h]
    rfl
  · intro h
    cases hverdict : e.verdict with
    | error notice =>
        rw [hverdict] at h
        exact nomatch h
    | ok given => exact ⟨given.1, given.2, verdict_eq_ok_iff.mp hverdict⟩

instance : DecidablePred Entry.Good := fun _ => decidable_of_iff _ good_iff.symm

theorem toOption_verdict_eq_some_iff {e : Entry} {name : String} {kind : Kind} :
    e.verdict.toOption = some (name, kind) ↔ e.Gives name kind := by
  rw [← verdict_eq_ok_iff]
  cases e.verdict with
  | error notice => simp [Except.toOption]
  | ok given => simp [Except.toOption]

/-- Whatever an entry is dropped for is a warning. -/
theorem level_of_verdict {e : Entry} {notice : Notice} (h : e.verdict = .error notice) :
    notice.level = .warn := by
  have hjudge : ∀ {word canonical : Value}, judge word canonical = .error notice →
      notice.level = .warn := by
    intro word canonical h
    unfold judge at h
    split at h
    · split at h
      · split at h
        · exact nomatch h
        · rw [← Except.error.inj h]
          rfl
      · rw [← Except.error.inj h]
        rfl
    · rw [← Except.error.inj h]
      rfl
  cases e with
  | pair word canonical => exact hjudge h
  | item value =>
      rw [Entry.verdict, judgeItem] at h
      cases hsides : sides? value with
      | none =>
          rw [hsides] at h
          rw [← Except.error.inj h]
          rfl
      | some sides =>
          rw [hsides] at h
          exact hjudge h

/-! ### What a section gives -/

/-- The aliases and kinds that entries give, in order. -/
def given (entries : List Entry) : List (String × Kind) :=
  entries.filterMap fun e => e.verdict.toOption

/-- What is loaded from entries. -/
def loadedFrom (entries : List Entry) : Loaded :=
  .ofVerdicts (entries.map Entry.verdict)

theorem overlay_loadedFrom (entries : List Entry) :
    (loadedFrom entries).overlay = .ofPairs (given entries) := by
  show Overlay.ofPairs ((entries.map Entry.verdict).filterMap Except.toOption) = _
  rw [List.filterMap_map]
  rfl

theorem Section.ofValue_eq {document : Value} {entries : List Entry}
    (h : Section document entries) : ofValue document = .ok (loadedFrom entries) := by
  cases h with
  | mapping h =>
      simp only [ofValue, h, verdicts?, loadedFrom, List.map_map]
      rfl
  | list h =>
      simp only [ofValue, h, verdicts?, loadedFrom, List.map_map]
      rfl

theorem parse?_of_read {text : String} {document : Value} (h : Yaml.read text = .ok document) :
    parse? text = ofValue document := by
  unfold parse?
  rw [h]

/-- Some entry is the last good one for a word, and gives it a kind. -/
def LastGives (entries : List Entry) (word : String) (kind : Kind) : Prop :=
  ∃ front e back name, entries = front ++ e :: back ∧ e.Gives name kind ∧
    Overlay.key name = Overlay.key word ∧
    ∀ e' ∈ back, ∀ name' kind', e'.Gives name' kind' → Overlay.key name' ≠ Overlay.key word

theorem accepts_of_given {entries : List Entry} :
    ∀ call ∈ given entries, Overlay.accepts call.1 call.2 = true := by
  intro call hcall
  obtain ⟨e, -, he⟩ := List.mem_filterMap.mp hcall
  obtain ⟨-, -, -, hkind, hvisible⟩ := toOption_verdict_eq_some_iff.mp he
  exact Overlay.accepts_iff.mpr ⟨hvisible, resolve?_not_structural hkind⟩

/-- **An alias has the kind that its last good entry gives it.** -/
theorem find?_given_iff {entries : List Entry} {word : String} {kind : Kind} :
    (Overlay.ofPairs (given entries)).find? word = some kind ↔ LastGives entries word kind := by
  rw [Overlay.find?_ofPairs_eq_some_iff accepts_of_given]
  constructor
  · rintro ⟨front, name, back, hgiven, hname, hback⟩
    -- The good entry that counts stands somewhere between bad ones.
    obtain ⟨before, rest, rfl, -, hrest⟩ := List.filterMap_eq_append_iff.mp hgiven
    obtain ⟨bad, e, after, rfl, -, he, hafter⟩ := List.filterMap_eq_cons_iff.mp hrest
    refine ⟨before ++ bad, e, after, name, by simp, toOption_verdict_eq_some_iff.mp he, hname, ?_⟩
    intro e' he' name' kind' hgives
    have hmem : (name', kind') ∈ given after :=
      List.mem_filterMap.mpr ⟨e', he', toOption_verdict_eq_some_iff.mpr hgives⟩
    exact hback (name', kind') (hafter ▸ hmem)
  · rintro ⟨front, e, back, name, rfl, hgives, hname, hback⟩
    have he : e.verdict.toOption = some (name, kind) := toOption_verdict_eq_some_iff.mpr hgives
    refine ⟨given front, name, given back, ?_, hname, ?_⟩
    · simp only [given, List.filterMap_append, List.filterMap_cons, he]
    · intro call hcall
      obtain ⟨e', he', hcall'⟩ := List.mem_filterMap.mp hcall
      exact hback e' he' call.1 call.2 (toOption_verdict_eq_some_iff.mp hcall')

/-- Bad entries give nothing. -/
theorem given_filter_good (entries : List Entry) :
    given (entries.filter fun e => e.Good) = given entries := by
  rw [given, given, List.filterMap_filter]
  refine List.filterMap_congr fun e _ => ?_
  by_cases hgood : e.Good
  · simp [hgood]
  · have hnone : e.verdict.toOption = none := by
      rw [← Option.not_isSome_iff_eq_none, ← good_iff]
      exact hgood
    simp [hgood, hnone]

/-- **There is a warning for each bad entry, and there are no others.** -/
theorem warnings_loadedFrom (entries : List Entry) :
    ((loadedFrom entries).notices.filter fun notice => notice.level = .warn).length
      = entries.countP fun e => ¬ e.Good := by
  have hwarn : ∀ notice ∈ (loadedFrom entries).notices, notice.level = .warn := by
    intro notice hnotice
    obtain ⟨verdict, hverdict, heq⟩ := List.mem_filterMap.mp hnotice
    obtain ⟨e, -, rfl⟩ := List.mem_map.mp hverdict
    cases he : e.verdict with
    | ok given =>
        rw [he] at heq
        exact nomatch heq
    | error notice' =>
        rw [he] at heq
        obtain rfl : notice' = notice := Option.some.inj heq
        exact level_of_verdict he
  rw [List.filter_eq_self.mpr (by simpa using hwarn)]
  show ((entries.map Entry.verdict).filterMap _).length = _
  rw [List.filterMap_map, List.length_filterMap_eq_countP]
  refine List.countP_congr fun e _ => ?_
  rw [decide_eq_true_iff, good_iff, Function.comp_apply]
  cases e.verdict with
  | ok given => simp [Except.toOption]
  | error notice => simp [Except.toOption]

/-- A pair of the mapping form as an item of the list form. -/
def asItem (pair : Value × Value) : Value :=
  .mapping [(.string "alias", pair.1), (.string "canonical", pair.2)]

theorem verdict_asItem (pair : Value × Value) :
    (Entry.item (asItem pair)).verdict = (Entry.pair pair.1 pair.2).verdict := by
  have hsides : sides? (asItem pair) = some pair :=
    sides?_eq_some_iff.mpr (.item rfl (by simp [Yaml.Value.untagged]) rfl rfl)
  simp only [Entry.verdict, judgeItem, hsides]

/-- Both forms of a section load alike. -/
theorem loadedFrom_asItem (pairs : List (Value × Value)) :
    loadedFrom ((pairs.map asItem).map .item)
      = loadedFrom (pairs.map fun pair => .pair pair.1 pair.2) := by
  simp only [loadedFrom, List.map_map]
  refine congrArg Loaded.ofVerdicts (List.map_congr_left fun pair _ => ?_)
  exact verdict_asItem pair

/-- What is loaded accounts for all entries. -/
structure Accounted (entries : List Entry) (loaded : Loaded) : Prop where
  /-- A word has the kind that the last good entry for it gives, if there is one. -/
  last : ∀ word kind, loaded.overlay.find? word = some kind ↔ LastGives entries word kind
  /-- There are as many warnings as bad entries. -/
  warnings : (loaded.notices.filter fun notice => notice.level = .warn).length
    = entries.countP fun e => ¬ e.Good
  /-- No word gets a structural kind. -/
  kinds : ∀ entry ∈ loaded.overlay.toList, entry.2.isStructural = false

/-- **A section of aliases loads, and loads what its good entries give.**  Bad entries do not
matter to the overlay wherever they stand, and it does not matter in which of the two forms
the entries are written. -/
theorem good_entries_load (document : Value) (entries : List Entry)
    (h : Section document entries) :
    ∃ loaded, ofValue document = .ok loaded ∧ Accounted entries loaded ∧
      (∀ text, Yaml.read text = .ok document → parse? text = .ok loaded) ∧
      (∀ document' entries', Section document' entries' →
        (entries'.filter fun e => e.Good) = (entries.filter fun e => e.Good) →
          ∃ loaded', ofValue document' = .ok loaded' ∧ loaded'.overlay = loaded.overlay) ∧
      (∀ pairs, document.get? "aliases" = some (.mapping pairs) →
        ∀ document', document'.get? "aliases" = some (.sequence (pairs.map asItem)) →
          ∃ loaded', ofValue document' = .ok loaded' ∧ loaded'.overlay = loaded.overlay ∧
            loaded'.notices = loaded.notices) := by
  refine ⟨loadedFrom entries, h.ofValue_eq, ⟨?_, warnings_loadedFrom entries, ?_⟩, ?_, ?_, ?_⟩
  · intro word kind
    rw [overlay_loadedFrom, find?_given_iff]
  · intro entry hentry
    exact ((loadedFrom entries).overlay.proper entry hentry).2
  · intro text htext
    exact (parse?_of_read htext).trans h.ofValue_eq
  · intro document' entries' h' hgood
    refine ⟨loadedFrom entries', h'.ofValue_eq, ?_⟩
    rw [overlay_loadedFrom, overlay_loadedFrom, ← given_filter_good, hgood, given_filter_good]
  · intro pairs hpairs document' hitems
    have hsame : loadedFrom ((pairs.map asItem).map .item) = loadedFrom entries := by
      rw [loadedFrom_asItem]
      have hboth := (Section.mapping hpairs).ofValue_eq.symm.trans h.ofValue_eq
      exact Except.ok.inj hboth
    exact ⟨_, (Section.list hitems).ofValue_eq, by rw [hsame], by rw [hsame]⟩

/-- The second good entry for a word counts, and the bad ones around it are two warnings. -/
theorem good_entries_load_peer :
    let pairs : List (Value × Value) :=
      [(.string "peer", .string "look"), (.string "PEER", .string "eol"),
        (.string " Peer", .string "strike"), (.bool true, .null)]
    let entries : List Entry := pairs.map fun pair => .pair pair.1 pair.2
    Section (.mapping [(.string "aliases", .mapping pairs)]) entries ∧
      ∃ loaded, ofValue (.mapping [(.string "aliases", .mapping pairs)]) = .ok loaded ∧
        loaded.overlay.find? "peer" = some (.verb .attack) ∧
        (loaded.notices.filter fun notice => notice.level = .warn).length = 2 := by
  intro pairs entries
  have hsection : Section (.mapping [(.string "aliases", .mapping pairs)]) entries := .mapping rfl
  obtain ⟨loaded, hloaded, haccounted, -⟩ := good_entries_load _ _ hsection
  refine ⟨hsection, loaded, hloaded, (haccounted.last "peer" (.verb .attack)).mpr ?_, ?_⟩
  · rw [← find?_given_iff]
    decide +kernel
  · rw [haccounted.warnings]
    decide +kernel

/-- A list item with a key that is no string is dropped, though it has both keys and both
sides are as they should be. -/
theorem stray_key_drops_item :
    let item : Value := .mapping [(.string "alias", .string "x"),
      (.string "canonical", .string "look"), (.number (.int 1), .string "y")]
    item.get? "alias" = some (.string "x") ∧ item.get? "canonical" = some (.string "look") ∧
      resolve? "look" = some (.verb .look) ∧ Text.trim "x" ≠ "" ∧
      ∃ loaded, ofValue (.mapping [(.string "aliases", .sequence [item])]) = .ok loaded ∧
        loaded.overlay.find? "x" = none ∧ loaded.notices = [.entryMalformed] := by
  intro item
  have hsection : Section (.mapping [(.string "aliases", .sequence [item])]) [.item item] :=
    @Section.list _ [item] rfl
  refine ⟨rfl, rfl, by decide +kernel, by decide +kernel, _, hsection.ofValue_eq, ?_, rfl⟩
  decide +kernel

end Adventure.Aliases
