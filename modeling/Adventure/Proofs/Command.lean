/-
A command comes back from the text it is written as.

A record is an object with a field under each of its names.  The reader asks for every name
once and refuses a field that is there twice, so what carries the round trip of a record is
that its names are different; the values read back one by one.  A column has to be a machine
word, which is all that can be asked for: the reader takes no other numbers.
-/
import Adventure.Command.Json
import Adventure.Proofs.Json

namespace Adventure

namespace Json

/-! ### Reading records -/

theorem text?_ofText (text : String) : (ofText text).text? = some text :=
  unescape?_escape text

theorem digitsValue_toDigits (n : Nat) : digitsValue (Nat.toDigits 10 n) = n :=
  Nat.ofDigitChars_toDigits (by decide) (by decide)

theorem word64?_ofNat {n : Nat} (h : n < UInt64.size) : (ofNat n).word64? = some n := by
  have hall : (Nat.toDigits 10 n).all Char.isDigit = true := List.all_eq_true.mpr isDigit_of_mem
  have hle : n ≤ 0xFFFFFFFFFFFFFFFF := Nat.le_of_lt_succ h
  simp only [word64?, ofNat, digitsValue_toDigits, hall, hle]
  rfl

/-- The names that are written need no escapes. -/
theorem escape_name : ∀ name ∈ ParseError.fieldNames ++ Command.fieldNames,
    escape name = name.toList := by
  decide +kernel

/-- Values written under names. -/
def fields (parts : List (String × Json)) : List (List Char × Json) :=
  parts.map fun part => (escape part.1, part.2)

theorem written_object {parts : List (String × Json)} (h : ∀ part ∈ parts, Written part.2) :
    Written (.object (fields parts)) := by
  refine .object ?_ ?_
  · intro field hfield
    obtain ⟨part, -, rfl⟩ := List.mem_map.mp hfield
    exact ⟨part.1, rfl⟩
  · intro field hfield
    obtain ⟨part, hpart, rfl⟩ := List.mem_map.mp hfield
    exact h part hpart

theorem mapM_eq_some_map {α β : Type} {f : α → Option β} {g : α → β} {items : List α}
    (h : ∀ item ∈ items, f item = some (g item)) : items.mapM f = some (items.map g) := by
  induction items with
  | nil => rfl
  | cons item rest ih =>
      obtain ⟨hitem, hrest⟩ := List.forall_mem_cons.mp h
      rw [List.mapM_cons, hitem, ih hrest]
      rfl

theorem namedFields?_fields (parts : List (String × Json)) :
    namedFields? (fields parts) = some parts := by
  rw [namedFields?, fields, List.mapM_map, mapM_eq_some_map (g := id), List.map_id]
  intro part _
  simp [unescape?_escape]

theorem field?_of_mem {parts : List (String × Json)} (hnames : (parts.map Prod.fst).Nodup)
    {part : String × Json} (h : part ∈ parts) : field? part.1 parts = some (some part.2) := by
  have hfilter : (parts.filter fun other => other.1 == part.1) = [part] := by
    induction parts with
    | nil => exact nomatch h
    | cons first rest ih =>
        rw [List.map_cons, List.nodup_cons] at hnames
        obtain ⟨hfirst, hrest⟩ := hnames
        rcases List.mem_cons.mp h with rfl | hmem
        · have hnone : ∀ other ∈ rest, ¬(other.1 == part.1) = true := by
            intro other hother heq
            exact hfirst (List.mem_map.mpr ⟨other, hother, by simpa using heq⟩)
          rw [List.filter_cons_of_pos (by simp), List.filter_eq_nil_iff.mpr hnone]
        · have hne : ¬(first.1 == part.1) = true := by
            intro heq
            exact hfirst (List.mem_map.mpr ⟨part, hmem, by simpa using (beq_iff_eq.mp heq).symm⟩)
          rw [List.filter_cons, if_neg hne, ih hrest hmem]
  rw [field?, hfilter]

/-- A record with different names reads back in the order of its names. -/
theorem record?_object {parts : List (String × Json)} (hnames : (parts.map Prod.fst).Nodup) :
    (object (fields parts)).record? (parts.map Prod.fst)
      = some (parts.map fun part => some part.2) := by
  rw [record?, namedFields?_fields, Option.bind_eq_bind, Option.bind_some, List.mapM_map]
  exact mapM_eq_some_map fun part hpart => field?_of_mem hnames hpart

end Json

namespace ParseError

/-- The parts of an error under their names. -/
def parts (e : ParseError) : List (String × Json) :=
  [("message", .ofText e.message), ("column", .ofNat e.column), ("input", .ofText e.input)]

theorem toJson_eq (e : ParseError) : e.toJson = .object (Json.fields e.parts) := by
  simp only [toJson, parts, Json.fields, List.map_cons, List.map_nil]
  rw [Json.escape_name "message" (by decide), Json.escape_name "column" (by decide),
    Json.escape_name "input" (by decide)]

theorem written_toJson (e : ParseError) : e.toJson.Written := by
  rw [toJson_eq]
  refine Json.written_object ?_
  simp only [parts, List.forall_mem_cons]
  exact ⟨.ofText _, .ofNat _, .ofText _, by simp⟩

/-- **An error reads back if its column is a machine word.** -/
theorem ofJson?_toJson {e : ParseError} (h : e.column < UInt64.size) :
    ofJson? e.toJson = some e := by
  have hrecord : e.toJson.record? fieldNames = some (e.parts.map fun part => some part.2) := by
    have hnames : (e.parts.map Prod.fst).Nodup := by
      show fieldNames.Nodup
      decide
    rw [toJson_eq]
    exact Json.record?_object hnames
  simp [ofJson?, hrecord, parts, Json.text?_ofText, Json.word64?_ofNat h]

end ParseError

namespace Action

theorem mem_all (a : Action) : a ∈ all := by
  cases a with
  | unknown => simp [all]
  | perform v =>
      cases v with
      | _ => simp [all, Verb.all]

/-- Different actions have different labels. -/
theorem ofLabel?_label (a : Action) : ofLabel? a.label = some a := by
  have hall : ∀ a ∈ all, ofLabel? a.label = some a := by decide +kernel
  exact hall a (mem_all a)

theorem ofJson?_toJson (a : Action) : ofJson? a.toJson = some a := by
  simp only [toJson, ofJson?, Json.ofText, Json.unescape?_escape]
  exact ofLabel?_label a

end Action

namespace Command

/-- The parts of a command under their names. -/
def parts (c : Command) : List (String × Json) :=
  [("action", c.action.toJson), ("argument", .ofText c.argument), ("target", .ofText c.target),
   ("preposition", optionalJson .ofText c.preposition), ("object", optionalJson .ofText c.object),
   ("error", optionalJson ParseError.toJson c.error)]

theorem toJson_eq (c : Command) : c.toJson = .object (Json.fields c.parts) := by
  simp only [toJson, parts, Json.fields, List.map_cons, List.map_nil]
  rw [Json.escape_name "action" (by decide), Json.escape_name "argument" (by decide),
    Json.escape_name "target" (by decide), Json.escape_name "preposition" (by decide),
    Json.escape_name "object" (by decide), Json.escape_name "error" (by decide)]

theorem written_optional {α : Type} {toJson : α → Json} (h : ∀ a, (toJson a).Written)
    (part : Option α) : (optionalJson toJson part).Written := by
  cases part with
  | none => exact .null
  | some a => exact h a

theorem written_toJson (c : Command) : c.toJson.Written := by
  rw [toJson_eq]
  refine Json.written_object ?_
  simp only [parts, List.forall_mem_cons]
  exact ⟨.ofText _, .ofText _, .ofText _, written_optional .ofText _, written_optional .ofText _,
    written_optional ParseError.written_toJson _, by simp⟩

theorem optionalText?_optionalJson (part : Option String) :
    (optionalJson .ofText part).optionalText? = some part := by
  cases part with
  | none => rfl
  | some text =>
      show (Json.ofText text).text?.map some = some (some text)
      rw [Json.text?_ofText, Option.map_some]

theorem optionalError?_optionalJson {part : Option ParseError}
    (h : ∀ e, part = some e → e.column < UInt64.size) :
    optionalError? (optionalJson ParseError.toJson part) = some part := by
  cases part with
  | none => rfl
  | some e =>
      show (ParseError.ofJson? e.toJson).map some = some (some e)
      rw [ParseError.ofJson?_toJson (h e rfl), Option.map_some]

/-- **A command reads back if the column of its error is a machine word.** -/
theorem ofJson?_toJson {c : Command} (h : ∀ e, c.error = some e → e.column < UInt64.size) :
    ofJson? c.toJson = some c := by
  have hrecord : c.toJson.record? fieldNames = some (c.parts.map fun part => some part.2) := by
    have hnames : (c.parts.map Prod.fst).Nodup := by
      show fieldNames.Nodup
      decide
    rw [toJson_eq]
    exact Json.record?_object hnames
  simp [ofJson?, hrecord, parts, Json.text?_ofText, Action.ofJson?_toJson,
    optionalText?_optionalJson, optionalError?_optionalJson h]

/-- **The text of a command reads back.** -/
theorem read?_render {c : Command} (h : ∀ e, c.error = some e → e.column < UInt64.size) :
    read? c.render = some c := by
  simp only [read?, render, Json.read?_render c.written_toJson, Option.bind_eq_bind,
    Option.bind_some, ofJson?_toJson h]

/-- The text of a command is one line. -/
theorem printable_render (c : Command) : Json.Printable c.render.toList := by
  rw [render, Json.render, String.toList_ofList]
  exact c.written_toJson.printable

end Command

end Adventure
