/-
What the tables of case say of one code point.

A code point with a longer form has an entry of its own.  Any other is sent by the first run that
holds it, and all that a run gives lies between the images of its ends, so that whatever is known of
the runs of a table is known of the code points that come out of it.
-/
import Adventure.Text.CaseRun
import Mathlib.Data.List.Basic

namespace Adventure.Text

/-- What is looked up is in the table. -/
theorem mem_of_lookup {α : Type} {table : List (Nat × α)} {n : Nat} {form : α}
    (h : table.lookup n = some form) : (n, form) ∈ table := by
  obtain ⟨front, back, rfl, -⟩ := List.lookup_eq_some_iff.mp h
  simp

namespace CaseRun

theorem send_between {run : CaseRun} {n : Nat} (h : run.holds n = true) :
    run.image ≤ run.send n ∧ run.send n ≤ run.image + (run.last - run.first) := by
  have hlast : n ≤ run.last := by
    simp only [holds, Bool.and_eq_true, decide_eq_true_eq] at h
    exact h.1.2
  rw [send]
  omega

/-- What can become of a code point in runs. -/
inductive Applied (runs : List CaseRun) (n : Nat) : Nat → Prop
  | sent {run : CaseRun} (hrun : run ∈ runs) (hholds : run.holds n = true) :
      Applied runs n (run.send n)
  | stays (hruns : ∀ run ∈ runs, run.holds n = false) : Applied runs n n

theorem applied_apply (runs : List CaseRun) (n : Nat) : Applied runs n (apply runs n) := by
  unfold apply
  cases hfind : runs.find? (·.holds n) with
  | some run =>
      exact .sent (List.mem_of_find?_eq_some hfind) (by simpa using List.find?_some hfind)
  | none => exact .stays (by simpa using hfind)

/-- A code point stays if no run holds it. -/
theorem apply_of_not_holds {runs : List CaseRun} {n : Nat}
    (h : ∀ run ∈ runs, run.holds n = false) : apply runs n = n := by
  have happlied := applied_apply runs n
  generalize apply runs n = image at happlied ⊢
  cases happlied with
  | sent hrun hholds =>
      rw [h _ hrun] at hholds
      exact Bool.noConfusion hholds
  | stays => rfl

end CaseRun

end Adventure.Text
