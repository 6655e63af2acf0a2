/-
Reaching everything from a start. A worklist takes items from the front of a
queue; an item that is known and not yet done is done now, and what it leads to
goes to the back of the queue. The queue may hold items twice, and items that are
not known, which are passed over. The run ends because each step either does one
of the finitely many known items or shortens the queue.
-/

namespace SwiftSlice

namespace Worklist

variable {α : Type} [DecidableEq α]

/-- The number of known items that are not done. -/
def left (known done : List α) : Nat :=
  (known.filter fun item => !done.contains item).length

/-- Doing a known item leaves fewer to do. -/
theorem left_cons_lt (known done : List α) (item : α) (isKnown : item ∈ known)
    (new : ¬ item ∈ done) : left known (item :: done) < left known done := by
  have fewer : (known.filter fun other => !(item :: done).contains other) =
      (known.filter fun other => !done.contains other).filter fun other => other ≠ item := by
    rw [List.filter_filter]
    refine List.filter_congr fun other _ => ?_
    simp
  rw [left, left, fewer, List.length_filter_lt_length_iff_exists]
  exact ⟨item, List.mem_filter.2 ⟨isKnown, by simpa using new⟩, by simp⟩

/-- Does the items of a queue and all that they lead to, latest first, on top of what is done. -/
def run (known : List α) (next : α → List α) (done : List α) : List α → List α
  | [] => done
  | item :: queue =>
    if _fresh : item ∈ known ∧ ¬ item ∈ done then
      run known next (item :: done) (queue ++ next item)
    else run known next done queue
termination_by queue => (left known done, queue.length)
decreasing_by
  · exact Prod.Lex.left _ _ (left_cons_lt known done item _fresh.1 _fresh.2)
  · exact Prod.Lex.right _ (by simp)

/-- The known items that a start leads to. -/
def reach (known : List α) (next : α → List α) (start : List α) : List α :=
  run known next [] start

end Worklist

end SwiftSlice
