/-
What a worklist reaches. The loop is read as steps between states: what is done,
and the queue. A finished loop has an empty queue, and every loop finishes, since
`run` is defined on all states and is the end of a chain of steps. What is done at
the end is the least set that has the known items of the start and, with an item,
the known items that it leads to.

The two inclusions come from one invariant. What is done or waits in the queue
belongs to the least set; and what the start or a done item asks for is done or
waits in the queue, so that with an empty queue nothing is left out.
-/

import Mathlib.Logic.Relation
import SwiftSlice.Reference.Worklist

namespace SwiftSlice

namespace Worklist

variable {α : Type} {known : List α} {next : α → List α} {start : List α}

/-! ### The least set -/

/-- The least set of known items that has those of the start and is closed under what they lead
to. -/
inductive Leads (known : List α) (next : α → List α) (start : List α) : α → Prop
  | ofStart {item : α} (isKnown : item ∈ known) (member : item ∈ start) :
      Leads known next start item
  | ofNext {item other : α} (leads : Leads known next start item) (isKnown : other ∈ known)
      (member : other ∈ next item) : Leads known next start other

/-- More known items, more that they lead to and more to start from lead to no less. -/
theorem Leads.mono {more begin : List α} {other : α → List α} {item : α} (isKnown : known ⊆ more)
    (follows : ∀ item, next item ⊆ other item) (starts : start ⊆ begin)
    (leads : Leads known next start item) : Leads more other begin item := by
  induction leads with
  | ofStart inKnown member => exact .ofStart (isKnown inKnown) (starts member)
  | ofNext _ inKnown member inductionHypothesis =>
    exact .ofNext inductionHypothesis (isKnown inKnown) (follows _ member)

/-- What a start leads to is what one of its two parts leads to: an item is asked for by a single
other item, so no two parts of the start are ever needed together. -/
theorem leads_iff_of_parts {left right : List α}
    (parts : ∀ item, item ∈ start ↔ item ∈ left ∨ item ∈ right) (item : α) :
    Leads known next start item ↔ Leads known next left item ∨ Leads known next right item := by
  constructor
  · intro leads
    induction leads with
    | ofStart isKnown member => exact ((parts _).1 member).imp (.ofStart isKnown) (.ofStart isKnown)
    | ofNext _ isKnown member inductionHypothesis =>
      exact inductionHypothesis.imp (.ofNext · isKnown member) (.ofNext · isKnown member)
  · have fromLeft : left ⊆ start := fun other member => (parts other).2 (.inl member)
    have fromRight : right ⊆ start := fun other member => (parts other).2 (.inr member)
    rintro (leads | leads)
    · exact leads.mono (List.Subset.refl _) (fun _ => List.Subset.refl _) fromLeft
    · exact leads.mono (List.Subset.refl _) (fun _ => List.Subset.refl _) fromRight

/-! ### Steps -/

/-- One turn of the loop, on what is done and the queue: the front of the queue is passed over, or
it is done and what it leads to goes to the back. -/
inductive Step (known : List α) (next : α → List α) : List α × List α → List α × List α → Prop
  | pass {done queue : List α} {item : α} (stale : ¬ (item ∈ known ∧ ¬ item ∈ done)) :
      Step known next (done, item :: queue) (done, queue)
  | expand {done queue : List α} {item : α} (isKnown : item ∈ known) (new : ¬ item ∈ done) :
      Step known next (done, item :: queue) (item :: done, queue ++ next item)

/-- What holds of every state of the loop. -/
structure Invariant (known : List α) (next : α → List α) (start : List α)
    (state : List α × List α) : Prop where
  doneLeads : ∀ item ∈ state.1, Leads known next start item
  queueLeads : ∀ item ∈ state.2, item ∈ known → Leads known next start item
  startCovered : ∀ item ∈ start, item ∈ known → item ∈ state.1 ∨ item ∈ state.2
  nextCovered : ∀ item ∈ state.1, ∀ other ∈ next item, other ∈ known →
    other ∈ state.1 ∨ other ∈ state.2

theorem invariant_start : Invariant known next start ([], start) where
  doneLeads := fun _ member => absurd member List.not_mem_nil
  queueLeads := fun _ member isKnown => .ofStart isKnown member
  startCovered := fun _ member _ => .inr member
  nextCovered := fun _ member => absurd member List.not_mem_nil

/-- What is done or waits, and is known, is still so after a step. -/
theorem Step.covered {before after : List α × List α} (step : Step known next before after)
    {item : α} (isKnown : item ∈ known) (covered : item ∈ before.1 ∨ item ∈ before.2) :
    item ∈ after.1 ∨ item ∈ after.2 := by
  cases step with
  | @pass done queue front stale =>
    rcases covered with isDone | waits
    · exact .inl isDone
    · rcases List.mem_cons.1 waits with rfl | inQueue
      · exact .inl (Classical.not_not.1 fun new => stale ⟨isKnown, new⟩)
      · exact .inr inQueue
  | @expand done queue front frontKnown new =>
    rcases covered with isDone | waits
    · exact .inl (List.mem_cons_of_mem front isDone)
    · rcases List.mem_cons.1 waits with rfl | inQueue
      · exact .inl List.mem_cons_self
      · exact .inr (List.mem_append_left _ inQueue)

/-- A step keeps the invariant. -/
theorem Step.invariant {before after : List α × List α} (step : Step known next before after)
    (holds : Invariant known next start before) : Invariant known next start after := by
  have startCovered : ∀ item ∈ start, item ∈ known → item ∈ after.1 ∨ item ∈ after.2 :=
    fun item member isKnown => step.covered isKnown (holds.startCovered item member isKnown)
  have nextCovered : ∀ item ∈ before.1, ∀ other ∈ next item, other ∈ known →
      other ∈ after.1 ∨ other ∈ after.2 := fun item isDone other member isKnown =>
    step.covered isKnown (holds.nextCovered item isDone other member isKnown)
  cases step with
  | @pass done queue front stale =>
    refine ⟨holds.doneLeads, fun item member => ?_, startCovered, nextCovered⟩
    exact holds.queueLeads item (List.mem_cons_of_mem front member)
  | @expand done queue front frontKnown new =>
    have frontLeads : Leads known next start front :=
      holds.queueLeads front List.mem_cons_self frontKnown
    refine ⟨fun item member => ?_, fun item member isKnown => ?_, startCovered,
      fun item member other follows isKnown => ?_⟩
    · rcases List.mem_cons.1 member with rfl | isDone
      · exact frontLeads
      · exact holds.doneLeads item isDone
    · rcases List.mem_append.1 member with inQueue | follows
      · exact holds.queueLeads item (List.mem_cons_of_mem front inQueue) isKnown
      · exact .ofNext frontLeads isKnown follows
    · rcases List.mem_cons.1 member with rfl | isDone
      · exact .inr (List.mem_append_right _ follows)
      · exact nextCovered item isDone other follows isKnown

/-- Every state of a loop has the invariant. -/
theorem invariant_of_steps {state : List α × List α}
    (steps : Relation.ReflTransGen (Step known next) ([], start) state) :
    Invariant known next start state := by
  induction steps with
  | refl => exact invariant_start
  | tail _ step inductionHypothesis => exact step.invariant inductionHypothesis

/-- What is done when the queue is empty is the least set. -/
theorem Invariant.mem_done_iff {done : List α}
    (holds : Invariant known next start (done, [])) (item : α) :
    item ∈ done ↔ Leads known next start item := by
  refine ⟨holds.doneLeads item, fun leads => ?_⟩
  induction leads with
  | ofStart isKnown member =>
    exact (holds.startCovered _ member isKnown).resolve_right List.not_mem_nil
  | ofNext _ isKnown member isDone =>
    exact (holds.nextCovered _ isDone _ member isKnown).resolve_right List.not_mem_nil

/-! ### The loop -/

variable [DecidableEq α]

/-- The loop finishes: steps lead from any state to one with an empty queue. -/
theorem run_steps (known : List α) (next : α → List α) (done queue : List α) :
    Relation.ReflTransGen (Step known next) (done, queue) (run known next done queue, []) := by
  fun_induction run known next done queue with
  | case1 done => exact .refl
  | case2 done item queue fresh inductionHypothesis =>
    exact .head (.expand fresh.1 fresh.2) inductionHypothesis
  | case3 done item queue stale inductionHypothesis =>
    exact .head (.pass stale) inductionHypothesis

/-- The loop reaches exactly the least set. -/
theorem mem_reach_iff (known : List α) (next : α → List α) (start : List α) (item : α) :
    item ∈ reach known next start ↔ Leads known next start item :=
  (invariant_of_steps (run_steps known next [] start)).mem_done_iff item

end Worklist

end SwiftSlice
