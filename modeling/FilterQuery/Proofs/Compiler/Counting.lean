import Mathlib.Logic.Function.Iterate
import FilterQuery.Compiler.Basic

/-!
# The loop that counts filters

The filters of a condition are counted by a loop over a stack of pending conditions. A round takes
the uppermost condition from the stack and counts it if it is a filter; otherwise it puts the two
parts of the condition in its place, so that the stack grows. Two things are known of every round:

* there is one node less on the stack (`totalNodes_round`), so that the loop ends after as many
  rounds as the condition has nodes;
* the filters counted and those on the stack are as many as before (`filters_round`), so that all
  filters are counted in the end.
-/

namespace FilterQuery

theorem Condition.size_eq_length_filters (condition : Condition) :
    condition.size = condition.filters.length := by
  induction condition with
  | filter f => rfl
  | and l r ihl ihr | or l r ihl ihr => rw [size, filters, List.length_append, ihl, ihr]

/-- The state of the loop: the filters counted so far and the conditions to be looked at, the
uppermost first. -/
structure Counting where
  counted : Nat
  pending : List Condition

namespace Counting

open Condition

/-- The state at the start of counting `c`. -/
def start (c : Condition) : Counting := ⟨0, [c]⟩

/-- One round of the loop. It changes nothing once the stack is empty. -/
def round : Counting → Counting
  | ⟨n, []⟩ => ⟨n, []⟩
  | ⟨n, .filter _ :: pending⟩ => ⟨n + 1, pending⟩
  | ⟨n, .and l r :: pending⟩ | ⟨n, .or l r :: pending⟩ => ⟨n, r :: l :: pending⟩

/-- The state after `k` rounds. -/
def after (s : Counting) (k : Nat) : Counting := round^[k] s

/-- The number of filters counted and on the stack. -/
def filters (s : Counting) : Nat := s.counted + (s.pending.flatMap Condition.filters).length

variable {s : Counting}

theorem after_succ (s : Counting) (k : Nat) : s.after (k + 1) = (s.after k).round :=
  Function.iterate_succ_apply' _ _ _

/-! ### One round -/

/-- Counting goes on from the state behind the round. -/
theorem countPending_round (s : Counting) :
    countPending s.round.counted s.round.pending = countPending s.counted s.pending := by
  obtain ⟨n, _ | ⟨_ | _ | _, pending⟩⟩ := s
  · rfl
  all_goals rw [round, countPending]

theorem filters_round (s : Counting) : s.round.filters = s.filters := by
  obtain ⟨n, _ | ⟨_ | _ | _, pending⟩⟩ := s
  · rfl
  all_goals
    simp only [round, filters, List.flatMap_cons, List.length_append, Condition.filters,
      List.length_singleton]
    omega

theorem totalNodes_round (s : Counting) :
    totalNodes s.round.pending = totalNodes s.pending - 1 := by
  obtain ⟨n, _ | ⟨_ | _ | _, pending⟩⟩ := s
  · rfl
  all_goals
    simp only [round, totalNodes, nodes]
    omega

/-! ### All rounds -/

theorem countPending_after (s : Counting) (k : Nat) :
    countPending (s.after k).counted (s.after k).pending = countPending s.counted s.pending := by
  induction k with
  | zero => rfl
  | succ k ih => rw [after_succ, countPending_round, ih]

theorem filters_after (s : Counting) (k : Nat) : (s.after k).filters = s.filters := by
  induction k with
  | zero => rfl
  | succ k ih => rw [after_succ, filters_round, ih]

theorem totalNodes_after (s : Counting) (k : Nat) :
    totalNodes (s.after k).pending = totalNodes s.pending - k := by
  induction k with
  | zero => rfl
  | succ k ih => rw [after_succ, totalNodes_round, ih, Nat.sub_sub]

theorem nodes_pos (c : Condition) : 0 < c.nodes := by
  cases c <;> simp [nodes]

theorem totalNodes_eq_zero_iff (pending : List Condition) :
    totalNodes pending = 0 ↔ pending = [] := by
  cases pending with
  | nil => exact ⟨fun _ => rfl, fun _ => rfl⟩
  | cons c cs =>
    have hpos := nodes_pos c
    simp only [totalNodes, reduceCtorEq, iff_false]
    omega

/-- The stack of the loop that counts `c` is empty once there were as many rounds as `c` has nodes,
and not before. -/
theorem pending_after_start_eq_nil_iff (c : Condition) (k : Nat) :
    ((start c).after k).pending = [] ↔ c.nodes ≤ k := by
  have hstart : totalNodes (start c).pending = c.nodes := rfl
  rw [← totalNodes_eq_zero_iff, totalNodes_after, hstart]
  omega

/-- When the stack is empty all filters are counted. -/
theorem after_start_nodes (c : Condition) : (start c).after c.nodes = ⟨c.size, []⟩ := by
  have hpending := (pending_after_start_eq_nil_iff c c.nodes).2 (Nat.le_refl _)
  have hfilters := filters_after (start c) c.nodes
  generalize (start c).after c.nodes = s at hpending hfilters
  obtain ⟨n, pending⟩ := s
  obtain rfl : pending = [] := hpending
  obtain rfl : n = c.size := by
    simpa [filters, start, c.size_eq_length_filters] using hfilters
  rfl

end Counting

namespace Condition

/-- What is counted in the end is the number of filters. -/
theorem count_eq_size (c : Condition) : c.count = c.size :=
  calc c.count
      = countPending ((Counting.start c).after c.nodes).counted
          ((Counting.start c).after c.nodes).pending :=
        (Counting.countPending_after (Counting.start c) c.nodes).symm
    _ = countPending c.size [] := by rw [Counting.after_start_nodes]
    _ = c.size := by rw [countPending]

/-- The number of filters decides whether a condition passes the check or is refused with that
number. -/
theorem checkLimit_eq (c : Condition) (max : Nat) :
    c.checkLimit max =
      if max = 0 ∨ c.size ≤ max then .ok c else .error (.tooManyFilters c.size max) := by
  rw [checkLimit, count_eq_size]
  by_cases hzero : max = 0
  · rw [if_pos hzero, if_pos (.inl hzero)]
  · by_cases hle : c.size ≤ max
    · rw [if_neg hzero, if_neg (Nat.not_lt.2 hle), if_pos (.inr hle)]
    · rw [if_neg hzero, if_pos (Nat.lt_of_not_le hle), if_neg (by simp [hzero, hle])]

/-- The loop over the pending conditions ends, after as many rounds as there are nodes, and has
counted the filters of the condition, as many as recursion counts. Hence the check of the limit lets
a condition through unchanged exactly if there is no limit or as many filters are allowed, and
otherwise reports exactly that number. -/
theorem worklist_counts_filters (c : Condition) (max : Nat) :
    ((∀ k, ((Counting.start c).after k).pending = [] ↔ c.nodes ≤ k) ∧
      (Counting.start c).after c.nodes = ⟨c.size, []⟩) ∧
    (∀ k, countPending ((Counting.start c).after k).counted ((Counting.start c).after k).pending =
      c.count) ∧
    c.count = c.size ∧
    (c.checkLimit max = .ok c ↔ max = 0 ∨ c.size ≤ max) ∧
    (c.checkLimit max = .error (.tooManyFilters c.size max) ↔ ¬(max = 0 ∨ c.size ≤ max)) := by
  refine ⟨⟨Counting.pending_after_start_eq_nil_iff c, Counting.after_start_nodes c⟩,
    Counting.countPending_after (Counting.start c), c.count_eq_size, ?_, ?_⟩
  · rw [checkLimit_eq]
    split <;> simp [*]
  · rw [checkLimit_eq]
    split <;> simp [*]

end Condition

end FilterQuery
