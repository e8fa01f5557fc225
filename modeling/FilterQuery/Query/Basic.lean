import FilterQuery.Value

/-!
# Queries

A query is empty or one condition. A condition is a filter on a field, or two conditions of which
both or at least one must hold.
-/

namespace FilterQuery

/-- The operator of a filter that is written without one: the policy of the field decides. -/
def defaultOperator : String := "default"

/-- The comparison of a field with a value. -/
structure Filter where
  field : String
  operator : String
  value : Value
deriving DecidableEq

/-- A tree of filters. -/
inductive Condition
  | filter (f : Filter)
  | and (left right : Condition)
  | or (left right : Condition)
deriving DecidableEq

namespace Condition

/-- The filters of a condition, from left to right. -/
def filters : Condition → List Filter
  | filter f => [f]
  | and l r | or l r => l.filters ++ r.filters

/-- The number of filters of a condition. -/
def size : Condition → Nat
  | filter _ => 1
  | and l r | or l r => l.size + r.size

/-- The number of nodes of a condition. -/
def nodes : Condition → Nat
  | filter _ => 1
  | and l r | or l r => l.nodes + r.nodes + 1

/-- The number of nodes of several conditions. -/
def totalNodes : List Condition → Nat
  | [] => 0
  | c :: cs => c.nodes + totalNodes cs

/-- The number of filters of the conditions on a stack of pending work, with `counted` filters seen
before. A deep tree is counted without deep recursion. -/
def countPending (counted : Nat) : List Condition → Nat
  | [] => counted
  | filter _ :: pending => countPending (counted + 1) pending
  | and l r :: pending | or l r :: pending => countPending counted (r :: l :: pending)
termination_by pending => totalNodes pending
decreasing_by all_goals simp only [totalNodes, nodes]; omega

/-- The number of filters of `c`, by a stack of pending conditions. -/
def count (c : Condition) : Nat := countPending 0 [c]

end Condition

/-- A query: no condition at all, or one. -/
abbrev Query := Option Condition

end FilterQuery
