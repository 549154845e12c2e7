/-!
# Breadth-first search

A search keeps a queue of items with their depths and the list of items not reached so far. Visiting
the front of the queue moves its unreached neighbours to the back, one level deeper; at the depth
limit nothing is moved, and the search is marked as cut if something could have been. Every visit
takes one item off queue and unreached list together, so a search ends. Main statements:
`State.remaining_visit` and `State.run_eq_of_queue_cons`.
-/
namespace IssueGraph.Search

variable {α : Type} [BEq α]

structure State (α : Type) where
  /-- Items to visit with their depths, front first. -/
  queue : List (α × Nat)
  /-- Items not reached so far. -/
  unreached : List α
  /-- Items visited with their depths, first visit first. -/
  visited : List (α × Nat) := []
  /-- Whether the depth limit kept a neighbour from being reached. -/
  cut : Bool := false
  deriving DecidableEq, Repr, Inhabited

namespace State

/-- Start from `sources`, all at depth zero, with the other items of `among` unreached. -/
def start (sources among : List α) : State α :=
  { queue := sources.map (·, 0)
    unreached := among.eraseDups.filter (!sources.contains ·) }

/-- The number of visits that can still happen. -/
def remaining (s : State α) : Nat := s.queue.length + s.unreached.length

/-- Visit `item`, which has just been taken off the front of the queue. -/
def visit (next : α → List α) (limit : Option Nat) (s : State α) (item : α) (depth : Nat)
    (queue : List (α × Nat)) : State α :=
  let near := next item
  if limit.any (· ≤ depth) then
    { s with
      queue := queue
      visited := s.visited ++ [(item, depth)]
      cut := s.cut || s.unreached.any near.contains }
  else
    { queue := queue ++ (s.unreached.filter near.contains).map (·, depth + 1)
      unreached := s.unreached.filter (!near.contains ·)
      visited := s.visited ++ [(item, depth)]
      cut := s.cut }

omit [BEq α] in
theorem remaining_cons {s : State α} {item : α} {depth : Nat} {queue : List (α × Nat)}
    (h : s.queue = (item, depth) :: queue) :
    s.remaining = queue.length + s.unreached.length + 1 := by
  simp [remaining, h]; omega

/-- A visit uses up one of the visits that can still happen. -/
theorem remaining_visit {next : α → List α} {limit : Option Nat} {s : State α} {item : α}
    {depth : Nat} {queue : List (α × Nat)} :
    (s.visit next limit item depth queue).remaining ≤ queue.length + s.unreached.length := by
  unfold visit remaining
  have h := List.length_eq_countP_add_countP (next item).contains (l := s.unreached)
  simp only [List.countP_eq_length_filter, decide_not, Bool.decide_eq_true] at h
  by_cases hl : limit.any (· ≤ depth)
  · simp [hl]
  · simp only [hl, Bool.false_eq_true, if_false, List.length_append, List.length_map]
    omega

/-- One step: visit the front of the queue, if there is one. -/
def step (next : α → List α) (limit : Option Nat) (s : State α) : Option (State α) :=
  match s.queue with
  | [] => none
  | (item, depth) :: queue => some (s.visit next limit item depth queue)

/-- Visit until the queue is empty. -/
def run (next : α → List α) (limit : Option Nat) (s : State α) : State α :=
  match _h : s.queue with
  | [] => s
  | (item, depth) :: queue => run next limit (s.visit next limit item depth queue)
termination_by s.remaining
decreasing_by
  have := @remaining_visit _ _ next limit s item depth queue
  rw [remaining_cons _h]
  omega

theorem run_eq_of_queue_nil {next : α → List α} {limit : Option Nat} {s : State α}
    (h : s.queue = []) : s.run next limit = s := by
  rw [run]
  split
  · rfl
  · next heq => rw [h] at heq; cases heq

theorem run_eq_of_queue_cons {next : α → List α} {limit : Option Nat} {s : State α} {item : α}
    {depth : Nat} {queue : List (α × Nat)} (h : s.queue = (item, depth) :: queue) :
    s.run next limit = (s.visit next limit item depth queue).run next limit := by
  rw [run]
  split
  · next heq => rw [h] at heq; cases heq
  · next heq => rw [h] at heq; cases heq; rfl

/-- The visited items other than the sources. -/
def reached (s : State α) : List α := (s.visited.filter (·.2 != 0)).map (·.1)

end State

end IssueGraph.Search
