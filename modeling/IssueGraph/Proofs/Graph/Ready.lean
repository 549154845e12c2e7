import IssueGraph.Config.Basic
import IssueGraph.Graph.Listing
import IssueGraph.Proofs.Graph.LiveBlocker
import Mathlib.Data.Prod.Lex
import Mathlib.Data.String.Basic

/-!
# Ready issues of a built graph

An issue is ready in the graph built with the live blocked set when it is neither closed nor
deferred and not in that set. A board whose open issues are all held back therefore has a circle of
needs among them, since otherwise some open issue would need no other and nothing could block it.
Closing an issue takes open issues away and recording a dependency adds a record, so the first never
blocks an issue and the second never unblocks one. Main statements: `exists_cycle_of_no_ready` and
`liveBlocked_under_changes`.
-/
namespace IssueGraph

/-- In a finite set in which everything is related to something some way leads back to its start. -/
theorem exists_transGen_self {α : Type} {r : α → α → Prop} {S : Set α} (hfinite : S.Finite)
    (hne : S.Nonempty) (hr : ∀ x ∈ S, ∃ y ∈ S, r x y) : ∃ x, Relation.TransGen r x x := by
  by_contra hnone
  push Not at hnone
  have : Finite S := hfinite.to_subtype
  have : IsTrans S fun x y => Relation.TransGen r y x := ⟨fun _ _ _ hxy hyz => hyz.trans hxy⟩
  have : Std.Irrefl fun x y : S => Relation.TransGen r y x := ⟨fun x => hnone x⟩
  have hwf := Finite.wellFounded_of_trans_of_irrefl fun x y : S => Relation.TransGen r y x
  -- An item with no way to another is related to nothing.
  obtain ⟨a, ha⟩ := hne
  obtain ⟨x, -, hlast⟩ := hwf.has_min Set.univ ⟨⟨a, ha⟩, Set.mem_univ _⟩
  obtain ⟨y, hy, hxy⟩ := hr x x.2
  exact hlast ⟨y, hy⟩ (Set.mem_univ _) (.single hxy)

theorem isReady_iff {id : IssueId} {status : Option Status} {blocked : SortedSet IssueId} :
    isReady id status (some blocked) = true ↔
      status ≠ some .closed ∧ status ≠ some .deferred ∧ ¬ id ∈ blocked := by
  rw [isReady, Bool.and_eq_true, Bool.not_eq_true', Bool.not_eq_true', ← and_assoc,
    ← SortedSet.contains_iff]
  refine and_congr ?_ (by simp)
  cases status with
  | none => simp
  | some s => cases s <;> simp [Status.isTerminalOrPaused]

namespace Node

variable {a b : Node}

/-- What the ready issues are sorted by. -/
def urgency (n : Node) : ℕ ×ₗ String := toLex (n.data.issue.priority.toNat, n.issueId)

theorem isMoreUrgent_iff : a.isMoreUrgent b = true ↔ a.urgency ≤ b.urgency := by
  rw [urgency, urgency, Prod.Lex.toLex_le_toLex]
  simp [isMoreUrgent, UInt8.lt_iff_toNat_lt, UInt8.toNat_inj]

theorem isMoreUrgent_trans (a b c : Node) (hab : a.isMoreUrgent b = true)
    (hbc : b.isMoreUrgent c = true) : a.isMoreUrgent c = true :=
  isMoreUrgent_iff.mpr ((isMoreUrgent_iff.mp hab).trans (isMoreUrgent_iff.mp hbc))

theorem isMoreUrgent_total (a b : Node) : (a.isMoreUrgent b || b.isMoreUrgent a) = true := by
  rw [Bool.or_eq_true, isMoreUrgent_iff, isMoreUrgent_iff]
  exact le_total _ _

theorem issueId_eq_of_isMoreUrgent (hab : a.isMoreUrgent b = true)
    (hba : b.isMoreUrgent a = true) : a.issueId = b.issueId := by
  have h := le_antisymm (isMoreUrgent_iff.mp hab) (isMoreUrgent_iff.mp hba)
  exact congrArg (fun u => (ofLex u).2) h

end Node

namespace Graph

variable {issues : List Issue} {options : BuildOptions} {n : Node}

theorem mem_readyNodes_build : n ∈ (build issues options).readyNodes ↔
    ∃ i ∈ issues, isReady i.id i.status options.blocked = true ∧
      realNode options (kept issues options) (blockingPairs (analysedEdges issues options)) i =
        n := by
  rw [readyNodes, List.mem_filter, mem_realNodes_build]
  constructor
  · rintro ⟨⟨i, hi, rfl⟩, hready⟩
    exact ⟨i, hi, hready, rfl⟩
  · rintro ⟨i, hi, hready, rfl⟩
    exact ⟨⟨i, hi, rfl⟩, hready⟩

theorem mem_readyIssues_none {g : Graph} : n ∈ g.readyIssues none ↔ n ∈ g.readyNodes :=
  List.mem_mergeSort

theorem exists_readyIssue {i : Issue} (hi : i ∈ issues) (hclosed : i.isClosed = false)
    (hdeferred : i.status ≠ some .deferred) (hblocked : ¬ i.id ∈ liveBlocked issues) :
    ∃ n ∈ (build issues (options.withBlocked (liveBlocked issues))).readyIssues none,
      n.data.issue = i := by
  have hready : isReady i.id i.status (some (liveBlocked issues)) = true :=
    isReady_iff.mpr ⟨by simpa [Issue.isClosed] using hclosed, hdeferred, hblocked⟩
  exact ⟨_, mem_readyIssues_none.mpr (mem_readyNodes_build.mpr ⟨i, hi, hready, rfl⟩), rfl⟩

end Graph

namespace Live

variable {issues issues' : List Issue} {x v : IssueId}

theorem finite_open (issues : List Issue) : {x | Open issues x}.Finite := by
  refine (List.finite_toSet (issues.map (·.id))).subset ?_
  rintro x ⟨i, hi, rfl, -⟩
  exact List.mem_map_of_mem hi

theorem open_append_cons {before after : List Issue} {i : Issue} :
    Open (before ++ i :: after) x ↔
      Open before x ∨ (i.id = x ∧ i.isClosed = false) ∨ Open after x := by
  simp [Open, or_and_right, exists_or]

theorem recorded_append_cons {before after : List Issue} {i : Issue} {t : DependencyType}
    {x y : IssueId} : Recorded (before ++ i :: after) t x y ↔
      Recorded before t x y ∨ ⟨x, y, t⟩ ∈ i.dependencies ∨ Recorded after t x y := by
  simp [Recorded, or_and_right, exists_or]

/-- More open issues and more records block more. -/
theorem mem_liveBlocked_of_le (hids : (issues.map (·.id)).Nodup)
    (hids' : (issues'.map (·.id)).Nodup) (hopen : ∀ x, Open issues x → Open issues' x)
    (hrecorded : ∀ t x y, Recorded issues t x y → Recorded issues' t x y)
    (hv : v ∈ liveBlocked issues) : v ∈ liveBlocked issues' := by
  obtain ⟨k, hk, p, h0, hp, hparent, t, w, ht, hrecord, hw⟩ := (mem_liveBlocked_iff hids).mp hv
  exact (mem_liveBlocked_iff hids').mpr ⟨k, hk, p, h0, fun i hi => hopen _ (hp i hi),
    fun i hi => hrecorded _ _ _ (hparent i hi), t, w, ht, hrecorded _ _ _ hrecord, hopen w hw⟩

end Live

/-- If no issue is ready although some issue is open and none is deferred, then some open issue
needs itself, directly or through other open issues. -/
theorem exists_cycle_of_no_ready (issues : List Issue) (hids : (issues.map (·.id)).Nodup)
    (config : Config)
    (hready : (Graph.build issues
      (config.buildOptions.withBlocked (liveBlocked issues))).readyIssues none = [])
    (hopen : ∃ i ∈ issues, i.isClosed = false)
    (hdeferred : ∀ i ∈ issues, i.status ≠ some .deferred) :
    ∃ x, Relation.TransGen (Live.Needs issues) x x := by
  obtain ⟨i, hi, hopen⟩ := hopen
  -- Whatever is open is not listed as ready, so it is live blocked and needs an open issue.
  refine exists_transGen_self (Live.finite_open issues) ⟨i.id, i, hi, rfl, hopen⟩ ?_
  rintro x ⟨i, hi, rfl, hopen⟩
  have hblocked : i.id ∈ liveBlocked issues := by
    by_contra hfree
    obtain ⟨n, hn, -⟩ : ∃ n ∈ (Graph.build issues
        (config.buildOptions.withBlocked (liveBlocked issues))).readyIssues none,
        n.data.issue = i := Graph.exists_readyIssue hi hopen (hdeferred i hi) hfree
    rw [hready] at hn
    exact absurd hn List.not_mem_nil
  obtain ⟨y, hneeds⟩ := Live.exists_needs_of_mem_liveBlocked hids hblocked
  exact ⟨y, hneeds.target, hneeds⟩

/-- An epic that waits for its own task, and an issue that is done. -/
def stuckIssues : List Issue :=
  [{ id := "epic", dependencies := [⟨"epic", "task", .known .waitsFor⟩] },
    { id := "task", status := some .opened,
      dependencies := [⟨"task", "epic", .known .parentChild⟩] },
    { id := "done", status := some .closed }]

theorem exists_cycle_of_no_ready_when_stuck :
    (stuckIssues.map (·.id)).Nodup ∧
      (Graph.build stuckIssues
        (({} : Config).buildOptions.withBlocked (liveBlocked stuckIssues))).readyIssues none = [] ∧
      (∃ i ∈ stuckIssues, i.isClosed = false) ∧
      (∀ i ∈ stuckIssues, i.status ≠ some .deferred) ∧
      ∃ x, Relation.TransGen (Live.Needs stuckIssues) x x := by
  have hids : (stuckIssues.map (·.id)).Nodup := by decide
  have hready : (Graph.build stuckIssues
      (({} : Config).buildOptions.withBlocked (liveBlocked stuckIssues))).readyIssues none =
      [] := by
    decide +kernel
  have hopen : ∃ i ∈ stuckIssues, i.isClosed = false := by decide
  have hdeferred : ∀ i ∈ stuckIssues, i.status ≠ some .deferred := by decide
  exact ⟨hids, hready, hopen, hdeferred,
    exists_cycle_of_no_ready stuckIssues hids {} hready hopen hdeferred⟩

section Changes

variable {before after : List Issue} {i j : Issue} {v : IssueId}

theorem nodup_ids_replace (hids : ((before ++ i :: after).map (·.id)).Nodup) (hid : j.id = i.id) :
    ((before ++ j :: after).map (·.id)).Nodup := by
  simpa [hid] using hids

theorem mem_liveBlocked_of_closed (hids : ((before ++ i :: after).map (·.id)).Nodup)
    (hv : v ∈ liveBlocked (before ++ i.withStatus (some .closed) :: after)) :
    v ∈ liveBlocked (before ++ i :: after) := by
  have hids' := nodup_ids_replace (j := i.withStatus (some .closed)) hids rfl
  refine Live.mem_liveBlocked_of_le hids' hids ?_ ?_ hv
  · intro x hx
    rw [Live.open_append_cons] at hx ⊢
    rcases hx with hx | ⟨-, hopen⟩ | hx
    · exact .inl hx
    · exact Bool.noConfusion hopen
    · exact .inr (.inr hx)
  · intro t x y h
    rw [Live.recorded_append_cons] at h ⊢
    exact h

theorem mem_liveBlocked_of_recorded (hids : ((before ++ i :: after).map (·.id)).Nodup)
    (d : Dependency) (hv : v ∈ liveBlocked (before ++ i :: after)) :
    v ∈ liveBlocked (before ++ { i with dependencies := i.dependencies ++ [d] } :: after) := by
  have hids' := nodup_ids_replace (j := { i with dependencies := i.dependencies ++ [d] }) hids rfl
  refine Live.mem_liveBlocked_of_le hids hids' ?_ ?_ hv
  · intro x hx
    rw [Live.open_append_cons] at hx ⊢
    exact hx
  · intro t x y h
    rw [Live.recorded_append_cons] at h ⊢
    exact h.imp_right (Or.imp_left (List.mem_append_left [d]))

/-- An issue that stays as it is and becomes blocked by nothing stays ready. -/
theorem exists_readyNode_of_mem {issues issues' : List Issue} {options : BuildOptions}
    (hblocked : ∀ v, v ∈ liveBlocked issues' → v ∈ liveBlocked issues) {n : Node}
    (hn : n ∈ (Graph.build issues (options.withBlocked (liveBlocked issues))).readyNodes)
    (hkept : ∀ i ∈ issues, i.id = n.issueId → i ∈ issues') :
    ∃ n' ∈ (Graph.build issues' (options.withBlocked (liveBlocked issues'))).readyNodes,
      n'.data.issue = n.data.issue := by
  obtain ⟨i, hi, hready, rfl⟩ := Graph.mem_readyNodes_build.mp hn
  obtain ⟨hclosed, hdeferred, hfree⟩ := isReady_iff.mp hready
  have hready' : isReady i.id i.status (some (liveBlocked issues')) = true :=
    isReady_iff.mpr ⟨hclosed, hdeferred, fun h => hfree (hblocked i.id h)⟩
  exact ⟨_, Graph.mem_readyNodes_build.mpr ⟨i, hkept i hi rfl, hready', rfl⟩, rfl⟩

end Changes

/-- Closing an issue blocks nothing that was not blocked, so that every other issue that was ready
stays ready. Recording one more dependency with an issue unblocks nothing. -/
theorem liveBlocked_under_changes (before after : List Issue) (i : Issue)
    (hids : ((before ++ i :: after).map (·.id)).Nodup) :
    (∀ v, v ∈ liveBlocked (before ++ i.withStatus (some .closed) :: after) →
      v ∈ liveBlocked (before ++ i :: after)) ∧
    (∀ options : BuildOptions, ∀ n ∈ (Graph.build (before ++ i :: after)
        (options.withBlocked (liveBlocked (before ++ i :: after)))).readyNodes,
      n.issueId ≠ i.id →
      ∃ n' ∈ (Graph.build (before ++ i.withStatus (some .closed) :: after) (options.withBlocked
          (liveBlocked (before ++ i.withStatus (some .closed) :: after)))).readyNodes,
        n'.data.issue = n.data.issue) ∧
    ∀ d v, v ∈ liveBlocked (before ++ i :: after) →
      v ∈ liveBlocked (before ++ { i with dependencies := i.dependencies ++ [d] } :: after) := by
  refine ⟨fun v => mem_liveBlocked_of_closed hids, ?_,
    fun d v => mem_liveBlocked_of_recorded hids d⟩
  intro options n hn hother
  refine exists_readyNode_of_mem (fun v => mem_liveBlocked_of_closed hids) hn ?_
  intro j hj hid
  rcases List.mem_append.mp hj with hj | hj
  · exact List.mem_append_left _ hj
  · rcases List.mem_cons.mp hj with rfl | hj
    · exact absurd hid.symm hother
    · exact List.mem_append_right _ (List.mem_cons_of_mem _ hj)

theorem liveBlocked_under_changes_of_loop :
    (Live.loopIssues.map (·.id)).Nodup ∧
      (∃ n ∈ (Graph.build (Live.loopIssues[0].withStatus (some .closed) :: Live.loopIssues.tail)
        (({} : BuildOptions).withBlocked (liveBlocked
          (Live.loopIssues[0].withStatus (some .closed) :: Live.loopIssues.tail)))).readyNodes,
        n.data.issue = Live.loopIssues[2]) ∧
      "b" ∈ liveBlocked ({ Live.loopIssues[0] with
        dependencies := Live.loopIssues[0].dependencies ++ [⟨"b", "b", .known .related⟩] } ::
        Live.loopIssues.tail) := by
  have hids : (Live.loopIssues.map (·.id)).Nodup := by decide
  have hblocked : "b" ∈ liveBlocked Live.loopIssues := by
    refine SortedSet.contains_iff.mp ?_
    decide +kernel
  have hfree : isReady "c" (some .review) (some (liveBlocked Live.loopIssues)) = true := by
    decide +kernel
  obtain ⟨-, hready, hrecorded⟩ :=
    liveBlocked_under_changes [] Live.loopIssues.tail Live.loopIssues[0] hids
  refine ⟨hids, ?_, hrecorded ⟨"b", "b", .known .related⟩ "b" hblocked⟩
  exact hready {} _ (Graph.mem_readyNodes_build.mpr ⟨Live.loopIssues[2], by decide, hfree, rfl⟩)
    (by decide)

end IssueGraph
