import IssueGraph.Graph.Build
import IssueGraph.Proofs.Blocking.Live
import IssueGraph.Proofs.Blocking.Walk
import IssueGraph.Proofs.Graph.BlockedCount

/-!
# What blocks a live blocked issue

A live blocked issue either waits for an open issue itself or has an open parent that passes a block
on, and both are records that a built graph draws as blocking edges. So the first hop of its chain
shows an open blocker, unless the issue is held back by a record on itself, which no chain shows.
Main statement: `liveBlocked_shows_open_blocker`.
-/
namespace IssueGraph

theorem DependencyType.isBlocking_of_blocksDirectly {t : DependencyType}
    (h : t.blocksDirectly = true) : t.isBlocking = true := by
  rcases blocksDirectly_iff.mp h with rfl | rfl | rfl <;> rfl

namespace Live

variable {issues : List Issue} {v x y : IssueId}

/-- The open issue `x` has a record of a blocking type on the open issue `y`. -/
structure Needs (issues : List Issue) (x y : IssueId) : Prop where
  dependent : Open issues x
  target : Open issues y
  recorded : ∃ t, t.isBlocking = true ∧ Recorded issues t x y

theorem needs_of_path {k : Nat} {p : Nat → IssueId} (hopen : ∀ i ≤ k, Open issues (p i))
    (hp : ∀ i < k, Recorded issues (.known .parentChild) (p i) (p (i + 1))) {t : DependencyType}
    {w : IssueId} (ht : t.blocksDirectly = true) (hrecord : Recorded issues t (p k) w)
    (hw : Open issues w) :
    (∃ y, y ≠ p 0 ∧ Needs issues (p 0) y) ∨
      ∃ t, t.blocksDirectly = true ∧ Recorded issues t (p 0) (p 0) := by
  -- The first step to another issue is a need. If there is none, the issue is its own only
  -- ancestor and the record at the end of the path is one of its own.
  induction k generalizing p with
  | zero =>
    by_cases hself : w = p 0
    · exact .inr ⟨t, ht, hself ▸ hrecord⟩
    · exact .inl ⟨w, hself, hopen 0 (Nat.le_refl 0), hw, t,
        DependencyType.isBlocking_of_blocksDirectly ht, hrecord⟩
  | succ k ih =>
    by_cases hself : p 1 = p 0
    · have hrest := ih (p := fun i => p (i + 1)) (fun i hi => hopen (i + 1) (by omega))
        (fun i hi => hp (i + 1) (by omega)) hrecord
      simpa only [Nat.zero_add, hself] using hrest
    · exact .inl ⟨p 1, hself, hopen 0 (by omega), hopen 1 (by omega), _, rfl, hp 0 (by omega)⟩

theorem needs_other_or_self (hids : (issues.map (·.id)).Nodup) (hv : v ∈ liveBlocked issues) :
    (∃ w, w ≠ v ∧ Needs issues v w) ∨
      ∃ t, t.blocksDirectly = true ∧ Recorded issues t v v := by
  obtain ⟨k, -, p, rfl, hopen, hp, t, w, ht, hrecord, hw⟩ := (mem_liveBlocked_iff hids).mp hv
  exact needs_of_path hopen hp ht hrecord hw

theorem open_of_mem_liveBlocked (hids : (issues.map (·.id)).Nodup) (hv : v ∈ liveBlocked issues) :
    Open issues v := by
  obtain ⟨k, -, p, rfl, hopen, -⟩ := (mem_liveBlocked_iff hids).mp hv
  exact hopen 0 (Nat.zero_le k)

/-- Whatever is live blocked needs an open issue, be it itself. -/
theorem exists_needs_of_mem_liveBlocked (hids : (issues.map (·.id)).Nodup)
    (hv : v ∈ liveBlocked issues) : ∃ w, Needs issues v w := by
  rcases needs_other_or_self hids hv with ⟨w, -, hneeds⟩ | ⟨t, ht, hrecord⟩
  · exact ⟨w, hneeds⟩
  · have hopen := open_of_mem_liveBlocked hids hv
    exact ⟨v, hopen, hopen, t, DependencyType.isBlocking_of_blocksDirectly ht, hrecord⟩

end Live

namespace Graph

variable {issues : List Issue} {options : BuildOptions} {x y : IssueId}

theorem isPresent_of_open (h : Live.Open issues x) : isPresent issues x = true := by
  obtain ⟨i, hi, rfl, -⟩ := h
  exact isPresent_iff.mpr (List.mem_map_of_mem hi)

/-- A record of any type is kept, under any options without a type filter, if its target is open. -/
theorem mem_kept_of_recorded {t : DependencyType} (htypes : options.types = none)
    (hrecord : Live.Recorded issues t x y) (hy : Live.Open issues y) :
    ⟨x, y, t⟩ ∈ kept issues options := by
  obtain ⟨i, hi, hd⟩ := hrecord
  refine List.mem_filter.mpr ⟨List.mem_flatMap.mpr ⟨i, hi, hd⟩, ?_⟩
  simp [keeps, BuildOptions.accepts, htypes, isPresent_of_open hy]

theorem waitsFor_of_needs (htypes : options.types = none) (h : Live.Needs issues x y) :
    WaitsFor (build issues options).edges x y := by
  obtain ⟨t, ht, hrecord⟩ := h.recorded
  exact waitsFor_edges_build.mpr ⟨_, mem_kept_of_recorded htypes hrecord h.target, ht, rfl, rfl⟩

end Graph

/-- What an issue waits for is in its chain at every depth but zero, unless it is the issue. -/
theorem Chain.mem_blockers_of_waitsFor {edges : List Edge} {x y : IssueId} {depth : Nat}
    (hne : y ≠ x) (h : WaitsFor edges x y) (hdepth : 1 ≤ depth) :
    y ∈ (ofEdges edges x depth).blockers := by
  obtain ⟨n, hn, hdist⟩ := Distance.exists_le (S := {x}) rfl (Hops.here.hop h)
  exact mem_blockers.mpr ⟨hne, n, hn.trans hdepth, hdist⟩

/-- The chain of a live blocked issue over the graph built without options has an open issue among
its blockers, at every depth but zero, or the issue has a record on itself that blocks directly. -/
theorem liveBlocked_shows_open_blocker (issues : List Issue) (hids : (issues.map (·.id)).Nodup)
    (v : IssueId) (hv : v ∈ liveBlocked issues) (depth : Nat) (hdepth : 1 ≤ depth) :
    (∃ w ∈ (Chain.ofEdges (Graph.build issues {}).edges v depth).blockers, Live.Open issues w) ∨
    ∃ t, (t = .known .blocks ∨ t = .known .conditionalBlocks ∨ t = .known .waitsFor) ∧
      Live.Recorded issues t v v := by
  simp only [← DependencyType.blocksDirectly_iff]
  refine (Live.needs_other_or_self hids hv).imp_left ?_
  rintro ⟨w, hne, hneeds⟩
  have hwaits : WaitsFor (Graph.build issues {}).edges v w := Graph.waitsFor_of_needs rfl hneeds
  exact ⟨w, Chain.mem_blockers_of_waitsFor hne hwaits hdepth, hneeds.target⟩

theorem liveBlocked_shows_open_blocker_on_loop :
    (Live.loopIssues.map (·.id)).Nodup ∧ "a" ∈ liveBlocked Live.loopIssues ∧
      ∃ w ∈ (Chain.ofEdges (Graph.build Live.loopIssues {}).edges "a" 1).blockers,
        Live.Open Live.loopIssues w := by
  have hids : (Live.loopIssues.map (·.id)).Nodup := by decide
  have hmem : "a" ∈ liveBlocked Live.loopIssues := by
    refine SortedSet.contains_iff.mp ?_
    decide +kernel
  have hself : ¬ ∃ t, (t = .known .blocks ∨ t = .known .conditionalBlocks ∨ t = .known .waitsFor) ∧
      Live.Recorded Live.loopIssues t "a" "a" := by
    rintro ⟨t, -, i, hi, hd⟩
    simp only [Live.loopIssues, List.mem_cons, List.not_mem_nil, or_false] at hi
    rcases hi with rfl | rfl | rfl | rfl <;> simp at hd
  exact ⟨hids, hmem, (liveBlocked_shows_open_blocker Live.loopIssues hids "a" hmem 1
    (Nat.le_refl 1)).resolve_right hself⟩

end IssueGraph
