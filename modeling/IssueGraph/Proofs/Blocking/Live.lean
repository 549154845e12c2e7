import IssueGraph.Blocking.Live
import IssueGraph.Proofs.List
import IssueGraph.Proofs.Search

/-!
# Live blocked issues

An issue is blocked when it is connected, by at most `Live.maxLevels` parent-child records between
open issues, to an open issue with a direct record on an open one. The search starts from several
issues at once and cuts at a depth, so the answer rests on its depths being the least ones: a child
met late would otherwise keep its own children out.
-/
namespace IssueGraph

theorem DependencyType.blocksDirectly_iff {t : DependencyType} : t.blocksDirectly = true ↔
    t = .known .blocks ∨ t = .known .conditionalBlocks ∨ t = .known .waitsFor := by
  cases t with
  | known k => cases k <;> decide
  | custom tag h => simp [blocksDirectly]

namespace Live

variable {issues : List Issue} {dependencies : List Dependency} {x y : IssueId}

/-- An issue with this id is present and not closed. -/
def Open (issues : List Issue) (x : IssueId) : Prop :=
  ∃ i ∈ issues, i.id = x ∧ i.isClosed = false

/-- Some issue carries the record that `x` needs `y`. -/
def Recorded (issues : List Issue) (t : DependencyType) (x y : IssueId) : Prop :=
  ∃ i ∈ issues, ⟨x, y, t⟩ ∈ i.dependencies

/-- When no two issues share an id, it does not matter which of them the lookup prefers. -/
theorem isOpen_iff (hids : (issues.map (·.id)).Nodup) : isOpen issues x = true ↔ Open issues x := by
  have hreverse : (issues.reverse.map (·.id)).Nodup := by
    rw [List.map_reverse]
    exact List.nodup_reverse.mpr hids
  rw [isOpen, Option.any_eq_true]
  constructor
  · rintro ⟨i, hfind, hopen⟩
    obtain ⟨hi, hid⟩ := (find?_eq_some_iff_of_nodup hreverse).mp hfind
    exact ⟨i, List.mem_reverse.mp hi, hid, by simpa using hopen⟩
  · rintro ⟨i, hi, hid, hopen⟩
    have hfind := (find?_eq_some_iff_of_nodup hreverse).mpr ⟨List.mem_reverse.mpr hi, hid⟩
    exact ⟨i, hfind, by simp [hopen]⟩

theorem mem_openDependencies (hids : (issues.map (·.id)).Nodup) {t : DependencyType} :
    ⟨x, y, t⟩ ∈ openDependencies issues ↔
      Recorded issues t x y ∧ Open issues x ∧ Open issues y := by
  rw [openDependencies, List.mem_filter, List.mem_flatMap, Bool.and_eq_true, isOpen_iff hids,
    isOpen_iff hids]
  rfl

theorem mem_directlyBlocked : x ∈ directlyBlocked dependencies ↔
    ∃ t y, t.blocksDirectly = true ∧ ⟨x, y, t⟩ ∈ dependencies := by
  simp only [directlyBlocked, List.mem_eraseDups, List.mem_map, List.mem_filter]
  constructor
  · rintro ⟨d, ⟨hd, hblocks⟩, rfl⟩
    exact ⟨d.type, d.dependsOnId, hblocks, hd⟩
  · rintro ⟨t, y, hblocks, hd⟩
    exact ⟨_, ⟨hd, hblocks⟩, rfl⟩

theorem nodup_directlyBlocked (dependencies : List Dependency) :
    (directlyBlocked dependencies).Nodup :=
  nodup_eraseDups _

theorem mem_children : x ∈ children dependencies y ↔
    ⟨x, y, .known .parentChild⟩ ∈ dependencies := by
  simp only [children, List.mem_map, List.mem_filter, Bool.and_eq_true, beq_iff_eq]
  constructor
  · rintro ⟨d, ⟨hd, htype, rfl⟩, rfl⟩
    exact htype ▸ hd
  · intro hd
    exact ⟨_, ⟨hd, rfl, rfl⟩, rfl⟩

theorem children_subset (dependencies : List Dependency) (y : IssueId) :
    ∀ x ∈ children dependencies y, x ∈ dependencies.map (·.issueId) := by
  intro x hx
  exact List.mem_map.mpr ⟨_, mem_children.mp hx, rfl⟩

/-- A way down from a blocked issue is a path of records up to it, all of whose ids are open. -/
theorem hops_children_iff (hids : (issues.map (·.id)).Nodup) {k : Nat} :
    (∃ a ∈ directlyBlocked (openDependencies issues),
      Hops (Search.Hop (children (openDependencies issues))) a k x) ↔
    ∃ p : Nat → IssueId, p 0 = x ∧ (∀ i ≤ k, Open issues (p i)) ∧
      (∀ i < k, Recorded issues (.known .parentChild) (p i) (p (i + 1))) ∧
      ∃ t w, t.blocksDirectly = true ∧ Recorded issues t (p k) w ∧ Open issues w := by
  constructor
  · rintro ⟨a, ha, hops⟩
    obtain ⟨p, h0, rfl, hp⟩ := hops_iff_path.mp hops.flip
    obtain ⟨t, w, ht, hrecord⟩ := mem_directlyBlocked.mp ha
    obtain ⟨hneeds, hopen, hw⟩ := (mem_openDependencies hids).mp hrecord
    have hstep : ∀ i < k, Recorded issues (.known .parentChild) (p i) (p (i + 1)) ∧
        Open issues (p i) ∧ Open issues (p (i + 1)) :=
      fun i hi => (mem_openDependencies hids).mp (mem_children.mp (hp i hi))
    refine ⟨p, h0, ?_, fun i hi => (hstep i hi).1, t, w, ht, hneeds, hw⟩
    intro i hi
    rcases Nat.lt_or_eq_of_le hi with hlt | rfl
    · exact (hstep i hlt).2.1
    · exact hopen
  · rintro ⟨p, rfl, hopen, hp, t, w, ht, hneeds, hw⟩
    refine ⟨p k, ?_, hops_flip.mp (hops_iff_path.mpr ⟨p, rfl, rfl, ?_⟩)⟩
    · have hrecord := (mem_openDependencies hids).mpr ⟨hneeds, hopen k (Nat.le_refl k), hw⟩
      exact mem_directlyBlocked.mpr ⟨t, w, ht, hrecord⟩
    · intro i hi
      exact mem_children.mpr ((mem_openDependencies hids).mpr
        ⟨hp i hi, hopen i hi.le, hopen (i + 1) hi⟩)

/-- What a search finds does not depend on the order of its sources or of its neighbours. -/
theorem ofList_visited_eq {sources : List IssueId} {next : IssueId → List IssueId}
    (hsources : sources.Perm (directlyBlocked (openDependencies issues)))
    (hnext : ∀ y x, x ∈ next y ↔ x ∈ children (openDependencies issues) y) :
    SortedSet.ofList (((Search.State.start sources
      ((openDependencies issues).map (·.issueId))).run next (some maxLevels)).visited.map (·.1)) =
      liveBlocked issues := by
  have hnodup := nodup_directlyBlocked (openDependencies issues)
  have hhop : Search.Hop next = Search.Hop (children (openDependencies issues)) := by
    funext y x
    exact propext (hnext y x)
  refine SortedSet.ext fun x => ?_
  rw [liveBlocked, propagate, SortedSet.mem_ofList, SortedSet.mem_ofList,
    Search.State.mem_map_visited_run_start hnodup (children_subset _),
    Search.State.mem_map_visited_run_start (hsources.nodup_iff.mpr hnodup)
      fun y x hx => children_subset _ y x ((hnext y x).mp hx), hhop]
  simp only [hsources.mem_iff]

end Live

theorem mem_liveBlocked_iff {issues : List Issue} (hids : (issues.map (·.id)).Nodup) {v : IssueId} :
    v ∈ liveBlocked issues ↔ ∃ k ≤ Live.maxLevels, ∃ p : Nat → IssueId, p 0 = v ∧
      (∀ i ≤ k, Live.Open issues (p i)) ∧
      (∀ i < k, Live.Recorded issues (.known .parentChild) (p i) (p (i + 1))) ∧
      ∃ t w, t.blocksDirectly = true ∧ Live.Recorded issues t (p k) w ∧ Live.Open issues w := by
  rw [liveBlocked, Live.propagate, SortedSet.mem_ofList,
    Search.State.mem_map_visited_run_start (Live.nodup_directlyBlocked _) (Live.children_subset _)]
  exact exists_congr fun k => and_congr_right fun _ => Live.hops_children_iff hids

/-- The live blocked issues are those that a path of at most fifty parent-child records joins to an
issue with a direct record on an open one, every issue on the path being open. Closed issues are
never among them, and the order in which sources and children are searched does not matter. -/
theorem liveBlocked_exact (issues : List Issue) (hids : (issues.map (·.id)).Nodup) :
    (∀ v, v ∈ liveBlocked issues ↔ ∃ k ≤ 50, ∃ p : Nat → IssueId, p 0 = v ∧
      (∀ i ≤ k, Live.Open issues (p i)) ∧
      (∀ i < k, Live.Recorded issues (.known .parentChild) (p i) (p (i + 1))) ∧
      ∃ t w, (t = .known .blocks ∨ t = .known .conditionalBlocks ∨ t = .known .waitsFor) ∧
        Live.Recorded issues t (p k) w ∧ Live.Open issues w) ∧
    (∀ i ∈ issues, i.isClosed = true → ¬ i.id ∈ liveBlocked issues) ∧
    ∀ (sources : List IssueId) (next : IssueId → List IssueId),
      sources.Perm (Live.directlyBlocked (Live.openDependencies issues)) →
      (∀ y x, x ∈ next y ↔ x ∈ Live.children (Live.openDependencies issues) y) →
      SortedSet.ofList (((Search.State.start sources
        ((Live.openDependencies issues).map (·.issueId))).run next
          (some Live.maxLevels)).visited.map (·.1)) = liveBlocked issues := by
  refine ⟨?_, ?_, fun sources next => Live.ofList_visited_eq⟩
  · intro v
    simp only [← DependencyType.blocksDirectly_iff]
    exact mem_liveBlocked_iff hids
  · intro i hi hclosed hmem
    obtain ⟨k, -, p, hp, hopen, -⟩ := (mem_liveBlocked_iff hids).mp hmem
    obtain ⟨j, hj, hid, hjopen⟩ := hopen 0 (Nat.zero_le k)
    obtain rfl := List.inj_on_of_nodup_map hids hj hi (hid.trans hp)
    rw [hclosed] at hjopen
    exact Bool.noConfusion hjopen

/-- Two parents of each other, one of which waits for an open issue, and a closed child. -/
def Live.loopIssues : List Issue :=
  [{ id := "a", dependencies := [⟨"a", "b", .known .parentChild⟩] },
    { id := "b",
      dependencies := [⟨"b", "a", .known .parentChild⟩, ⟨"b", "c", .known .waitsFor⟩] },
    { id := "c", status := some .review },
    { id := "d", status := some .closed, dependencies := [⟨"d", "a", .known .parentChild⟩] }]

theorem liveBlocked_exact_on_loop :
    (Live.loopIssues.map (·.id)).Nodup ∧ "a" ∈ liveBlocked Live.loopIssues ∧
      ¬ "d" ∈ liveBlocked Live.loopIssues ∧
      SortedSet.ofList (((Search.State.start
        (Live.directlyBlocked (Live.openDependencies Live.loopIssues)).reverse
        ((Live.openDependencies Live.loopIssues).map (·.issueId))).run
          (fun y => (Live.children (Live.openDependencies Live.loopIssues) y).reverse)
          (some Live.maxLevels)).visited.map (·.1)) = liveBlocked Live.loopIssues := by
  have hids : (Live.loopIssues.map (·.id)).Nodup := by decide
  obtain ⟨hmem, hclosed, horder⟩ := liveBlocked_exact Live.loopIssues hids
  refine ⟨hids, (hmem "a").mpr ?_, hclosed Live.loopIssues[3] (List.getElem_mem _) rfl,
    horder _ _ (List.reverse_perm _) fun y x => List.mem_reverse⟩
  -- The path goes up from the child to the parent that waits.
  refine ⟨1, by decide, fun i => if i = 0 then "a" else "b", rfl, ?_, ?_,
    .known .waitsFor, "c", by decide, ?_, ?_⟩
  · intro i _
    by_cases hi : i = 0
    · simp [hi, Live.Open, Live.loopIssues, Issue.isClosed]
    · simp [hi, Live.Open, Live.loopIssues, Issue.isClosed]
  · intro i hi
    obtain rfl : i = 0 := by omega
    simp [Live.Recorded, Live.loopIssues]
  · simp [Live.Recorded, Live.loopIssues]
  · simp [Live.Open, Live.loopIssues, Issue.isClosed]

end IssueGraph
