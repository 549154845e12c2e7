import IssueGraph.Graph.Listing
import IssueGraph.Proofs.Blocking.Ranking
import IssueGraph.Proofs.Graph.BlockedCount
import IssueGraph.Proofs.List
import Mathlib.Data.Prod.Lex
import Mathlib.Data.String.Basic

/-!
# Top blockers

Nodes are listed by their counts, largest first. In a graph without orphan edges these are counts
over all edges, and along blocking they only fall, so an issue that blocks another one without being
blocked by it is listed earlier, however short the list. Main statement:
`blockers_counted_and_listed_first`.
-/
namespace IssueGraph

namespace Node

variable {a b : Node}

theorem blocksMore_iff : a.blocksMore b = true ↔
    b.data.blockedCount < a.data.blockedCount ∨
      a.data.blockedCount = b.data.blockedCount ∧ a.issueId ≤ b.issueId := by
  simp [blocksMore]

/-- What the top blockers are sorted by. -/
def weight (n : Node) : ℕᵒᵈ ×ₗ String := toLex (.toDual n.data.blockedCount, n.issueId)

theorem blocksMore_iff_weight : a.blocksMore b = true ↔ a.weight ≤ b.weight := by
  rw [weight, weight, Prod.Lex.toLex_le_toLex, blocksMore_iff]
  exact Iff.rfl

theorem blocksMore_trans (a b c : Node) (hab : a.blocksMore b = true)
    (hbc : b.blocksMore c = true) : a.blocksMore c = true :=
  blocksMore_iff_weight.mpr
    ((blocksMore_iff_weight.mp hab).trans (blocksMore_iff_weight.mp hbc))

theorem blocksMore_total (a b : Node) : (a.blocksMore b || b.blocksMore a) = true := by
  rw [Bool.or_eq_true, blocksMore_iff_weight, blocksMore_iff_weight]
  exact le_total _ _

theorem issueId_eq_of_blocksMore (hab : a.blocksMore b = true) (hba : b.blocksMore a = true) :
    a.issueId = b.issueId := by
  have h := le_antisymm (blocksMore_iff_weight.mp hab) (blocksMore_iff_weight.mp hba)
  exact congrArg (fun w => (ofLex w).2) h

theorem blocksMore_refl (a : Node) : a.blocksMore a = true := by
  simpa using blocksMore_total a a

end Node

namespace Graph

variable {issues : List Issue} {options : BuildOptions} {x y : IssueId}

/-- The nodes that block something, all of them, in the order of the listing. -/
def rankedBlockers (g : Graph) : List Node :=
  (g.realNodes.filter (0 < ·.data.blockedCount)).mergeSort Node.blocksMore

theorem topBlockers_eq_take (g : Graph) (limit : Nat) :
    g.topBlockers limit = g.rankedBlockers.take limit := rfl

theorem pairwise_rankedBlockers (g : Graph) :
    g.rankedBlockers.Pairwise fun a b => a.blocksMore b = true :=
  List.pairwise_mergeSort Node.blocksMore_trans Node.blocksMore_total _

theorem mem_rankedBlockers {g : Graph} {n : Node} :
    n ∈ g.rankedBlockers ↔ n ∈ g.realNodes ∧ 0 < n.data.blockedCount := by
  simp [rankedBlockers, List.mem_mergeSort]

/-- A node that blocks more than a listed one is listed before it. -/
theorem exists_lt_topBlockers {g : Graph} {limit j : Nat} {a b : Node} (ha : a ∈ g.realNodes)
    (hb : (g.topBlockers limit)[j]? = some b) (hab : b.data.blockedCount < a.data.blockedCount) :
    ∃ i < j, (g.topBlockers limit)[i]? = some a := by
  rw [topBlockers_eq_take, List.getElem?_take] at hb
  have hlimit : j < limit := by
    by_contra hj
    rw [if_neg hj] at hb
    cases hb
  rw [if_pos hlimit] at hb
  have hmem : a ∈ g.rankedBlockers := mem_rankedBlockers.mpr ⟨ha, Nat.zero_lt_of_lt hab⟩
  have hba : ¬ b.blocksMore a = true := by
    rw [Node.blocksMore_iff]
    omega
  obtain ⟨i, hij, hi⟩ :=
    exists_lt_getElem?_of_pairwise Node.blocksMore_refl (pairwise_rankedBlockers g) hmem hb hba
  refine ⟨i, hij, ?_⟩
  rw [topBlockers_eq_take, List.getElem?_take, if_pos (hij.trans hlimit), hi]

/-- Without orphan edges the analysis sees all edges. -/
theorem edges_build_of_no_orphans (horphans : options.orphans = false) :
    (build issues options).edges = analysedEdges issues options := by
  have hall : (kept issues options).filter (isPresent issues ·.dependsOnId) =
      kept issues options := by
    rw [List.filter_eq_self]
    intro d hd
    have hkeeps : keeps issues options d = true := (List.mem_filter.mp hd).2
    rw [keeps, horphans, Bool.false_or, Bool.and_eq_true] at hkeeps
    exact hkeeps.2
  rw [analysedEdges, hall]
  rfl

theorem blockedCount_of_mem_realNodes {n : Node} (hn : n ∈ (build issues options).realNodes) :
    n.data.blockedCount =
      IssueGraph.blockedCount (blockingPairs (analysedEdges issues options)) n.issueId := by
  obtain ⟨i, -, rfl⟩ := mem_realNodes_build.mp hn
  rfl

/-- Whatever blocks something over the analysed edges is an issue of the collection. -/
theorem isPresent_of_blocksThrough (h : BlocksThrough (analysedEdges issues options) x y) :
    isPresent issues x = true := by
  obtain ⟨-, hway⟩ := blocksThrough_iff.mp h
  obtain ⟨z, -, hzx⟩ := Relation.TransGen.tail'_iff.mp hway
  exact (waitsFor_analysedEdges.mp hzx).1

theorem exists_lt_topBlockers_of_blocksThrough (horphans : options.orphans = false)
    {limit j : Nat} {n : Node} (hn : ((build issues options).topBlockers limit)[j]? = some n)
    (hx : BlocksThrough (build issues options).edges x n.issueId)
    (hback : ¬ BlocksThrough (build issues options).edges n.issueId x) :
    ∃ i < j, ∃ m, ((build issues options).topBlockers limit)[i]? = some m ∧ m.issueId = x := by
  rw [edges_build_of_no_orphans horphans] at hx hback
  obtain ⟨m, hm, rfl⟩ : ∃ m ∈ (build issues options).realNodes, m.issueId = x :=
    exists_realNode (isPresent_of_blocksThrough hx)
  have hlisted : n ∈ (build issues options).rankedBlockers :=
    List.mem_of_mem_take (List.mem_of_getElem? hn)
  have hlt : n.data.blockedCount < m.data.blockedCount := by
    rw [blockedCount_of_mem_realNodes (mem_rankedBlockers.mp hlisted).1,
      blockedCount_of_mem_realNodes hm]
    exact blockedCount_lt hx hback
  obtain ⟨i, hij, hi⟩ := exists_lt_topBlockers hm hn hlt
  exact ⟨i, hij, m, hi, rfl⟩

end Graph

/-- An issue that blocks another has at least the count of that one, and the same count exactly when
the two block each other, in which case both block the same issues up to themselves. In the listing
of a graph without orphan edges an issue that blocks a listed one, and is not blocked by it, stands
before it at every limit. -/
theorem blockers_counted_and_listed_first :
    (∀ (edges : List Edge) (x y : IssueId), BlocksThrough edges x y →
      (∀ ids, x ∈ ids → y ∈ ids → ∃ m n,
        (blockedCounts ids edges).find? x = some m ∧ (blockedCounts ids edges).find? y = some n ∧
        n ≤ m ∧ (n = m ↔ BlocksThrough edges y x)) ∧
      (BlocksThrough edges y x →
        insert x {z | BlocksThrough edges x z} = insert y {z | BlocksThrough edges y z})) ∧
    ∀ (issues : List Issue) (options : BuildOptions), options.orphans = false →
      ∀ (limit j : Nat) (n : Node), ((Graph.build issues options).topBlockers limit)[j]? = some n →
      ∀ x, BlocksThrough (Graph.build issues options).edges x n.issueId →
        ¬ BlocksThrough (Graph.build issues options).edges n.issueId x →
        ∃ i < j, ∃ m, ((Graph.build issues options).topBlockers limit)[i]? = some m ∧
          m.issueId = x := by
  constructor
  · intro edges x y hxy
    constructor
    · intro ids hx hy
      refine ⟨_, _, ?_, ?_, blockedCount_le hxy, blockedCount_eq_iff hxy⟩
      · rw [find?_blockedCounts, if_pos hx]
      · rw [find?_blockedCounts, if_pos hy]
    · intro hyx
      rw [insert_blocksThrough, insert_blocksThrough, waitingWith_eq_of_mutual hxy hyx]
  · intro issues options horphans limit j n hn x hx hback
    exact Graph.exists_lt_topBlockers_of_blocksThrough horphans hn hx hback

/-- A disk holds up a database and an interface that wait for each other, and these a site. -/
def outageIssues : List Issue :=
  [{ id := "disk" },
    { id := "api", dependencies := [⟨"api", "db", .known .waitsFor⟩] },
    { id := "db",
      dependencies := [⟨"db", "api", .known .waitsFor⟩, ⟨"db", "disk", .known .parentChild⟩] },
    { id := "site", dependencies := [⟨"site", "db", .known .blocks⟩] }]

theorem blockers_counted_and_listed_first_in_outage :
    BlocksThrough (Graph.build outageIssues {}).edges "db" "api" ∧
    BlocksThrough (Graph.build outageIssues {}).edges "api" "db" ∧
    (∃ m n, (blockedCounts ["api", "db"] (Graph.build outageIssues {}).edges).find? "db" = some m ∧
      (blockedCounts ["api", "db"] (Graph.build outageIssues {}).edges).find? "api" = some n ∧
      n = m) ∧
    BlocksThrough (Graph.build outageIssues {}).edges "disk" "api" ∧
    ¬ BlocksThrough (Graph.build outageIssues {}).edges "api" "disk" ∧
    ∃ n, ((Graph.build outageIssues {}).topBlockers 2)[1]? = some n ∧ n.issueId = "api" ∧
      ∃ i < 1, ∃ m, ((Graph.build outageIssues {}).topBlockers 2)[i]? = some m ∧
        m.issueId = "disk" := by
  have hblocks : ∀ x y, (Chain.ofEdges (Graph.build outageIssues {}).edges x 2).truncated = false →
      (Chain.ofEdges (Graph.build outageIssues {}).edges x 2).blockedBy.contains y = true →
      BlocksThrough (Graph.build outageIssues {}).edges x y :=
    fun x y hcut hy => ⟨2, hcut, SortedSet.contains_iff.mp hy⟩
  have hdb := hblocks "db" "api" (by decide +kernel) (by decide +kernel)
  have hapi := hblocks "api" "db" (by decide +kernel) (by decide +kernel)
  have hdisk := hblocks "disk" "api" (by decide +kernel) (by decide +kernel)
  have hback : ¬ BlocksThrough (Graph.build outageIssues {}).edges "api" "disk" := by
    have hcut : (Chain.ofEdges (Graph.build outageIssues {}).edges "api" 2).truncated = false := by
      decide +kernel
    rw [blocksThrough_iff_of_not_truncated hcut, ← SortedSet.contains_iff]
    decide +kernel
  have hlisted : ((Graph.build outageIssues {}).topBlockers 2)[1]?.map (·.issueId) = some "api" := by
    have hsorted : ((Graph.build outageIssues {}).realNodes.filter
        (0 < ·.data.blockedCount)).Pairwise fun a b => a.blocksMore b = true := by
      decide +kernel
    rw [Graph.topBlockers, List.mergeSort_of_pairwise hsorted]
    decide +kernel
  obtain ⟨n, hn, hid⟩ := Option.map_eq_some_iff.mp hlisted
  obtain ⟨hcounts, hlisting⟩ := blockers_counted_and_listed_first
  obtain ⟨m, k, hm, hk, -, heq⟩ :=
    (hcounts _ "db" "api" hdb).1 ["api", "db"] (by decide) (by decide)
  exact ⟨hdb, hapi, ⟨m, k, hm, hk, heq.mpr hapi⟩, hdisk, hback, n, hn, hid,
    hlisting outageIssues {} rfl 2 1 n hn "disk" (hid ▸ hdisk) (hid ▸ hback)⟩

end IssueGraph
