import IssueGraph.Proofs.Collection
import IssueGraph.Proofs.CommandLine.Agreement
import IssueGraph.Proofs.CommandLine.Failure
import IssueGraph.Proofs.Graph.Ready
import IssueGraph.Proofs.Graph.Reordering
import IssueGraph.Proofs.Json.Pretty

/-!
# What the listings hold

Both listings sort nodes of issues that are present by a key that ends in the id. No two of these
nodes share an id, so the keys increase strictly and nothing is left to the order in which the
issues come. A limit keeps the beginning of the whole listing, so what it leaves out comes later
than all that it keeps. What is printed of the issues that are ready is that listing. Main
statements: `ready_lists_exactly`, `topBlockers_list_exactly` and `run_ready`.
-/
namespace IssueGraph

namespace Node

variable {a b : Node}

theorem urgency_lt_iff : a.urgency < b.urgency ↔
    a.data.issue.priority < b.data.issue.priority ∨
      a.data.issue.priority = b.data.issue.priority ∧ a.issueId < b.issueId := by
  rw [urgency, urgency, Prod.Lex.toLex_lt_toLex]
  simp [UInt8.lt_iff_toNat_lt, UInt8.toNat_inj]

theorem weight_lt_iff : a.weight < b.weight ↔
    b.data.blockedCount < a.data.blockedCount ∨
      a.data.blockedCount = b.data.blockedCount ∧ a.issueId < b.issueId := by
  rw [weight, weight, Prod.Lex.toLex_lt_toLex]
  exact Iff.rfl

end Node

namespace Graph

variable {issues : List Issue} {options : BuildOptions} {l : List Node}

theorem issueIds_realNodes_build :
    (build issues options).realNodes.map (·.issueId) = issues.map (·.id) := by
  rw [realNodes_build, List.map_map]
  rfl

/-- Some real nodes in another order name no issue twice. -/
theorem nodup_issueIds_listed (hids : (issues.map (·.id)).Nodup) {p : Node → Bool}
    (hl : l.Perm ((build issues options).realNodes.filter p)) : (l.map (·.issueId)).Nodup := by
  have hreal : ((build issues options).realNodes.map (·.issueId)).Nodup := by
    rwa [issueIds_realNodes_build]
  exact (hl.map _).nodup_iff.mpr (hreal.sublist (List.filter_sublist.map _))

/-- Keys that end in the id increase strictly if no issue is named twice. -/
theorem pairwise_lt_listed {κ : Type} [PartialOrder κ] {key : Node → κ ×ₗ String}
    (hkey : ∀ n, (ofLex (key n)).2 = n.issueId) (hl : l.Pairwise fun a b => key a ≤ key b)
    (honce : (l.map (·.issueId)).Nodup) : l.Pairwise fun a b => key a < key b := by
  refine pairwise_lt_of_nodup hl (List.Nodup.of_map (fun u : κ ×ₗ String => (ofLex u).2) ?_)
  rw [List.map_map]
  exact (List.map_congr_left fun n _ => hkey n) ▸ honce

/-! ## Issues that are ready -/

/-- The nodes are those of the issues to be worked on, each once and the most urgent first. -/
structure ListsReady (issues : List Issue) (nodes : List Node) : Prop where
  notGhost : ∀ n ∈ nodes, n.data.isGhost = false
  mem_iff : ∀ i, i ∈ nodes.map (·.data.issue) ↔
    i ∈ issues ∧ i.status ≠ some .closed ∧ i.status ≠ some .deferred ∧ ¬ i.id ∈ liveBlocked issues
  once : (nodes.map (·.issueId)).Nodup
  increasing : nodes.Pairwise fun a b =>
    a.data.issue.priority < b.data.issue.priority ∨
      a.data.issue.priority = b.data.issue.priority ∧ a.issueId < b.issueId

theorem readyIssues_eq_elim (g : Graph) (limit : Option Nat) :
    g.readyIssues limit = limit.elim (g.readyIssues none) (g.readyIssues none).take := by
  cases limit <;> rfl

theorem pairwise_readyIssues (g : Graph) :
    (g.readyIssues none).Pairwise fun a b => a.urgency ≤ b.urgency :=
  (List.pairwise_mergeSort Node.isMoreUrgent_trans Node.isMoreUrgent_total _).imp
    Node.isMoreUrgent_iff.mp

theorem mem_issues_readyIssues {i : Issue} :
    i ∈ ((build issues (options.withBlocked (liveBlocked issues))).readyIssues none).map
        (·.data.issue) ↔
      i ∈ issues ∧ i.status ≠ some .closed ∧ i.status ≠ some .deferred ∧
        ¬ i.id ∈ liveBlocked issues := by
  rw [List.mem_map, ← isReady_iff]
  constructor
  · rintro ⟨n, hn, rfl⟩
    obtain ⟨i, hi, hready, rfl⟩ := mem_readyNodes_build.mp (mem_readyIssues_none.mp hn)
    exact ⟨hi, hready⟩
  · rintro ⟨hi, hready⟩
    exact ⟨_, mem_readyIssues_none.mpr (mem_readyNodes_build.mpr ⟨i, hi, hready, rfl⟩), rfl⟩

theorem listsReady_build (hids : (issues.map (·.id)).Nodup) (options : BuildOptions) :
    ListsReady issues
      ((build issues (options.withBlocked (liveBlocked issues))).readyIssues none) := by
  have honce : (((build issues (options.withBlocked (liveBlocked issues))).readyIssues none).map
      (·.issueId)).Nodup :=
    nodup_issueIds_listed hids (List.mergeSort_perm _ _)
  have hincreasing := pairwise_lt_listed (fun _ => rfl) (pairwise_readyIssues _) honce
  refine ⟨?_, fun _ => mem_issues_readyIssues, honce, hincreasing.imp Node.urgency_lt_iff.mp⟩
  intro n hn
  have hreal := (List.mem_filter.mp (mem_readyIssues_none.mp hn)).1
  simpa using (List.mem_filter.mp hreal).2

/-! ## Issues that block most -/

/-- The nodes are the first of all that block something, `limit` of them if there are so many: those
that block most, and of several that block as much the first by their ids. -/
structure ListsBlockers (g : Graph) (limit : Nat) (nodes : List Node) : Prop where
  length_eq : nodes.length = min limit (g.realNodes.countP (0 < ·.data.blockedCount))
  blocking : ∀ n ∈ nodes, n ∈ g.realNodes ∧ 0 < n.data.blockedCount
  once : (nodes.map (·.issueId)).Nodup
  increasing : nodes.Pairwise fun a b =>
    b.data.blockedCount < a.data.blockedCount ∨
      a.data.blockedCount = b.data.blockedCount ∧ a.issueId < b.issueId
  /-- Whatever is left out comes after all that is listed. -/
  complete : ∀ m ∈ g.realNodes, m ∉ nodes → ∀ n ∈ nodes,
    m.data.blockedCount < n.data.blockedCount ∨
      n.data.blockedCount = m.data.blockedCount ∧ n.issueId < m.issueId

theorem length_rankedBlockers (g : Graph) :
    g.rankedBlockers.length = g.realNodes.countP (0 < ·.data.blockedCount) := by
  rw [rankedBlockers, List.length_mergeSort, List.countP_eq_length_filter]

theorem nodup_rankedBlockers (hids : (issues.map (·.id)).Nodup) (options : BuildOptions) :
    ((build issues options).rankedBlockers.map (·.issueId)).Nodup :=
  nodup_issueIds_listed hids (List.mergeSort_perm _ _)

theorem increasing_rankedBlockers (hids : (issues.map (·.id)).Nodup) (options : BuildOptions) :
    (build issues options).rankedBlockers.Pairwise fun a b =>
      b.data.blockedCount < a.data.blockedCount ∨
        a.data.blockedCount = b.data.blockedCount ∧ a.issueId < b.issueId := by
  have hsorted := (pairwise_rankedBlockers (build issues options)).imp Node.blocksMore_iff_weight.mp
  have hincreasing := pairwise_lt_listed (fun _ => rfl) hsorted (nodup_rankedBlockers hids options)
  exact hincreasing.imp Node.weight_lt_iff.mp

theorem listsBlockers_build (hids : (issues.map (·.id)).Nodup) (options : BuildOptions)
    (limit : Nat) :
    ListsBlockers (build issues options) limit ((build issues options).topBlockers limit) where
  length_eq := by rw [topBlockers_eq_take, List.length_take, length_rankedBlockers]
  blocking := fun _ hn => mem_rankedBlockers.mp (List.mem_of_mem_take hn)
  once := (nodup_rankedBlockers hids options).sublist ((List.take_sublist _ _).map _)
  increasing := (increasing_rankedBlockers hids options).sublist (List.take_sublist _ _)
  complete := by
    intro m hm hleft n hn
    by_cases hblocks : 0 < m.data.blockedCount
    · -- The whole listing is what is kept and then what is left out.
      have hmem : m ∈ (build issues options).rankedBlockers := mem_rankedBlockers.mpr ⟨hm, hblocks⟩
      have hincreasing := increasing_rankedBlockers hids options
      rw [← List.take_append_drop limit (build issues options).rankedBlockers] at hmem hincreasing
      have hdrop := (List.mem_append.mp hmem).resolve_left hleft
      exact (List.pairwise_append.mp hincreasing).2.2 n hn m hdrop
    · have hpos := (mem_rankedBlockers.mp (List.mem_of_mem_take hn)).2
      omega

/-- The listing of top blockers has as many of the nodes that block something as the limit lets in,
each once and in strict order, and whatever it leaves out comes after it. A smaller limit keeps its
beginning. -/
theorem topBlockers_list_exactly (issues : List Issue) (hids : (issues.map (·.id)).Nodup)
    (options : BuildOptions) :
    (∀ limit, ListsBlockers (build issues options) limit
      ((build issues options).topBlockers limit)) ∧
    ∀ k m, k ≤ m →
      (build issues options).topBlockers k = ((build issues options).topBlockers m).take k := by
  refine ⟨listsBlockers_build hids options, ?_⟩
  intro k m hkm
  rw [topBlockers_eq_take, topBlockers_eq_take, List.take_take, Nat.min_eq_left hkm]

/-- The last of the list holds up all others, two of which wait for each other. -/
theorem topBlockers_list_exactly_in_outage :
    (outageIssues.reverse.map (·.id)).Nodup ∧
      ((build outageIssues.reverse {}).topBlockers 2).map (·.issueId) = ["disk", "api"] ∧
      ListsBlockers (build outageIssues.reverse {}) 2
        ((build outageIssues.reverse {}).topBlockers 2) ∧
      (build outageIssues.reverse {}).topBlockers 2 =
        ((build outageIssues.reverse {}).topBlockers 3).take 2 := by
  have hids : (outageIssues.reverse.map (·.id)).Nodup := by decide
  have hsorted : ((build outageIssues {}).realNodes.filter
      (0 < ·.data.blockedCount)).Pairwise fun a b => a.blocksMore b = true := by
    decide +kernel
  have hlisted : ((build outageIssues.reverse {}).topBlockers 2).map (·.issueId) =
      ["disk", "api"] := by
    rw [topBlockers_eq_of_perm (List.reverse_perm _) hids, topBlockers,
      List.mergeSort_of_pairwise hsorted]
    decide +kernel
  obtain ⟨hlists, htake⟩ := topBlockers_list_exactly outageIssues.reverse hids {}
  exact ⟨hids, hlisted, hlists 2, htake 2 3 (by decide)⟩

end Graph

namespace CommandLine

open Report

theorem find_ready {c : Collection} {config : Config} (limit : Option Nat) :
    Command.find (Board.new c config) (.ready limit) =
      .ok (.ready ((Graph.build c.issues
        (config.buildOptions.withBlocked (liveBlocked c.issues))).readyIssues limit)) := by
  rw [Command.find]
  rfl

/-- The command finds every issue that is neither closed nor deferred nor live blocked, each once
and in strict order of priority and id, and with a limit the beginning of that listing. -/
theorem ready_lists_exactly (c : Collection) (hids : (c.issues.map (·.id)).Nodup)
    (config : Config) :
    ∃ nodes, Graph.ListsReady c.issues nodes ∧
      Command.find (Board.new c config) (.ready none) = .ok (.ready nodes) ∧
      ∀ k, Command.find (Board.new c config) (.ready (some k)) = .ok (.ready (nodes.take k)) :=
  ⟨_, Graph.listsReady_build hids config.buildOptions, find_ready none,
    fun k => find_ready (some k)⟩

/-- Issues that can be worked on between one that is paused, one that is done, one that waits, and
one that names a missing issue. -/
def backlog : Collection where
  issues :=
    [{ id := "b", dependencies := [⟨"b", "gone", .known .blocks⟩] },
      { id := "done", priority := 0, status := some .closed },
      { id := "a", status := some .inProgress },
      { id := "held", priority := 0, dependencies := [⟨"held", "a", .known .waitsFor⟩] },
      { id := "paused", priority := 0, status := some .deferred },
      { id := "z", priority := 1, status := some .blocked }]

theorem ready_lists_exactly_of_backlog :
    (backlog.issues.map (·.id)).Nodup ∧
      ∃ nodes, Graph.ListsReady backlog.issues nodes ∧
        nodes.map (·.issueId) = ["z", "a", "b"] ∧
        Command.find (Board.new backlog { includeOrphanEdges := true }) (.ready (some 2)) =
          .ok (.ready (nodes.take 2)) := by
  have hids : (backlog.issues.map (·.id)).Nodup := by decide
  -- From the last issue to the first the ready ones are in order.
  have hsorted : (Graph.build backlog.issues.reverse
      (({ orphans := true } : BuildOptions).withBlocked
        (liveBlocked backlog.issues))).readyNodes.Pairwise fun a b => a.isMoreUrgent b = true := by
    decide +kernel
  obtain ⟨nodes, hlists, hall, htake⟩ :=
    ready_lists_exactly backlog hids { includeOrphanEdges := true }
  refine ⟨hids, nodes, hlists, ?_, htake 2⟩
  obtain rfl := Report.Finding.ready.inj (Except.ok.inj ((find_ready none).symm.trans hall))
  rw [← Graph.readyIssues_eq_of_perm (List.reverse_perm _) (by decide), Config.buildOptions,
    Graph.readyIssues, List.mergeSort_of_pairwise hsorted]
  decide +kernel

/-! ## What is printed -/

/-- The JSON that is printed of ready issues is read back as a list of these. -/
theorem readText_print_ready (nodes : List Node) (console : Console) :
    Issue.shape.list.readText ((Finding.ready nodes).print true console).1 =
      .ok (nodes.map (·.data.issue)) := by
  have hnumerals : Json.Every (fun n => Json.Numeral n.toJson.compact n)
      (.arr ((nodes.map (·.data.issue)).map Issue.toJson)) :=
    .arr_map Issue.numerals_toJson
  have hread := Json.Shape.readText_pretty hnumerals (Json.blank_newline 0)
    (Json.fit_list fun i _ => i.fit_toJson)
  rwa [List.map_map] at hread

/-- What is printed is the listing: as JSON it is read back as the issues to be worked on, the most
urgent first, and as text it has the lines of their nodes. -/
theorem run_ready {files : Files} {console : Console} {file : String} {config : Option String}
    {c : Config} {collection : Collection} (hconfig : Config.loadFor files file config = .ok c)
    (hissues : Collection.load files file = (collection, none)) :
    ∃ nodes, Graph.ListsReady collection.issues nodes ∧ ∀ limit : Option Nat,
      let listed := limit.elim nodes nodes.take
      let settings := (Settings.ofVariables console.environment).1
      Issue.shape.list.readText (({ file, config, json := true, command := some (.ready limit) } :
        Invocation).run files console).output = .ok (listed.map (·.data.issue)) ∧
      (({ file, config, json := false, command := some (.ready limit) } :
        Invocation).run files console).output =
        print (readyLines console settings (settings.contentWidth console) listed) := by
  have hids := Collection.nodup_ids_load files file
  rw [hissues] at hids
  refine ⟨_, Graph.listsReady_build hids c.buildOptions, fun limit => ?_⟩
  have hrun (json : Bool) : ({ file, config, json, command := some (.ready limit) } :
      Invocation).run files console = _ := run_of_loaded hconfig hissues
  dsimp only
  rw [hrun, hrun, find_ready, ← Graph.readyIssues_eq_elim]
  exact ⟨readText_print_ready _ console, rfl⟩

end CommandLine

end IssueGraph
