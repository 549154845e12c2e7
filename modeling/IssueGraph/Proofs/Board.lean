import IssueGraph.Board
import IssueGraph.Proofs.Graph.BlockedCount
import IssueGraph.Proofs.Memo

/-!
# Boards and their history

A board is asked for graphs and chains one after the other, and a chain asks for a graph itself.
What it replies is what a new board would reply: issues and configuration never change, and the
analyses stay faithful. A query for the chain of a missing issue is refused before the analyses are
touched, so the board is the same after it, and a run without such queries goes as it went with
them. Main statement: `Board.run_forgets_history`.
-/
namespace IssueGraph

namespace Analyses.Faithful

variable {a : Analyses} {asked : List Fingerprint.Inputs}

theorem graph {issues : List Issue} {options : BuildOptions} (ha : a.Faithful asked)
    (h : DigestsDiffer asked) (hc : .graph issues options ∈ asked) :
    (a.graph issues options).2.value = Graph.build issues options ∧
      (a.graph issues options).1.Faithful asked := by
  obtain ⟨hvalue, hfaithful, -⟩ := ha.answer h (c := .graph issues options) hc
  exact ⟨Answer.graph.inj hvalue, hfaithful⟩

theorem chain {id : IssueId} {edges : List Edge} {depth : Option Nat} (ha : a.Faithful asked)
    (h : DigestsDiffer asked) (hc : .chain id edges (depth.getD a.maxChainDepth) ∈ asked) :
    (a.chain id edges depth).2.value = Chain.ofEdges edges id (depth.getD a.maxChainDepth) ∧
      (a.chain id edges depth).1.Faithful asked := by
  obtain ⟨hvalue, hfaithful, -⟩ := ha.answer h (c := .chain id edges depth) hc
  exact ⟨Answer.chain.inj hvalue, hfaithful⟩

end Analyses.Faithful

namespace Board

/-! ## Queries -/

inductive Query where
  | graph (options : BuildOptions)
  | chain (id : IssueId) (depth : Option Nat)

/-- What a query yields; for each part it says whether it had to be computed. -/
inductive Answer where
  | graph (served : Served Graph)
  | chain (served : Except Failure (Served Graph × Served Chain))

/-- What an answer says, wherever it was taken from. -/
inductive Reply where
  | graph (g : Graph)
  | chain (found : Except Failure (Graph × Chain))

namespace Answer

def reply : Answer → Reply
  | graph served => .graph served.value
  | chain served => .chain (served.map fun (g, c) => (g.value, c.value))

def isRefusal : Answer → Bool
  | chain (.error _) => true
  | _ => false

end Answer

namespace Query

variable (issues : List Issue) (config : Config)

/-- The query is for the chain of an issue that is not among these. -/
def isForMissing : Query → Bool
  | graph _ => false
  | chain id _ => id ∉ issues.map (·.id)

/-- The reply of the analyses themselves. -/
def direct : Query → Reply
  | graph options => .graph (Graph.build issues options)
  | chain id depth =>
    let g := Graph.build issues config.buildOptions
    .chain (if id ∈ issues.map (·.id)
      then .ok (g, Chain.ofEdges g.edges id (depth.getD config.maxChainDepth))
      else .error (.issueNotFound id))

/-- What is written for the fingerprints of a query. -/
def inputs : Query → List Fingerprint.Inputs
  | graph options => [.graph issues options]
  | chain id depth =>
    if id ∈ issues.map (·.id)
      then [.graph issues config.buildOptions,
        .chain id (Graph.build issues config.buildOptions).edges
          (depth.getD config.maxChainDepth)]
      else []

end Query

/-- The board after one query, and the answer. -/
def ask (b : Board) : Query → Board × Answer
  | .graph options =>
    let (b, served) := b.graph options
    (b, .graph served)
  | .chain id depth =>
    let (b, served) := b.askChain id depth
    (b, .chain served)

/-- The board after queries one after the other, and the answers. -/
def run (b : Board) : List Query → Board × List Answer
  | [] => (b, [])
  | q :: queries =>
    let (b, answer) := b.ask q
    let (b, answers) := b.run queries
    (b, answer :: answers)

theorem run_cons (b : Board) (q : Query) (queries : List Query) :
    b.run (q :: queries) =
      (((b.ask q).1.run queries).1, (b.ask q).2 :: ((b.ask q).1.run queries).2) := rfl

/-! ## One query -/

/-- The board has these issues under this configuration. -/
structure Over (issues : List Issue) (config : Config) (b : Board) : Prop where
  issues_eq : b.issues = issues
  config_eq : b.config = config
  depth_eq : b.analyses.maxChainDepth = config.maxChainDepth

variable {issues : List Issue} {config : Config} {b : Board} {asked : List Fingerprint.Inputs}
  {q : Query} {queries : List Query} {id : IssueId} {depth : Option Nat}

theorem over_new (c : Collection) (config : Config) : (new c config).Over c.issues config :=
  ⟨rfl, rfl, rfl⟩

theorem askChain_of_mem (hid : id ∈ b.issues.map (·.id)) : b.askChain id depth =
    let g := b.analyses.graph b.issues b.defaultOptions
    let c := g.1.chain id g.2.value.edges depth
    ({ b with analyses := c.1 }, .ok (g.2, c.2)) := by
  rw [askChain, if_pos (Graph.isPresent_iff.mpr hid)]
  rfl

theorem askChain_of_not_mem (hid : id ∉ b.issues.map (·.id)) :
    b.askChain id depth = (b, .error (.issueNotFound id)) := by
  rw [askChain, if_neg (mt Graph.isPresent_iff.mp hid)]

theorem Over.ask (h : b.Over issues config) (q : Query) : (b.ask q).1.Over issues config := by
  cases q with
  | graph options => exact ⟨h.issues_eq, h.config_eq, h.depth_eq⟩
  | chain id depth =>
    by_cases hid : id ∈ b.issues.map (·.id)
    · rw [Board.ask, askChain_of_mem hid]
      exact ⟨h.issues_eq, h.config_eq, h.depth_eq⟩
    · rw [Board.ask, askChain_of_not_mem hid]
      exact h

theorem Over.isRefusal_ask (h : b.Over issues config) (q : Query) :
    (b.ask q).2.isRefusal = q.isForMissing issues := by
  obtain ⟨rfl, -, -⟩ := h
  cases q with
  | graph options => rfl
  | chain id depth =>
    by_cases hid : id ∈ b.issues.map (·.id)
    · rw [Board.ask, askChain_of_mem hid, Query.isForMissing, decide_eq_false (not_not.mpr hid)]
      rfl
    · rw [Board.ask, askChain_of_not_mem hid, Query.isForMissing, decide_eq_true hid]
      rfl

/-- A query that is refused leaves no trace. -/
theorem Over.ask_of_missing (h : b.Over issues config) (hq : q.isForMissing issues = true) :
    (b.ask q).1 = b := by
  obtain ⟨rfl, -, -⟩ := h
  cases q with
  | graph options => cases hq
  | chain id depth => rw [Board.ask, askChain_of_not_mem (of_decide_eq_true hq)]

/-- A query is replied to as the analyses reply, and these stay faithful. -/
theorem Over.reply_ask (h : b.Over issues config) (ha : b.analyses.Faithful asked)
    (hdigests : Analyses.DigestsDiffer asked) (hq : ∀ p ∈ q.inputs issues config, p ∈ asked) :
    (b.ask q).2.reply = q.direct issues config ∧ (b.ask q).1.analyses.Faithful asked := by
  obtain ⟨rfl, rfl, hdepth⟩ := h
  cases q with
  | graph options =>
    obtain ⟨hgraph, ha⟩ := ha.graph hdigests (hq _ (List.mem_singleton_self _))
    exact ⟨congrArg Reply.graph hgraph, ha⟩
  | chain id depth =>
    by_cases hid : id ∈ b.issues.map (·.id)
    · rw [Query.inputs, if_pos hid, List.forall_mem_cons, List.forall_mem_singleton, ← hdepth] at hq
      obtain ⟨hgraphs, hchains⟩ := hq
      obtain ⟨hgraph, ha⟩ := ha.graph hdigests hgraphs
      -- The chain is asked for over the edges of the graph as it was served.
      rw [← hgraph] at hchains
      obtain ⟨hchain, ha⟩ := ha.chain hdigests hchains
      rw [Board.ask, askChain_of_mem hid, Query.direct, if_pos hid, ← hdepth, ← hgraph]
      exact ⟨congrArg (fun c => Reply.chain (.ok (_, c))) hchain, ha⟩
    · rw [Board.ask, askChain_of_not_mem hid, Query.direct, if_neg hid]
      exact ⟨rfl, ha⟩

/-! ## Runs -/

theorem Over.isRefusal_run (h : b.Over issues config) :
    (b.run queries).2.map Answer.isRefusal = queries.map (Query.isForMissing issues) := by
  induction queries generalizing b with
  | nil => rfl
  | cons q queries ih =>
    rw [run_cons, List.map_cons, List.map_cons, h.isRefusal_ask, ih (h.ask q)]

/-- A run without the queries for missing issues ends on the same board, with the other answers. -/
theorem Over.run_filter (h : b.Over issues config) :
    b.run (queries.filter (!·.isForMissing issues)) =
      ((b.run queries).1, (b.run queries).2.filter (!·.isRefusal)) := by
  induction queries generalizing b with
  | nil => rfl
  | cons q queries ih =>
    have hrefusal := h.isRefusal_ask q
    rw [run_cons, List.filter_cons, List.filter_cons, hrefusal]
    cases hq : q.isForMissing issues with
    | false =>
      simp only [Bool.not_false, if_true]
      rw [run_cons, ih (h.ask q)]
    | true =>
      simp only [Bool.not_true, Bool.false_eq_true, if_false]
      rw [h.ask_of_missing hq, ih h]

theorem Over.reply_run (h : b.Over issues config) (ha : b.analyses.Faithful asked)
    (hdigests : Analyses.DigestsDiffer asked)
    (hqueries : ∀ q ∈ queries, ∀ p ∈ q.inputs issues config, p ∈ asked) :
    (b.run queries).2.map Answer.reply = queries.map (Query.direct issues config) := by
  induction queries generalizing b with
  | nil => rfl
  | cons q queries ih =>
    obtain ⟨hq, hqueries⟩ := List.forall_mem_cons.mp hqueries
    obtain ⟨hreply, hfaithful⟩ := h.reply_ask ha hdigests hq
    rw [run_cons, List.map_cons, List.map_cons, hreply, ih (h.ask q) hfaithful hqueries]

theorem eq_new_of_ofCollection {c : Collection} (h : ofCollection c config = .ok b) :
    b = new c config := by
  unfold ofCollection at h
  split at h
  · exact (Except.ok.inj h).symm
  · cases h

/-- A board replies to each query as if it were the first one, if no two of the inputs that are
written for the run have one digest without being written alike. It refuses exactly the queries for
missing issues, and a run without these has the other answers, taken from the memos or computed as
before, and ends on the same board with the same counts of requests. -/
theorem run_forgets_history (c : Collection) (config : Config) (b : Board)
    (hb : ofCollection c config = .ok b) (queries : List Query) :
    (Analyses.DigestsDiffer (queries.flatMap (Query.inputs c.issues config)) →
      (b.run queries).2.map Answer.reply = queries.map (Query.direct c.issues config)) ∧
    (b.run queries).2.map Answer.isRefusal = queries.map (Query.isForMissing c.issues) ∧
    b.run (queries.filter (!·.isForMissing c.issues)) =
      ((b.run queries).1, (b.run queries).2.filter (!·.isRefusal)) := by
  obtain rfl := eq_new_of_ofCollection hb
  have hover := over_new c config
  refine ⟨fun hdigests => ?_, hover.isRefusal_run, hover.run_filter⟩
  exact hover.reply_run (Analyses.faithful_new config) hdigests fun q hq p hp =>
    List.mem_flatMap.mpr ⟨q, hq, hp⟩

/-- Two chains that push each other out of a memo with room for one, with refusals between them. -/
def sampleQueries : List Query :=
  [.chain "b" none, .chain "z" none, .chain "b" (some 0), .chain "z" (some 0), .chain "b" none]

/-- An issue that is blocked by a missing one. -/
def sampleCollection : Collection where
  issues := [{ id := "b", dependencies := [⟨"b", "gone", .known .blocks⟩] }]

/-- Edges to missing issues are drawn, and one result is kept. -/
def sampleConfig : Config where
  includeOrphanEdges := true
  memoCapacity := 1

theorem run_forgets_history_without_room :
    ofCollection sampleCollection sampleConfig = .ok (new sampleCollection sampleConfig) ∧
    (Graph.build sampleCollection.issues sampleConfig.buildOptions).edges.map (·.target) =
      [nodeId "gone"] ∧
    Analyses.DigestsDiffer (sampleQueries.flatMap
      (Query.inputs sampleCollection.issues sampleConfig)) ∧
    ((new sampleCollection sampleConfig).run sampleQueries).2.map Answer.reply =
      sampleQueries.map (Query.direct sampleCollection.issues sampleConfig) ∧
    ((new sampleCollection sampleConfig).run sampleQueries).2.map Answer.isRefusal =
      [false, true, false, true, false] ∧
    (new sampleCollection sampleConfig).run
        [.chain "b" none, .chain "b" (some 0), .chain "b" none] =
      (((new sampleCollection sampleConfig).run sampleQueries).1,
        ((new sampleCollection sampleConfig).run sampleQueries).2.filter (!·.isRefusal)) := by
  have hb : ofCollection sampleCollection sampleConfig =
      .ok (new sampleCollection sampleConfig) := rfl
  have hdigests : Analyses.DigestsDiffer (sampleQueries.flatMap
      (Query.inputs sampleCollection.issues sampleConfig)) := by
    simp only [Analyses.DigestsDiffer, Fingerprint.Inputs.bytes_eq]
    decide +kernel
  obtain ⟨hreplies, hrefusals, hfiltered⟩ :=
    run_forgets_history sampleCollection sampleConfig _ hb sampleQueries
  have hasked : sampleQueries.filter (!·.isForMissing sampleCollection.issues) =
      [.chain "b" none, .chain "b" (some 0), .chain "b" none] := rfl
  rw [hasked] at hfiltered
  exact ⟨hb, by decide, hdigests, hreplies hdigests, hrefusals.trans (by decide), hfiltered⟩

end Board

end IssueGraph
