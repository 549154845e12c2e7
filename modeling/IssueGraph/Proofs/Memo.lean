import IssueGraph.Memo.Analyses
import IssueGraph.Proofs.Fingerprint

/-!
# Remembered analyses are the analyses

Whatever was asked before, whatever gave way and however little room there is, a request is answered
as if nothing were kept. The invariant is that each entry holds the result of every request under
its key; requests under one key have one result as long as the digests of what they write differ.
Main statement: `Analyses.answers_eq_direct`.
-/
namespace IssueGraph

/-! ## One memo -/

namespace Memo

variable {ι κ ν : Type} {m : Memo κ ν} {asked : ι → Prop} {key : ι → κ} {f : ι → ν}

/-- Each entry holds the result of every request under its key. -/
def Faithful (m : Memo κ ν) (asked : ι → Prop) (key : ι → κ) (f : ι → ν) : Prop :=
  ∀ e ∈ m.entries, ∀ x, asked x → key x = e.1 → e.2 = f x

theorem faithful_empty (capacity : Nat) : (empty capacity : Memo κ ν).Faithful asked key f := nofun

variable [BEq κ]

/-- Entries may give way, but nothing comes in except the result of the key that is used. -/
theorem mem_use {k : κ} {v : ν} {e : κ × ν} (h : e ∈ m.use k v) : e = (k, v) ∨ e ∈ m.entries := by
  rcases List.mem_cons.mp (List.mem_of_mem_take h) with h | h
  · exact .inl h
  · exact .inr (List.mem_filter.mp h).1

theorem mem_of_find? [LawfulBEq κ] {k : κ} {v : ν} (h : m.find? k = some v) : (k, v) ∈ m.entries := by
  obtain ⟨l, l', hentries, -⟩ := List.lookup_eq_some_iff.mp h
  rw [hentries]
  simp

theorem Faithful.use {x : ι} {v : ν} {m' : Memo κ ν} (h : m.Faithful asked key f)
    (hentries : m'.entries = m.use (key x) v)
    (hv : ∀ y, asked y → key y = key x → v = f y) : m'.Faithful asked key f := by
  intro e he y hy hkey
  rcases mem_use (hentries ▸ he) with rfl | he
  · exact hv y hy hkey
  · exact h e he y hy hkey

/-- A request is answered with its result, and the entries stay faithful. -/
theorem Faithful.get [LawfulBEq κ] {x : ι} (h : m.Faithful asked key f)
    (hkey : ∀ y, asked y → key y = key x → f x = f y) (hx : asked x) :
    (m.get (key x) fun _ => f x).2.value = f x ∧
      (m.get (key x) fun _ => f x).1.Faithful asked key f := by
  unfold Memo.get
  split
  · next v hv =>
    -- The entry may come from another request under the same key.
    have hresult := h _ (mem_of_find? hv)
    exact ⟨hresult x hx rfl, h.use rfl hresult⟩
  · exact ⟨rfl, h.use rfl hkey⟩

end Memo

/-! ## Three memos -/

namespace Analyses

/-- A request; a chain may be asked for without a depth. -/
inductive Call where
  | graph (issues : List Issue) (options : BuildOptions)
  | blockedCounts (ids : List IssueId) (edges : List Edge)
  | chain (id : IssueId) (edges : List Edge) (depth : Option Nat)

inductive Answer where
  | graph (g : Graph)
  | blockedCounts (counts : SortedMap IssueId Nat)
  | chain (c : Chain)
  deriving DecidableEq

namespace Call

/-- The answer of the analyses themselves. -/
def direct (maxChainDepth : Nat) : Call → Answer
  | graph issues options => .graph (Graph.build issues options)
  | blockedCounts ids edges => .blockedCounts (IssueGraph.blockedCounts ids edges)
  | chain id edges depth => .chain (Chain.ofEdges edges id (depth.getD maxChainDepth))

/-- What is written for the fingerprint of a request. -/
def inputs (maxChainDepth : Nat) : Call → Fingerprint.Inputs
  | graph issues options => .graph issues options
  | blockedCounts ids edges => .counts ids edges
  | chain id edges depth => .chain id edges (depth.getD maxChainDepth)

end Call

/-- The answer to one request. -/
def answer (a : Analyses) : Call → Analyses × Answer
  | .graph issues options =>
    let (a, served) := a.graph issues options
    (a, .graph served.value)
  | .blockedCounts ids edges =>
    let (a, served) := a.blockedCounts ids edges
    (a, .blockedCounts served.value)
  | .chain id edges depth =>
    let (a, served) := a.chain id edges depth
    (a, .chain served.value)

/-- The answers to requests one after the other. -/
def answers (a : Analyses) : List Call → List Answer
  | [] => []
  | c :: cs => (a.answer c).2 :: (a.answer c).1.answers cs

/-- No two of the inputs have one digest unless they are written alike. -/
def DigestsDiffer (asked : List Fingerprint.Inputs) : Prop :=
  ∀ p ∈ asked, ∀ q ∈ asked, Sha256.digest p.bytes = Sha256.digest q.bytes → p.bytes = q.bytes

structure Faithful (a : Analyses) (asked : List Fingerprint.Inputs) : Prop where
  graphs : a.graphs.Faithful (fun x : List Issue × BuildOptions => .graph x.1 x.2 ∈ asked)
    (fun x => .of (Fingerprint.graphInputs x.1 x.2)) fun x => Graph.build x.1 x.2
  counts : a.counts.Faithful (fun x : List IssueId × List Edge => .counts x.1 x.2 ∈ asked)
    (fun x => .of (Fingerprint.countsInputs x.1 x.2)) fun x => IssueGraph.blockedCounts x.1 x.2
  chains : a.chains.Faithful
    (fun x : IssueId × List Edge × Nat => .chain x.1 x.2.1 x.2.2 ∈ asked)
    (fun x => .of (Fingerprint.chainInputs x.1 x.2.1 x.2.2))
    fun x => Chain.ofEdges x.2.1 x.1 x.2.2

variable {a : Analyses} {asked : List Fingerprint.Inputs}

theorem faithful_new (config : Config) : (new config).Faithful asked where
  graphs := Memo.faithful_empty _
  counts := Memo.faithful_empty _
  chains := Memo.faithful_empty _

/-- Requests under one fingerprint have the same inputs. -/
theorem DigestsDiffer.inputs_eq (h : DigestsDiffer asked) {p q : Fingerprint.Inputs}
    (hp : p ∈ asked) (hq : q ∈ asked)
    (hkey : Fingerprint.of p.toJson = Fingerprint.of q.toJson) : p = q :=
  Fingerprint.Inputs.bytes_inj (h p hp q hq (congrArg Fingerprint.digest hkey))

theorem Faithful.answer (ha : a.Faithful asked) (h : DigestsDiffer asked) {c : Call}
    (hc : c.inputs a.maxChainDepth ∈ asked) :
    (a.answer c).2 = c.direct a.maxChainDepth ∧ (a.answer c).1.Faithful asked ∧
      (a.answer c).1.maxChainDepth = a.maxChainDepth := by
  cases c with
  | graph issues options =>
    obtain ⟨hvalue, hgraphs⟩ := ha.graphs.get (x := (issues, options)) (by
      rintro ⟨issues', options'⟩ hasked hkey
      cases h.inputs_eq hasked hc hkey
      rfl) hc
    exact ⟨congrArg Answer.graph hvalue, { ha with graphs := hgraphs }, rfl⟩
  | blockedCounts ids edges =>
    obtain ⟨hvalue, hcounts⟩ := ha.counts.get (x := (ids, edges)) (by
      rintro ⟨ids', edges'⟩ hasked hkey
      cases h.inputs_eq hasked hc hkey
      rfl) hc
    exact ⟨congrArg Answer.blockedCounts hvalue, { ha with counts := hcounts }, rfl⟩
  | chain id edges depth =>
    obtain ⟨hvalue, hchains⟩ := ha.chains.get (x := (id, edges, depth.getD a.maxChainDepth)) (by
      rintro ⟨id', edges', depth'⟩ hasked hkey
      cases h.inputs_eq hasked hc hkey
      rfl) hc
    exact ⟨congrArg Answer.chain hvalue, { ha with chains := hchains }, rfl⟩

theorem Faithful.answers (ha : a.Faithful asked) (h : DigestsDiffer asked) {calls : List Call}
    (hcalls : ∀ c ∈ calls, c.inputs a.maxChainDepth ∈ asked) :
    a.answers calls = calls.map (Call.direct a.maxChainDepth) := by
  induction calls generalizing a with
  | nil => rfl
  | cons c calls ih =>
    obtain ⟨hc, hcalls⟩ := List.forall_mem_cons.mp hcalls
    obtain ⟨hanswer, hfaithful, hdepth⟩ := ha.answer h hc
    rw [Analyses.answers, hanswer, ih hfaithful (hdepth ▸ hcalls), hdepth, List.map_cons]

/-- Requests to new memos of any capacity, in any order, are answered as the analyses answer them,
if no two of their inputs that are written differently have one digest. -/
theorem answers_eq_direct (config : Config) (calls : List Call)
    (h : DigestsDiffer (calls.map (Call.inputs config.maxChainDepth))) :
    (new config).answers calls = calls.map (Call.direct config.maxChainDepth) :=
  (faithful_new config).answers h fun _ hc => List.mem_map_of_mem hc

/-- The chain of an issue, whose result gives way before it is asked for again. -/
def sampleCalls : List Call :=
  let edge := Edge.ofDependency ⟨"a", "b", .known .blocks⟩
  [.chain "b" [edge] none, .chain "b" [edge] (some 0), .chain "b" [edge] none]

theorem answers_eq_direct_without_room :
    DigestsDiffer (sampleCalls.map (Call.inputs 20)) ∧
      (new { memoCapacity := 0 }).answers sampleCalls = sampleCalls.map (Call.direct 20) := by
  have h : DigestsDiffer (sampleCalls.map (Call.inputs 20)) := by
    simp only [DigestsDiffer, Fingerprint.Inputs.bytes_eq]
    decide +kernel
  exact ⟨h, answers_eq_direct { memoCapacity := 0 } sampleCalls h⟩

end Analyses

end IssueGraph
