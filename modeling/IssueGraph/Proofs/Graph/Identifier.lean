import IssueGraph.Proofs.Graph.Structure
import IssueGraph.Proofs.List

/-!
# Identifiers of nodes and edges

The identifier of an edge can be taken apart again: the digits of a length end at the colon behind
them, and the length tells where the issue id ends, whatever the id contains. What is left is the
tag, which no two types share. So nodes and edges of a graph have identifiers of their own, except
that a record that is kept more than once is drawn as often, each time with the same identifier.
Main statements: `edgeId_eq_edgeId_iff` and `Graph.ids_build`.
-/
namespace IssueGraph

variable {a b a' b' : IssueId} {t t' : DependencyType}

/-! ## Edge identifiers -/

theorem append_inj_of_utf8ByteSize {r s : String} (h : a ++ r = b ++ s)
    (hsize : a.utf8ByteSize = b.utf8ByteSize) : a = b ∧ r = s := by
  have hbytes : a.toByteArray ++ r.toByteArray = b.toByteArray ++ s.toByteArray := by
    simpa only [String.toByteArray_append] using congrArg String.toByteArray h
  obtain rfl : a = b := String.toByteArray_inj.mp (ByteArray.append_inj_left hbytes hsize)
  exact ⟨rfl, (String.append_right_inj a).mp h⟩

/-- A text behind its length and a colon ends where the length says. -/
theorem measured_append_inj {r s : String}
    (h : toString a.utf8ByteSize ++ ":" ++ a ++ r = toString b.utf8ByteSize ++ ":" ++ b ++ s) :
    a = b ∧ r = s := by
  have hchars := congrArg String.toList h
  simp only [String.toList_append, Nat.toString_eq_repr, Nat.toList_repr, List.append_assoc]
    at hchars
  have hcolon : ∀ cs : List Char, ∀ c ∈ (":".toList ++ cs).head?, c.isDigit = false := by
    intro cs c hc
    obtain rfl : ':' = c := Option.some.inj hc
    decide
  obtain ⟨hsize, htext⟩ := number_append_inj (hcolon _) (hcolon _) hchars
  refine append_inj_of_utf8ByteSize ?_ hsize
  rw [← String.toList_inj, String.toList_append, String.toList_append]
  exact List.append_cancel_left htext

/-- The identifier tells the issues and the tag. -/
theorem parts_of_edgeId (h : edgeId a b t = edgeId a' b' t') :
    a = a' ∧ b = b' ∧ t.tag = t'.tag := by
  have hsplit : ∀ (a b : IssueId) (t : DependencyType), edgeId a b t =
      "edge-" ++ (toString a.utf8ByteSize ++ ":" ++ a ++
        ("-" ++ (toString b.utf8ByteSize ++ ":" ++ b ++ ("-" ++ t.tag)))) := by
    intro a b t
    unfold edgeId
    simp only [String.append_assoc]
  rw [hsplit, hsplit, String.append_right_inj] at h
  obtain ⟨ha, h⟩ := measured_append_inj h
  obtain ⟨hb, h⟩ := measured_append_inj ((String.append_right_inj _).mp h)
  exact ⟨ha, hb, (String.append_right_inj _).mp h⟩

/-- Edges have one identifier only if their issues and types are the same. -/
theorem edgeId_eq_edgeId_iff :
    edgeId a b t = edgeId a' b' t' ↔ a = a' ∧ b = b' ∧ t = t' := by
  constructor
  · intro h
    obtain ⟨ha, hb, htag⟩ := parts_of_edgeId h
    exact ⟨ha, hb, DependencyType.tag_injective htag⟩
  · rintro ⟨rfl, rfl, rfl⟩
    rfl

/-! ## Identifiers in a built graph -/

namespace Graph

variable {issues : List Issue} {options : BuildOptions} {d e : Dependency}

theorem id_ofDependency_inj : (Edge.ofDependency d).id = (Edge.ofDependency e).id ↔ d = e := by
  refine ⟨fun h => ?_, congrArg fun d => (Edge.ofDependency d).id⟩
  obtain ⟨hissue, htarget, htag⟩ := parts_of_edgeId h
  cases d
  cases e
  cases hissue
  cases htarget
  cases DependencyType.tag_injective htag
  rfl

theorem edgeIds_build : (build issues options).edges.map (·.id) =
    (retained issues options).map fun d => (Edge.ofDependency d).id := by
  rw [edges_build, kept_eq_retained, List.map_map]
  rfl

theorem nodup_edgeIds_build : ((build issues options).edges.map (·.id)).Nodup ↔
    (retained issues options).Nodup := by
  rw [edgeIds_build]
  exact List.nodup_map_iff fun _ _ => id_ofDependency_inj.mp

theorem count_edgeIds_build (d : Dependency) :
    ((build issues options).edges.map (·.id)).count (edgeId d.issueId d.dependsOnId d.type) =
      (retained issues options).count d := by
  rw [edgeIds_build]
  exact List.count_map_of_injective _ _ (fun _ _ => id_ofDependency_inj.mp) d

/-- An identifier that is given to two edges is given to two drawings of one record. -/
theorem eq_of_edgeId_eq {e f : Edge} (he : e ∈ (build issues options).edges)
    (hf : f ∈ (build issues options).edges) (h : e.id = f.id) : e = f := by
  rw [edges_build] at he hf
  obtain ⟨d, -, rfl⟩ := List.mem_map.mp he
  obtain ⟨d', -, rfl⟩ := List.mem_map.mp hf
  rw [id_ofDependency_inj.mp h]

/-- No two nodes have one identifier. Edges have one only if they are the same edge, drawn for a
record that is retained more than once. -/
theorem ids_build (hids : (issues.map (·.id)).Nodup) :
    ((build issues options).nodes.map (·.id)).Nodup ∧
      (((build issues options).edges.map (·.id)).Nodup ↔ (retained issues options).Nodup) ∧
      (∀ d : Dependency,
        ((build issues options).edges.map (·.id)).count (edgeId d.issueId d.dependsOnId d.type) =
          (retained issues options).count d) ∧
      ∀ e ∈ (build issues options).edges, ∀ f ∈ (build issues options).edges,
        e.id = f.id → e = f :=
  ⟨nodup_ids_build hids, nodup_edgeIds_build, count_edgeIds_build,
    fun _ he _ hf => eq_of_edgeId_eq he hf⟩

theorem ids_build_of_tangle : (tangledIssues.map (·.id)).Nodup ∧
    ((build tangledIssues tangledOptions).nodes.map (·.id)).Nodup ∧
    ((build tangledIssues tangledOptions).edges.map (·.id)).Nodup := by
  have hids : (tangledIssues.map (·.id)).Nodup := by decide
  obtain ⟨hnodes, hedges, -⟩ := @ids_build tangledIssues tangledOptions hids
  exact ⟨hids, hnodes, hedges.mpr (by decide +kernel)⟩

/-- An issue that carries one record twice. -/
def repeatingIssues : List Issue :=
  [{ id := "a" },
    { id := "b", dependencies := [⟨"b", "a", .known .blocks⟩, ⟨"b", "a", .known .blocks⟩] }]

theorem not_nodup_edgeIds_build_of_repetition : (repeatingIssues.map (·.id)).Nodup ∧
    ¬ ((build repeatingIssues {}).edges.map (·.id)).Nodup := by
  decide +kernel

end Graph

end IssueGraph
