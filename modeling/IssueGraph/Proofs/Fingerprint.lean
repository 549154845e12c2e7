import IssueGraph.Fingerprint
import IssueGraph.Proofs.Graph.Json
import IssueGraph.Proofs.Json.Compact
import IssueGraph.Proofs.Text.Utf8

/-!
# What fingerprints are taken of

The bytes that are digested tell the inputs of an analysis: its name, and each input in full. Main
statement: `Fingerprint.digested_bytes_tell_inputs`.
-/
namespace IssueGraph.Fingerprint

open Json

/-- The inputs of an analysis. -/
inductive Inputs where
  | graph (issues : List Issue) (options : BuildOptions)
  | counts (ids : List IssueId) (edges : List Edge)
  | chain (id : IssueId) (edges : List Edge) (depth : Nat)
  deriving DecidableEq

namespace Inputs

/-- The list that is written of the inputs. -/
def toJson : Inputs → Json
  | graph issues options => graphInputs issues options
  | counts ids edges => countsInputs ids edges
  | chain id edges depth => chainInputs id edges depth

/-- The bytes that are digested. -/
def bytes (q : Inputs) : List UInt8 := Utf8.encode q.toJson.compactText

theorem bytes_eq (q : Inputs) : q.bytes = q.toJson.compact.flatMap String.utf8EncodeChar := by
  rw [bytes, Utf8.encode_eq, compactText, String.toList_ofList]

theorem every_toJson (q : Inputs) : Every Number.IsWhole q.toJson := by
  cases q with
  | graph issues options =>
    have hissues : Every Number.IsWhole (.arr (issues.map Issue.toJson)) :=
      .arr_map fun i => i.every_toJson ⟨_, rfl⟩
    exact .arr (by simp [Every.str, hissues, options.every_toJson])
  | counts ids edges =>
    have hids : Every Number.IsWhole (.arr (ids.map .str)) := .arr_map fun _ => .str _
    have hedges : Every Number.IsWhole (.arr (edges.map Edge.toJson)) := .arr_map Edge.every_toJson
    exact .arr (by simp [Every.str, hids, hedges])
  | chain id edges depth =>
    have hedges : Every Number.IsWhole (.arr (edges.map Edge.toJson)) := .arr_map Edge.every_toJson
    have hdepth : Every Number.IsWhole (.int depth) := .int ⟨_, rfl⟩
    exact .arr (by simp [Every.str, hedges, hdepth])

theorem map_toJson_inj {α : Type} {f : α → Json} (hf : Function.Injective f) {as bs : List α}
    (h : as.map f = bs.map f) : as = bs :=
  (List.map_inj_right fun _ _ hab => hf hab).mp h

theorem toJson_injective : Function.Injective toJson := by
  intro q q' h
  cases q with
  | graph issues options =>
    cases q' with
    | graph issues' options' =>
      obtain ⟨hissues, hoptions⟩ : issues.map Issue.toJson = issues'.map Issue.toJson ∧
          options.toJson = options'.toJson := by simpa [toJson, graphInputs] using h
      rw [map_toJson_inj Issue.toJson_injective hissues, BuildOptions.toJson_injective hoptions]
    | counts | chain => simp [toJson, graphInputs, countsInputs, chainInputs] at h
  | counts ids edges =>
    cases q' with
    | counts ids' edges' =>
      obtain ⟨hids, hedges⟩ : ids.map Json.str = ids'.map Json.str ∧
          edges.map Edge.toJson = edges'.map Edge.toJson := by
        simpa only [toJson, countsInputs, Json.arr.injEq, List.cons.injEq, true_and, and_true]
          using h
      rw [map_toJson_inj (fun _ _ => Json.str.inj) hids,
        map_toJson_inj Edge.toJson_injective hedges]
    | graph | chain => simp [toJson, graphInputs, countsInputs, chainInputs] at h
  | chain id edges depth =>
    cases q' with
    | chain id' edges' depth' =>
      obtain ⟨rfl, hedges, rfl⟩ : id = id' ∧ edges.map Edge.toJson = edges'.map Edge.toJson ∧
          depth = depth' := by simpa [toJson, chainInputs, Int.ofNat_inj] using h
      rw [map_toJson_inj Edge.toJson_injective hedges]
    | graph | counts => simp [toJson, graphInputs, countsInputs, chainInputs] at h

theorem bytes_inj {q q' : Inputs} (h : q.bytes = q'.bytes) : q = q' := by
  have htext : String.ofList q.toJson.compact = String.ofList q'.toJson.compact :=
    Utf8.encode_injective h
  have hcompact : q.toJson.compact = q'.toJson.compact := String.ofList_injective htext
  exact toJson_injective (compact_injective q.every_toJson q'.every_toJson hcompact)

end Inputs

/-- What is digested for a fingerprint tells which analysis is asked for, and all its inputs. -/
theorem digested_bytes_tell_inputs :
    (∀ q : Inputs, Fingerprint.of q.toJson = ⟨Sha256.digest q.bytes⟩) ∧
      Function.Injective Inputs.bytes :=
  ⟨fun _ => rfl, fun _ _ => Inputs.bytes_inj⟩

end IssueGraph.Fingerprint
