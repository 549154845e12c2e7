import IssueGraph.Proofs.List
import IssueGraph.SortedSet

/-!
# Sorted maps by their lookups

A map is determined by what it has at each key, since its entries stand in the order of their keys.
So a map is also what its own entries make when they are put in one after the other. Main
statements: `SortedMap.ext` and `SortedMap.ofList_entries`.
-/
namespace IssueGraph.SortedMap

variable {κ ν : Type} [Ord κ] [Std.LawfulEqOrd κ]

theorem nodup_keys (m : SortedMap κ ν) : (m.entries.map (·.1)).Nodup := by
  refine List.pairwise_map.mpr (m.increasing.imp ?_)
  intro a b hab heq
  rw [heq] at hab
  simp at hab

variable [BEq κ] [LawfulBEq κ]

theorem mem_entries {m : SortedMap κ ν} {k : κ} {v : ν} :
    (k, v) ∈ m.entries ↔ m.find? k = some v :=
  (lookup_eq_some_iff_of_nodup m.nodup_keys).symm

variable [Std.TransOrd κ]

/-- Two maps with the same value at each key are the same value. -/
theorem ext {m n : SortedMap κ ν} (h : ∀ k, m.find? k = n.find? k) : m = n := by
  have hmem : ∀ e, e ∈ m.entries ↔ e ∈ n.entries := fun e => by
    rw [mem_entries, mem_entries, h]
  have hperm : m.entries.Perm n.entries :=
    (List.perm_ext_iff_of_nodup m.nodup_keys.of_map n.nodup_keys.of_map).mpr hmem
  refine entries_inj (hperm.eq_of_pairwise ?_ m.increasing n.increasing)
  intro a b _ _ hab hba
  have hself := Std.TransCmp.lt_trans hab hba
  simp at hself

/-- Entries with keys of their own are all found. -/
theorem find?_ofList {l : List (κ × ν)} (hkeys : (l.map (·.1)).Nodup) (k : κ) :
    (ofList l).find? k = l.lookup k := by
  suffices h : ∀ m : SortedMap κ ν,
      (l.foldl (fun m e => m.insert e.1 e.2) m).find? k = (l.lookup k).or (m.find? k) from
    (h empty).trans Option.or_none
  induction l with
  | nil => exact fun _ => rfl
  | cons e l ih =>
    obtain ⟨hkey, hkeys⟩ := List.nodup_cons.mp hkeys
    intro m
    rw [List.foldl_cons, ih hkeys, find?_insert, lookup_cons_ite]
    by_cases hk : k = e.1
    · have hnone : l.lookup k = none := by
        rw [Option.eq_none_iff_forall_ne_some]
        intro v hv
        rw [lookup_eq_some_iff_of_nodup hkeys, hk] at hv
        exact hkey (List.mem_map.mpr ⟨_, hv, rfl⟩)
      simp [hk ▸ hnone, hk]
    · simp [hk]

theorem ofList_entries (m : SortedMap κ ν) : ofList m.entries = m :=
  ext fun k => find?_ofList m.nodup_keys k

end IssueGraph.SortedMap
