import IssueGraph.Config.Json
import IssueGraph.Proofs.Json.Record
import IssueGraph.Proofs.Json.Written

/-!
# Written issues, edges and options

What is written of an issue, of an edge or of the options of a graph is fitted back to it, so no two
of them are written alike. The only number in them is a priority.
-/
namespace IssueGraph

open Json

theorem SortedSet.ofList_toList {α : Type} [Ord α] [Std.TransOrd α] [Std.LawfulEqOrd α]
    (s : SortedSet α) : SortedSet.ofList s.toList = s :=
  SortedSet.ext fun _ => SortedSet.mem_ofList

theorem Json.fit_setOf {α : Type} [Ord α] [Std.TransOrd α] [Std.LawfulEqOrd α] {item : Shape α}
    {f : α → Json} (h : ∀ a, item.fit (f a) = .ok a) (s : SortedSet α) :
    (Shape.setOf item).fit (.arr (s.toList.map f)) = .ok s :=
  (fit_image (fit_list fun a _ => h a)).trans (congrArg Except.ok s.ofList_toList)

theorem Json.injective_of_fit {α : Type} {s : Shape α} {f : α → Json}
    (h : ∀ a, s.fit (f a) = .ok a) : Function.Injective f := by
  intro a b hab
  have hfit : s.fit (f a) = s.fit (f b) := congrArg s.fit hab
  rw [h, h] at hfit
  exact Except.ok.inj hfit

variable {p : Number → Prop}

theorem Json.Every.arr_map {α : Type} {f : α → Json} {as : List α} (h : ∀ a, Every p (f a)) :
    Every p (.arr (as.map f)) :=
  .arr (List.forall_mem_map.mpr fun a _ => h a)

/-! ## Issues -/

theorem DependencyType.fit_toJson (d : DependencyType) : shape.fit d.toJson = .ok d :=
  (fit_image (s := .text) rfl).trans (congrArg Except.ok (ofTag_tag d))

theorem Dependency.fit_toJson (d : Dependency) : shape.fit d.toJson = .ok d :=
  fit_image (Fields.Written.fit (.given rfl (.given rfl (.given d.type.fit_toJson .nil)))
    (by decide))

theorem Status.fit_toJson (s : Status) : shape.fit s.toJson = .ok s := by
  cases s <;> rfl

theorem Issue.fit_toJson (i : Issue) : shape.fit i.toJson = .ok i := by
  obtain ⟨id, title, priority, status, dependencies⟩ := i
  have hpriority : (Shape.count 256 "u8").fit (.int priority.toNat) = .ok priority.toNat :=
    fit_count priority.toNat_lt
  have hstatus (s : Status) : Status.shape.optional.fit s.toJson = .ok (some s) :=
    fit_optional s.fit_toJson nofun
  have hdependencies := fit_list fun d (_ : d ∈ dependencies) => d.fit_toJson
  refine (fit_image (a := (id, title, priority.toNat, status, dependencies, ()))
    (Fields.Written.fit (.given rfl (.given rfl (.given hpriority ?_))) (by decide))).trans ?_
  · cases status with
    | none =>
      refine .omitted rfl ?_
      cases dependencies with
      | nil => exact .omitted rfl .nil
      | cons => exact .given hdependencies .nil
    | some s =>
      refine .given (hstatus s) ?_
      cases dependencies with
      | nil => exact .omitted rfl .nil
      | cons => exact .given hdependencies .nil
  · simp

theorem Dependency.every_toJson (d : Dependency) : Every p d.toJson :=
  .obj (by simp [DependencyType.toJson, Every.str])

/-- The priority is the only number in an issue. -/
theorem Issue.every_toJson (i : Issue) (h : p (.int i.priority.toNat)) : Every p i.toJson := by
  refine .obj (List.forall_mem_append.mpr ⟨List.forall_mem_append.mpr ⟨?_, ?_⟩, ?_⟩)
  · simp [Every.str, Every.int h]
  · cases i.status with
    | none => exact nofun
    | some s => simp [Status.toJson, Every.str]
  · split
    · exact nofun
    · simp [Every.arr_map Dependency.every_toJson]

theorem Issue.toJson_injective : Function.Injective Issue.toJson :=
  injective_of_fit Issue.fit_toJson

/-! ## Edges and options -/

theorem EdgeData.fit_toJson (d : EdgeData) : shape.fit d.toJson = .ok d :=
  fit_image (Fields.Written.fit
    (.given d.depType.fit_toJson (.given rfl (.given rfl (.given rfl .nil)))) (by decide))

theorem Edge.fit_toJson (e : Edge) : shape.fit e.toJson = .ok e := by
  obtain ⟨id, source, target, data⟩ := e
  refine fit_image (a := (id, source, target, data, ()))
    (Fields.Written.fit (.given rfl (.given rfl (.given rfl ?_))) (by decide))
  cases data with
  | none => exact .omitted rfl .nil
  | some d => exact .given (fit_optional d.fit_toJson nofun) .nil

theorem BuildOptions.fit_toJson (o : BuildOptions) : shape.fit o.toJson = .ok o := by
  obtain ⟨types, blocked, orphans⟩ := o
  refine fit_image (a := (types, blocked, orphans, ()))
    (Fields.Written.fit (.given ?_ (.given ?_ (.given rfl .nil))) (by decide))
  · cases types with
    | none => rfl
    | some types => exact fit_optional (fit_setOf DependencyType.fit_toJson types) nofun
  · cases blocked with
    | none => rfl
    | some ids => exact fit_optional (fit_setOf (fun _ => rfl) ids) nofun

theorem EdgeData.every_toJson (d : EdgeData) : Every p d.toJson :=
  .obj (by simp [DependencyType.toJson, Every.str, Every.bool])

theorem Edge.every_toJson (e : Edge) : Every p e.toJson := by
  refine .obj (List.forall_mem_append.mpr ⟨by simp [Every.str], ?_⟩)
  cases e.data with
  | none => exact nofun
  | some d => simp [d.every_toJson]

theorem BuildOptions.every_toJson (o : BuildOptions) : Every p o.toJson := by
  have htypes (types : SortedSet DependencyType) :
      Every p (.arr (types.toList.map DependencyType.toJson)) := .arr_map fun _ => .str _
  have hids (ids : SortedSet IssueId) : Every p (idsJson ids) := .arr_map fun _ => .str _
  obtain ⟨types, blocked, orphans⟩ := o
  cases types <;> cases blocked <;>
    exact .obj (by simp [Every.null, Every.bool, htypes, hids])

theorem Edge.toJson_injective : Function.Injective Edge.toJson :=
  injective_of_fit Edge.fit_toJson

theorem BuildOptions.toJson_injective : Function.Injective BuildOptions.toJson :=
  injective_of_fit BuildOptions.fit_toJson

end IssueGraph
