import IssueGraph.Config.Yaml
import IssueGraph.Graph.Build
import IssueGraph.Proofs.Graph.Json
import IssueGraph.Proofs.Json.Double
import IssueGraph.Proofs.Json.Pretty
import IssueGraph.Report.Finding

/-!
# Usable layouts

What is printed of a layout has the configured size at every node. If the size is finite, it is
written as positive numbers and read back as some size, so that the layout of the same graph is
read. The check of a configuration refuses a size that is no number, but not an infinite one, which
is written as null. Main statement: `Config.usable_layout_iff`.
-/
namespace IssueGraph

open Json

/-! ## What is written is fitted back -/

theorem NodeDimensions.fit_toJson (d : NodeDimensions) : shape.fit d.toJson = .ok d :=
  fit_image (Fields.Written.fit (.given rfl (.given rfl .nil)) (by decide))

theorem Json.fit_pair {α β : Type} {s : Shape α} {t : Shape β} {j k : Json} {a : α} {b : β}
    (hs : s.fit j = .ok a) (ht : t.fit k = .ok b) : (s.pair t).fit (.arr [j, k]) = .ok (a, b) := by
  change (s.fit j >>= fun a => t.fit k >>= fun b => _) = _
  rw [bind_of_eq_ok hs, bind_of_eq_ok ht]
  rfl

theorem Layout.fit_toJson (l : Layout) : shape.fit l.toJson = .ok l :=
  fit_image (Fields.Written.fit
    (.given (fit_list fun n _ => fit_pair rfl n.2.fit_toJson)
      (.given (fit_list fun _ _ => fit_pair rfl rfl) .nil)) (by decide))

/-! ## Sizes read for sizes written -/

/-- The texts of a size are read as those of another one. -/
structure NodeDimensions.ReadAs (d d' : NodeDimensions) : Prop where
  width : Numeral (compact (.float d.width)) (.float d'.width)
  height : Numeral (compact (.float d.height)) (.float d'.height)

theorem NodeDimensions.ReadAs.writes {d d' : NodeDimensions} (h : d.ReadAs d') (level : Nat) :
    Writes d'.toJson (d.toJson.pretty level) :=
  .obj (.cons separator_newline blank_nil blank_space (.float h.width)
    (.cons separator_comma_newline blank_nil blank_space (.float h.height)
      (.nil (blank_newline level))))

namespace Graph

variable {g : Graph} {size size' : NodeDimensions}

theorem writes_layout (h : size.ReadAs size') (level : Nat) :
    Writes (g.layout size').toJson ((g.layout size).toJson.pretty level) := by
  have hpair {a b c : Json} {level : Nat} (ha : Writes a (a.pretty (level + 1)))
      (hb : Writes b (c.pretty (level + 1))) :
      Writes (.arr [a, b]) ((Json.arr [a, c]).pretty level) :=
    .arr (.cons separator_newline ha (.cons separator_comma_newline hb
      (.nil (blank_newline level))))
  have hnodes : Writes (.arr (g.nodes.map fun n => .arr [.str n.id, size'.toJson]))
      ((Json.arr (g.nodes.map fun n => .arr [.str n.id, size.toJson])).pretty (level + 1)) :=
    writes_pretty_arr fun n _ => hpair (.str n.id) (h.writes _)
  have hedges : Writes (.arr (g.edges.map fun e => .arr [.str e.source, .str e.target]))
      ((Json.arr (g.edges.map fun e => .arr [.str e.source, .str e.target])).pretty (level + 1)) :=
    writes_pretty_arr fun e _ => hpair (.str e.source) (.str e.target)
  unfold layout Layout.toJson
  simp only [List.map_map]
  exact .obj (.cons separator_newline blank_nil blank_space hnodes
    (.cons separator_comma_newline blank_nil blank_space hedges (.nil (blank_newline level))))

/-- What is read of a written layout is the layout of the graph with the sizes that are read. -/
theorem readText_written_layout (h : size.ReadAs size') :
    Layout.shape.readText (Report.printJson (g.layout size).toJson) = .ok (g.layout size') :=
  Shape.readText_of_fit (writes_layout h 0) (blank_newline 0) (Layout.fit_toJson _)

theorem layout_of_nodes_eq_nil (h : g.nodes = []) (size size' : NodeDimensions) :
    g.layout size = g.layout size' := by
  rw [layout, layout, h]
  rfl

end Graph

/-! ## Configured sizes -/

/-- The text is a JSON number above zero. -/
def Json.IsPositive (text : String) : Prop :=
  ∃ s : Spelling, text.toList = s.text ∧ 0 < s.digits

theorem Json.isPositive_floatText {x : Float} (hpos : 0.0 < x) (hx : x.isFinite = true) :
    IsPositive (floatText x) := by
  obtain ⟨s, htext, hs⟩ := exists_spelling_number hpos hx
  refine ⟨s, by rw [floatText, if_pos hx, htext], ?_⟩
  have hshortest := Decimal.shortest_pos (Binary64.bounded_parts hpos hx) .toEven
  rw [← Decimal.value_pos_iff, ← hs.value] at hshortest
  exact Decimal.value_pos_iff.mp hshortest

/-- Null is no number. -/
theorem Json.isFinite_of_isPositive {x : Float} (h : IsPositive (floatText x)) :
    x.isFinite = true := by
  by_contra hx
  obtain ⟨s, htext, -⟩ := h
  obtain ⟨c, ds, hds, hc⟩ := toDigits_lead s.whole
  rw [floatText, if_neg hx, Spelling.text, hds] at htext
  obtain rfl : 'n' = c := (List.cons.inj htext).1
  exact absurd hc (by decide)

namespace Config

variable {c : Config}

theorem pos_of_check (hc : c.check = .ok ()) : 0.0 < c.nodeWidth ∧ 0.0 < c.nodeHeight := by
  unfold check at hc
  split at hc
  · cases hc
  split at hc
  · cases hc
  split at hc
  · next h => simpa using h
  · cases hc

/-- An accepted size that is finite is read back as some size. -/
theorem exists_readAs (hc : c.check = .ok ()) (hwidth : c.nodeWidth.isFinite = true)
    (hheight : c.nodeHeight.isFinite = true) : ∃ size, c.nodeDimensions.ReadAs size := by
  obtain ⟨hw, hh⟩ := pos_of_check hc
  obtain ⟨w, hw⟩ := exists_numeral hw hwidth
  obtain ⟨h, hh⟩ := exists_numeral hh hheight
  exact ⟨⟨w, h⟩, hw, hh⟩

end Config

/-- A text of a layout is usable: every width and height is written as a positive number, and the
text is read as a layout with the same node ids and edges. -/
structure Layout.Usable (l : Layout) (text : String) : Prop where
  positive : ∀ n ∈ l.nodes, IsPositive (floatText n.2.width) ∧ IsPositive (floatText n.2.height)
  read : ∃ l', shape.readText text = .ok l' ∧ l'.nodes.map (·.1) = l.nodes.map (·.1) ∧
    l'.edges = l.edges

/-- What is printed of a layout, whether or not JSON is asked for. -/
theorem Report.Finding.print_layout (l : Layout) (json : Bool) (console : Console) :
    ((Finding.layout l).print json console).1 = printJson l.toJson := by
  cases json <;> rfl

/-- What is printed of the layout of a graph under an accepted configuration is usable exactly when
the graph has no nodes or both configured dimensions are finite. -/
theorem Config.usable_layout_iff {c : Config} (hc : c.check = .ok ()) (g : Graph) (json : Bool)
    (console : Report.Console) :
    (g.layout c.nodeDimensions).Usable
        ((Report.Finding.layout (g.layout c.nodeDimensions)).print json console).1 ↔
      g.nodes = [] ∨ (c.nodeWidth.isFinite = true ∧ c.nodeHeight.isFinite = true) := by
  rw [Report.Finding.print_layout]
  constructor
  · intro h
    rw [or_iff_not_imp_left]
    intro hnodes
    obtain ⟨n, hn⟩ := List.exists_mem_of_ne_nil _ hnodes
    obtain ⟨hwidth, hheight⟩ := h.positive _ (List.mem_map_of_mem hn)
    exact ⟨isFinite_of_isPositive hwidth, isFinite_of_isPositive hheight⟩
  · rintro (hnodes | ⟨hwidth, hheight⟩)
    · -- Without nodes no size is written, so it may be any that can be read.
      obtain ⟨size, hsize⟩ := exists_readAs (c := {}) rfl (by decide +kernel) (by decide +kernel)
      rw [g.layout_of_nodes_eq_nil hnodes _ ({} : Config).nodeDimensions]
      refine ⟨?_, _, Graph.readText_written_layout hsize, ?_, rfl⟩ <;> simp [Graph.layout, hnodes]
    · obtain ⟨size, hsize⟩ := exists_readAs hc hwidth hheight
      obtain ⟨hw, hh⟩ := pos_of_check hc
      refine ⟨?_, _, Graph.readText_written_layout hsize, by simp [Graph.layout], rfl⟩
      intro e he
      obtain ⟨n, -, rfl⟩ := List.mem_map.mp he
      change IsPositive (floatText c.nodeWidth) ∧ IsPositive (floatText c.nodeHeight)
      exact ⟨isPositive_floatText hw hwidth, isPositive_floatText hh hheight⟩

theorem Config.usable_layout_by_default :
    ({} : Config).check = .ok () ∧
      ((Graph.build [{ id := "a" }] {}).layout ({} : Config).nodeDimensions).Usable
        ((Report.Finding.layout ((Graph.build [{ id := "a" }] {}).layout
          ({} : Config).nodeDimensions)).print false ⟨fun _ => none, false, none⟩).1 :=
  ⟨rfl, (usable_layout_iff rfl _ false _).mpr (.inr ⟨by decide +kernel, by decide +kernel⟩)⟩

/-- A configuration whose nodes are infinitely wide. -/
def Config.infinitelyWide : Config := { nodeWidth := 1.0 / 0.0 }

/-- The layout of one node under it. -/
def Layout.infinitelyWide : Layout :=
  (Graph.build [{ id := "a" }] {}).layout Config.infinitelyWide.nodeDimensions

/-- An infinite width is accepted. It is then printed as null, and what is printed is not read as a
layout. -/
theorem Config.infinite_width_not_usable :
    ofYaml "node-width: .inf\n" = .ok infinitelyWide ∧ infinitelyWide.check = .ok () ∧
      ((Report.Finding.layout .infinitelyWide).print false ⟨fun _ => none, false, none⟩).1 =
        String.join (["\x7b", "  \"nodes\": [", "    [", "      \"node-a\",", "      \x7b",
          "        \"width\": null,", "        \"height\": 90.0", "      \x7d", "    ]", "  ],",
          "  \"edges\": []", "\x7d"].map (· ++ "\n")) ∧
      Layout.shape.readText
          ((Report.Finding.layout .infinitelyWide).print false ⟨fun _ => none, false, none⟩).1 =
        .error ⟨.invalidType .null "f64", ⟨6, 21⟩⟩ ∧
      ¬ Layout.infinitelyWide.Usable
        ((Report.Finding.layout .infinitelyWide).print false ⟨fun _ => none, false, none⟩).1 := by
  have hread : Layout.shape.readText
      ((Report.Finding.layout .infinitelyWide).print false ⟨fun _ => none, false, none⟩).1 =
        .error ⟨.invalidType .null "f64", ⟨6, 21⟩⟩ := by
    decide +kernel
  refine ⟨by decide +kernel, by decide +kernel, by decide +kernel, hread, fun h => ?_⟩
  obtain ⟨l, hl, -⟩ := h.read
  rw [hread] at hl
  cases hl

end IssueGraph
