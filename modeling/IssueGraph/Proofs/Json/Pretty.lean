import IssueGraph.Proofs.Json.Shape

/-!
# Texts over several lines

The text of a value over several lines is the compact text with a line break and blanks after each
opening bracket and comma and before each closing bracket, and a blank after each colon. So it is a
text of the value too, and is read like one. Main statement: `Shape.readText_pretty`.
-/
namespace IssueGraph.Json

variable {j : Json} {js : List Json} {ms : List (String × Json)} {level : Nat}

theorem blank_newline (level : Nat) : Blank (newline level) := by
  intro c hc
  rcases List.mem_cons.mp hc with rfl | hc
  · rfl
  · obtain rfl := List.eq_of_mem_replicate hc
    rfl

theorem blank_space : Blank [' '] := by simp [Blank, Input.isBlank]

theorem separator_newline : Separator true (newline level) := blank_newline level

theorem separator_comma_newline : Separator false (',' :: newline level) :=
  ⟨[], newline level, blank_nil, blank_newline level, rfl⟩

/-- The items of one list are written in the text of another one, item by item. -/
theorem writesItems_pretty_map {α : Type} {f g : α → Json} {as : List α}
    (h : ∀ a ∈ as, Writes (f a) ((g a).pretty (level + 1))) :
    WritesItems false (as.map f) (prettyItems level (as.map g)) := by
  induction as with
  | nil => exact .nil (blank_newline level)
  | cons a as ih =>
    obtain ⟨ha, has⟩ := List.forall_mem_cons.mp h
    exact .cons separator_comma_newline ha (ih has)

theorem writesItems_pretty (h : ∀ j ∈ js, Writes j (j.pretty (level + 1))) :
    WritesItems false js (prettyItems level js) := by
  have hmap := writesItems_pretty_map (f := id) (g := id) h
  rwa [List.map_id] at hmap

/-- A list is written in the text of another one if its items are written in those of the other. -/
theorem writes_pretty_arr {α : Type} {f g : α → Json} {as : List α}
    (h : ∀ a ∈ as, Writes (f a) ((g a).pretty (level + 1))) :
    Writes (.arr (as.map f)) ((Json.arr (as.map g)).pretty level) := by
  cases as with
  | nil => exact .arr (.nil blank_nil)
  | cons a as =>
    obtain ⟨ha, has⟩ := List.forall_mem_cons.mp h
    exact .arr (.cons separator_newline ha (writesItems_pretty_map has))

theorem writesMembers_pretty (h : ∀ m ∈ ms, Writes m.2 (m.2.pretty (level + 1))) :
    WritesMembers false ms (prettyMembers level ms) := by
  induction ms with
  | nil => exact .nil (blank_newline level)
  | cons m ms ih =>
    obtain ⟨hm, hms⟩ := List.forall_mem_cons.mp h
    exact .cons separator_comma_newline blank_nil blank_space hm (ih hms)

/-- The text of a value over several lines is a text of it, at any level, if that holds of its
numbers. -/
theorem writes_pretty (h : Every (fun n => Numeral n.toJson.compact n) j) (level : Nat) :
    Writes j (j.pretty level) := by
  induction h generalizing level with
  | null => exact .null
  | bool b => cases b <;> exact .bool _
  | int h => exact .int h
  | float h => exact .float h
  | str s => exact .str s
  | @arr js _ ih =>
    cases js with
    | nil => exact .arr (.nil blank_nil)
    | cons j js =>
      obtain ⟨hj, hjs⟩ := List.forall_mem_cons.mp ih
      exact .arr (.cons separator_newline (hj (level + 1))
        (writesItems_pretty fun j hj => hjs j hj (level + 1)))
  | @obj ms _ ih =>
    cases ms with
    | nil => exact .obj (.nil blank_nil)
    | cons m ms =>
      obtain ⟨hm, hms⟩ := List.forall_mem_cons.mp ih
      exact .obj (.cons separator_newline blank_nil blank_space (hm (level + 1))
        (writesMembers_pretty fun m hm => hms m hm (level + 1)))

theorem Shape.readText_pretty {α : Type} {s : Shape α} {a : α} {w : List Char}
    (h : Every (fun n => Numeral n.toJson.compact n) j) (hw : Blank w) (ha : s.fit j = .ok a) :
    s.readText (String.ofList (j.pretty 0 ++ w)) = .ok a :=
  readText_of_fit (writes_pretty h 0) hw ha

theorem Shape.readText_prettyText {α : Type} {s : Shape α} {a : α}
    (h : Every (fun n => Numeral n.toJson.compact n) j) (ha : s.fit j = .ok a) :
    s.readText j.prettyText = .ok a := by
  have hread := readText_pretty h blank_nil ha
  rwa [List.append_nil] at hread

end IssueGraph.Json
