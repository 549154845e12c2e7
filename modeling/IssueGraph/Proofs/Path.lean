import IssueGraph.Board

/-!
# Paths side by side

A path leads step by step from the root or from the directory one is in. The path of a name beside
it starts where it starts, takes all its steps but the last and then the name; so a configuration is
looked for in the directory that holds the issues. Main statements: `steps_sibling`,
`isAbsolute_sibling`, `sibling_text`.
-/
namespace IssueGraph

namespace Path

variable {path name p : String} {ps : List String} {absolute : Bool}

/-! ## Parts -/

theorem split_eq_splitOn (cs : List Char) : split cs = cs.splitOn '/' := by
  induction cs with
  | nil => rfl
  | cons c cs ih =>
    rw [List.splitOn_cons_eq_if_modifyHead, ← ih, split]
    by_cases hc : c = '/'
    · rw [if_pos hc, if_pos (beq_iff_eq.mpr hc)]
    · rw [if_neg hc, if_neg (mt beq_iff_eq.mp hc)]
      cases hsplit : split cs with
      | nil => exact absurd (ih.symm.trans hsplit) (List.splitOn_ne_nil '/' cs)
      | cons part parts => rfl

theorem not_mem_of_mem_split {cs part : List Char} (h : part ∈ split cs) : '/' ∉ part := by
  induction cs generalizing part with
  | nil =>
    obtain rfl := List.mem_singleton.mp h
    exact List.not_mem_nil
  | cons c cs ih =>
    rw [split] at h
    split at h
    · rcases List.mem_cons.mp h with rfl | h
      · exact List.not_mem_nil
      · exact ih h
    · next hc =>
      split at h
      · obtain rfl := List.mem_singleton.mp h
        exact mt List.mem_singleton.mp (Ne.symm hc)
      · next first rest hsplit =>
        rcases List.mem_cons.mp h with rfl | h
        · refine List.not_mem_cons_of_ne_of_not_mem (Ne.symm hc) (ih ?_)
          exact hsplit ▸ List.mem_cons_self
        · exact ih (hsplit ▸ List.mem_cons_of_mem _ h)

theorem no_slash_of_mem_parts (h : p ∈ parts path) : '/' ∉ p.toList := by
  obtain ⟨part, hpart, rfl⟩ := List.mem_map.mp h
  rw [String.toList_ofList]
  exact not_mem_of_mem_split hpart

theorem parts_intercalate (h : ∀ p ∈ ps, '/' ∉ p.toList) (hne : ps ≠ []) :
    parts ("/".intercalate ps) = ps := by
  have hsplit : (['/'].intercalate (ps.map String.toList)).splitOn '/' = ps.map String.toList :=
    List.splitOn_intercalate '/' (List.forall_mem_map.mpr h) (mt List.map_eq_nil_iff.mp hne)
  have htext : "/".toList = ['/'] := rfl
  rw [parts, split_eq_splitOn, String.toList_intercalate, htext, hsplit, List.map_map]
  simp

theorem parts_slash (s : String) : parts ("/" ++ s) = "" :: parts s := by
  rw [parts, String.toList_append]
  rfl

/-! ## Steps -/

/-- Whether a text names something in a directory, or the directory above. -/
structure IsName (p : String) : Prop where
  nonempty : p ≠ ""
  no_dot : p ≠ "."
  no_slash : '/' ∉ p.toList

/-- Whether a path can take the steps. Only the first can be a dot, if it is not from the root. -/
def AreSteps (absolute : Bool) : List String → Prop
  | [] => True
  | p :: ps => (p ≠ "" ∧ '/' ∉ p.toList ∧ (absolute = true → p ≠ ".")) ∧ ∀ q ∈ ps, IsName q

theorem areSteps_of_names (h : ∀ p ∈ ps, IsName p) : AreSteps absolute ps := by
  cases ps with
  | nil => trivial
  | cons p ps =>
    obtain ⟨hp, hps⟩ := List.forall_mem_cons.mp h
    exact ⟨⟨hp.nonempty, hp.no_slash, fun _ => hp.no_dot⟩, hps⟩

theorem AreSteps.no_slash (h : AreSteps absolute ps) : ∀ p ∈ ps, '/' ∉ p.toList := by
  cases ps with
  | nil => exact List.forall_mem_nil _
  | cons p ps =>
    obtain ⟨⟨-, hp, -⟩, hps⟩ := h
    exact List.forall_mem_cons.mpr ⟨hp, fun q hq => (hps q hq).no_slash⟩

theorem AreSteps.names (h : AreSteps true ps) : ∀ p ∈ ps, IsName p := by
  cases ps with
  | nil => exact List.forall_mem_nil _
  | cons p ps =>
    obtain ⟨⟨hne, hslash, hdot⟩, hps⟩ := h
    exact List.forall_mem_cons.mpr ⟨⟨hne, hdot rfl, hslash⟩, hps⟩

theorem AreSteps.dropLast_append (h : AreSteps absolute ps) (hname : IsName name) :
    AreSteps absolute (ps.dropLast ++ [name]) := by
  match ps with
  | [] | [_] => exact areSteps_of_names (List.forall_mem_singleton.mpr hname)
  | p :: q :: ps =>
    obtain ⟨hp, hps⟩ := h
    refine ⟨hp, List.forall_mem_append.mpr ⟨?_, List.forall_mem_singleton.mpr hname⟩⟩
    exact fun r hr => hps r (List.dropLast_subset _ hr)

theorem isName_of_mem_filter {qs : List String} (h : ∀ q ∈ qs, '/' ∉ q.toList) :
    ∀ q ∈ qs.filter (fun q => !q.isEmpty && q != "."), IsName q := by
  intro q hq
  obtain ⟨hmem, hq⟩ := List.mem_filter.mp hq
  simp only [Bool.and_eq_true, Bool.not_eq_true', String.isEmpty_eq_false_iff, bne_iff_ne] at hq
  exact ⟨hq.1, hq.2, h q hmem⟩

theorem filter_of_names (h : ∀ p ∈ ps, IsName p) :
    ps.filter (fun q => !q.isEmpty && q != ".") = ps := by
  refine List.filter_eq_self.mpr fun p hp => ?_
  simp [(h p hp).nonempty, (h p hp).no_dot]

theorem exists_of_isAbsolute (h : isAbsolute path = true) : ∃ s, path = "/" ++ s := by
  obtain ⟨cs, hcs⟩ := List.head?_eq_some_iff.mp (beq_iff_eq.mp h)
  exact ⟨String.ofList cs, String.ext (by simp [hcs])⟩

theorem areSteps_steps (path : String) : AreSteps (isAbsolute path) (steps path) := by
  have hparts : ∀ p ∈ parts path, '/' ∉ p.toList := fun _ => no_slash_of_mem_parts
  unfold steps
  split
  · trivial
  · next p ps heq =>
    rw [heq] at hparts
    obtain ⟨hp, hps⟩ := List.forall_mem_cons.mp hparts
    dsimp only
    split
    · exact areSteps_of_names (isName_of_mem_filter hps)
    · next hempty =>
      have hne : p ≠ "" := mt String.isEmpty_iff.mpr hempty
      refine ⟨⟨hne, hp, fun habsolute => ?_⟩, isName_of_mem_filter hps⟩
      -- The first part of a path from the root is empty, and this one is not.
      obtain ⟨s, rfl⟩ := exists_of_isAbsolute habsolute
      rw [parts_slash] at heq
      exact absurd (List.cons.inj heq).1.symm hne

/-- The path that takes some steps. -/
def text (absolute : Bool) (ps : List String) : String :=
  if absolute then "/" ++ "/".intercalate ps else "/".intercalate ps

theorem steps_text (h : AreSteps absolute ps) (hne : ps ≠ []) : steps (text absolute ps) = ps := by
  have hparts := parts_intercalate h.no_slash hne
  cases absolute with
  | true =>
    show steps ("/" ++ "/".intercalate ps) = ps
    rw [steps, parts_slash, hparts]
    exact filter_of_names h.names
  | false =>
    obtain ⟨p, ps, rfl⟩ := List.exists_cons_of_ne_nil hne
    obtain ⟨⟨hp, -, -⟩, hps⟩ := h
    show steps ("/".intercalate (p :: ps)) = p :: ps
    rw [steps, hparts]
    dsimp only
    rw [if_neg (mt String.isEmpty_iff.mp hp), filter_of_names hps]

theorem isAbsolute_text (h : AreSteps absolute ps) (hne : ps ≠ []) :
    isAbsolute (text absolute ps) = absolute := by
  cases absolute with
  | true =>
    rw [text, if_pos rfl, isAbsolute, String.toList_append]
    rfl
  | false =>
    refine Bool.eq_false_iff.mpr fun habsolute => ?_
    obtain ⟨s, hs⟩ := exists_of_isAbsolute habsolute
    have hparts : parts ("/" ++ s) = ps := hs ▸ parts_intercalate h.no_slash hne
    rw [parts_slash] at hparts
    rw [← hparts] at h
    exact h.1.1 rfl

/-! ## Siblings -/

theorem sibling_eq_text (path name : String) : sibling path name =
    text (isAbsolute path && !(steps path).isEmpty) ((steps path).dropLast ++ [name]) := rfl

theorem areSteps_sibling (path : String) (hname : IsName name) :
    AreSteps (isAbsolute path && !(steps path).isEmpty) ((steps path).dropLast ++ [name]) := by
  have h := areSteps_steps path
  cases hsteps : steps path with
  | nil => exact areSteps_of_names (List.forall_mem_singleton.mpr hname)
  | cons p ps =>
    rw [hsteps] at h
    rw [List.isEmpty_cons, Bool.not_false, Bool.and_true]
    exact h.dropLast_append hname

/-- Whatever the path, the one beside it takes all its steps but the last, and then the name. -/
theorem steps_sibling (path : String) (hname : IsName name) :
    steps (sibling path name) = (steps path).dropLast ++ [name] := by
  rw [sibling_eq_text]
  exact steps_text (areSteps_sibling path hname) (by simp)

/-- It starts from the root if the path takes steps from there. -/
theorem isAbsolute_sibling (path : String) (hname : IsName name) :
    isAbsolute (sibling path name) = (isAbsolute path && !(steps path).isEmpty) := by
  rw [sibling_eq_text]
  exact isAbsolute_text (areSteps_sibling path hname) (by simp)

/-- In a directory, named from the root or not, one name stands in place of another. -/
theorem sibling_text {dir : List String} {file : String} (h : AreSteps absolute (dir ++ [file])) :
    sibling (text absolute (dir ++ [file])) name = text absolute (dir ++ [name]) := by
  have hne : dir ++ [file] ≠ [] := List.concat_ne_nil _ _
  rw [sibling_eq_text, steps_text h hne, isAbsolute_text h hne, List.dropLast_concat,
    Bool.eq_false_iff.mpr (mt List.isEmpty_iff.mp hne), Bool.not_false, Bool.and_true]

example : sibling "data/issues.jsonl" "blockgraph.yaml" = "data/blockgraph.yaml" := by
  decide

example : sibling "issues.jsonl" "blockgraph.yaml" = "blockgraph.yaml" := by
  decide

example : sibling "/data/./issues.jsonl/" "blockgraph.yaml" = "/data/blockgraph.yaml" := by
  decide

end Path

namespace Config

theorem isName_fileName : Path.IsName fileName := ⟨by decide, by decide, by decide⟩

/-- The configuration for a file of issues is looked for under its own name in the directory that
holds the file. -/
theorem steps_pathBeside (issueFile : String) :
    Path.steps (pathBeside issueFile) = (Path.steps issueFile).dropLast ++ [fileName] :=
  Path.steps_sibling issueFile isName_fileName

end Config

end IssueGraph
