import IssueGraph.Text.Wrap

/-!
# What wrapped lines are made of

Wrapping cuts a text into words, words into pieces and pieces into shorter ones, lays the pieces out
and joins those of a line with spaces. Each stage takes its characters from the one before, so the
lines hold no character that is neither in the text nor a space.
-/
namespace IssueGraph.Text

variable {cs : List Char} {limit : Nat}

/-! ## Escape sequences -/

theorem command_subset (last : Char) (cs : List Char) : afterEscape.command last cs ⊆ cs := by
  induction cs generalizing last with
  | nil => simp [afterEscape.command]
  | cons c cs ih =>
    rw [afterEscape.command]
    split
    · exact List.subset_cons_self c cs
    · exact List.subset_cons_of_subset c (ih c)

theorem afterEscape_subset (cs : List Char) : afterEscape cs ⊆ cs := by
  unfold afterEscape
  split
  · exact List.Subset.refl _
  · next cs =>
    have hdrop := List.drop_subset 1 (cs.dropWhile fun c => !('@' ≤ c && c ≤ '~'))
    exact List.subset_cons_of_subset _ (List.Subset.trans hdrop (List.dropWhile_sublist _).subset)
  · next cs => exact List.subset_cons_of_subset _ (command_subset ']' cs)
  · next c cs _ _ => exact List.subset_cons_self c cs

/-! ## Words -/

/-- The characters of a text and the escape sequences before them come from the text. -/
theorem units_subset (escapes cs : List Char) :
    (∀ u ∈ (units escapes cs).1, u.1 ++ [u.2] ⊆ escapes ++ cs) ∧
      (units escapes cs).2 ⊆ escapes ++ cs := by
  fun_induction units escapes cs with
  | case1 escapes => simp
  | case2 escapes c cs hc rest ih =>
    have hall : escapes ++ c :: cs.take (cs.length - rest.length) ++ rest ⊆ escapes ++ c :: cs := by
      simp [rest, List.take_subset, afterEscape_subset]
    exact ⟨fun u hu => List.Subset.trans (ih.1 u hu) hall, List.Subset.trans ih.2 hall⟩
  | case3 escapes c cs hc us last heq ih =>
    rw [heq] at ih
    have hcs : cs ⊆ escapes ++ c :: cs := by simp
    refine ⟨List.forall_mem_cons.mpr ⟨by simp, fun u hu => ?_⟩, List.Subset.trans ih.2 hcs⟩
    exact List.Subset.trans (ih.1 u hu) hcs

theorem cutAfter_subset {l : List (List Char × Bool)} (h : ∀ x ∈ l, x.1 ⊆ cs) :
    ∀ w ∈ cutAfter l, w ⊆ cs := by
  fun_induction cutAfter l with
  | case1 => simp
  | case2 a rest ih =>
    obtain ⟨ha, hrest⟩ := List.forall_mem_cons.mp h
    exact List.forall_mem_cons.mpr ⟨ha, ih hrest⟩
  | case3 a rest hnone ih => simpa using h _ List.mem_cons_self
  | case4 a rest w words hwords ih =>
    obtain ⟨ha, hrest⟩ := List.forall_mem_cons.mp h
    rw [hwords] at ih
    obtain ⟨hw, htail⟩ := List.forall_mem_cons.mp (ih hrest)
    exact List.forall_mem_cons.mpr ⟨List.append_subset.mpr ⟨ha, hw⟩, htail⟩

theorem words_subset (cs : List Char) : ∀ w ∈ words cs, w ⊆ cs := by
  obtain ⟨hunits, hlast⟩ := units_subset [] cs
  rw [List.nil_append] at hunits hlast
  rw [words]
  refine cutAfter_subset ?_
  intro x hx
  rcases List.mem_append.mp hx with hx | hx
  · obtain ⟨⟨u, cut⟩, hu, rfl⟩ := List.mem_map.mp hx
    exact hunits u (List.of_mem_zip hu).1
  · split at hx
    · cases hx
    · obtain rfl := List.mem_singleton.mp hx
      exact hlast

/-! ## Pieces -/

theorem trimSpaces_subset (cs : List Char) : trimSpaces cs ⊆ cs := by
  intro c hc
  exact List.mem_reverse.mp ((List.dropWhile_sublist _).subset (List.mem_reverse.mp hc))

theorem cutAtHyphens_subset (since cs : List Char) :
    ∀ w ∈ cutAtHyphens since cs, w ⊆ since ++ cs := by
  fun_induction cutAtHyphens since cs with
  | case1 since => simp
  | case2 since c cs hcut ih =>
    refine List.forall_mem_cons.mpr ⟨by simp, fun w hw => List.Subset.trans (ih w hw) ?_⟩
    simp
  | case3 since c cs hcut ih =>
    intro w hw
    refine List.Subset.trans (ih w hw) ?_
    simp

theorem cutAtWidth_subset (limit : Nat) (since : List Char) (columnsSince : Nat) (cs : List Char) :
    ∀ w ∈ cutAtWidth limit since columnsSince cs, w ⊆ since ++ cs := by
  fun_induction cutAtWidth limit since columnsSince cs with
  | case1 => simp
  | case2 => simp
  | case3 since columnsSince c cs hc rest ih =>
    intro w hw
    refine List.Subset.trans (ih w hw) ?_
    simp [rest, List.take_subset, afterEscape_subset]
  | case4 since columnsSince c cs hc width hwide ih =>
    refine List.forall_mem_cons.mpr ⟨by simp, fun w hw => List.Subset.trans (ih w hw) ?_⟩
    simp
  | case5 since columnsSince c cs hc width hwide ih =>
    intro w hw
    refine List.Subset.trans (ih w hw) ?_
    simp

theorem Piece.cut_subset {cutText : List Char → List (List Char)}
    (h : ∀ t, ∀ w ∈ cutText t, w ⊆ t) (p : Piece) : ∀ q ∈ p.cut cutText, q.text ⊆ p.text := by
  rw [Piece.cut]
  split
  · simp
  · next last parts heq =>
    have hcut : ∀ w ∈ last :: parts, w ⊆ p.text := by
      intro w hw
      rw [← heq, List.mem_reverse] at hw
      exact h p.text w hw
    obtain ⟨hlast, hparts⟩ := List.forall_mem_cons.mp hcut
    intro q hq
    rcases List.mem_cons.mp (List.mem_reverse.mp hq) with rfl | hq
    · exact hlast
    · obtain ⟨t, ht, rfl⟩ := List.mem_map.mp hq
      exact hparts t ht

theorem pieces_subset (limit : Nat) (cs : List Char) : ∀ p ∈ pieces limit cs, p.text ⊆ cs := by
  intro p hp
  obtain ⟨q, hq, hp⟩ := List.mem_flatMap.mp hp
  obtain ⟨w, hw, hq⟩ := List.mem_flatMap.mp hq
  have hqw : q.text ⊆ w := by
    have hcut :=
      Piece.cut_subset (fun t => by simpa using cutAtHyphens_subset [] t) (pieceOf w) q hq
    exact List.Subset.trans hcut (trimSpaces_subset w)
  have hpq : p.text ⊆ q.text := by
    split at hp
    · exact Piece.cut_subset (fun t => by simpa using cutAtWidth_subset limit [] 0 t) q p hp
    · obtain rfl := List.mem_singleton.mp hp
      exact List.Subset.refl _
  exact List.Subset.trans (List.Subset.trans hpq hqw) (words_subset cs w hw)

/-! ## Layout -/

theorem mem_of_firstLeast {α : Type} {key : α → Nat} {l : List α} {a : α}
    (h : firstLeast key l = some a) : a ∈ l := by
  induction l generalizing a with
  | nil => cases h
  | cons b l ih =>
    rw [firstLeast] at h
    cases hleast : firstLeast key l with
    | none =>
      rw [hleast] at h
      exact Option.some.inj h ▸ List.mem_cons_self
    | some b' =>
      simp only [hleast] at h
      split at h
      · exact Option.some.inj h ▸ List.mem_cons_of_mem b (ih hleast)
      · exact Option.some.inj h ▸ List.mem_cons_self

namespace LineStart

/-- The pieces of the lines before, and those since. -/
def taken (s : LineStart) : List Piece := s.lines.flatten ++ s.since

theorem taken_extend_subset {all : List Piece} {s : LineStart} {p : Piece} (hs : s.taken ⊆ all)
    (hp : p ∈ all) : (s.extend p).taken ⊆ all := by
  obtain ⟨hlines, hsince⟩ := List.append_subset.mp hs
  exact List.append_subset.mpr ⟨hlines, List.cons_subset.mpr ⟨hp, hsince⟩⟩

theorem taken_close_subset {all : List Piece} {s : LineStart} (hs : s.taken ⊆ all) (cost : Nat) :
    (s.close cost).taken ⊆ all := by
  obtain ⟨hlines, hsince⟩ := List.append_subset.mp hs
  simpa [taken, close] using ⟨hsince, hlines⟩

end LineStart

theorem layoutFrom_subset {all ps : List Piece} {starts : List LineStart}
    (hstarts : ∀ s ∈ starts, s.taken ⊆ all) (hps : ps ⊆ all) :
    ∀ s ∈ layoutFrom limit starts ps, s.taken ⊆ all := by
  induction ps generalizing starts with
  | nil => exact hstarts
  | cons p ps ih =>
    obtain ⟨hp, hps⟩ := List.cons_subset.mp hps
    have hextended : ∀ s ∈ starts.map (·.extend p), s.taken ⊆ all := by
      intro s hs
      obtain ⟨s', hs', rfl⟩ := List.mem_map.mp hs
      exact LineStart.taken_extend_subset (hstarts s' hs') hp
    rw [layoutFrom]
    split
    · exact hextended
    · next s hleast =>
      refine ih (fun s' hs' => ?_) hps
      rcases List.mem_append.mp hs' with hs' | hs'
      · exact hextended s' hs'
      · obtain rfl := List.mem_singleton.mp hs'
        exact LineStart.taken_close_subset (hextended s (mem_of_firstLeast hleast)) _

theorem layout_subset (limit : Nat) (ps : List Piece) : ∀ l ∈ layout limit ps, l ⊆ ps := by
  rw [layout]
  split
  · next s hs =>
    have htaken : s.taken ⊆ ps :=
      layoutFrom_subset (by simp [LineStart.taken]) (List.Subset.refl ps) s
        (List.mem_of_getLast? hs)
    intro l hl p hp
    exact (List.append_subset.mp htaken).1
      (List.mem_flatten.mpr ⟨l, List.mem_reverse.mp hl, hp⟩)
  · simp

/-! ## Lines -/

theorem Piece.full_subset {p : Piece} (h : p.text ⊆ cs) : p.full ⊆ ' ' :: cs := by
  refine List.append_subset.mpr ⟨List.subset_cons_of_subset _ h, fun c hc => ?_⟩
  rw [List.eq_of_mem_replicate hc]
  exact List.mem_cons_self

theorem lineText_subset {ps : List Piece} (h : ∀ p ∈ ps, p.text ⊆ cs) :
    lineText ps ⊆ ' ' :: cs := by
  rw [lineText]
  split
  · simp
  · next last before heq =>
    have hmem : ∀ p ∈ last :: before, p ∈ ps := fun p hp => List.mem_reverse.mp (heq ▸ hp)
    obtain ⟨hlast, hbefore⟩ := List.forall_mem_cons.mp hmem
    refine List.append_subset.mpr ⟨fun c hc => ?_, List.subset_cons_of_subset _ (h last hlast)⟩
    obtain ⟨p, hp, hc⟩ := List.mem_flatMap.mp hc
    exact Piece.full_subset (h p (hbefore p (List.mem_reverse.mp hp))) hc

theorem wrapLine_subset (limit : Nat) (cs : List Char) :
    ∀ l ∈ wrapLine limit cs, l ⊆ ' ' :: cs := by
  intro l hl
  rw [wrapLine] at hl
  split at hl
  · obtain rfl := List.mem_singleton.mp hl
    exact List.subset_cons_of_subset _ (trimSpaces_subset cs)
  · obtain ⟨ps, hps, rfl⟩ := List.mem_map.mp hl
    exact lineText_subset fun p hp => pieces_subset limit cs p (layout_subset limit _ ps hps hp)

theorem splitLines_subset (cs : List Char) : ∀ l ∈ splitLines cs, l ⊆ cs := by
  induction cs with
  | nil => simp [splitLines]
  | cons c cs ih =>
    have htail : ∀ l ∈ splitLines cs, l ⊆ c :: cs := fun l hl =>
      List.subset_cons_of_subset c (ih l hl)
    rw [splitLines]
    split
    · exact List.forall_mem_cons.mpr ⟨List.nil_subset _, htail⟩
    · split
      · simp
      · next first rest heq =>
        rw [heq] at htail
        obtain ⟨hfirst, hrest⟩ := List.forall_mem_cons.mp htail
        exact List.forall_mem_cons.mpr
          ⟨List.cons_subset.mpr ⟨List.mem_cons_self, hfirst⟩, hrest⟩

/-- The lines of a wrapped text are made of its characters and spaces. -/
theorem wrap_subset (limit : Nat) (s : String) :
    ∀ l ∈ wrap limit s, l.toList ⊆ ' ' :: s.toList := by
  intro l hl
  obtain ⟨cs, hcs, rfl⟩ := List.mem_map.mp hl
  obtain ⟨line, hline, hcs⟩ := List.mem_flatMap.mp hcs
  rw [String.toList_ofList]
  exact List.Subset.trans (wrapLine_subset limit line cs hcs)
    (List.cons_subset_cons ' ' (splitLines_subset _ line hline))

end IssueGraph.Text
