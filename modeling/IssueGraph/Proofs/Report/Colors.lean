import IssueGraph.Proofs.Text.Wrap
import IssueGraph.Report.Finding
import Mathlib.Data.List.Forall2

/-!
# Reports without their colors

A color sequence is an escape character, a bracket, numbers and the letter m. Every kind of text is
itself between two of them, or just itself, whatever its style: so a report with colors has line by
line the same text as the report without, if no id and no title in it holds an escape character.
How wide lines are does not depend on colors. Main statement: `colors_leave_the_text`.
-/
namespace IssueGraph.Report

variable {cs rest : List Char}

/-! ## Color sequences -/

/-- What follows a color sequence, if the text begins with one. -/
def afterColor? : List Char → Option (List Char)
  | '\x1b' :: '[' :: cs =>
    match cs.dropWhile fun c => c.isDigit || c == ';' with
    | 'm' :: rest => some rest
    | _ => none
  | _ => none

theorem length_lt_of_afterColor? (h : afterColor? cs = some rest) : rest.length < cs.length := by
  unfold afterColor? at h
  split at h
  · next cs =>
    have hdrop := (List.dropWhile_sublist (fun c => c.isDigit || c == ';') (l := cs)).length_le
    split at h
    · next heq =>
      obtain rfl := Option.some.inj h
      rw [heq] at hdrop
      simp only [List.length_cons] at hdrop ⊢
      omega
    · cases h
  · cases h

/-- The text without its color sequences. -/
def withoutColors (cs : List Char) : List Char :=
  match _h : afterColor? cs with
  | some rest => withoutColors rest
  | none =>
    match cs with
    | [] => []
    | c :: cs => c :: withoutColors cs
termination_by cs.length
decreasing_by
  · exact length_lt_of_afterColor? _h
  · simp

theorem withoutColors_nil : withoutColors [] = [] := by
  rw [withoutColors]
  rfl

theorem withoutColors_of_sequence (h : afterColor? cs = some rest) :
    withoutColors cs = withoutColors rest := by
  rw [withoutColors]
  split
  · next heq => rw [Option.some.inj (heq.symm.trans h)]
  · next heq => cases heq.symm.trans h

theorem withoutColors_cons {c : Char} (hc : c ≠ '\x1b') :
    withoutColors (c :: cs) = c :: withoutColors cs := by
  have hnone : afterColor? (c :: cs) = none := by
    unfold afterColor?
    split
    · next heq => exact absurd (List.cons.inj heq).1 hc
    · rfl
  rw [withoutColors]
  split
  · next heq => cases heq.symm.trans hnone
  · rfl

theorem withoutColors_append (h : '\x1b' ∉ cs) (rest : List Char) :
    withoutColors (cs ++ rest) = cs ++ withoutColors rest := by
  induction cs with
  | nil => rfl
  | cons c cs ih =>
    obtain ⟨hc, hcs⟩ := List.ne_and_not_mem_of_not_mem_cons h
    rw [List.cons_append, withoutColors_cons hc.symm, ih hcs, List.cons_append]

/-! ## Styled text -/

theorem withoutColors_opening (style : Style) (rest : List Char) :
    withoutColors (style.opening ++ rest) = withoutColors rest := by
  refine withoutColors_of_sequence ?_
  cases style with
  | bold => rfl
  | dimmed => rfl
  | plain color => cases color <;> rfl
  | strong color => cases color <;> rfl

theorem withoutColors_closing (rest : List Char) :
    withoutColors (Style.closing ++ rest) = withoutColors rest :=
  withoutColors_of_sequence rfl

theorem renew_of_not_mem (opening : List Char) (h : '\x1b' ∉ cs) : Style.renew opening cs = cs := by
  induction cs with
  | nil => rfl
  | cons c cs ih =>
    obtain ⟨hc, hcs⟩ := List.ne_and_not_mem_of_not_mem_cons h
    rw [Style.renew, ih hcs]
    rintro _ rfl
    exact absurd rfl hc

/-! ## Texts without an escape character -/

/-- Whether a text holds no escape character, so that no color sequence begins in it. -/
def Unescaped (s : String) : Prop := '\x1b' ∉ s.toList

instance : DecidablePred Unescaped := fun _ => inferInstanceAs (Decidable (_ ∉ _))

namespace Unescaped

variable {s t : String}

@[simp]
theorem append_iff : Unescaped (s ++ t) ↔ Unescaped s ∧ Unescaped t := by
  simp only [Unescaped, String.toList_append, List.mem_append, not_or]

@[simp]
theorem numeral (n : Nat) : Unescaped n.repr := by
  intro h
  rw [Nat.toList_repr] at h
  exact absurd (Nat.isDigit_of_mem_toDigits (by decide) (by decide) h) (by decide)

@[simp]
theorem blanks (n : Nat) : Unescaped (String.ofList (List.replicate n ' ')) := by
  intro h
  rw [String.toList_ofList] at h
  exact absurd (List.eq_of_mem_replicate h) (by decide)

theorem intercalate (hs : Unescaped s) {l : List String} (hl : ∀ t ∈ l, Unescaped t) :
    Unescaped (s.intercalate l) := by
  induction l with
  | nil => exact List.not_mem_nil
  | cons t l ih =>
    obtain ⟨ht, hl⟩ := List.forall_mem_cons.mp hl
    by_cases hempty : l = []
    · rwa [hempty, String.intercalate_singleton]
    · rw [String.intercalate_cons_of_ne_nil hempty, append_iff, append_iff]
      exact ⟨⟨ht, hs⟩, ih hl⟩

theorem of_mem_wrap {limit : Nat} (hs : Unescaped s) (ht : t ∈ Text.wrap limit s) :
    Unescaped t := by
  intro h
  rcases List.mem_cons.mp (Text.wrap_subset limit s t ht h) with h | h
  · exact absurd h (by decide)
  · exact hs h

end Unescaped

@[simp]
theorem unescaped_icon (ascii : Bool) (state : NodeState) : Unescaped (state.icon ascii) := by
  cases state <;> cases ascii <;> decide

@[simp]
theorem unescaped_word (s : Status) : Unescaped s.word := by
  cases s <;> decide

@[simp]
theorem unescaped_arrow (s : Settings) : Unescaped (arrow s) := by
  rw [arrow]
  split <;> decide

/-! ## Texts with their colors removed -/

/-- Without its color sequences, `t` is `u`, whatever follows. -/
def Shows (t u : String) : Prop :=
  ∀ rest, withoutColors (t.toList ++ rest) = u.toList ++ withoutColors rest

/-- No colors are shown: they are turned off, or the terminal takes none. -/
def Colorless (c : Console) (s : Settings) : Prop := s.colors = true → c.takesColor = false

variable {c c' : Console} {s s' : Settings} {t t' u u' : String}

namespace Shows

theorem refl (h : Unescaped t) : Shows t t := withoutColors_append h

theorem append (h : Shows t u) (h' : Shows t' u') : Shows (t ++ t') (u ++ u') := by
  intro rest
  rw [String.toList_append, String.toList_append, List.append_assoc, h, h', List.append_assoc]

/-- A style adds nothing but color sequences. -/
theorem apply (style : Style) (h : Unescaped t) : Shows (style.apply c t) t := by
  unfold Style.apply
  split
  · intro rest
    rw [String.toList_ofList, renew_of_not_mem _ h, List.append_assoc, withoutColors_opening,
      List.append_assoc, withoutColors_append h, withoutColors_closing]
  · exact refl h

end Shows

/-- Where no colors are shown, a text stays as it is, whatever its style. -/
theorem styled_of_colorless (h : Colorless c s) (style : Style) (t : String) :
    (if s.colors then style.apply c t else t) = t := by
  split
  · next hs => rw [Style.apply, h hs, if_neg Bool.false_ne_true]
  · rfl

/-!
## Kinds of text

Under any settings, each kind of text shows what it is where no colors are shown.
-/

section Kinds

variable (h : Colorless c' s')
include h

theorem shows_styled (style : Style) (ht : Unescaped t) :
    Shows (if s.colors then style.apply c t else t)
      (if s'.colors then style.apply c' t else t) := by
  rw [styled_of_colorless h]
  split
  · exact .apply style ht
  · exact .refl ht

theorem shows_heading (ht : Unescaped t) : Shows (heading c s t) (heading c' s' t) :=
  shows_styled h .bold ht

theorem shows_label (ht : Unescaped t) : Shows (label c s t) (label c' s' t) :=
  shows_styled h .dimmed ht

theorem shows_idText {id : IssueId} (hid : Unescaped id) :
    Shows (idText c s id) (idText c' s' id) :=
  shows_styled h (.plain .cyan) hid

theorem shows_priorityText (p : Priority) : Shows (priorityText c s p) (priorityText c' s' p) := by
  have hp : Unescaped ("P" ++ toString p.toNat) := by simp +decide
  unfold priorityText
  generalize "P" ++ toString p.toNat = text at hp ⊢
  match p.toNat with
  | 0 => exact shows_styled h (.strong .red) hp
  | 1 => exact shows_styled h (.plain .yellow) hp
  | _ + 2 =>
    simp only [ite_self]
    exact .refl hp

theorem shows_statusText (status : Option Status) :
    Shows (statusText c s status) (statusText c' s' status) := by
  cases status with
  | none => exact shows_label h (by decide)
  | some status =>
    have hs := unescaped_word status
    cases status <;> exact shows_styled h _ hs

theorem shows_iconText (hascii : s'.ascii = s.ascii) (state : NodeState) :
    Shows (iconText c s state) (iconText c' s' state) := by
  have hicon := unescaped_icon s.ascii state
  unfold iconText
  rw [hascii]
  cases state <;> exact shows_styled h _ hicon

end Kinds

/-! ## Lines -/

/-- Whether the id and the title of a node hold no escape character. -/
def PlainNames (n : Node) : Prop := Unescaped n.data.issue.id ∧ Unescaped n.data.issue.title

theorem print_cons (line : String) (lines : List String) :
    print (line :: lines) = line ++ "\n" ++ print lines := by
  rw [String.ext_iff]
  simp only [print, List.flatMap_cons, String.toList_append, String.toList_ofList]
  rfl

/-- Line by line, the same text with colors and without. -/
abbrev ShowLines : List String → List String → Prop := List.Forall₂ Shows

namespace ShowLines

variable {α : Type} {l : List α}

theorem map {f g : α → String} (h : ∀ a ∈ l, Shows (f a) (g a)) :
    ShowLines (l.map f) (l.map g) :=
  List.forall₂_map_left_iff.mpr (List.forall₂_map_right_iff.mpr (List.forall₂_same.mpr h))

theorem flatMap {f g : α → List String} (h : ∀ a ∈ l, ShowLines (f a) (g a)) :
    ShowLines (l.flatMap f) (l.flatMap g) := by
  induction l with
  | nil => exact .nil
  | cons a l ih =>
    obtain ⟨ha, hl⟩ := List.forall_mem_cons.mp h
    exact List.rel_append ha (ih hl)

theorem withoutColors_print {lines lines' : List String} (h : ShowLines lines lines') :
    withoutColors (print lines).toList = (print lines').toList := by
  have hshow : Shows (print lines) (print lines') := by
    induction h with
    | nil => exact .refl (by decide)
    | cons hline _ ih =>
      rw [print_cons, print_cons]
      exact hline.append (.refl (by decide)) |>.append ih
  have hwhole := hshow []
  rwa [List.append_nil, withoutColors_nil, List.append_nil] at hwhole

end ShowLines

theorem unescaped_countsText (d : NodeData) : Unescaped (countsText d) := by
  simp +decide [countsText]

theorem unescaped_title {g : Graph} (hnodes : ∀ n ∈ g.nodes, PlainNames n) (id : IssueId) :
    Unescaped (((g.node? id).map (·.data.issue.title)).getD "") := by
  cases hnode : g.node? id with
  | none => exact List.not_mem_nil
  | some n =>
    obtain ⟨_, -, hfind⟩ := Option.bind_eq_some_iff.mp hnode
    exact (hnodes n (List.mem_of_find?_eq_some hfind)).2

theorem arrow_eq (hascii : s'.ascii = s.ascii) : arrow s' = arrow s := by
  rw [arrow, arrow, hascii]

/-! ## Reports -/

section Reports

variable (h : Colorless c' s')
include h

theorem showLines_idLines {title : String} {ids : SortedSet IssueId} {g : Graph}
    (htitle : Unescaped title) (hids : ∀ id ∈ ids, Unescaped id)
    (hnodes : ∀ n ∈ g.nodes, PlainNames n) :
    ShowLines (idLines c s title ids g) (idLines c' s' title ids g) := by
  refine .cons ?_ (ShowLines.map fun id hid => ?_)
  · simp only [String.append_assoc]
    exact (Shows.refl (by decide)).append
      ((shows_heading h htitle).append (.refl (by simp +decide)))
  · exact (Shows.refl (by decide)).append (shows_idText h (hids id hid))
      |>.append (.refl (by decide)) |>.append (.refl (unescaped_title hnodes id))

variable (hascii : s'.ascii = s.ascii)
include hascii

theorem shows_nodeHead {indent : String} {n : Node} (hindent : Unescaped indent)
    (hid : Unescaped n.data.issue.id) :
    Shows (nodeHead c s indent n) (nodeHead c' s' indent n) :=
  Shows.refl hindent
    |>.append (shows_iconText h hascii _)
    |>.append (.refl (by decide))
    |>.append (shows_idText h hid)
    |>.append (.refl (by decide))
    |>.append (shows_priorityText h _)
    |>.append (.refl (by decide))
    |>.append (shows_statusText h _)

theorem showLines_nodeLines {indent : String} {n : Node} (hindent : Unescaped indent)
    (hn : PlainNames n) (width : Nat) :
    ShowLines (nodeLines c s width indent n) (nodeLines c' s' width indent n) := by
  have hhead : Shows (nodeHead c s indent n) (nodeHead c' s' indent n) :=
    shows_nodeHead h hascii hindent hn.1
  unfold nodeLines
  dsimp only
  split
  · exact .cons hhead .nil
  · next first rest hwrap =>
    have hlines : ∀ t ∈ first :: rest, Unescaped t := fun t ht => .of_mem_wrap hn.2 (hwrap ▸ ht)
    obtain ⟨hfirst, hrest⟩ := List.forall_mem_cons.mp hlines
    refine .cons ?_ (ShowLines.map fun t ht => ?_)
    · exact hhead.append (.refl (by decide)) |>.append (.refl hfirst)
    · exact (Shows.refl hindent).append (.refl (by decide)) |>.append (.refl (hrest t ht))

theorem showLines_graphLines {g : Graph} (hnodes : ∀ n ∈ g.nodes, PlainNames n)
    (hmissing : ∀ id ∈ g.missingTargetIds, Unescaped id) (width : Nat) :
    ShowLines (graphLines c s width g) (graphLines c' s' width g) := by
  have hids : Unescaped (String.intercalate ", " g.missingTargetIds.toList) :=
    .intercalate (by decide) hmissing
  have hbody : ∀ n ∈ g.nodes,
      ShowLines
        (nodeLines c s width "  " n ++
          if n.data.isGhost then [] else ["      " ++ label c s (countsText n.data)])
        (nodeLines c' s' width "  " n ++
          if n.data.isGhost then [] else ["      " ++ label c' s' (countsText n.data)]) := by
    intro n hn
    refine List.rel_append (showLines_nodeLines h hascii (by decide) (hnodes n hn) width) ?_
    split
    · exact .nil
    · exact .cons ((Shows.refl (by decide)).append (shows_label h (unescaped_countsText _))) .nil
  unfold graphLines
  split
  · exact .cons (.refl (by decide)) .nil
  · refine List.rel_append (List.rel_append (List.rel_append ?_ ?_) ?_) (ShowLines.flatMap hbody)
    · simp only [String.append_assoc]
      refine .cons ?_ (.cons ?_ .nil)
      · exact (shows_heading h (by decide)).append (.refl (by simp +decide))
      · exact (Shows.refl (by decide)).append
          ((shows_label h (by decide)).append (.refl (by simp +decide)))
    · split
      · exact .nil
      · refine .cons ?_ .nil
        exact (Shows.refl (by decide)).append (shows_label h (by decide))
          |>.append (.refl (by decide)) |>.append (.refl hids)
    · exact .cons (.refl (by decide)) .nil

theorem showLines_chainLines {id : IssueId} {chain : Chain} {g : Graph} (hid : Unescaped id)
    (hblockers : ∀ x ∈ chain.blockers, Unescaped x) (hblocked : ∀ x ∈ chain.blockedBy, Unescaped x)
    (hnodes : ∀ n ∈ g.nodes, PlainNames n) :
    ShowLines (chainLines c s id chain g) (chainLines c' s' id chain g) := by
  unfold chainLines
  rw [arrow_eq hascii]
  refine List.rel_append (List.rel_append (List.rel_append (List.rel_append ?_ ?_) ?_) ?_) ?_
  · refine .cons ?_ .nil
    exact (shows_heading h (by decide)).append (.refl (by decide)) |>.append (shows_idText h hid)
  · exact showLines_idLines h (by simp +decide) hblockers hnodes
  · exact showLines_idLines h (by simp +decide) hblocked hnodes
  · refine .cons ?_ .nil
    exact (Shows.refl (by decide)).append (shows_label h (by decide))
      |>.append (.refl (by decide)) |>.append (.refl (by simp))
  · split
    · exact .cons ((Shows.refl (by decide)).append (shows_label h (by decide))) .nil
    · exact .nil

theorem showLines_topLines {nodes : List Node} (hnodes : ∀ n ∈ nodes, PlainNames n) (width : Nat) :
    ShowLines (topLines c s width nodes) (topLines c' s' width nodes) := by
  unfold topLines
  split
  · exact .cons (.refl (by decide)) .nil
  · refine .cons (shows_heading h (by decide)) (ShowLines.flatMap ?_)
    rintro ⟨n, i⟩ hn
    refine showLines_nodeLines h hascii ?_ (hnodes n (List.fst_mem_of_mem_zipIdx hn)) width
    simp +decide [padStart, padEnd]

theorem showLines_readyLines {nodes : List Node} (hnodes : ∀ n ∈ nodes, PlainNames n)
    (width : Nat) : ShowLines (readyLines c s width nodes) (readyLines c' s' width nodes) := by
  unfold readyLines
  split
  · exact .cons (.refl (by decide)) .nil
  · refine .cons ?_ (ShowLines.flatMap fun n hn => ?_)
    · simp only [String.append_assoc]
      exact (shows_heading h (by decide)).append (.refl (by simp +decide))
    · exact showLines_nodeLines h hascii (by decide) (hnodes n hn) width

end Reports

/-! ## Findings -/

/-- Whether a finding has a text in which no id and no title holds an escape character. -/
def Finding.PlainText : Finding → Prop
  | .graph g => (∀ n ∈ g.nodes, PlainNames n) ∧ ∀ id ∈ g.missingTargetIds, Unescaped id
  | .layout _ => False
  | .chain id c g => Unescaped id ∧ (∀ x ∈ c.blockers, Unescaped x) ∧
      (∀ x ∈ c.blockedBy, Unescaped x) ∧ ∀ n ∈ g.nodes, PlainNames n
  | .top nodes | .ready nodes => ∀ n ∈ nodes, PlainNames n

theorem Finding.PlainText.showLines {f : Finding} (hf : f.PlainText) (h : Colorless c' s')
    (hascii : s'.ascii = s.ascii) (hwidth : s'.contentWidth c' = s.contentWidth c) :
    ∃ lines lines', f.lines? c s = some lines ∧ f.lines? c' s' = some lines' ∧
      ShowLines lines lines' := by
  cases f with
  | graph g =>
    refine ⟨_, _, rfl, rfl, ?_⟩
    rw [hwidth]
    exact showLines_graphLines h hascii hf.1 hf.2 _
  | layout l => exact hf.elim
  | chain id chain g =>
    obtain ⟨hid, hblockers, hblocked, hnodes⟩ := hf
    exact ⟨_, _, rfl, rfl, showLines_chainLines h hascii hid hblockers hblocked hnodes⟩
  | top nodes =>
    refine ⟨_, _, rfl, rfl, ?_⟩
    rw [hwidth]
    exact showLines_topLines h hascii hf _
  | ready nodes =>
    refine ⟨_, _, rfl, rfl, ?_⟩
    rw [hwidth]
    exact showLines_readyLines h hascii hf _

/-- The settings in the environment of a console. -/
def Console.settings (c : Console) : Settings := (Settings.ofVariables c.environment).1

theorem Finding.print_of_lines {f : Finding} {lines : List String}
    (h : f.lines? c c.settings = some lines) : (f.print false c).1 = Report.print lines := by
  rw [Console.settings] at h
  simp only [Finding.print, h]

/-- Colors add color sequences to a text and change nothing else. On any console and under any
settings a finding has a text with colors and one without, and the first without its color
sequences is the second. So it is with what two consoles print, one of which shows no colors, if
they have the same width, the same maximum width and the same icons. -/
theorem colors_leave_the_text (f : Finding) (hf : f.PlainText) :
    (∀ (c : Console) (s : Settings), ∃ colored plain,
      f.lines? c { s with colors := true } = some colored ∧
      f.lines? c { s with colors := false } = some plain ∧
      withoutColors (print colored).toList = (print plain).toList) ∧
    ∀ c c' : Console, Colorless c' c'.settings → c'.width = c.width →
      c'.settings.maxWidth = c.settings.maxWidth → c'.settings.ascii = c.settings.ascii →
      withoutColors (f.print false c).1.toList = (f.print false c').1.toList := by
  constructor
  · intro c s
    have hcolorless : Colorless c { s with colors := false } :=
      fun h => absurd h Bool.false_ne_true
    obtain ⟨colored, plain, hcolored, hplain, hshow⟩ :=
      hf.showLines (s := { s with colors := true }) hcolorless rfl rfl
    exact ⟨colored, plain, hcolored, hplain, hshow.withoutColors_print⟩
  · intro c c' hcolorless hwidth hmax hascii
    have hcontent : c'.settings.contentWidth c' = c.settings.contentWidth c := by
      rw [Settings.contentWidth, Settings.contentWidth, hwidth, hmax]
    obtain ⟨lines, lines', hlines, hlines', hshow⟩ := hf.showLines hcolorless hascii hcontent
    rw [Finding.print_of_lines hlines, Finding.print_of_lines hlines']
    exact hshow.withoutColors_print

/-- An issue whose title is wrapped. -/
def longNode : Node where
  id := nodeId "bg-1"
  position := {}
  data :=
    { issue := .new "bg-1" ("Draw the graph of all issues with everything that blocks them, " ++
        "so that one sees at a glance what to do first,\nand write down how it is read")
      dependencyCount := 0
      dependentCount := 1
      isReady := true
      blockedCount := 1
      isRootBlocker := true
      isClosed := false
      isGhost := false }

/-- A wide terminal that takes colors. -/
def wideConsole : Console where
  environment := fun v => if v = "BLOCKGRAPH_MAX_WIDTH" then some "110" else none
  takesColor := true
  columns := some 132

/-- The wide terminal with colors turned off by a variable. -/
def colorlessConsole : Console where
  environment := fun v => if v = "NO_COLOR" then some "" else wideConsole.environment v
  takesColor := true
  columns := some 132

theorem colors_leave_the_text_of_long_title : (Finding.ready [longNode]).PlainText ∧
    wideConsole.settings.contentWidth wideConsole = 110 ∧
    '\x1b' ∈ ((Finding.ready [longNode]).print false wideConsole).1.toList ∧
    withoutColors ((Finding.ready [longNode]).print false wideConsole).1.toList =
      ((Finding.ready [longNode]).print false colorlessConsole).1.toList := by
  have hplain : (Finding.ready [longNode]).PlainText :=
    List.forall_mem_singleton.mpr ⟨by decide, by decide +kernel⟩
  have hheading :
      '\x1b' ∈ (heading wideConsole wideConsole.settings "Ready to work on").toList := by
    decide
  refine ⟨hplain, by decide, ?_, ?_⟩
  · rw [Finding.print_of_lines rfl, readyLines, if_neg (by decide), print_cons]
    simp only [String.toList_append, List.mem_append]
    exact .inl (.inl (.inl (.inl (.inl hheading))))
  refine (colors_leave_the_text _ hplain).2 wideConsole colorlessConsole ?_ rfl ?_ ?_
  · exact fun h => absurd h (by decide)
  · decide
  · decide

end IssueGraph.Report
