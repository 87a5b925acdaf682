import PackageAtlas.Proofs.Diagram.ShownNames
import PackageAtlas.Proofs.View.Derived

/-!
# What a PlantUML document tells

Packages are drawn as boxes and dependencies as arrows between labels. A document is written from
these alone, and they can be read back: the title states the prefix that is left out, quotes end the
names, and each kind of line begins in its own way.
-/
namespace PackageAtlas

/-! ### Boxes and arrows -/

namespace Diagram

structure Box where
  label : String
  state : EntityState
deriving DecidableEq, Repr

/-- What is written at an arrow: how many dependencies it stands for, or how that changed. -/
inductive Caption where
  | count (number : Nat)
  | marked (text : String)
deriving DecidableEq, Repr

/-- A dependency as it is drawn, from one label to another. -/
structure Arrow where
  source : String
  destination : String
  state : EntityState
  caption : Caption
deriving DecidableEq, Repr

def Caption.text : Caption → String
  | .count number => toString number
  | .marked text => text

def caption (dependency : ViewDependency) : Caption :=
  match dependency.mark with
  | some mark => .marked mark.label
  | none => .count dependency.count

def boxes (view : View) : List Box :=
  view.packages.map fun package => ⟨package.label, package.state⟩

def arrow (view : View) (dependency : ViewDependency) : Arrow where
  source := labelOf view dependency.source
  destination := labelOf view dependency.destination
  state := dependency.displayState
  caption := caption dependency

def arrows (view : View) : List Arrow :=
  (view.packages.flatMap (·.dependencies)).map (arrow view)

/-- Whether a text on an arrow stays on its line, and a mark does not read like a count. -/
structure Caption.Legible (caption : Caption) : Prop where
  one_line : '\n' ∉ caption.text.toList
  bracketed {text : String} : caption = .marked text → '(' ∈ text.toList

theorem caption_legible {dependency : ViewDependency} (legible : dependency.Legible) :
    (caption dependency).Legible := by
  rw [caption]
  cases marked : dependency.mark with
  | none =>
    exact {
      one_line := Text.not_mem_toString (by decide) dependency.count
      bracketed same := by cases same }
  | some mark =>
    obtain ⟨one_line, bracketed⟩ := legible mark marked
    exact {
      one_line
      bracketed same := by
        cases same
        exact bracketed }

private theorem eq_of_toString_eq {first second : Nat} (same : toString first = toString second) :
    first = second := by
  have digits := congrArg (fun text => Nat.ofDigitChars 10 text.toList 0) same
  simp only [Nat.toString_eq_repr, Nat.toList_repr,
    Nat.ofDigitChars_toDigits (by decide : 1 < 10) (Nat.le_refl 10)] at digits
  exact digits

theorem Caption.Legible.eq_of_text_eq {first second : Caption} (first_legible : first.Legible)
    (second_legible : second.Legible) (same : first.text = second.text) : first = second := by
  -- A count has no bracket in it, every mark has one.
  have count_ne {number : Nat} {text : String} (legible : (Caption.marked text).Legible) :
      toString number ≠ text := by
    rintro rfl
    exact Text.not_mem_toString (by decide) number (legible.bracketed rfl)
  cases first with
  | count number =>
    cases second with
    | count other => exact congrArg Caption.count (eq_of_toString_eq same)
    | marked text => exact absurd same (count_ne second_legible)
  | marked text =>
    cases second with
    | count other => exact absurd same.symm (count_ne first_legible)
    | marked other => exact congrArg Caption.marked same

end Diagram

/-! ### Texts that are read back -/

namespace Text

/-- The first separator of a text tells what stands before it. -/
theorem append_cons_inj {separator : Char} {first second rest other : List Char}
    (first_clean : separator ∉ first) (second_clean : separator ∉ second)
    (same : first ++ separator :: rest = second ++ separator :: other) :
    first = second ∧ rest = other := by
  have cut := congrArg (splitChars separator) same
  rw [splitChars_append, splitChars_append, splitChars_of_not_mem first_clean,
    splitChars_of_not_mem second_clean] at cut
  obtain ⟨before, behind⟩ := List.cons.inj cut
  refine ⟨before, ?_⟩
  rw [← joinChars_splitChars separator rest, ← joinChars_splitChars separator other]
  exact congrArg (joinChars separator) behind

/-- A text of whole lines tells each of them. -/
theorem eq_of_join_lines_eq {first second : List String}
    (first_clean : ∀ line ∈ first, '\n' ∉ line.toList)
    (second_clean : ∀ line ∈ second, '\n' ∉ line.toList)
    (same : String.join (first.map (· ++ "\n")) = String.join (second.map (· ++ "\n"))) :
    first = second := by
  have toList_join_cons (line : String) (lines : List String) :
      (String.join ((line :: lines).map (· ++ "\n"))).toList =
        line.toList ++ '\n' :: (String.join (lines.map (· ++ "\n"))).toList := by
    simp [String.toList_append]
  induction first generalizing second with
  | nil =>
    cases second with
    | nil => rfl
    | cons line lines =>
      have chars := congrArg String.toList same
      rw [toList_join_cons] at chars
      simp at chars
  | cons line lines ih =>
    cases second with
    | nil =>
      have chars := congrArg String.toList same
      rw [toList_join_cons] at chars
      simp at chars
    | cons other others =>
      have chars := congrArg String.toList same
      rw [toList_join_cons, toList_join_cons] at chars
      obtain ⟨line_eq, rest_eq⟩ := append_cons_inj (first_clean line List.mem_cons_self)
        (second_clean other List.mem_cons_self) chars
      rw [String.toList_inj.mp line_eq,
        ih (fun next member => first_clean next (List.mem_cons_of_mem line member))
          (fun next member => second_clean next (List.mem_cons_of_mem other member))
          (String.toList_inj.mp rest_eq)]

end Text

/-- Lists with equal images are equal where the function tells their elements apart. -/
theorem eq_of_map_eq {α β : Type} {f : α → β} {first second : List α}
    (same : first.map f = second.map f)
    (apart : ∀ a ∈ first, ∀ b ∈ second, f a = f b → a = b) : first = second := by
  induction first generalizing second with
  | nil => exact (List.map_eq_nil_iff.mp same.symm).symm
  | cons a rest ih =>
    obtain ⟨b, others, rfl, head_eq, tail_eq⟩ := List.map_eq_cons_iff.mp same.symm
    rw [apart a List.mem_cons_self b List.mem_cons_self head_eq.symm,
      ih tail_eq.symm fun a member b member' =>
        apart a (List.mem_cons_of_mem _ member) b (List.mem_cons_of_mem _ member')]

/-- Two lists that begin with elements of one kind and go on with those of another are cut at the
same place. -/
theorem append_inj_of_kinds {α : Type} (kind : α → Bool) {first second rest other : List α}
    (first_kind : ∀ a ∈ first, kind a = true) (second_kind : ∀ a ∈ second, kind a = true)
    (rest_kind : ∀ a ∈ rest, kind a = false) (other_kind : ∀ a ∈ other, kind a = false)
    (same : first ++ rest = second ++ other) : first = second ∧ rest = other := by
  have filtered := congrArg (List.filter kind) same
  rw [List.filter_append, List.filter_append, List.filter_eq_self.mpr first_kind,
    List.filter_eq_self.mpr second_kind,
    List.filter_eq_nil_iff.mpr fun a member => by simp [rest_kind a member],
    List.filter_eq_nil_iff.mpr fun a member => by simp [other_kind a member],
    List.append_nil, List.append_nil] at filtered
  subst filtered
  exact ⟨rfl, List.append_cancel_left same⟩

namespace PlantUml

open Diagram (Box Arrow boxes arrows)

/-! ### Lines of a document -/

def boxLine (style : Style) (stem : Option String) (box : Box) : String :=
  "package " ++ (quoted (withoutPrefix stem box.label) ++ (" " ++ style.color box.state))

def arrowLine (style : Style) (stem : Option String) (arrow : Arrow) : String :=
  quoted (withoutPrefix stem arrow.source) ++
    ("-->" ++ (quoted (withoutPrefix stem arrow.destination) ++
      (arrowColor style arrow.state ++ (" : " ++ arrow.caption.text))))

/-- What every document under one title begins with. -/
def opening (style : Style) (viewName : String) : String :=
  "@startuml" ++ "\n" ++ ("skinparam backgroundColor GhostWhite" ++ "\n") ++
    ("title " ++ Diagram.title style.projectName viewName)

/-- The lines behind the opening; the first of them ends the line of the title. -/
def lowerLines (style : Style) (boxes : List Box) (arrows : List Arrow) : List String :=
  let stem := commonPrefix (boxes.map (·.label))
  titleEnding stem ::
    (boxes.map (boxLine style stem) ++ (arrows.map (arrowLine style stem) ++ ["@enduml"]))

theorem map_label_boxes (view : View) :
    (boxes view).map (·.label) = view.packages.map (·.label) := by
  rw [boxes, List.map_map]
  rfl

theorem map_packageLine (style : Style) (view : View) :
    view.packages.map (packageLine style (shownName view)) =
      (boxes view).map (boxLine style (commonPrefix (view.packages.map (·.label)))) := by
  rw [boxes, List.map_map]
  refine List.map_congr_left fun package member => ?_
  rw [packageLine, shownName, Diagram.labelOf, (view.find?_eq_some_iff _ _).mpr ⟨member, rfl⟩]
  simp only [Function.comp_apply, boxLine, String.append_assoc]

theorem map_dependencyLine {style : Style} (counts : style.showDependencyCount = true)
    (view : View) :
    (view.packages.flatMap (·.dependencies)).map (dependencyLine style (shownName view)) =
      (arrows view).map (arrowLine style (commonPrefix (view.packages.map (·.label)))) := by
  rw [arrows, List.map_map]
  refine List.map_congr_left fun dependency _ => ?_
  rw [Function.comp_apply, dependencyLine, arrowLine, Diagram.arrow, Diagram.caption, arrowColor]
  cases dependency.mark with
  | none => simp only [counts, if_true, String.append_assoc, shownName, Diagram.Caption.text]
  | some mark => simp only [String.append_assoc, shownName, Diagram.Caption.text]

/-- A document is made of its boxes and arrows, whatever else the view holds. -/
theorem render_text {style : Style} (counts : style.showDependencyCount = true)
    (viewName : String) (view : View) :
    (render style viewName view).text =
      opening style viewName ++
        String.join ((lowerLines style (boxes view) (arrows view)).map (· ++ "\n")) := by
  have lines_drawn := lines_eq style viewName view
  rw [titleLine_eq, map_packageLine, map_dependencyLine counts] at lines_drawn
  simp only [render, lines_drawn, lowerLines, map_label_boxes, opening, List.cons_append,
    List.nil_append, List.append_assoc, List.map_cons, String.join_cons, String.append_assoc]

/-! ### Reading lines back -/

variable {style : Style} {stem : Option String}

theorem eq_of_quoted_append_eq {first second rest other : String} (first_clean : '"' ∉ first.toList)
    (second_clean : '"' ∉ second.toList) (same : quoted first ++ rest = quoted second ++ other) :
    first = second ∧ rest = other := by
  have chars := congrArg String.toList same
  simp only [quoted, String.toList_append, String.reduceToList, List.append_assoc, List.cons_append,
    List.nil_append, List.cons.injEq, true_and] at chars
  obtain ⟨name_eq, rest_eq⟩ := Text.append_cons_inj first_clean second_clean chars
  exact ⟨String.toList_inj.mp name_eq, String.toList_inj.mp rest_eq⟩

/-- The styles whose documents show counts, and show by colors what has changed. -/
structure Style.Telling (style : Style) : Prop where
  counts : style.showDependencyCount = true
  not_created : style.packageColor ≠ createdColor
  not_deleted : style.packageColor ≠ deletedColor
  one_line : '\n' ∉ style.packageColor.toList

theorem Style.Telling.state_eq (telling : style.Telling) {first second : EntityState}
    (same : style.color first = style.color second) : first = second := by
  have created_ne_deleted : createdColor ≠ deletedColor := by decide
  cases first <;> cases second <;> first
    | rfl
    | exact absurd same telling.not_created
    | exact absurd same telling.not_deleted
    | exact absurd same.symm telling.not_created
    | exact absurd same.symm telling.not_deleted
    | exact absurd same created_ne_deleted
    | exact absurd same.symm created_ne_deleted

theorem arrowColor_inj {first second : EntityState} {text other : String}
    (same : arrowColor style first ++ (" : " ++ text) =
      arrowColor style second ++ (" : " ++ other)) : first = second ∧ text = other := by
  have chars := congrArg String.toList same
  cases first <;> cases second <;>
    simp [arrowColor, Style.color, createdColor, deletedColor, String.toList_append] at chars ⊢ <;>
    exact String.toList_inj.mp chars

/-- The end of a title tells whether a prefix is left out, and which. -/
theorem titleEnding_inj {first second : Option String}
    (same : titleEnding first = titleEnding second) : first = second := by
  have some_ne (start : String) : titleEnding (some start) ≠ "" := by
    intro empty
    have chars := congrArg String.toList empty
    simp [titleEnding, String.toList_append] at chars
  cases first with
  | none =>
    cases second with
    | none => rfl
    | some start => exact absurd same.symm (some_ne start)
  | some start =>
    cases second with
    | none => exact absurd same (some_ne start)
    | some other =>
      rw [titleEnding, titleEnding, String.append_left_inj, String.append_right_inj] at same
      exact congrArg some same

/-- What is left of a label was the end of it. -/
theorem exists_append_withoutPrefix (stem : Option String) (label : String) :
    ∃ start, label = start ++ withoutPrefix stem label := by
  cases dropped : (stem.bind (Text.dropStart? · label)).bind (Text.dropStart? ".") with
  | none =>
    rw [withoutPrefix, dropped]
    exact ⟨"", String.empty_append.symm⟩
  | some rest =>
    rw [withoutPrefix, dropped, Option.getD_some]
    obtain ⟨behind, at_dot, dot_dropped⟩ := Option.bind_eq_some_iff.mp dropped
    obtain ⟨start, -, start_dropped⟩ := Option.bind_eq_some_iff.mp at_dot
    rw [Text.dropStart?_eq_some_iff] at start_dropped dot_dropped
    exact ⟨start ++ ".", by rw [start_dropped, dot_dropped, String.append_assoc]⟩

theorem not_mem_withoutPrefix (stem : Option String) {c : Char} {label : String}
    (absent : c ∉ label.toList) : c ∉ (withoutPrefix stem label).toList := by
  obtain ⟨start, label_eq⟩ := exists_append_withoutPrefix stem label
  rw [label_eq, String.toList_append, List.mem_append, not_or] at absent
  exact absent.2

/-- Labels that can stand between quotes on one line. -/
structure Quotable (label : String) : Prop where
  unquoted : '"' ∉ label.toList
  one_line : '\n' ∉ label.toList

theorem boxLine_inj (telling : style.Telling) {first second : Box}
    (first_quotable : Quotable first.label) (second_quotable : Quotable second.label)
    (first_prefixed : Prefixed stem first.label) (second_prefixed : Prefixed stem second.label)
    (same : boxLine style stem first = boxLine style stem second) : first = second := by
  rw [boxLine, boxLine, String.append_right_inj] at same
  obtain ⟨shown_eq, color_eq⟩ := eq_of_quoted_append_eq
    (not_mem_withoutPrefix stem first_quotable.unquoted)
    (not_mem_withoutPrefix stem second_quotable.unquoted) same
  have label_eq := (first_prefixed.withoutPrefix_eq_iff second_prefixed).mp shown_eq
  have state_eq := telling.state_eq ((String.append_right_inj " ").mp color_eq)
  cases first
  cases second
  exact congr (congrArg Box.mk label_eq) state_eq

/-- Whether an arrow leads from label to label, of those that are given. -/
structure Drawn (labels : List String) (arrow : Arrow) : Prop where
  source : arrow.source ∈ labels
  destination : arrow.destination ∈ labels
  caption : arrow.caption.Legible

theorem arrowLine_inj {first_labels second_labels : List String} {first second : Arrow}
    (first_drawn : Drawn first_labels first) (second_drawn : Drawn second_labels second)
    (first_quotable : ∀ label ∈ first_labels, Quotable label)
    (second_quotable : ∀ label ∈ second_labels, Quotable label)
    (first_prefixed : ∀ label ∈ first_labels, Prefixed stem label)
    (second_prefixed : ∀ label ∈ second_labels, Prefixed stem label)
    (same : arrowLine style stem first = arrowLine style stem second) : first = second := by
  rw [arrowLine, arrowLine] at same
  obtain ⟨source_shown, behind_source⟩ := eq_of_quoted_append_eq
    (not_mem_withoutPrefix stem (first_quotable _ first_drawn.source).unquoted)
    (not_mem_withoutPrefix stem (second_quotable _ second_drawn.source).unquoted) same
  obtain ⟨destination_shown, behind_destination⟩ := eq_of_quoted_append_eq
    (not_mem_withoutPrefix stem (first_quotable _ first_drawn.destination).unquoted)
    (not_mem_withoutPrefix stem (second_quotable _ second_drawn.destination).unquoted)
    ((String.append_right_inj "-->").mp behind_source)
  obtain ⟨state_eq, text_eq⟩ := arrowColor_inj behind_destination
  have source_eq := ((first_prefixed _ first_drawn.source).withoutPrefix_eq_iff
    (second_prefixed _ second_drawn.source)).mp source_shown
  have destination_eq := ((first_prefixed _ first_drawn.destination).withoutPrefix_eq_iff
    (second_prefixed _ second_drawn.destination)).mp destination_shown
  have caption_eq := first_drawn.caption.eq_of_text_eq second_drawn.caption text_eq
  cases first
  cases second
  exact congr (congr (congr (congrArg Arrow.mk source_eq) destination_eq) state_eq) caption_eq

/-! ### Reading documents back -/

/-- Boxes and arrows as views have them: the arrows lead between the boxes. -/
structure Sheet (boxes : List Box) (arrows : List Arrow) : Prop where
  quotable : ∀ label ∈ boxes.map (·.label), Quotable label
  drawn : ∀ arrow ∈ arrows, Drawn (boxes.map (·.label)) arrow

variable {first_boxes second_boxes : List Box} {first_arrows second_arrows : List Arrow}

theorem one_line_quoted (stem : Option String) {label : String} (quotable : Quotable label) :
    '\n' ∉ (quoted (withoutPrefix stem label)).toList := by
  have shown := not_mem_withoutPrefix stem quotable.one_line
  simp [quoted, String.toList_append, shown]

theorem one_line_color (telling : style.Telling) (state : EntityState) :
    '\n' ∉ (style.color state).toList := by
  cases state with
  | neutral => exact telling.one_line
  | created => exact (by decide : '\n' ∉ createdColor.toList)
  | deleted => exact (by decide : '\n' ∉ deletedColor.toList)

theorem one_line_boxLine (telling : style.Telling) {box : Box} (quotable : Quotable box.label) :
    '\n' ∉ (boxLine style stem box).toList := by
  have name := one_line_quoted stem quotable
  have color := one_line_color telling box.state
  simp [boxLine, String.toList_append, name, color]

theorem one_line_arrowLine (telling : style.Telling) {labels : List String} {arrow : Arrow}
    (quotable : ∀ label ∈ labels, Quotable label) (drawn : Drawn labels arrow) :
    '\n' ∉ (arrowLine style stem arrow).toList := by
  have source := one_line_quoted stem (quotable _ drawn.source)
  have destination := one_line_quoted stem (quotable _ drawn.destination)
  have color : '\n' ∉ (arrowColor style arrow.state).toList := by
    have plain := one_line_color telling arrow.state
    rw [arrowColor]
    split
    next => exact List.not_mem_nil
    next => simp [String.toList_append, plain]
  simp [arrowLine, String.toList_append, source, destination, color, drawn.caption.one_line]

/-- A prefix is on one line because the labels are. -/
theorem one_line_titleEnding {labels : List String} (quotable : ∀ label ∈ labels, Quotable label) :
    '\n' ∉ (titleEnding (commonPrefix labels)).toList := by
  cases found : commonPrefix labels with
  | none => exact List.not_mem_nil
  | some start =>
    have start_line : '\n' ∉ start.toList := by
      cases labels with
      | nil => cases found
      | cons label labels =>
        obtain ⟨rest, label_eq⟩ := exists_rest_of_commonPrefix found List.mem_cons_self
        have whole := (quotable label List.mem_cons_self).one_line
        rw [label_eq, String.toList_append, String.toList_append, List.mem_append, List.mem_append,
          not_or, not_or] at whole
        exact whole.1.1
    simp [titleEnding, String.toList_append, start_line]

theorem Sheet.one_line (sheet : Sheet first_boxes first_arrows) (telling : style.Telling) :
    ∀ line ∈ lowerLines style first_boxes first_arrows, '\n' ∉ line.toList := by
  intro line member
  simp only [lowerLines, List.mem_cons, List.mem_append, List.mem_map, List.not_mem_nil,
    or_false] at member
  rcases member with rfl | ⟨box, drawn, rfl⟩ | ⟨arrow, drawn, rfl⟩ | rfl
  · exact one_line_titleEnding sheet.quotable
  · exact one_line_boxLine telling (sheet.quotable _ (List.mem_map_of_mem drawn))
  · exact one_line_arrowLine telling sheet.quotable (sheet.drawn arrow drawn)
  · decide

/-- Whether a line begins as those of boxes do. -/
def isBoxLine (line : String) : Bool :=
  line.toList.head? = some 'p'

theorem isBoxLine_boxLine (box : Box) : isBoxLine (boxLine style stem box) = true := by
  simp [isBoxLine, boxLine, String.toList_append]

theorem isBoxLine_arrowLine (arrow : Arrow) : isBoxLine (arrowLine style stem arrow) = false := by
  simp [isBoxLine, arrowLine, quoted, String.toList_append]

theorem Sheet.eq_of_lowerLines_eq (first : Sheet first_boxes first_arrows)
    (second : Sheet second_boxes second_arrows) (telling : style.Telling)
    (same : lowerLines style first_boxes first_arrows =
      lowerLines style second_boxes second_arrows) :
    first_boxes = second_boxes ∧ first_arrows = second_arrows := by
  obtain ⟨ending_eq, lines_eq⟩ := List.cons.inj same
  have stem_eq := titleEnding_inj ending_eq
  have first_prefixed (label : String) (member : label ∈ first_boxes.map (·.label)) :=
    prefixed_of_mem member
  have second_prefixed (label : String) (member : label ∈ second_boxes.map (·.label)) :=
    prefixed_of_mem member
  rw [← stem_eq] at lines_eq second_prefixed
  -- Boxes come first, and no line behind them begins as theirs do.
  have behind {arrows : List Arrow} {stem : Option String} :
      ∀ line ∈ arrows.map (arrowLine style stem) ++ ["@enduml"], isBoxLine line = false := by
    intro line member
    rcases List.mem_append.mp member with of_arrow | last
    · obtain ⟨arrow, -, rfl⟩ := List.mem_map.mp of_arrow
      exact isBoxLine_arrowLine arrow
    · rw [List.mem_singleton.mp last]
      decide
  obtain ⟨box_lines, lower⟩ := append_inj_of_kinds isBoxLine
    (List.forall_mem_map.mpr fun box _ => isBoxLine_boxLine box)
    (List.forall_mem_map.mpr fun box _ => isBoxLine_boxLine box) behind behind lines_eq
  -- Each line tells its box or its arrow, as the prefix that is left out is known.
  have arrow_lines := List.append_cancel_right lower
  constructor
  · refine eq_of_map_eq box_lines fun a in_first b in_second line_eq => ?_
    have a_label := List.mem_map_of_mem (f := Box.label) in_first
    have b_label := List.mem_map_of_mem (f := Box.label) in_second
    exact boxLine_inj telling (first.quotable _ a_label) (second.quotable _ b_label)
      (first_prefixed _ a_label) (second_prefixed _ b_label) line_eq
  · exact eq_of_map_eq arrow_lines fun a in_first b in_second =>
      arrowLine_inj (first.drawn a in_first) (second.drawn b in_second) first.quotable
        second.quotable first_prefixed second_prefixed

theorem sheet_of_derived {view : View} (derived : view.Derived)
    (quotable : ∀ package ∈ view.packages, Quotable package.label) :
    Sheet (boxes view) (arrows view) where
  quotable := by
    rw [map_label_boxes]
    exact List.forall_mem_map.mpr quotable
  drawn arrow member := by
    obtain ⟨dependency, drawn, rfl⟩ := List.mem_map.mp member
    obtain ⟨source, source_member, destination, destination_member, source_eq, destination_eq⟩ :=
      derived.connected.ends_labelled drawn
    obtain ⟨package, package_member, carried⟩ := List.mem_flatMap.mp drawn
    rw [map_label_boxes]
    exact {
      source := List.mem_map.mpr ⟨source, source_member, source_eq.symm⟩
      destination := List.mem_map.mpr ⟨destination, destination_member, destination_eq.symm⟩
      caption := Diagram.caption_legible
        (derived.legible package package_member dependency carried) }

/-- Under one title, two documents read alike exactly if the views have the same packages and the
same dependencies, as far as labels, states, counts and marks go. -/
theorem render_eq_iff (telling : style.Telling) (viewName : String) {first second : View}
    (first_derived : first.Derived) (second_derived : second.Derived)
    (first_quotable : ∀ package ∈ first.packages, Quotable package.label)
    (second_quotable : ∀ package ∈ second.packages, Quotable package.label) :
    (render style viewName first).text = (render style viewName second).text ↔
      boxes first = boxes second ∧ arrows first = arrows second := by
  rw [render_text telling.counts, render_text telling.counts, String.append_right_inj]
  constructor
  · intro same
    have first_sheet := sheet_of_derived first_derived first_quotable
    have second_sheet := sheet_of_derived second_derived second_quotable
    exact first_sheet.eq_of_lowerLines_eq second_sheet telling
      (Text.eq_of_join_lines_eq (first_sheet.one_line telling) (second_sheet.one_line telling) same)
  · rintro ⟨boxes_eq, arrows_eq⟩
    rw [boxes_eq, arrows_eq]

open Project (sample sampleSpec sampleAround sample_reachable)

/-- A comparison of two views of `sample` and the reverse comparison are told apart by their
documents. -/
theorem sample_render_ne :
    let forth := (sample.view sampleSpec).diff (sample.view sampleAround)
    let back := (sample.view sampleAround).diff (sample.view sampleSpec)
    (Style.standard "shop").Telling ∧
      (render (Style.standard "shop") "overview" forth).text ≠
        (render (Style.standard "shop") "overview" back).text := by
  intro forth back
  have telling : (Style.standard "shop").Telling :=
    ⟨rfl, by decide, by decide, by decide⟩
  have derived (spec : ViewSpec) : (sample.view spec).Derived := .view sample_reachable spec
  have clean : ∀ package ∈ forth.packages ++ back.packages,
      '"' ∉ package.label.toList ∧ '\n' ∉ package.label.toList := by
    decide +kernel
  have quotable {package : ViewPackage} (member : package ∈ forth.packages ++ back.packages) :
      Quotable package.label := ⟨(clean package member).1, (clean package member).2⟩
  have boxes_ne : boxes forth ≠ boxes back := by decide +kernel
  have alike_iff := render_eq_iff telling "overview"
    ((derived sampleSpec).diff (derived sampleAround))
    ((derived sampleAround).diff (derived sampleSpec))
    (fun package member => quotable (List.mem_append_left _ member))
    (fun package member => quotable (List.mem_append_right _ member))
  exact ⟨telling, fun same => boxes_ne (alike_iff.mp same).1⟩

end PlantUml

end PackageAtlas
