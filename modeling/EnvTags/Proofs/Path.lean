import EnvTags.Path
import EnvTags.Proofs.Name
import EnvTags.Proofs.Text.Split

/-!
# Paths of entries

A path that continues another one by the name of an entry has that name as its
last component. The parent of a path has its components but for the last one, and
starts as the path does. So the parent of the path of an entry has the components of
the path that is continued. The pieces of the two may differ, since a path can end
with pieces without effect.
-/

namespace EnvTags
namespace Path

/-- A piece steps to an entry if it has an effect and is not the step to the
parent. -/
def StepsToEntry (piece : Name) : Prop :=
  isSilent piece = false ∧ piece ≠ ".."

instance (piece : Name) : Decidable (StepsToEntry piece) :=
  inferInstanceAs (Decidable (_ ∧ _))

/-- Three pieces do not step to an entry. -/
theorem stepsToEntry_iff
    {piece : Name} :
    StepsToEntry piece ↔ piece ≠ "" ∧ piece ≠ "." ∧ piece ≠ ".." := by
  simp [StepsToEntry, isSilent, and_assoc]

theorem StepsToEntry.ne_empty
    {piece : Name}
    (steps : StepsToEntry piece) :
    piece ≠ "" :=
  (stepsToEntry_iff.mp steps).1

theorem StepsToEntry.ne_dot
    {piece : Name}
    (steps : StepsToEntry piece) :
    piece ≠ "." :=
  (stepsToEntry_iff.mp steps).2.1

/-- A name can be that of an entry if it steps to an entry and has no slash. -/
def IsEntryName (name : Name) : Prop :=
  StepsToEntry name ∧ '/' ∉ name.read.toList

instance (name : Name) : Decidable (IsEntryName name) :=
  inferInstanceAs (Decidable (_ ∧ _))

@[simp] theorem innerComponents_append (left right : List Name) :
    innerComponents (left ++ right) =
      innerComponents left ++ innerComponents right := by
  simp [innerComponents]

/-- Pieces without effect have no component. -/
theorem innerComponents_of_isSilent
    {pieces : List Name}
    (silent : ∀ piece ∈ pieces, isSilent piece = true) :
    innerComponents pieces = [] := by
  rw [innerComponents, List.map_eq_nil_iff, List.filter_eq_nil_iff]
  intro piece inside
  simp [silent piece inside]

theorem innerComponents_singleton
    {piece : Name}
    (steps : StepsToEntry piece) :
    innerComponents [piece] = [.name piece] := by
  simp [innerComponents, steps.1, Component.ofPiece, steps.2]

/-- The components that the first piece of a path has. -/
def headComponents (head : Name) : List Component :=
  if head = "" then [.root]
  else if head = "." then [.here]
  else innerComponents [head]

/-- The first piece of a path and the others have their components apart. -/
theorem components_eq_of_ne_empty
    {path : Path}
    (nonempty : path ≠ empty) :
    path.components = headComponents path.head ++ innerComponents path.tail := by
  obtain ⟨head, tail⟩ := path
  by_cases rooted : head = ""
  · subst rooted
    have tailNonempty : tail ≠ [] := by
      rintro rfl
      exact nonempty rfl
    simp [components, headComponents, tailNonempty]
  · by_cases here : head = "."
    · simp [components, headComponents, here]
    · have split := innerComponents_append [head] tail
      simpa [components, headComponents, rooted, here, pieces] using split

/-- What is put after a start is read off behind it. -/
theorem componentsAfter?_append (start rest : List Component) :
    componentsAfter? start (start ++ rest) = some rest := by
  induction start with
  | nil => rfl
  | cons first start inductionHypothesis =>
      simpa [componentsAfter?] using inductionHypothesis

/-! ## The path of an entry -/

/-- A path that is not empty is continued by the pieces of a relative one. If it
ends with a slash, the pieces come right after it. -/
theorem join_eq_of_ne_empty
    {base relative : Path}
    (nonempty : base ≠ empty)
    (notAbsolute : relative.isAbsolute = false) :
    ∃ tail, base.join relative = ⟨base.head, tail ++ relative.pieces⟩ ∧
      (base.tail = tail ∨ base.tail = tail ++ [.text ""]) := by
  by_cases slash : base.endsWithSlash = true
  · have ends : base.tail.getLast? = some "" := by
      simpa [endsWithSlash] using slash
    obtain ⟨before, split⟩ := List.getLast?_eq_some_iff.mp ends
    refine ⟨before, ?_, .inr split⟩
    simp [join, notAbsolute, nonempty, slash, split]
  · refine ⟨base.tail, ?_, .inl rfl⟩
    simp [join, notAbsolute, nonempty, slash]

theorem child_eq_of_ne_empty
    {base : Path}
    (nonempty : base ≠ empty)
    (name : Name) :
    ∃ tail, base.child name = ⟨base.head, tail ++ [name]⟩ ∧
      (base.tail = tail ∨ base.tail = tail ++ [.text ""]) :=
  join_eq_of_ne_empty nonempty (by simp [isAbsolute])

theorem child_ne_empty
    {base : Path}
    (nonempty : base ≠ empty)
    (name : Name) :
    base.child name ≠ empty := by
  obtain ⟨tail, child, -⟩ := child_eq_of_ne_empty nonempty name
  simp [child, empty]

/-- A slash at the end has no component. -/
theorem innerComponents_eq_of_slash
    {whole tail : List Name}
    (split : whole = tail ∨ whole = tail ++ [.text ""]) :
    innerComponents tail = innerComponents whole := by
  rcases split with rfl | rfl
  · rfl
  · have noComponent : innerComponents [.text ""] = [] := rfl
    rw [innerComponents_append, noComponent, List.append_nil]

@[simp] theorem child_empty (name : Name) : empty.child name = ⟨name, []⟩ := by
  simp [child, join, isAbsolute]

/-- Different names continue a path differently. -/
theorem child_injective (base : Path) : Function.Injective base.child := by
  intro left right same
  have relative : ∀ name, isAbsolute ⟨name, []⟩ = false := by simp [isAbsolute]
  simp only [child, join, relative, Bool.false_eq_true, if_false] at same
  split at same
  · simpa using same
  · split at same <;> simpa [pieces] using same

/-- The path of an entry ends with the name of the entry. -/
theorem components_child
    (base : Path)
    {name : Name}
    (steps : StepsToEntry name) :
    (base.child name).components = base.components ++ [.name name] := by
  by_cases isEmpty : base = empty
  · subst isEmpty
    rw [child_empty, components_eq_of_ne_empty (by simp [empty, steps.ne_empty])]
    simp only [headComponents, steps.ne_empty, steps.ne_dot, if_false,
      innerComponents_singleton steps]
    rfl
  · obtain ⟨tail, child, split⟩ := child_eq_of_ne_empty isEmpty name
    have same := innerComponents_eq_of_slash split
    rw [child, components_eq_of_ne_empty (by simp [empty]),
      components_eq_of_ne_empty isEmpty]
    simp only [innerComponents_append, same, innerComponents_singleton steps,
      List.append_assoc]

theorem fileName?_child
    (base : Path)
    {name : Name}
    (steps : StepsToEntry name) :
    (base.child name).fileName? = some name := by
  simp [fileName?, components_child base steps, Component.name?]

/-! ## The parent of a path -/

/-- A path is its parent and one more piece with an effect. Pieces without effect may
stand before that piece and after it. -/
inductive IsParent : Path → Path → Prop
  /-- The piece is the first one. -/
  | first
      {head : Name}
      (notRooted : head ≠ "")
      {after : List Name}
      (afterSilent : ∀ piece ∈ after, isSilent piece = true) :
      IsParent ⟨head, after⟩ empty
  /-- The piece follows the root. -/
  | root
      (before : List Name)
      (beforeSilent : ∀ piece ∈ before, isSilent piece = true)
      (last : Name)
      (loud : isSilent last = false)
      (after : List Name)
      (afterSilent : ∀ piece ∈ after, isSilent piece = true) :
      IsParent ⟨"", before ++ last :: after⟩ ⟨"", [""]⟩
  /-- The piece follows another one. -/
  | inner
      {head : Name}
      {front : List Name}
      (nonempty : (⟨head, front⟩ : Path) ≠ empty)
      (ends : ∀ piece ∈ front.getLast?, isSilent piece = false)
      (before : List Name)
      (beforeSilent : ∀ piece ∈ before, isSilent piece = true)
      (last : Name)
      (loud : isSilent last = false)
      (after : List Name)
      (afterSilent : ∀ piece ∈ after, isSilent piece = true) :
      IsParent ⟨head, front ++ (before ++ last :: after)⟩ ⟨head, front⟩

/-- Pieces without effect stand behind what is kept of pieces in reverse. -/
theorem exists_silent_of_reverse (pieces : List Name) :
    ∃ gap, (∀ piece ∈ gap, isSilent piece = true) ∧
      pieces.reverse = (pieces.dropWhile isSilent).reverse ++ gap := by
  refine ⟨(pieces.takeWhile isSilent).reverse, ?_, ?_⟩
  · intro piece inside
    exact List.all_eq_true.mp List.all_takeWhile piece (List.mem_reverse.mp inside)
  · rw [← List.reverse_append, List.takeWhile_append_dropWhile]

theorem isParent_of_parent?
    {path parent : Path}
    (isParent : path.parent? = some parent) :
    IsParent path parent := by
  obtain ⟨head, tail⟩ := path
  obtain ⟨after, afterSilent, isTail⟩ := exists_silent_of_reverse tail.reverse
  rw [List.reverse_reverse] at isTail
  unfold parent? at isParent
  split at isParent
  · rename_i allSilent
    split at isParent
    · cases isParent
    · rename_i notRooted
      obtain rfl := Option.some.inj isParent
      rw [allSilent, List.reverse_nil, List.nil_append] at isTail
      exact .first notRooted (isTail ▸ afterSilent)
  · rename_i last others isSplit
    have loud : isSilent last = false := by
      have notSilent := List.head?_dropWhile_not isSilent tail.reverse
      rw [isSplit] at notSilent
      simpa using notSilent
    obtain ⟨before, beforeSilent, isFront⟩ := exists_silent_of_reverse others
    rw [isSplit, List.reverse_cons, isFront, List.append_assoc, List.append_assoc,
      List.singleton_append] at isTail
    subst isTail
    simp only at isParent
    split at isParent
    · rename_i atRoot
      obtain rfl := Option.some.inj isParent
      rw [atRoot.1, atRoot.2, List.nil_append]
      exact .root before beforeSilent last loud after afterSilent
    · rename_i notAtRoot
      obtain rfl := Option.some.inj isParent
      refine .inner ?_ ?_ before beforeSilent last loud after afterSilent
      · intro isEmpty
        exact notAtRoot (Path.mk.inj isEmpty)
      · intro piece isLast
        have notSilent := List.head?_dropWhile_not isSilent others
        rw [List.getLast?_reverse] at isLast
        rw [Option.mem_def.mp isLast] at notSilent
        simpa using notSilent

theorem Component.ofPiece_ne_root (piece : Name) : ofPiece piece ≠ .root := by
  unfold ofPiece
  split <;> exact Component.noConfusion

/-- Where a path does not start at the root, its first piece has one component. -/
theorem exists_headComponents_eq_singleton
    {head : Name}
    (notRooted : head ≠ "") :
    ∃ first, first ≠ .root ∧ headComponents head = [first] := by
  by_cases here : head = "."
  · exact ⟨.here, Component.noConfusion, by simp [headComponents, here]⟩
  · refine ⟨.ofPiece head, Component.ofPiece_ne_root head, ?_⟩
    simp [headComponents, innerComponents, isSilent, notRooted, here]

/-- Pieces of which one has an effect have its component. -/
theorem innerComponents_of_loud
    {before : List Name}
    (beforeSilent : ∀ piece ∈ before, isSilent piece = true)
    {last : Name}
    (loud : isSilent last = false)
    {after : List Name}
    (afterSilent : ∀ piece ∈ after, isSilent piece = true) :
    innerComponents (before ++ last :: after) = [.ofPiece last] := by
  rw [innerComponents_append, innerComponents_of_isSilent beforeSilent,
    List.nil_append, ← List.singleton_append, innerComponents_append,
    innerComponents_of_isSilent afterSilent, List.append_nil]
  simp [innerComponents, loud]

/-- The parent of a path has its components but for the last one, which is not the
root. -/
theorem IsParent.components_eq
    {path parent : Path}
    (isParent : IsParent path parent) :
    ∃ last, last ≠ .root ∧ path.components = parent.components ++ [last] := by
  cases isParent with
  | first notRooted afterSilent =>
      obtain ⟨first, notRoot, single⟩ :=
        exists_headComponents_eq_singleton notRooted
      refine ⟨first, notRoot, ?_⟩
      rw [components_eq_of_ne_empty, single, innerComponents_of_isSilent afterSilent]
      · rfl
      · exact fun isEmpty => notRooted (congrArg Path.head isEmpty)
  | root before beforeSilent last loud after afterSilent =>
      refine ⟨.ofPiece last, Component.ofPiece_ne_root last, ?_⟩
      rw [components_eq_of_ne_empty (by simp [empty]),
        innerComponents_of_loud beforeSilent loud afterSilent]
      rfl
  | inner nonempty ends before beforeSilent last loud after afterSilent =>
      refine ⟨.ofPiece last, Component.ofPiece_ne_root last, ?_⟩
      rw [components_eq_of_ne_empty (by simp [empty]), innerComponents_append,
        innerComponents_of_loud beforeSilent loud afterSilent, ← List.append_assoc,
        ← components_eq_of_ne_empty nonempty]

/-- The text of a path starts with the one of its parent. -/
theorem IsParent.text_prefix
    {path parent : Path}
    (isParent : IsParent path parent) :
    parent.text.toList <+: path.text.toList := by
  cases isParent with
  | first => exact List.nil_prefix
  | root before _ last _ after =>
      have isCons : ∃ piece tail, before ++ last :: after = piece :: tail :=
        List.exists_cons_of_ne_nil (by simp)
      obtain ⟨piece, tail, isCons⟩ := isCons
      refine ⟨(Text.joined '/' ((piece :: tail).map Name.read)).toList, ?_⟩
      rw [isCons]
      simp [text, pieces, Text.joined, List.intercalate_cons_cons]
  | inner =>
      apply Text.joined_prefix
      exact List.IsPrefix.map _ (List.cons_prefix_cons.mpr ⟨rfl, List.prefix_append _ _⟩)

/-- A parent ends in a piece with an effect, unless it is the root or the empty path. -/
theorem IsParent.isSilent_last
    {path parent : Path}
    (isParent : IsParent path parent)
    (notRoot : parent ≠ ⟨"", [""]⟩) :
    ∀ piece ∈ parent.tail.getLast?, isSilent piece = false := by
  cases isParent with
  | first => simp [empty]
  | root => exact absurd rfl notRoot
  | inner _ ends => exact ends

/-- A path without a parent has no component but the root. -/
theorem parent?_eq_none_iff {path : Path} :
    path.parent? = none ↔ ∀ component ∈ path.components, component = .root := by
  constructor
  · obtain ⟨head, tail⟩ := path
    intro noParent
    unfold parent? at noParent
    split at noParent
    · rename_i allSilent
      split at noParent
      · rename_i rooted
        obtain rfl : head = "" := rooted
        obtain ⟨after, afterSilent, isTail⟩ := exists_silent_of_reverse tail.reverse
        rw [List.reverse_reverse, allSilent, List.reverse_nil, List.nil_append] at isTail
        subst isTail
        have silent := innerComponents_of_isSilent afterSilent
        cases tail with
        | nil => simp [components]
        | cons piece tail => simp [components, silent]
      · cases noParent
    · simp only at noParent
      split at noParent <;> cases noParent
  · intro onlyRoot
    rw [Option.eq_none_iff_forall_ne_some]
    intro parent isParent
    obtain ⟨last, notRoot, split⟩ := (isParent_of_parent? isParent).components_eq
    exact notRoot (onlyRoot last (by simp [split]))

/-- The parent of the path of an entry has the components of the path that the
entry continues. -/
theorem components_parent?_child
    (base : Path)
    {name : Name}
    (steps : StepsToEntry name) :
    ∃ parent, (base.child name).parent? = some parent ∧
      parent.components = base.components := by
  have child := components_child base steps
  cases isParent : (base.child name).parent? with
  | none =>
      have isRoot := parent?_eq_none_iff.mp isParent (.name name) (by simp [child])
      cases isRoot
  | some parent =>
      obtain ⟨last, -, split⟩ := (isParent_of_parent? isParent).components_eq
      refine ⟨parent, rfl, ?_⟩
      exact (List.append_inj' (split.symm.trans child) rfl).1

/-! ## Paths of names -/

/-- Every component of a path is the name of an entry. -/
def StepsDown (path : Path) : Prop :=
  ∀ component ∈ path.components, component.name? ≠ none

instance (path : Path) : Decidable (StepsDown path) :=
  inferInstanceAs (Decidable (∀ _ ∈ _, _))

theorem StepsDown.components_eq
    {path : Path}
    (stepsDown : path.StepsDown) :
    path.components = path.names.map Component.name := by
  unfold StepsDown at stepsDown
  unfold names
  generalize path.components = components at stepsDown
  induction components with
  | nil => rfl
  | cons component components inductionHypothesis =>
      obtain ⟨named, rest⟩ := List.forall_mem_cons.mp stepsDown
      cases component with
      | name text =>
          exact congrArg (Component.name text :: ·) (inductionHypothesis rest)
      | root | here | up => exact absurd rfl named

/-- A path that steps down from the working directory is relative, and its
components are those of its pieces. -/
theorem StepsDown.innerComponents_pieces
    {path : Path}
    (stepsDown : path.StepsDown) :
    path.isAbsolute = false ∧
      innerComponents path.pieces = path.components := by
  obtain ⟨head, tail⟩ := path
  by_cases rooted : head = ""
  · subst rooted
    cases tail with
    | nil => exact ⟨rfl, rfl⟩
    | cons piece pieces =>
        exact absurd rfl (stepsDown .root (by simp [components]))
  · by_cases here : head = "."
    · exact absurd rfl (stepsDown .here (by simp [components, here]))
    · simp [isAbsolute, components, rooted, here]

/-- A path that is continued goes on with the components of the other path. -/
theorem components_join
    (base : Path)
    {relative : Path}
    (stepsDown : relative.StepsDown) :
    (base.join relative).components =
      base.components ++ relative.components := by
  obtain ⟨notAbsolute, sameComponents⟩ := stepsDown.innerComponents_pieces
  by_cases isEmpty : base = empty
  · subst isEmpty
    simp [join, notAbsolute, components, empty]
  · obtain ⟨tail, joined, split⟩ := join_eq_of_ne_empty isEmpty notAbsolute
    have same := innerComponents_eq_of_slash split
    rw [joined, components_eq_of_ne_empty isEmpty,
      components_eq_of_ne_empty (by simp [empty, pieces]),
      innerComponents_append, same, sameComponents, List.append_assoc]

/-- A component with a name has it from a piece that steps to an entry. -/
theorem mem_innerComponents_name
    {pieces : List Name}
    {name : Name}
    (present : .name name ∈ innerComponents pieces) :
    name ∈ pieces ∧ StepsToEntry name := by
  obtain ⟨piece, inside, isName⟩ := List.mem_map.mp present
  rw [List.mem_filter, Bool.not_eq_true'] at inside
  unfold Component.ofPiece at isName
  split at isName
  · cases isName
  · rename_i notUp
    obtain rfl := Component.name.inj isName
    exact ⟨inside.1, inside.2, notUp⟩

/-- The names in a path are pieces of it that step to entries. -/
theorem mem_names
    {path : Path}
    {name : Name}
    (present : name ∈ path.names) :
    name ∈ path.pieces ∧ StepsToEntry name := by
  obtain ⟨component, inside, isName⟩ := List.mem_filterMap.mp present
  obtain rfl : component = .name name := by
    cases component <;> simp_all [Component.name?]
  unfold components at inside
  split at inside
  · split at inside
    · cases inside
    · obtain ⟨inTail, steps⟩ := mem_innerComponents_name
        ((List.mem_cons.mp inside).resolve_left (by simp))
      exact ⟨List.mem_cons_of_mem _ inTail, steps⟩
  · split at inside
    · obtain ⟨inTail, steps⟩ := mem_innerComponents_name
        ((List.mem_cons.mp inside).resolve_left (by simp))
      exact ⟨List.mem_cons_of_mem _ inTail, steps⟩
    · exact mem_innerComponents_name inside

/-- The pieces of a written path are texts. -/
theorem pieces_ofString (text : String) :
    (ofString text).pieces = (Text.parts '/' text).map Name.text := by
  unfold ofString
  split
  · rename_i isEmpty
    exact absurd isEmpty (Text.parts_ne_nil '/' text)
  · rename_i head tail split
    rw [split]
    rfl

/-- The pieces of a written path have no slash. -/
theorem slash_notMem_of_mem_pieces_ofString
    {text : String}
    {piece : Name}
    (present : piece ∈ (ofString text).pieces) :
    '/' ∉ piece.read.toList := by
  rw [pieces_ofString] at present
  obtain ⟨part, inParts, rfl⟩ := List.mem_map.mp present
  exact Text.notMem_of_mem_parts inParts

theorem isEntryName_of_mem_names_ofString
    {text : String}
    {name : Name}
    (present : name ∈ (ofString text).names) :
    IsEntryName name := by
  obtain ⟨inPieces, steps⟩ := mem_names present
  exact ⟨steps, slash_notMem_of_mem_pieces_ofString inPieces⟩

/-- A name of an entry can name one as it is read, too. -/
theorem IsEntryName.read
    {name : Name}
    (isName : IsEntryName name) :
    IsEntryName name.read := by
  obtain ⟨steps, unslashed⟩ := isName
  obtain ⟨nonempty, notHere, notUp⟩ := stepsToEntry_iff.mp steps
  have differs : ∀ other : String, Text.replacement ∉ other.toList →
      name ≠ other → Name.text name.read ≠ other := by
    intro other unbroken different same
    exact different ((Name.read_eq_iff unbroken).mp (Name.text.inj same))
  refine ⟨stepsToEntry_iff.mpr ⟨?_, ?_, ?_⟩, unslashed⟩
  · exact differs "" (by decide) nonempty
  · exact differs "." (by decide) notHere
  · exact differs ".." (by decide) notUp

/-- The names in a written path are texts. -/
theorem isText_of_mem_names_ofString
    {text : String}
    {name : Name}
    (present : name ∈ (ofString text).names) :
    name.IsText := by
  obtain ⟨inPieces, -⟩ := mem_names present
  rw [pieces_ofString] at inPieces
  obtain ⟨part, -, rfl⟩ := List.mem_map.mp inPieces
  rfl

end Path
end EnvTags
