import Stencil.Proofs.Document.Skeleton
import Stencil.Proofs.Extraction.Refinement

/-!
# What an extraction sees of a document

An extraction reads the text of an element without its annotations and otherwise asks for addresses,
tags and siblings only. So its value at an element is told by the element's skeleton, with that text
as what is read (`extraction_sees_skeleton`). The stack of frames is replaced by the recursion that
it computes, and corresponding elements are then compared field by field (`fieldValue_corresponds`)
and item by item (`itemsValue_corresponds`).
-/

namespace Stencil.Extraction

open Document (Corresponds SameSkeleton)

/-- What is read of the child nodes of an element: their text without annotations, trimmed if so
set. -/
def reading (s : ExtractionSettings) (children : List Node) : String :=
  let cleaned := removeAnnotations (String.join (children.filterMap Node.text?)).toList
  String.ofList (if s.trimValues then Text.trim cleaned else cleaned)

theorem textValue_eq_reading (s : ExtractionSettings) (d : Document) (p : Path) :
    textValue s d p = reading s (d.childrenAt p) := rfl

section
variable {s : ExtractionSettings} {d d' : Document} {top top' : Path}
  (h : SameSkeleton (reading s) d d' top top')
include h

theorem textValue_corresponds {p p' : Path} (hp : Corresponds d d' top top' p p') :
    textValue s d p = textValue s d' p' := by
  rw [textValue_eq_reading, textValue_eq_reading, h.read_eq hp]

theorem rel_nextRepetition? {p p' : Path} (hp : Corresponds d d' top top' p p')
    (itemTag : Option String) :
    Option.Rel (Corresponds d d' top top') (nextRepetition? s d p itemTag)
      (nextRepetition? s d' p' itemTag) := by
  have hnext := h.rel_nextSibling? hp
  rw [nextRepetition?, nextRepetition?]
  generalize d.nextSibling? p = x at hnext ⊢
  generalize d'.nextSibling? p' = x' at hnext ⊢
  cases hnext with
  | none => exact .none
  | some hq =>
    dsimp only
    rw [h.tag?_eq hq]
    split
    · exact .none
    · exact .some hq

/-- Lists that begin at corresponding elements have the same items, if their fields have the same
values at all corresponding elements. -/
theorem itemsValue_corresponds {fields fields' : Path → Except StructuralError Fields}
    (hfields : ∀ p p', Corresponds d d' top top' p p' → fields p = fields' p')
    (itemTag : Option String) (more : Nat) {p p' : Path} (hp : Corresponds d d' top top' p p') :
    itemsValue s d fields itemTag more p = itemsValue s d' fields' itemTag more p' := by
  induction more generalizing p p' with
  | zero => rw [itemsValue, itemsValue, hfields p p' hp]
  | succ more ih =>
    have hnext := rel_nextRepetition? h hp itemTag
    rw [itemsValue, itemsValue, hfields p p' hp]
    cases fields' p' with
    | error e => rfl
    | ok ms =>
      dsimp only
      generalize nextRepetition? s d p itemTag = x at hnext ⊢
      generalize nextRepetition? s d' p' itemTag = x' at hnext ⊢
      cases hnext with
      | none => rfl
      | some hq => dsimp only; rw [ih hq]

end

section
variable {s : ExtractionSettings} {d d' : Document} {top top' : Path}

mutual

/-- A field has the same value at corresponding elements. -/
theorem fieldValue_corresponds (h : SameSkeleton (reading s) d d' top top') :
    ∀ (t : Token) (before : Fields) {p p' : Path},
    Corresponds d d' top top' p p' → fieldValue s d t before p = fieldValue s d' t before p'
  | ⟨kind, name, _, _, children, address⟩, before, p, p', hp => by
    have hnode := h.inStep.rel_resolve? hp (address.getD .empty)
    rw [fieldValue, fieldValue]
    generalize d.resolve? p (address.getD .empty) = x at hnode ⊢
    generalize d'.resolve? p' (address.getD .empty) = x' at hnode ⊢
    cases hnode with
    | none => rfl
    | @some q q' hq =>
      cases kind with
      | value => dsimp only; rw [textValue_corresponds h hq]
      | objectStart => dsimp only; rw [fieldsValue_corresponds h children [] hq]
      | listStart =>
        have hitems := itemsValue_corresponds h
          (fun _ _ hp => fieldsValue_corresponds h children [] hp) (d'.tag? q')
          (s.maxListItems - 1) hq
        dsimp only
        rw [h.tag?_eq hq, hitems]
      | root | objectEnd | listEnd => rfl

/-- Fields have the same values at corresponding elements. -/
theorem fieldsValue_corresponds (h : SameSkeleton (reading s) d d' top top') :
    ∀ (ts : List Token) (before : Fields) {p p' : Path},
    Corresponds d d' top top' p p' → fieldsValue s d ts before p = fieldsValue s d' ts before p'
  | [], _, _, _, _ => by rw [fieldsValue, fieldsValue]
  | t :: ts, before, p, p', hp => by
    rw [fieldsValue, fieldsValue, fieldValue_corresponds h t before hp]
    cases fieldValue s d' t before p' with
    | error e => rfl
    | ok before => exact fieldsValue_corresponds h ts before hp

end

/-- So the values of a blueprint are the same at top elements with the same skeleton. -/
theorem value_of_sameSkeleton (b : Blueprint) (h : SameSkeleton (reading s) d d' top top') :
    value s b d = value s b d' := by
  rw [value, value, h.root, h.root']
  dsimp only
  rw [fieldsValue_corresponds h b.root.children [] .top]

end

/-- **An extraction sees the skeleton of a document only.** Let the top elements of two documents be
no markers and let them have one skeleton: the trees of their logical descendants have the same
shape and the same tags, and elements that correspond have the same text once annotations are
removed from it (and blanks around it, if so set). Then every blueprint gives the same value or the
same error in both. -/
theorem extraction_sees_skeleton {s : ExtractionSettings} {d d' : Document} {top top' : Path}
    (b : Blueprint) (h : SameSkeleton (reading s) d d' top top') :
    extractFrom s b d = extractFrom s b d' := by
  rw [extractFrom_eq_value, extractFrom_eq_value, value_of_sameSkeleton b h]

/-- A document with comments, markers, blanks and annotations, and one with none of them. -/
theorem extraction_sees_skeleton_annotated :
    let d : Document := ⟨[.comment "a", .element "ul" none [.text " ",
      .element "list-start" (some "1") [.element "li" none [.text " \x7b$x", .comment "b",
        .text "\x7dT"], .text "\n"], .comment "c", .element "li" none [.text "U "]]]⟩
    let d' : Document := ⟨[.element "ul" none [.element "li" none [.text "T"],
      .element "li" none [.text "U"]]]⟩
    let b : Blueprint := ⟨"page", ⟨.root, none, none, none,
      [⟨.listStart, some "rows", none, none, [⟨.value, some "x", none, none, [], none⟩],
        some ⟨[⟨"li", some (.at 0)⟩]⟩⟩], none⟩⟩
    let s : ExtractionSettings := {}
    SameSkeleton (reading s) d d' [1] [0] ∧ extractFrom s b d = extractFrom s b d' ∧
      extractFrom s b d' = .ok (.object [("rows", .array
        [.object [("x", .string "T")], .object [("x", .string "U")]])]) := by
  intro d d' b s
  have hsame : SameSkeleton (reading s) d d' [1] [0] := by
    have hskeleton : d.skeletonAt (reading s) [1] = d'.skeletonAt (reading s) [0] := by
      decide +kernel
    exact ⟨by decide, by decide, ⟨_, _, rfl⟩, ⟨_, _, rfl⟩, hskeleton⟩
  have hvalue : value s b d' = .ok (.object [("rows", .array
      [.object [("x", .string "T")], .object [("x", .string "U")]])]) := by
    decide +kernel
  exact ⟨hsame, extraction_sees_skeleton b hsame, (extractFrom_eq_value s b d').trans hvalue⟩

end Stencil.Extraction
