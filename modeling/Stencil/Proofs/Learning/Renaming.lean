import Stencil.Learning
import Stencil.Proofs.Blueprint.Codec
import Stencil.Proofs.Document.Relabeling
import Stencil.Proofs.Token.Places
import Stencil.Proofs.Token.Renaming

/-!
# Learning and identifiers

Learning compares identifiers with the texts of marker attributes and does nothing else with them.
So if the identifiers of the tokens are renamed and the marker attributes follow, then every step of
learning goes on as before: the pairing of containers (`Pairing.check_renameIds`), the search for
anchors (`locate_renameIds`) and the nesting (`run_renameIds`). `learn_relabel` puts this together:
the result is the renamed one, and an error is the same. A document can have its identifiers renamed
in the marker attributes that print one (`Document.renameIds`), and these follow every injective
renaming (`follows_renameText`).
-/

namespace Stencil

/-! ## Documents with renamed identifiers -/

namespace MarkerId

/-- The text with its identifier renamed, if it is one in print. -/
def renameText (f : MarkerId → MarkerId) (s : String) : String :=
  match parse? s with
  | some id => if id.toText = s then (f id).toText else s
  | none => s

theorem renameText_toText (f : MarkerId → MarkerId) (id : MarkerId) :
    renameText f id.toText = (f id).toText := by
  rw [renameText, parse?_toText]
  exact if_pos rfl

/-- Texts that are no identifier in print stay as they are. -/
theorem renameText_of_ne (f : MarkerId → MarkerId) {s : String} (h : ∀ id : MarkerId, id.toText ≠ s) :
    renameText f s = s := by
  rw [renameText]
  split
  · next id _ => exact if_neg (h id)
  · rfl

end MarkerId

open MarkerId (renameText renameText_toText renameText_of_ne toText_inj)

/-- The document with the identifiers in its marker attributes renamed. -/
def Document.renameIds (f : MarkerId → MarkerId) (d : Document) : Document :=
  d.relabel (renameText f) id

/-- Texts that have their identifiers renamed follow the renaming. -/
theorem Document.follows_renameText {f : MarkerId → MarkerId} (hf : Function.Injective f) :
    Follows (renameText f) f := by
  intro id m
  constructor
  · intro h
    by_cases hprinted : ∃ other : MarkerId, other.toText = m
    · obtain ⟨other, rfl⟩ := hprinted
      rw [renameText_toText, toText_inj] at h
      rw [hf h]
    · rw [renameText_of_ne f fun other hother => hprinted ⟨other, hother⟩] at h
      exact absurd ⟨f id, h.symm⟩ hprinted
  · rintro rfl
    exact renameText_toText f id

/-! ## Pairing -/

namespace Pairing

variable (f : MarkerId → MarkerId)

theorem offset_renameIds (t : Token) : offset (t.renameIds f) = offset t := by
  rw [offset, offset, Token.span_renameIds]

theorem step_renameIds (opened : List Token) (t : Token) :
    step (opened.map (Token.renameIds f)) (t.renameIds f) =
      (step opened t).map (List.map (Token.renameIds f)) := by
  simp only [step, Token.kind_renameIds, offset_renameIds]
  split
  · rfl
  · split
    · cases opened with
      | nil => rfl
      | cons o rest =>
        simp only [List.map_cons, Token.kind_renameIds, Token.label_renameIds]
        split <;> rfl
    · rfl

theorem run_renameIds (tokens : List Token) : ∀ opened : List Token,
    run (opened.map (Token.renameIds f)) (tokens.map (Token.renameIds f)) =
      (run opened tokens).map (List.map (Token.renameIds f)) := by
  induction tokens with
  | nil => exact fun _ => rfl
  | cons t rest ih =>
    intro opened
    rw [List.map_cons, run, run, step_renameIds]
    cases step opened t with
    | error e => rfl
    | ok opened' => exact ih opened'

/-- Whether containers pair, and what is wrong if they do not, is told by kinds, names and places. -/
theorem check_renameIds (tokens : List Token) :
    check (tokens.map (Token.renameIds f)) = check tokens := by
  have hrun := run_renameIds f tokens []
  rw [List.map_nil] at hrun
  rw [check, check, hrun]
  cases run [] tokens with
  | error e => rfl
  | ok opened =>
    cases opened with
    | nil => rfl
    | cons o rest =>
      simp only [Except.map, List.map_cons, offset_renameIds, Token.kind_renameIds,
        Token.label_renameIds]

end Pairing

/-! ## Nesting -/

namespace Learning

section
variable {f : MarkerId → MarkerId} {mark : String → String}

theorem anchor_renameIds (h : Document.Follows mark f) (text : String → String) (d : Document)
    (t : Token) : anchor (d.relabel mark text) (t.renameIds f) = anchor d t := by
  have hmarker : ((t.renameIds f).markerId.bind (d.relabel mark text).findMarker?) =
      t.markerId.bind d.findMarker? := by
    rw [Token.markerId_renameIds]
    cases t.markerId with
    | none => rfl
    | some id => exact Document.findMarker?_relabel h text d id
  rw [anchor, anchor, hmarker]
  simp only [Token.label_renameIds, Token.kind_renameIds, Document.firstChild?_relabel,
    Document.logicalParent?_relabel, Document.root?_relabel]

/-- A token is located where it was. -/
theorem locate_renameIds (h : Document.Follows mark f) (text : String → String) (d : Document)
    (t : Token) : locate (d.relabel mark text) (t.renameIds f) = locate d t := by
  rw [locate, locate, anchor_renameIds h]
  exact congrArg (Except.map · (anchor d t))
    (funext fun p => Document.addressOf_relabel mark text d p)

variable (f)

/-- The container with the identifiers of its token renamed. -/
def Opened.renameIds (o : Opened) : Opened := ⟨o.token.renameIds f, o.anchor⟩

theorem Opened.renameIds_add (o : Opened) (t : Token) :
    (o.add t).renameIds f = (o.renameIds f).add (t.renameIds f) := by
  simp only [add, renameIds, Token.renameIds_eq, List.map_append, List.map_cons, List.map_nil]

namespace Nest

/-- The nest with the identifiers of its tokens renamed. -/
def renameIds (n : Nest) : Nest := ⟨n.root.renameIds f, n.opened.map (Opened.renameIds f)⟩

theorem renameIds_innermost (n : Nest) :
    (n.renameIds f).innermost = n.innermost.renameIds f := by
  rw [innermost, innermost, renameIds, List.head?_map]
  cases n.opened.head? <;> rfl

theorem renameIds_add (n : Nest) (t : Token) :
    (n.add t).renameIds f = (n.renameIds f).add (t.renameIds f) := by
  obtain ⟨root, opened⟩ := n
  cases opened with
  | nil => exact congrArg (Nest.mk · []) (root.renameIds_add f t)
  | cons o rest =>
    exact congrArg (fun x => Nest.mk (root.renameIds f) (x :: rest.map (Opened.renameIds f)))
      (o.renameIds_add f t)

theorem renameIds_close (n : Nest) : n.close.renameIds f = (n.renameIds f).close := by
  obtain ⟨root, opened⟩ := n
  cases opened with
  | nil => rfl
  | cons o rest => exact renameIds_add f ⟨root, rest⟩ o.token

end Nest

variable {f}

/-- One token is taken up as before. -/
theorem step_renameIds (h : Document.Follows mark f) (text : String → String) (d : Document)
    (n : Nest) (t : Token) :
    step (d.relabel mark text) (n.renameIds f) (t.renameIds f) =
      (step d n t).map (Nest.renameIds f) := by
  rw [step, step, locate_renameIds h, Token.kind_renameIds, Token.label_renameIds,
    Nest.renameIds_innermost]
  split
  · exact congrArg Except.ok (n.renameIds_close f).symm
  · cases locate d t with
    | error e => rfl
    | ok absolute =>
      have hanchor : (n.innermost.renameIds f).anchor = n.innermost.anchor := rfl
      have htoken : (n.innermost.renameIds f).token.label = n.innermost.token.label :=
        Token.label_renameIds f _
      dsimp only
      rw [hanchor, htoken]
      cases absolute.stripPrefix? n.innermost.anchor with
      | none => rfl
      | some relative =>
        have haddress : Token.renameIds f { t with address := some relative } =
            ⟨t.kind, t.name, t.span, t.markerId.map f, t.children.map (Token.renameIds f),
              some relative⟩ := Token.renameIds_eq f _
        simp only [Token.name_renameIds, Token.span_renameIds, Token.markerId_renameIds,
          Token.children_renameIds]
        rw [← haddress]
        split
        · rfl
        · exact congrArg Except.ok (n.renameIds_add f _).symm

/-- All tokens are taken up as before. -/
theorem run_renameIds (h : Document.Follows mark f) (text : String → String) (d : Document)
    (tokens : List Token) : ∀ n : Nest,
    run (d.relabel mark text) (n.renameIds f) (tokens.map (Token.renameIds f)) =
      (run d n tokens).map (Nest.renameIds f) := by
  induction tokens with
  | nil => exact fun _ => rfl
  | cons t rest ih =>
    intro n
    rw [List.map_cons, run, run, step_renameIds h]
    cases step d n t with
    | error e => rfl
    | ok n' => exact ih n'

/-- Learning from tokens with other identifiers and from a document whose marker attributes follow
the renaming: the renamed blueprint, or the same error. All other texts of the document may be
others. -/
theorem learn_relabel (h : Document.Follows mark f) (text : String → String)
    (fresh fresh' : MarkerId) (name : String) {tokens : List Token}
    (hl : Token.IsListing tokens) (d : Document) :
    learn fresh' name (tokens.map (Token.renameIds f)) (d.relabel mark text) =
      (learn fresh name tokens d).map (Blueprint.renameIds f) := by
  obtain ⟨root, rest, rfl, hroot, _⟩ := hl.leads
  rw [learn, learn, Pairing.check_renameIds]
  cases Pairing.check (root :: rest) with
  | error e => rfl
  | ok u =>
    have hsplit : splitRoot fresh (root :: rest) = (root, rest) := if_pos hroot
    have hsplit' : splitRoot fresh' ((root :: rest).map (Token.renameIds f)) =
        (root.renameIds f, rest.map (Token.renameIds f)) :=
      if_pos ((Token.kind_renameIds f root).trans hroot)
    have hrun := run_renameIds h text d rest ⟨⟨root, .empty⟩, []⟩
    have hnest : (⟨⟨root.renameIds f, .empty⟩, []⟩ : Nest) =
        Nest.renameIds f ⟨⟨root, .empty⟩, []⟩ := rfl
    rw [hsplit, hsplit']
    dsimp only
    rw [hnest, hrun]
    cases run d ⟨⟨root, .empty⟩, []⟩ rest with
    | error e => rfl
    | ok n => rfl

/-- **Learning does not depend on identifiers.** Let the identifiers of a sample's tokens and those
in the marker attributes of a document be renamed by an injective renaming. Then learning fails as
before, or it succeeds as before and gives the same blueprint with its identifiers renamed, which
has the same shape. -/
theorem learning_ignores_identifiers (hf : Function.Injective f) (fresh fresh' : MarkerId)
    (name : String) {tokens : List Token} (hl : Token.IsListing tokens) (d : Document) :
    (∀ e, learn fresh name tokens d = .error e →
      learn fresh' name (tokens.map (Token.renameIds f)) (d.renameIds f) = .error e) ∧
    (∀ b, learn fresh name tokens d = .ok b →
      learn fresh' name (tokens.map (Token.renameIds f)) (d.renameIds f) = .ok (b.renameIds f) ∧
        b.sameShape (b.renameIds f) = true) := by
  have hlearn := learn_relabel (Document.follows_renameText hf) id fresh fresh' name hl d
  rw [Document.renameIds, hlearn]
  constructor
  · intro e he
    rw [he]
    rfl
  · intro b hb
    rw [hb]
    exact ⟨rfl, b.sameShape_renameIds f⟩

end

end Learning

end Stencil
