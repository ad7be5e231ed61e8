import Stencil.Proofs.Document.Search
import Stencil.Proofs.Extraction.Single
import Stencil.Proofs.Learning.Nest

/-!
# A sample's own tree

Learning computes the addresses of anchors upwards through the marked document and cuts them at the
containers; extraction follows what is left of them downwards. On the document that was learned
from the two agree: `extraction_meets_anchors` says that an extraction resolves every field to the
element its marker points at. The proof puts together what learning builds (`placesAll_of_learn`),
the inversion of addresses (`Document.resolve?_addressOf`) and the walk of an extraction along the
places of a tree (`Extraction.passes_blueprint`).
-/

namespace Stencil.Learning

open Extraction (turn visits)
open Token (IsListing)

/-- The element that the marker of a token points at: the first logical child of a container's
marker, the logical parent of a value's marker. -/
def IsAnchor (d : Document) (t : Token) (q : Path) : Prop :=
  ∃ id marker, t.markerId = some id ∧ d.findMarker? id = some marker ∧
    if t.kind.isContainer then d.firstChild? marker = some q else d.logicalParent? marker = some q

/-! ## Lists side by side -/

/-- Two lists that both go along a third one go along each other. -/
theorem forall₂_of_common {α β γ : Type} {R : α → γ → Prop} {S : β → γ → Prop}
    {T : α → β → Prop} (hT : ∀ a b c, R a c → S b c → T a b) {xs : List α} {ys : List β}
    {zs : List γ} (hR : List.Forall₂ R xs zs) (hS : List.Forall₂ S ys zs) :
    List.Forall₂ T xs ys := by
  induction hR generalizing ys with
  | nil =>
    cases hS
    exact .nil
  | cons hr _ ih =>
    cases hS with
    | cons hs hrest => exact .cons (hT _ _ _ hr hs) (ih hrest)

/-! ## Anchors -/

section
variable {d : Document} {top : Path}

/-- Under a top element that is no marker, a token is anchored where its marker points, and that is
a plain element at or below the top. -/
theorem isAnchor_of_anchor (htop : d.IsPlainAt top)
    (hbelow : ∀ p tag m children, d.node? p = some (.element tag m children) → top <:+ p)
    {t : Token} {q : Path} (h : anchor d t = .ok q) :
    IsAnchor d t q ∧ d.IsPlainAt q ∧ top <:+ q := by
  rw [anchor] at h
  cases hid : t.markerId with
  | none => rw [hid] at h; cases h
  | some id =>
    rw [hid, Option.bind_some] at h
    cases hm : d.findMarker? id with
    | none => rw [hm] at h; cases h
    | some marker =>
      obtain ⟨tag, children, hn⟩ := Document.node?_of_findMarker? hm
      have hsuffix := hbelow _ _ _ _ hn
      rw [hm] at h
      dsimp only at h
      split at h
      · next hcontainer =>
        cases hf : d.firstChild? marker with
        | none => rw [hf] at h; cases h
        | some p =>
          rw [hf] at h
          cases h
          obtain ⟨i, hs⟩ := Document.mem_logicalChildren_iff_stands.1 (List.mem_of_head? hf)
          refine ⟨⟨id, marker, hid, hm, by rw [if_pos hcontainer, hf]⟩, hs.isPlainAt, ?_⟩
          exact hsuffix.trans ((List.suffix_cons i marker).trans hs.suffix)
      · next hcontainer =>
        obtain ⟨p, hp, hsub⟩ := Document.exists_logicalParent?_of_marker htop hn hsuffix
        rw [hp] at h
        cases h
        exact ⟨⟨id, marker, hid, hm, by rw [if_neg hcontainer, hp]⟩,
          Document.isPlainAt_of_logicalParent? hp, hsub⟩

/-- Where a token is located is the address of its anchor, and the address leads there. -/
theorem isAnchor_of_locate (hroot : d.root? = some top) (htop : d.IsPlainAt top)
    (hbelow : ∀ p tag m children, d.node? p = some (.element tag m children) → top <:+ p)
    {t : Token} {a : Address} (h : locate d t = .ok a) :
    ∃ q, IsAnchor d t q ∧ a = d.addressOf q ∧ d.resolve? top a = some q := by
  rw [locate] at h
  cases ha : anchor d t with
  | error e => rw [ha] at h; cases h
  | ok q =>
    rw [ha] at h
    cases h
    obtain ⟨hq, hplain, hsuffix⟩ := isAnchor_of_anchor htop hbelow ha
    exact ⟨q, hq, rfl, Document.resolve?_addressOf hroot htop hplain hsuffix⟩

end

/-- **Learning and extraction agree on the sample's own tree.** Let a document have one element at
its top, which is no marker, and let learning from it succeed. Then an extraction of one item a list
from the same document succeeds with the learned blueprint, also when missing fields are errors.
The fields that its loop resolves are the tokens of the sample that end no container, in their
order, and each is resolved to the element its marker points at. The relative addresses down to a
field, one after the other, are the address of that element. -/
theorem extraction_meets_anchors {d : Document} {fresh : MarkerId} {name : String}
    {tokens : List Token} {b : Blueprint} {s : ExtractionSettings} (htop : d.HasPlainTop)
    (hl : IsListing tokens) (hb : learn fresh name tokens d = .ok b) (hcap : s.maxListItems = 1) :
    ∃ top v n, d.root? = some top ∧ Extraction.extractFrom s b d = .ok v ∧
      (turn s d)^[n] (.active [.ofObject b.root top]) = .ended (.ok v) ∧
      List.Forall₂
        (fun t visit => (∃ r, visit.1.bare = { t with address := some r }) ∧ IsAnchor d t visit.2)
        (fieldTokens tokens.tail) (visits s d n (.active [.ofObject b.root top])) ∧
      List.Forall₂
        (fun t place => (∃ r, place.1 = { t with address := some r }) ∧
          ∃ q, IsAnchor d t q ∧ place.2 = d.addressOf q)
        (fieldTokens tokens.tail) (Token.placesAll .empty b.root.children) := by
  obtain ⟨top, hroot, hplain, hbelow⟩ := htop.exists_root?
  obtain ⟨hsettles, hfields, _⟩ := placesAll_of_learn hl hb
  have hlocated : ∀ {t x}, Settles d t x →
      ∃ q, IsAnchor d t q ∧ x.2 = d.addressOf q ∧ d.resolve? top x.2 = some q :=
    fun h => isAnchor_of_locate hroot hplain hbelow h.2
  have hall : ∀ x ∈ Token.placesAll .empty b.root.children,
      (d.resolve? top x.2).isSome = true := by
    intro x hx
    obtain ⟨t, _, ht⟩ := exists_of_mem_forall₂ hsettles hx
    obtain ⟨q, _, _, hq⟩ := hlocated ht
    rw [hq]
    rfl
  obtain ⟨v, log, hpass, hlog⟩ :=
    Extraction.passes_blueprint (le_of_eq hcap) hfields hall
  have hvalue := Extraction.extractFrom_of_passes hroot hpass
  obtain ⟨n, hend, rfl⟩ := hpass
  refine ⟨top, v, n, hroot, hvalue, hend, ?_, ?_⟩
  · -- What was resolved and what was learned are matched through the places of the tree.
    refine forall₂_of_common (fun t visit place hs hm => ?_) hsettles hlog
    obtain ⟨q, hq, _, hresolve⟩ := hlocated hs
    obtain ⟨r, hr⟩ := hs.1
    have hvisit : q = visit.2 := Option.some.inj (hresolve.symm.trans hm.2)
    exact ⟨⟨r, hm.1.trans hr⟩, hvisit ▸ hq⟩
  · refine hsettles.imp fun t x h => ⟨h.1, ?_⟩
    obtain ⟨q, hq, haddress, _⟩ := hlocated h
    exact ⟨q, hq, haddress⟩

section
open Token (leaf)

/-- A list of one field inside an object, with its markers in a document. -/
theorem extraction_meets_anchors_nested :
    let id (n : Nat) := MarkerId.ofNat n
    let tokens := [Token.root (id 0), leaf .objectStart (some "card") none (some (id 1)),
      leaf .listStart (some "rows") none (some (id 2)), leaf .value (some "x") none (some (id 3)),
      leaf .listEnd none none none, leaf .objectEnd none none none]
    let d : Document := ⟨[.doctype "html", .element "html" none
      [.element "object-start" (some (id 1).toText)
        [.element "ul" none [.element "li" none [], .element "list-start" (some (id 2).toText)
          [.element "li" none [.element "value" (some (id 3).toText) [], .text "T"]]]]]]⟩
    let s : ExtractionSettings := { maxListItems := 1 }
    d.HasPlainTop ∧ IsListing tokens ∧ s.maxListItems = 1 ∧
      ∃ b, learn (id 9) "page" tokens d = .ok b ∧
        ∃ top v n, d.root? = some top ∧ Extraction.extractFrom s b d = .ok v ∧
          (turn s d)^[n] (.active [.ofObject b.root top]) = .ended (.ok v) := by
  intro id tokens d s
  have htop : d.HasPlainTop := by
    refine ⟨1, "html", _, rfl, fun j n hn he => ?_⟩
    match j with
    | 0 => cases hn; cases he
    | 1 => rfl
    | j + 2 => cases hn
  have hl : IsListing tokens := ⟨⟨_, _, rfl, rfl, by decide⟩, by decide, by decide⟩
  have hok : (learn (id 9) "page" tokens d).toOption.isSome = true := by decide +kernel
  obtain ⟨b, hb⟩ : ∃ b, learn (id 9) "page" tokens d = .ok b := by
    cases h : learn (id 9) "page" tokens d with
    | error e => rw [h] at hok; cases hok
    | ok b => exact ⟨b, rfl⟩
  obtain ⟨top, v, n, hroot, hv, hend, _⟩ := extraction_meets_anchors (s := s) htop hl hb rfl
  exact ⟨htop, hl, rfl, b, hb, top, v, n, hroot, hv, hend⟩

end

end Stencil.Learning
