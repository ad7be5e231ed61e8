import Mathlib.Logic.Relation
import Stencil.Proofs.Document.Inversion

/-!
# Descendants and addresses

Going on from an element to logical children, any number of times, leads to the elements at or below
it (`AtOrBelow`). Whether an element is there can be read off addresses: under a top element that is
no marker, it is so exactly when the one address begins with the other
(`isSome_stripPrefix?_addressOf_iff`). In the one direction every logical child adds a step to the
address. In the other one, an address that goes on from another's leads from that one's element to
the child's, and every step that can be taken goes to a logical child.
-/

namespace Stencil.Document

/-- The second element is the first one or one of its logical descendants. -/
def AtOrBelow (d : Document) : Path → Path → Prop :=
  Relation.ReflTransGen fun p q => q ∈ d.logicalChildren p

section
variable {d : Document} {p q top : Path}

/-- Steps lead to elements at or below where they begin. -/
theorem atOrBelow_of_resolveSteps? {steps : List Step} (h : d.resolveSteps? p steps = some q) :
    d.AtOrBelow p q := by
  induction steps generalizing p with
  | nil =>
    cases h
    exact .refl
  | cons s steps ih =>
    rw [resolveSteps?] at h
    split at h
    · next r hr => exact .head (mem_logicalChildren_of_resolveStep? hr) (ih h)
    · cases h

/-- Below a plain element, addresses go on from its own. -/
theorem exists_stepsTo_of_atOrBelow (hp : d.IsPlainAt p) (h : d.AtOrBelow p q) :
    d.IsPlainAt q ∧ ∃ steps, d.stepsTo q = d.stepsTo p ++ steps := by
  induction h with
  | refl => exact ⟨hp, [], (List.append_nil _).symm⟩
  | @tail r q _ hchild ih =>
    obtain ⟨hplain, steps, hsteps⟩ := ih
    refine ⟨isPlainAt_of_mem_logicalChildren hchild, steps ++ [d.stepTo r q], ?_⟩
    rw [stepsTo_of_mem_logicalChildren hplain hchild, hsteps, List.append_assoc]

/-- **Being below shows in addresses.** An element is at or below another one exactly when its
address begins with the other's. -/
theorem isSome_stripPrefix?_addressOf_iff (hroot : d.root? = some top) (htop : d.IsPlainAt top)
    (hp : d.IsPlainAt p) (hptop : top <:+ p) (hq : d.IsPlainAt q) (hqtop : top <:+ q) :
    ((d.addressOf q).stripPrefix? (d.addressOf p)).isSome = true ↔ d.AtOrBelow p q := by
  rw [Option.isSome_iff_exists]
  constructor
  · rintro ⟨r, hr⟩
    have hleads := resolve?_addressOf hroot htop hq hqtop
    rw [Address.stripPrefix?_eq_some_iff.1 hr, resolve?_append,
      resolve?_addressOf hroot htop hp hptop] at hleads
    exact atOrBelow_of_resolveSteps? hleads
  · intro h
    obtain ⟨_, steps, hsteps⟩ := exists_stepsTo_of_atOrBelow hp h
    exact ⟨⟨steps⟩, Address.stripPrefix?_eq_some_iff.2 (congrArg Address.mk hsteps)⟩

end

end Stencil.Document
