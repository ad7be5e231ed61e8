import Stencil.Proofs.Report.Visits
import Stencil.Proofs.Text.Digits

/-!
# Paths without their indexes

The path of a leaf has an index in brackets for every list on the way down, and the path of a row has
empty brackets there. `withoutIndexes` takes the indexes out of a text, wherever digits stand alone
in brackets. It goes through a path part by part, because neither a dot nor a bracket can continue
an index that the text before it has begun (`withoutIndexes_append`).
-/

namespace Stencil

/-- Whether what follows an opening bracket is an index: digits and then the closing bracket. -/
def StartsIndex (s : List Char) : Prop :=
  s.takeWhile Char.isDigit ≠ [] ∧ (s.dropWhile Char.isDigit).head? = some ']'

instance (s : List Char) : Decidable (StartsIndex s) := inferInstanceAs (Decidable (_ ∧ _))

/-- A text in which every index in brackets is left out: `[12]` becomes `[]`. -/
def withoutIndexes : List Char → List Char
  | [] => []
  | c :: r =>
    if c = '[' ∧ StartsIndex r then '[' :: withoutIndexes (r.dropWhile Char.isDigit)
    else c :: withoutIndexes r
termination_by s => s.length
decreasing_by
  · have := (List.dropWhile_sublist Char.isDigit (l := r)).length_le
    simp only [List.length_cons]
    omega
  · simp

theorem withoutIndexes_cons_of_ne {c : Char} (h : c ≠ '[') (r : List Char) :
    withoutIndexes (c :: r) = c :: withoutIndexes r := by
  rw [withoutIndexes, if_neg fun hc => h hc.1]

theorem withoutIndexes_eq_self {s : List Char} (h : '[' ∉ s) : withoutIndexes s = s := by
  induction s with
  | nil => rw [withoutIndexes]
  | cons c r ih =>
    rw [List.mem_cons, not_or] at h
    rw [withoutIndexes_cons_of_ne (Ne.symm h.1), ih h.2]

/-- A character that is no digit and no closing bracket stops digits, and no index starts in front
of it that does not end there. -/
theorem startsIndex_append {c : Char} (hdigit : c.isDigit = false) (hclose : c ≠ ']')
    (s r : List Char) :
    (StartsIndex (s ++ c :: r) ↔ StartsIndex s) ∧
      (s ++ c :: r).dropWhile Char.isDigit = s.dropWhile Char.isDigit ++ c :: r := by
  have hstop : (c :: r).dropWhile Char.isDigit = c :: r :=
    List.dropWhile_cons_of_neg (by rw [hdigit]; exact Bool.false_ne_true)
  have hdrop : (s ++ c :: r).dropWhile Char.isDigit = s.dropWhile Char.isDigit ++ c :: r := by
    rw [List.dropWhile_append, hstop]
    split
    · next h => rw [List.isEmpty_iff.1 h, List.nil_append]
    · rfl
  refine ⟨?_, hdrop⟩
  rw [StartsIndex, StartsIndex, hdrop]
  cases hs : s.dropWhile Char.isDigit with
  | nil => simp [hclose]
  | cons d rest =>
    have hlt : (s.takeWhile Char.isDigit).length ≠ s.length := by
      have := congrArg List.length (List.takeWhile_append_dropWhile (p := Char.isDigit) (l := s))
      rw [List.length_append, hs, List.length_cons] at this
      omega
    rw [List.takeWhile_append, if_neg hlt]
    rfl

/-- A text is taken apart before a character that can neither continue nor end an index. -/
theorem withoutIndexes_append {c : Char} (hdigit : c.isDigit = false) (hclose : c ≠ ']')
    (s r : List Char) :
    withoutIndexes (s ++ c :: r) = withoutIndexes s ++ withoutIndexes (c :: r) := by
  fun_induction withoutIndexes s with
  | case1 => rfl
  | case2 b s h ih =>
    obtain ⟨hstarts, hdrop⟩ := startsIndex_append hdigit hclose s r
    rw [List.cons_append, withoutIndexes, if_pos ⟨h.1, hstarts.2 h.2⟩, hdrop, ih,
      List.cons_append]
  | case3 b s h ih =>
    obtain ⟨hstarts, _⟩ := startsIndex_append hdigit hclose s r
    rw [List.cons_append, withoutIndexes, if_neg fun hb => h ⟨hb.1, hstarts.1 hb.2⟩, ih,
      List.cons_append]

/-- The brackets around digits stay. -/
theorem withoutIndexes_index {digits : List Char} (hne : digits ≠ [])
    (hdigits : ∀ c ∈ digits, c.isDigit = true) :
    withoutIndexes ('[' :: (digits ++ [']'])) = ['[', ']'] := by
  have hdrop : (digits ++ [']']).dropWhile Char.isDigit = [']'] := by
    rw [List.dropWhile_append_of_pos hdigits]
    rfl
  have hstarts : StartsIndex (digits ++ [']']) := by
    refine ⟨?_, by rw [hdrop]; rfl⟩
    rw [List.takeWhile_append_of_pos hdigits]
    exact List.append_ne_nil_of_left_ne_nil hne _
  rw [withoutIndexes, if_pos ⟨rfl, hstarts⟩, hdrop, withoutIndexes_eq_self (by decide)]

theorem withoutIndexes_eq_nil_iff {s : List Char} : withoutIndexes s = [] ↔ s = [] := by
  cases s with
  | nil => rw [withoutIndexes]
  | cons c r =>
    rw [withoutIndexes]
    split <;> exact ⟨nofun, nofun⟩

/-- A path in which every index is left out. -/
def unindexed (path : String) : String := String.ofList (withoutIndexes path.toList)

@[simp] theorem toList_unindexed (path : String) :
    (unindexed path).toList = withoutIndexes path.toList := by
  rw [unindexed, String.toList_ofList]

theorem unindexed_empty : unindexed "" = "" := by
  rw [← String.toList_inj, toList_unindexed, String.toList_empty, withoutIndexes]

theorem unindexed_eq_empty_iff {path : String} : unindexed path = "" ↔ path = "" := by
  rw [← String.toList_inj, ← String.toList_inj, toList_unindexed, String.toList_empty,
    withoutIndexes_eq_nil_iff]

namespace Json

/-- A key without brackets is added as it is. -/
theorem unindexed_memberPath {key : String} (h : '[' ∉ key.toList) (path : String) :
    unindexed (memberPath path key) = memberPath (unindexed path) key := by
  have hdot : '[' ∉ '.' :: key.toList := by
    rw [List.mem_cons, not_or]
    exact ⟨by decide, h⟩
  rw [memberPath, memberPath]
  by_cases hpath : path = ""
  · rw [if_pos hpath, if_pos (unindexed_eq_empty_iff.2 hpath), ← String.toList_inj,
      toList_unindexed, withoutIndexes_eq_self h]
  · rw [if_neg hpath, if_neg (mt unindexed_eq_empty_iff.1 hpath), ← String.toList_inj,
      toList_unindexed]
    simp only [String.toList_append, toList_unindexed]
    rw [List.append_assoc, show ".".toList ++ key.toList = '.' :: key.toList from rfl,
      withoutIndexes_append (by decide) (by decide), withoutIndexes_eq_self hdot, List.append_assoc]
    rfl

theorem toList_itemPath (path : String) (i : Nat) :
    (itemPath path i).toList = path.toList ++ '[' :: (Nat.toDigits 10 i ++ [']']) := by
  simp only [itemPath, String.toList_append, Nat.toString_eq_repr, Nat.toList_repr,
    List.append_assoc]
  rfl

/-- Of an index the empty brackets stay. -/
theorem unindexed_itemPath (path : String) (i : Nat) :
    unindexed (itemPath path i) = unindexed path ++ "[]" := by
  rw [← String.toList_inj, toList_unindexed, toList_itemPath,
    withoutIndexes_append (by decide) (by decide),
    withoutIndexes_index Nat.toDigits_ne_nil fun c hc => isDigit_of_mem_toDigits hc,
    String.toList_append, toList_unindexed]
  rfl

end Json

end Stencil
