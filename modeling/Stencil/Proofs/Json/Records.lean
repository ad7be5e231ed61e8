import Stencil.Json.Decode

/-!
# Records are read off their members

A record that is written as an object with each of its keys once has under each key what was written
there (`fields?_of_nodup`). A key that was not written has nothing (`member?_of_notMem`).
-/

namespace Stencil.Json

theorem filter_key_of_notMem {key : String} {ms : List (String × Json)}
    (h : key ∉ ms.map (·.1)) : ms.filter (·.1 == key) = [] := by
  rw [List.filter_eq_nil_iff]
  intro m hm
  rw [beq_iff_eq]
  rintro rfl
  exact h (List.mem_map_of_mem hm)

theorem member?_of_notMem {key : String} {ms : List (String × Json)} (h : key ∉ ms.map (·.1)) :
    member? key ms = some none := by
  rw [member?, filter_key_of_notMem h]

/-- A member whose key no other has is found under it. -/
theorem member?_of_nodup {ms : List (String × Json)} (h : (ms.map (·.1)).Nodup)
    {m : String × Json} (hm : m ∈ ms) : member? m.1 ms = some (some m.2) := by
  have hfilter : ms.filter (·.1 == m.1) = [m] := by
    induction ms with
    | nil => cases hm
    | cons x ms ih =>
      rw [List.map_cons, List.nodup_cons] at h
      rcases List.mem_cons.1 hm with rfl | hm
      · rw [List.filter_cons, if_pos BEq.rfl, filter_key_of_notMem h.1]
      · have hne : ¬ (x.1 == m.1) = true := by
          rw [beq_iff_eq]
          intro heq
          exact h.1 (heq ▸ List.mem_map_of_mem hm)
        rw [List.filter_cons, if_neg hne, ih h.2 hm]
  rw [member?, hfilter]

/-- The fields of a record that is written with all its keys, each of them once. -/
theorem fields?_of_nodup {ms : List (String × Json)} (h : (ms.map (·.1)).Nodup) :
    fields? (ms.map (·.1)) (.object ms) = some (ms.map fun m => some m.2) := by
  have hall (xs : List (String × Json)) (hxs : ∀ m ∈ xs, m ∈ ms) :
      (xs.map (·.1)).mapM (fun key => member? key ms) = some (xs.map fun m => some m.2) := by
    induction xs with
    | nil => rfl
    | cons x xs ih =>
      obtain ⟨hx, hxs⟩ := List.forall_mem_cons.1 hxs
      rw [List.map_cons, List.mapM_cons, member?_of_nodup h hx, ih hxs]
      rfl
  exact hall ms fun _ hm => hm

end Stencil.Json
