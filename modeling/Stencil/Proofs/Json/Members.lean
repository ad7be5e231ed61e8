import Mathlib.Data.List.Induction
import Stencil.Json.Basic

/-!
# Members set one after the other

A key that is set again keeps its place and takes the new value. So of members that are set one
after the other, the first ones of each key tell the order of the keys (`map_fst_insertAll`), and
the last ones tell the values (`lookup_insertAll`).
-/

namespace Stencil.Json

/-- Sets members one after the other. -/
def insertAll (ms before : List (String × Json)) : List (String × Json) :=
  ms.foldl (fun before m => insert m.1 m.2 before) before

theorem insertAll_concat (ms before : List (String × Json)) (m : String × Json) :
    insertAll (ms ++ [m]) before = insert m.1 m.2 (insertAll ms before) := by
  rw [insertAll, List.foldl_append]
  rfl

theorem lookup_cons_eq_ite (m : String × Json) (ms : List (String × Json)) (k : String) :
    (m :: ms).lookup k = if k = m.1 then some m.2 else ms.lookup k := by
  rw [List.lookup_cons]
  by_cases hk : k = m.1
  · rw [if_pos hk, beq_iff_eq.2 hk]
  · rw [if_neg hk, beq_eq_false_iff_ne.2 hk]

theorem lookup_insert (key : String) (value : Json) (ms : List (String × Json)) (k : String) :
    (insert key value ms).lookup k = if k = key then some value else ms.lookup k := by
  induction ms with
  | nil => rw [insert, lookup_cons_eq_ite]
  | cons m rest ih =>
    obtain ⟨l, v⟩ := m
    rw [insert]
    by_cases hl : l = key
    · subst hl
      rw [if_pos rfl, lookup_cons_eq_ite, lookup_cons_eq_ite]
      by_cases hk : k = l
      · rw [if_pos hk, if_pos hk]
      · rw [if_neg hk, if_neg hk, if_neg hk]
    · rw [if_neg hl, lookup_cons_eq_ite, lookup_cons_eq_ite, ih]
      by_cases hk : k = key
      · rw [if_neg fun h => hl (h.symm.trans hk), if_pos hk, if_pos hk]
      · rw [if_neg hk, if_neg hk]

theorem eq_or_mem_of_mem_insert {key : String} {value : Json} {m : String × Json}
    {ms : List (String × Json)} (h : m ∈ insert key value ms) : m = (key, value) ∨ m ∈ ms := by
  induction ms with
  | nil => exact .inl (List.mem_singleton.1 h)
  | cons x rest ih =>
    obtain ⟨k, v⟩ := x
    rw [insert] at h
    split at h
    · next hk =>
      subst hk
      exact (List.mem_cons.1 h).imp_right (List.mem_cons_of_mem _)
    · rcases List.mem_cons.1 h with rfl | h
      · exact .inr (List.mem_cons_self ..)
      · exact (ih h).imp_right (List.mem_cons_of_mem _)

/-- A key that is new is added at the end. -/
theorem insert_of_notMem {key : String} {ms : List (String × Json)} (h : key ∉ ms.map (·.1))
    (value : Json) : insert key value ms = ms ++ [(key, value)] := by
  induction ms with
  | nil => rfl
  | cons x rest ih =>
    obtain ⟨k, v⟩ := x
    rw [List.map_cons, List.mem_cons, not_or] at h
    rw [insert, if_neg (Ne.symm h.1), ih h.2, List.cons_append]

/-- The keys are those of the members, in the order in which they come up. -/
theorem map_fst_insertAll (ms : List (String × Json)) :
    (insertAll ms []).map (·.1) = (ms.map (·.1)).eraseDups := by
  induction ms using List.reverseRecOn with
  | nil => rfl
  | append_singleton ms m ih =>
    rw [insertAll_concat, map_fst_insert, ih, List.map_append, List.eraseDups_append]
    by_cases hm : m.1 ∈ ms.map (·.1)
    · rw [if_pos (List.mem_eraseDups.2 hm)]
      simp [List.removeAll, hm]
    · rw [if_neg fun h => hm (List.mem_eraseDups.1 h)]
      simp [List.removeAll, hm, List.eraseDups_cons]

/-- Each key has the value of the last member of its name. -/
theorem lookup_insertAll (ms : List (String × Json)) (k : String) :
    (insertAll ms []).lookup k = ms.reverse.lookup k := by
  induction ms using List.reverseRecOn with
  | nil => rfl
  | append_singleton ms m ih =>
    rw [insertAll_concat, lookup_insert, ih, List.reverse_concat, lookup_cons_eq_ite]

/-- Members of different keys are kept as they are. -/
theorem insertAll_of_nodup {ms : List (String × Json)} (h : (ms.map (·.1)).Nodup) :
    insertAll ms [] = ms := by
  induction ms using List.reverseRecOn with
  | nil => rfl
  | append_singleton ms m ih =>
    rw [List.map_append, List.nodup_append] at h
    rw [insertAll_concat, ih h.1, insert_of_notMem]
    exact fun hm => h.2.2 _ hm _ (List.mem_singleton.2 rfl) rfl

end Stencil.Json
