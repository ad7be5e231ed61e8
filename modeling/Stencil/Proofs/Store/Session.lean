import Mathlib.Data.Finmap
import Mathlib.Data.Finset.Sort
import Stencil.Proofs.Text.Ascending
import Stencil.Store.Memory

/-!
# Runs of requests

A store is asked one thing after the other, and what matters of it is what it answers. `Registry` is
the store that every other one is measured by: a finite map from names to blueprints. If two stores
that are related answer each request in the same way and stay related, then they do so in every run
of requests (`session_of_ask`). A store in memory is related to the registry that it lists
(`MemoryStore.Lists.ask`).
-/

namespace Stencil

/-! ## Requests -/

/-- What a store can be asked. -/
inductive Request where
  | put (b : Blueprint)
  | get (name : String)
  | remove (name : String)
  | names
  deriving DecidableEq

/-- What a store answers to a request. -/
inductive Answer where
  | put (answer : Except StoreError Unit)
  | get (answer : Except StoreError (Option Blueprint))
  | remove (answer : Except StoreError Bool)
  | names (answer : Except StoreError (List String))
  deriving DecidableEq

/-- Why a request fails. -/
def Answer.failure? : Answer → Option StoreError
  | put (.error e) | get (.error e) | remove (.error e) | names (.error e) => some e
  | put (.ok _) | get (.ok _) | remove (.ok _) | names (.ok _) => none

/-- The request fails because of the files of the store. -/
def Answer.IsIoFailure (answer : Answer) : Prop := ∃ e, answer.failure? = some (.io e)

/-- The request has a valid name and a blueprint that can be stored. -/
def Request.IsFit : Request → Prop
  | put b => isValidName b.name = true ∧ Blueprint.ofText? b.toText = some b
  | get name | remove name => isValidName name = true
  | names => True

section
variable {σ τ : Type} [BlueprintStore σ] [BlueprintStore τ]

/-- The answer of a store to a request, and the store after it. -/
def Request.ask (store : σ) : Request → Answer × σ
  | put b => (.put (BlueprintStore.put store b).1, (BlueprintStore.put store b).2)
  | get name => (.get (BlueprintStore.get store name), store)
  | remove name =>
    (.remove (BlueprintStore.remove store name).1, (BlueprintStore.remove store name).2)
  | names => (.names (BlueprintStore.names store), store)

/-- The answers of a store to one request after the other, each with the store after it. -/
def session (store : σ) : List Request → List (Answer × σ)
  | [] => []
  | r :: rest => r.ask store :: session (r.ask store).2 rest

/-- The answers of a store to one request after the other. -/
def answers (store : σ) (requests : List Request) : List Answer :=
  (session store requests).map (·.1)

/-- If stores that are related answer every request as `f` says and stay related, they do so in
every run. Only requests with a property `P` and answers with a property `Q` have to be looked at.
-/
theorem session_of_ask {R : σ → τ → Prop} {P : Request → Prop} {Q : Answer → Prop}
    {f : Answer → Answer}
    (hask : ∀ {s t r}, R s t → P r → Q (r.ask s).1 →
      (r.ask s).1 = f (r.ask t).1 ∧ R (r.ask s).2 (r.ask t).2) :
    ∀ (requests : List Request) {s : σ} {t : τ}, R s t → (∀ r ∈ requests, P r) →
      (∀ a ∈ answers s requests, Q a) →
      answers s requests = (answers t requests).map f ∧
        List.Forall₂ (fun x y => R x.2 y.2) (session s requests) (session t requests) := by
  intro requests
  induction requests with
  | nil => exact fun _ _ _ => ⟨rfl, .nil⟩
  | cons r rest ih =>
    intro s t hR hP hQ
    obtain ⟨hr, hrest⟩ := List.forall_mem_cons.1 hP
    obtain ⟨ha, hmore⟩ := List.forall_mem_cons.1 hQ
    obtain ⟨hanswer, hafter⟩ := hask hR hr ha
    obtain ⟨hanswers, hsession⟩ := ih hafter hrest hmore
    exact ⟨congrArg₂ List.cons hanswer hanswers, .cons hafter hsession⟩

end

/-! ## Registries -/

/-- Blueprints as a finite map from their names. -/
abbrev Registry := Finmap fun _ : String => Blueprint

namespace Registry

/-- The names in ascending order. -/
def names (m : Registry) : List String := m.keys.sort

/-- Putting a blueprint replaces the one of its name, removing tells whether there was one. -/
instance : BlueprintStore Registry where
  put m b := (.ok (), m.insert b.name b)
  get m name := .ok (m.lookup name)
  remove m name := (.ok (m.lookup name).isSome, m.erase name)
  names m := .ok m.names

theorem mem_names {m : Registry} {name : String} : name ∈ m.names ↔ name ∈ m := by
  rw [names, Finset.mem_sort, Finmap.mem_keys]

theorem pairwise_names (m : Registry) : m.names.Pairwise (· < ·) :=
  (Finset.sortedLT_sort m.keys).pairwise

theorem names_empty : (∅ : Registry).names = [] := by
  rw [names, Finmap.keys_empty, Finset.sort_empty]

/-- Erasing a name without a blueprint changes nothing. -/
theorem erase_of_lookup {m : Registry} {name : String} (h : m.lookup name = none) :
    m.erase name = m := by
  refine Finmap.ext_lookup fun other => ?_
  by_cases hother : other = name
  · rw [hother, Finmap.lookup_erase, h]
  · rw [Finmap.lookup_erase_ne hother]

/-- The names are told by being in strict order and by being those of the blueprints. -/
theorem eq_names {m : Registry} {l : List String} (h : l.Pairwise (· < ·))
    (hmem : ∀ name, name ∈ l ↔ (m.lookup name).isSome = true) : l = m.names :=
  eq_of_pairwise_lt h m.pairwise_names fun name => by
    rw [hmem, mem_names, Finmap.lookup_isSome]

/-- A registry answers everything. -/
theorem failure?_answers (requests : List Request) : ∀ (m : Registry), ∀ a ∈ answers m requests,
    a.failure? = none := by
  induction requests with
  | nil => exact fun _ => List.forall_mem_nil _
  | cons r rest ih =>
    intro m
    refine List.forall_mem_cons.2 ⟨?_, ih (r.ask m).2⟩
    cases r <;> rfl

end Registry

/-! ## Stores in memory -/

namespace MemoryStore

variable {store : MemoryStore} {m : Registry}

/-- A store lists the blueprints of a registry. -/
def Lists (store : MemoryStore) (m : Registry) : Prop := ∀ name, store.get? name = m.lookup name

theorem lists_empty : Lists {} ∅ := fun _ => rfl

theorem get?_erase (store : MemoryStore) (name other : String) :
    (store.erase name).get? other = if other = name then none else store.get? other := by
  rw [get?, get?, erase, List.find?_filter]
  by_cases h : other = name
  · rw [if_pos h, h, List.find?_eq_none]
    simp
  · rw [if_neg h]
    refine congrFun (congrArg List.find? (funext fun b => ?_)) _
    by_cases hb : b.name = other
    · simp [hb, h]
    · simp [hb]

theorem get?_insert (store : MemoryStore) (b : Blueprint) (name : String) :
    (store.insert b).get? name = if name = b.name then some b else store.get? name := by
  have herase := get?_erase store b.name name
  rw [get?] at herase
  rw [get?, insert, List.find?_cons, herase]
  by_cases h : name = b.name
  · simp [h]
  · simp [h, Ne.symm h]

theorem Lists.insert (h : store.Lists m) (b : Blueprint) :
    (store.insert b).Lists (m.insert b.name b) := by
  intro name
  rw [get?_insert]
  by_cases hname : name = b.name
  · rw [if_pos hname, hname, Finmap.lookup_insert]
  · rw [if_neg hname, Finmap.lookup_insert_of_ne m hname, h]

theorem Lists.erase (h : store.Lists m) (name : String) :
    (store.erase name).Lists (m.erase name) := by
  intro other
  rw [get?_erase]
  by_cases hname : other = name
  · rw [if_pos hname, hname, Finmap.lookup_erase]
  · rw [if_neg hname, Finmap.lookup_erase_ne hname, h]

theorem mem_names_iff {name : String} : name ∈ store.names ↔ (store.get? name).isSome = true := by
  rw [names, mem_ascending, get?, List.find?_isSome, List.mem_map]
  simp

theorem Lists.names (h : store.Lists m) : store.names = m.names :=
  Registry.eq_names (pairwise_ascending _) fun name => by rw [mem_names_iff, h]

/-- A store in memory and the registry that it lists answer alike. -/
theorem Lists.ask (h : store.Lists m) (r : Request) :
    (r.ask store).1 = (r.ask m).1 ∧ (r.ask store).2.Lists (r.ask m).2 := by
  cases r with
  | put b => exact ⟨rfl, h.insert b⟩
  | get name => exact ⟨congrArg (Answer.get ∘ Except.ok) (h name), h⟩
  | remove name =>
    exact ⟨congrArg (Answer.remove ∘ Except.ok ∘ Option.isSome) (h name), h.erase name⟩
  | names => exact ⟨congrArg (Answer.names ∘ Except.ok) h.names, h⟩

end MemoryStore

end Stencil
