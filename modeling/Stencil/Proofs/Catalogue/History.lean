import Stencil.Catalogue
import Stencil.Proofs.Compile.Survival
import Stencil.Proofs.Store.Session

/-!
# Histories of a catalogue

What a catalogue over a store in memory answers is told by the calls that were made before. A name
stands for the blueprint of its last compilation that succeeded, unless the name was removed after
that (`LastCompiled`). Each call keeps the store in step with this (`Follows.make`), whether it
succeeds or fails, and so does every history of calls (`follows_history`). The answers are then read
off the history (`answers_from_last_compilation`).
-/

namespace Stencil

namespace Catalogue

/-! ## Calls -/

/-- What a catalogue can be asked. A compilation comes with the identifiers that it draws. -/
inductive Call where
  | compile (ids : IdSupply) (name sample : String)
  | extract (name document : String)
  | blueprint (name : String)
  | remove (name : String)
  | names

/-- What a catalogue answers to a call. -/
inductive Reply where
  | compile (answer : Except CatalogueError Unit)
  | extract (answer : Except CatalogueError Json)
  | blueprint (answer : Except CatalogueError (Option Blueprint))
  | remove (answer : Except CatalogueError Bool)
  | names (answer : Except CatalogueError (List String))

section
variable {σ : Type} [BlueprintStore σ]

/-- The answer of a catalogue to a call, and the catalogue after it. -/
def make (c : Catalogue σ) : Call → Reply × Catalogue σ
  | .compile ids name sample => (.compile (c.compile ids name sample).1, (c.compile ids name sample).2)
  | .extract name document => (.extract (c.extract name document), c)
  | .blueprint name => (.blueprint (c.blueprint name), c)
  | .remove name => (.remove (c.remove name).1, (c.remove name).2)
  | .names => (.names c.names, c)

/-- A catalogue after calls. -/
def after (c : Catalogue σ) (history : List Call) : Catalogue σ :=
  history.foldl (fun c call => (c.make call).2) c

/-- The answers of a catalogue to one call after the other. -/
def replies (c : Catalogue σ) : List Call → List Reply
  | [] => []
  | call :: rest => (c.make call).1 :: replies (c.make call).2 rest

theorem after_concat (c : Catalogue σ) (history : List Call) (call : Call) :
    c.after (history ++ [call]) = ((c.after history).make call).2 := by
  rw [after, List.foldl_append]
  rfl

end

/-! ## The last compilation of a name -/

/-- A call compiles a sample into a blueprint of the name. -/
def Call.Registers (name : String) (b : Blueprint) : Call → Prop
  | .compile ids other sample => other = name ∧ Stencil.compile ids other sample = .ok b
  | .extract _ _ | .blueprint _ | .remove _ | .names => False

/-- A call keeps the blueprint of a name: it neither compiles another one nor removes the name. -/
def Call.Keeps (call : Call) (name : String) : Prop :=
  call ≠ .remove name ∧ ∀ b, ¬ call.Registers name b

/-- The blueprint is that of the last call that compiled one of the name, and the name was not
removed after it. -/
def LastCompiled (history : List Call) (name : String) (b : Blueprint) : Prop :=
  ∃ before call later, history = before ++ call :: later ∧ call.Registers name b ∧
    ∀ x ∈ later, x.Keeps name

theorem lastCompiled_concat {history : List Call} {call : Call} {name : String} {b : Blueprint} :
    LastCompiled (history ++ [call]) name b ↔
      call.Registers name b ∨ (LastCompiled history name b ∧ call.Keeps name) := by
  constructor
  · rintro ⟨before, first, later, heq, hfirst, hlater⟩
    cases later using List.reverseRecOn with
    | nil =>
      obtain ⟨_, hcall⟩ := List.append_inj' heq rfl
      cases hcall
      exact .inl hfirst
    | append_singleton later last _ =>
      rw [← List.cons_append, ← List.append_assoc] at heq
      obtain ⟨rfl, hcall⟩ := List.append_inj' heq rfl
      cases hcall
      exact .inr ⟨⟨before, first, later, rfl, hfirst, fun x hx =>
        hlater x (List.mem_append_left _ hx)⟩, hlater _ (List.mem_append_right _ List.mem_cons_self)⟩
  · rintro (hcall | ⟨⟨before, first, later, rfl, hfirst, hlater⟩, hkeeps⟩)
    · exact ⟨history, call, [], rfl, hcall, List.forall_mem_nil _⟩
    · refine ⟨before, first, later ++ [call], by rw [List.append_assoc, List.cons_append], hfirst, ?_⟩
      intro x hx
      rcases List.mem_append.1 hx with hx | hx
      · exact hlater x hx
      · exact List.mem_singleton.1 hx ▸ hkeeps

/-! ## The store follows the history -/

variable {c : Catalogue MemoryStore} {history : List Call}

/-- The store of a catalogue has under each name the blueprint that was last compiled. -/
def Follows (c : Catalogue MemoryStore) (history : List Call) : Prop :=
  ∀ name b, c.store.get? name = some b ↔ LastCompiled history name b

theorem compile_of_error {ids : IdSupply} {name sample : String} {e : CompileError}
    (h : Stencil.compile ids name sample = .error e) :
    c.compile ids name sample = (.error (.compiling e), c) := by
  rw [compile, h]

theorem compile_of_ok {ids : IdSupply} {name sample : String} {b : Blueprint}
    (h : Stencil.compile ids name sample = .ok b) :
    c.compile ids name sample = (.ok (), { c with store := c.store.insert b }) := by
  rw [compile, h]
  rfl

theorem remove_eq (c : Catalogue MemoryStore) (name : String) :
    c.remove name = (.ok (c.store.get? name).isSome, { c with store := c.store.erase name }) := rfl

/-- A call that keeps every name and leaves the store as it is makes no difference. -/
theorem Follows.of_keeps {call : Call} (h : c.Follows history) (hkeeps : ∀ name, call.Keeps name) :
    c.Follows (history ++ [call]) := by
  intro name b
  rw [h, lastCompiled_concat, and_iff_left (hkeeps name)]
  exact (or_iff_right ((hkeeps name).2 b)).symm

/-- Each call keeps the store in step with the history. -/
theorem Follows.make (h : c.Follows history) (call : Call) :
    (c.make call).2.Follows (history ++ [call]) := by
  cases call with
  | extract _ _ | blueprint _ | names => exact h.of_keeps fun name => ⟨nofun, fun _ => id⟩
  | remove name =>
    intro other b
    have hstore : (c.make (.remove name)).2.store.get? other =
        if other = name then none else c.store.get? other := MemoryStore.get?_erase c.store name other
    rw [hstore, lastCompiled_concat, Call.Registers, false_or]
    by_cases hname : other = name
    · rw [if_pos hname]
      exact iff_of_false nofun fun hlast => hlast.2.1 (by rw [hname])
    · rw [if_neg hname, h, and_iff_left]
      exact ⟨fun hcall => hname (Call.remove.inj hcall).symm, fun _ => id⟩
  | compile ids name sample =>
    cases hb : Stencil.compile ids name sample with
    | error e =>
      have hsame : (c.make (.compile ids name sample)).2 = c := by
        rw [Catalogue.make, compile_of_error hb]
      rw [hsame]
      refine h.of_keeps fun other => ⟨nofun, fun b hreg => ?_⟩
      rw [Call.Registers, hb] at hreg
      cases hreg.2
    | ok b =>
      intro other b'
      have hstore : (c.make (.compile ids name sample)).2.store.get? other =
          if other = name then some b else c.store.get? other := by
        rw [Catalogue.make, compile_of_ok hb, ← name_of_compile hb]
        exact MemoryStore.get?_insert c.store b other
      rw [hstore, lastCompiled_concat, Call.Registers, hb]
      by_cases hname : other = name
      · rw [if_pos hname, Option.some.injEq, Except.ok.injEq, and_iff_right hname.symm]
        refine (or_iff_left fun hlast => ?_).symm
        exact hlast.2.2 b ⟨hname.symm, hb⟩
      · rw [if_neg hname, h, or_iff_right fun hreg => hname hreg.1.symm, and_iff_left]
        exact ⟨nofun, fun b' hreg => hname hreg.1.symm⟩

/-- The store of a catalogue follows every history. -/
theorem follows_history (settings : ExtractionSettings) (history : List Call) :
    (after (⟨{}, settings⟩ : Catalogue MemoryStore) history).Follows history := by
  induction history using List.reverseRecOn with
  | nil =>
    refine fun name b => iff_of_false nofun ?_
    rintro ⟨before, call, later, heq, _⟩
    exact absurd heq.symm (List.append_ne_nil_of_right_ne_nil _ (List.cons_ne_nil _ _))
  | append_singleton history call ih =>
    rw [after_concat]
    exact ih.make call

/-- The settings of a catalogue never change. -/
theorem settings_after (c : Catalogue MemoryStore) (history : List Call) :
    (c.after history).settings = c.settings := by
  induction history using List.reverseRecOn with
  | nil => rfl
  | append_singleton history call ih =>
    rw [after_concat]
    refine Eq.trans ?_ ih
    cases call with
    | extract _ _ | blueprint _ | names | remove _ => rfl
    | compile ids name sample =>
      cases hb : Stencil.compile ids name sample with
      | error e => rw [make, compile_of_error hb]
      | ok b => rw [make, compile_of_ok hb]

/-! ## Answers -/

/-- What a catalogue says of a name is what its store has under it. -/
theorem blueprint_eq (c : Catalogue MemoryStore) (name : String) :
    c.blueprint name = .ok (c.store.get? name) := rfl

theorem extract_of_none {name : String} (h : c.store.get? name = none) (document : String) :
    c.extract name document = .error (.unknownBlueprint name) := by
  rw [extract, blueprint_eq, h]

theorem extract_of_some {name : String} {b : Blueprint} (h : c.store.get? name = some b)
    (document : String) :
    c.extract name document = (Stencil.extract c.settings b document).mapError .extracting := by
  rw [extract, blueprint_eq, h]
  dsimp only
  cases Stencil.extract c.settings b document <;> rfl

/-- An extraction finds no blueprint only if there is none. -/
theorem extract_eq_unknownBlueprint_iff {name document : String} :
    c.extract name document = .error (.unknownBlueprint name) ↔ c.store.get? name = none := by
  refine ⟨fun h => ?_, fun h => extract_of_none h document⟩
  cases hget : c.store.get? name with
  | none => rfl
  | some b =>
    rw [extract_of_some hget] at h
    cases hb : Stencil.extract c.settings b document with
    | error e => rw [hb] at h; cases h
    | ok v => rw [hb] at h; cases h

/-- A compilation fails only if the sample does not compile, and then nothing has changed. -/
theorem compile_snd_of_error {ids : IdSupply} {name sample : String} {e : CatalogueError}
    (h : (c.compile ids name sample).1 = .error e) : (c.compile ids name sample).2 = c := by
  cases hb : Stencil.compile ids name sample with
  | error e => rw [compile_of_error hb]
  | ok b => rw [compile_of_ok hb] at h; cases h

/-- **A catalogue answers from the last compilation that succeeded.** After any history of calls to
a catalogue over a store in memory that was empty at first, a name is unknown to an extraction
exactly when it has no compilation that succeeded since it was last removed. If it has one, the
extraction gives what the blueprint of the last one gives. Compilations that fail and extractions
change no later answer. A name that is looked up or removed is said to be there, and is among the
names in strict order, exactly when it is so registered. -/
theorem answers_from_last_compilation (settings : ExtractionSettings) (history : List Call) :
    let c : Catalogue MemoryStore := after ⟨{}, settings⟩ history
    (∀ name document, c.extract name document = .error (.unknownBlueprint name) ↔
      ¬ ∃ b, LastCompiled history name b) ∧
    (∀ name b document, LastCompiled history name b →
      c.extract name document = (Stencil.extract settings b document).mapError .extracting) ∧
    (∀ ids name sample, (c.compile ids name sample).1 = .ok () ↔
      ∃ b, Stencil.compile ids name sample = .ok b) ∧
    (∀ ids name sample e, (c.compile ids name sample).1 = .error e →
      ∀ later, replies (c.make (.compile ids name sample)).2 later = replies c later) ∧
    (∀ name document later, replies (c.make (.extract name document)).2 later = replies c later) ∧
    (∀ name, ∃ found, c.blueprint name = .ok found ∧
      ∀ b, found = some b ↔ LastCompiled history name b) ∧
    (∀ name, ∃ found, (c.remove name).1 = .ok found ∧
      (found = true ↔ ∃ b, LastCompiled history name b)) ∧
    ∃ l, c.names = .ok l ∧ l.Pairwise (· < ·) ∧
      ∀ name, name ∈ l ↔ ∃ b, LastCompiled history name b := by
  intro c
  have hfollows : c.Follows history := follows_history settings history
  have hsettings : c.settings = settings := settings_after _ history
  have hsome : ∀ name, (c.store.get? name).isSome = true ↔ ∃ b, LastCompiled history name b :=
    fun name => by
      rw [Option.isSome_iff_exists]
      exact exists_congr fun b => hfollows name b
  refine ⟨fun name document => ?_, fun name b document hlast => ?_, fun ids name sample => ?_,
    fun ids name sample e herror later => ?_, fun _ _ _ => rfl,
    fun name => ⟨_, blueprint_eq c name, hfollows name⟩,
    fun name => ⟨_, congrArg Prod.fst (remove_eq c name), hsome name⟩,
    _, rfl, pairwise_ascending _, fun name => ?_⟩
  · rw [extract_eq_unknownBlueprint_iff, ← hsome, Bool.not_eq_true, Option.isSome_eq_false_iff,
      Option.isNone_iff_eq_none]
  · rw [← hsettings]
    exact extract_of_some ((hfollows name b).2 hlast) document
  · cases hb : Stencil.compile ids name sample with
    | error e =>
      rw [compile_of_error hb]
      exact iff_of_false nofun fun ⟨_, h⟩ => nomatch h
    | ok b =>
      rw [compile_of_ok hb]
      exact iff_of_true rfl ⟨b, rfl⟩
  · rw [make, compile_snd_of_error herror]
  · rw [MemoryStore.mem_names_iff, hsome]

/-- A name that is compiled twice before a sample fails, and one that is removed. -/
theorem answers_from_last_compilation_replaced :
    let ids : IdSupply := MarkerId.ofNat
    let second := "<b>\x7b$w\x7dT</b>"
    let history : List Call := [.compile ids "a" "<p>\x7b$v\x7dT</p>", .compile ids "b" second,
      .compile ids "a" second, .compile ids "a" "\x7b:x\x7d", .remove "b", .extract "b" ""]
    let c : Catalogue MemoryStore := after ⟨{}, {}⟩ history
    ∃ b, Stencil.compile ids "a" second = .ok b ∧ LastCompiled history "a" b ∧
      c.extract "a" "<b>U</b>" = (Stencil.extract {} b "<b>U</b>").mapError .extracting ∧
      c.extract "b" "" = .error (.unknownBlueprint "b") := by
  intro ids second history c
  have hsecond : (Stencil.compile ids "a" second).toOption.isSome = true := by decide +kernel
  have hthird : (Stencil.compile ids "a" "\x7b:x\x7d").toOption = none := by decide +kernel
  cases hb : Stencil.compile ids "a" second with
  | error e => rw [hb] at hsecond; cases hsecond
  | ok b =>
    have hlast : LastCompiled history "a" b := by
      refine ⟨history.take 2, .compile ids "a" second, history.drop 3, rfl, ⟨rfl, hb⟩, ?_⟩
      simp only [history, List.drop_succ_cons, List.drop_zero, List.forall_mem_cons]
      refine ⟨⟨nofun, ?_⟩, ⟨by simp, fun _ => id⟩, ⟨nofun, fun _ => id⟩, List.forall_mem_nil _⟩
      rintro b' ⟨_, hb'⟩
      rw [hb'] at hthird
      cases hthird
    have hremoved : ¬ ∃ b, LastCompiled history "b" b := by
      rintro ⟨b', hlast'⟩
      rw [show history = history.dropLast ++ [.extract "b" ""] from rfl, lastCompiled_concat] at hlast'
      rcases hlast' with hlast' | ⟨hlast', _⟩
      · exact hlast'
      rw [show history.dropLast = history.take 4 ++ [.remove "b"] from rfl,
        lastCompiled_concat] at hlast'
      rcases hlast' with hlast' | ⟨_, hkeeps, _⟩
      · exact hlast'
      · exact hkeeps rfl
    obtain ⟨hunknown, hknown, _⟩ := answers_from_last_compilation {} history
    exact ⟨b, rfl, hlast, hknown "a" b _ hlast, (hunknown "b" "").2 hremoved⟩

end Catalogue

end Stencil
