import Stencil.CommandLine.Run
import Stencil.Proofs.Compile.Survival
import Stencil.Proofs.Store.Put

/-!
# Failed compilations

Compiling a sample on the command line can fail before the store is touched, while the blueprint is
put into it, and when it is read back to count its fields (`compileFailure`). A failure of the first
kind changes nothing, one of the second kind no answer unless the directory was missing and is not
any more. A failure of the third kind comes after the blueprint has taken the place of the one that
was there. `failed_compile_changes_iff` puts this together, for stores whose directory is told by
any path.
-/

namespace Stencil.CommandLine

/-- The store of a catalogue as a run leaves it. -/
def storeAfter (c : Catalogue FileStore) (o : Outcome) : FileStore :=
  { c.store with disk := o.disk }

/-- How compiling what was read under a name fails, with what is then left of the store. -/
inductive CompileFailure (ids : IdSupply) (store : FileStore) (name : String)
    (read : Except IoError String) : Failure → FileStore → Prop where
  /-- The store is not reached. -/
  | early {f : Failure} (h : ∀ e, f ≠ .catalogue (.storing e)) :
    CompileFailure ids store name read f store
  /-- The blueprint cannot be put into the store. -/
  | putting {sample : String} {b : Blueprint} {e : StoreError} {after : FileStore}
    (hread : read = .ok sample) (hb : compile ids name sample = .ok b)
    (hput : store.put b = (.error e, after)) :
    CompileFailure ids store name read (.catalogue (.storing e)) after
  /-- The blueprint is in the store and cannot be read. -/
  | reading {sample : String} {b : Blueprint} {e : StoreError} {after : FileStore}
    (hread : read = .ok sample) (hb : compile ids name sample = .ok b)
    (hput : store.put b = (.ok (), after)) (hget : after.get name = .error e) :
    CompileFailure ids store name read (.catalogue (.storing e)) after

section
variable {around : Surroundings} {report : Report} {ids : IdSupply} {c : Catalogue FileStore}
  {name : String} {file : Option String} {f : Failure}

/-- Every failure of the command is of one of the three kinds. -/
theorem compileFailure (h : (runCompile around report ids c name file).failure = some f) :
    CompileFailure ids c.store name (readInput around c.store.disk file) f
      (storeAfter c (runCompile around report ids c name file)) := by
  rw [runCompile, storeAfter] at *
  cases hread : readInput around c.store.disk file with
  | error e =>
    simp only [hread] at h ⊢
    cases h
    exact .early nofun
  | ok sample =>
    simp only [hread] at h ⊢
    by_cases hempty : (Text.trim sample.toList).isEmpty = true
    · simp only [if_pos hempty] at h ⊢
      cases h
      exact .early nofun
    · simp only [if_neg hempty] at h ⊢
      cases hb : compile ids name sample with
      | error e =>
        simp only [Catalogue.compile, hb] at h ⊢
        cases h
        exact .early nofun
      | ok b =>
        obtain ⟨answer, disk, hput⟩ : ∃ answer disk,
            c.store.put b = (answer, { c.store with disk }) := ⟨_, _, rfl⟩
        have hstore : BlueprintStore.put c.store b = _ := hput
        cases answer with
        | error e =>
          simp only [Catalogue.compile, hb, hstore] at h ⊢
          cases h
          exact .putting rfl hb hput
        | ok u =>
          simp only [Catalogue.compile, hb, hstore, Catalogue.blueprint] at h ⊢
          cases hget : BlueprintStore.get ({ c.store with disk } : FileStore) name with
          | error e =>
            simp only [hget] at h ⊢
            cases h
            exact .reading rfl hb hput hget
          | ok found =>
            simp only [hget] at h
            cases h

/-- A blueprint that is put into the store and whose file cannot be read makes the command fail. -/
theorem failure_of_unreadable {sample : String} {b : Blueprint}
    (hread : readInput around c.store.disk file = .ok sample)
    (hsome : (Text.trim sample.toList).isEmpty = false) (hb : compile ids name sample = .ok b)
    (hput : (c.store.put b).1 = .ok ()) (htext : Blueprint.ofText? b.toText = none) :
    (runCompile around report ids c name file).failure =
      some (.catalogue (.storing .serialization)) := by
  have hstore : BlueprintStore.put c.store b = (.ok (), (c.store.put b).2) := Prod.ext hput rfl
  have hget : BlueprintStore.get (c.store.put b).2 name = .error .serialization := by
    have hself := (FileStore.holds_of_put hstore).get_self
    rwa [FileStore.answerOf, htext, name_of_compile hb] at hself
  rw [runCompile, hread]
  dsimp only
  rw [hsome, if_neg Bool.false_ne_true]
  simp only [Catalogue.compile, hb, hstore, Catalogue.blueprint, hget]
  rfl

/-- **What a failed compilation changes.** Of a command that compiles a sample under a name and
fails, in whatever state the directory of the blueprints was, the registered names and the answers
for all names are as before unless either of two things happened. The blueprint was put into the
directory and cannot be read from there, while the name did not have such a file already; or the
directory was missing, and the files failed for another reason than that it is missing still. After
the first kind of failure the name is left with the new blueprint's file, which nobody can read. -/
theorem failed_compile_changes_iff
    (hfail : (runCompile around report ids c name file).failure = some f) :
    ((storeAfter c (runCompile around report ids c name file)).SameAnswers c.store ↔
      (f = .catalogue (.storing .serialization) → c.store.get name = .error .serialization) ∧
      (∀ e, f = .catalogue (.storing (.io e)) → e ≠ .notFound →
        c.store.disk.find c.store.directory ≠ .error .notFound)) ∧
    (f = .catalogue (.storing .serialization) →
      ∃ sample b, readInput around c.store.disk file = .ok sample ∧
        compile ids name sample = .ok b ∧ Blueprint.ofText? b.toText = none ∧
        c.store.put b = (.ok (), storeAfter c (runCompile around report ids c name file))) := by
  generalize hafter : storeAfter c (runCompile around report ids c name file) = after
  have hcase := compileFailure hfail
  rw [hafter] at hcase
  cases hcase with
  | early h =>
    exact ⟨iff_of_true ⟨rfl, fun _ => rfl⟩
      ⟨fun hf => absurd hf (h _), fun _ hf => absurd hf (h _)⟩, fun hf => absurd hf (h _)⟩
  | @putting sample b e _ hread hb hput =>
    have hother : Failure.catalogue (.storing e) ≠ .catalogue (.storing .serialization) := fun h =>
      FileStore.ne_serialization_of_put_error hput (by cases h; rfl)
    refine ⟨?_, fun h => absurd h hother⟩
    by_cases hmissing : c.store.disk.find c.store.directory = .error .notFound
    · -- A directory that is missing is made first, and that alone can change answers.
      rw [FileStore.sameAnswers_iff_of_put_error hput hmissing]
      constructor
      · refine fun h => ⟨fun hf => absurd hf hother, fun i hf hi => absurd ?_ hi⟩
        cases hf
        exact h i rfl
      · rintro ⟨_, h⟩ i rfl
        exact not_not.1 fun hi => h i rfl hi hmissing
    · exact iff_of_true (FileStore.sameAnswers_of_put_error hput hmissing)
        ⟨fun hf => absurd hf hother, fun _ _ _ => hmissing⟩
  | @reading sample b e _ hread hb hput hget =>
    have hholds := FileStore.holds_of_put hput
    have hname := name_of_compile hb
    rw [← hname, hholds.get_self, FileStore.answerOf] at hget
    cases htext : Blueprint.ofText? b.toText with
    | some b' =>
      rw [htext] at hget
      cases hget
    | none =>
      rw [htext] at hget
      cases hget
      have hsame := hholds.sameAnswers_iff htext
      rw [hname] at hsame
      refine ⟨⟨fun h => ⟨fun _ => hsame.1 h, fun _ hf => ?_⟩, fun h => hsame.2 (h.1 rfl)⟩,
        fun _ => ⟨sample, b, hread, hb, htext, hput⟩⟩
      cases hf

/-- A name answers with a blueprint. Compiling an element with a colon in its name under it fails,
and the name answers no more. -/
theorem failed_compile_changes_iff_prefixed :
    let text := "\x7b\"name\":\"a\",\"root\":\x7b\"kind\":\"root\"\x7d\x7d"
    let c : Catalogue FileStore :=
      ⟨⟨["d"], ⟨[(["d", "a.json"], .file text), (["d"], .directory)]⟩⟩, {}⟩
    let around : Surroundings := { input := "<x:y>\x7b$v\x7dT</x:y>" }
    let after := storeAfter c (runCompile around {} MarkerId.ofNat c "a" none)
    c.store.disk.IsTree ∧
      c.store.get "a" = .ok (some ⟨"a", ⟨.root, none, none, none, [], none⟩⟩) ∧
      (runCompile around {} MarkerId.ofNat c "a" none).failure =
        some (.catalogue (.storing .serialization)) ∧
      after.get "a" = .error .serialization ∧ ¬ after.SameAnswers c.store := by
  intro text c around after
  obtain ⟨b, hb, htext⟩ : ∃ b, compile MarkerId.ofNat "a" around.input = .ok b ∧
      Blueprint.ofText? b.toText = none := by
    have hnone : ((compile MarkerId.ofNat "a" around.input).toOption.map fun b =>
        (Blueprint.ofJson? b.toJson).isNone) = some true := by decide +kernel
    cases hb : compile MarkerId.ofNat "a" around.input with
    | error e =>
      rw [hb] at hnone
      cases hnone
    | ok b =>
      rw [hb] at hnone
      refine ⟨b, rfl, ?_⟩
      rw [Blueprint.ofText?_toText]
      exact Option.isNone_iff_eq_none.1 (Option.some.inj hnone)
  have htree : c.store.disk.IsTree := by decide
  have hbefore : c.store.get "a" = .ok (some ⟨"a", ⟨.root, none, none, none, [], none⟩⟩) := by
    decide +kernel
  have hread : readInput around c.store.disk none = .ok around.input := rfl
  have hsome : (Text.trim around.input.toList).isEmpty = false := by decide +kernel
  have hput : (c.store.put b).1 = .ok () := by
    have hname := name_of_compile hb
    rw [FileStore.put_of_made (hname ▸ by decide +kernel) (by decide +kernel),
      FileStore.temporaryRoute, FileStore.route, hname, if_neg (by decide +kernel),
      if_neg (by decide +kernel), if_neg (by decide +kernel)]
  have hfail : (runCompile around {} MarkerId.ofNat c "a" none).failure =
      some (.catalogue (.storing .serialization)) :=
    failure_of_unreadable hread hsome hb hput htext
  obtain ⟨hsame, hstored⟩ := failed_compile_changes_iff hfail
  obtain ⟨_, b', _, hb', htext', hput'⟩ := hstored rfl
  have hafter := (FileStore.holds_of_put hput').get_self
  rw [FileStore.answerOf, htext', name_of_compile hb'] at hafter
  refine ⟨htree, hbefore, hfail, hafter, fun h => ?_⟩
  have hget := (hsame.1 h).1 rfl
  rw [hbefore] at hget
  cases hget

end

end Stencil.CommandLine
