import Stencil.Proofs.Store.Put

/-!
# Putting blueprints is all or nothing

Putting a blueprint can stop at any of its steps, and in the middle of making directories or of
writing the temporary file (`StopsAt`). Until the file gets its name, the file system has more
directories on the way to the store's directory than before and can have a temporary file (`Grown`),
and each step keeps it so. Such a file system answers as before, unless the directory was missing:
its path was not followed to its end, and is now, so that a name on it can turn out to be too long,
and a path that turns back can come to files that are there already (`KeptAlong`). Once the file has
its name, the blueprint's name answers with the new text and all else is as before (`Replaces`).
`put_is_all_or_nothing` says this of every stop.

The directory of the store can be told by any path. What is said of the registered names once the
file has its name is said of directories that have a path, since at the empty path none are listed.
-/

namespace Stencil

namespace FileSystem

section
variable {disk disk' : FileSystem} {way : Way} {name : String}

/-- A file system has, where a path goes through, what another one has and directories besides. -/
def MoreDirectories (way : Way) (disk disk' : FileSystem) : Prop :=
  ∀ front : Way, front <+: way → disk'.entryAt? front.route = disk.entryAt? front.route ∨
    (disk.entryAt? front.route = none ∧ disk'.entryAt? front.route = some .directory)

theorem MoreDirectories.of_concat (h : MoreDirectories (way ++ [name]) disk disk') :
    MoreDirectories way disk disk' :=
  fun front hfront => h front (hfront.trans (List.prefix_append _ _))

theorem MoreDirectories.last (hname : IsName name) (h : MoreDirectories (way ++ [name]) disk disk') :
    disk'.entryAt? (way.route ++ [name]) = disk.entryAt? (way.route ++ [name]) ∨
      (disk.entryAt? (way.route ++ [name]) = none ∧
        disk'.entryAt? (way.route ++ [name]) = some .directory) := by
  have hlast := h _ List.prefix_rfl
  rwa [Way.route_concat_of_isName hname] at hlast

/-- A path that can be followed, or on which something bars the way, leads where it led. -/
theorem MoreDirectories.find_of_not_missing (h : MoreDirectories way disk disk')
    (hfind : disk.find way ≠ .error .notFound) : disk'.find way = disk.find way := by
  induction way using List.reverseRecOn with
  | nil => rfl
  | append_singleton way part ih =>
    rw [ne_eq, find_concat_eq_notFound_iff, not_or] at hfind
    obtain ⟨hmissing, hthere⟩ := hfind
    have habove := ih h.of_concat hmissing
    rw [find_concat, find_concat, habove]
    rcases hd : disk.find way with e | (text | _)
    · rfl
    · rfl
    · rw [Except.bind, Except.bind]
      by_cases hname : IsName part
      · rw [enter_of_isName hname, enter_of_isName hname]
        -- A name that is too long is so in both; else its entry is there, and is kept.
        by_cases hlong : longestName < part.utf8ByteSize
        · rw [if_pos hlong, if_pos hlong]
        · rw [(h.last hname).resolve_right fun hnew => hthere ⟨hd, hname, hlong, hnew.1⟩]
      · rw [enter_of_not_isName hname, enter_of_not_isName hname]

/-- A path on which something was missing, and which does not turn back, leads to a directory now,
or it breaks off again, be it that something is missing still or that a name is too long. -/
theorem MoreDirectories.find_of_missing (h : MoreDirectories way disk disk')
    (htree : disk.IsTree) (hback : ¬ disk.TurnsBack way)
    (hmissing : disk.find way = .error .notFound) :
    disk'.find way = .error .notFound ∨ disk'.find way = .ok .directory ∨
      (IsTooLong way ∧ disk'.find way = .error .nameTooLong) := by
  induction way using List.reverseRecOn with
  | nil => cases hmissing
  | append_singleton way part ih =>
    -- Below a directory, the entry of a name decides.
    have hdirectory (hd : disk'.find way = .ok .directory) :
        disk'.find (way ++ [part]) = .error .notFound ∨
          disk'.find (way ++ [part]) = .ok .directory ∨
          (IsTooLong (way ++ [part]) ∧ disk'.find (way ++ [part]) = .error .nameTooLong) := by
      by_cases hname : IsName part
      case neg =>
        rw [find_concat, hd]
        exact .inr (.inl (enter_of_not_isName hname))
      have hnone := htree.entryAt?_of_missing hback hmissing
      rw [Way.route_concat_of_isName hname] at hnone
      rw [find_concat_of_directory hd hname]
      by_cases hlong : longestName < part.utf8ByteSize
      · rw [if_pos hlong]
        exact .inr (.inr ⟨isTooLong_concat _ hlong, rfl⟩)
      rw [if_neg hlong]
      rcases h.last hname with hsame | ⟨_, hsome⟩
      · rw [hsame, hnone]
        exact .inl rfl
      · rw [hsome]
        exact .inr (.inl rfl)
    by_cases habove : disk.find way = .error .notFound
    · rcases ih h.of_concat (fun hway => hback (hway.concat part)) habove with hd | hd | ⟨hlong, hd⟩
      · rw [find_concat, hd]
        exact .inl rfl
      · exact hdirectory hd
      · rw [find_concat, hd]
        exact .inr (.inr ⟨hlong.append _, rfl⟩)
    · refine hdirectory ?_
      rw [h.of_concat.find_of_not_missing habove]
      exact ((find_concat_eq_notFound_iff.1 hmissing).resolve_left habove).1

end

/-- A file is written into a directory and in place of none, or nothing is done. -/
theorem write_snd {directory : Way} {name : String} (hname : IsName name) (text : String)
    (disk : FileSystem) :
    (write directory name text disk).2 = disk ∨
      (disk.find directory = .ok .directory ∧
        disk.entryAt? (directory.route ++ [name]) ≠ some .directory ∧
        (write directory name text disk).2 =
          disk.insert (directory.route ++ [name]) (.file text)) := by
  by_cases hthere : disk.find directory = .ok .directory
  · rw [write_of_directory hthere hname]
    split
    · exact .inl rfl
    · split
      · exact .inl rfl
      · next hfree => exact .inr ⟨hthere, hfree, rfl⟩
  · left
    rw [write]
    split
    · rfl
    · next hfile => exact absurd ((find_concat_eq_ok_iff hname).1 hfile).1 hthere
    · split
      · contradiction
      · rfl
    · rfl

/-- A file that does not get another name stays where it is. -/
theorem rename_of_error {directory : Way} {old new : String} {disk : FileSystem}
    (h : (rename directory old new disk).1 ≠ .ok ()) :
    (rename directory old new disk).2 = disk := by
  rw [rename] at *
  split at h
  · rfl
  · rfl
  · split at h
    · rfl
    · rfl
    · exact absurd rfl h

end FileSystem

namespace FileStore

open FileSystem (longestName IsTooLong)

/-! ## Stops -/

/-- Puts a blueprint up to a number of steps: makes that many of them until one fails. -/
def putFor (k : Nat) (store : FileStore) (b : Blueprint) : Except StoreError Unit × FileStore :=
  let (answer, disk) := runSteps ((putSteps store.directory b).take k) store.disk
  (answer, { store with disk })

/-- The stores that putting a blueprint can leave when it stops, each with whether the file of the
blueprint got its name. -/
inductive StopsAt (store : FileStore) (b : Blueprint) : Bool → FileStore → Prop where
  /-- After some of the steps, or at the first of them that fails. The fourth gives the file its
  name. -/
  | steps (k : Nat) :
    StopsAt store b (decide (4 ≤ k ∧ (putFor k store b).1 = .ok ())) (putFor k store b).2
  /-- With some of the directories made. -/
  | making (hvalid : isValidName b.name = true) (k : Nat) :
    StopsAt store b false
      { store with disk := (FileSystem.makeDirectories (store.directory.take k) store.disk).2 }
  /-- With some text in the temporary file. -/
  | writing (hvalid : isValidName b.name = true)
    (hmake : (FileSystem.makeDirectories store.directory store.disk).1 = .ok ()) (text : String) :
    StopsAt store b false { store with
      disk := (FileSystem.write store.directory (temporaryName b.name) text store.made).2 }

theorem putFor_four (store : FileStore) (b : Blueprint) : putFor 4 store b = store.put b := rfl

theorem putFor_of_le {k : Nat} (h : 4 ≤ k) (store : FileStore) (b : Blueprint) :
    putFor k store b = store.put b := by
  rw [putFor, List.take_of_length_le h]
  rfl

/-- Carried out to its end, putting a blueprint stops as well. -/
theorem StopsAt.of_put {store : FileStore} {b : Blueprint} (h : (store.put b).1 = .ok ()) :
    StopsAt store b true (store.put b).2 := by
  have hsteps : StopsAt store b _ (putFor 4 store b).2 := .steps 4
  rw [putFor_four, h] at hsteps
  exact hsteps

theorem StopsAt.of_put_error {store : FileStore} {b : Blueprint} {e : StoreError}
    (h : (store.put b).1 = .error e) : StopsAt store b false (store.put b).2 := by
  have hsteps : StopsAt store b _ (putFor 4 store b).2 := .steps 4
  rw [putFor_four, h] at hsteps
  exact hsteps

/-! ## Answers that are kept -/

/-- What becomes of an answer that is found along a path. It is as before; or the directory was
missing, so that there was nothing to find, and now a name on the path is too long, or the
directory's path turns back and so can come to what is there already. -/
def KeptAlong {α : Type} (store : FileStore) (way : Way) (nothing : α)
    (before after : Except StoreError α) : Prop :=
  after = before ∨ (store.disk.find store.directory = .error .notFound ∧ before = .ok nothing ∧
    (store.disk.TurnsBack store.directory ∨
      (IsTooLong way ∧ after = .error (.io .nameTooLong))))

/-- The registered names and the answers for all names are kept. -/
structure Keeps (store after : FileStore) : Prop where
  names : KeptAlong store store.directory [] store.names after.names
  get (name : String) : KeptAlong store (store.way name) none (store.get name) (after.get name)

/-- A blueprint has taken the place of the one of its name, and the rest is kept. -/
structure Replaces (store : FileStore) (b : Blueprint) (after : FileStore) : Prop where
  /-- The name answers what its file's text says. -/
  get_self : after.get b.name = answerOf (some (.file b.toText))
  get (name : String) (h : name ≠ b.name) :
    KeptAlong store (store.way name) none (store.get name) (after.get name)
  /-- The names of a directory that has a path which does not turn back. -/
  names (hpath : store.directory ≠ []) (hback : ¬ store.disk.TurnsBack store.directory) :
    ∃ l, store.names = .ok l ∧ after.names = .ok (ascending (b.name :: l))

section
variable {store after : FileStore} {b : Blueprint} {disk : FileSystem} {name : String}

theorem Keeps.of_sameAnswers (h : after.SameAnswers store) : store.Keeps after :=
  ⟨.inl h.1, fun name => .inl (h.2 name)⟩

/-- In a tree, a directory that is missing holds no file, if its path does not turn back. -/
theorem entryAt?_route_of_missing (htree : store.disk.IsTree)
    (hback : ¬ store.disk.TurnsBack store.directory)
    (hmissing : store.disk.find store.directory = .error .notFound) (name : String) :
    store.disk.entryAt? (store.route name) = none :=
  htree.entryAt?_append_eq_none (htree.entryAt?_of_missing hback hmissing) [fileName name]

/-- Where the path of the directory turns back, nothing is said of a name that had no blueprint. -/
theorem keptAlong_get_of_turnsBack (hback : store.disk.TurnsBack store.directory) :
    KeptAlong store (store.way name) none (store.get name) (after.get name) := by
  by_cases hvalid : isValidName name = true
  · exact .inr ⟨hback.missing, get_of_missing hback.missing hvalid, .inl hback⟩
  · rw [get_of_not_isValidName hvalid, get_of_not_isValidName hvalid]
    exact .inl rfl

/-- The answer for a name without a file once the directory is there. -/
theorem keptAlong_get_of_made (hmissing : store.disk.find store.directory = .error .notFound)
    (hfind : after.disk.find after.directory = .ok .directory)
    (hnone : after.disk.entryAt? (after.route name) = none) :
    KeptAlong store (store.way name) none (store.get name) (after.get name) := by
  by_cases hvalid : isValidName name = true
  case neg =>
    rw [get_of_not_isValidName hvalid, get_of_not_isValidName hvalid]
    exact .inl rfl
  rw [get_of_missing hmissing hvalid, get_of_isValidName hvalid, hfind, hnone]
  dsimp only
  by_cases hlong : longestName < (fileName name).utf8ByteSize
  · rw [if_pos hlong]
    exact .inr ⟨hmissing, rfl, .inr ⟨FileSystem.isTooLong_concat _ hlong, rfl⟩⟩
  · rw [if_neg hlong]
    exact .inl rfl

/-! ## Before the file has its name -/

/-- A file system that differs from that of a store by directories on the way to its directory, if
that was missing, and by the temporary file of a blueprint. -/
structure Grown (store : FileStore) (b : Blueprint) (disk : FileSystem) : Prop where
  entry (q : Route) (hq : q ≠ store.temporaryRoute b.name) :
    disk.entryAt? q = store.disk.entryAt? q ∨
      (store.disk.find store.directory = .error .notFound ∧ store.disk.entryAt? q = none ∧
        disk.entryAt? q = some .directory ∧
        ∃ front : Way, front <+: store.directory ∧ q = front.route ∧
          store.disk.find front = .error .notFound)
  /-- The temporary file takes the place of no directory. -/
  temporary (h : store.disk.entryAt? (store.temporaryRoute b.name) = some .directory) :
    disk.entryAt? (store.temporaryRoute b.name) = some .directory
  /-- Nothing is done if the way to the directory is barred. -/
  barred (hmissing : store.disk.find store.directory ≠ .error .notFound)
    (hthere : store.disk.find store.directory ≠ .ok .directory) : disk = store.disk

theorem Grown.refl (store : FileStore) (b : Blueprint) : Grown store b store.disk :=
  ⟨fun _ _ => .inl rfl, id, fun _ _ => rfl⟩

/-- A directory that was there is there. -/
theorem Grown.entryAt?_of_directory (h : Grown store b disk) {q : Route}
    (hq : store.disk.entryAt? q = some .directory) : disk.entryAt? q = some .directory := by
  by_cases htemporary : q = store.temporaryRoute b.name
  · subst htemporary
    exact h.temporary hq
  · exact (h.entry q htemporary).elim (fun hsame => hsame.trans hq) fun hmade => hmade.2.2.1

theorem Grown.find_of_directory (h : Grown store b disk) {way : Way}
    (hthere : store.disk.find way = .ok .directory) : disk.find way = .ok .directory :=
  FileSystem.find_directory_mono (fun _ => h.entryAt?_of_directory) hthere

/-- No directories are made on the way to one that was not missing. -/
theorem Grown.makeDirectories_eq (h : Grown store b disk) {front : Way}
    (hfront : front <+: store.directory)
    (hmissing : store.disk.find store.directory ≠ .error .notFound) :
    (FileSystem.makeDirectories front disk).2 = disk := by
  refine FileSystem.makeDirectories_prefix_of_not_missing hfront ?_
  by_cases hthere : store.disk.find store.directory = .ok .directory
  · rw [h.find_of_directory hthere]
    exact nofun
  · rwa [h.barred hmissing hthere]

theorem Grown.makeDirectories (h : Grown store b disk) {front : Way}
    (hfront : front <+: store.directory) :
    Grown store b (FileSystem.makeDirectories front disk).2 := by
  by_cases hmissing : store.disk.find store.directory = .error .notFound
  case neg => rwa [h.makeDirectories_eq hfront hmissing]
  constructor
  case entry =>
    intro q hq
    rcases FileSystem.entryAt?_makeDirectories disk front q with
      hsame | ⟨hnone, hsome, front', hfront', hq', hmissing'⟩
    · rw [hsame]
      exact h.entry q hq
    · rcases h.entry q hq with hbefore | ⟨_, _, hdirectory, _⟩
      · have hway := hfront'.trans hfront
        refine .inr ⟨hmissing, hbefore.symm.trans hnone, hsome, front', hway, hq', ?_⟩
        -- What is missing now was missing before.
        refine (FileSystem.find_prefix_of_missing hway hmissing).resolve_right fun hthere => ?_
        rw [h.find_of_directory hthere] at hmissing'
        cases hmissing'
      · rw [hnone] at hdirectory
        cases hdirectory
  case temporary =>
    exact fun hbefore =>
      FileSystem.entryAt?_makeBelow_of_directory [] front (h.temporary hbefore)
  case barred => exact fun hne => absurd hmissing hne

theorem Grown.write (h : Grown store b disk) (text : String) :
    Grown store b (FileSystem.write store.directory (temporaryName b.name) text disk).2 := by
  rcases FileSystem.write_snd (isName_temporaryName b.name) text disk with
    hsame | ⟨hthere, hfree, hinsert⟩
  · rwa [hsame]
  rw [hinsert]
  rw [← temporaryRoute] at hfree ⊢
  constructor
  case entry =>
    intro q hq
    rw [FileSystem.entryAt?_insert_of_ne hq]
    exact h.entry q hq
  case temporary => exact fun hbefore => absurd (h.temporary hbefore) hfree
  case barred =>
    intro hmissing hbarred
    rw [h.barred hmissing hbarred] at hthere
    exact absurd hthere hbarred

/-! ### Runs of steps -/

theorem step_snd (change : FileSystem.Change IoError) (disk : FileSystem) :
    (step change disk).2 = (change disk).2 := by
  rw [step]
  split <;> next h => rw [h]

theorem checkName_snd (name : String) (disk : FileSystem) : (checkName name disk).2 = disk := by
  rw [checkName]
  split <;> rfl

section
variable {P : FileSystem → Prop} {steps : List (FileSystem.Change StoreError)}
  {last : FileSystem.Change StoreError}

/-- What every step keeps, a run of steps keeps, also one that fails. -/
theorem runSteps_keeps (hstep : ∀ s ∈ steps, ∀ disk, P disk → P (s disk).2) (h : P disk) :
    P (runSteps steps disk).2 := by
  induction steps generalizing disk with
  | nil => exact h
  | cons s rest ih =>
    obtain ⟨hs, hrest⟩ := List.forall_mem_cons.1 hstep
    have hnext := hs disk h
    rw [runSteps]
    split
    · next hanswer =>
      rw [hanswer] at hnext
      exact ih hrest hnext
    · next hanswer => rwa [hanswer] at hnext

/-- The last step of a run may keep less, if the run fails. -/
theorem runSteps_concat_keeps (hlast : ∀ disk, P disk → (last disk).1 ≠ .ok () → P (last disk).2)
    (hstep : ∀ s ∈ steps, ∀ disk, P disk → P (s disk).2) (h : P disk)
    (hfail : (runSteps (steps ++ [last]) disk).1 ≠ .ok ()) :
    P (runSteps (steps ++ [last]) disk).2 := by
  induction steps generalizing disk with
  | nil =>
    have hnext := hlast disk h
    rw [List.nil_append, runSteps] at *
    split
    · next hanswer =>
      rw [hanswer] at hfail
      exact absurd rfl hfail
    · next hanswer =>
      rw [hanswer] at hnext
      exact hnext fun hok => by cases hok
  | cons s rest ih =>
    obtain ⟨hs, hrest⟩ := List.forall_mem_cons.1 hstep
    have hnext := hs disk h
    rw [List.cons_append, runSteps] at *
    split
    · next hanswer =>
      rw [hanswer] at hnext hfail
      exact ih hrest hnext hfail
    · next hanswer => rwa [hanswer] at hnext

end

/-- The steps before the last one only make directories and write the temporary file. -/
theorem grown_of_mem_putSteps {s : FileSystem.Change StoreError}
    (hs : s ∈ (putSteps store.directory b).take 3) (h : Grown store b disk) :
    Grown store b (s disk).2 := by
  simp only [putSteps, List.take_succ_cons, List.take_zero, List.mem_cons, List.not_mem_nil,
    or_false] at hs
  rcases hs with rfl | rfl | rfl
  · rwa [checkName_snd]
  · rw [step_snd]
    exact h.makeDirectories List.prefix_rfl
  · rw [step_snd]
    exact h.write b.toText

/-- Nor does the last one do more if it fails. -/
theorem Grown.rename (h : Grown store b disk)
    (hfail : (step (FileSystem.rename store.directory (temporaryName b.name) (fileName b.name))
      disk).1 ≠ .ok ()) :
    Grown store b (step (FileSystem.rename store.directory (temporaryName b.name)
      (fileName b.name)) disk).2 := by
  rw [step_snd, FileSystem.rename_of_error]
  · exact h
  · intro hok
    rw [step] at hfail
    split at hfail
    · exact hfail rfl
    · next herror =>
      rw [herror] at hok
      cases hok

/-- As long as the file does not get its name, putting a blueprint makes directories and writes a
temporary file at most. -/
theorem grown_putFor {k : Nat} (h : ¬ (4 ≤ k ∧ (putFor k store b).1 = .ok ())) :
    Grown store b (putFor k store b).2.disk := by
  have hstart := Grown.refl store b
  by_cases hk : 4 ≤ k
  · have hfail : (store.put b).1 ≠ .ok () := fun hok => h ⟨hk, putFor_of_le hk store b ▸ hok⟩
    have hsteps : putSteps store.directory b = (putSteps store.directory b).take 3 ++
        [step (FileSystem.rename store.directory (temporaryName b.name) (fileName b.name))] := rfl
    rw [putFor_of_le hk]
    rw [put, hsteps] at *
    exact runSteps_concat_keeps (fun _ => Grown.rename) (fun _ hs _ => grown_of_mem_putSteps hs)
      hstart hfail
  · have hsteps : (putSteps store.directory b).take k =
        ((putSteps store.directory b).take 3).take k := by
      rw [List.take_take, Nat.min_eq_left (by omega)]
    rw [putFor, hsteps]
    exact runSteps_keeps (fun _ hs _ => grown_of_mem_putSteps (List.mem_of_mem_take hs)) hstart

theorem StopsAt.grown (h : StopsAt store b false after) :
    after.directory = store.directory ∧ Grown store b after.disk := by
  generalize hrenamed : false = renamed at h
  cases h with
  | steps k => exact ⟨rfl, grown_putFor (of_decide_eq_false hrenamed.symm)⟩
  | making _ k => exact ⟨rfl, (Grown.refl store b).makeDirectories (List.take_prefix k _)⟩
  | writing _ _ text =>
    exact ⟨rfl, ((Grown.refl store b).makeDirectories List.prefix_rfl).write text⟩

/-- The temporary file is not on the way to a directory that was missing. -/
theorem Grown.moreDirectories (htree : store.disk.IsTree)
    (hback : ¬ store.disk.TurnsBack store.directory)
    (hmissing : store.disk.find store.directory = .error .notFound) (h : Grown store b disk) :
    FileSystem.MoreDirectories store.directory store.disk disk := by
  intro front hfront
  rcases FileSystem.find_prefix_of_missing hfront hmissing with hfind | hfind
  · have hne : front.route ≠ store.temporaryRoute b.name :=
      FileSystem.route_ne_concat_of_missing hback hfront hfind (temporaryName b.name)
    exact (h.entry _ hne).imp_right fun hmade => ⟨hmade.2.1, hmade.2.2.1⟩
  · have hthere := htree.entryAt?_of_find hfind
    exact .inl ((h.entryAt?_of_directory hthere).trans hthere.symm)

/-- Making directories does not touch the files in the directory, if its path does not turn back. -/
theorem Grown.entry_route (hback : ¬ store.disk.TurnsBack store.directory) (h : Grown store b disk)
    (name : String) :
    disk.entryAt? (store.route name) = store.disk.entryAt? (store.route name) :=
  (h.entry _ (route_ne_temporaryRoute store name b.name)).elim id
    fun ⟨_, _, _, _, hfront, hq, hmissing⟩ =>
      absurd hq.symm (FileSystem.route_ne_concat_of_missing hback hfront hmissing (fileName name))

/-- More directories and a temporary file are not seen, unless the directory was missing. -/
theorem Grown.keeps (htree : store.disk.IsTree) (hdirectory : after.directory = store.directory)
    (h : Grown store b after.disk) : store.Keeps after := by
  by_cases hmissing : store.disk.find store.directory = .error .notFound
  case neg =>
    -- The directory leads where it led, since it was there or nothing was done.
    have hfind : after.disk.find after.directory = store.disk.find store.directory := by
      rw [hdirectory]
      by_cases hthere : store.disk.find store.directory = .ok .directory
      · rw [hthere, h.find_of_directory hthere]
      · rw [h.barred hmissing hthere]
    refine .of_sameAnswers (sameAnswers_of_entries hdirectory hfind fun name _ => ?_)
    rw [route, hdirectory]
    exact h.entry_route (fun hback => hmissing hback.missing) name
  by_cases hback : store.disk.TurnsBack store.directory
  · exact ⟨.inr ⟨hmissing, names_of_missing hmissing, .inl hback⟩,
      fun _ => keptAlong_get_of_turnsBack hback⟩
  have hnone (name : String) : after.disk.entryAt? (after.route name) = none := by
    rw [route, hdirectory, ← route, h.entry_route hback name]
    exact entryAt?_route_of_missing htree hback hmissing name
  have hfind := (h.moreDirectories htree hback hmissing).find_of_missing htree hback hmissing
  rw [← hdirectory] at hfind
  rcases hfind with hfind | hfind | ⟨hlong, hfind⟩
  · exact .of_sameAnswers (sameAnswers_of_missing hfind hmissing)
  · refine ⟨.inl ?_, fun name => keptAlong_get_of_made hmissing hfind (hnone name)⟩
    have hpath : after.directory ≠ [] :=
      hdirectory ▸ directory_ne_nil fun hthere => by cases hmissing.symm.trans hthere
    obtain ⟨l, hl, -, hmem⟩ := exists_names_of_directory hpath hfind
    have hnil : l = [] := List.eq_nil_iff_forall_not_mem.2 fun name hname => by
      have hsome := ((hmem name).1 hname).2
      rw [hnone name] at hsome
      cases hsome
    rw [names_of_missing hmissing, hl, hnil]
  · rw [hdirectory] at hlong
    constructor
    case names =>
      refine .inr ⟨hmissing, names_of_missing hmissing, .inr ⟨hlong, ?_⟩⟩
      rw [names_of_not_directory (fun hthere => by cases hfind.symm.trans hthere), hfind]
    case get =>
      intro name
      by_cases hvalid : isValidName name = true
      · refine .inr ⟨hmissing, get_of_missing hmissing hvalid, .inr ⟨hlong.append _, ?_⟩⟩
        rw [get_of_isValidName hvalid, hfind]
      · rw [get_of_not_isValidName hvalid, get_of_not_isValidName hvalid]
        exact .inl rfl

/-! ## Once the file has its name -/

/-- A blueprint is put into a directory that was there or was missing. -/
theorem find_of_put (h : store.put b = (.ok (), after)) :
    store.disk.find store.directory = .ok .directory ∨
      store.disk.find store.directory = .error .notFound := by
  by_cases hmissing : store.disk.find store.directory = .error .notFound
  · exact .inr hmissing
  · have houtcome := putOutcome store b
    rw [h] at houtcome
    cases houtcome with
    | stored _ hmake _ _ _ =>
      have hfind : store.made.find store.directory = .ok .directory :=
        FileSystem.find_makeDirectories hmake
      rw [made_of_not_missing hmissing] at hfind
      exact .inl hfind

theorem Holds.keptAlong_get (htree : store.disk.IsTree) (h : Holds store b after)
    (hbefore : store.disk.find store.directory = .ok .directory ∨
      store.disk.find store.directory = .error .notFound) (hname : name ≠ b.name) :
    KeptAlong store (store.way name) none (store.get name) (after.get name) := by
  have hfind : after.disk.find after.directory = .ok .directory := h.directory ▸ h.find
  have hentry := h.entry_route name
  rw [if_neg hname] at hentry
  rcases hbefore with hthere | hmissing
  · rw [made_of_not_missing (hthere ▸ nofun)] at hentry
    exact .inl (get_eq_of_entry (hfind.trans hthere.symm) fun _ => hentry)
  · by_cases hback : store.disk.TurnsBack store.directory
    · exact keptAlong_get_of_turnsBack hback
    · refine keptAlong_get_of_made hmissing hfind (hentry.trans ?_)
      rw [route, entryAt?_made hback]
      exact entryAt?_route_of_missing htree hback hmissing name

/-- The names after a blueprint has been put are those before and the blueprint's. -/
theorem Holds.names (htree : store.disk.IsTree) (h : Holds store b after)
    (hbefore : store.disk.find store.directory = .ok .directory ∨
      store.disk.find store.directory = .error .notFound)
    (hpath : store.directory ≠ []) (hback : ¬ store.disk.TurnsBack store.directory) :
    ∃ l, store.names = .ok l ∧ after.names = .ok (ascending (b.name :: l)) := by
  have hold : ∃ l, store.names = .ok l ∧ ∀ name, name ∈ l ↔
      isValidName name = true ∧ (store.disk.entryAt? (store.route name)).isSome = true := by
    rcases hbefore with hthere | hmissing
    · obtain ⟨l, hl, -, hmem⟩ := exists_names_of_directory hpath hthere
      exact ⟨l, hl, hmem⟩
    · refine ⟨[], names_of_missing hmissing, fun name => ?_⟩
      rw [entryAt?_route_of_missing htree hback hmissing]
      exact ⟨nofun, nofun⟩
  obtain ⟨l, hl, hmem⟩ := hold
  obtain ⟨l', hl', hsorted, hmem'⟩ :=
    exists_names_of_directory (h.directory.symm ▸ hpath) (h.directory.symm ▸ h.find)
  refine ⟨l, hl, hl'.trans (congrArg Except.ok ?_)⟩
  refine eq_of_pairwise_lt hsorted (pairwise_ascending _) fun name => ?_
  rw [mem_ascending, List.mem_cons, hmem, hmem', h.entry_route]
  by_cases hname : name = b.name
  · rw [if_pos hname, hname]
    exact ⟨fun _ => .inl rfl, fun _ => ⟨h.valid, rfl⟩⟩
  · rw [if_neg hname, route, entryAt?_made hback]
    exact ⟨.inr, fun hor => hor.resolve_left hname⟩

theorem replaces_of_put (htree : store.disk.IsTree) (h : store.put b = (.ok (), after)) :
    store.Replaces b after := by
  have hholds := holds_of_put h
  have hbefore := find_of_put h
  exact ⟨hholds.get_self, fun _ hname => hholds.keptAlong_get htree hbefore hname,
    hholds.names htree hbefore⟩

theorem StopsAt.put_eq (h : StopsAt store b true after) : store.put b = (.ok (), after) := by
  generalize hrenamed : true = renamed at h
  cases h with
  | steps k =>
    obtain ⟨hk, hok⟩ := of_decide_eq_true hrenamed.symm
    rw [putFor_of_le hk] at *
    exact Prod.ext hok rfl
  | making _ _ => cases hrenamed
  | writing _ _ _ => cases hrenamed

/-- **Putting a blueprint is all or nothing.** Wherever the putting of a blueprint stops, and
whatever is in the files of the store: if the file did not get its name, the registered names and
the answers for all names are kept; if it did, the blueprint's name answers what the text of the
blueprint says, all other names are kept, and the registered names of a directory that has a path
which does not turn back are the old ones and the blueprint's. -/
theorem put_is_all_or_nothing {renamed : Bool} (htree : store.disk.IsTree)
    (hstop : StopsAt store b renamed after) :
    (renamed = false → store.Keeps after) ∧ (renamed = true → store.Replaces b after) := by
  constructor
  · rintro rfl
    exact hstop.grown.2.keeps htree hstop.grown.1
  · rintro rfl
    exact replaces_of_put htree hstop.put_eq

/-- Half of a temporary file is left over and a directory has the name of a blueprint's file. One
blueprint can be put there, the other one fails at the last step. -/
theorem put_is_all_or_nothing_left_over :
    let store : FileStore := ⟨["d"], ⟨[(["d", "a.json.tmp"], .file "half"),
      (["d", "b.json"], .directory), (["d"], .directory)]⟩⟩
    let a : Blueprint := ⟨"a", ⟨.root, none, none, none, [], none⟩⟩
    let b : Blueprint := ⟨"b", ⟨.root, none, none, none, [], none⟩⟩
    store.disk.IsTree ∧ StopsAt store a true (store.put a).2 ∧
      StopsAt store b false (store.put b).2 ∧
      (store.put b).1 = .error (.io .isADirectory) ∧
      store.Replaces a (store.put a).2 ∧ store.Keeps (store.put b).2 := by
  intro store a b
  have htree : store.disk.IsTree := by decide
  have hfail : (store.put b).1 = .error (.io .isADirectory) := by decide +kernel
  have ha : StopsAt store a true (store.put a).2 := .of_put (by decide +kernel)
  have hb : StopsAt store b false (store.put b).2 := .of_put_error hfail
  exact ⟨htree, ha, hb, hfail, (put_is_all_or_nothing htree ha).2 rfl,
    (put_is_all_or_nothing htree hb).1 rfl⟩

/-- A name that is too long for a file is refused once the directory is there. -/
theorem refused_of_too_long (hvalid : isValidName b.name = true)
    (hlong : longestName < (fileName b.name).utf8ByteSize)
    (hmake : (FileSystem.makeDirectories store.directory store.disk).1 = .ok ()) :
    (store.put b).1 = .error (.io .nameTooLong) ∧
      (store.put b).2.get b.name = .error (.io .nameTooLong) := by
  have hfind : store.made.find store.directory = .ok .directory :=
    FileSystem.find_makeDirectories hmake
  have htemporary : longestName < (temporaryName b.name).utf8ByteSize := by
    rw [utf8ByteSize_temporaryName]
    exact Nat.lt_add_right 4 hlong
  rw [put_of_made hvalid hmake, if_pos htemporary]
  refine ⟨rfl, ?_⟩
  rw [get_of_isValidName hvalid, hfind]
  exact if_pos hlong

/-- A blueprint whose temporary file has a name that is too long is not put into a directory that
was missing, and its name, which answered that there is nothing, is refused from then on. -/
theorem refused_name_after_failed_put :
    let name := String.ofList (List.replicate 251 'a')
    let store : FileStore := ⟨["d"], {}⟩
    let b : Blueprint := ⟨name, ⟨.root, none, none, none, [], none⟩⟩
    store.disk.IsTree ∧ StopsAt store b false (store.put b).2 ∧
      (store.put b).1 = .error (.io .nameTooLong) ∧ store.get name = .ok none ∧
      (store.put b).2.get name = .error (.io .nameTooLong) := by
  intro name store b
  have hvalid : isValidName name = true := by
    rw [isValidName, String.toList_ofList, List.all_replicate]
    decide +kernel
  have hlong : longestName < (fileName name).utf8ByteSize := by decide +kernel
  have hmissing : store.disk.find store.directory = .error .notFound := by decide
  have hmake : (FileSystem.makeDirectories store.directory store.disk).1 = .ok () := by decide
  obtain ⟨hput, hget⟩ := refused_of_too_long (b := b) hvalid hlong hmake
  exact ⟨by decide, .of_put_error hput, hput, get_of_missing hmissing hvalid, hget⟩

end

end FileStore

end Stencil
