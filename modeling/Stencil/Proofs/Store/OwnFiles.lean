import Stencil.Proofs.Store.Atomicity

/-!
# The files of a name

Putting a blueprint and removing a name change the two files of the name. Besides these, putting
makes the directories that are missing on the way to the store's (`entryAt?_put_of_not_isFileOf`),
and removing does nothing (`FileSystem.entryAt?_remove_of_ne`). The files are in the directory
itself, since a valid name is no path (`isPathPart_append`), and different names share none of them
(`IsFileOf.name_eq`). So the other names answer as before. The exception are the names that a
missing directory hides: those whose files cannot be, because a name on the path to them is too
long, which shows once the directory is there (`get_of_hides`); and all of them, if the path of the
directory turns back, since it can come to files that are there.

The directory of the store can be told by any path, also by the empty one.
-/

namespace Stencil

namespace FileStore

open FileSystem (longestName IsTooLong)

section
variable {store after : FileStore} {a b : String} {blueprint : Blueprint} {name : String}

/-! ## Files of names -/

/-- The routes to the files of a name: the one that is read and the one that is written first. -/
def IsFileOf (store : FileStore) (name : String) (q : Route) : Prop :=
  q = store.route name ∨ q = store.temporaryRoute name

/-- Different names share no file. -/
theorem IsFileOf.name_eq {q : Route} (ha : store.IsFileOf a q) (hb : store.IsFileOf b q) :
    a = b := by
  rcases ha with rfl | rfl
  · rcases hb with h | h
    · exact fileName_inj.1 (FileSystem.concat_inj.1 h)
    · exact absurd (FileSystem.concat_inj.1 h) (fileName_ne_temporaryName a b)
  · rcases hb with h | h
    · exact absurd (FileSystem.concat_inj.1 h).symm (fileName_ne_temporaryName b a)
    · exact temporaryName_inj.1 (FileSystem.concat_inj.1 h)

/-- A text that is one part of a path and stands for an entry there. -/
def IsPathPart (x : String) : Prop := '/' ∉ x.toList ∧ x ≠ "" ∧ x ≠ "." ∧ x ≠ ".."

/-- A valid name leads nowhere else, whatever extension is put behind it. -/
theorem isPathPart_append (hvalid : isValidName name = true) {ext : String}
    (hslash : '/' ∉ ext.toList) (hlength : 2 < ext.toList.length) : IsPathPart (name ++ ext) := by
  have hname : '/' ∉ name.toList := by
    simp only [isValidName, Bool.and_eq_true, List.all_eq_true] at hvalid
    exact fun hmem => absurd (hvalid.1.1.1 _ hmem) (by decide)
  have hlong (x : String) (hx : x.toList.length ≤ 2) : name ++ ext ≠ x := by
    rintro rfl
    rw [String.toList_append, List.length_append] at hx
    omega
  refine ⟨?_, hlong "" (by decide), hlong "." (by decide), hlong ".." (by decide)⟩
  rw [String.toList_append, List.mem_append]
  exact fun h => h.elim hname hslash

/-! ## Putting -/

/-- Putting a blueprint changes its files, and makes directories on the way to the store's. -/
theorem entryAt?_put_of_not_isFileOf {q : Route} (hq : ¬ store.IsFileOf blueprint.name q) :
    (store.put blueprint).2.disk.entryAt? q = store.disk.entryAt? q ∨
      (store.disk.entryAt? q = none ∧
        (store.put blueprint).2.disk.entryAt? q = some .directory ∧
        ∃ front : Way, front <+: store.directory ∧ q = front.route ∧
          store.disk.find front = .error .notFound) := by
  obtain ⟨hfile, htemporary⟩ := not_or.1 hq
  have hmade := FileSystem.entryAt?_makeDirectories store.disk store.directory q
  have houtcome := putOutcome store blueprint
  generalize store.put blueprint = p at houtcome
  cases houtcome with
  | invalid _ => exact .inl rfl
  | unmade _ _ | tooLong _ _ _ | unwritten _ _ _ => exact hmade
  | unnamed _ _ _ _ =>
    rw [FileSystem.entryAt?_insert_of_ne htemporary]
    exact hmade
  | stored _ _ _ _ _ =>
    rw [FileSystem.entryAt?_insert_of_ne hfile, FileSystem.entryAt?_erase_of_ne htemporary,
      FileSystem.entryAt?_insert_of_ne htemporary]
    exact hmade

theorem keptAlong_get_put (htree : store.disk.IsTree) (hname : name ≠ blueprint.name) :
    KeptAlong store (store.way name) none (store.get name)
      ((store.put blueprint).2.get name) := by
  cases hanswer : (store.put blueprint).1 with
  | error e =>
    have hgrown := (StopsAt.of_put_error hanswer).grown
    exact (hgrown.2.keeps htree hgrown.1).get name
  | ok u => exact (replaces_of_put htree (Prod.ext hanswer rfl)).get name hname

/-- The directory is missing, so that it is not seen that a name on the path to the file of a name
is too long, or what there is where the path of the directory turns back to. -/
def Hides (store : FileStore) (name : String) : Prop :=
  store.disk.find store.directory = .error .notFound ∧
    (store.disk.TurnsBack store.directory ∨ IsTooLong (store.way name))

/-- A name that is hidden has no blueprint, and it is refused once the directory is not missing any
more, if the directory's path does not turn back. -/
theorem get_of_hides (htree : store.disk.IsTree) (hput : isValidName blueprint.name = true)
    (hvalid : isValidName name = true) (h : store.Hides name) :
    store.get name = .ok none ∧
      (¬ store.disk.TurnsBack store.directory →
        (store.put blueprint).2.disk.find store.directory ≠ .error .notFound →
        (store.put blueprint).2.get name = .error (.io .nameTooLong)) := by
  obtain ⟨hmissing, hhides⟩ := h
  refine ⟨get_of_missing hmissing hvalid, fun hback hfound => ?_⟩
  obtain ⟨x, hx, hlong⟩ := hhides.resolve_left hback
  have hfind : (store.put blueprint).2.disk.find (store.put blueprint).2.directory =
      store.made.find store.directory := find_put hput
  rw [find_put hput] at hfound
  rw [get_of_isValidName hvalid, hfind]
  rcases FileSystem.makeDirectories_of_missing htree hback hmissing with hmade | hmade | hmade
  · rw [made, hmade]
    -- The directory could be followed, so it is the name of the file that is too long.
    rcases List.mem_append.1 hx with hx | hx
    · exact absurd ⟨x, hx, hlong⟩ (FileSystem.not_isTooLong_of_find hmade)
    · rw [List.mem_singleton.1 hx] at hlong
      exact if_pos hlong
  · rw [made, hmade]
  · exact absurd hmade hfound

/-- What putting a blueprint leaves of a store, apart from the files of the blueprint. -/
structure PutSpares (store : FileStore) (blueprint : Blueprint) (after : FileStore) : Prop where
  directory : after.directory = store.directory
  entry (q : Route) (hq : ¬ store.IsFileOf blueprint.name q) :
    after.disk.entryAt? q = store.disk.entryAt? q ∨
      (store.disk.entryAt? q = none ∧ after.disk.entryAt? q = some .directory ∧
        ∃ front : Way, front <+: store.directory ∧ q = front.route ∧
          store.disk.find front = .error .notFound)
  get (name : String) (hname : name ≠ blueprint.name) (hseen : ¬ store.Hides name) :
    after.get name = store.get name
  get_of_hides (name : String) (hvalid : isValidName name = true) (h : store.Hides name) :
    store.get name = .ok none ∧
      (¬ store.disk.TurnsBack store.directory →
        after.disk.find store.directory ≠ .error .notFound →
        after.get name = .error (.io .nameTooLong))

theorem putSpares (htree : store.disk.IsTree) (hvalid : isValidName blueprint.name = true) :
    PutSpares store blueprint (store.put blueprint).2 where
  directory := rfl
  entry _ hq := entryAt?_put_of_not_isFileOf hq
  get _ hname hseen :=
    (keptAlong_get_put htree hname).elim id fun h =>
      absurd ⟨h.1, h.2.2.imp_right And.left⟩ hseen
  get_of_hides _ hname h := FileStore.get_of_hides htree hvalid hname h

/-! ## Removing -/

/-- What removing a name leaves of a store, apart from the file of the name. -/
structure RemoveSpares (store : FileStore) (name : String) (after : FileStore) : Prop where
  directory : after.directory = store.directory
  entry (q : Route) (hq : q ≠ store.route name) : after.disk.entryAt? q = store.disk.entryAt? q
  get (other : String) (hother : other ≠ name) : after.get other = store.get other

theorem removeSpares (hvalid : isValidName name = true) :
    RemoveSpares store name (store.remove name).2 := by
  rw [remove_snd hvalid]
  have hentry (q : Route) (hq : q ≠ store.route name) :
      (FileSystem.remove (store.way name) store.disk).2.entryAt? q = store.disk.entryAt? q :=
    FileSystem.entryAt?_remove_of_ne (hq.trans_eq (route_eq store name)) store.disk
  refine ⟨rfl, hentry, fun other hother => get_eq_of_entry ?_ fun _ => hentry _ ?_⟩
  · exact FileSystem.find_remove_concat (isName_fileName name) store.disk store.directory
  · exact fun h => hother (fileName_inj.1 (FileSystem.concat_inj.1 h))

/-! ## All operations -/

/-- **Operations touch the files of their name only.** Whatever path tells the directory of a store,
putting a blueprint changes no entry but its two files, and makes directories on the way to the
store's where nothing was; removing a name changes no entry but its file; both also when they fail.
The files of a valid name are in the directory itself, and different names share none. So all other
names answer as before, except, after putting into a directory that was missing, those with a name
on the path to their file that is too long, and except where the path of the directory turns back
behind what is missing. A name that is not valid is refused and changes nothing. -/
theorem operations_touch_own_files (htree : store.disk.IsTree) :
    (∀ blueprint : Blueprint, isValidName blueprint.name = true →
      PutSpares store blueprint (store.put blueprint).2) ∧
    (∀ name, isValidName name = true → RemoveSpares store name (store.remove name).2) ∧
    (∀ name, isValidName name = true →
      IsPathPart (fileName name) ∧ IsPathPart (temporaryName name)) ∧
    (∀ a b q, store.IsFileOf a q → store.IsFileOf b q → a = b) ∧
    ∀ name, isValidName name = false →
      (∀ blueprint : Blueprint, blueprint.name = name →
        store.put blueprint = (.error (.invalidName name), store)) ∧
      store.get name = .error (.invalidName name) ∧
      store.remove name = (.error (.invalidName name), store) := by
  refine ⟨fun _ => putSpares htree, fun _ => removeSpares, fun name hvalid => ?_,
    fun _ _ _ => IsFileOf.name_eq, fun name hinvalid => ?_⟩
  · exact ⟨isPathPart_append hvalid (by decide) (by decide),
      isPathPart_append hvalid (by decide) (by decide)⟩
  · have hinvalid : ¬ isValidName name = true := Bool.eq_false_iff.1 hinvalid
    refine ⟨?_, get_of_not_isValidName hinvalid, remove_of_not_isValidName hinvalid⟩
    rintro blueprint rfl
    exact put_of_not_isValidName hinvalid

/-- Names that end like files, with left-over files. One name's file is the temporary file of
another one but for the extension, and a directory has it, so putting fails there. -/
theorem operations_touch_own_files_dotted :
    let store : FileStore := ⟨["d"], ⟨[(["d", "a.json"], .file "old"),
      (["d", "a.json.tmp"], .file "half"), (["d", "a.json.json"], .file "other"),
      (["d", "a.json.tmp.json"], .directory), (["d"], .directory)]⟩⟩
    let a : Blueprint := ⟨"a", ⟨.root, none, none, none, [], none⟩⟩
    let b : Blueprint := ⟨"a.json.tmp", ⟨.root, none, none, none, [], none⟩⟩
    store.disk.IsTree ∧ (store.put a).1 = .ok () ∧
      (store.put b).1 = .error (.io .isADirectory) ∧
      (store.remove a.name).1 = .ok true ∧
      PutSpares store a (store.put a).2 ∧ PutSpares store b (store.put b).2 ∧
      RemoveSpares store a.name (store.remove a.name).2 := by
  intro store a b
  have htree : store.disk.IsTree := by decide
  obtain ⟨hput, hremove, -⟩ := operations_touch_own_files htree
  exact ⟨htree, by decide +kernel, by decide +kernel, by decide +kernel, hput a (by decide),
    hput b (by decide), hremove a.name (by decide)⟩

/-- A blueprint is put into a directory that was missing, and another name, which answered that
there is nothing, is refused from then on. -/
theorem other_name_refused_after_put :
    let name := String.ofList (List.replicate 251 'a')
    let store : FileStore := ⟨["d"], {}⟩
    let a : Blueprint := ⟨"a", ⟨.root, none, none, none, [], none⟩⟩
    store.disk.IsTree ∧ isValidName a.name = true ∧ isValidName name = true ∧ name ≠ a.name ∧
      (store.put a).1 = .ok () ∧ store.get name = .ok none ∧
      (store.put a).2.get name = .error (.io .nameTooLong) := by
  intro name store a
  have htree : store.disk.IsTree := by decide
  have ha : isValidName a.name = true := by decide
  have hvalid : isValidName name = true := isValidName_replicate (by decide)
  have hlong : longestName < (fileName name).utf8ByteSize := by decide +kernel
  have hhides : store.Hides name := ⟨by decide, .inr (FileSystem.isTooLong_concat _ hlong)⟩
  have hfound : (store.put a).2.disk.find store.directory ≠ .error .notFound := by decide +kernel
  obtain ⟨hbefore, hafter⟩ := get_of_hides htree ha hvalid hhides
  exact ⟨htree, ha, hvalid, by decide +kernel, by decide +kernel, hbefore,
    hafter (FileSystem.not_turnsBack (by decide)) hfound⟩

/-- The path of a directory turns back behind a name that is missing. Once a blueprint is put there,
the entry of another name is found that was there before. -/
example :
    let store : FileStore := ⟨["m", ".."], ⟨[(["a.json"], .directory)]⟩⟩
    let b : Blueprint := ⟨"b", ⟨.root, none, none, none, [], none⟩⟩
    store.disk.IsTree ∧ store.disk.TurnsBack store.directory ∧ store.get "a" = .ok none ∧
      (store.put b).1 = .ok () ∧ (store.put b).2.get "a" = .error (.io .isADirectory) := by
  decide +kernel

end

end FileStore

end Stencil
