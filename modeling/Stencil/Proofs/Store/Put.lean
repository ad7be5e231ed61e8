import Stencil.Proofs.FileSystem.Files
import Stencil.Proofs.Store.Answers

/-!
# Putting blueprints into a directory

A blueprint is put in four steps, and each of them can fail. Once the directory is there, the
outcome is told by the entries at the two files of the blueprint (`put_of_made`, `putOutcome`). A
blueprint that was put is in its file, the temporary file is gone and every other entry of the
directory is as making it left it (`holds_of_put`). If putting fails and the directory was not
missing, no answer of the store changes (`sameAnswers_of_put_error`). If the directory was missing,
answers change unless it is missing still (`sameAnswers_iff_of_put_error`).

All of this holds for directories told by any path. Making a directory leaves what is in it as it is
(`entryAt?_made`), unless its path turns back: once the name that was missing on it is made, the
path comes to files that were there already.
-/

namespace Stencil

namespace FileStore

open FileSystem

/-- The file system in which the directory has been made, as far as that is possible. -/
def made (store : FileStore) : FileSystem := (makeDirectories store.directory store.disk).2

/-- The route to the temporary file of a name. -/
def temporaryRoute (store : FileStore) (name : String) : Route :=
  store.directory.route ++ [temporaryName name]

section
variable {store : FileStore} {b : Blueprint}

/-! ## Outcomes -/

theorem put_of_not_isValidName (h : ¬ isValidName b.name = true) :
    store.put b = (.error (.invalidName b.name), store) := by
  rw [put, putSteps, runSteps, checkName, if_neg h]

/-- A directory that cannot be made ends the putting of a blueprint. -/
theorem put_of_makeDirectories_error {e : IoError} (hvalid : isValidName b.name = true)
    (h : (makeDirectories store.directory store.disk).1 = .error e) :
    store.put b = (.error (.io e), { store with disk := store.made }) := by
  have hstep : makeDirectories store.directory store.disk = (.error e, store.made) :=
    Prod.ext h rfl
  rw [put, putSteps, runSteps, checkName, if_pos hvalid]
  dsimp only
  rw [runSteps, step, hstep]

/-- Once the directory is there, the two files of a blueprint decide what becomes of it: the
temporary file is written unless its name is too long or a directory has it, and takes the place of
the file unless that is a directory. -/
theorem put_of_made (hvalid : isValidName b.name = true)
    (h : (makeDirectories store.directory store.disk).1 = .ok ()) :
    store.put b =
      if longestName < (temporaryName b.name).utf8ByteSize then
        (.error (.io .nameTooLong), { store with disk := store.made })
      else if store.made.entryAt? (store.temporaryRoute b.name) = some .directory then
        (.error (.io .isADirectory), { store with disk := store.made })
      else if store.made.entryAt? (store.route b.name) = some .directory then
        (.error (.io .isADirectory), { store with
          disk := store.made.insert (store.temporaryRoute b.name) (.file b.toText) })
      else
        (.ok (), { store with
          disk := ((store.made.insert (store.temporaryRoute b.name) (.file b.toText)).erase
            (store.temporaryRoute b.name)).insert (store.route b.name) (.file b.toText) }) := by
  have hstep : makeDirectories store.directory store.disk = (.ok (), store.made) := Prod.ext h rfl
  have hdirectory : store.made.find store.directory = .ok .directory := find_makeDirectories h
  rw [put, putSteps, runSteps, checkName, if_pos hvalid]
  dsimp only
  rw [runSteps, step, hstep]
  dsimp only
  rw [runSteps, step, write_of_directory hdirectory (isName_temporaryName _), temporaryRoute, route]
  by_cases hlong : longestName < (temporaryName b.name).utf8ByteSize
  · rw [if_pos hlong, if_pos hlong]
  rw [if_neg hlong, if_neg hlong]
  by_cases hblocked :
      store.made.entryAt? (store.directory.route ++ [temporaryName b.name]) = some .directory
  · rw [if_pos hblocked, if_pos hblocked]
  rw [if_neg hblocked, if_neg hblocked]
  -- The name of the file is shorter than the one that was just written.
  have hfits : ¬ longestName < (fileName b.name).utf8ByteSize := by
    rw [utf8ByteSize_temporaryName] at hlong
    omega
  have hne : store.directory.route ++ [fileName b.name] ≠
      store.directory.route ++ [temporaryName b.name] :=
    fun h => fileName_ne_temporaryName _ _ (concat_inj.1 h)
  dsimp only
  rw [runSteps, step, rename_of_directory (find_insert_of_free hblocked _ hdirectory)
    (isName_temporaryName _) (isName_fileName _) hlong (entryAt?_insert_self (concat_ne_nil _ _) _),
    if_neg hfits, entryAt?_insert_of_ne hne]
  by_cases hfile : store.made.entryAt? (store.directory.route ++ [fileName b.name]) = some .directory
  · rw [if_pos hfile, if_pos hfile]
  · rw [if_neg hfile, if_neg hfile]
    rfl

/-- How putting a blueprint can end, with what is then left of the store. -/
inductive PutOutcome (store : FileStore) (b : Blueprint) :
    Except StoreError Unit × FileStore → Prop where
  | invalid (h : ¬ isValidName b.name = true) :
    PutOutcome store b (.error (.invalidName b.name), store)
  | unmade {e : IoError} (hvalid : isValidName b.name = true)
    (h : (makeDirectories store.directory store.disk).1 = .error e) :
    PutOutcome store b (.error (.io e), { store with disk := store.made })
  | tooLong (hvalid : isValidName b.name = true)
    (h : (makeDirectories store.directory store.disk).1 = .ok ())
    (hlong : longestName < (temporaryName b.name).utf8ByteSize) :
    PutOutcome store b (.error (.io .nameTooLong), { store with disk := store.made })
  | unwritten (hvalid : isValidName b.name = true)
    (h : (makeDirectories store.directory store.disk).1 = .ok ())
    (hblocked : store.made.entryAt? (store.temporaryRoute b.name) = some .directory) :
    PutOutcome store b (.error (.io .isADirectory), { store with disk := store.made })
  | unnamed (hvalid : isValidName b.name = true)
    (h : (makeDirectories store.directory store.disk).1 = .ok ())
    (hfree : store.made.entryAt? (store.temporaryRoute b.name) ≠ some .directory)
    (hblocked : store.made.entryAt? (store.route b.name) = some .directory) :
    PutOutcome store b (.error (.io .isADirectory), { store with
      disk := store.made.insert (store.temporaryRoute b.name) (.file b.toText) })
  | stored (hvalid : isValidName b.name = true)
    (h : (makeDirectories store.directory store.disk).1 = .ok ())
    (hfits : ¬ longestName < (temporaryName b.name).utf8ByteSize)
    (hfree : store.made.entryAt? (store.temporaryRoute b.name) ≠ some .directory)
    (hfile : store.made.entryAt? (store.route b.name) ≠ some .directory) :
    PutOutcome store b (.ok (), { store with
      disk := ((store.made.insert (store.temporaryRoute b.name) (.file b.toText)).erase
        (store.temporaryRoute b.name)).insert (store.route b.name) (.file b.toText) })

theorem putOutcome (store : FileStore) (b : Blueprint) : PutOutcome store b (store.put b) := by
  by_cases hvalid : isValidName b.name = true
  case neg => exact put_of_not_isValidName hvalid ▸ .invalid hvalid
  cases hmake : (makeDirectories store.directory store.disk).1 with
  | error e => exact put_of_makeDirectories_error hvalid hmake ▸ .unmade hvalid hmake
  | ok u =>
    rw [put_of_made hvalid hmake]
    split
    · next hlong => exact .tooLong hvalid hmake hlong
    · next hfits =>
      split
      · next hblocked => exact .unwritten hvalid hmake hblocked
      · next hfree =>
        split
        · next hblocked => exact .unnamed hvalid hmake hfree hblocked
        · next hfile => exact .stored hvalid hmake hfits hfree hfile

/-! ## Entries after putting -/

theorem made_of_not_missing (h : store.disk.find store.directory ≠ .error .notFound) :
    store.made = store.disk :=
  makeDirectories_of_not_missing h

theorem entryAt?_made (hback : ¬ store.disk.TurnsBack store.directory) (x : String) :
    store.made.entryAt? (store.directory.route ++ [x]) =
      store.disk.entryAt? (store.directory.route ++ [x]) :=
  entryAt?_makeDirectories_concat hback x

theorem route_ne_temporaryRoute (store : FileStore) (a b : String) :
    store.route a ≠ store.temporaryRoute b :=
  fun h => fileName_ne_temporaryName a b (concat_inj.1 h)

/-- Where the directory leads is settled once it has been made. -/
theorem find_put (hvalid : isValidName b.name = true) :
    (store.put b).2.disk.find store.directory = store.made.find store.directory := by
  have houtcome := putOutcome store b
  generalize store.put b = p at houtcome
  cases houtcome with
  | invalid h => exact absurd hvalid h
  | unmade _ _ | tooLong _ _ _ | unwritten _ _ _ => rfl
  | unnamed _ hmake hfree _ =>
    have hthere : store.made.find store.directory = .ok .directory := find_makeDirectories hmake
    rw [hthere]
    exact find_insert_of_free hfree _ hthere
  | stored _ hmake _ hfree hfile =>
    have hthere : store.made.find store.directory = .ok .directory := find_makeDirectories hmake
    have hwritten : (store.made.insert (store.temporaryRoute b.name) (.file b.toText)).entryAt?
        (store.temporaryRoute b.name) ≠ some .directory := by
      rw [temporaryRoute, entryAt?_insert_self (concat_ne_nil _ _)]
      exact nofun
    rw [hthere]
    refine find_insert_of_free ?_ _ (find_erase_of_free hwritten (find_insert_of_free hfree _ hthere))
    rwa [entryAt?_erase_of_ne (route_ne_temporaryRoute store _ _),
      entryAt?_insert_of_ne (route_ne_temporaryRoute store _ _)]

/-- The store after a blueprint has been put into it. -/
structure Holds (store : FileStore) (b : Blueprint) (after : FileStore) : Prop where
  directory : after.directory = store.directory
  valid : isValidName b.name = true
  fits : ¬ longestName < (fileName b.name).utf8ByteSize
  find : after.disk.find store.directory = .ok .directory
  /-- The blueprint is in its file, the temporary file is gone and the rest is as in the directory
  that was made. -/
  entry (x : String) : after.disk.entryAt? (store.directory.route ++ [x]) =
    if x = fileName b.name then some (.file b.toText)
    else if x = temporaryName b.name then none
    else store.made.entryAt? (store.directory.route ++ [x])

theorem holds_of_put {after : FileStore} (h : store.put b = (.ok (), after)) :
    Holds store b after := by
  have houtcome := putOutcome store b
  have hfind (hvalid : isValidName b.name = true) :
      after.disk.find store.directory = store.made.find store.directory := by
    rw [← find_put hvalid, h]
  rw [h] at houtcome
  cases houtcome with
  | stored hvalid hmake hfits _ _ =>
    refine ⟨rfl, hvalid, ?_, (hfind hvalid).trans (find_makeDirectories hmake), fun x => ?_⟩
    · rw [utf8ByteSize_temporaryName] at hfits
      omega
    · rw [route, temporaryRoute]
      by_cases hfile : x = fileName b.name
      · rw [if_pos hfile, hfile, entryAt?_insert_self (concat_ne_nil _ _)]
      rw [if_neg hfile, entryAt?_insert_of_ne fun h => hfile (concat_inj.1 h)]
      by_cases htemporary : x = temporaryName b.name
      · rw [if_pos htemporary, htemporary, entryAt?_erase_self (concat_ne_nil _ _)]
      · have hne : store.directory.route ++ [x] ≠
            store.directory.route ++ [temporaryName b.name] :=
          fun h => htemporary (concat_inj.1 h)
        rw [if_neg htemporary, entryAt?_erase_of_ne hne, entryAt?_insert_of_ne hne]

/-- The entries at files after a blueprint has been put. -/
theorem Holds.entry_route {after : FileStore} (h : Holds store b after) (name : String) :
    after.disk.entryAt? (after.route name) =
      if name = b.name then some (.file b.toText) else store.made.entryAt? (store.route name) := by
  rw [route, h.directory, h.entry, if_neg (fileName_ne_temporaryName name b.name)]
  simp only [fileName_inj]
  rfl

/-- A blueprint that was put is what its name answers, if its text can be read. -/
theorem Holds.get_self {after : FileStore} (h : Holds store b after) :
    after.get b.name = answerOf (some (.file b.toText)) := by
  rw [get_of_directory (h.directory ▸ h.find) h.valid h.fits, h.entry_route, if_pos rfl]

/-- A blueprint whose text cannot be read takes the place of another one unseen only if that one
could not be read either. -/
theorem Holds.sameAnswers_iff {after : FileStore} (h : Holds store b after)
    (htext : Blueprint.ofText? b.toText = none) :
    after.SameAnswers store ↔ store.get b.name = .error .serialization := by
  have hself : after.get b.name = .error .serialization := by
    rw [h.get_self, answerOf, htext]
  have hafter : after.disk.find after.directory = .ok .directory := h.directory ▸ h.find
  constructor
  · intro hsame
    rw [← hsame.2, hself]
  · intro hget
    obtain ⟨hfind, hsome⟩ := directory_of_get_serialization h.valid hget
    have hmade : store.made = store.disk := made_of_not_missing (hfind ▸ nofun)
    refine ⟨names_eq_of_directory h.directory hafter hfind fun name _ => ?_, fun name => ?_⟩
    · rw [h.entry_route, hmade]
      by_cases hname : name = b.name
      · rw [if_pos hname, hname, hsome]
        rfl
      · rw [if_neg hname]
    · by_cases hname : name = b.name
      · rw [hname, hself, hget]
      · refine get_eq_of_entry (hafter.trans hfind.symm) fun _ => ?_
        rw [h.entry_route, if_neg hname, hmade]

/-! ## Failures -/

/-- A blueprint that could not be put leaves every entry at a file as making the directory did. -/
theorem entryAt?_route_of_put_error {e : StoreError} {after : FileStore}
    (h : store.put b = (.error e, after)) (hvalid : isValidName b.name = true) (name : String) :
    after.disk.entryAt? (after.route name) = store.made.entryAt? (store.route name) := by
  have houtcome := putOutcome store b
  rw [h] at houtcome
  cases houtcome with
  | invalid hinvalid => exact absurd hvalid hinvalid
  | unmade _ _ | tooLong _ _ _ | unwritten _ _ _ => rfl
  | unnamed _ _ _ _ => exact entryAt?_insert_of_ne (route_ne_temporaryRoute store name b.name) _

/-- What is put is not read, so that its text cannot be wrong. -/
theorem ne_serialization_of_put_error {e : StoreError} {after : FileStore}
    (h : store.put b = (.error e, after)) : e ≠ .serialization := by
  have houtcome := putOutcome store b
  rw [h] at houtcome
  cases houtcome <;> exact nofun

theorem directory_of_put {answer : Except StoreError Unit} {after : FileStore}
    (h : store.put b = (answer, after)) : after.directory = store.directory :=
  (congrArg (fun p => p.2.directory) h).symm

/-- A failure to put a blueprint into a directory that is not missing changes no answer. -/
theorem sameAnswers_of_put_error {e : StoreError} {after : FileStore}
    (h : store.put b = (.error e, after))
    (hthere : store.disk.find store.directory ≠ .error .notFound) : after.SameAnswers store := by
  by_cases hvalid : isValidName b.name = true
  case neg =>
    rw [put_of_not_isValidName hvalid] at h
    cases h
    exact ⟨rfl, fun _ => rfl⟩
  have hmade := made_of_not_missing hthere
  have hpath := directory_of_put h
  have hfind : after.disk.find after.directory = store.disk.find store.directory := by
    rw [hpath, ← congrArg (fun p => FileSystem.find p.2.disk store.directory) h, find_put hvalid,
      hmade]
  refine sameAnswers_of_entries hpath hfind fun name _ => ?_
  rw [entryAt?_route_of_put_error h hvalid, hmade]

/-- A failure to put a blueprint into a directory that is missing changes answers, unless it is that
the directory is missing still. -/
theorem sameAnswers_iff_of_put_error {e : StoreError} {after : FileStore}
    (h : store.put b = (.error e, after))
    (hmissing : store.disk.find store.directory = .error .notFound) :
    after.SameAnswers store ↔ ∀ i, e = .io i → i = .notFound := by
  have hpath := directory_of_put h
  rw [sameAnswers_iff_of_missing hmissing, hpath]
  have hfind (hvalid : isValidName b.name = true) :
      after.disk.find store.directory = store.made.find store.directory := by
    rw [← find_put hvalid, h]
  -- Where the directory has been made, it is there, and the failure is another one.
  have hmade (hvalid : isValidName b.name = true)
      (hmake : (makeDirectories store.directory store.disk).1 = .ok ()) :
      after.disk.find store.directory ≠ .error .notFound := by
    rw [hfind hvalid, made, find_makeDirectories hmake]
    exact nofun
  have houtcome := putOutcome store b
  rw [h] at houtcome
  cases houtcome with
  | invalid _ => exact iff_of_true hmissing nofun
  | @unmade i hvalid hmake =>
    rw [hfind hvalid, made, ← madeAnswer_eq_error_iff (by decide), ← makeDirectories_fst, hmake]
    exact ⟨fun hi _ hio => by cases hi; cases hio; rfl, fun hi => by rw [hi i rfl]⟩
  | tooLong hvalid hmake _ => exact iff_of_false (hmade hvalid hmake) fun hi => nomatch hi _ rfl
  | unwritten hvalid hmake _ => exact iff_of_false (hmade hvalid hmake) fun hi => nomatch hi _ rfl
  | unnamed hvalid hmake _ _ => exact iff_of_false (hmade hvalid hmake) fun hi => nomatch hi _ rfl

end

end FileStore

end Stencil
