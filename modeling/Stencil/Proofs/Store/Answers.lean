import Stencil.Proofs.FileSystem.Directories
import Stencil.Proofs.Store.FileNames
import Stencil.Proofs.Text.Ascending

/-!
# Answers of a store on disk

What a store on disk answers depends on where its directory leads and on the entries at the files of
valid names, and on nothing else of the file system (`sameAnswers_of_entries`). `get_of_isValidName`
and `exists_names_of_directory` say how. The directory can be told by any path, but at the empty
path no names are listed (`names_of_nil`), whatever is there. A directory that was missing and is
not any more shows in the answers (`sameAnswers_iff_of_missing`).
-/

namespace Stencil.FileStore

open FileSystem (longestName)

/-- Two stores have the same registered names and give the same answer for every name. -/
def SameAnswers (store store' : FileStore) : Prop :=
  store.names = store'.names ∧ ∀ name, store.get name = store'.get name

/-- What an entry says of the blueprint whose file it is. -/
def answerOf : Option Entry → Except StoreError (Option Blueprint)
  | none => .ok none
  | some .directory => .error (.io .isADirectory)
  | some (.file text) =>
    match Blueprint.ofText? text with
    | none => .error .serialization
    | some b => .ok (some b)

section
variable {store store' : FileStore} {name : String}

theorem get_of_not_isValidName (h : ¬ isValidName name = true) :
    store.get name = .error (.invalidName name) := by
  rw [get, if_neg h]

/-- The answer for a valid name: what its file's entry says, if the directory is there. -/
theorem get_of_isValidName (h : isValidName name = true) :
    store.get name =
      match store.disk.find store.directory with
      | .error .notFound => .ok none
      | .error e => .error (.io e)
      | .ok (.file _) => .error (.io .notADirectory)
      | .ok .directory =>
        if longestName < (fileName name).utf8ByteSize then .error (.io .nameTooLong)
        else answerOf (store.disk.entryAt? (store.route name)) := by
  rw [get, if_pos h, FileSystem.read, way, FileSystem.entryOf_concat, FileSystem.find_concat]
  cases hd : store.disk.find store.directory with
  | error e => cases e <;> rfl
  | ok e =>
    cases e with
    | file text => rfl
    | directory =>
      rw [Except.bind, FileSystem.enter_of_isName (isName_fileName name), route]
      by_cases hlong : longestName < (fileName name).utf8ByteSize
      · simp only [if_pos hlong]
      · simp only [if_neg hlong]
        cases store.disk.entryAt? (store.directory.route ++ [fileName name]) with
        | none => rfl
        | some e => cases e <;> rfl

theorem get_of_missing (h : store.disk.find store.directory = .error .notFound)
    (hvalid : isValidName name = true) : store.get name = .ok none := by
  rw [get_of_isValidName hvalid, h]

theorem get_of_directory (h : store.disk.find store.directory = .ok .directory)
    (hvalid : isValidName name = true)
    (hfits : ¬ longestName < (fileName name).utf8ByteSize) :
    store.get name = answerOf (store.disk.entryAt? (store.route name)) := by
  rw [get_of_isValidName hvalid, h]
  exact if_neg hfits

/-- Only in a directory that is there can a file be found that holds no blueprint. -/
theorem directory_of_get_serialization (hvalid : isValidName name = true)
    (h : store.get name = .error .serialization) :
    store.disk.find store.directory = .ok .directory ∧
      (store.disk.entryAt? (store.route name)).isSome = true := by
  rw [get_of_isValidName hvalid] at h
  cases hd : store.disk.find store.directory with
  | error e =>
    rw [hd] at h
    cases e <;> cases h
  | ok e =>
    rw [hd] at h
    cases e with
    | file text => cases h
    | directory =>
      refine ⟨rfl, ?_⟩
      dsimp only at h
      split at h
      · cases h
      · cases hentry : store.disk.entryAt? (store.route name) with
        | none =>
          rw [hentry] at h
          cases h
        | some e => rfl

/-! ## Registered names -/

/-- At the empty path nothing is listed. -/
theorem names_of_nil (h : store.directory = []) : store.names = .ok [] := by
  rw [names, h, FileSystem.list_nil]

/-- Only a directory that has a path is missing, or cannot be listed. -/
theorem directory_ne_nil (h : store.disk.find store.directory ≠ .ok .directory) :
    store.directory ≠ [] :=
  fun hnil => h (hnil ▸ rfl)

/-- What is answered where no directory is. -/
theorem names_of_not_directory (h : store.disk.find store.directory ≠ .ok .directory) :
    store.names =
      match store.disk.find store.directory with
      | .error .notFound => .ok []
      | .error e => .error (.io e)
      | .ok _ => .error (.io .notADirectory) := by
  rw [names, FileSystem.list, FileSystem.entryOf_of_ne_nil (directory_ne_nil h)]
  rcases hfind : store.disk.find store.directory with e | (text | _)
  · cases e <;> rfl
  · rfl
  · exact absurd hfind h

theorem names_of_missing (h : store.disk.find store.directory = .error .notFound) :
    store.names = .ok [] := by
  rw [names_of_not_directory (h ▸ nofun), h]

/-- The registered names of a directory that has a path and is there: in strict order, those valid
names at whose files an entry is. -/
theorem exists_names_of_directory (hpath : store.directory ≠ [])
    (h : store.disk.find store.directory = .ok .directory) :
    ∃ l, store.names = .ok l ∧ l.Pairwise (· < ·) ∧
      ∀ name, name ∈ l ↔
        isValidName name = true ∧ (store.disk.entryAt? (store.route name)).isSome = true := by
  refine ⟨ascending ((store.disk.namesIn store.directory.route).filterMap nameOf?), ?_,
    pairwise_ascending _, fun name => ?_⟩
  · rw [names, FileSystem.list_of_directory hpath h]
  · rw [mem_ascending, List.mem_filterMap]
    constructor
    · rintro ⟨file, hmem, hname⟩
      obtain ⟨rfl, hvalid⟩ := nameOf?_eq_some_iff.1 hname
      exact ⟨hvalid, FileSystem.mem_namesIn_iff.1 hmem⟩
    · rintro ⟨hvalid, hsome⟩
      exact ⟨fileName name, FileSystem.mem_namesIn_iff.2 hsome,
        nameOf?_eq_some_iff.2 ⟨rfl, hvalid⟩⟩

/-- Names are registered in a directory that is there or missing. -/
theorem find_of_names {l : List String} (h : store.names = .ok l) :
    store.disk.find store.directory = .ok .directory ∨
      store.disk.find store.directory = .error .notFound := by
  by_cases hthere : store.disk.find store.directory = .ok .directory
  · exact .inl hthere
  · rw [names_of_not_directory hthere] at h
    split at h
    · next hmissing => exact .inr hmissing
    · cases h
    · cases h

/-- Registered names are compared by the entries at the files of valid names. -/
theorem names_eq_of_directory (hpath : store.directory = store'.directory)
    (h : store.disk.find store.directory = .ok .directory)
    (h' : store'.disk.find store'.directory = .ok .directory)
    (hentry : ∀ name, isValidName name = true →
      (store.disk.entryAt? (store.route name)).isSome =
        (store'.disk.entryAt? (store'.route name)).isSome) :
    store.names = store'.names := by
  by_cases hnil : store.directory = []
  · rw [names_of_nil hnil, names_of_nil (hpath ▸ hnil)]
  · obtain ⟨l, hl, hsorted, hmem⟩ := exists_names_of_directory hnil h
    obtain ⟨l', hl', hsorted', hmem'⟩ := exists_names_of_directory (hpath ▸ hnil) h'
    rw [hl, hl', eq_of_pairwise_lt hsorted hsorted' fun name => ?_]
    rw [hmem, hmem']
    exact and_congr_right fun hvalid => by rw [hentry name hvalid]

/-! ## Removing -/

/-- Removing a name removes its file, or fails and does nothing. -/
theorem remove_snd (hvalid : isValidName name = true) :
    (store.remove name).2 =
      { store with disk := (FileSystem.remove (store.way name) store.disk).2 } := by
  rw [remove, if_pos hvalid]
  split <;> next h => rw [h]

theorem remove_of_not_isValidName (h : ¬ isValidName name = true) :
    store.remove name = (.error (.invalidName name), store) := by
  rw [remove, if_neg h]

/-! ## The same answers -/

/-- Stores answer alike for a name if their directories lead to the same and the entries at the file
of the name are the same. -/
theorem get_eq_of_entry
    (hfind : store.disk.find store.directory = store'.disk.find store'.directory)
    (hentry : isValidName name = true →
      store.disk.entryAt? (store.route name) = store'.disk.entryAt? (store'.route name)) :
    store.get name = store'.get name := by
  by_cases hvalid : isValidName name = true
  · rw [get_of_isValidName hvalid, get_of_isValidName hvalid, hfind, hentry hvalid]
  · rw [get_of_not_isValidName hvalid, get_of_not_isValidName hvalid]

/-- Stores of one directory answer alike if it leads to the same and the entries at the files of
valid names are the same. -/
theorem sameAnswers_of_entries (hpath : store.directory = store'.directory)
    (hfind : store.disk.find store.directory = store'.disk.find store'.directory)
    (hentry : ∀ name, isValidName name = true →
      store.disk.entryAt? (store.route name) = store'.disk.entryAt? (store'.route name)) :
    store.SameAnswers store' := by
  refine ⟨?_, fun name => get_eq_of_entry hfind (hentry name)⟩
  by_cases h : store.disk.find store.directory = .ok .directory
  · exact names_eq_of_directory hpath h (hfind ▸ h) fun name hvalid => by rw [hentry name hvalid]
  · rw [names_of_not_directory h, names_of_not_directory (hfind ▸ h), hfind]

/-- Where a directory is missing, nothing is listed and nothing is found. -/
theorem sameAnswers_of_missing (h : store.disk.find store.directory = .error .notFound)
    (h' : store'.disk.find store'.directory = .error .notFound) : store.SameAnswers store' := by
  refine ⟨by rw [names_of_missing h, names_of_missing h'], fun name => ?_⟩
  by_cases hvalid : isValidName name = true
  · rw [get_of_missing h hvalid, get_of_missing h' hvalid]
  · rw [get_of_not_isValidName hvalid, get_of_not_isValidName hvalid]

/-- A directory that was missing and is not any more is seen: it is refused, or a name is that is
too long for the file in it. -/
theorem sameAnswers_iff_of_missing (h : store'.disk.find store'.directory = .error .notFound) :
    store.SameAnswers store' ↔ store.disk.find store.directory = .error .notFound := by
  refine ⟨fun hsame => ?_, fun hmissing => sameAnswers_of_missing hmissing h⟩
  refine (find_of_names (hsame.1.trans (names_of_missing h))).resolve_left fun hthere => ?_
  obtain ⟨name, hvalid, hlong⟩ := exists_isValidName_too_long
  have hget := hsame.2 name
  rw [get_of_missing h hvalid, get_of_isValidName hvalid, hthere] at hget
  dsimp only at hget
  rw [if_pos hlong] at hget
  cases hget

end

end Stencil.FileStore
