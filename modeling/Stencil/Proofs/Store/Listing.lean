import Stencil.Proofs.Store.Answers

/-!
# Listing and looking up

A directory is listed by taking the extension off the names of its files, and a name is looked up by
putting it on. Both see the same files: what is listed is what is found, be it a blueprint or not
(`isSome_entryAt?_iff_get`). A name that is found to be too long has no file, so it is not listed
although looking it up fails.

The directory of the store can be told by any path but the empty one, at which names are looked up
and none are listed.
-/

namespace Stencil

/-- No name in a file system is too long. -/
def FileSystem.NamesFit (disk : FileSystem) : Prop := ∀ x ∈ disk.entries, ¬ IsTooLong x.1

instance (disk : FileSystem) : Decidable disk.NamesFit :=
  inferInstanceAs (Decidable (∀ x ∈ disk.entries, ¬ _))

namespace FileStore

open FileSystem (longestName)

section
variable {store : FileStore} {name : String}

/-- What is in a directory has a name that fits. -/
theorem not_too_long_of_entry (hfit : store.disk.NamesFit)
    (hentry : (store.disk.entryAt? (store.route name)).isSome = true) :
    ¬ longestName < (fileName name).utf8ByteSize := by
  obtain ⟨e, he⟩ := (FileSystem.isSome_entryAt?_iff (FileSystem.concat_ne_nil _ _)).1 hentry
  exact fun hlong => hfit _ he (FileSystem.isTooLong_concat _ hlong)

theorem answerOf_ne_nameTooLong (e : Option Entry) : answerOf e ≠ .error (.io .nameTooLong) := by
  intro h
  cases e with
  | none => cases h
  | some e =>
    cases e with
    | file text =>
      rw [answerOf] at h
      split at h <;> cases h
    | directory => cases h

/-- Only where there is no entry is there nothing to be found. -/
theorem answerOf_eq_none_iff {e : Option Entry} : answerOf e = .ok none ↔ e = none := by
  constructor
  · intro h
    cases e with
    | none => rfl
    | some e =>
      cases e with
      | file text =>
        rw [answerOf] at h
        split at h <;> cases h
      | directory => cases h
  · rintro rfl
    rfl

/-- A name is refused as too long exactly if its file's name is and the directory is there. -/
theorem get_eq_nameTooLong_iff
    (hthere : store.disk.find store.directory = .ok .directory ∨
      store.disk.find store.directory = .error .notFound) :
    store.get name = .error (.io .nameTooLong) ↔
      isValidName name = true ∧ store.disk.find store.directory = .ok .directory ∧
        longestName < (fileName name).utf8ByteSize := by
  by_cases hvalid : isValidName name = true
  case neg =>
    rw [get_of_not_isValidName hvalid]
    exact iff_of_false nofun fun h => hvalid h.1
  rcases hthere with hfind | hfind
  · by_cases hlong : longestName < (fileName name).utf8ByteSize
    · rw [get_of_isValidName hvalid, hfind]
      exact iff_of_true (if_pos hlong) ⟨hvalid, rfl, hlong⟩
    · rw [get_of_directory hfind hvalid hlong]
      exact iff_of_false (answerOf_ne_nameTooLong _) fun h => hlong h.2.2
  · rw [get_of_missing hfind hvalid, hfind]
    exact iff_of_false nofun fun h => nomatch h.2.1

/-- In a directory that is there, what is found is what there is a file for. -/
theorem isSome_entryAt?_iff_get (hfind : store.disk.find store.directory = .ok .directory)
    (hfit : store.disk.NamesFit) (hvalid : isValidName name = true) :
    (store.disk.entryAt? (store.route name)).isSome = true ↔
      store.get name ≠ .ok none ∧ store.get name ≠ .error (.io .nameTooLong) := by
  by_cases hlong : longestName < (fileName name).utf8ByteSize
  · have hget := (get_eq_nameTooLong_iff (.inl hfind)).2 ⟨hvalid, hfind, hlong⟩
    exact iff_of_false (fun h => not_too_long_of_entry hfit h hlong) fun h => h.2 hget
  · rw [get_of_directory hfind hvalid hlong, Option.isSome_iff_ne_none, ne_eq, ne_eq,
      answerOf_eq_none_iff]
    exact (and_iff_left (answerOf_ne_nameTooLong _)).symm

end

end FileStore

end Stencil
