import Stencil.Proofs.FileSystem.Directories

/-!
# Files of a directory

Writing, renaming and removing a file of a directory that is there depend on the entries at its
names only (`write_of_directory`, `rename_of_directory`, `remove_of_directory`). None of them takes
a directory away, so the path of the directory leads there afterwards (`find_insert_of_free`,
`find_erase_of_free`). A file that could be written at a path is what is read at the path
(`readAt_of_writeAt`).
-/

namespace Stencil.FileSystem

section
variable {disk : FileSystem} {directory way : Way} {route q : Route} {name text : String}

/-! ## Changing files -/

/-- Writing a file into a directory that is there. -/
theorem write_of_directory (h : disk.find directory = .ok .directory) (hname : IsName name)
    (text : String) :
    write directory name text disk =
      if longestName < name.utf8ByteSize then (.error .nameTooLong, disk)
      else if disk.entryAt? (directory.route ++ [name]) = some .directory then
        (.error .isADirectory, disk)
      else (.ok (), disk.insert (directory.route ++ [name]) (.file text)) := by
  rw [write, find_concat_of_directory h hname, h]
  by_cases hlong : longestName < name.utf8ByteSize
  · simp only [if_pos hlong]
  · simp only [if_neg hlong]
    cases disk.entryAt? (directory.route ++ [name]) with
    | none => rfl
    | some e => cases e <;> rfl

/-- A file is written into a directory only. -/
theorem find_of_write (hname : IsName name) (h : (write directory name text disk).1 = .ok ()) :
    disk.find directory = .ok .directory := by
  rw [write] at h
  split at h
  · cases h
  · next hfile => exact ((find_concat_eq_ok_iff hname).1 hfile).1
  · split at h
    · assumption
    · cases h
  · cases h

/-- Renaming a file of a directory. -/
theorem rename_of_directory {old new : String} (h : disk.find directory = .ok .directory)
    (holdName : IsName old) (hnewName : IsName new) (hfits : ¬ longestName < old.utf8ByteSize)
    (hold : disk.entryAt? (directory.route ++ [old]) = some (.file text)) :
    rename directory old new disk =
      if longestName < new.utf8ByteSize then (.error .nameTooLong, disk)
      else if disk.entryAt? (directory.route ++ [new]) = some .directory then
        (.error .isADirectory, disk)
      else
        (.ok (), (disk.erase (directory.route ++ [old])).insert (directory.route ++ [new])
          (.file text)) := by
  rw [rename, (find_concat_eq_ok_iff holdName).2 ⟨h, hfits, hold⟩,
    find_concat_of_directory h hnewName]
  by_cases hlong : longestName < new.utf8ByteSize
  · simp only [if_pos hlong]
  · simp only [if_neg hlong]
    cases disk.entryAt? (directory.route ++ [new]) with
    | none => rfl
    | some e => cases e <;> rfl

/-- Removing a file of a directory. -/
theorem remove_of_directory (h : disk.find directory = .ok .directory) (hname : IsName name) :
    remove (directory ++ [name]) disk =
      if longestName < name.utf8ByteSize then (.error .nameTooLong, disk)
      else
        match disk.entryAt? (directory.route ++ [name]) with
        | none => (.error .notFound, disk)
        | some .directory => (.error .isADirectory, disk)
        | some (.file _) => (.ok (), disk.erase (directory.route ++ [name])) := by
  rw [remove, entryOf_concat, find_concat_of_directory h hname, Way.route_concat_of_isName hname]
  by_cases hlong : longestName < name.utf8ByteSize
  · simp only [if_pos hlong]
  · simp only [if_neg hlong]
    cases disk.entryAt? (directory.route ++ [name]) with
    | none => rfl
    | some e => cases e <;> rfl

/-! ## Directories are kept -/

/-- An entry that takes the place of no directory is on the way to none. -/
theorem find_insert_of_free (hfree : disk.entryAt? route ≠ some .directory) (e : Entry)
    (h : disk.find way = .ok .directory) : (disk.insert route e).find way = .ok .directory := by
  refine find_directory_mono (fun q hq => ?_) h
  rwa [entryAt?_insert_of_ne (by rintro rfl; exact hfree hq)]

theorem find_erase_of_free (hfree : disk.entryAt? route ≠ some .directory)
    (h : disk.find way = .ok .directory) : (disk.erase route).find way = .ok .directory := by
  refine find_directory_mono (fun q hq => ?_) h
  rwa [entryAt?_erase_of_ne (by rintro rfl; exact hfree hq)]

/-- Removing a file changes no other entry. -/
theorem entryAt?_remove_of_ne (h : q ≠ way.route) (disk : FileSystem) :
    (remove way disk).2.entryAt? q = disk.entryAt? q := by
  rw [remove]
  split
  · rfl
  · rfl
  · exact entryAt?_erase_of_ne h

/-- Removing a file of a directory changes nothing on the way to the directory. -/
theorem find_remove_concat (hname : IsName name) (disk : FileSystem) (directory : Way) :
    (remove (directory ++ [name]) disk).2.find directory = disk.find directory := by
  rw [remove, entryOf_concat]
  split
  · rfl
  · rfl
  · next hfile =>
    obtain ⟨hthere, _, hentry⟩ := (find_concat_eq_ok_iff hname).1 hfile
    have hfree : disk.entryAt? (directory.route ++ [name]) ≠ some .directory := by
      rw [hentry]
      exact nofun
    rw [Way.route_concat_of_isName hname, find_erase_of_free hfree hthere, hthere]

/-! ## Files at paths -/

/-- Writing at a path puts the file under the last name of the path, into a directory. -/
theorem exists_of_writeAt {path : String} (h : (writeAt path text disk).1 = .ok ()) :
    ∃ (directory : Way) (name : String), Way.ofText path = directory ++ [name] ∧ IsName name ∧
      endsInSlash path = false ∧ disk.find directory = .ok .directory ∧
      ¬ longestName < name.utf8ByteSize ∧
      disk.entryAt? (directory.route ++ [name]) ≠ some .directory ∧
      (writeAt path text disk).2 = disk.insert (directory.route ++ [name]) (.file text) := by
  rw [writeAt] at h ⊢
  split at h
  · cases h
  next name hlast =>
  obtain ⟨directory, hway⟩ := List.getLast?_eq_some_iff.1 hlast
  rw [hway, List.dropLast_concat] at h
  split at h
  case isFalse => split at h <;> cases h
  next hfile =>
  have hfind := find_of_write hfile.1 h
  refine ⟨directory, name, hway, hfile.1, by simpa using hfile.2, hfind, ?_⟩
  rw [if_pos hfile, hway, List.dropLast_concat]
  rw [write_of_directory hfind hfile.1] at h ⊢
  split at h
  · cases h
  next hshort =>
  split at h
  · cases h
  next hfree =>
  refine ⟨hshort, hfree, ?_⟩
  rw [if_neg hshort, if_neg hfree]

/-- What is written at a path is read there afterwards. -/
theorem readAt_of_writeAt {path : String} (h : (writeAt path text disk).1 = .ok ()) :
    (writeAt path text disk).2.readAt path = .ok text := by
  obtain ⟨directory, name, hway, hname, hslash, hfind, hshort, hfree, hdisk⟩ := exists_of_writeAt h
  have hread : (disk.insert (directory.route ++ [name]) (.file text)).read (directory ++ [name]) =
      .ok text := by
    rw [read, entryOf_concat, (find_concat_eq_ok_iff hname).2
      ⟨find_insert_of_free hfree _ hfind, hshort, entryAt?_insert_self (concat_ne_nil _ _) _⟩]
  rw [hdisk, readAt, hway, hread]
  dsimp only
  rw [hslash, if_neg Bool.false_ne_true]

end

end Stencil.FileSystem
