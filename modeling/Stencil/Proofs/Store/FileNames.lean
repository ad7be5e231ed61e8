import Stencil.Proofs.FileSystem.Entries
import Stencil.Store.File

/-!
# Names of files and names of blueprints

A blueprint's file has the blueprint's name in front of an extension, so the name is read back from
it (`nameOf?_eq_some_iff`) and different names have different files. The file in which a blueprint
is written first has another extension and is the file of no blueprint
(`fileName_ne_temporaryName`).
-/

namespace Stencil.FileStore

theorem toList_fileName (name : String) :
    (fileName name).toList = name.toList ++ ['.', 'j', 's', 'o', 'n'] := by
  rw [fileName, String.toList_append]
  rfl

theorem toList_temporaryName (name : String) :
    (temporaryName name).toList = name.toList ++ ['.', 'j', 's', 'o', 'n', '.', 't', 'm', 'p'] := by
  rw [temporaryName, String.toList_append]
  rfl

/-- A text of more than two characters is no dots. -/
theorem isName_of_length {part : String} (h : 2 < part.toList.length) : IsName part := by
  constructor <;>
  · rintro rfl
    revert h
    decide

/-- What follows a name makes a name of it, also where the name itself is dots. -/
theorem isName_fileName (name : String) : IsName (fileName name) := by
  refine isName_of_length ?_
  rw [toList_fileName, List.length_append]
  exact Nat.lt_add_left _ (by decide)

theorem isName_temporaryName (name : String) : IsName (temporaryName name) := by
  refine isName_of_length ?_
  rw [toList_temporaryName, List.length_append]
  exact Nat.lt_add_left _ (by decide)

theorem route_eq (store : FileStore) (name : String) : store.route name = (store.way name).route :=
  (Way.route_concat_of_isName (isName_fileName name) store.directory).symm

theorem fileName_inj {a b : String} : fileName a = fileName b ↔ a = b := by
  rw [← String.toList_inj, toList_fileName, toList_fileName, List.append_left_inj,
    String.toList_inj]

theorem temporaryName_inj {a b : String} : temporaryName a = temporaryName b ↔ a = b := by
  rw [← String.toList_inj, toList_temporaryName, toList_temporaryName, List.append_left_inj,
    String.toList_inj]

/-- The two kinds of files end in different characters. -/
theorem fileName_ne_temporaryName (a b : String) : fileName a ≠ temporaryName b := by
  intro h
  have hlast : ((fileName a).toList).getLast? = ((temporaryName b).toList).getLast? := by rw [h]
  rw [toList_fileName, toList_temporaryName, List.getLast?_append, List.getLast?_append] at hlast
  have hchar : 'n' = 'p' := Option.some.inj hlast
  exact absurd hchar (by decide)

/-- The blueprints of a file: the one whose file it is, if that one has a valid name. -/
theorem nameOf?_eq_some_iff {file name : String} :
    nameOf? file = some name ↔ file = fileName name ∧ isValidName name = true := by
  rw [nameOf?]
  constructor
  · intro h
    split at h
    · next hfile =>
      cases h
      exact ⟨hfile.1.symm, hfile.2⟩
    · cases h
  · rintro ⟨rfl, hvalid⟩
    have hstem : String.ofList ((fileName name).toList.take ((fileName name).toList.length - 5)) =
        name := by
      rw [toList_fileName, List.length_append, List.length_cons, List.length_cons, List.length_cons,
        List.length_cons, List.length_cons, List.length_nil, Nat.add_sub_cancel, List.take_left,
        String.ofList_toList]
    simp only [hstem, hvalid, and_self, if_true]

/-- A name fits as that of a file if the name of the temporary file fits. -/
theorem utf8ByteSize_temporaryName (name : String) :
    (temporaryName name).utf8ByteSize = (fileName name).utf8ByteSize + 4 := by
  rw [temporaryName, fileName, String.utf8ByteSize_append, String.utf8ByteSize_append]
  rfl

/-- Valid names can be of any length. -/
theorem isValidName_replicate {n : Nat} (h : n ≠ 0) :
    isValidName (String.ofList (List.replicate n 'a')) = true := by
  have hne (x : String) (hx : 'a' ∉ x.toList) : String.ofList (List.replicate n 'a') ≠ x := by
    rintro rfl
    rw [String.toList_ofList] at hx
    exact hx (List.mem_replicate.2 ⟨h, rfl⟩)
  have hchar : isStoreNameChar 'a' = true := by decide
  simp only [isValidName, String.toList_ofList, List.all_replicate, hchar, ite_self,
    hne "" (by decide), hne "." (by decide), hne ".." (by decide), ne_eq, not_false_iff,
    decide_true, Bool.and_self]

/-- Those of files cannot. -/
theorem exists_isValidName_too_long :
    ∃ name, isValidName name = true ∧ FileSystem.longestName < (fileName name).utf8ByteSize :=
  ⟨String.ofList (List.replicate 256 'a'), isValidName_replicate (by decide), by decide +kernel⟩

end Stencil.FileStore
