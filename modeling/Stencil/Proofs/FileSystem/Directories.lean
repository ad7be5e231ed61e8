import Mathlib.Data.List.TakeWhile
import Stencil.Proofs.FileSystem.Entries

/-!
# Making directories

Making directories adds directories where a path goes through and nothing was
(`entryAt?_makeDirectories`), and answers what following the path shows afterwards
(`makeDirectories_fst`). A directory that is not missing is not made: it is there already, or the
way to it is barred (`makeDirectories_of_not_missing`). In a tree nothing is below what is missing,
so that directories which are missing on a path that does not turn back are made, unless a name on
it is too long (`makeDirectories_of_missing`) or nothing but dots follow the first name that is
missing (`getLast?_of_makeBelow_notFound`).
-/

namespace Stencil.FileSystem

section
variable {disk : FileSystem} {way : Way} {q : Route}

/-- What making directories does to the entry at a route: it keeps it, or puts a directory there,
where nothing was and the way was missing. -/
theorem entryAt?_makeBelow (rest : Way) : ∀ (above : Route) (disk : FileSystem) (q : Route),
    (makeBelow above rest disk).2.entryAt? q = disk.entryAt? q ∨
      (disk.entryAt? q = none ∧ (makeBelow above rest disk).2.entryAt? q = some .directory ∧
        ∃ front, front <+: rest ∧ q = Way.routeFrom above front ∧
          disk.follow above .directory front = .error .notFound) := by
  induction rest with
  | nil => exact fun _ _ _ => .inl rfl
  | cons part rest ih =>
    intro above disk q
    rw [makeBelow]
    split
    · next hthere =>
      refine (ih (above.go part) disk q).imp_right ?_
      rintro ⟨hnone, hsome, front, hfront, hq, hmissing⟩
      refine ⟨hnone, hsome, part :: front, List.prefix_cons_inj part |>.2 hfront, hq, ?_⟩
      rw [follow_cons, hthere]
      exact hmissing
    · exact .inl rfl
    · next hmissing =>
      obtain ⟨_, hname, _, hnone⟩ := enter_eq_notFound_iff.1 hmissing
      rw [← Route.go_of_isName hname] at hnone
      have hfollow (front : Way) :
          disk.follow above .directory (part :: front) = .error .notFound := by
        rw [follow_cons, hmissing]
        rfl
      split
      · exact .inl rfl
      · have hmore := ih (above.go part) (disk.insert (above.go part) .directory) q
        by_cases hq : q = above.go part
        · subst hq
          rw [Route.go_of_isName hname, entryAt?_insert_self (concat_ne_nil _ _),
            ← Route.go_of_isName hname] at hmore
          exact .inr ⟨hnone, hmore.elim id fun h => absurd h.1 nofun, [part],
            List.prefix_cons_inj part |>.2 List.nil_prefix, rfl, hfollow []⟩
        · rw [entryAt?_insert_of_ne hq] at hmore
          refine hmore.imp_right fun ⟨hnone, hsome, front, hfront, hq, _⟩ => ?_
          exact ⟨hnone, hsome, part :: front, List.prefix_cons_inj part |>.2 hfront, hq,
            hfollow front⟩
    · exact .inl rfl

theorem entryAt?_makeDirectories (disk : FileSystem) (way : Way) (q : Route) :
    (makeDirectories way disk).2.entryAt? q = disk.entryAt? q ∨
      (disk.entryAt? q = none ∧ (makeDirectories way disk).2.entryAt? q = some .directory ∧
        ∃ front : Way, front <+: way ∧ q = front.route ∧ disk.find front = .error .notFound) :=
  entryAt?_makeBelow way [] disk q

/-- A directory stays where it was while others are made. -/
theorem entryAt?_makeBelow_of_directory (above : Route) (rest : Way)
    (h : disk.entryAt? q = some .directory) :
    (makeBelow above rest disk).2.entryAt? q = some .directory :=
  (entryAt?_makeBelow rest above disk q).elim (fun hsame => hsame.trans h) fun hmade => hmade.2.1

/-! ## Answers -/

/-- The answer of making a directory, told by what is there afterwards. -/
def madeAnswer : Except IoError Entry → Except IoError Unit
  | .ok .directory => .ok ()
  | .ok (.file _) => .error .fileExists
  | .error e => .error e

theorem madeAnswer_eq_ok_iff {x : Except IoError Entry} :
    madeAnswer x = .ok () ↔ x = .ok .directory := by
  rcases x with e | (text | _)
  · exact ⟨nofun, nofun⟩
  · exact ⟨nofun, nofun⟩
  · exact ⟨fun _ => rfl, fun _ => rfl⟩

theorem madeAnswer_eq_error_iff {x : Except IoError Entry} {e : IoError} (he : e ≠ .fileExists) :
    madeAnswer x = .error e ↔ x = .error e := by
  rcases x with e' | (text | _)
  · exact ⟨fun h => by cases h; rfl, fun h => by cases h; rfl⟩
  · exact ⟨fun h => absurd (Except.error.inj h).symm he, nofun⟩
  · exact ⟨nofun, nofun⟩

/-- Making directories answers what following the way shows afterwards. -/
theorem makeBelow_fst (rest : Way) : ∀ (above : Route) (disk : FileSystem),
    (makeBelow above rest disk).1 =
      madeAnswer ((makeBelow above rest disk).2.follow above .directory rest) := by
  induction rest with
  | nil => exact fun _ _ => rfl
  | cons part rest ih =>
    intro above disk
    rw [makeBelow]
    split
    · next hthere =>
      rw [ih, follow_cons, enter_directory_mono
        (fun q => entryAt?_makeBelow_of_directory (above.go part) rest) hthere]
      rfl
    · next hfile =>
      rw [follow_cons, hfile]
      cases rest <;> rfl
    · next hmissing =>
      obtain ⟨_, hname, hfits, _⟩ := enter_eq_notFound_iff.1 hmissing
      split
      · rw [follow_cons, hmissing]
        rfl
      · have hmade : (disk.insert (above.go part) .directory).enter above part .directory =
            .ok .directory := by
          refine (enter_eq_ok_iff_of_isName hname).2 ⟨rfl, hfits, ?_⟩
          rw [Route.go_of_isName hname]
          exact entryAt?_insert_self (concat_ne_nil _ _) _
        rw [ih, follow_cons, enter_directory_mono
          (fun q => entryAt?_makeBelow_of_directory (above.go part) rest) hmade]
        rfl
    · next herror =>
      rw [follow_cons, herror]
      rfl

theorem makeDirectories_fst (way : Way) (disk : FileSystem) :
    (makeDirectories way disk).1 = madeAnswer ((makeDirectories way disk).2.find way) :=
  makeBelow_fst way [] disk

/-- Directories that were made are there. -/
theorem find_makeDirectories (h : (makeDirectories way disk).1 = .ok ()) :
    (makeDirectories way disk).2.find way = .ok .directory :=
  madeAnswer_eq_ok_iff.1 ((makeDirectories_fst way disk).symm.trans h)

/-! ## Directories that are not missing -/

/-- A directory that is not missing is not made: it is there already, or the way to it is barred. -/
theorem makeBelow_of_not_missing (rest : Way) : ∀ above : Route,
    disk.follow above .directory rest ≠ .error .notFound → (makeBelow above rest disk).2 = disk := by
  induction rest with
  | nil => exact fun _ _ => rfl
  | cons part rest ih =>
    intro above h
    rw [follow_cons] at h
    rw [makeBelow]
    split
    · next hthere =>
      rw [hthere] at h
      exact ih _ h
    · rfl
    · next hmissing =>
      rw [hmissing] at h
      exact absurd rfl h
    · rfl

theorem makeDirectories_of_not_missing (h : disk.find way ≠ .error .notFound) :
    (makeDirectories way disk).2 = disk :=
  makeBelow_of_not_missing way [] h

theorem makeDirectories_prefix_of_not_missing {front : Way} (hfront : front <+: way)
    (h : disk.find way ≠ .error .notFound) : (makeDirectories front disk).2 = disk :=
  makeDirectories_of_not_missing fun hmissing => h (find_of_prefix_missing hfront hmissing)

/-! ## Directories that are missing -/

/-- The answers of making directories where no file is in the way. -/
def IsMadeFreely (answer : Except IoError Unit) : Prop :=
  answer = .ok () ∨ answer = .error .nameTooLong ∨ answer = .error .notFound

/-- Where nothing is, no file is in the way. -/
theorem isMadeFreely_of_bare (rest : Way) : ∀ (above : Route) (disk : FileSystem), ".." ∉ rest →
    (∀ q, q ≠ [] → disk.entryAt? (above ++ q) = none) →
    IsMadeFreely (makeBelow above rest disk).1 := by
  induction rest with
  | nil => exact fun _ _ _ _ => .inl rfl
  | cons part rest ih =>
    intro above disk hdown hbare
    obtain ⟨hpart, hrest⟩ := List.ne_and_not_mem_of_not_mem_cons hdown
    by_cases hname : IsName part
    · rw [makeBelow, enter_of_isName hname, hbare _ (List.cons_ne_nil _ _)]
      by_cases hlong : longestName < part.utf8ByteSize
      · rw [if_pos hlong]
        exact .inr (.inl rfl)
      · rw [if_neg hlong]
        dsimp only
        split
        · exact .inr (.inr rfl)
        · rw [Route.go_of_isName hname]
          refine ih _ _ hrest fun q hq => ?_
          rw [entryAt?_insert_of_ne (by simpa using hq), List.append_assoc]
          exact hbare _ (List.cons_ne_nil _ _)
    · have hdot : part = "." := not_not.1 fun hdot => hname ⟨hdot, hpart.symm⟩
      rw [makeBelow, enter_of_not_isName hname, Route.go, if_pos hdot]
      exact ih above disk hrest hbare

/-- In a tree, no file is in the way of a directory that is missing. -/
theorem isMadeFreely_of_missing (htree : disk.IsTree) (rest : Way) : ∀ above : Route,
    (∀ front tail, rest = front ++ tail →
      disk.follow above .directory front = .error .notFound → ".." ∉ tail) →
    disk.follow above .directory rest = .error .notFound →
    IsMadeFreely (makeBelow above rest disk).1 := by
  induction rest with
  | nil => exact fun _ _ h => nomatch h
  | cons part rest ih =>
    intro above hback h
    rw [follow_cons] at h
    rw [makeBelow]
    split
    · next hthere =>
      rw [hthere] at h
      refine ih _ (fun front tail hrest hmissing => ?_) h
      refine hback (part :: front) tail (congrArg (List.cons part) hrest) ?_
      rw [follow_cons, hthere]
      exact hmissing
    · next hfile =>
      rw [hfile] at h
      cases rest <;> cases h
    · next hmissing =>
      obtain ⟨_, hname, _, hnone⟩ := enter_eq_notFound_iff.1 hmissing
      split
      · exact .inr (.inr rfl)
      · -- From here on nothing is on the way, since the file system is a tree.
        have hdown : ".." ∉ rest := by
          refine hback [part] rest rfl ?_
          rw [follow_cons, hmissing]
          rfl
        rw [Route.go_of_isName hname]
        refine isMadeFreely_of_bare rest _ _ hdown fun q hq => ?_
        rw [entryAt?_insert_of_ne (by simpa using hq)]
        exact htree.entryAt?_append_eq_none hnone q
    · next hne herror =>
      rw [herror] at h
      cases h
      exact absurd rfl hne

/-- In a tree, a directory that is missing on a path which does not turn back is made, or a name on
the path is too long, or it is missing still. -/
theorem makeDirectories_of_missing (htree : disk.IsTree) (hback : ¬ disk.TurnsBack way)
    (h : disk.find way = .error .notFound) :
    (makeDirectories way disk).2.find way = .ok .directory ∨
      (makeDirectories way disk).2.find way = .error .nameTooLong ∨
      (makeDirectories way disk).2.find way = .error .notFound := by
  have hfree : IsMadeFreely (makeDirectories way disk).1 :=
    isMadeFreely_of_missing htree way []
      (fun front tail hway hmissing hup => hback ⟨front, tail, hway, hmissing, hup⟩) h
  rw [makeDirectories_fst, IsMadeFreely] at hfree
  rwa [madeAnswer_eq_ok_iff, madeAnswer_eq_error_iff (by decide),
    madeAnswer_eq_error_iff (by decide)] at hfree

/-- A directory stays missing only if its path ends in a dot. -/
theorem getLast?_of_makeBelow_notFound (rest : Way) : ∀ (above : Route) (disk : FileSystem),
    (makeBelow above rest disk).1 = .error .notFound → rest.getLast? = some "." := by
  induction rest with
  | nil => exact nofun
  | cons part rest ih =>
    intro above disk h
    have hlast (hrest : rest.getLast? = some ".") : (part :: rest).getLast? = some "." := by
      rw [List.getLast?_cons, hrest]
      rfl
    rw [makeBelow] at h
    split at h
    · exact hlast (ih _ _ h)
    · split at h <;> cases h
    · split at h
      · next hdots =>
        obtain ⟨hne, htrim⟩ := hdots
        refine hlast ?_
        rw [Way.trimDots, List.reverse_eq_nil_iff, List.dropWhile_eq_nil_iff] at htrim
        have hdot := htrim _ (List.mem_reverse.2 (List.getLast_mem hne))
        rw [List.getLast?_eq_some_getLast hne, of_decide_eq_true hdot]
      · exact hlast (ih _ _ h)
    · next hne herror =>
      cases h
      exact absurd rfl hne

/-- Making a directory does not touch what is in it, if its path does not turn back. -/
theorem entryAt?_makeDirectories_concat (hback : ¬ disk.TurnsBack way) (name : String) :
    (makeDirectories way disk).2.entryAt? (way.route ++ [name]) =
      disk.entryAt? (way.route ++ [name]) :=
  (entryAt?_makeDirectories disk way _).elim id fun ⟨_, _, _, hfront, hq, hmissing⟩ =>
    absurd hq.symm (route_ne_concat_of_missing hback hfront hmissing name)

end

end Stencil.FileSystem
