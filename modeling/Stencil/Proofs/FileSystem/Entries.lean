import Mathlib.Data.List.Infix
import Stencil.FileSystem
import Stencil.Proofs.Outcomes

/-!
# Entries of a file system

What an operation does to a file system is told by the entries at its routes. A change at one route
keeps every other entry (`entryAt?_insert_of_ne`, `entryAt?_erase_of_ne`). A path is followed one
part at a time (`find_concat`), and one more name is found in the directory that the parts before
lead to (`find_concat_eq_ok_iff`). A path leads to a directory as long as no directory is taken away
(`find_directory_mono`). In a tree there is nothing below what is missing
(`IsTree.entryAt?_of_missing`), as long as a path does not go up again from there (`TurnsBack`). The
names in a directory are those at which an entry is (`mem_namesIn_iff`).
-/

namespace Stencil

/-! ## Routes -/

namespace Route

variable {here : Route} {part : String}

theorem go_of_isName (h : IsName part) : here.go part = here ++ [part] := by
  rw [go, if_neg h.1, if_neg h.2]

end Route

namespace Way

theorem route_concat (way : Way) (part : String) : route (way ++ [part]) = way.route.go part :=
  List.foldl_concat ..

theorem route_concat_of_isName {part : String} (h : IsName part) (way : Way) :
    route (way ++ [part]) = way.route ++ [part] := by
  rw [route_concat, Route.go_of_isName h]

/-- A way without two dots goes down. -/
theorem prefix_routeFrom {way : Way} (hdown : ".." ∉ way) (above : Route) :
    above <+: routeFrom above way := by
  induction way generalizing above with
  | nil => exact List.prefix_rfl
  | cons part way ih =>
    obtain ⟨hpart, hway⟩ := List.ne_and_not_mem_of_not_mem_cons hdown
    refine List.IsPrefix.trans ?_ (ih hway (above.go part))
    rw [Route.go, if_neg hpart.symm]
    split
    · exact List.prefix_rfl
    · exact List.prefix_append above [part]

end Way

namespace FileSystem

section
variable {disk disk' : FileSystem} {route q above : Route} {way : Way} {part name : String}
  {e here : Entry}

theorem concat_ne_nil (directory : Route) (name : String) : directory ++ [name] ≠ [] :=
  List.append_ne_nil_of_right_ne_nil _ (List.cons_ne_nil _ _)

theorem concat_inj {directory : Route} {a b : String} :
    directory ++ [a] = directory ++ [b] ↔ a = b := by
  rw [List.append_right_inj, List.singleton_inj]

/-- An entry in a directory is not on the way down to the directory. -/
theorem concat_not_prefix_self (directory : Route) (name : String) :
    ¬ directory ++ [name] <+: directory :=
  fun h => by
    have := h.length_le
    rw [List.length_append, List.length_singleton] at this
    omega

/-! ## Changing one entry -/

@[simp] theorem entryAt?_nil (disk : FileSystem) : disk.entryAt? [] = some .directory := rfl

theorem entryAt?_of_ne_nil (h : route ≠ []) : disk.entryAt? route = disk.entries.lookup route :=
  if_neg h

theorem lookup_filter_of_ne (entries : List (Route × Entry)) (h : q ≠ route) :
    (entries.filter (·.1 ≠ route)).lookup q = entries.lookup q := by
  induction entries with
  | nil => rfl
  | cons x entries ih =>
    rw [List.filter_cons]
    by_cases hx : x.1 = route
    · have hq : (q == x.1) = false := beq_eq_false_iff_ne.2 (hx ▸ h)
      rw [if_neg (by simpa using hx), ih, List.lookup_cons, hq]
    · rw [if_pos (by simpa using hx), List.lookup_cons, List.lookup_cons, ih]

theorem lookup_filter_self (entries : List (Route × Entry)) (route : Route) :
    (entries.filter (·.1 ≠ route)).lookup route = none := by
  rw [List.lookup_eq_none_iff]
  intro x hx
  have hne := (List.mem_filter.1 hx).2
  rw [decide_eq_true_eq] at hne
  exact bne_iff_ne.2 (Ne.symm hne)

theorem entryAt?_insert_self (h : route ≠ []) (e : Entry) :
    (disk.insert route e).entryAt? route = some e := by
  rw [entryAt?_of_ne_nil h, insert, List.lookup_cons_self]

theorem entryAt?_insert_of_ne (h : q ≠ route) (e : Entry) :
    (disk.insert route e).entryAt? q = disk.entryAt? q := by
  by_cases hq : q = []
  · rw [hq, entryAt?_nil, entryAt?_nil]
  · have hne : (q == route) = false := beq_eq_false_iff_ne.2 h
    rw [entryAt?_of_ne_nil hq, entryAt?_of_ne_nil hq, insert, List.lookup_cons, hne]
    exact lookup_filter_of_ne disk.entries h

theorem entryAt?_erase_self (h : route ≠ []) : (disk.erase route).entryAt? route = none := by
  rw [entryAt?_of_ne_nil h]
  exact lookup_filter_self disk.entries route

theorem entryAt?_erase_of_ne (h : q ≠ route) : (disk.erase route).entryAt? q = disk.entryAt? q := by
  by_cases hq : q = []
  · rw [hq, entryAt?_nil, entryAt?_nil]
  · rw [entryAt?_of_ne_nil hq, entryAt?_of_ne_nil hq]
    exact lookup_filter_of_ne disk.entries h

/-! ## One part -/

/-- A name is looked for in a directory. -/
theorem enter_of_isName (h : IsName part) :
    disk.enter above part .directory =
      if longestName < part.utf8ByteSize then .error .nameTooLong
      else
        match disk.entryAt? (above ++ [part]) with
        | none => .error .notFound
        | some e => .ok e :=
  if_neg (not_not_intro h)

/-- Dots lead from a directory to a directory. -/
theorem enter_of_not_isName (h : ¬ IsName part) :
    disk.enter above part .directory = .ok .directory :=
  if_pos h

theorem enter_eq_ok_iff_of_isName (h : IsName part) :
    disk.enter above part here = .ok e ↔ here = .directory ∧
      ¬ longestName < part.utf8ByteSize ∧ disk.entryAt? (above ++ [part]) = some e := by
  cases here with
  | file text => exact ⟨nofun, fun h => nomatch h.1⟩
  | directory =>
    rw [enter_of_isName h]
    by_cases hlong : longestName < part.utf8ByteSize
    · rw [if_pos hlong]
      exact ⟨nofun, fun h => absurd hlong h.2.1⟩
    · rw [if_neg hlong]
      cases disk.entryAt? (above ++ [part]) with
      | none => exact ⟨nofun, fun h => nomatch h.2.2⟩
      | some e' => exact ⟨fun h => ⟨rfl, hlong, by cases h; rfl⟩, fun h => by cases h.2.2; rfl⟩

/-- Only a name can be missing. -/
theorem enter_eq_notFound_iff :
    disk.enter above part here = .error .notFound ↔ here = .directory ∧ IsName part ∧
      ¬ longestName < part.utf8ByteSize ∧ disk.entryAt? (above ++ [part]) = none := by
  cases here with
  | file text => exact ⟨nofun, fun h => nomatch h.1⟩
  | directory =>
    by_cases hname : IsName part
    · rw [enter_of_isName hname]
      by_cases hlong : longestName < part.utf8ByteSize
      · rw [if_pos hlong]
        exact ⟨nofun, fun h => absurd hlong h.2.2.1⟩
      · rw [if_neg hlong]
        cases disk.entryAt? (above ++ [part]) with
        | none => exact ⟨fun _ => ⟨rfl, hname, hlong, rfl⟩, fun _ => rfl⟩
        | some e => exact ⟨nofun, fun h => nomatch h.2.2.2⟩
    · rw [enter_of_not_isName hname]
      exact ⟨nofun, fun h => absurd h.2.1 hname⟩

/-- A directory is entered as long as it is there. -/
theorem enter_directory_mono
    (hkept : ∀ q, disk.entryAt? q = some .directory → disk'.entryAt? q = some .directory)
    (h : disk.enter above part here = .ok .directory) :
    disk'.enter above part here = .ok .directory := by
  by_cases hname : IsName part
  · rw [enter_eq_ok_iff_of_isName hname] at h ⊢
    exact ⟨h.1, h.2.1, hkept _ h.2.2⟩
  · cases here with
    | file text => cases h
    | directory => exact enter_of_not_isName hname

/-! ## Following a path -/

theorem follow_cons (disk : FileSystem) (above : Route) (here : Entry) (part : String) (rest : Way) :
    disk.follow above here (part :: rest) =
      (disk.enter above part here).bind fun e => disk.follow (above.go part) e rest := by
  rw [follow]
  cases disk.enter above part here <;> rfl

theorem follow_append (disk : FileSystem) (above : Route) (here : Entry) (xs ys : Way) :
    disk.follow above here (xs ++ ys) =
      (disk.follow above here xs).bind fun e => disk.follow (Way.routeFrom above xs) e ys := by
  induction xs generalizing above here with
  | nil => rfl
  | cons x xs ih =>
    rw [List.cons_append, follow_cons, follow_cons]
    cases disk.enter above x here with
    | error e => rfl
    | ok e => exact ih _ e

/-- A path with one part more is followed from the entry that it leads to without it. -/
theorem find_concat (disk : FileSystem) (way : Way) (part : String) :
    disk.find (way ++ [part]) = (disk.find way).bind (disk.enter way.route part) := by
  rw [find, follow_append]
  refine congrArg _ (funext fun e => ?_)
  rw [follow_cons, ← Way.route]
  cases disk.enter way.route part e <;> rfl

/-- What a name in a directory leads to. -/
theorem find_concat_of_directory (h : disk.find way = .ok .directory) (hname : IsName name) :
    disk.find (way ++ [name]) =
      if longestName < name.utf8ByteSize then .error .nameTooLong
      else
        match disk.entryAt? (way.route ++ [name]) with
        | none => .error .notFound
        | some e => .ok e := by
  rw [find_concat, h]
  exact enter_of_isName hname

/-- With one name more, a path leads somewhere if the name is found in a directory. -/
theorem find_concat_eq_ok_iff (hname : IsName name) :
    disk.find (way ++ [name]) = .ok e ↔ disk.find way = .ok .directory ∧
      ¬ longestName < name.utf8ByteSize ∧ disk.entryAt? (way.route ++ [name]) = some e := by
  rw [find_concat, bind_eq_ok_iff]
  constructor
  · rintro ⟨here, hhere, h⟩
    obtain ⟨rfl, hfits, hentry⟩ := (enter_eq_ok_iff_of_isName hname).1 h
    exact ⟨hhere, hfits, hentry⟩
  · rintro ⟨hhere, hfits, hentry⟩
    exact ⟨_, hhere, (enter_eq_ok_iff_of_isName hname).2 ⟨rfl, hfits, hentry⟩⟩

/-- With one part more, something is missing on a path if it was before, or if the part is a name
that is missing in the directory that the path leads to. -/
theorem find_concat_eq_notFound_iff :
    disk.find (way ++ [part]) = .error .notFound ↔ disk.find way = .error .notFound ∨
      disk.find way = .ok .directory ∧ IsName part ∧
        ¬ longestName < part.utf8ByteSize ∧ disk.entryAt? (way.route ++ [part]) = none := by
  rw [find_concat]
  cases disk.find way with
  | error e => exact ⟨.inl, fun h => h.elim id fun h => nomatch h.1⟩
  | ok here =>
    rw [Except.bind, enter_eq_notFound_iff]
    constructor
    · rintro ⟨rfl, h⟩
      exact .inr ⟨rfl, h⟩
    · rintro (h | ⟨h, hrest⟩)
      · cases h
      · cases h
        exact ⟨rfl, hrest⟩

/-- A path does not lead anywhere if something is missing on a part of it. -/
theorem find_of_prefix_missing {front : Way} (hfront : front <+: way)
    (h : disk.find front = .error .notFound) : disk.find way = .error .notFound := by
  obtain ⟨rest, rfl⟩ := hfront
  rw [find, follow_append, ← find, h]
  rfl

/-- Where something is missing on a path, the parts before it lead to a directory. -/
theorem find_prefix_of_missing {front : Way} (hfront : front <+: way)
    (h : disk.find way = .error .notFound) :
    disk.find front = .error .notFound ∨ disk.find front = .ok .directory := by
  obtain ⟨rest, rfl⟩ := hfront
  rw [find, follow_append, ← find] at h
  rcases hfront : disk.find front with e | (text | _)
  · rw [hfront] at h
    exact .inl h
  · rw [hfront] at h
    cases rest <;> cases h
  · exact .inr rfl

/-- A path leads to the directory it led to, if no directory was taken away. -/
theorem find_directory_mono
    (hkept : ∀ q, disk.entryAt? q = some .directory → disk'.entryAt? q = some .directory)
    (h : disk.find way = .ok .directory) : disk'.find way = .ok .directory := by
  induction way using List.reverseRecOn with
  | nil => rfl
  | append_singleton way part ih =>
    rw [find_concat, bind_eq_ok_iff] at h
    obtain ⟨here, hhere, hpart⟩ := h
    cases here with
    | file text => cases hpart
    | directory =>
      rw [find_concat, ih hhere]
      exact enter_directory_mono hkept hpart

/-! ## Paths that turn back -/

/-- Behind something that is missing, a path goes up again. -/
def TurnsBack (disk : FileSystem) (way : Way) : Prop :=
  ∃ front rest : Way, way = front ++ rest ∧ disk.find front = .error .notFound ∧ ".." ∈ rest

theorem turnsBack_iff : disk.TurnsBack way ↔
    ∃ k < way.length, disk.find (way.take k) = .error .notFound ∧ ".." ∈ way.drop k := by
  constructor
  · rintro ⟨front, rest, rfl, hmissing, hup⟩
    refine ⟨front.length, ?_, ?_, ?_⟩
    · rw [List.length_append]
      exact Nat.lt_add_of_pos_right (List.length_pos_of_mem hup)
    · rwa [List.take_left]
    · rwa [List.drop_left]
  · rintro ⟨k, -, hmissing, hup⟩
    exact ⟨way.take k, way.drop k, (List.take_append_drop k way).symm, hmissing, hup⟩

instance (disk : FileSystem) (way : Way) : Decidable (disk.TurnsBack way) :=
  decidable_of_iff' _ turnsBack_iff

theorem TurnsBack.missing (h : disk.TurnsBack way) : disk.find way = .error .notFound := by
  obtain ⟨front, rest, rfl, hmissing, -⟩ := h
  exact find_of_prefix_missing (List.prefix_append front rest) hmissing

theorem TurnsBack.concat (h : disk.TurnsBack way) (part : String) :
    disk.TurnsBack (way ++ [part]) := by
  obtain ⟨front, rest, rfl, hmissing, hup⟩ := h
  exact ⟨front, rest ++ [part], List.append_assoc .., hmissing, List.mem_append_left _ hup⟩

/-- A path without two dots does not. -/
theorem not_turnsBack (h : ".." ∉ way) : ¬ disk.TurnsBack way := by
  rintro ⟨front, rest, rfl, -, hup⟩
  exact h (List.mem_append_right front hup)

/-- Nor does one that goes up from a directory which is there. -/
example : ¬ (⟨[(["x"], .directory)]⟩ : FileSystem).TurnsBack ["x", "..", "y"] := by decide

/-- What is missing on the way to a directory is not in it. -/
theorem route_ne_concat_of_missing {front : Way} (hback : ¬ disk.TurnsBack way)
    (hfront : front <+: way) (hmissing : disk.find front = .error .notFound) (name : String) :
    front.route ≠ way.route ++ [name] := by
  obtain ⟨rest, rfl⟩ := hfront
  have hdown : ".." ∉ rest := fun hup => hback ⟨front, rest, rfl, hmissing, hup⟩
  have hprefix := Way.prefix_routeFrom hdown front.route
  rw [Way.routeFrom, Way.route, Way.routeFrom, ← List.foldl_append] at hprefix
  intro hroute
  rw [Way.route, Way.routeFrom] at hroute
  rw [hroute] at hprefix
  exact concat_not_prefix_self _ name hprefix

/-! ## Names that are too long -/

/-- A part of a path is a name that is too long. -/
def IsTooLong (way : Way) : Prop := ∃ name ∈ way, longestName < name.utf8ByteSize

instance (way : Way) : Decidable (IsTooLong way) :=
  inferInstanceAs (Decidable (∃ name ∈ way, _ < _))

theorem IsTooLong.append (h : IsTooLong way) (rest : Way) : IsTooLong (way ++ rest) :=
  let ⟨name, hname, hlong⟩ := h
  ⟨name, List.mem_append_left _ hname, hlong⟩

theorem isTooLong_concat (way : Way) (h : longestName < name.utf8ByteSize) :
    IsTooLong (way ++ [name]) :=
  ⟨name, List.mem_append_right _ List.mem_cons_self, h⟩

theorem isName_of_too_long (h : longestName < part.utf8ByteSize) : IsName part :=
  ⟨by rintro rfl; revert h; decide, by rintro rfl; revert h; decide⟩

/-- A name that is too long is found to be so in a directory, and only there. -/
theorem enter_eq_nameTooLong_iff :
    disk.enter above part here = .error .nameTooLong ↔
      here = .directory ∧ longestName < part.utf8ByteSize := by
  cases here with
  | file text => exact ⟨nofun, fun h => nomatch h.1⟩
  | directory =>
    by_cases hlong : longestName < part.utf8ByteSize
    · rw [enter_of_isName (isName_of_too_long hlong), if_pos hlong]
      exact ⟨fun _ => ⟨rfl, hlong⟩, fun _ => rfl⟩
    · by_cases hname : IsName part
      · rw [enter_of_isName hname, if_neg hlong]
        cases disk.entryAt? (above ++ [part]) <;> exact ⟨nofun, fun h => absurd h.2 hlong⟩
      · rw [enter_of_not_isName hname]
        exact ⟨nofun, fun h => absurd h.2 hlong⟩

/-- A path that leads somewhere is followed to its end. -/
theorem not_isTooLong_of_find (h : disk.find way = .ok e) : ¬ IsTooLong way := by
  induction way using List.reverseRecOn generalizing e with
  | nil => exact fun ⟨_, hname, _⟩ => absurd hname List.not_mem_nil
  | append_singleton way part ih =>
    rw [find_concat, bind_eq_ok_iff] at h
    obtain ⟨here, hhere, hpart⟩ := h
    rintro ⟨name, hname, hlong⟩
    rcases List.mem_append.1 hname with hname | hname
    · exact ih hhere ⟨name, hname, hlong⟩
    · obtain rfl := List.mem_singleton.1 hname
      cases here with
      | file text => cases hpart
      | directory =>
        rw [enter_eq_nameTooLong_iff.2 ⟨rfl, hlong⟩] at hpart
        cases hpart

theorem isTooLong_of_find (h : disk.find way = .error .nameTooLong) : IsTooLong way := by
  induction way using List.reverseRecOn with
  | nil => cases h
  | append_singleton way part ih =>
    rw [find_concat] at h
    cases hhere : disk.find way with
    | error e =>
      rw [hhere] at h
      cases h
      exact (ih hhere).append _
    | ok here =>
      rw [hhere] at h
      exact isTooLong_concat way (enter_eq_nameTooLong_iff.1 h).2

/-! ## Trees -/

theorem isSome_entryAt?_iff (h : route ≠ []) :
    (disk.entryAt? route).isSome = true ↔ ∃ e, (route, e) ∈ disk.entries := by
  rw [entryAt?_of_ne_nil h, Option.isSome_iff_ne_none, ne_eq, List.lookup_eq_none_iff]
  constructor
  · intro hnone
    by_contra hno
    refine hnone fun x hx => bne_iff_ne.2 fun hroute => hno ⟨x.2, ?_⟩
    rw [hroute]
    exact hx
  · rintro ⟨e, he⟩ hnone
    exact bne_iff_ne.1 (hnone _ he) rfl

/-- Every entry is in a directory. -/
def IsTree (disk : FileSystem) : Prop :=
  ∀ (route : Route) (name : String) (e : Entry),
    disk.entryAt? (route ++ [name]) = some e → disk.entryAt? route = some .directory

theorem isTree_iff :
    disk.IsTree ↔ ∀ x ∈ disk.entries, disk.entryAt? x.1.dropLast = some .directory := by
  constructor
  · rintro h ⟨route, e⟩ hx
    cases route using List.reverseRecOn with
    | nil => rfl
    | append_singleton route name =>
      have hsome : (disk.entryAt? (route ++ [name])).isSome = true :=
        (isSome_entryAt?_iff (concat_ne_nil _ _)).2 ⟨e, hx⟩
      obtain ⟨e', he'⟩ := Option.isSome_iff_exists.1 hsome
      rw [List.dropLast_concat]
      exact h route name e' he'
  · intro h route name e hentry
    obtain ⟨e', he'⟩ := (isSome_entryAt?_iff (concat_ne_nil route name)).1
      (Option.isSome_iff_exists.2 ⟨e, hentry⟩)
    have hparent := h _ he'
    rwa [List.dropLast_concat] at hparent

instance (disk : FileSystem) : Decidable disk.IsTree := decidable_of_iff' _ isTree_iff

/-- Nothing is below what is missing. -/
theorem IsTree.entryAt?_append_eq_none (h : disk.IsTree) (hnone : disk.entryAt? route = none)
    (rest : Route) : disk.entryAt? (route ++ rest) = none := by
  induction rest using List.reverseRecOn with
  | nil => rw [List.append_nil, hnone]
  | append_singleton rest name ih =>
    cases hentry : disk.entryAt? (route ++ (rest ++ [name])) with
    | none => rfl
    | some e =>
      rw [← List.append_assoc] at hentry
      rw [h _ _ _ hentry] at ih
      cases ih

/-- What a directory is in is a directory. -/
theorem IsTree.entryAt?_dropLast (htree : disk.IsTree) (h : disk.entryAt? route = some .directory) :
    disk.entryAt? route.dropLast = some .directory := by
  cases route using List.reverseRecOn with
  | nil => rfl
  | append_singleton route name =>
    rw [List.dropLast_concat]
    exact htree route name _ h

/-- In a tree, what a path leads to is the entry where it goes to. -/
theorem IsTree.entryAt?_of_find (htree : disk.IsTree) (h : disk.find way = .ok e) :
    disk.entryAt? way.route = some e := by
  induction way using List.reverseRecOn generalizing e with
  | nil =>
    cases h
    rfl
  | append_singleton way part ih =>
    rw [Way.route_concat]
    by_cases hname : IsName part
    · rw [Route.go_of_isName hname]
      exact ((find_concat_eq_ok_iff hname).1 h).2.2
    rw [find_concat, bind_eq_ok_iff] at h
    obtain ⟨here, hhere, hpart⟩ := h
    cases here with
    | file text => cases hpart
    | directory =>
      rw [enter_of_not_isName hname] at hpart
      cases hpart
      rw [Route.go]
      split
      · exact ih hhere
      · next hdot =>
        rw [if_pos (not_not.1 fun hdots => hname ⟨hdot, hdots⟩)]
        exact htree.entryAt?_dropLast (ih hhere)

/-- In a tree there is no entry where a path goes to, if it leads nowhere because something is
missing and does not turn back. -/
theorem IsTree.entryAt?_of_missing (htree : disk.IsTree) (hback : ¬ disk.TurnsBack way)
    (h : disk.find way = .error .notFound) : disk.entryAt? way.route = none := by
  induction way using List.reverseRecOn with
  | nil => cases h
  | append_singleton way part ih =>
    rw [Way.route_concat]
    rcases find_concat_eq_notFound_iff.1 h with habove | ⟨_, hname, _, hnone⟩
    · have hmissing := ih (fun hway => hback (hway.concat part)) habove
      have hpart : part ≠ ".." := fun hup =>
        hback ⟨way, [part], rfl, habove, List.mem_singleton.2 hup.symm⟩
      by_cases hname : IsName part
      · rw [Route.go_of_isName hname]
        exact htree.entryAt?_append_eq_none hmissing [part]
      · -- What is no name here is one dot.
        rw [Route.go, if_pos (not_not.1 fun hdot => hname ⟨hdot, hpart⟩), hmissing]
    · rw [Route.go_of_isName hname, hnone]

/-! ## The names in a directory -/

/-- The names in a directory are those with an entry in it. -/
theorem mem_namesIn_iff {x : String} :
    x ∈ disk.namesIn route ↔ (disk.entryAt? (route ++ [x])).isSome = true := by
  have hsplit : ∀ r : Route, (if r.dropLast = route then r.getLast? else none) = some x ↔
      r = route ++ [x] := by
    intro r
    constructor
    · intro hr
      split at hr
      · next hdrop =>
        rw [← hdrop]
        exact (List.dropLast_append_getLast? x hr).symm
      · cases hr
    · rintro rfl
      rw [List.dropLast_concat, if_pos rfl, List.getLast?_concat]
  rw [isSome_entryAt?_iff (concat_ne_nil _ _), namesIn, List.mem_filterMap]
  constructor
  · rintro ⟨y, hy, hx⟩
    exact ⟨y.2, by rw [← (hsplit y.1).1 hx]; exact hy⟩
  · rintro ⟨e, he⟩
    exact ⟨_, he, (hsplit _).2 rfl⟩

theorem entryOf_of_ne_nil (h : way ≠ []) : disk.entryOf way = disk.find way := if_neg h

theorem entryOf_concat (disk : FileSystem) (way : Way) (part : String) :
    disk.entryOf (way ++ [part]) = disk.find (way ++ [part]) :=
  entryOf_of_ne_nil (concat_ne_nil way part)

/-- The empty path names no directory. -/
theorem list_nil (disk : FileSystem) : disk.list [] = .error .notFound := rfl

theorem list_of_directory (hway : way ≠ []) (h : disk.find way = .ok .directory) :
    disk.list way = .ok (disk.namesIn way.route) := by
  rw [list, entryOf_of_ne_nil hway, h]

end

end FileSystem

end Stencil
