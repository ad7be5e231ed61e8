import Stencil.Proofs.Blueprint.Codec
import Stencil.Proofs.Store.Put
import Stencil.Proofs.Store.Session

/-!
# Stores that stand for each other

A store on disk and a store in memory answer every request as a registry does. On disk the registry
is what the files of the directory say (`FileStore.Mirrors`), and there is nothing else in the
directory; a directory that is missing stands for the empty registry. A request keeps that up, or it
fails at a name that is too long (`FileStore.Mirrors.ask`).

The directory of the store can be told by any path, unless the path turns back behind a name that is
missing. At the empty path blueprints are put, read and removed like everywhere, but no names are
listed (`Answer.unlisted`), so that a store there cannot take the place of one in memory
(`stores_are_interchangeable_iff`).
-/

namespace Stencil

open FileSystem (longestName IsTooLong)

/-- A file that the request is about has a name that is too long. -/
def Request.IsTooLong : Request → Prop
  | put b => longestName < (FileStore.temporaryName b.name).utf8ByteSize
  | get name | remove name => longestName < (FileStore.fileName name).utf8ByteSize
  | names => False

namespace Answer

/-- The answer of a store that lists no names. -/
def unlisted : Answer → Answer
  | names (.ok _) => names (.ok [])
  | answer => answer

theorem unlisted_eq_self_iff {answer : Answer} :
    answer.unlisted = answer ↔ ∀ l, answer = names (.ok l) → l = [] := by
  constructor
  · rintro h l rfl
    cases h
    rfl
  · intro h
    rcases answer with x | x | x | (e | l)
    · rfl
    · rfl
    · rfl
    · rfl
    · rw [h l rfl]
      rfl

/-- Nothing is lost where no names are, or where they are not asked for. -/
theorem map_unlisted_eq_self_iff {answers : List Answer} :
    answers.map unlisted = answers ↔ ∀ l, names (.ok l) ∈ answers → l = [] := by
  have hself := List.map_inj_left (f := unlisted) (g := id) (l := answers)
  rw [List.map_id] at hself
  rw [hself]
  simp only [id, unlisted_eq_self_iff]
  exact ⟨fun h l hl => h _ hl l rfl, fun h a ha l hl => h l (hl ▸ ha)⟩

theorem failure?_unlisted (answer : Answer) : answer.unlisted.failure? = answer.failure? := by
  rcases answer with x | x | x | (e | l)
  · rfl
  · rfl
  · rfl
  · rfl
  · rfl

end Answer

namespace FileStore

section
variable {store : FileStore} {m : Registry} {b : Blueprint} {name : String}

/-! ## Registries on disk -/

/-- The directory of a store holds the files of a registry. -/
structure Mirrors (store : FileStore) (m : Registry) : Prop where
  /-- The directory is there, or nothing is registered and it is missing. -/
  place : store.disk.find store.directory = .ok .directory ∨
    (m = ∅ ∧ store.disk.find store.directory = .error .notFound ∧
      ¬ store.disk.TurnsBack store.directory ∧ store.disk.IsTree)
  /-- The file of a name holds the blueprint that is registered under it. -/
  entry (name : String) :
    store.disk.entryAt? (store.route name) = (m.lookup name).map fun b => .file b.toText
  /-- There is nothing in the directory but files of names. -/
  bare (file : String) (h : ∀ name, file ≠ fileName name) :
    store.disk.entryAt? (store.directory.route ++ [file]) = none
  /-- Valid names are registered, with blueprints that can be read. -/
  fit {name : String} {b : Blueprint} (h : m.lookup name = some b) :
    isValidName name = true ∧ Blueprint.ofText? b.toText = some b

/-- The files in the directory are those of the registered names. -/
theorem Mirrors.mem_namesIn_iff (h : store.Mirrors m) {file : String} :
    file ∈ store.disk.namesIn store.directory.route ↔ ∃ name ∈ m, file = fileName name := by
  rw [FileSystem.mem_namesIn_iff]
  constructor
  · intro hsome
    by_contra hno
    rw [h.bare file fun name hname => hno ⟨name, ?_, hname⟩] at hsome
    · cases hsome
    · have hentry := h.entry name
      rw [route, ← hname] at hentry
      rwa [hentry, Option.isSome_map, Finmap.lookup_isSome] at hsome
  · rintro ⟨name, hname, rfl⟩
    rw [← route, h.entry, Option.isSome_map, Finmap.lookup_isSome]
    exact hname

/-- Making the directory does not touch its files. -/
theorem Mirrors.entryAt?_made (h : store.Mirrors m) (x : String) :
    store.made.entryAt? (store.directory.route ++ [x]) =
      store.disk.entryAt? (store.directory.route ++ [x]) :=
  FileStore.entryAt?_made (fun hback => h.place.elim
    (fun hthere => nomatch hback.missing.symm.trans hthere) fun hplace => hplace.2.2.1 hback) x

/-- The directory holds no temporary file. -/
theorem Mirrors.entryAt?_temporaryRoute (h : store.Mirrors m) (name : String) :
    store.disk.entryAt? (store.temporaryRoute name) = none :=
  h.bare _ fun other => (fileName_ne_temporaryName other name).symm

/-! ## Requests -/

/-- How a store tells what a registry answers: all of it, but for the names at the empty path. -/
def tells (store : FileStore) (answer : Answer) : Answer :=
  if store.directory = [] then answer.unlisted else answer

theorem tells_of_nil (hpath : store.directory = []) : store.tells = Answer.unlisted :=
  funext fun _ => if_pos hpath

theorem tells_of_ne_nil (hpath : store.directory ≠ []) : store.tells = id :=
  funext fun _ => if_neg hpath

theorem failure?_tells (store : FileStore) (answer : Answer) :
    (store.tells answer).failure? = answer.failure? := by
  rw [tells]
  split
  · exact answer.failure?_unlisted
  · rfl

theorem Mirrors.names (h : store.Mirrors m) :
    Answer.names store.names = store.tells (.names (.ok m.names)) := by
  rw [tells]
  split
  · next hpath => rw [names_of_nil hpath, Answer.unlisted]
  · next hpath =>
    rcases h.place with hdirectory | ⟨rfl, hmissing, _⟩
    · obtain ⟨l, hl, hsorted, hmem⟩ := exists_names_of_directory hpath hdirectory
      rw [hl, Registry.eq_names hsorted fun name => ?_]
      rw [hmem, h.entry, Option.isSome_map, and_iff_right_iff_imp]
      intro hsome
      obtain ⟨b, hb⟩ := Option.isSome_iff_exists.1 hsome
      exact (h.fit hb).1
    · rw [names_of_missing hmissing, Registry.names_empty]

theorem Mirrors.get (h : store.Mirrors m) (hvalid : isValidName name = true) :
    store.get name = .ok (m.lookup name) ∨
      (longestName < (fileName name).utf8ByteSize ∧
        store.get name = .error (.io .nameTooLong)) := by
  rcases h.place with hdirectory | ⟨rfl, hmissing, _⟩
  · by_cases hlong : longestName < (fileName name).utf8ByteSize
    · refine .inr ⟨hlong, ?_⟩
      rw [get_of_isValidName hvalid, hdirectory]
      exact if_pos hlong
    · left
      rw [get_of_directory hdirectory hvalid hlong, h.entry]
      cases hb : m.lookup name with
      | none => rfl
      | some b => rw [Option.map_some, answerOf, (h.fit hb).2]
  · exact .inl (get_of_missing hmissing hvalid)

theorem Mirrors.insert {after : FileStore} (h : store.Mirrors m)
    (htext : Blueprint.ofText? b.toText = some b) (hput : store.put b = (.ok (), after)) :
    after.Mirrors (m.insert b.name b) := by
  have hholds := holds_of_put hput
  constructor
  case place => exact .inl (hholds.directory ▸ hholds.find)
  case entry =>
    intro name
    rw [hholds.entry_route]
    by_cases hname : name = b.name
    · rw [if_pos hname, hname, Finmap.lookup_insert]
      rfl
    · rw [if_neg hname, Finmap.lookup_insert_of_ne m hname, route, h.entryAt?_made, ← route, h.entry]
  case bare =>
    intro file hfile
    rw [hholds.directory, hholds.entry, if_neg (hfile b.name), h.entryAt?_made, h.bare file hfile,
      ite_self]
  case fit =>
    intro name b' hb'
    by_cases hname : name = b.name
    · rw [hname, Finmap.lookup_insert] at hb'
      cases hb'
      exact ⟨hname ▸ hholds.valid, htext⟩
    · rw [Finmap.lookup_insert_of_ne m hname] at hb'
      exact h.fit hb'

/-- The directory of a store cannot be made where it is missing, since a name on its path is too
long or the path ends in a dot. -/
def IsUnmakeable (store : FileStore) : Prop :=
  FileSystem.IsTooLong store.directory ∨ store.directory.getLast? = some "."

instance (store : FileStore) : Decidable store.IsUnmakeable :=
  inferInstanceAs (Decidable (_ ∨ _))

theorem Mirrors.put (h : store.Mirrors m) (hvalid : isValidName b.name = true)
    (htext : Blueprint.ofText? b.toText = some b) :
    ((store.put b).1 = .ok () ∧ (store.put b).2.Mirrors (m.insert b.name b)) ∨
      ((longestName < (temporaryName b.name).utf8ByteSize ∨ store.IsUnmakeable) ∧
        ∃ e, (store.put b).1 = .error (.io e)) := by
  have houtcome := putOutcome store b
  generalize hput : store.put b = p at houtcome
  cases houtcome with
  | invalid hinvalid => exact absurd hvalid hinvalid
  | @unmade e _ hmake =>
    refine .inr ⟨.inr ?_, e, rfl⟩
    have hanswer := FileSystem.makeDirectories_fst store.directory store.disk
    rcases h.place with hdirectory | ⟨_, hmissing, hback, htree⟩
    · have hsame : (FileSystem.makeDirectories store.directory store.disk).2 = store.disk :=
        FileSystem.makeDirectories_of_not_missing (hdirectory ▸ nofun)
      rw [hsame, hdirectory, hmake] at hanswer
      cases hanswer
    · rcases FileSystem.makeDirectories_of_missing htree hback hmissing with hmade | hmade | hmade
      · rw [hmade, hmake] at hanswer
        cases hanswer
      · -- Where directories were made, a name that is too long was so before.
        exact .inl (FileSystem.isTooLong_of_find hmade)
      · rw [hmade] at hanswer
        exact .inr (FileSystem.getLast?_of_makeBelow_notFound _ _ _ hanswer)
  | tooLong _ _ hlong => exact .inr ⟨.inl hlong, _, rfl⟩
  -- The directory holds files only, so that no directory is in the way of the two files.
  | unwritten _ _ hblocked =>
    rw [temporaryRoute, h.entryAt?_made, ← temporaryRoute, h.entryAt?_temporaryRoute] at hblocked
    cases hblocked
  | unnamed _ _ _ hblocked =>
    rw [route, h.entryAt?_made, ← route, h.entry] at hblocked
    obtain ⟨_, _, hfile⟩ := Option.map_eq_some_iff.1 hblocked
    cases hfile
  | stored _ _ _ _ _ => exact .inl ⟨rfl, h.insert htext hput⟩

theorem Mirrors.erase (h : store.Mirrors m)
    (hdirectory : store.disk.find store.directory = .ok .directory) (name : String) :
    ({ store with disk := store.disk.erase (store.route name) } : FileStore).Mirrors
      (m.erase name) := by
  have hfree : store.disk.entryAt? (store.route name) ≠ some .directory := by
    rw [h.entry]
    cases m.lookup name <;> exact nofun
  constructor
  case place => exact .inl (FileSystem.find_erase_of_free hfree hdirectory)
  case entry =>
    intro other
    by_cases hname : other = name
    · rw [hname, Finmap.lookup_erase]
      exact FileSystem.entryAt?_erase_self (FileSystem.concat_ne_nil _ _)
    · rw [Finmap.lookup_erase_ne hname, ← h.entry]
      exact FileSystem.entryAt?_erase_of_ne fun hroute =>
        hname (fileName_inj.1 (FileSystem.concat_inj.1 hroute))
  case bare =>
    intro file hfile
    rw [← h.bare file hfile]
    exact FileSystem.entryAt?_erase_of_ne fun hroute => hfile name (FileSystem.concat_inj.1 hroute)
  case fit =>
    intro other b hb
    by_cases hname : other = name
    · rw [hname, Finmap.lookup_erase] at hb
      cases hb
    · rw [Finmap.lookup_erase_ne hname] at hb
      exact h.fit hb

theorem Mirrors.remove (h : store.Mirrors m) (hvalid : isValidName name = true) :
    ((store.remove name).1 = .ok (m.lookup name).isSome ∧
        (store.remove name).2.Mirrors (m.erase name)) ∨
      (longestName < (fileName name).utf8ByteSize ∧
        (store.remove name).1 = .error (.io .nameTooLong)) := by
  rw [FileStore.remove, if_pos hvalid]
  rcases h.place with hdirectory | ⟨rfl, hmissing, _⟩
  · rw [way, FileSystem.remove_of_directory hdirectory (isName_fileName name), ← route]
    by_cases hlong : longestName < (fileName name).utf8ByteSize
    · rw [if_pos hlong]
      exact .inr ⟨hlong, rfl⟩
    · rw [if_neg hlong, h.entry]
      left
      cases hb : m.lookup name with
      | none => exact ⟨rfl, (Registry.erase_of_lookup hb).symm ▸ h⟩
      | some b => exact ⟨rfl, h.erase hdirectory name⟩
  · have hfile : FileSystem.remove (store.way name) store.disk =
        (.error .notFound, store.disk) := by
      rw [FileSystem.remove, way, FileSystem.entryOf_concat, FileSystem.find_concat, hmissing]
      rfl
    have hlookup : (∅ : Registry).lookup name = none := Finmap.lookup_empty name
    rw [hfile, hlookup, Registry.erase_of_lookup hlookup]
    exact .inl ⟨rfl, h⟩

/-- A store on disk tells what its registry answers to a request, unless a name is too long for the
files or the directory cannot be made. -/
theorem Mirrors.ask (h : store.Mirrors m) {r : Request} (hfit : r.IsFit) :
    ((r.ask store).1 = store.tells (r.ask m).1 ∧ (r.ask store).2.Mirrors (r.ask m).2) ∨
      ((r.IsTooLong ∨ store.IsUnmakeable) ∧ (r.ask store).1.IsIoFailure) := by
  -- Only names are told otherwise.
  have htells {answer : Answer} (hother : answer.unlisted = answer) :
      store.tells answer = answer := by
    rw [tells, hother, ite_self]
  cases r with
  | put b =>
    refine (h.put hfit.1 hfit.2).imp (fun hok => ⟨?_, hok.2⟩) fun ⟨hlong, e, he⟩ => ?_
    · exact (congrArg Answer.put hok.1).trans (htells rfl).symm
    · exact ⟨hlong, e, congrArg (Answer.failure? ∘ Answer.put) he⟩
  | get name =>
    refine (h.get hfit).imp (fun hok => ⟨?_, h⟩) fun hfail => ?_
    · exact (congrArg Answer.get hok).trans (htells rfl).symm
    · exact ⟨.inl hfail.1, .nameTooLong, congrArg (Answer.failure? ∘ Answer.get) hfail.2⟩
  | remove name =>
    refine (h.remove hfit).imp (fun hok => ⟨?_, hok.2⟩) fun hfail => ?_
    · exact (congrArg Answer.remove hok.1).trans (htells rfl).symm
    · exact ⟨.inl hfail.1, .nameTooLong, congrArg (Answer.failure? ∘ Answer.remove) hfail.2⟩
  | names => exact .inl ⟨h.names, h⟩

theorem directory_ask (store : FileStore) (r : Request) :
    (r.ask store).2.directory = store.directory := by
  cases r with
  | put b => rfl
  | get name | names => rfl
  | remove name =>
    change (store.remove name).2.directory = store.directory
    rw [FileStore.remove]
    split
    · split <;> rfl
    · rfl

/-! ## Runs -/

/-- The directory of a store is empty, or missing and its path does not turn back. -/
def IsBlank (store : FileStore) : Prop :=
  store.disk.IsTree ∧
    ((store.disk.find store.directory = .ok .directory ∧
        store.disk.namesIn store.directory.route = []) ∨
      (store.disk.find store.directory = .error .notFound ∧
        ¬ store.disk.TurnsBack store.directory))

/-- A directory that is empty or missing stands for the empty registry. -/
theorem IsBlank.mirrors (h : store.IsBlank) : store.Mirrors ∅ := by
  obtain ⟨htree, hplace⟩ := h
  have hbare : ∀ file, store.disk.entryAt? (store.directory.route ++ [file]) = none := by
    intro file
    rcases hplace with ⟨_, hempty⟩ | ⟨hmissing, hback⟩
    · refine Option.not_isSome_iff_eq_none.1 fun hsome => ?_
      rw [← FileSystem.mem_namesIn_iff, hempty] at hsome
      cases hsome
    · exact htree.entryAt?_append_eq_none (htree.entryAt?_of_missing hback hmissing) [file]
  constructor
  case place => exact hplace.imp And.left fun hmissing => ⟨rfl, hmissing.1, hmissing.2, htree⟩
  case entry =>
    intro name
    rw [Finmap.lookup_empty]
    exact hbare (fileName name)
  case bare => exact fun file _ => hbare file
  case fit =>
    intro name b hb
    rw [Finmap.lookup_empty] at hb
    cases hb

end

end FileStore

section
variable {store : FileStore} {requests : List Request}

/-- One store on disk in all states of a run tells what a registry answers. -/
theorem FileStore.session_mirrors {P : Request → Prop} {Q : Answer → Prop}
    (hask : ∀ {s : FileStore} {m : Registry} {r : Request}, s.directory = store.directory →
      s.Mirrors m → P r → Q (r.ask s).1 →
      (r.ask s).1 = s.tells (r.ask m).1 ∧ (r.ask s).2.Mirrors (r.ask m).2)
    (hblank : store.IsBlank) (hP : ∀ r ∈ requests, P r) (hQ : ∀ a ∈ answers store requests, Q a) :
    answers store requests = (answers (∅ : Registry) requests).map store.tells ∧
      List.Forall₂ (fun x y => x.2.Mirrors y.2) (session store requests)
        (session (∅ : Registry) requests) := by
  have hrun := session_of_ask (P := P) (Q := Q) (f := store.tells)
    (R := fun (s : FileStore) m => s.Mirrors m ∧ s.directory = store.directory)
    (fun {s m r} ⟨hmirrors, hdirectory⟩ hr ha => by
      obtain ⟨hanswer, hafter⟩ := hask hdirectory hmirrors hr ha
      have htells : s.tells = store.tells := by
        funext answer
        rw [tells, tells, hdirectory]
      exact ⟨htells ▸ hanswer, hafter, (directory_ask s r).trans hdirectory⟩)
    requests ⟨hblank.mirrors, rfl⟩ hP hQ
  exact ⟨hrun.1, hrun.2.imp fun _ _ h => h.1⟩

/-- Files raise errors only at names that are too long, and where a directory cannot be made. -/
theorem not_isIoFailure_of_short (hblank : store.IsBlank) (hfit : ∀ r ∈ requests, r.IsFit)
    (hnames : ∀ r ∈ requests, ¬ r.IsTooLong) (hmakeable : ¬ store.IsUnmakeable) :
    ∀ a ∈ answers store requests, ¬ a.IsIoFailure := by
  have hanswers := (FileStore.session_mirrors (Q := fun _ => True)
    (P := fun r => r.IsFit ∧ ¬ r.IsTooLong) (fun {s m r} hdirectory hmirrors hr _ =>
      (hmirrors.ask hr.1).resolve_right fun hfail => hfail.1.elim hr.2 fun hunmakeable =>
        hmakeable (by rwa [FileStore.IsUnmakeable, ← hdirectory]))
    hblank (fun r hr => ⟨hfit r hr, hnames r hr⟩) fun _ _ => trivial).1
  rw [hanswers]
  intro a ha
  obtain ⟨answer, hanswer, rfl⟩ := List.mem_map.1 ha
  rintro ⟨e, he⟩
  rw [FileStore.failure?_tells, Registry.failure?_answers requests ∅ answer hanswer] at he
  cases he

/-- **Stores can be exchanged for each other, but at the empty path.** A store on disk whose
directory is empty or missing and an empty store in memory are asked the same things, with valid
names and blueprints that can be stored, and the files raise no error. They give the same answers,
those of a finite map, where a blueprint replaces the one of its name, removing tells whether there
was one, and the names are in strict order. The exception is the empty path, where no names are
listed: there the answers are the same if nothing is registered whenever the names are asked for,
and only then. After every request the directory holds the files of the registered names, each with
its blueprint, and nothing else. -/
theorem stores_are_interchangeable_iff (hblank : store.IsBlank) (hfit : ∀ r ∈ requests, r.IsFit)
    (hio : ∀ a ∈ answers store requests, ¬ a.IsIoFailure) :
    answers ({} : MemoryStore) requests = answers (∅ : Registry) requests ∧
      (answers store requests = answers ({} : MemoryStore) requests ↔
        (store.directory = [] →
          ∀ l, .names (.ok l) ∈ answers ({} : MemoryStore) requests → l = [])) ∧
      (store.directory = [] →
        answers store requests = (answers (∅ : Registry) requests).map Answer.unlisted) ∧
      List.Forall₂
        (fun x y => x.2.Mirrors y.2 ∧ ∀ file, file ∈ x.2.disk.namesIn x.2.directory.route ↔
          ∃ name ∈ y.2, file = FileStore.fileName name)
        (session store requests) (session (∅ : Registry) requests) := by
  have hmemory : answers ({} : MemoryStore) requests = answers (∅ : Registry) requests := by
    have hrun := session_of_ask (P := fun _ => True) (Q := fun _ => True) (f := id)
      (R := MemoryStore.Lists) (fun {s m r} h _ _ => h.ask r) requests MemoryStore.lists_empty
      (fun _ _ => trivial) fun _ _ => trivial
    rw [hrun.1, List.map_id]
  obtain ⟨hanswers, hsession⟩ := FileStore.session_mirrors (P := Request.IsFit)
    (Q := fun a => ¬ a.IsIoFailure) (fun {s m r} _ hmirrors hr ha =>
      (hmirrors.ask hr).resolve_right fun hfail => ha hfail.2) hblank hfit hio
  refine ⟨hmemory, ?_, fun hpath => ?_, hsession.imp fun _ _ h => ⟨h, fun _ => h.mem_namesIn_iff⟩⟩
  · rw [hanswers, hmemory]
    by_cases hpath : store.directory = []
    · rw [FileStore.tells_of_nil hpath, Answer.map_unlisted_eq_self_iff]
      exact ⟨fun h _ => h, fun h => h hpath⟩
    · rw [FileStore.tells_of_ne_nil hpath, List.map_id]
      exact iff_of_true rfl fun hnil => absurd hnil hpath
  · rw [hanswers, FileStore.tells_of_nil hpath]

/-- The names `a` and `a.json` have the files `a.json` and `a.json.json`. In a directory that is
missing and at the empty path the same is asked, and only the names are told otherwise. -/
theorem stores_are_interchangeable_iff_dotted :
    let a : Blueprint := ⟨"a", ⟨.root, none, none, none, [], none⟩⟩
    let dotted : Blueprint := ⟨"a.json", ⟨.root, none, none, some (MarkerId.ofNat 7), [], none⟩⟩
    let store : FileStore := ⟨["d"], {}⟩
    let pathless : FileStore := ⟨[], {}⟩
    let requests : List Request := [.put dotted, .put a, .get "a.json", .remove "b", .names]
    store.IsBlank ∧ pathless.IsBlank ∧ (∀ r ∈ requests, r.IsFit) ∧
      (∀ answer ∈ answers store requests, ¬ answer.IsIoFailure) ∧
      (∀ answer ∈ answers pathless requests, ¬ answer.IsIoFailure) ∧
      answers store requests = answers ({} : MemoryStore) requests ∧
      answers store requests = [.put (.ok ()), .put (.ok ()), .get (.ok (some dotted)),
        .remove (.ok false), .names (.ok ["a", "a.json"])] ∧
      answers pathless requests = [.put (.ok ()), .put (.ok ()), .get (.ok (some dotted)),
        .remove (.ok false), .names (.ok [])] := by
  intro a dotted store pathless requests
  have hblank : store.IsBlank :=
    ⟨by decide, .inr ⟨rfl, FileSystem.not_turnsBack (by decide)⟩⟩
  have hpathless : pathless.IsBlank := ⟨by decide, .inl ⟨rfl, rfl⟩⟩
  have hfit : ∀ r ∈ requests, r.IsFit := by
    have ha : Blueprint.ofText? a.toText = some a := by
      rw [Blueprint.ofText?_toText]
      decide +kernel
    have hdotted : Blueprint.ofText? dotted.toText = some dotted := by
      rw [Blueprint.ofText?_toText]
      decide +kernel
    simp only [requests, List.forall_mem_cons, Request.IsFit, ha, hdotted, and_true, true_and]
    exact ⟨by decide, by decide, by decide, by decide, List.forall_mem_nil _⟩
  have hshort : ∀ r ∈ requests, ¬ r.IsTooLong := by
    simp only [requests, List.forall_mem_cons, Request.IsTooLong, not_false_iff, true_and]
    exact ⟨by decide, by decide, by decide, by decide, List.forall_mem_nil _⟩
  have hio := not_isIoFailure_of_short hblank hfit hshort (by decide)
  have hio' := not_isIoFailure_of_short hpathless hfit hshort (by decide)
  let m : Registry := Finmap.insert "a" a (Finmap.insert "a.json" dotted ∅)
  have hnames : m.names = ["a", "a.json"] := by
    refine (Registry.eq_names (by decide) fun name => ?_).symm
    rw [Finmap.lookup_isSome, Finmap.mem_insert, Finmap.mem_insert]
    simp only [List.mem_cons, List.not_mem_nil, Finmap.notMem_empty]
  have hdotted : m.lookup "a.json" = some dotted :=
    (Finmap.lookup_insert_of_ne _ (by decide)).trans (Finmap.lookup_insert _)
  have hother : m.lookup "b" = none :=
    (Finmap.lookup_insert_of_ne _ (by decide)).trans (Finmap.lookup_insert_of_ne _ (by decide))
  have hregistry : answers (∅ : Registry) requests = [.put (.ok ()), .put (.ok ()),
      .get (.ok (m.lookup "a.json")), .remove (.ok (m.lookup "b").isSome),
      .names (.ok (Registry.names (m.erase "b")))] := rfl
  rw [Registry.erase_of_lookup hother, hnames, hdotted, hother] at hregistry
  obtain ⟨hmemory, hsame, -, -⟩ := stores_are_interchangeable_iff hblank hfit hio
  obtain ⟨-, -, hunlisted, -⟩ := stores_are_interchangeable_iff hpathless hfit hio'
  have hstore : answers store requests = answers ({} : MemoryStore) requests :=
    hsame.2 fun hpath => absurd hpath (by decide)
  refine ⟨hblank, hpathless, hfit, hio, hio', hstore, ?_, ?_⟩
  · rw [hstore, hmemory, hregistry]
    rfl
  · rw [hunlisted rfl, hregistry]
    rfl

end

end Stencil
