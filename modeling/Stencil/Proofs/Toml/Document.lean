import Stencil.Proofs.Toml.Literal
import Stencil.Proofs.Toml.Quoted
import Stencil.Toml.Lines
import Stencil.Toml.Parse

/-!
# Documents are read back

A document is written as lines: assignments to bare keys, headers of one part, and empty lines
between tables (`Written`). Each line is read as the statement that it writes, whatever comes after
it (`readStatements_of_written`). The statements build the tree with the assignments at the top and
those of each table below its header, if no key is written twice (`foldlM_statements`).
-/

namespace Stencil.Toml

/-! ## Values -/

theorem skipWide_cons_of_ne {c : Char} (h : isWide c = false) (r : List Char) :
    skipWide (c :: r) = c :: r :=
  List.dropWhile_cons_of_neg (by rw [h]; decide)

theorem skipWide_blank (s : List Char) : skipWide (' ' :: s) = skipWide s := rfl

theorem readValue_quoted {q : Char} (hq : q = '"' ∨ q = '\'') (levels : Nat) (r : List Char) :
    readValue levels (q :: r) =
      (readQuoted? (q :: r)).map fun v => (.string (String.ofList v.1), v.2) := by
  rcases hq with rfl | rfl <;> cases levels <;> rfl

theorem readValue_literal {c : Char} (hc : isLiteralChar c = true) (levels : Nat) (r : List Char) :
    readValue levels (c :: r) = readLiteralValue? (c :: r) := by
  have hne {d : Char} (hd : isLiteralChar d = false) {s : List Char} : c :: r ≠ d :: s := by
    intro h
    rw [(List.cons.inj h).1, hd] at hc
    cases hc
  cases levels with
  | zero => rw [readValue] <;> exact fun _ => hne (by decide)
  | succ levels => rw [readValue] <;> exact fun _ => hne (by decide)

/-- Whether a text after an equals sign and a blank is read as a value. -/
def Shows (text : String) (v : Toml) : Prop :=
  ∀ levels r, readValue levels (skipWide (' ' :: (text.toList ++ '\n' :: r))) = some (v, '\n' :: r)

theorem exists_cons_quote (text : List Char) :
    ∃ q r, quote text = q :: r ∧ (q = '"' ∨ q = '\'') := by
  rw [quote]
  cases quoteStyle text with
  | basic | longBasic => exact ⟨'"', _, rfl, .inl rfl⟩
  | literal | longLiteral => exact ⟨'\'', _, rfl, .inr rfl⟩

theorem shows_stringText (text : String) : Shows (stringText text) (.string text) := by
  intro levels r
  have hread := @readQuoted?_quote ('\n' :: r) nofun nofun text.toList
  obtain ⟨q, s, hs, hq⟩ := exists_cons_quote text.toList
  have hwide : isWide q = false := by rcases hq with rfl | rfl <;> decide
  rw [hs, List.cons_append] at hread
  rw [skipWide_blank, stringText, String.toList_ofList, hs, List.cons_append,
    skipWide_cons_of_ne hwide,
    readValue_quoted hq, hread, Option.map_some, String.ofList_toList]

/-- A literal shows its value. -/
theorem shows_of_ofLiteral? {text : String} {v : Toml} (hne : text.toList ≠ [])
    (hall : text.toList.all isLiteralChar = true) (h : ofLiteral? text.toList = some v) :
    Shows text v := by
  intro levels r
  rw [List.all_eq_true] at hall
  have hread := readLiteralValue?_append (r := r) (c := '\n') hall (by decide) (by decide)
  obtain ⟨c, s, hs⟩ := List.exists_cons_of_ne_nil hne
  have hc : isLiteralChar c = true := hall c (hs ▸ List.mem_cons_self ..)
  have hwide : isWide c = false := by
    rw [Bool.eq_false_iff]
    intro hw
    rcases Bool.or_eq_true_iff.1 hw with h | h <;> cases eq_of_beq h <;> cases hc
  rw [h, Option.map_some, hs, List.cons_append] at hread
  rw [skipWide_blank, hs, List.cons_append, skipWide_cons_of_ne hwide, readValue_literal hc, hread]

theorem shows_boolText (b : Bool) : Shows (boolText b) (.boolean b) := by
  cases b with
  | true => exact shows_of_ofLiteral? (by decide) (by decide) rfl
  | false => exact shows_of_ofLiteral? (by decide) (by decide) rfl

theorem shows_numberText {n : Nat} {text : String} (h : numberText? n = some text) :
    Shows text (.integer n) := by
  rw [numberText?] at h
  split at h
  · next hlt =>
    cases h
    have hdigits : (toString n).toList = Nat.toDigits 10 n := by
      rw [Nat.toString_eq_repr, Nat.toList_repr]
    refine shows_of_ofLiteral? ?_ ?_ ?_ <;> rw [hdigits]
    · exact Nat.toDigits_ne_nil
    · rw [List.all_eq_true]
      intro c hc
      simp only [isLiteralChar, Char.isAlphanum, isDigit_of_mem_toDigits hc, Bool.or_true,
        Bool.true_or]
    · exact ofLiteral?_toDigits hlt
  · cases h

/-! ## Lines -/

/-- Whether a key is written without quotes. -/
def IsBareKey (key : String) : Prop :=
  key.toList ≠ [] ∧ key.toList.all isBareKeyChar = true

instance (key : String) : Decidable (IsBareKey key) := inferInstanceAs (Decidable (_ ∧ _))

/-- The first characters of the lines that are written. -/
def StartsLine (c : Char) : Prop := c = '[' ∨ isBareKeyChar c = true

instance (c : Char) : Decidable (StartsLine c) := inferInstanceAs (Decidable (_ ∨ _))

theorem StartsLine.ne {c d : Char} (hc : StartsLine c) (hd : ¬ StartsLine d) : c ≠ d := by
  rintro rfl
  exact hd hc

theorem StartsLine.isWide_eq_false {c : Char} (hc : StartsLine c) : isWide c = false := by
  simp only [isWide, Bool.or_eq_false_iff, beq_eq_false_iff_ne]
  exact ⟨hc.ne (by decide), hc.ne (by decide)⟩

section
variable {key value : String} {v : Toml} {r : List Char}

theorem exists_cons_of_isBareKey (h : IsBareKey key) :
    ∃ c s, key.toList = c :: s ∧ isBareKeyChar c = true := by
  obtain ⟨c, s, hs⟩ := List.exists_cons_of_ne_nil h.1
  exact ⟨c, s, hs, List.all_eq_true.1 h.2 c (hs ▸ List.mem_cons_self ..)⟩

theorem append_ne_of_isBareKey (hkey : IsBareKey key) {c : Char} (hc : isBareKeyChar c = false)
    (s s' : List Char) : key.toList ++ s ≠ c :: s' := by
  intro h
  obtain ⟨d, ds, hds, hd⟩ := exists_cons_of_isBareKey hkey
  rw [hds] at h
  rw [(List.cons.inj h).1, hc] at hd
  cases hd

/-- A bare key is read up to a character that is no part of one. -/
theorem readKey?_append (hkey : IsBareKey key) {c : Char} (hc : isBareKeyChar c = false)
    (hdot : ∀ s, skipWide (c :: r) ≠ '.' :: s) :
    readKey? (key.toList ++ c :: r) = some ([key], skipWide (c :: r)) := by
  have hall := List.all_eq_true.1 hkey.2
  have htake : (key.toList ++ c :: r).takeWhile isBareKeyChar = key.toList := by
    rw [List.takeWhile_append_of_pos hall, List.takeWhile_cons_of_neg (by rw [hc]; decide),
      List.append_nil]
  have hdrop : (key.toList ++ c :: r).dropWhile isBareKeyChar = c :: r := by
    rw [List.dropWhile_append_of_pos hall, List.dropWhile_cons_of_neg (by rw [hc]; decide)]
  obtain ⟨d, s, hs, hd⟩ := exists_cons_of_isBareKey hkey
  have hpart : readKeyPart? (key.toList ++ c :: r) = some (key, c :: r) := by
    have hshort : readShort? (key.toList ++ c :: r) = none := by
      rw [readShort?]
      · exact append_ne_of_isBareKey hkey (by decide) _
      · exact append_ne_of_isBareKey hkey (by decide) _
    rw [readKeyPart?, hshort]
    dsimp only
    rw [htake, hdrop, hs]
    dsimp only
    rw [← hs, String.ofList_toList]
  have hskip : skipWide (key.toList ++ c :: r) = key.toList ++ c :: r := by
    rw [hs, List.cons_append, skipWide_cons_of_ne (StartsLine.isWide_eq_false (.inr hd))]
  rw [readKey?, show maxDepth - 1 = 78 + 1 from rfl, readParts, hskip, hpart]
  dsimp only
  split
  · next heq => exact absurd heq (hdot _)
  · rfl

/-- Whether a line is read as a statement, whatever comes after it. -/
structure Says (text : String) (st : Statement) : Prop where
  starts : ∃ c s, text.toList = c :: s ∧ StartsLine c
  read : ∀ r, readStatement (text.toList ++ r) = some (st, '\n' :: r)

/-- A line of an assignment says it. -/
theorem says_line (hkey : IsBareKey key) (hv : Shows value v) :
    Says (line key value) (.assignment [key] v) := by
  have htext : (line key value).toList =
      key.toList ++ ' ' :: '=' :: ' ' :: (value.toList ++ ['\n']) := by
    simp [line, String.toList_append]
  refine ⟨?_, fun r => ?_⟩
  · obtain ⟨c, s, hs, hc⟩ := exists_cons_of_isBareKey hkey
    exact ⟨c, _, by rw [htext, hs, List.cons_append], .inr hc⟩
  · have hdot : ∀ s, skipWide (' ' :: '=' :: ' ' :: (value.toList ++ '\n' :: r)) ≠ '.' :: s :=
      fun _ heq => absurd (List.cons.inj heq).1 (by decide)
    have hread : readAssignment (readValue (maxDepth - 1)) ((line key value).toList ++ r) =
        some (([key], v), '\n' :: r) := by
      rw [htext]
      simp only [List.append_assoc, List.cons_append, List.nil_append]
      rw [readAssignment, readKey?_append hkey (by decide) hdot]
      exact congrArg (Option.map fun x => (([key], x.1), x.2)) (hv _ r)
    have hhead : ∀ s, (line key value).toList ++ r ≠ '[' :: s := by
      rw [htext, List.append_assoc]
      exact append_ne_of_isBareKey hkey (by decide) _
    rw [readStatement, hread]
    · rfl
    · exact fun _ => hhead _
    · exact hhead

/-- A line of a header says it. -/
theorem says_headerLine (hkey : IsBareKey key) : Says (headerLine key) (.header [key]) := by
  have htext : (headerLine key).toList = '[' :: (key.toList ++ [']', '\n']) := by
    simp [headerLine, String.toList_append]
  refine ⟨⟨'[', _, htext, .inl rfl⟩, fun r => ?_⟩
  have hdot : ∀ s, skipWide (']' :: '\n' :: r) ≠ '.' :: s :=
    fun _ heq => absurd (List.cons.inj heq).1 (by decide)
  rw [htext]
  simp only [List.append_assoc, List.cons_append, List.nil_append]
  rw [readStatement, readKey?_append hkey (by decide) hdot]
  · rfl
  · exact append_ne_of_isBareKey hkey (by decide) _

/-- A line that says a statement is read as its. -/
theorem readStatements_of_says {text : String} {st : Statement} (h : Says text st) (n : Nat) :
    readStatements (n + 1) (text.toList ++ r) = (readStatements n r).map (st :: ·) := by
  obtain ⟨c, s, hs, hc⟩ := h.starts
  have hread := h.read r
  rw [hs, List.cons_append] at hread ⊢
  have hend : endLine? (c :: (s ++ r)) = none := by
    rw [endLine?, skipWide_cons_of_ne hc.isWide_eq_false, skipComment]
    · dsimp only
      rw [newline?]
      · exact fun _ heq => hc.ne (by decide) (List.cons.inj heq).1
      · exact fun _ heq => hc.ne (by decide) (List.cons.inj heq).1
    · exact fun _ heq => hc.ne (by decide) (List.cons.inj heq).1
  rw [readStatements, skipWide_cons_of_ne hc.isWide_eq_false]
  dsimp only
  rw [hend, hread]
  rfl

end

/-- Texts that are written line by line, and what their lines say. -/
inductive Written : String → List Statement → Prop
  | nil : Written "" []
  | blank {text : String} {sts : List Statement} : Written text sts → Written ("\n" ++ text) sts
  | line {first text : String} {st : Statement} {sts : List Statement} : Says first st →
      Written text sts → Written (first ++ text) (st :: sts)

/-- The lines of a text are read as what they say. -/
theorem readStatements_of_written {text : String} {sts : List Statement} (h : Written text sts)
    {n : Nat} (hn : text.toList.length < n) : readStatements n text.toList = some sts := by
  induction h generalizing n with
  | nil =>
    obtain ⟨n, rfl⟩ := Nat.exists_eq_add_one_of_ne_zero (Nat.ne_zero_of_lt hn)
    rfl
  | blank _ ih =>
    obtain ⟨n, rfl⟩ := Nat.exists_eq_add_one_of_ne_zero (Nat.ne_zero_of_lt hn)
    rw [String.toList_append] at hn ⊢
    exact ih (Nat.lt_of_succ_lt_succ hn)
  | line hsays _ ih =>
    obtain ⟨n, rfl⟩ := Nat.exists_eq_add_one_of_ne_zero (Nat.ne_zero_of_lt hn)
    obtain ⟨c, t, ht, _⟩ := hsays.starts
    rw [String.toList_append, ht, List.length_append, List.length_cons] at hn
    rw [String.toList_append, readStatements_of_says hsays, ih (by omega)]
    rfl

/-- A written text starts with a line break or with a line, so it has no byte order mark. -/
theorem ofString?_eq_foldlM {text : String} {sts : List Statement} (h : Written text sts) :
    ofString? text = (sts.foldlM Draft.add {}).map fun d => .table .header d.members := by
  have hmark : ∀ r, text.toList ≠ '\uFEFF' :: r := by
    intro r hr
    cases h with
    | nil => cases hr
    | blank =>
      rw [String.toList_append] at hr
      cases hr
    | line hsays _ =>
      obtain ⟨c, t, ht, hc⟩ := hsays.starts
      rw [String.toList_append, ht] at hr
      exact hc.ne (by decide) (List.cons.inj hr).1
  unfold ofString? parse?
  extract_lets body
  have hbody : body = text.toList := by
    dsimp only [body]
    split
    · next heq => exact absurd heq (hmark _)
    · rfl
  rw [hbody, readStatements_of_written h (Nat.lt_succ_self _)]

/-- A last line. -/
theorem written_of_says {text : String} {st : Statement} (h : Says text st) :
    Written text [st] := by
  have hline := Written.line h .nil
  rwa [String.append_empty] at hline

theorem Written.append {text text' : String} {sts sts' : List Statement} (h : Written text sts)
    (h' : Written text' sts') : Written (text ++ text') (sts ++ sts') := by
  induction h with
  | nil =>
    rw [String.empty_append]
    exact h'
  | blank _ ih =>
    rw [String.append_assoc]
    exact .blank ih
  | line hsays _ ih =>
    rw [String.append_assoc]
    exact .line hsays ih

/-! ## Trees -/

theorem lookup_eq_none_of_notMem {key : String} {ms : Members} (h : key ∉ ms.map (·.1)) :
    ms.lookup key = none := by
  rw [List.lookup_eq_none_iff]
  intro m hm
  rw [bne_iff_ne]
  rintro rfl
  exact h (List.mem_map_of_mem hm)

theorem replace_append {key : String} {before rest : Members} {x v : Toml}
    (h : key ∉ before.map (·.1)) :
    replace key v (before ++ (key, x) :: rest) = before ++ (key, v) :: rest := by
  induction before with
  | nil => exact if_pos rfl
  | cons m before ih =>
    rw [List.map_cons, List.mem_cons, not_or] at h
    rw [List.cons_append, replace, if_neg (Ne.symm h.1), ih h.2, List.cons_append]

/-- A new key is added at the end of a table that no dotted keys made. -/
theorem assignKey_of_new {origin : TableOrigin} (horigin : origin ≠ .dotted) {members : Members}
    {key : String} (h : key ∉ members.map (·.1)) (v : Toml) :
    assignKey origin members ([key], v) = some (members ++ [(key, v)]) := by
  have hassign : assignKey origin members ([key], v) =
      if origin = .dotted then none
      else if (members.lookup key).isSome then none else some (members ++ [(key, v)]) := by
    simp [assignKey, assign, within]
  rw [hassign, if_neg horigin, lookup_eq_none_of_notMem h]
  rfl

/-- The assignments of the members of a table. -/
def assignments (fields : Members) : List Statement := fields.map fun f => .assignment [f.1] f.2

/-- If a draft takes an assignment of a new key at the end of a table, it takes all of them. -/
theorem foldlM_assignments {draft : Members → Draft} (hadd : ∀ members key v,
      key ∉ members.map (·.1) →
        (draft members).add (.assignment [key] v) = some (draft (members ++ [(key, v)])))
    {fields members : Members} (h : ((members ++ fields).map (·.1)).Nodup) :
    (assignments fields).foldlM Draft.add (draft members) = some (draft (members ++ fields)) := by
  induction fields generalizing members with
  | nil => rw [List.append_nil]; rfl
  | cons f fields ih =>
    have hkey : f.1 ∉ members.map (·.1) := by
      rw [List.map_append, List.nodup_append] at h
      exact fun hmem => h.2.2 _ hmem _ (List.mem_cons_self ..) rfl
    rw [List.append_cons] at h ⊢
    rw [assignments, List.map_cons, List.foldlM_cons, hadd members f.1 f.2 hkey]
    exact ih h

/-- An assignment before all headers adds to the document. -/
theorem add_assignment {members : Members} {key : String} (h : key ∉ members.map (·.1)) (v : Toml) :
    Draft.add ⟨members, []⟩ (.assignment [key] v) = some ⟨members ++ [(key, v)], []⟩ := by
  rw [Draft.add, within, assignKey_of_new (by decide) h]
  rfl

/-- A header opens a table at the end. -/
theorem add_header {members : Members} {name : String} (h : name ∉ members.map (·.1))
    (current : List String) :
    Draft.add ⟨members, current⟩ (.header [name]) =
      some ⟨members ++ [(name, .table .header [])], [name]⟩ := by
  have hopen : openTable [] name members = some (members ++ [(name, .table .header [])]) := by
    rw [openTable, within, lookup_eq_none_of_notMem h]
  exact congrArg (Option.map fun members => (⟨members, [name]⟩ : Draft)) hopen

/-- An assignment below a header adds to the table of the header. -/
theorem add_assignment_below {members inner : Members} {name key : String}
    (hname : name ∉ members.map (·.1)) (h : key ∉ inner.map (·.1)) (v : Toml) :
    Draft.add ⟨members ++ [(name, .table .header inner)], [name]⟩ (.assignment [key] v) =
      some ⟨members ++ [(name, .table .header (inner ++ [(key, v)]))], [name]⟩ := by
  have hfound : (members ++ [(name, table .header inner)]).lookup name =
      some (table .header inner) := by
    rw [List.lookup_append, lookup_eq_none_of_notMem hname, Option.none_or, List.lookup_cons_self]
  rw [Draft.add, within, hfound]
  dsimp only
  rw [if_neg (by decide), within, assignKey_of_new (by decide) h, Option.map_some,
    replace_append hname, Option.map_some]

/-- A header and the assignments below it add a table. -/
theorem foldlM_table {members fields : Members} {name : String} (hname : name ∉ members.map (·.1))
    (hfields : (fields.map (·.1)).Nodup) (current : List String) :
    (.header [name] :: assignments fields).foldlM Draft.add ⟨members, current⟩ =
      some ⟨members ++ [(name, .table .header fields)], [name]⟩ := by
  let draft (inner : Members) : Draft := ⟨members ++ [(name, .table .header inner)], [name]⟩
  have hadd := @foldlM_assignments draft (fun _ _ v h => add_assignment_below hname h v) fields []
  rw [List.foldlM_cons, add_header hname]
  exact hadd hfields

/-- The members of a document that has assignments and then tables. -/
def documentMembers (top : Members) (tables : List (String × Members)) : Members :=
  top ++ tables.map fun t => (t.1, .table .header t.2)

/-- The statements of a document: assignments, and headers with the assignments below them. -/
def statements (top : Members) (tables : List (String × Members)) : List Statement :=
  assignments top ++ tables.flatMap fun t => .header [t.1] :: assignments t.2

/-- Headers and the assignments below them add their tables. -/
theorem foldlM_tables {tables : List (String × Members)}
    (htables : ∀ t ∈ tables, (t.2.map (·.1)).Nodup) {members : Members}
    (h : ((documentMembers members tables).map (·.1)).Nodup) (current : List String) :
    ∃ current', (tables.flatMap fun t => .header [t.1] :: assignments t.2).foldlM Draft.add
      ⟨members, current⟩ = some ⟨documentMembers members tables, current'⟩ := by
  induction tables generalizing members current with
  | nil => exact ⟨current, by rw [documentMembers, List.map_nil, List.append_nil]; rfl⟩
  | cons t tables ih =>
    obtain ⟨ht, htables⟩ := List.forall_mem_cons.1 htables
    have hname : t.1 ∉ members.map (·.1) := by
      rw [documentMembers, List.map_append, List.nodup_append] at h
      exact fun hmem => h.2.2 _ hmem _ (List.mem_cons_self ..) rfl
    have hsplit : documentMembers members (t :: tables) =
        documentMembers (members ++ [(t.1, .table .header t.2)]) tables := by
      rw [documentMembers, documentMembers, List.map_cons, List.append_cons]
    rw [hsplit] at h ⊢
    obtain ⟨current', hrest⟩ := ih htables h [t.1]
    refine ⟨current', ?_⟩
    rw [List.flatMap_cons, List.foldlM_append, foldlM_table hname ht]
    exact hrest

/-- **A document is read as its tree**, if no key and no name in it occurs twice. -/
theorem ofString?_of_written {text : String} {top : Members} {tables : List (String × Members)}
    (hwritten : Written text (statements top tables))
    (h : ((documentMembers top tables).map (·.1)).Nodup)
    (htables : ∀ t ∈ tables, (t.2.map (·.1)).Nodup) :
    ofString? text = some (.table .header (documentMembers top tables)) := by
  have htop : (top.map (·.1)).Nodup := by
    rw [documentMembers, List.map_append, List.nodup_append] at h
    exact h.1
  have hassign : (assignments top).foldlM Draft.add {} = some ⟨top, []⟩ :=
    @foldlM_assignments (fun members => ⟨members, []⟩) (fun _ _ v h => add_assignment h v) top []
      htop
  obtain ⟨current, hfold⟩ := foldlM_tables htables h []
  have hdraft : (statements top tables).foldlM Draft.add {} =
      some ⟨documentMembers top tables, current⟩ := by
    rw [statements, List.foldlM_append, hassign]
    exact hfold
  rw [ofString?_eq_foldlM hwritten, hdraft]
  rfl

end Stencil.Toml
