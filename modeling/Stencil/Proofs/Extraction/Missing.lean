import Stencil.Proofs.Extraction.Single

/-!
# Strict and lenient extractions

Settings that differ in the rule on missing fields only are compared turn by turn. A lenient
extraction goes through every field that it meets, and `misses` records those whose address leads
nowhere. Up to the first of them a strict extraction takes the same turns (`turn_fail_eq_skip`), and
there it ends with an error (`turn_fail_of_missed?`); a lenient one never ends with any
(`iterate_turn_skip_ne_error`). So the record of the lenient extraction says what the strict one
gives (`strict_fails_at_first_miss`).
-/

namespace Stencil

/-- The settings with a rule on missing fields, and with all else as it was. -/
def ExtractionSettings.onMissing (s : ExtractionSettings) (rule : MissingField) :
    ExtractionSettings :=
  { s with missingField := rule }

namespace Extraction

/-- The field that a frame visits next, if its address leads nowhere. -/
def Frame.missed? (d : Document) (f : Frame) : Option Token :=
  f.next?.bind fun v => if (d.resolve? v.2 v.1.way).isSome then none else some v.1

/-- The field that is missed in the turn after a stage. -/
def Stage.missed? (d : Document) : Stage → Option Token
  | .active (top :: _) => top.missed? d
  | .active [] | .ended _ => none

/-- The fields missed in a number of turns, in the order in which they are visited. -/
def misses (s : ExtractionSettings) (d : Document) : Nat → Stage → List Token
  | 0, _ => []
  | n + 1, x => (x.missed? d).toList ++ misses s d n (turn s d x)

section
variable {s : ExtractionSettings} {d : Document}

/-! ## One visit -/

/-- The rule on missing fields says nothing about a field that is found. -/
theorem visit_onMissing_of_isSome {anchor : Path} {t : Token} (rule rule' : MissingField)
    (h : (d.resolve? anchor t.way).isSome = true) :
    visit (s.onMissing rule) d anchor t = visit (s.onMissing rule') d anchor t := by
  obtain ⟨node, hnode⟩ := Option.isSome_iff_exists.1 h
  rw [visit, visit, hnode]
  rfl

theorem visit_fail_of_not_isSome {anchor : Path} {t : Token}
    (h : ¬ (d.resolve? anchor t.way).isSome = true) :
    visit (s.onMissing .fail) d anchor t = .error (.nodeNotFound t.label t.way) := by
  rw [visit, Option.not_isSome_iff_eq_none.1 h]
  rfl

theorem exists_visit_skip (s : ExtractionSettings) (d : Document) (anchor : Path) (t : Token) :
    ∃ v, visit (s.onMissing .skip) d anchor t = .ok v := by
  rw [visit]
  cases d.resolve? anchor t.way with
  | none => exact ⟨_, rfl⟩
  | some node => exact ⟨_, rfl⟩

/-! ## One step of a frame -/

/-- A frame with a field to visit goes on as the visit says, whatever the settings are. -/
theorem exists_advance_of_next? {f : Frame} {t : Token} {anchor : Path}
    (h : f.next? = some (t, anchor)) :
    ∃ g : Frame, ∀ s, advance s d f = (visit s d anchor t).map g.after := by
  cases f with
  | object token node todo fields =>
    cases todo with
    | nil => cases h
    | cons t todo => cases h; exact ⟨.object token anchor todo fields, fun _ => rfl⟩
  | list token item itemTag todo items current =>
    cases todo with
    | nil => cases h
    | cons t todo => cases h; exact ⟨.list token anchor itemTag todo items current, fun _ => rfl⟩

/-- A frame without a field to visit ends or goes on to its next item, and the rule on missing
fields says nothing about that. -/
theorem exists_advance_of_next?_eq_none {f : Frame} (s : ExtractionSettings)
    (h : f.next? = none) : ∃ m, ∀ rule, advance (s.onMissing rule) d f = .ok m := by
  cases f with
  | object token node todo fields =>
    cases todo with
    | nil => exact ⟨_, fun _ => rfl⟩
    | cons t todo => cases h
  | list token item itemTag todo items current =>
    cases todo with
    | nil => exact ⟨endItem s d token item itemTag (.object current :: items), fun _ => rfl⟩
    | cons t todo => cases h

theorem advance_fail_eq_skip {f : Frame} (h : f.missed? d = none) :
    advance (s.onMissing .fail) d f = advance (s.onMissing .skip) d f := by
  rw [Frame.missed?] at h
  cases hnext : f.next? with
  | none =>
    obtain ⟨m, hm⟩ := exists_advance_of_next?_eq_none s hnext
    rw [hm, hm]
  | some v =>
    obtain ⟨g, hg⟩ := exists_advance_of_next? (d := d) hnext
    rw [hnext, Option.bind_some] at h
    split at h
    · next hfound => rw [hg, hg, visit_onMissing_of_isSome .fail .skip hfound]
    · cases h

theorem advance_fail_of_missed? {f : Frame} {t : Token} (h : f.missed? d = some t) :
    advance (s.onMissing .fail) d f = .error (.nodeNotFound t.label t.way) := by
  rw [Frame.missed?] at h
  obtain ⟨v, hnext, hv⟩ := Option.bind_eq_some_iff.1 h
  obtain ⟨g, hg⟩ := exists_advance_of_next? (d := d) hnext
  split at hv
  · cases hv
  · next hmissing =>
    cases hv
    rw [hg, visit_fail_of_not_isSome hmissing]
    rfl

theorem exists_advance_skip (s : ExtractionSettings) (d : Document) (f : Frame) :
    ∃ m, advance (s.onMissing .skip) d f = .ok m := by
  cases hnext : f.next? with
  | none =>
    obtain ⟨m, hm⟩ := exists_advance_of_next?_eq_none (d := d) s hnext
    exact ⟨m, hm .skip⟩
  | some v =>
    obtain ⟨g, hg⟩ := exists_advance_of_next? (d := d) hnext
    obtain ⟨w, hw⟩ := exists_visit_skip s d v.2 v.1
    exact ⟨g.after w, by rw [hg, hw]; rfl⟩

/-! ## One turn -/

/-- As long as no field is missed, both rules lead to the same turn. -/
theorem turn_fail_eq_skip {x : Stage} (h : x.missed? d = none) :
    turn (s.onMissing .fail) d x = turn (s.onMissing .skip) d x := by
  match x with
  | .ended outcome => rfl
  | .active [] => rfl
  | .active (top :: below) => rw [turn, turn, advance_fail_eq_skip h]

/-- A strict extraction ends where a field is missed. -/
theorem turn_fail_of_missed? {x : Stage} {t : Token} (h : x.missed? d = some t) :
    turn (s.onMissing .fail) d x = .ended (.error (.nodeNotFound t.label t.way)) := by
  match x, h with
  | .active (top :: below), h => rw [turn, advance_fail_of_missed? h]

/-- A turn of a lenient extraction ends in no error. -/
theorem turn_skip_ne_error {x : Stage} {e : StructuralError}
    (h : turn (s.onMissing .skip) d x = .ended (.error e)) : x = .ended (.error e) := by
  match x with
  | .ended outcome => exact h
  | .active [] => cases h
  | .active (top :: below) =>
    obtain ⟨m, hm⟩ := exists_advance_skip s d top
    rw [turn, hm] at h
    cases m with
    | stay f => cases h
    | enter f child => cases h
    | leave name value => cases below <;> cases h

/-! ## Whole runs -/

theorem iterate_turn_skip_ne_error {n : Nat} {x : Stage} {e : StructuralError}
    (h : (turn (s.onMissing .skip) d)^[n] x = .ended (.error e)) : x = .ended (.error e) := by
  induction n generalizing x with
  | zero => exact h
  | succ n ih => exact turn_skip_ne_error (ih h)

/-- What a strict extraction gives from a stage, if a lenient one ends with a value: that value, or
the error of the first field that the lenient one misses. The two stay in step until then, so the
induction is on the turns of the lenient one. -/
theorem outcome_fail_of_iterate {n : Nat} {x : Stage} {v : Json}
    (h : (turn (s.onMissing .skip) d)^[n] x = .ended (.ok v)) :
    x.outcome (s.onMissing .fail) d =
      match misses (s.onMissing .skip) d n x with
      | [] => .ok v
      | t :: _ => .error (.nodeNotFound t.label t.way) := by
  induction n generalizing x with
  | zero =>
    rw [Function.iterate_zero_apply] at h
    rw [h]
    rfl
  | succ n ih =>
    rw [Function.iterate_succ_apply] at h
    rw [← outcome_turn, misses]
    cases hmiss : x.missed? d with
    | none => rw [turn_fail_eq_skip hmiss, ih h]; rfl
    | some t => rw [turn_fail_of_missed? hmiss]; rfl

end

/-- **Strict and lenient extractions agree up to the first missing field.** For all settings,
blueprints and documents with a top element, the loop under the rule to skip missing fields ends
with a value. If no field that it visits is missing, the extraction under the rule to fail gives the
same value. Otherwise it fails, and the error names the field and the address of the first one that
the lenient loop missed. -/
theorem strict_fails_at_first_miss (s : ExtractionSettings) (b : Blueprint) {d : Document}
    {top : Path} (htop : d.root? = some top) :
    ∃ n v, (turn (s.onMissing .skip) d)^[n] (.active [.ofObject b.root top]) = .ended (.ok v) ∧
      extractFrom (s.onMissing .skip) b d = .ok v ∧
      (misses (s.onMissing .skip) d n (.active [.ofObject b.root top]) = [] →
        extractFrom (s.onMissing .fail) b d = .ok v) ∧
      ∀ t rest, misses (s.onMissing .skip) d n (.active [.ofObject b.root top]) = t :: rest →
        extractFrom (s.onMissing .fail) b d = .error (.nodeNotFound t.label t.way) := by
  obtain ⟨n, _, hend⟩ := iterate_turn_ends (s.onMissing .skip) d (.ofObject b.root top) []
  have hlenient : extractFrom (s.onMissing .skip) b d =
      run (s.onMissing .skip) d (.ofObject b.root top) [] := by
    rw [extractFrom, htop]
  have hstrict : extractFrom (s.onMissing .fail) b d =
      (Stage.active [.ofObject b.root top]).outcome (s.onMissing .fail) d := by
    rw [extractFrom, htop]
    rfl
  cases hv : run (s.onMissing .skip) d (.ofObject b.root top) [] with
  | error e =>
    rw [hv] at hend
    cases iterate_turn_skip_ne_error hend
  | ok v =>
    rw [hv] at hend
    have houtcome := outcome_fail_of_iterate hend
    refine ⟨n, v, hend, hlenient.trans hv, fun hnone => ?_, fun t rest hfirst => ?_⟩
    · rw [hstrict, houtcome, hnone]
    · rw [hstrict, houtcome, hfirst]

/-- A list of three items, of which the second lacks its field: a lenient extraction reads the third
one too, a strict one fails at the second. -/
theorem strict_fails_at_first_miss_in_list :
    let cell : Token := ⟨.value, some "x", none, none, [], some ⟨[⟨"b", some (.at 0)⟩]⟩⟩
    let b : Blueprint := ⟨"page", ⟨.root, none, none, none,
      [⟨.listStart, some "rows", none, none, [cell], some ⟨[⟨"li", some (.at 0)⟩]⟩⟩], none⟩⟩
    let d : Document := ⟨[.element "ul" none [.element "li" none [.element "b" none [.text "1"]],
      .element "li" none [], .element "li" none [.element "b" none [.text "3"]]]]⟩
    let s : ExtractionSettings := {}
    d.root? = some [0] ∧
      extractFrom (s.onMissing .skip) b d = .ok (.object [("rows", .array
        [.object [("x", .string "1")], .object [], .object [("x", .string "3")]])]) ∧
      ∃ n t rest, misses (s.onMissing .skip) d n (.active [.ofObject b.root [0]]) = t :: rest ∧
        t.label = "x" ∧ t.way = cell.way ∧
        extractFrom (s.onMissing .fail) b d = .error (.nodeNotFound t.label t.way) := by
  intro cell b d s
  have htop : d.root? = some [0] := by decide
  obtain ⟨n, v, _, hlenient, hsame, hfirst⟩ := strict_fails_at_first_miss s b htop
  have hvalue : value (s.onMissing .skip) b d = .ok (.object [("rows", .array
      [.object [("x", .string "1")], .object [], .object [("x", .string "3")]])]) := by
    decide +kernel
  have hfail : value (s.onMissing .fail) b d = .error (.nodeNotFound "x" cell.way) := by
    decide +kernel
  rw [← extractFrom_eq_value] at hvalue hfail
  refine ⟨htop, hvalue, n, ?_⟩
  cases hmisses : misses (s.onMissing .skip) d n (.active [.ofObject b.root [0]]) with
  | nil =>
    rw [hsame hmisses] at hfail
    cases hfail
  | cons t rest =>
    have herror := hfirst t rest hmisses
    rw [hfail, Except.error.injEq, StructuralError.nodeNotFound.injEq] at herror
    exact ⟨t, rest, rfl, herror.1.symm, herror.2.symm, hfirst t rest hmisses⟩

end Extraction

end Stencil
