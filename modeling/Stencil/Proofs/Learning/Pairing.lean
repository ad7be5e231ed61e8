import Mathlib.Data.List.Induction
import Stencil.Learning
import Stencil.Proofs.Outcomes

/-!
# Pairing starts and ends

The check of pairs goes through the tokens once, with the open containers on a stack. What it accepts
is a language of two kinds of brackets: `Balanced` is the grammar of its words, and tokens are
`Paired` when their starts and ends, the other tokens left out, are such a word. The stack is read as
places in the tokens: `Waiting opened tokens` says that the tokens fall into the starts on the stack
with paired tokens before, between and after them. The check keeps this as it goes
(`waiting_of_run`), and paired tokens leave any stack as it was (`run_of_paired`). So tokens can still
be paired by more of them as long as the check goes on (`extendable_iff`), and where it stops is where
they no longer can be. `unbalanced_iff_not_paired` says so of learning, whatever the document holds.
-/

namespace Stencil

/-! ## The language of starts and ends -/

theorem TokenKind.isOpening_of_isClosing {k : TokenKind} (h : k.isClosing = true) :
    k.isOpening = false := by
  revert h
  cases k <;> decide

/-- Apart from the root, containers are started by annotations. -/
theorem TokenKind.isOpening_eq_isContainer {k : TokenKind} (h : k ≠ .root) :
    k.isOpening = k.isContainer := by
  revert h
  cases k <;> decide

theorem TokenKind.isOpening_of_closes {closing opening : TokenKind}
    (h : closing.closes opening = true) : opening.isOpening = true := by
  revert h
  cases closing <;> cases opening <;> decide

theorem TokenKind.isClosing_of_closes {closing opening : TokenKind}
    (h : closing.closes opening = true) : closing.isClosing = true := by
  revert h
  cases closing <;> cases opening <;> decide

/-- The words of two kinds of brackets: every end closes the nearest start that is open, an object's
end an object and a list's end a list, and no start stays open. -/
inductive Balanced : List TokenKind → Prop where
  | nil : Balanced []
  | object {inner rest : List TokenKind} (hinner : Balanced inner) (hrest : Balanced rest) :
    Balanced (.objectStart :: inner ++ .objectEnd :: rest)
  | list {inner rest : List TokenKind} (hinner : Balanced inner) (hrest : Balanced rest) :
    Balanced (.listStart :: inner ++ .listEnd :: rest)

/-- A start, what is balanced, and the end that closes the start. -/
theorem Balanced.enclose {opening closing : TokenKind} (h : closing.closes opening = true)
    {inner rest : List TokenKind} (hinner : Balanced inner) (hrest : Balanced rest) :
    Balanced (opening :: inner ++ closing :: rest) := by
  cases closing <;> cases opening <;> try cases h
  · exact .object hinner hrest
  · exact .list hinner hrest

theorem Balanced.append {v w : List TokenKind} (hv : Balanced v) (hw : Balanced w) :
    Balanced (v ++ w) := by
  induction hv with
  | nil => exact hw
  | object hinner _ _ ih =>
    rw [List.append_assoc, List.cons_append]
    exact .object hinner ih
  | list hinner _ _ ih =>
    rw [List.append_assoc, List.cons_append]
    exact .list hinner ih

/-- Whether a token is a start or an end. -/
def Token.isBracket (t : Token) : Bool := t.kind.isOpening || t.kind.isClosing

/-- The kinds of the starts and ends among tokens, in their order. -/
def brackets (tokens : List Token) : List TokenKind :=
  (tokens.filter Token.isBracket).map (·.kind)

/-- Among tokens every end closes the nearest start that is open, and no start stays open. -/
def Paired (tokens : List Token) : Prop := Balanced (brackets tokens)

/-- Tokens after these could make them paired. -/
def Extendable (tokens : List Token) : Prop := ∃ more, Paired (tokens ++ more)

/-- A start is the last one left open among tokens: what follows it is paired. -/
def LastOpen (tokens : List Token) (o : Token) : Prop :=
  ∃ before after, tokens = before ++ o :: after ∧ o.kind.isOpening = true ∧ Paired after

theorem Extendable.of_append {xs ys : List Token} (h : Extendable (xs ++ ys)) : Extendable xs := by
  obtain ⟨more, hmore⟩ := h
  exact ⟨ys ++ more, by rwa [← List.append_assoc]⟩

theorem brackets_append (xs ys : List Token) : brackets (xs ++ ys) = brackets xs ++ brackets ys := by
  rw [brackets, List.filter_append, List.map_append]
  rfl

theorem brackets_cons_of_isBracket {t : Token} (h : t.isBracket = true) (ts : List Token) :
    brackets (t :: ts) = t.kind :: brackets ts := by
  rw [brackets, List.filter_cons_of_pos h]
  rfl

theorem brackets_cons_of_not_isBracket {t : Token} (h : ¬ t.isBracket = true) (ts : List Token) :
    brackets (t :: ts) = brackets ts := by
  rw [brackets, List.filter_cons_of_neg h]
  rfl

theorem Paired.nil : Paired [] := Balanced.nil

theorem Paired.append {xs ys : List Token} (hxs : Paired xs) (hys : Paired ys) :
    Paired (xs ++ ys) := by
  rw [Paired, brackets_append]
  exact Balanced.append hxs hys

/-- A token that is neither a start nor an end is paired. -/
theorem Paired.of_not_isBracket {t : Token} (h : ¬ t.isBracket = true) : Paired [t] := by
  rw [Paired, brackets_cons_of_not_isBracket h]
  exact Paired.nil

/-- A start with its end, and what is paired between them. -/
theorem Paired.enclose {o c : Token} (h : c.kind.closes o.kind = true) {inner : List Token}
    (hinner : Paired inner) : Paired (o :: inner ++ [c]) := by
  have hopen : o.isBracket = true := by
    rw [Token.isBracket, TokenKind.isOpening_of_closes h, Bool.true_or]
  have hclose : c.isBracket = true := by
    rw [Token.isBracket, TokenKind.isClosing_of_closes h, Bool.or_true]
  rw [Paired, List.cons_append, brackets_cons_of_isBracket hopen, brackets_append,
    brackets_cons_of_isBracket hclose]
  exact .enclose h hinner .nil

namespace Pairing

/-! ## One token -/

theorem step_of_isOpening {t : Token} (h : t.kind.isOpening = true) (opened : List Token) :
    step opened t = .ok (t :: opened) := by
  rw [step.eq_def, if_pos h]

theorem step_of_not_isBracket {t : Token} (h : ¬ t.isBracket = true) (opened : List Token) :
    step opened t = .ok opened := by
  rw [Token.isBracket, Bool.or_eq_true, not_or] at h
  rw [step.eq_def, if_neg h.1, if_neg h.2]

theorem step_of_closes {o c : Token} (h : c.kind.closes o.kind = true) (rest : List Token) :
    step (o :: rest) c = .ok rest := by
  have hclosing := TokenKind.isClosing_of_closes h
  have hopening := TokenKind.isOpening_of_isClosing hclosing
  rw [step.eq_def, if_neg (by rw [hopening]; decide), if_pos hclosing]
  exact if_pos h

/-- What the check makes of a token: it opens a container, closes the innermost one or is passed by;
or it is an end where nothing is open or a container of the other kind. -/
inductive Taken (opened : List Token) (t : Token) : Except StructuralError (List Token) → Prop where
  | opens (h : t.kind.isOpening = true) : Taken opened t (.ok (t :: opened))
  | closes {o : Token} {rest : List Token} (hopened : opened = o :: rest)
    (h : t.kind.closes o.kind = true) : Taken opened t (.ok rest)
  | passes (h : ¬ t.isBracket = true) : Taken opened t (.ok opened)
  | nothingOpen (hopened : opened = []) (h : t.kind.isClosing = true) :
    Taken opened t (.error (.unbalanced (offset t) .nothingOpen))
  | mismatch {o : Token} {rest : List Token} (hopened : opened = o :: rest)
    (h : t.kind.isClosing = true) :
    Taken opened t (.error (.unbalanced (offset t) (.mismatch t.kind o.kind o.label)))

theorem taken_step (opened : List Token) (t : Token) : Taken opened t (step opened t) := by
  by_cases hopening : t.kind.isOpening = true
  · rw [step_of_isOpening hopening]
    exact .opens hopening
  by_cases hclosing : t.kind.isClosing = true
  · have hstep := step.eq_def opened t
    rw [if_neg hopening, if_pos hclosing] at hstep
    rw [hstep]
    cases opened with
    | nil => exact .nothingOpen rfl hclosing
    | cons o rest =>
      dsimp only
      split
      · next hcloses => exact .closes rfl hcloses
      · exact .mismatch rfl hclosing
  · have hbracket : ¬ t.isBracket = true := by
      rw [Token.isBracket, Bool.or_eq_true]
      exact not_or.2 ⟨hopening, hclosing⟩
    rw [step_of_not_isBracket hbracket]
    exact .passes hbracket

theorem taken_of_step {opened : List Token} {t : Token} {outcome : Except StructuralError (List Token)}
    (h : step opened t = outcome) : Taken opened t outcome := h ▸ taken_step opened t

/-- A start opens one container and an end closes one. -/
theorem length_of_step {opened opened' : List Token} {t : Token}
    (h : step opened t = .ok opened') :
    opened'.length + (if t.kind.isClosing then 1 else 0) =
      opened.length + (if t.kind.isOpening then 1 else 0) := by
  cases taken_of_step h with
  | opens ho =>
    have hc : ¬ t.kind.isClosing = true := fun hc => by
      rw [TokenKind.isOpening_of_isClosing hc] at ho
      cases ho
    rw [if_neg hc, if_pos ho]
    rfl
  | closes hopened hc =>
    have hclosing := TokenKind.isClosing_of_closes hc
    rw [if_pos hclosing, TokenKind.isOpening_of_isClosing hclosing, hopened]
    rfl
  | passes hnot =>
    rw [Token.isBracket, Bool.or_eq_true, not_or] at hnot
    rw [if_neg hnot.1, if_neg hnot.2]

/-! ## All tokens -/

theorem run_eq_foldlM (opened tokens : List Token) :
    run opened tokens = tokens.foldlM step opened := by
  induction tokens generalizing opened with
  | nil => rfl
  | cons t rest ih =>
    rw [run, List.foldlM_cons]
    cases step opened t with
    | error e => rfl
    | ok opened => exact ih opened

/-- Reading tokens in two parts is reading them at once. -/
theorem run_append (opened xs ys : List Token) :
    run opened (xs ++ ys) = (run opened xs).bind fun opened => run opened ys := by
  simp only [run_eq_foldlM, List.foldlM_append]
  rfl

theorem run_singleton (opened : List Token) (t : Token) : run opened [t] = step opened t := by
  rw [run]
  cases step opened t <;> rfl

/-- The check goes on over tokens in two parts as it does over each of them. -/
theorem run_append_eq_ok_iff {opened opened' xs ys : List Token} :
    run opened (xs ++ ys) = .ok opened' ↔
      ∃ middle, run opened xs = .ok middle ∧ run middle ys = .ok opened' := by
  rw [run_append, bind_eq_ok_iff]

theorem run_cons_eq_ok_iff {opened opened' rest : List Token} {t : Token} :
    run opened (t :: rest) = .ok opened' ↔
      ∃ middle, step opened t = .ok middle ∧ run middle rest = .ok opened' := by
  rw [← List.singleton_append, run_append_eq_ok_iff, run_singleton]

/-- The check fails where a step of it does. -/
theorem run_eq_error_iff {opened tokens : List Token} {e : StructuralError} :
    run opened tokens = .error e ↔
      ∃ before t after opened', tokens = before ++ t :: after ∧ run opened before = .ok opened' ∧
        step opened' t = .error e := by
  simp only [run_eq_foldlM]
  exact foldlM_eq_error_iff

/-- Tokens that are neither starts nor ends are passed by. -/
theorem run_filter_isBracket (opened tokens : List Token) :
    run opened (tokens.filter Token.isBracket) = run opened tokens := by
  induction tokens generalizing opened with
  | nil => rfl
  | cons t rest ih =>
    by_cases h : t.isBracket = true
    · rw [List.filter_cons_of_pos h, run, run]
      cases step opened t with
      | error e => rfl
      | ok opened => exact ih opened
    · rw [List.filter_cons_of_neg h, run, step_of_not_isBracket h]
      exact ih opened

/-- A start, tokens that leave the stack as it was, and the end that closes the start. -/
theorem run_enclose {o c : Token} (h : c.kind.closes o.kind = true) {inner rest opened : List Token}
    (hinner : run (o :: opened) inner = .ok (o :: opened)) :
    run opened (o :: inner ++ c :: rest) = run opened rest := by
  rw [List.cons_append, run, step_of_isOpening (TokenKind.isOpening_of_closes h)]
  dsimp only
  rw [run_append, hinner]
  show run (o :: opened) (c :: rest) = run opened rest
  rw [run, step_of_closes h]

/-- Tokens whose kinds are balanced leave the open containers as they were. -/
theorem run_of_balanced {w : List TokenKind} (h : Balanced w) :
    ∀ (opened tokens : List Token), tokens.map (·.kind) = w → run opened tokens = .ok opened := by
  induction h with
  | nil =>
    intro opened tokens htokens
    rw [List.map_eq_nil_iff.1 htokens]
    rfl
  | object _ _ ihinner ihrest | list _ _ ihinner ihrest =>
    intro opened tokens htokens
    obtain ⟨front, back, rfl, hfront, hback⟩ := List.map_eq_append_iff.1 htokens
    obtain ⟨o, inner, rfl, ho, hinner⟩ := List.map_eq_cons_iff.1 hfront
    obtain ⟨c, rest, rfl, hc, hrest⟩ := List.map_eq_cons_iff.1 hback
    rw [run_enclose (by rw [ho, hc]; rfl) (ihinner _ inner hinner)]
    exact ihrest opened rest hrest

/-- Paired tokens leave the open containers as they were. -/
theorem run_of_paired {tokens : List Token} (h : Paired tokens) (opened : List Token) :
    run opened tokens = .ok opened := by
  rw [← run_filter_isBracket]
  exact run_of_balanced h opened _ rfl

/-! ## The stack as places in the tokens -/

/-- The open containers, the innermost first, are the starts that tokens leave open: the tokens
before, between and after them are paired. -/
inductive Waiting : List Token → List Token → Prop where
  | none {tokens : List Token} (h : Paired tokens) : Waiting [] tokens
  | more {opened before after : List Token} {o : Token} (hbefore : Waiting opened before)
    (ho : o.kind.isOpening = true) (hafter : Paired after) :
    Waiting (o :: opened) (before ++ o :: after)

theorem Waiting.append {opened tokens more : List Token} (h : Waiting opened tokens)
    (hmore : Paired more) : Waiting opened (tokens ++ more) := by
  cases h with
  | none h => exact .none (h.append hmore)
  | more hbefore ho hafter =>
    rw [List.append_assoc, List.cons_append]
    exact .more hbefore ho (hafter.append hmore)

/-- An end closes the innermost container, and with it the tokens since its start are paired. -/
theorem Waiting.close {opened tokens : List Token} {o c : Token} (h : Waiting (o :: opened) tokens)
    (hc : c.kind.closes o.kind = true) : Waiting opened (tokens ++ [c]) := by
  cases h with
  | more hbefore ho hafter =>
    rw [List.append_assoc, List.cons_append]
    exact hbefore.append (.enclose hc hafter)

/-- What the check has open is what the tokens leave open. The induction takes the last token off,
as the check takes up one more. -/
theorem waiting_of_run {opened tokens : List Token} (h : run [] tokens = .ok opened) :
    Waiting opened tokens := by
  induction tokens using List.reverseRecOn generalizing opened with
  | nil =>
    cases h
    exact .none .nil
  | append_singleton tokens t ih =>
    obtain ⟨_, hrun, hlast⟩ := run_append_eq_ok_iff.1 h
    have hwaiting := ih hrun
    rw [run_singleton] at hlast
    cases taken_of_step hlast with
    | opens ho => exact .more hwaiting ho .nil
    | closes hopened hc =>
      subst hopened
      exact hwaiting.close hc
    | passes hnot => exact hwaiting.append (.of_not_isBracket hnot)

theorem Waiting.lastOpen {opened tokens : List Token} {o : Token}
    (h : Waiting (o :: opened) tokens) : LastOpen tokens o := by
  cases h with
  | more _ ho hafter => exact ⟨_, _, rfl, ho, hafter⟩

/-- The check accepts paired tokens and no others. -/
theorem paired_iff {tokens : List Token} : Paired tokens ↔ run [] tokens = .ok [] := by
  refine ⟨fun h => run_of_paired h [], fun h => ?_⟩
  cases waiting_of_run h with
  | none h => exact h

/-- An end that closes a start. -/
def endOf (o : Token) : Token :=
  .leaf (if o.kind = .listStart then .listEnd else .objectEnd) none none none

theorem closes_endOf {o : Token} (h : o.kind.isOpening = true) :
    (endOf o).kind.closes o.kind = true := by
  show (if o.kind = .listStart then TokenKind.listEnd else .objectEnd).closes o.kind = true
  revert h
  cases o.kind <;> decide

/-- The ends of all open containers, the innermost first, close them. -/
theorem Waiting.run_ends {opened tokens : List Token} (h : Waiting opened tokens) :
    run opened (opened.map endOf) = .ok [] := by
  induction h with
  | none _ => rfl
  | more _ ho _ ih =>
    rw [List.map_cons, run, step_of_closes (closes_endOf ho)]
    exact ih

/-- As long as the check goes on, the tokens can be paired by more of them. -/
theorem extendable_iff {tokens : List Token} :
    Extendable tokens ↔ ∃ opened, run [] tokens = .ok opened := by
  constructor
  · rintro ⟨more, hpaired⟩
    obtain ⟨opened, hrun, _⟩ := run_append_eq_ok_iff.1 (paired_iff.1 hpaired)
    exact ⟨opened, hrun⟩
  · rintro ⟨opened, hrun⟩
    refine ⟨opened.map endOf, paired_iff.2 (run_append_eq_ok_iff.2 ⟨opened, hrun, ?_⟩)⟩
    exact (waiting_of_run hrun).run_ends

/-- With one token more the tokens can still be paired if the check takes that token up. -/
theorem extendable_concat_iff {tokens opened : List Token} {t : Token}
    (h : run [] tokens = .ok opened) :
    Extendable (tokens ++ [t]) ↔ ∃ opened', step opened t = .ok opened' := by
  rw [extendable_iff, run_append, h]
  change (∃ opened', run opened [t] = .ok opened') ↔ _
  rw [run_singleton]

/-- The last start left open is the innermost container that the check has open. -/
theorem exists_run_of_lastOpen {tokens : List Token} {o : Token} (h : Extendable tokens)
    (ho : LastOpen tokens o) : ∃ opened, run [] tokens = .ok (o :: opened) := by
  obtain ⟨before, after, rfl, hopening, hafter⟩ := ho
  obtain ⟨_, hrun⟩ := extendable_iff.1 h
  obtain ⟨opened, hbefore, _⟩ := run_append_eq_ok_iff.1 hrun
  have hlast : run opened (o :: after) = .ok (o :: opened) :=
    run_cons_eq_ok_iff.2 ⟨_, step_of_isOpening hopening opened, run_of_paired hafter _⟩
  exact ⟨opened, run_append_eq_ok_iff.2 ⟨opened, hbefore, hlast⟩⟩

/-! ## Where the check stops -/

/-- The token at fault where tokens are not paired, and what is wrong there. It is the first end with
which the tokens so far can no longer be paired by any others, and either nothing is open there or a
container of the other kind. If there is no such end, it is the last start left open. -/
inductive Fault (tokens : List Token) : Token → Imbalance → Prop where
  | nothingOpen {before after : List Token} {t : Token} (htokens : tokens = before ++ t :: after)
    (hclosing : t.kind.isClosing = true) (hbefore : Extendable before)
    (hend : ¬ Extendable (before ++ [t])) (hopen : Paired before) : Fault tokens t .nothingOpen
  | mismatch {before after : List Token} {t o : Token} (htokens : tokens = before ++ t :: after)
    (hclosing : t.kind.isClosing = true) (hbefore : Extendable before)
    (hend : ¬ Extendable (before ++ [t])) (hopen : LastOpen before o) :
    Fault tokens t (.mismatch t.kind o.kind o.label)
  | unclosed {o : Token} (hall : Extendable tokens) (hopen : LastOpen tokens o) :
    Fault tokens o (.unclosed o.kind o.label)

/-- The error of the check is that of the token at fault. -/
theorem fault_of_check {tokens : List Token} {e : StructuralError} (h : check tokens = .error e) :
    ∃ t what, e = .unbalanced (offset t) what ∧ Fault tokens t what := by
  rw [check] at h
  split at h
  · next e' hrun =>
    cases h
    obtain ⟨before, t, after, opened, htokens, hbefore, hstep⟩ := run_eq_error_iff.1 hrun
    have hgood : Extendable before := extendable_iff.2 ⟨opened, hbefore⟩
    have hbad : ¬ Extendable (before ++ [t]) := by
      rw [extendable_concat_iff hbefore, hstep]
      rintro ⟨_, h⟩
      cases h
    cases taken_of_step hstep with
    | nothingOpen hopened hc =>
      subst hopened
      exact ⟨t, _, rfl, .nothingOpen htokens hc hgood hbad (paired_iff.2 hbefore)⟩
    | mismatch hopened hc =>
      subst hopened
      exact ⟨t, _, rfl, .mismatch htokens hc hgood hbad (waiting_of_run hbefore).lastOpen⟩
  · cases h
  · next o rest hrun =>
    cases h
    exact ⟨o, _, rfl, .unclosed (extendable_iff.2 ⟨_, hrun⟩) (waiting_of_run hrun).lastOpen⟩

/-- An end with which tokens can no longer be paired is one that the check fails with. -/
theorem exists_step_error {opened before : List Token} {t : Token}
    (hbefore : run [] before = .ok opened) (h : ¬ Extendable (before ++ [t])) :
    ∃ e, step opened t = .error e := by
  rw [extendable_concat_iff hbefore] at h
  cases hs : step opened t with
  | error e => exact ⟨e, rfl⟩
  | ok opened' => exact absurd ⟨opened', hs⟩ h

/-- The token at fault is where the check fails. -/
theorem check_of_fault {tokens : List Token} {t : Token} {what : Imbalance}
    (h : Fault tokens t what) : check tokens = .error (.unbalanced (offset t) what) := by
  rw [check]
  cases h with
  | @nothingOpen before after _ htokens hclosing _ hend hopen =>
    have hbefore := paired_iff.1 hopen
    obtain ⟨e, hstep⟩ := exists_step_error hbefore hend
    rw [run_eq_error_iff.2 ⟨before, t, after, _, htokens, hbefore, hstep⟩]
    cases taken_of_step hstep with
    | nothingOpen _ _ => rfl
    | mismatch hopened _ => cases hopened
  | @mismatch before after _ o htokens hclosing hgood hend hopen =>
    obtain ⟨opened, hbefore⟩ := exists_run_of_lastOpen hgood hopen
    obtain ⟨e, hstep⟩ := exists_step_error hbefore hend
    rw [run_eq_error_iff.2 ⟨before, t, after, _, htokens, hbefore, hstep⟩]
    cases taken_of_step hstep with
    | nothingOpen hopened _ => cases hopened
    | mismatch hopened _ =>
      cases hopened
      rfl
  | @unclosed o hall hopen =>
    obtain ⟨opened, hrun⟩ := exists_run_of_lastOpen hall hopen
    rw [hrun]

/-- The check fails with what is wrong at the token at fault, and with nothing else. -/
theorem check_eq_unbalanced_iff {tokens : List Token} {place : Option Nat} {what : Imbalance} :
    check tokens = .error (.unbalanced place what) ↔
      ∃ t, Fault tokens t what ∧ place = t.span.map (·.start) := by
  constructor
  · intro h
    obtain ⟨t, what', heq, hfault⟩ := fault_of_check h
    cases heq
    exact ⟨t, hfault, rfl⟩
  · rintro ⟨t, hfault, rfl⟩
    exact check_of_fault hfault

theorem check_eq_ok_iff {tokens : List Token} : check tokens = .ok () ↔ Paired tokens := by
  rw [paired_iff, check]
  cases run [] tokens with
  | error e => exact ⟨nofun, nofun⟩
  | ok opened => cases opened with
    | nil => exact ⟨fun _ => rfl, fun _ => rfl⟩
    | cons o rest => exact ⟨nofun, nofun⟩

end Pairing

namespace Learning

open Pairing (Fault)

/-! ## After the check -/

section
variable {d : Document} {place : Option Nat} {what : Imbalance}

theorem anchor_ne_unbalanced (t : Token) : anchor d t ≠ .error (.unbalanced place what) := by
  intro h
  rw [anchor] at h
  split at h
  · cases h
  · split at h <;> split at h <;> cases h

theorem step_ne_unbalanced (n : Nest) (t : Token) :
    step d n t ≠ .error (.unbalanced place what) := by
  intro h
  rw [step] at h
  split at h
  · cases h
  · split at h
    · next e hl =>
      cases h
      rw [locate] at hl
      cases ha : anchor d t with
      | error e =>
        rw [ha] at hl
        cases hl
        exact anchor_ne_unbalanced t ha
      | ok q => rw [ha] at hl; cases hl
    · split at h
      · cases h
      · dsimp only at h
        split at h <;> cases h

theorem run_ne_unbalanced (n : Nest) (tokens : List Token) :
    run d n tokens ≠ .error (.unbalanced place what) := by
  induction tokens generalizing n with
  | nil => nofun
  | cons t rest ih =>
    rw [run]
    cases hs : step d n t with
    | error e => exact fun h => step_ne_unbalanced n t (hs.trans h)
    | ok n => exact ih n

/-- Learning fails with an unbalanced container when the check of pairs does. -/
theorem learn_eq_unbalanced_iff_check {fresh : MarkerId} {name : String} {tokens : List Token} :
    learn fresh name tokens d = .error (.unbalanced place what) ↔
      Pairing.check tokens = .error (.unbalanced place what) := by
  rw [learn]
  cases Pairing.check tokens with
  | error e => exact ⟨fun h => by cases h; rfl, fun h => by cases h; rfl⟩
  | ok u =>
    refine ⟨fun h => ?_, nofun⟩
    dsimp only at h
    split at h
    · next e hrun =>
      cases h
      exact absurd hrun (run_ne_unbalanced _ _)
    · cases h

end

/-- **Pairing is checked exactly, and first.** Learning fails with an unbalanced container when and
only when the starts and ends of the tokens are not paired, whatever the document holds. The error
then says where the token at fault stands and what is wrong there: the token is the first end with
which the tokens so far can no longer be paired by any others, or the last start left open if there
is no such end. -/
theorem unbalanced_iff_not_paired (fresh : MarkerId) (name : String) (tokens : List Token)
    (d : Document) :
    ((∃ place what, learn fresh name tokens d = .error (.unbalanced place what)) ↔
      ¬ Paired tokens) ∧
    ∀ place what, learn fresh name tokens d = .error (.unbalanced place what) ↔
      ∃ t, Fault tokens t what ∧ place = t.span.map (·.start) := by
  refine ⟨?_, fun place what =>
    learn_eq_unbalanced_iff_check.trans Pairing.check_eq_unbalanced_iff⟩
  rw [← Pairing.check_eq_ok_iff]
  constructor
  · rintro ⟨place, what, h⟩ hok
    rw [learn_eq_unbalanced_iff_check, hok] at h
    cases h
  · intro hnot
    cases hc : Pairing.check tokens with
    | ok u => exact absurd hc hnot
    | error e =>
      obtain ⟨t, what, rfl, _⟩ := Pairing.fault_of_check hc
      exact ⟨_, what, learn_eq_unbalanced_iff_check.2 hc⟩

section
open Token (leaf)

/-- A list's end inside an object is at fault, not the start of the list before it, which nothing
closes. -/
example (d : Document) :
    learn default "page" [leaf .listStart (some "a") (some ⟨0, 5⟩) none,
      leaf .objectStart (some "b") (some ⟨5, 9⟩) none, leaf .listEnd none (some ⟨9, 13⟩) none] d =
      .error (.unbalanced (some 9) (.mismatch .listEnd .objectStart "b")) := rfl

end

end Learning

end Stencil
