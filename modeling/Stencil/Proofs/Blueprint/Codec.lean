import Stencil.Blueprint.Codec
import Stencil.Proofs.Address.Selector
import Stencil.Proofs.Json.Reading
import Stencil.Proofs.MarkerId.Spelling
import Stencil.Token.Walk

/-!
# Which blueprints survive as files

Every part of a token is read back from what it was written as, but for three reasons that it may
not be: a range that ends beyond a word, an address that no selector can say, and a place too deep
in the tree for the decoder. `Token.IsStorable` and the depth of a token exclude them, and
`ofText?_toText_iff` says that a blueprint survives being written and read exactly when they do for
every token of its tree.
-/

namespace Stencil

open Json (Whole WholeItems WholeMembers)

/-! ## Parts of a token -/

/-- Whether both ends of a range fit in a word. -/
def Span.Fits (s : Span) : Prop := s.start < Text.wordSize ∧ s.stop < Text.wordSize

/-- A range is read back if it fits. -/
theorem Span.ofJson?_toJson_iff (levels : Nat) (s : Span) :
    ofJson? (levels + 1) s.toJson = some s ↔ s.Fits := by
  have hread : ofJson? (levels + 1) s.toJson = do
      return ⟨← Json.asWord? (Json.ofNat s.start), ← Json.asWord? (Json.ofNat s.stop)⟩ := rfl
  rw [hread, Json.asWord?_ofNat, Json.asWord?_ofNat, Fits]
  by_cases hstart : s.start < Text.wordSize
  · by_cases hstop : s.stop < Text.wordSize
    · rw [if_pos hstart, if_pos hstop]
      exact ⟨fun _ => ⟨hstart, hstop⟩, fun _ => rfl⟩
    · rw [if_pos hstart, if_neg hstop]
      exact ⟨nofun, fun h => absurd h.2 hstop⟩
  · rw [if_neg hstart]
    exact ⟨nofun, fun h => absurd h.1 hstart⟩

/-- An address is read back if a selector can say it. -/
theorem Address.ofJson?_toJson_iff (a : Address) : ofJson? a.toJson = some a ↔ a.IsReadable := by
  rw [toJson, ofJson?, ← parse_toText_eq_ok_iff]
  cases parse a.toText with
  | error e => exact ⟨nofun, nofun⟩
  | ok b => exact ⟨fun h => congrArg _ (Option.some.inj h), fun h => by cases h; rfl⟩

/-- An optional part is read back if what is there is, unless that is written as null. -/
theorem Json.optional?_map_iff {α : Type} (encode : α → Json) (decode : Json → Option α)
    (hne : ∀ a, encode a ≠ .null) (o : Option α) :
    Json.optional? decode (o.map encode) = some o ↔
      ∀ a, o = some a → decode (encode a) = some a := by
  cases o with
  | none => exact ⟨fun _ => nofun, fun _ => rfl⟩
  | some a =>
    rw [Option.map_some, Json.optional?]
    · constructor
      · intro h b hb
        cases hb
        cases hd : decode (encode a) with
        | none => rw [hd] at h; cases h
        | some b => rw [hd] at h; exact Option.some.inj h
      · intro h
        rw [h a rfl]
        rfl
    · exact hne a

namespace Token

/-- The members under a key among those of a part. -/
theorem filter_part {α : Type} (key wanted : String) (encode : α → Json) (o : Option α) :
    (part key encode o).filter (fun m => m.1 == wanted) =
      if key = wanted then part key encode o else [] := by
  cases o with
  | none => rw [part, List.filter_nil, ite_self]
  | some a => by_cases h : key = wanted <;> simp [part, h]

/-- The list of fields as it is written, absent when there are none. -/
def childrenJson? : List Token → Option Json
  | [] => none
  | t :: ts => some (.array (toJsonAll (t :: ts)))

/-- A token is written as its parts. -/
theorem toJson_eq (t : Token) :
    t.toJson = .object (part "kind" TokenKind.toJson (some t.kind) ++
      part "name" .string t.name ++ part "span" Span.toJson t.span ++
      part "marker_id" MarkerId.toJson t.markerId ++
      part "children" id (childrenJson? t.children) ++
      part "relative_address" Address.toJson t.address) := by
  obtain ⟨kind, name, span, markerId, children, address⟩ := t
  rw [toJson]
  cases children <;> rfl

/-- The part with a key is found if no other has that key. -/
theorem member?_of_filter {α : Type} {members : List (String × Json)} (key : String)
    (encode : α → Json) (o : Option α)
    (h : members.filter (fun m => m.1 == key) = part key encode o) :
    Json.member? key members = some (o.map encode) := by
  rw [Json.member?, h]
  cases o <;> rfl

/-- The parts of a token are found under their keys. -/
theorem fields?_toJson (t : Token) :
    Json.fields? members t.toJson =
      some [some t.kind.toJson, t.name.map .string, t.span.map Span.toJson,
        t.markerId.map MarkerId.toJson, childrenJson? t.children,
        t.address.map Address.toJson] := by
  rw [toJson_eq, Json.fields?, members, List.mapM_cons,
    member?_of_filter "kind" TokenKind.toJson (some t.kind) (by simp [filter_part]),
    List.mapM_cons, member?_of_filter "name" .string t.name (by simp [filter_part]),
    List.mapM_cons, member?_of_filter "span" Span.toJson t.span (by simp [filter_part]),
    List.mapM_cons,
    member?_of_filter "marker_id" MarkerId.toJson t.markerId (by simp [filter_part]),
    List.mapM_cons,
    member?_of_filter "children" id (childrenJson? t.children) (by simp [filter_part]),
    List.mapM_cons,
    member?_of_filter "relative_address" Address.toJson t.address (by simp [filter_part]),
    List.mapM_nil, Option.map_id]
  rfl

/-! ## Trees of tokens -/

/-- Whether the parts of a token can be stored: its range fits, and a selector can say its
address. -/
structure IsStorable (t : Token) : Prop where
  span : ∀ s, t.span = some s → s.Fits
  address : ∀ a, t.address = some a → a.IsReadable

/-- A token is read back from one level up if its parts can be stored and its fields are read
back. -/
theorem ofJson?_toJson_iff (levels : Nat) (t : Token) :
    ofJson? (levels + 2) t.toJson = some t ↔
      t.IsStorable ∧ childrenOfJson? (levels + 1) (childrenJson? t.children) = some t.children := by
  have hname := (Json.optional?_map_iff Json.string Json.asString? nofun t.name).2
    fun _ _ => rfl
  have hspan := Json.optional?_map_iff Span.toJson (Span.ofJson? (levels + 1)) nofun t.span
  have hid := (Json.optional?_map_iff MarkerId.toJson MarkerId.ofJson? nofun t.markerId).2
    fun id _ => id.parse?_toText
  have haddress := Json.optional?_map_iff Address.toJson Address.ofJson? nofun t.address
  have hkind : TokenKind.ofJson? t.kind.toJson = some t.kind := TokenKind.ofKeyword?_keyword _
  simp only [Span.ofJson?_toJson_iff] at hspan
  simp only [Address.ofJson?_toJson_iff] at haddress
  rw [ofJson?, fields?_toJson]
  dsimp only
  rw [hkind, hname, hid]
  obtain ⟨kind, name, span, markerId, children, address⟩ := t
  constructor
  · intro h
    simp only [Option.bind_eq_bind, Option.bind_some, Option.bind_eq_some_iff, Option.pure_def,
      Option.some.injEq] at h
    obtain ⟨span', hspan', children', hchildren', address', haddress', h⟩ := h
    cases h
    exact ⟨⟨hspan.1 hspan', haddress.1 haddress'⟩, hchildren'⟩
  · rintro ⟨⟨h1, h2⟩, h3⟩
    dsimp only at h1 h2 h3 ⊢
    rw [hspan.2 h1, haddress.2 h2, h3]
    rfl

/-- The list of fields is read back if each field is. -/
theorem childrenOfJson?_childrenJson? (levels : Nat) (ts : List Token) :
    childrenOfJson? (levels + 1) (childrenJson? ts) =
      (toJsonAll ts).mapM fun j => ofJson? levels j := by
  cases ts <;> rfl

mutual

/-- Two levels for each token on the way down are needed, and are enough. -/
theorem ofJson?_toJson_iff_preorder : (t : Token) → ∀ m depth : Nat,
    ofJson? (2 * m) t.toJson = some t ↔
      ∀ v ∈ preorder depth t, v.2 < depth + m ∧ v.1.IsStorable
  | ⟨kind, name, span, markerId, children, address⟩, 0, depth => by
    rw [preorder, Nat.mul_zero, ofJson?]
    exact ⟨nofun, fun h => absurd (h _ (List.mem_cons_self ..)).1 (Nat.lt_irrefl _)⟩
  | ⟨kind, name, span, markerId, children, address⟩, m + 1, depth => by
    have hchildren := mapM_toJsonAll_iff_preorderAll children m (depth + 1)
    rw [Nat.mul_succ, ofJson?_toJson_iff, childrenOfJson?_childrenJson?, preorder,
      List.forall_mem_cons, hchildren, Nat.add_right_comm, Nat.add_assoc]
    exact and_congr_left fun _ => ⟨fun h => ⟨by omega, h⟩, And.right⟩

/-- The same of each token of a list. -/
theorem mapM_toJsonAll_iff_preorderAll : (ts : List Token) → ∀ m depth : Nat,
    ((toJsonAll ts).mapM fun j => ofJson? (2 * m) j) = some ts ↔
      ∀ v ∈ preorderAll depth ts, v.2 < depth + m ∧ v.1.IsStorable
  | [], m, depth => ⟨fun _ => List.forall_mem_nil _, fun _ => rfl⟩
  | t :: ts, m, depth => by
    have hfirst := ofJson?_toJson_iff_preorder t m depth
    have hrest := mapM_toJsonAll_iff_preorderAll ts m depth
    rw [preorderAll, List.forall_mem_append, ← hfirst, ← hrest, toJsonAll, List.mapM_cons]
    constructor
    · intro h
      simp only [Option.bind_eq_bind, Option.bind_eq_some_iff, Option.pure_def,
        Option.some.injEq] at h
      obtain ⟨t', ht, ts', hts, h⟩ := h
      cases h
      exact ⟨ht, hts⟩
    · rintro ⟨ht, hts⟩
      rw [ht, hts]
      rfl

end

/-! ## The text of a token -/

theorem wholeMembers_part {α : Type} (key : String) (encode : α → Json)
    (h : ∀ a, (encode a).Whole) (o : Option α) : WholeMembers (part key encode o) := by
  cases o with
  | none => trivial
  | some a => exact ⟨h a, trivial⟩

mutual

/-- The numbers in a written token are whole. -/
theorem whole_toJson : (t : Token) → Whole t.toJson
  | ⟨kind, name, span, markerId, children, address⟩ => by
    have hspan : ∀ s : Span, Whole s.toJson := fun s =>
      ⟨Json.whole_ofNat _, Json.whole_ofNat _, trivial⟩
    have hchildren : ∀ items, childrenJson? children = some items → Whole items := by
      cases children with
      | nil => exact nofun
      | cons t ts =>
        intro items h
        cases h
        exact wholeItems_toJsonAll (t :: ts)
    rw [toJson_eq, Whole]
    simp only [Json.wholeMembers_append]
    refine ⟨⟨⟨⟨⟨?_, ?_⟩, ?_⟩, ?_⟩, ?_⟩, ?_⟩
    · exact wholeMembers_part _ TokenKind.toJson (fun _ => trivial) _
    · exact wholeMembers_part _ Json.string (fun _ => trivial) _
    · exact wholeMembers_part _ Span.toJson hspan _
    · exact wholeMembers_part _ MarkerId.toJson (fun _ => trivial) _
    · cases hc : childrenJson? children with
      | none => trivial
      | some items => exact ⟨hchildren items hc, trivial⟩
    · exact wholeMembers_part _ Address.toJson (fun _ => trivial) _

/-- So are those in a list of written tokens. -/
theorem wholeItems_toJsonAll : (ts : List Token) → WholeItems (toJsonAll ts)
  | [] => trivial
  | t :: ts => ⟨whole_toJson t, wholeItems_toJsonAll ts⟩

end

end Token

namespace Blueprint

/-- The tree of a blueprint's file is read back as the blueprint, if every token of it can be
stored and lies at most 62 levels below the root. -/
theorem ofJson?_toJson_iff (b : Blueprint) :
    ofJson? b.toJson = some b ↔ ∀ v ∈ Token.preorder 0 b.root, v.2 ≤ 62 ∧ v.1.IsStorable := by
  have hread : ofJson? b.toJson = do
      return ⟨← Json.asString? (.string b.name), ← Token.ofJson? (2 * 63) b.root.toJson⟩ := rfl
  have hdepth : (∀ v ∈ Token.preorder 0 b.root, v.2 ≤ 62 ∧ v.1.IsStorable) ↔
      ∀ v ∈ Token.preorder 0 b.root, v.2 < 0 + 63 ∧ v.1.IsStorable := by
    simp only [Nat.zero_add, Nat.lt_succ_iff]
  rw [hread, hdepth, ← Token.ofJson?_toJson_iff_preorder b.root 63 0]
  cases Token.ofJson? (2 * 63) b.root.toJson with
  | none => exact ⟨nofun, nofun⟩
  | some root =>
    obtain ⟨name, root'⟩ := b
    constructor
    · intro h
      cases h
      rfl
    · intro h
      cases h
      rfl

/-- The text of a blueprint's file is read as the tree it was written from. -/
theorem ofText?_toText (b : Blueprint) : ofText? b.toText = ofJson? b.toJson := by
  have hwhole : b.toJson.Whole := ⟨trivial, Token.whole_toJson b.root, trivial⟩
  rw [ofText?, toText, Json.prettyString, Json.ofString?, String.toList_ofList,
    Json.parse?_pretty hwhole, Option.bind_some]

/-- **A blueprint survives as a file exactly when its tokens can be stored** and none lies more than
62 levels below the root. -/
theorem ofText?_toText_iff (b : Blueprint) :
    ofText? b.toText = some b ↔ ∀ v ∈ Token.preorder 0 b.root, v.2 ≤ 62 ∧ v.1.IsStorable := by
  rw [ofText?_toText, ofJson?_toJson_iff]

end Blueprint

end Stencil
