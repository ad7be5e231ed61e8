import Stencil.Text.WidthTable
import Stencil.Text.Word

/-!
# Display width

How many columns a text takes on a terminal. A character takes no column, one or two. Emoji form
sequences: one followed by the emoji selector, by a skin tone or by a joiner and another emoji takes
two columns as a whole, and one followed by the text selector takes one.
-/

namespace Stencil.Text

/-- The columns of a character on its own. Control characters take none. -/
def charWidth (c : Char) : Nat :=
  let n := c.toNat
  if n < 0x20 ∨ (0x7f ≤ n ∧ n < 0xa0) then 0
  else if n < 0x7f then 1
  else if inRanges zeroWidthRanges n then 0
  else if inRanges wideRanges n then 2
  else 1

/-- What stands before a character of a text. -/
inductive WidthContext where
  | plain
  /-- An emoji that takes `width` columns so far and may take a skin tone. -/
  | emoji (width : Nat) (takesTone : Bool)
  /-- An emoji and a joiner. -/
  | joined
  deriving DecidableEq, Repr

/-- Whether a character is a skin tone. -/
def isSkinTone (c : Char) : Bool := 0x1F3FB ≤ c.toNat && c.toNat ≤ 0x1F3FF

/-- The columns of a character before `rest`: the text selector makes a wide emoji narrow, unless it
is one of the enclosed ideographs. -/
def widthBefore (c : Char) (rest : List Char) : Nat :=
  if rest.head? = some '\uFE0E' && inRanges emojiRanges c.toNat &&
      !(0x1F200 ≤ c.toNat && c.toNat ≤ 0x1F2FF) then 1
  else charWidth c

/-- The columns that the rest of a text adds to what stands before it. -/
def widthAfter : WidthContext → List Char → Nat
  | _, [] => 0
  | context, c :: rest =>
    let emoji := inRanges emojiRanges c.toNat
    let takesTone := inRanges modifierBaseRanges c.toNat
    match context with
    | .emoji w tone =>
      if c = '\uFE0F' then (2 - w) + widthAfter (.emoji 2 tone) rest
      else if isSkinTone c && tone then (2 - w) + widthAfter (.emoji 2 false) rest
      else if c = '\u200D' then widthAfter .joined rest
      else
        let w := widthBefore c rest
        w + widthAfter (if emoji then .emoji w takesTone else .plain) rest
    | .joined =>
      if emoji then widthAfter (.emoji 2 takesTone) rest
      else widthBefore c rest + widthAfter .plain rest
    | .plain =>
      let w := widthBefore c rest
      w + widthAfter (if emoji then .emoji w takesTone else .plain) rest

/-- The columns of a text on one line. -/
def displayWidth (s : List Char) : Nat := widthAfter .plain s

end Stencil.Text
