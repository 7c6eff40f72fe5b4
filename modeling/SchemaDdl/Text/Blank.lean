import SchemaDdl.Text.Ranges

/-!
# White space and blank text

A text is blank when it holds white space only; an optional text that is blank counts as
absent.  White space is the Unicode property of that name, which is larger than the ASCII
blanks.
-/

namespace SchemaDdl.Text

/-- The 25 characters with the White_Space property. -/
def spaceRanges : Ranges :=
  [(0x9, 0xD), (0x20, 0x20), (0x85, 0x85), (0xA0, 0xA0), (0x1680, 0x1680), (0x2000, 0x200A),
   (0x2028, 0x2029), (0x202F, 0x202F), (0x205F, 0x205F), (0x3000, 0x3000)]

def isSpace (c : Char) : Bool :=
  spaceRanges.holds c.toNat

def trimStart (s : List Char) : List Char :=
  s.dropWhile isSpace

def trim (s : List Char) : List Char :=
  (trimStart (trimStart s).reverse).reverse

/-- White space only, or nothing at all. -/
def isBlank (s : String) : Bool :=
  s.toList.all isSpace

/-- An optional text, absent when blank.  A text that is not blank is kept untrimmed. -/
def nonBlank (s : Option String) : Option String :=
  s.filter fun t => !isBlank t

@[simp] theorem nonBlank_none : nonBlank none = none := rfl

theorem nonBlank_eq_some {s : Option String} {t : String} :
    nonBlank s = some t ↔ s = some t ∧ isBlank t = false := by
  simp [nonBlank, Option.filter_eq_some_iff]

end SchemaDdl.Text
