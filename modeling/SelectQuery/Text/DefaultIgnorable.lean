import SelectQuery.Text.CodeRange

/-!
# Characters that are shown as nothing

The property Default_Ignorable_Code_Point holds of characters that a display leaves out if it does
not support them: joiners, variation selectors, direction marks, tags and the fillers of the Hangul
script. Most of them have other signs of being invisible too, such as a category of their own; the
fillers are letters by category. The table is that of Unicode 17.0, in ascending order, adjacent
ranges joined.
-/

namespace SelectQuery.Text

/-- The code points with the property Default_Ignorable_Code_Point. -/
def defaultIgnorable : List CodeRange := [
  ⟨0xad, 0xad⟩, ⟨0x34f, 0x34f⟩, ⟨0x61c, 0x61c⟩, ⟨0x115f, 0x1160⟩, ⟨0x17b4, 0x17b5⟩,
  ⟨0x180b, 0x180f⟩, ⟨0x200b, 0x200f⟩, ⟨0x202a, 0x202e⟩, ⟨0x2060, 0x206f⟩, ⟨0x3164, 0x3164⟩,
  ⟨0xfe00, 0xfe0f⟩, ⟨0xfeff, 0xfeff⟩, ⟨0xffa0, 0xffa0⟩, ⟨0xfff0, 0xfff8⟩, ⟨0x1bca0, 0x1bca3⟩,
  ⟨0x1d173, 0x1d17a⟩, ⟨0xe0000, 0xe0fff⟩]

/-- Is the character shown as nothing? No character below U+00AD is. -/
def isDefaultIgnorable (c : Char) : Bool :=
  0xad ≤ c.toNat && CodeRange.covers defaultIgnorable c

end SelectQuery.Text
