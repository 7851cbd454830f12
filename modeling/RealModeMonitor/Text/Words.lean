/-!
# Words of a line

A command line is cut at runs of blank characters: the 25 characters with the Unicode property
`White_Space`. Blanks at either end and repeated blanks give no empty word.
-/

namespace RealModeMonitor.Text

/-- The characters with the property `White_Space`, as code points. -/
def blanks : List Nat :=
  [0x09, 0x0A, 0x0B, 0x0C, 0x0D, 0x20, 0x85, 0xA0, 0x1680,
    0x2000, 0x2001, 0x2002, 0x2003, 0x2004, 0x2005, 0x2006, 0x2007, 0x2008, 0x2009, 0x200A,
    0x2028, 0x2029, 0x202F, 0x205F, 0x3000]

def isBlank (c : Char) : Bool := blanks.contains c.toNat

example : blanks.length = 25 := rfl

/-- The maximal runs of characters that are not blank, in order. -/
def words (line : String) : List String :=
  ((line.toList.splitBy fun a b => isBlank a == isBlank b).filter fun run => !run.any isBlank).map
    String.ofList

end RealModeMonitor.Text
