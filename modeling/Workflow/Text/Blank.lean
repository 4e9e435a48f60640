/-!
# Blank text

A name or a version counts as missing when it is empty or made of white space only. White space
is Unicode's `White_Space` property: the list below is that property in full, so a no-break space
or an ideographic space is as blank as a plain one.
-/

namespace Workflow

/-- The characters with Unicode's `White_Space` property. -/
def isWhiteSpace (c : Char) : Bool :=
  (0x09 ≤ c.toNat && c.toNat ≤ 0x0D) || c.toNat == 0x20 || c.toNat == 0x85 || c.toNat == 0xA0 ||
  c.toNat == 0x1680 || (0x2000 ≤ c.toNat && c.toNat ≤ 0x200A) || c.toNat == 0x2028 ||
  c.toNat == 0x2029 || c.toNat == 0x202F || c.toNat == 0x205F || c.toNat == 0x3000

/-- Text without a single character that shows: empty, or white space throughout. -/
def isBlank (s : String) : Bool :=
  s.toList.all isWhiteSpace

@[simp] theorem isBlank_empty : isBlank "" = true := by simp [isBlank]

end Workflow
