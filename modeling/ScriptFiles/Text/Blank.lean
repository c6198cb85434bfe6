/-!
# White space

The characters that are white space in any script.
-/

namespace ScriptFiles.Text

/-- White space of any script. -/
def isBlank (c : Char) : Bool :=
  [0x20, 0x85, 0xA0, 0x1680, 0x2028, 0x2029, 0x202F, 0x205F, 0x3000].contains c.toNat ||
    (9 ≤ c.toNat && c.toNat ≤ 13) || (0x2000 ≤ c.toNat && c.toNat ≤ 0x200A)

end ScriptFiles.Text
