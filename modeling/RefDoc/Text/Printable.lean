import RefDoc.Text.Category

/-!
# Printable characters

What stands for itself in quoted text. Control and format characters, unassigned and private code
points, separators other than the space, and marks that extend the character before them do not.
-/

namespace RefDoc.Text

/-- What extends the character before it, beside the nonspacing and enclosing marks. -/
def otherExtending : Ranges := #[
  (0x9BE, 0x9BE), (0x9D7, 0x9D7), (0xB3E, 0xB3E), (0xB57, 0xB57), (0xBBE, 0xBBE), (0xBD7, 0xBD7),
  (0xCC2, 0xCC2), (0xCD5, 0xCD6), (0xD3E, 0xD3E), (0xD57, 0xD57), (0xDCF, 0xDCF), (0xDDF, 0xDDF),
  (0x1B35, 0x1B35), (0x302E, 0x302F), (0xFF9E, 0xFF9F), (0x1133E, 0x1133E), (0x11357, 0x11357),
  (0x114B0, 0x114B0), (0x114BD, 0x114BD), (0x115AF, 0x115AF), (0x11930, 0x11930),
  (0x1D165, 0x1D165), (0x1D16E, 0x1D172)]

def isPrintable (c : Char) : Bool :=
  c == ' ' ||
    match category c with
    | .cc | .cf | .cs | .co | .cn | .zl | .zp | .zs | .mn | .me => false
    | _ => !otherExtending.contains c

end RefDoc.Text
