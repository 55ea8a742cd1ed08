import ModalEditing.Unicode.Intervals

namespace ModalEditing.Unicode

/-- The characters with the property White_Space. -/
def blanks : Intervals := [
  (0x9, 0xd), (0x20, 0x20), (0x85, 0x85), (0xa0, 0xa0), (0x1680, 0x1680),
  (0x2000, 0x200a), (0x2028, 0x2029), (0x202f, 0x202f), (0x205f, 0x205f),
  (0x3000, 0x3000)]

def isBlank (c : Char) : Bool :=
  blanks.contains c

theorem isBlank_of_isWhitespace {c : Char} (h : c.isWhitespace = true) :
    isBlank c = true := by
  simp only [Char.isWhitespace, Bool.or_eq_true, decide_eq_true_eq] at h
  rcases h with ((rfl | rfl) | rfl) | rfl <;> decide

end ModalEditing.Unicode
