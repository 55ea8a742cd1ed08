import ModalEditing.Proofs.Engine.CursorBounds

namespace ModalEditing

namespace Mode

variable {buffer : Buffer} {cursor : Position} {mode : Mode}

theorem commandArea_of_keys? {keys : PendingKeys}
    (held : mode.keys? = some keys) : mode.commandArea = keys.display := by
  cases mode with
  | normal pending => exact congrArg PendingKeys.display (Option.some.inj held)
  | visual selection pending =>
      exact congrArg PendingKeys.display (Option.some.inj held)
  | insert => contradiction
  | command line => contradiction

end Mode

namespace Engine

variable {engine : Engine}

theorem Coherent.fits_of_visual (coherent : engine.Coherent)
    {selection : Selection} {keys : PendingKeys}
    (visual : engine.mode = .visual selection keys) :
    selection.Fits engine.buffer engine.cursor ∧ keys.Counted ∧
      keys.OnlyMotions := by
  have fits := coherent.mode
  rwa [visual] at fits

end Engine

end ModalEditing
