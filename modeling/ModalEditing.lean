import ModalEditing.Main
import ModalEditing.Proofs.Engine.Clock
import ModalEditing.Proofs.Engine.Deletion
import ModalEditing.Proofs.Engine.Escape
import ModalEditing.Proofs.Engine.LineChange
import ModalEditing.Proofs.Engine.Publication
import ModalEditing.Proofs.Engine.RefusedKeys
import ModalEditing.Proofs.Engine.SelectionDirection
import ModalEditing.Proofs.Engine.SelectionRoundTrip
import ModalEditing.Proofs.Engine.UnbrokenLines
import ModalEditing.Proofs.Engine.VisualMotions
import ModalEditing.Proofs.Engine.YankHighlighted
import ModalEditing.Proofs.Key.Spelling
import ModalEditing.Proofs.Lesson.Progress
import ModalEditing.Proofs.Key.Composition
import ModalEditing.Proofs.Key.Written
import ModalEditing.Proofs.Session.Transcript
import ModalEditing.Proofs.Checked.Basic
import ModalEditing.Proofs.Checked.Buffer
import ModalEditing.Proofs.Motion.Walk
import ModalEditing.Proofs.Motion.WordMotions
import ModalEditing.Proofs.Search.NextMatch
import ModalEditing.Proofs.Checked.Motion
import ModalEditing.Proofs.Checked.Search
import ModalEditing.Proofs.Checked.Edit
import ModalEditing.Proofs.Checked.CommandLine
import ModalEditing.Proofs.Checked.Keys
import ModalEditing.Proofs.Checked.Operation
import ModalEditing.Proofs.Buffer.Unbroken
import ModalEditing.Proofs.Engine.CountedMotion
import ModalEditing.Proofs.Engine.DeletionRoundTrip
import ModalEditing.Proofs.Engine.VerticalMotion
import ModalEditing.Proofs.Engine.CountedPaste
import ModalEditing.Proofs.Engine.TypedText
import ModalEditing.Proofs.Engine.WordDeletion
import ModalEditing.Proofs.Motion.OnLine
import ModalEditing.Proofs.Engine.LineJoining
import ModalEditing.Proofs.ExCommand
import ModalEditing.Proofs.Text.Occurrences
import ModalEditing.Proofs.Engine.Substitution
import ModalEditing.Proofs.Engine.EmptyDeletion
import ModalEditing.Proofs.Engine.InsideQuotes
import ModalEditing.Proofs.Motion.Quotes
import ModalEditing.Proofs.Engine.WordSearch
import ModalEditing.Proofs.View.Window
import ModalEditing.Proofs.Checked.Refusal
import ModalEditing.Proofs.Buffer.Content
import ModalEditing.Proofs.Engine.ShownCount
