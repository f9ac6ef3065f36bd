import Adventure.Main
import Adventure.Terminal.Completion
import Adventure.Terminal.Highlight
import Adventure.Proofs.Scan
import Adventure.Proofs.Vocabulary
import Adventure.Proofs.Lossless
import Adventure.Proofs.Line
import Adventure.Proofs.Diagnostics
import Adventure.Proofs.Contract
import Adventure.Proofs.Places
import Adventure.Proofs.LetterCase
import Adventure.Proofs.Reparse
import Adventure.Proofs.Synonyms
import Adventure.Proofs.Aliases
import Adventure.Proofs.Json
import Adventure.Proofs.Command
import Adventure.Proofs.Lines
import Adventure.Proofs.Batch
import Adventure.Proofs.Alike
import Adventure.Proofs.Composition
import Adventure.Proofs.Spacing
import Adventure.Proofs.Folding
import Adventure.Proofs.Opaque
import Adventure.Proofs.Stepping
import Adventure.Proofs.Exchange
import Adventure.Proofs.Conversation
import Adventure.Proofs.Division
import Adventure.Proofs.Canonical
import Adventure.Proofs.Movement
import Adventure.Proofs.Help
import Adventure.Proofs.Positions
import Adventure.Proofs.Caret
import Adventure.Proofs.Frame
import Adventure.Proofs.Respelling
import Adventure.Proofs.Listing
import Adventure.Proofs.Reload
import Adventure.Proofs.Stream
import Adventure.Proofs.Highlight
import Adventure.Proofs.Quotes
import Adventure.Proofs.Locality
import Adventure.Proofs.Arguments
import Adventure.Proofs.Description
import Adventure.Proofs.Completion
