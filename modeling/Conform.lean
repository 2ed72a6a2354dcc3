import Conform.Json.Reader
import Conform.Json.Writer
import Conform.Text.Case
import Conform.Text.Script
import Conform.Entries
import Conform.Date.Reader
import Conform.Date.Writer
import Conform.Pattern
import Conform.Loading
import Conform.Proofs.Documents
import Conform.Proofs.Paths
import Conform.Proofs.Rebuilding
import Conform.Proofs.Flattening
import Conform.Proofs.Frames
import Conform.Proofs.Resolved
import Conform.Proofs.Conforming
import Conform.Proofs.Visits
import Conform.Proofs.Places
import Conform.Proofs.Numbers
import Conform.Proofs.Rules
import Conform.Proofs.Acceptance
import Conform.Proofs.Emptiness
import Conform.Proofs.Layout
import Conform.Proofs.Judging
import Conform.Proofs.Presence
import Conform.Proofs.Letters
import Conform.Proofs.Reshaping
import Conform.Proofs.FixedPoints
import Conform.Proofs.Passes
import Conform.Proofs.Tolerance
import Conform.Proofs.Accord
import Conform.Proofs.Wording
import Conform.Proofs.Stated
import Conform.Proofs.Nesting
import Conform.Proofs.Reordering
import Conform.Proofs.Order
import Conform.Proofs.Registrations
import Conform.Proofs.Meanings
import Conform.Proofs.Undeclared
import Conform.Proofs.Causes
import Conform.Proofs.Membership
import Conform.Proofs.Numerals
import Conform.Proofs.Calendar
import Conform.Proofs.Instants
import Conform.Proofs.Timestamps
import Conform.Proofs.CanonicalDates
import Conform.Proofs.Precedence
import Conform.Proofs.Shorthands
import Conform.Proofs.AllowedDates
import Conform.Proofs.Guarantees
import Conform.Proofs.Addresses
import Conform.Proofs.Leaves
import Conform.Proofs.Messages
import Conform.Proofs.Unchanged
import Conform.Proofs.Restating
import Conform.Proofs.Grammar
import Conform.Proofs.Drawing
import Conform.Proofs.Concatenation
import Conform.Proofs.ExactValues
import Conform.Proofs.NumberTexts
import Conform.Proofs.CodePoints
import Conform.Proofs.Encodings
