import DiffSieve.Main
import DiffSieve.Proofs.Reading
import DiffSieve.Proofs.Replacement
import DiffSieve.Proofs.Rereading.Again
import DiffSieve.Proofs.Rereading.Cleaned
import DiffSieve.Proofs.Rereading.RoundTrip
import DiffSieve.Proofs.Rereading.Structure
import DiffSieve.Proofs.Stripping
import DiffSieve.Proofs.Survivors
import DiffSieve.Proofs.Joining
import DiffSieve.Proofs.Choice
import DiffSieve.Proofs.Accounting
import DiffSieve.Proofs.Locality
import DiffSieve.Proofs.Bearing
import DiffSieve.Proofs.Tokens.Endings
import DiffSieve.Proofs.Tokens.Quotes
import DiffSieve.Proofs.Command.AllOrNothing
import DiffSieve.Proofs.Tokens.Grammar
import DiffSieve.Proofs.Tokens.Blanks
import DiffSieve.Proofs.Tokens.Layout
import DiffSieve.Proofs.Tokens.Commas
import DiffSieve.Proofs.Semicolons
import DiffSieve.Proofs.Imports
import DiffSieve.Proofs.Wrapping
import DiffSieve.Proofs.Origins
import DiffSieve.Proofs.Mirror
import DiffSieve.Proofs.Matching
import DiffSieve.Proofs.Terminators
import DiffSieve.Proofs.Command.Silence
import DiffSieve.Proofs.Refusals
import DiffSieve.Proofs.Writing
