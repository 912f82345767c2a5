import TemplateTags.Cursor
import TemplateTags.Listing
import TemplateTags.Scan
import TemplateTags.Scanner.Steps
import TemplateTags.Tag
import TemplateTags.Trace
import TemplateTags.Proofs.Rules
import TemplateTags.Proofs.Places
import TemplateTags.Proofs.Partition
import TemplateTags.Proofs.Balance
import TemplateTags.Proofs.Layout
import TemplateTags.Proofs.Positions
import TemplateTags.Proofs.Undelimited
import TemplateTags.Proofs.Nesting
import TemplateTags.Proofs.Trimming
import TemplateTags.Piece
import TemplateTags.Proofs.Body
import TemplateTags.Proofs.Borders
import TemplateTags.Proofs.Rendering
import TemplateTags.Proofs.Shift
import TemplateTags.Proofs.Lookahead
import TemplateTags.Proofs.Concatenation
import TemplateTags.Proofs.Finality
import TemplateTags.Proofs.Region
import TemplateTags.Proofs.Independence
import TemplateTags.Proofs.Truncation
import TemplateTags.Proofs.Cuts
import TemplateTags.Proofs.Justification
import TemplateTags.Proofs.Tracing
import TemplateTags.Proofs.Prefixes
import TemplateTags.Proofs.Strictness
import TemplateTags.Proofs.Neutral
import TemplateTags.Proofs.Recoding
import TemplateTags.Proofs.EndCheck
import TemplateTags.Proofs.Progress
import TemplateTags.Proofs.Movement
import TemplateTags.Proofs.Spelling
import TemplateTags.Proofs.Acceptance
import TemplateTags.Proofs.Strings
import TemplateTags.Proofs.MaximalMunch
import TemplateTags.Proofs.MissedClosings
import TemplateTags.Proofs.Blame
import TemplateTags.Proofs.Reassembly
import TemplateTags.Proofs.Segments
import TemplateTags.Proofs.Openings
import TemplateTags.Proofs.Quotation
import TemplateTags.Proofs.Lossless
import TemplateTags.Proofs.Validation
import TemplateTags.Proofs.Collecting
