import AttrExpr.Main
import AttrExpr.Proofs.Tree
import AttrExpr.Proofs.Slots
import AttrExpr.Proofs.Isolation
import AttrExpr.Proofs.Kinds
import AttrExpr.Proofs.Typing
import AttrExpr.Proofs.Soundness
import AttrExpr.Proofs.Lowering
import AttrExpr.Proofs.Results
import AttrExpr.Proofs.Candidates
import AttrExpr.Proofs.Quantifiers
import AttrExpr.Proofs.Accounts
import AttrExpr.Proofs.Rendering
import AttrExpr.Proofs.References
import AttrExpr.Proofs.Concatenation
import AttrExpr.Proofs.Views
import AttrExpr.Proofs.Declarations
import AttrExpr.Proofs.Viability
import AttrExpr.Proofs.Missing
import AttrExpr.Proofs.Blame
import AttrExpr.Proofs.Arithmetic
import AttrExpr.Proofs.IgnoringCase
import AttrExpr.Proofs.Anchoring
import AttrExpr.Proofs.Coercions
import AttrExpr.Proofs.WholeNumbers
import AttrExpr.Proofs.Comparison
import AttrExpr.Proofs.PatternArguments
import AttrExpr.Proofs.Seeking
import AttrExpr.Proofs.TruthValues
import AttrExpr.Proofs.Splitting
import AttrExpr.Proofs.Duality
import AttrExpr.Proofs.Wrapping
import AttrExpr.Proofs.ShortCircuits
import AttrExpr.Proofs.NumberRoundTrips
import AttrExpr.Proofs.Padding
import AttrExpr.Proofs.Carets
import AttrExpr.Proofs.LiteralTexts
import AttrExpr.Proofs.CanonicalTexts
import AttrExpr.Proofs.Places
import AttrExpr.Proofs.Scopes
import AttrExpr.Proofs.Remaining
