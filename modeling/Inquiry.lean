import Inquiry.Text.Blank
import Inquiry.Text.Case
import Inquiry.Text.Quoted
import Inquiry.Outline
import Inquiry.Number.Binary.Arithmetic
import Inquiry.Number.Binary.Shortest
import Inquiry.Number.Binary.Reader
import Inquiry.Number.Decimal.Reader
import Inquiry.Number.Decimal.Binary
import Inquiry.Calendar.Text
import Inquiry.Value.Convert
import Inquiry.Statement.Digest
import Inquiry.Statement.Render
import Inquiry.Statement.Node
import Inquiry.Statement.Same
import Inquiry.Host.Same
import Inquiry.Host.Fold
import Inquiry.Schema
import Inquiry.Compiler
import Inquiry.Session
import Inquiry.Proofs.SessionParameters
import Inquiry.Proofs.FoldSubstitution
import Inquiry.Proofs.Placement
import Inquiry.Proofs.QueryText
import Inquiry.Proofs.StepOrder
import Inquiry.Proofs.CompiledForm
import Inquiry.Proofs.AccessorNames
import Inquiry.Proofs.References
import Inquiry.Proofs.ValueIndependence
import Inquiry.Proofs.FilterConjunction
import Inquiry.Proofs.ReaderColumns
import Inquiry.Proofs.SameText
import Inquiry.Proofs.ConstantConditions
import Inquiry.Proofs.ReaderTypes
import Inquiry.Proofs.NullPropagation
import Inquiry.Proofs.Aggregation
import Inquiry.Proofs.CaseChains
import Inquiry.Proofs.MemberPaths
import Inquiry.Proofs.ScalarText
import Inquiry.Proofs.DateText
import Inquiry.Proofs.NumberText
import Inquiry.Proofs.QuotedText
