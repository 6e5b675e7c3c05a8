import ColumnCode.Directory
import ColumnCode.Main
import ColumnCode.Proofs.Layout
import ColumnCode.Proofs.ResetStatement
import ColumnCode.Proofs.BranchDefinition
import ColumnCode.Proofs.CodeLines
import ColumnCode.Proofs.SourceReading
import ColumnCode.Proofs.SourceLines
import ColumnCode.Proofs.SourceJoining
import ColumnCode.Proofs.SourceRendering
import ColumnCode.Proofs.SourceSpacing
import ColumnCode.Proofs.SourceEvents
import ColumnCode.Proofs.DocumentSections
import ColumnCode.Proofs.BlockReading
import ColumnCode.Proofs.BlockWriting
import ColumnCode.Proofs.EmittedLines
import ColumnCode.Proofs.Transience
import ColumnCode.Proofs.BookingFormat
import ColumnCode.Proofs.InvocationOutcome
import ColumnCode.Proofs.Expression
import ColumnCode.Proofs.ColumnNames
import ColumnCode.Proofs.CopyCoverage
import ColumnCode.Proofs.StatementExecution
import ColumnCode.Proofs.ResetReading
import ColumnCode.Proofs.MemberReading
import ColumnCode.Proofs.DefinitionNewlines
import ColumnCode.Proofs.MemberNames
import ColumnCode.Proofs.PartSorting
import ColumnCode.Proofs.RecordMembers
import ColumnCode.Proofs.StartingValues
import ColumnCode.Proofs.StorageColumns
import ColumnCode.Proofs.WordReach
import ColumnCode.Proofs.RunLog
import ColumnCode.Proofs.ModifierLetters
import ColumnCode.Proofs.ShapeRendering
import ColumnCode.Proofs.LiteralDimension
