import SqlOutline.Query.Field
import SqlOutline.Query.TableRef
import SqlOutline.Schema.Script
import SqlOutline.Proofs.CommentedScript
import SqlOutline.Proofs.Dump
import SqlOutline.Proofs.FirstOccurrence
import SqlOutline.Proofs.ForeignKeyLines
import SqlOutline.Proofs.LiteralOpacity
import SqlOutline.Proofs.TagIndependence
import SqlOutline.Proofs.WrittenStatement
import SqlOutline.Proofs.AppendedClause
import SqlOutline.Proofs.FieldConcatenation
import SqlOutline.Proofs.WrittenFields
import SqlOutline.Proofs.WrittenReference
import SqlOutline.Proofs.HeadIndependence
import SqlOutline.Proofs.CountedNames
import SqlOutline.Proofs.HeadQuoting
import SqlOutline.Proofs.NamedConstraint
import SqlOutline.Proofs.ClosingParenthesis
import SqlOutline.Proofs.WaitingForeignKey
import SqlOutline.Proofs.DeclarationOrder
import SqlOutline.Proofs.CommentCuts
import SqlOutline.Proofs.BacktickPairs
import SqlOutline.Proofs.IssuedPlaceholders
import SqlOutline.Proofs.WholeOccurrence
