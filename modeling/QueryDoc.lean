import QueryDoc.Facade.Script
import QueryDoc.Proofs.ConditionText
import QueryDoc.Proofs.FilterEdits
import QueryDoc.Proofs.FacadeFailures
import QueryDoc.Proofs.PageWindows
import QueryDoc.Proofs.Negation
import QueryDoc.Proofs.RowCount
import QueryDoc.Proofs.SharedStore
import QueryDoc.Proofs.CteRedeclaration
import QueryDoc.Proofs.InsertColumns
import QueryDoc.Proofs.QuotedTokens
import QueryDoc.Proofs.LikePatterns
import QueryDoc.Proofs.RawBindings
