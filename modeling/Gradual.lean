import Gradual.Program
import Gradual.View
import Gradual.Draft.Check
import Gradual.Diagnostic.Render
import Gradual.Proofs.Stmt.Resolution
import Gradual.Proofs.Precision
import Gradual.Proofs.Typing
import Gradual.Proofs.TypeSystem
import Gradual.Proofs.Stmt.Sites
import Gradual.Proofs.Wildcard
import Gradual.Proofs.Plain
import Gradual.Proofs.Stmt.Points
import Gradual.Proofs.Stmt.Walk
import Gradual.Proofs.Faults
import Gradual.Proofs.Scopes
import Gradual.Proofs.Undeclared
import Gradual.Proofs.History
import Gradual.Proofs.Expr.Contexts
import Gradual.Proofs.Strictness
import Gradual.Proofs.Stmt.Agreement
import Gradual.Proofs.Independence
import Gradual.Proofs.EntryPoints
import Gradual.Proofs.Sessions
import Gradual.Proofs.TypeNames
import Gradual.Proofs.Expr.Relocation
import Gradual.Proofs.WrittenTypes
import Gradual.Proofs.Relocation
import Gradual.Proofs.Expr.Renaming
import Gradual.Proofs.Renaming
import Gradual.Proofs.Drafts
import Gradual.Proofs.TypeNameReading
import Gradual.Proofs.Writability
import Gradual.Proofs.Assignability
import Gradual.Proofs.Lines
import Gradual.Proofs.PrintedTypes
import Gradual.Proofs.Caret
import Gradual.Proofs.Aliases
import Gradual.Proofs.Expr.Charges
import Gradual.Proofs.Charges
import Gradual.Proofs.Visibility
import Gradual.Proofs.Text.Quoted
import Gradual.Proofs.Wording
