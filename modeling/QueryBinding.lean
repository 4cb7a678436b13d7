import QueryBinding.Binder
import QueryBinding.Log.Exception
import QueryBinding.Log.Message
import QueryBinding.Proofs.Binder.Precedence
import QueryBinding.Proofs.Template.Lossless
import QueryBinding.Proofs.Workspace.Process
import QueryBinding.Release
import QueryBinding.Value.Reader
import QueryBinding.Workspace.Logging
import QueryBinding.Workspace.Sources
import QueryBinding.Proofs.Lexeme.Joining
import QueryBinding.Proofs.Literal.Decomposition
import QueryBinding.Proofs.Template.Colons
import QueryBinding.Proofs.Template.Embedding
import QueryBinding.Proofs.Cache.Recency
import QueryBinding.Proofs.Workspace.Strictness
import QueryBinding.Proofs.Literal.Joining
import QueryBinding.Proofs.Literal.Runs
import QueryBinding.Proofs.Cache.Capacity
import QueryBinding.Proofs.Template.Joining
import QueryBinding.Proofs.Template.NormalForm
import QueryBinding.Proofs.Workspace.Lifetime
import QueryBinding.Proofs.Cache.Accounting
import QueryBinding.Proofs.Template.Names
import QueryBinding.Proofs.Binder.Consistency
import QueryBinding.Proofs.Binder.Progress
import QueryBinding.Proofs.Binder.Renaming
import QueryBinding.Proofs.Binder.Advance
import QueryBinding.Proofs.Binder.Bulk
import QueryBinding.Proofs.Config.Environment
import QueryBinding.Proofs.Workspace.Loading
import QueryBinding.Proofs.Workspace.Resources
import QueryBinding.Proofs.Workspace.TextFiles
import QueryBinding.Proofs.Log.Message
import QueryBinding.Proofs.Log.Record
import QueryBinding.Proofs.Text.Quoted
import QueryBinding.Proofs.Template.Shown
import QueryBinding.Proofs.Workspace.Logging
import QueryBinding.Proofs.Workspace.Namespace
