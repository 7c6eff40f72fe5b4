import SchemaDdl.Main
import SchemaDdl.Workspace
import SchemaDdl.Proofs.Column.Arrangement
import SchemaDdl.Proofs.Resolver.Growth
import SchemaDdl.Proofs.Request.Rendering
import SchemaDdl.Proofs.Workspace.Growth
import SchemaDdl.Proofs.Model.Declared
import SchemaDdl.Proofs.Resolver.Settled
import SchemaDdl.Proofs.Workspace.Caching
import SchemaDdl.Proofs.Workspace.Naming
import SchemaDdl.Proofs.Resolver.Lasting
import SchemaDdl.Proofs.Request.Plan
import SchemaDdl.Proofs.Builder.Repetition
import SchemaDdl.Proofs.FieldType.Reading
import SchemaDdl.Proofs.Column.Extraction
import SchemaDdl.Proofs.Builder.Outcome
import SchemaDdl.Proofs.Request.Turns
import SchemaDdl.Proofs.Workspace.References
import SchemaDdl.Proofs.SchemaFile.Models
import SchemaDdl.Proofs.SchemaFile.Blocks
import SchemaDdl.Proofs.SchemaFile.Order
import SchemaDdl.Proofs.Builder.Description
import SchemaDdl.Proofs.SchemaFile.Application
import SchemaDdl.Proofs.Workspace.Definitions
import SchemaDdl.Proofs.Resolver.Erasure
import SchemaDdl.Proofs.Request.Interchange
import SchemaDdl.Proofs.FieldType.Spelling
import SchemaDdl.Proofs.Column.Position
import SchemaDdl.Proofs.FieldType.Prefix
import SchemaDdl.Proofs.CommandLine.Effects
import SchemaDdl.Proofs.FieldType.Declarations
import SchemaDdl.Proofs.Builder.Dialects
import SchemaDdl.Proofs.Column.Naming
import SchemaDdl.Proofs.Model.Calls
import SchemaDdl.Proofs.SchemaFile.Fields
import SchemaDdl.Proofs.Statement.Literals
import SchemaDdl.Proofs.Statement.Wording
import SchemaDdl.Proofs.Statement.Shares
import SchemaDdl.Proofs.Builder.ObjectNames
import SchemaDdl.Proofs.Request.Faces
import SchemaDdl.Proofs.SchemaFile.Faces
import SchemaDdl.Proofs.SchemaFile.Blanks
import SchemaDdl.Proofs.SchemaFile.Enumerations
import SchemaDdl.Proofs.Column.Rearrangement
import SchemaDdl.Proofs.Resolver.Verbatim
import SchemaDdl.Proofs.Statement.Guard
import SchemaDdl.Proofs.Statement.Sequences
