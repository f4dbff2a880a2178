import SchemaStructs.Main
import SchemaStructs.Proofs.Generator.Declaration
import SchemaStructs.Proofs.Schema.Forest
import SchemaStructs.Proofs.Schema.Unfolding
import SchemaStructs.Proofs.Walk.Complete
import SchemaStructs.Proofs.Walk.Conflict
import SchemaStructs.Proofs.Walk.Cycle
import SchemaStructs.Proofs.Generator.Clean
import SchemaStructs.Proofs.Walk.Reference
import SchemaStructs.Proofs.Naming.Skeleton
import SchemaStructs.Proofs.Walk.Containment
import SchemaStructs.Proofs.Walk.TypeNames
import SchemaStructs.Proofs.Generator.Package
import SchemaStructs.Proofs.Generator.Printer
import SchemaStructs.Proofs.Naming.Capital
import SchemaStructs.Proofs.Generator.Fields
import SchemaStructs.Proofs.Schema.Copy
import SchemaStructs.Proofs.Walk.Copy
import SchemaStructs.Proofs.Generator.Formatted
import SchemaStructs.Proofs.Schema.Canonical
import SchemaStructs.Proofs.Walk.Strategy
import SchemaStructs.Proofs.Generator.Contained
import SchemaStructs.Proofs.Loading.Refusal
import SchemaStructs.Proofs.Naming.Initialism
import SchemaStructs.Proofs.Generator.Scalar
import SchemaStructs.Proofs.Generator.Balanced
import SchemaStructs.Proofs.Cli.Sources
import SchemaStructs.Proofs.Settings.Saved
import SchemaStructs.Proofs.Source.Lexeme
import SchemaStructs.Proofs.Source.Bodies
import SchemaStructs.Proofs.Generator.Rendering
import SchemaStructs.Proofs.Schema.Grammar
import SchemaStructs.Proofs.Naming.Exported
import SchemaStructs.Proofs.Naming.Recased
import SchemaStructs.Proofs.Source.Mention
import SchemaStructs.Proofs.Walk.Roots
import SchemaStructs.Proofs.Schema.Search
import SchemaStructs.Proofs.Generator.Order
import SchemaStructs.Proofs.Schema.Count
import SchemaStructs.Proofs.Template.Congruence
import SchemaStructs.Proofs.Generator.Likeness
