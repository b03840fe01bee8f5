import GraphImport.Main
import GraphImport.Proofs.CommandLine.Load
import GraphImport.Proofs.Compile.Bindings
import GraphImport.Proofs.Compile.Counterparts
import GraphImport.Proofs.Compile.Independence
import GraphImport.Proofs.Compile.Nulls
import GraphImport.Proofs.Compile.WrittenOrder
import GraphImport.Proofs.Document.Endpoints
import GraphImport.Proofs.Document.NormalForm
import GraphImport.Proofs.Property.KeySelection
import GraphImport.Proofs.Scope.Registry
import GraphImport.Proofs.Script.ControlCharacters
import GraphImport.Proofs.Script.Lines
import GraphImport.Proofs.Script.Modes
import GraphImport.Proofs.Script.NullItems
import GraphImport.Proofs.Script.Structure
import GraphImport.Proofs.Script.Unambiguous
