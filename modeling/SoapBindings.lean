import SoapBindings.Download
import SoapBindings.FetchScript
import SoapBindings.Main
import SoapBindings.Proofs.Compilation
import SoapBindings.Proofs.ContentModel.Flattening
import SoapBindings.Proofs.Cpp.Alignment
import SoapBindings.Proofs.Cpp.Capture
import SoapBindings.Proofs.Cpp.Casing
import SoapBindings.Proofs.Cpp.Comments
import SoapBindings.Proofs.Cpp.Dispatch
import SoapBindings.Proofs.Cpp.Fields
import SoapBindings.Proofs.Cpp.Literals
import SoapBindings.Proofs.Cpp.Optionals
import SoapBindings.Proofs.Cpp.Overwriting
import SoapBindings.Proofs.Cpp.ReadingBack
import SoapBindings.Proofs.Cpp.Scopes
import SoapBindings.Proofs.Document.Spacing
import SoapBindings.Proofs.FetchScript
import SoapBindings.Proofs.Files.Copies
import SoapBindings.Proofs.Graph.Hoisting
import SoapBindings.Proofs.Graph.Inheritance
import SoapBindings.Proofs.Graph.Missing
import SoapBindings.Proofs.Interface.Bounds
import SoapBindings.Proofs.Interface.Closure
import SoapBindings.Proofs.Interface.Conflicts
import SoapBindings.Proofs.Interface.DocumentOrder
import SoapBindings.Proofs.Interface.Keeping
import SoapBindings.Proofs.Interface.Namespaces
import SoapBindings.Proofs.Interface.Operations
import SoapBindings.Proofs.Interface.Ordering
import SoapBindings.Proofs.Interface.Repetition
import SoapBindings.Proofs.Loading.BreadthFirst
import SoapBindings.Proofs.Loading.Inclusion
import SoapBindings.Proofs.Loading.Requests
import SoapBindings.Proofs.Options.Layers
import SoapBindings.Proofs.Options.Mapping
import SoapBindings.Proofs.Ordering.Canonical
import SoapBindings.Proofs.Ordering.Frame
import SoapBindings.Proofs.Outcome
import SoapBindings.Proofs.Services.Ports
import SoapBindings.Proofs.Xml.Escaping
