import SoapBindings.Cpp.Value
import SoapBindings.NamespaceCodes

/-!
# Options

Options come in layers: a manifest below, the command line above it. A layer says nothing about
most options, and what it says goes over what the layers below say. Layers can be laid over each
other in any grouping; the empty layer changes nothing.

Three kinds of options are not single values. The outputs belong together, so a layer that names
one of them replaces all of them. Codes for namespaces are joined, and so are the directories with
copies of documents, where those of the upper layer are looked at first.
-/

set_option autoImplicit false

namespace SoapBindings

/-- The options that tell which files to write. -/
structure OutputOptions where
  output : Option String := none
  /-- The header that the implementation includes. -/
  header : Option String := none
  /-- What the names of header and implementation start with. -/
  both : Option String := none
  deriving DecidableEq, Repr, Inhabited

namespace OutputOptions

/-- One of the outputs is named. -/
def isGiven (o : OutputOptions) : Bool := o.output.isSome || o.header.isSome || o.both.isSome

end OutputOptions

structure Options where
  document : Option String := none
  outputs : OutputOptions := {}
  server : Option Bool := none
  service : Option String := none
  codes : NamespaceCodes.Wishes := ∅
  style : Option Cpp.OptionalStyle := none
  keepUnused : Option Bool := none
  copies : List String := []
  localOnly : Option Bool := none
  helpOnMissing : Option Bool := none
  noSync : Option Bool := none
  noAsync : Option Bool := none
  noJobs : Option Bool := none
  ns : Option String := none
  exportMacro : Option String := none
  /-- The file for a description of the classes. -/
  description : Option String := none

namespace Options

/-- Lays `top` over `base`. -/
def overlay (base top : Options) : Options where
  document := top.document.or base.document
  outputs := if top.outputs.isGiven then top.outputs else base.outputs
  server := top.server.or base.server
  service := top.service.or base.service
  codes := base.codes ∪ top.codes
  style := top.style.or base.style
  keepUnused := top.keepUnused.or base.keepUnused
  copies := top.copies ++ base.copies
  localOnly := top.localOnly.or base.localOnly
  helpOnMissing := top.helpOnMissing.or base.helpOnMissing
  noSync := top.noSync.or base.noSync
  noAsync := top.noAsync.or base.noAsync
  noJobs := top.noJobs.or base.noJobs
  ns := top.ns.or base.ns
  exportMacro := top.exportMacro.or base.exportMacro
  description := top.description.or base.description

end Options

end SoapBindings
