import SoapBindings.Cpp.Layout
import SoapBindings.Cpp.ServiceClasses
import SoapBindings.Interface
import SoapBindings.Options.Basic
import SoapBindings.Options.Fault
import SoapBindings.Store

/-!
# Settings

The decided options of one compilation: where it starts, which files it writes, and what is
generated. Settings cannot contradict themselves; options can, and those that do have no settings.
-/

set_option autoImplicit false

namespace SoapBindings

/-- The files to write. -/
inductive Outputs where
  | header (path : String)
  /-- `included` is how the implementation names the header. -/
  | implementation (path included : String)
  /-- The two paths are `base` with an ending. -/
  | both (base : String)
  deriving DecidableEq, Repr, Inhabited

namespace Outputs

def ofOptions : OutputOptions → Except OptionsFault Outputs
  | ⟨some path, some included, none⟩ => .ok (.implementation path included)
  | ⟨some path, none, none⟩ => .ok (.header path)
  | ⟨none, none, some base⟩ => .ok (.both base)
  | ⟨none, some _, none⟩ => .error .implementationWithoutOutput
  | ⟨none, none, none⟩ => .error .noOutput
  | ⟨_, _, some _⟩ => .error .bothWithOutput

private def lastName (path : String) : String := (Files.fileName? path).getD ""

/-- How the implementation names the header. -/
def headerName : Outputs → String
  | header path => lastName path
  | implementation _ included => included
  | both base => lastName base ++ ".h"

def headerFile? : Outputs → Option String
  | header path => some path
  | implementation _ _ => none
  | both base => some (base ++ ".h")

def implementationFile? : Outputs → Option String
  | header _ => none
  | implementation path _ => some path
  | both base => some (base ++ ".cpp")

end Outputs

structure Settings where
  start : Locator
  outputs : Outputs
  server : Bool
  service : Option String
  codes : NamespaceCodes.Wishes
  style : Cpp.OptionalStyle
  keepUnused : Bool
  copies : List String
  localOnly : Bool
  helpOnMissing : Bool
  noSync : Bool
  noAsync : Bool
  noJobs : Bool
  ns : Option String
  exportMacro : Option String
  description : Option String

namespace Settings

/-- Decides options. A missing document is told before a document that cannot be located, and that
before anything about outputs. -/
def ofOptions (w : Files.Workspace) (o : Options) : Except OptionsFault Settings := do
  let some document := o.document | throw .noDocument
  let start ← (Locator.parse w document).mapError .invalidLocation
  let outputs ← Outputs.ofOptions o.outputs
  return {
    start, outputs
    server := o.server.getD false
    service := o.service
    codes := o.codes
    style := o.style.getD .stdOptional
    keepUnused := o.keepUnused.getD false
    copies := o.copies
    localOnly := o.localOnly.getD false
    helpOnMissing := o.helpOnMissing.getD false
    noSync := o.noSync.getD false
    noAsync := o.noAsync.getD false
    noJobs := o.noJobs.getD false
    ns := o.ns
    exportMacro := o.exportMacro
    description := o.description }

def policy (s : Settings) : StorePolicy := ⟨s.copies, s.localOnly⟩

def choices (s : Settings) : Interface.Choices := ⟨s.service, s.codes, s.helpOnMissing⟩

def forms (s : Settings) : Cpp.ServiceForms := ⟨s.server, !s.noSync, !s.noAsync, !s.noJobs⟩

def layout (s : Settings) : Cpp.Layout := ⟨s.style, s.ns, s.exportMacro, s.outputs.headerName⟩

end Settings

end SoapBindings
