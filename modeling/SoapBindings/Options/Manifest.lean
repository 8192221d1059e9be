import SoapBindings.Options.Basic
import SoapBindings.Options.Fault
import SoapBindings.Toml.Reader

/-!
# Manifests

A manifest is a layer of options in a TOML file. Every key has to be an option and every value of
the kind that the option takes; otherwise the manifest gives nothing.
-/

set_option autoImplicit false

namespace SoapBindings

open Toml (Value Members)

/-! ## Values -/

namespace Toml.Value

def text? : Value → Option String
  | text content => some content
  | _ => none

def boolean? : Value → Option Bool
  | boolean value => some value
  | _ => none

def texts? : Value → Option (List String)
  | array items => items.mapM text?
  | _ => none

/-- The members of a table of texts. -/
def textMembers? : Value → Option (List (String × String))
  | table _ members => members.mapM fun (key, value) => value.text?.map (key, ·)
  | _ => none

/-- The value holds nothing. -/
def isEmptyCollection : Value → Bool
  | array items => items.isEmpty
  | table _ members => members.isEmpty
  | _ => false

/-- The label of a choice: a text, or the only key of a table that has nothing below it. -/
def label? : Value → Option String
  | text content => some content
  | table _ [(key, value)] => if value.isEmptyCollection then some key else none
  | _ => none

end Toml.Value

namespace Manifest

/-- Sets the option that a key names. -/
def set (o : Options) (key : String) (value : Value) : Option Options :=
  match key with
  | "wsdl" => value.text?.map fun v => { o with document := some v }
  | "output" => value.text?.map fun v => { o with outputs.output := some v }
  | "impl" => value.text?.map fun v => { o with outputs.header := some v }
  | "both" => value.text?.map fun v => { o with outputs.both := some v }
  | "server" => value.boolean?.map fun v => { o with server := some v }
  | "service" => value.text?.map fun v => { o with service := some v }
  | "namespace-mapping" =>
    value.textMembers?.map fun pairs => { o with codes := Std.ExtTreeMap.ofList pairs }
  | "optional-element-type" =>
    (value.label?.bind Cpp.OptionalStyle.ofLabel?).map fun v => { o with style := some v }
  | "keep-unused-types" => value.boolean?.map fun v => { o with keepUnused := some v }
  | "import-paths" => value.texts?.map fun v => { o with copies := v }
  | "use-local-files-only" => value.boolean?.map fun v => { o with localOnly := some v }
  | "help-on-missing" => value.boolean?.map fun v => { o with helpOnMissing := some v }
  | "no-sync" => value.boolean?.map fun v => { o with noSync := some v }
  | "no-async" => value.boolean?.map fun v => { o with noAsync := some v }
  | "no-async-jobs" => value.boolean?.map fun v => { o with noJobs := some v }
  | "namespace" => value.text?.map fun v => { o with ns := some v }
  | "export-macro" => value.text?.map fun v => { o with exportMacro := some v }
  | "emit-json" => value.text?.map fun v => { o with description := some v }
  | _ => none

/-- The options in a text. -/
def options? (text : String) : Option Options := do
  let members ← Toml.read? text
  members.foldlM (fun o (key, value) => set o key value) {}

def read (w : Files.Workspace) (path : String) : Except OptionsFault Options :=
  match w.readText path with
  | .error fault => .error (.unreadable path fault)
  | .ok text =>
    match options? text with
    | some o => .ok o
    | none => .error (.malformedManifest path)

end Manifest

end SoapBindings
