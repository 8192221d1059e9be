import SoapBindings.Options.Manifest
import SoapBindings.Options.Mapping
import SoapBindings.Settings

/-!
# Command line

Arguments are read from left to right. One that starts with two dashes is an option by its long
name, one that starts with a single dash a row of options by their short names, and `--` makes all
that follow plain. An option that takes a value takes it from the same argument, after `=` or after
its short name, or it takes the next plain argument; the first other plain argument is the
document.

The value of an option is only looked at when the next option or the document comes, or at the end.
This decides which of two mistakes is told: an unknown argument right after a bad value goes first.
-/

set_option autoImplicit false

namespace SoapBindings

/-- What is wrong with a command line, or that it asks for help. -/
inductive UsageFault where
  | help
  | unknownArgument (text : String)
  /-- An option that may be given once is given again. -/
  | repeated
  /-- A value is missing or not among those that are possible. -/
  | invalidValue
  /-- A value is not of the right form. -/
  | malformedValue
  /-- An option that takes no value is given one. -/
  | unwantedValue
  deriving DecidableEq, Repr, Inhabited

/-- The places of a command line that can be filled. -/
inductive Slot where
  | document
  | output
  | header
  | both
  | server
  | service
  | mapping
  | style
  | keepUnused
  | copies
  | localOnly
  | helpOnMissing
  | noSync
  | noAsync
  | noJobs
  | ns
  | exportMacro
  | manifest
  | description
  | verbose
  | help
  deriving DecidableEq, Repr, Inhabited

namespace Slot

/-- The slots that have a long name. -/
def longNames : List (String × Slot) := [
  ("output", output), ("impl", header), ("both", both), ("server", server), ("service", service),
  ("namespace-mapping", mapping), ("optional-element-type", style),
  ("keep-unused-types", keepUnused), ("import-path", copies),
  ("use-local-files-only", localOnly), ("help-on-missing", helpOnMissing), ("no-sync", noSync),
  ("no-async", noAsync), ("no-async-jobs", noJobs), ("namespace", ns),
  ("export-macro", exportMacro), ("manifest", manifest), ("emit-json", description),
  ("verbose", verbose), ("help", help)]

def shortNames : List (Char × Slot) :=
  [('o', output), ('s', service), ('v', verbose), ('h', help)]

def takesValue : Slot → Bool
  | document | output | header | both | service | mapping | style | copies | ns | exportMacro
  | manifest | description => true
  | server | keepUnused | localOnly | helpOnMissing | noSync | noAsync | noJobs | verbose
  | help => false

/-- The slot may be filled again. -/
def repeats : Slot → Bool
  | mapping | copies | verbose => true
  | _ => false

end Slot

/-- What a command line says. -/
structure Arguments where
  /-- The options but for the codes of namespaces. -/
  options : Options := {}
  mappings : List MappingArgument := []
  manifest : Option String := none
  verbosity : Nat := 0

namespace Arguments

/-- The value of a slot that takes a path. -/
def path (value : String) : Except UsageFault String :=
  if value.isEmpty then .error .invalidValue else .ok value

/-- How often the wish for more messages counts. -/
def greatestVerbosity : Nat := 255

/-- Fills a slot. The value of a slot that takes none is not looked at. -/
def fill (a : Arguments) (slot : Slot) (value : String) : Except UsageFault Arguments :=
  match slot with
  | .document => .ok { a with options.document := some value }
  | .output => (path value).map fun v => { a with options.outputs.output := some v }
  | .header => .ok { a with options.outputs.header := some value }
  | .both => (path value).map fun v => { a with options.outputs.both := some v }
  | .server => .ok { a with options.server := some true }
  | .service => .ok { a with options.service := some value }
  | .mapping =>
    match MappingArgument.read value with
    | .ok mapping => .ok { a with mappings := a.mappings ++ [mapping] }
    | .error _ => .error .malformedValue
  | .style =>
    match Cpp.OptionalStyle.ofLabel? value with
    | some style => .ok { a with options.style := some style }
    | none => .error .invalidValue
  | .keepUnused => .ok { a with options.keepUnused := some true }
  | .copies => (path value).map fun v => { a with options.copies := a.options.copies ++ [v] }
  | .localOnly => .ok { a with options.localOnly := some true }
  | .helpOnMissing => .ok { a with options.helpOnMissing := some true }
  | .noSync => .ok { a with options.noSync := some true }
  | .noAsync => .ok { a with options.noAsync := some true }
  | .noJobs => .ok { a with options.noJobs := some true }
  | .ns => .ok { a with options.ns := some value }
  | .exportMacro => .ok { a with options.exportMacro := some value }
  | .manifest => (path value).map fun v => { a with manifest := some v }
  | .description => (path value).map fun v => { a with options.description := some v }
  | .verbose => .ok { a with verbosity := min (a.verbosity + 1) greatestVerbosity }
  | .help => .error .help

/-- A command line under way. -/
structure Reading where
  filled : Arguments := {}
  /-- The slots that are filled. -/
  slots : List Slot := []
  /-- A slot whose value has not come yet, or has not been looked at. -/
  pending : Option (Slot × Option String) := none
  /-- A plain argument was taken as the document. -/
  hasDocument : Bool := false

namespace Reading

/-- Fills a slot that may be filled. -/
def put (r : Reading) (slot : Slot) (value : String) : Except UsageFault Reading :=
  if r.slots.contains slot && !slot.repeats then .error .repeated
  else (r.filled.fill slot value).map fun a => { r with filled := a, slots := slot :: r.slots }

/-- Looks at the pending value. -/
def settle (r : Reading) : Except UsageFault Reading :=
  match r.pending with
  | none => .ok r
  | some (_, none) => .error .invalidValue
  | some (slot, some value) => { r with pending := none }.put slot value

/-- An option with or without a value of its own. -/
def option (r : Reading) (slot : Slot) (value : Option String) : Except UsageFault Reading :=
  if slot.takesValue then
    match value with
    | some value => r.settle.bind (·.put slot value)
    | none => r.settle.map fun r => { r with pending := some (slot, none) }
  else
    match value with
    | some _ => .error .unwantedValue
    | none => r.settle.bind (·.put slot "")

/-- An argument after two dashes. -/
def long (r : Reading) (argument : List Char) : Except UsageFault Reading :=
  let (name, value) := match Text.splitFirst '=' argument with
    | some (name, value) => (name, some (String.ofList value))
    | none => (argument, none)
  match Slot.longNames.lookup (String.ofList name) with
  | some slot => r.option slot value
  | none => .error (.unknownArgument ("--" ++ String.ofList name))

/-- What stands behind a short name in the same argument, as the value of the option. -/
def attached : List Char → Option String
  | [] => none
  | '=' :: value => some (String.ofList value)
  | value => some (String.ofList value)

/-- An argument after a single dash. -/
def short (r : Reading) : List Char → Except UsageFault Reading
  | [] => .ok r
  | c :: rest =>
    match Slot.shortNames.lookup c with
    | none => .error (.unknownArgument ("-" ++ String.ofList [c]))
    | some slot =>
      if slot.takesValue then r.option slot (attached rest)
      else
        match r.option slot none with
        | .error fault => .error fault
        | .ok r => r.short rest

/-- An argument that is no option. -/
def plain (r : Reading) (argument : String) : Except UsageFault Reading :=
  if r.hasDocument then .error (.unknownArgument argument)
  else r.settle.map fun r =>
    { r with pending := some (.document, some argument), hasDocument := true }

/-- The arguments after `--`. -/
def plains (r : Reading) (arguments : List String) : Except UsageFault Reading :=
  arguments.foldlM plain r

def all (r : Reading) : List String → Except UsageFault Reading
  | [] => .ok r
  | argument :: rest =>
    match argument.toList with
    | ['-', '-'] => r.plains rest
    | '-' :: '-' :: name => (r.long name).bind (·.all rest)
    | '-' :: c :: names => (r.short (c :: names)).bind (·.all rest)
    | _ =>
      match r.pending with
      | some (slot, none) => { r with pending := some (slot, some argument) }.all rest
      | _ => (r.plain argument).bind (·.all rest)

end Reading

/-- Reads a command line. -/
def read (arguments : List String) : Except UsageFault Arguments :=
  (Reading.all {} arguments).bind fun r => r.settle.map (·.filled)

/-- The settings of a command line, laid over those of its manifest. -/
def settings (a : Arguments) (w : Files.Workspace) : Except OptionsFault Settings := do
  let manifest ← match a.manifest with
    | some path => Manifest.read w path
    | none => pure {}
  let codes ← MappingArgument.collect w a.mappings
  Settings.ofOptions w (manifest.overlay { a.options with codes := codes })

end Arguments

end SoapBindings
