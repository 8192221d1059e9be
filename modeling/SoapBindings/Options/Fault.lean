import SoapBindings.Files.TextFile
import SoapBindings.Locator

/-!
# Faults of options

What can be wrong with the options of a compilation before a document is looked at: a file that
gives none, a namespace mapping that is no mapping, or options that do not say what to generate.
-/

set_option autoImplicit false

namespace SoapBindings

inductive OptionsFault where
  | unreadable (path : String) (fault : Files.TextFault)
  /-- The manifest is not TOML or holds something else than options. -/
  | malformedManifest (path : String)
  /-- A line of a mapping file; lines are counted from one. -/
  | malformedLine (path : String) (line : Nat) (text : String)
  | malformedMapping (text : String)
  | noDocument
  | noOutput
  | bothWithOutput
  | implementationWithoutOutput
  | invalidLocation (error : Locator.Error)
  deriving DecidableEq, Repr

namespace OptionsFault

def message : OptionsFault → String
  | unreadable path fault => "cannot read " ++ path ++ ": " ++ fault.message
  | malformedManifest path => "manifest file format error: " ++ path
  | malformedLine path line text =>
    path ++ ":" ++ toString line ++ ": expected `uri=code` namespace mapping, got " ++
      Text.quoted text
  | malformedMapping text =>
    "invalid namespace mapping " ++ Text.quoted text ++ ": expected `uri=code` or `@file`"
  | noDocument => "WSDL document is not specified"
  | noOutput => "output file is not specified"
  | bothWithOutput => "--both cannot be combined with --output or --impl"
  | implementationWithoutOutput => "--impl requires --output"
  | invalidLocation error => error.message

/-- What a fault comes from, outermost first. -/
def causes : OptionsFault → List String
  | unreadable _ fault => [fault.message]
  | invalidLocation error => error.message :: error.causes
  | _ => []

end OptionsFault

end SoapBindings
