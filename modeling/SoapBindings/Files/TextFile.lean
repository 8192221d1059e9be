import SoapBindings.Files.Tree
import SoapBindings.Text.Utf8

/-!
# Text files

Manifests and mapping files hold text, so a file that is there may still be refused for its content.
-/

set_option autoImplicit false

namespace SoapBindings.Files

/-- Why a file gives no text. -/
inductive TextFault where
  | refused (refusal : Refusal)
  | notUtf8
  deriving DecidableEq, Repr, Inhabited

def TextFault.message : TextFault → String
  | refused refusal => refusal.message
  | notUtf8 => "stream did not contain valid UTF-8"

/-- The text in a file. -/
def Workspace.readText (w : Workspace) (path : String) : Except TextFault String :=
  match w.read path with
  | .error refusal => .error (.refused refusal)
  | .ok content =>
    match Text.Utf8.decode? content with
    | some text => .ok text
    | none => .error .notUtf8

end SoapBindings.Files
