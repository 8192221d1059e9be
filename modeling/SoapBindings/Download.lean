/-!
# Downloads

How remote documents are asked for. The settings are those of a client that is made before the first
document is needed; whether it can be made depends on the texts that become header fields.
-/

set_option autoImplicit false

namespace SoapBindings

/-- Times are in milliseconds; what is absent is not limited. -/
structure DownloadSettings where
  timeout : Option Nat := some 60000
  /-- For the connection alone. -/
  connectTimeout : Option Nat := some 10000
  userAgent : Option String := some "wsdl2cpp/0.1.0"
  acceptsInvalidCertificates : Bool := false
  maxRedirects : Option Nat := some 10
  /-- Fields that every request has. -/
  headers : List (String × String) := []
  /-- The connection is encrypted without help of the system. -/
  bundledTls : Bool := true
  deriving DecidableEq, Repr, Inhabited

namespace DownloadSettings

/-- Tabs are the only controls that a header field may hold. -/
def isHeaderValue (text : String) : Bool :=
  text.toList.all fun c => c == '\t' || (' ' ≤ c && c != '\x7f')

/-- A client with these settings can be made. -/
def isUsable (s : DownloadSettings) : Bool :=
  s.userAgent.all isHeaderValue && s.headers.all fun (_, value) => isHeaderValue value

end DownloadSettings

end SoapBindings
