import SoapBindings.Url.Host

/-!
# Addresses

An absolute address: a scheme, an authority, a path and a query. The fragment of a reference names
a place in a document and not a document, so it is read and forgotten.

A path is a list of segments, each of which a slash precedes; the special schemes have one segment
at least. An address without authority whose path does not begin with a slash is *rootless*
(`urn:a:b`): its path is one text, and nothing can be joined to it.
-/

set_option autoImplicit false

namespace SoapBindings.Url

inductive Path where
  | rootless (text : String)
  | segments (parts : List String)
  deriving DecidableEq, Repr, Inhabited

structure Authority where
  /-- Name and password as written before the `@`, encoded; empty if there is neither. -/
  userinfo : String
  host : Host
  /-- Only a port that is not the usual one of the scheme. -/
  port : Option Nat
  deriving DecidableEq, Repr, Inhabited

structure Address where
  scheme : String
  authority : Option Authority
  path : Path
  query : Option String
  deriving DecidableEq, Repr, Inhabited

/-- How addresses of a scheme are read. -/
inductive SchemeKind where
  | file
  | special
  | general
  deriving DecidableEq, Repr

/-- The special schemes with their usual ports. -/
def usualPort? (scheme : String) : Option Nat :=
  [("http", 80), ("ws", 80), ("https", 443), ("wss", 443), ("ftp", 21)].lookup scheme

def SchemeKind.of (scheme : String) : SchemeKind :=
  if scheme == "file" then .file
  else if (usualPort? scheme).isSome then .special
  else .general

/-- A backslash is read as a slash. -/
def SchemeKind.hasBackslash (k : SchemeKind) : Bool := k != .general

namespace Authority

def toText (a : Authority) : String :=
  (if a.userinfo.isEmpty then "" else a.userinfo ++ "@") ++ a.host.toText ++
    (match a.port with
      | some port => ":" ++ toString port
      | none => "")

end Authority

namespace Address

def pathText (a : Address) : String :=
  match a.path with
  | .rootless text => text
  | .segments parts => String.join (parts.map ("/" ++ ·))

/-- The dot that keeps an empty first segment from reading as an authority. -/
private def rootDot (a : Address) : String :=
  match a.authority, a.path with
  | none, .segments ("" :: _ :: _) => "/."
  | _, _ => ""

def toText (a : Address) : String :=
  a.scheme ++ ":" ++
    (match a.authority with
      | some authority => "//" ++ authority.toText
      | none => "") ++
    a.rootDot ++ a.pathText ++
    (match a.query with
      | some query => "?" ++ query
      | none => "")

/-- The segments of the path, unless there is none. -/
def segments? (a : Address) : Option (List String) :=
  match a.path with
  | .segments (s :: rest) => some (s :: rest)
  | _ => none

/-- The host, if there is one. -/
def host? (a : Address) : Option Host :=
  (a.authority.map (·.host)).filter (!·.isEmpty)

end Address

end SoapBindings.Url
