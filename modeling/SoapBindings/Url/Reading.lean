import SoapBindings.Url.Address
import SoapBindings.Text.Digits
import SoapBindings.Text.Blank
import SoapBindings.Text.Split

/-!
# Reading addresses

`Address.read` reads an address, or a reference that it completes from a base address. Controls and
spaces around the text do not count, and neither do tabs and line breaks anywhere in it.

The parts of a reference are taken off the front in order. Dot segments are resolved as segments
are added (`addSegments`), so a path that was read holds none; a path that was made from a file
name may. A drive letter (`C:`) at the front of a `file` path is never taken off again.
-/

set_option autoImplicit false

namespace SoapBindings.Url

open Text

/-! ## Paths -/

/-- A letter followed by a colon or a bar. -/
def isDriveLetter : List Char → Bool
  | [letter, mark] => isAsciiAlpha letter && (mark == ':' || mark == '|')
  | _ => false

private def lowered (segment : List Char) : List Char := segment.map asciiLower

/-- A segment that stands for its own directory. -/
def isSingleDot (segment : List Char) : Bool :=
  [['.'], ['%', '2', 'e']].contains (lowered segment)

/-- A segment that stands for the directory above. -/
def isDoubleDot (segment : List Char) : Bool :=
  [['.', '.'], ['.', '%', '2', 'e'], ['%', '2', 'e', '.'], ['%', '2', 'e', '%', '2', 'e']].contains
    (lowered segment)

/-- Takes the last segment off a path whose segments come last first. -/
def dropSegment : List String → List String
  | [] => []
  | last :: front => if isDriveLetter last.toList then last :: front else front

/-- The segment as it stands in a path; a drive letter at the front of a `file` path has a colon. -/
def encodeSegment (kind : SchemeKind) (isFirst : Bool) (segment : List Char) : String :=
  if kind == .file && isFirst && isDriveLetter segment then
    String.ofList (segment.take 1 ++ [':'])
  else String.ofList (percentEncode pathSet segment)

/-- Adds segments to a path whose segments come last first. A dot segment at the end leaves an empty
segment behind, as it names a directory. -/
def addSegments (kind : SchemeKind) : List String → List (List Char) → List String
  | path, [] => path
  | path, [last] =>
    if isDoubleDot last then "" :: dropSegment path
    else if isSingleDot last then "" :: path
    else encodeSegment kind path.isEmpty last :: path
  | path, segment :: next :: rest =>
    if isDoubleDot segment then addSegments kind (dropSegment path) (next :: rest)
    else if isSingleDot segment then addSegments kind path (next :: rest)
    else addSegments kind (encodeSegment kind path.isEmpty segment :: path) (next :: rest)

def isSlash (kind : SchemeKind) (c : Char) : Bool :=
  c == '/' || (kind.hasBackslash && c == '\\')

/-- Something may stand right behind a drive letter; it is a segment of its own. -/
def splitDrive (kind : SchemeKind) (segments : List (List Char)) : List (List Char) :=
  match kind, segments with
  | .file, (letter :: ':' :: c :: more) :: rest =>
    if isAsciiAlpha letter then [letter, ':'] :: (c :: more) :: rest else segments
  | _, _ => segments

/-- In a `file` path nothing stands before the first segment with a name. -/
def withoutLeadingSlashes (kind : SchemeKind) (path : List String) : List String :=
  if kind == .file then
    match path.dropWhile String.isEmpty with
    | [] => [""]
    | named => named
  else path

/-- Reads the text of a path behind its first slash; `base` holds the segments it is added to. -/
def readPath (kind : SchemeKind) (base : List String) (cs : List Char) : Path :=
  let raw := splitWhere (isSlash kind) cs
  let segments := if base.isEmpty then splitDrive kind raw else raw
  .segments (withoutLeadingSlashes kind (addSegments kind base.reverse segments).reverse)

/-! ## Query -/

private def endsPath (c : Char) : Bool := c == '?' || c == '#'

/-- The query of what follows a path. -/
private def readQuery (kind : SchemeKind) : List Char → Option String
  | '?' :: cs =>
    let encodeSet := if kind == .general then querySet else specialQuerySet
    some (String.ofList (percentEncode encodeSet (cs.takeWhile (· != '#'))))
  | _ => none

/-! ## Authority -/

private def endsAuthority (kind : SchemeKind) (c : Char) : Bool :=
  isSlash kind c || endsPath c

/-- Name and password. A colon is kept only before a password. -/
private def readUserinfo (cs : List Char) : String :=
  let encode := percentEncode userinfoSet
  match splitFirst ':' cs with
  | none => String.ofList (encode cs)
  | some (name, []) => String.ofList (encode name)
  | some (name, password) => String.ofList (encode name ++ ':' :: encode password)

/-- The name of a host up to the colon before its port; a colon in brackets belongs to the name. -/
private def splitHost : Bool → List Char → List Char × List Char
  | _, [] => ([], [])
  | bracketed, c :: cs =>
    if c == ':' && !bracketed then ([], c :: cs)
    else
      let inside := if c == '[' then true else if c == ']' then false else bracketed
      let (host, rest) := splitHost inside cs
      (c :: host, rest)

/-- The port behind a host; it counts only if it is not the usual one. -/
private def readPort (scheme : String) : List Char → Except Error (Option Nat)
  | ':' :: digits =>
    if digits.isEmpty then .ok none
    else
      match number? 10 digits with
      | none => .error .invalidPort
      | some n =>
        if n > 65535 then .error .invalidPort
        else .ok (if usualPort? scheme = some n then none else some n)
  | _ => .ok none

/-- Reads an authority, the text up to the path. -/
def readAuthority (scheme : String) (cs : List Char) : Except Error Authority := do
  let kind := SchemeKind.of scheme
  let (userinfo, hostAndPort) := match splitLast '@' cs with
    | some (before, after) => (some before, after)
    | none => (none, cs)
  if userinfo = some [] && hostAndPort.isEmpty then throw .emptyHost
  let (hostText, portText) := splitHost false hostAndPort
  if kind == .special && hostText.isEmpty then throw .emptyHost
  let host ← if kind == .general then Host.ofName hostText else Host.ofDomain hostText
  if host.isEmpty && !portText.isEmpty then throw .emptyHost
  let port ← readPort scheme portText
  let info := readUserinfo (userinfo.getD [])
  if host.isEmpty && !info.isEmpty then throw .emptyHost
  return ⟨info, host, port⟩

/-! ## Addresses -/

private def noHost : Authority := ⟨"", .name "", none⟩

/-- Reads what follows the two slashes before an authority. -/
def readAfterSlashes (scheme : String) (cs : List Char) : Except Error Address := do
  let kind := SchemeKind.of scheme
  let authority ← readAuthority scheme (cs.takeWhile (!endsAuthority kind ·))
  let rest := cs.dropWhile (!endsAuthority kind ·)
  let pathText := rest.takeWhile (!endsPath ·)
  let query := readQuery kind (rest.dropWhile (!endsPath ·))
  let path := match pathText with
    | [] => if kind == .general then .segments [] else .segments [""]
    | _ :: more => readPath kind [] more
  return ⟨scheme, some authority, path, query⟩

/-- Completes a reference without scheme and authority from the address it is joined to. -/
def readRelative (base : Address) (cs : List Char) : Address :=
  let kind := SchemeKind.of base.scheme
  let pathText := cs.takeWhile (!endsPath ·)
  let rest := cs.dropWhile (!endsPath ·)
  let query := readQuery kind rest
  let parts := match base.path with
    | .segments parts => parts
    | .rootless _ => []
  match pathText with
  | [] => { base with query := if rest.head? = some '?' then query else base.query }
  | c :: more =>
    if c == '/' || c == '\\' then { base with path := readPath kind [] more, query := query }
    else
      let keepsDrive := kind == .file && isDriveLetter ((parts.getLast?.getD "").toList)
      let directory := if keepsDrive then parts else parts.dropLast
      { base with path := readPath kind directory (c :: more), query := query }

private def isAnySlash (c : Char) : Bool := c == '/' || c == '\\'

private def opensWithDrive (cs : List Char) : Bool :=
  isDriveLetter (cs.take 2) &&
    (match cs.drop 2 with
      | [] => true
      | c :: _ => isAnySlash c || endsPath c)

/-- Reads the host of a `file` address. The local host is no host. -/
private def readFileHost (cs : List Char) : Except Error Host :=
  if cs.isEmpty then .ok (.name "")
  else do
    let host ← Host.ofDomain cs
    return if host = .name "localhost" then .name "" else host

/-- Reads a `file` address behind its scheme; `base` is a `file` address too. -/
def readFile (base : Option Address) (cs : List Char) : Except Error Address := do
  match cs with
  | a :: b :: text =>
    if isAnySlash a && isAnySlash b then
      let hostText := text.takeWhile (!endsAuthority .file ·)
      if isDriveLetter hostText then return withHost (.name "") text
      else
        let host ← readFileHost hostText
        let rest := text.dropWhile (!endsAuthority .file ·)
        return withHost host (match rest with
          | c :: more => if isAnySlash c then more else rest
          | [] => [])
    else if isAnySlash a then return rooted (b :: text)
    else return relative cs
  | [a] => if isAnySlash a then return rooted [] else return relative cs
  | [] => return relative cs
where
  /-- A host cannot stand before a drive letter. -/
  withHost (host : Host) (text : List Char) : Address :=
    let path := readPath .file [] (text.takeWhile (!endsPath ·))
    let startsWithDrive := match path with
      | .segments (first :: _) => isDriveLetter first.toList
      | _ => false
    ⟨"file", some { noHost with host := if startsWithDrive then .name "" else host }, path,
      readQuery .file (text.dropWhile (!endsPath ·))⟩
  /-- One slash: the host and the drive letter are those of the base. -/
  rooted (text : List Char) : Address :=
    let rest := text.dropWhile (!endsPath ·)
    let baseDrive := ((base.bind (·.segments?)).bind (·.head?)).filter (isDriveLetter ·.toList)
    let host := ((base.bind (·.authority)).map (·.host)).getD (.name "")
    let (host, path) :=
      if opensWithDrive text then (.name "", [])
      else match baseDrive with
        | some drive => (.name "", [drive])
        | none => (host, [])
    ⟨"file", some { noHost with host := host },
      readPath .file path (text.takeWhile (!endsPath ·)), readQuery .file rest⟩
  /-- No slash: the reference completes the base, or the root where there is no base. -/
  relative (text : List Char) : Address :=
    let root : Address := ⟨"file", some noHost, .segments [""], none⟩
    if opensWithDrive text then readRelative root text
    else readRelative (base.getD root) text

/-- A scheme and what follows its colon. -/
private def splitScheme (cs : List Char) : Option (String × List Char) :=
  match splitFirst ':' cs with
  | some (first :: more, rest) =>
    if isAsciiAlpha first &&
        more.all (fun c => isAsciiAlphanum c || c == '+' || c == '-' || c == '.') then
      some (String.ofList ((first :: more).map asciiLower), rest)
    else none
  | _ => none

/-- Reads what follows the scheme of an address that is neither special nor a file. -/
def readGeneral (scheme : String) : List Char → Except Error Address
  | '/' :: '/' :: cs => readAfterSlashes scheme cs
  | cs =>
    let pathText := cs.takeWhile (!endsPath ·)
    let query := readQuery .general (cs.dropWhile (!endsPath ·))
    match pathText with
    | '/' :: more => .ok ⟨scheme, none, readPath .general [] more, query⟩
    | _ =>
      let encoded := percentEncode controlSet pathText
      let text := if query.isSome then encoded else stripEnd (· == ' ') encoded
      .ok ⟨scheme, none, .rootless (String.ofList text), query⟩

def readWithScheme (base : Option Address) (scheme : String) (cs : List Char) :
    Except Error Address :=
  let sameScheme := base.filter (·.scheme == scheme)
  match SchemeKind.of scheme with
  | .file => readFile sameScheme cs
  | .general => readGeneral scheme cs
  | .special =>
    let slashes := (cs.takeWhile isAnySlash).length
    match sameScheme with
    | some base =>
      if slashes < 2 then .ok (readRelative base cs)
      else readAfterSlashes scheme (cs.dropWhile isAnySlash)
    | none => readAfterSlashes scheme (cs.dropWhile isAnySlash)

/-- Reads a reference without scheme. -/
def readWithoutScheme (base : Address) (cs : List Char) : Except Error Address :=
  match base.path with
  | .rootless _ =>
    if cs.head? = some '#' then .ok base else .error .relativeToRootless
  | .segments _ =>
    if base.scheme == "file" then readFile (some base) cs
    else if (cs.takeWhile isAnySlash).length ≥ 2 then
      match cs with
      | '/' :: '/' :: rest => readAfterSlashes base.scheme rest
      | _ => readAfterSlashes base.scheme (cs.dropWhile isAnySlash)
    else .ok (readRelative base cs)

private def isControlOrSpace (c : Char) : Bool := c ≤ ' '

/-- The characters of a text that count. -/
private def significant (text : String) : List Char :=
  (stripBoth isControlOrSpace text.toList).filter fun c => c != '\t' && c != '\n' && c != '\r'

/-- Reads an address; a reference is completed from the base. -/
def Address.read (base : Option Address) (text : String) : Except Error Address :=
  let cs := significant text
  match splitScheme cs with
  | some (scheme, rest) => readWithScheme base scheme rest
  | none =>
    match base with
    | some base => readWithoutScheme base cs
    | none => .error .relativeWithoutBase

end SoapBindings.Url
