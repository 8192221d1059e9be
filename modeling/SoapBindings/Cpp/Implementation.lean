import SoapBindings.Cpp.Header
import SoapBindings.Cpp.ServiceText

/-!
# Implementations

The implementation defines what the header declares, class by class. A class that owns what its
plain pointers point to defines copies and its destructor itself; all others leave that to their
members.
-/

set_option autoImplicit false

namespace SoapBindings.Cpp

namespace ObjectClass

/-- What a copy is initialized with. -/
def copyInitializers (style : OptionalStyle) (c : ObjectClass) : List String :=
  c.base.toList.map (fun base => s!"{base}(other)") ++
    c.members.map fun m => s!"{m.field}({m.copied style})"

/-- The copies and the destructor of a class that owns pointers. -/
def ownershipDefinitions (style : OptionalStyle) (c : ObjectClass) : List String :=
  let n := c.name
  let initializers := match c.copyInitializers style with
    | [] => []
    | first :: more => ("    : " ++ first) :: more.map ("    , " ++ ·)
  let assign (m : Member) : List String :=
    (if m.ownsPointer style then [s!"delete {m.field};"] else []) ++
      [s!"{m.field} = {m.copied style};"]
  [s!"{n}::{n}(const {n}& other)"] ++ initializers ++ braces [] ++ [""] ++
    definition s!"{n}& {n}::operator=(const {n}& other)"
      (ifThen "this == &other" ["return *this;"] ++
        c.base.toList.map (fun base => s!"{base}::operator=(other);") ++
        c.members.flatMap assign ++ ["return *this;"]) ++
    definition s!"{n}::~{n}()"
      ((c.members.filter (·.ownsPointer style)).map fun m => s!"delete {m.field};")

def definitions (style : OptionalStyle) (c : ObjectClass) : List String :=
  [s!"{c.name}::{c.name}() = default;", ""] ++
    (if c.ownsPointers style then c.ownershipDefinitions style else []) ++
    c.members.flatMap (·.accessors style c.name) ++
    c.serializeDefinition ++ c.deserializeDefinition style

end ObjectClass

def Class.definitions (style : OptionalStyle) : Class → List String
  | .object c => c.definitions style
  | .enumeration c => c.definitions
  | .client c => c.definitions
  | .job c => c.definitions style
  | .server c => c.definitions

/-- The class makes calls. -/
def Class.makesCalls : Class → Bool
  | .client _ | .job _ => true
  | _ => false

def implementation (l : Layout) (classes : List Class) : String :=
  unlines ([banner, "#include \"" ++ l.headerFile ++ "\"", "",
    "#include <KDSoapClient/KDSoapNamespaceManager.h>"] ++
    (if classes.any (·.makesCalls) then ["#include <KDSoapClient/KDSoapPendingCallWatcher.h>"]
      else []) ++
    ["#include <QStringList>", ""] ++ l.openNamespace ++
    classes.flatMap (·.definitions l.style) ++ l.closeNamespace)

end SoapBindings.Cpp
