import SoapBindings.Cpp.Layout
import SoapBindings.Cpp.Method
import SoapBindings.Text.Blank
import SoapBindings.Text.Split

/-!
# Headers

The header declares the classes in their order. Classes that are only pointed to are declared ahead,
and the includes are those that the types in the declarations need. The documentation of a
declaration stands before it as a comment, one line of the comment for each of its lines.
-/

set_option autoImplicit false

namespace SoapBindings.Cpp

open Text

/-! ## Documentation comments -/

def commentLine (indent : String) (line : List Char) : String :=
  indent ++ " * " ++ Text.trim (String.ofList line)

/-- The lines of the comment. -/
def comment (indent documentation : String) : List String :=
  (indent ++ "/**") :: (Text.lines documentation.toList).map (commentLine indent) ++
    [indent ++ " */"]

/-- The comment of what has a documentation. -/
def comment? (indent : String) (documentation : Option String) : List String :=
  documentation.toList.flatMap (comment indent)

/-! ## Include guard and includes -/

/-- The macro that guards a header: the name of the file in capitals. -/
def guardName (headerFile : String) : String :=
  let name := (splitWhere (· == '/') headerFile.toList).getLast?.getD []
  let cs := name.map fun c => if isAsciiAlphanum c then asciiUpper c else '_'
  String.ofList (match cs with
    | c :: _ => if isAsciiDigit c then '_' :: cs else cs
    | [] => [])

/-- The includes that words in a type ask for. -/
def includesByWord : List (String × String) := [
  ("QSharedPointer", "<QSharedPointer>"),
  ("std::optional", "<optional>"),
  ("boost::optional", "<boost/optional.hpp>"),
  ("KDDateTime", "<KDSoapClient/KDDateTime.h>"),
  ("KDQName", "<KDSoapClient/KDQName.h>"),
  ("QDate", "<QDate>"),
  ("QTime", "<QTime>"),
  ("QByteArray", "<QByteArray>"),
  ("QVariant", "<QVariant>")]

/-- The types that the declaration of a class mentions. -/
def mentionedTypes (style : OptionalStyle) (c : Class) : List String :=
  c.members.map (·.type style) ++
    c.methods.flatMap fun m => m.returnType :: m.parameters.map (·.type)

/-- The includes that a type needs. -/
def includesOfType (type : String) : List String :=
  (includesByWord.filter fun (word, _) => (cut? word.toList type.toList).isSome).map (·.2)

/-- The includes that a class needs whatever its members are. -/
def includesOfKind : Class → List String
  | .object _ | .enumeration _ => []
  | .client _ | .job _ =>
    ["<QObject>", "<KDSoapClient/KDSoapClientInterface.h>", "<KDSoapClient/KDSoapMessage.h>"]
  | .server _ =>
    ["<QObject>", "<KDSoapClient/KDSoapMessage.h>", "<KDSoapServer/KDSoapServerObjectInterface.h>"]

/-- All includes, each once and in order. -/
def includes (style : OptionalStyle) (classes : List Class) : List String :=
  (Std.ExtTreeSet.ofList (["<QList>", "<QString>", "<KDSoapClient/KDSoapValue.h>"] ++
    classes.flatMap fun c =>
      includesOfKind c ++ (mentionedTypes style c).flatMap includesOfType)).toList

/-! ## Declarations of methods and members -/

namespace Method

/-- A constructor can leave out the parent. -/
def declaredParameter (m : Method) (p : Parameter) : String :=
  if m.kind == .constructor && p.name == "parent" then p.toText ++ " = nullptr" else p.toText

def signature (m : Method) : String :=
  m.name ++ "(" ++ ", ".intercalate (m.parameters.map m.declaredParameter) ++ ")"

def declarationText (m : Method) : String :=
  match m.kind with
  | .constructor => (if m.parameters.isEmpty then "" else "explicit ") ++ m.signature ++ ";"
  | .pureVirtual => "virtual " ++ m.returnType ++ " " ++ m.signature ++ " = 0;"
  | .dispatch => m.returnType ++ " " ++ m.signature ++ " override;"
  | _ => m.returnType ++ " " ++ m.signature ++ (if m.isConst then " const" else "") ++ ";"

def declaration (m : Method) : List String :=
  comment? "    " m.documentation ++ ["    " ++ m.declarationText]

end Method

namespace Member

def accessorDeclarations (style : OptionalStyle) (m : Member) : List String :=
  comment? "    " m.documentation ++ [
    s!"    void {m.setter}({m.setterType style} {m.name});",
    s!"    {m.type style} {m.name}() const;"]

/-- The initial value of the field; what is no scalar has one of its own. -/
def fieldInitializer (style : OptionalStyle) (m : Member) : String :=
  if m.ownsPointer style then " = nullptr"
  else if m.storage == .value && m.value.kind.isScalar then "\x7b\x7d"
  else ""

def fieldDeclaration (style : OptionalStyle) (m : Member) : String :=
  s!"    {m.type style} {m.field}{m.fieldInitializer style};"

end Member

/-- The signals of a class. -/
def signalDeclarations (methods : List Method) : List String :=
  let signals := methods.filter (·.kind == .signal)
  if signals.isEmpty then [] else ["", "Q_SIGNALS:"] ++ signals.flatMap (·.declaration)

/-- The methods that are no signals. -/
def plainDeclarations (methods : List Method) : List String :=
  (methods.filter (·.kind != .signal)).flatMap (·.declaration)

/-! ## Declarations of classes -/

def ObjectClass.ownsPointers (style : OptionalStyle) (c : ObjectClass) : Bool :=
  c.members.any (·.ownsPointer style)

/-- What a class that owns pointers has to say about copies. -/
def ObjectClass.ownershipDeclarations (style : OptionalStyle) (c : ObjectClass) : List String :=
  if c.ownsPointers style then [
    s!"    {c.name}(const {c.name}& other);",
    s!"    {c.name}& operator=(const {c.name}& other);",
    s!"    ~{c.name}();"]
  else []

def ObjectClass.declaration (l : Layout) (c : ObjectClass) : List String :=
  let base := (c.base.map (" : public " ++ ·)).getD ""
  let fields := if c.members.isEmpty then []
    else ["", "private:"] ++ c.members.map (·.fieldDeclaration l.style)
  [s!"class {l.macroText}{c.name}{base}", "\x7b", "public:", s!"    {c.name}();"] ++
    c.ownershipDeclarations l.style ++
    c.members.flatMap (·.accessorDeclarations l.style) ++
    codecMethods.flatMap (·.declaration) ++ fields ++ ["\x7d;"]

def EnumerationClass.declaration (l : Layout) (c : EnumerationClass) : List String :=
  let initial := match c.values with
    | first :: _ => " = " ++ first.name
    | [] => "\x7b\x7d"
  [s!"class {l.macroText}{c.name}", "\x7b", "public:", "    enum Type \x7b"] ++
    c.values.map (fun v => s!"        {v.name},") ++ [
    "    \x7d;",
    s!"    {c.name}();",
    s!"    {c.name}(Type type);",
    "    operator Type() const;",
    "    Type type() const;"] ++
    enumerationMethods.flatMap (·.declaration) ++
    ["", "private:", s!"    Type m_type{initial};", "\x7d;"]

def ClientClass.declaration (l : Layout) (c : ClientClass) : List String :=
  [s!"class {l.macroText}{c.name} : public QObject", "\x7b", "    Q_OBJECT", "public:"] ++
    plainDeclarations c.methods ++ [
    s!"    ~{c.name}();",
    "    KDSoapClientInterface* clientInterface();"] ++
    signalDeclarations c.methods ++ [
    "",
    "private:",
    "    QString m_endPoint;",
    "    KDSoapClientInterface* m_clientInterface = nullptr;",
    "    KDSoapMessage m_lastReply;",
    "\x7d;"]

def JobClass.declaration (l : Layout) (c : JobClass) : List String :=
  [s!"class {l.macroText}{c.name} : public QObject", "\x7b", "    Q_OBJECT", "public:"] ++
    c.members.flatMap (·.accessorDeclarations l.style) ++
    plainDeclarations c.methods ++ signalDeclarations c.methods ++
    ["", "private:", s!"    {c.client}* m_service;"] ++
    c.members.map (·.fieldDeclaration l.style) ++ ["\x7d;"]

def ServerClass.declaration (l : Layout) (c : ServerClass) : List String := [
  s!"class {l.macroText}{c.name} : public QObject, public KDSoapServerObjectInterface",
  "\x7b",
  "    Q_OBJECT",
  "    Q_INTERFACES(KDSoapServerObjectInterface)",
  "public:"] ++ c.methods.flatMap (·.declaration) ++ ["\x7d;"]

def Class.declaration (l : Layout) (c : Class) : List String :=
  comment? "" c.documentation ++ match c with
    | .object c => c.declaration l
    | .enumeration c => c.declaration l
    | .client c => c.declaration l
    | .job c => c.declaration l
    | .server c => c.declaration l

/-! ## The header -/

/-- The classes that are declared ahead, each once and in order. -/
def forwardDeclarations (classes : List Class) : List String :=
  let names := (Std.ExtTreeSet.ofList (classes.flatMap (·.forwardDeclarations))).toList
  if names.isEmpty then [] else names.map (fun name => "class " ++ name ++ ";") ++ [""]

def header (l : Layout) (classes : List Class) : String :=
  let macroName := guardName l.headerFile
  let close := l.closeNamespace
  unlines ([banner, "#ifndef " ++ macroName, "#define " ++ macroName, ""] ++
    (includes l.style classes).map ("#include " ++ ·) ++ [""] ++
    l.openNamespace ++ forwardDeclarations classes ++
    classes.flatMap (fun c => c.declaration l ++ [""]) ++
    (if close.isEmpty then [] else close ++ [""]) ++
    ["#endif // " ++ macroName])

end SoapBindings.Cpp
