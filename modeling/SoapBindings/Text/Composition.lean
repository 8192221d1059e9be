import SoapBindings.Text.Mark

/-!
# Composition of characters and marks

A letter with a mark can be written as one character or as two. `compose` gives both spellings one
form: each character is split into letter and marks, marks are put in the order of their classes,
and a letter takes up every mark that it has a character with and that no mark before it bars.

The table holds the compositions that occur in names, and therefore neither capital letters nor the
characters that are kept only for compatibility. Hangul syllables are put together by arithmetic.
-/

set_option autoImplicit false

namespace SoapBindings.Text

/-- For each mark the characters that take it up, each followed by the character that it becomes. -/
private def compositions : List (Nat × String) := [
  (0x300, "aàeèiìnǹoòuùwẁyỳâầêềôồüǜăằēḕōṑơờưừαὰεὲηὴιὶοὸυὺωὼϊῒϋῢеѐиѝἀἂἁἃἐἒἑἓἠἢἡἣἰἲ"),
  (0x300, "ἱἳὀὂὁὃὐὒὑὓὠὢὡὣ"),
  (0x301, "aácćeégǵiíkḱlĺmḿnńoópṕrŕsśuúwẃyýzźâấåǻæǽçḉêếïḯôốõṍøǿüǘăắēḗōṓũṹơớưứαάεέ"),
  (0x301, "ηήιίοόυύωώϊΐϋΰгѓкќἀἄἁἅἐἔἑἕἠἤἡἥἰἴἱἵὀὄὁὅὐὔὑὕὠὤὡὥ"),
  (0x302, "aâcĉeêgĝhĥiîjĵoôsŝuûwŵyŷzẑạậẹệọộ"),
  (0x303, "aãeẽiĩnñoõuũvṽyỹâẫêễôỗăẵơỡưữ"),
  (0x304, "aāeēgḡiīoōuūyȳäǟæǣõȭöȫüǖǫǭȧǡȯȱαᾱιῑυῡиӣуӯḷḹṛṝ"),
  (0x306, "aăeĕgğiĭoŏuŭȩḝαᾰιῐυῠаӑеӗжӂийуўạặ"),
  (0x307, "aȧbḃcċdḋeėfḟgġhḣmṁnṅoȯpṗrṙsṡtṫwẇxẋyẏzżśṥšṧṣṩ"),
  (0x308, "aäeëhḧiïoötẗuüwẅxẍyÿõṏūṻιϊυϋаӓеёжӝзӟиӥоӧуӱчӵыӹэӭіїәӛөӫ"),
  (0x309, "aảeẻiỉoỏuủyỷâẩêểôổăẳơởưử"),
  (0x30a, "aåuůwẘyẙ"),
  (0x30b, "oőuűуӳ"),
  (0x30c, "aǎcčdďeěgǧhȟiǐjǰkǩlľnňoǒrřsštťuǔzžüǚʒǯ"),
  (0x30f, "aȁeȅiȉoȍrȑuȕѵѷ"),
  (0x311, "aȃeȇiȋoȏrȓuȗ"),
  (0x313, "αἀεἐηἠιἰοὀρῤυὐωὠ"),
  (0x314, "αἁεἑηἡιἱοὁρῥυὑωὡ"),
  (0x31b, "oơuư"),
  (0x323, "aạbḅdḍeẹhḥiịkḳlḷmṃnṇoọrṛsṣtṭuụvṿwẉyỵzẓơợưự"),
  (0x324, "uṳ"),
  (0x325, "aḁ"),
  (0x326, "sștț"),
  (0x327, "cçdḑeȩgģhḩkķlļnņrŗsştţ"),
  (0x328, "aąeęiįoǫuų"),
  (0x32d, "dḓeḙlḽnṋtṱuṷ"),
  (0x32e, "hḫ"),
  (0x330, "eḛiḭuṵ"),
  (0x331, "bḇdḏhẖkḵlḻnṉrṟtṯzẕ"),
  (0x338, "<≮=≠>≯←↚→↛↔↮⇐⇍⇒⇏⇔⇎∃∄∈∉∋∌∣∤∥∦∼≁≃≄≅≇≈≉≍≭≡≢≤≰≥≱≲≴≳≵≶≸≷≹≺⊀≻⊁≼⋠≽⋡⊂⊄⊃⊅⊆⊈⊇⊉⊑⋢"),
  (0x338, "⊒⋣⊢⊬⊨⊭⊩⊮⊫⊯⊲⋪⊳⋫⊴⋬⊵⋭"),
  (0x342, "αᾶηῆιῖυῦωῶϊῗϋῧἀἆἁἇἠἦἡἧἰἶἱἷὐὖὑὗὠὦὡὧ"),
  (0x653, "\u0627\u0622"),
  (0x654, "\u0627\u0623\u0648\u0624\u064a\u0626\u06c1\u06c2\u06d2\u06d3"),
  (0x654, "\u06d5\u06c0"),
  (0x655, "\u0627\u0625"),
  (0x93c, "नऩरऱळऴ"),
  (0x9be, "\u09c7\u09cb"),
  (0x9d7, "\u09c7\u09cc"),
  (0xb3e, "\u0b47\u0b4b"),
  (0xb56, "\u0b47\u0b48"),
  (0xb57, "\u0b47\u0b4c"),
  (0xbbe, "\u0bc6\u0bca\u0bc7\u0bcb"),
  (0xbd7, "ஒஔ\u0bc6\u0bcc"),
  (0xc56, "\u0c46\u0c48"),
  (0xcc2, "\u0cc6\u0cca"),
  (0xcd5, "\u0cbf\u0cc0\u0cc6\u0cc7\u0cca\u0ccb"),
  (0xcd6, "\u0cc6\u0cc8"),
  (0xd3e, "\u0d46\u0d4a\u0d47\u0d4b"),
  (0xd57, "\u0d46\u0d4c"),
  (0xdca, "\u0dd9\u0dda\u0ddc\u0ddd"),
  (0xdcf, "\u0dd9\u0ddc"),
  (0xddf, "\u0dd9\u0dde"),
  (0x102e, "ဥဦ"),
  (0x1b35, "ᬅᬆᬇᬈᬉᬊᬋᬌᬍᬎᬑᬒ\u1b3a\u1b3b\u1b3c\u1b3d\u1b3e\u1b40\u1b3f\u1b41"),
  (0x1b35, "\u1b42\u1b43"),
  (0x3099, "うゔかがきぎくぐけげこごさざしじすずせぜそぞただちぢつづてでとどはばひびふぶへべほぼゝゞウヴカガキギクグケゲコゴサザシジスズセゼソゾタダチヂ"),
  (0x3099, "ツヅテデトドハバヒビフブヘベホボワヷヰヸヱヹヲヺヽヾ"),
  (0x309a, "はぱひぴふぷへぺほぽハパヒピフプヘペホポ"),
  (0x110ba, "𑂙𑂚𑂛𑂜𑂥𑂫"),
  (0x11127, "𑄱𑄮𑄲𑄯"),
  (0x1133e, "𑍇𑍋"),
  (0x11357, "𑍇𑍌"),
  (0x114b0, "𑒹𑒼"),
  (0x114ba, "𑒹𑒻"),
  (0x114bd, "𑒹𑒾"),
  (0x115af, "𑖸𑖺𑖹𑖻"),
  (0x11930, "𑤵𑤸")]

/-! ## Hangul -/

private def firstSyllable : Nat := 0xac00

/-- How many syllables have the same first and second letter. -/
private def finals : Nat := 28

private def vowels : Nat := 21

private def isIn (c : Char) (first count : Nat) : Bool := first ≤ c.toNat && c.toNat < first + count

private def isSyllable (c : Char) : Bool := isIn c firstSyllable (19 * vowels * finals)

/-- The letters of a syllable. -/
private def syllableLetters (c : Char) : List Char :=
  let n := c.toNat - firstSyllable
  let ends := if n % finals = 0 then [] else [Char.ofNat (0x11a7 + n % finals)]
  Char.ofNat (0x1100 + n / (vowels * finals)) ::
    Char.ofNat (0x1161 + n / finals % vowels) :: ends

/-- The syllable of two letters, or of a syllable without a final letter and that letter. -/
private def syllable? (a b : Char) : Option Char :=
  if isIn a 0x1100 19 && isIn b 0x1161 vowels then
    some (Char.ofNat (firstSyllable +
      ((a.toNat - 0x1100) * vowels + (b.toNat - 0x1161)) * finals))
  else if isSyllable a && (a.toNat - firstSyllable) % finals = 0 && isIn b 0x11a8 27 then
    some (Char.ofNat (a.toNat + (b.toNat - 0x11a7)))
  else none

/-! ## Splitting and joining -/

private def wholeOf? (a : Char) : List Char → Option Char
  | base :: whole :: more => if base == a then some whole else wholeOf? a more
  | _ => none

private def baseOf? (c : Char) : List Char → Option Char
  | base :: whole :: more => if whole == c then some base else baseOf? c more
  | _ => none

/-- The character that two characters are written as. -/
def whole? (a b : Char) : Option Char :=
  if isAscii b then none
  else (syllable? a b).or (compositions.findSome? fun (mark, pairs) =>
    if mark = b.toNat then wholeOf? a pairs.toList else none)

/-- A character without its last mark, and that mark. -/
def split (c : Char) : List Char :=
  if isAscii c then [c]
  else if isSyllable c then syllableLetters c
  else (compositions.findSome? fun (mark, pairs) =>
    (baseOf? c pairs.toList).map fun base => [base, Char.ofNat mark]).getD [c]

/-- Characters without marks, and the marks behind them. No character in the table has more
than two. -/
def splitMarks (cs : List Char) : List Char :=
  (cs.flatMap split).flatMap split

/-- Puts a mark before marks in order, where its class puts it. -/
private def placeMark (c : Char) : List Char → List Char
  | [] => [c]
  | d :: cs =>
    if combiningClass d != 0 && combiningClass d < combiningClass c then d :: placeMark c cs
    else c :: d :: cs

/-- Puts the marks behind each character in the order of their classes; marks of one class stay in
their order. -/
def orderMarks (cs : List Char) : List Char := cs.foldr placeMark []

/-- Joins what follows to a character; `kept` are the marks that it did not take up, last first. -/
private def joinFrom (c : Char) (kept : List Char) : List Char → List Char
  | [] => c :: kept.reverse
  | d :: cs =>
    let barred := match kept with
      | [] => false
      | last :: _ => combiningClass d ≤ combiningClass last
    match if barred then none else whole? c d with
    | some whole => joinFrom whole kept cs
    | none =>
      if combiningClass d = 0 then c :: kept.reverse ++ joinFrom d [] cs
      else joinFrom c (d :: kept) cs

/-- The text with every character as composed as it can be. -/
def compose (cs : List Char) : List Char :=
  match orderMarks (splitMarks cs) with
  | [] => []
  | c :: cs => joinFrom c [] cs

end SoapBindings.Text
