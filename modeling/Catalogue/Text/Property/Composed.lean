/-! Letters with marks that are characters of their own. A letter and a mark that
follows it are read as that character (`compose`). -/
namespace Catalogue.Text

/-- A mark, characters without it, and the same characters with it. -/
structure Composition where
  mark : Nat
  plain : String
  marked : String
  deriving DecidableEq, Repr

/-- Small letters and the marks that compose with them. -/
def compositions : List Composition := [
  ⟨768, "aeiouünеиēōwâăêôơưyἀἁἐἑἠἡἰἱὀὁὐὑὠὡαεηιουωϊϋ",
    "àèìòùǜǹѐѝḕṑẁầằềồờừỳἂἃἒἓἢἣἲἳὂὃὒὓὢὣὰὲὴὶὸὺὼῒῢ"⟩,
  ⟨769, "aeiouyclnrszügåæøϊαεηιϋουωгкçēïkmõōpũwâăêôơưἀἁἐἑἠἡἰἱὀὁὐὑὠὡ",
    "áéíóúýćĺńŕśźǘǵǻǽǿΐάέήίΰόύώѓќḉḗḯḱḿṍṓṕṹẃấắếốớứἄἅἔἕἤἥἴἵὄὅὔὕὤὥ"⟩,
  ⟨770, "aeioucghjswyzạẹọ",
    "âêîôûĉĝĥĵŝŵŷẑậệộ"⟩,
  ⟨771, "anoiuvâăeêôơưy",
    "ãñõĩũṽẫẵẽễỗỡữỹ"⟩,
  ⟨772, "aeiouüäȧæǫöõȯyиуgḷṛαιυ",
    "āēīōūǖǟǡǣǭȫȭȱȳӣӯḡḹṝᾱῑῡ"⟩,
  ⟨774, "aegiouиужаеȩạαιυ",
    "ăĕğĭŏŭйўӂӑӗḝặᾰῐῠ"⟩,
  ⟨775, "cegzaobdfhmnprsśšṣtwxy",
    "ċėġżȧȯḃḋḟḣṁṅṗṙṡṥṧṩṫẇẋẏ"⟩,
  ⟨776, "aeiouyιυеіаәжзиоөэучыhõūwxt",
    "äëïöüÿϊϋёїӓӛӝӟӥӧӫӭӱӵӹḧṏṻẅẍẗ"⟩,
  ⟨777, "aâăeêioôơuưy",
    "ảẩẳẻểỉỏổởủửỷ"⟩,
  ⟨778, "auwy",
    "åůẘẙ"⟩,
  ⟨779, "ouу",
    "őűӳ"⟩,
  ⟨780, "cdelnrstzaiouügkʒjh",
    "čďěľňřšťžǎǐǒǔǚǧǩǯǰȟ"⟩,
  ⟨783, "aeioruѵ",
    "ȁȅȉȍȑȕѷ"⟩,
  ⟨785, "aeioru",
    "ȃȇȋȏȓȗ"⟩,
  ⟨787, "αεηιουωρ",
    "ἀἐἠἰὀὐὠῤ"⟩,
  ⟨788, "αεηιουωρ",
    "ἁἑἡἱὁὑὡῥ"⟩,
  ⟨795, "ou",
    "ơư"⟩,
  ⟨803, "bdhklmnrstvwzaeioơuưy",
    "ḅḍḥḳḷṃṇṛṣṭṿẉẓạẹịọợụựỵ"⟩,
  ⟨804, "u",
    "ṳ"⟩,
  ⟨805, "a",
    "ḁ"⟩,
  ⟨806, "st",
    "șț"⟩,
  ⟨807, "cgklnrstedh",
    "çģķļņŗşţȩḑḩ"⟩,
  ⟨808, "aeiuo",
    "ąęįųǫ"⟩,
  ⟨813, "delntu",
    "ḓḙḽṋṱṷ"⟩,
  ⟨814, "h",
    "ḫ"⟩,
  ⟨816, "eiu",
    "ḛḭṵ"⟩,
  ⟨817, "bdklnrtzh",
    "ḇḏḵḻṉṟṯẕẖ"⟩,
  ⟨824, "←→↔⇐⇔⇒∃∈∋∣∥∼≃≅≈=≡≍<>≤≥≲≳≶≷≺≻⊂⊃⊆⊇⊢⊨⊩⊫≼≽⊑⊒⊲⊳⊴⊵",
    "↚↛↮⇍⇎⇏∄∉∌∤∦≁≄≇≉≠≢≭≮≯≰≱≴≵≸≹⊀⊁⊄⊅⊈⊉⊬⊭⊮⊯⋠⋡⋢⋣⋪⋫⋬⋭"⟩,
  ⟨834, "ἀἁἠἡἰἱὐὑὠὡαηιϊυϋω",
    "ἆἇἦἧἶἷὖὗὦὧᾶῆῖῗῦῧῶ"⟩,
  ⟨1619, "ا",
    "آ"⟩,
  ⟨1620, "اويەہے",
    "أؤئۀۂۓ"⟩,
  ⟨1621, "ا",
    "إ"⟩,
  ⟨2364, "नरळ",
    "ऩऱऴ"⟩,
  ⟨2494, "\u09c7",
    "\u09cb"⟩,
  ⟨2519, "\u09c7",
    "\u09cc"⟩,
  ⟨2878, "\u0b47",
    "\u0b4b"⟩,
  ⟨2902, "\u0b47",
    "\u0b48"⟩,
  ⟨2903, "\u0b47",
    "\u0b4c"⟩,
  ⟨3006, "\u0bc6\u0bc7",
    "\u0bca\u0bcb"⟩,
  ⟨3031, "ஒ\u0bc6",
    "ஔ\u0bcc"⟩,
  ⟨3158, "\u0c46",
    "\u0c48"⟩,
  ⟨3266, "\u0cc6",
    "\u0cca"⟩,
  ⟨3285, "\u0cbf\u0cc6\u0cca",
    "\u0cc0\u0cc7\u0ccb"⟩,
  ⟨3286, "\u0cc6",
    "\u0cc8"⟩,
  ⟨3390, "\u0d46\u0d47",
    "\u0d4a\u0d4b"⟩,
  ⟨3415, "\u0d46",
    "\u0d4c"⟩,
  ⟨3530, "\u0dd9\u0ddc",
    "\u0dda\u0ddd"⟩,
  ⟨3535, "\u0dd9",
    "\u0ddc"⟩,
  ⟨3551, "\u0dd9",
    "\u0dde"⟩,
  ⟨4142, "ဥ",
    "ဦ"⟩,
  ⟨6965, "ᬅᬇᬉᬋᬍᬑ\u1b3a\u1b3c\u1b3e\u1b3f\u1b42",
    "ᬆᬈᬊᬌᬎᬒ\u1b3b\u1b3d\u1b40\u1b41\u1b43"⟩,
  ⟨12441, "かきくけこさしすせそたちつてとはひふへほうゝカキクケコサシスセソタチツテトハヒフヘホウワヰヱヲヽ",
    "がぎぐげござじずぜぞだぢづでどばびぶべぼゔゞガギグゲゴザジズゼゾダヂヅデドバビブベボヴヷヸヹヺヾ"⟩,
  ⟨12442, "はひふへほハヒフヘホ",
    "ぱぴぷぺぽパピプペポ"⟩]

/-- A character with a mark, if it is a character of its own. -/
def composed? (c mark : Char) : Option Char := do
  let row ← compositions.find? (·.mark == mark.toNat)
  (row.plain.toList.zip row.marked.toList).lookup c

/-- A text that follows a character, with marks composed. -/
def composeAfter (c : Char) : List Char → List Char
  | [] => [c]
  | m :: rest =>
    match composed? c m with
    | some d => composeAfter d rest
    | none => c :: composeAfter m rest

/-- The text with every mark composed that can be. -/
def compose : List Char → List Char
  | [] => []
  | c :: rest => composeAfter c rest

end Catalogue.Text
