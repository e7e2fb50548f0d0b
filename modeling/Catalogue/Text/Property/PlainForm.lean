import Catalogue.Text.CharSet

/-! Characters that are another shape of ASCII text: full-width and styled letters,
raised and lowered digits, numbers in circles, units, Roman numerals. Capitals
count as their small letters. -/
namespace Catalogue.Text

/-- The characters from `first` to `last` are shapes of texts that differ in their last
character alone, which goes up by one from each to the next. `form` is the text of the first. -/
structure PlainForm where
  first : Nat
  last : Nat
  form : String
  deriving DecidableEq, Repr

/-- The text of the `n`-th character of the run. -/
def PlainForm.nth (run : PlainForm) (n : Nat) : List Char :=
  match run.form.toList.reverse with
  | [] => []
  | c :: before => before.reverse ++ [Char.ofNat (c.toNat + n)]

/-- Characters and the ASCII texts that they are shapes of. -/
def plainForms : List PlainForm := [
  ⟨170, 170, "a"⟩, ⟨178, 179, "2"⟩, ⟨185, 185, "1"⟩, ⟨186, 186, "o"⟩, ⟨306, 306, "ij"⟩,
  ⟨307, 307, "ij"⟩, ⟨383, 383, "s"⟩, ⟨455, 455, "lj"⟩, ⟨456, 456, "lj"⟩, ⟨457, 457, "lj"⟩,
  ⟨458, 458, "nj"⟩, ⟨459, 459, "nj"⟩, ⟨460, 460, "nj"⟩, ⟨497, 497, "dz"⟩, ⟨498, 498, "dz"⟩,
  ⟨499, 499, "dz"⟩, ⟨688, 688, "h"⟩, ⟨690, 690, "j"⟩, ⟨691, 691, "r"⟩, ⟨695, 695, "w"⟩,
  ⟨696, 696, "y"⟩, ⟨737, 737, "l"⟩, ⟨738, 738, "s"⟩, ⟨739, 739, "x"⟩, ⟨894, 894, ";"⟩,
  ⟨7468, 7468, "a"⟩, ⟨7470, 7470, "b"⟩, ⟨7472, 7473, "d"⟩, ⟨7475, 7482, "g"⟩, ⟨7484, 7484, "o"⟩,
  ⟨7486, 7486, "p"⟩, ⟨7487, 7487, "r"⟩, ⟨7488, 7489, "t"⟩, ⟨7490, 7490, "w"⟩, ⟨7491, 7491, "a"⟩,
  ⟨7495, 7495, "b"⟩, ⟨7496, 7497, "d"⟩, ⟨7501, 7501, "g"⟩, ⟨7503, 7503, "k"⟩, ⟨7504, 7504, "m"⟩,
  ⟨7506, 7506, "o"⟩, ⟨7510, 7510, "p"⟩, ⟨7511, 7512, "t"⟩, ⟨7515, 7515, "v"⟩, ⟨7522, 7522, "i"⟩,
  ⟨7523, 7523, "r"⟩, ⟨7524, 7525, "u"⟩, ⟨7580, 7580, "c"⟩, ⟨7584, 7584, "f"⟩, ⟨7611, 7611, "z"⟩,
  ⟨8175, 8175, "\x60"⟩, ⟨8252, 8252, "!!"⟩, ⟨8304, 8304, "0"⟩, ⟨8305, 8305, "i"⟩,
  ⟨8308, 8313, "4"⟩, ⟨8314, 8314, "+"⟩, ⟨8316, 8316, "="⟩, ⟨8317, 8318, "("⟩, ⟨8319, 8319, "n"⟩,
  ⟨8320, 8329, "0"⟩, ⟨8330, 8330, "+"⟩, ⟨8332, 8332, "="⟩, ⟨8333, 8334, "("⟩, ⟨8336, 8336, "a"⟩,
  ⟨8337, 8337, "e"⟩, ⟨8338, 8338, "o"⟩, ⟨8339, 8339, "x"⟩, ⟨8341, 8341, "h"⟩, ⟨8342, 8345, "k"⟩,
  ⟨8346, 8346, "p"⟩, ⟨8347, 8348, "s"⟩, ⟨8360, 8360, "rs"⟩, ⟨8450, 8450, "c"⟩, ⟨8458, 8459, "g"⟩,
  ⟨8460, 8460, "h"⟩, ⟨8461, 8461, "h"⟩, ⟨8462, 8462, "h"⟩, ⟨8464, 8464, "i"⟩, ⟨8465, 8465, "i"⟩,
  ⟨8466, 8466, "l"⟩, ⟨8467, 8467, "l"⟩, ⟨8469, 8469, "n"⟩, ⟨8470, 8470, "no"⟩, ⟨8473, 8475, "p"⟩,
  ⟨8476, 8476, "r"⟩, ⟨8477, 8477, "r"⟩, ⟨8480, 8480, "sm"⟩, ⟨8481, 8481, "tel"⟩,
  ⟨8482, 8482, "tm"⟩, ⟨8484, 8484, "z"⟩, ⟨8488, 8488, "z"⟩, ⟨8492, 8493, "b"⟩, ⟨8495, 8495, "e"⟩,
  ⟨8496, 8497, "e"⟩, ⟨8499, 8499, "m"⟩, ⟨8500, 8500, "o"⟩, ⟨8505, 8505, "i"⟩, ⟨8507, 8507, "fax"⟩,
  ⟨8517, 8517, "d"⟩, ⟨8518, 8519, "d"⟩, ⟨8520, 8521, "i"⟩, ⟨8544, 8544, "i"⟩, ⟨8545, 8545, "ii"⟩,
  ⟨8546, 8546, "iii"⟩, ⟨8547, 8547, "iv"⟩, ⟨8548, 8548, "v"⟩, ⟨8549, 8549, "vi"⟩,
  ⟨8550, 8550, "vii"⟩, ⟨8551, 8551, "viii"⟩, ⟨8552, 8552, "ix"⟩, ⟨8553, 8553, "x"⟩,
  ⟨8554, 8554, "xi"⟩, ⟨8555, 8555, "xii"⟩, ⟨8556, 8556, "l"⟩, ⟨8557, 8558, "c"⟩, ⟨8559, 8559, "m"⟩,
  ⟨8560, 8560, "i"⟩, ⟨8561, 8561, "ii"⟩, ⟨8562, 8562, "iii"⟩, ⟨8563, 8563, "iv"⟩,
  ⟨8564, 8564, "v"⟩, ⟨8565, 8565, "vi"⟩, ⟨8566, 8566, "vii"⟩, ⟨8567, 8567, "viii"⟩,
  ⟨8568, 8568, "ix"⟩, ⟨8569, 8569, "x"⟩, ⟨8570, 8570, "xi"⟩, ⟨8571, 8571, "xii"⟩,
  ⟨8572, 8572, "l"⟩, ⟨8573, 8574, "c"⟩, ⟨8575, 8575, "m"⟩, ⟨9312, 9320, "1"⟩, ⟨9321, 9330, "10"⟩,
  ⟨9331, 9331, "20"⟩, ⟨9332, 9332, "(1)"⟩, ⟨9333, 9333, "(2)"⟩, ⟨9334, 9334, "(3)"⟩,
  ⟨9335, 9335, "(4)"⟩, ⟨9336, 9336, "(5)"⟩, ⟨9337, 9337, "(6)"⟩, ⟨9338, 9338, "(7)"⟩,
  ⟨9339, 9339, "(8)"⟩, ⟨9340, 9340, "(9)"⟩, ⟨9341, 9341, "(10)"⟩, ⟨9342, 9342, "(11)"⟩,
  ⟨9343, 9343, "(12)"⟩, ⟨9344, 9344, "(13)"⟩, ⟨9345, 9345, "(14)"⟩, ⟨9346, 9346, "(15)"⟩,
  ⟨9347, 9347, "(16)"⟩, ⟨9348, 9348, "(17)"⟩, ⟨9349, 9349, "(18)"⟩, ⟨9350, 9350, "(19)"⟩,
  ⟨9351, 9351, "(20)"⟩, ⟨9372, 9372, "(a)"⟩, ⟨9373, 9373, "(b)"⟩, ⟨9374, 9374, "(c)"⟩,
  ⟨9375, 9375, "(d)"⟩, ⟨9376, 9376, "(e)"⟩, ⟨9377, 9377, "(f)"⟩, ⟨9378, 9378, "(g)"⟩,
  ⟨9379, 9379, "(h)"⟩, ⟨9380, 9380, "(i)"⟩, ⟨9381, 9381, "(j)"⟩, ⟨9382, 9382, "(k)"⟩,
  ⟨9383, 9383, "(l)"⟩, ⟨9384, 9384, "(m)"⟩, ⟨9385, 9385, "(n)"⟩, ⟨9386, 9386, "(o)"⟩,
  ⟨9387, 9387, "(p)"⟩, ⟨9388, 9388, "(q)"⟩, ⟨9389, 9389, "(r)"⟩, ⟨9390, 9390, "(s)"⟩,
  ⟨9391, 9391, "(t)"⟩, ⟨9392, 9392, "(u)"⟩, ⟨9393, 9393, "(v)"⟩, ⟨9394, 9394, "(w)"⟩,
  ⟨9395, 9395, "(x)"⟩, ⟨9396, 9396, "(y)"⟩, ⟨9397, 9397, "(z)"⟩, ⟨9398, 9423, "a"⟩,
  ⟨9424, 9449, "a"⟩, ⟨9450, 9450, "0"⟩, ⟨10869, 10869, "=="⟩, ⟨10870, 10870, "==="⟩,
  ⟨11388, 11388, "j"⟩, ⟨11389, 11389, "v"⟩, ⟨12290, 12290, "."⟩, ⟨12880, 12880, "pte"⟩,
  ⟨12881, 12889, "21"⟩, ⟨12890, 12895, "30"⟩, ⟨12977, 12980, "36"⟩, ⟨12981, 12990, "40"⟩,
  ⟨12991, 12991, "50"⟩, ⟨13004, 13004, "hg"⟩, ⟨13005, 13005, "erg"⟩, ⟨13006, 13006, "ev"⟩,
  ⟨13007, 13007, "ltd"⟩, ⟨13169, 13169, "hpa"⟩, ⟨13170, 13170, "da"⟩, ⟨13171, 13171, "au"⟩,
  ⟨13172, 13172, "bar"⟩, ⟨13173, 13173, "ov"⟩, ⟨13174, 13174, "pc"⟩, ⟨13175, 13175, "dm"⟩,
  ⟨13176, 13177, "dm2"⟩, ⟨13178, 13178, "iu"⟩, ⟨13184, 13184, "pa"⟩, ⟨13185, 13185, "na"⟩,
  ⟨13187, 13187, "ma"⟩, ⟨13188, 13189, "ka"⟩, ⟨13190, 13190, "mb"⟩, ⟨13191, 13191, "gb"⟩,
  ⟨13192, 13192, "cal"⟩, ⟨13193, 13193, "kcal"⟩, ⟨13194, 13194, "pf"⟩, ⟨13195, 13195, "nf"⟩,
  ⟨13198, 13198, "mg"⟩, ⟨13199, 13199, "kg"⟩, ⟨13200, 13200, "hz"⟩, ⟨13201, 13201, "khz"⟩,
  ⟨13202, 13202, "mhz"⟩, ⟨13203, 13203, "ghz"⟩, ⟨13204, 13204, "thz"⟩, ⟨13206, 13206, "ml"⟩,
  ⟨13207, 13207, "dl"⟩, ⟨13208, 13208, "kl"⟩, ⟨13209, 13209, "fm"⟩, ⟨13210, 13210, "nm"⟩,
  ⟨13212, 13212, "mm"⟩, ⟨13213, 13213, "cm"⟩, ⟨13214, 13214, "km"⟩, ⟨13215, 13215, "mm2"⟩,
  ⟨13216, 13216, "cm2"⟩, ⟨13217, 13217, "m2"⟩, ⟨13218, 13218, "km2"⟩, ⟨13219, 13219, "mm3"⟩,
  ⟨13220, 13220, "cm3"⟩, ⟨13221, 13221, "m3"⟩, ⟨13222, 13222, "km3"⟩, ⟨13225, 13225, "pa"⟩,
  ⟨13226, 13226, "kpa"⟩, ⟨13227, 13227, "mpa"⟩, ⟨13228, 13228, "gpa"⟩, ⟨13229, 13229, "rad"⟩,
  ⟨13232, 13232, "ps"⟩, ⟨13233, 13233, "ns"⟩, ⟨13235, 13235, "ms"⟩, ⟨13236, 13236, "pv"⟩,
  ⟨13237, 13237, "nv"⟩, ⟨13239, 13239, "mv"⟩, ⟨13240, 13240, "kv"⟩, ⟨13241, 13241, "mv"⟩,
  ⟨13242, 13242, "pw"⟩, ⟨13243, 13243, "nw"⟩, ⟨13245, 13245, "mw"⟩, ⟨13246, 13246, "kw"⟩,
  ⟨13247, 13247, "mw"⟩, ⟨13251, 13251, "bq"⟩, ⟨13252, 13253, "cc"⟩, ⟨13256, 13256, "db"⟩,
  ⟨13257, 13257, "gy"⟩, ⟨13258, 13258, "ha"⟩, ⟨13259, 13259, "hp"⟩, ⟨13260, 13260, "in"⟩,
  ⟨13261, 13261, "kk"⟩, ⟨13262, 13262, "km"⟩, ⟨13263, 13263, "kt"⟩, ⟨13264, 13265, "lm"⟩,
  ⟨13266, 13266, "log"⟩, ⟨13267, 13267, "lx"⟩, ⟨13268, 13268, "mb"⟩, ⟨13269, 13269, "mil"⟩,
  ⟨13270, 13270, "mol"⟩, ⟨13271, 13271, "ph"⟩, ⟨13273, 13273, "ppm"⟩, ⟨13274, 13274, "pr"⟩,
  ⟨13275, 13275, "sr"⟩, ⟨13276, 13276, "sv"⟩, ⟨13277, 13277, "wb"⟩, ⟨13311, 13311, "gal"⟩,
  ⟨42994, 42994, "c"⟩, ⟨42995, 42995, "f"⟩, ⟨42996, 42996, "q"⟩, ⟨64256, 64256, "ff"⟩,
  ⟨64257, 64257, "fi"⟩, ⟨64258, 64258, "fl"⟩, ⟨64259, 64259, "ffi"⟩, ⟨64260, 64260, "ffl"⟩,
  ⟨64261, 64261, "st"⟩, ⟨64262, 64262, "st"⟩, ⟨64297, 64297, "+"⟩, ⟨65040, 65040, ","⟩,
  ⟨65044, 65044, ";"⟩, ⟨65045, 65045, "!"⟩, ⟨65075, 65075, "_"⟩, ⟨65076, 65076, "_"⟩,
  ⟨65077, 65078, "("⟩, ⟨65079, 65079, "\x7b"⟩, ⟨65080, 65080, "\x7d"⟩, ⟨65101, 65101, "_"⟩,
  ⟨65102, 65102, "_"⟩, ⟨65103, 65103, "_"⟩, ⟨65104, 65104, ","⟩, ⟨65108, 65108, ";"⟩,
  ⟨65111, 65111, "!"⟩, ⟨65113, 65114, "("⟩, ⟨65115, 65115, "\x7b"⟩, ⟨65116, 65116, "\x7d"⟩,
  ⟨65120, 65120, "&"⟩, ⟨65121, 65122, "*"⟩, ⟨65123, 65123, "-"⟩, ⟨65126, 65126, "="⟩,
  ⟨65129, 65129, "$"⟩, ⟨65281, 65282, "!"⟩, ⟨65284, 65284, "$"⟩, ⟨65286, 65294, "&"⟩,
  ⟨65296, 65305, "0"⟩, ⟨65307, 65307, ";"⟩, ⟨65309, 65309, "="⟩, ⟨65313, 65338, "a"⟩,
  ⟨65343, 65371, "_"⟩, ⟨65373, 65374, "\x7d"⟩, ⟨65377, 65377, "."⟩, ⟨67493, 67493, "q"⟩,
  ⟨117974, 117999, "a"⟩, ⟨118000, 118009, "0"⟩, ⟨119808, 119833, "a"⟩, ⟨119834, 119859, "a"⟩,
  ⟨119860, 119885, "a"⟩, ⟨119886, 119892, "a"⟩, ⟨119894, 119911, "i"⟩, ⟨119912, 119937, "a"⟩,
  ⟨119938, 119963, "a"⟩, ⟨119964, 119964, "a"⟩, ⟨119966, 119967, "c"⟩, ⟨119970, 119970, "g"⟩,
  ⟨119973, 119974, "j"⟩, ⟨119977, 119980, "n"⟩, ⟨119982, 119989, "s"⟩, ⟨119990, 119993, "a"⟩,
  ⟨119995, 119995, "f"⟩, ⟨119997, 120003, "h"⟩, ⟨120005, 120015, "p"⟩, ⟨120016, 120041, "a"⟩,
  ⟨120042, 120067, "a"⟩, ⟨120068, 120069, "a"⟩, ⟨120071, 120074, "d"⟩, ⟨120077, 120084, "j"⟩,
  ⟨120086, 120092, "s"⟩, ⟨120094, 120119, "a"⟩, ⟨120120, 120121, "a"⟩, ⟨120123, 120126, "d"⟩,
  ⟨120128, 120132, "i"⟩, ⟨120134, 120134, "o"⟩, ⟨120138, 120144, "s"⟩, ⟨120146, 120171, "a"⟩,
  ⟨120172, 120197, "a"⟩, ⟨120198, 120223, "a"⟩, ⟨120224, 120249, "a"⟩, ⟨120250, 120275, "a"⟩,
  ⟨120276, 120301, "a"⟩, ⟨120302, 120327, "a"⟩, ⟨120328, 120353, "a"⟩, ⟨120354, 120379, "a"⟩,
  ⟨120380, 120405, "a"⟩, ⟨120406, 120431, "a"⟩, ⟨120432, 120457, "a"⟩, ⟨120458, 120483, "a"⟩,
  ⟨120782, 120791, "0"⟩, ⟨120792, 120801, "0"⟩, ⟨120802, 120811, "0"⟩, ⟨120812, 120821, "0"⟩,
  ⟨120822, 120831, "0"⟩, ⟨127233, 127233, "0,"⟩, ⟨127234, 127234, "1,"⟩, ⟨127235, 127235, "2,"⟩,
  ⟨127236, 127236, "3,"⟩, ⟨127237, 127237, "4,"⟩, ⟨127238, 127238, "5,"⟩, ⟨127239, 127239, "6,"⟩,
  ⟨127240, 127240, "7,"⟩, ⟨127241, 127241, "8,"⟩, ⟨127242, 127242, "9,"⟩, ⟨127248, 127248, "(a)"⟩,
  ⟨127249, 127249, "(b)"⟩, ⟨127250, 127250, "(c)"⟩, ⟨127251, 127251, "(d)"⟩,
  ⟨127252, 127252, "(e)"⟩, ⟨127253, 127253, "(f)"⟩, ⟨127254, 127254, "(g)"⟩,
  ⟨127255, 127255, "(h)"⟩, ⟨127256, 127256, "(i)"⟩, ⟨127257, 127257, "(j)"⟩,
  ⟨127258, 127258, "(k)"⟩, ⟨127259, 127259, "(l)"⟩, ⟨127260, 127260, "(m)"⟩,
  ⟨127261, 127261, "(n)"⟩, ⟨127262, 127262, "(o)"⟩, ⟨127263, 127263, "(p)"⟩,
  ⟨127264, 127264, "(q)"⟩, ⟨127265, 127265, "(r)"⟩, ⟨127266, 127266, "(s)"⟩,
  ⟨127267, 127267, "(t)"⟩, ⟨127268, 127268, "(u)"⟩, ⟨127269, 127269, "(v)"⟩,
  ⟨127270, 127270, "(w)"⟩, ⟨127271, 127271, "(x)"⟩, ⟨127272, 127272, "(y)"⟩,
  ⟨127273, 127273, "(z)"⟩, ⟨127275, 127275, "c"⟩, ⟨127276, 127276, "r"⟩, ⟨127277, 127277, "cd"⟩,
  ⟨127278, 127278, "wz"⟩, ⟨127280, 127305, "a"⟩, ⟨127306, 127306, "hv"⟩, ⟨127307, 127307, "mv"⟩,
  ⟨127308, 127308, "sd"⟩, ⟨127309, 127309, "ss"⟩, ⟨127310, 127310, "ppv"⟩, ⟨127311, 127311, "wc"⟩,
  ⟨127338, 127339, "mc"⟩, ⟨127340, 127340, "mr"⟩, ⟨127376, 127376, "dj"⟩, ⟨130032, 130041, "0"⟩]

/-- The ASCII text that a character is another shape of. -/
def plainForm? (c : Char) : Option (List Char) :=
  (plainForms.find? fun run => run.first ≤ c.toNat && c.toNat ≤ run.last).map fun run =>
    run.nth (c.toNat - run.first)

/-- Characters that leave no trace when they are read: soft hyphens, joiners of words and
selectors of a variant. -/
def traceless : CharSet := [
  ⟨173, 173, 1⟩, ⟨847, 847, 1⟩, ⟨6155, 6157, 1⟩, ⟨6159, 6159, 1⟩, ⟨8203, 8203, 1⟩, ⟨8288, 8288, 1⟩,
  ⟨8292, 8292, 1⟩, ⟨65024, 65039, 1⟩, ⟨65279, 65279, 1⟩, ⟨113824, 113827, 1⟩, ⟨917760, 917999, 1⟩]

/-- Shapes of texts with a space, with a mark that separates parts of an address or with a full
stop, and characters that stand for no text. -/
def unreadableForms : CharSet := [
  ⟨168, 168, 1⟩, ⟨175, 175, 1⟩, ⟨180, 180, 1⟩, ⟨184, 184, 1⟩, ⟨728, 733, 1⟩, ⟨890, 890, 1⟩,
  ⟨900, 901, 1⟩, ⟨6068, 6069, 1⟩, ⟨6150, 6150, 1⟩, ⟨8125, 8125, 1⟩, ⟨8127, 8129, 1⟩,
  ⟨8141, 8143, 1⟩, ⟨8157, 8159, 1⟩, ⟨8173, 8174, 1⟩, ⟨8189, 8190, 1⟩, ⟨8215, 8215, 1⟩,
  ⟨8228, 8230, 1⟩, ⟨8254, 8254, 1⟩, ⟨8263, 8265, 1⟩, ⟨8448, 8449, 1⟩, ⟨8453, 8454, 1⟩,
  ⟨9352, 9371, 1⟩, ⟨10868, 10868, 1⟩, ⟨12443, 12444, 1⟩, ⟨13250, 13250, 1⟩, ⟨13255, 13255, 1⟩,
  ⟨13272, 13272, 1⟩, ⟨64606, 64611, 1⟩, ⟨65018, 65019, 1⟩, ⟨65042, 65043, 1⟩, ⟨65046, 65046, 1⟩,
  ⟨65049, 65049, 1⟩, ⟨65072, 65072, 1⟩, ⟨65095, 65100, 1⟩, ⟨65106, 65106, 1⟩, ⟨65109, 65110, 1⟩,
  ⟨65119, 65119, 1⟩, ⟨65124, 65125, 1⟩, ⟨65128, 65128, 1⟩, ⟨65130, 65131, 1⟩, ⟨65136, 65150, 2⟩,
  ⟨65283, 65285, 2⟩, ⟨65295, 65295, 1⟩, ⟨65306, 65308, 2⟩, ⟨65310, 65312, 1⟩, ⟨65339, 65342, 1⟩,
  ⟨65372, 65372, 1⟩, ⟨65507, 65507, 1⟩, ⟨65532, 65533, 1⟩, ⟨127232, 127232, 1⟩]

end Catalogue.Text
