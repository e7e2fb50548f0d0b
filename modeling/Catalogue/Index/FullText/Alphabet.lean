import Catalogue.Text.CaseShift

/-! The alphabet of the full-text index: which characters make up tokens, which
accents vanish inside a token, and what letters are folded to. Letters and
digits make tokens, case is folded and accents on Latin letters are dropped. -/
namespace Catalogue.Index.FullText
open Catalogue.Text

/-- Characters that make up tokens. -/
def tokenCharacters : CharSet := [
  ⟨48, 57, 1⟩, ⟨65, 90, 1⟩, ⟨97, 122, 1⟩, ⟨170, 170, 1⟩, ⟨178, 179, 1⟩, ⟨181, 181, 1⟩,
  ⟨185, 186, 1⟩, ⟨188, 190, 1⟩, ⟨192, 214, 1⟩, ⟨216, 246, 1⟩, ⟨248, 705, 1⟩, ⟨710, 721, 1⟩,
  ⟨736, 740, 1⟩, ⟨748, 750, 2⟩, ⟨880, 884, 1⟩, ⟨886, 893, 1⟩, ⟨895, 899, 1⟩, ⟨902, 902, 1⟩,
  ⟨904, 1013, 1⟩, ⟨1015, 1153, 1⟩, ⟨1162, 1369, 1⟩, ⟨1376, 1416, 1⟩, ⟨1419, 1422, 1⟩,
  ⟨1424, 1424, 1⟩, ⟨1480, 1522, 1⟩, ⟨1525, 1535, 1⟩, ⟨1541, 1541, 1⟩, ⟨1564, 1565, 1⟩,
  ⟨1568, 1610, 1⟩, ⟨1632, 1641, 1⟩, ⟨1646, 1647, 1⟩, ⟨1649, 1747, 1⟩, ⟨1749, 1749, 1⟩,
  ⟨1765, 1766, 1⟩, ⟨1774, 1788, 1⟩, ⟨1791, 1791, 1⟩, ⟨1806, 1808, 2⟩, ⟨1810, 1839, 1⟩,
  ⟨1867, 1957, 1⟩, ⟨1969, 2026, 1⟩, ⟨2036, 2037, 1⟩, ⟨2042, 2069, 1⟩, ⟨2074, 2074, 1⟩,
  ⟨2084, 2084, 1⟩, ⟨2088, 2088, 1⟩, ⟨2094, 2095, 1⟩, ⟨2111, 2136, 1⟩, ⟨2140, 2141, 1⟩,
  ⟨2143, 2275, 1⟩, ⟨2303, 2303, 1⟩, ⟨2308, 2361, 1⟩, ⟨2365, 2365, 1⟩, ⟨2384, 2384, 1⟩,
  ⟨2392, 2401, 1⟩, ⟨2406, 2415, 1⟩, ⟨2417, 2432, 1⟩, ⟨2436, 2491, 1⟩, ⟨2493, 2493, 1⟩,
  ⟨2501, 2502, 1⟩, ⟨2505, 2506, 1⟩, ⟨2510, 2518, 1⟩, ⟨2520, 2529, 1⟩, ⟨2532, 2545, 1⟩,
  ⟨2548, 2553, 1⟩, ⟨2556, 2560, 1⟩, ⟨2564, 2619, 1⟩, ⟨2621, 2621, 1⟩, ⟨2627, 2630, 1⟩,
  ⟨2633, 2634, 1⟩, ⟨2638, 2640, 1⟩, ⟨2642, 2671, 1⟩, ⟨2674, 2676, 1⟩, ⟨2678, 2688, 1⟩,
  ⟨2692, 2747, 1⟩, ⟨2749, 2749, 1⟩, ⟨2758, 2758, 1⟩, ⟨2762, 2762, 1⟩, ⟨2766, 2785, 1⟩,
  ⟨2788, 2799, 1⟩, ⟨2802, 2816, 1⟩, ⟨2820, 2875, 1⟩, ⟨2877, 2877, 1⟩, ⟨2885, 2886, 1⟩,
  ⟨2889, 2890, 1⟩, ⟨2894, 2901, 1⟩, ⟨2904, 2913, 1⟩, ⟨2916, 2927, 1⟩, ⟨2929, 2945, 1⟩,
  ⟨2947, 3005, 1⟩, ⟨3011, 3013, 1⟩, ⟨3017, 3017, 1⟩, ⟨3022, 3030, 1⟩, ⟨3032, 3058, 1⟩,
  ⟨3067, 3072, 1⟩, ⟨3076, 3133, 1⟩, ⟨3141, 3141, 1⟩, ⟨3145, 3145, 1⟩, ⟨3150, 3156, 1⟩,
  ⟨3159, 3169, 1⟩, ⟨3172, 3198, 1⟩, ⟨3200, 3201, 1⟩, ⟨3204, 3259, 1⟩, ⟨3261, 3261, 1⟩,
  ⟨3269, 3269, 1⟩, ⟨3273, 3273, 1⟩, ⟨3278, 3284, 1⟩, ⟨3287, 3297, 1⟩, ⟨3300, 3329, 1⟩,
  ⟨3332, 3389, 1⟩, ⟨3397, 3397, 1⟩, ⟨3401, 3401, 1⟩, ⟨3406, 3414, 1⟩, ⟨3416, 3425, 1⟩,
  ⟨3428, 3448, 1⟩, ⟨3450, 3457, 1⟩, ⟨3460, 3529, 1⟩, ⟨3531, 3534, 1⟩, ⟨3541, 3543, 2⟩,
  ⟨3552, 3569, 1⟩, ⟨3573, 3632, 1⟩, ⟨3634, 3635, 1⟩, ⟨3643, 3646, 1⟩, ⟨3648, 3654, 1⟩,
  ⟨3664, 3673, 1⟩, ⟨3676, 3760, 1⟩, ⟨3762, 3763, 1⟩, ⟨3770, 3770, 1⟩, ⟨3773, 3783, 1⟩,
  ⟨3790, 3840, 1⟩, ⟨3872, 3891, 1⟩, ⟨3904, 3952, 1⟩, ⟨3976, 3980, 1⟩, ⟨3992, 3992, 1⟩,
  ⟨4029, 4029, 1⟩, ⟨4045, 4045, 1⟩, ⟨4059, 4138, 1⟩, ⟨4159, 4169, 1⟩, ⟨4176, 4181, 1⟩,
  ⟨4186, 4189, 1⟩, ⟨4193, 4193, 1⟩, ⟨4197, 4198, 1⟩, ⟨4206, 4208, 1⟩, ⟨4213, 4225, 1⟩,
  ⟨4238, 4238, 1⟩, ⟨4240, 4249, 1⟩, ⟨4256, 4346, 1⟩, ⟨4348, 4956, 1⟩, ⟨4969, 5007, 1⟩,
  ⟨5018, 5119, 1⟩, ⟨5121, 5740, 1⟩, ⟨5743, 5759, 1⟩, ⟨5761, 5786, 1⟩, ⟨5789, 5866, 1⟩,
  ⟨5870, 5905, 1⟩, ⟨5909, 5937, 1⟩, ⟨5943, 5969, 1⟩, ⟨5972, 6001, 1⟩, ⟨6004, 6067, 1⟩,
  ⟨6103, 6103, 1⟩, ⟨6108, 6108, 1⟩, ⟨6110, 6143, 1⟩, ⟨6159, 6312, 1⟩, ⟨6314, 6431, 1⟩,
  ⟨6444, 6447, 1⟩, ⟨6460, 6463, 1⟩, ⟨6465, 6467, 1⟩, ⟨6470, 6575, 1⟩, ⟨6593, 6599, 1⟩,
  ⟨6602, 6621, 1⟩, ⟨6656, 6678, 1⟩, ⟨6684, 6685, 1⟩, ⟨6688, 6740, 1⟩, ⟨6751, 6751, 1⟩,
  ⟨6781, 6782, 1⟩, ⟨6784, 6815, 1⟩, ⟨6823, 6823, 1⟩, ⟨6830, 6911, 1⟩, ⟨6917, 6963, 1⟩,
  ⟨6981, 7001, 1⟩, ⟨7037, 7039, 1⟩, ⟨7043, 7072, 1⟩, ⟨7086, 7141, 1⟩, ⟨7156, 7163, 1⟩,
  ⟨7168, 7203, 1⟩, ⟨7224, 7226, 1⟩, ⟨7232, 7293, 1⟩, ⟨7296, 7359, 1⟩, ⟨7368, 7375, 1⟩,
  ⟨7401, 7404, 1⟩, ⟨7406, 7409, 1⟩, ⟨7413, 7615, 1⟩, ⟨7655, 7675, 1⟩, ⟨7680, 8124, 1⟩,
  ⟨8126, 8126, 1⟩, ⟨8130, 8140, 1⟩, ⟨8144, 8156, 1⟩, ⟨8160, 8172, 1⟩, ⟨8176, 8188, 1⟩,
  ⟨8191, 8191, 1⟩, ⟨8293, 8297, 1⟩, ⟨8304, 8313, 1⟩, ⟨8319, 8329, 1⟩, ⟨8335, 8351, 1⟩,
  ⟨8378, 8399, 1⟩, ⟨8433, 8447, 1⟩, ⟨8450, 8450, 1⟩, ⟨8455, 8455, 1⟩, ⟨8458, 8467, 1⟩,
  ⟨8469, 8469, 1⟩, ⟨8473, 8477, 1⟩, ⟨8484, 8488, 2⟩, ⟨8490, 8493, 1⟩, ⟨8495, 8505, 1⟩,
  ⟨8508, 8511, 1⟩, ⟨8517, 8521, 1⟩, ⟨8526, 8526, 1⟩, ⟨8528, 8591, 1⟩, ⟨9204, 9215, 1⟩,
  ⟨9255, 9279, 1⟩, ⟨9291, 9371, 1⟩, ⟨9450, 9471, 1⟩, ⟨9984, 9984, 1⟩, ⟨10102, 10131, 1⟩,
  ⟨11085, 11087, 1⟩, ⟨11098, 11492, 1⟩, ⟨11499, 11502, 1⟩, ⟨11506, 11512, 1⟩, ⟨11517, 11517, 1⟩,
  ⟨11520, 11631, 1⟩, ⟨11633, 11646, 1⟩, ⟨11648, 11743, 1⟩, ⟨11823, 11823, 1⟩, ⟨11836, 11903, 1⟩,
  ⟨11930, 11930, 1⟩, ⟨12020, 12031, 1⟩, ⟨12246, 12271, 1⟩, ⟨12284, 12287, 1⟩, ⟨12293, 12295, 1⟩,
  ⟨12321, 12329, 1⟩, ⟨12337, 12341, 1⟩, ⟨12344, 12348, 1⟩, ⟨12352, 12440, 1⟩, ⟨12445, 12447, 1⟩,
  ⟨12449, 12538, 1⟩, ⟨12540, 12687, 1⟩, ⟨12690, 12693, 1⟩, ⟨12704, 12735, 1⟩, ⟨12772, 12799, 1⟩,
  ⟨12831, 12841, 1⟩, ⟨12872, 12879, 1⟩, ⟨12881, 12895, 1⟩, ⟨12928, 12937, 1⟩, ⟨12977, 12991, 1⟩,
  ⟨13055, 13055, 1⟩, ⟨13312, 19903, 1⟩, ⟨19968, 42127, 1⟩, ⟨42183, 42237, 1⟩, ⟨42240, 42508, 1⟩,
  ⟨42512, 42606, 1⟩, ⟨42623, 42654, 1⟩, ⟨42656, 42735, 1⟩, ⟨42744, 42751, 1⟩, ⟨42775, 42783, 1⟩,
  ⟨42786, 42888, 1⟩, ⟨42891, 43009, 1⟩, ⟨43011, 43013, 1⟩, ⟨43015, 43018, 1⟩, ⟨43020, 43042, 1⟩,
  ⟨43052, 43061, 1⟩, ⟨43066, 43123, 1⟩, ⟨43128, 43135, 1⟩, ⟨43138, 43187, 1⟩, ⟨43205, 43213, 1⟩,
  ⟨43216, 43231, 1⟩, ⟨43250, 43255, 1⟩, ⟨43259, 43301, 1⟩, ⟨43312, 43334, 1⟩, ⟨43348, 43358, 1⟩,
  ⟨43360, 43391, 1⟩, ⟨43396, 43442, 1⟩, ⟨43470, 43485, 1⟩, ⟨43488, 43560, 1⟩, ⟨43575, 43586, 1⟩,
  ⟨43588, 43595, 1⟩, ⟨43598, 43611, 1⟩, ⟨43616, 43638, 1⟩, ⟨43642, 43642, 1⟩, ⟨43644, 43695, 1⟩,
  ⟨43697, 43697, 1⟩, ⟨43701, 43702, 1⟩, ⟨43705, 43709, 1⟩, ⟨43712, 43712, 1⟩, ⟨43714, 43741, 1⟩,
  ⟨43744, 43754, 1⟩, ⟨43762, 43764, 1⟩, ⟨43767, 44002, 1⟩, ⟨44014, 55295, 1⟩, ⟨57344, 64285, 1⟩,
  ⟨64287, 64296, 1⟩, ⟨64298, 64433, 1⟩, ⟨64450, 64829, 1⟩, ⟨64832, 65019, 1⟩, ⟨65022, 65023, 1⟩,
  ⟨65050, 65055, 1⟩, ⟨65063, 65071, 1⟩, ⟨65107, 65107, 1⟩, ⟨65127, 65127, 1⟩, ⟨65132, 65278, 1⟩,
  ⟨65280, 65280, 1⟩, ⟨65296, 65305, 1⟩, ⟨65313, 65338, 1⟩, ⟨65345, 65370, 1⟩, ⟨65382, 65503, 1⟩,
  ⟨65511, 65511, 1⟩, ⟨65519, 65528, 1⟩, ⟨65536, 65791, 1⟩, ⟨65795, 65846, 1⟩, ⟨65856, 65912, 1⟩,
  ⟨65930, 65935, 1⟩, ⟨65948, 65999, 1⟩, ⟨66046, 66462, 1⟩, ⟨66464, 66511, 1⟩, ⟨66513, 67670, 1⟩,
  ⟨67672, 67870, 1⟩, ⟨67872, 67902, 1⟩, ⟨67904, 68096, 1⟩, ⟨68100, 68100, 1⟩, ⟨68103, 68107, 1⟩,
  ⟨68112, 68151, 1⟩, ⟨68155, 68158, 1⟩, ⟨68160, 68175, 1⟩, ⟨68185, 68222, 1⟩, ⟨68224, 68408, 1⟩,
  ⟨68416, 69631, 1⟩, ⟨69635, 69687, 1⟩, ⟨69710, 69759, 1⟩, ⟨69763, 69807, 1⟩, ⟨69826, 69887, 1⟩,
  ⟨69891, 69926, 1⟩, ⟨69941, 69951, 1⟩, ⟨69956, 70015, 1⟩, ⟨70019, 70066, 1⟩, ⟨70081, 70084, 1⟩,
  ⟨70089, 71338, 1⟩, ⟨71352, 74863, 1⟩, ⟨74868, 94032, 1⟩, ⟨94079, 94094, 1⟩, ⟨94099, 118783, 1⟩,
  ⟨119030, 119039, 1⟩, ⟨119079, 119080, 1⟩, ⟨119262, 119295, 1⟩, ⟨119366, 119551, 1⟩,
  ⟨119639, 120512, 1⟩, ⟨120514, 120538, 1⟩, ⟨120540, 120570, 1⟩, ⟨120572, 120596, 1⟩,
  ⟨120598, 120628, 1⟩, ⟨120630, 120654, 1⟩, ⟨120656, 120686, 1⟩, ⟨120688, 120712, 1⟩,
  ⟨120714, 120744, 1⟩, ⟨120746, 120770, 1⟩, ⟨120772, 126703, 1⟩, ⟨126706, 126975, 1⟩,
  ⟨127020, 127023, 1⟩, ⟨127124, 127135, 1⟩, ⟨127151, 127152, 1⟩, ⟨127167, 127168, 1⟩,
  ⟨127184, 127184, 1⟩, ⟨127200, 127247, 1⟩, ⟨127279, 127279, 1⟩, ⟨127340, 127343, 1⟩,
  ⟨127387, 127461, 1⟩, ⟨127491, 127503, 1⟩, ⟨127547, 127551, 1⟩, ⟨127561, 127567, 1⟩,
  ⟨127570, 127743, 1⟩, ⟨127777, 127791, 1⟩, ⟨127798, 127798, 1⟩, ⟨127869, 127871, 1⟩,
  ⟨127892, 127903, 1⟩, ⟨127941, 127941, 1⟩, ⟨127947, 127967, 1⟩, ⟨127985, 127999, 1⟩,
  ⟨128063, 128065, 2⟩, ⟨128248, 128248, 1⟩, ⟨128253, 128255, 1⟩, ⟨128318, 128319, 1⟩,
  ⟨128324, 128335, 1⟩, ⟨128360, 128506, 1⟩, ⟨128577, 128580, 1⟩, ⟨128592, 128639, 1⟩,
  ⟨128710, 128767, 1⟩, ⟨128884, 917504, 1⟩, ⟨917506, 917535, 1⟩, ⟨917632, 917759, 1⟩,
  ⟨918000, 1114111, 1⟩]

/-- Combining accents that vanish inside a token and cannot start one. -/
def vanishingAccents : CharSet := [
  ⟨768, 772, 1⟩, ⟨774, 780, 1⟩, ⟨783, 785, 2⟩, ⟨795, 795, 1⟩, ⟨803, 808, 1⟩, ⟨813, 814, 1⟩,
  ⟨816, 817, 1⟩]

/-- Runs of token characters and how far away their folded forms lie. -/
def foldShifts : List CaseShift := [
  ⟨65, 90, 1, 32⟩, ⟨181, 181, 1, 775⟩, ⟨192, 192, 1, -95⟩, ⟨193, 193, 1, -96⟩, ⟨194, 194, 1, -97⟩,
  ⟨195, 195, 1, -98⟩, ⟨196, 196, 1, -99⟩, ⟨197, 197, 1, -100⟩, ⟨198, 198, 1, 32⟩,
  ⟨199, 199, 1, -100⟩, ⟨200, 200, 1, -99⟩, ⟨201, 201, 1, -100⟩, ⟨202, 202, 1, -101⟩,
  ⟨203, 203, 1, -102⟩, ⟨204, 204, 1, -99⟩, ⟨205, 205, 1, -100⟩, ⟨206, 206, 1, -101⟩,
  ⟨207, 207, 1, -102⟩, ⟨208, 208, 1, 32⟩, ⟨209, 210, 1, -99⟩, ⟨211, 211, 1, -100⟩,
  ⟨212, 212, 1, -101⟩, ⟨213, 213, 1, -102⟩, ⟨214, 214, 1, -103⟩, ⟨216, 216, 1, 32⟩,
  ⟨217, 217, 1, -100⟩, ⟨218, 218, 1, -101⟩, ⟨219, 219, 1, -102⟩, ⟨220, 220, 1, -103⟩,
  ⟨221, 221, 1, -100⟩, ⟨222, 222, 1, 32⟩, ⟨224, 224, 1, -127⟩, ⟨225, 225, 1, -128⟩,
  ⟨226, 226, 1, -129⟩, ⟨227, 227, 1, -130⟩, ⟨228, 228, 1, -131⟩, ⟨229, 231, 2, -132⟩,
  ⟨232, 232, 1, -131⟩, ⟨233, 233, 1, -132⟩, ⟨234, 234, 1, -133⟩, ⟨235, 235, 1, -134⟩,
  ⟨236, 236, 1, -131⟩, ⟨237, 237, 1, -132⟩, ⟨238, 238, 1, -133⟩, ⟨239, 239, 1, -134⟩,
  ⟨241, 242, 1, -131⟩, ⟨243, 243, 1, -132⟩, ⟨244, 244, 1, -133⟩, ⟨245, 245, 1, -134⟩,
  ⟨246, 246, 1, -135⟩, ⟨249, 249, 1, -132⟩, ⟨250, 250, 1, -133⟩, ⟨251, 251, 1, -134⟩,
  ⟨252, 252, 1, -135⟩, ⟨253, 253, 1, -132⟩, ⟨255, 255, 1, -134⟩, ⟨256, 256, 1, -159⟩,
  ⟨257, 257, 1, -160⟩, ⟨258, 258, 1, -161⟩, ⟨259, 259, 1, -162⟩, ⟨260, 260, 1, -163⟩,
  ⟨261, 261, 1, -164⟩, ⟨262, 262, 1, -163⟩, ⟨263, 263, 1, -164⟩, ⟨264, 264, 1, -165⟩,
  ⟨265, 265, 1, -166⟩, ⟨266, 266, 1, -167⟩, ⟨267, 267, 1, -168⟩, ⟨268, 268, 1, -169⟩,
  ⟨269, 270, 1, -170⟩, ⟨271, 271, 1, -171⟩, ⟨272, 272, 1, 1⟩, ⟨274, 274, 1, -173⟩,
  ⟨275, 275, 1, -174⟩, ⟨276, 276, 1, -175⟩, ⟨277, 277, 1, -176⟩, ⟨278, 278, 1, -177⟩,
  ⟨279, 279, 1, -178⟩, ⟨280, 280, 1, -179⟩, ⟨281, 281, 1, -180⟩, ⟨282, 282, 1, -181⟩,
  ⟨283, 283, 1, -182⟩, ⟨284, 284, 1, -181⟩, ⟨285, 285, 1, -182⟩, ⟨286, 286, 1, -183⟩,
  ⟨287, 287, 1, -184⟩, ⟨288, 288, 1, -185⟩, ⟨289, 289, 1, -186⟩, ⟨290, 290, 1, -187⟩,
  ⟨291, 292, 1, -188⟩, ⟨293, 293, 1, -189⟩, ⟨294, 294, 1, 1⟩, ⟨296, 296, 1, -191⟩,
  ⟨297, 297, 1, -192⟩, ⟨298, 298, 1, -193⟩, ⟨299, 299, 1, -194⟩, ⟨300, 300, 1, -195⟩,
  ⟨301, 301, 1, -196⟩, ⟨302, 302, 1, -197⟩, ⟨303, 303, 1, -198⟩, ⟨304, 304, 1, -199⟩,
  ⟨306, 306, 1, 1⟩, ⟨308, 308, 1, -202⟩, ⟨309, 310, 1, -203⟩, ⟨311, 311, 1, -204⟩,
  ⟨313, 313, 1, -205⟩, ⟨314, 314, 1, -206⟩, ⟨315, 315, 1, -207⟩, ⟨316, 316, 1, -208⟩,
  ⟨317, 317, 1, -209⟩, ⟨318, 318, 1, -210⟩, ⟨319, 321, 2, 1⟩, ⟨323, 323, 1, -213⟩,
  ⟨324, 324, 1, -214⟩, ⟨325, 325, 1, -215⟩, ⟨326, 326, 1, -216⟩, ⟨327, 327, 1, -217⟩,
  ⟨328, 328, 1, -218⟩, ⟨330, 330, 1, 1⟩, ⟨332, 332, 1, -221⟩, ⟨333, 333, 1, -222⟩,
  ⟨334, 334, 1, -223⟩, ⟨335, 335, 1, -224⟩, ⟨336, 336, 1, -225⟩, ⟨337, 337, 1, -226⟩,
  ⟨338, 338, 1, 1⟩, ⟨340, 340, 1, -226⟩, ⟨341, 341, 1, -227⟩, ⟨342, 342, 1, -228⟩,
  ⟨343, 343, 1, -229⟩, ⟨344, 344, 1, -230⟩, ⟨345, 346, 1, -231⟩, ⟨347, 347, 1, -232⟩,
  ⟨348, 348, 1, -233⟩, ⟨349, 349, 1, -234⟩, ⟨350, 350, 1, -235⟩, ⟨351, 351, 1, -236⟩,
  ⟨352, 352, 1, -237⟩, ⟨353, 354, 1, -238⟩, ⟨355, 355, 1, -239⟩, ⟨356, 356, 1, -240⟩,
  ⟨357, 357, 1, -241⟩, ⟨358, 358, 1, 1⟩, ⟨360, 360, 1, -243⟩, ⟨361, 361, 1, -244⟩,
  ⟨362, 362, 1, -245⟩, ⟨363, 363, 1, -246⟩, ⟨364, 364, 1, -247⟩, ⟨365, 365, 1, -248⟩,
  ⟨366, 366, 1, -249⟩, ⟨367, 367, 1, -250⟩, ⟨368, 368, 1, -251⟩, ⟨369, 369, 1, -252⟩,
  ⟨370, 370, 1, -253⟩, ⟨371, 371, 1, -254⟩, ⟨372, 372, 1, -253⟩, ⟨373, 373, 1, -254⟩,
  ⟨374, 374, 1, -253⟩, ⟨375, 375, 1, -254⟩, ⟨376, 377, 1, -255⟩, ⟨378, 378, 1, -256⟩,
  ⟨379, 379, 1, -257⟩, ⟨380, 380, 1, -258⟩, ⟨381, 381, 1, -259⟩, ⟨382, 382, 1, -260⟩,
  ⟨383, 383, 1, -268⟩, ⟨385, 385, 1, 210⟩, ⟨386, 388, 2, 1⟩, ⟨390, 390, 1, 206⟩, ⟨391, 391, 1, 1⟩,
  ⟨393, 394, 1, 205⟩, ⟨395, 395, 1, 1⟩, ⟨398, 398, 1, 79⟩, ⟨399, 399, 1, 202⟩, ⟨400, 400, 1, 203⟩,
  ⟨401, 401, 1, 1⟩, ⟨403, 403, 1, 205⟩, ⟨404, 404, 1, 207⟩, ⟨406, 406, 1, 211⟩, ⟨407, 407, 1, 209⟩,
  ⟨408, 408, 1, 1⟩, ⟨412, 412, 1, 211⟩, ⟨413, 413, 1, 213⟩, ⟨415, 415, 1, 214⟩,
  ⟨416, 416, 1, -305⟩, ⟨417, 417, 1, -306⟩, ⟨418, 420, 2, 1⟩, ⟨422, 422, 1, 218⟩, ⟨423, 423, 1, 1⟩,
  ⟨425, 425, 1, 218⟩, ⟨428, 428, 1, 1⟩, ⟨430, 430, 1, 218⟩, ⟨431, 431, 1, -314⟩,
  ⟨432, 432, 1, -315⟩, ⟨433, 434, 1, 217⟩, ⟨435, 437, 2, 1⟩, ⟨439, 439, 1, 219⟩, ⟨440, 440, 1, 1⟩,
  ⟨444, 444, 1, 1⟩, ⟨452, 452, 1, 2⟩, ⟨453, 453, 1, 1⟩, ⟨455, 455, 1, 2⟩, ⟨456, 456, 1, 1⟩,
  ⟨458, 458, 1, 2⟩, ⟨459, 459, 1, 1⟩, ⟨461, 461, 1, -364⟩, ⟨462, 462, 1, -365⟩,
  ⟨463, 463, 1, -358⟩, ⟨464, 464, 1, -359⟩, ⟨465, 465, 1, -354⟩, ⟨466, 466, 1, -355⟩,
  ⟨467, 467, 1, -350⟩, ⟨468, 468, 1, -351⟩, ⟨469, 475, 2, 1⟩, ⟨478, 484, 2, 1⟩,
  ⟨486, 486, 1, -383⟩, ⟨487, 487, 1, -384⟩, ⟨488, 488, 1, -381⟩, ⟨489, 489, 1, -382⟩,
  ⟨490, 490, 1, -379⟩, ⟨491, 491, 1, -380⟩, ⟨492, 494, 2, 1⟩, ⟨496, 496, 1, -390⟩,
  ⟨497, 497, 1, 2⟩, ⟨498, 498, 1, 1⟩, ⟨500, 500, 1, -397⟩, ⟨501, 501, 1, -398⟩, ⟨502, 502, 1, -97⟩,
  ⟨503, 503, 1, -56⟩, ⟨504, 504, 1, -394⟩, ⟨505, 505, 1, -395⟩, ⟨506, 510, 2, 1⟩,
  ⟨512, 512, 1, -415⟩, ⟨513, 513, 1, -416⟩, ⟨514, 514, 1, -417⟩, ⟨515, 515, 1, -418⟩,
  ⟨516, 516, 1, -415⟩, ⟨517, 517, 1, -416⟩, ⟨518, 518, 1, -417⟩, ⟨519, 519, 1, -418⟩,
  ⟨520, 520, 1, -415⟩, ⟨521, 521, 1, -416⟩, ⟨522, 522, 1, -417⟩, ⟨523, 523, 1, -418⟩,
  ⟨524, 524, 1, -413⟩, ⟨525, 525, 1, -414⟩, ⟨526, 526, 1, -415⟩, ⟨527, 527, 1, -416⟩,
  ⟨528, 528, 1, -414⟩, ⟨529, 529, 1, -415⟩, ⟨530, 530, 1, -416⟩, ⟨531, 531, 1, -417⟩,
  ⟨532, 532, 1, -415⟩, ⟨533, 533, 1, -416⟩, ⟨534, 534, 1, -417⟩, ⟨535, 535, 1, -418⟩,
  ⟨536, 536, 1, -421⟩, ⟨537, 538, 1, -422⟩, ⟨539, 539, 1, -423⟩, ⟨540, 540, 1, 1⟩,
  ⟨542, 542, 1, -438⟩, ⟨543, 543, 1, -439⟩, ⟨544, 544, 1, -130⟩, ⟨546, 548, 2, 1⟩,
  ⟨550, 550, 1, -453⟩, ⟨551, 551, 1, -454⟩, ⟨552, 552, 1, -451⟩, ⟨553, 553, 1, -452⟩,
  ⟨554, 556, 2, 1⟩, ⟨558, 558, 1, -447⟩, ⟨559, 559, 1, -448⟩, ⟨560, 560, 1, 1⟩,
  ⟨562, 562, 1, -441⟩, ⟨563, 563, 1, -442⟩, ⟨570, 570, 1, 10795⟩, ⟨571, 571, 1, 1⟩,
  ⟨573, 573, 1, -163⟩, ⟨574, 574, 1, 10792⟩, ⟨577, 577, 1, 1⟩, ⟨579, 579, 1, -195⟩,
  ⟨580, 580, 1, 69⟩, ⟨581, 581, 1, 71⟩, ⟨582, 590, 2, 1⟩, ⟨880, 882, 2, 1⟩, ⟨886, 886, 1, 1⟩,
  ⟨902, 902, 1, 38⟩, ⟨904, 906, 1, 37⟩, ⟨908, 908, 1, 64⟩, ⟨910, 911, 1, 63⟩, ⟨913, 929, 1, 32⟩,
  ⟨931, 939, 1, 32⟩, ⟨962, 962, 1, 1⟩, ⟨975, 975, 1, 8⟩, ⟨976, 976, 1, -30⟩, ⟨977, 977, 1, -25⟩,
  ⟨981, 981, 1, -15⟩, ⟨982, 982, 1, -22⟩, ⟨984, 1006, 2, 1⟩, ⟨1008, 1008, 1, -54⟩,
  ⟨1009, 1009, 1, -48⟩, ⟨1012, 1012, 1, -60⟩, ⟨1013, 1013, 1, -64⟩, ⟨1015, 1015, 1, 1⟩,
  ⟨1017, 1017, 1, -7⟩, ⟨1018, 1018, 1, 1⟩, ⟨1021, 1023, 1, -130⟩, ⟨1024, 1039, 1, 80⟩,
  ⟨1040, 1071, 1, 32⟩, ⟨1120, 1152, 2, 1⟩, ⟨1162, 1214, 2, 1⟩, ⟨1216, 1216, 1, 15⟩,
  ⟨1217, 1229, 2, 1⟩, ⟨1232, 1318, 2, 1⟩, ⟨1329, 1366, 1, 48⟩, ⟨4256, 4293, 1, 7264⟩,
  ⟨4295, 4295, 1, 7264⟩, ⟨4301, 4301, 1, 7264⟩, ⟨7680, 7680, 1, -7583⟩, ⟨7681, 7682, 1, -7584⟩,
  ⟨7683, 7683, 1, -7585⟩, ⟨7684, 7684, 1, -7586⟩, ⟨7685, 7685, 1, -7587⟩, ⟨7686, 7686, 1, -7588⟩,
  ⟨7687, 7687, 1, -7589⟩, ⟨7688, 7688, 1, 1⟩, ⟨7690, 7690, 1, -7590⟩, ⟨7691, 7691, 1, -7591⟩,
  ⟨7692, 7692, 1, -7592⟩, ⟨7693, 7693, 1, -7593⟩, ⟨7694, 7694, 1, -7594⟩, ⟨7695, 7695, 1, -7595⟩,
  ⟨7696, 7696, 1, -7596⟩, ⟨7697, 7697, 1, -7597⟩, ⟨7698, 7698, 1, -7598⟩, ⟨7699, 7699, 1, -7599⟩,
  ⟨7700, 7702, 2, 1⟩, ⟨7704, 7704, 1, -7603⟩, ⟨7705, 7705, 1, -7604⟩, ⟨7706, 7706, 1, -7605⟩,
  ⟨7707, 7707, 1, -7606⟩, ⟨7708, 7708, 1, 1⟩, ⟨7710, 7710, 1, -7608⟩, ⟨7711, 7712, 1, -7609⟩,
  ⟨7713, 7714, 1, -7610⟩, ⟨7715, 7715, 1, -7611⟩, ⟨7716, 7716, 1, -7612⟩, ⟨7717, 7717, 1, -7613⟩,
  ⟨7718, 7718, 1, -7614⟩, ⟨7719, 7719, 1, -7615⟩, ⟨7720, 7720, 1, -7616⟩, ⟨7721, 7721, 1, -7617⟩,
  ⟨7722, 7722, 1, -7618⟩, ⟨7723, 7724, 1, -7619⟩, ⟨7725, 7725, 1, -7620⟩, ⟨7726, 7726, 1, 1⟩,
  ⟨7728, 7728, 1, -7621⟩, ⟨7729, 7729, 1, -7622⟩, ⟨7730, 7730, 1, -7623⟩, ⟨7731, 7731, 1, -7624⟩,
  ⟨7732, 7732, 1, -7625⟩, ⟨7733, 7734, 1, -7626⟩, ⟨7735, 7735, 1, -7627⟩, ⟨7736, 7736, 1, 1⟩,
  ⟨7738, 7738, 1, -7630⟩, ⟨7739, 7739, 1, -7631⟩, ⟨7740, 7740, 1, -7632⟩, ⟨7741, 7742, 1, -7633⟩,
  ⟨7743, 7743, 1, -7634⟩, ⟨7744, 7744, 1, -7635⟩, ⟨7745, 7745, 1, -7636⟩, ⟨7746, 7746, 1, -7637⟩,
  ⟨7747, 7748, 1, -7638⟩, ⟨7749, 7749, 1, -7639⟩, ⟨7750, 7750, 1, -7640⟩, ⟨7751, 7751, 1, -7641⟩,
  ⟨7752, 7752, 1, -7642⟩, ⟨7753, 7753, 1, -7643⟩, ⟨7754, 7754, 1, -7644⟩, ⟨7755, 7755, 1, -7645⟩,
  ⟨7756, 7762, 2, 1⟩, ⟨7764, 7764, 1, -7652⟩, ⟨7765, 7765, 1, -7653⟩, ⟨7766, 7766, 1, -7654⟩,
  ⟨7767, 7767, 1, -7655⟩, ⟨7768, 7768, 1, -7654⟩, ⟨7769, 7769, 1, -7655⟩, ⟨7770, 7770, 1, -7656⟩,
  ⟨7771, 7771, 1, -7657⟩, ⟨7772, 7772, 1, 1⟩, ⟨7774, 7774, 1, -7660⟩, ⟨7775, 7776, 1, -7661⟩,
  ⟨7777, 7777, 1, -7662⟩, ⟨7778, 7778, 1, -7663⟩, ⟨7779, 7779, 1, -7664⟩, ⟨7780, 7784, 2, 1⟩,
  ⟨7786, 7786, 1, -7670⟩, ⟨7787, 7787, 1, -7671⟩, ⟨7788, 7788, 1, -7672⟩, ⟨7789, 7789, 1, -7673⟩,
  ⟨7790, 7790, 1, -7674⟩, ⟨7791, 7791, 1, -7675⟩, ⟨7792, 7792, 1, -7676⟩, ⟨7793, 7794, 1, -7677⟩,
  ⟨7795, 7795, 1, -7678⟩, ⟨7796, 7796, 1, -7679⟩, ⟨7797, 7797, 1, -7680⟩, ⟨7798, 7798, 1, -7681⟩,
  ⟨7799, 7799, 1, -7682⟩, ⟨7800, 7802, 2, 1⟩, ⟨7804, 7804, 1, -7686⟩, ⟨7805, 7805, 1, -7687⟩,
  ⟨7806, 7806, 1, -7688⟩, ⟨7807, 7808, 1, -7689⟩, ⟨7809, 7809, 1, -7690⟩, ⟨7810, 7810, 1, -7691⟩,
  ⟨7811, 7811, 1, -7692⟩, ⟨7812, 7812, 1, -7693⟩, ⟨7813, 7813, 1, -7694⟩, ⟨7814, 7814, 1, -7695⟩,
  ⟨7815, 7815, 1, -7696⟩, ⟨7816, 7816, 1, -7697⟩, ⟨7817, 7818, 1, -7698⟩, ⟨7819, 7819, 1, -7699⟩,
  ⟨7820, 7820, 1, -7700⟩, ⟨7821, 7822, 1, -7701⟩, ⟨7823, 7824, 1, -7702⟩, ⟨7825, 7825, 1, -7703⟩,
  ⟨7826, 7826, 1, -7704⟩, ⟨7827, 7827, 1, -7705⟩, ⟨7828, 7828, 1, -7706⟩, ⟨7829, 7829, 1, -7707⟩,
  ⟨7830, 7830, 1, -7726⟩, ⟨7831, 7831, 1, -7715⟩, ⟨7832, 7832, 1, -7713⟩, ⟨7833, 7833, 1, -7712⟩,
  ⟨7835, 7835, 1, -7720⟩, ⟨7838, 7838, 1, -7615⟩, ⟨7840, 7840, 1, -7743⟩, ⟨7841, 7841, 1, -7744⟩,
  ⟨7842, 7842, 1, -7745⟩, ⟨7843, 7843, 1, -7746⟩, ⟨7844, 7862, 2, 1⟩, ⟨7864, 7864, 1, -7763⟩,
  ⟨7865, 7865, 1, -7764⟩, ⟨7866, 7866, 1, -7765⟩, ⟨7867, 7867, 1, -7766⟩, ⟨7868, 7868, 1, -7767⟩,
  ⟨7869, 7869, 1, -7768⟩, ⟨7870, 7878, 2, 1⟩, ⟨7880, 7880, 1, -7775⟩, ⟨7881, 7881, 1, -7776⟩,
  ⟨7882, 7882, 1, -7777⟩, ⟨7883, 7883, 1, -7778⟩, ⟨7884, 7884, 1, -7773⟩, ⟨7885, 7885, 1, -7774⟩,
  ⟨7886, 7886, 1, -7775⟩, ⟨7887, 7887, 1, -7776⟩, ⟨7888, 7906, 2, 1⟩, ⟨7908, 7908, 1, -7791⟩,
  ⟨7909, 7909, 1, -7792⟩, ⟨7910, 7910, 1, -7793⟩, ⟨7911, 7911, 1, -7794⟩, ⟨7912, 7920, 2, 1⟩,
  ⟨7922, 7922, 1, -7801⟩, ⟨7923, 7923, 1, -7802⟩, ⟨7924, 7924, 1, -7803⟩, ⟨7925, 7925, 1, -7804⟩,
  ⟨7926, 7926, 1, -7805⟩, ⟨7927, 7927, 1, -7806⟩, ⟨7928, 7928, 1, -7807⟩, ⟨7929, 7929, 1, -7808⟩,
  ⟨7930, 7934, 2, 1⟩, ⟨7944, 7951, 1, -8⟩, ⟨7960, 7965, 1, -8⟩, ⟨7976, 7983, 1, -8⟩,
  ⟨7992, 7999, 1, -8⟩, ⟨8008, 8013, 1, -8⟩, ⟨8025, 8031, 2, -8⟩, ⟨8040, 8047, 1, -8⟩,
  ⟨8072, 8079, 1, -8⟩, ⟨8088, 8095, 1, -8⟩, ⟨8104, 8111, 1, -8⟩, ⟨8120, 8121, 1, -8⟩,
  ⟨8122, 8123, 1, -74⟩, ⟨8124, 8124, 1, -9⟩, ⟨8126, 8126, 1, -7173⟩, ⟨8136, 8139, 1, -86⟩,
  ⟨8140, 8140, 1, -9⟩, ⟨8152, 8153, 1, -8⟩, ⟨8154, 8155, 1, -100⟩, ⟨8168, 8169, 1, -8⟩,
  ⟨8170, 8171, 1, -112⟩, ⟨8172, 8172, 1, -7⟩, ⟨8184, 8185, 1, -128⟩, ⟨8186, 8187, 1, -126⟩,
  ⟨8188, 8188, 1, -9⟩, ⟨8486, 8486, 1, -7517⟩, ⟨8490, 8490, 1, -8383⟩, ⟨8491, 8491, 1, -8394⟩,
  ⟨8498, 8498, 1, 28⟩, ⟨8544, 8559, 1, 16⟩, ⟨8579, 8579, 1, 1⟩, ⟨11264, 11310, 1, 48⟩,
  ⟨11360, 11360, 1, 1⟩, ⟨11362, 11362, 1, -10743⟩, ⟨11363, 11363, 1, -3814⟩,
  ⟨11364, 11364, 1, -10727⟩, ⟨11367, 11371, 2, 1⟩, ⟨11373, 11373, 1, -10780⟩,
  ⟨11374, 11374, 1, -10749⟩, ⟨11375, 11375, 1, -10783⟩, ⟨11376, 11376, 1, -10782⟩,
  ⟨11378, 11378, 1, 1⟩, ⟨11381, 11381, 1, 1⟩, ⟨11390, 11391, 1, -10815⟩, ⟨11392, 11490, 2, 1⟩,
  ⟨11499, 11501, 2, 1⟩, ⟨11506, 11506, 1, 1⟩, ⟨42560, 42604, 2, 1⟩, ⟨42624, 42646, 2, 1⟩,
  ⟨42786, 42798, 2, 1⟩, ⟨42802, 42862, 2, 1⟩, ⟨42873, 42875, 2, 1⟩, ⟨42877, 42877, 1, -35332⟩,
  ⟨42878, 42886, 2, 1⟩, ⟨42891, 42891, 1, 1⟩, ⟨42893, 42893, 1, -42280⟩, ⟨42896, 42898, 2, 1⟩,
  ⟨42912, 42920, 2, 1⟩, ⟨42922, 42922, 1, -42308⟩, ⟨65313, 65338, 1, 32⟩, ⟨66560, 66599, 1, 40⟩]

end Catalogue.Index.FullText
