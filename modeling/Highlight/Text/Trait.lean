import Highlight.Text.Boundaries

/-!
# Traits of characters

What the traits of characters that follow from no category consist of, by boundaries.  Long lists
stand in several parts.
-/

namespace Highlight.Text.Trait

def otherAlphabetic0 : Array Nat :=
  #[
    837, 838, 867, 880, 1456, 1470, 1471, 1472, 1473, 1475, 1476, 1478, 1479, 1480, 1552, 1563,
    1611, 1624, 1625, 1632, 1648, 1649, 1750, 1757, 1761, 1765, 1767, 1769, 1773, 1774, 1809,
    1810, 1840, 1856, 1958, 1969, 2070, 2072, 2075, 2084, 2085, 2088, 2089, 2093, 2199, 2200,
    2260, 2272, 2275, 2282, 2288, 2308, 2362, 2364, 2366, 2381, 2382, 2384, 2389, 2392, 2402,
    2404, 2433, 2436, 2494, 2501, 2503, 2505, 2507, 2509, 2519, 2520, 2530, 2532, 2561, 2564,
    2622, 2627, 2631, 2633, 2635, 2637, 2641, 2642, 2672, 2674, 2677, 2678, 2689, 2692, 2750,
    2758, 2759, 2762, 2763, 2765, 2786, 2788, 2810, 2813, 2817, 2820, 2878, 2885, 2887, 2889,
    2891, 2893, 2902, 2904, 2914, 2916, 2946, 2947, 3006, 3011, 3014, 3017, 3018, 3021, 3031,
    3032, 3072, 3077, 3134, 3141, 3142, 3145, 3146, 3149, 3157, 3159, 3170, 3172, 3201, 3204,
    3262, 3269, 3270, 3273, 3274, 3277, 3285, 3287, 3298, 3300, 3315, 3316, 3328, 3332, 3390,
    3397, 3398, 3401, 3402, 3405, 3415, 3416, 3426, 3428, 3457, 3460, 3535, 3541, 3542, 3543,
    3544, 3552, 3570, 3572, 3633, 3634, 3636, 3643, 3661, 3662, 3761, 3762, 3764, 3770, 3771,
    3773, 3789, 3790, 3953, 3972, 3981, 3992, 3993, 4029, 4139, 4151, 4152, 4153, 4155, 4159,
    4182, 4186, 4190, 4193, 4194, 4197, 4199, 4206, 4209, 4213, 4226, 4238, 4239, 4240, 4250,
    4254, 5906, 5908, 5938, 5940, 5970, 5972, 6002, 6004, 6070, 6089, 6277, 6279, 6313, 6314,
    6432, 6444, 6448, 6457, 6679, 6684, 6741, 6751, 6753, 6773, 6847, 6849, 6860, 6863]

def otherAlphabetic1 : Array Nat :=
  #[
    6912, 6917, 6965, 6980, 7040, 7043, 7073, 7082, 7084, 7086, 7143, 7154, 7204, 7223, 7635,
    7669, 9398, 9450, 11744, 11776, 42612, 42620, 42654, 42656, 43010, 43011, 43019, 43020,
    43043, 43048, 43136, 43138, 43188, 43204, 43205, 43206, 43263, 43264, 43302, 43307, 43335,
    43347, 43392, 43396, 43444, 43456, 43493, 43494, 43561, 43575, 43587, 43588, 43596, 43598,
    43643, 43646, 43696, 43697, 43698, 43701, 43703, 43705, 43710, 43711, 43755, 43760, 43765,
    43766, 44003, 44011, 64286, 64287, 66422, 66427, 68097, 68100, 68101, 68103, 68108, 68112,
    68900, 68904, 68969, 68970, 69291, 69293, 69372, 69373, 69632, 69635, 69688, 69702, 69747,
    69749, 69760, 69763, 69808, 69817, 69826, 69827, 69888, 69891, 69927, 69939, 69957, 69959,
    70016, 70019, 70067, 70080, 70094, 70096, 70188, 70197, 70199, 70200, 70206, 70207, 70209,
    70210, 70367, 70377, 70400, 70404, 70462, 70469, 70471, 70473, 70475, 70477, 70487, 70488,
    70498, 70500, 70584, 70593, 70594, 70595, 70597, 70598, 70599, 70603, 70604, 70606, 70709,
    70722, 70723, 70726, 70832, 70850, 71087, 71094, 71096, 71103, 71132, 71134, 71216, 71231,
    71232, 71233, 71339, 71350, 71453, 71467, 71724, 71737, 71984, 71990, 71991, 71993, 71995,
    71997, 72000, 72001, 72002, 72003, 72145, 72152, 72154, 72160, 72164, 72165, 72193, 72203,
    72245, 72250, 72251, 72255, 72273, 72284, 72330, 72344, 72751, 72759, 72760, 72767, 72850,
    72872, 72873, 72887, 73009, 73015, 73018, 73019, 73020, 73022, 73023, 73026, 73027, 73028,
    73031, 73032, 73098, 73103, 73104, 73106, 73107, 73111, 73459, 73463, 73472, 73474, 73475,
    73476, 73524, 73531, 73534, 73537, 90398, 90415, 94031, 94032, 94033, 94088, 94095, 94099,
    94192, 94194, 113822, 113823]

def otherAlphabetic2 : Array Nat :=
  #[
    122880, 122887, 122888, 122905, 122907, 122914, 122915, 122917, 122918, 122923, 123023,
    123024, 125255, 125256, 127280, 127306, 127312, 127338, 127344, 127370]

def otherAlphabetic : Array Nat :=
  otherAlphabetic0 ++ otherAlphabetic1 ++ otherAlphabetic2

def otherLowercase : Array Nat :=
  #[
    170, 171, 186, 187, 688, 697, 704, 706, 736, 741, 837, 838, 890, 891, 4348, 4349, 7468, 7531,
    7544, 7545, 7579, 7616, 8305, 8306, 8319, 8320, 8336, 8349, 8560, 8576, 9424, 9450, 11388,
    11390, 42652, 42654, 42864, 42865, 42994, 42997, 43000, 43002, 43868, 43872, 43881, 43882,
    67456, 67457, 67459, 67462, 67463, 67505, 67506, 67515, 122928, 122990]

def otherUppercase : Array Nat :=
  #[
    8544, 8560, 9398, 9424, 127280, 127306, 127312, 127338, 127344, 127370]

def otherMath0 : Array Nat :=
  #[
    94, 95, 976, 979, 981, 982, 1008, 1010, 1012, 1014, 8214, 8215, 8242, 8245, 8256, 8257, 8289,
    8293, 8317, 8319, 8333, 8335, 8400, 8413, 8417, 8418, 8421, 8423, 8427, 8432, 8450, 8451,
    8455, 8456, 8458, 8468, 8469, 8470, 8473, 8478, 8484, 8485, 8488, 8490, 8492, 8494, 8495,
    8498, 8499, 8505, 8508, 8512, 8517, 8522, 8597, 8602, 8604, 8608, 8609, 8611, 8612, 8614,
    8615, 8616, 8617, 8622, 8624, 8626, 8630, 8632, 8636, 8654, 8656, 8658, 8659, 8660, 8661,
    8668, 8669, 8670, 8676, 8678, 8968, 8972, 9140, 9142, 9143, 9144, 9168, 9169, 9186, 9187,
    9632, 9634, 9646, 9655, 9660, 9665, 9670, 9672, 9674, 9676, 9679, 9684, 9698, 9699, 9700,
    9701, 9703, 9709, 9733, 9735, 9792, 9793, 9794, 9795, 9824, 9828, 9837, 9839, 10181, 10183,
    10214, 10224, 10627, 10649, 10712, 10716, 10748, 10750, 65121, 65122, 65123, 65124, 65128,
    65129, 65340, 65341, 65342, 65343, 119808, 119893, 119894, 119965, 119966, 119968, 119970,
    119971, 119973, 119975, 119977, 119981, 119982, 119994, 119995, 119996, 119997, 120004,
    120005, 120070, 120071, 120075, 120077, 120085, 120086, 120093, 120094, 120122, 120123,
    120127, 120128, 120133, 120134, 120135, 120138, 120145, 120146, 120486, 120488, 120513,
    120514, 120539, 120540, 120571, 120572, 120597, 120598, 120629, 120630, 120655, 120656,
    120687, 120688, 120713, 120714, 120745, 120746, 120771, 120772, 120780, 120782, 120832,
    126464, 126468, 126469, 126496, 126497, 126499, 126500, 126501, 126503, 126504, 126505,
    126515, 126516, 126520, 126521, 126522, 126523, 126524, 126530, 126531, 126535, 126536,
    126537, 126538, 126539, 126540, 126541, 126544, 126545, 126547, 126548, 126549, 126551,
    126552, 126553, 126554, 126555, 126556]

def otherMath1 : Array Nat :=
  #[
    126557, 126558, 126559, 126560, 126561, 126563, 126564, 126565, 126567, 126571, 126572,
    126579, 126580, 126584, 126585, 126589, 126590, 126591, 126592, 126602, 126603, 126620,
    126625, 126628, 126629, 126634, 126635, 126652]

def otherMath : Array Nat :=
  otherMath0 ++ otherMath1

def otherGraphemeExtend : Array Nat :=
  #[
    2494, 2495, 2519, 2520, 2878, 2879, 2903, 2904, 3006, 3007, 3031, 3032, 3264, 3265, 3266,
    3267, 3271, 3273, 3274, 3276, 3285, 3287, 3390, 3391, 3415, 3416, 3535, 3536, 3551, 3552,
    5909, 5910, 5940, 5941, 6965, 6966, 6971, 6972, 6973, 6974, 6979, 6981, 7082, 7083, 7154,
    7156, 8204, 8205, 12334, 12336, 43347, 43348, 43456, 43457, 65438, 65440, 70080, 70081,
    70197, 70198, 70462, 70463, 70477, 70478, 70487, 70488, 70584, 70585, 70594, 70595, 70597,
    70598, 70599, 70602, 70607, 70608, 70832, 70833, 70845, 70846, 71087, 71088, 71350, 71351,
    71984, 71985, 71997, 71998, 73537, 73538, 94192, 94194, 119141, 119143, 119149, 119155,
    917536, 917632]

def graphemeLink : Array Nat :=
  #[
    2381, 2382, 2509, 2510, 2637, 2638, 2765, 2766, 2893, 2894, 3021, 3022, 3149, 3150, 3277,
    3278, 3387, 3389, 3405, 3406, 3530, 3531, 3642, 3643, 3770, 3771, 3972, 3973, 4153, 4155,
    5908, 5910, 5940, 5941, 6098, 6099, 6752, 6753, 6980, 6981, 7082, 7084, 7154, 7156, 11647,
    11648, 43014, 43015, 43052, 43053, 43204, 43205, 43347, 43348, 43456, 43457, 43766, 43767,
    44013, 44014, 68159, 68160, 69702, 69703, 69744, 69745, 69759, 69760, 69817, 69818, 69939,
    69941, 70080, 70081, 70197, 70198, 70378, 70379, 70477, 70478, 70606, 70609, 70722, 70723,
    70850, 70851, 71103, 71104, 71231, 71232, 71350, 71351, 71467, 71468, 71737, 71738, 71997,
    71999, 72160, 72161, 72244, 72245, 72263, 72264, 72345, 72346, 72767, 72768, 73028, 73030,
    73111, 73112, 73537, 73539, 90415, 90416]

def otherIdStart : Array Nat :=
  #[
    6277, 6279, 8472, 8473, 8494, 8495, 12443, 12445]

def otherIdContinue : Array Nat :=
  #[
    183, 184, 903, 904, 4969, 4978, 6618, 6619, 8204, 8206, 12539, 12540, 65381, 65382]

def unstableIdStart : Array Nat :=
  #[
    890, 891, 3635, 3636, 3763, 3764, 12443, 12445, 64606, 64612, 65018, 65020, 65136, 65137,
    65138, 65139, 65140, 65141, 65142, 65143, 65144, 65145, 65146, 65147, 65148, 65149, 65150,
    65151, 65438, 65440]

def unstableIdContinue : Array Nat :=
  #[
    890, 891, 12443, 12445, 64606, 64612, 65018, 65020, 65136, 65137, 65138, 65139, 65140, 65141,
    65142, 65143, 65144, 65145, 65146, 65147, 65148, 65149, 65150, 65151]

def compatMathStart : Array Nat :=
  #[
    8706, 8707, 8711, 8712, 8734, 8735, 120513, 120514, 120539, 120540, 120571, 120572, 120597,
    120598, 120629, 120630, 120655, 120656, 120687, 120688, 120713, 120714, 120745, 120746,
    120771, 120772]

def compatMathContinue : Array Nat :=
  #[
    178, 180, 185, 186, 8304, 8305, 8308, 8319, 8320, 8335, 8706, 8707, 8711, 8712, 8734, 8735,
    120513, 120514, 120539, 120540, 120571, 120572, 120597, 120598, 120629, 120630, 120655,
    120656, 120687, 120688, 120713, 120714, 120745, 120746, 120771, 120772]

def patternSyntax : Array Nat :=
  #[
    33, 48, 58, 65, 91, 95, 96, 97, 123, 127, 161, 168, 169, 170, 171, 173, 174, 175, 176, 178,
    182, 183, 187, 188, 191, 192, 215, 216, 247, 248, 8208, 8232, 8240, 8255, 8257, 8276, 8277,
    8287, 8592, 9312, 9472, 10102, 10132, 11264, 11776, 11904, 12289, 12292, 12296, 12321, 12336,
    12337, 64830, 64832, 65093, 65095]

def patternWhiteSpace : Array Nat :=
  #[
    9, 14, 32, 33, 133, 134, 8206, 8208, 8232, 8234]

def caseIgnorableSigns : Array Nat :=
  #[
    39, 40, 46, 47, 58, 59, 183, 184, 903, 904, 1375, 1376, 1524, 1525, 8216, 8218, 8228, 8229,
    8231, 8232, 65043, 65044, 65106, 65107, 65109, 65110, 65287, 65288, 65294, 65295, 65306,
    65307]

/-- The boundaries of the upper and title case letters that keep their form in lower case, and
of the other characters that do not. -/
def lowercasedExceptions : Array Nat :=
  #[
    978, 981, 8450, 8451, 8455, 8456, 8459, 8462, 8464, 8467, 8469, 8470, 8473, 8478, 8484, 8485,
    8488, 8489, 8492, 8494, 8496, 8498, 8499, 8500, 8510, 8512, 8517, 8518, 8544, 8560, 9398,
    9424, 119808, 119834, 119860, 119886, 119912, 119938, 119964, 119965, 119966, 119968, 119970,
    119971, 119973, 119975, 119977, 119981, 119982, 119990, 120016, 120042, 120068, 120070,
    120071, 120075, 120077, 120085, 120086, 120093, 120120, 120122, 120123, 120127, 120128,
    120133, 120134, 120135, 120138, 120145, 120172, 120198, 120224, 120250, 120276, 120302,
    120328, 120354, 120380, 120406, 120432, 120458, 120488, 120513, 120546, 120571, 120604,
    120629, 120662, 120687, 120720, 120745, 120778, 120779]

/-- The boundaries of the lower case letters that keep their form in upper case, and of the other
characters that do not. -/
def uppercasedExceptions : Array Nat :=
  #[
    312, 313, 397, 398, 426, 428, 442, 443, 446, 447, 453, 454, 456, 457, 459, 460, 498, 499,
    545, 546, 564, 570, 597, 598, 600, 601, 602, 603, 605, 608, 610, 611, 615, 616, 621, 623,
    624, 625, 627, 629, 630, 637, 638, 640, 641, 642, 644, 647, 653, 658, 659, 660, 661, 669,
    671, 688, 837, 838, 1020, 1021, 1376, 1377, 1416, 1417, 7424, 7468, 7531, 7544, 7546, 7549,
    7550, 7566, 7567, 7579, 7836, 7838, 7839, 7840, 8072, 8080, 8088, 8096, 8104, 8112, 8124,
    8125, 8140, 8141, 8188, 8189, 8458, 8459, 8462, 8464, 8467, 8468, 8495, 8496, 8500, 8501,
    8505, 8506, 8508, 8510, 8518, 8522, 8560, 8576, 9424, 9450, 11377, 11378, 11380, 11381,
    11383, 11388, 11492, 11493, 42800, 42802, 42865, 42873, 42894, 42895, 42901, 42902, 42927,
    42928, 42963, 42964, 42965, 42966, 43002, 43003, 43824, 43859, 43860, 43867, 43872, 43881,
    119834, 119860, 119886, 119893, 119894, 119912, 119938, 119964, 119990, 119994, 119995,
    119996, 119997, 120004, 120005, 120016, 120042, 120068, 120094, 120120, 120146, 120172,
    120198, 120224, 120250, 120276, 120302, 120328, 120354, 120380, 120406, 120432, 120458,
    120486, 120514, 120539, 120540, 120546, 120572, 120597, 120598, 120604, 120630, 120655,
    120656, 120662, 120688, 120713, 120714, 120720, 120746, 120771, 120772, 120778, 120779,
    120780, 122624, 122634, 122635, 122655, 122661, 122667]

/-- The boundaries of the characters that change their form in upper case or in title case, but
not in both. -/
def titlecasedExceptions : Array Nat :=
  #[
    452, 454, 455, 457, 458, 460, 497, 499, 4304, 4347, 4349, 4352, 8072, 8080, 8088, 8096, 8104,
    8112, 8124, 8125, 8140, 8141, 8188, 8189]

/-- The boundaries of the characters that change their form in lower case or without case, but
not in both. -/
def casefoldedExceptions : Array Nat :=
  #[
    181, 182, 223, 224, 329, 330, 383, 384, 837, 838, 962, 963, 976, 978, 981, 983, 1008, 1010,
    1013, 1014, 1415, 1416, 5024, 5110, 5112, 5118, 7296, 7305, 7834, 7836, 8064, 8072, 8080,
    8088, 8096, 8104, 8114, 8117, 8119, 8120, 8130, 8133, 8135, 8136, 8178, 8181, 8183, 8184,
    43888, 43968, 64256, 64263, 64275, 64280]

def bidiControl : Array Nat :=
  #[
    1564, 1565, 8206, 8208, 8234, 8239, 8294, 8298]

def dash : Array Nat :=
  #[
    45, 46, 1418, 1419, 1470, 1471, 5120, 5121, 6150, 6151, 8208, 8214, 8275, 8276, 8315, 8316,
    8331, 8332, 8722, 8723, 11799, 11800, 11802, 11803, 11834, 11836, 11840, 11841, 11869, 11870,
    12316, 12317, 12336, 12337, 12448, 12449, 65073, 65075, 65112, 65113, 65123, 65124, 65293,
    65294, 68974, 68975, 69293, 69294]

def hyphen : Array Nat :=
  #[
    45, 46, 173, 174, 1418, 1419, 6150, 6151, 8208, 8210, 11799, 11800, 12539, 12540, 65123,
    65124, 65293, 65294, 65381, 65382]

def otherDefaultIgnorable : Array Nat :=
  #[
    847, 848, 4447, 4449, 6068, 6070, 8293, 8294, 12644, 12645, 65440, 65441, 65520, 65529,
    917504, 917505, 917506, 917536, 917632, 917760, 918000, 921600]

def shownFormats : Array Nat :=
  #[
    65529, 65532, 78896, 78912]

def variationSelector : Array Nat :=
  #[
    6155, 6158, 6159, 6160, 65024, 65040, 917760, 918000]

def deprecated : Array Nat :=
  #[
    329, 330, 1651, 1652, 3959, 3960, 3961, 3962, 6051, 6053, 8298, 8304, 9001, 9003, 917505,
    917506]

def diacritic0 : Array Nat :=
  #[
    94, 95, 96, 97, 168, 169, 175, 176, 180, 181, 183, 185, 688, 847, 848, 856, 861, 867, 884,
    886, 890, 891, 900, 902, 1155, 1160, 1369, 1370, 1425, 1470, 1471, 1472, 1473, 1475, 1476,
    1478, 1479, 1480, 1611, 1619, 1623, 1625, 1759, 1761, 1765, 1767, 1770, 1773, 1840, 1867,
    1958, 1969, 2027, 2038, 2072, 2074, 2200, 2208, 2249, 2259, 2275, 2303, 2364, 2365, 2381,
    2382, 2385, 2389, 2417, 2418, 2492, 2493, 2509, 2510, 2620, 2621, 2637, 2638, 2748, 2749,
    2765, 2766, 2813, 2816, 2876, 2877, 2893, 2894, 2901, 2902, 3021, 3022, 3132, 3133, 3149,
    3150, 3260, 3261, 3277, 3278, 3387, 3389, 3405, 3406, 3530, 3531, 3642, 3643, 3655, 3661,
    3662, 3663, 3770, 3771, 3784, 3789, 3864, 3866, 3893, 3894, 3895, 3896, 3897, 3898, 3902,
    3904, 3970, 3973, 3974, 3976, 4038, 4039, 4151, 4152, 4153, 4155, 4195, 4197, 4201, 4206,
    4231, 4238, 4239, 4240, 4250, 4252, 4957, 4960, 5908, 5910, 5940, 5941, 6089, 6100, 6109,
    6110, 6457, 6460, 6752, 6753, 6773, 6781, 6783, 6784, 6832, 6847, 6849, 6860, 6964, 6965,
    6980, 6981, 7019, 7028, 7082, 7084, 7142, 7143, 7154, 7156, 7222, 7224, 7288, 7294, 7376,
    7401, 7405, 7406, 7412, 7413, 7415, 7418, 7468, 7531, 7579, 7615, 7620, 7632, 7669, 7680,
    8125, 8126, 8127, 8130, 8141, 8144, 8157, 8160, 8173, 8176, 8189, 8191, 11503, 11506, 11823,
    11824, 12330, 12336, 12441, 12445, 12540, 12541, 42607, 42608, 42620, 42622, 42623, 42624,
    42652, 42654, 42736, 42738, 42752, 42786, 42888, 42891, 43000, 43002, 43014, 43015]

def diacritic1 : Array Nat :=
  #[
    43052, 43053, 43204, 43205, 43232, 43250, 43307, 43311, 43347, 43348, 43443, 43444, 43456,
    43457, 43493, 43494, 43643, 43646, 43711, 43715, 43766, 43767, 43867, 43872, 43881, 43884,
    44012, 44014, 64286, 64287, 65056, 65072, 65342, 65343, 65344, 65345, 65392, 65393, 65438,
    65440, 65507, 65508, 66272, 66273, 67456, 67462, 67463, 67505, 67506, 67515, 68152, 68155,
    68159, 68160, 68325, 68327, 68898, 68904, 68942, 68943, 68969, 68974, 69373, 69376, 69446,
    69457, 69506, 69510, 69702, 69703, 69744, 69745, 69817, 69819, 69939, 69941, 70003, 70004,
    70080, 70081, 70090, 70093, 70197, 70199, 70377, 70379, 70459, 70461, 70477, 70478, 70502,
    70509, 70512, 70517, 70606, 70609, 70610, 70612, 70625, 70627, 70722, 70723, 70726, 70727,
    70850, 70852, 71103, 71105, 71231, 71232, 71350, 71352, 71467, 71468, 71737, 71739, 71997,
    71999, 72003, 72004, 72160, 72161, 72244, 72245, 72263, 72264, 72345, 72346, 72767, 72768,
    73026, 73027, 73028, 73030, 73111, 73112, 73537, 73539, 73562, 73563, 78919, 78934, 90415,
    90416, 92912, 92917, 92976, 92983, 93547, 93549, 94095, 94112, 94192, 94194, 110576, 110580,
    110581, 110588, 110589, 110591, 118528, 118574, 118576, 118599, 119143, 119146, 119149,
    119155, 119163, 119171, 119173, 119180, 119210, 119214, 122928, 122990, 123184, 123191,
    123566, 123567, 123628, 123632, 124398, 124400, 125136, 125143, 125252, 125255, 125256,
    125259]

def diacritic : Array Nat :=
  diacritic0 ++ diacritic1

def emoji0 : Array Nat :=
  #[
    35, 36, 42, 43, 48, 58, 169, 170, 174, 175, 8252, 8253, 8265, 8266, 8482, 8483, 8505, 8506,
    8596, 8602, 8617, 8619, 8986, 8988, 9000, 9001, 9167, 9168, 9193, 9204, 9208, 9211, 9410,
    9411, 9642, 9644, 9654, 9655, 9664, 9665, 9723, 9727, 9728, 9733, 9742, 9743, 9745, 9746,
    9748, 9750, 9752, 9753, 9757, 9758, 9760, 9761, 9762, 9764, 9766, 9767, 9770, 9771, 9774,
    9776, 9784, 9787, 9792, 9793, 9794, 9795, 9800, 9812, 9823, 9825, 9827, 9828, 9829, 9831,
    9832, 9833, 9851, 9852, 9854, 9856, 9874, 9880, 9881, 9882, 9883, 9885, 9888, 9890, 9895,
    9896, 9898, 9900, 9904, 9906, 9917, 9919, 9924, 9926, 9928, 9929, 9934, 9936, 9937, 9938,
    9939, 9941, 9961, 9963, 9968, 9974, 9975, 9979, 9981, 9982, 9986, 9987, 9989, 9990, 9992,
    9998, 9999, 10000, 10002, 10003, 10004, 10005, 10006, 10007, 10013, 10014, 10017, 10018,
    10024, 10025, 10035, 10037, 10052, 10053, 10055, 10056, 10060, 10061, 10062, 10063, 10067,
    10070, 10071, 10072, 10083, 10085, 10133, 10136, 10145, 10146, 10160, 10161, 10175, 10176,
    10548, 10550, 11013, 11016, 11035, 11037, 11088, 11089, 11093, 11094, 12336, 12337, 12349,
    12350, 12951, 12952, 12953, 12954, 126980, 126981, 127183, 127184, 127344, 127346, 127358,
    127360, 127374, 127375, 127377, 127387, 127462, 127488, 127489, 127491, 127514, 127515,
    127535, 127536, 127538, 127547, 127568, 127570, 127744, 127778, 127780, 127892, 127894,
    127896, 127897, 127900, 127902, 127985, 127987, 127990, 127991, 128254, 128255, 128318,
    128329, 128335, 128336, 128360, 128367, 128369, 128371, 128379, 128391, 128392, 128394,
    128398, 128400, 128401, 128405, 128407, 128420, 128422, 128424, 128425]

def emoji1 : Array Nat :=
  #[
    128433, 128435, 128444, 128445, 128450, 128453, 128465, 128468, 128476, 128479, 128481,
    128482, 128483, 128484, 128488, 128489, 128495, 128496, 128499, 128500, 128506, 128592,
    128640, 128710, 128715, 128723, 128725, 128728, 128732, 128742, 128745, 128746, 128747,
    128749, 128752, 128753, 128755, 128765, 128992, 129004, 129008, 129009, 129292, 129339,
    129340, 129350, 129351, 129536, 129648, 129661, 129664, 129674, 129679, 129735, 129742,
    129757, 129759, 129770, 129776, 129785]

def emoji : Array Nat :=
  emoji0 ++ emoji1

def emojiComponent : Array Nat :=
  #[
    35, 36, 42, 43, 48, 58, 8205, 8206, 8419, 8420, 65039, 65040, 127462, 127488, 127995, 128000,
    129456, 129460, 917536, 917632]

def emojiModifier : Array Nat :=
  #[
    127995, 128000]

def emojiModifierBase : Array Nat :=
  #[
    9757, 9758, 9977, 9978, 9994, 9998, 127877, 127878, 127938, 127941, 127943, 127944, 127946,
    127949, 128066, 128068, 128070, 128081, 128102, 128121, 128124, 128125, 128129, 128132,
    128133, 128136, 128143, 128144, 128145, 128146, 128170, 128171, 128372, 128374, 128378,
    128379, 128400, 128401, 128405, 128407, 128581, 128584, 128587, 128592, 128675, 128676,
    128692, 128695, 128704, 128705, 128716, 128717, 129292, 129293, 129295, 129296, 129304,
    129312, 129318, 129319, 129328, 129338, 129340, 129343, 129399, 129400, 129461, 129463,
    129464, 129466, 129467, 129468, 129485, 129488, 129489, 129502, 129731, 129734, 129776,
    129785]

def emojiPresentation : Array Nat :=
  #[
    8986, 8988, 9193, 9197, 9200, 9201, 9203, 9204, 9725, 9727, 9748, 9750, 9800, 9812, 9855,
    9856, 9875, 9876, 9889, 9890, 9898, 9900, 9917, 9919, 9924, 9926, 9934, 9935, 9940, 9941,
    9962, 9963, 9970, 9972, 9973, 9974, 9978, 9979, 9981, 9982, 9989, 9990, 9994, 9996, 10024,
    10025, 10060, 10061, 10062, 10063, 10067, 10070, 10071, 10072, 10133, 10136, 10160, 10161,
    10175, 10176, 11035, 11037, 11088, 11089, 11093, 11094, 126980, 126981, 127183, 127184,
    127374, 127375, 127377, 127387, 127462, 127488, 127489, 127490, 127514, 127515, 127535,
    127536, 127538, 127543, 127544, 127547, 127568, 127570, 127744, 127777, 127789, 127798,
    127799, 127869, 127870, 127892, 127904, 127947, 127951, 127956, 127968, 127985, 127988,
    127989, 127992, 128063, 128064, 128065, 128066, 128253, 128255, 128318, 128331, 128335,
    128336, 128360, 128378, 128379, 128405, 128407, 128420, 128421, 128507, 128592, 128640,
    128710, 128716, 128717, 128720, 128723, 128725, 128728, 128732, 128736, 128747, 128749,
    128756, 128765, 128992, 129004, 129008, 129009, 129292, 129339, 129340, 129350, 129351,
    129536, 129648, 129661, 129664, 129674, 129679, 129735, 129742, 129757, 129759, 129770,
    129776, 129785]

def pictographic : Array Nat :=
  #[
    169, 170, 174, 175, 8252, 8253, 8265, 8266, 8482, 8483, 8505, 8506, 8596, 8602, 8617, 8619,
    8986, 8988, 9000, 9001, 9096, 9097, 9167, 9168, 9193, 9204, 9208, 9211, 9410, 9411, 9642,
    9644, 9654, 9655, 9664, 9665, 9723, 9727, 9728, 9734, 9735, 9747, 9748, 9862, 9872, 9990,
    9992, 10003, 10004, 10005, 10006, 10007, 10013, 10014, 10017, 10018, 10024, 10025, 10035,
    10037, 10052, 10053, 10055, 10056, 10060, 10061, 10062, 10063, 10067, 10070, 10071, 10072,
    10083, 10088, 10133, 10136, 10145, 10146, 10160, 10161, 10175, 10176, 10548, 10550, 11013,
    11016, 11035, 11037, 11088, 11089, 11093, 11094, 12336, 12337, 12349, 12350, 12951, 12952,
    12953, 12954, 126976, 127232, 127245, 127248, 127279, 127280, 127340, 127346, 127358, 127360,
    127374, 127375, 127377, 127387, 127405, 127462, 127489, 127504, 127514, 127515, 127535,
    127536, 127538, 127547, 127548, 127552, 127561, 127995, 128000, 128318, 128326, 128592,
    128640, 128768, 128884, 128896, 128981, 129024, 129036, 129040, 129096, 129104, 129114,
    129120, 129160, 129168, 129198, 129202, 129212, 129216, 129218, 129280, 129292, 129339,
    129340, 129350, 129351, 129792, 130048, 131070]

def extender : Array Nat :=
  #[
    183, 184, 720, 722, 1600, 1601, 2042, 2043, 2673, 2674, 2811, 2812, 2901, 2902, 3654, 3655,
    3782, 3783, 6154, 6155, 6211, 6212, 6823, 6824, 7222, 7223, 7291, 7292, 12293, 12294, 12337,
    12342, 12445, 12447, 12540, 12543, 40981, 40982, 42508, 42509, 43471, 43472, 43494, 43495,
    43632, 43633, 43741, 43742, 43763, 43765, 65392, 65393, 67457, 67459, 68942, 68943, 68970,
    68971, 68975, 68976, 70199, 70200, 70493, 70494, 70610, 70612, 71110, 71113, 72344, 72345,
    92994, 92996, 94176, 94178, 94179, 94180, 123196, 123198, 124399, 124400, 125252, 125255]

def hexDigit : Array Nat :=
  #[
    48, 58, 65, 71, 97, 103, 65296, 65306, 65313, 65319, 65345, 65351]

def binaryDescription : Array Nat :=
  #[
    12272, 12274, 12276, 12286, 12783, 12784]

def ideographic : Array Nat :=
  #[
    12294, 12296, 12321, 12330, 12344, 12347, 13312, 19904, 19968, 40960, 63744, 64110, 64112,
    64218, 94180, 94181, 94208, 100344, 100352, 101590, 101631, 101641, 110960, 111356, 131072,
    173792, 173824, 177978, 177984, 178206, 178208, 183970, 183984, 191457, 191472, 192094,
    194560, 195102, 196608, 201547, 201552, 205744]

def unifiedIdeograph : Array Nat :=
  #[
    13312, 19904, 19968, 40960, 64014, 64016, 64017, 64018, 64019, 64021, 64031, 64032, 64033,
    64034, 64035, 64037, 64039, 64042, 131072, 173792, 173824, 177978, 177984, 178206, 178208,
    183970, 183984, 191457, 191472, 192094, 196608, 201547, 201552, 205744]

def radical : Array Nat :=
  #[
    11904, 11930, 11931, 12020, 12032, 12246]

def logicalOrderException : Array Nat :=
  #[
    3648, 3653, 3776, 3781, 6581, 6584, 6586, 6587, 43701, 43703, 43705, 43706, 43707, 43709]

def modifierCombiningMark : Array Nat :=
  #[
    1620, 1622, 1624, 1625, 1756, 1757, 1763, 1764, 1767, 1769, 2250, 2252, 2253, 2256, 2259,
    2260, 2291, 2292]

def noncharacter : Array Nat :=
  #[
    64976, 65008, 65534, 65536, 131070, 131072, 196606, 196608, 262142, 262144, 327678, 327680,
    393214, 393216, 458750, 458752, 524286, 524288, 589822, 589824, 655358, 655360, 720894,
    720896, 786430, 786432, 851966, 851968, 917502, 917504, 983038, 983040, 1048574, 1048576,
    1114110, 1114112]

def prependedConcatenationMark : Array Nat :=
  #[
    1536, 1542, 1757, 1758, 1807, 1808, 2192, 2194, 2274, 2275, 69821, 69822, 69837, 69838]

def quotationMark : Array Nat :=
  #[
    34, 35, 39, 40, 171, 172, 187, 188, 8216, 8224, 8249, 8251, 11842, 11843, 12300, 12304,
    12317, 12320, 65089, 65093, 65282, 65283, 65287, 65288, 65378, 65380]

def sentenceTerminal : Array Nat :=
  #[
    33, 34, 46, 47, 63, 64, 1417, 1418, 1565, 1568, 1748, 1749, 1792, 1795, 2041, 2042, 2103,
    2104, 2105, 2106, 2109, 2111, 2404, 2406, 4170, 4172, 4962, 4963, 4967, 4969, 5742, 5743,
    5941, 5943, 6100, 6102, 6147, 6148, 6153, 6154, 6468, 6470, 6824, 6828, 6990, 6992, 7002,
    7004, 7006, 7008, 7037, 7040, 7227, 7229, 7294, 7296, 8228, 8229, 8252, 8254, 8263, 8266,
    11513, 11516, 11822, 11823, 11836, 11837, 11859, 11861, 12290, 12291, 42239, 42240, 42510,
    42512, 42739, 42740, 42743, 42744, 43126, 43128, 43214, 43216, 43311, 43312, 43464, 43466,
    43613, 43616, 43760, 43762, 44011, 44012, 65042, 65043, 65045, 65047, 65106, 65107, 65110,
    65112, 65281, 65282, 65294, 65295, 65311, 65312, 65377, 65378, 68182, 68184, 69461, 69466,
    69510, 69514, 69703, 69705, 69822, 69826, 69953, 69956, 70085, 70087, 70093, 70094, 70110,
    70112, 70200, 70202, 70203, 70205, 70313, 70314, 70612, 70614, 70731, 70733, 71106, 71108,
    71113, 71128, 71233, 71235, 71484, 71487, 72004, 72005, 72006, 72007, 72258, 72260, 72347,
    72349, 72769, 72771, 73463, 73465, 73539, 73541, 92782, 92784, 92917, 92918, 92983, 92985,
    92996, 92997, 93550, 93552, 93848, 93849, 113823, 113824, 121480, 121481]

def terminalPunctuation : Array Nat :=
  #[
    33, 34, 44, 45, 46, 47, 58, 60, 63, 64, 894, 895, 903, 904, 1417, 1418, 1475, 1476, 1548,
    1549, 1563, 1564, 1565, 1568, 1748, 1749, 1792, 1803, 1804, 1805, 2040, 2042, 2096, 2102,
    2103, 2111, 2142, 2143, 2404, 2406, 3674, 3676, 3848, 3849, 3853, 3859, 4170, 4172, 4961,
    4969, 5742, 5743, 5867, 5870, 5941, 5943, 6100, 6103, 6106, 6107, 6146, 6150, 6152, 6154,
    6468, 6470, 6824, 6828, 6990, 6992, 7002, 7004, 7005, 7008, 7037, 7040, 7227, 7232, 7294,
    7296, 8228, 8229, 8252, 8254, 8263, 8266, 11513, 11516, 11822, 11823, 11836, 11837, 11841,
    11842, 11852, 11853, 11854, 11856, 11859, 11861, 12289, 12291, 42238, 42240, 42509, 42512,
    42739, 42744, 43126, 43128, 43214, 43216, 43311, 43312, 43463, 43466, 43613, 43616, 43743,
    43744, 43760, 43762, 44011, 44012, 65042, 65043, 65045, 65047, 65104, 65107, 65108, 65112,
    65281, 65282, 65292, 65293, 65294, 65295, 65306, 65308, 65311, 65312, 65377, 65378, 65380,
    65381, 66463, 66464, 66512, 66513, 67671, 67672, 67871, 67872, 68182, 68184, 68336, 68342,
    68410, 68416, 68505, 68509, 69461, 69466, 69510, 69514, 69703, 69710, 69822, 69826, 69953,
    69956, 70085, 70087, 70093, 70094, 70110, 70112, 70200, 70205, 70313, 70314, 70612, 70614,
    70731, 70734, 70746, 70748, 71106, 71110, 71113, 71128, 71233, 71235, 71484, 71487, 72004,
    72005, 72006, 72007, 72258, 72260, 72347, 72349, 72353, 72355, 72769, 72772, 72817, 72818,
    73463, 73465, 73539, 73541, 74864, 74869, 92782, 92784, 92917, 92918, 92983, 92986, 92996,
    92997, 93550, 93552, 93847, 93849, 113823, 113824, 121479, 121483]

def softDotted : Array Nat :=
  #[
    105, 107, 303, 304, 585, 586, 616, 617, 669, 670, 690, 691, 1011, 1012, 1110, 1111, 1112,
    1113, 7522, 7523, 7574, 7575, 7588, 7589, 7592, 7593, 7725, 7726, 7883, 7884, 8305, 8306,
    8520, 8522, 11388, 11389, 119842, 119844, 119894, 119896, 119946, 119948, 119998, 120000,
    120050, 120052, 120102, 120104, 120154, 120156, 120206, 120208, 120258, 120260, 120310,
    120312, 120362, 120364, 120414, 120416, 120466, 120468, 122650, 122651, 122956, 122958,
    122984, 122985]

end Highlight.Text.Trait
