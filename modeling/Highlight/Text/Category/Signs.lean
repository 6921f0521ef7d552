import Highlight.Text.Boundaries

/-!
# Punctuation and signs by category

The boundaries of these categories of characters.  Long lists stand in several parts.
-/

namespace Highlight.Text.Category

def connectorPunctuationBoundaries : Array Nat :=
  #[
    95, 96, 8255, 8257, 8276, 8277, 65075, 65077, 65101, 65104, 65343, 65344]

def dashPunctuationBoundaries : Array Nat :=
  #[
    45, 46, 1418, 1419, 1470, 1471, 5120, 5121, 6150, 6151, 8208, 8214, 11799, 11800, 11802,
    11803, 11834, 11836, 11840, 11841, 11869, 11870, 12316, 12317, 12336, 12337, 12448, 12449,
    65073, 65075, 65112, 65113, 65123, 65124, 65293, 65294, 68974, 68975, 69293, 69294]

def openPunctuationBoundaries : Array Nat :=
  #[
    40, 41, 91, 92, 123, 124, 3898, 3899, 3900, 3901, 5787, 5788, 8218, 8219, 8222, 8223, 8261,
    8262, 8317, 8318, 8333, 8334, 8968, 8969, 8970, 8971, 9001, 9002, 10088, 10089, 10090, 10091,
    10092, 10093, 10094, 10095, 10096, 10097, 10098, 10099, 10100, 10101, 10181, 10182, 10214,
    10215, 10216, 10217, 10218, 10219, 10220, 10221, 10222, 10223, 10627, 10628, 10629, 10630,
    10631, 10632, 10633, 10634, 10635, 10636, 10637, 10638, 10639, 10640, 10641, 10642, 10643,
    10644, 10645, 10646, 10647, 10648, 10712, 10713, 10714, 10715, 10748, 10749, 11810, 11811,
    11812, 11813, 11814, 11815, 11816, 11817, 11842, 11843, 11861, 11862, 11863, 11864, 11865,
    11866, 11867, 11868, 12296, 12297, 12298, 12299, 12300, 12301, 12302, 12303, 12304, 12305,
    12308, 12309, 12310, 12311, 12312, 12313, 12314, 12315, 12317, 12318, 64831, 64832, 65047,
    65048, 65077, 65078, 65079, 65080, 65081, 65082, 65083, 65084, 65085, 65086, 65087, 65088,
    65089, 65090, 65091, 65092, 65095, 65096, 65113, 65114, 65115, 65116, 65117, 65118, 65288,
    65289, 65339, 65340, 65371, 65372, 65375, 65376, 65378, 65379]

def closePunctuationBoundaries : Array Nat :=
  #[
    41, 42, 93, 94, 125, 126, 3899, 3900, 3901, 3902, 5788, 5789, 8262, 8263, 8318, 8319, 8334,
    8335, 8969, 8970, 8971, 8972, 9002, 9003, 10089, 10090, 10091, 10092, 10093, 10094, 10095,
    10096, 10097, 10098, 10099, 10100, 10101, 10102, 10182, 10183, 10215, 10216, 10217, 10218,
    10219, 10220, 10221, 10222, 10223, 10224, 10628, 10629, 10630, 10631, 10632, 10633, 10634,
    10635, 10636, 10637, 10638, 10639, 10640, 10641, 10642, 10643, 10644, 10645, 10646, 10647,
    10648, 10649, 10713, 10714, 10715, 10716, 10749, 10750, 11811, 11812, 11813, 11814, 11815,
    11816, 11817, 11818, 11862, 11863, 11864, 11865, 11866, 11867, 11868, 11869, 12297, 12298,
    12299, 12300, 12301, 12302, 12303, 12304, 12305, 12306, 12309, 12310, 12311, 12312, 12313,
    12314, 12315, 12316, 12318, 12320, 64830, 64831, 65048, 65049, 65078, 65079, 65080, 65081,
    65082, 65083, 65084, 65085, 65086, 65087, 65088, 65089, 65090, 65091, 65092, 65093, 65096,
    65097, 65114, 65115, 65116, 65117, 65118, 65119, 65289, 65290, 65341, 65342, 65373, 65374,
    65376, 65377, 65379, 65380]

def initialPunctuationBoundaries : Array Nat :=
  #[
    171, 172, 8216, 8217, 8219, 8221, 8223, 8224, 8249, 8250, 11778, 11779, 11780, 11781, 11785,
    11786, 11788, 11789, 11804, 11805, 11808, 11809]

def finalPunctuationBoundaries : Array Nat :=
  #[
    187, 188, 8217, 8218, 8221, 8222, 8250, 8251, 11779, 11780, 11781, 11782, 11786, 11787,
    11789, 11790, 11805, 11806, 11809, 11810]

def otherPunctuationBoundaries0 : Array Nat :=
  #[
    33, 36, 37, 40, 42, 43, 44, 45, 46, 48, 58, 60, 63, 65, 92, 93, 161, 162, 167, 168, 182, 184,
    191, 192, 894, 895, 903, 904, 1370, 1376, 1417, 1418, 1472, 1473, 1475, 1476, 1478, 1479,
    1523, 1525, 1545, 1547, 1548, 1550, 1563, 1564, 1565, 1568, 1642, 1646, 1748, 1749, 1792,
    1806, 2039, 2042, 2096, 2111, 2142, 2143, 2404, 2406, 2416, 2417, 2557, 2558, 2678, 2679,
    2800, 2801, 3191, 3192, 3204, 3205, 3572, 3573, 3663, 3664, 3674, 3676, 3844, 3859, 3860,
    3861, 3973, 3974, 4048, 4053, 4057, 4059, 4170, 4176, 4347, 4348, 4960, 4969, 5742, 5743,
    5867, 5870, 5941, 5943, 6100, 6103, 6104, 6107, 6144, 6150, 6151, 6155, 6468, 6470, 6686,
    6688, 6816, 6823, 6824, 6830, 6990, 6992, 7002, 7009, 7037, 7040, 7164, 7168, 7227, 7232,
    7294, 7296, 7360, 7368, 7379, 7380, 8214, 8216, 8224, 8232, 8240, 8249, 8251, 8255, 8257,
    8260, 8263, 8274, 8275, 8276, 8277, 8287, 11513, 11517, 11518, 11520, 11632, 11633, 11776,
    11778, 11782, 11785, 11787, 11788, 11790, 11799, 11800, 11802, 11803, 11804, 11806, 11808,
    11818, 11823, 11824, 11834, 11836, 11840, 11841, 11842, 11843, 11856, 11858, 11861, 12289,
    12292, 12349, 12350, 12539, 12540, 42238, 42240, 42509, 42512, 42611, 42612, 42622, 42623,
    42738, 42744, 43124, 43128, 43214, 43216, 43256, 43259, 43260, 43261, 43310, 43312, 43359,
    43360, 43457, 43470, 43486, 43488, 43612, 43616, 43742, 43744, 43760, 43762, 44011, 44012,
    65040, 65047, 65049, 65050, 65072, 65073, 65093, 65095, 65097, 65101, 65104, 65107, 65108,
    65112, 65119, 65122, 65128, 65129]

def otherPunctuationBoundaries1 : Array Nat :=
  #[
    65130, 65132, 65281, 65284, 65285, 65288, 65290, 65291, 65292, 65293, 65294, 65296, 65306,
    65308, 65311, 65313, 65340, 65341, 65377, 65378, 65380, 65382, 65792, 65795, 66463, 66464,
    66512, 66513, 66927, 66928, 67671, 67672, 67871, 67872, 67903, 67904, 68176, 68185, 68223,
    68224, 68336, 68343, 68409, 68416, 68505, 68509, 69461, 69466, 69510, 69514, 69703, 69710,
    69819, 69821, 69822, 69826, 69952, 69956, 70004, 70006, 70085, 70089, 70093, 70094, 70107,
    70108, 70109, 70112, 70200, 70206, 70313, 70314, 70612, 70614, 70615, 70617, 70731, 70736,
    70746, 70748, 70749, 70750, 70854, 70855, 71105, 71128, 71233, 71236, 71264, 71277, 71353,
    71354, 71484, 71487, 71739, 71740, 72004, 72007, 72162, 72163, 72255, 72263, 72346, 72349,
    72350, 72355, 72448, 72458, 72673, 72674, 72769, 72774, 72816, 72818, 73463, 73465, 73539,
    73552, 73727, 73728, 74864, 74869, 77809, 77811, 92782, 92784, 92917, 92918, 92983, 92988,
    92996, 92997, 93549, 93552, 93847, 93851, 94178, 94179, 113823, 113824, 121479, 121484,
    124415, 124416, 125278, 125280]

def otherPunctuationBoundaries : Array Nat :=
  otherPunctuationBoundaries0 ++ otherPunctuationBoundaries1

def mathSymbolBoundaries : Array Nat :=
  #[
    43, 44, 60, 63, 124, 125, 126, 127, 172, 173, 177, 178, 215, 216, 247, 248, 1014, 1015, 1542,
    1545, 8260, 8261, 8274, 8275, 8314, 8317, 8330, 8333, 8472, 8473, 8512, 8517, 8523, 8524,
    8592, 8597, 8602, 8604, 8608, 8609, 8611, 8612, 8614, 8615, 8622, 8623, 8654, 8656, 8658,
    8659, 8660, 8661, 8692, 8960, 8992, 8994, 9084, 9085, 9115, 9140, 9180, 9186, 9655, 9656,
    9665, 9666, 9720, 9728, 9839, 9840, 10176, 10181, 10183, 10214, 10224, 10240, 10496, 10627,
    10649, 10712, 10716, 10748, 10750, 11008, 11056, 11077, 11079, 11085, 64297, 64298, 65122,
    65123, 65124, 65127, 65291, 65292, 65308, 65311, 65372, 65373, 65374, 65375, 65506, 65507,
    65513, 65517, 69006, 69008, 120513, 120514, 120539, 120540, 120571, 120572, 120597, 120598,
    120629, 120630, 120655, 120656, 120687, 120688, 120713, 120714, 120745, 120746, 120771,
    120772, 126704, 126706]

def currencySymbolBoundaries : Array Nat :=
  #[
    36, 37, 162, 166, 1423, 1424, 1547, 1548, 2046, 2048, 2546, 2548, 2555, 2556, 2801, 2802,
    3065, 3066, 3647, 3648, 6107, 6108, 8352, 8385, 43064, 43065, 65020, 65021, 65129, 65130,
    65284, 65285, 65504, 65506, 65509, 65511, 73693, 73697, 123647, 123648, 126128, 126129]

def modifierSymbolBoundaries : Array Nat :=
  #[
    94, 95, 96, 97, 168, 169, 175, 176, 180, 181, 184, 185, 706, 710, 722, 736, 741, 748, 749,
    750, 751, 768, 885, 886, 900, 902, 2184, 2185, 8125, 8126, 8127, 8130, 8141, 8144, 8157,
    8160, 8173, 8176, 8189, 8191, 12443, 12445, 42752, 42775, 42784, 42786, 42889, 42891, 43867,
    43868, 43882, 43884, 64434, 64451, 65342, 65343, 65344, 65345, 65507, 65508, 127995, 128000]

def otherSymbolBoundaries0 : Array Nat :=
  #[
    166, 167, 169, 170, 174, 175, 176, 177, 1154, 1155, 1421, 1423, 1550, 1552, 1758, 1759, 1769,
    1770, 1789, 1791, 2038, 2039, 2554, 2555, 2928, 2929, 3059, 3065, 3066, 3067, 3199, 3200,
    3407, 3408, 3449, 3450, 3841, 3844, 3859, 3860, 3861, 3864, 3866, 3872, 3892, 3893, 3894,
    3895, 3896, 3897, 4030, 4038, 4039, 4045, 4046, 4048, 4053, 4057, 4254, 4256, 5008, 5018,
    5741, 5742, 6464, 6465, 6622, 6656, 7009, 7019, 7028, 7037, 8448, 8450, 8451, 8455, 8456,
    8458, 8468, 8469, 8470, 8472, 8478, 8484, 8485, 8486, 8487, 8488, 8489, 8490, 8494, 8495,
    8506, 8508, 8522, 8523, 8524, 8526, 8527, 8528, 8586, 8588, 8597, 8602, 8604, 8608, 8609,
    8611, 8612, 8614, 8615, 8622, 8623, 8654, 8656, 8658, 8659, 8660, 8661, 8692, 8960, 8968,
    8972, 8992, 8994, 9001, 9003, 9084, 9085, 9115, 9140, 9180, 9186, 9258, 9280, 9291, 9372,
    9450, 9472, 9655, 9656, 9665, 9666, 9720, 9728, 9839, 9840, 10088, 10132, 10176, 10240,
    10496, 11008, 11056, 11077, 11079, 11085, 11124, 11126, 11158, 11159, 11264, 11493, 11499,
    11856, 11858, 11904, 11930, 11931, 12020, 12032, 12246, 12272, 12288, 12292, 12293, 12306,
    12308, 12320, 12321, 12342, 12344, 12350, 12352, 12688, 12690, 12694, 12704, 12736, 12774,
    12783, 12784, 12800, 12831, 12842, 12872, 12880, 12881, 12896, 12928, 12938, 12977, 12992,
    13312, 19904, 19968, 42128, 42183, 43048, 43052, 43062, 43064, 43065, 43066, 43639, 43642,
    64832, 64848, 64975, 64976, 65021, 65024, 65508, 65509, 65512, 65513, 65517, 65519, 65532,
    65534, 65847, 65856, 65913, 65930, 65932, 65935, 65936, 65949, 65952, 65953]

def otherSymbolBoundaries1 : Array Nat :=
  #[
    66000, 66045, 67703, 67705, 68296, 68297, 71487, 71488, 73685, 73693, 73697, 73714, 92988,
    92992, 92997, 92998, 113820, 113821, 117760, 118000, 118016, 118452, 118608, 118724, 118784,
    119030, 119040, 119079, 119081, 119141, 119146, 119149, 119171, 119173, 119180, 119210,
    119214, 119275, 119296, 119362, 119365, 119366, 119552, 119639, 120832, 121344, 121399,
    121403, 121453, 121461, 121462, 121476, 121477, 121479, 123215, 123216, 126124, 126125,
    126254, 126255, 126976, 127020, 127024, 127124, 127136, 127151, 127153, 127168, 127169,
    127184, 127185, 127222, 127245, 127406, 127462, 127491, 127504, 127548, 127552, 127561,
    127568, 127570, 127584, 127590, 127744, 127995, 128000, 128728, 128732, 128749, 128752,
    128765, 128768, 128887, 128891, 128986, 128992, 129004, 129008, 129009, 129024, 129036,
    129040, 129096, 129104, 129114, 129120, 129160, 129168, 129198, 129200, 129212, 129216,
    129218, 129280, 129620, 129632, 129646, 129648, 129661, 129664, 129674, 129679, 129735,
    129742, 129757, 129759, 129770, 129776, 129785, 129792, 129939, 129940, 130032]

def otherSymbolBoundaries : Array Nat :=
  otherSymbolBoundaries0 ++ otherSymbolBoundaries1

end Highlight.Text.Category
