import AssetBundle.Text.Blank

/-!
# AssetBundle.Hostname.Marks

Combining marks among the letters of host names. Every mark has a class: marks of different
classes behind one letter may be written in any order, and their normal order is by class. Class
nine is that of the marks that silence a vowel.
-/

namespace AssetBundle
namespace Hostname

/-- First and last mark of a run, and their class. -/
abbrev MarkRun := Nat × Nat × Nat

def nonspacingMarks : List MarkRun := [
  (768, 788, 230), (789, 789, 232), (790, 793, 220), (794, 794, 232), (795, 795, 216),
  (796, 800, 220), (801, 802, 202), (803, 806, 220), (807, 808, 202), (809, 819, 220),
  (820, 824, 1), (825, 828, 220), (829, 831, 230), (834, 834, 230), (838, 838, 230),
  (839, 841, 220), (842, 844, 230), (845, 846, 220), (848, 850, 230), (851, 854, 220),
  (855, 855, 230), (856, 856, 232), (857, 858, 220), (859, 859, 230), (860, 860, 233),
  (861, 862, 234), (863, 863, 233), (864, 865, 234), (866, 866, 233), (867, 879, 230),
  (1155, 1159, 230), (1425, 1425, 220), (1426, 1429, 230), (1430, 1430, 220), (1431, 1433, 230),
  (1434, 1434, 222), (1435, 1435, 220), (1436, 1441, 230), (1442, 1447, 220), (1448, 1449, 230),
  (1450, 1450, 220), (1451, 1452, 230), (1453, 1453, 222), (1454, 1454, 228), (1455, 1455, 230),
  (1456, 1456, 10), (1457, 1457, 11), (1458, 1458, 12), (1459, 1459, 13), (1460, 1460, 14),
  (1461, 1461, 15), (1462, 1462, 16), (1463, 1463, 17), (1464, 1464, 18), (1465, 1466, 19),
  (1467, 1467, 20), (1468, 1468, 21), (1469, 1469, 22), (1471, 1471, 23), (1473, 1473, 24),
  (1474, 1474, 25), (1476, 1476, 230), (1477, 1477, 220), (1479, 1479, 18), (1552, 1559, 230),
  (1560, 1560, 30), (1561, 1561, 31), (1562, 1562, 32), (1611, 1611, 27), (1612, 1612, 28),
  (1613, 1613, 29), (1614, 1614, 30), (1615, 1615, 31), (1616, 1616, 32), (1617, 1617, 33),
  (1618, 1618, 34), (1619, 1620, 230), (1621, 1622, 220), (1623, 1627, 230), (1628, 1628, 220),
  (1629, 1630, 230), (1631, 1631, 220), (1648, 1648, 35), (1750, 1756, 230), (1759, 1762, 230),
  (1763, 1763, 220), (1764, 1764, 230), (1767, 1768, 230), (1770, 1770, 220), (1771, 1772, 230),
  (1773, 1773, 220), (1809, 1809, 36), (1840, 1840, 230), (1841, 1841, 220), (1842, 1843, 230),
  (1844, 1844, 220), (1845, 1846, 230), (1847, 1849, 220), (1850, 1850, 230), (1851, 1852, 220),
  (1853, 1853, 230), (1854, 1854, 220), (1855, 1857, 230), (1858, 1858, 220), (1859, 1859, 230),
  (1860, 1860, 220), (1861, 1861, 230), (1862, 1862, 220), (1863, 1863, 230), (1864, 1864, 220),
  (1865, 1866, 230), (1958, 1968, 0), (2027, 2033, 230), (2034, 2034, 220), (2035, 2035, 230),
  (2045, 2045, 220), (2070, 2073, 230), (2075, 2083, 230), (2085, 2087, 230), (2089, 2093, 230),
  (2137, 2139, 220), (2200, 2200, 230), (2201, 2203, 220), (2204, 2207, 230), (2250, 2254, 230),
  (2255, 2259, 220), (2260, 2273, 230), (2275, 2275, 220), (2276, 2277, 230), (2278, 2278, 220),
  (2279, 2280, 230), (2281, 2281, 220), (2282, 2284, 230), (2285, 2287, 220), (2288, 2288, 27),
  (2289, 2289, 28), (2290, 2290, 29), (2291, 2293, 230), (2294, 2294, 220), (2295, 2296, 230),
  (2297, 2298, 220), (2299, 2303, 230), (2304, 2306, 0), (2362, 2362, 0), (2364, 2364, 7),
  (2369, 2376, 0), (2381, 2381, 9), (2385, 2385, 230), (2386, 2386, 220), (2387, 2388, 230),
  (2389, 2391, 0), (2402, 2403, 0), (2433, 2433, 0), (2492, 2492, 7), (2497, 2500, 0),
  (2509, 2509, 9), (2530, 2531, 0), (2558, 2558, 230), (2561, 2562, 0), (2620, 2620, 7),
  (2625, 2626, 0), (2631, 2632, 0), (2635, 2636, 0), (2637, 2637, 9), (2641, 2641, 0),
  (2672, 2673, 0), (2677, 2677, 0), (2689, 2690, 0), (2748, 2748, 7), (2753, 2757, 0),
  (2759, 2760, 0), (2765, 2765, 9), (2786, 2787, 0), (2810, 2815, 0), (2817, 2817, 0),
  (2876, 2876, 7), (2879, 2879, 0), (2881, 2884, 0), (2893, 2893, 9), (2901, 2902, 0),
  (2914, 2915, 0), (2946, 2946, 0), (3008, 3008, 0), (3021, 3021, 9), (3072, 3072, 0),
  (3076, 3076, 0), (3132, 3132, 7), (3134, 3136, 0), (3142, 3144, 0), (3146, 3148, 0),
  (3149, 3149, 9), (3157, 3157, 84), (3158, 3158, 91), (3170, 3171, 0), (3201, 3201, 0),
  (3260, 3260, 7), (3263, 3263, 0), (3270, 3270, 0), (3276, 3276, 0), (3277, 3277, 9),
  (3298, 3299, 0), (3328, 3329, 0), (3387, 3388, 9), (3393, 3396, 0), (3405, 3405, 9),
  (3426, 3427, 0), (3457, 3457, 0), (3530, 3530, 9), (3538, 3540, 0), (3542, 3542, 0),
  (3633, 3633, 0), (3636, 3639, 0), (3640, 3641, 103), (3642, 3642, 9), (3655, 3655, 0),
  (3656, 3659, 107), (3660, 3662, 0), (3761, 3761, 0), (3764, 3767, 0), (3768, 3769, 118),
  (3770, 3770, 9), (3771, 3772, 0), (3784, 3787, 122), (3788, 3789, 0), (3864, 3865, 220),
  (3893, 3893, 220), (3895, 3895, 220), (3897, 3897, 216), (3953, 3953, 129), (3954, 3954, 130),
  (3956, 3956, 132), (3962, 3965, 130), (3966, 3966, 0), (3968, 3968, 130), (3970, 3971, 230),
  (3972, 3972, 9), (3974, 3975, 230), (3981, 3986, 0), (3988, 3991, 0), (3993, 3996, 0),
  (3998, 4001, 0), (4003, 4006, 0), (4008, 4011, 0), (4013, 4024, 0), (4026, 4028, 0),
  (4038, 4038, 220), (4141, 4144, 0), (4146, 4150, 0), (4151, 4151, 7), (4153, 4154, 9),
  (4157, 4158, 0), (4184, 4185, 0), (4190, 4192, 0), (4209, 4212, 0), (4226, 4226, 0),
  (4229, 4230, 0), (4237, 4237, 220), (4253, 4253, 0), (4957, 4959, 230), (5906, 5907, 0),
  (5908, 5908, 9), (5938, 5939, 0), (5970, 5971, 0), (6002, 6003, 0), (6071, 6077, 0),
  (6086, 6086, 0), (6089, 6097, 0), (6098, 6098, 9), (6099, 6099, 0), (6109, 6109, 230),
  (6277, 6278, 0), (6313, 6313, 228), (6432, 6434, 0), (6439, 6440, 0), (6450, 6450, 0),
  (6457, 6457, 222), (6458, 6458, 230), (6459, 6459, 220), (6679, 6679, 230), (6680, 6680, 220),
  (6683, 6683, 0), (6742, 6742, 0), (6744, 6750, 0), (6752, 6752, 9), (6754, 6754, 0),
  (6757, 6764, 0), (6771, 6772, 0), (6773, 6780, 230), (6783, 6783, 220), (6832, 6836, 230),
  (6837, 6842, 220), (6843, 6844, 230), (6845, 6845, 220), (6847, 6848, 220), (6849, 6850, 230),
  (6851, 6852, 220), (6853, 6857, 230), (6858, 6858, 220), (6859, 6862, 230), (6912, 6915, 0),
  (6964, 6964, 7), (6966, 6970, 0), (6972, 6972, 0), (6978, 6978, 0), (7019, 7019, 230),
  (7020, 7020, 220), (7021, 7027, 230), (7040, 7041, 0), (7074, 7077, 0), (7080, 7081, 0),
  (7083, 7083, 9), (7084, 7085, 0), (7142, 7142, 7), (7144, 7145, 0), (7149, 7149, 0),
  (7151, 7153, 0), (7212, 7219, 0), (7222, 7222, 0), (7223, 7223, 7), (7376, 7378, 230),
  (7380, 7380, 1), (7381, 7385, 220), (7386, 7387, 230), (7388, 7391, 220), (7392, 7392, 230),
  (7394, 7400, 1), (7405, 7405, 220), (7412, 7412, 230), (7416, 7417, 230), (7616, 7617, 230),
  (7618, 7618, 220), (7619, 7625, 230), (7626, 7626, 220), (7627, 7628, 230), (7629, 7629, 234),
  (7630, 7630, 214), (7631, 7631, 220), (7632, 7632, 202), (7633, 7669, 230), (7670, 7670, 232),
  (7671, 7672, 228), (7673, 7673, 220), (7674, 7674, 218), (7675, 7675, 230), (7676, 7676, 233),
  (7677, 7677, 220), (7678, 7678, 230), (7679, 7679, 220), (11503, 11505, 230), (11647, 11647, 9),
  (11744, 11775, 230), (12330, 12330, 218), (12331, 12331, 228), (12332, 12332, 232),
  (12333, 12333, 222), (12441, 12442, 8), (42607, 42607, 230), (42612, 42621, 230),
  (42654, 42655, 230), (42736, 42737, 230), (43010, 43010, 0), (43014, 43014, 9), (43019, 43019, 0),
  (43045, 43046, 0), (43052, 43052, 9), (43204, 43204, 9), (43205, 43205, 0), (43232, 43249, 230),
  (43263, 43263, 0), (43302, 43306, 0), (43307, 43309, 220), (43335, 43345, 0), (43392, 43394, 0),
  (43443, 43443, 7), (43446, 43449, 0), (43452, 43453, 0), (43493, 43493, 0), (43561, 43566, 0),
  (43569, 43570, 0), (43573, 43574, 0), (43587, 43587, 0), (43596, 43596, 0), (43644, 43644, 0),
  (43696, 43696, 230), (43698, 43699, 230), (43700, 43700, 220), (43703, 43704, 230),
  (43710, 43711, 230), (43713, 43713, 230), (43756, 43757, 0), (43766, 43766, 9), (44005, 44005, 0),
  (44008, 44008, 0), (44013, 44013, 9), (64286, 64286, 26), (65056, 65062, 230),
  (65063, 65069, 220), (65070, 65071, 230), (66045, 66045, 220), (66272, 66272, 220),
  (66422, 66426, 230), (68097, 68099, 0), (68101, 68102, 0), (68108, 68108, 0), (68109, 68109, 220),
  (68110, 68110, 0), (68111, 68111, 230), (68152, 68152, 230), (68153, 68153, 1),
  (68154, 68154, 220), (68159, 68159, 9), (68325, 68325, 230), (68326, 68326, 220),
  (68900, 68903, 230), (69291, 69292, 230), (69446, 69447, 220), (69448, 69450, 230),
  (69451, 69451, 220), (69452, 69452, 230), (69453, 69456, 220), (69506, 69506, 230),
  (69507, 69507, 220), (69508, 69508, 230), (69509, 69509, 220), (69633, 69633, 0),
  (69688, 69701, 0), (69702, 69702, 9), (69744, 69744, 9), (69747, 69748, 0), (69759, 69759, 9),
  (69760, 69761, 0), (69811, 69814, 0), (69817, 69817, 9), (69818, 69818, 7), (69826, 69826, 0),
  (69888, 69890, 230), (69927, 69931, 0), (69933, 69938, 0), (69939, 69940, 9), (70003, 70003, 7),
  (70016, 70017, 0), (70070, 70078, 0), (70089, 70089, 0), (70090, 70090, 7), (70091, 70092, 0),
  (70095, 70095, 0), (70191, 70193, 0), (70196, 70196, 0), (70198, 70198, 7), (70199, 70199, 0),
  (70206, 70206, 0), (70367, 70367, 0), (70371, 70376, 0), (70377, 70377, 7), (70378, 70378, 9),
  (70400, 70401, 0), (70459, 70460, 7), (70464, 70464, 0), (70502, 70508, 230), (70512, 70516, 230),
  (70712, 70719, 0), (70722, 70722, 9), (70723, 70724, 0), (70726, 70726, 7), (70750, 70750, 230),
  (70835, 70840, 0), (70842, 70842, 0), (70847, 70848, 0), (70850, 70850, 9), (70851, 70851, 7),
  (71090, 71093, 0), (71100, 71101, 0), (71103, 71103, 9), (71104, 71104, 7), (71132, 71133, 0),
  (71219, 71226, 0), (71229, 71229, 0), (71231, 71231, 9), (71232, 71232, 0), (71339, 71339, 0),
  (71341, 71341, 0), (71344, 71349, 0), (71351, 71351, 7), (71453, 71455, 0), (71458, 71461, 0),
  (71463, 71466, 0), (71467, 71467, 9), (71727, 71735, 0), (71737, 71737, 9), (71738, 71738, 7),
  (71995, 71996, 0), (71998, 71998, 9), (72003, 72003, 7), (72148, 72151, 0), (72154, 72155, 0),
  (72160, 72160, 9), (72193, 72202, 0), (72243, 72243, 0), (72244, 72244, 9), (72245, 72248, 0),
  (72251, 72254, 0), (72263, 72263, 9), (72273, 72278, 0), (72281, 72283, 0), (72330, 72342, 0),
  (72344, 72344, 0), (72345, 72345, 9), (72752, 72758, 0), (72760, 72765, 0), (72767, 72767, 9),
  (72850, 72871, 0), (72874, 72880, 0), (72882, 72883, 0), (72885, 72886, 0), (73009, 73014, 0),
  (73018, 73018, 0), (73020, 73021, 0), (73023, 73025, 0), (73026, 73026, 7), (73027, 73027, 0),
  (73028, 73029, 9), (73031, 73031, 0), (73104, 73105, 0), (73109, 73109, 0), (73111, 73111, 9),
  (73459, 73460, 0), (92912, 92916, 1), (92976, 92982, 230), (94031, 94031, 0), (94095, 94098, 0),
  (94180, 94180, 0), (113821, 113821, 0), (113822, 113822, 1), (118528, 118573, 0),
  (118576, 118598, 0), (121344, 121398, 0), (121403, 121452, 0), (121461, 121461, 0),
  (121476, 121476, 0), (121499, 121503, 0), (121505, 121519, 0), (122880, 122886, 230),
  (122888, 122904, 230), (122907, 122913, 230), (122915, 122916, 230), (122918, 122922, 230),
  (123184, 123190, 230), (123566, 123566, 230), (123628, 123631, 230), (125136, 125142, 220),
  (125252, 125257, 230), (125258, 125258, 7)]

def spacingMarks : List MarkRun := [
  (2307, 2307, 0), (2363, 2363, 0), (2366, 2368, 0), (2377, 2380, 0), (2382, 2383, 0),
  (2434, 2435, 0), (2494, 2496, 0), (2503, 2504, 0), (2507, 2508, 0), (2519, 2519, 0),
  (2563, 2563, 0), (2622, 2624, 0), (2691, 2691, 0), (2750, 2752, 0), (2761, 2761, 0),
  (2763, 2764, 0), (2818, 2819, 0), (2878, 2878, 0), (2880, 2880, 0), (2887, 2888, 0),
  (2891, 2892, 0), (2903, 2903, 0), (3006, 3007, 0), (3009, 3010, 0), (3014, 3016, 0),
  (3018, 3020, 0), (3031, 3031, 0), (3073, 3075, 0), (3137, 3140, 0), (3202, 3203, 0),
  (3262, 3262, 0), (3264, 3268, 0), (3271, 3272, 0), (3274, 3275, 0), (3285, 3286, 0),
  (3330, 3331, 0), (3390, 3392, 0), (3398, 3400, 0), (3402, 3404, 0), (3415, 3415, 0),
  (3458, 3459, 0), (3535, 3537, 0), (3544, 3551, 0), (3570, 3571, 0), (3902, 3903, 0),
  (3967, 3967, 0), (4139, 4140, 0), (4145, 4145, 0), (4152, 4152, 0), (4155, 4156, 0),
  (4182, 4183, 0), (4194, 4196, 0), (4199, 4205, 0), (4227, 4228, 0), (4231, 4236, 0),
  (4239, 4239, 0), (4250, 4252, 0), (5909, 5909, 9), (5940, 5940, 9), (6070, 6070, 0),
  (6078, 6085, 0), (6087, 6088, 0), (6435, 6438, 0), (6441, 6443, 0), (6448, 6449, 0),
  (6451, 6456, 0), (6681, 6682, 0), (6741, 6741, 0), (6743, 6743, 0), (6753, 6753, 0),
  (6755, 6756, 0), (6765, 6770, 0), (6916, 6916, 0), (6965, 6965, 0), (6971, 6971, 0),
  (6973, 6977, 0), (6979, 6979, 0), (6980, 6980, 9), (7042, 7042, 0), (7073, 7073, 0),
  (7078, 7079, 0), (7082, 7082, 9), (7143, 7143, 0), (7146, 7148, 0), (7150, 7150, 0),
  (7154, 7155, 9), (7204, 7211, 0), (7220, 7221, 0), (7393, 7393, 0), (7415, 7415, 0),
  (43043, 43044, 0), (43047, 43047, 0), (43136, 43137, 0), (43188, 43203, 0), (43346, 43346, 0),
  (43347, 43347, 9), (43395, 43395, 0), (43444, 43445, 0), (43450, 43451, 0), (43454, 43455, 0),
  (43456, 43456, 9), (43567, 43568, 0), (43571, 43572, 0), (43597, 43597, 0), (43643, 43643, 0),
  (43645, 43645, 0), (43755, 43755, 0), (43758, 43759, 0), (43765, 43765, 0), (44003, 44004, 0),
  (44006, 44007, 0), (44009, 44010, 0), (44012, 44012, 0), (69632, 69632, 0), (69634, 69634, 0),
  (69762, 69762, 0), (69808, 69810, 0), (69815, 69816, 0), (69932, 69932, 0), (69957, 69958, 0),
  (70018, 70018, 0), (70067, 70069, 0), (70079, 70079, 0), (70080, 70080, 9), (70094, 70094, 0),
  (70188, 70190, 0), (70194, 70195, 0), (70197, 70197, 9), (70368, 70370, 0), (70402, 70403, 0),
  (70462, 70463, 0), (70465, 70468, 0), (70471, 70472, 0), (70475, 70476, 0), (70477, 70477, 9),
  (70487, 70487, 0), (70498, 70499, 0), (70709, 70711, 0), (70720, 70721, 0), (70725, 70725, 0),
  (70832, 70834, 0), (70841, 70841, 0), (70843, 70846, 0), (70849, 70849, 0), (71087, 71089, 0),
  (71096, 71099, 0), (71102, 71102, 0), (71216, 71218, 0), (71227, 71228, 0), (71230, 71230, 0),
  (71340, 71340, 0), (71342, 71343, 0), (71350, 71350, 9), (71456, 71457, 0), (71462, 71462, 0),
  (71724, 71726, 0), (71736, 71736, 0), (71984, 71989, 0), (71991, 71992, 0), (71997, 71997, 9),
  (72000, 72000, 0), (72002, 72002, 0), (72145, 72147, 0), (72156, 72159, 0), (72164, 72164, 0),
  (72249, 72249, 0), (72279, 72280, 0), (72343, 72343, 0), (72751, 72751, 0), (72766, 72766, 0),
  (72873, 72873, 0), (72881, 72881, 0), (72884, 72884, 0), (73098, 73102, 0), (73107, 73108, 0),
  (73110, 73110, 0), (73461, 73462, 0), (94033, 94087, 0), (94192, 94193, 6)]

def runOf? (runs : List MarkRun) (c : CodePoint) : Option MarkRun :=
  runs.find? fun run => run.1 ≤ c.val && c.val ≤ run.2.1

def isNonspacing (c : CodePoint) : Bool := (runOf? nonspacingMarks c).isSome

def isMark (c : CodePoint) : Bool := isNonspacing c || (runOf? spacingMarks c).isSome

/-- The class of a mark. All else has class zero. -/
def markClass (c : CodePoint) : Nat :=
  match runOf? (nonspacingMarks ++ spacingMarks) c with
  | some (_, _, number) => number
  | none => 0

/-- The class of the marks that silence a vowel. -/
def silencer : Nat := 9

end Hostname
end AssetBundle
