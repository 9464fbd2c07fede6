/- digest: The code ranges of letters and digits of all scripts. -/

import Assay.Text.Ranges

set_option autoImplicit false
set_option relaxedAutoImplicit false

namespace Assay.Text.Table

def alphabetic : CodeRanges := CodeRanges.ofSteps [
    65, 25, 7, 25, 48, 0, 11, 0, 5, 0, 6, 22, 2, 30, 2, 457, 5, 11, 15, 4, 8, 0, 2, 0, 87, 0, 30,
    17, 2, 1, 3, 3, 2, 0, 7, 0, 2, 2, 2, 0, 2, 19, 2, 82, 2, 138, 9, 165, 2, 37, 3, 0, 7, 40, 40,
    13, 2, 0, 2, 1, 2, 1, 2, 0, 9, 26, 5, 3, 30, 10, 6, 55, 2, 6, 15, 101, 2, 7, 5, 7, 5, 2, 11,
    2, 3, 0, 17, 47, 14, 100, 25, 32, 10, 1, 5, 0, 6, 23, 3, 18, 20, 24, 8, 10, 6, 23, 2, 6, 8, 0,
    9, 41, 11, 11, 4, 6, 7, 75, 2, 15, 2, 2, 5, 14, 14, 18, 2, 7, 3, 1, 3, 21, 2, 6, 2, 0, 4, 3,
    4, 7, 3, 1, 3, 1, 2, 0, 9, 0, 5, 1, 2, 4, 13, 1, 11, 0, 5, 2, 2, 5, 5, 1, 3, 21, 2, 6, 2, 1,
    2, 1, 2, 1, 5, 4, 5, 1, 3, 1, 5, 0, 8, 3, 2, 0, 18, 5, 12, 2, 2, 8, 2, 2, 2, 21, 2, 6, 2, 1,
    2, 4, 4, 8, 2, 2, 2, 1, 4, 0, 16, 3, 22, 3, 5, 2, 2, 7, 3, 1, 3, 21, 2, 6, 2, 1, 2, 4, 4, 7,
    3, 1, 3, 1, 10, 1, 5, 1, 2, 4, 14, 0, 17, 1, 2, 5, 4, 2, 2, 3, 4, 1, 2, 0, 2, 1, 4, 1, 4, 2,
    4, 11, 5, 4, 4, 2, 2, 2, 4, 0, 7, 0, 41, 12, 2, 2, 2, 22, 2, 15, 4, 7, 2, 2, 2, 2, 9, 1, 2, 2,
    2, 1, 3, 3, 29, 3, 2, 7, 2, 2, 2, 22, 2, 9, 2, 4, 4, 7, 2, 2, 2, 2, 9, 1, 6, 2, 2, 3, 14, 2,
    13, 12, 2, 2, 2, 40, 3, 7, 2, 2, 2, 2, 2, 0, 6, 3, 8, 4, 23, 5, 2, 2, 2, 17, 4, 23, 2, 8, 2,
    0, 3, 6, 9, 5, 2, 0, 2, 7, 19, 1, 14, 57, 6, 6, 7, 0, 52, 1, 2, 0, 2, 4, 2, 23, 2, 0, 2, 18,
    2, 2, 3, 4, 2, 0, 7, 0, 15, 3, 33, 0, 64, 7, 2, 35, 5, 18, 5, 15, 2, 35, 68, 54, 2, 0, 3, 4,
    17, 63, 11, 3, 3, 37, 2, 0, 6, 0, 3, 42, 2, 332, 2, 3, 3, 6, 2, 0, 2, 3, 3, 40, 2, 3, 3, 32,
    2, 3, 3, 6, 2, 0, 2, 3, 3, 14, 2, 56, 2, 3, 3, 66, 38, 15, 17, 85, 3, 5, 4, 619, 3, 16, 2, 25,
    6, 74, 4, 10, 8, 19, 12, 20, 13, 19, 13, 12, 2, 2, 2, 1, 13, 51, 3, 18, 15, 0, 5, 0, 68, 88,
    8, 42, 6, 69, 11, 30, 2, 11, 5, 8, 24, 29, 3, 4, 12, 43, 5, 25, 55, 27, 5, 62, 3, 19, 51, 0,
    24, 1, 12, 2, 50, 51, 2, 14, 2, 7, 52, 41, 3, 3, 11, 43, 2, 10, 15, 54, 23, 2, 11, 35, 3, 10,
    6, 42, 3, 2, 42, 3, 2, 5, 2, 1, 4, 0, 6, 191, 20, 33, 12, 277, 3, 5, 3, 37, 3, 5, 3, 7, 2, 0,
    2, 0, 2, 0, 2, 30, 3, 52, 2, 6, 2, 0, 4, 2, 2, 6, 4, 3, 3, 5, 5, 12, 6, 2, 2, 6, 117, 0, 14,
    0, 17, 12, 102, 0, 5, 0, 3, 9, 2, 0, 4, 4, 7, 0, 2, 0, 2, 0, 2, 3, 2, 10, 3, 3, 6, 4, 5, 0,
    18, 40, 814, 51, 1815, 228, 7, 3, 4, 1, 13, 37, 2, 0, 6, 0, 3, 55, 8, 0, 17, 22, 10, 6, 2, 6,
    2, 6, 2, 6, 2, 6, 2, 6, 2, 6, 2, 6, 2, 31, 48, 0, 470, 2, 26, 8, 8, 4, 3, 4, 5, 85, 7, 2, 2,
    89, 2, 3, 6, 42, 2, 93, 18, 31, 49, 15, 513, 6591, 65, 22156, 68, 45, 3, 268, 4, 15, 11, 1,
    21, 46, 6, 7, 4, 112, 40, 8, 3, 102, 3, 81, 21, 20, 2, 32, 25, 51, 13, 67, 2, 0, 45, 5, 4, 0,
    2, 2, 11, 32, 6, 34, 14, 28, 4, 50, 2, 11, 16, 0, 17, 15, 11, 4, 2, 54, 10, 13, 19, 22, 4, 68,
    2, 0, 2, 0, 25, 2, 3, 15, 3, 3, 12, 5, 3, 5, 3, 5, 10, 6, 2, 6, 2, 42, 2, 13, 7, 122, 22,
    11171, 13, 22, 5, 48, 8453, 365, 3, 105, 39, 6, 13, 4, 6, 11, 2, 12, 2, 4, 2, 0, 2, 1, 2, 1,
    2, 107, 34, 362, 19, 63, 3, 53, 41, 11, 117, 4, 2, 134, 37, 25, 7, 25, 12, 88, 4, 5, 3, 5, 3,
    5, 3, 2, 36, 11, 2, 25, 2, 18, 2, 1, 2, 14, 3, 13, 35, 122, 70, 52, 268, 28, 4, 48, 48, 31,
    14, 29, 6, 42, 6, 29, 3, 35, 5, 7, 2, 4, 43, 157, 19, 35, 5, 35, 5, 39, 9, 51, 13, 10, 2, 14,
    2, 6, 2, 1, 2, 10, 2, 14, 2, 6, 2, 1, 4, 51, 13, 310, 10, 21, 11, 7, 25, 5, 2, 41, 2, 8, 70,
    5, 3, 0, 2, 43, 2, 1, 4, 0, 3, 22, 11, 22, 10, 30, 66, 18, 2, 1, 11, 21, 11, 25, 7, 25, 39,
    55, 7, 1, 65, 3, 2, 1, 6, 7, 2, 2, 2, 28, 43, 28, 4, 28, 36, 7, 2, 27, 28, 53, 11, 21, 11, 18,
    14, 17, 111, 72, 56, 50, 14, 50, 14, 39, 35, 27, 4, 0, 6, 22, 251, 41, 2, 1, 4, 1, 17, 5, 51,
    2, 4, 28, 11, 0, 9, 21, 43, 17, 47, 20, 28, 22, 10, 69, 44, 4, 11, 56, 10, 0, 14, 24, 24, 50,
    18, 3, 9, 34, 4, 0, 10, 63, 2, 3, 10, 1, 11, 0, 2, 0, 36, 17, 2, 33, 3, 0, 7, 3, 63, 6, 2, 0,
    2, 3, 2, 14, 2, 9, 8, 56, 24, 3, 2, 7, 3, 1, 3, 21, 2, 6, 2, 1, 2, 4, 4, 7, 3, 1, 3, 1, 4, 0,
    7, 0, 6, 6, 29, 9, 2, 0, 3, 0, 2, 37, 2, 9, 2, 0, 3, 0, 2, 3, 2, 1, 4, 0, 2, 0, 45, 65, 2, 2,
    2, 3, 21, 2, 31, 65, 3, 1, 2, 0, 185, 53, 3, 6, 26, 5, 35, 62, 2, 0, 4, 0, 60, 53, 3, 0, 72,
    26, 3, 13, 22, 6, 186, 56, 104, 63, 32, 7, 3, 0, 3, 7, 2, 1, 2, 29, 2, 1, 3, 1, 3, 3, 94, 7,
    3, 45, 3, 5, 2, 0, 2, 1, 28, 50, 3, 9, 18, 71, 6, 0, 19, 72, 104, 7, 89, 32, 32, 8, 2, 44, 2,
    6, 2, 0, 50, 29, 3, 21, 2, 13, 74, 6, 2, 1, 2, 43, 4, 0, 2, 1, 2, 2, 2, 0, 3, 1, 25, 5, 2, 1,
    2, 36, 2, 1, 2, 3, 2, 0, 24, 43, 261, 22, 10, 16, 2, 40, 4, 2, 112, 0, 80, 921, 103, 110, 18,
    195, 2637, 96, 16, 1071, 18, 5, 26, 3994, 6, 582, 6842, 46, 1746, 568, 8, 30, 18, 78, 18, 29,
    19, 47, 17, 3, 32, 20, 6, 18, 433, 44, 212, 63, 33, 24, 3, 24, 45, 74, 5, 56, 8, 16, 65, 1, 2,
    0, 13, 6, 10, 7381, 42, 31, 98, 114, 8702, 3, 2, 6, 2, 1, 2, 290, 16, 0, 30, 2, 3, 0, 15, 3,
    9, 395, 2309, 106, 6, 12, 4, 8, 8, 9, 5, 0, 5986, 84, 2, 70, 2, 1, 3, 0, 3, 1, 3, 3, 2, 11, 2,
    0, 2, 6, 2, 64, 2, 3, 3, 7, 2, 6, 2, 27, 2, 3, 2, 4, 2, 0, 4, 6, 2, 339, 3, 24, 2, 24, 2, 30,
    2, 24, 2, 30, 2, 24, 2, 30, 2, 24, 2, 30, 2, 24, 2, 7, 1845, 30, 7, 5, 214, 6, 2, 16, 3, 6, 2,
    1, 2, 4, 6, 61, 34, 0, 113, 44, 11, 6, 17, 0, 322, 29, 19, 43, 485, 27, 229, 29, 3, 0, 208,
    30, 2, 21, 9, 1, 225, 6, 2, 3, 2, 1, 2, 14, 2, 196, 60, 67, 4, 0, 4, 0, 1205, 3, 2, 26, 2, 1,
    2, 0, 3, 0, 2, 9, 2, 3, 2, 0, 2, 0, 7, 0, 5, 0, 2, 0, 2, 0, 2, 2, 2, 1, 2, 0, 3, 0, 2, 0, 2,
    0, 2, 0, 2, 0, 2, 1, 2, 0, 3, 3, 2, 6, 2, 3, 2, 3, 2, 0, 2, 9, 2, 16, 6, 2, 2, 4, 2, 16, 629,
    25, 7, 25, 7, 25, 3703, 42719, 33, 4381, 3, 5773, 3, 7472, 16, 621, 2467, 541, 1507, 4938, 6,
    8489]

def numeric : CodeRanges := CodeRanges.ofSteps [
    48, 9, 121, 1, 6, 0, 3, 2, 1442, 9, 135, 9, 199, 9, 413, 9, 119, 9, 5, 5, 109, 9, 119, 9, 119,
    9, 3, 5, 111, 12, 116, 9, 9, 6, 104, 9, 105, 6, 8, 18, 110, 9, 97, 9, 119, 9, 71, 19, 269, 9,
    71, 9, 720, 19, 882, 2, 240, 9, 7, 9, 23, 9, 301, 9, 129, 10, 166, 9, 7, 9, 183, 9, 87, 9,
    135, 9, 7, 9, 1047, 0, 4, 5, 7, 9, 199, 50, 3, 4, 727, 59, 79, 21, 631, 29, 1386, 0, 778, 0,
    26, 8, 15, 2, 344, 3, 139, 9, 31, 7, 2, 14, 33, 9, 40, 14, 29537, 9, 189, 9, 321, 5, 155, 9,
    39, 9, 199, 9, 23, 9, 87, 9, 407, 9, 21271, 9, 494, 44, 13, 56, 18, 1, 342, 26, 37, 3, 30, 0,
    9, 0, 135, 4, 203, 9, 943, 7, 26, 6, 40, 8, 76, 4, 23, 5, 161, 1, 3, 15, 3, 45, 65, 8, 53, 1,
    31, 2, 76, 4, 105, 7, 25, 7, 42, 6, 331, 5, 49, 9, 7, 9, 279, 30, 159, 9, 43, 3, 113, 6, 135,
    29, 129, 9, 61, 9, 145, 9, 8, 19, 252, 9, 343, 9, 119, 9, 375, 9, 103, 9, 7, 19, 77, 11, 421,
    18, 94, 9, 663, 9, 87, 28, 228, 9, 71, 9, 55, 9, 359, 9, 103, 20, 1068, 110, 15554, 9, 2343,
    9, 87, 9, 135, 9, 2, 6, 527, 9, 263, 22, 350, 2, 23802, 9, 1479, 19, 13, 19, 109, 24, 1110,
    49, 2369, 9, 423, 9, 503, 9, 248, 9, 717, 8, 129, 9, 792, 58, 2, 2, 2, 3, 77, 44, 2, 14, 963,
    12, 2788, 9]

end Assay.Text.Table
