/- digest: Case mappings, and the code ranges that decide final sigma. -/

import Assay.Text.Forms

set_option autoImplicit false
set_option relaxedAutoImplicit false

namespace Assay.Text.Table

def cased : CodeRanges := CodeRanges.ofSteps [
    65, 25, 7, 25, 48, 0, 11, 0, 5, 0, 6, 22, 2, 30, 2, 194, 2, 3, 5, 207, 3, 34, 8, 1, 31, 4,
    97, 0, 43, 3, 3, 1, 3, 3, 2, 0, 7, 0, 2, 2, 2, 0, 2, 19, 2, 82, 2, 138, 9, 165, 2, 37, 10,
    40, 2840, 37, 2, 0, 6, 0, 3, 42, 2, 3, 673, 85, 3, 5, 2179, 10, 6, 42, 3, 2, 65, 191, 65,
    277, 3, 5, 3, 37, 3, 5, 3, 7, 2, 0, 2, 0, 2, 0, 2, 30, 3, 52, 2, 6, 2, 0, 4, 2, 2, 6, 4, 3,
    3, 5, 5, 12, 6, 2, 2, 6, 117, 0, 14, 0, 17, 12, 102, 0, 5, 0, 3, 9, 2, 0, 4, 4, 7, 0, 2, 0,
    2, 0, 2, 3, 2, 5, 5, 0, 3, 3, 6, 4, 5, 0, 18, 31, 4, 1, 818, 51, 1815, 228, 7, 3, 4, 1, 13,
    37, 2, 0, 6, 0, 30995, 45, 19, 29, 133, 101, 4, 3, 2, 76, 21, 5, 2, 2, 822, 42, 2, 13, 7,
    79, 20289, 6, 13, 4, 1034, 25, 7, 25, 1190, 79, 97, 35, 5, 35, 117, 10, 2, 14, 2, 6, 2, 1,
    2, 10, 2, 14, 2, 6, 2, 1, 452, 0, 3, 2, 2, 41, 2, 8, 1222, 50, 14, 50, 94, 21, 11, 21, 2843,
    63, 21857, 63, 33, 24, 3, 24, 25901, 84, 2, 70, 2, 1, 3, 0, 3, 1, 3, 3, 2, 11, 2, 0, 2, 6,
    2, 64, 2, 3, 3, 7, 2, 6, 2, 27, 2, 3, 2, 4, 2, 0, 4, 6, 2, 339, 3, 24, 2, 24, 2, 30, 2, 24,
    2, 30, 2, 24, 2, 30, 2, 24, 2, 30, 2, 24, 2, 7, 1845, 9, 2, 19, 7, 5, 262, 61, 2195, 67,
    2029, 25, 7, 25, 7, 25]

def caseIgnorable : CodeRanges := CodeRanges.ofSteps [
    39, 0, 7, 0, 12, 0, 36, 0, 2, 0, 72, 0, 5, 0, 2, 0, 5, 0, 3, 1, 504, 191, 5, 1, 5, 0, 10, 1,
    2, 0, 252, 6, 208, 0, 6, 0, 50, 44, 2, 0, 2, 1, 2, 1, 2, 0, 45, 0, 12, 5, 11, 10, 2, 0, 36,
    0, 11, 20, 17, 0, 102, 7, 2, 9, 2, 3, 34, 0, 2, 0, 31, 26, 92, 10, 59, 10, 5, 0, 3, 0, 25,
    23, 44, 2, 45, 0, 8, 1, 6, 8, 42, 57, 56, 0, 2, 0, 5, 7, 5, 0, 4, 6, 11, 1, 14, 0, 16, 0,
    59, 0, 5, 3, 9, 0, 21, 1, 27, 0, 3, 1, 58, 0, 5, 1, 5, 1, 3, 2, 4, 0, 31, 1, 4, 0, 12, 1,
    58, 0, 5, 4, 2, 1, 5, 0, 21, 1, 23, 5, 2, 0, 59, 0, 3, 0, 2, 3, 9, 0, 8, 1, 12, 1, 31, 0,
    62, 0, 13, 0, 51, 0, 4, 0, 56, 0, 2, 2, 6, 2, 2, 3, 8, 1, 12, 1, 30, 0, 59, 0, 3, 0, 7, 0,
    6, 1, 21, 1, 29, 1, 58, 1, 5, 3, 9, 0, 21, 1, 30, 0, 73, 0, 8, 2, 2, 0, 91, 0, 3, 6, 12, 8,
    99, 0, 3, 8, 10, 0, 2, 6, 74, 1, 28, 0, 2, 0, 2, 0, 56, 13, 2, 4, 2, 1, 6, 10, 2, 35, 10, 0,
    103, 3, 2, 5, 2, 1, 3, 1, 26, 1, 5, 2, 17, 3, 14, 0, 3, 1, 7, 0, 16, 0, 95, 0, 609, 2, 947,
    2, 30, 1, 31, 1, 31, 1, 65, 1, 2, 6, 9, 0, 3, 10, 4, 0, 6, 0, 46, 4, 52, 0, 66, 1, 35, 0,
    119, 2, 5, 1, 10, 0, 7, 2, 220, 1, 3, 0, 59, 0, 2, 6, 2, 0, 2, 0, 3, 7, 7, 9, 3, 0, 40, 0,
    9, 45, 3, 11, 21, 3, 49, 0, 2, 4, 2, 0, 6, 0, 41, 8, 13, 1, 33, 3, 3, 1, 2, 2, 57, 0, 2, 1,
    4, 0, 2, 2, 59, 7, 3, 1, 65, 5, 83, 2, 2, 12, 2, 6, 5, 0, 7, 0, 4, 1, 51, 62, 14, 0, 35,
    100, 446, 0, 2, 2, 12, 2, 14, 2, 14, 2, 14, 1, 13, 4, 9, 1, 11, 0, 3, 0, 3, 4, 50, 4, 2, 9,
    2, 0, 14, 0, 17, 12, 52, 32, 2956, 1, 114, 2, 126, 0, 16, 0, 97, 31, 48, 0, 470, 0, 37, 3,
    4, 4, 6, 0, 94, 5, 94, 2, 28439, 0, 1251, 5, 271, 0, 99, 3, 2, 9, 2, 0, 29, 3, 81, 1, 15,
    33, 79, 0, 24, 2, 103, 3, 4, 1, 9, 0, 4, 0, 5, 0, 26, 1, 6, 0, 152, 1, 27, 17, 14, 0, 39, 7,
    26, 10, 47, 2, 49, 0, 3, 3, 3, 1, 18, 0, 22, 1, 67, 5, 3, 1, 3, 1, 13, 0, 9, 0, 36, 0, 12,
    0, 52, 0, 2, 2, 3, 1, 6, 1, 2, 0, 28, 0, 15, 1, 6, 1, 2, 0, 101, 4, 10, 2, 122, 0, 3, 0, 5,
    0, 20273, 0, 148, 16, 574, 15, 4, 0, 13, 15, 35, 0, 3, 0, 170, 0, 8, 0, 7, 0, 12, 0, 36, 0,
    2, 0, 48, 0, 46, 1, 68, 0, 22, 2, 514, 0, 227, 0, 150, 4, 1030, 5, 2, 41, 2, 8, 583, 2, 2,
    1, 6, 3, 41, 2, 5, 0, 166, 1, 574, 3, 39, 0, 27, 4, 2, 0, 316, 1, 25, 0, 53, 5, 71, 10, 50,
    3, 124, 0, 55, 14, 42, 0, 3, 1, 11, 2, 50, 3, 3, 1, 3, 0, 5, 0, 11, 0, 51, 2, 37, 4, 2, 7,
    63, 0, 13, 1, 53, 8, 11, 3, 3, 0, 96, 2, 3, 0, 2, 1, 7, 0, 3, 0, 158, 0, 4, 7, 22, 1, 58, 1,
    4, 0, 38, 6, 4, 4, 71, 5, 14, 0, 2, 0, 2, 0, 15, 1, 86, 7, 3, 2, 2, 0, 24, 0, 85, 5, 2, 0,
    5, 1, 2, 1, 239, 3, 7, 1, 2, 1, 28, 1, 86, 7, 3, 0, 2, 1, 107, 0, 2, 0, 3, 5, 2, 0, 102, 0,
    2, 0, 3, 3, 2, 4, 260, 8, 2, 1, 257, 1, 2, 0, 5, 0, 145, 3, 3, 1, 5, 0, 33, 9, 41, 5, 3, 3,
    9, 0, 10, 5, 3, 2, 47, 12, 2, 1, 199, 0, 2, 2, 2, 0, 202, 6, 2, 5, 2, 0, 83, 21, 3, 6, 2, 1,
    2, 1, 123, 5, 4, 0, 2, 1, 2, 6, 2, 0, 73, 1, 4, 0, 2, 0, 66, 0, 282, 1, 12, 1, 53, 4, 6, 0,
    2, 0, 24, 0, 5334, 16, 7, 14, 11465, 11, 4, 2, 2497, 4, 60, 6, 10, 3, 509, 2, 41, 1, 483, 0,
    64, 16, 65, 1, 2, 1, 14, 1, 16381, 3, 2, 6, 2, 1, 3231, 1, 2, 3, 4701, 45, 3, 22, 545, 2,
    10, 15, 3, 6, 31, 3, 149, 2, 1980, 54, 5, 49, 9, 0, 15, 0, 23, 4, 2, 14, 1361, 6, 2, 16, 3,
    6, 2, 1, 2, 4, 6, 61, 34, 0, 161, 13, 369, 0, 62, 3, 508, 4, 255, 1, 244, 0, 3, 0, 8, 1, 6,
    0, 10, 0, 465, 6, 110, 7, 2736, 4, 789506, 0, 31, 95, 129, 239]

def lowerShifts : ShiftRules := ShiftRules.ofSteps [
    (65, 25, 1, 32), (127, 22, 1, 32), (24, 6, 1, 32), (40, 46, 2, 1), (50, 4, 2, 1),
    (7, 14, 2, 1), (17, 44, 2, 1), (46, 0, 1, -121), (1, 4, 2, 1), (8, 0, 1, 210), (1, 2, 2, 1),
    (4, 0, 1, 206), (1, 0, 1, 1), (2, 1, 1, 205), (2, 0, 1, 1), (3, 0, 1, 79), (1, 0, 1, 202),
    (1, 0, 1, 203), (1, 0, 1, 1), (2, 0, 1, 205), (1, 0, 1, 207), (2, 0, 1, 211),
    (1, 0, 1, 209), (1, 0, 1, 1), (4, 0, 1, 211), (1, 0, 1, 213), (2, 0, 1, 214), (1, 4, 2, 1),
    (6, 0, 1, 218), (1, 0, 1, 1), (2, 0, 1, 218), (3, 0, 1, 1), (2, 0, 1, 218), (1, 0, 1, 1),
    (2, 1, 1, 217), (2, 2, 2, 1), (4, 0, 1, 219), (1, 0, 1, 1), (4, 0, 1, 1), (8, 0, 1, 2),
    (1, 0, 1, 1), (2, 0, 1, 2), (1, 0, 1, 1), (2, 0, 1, 2), (1, 16, 2, 1), (19, 16, 2, 1),
    (19, 0, 1, 2), (1, 2, 2, 1), (4, 0, 1, -97), (1, 0, 1, -56), (1, 38, 2, 1),
    (40, 0, 1, -130), (2, 16, 2, 1), (24, 0, 1, 10795), (1, 0, 1, 1), (2, 0, 1, -163),
    (1, 0, 1, 10792), (3, 0, 1, 1), (2, 0, 1, -195), (1, 0, 1, 69), (1, 0, 1, 71), (1, 8, 2, 1),
    (298, 2, 2, 1), (6, 0, 1, 1), (9, 0, 1, 116), (7, 0, 1, 38), (2, 2, 1, 37), (4, 0, 1, 64),
    (2, 1, 1, 63), (3, 16, 1, 32), (18, 8, 1, 32), (44, 0, 1, 8), (9, 22, 2, 1),
    (28, 0, 1, -60), (3, 0, 1, 1), (2, 0, 1, -7), (1, 0, 1, 1), (3, 2, 1, -130), (3, 15, 1, 80),
    (16, 31, 1, 32), (80, 32, 2, 1), (42, 52, 2, 1), (54, 0, 1, 15), (1, 12, 2, 1),
    (15, 94, 2, 1), (97, 37, 1, 48), (2927, 37, 1, 7264), (39, 0, 1, 7264), (6, 0, 1, 7264),
    (723, 79, 1, 38864), (80, 5, 1, 8), (2201, 0, 1, 1), (7, 42, 1, -3008), (45, 2, 1, -3008),
    (323, 148, 2, 1), (158, 0, 1, -7615), (2, 94, 2, 1), (104, 7, 1, -8), (16, 5, 1, -8),
    (16, 7, 1, -8), (16, 7, 1, -8), (16, 5, 1, -8), (17, 6, 2, -8), (15, 7, 1, -8),
    (32, 7, 1, -8), (16, 7, 1, -8), (16, 7, 1, -8), (16, 1, 1, -8), (2, 1, 1, -74),
    (2, 0, 1, -9), (12, 3, 1, -86), (4, 0, 1, -9), (12, 1, 1, -8), (2, 1, 1, -100),
    (14, 1, 1, -8), (2, 1, 1, -112), (2, 0, 1, -7), (12, 1, 1, -128), (2, 1, 1, -126),
    (2, 0, 1, -9), (298, 0, 1, -7517), (4, 0, 1, -8383), (1, 0, 1, -8262), (7, 0, 1, 28),
    (46, 15, 1, 16), (35, 0, 1, 1), (819, 25, 1, 26), (1866, 47, 1, 48), (96, 0, 1, 1),
    (2, 0, 1, -10743), (1, 0, 1, -3814), (1, 0, 1, -10727), (3, 4, 2, 1), (6, 0, 1, -10780),
    (1, 0, 1, -10749), (1, 0, 1, -10783), (1, 0, 1, -10782), (2, 0, 1, 1), (3, 0, 1, 1),
    (9, 1, 1, -10815), (2, 98, 2, 1), (107, 2, 2, 1), (7, 0, 1, 1), (31054, 44, 2, 1),
    (64, 26, 2, 1), (162, 12, 2, 1), (16, 60, 2, 1), (71, 2, 2, 1), (4, 0, 1, -35332),
    (1, 8, 2, 1), (13, 0, 1, 1), (2, 0, 1, -42280), (3, 2, 2, 1), (6, 18, 2, 1),
    (20, 0, 1, -42308), (1, 0, 1, -42319), (1, 0, 1, -42315), (1, 0, 1, -42305),
    (1, 0, 1, -42308), (2, 0, 1, -42258), (1, 0, 1, -42282), (1, 0, 1, -42261), (1, 0, 1, 928),
    (1, 14, 2, 1), (16, 0, 1, -48), (1, 0, 1, -42307), (1, 0, 1, -35384), (1, 2, 2, 1),
    (4, 0, 1, -42343), (1, 14, 2, 1), (16, 0, 1, -42561), (25, 0, 1, 1), (22316, 25, 1, 32),
    (1247, 39, 1, 40), (176, 35, 1, 40), (192, 36, 2, 39), (1, 8, 2, 39), (12, 12, 2, 39),
    (16, 4, 2, 39), (8, 0, 1, 39), (1771, 50, 1, 64), (208, 21, 1, 32), (2896, 31, 1, 32),
    (21920, 31, 1, 32), (96, 24, 1, 27), (31328, 33, 1, 34)]

def upperShifts : ShiftRules := ShiftRules.ofLines [
    "61 19 1 -20 54 0 1 +2e7 2b 16 1 -20 18 6 1 -20 7 0 1 +79 2 2e 2 -1 30 0 1 -e8 2 4 2 -1 7 e",
    "2 -1 11 2c 2 -1 2f 4 2 -1 5 0 1 -12c 1 0 1 +c3 3 2 2 -1 5 0 1 -1 4 0 1 -1 6 0 1 -1 3 0 1",
    "+61 4 0 1 -1 1 0 1 +a3 1 0 1 +a641 3 0 1 +82 3 4 2 -1 7 0 1 -1 5 0 1 -1 3 0 1 -1 4 2 2 -1",
    "5 0 1 -1 4 0 1 -1 2 0 1 +38 6 0 1 -1 1 0 1 -2 2 0 1 -1 1 0 1 -2 2 0 1 -1 1 0 1 -2 2 e 2 -1",
    "f 0 1 -4f 2 10 2 -1 13 0 1 -1 1 0 1 -2 2 0 1 -1 4 26 2 -1 2a 10 2 -1 19 0 1 -1 3 1 1 +2a3f",
    "3 0 1 -1 5 8 2 -1 9 0 1 +2a1f 1 0 1 +2a1c 1 0 1 +2a1e 1 0 1 -d2 1 0 1 -ce 2 1 1 -cd 3 0 1",
    "-ca 2 0 1 -cb 1 0 1 +a54f 4 0 1 -cd 1 0 1 +a54b 2 0 1 -cf 1 0 1 +a567 1 0 1 +a528 1 0 1",
    "+a544 2 0 1 -d1 1 0 1 -d3 1 0 1 +a544 1 0 1 +29f7 1 0 1 +a541 3 0 1 -d3 2 0 1 +29fd 1 0 1",
    "-d5 3 0 1 -d6 8 0 1 +29e7 3 0 1 -da 2 0 1 +a543 1 0 1 -da 4 0 1 +a52a 1 0 1 -da 1 0 1 -45",
    "1 1 1 -d9 2 0 1 -47 6 0 1 -db b 0 1 +a515 1 0 1 +a512 a7 0 1 +54 2c 2 2 -1 6 0 1 -1 4 2 1",
    "+82 31 0 1 -26 1 2 1 -25 4 10 1 -20 11 0 1 -1f 1 8 1 -20 9 0 1 -40 1 1 1 -3f 3 0 1 -3e 1 0",
    "1 -39 4 0 1 -2f 1 0 1 -36 1 0 1 -8 2 16 2 -1 17 0 1 -56 1 0 1 -50 1 0 1 +7 1 0 1 -74 2 0 1",
    "-60 3 0 1 -1 3 0 1 -1 35 1f 1 -20 20 f 1 -50 11 20 2 -1 2a 34 2 -1 37 c 2 -1 d 0 1 -f 2 5e",
    "2 -1 90 25 1 -30 b6f 2a 1 +bc0 2d 2 1 +bc0 2fb 5 1 -8 888 0 1 -186e 1 0 1 -186d 1 0 1",
    "-1864 1 1 1 -1862 2 0 1 -1863 1 0 1 -185c 1 0 1 -1825 1 0 1 +89c2 2 0 1 -1 ef 0 1 +8a04 4",
    "0 1 +ee6 11 0 1 +8a38 73 94 2 -1 9a 0 1 -3b 6 5e 2 -1 5f 7 1 +8 10 5 1 +8 10 7 1 +8 10 7 1",
    "+8 10 5 1 +8 11 6 2 +8 f 7 1 +8 10 1 1 +4a 2 3 1 +56 4 1 1 +64 2 1 1 +80 2 1 1 +70 2 1 1",
    "+7e 34 1 1 +8 e 0 1 -1c25 12 1 1 +8 10 1 1 +8 5 0 1 +7 169 0 1 -1c 22 f 1 -10 14 0 1 -1",
    "34c 19 1 -1a 760 2f 1 -30 31 0 1 -1 4 0 1 -2a2b 1 0 1 -2a28 2 4 2 -1 b 0 1 -1 3 0 1 -1 b",
    "62 2 -1 6b 2 2 -1 7 0 1 -1 d 25 1 -1c60 27 0 1 -1c60 6 0 1 -1c60 7914 2c 2 -1 40 1a 2 -1",
    "a2 c 2 -1 10 3c 2 -1 47 2 2 -1 5 8 2 -1 d 0 1 -1 5 2 2 -1 3 0 1 +30 3 12 2 -1 1e e 2 -1 13",
    "2 2 -1 5 e 2 -1 29 0 1 -1 35d 0 1 -3a0 1d 4f 1 -97d0 53d1 19 1 -20 4e7 27 1 -28 b0 23 1",
    "-28 bf 24 2 -27 1 8 2 -27 c c 2 -27 10 4 2 -27 8 0 1 -27 704 32 1 -40 b0 15 1 -20 b50 1f 1",
    "-20 55a0 1f 1 -20 5b 18 1 -1b 7a67 21 1 -22"]

def upperLong : LongForms := LongForms.ofLines [
    "df:53+53 149:2bc+4e 1f0:4a+30c 390:399+308+301 3b0:3a5+308+301 587:535+552 1e96:48+331",
    ":54+308 :57+30a :59+30a :41+2be 1f50:3a5+313 1f52:3a5+313+300 1f54:3a5+313+301",
    "1f56:3a5+313+342 1f80:1f08+399 :1f09+399 :1f0a+399 :1f0b+399 :1f0c+399 :1f0d+399 :1f0e+399",
    ":1f0f+399 :1f08+399 :1f09+399 :1f0a+399 :1f0b+399 :1f0c+399 :1f0d+399 :1f0e+399 :1f0f+399",
    ":1f28+399 :1f29+399 :1f2a+399 :1f2b+399 :1f2c+399 :1f2d+399 :1f2e+399 :1f2f+399 :1f28+399",
    ":1f29+399 :1f2a+399 :1f2b+399 :1f2c+399 :1f2d+399 :1f2e+399 :1f2f+399 :1f68+399 :1f69+399",
    ":1f6a+399 :1f6b+399 :1f6c+399 :1f6d+399 :1f6e+399 :1f6f+399 :1f68+399 :1f69+399 :1f6a+399",
    ":1f6b+399 :1f6c+399 :1f6d+399 :1f6e+399 :1f6f+399 1fb2:1fba+399 :391+399 :386+399",
    "1fb6:391+342 :391+342+399 1fbc:391+399 1fc2:1fca+399 :397+399 :389+399 1fc6:397+342",
    ":397+342+399 1fcc:397+399 1fd2:399+308+300 :399+308+301 1fd6:399+342 :399+308+342",
    "1fe2:3a5+308+300 :3a5+308+301 :3a1+313 1fe6:3a5+342 :3a5+308+342 1ff2:1ffa+399 :3a9+399",
    ":38f+399 1ff6:3a9+342 :3a9+342+399 1ffc:3a9+399 fb00:46+46 :46+49 :46+4c :46+46+49",
    ":46+46+4c :53+54 :53+54 fb13:544+546 :544+535 :544+53b :54e+546 :544+53d"]

end Assay.Text.Table
