/- digest: Which characters differ in nothing but case. -/

import Assay.Text.Forms

set_option autoImplicit false
set_option relaxedAutoImplicit false

namespace Assay.Pattern.Table

open Text (ShiftRules)

def foldShifts : ShiftRules := ShiftRules.ofLines [
    "41 19 1 +20 74 0 1 +307 b 16 1 +20 18 6 1 +20 28 2e 2 +1 32 4 2 +1 7 e 2 +1 11 2c 2 +1 2e",
    "0 1 -79 1 4 2 +1 6 0 1 -10c 2 0 1 +d2 1 2 2 +1 4 0 1 +ce 1 0 1 +1 2 1 1 +cd 2 0 1 +1 3 0 1",
    "+4f 1 0 1 +ca 1 0 1 +cb 1 0 1 +1 2 0 1 +cd 1 0 1 +cf 2 0 1 +d3 1 0 1 +d1 1 0 1 +1 4 0 1",
    "+d3 1 0 1 +d5 2 0 1 +d6 1 4 2 +1 6 0 1 +da 1 0 1 +1 2 0 1 +da 3 0 1 +1 2 0 1 +da 1 0 1 +1",
    "2 1 1 +d9 2 2 2 +1 4 0 1 +db 1 0 1 +1 4 0 1 +1 8 0 1 +2 1 0 1 +1 2 0 1 +2 1 0 1 +1 2 0 1",
    "+2 1 10 2 +1 13 10 2 +1 13 0 1 +2 1 2 2 +1 4 0 1 -61 1 0 1 -38 1 26 2 +1 28 0 1 -82 2 10 2",
    "+1 18 0 1 +2a2b 1 0 1 +1 2 0 1 -a3 1 0 1 +2a28 3 0 1 +1 2 0 1 -c3 1 0 1 +45 1 0 1 +47 1 8",
    "2 +1 ff 0 1 +74 2b 2 2 +1 6 0 1 +1 9 0 1 +74 7 0 1 +26 2 2 1 +25 4 0 1 +40 2 1 1 +3f 3 10",
    "1 +20 12 8 1 +20 1f 0 1 +1 d 0 1 +8 1 0 1 -1e 1 0 1 -19 4 0 1 -f 1 0 1 -16 2 16 2 +1 18 0",
    "1 -36 1 0 1 -30 3 0 1 -3c 1 0 1 -40 2 0 1 +1 2 0 1 -7 1 0 1 +1 3 2 1 -82 3 f 1 +50 10 1f 1",
    "+20 50 20 2 +1 2a 34 2 +1 36 0 1 +f 1 c 2 +1 f 5e 2 +1 61 25 1 +30 b6f 25 1 +1c60 27 0 1",
    "+1c60 6 0 1 +1c60 2d3 4f 1 +97d0 50 5 1 +8 890 0 1 -184e 1 0 1 -184d 1 0 1 -1844 1 1 1",
    "-1842 2 0 1 -1843 1 0 1 -183c 1 0 1 -1824 1 0 1 +89c3 1 0 1 +1 7 2a 1 -bc0 2d 2 1 -bc0 143",
    "94 2 +1 9b 0 1 -3a 3 0 1 -1dbf 2 5e 2 +1 68 7 1 -8 10 5 1 -8 10 7 1 -8 10 7 1 -8 10 5 1 -8",
    "11 6 2 -8 f 7 1 -8 20 7 1 -8 10 7 1 -8 10 7 1 -8 10 1 1 -8 2 1 1 -4a 2 0 1 -9 2 0 1 -1c05",
    "a 3 1 -56 4 0 1 -9 7 0 1 -1c43 5 1 1 -8 2 1 1 -64 9 0 1 -1c33 5 1 1 -8 2 1 1 -70 2 0 1 -7",
    "c 1 1 -80 2 1 1 -7e 2 0 1 -9 12a 0 1 -1d5d 4 0 1 -20bf 1 0 1 -2046 7 0 1 +1c 2e f 1 +10 23",
    "0 1 +1 333 19 1 +1a 74a 2f 1 +30 60 0 1 +1 2 0 1 -29f7 1 0 1 -ee6 1 0 1 -29e7 3 4 2 +1 6 0",
    "1 -2a1c 1 0 1 -29fd 1 0 1 -2a1f 1 0 1 -2a1e 2 0 1 +1 3 0 1 +1 9 1 1 -2a3f 2 62 2 +1 6b 2 2",
    "+1 7 0 1 +1 794e 2c 2 +1 40 1a 2 +1 a2 c 2 +1 10 3c 2 +1 47 2 2 +1 4 0 1 -8a04 1 8 2 +1 d",
    "0 1 +1 2 0 1 -a528 3 2 2 +1 6 12 2 +1 14 0 1 -a544 1 0 1 -a54f 1 0 1 -a54b 1 0 1 -a541 1 0",
    "1 -a544 2 0 1 -a512 1 0 1 -a52a 1 0 1 -a515 1 0 1 +3a0 1 e 2 +1 10 0 1 -30 1 0 1 -a543 1 0",
    "1 -8a38 1 2 2 +1 4 0 1 -a567 1 0 1 +1 4 0 1 +1 6 4 2 +1 6 0 1 -a641 19 0 1 +1 5311 0 1 -1",
    "41b 19 1 +20 4df 27 1 +28 b0 23 1 +28 c0 24 2 +27 1 8 2 +27 c c 2 +27 10 4 2 +27 8 0 1 +27",
    "6eb 32 1 +40 d0 15 1 +20 b50 1f 1 +20 55a0 1f 1 +20 7ac0 21 1 +22"]

end Assay.Pattern.Table
