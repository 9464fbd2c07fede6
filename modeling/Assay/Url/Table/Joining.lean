/- digest: How letters join their neighbours in writing. -/

import Assay.Text.Ranges

set_option autoImplicit false
set_option relaxedAutoImplicit false

namespace Assay.Url.Table

open Text (CodeRanges)

def joinsAfter : CodeRanges := CodeRanges.ofLines [
    "620 0 6 0 2 0 2 4 5 c 2 6 2 1 24 1 a e 13 25 2 1 a 0 2 0 2 1 29 2 3 0 13 2 6 3 2 8 2 0 2 0",
    "2 1 20 a 4 e 3 3 2 0 3 2 3 5 4b 20 57 4 3 0 2 9 2 0 b 0 2 3 3 0 1e 0 3 4 2 0 11 9 6 1 3 5",
    "2 e f3f 0 19 58 f 21 2 0 8f96 32 624e 4 9 0 6 9 2 2 b 3 92 0 2 0 4 2 2 1 2 0 3 0 1d 1 152",
    "21 2 0 1a0 1 2 1 69 2 2 10 d 2 1d 3 3 b 2f 0 2 1 5 0 3 1 2 1 2 0 3 0 6 1 d957 21"]

def joinsBefore : CodeRanges := CodeRanges.ofLines [
    "620 0 2 1d 2 9 24 1 2 2 6 5a 2 0 19 1 b 2 3 0 11 0 2 1d 1e 32 4b 20 56 18 8 0 2 3 2 3 6 12",
    "4 0 3 6 11 c 2 1a f3f 0 19 58 f 21 2 0 8f96 31 624f 5 2 0 2 1 4 8 2 9 3 0 7 4 91 11 18 5",
    "153 22 19f 2 2 1 69 14 d 3 1c 11 2f 0 2 4 2 7 2 3 5 1 d958 21"]

def joinsThrough : CodeRanges := CodeRanges.ofLines [
    "300 3f 3 0 4 8 2 1f 114 6 108 2c 2 0 2 1 2 1 2 0 49 a 31 14 11 0 66 6 3 5 3 1 2 3 24 0 1f",
    "1a 5c a 3b 8 a 0 19 3 2 8 2 2 2 4 2c 2 3c 8 2b 17 2 1f 38 0 2 0 5 7 5 0 4 6 b 1 1e 0 3b 0",
    "5 3 9 0 15 1 1b 0 3 1 3a 0 5 1 5 1 3 2 4 0 1f 1 4 0 c 1 3a 0 5 4 2 1 5 0 15 1 17 5 2 0 3b",
    "0 3 0 2 3 9 0 8 1 c 1 1f 0 3e 0 d 0 33 0 4 0 38 0 2 2 6 2 2 3 8 1 c 1 1e 0 3b 0 3 0 7 0 6",
    "1 15 1 1d 1 3a 1 5 3 9 0 15 1 1e 0 49 0 8 2 2 0 5b 0 3 6 d 7 63 0 3 8 c 6 4a 1 1c 0 2 0 2",
    "0 38 1 2 0 6 4 2 0 2 2 2 1 6 5 2 3 2 3 2 3 2 3 2 3 2 b 2 2 a 0 67 3 2 5 2 1 3 1 1a 1 5 2",
    "11 3 e 0 3 1 7 0 10 0 2c0 2 3b3 2 1e 1 1f 1 1f 1 44 6 9 0 3 a a 0 a8 1 23 0 77 2 5 1 a 0 7",
    "2 dc 1 3 0 3b 0 2 6 2 0 2 0 3 7 7 9 3 0 31 2d 3 b 15 3 31 0 2 4 2 0 6 0 29 8 d 1 21 3 3 1",
    "2 2 39 0 2 1 4 0 2 2 3b 7 3 1 99 2 2 c 2 6 5 0 7 0 4 1 c7 3f 2d1 20 bff 2 8e 0 61 1f 22b 3",
    "6c 1 75d5 3 2 9 21 1 51 1 111 0 4 0 5 0 1a 1 6 0 98 1 1b 11 e 0 27 7 1a a 2f 2 31 0 3 3 3",
    "1 28 0 44 5 3 1 3 1 d 0 9 0 30 0 34 0 2 2 3 1 6 1 2 0 2b 1 9 0 ef 0 3 0 5 0 4f31 0 302 f",
    "3ce 0 e3 0 96 4 687 2 2 1 6 3 29 2 5 0 a6 1 23e 3 42 4 13e 1 4e 5 47 a 32 3 7c 0 37 e 2a 0",
    "3 1 b 2 32 3 3 1 8 0 3e 2 25 4 2 7 3f 0 d 1 35 8 b 3 3 0 60 2 3 0 2 1 7 0 3 0 9e 0 4 7 16",
    "1 3a 1 4 0 26 6 4 4 47 5 e 0 2 0 2 0 f 1 56 7 3 2 2 0 18 0 55 5 2 0 5 1 2 1 ef 3 7 1 2 1",
    "1c 1 56 7 3 0 2 1 6b 0 2 0 3 5 2 0 66 0 2 0 3 3 2 4 104 8 2 1 101 1 2 0 5 0 91 3 3 1 5 0",
    "21 9 29 5 3 3 9 0 a 5 3 2 2f c 2 1 c7 0 2 2 2 0 ca 6 2 5 2 0 53 15 3 6 2 1 2 1 7b 5 4 0 2",
    "1 2 6 2 0 49 1 4 0 2 0 15c 1 c 1 35 4 6 0 2 0 18 0 14e6 0 7 e 2cc9 b 4 2 9c1 4 3c 6 419 0",
    "40 3 52 0 4cb9 1 1262 2d 3 16 221 2 12 7 3 6 1f 3 95 2 7bc 36 5 31 9 0 f 0 17 4 2 e 551 6",
    "2 10 3 6 2 1 2 4 65 0 a1 6 178 0 3e 3 1fd 3 ff 1 f4 0 3 0 8 1 6 0 1db 6 6e 7"]

end Assay.Url.Table
