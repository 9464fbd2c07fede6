/- digest: The directions of the characters that may stand in names. -/

import Assay.Text.Ranges

set_option autoImplicit false
set_option relaxedAutoImplicit false

namespace Assay.Url

/-- How a character takes part in the order of a line. -/
inductive Direction
  | leftToRight | rightToLeft | arabicLetter | arabicNumber | number | numberSign | numberEnd | numberGap
  | mark | unseen | neutral | other
  deriving DecidableEq

namespace Table

open Text (CodeRanges)

/-- Characters by their directions; all others run from left to right. -/
def directions : List (Direction × CodeRanges) := [
  (.rightToLeft, CodeRanges.ofLines [
      "5be 0 2 0 3 0 3 0 a 24 1cc 2a a 1 5 0 4 17 5 0 a 0 4 0 8 28 6 0 ffa2 11b 5 e0 10 25 b a4",
      "7 4a b 1bf 4b 5 20 20 f1 29 4 4 4f 27 49 11 5 70 d80a cf 53 21 8 14"]),
  (.arabicLetter, CodeRanges.ofLines [
      "608 0 3 0 2 0 e 2f 23 2 2 64 10 1 8 1 b 16 2 1d 1e 58 c 0 af 2f 11 29 f2e9 10 2b1 0 e8d",
      "23 19f e 60 15 c 8 dd18 cc"]),
  (.arabicNumber, CodeRanges.ofLines [
      "660 9 2 1 106c4 19 117 1e"]),
  (.number, CodeRanges.ofLines [
      "30 9 6b7 9 fbe8 1a"]),
  (.numberSign, CodeRanges.ofLines [
      "2b 0 2 0 21e5 0"]),
  (.numberEnd, CodeRanges.ofLines [
      "23 2 7d 3 b 1 4de 0 7a 1 60 0 388 1 8 0 f6 0 108 0 246 0 99c 0 855 2 6e 21 6d 0 e5 0",
      "8625 1 77a4 3 c31f 0"]),
  (.numberGap, CodeRanges.ofLines [
      "2c 0 2 1 b 0 5d2 0 1a38 0"]),
  (.mark, CodeRanges.ofLines [
      "300 6f 114 6 108 2c 2 0 2 1 2 1 2 0 49 a 31 14 11 0 66 6 3 5 3 1 2 3 24 0 1f 1a 5c a 3b",
      "8 a 0 19 3 2 8 2 2 2 4 2c 2 3c 8 2b 38 38 0 2 0 5 7 5 0 4 6 b 1 1e 0 3b 0 5 3 9 0 15 1",
      "1b 4 3a 0 5 10 1f 1 4 0 c 1 3a 0 5 7 5 0 15 1 17 7 3b 0 3 0 2 3 9 9 c 1 1f 0 3e 0 d 0 33",
      "0 4 0 38 0 2 2 6 10 c 1 1e 0 3b 0 10 1 15 1 1d 1 3a 1 5 3 9 0 15 1 1e 0 49 0 8 4 5b 0 3",
      "6 d 7 63 0 3 8 c 6 4a 1 1c 0 2 0 2 0 38 d 2 4 2 1 6 2f a 0 67 3 2 5 2 1 3 1 1a 1 5 2 11",
      "3 e 0 3 1 7 0 10 0 2c0 2 3b3 2 1e 1 1f 1 1f 1 44 6 9 0 3 a a 0 a8 1 23 0 77 2 5 1 a 0 7",
      "2 dc 1 3 0 3b 0 2 8 2 0 3 7 7 c 31 53 31 0 2 4 2 0 6 0 29 8 d 1 21 3 3 1 2 2 39 0 2 1 4",
      "0 2 2 3b 7 3 1 99 2 2 c 2 6 5 0 7 0 4 1 c7 3f 2d1 20 bff 2 8e 0 61 1f 22b 3 6c 1 75d5 3",
      "2 9 21 1 51 1 111 0 4 0 5 0 1a 1 6 0 98 1 1b 11 e 0 27 7 1a a 2f 2 31 0 3 3 3 1 28 0 44",
      "5 3 1 3 1 d 0 9 0 30 0 34 0 2 2 3 1 6 1 2 0 2b 1 9 0 ef 0 3 0 5 0 4f31 0 302 f 3ce 0 e3",
      "0 96 4 687 e 29 7 a6 1 23e 3 42 4 13e 1 4e 5 47 a 32 3 7c 0 37 e 2a 0 3 1 b 2 32 3 3 1 8",
      "0 3e 2 25 4 2 7 3f 0 d 1 35 8 b 3 3 0 60 2 3 0 2 1 7 0 3 0 9e 0 4 7 16 1 3a 1 4 0 26 e",
      "47 5 e 0 2 0 2 0 f 1 56 7 3 2 2 0 18 0 55 5 2 0 5 1 2 1 ef 3 7 1 2 1 1c 1 56 7 3 0 2 1",
      "6b 0 2 0 3 5 2 0 66 0 2 0 3 3 2 4 104 8 2 1 101 1 2 0 5 0 91 7 5 0 21 5 3 1 29 5 3 3 9 0",
      "a 5 3 2 2f c 2 1 c7 0 2 2 2 0 ca d 55 15 3 6 2 1 2 1 7b 14 2 0 49 1 4 0 2 0 15c 1 c 1 35",
      "4 6 0 2 0 18 0 14e6 0 7 e 2cc9 b 4 2 9c1 4 3c 6 419 0 40 3 52 0 4cb9 1 1262 46 221 2 12",
      "7 3 6 1f 3 95 2 7bc 36 5 31 9 0 f 0 17 14 551 8f a1 6 178 0 3e 3 1fd 3 ff 1 f4 0 3 0 8 1",
      "6 0 1db 6 6e 6"]),
  (.unseen, CodeRanges.ofLines [
      "0 8 6 d 64 0 1f8d 1"]),
  (.neutral, CodeRanges.ofLines [
      "21 1 4 4 11 25 1b 3 23 0 5 8 8 21 20 0 1c2 1 8 d 3 1b 2 10 76 0 81 0 194 4 78 1 7 1 cf 0",
      "b 0 10d 3 3fa 5 2 0 7e 6 2bc 3 453 9 67 0 29b 1 154 1a 136 5 99 21 611 17 e e 2 19 a6 25",
      "11 13 3d 87 3 121 46 19 2 315 2 152 101 2ff e6 5 f 6 101 204 4 18 10 0 7 0 6 2 61 0 5b 0",
      "c5 25 1bdb 3f 5691 36 147 2 64 0 b 1 81 21 67 0 a0 3 49 3 2f3 1 5058 23c 46 1 2bb 0 3f",
      "4c 4 10 77f 0 21a 6 22f 0 163 7 17a 13 5fb c 969 7 5 10 4ff1 0 5c1e 2f0 2f9 58 4 0 bb 56",
      "1b9a 23f 3e 2 3e 0 b3 99a"]),
  (.other, CodeRanges.ofLines [
      "9 4 f 4"])]

end Table

end Assay.Url
