/- digest: Characters that decide where graphemes, words and sentences end and that no other
   property tells apart. -/

import Assay.Text.Ranges

set_option autoImplicit false
set_option relaxedAutoImplicit false

namespace Assay.Pattern.Table

open Text (CodeRanges)

/-- Characters that end graphemes on both sides. -/
def clusterControl : CodeRanges := CodeRanges.ofLines [
    "0 9 2 1 2 11 60 20 e 0 56f 0 11f2 0 7fd 0 3 1 19 6 32 f de90 0 f1 b 3435 f 8861 3 14d0 7",
    "c2e86 1f 61 7f f1 e0f"]

/-- Characters that belong to the grapheme after them. -/
def prepending : CodeRanges := CodeRanges.ofLines [
    "600 5 d8 0 32 0 181 1 51 0 46c 0 1036f 0 10 0 f5 1 20e 0 56e 0 2 0 f9 0 4a 5 2bd 0 1bc 0"]

def leadingJamo : CodeRanges := CodeRanges.ofLines [
    "1100 5f 9801 1c"]

/-- Vowels of Hangul, and others that follow letters in the same way. -/
def vowelJamo : CodeRanges := CodeRanges.ofLines [
    "1160 47 c609 16 959d 0 4 3"]

def trailingJamo : CodeRanges := CodeRanges.ofLines [
    "11a8 57 c5cc 30"]

def unattachedMark : CodeRanges := CodeRanges.ofLines [
    "102b 1 c 0 2a 2 3 6 16 0 4 5 3 0 b 2 9c5 0 2 1 9017 0 2 0 6ca3 1"]

def wordSign : CodeRanges := CodeRanges.ofLines [
    "2c2 3 d 5 7 1 6 6 2 0 2 10 25b 2 2 0 2c 0 69 0 11c 0 9ff9 e a 1 68 1 3d1 0"]

/-- Signs that count as Katakana within words. -/
def kanaSign : CodeRanges := CodeRanges.ofLines [
    "3031 4 66 1 4 0 5c 0 ce74 0"]

/-- Characters that connect letters and digits within words. -/
def wordConnector : CodeRanges := CodeRanges.ofLines [
    "5f 0 1fd0 0 10 1 14 0 dddf 1 19 2 f0 0"]

def midNumberLetter : CodeRanges := CodeRanges.ofLines [
    "2e 0 1fea 1 b 0 de2e 0 b5 0 7 0"]

def midLetter : CodeRanges := CodeRanges.ofLines [
    "3a 0 7d 0 2d0 0 1d8 0 95 0 1a33 0 ddec 0 42 0 c5 0"]

def midNumber : CodeRanges := CodeRanges.ofLines [
    "2c 0 f 0 343 0 20b 0 83 1 5f 0 18c 0 184c 0 ddcc 0 4 0 3c 0 4 0 b8 0 f 0"]

/-- Line ends but the two plain ones. -/
def newline : CodeRanges := CodeRanges.ofLines [
    "b 1 79 0 1fa3 1"]

def wordSpace : CodeRanges := CodeRanges.ofLines [
    "20 0 1660 0 980 6 2 2 55 0 fa1 0"]

def fullStop : CodeRanges := CodeRanges.ofLines [
    "2e 0 1ff6 0 de2e 0 bc 0"]

def sentenceComma : CodeRanges := CodeRanges.ofLines [
    "2c 1 d 0 523 0 af 1 1eb 0 100a 0 6 0 80b 1 fed 0 ce0f 1 2 0 1e 1 1e 1 4 0 3 0 b 0 a9 1 d 0",
    "4a 0"]

/-- Signs that close sentences besides brackets. -/
def sentenceQuote : CodeRanges := CodeRanges.ofLines [
    "22 0 5 0 2734 5 6a0 1 5 2 3 0 1c86b 2"]

end Assay.Pattern.Table
