/-
# Directions

Names with characters that run from right to left are hard to read when directions mix.  In such a
name every label has to keep to one direction.
-/
import PluginArbiter.Text.Marks

namespace PluginArbiter.Url.Label

/-! ## 1. Directions of characters -/

/-- The code points that run from right to left. -/
def rightToLeftTable : String :=
  "5be 5c0 5c3 5c6 5d0-5ea 5ef-5f4 608 60b 60d 61b 61d-64a 66d-66f 671-674 679-6d5 6e5-6e6
   6ee-6ef 6fa-70d 710 712-72f 74d-7a5 7b1 7c0-7ea 7f4-7f5 7fa 7fe-815 81a 824 828 830-83e
   840-858 85e 860-86a 870-88f 8a0-8c9 fbb2-fbd2 fd90-fd91 fdc8-fdce fe73 10800-10805 10808
   1080a-10835 10837-10838 1083c 1083f-10855 10857-1089e 108a7-108af 108e0-108f2 108f4-108f5
   108fb-1091b 10920-10939 1093f-10959 10980-109b7 109bc-109cf 109d2-10a00 10a10-10a13
   10a15-10a17 10a19-10a35 10a40-10a48 10a50-10a58 10a60-10a9f 10ac0-10ae4 10aeb-10af6
   10b00-10b35 10b40-10b55 10b58-10b72 10b78-10b91 10b99-10b9c 10ba9-10baf 10c00-10c48
   10cc0-10cf2 10cfa-10d23 10d40-10d4f 10d6e-10d85 10d8e-10d8f 10e80-10ea9 10ead 10eb0-10eb1
   10ec2-10ec7 10ed0-10ed8 10f00-10f27 10f30-10f45 10f51-10f59 10f70-10f81 10f86-10f89
   10fb0-10fcb 10fe0-10ff6 1e800-1e8c4 1e8c7-1e8cf 1e922-1e943 1e94b 1e950-1e959 1e95e-1e95f
   1ec71-1ecb4 1ed01-1ed3d"

/-- The code points without a direction of their own. -/
def neutralTable : String :=
  "a1-a7 a9 ab-ac ae b0-b1 b6-b7 bb bf d7 f7 2b9-2ba 2c2-2cf 2d2-2d7 2de-2df 2e5-2ed 2ef-2ff 375
   3f6 58a 58d-58f 606-607 609-60a 60c 60e-60f 66a 6de 6e9 7f6-7f9 9f2-9f3 9fb af1 bf3-bfa
   c78-c7e e3f f3a-f3d 1390-1399 1400 169b-169c 17db 17f0-17f9 1800-180a 1940 1944-1945
   19de-19ff 200c-200d 2010 2012-2016 2018-2023 2027 2030-2032 2035 2038-203b 203d 203f-2046
   204a-2056 2058-205e 20a0-20a7 20a9-20c1 2104 2108 2114 2117-2118 211e-211f 2123-2129/2 212e
   213a 2141-2144 214a-214d 218a-218b 2190-222b 222e 2231-2328 232b-2335 237b-2394 2396-2426
   2440-244a 24eb-26ab 26ad-27ff 2900-2a0b 2a0d-2a73 2a77-2adb 2add-2b73 2b76-2b95 2b97-2bff
   2ce5-2cea 2cf9-2cff 2e00-2e5d 2e80-2e99 2e9b-2e9e 2ea0-2ef2 3001 3003-3004 3008-3020 3030
   3037 303d-303f 30a0 30fb 31c0-31e3 4dc0-4dff a490-a4c6 a60d-a60f a673 a67e-a67f a700-a721
   a788 a828-a82b a838-a839 a874-a877 ab6a-ab6b fd3e-fd4f fdcf fdfd-fdff fe45-fe46 10101
   10140-1018c 10190-1019c 101a0 1091f 10b39-10b3f 11052-11065 11660-1166c 11fd5-11ff1 16fe2
   1d1e9-1d1ea 1d200-1d241 1d245 1d300-1d356 1e2ff 1eef0-1eef1 1f000-1f02b 1f030-1f093
   1f0a0-1f0ae 1f0b1-1f0bf 1f0c1-1f0cf 1f0d1-1f0f5 1f10b-1f10f 1f12f 1f16d-1f16f 1f1ad
   1f260-1f265 1f300-1f6d7 1f6dc-1f6ec 1f6f0-1f6fc 1f700-1f776 1f77b-1f7d9 1f7e0-1f7eb 1f7f0
   1f800-1f80b 1f810-1f847 1f850-1f859 1f860-1f887 1f890-1f8ad 1f8b0-1f8b1 1f900-1fa53
   1fa60-1fa6d 1fa70-1fa7c 1fa80-1fa88 1fa90-1fabd 1fabf-1fac5 1face-1fadb 1fae0-1fae8
   1faf0-1faf8 1fb00-1fb92 1fb94-1fbca"

/-- Numerals that stand in text from right to left. -/
def arabicNumeralTable : String := "660-669 66b-66c 10d30-10d39 10e60-10e7e"

/-- Numerals of other scripts. -/
def europeanNumeralTable : String := "30-39 6f0-6f9 102e1-102fb"

/-- Marks that count as letters here, although they take no room. -/
def letterMarkTable : String := "cbf cc6 11a07-11a08 11c3f"

def rightToLeftRuns : List Text.CodeRun := Text.codeRuns rightToLeftTable

def neutralRuns : List Text.CodeRun := Text.codeRuns neutralTable

def arabicNumeralRuns : List Text.CodeRun := Text.codeRuns arabicNumeralTable

def europeanNumeralRuns : List Text.CodeRun := Text.codeRuns europeanNumeralTable

def letterMarkRuns : List Text.CodeRun := Text.codeRuns letterMarkTable

/-- The direction of a character. -/
inductive Direction
  | leftToRight
  | rightToLeft
  | arabicNumeral
  | europeanNumeral
  /-- A mark, which goes with the character before it. -/
  | mark
  | neutral
  deriving DecidableEq, Inhabited

/-- The direction of a character that a label may show. -/
def Direction.of (c : Char) : Direction :=
  if c.isAlpha then .leftToRight
  else if Text.inRuns europeanNumeralRuns c then .europeanNumeral
  else if c.toNat < 0x80 || Text.inRuns neutralRuns c then .neutral
  else if Text.inRuns rightToLeftRuns c then .rightToLeft
  else if Text.inRuns arabicNumeralRuns c then .arabicNumeral
  else if Text.isNonspacing c && !Text.inRuns letterMarkRuns c then .mark
  else .leftToRight

/-! ## 2. Labels -/

/-- Whether a label that starts from the left keeps its direction. -/
def keepsLeftToRight (label : List Direction) : Bool :=
  label.all (fun d => d != .rightToLeft && d != .arabicNumeral) &&
    ((label.reverse.dropWhile (· == .mark)).head?.all fun d =>
      d == .leftToRight || d == .europeanNumeral)

/-- Whether a label that starts from the right keeps its direction.  It may hold numerals of one
kind only. -/
def keepsRightToLeft (label : List Direction) : Bool :=
  label.all (· != .leftToRight) &&
    !(label.contains .arabicNumeral && label.contains .europeanNumeral) &&
    ((label.reverse.dropWhile (· == .mark)).head?.all fun d => d != .neutral)

/-- Whether a label keeps its direction.  It has to start with a character that has one. -/
def keepsDirection (label : List Direction) : Bool :=
  match label with
  | [] => true
  | .leftToRight :: _ => keepsLeftToRight label
  | .rightToLeft :: _ => keepsRightToLeft label
  | _ => false

/-- Whether a character makes the directions of its name matter. -/
def Direction.matters (d : Direction) : Bool := d == .rightToLeft || d == .arabicNumeral

/-- Whether the labels of a name keep their directions, if directions matter in it. -/
def keepDirections (labels : List (List Char)) : Bool :=
  let directions := labels.map fun label => label.map Direction.of
  !(directions.any fun label => label.any Direction.matters) || directions.all keepsDirection

end PluginArbiter.Url.Label
