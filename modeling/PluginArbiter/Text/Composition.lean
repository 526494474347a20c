/-
# Composed characters

A letter with a mark is often one character as well.  A text is in composed form when no letter and
mark are left that are one character, and the marks behind each letter are in order.
-/
import PluginArbiter.Text.Marks

namespace PluginArbiter.Text

/-! ## 1. Pairs -/

/-- For each mark the characters that it combines with, and what comes of it. -/
def compositeTables : List (Nat × String) :=
  [(0x300,
    "61:e0 65:e8 69:ec 6e:1f9 6f:f2 75:f9 77:1e81 79:1ef3 e2:1ea7 ea:1ec1 f4:1ed3 fc:1dc
     103:1eb1 113:1e15 14d:1e51 1a1:1edd 1b0:1eeb 3b1:1f70 3b5:1f72 3b7:1f74 3b9:1f76 3bf:1f78
     3c5:1f7a 3c9:1f7c 3ca:1fd2 3cb:1fe2 435:450 438:45d 1f00:1f02 1f01:1f03 1f10:1f12 1f11:1f13
     1f20:1f22 1f21:1f23 1f30:1f32 1f31:1f33 1f40:1f42 1f41:1f43 1f50:1f52 1f51:1f53 1f60:1f62
     1f61:1f63"),
   (0x301,
    "61:e1 63:107 65:e9 67:1f5 69:ed 6b:1e31 6c:13a 6d:1e3f 6e:144 6f:f3 70:1e55 72:155 73:15b
     75:fa 77:1e83 79:fd 7a:17a e2:1ea5 e5:1fb e6:1fd e7:1e09 ea:1ebf ef:1e2f f4:1ed1 f5:1e4d
     f8:1ff fc:1d8 103:1eaf 113:1e17 14d:1e53 169:1e79 1a1:1edb 1b0:1ee9 3b1:3ac 3b5:3ad 3b7:3ae
     3b9:3af 3bf:3cc 3c5:3cd 3c9:3ce 3ca:390 3cb:3b0 433:453 43a:45c 1f00:1f04 1f01:1f05
     1f10:1f14 1f11:1f15 1f20:1f24 1f21:1f25 1f30:1f34 1f31:1f35 1f40:1f44 1f41:1f45 1f50:1f54
     1f51:1f55 1f60:1f64 1f61:1f65"),
   (0x302,
    "61:e2 63:109 65:ea 67:11d 68:125 69:ee 6a:135 6f:f4 73:15d 75:fb 77:175 79:177 7a:1e91
     1ea1:1ead 1eb9:1ec7 1ecd:1ed9"),
   (0x303,
    "61:e3 65:1ebd 69:129 6e:f1 6f:f5 75:169 76:1e7d 79:1ef9 e2:1eab ea:1ec5 f4:1ed7 103:1eb5
     1a1:1ee1 1b0:1eef"),
   (0x304,
    "61:101 65:113 67:1e21 69:12b 6f:14d 75:16b 79:233 e4:1df e6:1e3 f5:22d f6:22b fc:1d6
     1eb:1ed 227:1e1 22f:231 3b1:1fb1 3b9:1fd1 3c5:1fe1 438:4e3 443:4ef 1e37:1e39 1e5b:1e5d"),
   (0x306,
    "61:103 65:115 67:11f 69:12d 6f:14f 75:16d 229:1e1d 3b1:1fb0 3b9:1fd0 3c5:1fe0 430:4d1
     435:4d7 436:4c2 438:439 443:45e 1ea1:1eb7"),
   (0x307,
    "61:227 62:1e03 63:10b 64:1e0b 65:117 66:1e1f 67:121 68:1e23 6d:1e41 6e:1e45 6f:22f 70:1e57
     72:1e59 73:1e61 74:1e6b 77:1e87 78:1e8b 79:1e8f 7a:17c 15b:1e65 161:1e67 1e63:1e69
     105d2:105c9 105da:105e4"),
   (0x308,
    "61:e4 65:eb 68:1e27 69:ef 6f:f6 74:1e97 75:fc 77:1e85 78:1e8d 79:ff f5:1e4f 16b:1e7b
     3b9:3ca 3c5:3cb 430:4d3 435:451 436:4dd 437:4df 438:4e5 43e:4e7 443:4f1 447:4f5 44b:4f9
     44d:4ed 456:457 4d9:4db 4e9:4eb"),
   (0x309,
    "61:1ea3 65:1ebb 69:1ec9 6f:1ecf 75:1ee7 79:1ef7 e2:1ea9 ea:1ec3 f4:1ed5 103:1eb3 1a1:1edf
     1b0:1eed"),
   (0x30a, "61:e5 75:16f 77:1e98 79:1e99"), (0x30b, "6f:151 75:171 443:4f3"),
   (0x30c,
    "61:1ce 63:10d 64:10f 65:11b 67:1e7 68:21f 69:1d0 6a:1f0 6b:1e9 6c:13e 6e:148 6f:1d2 72:159
     73:161 74:165 75:1d4 7a:17e fc:1da 292:1ef"),
   (0x30f, "61:201 65:205 69:209 6f:20d 72:211 75:215 475:477"),
   (0x311, "61:203 65:207 69:20b 6f:20f 72:213 75:217"),
   (0x313, "3b1:1f00 3b5:1f10 3b7:1f20 3b9:1f30 3bf:1f40 3c1:1fe4 3c5:1f50 3c9:1f60"),
   (0x314, "3b1:1f01 3b5:1f11 3b7:1f21 3b9:1f31 3bf:1f41 3c1:1fe5 3c5:1f51 3c9:1f61"),
   (0x31b, "6f:1a1 75:1b0"),
   (0x323,
    "61:1ea1 62:1e05 64:1e0d 65:1eb9 68:1e25 69:1ecb 6b:1e33 6c:1e37 6d:1e43 6e:1e47 6f:1ecd
     72:1e5b 73:1e63 74:1e6d 75:1ee5 76:1e7f 77:1e89 79:1ef5 7a:1e93 1a1:1ee3 1b0:1ef1"),
   (0x324, "75:1e73"), (0x325, "61:1e01"), (0x326, "73:219 74:21b"),
   (0x327, "63:e7 64:1e11 65:229 67:123 68:1e29 6b:137 6c:13c 6e:146 72:157 73:15f 74:163"),
   (0x328, "61:105 65:119 69:12f 6f:1eb 75:173"),
   (0x32d, "64:1e13 65:1e19 6c:1e3d 6e:1e4b 74:1e71 75:1e77"), (0x32e, "68:1e2b"),
   (0x330, "65:1e1b 69:1e2d 75:1e75"),
   (0x331, "62:1e07 64:1e0f 68:1e96 6b:1e35 6c:1e3b 6e:1e49 72:1e5f 74:1e6f 7a:1e95"),
   (0x338,
    "3c:226e 3d:2260 3e:226f 2190:219a 2192:219b 2194:21ae 21d0:21cd 21d2:21cf 21d4:21ce
     2203:2204 2208:2209 220b:220c 2223:2224 2225:2226 223c:2241 2243:2244 2245:2247 2248:2249
     224d:226d 2261:2262 2264:2270 2265:2271 2272:2274 2273:2275 2276:2278 2277:2279 227a:2280
     227b:2281 227c:22e0 227d:22e1 2282:2284 2283:2285 2286:2288 2287:2289 2291:22e2 2292:22e3
     22a2:22ac 22a8:22ad 22a9:22ae 22ab:22af 22b2:22ea 22b3:22eb 22b4:22ec 22b5:22ed"),
   (0x342,
    "3b1:1fb6 3b7:1fc6 3b9:1fd6 3c5:1fe6 3c9:1ff6 3ca:1fd7 3cb:1fe7 1f00:1f06 1f01:1f07
     1f20:1f26 1f21:1f27 1f30:1f36 1f31:1f37 1f50:1f56 1f51:1f57 1f60:1f66 1f61:1f67"),
   (0x653, "627:622"), (0x654, "627:623 648:624 64a:626 6c1:6c2 6d2:6d3 6d5:6c0"),
   (0x655, "627:625"), (0x93c, "928:929 930:931 933:934"), (0x9be, "9c7:9cb"), (0x9d7, "9c7:9cc"),
   (0xb3e, "b47:b4b"), (0xb56, "b47:b48"), (0xb57, "b47:b4c"), (0xbbe, "bc6:bca bc7:bcb"),
   (0xbd7, "b92:b94 bc6:bcc"), (0xc56, "c46:c48"), (0xcc2, "cc6:cca"),
   (0xcd5, "cbf:cc0 cc6:cc7 cca:ccb"), (0xcd6, "cc6:cc8"), (0xd3e, "d46:d4a d47:d4b"),
   (0xd57, "d46:d4c"), (0xdca, "dd9:dda ddc:ddd"), (0xdcf, "dd9:ddc"), (0xddf, "dd9:dde"),
   (0x102e, "1025:1026"),
   (0x1b35,
    "1b05:1b06 1b07:1b08 1b09:1b0a 1b0b:1b0c 1b0d:1b0e 1b11:1b12 1b3a:1b3b 1b3c:1b3d 1b3e:1b40
     1b3f:1b41 1b42:1b43"),
   (0x3099,
    "3046:3094 304b:304c 304d:304e 304f:3050 3051:3052 3053:3054 3055:3056 3057:3058 3059:305a
     305b:305c 305d:305e 305f:3060 3061:3062 3064:3065 3066:3067 3068:3069 306f:3070 3072:3073
     3075:3076 3078:3079 307b:307c 309d:309e 30a6:30f4 30ab:30ac 30ad:30ae 30af:30b0 30b1:30b2
     30b3:30b4 30b5:30b6 30b7:30b8 30b9:30ba 30bb:30bc 30bd:30be 30bf:30c0 30c1:30c2 30c4:30c5
     30c6:30c7 30c8:30c9 30cf:30d0 30d2:30d3 30d5:30d6 30d8:30d9 30db:30dc 30ef:30f7 30f0:30f8
     30f1:30f9 30f2:30fa 30fd:30fe"),
   (0x309a,
    "306f:3071 3072:3074 3075:3077 3078:307a 307b:307d 30cf:30d1 30d2:30d4 30d5:30d7 30d8:30da
     30db:30dd"),
   (0x110ba, "11099:1109a 1109b:1109c 110a5:110ab"), (0x11127, "11131:1112e 11132:1112f"),
   (0x1133e, "11347:1134b"), (0x11357, "11347:1134c"), (0x113b8, "113c2:113c7"),
   (0x113bb, "11384:11385"), (0x113c2, "1138b:1138e 113c2:113c5"),
   (0x113c9, "11382:11383 11390:11391 113c2:113c8"), (0x114b0, "114b9:114bc"),
   (0x114ba, "114b9:114bb"), (0x114bd, "114b9:114be"), (0x115af, "115b8:115ba 115b9:115bb"),
   (0x11930, "11935:11938"), (0x1611e, "1611e:16121"),
   (0x1611f, "1611e:16123 16121:16126 16122:16127 16129:16124"),
   (0x16120, "1611e:16125 16121:16128"), (0x16129, "1611e:16122"),
   (0x16d67, "16d63:16d69 16d67:16d68 16d69:16d6a")]

/-- The pairs of a character and a mark that are one character, and that character. -/
def composites : List (Char × Char × Char) :=
  compositeTables.flatMap fun (mark, table) =>
    (words table).map fun word =>
      let (base, whole) := cutAt ':' word
      (Char.ofNat (codePoint base), Char.ofNat mark, Char.ofNat (codePoint whole))

/-- The syllable that two parts of a Korean syllable make up. -/
def syllable? (a b : Char) : Option Char :=
  let x := a.toNat
  let y := b.toNat
  if 0x1100 ≤ x ∧ x ≤ 0x1112 ∧ 0x1161 ≤ y ∧ y ≤ 0x1175 then
    some (Char.ofNat (0xAC00 + ((x - 0x1100) * 21 + (y - 0x1161)) * 28))
  else if 0xAC00 ≤ x ∧ x ≤ 0xD7A3 ∧ (x - 0xAC00) % 28 = 0 ∧ 0x11A8 ≤ y ∧ y ≤ 0x11C2 then
    some (Char.ofNat (x + (y - 0x11A7)))
  else none

/-- The character that two characters make up. -/
def compose? (a b : Char) : Option Char :=
  (syllable? a b).or
    ((composites.find? fun (base, mark, _) => base == a && mark == b).map fun (_, _, whole) => whole)

/-- The two parts of a character. -/
def parts? (c : Char) : Option (Char × Char) :=
  (composites.find? fun (_, _, whole) => whole == c).map fun (base, mark, _) => (base, mark)

/-! ## 2. Taking apart and ordering -/

/-- Takes a character apart, over and over; `depth` bounds how often. -/
def decomposeBy (parts? : Char → Option (Char × Char)) : Nat → Char → List Char
  | 0, c => [c]
  | depth + 1, c =>
    match parts? c with
    | none => [c]
    | some (base, mark) => decomposeBy parts? depth base ++ [mark]

/-- Puts a character before others; a mark goes behind those of a lower class. -/
def insertMark (c : Char) : List Char → List Char
  | [] => [c]
  | d :: r =>
    if markClass d ≠ 0 ∧ markClass d < markClass c then d :: insertMark c r else c :: d :: r

/-- Takes a text apart and orders the marks. -/
def decomposed (cs : List Char) : List Char :=
  (cs.flatMap (decomposeBy parts? 4)).foldr insertMark []

/-! ## 3. Composing -/

/-- A text on its way to composed form: what is finished, the last character that marks may join,
and the marks behind it; the lists are in reverse. -/
structure Composer where
  done : List Char := []
  base : Option Char := none
  marks : List Char := []

/-- The text so far. -/
def Composer.text (s : Composer) : List Char := (s.marks ++ s.base.toList ++ s.done).reverse

/-- The character with which the next one may be composed: no mark of its class or a higher one is
in the way. -/
def Composer.partner? (s : Composer) (c : Char) : Option Char :=
  match s.marks with
  | [] => s.base
  | mark :: _ => if markClass mark < markClass c then s.base else none

/-- Takes in a character. -/
def Composer.take (s : Composer) (c : Char) : Composer :=
  match (s.partner? c).bind fun base => compose? base c with
  | some whole => { s with base := some whole }
  | none =>
    if markClass c = 0 then { done := s.marks ++ s.base.toList ++ s.done, base := some c }
    else { s with marks := c :: s.marks }

/-- The composed form of a text. -/
def composed (cs : List Char) : List Char := ((decomposed cs).foldl Composer.take {}).text

/-- Whether a text is in composed form. -/
def isComposed (cs : List Char) : Bool := composed cs == cs

end PluginArbiter.Text
