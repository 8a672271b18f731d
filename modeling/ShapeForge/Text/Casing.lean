import ShapeForge.Text.CodeRange

/-!
# Letter case

One-to-one case mappings of characters, the few title forms that take several characters, and
the title form of a word.  ASCII is handled by the core mappings; the tables hold what lies
beyond.
-/

namespace ShapeForge.Text

/-- Upper-case images beyond ASCII: a step and an offset, with the first code points and the lengths
of the ranges that have them. -/
def upperRanges : List (Nat × Int × List (Nat × Nat)) :=
  [
    (1,743,[(181,1)]),(1,-32,[(224,23),(248,7),(945,17),(963,9),(1072,32),(65345,26),(71872,32),
    (93792,32)]),(1,121,[(255,1)]),(2,-1,[(257,24),(307,3),(314,8),(331,23),(378,3),(387,2),(392,1),
    (396,1),(402,1),(409,1),(417,3),(424,1),(429,1),(432,1),(436,2),(441,1),(445,1),(453,1),(456,1),
    (459,1),(462,8),(479,9),(498,1),(501,1),(505,20),(547,9),(572,1),(578,1),(583,5),(881,2),
    (887,1),(985,12),(1016,1),(1019,1),(1121,17),(1163,27),(1218,7),(1233,48),(7681,75),(7841,48),
    (8580,1),(11361,1),(11368,3),(11379,1),(11382,1),(11393,50),(11500,2),(11507,1),(42561,23),
    (42625,14),(42787,7),(42803,31),(42874,2),(42879,5),(42892,1),(42897,2),(42903,10),(42933,8),
    (42952,2),(42961,1),(42967,2),(42998,1)]),(1,-232,[(305,1)]),(1,-300,[(383,1)]),
    (1,195,[(384,1)]),(1,97,[(405,1)]),(1,163,[(410,1)]),(1,130,[(414,1),(891,3)]),(1,56,[(447,1)]),
    (1,-2,[(454,1),(457,1),(460,1),(499,1)]),(1,-79,[(477,1)]),(1,10815,[(575,2)]),
    (1,10783,[(592,1)]),(1,10780,[(593,1)]),(1,10782,[(594,1)]),(1,-210,[(595,1)]),
    (1,-206,[(596,1)]),(1,-205,[(598,2),(608,1)]),(1,-202,[(601,1)]),(1,-203,[(603,1)]),
    (1,42319,[(604,1)]),(1,42315,[(609,1)]),(1,-207,[(611,1)]),(1,42280,[(613,1)]),
    (1,42308,[(614,1),(618,1)]),(1,-209,[(616,1)]),(1,-211,[(617,1),(623,1)]),(1,10743,[(619,1)]),
    (1,42305,[(620,1)]),(1,10749,[(625,1)]),(1,-213,[(626,1)]),(1,-214,[(629,1)]),
    (1,10727,[(637,1)]),(1,-218,[(640,1),(643,1),(648,1)]),(1,42307,[(642,1)]),(1,42282,[(647,1)]),
    (1,-69,[(649,1)]),(1,-217,[(650,2)]),(1,-71,[(652,1)]),(1,-219,[(658,1)]),(1,42261,[(669,1)]),
    (1,42258,[(670,1)]),(1,84,[(837,1)]),(1,-38,[(940,1)]),(1,-37,[(941,3)]),(1,-31,[(962,1)]),
    (1,-64,[(972,1),(68800,51)]),(1,-63,[(973,2)]),(1,-62,[(976,1)]),(1,-57,[(977,1)]),
    (1,-47,[(981,1)]),(1,-54,[(982,1)]),(1,-8,[(983,1),(5112,6)]),(1,-86,[(1008,1)]),
    (1,-80,[(1009,1),(1104,16)]),(1,7,[(1010,1),(8165,1)]),(1,-116,[(1011,1)]),(1,-96,[(1013,1)]),
    (1,-15,[(1231,1)]),(1,-48,[(1377,38),(11312,48)]),(1,3008,[(4304,43),(4349,3)]),
    (1,-6254,[(7296,1)]),(1,-6253,[(7297,1)]),(1,-6244,[(7298,1)]),(1,-6242,[(7299,2)]),
    (1,-6243,[(7301,1)]),(1,-6236,[(7302,1)]),(1,-6181,[(7303,1)]),(1,35266,[(7304,1)]),
    (1,35332,[(7545,1)]),(1,3814,[(7549,1)]),(1,35384,[(7566,1)]),(1,-59,[(7835,1)]),(1,8,[(7936,8),
    (7952,6),(7968,8),(7984,8),(8000,6),(8032,8),(8064,8),(8080,8),(8096,8),(8112,2),(8144,2),
    (8160,2)]),(2,8,[(8017,4)]),(1,74,[(8048,2)]),(1,86,[(8050,4)]),(1,100,[(8054,2)]),
    (1,128,[(8056,2)]),(1,112,[(8058,2)]),(1,126,[(8060,2)]),(1,9,[(8115,1),(8131,1),(8179,1)]),
    (1,-7205,[(8126,1)]),(1,-28,[(8526,1)]),(1,-16,[(8560,16)]),(1,-26,[(9424,26)]),
    (1,-10795,[(11365,1)]),(1,-10792,[(11366,1)]),(1,-7264,[(11520,38),(11559,1),(11565,1)]),
    (1,48,[(42900,1)]),(1,-928,[(43859,1)]),(1,-38864,[(43888,80)]),(1,-40,[(66600,40),(66776,36)]),
    (2,-39,[(66967,19),(66968,5),(66980,7),(66996,3)]),(1,-39,[(67004,1)]),(1,-34,[(125218,34)])]

def upperOffsets : Array OffsetRange :=
  (upperRanges.flatMap fun (step, offset, ranges) =>
    ranges.map fun (first, length) => ⟨first, first + (length - 1) * step, step, offset⟩).toArray

/-- Lower-case images that are not turned back, or to which several characters are turned. -/
def oddLowerOffsets : List OffsetRange :=
  [
    ⟨304,304,1,-199⟩,⟨452,452,1,2⟩,⟨453,453,1,1⟩,⟨455,455,1,2⟩,⟨456,456,1,1⟩,⟨458,458,1,2⟩,
    ⟨459,459,1,1⟩,⟨497,497,1,2⟩,⟨498,498,1,1⟩,⟨924,924,1,32⟩,⟨1012,1012,1,-60⟩,⟨7838,7838,1,-7615⟩,
    ⟨8486,8486,1,-7517⟩,⟨8490,8490,1,-8383⟩,⟨8491,8491,1,-8262⟩]

/-- Lower-case images beyond ASCII; most are the inverse of upper-case images. -/
def lowerOffsets : Array OffsetRange :=
  (oddLowerOffsets ++ upperOffsets.toList.map OffsetRange.inverse).toArray

def titleOffsets : Array OffsetRange :=
  #[
    ⟨452,452,1,1⟩,⟨453,453,1,0⟩,⟨454,454,1,-1⟩,⟨455,455,1,1⟩,⟨456,456,1,0⟩,⟨457,457,1,-1⟩,
    ⟨458,458,1,1⟩,⟨459,459,1,0⟩,⟨460,460,1,-1⟩,⟨497,497,1,1⟩,⟨498,498,1,0⟩,⟨499,499,1,-1⟩,
    ⟨4304,4346,1,0⟩,⟨4349,4351,1,0⟩]

def titleSequences : Array (Nat × List Nat) :=
  #[
    (223,[83,115]),(329,[700,78]),(496,[74,780]),(912,[921,776,769]),(944,[933,776,769]),
    (1415,[1333,1410]),(7830,[72,817]),(7831,[84,776]),(7832,[87,778]),(7833,[89,778]),
    (7834,[65,702]),(8016,[933,787]),(8018,[933,787,768]),(8020,[933,787,769]),(8022,[933,787,834]),
    (8114,[8122,837]),(8116,[902,837]),(8118,[913,834]),(8119,[913,834,837]),(8130,[8138,837]),
    (8132,[905,837]),(8134,[919,834]),(8135,[919,834,837]),(8146,[921,776,768]),
    (8147,[921,776,769]),(8150,[921,834]),(8151,[921,776,834]),(8162,[933,776,768]),
    (8163,[933,776,769]),(8164,[929,787]),(8166,[933,834]),(8167,[933,776,834]),(8178,[8186,837]),
    (8180,[911,837]),(8182,[937,834]),(8183,[937,834,837]),(64256,[70,102]),(64257,[70,105]),
    (64258,[70,108]),(64259,[70,102,105]),(64260,[70,102,108]),(64261,[83,116]),(64262,[83,116]),
    (64275,[1348,1398]),(64276,[1348,1381]),(64277,[1348,1387]),(64278,[1358,1398]),
    (64279,[1348,1389])]

/-- Characters with a case: those that have an upper or lower form, and letters styled as one. -/
def casedRuns : List Nat :=
  [
    170,1,10,1,4,1,5,23,1,31,1,195,1,4,4,208,2,35,7,2,30,5,96,1,42,4,2,2,2,4,1,1,6,1,1,3,1,1,1,20,1,
    83,1,139,8,166,1,38,9,41,2839,38,1,1,5,1,2,43,1,4,672,86,2,6,2178,9,7,43,2,3,64,192,64,278,2,6,
    2,38,2,6,2,8,1,1,1,1,1,1,1,31,2,53,1,7,1,1,3,3,1,7,3,4,2,6,4,13,5,3,1,7,116,1,13,1,16,13,101,1,
    4,1,2,10,1,1,3,5,6,1,1,1,1,1,1,4,1,6,4,1,2,4,5,5,4,1,17,32,3,2,817,52,1814,229,6,4,3,2,12,38,1,
    1,5,1,30994,46,18,30,132,102,3,4,1,59,5,2,1,1,1,5,24,5,1,3,821,43,1,14,6,80,20288,7,12,5,1033,
    26,6,26,1189,80,96,36,4,36,116,11,1,15,1,7,1,2,1,11,1,15,1,7,1,2,451,1,2,3,1,42,1,9,1221,51,13,
    51,2989,64,21856,64,25984,85,1,71,1,2,2,1,2,2,2,4,1,12,1,1,1,7,1,65,1,4,2,8,1,7,1,28,1,4,1,5,1,
    1,3,7,1,340,2,25,1,25,1,31,1,25,1,31,1,25,1,31,1,25,1,31,1,25,1,8,1844,10,1,20,6,6,261,62,2194,
    68,2028,26,6,26,6,26]

/-- Letters that end a word for the purpose of title case: they belong to scripts that write
words without separating them. -/
def unseparatedRuns : List Nat :=
  [
    3585,48,1,2,12,7,58,2,1,1,1,5,1,24,1,1,1,10,1,2,9,1,2,5,1,1,21,4,288,43,20,1,16,6,4,4,3,1,3,2,7,
    3,4,13,12,1,1777,52,35,1,4,1,371,30,2,5,11,44,4,26,86,53,82,1,5470,1,58,86,6,3,1,90,2,3,240,16,
    512,6592,64,20992,2528,5,1,10,10,5,97,23,3,1,3,50,1,1,3,2,2,5,2,1,1,1,24,3,20002,366,2,106,1164,
    10,1,45,5986,27,37,7,22713,6136,8,1238,42,9,8935,4,1,7,1,2,1,291,15,1,29,3,2,1,14,4,8,396,19716,
    42720,32,4153,7,222,2,5762,14,7473,3103,542,1506,4939,5,4192]

def toUpper (c : Char) : Char :=
  if c.toNat < 128 then c.toUpper else (shift? upperOffsets c).getD c

def toLower (c : Char) : Char :=
  if c.toNat < 128 then c.toLower else (shift? lowerOffsets c).getD c

def toTitle (c : Char) : List Char :=
  if c.toNat < 128 then [c.toUpper]
  else match titleSequences.find? fun entry => entry.1 == c.toNat with
    | some (_, codes) => codes.map Char.ofNat
    | none => [(shift? titleOffsets c).getD (toUpper c)]

def isCased (c : Char) : Bool :=
  if c.toNat < 128 then c.isAlpha else inRuns casedRuns c.toNat

/-- Whether the next cased letter starts a word again. -/
def separatesWords (c : Char) : Bool :=
  128 ≤ c.toNat && inRuns unseparatedRuns c.toNat

/-- Put the first cased letter of every word into title form; `inside` says that one has been
seen in the current word. -/
def titleFrom : Bool → List Char → List Char
  | _, [] => []
  | inside, c :: rest =>
    if isCased c then
      (if inside then [c] else toTitle c) ++ titleFrom true rest
    else
      c :: titleFrom (inside && !separatesWords c) rest

def isUpper (c : Char) : Bool :=
  toLower c != c && toUpper c == c

def upper (text : String) : String :=
  String.ofList (text.toList.map toUpper)

def lower (text : String) : String :=
  String.ofList (text.toList.map toLower)

/-- The dotted capital and the dotless small letter stand outside the fold of `i`. -/
def isUnfolded (c : Char) : Bool :=
  c.toNat == 0x130 || c.toNat == 0x131

/-- A representative of the characters that are equal up to case. -/
def fold (c : Char) : Char :=
  if isUnfolded c then c else toLower (toUpper c)

def equalFold (left right : String) : Bool :=
  left.toList.map fold == right.toList.map fold

end ShapeForge.Text
