import ShapeForge.Text.Letter

/-!
# Printable characters

Letters, marks, numbers, punctuation and symbols, together with the ASCII space, may be shown as
they are; every other character is shown by an escape.
-/

namespace ShapeForge.Text

/-- Marks, numbers, punctuation and symbols beyond ASCII; a run may include letters and digits. -/
def symbolRuns : List Nat :=
  [
    161,12,1,712,8,1,5,4,110,148,208,49,2,3,1,55,43,2,17,22,1,192,1,48,3,58,91,11,58,15,3,49,2,15,
    26,3,2,1,41,1,15,74,1,161,56,9,2,2,2,3,9,1,10,2,14,13,2,3,56,1,1,5,4,2,2,3,3,1,30,7,10,3,56,10,
    1,3,1,3,20,2,12,2,8,6,1,3,56,9,2,2,2,3,7,3,10,2,12,8,10,1,59,5,3,3,1,4,9,1,24,11,5,5,55,9,1,3,1,
    4,7,2,11,2,19,14,55,9,1,3,1,4,7,2,11,2,15,1,12,4,55,10,1,3,1,6,7,13,12,10,7,3,70,1,4,6,1,1,1,8,
    18,3,60,10,4,29,85,12,11,7,50,63,49,39,1,36,1,15,1,13,80,117,91,1,609,32,19,10,102,623,44,2,78,
    6,33,4,28,5,27,2,30,2,64,42,18,10,6,14,1,1,117,37,118,12,4,12,4,1,3,2,148,1,3,62,2,65,1,29,2,1,
    32,14,2,31,49,69,21,37,1,116,8,60,3,5,62,2,64,8,8,42,198,64,445,5,11,3,13,19,13,2,17,24,8,47,17,
    1,3,27,17,33,15,33,15,140,4,663,25,11,21,1812,2,32,1,347,7,7,112,1,14,1,96,126,34,26,1,89,12,
    214,26,12,5,63,89,99,148,84,28,31,1,7136,22160,55,55,274,95,137,8,139,119,43,3,10,58,4,8,70,8,2,
    16,116,11,1,32,78,16,8,67,14,12,11,14,102,28,25,100,17,119,11,20272,12,136,17,379,18,127,1,44,
    30,6,51,1,19,1,4,149,101,122,7,1,7,13,2,258,3,4,45,3,88,1,13,3,1,47,46,226,28,36,4,29,10,43,5,
    36,1,48,6,409,1,743,41,39,9,75,33,3,1,31,1,124,20,2,50,1,2,5,4,40,3,4,10,7,9,36,35,40,31,4,12,
    66,7,24,8,24,8,25,4,12,7,330,46,312,31,44,3,79,42,31,20,40,8,59,7,52,78,4,35,10,62,1,5,61,53,11,
    7,44,3,10,96,1,20,55,22,103,1,53,12,21,4,55,10,2,2,2,3,9,1,10,2,2,7,3,5,192,39,1,2,81,23,232,7,
    2,38,82,20,28,13,62,15,99,15,14,6,236,16,174,9,61,6,1,2,2,12,138,7,2,11,28,71,9,82,93,10,293,8,
    1,14,20,19,3,2,32,22,1,14,122,6,3,1,1,2,1,9,66,5,1,2,1,5,347,6,7,4,48,7,3,18,112,50,13,1,1024,
    111,1,5,2940,2,1101,22,13848,2,128,6,58,22,21,7,798,27,180,57,7,4,79,3,11,2,19626,4,4704,46,2,
    23,9,116,60,246,10,39,2,74,8,112,21,70,122,20,12,20,12,87,9,25,840,259,60,652,15,5,1,15,1360,7,
    1,17,2,7,1,2,1,5,100,1,160,7,24,1,350,1,61,4,15,1,492,4,983,16,109,7,19,2,785,68,76,61,434,2,
    270,44,4,100,12,15,2,15,1,15,1,37,10,174,56,29,13,44,4,9,7,2,14,6,154,984,4,17,3,13,3,119,4,95,
    6,12,4,1,15,12,4,56,8,10,6,40,8,30,2,2,78,340,12,14,2,13,3,9,7,46,1,7,8,14,4,9,7,9,7,147,1,55,
    787765,240]

def isPrintable (c : Char) : Bool :=
  if c.toNat < 128 then 32 ≤ c.toNat && c.toNat < 127 else isWordChar c || inRuns symbolRuns c.toNat

end ShapeForge.Text
