import RefactorAdvice.Text.Ranges

/-!
Which characters an identifier may be made of: the Unicode properties XID_Start (with the
underscore) and XID_Continue, version 14.
-/

namespace RefactorAdvice.Text

def identifierStarts : Array (Nat × Nat) := rangesOf
  "aa a 4 5+16 1+1e 1+1c9 4+b e+4 7 1 81+4 1+1 3+2 1 6 1+2 1 1+13 1+52 1+8a 8+a5 1+25 2 6+28 47+1a
  4+3 2d+2a 23+1 1+62 1 f+1 7+1 a+2 2 10 1+1d 1d+58 b 18+20 9+1 4 5+15 4 9 3 17+18 7+a 5+17 1+5
  11+29 3a+35 3 12 7+9 f+f 4+7 2+1 2+15 1+6 1 3+3 3 10 d+1 1+2 e+1 a 8+5 4+1 2+15 1+6 1+1 1+1 1+1
  1f+3 1 13+2 10+8 1+2 1+15 1+6 1+1 1+4 3 12 f+1 17 b+7 2+1 2+15 1+6 1+1 1+4 3 1e+1 1+2 f 11 1+5
  3+2 1+3 3+1 1 1+1 3+1 3+2 3+b 16 34+7 1+2 1+16 1+f 3 1a+2 2 2+1 1e 4+7 1+2 1+16 1+9 1+4 3 1f+1
  1+1 f+1 11+8 1+2 1+28 2 10 5+2 8+2 18+5 5+11 3+17 1+8 1 2+6 3a+2f 1 d+6 3a+1 1 1+4 1+17 1 1+9 1
  a 2+4 1 15+3 20 3f+7 1+23 1b+4 73+2a 14 10+5 4+3 3 3+1 7+2 4+c c 11+25 1 5 2+2a 1+14c 1+3 2+6 1
  1+3 2+28 1+3 2+20 1+3 2+6 1 1+3 2+e 1+38 1+3 2+42 25+f 10+55 2+5 3+26b 2+10 1+19 5+4a 3+a 7+11
  d+12 e+11 e+c 1+2 f+33 23 4 43+58 7+28 1 5+45 a+1e 31+1d 2+4 b+2b 4+19 36+16 9+34 52 5d+2e 11+7
  36+1d d+1 a+2b 1a+23 29+2 a+23 2+8 7+2a 2+2 29+3 1+5 1+1 3 5+bf 40+115 2+5 2+25 2+5 2+7 1 1 1
  1+1e 2+34 1+6 1 3+2 1+6 3+3 2+5 4+c 5+2 1+6 74 d 10+c 65 4 2+9 1 2+5 6 1 1 1+f 2+3 5+4 4 11+28
  a77+e4 6+3 3+1 c+25 1 5 2+37 7 10+16 9+6 1+6 1+6 1+6 1+6 1+6 1+6 1+6 226+2 19+8 7+4 2+4 4+55
  6+2 1+59 1+3 5+2a 1+5d 11+1f 30+f 200+19bf 40+568c 43+2d 2+10c 3+f a+1 14+2e 10+1e 2+4f 27+8
  2+66 2+3f 5+1 1 1+4 18+f 1+2 1+3 1+16 1d+33 e+31 3e+5 3 1+1 b+1b a+16 19+1c 7+2e 1c 10+4 1+9
  a+4 1+28 17+2 1+7 14+16 3 3+31 1 3+1 2+4 2 1 18+2 2+a 7+2 c+5 2+5 2+5 9+6 1+6 1+2a 1+d 6+72
  1d+2ba3 c+16 4+30 2104+16d 2+69 26+6 c+4 5 1+9 1+c 1+4 1 1+1 1+1 1+6b 21+8a 6+d9 12+3f 2+35
  28+9 77 1 3 1 1 1 1+7d 24+19 6+19 b+37 2+1e 3+5 2+5 2+5 2+2 23+b 1+19 1+12 1+1 1+e 2+d 22+7a
  45+34 10b+1c 3+30 2f+1f d+1d 5+25 a+1d 2+23 4+7 1+4 2a+9d 12+23 4+23 4+27 8+33 c+a 1+e 1+6 1+1
  1+a 1+e 1+6 1+1 43+136 9+15 a+7 18+5 1+29 1+8 45+5 2 1+2b 1+1 3 2+16 a+16 9+1e 41+12 1+1 a+15
  a+19 46+37 6+1 40 f+3 1+2 1+1c 2a+1c 3+1c 23+7 1+1b 1b+35 a+15 a+12 d+11 6e+48 37+32 d+32 d+23
  15c+29 6+1 4e+1c a 8+15 2a+11 2e+14 1b+16 c+34 39+1 2 d+2c 20+18 1a+23 1d 2 8+22 3 c+2f e+3 15
  1 23+11 1+18 54+6 1 1+3 1+e 1+9 7+2e 26+7 2+1 2+15 1+6 1+1 1+4 3 12 c+4 9e+34 12+3 14+2 1e+2f
  14+1 1 b8+2e 29+3 24+2f 14 3b+2a d 47+1a 25+6 b9+2b 74+3f 1f+7 2 2+7 1+1 1+17 f 1 5e+7 2+26 10
  1 1c a+27 7 15 b+2d 13 12+48 107+8 1+24 11 31+1d 70+6 1+1 1+25 15 19+5 1+1 1+1f e 147+12 bd
  4f+399 66+6e 11+c3 a4c+60 f+42e fd1+246 21b9+238 7+1e 11+4e 11+1d 12+2f 10+3 1f+14 5+12 2b0+3f
  80+4a 5 42+c 40+1 1 1c+17f7 8+4d5 2a+8 22e7+3 1+6 1+1 1+122 2d+2 11+3 8+18b 904+6a 5+c 3+8 7+9
  1766+54 1+46 1+1 2 2+1 2+3 1+b 1 1+6 1+40 1+3 2+7 1+6 1+1b 1+3 1+4 1 3+6 1+153 2+18 1+18 1+1e
  1+18 1+1e 1+18 1+1e 1+18 1+1e 1+18 1+7 734+1e 1e1+2c a+6 10 141+1d 12+2b 4f4+6 1+3 1+1 1+e 1+c4
  3b+43 7 4b4+3 1+1a 1+1 1 2 1+9 1+3 1 1 6 4 1 1 1+2 1+1 1 2 1 1 1 1 1+1 1 2+3 1+6 1+3 1+3 1 1+9
  1+10 5+2 1+4 1+10 1144+a6df 20+1038 7+dd 2+1681 e+1d30 c1f+21d 5e2+134a"

def identifierMarks : Array (Nat × Nat) := rangesOf
  "b7 248+6f 17 fb+4 109+2c 1 1+1 1+1 1 48+a 30+1e 6 65+6 2+5 2+1 1+3 2+9 17 1e+1a 5b+a f+9 21+8 9
  18+3 1+8 1+2 1+4 2b+2 3c+7 2a+17 1+20 36+2 1+11 1+6 a+1 2+9 11+2 38 1+6 2+1 2+2 9 a+1 2+9 e 2+2
  38 1+4 4+1 2+2 3 14+b 3 b+2 38 1+7 1+2 1+2 14+1 2+9 a+5 1+2 38 1+6 2+1 2+2 7+2 a+1 2+9 12 3b+4
  3+2 1+3 9 e+9 10+4 37 1+6 1+2 1+3 7+1 b+1 2+9 11+2 38 1+6 1+2 1+3 7+1 b+1 2+9 10+3 37+1 1+6 1+2
  1+3 9 a+1 2+9 11+2 46 4+5 1 1+7 6+9 2+1 3d 1+7 c+7 1+9 57 1+9 b+5 2+9 3e+1 6+9 b 1 1 4+1 31+13
  1+1 5+a 1+23 9 64+13 1+9 c+3 4+2 1+2 2+6 3+3 d+b 1+e 2bf+2 9+8 3a0+3 1c+2 1d+1 1e+1 40+1f 9 2+9
  21+2 1+a 8f 76+b 4+b a+9 80+a 3c+4 39+9 1+1c 2+a 6+9 16+d 1+f 31+4 2f+10 b+9 11+8 c+2 1e+c 2+9
  2c+d 30+13 8+9 6+9 76+2 1+14 4 6 2+2 c6+3f 23f+1 13 7b+c 4 3+b bfe+2 8d 60+1f 22a+5 69+1 7585+9
  45 4+9 20+1 50+1 110 3 4 17+4 4 53+1 32+11 a+9 6+11 d+a 1c+7 19+c 2c+3 2f+d f+9 b a+9 2f+d c
  8+1 2+9 21+2 32 1+2 2+1 5+1 1 29+4 5+1 ec+7 1+1 2+9 4f24 2e1+f 10+f 3+1 18+2 c0+9 25 5e+1 25d
  e2 95+4 125+9 557+2 1+1 5+3 28+2 4 a5+1 23d+3 8+9 171+1 99+a 31+3 7a+2 35+e 1f+a 2+1 a+3 2d+a 7
  2d+9 6+2 24+d 1+9 5+1 2c c+2 30+d 8+3 1+b 52+b 6 a0+b 5+9 6+3 37+1 1+6 2+1 2+2 9 a+1 2+6 3+4
  c0+11 9+9 4 51+13 c+9 d5+6 2+8 1b+1 52+10 f+9 51+c 8+9 53+e 4+9 f2+e a5+9 46+5 1+1 2+3 1 1+1
  c+9 77+6 2+6 3 1c+9 28+6 1+3 8 9+a 2e+f 195+7 1+7 10+9 38+15 1+d 7a+5 3 1+1 1+6 1 8+9 30+4 1+1
  1+4 8+9 149+3 4b69+9 56+9 26+4 3b+6 19+9 3f5 1+36 7+3 51 b+1 4cab+1 1261+2d 2+16 21e+4 3+5 8+7
  2+6 1e+3 94+2 589+31 200+36 4+31 8 e 16+4 1+e 550+6 1+10 2+6 1+1 1+4 105+6 9+9 164 3d+d 5d6+6
  6d+6 5+9 1296+9 c0506+ef"

def isIdentifierStart (c : Char) : Bool :=
  if c.toNat < 128 then c.isAlpha || c == '_' else inRanges identifierStarts c.toNat

def isIdentifierPart (c : Char) : Bool :=
  isIdentifierStart c ||
    if c.toNat < 128 then c.isDigit else inRanges identifierMarks c.toNat

def isIdentifier : List Char → Bool
  | [] => false
  | c :: rest => isIdentifierStart c && rest.all isIdentifierPart

end RefactorAdvice.Text
