import RefactorAdvice.Text.Ranges

/-!
Which code points are shown as they are when a text is quoted: all but controls, formats,
surrogates, private and unassigned ones, and separators other than the plain space, by
Unicode version 14.
-/

namespace RefactorAdvice.Text

def printableRanges : Array (Nat × Nat) := rangesOf
  "a1+b 1+2c9 2+5 4+6 1 1+13 1+18c 1+25 2+31 2+2 1+36 8+1a 4+5 11+15 1+bf 1+2f 2+3a 2+64 e+3a 2+30
  2+e 1+1b 2 1+a 5+1e 9+49 1+a0 1+7 2+1 2+15 1+6 1 3+3 2+8 2+1 2+3 8 4+1 1+4 2+18 2+2 1+5 4+1
  2+15 1+6 1+1 1+1 1+1 2 1+4 4+1 2+2 3 7+3 1 7+10 a+2 1+8 1+2 1+15 1+6 1+1 1+4 2+9 1+2 1+2 2 f+3
  2+b 7+6 1+2 1+7 2+1 2+15 1+6 1+1 1+4 2+8 2+1 2+2 7+2 4+1 1+4 2+11 a+1 1+5 3+2 1+3 3+1 1 1+1 3+1
  3+2 3+b 4+4 3+2 1+3 2 6 e+14 5+c 1+2 1+16 1+f 2+8 1+2 1+3 7+1 1+2 2 2+3 2+9 7+15 1+2 1+16 1+9
  1+4 2+8 1+2 1+3 7+1 6+1 1+3 2+9 1+1 d+c 1+2 1+32 1+2 1+5 4+f 2+19 1+2 1+11 3+17 1+8 1 2+6 3 4+5
  1 1+7 6+9 2+2 c+39 4+1c 25+1 1 1+4 1+17 1 1+16 2+4 1 1+5 2+9 2+3 20+47 1+23 4+26 1+23 1+e 1+c
  25+c5 1 5 2+178 1+3 2+6 1 1+3 2+28 1+3 2+20 1+3 2+6 1 1+3 2+e 1+38 1+3 2+42 2+1f 3+19 6+55 2+5
  2+27f 1+1b 3+58 7+15 9+17 9+13 c+c 1+2 1+1 c+5d 2+9 6+9 6+d 1+a 6+58 7+2a 5+45 a+1e 1+b 4+b 4
  3+29 2+4 b+2b 4+19 6+a 3+3d 2+40 1+1c 2+a 6+9 6+d 2+1e 31+4c 3+2e 1+73 8+3b 3+e 3+3b 7+2a 2+a
  8+2a 5+215 2+5 2+25 2+5 2+7 1 1 1 1+1e 2+34 1+e 1+d 2+5 1+12 2+2 1+8 11+17 8+2e 11+1 2+1a 1+c
  3+20 f+20 f+8b 4+296 19+a 15+713 2+1f 1+15c 5+2c 1 5 2+37 7+1 e+17 9+6 1+6 1+6 1+6 1+6 1+6 1+6
  1+6 1+7d 22+19 1+58 c+d5 1a+b 5+3e 1+55 2+66 5+2a 1+5d 1+53 c+2e 1+726c 3+36 9+15b 14+b7 8+ca
  5+1 1 1+4 18+3a 3+9 6+37 8+45 8+b 6+73 b+1d 3+4d 1+a 4+20 1+36 9+d 2+9 2+66 18+1b a+5 2+5 2+5
  9+6 1+6 1+3b 4+7d 2+9 6+2ba3 c+16 4+30 2104+16d 2+69 26+6 c+4 5+19 1+4 1 1+1 1+1 1+7c 10+1bc
  2+35 7 20+29 6+32 1+12 1+3 4+4 1+86 4+bd 3+5 2+5 2+5 2+2 3+6 1+6 d+1 2+b 1+19 1+12 1+1 1+e 2+d
  22+7a 5+2 4+2c 3+57 1+c 3 2f+2d 82+1c 3+30 f+1b 4+23 9+1d 5+2a 5+1d 1+24 4+d 2a+9d 2+9 6+23
  4+23 4+27 8+33 b+b 1+e 1+6 1+1 1+a 1+e 1+6 1+1 43+136 9+15 a+7 18+5 1+29 1+8 45+5 2 1+2b 1+1 3
  2+16 1+47 8+8 30+12 1+1 5+20 3+1a 5 40+37 4+13 2+31 1+1 5+7 1+2 1+1c 2+2 4+9 7+8 7+3f 20+26 4+b
  9+35 3+1c 2+1a 5+19 7+3 c+6 50+48 37+32 d+32 7+2d 8+9 126+1e 1+29 1+2 2+1 4e+27 8+29 16+19
  26+1b 14+16 9+4d 4+23 9+3d 1+4 d+18 7+9 6+34 1+11 8+26 9+5f 1+13 b+11 1+2b 41+6 1 1+3 1+e 1+a
  6+3a 5+9 6+3 1+7 2+1 2+15 1+6 1+1 1+4 1+9 2+1 2+2 2 6 5+6 2+6 3+4 8b+5b 1+4 1e+47 8+9 a6+35
  2+25 22+44 b+9 6+c 13+39 6+9 36+1a 2+e 4+16 b9+3b 64+52 c+7 2 2+7 1+1 1+1d 1+1 2+b 9+9 46+7
  2+2d 2+a 1b+47 8+52 d+48 107+8 1+2c 1+d a+1c 3+1f 2+15 1+d 49+6 1+1 1+2b 3 1+1 1+8 8+9 6+5 1+1
  1+24 1+1 1+5 7+9 136+18 b7 f+31 d+39a 66+6e 1+4 b+c3 a4c+62 d+42e fd1+246 21b9+238 7+1e 1+9
  4+50 1+9 6+1d 2+5 a+45 a+9 1+6 1+14 5+12 2b0+5a 65+4a 4+38 7+10 40+4 b+1 e+17f7 8+4d5 2a+8
  22e7+3 1+6 1+1 1+122 2d+2 11+3 8+18b 904+6a 5+c 3+8 7+9 2+3 1260+2d 2+16 9+73 3c+f5 a+26 2+49
  8+6f 15+45 9a+13 c+56 9+18 87+54 1+46 1+1 2 2+1 2+3 1+b 1 1+6 1+40 1+3 2+7 1+6 1+1b 1+3 1+4 1
  3+6 1+153 2+123 2+2bd f+4 1+e 450+1e e1+6 1+10 2+6 1+1 1+4 d5+2c 3+d 2+9 4+1 140+1e 11+39 5
  4e0+6 1+3 1+1 1+e 1+c4 2+f 29+4b 4+9 4+1 311+43 4c+3c c2+3 1+1a 1+1 1 2 1+9 1+3 1 1 6 4 1 1 1+2
  1+1 1 2 1 1 1 1 1+1 1 2+3 1+6 1+3 1+3 1 1+9 1+10 5+2 1+4 1+10 34+1 10e+2b 4+63 c+e 2+e 1+e 1+24
  a+ad 38+1c d+2b 4+8 7+1 e+5 9a+3d7 5+f 3+c 3+73 c+58 7+b 4 f+b 4+37 8+9 6+27 8+1d 2+1 4e+153
  c+d 2+4 3+4 3+6 9+1c 3+a 5+5 a+9 6+7 8+6 9+92 1+36 25+9 406+a6df 20+1038 7+dd 2+1681 e+1d30
  c1f+21d 5e2+134a aedb5+ef"

def isPrintable (code : Nat) : Bool :=
  if code < 0x7f then 0x20 ≤ code else inRanges printableRanges code

end RefactorAdvice.Text
