import RefactorAdvice.Text.Ranges

/-!
Upper and lower case of whole texts by Unicode version 14.
-/

namespace RefactorAdvice.Text

/-- What the code points from `first` to `last` in steps become: `form` is what the first of them
becomes, and the others become what lies as far behind that. -/
structure CaseRun where
  first : Nat
  last : Nat
  step : Nat
  form : List Nat

section Tables

/-- A table of ranges with the form of the first code point behind a colon, its parts with commas
between them, and the step behind another colon if it is not one. -/
def caseRuns (table : String) : List CaseRun :=
  let entries := (words table.toList).map (·.splitOn ':')
  let ranges := rangesFrom 0 (entries.map (·.headD []))
  (ranges.zip entries).map fun ((first, last), entry) =>
    ⟨first, last, (entry[2]?.map hexNumber).getD 1, hexNumbers ',' (entry[1]?.getD [])⟩

def upperRuns : List CaseRun := caseRuns
  "61+19:41 3a:39c 29:53,53 0+16:c0 1+6:d8 0:178 1+2e:100:2 1:49 1+4:132:2 2+e:139:2 0:2bc,4e
  1+2c:14a:2 2+4:179:2 0:53 0:243 2+2:182:2 2:187 3:18b 5:191 2:1f6 3:198 0:23d 3:220 2+4:1a0:2
  2:1a7 4:1ac 2:1af 3+2:1b3:2 2:1b8 3:1bc 1:1f7 5:1c4 0:1c4 1:1c7 0:1c7 1:1ca 0:1ca 1+e:1cd:2
  0:18e 1+10:1de:2 0:4a,30c 1:1f1 0:1f1 1:1f4 3+26:1f8:2 3+10:222:2 8:23b 2+1:2c7e 1:241 4+8:246:2
  0:2c6f 0:2c6d 0:2c70 0:181 0:186 1+1:189 1:18f 1:190 0:a7ab 3:193 0:a7ac 1:194 1:a78d 0:a7aa
  1:197 0:196 0:a7ae 0:2c62 0:a7ad 2:19c 1:2c6e 0:19d 2:19f 7:2c64 2:1a6 1:a7c5 0:1a9 3:a7b1 0:1ae
  0:244 0+1:1b1 0:245 5:1b7 a:a7b2 0:a7b0 a6:399 2b+2:370:2 3:376 3+2:3fd 12:399,308,301 1b:386
  0+2:388 0:3a5,308,301 0+10:391 0:3a3 0+8:3a3 0:38c 0+1:38e 1:392 0:398 3:3a6 0:3a0 0:3cf
  1+16:3d8:2 0:39a 0:3a1 0:3f9 0:37f 1:395 2:3f7 2:3fa 34+1f:410 0+f:400 1+20:460:2 9+34:48a:2
  2+c:4c1:2 0:4c0 1+5e:4d0:2 31+25:531 0:535,552 b48+2a:1c90 2+2:1cbd 2f8+5:13f0 882:412 0:414
  0:41e 0+1:421 0:422 0:42a 0:462 0:a64a f0:a77d 3:2c63 10:a7c6 72+94:1e00:2 0:48,331 0:54,308
  0:57,30a 0:59,30a 0:41,2be 0:1e60 5+5e:1ea0:2 0+7:1f08 8+5:1f18 a+7:1f28 8+7:1f38 8+5:1f48
  a:3a5,313 0:1f59 0:3a5,313,300 0:1f5b 0:3a5,313,301 0:1f5d 0:3a5,313,342 0:1f5f 8+7:1f68
  8+1:1fba 0+3:1fc8 0+1:1fda 0+1:1ff8 0+1:1fea 0+1:1ffa 2:1f08,399 0:1f09,399 0:1f0a,399
  0:1f0b,399 0:1f0c,399 0:1f0d,399 0:1f0e,399 0:1f0f,399 0:1f08,399 0:1f09,399 0:1f0a,399
  0:1f0b,399 0:1f0c,399 0:1f0d,399 0:1f0e,399 0:1f0f,399 0:1f28,399 0:1f29,399 0:1f2a,399
  0:1f2b,399 0:1f2c,399 0:1f2d,399 0:1f2e,399 0:1f2f,399 0:1f28,399 0:1f29,399 0:1f2a,399
  0:1f2b,399 0:1f2c,399 0:1f2d,399 0:1f2e,399 0:1f2f,399 0:1f68,399 0:1f69,399 0:1f6a,399
  0:1f6b,399 0:1f6c,399 0:1f6d,399 0:1f6e,399 0:1f6f,399 0:1f68,399 0:1f69,399 0:1f6a,399
  0:1f6b,399 0:1f6c,399 0:1f6d,399 0:1f6e,399 0:1f6f,399 0+1:1fb8 0:1fba,399 0:391,399 0:386,399
  1:391,342 0:391,342,399 4:391,399 1:399 3:1fca,399 0:397,399 0:389,399 1:397,342 0:397,342,399
  4:397,399 3+1:1fd8 0:399,308,300 0:399,308,301 2:399,342 0:399,308,342 8+1:1fe8 0:3a5,308,300
  0:3a5,308,301 0:3a1,313 0:1fec 0:3a5,342 0:3a5,308,342 a:1ffa,399 0:3a9,399 0:38f,399 1:3a9,342
  0:3a9,342,399 4:3a9,399 151:2132 21+f:2160 4:2183 34b+19:24b6 746+2f:2c00 1:2c60 3:23a 0:23e
  1+4:2c67:2 6:2c72 2:2c75 a+62:2c80:2 8+2:2ceb:2 4:2cf2 c+25:10a0 1:10c7 5:10cd 7913+2c:a640:2
  13+1a:a680:2 87+c:a722:2 3+3c:a732:2 a+2:a779:2 2+8:a77e:2 4:a78b 4+2:a790:2 0:a7c4 2+12:a796:2
  b+e:a7b4:2 4+2:a7c7:2 6:a7d0 5+2:a7d6:2 1c:a7f5 35c:a7b3 1c+4f:13a0 4f40:46,46 0:46,49 0:46,4c
  0:46,46,49 0:46,46,4c 0:53,54 0:53,54 c:544,546 0:544,535 0:544,53b 0:54e,546 0:544,53d
  429+19:ff21 4cd+27:10400 88+23:104b0 9b+a:10570 1+e:1057c 1+6:1058c 1+1:10594 703+32:10c80
  bcd+1f:118a0 5580+1f:16e40 7aa2+21:1e900"

def lowerPairs : List (Nat × Nat) := [
  (0x100, 0x12e), (0x132, 0x136), (0x139, 0x147), (0x14a, 0x176), (0x179, 0x17d), (0x182, 0x184),
  (0x187, 0x187), (0x18b, 0x18b), (0x191, 0x191), (0x198, 0x198), (0x1a0, 0x1a4), (0x1a7, 0x1a7),
  (0x1ac, 0x1ac), (0x1af, 0x1af), (0x1b3, 0x1b5), (0x1b8, 0x1b8), (0x1bc, 0x1bc), (0x1c5, 0x1c5),
  (0x1c8, 0x1c8), (0x1cb, 0x1db), (0x1de, 0x1ee), (0x1f2, 0x1f4), (0x1f8, 0x21e), (0x222, 0x232),
  (0x23b, 0x23b), (0x241, 0x241), (0x246, 0x24e), (0x370, 0x372), (0x376, 0x376), (0x3d8, 0x3ee),
  (0x3f7, 0x3f7), (0x3fa, 0x3fa), (0x460, 0x480), (0x48a, 0x4be), (0x4c1, 0x4cd), (0x4d0, 0x52e),
  (0x1e00, 0x1e94), (0x1ea0, 0x1efe), (0x2183, 0x2183), (0x2c60, 0x2c60), (0x2c67, 0x2c6b),
  (0x2c72, 0x2c72), (0x2c75, 0x2c75), (0x2c80, 0x2ce2), (0x2ceb, 0x2ced), (0x2cf2, 0x2cf2),
  (0xa640, 0xa66c), (0xa680, 0xa69a), (0xa722, 0xa72e), (0xa732, 0xa76e), (0xa779, 0xa77b),
  (0xa77e, 0xa786), (0xa78b, 0xa78b), (0xa790, 0xa792), (0xa796, 0xa7a8), (0xa7b4, 0xa7c2),
  (0xa7c7, 0xa7c9), (0xa7d0, 0xa7d0), (0xa7d6, 0xa7d8), (0xa7f5, 0xa7f5)]

def lowerBlocks : List (Nat × Nat × Nat) := [
  (0x41, 0x5a, 0x61), (0xc0, 0xd6, 0xe0), (0xd8, 0xde, 0xf8), (0x178, 0x178, 0xff),
  (0x181, 0x181, 0x253), (0x186, 0x186, 0x254), (0x189, 0x18a, 0x256), (0x18e, 0x18e, 0x1dd),
  (0x18f, 0x18f, 0x259), (0x190, 0x190, 0x25b), (0x193, 0x193, 0x260), (0x194, 0x194, 0x263),
  (0x196, 0x196, 0x269), (0x197, 0x197, 0x268), (0x19c, 0x19c, 0x26f), (0x19d, 0x19d, 0x272),
  (0x19f, 0x19f, 0x275), (0x1a6, 0x1a6, 0x280), (0x1a9, 0x1a9, 0x283), (0x1ae, 0x1ae, 0x288),
  (0x1b1, 0x1b2, 0x28a), (0x1b7, 0x1b7, 0x292), (0x1c4, 0x1c4, 0x1c6), (0x1c7, 0x1c7, 0x1c9),
  (0x1ca, 0x1ca, 0x1cc), (0x1f1, 0x1f1, 0x1f3), (0x1f6, 0x1f6, 0x195), (0x1f7, 0x1f7, 0x1bf),
  (0x220, 0x220, 0x19e), (0x23a, 0x23a, 0x2c65), (0x23d, 0x23d, 0x19a), (0x23e, 0x23e, 0x2c66),
  (0x243, 0x243, 0x180), (0x244, 0x244, 0x289), (0x245, 0x245, 0x28c), (0x37f, 0x37f, 0x3f3),
  (0x386, 0x386, 0x3ac), (0x388, 0x38a, 0x3ad), (0x38c, 0x38c, 0x3cc), (0x38e, 0x38f, 0x3cd),
  (0x391, 0x3a1, 0x3b1), (0x3a3, 0x3ab, 0x3c3), (0x3cf, 0x3cf, 0x3d7), (0x3f4, 0x3f4, 0x3b8),
  (0x3f9, 0x3f9, 0x3f2), (0x3fd, 0x3ff, 0x37b), (0x400, 0x40f, 0x450), (0x410, 0x42f, 0x430),
  (0x4c0, 0x4c0, 0x4cf), (0x531, 0x556, 0x561), (0x10a0, 0x10c5, 0x2d00), (0x10c7, 0x10c7, 0x2d27),
  (0x10cd, 0x10cd, 0x2d2d), (0x13a0, 0x13ef, 0xab70), (0x13f0, 0x13f5, 0x13f8),
  (0x1c90, 0x1cba, 0x10d0), (0x1cbd, 0x1cbf, 0x10fd), (0x1e9e, 0x1e9e, 0xdf),
  (0x1f08, 0x1f0f, 0x1f00), (0x1f18, 0x1f1d, 0x1f10), (0x1f28, 0x1f2f, 0x1f20),
  (0x1f38, 0x1f3f, 0x1f30), (0x1f48, 0x1f4d, 0x1f40), (0x1f68, 0x1f6f, 0x1f60),
  (0x1f88, 0x1f8f, 0x1f80), (0x1f98, 0x1f9f, 0x1f90), (0x1fa8, 0x1faf, 0x1fa0),
  (0x1fb8, 0x1fb9, 0x1fb0), (0x1fba, 0x1fbb, 0x1f70), (0x1fbc, 0x1fbc, 0x1fb3),
  (0x1fc8, 0x1fcb, 0x1f72), (0x1fcc, 0x1fcc, 0x1fc3), (0x1fd8, 0x1fd9, 0x1fd0),
  (0x1fda, 0x1fdb, 0x1f76), (0x1fe8, 0x1fe9, 0x1fe0), (0x1fea, 0x1feb, 0x1f7a),
  (0x1fec, 0x1fec, 0x1fe5), (0x1ff8, 0x1ff9, 0x1f78), (0x1ffa, 0x1ffb, 0x1f7c),
  (0x1ffc, 0x1ffc, 0x1ff3), (0x2126, 0x2126, 0x3c9), (0x212a, 0x212a, 0x6b), (0x212b, 0x212b, 0xe5),
  (0x2132, 0x2132, 0x214e), (0x2160, 0x216f, 0x2170), (0x24b6, 0x24cf, 0x24d0),
  (0x2c00, 0x2c2f, 0x2c30), (0x2c62, 0x2c62, 0x26b), (0x2c63, 0x2c63, 0x1d7d),
  (0x2c64, 0x2c64, 0x27d), (0x2c6d, 0x2c6d, 0x251), (0x2c6e, 0x2c6e, 0x271),
  (0x2c6f, 0x2c6f, 0x250), (0x2c70, 0x2c70, 0x252), (0x2c7e, 0x2c7f, 0x23f),
  (0xa77d, 0xa77d, 0x1d79), (0xa78d, 0xa78d, 0x265), (0xa7aa, 0xa7aa, 0x266),
  (0xa7ab, 0xa7ab, 0x25c), (0xa7ac, 0xa7ac, 0x261), (0xa7ad, 0xa7ad, 0x26c),
  (0xa7ae, 0xa7ae, 0x26a), (0xa7b0, 0xa7b0, 0x29e), (0xa7b1, 0xa7b1, 0x287),
  (0xa7b2, 0xa7b2, 0x29d), (0xa7b3, 0xa7b3, 0xab53), (0xa7c4, 0xa7c4, 0xa794),
  (0xa7c5, 0xa7c5, 0x282), (0xa7c6, 0xa7c6, 0x1d8e), (0xff21, 0xff3a, 0xff41),
  (0x10400, 0x10427, 0x10428), (0x104b0, 0x104d3, 0x104d8), (0x10570, 0x1057a, 0x10597),
  (0x1057c, 0x1058a, 0x105a3), (0x1058c, 0x10592, 0x105b3), (0x10594, 0x10595, 0x105bb),
  (0x10c80, 0x10cb2, 0x10cc0), (0x118a0, 0x118bf, 0x118c0), (0x16e40, 0x16e5f, 0x16e60),
  (0x1e900, 0x1e921, 0x1e922)]

def lowerRuns : List CaseRun :=
  lowerPairs.map (fun (first, last) => ⟨first, last, 2, [first + 1]⟩) ++
    lowerBlocks.map (fun (first, last, form) => ⟨first, last, 1, [form]⟩) ++
    [⟨0x130, 0x130, 1, [0x69, 0x307]⟩, ⟨0x1f59, 0x1f5f, 2, [0x1f51]⟩]

end Tables

def mapCase (runs : List CaseRun) (c : Char) : List Char :=
  match runs.find? fun run =>
      run.first ≤ c.toNat && c.toNat ≤ run.last && (c.toNat - run.first) % run.step == 0 with
  | some run => run.form.map fun code => Char.ofNat (code + (c.toNat - run.first))
  | none => [c]

def upperChar (c : Char) : List Char :=
  if c.toNat < 128 then [c.toUpper] else mapCase upperRuns c

def lowerChar (c : Char) : List Char :=
  if c.toNat < 128 then [c.toLower] else mapCase lowerRuns c

def upper (cs : List Char) : List Char := cs.flatMap upperChar

def lower (cs : List Char) : List Char := cs.flatMap lowerChar

end RefactorAdvice.Text
