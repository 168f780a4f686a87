import RefactorAdvice.Text.Ranges
import Std.Data.HashMap

/-!
The compatibility form of a text: characters are taken apart into their compatibility parts,
combining marks are put in canonical order, and what composes is composed again (NFKC of
Unicode version 14).
-/

namespace RefactorAdvice.Text

section Tables

/--
What code points are taken apart into, in the order of their numbers: `n:` leaves out so many,
`a,b,c` are the parts of the next one, and `a.b` are its parts and compose to it again. Where one of
the parts is several, `a|b` or `a+n` for a row of `n` more, the word is about as many code points.
Ideographs stand for themselves, each as all the parts there are. Numbers are hexadecimal.
-/
def decompositions : String :=
  "a0: 20 7: 20,308 1: 61 4: 20,304 2: 32+1 20,301 3bc 2: 20,327 31 6f 1: 31,2044,34|32 33,2044,34
  1: 41.300+3|308|30a 1: 43.327 45.300+2|308 49.300+2|308 1: 4e.303 4f.300+3|308 2: 55.300+2|308
  59.301 2: 61.300+3|308|30a 1: 63.327 65.300+2|308 69.300+2|308 1: 6e.303 6f.300+3|308 2:
  75.300+2|308 79.301 1: 79.308 41|61.304 41|61.306 41|61.328 43|63.301 43|63.302 43|63.307
  43|63|44|64.30c 2: 45|65.304 45|65.306 45|65.307 45|65.328 45|65.30c 47|67.302 47|67.306
  47|67.307 47|67.327 48|68.302 2: 49|69.303 49|69.304 49|69.306 49|69.328 49.307 1: 49,4a 69,6a
  4a|6a.302 4b|6b.327 1: 4c|6c.301 4c|6c.327 4c|6c.30c 4c|6c,b7 2: 4e|6e.301 4e|6e.327 4e|6e.30c
  2bc,6e 2: 4f|6f.304 4f|6f.306 4f|6f.30b 2: 52|72.301 52|72.327 52|72.30c 53|73.301 53|73.302
  53|73.327 53|73.30c 54|74.327 54|74.30c 2: 55|75.303 55|75.304 55|75.306 55|75.30a 55|75.30b
  55|75.328 57|77|59|79.302 59.308 5a|7a.301 5a|7a.307 5a|7a.30c 73 20: 4f|6f.31b d: 55|75.31b 13:
  44,5a,30c 44|64,7a,30c 4c,4a 4c|6c,6a 4e,4a 4e|6e,6a 41|61|49|69|4f|6f|55|75.30c dc|fc.304
  dc|fc.301 dc|fc.30c dc|fc.300 1: c4|e4|226+1|c6|e6.304 2: 47|67|4b|6b.30c 4f|6f.328 1ea+1.304
  1b7|292|6a.30c 44,5a 44|64,7a 47|67.301 2: 4e|6e.300 c5|e5|c6|e6|d8|f8.301 41|61.30f 41|61.311
  45|65.30f 45|65.311 49|69.30f 49|69.311 4f|6f.30f 4f|6f.311 52|72.30f 52|72.311 55|75.30f
  55|75.311 53|73|54|74.326 2: 48|68.30c 6: 41|61.307 45|65.327 d6|f6|d5|f5.304 4f|6f.307
  22e+1|59|79.304 7c: 68 266 6a 72 279 27b 281 77 79 1f: 20,306+1|30a|328|303|30b 2: 263 6c 73 78
  295 5b: 300+1 1: 313 308,301 2f: 2b9 5: 20,345 3: 3b 5: 20,301 a8|391.301 b7 395|397|399.301 1:
  39f.301 1: 3a5|3a9|3ca.301 19: 399|3a5.308 3b1|3b5|3b7|3b9|3cb.301 19: 3b9|3c5.308
  3bf|3c5|3c9.301 1: 3b2 3b8 3a5 3d2.301|308 3c6 3c0 19: 3ba 3c1+1 1: 398 3b5 3: 3a3 6:
  415.300|308 1: 413.301 3: 406.308 4: 41a.301 418.300 423.306 a: 418.306 1f: 438.306 16:
  435.300|308 1: 433.301 3: 456.308 4: 43a.301 438.300 443.306 17: 474+1.30f 49: 416|436.306 d:
  410|430.306 410|430.308 2: 415|435.306 2: 4d8+1|416|436|417|437.308 2: 418|438.304
  418|438|41e|43e.308 2: 4e8+1|42d|44d.308 423|443.304 423|443.308 423|443.30b 427|447.308 2:
  42b|44b.308 8d: 565,582 9a: 627.653+1 648.654 627.655 64a.654 4e: 627|648|6c7|64a,674 47:
  6d5.654 1: 6c1.654 10: 6d2.654 255: 928.93c 7: 930.93c 2: 933.93c 23:
  915+2|91c|921+1|92b|92f,93c 6b: 9c7.9be|9d7 f: 9a1+1,9bc 1: 9af,9bc 53: a32,a3c 2: a38,a3c 22:
  a16+1|a1c,a3c 2: a2b,a3c e9: b47.b56 2: b47.b3e|b57 f: b21+1,b3c 36: b92.bd7 35: bc6+1.bbe
  bc6.bd7 7b: c46.c56 77: cbf.cd5 6: cc6.cd5+1 1: cc6.cc2 cca.cd5 7e: d46+1.d3e d46.d57 8d:
  dd9.dca 1: dd9.dcf ddc.dca dd9.ddf 54: e4d,e32 7f: ecd,eb2 28: eab,e99|ea1 2e: f0b 36: f42,fb7
  9: f4c,fb7 4: f51,fb7 4: f56,fb7 4: f5b,fb7 c: f40,fb5 9: f71,f72 1: f71,f74 fb2,f80 fb2,f71,f80
  fb3,f80 fb3,f71,f80 7: f71,f80 11: f92,fb7 9: f9c,fb7 4: fa1,fb7 4: fa6,fb7 4: fab,fb7 c:
  f90,fb5 6c: 1025.102e d5: 10dc a09: 1b05.1b35 1: 1b07.1b35 1: 1b09.1b35 1: 1b0b.1b35 1:
  1b0d.1b35 3: 1b11.1b35 28: 1b3a.1b35 1: 1b3c.1b35 2: 1b3e+1.1b35 1: 1b42.1b35 1e8: 41 c6 42 1:
  44+1 18e 47+7 1: 4f 222 50 52 54+1 57 61 250+1 1d02 62 64+1 259 25b+1 67 1: 6b 6d 14b 6f 254
  1d16+1 70 74+1 1d1d 26f 76 1d25 3b2+2 3c6+1 69 72 75+1 3b2+1 3c1 3c6+1 d: 43d 22: 252 63 255 f0
  25c 66 25f 261 265 268+2 1d7b 29d 26d 1d85 29f 271 270 272+3 278 282+1 1ab 289+1 1d1c 28b+1 7a
  290+2 3b8 40: 41|61.325 42|62.307 42|62.323 42|62.331 c7|e7.301 44|64.307 44|64.323 44|64.331
  44|64.327 44|64.32d 112+1.300 112+1.301 45|65.32d 45|65.330 228+1.306 46|66.307 47|67.304
  48|68.307 48|68.323 48|68.308 48|68.327 48|68.32e 49|69.330 cf|ef|4b|6b.301 4b|6b.323 4b|6b.331
  4c|6c.323 1e36+1.304 4c|6c.331 4c|6c.32d 4d|6d.301 4d|6d.307 4d|6d.323 4e|6e.307 4e|6e.323
  4e|6e.331 4e|6e.32d d5|f5.301 d5|f5.308 14c+1.300 14c+1|50|70.301 50|70|52|72.307 52|72.323
  1e5a+1.304 52|72.331 53|73.307 53|73.323 15a+1|160+1|1e62+1|54|74.307 54|74.323 54|74.331
  54|74.32d 55|75.324 55|75.330 55|75.32d 168+1.301 16a+1.308 56|76.303 56|76.323 57|77.300
  57|77.301 57|77.308 57|77.307 57|77.323 58|78.307 58|78.308 59|79.307 5a|7a.302 5a|7a.323
  5a|7a|68.331 74.308 77|79.30a 61,2be 17f.307 4: 41|61.323 41|61.309 c2|e2.301 c2|e2.300
  c2|e2.309 c2|e2.303 1ea0+1.302 102+1.301 102+1.300 102+1.309 102+1.303 1ea0+1.306 45|65.323
  45|65.309 45|65.303 ca|ea.301 ca|ea.300 ca|ea.309 ca|ea.303 1eb8+1.302 49|69.309 49|69|4f|6f.323
  4f|6f.309 d4|f4.301 d4|f4.300 d4|f4.309 d4|f4.303 1ecc+1.302 1a0+1.301 1a0+1.300 1a0+1.309
  1a0+1.303 1a0+1|55|75.323 55|75.309 1af+1.301 1af+1.300 1af+1.309 1af+1.303 1af+1.323 59|79.300
  59|79.323 59|79.309 59|79.303 6: 3b1.313+1 1f00+1.300 1f00+1.301 1f00+1.342 391.313+1 1f08+1.300
  1f08+1.301 1f08+1.342 3b5.313+1 1f10+1.300 1f10+1.301 2: 395.313+1 1f18+1.300 1f18+1.301 2:
  3b7.313+1 1f20+1.300 1f20+1.301 1f20+1.342 397.313+1 1f28+1.300 1f28+1.301 1f28+1.342 3b9.313+1
  1f30+1.300 1f30+1.301 1f30+1.342 399.313+1 1f38+1.300 1f38+1.301 1f38+1.342 3bf.313+1 1f40+1.300
  1f40+1.301 2: 39f.313+1 1f48+1.300 1f48+1.301 2: 3c5.313+1 1f50+1.300 1f50+1.301 1f50+1.342 1:
  3a5.314 1: 1f59.300 1: 1f59.301 1: 1f59.342 3c9.313+1 1f60+1.300 1f60+1.301 1f60+1.342 3a9.313+1
  1f68+1.300 1f68+1.301 1f68+1.342 3b1.300 3b1,301 3b5.300 3b5,301 3b7.300 3b7,301 3b9.300 3b9,301
  3bf.300 3bf,301 3c5.300 3c5,301 3c9.300 3c9,301 2: 1f00+f|1f20+f|1f60+f.345 3b1.306|304
  1f70|3b1|3ac.345 1: 3b1.342 1fb6.345 391.306|304|300 391,301 391.345 20,313 3b9 20,313|342
  a8.342 1f74|3b7|3ae.345 1: 3b7.342 1fc6.345 395.300 395,301 397.300 397,301 397.345
  1fbf.300+1|342 3b9.306|304 3ca.300 3b9,308,301 2: 3b9|3ca.342 399.306|304|300 399,301 1:
  1ffe.300+1|342 3c5.306|304 3cb.300 3c5,308,301 3c1.313+1 3c5|3cb.342 3a5.306|304|300 3a5,301
  3a1.314 a8.300 20,308,301 60 2: 1f7c|3c9|3ce.345 1: 3c9.342 1ff6.345 39f.300 39f,301 3a9.300
  3a9,301 3a9.345 20,301|314 1: 20 20 20 20 20 20 20 20 20 20 20 6: 2010 5: 20,333 c: 2e 2e,2e
  2e,2e,2e 8: 20 3: 2032,2032 2032,2032,2032 1: 2035,2035 2035,2035,2035 4: 21,21 1: 20,305 8:
  3f,3f|21 21,3f d: 2032,2032,2032,2032 7: 20 10: 30 69 2: 34+5 2b 2212 3d 28+1 6e 30+9 2b 2212 3d
  28+1 1: 61 65 6f 78 259 68 6b+3 70 73+1 b: 52,73 57: 61,2f,63|73 43 b0,43 1: 63,2f,6f|75 190 1:
  b0,46 67 48 48 48 68 127 49 49 4c 6c 1: 4e 4e,6f 2: 50+2 52 52 2: 53,4d 54,45,4c 54,4d 1: 5a 1:
  3a9 1: 5a 1: 4b 41,30a 42+1 1: 65 45+1 1: 4d 6f 5d0+3 69 1: 46,41,58 3c0 3b3 393 3a0 2211 4: 44
  64+1 69+1 6: 31,2044,37|39 31,2044,31,30 31+1,2044,33 31+3,2044,35 31|35,2044,36
  31|33|35|37,2044,38 31,2044 49 49,49 49,49,49 49,56 56 56,49 56,49,49 56,49,49,49 49,58 58 58,49
  58,49,49 4c 43+1 4d 69 69,69 69,69,69 69,76 76 76,69 76,69,69 76,69,69,69 69,78 78 78,69
  78,69,69 6c 63+1 6d 9: 30,2044,33 10: 2190|2192.338 12: 2194.338 1e: 21d0|21d4|21d2.338 34:
  2203.338 4: 2208.338 2: 220b.338 17: 2223.338 1: 2225.338 5: 222b,222b 222b,222b,222b 1:
  222e,222e 222e,222e,222e 10: 223c.338 2: 2243.338 2: 2245.338 1: 2248.338 16: 3d.338 1: 2261.338
  a: 224d|3c|3e|2264+1.338 2: 2272+1.338 2: 2276+1.338 6: 227a+1.338 2: 2282+1.338 2: 2286+1.338
  22: 22a2|22a8+1|22ab.338 30: 227c+1|2291+1.338 6: 22b2+3.338 3b: 3008+1 135: 31+8 31,30+9 32,30
  28,31+8,29 28,31,30+9,29 28,32,30,29 31+8,2e 31,30+9,2e 32,30,2e 28,61+19,29 41+19 61+19 30 521:
  222b,222b,222b,222b 67: 3a,3a,3d 3d,3d 3d,3d,3d 65: 2add,338 19f: 6a 56 f1: 2d61 12f: 母 53: 龟
  c:
  一丨丶丿乙亅二亠人儿入八冂冖冫几凵刀力勹匕匚匸十卜卩厂厶又口囗土士夂夊夕大女子宀寸小尢尸屮山巛工
  己巾干幺广廴廾弋弓彐彡彳心戈戶手支攴文斗斤方无日曰月木欠止歹殳毋比毛氏气水火爪父爻爿片牙牛犬玄玉
  瓜瓦甘生用田疋疒癶白皮皿目矛矢石示禸禾穴立竹米糸缶网羊羽老而耒耳聿肉臣自至臼舌舛舟艮色艸虍虫血行
  衣襾見角言谷豆豕豸貝赤走足身車辛辰辵邑酉釆里金長門阜隶隹雨靑非面革韋韭音頁風飛食首香馬骨高髟鬥鬯
  鬲鬼魚鳥鹵鹿麥麻黃黍黑黹黽鼎鼓鼠鼻齊齒龍龜龠 2a: 20 35: 3012 1: 十卄卅 11: 304b.3099 1:
  304d.3099 1: 304f.3099 1: 3051.3099 1: 3053.3099 1: 3055.3099 1: 3057.3099 1: 3059.3099 1:
  305b.3099 1: 305d.3099 1: 305f.3099 1: 3061.3099 2: 3064.3099 1: 3066.3099 1: 3068.3099 6:
  306f.3099+1 1: 3072.3099+1 1: 3075.3099+1 1: 3078.3099+1 1: 307b.3099+1 16: 3046.3099 6:
  20,3099+1 1: 309d.3099 3088,308a c: 30ab.3099 1: 30ad.3099 1: 30af.3099 1: 30b1.3099 1:
  30b3.3099 1: 30b5.3099 1: 30b7.3099 1: 30b9.3099 1: 30bb.3099 1: 30bd.3099 1: 30bf.3099 1:
  30c1.3099 2: 30c4.3099 1: 30c6.3099 1: 30c8.3099 6: 30cf.3099+1 1: 30d2.3099+1 1: 30d5.3099+1 1:
  30d8.3099+1 1: 30db.3099+1 16: 30a6.3099 2: 30ef+3.3099 3: 30fd.3099 30b3,30c8 31: 1100+1 11aa
  1102 11ac+1 1103+2 11b0+5 111a 1106+2 1121 1109+9 1161+14 1160 1114+1 11c7+1 11cc 11ce 11d3 11d7
  11d9 111c 11dd 11df 111d+1 1120 1122+1 1127 1129 112b+4 1132 1136 1140 1147 114c 11f1+1 1157+2
  1184+1 1188 1191+1 1194 119e 11a1 3: 一二三四上中下甲乙丙丁天地人 60:
  28,1100|1102+1|1105+2|1109|110b+1|110e+4,29 28,1100|1102+1|1105+2|1109|110b+1|110e+4,1161,29
  28,110c,116e,29 28,110b,1169,110c,1165,11ab,29 28,110b,1169,1112,116e,29 1: 28,4e00|4e8c,29
  28,4e09|56db|4e94|516d|4e03|516b|4e5d|5341|6708|706b|6c34|6728|91d1|571f|65e5|682a|6709,29
  28,793e|540d|7279|8ca1|795d|52b4|4ee3|547c|5b66|76e3|4f01|8cc7|5354|796d|4f11|81ea|81f3,29
  問幼文箏 8: 50,54,45 32,31+8 33,30+5 1100 1102+1 1105+2 1109 110b+1 110e+4
  1100|1102+1|1105+2|1109|110b+1|110e+4,1161 110e,1161,11b7,1100,1169 110c,116e,110b,1174
  110b,116e 1:
  一二三四五六七八九十月火水木金土日株有社名特財祝労秘男女適優印注項休写正上中下左右医宗学監企資協
  夜 33,36+3 34,30+9 35,30 31+8,6708 31,30+2,6708 48,67 65,72,67 65,56 4c,54,44 30a2 30a4 30a6
  30a8 30aa+1 30ad 30af 30b1 30b3 30b5 30b7 30b9 30bb 30bd 30bf 30c1 30c4 30c6 30c8 30ca+5 30d2
  30d5 30d8 30db 30de+4 30e4 30e6 30e8+5 30ef+3 4ee4,548c 30a2,30cf,309a,30fc,30c8
  30a2,30eb,30d5,30a1 30a2,30f3,30d8,309a,30a2 30a2,30fc,30eb 30a4,30cb,30f3,30af,3099
  30a4,30f3,30c1 30a6,30a9,30f3 30a8,30b9,30af,30fc,30c8,3099 30a8,30fc,30ab,30fc 30aa,30f3,30b9
  30aa,30fc,30e0 30ab,30a4,30ea 30ab,30e9,30c3,30c8 30ab,30ed,30ea,30fc 30ab,3099,30ed,30f3
  30ab,3099,30f3,30de 30ad,3099,30ab,3099 30ad,3099,30cb,30fc 30ad,30e5,30ea,30fc
  30ad,3099,30eb,30bf,3099,30fc 30ad,30ed 30ad,30ed,30af,3099,30e9,30e0
  30ad,30ed,30e1,30fc,30c8,30eb 30ad,30ed,30ef,30c3,30c8 30af,3099,30e9,30e0
  30af,3099,30e9,30e0,30c8,30f3 30af,30eb,30bb,3099,30a4,30ed 30af,30ed,30fc,30cd 30b1,30fc,30b9
  30b3,30eb,30ca 30b3,30fc,30db,309a 30b5,30a4,30af,30eb 30b5,30f3,30c1,30fc,30e0
  30b7,30ea,30f3,30af,3099 30bb,30f3,30c1|30c8 30bf,3099,30fc,30b9 30c6,3099,30b7 30c8,3099,30eb
  30c8,30f3 30ca,30ce 30ce,30c3,30c8 30cf,30a4,30c4 30cf,309a,30fc,30bb,30f3,30c8
  30cf,309a,30fc,30c4 30cf,3099,30fc,30ec,30eb 30d2,309a,30a2,30b9,30c8,30eb 30d2,309a,30af,30eb
  30d2,309a,30b3 30d2,3099,30eb 30d5,30a1,30e9,30c3,30c8,3099 30d5,30a3,30fc,30c8
  30d5,3099,30c3,30b7,30a7,30eb 30d5,30e9,30f3 30d8,30af,30bf,30fc,30eb 30d8,309a,30bd
  30d8,309a,30cb,30d2 30d8,30eb,30c4 30d8,309a,30f3,30b9 30d8,309a,30fc,30b7,3099
  30d8,3099,30fc,30bf 30db,309a,30a4,30f3,30c8 30db,3099,30eb,30c8 30db,30f3
  30db,309a,30f3,30c8,3099 30db,30fc,30eb|30f3 30de,30a4,30af,30ed 30de,30a4,30eb 30de,30c3,30cf
  30de,30eb,30af 30de,30f3,30b7,30e7,30f3 30df,30af,30ed,30f3 30df,30ea
  30df,30ea,30cf,3099,30fc,30eb 30e1,30ab,3099 30e1,30ab,3099,30c8,30f3 30e1,30fc,30c8,30eb
  30e4,30fc,30c8,3099 30e4,30fc,30eb 30e6,30a2,30f3 30ea,30c3,30c8,30eb 30ea,30e9
  30eb,30d2,309a,30fc 30eb,30fc,30d5,3099,30eb 30ec,30e0 30ec,30f3,30c8,30b1,3099,30f3
  30ef,30c3,30c8 30+9,70b9 31,30+9,70b9 32,30+4,70b9 68,50,61 64,61 41,55 62,61,72 6f,56 70,63
  64,6d 64,6d,32+1 49,55 5e73,6210 662d,548c 5927,6b63 660e,6cbb 682a,5f0f,4f1a,793e
  70|6e|3bc|6d|6b,41 4b|4d|47,42 63,61,6c 6b,63,61,6c 70|6e|3bc,46 3bc|6d|6b,67 48,7a
  6b|4d|47|54,48,7a 3bc|6d|64|6b,6c 66|6e|3bc|6d|63|6b,6d 6d|63,6d,32 6d,32 6b,6d,32 6d|63,6d,33
  6d,33 6b,6d,33 6d,2215,73 6d,2215,73,32 50,61 6b|4d|47,50,61 72,61,64 72,61,64,2215,73
  72,61,64,2215,73,32 70|6e|3bc|6d,73 70|6e|3bc|6d|6b|4d,56 70|6e|3bc|6d|6b|4d,57 6b|4d,3a9
  61,2e,6d,2e 42,71 63,63+1 43,2215,6b,67 43,6f,2e 64,42 47,79 68,61 48,50 69,6e 4b,4b|4d 6b,74
  6c,6d+1 6c,6f,67 6c,78 6d,62 6d,69|6f,6c 50,48 70,2e,6d,2e 50,50,4d 50,52 73,72 53,76 57,62
  56|41,2215,6d 31+8,65e5 31,30+9,65e5 32,30+9,65e5 33,30+1,65e5 67,61,6c 729c: 44a 44c d2: a76f
  81: 43 46 51 3: 126 153 362: a727 ab37 26b ab52 9: 28d 4d96:
  豈更車賈滑串句龜龜契金喇奈懶癩羅蘿螺裸邏樂洛烙珞落酪駱亂卵欄爛蘭鸞嵐濫藍襤拉臘蠟廊朗浪狼郎來冷勞
  擄櫓爐盧老蘆虜路露魯鷺碌祿綠菉錄鹿論壟弄籠聾牢磊賂雷壘屢樓淚漏累縷陋勒肋凜凌稜綾菱陵讀拏樂諾丹寧
  怒率異北磻便復不泌數索參塞省葉說殺辰沈拾若掠略亮兩凉梁糧良諒量勵呂女廬旅濾礪閭驪麗黎力曆歷轢年憐
  戀撚漣煉璉秊練聯輦蓮連鍊列劣咽烈裂說廉念捻殮簾獵令囹寧嶺怜玲瑩羚聆鈴零靈領例禮醴隸惡了僚寮尿料樂
  燎療蓼遼龍暈阮劉杻柳流溜琉留硫紐類六戮陸倫崙淪輪律慄栗率隆利吏履易李梨泥理痢罹裏裡里離匿溺吝燐璘
  藺隣鱗麟林淋臨立笠粒狀炙識什茶刺切度拓糖宅洞暴輻行降見廓兀嗀 2: 塚 1: 晴 2: 凞猪益礼神祥福靖精羽
  1: 蘒 1: 諸 2: 逸都 3:
  飯飼館鶴郞隷侮僧免勉勤卑喝嘆器塀墨層屮悔慨憎懲敏既暑梅海渚漢煮爫琢碑社祉祈祐祖祝禍禎穀突節練縉繁
  署者臭艹艹著褐視謁謹賓贈辶逸難響頻恵𤋮舘 2:
  並况全侀充冀勇勺喝啕喙嗢塚墳奄奔婢嬨廒廙彩徭惘慎愈憎慠懲戴揄搜摒敖晴朗望杖歹殺流滛滋漢瀞煮瞧爵犯
  猪瑱甆画瘝瘟益盛直睊着磌窱節类絛練缾者荒華蝹襁覆視調諸請謁諾諭謹變贈輸遲醙鉶陼難靖韛響頋頻鬒龜𢡊
  𢡄𣏕㮝䀘䀹𥉉𥳐𧻓齃龎 26: 66,66|69|6c 66,66,69|6c 73|73,74 c: 574,576|565|56b 57e,576 574,56d 5:
  5d9,5b4 1: 5f2,5b7 5e2 5d0 5d3+1 5db+2 5e8 5ea 2b 5e9,5c1+1 5e9,5bc,5c1+1 5d0,5b7+1 5d0+6,5bc 1:
  5d8+4,5bc 1: 5de,5bc 1: 5e0+1,5bc 1: 5e3+1,5bc 1: 5e6+4,5bc 5d5,5b9 5d1|5db|5e4,5bf 5d0,5dc 671
  671 67b 67b 67b 67b 67e 67e 67e 67e 680 680 680 680 67a 67a 67a 67a 67f 67f 67f 67f 679 679 679
  679 6a4 6a4 6a4 6a4 6a6 6a6 6a6 6a6 684 684 684 684 683 683 683 683 686 686 686 686+1 687 687
  687 68d 68d 68c 68c 68e 68e 688 688 698 698 691 691 6a9 6a9 6a9 6a9 6af 6af 6af 6af 6b3 6b3 6b3
  6b3 6b1 6b1 6b1 6b1 6ba 6ba+1 6bb 6bb 6bb 6d5|6d5,654 6c1 6c1 6c1 6c1 6be 6be 6be 6be 6d2 6d2
  6d2|6d2,654 21: 6ad 6ad 6ad 6ad 6c7 6c7 6c6 6c6 6c8 6c8 6c7,674 6cb 6cb 6c5 6c5 6c9 6c9 6d0 6d0
  6d0 6d0 649 649 64a,654,627|627|6d5|6d5|648|648|6c7|6c7|6c6|6c6|6c8|6c8|6d0|6d0|6d0|649|649|649
  6cc 6cc 6cc 6cc 64a,654,62c+1|645|649+1 628,62c+2|645|649+1 62a,62c+2|645|649+1
  62b,62c|645|649+1 62c,62d|645 62d,62c|645 62e,62c+1|645 633,62c+2|645 635,62d|645 636,62c+2|645
  637,62d 637+1,645 639,62c|645 63a,62c|645 641,62c+2|645|649+1 642,62d|645|649+1
  643,627|62c+2|644+1|649+1 644,62c+2|645|649+1 645,62c+2|645|649+1 646,62c+2|645|649+1
  647,62c|645|649+1 64a,62c+2|645|649+1 630+1|649,670 20,64c+4,651 20,651,670
  64a,654,631+1|645+1|649+1 628,631+1|645+1|649+1 62a,631+1|645+1|649+1 62b,631+1|645+1|649+1
  641,649+1 642,649+1 643,627|644+1|649+1 644,645|649+1 645,627|645 646,631+1|645+1|649+1 649,670
  64a,631+1|645+1|649+1 64a,654,62c+2|645|647 628,62c+2|645|647 62a,62c+2|645|647 62b,645
  62c,62d|645 62d,62c|645 62e,62c|645 633,62c+2|645 635,62d+1|645 636,62c+2|645 637,62d 638,645
  639,62c|645 63a,62c|645 641,62c+2|645 642,62d|645 643,62c+2|644+1 644,62c+2|645|647
  645,62c+2|645 646,62c+2|645|647 647,62c|645|670 64a,62c+2|645|647 64a,654,645|647 628,645|647
  62a,645|647 62b,645|647 633,645|647 634,645|647 643,644 643+1,645 646,645|647 64a,645|647
  640,64e+2,651 637,649+1 639,649+1 63a,649+1 633,649+1 634,649+1 62d,649+1 62c,649+1 62e,649+1
  635,649+1 636,649+1 634,62c+2|645 634|633|635+1,631 637,649+1 639,649+1 63a,649+1 633,649+1
  634,649+1 62d,649+1 62c,649+1 62e,649+1 635,649+1 636,649+1 634,62c+2|645 634|633|635+1,631
  634,62c+2|645 633+1,647 637,645 633,62c+2 634,62c+2 637+1,645 627|627,64b 12: 62a,62c,645
  62a|62a,62d,62c 62a,62d+1,645 62a,645,62c+2 62c|62c,645,62d 62d,645,64a|649 633,62d,62c
  633,62c,62d|649 633,645,62d|62d|62c|645|645 635|635,62d,62d 635,645,645 634|634,62d,645
  634,62c,64a 634,645,62e|62e|645|645 636,62d,649 636|636,62e,645 637,645,62d|62d|645|64a
  639,62c,645 639,645,645|645|649 63a,645,645|64a|649 641|641,62e,645 642,645,62d|645
  644,62d,645|64a|649 644|644,62c,62c 644|644,62e,645 644|644,645,62d 645,62d,62c|645|64a
  645,62c,62d|645 645,62e,62c|645 2: 645,62c,62e 647,645,62c|645 646,62d,645|649
  646,62c,645|645|649 646,645,64a|649 64a|64a,645,645 628,62e,64a 62a,62c,64a|649 62a,62e,64a|649
  62a,645,64a|649 62c,645,64a 62c,62d|645,649 633,62e,649 635|634|636,62d,64a 644,62c|645,64a
  64a,62d|62c,64a 64a|645|642,645,64a 646,62d,64a 642,645,62d 644,62d,645 639|643,645,64a
  646,62c,62d 645,62e,64a 644,62c,645 643,645,645 644,62c,645 646,62c,62d 62c,62d,64a
  62d|645,62c,64a 641,645,64a 628,62d,64a 643,645,645 639,62c,645 635,645,645 633,62e,64a
  646,62c,64a 28: 635|642,644,6d2 627,644,644,647 627,643,628,631 645,62d,645,62f 635,644,639,645
  631,633,648,644 639,644,64a,647 648,633,644,645 635,644,649
  635,644,649,20,627,644,644,647,20,639,644,64a,647,20,648,633,644,645
  62c,644,20,62c,644,627,644,647 631,6cc,627,644 13: 2c 3001+1 3a+1 21 3f 3016+1 2e,2e,2e 16:
  2e,2e 2014 2013 5f 5f 28+1 7b 7d 3014+1 3010+1 300a+1 3008+1 300c+3 2: 5b 5d 20|20|20|20,305 5f
  5f 5f 2c 3001 2e 1: 3b 3a 3f 21 2014 28+1 7b 7d 3014+1 23 26 2a+1 2d 3c 3e 3d 1: 5c 24+1 40 4:
  20|640,64b 20,64c 1: 20,64d 1: 20|640,64e 20|640,64f 20|640,650 20|640,651 20|640,652 621
  627,653|653+1 627|648|648,654 627|627,655 64a|64a|64a|64a,654 627 627+1 628 628 628+1 629+1 62a
  62a 62a+1 62b 62b 62b+1 62c 62c 62c+1 62d 62d 62d+1 62e 62e 62e+1 62f+1 630+1 631+1 632+1 633
  633 633+1 634 634 634+1 635 635 635+1 636 636 636+1 637 637 637+1 638 638 638+1 639 639 639+1
  63a 63a 63a 641 641 641 641+1 642 642 642+1 643 643 643+1 644 644 644+1 645 645 645+1 646 646
  646+1 647 647 647+1 648+1 649+1 64a 64a 64a 644,627,653|653+1|654+1|655 644|644,627 4: 21+20
  42+3c 2985+1 3002 300c+1 3001 30fb 30f2 30a1 30a3 30a5 30a7 30a9 30e3 30e5 30e7 30c3 30fc 30a2
  30a4 30a6 30a8 30aa+1 30ad 30af 30b1 30b3 30b5 30b7 30b9 30bb 30bd 30bf 30c1 30c4 30c6 30c8
  30ca+5 30d2 30d5 30d8 30db 30de+4 30e4 30e6 30e8+5 30ef 30f3 3099+1 1160 1100+1 11aa 1102 11ac+1
  1103+2 11b0+5 111a 1106+2 1121 1109+9 3: 1161+5 2: 1167+5 2: 116d+5 2: 1173+2 3: a2+1 ac 20,304
  a6 a5 20a9 1: 2502 2190+3 25a0 25cb 792: 2d0+1 e6 299 253 1: 2a3 ab66 2a5 2a4 256+1 1d91 258 25e
  2a9 264 262 260 29b 127 29c 267 284 2aa+1 26c 1df04 a78e 26e 1df05 28e 1df06 f8 276+1 71 27a
  1df08 27d+1 280 2a8 2a6 ab67 2a7 288 2c71 1: 28f 2a1+1 298 1c0+2 1df0a 1df1e 8df: 11099.110ba 1:
  1109b.110ba e: 110a5.110ba 82: 11131+1.11127 21b: 11347.1133e|11357 16e: 114b9.114ba|114b0 1:
  114b9.114bd fb: 115b8+1.115af 37c: 11935.11930 b825: 1d157+1,1d165 1d158,1d165,1d16e+4 56:
  1d1b9+1,1d165 1d1b9+1,1d165,1d16e 1d1b9+1,1d165,1d16f 23f: 41+19 61+19 41+19 61+6 1: 69+11 41+19
  61+19 41 1: 43+1 2: 47 2: 4a+1 2: 4e+3 1: 53+7 61+3 1: 66 1: 68+6 1: 70+a 41+19 61+19 41+1 1:
  44+3 2: 4a+7 1: 53+6 1: 61+19 41+1 1: 44+3 1: 49+4 1: 4f 3: 53+6 1: 61+19 41+19 61+19 41+19
  61+19 41+19 61+19 41+19 61+19 41+19 61+19 41+19 61+19 131 237 2: 391+10 398 3a3+6 2207 3b1+18
  2202 3b5 3b8 3ba 3c6 3c1 3c0 391+10 398 3a3+6 2207 3b1+18 2202 3b5 3b8 3ba 3c6 3c1 3c0 391+10
  398 3a3+6 2207 3b1+18 2202 3b5 3b8 3ba 3c6 3c1 3c0 391+10 398 3a3+6 2207 3b1+18 2202 3b5 3b8 3ba
  3c6 3c1 3c0 391+10 398 3a3+6 2207 3b1+18 2202 3b5 3b8 3ba 3c6 3c1 3c0 3dc+1 2: 30+9 30+9 30+9
  30+9 30+9 1600: 627+1 62c 62f 1: 648 632 62d 637 64a 643+3 633 639 641 635 642 631 634 62a+1 62e
  630 636 638 63a 66e 6ba 6a1 66f 1: 628 62c 1: 647 2: 62d 1: 64a 643+3 633 639 641 635 642 1: 634
  62a+1 62e 1: 636 1: 63a 6: 62c 4: 62d 1: 64a 1: 644 1: 646 633 639 1: 635 642 1: 634 2: 62e 1:
  636 1: 63a 1: 6ba 1: 66f 1: 628 62c 1: 647 2: 62d 637 64a 643 1: 645+1 633 639 641 635 642 1:
  634 62a+1 62e 1: 636 638 63a 66e 1: 6a1 1: 627+1 62c 62f 647+1 632 62d 637 64a 1: 644+2 633 639
  641 635 642 631 634 62a+1 62e 630 636 638 63a 5: 628 62c 62f 1: 648 632 62d 637 64a 1: 644+2 633
  639 641 635 642 631 634 62a+1 62e 630 636 638 63a 244: 30,2e 30+9,2c 5: 28,41+19,29 3014,53,3015
  43 52 43,44 57,5a 1: 41+19 48|4d,56 53,44|53 50,50,56 57,43 1a: 4d,43+1|52 23: 44,4a 6f:
  307b,304b 30b3,30b3 30b5 d: 手字双 30c6,3099
  二多解天交映無料前後再新初終生販声吹演投捕一三遊左中右指走打禁空合満有月申割営配 4:
  3014,672c|4e09|4e8c|5b89|70b9|6253|76d7|52dd|6557,3015 7: 得可 99e: 30+9 fc06:
  丽丸乁𠄢你侮侻倂偺備僧像㒞𠘺免兔兤具𠔜㒹內再𠕋冗冤仌冬况𩇟凵刃㓟刻剆割剷㔕勇勉勤勺包匆北卉卑博即
  卽卿卿卿𠨬灰及叟𠭣叫叱吆咞吸呈周咢哶唐啓啣善善喙喫喳嗂圖嘆圗噑噴切壮城埴堍型堲報墬𡓤売壷夆多夢奢
  𡚨𡛪姬娛娧姘婦㛮㛼嬈嬾嬾𡧈寃寘寧寳𡬘寿将当尢㞁屠屮峀岍𡷤嵃𡷦嵮嵫嵼巡巢㠯巽帨帽幩㡢𢆃㡼庰庳庶廊𪎒
  廾𢌱𢌱舁弢弢㣇𣊸𦇚形彫㣣徚忍志忹悁㤺㤜悔𢛔惇慈慌慎慌慺憎憲憤憯懞懲懶成戛扝抱拔捐𢬌挽拼捨掃揤𢯱搢
  揅掩㨮摩摾撝摷㩬敏敬𣀊旣書晉㬙暑㬈㫤冒冕最暜肭䏙朗望朡杞杓𣏃㭉柺枅桒梅𣑭梎栟椔㮝楂榣槪檨𣚣櫛㰘次
  𣢧歔㱎歲殟殺殻𣪍𡴋𣫺汎𣲼沿泍汧洖派海流浩浸涅𣴞洴港湮㴳滋滇𣻑淹潮𣽞𣾎濆瀹瀞瀛㶖灊災灷炭𠔥煅𤉣熜𤎫
  爨爵牐𤘈犀犕𤜵𤠔獺王㺬玥㺸㺸瑇瑜瑱璅瓊㼛甤𤰶甾𤲒異𢆟瘐𤾡𤾸𥁄㿼䀈直𥃳𥃲𥄙𥄳眞真真睊䀹瞋䁆䂖𥐝硎碌
  磌䃣𥘦祖𥚚𥛅福秫䄯穀穊穏𥥼𥪧𥪧竮䈂𥮫篆築䈧𥲀糒䊠糨糣紀𥾆絣䌁緇縂繅䌴𦈨𦉇䍙𦋙罺𦌾羕翺者𦓚𦔣聠𦖨聰
  𣍟䏕育脃䐋脾媵𦞧𦞵𣎓𣎜舁舄辞䑫芑芋芝劳花芳芽苦𦬼若茝荣莭茣莽菧著荓菊菌菜𦰶𦵫𦳕䔫蓱蓳蔖𧏊蕤𦼬䕝䕡
  𦾱𧃒䕫虐虜虧虩蚩蚈蜎蛢蝹蜨蝫螆䗗蟡蠁䗹衠衣𧙧裗裞䘵裺㒻𧢮𧥦䚾䛇誠諭變豕𧲨貫賁贛起𧼯𠠄跋趼跰𠣞軔輸
  𨗒𨗭邔郱鄑𨜮鄛鈸鋗鋘鉼鏹鐕𨯺開䦕閷𨵷䧦雃嶲霣𩅅𩈚䩮䩶韠𩐊䪲𩒖頋頋頩𩖶飢䬳餩馧駂駾䯎𩬰鬒鱀鳽䳎䳭鵧
  𪃎䳸𪄅𪈎𪊑麻䵖黹黾鼅鼏鼖鼻𪘀"

def combiningClasses : String :=
  "300+14:e6 0:e8 0+3:dc 0:e8 0:d8 0+4:dc 0+1:ca 0+3:dc 0+1:ca 0+a:dc 0+4:1 0+3:dc 0+7:e6 0:f0
  0:e6 0+2:dc 0+2:e6 0+1:dc 1+2:e6 0+3:dc 0:e6 0:e8 0+1:dc 0:e6 0:e9 0+1:ea 0:e9 0+1:ea 0:e9
  0+c:e6 113+4:e6 109:dc 0+3:e6 0:dc 0+2:e6 0:de 0:dc 0+5:e6 0+5:dc 0+1:e6 0:dc 0+1:e6 0:de 0:e4
  0:e6 0:a 0:b 0:c 0:d 0:e 0:f 0:10 0:11 0:12 0+1:13 0:14 0:15 0:16 1:17 1:18 0:19 1:e6 0:dc 1:12
  48+7:e6 0:1e 0:1f 0:20 30:1b 0:1c 0:1d 0:1e 0:1f 0:20 0:21 0:22 0+1:e6 0+1:dc 0+4:e6 0:dc
  0+1:e6 0:dc 10:23 65+6:e6 2+3:e6 0:dc 0:e6 2+1:e6 1:dc 0+1:e6 0:dc 23:24 1e:e6 0:dc 0+1:e6 0:dc
  0+1:e6 0+2:dc 0:e6 0+1:dc 0:e6 0:dc 0+2:e6 0:dc 0:e6 0:dc 0:e6 0:dc 0:e6 0:dc 0+1:e6 a0+6:e6
  0:dc 0:e6 9:dc 18+3:e6 1+8:e6 1+2:e6 1+4:e6 2b+2:dc 3c:e6 0+2:dc 0+3:e6 2a+4:e6 0+4:dc 0+d:e6
  1:dc 0+1:e6 0:dc 0+1:e6 0:dc 0+2:e6 0+2:dc 0:1b 0:1c 0:1d 0+2:e6 0:dc 0+1:e6 0+1:dc 0+4:e6 3c:7
  10:9 3:e6 0:dc 0+1:e6 67:7 10:9 30:e6 3d:7 10:9 6e:7 10:9 6e:7 10:9 7f:9 6e:7 10:9 7:54 0:5b
  65:7 10:9 6d+1:9 10:9 7c:9 6d+1:67 0:9 d+3:6b 6c+1:76 0:9 d+3:7a 4c+1:dc 1b:dc 1:dc 1:d8 37:81
  0:82 1:84 5+3:82 2:82 1+1:e6 0:9 1+1:e6 3e:dc 70:7 1+1:9 52:dc 2cf+2:e6 3b4+1:9 1e:9 9d:9 a:e6
  cb:e4 8f:de 0:e6 0:dc db:e6 0:dc 47:9 14+7:e6 2:dc 30+4:e6 0+5:dc 0+1:e6 0:dc 1+1:dc 0+1:e6
  0+1:dc 0+4:e6 0:dc 0+3:e6 65:7 f:9 26:e6 0:dc 0+6:e6 36+1:9 3a:7 b+1:9 43:7 98+2:e6 1:1 0+4:dc
  0+1:e6 0+3:dc 0:e6 1+6:1 4:dc 6:e6 3+1:e6 c6+1:e6 0:dc 0+6:e6 0:dc 0+1:e6 0:ea 0:d6 0:dc 0:ca
  0+24:e6 0:e8 0+1:e4 0:dc 0:da 0:e6 0:e9 0:dc 0:e6 0:dc 2d0+1:e6 0+1:1 0+3:e6 0+2:1 0+1:e6 4:e6
  3+1:1 0:e6 0:dc 0:e6 0+1:1 0+3:dc 0:e6 bfe+2:e6 8d:9 60+1f:e6 22a:da 0:e4 0:e8 0:de 0+1:e0
  69+1:8 75d4:e6 4+9:e6 20+1:e6 50+1:e6 114:9 25:9 97:9 1b+11:e6 39+2:dc 25:9 5f:7 c:9 ef:e6
  1+1:e6 0:dc 2+1:e6 5+1:e6 1:e6 34:9 f6:9 4f30:1a 301+6:e6 0+6:dc 0+1:e6 3cd:dc e2:dc 95+4:e6
  692:dc 1:e6 28:e6 0:1 0:dc 4:9 a5:e6 0:dc 23d+3:e6 183+1:e6 99+1:dc 0+2:e6 0:dc 0:e6 0+3:dc
  31:e6 0:dc 0:e6 0:dc c0:9 29:9 e:9 39:9 0:7 45+2:e6 30+1:9 3e:7 4c:9 9:7 6a:9 0:7 b2:7 0:9
  50+1:7 10:9 18+6:e6 3+4:e6 cd:9 3:7 17:e6 63:9 0:7 fb:9 0:7 7e:9 76:9 0:7 73:9 10d:9 0:7
  102+1:9 4:7 9c:9 53:9 12:9 51:9 1a5:9 102:7 1+1:9 51:9 4d58+4:1 3b+6:e6 4b9+1:6 4cac:1
  14c6+1:d8 0+2:1 3:e2 0+4:d8 8+7:dc 2+4:e6 0+1:dc 1e+3:e6 94+2:e6 dbb+6:e6 1+10:e6 2+6:e6 1+1:e6
  1+4:e6 105+6:e6 177:e6 3d+3:e6 5e0+6:dc 6d+5:e6 0:7"

structure Decomposition where
  code : Nat
  parts : List Nat
  composes : Bool

def severalParts (part : List Char) : List Nat :=
  (part.splitOn '|').flatMap fun row =>
    let (low, high) := rangeFrom 0 row
    (List.range (high - low + 1)).map (low + ·)

def decompositionsFrom (next : Nat) (word : List Char) : Nat × List Decomposition :=
  if word.contains ':' then (next + (hexNumbers ':' word).headD 0, [])
  else if word.all (127 < ·.toNat) then
    (next + word.length, word.zipIdx.map fun (c, i) => ⟨next + i, [c.toNat], false⟩)
  else
    let mark := if word.contains '.' then '.' else ','
    let parts := (word.splitOn mark).map severalParts
    let count := parts.foldl (fun n numbers => max n numbers.length) 0
    (next + count, (List.range count).map fun i =>
      ⟨next + i, parts.map fun numbers => numbers[i]?.getD (numbers.headD 0), mark == '.'⟩)

def decomposed : List Decomposition :=
  ((words decompositions.toList).foldl (fun (next, found) word =>
    let (after, here) := decompositionsFrom next word
    (after, here.reverse ++ found)) (0, [])).2

def partsTable : Std.HashMap Nat (List Nat) :=
  Std.HashMap.ofList (decomposed.map fun d => (d.code, d.parts))

def classTable : Std.HashMap Nat Nat :=
  let entries := (words combiningClasses.toList).map (·.splitOn ':')
  let ranges := rangesFrom 0 (entries.map (·.headD []))
  Std.HashMap.ofList <| (ranges.zip entries).flatMap fun ((low, high), entry) =>
    (List.range (high - low + 1)).map fun i => (low + i, hexNumber (entry[1]?.getD []))

def compositionTable : Std.HashMap (Nat × Nat) Nat :=
  Std.HashMap.ofList <| decomposed.filterMap fun d =>
    match d.composes, d.parts with
    | true, [a, b] => some ((a, b), d.code)
    | _, _ => none

end Tables

section Decomposition

def hangulParts (code : Nat) : List Nat :=
  let index := code - 0xac00
  let trail := index % 28
  [0x1100 + index / 588, 0x1161 + index % 588 / 28] ++ (if trail = 0 then [] else [0x11a7 + trail])

def parts (code : Nat) : List Nat :=
  if 0xac00 ≤ code ∧ code ≤ 0xd7a3 then hangulParts code
  else (List.range 3).foldl (fun codes _ => codes.flatMap fun c => partsTable.getD c [c]) [code]

def combiningClass (code : Nat) : Nat := classTable.getD code 0

/-- Runs of marks are sorted by class; a mark never passes one of the same class. -/
def orderMarks (codes : List Nat) : List Nat :=
  let flush (marks done : List Nat) : List Nat :=
    done ++ marks.mergeSort (fun a b => combiningClass a ≤ combiningClass b)
  let (done, marks) := codes.foldl (fun (done, marks) code =>
    if combiningClass code = 0 then (flush marks done ++ [code], []) else (done, marks ++ [code]))
    (([] : List Nat), ([] : List Nat))
  flush marks done

end Decomposition

section Composition

def composePair (a b : Nat) : Option Nat :=
  if 0x1100 ≤ a ∧ a < 0x1113 ∧ 0x1161 ≤ b ∧ b < 0x1176 then
    some (0xac00 + ((a - 0x1100) * 21 + (b - 0x1161)) * 28)
  else if 0xac00 ≤ a ∧ a ≤ 0xd7a3 ∧ (a - 0xac00) % 28 = 0 ∧ 0x11a8 ≤ b ∧ b < 0x11c3 then
    some (a + (b - 0x11a7))
  else compositionTable.get? (a, b)

/--
Composition from left to right. `starter` is the last character of class zero, `marks` what
stands after it and did not compose; a mark is blocked by one of its own class or higher.
-/
def composeFrom (starter : Option Nat) (marks done : List Nat) : List Nat → List Nat
  | [] => done ++ starter.toList ++ marks
  | code :: rest =>
    let cls := combiningClass code
    let blocked := match marks.getLast? with
      | none => false
      | some last => cls ≤ combiningClass last
    match starter with
    | none =>
      if cls = 0 then composeFrom (some code) [] done rest
      else composeFrom none [] (done ++ [code]) rest
    | some first =>
      match if blocked then none else composePair first code with
      | some whole => composeFrom (some whole) marks done rest
      | none =>
        if cls = 0 then composeFrom (some code) [] (done ++ first :: marks) rest
        else composeFrom starter (marks ++ [code]) done rest

end Composition

def compatible (cs : List Char) : List Char :=
  if cs.all (·.toNat < 128) then cs
  else
    (composeFrom none [] [] (orderMarks ((cs.map (·.toNat)).flatMap parts))).map Char.ofNat

end RefactorAdvice.Text
