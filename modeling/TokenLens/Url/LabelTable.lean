import TokenLens.Text.Ranges

/-!
# Tables for labels

What the labels of host names are prepared by, beyond small letters: the images of code points, the
pairs that are one code point, the classes of marks, and the ranges that decide whether a label is
admitted. Images and ranges are those of the Unicode database in version 3.2, classes and pairs
those of version 14.

The images and the pairs are written as text. A line starts with the number of a code point; the
entries of this one and the following ones stand behind it. An entry is a number, several numbers
with plus signs between them, a hyphen for none, or, as a first and a last number with two points
between them, one entry for each number from the first to the last. All numbers are hexadecimal.
-/

namespace TokenLens.Label

/-- The images of code points, taken apart into marks and what carries them. -/
def imageLines : String := "A0 20
A8 20+308
AA 61
AD -
AF 20+304
B2 32 33 20+301 3BC
B8 20+327 31 6F
BC 31+2044+34 31+2044+32 33+2044+34
C0 61+300 61+301 61+302 61+303 61+308 61+30A
C7 63+327 65+300 65+301 65+302 65+308 69+300 69+301 69+302 69+308
D1 6E+303 6F+300 6F+301 6F+302 6F+303 6F+308
D9 75+300 75+301 75+302 75+308 79+301
DF 73+73 61+300 61+301 61+302 61+303 61+308 61+30A
E7 63+327 65+300 65+301 65+302 65+308 69+300 69+301 69+302 69+308
F1 6E+303 6F+300 6F+301 6F+302 6F+303 6F+308
F9 75+300 75+301 75+302 75+308 79+301
FF 79+308 61+304 61+304 61+306 61+306 61+328 61+328 63+301 63+301 63+302 63+302 63+307 63+307
10C 63+30C 63+30C 64+30C 64+30C
112 65+304 65+304 65+306 65+306 65+307 65+307 65+328 65+328 65+30C 65+30C 67+302 67+302 67+306
11F 67+306 67+307 67+307 67+327 67+327 68+302 68+302
128 69+303 69+303 69+304 69+304 69+306 69+306 69+328 69+328
132 69+6A 69+6A 6A+302 6A+302 6B+327 6B+327
139 6C+301 6C+301 6C+327 6C+327 6C+30C 6C+30C 6C+B7 6C+B7
143 6E+301 6E+301 6E+327 6E+327 6E+30C 6E+30C 2BC+6E
14C 6F+304 6F+304 6F+306 6F+306 6F+30B 6F+30B
154 72+301 72+301 72+327 72+327 72+30C 72+30C 73+301 73+301 73+302 73+302 73+327 73+327 73+30C
161 73+30C 74+327 74+327 74+30C 74+30C
168 75+303 75+303 75+304 75+304 75+306 75+306 75+30A 75+30A 75+30B 75+30B 75+328 75+328 77+302
175 77+302 79+302 79+302 79+308 7A+301 7A+301 7A+307 7A+307 7A+30C 7A+30C 73
1A0 6F+31B 6F+31B
1AF 75+31B 75+31B
1C4 64+7A+30C 64+7A+30C 64+7A+30C 6C+6A 6C+6A 6C+6A 6E+6A 6E+6A 6E+6A 61+30C 61+30C 69+30C
1D0 69+30C 6F+30C 6F+30C 75+30C 75+30C 75+308+304 75+308+304 75+308+301 75+308+301 75+308+30C
1DA 75+308+30C 75+308+300 75+308+300
1DE 61+308+304 61+308+304 61+307+304 61+307+304 E6+304 E6+304
1E6 67+30C 67+30C 6B+30C 6B+30C 6F+328 6F+328 6F+328+304 6F+328+304 292+30C 292+30C 6A+30C 64+7A
1F2 64+7A 64+7A 67+301 67+301
1F8 6E+300 6E+300 61+30A+301 61+30A+301 E6+301 E6+301 F8+301 F8+301 61+30F 61+30F 61+311 61+311
204 65+30F 65+30F 65+311 65+311 69+30F 69+30F 69+311 69+311 6F+30F 6F+30F 6F+311 6F+311 72+30F
211 72+30F 72+311 72+311 75+30F 75+30F 75+311 75+311 73+326 73+326 74+326 74+326
21E 68+30C 68+30C
226 61+307 61+307 65+327 65+327 6F+308+304 6F+308+304 6F+303+304 6F+303+304 6F+307 6F+307
230 6F+307+304 6F+307+304 79+304 79+304
2B0 68 266 6A 72 279 27B 281 77 79
2D8 20+306 20+307 20+30A 20+328 20+303 20+30B
2E0 263 6C 73 78 295
340 300 301
343 313 308+301 3B9
34F -
374 2B9
37A 20+3B9
37E 3B
384 20+301 20+308+301 3B1+301 B7 3B5+301 3B7+301 3B9+301
38C 3BF+301
38E 3C5+301 3C9+301 3B9+308+301
3AA 3B9+308 3C5+308 3B1+301 3B5+301 3B7+301 3B9+301 3C5+308+301
3C2 3C3
3CA 3B9+308 3C5+308 3BF+301 3C5+301 3C9+301
3D0 3B2 3B8 3C5 3C5+301 3C5+308 3C6 3C0
3F0 3BA 3C1 3C3
3F5 3B5
3F9 3C3
400 435+300 435+308
403 433+301
407 456+308
40C 43A+301 438+300 443+306
419 438+306
439 438+306
450 435+300 435+308
453 433+301
457 456+308
45C 43A+301 438+300 443+306
476 475+30F 475+30F
4C1 436+306 436+306
4D0 430+306 430+306 430+308 430+308
4D6 435+306 435+306
4DA 4D9+308 4D9+308 436+308 436+308 437+308 437+308
4E2 438+304 438+304 438+308 438+308 43E+308 43E+308
4EA 4E9+308 4E9+308 44D+308 44D+308 443+304 443+304 443+308 443+308 443+30B 443+30B 447+308
4F5 447+308
4F8 44B+308 44B+308
587 565+582
622 627+653 627+654 648+654 627+655 64A+654
675 627+674 648+674 6C7+674 64A+674
6C0 6D5+654
6C2 6C1+654
6D3 6D2+654
929 928+93C
931 930+93C
934 933+93C
958 915+93C 916+93C 917+93C 91C+93C 921+93C 922+93C 92B+93C 92F+93C
9CB 9C7+9BE 9C7+9D7
9DC 9A1+9BC 9A2+9BC
9DF 9AF+9BC
A33 A32+A3C
A36 A38+A3C
A59 A16+A3C A17+A3C A1C+A3C
A5E A2B+A3C
B48 B47+B56
B4B B47+B3E B47+B57
B5C B21+B3C B22+B3C
B94 B92+BD7
BCA BC6+BBE BC7+BBE BC6+BD7
C48 C46+C56
CC0 CBF+CD5
CC7 CC6+CD5 CC6+CD6
CCA CC6+CC2 CC6+CC2+CD5
D4A D46+D3E D47+D3E D46+D57
DDA DD9+DCA
DDC DD9+DCF DD9+DCF+DCA DD9+DDF
E33 E4D+E32
EB3 ECD+EB2
EDC EAB+E99 EAB+EA1
F0C F0B
F43 F42+FB7
F4D F4C+FB7
F52 F51+FB7
F57 F56+FB7
F5C F5B+FB7
F69 F40+FB5
F73 F71+F72
F75 F71+F74 FB2+F80 FB2+F71+F80 FB3+F80 FB3+F71+F80
F81 F71+F80
F93 F92+FB7
F9D F9C+FB7
FA2 FA1+FB7
FA7 FA6+FB7
FAC FAB+FB7
FB9 F90+FB5
1026 1025+102E
1806 -
180B - - -
1E00 61+325 61+325 62+307 62+307 62+323 62+323 62+331 62+331 63+327+301 63+327+301 64+307 64+307
1E0C 64+323 64+323 64+331 64+331 64+327 64+327 64+32D 64+32D 65+304+300 65+304+300 65+304+301
1E17 65+304+301 65+32D 65+32D 65+330 65+330 65+327+306 65+327+306 66+307 66+307 67+304 67+304
1E22 68+307 68+307 68+323 68+323 68+308 68+308 68+327 68+327 68+32E 68+32E 69+330 69+330
1E2E 69+308+301 69+308+301 6B+301 6B+301 6B+323 6B+323 6B+331 6B+331 6C+323 6C+323 6C+323+304
1E39 6C+323+304 6C+331 6C+331 6C+32D 6C+32D 6D+301 6D+301 6D+307 6D+307 6D+323 6D+323 6E+307
1E45 6E+307 6E+323 6E+323 6E+331 6E+331 6E+32D 6E+32D 6F+303+301 6F+303+301 6F+303+308
1E4F 6F+303+308 6F+304+300 6F+304+300 6F+304+301 6F+304+301 70+301 70+301 70+307 70+307 72+307
1E59 72+307 72+323 72+323 72+323+304 72+323+304 72+331 72+331 73+307 73+307 73+323 73+323
1E64 73+301+307 73+301+307 73+30C+307 73+30C+307 73+323+307 73+323+307 74+307 74+307 74+323
1E6D 74+323 74+331 74+331 74+32D 74+32D 75+324 75+324 75+330 75+330 75+32D 75+32D 75+303+301
1E79 75+303+301 75+304+308 75+304+308 76+303 76+303 76+323 76+323 77+300 77+300 77+301 77+301
1E84 77+308 77+308 77+307 77+307 77+323 77+323 78+307 78+307 78+308 78+308 79+307 79+307 7A+302
1E91 7A+302 7A+323 7A+323 7A+331 7A+331 68+331 74+308 77+30A 79+30A 61+2BE 73+307
1E9E 73+73
1EA0 61+323 61+323 61+309 61+309 61+302+301 61+302+301 61+302+300 61+302+300 61+302+309
1EA9 61+302+309 61+302+303 61+302+303 61+323+302 61+323+302 61+306+301 61+306+301 61+306+300
1EB1 61+306+300 61+306+309 61+306+309 61+306+303 61+306+303 61+323+306 61+323+306 65+323 65+323
1EBA 65+309 65+309 65+303 65+303 65+302+301 65+302+301 65+302+300 65+302+300 65+302+309
1EC3 65+302+309 65+302+303 65+302+303 65+323+302 65+323+302 69+309 69+309 69+323 69+323 6F+323
1ECD 6F+323 6F+309 6F+309 6F+302+301 6F+302+301 6F+302+300 6F+302+300 6F+302+309 6F+302+309
1ED6 6F+302+303 6F+302+303 6F+323+302 6F+323+302 6F+31B+301 6F+31B+301 6F+31B+300 6F+31B+300
1EDE 6F+31B+309 6F+31B+309 6F+31B+303 6F+31B+303 6F+31B+323 6F+31B+323 75+323 75+323 75+309
1EE7 75+309 75+31B+301 75+31B+301 75+31B+300 75+31B+300 75+31B+309 75+31B+309 75+31B+303
1EEF 75+31B+303 75+31B+323 75+31B+323 79+300 79+300 79+323 79+323 79+309 79+309 79+303 79+303
1F00 3B1+313 3B1+314 3B1+313+300 3B1+314+300 3B1+313+301 3B1+314+301 3B1+313+342 3B1+314+342
1F08 3B1+313 3B1+314 3B1+313+300 3B1+314+300 3B1+313+301 3B1+314+301 3B1+313+342 3B1+314+342
1F10 3B5+313 3B5+314 3B5+313+300 3B5+314+300 3B5+313+301 3B5+314+301
1F18 3B5+313 3B5+314 3B5+313+300 3B5+314+300 3B5+313+301 3B5+314+301
1F20 3B7+313 3B7+314 3B7+313+300 3B7+314+300 3B7+313+301 3B7+314+301 3B7+313+342 3B7+314+342
1F28 3B7+313 3B7+314 3B7+313+300 3B7+314+300 3B7+313+301 3B7+314+301 3B7+313+342 3B7+314+342
1F30 3B9+313 3B9+314 3B9+313+300 3B9+314+300 3B9+313+301 3B9+314+301 3B9+313+342 3B9+314+342
1F38 3B9+313 3B9+314 3B9+313+300 3B9+314+300 3B9+313+301 3B9+314+301 3B9+313+342 3B9+314+342
1F40 3BF+313 3BF+314 3BF+313+300 3BF+314+300 3BF+313+301 3BF+314+301
1F48 3BF+313 3BF+314 3BF+313+300 3BF+314+300 3BF+313+301 3BF+314+301
1F50 3C5+313 3C5+314 3C5+313+300 3C5+314+300 3C5+313+301 3C5+314+301 3C5+313+342 3C5+314+342
1F59 3C5+314
1F5B 3C5+314+300
1F5D 3C5+314+301
1F5F 3C5+314+342 3C9+313 3C9+314 3C9+313+300 3C9+314+300 3C9+313+301 3C9+314+301 3C9+313+342
1F67 3C9+314+342 3C9+313 3C9+314 3C9+313+300 3C9+314+300 3C9+313+301 3C9+314+301 3C9+313+342
1F6F 3C9+314+342 3B1+300 3B1+301 3B5+300 3B5+301 3B7+300 3B7+301 3B9+300 3B9+301 3BF+300 3BF+301
1F7A 3C5+300 3C5+301 3C9+300 3C9+301
1F80 3B1+313+3B9 3B1+314+3B9 3B1+313+300+3B9 3B1+314+300+3B9 3B1+313+301+3B9 3B1+314+301+3B9
1F86 3B1+313+342+3B9 3B1+314+342+3B9 3B1+313+3B9 3B1+314+3B9 3B1+313+300+3B9 3B1+314+300+3B9
1F8C 3B1+313+301+3B9 3B1+314+301+3B9 3B1+313+342+3B9 3B1+314+342+3B9 3B7+313+3B9 3B7+314+3B9
1F92 3B7+313+300+3B9 3B7+314+300+3B9 3B7+313+301+3B9 3B7+314+301+3B9 3B7+313+342+3B9
1F97 3B7+314+342+3B9 3B7+313+3B9 3B7+314+3B9 3B7+313+300+3B9 3B7+314+300+3B9 3B7+313+301+3B9
1F9D 3B7+314+301+3B9 3B7+313+342+3B9 3B7+314+342+3B9 3C9+313+3B9 3C9+314+3B9 3C9+313+300+3B9
1FA3 3C9+314+300+3B9 3C9+313+301+3B9 3C9+314+301+3B9 3C9+313+342+3B9 3C9+314+342+3B9 3C9+313+3B9
1FA9 3C9+314+3B9 3C9+313+300+3B9 3C9+314+300+3B9 3C9+313+301+3B9 3C9+314+301+3B9 3C9+313+342+3B9
1FAF 3C9+314+342+3B9 3B1+306 3B1+304 3B1+300+3B9 3B1+3B9 3B1+301+3B9
1FB6 3B1+342 3B1+342+3B9 3B1+306 3B1+304 3B1+300 3B1+301 3B1+3B9 20+313 3B9 20+313 20+342
1FC1 20+308+342 3B7+300+3B9 3B7+3B9 3B7+301+3B9
1FC6 3B7+342 3B7+342+3B9 3B5+300 3B5+301 3B7+300 3B7+301 3B7+3B9 20+313+300 20+313+301
1FCF 20+313+342 3B9+306 3B9+304 3B9+308+300 3B9+308+301
1FD6 3B9+342 3B9+308+342 3B9+306 3B9+304 3B9+300 3B9+301
1FDD 20+314+300 20+314+301 20+314+342 3C5+306 3C5+304 3C5+308+300 3C5+308+301 3C1+313 3C1+314
1FE6 3C5+342 3C5+308+342 3C5+306 3C5+304 3C5+300 3C5+301 3C1+314 20+308+300 20+308+301 60
1FF2 3C9+300+3B9 3C9+3B9 3C9+301+3B9
1FF6 3C9+342 3C9+342+3B9 3BF+300 3BF+301 3C9+300 3C9+301 3C9+3B9 20+301 20+314
2000 20 20 20 20 20 20 20 20 20 20 20 - - -
2011 2010
2017 20+333
2024 2E 2E+2E 2E+2E+2E
202F 20
2033 2032+2032 2032+2032+2032
2036 2035+2035 2035+2035+2035
203C 21+21
203E 20+305
2047 3F+3F 3F+21 21+3F
2057 2032+2032+2032+2032
205F 20 -
2070 30 69
2074 34..39 2B 2212 3D 28 29 6E 30..39 2B 2212 3D 28 29
20A8 72+73
2100 61+2F+63 61+2F+73 63 B0+63
2105 63+2F+6F 63+2F+75 25B
2109 B0+66 67 68 68 68 68 127 69 69 6C 6C
2115 6E 6E+6F
2119 70..72 72 72
2120 73+6D 74+65+6C 74+6D
2124 7A
2128 7A
212B 61+30A 62 63
212F 65 65 66
2133 6D 6F 5D0..5D3 69
213D 3B3 3B3 3C0 2211
2145 64 64 65 69 6A
2153 31+2044+33 32+2044+33 31+2044+35 32+2044+35 33+2044+35 34+2044+35 31+2044+36 35+2044+36
215B 31+2044+38 33+2044+38 35+2044+38 37+2044+38 31+2044 69 69+69 69+69+69 69+76 76 76+69
2166 76+69+69 76+69+69+69 69+78 78 78+69 78+69+69 6C 63 64 6D 69 69+69 69+69+69 69+76 76 76+69
2176 76+69+69 76+69+69+69 69+78 78 78+69 78+69+69 6C 63 64 6D
219A 2190+338 2192+338
21AE 2194+338
21CD 21D0+338 21D4+338 21D2+338
2204 2203+338
2209 2208+338
220C 220B+338
2224 2223+338
2226 2225+338
222C 222B+222B 222B+222B+222B
222F 222E+222E 222E+222E+222E
2241 223C+338
2244 2243+338
2247 2245+338
2249 2248+338
2260 3D+338
2262 2261+338
226D 224D+338 3C+338 3E+338 2264+338 2265+338
2274 2272+338 2273+338
2278 2276+338 2277+338
2280 227A+338 227B+338
2284 2282+338 2283+338
2288 2286+338 2287+338
22AC 22A2+338 22A8+338 22A9+338 22AB+338
22E0 227C+338 227D+338 2291+338 2292+338
22EA 22B2+338 22B3+338 22B4+338 22B5+338
2329 3008 3009
2460 31..39 31+30 31+31 31+32 31+33 31+34 31+35 31+36 31+37 31+38 31+39 32+30 28+31+29 28+32+29
2476 28+33+29 28+34+29 28+35+29 28+36+29 28+37+29 28+38+29 28+39+29 28+31+30+29 28+31+31+29
247F 28+31+32+29 28+31+33+29 28+31+34+29 28+31+35+29 28+31+36+29 28+31+37+29 28+31+38+29
2486 28+31+39+29 28+32+30+29 31+2E 32+2E 33+2E 34+2E 35+2E 36+2E 37+2E 38+2E 39+2E 31+30+2E
2492 31+31+2E 31+32+2E 31+33+2E 31+34+2E 31+35+2E 31+36+2E 31+37+2E 31+38+2E 31+39+2E 32+30+2E
249C 28+61+29 28+62+29 28+63+29 28+64+29 28+65+29 28+66+29 28+67+29 28+68+29 28+69+29 28+6A+29
24A6 28+6B+29 28+6C+29 28+6D+29 28+6E+29 28+6F+29 28+70+29 28+71+29 28+72+29 28+73+29 28+74+29
24B0 28+75+29 28+76+29 28+77+29 28+78+29 28+79+29 28+7A+29 61..7A 61..7A 30
2A0C 222B+222B+222B+222B
2A74 3A+3A+3D 3D+3D 3D+3D+3D
2ADC 2ADD+338
2E9F 6BCD
2EF3 9F9F
2F00 4E00 4E28 4E36 4E3F 4E59 4E85 4E8C 4EA0 4EBA 513F 5165 516B 5182 5196 51AB 51E0 51F5 5200
2F12 529B 52F9 5315 531A 5338 5341 535C 5369 5382 53B6 53C8 53E3 56D7 571F 58EB 5902 590A 5915
2F24 5927 5973 5B50 5B80 5BF8 5C0F 5C22 5C38 5C6E 5C71 5DDB 5DE5 5DF1 5DFE 5E72 5E7A 5E7F 5EF4
2F36 5EFE 5F0B 5F13 5F50 5F61 5F73 5FC3 6208 6236 624B 652F 6534 6587 6597 65A4 65B9 65E0 65E5
2F48 66F0 6708 6728 6B20 6B62 6B79 6BB3 6BCB 6BD4 6BDB 6C0F 6C14 6C34 706B 722A 7236 723B 723F
2F5A 7247 7259 725B 72AC 7384 7389 74DC 74E6 7518 751F 7528 7530 758B 7592 7676 767D 76AE 76BF
2F6C 76EE 77DB 77E2 77F3 793A 79B8 79BE 7A74 7ACB 7AF9 7C73 7CF8 7F36 7F51 7F8A 7FBD 8001 800C
2F7E 8012 8033 807F 8089 81E3 81EA 81F3 81FC 820C 821B 821F 826E 8272 8278 864D 866B 8840 884C
2F90 8863 897E 898B 89D2 8A00 8C37 8C46 8C55 8C78 8C9D 8D64 8D70 8DB3 8EAB 8ECA 8F9B 8FB0 8FB5
2FA2 9091 9149 91C6 91CC 91D1 9577 9580 961C 96B6 96B9 96E8 9751 975E 9762 9769 97CB 97ED 97F3
2FB4 9801 98A8 98DB 98DF 9996 9999 99AC 9AA8 9AD8 9ADF 9B25 9B2F 9B32 9B3C 9B5A 9CE5 9E75 9E7F
2FC6 9EA5 9EBB 9EC3 9ECD 9ED1 9EF9 9EFD 9F0E 9F13 9F20 9F3B 9F4A 9F52 9F8D 9F9C 9FA0
3000 20
3036 3012
3038 5341 5344 5345
304C 304B+3099
304E 304D+3099
3050 304F+3099
3052 3051+3099
3054 3053+3099
3056 3055+3099
3058 3057+3099
305A 3059+3099
305C 305B+3099
305E 305D+3099
3060 305F+3099
3062 3061+3099
3065 3064+3099
3067 3066+3099
3069 3068+3099
3070 306F+3099 306F+309A
3073 3072+3099 3072+309A
3076 3075+3099 3075+309A
3079 3078+3099 3078+309A
307C 307B+3099 307B+309A
3094 3046+3099
309B 20+3099 20+309A
309E 309D+3099 3088+308A
30AC 30AB+3099
30AE 30AD+3099
30B0 30AF+3099
30B2 30B1+3099
30B4 30B3+3099
30B6 30B5+3099
30B8 30B7+3099
30BA 30B9+3099
30BC 30BB+3099
30BE 30BD+3099
30C0 30BF+3099
30C2 30C1+3099
30C5 30C4+3099
30C7 30C6+3099
30C9 30C8+3099
30D0 30CF+3099 30CF+309A
30D3 30D2+3099 30D2+309A
30D6 30D5+3099 30D5+309A
30D9 30D8+3099 30D8+309A
30DC 30DB+3099 30DB+309A
30F4 30A6+3099
30F7 30EF+3099 30F0+3099 30F1+3099 30F2+3099
30FE 30FD+3099 30B3+30C8
3131 1100 1101 11AA 1102 11AC 11AD 1103..1105 11B0..11B5 111A 1106..1108 1121 1109..1112
314F 1161..1175 1160 1114 1115 11C7 11C8 11CC 11CE 11D3 11D7 11D9 111C 11DD 11DF 111D 111E 1120
3174 1122 1123 1127 1129 112B..112F 1132 1136 1140 1147 114C 11F1 11F2 1157..1159 1184 1185 1188
318A 1191 1192 1194 119E 11A1
3192 4E00 4E8C 4E09 56DB 4E0A 4E2D 4E0B 7532 4E59 4E19 4E01 5929 5730 4EBA
3200 28+1100+29 28+1102+29 28+1103+29 28+1105+29 28+1106+29 28+1107+29 28+1109+29 28+110B+29
3208 28+110C+29 28+110E+29 28+110F+29 28+1110+29 28+1111+29 28+1112+29 28+1100+1161+29
320F 28+1102+1161+29 28+1103+1161+29 28+1105+1161+29 28+1106+1161+29 28+1107+1161+29
3214 28+1109+1161+29 28+110B+1161+29 28+110C+1161+29 28+110E+1161+29 28+110F+1161+29
3219 28+1110+1161+29 28+1111+1161+29 28+1112+1161+29 28+110C+116E+29
3220 28+4E00+29 28+4E8C+29 28+4E09+29 28+56DB+29 28+4E94+29 28+516D+29 28+4E03+29 28+516B+29
3228 28+4E5D+29 28+5341+29 28+6708+29 28+706B+29 28+6C34+29 28+6728+29 28+91D1+29 28+571F+29
3230 28+65E5+29 28+682A+29 28+6709+29 28+793E+29 28+540D+29 28+7279+29 28+8CA1+29 28+795D+29
3238 28+52B4+29 28+4EE3+29 28+547C+29 28+5B66+29 28+76E3+29 28+4F01+29 28+8CC7+29 28+5354+29
3240 28+796D+29 28+4F11+29 28+81EA+29 28+81F3+29
3251 32+31 32+32 32+33 32+34 32+35 32+36 32+37 32+38 32+39 33+30 33+31 33+32 33+33 33+34 33+35
3260 1100 1102 1103 1105..1107 1109 110B 110C 110E..1112 1100+1161 1102+1161 1103+1161 1105+1161
3272 1106+1161 1107+1161 1109+1161 110B+1161 110C+1161 110E+1161 110F+1161 1110+1161 1111+1161
327B 1112+1161
3280 4E00 4E8C 4E09 56DB 4E94 516D 4E03 516B 4E5D 5341 6708 706B 6C34 6728 91D1 571F 65E5 682A
3292 6709 793E 540D 7279 8CA1 795D 52B4 79D8 7537 5973 9069 512A 5370 6CE8 9805 4F11 5199 6B63
32A4 4E0A 4E2D 4E0B 5DE6 53F3 533B 5B97 5B66 76E3 4F01 8CC7 5354 591C 33+36 33+37 33+38 33+39
32B5 34+30 34+31 34+32 34+33 34+34 34+35 34+36 34+37 34+38 34+39 35+30 31+6708 32+6708 33+6708
32C3 34+6708 35+6708 36+6708 37+6708 38+6708 39+6708 31+30+6708 31+31+6708 31+32+6708
32D0 30A2 30A4 30A6 30A8 30AA 30AB 30AD 30AF 30B1 30B3 30B5 30B7 30B9 30BB 30BD 30BF 30C1 30C4
32E2 30C6 30C8 30CA..30CF 30D2 30D5 30D8 30DB 30DE..30E2 30E4 30E6 30E8..30ED 30EF..30F2
3300 30A2+30CF+309A+30FC+30C8 30A2+30EB+30D5+30A1 30A2+30F3+30D8+309A+30A2 30A2+30FC+30EB
3304 30A4+30CB+30F3+30AF+3099 30A4+30F3+30C1 30A6+30A9+30F3 30A8+30B9+30AF+30FC+30C8+3099
3308 30A8+30FC+30AB+30FC 30AA+30F3+30B9 30AA+30FC+30E0 30AB+30A4+30EA 30AB+30E9+30C3+30C8
330D 30AB+30ED+30EA+30FC 30AB+3099+30ED+30F3 30AB+3099+30F3+30DE 30AD+3099+30AB+3099
3311 30AD+3099+30CB+30FC 30AD+30E5+30EA+30FC 30AD+3099+30EB+30BF+3099+30FC 30AD+30ED
3315 30AD+30ED+30AF+3099+30E9+30E0 30AD+30ED+30E1+30FC+30C8+30EB 30AD+30ED+30EF+30C3+30C8
3318 30AF+3099+30E9+30E0 30AF+3099+30E9+30E0+30C8+30F3 30AF+30EB+30BB+3099+30A4+30ED
331B 30AF+30ED+30FC+30CD 30B1+30FC+30B9 30B3+30EB+30CA 30B3+30FC+30DB+309A 30B5+30A4+30AF+30EB
3320 30B5+30F3+30C1+30FC+30E0 30B7+30EA+30F3+30AF+3099 30BB+30F3+30C1 30BB+30F3+30C8
3324 30BF+3099+30FC+30B9 30C6+3099+30B7 30C8+3099+30EB 30C8+30F3 30CA+30CE 30CE+30C3+30C8
332A 30CF+30A4+30C4 30CF+309A+30FC+30BB+30F3+30C8 30CF+309A+30FC+30C4 30CF+3099+30FC+30EC+30EB
332E 30D2+309A+30A2+30B9+30C8+30EB 30D2+309A+30AF+30EB 30D2+309A+30B3 30D2+3099+30EB
3332 30D5+30A1+30E9+30C3+30C8+3099 30D5+30A3+30FC+30C8 30D5+3099+30C3+30B7+30A7+30EB
3335 30D5+30E9+30F3 30D8+30AF+30BF+30FC+30EB 30D8+309A+30BD 30D8+309A+30CB+30D2 30D8+30EB+30C4
333A 30D8+309A+30F3+30B9 30D8+309A+30FC+30B7+3099 30D8+3099+30FC+30BF 30DB+309A+30A4+30F3+30C8
333E 30DB+3099+30EB+30C8 30DB+30F3 30DB+309A+30F3+30C8+3099 30DB+30FC+30EB 30DB+30FC+30F3
3343 30DE+30A4+30AF+30ED 30DE+30A4+30EB 30DE+30C3+30CF 30DE+30EB+30AF 30DE+30F3+30B7+30E7+30F3
3348 30DF+30AF+30ED+30F3 30DF+30EA 30DF+30EA+30CF+3099+30FC+30EB 30E1+30AB+3099
334C 30E1+30AB+3099+30C8+30F3 30E1+30FC+30C8+30EB 30E4+30FC+30C8+3099 30E4+30FC+30EB
3350 30E6+30A2+30F3 30EA+30C3+30C8+30EB 30EA+30E9 30EB+30D2+309A+30FC 30EB+30FC+30D5+3099+30EB
3355 30EC+30E0 30EC+30F3+30C8+30B1+3099+30F3 30EF+30C3+30C8 30+70B9 31+70B9 32+70B9 33+70B9
335C 34+70B9 35+70B9 36+70B9 37+70B9 38+70B9 39+70B9 31+30+70B9 31+31+70B9 31+32+70B9 31+33+70B9
3366 31+34+70B9 31+35+70B9 31+36+70B9 31+37+70B9 31+38+70B9 31+39+70B9 32+30+70B9 32+31+70B9
336E 32+32+70B9 32+33+70B9 32+34+70B9 68+70+61 64+61 61+75 62+61+72 6F+76 70+63
337B 5E73+6210 662D+548C 5927+6B63 660E+6CBB 682A+5F0F+4F1A+793E 70+61 6E+61 3BC+61 6D+61 6B+61
3385 6B+62 6D+62 67+62 63+61+6C 6B+63+61+6C 70+66 6E+66 3BC+66 3BC+67 6D+67 6B+67 68+7A 6B+68+7A
3392 6D+68+7A 67+68+7A 74+68+7A 3BC+6C 6D+6C 64+6C 6B+6C 66+6D 6E+6D 3BC+6D 6D+6D 63+6D 6B+6D
339F 6D+6D+32 63+6D+32 6D+32 6B+6D+32 6D+6D+33 63+6D+33 6D+33 6B+6D+33 6D+2215+73 6D+2215+73+32
33A9 70+61 6B+70+61 6D+70+61 67+70+61 72+61+64 72+61+64+2215+73 72+61+64+2215+73+32 70+73 6E+73
33B2 3BC+73 6D+73 70+76 6E+76 3BC+76 6D+76 6B+76 6D+76 70+77 6E+77 3BC+77 6D+77 6B+77 6D+77
33C0 6B+3C9 6D+3C9 61+2E+6D+2E 62+71 63+63 63+64 63+2215+6B+67 63+6F+2E 64+62 67+79 68+61 68+70
33CC 69+6E 6B+6B 6B+6D 6B+74 6C+6D 6C+6E 6C+6F+67 6C+78 6D+62 6D+69+6C 6D+6F+6C 70+68
33D8 70+2E+6D+2E 70+70+6D 70+72 73+72 73+76 77+62
33E0 31+65E5 32+65E5 33+65E5 34+65E5 35+65E5 36+65E5 37+65E5 38+65E5 39+65E5 31+30+65E5
33EA 31+31+65E5 31+32+65E5 31+33+65E5 31+34+65E5 31+35+65E5 31+36+65E5 31+37+65E5 31+38+65E5
33F2 31+39+65E5 32+30+65E5 32+31+65E5 32+32+65E5 32+33+65E5 32+34+65E5 32+35+65E5 32+36+65E5
33FA 32+37+65E5 32+38+65E5 32+39+65E5 33+30+65E5 33+31+65E5
F900 8C48 66F4 8ECA 8CC8 6ED1 4E32 53E5 9F9C 9F9C 5951 91D1 5587 5948 61F6 7669 7F85 863F 87BA
F912 88F8 908F 6A02 6D1B 70D9 73DE 843D 916A 99F1 4E82 5375 6B04 721B 862D 9E1E 5D50 6FEB 85CD
F924 8964 62C9 81D8 881F 5ECA 6717 6D6A 72FC 90CE 4F86 51B7 52DE 64C4 6AD3 7210 76E7 8001 8606
F936 865C 8DEF 9732 9B6F 9DFA 788C 797F 7DA0 83C9 9304 9E7F 8AD6 58DF 5F04 7C60 807E 7262 78CA
F948 8CC2 96F7 58D8 5C62 6A13 6DDA 6F0F 7D2F 7E37 964B 52D2 808B 51DC 51CC 7A1C 7DBE 83F1 9675
F95A 8B80 62CF 6A02 8AFE 4E39 5BE7 6012 7387 7570 5317 78FB 4FBF 5FA9 4E0D 6CCC 6578 7D22 53C3
F96C 585E 7701 8449 8AAA 6BBA 8FB0 6C88 62FE 82E5 63A0 7565 4EAE 5169 51C9 6881 7CE7 826F 8AD2
F97E 91CF 52F5 5442 5973 5EEC 65C5 6FFE 792A 95AD 9A6A 9E97 9ECE 529B 66C6 6B77 8F62 5E74 6190
F990 6200 649A 6F23 7149 7489 79CA 7DF4 806F 8F26 84EE 9023 934A 5217 52A3 54BD 70C8 88C2 8AAA
F9A2 5EC9 5FF5 637B 6BAE 7C3E 7375 4EE4 56F9 5BE7 5DBA 601C 73B2 7469 7F9A 8046 9234 96F6 9748
F9B4 9818 4F8B 79AE 91B4 96B8 60E1 4E86 50DA 5BEE 5C3F 6599 6A02 71CE 7642 84FC 907C 9F8D 6688
F9C6 962E 5289 677B 67F3 6D41 6E9C 7409 7559 786B 7D10 985E 516D 622E 9678 502B 5D19 6DEA 8F2A
F9D8 5F8B 6144 6817 7387 9686 5229 540F 5C65 6613 674E 68A8 6CE5 7406 75E2 7F79 88CF 88E1 91CC
F9EA 96E2 533F 6EBA 541D 71D0 7498 85FA 96A3 9C57 9E9F 6797 6DCB 81E8 7ACB 7B20 7C92 72C0 7099
F9FC 8B58 4EC0 8336 523A 5207 5EA6 62D3 7CD6 5B85 6D1E 66B4 8F3B 884C 964D 898B 5ED3 5140 55C0
FA10 585A
FA12 6674
FA15 51DE 732A 76CA 793C 795E 7965 798F 9756 7CBE 7FBD
FA20 8612
FA22 8AF8
FA25 9038 90FD
FA2A 98EF 98FC 9928 9DB4
FA30 4FAE 50E7 514D 52C9 52E4 5351 559D 5606 5668 5840 58A8 5C64 5C6E 6094 6168 618E 61F2 654F
FA42 65E2 6691 6885 6D77 6E1A 6F22 716E 722B 7422 7891 793E 7949 7948 7950 7956 795D 798D 798E
FA54 7A40 7A81 7BC0 7DF4 7E09 7E41 7F72 8005 81ED 8279 8279 8457 8910 8996 8B01 8B39 8CD3 8D08
FA66 8FB6 9038 96E3 97FF 983B
FB00 66+66 66+69 66+6C 66+66+69 66+66+6C 73+74 73+74
FB13 574+576 574+565 574+56B 57E+576 574+56D
FB1D 5D9+5B4
FB1F 5F2+5B7 5E2 5D0 5D3 5D4 5DB..5DD 5E8 5EA 2B 5E9+5C1 5E9+5C2 5E9+5BC+5C1 5E9+5BC+5C2 5D0+5B7
FB2F 5D0+5B8 5D0+5BC 5D1+5BC 5D2+5BC 5D3+5BC 5D4+5BC 5D5+5BC 5D6+5BC
FB38 5D8+5BC 5D9+5BC 5DA+5BC 5DB+5BC 5DC+5BC
FB3E 5DE+5BC
FB40 5E0+5BC 5E1+5BC
FB43 5E3+5BC 5E4+5BC
FB46 5E6+5BC 5E7+5BC 5E8+5BC 5E9+5BC 5EA+5BC 5D5+5B9 5D1+5BF 5DB+5BF 5E4+5BF 5D0+5DC 671 671 67B
FB53 67B 67B 67B 67E 67E 67E 67E 680 680 680 680 67A 67A 67A 67A 67F 67F 67F 67F 679 679 679 679
FB6A 6A4 6A4 6A4 6A4 6A6 6A6 6A6 6A6 684 684 684 684 683 683 683 683 686 686 686 686 687 687 687
FB81 687 68D 68D 68C 68C 68E 68E 688 688 698 698 691 691 6A9 6A9 6A9 6A9 6AF 6AF 6AF 6AF 6B3 6B3
FB98 6B3 6B3 6B1 6B1 6B1 6B1 6BA 6BA 6BB 6BB 6BB 6BB 6D5+654 6D5+654 6C1 6C1 6C1 6C1 6BE 6BE 6BE
FBAD 6BE 6D2 6D2 6D2+654 6D2+654
FBD3 6AD 6AD 6AD 6AD 6C7 6C7 6C6 6C6 6C8 6C8 6C7+674 6CB 6CB 6C5 6C5 6C9 6C9 6D0 6D0 6D0 6D0 649
FBE9 649 64A+654+627 64A+654+627 64A+654+6D5 64A+654+6D5 64A+654+648 64A+654+648 64A+654+6C7
FBF1 64A+654+6C7 64A+654+6C6 64A+654+6C6 64A+654+6C8 64A+654+6C8 64A+654+6D0 64A+654+6D0
FBF8 64A+654+6D0 64A+654+649 64A+654+649 64A+654+649 6CC 6CC 6CC 6CC 64A+654+62C 64A+654+62D
FC02 64A+654+645 64A+654+649 64A+654+64A 628+62C 628+62D 628+62E 628+645 628+649 628+64A 62A+62C
FC0C 62A+62D 62A+62E 62A+645 62A+649 62A+64A 62B+62C 62B+645 62B+649 62B+64A 62C+62D 62C+645
FC17 62D+62C 62D+645 62E+62C 62E+62D 62E+645 633+62C 633+62D 633+62E 633+645 635+62D 635+645
FC22 636+62C 636+62D 636+62E 636+645 637+62D 637+645 638+645 639+62C 639+645 63A+62C 63A+645
FC2D 641+62C 641+62D 641+62E 641+645 641+649 641+64A 642+62D 642+645 642+649 642+64A 643+627
FC38 643+62C 643+62D 643+62E 643+644 643+645 643+649 643+64A 644+62C 644+62D 644+62E 644+645
FC43 644+649 644+64A 645+62C 645+62D 645+62E 645+645 645+649 645+64A 646+62C 646+62D 646+62E
FC4E 646+645 646+649 646+64A 647+62C 647+645 647+649 647+64A 64A+62C 64A+62D 64A+62E 64A+645
FC59 64A+649 64A+64A 630+670 631+670 649+670 20+64C+651 20+64D+651 20+64E+651 20+64F+651
FC62 20+650+651 20+651+670 64A+654+631 64A+654+632 64A+654+645 64A+654+646 64A+654+649
FC69 64A+654+64A 628+631 628+632 628+645 628+646 628+649 628+64A 62A+631 62A+632 62A+645 62A+646
FC74 62A+649 62A+64A 62B+631 62B+632 62B+645 62B+646 62B+649 62B+64A 641+649 641+64A 642+649
FC7F 642+64A 643+627 643+644 643+645 643+649 643+64A 644+645 644+649 644+64A 645+627 645+645
FC8A 646+631 646+632 646+645 646+646 646+649 646+64A 649+670 64A+631 64A+632 64A+645 64A+646
FC95 64A+649 64A+64A 64A+654+62C 64A+654+62D 64A+654+62E 64A+654+645 64A+654+647 628+62C 628+62D
FC9E 628+62E 628+645 628+647 62A+62C 62A+62D 62A+62E 62A+645 62A+647 62B+645 62C+62D 62C+645
FCA9 62D+62C 62D+645 62E+62C 62E+645 633+62C 633+62D 633+62E 633+645 635+62D 635+62E 635+645
FCB4 636+62C 636+62D 636+62E 636+645 637+62D 638+645 639+62C 639+645 63A+62C 63A+645 641+62C
FCBF 641+62D 641+62E 641+645 642+62D 642+645 643+62C 643+62D 643+62E 643+644 643+645 644+62C
FCCA 644+62D 644+62E 644+645 644+647 645+62C 645+62D 645+62E 645+645 646+62C 646+62D 646+62E
FCD5 646+645 646+647 647+62C 647+645 647+670 64A+62C 64A+62D 64A+62E 64A+645 64A+647 64A+654+645
FCE0 64A+654+647 628+645 628+647 62A+645 62A+647 62B+645 62B+647 633+645 633+647 634+645 634+647
FCEB 643+644 643+645 644+645 646+645 646+647 64A+645 64A+647 640+64E+651 640+64F+651 640+650+651
FCF5 637+649 637+64A 639+649 639+64A 63A+649 63A+64A 633+649 633+64A 634+649 634+64A 62D+649
FD00 62D+64A 62C+649 62C+64A 62E+649 62E+64A 635+649 635+64A 636+649 636+64A 634+62C 634+62D
FD0B 634+62E 634+645 634+631 633+631 635+631 636+631 637+649 637+64A 639+649 639+64A 63A+649
FD16 63A+64A 633+649 633+64A 634+649 634+64A 62D+649 62D+64A 62C+649 62C+64A 62E+649 62E+64A
FD21 635+649 635+64A 636+649 636+64A 634+62C 634+62D 634+62E 634+645 634+631 633+631 635+631
FD2C 636+631 634+62C 634+62D 634+62E 634+645 633+647 634+647 637+645 633+62C 633+62D 633+62E
FD37 634+62C 634+62D 634+62E 637+645 638+645 627+64B 627+64B
FD50 62A+62C+645 62A+62D+62C 62A+62D+62C 62A+62D+645 62A+62E+645 62A+645+62C 62A+645+62D
FD57 62A+645+62E 62C+645+62D 62C+645+62D 62D+645+64A 62D+645+649 633+62D+62C 633+62C+62D
FD5E 633+62C+649 633+645+62D 633+645+62D 633+645+62C 633+645+645 633+645+645 635+62D+62D
FD65 635+62D+62D 635+645+645 634+62D+645 634+62D+645 634+62C+64A 634+645+62E 634+645+62E
FD6C 634+645+645 634+645+645 636+62D+649 636+62E+645 636+62E+645 637+645+62D 637+645+62D
FD73 637+645+645 637+645+64A 639+62C+645 639+645+645 639+645+645 639+645+649 63A+645+645
FD7A 63A+645+64A 63A+645+649 641+62E+645 641+62E+645 642+645+62D 642+645+645 644+62D+645
FD81 644+62D+64A 644+62D+649 644+62C+62C 644+62C+62C 644+62E+645 644+62E+645 644+645+62D
FD88 644+645+62D 645+62D+62C 645+62D+645 645+62D+64A 645+62C+62D 645+62C+645 645+62E+62C
FD8F 645+62E+645
FD92 645+62C+62E 647+645+62C 647+645+645 646+62D+645 646+62D+649 646+62C+645 646+62C+645
FD99 646+62C+649 646+645+64A 646+645+649 64A+645+645 64A+645+645 628+62E+64A 62A+62C+64A
FDA0 62A+62C+649 62A+62E+64A 62A+62E+649 62A+645+64A 62A+645+649 62C+645+64A 62C+62D+649
FDA7 62C+645+649 633+62E+649 635+62D+64A 634+62D+64A 636+62D+64A 644+62C+64A 644+645+64A
FDAE 64A+62D+64A 64A+62C+64A 64A+645+64A 645+645+64A 642+645+64A 646+62D+64A 642+645+62D
FDB5 644+62D+645 639+645+64A 643+645+64A 646+62C+62D 645+62E+64A 644+62C+645 643+645+645
FDBC 644+62C+645 646+62C+62D 62C+62D+64A 62D+62C+64A 645+62C+64A 641+645+64A 628+62D+64A
FDC3 643+645+645 639+62C+645 635+645+645 633+62E+64A 646+62C+64A
FDF0 635+644+6D2 642+644+6D2 627+644+644+647 627+643+628+631 645+62D+645+62F 635+644+639+645
FDF6 631+633+648+644 639+644+64A+647 648+633+644+645 635+644+649
FDFA 635+644+649+20+627+644+644+647+20+639+644+64A+647+20+648+633+644+645
FDFB 62C+644+20+62C+644+627+644+647 631+6CC+627+644
FE00 - - - - - - - - - - - - - - - -
FE30 2E+2E 2014 2013 5F 5F 28 29 7B 7D 3014 3015 3010 3011 300A 300B 3008 3009 300C..300F
FE49 20+305 20+305 20+305 20+305 5F 5F 5F 2C 3001 2E
FE54 3B 3A 3F 21 2014 28 29 7B 7D 3014 3015 23 26 2A 2B 2D 3C 3E 3D
FE68 5C 24 25 40
FE70 20+64B 640+64B 20+64C
FE74 20+64D
FE76 20+64E 640+64E 20+64F 640+64F 20+650 640+650 20+651 640+651 20+652 640+652 621 627+653
FE82 627+653 627+654 627+654 648+654 648+654 627+655 627+655 64A+654 64A+654 64A+654 64A+654 627
FE8E 627 628 628 628 628 629 629 62A 62A 62A 62A 62B 62B 62B 62B 62C 62C 62C 62C 62D 62D 62D 62D
FEA5 62E 62E 62E 62E 62F 62F 630 630 631 631 632 632 633 633 633 633 634 634 634 634 635 635 635
FEBC 635 636 636 636 636 637 637 637 637 638 638 638 638 639 639 639 639 63A 63A 63A 63A 641 641
FED3 641 641 642 642 642 642 643 643 643 643 644 644 644 644 645 645 645 645 646 646 646 646 647
FEEA 647 647 647 648 648 649 649 64A 64A 64A 64A 644+627+653 644+627+653 644+627+654 644+627+654
FEF9 644+627+655 644+627+655 644+627 644+627
FEFF -
FF01 21..40 61..7A 5B..7E 2985 2986 3002 300C 300D 3001 30FB 30F2 30A1 30A3 30A5 30A7 30A9 30E3
FF6D 30E5 30E7 30C3 30FC 30A2 30A4 30A6 30A8 30AA 30AB 30AD 30AF 30B1 30B3 30B5 30B7 30B9 30BB
FF7F 30BD 30BF 30C1 30C4 30C6 30C8 30CA..30CF 30D2 30D5 30D8 30DB 30DE..30E2 30E4 30E6
FF96 30E8..30ED 30EF 30F3 3099 309A 1160 1100 1101 11AA 1102 11AC 11AD 1103..1105 11B0..11B5
FFB0 111A 1106..1108 1121 1109..1112
FFC2 1161..1166
FFCA 1167..116C
FFD2 116D..1172
FFDA 1173..1175
FFE0 A2 A3 AC 20+304 A6 A5 20A9
FFE8 2502 2190..2193 25A0 25CB
1D15E 1D157+1D165 1D158+1D165 1D158+1D165+1D16E 1D158+1D165+1D16F 1D158+1D165+1D170
1D163 1D158+1D165+1D171 1D158+1D165+1D172
1D1BB 1D1B9+1D165 1D1BA+1D165 1D1B9+1D165+1D16E 1D1BA+1D165+1D16E 1D1B9+1D165+1D16F
1D1C0 1D1BA+1D165+1D16F
1D400 61..7A 61..7A 61..7A 61..67
1D456 69..7A 61..7A 61..7A 61
1D49E 63 64
1D4A2 67
1D4A5 6A 6B
1D4A9 6E..71
1D4AE 73..7A 61..64
1D4BB 66
1D4BD 68..6B
1D4C2 6D 6E
1D4C5 70..7A 61..7A 61..7A 61 62
1D507 64..67
1D50D 6A..71
1D516 73..79
1D51E 61..7A 61 62
1D53B 64..67
1D540 69..6D
1D546 6F
1D54A 73..79
1D552 61..7A 61..7A 61..7A 61..7A 61..7A 61..7A 61..7A 61..7A 61..7A 61..7A 61..7A 61..7A 61..7A
1D6A8 3B1..3C1 3B8 3C3..3C9 2207 3B1..3C1 3C3 3C3..3C9 2202 3B5 3B8 3BA 3C6 3C1 3C0 3B1..3C1 3B8
1D6F4 3C3..3C9 2207 3B1..3C1 3C3 3C3..3C9 2202 3B5 3B8 3BA 3C6 3C1 3C0 3B1..3C1 3B8 3C3..3C9
1D735 2207 3B1..3C1 3C3 3C3..3C9 2202 3B5 3B8 3BA 3C6 3C1 3C0 3B1..3C1 3B8 3C3..3C9 2207
1D770 3B1..3C1 3C3 3C3..3C9 2202 3B5 3B8 3BA 3C6 3C1 3C0 3B1..3C1 3B8 3C3..3C9 2207 3B1..3C1 3C3
1D7BC 3C3..3C9 2202 3B5 3B8 3BA 3C6 3C1 3C0
1D7CE 30..39 30..39 30..39 30..39 30..39
2F800 4E3D 4E38 4E41 20122 4F60 4FAE 4FBB 5002 507A 5099 50E7 50CF 349E 2063A 514D 5154 5164
2F811 5177 2051C 34B9 5167 518D 2054B 5197 51A4 4ECC 51AC 51B5 291DF 51F5 5203 34DF 523B 5246
2F822 5272 5277 3515 52C7 52C9 52E4 52FA 5305 5306 5317 5349 5351 535A 5373 537D 537F 537F 537F
2F834 20A2C 7070 53CA 53DF 20B63 53EB 53F1 5406 549E 5438 5448 5468 54A2 54F6 5510 5553 5563
2F845 5584 5584 5599 55AB 55B3 55C2 5716 5606 5717 5651 5674 5207 58EE 57CE 57F4 580D 578B 5832
2F857 5831 58AC 214E4 58F2 58F7 5906 591A 5922 5962 216A8 216EA 59EC 5A1B 5A27 59D8 5A66 36EE
2F868 2136A 5B08 5B3E 5B3E 219C8 5BC3 5BD8 5BE7 5BF3 21B18 5BFF 5C06 5F33 5C22 3781 5C60 5C6E
2F879 5CC0 5C8D 21DE4 5D43 21DE6 5D6E 5D6B 5D7C 5DE1 5DE2 382F 5DFD 5E28 5E3D 5E69 3862 22183
2F88A 387C 5EB0 5EB3 5EB6 5ECA 2A392 5EFE 22331 22331 8201 5F22 5F22 38C7 232B8 261DA 5F62 5F6B
2F89B 38E3 5F9A 5FCD 5FD7 5FF9 6081 393A 391C 6094 226D4 60C7 6148 614C 614E 614C 617A 618E 61B2
2F8AD 61A4 61AF 61DE 61F2 61F6 6210 621B 625D 62B1 62D4 6350 22B0C 633D 62FC 6368 6383 63E4
2F8BE 22BF1 6422 63C5 63A9 3A2E 6469 647E 649D 6477 3A6C 654F 656C 2300A 65E3 66F8 6649 3B19
2F8CF 6691 3B08 3AE4 5192 5195 6700 669C 80AD 43D9 6717 671B 6721 675E 6753 233C3 3B49 67FA 6785
2F8E1 6852 6885 2346D 688E 681F 6914 3B9D 6942 69A3 69EA 6AA8 236A3 6ADB 3C18 6B21 238A7 6B54
2F8F2 3C4E 6B72 6B9F 6BBA 6BBB 23A8D 21D0B 23AFA 6C4E 23CBC 6CBF 6CCD 6C67 6D16 6D3E 6D77 6D41
2F903 6D69 6D78 6D85 23D1E 6D34 6E2F 6E6E 3D33 6ECB 6EC7 23ED1 6DF9 6F6E 23F5E 23F8E 6FC6 7039
2F914 701E 701B 3D96 704A 707D 7077 70AD 20525 7145 24263 719C 43AB 7228 7235 7250 24608 7280
2F925 7295 24735 24814 737A 738B 3EAC 73A5 3EB8 3EB8 7447 745C 7471 7485 74CA 3F1B 7524 24C36
2F936 753E 24C92 7570 2219F 7610 24FA1 24FB8 25044 3FFC 4008 76F4 250F3 250F2 25119 25133 771E
2F946 771F 771F 774A 4039 778B 4046 4096 2541D 784E 788C 78CC 40E3 25626 7956 2569A 256C5 798F
2F957 79EB 412F 7A40 7A4A 7A4F 2597C 25AA7 25AA7 7AAE 4202 25BAB 7BC6 7BC9 4227 25C80 7CD2 42A0
2F968 7CE8 7CE3 7D00 25F86 7D63 4301 7DC7 7E02 7E45 4334 26228 26247 4359 262D9 7F7A 2633E 7F95
2F979 7FFA 8005 264DA 26523 8060 265A8 8070 2335F 43D5 80B2 8103 440B 813E 5AB5 267A7 267B5
2F989 23393 2339C 8201 8204 8F9E 446B 8291 828B 829D 52B3 82B1 82B3 82BD 82E6 26B3C 82E5 831D
2F99A 8363 83AD 8323 83BD 83E7 8457 8353 83CA 83CC 83DC 26C36 26D6B 26CD5 452B 84F1 84F3 8516
2F9AB 273CA 8564 26F2C 455D 4561 26FB1 270D2 456B 8650 865C 8667 8669 86A9 8688 870E 86E2 8779
2F9BC 8728 876B 8786 4D57 87E1 8801 45F9 8860 8863 27667 88D7 88DE 4635 88FA 34BB 278AE 27966
2F9CD 46BE 46C7 8AA0 8AED 8B8A 8C55 27CA8 8CAB 8CC1 8D1B 8D77 27F2F 20804 8DCB 8DBC 8DF0 208DE
2F9DE 8ED4 8F38 285D2 285ED 9094 90F1 9111 2872E 911B 9238 92D7 92D8 927C 93F9 9415 28BFA 958B
2F9EF 4995 95B7 28D77 49E6 96C3 5DB2 9723 29145 2921A 4A6E 4A76 97E0 2940A 4AB2 29496 980B 980B
2FA00 9829 295B6 98E2 4B33 9929 99A7 99C2 99FE 4BCE 29B30 9B12 9C40 9CFD 4CCE 4CED 9D67 2A0CE
2FA11 4CF8 2A105 2A20E 2A291 9EBB 4D56 9EF9 9EFE 9F05 9F0F 9F16 9F3B 2A600"

/-- The code points that stand for a pair, each with the pair. -/
def pairLines : String := "C0 41+300 41+301 41+302 41+303 41+308 41+30A
C7 43+327 45+300 45+301 45+302 45+308 49+300 49+301 49+302 49+308
D1 4E+303 4F+300 4F+301 4F+302 4F+303 4F+308
D9 55+300 55+301 55+302 55+308 59+301
E0 61+300 61+301 61+302 61+303 61+308 61+30A
E7 63+327 65+300 65+301 65+302 65+308 69+300 69+301 69+302 69+308
F1 6E+303 6F+300 6F+301 6F+302 6F+303 6F+308
F9 75+300 75+301 75+302 75+308 79+301
FF 79+308 41+304 61+304 41+306 61+306 41+328 61+328 43+301 63+301 43+302 63+302 43+307 63+307
10C 43+30C 63+30C 44+30C 64+30C
112 45+304 65+304 45+306 65+306 45+307 65+307 45+328 65+328 45+30C 65+30C 47+302 67+302 47+306
11F 67+306 47+307 67+307 47+327 67+327 48+302 68+302
128 49+303 69+303 49+304 69+304 49+306 69+306 49+328 69+328 49+307
134 4A+302 6A+302 4B+327 6B+327
139 4C+301 6C+301 4C+327 6C+327 4C+30C 6C+30C
143 4E+301 6E+301 4E+327 6E+327 4E+30C 6E+30C
14C 4F+304 6F+304 4F+306 6F+306 4F+30B 6F+30B
154 52+301 72+301 52+327 72+327 52+30C 72+30C 53+301 73+301 53+302 73+302 53+327 73+327 53+30C
161 73+30C 54+327 74+327 54+30C 74+30C
168 55+303 75+303 55+304 75+304 55+306 75+306 55+30A 75+30A 55+30B 75+30B 55+328 75+328 57+302
175 77+302 59+302 79+302 59+308 5A+301 7A+301 5A+307 7A+307 5A+30C 7A+30C
1A0 4F+31B 6F+31B
1AF 55+31B 75+31B
1CD 41+30C 61+30C 49+30C 69+30C 4F+30C 6F+30C 55+30C 75+30C DC+304 FC+304 DC+301 FC+301 DC+30C
1DA FC+30C DC+300 FC+300
1DE C4+304 E4+304 226+304 227+304 C6+304 E6+304
1E6 47+30C 67+30C 4B+30C 6B+30C 4F+328 6F+328 1EA+304 1EB+304 1B7+30C 292+30C 6A+30C
1F4 47+301 67+301
1F8 4E+300 6E+300 C5+301 E5+301 C6+301 E6+301 D8+301 F8+301 41+30F 61+30F 41+311 61+311 45+30F
205 65+30F 45+311 65+311 49+30F 69+30F 49+311 69+311 4F+30F 6F+30F 4F+311 6F+311 52+30F 72+30F
212 52+311 72+311 55+30F 75+30F 55+311 75+311 53+326 73+326 54+326 74+326
21E 48+30C 68+30C
226 41+307 61+307 45+327 65+327 D6+304 F6+304 D5+304 F5+304 4F+307 6F+307 22E+304 22F+304 59+304
233 79+304
385 A8+301 391+301
388 395+301 397+301 399+301
38C 39F+301
38E 3A5+301 3A9+301 3CA+301
3AA 399+308 3A5+308 3B1+301 3B5+301 3B7+301 3B9+301 3CB+301
3CA 3B9+308 3C5+308 3BF+301 3C5+301 3C9+301
3D3 3D2+301 3D2+308
400 415+300 415+308
403 413+301
407 406+308
40C 41A+301 418+300 423+306
419 418+306
439 438+306
450 435+300 435+308
453 433+301
457 456+308
45C 43A+301 438+300 443+306
476 474+30F 475+30F
4C1 416+306 436+306
4D0 410+306 430+306 410+308 430+308
4D6 415+306 435+306
4DA 4D8+308 4D9+308 416+308 436+308 417+308 437+308
4E2 418+304 438+304 418+308 438+308 41E+308 43E+308
4EA 4E8+308 4E9+308 42D+308 44D+308 423+304 443+304 423+308 443+308 423+30B 443+30B 427+308
4F5 447+308
4F8 42B+308 44B+308
622 627+653 627+654 648+654 627+655 64A+654
6C0 6D5+654
6C2 6C1+654
6D3 6D2+654
929 928+93C
931 930+93C
934 933+93C
9CB 9C7+9BE 9C7+9D7
B48 B47+B56
B4B B47+B3E B47+B57
B94 B92+BD7
BCA BC6+BBE BC7+BBE BC6+BD7
C48 C46+C56
CC0 CBF+CD5
CC7 CC6+CD5 CC6+CD6
CCA CC6+CC2 CCA+CD5
D4A D46+D3E D47+D3E D46+D57
DDA DD9+DCA
DDC DD9+DCF DDC+DCA DD9+DDF
1026 1025+102E
1B06 1B05+1B35
1B08 1B07+1B35
1B0A 1B09+1B35
1B0C 1B0B+1B35
1B0E 1B0D+1B35
1B12 1B11+1B35
1B3B 1B3A+1B35
1B3D 1B3C+1B35
1B40 1B3E+1B35 1B3F+1B35
1B43 1B42+1B35
1E00 41+325 61+325 42+307 62+307 42+323 62+323 42+331 62+331 C7+301 E7+301 44+307 64+307 44+323
1E0D 64+323 44+331 64+331 44+327 64+327 44+32D 64+32D 112+300 113+300 112+301 113+301 45+32D
1E19 65+32D 45+330 65+330 228+306 229+306 46+307 66+307 47+304 67+304 48+307 68+307 48+323
1E25 68+323 48+308 68+308 48+327 68+327 48+32E 68+32E 49+330 69+330 CF+301 EF+301 4B+301 6B+301
1E32 4B+323 6B+323 4B+331 6B+331 4C+323 6C+323 1E36+304 1E37+304 4C+331 6C+331 4C+32D 6C+32D
1E3E 4D+301 6D+301 4D+307 6D+307 4D+323 6D+323 4E+307 6E+307 4E+323 6E+323 4E+331 6E+331 4E+32D
1E4B 6E+32D D5+301 F5+301 D5+308 F5+308 14C+300 14D+300 14C+301 14D+301 50+301 70+301 50+307
1E57 70+307 52+307 72+307 52+323 72+323 1E5A+304 1E5B+304 52+331 72+331 53+307 73+307 53+323
1E63 73+323 15A+307 15B+307 160+307 161+307 1E62+307 1E63+307 54+307 74+307 54+323 74+323 54+331
1E6F 74+331 54+32D 74+32D 55+324 75+324 55+330 75+330 55+32D 75+32D 168+301 169+301 16A+308
1E7B 16B+308 56+303 76+303 56+323 76+323 57+300 77+300 57+301 77+301 57+308 77+308 57+307 77+307
1E88 57+323 77+323 58+307 78+307 58+308 78+308 59+307 79+307 5A+302 7A+302 5A+323 7A+323 5A+331
1E95 7A+331 68+331 74+308 77+30A 79+30A
1E9B 17F+307
1EA0 41+323 61+323 41+309 61+309 C2+301 E2+301 C2+300 E2+300 C2+309 E2+309 C2+303 E2+303
1EAC 1EA0+302 1EA1+302 102+301 103+301 102+300 103+300 102+309 103+309 102+303 103+303 1EA0+306
1EB7 1EA1+306 45+323 65+323 45+309 65+309 45+303 65+303 CA+301 EA+301 CA+300 EA+300 CA+309
1EC3 EA+309 CA+303 EA+303 1EB8+302 1EB9+302 49+309 69+309 49+323 69+323 4F+323 6F+323 4F+309
1ECF 6F+309 D4+301 F4+301 D4+300 F4+300 D4+309 F4+309 D4+303 F4+303 1ECC+302 1ECD+302 1A0+301
1EDB 1A1+301 1A0+300 1A1+300 1A0+309 1A1+309 1A0+303 1A1+303 1A0+323 1A1+323 55+323 75+323
1EE6 55+309 75+309 1AF+301 1B0+301 1AF+300 1B0+300 1AF+309 1B0+309 1AF+303 1B0+303 1AF+323
1EF1 1B0+323 59+300 79+300 59+323 79+323 59+309 79+309 59+303 79+303
1F00 3B1+313 3B1+314 1F00+300 1F01+300 1F00+301 1F01+301 1F00+342 1F01+342 391+313 391+314
1F0A 1F08+300 1F09+300 1F08+301 1F09+301 1F08+342 1F09+342 3B5+313 3B5+314 1F10+300 1F11+300
1F14 1F10+301 1F11+301
1F18 395+313 395+314 1F18+300 1F19+300 1F18+301 1F19+301
1F20 3B7+313 3B7+314 1F20+300 1F21+300 1F20+301 1F21+301 1F20+342 1F21+342 397+313 397+314
1F2A 1F28+300 1F29+300 1F28+301 1F29+301 1F28+342 1F29+342 3B9+313 3B9+314 1F30+300 1F31+300
1F34 1F30+301 1F31+301 1F30+342 1F31+342 399+313 399+314 1F38+300 1F39+300 1F38+301 1F39+301
1F3E 1F38+342 1F39+342 3BF+313 3BF+314 1F40+300 1F41+300 1F40+301 1F41+301
1F48 39F+313 39F+314 1F48+300 1F49+300 1F48+301 1F49+301
1F50 3C5+313 3C5+314 1F50+300 1F51+300 1F50+301 1F51+301 1F50+342 1F51+342
1F59 3A5+314
1F5B 1F59+300
1F5D 1F59+301
1F5F 1F59+342 3C9+313 3C9+314 1F60+300 1F61+300 1F60+301 1F61+301 1F60+342 1F61+342 3A9+313
1F69 3A9+314 1F68+300 1F69+300 1F68+301 1F69+301 1F68+342 1F69+342 3B1+300
1F72 3B5+300
1F74 3B7+300
1F76 3B9+300
1F78 3BF+300
1F7A 3C5+300
1F7C 3C9+300
1F80 1F00+345 1F01+345 1F02+345 1F03+345 1F04+345 1F05+345 1F06+345 1F07+345 1F08+345 1F09+345
1F8A 1F0A+345 1F0B+345 1F0C+345 1F0D+345 1F0E+345 1F0F+345 1F20+345 1F21+345 1F22+345 1F23+345
1F94 1F24+345 1F25+345 1F26+345 1F27+345 1F28+345 1F29+345 1F2A+345 1F2B+345 1F2C+345 1F2D+345
1F9E 1F2E+345 1F2F+345 1F60+345 1F61+345 1F62+345 1F63+345 1F64+345 1F65+345 1F66+345 1F67+345
1FA8 1F68+345 1F69+345 1F6A+345 1F6B+345 1F6C+345 1F6D+345 1F6E+345 1F6F+345 3B1+306 3B1+304
1FB2 1F70+345 3B1+345 3AC+345
1FB6 3B1+342 1FB6+345 391+306 391+304 391+300
1FBC 391+345
1FC1 A8+342 1F74+345 3B7+345 3AE+345
1FC6 3B7+342 1FC6+345 395+300
1FCA 397+300
1FCC 397+345 1FBF+300 1FBF+301 1FBF+342 3B9+306 3B9+304 3CA+300
1FD6 3B9+342 3CA+342 399+306 399+304 399+300
1FDD 1FFE+300 1FFE+301 1FFE+342 3C5+306 3C5+304 3CB+300
1FE4 3C1+313 3C1+314 3C5+342 3CB+342 3A5+306 3A5+304 3A5+300
1FEC 3A1+314 A8+300
1FF2 1F7C+345 3C9+345 3CE+345
1FF6 3C9+342 1FF6+345 39F+300
1FFA 3A9+300
1FFC 3A9+345
219A 2190+338 2192+338
21AE 2194+338
21CD 21D0+338 21D4+338 21D2+338
2204 2203+338
2209 2208+338
220C 220B+338
2224 2223+338
2226 2225+338
2241 223C+338
2244 2243+338
2247 2245+338
2249 2248+338
2260 3D+338
2262 2261+338
226D 224D+338 3C+338 3E+338 2264+338 2265+338
2274 2272+338 2273+338
2278 2276+338 2277+338
2280 227A+338 227B+338
2284 2282+338 2283+338
2288 2286+338 2287+338
22AC 22A2+338 22A8+338 22A9+338 22AB+338
22E0 227C+338 227D+338 2291+338 2292+338
22EA 22B2+338 22B3+338 22B4+338 22B5+338
304C 304B+3099
304E 304D+3099
3050 304F+3099
3052 3051+3099
3054 3053+3099
3056 3055+3099
3058 3057+3099
305A 3059+3099
305C 305B+3099
305E 305D+3099
3060 305F+3099
3062 3061+3099
3065 3064+3099
3067 3066+3099
3069 3068+3099
3070 306F+3099 306F+309A
3073 3072+3099 3072+309A
3076 3075+3099 3075+309A
3079 3078+3099 3078+309A
307C 307B+3099 307B+309A
3094 3046+3099
309E 309D+3099
30AC 30AB+3099
30AE 30AD+3099
30B0 30AF+3099
30B2 30B1+3099
30B4 30B3+3099
30B6 30B5+3099
30B8 30B7+3099
30BA 30B9+3099
30BC 30BB+3099
30BE 30BD+3099
30C0 30BF+3099
30C2 30C1+3099
30C5 30C4+3099
30C7 30C6+3099
30C9 30C8+3099
30D0 30CF+3099 30CF+309A
30D3 30D2+3099 30D2+309A
30D6 30D5+3099 30D5+309A
30D9 30D8+3099 30D8+309A
30DC 30DB+3099 30DB+309A
30F4 30A6+3099
30F7 30EF+3099 30F0+3099 30F1+3099 30F2+3099
30FE 30FD+3099
1109A 11099+110BA
1109C 1109B+110BA
110AB 110A5+110BA
1112E 11131+11127 11132+11127
1134B 11347+1133E 11347+11357
114BB 114B9+114BA 114B9+114B0
114BE 114B9+114BD
115BA 115B8+115AF 115B9+115AF
11938 11935+11930"

/-- The code points that are marks, as ranges with their class. -/
def markClasses : List (Nat × Nat × Nat) :=
  [(0x300, 0x314, 230), (0x315, 0x315, 232), (0x316, 0x319, 220), (0x31A, 0x31A, 232),
   (0x31B, 0x31B, 216), (0x31C, 0x320, 220), (0x321, 0x322, 202), (0x323, 0x326, 220),
   (0x327, 0x328, 202), (0x329, 0x333, 220), (0x334, 0x338, 1), (0x339, 0x33C, 220),
   (0x33D, 0x344, 230), (0x345, 0x345, 240), (0x346, 0x346, 230), (0x347, 0x349, 220),
   (0x34A, 0x34C, 230), (0x34D, 0x34E, 220), (0x350, 0x352, 230), (0x353, 0x356, 220),
   (0x357, 0x357, 230), (0x358, 0x358, 232), (0x359, 0x35A, 220), (0x35B, 0x35B, 230),
   (0x35C, 0x35C, 233), (0x35D, 0x35E, 234), (0x35F, 0x35F, 233), (0x360, 0x361, 234),
   (0x362, 0x362, 233), (0x363, 0x36F, 230), (0x483, 0x487, 230), (0x591, 0x591, 220),
   (0x592, 0x595, 230), (0x596, 0x596, 220), (0x597, 0x599, 230), (0x59A, 0x59A, 222),
   (0x59B, 0x59B, 220), (0x59C, 0x5A1, 230), (0x5A2, 0x5A7, 220), (0x5A8, 0x5A9, 230),
   (0x5AA, 0x5AA, 220), (0x5AB, 0x5AC, 230), (0x5AD, 0x5AD, 222), (0x5AE, 0x5AE, 228),
   (0x5AF, 0x5AF, 230), (0x5B0, 0x5B0, 10), (0x5B1, 0x5B1, 11), (0x5B2, 0x5B2, 12),
   (0x5B3, 0x5B3, 13), (0x5B4, 0x5B4, 14), (0x5B5, 0x5B5, 15), (0x5B6, 0x5B6, 16),
   (0x5B7, 0x5B7, 17), (0x5B8, 0x5B8, 18), (0x5B9, 0x5BA, 19), (0x5BB, 0x5BB, 20),
   (0x5BC, 0x5BC, 21), (0x5BD, 0x5BD, 22), (0x5BF, 0x5BF, 23), (0x5C1, 0x5C1, 24),
   (0x5C2, 0x5C2, 25), (0x5C4, 0x5C4, 230), (0x5C5, 0x5C5, 220), (0x5C7, 0x5C7, 18),
   (0x610, 0x617, 230), (0x618, 0x618, 30), (0x619, 0x619, 31), (0x61A, 0x61A, 32),
   (0x64B, 0x64B, 27), (0x64C, 0x64C, 28), (0x64D, 0x64D, 29), (0x64E, 0x64E, 30),
   (0x64F, 0x64F, 31), (0x650, 0x650, 32), (0x651, 0x651, 33), (0x652, 0x652, 34),
   (0x653, 0x654, 230), (0x655, 0x656, 220), (0x657, 0x65B, 230), (0x65C, 0x65C, 220),
   (0x65D, 0x65E, 230), (0x65F, 0x65F, 220), (0x670, 0x670, 35), (0x6D6, 0x6DC, 230),
   (0x6DF, 0x6E2, 230), (0x6E3, 0x6E3, 220), (0x6E4, 0x6E4, 230), (0x6E7, 0x6E8, 230),
   (0x6EA, 0x6EA, 220), (0x6EB, 0x6EC, 230), (0x6ED, 0x6ED, 220), (0x711, 0x711, 36),
   (0x730, 0x730, 230), (0x731, 0x731, 220), (0x732, 0x733, 230), (0x734, 0x734, 220),
   (0x735, 0x736, 230), (0x737, 0x739, 220), (0x73A, 0x73A, 230), (0x73B, 0x73C, 220),
   (0x73D, 0x73D, 230), (0x73E, 0x73E, 220), (0x73F, 0x741, 230), (0x742, 0x742, 220),
   (0x743, 0x743, 230), (0x744, 0x744, 220), (0x745, 0x745, 230), (0x746, 0x746, 220),
   (0x747, 0x747, 230), (0x748, 0x748, 220), (0x749, 0x74A, 230), (0x7EB, 0x7F1, 230),
   (0x7F2, 0x7F2, 220), (0x7F3, 0x7F3, 230), (0x7FD, 0x7FD, 220), (0x816, 0x819, 230),
   (0x81B, 0x823, 230), (0x825, 0x827, 230), (0x829, 0x82D, 230), (0x859, 0x85B, 220),
   (0x898, 0x898, 230), (0x899, 0x89B, 220), (0x89C, 0x89F, 230), (0x8CA, 0x8CE, 230),
   (0x8CF, 0x8D3, 220), (0x8D4, 0x8E1, 230), (0x8E3, 0x8E3, 220), (0x8E4, 0x8E5, 230),
   (0x8E6, 0x8E6, 220), (0x8E7, 0x8E8, 230), (0x8E9, 0x8E9, 220), (0x8EA, 0x8EC, 230),
   (0x8ED, 0x8EF, 220), (0x8F0, 0x8F0, 27), (0x8F1, 0x8F1, 28), (0x8F2, 0x8F2, 29),
   (0x8F3, 0x8F5, 230), (0x8F6, 0x8F6, 220), (0x8F7, 0x8F8, 230), (0x8F9, 0x8FA, 220),
   (0x8FB, 0x8FF, 230), (0x93C, 0x93C, 7), (0x94D, 0x94D, 9), (0x951, 0x951, 230),
   (0x952, 0x952, 220), (0x953, 0x954, 230), (0x9BC, 0x9BC, 7), (0x9CD, 0x9CD, 9),
   (0x9FE, 0x9FE, 230), (0xA3C, 0xA3C, 7), (0xA4D, 0xA4D, 9), (0xABC, 0xABC, 7),
   (0xACD, 0xACD, 9), (0xB3C, 0xB3C, 7), (0xB4D, 0xB4D, 9), (0xBCD, 0xBCD, 9), (0xC3C, 0xC3C, 7),
   (0xC4D, 0xC4D, 9), (0xC55, 0xC55, 84), (0xC56, 0xC56, 91), (0xCBC, 0xCBC, 7),
   (0xCCD, 0xCCD, 9), (0xD3B, 0xD3C, 9), (0xD4D, 0xD4D, 9), (0xDCA, 0xDCA, 9),
   (0xE38, 0xE39, 103), (0xE3A, 0xE3A, 9), (0xE48, 0xE4B, 107), (0xEB8, 0xEB9, 118),
   (0xEBA, 0xEBA, 9), (0xEC8, 0xECB, 122), (0xF18, 0xF19, 220), (0xF35, 0xF35, 220),
   (0xF37, 0xF37, 220), (0xF39, 0xF39, 216), (0xF71, 0xF71, 129), (0xF72, 0xF72, 130),
   (0xF74, 0xF74, 132), (0xF7A, 0xF7D, 130), (0xF80, 0xF80, 130), (0xF82, 0xF83, 230),
   (0xF84, 0xF84, 9), (0xF86, 0xF87, 230), (0xFC6, 0xFC6, 220), (0x1037, 0x1037, 7),
   (0x1039, 0x103A, 9), (0x108D, 0x108D, 220), (0x135D, 0x135F, 230), (0x1714, 0x1715, 9),
   (0x1734, 0x1734, 9), (0x17D2, 0x17D2, 9), (0x17DD, 0x17DD, 230), (0x18A9, 0x18A9, 228),
   (0x1939, 0x1939, 222), (0x193A, 0x193A, 230), (0x193B, 0x193B, 220), (0x1A17, 0x1A17, 230),
   (0x1A18, 0x1A18, 220), (0x1A60, 0x1A60, 9), (0x1A75, 0x1A7C, 230), (0x1A7F, 0x1A7F, 220),
   (0x1AB0, 0x1AB4, 230), (0x1AB5, 0x1ABA, 220), (0x1ABB, 0x1ABC, 230), (0x1ABD, 0x1ABD, 220),
   (0x1ABF, 0x1AC0, 220), (0x1AC1, 0x1AC2, 230), (0x1AC3, 0x1AC4, 220), (0x1AC5, 0x1AC9, 230),
   (0x1ACA, 0x1ACA, 220), (0x1ACB, 0x1ACE, 230), (0x1B34, 0x1B34, 7), (0x1B44, 0x1B44, 9),
   (0x1B6B, 0x1B6B, 230), (0x1B6C, 0x1B6C, 220), (0x1B6D, 0x1B73, 230), (0x1BAA, 0x1BAB, 9),
   (0x1BE6, 0x1BE6, 7), (0x1BF2, 0x1BF3, 9), (0x1C37, 0x1C37, 7), (0x1CD0, 0x1CD2, 230),
   (0x1CD4, 0x1CD4, 1), (0x1CD5, 0x1CD9, 220), (0x1CDA, 0x1CDB, 230), (0x1CDC, 0x1CDF, 220),
   (0x1CE0, 0x1CE0, 230), (0x1CE2, 0x1CE8, 1), (0x1CED, 0x1CED, 220), (0x1CF4, 0x1CF4, 230),
   (0x1CF8, 0x1CF9, 230), (0x1DC0, 0x1DC1, 230), (0x1DC2, 0x1DC2, 220), (0x1DC3, 0x1DC9, 230),
   (0x1DCA, 0x1DCA, 220), (0x1DCB, 0x1DCC, 230), (0x1DCD, 0x1DCD, 234), (0x1DCE, 0x1DCE, 214),
   (0x1DCF, 0x1DCF, 220), (0x1DD0, 0x1DD0, 202), (0x1DD1, 0x1DF5, 230), (0x1DF6, 0x1DF6, 232),
   (0x1DF7, 0x1DF8, 228), (0x1DF9, 0x1DF9, 220), (0x1DFA, 0x1DFA, 218), (0x1DFB, 0x1DFB, 230),
   (0x1DFC, 0x1DFC, 233), (0x1DFD, 0x1DFD, 220), (0x1DFE, 0x1DFE, 230), (0x1DFF, 0x1DFF, 220),
   (0x20D0, 0x20D1, 230), (0x20D2, 0x20D3, 1), (0x20D4, 0x20D7, 230), (0x20D8, 0x20DA, 1),
   (0x20DB, 0x20DC, 230), (0x20E1, 0x20E1, 230), (0x20E5, 0x20E6, 1), (0x20E7, 0x20E7, 230),
   (0x20E8, 0x20E8, 220), (0x20E9, 0x20E9, 230), (0x20EA, 0x20EB, 1), (0x20EC, 0x20EF, 220),
   (0x20F0, 0x20F0, 230), (0x2CEF, 0x2CF1, 230), (0x2D7F, 0x2D7F, 9), (0x2DE0, 0x2DFF, 230),
   (0x302A, 0x302A, 218), (0x302B, 0x302B, 228), (0x302C, 0x302C, 232), (0x302D, 0x302D, 222),
   (0x302E, 0x302F, 224), (0x3099, 0x309A, 8), (0xA66F, 0xA66F, 230), (0xA674, 0xA67D, 230),
   (0xA69E, 0xA69F, 230), (0xA6F0, 0xA6F1, 230), (0xA806, 0xA806, 9), (0xA82C, 0xA82C, 9),
   (0xA8C4, 0xA8C4, 9), (0xA8E0, 0xA8F1, 230), (0xA92B, 0xA92D, 220), (0xA953, 0xA953, 9),
   (0xA9B3, 0xA9B3, 7), (0xA9C0, 0xA9C0, 9), (0xAAB0, 0xAAB0, 230), (0xAAB2, 0xAAB3, 230),
   (0xAAB4, 0xAAB4, 220), (0xAAB7, 0xAAB8, 230), (0xAABE, 0xAABF, 230), (0xAAC1, 0xAAC1, 230),
   (0xAAF6, 0xAAF6, 9), (0xABED, 0xABED, 9), (0xFB1E, 0xFB1E, 26), (0xFE20, 0xFE26, 230),
   (0xFE27, 0xFE2D, 220), (0xFE2E, 0xFE2F, 230), (0x101FD, 0x101FD, 220), (0x102E0, 0x102E0, 220),
   (0x10376, 0x1037A, 230), (0x10A0D, 0x10A0D, 220), (0x10A0F, 0x10A0F, 230),
   (0x10A38, 0x10A38, 230), (0x10A39, 0x10A39, 1), (0x10A3A, 0x10A3A, 220), (0x10A3F, 0x10A3F, 9),
   (0x10AE5, 0x10AE5, 230), (0x10AE6, 0x10AE6, 220), (0x10D24, 0x10D27, 230),
   (0x10EAB, 0x10EAC, 230), (0x10F46, 0x10F47, 220), (0x10F48, 0x10F4A, 230),
   (0x10F4B, 0x10F4B, 220), (0x10F4C, 0x10F4C, 230), (0x10F4D, 0x10F50, 220),
   (0x10F82, 0x10F82, 230), (0x10F83, 0x10F83, 220), (0x10F84, 0x10F84, 230),
   (0x10F85, 0x10F85, 220), (0x11046, 0x11046, 9), (0x11070, 0x11070, 9), (0x1107F, 0x1107F, 9),
   (0x110B9, 0x110B9, 9), (0x110BA, 0x110BA, 7), (0x11100, 0x11102, 230), (0x11133, 0x11134, 9),
   (0x11173, 0x11173, 7), (0x111C0, 0x111C0, 9), (0x111CA, 0x111CA, 7), (0x11235, 0x11235, 9),
   (0x11236, 0x11236, 7), (0x112E9, 0x112E9, 7), (0x112EA, 0x112EA, 9), (0x1133B, 0x1133C, 7),
   (0x1134D, 0x1134D, 9), (0x11366, 0x1136C, 230), (0x11370, 0x11374, 230), (0x11442, 0x11442, 9),
   (0x11446, 0x11446, 7), (0x1145E, 0x1145E, 230), (0x114C2, 0x114C2, 9), (0x114C3, 0x114C3, 7),
   (0x115BF, 0x115BF, 9), (0x115C0, 0x115C0, 7), (0x1163F, 0x1163F, 9), (0x116B6, 0x116B6, 9),
   (0x116B7, 0x116B7, 7), (0x1172B, 0x1172B, 9), (0x11839, 0x11839, 9), (0x1183A, 0x1183A, 7),
   (0x1193D, 0x1193E, 9), (0x11943, 0x11943, 7), (0x119E0, 0x119E0, 9), (0x11A34, 0x11A34, 9),
   (0x11A47, 0x11A47, 9), (0x11A99, 0x11A99, 9), (0x11C3F, 0x11C3F, 9), (0x11D42, 0x11D42, 7),
   (0x11D44, 0x11D45, 9), (0x11D97, 0x11D97, 9), (0x16AF0, 0x16AF4, 1), (0x16B30, 0x16B36, 230),
   (0x16FF0, 0x16FF1, 6), (0x1BC9E, 0x1BC9E, 1), (0x1D165, 0x1D166, 216), (0x1D167, 0x1D169, 1),
   (0x1D16D, 0x1D16D, 226), (0x1D16E, 0x1D172, 216), (0x1D17B, 0x1D182, 220),
   (0x1D185, 0x1D189, 230), (0x1D18A, 0x1D18B, 220), (0x1D1AA, 0x1D1AD, 230),
   (0x1D242, 0x1D244, 230), (0x1E000, 0x1E006, 230), (0x1E008, 0x1E018, 230),
   (0x1E01B, 0x1E021, 230), (0x1E023, 0x1E024, 230), (0x1E026, 0x1E02A, 230),
   (0x1E130, 0x1E136, 230), (0x1E2AE, 0x1E2AE, 230), (0x1E2EC, 0x1E2EF, 230),
   (0x1E8D0, 0x1E8D6, 220), (0x1E944, 0x1E949, 230), (0x1E94A, 0x1E94A, 7)]

/-- The code points that no label may hold. -/
def forbiddenRanges : List (Nat × Nat) :=
  [(0x80, 0xA0), (0x340, 0x341), (0x6DD, 0x6DD), (0x70F, 0x70F), (0x1680, 0x1680),
   (0x180E, 0x180E), (0x2000, 0x200F), (0x2028, 0x202F), (0x205F, 0x2063), (0x206A, 0x206F),
   (0x2FF0, 0x2FFB), (0x3000, 0x3000), (0xD800, 0xF8FF), (0xFDD0, 0xFDEF), (0xFEFF, 0xFEFF),
   (0xFFF9, 0xFFFF), (0x1D173, 0x1D17A), (0x1FFFE, 0x1FFFF), (0x2FFFE, 0x2FFFF),
   (0x3FFFE, 0x3FFFF), (0x4FFFE, 0x4FFFF), (0x5FFFE, 0x5FFFF), (0x6FFFE, 0x6FFFF),
   (0x7FFFE, 0x7FFFF), (0x8FFFE, 0x8FFFF), (0x9FFFE, 0x9FFFF), (0xAFFFE, 0xAFFFF),
   (0xBFFFE, 0xBFFFF), (0xCFFFE, 0xCFFFF), (0xDFFFE, 0xDFFFF), (0xE0001, 0xE0001),
   (0xE0020, 0xE007F), (0xEFFFE, 0x10FFFF)]

/-- The letters that are written from the right to the left. -/
def rightToLeftRanges : List (Nat × Nat) :=
  [(0x5BE, 0x5BE), (0x5C0, 0x5C0), (0x5C3, 0x5C3), (0x5D0, 0x5EA), (0x5F0, 0x5F4), (0x61B, 0x61B),
   (0x61F, 0x61F), (0x621, 0x63A), (0x640, 0x64A), (0x66D, 0x66F), (0x671, 0x6D5), (0x6DD, 0x6DD),
   (0x6E5, 0x6E6), (0x6FA, 0x6FE), (0x700, 0x70D), (0x710, 0x710), (0x712, 0x72C), (0x780, 0x7A5),
   (0x7B1, 0x7B1), (0x200F, 0x200F), (0xFB1D, 0xFB1D), (0xFB1F, 0xFB28), (0xFB2A, 0xFB36),
   (0xFB38, 0xFB3C), (0xFB3E, 0xFB3E), (0xFB40, 0xFB41), (0xFB43, 0xFB44), (0xFB46, 0xFBB1),
   (0xFBD3, 0xFD3D), (0xFD50, 0xFD8F), (0xFD92, 0xFDC7), (0xFDF0, 0xFDFC), (0xFE70, 0xFE74),
   (0xFE76, 0xFEFC)]

/-- The letters that are written from the left to the right. -/
def leftToRightRanges : List (Nat × Nat) :=
  [(0x41, 0x5A), (0x61, 0x7A), (0xAA, 0xAA), (0xB5, 0xB5), (0xBA, 0xBA), (0xC0, 0xD6),
   (0xD8, 0xF6), (0xF8, 0x220), (0x222, 0x233), (0x250, 0x2AD), (0x2B0, 0x2B8), (0x2BB, 0x2C1),
   (0x2D0, 0x2D1), (0x2E0, 0x2E4), (0x2EE, 0x2EE), (0x37A, 0x37A), (0x386, 0x386), (0x388, 0x38A),
   (0x38C, 0x38C), (0x38E, 0x3A1), (0x3A3, 0x3CE), (0x3D0, 0x3F5), (0x400, 0x482), (0x48A, 0x4CE),
   (0x4D0, 0x4F5), (0x4F8, 0x4F9), (0x500, 0x50F), (0x531, 0x556), (0x559, 0x55F), (0x561, 0x587),
   (0x589, 0x589), (0x903, 0x903), (0x905, 0x939), (0x93D, 0x940), (0x949, 0x94C), (0x950, 0x950),
   (0x958, 0x961), (0x964, 0x970), (0x982, 0x983), (0x985, 0x98C), (0x98F, 0x990), (0x993, 0x9A8),
   (0x9AA, 0x9B0), (0x9B2, 0x9B2), (0x9B6, 0x9B9), (0x9BE, 0x9C0), (0x9C7, 0x9C8), (0x9CB, 0x9CC),
   (0x9D7, 0x9D7), (0x9DC, 0x9DD), (0x9DF, 0x9E1), (0x9E6, 0x9F1), (0x9F4, 0x9FA), (0xA05, 0xA0A),
   (0xA0F, 0xA10), (0xA13, 0xA28), (0xA2A, 0xA30), (0xA32, 0xA33), (0xA35, 0xA36), (0xA38, 0xA39),
   (0xA3E, 0xA40), (0xA59, 0xA5C), (0xA5E, 0xA5E), (0xA66, 0xA6F), (0xA72, 0xA74), (0xA83, 0xA83),
   (0xA85, 0xA8B), (0xA8D, 0xA8D), (0xA8F, 0xA91), (0xA93, 0xAA8), (0xAAA, 0xAB0), (0xAB2, 0xAB3),
   (0xAB5, 0xAB9), (0xABD, 0xAC0), (0xAC9, 0xAC9), (0xACB, 0xACC), (0xAD0, 0xAD0), (0xAE0, 0xAE0),
   (0xAE6, 0xAEF), (0xB02, 0xB03), (0xB05, 0xB0C), (0xB0F, 0xB10), (0xB13, 0xB28), (0xB2A, 0xB30),
   (0xB32, 0xB33), (0xB36, 0xB39), (0xB3D, 0xB3E), (0xB40, 0xB40), (0xB47, 0xB48), (0xB4B, 0xB4C),
   (0xB57, 0xB57), (0xB5C, 0xB5D), (0xB5F, 0xB61), (0xB66, 0xB70), (0xB83, 0xB83), (0xB85, 0xB8A),
   (0xB8E, 0xB90), (0xB92, 0xB95), (0xB99, 0xB9A), (0xB9C, 0xB9C), (0xB9E, 0xB9F), (0xBA3, 0xBA4),
   (0xBA8, 0xBAA), (0xBAE, 0xBB5), (0xBB7, 0xBB9), (0xBBE, 0xBBF), (0xBC1, 0xBC2), (0xBC6, 0xBC8),
   (0xBCA, 0xBCC), (0xBD7, 0xBD7), (0xBE7, 0xBF2), (0xC01, 0xC03), (0xC05, 0xC0C), (0xC0E, 0xC10),
   (0xC12, 0xC28), (0xC2A, 0xC33), (0xC35, 0xC39), (0xC41, 0xC44), (0xC60, 0xC61), (0xC66, 0xC6F),
   (0xC82, 0xC83), (0xC85, 0xC8C), (0xC8E, 0xC90), (0xC92, 0xCA8), (0xCAA, 0xCB3), (0xCB5, 0xCB9),
   (0xCBE, 0xCBE), (0xCC0, 0xCC4), (0xCC7, 0xCC8), (0xCCA, 0xCCB), (0xCD5, 0xCD6), (0xCDE, 0xCDE),
   (0xCE0, 0xCE1), (0xCE6, 0xCEF), (0xD02, 0xD03), (0xD05, 0xD0C), (0xD0E, 0xD10), (0xD12, 0xD28),
   (0xD2A, 0xD39), (0xD3E, 0xD40), (0xD46, 0xD48), (0xD4A, 0xD4C), (0xD57, 0xD57), (0xD60, 0xD61),
   (0xD66, 0xD6F), (0xD82, 0xD83), (0xD85, 0xD96), (0xD9A, 0xDB1), (0xDB3, 0xDBB), (0xDBD, 0xDBD),
   (0xDC0, 0xDC6), (0xDCF, 0xDD1), (0xDD8, 0xDDF), (0xDF2, 0xDF4), (0xE01, 0xE30), (0xE32, 0xE33),
   (0xE40, 0xE46), (0xE4F, 0xE5B), (0xE81, 0xE82), (0xE84, 0xE84), (0xE87, 0xE88), (0xE8A, 0xE8A),
   (0xE8D, 0xE8D), (0xE94, 0xE97), (0xE99, 0xE9F), (0xEA1, 0xEA3), (0xEA5, 0xEA5), (0xEA7, 0xEA7),
   (0xEAA, 0xEAB), (0xEAD, 0xEB0), (0xEB2, 0xEB3), (0xEBD, 0xEBD), (0xEC0, 0xEC4), (0xEC6, 0xEC6),
   (0xED0, 0xED9), (0xEDC, 0xEDD), (0xF00, 0xF17), (0xF1A, 0xF34), (0xF36, 0xF36), (0xF38, 0xF38),
   (0xF3E, 0xF47), (0xF49, 0xF6A), (0xF7F, 0xF7F), (0xF85, 0xF85), (0xF88, 0xF8B), (0xFBE, 0xFC5),
   (0xFC7, 0xFCC), (0xFCF, 0xFCF), (0x1000, 0x1021), (0x1023, 0x1027), (0x1029, 0x102A),
   (0x102C, 0x102C), (0x1031, 0x1031), (0x1038, 0x1038), (0x1040, 0x1057), (0x10A0, 0x10C5),
   (0x10D0, 0x10F8), (0x10FB, 0x10FB), (0x1100, 0x1159), (0x115F, 0x11A2), (0x11A8, 0x11F9),
   (0x1200, 0x1206), (0x1208, 0x1246), (0x1248, 0x1248), (0x124A, 0x124D), (0x1250, 0x1256),
   (0x1258, 0x1258), (0x125A, 0x125D), (0x1260, 0x1286), (0x1288, 0x1288), (0x128A, 0x128D),
   (0x1290, 0x12AE), (0x12B0, 0x12B0), (0x12B2, 0x12B5), (0x12B8, 0x12BE), (0x12C0, 0x12C0),
   (0x12C2, 0x12C5), (0x12C8, 0x12CE), (0x12D0, 0x12D6), (0x12D8, 0x12EE), (0x12F0, 0x130E),
   (0x1310, 0x1310), (0x1312, 0x1315), (0x1318, 0x131E), (0x1320, 0x1346), (0x1348, 0x135A),
   (0x1361, 0x137C), (0x13A0, 0x13F4), (0x1401, 0x1676), (0x1681, 0x169A), (0x16A0, 0x16F0),
   (0x1700, 0x170C), (0x170E, 0x1711), (0x1720, 0x1731), (0x1735, 0x1736), (0x1740, 0x1751),
   (0x1760, 0x176C), (0x176E, 0x1770), (0x1780, 0x17B6), (0x17BE, 0x17C5), (0x17C7, 0x17C8),
   (0x17D4, 0x17DA), (0x17DC, 0x17DC), (0x17E0, 0x17E9), (0x1810, 0x1819), (0x1820, 0x1877),
   (0x1880, 0x18A8), (0x1E00, 0x1E9B), (0x1EA0, 0x1EF9), (0x1F00, 0x1F15), (0x1F18, 0x1F1D),
   (0x1F20, 0x1F45), (0x1F48, 0x1F4D), (0x1F50, 0x1F57), (0x1F59, 0x1F59), (0x1F5B, 0x1F5B),
   (0x1F5D, 0x1F5D), (0x1F5F, 0x1F7D), (0x1F80, 0x1FB4), (0x1FB6, 0x1FBC), (0x1FBE, 0x1FBE),
   (0x1FC2, 0x1FC4), (0x1FC6, 0x1FCC), (0x1FD0, 0x1FD3), (0x1FD6, 0x1FDB), (0x1FE0, 0x1FEC),
   (0x1FF2, 0x1FF4), (0x1FF6, 0x1FFC), (0x200E, 0x200E), (0x2071, 0x2071), (0x207F, 0x207F),
   (0x2102, 0x2102), (0x2107, 0x2107), (0x210A, 0x2113), (0x2115, 0x2115), (0x2119, 0x211D),
   (0x2124, 0x2124), (0x2126, 0x2126), (0x2128, 0x2128), (0x212A, 0x212D), (0x212F, 0x2131),
   (0x2133, 0x2139), (0x213D, 0x213F), (0x2145, 0x2149), (0x2160, 0x2183), (0x2336, 0x237A),
   (0x2395, 0x2395), (0x249C, 0x24E9), (0x3005, 0x3007), (0x3021, 0x3029), (0x3031, 0x3035),
   (0x3038, 0x303C), (0x3041, 0x3096), (0x309D, 0x309F), (0x30A1, 0x30FA), (0x30FC, 0x30FF),
   (0x3105, 0x312C), (0x3131, 0x318E), (0x3190, 0x31B7), (0x31F0, 0x321C), (0x3220, 0x3243),
   (0x3260, 0x327B), (0x327F, 0x32B0), (0x32C0, 0x32CB), (0x32D0, 0x32FE), (0x3300, 0x3376),
   (0x337B, 0x33DD), (0x33E0, 0x33FE), (0x3400, 0x4DB5), (0x4E00, 0x9FA5), (0xA000, 0xA48C),
   (0xAC00, 0xD7A3), (0xD800, 0xFA2D), (0xFA30, 0xFA6A), (0xFB00, 0xFB06), (0xFB13, 0xFB17),
   (0xFF21, 0xFF3A), (0xFF41, 0xFF5A), (0xFF66, 0xFFBE), (0xFFC2, 0xFFC7), (0xFFCA, 0xFFCF),
   (0xFFD2, 0xFFD7), (0xFFDA, 0xFFDC), (0x10300, 0x1031E), (0x10320, 0x10323), (0x10330, 0x1034A),
   (0x10400, 0x10425), (0x10428, 0x1044D), (0x1D000, 0x1D0F5), (0x1D100, 0x1D126),
   (0x1D12A, 0x1D166), (0x1D16A, 0x1D172), (0x1D183, 0x1D184), (0x1D18C, 0x1D1A9),
   (0x1D1AE, 0x1D1DD), (0x1D400, 0x1D454), (0x1D456, 0x1D49C), (0x1D49E, 0x1D49F),
   (0x1D4A2, 0x1D4A2), (0x1D4A5, 0x1D4A6), (0x1D4A9, 0x1D4AC), (0x1D4AE, 0x1D4B9),
   (0x1D4BB, 0x1D4BB), (0x1D4BD, 0x1D4C0), (0x1D4C2, 0x1D4C3), (0x1D4C5, 0x1D505),
   (0x1D507, 0x1D50A), (0x1D50D, 0x1D514), (0x1D516, 0x1D51C), (0x1D51E, 0x1D539),
   (0x1D53B, 0x1D53E), (0x1D540, 0x1D544), (0x1D546, 0x1D546), (0x1D54A, 0x1D550),
   (0x1D552, 0x1D6A3), (0x1D6A8, 0x1D7C9), (0x20000, 0x2A6D6), (0x2F800, 0x2FA1D),
   (0xF0000, 0xFFFFD), (0x100000, 0x10FFFD)]

end TokenLens.Label
