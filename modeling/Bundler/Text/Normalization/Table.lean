/-!
# Decompositions, combining classes and compositions

The data of the normalization of identifiers, from Unicode 14: how compatibility characters
decompose, the combining classes by which marks are ordered, and the pairs that compose into one
character. Hangul syllables follow a rule and stand in no table.
-/

set_option autoImplicit false

namespace Bundler.Text.Normalization

/-- The digit zero, the first character of identifiers. -/
def firstPoint : Nat := 0x30

/-- Full compatibility decompositions of the characters that may stand in an identifier. Each entry
is the distance from the character before it, the number of characters after the first one that it
decomposes into, and the characters that it decomposes into, counted from `firstPoint`. -/
def decompositionText : String := "aa 0 31 b 0 38c 5 0 3f 6 1 11 2d0 1 1 11 2d1 1 1 11 2d2 1 1 11 2d3 1 1 11 2d8 1 1 11 2da 2 1 13
2f7 1 1 15 2d0 1 1 15 2d1 1 1 15 2d2 1 1 15 2d8 1 1 19 2d0 1 1 19 2d1 1 1 19 2d2 1 1 19 2d8 2 1
1e 2d3 1 1 1f 2d0 1 1 1f 2d1 1 1 1f 2d2 1 1 1f 2d3 1 1 1f 2d8 3 1 25 2d0 1 1 25 2d1 1 1 25 2d2 1
1 25 2d8 1 1 29 2d1 3 1 31 2d0 1 1 31 2d1 1 1 31 2d2 1 1 31 2d3 1 1 31 2d8 1 1 31 2da 2 1 33 2f7
1 1 35 2d0 1 1 35 2d1 1 1 35 2d2 1 1 35 2d8 1 1 39 2d0 1 1 39 2d1 1 1 39 2d2 1 1 39 2d8 2 1 3e
2d3 1 1 3f 2d0 1 1 3f 2d1 1 1 3f 2d2 1 1 3f 2d3 1 1 3f 2d8 3 1 45 2d0 1 1 45 2d1 1 1 45 2d2 1 1
45 2d8 1 1 49 2d1 2 1 49 2d8 1 1 11 2d4 1 1 31 2d4 1 1 11 2d6 1 1 31 2d6 1 1 11 2f8 1 1 31 2f8 1
1 13 2d1 1 1 33 2d1 1 1 13 2d2 1 1 33 2d2 1 1 13 2d7 1 1 33 2d7 1 1 13 2dc 1 1 33 2dc 1 1 14 2dc
1 1 34 2dc 3 1 15 2d4 1 1 35 2d4 1 1 15 2d6 1 1 35 2d6 1 1 15 2d7 1 1 35 2d7 1 1 15 2f8 1 1 35
2f8 1 1 15 2dc 1 1 35 2dc 1 1 17 2d2 1 1 37 2d2 1 1 17 2d6 1 1 37 2d6 1 1 17 2d7 1 1 37 2d7 1 1
17 2f7 1 1 37 2f7 1 1 18 2d2 1 1 38 2d2 3 1 19 2d3 1 1 39 2d3 1 1 19 2d4 1 1 39 2d4 1 1 19 2d6 1
1 39 2d6 1 1 19 2f8 1 1 39 2f8 1 1 19 2d7 2 1 19 1a 1 1 39 3a 1 1 1a 2d2 1 1 3a 2d2 1 1 1b 2f7 1
1 3b 2f7 2 1 1c 2d1 1 1 3c 2d1 1 1 1c 2f7 1 1 3c 2f7 1 1 1c 2dc 1 1 3c 2dc 1 1 1c 87 1 1 3c 87 3
1 1e 2d1 1 1 3e 2d1 1 1 1e 2f7 1 1 3e 2f7 1 1 1e 2dc 1 1 3e 2dc 1 1 28c 3e 3 1 1f 2d4 1 1 3f 2d4
1 1 1f 2d6 1 1 3f 2d6 1 1 1f 2db 1 1 3f 2db 3 1 22 2d1 1 1 42 2d1 1 1 22 2f7 1 1 42 2f7 1 1 22
2dc 1 1 42 2dc 1 1 23 2d1 1 1 43 2d1 1 1 23 2d2 1 1 43 2d2 1 1 23 2f7 1 1 43 2f7 1 1 23 2dc 1 1
43 2dc 1 1 24 2f7 1 1 44 2f7 1 1 24 2dc 1 1 44 2dc 3 1 25 2d3 1 1 45 2d3 1 1 25 2d4 1 1 45 2d4 1
1 25 2d6 1 1 45 2d6 1 1 25 2da 1 1 45 2da 1 1 25 2db 1 1 45 2db 1 1 25 2f8 1 1 45 2f8 1 1 27 2d2
1 1 47 2d2 1 1 29 2d2 1 1 49 2d2 1 1 29 2d8 1 1 2a 2d1 1 1 4a 2d1 1 1 2a 2d7 1 1 4a 2d7 1 1 2a
2dc 1 1 4a 2dc 1 0 43 21 1 1f 2eb 1 1 3f 2eb e 1 25 2eb 1 1 45 2eb 14 2 14 2a 2dc 1 2 14 4a 2dc 1
2 34 4a 2dc 1 1 1c 1a 1 1 1c 3a 1 1 3c 3a 1 1 1e 1a 1 1 1e 3a 1 1 3e 3a 1 1 11 2dc 1 1 31 2dc 1 1
19 2dc 1 1 39 2dc 1 1 1f 2dc 1 1 3f 2dc 1 1 25 2dc 1 1 45 2dc 1 2 25 2d8 2d4 1 2 45 2d8 2d4 1 2
25 2d8 2d1 1 2 45 2d8 2d1 1 2 25 2d8 2dc 1 2 45 2d8 2dc 1 2 25 2d8 2d0 1 2 45 2d8 2d0 2 2 11 2d8
2d4 1 2 31 2d8 2d4 1 2 11 2d7 2d4 1 2 31 2d7 2d4 1 1 96 2d4 1 1 b6 2d4 3 1 17 2dc 1 1 37 2dc 1 1
1b 2dc 1 1 3b 2dc 1 1 1f 2f8 1 1 3f 2f8 1 2 1f 2f8 2d4 1 2 3f 2f8 2d4 1 1 187 2dc 1 1 262 2dc 1 1
3a 2dc 1 1 14 2a 1 1 14 4a 1 1 34 4a 1 1 17 2d1 1 1 37 2d1 3 1 1e 2d0 1 1 3e 2d0 1 2 11 2da 2d1 1
2 31 2da 2d1 1 1 96 2d1 1 1 b6 2d1 1 1 a8 2d1 1 1 c8 2d1 1 1 11 2df 1 1 31 2df 1 1 11 2e1 1 1 31
2e1 1 1 15 2df 1 1 35 2df 1 1 15 2e1 1 1 35 2e1 1 1 19 2df 1 1 39 2df 1 1 19 2e1 1 1 39 2e1 1 1
1f 2df 1 1 3f 2df 1 1 1f 2e1 1 1 3f 2e1 1 1 22 2df 1 1 42 2df 1 1 22 2e1 1 1 42 2e1 1 1 25 2df 1
1 45 2df 1 1 25 2e1 1 1 45 2e1 1 1 23 2f6 1 1 43 2f6 1 1 24 2f6 1 1 44 2f6 3 1 18 2dc 1 1 38 2dc
7 1 11 2d7 1 1 31 2d7 1 1 15 2f7 1 1 35 2f7 1 2 1f 2d8 2d4 1 2 3f 2d8 2d4 1 2 1f 2d3 2d4 1 2 3f
2d3 2d4 1 1 1f 2d7 1 1 3f 2d7 1 2 1f 2d7 2d4 1 2 3f 2d7 2d4 1 1 29 2d4 1 1 49 2d4 7d 0 38 1 0 236
1 0 3a 1 0 42 1 0 249 1 0 24b 1 0 251 1 0 47 1 0 49 28 0 233 1 0 3c 1 0 43 1 0 48 1 0 265 5c 0
2d0 1 0 2d1 2 0 2e3 1 1 2d8 2d1 30 0 289 12 1 361 2d1 1 0 87 1 1 365 2d1 1 1 367 2d1 1 1 369 2d1
2 1 36f 2d1 2 1 375 2d1 1 1 379 2d1 1 2 389 2d8 2d1 1a 1 369 2d8 1 1 375 2d8 1 1 381 2d1 1 1 385
2d1 1 1 387 2d1 1 1 389 2d1 1 2 395 2d8 2d1 1a 1 389 2d8 1 1 395 2d8 1 1 38f 2d1 1 1 395 2d1 1 1
399 2d1 2 0 382 1 0 388 1 0 375 1 1 375 2d1 1 1 375 2d8 1 0 396 1 0 390 1a 0 38a 1 0 391 1 0 392
2 0 368 1 0 385 4 0 373 7 1 3e5 2d0 1 1 3e5 2d8 2 1 3e3 2d1 4 1 3d6 2d8 5 1 3ea 2d1 1 1 3e8 2d0 1
1 3f3 2d6 b 1 3e8 2d6 20 1 408 2d6 17 1 405 2d0 1 1 405 2d8 2 1 403 2d1 4 1 426 2d8 5 1 40a 2d1 1
1 408 2d0 1 1 413 2d6 18 1 444 2df 1 1 445 2df 4a 1 3e6 2d6 1 1 406 2d6 e 1 3e0 2d6 1 1 400 2d6 1
1 3e0 2d8 1 1 400 2d8 3 1 3e5 2d6 1 1 405 2d6 3 1 4a8 2d8 1 1 4a9 2d8 1 1 3e6 2d8 1 1 406 2d8 1 1
3e7 2d8 1 1 407 2d8 3 1 3e8 2d4 1 1 408 2d4 1 1 3e8 2d8 1 1 408 2d8 1 1 3ee 2d8 1 1 40e 2d8 3 1
4b8 2d8 1 1 4b9 2d8 1 1 3fd 2d8 1 1 41d 2d8 1 1 3f3 2d4 1 1 413 2d4 1 1 3f3 2d8 1 1 413 2d8 1 1
3f3 2db 1 1 413 2db 1 1 3f7 2d8 1 1 417 2d8 3 1 3fb 2d8 1 1 41b 2d8 8e 1 535 552 9b 1 5f7 623 1 1
5f7 624 1 1 618 624 1 1 5f7 625 1 1 61a 624 4f 1 5f7 644 1 1 618 644 1 1 697 644 1 1 61a 644 48 1
6a5 624 2 1 691 624 11 1 6a2 624 256 1 8f8 90c 8 1 900 90c 3 1 903 90c 24 1 8e5 90c 1 1 8e6 90c 1
1 8e7 90c 1 1 8ec 90c 1 1 8f1 90c 1 1 8f2 90c 1 1 8fb 90c 1 1 8ff 90c 6c 1 997 98e 1 1 997 9a7 10
1 971 98c 1 1 972 98c 2 1 97f 98c 54 1 a02 a0c 3 1 a08 a0c 23 1 9e6 a0c 1 1 9e7 a0c 1 1 9ec a0c 3
1 9fb a0c ea 1 b17 b26 3 1 b17 b0e 1 1 b17 b27 10 1 af1 b0c 1 1 af2 b0c 37 1 b62 ba7 36 1 b96 b8e
1 1 b97 b8e 1 1 b96 ba7 7c 1 c16 c26 78 1 c8f ca5 7 1 c96 ca5 1 1 c96 ca6 2 1 c96 c92 1 2 c96 c92
ca5 7f 1 d16 d0e 1 1 d17 d0e 1 1 d16 d27 8e 1 da9 d9a 2 1 da9 d9f 1 2 da9 d9f d9a 1 1 da9 daf 55
1 e1d e02 80 1 e9d e82 29 1 e7b e69 1 1 e7b e71 66 1 f12 f87 a 1 f1c f87 5 1 f21 f87 5 1 f26 f87
5 1 f2b f87 d 1 f10 f85 a 1 f41 f42 2 1 f41 f44 1 1 f82 f50 1 2 f82 f41 f50 1 1 f83 f50 1 2 f83
f41 f50 8 1 f41 f50 12 1 f62 f87 a 1 f6c f87 5 1 f71 f87 5 1 f76 f87 5 1 f7b f87 d 1 f60 f85 6d 1
ff5 ffe d6 0 10ac a0a 1 1ad5 1b05 2 1 1ad7 1b05 2 1 1ad9 1b05 2 1 1adb 1b05 2 1 1add 1b05 4 1
1ae1 1b05 29 1 1b0a 1b05 2 1 1b0c 1b05 3 1 1b0e 1b05 1 1 1b0f 1b05 2 1 1b12 1b05 1e9 0 11 1 0 96
1 0 12 2 0 14 1 0 15 1 0 15e 1 0 17 1 0 18 1 0 19 1 0 1a 1 0 1b 1 0 1c 1 0 1d 1 0 1e 2 0 1f 1 0
1f2 1 0 20 1 0 22 1 0 24 1 0 25 1 0 27 1 0 31 1 0 220 1 0 221 1 0 1cd2 1 0 32 1 0 34 1 0 35 1 0
229 1 0 22b 1 0 22c 1 0 37 2 0 3b 1 0 3d 1 0 11b 1 0 3f 1 0 224 1 0 1ce6 1 0 1ce7 1 0 40 1 0 44 1
0 45 1 0 1ced 1 0 23f 1 0 46 1 0 1cf5 1 0 382 1 0 383 1 0 384 1 0 396 1 0 397 1 0 39 1 0 42 1 0
45 1 0 46 1 0 382 1 0 383 1 0 391 1 0 396 1 0 397 e 0 40d 23 0 222 1 0 33 1 0 225 1 0 c0 1 0 22c
1 0 36 1 0 22f 1 0 231 1 0 235 1 0 238 1 0 239 1 0 23a 1 0 1d4b 1 0 26d 1 0 23d 1 0 1d55 1 0 26f
1 0 241 1 0 240 1 0 242 1 0 243 1 0 244 1 0 245 1 0 248 1 0 252 1 0 253 1 0 17b 1 0 259 1 0 25a 1
0 1cec 1 0 25b 1 0 25c 1 0 4a 1 0 260 1 0 261 1 0 262 1 0 388 41 1 11 2f5 1 1 31 2f5 1 1 12 2d7 1
1 32 2d7 1 1 12 2f3 1 1 32 2f3 1 1 12 301 1 1 32 301 1 2 13 2f7 2d1 1 2 33 2f7 2d1 1 1 14 2d7 1 1
34 2d7 1 1 14 2f3 1 1 34 2f3 1 1 14 301 1 1 34 301 1 1 14 2f7 1 1 34 2f7 1 1 14 2fd 1 1 34 2fd 1
2 15 2d4 2d0 1 2 35 2d4 2d0 1 2 15 2d4 2d1 1 2 35 2d4 2d1 1 1 15 2fd 1 1 35 2fd 1 1 15 300 1 1 35
300 1 2 15 2f7 2d6 1 2 35 2f7 2d6 1 1 16 2d7 1 1 36 2d7 1 1 17 2d4 1 1 37 2d4 1 1 18 2d7 1 1 38
2d7 1 1 18 2f3 1 1 38 2f3 1 1 18 2d8 1 1 38 2d8 1 1 18 2f7 1 1 38 2f7 1 1 18 2fe 1 1 38 2fe 1 1
19 300 1 1 39 300 1 2 19 2d8 2d1 1 2 39 2d8 2d1 1 1 1b 2d1 1 1 3b 2d1 1 1 1b 2f3 1 1 3b 2f3 1 1
1b 301 1 1 3b 301 1 1 1c 2f3 1 1 3c 2f3 1 2 1c 2f3 2d4 1 2 3c 2f3 2d4 1 1 1c 301 1 1 3c 301 1 1
1c 2fd 1 1 3c 2fd 1 1 1d 2d1 1 1 3d 2d1 1 1 1d 2d7 1 1 3d 2d7 1 1 1d 2f3 1 1 3d 2f3 1 1 1e 2d7 1
1 3e 2d7 1 1 1e 2f3 1 1 3e 2f3 1 1 1e 301 1 1 3e 301 1 1 1e 2fd 1 1 3e 2fd 1 2 1f 2d3 2d1 1 2 3f
2d3 2d1 1 2 1f 2d3 2d8 1 2 3f 2d3 2d8 1 2 1f 2d4 2d0 1 2 3f 2d4 2d0 1 2 1f 2d4 2d1 1 2 3f 2d4 2d1
1 1 20 2d1 1 1 40 2d1 1 1 20 2d7 1 1 40 2d7 1 1 22 2d7 1 1 42 2d7 1 1 22 2f3 1 1 42 2f3 1 2 22
2f3 2d4 1 2 42 2f3 2d4 1 1 22 301 1 1 42 301 1 1 23 2d7 1 1 43 2d7 1 1 23 2f3 1 1 43 2f3 1 2 23
2d1 2d7 1 2 43 2d1 2d7 1 2 23 2dc 2d7 1 2 43 2dc 2d7 1 2 23 2f3 2d7 1 2 43 2f3 2d7 1 1 24 2d7 1 1
44 2d7 1 1 24 2f3 1 1 44 2f3 1 1 24 301 1 1 44 301 1 1 24 2fd 1 1 44 2fd 1 1 25 2f4 1 1 45 2f4 1
1 25 300 1 1 45 300 1 1 25 2fd 1 1 45 2fd 1 2 25 2d3 2d1 1 2 45 2d3 2d1 1 2 25 2d4 2d8 1 2 45 2d4
2d8 1 1 26 2d3 1 1 46 2d3 1 1 26 2f3 1 1 46 2f3 1 1 27 2d0 1 1 47 2d0 1 1 27 2d1 1 1 47 2d1 1 1
27 2d8 1 1 47 2d8 1 1 27 2d7 1 1 47 2d7 1 1 27 2f3 1 1 47 2f3 1 1 28 2d7 1 1 48 2d7 1 1 28 2d8 1
1 48 2d8 1 1 29 2d7 1 1 49 2d7 1 1 2a 2d2 1 1 4a 2d2 1 1 2a 2f3 1 1 4a 2f3 1 1 2a 301 1 1 4a 301
1 1 38 301 1 1 44 2d8 1 1 47 2da 1 1 49 2da 1 1 31 28e 1 1 43 2d7 5 1 11 2f3 1 1 31 2f3 1 1 11
2d9 1 1 31 2d9 1 2 11 2d2 2d1 1 2 31 2d2 2d1 1 2 11 2d2 2d0 1 2 31 2d2 2d0 1 2 11 2d2 2d9 1 2 31
2d2 2d9 1 2 11 2d2 2d3 1 2 31 2d2 2d3 1 2 11 2f3 2d2 1 2 31 2f3 2d2 1 2 11 2d6 2d1 1 2 31 2d6 2d1
1 2 11 2d6 2d0 1 2 31 2d6 2d0 1 2 11 2d6 2d9 1 2 31 2d6 2d9 1 2 11 2d6 2d3 1 2 31 2d6 2d3 1 2 11
2f3 2d6 1 2 31 2f3 2d6 1 1 15 2f3 1 1 35 2f3 1 1 15 2d9 1 1 35 2d9 1 1 15 2d3 1 1 35 2d3 1 2 15
2d2 2d1 1 2 35 2d2 2d1 1 2 15 2d2 2d0 1 2 35 2d2 2d0 1 2 15 2d2 2d9 1 2 35 2d2 2d9 1 2 15 2d2 2d3
1 2 35 2d2 2d3 1 2 15 2f3 2d2 1 2 35 2f3 2d2 1 1 19 2d9 1 1 39 2d9 1 1 19 2f3 1 1 39 2f3 1 1 1f
2f3 1 1 3f 2f3 1 1 1f 2d9 1 1 3f 2d9 1 2 1f 2d2 2d1 1 2 3f 2d2 2d1 1 2 1f 2d2 2d0 1 2 3f 2d2 2d0
1 2 1f 2d2 2d9 1 2 3f 2d2 2d9 1 2 1f 2d2 2d3 1 2 3f 2d2 2d3 1 2 1f 2f3 2d2 1 2 3f 2f3 2d2 1 2 1f
2eb 2d1 1 2 3f 2eb 2d1 1 2 1f 2eb 2d0 1 2 3f 2eb 2d0 1 2 1f 2eb 2d9 1 2 3f 2eb 2d9 1 2 1f 2eb 2d3
1 2 3f 2eb 2d3 1 2 1f 2eb 2f3 1 2 3f 2eb 2f3 1 1 25 2f3 1 1 45 2f3 1 1 25 2d9 1 1 45 2d9 1 2 25
2eb 2d1 1 2 45 2eb 2d1 1 2 25 2eb 2d0 1 2 45 2eb 2d0 1 2 25 2eb 2d9 1 2 45 2eb 2d9 1 2 25 2eb 2d3
1 2 45 2eb 2d3 1 2 25 2eb 2f3 1 2 45 2eb 2f3 1 1 29 2d0 1 1 49 2d0 1 1 29 2f3 1 1 49 2f3 1 1 29
2d9 1 1 49 2d9 1 1 29 2d3 1 1 49 2d3 7 1 381 2e3 1 1 381 2e4 1 2 381 2e3 2d0 1 2 381 2e4 2d0 1 2
381 2e3 2d1 1 2 381 2e4 2d1 1 2 381 2e3 312 1 2 381 2e4 312 1 1 361 2e3 1 1 361 2e4 1 2 361 2e3
2d0 1 2 361 2e4 2d0 1 2 361 2e3 2d1 1 2 361 2e4 2d1 1 2 361 2e3 312 1 2 361 2e4 312 1 1 385 2e3 1
1 385 2e4 1 2 385 2e3 2d0 1 2 385 2e4 2d0 1 2 385 2e3 2d1 1 2 385 2e4 2d1 3 1 365 2e3 1 1 365 2e4
1 2 365 2e3 2d0 1 2 365 2e4 2d0 1 2 365 2e3 2d1 1 2 365 2e4 2d1 3 1 387 2e3 1 1 387 2e4 1 2 387
2e3 2d0 1 2 387 2e4 2d0 1 2 387 2e3 2d1 1 2 387 2e4 2d1 1 2 387 2e3 312 1 2 387 2e4 312 1 1 367
2e3 1 1 367 2e4 1 2 367 2e3 2d0 1 2 367 2e4 2d0 1 2 367 2e3 2d1 1 2 367 2e4 2d1 1 2 367 2e3 312 1
2 367 2e4 312 1 1 389 2e3 1 1 389 2e4 1 2 389 2e3 2d0 1 2 389 2e4 2d0 1 2 389 2e3 2d1 1 2 389 2e4
2d1 1 2 389 2e3 312 1 2 389 2e4 312 1 1 369 2e3 1 1 369 2e4 1 2 369 2e3 2d0 1 2 369 2e4 2d0 1 2
369 2e3 2d1 1 2 369 2e4 2d1 1 2 369 2e3 312 1 2 369 2e4 312 1 1 38f 2e3 1 1 38f 2e4 1 2 38f 2e3
2d0 1 2 38f 2e4 2d0 1 2 38f 2e3 2d1 1 2 38f 2e4 2d1 3 1 36f 2e3 1 1 36f 2e4 1 2 36f 2e3 2d0 1 2
36f 2e4 2d0 1 2 36f 2e3 2d1 1 2 36f 2e4 2d1 3 1 395 2e3 1 1 395 2e4 1 2 395 2e3 2d0 1 2 395 2e4
2d0 1 2 395 2e3 2d1 1 2 395 2e4 2d1 1 2 395 2e3 312 1 2 395 2e4 312 2 1 375 2e4 2 2 375 2e4 2d0 2
2 375 2e4 2d1 2 2 375 2e4 312 1 1 399 2e3 1 1 399 2e4 1 2 399 2e3 2d0 1 2 399 2e4 2d0 1 2 399 2e3
2d1 1 2 399 2e4 2d1 1 2 399 2e3 312 1 2 399 2e4 312 1 1 379 2e3 1 1 379 2e4 1 2 379 2e3 2d0 1 2
379 2e4 2d0 1 2 379 2e3 2d1 1 2 379 2e4 2d1 1 2 379 2e3 312 1 2 379 2e4 312 1 1 381 2d0 1 1 381
2d1 1 1 385 2d0 1 1 385 2d1 1 1 387 2d0 1 1 387 2d1 1 1 389 2d0 1 1 389 2d1 1 1 38f 2d0 1 1 38f
2d1 1 1 395 2d0 1 1 395 2d1 1 1 399 2d0 1 1 399 2d1 3 2 381 2e3 315 1 2 381 2e4 315 1 3 381 2e3
2d0 315 1 3 381 2e4 2d0 315 1 3 381 2e3 2d1 315 1 3 381 2e4 2d1 315 1 3 381 2e3 312 315 1 3 381
2e4 312 315 1 2 361 2e3 315 1 2 361 2e4 315 1 3 361 2e3 2d0 315 1 3 361 2e4 2d0 315 1 3 361 2e3
2d1 315 1 3 361 2e4 2d1 315 1 3 361 2e3 312 315 1 3 361 2e4 312 315 1 2 387 2e3 315 1 2 387 2e4
315 1 3 387 2e3 2d0 315 1 3 387 2e4 2d0 315 1 3 387 2e3 2d1 315 1 3 387 2e4 2d1 315 1 3 387 2e3
312 315 1 3 387 2e4 312 315 1 2 367 2e3 315 1 2 367 2e4 315 1 3 367 2e3 2d0 315 1 3 367 2e4 2d0
315 1 3 367 2e3 2d1 315 1 3 367 2e4 2d1 315 1 3 367 2e3 312 315 1 3 367 2e4 312 315 1 2 399 2e3
315 1 2 399 2e4 315 1 3 399 2e3 2d0 315 1 3 399 2e4 2d0 315 1 3 399 2e3 2d1 315 1 3 399 2e4 2d1
315 1 3 399 2e3 312 315 1 3 399 2e4 312 315 1 2 379 2e3 315 1 2 379 2e4 315 1 3 379 2e3 2d0 315 1
3 379 2e4 2d0 315 1 3 379 2e3 2d1 315 1 3 379 2e4 2d1 315 1 3 379 2e3 312 315 1 3 379 2e4 312 315
1 1 381 2d6 1 1 381 2d4 1 2 381 2d0 315 1 1 381 315 1 2 381 2d1 315 2 1 381 312 1 2 381 312 315 1
1 361 2d6 1 1 361 2d4 1 1 361 2d0 1 1 361 2d1 1 1 361 315 2 0 389 4 2 387 2d0 315 1 1 387 315 1 2
387 2d1 315 2 1 387 312 1 2 387 312 315 1 1 365 2d0 1 1 365 2d1 1 1 367 2d0 1 1 367 2d1 1 1 367
315 4 1 389 2d6 1 1 389 2d4 1 2 389 2d8 2d0 1 2 389 2d8 2d1 3 1 389 312 1 2 389 2d8 312 1 1 369
2d6 1 1 369 2d4 1 1 369 2d0 1 1 369 2d1 5 1 395 2d6 1 1 395 2d4 1 2 395 2d8 2d0 1 2 395 2d8 2d1 1
1 391 2e3 1 1 391 2e4 1 1 395 312 1 2 395 2d8 312 1 1 375 2d6 1 1 375 2d4 1 1 375 2d0 1 1 375 2d1
1 1 371 2e4 6 2 399 2d0 315 1 1 399 315 1 2 399 2d1 315 2 1 399 312 1 2 399 312 315 1 1 36f 2d0 1
1 36f 2d1 1 1 379 2d0 1 1 379 2d1 1 1 379 315 75 0 39 e 0 3e 11 0 31 1 0 35 1 0 3f 1 0 48 1 0 229
1 0 38 1 0 3b 1 0 3c 1 0 3d 1 0 3e 1 0 40 1 0 43 1 0 44 66 0 13 5 0 160 3 0 37 1 0 18 1 0 18 1 0
18 1 0 38 1 0 f7 1 0 19 1 0 19 1 0 1c 1 0 3c 2 0 1e 4 0 20 1 0 21 1 0 22 1 0 22 1 0 22 7 0 2a 2 0
379 2 0 2a 2 0 1b 1 1 11 2da 1 0 12 1 0 13 2 0 35 1 0 15 1 0 16 2 0 1d 1 0 3f 1 0 5a0 1 0 5a1 1 0
5a2 1 0 5a3 1 0 39 3 0 390 1 0 383 1 0 363 1 0 370 6 0 14 1 0 34 1 0 35 1 0 39 1 0 3a 17 0 19 1 1
19 19 1 2 19 19 19 1 1 19 26 1 0 26 1 1 26 19 1 2 26 19 19 1 3 26 19 19 19 1 1 19 28 1 0 28 1 1
28 19 1 2 28 19 19 1 0 1c 1 0 13 1 0 14 1 0 1d 1 0 39 1 1 39 39 1 2 39 39 39 1 1 39 46 1 0 46 1 1
46 39 1 2 46 39 39 1 3 46 39 39 39 1 1 39 48 1 0 48 1 1 48 39 1 2 48 39 39 1 0 3c 1 0 33 1 0 34 1
0 3d afd 0 3a 1 0 26 f2 0 2d31 2c9 0 5311 1 0 5314 1 0 5315 12 1 301b 3069 2 1 301d 3069 2 1 301f
3069 2 1 3021 3069 2 1 3023 3069 2 1 3025 3069 2 1 3027 3069 2 1 3029 3069 2 1 302b 3069 2 1 302d
3069 2 1 302f 3069 2 1 3031 3069 3 1 3034 3069 2 1 3036 3069 2 1 3038 3069 7 1 303f 3069 1 1 303f
306a 2 1 3042 3069 1 1 3042 306a 2 1 3045 3069 1 1 3045 306a 2 1 3048 3069 1 1 3048 306a 2 1 304b
3069 1 1 304b 306a 17 1 3016 3069 a 1 306d 3069 1 1 3058 305a d 1 307b 3069 2 1 307d 3069 2 1
307f 3069 2 1 3081 3069 2 1 3083 3069 2 1 3085 3069 2 1 3087 3069 2 1 3089 3069 2 1 308b 3069 2 1
308d 3069 2 1 308f 3069 2 1 3091 3069 3 1 3094 3069 2 1 3096 3069 2 1 3098 3069 7 1 309f 3069 1 1
309f 306a 2 1 30a2 3069 1 1 30a2 306a 2 1 30a5 3069 1 1 30a5 306a 2 1 30a8 3069 1 1 30a8 306a 2 1
30ab 3069 1 1 30ab 306a 17 1 3076 3069 3 1 30bf 3069 1 1 30c0 3069 1 1 30c1 3069 1 1 30c2 3069 4
1 30cd 3069 1 1 3083 3098 32 0 10d0 1 0 10d1 1 0 117a 1 0 10d2 1 0 117c 1 0 117d 1 0 10d3 1 0
10d4 1 0 10d5 1 0 1180 1 0 1181 1 0 1182 1 0 1183 1 0 1184 1 0 1185 1 0 10ea 1 0 10d6 1 0 10d7 1
0 10d8 1 0 10f1 1 0 10d9 1 0 10da 1 0 10db 1 0 10dc 1 0 10dd 1 0 10de 1 0 10df 1 0 10e0 1 0 10e1
1 0 10e2 1 0 1131 1 0 1132 1 0 1133 1 0 1134 1 0 1135 1 0 1136 1 0 1137 1 0 1138 1 0 1139 1 0
113a 1 0 113b 1 0 113c 1 0 113d 1 0 113e 1 0 113f 1 0 1140 1 0 1141 1 0 1142 1 0 1143 1 0 1144 1
0 1145 1 0 1130 1 0 10e4 1 0 10e5 1 0 1197 1 0 1198 1 0 119c 1 0 119e 1 0 11a3 1 0 11a7 1 0 11a9
1 0 10ec 1 0 11ad 1 0 11af 1 0 10ed 1 0 10ee 1 0 10f0 1 0 10f2 1 0 10f3 1 0 10f7 1 0 10f9 1 0
10fb 1 0 10fc 1 0 10fd 1 0 10fe 1 0 10ff 1 0 1102 1 0 1106 1 0 1110 1 0 1117 1 0 111c 1 0 11c1 1
0 11c2 1 0 1127 1 0 1128 1 0 1129 1 0 1154 1 0 1155 1 0 1158 1 0 1161 1 0 1162 1 0 1164 1 0 116e
1 0 1171 750e 0 41a 1 0 41c d3 0 a73f 82 0 13 1 0 16 1 0 21 4 0 f6 1 0 123 363 0 a6f7 1 0 ab07 1
0 23b 1 0 ab22 a 0 25d 4d97 0 8c18 1 0 66c4 1 0 8e9a 1 0 8c98 1 0 6ea1 1 0 4e02 1 0 53b5 1 0 9f6c
1 0 9f6c 1 0 5921 1 0 91a1 1 0 5557 1 0 5918 1 0 61c6 1 0 7639 1 0 7f55 1 0 860f 1 0 878a 1 0
88c8 1 0 905f 1 0 69d2 1 0 6ceb 1 0 70a9 1 0 73ae 1 0 840d 1 0 913a 1 0 99c1 1 0 4e52 1 0 5345 1
0 6ad4 1 0 71eb 1 0 85fd 1 0 9dee 1 0 5d20 1 0 6fbb 1 0 859d 1 0 8934 1 0 6299 1 0 81a8 1 0 87ef
1 0 5e9a 1 0 66e7 1 0 6d3a 1 0 72cc 1 0 909e 1 0 4f56 1 0 5187 1 0 52ae 1 0 6494 1 0 6aa3 1 0
71e0 1 0 76b7 1 0 7fd1 1 0 85d6 1 0 862c 1 0 8dbf 1 0 9702 1 0 9b3f 1 0 9dca 1 0 785c 1 0 794f 1
0 7d70 1 0 8399 1 0 92d4 1 0 9e4f 1 0 8aa6 1 0 58af 1 0 5ed4 1 0 7c30 1 0 804e 1 0 7232 1 0 789a
1 0 8c92 1 0 96c7 1 0 58a8 1 0 5c32 1 0 69e3 1 0 6daa 1 0 6edf 1 0 7cff 1 0 7e07 1 0 961b 1 0
52a2 1 0 805b 1 0 51ac 1 0 519c 1 0 79ec 1 0 7d8e 1 0 83c1 1 0 9645 1 0 8b50 1 0 629f 1 0 69d2 1
0 8ace 1 0 4e09 1 0 5bb7 1 0 5fe2 1 0 7357 1 0 7540 1 0 52e7 1 0 78cb 1 0 4f8f 1 0 5f79 1 0 4ddd
1 0 6c9c 1 0 6548 1 0 7cf2 1 0 5393 1 0 582e 1 0 76d1 1 0 8419 1 0 8a7a 1 0 6b8a 1 0 8f80 1 0
6c58 1 0 62ce 1 0 82b5 1 0 6370 1 0 7535 1 0 4e7e 1 0 5139 1 0 5199 1 0 6851 1 0 7cb7 1 0 823f 1
0 8aa2 1 0 919f 1 0 52c5 1 0 5412 1 0 5943 1 0 5ebc 1 0 6595 1 0 6fce 1 0 78fa 1 0 957d 1 0 9a3a
1 0 9e67 1 0 9e9e 1 0 526b 1 0 6696 1 0 6b47 1 0 8f32 1 0 5e44 1 0 6160 1 0 61d0 1 0 646a 1 0
6ef3 1 0 7119 1 0 7459 1 0 799a 1 0 7dc4 1 0 803f 1 0 8ef6 1 0 84be 1 0 8ff3 1 0 931a 1 0 51e7 1
0 5273 1 0 548d 1 0 7098 1 0 8892 1 0 8a7a 1 0 5e99 1 0 5fc5 1 0 634b 1 0 6b7e 1 0 7c0e 1 0 7345
1 0 4eb4 1 0 56c9 1 0 5bb7 1 0 5d8a 1 0 5fec 1 0 7382 1 0 7439 1 0 7f6a 1 0 8016 1 0 9204 1 0
96c6 1 0 9718 1 0 97e8 1 0 4f5b 1 0 797e 1 0 9184 1 0 9688 1 0 60b1 1 0 4e56 1 0 50aa 1 0 5bbe 1
0 5c0f 1 0 6569 1 0 69d2 1 0 719e 1 0 7612 1 0 84cc 1 0 904c 1 0 9f5d 1 0 6658 1 0 95fe 1 0 5259
1 0 674b 1 0 67c3 1 0 6d11 1 0 6e6c 1 0 73d9 1 0 7529 1 0 783b 1 0 7ce0 1 0 982e 1 0 513d 1 0
61fe 1 0 9648 1 0 4ffb 1 0 5ce9 1 0 6dba 1 0 8efa 1 0 5f5b 1 0 6114 1 0 67e7 1 0 7357 1 0 9656 1
0 51f9 1 0 53df 1 0 5c35 1 0 65e3 1 0 671e 1 0 6878 1 0 6cb5 1 0 73d6 1 0 75b2 1 0 7f49 1 0 889f
1 0 88b1 1 0 919c 1 0 96b2 1 0 530f 1 0 6e8a 1 0 53ed 1 0 71a0 1 0 7468 1 0 85ca 1 0 9673 1 0
9c27 1 0 9e6f 1 0 6767 1 0 6d9b 1 0 81b8 1 0 7a9b 1 0 7af0 1 0 7c62 1 0 7290 1 0 7069 1 0 8b28 1
0 4e90 1 0 8306 1 0 520a 1 0 51d7 1 0 5e76 1 0 62a3 1 0 7ca6 1 0 5b55 1 0 6cee 1 0 6684 1 0 8f0b
1 0 881c 1 0 961d 1 0 895b 1 0 5ea3 1 0 5110 1 0 5590 3 0 582a 2 0 6644 3 0 51ae 1 0 72fa 1 0
769a 1 0 790c 1 0 792e 1 0 7935 1 0 795f 1 0 9726 1 0 7c8e 1 0 7f8d 2 0 85e2 2 0 8ac8 3 0 9008 1
0 90cd 4 0 98bf 1 0 98cc 1 0 98f8 1 0 9d84 1 0 90ae 1 0 9687 1 0 4f7e 1 0 50b7 1 0 511d 1 0 5299
1 0 52b4 1 0 5321 1 0 556d 1 0 55d6 1 0 5638 1 0 5810 1 0 5878 1 0 5c34 1 0 5c3e 1 0 6064 1 0
6138 1 0 615e 1 0 61c2 1 0 651f 1 0 65b2 1 0 6661 1 0 6855 1 0 6d47 1 0 6dea 1 0 6ef2 1 0 713e 1
0 71fb 1 0 73f2 1 0 7861 1 0 790e 1 0 7919 1 0 7918 1 0 7920 1 0 7926 1 0 792d 1 0 795d 1 0 795e
1 0 7a10 1 0 7a51 1 0 7b90 1 0 7dc4 1 0 7dd9 1 0 7e11 1 0 7f42 1 0 7fd5 1 0 81bd 1 0 8249 1 0
8249 1 0 8427 1 0 88e0 1 0 8966 1 0 8ad1 1 0 8b09 1 0 8ca3 1 0 8cd8 1 0 8f86 1 0 9008 1 0 96b3 1
0 97cf 1 0 980b 1 0 6045 1 0 242be 1 0 81e8 3 0 4df6 1 0 5185 1 0 5138 1 0 4f50 1 0 5115 1 0 5150
1 0 5297 1 0 52ca 1 0 556d 1 0 5525 1 0 5569 1 0 55b2 1 0 582a 1 0 5883 1 0 5914 1 0 5924 1 0
5a32 1 0 5af8 1 0 5ea2 1 0 5ea9 1 0 5f39 1 0 5f7d 1 0 60a8 1 0 611e 1 0 60d8 1 0 615e 1 0 6130 1
0 61c2 1 0 6204 1 0 6394 1 0 63ec 1 0 6422 1 0 6526 1 0 6644 1 0 66e7 1 0 66eb 1 0 6726 1 0 6b49
1 0 6b8a 1 0 6d11 1 0 6eab 1 0 6e9b 1 0 6ef2 1 0 6fee 1 0 713e 1 0 7777 1 0 7205 1 0 727f 1 0
72fa 1 0 7441 1 0 74d6 1 0 750b 1 0 75ed 1 0 75ef 1 0 769a 1 0 76ab 1 0 76c4 1 0 771a 1 0 7710 1
0 789c 1 0 7a81 1 0 7b90 1 0 7c4b 1 0 7d2b 1 0 7dc4 1 0 7f0e 1 0 7fd5 1 0 8322 1 0 83bf 1 0 8749
1 0 8911 1 0 8956 1 0 8966 1 0 8a8f 1 0 8ac8 1 0 8a9b 1 0 8ad1 1 0 8ace 1 0 8abd 1 0 8b09 1 0
8b5a 1 0 8cd8 1 0 8f08 1 0 9042 1 0 9169 1 0 9246 1 0 964c 1 0 96b3 1 0 9726 1 0 97ab 1 0 97cf 1
0 97db 1 0 980b 1 0 9ae2 1 0 9f6c 1 0 2281a 1 0 22814 1 0 233a5 1 0 3b6d 1 0 3fe8 1 0 4009 1 0
25219 1 0 25ca0 1 0 27ea3 1 0 9f13 1 0 9f5e 27 1 36 36 1 1 36 39 1 1 36 3c 1 2 36 36 39 1 2 36 36
3c 1 1 43 44 1 1 43 44 d 1 544 546 1 1 544 535 1 1 544 53b 1 1 54e 546 1 1 544 53d 6 1 5a9 584 2
1 5c2 587 1 0 5b2 1 0 5a0 1 0 5a3 1 0 5a4 1 0 5ab 1 0 5ac 1 0 5ad 1 0 5b8 1 0 5ba 2 1 5b9 591 1 1
5b9 592 1 2 5b9 58c 591 1 2 5b9 58c 592 1 1 5a0 587 1 1 5a0 588 1 1 5a0 58c 1 1 5a1 58c 1 1 5a2
58c 1 1 5a3 58c 1 1 5a4 58c 1 1 5a5 58c 1 1 5a6 58c 2 1 5a8 58c 1 1 5a9 58c 1 1 5aa 58c 1 1 5ab
58c 1 1 5ac 58c 2 1 5ae 58c 2 1 5b0 58c 1 1 5b1 58c 2 1 5b3 58c 1 1 5b4 58c 2 1 5b6 58c 1 1 5b7
58c 1 1 5b8 58c 1 1 5b9 58c 1 1 5ba 58c 1 1 5a5 589 1 1 5a1 58f 1 1 5ab 58f 1 1 5b4 58f 1 1 5a0
5ac 1 0 641 1 0 641 1 0 64b 1 0 64b 1 0 64b 1 0 64b 1 0 64e 1 0 64e 1 0 64e 1 0 64e 1 0 650 1 0
650 1 0 650 1 0 650 1 0 64a 1 0 64a 1 0 64a 1 0 64a 1 0 64f 1 0 64f 1 0 64f 1 0 64f 1 0 649 1 0
649 1 0 649 1 0 649 1 0 674 1 0 674 1 0 674 1 0 674 1 0 676 1 0 676 1 0 676 1 0 676 1 0 654 1 0
654 1 0 654 1 0 654 1 0 653 1 0 653 1 0 653 1 0 653 1 0 656 1 0 656 1 0 656 1 0 656 1 0 657 1 0
657 1 0 657 1 0 657 1 0 65d 1 0 65d 1 0 65c 1 0 65c 1 0 65e 1 0 65e 1 0 658 1 0 658 1 0 668 1 0
668 1 0 661 1 0 661 1 0 679 1 0 679 1 0 679 1 0 679 1 0 67f 1 0 67f 1 0 67f 1 0 67f 1 0 683 1 0
683 1 0 683 1 0 683 1 0 681 1 0 681 1 0 681 1 0 681 1 0 68a 1 0 68a 1 0 68b 1 0 68b 1 0 68b 1 0
68b 1 1 6a5 624 1 1 6a5 624 1 0 691 1 0 691 1 0 691 1 0 691 1 0 68e 1 0 68e 1 0 68e 1 0 68e 1 0
6a2 1 0 6a2 1 1 6a2 624 1 1 6a2 624 22 0 67d 1 0 67d 1 0 67d 1 0 67d 1 0 697 1 0 697 1 0 696 1 0
696 1 0 698 1 0 698 1 1 697 644 1 0 69b 1 0 69b 1 0 695 1 0 695 1 0 699 1 0 699 1 0 6a0 1 0 6a0 1
0 6a0 1 0 6a0 1 0 619 1 0 619 1 2 61a 624 5f7 1 2 61a 624 5f7 1 2 61a 624 6a5 1 2 61a 624 6a5 1 2
61a 624 618 1 2 61a 624 618 1 2 61a 624 697 1 2 61a 624 697 1 2 61a 624 696 1 2 61a 624 696 1 2
61a 624 698 1 2 61a 624 698 1 2 61a 624 6a0 1 2 61a 624 6a0 1 2 61a 624 6a0 1 2 61a 624 619 1 2
61a 624 619 1 2 61a 624 619 1 0 69c 1 0 69c 1 0 69c 1 0 69c 1 2 61a 624 5fc 1 2 61a 624 5fd 1 2
61a 624 615 1 2 61a 624 619 1 2 61a 624 61a 1 1 5f8 5fc 1 1 5f8 5fd 1 1 5f8 5fe 1 1 5f8 615 1 1
5f8 619 1 1 5f8 61a 1 1 5fa 5fc 1 1 5fa 5fd 1 1 5fa 5fe 1 1 5fa 615 1 1 5fa 619 1 1 5fa 61a 1 1
5fb 5fc 1 1 5fb 615 1 1 5fb 619 1 1 5fb 61a 1 1 5fc 5fd 1 1 5fc 615 1 1 5fd 5fc 1 1 5fd 615 1 1
5fe 5fc 1 1 5fe 5fd 1 1 5fe 615 1 1 603 5fc 1 1 603 5fd 1 1 603 5fe 1 1 603 615 1 1 605 5fd 1 1
605 615 1 1 606 5fc 1 1 606 5fd 1 1 606 5fe 1 1 606 615 1 1 607 5fd 1 1 607 615 1 1 608 615 1 1
609 5fc 1 1 609 615 1 1 60a 5fc 1 1 60a 615 1 1 611 5fc 1 1 611 5fd 1 1 611 5fe 1 1 611 615 1 1
611 619 1 1 611 61a 1 1 612 5fd 1 1 612 615 1 1 612 619 1 1 612 61a 1 1 613 5f7 1 1 613 5fc 1 1
613 5fd 1 1 613 5fe 1 1 613 614 1 1 613 615 1 1 613 619 1 1 613 61a 1 1 614 5fc 1 1 614 5fd 1 1
614 5fe 1 1 614 615 1 1 614 619 1 1 614 61a 1 1 615 5fc 1 1 615 5fd 1 1 615 5fe 1 1 615 615 1 1
615 619 1 1 615 61a 1 1 616 5fc 1 1 616 5fd 1 1 616 5fe 1 1 616 615 1 1 616 619 1 1 616 61a 1 1
617 5fc 1 1 617 615 1 1 617 619 1 1 617 61a 1 1 61a 5fc 1 1 61a 5fd 1 1 61a 5fe 1 1 61a 615 1 1
61a 619 1 1 61a 61a 1 1 600 640 1 1 601 640 1 1 619 640 7 2 61a 624 601 1 2 61a 624 602 1 2 61a
624 615 1 2 61a 624 616 1 2 61a 624 619 1 2 61a 624 61a 1 1 5f8 601 1 1 5f8 602 1 1 5f8 615 1 1
5f8 616 1 1 5f8 619 1 1 5f8 61a 1 1 5fa 601 1 1 5fa 602 1 1 5fa 615 1 1 5fa 616 1 1 5fa 619 1 1
5fa 61a 1 1 5fb 601 1 1 5fb 602 1 1 5fb 615 1 1 5fb 616 1 1 5fb 619 1 1 5fb 61a 1 1 611 619 1 1
611 61a 1 1 612 619 1 1 612 61a 1 1 613 5f7 1 1 613 614 1 1 613 615 1 1 613 619 1 1 613 61a 1 1
614 615 1 1 614 619 1 1 614 61a 1 1 615 5f7 1 1 615 615 1 1 616 601 1 1 616 602 1 1 616 615 1 1
616 616 1 1 616 619 1 1 616 61a 1 1 619 640 1 1 61a 601 1 1 61a 602 1 1 61a 615 1 1 61a 616 1 1
61a 619 1 1 61a 61a 1 2 61a 624 5fc 1 2 61a 624 5fd 1 2 61a 624 5fe 1 2 61a 624 615 1 2 61a 624
617 1 1 5f8 5fc 1 1 5f8 5fd 1 1 5f8 5fe 1 1 5f8 615 1 1 5f8 617 1 1 5fa 5fc 1 1 5fa 5fd 1 1 5fa
5fe 1 1 5fa 615 1 1 5fa 617 1 1 5fb 615 1 1 5fc 5fd 1 1 5fc 615 1 1 5fd 5fc 1 1 5fd 615 1 1 5fe
5fc 1 1 5fe 615 1 1 603 5fc 1 1 603 5fd 1 1 603 5fe 1 1 603 615 1 1 605 5fd 1 1 605 5fe 1 1 605
615 1 1 606 5fc 1 1 606 5fd 1 1 606 5fe 1 1 606 615 1 1 607 5fd 1 1 608 615 1 1 609 5fc 1 1 609
615 1 1 60a 5fc 1 1 60a 615 1 1 611 5fc 1 1 611 5fd 1 1 611 5fe 1 1 611 615 1 1 612 5fd 1 1 612
615 1 1 613 5fc 1 1 613 5fd 1 1 613 5fe 1 1 613 614 1 1 613 615 1 1 614 5fc 1 1 614 5fd 1 1 614
5fe 1 1 614 615 1 1 614 617 1 1 615 5fc 1 1 615 5fd 1 1 615 5fe 1 1 615 615 1 1 616 5fc 1 1 616
5fd 1 1 616 5fe 1 1 616 615 1 1 616 617 1 1 617 5fc 1 1 617 615 1 1 617 640 1 1 61a 5fc 1 1 61a
5fd 1 1 61a 5fe 1 1 61a 615 1 1 61a 617 1 2 61a 624 615 1 2 61a 624 617 1 1 5f8 615 1 1 5f8 617 1
1 5fa 615 1 1 5fa 617 1 1 5fb 615 1 1 5fb 617 1 1 603 615 1 1 603 617 1 1 604 615 1 1 604 617 1 1
613 614 1 1 613 615 1 1 614 615 1 1 616 615 1 1 616 617 1 1 61a 615 1 1 61a 617 1 2 610 61e 621 1
2 610 61f 621 1 2 610 620 621 1 1 607 619 1 1 607 61a 1 1 609 619 1 1 609 61a 1 1 60a 619 1 1 60a
61a 1 1 603 619 1 1 603 61a 1 1 604 619 1 1 604 61a 1 1 5fd 619 1 1 5fd 61a 1 1 5fc 619 1 1 5fc
61a 1 1 5fe 619 1 1 5fe 61a 1 1 605 619 1 1 605 61a 1 1 606 619 1 1 606 61a 1 1 604 5fc 1 1 604
5fd 1 1 604 5fe 1 1 604 615 1 1 604 601 1 1 603 601 1 1 605 601 1 1 606 601 1 1 607 619 1 1 607
61a 1 1 609 619 1 1 609 61a 1 1 60a 619 1 1 60a 61a 1 1 603 619 1 1 603 61a 1 1 604 619 1 1 604
61a 1 1 5fd 619 1 1 5fd 61a 1 1 5fc 619 1 1 5fc 61a 1 1 5fe 619 1 1 5fe 61a 1 1 605 619 1 1 605
61a 1 1 606 619 1 1 606 61a 1 1 604 5fc 1 1 604 5fd 1 1 604 5fe 1 1 604 615 1 1 604 601 1 1 603
601 1 1 605 601 1 1 606 601 1 1 604 5fc 1 1 604 5fd 1 1 604 5fe 1 1 604 615 1 1 603 617 1 1 604
617 1 1 607 615 1 1 603 5fc 1 1 603 5fd 1 1 603 5fe 1 1 604 5fc 1 1 604 5fd 1 1 604 5fe 1 1 607
615 1 1 608 615 1 1 5f7 61b 1 1 5f7 61b 13 2 5fa 5fc 615 1 2 5fa 5fd 5fc 1 2 5fa 5fd 5fc 1 2 5fa
5fd 615 1 2 5fa 5fe 615 1 2 5fa 615 5fc 1 2 5fa 615 5fd 1 2 5fa 615 5fe 1 2 5fc 615 5fd 1 2 5fc
615 5fd 1 2 5fd 615 61a 1 2 5fd 615 619 1 2 603 5fd 5fc 1 2 603 5fc 5fd 1 2 603 5fc 619 1 2 603
615 5fd 1 2 603 615 5fd 1 2 603 615 5fc 1 2 603 615 615 1 2 603 615 615 1 2 605 5fd 5fd 1 2 605
5fd 5fd 1 2 605 615 615 1 2 604 5fd 615 1 2 604 5fd 615 1 2 604 5fc 61a 1 2 604 615 5fe 1 2 604
615 5fe 1 2 604 615 615 1 2 604 615 615 1 2 606 5fd 619 1 2 606 5fe 615 1 2 606 5fe 615 1 2 607
615 5fd 1 2 607 615 5fd 1 2 607 615 615 1 2 607 615 61a 1 2 609 5fc 615 1 2 609 615 615 1 2 609
615 615 1 2 609 615 619 1 2 60a 615 615 1 2 60a 615 61a 1 2 60a 615 619 1 2 611 5fe 615 1 2 611
5fe 615 1 2 612 615 5fd 1 2 612 615 615 1 2 614 5fd 615 1 2 614 5fd 61a 1 2 614 5fd 619 1 2 614
5fc 5fc 1 2 614 5fc 5fc 1 2 614 5fe 615 1 2 614 5fe 615 1 2 614 615 5fd 1 2 614 615 5fd 1 2 615
5fd 5fc 1 2 615 5fd 615 1 2 615 5fd 61a 1 2 615 5fc 5fd 1 2 615 5fc 615 1 2 615 5fe 5fc 1 2 615
5fe 615 3 2 615 5fc 5fe 1 2 617 615 5fc 1 2 617 615 615 1 2 616 5fd 615 1 2 616 5fd 619 1 2 616
5fc 615 1 2 616 5fc 615 1 2 616 5fc 619 1 2 616 615 61a 1 2 616 615 619 1 2 61a 615 615 1 2 61a
615 615 1 2 5f8 5fe 61a 1 2 5fa 5fc 61a 1 2 5fa 5fc 619 1 2 5fa 5fe 61a 1 2 5fa 5fe 619 1 2 5fa
615 61a 1 2 5fa 615 619 1 2 5fc 615 61a 1 2 5fc 5fd 619 1 2 5fc 615 619 1 2 603 5fe 619 1 2 605
5fd 61a 1 2 604 5fd 61a 1 2 606 5fd 61a 1 2 614 5fc 61a 1 2 614 615 61a 1 2 61a 5fd 61a 1 2 61a
5fc 61a 1 2 61a 615 61a 1 2 615 615 61a 1 2 612 615 61a 1 2 616 5fd 61a 1 2 612 615 5fd 1 2 614
5fd 615 1 2 609 615 61a 1 2 613 615 61a 1 2 616 5fc 5fd 1 2 615 5fe 61a 1 2 614 5fc 615 1 2 613
615 615 1 2 614 5fc 615 1 2 616 5fc 5fd 1 2 5fc 5fd 61a 1 2 5fd 5fc 61a 1 2 615 5fc 61a 1 2 611
615 61a 1 2 5f8 5fd 61a 1 2 613 615 615 1 2 609 5fc 615 1 2 605 615 615 1 2 603 5fe 61a 1 2 616
5fc 61a 29 2 605 614 6a2 1 2 612 614 6a2 1 3 5f7 614 614 617 1 3 5f7 613 5f8 601 1 3 615 5fd 615
5ff 1 3 605 614 609 615 1 3 601 603 618 614 1 3 609 614 61a 617 1 3 618 603 614 615 1 2 605 614
619 3a 0 2f 1 0 2f 19 0 2f 1 0 2f 1 0 2f 22 1 610 61b 6 1 610 61e 2 1 610 61f 2 1 610 620 2 1 610
621 2 1 610 622 1 0 5f1 1 1 5f7 623 1 1 5f7 623 1 1 5f7 624 1 1 5f7 624 1 1 618 624 1 1 618 624 1
1 5f7 625 1 1 5f7 625 1 1 61a 624 1 1 61a 624 1 1 61a 624 1 1 61a 624 1 0 5f7 1 0 5f7 1 0 5f8 1 0
5f8 1 0 5f8 1 0 5f8 1 0 5f9 1 0 5f9 1 0 5fa 1 0 5fa 1 0 5fa 1 0 5fa 1 0 5fb 1 0 5fb 1 0 5fb 1 0
5fb 1 0 5fc 1 0 5fc 1 0 5fc 1 0 5fc 1 0 5fd 1 0 5fd 1 0 5fd 1 0 5fd 1 0 5fe 1 0 5fe 1 0 5fe 1 0
5fe 1 0 5ff 1 0 5ff 1 0 600 1 0 600 1 0 601 1 0 601 1 0 602 1 0 602 1 0 603 1 0 603 1 0 603 1 0
603 1 0 604 1 0 604 1 0 604 1 0 604 1 0 605 1 0 605 1 0 605 1 0 605 1 0 606 1 0 606 1 0 606 1 0
606 1 0 607 1 0 607 1 0 607 1 0 607 1 0 608 1 0 608 1 0 608 1 0 608 1 0 609 1 0 609 1 0 609 1 0
609 1 0 60a 1 0 60a 1 0 60a 1 0 60a 1 0 611 1 0 611 1 0 611 1 0 611 1 0 612 1 0 612 1 0 612 1 0
612 1 0 613 1 0 613 1 0 613 1 0 613 1 0 614 1 0 614 1 0 614 1 0 614 1 0 615 1 0 615 1 0 615 1 0
615 1 0 616 1 0 616 1 0 616 1 0 616 1 0 617 1 0 617 1 0 617 1 0 617 1 0 618 1 0 618 1 0 619 1 0
619 1 0 61a 1 0 61a 1 0 61a 1 0 61a 1 2 614 5f7 623 1 2 614 5f7 623 1 2 614 5f7 624 1 2 614 5f7
624 1 2 614 5f7 625 1 2 614 5f7 625 1 1 614 5f7 1 1 614 5f7 14 0 0 1 0 1 1 0 2 1 0 3 1 0 4 1 0 5
1 0 6 1 0 7 1 0 8 1 0 9 8 0 11 1 0 12 1 0 13 1 0 14 1 0 15 1 0 16 1 0 17 1 0 18 1 0 19 1 0 1a 1 0
1b 1 0 1c 1 0 1d 1 0 1e 1 0 1f 1 0 20 1 0 21 1 0 22 1 0 23 1 0 24 1 0 25 1 0 26 1 0 27 1 0 28 1 0
29 1 0 2a 5 0 2f 2 0 31 1 0 32 1 0 33 1 0 34 1 0 35 1 0 36 1 0 37 1 0 38 1 0 39 1 0 3a 1 0 3b 1 0
3c 1 0 3d 1 0 3e 1 0 3f 1 0 40 1 0 41 1 0 42 1 0 43 1 0 44 1 0 45 1 0 46 1 0 47 1 0 48 1 0 49 1 0
4a c 0 30c2 1 0 3071 1 0 3073 1 0 3075 1 0 3077 1 0 3079 1 0 30b3 1 0 30b5 1 0 30b7 1 0 3093 1 0
30cc 1 0 3072 1 0 3074 1 0 3076 1 0 3078 1 0 307a 1 0 307b 1 0 307d 1 0 307f 1 0 3081 1 0 3083 1
0 3085 1 0 3087 1 0 3089 1 0 308b 1 0 308d 1 0 308f 1 0 3091 1 0 3094 1 0 3096 1 0 3098 1 0 309a
1 0 309b 1 0 309c 1 0 309d 1 0 309e 1 0 309f 1 0 30a2 1 0 30a5 1 0 30a8 1 0 30ab 1 0 30ae 1 0
30af 1 0 30b0 1 0 30b1 1 0 30b2 1 0 30b4 1 0 30b6 1 0 30b8 1 0 30b9 1 0 30ba 1 0 30bb 1 0 30bc 1
0 30bd 1 0 30bf 1 0 30c3 1 0 3069 1 0 306a 1 0 1130 1 0 10d0 1 0 10d1 1 0 117a 1 0 10d2 1 0 117c
1 0 117d 1 0 10d3 1 0 10d4 1 0 10d5 1 0 1180 1 0 1181 1 0 1182 1 0 1183 1 0 1184 1 0 1185 1 0
10ea 1 0 10d6 1 0 10d7 1 0 10d8 1 0 10f1 1 0 10d9 1 0 10da 1 0 10db 1 0 10dc 1 0 10dd 1 0 10de 1
0 10df 1 0 10e0 1 0 10e1 1 0 10e2 4 0 1131 1 0 1132 1 0 1133 1 0 1134 1 0 1135 1 0 1136 3 0 1137
1 0 1138 1 0 1139 1 0 113a 1 0 113b 1 0 113c 3 0 113d 1 0 113e 1 0 113f 1 0 1140 1 0 1141 1 0
1142 3 0 1143 1 0 1144 1 0 1145 7a5 0 2a0 1 0 2a1 1 0 b6 1 0 269 1 0 223 2 0 273 1 0 ab36 1 0 275
1 0 274 1 0 226 1 0 227 1 0 1d61 1 0 228 1 0 22e 1 0 279 1 0 234 1 0 232 1 0 230 1 0 26b 1 0 f7 1
0 26c 1 0 237 1 0 254 1 0 27a 1 0 27b 1 0 23c 1 0 1ded4 1 0 a75e 1 0 23e 1 0 1ded5 1 0 25e 1 0
1ded6 1 0 c8 1 0 246 1 0 247 1 0 41 1 0 24a 1 0 1ded8 1 0 24d 1 0 24e 1 0 250 1 0 278 1 0 276 1 0
ab37 1 0 277 1 0 258 1 0 2c41 2 0 25f 1 0 271 1 0 272 1 0 268 1 0 190 1 0 191 1 0 192 1 0 1deda 1
0 1deee 8e0 1 11069 1108a 2 1 1106b 1108a f 1 11075 1108a 83 1 11101 110f7 1 1 11102 110f7 21c 1
11317 1130e 1 1 11317 11327 16f 1 11489 1148a 1 1 11489 11480 2 1 11489 1148d fc 1 11588 1157f 1
1 11589 1157f 37d 1 11905 11900 bac8 0 11 1 0 12 1 0 13 1 0 14 1 0 15 1 0 16 1 0 17 1 0 18 1 0 19
1 0 1a 1 0 1b 1 0 1c 1 0 1d 1 0 1e 1 0 1f 1 0 20 1 0 21 1 0 22 1 0 23 1 0 24 1 0 25 1 0 26 1 0 27
1 0 28 1 0 29 1 0 2a 1 0 31 1 0 32 1 0 33 1 0 34 1 0 35 1 0 36 1 0 37 1 0 38 1 0 39 1 0 3a 1 0 3b
1 0 3c 1 0 3d 1 0 3e 1 0 3f 1 0 40 1 0 41 1 0 42 1 0 43 1 0 44 1 0 45 1 0 46 1 0 47 1 0 48 1 0 49
1 0 4a 1 0 11 1 0 12 1 0 13 1 0 14 1 0 15 1 0 16 1 0 17 1 0 18 1 0 19 1 0 1a 1 0 1b 1 0 1c 1 0 1d
1 0 1e 1 0 1f 1 0 20 1 0 21 1 0 22 1 0 23 1 0 24 1 0 25 1 0 26 1 0 27 1 0 28 1 0 29 1 0 2a 1 0 31
1 0 32 1 0 33 1 0 34 1 0 35 1 0 36 1 0 37 2 0 39 1 0 3a 1 0 3b 1 0 3c 1 0 3d 1 0 3e 1 0 3f 1 0 40
1 0 41 1 0 42 1 0 43 1 0 44 1 0 45 1 0 46 1 0 47 1 0 48 1 0 49 1 0 4a 1 0 11 1 0 12 1 0 13 1 0 14
1 0 15 1 0 16 1 0 17 1 0 18 1 0 19 1 0 1a 1 0 1b 1 0 1c 1 0 1d 1 0 1e 1 0 1f 1 0 20 1 0 21 1 0 22
1 0 23 1 0 24 1 0 25 1 0 26 1 0 27 1 0 28 1 0 29 1 0 2a 1 0 31 1 0 32 1 0 33 1 0 34 1 0 35 1 0 36
1 0 37 1 0 38 1 0 39 1 0 3a 1 0 3b 1 0 3c 1 0 3d 1 0 3e 1 0 3f 1 0 40 1 0 41 1 0 42 1 0 43 1 0 44
1 0 45 1 0 46 1 0 47 1 0 48 1 0 49 1 0 4a 1 0 11 2 0 13 1 0 14 3 0 17 3 0 1a 1 0 1b 3 0 1e 1 0 1f
1 0 20 1 0 21 2 0 23 1 0 24 1 0 25 1 0 26 1 0 27 1 0 28 1 0 29 1 0 2a 1 0 31 1 0 32 1 0 33 1 0 34
2 0 36 2 0 38 1 0 39 1 0 3a 1 0 3b 1 0 3c 1 0 3d 1 0 3e 2 0 40 1 0 41 1 0 42 1 0 43 1 0 44 1 0 45
1 0 46 1 0 47 1 0 48 1 0 49 1 0 4a 1 0 11 1 0 12 1 0 13 1 0 14 1 0 15 1 0 16 1 0 17 1 0 18 1 0 19
1 0 1a 1 0 1b 1 0 1c 1 0 1d 1 0 1e 1 0 1f 1 0 20 1 0 21 1 0 22 1 0 23 1 0 24 1 0 25 1 0 26 1 0 27
1 0 28 1 0 29 1 0 2a 1 0 31 1 0 32 1 0 33 1 0 34 1 0 35 1 0 36 1 0 37 1 0 38 1 0 39 1 0 3a 1 0 3b
1 0 3c 1 0 3d 1 0 3e 1 0 3f 1 0 40 1 0 41 1 0 42 1 0 43 1 0 44 1 0 45 1 0 46 1 0 47 1 0 48 1 0 49
1 0 4a 1 0 11 1 0 12 2 0 14 1 0 15 1 0 16 1 0 17 3 0 1a 1 0 1b 1 0 1c 1 0 1d 1 0 1e 1 0 1f 1 0 20
1 0 21 2 0 23 1 0 24 1 0 25 1 0 26 1 0 27 1 0 28 1 0 29 2 0 31 1 0 32 1 0 33 1 0 34 1 0 35 1 0 36
1 0 37 1 0 38 1 0 39 1 0 3a 1 0 3b 1 0 3c 1 0 3d 1 0 3e 1 0 3f 1 0 40 1 0 41 1 0 42 1 0 43 1 0 44
1 0 45 1 0 46 1 0 47 1 0 48 1 0 49 1 0 4a 1 0 11 1 0 12 2 0 14 1 0 15 1 0 16 1 0 17 2 0 19 1 0 1a
1 0 1b 1 0 1c 1 0 1d 2 0 1f 4 0 23 1 0 24 1 0 25 1 0 26 1 0 27 1 0 28 1 0 29 2 0 31 1 0 32 1 0 33
1 0 34 1 0 35 1 0 36 1 0 37 1 0 38 1 0 39 1 0 3a 1 0 3b 1 0 3c 1 0 3d 1 0 3e 1 0 3f 1 0 40 1 0 41
1 0 42 1 0 43 1 0 44 1 0 45 1 0 46 1 0 47 1 0 48 1 0 49 1 0 4a 1 0 11 1 0 12 1 0 13 1 0 14 1 0 15
1 0 16 1 0 17 1 0 18 1 0 19 1 0 1a 1 0 1b 1 0 1c 1 0 1d 1 0 1e 1 0 1f 1 0 20 1 0 21 1 0 22 1 0 23
1 0 24 1 0 25 1 0 26 1 0 27 1 0 28 1 0 29 1 0 2a 1 0 31 1 0 32 1 0 33 1 0 34 1 0 35 1 0 36 1 0 37
1 0 38 1 0 39 1 0 3a 1 0 3b 1 0 3c 1 0 3d 1 0 3e 1 0 3f 1 0 40 1 0 41 1 0 42 1 0 43 1 0 44 1 0 45
1 0 46 1 0 47 1 0 48 1 0 49 1 0 4a 1 0 11 1 0 12 1 0 13 1 0 14 1 0 15 1 0 16 1 0 17 1 0 18 1 0 19
1 0 1a 1 0 1b 1 0 1c 1 0 1d 1 0 1e 1 0 1f 1 0 20 1 0 21 1 0 22 1 0 23 1 0 24 1 0 25 1 0 26 1 0 27
1 0 28 1 0 29 1 0 2a 1 0 31 1 0 32 1 0 33 1 0 34 1 0 35 1 0 36 1 0 37 1 0 38 1 0 39 1 0 3a 1 0 3b
1 0 3c 1 0 3d 1 0 3e 1 0 3f 1 0 40 1 0 41 1 0 42 1 0 43 1 0 44 1 0 45 1 0 46 1 0 47 1 0 48 1 0 49
1 0 4a 1 0 11 1 0 12 1 0 13 1 0 14 1 0 15 1 0 16 1 0 17 1 0 18 1 0 19 1 0 1a 1 0 1b 1 0 1c 1 0 1d
1 0 1e 1 0 1f 1 0 20 1 0 21 1 0 22 1 0 23 1 0 24 1 0 25 1 0 26 1 0 27 1 0 28 1 0 29 1 0 2a 1 0 31
1 0 32 1 0 33 1 0 34 1 0 35 1 0 36 1 0 37 1 0 38 1 0 39 1 0 3a 1 0 3b 1 0 3c 1 0 3d 1 0 3e 1 0 3f
1 0 40 1 0 41 1 0 42 1 0 43 1 0 44 1 0 45 1 0 46 1 0 47 1 0 48 1 0 49 1 0 4a 1 0 11 1 0 12 1 0 13
1 0 14 1 0 15 1 0 16 1 0 17 1 0 18 1 0 19 1 0 1a 1 0 1b 1 0 1c 1 0 1d 1 0 1e 1 0 1f 1 0 20 1 0 21
1 0 22 1 0 23 1 0 24 1 0 25 1 0 26 1 0 27 1 0 28 1 0 29 1 0 2a 1 0 31 1 0 32 1 0 33 1 0 34 1 0 35
1 0 36 1 0 37 1 0 38 1 0 39 1 0 3a 1 0 3b 1 0 3c 1 0 3d 1 0 3e 1 0 3f 1 0 40 1 0 41 1 0 42 1 0 43
1 0 44 1 0 45 1 0 46 1 0 47 1 0 48 1 0 49 1 0 4a 1 0 11 1 0 12 1 0 13 1 0 14 1 0 15 1 0 16 1 0 17
1 0 18 1 0 19 1 0 1a 1 0 1b 1 0 1c 1 0 1d 1 0 1e 1 0 1f 1 0 20 1 0 21 1 0 22 1 0 23 1 0 24 1 0 25
1 0 26 1 0 27 1 0 28 1 0 29 1 0 2a 1 0 31 1 0 32 1 0 33 1 0 34 1 0 35 1 0 36 1 0 37 1 0 38 1 0 39
1 0 3a 1 0 3b 1 0 3c 1 0 3d 1 0 3e 1 0 3f 1 0 40 1 0 41 1 0 42 1 0 43 1 0 44 1 0 45 1 0 46 1 0 47
1 0 48 1 0 49 1 0 4a 1 0 11 1 0 12 1 0 13 1 0 14 1 0 15 1 0 16 1 0 17 1 0 18 1 0 19 1 0 1a 1 0 1b
1 0 1c 1 0 1d 1 0 1e 1 0 1f 1 0 20 1 0 21 1 0 22 1 0 23 1 0 24 1 0 25 1 0 26 1 0 27 1 0 28 1 0 29
1 0 2a 1 0 31 1 0 32 1 0 33 1 0 34 1 0 35 1 0 36 1 0 37 1 0 38 1 0 39 1 0 3a 1 0 3b 1 0 3c 1 0 3d
1 0 3e 1 0 3f 1 0 40 1 0 41 1 0 42 1 0 43 1 0 44 1 0 45 1 0 46 1 0 47 1 0 48 1 0 49 1 0 4a 1 0
101 1 0 207 3 0 361 1 0 362 1 0 363 1 0 364 1 0 365 1 0 366 1 0 367 1 0 368 1 0 369 1 0 36a 1 0
36b 1 0 36c 1 0 36d 1 0 36e 1 0 36f 1 0 370 1 0 371 1 0 368 1 0 373 1 0 374 1 0 375 1 0 376 1 0
377 1 0 378 1 0 379 2 0 381 1 0 382 1 0 383 1 0 384 1 0 385 1 0 386 1 0 387 1 0 388 1 0 389 1 0
38a 1 0 38b 1 0 38c 1 0 38d 1 0 38e 1 0 38f 1 0 390 1 0 391 1 0 392 1 0 393 1 0 394 1 0 395 1 0
396 1 0 397 1 0 398 1 0 399 2 0 385 1 0 388 1 0 38a 1 0 396 1 0 391 1 0 390 1 0 361 1 0 362 1 0
363 1 0 364 1 0 365 1 0 366 1 0 367 1 0 368 1 0 369 1 0 36a 1 0 36b 1 0 36c 1 0 36d 1 0 36e 1 0
36f 1 0 370 1 0 371 1 0 368 1 0 373 1 0 374 1 0 375 1 0 376 1 0 377 1 0 378 1 0 379 2 0 381 1 0
382 1 0 383 1 0 384 1 0 385 1 0 386 1 0 387 1 0 388 1 0 389 1 0 38a 1 0 38b 1 0 38c 1 0 38d 1 0
38e 1 0 38f 1 0 390 1 0 391 1 0 392 1 0 393 1 0 394 1 0 395 1 0 396 1 0 397 1 0 398 1 0 399 2 0
385 1 0 388 1 0 38a 1 0 396 1 0 391 1 0 390 1 0 361 1 0 362 1 0 363 1 0 364 1 0 365 1 0 366 1 0
367 1 0 368 1 0 369 1 0 36a 1 0 36b 1 0 36c 1 0 36d 1 0 36e 1 0 36f 1 0 370 1 0 371 1 0 368 1 0
373 1 0 374 1 0 375 1 0 376 1 0 377 1 0 378 1 0 379 2 0 381 1 0 382 1 0 383 1 0 384 1 0 385 1 0
386 1 0 387 1 0 388 1 0 389 1 0 38a 1 0 38b 1 0 38c 1 0 38d 1 0 38e 1 0 38f 1 0 390 1 0 391 1 0
392 1 0 393 1 0 394 1 0 395 1 0 396 1 0 397 1 0 398 1 0 399 2 0 385 1 0 388 1 0 38a 1 0 396 1 0
391 1 0 390 1 0 361 1 0 362 1 0 363 1 0 364 1 0 365 1 0 366 1 0 367 1 0 368 1 0 369 1 0 36a 1 0
36b 1 0 36c 1 0 36d 1 0 36e 1 0 36f 1 0 370 1 0 371 1 0 368 1 0 373 1 0 374 1 0 375 1 0 376 1 0
377 1 0 378 1 0 379 2 0 381 1 0 382 1 0 383 1 0 384 1 0 385 1 0 386 1 0 387 1 0 388 1 0 389 1 0
38a 1 0 38b 1 0 38c 1 0 38d 1 0 38e 1 0 38f 1 0 390 1 0 391 1 0 392 1 0 393 1 0 394 1 0 395 1 0
396 1 0 397 1 0 398 1 0 399 2 0 385 1 0 388 1 0 38a 1 0 396 1 0 391 1 0 390 1 0 361 1 0 362 1 0
363 1 0 364 1 0 365 1 0 366 1 0 367 1 0 368 1 0 369 1 0 36a 1 0 36b 1 0 36c 1 0 36d 1 0 36e 1 0
36f 1 0 370 1 0 371 1 0 368 1 0 373 1 0 374 1 0 375 1 0 376 1 0 377 1 0 378 1 0 379 2 0 381 1 0
382 1 0 383 1 0 384 1 0 385 1 0 386 1 0 387 1 0 388 1 0 389 1 0 38a 1 0 38b 1 0 38c 1 0 38d 1 0
38e 1 0 38f 1 0 390 1 0 391 1 0 392 1 0 393 1 0 394 1 0 395 1 0 396 1 0 397 1 0 398 1 0 399 2 0
385 1 0 388 1 0 38a 1 0 396 1 0 391 1 0 390 1 0 3ac 1 0 3ad 3 0 0 1 0 1 1 0 2 1 0 3 1 0 4 1 0 5 1
0 6 1 0 7 1 0 8 1 0 9 1 0 0 1 0 1 1 0 2 1 0 3 1 0 4 1 0 5 1 0 6 1 0 7 1 0 8 1 0 9 1 0 0 1 0 1 1 0
2 1 0 3 1 0 4 1 0 5 1 0 6 1 0 7 1 0 8 1 0 9 1 0 0 1 0 1 1 0 2 1 0 3 1 0 4 1 0 5 1 0 6 1 0 7 1 0 8
1 0 9 1 0 0 1 0 1 1 0 2 1 0 3 1 0 4 1 0 5 1 0 6 1 0 7 1 0 8 1 0 9 1601 0 5f7 1 0 5f8 1 0 5fc 1 0
5ff 2 0 618 1 0 602 1 0 5fd 1 0 607 1 0 61a 1 0 613 1 0 614 1 0 615 1 0 616 1 0 603 1 0 609 1 0
611 1 0 605 1 0 612 1 0 601 1 0 604 1 0 5fa 1 0 5fb 1 0 5fe 1 0 600 1 0 606 1 0 608 1 0 60a 1 0
63e 1 0 68a 1 0 671 1 0 63f 2 0 5f8 1 0 5fc 2 0 617 3 0 5fd 2 0 61a 1 0 613 1 0 614 1 0 615 1 0
616 1 0 603 1 0 609 1 0 611 1 0 605 1 0 612 2 0 604 1 0 5fa 1 0 5fb 1 0 5fe 2 0 606 2 0 60a 7 0
5fc 5 0 5fd 2 0 61a 2 0 614 2 0 616 1 0 603 1 0 609 2 0 605 1 0 612 2 0 604 3 0 5fe 2 0 606 2 0
60a 2 0 68a 2 0 63f 2 0 5f8 1 0 5fc 2 0 617 3 0 5fd 1 0 607 1 0 61a 1 0 613 2 0 615 1 0 616 1 0
603 1 0 609 1 0 611 1 0 605 1 0 612 2 0 604 1 0 5fa 1 0 5fb 1 0 5fe 2 0 606 1 0 608 1 0 60a 1 0
63e 2 0 671 2 0 5f7 1 0 5f8 1 0 5fc 1 0 5ff 1 0 617 1 0 618 1 0 602 1 0 5fd 1 0 607 1 0 61a 2 0
614 1 0 615 1 0 616 1 0 603 1 0 609 1 0 611 1 0 605 1 0 612 1 0 601 1 0 604 1 0 5fa 1 0 5fb 1 0
5fe 1 0 600 1 0 606 1 0 608 1 0 60a 6 0 5f8 1 0 5fc 1 0 5ff 2 0 618 1 0 602 1 0 5fd 1 0 607 1 0
61a 2 0 614 1 0 615 1 0 616 1 0 603 1 0 609 1 0 611 1 0 605 1 0 612 1 0 601 1 0 604 1 0 5fa 1 0
5fb 1 0 5fe 1 0 600 1 0 606 1 0 608 1 0 60a d35 0 0 1 0 1 1 0 2 1 0 3 1 0 4 1 0 5 1 0 6 1 0 7 1 0
8 1 0 9 fc07 0 4e0d 1 0 4e08 1 0 4e11 1 0 200f2 1 0 4f30 1 0 4f7e 1 0 4f8b 1 0 4fd2 1 0 504a 1 0
5069 1 0 50b7 1 0 509f 1 0 346e 1 0 2060a 1 0 511d 1 0 5124 1 0 5134 1 0 5147 1 0 204ec 1 0 3489
1 0 5137 1 0 515d 1 0 2051b 1 0 5167 1 0 5174 1 0 4e9c 1 0 517c 1 0 5185 1 0 291af 1 0 51c5 1 0
51d3 1 0 34af 1 0 520b 1 0 5216 1 0 5242 1 0 5247 1 0 34e5 1 0 5297 1 0 5299 1 0 52b4 1 0 52ca 1
0 52d5 1 0 52d6 1 0 52e7 1 0 5319 1 0 5321 1 0 532a 1 0 5343 1 0 534d 1 0 534f 1 0 534f 1 0 534f
1 0 209fc 1 0 7040 1 0 539a 1 0 53af 1 0 20b33 1 0 53bb 1 0 53c1 1 0 53d6 1 0 546e 1 0 5408 1 0
5418 1 0 5438 1 0 5472 1 0 54c6 1 0 54e0 1 0 5523 1 0 5533 1 0 5554 1 0 5554 1 0 5569 1 0 557b 1
0 5583 1 0 5592 1 0 56e6 1 0 55d6 1 0 56e7 1 0 5621 1 0 5644 1 0 51d7 1 0 58be 1 0 579e 1 0 57c4
1 0 57dd 1 0 575b 1 0 5802 1 0 5801 1 0 587c 1 0 214b4 1 0 58c2 1 0 58c7 1 0 58d6 1 0 58ea 1 0
58f2 1 0 5932 1 0 21678 1 0 216ba 1 0 59bc 1 0 59eb 1 0 59f7 1 0 59a8 1 0 5a36 1 0 36be 1 0 36cc
1 0 5ad8 1 0 5b0e 1 0 5b0e 1 0 21998 1 0 5b93 1 0 5ba8 1 0 5bb7 1 0 5bc3 1 0 21ae8 1 0 5bcf 1 0
5bd6 1 0 5f23 1 0 5bf2 1 0 3751 1 0 5c30 1 0 5c3e 1 0 5c90 1 0 5c5d 1 0 21db4 1 0 5d13 1 0 21db6
1 0 5d3e 1 0 5d3b 1 0 5d4c 1 0 5db1 1 0 5db2 1 0 37ff 1 0 5dcd 1 0 5df8 1 0 5e0d 1 0 5e39 1 0
3832 1 0 22153 1 0 384c 1 0 5e80 1 0 5e83 1 0 5e86 1 0 5e9a 1 0 2a362 1 0 5ece 1 0 22301 1 0
22301 1 0 81d1 1 0 5ef2 1 0 5ef2 1 0 3897 1 0 23288 1 0 261aa 1 0 5f32 1 0 5f3b 1 0 38b3 1 0 5f6a
1 0 5f9d 1 0 5fa7 1 0 5fc9 1 0 6051 1 0 390a 1 0 38ec 1 0 6064 1 0 226a4 1 0 6097 1 0 6118 1 0
611c 1 0 611e 1 0 611c 1 0 614a 1 0 615e 1 0 6182 1 0 6174 1 0 617f 1 0 61ae 1 0 61c2 1 0 61c6 1
0 61e0 1 0 61eb 1 0 622d 1 0 6281 1 0 62a4 1 0 6320 1 0 22adc 1 0 630d 1 0 62cc 1 0 6338 1 0 6353
1 0 63b4 1 0 22bc1 1 0 63f2 1 0 6395 1 0 6379 1 0 39fe 1 0 6439 1 0 644e 1 0 646d 1 0 6447 1 0
3a3c 1 0 651f 1 0 653c 1 0 22fda 1 0 65b3 1 0 66c8 1 0 6619 1 0 3ae9 1 0 6661 1 0 3ad8 1 0 3ab4 1
0 5162 1 0 5165 1 0 66d0 1 0 666c 1 0 807d 1 0 43a9 1 0 66e7 1 0 66eb 1 0 66f1 1 0 672e 1 0 6723
1 0 23393 1 0 3b19 1 0 67ca 1 0 6755 1 0 6822 1 0 6855 1 0 2343d 1 0 685e 1 0 67ef 1 0 68e4 1 0
3b6d 1 0 6912 1 0 6973 1 0 69ba 1 0 6a78 1 0 23673 1 0 6aab 1 0 3be8 1 0 6af1 1 0 23877 1 0 6b24
1 0 3c1e 1 0 6b42 1 0 6b6f 1 0 6b8a 1 0 6b8b 1 0 23a5d 1 0 21cdb 1 0 23aca 1 0 6c1e 1 0 23c8c 1 0
6c8f 1 0 6c9d 1 0 6c37 1 0 6ce6 1 0 6d0e 1 0 6d47 1 0 6d11 1 0 6d39 1 0 6d48 1 0 6d55 1 0 23cee 1
0 6d04 1 0 6dff 1 0 6e3e 1 0 3d03 1 0 6e9b 1 0 6e97 1 0 23ea1 1 0 6dc9 1 0 6f3e 1 0 23f2e 1 0
23f5e 1 0 6f96 1 0 7009 1 0 6fee 1 0 6feb 1 0 3d66 1 0 701a 1 0 704d 1 0 7047 1 0 707d 1 0 204f5
1 0 7115 1 0 24233 1 0 716c 1 0 2437b 1 0 71f8 1 0 7205 1 0 7220 1 0 245d8 1 0 7250 1 0 7265 1 0
24705 1 0 247e4 1 0 734a 1 0 735b 1 0 3e7c 1 0 7375 1 0 3e88 1 0 3e88 1 0 7417 1 0 742c 1 0 7441
1 0 7455 1 0 749a 1 0 3eeb 1 0 74f4 1 0 24c06 1 0 750e 1 0 24c62 1 0 7540 1 0 2216f 1 0 75e0 1 0
24f71 1 0 24f88 1 0 25014 1 0 3fcc 1 0 3fd8 1 0 76c4 1 0 250c3 1 0 250c2 1 0 250e9 1 0 25103 1 0
76ee 1 0 76ef 1 0 76ef 1 0 771a 1 0 4009 1 0 775b 1 0 4016 1 0 4066 1 0 253ed 1 0 781e 1 0 785c 1
0 789c 1 0 40b3 1 0 255f6 1 0 7926 1 0 2566a 1 0 25695 1 0 795f 1 0 79bb 1 0 40ff 1 0 7a10 1 0
7a1a 1 0 7a1f 1 0 2594c 1 0 25a77 1 0 25a77 1 0 7abe 1 0 41d2 1 0 25b7b 1 0 7b96 1 0 7b99 1 0
41f7 1 0 25c50 1 0 7ca2 1 0 4270 1 0 7cb8 1 0 7cb3 1 0 7cd0 1 0 25f56 1 0 7d33 1 0 42d1 1 0 7d97
1 0 7dd2 1 0 7e15 1 0 4304 1 0 261f8 1 0 26217 1 0 4329 1 0 262a9 1 0 7f4a 1 0 2630e 1 0 7f65 1 0
7fca 1 0 7fd5 1 0 264aa 1 0 264f3 1 0 8030 1 0 26578 1 0 8040 1 0 2332f 1 0 43a5 1 0 8082 1 0
80d3 1 0 43db 1 0 810e 1 0 5a85 1 0 26777 1 0 26785 1 0 23363 1 0 2336c 1 0 81d1 1 0 81d4 1 0
8f6e 1 0 443b 1 0 8261 1 0 825b 1 0 826d 1 0 5283 1 0 8281 1 0 8283 1 0 828d 1 0 82b6 1 0 26b0c 1
0 82b5 1 0 82ed 1 0 8333 1 0 837d 1 0 82f3 1 0 838d 1 0 83b7 1 0 8427 1 0 8323 1 0 839a 1 0 839c
1 0 83ac 1 0 26c06 1 0 26d3b 1 0 26ca5 1 0 44fb 1 0 84c1 1 0 84c3 1 0 84e6 1 0 2739a 1 0 8534 1 0
26efc 1 0 452d 1 0 4531 1 0 26f81 1 0 270a2 1 0 453b 1 0 8620 1 0 862c 1 0 8637 1 0 8639 1 0 8679
1 0 8658 1 0 86de 1 0 86b2 1 0 8749 1 0 86f8 1 0 873b 1 0 8756 1 0 45a7 1 0 87b1 1 0 87d1 1 0
45c9 1 0 8830 1 0 8833 1 0 27637 1 0 88a7 1 0 88ae 1 0 4605 1 0 88ca 1 0 348b 1 0 2787e 1 0 27936
1 0 468e 1 0 4697 1 0 8a70 1 0 8abd 1 0 8b5a 1 0 8c25 1 0 27c78 1 0 8c7b 1 0 8c91 1 0 8ceb 1 0
8d47 1 0 27eff 1 0 207d4 1 0 8d9b 1 0 8d8c 1 0 8dc0 1 0 208ae 1 0 8ea4 1 0 8f08 1 0 285a2 1 0
285bd 1 0 9064 1 0 90c1 1 0 90e1 1 0 286fe 1 0 90eb 1 0 9208 1 0 92a7 1 0 92a8 1 0 924c 1 0 93c9
1 0 93e5 1 0 28bca 1 0 955b 1 0 4965 1 0 9587 1 0 28d47 1 0 49b6 1 0 9693 1 0 5d82 1 0 96f3 1 0
29115 1 0 291ea 1 0 4a3e 1 0 4a46 1 0 97b0 1 0 293da 1 0 4a82 1 0 29466 1 0 97db 1 0 97db 1 0
97f9 1 0 29586 1 0 98b2 1 0 4b03 1 0 98f9 1 0 9977 1 0 9992 1 0 99ce 1 0 4b9e 1 0 29b00 1 0 9ae2
1 0 9c10 1 0 9ccd 1 0 4c9e 1 0 4cbd 1 0 9d37 1 0 2a09e 1 0 4cc8 1 0 2a0d5 1 0 2a1de 1 0 2a261 1 0
9e8b 1 0 4d26 1 0 9ec9 1 0 9ece 1 0 9ed5 1 0 9edf 1 0 9ee6 1 0 9f0b 1 0 2a5d0"

/-- Runs of code points with one combining class: the first of them, their number, and the class. -/
def combiningClassText : String := "300 15 e6 315 1 e8 316 4 dc 31a 1 e8 31b 1 d8 31c 5 dc 321 2 ca 323 4 dc 327 2 ca 329 b dc 334 5 1
339 4 dc 33d 8 e6 345 1 f0 346 1 e6 347 3 dc 34a 3 e6 34d 2 dc 350 3 e6 353 4 dc 357 1 e6 358 1 e8
359 2 dc 35b 1 e6 35c 1 e9 35d 2 ea 35f 1 e9 360 2 ea 362 1 e9 363 d e6 483 5 e6 591 1 dc 592 4 e6
596 1 dc 597 3 e6 59a 1 de 59b 1 dc 59c 6 e6 5a2 6 dc 5a8 2 e6 5aa 1 dc 5ab 2 e6 5ad 1 de 5ae 1 e4
5af 1 e6 5b0 1 a 5b1 1 b 5b2 1 c 5b3 1 d 5b4 1 e 5b5 1 f 5b6 1 10 5b7 1 11 5b8 1 12 5b9 2 13 5bb 1
14 5bc 1 15 5bd 1 16 5bf 1 17 5c1 1 18 5c2 1 19 5c4 1 e6 5c5 1 dc 5c7 1 12 610 8 e6 618 1 1e 619 1
1f 61a 1 20 64b 1 1b 64c 1 1c 64d 1 1d 64e 1 1e 64f 1 1f 650 1 20 651 1 21 652 1 22 653 2 e6 655 2
dc 657 5 e6 65c 1 dc 65d 2 e6 65f 1 dc 670 1 23 6d6 7 e6 6df 4 e6 6e3 1 dc 6e4 1 e6 6e7 2 e6 6ea 1
dc 6eb 2 e6 6ed 1 dc 711 1 24 730 1 e6 731 1 dc 732 2 e6 734 1 dc 735 2 e6 737 3 dc 73a 1 e6 73b 2
dc 73d 1 e6 73e 1 dc 73f 3 e6 742 1 dc 743 1 e6 744 1 dc 745 1 e6 746 1 dc 747 1 e6 748 1 dc 749 2
e6 7eb 7 e6 7f2 1 dc 7f3 1 e6 7fd 1 dc 816 4 e6 81b 9 e6 825 3 e6 829 5 e6 859 3 dc 898 1 e6 899 3
dc 89c 4 e6 8ca 5 e6 8cf 5 dc 8d4 e e6 8e3 1 dc 8e4 2 e6 8e6 1 dc 8e7 2 e6 8e9 1 dc 8ea 3 e6 8ed 3
dc 8f0 1 1b 8f1 1 1c 8f2 1 1d 8f3 3 e6 8f6 1 dc 8f7 2 e6 8f9 2 dc 8fb 5 e6 93c 1 7 94d 1 9 951 1
e6 952 1 dc 953 2 e6 9bc 1 7 9cd 1 9 9fe 1 e6 a3c 1 7 a4d 1 9 abc 1 7 acd 1 9 b3c 1 7 b4d 1 9 bcd
1 9 c3c 1 7 c4d 1 9 c55 1 54 c56 1 5b cbc 1 7 ccd 1 9 d3b 2 9 d4d 1 9 dca 1 9 e38 2 67 e3a 1 9 e48
4 6b eb8 2 76 eba 1 9 ec8 4 7a f18 2 dc f35 1 dc f37 1 dc f39 1 d8 f71 1 81 f72 1 82 f74 1 84 f7a
4 82 f80 1 82 f82 2 e6 f84 1 9 f86 2 e6 fc6 1 dc 1037 1 7 1039 2 9 108d 1 dc 135d 3 e6 1714 2 9
1734 1 9 17d2 1 9 17dd 1 e6 18a9 1 e4 1939 1 de 193a 1 e6 193b 1 dc 1a17 1 e6 1a18 1 dc 1a60 1 9
1a75 8 e6 1a7f 1 dc 1ab0 5 e6 1ab5 6 dc 1abb 2 e6 1abd 1 dc 1abf 2 dc 1ac1 2 e6 1ac3 2 dc 1ac5 5
e6 1aca 1 dc 1acb 4 e6 1b34 1 7 1b44 1 9 1b6b 1 e6 1b6c 1 dc 1b6d 7 e6 1baa 2 9 1be6 1 7 1bf2 2 9
1c37 1 7 1cd0 3 e6 1cd4 1 1 1cd5 5 dc 1cda 2 e6 1cdc 4 dc 1ce0 1 e6 1ce2 7 1 1ced 1 dc 1cf4 1 e6
1cf8 2 e6 1dc0 2 e6 1dc2 1 dc 1dc3 7 e6 1dca 1 dc 1dcb 2 e6 1dcd 1 ea 1dce 1 d6 1dcf 1 dc 1dd0 1
ca 1dd1 25 e6 1df6 1 e8 1df7 2 e4 1df9 1 dc 1dfa 1 da 1dfb 1 e6 1dfc 1 e9 1dfd 1 dc 1dfe 1 e6 1dff
1 dc 20d0 2 e6 20d2 2 1 20d4 4 e6 20d8 3 1 20db 2 e6 20e1 1 e6 20e5 2 1 20e7 1 e6 20e8 1 dc 20e9 1
e6 20ea 2 1 20ec 4 dc 20f0 1 e6 2cef 3 e6 2d7f 1 9 2de0 20 e6 302a 1 da 302b 1 e4 302c 1 e8 302d 1
de 302e 2 e0 3099 2 8 a66f 1 e6 a674 a e6 a69e 2 e6 a6f0 2 e6 a806 1 9 a82c 1 9 a8c4 1 9 a8e0 12
e6 a92b 3 dc a953 1 9 a9b3 1 7 a9c0 1 9 aab0 1 e6 aab2 2 e6 aab4 1 dc aab7 2 e6 aabe 2 e6 aac1 1
e6 aaf6 1 9 abed 1 9 fb1e 1 1a fe20 7 e6 fe27 7 dc fe2e 2 e6 101fd 1 dc 102e0 1 dc 10376 5 e6
10a0d 1 dc 10a0f 1 e6 10a38 1 e6 10a39 1 1 10a3a 1 dc 10a3f 1 9 10ae5 1 e6 10ae6 1 dc 10d24 4 e6
10eab 2 e6 10f46 2 dc 10f48 3 e6 10f4b 1 dc 10f4c 1 e6 10f4d 4 dc 10f82 1 e6 10f83 1 dc 10f84 1 e6
10f85 1 dc 11046 1 9 11070 1 9 1107f 1 9 110b9 1 9 110ba 1 7 11100 3 e6 11133 2 9 11173 1 7 111c0
1 9 111ca 1 7 11235 1 9 11236 1 7 112e9 1 7 112ea 1 9 1133b 2 7 1134d 1 9 11366 7 e6 11370 5 e6
11442 1 9 11446 1 7 1145e 1 e6 114c2 1 9 114c3 1 7 115bf 1 9 115c0 1 7 1163f 1 9 116b6 1 9 116b7 1
7 1172b 1 9 11839 1 9 1183a 1 7 1193d 2 9 11943 1 7 119e0 1 9 11a34 1 9 11a47 1 9 11a99 1 9 11c3f
1 9 11d42 1 7 11d44 2 9 11d97 1 9 16af0 5 1 16b30 7 e6 16ff0 2 6 1bc9e 1 1 1d165 2 d8 1d167 3 1
1d16d 1 e2 1d16e 5 d8 1d17b 8 dc 1d185 5 e6 1d18a 2 dc 1d1aa 4 e6 1d242 3 e6 1e000 7 e6 1e008 11
e6 1e01b 7 e6 1e023 2 e6 1e026 5 e6 1e130 7 e6 1e2ae 1 e6 1e2ec 4 e6 1e8d0 7 dc 1e944 6 e6 1e94a 1
7"

/-- Primary compositions: two characters, in increasing order, and the one they compose into, all of
them counted from `firstPoint`. -/
def compositionText : String := "c 308 223e d 308 2230 e 308 223f 11 2d0 90 11 2d1 91 11 2d2 92 11 2d3 93 11 2d4 d0 11 2d6 d2 11
2d7 1f6 11 2d8 94 11 2d9 1e72 11 2da 95 11 2dc 19d 11 2df 1d0 11 2e1 1d2 11 2f3 1e70 11 2f5 1dd0
11 2f8 d4 12 2d7 1dd2 12 2f3 1dd4 12 301 1dd6 13 2d1 d6 13 2d2 d8 13 2d7 da 13 2dc dc 13 2f7 97
14 2d7 1dda 14 2dc de 14 2f3 1ddc 14 2f7 1de0 14 2fd 1de2 14 301 1dde 15 2d0 98 15 2d1 99 15 2d2
9a 15 2d3 1e8c 15 2d4 e2 15 2d6 e4 15 2d7 e6 15 2d8 9b 15 2d9 1e8a 15 2dc ea 15 2df 1d4 15 2e1
1d6 15 2f3 1e88 15 2f7 1f8 15 2f8 e8 15 2fd 1de8 15 300 1dea 16 2d7 1dee 17 2d1 1c4 17 2d2 ec 17
2d4 1df0 17 2d6 ee 17 2d7 f0 17 2dc 1b6 17 2f7 f2 18 2d2 f4 18 2d7 1df2 18 2d8 1df6 18 2dc 1ee 18
2f3 1df4 18 2f7 1df8 18 2fe 1dfa 19 2d0 9c 19 2d1 9d 19 2d2 9e 19 2d3 f8 19 2d4 fa 19 2d6 fc 19
2d7 100 19 2d8 9f 19 2d9 1e98 19 2dc 19f 19 2df 1d8 19 2e1 1da 19 2f3 1e9a 19 2f8 fe 19 300 1dfc
1a 2d2 104 1b 2d1 1e00 1b 2dc 1b8 1b 2f3 1e02 1b 2f7 106 1b 301 1e04 1c 2d1 109 1c 2dc 10d 1c 2f3
1e06 1c 2f7 10b 1c 2fd 1e0c 1c 301 1e0a 1d 2d1 1e0e 1d 2d7 1e10 1d 2f3 1e12 1e 2d0 1c8 1e 2d1 113
1e 2d3 a1 1e 2d7 1e14 1e 2dc 117 1e 2f3 1e16 1e 2f7 115 1e 2fd 1e1a 1e 301 1e18 1f 2d0 a2 1f 2d1
a3 1f 2d2 a4 1f 2d3 a5 1f 2d4 11c 1f 2d6 11e 1f 2d7 1fe 1f 2d8 a6 1f 2d9 1e9e 1f 2db 120 1f 2dc
1a1 1f 2df 1dc 1f 2e1 1de 1f 2eb 170 1f 2f3 1e9c 1f 2f8 1ba 20 2d1 1e24 20 2d7 1e26 22 2d1 124 22
2d7 1e28 22 2dc 128 22 2df 1e0 22 2e1 1e2 22 2f3 1e2a 22 2f7 126 22 301 1e2e 23 2d1 12a 23 2d2
12c 23 2d7 1e30 23 2dc 130 23 2f3 1e32 23 2f6 1e8 23 2f7 12e 24 2d7 1e3a 24 2dc 134 24 2f3 1e3c
24 2f6 1ea 24 2f7 132 24 2fd 1e40 24 301 1e3e 25 2d0 a9 25 2d1 aa 25 2d2 ab 25 2d3 138 25 2d4 13a
25 2d6 13c 25 2d8 ac 25 2d9 1eb6 25 2da 13e 25 2db 140 25 2dc 1a3 25 2df 1e4 25 2e1 1e6 25 2eb
17f 25 2f3 1eb4 25 2f4 1e42 25 2f8 142 25 2fd 1e46 25 300 1e44 26 2d3 1e4c 26 2f3 1e4e 27 2d0
1e50 27 2d1 1e52 27 2d2 144 27 2d7 1e56 27 2d8 1e54 27 2f3 1e58 28 2d7 1e5a 28 2d8 1e5c 29 2d0
1ec2 29 2d1 ad 29 2d2 146 29 2d3 1ec8 29 2d4 202 29 2d7 1e5e 29 2d8 148 29 2d9 1ec6 29 2f3 1ec4
2a 2d1 149 2a 2d2 1e60 2a 2d7 14b 2a 2dc 14d 2a 2f3 1e62 2a 301 1e64 31 2d0 b0 31 2d1 b1 31 2d2
b2 31 2d3 b3 31 2d4 d1 31 2d6 d3 31 2d7 1f7 31 2d8 b4 31 2d9 1e73 31 2da b5 31 2dc 19e 31 2df 1d1
31 2e1 1d3 31 2f3 1e71 31 2f5 1dd1 31 2f8 d5 32 2d7 1dd3 32 2f3 1dd5 32 301 1dd7 33 2d1 d7 33 2d2
d9 33 2d7 db 33 2dc dd 33 2f7 b7 34 2d7 1ddb 34 2dc df 34 2f3 1ddd 34 2f7 1de1 34 2fd 1de3 34 301
1ddf 35 2d0 b8 35 2d1 b9 35 2d2 ba 35 2d3 1e8d 35 2d4 e3 35 2d6 e5 35 2d7 e7 35 2d8 bb 35 2d9
1e8b 35 2dc eb 35 2df 1d5 35 2e1 1d7 35 2f3 1e89 35 2f7 1f9 35 2f8 e9 35 2fd 1de9 35 300 1deb 36
2d7 1def 37 2d1 1c5 37 2d2 ed 37 2d4 1df1 37 2d6 ef 37 2d7 f1 37 2dc 1b7 37 2f7 f3 38 2d2 f5 38
2d7 1df3 38 2d8 1df7 38 2dc 1ef 38 2f3 1df5 38 2f7 1df9 38 2fe 1dfb 38 301 1e66 39 2d0 bc 39 2d1
bd 39 2d2 be 39 2d3 f9 39 2d4 fb 39 2d6 fd 39 2d8 bf 39 2d9 1e99 39 2dc 1a0 39 2df 1d9 39 2e1 1db
39 2f3 1e9b 39 2f8 ff 39 300 1dfd 3a 2d2 105 3a 2dc 1c0 3b 2d1 1e01 3b 2dc 1b9 3b 2f3 1e03 3b 2f7
107 3b 301 1e05 3c 2d1 10a 3c 2dc 10e 3c 2f3 1e07 3c 2f7 10c 3c 2fd 1e0d 3c 301 1e0b 3d 2d1 1e0f
3d 2d7 1e11 3d 2f3 1e13 3e 2d0 1c9 3e 2d1 114 3e 2d3 c1 3e 2d7 1e15 3e 2dc 118 3e 2f3 1e17 3e 2f7
116 3e 2fd 1e1b 3e 301 1e19 3f 2d0 c2 3f 2d1 c3 3f 2d2 c4 3f 2d3 c5 3f 2d4 11d 3f 2d6 11f 3f 2d7
1ff 3f 2d8 c6 3f 2d9 1e9f 3f 2db 121 3f 2dc 1a2 3f 2df 1dd 3f 2e1 1df 3f 2eb 171 3f 2f3 1e9d 3f
2f8 1bb 40 2d1 1e25 40 2d7 1e27 42 2d1 125 42 2d7 1e29 42 2dc 129 42 2df 1e1 42 2e1 1e3 42 2f3
1e2b 42 2f7 127 42 301 1e2f 43 2d1 12b 43 2d2 12d 43 2d7 1e31 43 2dc 131 43 2f3 1e33 43 2f6 1e9
43 2f7 12f 44 2d7 1e3b 44 2d8 1e67 44 2dc 135 44 2f3 1e3d 44 2f6 1eb 44 2f7 133 44 2fd 1e41 44
301 1e3f 45 2d0 c9 45 2d1 ca 45 2d2 cb 45 2d3 139 45 2d4 13b 45 2d6 13d 45 2d8 cc 45 2d9 1eb7 45
2da 13f 45 2db 141 45 2dc 1a4 45 2df 1e5 45 2e1 1e7 45 2eb 180 45 2f3 1eb5 45 2f4 1e43 45 2f8 143
45 2fd 1e47 45 300 1e45 46 2d3 1e4d 46 2f3 1e4f 47 2d0 1e51 47 2d1 1e53 47 2d2 145 47 2d7 1e57 47
2d8 1e55 47 2da 1e68 47 2f3 1e59 48 2d7 1e5b 48 2d8 1e5d 49 2d0 1ec3 49 2d1 cd 49 2d2 147 49 2d3
1ec9 49 2d4 203 49 2d7 1e5f 49 2d8 cf 49 2d9 1ec7 49 2da 1e69 49 2f3 1ec5 4a 2d1 14a 4a 2d2 1e61
4a 2d7 14c 4a 2dc 14e 4a 2f3 1e63 4a 301 1e65 78 2d0 1fbd 78 2d1 355 78 312 1f91 92 2d0 1e76 92
2d1 1e74 92 2d3 1e7a 92 2d9 1e78 94 2d4 1ae 95 2d1 1ca 96 2d1 1cc 96 2d4 1b2 97 2d1 1dd8 9a 2d0
1e90 9a 2d1 1e8e 9a 2d3 1e94 9a 2d9 1e92 9f 2d1 1dfe a4 2d0 1ea2 a4 2d1 1ea0 a4 2d3 1ea6 a4 2d9
1ea4 a5 2d1 1e1c a5 2d4 1fc a5 2d8 1e1e a6 2d4 1fa a8 2d1 1ce ac 2d0 1ab ac 2d1 1a7 ac 2d4 1a5 ac
2dc 1a9 b2 2d0 1e77 b2 2d1 1e75 b2 2d3 1e7b b2 2d9 1e79 b4 2d4 1af b5 2d1 1cb b6 2d1 1cd b6 2d4
1b3 b7 2d1 1dd9 ba 2d0 1e91 ba 2d1 1e8f ba 2d3 1e95 ba 2d9 1e93 bf 2d1 1dff c4 2d0 1ea3 c4 2d1
1ea1 c4 2d3 1ea7 c4 2d9 1ea5 c5 2d1 1e1d c5 2d4 1fd c5 2d8 1e1f c6 2d4 1fb c8 2d1 1cf cc 2d0 1ac
cc 2d1 1a8 cc 2d4 1a6 cc 2dc 1aa d2 2d0 1e80 d2 2d1 1e7e d2 2d3 1e84 d2 2d9 1e82 d3 2d0 1e81 d3
2d1 1e7f d3 2d3 1e85 d3 2d9 1e83 e2 2d0 1de4 e2 2d1 1de6 e3 2d0 1de5 e3 2d1 1de7 11c 2d0 1e20 11c
2d1 1e22 11d 2d0 1e21 11d 2d1 1e23 12a 2d7 1e34 12b 2d7 1e35 130 2d7 1e36 131 2d7 1e37 138 2d1
1e48 139 2d1 1e49 13a 2d8 1e4a 13b 2d8 1e4b 14f 2d7 1e6b 170 2d0 1eac 170 2d1 1eaa 170 2d3 1eb0
170 2d9 1eae 170 2f3 1eb2 171 2d0 1ead 171 2d1 1eab 171 2d3 1eb1 171 2d9 1eaf 171 2f3 1eb3 17f
2d0 1eba 17f 2d1 1eb8 17f 2d3 1ebe 17f 2d9 1ebc 17f 2f3 1ec0 180 2d0 1ebb 180 2d1 1eb9 180 2d3
1ebf 180 2d9 1ebd 180 2f3 1ec1 187 2dc 1be 1ba 2d4 1bc 1bb 2d4 1bd 1f6 2d4 1b0 1f7 2d4 1b1 1f8
2d6 1dec 1f9 2d6 1ded 1fe 2d4 200 1ff 2d4 201 262 2dc 1bf 361 2d0 1f8a 361 2d1 356 361 2d4 1f89
361 2d6 1f88 361 2e3 1ed8 361 2e4 1ed9 361 315 1f8c 365 2d0 1f98 365 2d1 358 365 2e3 1ee8 365 2e4
1ee9 367 2d0 1f9a 367 2d1 359 367 2e3 1ef8 367 2e4 1ef9 367 315 1f9c 369 2d0 1faa 369 2d1 35a 369
2d4 1fa9 369 2d6 1fa8 369 2d8 37a 369 2e3 1f08 369 2e4 1f09 36f 2d0 1fc8 36f 2d1 35c 36f 2e3 1f18
36f 2e4 1f19 371 2e4 1fbc 375 2d0 1fba 375 2d1 35e 375 2d4 1fb9 375 2d6 1fb8 375 2d8 37b 375 2e4
1f29 379 2d0 1fca 379 2d1 35f 379 2e3 1f38 379 2e4 1f39 379 315 1fcc 37c 315 1f84 37e 315 1f94
381 2d0 1f40 381 2d1 37c 381 2d4 1f81 381 2d6 1f80 381 2e3 1ed0 381 2e4 1ed1 381 312 1f86 381 315
1f83 385 2d0 1f42 385 2d1 37d 385 2e3 1ee0 385 2e4 1ee1 387 2d0 1f44 387 2d1 37e 387 2e3 1ef0 387
2e4 1ef1 387 312 1f96 387 315 1f93 389 2d0 1f46 389 2d1 37f 389 2d4 1fa1 389 2d6 1fa0 389 2d8 39a
389 2e3 1f00 389 2e4 1f01 389 312 1fa6 38f 2d0 1f48 38f 2d1 39c 38f 2e3 1f10 38f 2e4 1f11 391 2e3
1fb4 391 2e4 1fb5 395 2d0 1f4a 395 2d1 39d 395 2d4 1fb1 395 2d6 1fb0 395 2d8 39b 395 2e3 1f20 395
2e4 1f21 395 312 1fb6 399 2d0 1f4c 399 2d1 39e 399 2e3 1f30 399 2e4 1f31 399 312 1fc6 399 315
1fc3 39a 2d0 1fa2 39a 2d1 360 39a 312 1fa7 39b 2d0 1fb2 39b 2d1 380 39b 312 1fb7 39e 315 1fc4 3a2
2d1 3a3 3a2 2d8 3a4 3d6 2d8 3d7 3e0 2d6 4a0 3e0 2d8 4a2 3e3 2d1 3d3 3e5 2d0 3d0 3e5 2d6 4a6 3e5
2d8 3d1 3e6 2d6 491 3e6 2d8 4ac 3e7 2d8 4ae 3e8 2d0 3dd 3e8 2d4 4b2 3e8 2d6 3e9 3e8 2d8 4b4 3ea
2d1 3dc 3ee 2d8 4b6 3f3 2d4 4be 3f3 2d6 3de 3f3 2d8 4c0 3f3 2db 4c2 3f7 2d8 4c4 3fb 2d8 4c8 3fd
2d8 4bc 400 2d6 4a1 400 2d8 4a3 403 2d1 423 405 2d0 420 405 2d6 4a7 405 2d8 421 406 2d6 492 406
2d8 4ad 407 2d8 4af 408 2d0 42d 408 2d4 4b3 408 2d6 409 408 2d8 4b5 40a 2d1 42c 40e 2d8 4b7 413
2d4 4bf 413 2d6 42e 413 2d8 4c1 413 2db 4c3 417 2d8 4c5 41b 2d8 4c9 41d 2d8 4bd 426 2d8 427 444
2df 446 445 2df 447 4a8 2d8 4aa 4a9 2d8 4ab 4b8 2d8 4ba 4b9 2d8 4bb 5f7 623 5f2 5f7 624 5f3 5f7
625 5f5 618 624 5f4 61a 624 5f6 691 624 692 6a2 624 6a3 6a5 624 690 8f8 90c 8f9 900 90c 901 903
90c 904 997 98e 99b 997 9a7 99c b17 b0e b1b b17 b26 b18 b17 b27 b1c b62 ba7 b64 b96 b8e b9a b96
ba7 b9c b97 b8e b9b c16 c26 c18 c8f ca5 c90 c96 c92 c9a c96 ca5 c97 c96 ca6 c98 c9a ca5 c9b d16
d0e d1a d16 d27 d1c d17 d0e d1b da9 d9a daa da9 d9f dac da9 daf dae dac d9a dad ff5 ffe ff6 1ad5
1b05 1ad6 1ad7 1b05 1ad8 1ad9 1b05 1ada 1adb 1b05 1adc 1add 1b05 1ade 1ae1 1b05 1ae2 1b0a 1b05
1b0b 1b0c 1b05 1b0d 1b0e 1b05 1b10 1b0f 1b05 1b11 1b12 1b05 1b13 1e06 2d4 1e08 1e07 2d4 1e09 1e2a
2d4 1e2c 1e2b 2d4 1e2d 1e32 2d7 1e38 1e33 2d7 1e39 1e70 2d2 1e7c 1e70 2d6 1e86 1e71 2d2 1e7d 1e71
2d6 1e87 1e88 2d2 1e96 1e89 2d2 1e97 1e9c 2d2 1ea8 1e9d 2d2 1ea9 1ed0 2d0 1ed2 1ed0 2d1 1ed4 1ed0
312 1ed6 1ed0 315 1f50 1ed1 2d0 1ed3 1ed1 2d1 1ed5 1ed1 312 1ed7 1ed1 315 1f51 1ed2 315 1f52 1ed3
315 1f53 1ed4 315 1f54 1ed5 315 1f55 1ed6 315 1f56 1ed7 315 1f57 1ed8 2d0 1eda 1ed8 2d1 1edc 1ed8
312 1ede 1ed8 315 1f58 1ed9 2d0 1edb 1ed9 2d1 1edd 1ed9 312 1edf 1ed9 315 1f59 1eda 315 1f5a 1edb
315 1f5b 1edc 315 1f5c 1edd 315 1f5d 1ede 315 1f5e 1edf 315 1f5f 1ee0 2d0 1ee2 1ee0 2d1 1ee4 1ee1
2d0 1ee3 1ee1 2d1 1ee5 1ee8 2d0 1eea 1ee8 2d1 1eec 1ee9 2d0 1eeb 1ee9 2d1 1eed 1ef0 2d0 1ef2 1ef0
2d1 1ef4 1ef0 312 1ef6 1ef0 315 1f60 1ef1 2d0 1ef3 1ef1 2d1 1ef5 1ef1 312 1ef7 1ef1 315 1f61 1ef2
315 1f62 1ef3 315 1f63 1ef4 315 1f64 1ef5 315 1f65 1ef6 315 1f66 1ef7 315 1f67 1ef8 2d0 1efa 1ef8
2d1 1efc 1ef8 312 1efe 1ef8 315 1f68 1ef9 2d0 1efb 1ef9 2d1 1efd 1ef9 312 1eff 1ef9 315 1f69 1efa
315 1f6a 1efb 315 1f6b 1efc 315 1f6c 1efd 315 1f6d 1efe 315 1f6e 1eff 315 1f6f 1f00 2d0 1f02 1f00
2d1 1f04 1f00 312 1f06 1f01 2d0 1f03 1f01 2d1 1f05 1f01 312 1f07 1f08 2d0 1f0a 1f08 2d1 1f0c 1f08
312 1f0e 1f09 2d0 1f0b 1f09 2d1 1f0d 1f09 312 1f0f 1f10 2d0 1f12 1f10 2d1 1f14 1f11 2d0 1f13 1f11
2d1 1f15 1f18 2d0 1f1a 1f18 2d1 1f1c 1f19 2d0 1f1b 1f19 2d1 1f1d 1f20 2d0 1f22 1f20 2d1 1f24 1f20
312 1f26 1f21 2d0 1f23 1f21 2d1 1f25 1f21 312 1f27 1f29 2d0 1f2b 1f29 2d1 1f2d 1f29 312 1f2f 1f30
2d0 1f32 1f30 2d1 1f34 1f30 312 1f36 1f30 315 1f70 1f31 2d0 1f33 1f31 2d1 1f35 1f31 312 1f37 1f31
315 1f71 1f32 315 1f72 1f33 315 1f73 1f34 315 1f74 1f35 315 1f75 1f36 315 1f76 1f37 315 1f77 1f38
2d0 1f3a 1f38 2d1 1f3c 1f38 312 1f3e 1f38 315 1f78 1f39 2d0 1f3b 1f39 2d1 1f3d 1f39 312 1f3f 1f39
315 1f79 1f3a 315 1f7a 1f3b 315 1f7b 1f3c 315 1f7c 1f3d 315 1f7d 1f3e 315 1f7e 1f3f 315 1f7f 1f40
315 1f82 1f44 315 1f92 1f4c 315 1fc2 1f86 315 1f87 1f8f 2d0 1f9d 1f8f 2d1 1f9e 1f8f 312 1f9f 1f96
315 1f97 1fc6 315 1fc7 1fce 2d0 1fad 1fce 2d1 1fae 1fce 312 1faf 2160 308 216a 2162 308 216b 2164
308 217e 21a0 308 219d 21a2 308 219f 21a4 308 219e 21d3 308 21d4 21d8 308 21d9 21db 308 21dc 21f3
308 21f4 21f5 308 21f6 220c 308 2211 2213 308 2214 2215 308 2217 2218 308 2219 221d 308 223d 2231
308 2232 2234 308 2240 2235 308 2241 2242 308 2244 2243 308 2245 2246 308 2248 2247 308 2249 224a
308 2250 224b 308 2251 224c 308 22b0 224d 308 22b1 2252 308 2254 2253 308 2255 2256 308 2258 2257
308 2259 2261 308 22b2 2262 308 22b3 2272 308 227c 2278 308 227d 2279 308 227e 227b 308 227f 2282
308 22ba 2283 308 22bb 2284 308 22bc 2285 308 22bd 3016 3069 3064 301b 3069 301c 301d 3069 301e
301f 3069 3020 3021 3069 3022 3023 3069 3024 3025 3069 3026 3027 3069 3028 3029 3069 302a 302b
3069 302c 302d 3069 302e 302f 3069 3030 3031 3069 3032 3034 3069 3035 3036 3069 3037 3038 3069
3039 303f 3069 3040 303f 306a 3041 3042 3069 3043 3042 306a 3044 3045 3069 3046 3045 306a 3047
3048 3069 3049 3048 306a 304a 304b 3069 304c 304b 306a 304d 306d 3069 306e 3076 3069 30c4 307b
3069 307c 307d 3069 307e 307f 3069 3080 3081 3069 3082 3083 3069 3084 3085 3069 3086 3087 3069
3088 3089 3069 308a 308b 3069 308c 308d 3069 308e 308f 3069 3090 3091 3069 3092 3094 3069 3095
3096 3069 3097 3098 3069 3099 309f 3069 30a0 309f 306a 30a1 30a2 3069 30a3 30a2 306a 30a4 30a5
3069 30a6 30a5 306a 30a7 30a8 3069 30a9 30a8 306a 30aa 30ab 3069 30ac 30ab 306a 30ad 30bf 3069
30c7 30c0 3069 30c8 30c1 3069 30c9 30c2 3069 30ca 30cd 3069 30ce 11069 1108a 1106a 1106b 1108a
1106c 11075 1108a 1107b 11101 110f7 110fe 11102 110f7 110ff 11317 1130e 1131b 11317 11327 1131c
11489 11480 1148c 11489 1148a 1148b 11489 1148d 1148e 11588 1157f 1158a 11589 1157f 1158b 11905
11900 11908"

end Bundler.Text.Normalization
