import Enrolment.Text.CharSet

/-!
Combining marks and their classes: marks of different classes do not interact, so that their order
has no meaning. A character that is not listed has class 0 and is never moved.
-/

namespace Enrolment
namespace Text

def combiningClasses : List (Nat × CharSet) :=
  [(1, .ofHex ["334 5 199b 1 d 7 3e9 2 4 3 a 2 3 2 e94d 1 60b6 5 51a9 1 14c8 3"]),
    (6, .ofHex ["16ff0 2"]),
    (7, .ofHex
      ["93c 1 7f 1 7f 1 7f 1 7f 1 ff 1 7f 1 37a 1 afc 1 b1 1 50 1 8d7b 1 6706 1 b8 1 56 1 6b 1",
        "b2 1 51 2 109 1 7c 1 fc 1 f6 1 182 1 108 1 3fe 1 cc07 1"]),
    (8, .ofHex ["3099 2"]),
    (9, .ofHex
      ["94d 1 7f 1 7f 1 7f 1 7f 1 7f 1 7f 1 7f 1 6d 2 10 1 7c 1 6f 1 7f 1 c9 1 b4 2 6d9 2 1e 1",
        "9d 1 28d 1 e3 1 65 2 46 2 118b 1 7a86 1 25 1 97 1 8e 1 6c 1 135 1 f6 1 5e51 1 606 1 29 1",
        "e 1 39 1 79 2 8b 1 74 1 b4 1 62 1 80 3 71 1 7f 1 fc 1 7f 1 76 1 74 1 10d 1 103 2 a1 1 53",
        "1 12 1 51 1 1a5 1 104 2 51 1 1a9 2 41ec 1"]),
    (10, .ofHex ["5b0 1"]),
    (11, .ofHex ["5b1 1"]),
    (12, .ofHex ["5b2 1"]),
    (13, .ofHex ["5b3 1"]),
    (14, .ofHex ["5b4 1"]),
    (15, .ofHex ["5b5 1"]),
    (16, .ofHex ["5b6 1"]),
    (17, .ofHex ["5b7 1"]),
    (18, .ofHex ["5b8 1 e 1"]),
    (19, .ofHex ["5b9 2"]),
    (20, .ofHex ["5bb 1"]),
    (21, .ofHex ["5bc 1"]),
    (22, .ofHex ["5bd 1"]),
    (23, .ofHex ["5bf 1"]),
    (24, .ofHex ["5c1 1"]),
    (25, .ofHex ["5c2 1"]),
    (26, .ofHex ["fb1e 1"]),
    (27, .ofHex ["64b 1 2a4 1"]),
    (28, .ofHex ["64c 1 2a4 1"]),
    (29, .ofHex ["64d 1 2a4 1"]),
    (30, .ofHex ["618 1 35 1"]),
    (31, .ofHex ["619 1 35 1"]),
    (32, .ofHex ["61a 1 35 1"]),
    (33, .ofHex ["651 1"]),
    (34, .ofHex ["652 1"]),
    (35, .ofHex ["670 1"]),
    (36, .ofHex ["711 1"]),
    (84, .ofHex ["c55 1"]),
    (91, .ofHex ["c56 1"]),
    (103, .ofHex ["e38 2"]),
    (107, .ofHex ["e48 4"]),
    (118, .ofHex ["eb8 2"]),
    (122, .ofHex ["ec8 4"]),
    (129, .ofHex ["f71 1"]),
    (130, .ofHex ["f72 1 7 4 2 1"]),
    (132, .ofHex ["f74 1"]),
    (202, .ofHex ["321 2 4 2 1aa7 1"]),
    (214, .ofHex ["1dce 1"]),
    (216, .ofHex ["31b 1 c1d 1 1c22b 2 7 5"]),
    (218, .ofHex ["1dfa 1 122f 1"]),
    (220, .ofHex
      ["316 4 2 5 2 4 2 b 5 4 a 3 3 2 4 4 2 2 236 1 4 1 4 1 6 6 2 1 1a 1 8f 2 5 1 2 1 83 1 6 1 2",
        "1 43 1 2 1 2 3 1 2 1 1 3 1 1 1 1 1 1 1 a9 1 a 1 5b 3 3d 3 33 5 f 1 2 1 2 1 3 3 6 1 2 2",
        "57 1 5c5 2 1b 1 1 1 8e 1 c6 1 8ad 1 dc 1 66 1 35 6 2 1 1 2 2 2 5 1 12 1 8 1 85 1 168 5 2",
        "4 d 1 d4 1 7 1 4 1 29 1 3 1 1 1 2e8 1 3 4 883b 3 186 1 5372 7 3cf 1 e2 1 72c 1 2c 1 ab 1",
        "413 2 1 3 46 2 3 1 1 4 32 1 1 1 c1f5 8 7 2 1362 1 100 1 2e0 7"]),
    (222, .ofHex ["59a 1 12 1 138b 1 16f3 1"]),
    (224, .ofHex ["302e 2"]),
    (226, .ofHex ["1d16d 1"]),
    (228, .ofHex ["5ae 1 12fa 1 54d 2 1232 1"]),
    (230, .ofHex
      ["300 15 28 8 1 1 3 3 3 3 4 1 3 1 7 d 113 5 10a 4 1 3 2 6 6 2 1 2 2 1 14 1 4b 8 3b 2 2 5 1",
        "2 77 7 2 4 1 1 2 2 2 2 43 1 1 2 1 2 3 1 2 1 1 3 1 1 1 1 1 1 1 2 a0 7 1 1 22 4 1 9 1 3 1",
        "5 69 2 3 4 2a 5 5 e 2 2 1 2 1 3 6 3 1 2 2 5 51 1 1 2 a9 1 583 2 2 2 3d5 3 47d 1 15c 1 dc",
        "1 5d 8 33 5 6 2 4 2 2 5 1 12 3 6 1 4 80 1 1 7 15c 3 7 2 4 1 13 1 3 2 c6 2 1 7 1 2 4 25 5",
        "1 2 1 2d1 2 2 4 3 2 4 1 5 1 1 1 6 1 bfe 3 ee 20 786f 1 4 a 20 2 50 2 1ee 12 1be 1 1 2 3",
        "2 5 2 1 1 535e 7 7 2 546 5 694 1 28 1 ac 1 23e 4 41 5 13d 2 9b 3 1 1 35 1 1 1 17b 3 263",
        "7 3 5 e9 1 56d1 7 664e 5 20 4 94 3 dbb 7 1 11 2 7 1 2 1 5 64 1 a0 7 177 1 3d 4 1ff 1 fe",
        "1 f4 1 2 1 7 2 5 1 24e 6"]),
    (232, .ofHex ["315 1 4 1 3d 1 1a9d 1 1235 1 1b4bf 2"]),
    (233, .ofHex ["35c 1 2 1 2 1 1a99 1"]),
    (234, .ofHex ["35d 2 1 2 1789 1 2e1 1"]),
    (240, .ofHex ["345 1"])]

def combiningClass (c : Char) : Nat :=
  ((combiningClasses.find? fun (_, set) => set.contains c).map (·.1)).getD 0

/-- The class of the marks that suppress a vowel. -/
def viramaClass : Nat := 9

/-- The characters of the general categories M. -/
def marks : CharSet := .ofHex
  ["300 70 113 7 107 2d 1 1 1 2 1 2 1 1 48 b 30 15 10 1 65 7 2 6 2 2 1 4 23 1 1e 1b 5b b 3a 9 9",
    "1 18 4 1 9 1 3 1 5 2b 3 3b 9 2a 18 1 21 36 3 1 12 1 7 a 2 1d 3 38 1 1 7 2 2 2 3 9 1 a 2 1a 1",
    "2 3 38 1 1 5 4 2 2 3 3 1 1e 2 3 1 b 3 38 1 1 8 1 3 1 3 14 2 16 6 1 3 38 1 1 7 2 2 2 3 7 3 a",
    "2 1e 1 3b 5 3 3 1 4 9 1 28 5 37 1 1 7 1 3 1 4 7 2 b 2 1d 3 38 1 1 7 1 3 1 4 7 2 b 2 f 1 c 4",
    "37 2 1 7 1 3 1 4 9 1 a 2 1d 3 46 1 4 6 1 1 1 8 12 2 3d 1 2 7 c 8 62 1 2 9 b 7 49 2 1b 1 1 1",
    "1 1 4 2 31 14 1 2 5 b 1 24 9 1 64 14 17 4 4 3 1 3 2 7 3 4 d c 1 1 a 4 2bf 3 3b2 4 1c 3 1d 2",
    "1e 2 40 20 9 1 2d 3 1 1 75 2 22 1 76 c 4 c db 5 39 a 1 1d 2 1 30 2e 2 c 14 5 2f 11 26 9 c 3",
    "1e d 38 e 30 14 98 3 1 15 4 1 6 1 2 3 c6 40 2d0 21 bfe 3 8d 1 60 20 22a 6 69 2 75d4 4 1 a 20",
    "2 50 2 110 1 3 1 4 1 17 5 4 1 53 2 32 12 1a 12 d 1 26 8 19 d 2c 4 2f e 24 1 43 e c 1 8 2 2d",
    "3 32 1 1 3 2 2 5 2 1 1 29 5 5 2 ec 8 1 2 4f30 1 2e1 10 10 10 3cd 1 e2 1 95 5 686 3 1 2 5 4",
    "28 3 4 1 a5 2 23d 4 41 5 13d 2 4d 6 46 b 31 4 7a 3 35 f 29 1 2 2 a 4 2d b 7 1 3d 3 24 e 10 2",
    "2c 1 c 3 30 e 8 4 1 2 5c c 6 1 2 1 9d c 15 4 37 2 1 7 2 2 2 3 9 1 a 2 2 7 3 5 43 9 1 1 2 1 1",
    "4 1 5 1 1 e 2 52 12 17 1 51 14 eb 7 2 9 1b 2 52 11 6a d 65 f 100 f f5 6 1 2 2 4 1 1 1 2 8d 7",
    "2 7 3 1 1c a 28 7 1 4 8 1 9 b 2e 10 c6 8 c7 8 1 8 52 16 1 e 7a 6 3 1 1 2 1 7 1 1 42 5 1 2 1",
    "5 15b 4 9 2 1 1 30 7 3 5 17 1 14e5 1 6 f 2cc8 12 9c0 5 3b 7 418 1 1 37 7 4 51 1 b 2 4cab 2",
    "1261 2e 2 17 21e 5 3 6 8 8 2 7 1e 4 94 3 7bb 37 4 32 8 1 e 1 16 5 1 f 550 7 1 11 2 7 1 2 1 5",
    "64 1 a0 7 177 1 3d 4 1fc 4 fe 2 f3 1 2 1 7 2 5 1 1da 7 6d 7 c17b5 f0"]

end Text
end Enrolment
