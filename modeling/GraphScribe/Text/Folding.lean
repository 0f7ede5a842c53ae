import GraphScribe.Text.Basic

/-!
# Folding to the first 128 characters

Compatibility decomposition (form KD of Unicode 14) takes a character apart into simpler ones; of
those only the ones below U+0080 are kept. So an accented letter loses its accent, a ligature
becomes its letters, and a letter of a script without such a decomposition disappears. The kept
characters never change places, because only characters above U+007F are ever reordered.
-/

namespace GraphScribe

/-- Runs of characters that fold to consecutive characters: first, last, and what the first one
folds to. -/
def foldingRuns : List (Nat × Nat × Nat) := [
  (0xB2, 0xB3, 0x32), (0xD1, 0xD2, 0x4E), (0xF1, 0xF2, 0x6E), (0x178, 0x179, 0x59),
  (0x1D30, 0x1D31, 0x44), (0x1D33, 0x1D3A, 0x47), (0x1D40, 0x1D41, 0x54), (0x1D48, 0x1D49, 0x64),
  (0x1D57, 0x1D58, 0x74), (0x1D64, 0x1D65, 0x75), (0x2074, 0x2079, 0x34), (0x207D, 0x207E, 0x28),
  (0x2080, 0x2089, 0x30), (0x208D, 0x208E, 0x28), (0x2096, 0x2099, 0x6B), (0x209B, 0x209C, 0x73),
  (0x2119, 0x211B, 0x50), (0x212B, 0x212D, 0x41), (0x2130, 0x2131, 0x45), (0x2146, 0x2147, 0x64),
  (0x2148, 0x2149, 0x69), (0x216D, 0x216E, 0x43), (0x217D, 0x217E, 0x63), (0x2460, 0x2468, 0x31),
  (0x24B6, 0x24CF, 0x41), (0x24D0, 0x24E9, 0x61), (0x32C0, 0x32C8, 0x31), (0x3358, 0x3361, 0x30),
  (0x33E0, 0x33E8, 0x31), (0xFE13, 0xFE14, 0x3A), (0xFE35, 0xFE36, 0x28), (0xFE59, 0xFE5A, 0x28),
  (0xFE61, 0xFE62, 0x2A), (0xFE69, 0xFE6A, 0x24), (0xFF01, 0xFF5E, 0x21),
  (0x1D400, 0x1D419, 0x41), (0x1D41A, 0x1D433, 0x61), (0x1D434, 0x1D44D, 0x41),
  (0x1D44E, 0x1D454, 0x61), (0x1D456, 0x1D467, 0x69), (0x1D468, 0x1D481, 0x41),
  (0x1D482, 0x1D49B, 0x61), (0x1D49E, 0x1D49F, 0x43), (0x1D4A5, 0x1D4A6, 0x4A),
  (0x1D4A9, 0x1D4AC, 0x4E), (0x1D4AE, 0x1D4B5, 0x53), (0x1D4B6, 0x1D4B9, 0x61),
  (0x1D4BD, 0x1D4C3, 0x68), (0x1D4C5, 0x1D4CF, 0x70), (0x1D4D0, 0x1D4E9, 0x41),
  (0x1D4EA, 0x1D503, 0x61), (0x1D504, 0x1D505, 0x41), (0x1D507, 0x1D50A, 0x44),
  (0x1D50D, 0x1D514, 0x4A), (0x1D516, 0x1D51C, 0x53), (0x1D51E, 0x1D537, 0x61),
  (0x1D538, 0x1D539, 0x41), (0x1D53B, 0x1D53E, 0x44), (0x1D540, 0x1D544, 0x49),
  (0x1D54A, 0x1D550, 0x53), (0x1D552, 0x1D56B, 0x61), (0x1D56C, 0x1D585, 0x41),
  (0x1D586, 0x1D59F, 0x61), (0x1D5A0, 0x1D5B9, 0x41), (0x1D5BA, 0x1D5D3, 0x61),
  (0x1D5D4, 0x1D5ED, 0x41), (0x1D5EE, 0x1D607, 0x61), (0x1D608, 0x1D621, 0x41),
  (0x1D622, 0x1D63B, 0x61), (0x1D63C, 0x1D655, 0x41), (0x1D656, 0x1D66F, 0x61),
  (0x1D670, 0x1D689, 0x41), (0x1D68A, 0x1D6A3, 0x61), (0x1D7CE, 0x1D7D7, 0x30),
  (0x1D7D8, 0x1D7E1, 0x30), (0x1D7E2, 0x1D7EB, 0x30), (0x1D7EC, 0x1D7F5, 0x30),
  (0x1D7F6, 0x1D7FF, 0x30), (0x1F130, 0x1F149, 0x41), (0x1FBF0, 0x1FBF9, 0x30)]

/-- Runs of characters that all fold to the same text. -/
def foldingTexts : List (Nat × Nat × String) := [
  (0xA0, 0xA0, " "), (0xA8, 0xA8, " "), (0xAA, 0xAA, "a"), (0xAF, 0xAF, " "), (0xB4, 0xB4, " "),
  (0xB8, 0xB8, " "), (0xB9, 0xB9, "1"), (0xBA, 0xBA, "o"), (0xBC, 0xBC, "14"),
  (0xBD, 0xBD, "12"), (0xBE, 0xBE, "34"), (0xC0, 0xC5, "A"), (0xC7, 0xC7, "C"),
  (0xC8, 0xCB, "E"), (0xCC, 0xCF, "I"), (0xD3, 0xD6, "O"), (0xD9, 0xDC, "U"), (0xDD, 0xDD, "Y"),
  (0xE0, 0xE5, "a"), (0xE7, 0xE7, "c"), (0xE8, 0xEB, "e"), (0xEC, 0xEF, "i"), (0xF3, 0xF6, "o"),
  (0xF9, 0xFC, "u"), (0xFD, 0xFD, "y"), (0xFF, 0xFF, "y"), (0x100, 0x100, "A"),
  (0x101, 0x101, "a"), (0x102, 0x102, "A"), (0x103, 0x103, "a"), (0x104, 0x104, "A"),
  (0x105, 0x105, "a"), (0x106, 0x106, "C"), (0x107, 0x107, "c"), (0x108, 0x108, "C"),
  (0x109, 0x109, "c"), (0x10A, 0x10A, "C"), (0x10B, 0x10B, "c"), (0x10C, 0x10C, "C"),
  (0x10D, 0x10D, "c"), (0x10E, 0x10E, "D"), (0x10F, 0x10F, "d"), (0x112, 0x112, "E"),
  (0x113, 0x113, "e"), (0x114, 0x114, "E"), (0x115, 0x115, "e"), (0x116, 0x116, "E"),
  (0x117, 0x117, "e"), (0x118, 0x118, "E"), (0x119, 0x119, "e"), (0x11A, 0x11A, "E"),
  (0x11B, 0x11B, "e"), (0x11C, 0x11C, "G"), (0x11D, 0x11D, "g"), (0x11E, 0x11E, "G"),
  (0x11F, 0x11F, "g"), (0x120, 0x120, "G"), (0x121, 0x121, "g"), (0x122, 0x122, "G"),
  (0x123, 0x123, "g"), (0x124, 0x124, "H"), (0x125, 0x125, "h"), (0x128, 0x128, "I"),
  (0x129, 0x129, "i"), (0x12A, 0x12A, "I"), (0x12B, 0x12B, "i"), (0x12C, 0x12C, "I"),
  (0x12D, 0x12D, "i"), (0x12E, 0x12E, "I"), (0x12F, 0x12F, "i"), (0x130, 0x130, "I"),
  (0x132, 0x132, "IJ"), (0x133, 0x133, "ij"), (0x134, 0x134, "J"), (0x135, 0x135, "j"),
  (0x136, 0x136, "K"), (0x137, 0x137, "k"), (0x139, 0x139, "L"), (0x13A, 0x13A, "l"),
  (0x13B, 0x13B, "L"), (0x13C, 0x13C, "l"), (0x13D, 0x13D, "L"), (0x13E, 0x13E, "l"),
  (0x13F, 0x13F, "L"), (0x140, 0x140, "l"), (0x143, 0x143, "N"), (0x144, 0x144, "n"),
  (0x145, 0x145, "N"), (0x146, 0x146, "n"), (0x147, 0x147, "N"), (0x148, 0x149, "n"),
  (0x14C, 0x14C, "O"), (0x14D, 0x14D, "o"), (0x14E, 0x14E, "O"), (0x14F, 0x14F, "o"),
  (0x150, 0x150, "O"), (0x151, 0x151, "o"), (0x154, 0x154, "R"), (0x155, 0x155, "r"),
  (0x156, 0x156, "R"), (0x157, 0x157, "r"), (0x158, 0x158, "R"), (0x159, 0x159, "r"),
  (0x15A, 0x15A, "S"), (0x15B, 0x15B, "s"), (0x15C, 0x15C, "S"), (0x15D, 0x15D, "s"),
  (0x15E, 0x15E, "S"), (0x15F, 0x15F, "s"), (0x160, 0x160, "S"), (0x161, 0x161, "s"),
  (0x162, 0x162, "T"), (0x163, 0x163, "t"), (0x164, 0x164, "T"), (0x165, 0x165, "t"),
  (0x168, 0x168, "U"), (0x169, 0x169, "u"), (0x16A, 0x16A, "U"), (0x16B, 0x16B, "u"),
  (0x16C, 0x16C, "U"), (0x16D, 0x16D, "u"), (0x16E, 0x16E, "U"), (0x16F, 0x16F, "u"),
  (0x170, 0x170, "U"), (0x171, 0x171, "u"), (0x172, 0x172, "U"), (0x173, 0x173, "u"),
  (0x174, 0x174, "W"), (0x175, 0x175, "w"), (0x176, 0x176, "Y"), (0x177, 0x177, "y"),
  (0x17A, 0x17A, "z"), (0x17B, 0x17B, "Z"), (0x17C, 0x17C, "z"), (0x17D, 0x17D, "Z"),
  (0x17E, 0x17E, "z"), (0x17F, 0x17F, "s"), (0x1A0, 0x1A0, "O"), (0x1A1, 0x1A1, "o"),
  (0x1AF, 0x1AF, "U"), (0x1B0, 0x1B0, "u"), (0x1C4, 0x1C4, "DZ"), (0x1C5, 0x1C5, "Dz"),
  (0x1C6, 0x1C6, "dz"), (0x1C7, 0x1C7, "LJ"), (0x1C8, 0x1C8, "Lj"), (0x1C9, 0x1C9, "lj"),
  (0x1CA, 0x1CA, "NJ"), (0x1CB, 0x1CB, "Nj"), (0x1CC, 0x1CC, "nj"), (0x1CD, 0x1CD, "A"),
  (0x1CE, 0x1CE, "a"), (0x1CF, 0x1CF, "I"), (0x1D0, 0x1D0, "i"), (0x1D1, 0x1D1, "O"),
  (0x1D2, 0x1D2, "o"), (0x1D3, 0x1D3, "U"), (0x1D4, 0x1D4, "u"), (0x1D5, 0x1D5, "U"),
  (0x1D6, 0x1D6, "u"), (0x1D7, 0x1D7, "U"), (0x1D8, 0x1D8, "u"), (0x1D9, 0x1D9, "U"),
  (0x1DA, 0x1DA, "u"), (0x1DB, 0x1DB, "U"), (0x1DC, 0x1DC, "u"), (0x1DE, 0x1DE, "A"),
  (0x1DF, 0x1DF, "a"), (0x1E0, 0x1E0, "A"), (0x1E1, 0x1E1, "a"), (0x1E6, 0x1E6, "G"),
  (0x1E7, 0x1E7, "g"), (0x1E8, 0x1E8, "K"), (0x1E9, 0x1E9, "k"), (0x1EA, 0x1EA, "O"),
  (0x1EB, 0x1EB, "o"), (0x1EC, 0x1EC, "O"), (0x1ED, 0x1ED, "o"), (0x1F0, 0x1F0, "j"),
  (0x1F1, 0x1F1, "DZ"), (0x1F2, 0x1F2, "Dz"), (0x1F3, 0x1F3, "dz"), (0x1F4, 0x1F4, "G"),
  (0x1F5, 0x1F5, "g"), (0x1F8, 0x1F8, "N"), (0x1F9, 0x1F9, "n"), (0x1FA, 0x1FA, "A"),
  (0x1FB, 0x1FB, "a"), (0x200, 0x200, "A"), (0x201, 0x201, "a"), (0x202, 0x202, "A"),
  (0x203, 0x203, "a"), (0x204, 0x204, "E"), (0x205, 0x205, "e"), (0x206, 0x206, "E"),
  (0x207, 0x207, "e"), (0x208, 0x208, "I"), (0x209, 0x209, "i"), (0x20A, 0x20A, "I"),
  (0x20B, 0x20B, "i"), (0x20C, 0x20C, "O"), (0x20D, 0x20D, "o"), (0x20E, 0x20E, "O"),
  (0x20F, 0x20F, "o"), (0x210, 0x210, "R"), (0x211, 0x211, "r"), (0x212, 0x212, "R"),
  (0x213, 0x213, "r"), (0x214, 0x214, "U"), (0x215, 0x215, "u"), (0x216, 0x216, "U"),
  (0x217, 0x217, "u"), (0x218, 0x218, "S"), (0x219, 0x219, "s"), (0x21A, 0x21A, "T"),
  (0x21B, 0x21B, "t"), (0x21E, 0x21E, "H"), (0x21F, 0x21F, "h"), (0x226, 0x226, "A"),
  (0x227, 0x227, "a"), (0x228, 0x228, "E"), (0x229, 0x229, "e"), (0x22A, 0x22A, "O"),
  (0x22B, 0x22B, "o"), (0x22C, 0x22C, "O"), (0x22D, 0x22D, "o"), (0x22E, 0x22E, "O"),
  (0x22F, 0x22F, "o"), (0x230, 0x230, "O"), (0x231, 0x231, "o"), (0x232, 0x232, "Y"),
  (0x233, 0x233, "y"), (0x2B0, 0x2B0, "h"), (0x2B2, 0x2B2, "j"), (0x2B3, 0x2B3, "r"),
  (0x2B7, 0x2B7, "w"), (0x2B8, 0x2B8, "y"), (0x2D8, 0x2DD, " "), (0x2E1, 0x2E1, "l"),
  (0x2E2, 0x2E2, "s"), (0x2E3, 0x2E3, "x"), (0x37A, 0x37A, " "), (0x37E, 0x37E, ";"),
  (0x384, 0x385, " "), (0x1D2C, 0x1D2C, "A"), (0x1D2E, 0x1D2E, "B"), (0x1D3C, 0x1D3C, "O"),
  (0x1D3E, 0x1D3E, "P"), (0x1D3F, 0x1D3F, "R"), (0x1D42, 0x1D42, "W"), (0x1D43, 0x1D43, "a"),
  (0x1D47, 0x1D47, "b"), (0x1D4D, 0x1D4D, "g"), (0x1D4F, 0x1D4F, "k"), (0x1D50, 0x1D50, "m"),
  (0x1D52, 0x1D52, "o"), (0x1D56, 0x1D56, "p"), (0x1D5B, 0x1D5B, "v"), (0x1D62, 0x1D62, "i"),
  (0x1D63, 0x1D63, "r"), (0x1D9C, 0x1D9C, "c"), (0x1DA0, 0x1DA0, "f"), (0x1DBB, 0x1DBB, "z"),
  (0x1E00, 0x1E00, "A"), (0x1E01, 0x1E01, "a"), (0x1E02, 0x1E02, "B"), (0x1E03, 0x1E03, "b"),
  (0x1E04, 0x1E04, "B"), (0x1E05, 0x1E05, "b"), (0x1E06, 0x1E06, "B"), (0x1E07, 0x1E07, "b"),
  (0x1E08, 0x1E08, "C"), (0x1E09, 0x1E09, "c"), (0x1E0A, 0x1E0A, "D"), (0x1E0B, 0x1E0B, "d"),
  (0x1E0C, 0x1E0C, "D"), (0x1E0D, 0x1E0D, "d"), (0x1E0E, 0x1E0E, "D"), (0x1E0F, 0x1E0F, "d"),
  (0x1E10, 0x1E10, "D"), (0x1E11, 0x1E11, "d"), (0x1E12, 0x1E12, "D"), (0x1E13, 0x1E13, "d"),
  (0x1E14, 0x1E14, "E"), (0x1E15, 0x1E15, "e"), (0x1E16, 0x1E16, "E"), (0x1E17, 0x1E17, "e"),
  (0x1E18, 0x1E18, "E"), (0x1E19, 0x1E19, "e"), (0x1E1A, 0x1E1A, "E"), (0x1E1B, 0x1E1B, "e"),
  (0x1E1C, 0x1E1C, "E"), (0x1E1D, 0x1E1D, "e"), (0x1E1E, 0x1E1E, "F"), (0x1E1F, 0x1E1F, "f"),
  (0x1E20, 0x1E20, "G"), (0x1E21, 0x1E21, "g"), (0x1E22, 0x1E22, "H"), (0x1E23, 0x1E23, "h"),
  (0x1E24, 0x1E24, "H"), (0x1E25, 0x1E25, "h"), (0x1E26, 0x1E26, "H"), (0x1E27, 0x1E27, "h"),
  (0x1E28, 0x1E28, "H"), (0x1E29, 0x1E29, "h"), (0x1E2A, 0x1E2A, "H"), (0x1E2B, 0x1E2B, "h"),
  (0x1E2C, 0x1E2C, "I"), (0x1E2D, 0x1E2D, "i"), (0x1E2E, 0x1E2E, "I"), (0x1E2F, 0x1E2F, "i"),
  (0x1E30, 0x1E30, "K"), (0x1E31, 0x1E31, "k"), (0x1E32, 0x1E32, "K"), (0x1E33, 0x1E33, "k"),
  (0x1E34, 0x1E34, "K"), (0x1E35, 0x1E35, "k"), (0x1E36, 0x1E36, "L"), (0x1E37, 0x1E37, "l"),
  (0x1E38, 0x1E38, "L"), (0x1E39, 0x1E39, "l"), (0x1E3A, 0x1E3A, "L"), (0x1E3B, 0x1E3B, "l"),
  (0x1E3C, 0x1E3C, "L"), (0x1E3D, 0x1E3D, "l"), (0x1E3E, 0x1E3E, "M"), (0x1E3F, 0x1E3F, "m"),
  (0x1E40, 0x1E40, "M"), (0x1E41, 0x1E41, "m"), (0x1E42, 0x1E42, "M"), (0x1E43, 0x1E43, "m"),
  (0x1E44, 0x1E44, "N"), (0x1E45, 0x1E45, "n"), (0x1E46, 0x1E46, "N"), (0x1E47, 0x1E47, "n"),
  (0x1E48, 0x1E48, "N"), (0x1E49, 0x1E49, "n"), (0x1E4A, 0x1E4A, "N"), (0x1E4B, 0x1E4B, "n"),
  (0x1E4C, 0x1E4C, "O"), (0x1E4D, 0x1E4D, "o"), (0x1E4E, 0x1E4E, "O"), (0x1E4F, 0x1E4F, "o"),
  (0x1E50, 0x1E50, "O"), (0x1E51, 0x1E51, "o"), (0x1E52, 0x1E52, "O"), (0x1E53, 0x1E53, "o"),
  (0x1E54, 0x1E54, "P"), (0x1E55, 0x1E55, "p"), (0x1E56, 0x1E56, "P"), (0x1E57, 0x1E57, "p"),
  (0x1E58, 0x1E58, "R"), (0x1E59, 0x1E59, "r"), (0x1E5A, 0x1E5A, "R"), (0x1E5B, 0x1E5B, "r"),
  (0x1E5C, 0x1E5C, "R"), (0x1E5D, 0x1E5D, "r"), (0x1E5E, 0x1E5E, "R"), (0x1E5F, 0x1E5F, "r"),
  (0x1E60, 0x1E60, "S"), (0x1E61, 0x1E61, "s"), (0x1E62, 0x1E62, "S"), (0x1E63, 0x1E63, "s"),
  (0x1E64, 0x1E64, "S"), (0x1E65, 0x1E65, "s"), (0x1E66, 0x1E66, "S"), (0x1E67, 0x1E67, "s"),
  (0x1E68, 0x1E68, "S"), (0x1E69, 0x1E69, "s"), (0x1E6A, 0x1E6A, "T"), (0x1E6B, 0x1E6B, "t"),
  (0x1E6C, 0x1E6C, "T"), (0x1E6D, 0x1E6D, "t"), (0x1E6E, 0x1E6E, "T"), (0x1E6F, 0x1E6F, "t"),
  (0x1E70, 0x1E70, "T"), (0x1E71, 0x1E71, "t"), (0x1E72, 0x1E72, "U"), (0x1E73, 0x1E73, "u"),
  (0x1E74, 0x1E74, "U"), (0x1E75, 0x1E75, "u"), (0x1E76, 0x1E76, "U"), (0x1E77, 0x1E77, "u"),
  (0x1E78, 0x1E78, "U"), (0x1E79, 0x1E79, "u"), (0x1E7A, 0x1E7A, "U"), (0x1E7B, 0x1E7B, "u"),
  (0x1E7C, 0x1E7C, "V"), (0x1E7D, 0x1E7D, "v"), (0x1E7E, 0x1E7E, "V"), (0x1E7F, 0x1E7F, "v"),
  (0x1E80, 0x1E80, "W"), (0x1E81, 0x1E81, "w"), (0x1E82, 0x1E82, "W"), (0x1E83, 0x1E83, "w"),
  (0x1E84, 0x1E84, "W"), (0x1E85, 0x1E85, "w"), (0x1E86, 0x1E86, "W"), (0x1E87, 0x1E87, "w"),
  (0x1E88, 0x1E88, "W"), (0x1E89, 0x1E89, "w"), (0x1E8A, 0x1E8A, "X"), (0x1E8B, 0x1E8B, "x"),
  (0x1E8C, 0x1E8C, "X"), (0x1E8D, 0x1E8D, "x"), (0x1E8E, 0x1E8E, "Y"), (0x1E8F, 0x1E8F, "y"),
  (0x1E90, 0x1E90, "Z"), (0x1E91, 0x1E91, "z"), (0x1E92, 0x1E92, "Z"), (0x1E93, 0x1E93, "z"),
  (0x1E94, 0x1E94, "Z"), (0x1E95, 0x1E95, "z"), (0x1E96, 0x1E96, "h"), (0x1E97, 0x1E97, "t"),
  (0x1E98, 0x1E98, "w"), (0x1E99, 0x1E99, "y"), (0x1E9A, 0x1E9A, "a"), (0x1E9B, 0x1E9B, "s"),
  (0x1EA0, 0x1EA0, "A"), (0x1EA1, 0x1EA1, "a"), (0x1EA2, 0x1EA2, "A"), (0x1EA3, 0x1EA3, "a"),
  (0x1EA4, 0x1EA4, "A"), (0x1EA5, 0x1EA5, "a"), (0x1EA6, 0x1EA6, "A"), (0x1EA7, 0x1EA7, "a"),
  (0x1EA8, 0x1EA8, "A"), (0x1EA9, 0x1EA9, "a"), (0x1EAA, 0x1EAA, "A"), (0x1EAB, 0x1EAB, "a"),
  (0x1EAC, 0x1EAC, "A"), (0x1EAD, 0x1EAD, "a"), (0x1EAE, 0x1EAE, "A"), (0x1EAF, 0x1EAF, "a"),
  (0x1EB0, 0x1EB0, "A"), (0x1EB1, 0x1EB1, "a"), (0x1EB2, 0x1EB2, "A"), (0x1EB3, 0x1EB3, "a"),
  (0x1EB4, 0x1EB4, "A"), (0x1EB5, 0x1EB5, "a"), (0x1EB6, 0x1EB6, "A"), (0x1EB7, 0x1EB7, "a"),
  (0x1EB8, 0x1EB8, "E"), (0x1EB9, 0x1EB9, "e"), (0x1EBA, 0x1EBA, "E"), (0x1EBB, 0x1EBB, "e"),
  (0x1EBC, 0x1EBC, "E"), (0x1EBD, 0x1EBD, "e"), (0x1EBE, 0x1EBE, "E"), (0x1EBF, 0x1EBF, "e"),
  (0x1EC0, 0x1EC0, "E"), (0x1EC1, 0x1EC1, "e"), (0x1EC2, 0x1EC2, "E"), (0x1EC3, 0x1EC3, "e"),
  (0x1EC4, 0x1EC4, "E"), (0x1EC5, 0x1EC5, "e"), (0x1EC6, 0x1EC6, "E"), (0x1EC7, 0x1EC7, "e"),
  (0x1EC8, 0x1EC8, "I"), (0x1EC9, 0x1EC9, "i"), (0x1ECA, 0x1ECA, "I"), (0x1ECB, 0x1ECB, "i"),
  (0x1ECC, 0x1ECC, "O"), (0x1ECD, 0x1ECD, "o"), (0x1ECE, 0x1ECE, "O"), (0x1ECF, 0x1ECF, "o"),
  (0x1ED0, 0x1ED0, "O"), (0x1ED1, 0x1ED1, "o"), (0x1ED2, 0x1ED2, "O"), (0x1ED3, 0x1ED3, "o"),
  (0x1ED4, 0x1ED4, "O"), (0x1ED5, 0x1ED5, "o"), (0x1ED6, 0x1ED6, "O"), (0x1ED7, 0x1ED7, "o"),
  (0x1ED8, 0x1ED8, "O"), (0x1ED9, 0x1ED9, "o"), (0x1EDA, 0x1EDA, "O"), (0x1EDB, 0x1EDB, "o"),
  (0x1EDC, 0x1EDC, "O"), (0x1EDD, 0x1EDD, "o"), (0x1EDE, 0x1EDE, "O"), (0x1EDF, 0x1EDF, "o"),
  (0x1EE0, 0x1EE0, "O"), (0x1EE1, 0x1EE1, "o"), (0x1EE2, 0x1EE2, "O"), (0x1EE3, 0x1EE3, "o"),
  (0x1EE4, 0x1EE4, "U"), (0x1EE5, 0x1EE5, "u"), (0x1EE6, 0x1EE6, "U"), (0x1EE7, 0x1EE7, "u"),
  (0x1EE8, 0x1EE8, "U"), (0x1EE9, 0x1EE9, "u"), (0x1EEA, 0x1EEA, "U"), (0x1EEB, 0x1EEB, "u"),
  (0x1EEC, 0x1EEC, "U"), (0x1EED, 0x1EED, "u"), (0x1EEE, 0x1EEE, "U"), (0x1EEF, 0x1EEF, "u"),
  (0x1EF0, 0x1EF0, "U"), (0x1EF1, 0x1EF1, "u"), (0x1EF2, 0x1EF2, "Y"), (0x1EF3, 0x1EF3, "y"),
  (0x1EF4, 0x1EF4, "Y"), (0x1EF5, 0x1EF5, "y"), (0x1EF6, 0x1EF6, "Y"), (0x1EF7, 0x1EF7, "y"),
  (0x1EF8, 0x1EF8, "Y"), (0x1EF9, 0x1EF9, "y"), (0x1FBD, 0x1FBD, " "), (0x1FBF, 0x1FC1, " "),
  (0x1FCD, 0x1FCF, " "), (0x1FDD, 0x1FDF, " "), (0x1FED, 0x1FEE, " "), (0x1FEF, 0x1FEF, "\x60"),
  (0x1FFD, 0x1FFE, " "), (0x2000, 0x200A, " "), (0x2017, 0x2017, " "), (0x2024, 0x2024, "."),
  (0x2025, 0x2025, ".."), (0x2026, 0x2026, "..."), (0x202F, 0x202F, " "), (0x203C, 0x203C, "!!"),
  (0x203E, 0x203E, " "), (0x2047, 0x2047, "??"), (0x2048, 0x2048, "?!"), (0x2049, 0x2049, "!?"),
  (0x205F, 0x205F, " "), (0x2070, 0x2070, "0"), (0x2071, 0x2071, "i"), (0x207A, 0x207A, "+"),
  (0x207C, 0x207C, "="), (0x207F, 0x207F, "n"), (0x208A, 0x208A, "+"), (0x208C, 0x208C, "="),
  (0x2090, 0x2090, "a"), (0x2091, 0x2091, "e"), (0x2092, 0x2092, "o"), (0x2093, 0x2093, "x"),
  (0x2095, 0x2095, "h"), (0x209A, 0x209A, "p"), (0x20A8, 0x20A8, "Rs"), (0x2100, 0x2100, "a/c"),
  (0x2101, 0x2101, "a/s"), (0x2102, 0x2103, "C"), (0x2105, 0x2105, "c/o"),
  (0x2106, 0x2106, "c/u"), (0x2109, 0x2109, "F"), (0x210A, 0x210A, "g"), (0x210B, 0x210D, "H"),
  (0x210E, 0x210E, "h"), (0x2110, 0x2111, "I"), (0x2112, 0x2112, "L"), (0x2113, 0x2113, "l"),
  (0x2115, 0x2115, "N"), (0x2116, 0x2116, "No"), (0x211C, 0x211D, "R"), (0x2120, 0x2120, "SM"),
  (0x2121, 0x2121, "TEL"), (0x2122, 0x2122, "TM"), (0x2124, 0x2124, "Z"), (0x2128, 0x2128, "Z"),
  (0x212A, 0x212A, "K"), (0x212F, 0x212F, "e"), (0x2133, 0x2133, "M"), (0x2134, 0x2134, "o"),
  (0x2139, 0x2139, "i"), (0x213B, 0x213B, "FAX"), (0x2145, 0x2145, "D"), (0x2150, 0x2150, "17"),
  (0x2151, 0x2151, "19"), (0x2152, 0x2152, "110"), (0x2153, 0x2153, "13"),
  (0x2154, 0x2154, "23"), (0x2155, 0x2155, "15"), (0x2156, 0x2156, "25"), (0x2157, 0x2157, "35"),
  (0x2158, 0x2158, "45"), (0x2159, 0x2159, "16"), (0x215A, 0x215A, "56"), (0x215B, 0x215B, "18"),
  (0x215C, 0x215C, "38"), (0x215D, 0x215D, "58"), (0x215E, 0x215E, "78"), (0x215F, 0x215F, "1"),
  (0x2160, 0x2160, "I"), (0x2161, 0x2161, "II"), (0x2162, 0x2162, "III"), (0x2163, 0x2163, "IV"),
  (0x2164, 0x2164, "V"), (0x2165, 0x2165, "VI"), (0x2166, 0x2166, "VII"),
  (0x2167, 0x2167, "VIII"), (0x2168, 0x2168, "IX"), (0x2169, 0x2169, "X"),
  (0x216A, 0x216A, "XI"), (0x216B, 0x216B, "XII"), (0x216C, 0x216C, "L"), (0x216F, 0x216F, "M"),
  (0x2170, 0x2170, "i"), (0x2171, 0x2171, "ii"), (0x2172, 0x2172, "iii"), (0x2173, 0x2173, "iv"),
  (0x2174, 0x2174, "v"), (0x2175, 0x2175, "vi"), (0x2176, 0x2176, "vii"),
  (0x2177, 0x2177, "viii"), (0x2178, 0x2178, "ix"), (0x2179, 0x2179, "x"),
  (0x217A, 0x217A, "xi"), (0x217B, 0x217B, "xii"), (0x217C, 0x217C, "l"), (0x217F, 0x217F, "m"),
  (0x2189, 0x2189, "03"), (0x2260, 0x2260, "="), (0x226E, 0x226E, "<"), (0x226F, 0x226F, ">"),
  (0x2469, 0x2469, "10"), (0x246A, 0x246A, "11"), (0x246B, 0x246B, "12"), (0x246C, 0x246C, "13"),
  (0x246D, 0x246D, "14"), (0x246E, 0x246E, "15"), (0x246F, 0x246F, "16"), (0x2470, 0x2470, "17"),
  (0x2471, 0x2471, "18"), (0x2472, 0x2472, "19"), (0x2473, 0x2473, "20"),
  (0x2474, 0x2474, "(1)"), (0x2475, 0x2475, "(2)"), (0x2476, 0x2476, "(3)"),
  (0x2477, 0x2477, "(4)"), (0x2478, 0x2478, "(5)"), (0x2479, 0x2479, "(6)"),
  (0x247A, 0x247A, "(7)"), (0x247B, 0x247B, "(8)"), (0x247C, 0x247C, "(9)"),
  (0x247D, 0x247D, "(10)"), (0x247E, 0x247E, "(11)"), (0x247F, 0x247F, "(12)"),
  (0x2480, 0x2480, "(13)"), (0x2481, 0x2481, "(14)"), (0x2482, 0x2482, "(15)"),
  (0x2483, 0x2483, "(16)"), (0x2484, 0x2484, "(17)"), (0x2485, 0x2485, "(18)"),
  (0x2486, 0x2486, "(19)"), (0x2487, 0x2487, "(20)"), (0x2488, 0x2488, "1."),
  (0x2489, 0x2489, "2."), (0x248A, 0x248A, "3."), (0x248B, 0x248B, "4."), (0x248C, 0x248C, "5."),
  (0x248D, 0x248D, "6."), (0x248E, 0x248E, "7."), (0x248F, 0x248F, "8."), (0x2490, 0x2490, "9."),
  (0x2491, 0x2491, "10."), (0x2492, 0x2492, "11."), (0x2493, 0x2493, "12."),
  (0x2494, 0x2494, "13."), (0x2495, 0x2495, "14."), (0x2496, 0x2496, "15."),
  (0x2497, 0x2497, "16."), (0x2498, 0x2498, "17."), (0x2499, 0x2499, "18."),
  (0x249A, 0x249A, "19."), (0x249B, 0x249B, "20."), (0x249C, 0x249C, "(a)"),
  (0x249D, 0x249D, "(b)"), (0x249E, 0x249E, "(c)"), (0x249F, 0x249F, "(d)"),
  (0x24A0, 0x24A0, "(e)"), (0x24A1, 0x24A1, "(f)"), (0x24A2, 0x24A2, "(g)"),
  (0x24A3, 0x24A3, "(h)"), (0x24A4, 0x24A4, "(i)"), (0x24A5, 0x24A5, "(j)"),
  (0x24A6, 0x24A6, "(k)"), (0x24A7, 0x24A7, "(l)"), (0x24A8, 0x24A8, "(m)"),
  (0x24A9, 0x24A9, "(n)"), (0x24AA, 0x24AA, "(o)"), (0x24AB, 0x24AB, "(p)"),
  (0x24AC, 0x24AC, "(q)"), (0x24AD, 0x24AD, "(r)"), (0x24AE, 0x24AE, "(s)"),
  (0x24AF, 0x24AF, "(t)"), (0x24B0, 0x24B0, "(u)"), (0x24B1, 0x24B1, "(v)"),
  (0x24B2, 0x24B2, "(w)"), (0x24B3, 0x24B3, "(x)"), (0x24B4, 0x24B4, "(y)"),
  (0x24B5, 0x24B5, "(z)"), (0x24EA, 0x24EA, "0"), (0x2A74, 0x2A74, "::="),
  (0x2A75, 0x2A75, "=="), (0x2A76, 0x2A76, "==="), (0x2C7C, 0x2C7C, "j"), (0x2C7D, 0x2C7D, "V"),
  (0x3000, 0x3000, " "), (0x309B, 0x309C, " "), (0x3200, 0x321E, "()"), (0x3220, 0x3243, "()"),
  (0x3250, 0x3250, "PTE"), (0x3251, 0x3251, "21"), (0x3252, 0x3252, "22"),
  (0x3253, 0x3253, "23"), (0x3254, 0x3254, "24"), (0x3255, 0x3255, "25"), (0x3256, 0x3256, "26"),
  (0x3257, 0x3257, "27"), (0x3258, 0x3258, "28"), (0x3259, 0x3259, "29"), (0x325A, 0x325A, "30"),
  (0x325B, 0x325B, "31"), (0x325C, 0x325C, "32"), (0x325D, 0x325D, "33"), (0x325E, 0x325E, "34"),
  (0x325F, 0x325F, "35"), (0x32B1, 0x32B1, "36"), (0x32B2, 0x32B2, "37"), (0x32B3, 0x32B3, "38"),
  (0x32B4, 0x32B4, "39"), (0x32B5, 0x32B5, "40"), (0x32B6, 0x32B6, "41"), (0x32B7, 0x32B7, "42"),
  (0x32B8, 0x32B8, "43"), (0x32B9, 0x32B9, "44"), (0x32BA, 0x32BA, "45"), (0x32BB, 0x32BB, "46"),
  (0x32BC, 0x32BC, "47"), (0x32BD, 0x32BD, "48"), (0x32BE, 0x32BE, "49"), (0x32BF, 0x32BF, "50"),
  (0x32C9, 0x32C9, "10"), (0x32CA, 0x32CA, "11"), (0x32CB, 0x32CB, "12"), (0x32CC, 0x32CC, "Hg"),
  (0x32CD, 0x32CD, "erg"), (0x32CE, 0x32CE, "eV"), (0x32CF, 0x32CF, "LTD"),
  (0x3362, 0x3362, "10"), (0x3363, 0x3363, "11"), (0x3364, 0x3364, "12"), (0x3365, 0x3365, "13"),
  (0x3366, 0x3366, "14"), (0x3367, 0x3367, "15"), (0x3368, 0x3368, "16"), (0x3369, 0x3369, "17"),
  (0x336A, 0x336A, "18"), (0x336B, 0x336B, "19"), (0x336C, 0x336C, "20"), (0x336D, 0x336D, "21"),
  (0x336E, 0x336E, "22"), (0x336F, 0x336F, "23"), (0x3370, 0x3370, "24"),
  (0x3371, 0x3371, "hPa"), (0x3372, 0x3372, "da"), (0x3373, 0x3373, "AU"),
  (0x3374, 0x3374, "bar"), (0x3375, 0x3375, "oV"), (0x3376, 0x3376, "pc"),
  (0x3377, 0x3377, "dm"), (0x3378, 0x3378, "dm2"), (0x3379, 0x3379, "dm3"),
  (0x337A, 0x337A, "IU"), (0x3380, 0x3380, "pA"), (0x3381, 0x3381, "nA"), (0x3382, 0x3382, "A"),
  (0x3383, 0x3383, "mA"), (0x3384, 0x3384, "kA"), (0x3385, 0x3385, "KB"), (0x3386, 0x3386, "MB"),
  (0x3387, 0x3387, "GB"), (0x3388, 0x3388, "cal"), (0x3389, 0x3389, "kcal"),
  (0x338A, 0x338A, "pF"), (0x338B, 0x338B, "nF"), (0x338C, 0x338C, "F"), (0x338D, 0x338D, "g"),
  (0x338E, 0x338E, "mg"), (0x338F, 0x338F, "kg"), (0x3390, 0x3390, "Hz"),
  (0x3391, 0x3391, "kHz"), (0x3392, 0x3392, "MHz"), (0x3393, 0x3393, "GHz"),
  (0x3394, 0x3394, "THz"), (0x3395, 0x3395, "l"), (0x3396, 0x3396, "ml"), (0x3397, 0x3397, "dl"),
  (0x3398, 0x3398, "kl"), (0x3399, 0x3399, "fm"), (0x339A, 0x339A, "nm"), (0x339B, 0x339B, "m"),
  (0x339C, 0x339C, "mm"), (0x339D, 0x339D, "cm"), (0x339E, 0x339E, "km"),
  (0x339F, 0x339F, "mm2"), (0x33A0, 0x33A0, "cm2"), (0x33A1, 0x33A1, "m2"),
  (0x33A2, 0x33A2, "km2"), (0x33A3, 0x33A3, "mm3"), (0x33A4, 0x33A4, "cm3"),
  (0x33A5, 0x33A5, "m3"), (0x33A6, 0x33A6, "km3"), (0x33A7, 0x33A7, "ms"),
  (0x33A8, 0x33A8, "ms2"), (0x33A9, 0x33A9, "Pa"), (0x33AA, 0x33AA, "kPa"),
  (0x33AB, 0x33AB, "MPa"), (0x33AC, 0x33AC, "GPa"), (0x33AD, 0x33AD, "rad"),
  (0x33AE, 0x33AE, "rads"), (0x33AF, 0x33AF, "rads2"), (0x33B0, 0x33B0, "ps"),
  (0x33B1, 0x33B1, "ns"), (0x33B2, 0x33B2, "s"), (0x33B3, 0x33B3, "ms"), (0x33B4, 0x33B4, "pV"),
  (0x33B5, 0x33B5, "nV"), (0x33B6, 0x33B6, "V"), (0x33B7, 0x33B7, "mV"), (0x33B8, 0x33B8, "kV"),
  (0x33B9, 0x33B9, "MV"), (0x33BA, 0x33BA, "pW"), (0x33BB, 0x33BB, "nW"), (0x33BC, 0x33BC, "W"),
  (0x33BD, 0x33BD, "mW"), (0x33BE, 0x33BE, "kW"), (0x33BF, 0x33BF, "MW"), (0x33C0, 0x33C0, "k"),
  (0x33C1, 0x33C1, "M"), (0x33C2, 0x33C2, "a.m."), (0x33C3, 0x33C3, "Bq"),
  (0x33C4, 0x33C4, "cc"), (0x33C5, 0x33C5, "cd"), (0x33C6, 0x33C6, "Ckg"),
  (0x33C7, 0x33C7, "Co."), (0x33C8, 0x33C8, "dB"), (0x33C9, 0x33C9, "Gy"),
  (0x33CA, 0x33CA, "ha"), (0x33CB, 0x33CB, "HP"), (0x33CC, 0x33CC, "in"), (0x33CD, 0x33CD, "KK"),
  (0x33CE, 0x33CE, "KM"), (0x33CF, 0x33CF, "kt"), (0x33D0, 0x33D0, "lm"), (0x33D1, 0x33D1, "ln"),
  (0x33D2, 0x33D2, "log"), (0x33D3, 0x33D3, "lx"), (0x33D4, 0x33D4, "mb"),
  (0x33D5, 0x33D5, "mil"), (0x33D6, 0x33D6, "mol"), (0x33D7, 0x33D7, "PH"),
  (0x33D8, 0x33D8, "p.m."), (0x33D9, 0x33D9, "PPM"), (0x33DA, 0x33DA, "PR"),
  (0x33DB, 0x33DB, "sr"), (0x33DC, 0x33DC, "Sv"), (0x33DD, 0x33DD, "Wb"), (0x33DE, 0x33DE, "Vm"),
  (0x33DF, 0x33DF, "Am"), (0x33E9, 0x33E9, "10"), (0x33EA, 0x33EA, "11"), (0x33EB, 0x33EB, "12"),
  (0x33EC, 0x33EC, "13"), (0x33ED, 0x33ED, "14"), (0x33EE, 0x33EE, "15"), (0x33EF, 0x33EF, "16"),
  (0x33F0, 0x33F0, "17"), (0x33F1, 0x33F1, "18"), (0x33F2, 0x33F2, "19"), (0x33F3, 0x33F3, "20"),
  (0x33F4, 0x33F4, "21"), (0x33F5, 0x33F5, "22"), (0x33F6, 0x33F6, "23"), (0x33F7, 0x33F7, "24"),
  (0x33F8, 0x33F8, "25"), (0x33F9, 0x33F9, "26"), (0x33FA, 0x33FA, "27"), (0x33FB, 0x33FB, "28"),
  (0x33FC, 0x33FC, "29"), (0x33FD, 0x33FD, "30"), (0x33FE, 0x33FE, "31"),
  (0x33FF, 0x33FF, "gal"), (0xA7F2, 0xA7F2, "C"), (0xA7F3, 0xA7F3, "F"), (0xA7F4, 0xA7F4, "Q"),
  (0xFB00, 0xFB00, "ff"), (0xFB01, 0xFB01, "fi"), (0xFB02, 0xFB02, "fl"),
  (0xFB03, 0xFB03, "ffi"), (0xFB04, 0xFB04, "ffl"), (0xFB05, 0xFB06, "st"),
  (0xFB29, 0xFB29, "+"), (0xFC5E, 0xFC63, " "), (0xFDFA, 0xFDFA, "   "), (0xFDFB, 0xFDFB, " "),
  (0xFE10, 0xFE10, ","), (0xFE15, 0xFE15, "!"), (0xFE16, 0xFE16, "?"), (0xFE19, 0xFE19, "..."),
  (0xFE30, 0xFE30, ".."), (0xFE33, 0xFE34, "_"), (0xFE37, 0xFE37, "\x7b"),
  (0xFE38, 0xFE38, "\x7d"), (0xFE47, 0xFE47, "["), (0xFE48, 0xFE48, "]"), (0xFE49, 0xFE4C, " "),
  (0xFE4D, 0xFE4F, "_"), (0xFE50, 0xFE50, ","), (0xFE52, 0xFE52, "."), (0xFE54, 0xFE54, ";"),
  (0xFE55, 0xFE55, ":"), (0xFE56, 0xFE56, "?"), (0xFE57, 0xFE57, "!"), (0xFE5B, 0xFE5B, "\x7b"),
  (0xFE5C, 0xFE5C, "\x7d"), (0xFE5F, 0xFE5F, "#"), (0xFE60, 0xFE60, "&"), (0xFE63, 0xFE63, "-"),
  (0xFE64, 0xFE64, "<"), (0xFE65, 0xFE65, ">"), (0xFE66, 0xFE66, "="), (0xFE68, 0xFE68, "\x5c"),
  (0xFE6B, 0xFE6B, "@"), (0xFE70, 0xFE70, " "), (0xFE72, 0xFE72, " "), (0xFE74, 0xFE74, " "),
  (0xFE76, 0xFE76, " "), (0xFE78, 0xFE78, " "), (0xFE7A, 0xFE7A, " "), (0xFE7C, 0xFE7C, " "),
  (0xFE7E, 0xFE7E, " "), (0xFFE3, 0xFFE3, " "), (0x107A5, 0x107A5, "q"), (0x1D49C, 0x1D49C, "A"),
  (0x1D4A2, 0x1D4A2, "G"), (0x1D4BB, 0x1D4BB, "f"), (0x1D546, 0x1D546, "O"),
  (0x1F100, 0x1F100, "0."), (0x1F101, 0x1F101, "0,"), (0x1F102, 0x1F102, "1,"),
  (0x1F103, 0x1F103, "2,"), (0x1F104, 0x1F104, "3,"), (0x1F105, 0x1F105, "4,"),
  (0x1F106, 0x1F106, "5,"), (0x1F107, 0x1F107, "6,"), (0x1F108, 0x1F108, "7,"),
  (0x1F109, 0x1F109, "8,"), (0x1F10A, 0x1F10A, "9,"), (0x1F110, 0x1F110, "(A)"),
  (0x1F111, 0x1F111, "(B)"), (0x1F112, 0x1F112, "(C)"), (0x1F113, 0x1F113, "(D)"),
  (0x1F114, 0x1F114, "(E)"), (0x1F115, 0x1F115, "(F)"), (0x1F116, 0x1F116, "(G)"),
  (0x1F117, 0x1F117, "(H)"), (0x1F118, 0x1F118, "(I)"), (0x1F119, 0x1F119, "(J)"),
  (0x1F11A, 0x1F11A, "(K)"), (0x1F11B, 0x1F11B, "(L)"), (0x1F11C, 0x1F11C, "(M)"),
  (0x1F11D, 0x1F11D, "(N)"), (0x1F11E, 0x1F11E, "(O)"), (0x1F11F, 0x1F11F, "(P)"),
  (0x1F120, 0x1F120, "(Q)"), (0x1F121, 0x1F121, "(R)"), (0x1F122, 0x1F122, "(S)"),
  (0x1F123, 0x1F123, "(T)"), (0x1F124, 0x1F124, "(U)"), (0x1F125, 0x1F125, "(V)"),
  (0x1F126, 0x1F126, "(W)"), (0x1F127, 0x1F127, "(X)"), (0x1F128, 0x1F128, "(Y)"),
  (0x1F129, 0x1F129, "(Z)"), (0x1F12A, 0x1F12A, "S"), (0x1F12B, 0x1F12B, "C"),
  (0x1F12C, 0x1F12C, "R"), (0x1F12D, 0x1F12D, "CD"), (0x1F12E, 0x1F12E, "WZ"),
  (0x1F14A, 0x1F14A, "HV"), (0x1F14B, 0x1F14B, "MV"), (0x1F14C, 0x1F14C, "SD"),
  (0x1F14D, 0x1F14D, "SS"), (0x1F14E, 0x1F14E, "PPV"), (0x1F14F, 0x1F14F, "WC"),
  (0x1F16A, 0x1F16A, "MC"), (0x1F16B, 0x1F16B, "MD"), (0x1F16C, 0x1F16C, "MR"),
  (0x1F190, 0x1F190, "DJ")]

def foldChar (c : Char) : Text :=
  let n := c.toNat
  if n < 0x80 then [c]
  else match foldingRuns.find? (fun r => r.1 ≤ n && n ≤ r.2.1) with
    | some r => [Char.ofNat (r.2.2 + (n - r.1))]
    | none => match foldingTexts.find? (fun r => r.1 ≤ n && n ≤ r.2.1) with
      | some r => r.2.2.toList
      | none => []

def fold (t : Text) : Text := t.flatMap foldChar

theorem foldChar_of_lt (c : Char) (h : c.toNat < 0x80) : foldChar c = [c] := if_pos h

/-- A text below U+0080 is kept as it is. -/
theorem fold_eq_self (t : Text) (h : ∀ c ∈ t, c.toNat < 0x80) : fold t = t := by
  induction t with
  | nil => rfl
  | cons c rest ih =>
    rw [fold, List.flatMap_cons, foldChar_of_lt c (h c (List.mem_cons_self))]
    exact congrArg (c :: ·) (ih fun d hd => h d (List.mem_cons_of_mem _ hd))

end GraphScribe
