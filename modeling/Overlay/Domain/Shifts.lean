/-!
# Characters that are shifted in domains

Runs of characters that a domain does not hold and that are each read as one other character
(Unicode 17, UTS 46). The table gives the first character of a run, the number of characters in it,
the distance from one to the next, and what the first one is read as. Where the distance is zero, the
characters follow each other and all are read as the same.
-/

namespace Overlay.Domain

/-- The runs. -/
def shifts : List (Nat × Nat × Nat × Nat) :=
  [(0x41, 26, 1, 0x61), (0xC0, 23, 1, 0xE0), (0xD8, 7, 1, 0xF8), (0x100, 24, 2, 0x101),
   (0x139, 3, 2, 0x13A), (0x141, 4, 2, 0x142), (0x14A, 23, 2, 0x14B), (0x179, 3, 2, 0x17A),
   (0x1A0, 3, 2, 0x1A1), (0x1CD, 8, 2, 0x1CE), (0x1DE, 9, 2, 0x1DF), (0x1F8, 20, 2, 0x1F9),
   (0x222, 9, 2, 0x223), (0x246, 5, 2, 0x247), (0x388, 3, 1, 0x3AD), (0x391, 17, 1, 0x3B1),
   (0x3A3, 9, 1, 0x3C3), (0x3D8, 12, 2, 0x3D9), (0x3FD, 3, 1, 0x37B), (0x400, 16, 1, 0x450),
   (0x410, 32, 1, 0x430), (0x460, 17, 2, 0x461), (0x48A, 27, 2, 0x48B), (0x4C1, 7, 2, 0x4C2),
   (0x4D0, 48, 2, 0x4D1), (0x531, 38, 1, 0x561), (0x10A0, 38, 1, 0x2D00), (0x13F8, 6, 1, 0x13F0),
   (0x1C90, 43, 1, 0x10D0), (0x1CBD, 3, 1, 0x10FD), (0x1D31, 5, 2, 0x65), (0x1D34, 4, 2, 0x68),
   (0x1D5D, 3, 1, 0x3B2), (0x1DA4, 3, 1, 0x268), (0x1DAE, 4, 1, 0x272), (0x1DBC, 3, 1, 0x290),
   (0x1E00, 75, 2, 0x1E01), (0x1EA0, 48, 2, 0x1EA1), (0x1F08, 8, 1, 0x1F00), (0x1F18, 6, 1, 0x1F10),
   (0x1F28, 8, 1, 0x1F20), (0x1F38, 8, 1, 0x1F30), (0x1F48, 6, 1, 0x1F40), (0x1F59, 4, 2, 0x1F51),
   (0x1F68, 8, 1, 0x1F60), (0x2000, 11, 0, 0x20), (0x2074, 6, 1, 0x34), (0x2080, 10, 1, 0x30),
   (0x2096, 4, 1, 0x6B), (0x210C, 3, 0, 0x68), (0x2119, 3, 1, 0x70), (0x2135, 4, 1, 0x5D0),
   (0x2460, 9, 1, 0x31), (0x24B6, 26, 1, 0x61), (0x24D0, 26, 1, 0x61), (0x2C00, 48, 1, 0x2C30),
   (0x2C67, 3, 2, 0x2C68), (0x2C80, 50, 2, 0x2C81), (0x3137, 3, 1, 0x1103), (0x313A, 6, 1, 0x11B0),
   (0x3141, 3, 1, 0x1106), (0x3145, 10, 1, 0x1109), (0x314F, 21, 1, 0x1161), (0x3178, 5, 1, 0x112B),
   (0x3184, 3, 1, 0x1157), (0x3263, 3, 1, 0x1105), (0x3269, 5, 1, 0x110E), (0x32E4, 6, 1, 0x30CA),
   (0x32EE, 5, 1, 0x30DE), (0x32F5, 6, 1, 0x30E8), (0x32FB, 4, 1, 0x30EF), (0xA640, 23, 2, 0xA641),
   (0xA680, 14, 2, 0xA681), (0xA722, 7, 2, 0xA723), (0xA732, 31, 2, 0xA733), (0xA77E, 5, 2, 0xA77F),
   (0xA796, 10, 2, 0xA797), (0xA7B4, 8, 2, 0xA7B5), (0xA7CC, 8, 2, 0xA7CD), (0xAB70, 80, 1, 0x13A0),
   (0xFB24, 3, 1, 0x5DB), (0xFB52, 4, 0, 0x67B), (0xFB56, 4, 0, 0x67E), (0xFB5A, 4, 0, 0x680),
   (0xFB5E, 4, 0, 0x67A), (0xFB62, 4, 0, 0x67F), (0xFB66, 4, 0, 0x679), (0xFB6A, 4, 0, 0x6A4),
   (0xFB6E, 4, 0, 0x6A6), (0xFB72, 4, 0, 0x684), (0xFB76, 4, 0, 0x683), (0xFB7A, 4, 0, 0x686),
   (0xFB7E, 4, 0, 0x687), (0xFB8E, 4, 0, 0x6A9), (0xFB92, 4, 0, 0x6AF), (0xFB96, 4, 0, 0x6B3),
   (0xFB9A, 4, 0, 0x6B1), (0xFBA0, 4, 0, 0x6BB), (0xFBA6, 4, 0, 0x6C1), (0xFBAA, 4, 0, 0x6BE),
   (0xFBD3, 4, 0, 0x6AD), (0xFBE4, 4, 0, 0x6D0), (0xFBFC, 4, 0, 0x6CC), (0xFE41, 4, 1, 0x300C),
   (0xFE4D, 3, 0, 0x5F), (0xFE8A, 3, 0, 0x626), (0xFE8F, 4, 0, 0x628), (0xFE95, 4, 0, 0x62A),
   (0xFE99, 4, 0, 0x62B), (0xFE9D, 4, 0, 0x62C), (0xFEA1, 4, 0, 0x62D), (0xFEA5, 4, 0, 0x62E),
   (0xFEB1, 4, 0, 0x633), (0xFEB5, 4, 0, 0x634), (0xFEB9, 4, 0, 0x635), (0xFEBD, 4, 0, 0x636),
   (0xFEC1, 4, 0, 0x637), (0xFEC5, 4, 0, 0x638), (0xFEC9, 4, 0, 0x639), (0xFECD, 4, 0, 0x63A),
   (0xFED1, 4, 0, 0x641), (0xFED5, 4, 0, 0x642), (0xFED9, 4, 0, 0x643), (0xFEDD, 4, 0, 0x644),
   (0xFEE1, 4, 0, 0x645), (0xFEE5, 4, 0, 0x646), (0xFEE9, 4, 0, 0x647), (0xFEF1, 4, 0, 0x64A),
   (0xFF01, 32, 1, 0x21), (0xFF21, 26, 1, 0x61), (0xFF3B, 36, 1, 0x5B), (0xFF85, 6, 1, 0x30CA),
   (0xFF8F, 5, 1, 0x30DE), (0xFF96, 6, 1, 0x30E8), (0xFFA7, 3, 1, 0x1103), (0xFFAA, 6, 1, 0x11B0),
   (0xFFB1, 3, 1, 0x1106), (0xFFB5, 10, 1, 0x1109), (0xFFC2, 6, 1, 0x1161), (0xFFCA, 6, 1, 0x1167),
   (0xFFD2, 6, 1, 0x116D), (0xFFDA, 3, 1, 0x1173), (0xFFE9, 4, 1, 0x2190),
   (0x10400, 40, 1, 0x10428), (0x104B0, 36, 1, 0x104D8), (0x10570, 19, 2, 0x10597),
   (0x10571, 5, 2, 0x10598), (0x1057D, 7, 2, 0x105A4), (0x1058D, 3, 2, 0x105B4),
   (0x107B6, 3, 1, 0x1C0), (0x10C80, 51, 1, 0x10CC0), (0x10D50, 22, 1, 0x10D70),
   (0x118A0, 32, 1, 0x118C0), (0x16E40, 32, 1, 0x16E60), (0x16EA0, 25, 1, 0x16EBB),
   (0x1CCD6, 26, 1, 0x61), (0x1CCF0, 10, 1, 0x30), (0x1D400, 26, 1, 0x61), (0x1D41A, 26, 1, 0x61),
   (0x1D434, 26, 1, 0x61), (0x1D44E, 13, 2, 0x61), (0x1D44F, 3, 2, 0x62), (0x1D457, 9, 2, 0x6A),
   (0x1D468, 26, 1, 0x61), (0x1D482, 26, 1, 0x61), (0x1D4A9, 4, 1, 0x6E), (0x1D4AE, 8, 1, 0x73),
   (0x1D4B6, 4, 1, 0x61), (0x1D4BB, 11, 2, 0x66), (0x1D4BE, 3, 2, 0x69), (0x1D4C6, 5, 2, 0x71),
   (0x1D4D0, 26, 1, 0x61), (0x1D4EA, 26, 1, 0x61), (0x1D507, 4, 1, 0x64), (0x1D50D, 8, 1, 0x6A),
   (0x1D516, 7, 1, 0x73), (0x1D51E, 26, 1, 0x61), (0x1D53B, 4, 1, 0x64), (0x1D540, 5, 1, 0x69),
   (0x1D54A, 7, 1, 0x73), (0x1D552, 26, 1, 0x61), (0x1D56C, 26, 1, 0x61), (0x1D586, 26, 1, 0x61),
   (0x1D5A0, 26, 1, 0x61), (0x1D5BA, 26, 1, 0x61), (0x1D5D4, 26, 1, 0x61), (0x1D5EE, 26, 1, 0x61),
   (0x1D608, 26, 1, 0x61), (0x1D622, 26, 1, 0x61), (0x1D63C, 26, 1, 0x61), (0x1D656, 26, 1, 0x61),
   (0x1D670, 26, 1, 0x61), (0x1D68A, 26, 1, 0x61), (0x1D6A8, 17, 1, 0x3B1), (0x1D6BA, 7, 1, 0x3C3),
   (0x1D6C2, 17, 1, 0x3B1), (0x1D6D5, 6, 1, 0x3C4), (0x1D6E2, 17, 1, 0x3B1), (0x1D6F4, 7, 1, 0x3C3),
   (0x1D6FC, 17, 1, 0x3B1), (0x1D70F, 6, 1, 0x3C4), (0x1D71C, 17, 1, 0x3B1), (0x1D72E, 7, 1, 0x3C3),
   (0x1D736, 17, 1, 0x3B1), (0x1D749, 6, 1, 0x3C4), (0x1D756, 17, 1, 0x3B1), (0x1D768, 7, 1, 0x3C3),
   (0x1D770, 17, 1, 0x3B1), (0x1D783, 6, 1, 0x3C4), (0x1D790, 17, 1, 0x3B1), (0x1D7A2, 7, 1, 0x3C3),
   (0x1D7AA, 17, 1, 0x3B1), (0x1D7BD, 6, 1, 0x3C4), (0x1D7CE, 10, 1, 0x30), (0x1D7D8, 10, 1, 0x30),
   (0x1D7E2, 10, 1, 0x30), (0x1D7EC, 10, 1, 0x30), (0x1D7F6, 10, 1, 0x30), (0x1E030, 9, 1, 0x430),
   (0x1E039, 3, 1, 0x43A), (0x1E03C, 11, 1, 0x43E), (0x1E051, 9, 1, 0x430), (0x1E05F, 6, 1, 0x443),
   (0x1E900, 34, 1, 0x1E922), (0x1EE0A, 4, 1, 0x643), (0x1EE2A, 4, 1, 0x643),
   (0x1EE8B, 3, 1, 0x644), (0x1EEAB, 3, 1, 0x644), (0x1F130, 26, 1, 0x61), (0x1FBF0, 10, 1, 0x30)]

end Overlay.Domain
