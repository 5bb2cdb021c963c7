import NodeGraph.Text.Basic

/-!
# Identifier characters

The characters that may start a name and those that may continue one: `XID_Start` and
`XID_Continue` of the Unicode character database, version 17.0, together with the code points
that version leaves unassigned, noncharacters apart. Letters start names, and letters, marks,
digits and connector punctuation continue them; code points still open may be given letters by a
later version, and names written with those are read as names. Readers of names use these
classes; the underscore, which may also start a name, is left to them.

The tables are sorted lists of inclusive ranges of code points.
-/

namespace NodeGraph

namespace Text

/-- The characters that may start a name, as sorted inclusive ranges. -/
def nameStartRanges : List (Nat × Nat) := [
  (0x41, 0x5A), (0x61, 0x7A), (0xAA, 0xAA), (0xB5, 0xB5),
  (0xBA, 0xBA), (0xC0, 0xD6), (0xD8, 0xF6), (0xF8, 0x2C1),
  (0x2C6, 0x2D1), (0x2E0, 0x2E4), (0x2EC, 0x2EC), (0x2EE, 0x2EE),
  (0x370, 0x374), (0x376, 0x379), (0x37B, 0x37D), (0x37F, 0x383),
  (0x386, 0x386), (0x388, 0x3F5), (0x3F7, 0x481), (0x48A, 0x559),
  (0x560, 0x588), (0x58B, 0x58C), (0x590, 0x590), (0x5C8, 0x5F2),
  (0x5F5, 0x5FF), (0x620, 0x64A), (0x66E, 0x66F), (0x671, 0x6D3),
  (0x6D5, 0x6D5), (0x6E5, 0x6E6), (0x6EE, 0x6EF), (0x6FA, 0x6FC),
  (0x6FF, 0x6FF), (0x70E, 0x70E), (0x710, 0x710), (0x712, 0x72F),
  (0x74B, 0x7A5), (0x7B1, 0x7BF), (0x7CA, 0x7EA), (0x7F4, 0x7F5),
  (0x7FA, 0x7FC), (0x800, 0x815), (0x81A, 0x81A), (0x824, 0x824),
  (0x828, 0x828), (0x82E, 0x82F), (0x83F, 0x858), (0x85C, 0x85D),
  (0x85F, 0x887), (0x889, 0x88F), (0x892, 0x896), (0x8A0, 0x8C9),
  (0x904, 0x939), (0x93D, 0x93D), (0x950, 0x950), (0x958, 0x961),
  (0x971, 0x980), (0x984, 0x9BB), (0x9BD, 0x9BD), (0x9C5, 0x9C6),
  (0x9C9, 0x9CA), (0x9CE, 0x9D6), (0x9D8, 0x9E1), (0x9E4, 0x9E5),
  (0x9F0, 0x9F1), (0x9FC, 0x9FC), (0x9FF, 0xA00), (0xA04, 0xA3B),
  (0xA3D, 0xA3D), (0xA43, 0xA46), (0xA49, 0xA4A), (0xA4E, 0xA50),
  (0xA52, 0xA65), (0xA72, 0xA74), (0xA77, 0xA80), (0xA84, 0xABB),
  (0xABD, 0xABD), (0xAC6, 0xAC6), (0xACA, 0xACA), (0xACE, 0xAE1),
  (0xAE4, 0xAE5), (0xAF2, 0xAF9), (0xB00, 0xB00), (0xB04, 0xB3B),
  (0xB3D, 0xB3D), (0xB45, 0xB46), (0xB49, 0xB4A), (0xB4E, 0xB54),
  (0xB58, 0xB61), (0xB64, 0xB65), (0xB71, 0xB71), (0xB78, 0xB81),
  (0xB83, 0xBBD), (0xBC3, 0xBC5), (0xBC9, 0xBC9), (0xBCE, 0xBD6),
  (0xBD8, 0xBE5), (0xBFB, 0xBFF), (0xC05, 0xC3B), (0xC3D, 0xC3D),
  (0xC45, 0xC45), (0xC49, 0xC49), (0xC4E, 0xC54), (0xC57, 0xC61),
  (0xC64, 0xC65), (0xC70, 0xC76), (0xC80, 0xC80), (0xC85, 0xCBB),
  (0xCBD, 0xCBD), (0xCC5, 0xCC5), (0xCC9, 0xCC9), (0xCCE, 0xCD4),
  (0xCD7, 0xCE1), (0xCE4, 0xCE5), (0xCF0, 0xCF2), (0xCF4, 0xCFF),
  (0xD04, 0xD3A), (0xD3D, 0xD3D), (0xD45, 0xD45), (0xD49, 0xD49),
  (0xD4E, 0xD4E), (0xD50, 0xD56), (0xD5F, 0xD61), (0xD64, 0xD65),
  (0xD7A, 0xD80), (0xD84, 0xDC9), (0xDCB, 0xDCE), (0xDD5, 0xDD5),
  (0xDD7, 0xDD7), (0xDE0, 0xDE5), (0xDF0, 0xDF1), (0xDF5, 0xE30),
  (0xE32, 0xE32), (0xE3B, 0xE3E), (0xE40, 0xE46), (0xE5C, 0xEB0),
  (0xEB2, 0xEB2), (0xEBD, 0xEC7), (0xECF, 0xECF), (0xEDA, 0xF00),
  (0xF40, 0xF70), (0xF88, 0xF8C), (0xF98, 0xF98), (0xFBD, 0xFBD),
  (0xFCD, 0xFCD), (0xFDB, 0x102A), (0x103F, 0x103F), (0x1050, 0x1055),
  (0x105A, 0x105D), (0x1061, 0x1061), (0x1065, 0x1066), (0x106E, 0x1070),
  (0x1075, 0x1081), (0x108E, 0x108E), (0x10A0, 0x10FA), (0x10FC, 0x135C),
  (0x137D, 0x138F), (0x139A, 0x13FF), (0x1401, 0x166C), (0x166F, 0x167F),
  (0x1681, 0x169A), (0x169D, 0x16EA), (0x16EE, 0x1711), (0x1716, 0x1731),
  (0x1737, 0x1751), (0x1754, 0x1771), (0x1774, 0x17B3), (0x17D7, 0x17D7),
  (0x17DC, 0x17DC), (0x17DE, 0x17DF), (0x17EA, 0x17EF), (0x17FA, 0x17FF),
  (0x181A, 0x18A8), (0x18AA, 0x191F), (0x192C, 0x192F), (0x193C, 0x193F),
  (0x1941, 0x1943), (0x1950, 0x19CF), (0x19DB, 0x19DD), (0x1A00, 0x1A16),
  (0x1A1C, 0x1A1D), (0x1A20, 0x1A54), (0x1A5F, 0x1A5F), (0x1A7D, 0x1A7E),
  (0x1A8A, 0x1A8F), (0x1A9A, 0x1A9F), (0x1AA7, 0x1AA7), (0x1AAE, 0x1AAF),
  (0x1ADE, 0x1ADF), (0x1AEC, 0x1AFF), (0x1B05, 0x1B33), (0x1B45, 0x1B4D),
  (0x1B83, 0x1BA0), (0x1BAE, 0x1BAF), (0x1BBA, 0x1BE5), (0x1BF4, 0x1BFB),
  (0x1C00, 0x1C23), (0x1C38, 0x1C3A), (0x1C4A, 0x1C4F), (0x1C5A, 0x1C7D),
  (0x1C80, 0x1CBF), (0x1CC8, 0x1CCF), (0x1CE9, 0x1CEC), (0x1CEE, 0x1CF3),
  (0x1CF5, 0x1CF6), (0x1CFA, 0x1DBF), (0x1E00, 0x1FBC), (0x1FBE, 0x1FBE),
  (0x1FC2, 0x1FCC), (0x1FD0, 0x1FDC), (0x1FE0, 0x1FEC), (0x1FF0, 0x1FFC),
  (0x1FFF, 0x1FFF), (0x2065, 0x2065), (0x2071, 0x2073), (0x207F, 0x207F),
  (0x208F, 0x209F), (0x20C2, 0x20CF), (0x20F1, 0x20FF), (0x2102, 0x2102),
  (0x2107, 0x2107), (0x210A, 0x2113), (0x2115, 0x2115), (0x2118, 0x211D),
  (0x2124, 0x2124), (0x2126, 0x2126), (0x2128, 0x2128), (0x212A, 0x2139),
  (0x213C, 0x213F), (0x2145, 0x2149), (0x214E, 0x214E), (0x2160, 0x2188),
  (0x218C, 0x218F), (0x242A, 0x243F), (0x244B, 0x245F), (0x2B74, 0x2B75),
  (0x2C00, 0x2CE4), (0x2CEB, 0x2CEE), (0x2CF2, 0x2CF8), (0x2D00, 0x2D6F),
  (0x2D71, 0x2D7E), (0x2D80, 0x2DDF), (0x2E5E, 0x2E7F), (0x2E9A, 0x2E9A),
  (0x2EF4, 0x2EFF), (0x2FD6, 0x2FEF), (0x3005, 0x3007), (0x3021, 0x3029),
  (0x3031, 0x3035), (0x3038, 0x303C), (0x3040, 0x3098), (0x309D, 0x309F),
  (0x30A1, 0x30FA), (0x30FC, 0x318F), (0x31A0, 0x31BF), (0x31E6, 0x31EE),
  (0x31F0, 0x31FF), (0x321F, 0x321F), (0x3400, 0x4DBF), (0x4E00, 0xA48F),
  (0xA4C7, 0xA4FD), (0xA500, 0xA60C), (0xA610, 0xA61F), (0xA62A, 0xA66E),
  (0xA67F, 0xA69D), (0xA6A0, 0xA6EF), (0xA6F8, 0xA6FF), (0xA717, 0xA71F),
  (0xA722, 0xA788), (0xA78B, 0xA801), (0xA803, 0xA805), (0xA807, 0xA80A),
  (0xA80C, 0xA822), (0xA82D, 0xA82F), (0xA83A, 0xA873), (0xA878, 0xA87F),
  (0xA882, 0xA8B3), (0xA8C6, 0xA8CD), (0xA8DA, 0xA8DF), (0xA8F2, 0xA8F7),
  (0xA8FB, 0xA8FB), (0xA8FD, 0xA8FE), (0xA90A, 0xA925), (0xA930, 0xA946),
  (0xA954, 0xA95E), (0xA960, 0xA97F), (0xA984, 0xA9B2), (0xA9CE, 0xA9CF),
  (0xA9DA, 0xA9DD), (0xA9E0, 0xA9E4), (0xA9E6, 0xA9EF), (0xA9FA, 0xAA28),
  (0xAA37, 0xAA42), (0xAA44, 0xAA4B), (0xAA4E, 0xAA4F), (0xAA5A, 0xAA5B),
  (0xAA60, 0xAA76), (0xAA7A, 0xAA7A), (0xAA7E, 0xAAAF), (0xAAB1, 0xAAB1),
  (0xAAB5, 0xAAB6), (0xAAB9, 0xAABD), (0xAAC0, 0xAAC0), (0xAAC2, 0xAADD),
  (0xAAE0, 0xAAEA), (0xAAF2, 0xAAF4), (0xAAF7, 0xAB5A), (0xAB5C, 0xAB69),
  (0xAB6C, 0xABE2), (0xABEE, 0xABEF), (0xABFA, 0xD7FF), (0xF900, 0xFB1D),
  (0xFB1F, 0xFB28), (0xFB2A, 0xFBB1), (0xFBD3, 0xFC5D), (0xFC64, 0xFD3D),
  (0xFD50, 0xFD8F), (0xFD92, 0xFDC7), (0xFDF0, 0xFDF9), (0xFE1A, 0xFE1F),
  (0xFE53, 0xFE53), (0xFE67, 0xFE67), (0xFE6C, 0xFE6F), (0xFE71, 0xFE71),
  (0xFE73, 0xFE73), (0xFE75, 0xFE75), (0xFE77, 0xFE77), (0xFE79, 0xFE79),
  (0xFE7B, 0xFE7B), (0xFE7D, 0xFE7D), (0xFE7F, 0xFEFE), (0xFF00, 0xFF00),
  (0xFF21, 0xFF3A), (0xFF41, 0xFF5A), (0xFF66, 0xFF9D), (0xFFA0, 0xFFDF),
  (0xFFE7, 0xFFE7), (0xFFEF, 0xFFF8), (0x10000, 0x100FF), (0x10103, 0x10106),
  (0x10134, 0x10136), (0x10140, 0x10174), (0x1018F, 0x1018F), (0x1019D, 0x1019F),
  (0x101A1, 0x101CF), (0x101FE, 0x102DF), (0x102FC, 0x1031F), (0x10324, 0x10375),
  (0x1037B, 0x1039E), (0x103A0, 0x103CF), (0x103D1, 0x1049F), (0x104AA, 0x1056E),
  (0x10570, 0x10856), (0x10860, 0x10876), (0x10880, 0x108A6), (0x108B0, 0x108FA),
  (0x10900, 0x10915), (0x1091C, 0x1091E), (0x10920, 0x1093E), (0x10940, 0x109BB),
  (0x109BE, 0x109BF), (0x109D0, 0x109D1), (0x10A00, 0x10A00), (0x10A04, 0x10A04),
  (0x10A07, 0x10A0B), (0x10A10, 0x10A37), (0x10A3B, 0x10A3E), (0x10A49, 0x10A4F),
  (0x10A59, 0x10A7C), (0x10A80, 0x10A9C), (0x10AA0, 0x10AC7), (0x10AC9, 0x10AE4),
  (0x10AE7, 0x10AEA), (0x10AF7, 0x10B38), (0x10B40, 0x10B57), (0x10B60, 0x10B77),
  (0x10B80, 0x10B98), (0x10B9D, 0x10BA8), (0x10BB0, 0x10CF9), (0x10D00, 0x10D23),
  (0x10D28, 0x10D2F), (0x10D3A, 0x10D3F), (0x10D4A, 0x10D68), (0x10D6F, 0x10D8D),
  (0x10D90, 0x10E5F), (0x10E7F, 0x10EAA), (0x10EAE, 0x10ECF), (0x10ED9, 0x10EF9),
  (0x10F00, 0x10F1C), (0x10F27, 0x10F45), (0x10F5A, 0x10F81), (0x10F8A, 0x10FC4),
  (0x10FCC, 0x10FFF), (0x11003, 0x11037), (0x1104E, 0x11051), (0x11071, 0x11072),
  (0x11075, 0x1107E), (0x11083, 0x110AF), (0x110C3, 0x110CC), (0x110CE, 0x110EF),
  (0x110FA, 0x110FF), (0x11103, 0x11126), (0x11135, 0x11135), (0x11144, 0x11144),
  (0x11147, 0x11172), (0x11176, 0x1117F), (0x11183, 0x111B2), (0x111C1, 0x111C4),
  (0x111DA, 0x111DA), (0x111DC, 0x111DC), (0x111E0, 0x111E0), (0x111F5, 0x1122B),
  (0x1123F, 0x11240), (0x11242, 0x112A8), (0x112AA, 0x112DE), (0x112EB, 0x112EF),
  (0x112FA, 0x112FF), (0x11304, 0x1133A), (0x1133D, 0x1133D), (0x11345, 0x11346),
  (0x11349, 0x1134A), (0x1134E, 0x11356), (0x11358, 0x11361), (0x11364, 0x11365),
  (0x1136D, 0x1136F), (0x11375, 0x113B7), (0x113C1, 0x113C1), (0x113C3, 0x113C4),
  (0x113C6, 0x113C6), (0x113CB, 0x113CB), (0x113D1, 0x113D1), (0x113D3, 0x113D3),
  (0x113D6, 0x113D6), (0x113D9, 0x113E0), (0x113E3, 0x11434), (0x11447, 0x1144A),
  (0x1145C, 0x1145C), (0x1145F, 0x114AF), (0x114C4, 0x114C5), (0x114C7, 0x114CF),
  (0x114DA, 0x115AE), (0x115B6, 0x115B7), (0x115D8, 0x115DB), (0x115DE, 0x1162F),
  (0x11644, 0x1164F), (0x1165A, 0x1165F), (0x1166D, 0x116AA), (0x116B8, 0x116B8),
  (0x116BA, 0x116BF), (0x116CA, 0x116CF), (0x116E4, 0x1171C), (0x1172C, 0x1172F),
  (0x11740, 0x1182B), (0x1183C, 0x118DF), (0x118F3, 0x1192F), (0x11936, 0x11936),
  (0x11939, 0x1193A), (0x1193F, 0x1193F), (0x11941, 0x11941), (0x11947, 0x1194F),
  (0x1195A, 0x119D0), (0x119D8, 0x119D9), (0x119E1, 0x119E1), (0x119E3, 0x119E3),
  (0x119E5, 0x11A00), (0x11A0B, 0x11A32), (0x11A3A, 0x11A3A), (0x11A48, 0x11A50),
  (0x11A5C, 0x11A89), (0x11A9D, 0x11A9D), (0x11AA3, 0x11AFF), (0x11B0A, 0x11B5F),
  (0x11B68, 0x11BE0), (0x11BE2, 0x11BEF), (0x11BFA, 0x11C2E), (0x11C37, 0x11C37),
  (0x11C40, 0x11C40), (0x11C46, 0x11C4F), (0x11C6D, 0x11C6F), (0x11C72, 0x11C91),
  (0x11CA8, 0x11CA8), (0x11CB7, 0x11D30), (0x11D37, 0x11D39), (0x11D3B, 0x11D3B),
  (0x11D3E, 0x11D3E), (0x11D46, 0x11D46), (0x11D48, 0x11D4F), (0x11D5A, 0x11D89),
  (0x11D8F, 0x11D8F), (0x11D92, 0x11D92), (0x11D98, 0x11D9F), (0x11DAA, 0x11DDF),
  (0x11DEA, 0x11EF2), (0x11EF9, 0x11EFF), (0x11F02, 0x11F02), (0x11F04, 0x11F33),
  (0x11F3B, 0x11F3D), (0x11F5B, 0x11FBF), (0x11FF2, 0x11FFE), (0x12000, 0x1246F),
  (0x12475, 0x12FF0), (0x12FF3, 0x1342F), (0x13441, 0x13446), (0x13456, 0x1611D),
  (0x1613A, 0x16A5F), (0x16A6A, 0x16A6D), (0x16A70, 0x16ABF), (0x16ACA, 0x16AEF),
  (0x16AF6, 0x16B2F), (0x16B40, 0x16B43), (0x16B46, 0x16B4F), (0x16B5A, 0x16B5A),
  (0x16B62, 0x16D6C), (0x16D7A, 0x16E7F), (0x16E9B, 0x16F4E), (0x16F50, 0x16F50),
  (0x16F88, 0x16F8E), (0x16F93, 0x16FE1), (0x16FE3, 0x16FE3), (0x16FE5, 0x16FEF),
  (0x16FF2, 0x1BC9B), (0x1BCA4, 0x1CBFF), (0x1CCFD, 0x1CCFF), (0x1CEB4, 0x1CEB9),
  (0x1CED1, 0x1CEDF), (0x1CEF1, 0x1CEFF), (0x1CF2E, 0x1CF2F), (0x1CF47, 0x1CF4F),
  (0x1CFC4, 0x1CFFF), (0x1D0F6, 0x1D0FF), (0x1D127, 0x1D128), (0x1D1EB, 0x1D1FF),
  (0x1D246, 0x1D2BF), (0x1D2D4, 0x1D2DF), (0x1D2F4, 0x1D2FF), (0x1D357, 0x1D35F),
  (0x1D379, 0x1D6C0), (0x1D6C2, 0x1D6DA), (0x1D6DC, 0x1D6FA), (0x1D6FC, 0x1D714),
  (0x1D716, 0x1D734), (0x1D736, 0x1D74E), (0x1D750, 0x1D76E), (0x1D770, 0x1D788),
  (0x1D78A, 0x1D7A8), (0x1D7AA, 0x1D7C2), (0x1D7C4, 0x1D7CD), (0x1DA8C, 0x1DA9A),
  (0x1DAA0, 0x1DAA0), (0x1DAB0, 0x1DFFF), (0x1E007, 0x1E007), (0x1E019, 0x1E01A),
  (0x1E022, 0x1E022), (0x1E025, 0x1E025), (0x1E02B, 0x1E08E), (0x1E090, 0x1E12F),
  (0x1E137, 0x1E13F), (0x1E14A, 0x1E14E), (0x1E150, 0x1E2AD), (0x1E2AF, 0x1E2EB),
  (0x1E2FA, 0x1E2FE), (0x1E300, 0x1E4EB), (0x1E4FA, 0x1E5ED), (0x1E5F0, 0x1E5F0),
  (0x1E5FB, 0x1E5FE), (0x1E600, 0x1E6E2), (0x1E6E4, 0x1E6E5), (0x1E6E7, 0x1E6ED),
  (0x1E6F0, 0x1E6F4), (0x1E6F6, 0x1E8C6), (0x1E8D7, 0x1E943), (0x1E94B, 0x1E94F),
  (0x1E95A, 0x1E95D), (0x1E960, 0x1EC70), (0x1ECB5, 0x1ED00), (0x1ED3E, 0x1EEEF),
  (0x1EEF2, 0x1EFFF), (0x1F02C, 0x1F02F), (0x1F094, 0x1F09F), (0x1F0AF, 0x1F0B0),
  (0x1F0C0, 0x1F0C0), (0x1F0D0, 0x1F0D0), (0x1F0F6, 0x1F0FF), (0x1F1AE, 0x1F1E5),
  (0x1F203, 0x1F20F), (0x1F23C, 0x1F23F), (0x1F249, 0x1F24F), (0x1F252, 0x1F25F),
  (0x1F266, 0x1F2FF), (0x1F6D9, 0x1F6DB), (0x1F6ED, 0x1F6EF), (0x1F6FD, 0x1F6FF),
  (0x1F7DA, 0x1F7DF), (0x1F7EC, 0x1F7EF), (0x1F7F1, 0x1F7FF), (0x1F80C, 0x1F80F),
  (0x1F848, 0x1F84F), (0x1F85A, 0x1F85F), (0x1F888, 0x1F88F), (0x1F8AE, 0x1F8AF),
  (0x1F8BC, 0x1F8BF), (0x1F8C2, 0x1F8CF), (0x1F8D9, 0x1F8FF), (0x1FA58, 0x1FA5F),
  (0x1FA6E, 0x1FA6F), (0x1FA7D, 0x1FA7F), (0x1FA8B, 0x1FA8D), (0x1FAC7, 0x1FAC7),
  (0x1FAC9, 0x1FACC), (0x1FADD, 0x1FADE), (0x1FAEB, 0x1FAEE), (0x1FAF9, 0x1FAFF),
  (0x1FB93, 0x1FB93), (0x1FBFB, 0x1FFFD), (0x20000, 0x2FFFD), (0x30000, 0x3FFFD),
  (0x40000, 0x4FFFD), (0x50000, 0x5FFFD), (0x60000, 0x6FFFD), (0x70000, 0x7FFFD),
  (0x80000, 0x8FFFD), (0x90000, 0x9FFFD), (0xA0000, 0xAFFFD), (0xB0000, 0xBFFFD),
  (0xC0000, 0xCFFFD), (0xD0000, 0xDFFFD), (0xE0000, 0xE0000), (0xE0002, 0xE001F),
  (0xE0080, 0xE00FF), (0xE01F0, 0xEFFFD)]

/-- The characters that may continue a name, as sorted inclusive ranges. -/
def nameContinueRanges : List (Nat × Nat) := [
  (0x30, 0x39), (0x41, 0x5A), (0x5F, 0x5F), (0x61, 0x7A),
  (0xAA, 0xAA), (0xB5, 0xB5), (0xB7, 0xB7), (0xBA, 0xBA),
  (0xC0, 0xD6), (0xD8, 0xF6), (0xF8, 0x2C1), (0x2C6, 0x2D1),
  (0x2E0, 0x2E4), (0x2EC, 0x2EC), (0x2EE, 0x2EE), (0x300, 0x374),
  (0x376, 0x379), (0x37B, 0x37D), (0x37F, 0x383), (0x386, 0x3F5),
  (0x3F7, 0x481), (0x483, 0x487), (0x48A, 0x559), (0x560, 0x588),
  (0x58B, 0x58C), (0x590, 0x5BD), (0x5BF, 0x5BF), (0x5C1, 0x5C2),
  (0x5C4, 0x5C5), (0x5C7, 0x5F2), (0x5F5, 0x5FF), (0x610, 0x61A),
  (0x620, 0x669), (0x66E, 0x6D3), (0x6D5, 0x6DC), (0x6DF, 0x6E8),
  (0x6EA, 0x6FC), (0x6FF, 0x6FF), (0x70E, 0x70E), (0x710, 0x7F5),
  (0x7FA, 0x7FD), (0x800, 0x82F), (0x83F, 0x85D), (0x85F, 0x887),
  (0x889, 0x88F), (0x892, 0x8E1), (0x8E3, 0x963), (0x966, 0x96F),
  (0x971, 0x9F1), (0x9FC, 0x9FC), (0x9FE, 0xA75), (0xA77, 0xAEF),
  (0xAF2, 0xB6F), (0xB71, 0xB71), (0xB78, 0xBEF), (0xBFB, 0xC76),
  (0xC80, 0xC83), (0xC85, 0xD4E), (0xD50, 0xD57), (0xD5F, 0xD6F),
  (0xD7A, 0xDF3), (0xDF5, 0xE3E), (0xE40, 0xE4E), (0xE50, 0xE59),
  (0xE5C, 0xF00), (0xF18, 0xF19), (0xF20, 0xF29), (0xF35, 0xF35),
  (0xF37, 0xF37), (0xF39, 0xF39), (0xF3E, 0xF84), (0xF86, 0xFBD),
  (0xFC6, 0xFC6), (0xFCD, 0xFCD), (0xFDB, 0x1049), (0x1050, 0x109D),
  (0x10A0, 0x10FA), (0x10FC, 0x135F), (0x1369, 0x1371), (0x137D, 0x138F),
  (0x139A, 0x13FF), (0x1401, 0x166C), (0x166F, 0x167F), (0x1681, 0x169A),
  (0x169D, 0x16EA), (0x16EE, 0x1734), (0x1737, 0x17D3), (0x17D7, 0x17D7),
  (0x17DC, 0x17EF), (0x17FA, 0x17FF), (0x180B, 0x180D), (0x180F, 0x193F),
  (0x1941, 0x1943), (0x1946, 0x19DD), (0x1A00, 0x1A1D), (0x1A20, 0x1A9F),
  (0x1AA7, 0x1AA7), (0x1AAE, 0x1ABD), (0x1ABF, 0x1B4D), (0x1B50, 0x1B59),
  (0x1B6B, 0x1B73), (0x1B80, 0x1BFB), (0x1C00, 0x1C3A), (0x1C40, 0x1C7D),
  (0x1C80, 0x1CBF), (0x1CC8, 0x1CD2), (0x1CD4, 0x1FBC), (0x1FBE, 0x1FBE),
  (0x1FC2, 0x1FCC), (0x1FD0, 0x1FDC), (0x1FE0, 0x1FEC), (0x1FF0, 0x1FFC),
  (0x1FFF, 0x1FFF), (0x200C, 0x200D), (0x203F, 0x2040), (0x2054, 0x2054),
  (0x2065, 0x2065), (0x2071, 0x2073), (0x207F, 0x207F), (0x208F, 0x209F),
  (0x20C2, 0x20DC), (0x20E1, 0x20E1), (0x20E5, 0x20FF), (0x2102, 0x2102),
  (0x2107, 0x2107), (0x210A, 0x2113), (0x2115, 0x2115), (0x2118, 0x211D),
  (0x2124, 0x2124), (0x2126, 0x2126), (0x2128, 0x2128), (0x212A, 0x2139),
  (0x213C, 0x213F), (0x2145, 0x2149), (0x214E, 0x214E), (0x2160, 0x2188),
  (0x218C, 0x218F), (0x242A, 0x243F), (0x244B, 0x245F), (0x2B74, 0x2B75),
  (0x2C00, 0x2CE4), (0x2CEB, 0x2CF8), (0x2D00, 0x2D6F), (0x2D71, 0x2DFF),
  (0x2E5E, 0x2E7F), (0x2E9A, 0x2E9A), (0x2EF4, 0x2EFF), (0x2FD6, 0x2FEF),
  (0x3005, 0x3007), (0x3021, 0x302F), (0x3031, 0x3035), (0x3038, 0x303C),
  (0x3040, 0x309A), (0x309D, 0x309F), (0x30A1, 0x318F), (0x31A0, 0x31BF),
  (0x31E6, 0x31EE), (0x31F0, 0x31FF), (0x321F, 0x321F), (0x3400, 0x4DBF),
  (0x4E00, 0xA48F), (0xA4C7, 0xA4FD), (0xA500, 0xA60C), (0xA610, 0xA66F),
  (0xA674, 0xA67D), (0xA67F, 0xA6F1), (0xA6F8, 0xA6FF), (0xA717, 0xA71F),
  (0xA722, 0xA788), (0xA78B, 0xA827), (0xA82C, 0xA82F), (0xA83A, 0xA873),
  (0xA878, 0xA8CD), (0xA8D0, 0xA8F7), (0xA8FB, 0xA8FB), (0xA8FD, 0xA92D),
  (0xA930, 0xA95E), (0xA960, 0xA9C0), (0xA9CE, 0xA9DD), (0xA9E0, 0xAA5B),
  (0xAA60, 0xAA76), (0xAA7A, 0xAADD), (0xAAE0, 0xAAEF), (0xAAF2, 0xAB5A),
  (0xAB5C, 0xAB69), (0xAB6C, 0xABEA), (0xABEC, 0xD7FF), (0xF900, 0xFB28),
  (0xFB2A, 0xFBB1), (0xFBD3, 0xFC5D), (0xFC64, 0xFD3D), (0xFD50, 0xFD8F),
  (0xFD92, 0xFDC7), (0xFDF0, 0xFDF9), (0xFE00, 0xFE0F), (0xFE1A, 0xFE2F),
  (0xFE33, 0xFE34), (0xFE4D, 0xFE4F), (0xFE53, 0xFE53), (0xFE67, 0xFE67),
  (0xFE6C, 0xFE6F), (0xFE71, 0xFE71), (0xFE73, 0xFE73), (0xFE75, 0xFE75),
  (0xFE77, 0xFE77), (0xFE79, 0xFE79), (0xFE7B, 0xFE7B), (0xFE7D, 0xFE7D),
  (0xFE7F, 0xFEFE), (0xFF00, 0xFF00), (0xFF10, 0xFF19), (0xFF21, 0xFF3A),
  (0xFF3F, 0xFF3F), (0xFF41, 0xFF5A), (0xFF65, 0xFFDF), (0xFFE7, 0xFFE7),
  (0xFFEF, 0xFFF8), (0x10000, 0x100FF), (0x10103, 0x10106), (0x10134, 0x10136),
  (0x10140, 0x10174), (0x1018F, 0x1018F), (0x1019D, 0x1019F), (0x101A1, 0x101CF),
  (0x101FD, 0x102E0), (0x102FC, 0x1031F), (0x10324, 0x1039E), (0x103A0, 0x103CF),
  (0x103D1, 0x1056E), (0x10570, 0x10856), (0x10860, 0x10876), (0x10880, 0x108A6),
  (0x108B0, 0x108FA), (0x10900, 0x10915), (0x1091C, 0x1091E), (0x10920, 0x1093E),
  (0x10940, 0x109BB), (0x109BE, 0x109BF), (0x109D0, 0x109D1), (0x10A00, 0x10A3F),
  (0x10A49, 0x10A4F), (0x10A59, 0x10A7C), (0x10A80, 0x10A9C), (0x10AA0, 0x10AC7),
  (0x10AC9, 0x10AEA), (0x10AF7, 0x10B38), (0x10B40, 0x10B57), (0x10B60, 0x10B77),
  (0x10B80, 0x10B98), (0x10B9D, 0x10BA8), (0x10BB0, 0x10CF9), (0x10D00, 0x10D6D),
  (0x10D6F, 0x10D8D), (0x10D90, 0x10E5F), (0x10E7F, 0x10EAC), (0x10EAE, 0x10ECF),
  (0x10ED9, 0x10F1C), (0x10F27, 0x10F50), (0x10F5A, 0x10F85), (0x10F8A, 0x10FC4),
  (0x10FCC, 0x11046), (0x1104E, 0x11051), (0x11066, 0x110BA), (0x110C2, 0x110CC),
  (0x110CE, 0x1113F), (0x11144, 0x11173), (0x11176, 0x111C4), (0x111C9, 0x111CC),
  (0x111CE, 0x111DA), (0x111DC, 0x111DC), (0x111E0, 0x111E0), (0x111F5, 0x11237),
  (0x1123E, 0x112A8), (0x112AA, 0x113D3), (0x113D6, 0x113D6), (0x113D9, 0x1144A),
  (0x11450, 0x11459), (0x1145C, 0x1145C), (0x1145E, 0x114C5), (0x114C7, 0x115C0),
  (0x115D8, 0x11640), (0x11644, 0x1165F), (0x1166D, 0x116B8), (0x116BA, 0x11739),
  (0x11740, 0x1183A), (0x1183C, 0x118E9), (0x118F3, 0x11943), (0x11947, 0x119E1),
  (0x119E3, 0x11A3E), (0x11A47, 0x11A99), (0x11A9D, 0x11A9D), (0x11AA3, 0x11AFF),
  (0x11B0A, 0x11BE0), (0x11BE2, 0x11C40), (0x11C46, 0x11C59), (0x11C6D, 0x11C6F),
  (0x11C72, 0x11EF6), (0x11EF9, 0x11F42), (0x11F50, 0x11FBF), (0x11FF2, 0x11FFE),
  (0x12000, 0x1246F), (0x12475, 0x12FF0), (0x12FF3, 0x1342F), (0x13440, 0x16A6D),
  (0x16A70, 0x16AF4), (0x16AF6, 0x16B36), (0x16B40, 0x16B43), (0x16B46, 0x16B5A),
  (0x16B62, 0x16D6C), (0x16D70, 0x16E7F), (0x16E9B, 0x16FE1), (0x16FE3, 0x1BC9B),
  (0x1BC9D, 0x1BC9E), (0x1BCA4, 0x1CBFF), (0x1CCF0, 0x1CCF9), (0x1CCFD, 0x1CCFF),
  (0x1CEB4, 0x1CEB9), (0x1CED1, 0x1CEDF), (0x1CEF1, 0x1CF4F), (0x1CFC4, 0x1CFFF),
  (0x1D0F6, 0x1D0FF), (0x1D127, 0x1D128), (0x1D165, 0x1D169), (0x1D16D, 0x1D172),
  (0x1D17B, 0x1D182), (0x1D185, 0x1D18B), (0x1D1AA, 0x1D1AD), (0x1D1EB, 0x1D1FF),
  (0x1D242, 0x1D244), (0x1D246, 0x1D2BF), (0x1D2D4, 0x1D2DF), (0x1D2F4, 0x1D2FF),
  (0x1D357, 0x1D35F), (0x1D379, 0x1D6C0), (0x1D6C2, 0x1D6DA), (0x1D6DC, 0x1D6FA),
  (0x1D6FC, 0x1D714), (0x1D716, 0x1D734), (0x1D736, 0x1D74E), (0x1D750, 0x1D76E),
  (0x1D770, 0x1D788), (0x1D78A, 0x1D7A8), (0x1D7AA, 0x1D7C2), (0x1D7C4, 0x1D7FF),
  (0x1DA00, 0x1DA36), (0x1DA3B, 0x1DA6C), (0x1DA75, 0x1DA75), (0x1DA84, 0x1DA84),
  (0x1DA8C, 0x1E14E), (0x1E150, 0x1E2FE), (0x1E300, 0x1E5FE), (0x1E600, 0x1E8C6),
  (0x1E8D0, 0x1E95D), (0x1E960, 0x1EC70), (0x1ECB5, 0x1ED00), (0x1ED3E, 0x1EEEF),
  (0x1EEF2, 0x1EFFF), (0x1F02C, 0x1F02F), (0x1F094, 0x1F09F), (0x1F0AF, 0x1F0B0),
  (0x1F0C0, 0x1F0C0), (0x1F0D0, 0x1F0D0), (0x1F0F6, 0x1F0FF), (0x1F1AE, 0x1F1E5),
  (0x1F203, 0x1F20F), (0x1F23C, 0x1F23F), (0x1F249, 0x1F24F), (0x1F252, 0x1F25F),
  (0x1F266, 0x1F2FF), (0x1F6D9, 0x1F6DB), (0x1F6ED, 0x1F6EF), (0x1F6FD, 0x1F6FF),
  (0x1F7DA, 0x1F7DF), (0x1F7EC, 0x1F7EF), (0x1F7F1, 0x1F7FF), (0x1F80C, 0x1F80F),
  (0x1F848, 0x1F84F), (0x1F85A, 0x1F85F), (0x1F888, 0x1F88F), (0x1F8AE, 0x1F8AF),
  (0x1F8BC, 0x1F8BF), (0x1F8C2, 0x1F8CF), (0x1F8D9, 0x1F8FF), (0x1FA58, 0x1FA5F),
  (0x1FA6E, 0x1FA6F), (0x1FA7D, 0x1FA7F), (0x1FA8B, 0x1FA8D), (0x1FAC7, 0x1FAC7),
  (0x1FAC9, 0x1FACC), (0x1FADD, 0x1FADE), (0x1FAEB, 0x1FAEE), (0x1FAF9, 0x1FAFF),
  (0x1FB93, 0x1FB93), (0x1FBF0, 0x1FBF9), (0x1FBFB, 0x1FFFD), (0x20000, 0x2FFFD),
  (0x30000, 0x3FFFD), (0x40000, 0x4FFFD), (0x50000, 0x5FFFD), (0x60000, 0x6FFFD),
  (0x70000, 0x7FFFD), (0x80000, 0x8FFFD), (0x90000, 0x9FFFD), (0xA0000, 0xAFFFD),
  (0xB0000, 0xBFFFD), (0xC0000, 0xCFFFD), (0xD0000, 0xDFFFD), (0xE0000, 0xE0000),
  (0xE0002, 0xE001F), (0xE0080, 0xEFFFD)]

/-- Whether a character may start a name. -/
def isNameStart (c : Char) : Bool := inRanges nameStartRanges c.toNat

/-- Whether a character may continue a name. -/
def isNameContinue (c : Char) : Bool := inRanges nameContinueRanges c.toNat

end Text

end NodeGraph
