import GraphImport.Host.Table
import GraphImport.Text.Parts

/-!
# Composed text

The form of a text in which a letter and its marks are one character where there is such a
character (Unicode 17). Only characters that stay as they are in a name are listed.

* `Host.combiningClass` — where marks of a letter stand among each other.
* `Host.decomposed`, `Host.composed` — letters apart from their marks, and together with them.
* `Host.normalized` — the composed form of a text.
-/

namespace GraphImport.Host

/-! ## Tables -/

/-- The classes of marks, each with a range of code points of that class. -/
def combiningClasses : List (Nat × Nat × Nat) :=
  [(1, 0x334, 0x338), (1, 0x1CD4, 0x1CD4), (1, 0x1CE2, 0x1CE8), (1, 0x20D2, 0x20D3),
    (1, 0x20D8, 0x20DA), (1, 0x20E5, 0x20E6), (1, 0x20EA, 0x20EB), (1, 0x10A39, 0x10A39),
    (1, 0x16AF0, 0x16AF4), (1, 0x1BC9E, 0x1BC9E), (1, 0x1D167, 0x1D169), (6, 0x16FF0, 0x16FF1),
    (7, 0x93C, 0x93C), (7, 0x9BC, 0x9BC), (7, 0xA3C, 0xA3C), (7, 0xABC, 0xABC), (7, 0xB3C, 0xB3C),
    (7, 0xC3C, 0xC3C), (7, 0xCBC, 0xCBC), (7, 0x1037, 0x1037), (7, 0x1B34, 0x1B34),
    (7, 0x1BE6, 0x1BE6), (7, 0x1C37, 0x1C37), (7, 0xA9B3, 0xA9B3), (7, 0x110BA, 0x110BA),
    (7, 0x11173, 0x11173), (7, 0x111CA, 0x111CA), (7, 0x11236, 0x11236), (7, 0x112E9, 0x112E9),
    (7, 0x1133B, 0x1133C), (7, 0x11446, 0x11446), (7, 0x114C3, 0x114C3), (7, 0x115C0, 0x115C0),
    (7, 0x116B7, 0x116B7), (7, 0x1183A, 0x1183A), (7, 0x11943, 0x11943), (7, 0x11D42, 0x11D42),
    (7, 0x1E94A, 0x1E94A), (8, 0x3099, 0x309A), (9, 0x94D, 0x94D), (9, 0x9CD, 0x9CD),
    (9, 0xA4D, 0xA4D), (9, 0xACD, 0xACD), (9, 0xB4D, 0xB4D), (9, 0xBCD, 0xBCD), (9, 0xC4D, 0xC4D),
    (9, 0xCCD, 0xCCD), (9, 0xD3B, 0xD3C), (9, 0xD4D, 0xD4D), (9, 0xDCA, 0xDCA), (9, 0xE3A, 0xE3A),
    (9, 0xEBA, 0xEBA), (9, 0xF84, 0xF84), (9, 0x1039, 0x103A), (9, 0x1714, 0x1715),
    (9, 0x1734, 0x1734), (9, 0x17D2, 0x17D2), (9, 0x1A60, 0x1A60), (9, 0x1B44, 0x1B44),
    (9, 0x1BAA, 0x1BAB), (9, 0x1BF2, 0x1BF3), (9, 0x2D7F, 0x2D7F), (9, 0xA806, 0xA806),
    (9, 0xA82C, 0xA82C), (9, 0xA8C4, 0xA8C4), (9, 0xA953, 0xA953), (9, 0xA9C0, 0xA9C0),
    (9, 0xAAF6, 0xAAF6), (9, 0xABED, 0xABED), (9, 0x10A3F, 0x10A3F), (9, 0x11046, 0x11046),
    (9, 0x11070, 0x11070), (9, 0x1107F, 0x1107F), (9, 0x110B9, 0x110B9), (9, 0x11133, 0x11134),
    (9, 0x111C0, 0x111C0), (9, 0x11235, 0x11235), (9, 0x112EA, 0x112EA), (9, 0x1134D, 0x1134D),
    (9, 0x113CE, 0x113D0), (9, 0x11442, 0x11442), (9, 0x114C2, 0x114C2), (9, 0x115BF, 0x115BF),
    (9, 0x1163F, 0x1163F), (9, 0x116B6, 0x116B6), (9, 0x1172B, 0x1172B), (9, 0x11839, 0x11839),
    (9, 0x1193D, 0x1193E), (9, 0x119E0, 0x119E0), (9, 0x11A34, 0x11A34), (9, 0x11A47, 0x11A47),
    (9, 0x11A99, 0x11A99), (9, 0x11C3F, 0x11C3F), (9, 0x11D44, 0x11D45), (9, 0x11D97, 0x11D97),
    (9, 0x11F41, 0x11F42), (9, 0x1612F, 0x1612F), (10, 0x5B0, 0x5B0), (11, 0x5B1, 0x5B1),
    (12, 0x5B2, 0x5B2), (13, 0x5B3, 0x5B3), (14, 0x5B4, 0x5B4), (15, 0x5B5, 0x5B5),
    (16, 0x5B6, 0x5B6), (17, 0x5B7, 0x5B7), (18, 0x5B8, 0x5B8), (18, 0x5C7, 0x5C7),
    (19, 0x5B9, 0x5BA), (20, 0x5BB, 0x5BB), (21, 0x5BC, 0x5BC), (22, 0x5BD, 0x5BD),
    (23, 0x5BF, 0x5BF), (24, 0x5C1, 0x5C1), (25, 0x5C2, 0x5C2), (26, 0xFB1E, 0xFB1E),
    (27, 0x64B, 0x64B), (27, 0x8F0, 0x8F0), (28, 0x64C, 0x64C), (28, 0x8F1, 0x8F1),
    (29, 0x64D, 0x64D), (29, 0x8F2, 0x8F2), (30, 0x618, 0x618), (30, 0x64E, 0x64E),
    (31, 0x619, 0x619), (31, 0x64F, 0x64F), (32, 0x61A, 0x61A), (32, 0x650, 0x650),
    (33, 0x651, 0x651), (34, 0x652, 0x652), (35, 0x670, 0x670), (36, 0x711, 0x711),
    (84, 0xC55, 0xC55), (91, 0xC56, 0xC56), (103, 0xE38, 0xE39), (107, 0xE48, 0xE4B),
    (118, 0xEB8, 0xEB9), (122, 0xEC8, 0xECB), (129, 0xF71, 0xF71), (130, 0xF72, 0xF72),
    (130, 0xF7A, 0xF7D), (130, 0xF80, 0xF80), (132, 0xF74, 0xF74), (202, 0x321, 0x322),
    (202, 0x327, 0x328), (202, 0x1DD0, 0x1DD0), (214, 0x1DCE, 0x1DCE), (216, 0x31B, 0x31B),
    (216, 0xF39, 0xF39), (216, 0x1D165, 0x1D166), (216, 0x1D16E, 0x1D172), (218, 0x1DFA, 0x1DFA),
    (218, 0x302A, 0x302A), (220, 0x316, 0x319), (220, 0x31C, 0x320), (220, 0x323, 0x326),
    (220, 0x329, 0x333), (220, 0x339, 0x33C), (220, 0x347, 0x349), (220, 0x34D, 0x34E),
    (220, 0x353, 0x356), (220, 0x359, 0x35A), (220, 0x591, 0x591), (220, 0x596, 0x596),
    (220, 0x59B, 0x59B), (220, 0x5A2, 0x5A7), (220, 0x5AA, 0x5AA), (220, 0x5C5, 0x5C5),
    (220, 0x655, 0x656), (220, 0x65C, 0x65C), (220, 0x65F, 0x65F), (220, 0x6E3, 0x6E3),
    (220, 0x6EA, 0x6EA), (220, 0x6ED, 0x6ED), (220, 0x731, 0x731), (220, 0x734, 0x734),
    (220, 0x737, 0x739), (220, 0x73B, 0x73C), (220, 0x73E, 0x73E), (220, 0x742, 0x742),
    (220, 0x744, 0x744), (220, 0x746, 0x746), (220, 0x748, 0x748), (220, 0x7F2, 0x7F2),
    (220, 0x7FD, 0x7FD), (220, 0x859, 0x85B), (220, 0x899, 0x89B), (220, 0x8CF, 0x8D3),
    (220, 0x8E3, 0x8E3), (220, 0x8E6, 0x8E6), (220, 0x8E9, 0x8E9), (220, 0x8ED, 0x8EF),
    (220, 0x8F6, 0x8F6), (220, 0x8F9, 0x8FA), (220, 0x952, 0x952), (220, 0xF18, 0xF19),
    (220, 0xF35, 0xF35), (220, 0xF37, 0xF37), (220, 0xFC6, 0xFC6), (220, 0x108D, 0x108D),
    (220, 0x193B, 0x193B), (220, 0x1A18, 0x1A18), (220, 0x1A7F, 0x1A7F), (220, 0x1AB5, 0x1ABA),
    (220, 0x1ABD, 0x1ABD), (220, 0x1ABF, 0x1AC0), (220, 0x1AC3, 0x1AC4), (220, 0x1ACA, 0x1ACA),
    (220, 0x1ADD, 0x1ADD), (220, 0x1AE6, 0x1AE6), (220, 0x1B6C, 0x1B6C), (220, 0x1CD5, 0x1CD9),
    (220, 0x1CDC, 0x1CDF), (220, 0x1CED, 0x1CED), (220, 0x1DC2, 0x1DC2), (220, 0x1DCA, 0x1DCA),
    (220, 0x1DCF, 0x1DCF), (220, 0x1DF9, 0x1DF9), (220, 0x1DFD, 0x1DFD), (220, 0x1DFF, 0x1DFF),
    (220, 0x20E8, 0x20E8), (220, 0x20EC, 0x20EF), (220, 0xA92B, 0xA92D), (220, 0xAAB4, 0xAAB4),
    (220, 0xFE27, 0xFE2D), (220, 0x101FD, 0x101FD), (220, 0x102E0, 0x102E0),
    (220, 0x10A0D, 0x10A0D), (220, 0x10A3A, 0x10A3A), (220, 0x10AE6, 0x10AE6),
    (220, 0x10EFA, 0x10EFB), (220, 0x10EFD, 0x10EFF), (220, 0x10F46, 0x10F47),
    (220, 0x10F4B, 0x10F4B), (220, 0x10F4D, 0x10F50), (220, 0x10F83, 0x10F83),
    (220, 0x10F85, 0x10F85), (220, 0x1D17B, 0x1D182), (220, 0x1D18A, 0x1D18B),
    (220, 0x1E4EE, 0x1E4EE), (220, 0x1E5EF, 0x1E5EF), (220, 0x1E8D0, 0x1E8D6),
    (222, 0x59A, 0x59A), (222, 0x5AD, 0x5AD), (222, 0x1939, 0x1939), (222, 0x302D, 0x302D),
    (224, 0x302E, 0x302F), (226, 0x1D16D, 0x1D16D), (228, 0x5AE, 0x5AE), (228, 0x18A9, 0x18A9),
    (228, 0x1DF7, 0x1DF8), (228, 0x302B, 0x302B), (230, 0x300, 0x314), (230, 0x33D, 0x346),
    (230, 0x34A, 0x34C), (230, 0x350, 0x352), (230, 0x357, 0x357), (230, 0x35B, 0x35B),
    (230, 0x363, 0x36F), (230, 0x483, 0x487), (230, 0x592, 0x595), (230, 0x597, 0x599),
    (230, 0x59C, 0x5A1), (230, 0x5A8, 0x5A9), (230, 0x5AB, 0x5AC), (230, 0x5AF, 0x5AF),
    (230, 0x5C4, 0x5C4), (230, 0x610, 0x617), (230, 0x653, 0x654), (230, 0x657, 0x65B),
    (230, 0x65D, 0x65E), (230, 0x6D6, 0x6DC), (230, 0x6DF, 0x6E2), (230, 0x6E4, 0x6E4),
    (230, 0x6E7, 0x6E8), (230, 0x6EB, 0x6EC), (230, 0x730, 0x730), (230, 0x732, 0x733),
    (230, 0x735, 0x736), (230, 0x73A, 0x73A), (230, 0x73D, 0x73D), (230, 0x73F, 0x741),
    (230, 0x743, 0x743), (230, 0x745, 0x745), (230, 0x747, 0x747), (230, 0x749, 0x74A),
    (230, 0x7EB, 0x7F1), (230, 0x7F3, 0x7F3), (230, 0x816, 0x819), (230, 0x81B, 0x823),
    (230, 0x825, 0x827), (230, 0x829, 0x82D), (230, 0x897, 0x898), (230, 0x89C, 0x89F),
    (230, 0x8CA, 0x8CE), (230, 0x8D4, 0x8E1), (230, 0x8E4, 0x8E5), (230, 0x8E7, 0x8E8),
    (230, 0x8EA, 0x8EC), (230, 0x8F3, 0x8F5), (230, 0x8F7, 0x8F8), (230, 0x8FB, 0x8FF),
    (230, 0x951, 0x951), (230, 0x953, 0x954), (230, 0x9FE, 0x9FE), (230, 0xF82, 0xF83),
    (230, 0xF86, 0xF87), (230, 0x135D, 0x135F), (230, 0x17DD, 0x17DD), (230, 0x193A, 0x193A),
    (230, 0x1A17, 0x1A17), (230, 0x1A75, 0x1A7C), (230, 0x1AB0, 0x1AB4), (230, 0x1ABB, 0x1ABC),
    (230, 0x1AC1, 0x1AC2), (230, 0x1AC5, 0x1AC9), (230, 0x1ACB, 0x1ADC), (230, 0x1AE0, 0x1AE5),
    (230, 0x1AE7, 0x1AEA), (230, 0x1B6B, 0x1B6B), (230, 0x1B6D, 0x1B73), (230, 0x1CD0, 0x1CD2),
    (230, 0x1CDA, 0x1CDB), (230, 0x1CE0, 0x1CE0), (230, 0x1CF4, 0x1CF4), (230, 0x1CF8, 0x1CF9),
    (230, 0x1DC0, 0x1DC1), (230, 0x1DC3, 0x1DC9), (230, 0x1DCB, 0x1DCC), (230, 0x1DD1, 0x1DF5),
    (230, 0x1DFB, 0x1DFB), (230, 0x1DFE, 0x1DFE), (230, 0x20D0, 0x20D1), (230, 0x20D4, 0x20D7),
    (230, 0x20DB, 0x20DC), (230, 0x20E1, 0x20E1), (230, 0x20E7, 0x20E7), (230, 0x20E9, 0x20E9),
    (230, 0x20F0, 0x20F0), (230, 0x2CEF, 0x2CF1), (230, 0x2DE0, 0x2DFF), (230, 0xA66F, 0xA66F),
    (230, 0xA674, 0xA67D), (230, 0xA69E, 0xA69F), (230, 0xA6F0, 0xA6F1), (230, 0xA8E0, 0xA8F1),
    (230, 0xAAB0, 0xAAB0), (230, 0xAAB2, 0xAAB3), (230, 0xAAB7, 0xAAB8), (230, 0xAABE, 0xAABF),
    (230, 0xAAC1, 0xAAC1), (230, 0xFE20, 0xFE26), (230, 0xFE2E, 0xFE2F), (230, 0x10376, 0x1037A),
    (230, 0x10A0F, 0x10A0F), (230, 0x10A38, 0x10A38), (230, 0x10AE5, 0x10AE5),
    (230, 0x10D24, 0x10D27), (230, 0x10D69, 0x10D6D), (230, 0x10EAB, 0x10EAC),
    (230, 0x10F48, 0x10F4A), (230, 0x10F4C, 0x10F4C), (230, 0x10F82, 0x10F82),
    (230, 0x10F84, 0x10F84), (230, 0x11100, 0x11102), (230, 0x11366, 0x11374),
    (230, 0x1145E, 0x1145E), (230, 0x16B30, 0x16B36), (230, 0x1D185, 0x1D189),
    (230, 0x1D1AA, 0x1D1AD), (230, 0x1D242, 0x1D244), (230, 0x1E000, 0x1E08F),
    (230, 0x1E130, 0x1E136), (230, 0x1E2AE, 0x1E2AE), (230, 0x1E2EC, 0x1E2EF),
    (230, 0x1E4EF, 0x1E4EF), (230, 0x1E5EE, 0x1E5EE), (230, 0x1E6E3, 0x1E6E3),
    (230, 0x1E6E6, 0x1E6E6), (230, 0x1E6EE, 0x1E6EF), (230, 0x1E6F5, 0x1E6F5),
    (230, 0x1E944, 0x1E949), (232, 0x315, 0x315), (232, 0x31A, 0x31A), (232, 0x358, 0x358),
    (232, 0x1DF6, 0x1DF6), (232, 0x302C, 0x302C), (232, 0x1E4EC, 0x1E4ED), (233, 0x35C, 0x35C),
    (233, 0x35F, 0x35F), (233, 0x362, 0x362), (233, 0x1DFC, 0x1DFC), (234, 0x35D, 0x35E),
    (234, 0x360, 0x361), (234, 0x1AEB, 0x1AEB), (234, 0x1DCD, 0x1DCD)]

/-- The class of a mark. What stands on its own has the class 0. -/
def combiningClass (c : Char) : Nat :=
  if Text.isAscii c then 0
  else
    match combiningClasses.find? fun (_, first, last) => first ≤ c.toNat && c.toNat ≤ last with
    | some (k, _, _) => k
    | none => 0

/-- Pairs of code points, each with the code point of both together. -/
def compositions : List (List Nat) := tableOf
  ["61 300 E0;61 301 E1;61 302 E2;61 303 E3;61 308 E4;61 30A E5;63 327 E7;65 300 E8;65 301 E9",
    "65 302 EA;65 308 EB;69 300 EC;69 301 ED;69 302 EE;69 308 EF;6E 303 F1;6F 300 F2;6F 301 F3",
    "6F 302 F4;6F 303 F5;6F 308 F6;75 300 F9;75 301 FA;75 302 FB;75 308 FC;79 301 FD;79 308 FF",
    "61 304 101;61 306 103;61 328 105;63 301 107;63 302 109;63 307 10B;63 30C 10D;64 30C 10F",
    "65 304 113;65 306 115;65 307 117;65 328 119;65 30C 11B;67 302 11D;67 306 11F;67 307 121",
    "67 327 123;68 302 125;69 303 129;69 304 12B;69 306 12D;69 328 12F;6A 302 135;6B 327 137",
    "6C 301 13A;6C 327 13C;6C 30C 13E;6E 301 144;6E 327 146;6E 30C 148;6F 304 14D;6F 306 14F",
    "6F 30B 151;72 301 155;72 327 157;72 30C 159;73 301 15B;73 302 15D;73 327 15F;73 30C 161",
    "74 327 163;74 30C 165;75 303 169;75 304 16B;75 306 16D;75 30A 16F;75 30B 171;75 328 173",
    "77 302 175;79 302 177;7A 301 17A;7A 307 17C;7A 30C 17E;6F 31B 1A1;75 31B 1B0;61 30C 1CE",
    "69 30C 1D0;6F 30C 1D2;75 30C 1D4;FC 304 1D6;FC 301 1D8;FC 30C 1DA;FC 300 1DC;E4 304 1DF",
    "227 304 1E1;E6 304 1E3;67 30C 1E7;6B 30C 1E9;6F 328 1EB;1EB 304 1ED;292 30C 1EF;6A 30C 1F0",
    "67 301 1F5;6E 300 1F9;E5 301 1FB;E6 301 1FD;F8 301 1FF;61 30F 201;61 311 203;65 30F 205",
    "65 311 207;69 30F 209;69 311 20B;6F 30F 20D;6F 311 20F;72 30F 211;72 311 213;75 30F 215",
    "75 311 217;73 326 219;74 326 21B;68 30C 21F;61 307 227;65 327 229;F6 304 22B;F5 304 22D",
    "6F 307 22F;22F 304 231;79 304 233;3CA 301 390;3B1 301 3AC;3B5 301 3AD;3B7 301 3AE",
    "3B9 301 3AF;3CB 301 3B0;3B9 308 3CA;3C5 308 3CB;3BF 301 3CC;3C5 301 3CD;3C9 301 3CE",
    "438 306 439;435 300 450;435 308 451;433 301 453;456 308 457;43A 301 45C;438 300 45D",
    "443 306 45E;475 30F 477;436 306 4C2;430 306 4D1;430 308 4D3;435 306 4D7;4D9 308 4DB",
    "436 308 4DD;437 308 4DF;438 304 4E3;438 308 4E5;43E 308 4E7;4E9 308 4EB;44D 308 4ED",
    "443 304 4EF;443 308 4F1;443 30B 4F3;447 308 4F5;44B 308 4F9;627 653 622;627 654 623",
    "648 654 624;627 655 625;64A 654 626;6D5 654 6C0;6C1 654 6C2;6D2 654 6D3;928 93C 929",
    "930 93C 931;933 93C 934;9C7 9BE 9CB;9C7 9D7 9CC;B47 B56 B48;B47 B3E B4B;B47 B57 B4C",
    "B92 BD7 B94;BC6 BBE BCA;BC7 BBE BCB;BC6 BD7 BCC;C46 C56 C48;CBF CD5 CC0;CC6 CD5 CC7",
    "CC6 CD6 CC8;CC6 CC2 CCA;CCA CD5 CCB;D46 D3E D4A;D47 D3E D4B;D46 D57 D4C;DD9 DCA DDA",
    "DD9 DCF DDC;DDC DCA DDD;DD9 DDF DDE;1025 102E 1026;1B05 1B35 1B06;1B07 1B35 1B08",
    "1B09 1B35 1B0A;1B0B 1B35 1B0C;1B0D 1B35 1B0E;1B11 1B35 1B12;1B3A 1B35 1B3B;1B3C 1B35 1B3D",
    "1B3E 1B35 1B40;1B3F 1B35 1B41;1B42 1B35 1B43;61 325 1E01;62 307 1E03;62 323 1E05",
    "62 331 1E07;E7 301 1E09;64 307 1E0B;64 323 1E0D;64 331 1E0F;64 327 1E11;64 32D 1E13",
    "113 300 1E15;113 301 1E17;65 32D 1E19;65 330 1E1B;229 306 1E1D;66 307 1E1F;67 304 1E21",
    "68 307 1E23;68 323 1E25;68 308 1E27;68 327 1E29;68 32E 1E2B;69 330 1E2D;EF 301 1E2F",
    "6B 301 1E31;6B 323 1E33;6B 331 1E35;6C 323 1E37;1E37 304 1E39;6C 331 1E3B;6C 32D 1E3D",
    "6D 301 1E3F;6D 307 1E41;6D 323 1E43;6E 307 1E45;6E 323 1E47;6E 331 1E49;6E 32D 1E4B",
    "F5 301 1E4D;F5 308 1E4F;14D 300 1E51;14D 301 1E53;70 301 1E55;70 307 1E57;72 307 1E59",
    "72 323 1E5B;1E5B 304 1E5D;72 331 1E5F;73 307 1E61;73 323 1E63;15B 307 1E65;161 307 1E67",
    "1E63 307 1E69;74 307 1E6B;74 323 1E6D;74 331 1E6F;74 32D 1E71;75 324 1E73;75 330 1E75",
    "75 32D 1E77;169 301 1E79;16B 308 1E7B;76 303 1E7D;76 323 1E7F;77 300 1E81;77 301 1E83",
    "77 308 1E85;77 307 1E87;77 323 1E89;78 307 1E8B;78 308 1E8D;79 307 1E8F;7A 302 1E91",
    "7A 323 1E93;7A 331 1E95;68 331 1E96;74 308 1E97;77 30A 1E98;79 30A 1E99;61 323 1EA1",
    "61 309 1EA3;E2 301 1EA5;E2 300 1EA7;E2 309 1EA9;E2 303 1EAB;1EA1 302 1EAD;103 301 1EAF",
    "103 300 1EB1;103 309 1EB3;103 303 1EB5;1EA1 306 1EB7;65 323 1EB9;65 309 1EBB;65 303 1EBD",
    "EA 301 1EBF;EA 300 1EC1;EA 309 1EC3;EA 303 1EC5;1EB9 302 1EC7;69 309 1EC9;69 323 1ECB",
    "6F 323 1ECD;6F 309 1ECF;F4 301 1ED1;F4 300 1ED3;F4 309 1ED5;F4 303 1ED7;1ECD 302 1ED9",
    "1A1 301 1EDB;1A1 300 1EDD;1A1 309 1EDF;1A1 303 1EE1;1A1 323 1EE3;75 323 1EE5;75 309 1EE7",
    "1B0 301 1EE9;1B0 300 1EEB;1B0 309 1EED;1B0 303 1EEF;1B0 323 1EF1;79 300 1EF3;79 323 1EF5",
    "79 309 1EF7;79 303 1EF9;3B1 313 1F00;3B1 314 1F01;1F00 300 1F02;1F01 300 1F03",
    "1F00 301 1F04;1F01 301 1F05;1F00 342 1F06;1F01 342 1F07;3B5 313 1F10;3B5 314 1F11",
    "1F10 300 1F12;1F11 300 1F13;1F10 301 1F14;1F11 301 1F15;3B7 313 1F20;3B7 314 1F21",
    "1F20 300 1F22;1F21 300 1F23;1F20 301 1F24;1F21 301 1F25;1F20 342 1F26;1F21 342 1F27",
    "3B9 313 1F30;3B9 314 1F31;1F30 300 1F32;1F31 300 1F33;1F30 301 1F34;1F31 301 1F35",
    "1F30 342 1F36;1F31 342 1F37;3BF 313 1F40;3BF 314 1F41;1F40 300 1F42;1F41 300 1F43",
    "1F40 301 1F44;1F41 301 1F45;3C5 313 1F50;3C5 314 1F51;1F50 300 1F52;1F51 300 1F53",
    "1F50 301 1F54;1F51 301 1F55;1F50 342 1F56;1F51 342 1F57;3C9 313 1F60;3C9 314 1F61",
    "1F60 300 1F62;1F61 300 1F63;1F60 301 1F64;1F61 301 1F65;1F60 342 1F66;1F61 342 1F67",
    "3B1 300 1F70;3B5 300 1F72;3B7 300 1F74;3B9 300 1F76;3BF 300 1F78;3C5 300 1F7A;3C9 300 1F7C",
    "3B1 306 1FB0;3B1 304 1FB1;3B1 342 1FB6;3B7 342 1FC6;3B9 306 1FD0;3B9 304 1FD1;3CA 300 1FD2",
    "3B9 342 1FD6;3CA 342 1FD7;3C5 306 1FE0;3C5 304 1FE1;3CB 300 1FE2;3C1 313 1FE4;3C1 314 1FE5",
    "3C5 342 1FE6;3CB 342 1FE7;3C9 342 1FF6;2190 338 219A;2192 338 219B;2194 338 21AE",
    "21D0 338 21CD;21D4 338 21CE;21D2 338 21CF;2203 338 2204;2208 338 2209;220B 338 220C",
    "2223 338 2224;2225 338 2226;223C 338 2241;2243 338 2244;2245 338 2247;2248 338 2249",
    "3D 338 2260;2261 338 2262;224D 338 226D;3C 338 226E;3E 338 226F;2264 338 2270",
    "2265 338 2271;2272 338 2274;2273 338 2275;2276 338 2278;2277 338 2279;227A 338 2280",
    "227B 338 2281;2282 338 2284;2283 338 2285;2286 338 2288;2287 338 2289;22A2 338 22AC",
    "22A8 338 22AD;22A9 338 22AE;22AB 338 22AF;227C 338 22E0;227D 338 22E1;2291 338 22E2",
    "2292 338 22E3;22B2 338 22EA;22B3 338 22EB;22B4 338 22EC;22B5 338 22ED;304B 3099 304C",
    "304D 3099 304E;304F 3099 3050;3051 3099 3052;3053 3099 3054;3055 3099 3056;3057 3099 3058",
    "3059 3099 305A;305B 3099 305C;305D 3099 305E;305F 3099 3060;3061 3099 3062;3064 3099 3065",
    "3066 3099 3067;3068 3099 3069;306F 3099 3070;306F 309A 3071;3072 3099 3073;3072 309A 3074",
    "3075 3099 3076;3075 309A 3077;3078 3099 3079;3078 309A 307A;307B 3099 307C;307B 309A 307D",
    "3046 3099 3094;309D 3099 309E;30AB 3099 30AC;30AD 3099 30AE;30AF 3099 30B0;30B1 3099 30B2",
    "30B3 3099 30B4;30B5 3099 30B6;30B7 3099 30B8;30B9 3099 30BA;30BB 3099 30BC;30BD 3099 30BE",
    "30BF 3099 30C0;30C1 3099 30C2;30C4 3099 30C5;30C6 3099 30C7;30C8 3099 30C9;30CF 3099 30D0",
    "30CF 309A 30D1;30D2 3099 30D3;30D2 309A 30D4;30D5 3099 30D6;30D5 309A 30D7;30D8 3099 30D9",
    "30D8 309A 30DA;30DB 3099 30DC;30DB 309A 30DD;30A6 3099 30F4;30EF 3099 30F7;30F0 3099 30F8",
    "30F1 3099 30F9;30F2 3099 30FA;30FD 3099 30FE;105D2 307 105C9;105DA 307 105E4",
    "11099 110BA 1109A;1109B 110BA 1109C;110A5 110BA 110AB;11131 11127 1112E;11132 11127 1112F",
    "11347 1133E 1134B;11347 11357 1134C;11382 113C9 11383;11384 113BB 11385;1138B 113C2 1138E",
    "11390 113C9 11391;113C2 113C2 113C5;113C2 113B8 113C7;113C2 113C9 113C8;114B9 114BA 114BB",
    "114B9 114B0 114BC;114B9 114BD 114BE;115B8 115AF 115BA;115B9 115AF 115BB;11935 11930 11938",
    "1611E 1611E 16121;1611E 16129 16122;1611E 1611F 16123;16129 1611F 16124;1611E 16120 16125",
    "16121 1611F 16126;16122 1611F 16127;16121 16120 16128;16D67 16D67 16D68;16D63 16D67 16D69",
    "16D69 16D67 16D6A"]

/-! ## Korean syllables -/

/-- The code point of the first syllable. Syllables are in the order of their letters. -/
def firstSyllable : Nat := 0xAC00

/-- The code point of the first initial consonant. -/
def firstInitial : Nat := 0x1100

/-- The code point of the first vowel. -/
def firstVowel : Nat := 0x1161

/-- The code point in front of the first final consonant. -/
def noFinal : Nat := 0x11A7

/-- Number of initial consonants. -/
def initialCount : Nat := 19

/-- Number of vowels. -/
def vowelCount : Nat := 21

/-- Number of final consonants, with none counted as one. -/
def finalCount : Nat := 28

/-- A syllable as a shorter one and its last letter. -/
def splitSyllable? (n : Nat) : Option (Nat × Nat) :=
  let index := n - firstSyllable
  if n < firstSyllable ∨ initialCount * vowelCount * finalCount ≤ index then none
  else if index % finalCount ≠ 0 then
    some (n - index % finalCount, noFinal + index % finalCount)
  else
    let index := index / finalCount
    some (firstInitial + index / vowelCount, firstVowel + index % vowelCount)

/-- The syllable of two letters, or of a syllable without final consonant and one. -/
def joinSyllable? (a b : Nat) : Option Nat :=
  if firstInitial ≤ a ∧ a < firstInitial + initialCount ∧ firstVowel ≤ b
      ∧ b < firstVowel + vowelCount then
    some (firstSyllable + ((a - firstInitial) * vowelCount + (b - firstVowel)) * finalCount)
  else if firstSyllable ≤ a ∧ a < firstSyllable + initialCount * vowelCount * finalCount
      ∧ (a - firstSyllable) % finalCount = 0 ∧ noFinal < b ∧ b < noFinal + finalCount then
    some (a + (b - noFinal))
  else none

/-! ## Taking apart -/

/-- The pair of which a character is composed. -/
def splitPair? (c : Char) : Option (Char × Char) :=
  match compositions.find? fun entry => entry[2]? == some c.toNat with
  | some [a, b, _] => some (Char.ofNat a, Char.ofNat b)
  | _ => (splitSyllable? c.toNat).map fun (a, b) => (Char.ofNat a, Char.ofNat b)

/-- No character is composed of more characters than this. -/
def maxDepth : Nat := 8

/-- A character taken apart, down to the given depth. -/
def apart : (depth : Nat) → Char → List Char
  | 0, c => [c]
  | depth + 1, c =>
    if Text.isAscii c then [c]
    else
      match splitPair? c with
      | some (a, b) => apart depth a ++ apart depth b
      | none => [c]

/-- Puts a character in front of marks; marks of a lower class go in front of it. -/
def placeMark (c : Char) : List Char → List Char
  | [] => [c]
  | d :: rest =>
    if combiningClass d ≠ 0 ∧ combiningClass d < combiningClass c then d :: placeMark c rest
    else c :: d :: rest

/-- The text with its letters apart from their marks, and the marks of each letter in order. -/
def decomposed (text : List Char) : List Char :=
  (text.flatMap (apart maxDepth)).foldr placeMark []

/-! ## Putting together -/

/-- The character that is composed of two. -/
def joinPair? (a b : Char) : Option Char :=
  match compositions.find? fun entry => entry.take 2 == [a.toNat, b.toNat] with
  | some [_, _, c] => some (Char.ofNat c)
  | _ => (joinSyllable? a.toNat b.toNat).map Char.ofNat

/-- Joins a letter with what follows. `marks` holds the marks that stay behind the letter, the last
one first; a mark joins the letter only if no mark of its class stands between them. -/
def joinMarks (letter : Char) (marks : List Char) : List Char → List Char
  | [] => letter :: marks.reverse
  | c :: rest =>
    let isNext := marks.head?.all fun mark => combiningClass mark < combiningClass c
    match if isNext then joinPair? letter c else none with
    | some joined => joinMarks joined marks rest
    | none =>
      if combiningClass c = 0 then letter :: marks.reverse ++ joinMarks c [] rest
      else joinMarks letter (c :: marks) rest

/-- The text with its letters and their marks joined. -/
def composed (text : List Char) : List Char :=
  let marks := text.takeWhile fun c => combiningClass c != 0
  match text.drop marks.length with
  | [] => marks
  | c :: rest => marks ++ joinMarks c [] rest

/-- The composed form of a text. -/
def normalized (text : List Char) : List Char :=
  if text.all Text.isAscii then text else composed (decomposed text)

end GraphImport.Host
