/-!
# Characters that stand for others

Letters in another width, style or position, ligatures, and characters that are encoded twice stand
for the plain characters that they are forms of.
-/
namespace Pinboard.Text

/-- Characters in a row, each of which stands for one character: for those from `target` on, or all
for `target`. -/
structure FormRun where
  first : Nat
  last : Nat
  target : Nat
  /-- How far the target moves with each character, by one or not at all. -/
  step : Nat

def formRuns : List FormRun :=
  [⟨0xAA, 0xAA, 0x61, 1⟩, ⟨0xB5, 0xB5, 0x3BC, 1⟩, ⟨0xBA, 0xBA, 0x6F, 1⟩, ⟨0x17F, 0x17F, 0x73, 1⟩,
   ⟨0x2B0, 0x2B0, 0x68, 1⟩, ⟨0x2B1, 0x2B1, 0x266, 1⟩, ⟨0x2B2, 0x2B2, 0x6A, 1⟩,
   ⟨0x2B3, 0x2B3, 0x72, 1⟩, ⟨0x2B4, 0x2B4, 0x279, 1⟩, ⟨0x2B5, 0x2B5, 0x27B, 1⟩,
   ⟨0x2B6, 0x2B6, 0x281, 1⟩, ⟨0x2B7, 0x2B7, 0x77, 1⟩, ⟨0x2B8, 0x2B8, 0x79, 1⟩,
   ⟨0x2E0, 0x2E0, 0x263, 1⟩, ⟨0x2E1, 0x2E1, 0x6C, 1⟩, ⟨0x2E2, 0x2E2, 0x73, 1⟩,
   ⟨0x2E3, 0x2E3, 0x78, 1⟩, ⟨0x2E4, 0x2E4, 0x295, 1⟩, ⟨0x340, 0x341, 0x300, 1⟩,
   ⟨0x343, 0x343, 0x313, 1⟩, ⟨0x374, 0x374, 0x2B9, 1⟩, ⟨0x387, 0x387, 0xB7, 1⟩,
   ⟨0x3D0, 0x3D0, 0x3B2, 1⟩, ⟨0x3D1, 0x3D1, 0x3B8, 1⟩, ⟨0x3D2, 0x3D2, 0x3A5, 1⟩,
   ⟨0x3D5, 0x3D5, 0x3C6, 1⟩, ⟨0x3D6, 0x3D6, 0x3C0, 1⟩, ⟨0x3F0, 0x3F0, 0x3BA, 1⟩,
   ⟨0x3F1, 0x3F2, 0x3C1, 1⟩, ⟨0x3F4, 0x3F4, 0x398, 1⟩, ⟨0x3F5, 0x3F5, 0x3B5, 1⟩,
   ⟨0x3F9, 0x3F9, 0x3A3, 1⟩, ⟨0x10FC, 0x10FC, 0x10DC, 1⟩, ⟨0x1D2C, 0x1D2C, 0x41, 1⟩,
   ⟨0x1D2D, 0x1D2D, 0xC6, 1⟩, ⟨0x1D2E, 0x1D2E, 0x42, 1⟩, ⟨0x1D30, 0x1D31, 0x44, 1⟩,
   ⟨0x1D32, 0x1D32, 0x18E, 1⟩, ⟨0x1D33, 0x1D3A, 0x47, 1⟩, ⟨0x1D3C, 0x1D3C, 0x4F, 1⟩,
   ⟨0x1D3D, 0x1D3D, 0x222, 1⟩, ⟨0x1D3E, 0x1D3E, 0x50, 1⟩, ⟨0x1D3F, 0x1D3F, 0x52, 1⟩,
   ⟨0x1D40, 0x1D41, 0x54, 1⟩, ⟨0x1D42, 0x1D42, 0x57, 1⟩, ⟨0x1D43, 0x1D43, 0x61, 1⟩,
   ⟨0x1D44, 0x1D45, 0x250, 1⟩, ⟨0x1D46, 0x1D46, 0x1D02, 1⟩, ⟨0x1D47, 0x1D47, 0x62, 1⟩,
   ⟨0x1D48, 0x1D49, 0x64, 1⟩, ⟨0x1D4A, 0x1D4A, 0x259, 1⟩, ⟨0x1D4B, 0x1D4C, 0x25B, 1⟩,
   ⟨0x1D4D, 0x1D4D, 0x67, 1⟩, ⟨0x1D4F, 0x1D4F, 0x6B, 1⟩, ⟨0x1D50, 0x1D50, 0x6D, 1⟩,
   ⟨0x1D51, 0x1D51, 0x14B, 1⟩, ⟨0x1D52, 0x1D52, 0x6F, 1⟩, ⟨0x1D53, 0x1D53, 0x254, 1⟩,
   ⟨0x1D54, 0x1D55, 0x1D16, 1⟩, ⟨0x1D56, 0x1D56, 0x70, 1⟩, ⟨0x1D57, 0x1D58, 0x74, 1⟩,
   ⟨0x1D59, 0x1D59, 0x1D1D, 1⟩, ⟨0x1D5A, 0x1D5A, 0x26F, 1⟩, ⟨0x1D5B, 0x1D5B, 0x76, 1⟩,
   ⟨0x1D5C, 0x1D5C, 0x1D25, 1⟩, ⟨0x1D5D, 0x1D5F, 0x3B2, 1⟩, ⟨0x1D60, 0x1D61, 0x3C6, 1⟩,
   ⟨0x1D62, 0x1D62, 0x69, 1⟩, ⟨0x1D63, 0x1D63, 0x72, 1⟩, ⟨0x1D64, 0x1D65, 0x75, 1⟩,
   ⟨0x1D66, 0x1D67, 0x3B2, 1⟩, ⟨0x1D68, 0x1D68, 0x3C1, 1⟩, ⟨0x1D69, 0x1D6A, 0x3C6, 1⟩,
   ⟨0x1D78, 0x1D78, 0x43D, 1⟩, ⟨0x1D9B, 0x1D9B, 0x252, 1⟩, ⟨0x1D9C, 0x1D9C, 0x63, 1⟩,
   ⟨0x1D9D, 0x1D9D, 0x255, 1⟩, ⟨0x1D9E, 0x1D9E, 0xF0, 1⟩, ⟨0x1D9F, 0x1D9F, 0x25C, 1⟩,
   ⟨0x1DA0, 0x1DA0, 0x66, 1⟩, ⟨0x1DA1, 0x1DA1, 0x25F, 1⟩, ⟨0x1DA2, 0x1DA2, 0x261, 1⟩,
   ⟨0x1DA3, 0x1DA3, 0x265, 1⟩, ⟨0x1DA4, 0x1DA6, 0x268, 1⟩, ⟨0x1DA7, 0x1DA7, 0x1D7B, 1⟩,
   ⟨0x1DA8, 0x1DA8, 0x29D, 1⟩, ⟨0x1DA9, 0x1DA9, 0x26D, 1⟩, ⟨0x1DAA, 0x1DAA, 0x1D85, 1⟩,
   ⟨0x1DAB, 0x1DAB, 0x29F, 1⟩, ⟨0x1DAC, 0x1DAC, 0x271, 1⟩, ⟨0x1DAD, 0x1DAD, 0x270, 1⟩,
   ⟨0x1DAE, 0x1DB1, 0x272, 1⟩, ⟨0x1DB2, 0x1DB2, 0x278, 1⟩, ⟨0x1DB3, 0x1DB4, 0x282, 1⟩,
   ⟨0x1DB5, 0x1DB5, 0x1AB, 1⟩, ⟨0x1DB6, 0x1DB7, 0x289, 1⟩, ⟨0x1DB8, 0x1DB8, 0x1D1C, 1⟩,
   ⟨0x1DB9, 0x1DBA, 0x28B, 1⟩, ⟨0x1DBB, 0x1DBB, 0x7A, 1⟩, ⟨0x1DBC, 0x1DBE, 0x290, 1⟩,
   ⟨0x1DBF, 0x1DBF, 0x3B8, 1⟩, ⟨0x1FBE, 0x1FBE, 0x3B9, 1⟩, ⟨0x2071, 0x2071, 0x69, 1⟩,
   ⟨0x207F, 0x207F, 0x6E, 1⟩, ⟨0x2090, 0x2090, 0x61, 1⟩, ⟨0x2091, 0x2091, 0x65, 1⟩,
   ⟨0x2092, 0x2092, 0x6F, 1⟩, ⟨0x2093, 0x2093, 0x78, 1⟩, ⟨0x2094, 0x2094, 0x259, 1⟩,
   ⟨0x2095, 0x2095, 0x68, 1⟩, ⟨0x2096, 0x2099, 0x6B, 1⟩, ⟨0x209A, 0x209A, 0x70, 1⟩,
   ⟨0x209B, 0x209C, 0x73, 1⟩, ⟨0x2102, 0x2102, 0x43, 1⟩, ⟨0x2107, 0x2107, 0x190, 1⟩,
   ⟨0x210A, 0x210A, 0x67, 1⟩, ⟨0x210B, 0x210D, 0x48, 0⟩, ⟨0x210E, 0x210E, 0x68, 1⟩,
   ⟨0x210F, 0x210F, 0x127, 1⟩, ⟨0x2110, 0x2111, 0x49, 0⟩, ⟨0x2112, 0x2112, 0x4C, 1⟩,
   ⟨0x2113, 0x2113, 0x6C, 1⟩, ⟨0x2115, 0x2115, 0x4E, 1⟩, ⟨0x2119, 0x211B, 0x50, 1⟩,
   ⟨0x211C, 0x211D, 0x52, 0⟩, ⟨0x2124, 0x2124, 0x5A, 1⟩, ⟨0x2126, 0x2126, 0x3A9, 1⟩,
   ⟨0x2128, 0x2128, 0x5A, 1⟩, ⟨0x212A, 0x212A, 0x4B, 1⟩, ⟨0x212C, 0x212D, 0x42, 1⟩,
   ⟨0x212F, 0x212F, 0x65, 1⟩, ⟨0x2130, 0x2131, 0x45, 1⟩, ⟨0x2133, 0x2133, 0x4D, 1⟩,
   ⟨0x2134, 0x2134, 0x6F, 1⟩, ⟨0x2135, 0x2138, 0x5D0, 1⟩, ⟨0x2139, 0x2139, 0x69, 1⟩,
   ⟨0x213C, 0x213C, 0x3C0, 1⟩, ⟨0x213D, 0x213D, 0x3B3, 1⟩, ⟨0x213E, 0x213E, 0x393, 1⟩,
   ⟨0x213F, 0x213F, 0x3A0, 1⟩, ⟨0x2145, 0x2145, 0x44, 1⟩, ⟨0x2146, 0x2147, 0x64, 1⟩,
   ⟨0x2148, 0x2149, 0x69, 1⟩, ⟨0x2160, 0x2160, 0x49, 1⟩, ⟨0x2164, 0x2164, 0x56, 1⟩,
   ⟨0x2169, 0x2169, 0x58, 1⟩, ⟨0x216C, 0x216C, 0x4C, 1⟩, ⟨0x216D, 0x216E, 0x43, 1⟩,
   ⟨0x216F, 0x216F, 0x4D, 1⟩, ⟨0x2170, 0x2170, 0x69, 1⟩, ⟨0x2174, 0x2174, 0x76, 1⟩,
   ⟨0x2179, 0x2179, 0x78, 1⟩, ⟨0x217C, 0x217C, 0x6C, 1⟩, ⟨0x217D, 0x217E, 0x63, 1⟩,
   ⟨0x217F, 0x217F, 0x6D, 1⟩, ⟨0x2C7C, 0x2C7C, 0x6A, 1⟩, ⟨0x2C7D, 0x2C7D, 0x56, 1⟩,
   ⟨0x2D6F, 0x2D6F, 0x2D61, 1⟩, ⟨0x3038, 0x3038, 0x5341, 1⟩, ⟨0x3039, 0x303A, 0x5344, 1⟩,
   ⟨0x3131, 0x3132, 0x1100, 1⟩, ⟨0x3133, 0x3133, 0x11AA, 1⟩, ⟨0x3134, 0x3134, 0x1102, 1⟩,
   ⟨0x3135, 0x3136, 0x11AC, 1⟩, ⟨0x3137, 0x3139, 0x1103, 1⟩, ⟨0x313A, 0x313F, 0x11B0, 1⟩,
   ⟨0x3140, 0x3140, 0x111A, 1⟩, ⟨0x3141, 0x3143, 0x1106, 1⟩, ⟨0x3144, 0x3144, 0x1121, 1⟩,
   ⟨0x3145, 0x314E, 0x1109, 1⟩, ⟨0x314F, 0x3163, 0x1161, 1⟩, ⟨0x3164, 0x3164, 0x1160, 1⟩,
   ⟨0x3165, 0x3166, 0x1114, 1⟩, ⟨0x3167, 0x3168, 0x11C7, 1⟩, ⟨0x3169, 0x3169, 0x11CC, 1⟩,
   ⟨0x316A, 0x316A, 0x11CE, 1⟩, ⟨0x316B, 0x316B, 0x11D3, 1⟩, ⟨0x316C, 0x316C, 0x11D7, 1⟩,
   ⟨0x316D, 0x316D, 0x11D9, 1⟩, ⟨0x316E, 0x316E, 0x111C, 1⟩, ⟨0x316F, 0x316F, 0x11DD, 1⟩,
   ⟨0x3170, 0x3170, 0x11DF, 1⟩, ⟨0x3171, 0x3172, 0x111D, 1⟩, ⟨0x3173, 0x3173, 0x1120, 1⟩,
   ⟨0x3174, 0x3175, 0x1122, 1⟩, ⟨0x3176, 0x3176, 0x1127, 1⟩, ⟨0x3177, 0x3177, 0x1129, 1⟩,
   ⟨0x3178, 0x317C, 0x112B, 1⟩, ⟨0x317D, 0x317D, 0x1132, 1⟩, ⟨0x317E, 0x317E, 0x1136, 1⟩,
   ⟨0x317F, 0x317F, 0x1140, 1⟩, ⟨0x3180, 0x3180, 0x1147, 1⟩, ⟨0x3181, 0x3181, 0x114C, 1⟩,
   ⟨0x3182, 0x3183, 0x11F1, 1⟩, ⟨0x3184, 0x3186, 0x1157, 1⟩, ⟨0x3187, 0x3188, 0x1184, 1⟩,
   ⟨0x3189, 0x3189, 0x1188, 1⟩, ⟨0x318A, 0x318B, 0x1191, 1⟩, ⟨0x318C, 0x318C, 0x1194, 1⟩,
   ⟨0x318D, 0x318D, 0x119E, 1⟩, ⟨0x318E, 0x318E, 0x11A1, 1⟩, ⟨0xA69C, 0xA69C, 0x44A, 1⟩,
   ⟨0xA69D, 0xA69D, 0x44C, 1⟩, ⟨0xA770, 0xA770, 0xA76F, 1⟩, ⟨0xA7F2, 0xA7F2, 0x43, 1⟩,
   ⟨0xA7F3, 0xA7F3, 0x46, 1⟩, ⟨0xA7F4, 0xA7F4, 0x51, 1⟩, ⟨0xA7F8, 0xA7F8, 0x126, 1⟩,
   ⟨0xA7F9, 0xA7F9, 0x153, 1⟩, ⟨0xAB5C, 0xAB5C, 0xA727, 1⟩, ⟨0xAB5D, 0xAB5D, 0xAB37, 1⟩,
   ⟨0xAB5E, 0xAB5E, 0x26B, 1⟩, ⟨0xAB5F, 0xAB5F, 0xAB52, 1⟩, ⟨0xAB69, 0xAB69, 0x28D, 1⟩,
   ⟨0xFB20, 0xFB20, 0x5E2, 1⟩, ⟨0xFB21, 0xFB21, 0x5D0, 1⟩, ⟨0xFB22, 0xFB23, 0x5D3, 1⟩,
   ⟨0xFB24, 0xFB26, 0x5DB, 1⟩, ⟨0xFB27, 0xFB27, 0x5E8, 1⟩, ⟨0xFB28, 0xFB28, 0x5EA, 1⟩,
   ⟨0xFB50, 0xFB51, 0x671, 0⟩, ⟨0xFB52, 0xFB55, 0x67B, 0⟩, ⟨0xFB56, 0xFB59, 0x67E, 0⟩,
   ⟨0xFB5A, 0xFB5D, 0x680, 0⟩, ⟨0xFB5E, 0xFB61, 0x67A, 0⟩, ⟨0xFB62, 0xFB65, 0x67F, 0⟩,
   ⟨0xFB66, 0xFB69, 0x679, 0⟩, ⟨0xFB6A, 0xFB6D, 0x6A4, 0⟩, ⟨0xFB6E, 0xFB71, 0x6A6, 0⟩,
   ⟨0xFB72, 0xFB75, 0x684, 0⟩, ⟨0xFB76, 0xFB79, 0x683, 0⟩, ⟨0xFB7A, 0xFB7D, 0x686, 0⟩,
   ⟨0xFB7E, 0xFB81, 0x687, 0⟩, ⟨0xFB82, 0xFB83, 0x68D, 0⟩, ⟨0xFB84, 0xFB85, 0x68C, 0⟩,
   ⟨0xFB86, 0xFB87, 0x68E, 0⟩, ⟨0xFB88, 0xFB89, 0x688, 0⟩, ⟨0xFB8A, 0xFB8B, 0x698, 0⟩,
   ⟨0xFB8C, 0xFB8D, 0x691, 0⟩, ⟨0xFB8E, 0xFB91, 0x6A9, 0⟩, ⟨0xFB92, 0xFB95, 0x6AF, 0⟩,
   ⟨0xFB96, 0xFB99, 0x6B3, 0⟩, ⟨0xFB9A, 0xFB9D, 0x6B1, 0⟩, ⟨0xFB9E, 0xFB9F, 0x6BA, 0⟩,
   ⟨0xFBA0, 0xFBA3, 0x6BB, 0⟩, ⟨0xFBA6, 0xFBA9, 0x6C1, 0⟩, ⟨0xFBAA, 0xFBAD, 0x6BE, 0⟩,
   ⟨0xFBAE, 0xFBAF, 0x6D2, 0⟩, ⟨0xFBD3, 0xFBD6, 0x6AD, 0⟩, ⟨0xFBD7, 0xFBD8, 0x6C7, 0⟩,
   ⟨0xFBD9, 0xFBDA, 0x6C6, 0⟩, ⟨0xFBDB, 0xFBDC, 0x6C8, 0⟩, ⟨0xFBDE, 0xFBDF, 0x6CB, 0⟩,
   ⟨0xFBE0, 0xFBE1, 0x6C5, 0⟩, ⟨0xFBE2, 0xFBE3, 0x6C9, 0⟩, ⟨0xFBE4, 0xFBE7, 0x6D0, 0⟩,
   ⟨0xFBE8, 0xFBE9, 0x649, 0⟩, ⟨0xFBFC, 0xFBFF, 0x6CC, 0⟩, ⟨0xFE33, 0xFE34, 0x5F, 0⟩,
   ⟨0xFE4D, 0xFE4F, 0x5F, 0⟩, ⟨0xFE80, 0xFE80, 0x621, 1⟩, ⟨0xFE8D, 0xFE8E, 0x627, 0⟩,
   ⟨0xFE8F, 0xFE92, 0x628, 0⟩, ⟨0xFE93, 0xFE94, 0x629, 0⟩, ⟨0xFE95, 0xFE98, 0x62A, 0⟩,
   ⟨0xFE99, 0xFE9C, 0x62B, 0⟩, ⟨0xFE9D, 0xFEA0, 0x62C, 0⟩, ⟨0xFEA1, 0xFEA4, 0x62D, 0⟩,
   ⟨0xFEA5, 0xFEA8, 0x62E, 0⟩, ⟨0xFEA9, 0xFEAA, 0x62F, 0⟩, ⟨0xFEAB, 0xFEAC, 0x630, 0⟩,
   ⟨0xFEAD, 0xFEAE, 0x631, 0⟩, ⟨0xFEAF, 0xFEB0, 0x632, 0⟩, ⟨0xFEB1, 0xFEB4, 0x633, 0⟩,
   ⟨0xFEB5, 0xFEB8, 0x634, 0⟩, ⟨0xFEB9, 0xFEBC, 0x635, 0⟩, ⟨0xFEBD, 0xFEC0, 0x636, 0⟩,
   ⟨0xFEC1, 0xFEC4, 0x637, 0⟩, ⟨0xFEC5, 0xFEC8, 0x638, 0⟩, ⟨0xFEC9, 0xFECC, 0x639, 0⟩,
   ⟨0xFECD, 0xFED0, 0x63A, 0⟩, ⟨0xFED1, 0xFED4, 0x641, 0⟩, ⟨0xFED5, 0xFED8, 0x642, 0⟩,
   ⟨0xFED9, 0xFEDC, 0x643, 0⟩, ⟨0xFEDD, 0xFEE0, 0x644, 0⟩, ⟨0xFEE1, 0xFEE4, 0x645, 0⟩,
   ⟨0xFEE5, 0xFEE8, 0x646, 0⟩, ⟨0xFEE9, 0xFEEC, 0x647, 0⟩, ⟨0xFEED, 0xFEEE, 0x648, 0⟩,
   ⟨0xFEEF, 0xFEF0, 0x649, 0⟩, ⟨0xFEF1, 0xFEF4, 0x64A, 0⟩, ⟨0xFF10, 0xFF19, 0x30, 1⟩,
   ⟨0xFF21, 0xFF3A, 0x41, 1⟩, ⟨0xFF3F, 0xFF3F, 0x5F, 1⟩, ⟨0xFF41, 0xFF5A, 0x61, 1⟩,
   ⟨0xFF66, 0xFF66, 0x30F2, 1⟩, ⟨0xFF67, 0xFF67, 0x30A1, 1⟩, ⟨0xFF68, 0xFF68, 0x30A3, 1⟩,
   ⟨0xFF69, 0xFF69, 0x30A5, 1⟩, ⟨0xFF6A, 0xFF6A, 0x30A7, 1⟩, ⟨0xFF6B, 0xFF6B, 0x30A9, 1⟩,
   ⟨0xFF6C, 0xFF6C, 0x30E3, 1⟩, ⟨0xFF6D, 0xFF6D, 0x30E5, 1⟩, ⟨0xFF6E, 0xFF6E, 0x30E7, 1⟩,
   ⟨0xFF6F, 0xFF6F, 0x30C3, 1⟩, ⟨0xFF70, 0xFF70, 0x30FC, 1⟩, ⟨0xFF71, 0xFF71, 0x30A2, 1⟩,
   ⟨0xFF72, 0xFF72, 0x30A4, 1⟩, ⟨0xFF73, 0xFF73, 0x30A6, 1⟩, ⟨0xFF74, 0xFF74, 0x30A8, 1⟩,
   ⟨0xFF75, 0xFF76, 0x30AA, 1⟩, ⟨0xFF77, 0xFF77, 0x30AD, 1⟩, ⟨0xFF78, 0xFF78, 0x30AF, 1⟩,
   ⟨0xFF79, 0xFF79, 0x30B1, 1⟩, ⟨0xFF7A, 0xFF7A, 0x30B3, 1⟩, ⟨0xFF7B, 0xFF7B, 0x30B5, 1⟩,
   ⟨0xFF7C, 0xFF7C, 0x30B7, 1⟩, ⟨0xFF7D, 0xFF7D, 0x30B9, 1⟩, ⟨0xFF7E, 0xFF7E, 0x30BB, 1⟩,
   ⟨0xFF7F, 0xFF7F, 0x30BD, 1⟩, ⟨0xFF80, 0xFF80, 0x30BF, 1⟩, ⟨0xFF81, 0xFF81, 0x30C1, 1⟩,
   ⟨0xFF82, 0xFF82, 0x30C4, 1⟩, ⟨0xFF83, 0xFF83, 0x30C6, 1⟩, ⟨0xFF84, 0xFF84, 0x30C8, 1⟩,
   ⟨0xFF85, 0xFF8A, 0x30CA, 1⟩, ⟨0xFF8B, 0xFF8B, 0x30D2, 1⟩, ⟨0xFF8C, 0xFF8C, 0x30D5, 1⟩,
   ⟨0xFF8D, 0xFF8D, 0x30D8, 1⟩, ⟨0xFF8E, 0xFF8E, 0x30DB, 1⟩, ⟨0xFF8F, 0xFF93, 0x30DE, 1⟩,
   ⟨0xFF94, 0xFF94, 0x30E4, 1⟩, ⟨0xFF95, 0xFF95, 0x30E6, 1⟩, ⟨0xFF96, 0xFF9B, 0x30E8, 1⟩,
   ⟨0xFF9C, 0xFF9C, 0x30EF, 1⟩, ⟨0xFF9D, 0xFF9D, 0x30F3, 1⟩, ⟨0xFF9E, 0xFF9F, 0x3099, 1⟩,
   ⟨0xFFA0, 0xFFA0, 0x1160, 1⟩, ⟨0xFFA1, 0xFFA2, 0x1100, 1⟩, ⟨0xFFA3, 0xFFA3, 0x11AA, 1⟩,
   ⟨0xFFA4, 0xFFA4, 0x1102, 1⟩, ⟨0xFFA5, 0xFFA6, 0x11AC, 1⟩, ⟨0xFFA7, 0xFFA9, 0x1103, 1⟩,
   ⟨0xFFAA, 0xFFAF, 0x11B0, 1⟩, ⟨0xFFB0, 0xFFB0, 0x111A, 1⟩, ⟨0xFFB1, 0xFFB3, 0x1106, 1⟩,
   ⟨0xFFB4, 0xFFB4, 0x1121, 1⟩, ⟨0xFFB5, 0xFFBE, 0x1109, 1⟩, ⟨0xFFC2, 0xFFC7, 0x1161, 1⟩,
   ⟨0xFFCA, 0xFFCF, 0x1167, 1⟩, ⟨0xFFD2, 0xFFD7, 0x116D, 1⟩, ⟨0xFFDA, 0xFFDC, 0x1173, 1⟩,
   ⟨0x10781, 0x10782, 0x2D0, 1⟩, ⟨0x10783, 0x10783, 0xE6, 1⟩, ⟨0x10784, 0x10784, 0x299, 1⟩,
   ⟨0x10785, 0x10785, 0x253, 1⟩, ⟨0x10787, 0x10787, 0x2A3, 1⟩, ⟨0x10788, 0x10788, 0xAB66, 1⟩,
   ⟨0x10789, 0x10789, 0x2A5, 1⟩, ⟨0x1078A, 0x1078A, 0x2A4, 1⟩, ⟨0x1078B, 0x1078C, 0x256, 1⟩,
   ⟨0x1078D, 0x1078D, 0x1D91, 1⟩, ⟨0x1078E, 0x1078E, 0x258, 1⟩, ⟨0x1078F, 0x1078F, 0x25E, 1⟩,
   ⟨0x10790, 0x10790, 0x2A9, 1⟩, ⟨0x10791, 0x10791, 0x264, 1⟩, ⟨0x10792, 0x10792, 0x262, 1⟩,
   ⟨0x10793, 0x10793, 0x260, 1⟩, ⟨0x10794, 0x10794, 0x29B, 1⟩, ⟨0x10795, 0x10795, 0x127, 1⟩,
   ⟨0x10796, 0x10796, 0x29C, 1⟩, ⟨0x10797, 0x10797, 0x267, 1⟩, ⟨0x10798, 0x10798, 0x284, 1⟩,
   ⟨0x10799, 0x1079A, 0x2AA, 1⟩, ⟨0x1079B, 0x1079B, 0x26C, 1⟩, ⟨0x1079C, 0x1079C, 0x1DF04, 1⟩,
   ⟨0x1079D, 0x1079D, 0xA78E, 1⟩, ⟨0x1079E, 0x1079E, 0x26E, 1⟩, ⟨0x1079F, 0x1079F, 0x1DF05, 1⟩,
   ⟨0x107A0, 0x107A0, 0x28E, 1⟩, ⟨0x107A1, 0x107A1, 0x1DF06, 1⟩, ⟨0x107A2, 0x107A2, 0xF8, 1⟩,
   ⟨0x107A3, 0x107A4, 0x276, 1⟩, ⟨0x107A5, 0x107A5, 0x71, 1⟩, ⟨0x107A6, 0x107A6, 0x27A, 1⟩,
   ⟨0x107A7, 0x107A7, 0x1DF08, 1⟩, ⟨0x107A8, 0x107A9, 0x27D, 1⟩, ⟨0x107AA, 0x107AA, 0x280, 1⟩,
   ⟨0x107AB, 0x107AB, 0x2A8, 1⟩, ⟨0x107AC, 0x107AC, 0x2A6, 1⟩, ⟨0x107AD, 0x107AD, 0xAB67, 1⟩,
   ⟨0x107AE, 0x107AE, 0x2A7, 1⟩, ⟨0x107AF, 0x107AF, 0x288, 1⟩, ⟨0x107B0, 0x107B0, 0x2C71, 1⟩,
   ⟨0x107B2, 0x107B2, 0x28F, 1⟩, ⟨0x107B3, 0x107B4, 0x2A1, 1⟩, ⟨0x107B5, 0x107B5, 0x298, 1⟩,
   ⟨0x107B6, 0x107B8, 0x1C0, 1⟩, ⟨0x107B9, 0x107B9, 0x1DF0A, 1⟩, ⟨0x107BA, 0x107BA, 0x1DF1E, 1⟩,
   ⟨0x1D400, 0x1D419, 0x41, 1⟩, ⟨0x1D41A, 0x1D433, 0x61, 1⟩, ⟨0x1D434, 0x1D44D, 0x41, 1⟩,
   ⟨0x1D44E, 0x1D454, 0x61, 1⟩, ⟨0x1D456, 0x1D467, 0x69, 1⟩, ⟨0x1D468, 0x1D481, 0x41, 1⟩,
   ⟨0x1D482, 0x1D49B, 0x61, 1⟩, ⟨0x1D49C, 0x1D49C, 0x41, 1⟩, ⟨0x1D49E, 0x1D49F, 0x43, 1⟩,
   ⟨0x1D4A2, 0x1D4A2, 0x47, 1⟩, ⟨0x1D4A5, 0x1D4A6, 0x4A, 1⟩, ⟨0x1D4A9, 0x1D4AC, 0x4E, 1⟩,
   ⟨0x1D4AE, 0x1D4B5, 0x53, 1⟩, ⟨0x1D4B6, 0x1D4B9, 0x61, 1⟩, ⟨0x1D4BB, 0x1D4BB, 0x66, 1⟩,
   ⟨0x1D4BD, 0x1D4C3, 0x68, 1⟩, ⟨0x1D4C5, 0x1D4CF, 0x70, 1⟩, ⟨0x1D4D0, 0x1D4E9, 0x41, 1⟩,
   ⟨0x1D4EA, 0x1D503, 0x61, 1⟩, ⟨0x1D504, 0x1D505, 0x41, 1⟩, ⟨0x1D507, 0x1D50A, 0x44, 1⟩,
   ⟨0x1D50D, 0x1D514, 0x4A, 1⟩, ⟨0x1D516, 0x1D51C, 0x53, 1⟩, ⟨0x1D51E, 0x1D537, 0x61, 1⟩,
   ⟨0x1D538, 0x1D539, 0x41, 1⟩, ⟨0x1D53B, 0x1D53E, 0x44, 1⟩, ⟨0x1D540, 0x1D544, 0x49, 1⟩,
   ⟨0x1D546, 0x1D546, 0x4F, 1⟩, ⟨0x1D54A, 0x1D550, 0x53, 1⟩, ⟨0x1D552, 0x1D56B, 0x61, 1⟩,
   ⟨0x1D56C, 0x1D585, 0x41, 1⟩, ⟨0x1D586, 0x1D59F, 0x61, 1⟩, ⟨0x1D5A0, 0x1D5B9, 0x41, 1⟩,
   ⟨0x1D5BA, 0x1D5D3, 0x61, 1⟩, ⟨0x1D5D4, 0x1D5ED, 0x41, 1⟩, ⟨0x1D5EE, 0x1D607, 0x61, 1⟩,
   ⟨0x1D608, 0x1D621, 0x41, 1⟩, ⟨0x1D622, 0x1D63B, 0x61, 1⟩, ⟨0x1D63C, 0x1D655, 0x41, 1⟩,
   ⟨0x1D656, 0x1D66F, 0x61, 1⟩, ⟨0x1D670, 0x1D689, 0x41, 1⟩, ⟨0x1D68A, 0x1D6A3, 0x61, 1⟩,
   ⟨0x1D6A4, 0x1D6A4, 0x131, 1⟩, ⟨0x1D6A5, 0x1D6A5, 0x237, 1⟩, ⟨0x1D6A8, 0x1D6B8, 0x391, 1⟩,
   ⟨0x1D6B9, 0x1D6B9, 0x398, 1⟩, ⟨0x1D6BA, 0x1D6C0, 0x3A3, 1⟩, ⟨0x1D6C2, 0x1D6DA, 0x3B1, 1⟩,
   ⟨0x1D6DC, 0x1D6DC, 0x3B5, 1⟩, ⟨0x1D6DD, 0x1D6DD, 0x3B8, 1⟩, ⟨0x1D6DE, 0x1D6DE, 0x3BA, 1⟩,
   ⟨0x1D6DF, 0x1D6DF, 0x3C6, 1⟩, ⟨0x1D6E0, 0x1D6E0, 0x3C1, 1⟩, ⟨0x1D6E1, 0x1D6E1, 0x3C0, 1⟩,
   ⟨0x1D6E2, 0x1D6F2, 0x391, 1⟩, ⟨0x1D6F3, 0x1D6F3, 0x398, 1⟩, ⟨0x1D6F4, 0x1D6FA, 0x3A3, 1⟩,
   ⟨0x1D6FC, 0x1D714, 0x3B1, 1⟩, ⟨0x1D716, 0x1D716, 0x3B5, 1⟩, ⟨0x1D717, 0x1D717, 0x3B8, 1⟩,
   ⟨0x1D718, 0x1D718, 0x3BA, 1⟩, ⟨0x1D719, 0x1D719, 0x3C6, 1⟩, ⟨0x1D71A, 0x1D71A, 0x3C1, 1⟩,
   ⟨0x1D71B, 0x1D71B, 0x3C0, 1⟩, ⟨0x1D71C, 0x1D72C, 0x391, 1⟩, ⟨0x1D72D, 0x1D72D, 0x398, 1⟩,
   ⟨0x1D72E, 0x1D734, 0x3A3, 1⟩, ⟨0x1D736, 0x1D74E, 0x3B1, 1⟩, ⟨0x1D750, 0x1D750, 0x3B5, 1⟩,
   ⟨0x1D751, 0x1D751, 0x3B8, 1⟩, ⟨0x1D752, 0x1D752, 0x3BA, 1⟩, ⟨0x1D753, 0x1D753, 0x3C6, 1⟩,
   ⟨0x1D754, 0x1D754, 0x3C1, 1⟩, ⟨0x1D755, 0x1D755, 0x3C0, 1⟩, ⟨0x1D756, 0x1D766, 0x391, 1⟩,
   ⟨0x1D767, 0x1D767, 0x398, 1⟩, ⟨0x1D768, 0x1D76E, 0x3A3, 1⟩, ⟨0x1D770, 0x1D788, 0x3B1, 1⟩,
   ⟨0x1D78A, 0x1D78A, 0x3B5, 1⟩, ⟨0x1D78B, 0x1D78B, 0x3B8, 1⟩, ⟨0x1D78C, 0x1D78C, 0x3BA, 1⟩,
   ⟨0x1D78D, 0x1D78D, 0x3C6, 1⟩, ⟨0x1D78E, 0x1D78E, 0x3C1, 1⟩, ⟨0x1D78F, 0x1D78F, 0x3C0, 1⟩,
   ⟨0x1D790, 0x1D7A0, 0x391, 1⟩, ⟨0x1D7A1, 0x1D7A1, 0x398, 1⟩, ⟨0x1D7A2, 0x1D7A8, 0x3A3, 1⟩,
   ⟨0x1D7AA, 0x1D7C2, 0x3B1, 1⟩, ⟨0x1D7C4, 0x1D7C4, 0x3B5, 1⟩, ⟨0x1D7C5, 0x1D7C5, 0x3B8, 1⟩,
   ⟨0x1D7C6, 0x1D7C6, 0x3BA, 1⟩, ⟨0x1D7C7, 0x1D7C7, 0x3C6, 1⟩, ⟨0x1D7C8, 0x1D7C8, 0x3C1, 1⟩,
   ⟨0x1D7C9, 0x1D7C9, 0x3C0, 1⟩, ⟨0x1D7CA, 0x1D7CB, 0x3DC, 1⟩, ⟨0x1D7CE, 0x1D7D7, 0x30, 1⟩,
   ⟨0x1D7D8, 0x1D7E1, 0x30, 1⟩, ⟨0x1D7E2, 0x1D7EB, 0x30, 1⟩, ⟨0x1D7EC, 0x1D7F5, 0x30, 1⟩,
   ⟨0x1D7F6, 0x1D7FF, 0x30, 1⟩, ⟨0x1EE00, 0x1EE01, 0x627, 1⟩, ⟨0x1EE02, 0x1EE02, 0x62C, 1⟩,
   ⟨0x1EE03, 0x1EE03, 0x62F, 1⟩, ⟨0x1EE05, 0x1EE05, 0x648, 1⟩, ⟨0x1EE06, 0x1EE06, 0x632, 1⟩,
   ⟨0x1EE07, 0x1EE07, 0x62D, 1⟩, ⟨0x1EE08, 0x1EE08, 0x637, 1⟩, ⟨0x1EE09, 0x1EE09, 0x64A, 1⟩,
   ⟨0x1EE0A, 0x1EE0D, 0x643, 1⟩, ⟨0x1EE0E, 0x1EE0E, 0x633, 1⟩, ⟨0x1EE0F, 0x1EE0F, 0x639, 1⟩,
   ⟨0x1EE10, 0x1EE10, 0x641, 1⟩, ⟨0x1EE11, 0x1EE11, 0x635, 1⟩, ⟨0x1EE12, 0x1EE12, 0x642, 1⟩,
   ⟨0x1EE13, 0x1EE13, 0x631, 1⟩, ⟨0x1EE14, 0x1EE14, 0x634, 1⟩, ⟨0x1EE15, 0x1EE16, 0x62A, 1⟩,
   ⟨0x1EE17, 0x1EE17, 0x62E, 1⟩, ⟨0x1EE18, 0x1EE18, 0x630, 1⟩, ⟨0x1EE19, 0x1EE19, 0x636, 1⟩,
   ⟨0x1EE1A, 0x1EE1A, 0x638, 1⟩, ⟨0x1EE1B, 0x1EE1B, 0x63A, 1⟩, ⟨0x1EE1C, 0x1EE1C, 0x66E, 1⟩,
   ⟨0x1EE1D, 0x1EE1D, 0x6BA, 1⟩, ⟨0x1EE1E, 0x1EE1E, 0x6A1, 1⟩, ⟨0x1EE1F, 0x1EE1F, 0x66F, 1⟩,
   ⟨0x1EE21, 0x1EE21, 0x628, 1⟩, ⟨0x1EE22, 0x1EE22, 0x62C, 1⟩, ⟨0x1EE24, 0x1EE24, 0x647, 1⟩,
   ⟨0x1EE27, 0x1EE27, 0x62D, 1⟩, ⟨0x1EE29, 0x1EE29, 0x64A, 1⟩, ⟨0x1EE2A, 0x1EE2D, 0x643, 1⟩,
   ⟨0x1EE2E, 0x1EE2E, 0x633, 1⟩, ⟨0x1EE2F, 0x1EE2F, 0x639, 1⟩, ⟨0x1EE30, 0x1EE30, 0x641, 1⟩,
   ⟨0x1EE31, 0x1EE31, 0x635, 1⟩, ⟨0x1EE32, 0x1EE32, 0x642, 1⟩, ⟨0x1EE34, 0x1EE34, 0x634, 1⟩,
   ⟨0x1EE35, 0x1EE36, 0x62A, 1⟩, ⟨0x1EE37, 0x1EE37, 0x62E, 1⟩, ⟨0x1EE39, 0x1EE39, 0x636, 1⟩,
   ⟨0x1EE3B, 0x1EE3B, 0x63A, 1⟩, ⟨0x1EE42, 0x1EE42, 0x62C, 1⟩, ⟨0x1EE47, 0x1EE47, 0x62D, 1⟩,
   ⟨0x1EE49, 0x1EE49, 0x64A, 1⟩, ⟨0x1EE4B, 0x1EE4B, 0x644, 1⟩, ⟨0x1EE4D, 0x1EE4D, 0x646, 1⟩,
   ⟨0x1EE4E, 0x1EE4E, 0x633, 1⟩, ⟨0x1EE4F, 0x1EE4F, 0x639, 1⟩, ⟨0x1EE51, 0x1EE51, 0x635, 1⟩,
   ⟨0x1EE52, 0x1EE52, 0x642, 1⟩, ⟨0x1EE54, 0x1EE54, 0x634, 1⟩, ⟨0x1EE57, 0x1EE57, 0x62E, 1⟩,
   ⟨0x1EE59, 0x1EE59, 0x636, 1⟩, ⟨0x1EE5B, 0x1EE5B, 0x63A, 1⟩, ⟨0x1EE5D, 0x1EE5D, 0x6BA, 1⟩,
   ⟨0x1EE5F, 0x1EE5F, 0x66F, 1⟩, ⟨0x1EE61, 0x1EE61, 0x628, 1⟩, ⟨0x1EE62, 0x1EE62, 0x62C, 1⟩,
   ⟨0x1EE64, 0x1EE64, 0x647, 1⟩, ⟨0x1EE67, 0x1EE67, 0x62D, 1⟩, ⟨0x1EE68, 0x1EE68, 0x637, 1⟩,
   ⟨0x1EE69, 0x1EE69, 0x64A, 1⟩, ⟨0x1EE6A, 0x1EE6A, 0x643, 1⟩, ⟨0x1EE6C, 0x1EE6D, 0x645, 1⟩,
   ⟨0x1EE6E, 0x1EE6E, 0x633, 1⟩, ⟨0x1EE6F, 0x1EE6F, 0x639, 1⟩, ⟨0x1EE70, 0x1EE70, 0x641, 1⟩,
   ⟨0x1EE71, 0x1EE71, 0x635, 1⟩, ⟨0x1EE72, 0x1EE72, 0x642, 1⟩, ⟨0x1EE74, 0x1EE74, 0x634, 1⟩,
   ⟨0x1EE75, 0x1EE76, 0x62A, 1⟩, ⟨0x1EE77, 0x1EE77, 0x62E, 1⟩, ⟨0x1EE79, 0x1EE79, 0x636, 1⟩,
   ⟨0x1EE7A, 0x1EE7A, 0x638, 1⟩, ⟨0x1EE7B, 0x1EE7B, 0x63A, 1⟩, ⟨0x1EE7C, 0x1EE7C, 0x66E, 1⟩,
   ⟨0x1EE7E, 0x1EE7E, 0x6A1, 1⟩, ⟨0x1EE80, 0x1EE81, 0x627, 1⟩, ⟨0x1EE82, 0x1EE82, 0x62C, 1⟩,
   ⟨0x1EE83, 0x1EE83, 0x62F, 1⟩, ⟨0x1EE84, 0x1EE85, 0x647, 1⟩, ⟨0x1EE86, 0x1EE86, 0x632, 1⟩,
   ⟨0x1EE87, 0x1EE87, 0x62D, 1⟩, ⟨0x1EE88, 0x1EE88, 0x637, 1⟩, ⟨0x1EE89, 0x1EE89, 0x64A, 1⟩,
   ⟨0x1EE8B, 0x1EE8D, 0x644, 1⟩, ⟨0x1EE8E, 0x1EE8E, 0x633, 1⟩, ⟨0x1EE8F, 0x1EE8F, 0x639, 1⟩,
   ⟨0x1EE90, 0x1EE90, 0x641, 1⟩, ⟨0x1EE91, 0x1EE91, 0x635, 1⟩, ⟨0x1EE92, 0x1EE92, 0x642, 1⟩,
   ⟨0x1EE93, 0x1EE93, 0x631, 1⟩, ⟨0x1EE94, 0x1EE94, 0x634, 1⟩, ⟨0x1EE95, 0x1EE96, 0x62A, 1⟩,
   ⟨0x1EE97, 0x1EE97, 0x62E, 1⟩, ⟨0x1EE98, 0x1EE98, 0x630, 1⟩, ⟨0x1EE99, 0x1EE99, 0x636, 1⟩,
   ⟨0x1EE9A, 0x1EE9A, 0x638, 1⟩, ⟨0x1EE9B, 0x1EE9B, 0x63A, 1⟩, ⟨0x1EEA1, 0x1EEA1, 0x628, 1⟩,
   ⟨0x1EEA2, 0x1EEA2, 0x62C, 1⟩, ⟨0x1EEA3, 0x1EEA3, 0x62F, 1⟩, ⟨0x1EEA5, 0x1EEA5, 0x648, 1⟩,
   ⟨0x1EEA6, 0x1EEA6, 0x632, 1⟩, ⟨0x1EEA7, 0x1EEA7, 0x62D, 1⟩, ⟨0x1EEA8, 0x1EEA8, 0x637, 1⟩,
   ⟨0x1EEA9, 0x1EEA9, 0x64A, 1⟩, ⟨0x1EEAB, 0x1EEAD, 0x644, 1⟩, ⟨0x1EEAE, 0x1EEAE, 0x633, 1⟩,
   ⟨0x1EEAF, 0x1EEAF, 0x639, 1⟩, ⟨0x1EEB0, 0x1EEB0, 0x641, 1⟩, ⟨0x1EEB1, 0x1EEB1, 0x635, 1⟩,
   ⟨0x1EEB2, 0x1EEB2, 0x642, 1⟩, ⟨0x1EEB3, 0x1EEB3, 0x631, 1⟩, ⟨0x1EEB4, 0x1EEB4, 0x634, 1⟩,
   ⟨0x1EEB5, 0x1EEB6, 0x62A, 1⟩, ⟨0x1EEB7, 0x1EEB7, 0x62E, 1⟩, ⟨0x1EEB8, 0x1EEB8, 0x630, 1⟩,
   ⟨0x1EEB9, 0x1EEB9, 0x636, 1⟩, ⟨0x1EEBA, 0x1EEBA, 0x638, 1⟩, ⟨0x1EEBB, 0x1EEBB, 0x63A, 1⟩,
   ⟨0x1FBF0, 0x1FBF9, 0x30, 1⟩]

/-- Runs of ideographs that are encoded twice, with what each stands for. -/
def doubledIdeographs : List (Nat × List Nat) :=
  [(0xF900, [0x8C48, 0x66F4, 0x8ECA, 0x8CC8, 0x6ED1, 0x4E32, 0x53E5, 0x9F9C, 0x9F9C, 0x5951,
     0x91D1, 0x5587, 0x5948, 0x61F6, 0x7669, 0x7F85, 0x863F, 0x87BA, 0x88F8, 0x908F, 0x6A02,
     0x6D1B, 0x70D9, 0x73DE, 0x843D, 0x916A, 0x99F1, 0x4E82, 0x5375, 0x6B04, 0x721B, 0x862D,
     0x9E1E, 0x5D50, 0x6FEB, 0x85CD, 0x8964, 0x62C9, 0x81D8, 0x881F, 0x5ECA, 0x6717, 0x6D6A,
     0x72FC, 0x90CE, 0x4F86, 0x51B7, 0x52DE, 0x64C4, 0x6AD3, 0x7210, 0x76E7, 0x8001, 0x8606,
     0x865C, 0x8DEF, 0x9732, 0x9B6F, 0x9DFA, 0x788C, 0x797F, 0x7DA0, 0x83C9, 0x9304, 0x9E7F,
     0x8AD6, 0x58DF, 0x5F04, 0x7C60, 0x807E, 0x7262, 0x78CA, 0x8CC2, 0x96F7, 0x58D8, 0x5C62,
     0x6A13, 0x6DDA, 0x6F0F, 0x7D2F, 0x7E37, 0x964B, 0x52D2, 0x808B, 0x51DC, 0x51CC, 0x7A1C,
     0x7DBE, 0x83F1, 0x9675, 0x8B80, 0x62CF, 0x6A02, 0x8AFE, 0x4E39, 0x5BE7, 0x6012, 0x7387,
     0x7570, 0x5317, 0x78FB, 0x4FBF, 0x5FA9, 0x4E0D, 0x6CCC, 0x6578, 0x7D22, 0x53C3, 0x585E,
     0x7701, 0x8449, 0x8AAA, 0x6BBA, 0x8FB0, 0x6C88, 0x62FE, 0x82E5, 0x63A0, 0x7565, 0x4EAE,
     0x5169, 0x51C9, 0x6881, 0x7CE7, 0x826F, 0x8AD2, 0x91CF, 0x52F5, 0x5442, 0x5973, 0x5EEC,
     0x65C5, 0x6FFE, 0x792A, 0x95AD, 0x9A6A, 0x9E97, 0x9ECE, 0x529B, 0x66C6, 0x6B77, 0x8F62,
     0x5E74, 0x6190, 0x6200, 0x649A, 0x6F23, 0x7149, 0x7489, 0x79CA, 0x7DF4, 0x806F, 0x8F26,
     0x84EE, 0x9023, 0x934A, 0x5217, 0x52A3, 0x54BD, 0x70C8, 0x88C2, 0x8AAA, 0x5EC9, 0x5FF5,
     0x637B, 0x6BAE, 0x7C3E, 0x7375, 0x4EE4, 0x56F9, 0x5BE7, 0x5DBA, 0x601C, 0x73B2, 0x7469,
     0x7F9A, 0x8046, 0x9234, 0x96F6, 0x9748, 0x9818, 0x4F8B, 0x79AE, 0x91B4, 0x96B8, 0x60E1,
     0x4E86, 0x50DA, 0x5BEE, 0x5C3F, 0x6599, 0x6A02, 0x71CE, 0x7642, 0x84FC, 0x907C, 0x9F8D,
     0x6688, 0x962E, 0x5289, 0x677B, 0x67F3, 0x6D41, 0x6E9C, 0x7409, 0x7559, 0x786B, 0x7D10,
     0x985E, 0x516D, 0x622E, 0x9678, 0x502B, 0x5D19, 0x6DEA, 0x8F2A, 0x5F8B, 0x6144, 0x6817,
     0x7387, 0x9686, 0x5229, 0x540F, 0x5C65, 0x6613, 0x674E, 0x68A8, 0x6CE5, 0x7406, 0x75E2,
     0x7F79, 0x88CF, 0x88E1, 0x91CC, 0x96E2, 0x533F, 0x6EBA, 0x541D, 0x71D0, 0x7498, 0x85FA,
     0x96A3, 0x9C57, 0x9E9F, 0x6797, 0x6DCB, 0x81E8, 0x7ACB, 0x7B20, 0x7C92, 0x72C0, 0x7099,
     0x8B58, 0x4EC0, 0x8336, 0x523A, 0x5207, 0x5EA6, 0x62D3, 0x7CD6, 0x5B85, 0x6D1E, 0x66B4,
     0x8F3B, 0x884C, 0x964D, 0x898B, 0x5ED3, 0x5140, 0x55C0, 0xFA0E, 0xFA0F, 0x585A, 0xFA11,
     0x6674, 0xFA13, 0xFA14, 0x51DE, 0x732A, 0x76CA, 0x793C, 0x795E, 0x7965, 0x798F, 0x9756,
     0x7CBE, 0x7FBD, 0xFA1F, 0x8612, 0xFA21, 0x8AF8, 0xFA23, 0xFA24, 0x9038, 0x90FD, 0xFA27,
     0xFA28, 0xFA29, 0x98EF, 0x98FC, 0x9928, 0x9DB4, 0x90DE, 0x96B7, 0x4FAE, 0x50E7, 0x514D,
     0x52C9, 0x52E4, 0x5351, 0x559D, 0x5606, 0x5668, 0x5840, 0x58A8, 0x5C64, 0x5C6E, 0x6094,
     0x6168, 0x618E, 0x61F2, 0x654F, 0x65E2, 0x6691, 0x6885, 0x6D77, 0x6E1A, 0x6F22, 0x716E,
     0x722B, 0x7422, 0x7891, 0x793E, 0x7949, 0x7948, 0x7950, 0x7956, 0x795D, 0x798D, 0x798E,
     0x7A40, 0x7A81, 0x7BC0, 0x7DF4, 0x7E09, 0x7E41, 0x7F72, 0x8005, 0x81ED, 0x8279, 0x8279,
     0x8457, 0x8910, 0x8996, 0x8B01, 0x8B39, 0x8CD3, 0x8D08, 0x8FB6, 0x9038, 0x96E3, 0x97FF,
     0x983B, 0x6075, 0x242EE, 0x8218, 0xFA6E, 0xFA6F, 0x4E26, 0x51B5, 0x5168, 0x4F80, 0x5145,
     0x5180, 0x52C7, 0x52FA, 0x559D, 0x5555, 0x5599, 0x55E2, 0x585A, 0x58B3, 0x5944, 0x5954,
     0x5A62, 0x5B28, 0x5ED2, 0x5ED9, 0x5F69, 0x5FAD, 0x60D8, 0x614E, 0x6108, 0x618E, 0x6160,
     0x61F2, 0x6234, 0x63C4, 0x641C, 0x6452, 0x6556, 0x6674, 0x6717, 0x671B, 0x6756, 0x6B79,
     0x6BBA, 0x6D41, 0x6EDB, 0x6ECB, 0x6F22, 0x701E, 0x716E, 0x77A7, 0x7235, 0x72AF, 0x732A,
     0x7471, 0x7506, 0x753B, 0x761D, 0x761F, 0x76CA, 0x76DB, 0x76F4, 0x774A, 0x7740, 0x78CC,
     0x7AB1, 0x7BC0, 0x7C7B, 0x7D5B, 0x7DF4, 0x7F3E, 0x8005, 0x8352, 0x83EF, 0x8779, 0x8941,
     0x8986, 0x8996, 0x8ABF, 0x8AF8, 0x8ACB, 0x8B01, 0x8AFE, 0x8AED, 0x8B39, 0x8B8A, 0x8D08,
     0x8F38, 0x9072, 0x9199, 0x9276, 0x967C, 0x96E3, 0x9756, 0x97DB, 0x97FF, 0x980B, 0x983B,
     0x9B12, 0x9F9C, 0x2284A, 0x22844, 0x233D5, 0x3B9D, 0x4018, 0x4039, 0x25249, 0x25CD0, 0x27ED3,
     0x9F43, 0x9F8E]),
   (0x2F800, [0x4E3D, 0x4E38, 0x4E41, 0x20122, 0x4F60, 0x4FAE, 0x4FBB, 0x5002, 0x507A, 0x5099,
     0x50E7, 0x50CF, 0x349E, 0x2063A, 0x514D, 0x5154, 0x5164, 0x5177, 0x2051C, 0x34B9, 0x5167,
     0x518D, 0x2054B, 0x5197, 0x51A4, 0x4ECC, 0x51AC, 0x51B5, 0x291DF, 0x51F5, 0x5203, 0x34DF,
     0x523B, 0x5246, 0x5272, 0x5277, 0x3515, 0x52C7, 0x52C9, 0x52E4, 0x52FA, 0x5305, 0x5306,
     0x5317, 0x5349, 0x5351, 0x535A, 0x5373, 0x537D, 0x537F, 0x537F, 0x537F, 0x20A2C, 0x7070,
     0x53CA, 0x53DF, 0x20B63, 0x53EB, 0x53F1, 0x5406, 0x549E, 0x5438, 0x5448, 0x5468, 0x54A2,
     0x54F6, 0x5510, 0x5553, 0x5563, 0x5584, 0x5584, 0x5599, 0x55AB, 0x55B3, 0x55C2, 0x5716,
     0x5606, 0x5717, 0x5651, 0x5674, 0x5207, 0x58EE, 0x57CE, 0x57F4, 0x580D, 0x578B, 0x5832,
     0x5831, 0x58AC, 0x214E4, 0x58F2, 0x58F7, 0x5906, 0x591A, 0x5922, 0x5962, 0x216A8, 0x216EA,
     0x59EC, 0x5A1B, 0x5A27, 0x59D8, 0x5A66, 0x36EE, 0x36FC, 0x5B08, 0x5B3E, 0x5B3E, 0x219C8,
     0x5BC3, 0x5BD8, 0x5BE7, 0x5BF3, 0x21B18, 0x5BFF, 0x5C06, 0x5F53, 0x5C22, 0x3781, 0x5C60,
     0x5C6E, 0x5CC0, 0x5C8D, 0x21DE4, 0x5D43, 0x21DE6, 0x5D6E, 0x5D6B, 0x5D7C, 0x5DE1, 0x5DE2,
     0x382F, 0x5DFD, 0x5E28, 0x5E3D, 0x5E69, 0x3862, 0x22183, 0x387C, 0x5EB0, 0x5EB3, 0x5EB6,
     0x5ECA, 0x2A392, 0x5EFE, 0x22331, 0x22331, 0x8201, 0x5F22, 0x5F22, 0x38C7, 0x232B8, 0x261DA,
     0x5F62, 0x5F6B, 0x38E3, 0x5F9A, 0x5FCD, 0x5FD7, 0x5FF9, 0x6081, 0x393A, 0x391C, 0x6094,
     0x226D4, 0x60C7, 0x6148, 0x614C, 0x614E, 0x614C, 0x617A, 0x618E, 0x61B2, 0x61A4, 0x61AF,
     0x61DE, 0x61F2, 0x61F6, 0x6210, 0x621B, 0x625D, 0x62B1, 0x62D4, 0x6350, 0x22B0C, 0x633D,
     0x62FC, 0x6368, 0x6383, 0x63E4, 0x22BF1, 0x6422, 0x63C5, 0x63A9, 0x3A2E, 0x6469, 0x647E,
     0x649D, 0x6477, 0x3A6C, 0x654F, 0x656C, 0x2300A, 0x65E3, 0x66F8, 0x6649, 0x3B19, 0x6691,
     0x3B08, 0x3AE4, 0x5192, 0x5195, 0x6700, 0x669C, 0x80AD, 0x43D9, 0x6717, 0x671B, 0x6721,
     0x675E, 0x6753, 0x233C3, 0x3B49, 0x67FA, 0x6785, 0x6852, 0x6885, 0x2346D, 0x688E, 0x681F,
     0x6914, 0x3B9D, 0x6942, 0x69A3, 0x69EA, 0x6AA8, 0x236A3, 0x6ADB, 0x3C18, 0x6B21, 0x238A7,
     0x6B54, 0x3C4E, 0x6B72, 0x6B9F, 0x6BBA, 0x6BBB, 0x23A8D, 0x21D0B, 0x23AFA, 0x6C4E, 0x23CBC,
     0x6CBF, 0x6CCD, 0x6C67, 0x6D16, 0x6D3E, 0x6D77, 0x6D41, 0x6D69, 0x6D78, 0x6D85, 0x23D1E,
     0x6D34, 0x6E2F, 0x6E6E, 0x3D33, 0x6ECB, 0x6EC7, 0x23ED1, 0x6DF9, 0x6F6E, 0x23F5E, 0x23F8E,
     0x6FC6, 0x7039, 0x701E, 0x701B, 0x3D96, 0x704A, 0x707D, 0x7077, 0x70AD, 0x20525, 0x7145,
     0x24263, 0x719C, 0x243AB, 0x7228, 0x7235, 0x7250, 0x24608, 0x7280, 0x7295, 0x24735, 0x24814,
     0x737A, 0x738B, 0x3EAC, 0x73A5, 0x3EB8, 0x3EB8, 0x7447, 0x745C, 0x7471, 0x7485, 0x74CA,
     0x3F1B, 0x7524, 0x24C36, 0x753E, 0x24C92, 0x7570, 0x2219F, 0x7610, 0x24FA1, 0x24FB8, 0x25044,
     0x3FFC, 0x4008, 0x76F4, 0x250F3, 0x250F2, 0x25119, 0x25133, 0x771E, 0x771F, 0x771F, 0x774A,
     0x4039, 0x778B, 0x4046, 0x4096, 0x2541D, 0x784E, 0x788C, 0x78CC, 0x40E3, 0x25626, 0x7956,
     0x2569A, 0x256C5, 0x798F, 0x79EB, 0x412F, 0x7A40, 0x7A4A, 0x7A4F, 0x2597C, 0x25AA7, 0x25AA7,
     0x7AEE, 0x4202, 0x25BAB, 0x7BC6, 0x7BC9, 0x4227, 0x25C80, 0x7CD2, 0x42A0, 0x7CE8, 0x7CE3,
     0x7D00, 0x25F86, 0x7D63, 0x4301, 0x7DC7, 0x7E02, 0x7E45, 0x4334, 0x26228, 0x26247, 0x4359,
     0x262D9, 0x7F7A, 0x2633E, 0x7F95, 0x7FFA, 0x8005, 0x264DA, 0x26523, 0x8060, 0x265A8, 0x8070,
     0x2335F, 0x43D5, 0x80B2, 0x8103, 0x440B, 0x813E, 0x5AB5, 0x267A7, 0x267B5, 0x23393, 0x2339C,
     0x8201, 0x8204, 0x8F9E, 0x446B, 0x8291, 0x828B, 0x829D, 0x52B3, 0x82B1, 0x82B3, 0x82BD,
     0x82E6, 0x26B3C, 0x82E5, 0x831D, 0x8363, 0x83AD, 0x8323, 0x83BD, 0x83E7, 0x8457, 0x8353,
     0x83CA, 0x83CC, 0x83DC, 0x26C36, 0x26D6B, 0x26CD5, 0x452B, 0x84F1, 0x84F3, 0x8516, 0x273CA,
     0x8564, 0x26F2C, 0x455D, 0x4561, 0x26FB1, 0x270D2, 0x456B, 0x8650, 0x865C, 0x8667, 0x8669,
     0x86A9, 0x8688, 0x870E, 0x86E2, 0x8779, 0x8728, 0x876B, 0x8786, 0x45D7, 0x87E1, 0x8801,
     0x45F9, 0x8860, 0x8863, 0x27667, 0x88D7, 0x88DE, 0x4635, 0x88FA, 0x34BB, 0x278AE, 0x27966,
     0x46BE, 0x46C7, 0x8AA0, 0x8AED, 0x8B8A, 0x8C55, 0x27CA8, 0x8CAB, 0x8CC1, 0x8D1B, 0x8D77,
     0x27F2F, 0x20804, 0x8DCB, 0x8DBC, 0x8DF0, 0x208DE, 0x8ED4, 0x8F38, 0x285D2, 0x285ED, 0x9094,
     0x90F1, 0x9111, 0x2872E, 0x911B, 0x9238, 0x92D7, 0x92D8, 0x927C, 0x93F9, 0x9415, 0x28BFA,
     0x958B, 0x4995, 0x95B7, 0x28D77, 0x49E6, 0x96C3, 0x5DB2, 0x9723, 0x29145, 0x2921A, 0x4A6E,
     0x4A76, 0x97E0, 0x2940A, 0x4AB2, 0x29496, 0x980B, 0x980B, 0x9829, 0x295B6, 0x98E2, 0x4B33,
     0x9929, 0x99A7, 0x99C2, 0x99FE, 0x4BCE, 0x29B30, 0x9B12, 0x9C40, 0x9CFD, 0x4CCE, 0x4CED,
     0x9D67, 0x2A0CE, 0x4CF8, 0x2A105, 0x2A20E, 0x2A291, 0x9EBB, 0x4D56, 0x9EF9, 0x9EFE, 0x9F05,
     0x9F0F, 0x9F16, 0x9F3B, 0x2A600])]

/-- Characters that stand for several. -/
def ligatures : List (Nat × List Nat) :=
  [(0x132, [0x49, 0x4A]), (0x133, [0x69, 0x6A]), (0x13F, [0x4C, 0xB7]), (0x140, [0x6C, 0xB7]),
   (0x149, [0x2BC, 0x6E]), (0x1C4, [0x44, 0x5A, 0x30C]), (0x1C5, [0x44, 0x7A, 0x30C]),
   (0x1C6, [0x64, 0x7A, 0x30C]), (0x1C7, [0x4C, 0x4A]), (0x1C8, [0x4C, 0x6A]),
   (0x1C9, [0x6C, 0x6A]), (0x1CA, [0x4E, 0x4A]), (0x1CB, [0x4E, 0x6A]), (0x1CC, [0x6E, 0x6A]),
   (0x1F1, [0x44, 0x5A]), (0x1F2, [0x44, 0x7A]), (0x1F3, [0x64, 0x7A]), (0x587, [0x565, 0x582]),
   (0x675, [0x627, 0x674]), (0x676, [0x648, 0x674]), (0x677, [0x6C7, 0x674]),
   (0x678, [0x64A, 0x674]), (0xE33, [0xE4D, 0xE32]), (0xEB3, [0xECD, 0xEB2]),
   (0xEDC, [0xEAB, 0xE99]), (0xEDD, [0xEAB, 0xEA1]), (0xF77, [0xFB2, 0xF71, 0xF80]),
   (0xF79, [0xFB3, 0xF71, 0xF80]), (0x1E9A, [0x61, 0x2BE]), (0x1F71, [0x3B1, 0x301]),
   (0x1F73, [0x3B5, 0x301]), (0x1F75, [0x3B7, 0x301]), (0x1F77, [0x3B9, 0x301]),
   (0x1F79, [0x3BF, 0x301]), (0x1F7B, [0x3C5, 0x301]), (0x1F7D, [0x3C9, 0x301]),
   (0x1FBB, [0x391, 0x301]), (0x1FC9, [0x395, 0x301]), (0x1FCB, [0x397, 0x301]),
   (0x1FD3, [0x3B9, 0x308, 0x301]), (0x1FDB, [0x399, 0x301]), (0x1FE3, [0x3C5, 0x308, 0x301]),
   (0x1FEB, [0x3A5, 0x301]), (0x1FF9, [0x39F, 0x301]), (0x1FFB, [0x3A9, 0x301]),
   (0x212B, [0x41, 0x30A]), (0x2161, [0x49, 0x49]), (0x2162, [0x49, 0x49, 0x49]),
   (0x2163, [0x49, 0x56]), (0x2165, [0x56, 0x49]), (0x2166, [0x56, 0x49, 0x49]),
   (0x2167, [0x56, 0x49, 0x49, 0x49]), (0x2168, [0x49, 0x58]), (0x216A, [0x58, 0x49]),
   (0x216B, [0x58, 0x49, 0x49]), (0x2171, [0x69, 0x69]), (0x2172, [0x69, 0x69, 0x69]),
   (0x2173, [0x69, 0x76]), (0x2175, [0x76, 0x69]), (0x2176, [0x76, 0x69, 0x69]),
   (0x2177, [0x76, 0x69, 0x69, 0x69]), (0x2178, [0x69, 0x78]), (0x217A, [0x78, 0x69]),
   (0x217B, [0x78, 0x69, 0x69]), (0x309F, [0x3088, 0x308A]), (0x30FF, [0x30B3, 0x30C8]),
   (0xFB00, [0x66, 0x66]), (0xFB01, [0x66, 0x69]), (0xFB02, [0x66, 0x6C]),
   (0xFB03, [0x66, 0x66, 0x69]), (0xFB04, [0x66, 0x66, 0x6C]), (0xFB05, [0x73, 0x74]),
   (0xFB06, [0x73, 0x74]), (0xFB13, [0x574, 0x576]), (0xFB14, [0x574, 0x565]),
   (0xFB15, [0x574, 0x56B]), (0xFB16, [0x57E, 0x576]), (0xFB17, [0x574, 0x56D]),
   (0xFB4F, [0x5D0, 0x5DC]), (0xFBA4, [0x6D5, 0x654]), (0xFBA5, [0x6D5, 0x654]),
   (0xFBB0, [0x6D2, 0x654]), (0xFBB1, [0x6D2, 0x654]), (0xFBDD, [0x6C7, 0x674]),
   (0xFBEA, [0x64A, 0x654, 0x627]), (0xFBEB, [0x64A, 0x654, 0x627]),
   (0xFBEC, [0x64A, 0x654, 0x6D5]), (0xFBED, [0x64A, 0x654, 0x6D5]),
   (0xFBEE, [0x64A, 0x654, 0x648]), (0xFBEF, [0x64A, 0x654, 0x648]),
   (0xFBF0, [0x64A, 0x654, 0x6C7]), (0xFBF1, [0x64A, 0x654, 0x6C7]),
   (0xFBF2, [0x64A, 0x654, 0x6C6]), (0xFBF3, [0x64A, 0x654, 0x6C6]),
   (0xFBF4, [0x64A, 0x654, 0x6C8]), (0xFBF5, [0x64A, 0x654, 0x6C8]),
   (0xFBF6, [0x64A, 0x654, 0x6D0]), (0xFBF7, [0x64A, 0x654, 0x6D0]),
   (0xFBF8, [0x64A, 0x654, 0x6D0]), (0xFBF9, [0x64A, 0x654, 0x649]),
   (0xFBFA, [0x64A, 0x654, 0x649]), (0xFBFB, [0x64A, 0x654, 0x649]),
   (0xFC00, [0x64A, 0x654, 0x62C]), (0xFC01, [0x64A, 0x654, 0x62D]),
   (0xFC02, [0x64A, 0x654, 0x645]), (0xFC03, [0x64A, 0x654, 0x649]),
   (0xFC04, [0x64A, 0x654, 0x64A]), (0xFC05, [0x628, 0x62C]), (0xFC06, [0x628, 0x62D]),
   (0xFC07, [0x628, 0x62E]), (0xFC08, [0x628, 0x645]), (0xFC09, [0x628, 0x649]),
   (0xFC0A, [0x628, 0x64A]), (0xFC0B, [0x62A, 0x62C]), (0xFC0C, [0x62A, 0x62D]),
   (0xFC0D, [0x62A, 0x62E]), (0xFC0E, [0x62A, 0x645]), (0xFC0F, [0x62A, 0x649]),
   (0xFC10, [0x62A, 0x64A]), (0xFC11, [0x62B, 0x62C]), (0xFC12, [0x62B, 0x645]),
   (0xFC13, [0x62B, 0x649]), (0xFC14, [0x62B, 0x64A]), (0xFC15, [0x62C, 0x62D]),
   (0xFC16, [0x62C, 0x645]), (0xFC17, [0x62D, 0x62C]), (0xFC18, [0x62D, 0x645]),
   (0xFC19, [0x62E, 0x62C]), (0xFC1A, [0x62E, 0x62D]), (0xFC1B, [0x62E, 0x645]),
   (0xFC1C, [0x633, 0x62C]), (0xFC1D, [0x633, 0x62D]), (0xFC1E, [0x633, 0x62E]),
   (0xFC1F, [0x633, 0x645]), (0xFC20, [0x635, 0x62D]), (0xFC21, [0x635, 0x645]),
   (0xFC22, [0x636, 0x62C]), (0xFC23, [0x636, 0x62D]), (0xFC24, [0x636, 0x62E]),
   (0xFC25, [0x636, 0x645]), (0xFC26, [0x637, 0x62D]), (0xFC27, [0x637, 0x645]),
   (0xFC28, [0x638, 0x645]), (0xFC29, [0x639, 0x62C]), (0xFC2A, [0x639, 0x645]),
   (0xFC2B, [0x63A, 0x62C]), (0xFC2C, [0x63A, 0x645]), (0xFC2D, [0x641, 0x62C]),
   (0xFC2E, [0x641, 0x62D]), (0xFC2F, [0x641, 0x62E]), (0xFC30, [0x641, 0x645]),
   (0xFC31, [0x641, 0x649]), (0xFC32, [0x641, 0x64A]), (0xFC33, [0x642, 0x62D]),
   (0xFC34, [0x642, 0x645]), (0xFC35, [0x642, 0x649]), (0xFC36, [0x642, 0x64A]),
   (0xFC37, [0x643, 0x627]), (0xFC38, [0x643, 0x62C]), (0xFC39, [0x643, 0x62D]),
   (0xFC3A, [0x643, 0x62E]), (0xFC3B, [0x643, 0x644]), (0xFC3C, [0x643, 0x645]),
   (0xFC3D, [0x643, 0x649]), (0xFC3E, [0x643, 0x64A]), (0xFC3F, [0x644, 0x62C]),
   (0xFC40, [0x644, 0x62D]), (0xFC41, [0x644, 0x62E]), (0xFC42, [0x644, 0x645]),
   (0xFC43, [0x644, 0x649]), (0xFC44, [0x644, 0x64A]), (0xFC45, [0x645, 0x62C]),
   (0xFC46, [0x645, 0x62D]), (0xFC47, [0x645, 0x62E]), (0xFC48, [0x645, 0x645]),
   (0xFC49, [0x645, 0x649]), (0xFC4A, [0x645, 0x64A]), (0xFC4B, [0x646, 0x62C]),
   (0xFC4C, [0x646, 0x62D]), (0xFC4D, [0x646, 0x62E]), (0xFC4E, [0x646, 0x645]),
   (0xFC4F, [0x646, 0x649]), (0xFC50, [0x646, 0x64A]), (0xFC51, [0x647, 0x62C]),
   (0xFC52, [0x647, 0x645]), (0xFC53, [0x647, 0x649]), (0xFC54, [0x647, 0x64A]),
   (0xFC55, [0x64A, 0x62C]), (0xFC56, [0x64A, 0x62D]), (0xFC57, [0x64A, 0x62E]),
   (0xFC58, [0x64A, 0x645]), (0xFC59, [0x64A, 0x649]), (0xFC5A, [0x64A, 0x64A]),
   (0xFC5B, [0x630, 0x670]), (0xFC5C, [0x631, 0x670]), (0xFC5D, [0x649, 0x670]),
   (0xFC64, [0x64A, 0x654, 0x631]), (0xFC65, [0x64A, 0x654, 0x632]),
   (0xFC66, [0x64A, 0x654, 0x645]), (0xFC67, [0x64A, 0x654, 0x646]),
   (0xFC68, [0x64A, 0x654, 0x649]), (0xFC69, [0x64A, 0x654, 0x64A]), (0xFC6A, [0x628, 0x631]),
   (0xFC6B, [0x628, 0x632]), (0xFC6C, [0x628, 0x645]), (0xFC6D, [0x628, 0x646]),
   (0xFC6E, [0x628, 0x649]), (0xFC6F, [0x628, 0x64A]), (0xFC70, [0x62A, 0x631]),
   (0xFC71, [0x62A, 0x632]), (0xFC72, [0x62A, 0x645]), (0xFC73, [0x62A, 0x646]),
   (0xFC74, [0x62A, 0x649]), (0xFC75, [0x62A, 0x64A]), (0xFC76, [0x62B, 0x631]),
   (0xFC77, [0x62B, 0x632]), (0xFC78, [0x62B, 0x645]), (0xFC79, [0x62B, 0x646]),
   (0xFC7A, [0x62B, 0x649]), (0xFC7B, [0x62B, 0x64A]), (0xFC7C, [0x641, 0x649]),
   (0xFC7D, [0x641, 0x64A]), (0xFC7E, [0x642, 0x649]), (0xFC7F, [0x642, 0x64A]),
   (0xFC80, [0x643, 0x627]), (0xFC81, [0x643, 0x644]), (0xFC82, [0x643, 0x645]),
   (0xFC83, [0x643, 0x649]), (0xFC84, [0x643, 0x64A]), (0xFC85, [0x644, 0x645]),
   (0xFC86, [0x644, 0x649]), (0xFC87, [0x644, 0x64A]), (0xFC88, [0x645, 0x627]),
   (0xFC89, [0x645, 0x645]), (0xFC8A, [0x646, 0x631]), (0xFC8B, [0x646, 0x632]),
   (0xFC8C, [0x646, 0x645]), (0xFC8D, [0x646, 0x646]), (0xFC8E, [0x646, 0x649]),
   (0xFC8F, [0x646, 0x64A]), (0xFC90, [0x649, 0x670]), (0xFC91, [0x64A, 0x631]),
   (0xFC92, [0x64A, 0x632]), (0xFC93, [0x64A, 0x645]), (0xFC94, [0x64A, 0x646]),
   (0xFC95, [0x64A, 0x649]), (0xFC96, [0x64A, 0x64A]), (0xFC97, [0x64A, 0x654, 0x62C]),
   (0xFC98, [0x64A, 0x654, 0x62D]), (0xFC99, [0x64A, 0x654, 0x62E]),
   (0xFC9A, [0x64A, 0x654, 0x645]), (0xFC9B, [0x64A, 0x654, 0x647]), (0xFC9C, [0x628, 0x62C]),
   (0xFC9D, [0x628, 0x62D]), (0xFC9E, [0x628, 0x62E]), (0xFC9F, [0x628, 0x645]),
   (0xFCA0, [0x628, 0x647]), (0xFCA1, [0x62A, 0x62C]), (0xFCA2, [0x62A, 0x62D]),
   (0xFCA3, [0x62A, 0x62E]), (0xFCA4, [0x62A, 0x645]), (0xFCA5, [0x62A, 0x647]),
   (0xFCA6, [0x62B, 0x645]), (0xFCA7, [0x62C, 0x62D]), (0xFCA8, [0x62C, 0x645]),
   (0xFCA9, [0x62D, 0x62C]), (0xFCAA, [0x62D, 0x645]), (0xFCAB, [0x62E, 0x62C]),
   (0xFCAC, [0x62E, 0x645]), (0xFCAD, [0x633, 0x62C]), (0xFCAE, [0x633, 0x62D]),
   (0xFCAF, [0x633, 0x62E]), (0xFCB0, [0x633, 0x645]), (0xFCB1, [0x635, 0x62D]),
   (0xFCB2, [0x635, 0x62E]), (0xFCB3, [0x635, 0x645]), (0xFCB4, [0x636, 0x62C]),
   (0xFCB5, [0x636, 0x62D]), (0xFCB6, [0x636, 0x62E]), (0xFCB7, [0x636, 0x645]),
   (0xFCB8, [0x637, 0x62D]), (0xFCB9, [0x638, 0x645]), (0xFCBA, [0x639, 0x62C]),
   (0xFCBB, [0x639, 0x645]), (0xFCBC, [0x63A, 0x62C]), (0xFCBD, [0x63A, 0x645]),
   (0xFCBE, [0x641, 0x62C]), (0xFCBF, [0x641, 0x62D]), (0xFCC0, [0x641, 0x62E]),
   (0xFCC1, [0x641, 0x645]), (0xFCC2, [0x642, 0x62D]), (0xFCC3, [0x642, 0x645]),
   (0xFCC4, [0x643, 0x62C]), (0xFCC5, [0x643, 0x62D]), (0xFCC6, [0x643, 0x62E]),
   (0xFCC7, [0x643, 0x644]), (0xFCC8, [0x643, 0x645]), (0xFCC9, [0x644, 0x62C]),
   (0xFCCA, [0x644, 0x62D]), (0xFCCB, [0x644, 0x62E]), (0xFCCC, [0x644, 0x645]),
   (0xFCCD, [0x644, 0x647]), (0xFCCE, [0x645, 0x62C]), (0xFCCF, [0x645, 0x62D]),
   (0xFCD0, [0x645, 0x62E]), (0xFCD1, [0x645, 0x645]), (0xFCD2, [0x646, 0x62C]),
   (0xFCD3, [0x646, 0x62D]), (0xFCD4, [0x646, 0x62E]), (0xFCD5, [0x646, 0x645]),
   (0xFCD6, [0x646, 0x647]), (0xFCD7, [0x647, 0x62C]), (0xFCD8, [0x647, 0x645]),
   (0xFCD9, [0x647, 0x670]), (0xFCDA, [0x64A, 0x62C]), (0xFCDB, [0x64A, 0x62D]),
   (0xFCDC, [0x64A, 0x62E]), (0xFCDD, [0x64A, 0x645]), (0xFCDE, [0x64A, 0x647]),
   (0xFCDF, [0x64A, 0x654, 0x645]), (0xFCE0, [0x64A, 0x654, 0x647]), (0xFCE1, [0x628, 0x645]),
   (0xFCE2, [0x628, 0x647]), (0xFCE3, [0x62A, 0x645]), (0xFCE4, [0x62A, 0x647]),
   (0xFCE5, [0x62B, 0x645]), (0xFCE6, [0x62B, 0x647]), (0xFCE7, [0x633, 0x645]),
   (0xFCE8, [0x633, 0x647]), (0xFCE9, [0x634, 0x645]), (0xFCEA, [0x634, 0x647]),
   (0xFCEB, [0x643, 0x644]), (0xFCEC, [0x643, 0x645]), (0xFCED, [0x644, 0x645]),
   (0xFCEE, [0x646, 0x645]), (0xFCEF, [0x646, 0x647]), (0xFCF0, [0x64A, 0x645]),
   (0xFCF1, [0x64A, 0x647]), (0xFCF2, [0x640, 0x64E, 0x651]), (0xFCF3, [0x640, 0x64F, 0x651]),
   (0xFCF4, [0x640, 0x650, 0x651]), (0xFCF5, [0x637, 0x649]), (0xFCF6, [0x637, 0x64A]),
   (0xFCF7, [0x639, 0x649]), (0xFCF8, [0x639, 0x64A]), (0xFCF9, [0x63A, 0x649]),
   (0xFCFA, [0x63A, 0x64A]), (0xFCFB, [0x633, 0x649]), (0xFCFC, [0x633, 0x64A]),
   (0xFCFD, [0x634, 0x649]), (0xFCFE, [0x634, 0x64A]), (0xFCFF, [0x62D, 0x649]),
   (0xFD00, [0x62D, 0x64A]), (0xFD01, [0x62C, 0x649]), (0xFD02, [0x62C, 0x64A]),
   (0xFD03, [0x62E, 0x649]), (0xFD04, [0x62E, 0x64A]), (0xFD05, [0x635, 0x649]),
   (0xFD06, [0x635, 0x64A]), (0xFD07, [0x636, 0x649]), (0xFD08, [0x636, 0x64A]),
   (0xFD09, [0x634, 0x62C]), (0xFD0A, [0x634, 0x62D]), (0xFD0B, [0x634, 0x62E]),
   (0xFD0C, [0x634, 0x645]), (0xFD0D, [0x634, 0x631]), (0xFD0E, [0x633, 0x631]),
   (0xFD0F, [0x635, 0x631]), (0xFD10, [0x636, 0x631]), (0xFD11, [0x637, 0x649]),
   (0xFD12, [0x637, 0x64A]), (0xFD13, [0x639, 0x649]), (0xFD14, [0x639, 0x64A]),
   (0xFD15, [0x63A, 0x649]), (0xFD16, [0x63A, 0x64A]), (0xFD17, [0x633, 0x649]),
   (0xFD18, [0x633, 0x64A]), (0xFD19, [0x634, 0x649]), (0xFD1A, [0x634, 0x64A]),
   (0xFD1B, [0x62D, 0x649]), (0xFD1C, [0x62D, 0x64A]), (0xFD1D, [0x62C, 0x649]),
   (0xFD1E, [0x62C, 0x64A]), (0xFD1F, [0x62E, 0x649]), (0xFD20, [0x62E, 0x64A]),
   (0xFD21, [0x635, 0x649]), (0xFD22, [0x635, 0x64A]), (0xFD23, [0x636, 0x649]),
   (0xFD24, [0x636, 0x64A]), (0xFD25, [0x634, 0x62C]), (0xFD26, [0x634, 0x62D]),
   (0xFD27, [0x634, 0x62E]), (0xFD28, [0x634, 0x645]), (0xFD29, [0x634, 0x631]),
   (0xFD2A, [0x633, 0x631]), (0xFD2B, [0x635, 0x631]), (0xFD2C, [0x636, 0x631]),
   (0xFD2D, [0x634, 0x62C]), (0xFD2E, [0x634, 0x62D]), (0xFD2F, [0x634, 0x62E]),
   (0xFD30, [0x634, 0x645]), (0xFD31, [0x633, 0x647]), (0xFD32, [0x634, 0x647]),
   (0xFD33, [0x637, 0x645]), (0xFD34, [0x633, 0x62C]), (0xFD35, [0x633, 0x62D]),
   (0xFD36, [0x633, 0x62E]), (0xFD37, [0x634, 0x62C]), (0xFD38, [0x634, 0x62D]),
   (0xFD39, [0x634, 0x62E]), (0xFD3A, [0x637, 0x645]), (0xFD3B, [0x638, 0x645]),
   (0xFD3C, [0x627, 0x64B]), (0xFD3D, [0x627, 0x64B]), (0xFD50, [0x62A, 0x62C, 0x645]),
   (0xFD51, [0x62A, 0x62D, 0x62C]), (0xFD52, [0x62A, 0x62D, 0x62C]),
   (0xFD53, [0x62A, 0x62D, 0x645]), (0xFD54, [0x62A, 0x62E, 0x645]),
   (0xFD55, [0x62A, 0x645, 0x62C]), (0xFD56, [0x62A, 0x645, 0x62D]),
   (0xFD57, [0x62A, 0x645, 0x62E]), (0xFD58, [0x62C, 0x645, 0x62D]),
   (0xFD59, [0x62C, 0x645, 0x62D]), (0xFD5A, [0x62D, 0x645, 0x64A]),
   (0xFD5B, [0x62D, 0x645, 0x649]), (0xFD5C, [0x633, 0x62D, 0x62C]),
   (0xFD5D, [0x633, 0x62C, 0x62D]), (0xFD5E, [0x633, 0x62C, 0x649]),
   (0xFD5F, [0x633, 0x645, 0x62D]), (0xFD60, [0x633, 0x645, 0x62D]),
   (0xFD61, [0x633, 0x645, 0x62C]), (0xFD62, [0x633, 0x645, 0x645]),
   (0xFD63, [0x633, 0x645, 0x645]), (0xFD64, [0x635, 0x62D, 0x62D]),
   (0xFD65, [0x635, 0x62D, 0x62D]), (0xFD66, [0x635, 0x645, 0x645]),
   (0xFD67, [0x634, 0x62D, 0x645]), (0xFD68, [0x634, 0x62D, 0x645]),
   (0xFD69, [0x634, 0x62C, 0x64A]), (0xFD6A, [0x634, 0x645, 0x62E]),
   (0xFD6B, [0x634, 0x645, 0x62E]), (0xFD6C, [0x634, 0x645, 0x645]),
   (0xFD6D, [0x634, 0x645, 0x645]), (0xFD6E, [0x636, 0x62D, 0x649]),
   (0xFD6F, [0x636, 0x62E, 0x645]), (0xFD70, [0x636, 0x62E, 0x645]),
   (0xFD71, [0x637, 0x645, 0x62D]), (0xFD72, [0x637, 0x645, 0x62D]),
   (0xFD73, [0x637, 0x645, 0x645]), (0xFD74, [0x637, 0x645, 0x64A]),
   (0xFD75, [0x639, 0x62C, 0x645]), (0xFD76, [0x639, 0x645, 0x645]),
   (0xFD77, [0x639, 0x645, 0x645]), (0xFD78, [0x639, 0x645, 0x649]),
   (0xFD79, [0x63A, 0x645, 0x645]), (0xFD7A, [0x63A, 0x645, 0x64A]),
   (0xFD7B, [0x63A, 0x645, 0x649]), (0xFD7C, [0x641, 0x62E, 0x645]),
   (0xFD7D, [0x641, 0x62E, 0x645]), (0xFD7E, [0x642, 0x645, 0x62D]),
   (0xFD7F, [0x642, 0x645, 0x645]), (0xFD80, [0x644, 0x62D, 0x645]),
   (0xFD81, [0x644, 0x62D, 0x64A]), (0xFD82, [0x644, 0x62D, 0x649]),
   (0xFD83, [0x644, 0x62C, 0x62C]), (0xFD84, [0x644, 0x62C, 0x62C]),
   (0xFD85, [0x644, 0x62E, 0x645]), (0xFD86, [0x644, 0x62E, 0x645]),
   (0xFD87, [0x644, 0x645, 0x62D]), (0xFD88, [0x644, 0x645, 0x62D]),
   (0xFD89, [0x645, 0x62D, 0x62C]), (0xFD8A, [0x645, 0x62D, 0x645]),
   (0xFD8B, [0x645, 0x62D, 0x64A]), (0xFD8C, [0x645, 0x62C, 0x62D]),
   (0xFD8D, [0x645, 0x62C, 0x645]), (0xFD8E, [0x645, 0x62E, 0x62C]),
   (0xFD8F, [0x645, 0x62E, 0x645]), (0xFD92, [0x645, 0x62C, 0x62E]),
   (0xFD93, [0x647, 0x645, 0x62C]), (0xFD94, [0x647, 0x645, 0x645]),
   (0xFD95, [0x646, 0x62D, 0x645]), (0xFD96, [0x646, 0x62D, 0x649]),
   (0xFD97, [0x646, 0x62C, 0x645]), (0xFD98, [0x646, 0x62C, 0x645]),
   (0xFD99, [0x646, 0x62C, 0x649]), (0xFD9A, [0x646, 0x645, 0x64A]),
   (0xFD9B, [0x646, 0x645, 0x649]), (0xFD9C, [0x64A, 0x645, 0x645]),
   (0xFD9D, [0x64A, 0x645, 0x645]), (0xFD9E, [0x628, 0x62E, 0x64A]),
   (0xFD9F, [0x62A, 0x62C, 0x64A]), (0xFDA0, [0x62A, 0x62C, 0x649]),
   (0xFDA1, [0x62A, 0x62E, 0x64A]), (0xFDA2, [0x62A, 0x62E, 0x649]),
   (0xFDA3, [0x62A, 0x645, 0x64A]), (0xFDA4, [0x62A, 0x645, 0x649]),
   (0xFDA5, [0x62C, 0x645, 0x64A]), (0xFDA6, [0x62C, 0x62D, 0x649]),
   (0xFDA7, [0x62C, 0x645, 0x649]), (0xFDA8, [0x633, 0x62E, 0x649]),
   (0xFDA9, [0x635, 0x62D, 0x64A]), (0xFDAA, [0x634, 0x62D, 0x64A]),
   (0xFDAB, [0x636, 0x62D, 0x64A]), (0xFDAC, [0x644, 0x62C, 0x64A]),
   (0xFDAD, [0x644, 0x645, 0x64A]), (0xFDAE, [0x64A, 0x62D, 0x64A]),
   (0xFDAF, [0x64A, 0x62C, 0x64A]), (0xFDB0, [0x64A, 0x645, 0x64A]),
   (0xFDB1, [0x645, 0x645, 0x64A]), (0xFDB2, [0x642, 0x645, 0x64A]),
   (0xFDB3, [0x646, 0x62D, 0x64A]), (0xFDB4, [0x642, 0x645, 0x62D]),
   (0xFDB5, [0x644, 0x62D, 0x645]), (0xFDB6, [0x639, 0x645, 0x64A]),
   (0xFDB7, [0x643, 0x645, 0x64A]), (0xFDB8, [0x646, 0x62C, 0x62D]),
   (0xFDB9, [0x645, 0x62E, 0x64A]), (0xFDBA, [0x644, 0x62C, 0x645]),
   (0xFDBB, [0x643, 0x645, 0x645]), (0xFDBC, [0x644, 0x62C, 0x645]),
   (0xFDBD, [0x646, 0x62C, 0x62D]), (0xFDBE, [0x62C, 0x62D, 0x64A]),
   (0xFDBF, [0x62D, 0x62C, 0x64A]), (0xFDC0, [0x645, 0x62C, 0x64A]),
   (0xFDC1, [0x641, 0x645, 0x64A]), (0xFDC2, [0x628, 0x62D, 0x64A]),
   (0xFDC3, [0x643, 0x645, 0x645]), (0xFDC4, [0x639, 0x62C, 0x645]),
   (0xFDC5, [0x635, 0x645, 0x645]), (0xFDC6, [0x633, 0x62E, 0x64A]),
   (0xFDC7, [0x646, 0x62C, 0x64A]), (0xFDF0, [0x635, 0x644, 0x6D2]),
   (0xFDF1, [0x642, 0x644, 0x6D2]), (0xFDF2, [0x627, 0x644, 0x644, 0x647]),
   (0xFDF3, [0x627, 0x643, 0x628, 0x631]), (0xFDF4, [0x645, 0x62D, 0x645, 0x62F]),
   (0xFDF5, [0x635, 0x644, 0x639, 0x645]), (0xFDF6, [0x631, 0x633, 0x648, 0x644]),
   (0xFDF7, [0x639, 0x644, 0x64A, 0x647]), (0xFDF8, [0x648, 0x633, 0x644, 0x645]),
   (0xFDF9, [0x635, 0x644, 0x649]), (0xFE71, [0x640, 0x64B]), (0xFE77, [0x640, 0x64E]),
   (0xFE79, [0x640, 0x64F]), (0xFE7B, [0x640, 0x650]), (0xFE7D, [0x640, 0x651]),
   (0xFE7F, [0x640, 0x652]), (0xFE81, [0x627, 0x653]), (0xFE82, [0x627, 0x653]),
   (0xFE83, [0x627, 0x654]), (0xFE84, [0x627, 0x654]), (0xFE85, [0x648, 0x654]),
   (0xFE86, [0x648, 0x654]), (0xFE87, [0x627, 0x655]), (0xFE88, [0x627, 0x655]),
   (0xFE89, [0x64A, 0x654]), (0xFE8A, [0x64A, 0x654]), (0xFE8B, [0x64A, 0x654]),
   (0xFE8C, [0x64A, 0x654]), (0xFEF5, [0x644, 0x627, 0x653]), (0xFEF6, [0x644, 0x627, 0x653]),
   (0xFEF7, [0x644, 0x627, 0x654]), (0xFEF8, [0x644, 0x627, 0x654]),
   (0xFEF9, [0x644, 0x627, 0x655]), (0xFEFA, [0x644, 0x627, 0x655]), (0xFEFB, [0x644, 0x627]),
   (0xFEFC, [0x644, 0x627])]

/-- The characters that a character stands for, if it stands for others. -/
def meant? (c : Nat) : Option (List Nat) :=
  match formRuns.find? fun r => r.first ≤ c && c ≤ r.last with
  | some r => some [r.target + r.step * (c - r.first)]
  | none =>
    match doubledIdeographs.findSome? fun (first, targets) =>
        if first ≤ c then targets[c - first]? else none with
    | some d => some [d]
    | none => ligatures.lookup c

end Pinboard.Text
