import Registrar.Text.Decomposition.Table

/-!
# Decompositions of symbols

The full compatibility decompositions of symbols, syllabaries and enclosed characters.
-/

namespace Registrar.Text.Decomposition

/-- Single characters among symbols, below U+3000. -/
def symbolsSingle : Table Nat := [
  (0x2000, 0x200A, [0x20, 0x20, 0x20, 0x20, 0x20, 0x20, 0x20, 0x20, 0x20, 0x20, 0x20]),
  (0x2011, 0x2011, [0x2010]),
  (0x2024, 0x2024, [0x2E]),
  (0x202F, 0x202F, [0x20]),
  (0x205F, 0x205F, [0x20]),
  (0x2070, 0x2071, [0x30, 0x69]),
  (0x2074, 0x208E, [
    0x34, 0x35, 0x36, 0x37, 0x38, 0x39, 0x2B, 0x2212, 0x3D, 0x28, 0x29, 0x6E, 0x30, 0x31, 0x32,
    0x33, 0x34, 0x35, 0x36, 0x37, 0x38, 0x39, 0x2B, 0x2212, 0x3D, 0x28, 0x29]),
  (0x2090, 0x209C, [
    0x61, 0x65, 0x6F, 0x78, 0x259, 0x68, 0x6B, 0x6C, 0x6D, 0x6E, 0x70, 0x73, 0x74]),
  (0x2102, 0x2102, [0x43]),
  (0x2107, 0x2107, [0x190]),
  (0x210A, 0x2113, [0x67, 0x48, 0x48, 0x48, 0x68, 0x127, 0x49, 0x49, 0x4C, 0x6C]),
  (0x2115, 0x2115, [0x4E]),
  (0x2119, 0x211D, [0x50, 0x51, 0x52, 0x52, 0x52]),
  (0x2124, 0x2124, [0x5A]),
  (0x2126, 0x2126, [0x3A9]),
  (0x2128, 0x2128, [0x5A]),
  (0x212A, 0x212A, [0x4B]),
  (0x212C, 0x212D, [0x42, 0x43]),
  (0x212F, 0x2131, [0x65, 0x45, 0x46]),
  (0x2133, 0x2139, [0x4D, 0x6F, 0x5D0, 0x5D1, 0x5D2, 0x5D3, 0x69]),
  (0x213C, 0x2140, [0x3C0, 0x3B3, 0x393, 0x3A0, 0x2211]),
  (0x2145, 0x2149, [0x44, 0x64, 0x65, 0x69, 0x6A]),
  (0x2160, 0x2160, [0x49]),
  (0x2164, 0x2164, [0x56]),
  (0x2169, 0x2169, [0x58]),
  (0x216C, 0x2170, [0x4C, 0x43, 0x44, 0x4D, 0x69]),
  (0x2174, 0x2174, [0x76]),
  (0x2179, 0x2179, [0x78]),
  (0x217C, 0x217F, [0x6C, 0x63, 0x64, 0x6D]),
  (0x2329, 0x232A, [0x3008, 0x3009]),
  (0x2460, 0x2468, [0x31, 0x32, 0x33, 0x34, 0x35, 0x36, 0x37, 0x38, 0x39]),
  (0x24B6, 0x24EA, [
    0x41, 0x42, 0x43, 0x44, 0x45, 0x46, 0x47, 0x48, 0x49, 0x4A, 0x4B, 0x4C, 0x4D, 0x4E, 0x4F,
    0x50, 0x51, 0x52, 0x53, 0x54, 0x55, 0x56, 0x57, 0x58, 0x59, 0x5A, 0x61, 0x62, 0x63, 0x64,
    0x65, 0x66, 0x67, 0x68, 0x69, 0x6A, 0x6B, 0x6C, 0x6D, 0x6E, 0x6F, 0x70, 0x71, 0x72, 0x73,
    0x74, 0x75, 0x76, 0x77, 0x78, 0x79, 0x7A, 0x30]),
  (0x2C7C, 0x2C7D, [0x6A, 0x56]),
  (0x2D6F, 0x2D6F, [0x2D61]),
  (0x2E9F, 0x2E9F, [0x6BCD]),
  (0x2EF3, 0x2EF3, [0x9F9F]),
  (0x2F00, 0x2F3F, [
    0x4E00, 0x4E28, 0x4E36, 0x4E3F, 0x4E59, 0x4E85, 0x4E8C, 0x4EA0, 0x4EBA, 0x513F, 0x5165,
    0x516B, 0x5182, 0x5196, 0x51AB, 0x51E0, 0x51F5, 0x5200, 0x529B, 0x52F9, 0x5315, 0x531A,
    0x5338, 0x5341, 0x535C, 0x5369, 0x5382, 0x53B6, 0x53C8, 0x53E3, 0x56D7, 0x571F, 0x58EB,
    0x5902, 0x590A, 0x5915, 0x5927, 0x5973, 0x5B50, 0x5B80, 0x5BF8, 0x5C0F, 0x5C22, 0x5C38,
    0x5C6E, 0x5C71, 0x5DDB, 0x5DE5, 0x5DF1, 0x5DFE, 0x5E72, 0x5E7A, 0x5E7F, 0x5EF4, 0x5EFE,
    0x5F0B, 0x5F13, 0x5F50, 0x5F61, 0x5F73, 0x5FC3, 0x6208, 0x6236, 0x624B]),
  (0x2F40, 0x2F7F, [
    0x652F, 0x6534, 0x6587, 0x6597, 0x65A4, 0x65B9, 0x65E0, 0x65E5, 0x66F0, 0x6708, 0x6728,
    0x6B20, 0x6B62, 0x6B79, 0x6BB3, 0x6BCB, 0x6BD4, 0x6BDB, 0x6C0F, 0x6C14, 0x6C34, 0x706B,
    0x722A, 0x7236, 0x723B, 0x723F, 0x7247, 0x7259, 0x725B, 0x72AC, 0x7384, 0x7389, 0x74DC,
    0x74E6, 0x7518, 0x751F, 0x7528, 0x7530, 0x758B, 0x7592, 0x7676, 0x767D, 0x76AE, 0x76BF,
    0x76EE, 0x77DB, 0x77E2, 0x77F3, 0x793A, 0x79B8, 0x79BE, 0x7A74, 0x7ACB, 0x7AF9, 0x7C73,
    0x7CF8, 0x7F36, 0x7F51, 0x7F8A, 0x7FBD, 0x8001, 0x800C, 0x8012, 0x8033]),
  (0x2F80, 0x2FBF, [
    0x807F, 0x8089, 0x81E3, 0x81EA, 0x81F3, 0x81FC, 0x820C, 0x821B, 0x821F, 0x826E, 0x8272,
    0x8278, 0x864D, 0x866B, 0x8840, 0x884C, 0x8863, 0x897E, 0x898B, 0x89D2, 0x8A00, 0x8C37,
    0x8C46, 0x8C55, 0x8C78, 0x8C9D, 0x8D64, 0x8D70, 0x8DB3, 0x8EAB, 0x8ECA, 0x8F9B, 0x8FB0,
    0x8FB5, 0x9091, 0x9149, 0x91C6, 0x91CC, 0x91D1, 0x9577, 0x9580, 0x961C, 0x96B6, 0x96B9,
    0x96E8, 0x9751, 0x975E, 0x9762, 0x9769, 0x97CB, 0x97ED, 0x97F3, 0x9801, 0x98A8, 0x98DB,
    0x98DF, 0x9996, 0x9999, 0x99AC, 0x9AA8, 0x9AD8, 0x9ADF, 0x9B25, 0x9B2F]),
  (0x2FC0, 0x2FD5, [
    0x9B32, 0x9B3C, 0x9B5A, 0x9CE5, 0x9E75, 0x9E7F, 0x9EA5, 0x9EBB, 0x9EC3, 0x9ECD, 0x9ED1,
    0x9EF9, 0x9EFD, 0x9F0E, 0x9F13, 0x9F20, 0x9F3B, 0x9F4A, 0x9F52, 0x9F8D, 0x9F9C, 0x9FA0])]

/-- Sequences among symbols, below U+3000. -/
def symbolsSequence : Table (List Nat) := [
  (0x2017, 0x2017, [[0x20, 0x333]]),
  (0x2025, 0x2026, [[0x2E, 0x2E], [0x2E, 0x2E, 0x2E]]),
  (0x2033, 0x2034, [[0x2032, 0x2032], [0x2032, 0x2032, 0x2032]]),
  (0x2036, 0x2037, [[0x2035, 0x2035], [0x2035, 0x2035, 0x2035]]),
  (0x203C, 0x203C, [[0x21, 0x21]]),
  (0x203E, 0x203E, [[0x20, 0x305]]),
  (0x2047, 0x2049, [[0x3F, 0x3F], [0x3F, 0x21], [0x21, 0x3F]]),
  (0x2057, 0x2057, [[0x2032, 0x2032, 0x2032, 0x2032]]),
  (0x20A8, 0x20A8, [[0x52, 0x73]]),
  (0x2100, 0x2101, [[0x61, 0x2F, 0x63], [0x61, 0x2F, 0x73]]),
  (0x2103, 0x2103, [[0xB0, 0x43]]),
  (0x2105, 0x2106, [[0x63, 0x2F, 0x6F], [0x63, 0x2F, 0x75]]),
  (0x2109, 0x2109, [[0xB0, 0x46]]),
  (0x2116, 0x2116, [[0x4E, 0x6F]]),
  (0x2120, 0x2122, [[0x53, 0x4D], [0x54, 0x45, 0x4C], [0x54, 0x4D]]),
  (0x212B, 0x212B, [[0x41, 0x30A]]),
  (0x213B, 0x213B, [[0x46, 0x41, 0x58]]),
  (0x2150, 0x215F, [
    [0x31, 0x2044, 0x37], [0x31, 0x2044, 0x39], [0x31, 0x2044, 0x31, 0x30], [0x31, 0x2044, 0x33],
    [0x32, 0x2044, 0x33], [0x31, 0x2044, 0x35], [0x32, 0x2044, 0x35], [0x33, 0x2044, 0x35],
    [0x34, 0x2044, 0x35], [0x31, 0x2044, 0x36], [0x35, 0x2044, 0x36], [0x31, 0x2044, 0x38],
    [0x33, 0x2044, 0x38], [0x35, 0x2044, 0x38], [0x37, 0x2044, 0x38], [0x31, 0x2044]]),
  (0x2161, 0x2163, [[0x49, 0x49], [0x49, 0x49, 0x49], [0x49, 0x56]]),
  (0x2165, 0x2168, [[0x56, 0x49], [0x56, 0x49, 0x49], [0x56, 0x49, 0x49, 0x49], [0x49, 0x58]]),
  (0x216A, 0x216B, [[0x58, 0x49], [0x58, 0x49, 0x49]]),
  (0x2171, 0x2173, [[0x69, 0x69], [0x69, 0x69, 0x69], [0x69, 0x76]]),
  (0x2175, 0x2178, [[0x76, 0x69], [0x76, 0x69, 0x69], [0x76, 0x69, 0x69, 0x69], [0x69, 0x78]]),
  (0x217A, 0x217B, [[0x78, 0x69], [0x78, 0x69, 0x69]]),
  (0x2189, 0x2189, [[0x30, 0x2044, 0x33]]),
  (0x219A, 0x219B, [[0x2190, 0x338], [0x2192, 0x338]]),
  (0x21AE, 0x21AE, [[0x2194, 0x338]]),
  (0x21CD, 0x21CF, [[0x21D0, 0x338], [0x21D4, 0x338], [0x21D2, 0x338]]),
  (0x2204, 0x2204, [[0x2203, 0x338]]),
  (0x2209, 0x2209, [[0x2208, 0x338]]),
  (0x220C, 0x220C, [[0x220B, 0x338]]),
  (0x2224, 0x2224, [[0x2223, 0x338]]),
  (0x2226, 0x2226, [[0x2225, 0x338]]),
  (0x222C, 0x222D, [[0x222B, 0x222B], [0x222B, 0x222B, 0x222B]]),
  (0x222F, 0x2230, [[0x222E, 0x222E], [0x222E, 0x222E, 0x222E]]),
  (0x2241, 0x2241, [[0x223C, 0x338]]),
  (0x2244, 0x2244, [[0x2243, 0x338]]),
  (0x2247, 0x2247, [[0x2245, 0x338]]),
  (0x2249, 0x2249, [[0x2248, 0x338]]),
  (0x2260, 0x2260, [[0x3D, 0x338]]),
  (0x2262, 0x2262, [[0x2261, 0x338]]),
  (0x226D, 0x2271, [
    [0x224D, 0x338], [0x3C, 0x338], [0x3E, 0x338], [0x2264, 0x338], [0x2265, 0x338]]),
  (0x2274, 0x2275, [[0x2272, 0x338], [0x2273, 0x338]]),
  (0x2278, 0x2279, [[0x2276, 0x338], [0x2277, 0x338]]),
  (0x2280, 0x2281, [[0x227A, 0x338], [0x227B, 0x338]]),
  (0x2284, 0x2285, [[0x2282, 0x338], [0x2283, 0x338]]),
  (0x2288, 0x2289, [[0x2286, 0x338], [0x2287, 0x338]]),
  (0x22AC, 0x22AF, [[0x22A2, 0x338], [0x22A8, 0x338], [0x22A9, 0x338], [0x22AB, 0x338]]),
  (0x22E0, 0x22E3, [[0x227C, 0x338], [0x227D, 0x338], [0x2291, 0x338], [0x2292, 0x338]]),
  (0x22EA, 0x22ED, [[0x22B2, 0x338], [0x22B3, 0x338], [0x22B4, 0x338], [0x22B5, 0x338]]),
  (0x2469, 0x2498, [
    [0x31, 0x30], [0x31, 0x31], [0x31, 0x32], [0x31, 0x33], [0x31, 0x34], [0x31, 0x35],
    [0x31, 0x36], [0x31, 0x37], [0x31, 0x38], [0x31, 0x39], [0x32, 0x30], [0x28, 0x31, 0x29],
    [0x28, 0x32, 0x29], [0x28, 0x33, 0x29], [0x28, 0x34, 0x29], [0x28, 0x35, 0x29],
    [0x28, 0x36, 0x29], [0x28, 0x37, 0x29], [0x28, 0x38, 0x29], [0x28, 0x39, 0x29],
    [0x28, 0x31, 0x30, 0x29], [0x28, 0x31, 0x31, 0x29], [0x28, 0x31, 0x32, 0x29],
    [0x28, 0x31, 0x33, 0x29], [0x28, 0x31, 0x34, 0x29], [0x28, 0x31, 0x35, 0x29],
    [0x28, 0x31, 0x36, 0x29], [0x28, 0x31, 0x37, 0x29], [0x28, 0x31, 0x38, 0x29],
    [0x28, 0x31, 0x39, 0x29], [0x28, 0x32, 0x30, 0x29], [0x31, 0x2E], [0x32, 0x2E], [0x33, 0x2E],
    [0x34, 0x2E], [0x35, 0x2E], [0x36, 0x2E], [0x37, 0x2E], [0x38, 0x2E], [0x39, 0x2E],
    [0x31, 0x30, 0x2E], [0x31, 0x31, 0x2E], [0x31, 0x32, 0x2E], [0x31, 0x33, 0x2E],
    [0x31, 0x34, 0x2E], [0x31, 0x35, 0x2E], [0x31, 0x36, 0x2E], [0x31, 0x37, 0x2E]]),
  (0x2499, 0x24B5, [
    [0x31, 0x38, 0x2E], [0x31, 0x39, 0x2E], [0x32, 0x30, 0x2E], [0x28, 0x61, 0x29],
    [0x28, 0x62, 0x29], [0x28, 0x63, 0x29], [0x28, 0x64, 0x29], [0x28, 0x65, 0x29],
    [0x28, 0x66, 0x29], [0x28, 0x67, 0x29], [0x28, 0x68, 0x29], [0x28, 0x69, 0x29],
    [0x28, 0x6A, 0x29], [0x28, 0x6B, 0x29], [0x28, 0x6C, 0x29], [0x28, 0x6D, 0x29],
    [0x28, 0x6E, 0x29], [0x28, 0x6F, 0x29], [0x28, 0x70, 0x29], [0x28, 0x71, 0x29],
    [0x28, 0x72, 0x29], [0x28, 0x73, 0x29], [0x28, 0x74, 0x29], [0x28, 0x75, 0x29],
    [0x28, 0x76, 0x29], [0x28, 0x77, 0x29], [0x28, 0x78, 0x29], [0x28, 0x79, 0x29],
    [0x28, 0x7A, 0x29]]),
  (0x2A0C, 0x2A0C, [[0x222B, 0x222B, 0x222B, 0x222B]]),
  (0x2A74, 0x2A76, [[0x3A, 0x3A, 0x3D], [0x3D, 0x3D], [0x3D, 0x3D, 0x3D]]),
  (0x2ADC, 0x2ADC, [[0x2ADD, 0x338]])]

/-- Single characters among syllabaries and enclosed characters, below U+F900. -/
def kanaSingle : Table Nat := [
  (0x3000, 0x3000, [0x20]),
  (0x3036, 0x3036, [0x3012]),
  (0x3038, 0x303A, [0x5341, 0x5344, 0x5345]),
  (0x3131, 0x3170, [
    0x1100, 0x1101, 0x11AA, 0x1102, 0x11AC, 0x11AD, 0x1103, 0x1104, 0x1105, 0x11B0, 0x11B1,
    0x11B2, 0x11B3, 0x11B4, 0x11B5, 0x111A, 0x1106, 0x1107, 0x1108, 0x1121, 0x1109, 0x110A,
    0x110B, 0x110C, 0x110D, 0x110E, 0x110F, 0x1110, 0x1111, 0x1112, 0x1161, 0x1162, 0x1163,
    0x1164, 0x1165, 0x1166, 0x1167, 0x1168, 0x1169, 0x116A, 0x116B, 0x116C, 0x116D, 0x116E,
    0x116F, 0x1170, 0x1171, 0x1172, 0x1173, 0x1174, 0x1175, 0x1160, 0x1114, 0x1115, 0x11C7,
    0x11C8, 0x11CC, 0x11CE, 0x11D3, 0x11D7, 0x11D9, 0x111C, 0x11DD, 0x11DF]),
  (0x3171, 0x318E, [
    0x111D, 0x111E, 0x1120, 0x1122, 0x1123, 0x1127, 0x1129, 0x112B, 0x112C, 0x112D, 0x112E,
    0x112F, 0x1132, 0x1136, 0x1140, 0x1147, 0x114C, 0x11F1, 0x11F2, 0x1157, 0x1158, 0x1159,
    0x1184, 0x1185, 0x1188, 0x1191, 0x1192, 0x1194, 0x119E, 0x11A1]),
  (0x3192, 0x319F, [
    0x4E00, 0x4E8C, 0x4E09, 0x56DB, 0x4E0A, 0x4E2D, 0x4E0B, 0x7532, 0x4E59, 0x4E19, 0x4E01,
    0x5929, 0x5730, 0x4EBA]),
  (0x3244, 0x3247, [0x554F, 0x5E7C, 0x6587, 0x7B8F]),
  (0x3260, 0x326D, [
    0x1100, 0x1102, 0x1103, 0x1105, 0x1106, 0x1107, 0x1109, 0x110B, 0x110C, 0x110E, 0x110F,
    0x1110, 0x1111, 0x1112]),
  (0x3280, 0x32B0, [
    0x4E00, 0x4E8C, 0x4E09, 0x56DB, 0x4E94, 0x516D, 0x4E03, 0x516B, 0x4E5D, 0x5341, 0x6708,
    0x706B, 0x6C34, 0x6728, 0x91D1, 0x571F, 0x65E5, 0x682A, 0x6709, 0x793E, 0x540D, 0x7279,
    0x8CA1, 0x795D, 0x52B4, 0x79D8, 0x7537, 0x5973, 0x9069, 0x512A, 0x5370, 0x6CE8, 0x9805,
    0x4F11, 0x5199, 0x6B63, 0x4E0A, 0x4E2D, 0x4E0B, 0x5DE6, 0x53F3, 0x533B, 0x5B97, 0x5B66,
    0x76E3, 0x4F01, 0x8CC7, 0x5354, 0x591C]),
  (0x32D0, 0x32FE, [
    0x30A2, 0x30A4, 0x30A6, 0x30A8, 0x30AA, 0x30AB, 0x30AD, 0x30AF, 0x30B1, 0x30B3, 0x30B5,
    0x30B7, 0x30B9, 0x30BB, 0x30BD, 0x30BF, 0x30C1, 0x30C4, 0x30C6, 0x30C8, 0x30CA, 0x30CB,
    0x30CC, 0x30CD, 0x30CE, 0x30CF, 0x30D2, 0x30D5, 0x30D8, 0x30DB, 0x30DE, 0x30DF, 0x30E0,
    0x30E1, 0x30E2, 0x30E4, 0x30E6, 0x30E8, 0x30E9, 0x30EA, 0x30EB, 0x30EC, 0x30ED, 0x30EF,
    0x30F0, 0x30F1, 0x30F2]),
  (0xA69C, 0xA69D, [0x44A, 0x44C]),
  (0xA770, 0xA770, [0xA76F]),
  (0xA7F2, 0xA7F4, [0x43, 0x46, 0x51]),
  (0xA7F8, 0xA7F9, [0x126, 0x153]),
  (0xAB5C, 0xAB5F, [0xA727, 0xAB37, 0x26B, 0xAB52]),
  (0xAB69, 0xAB69, [0x28D])]

/-- Sequences among syllabaries and enclosed characters, below U+F900. -/
def kanaSequence : Table (List Nat) := [
  (0x304C, 0x304C, [[0x304B, 0x3099]]),
  (0x304E, 0x304E, [[0x304D, 0x3099]]),
  (0x3050, 0x3050, [[0x304F, 0x3099]]),
  (0x3052, 0x3052, [[0x3051, 0x3099]]),
  (0x3054, 0x3054, [[0x3053, 0x3099]]),
  (0x3056, 0x3056, [[0x3055, 0x3099]]),
  (0x3058, 0x3058, [[0x3057, 0x3099]]),
  (0x305A, 0x305A, [[0x3059, 0x3099]]),
  (0x305C, 0x305C, [[0x305B, 0x3099]]),
  (0x305E, 0x305E, [[0x305D, 0x3099]]),
  (0x3060, 0x3060, [[0x305F, 0x3099]]),
  (0x3062, 0x3062, [[0x3061, 0x3099]]),
  (0x3065, 0x3065, [[0x3064, 0x3099]]),
  (0x3067, 0x3067, [[0x3066, 0x3099]]),
  (0x3069, 0x3069, [[0x3068, 0x3099]]),
  (0x3070, 0x3071, [[0x306F, 0x3099], [0x306F, 0x309A]]),
  (0x3073, 0x3074, [[0x3072, 0x3099], [0x3072, 0x309A]]),
  (0x3076, 0x3077, [[0x3075, 0x3099], [0x3075, 0x309A]]),
  (0x3079, 0x307A, [[0x3078, 0x3099], [0x3078, 0x309A]]),
  (0x307C, 0x307D, [[0x307B, 0x3099], [0x307B, 0x309A]]),
  (0x3094, 0x3094, [[0x3046, 0x3099]]),
  (0x309B, 0x309C, [[0x20, 0x3099], [0x20, 0x309A]]),
  (0x309E, 0x309F, [[0x309D, 0x3099], [0x3088, 0x308A]]),
  (0x30AC, 0x30AC, [[0x30AB, 0x3099]]),
  (0x30AE, 0x30AE, [[0x30AD, 0x3099]]),
  (0x30B0, 0x30B0, [[0x30AF, 0x3099]]),
  (0x30B2, 0x30B2, [[0x30B1, 0x3099]]),
  (0x30B4, 0x30B4, [[0x30B3, 0x3099]]),
  (0x30B6, 0x30B6, [[0x30B5, 0x3099]]),
  (0x30B8, 0x30B8, [[0x30B7, 0x3099]]),
  (0x30BA, 0x30BA, [[0x30B9, 0x3099]]),
  (0x30BC, 0x30BC, [[0x30BB, 0x3099]]),
  (0x30BE, 0x30BE, [[0x30BD, 0x3099]]),
  (0x30C0, 0x30C0, [[0x30BF, 0x3099]]),
  (0x30C2, 0x30C2, [[0x30C1, 0x3099]]),
  (0x30C5, 0x30C5, [[0x30C4, 0x3099]]),
  (0x30C7, 0x30C7, [[0x30C6, 0x3099]]),
  (0x30C9, 0x30C9, [[0x30C8, 0x3099]]),
  (0x30D0, 0x30D1, [[0x30CF, 0x3099], [0x30CF, 0x309A]]),
  (0x30D3, 0x30D4, [[0x30D2, 0x3099], [0x30D2, 0x309A]]),
  (0x30D6, 0x30D7, [[0x30D5, 0x3099], [0x30D5, 0x309A]]),
  (0x30D9, 0x30DA, [[0x30D8, 0x3099], [0x30D8, 0x309A]]),
  (0x30DC, 0x30DD, [[0x30DB, 0x3099], [0x30DB, 0x309A]]),
  (0x30F4, 0x30F4, [[0x30A6, 0x3099]]),
  (0x30F7, 0x30FA, [[0x30EF, 0x3099], [0x30F0, 0x3099], [0x30F1, 0x3099], [0x30F2, 0x3099]]),
  (0x30FE, 0x30FF, [[0x30FD, 0x3099], [0x30B3, 0x30C8]]),
  (0x3200, 0x321E, [
    [0x28, 0x1100, 0x29], [0x28, 0x1102, 0x29], [0x28, 0x1103, 0x29], [0x28, 0x1105, 0x29],
    [0x28, 0x1106, 0x29], [0x28, 0x1107, 0x29], [0x28, 0x1109, 0x29], [0x28, 0x110B, 0x29],
    [0x28, 0x110C, 0x29], [0x28, 0x110E, 0x29], [0x28, 0x110F, 0x29], [0x28, 0x1110, 0x29],
    [0x28, 0x1111, 0x29], [0x28, 0x1112, 0x29], [0x28, 0x1100, 0x1161, 0x29],
    [0x28, 0x1102, 0x1161, 0x29], [0x28, 0x1103, 0x1161, 0x29], [0x28, 0x1105, 0x1161, 0x29],
    [0x28, 0x1106, 0x1161, 0x29], [0x28, 0x1107, 0x1161, 0x29], [0x28, 0x1109, 0x1161, 0x29],
    [0x28, 0x110B, 0x1161, 0x29], [0x28, 0x110C, 0x1161, 0x29], [0x28, 0x110E, 0x1161, 0x29],
    [0x28, 0x110F, 0x1161, 0x29], [0x28, 0x1110, 0x1161, 0x29], [0x28, 0x1111, 0x1161, 0x29],
    [0x28, 0x1112, 0x1161, 0x29], [0x28, 0x110C, 0x116E, 0x29],
    [0x28, 0x110B, 0x1169, 0x110C, 0x1165, 0x11AB, 0x29],
    [0x28, 0x110B, 0x1169, 0x1112, 0x116E, 0x29]]),
  (0x3220, 0x3243, [
    [0x28, 0x4E00, 0x29], [0x28, 0x4E8C, 0x29], [0x28, 0x4E09, 0x29], [0x28, 0x56DB, 0x29],
    [0x28, 0x4E94, 0x29], [0x28, 0x516D, 0x29], [0x28, 0x4E03, 0x29], [0x28, 0x516B, 0x29],
    [0x28, 0x4E5D, 0x29], [0x28, 0x5341, 0x29], [0x28, 0x6708, 0x29], [0x28, 0x706B, 0x29],
    [0x28, 0x6C34, 0x29], [0x28, 0x6728, 0x29], [0x28, 0x91D1, 0x29], [0x28, 0x571F, 0x29],
    [0x28, 0x65E5, 0x29], [0x28, 0x682A, 0x29], [0x28, 0x6709, 0x29], [0x28, 0x793E, 0x29],
    [0x28, 0x540D, 0x29], [0x28, 0x7279, 0x29], [0x28, 0x8CA1, 0x29], [0x28, 0x795D, 0x29],
    [0x28, 0x52B4, 0x29], [0x28, 0x4EE3, 0x29], [0x28, 0x547C, 0x29], [0x28, 0x5B66, 0x29],
    [0x28, 0x76E3, 0x29], [0x28, 0x4F01, 0x29], [0x28, 0x8CC7, 0x29], [0x28, 0x5354, 0x29],
    [0x28, 0x796D, 0x29], [0x28, 0x4F11, 0x29], [0x28, 0x81EA, 0x29], [0x28, 0x81F3, 0x29]]),
  (0x3250, 0x325F, [
    [0x50, 0x54, 0x45], [0x32, 0x31], [0x32, 0x32], [0x32, 0x33], [0x32, 0x34], [0x32, 0x35],
    [0x32, 0x36], [0x32, 0x37], [0x32, 0x38], [0x32, 0x39], [0x33, 0x30], [0x33, 0x31],
    [0x33, 0x32], [0x33, 0x33], [0x33, 0x34], [0x33, 0x35]]),
  (0x326E, 0x327E, [
    [0x1100, 0x1161], [0x1102, 0x1161], [0x1103, 0x1161], [0x1105, 0x1161], [0x1106, 0x1161],
    [0x1107, 0x1161], [0x1109, 0x1161], [0x110B, 0x1161], [0x110C, 0x1161], [0x110E, 0x1161],
    [0x110F, 0x1161], [0x1110, 0x1161], [0x1111, 0x1161], [0x1112, 0x1161],
    [0x110E, 0x1161, 0x11B7, 0x1100, 0x1169], [0x110C, 0x116E, 0x110B, 0x1174], [0x110B, 0x116E]]),
  (0x32B1, 0x32CF, [
    [0x33, 0x36], [0x33, 0x37], [0x33, 0x38], [0x33, 0x39], [0x34, 0x30], [0x34, 0x31],
    [0x34, 0x32], [0x34, 0x33], [0x34, 0x34], [0x34, 0x35], [0x34, 0x36], [0x34, 0x37],
    [0x34, 0x38], [0x34, 0x39], [0x35, 0x30], [0x31, 0x6708], [0x32, 0x6708], [0x33, 0x6708],
    [0x34, 0x6708], [0x35, 0x6708], [0x36, 0x6708], [0x37, 0x6708], [0x38, 0x6708],
    [0x39, 0x6708], [0x31, 0x30, 0x6708], [0x31, 0x31, 0x6708], [0x31, 0x32, 0x6708],
    [0x48, 0x67], [0x65, 0x72, 0x67], [0x65, 0x56], [0x4C, 0x54, 0x44]]),
  (0x32FF, 0x332E, [
    [0x4EE4, 0x548C], [0x30A2, 0x30CF, 0x309A, 0x30FC, 0x30C8], [0x30A2, 0x30EB, 0x30D5, 0x30A1],
    [0x30A2, 0x30F3, 0x30D8, 0x309A, 0x30A2], [0x30A2, 0x30FC, 0x30EB],
    [0x30A4, 0x30CB, 0x30F3, 0x30AF, 0x3099], [0x30A4, 0x30F3, 0x30C1], [0x30A6, 0x30A9, 0x30F3],
    [0x30A8, 0x30B9, 0x30AF, 0x30FC, 0x30C8, 0x3099], [0x30A8, 0x30FC, 0x30AB, 0x30FC],
    [0x30AA, 0x30F3, 0x30B9], [0x30AA, 0x30FC, 0x30E0], [0x30AB, 0x30A4, 0x30EA],
    [0x30AB, 0x30E9, 0x30C3, 0x30C8], [0x30AB, 0x30ED, 0x30EA, 0x30FC],
    [0x30AB, 0x3099, 0x30ED, 0x30F3], [0x30AB, 0x3099, 0x30F3, 0x30DE],
    [0x30AD, 0x3099, 0x30AB, 0x3099], [0x30AD, 0x3099, 0x30CB, 0x30FC],
    [0x30AD, 0x30E5, 0x30EA, 0x30FC], [0x30AD, 0x3099, 0x30EB, 0x30BF, 0x3099, 0x30FC],
    [0x30AD, 0x30ED], [0x30AD, 0x30ED, 0x30AF, 0x3099, 0x30E9, 0x30E0],
    [0x30AD, 0x30ED, 0x30E1, 0x30FC, 0x30C8, 0x30EB], [0x30AD, 0x30ED, 0x30EF, 0x30C3, 0x30C8],
    [0x30AF, 0x3099, 0x30E9, 0x30E0], [0x30AF, 0x3099, 0x30E9, 0x30E0, 0x30C8, 0x30F3],
    [0x30AF, 0x30EB, 0x30BB, 0x3099, 0x30A4, 0x30ED], [0x30AF, 0x30ED, 0x30FC, 0x30CD],
    [0x30B1, 0x30FC, 0x30B9], [0x30B3, 0x30EB, 0x30CA], [0x30B3, 0x30FC, 0x30DB, 0x309A],
    [0x30B5, 0x30A4, 0x30AF, 0x30EB], [0x30B5, 0x30F3, 0x30C1, 0x30FC, 0x30E0],
    [0x30B7, 0x30EA, 0x30F3, 0x30AF, 0x3099], [0x30BB, 0x30F3, 0x30C1], [0x30BB, 0x30F3, 0x30C8],
    [0x30BF, 0x3099, 0x30FC, 0x30B9], [0x30C6, 0x3099, 0x30B7], [0x30C8, 0x3099, 0x30EB],
    [0x30C8, 0x30F3], [0x30CA, 0x30CE], [0x30CE, 0x30C3, 0x30C8], [0x30CF, 0x30A4, 0x30C4],
    [0x30CF, 0x309A, 0x30FC, 0x30BB, 0x30F3, 0x30C8], [0x30CF, 0x309A, 0x30FC, 0x30C4],
    [0x30CF, 0x3099, 0x30FC, 0x30EC, 0x30EB], [0x30D2, 0x309A, 0x30A2, 0x30B9, 0x30C8, 0x30EB]]),
  (0x332F, 0x335E, [
    [0x30D2, 0x309A, 0x30AF, 0x30EB], [0x30D2, 0x309A, 0x30B3], [0x30D2, 0x3099, 0x30EB],
    [0x30D5, 0x30A1, 0x30E9, 0x30C3, 0x30C8, 0x3099], [0x30D5, 0x30A3, 0x30FC, 0x30C8],
    [0x30D5, 0x3099, 0x30C3, 0x30B7, 0x30A7, 0x30EB], [0x30D5, 0x30E9, 0x30F3],
    [0x30D8, 0x30AF, 0x30BF, 0x30FC, 0x30EB], [0x30D8, 0x309A, 0x30BD],
    [0x30D8, 0x309A, 0x30CB, 0x30D2], [0x30D8, 0x30EB, 0x30C4], [0x30D8, 0x309A, 0x30F3, 0x30B9],
    [0x30D8, 0x309A, 0x30FC, 0x30B7, 0x3099], [0x30D8, 0x3099, 0x30FC, 0x30BF],
    [0x30DB, 0x309A, 0x30A4, 0x30F3, 0x30C8], [0x30DB, 0x3099, 0x30EB, 0x30C8], [0x30DB, 0x30F3],
    [0x30DB, 0x309A, 0x30F3, 0x30C8, 0x3099], [0x30DB, 0x30FC, 0x30EB], [0x30DB, 0x30FC, 0x30F3],
    [0x30DE, 0x30A4, 0x30AF, 0x30ED], [0x30DE, 0x30A4, 0x30EB], [0x30DE, 0x30C3, 0x30CF],
    [0x30DE, 0x30EB, 0x30AF], [0x30DE, 0x30F3, 0x30B7, 0x30E7, 0x30F3],
    [0x30DF, 0x30AF, 0x30ED, 0x30F3], [0x30DF, 0x30EA],
    [0x30DF, 0x30EA, 0x30CF, 0x3099, 0x30FC, 0x30EB], [0x30E1, 0x30AB, 0x3099],
    [0x30E1, 0x30AB, 0x3099, 0x30C8, 0x30F3], [0x30E1, 0x30FC, 0x30C8, 0x30EB],
    [0x30E4, 0x30FC, 0x30C8, 0x3099], [0x30E4, 0x30FC, 0x30EB], [0x30E6, 0x30A2, 0x30F3],
    [0x30EA, 0x30C3, 0x30C8, 0x30EB], [0x30EA, 0x30E9], [0x30EB, 0x30D2, 0x309A, 0x30FC],
    [0x30EB, 0x30FC, 0x30D5, 0x3099, 0x30EB], [0x30EC, 0x30E0],
    [0x30EC, 0x30F3, 0x30C8, 0x30B1, 0x3099, 0x30F3], [0x30EF, 0x30C3, 0x30C8], [0x30, 0x70B9],
    [0x31, 0x70B9], [0x32, 0x70B9], [0x33, 0x70B9], [0x34, 0x70B9], [0x35, 0x70B9],
    [0x36, 0x70B9]]),
  (0x335F, 0x338E, [
    [0x37, 0x70B9], [0x38, 0x70B9], [0x39, 0x70B9], [0x31, 0x30, 0x70B9], [0x31, 0x31, 0x70B9],
    [0x31, 0x32, 0x70B9], [0x31, 0x33, 0x70B9], [0x31, 0x34, 0x70B9], [0x31, 0x35, 0x70B9],
    [0x31, 0x36, 0x70B9], [0x31, 0x37, 0x70B9], [0x31, 0x38, 0x70B9], [0x31, 0x39, 0x70B9],
    [0x32, 0x30, 0x70B9], [0x32, 0x31, 0x70B9], [0x32, 0x32, 0x70B9], [0x32, 0x33, 0x70B9],
    [0x32, 0x34, 0x70B9], [0x68, 0x50, 0x61], [0x64, 0x61], [0x41, 0x55], [0x62, 0x61, 0x72],
    [0x6F, 0x56], [0x70, 0x63], [0x64, 0x6D], [0x64, 0x6D, 0x32], [0x64, 0x6D, 0x33],
    [0x49, 0x55], [0x5E73, 0x6210], [0x662D, 0x548C], [0x5927, 0x6B63], [0x660E, 0x6CBB],
    [0x682A, 0x5F0F, 0x4F1A, 0x793E], [0x70, 0x41], [0x6E, 0x41], [0x3BC, 0x41], [0x6D, 0x41],
    [0x6B, 0x41], [0x4B, 0x42], [0x4D, 0x42], [0x47, 0x42], [0x63, 0x61, 0x6C],
    [0x6B, 0x63, 0x61, 0x6C], [0x70, 0x46], [0x6E, 0x46], [0x3BC, 0x46], [0x3BC, 0x67],
    [0x6D, 0x67]]),
  (0x338F, 0x33BE, [
    [0x6B, 0x67], [0x48, 0x7A], [0x6B, 0x48, 0x7A], [0x4D, 0x48, 0x7A], [0x47, 0x48, 0x7A],
    [0x54, 0x48, 0x7A], [0x3BC, 0x6C], [0x6D, 0x6C], [0x64, 0x6C], [0x6B, 0x6C], [0x66, 0x6D],
    [0x6E, 0x6D], [0x3BC, 0x6D], [0x6D, 0x6D], [0x63, 0x6D], [0x6B, 0x6D], [0x6D, 0x6D, 0x32],
    [0x63, 0x6D, 0x32], [0x6D, 0x32], [0x6B, 0x6D, 0x32], [0x6D, 0x6D, 0x33], [0x63, 0x6D, 0x33],
    [0x6D, 0x33], [0x6B, 0x6D, 0x33], [0x6D, 0x2215, 0x73], [0x6D, 0x2215, 0x73, 0x32],
    [0x50, 0x61], [0x6B, 0x50, 0x61], [0x4D, 0x50, 0x61], [0x47, 0x50, 0x61], [0x72, 0x61, 0x64],
    [0x72, 0x61, 0x64, 0x2215, 0x73], [0x72, 0x61, 0x64, 0x2215, 0x73, 0x32], [0x70, 0x73],
    [0x6E, 0x73], [0x3BC, 0x73], [0x6D, 0x73], [0x70, 0x56], [0x6E, 0x56], [0x3BC, 0x56],
    [0x6D, 0x56], [0x6B, 0x56], [0x4D, 0x56], [0x70, 0x57], [0x6E, 0x57], [0x3BC, 0x57],
    [0x6D, 0x57], [0x6B, 0x57]]),
  (0x33BF, 0x33EE, [
    [0x4D, 0x57], [0x6B, 0x3A9], [0x4D, 0x3A9], [0x61, 0x2E, 0x6D, 0x2E], [0x42, 0x71],
    [0x63, 0x63], [0x63, 0x64], [0x43, 0x2215, 0x6B, 0x67], [0x43, 0x6F, 0x2E], [0x64, 0x42],
    [0x47, 0x79], [0x68, 0x61], [0x48, 0x50], [0x69, 0x6E], [0x4B, 0x4B], [0x4B, 0x4D],
    [0x6B, 0x74], [0x6C, 0x6D], [0x6C, 0x6E], [0x6C, 0x6F, 0x67], [0x6C, 0x78], [0x6D, 0x62],
    [0x6D, 0x69, 0x6C], [0x6D, 0x6F, 0x6C], [0x50, 0x48], [0x70, 0x2E, 0x6D, 0x2E],
    [0x50, 0x50, 0x4D], [0x50, 0x52], [0x73, 0x72], [0x53, 0x76], [0x57, 0x62],
    [0x56, 0x2215, 0x6D], [0x41, 0x2215, 0x6D], [0x31, 0x65E5], [0x32, 0x65E5], [0x33, 0x65E5],
    [0x34, 0x65E5], [0x35, 0x65E5], [0x36, 0x65E5], [0x37, 0x65E5], [0x38, 0x65E5],
    [0x39, 0x65E5], [0x31, 0x30, 0x65E5], [0x31, 0x31, 0x65E5], [0x31, 0x32, 0x65E5],
    [0x31, 0x33, 0x65E5], [0x31, 0x34, 0x65E5], [0x31, 0x35, 0x65E5]]),
  (0x33EF, 0x33FF, [
    [0x31, 0x36, 0x65E5], [0x31, 0x37, 0x65E5], [0x31, 0x38, 0x65E5], [0x31, 0x39, 0x65E5],
    [0x32, 0x30, 0x65E5], [0x32, 0x31, 0x65E5], [0x32, 0x32, 0x65E5], [0x32, 0x33, 0x65E5],
    [0x32, 0x34, 0x65E5], [0x32, 0x35, 0x65E5], [0x32, 0x36, 0x65E5], [0x32, 0x37, 0x65E5],
    [0x32, 0x38, 0x65E5], [0x32, 0x39, 0x65E5], [0x33, 0x30, 0x65E5], [0x33, 0x31, 0x65E5],
    [0x67, 0x61, 0x6C]])]

end Registrar.Text.Decomposition
