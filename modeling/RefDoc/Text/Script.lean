import RefDoc.Text.Ranges

/-!
# Scripts

The script of every character by its name in lower case without separators, and the short names of
scripts.
-/

namespace RefDoc.Text

def scriptSteps1 : Steps String := #[
  (0x0, "common"), (0x41, "latin"), (0x5B, "common"), (0x61, "latin"), (0x7B, "common"),
  (0xAA, "latin"), (0xAB, "common"), (0xBA, "latin"), (0xBB, "common"), (0xC0, "latin"),
  (0xD7, "common"), (0xD8, "latin"), (0xF7, "common"), (0xF8, "latin"), (0x2B9, "common"),
  (0x2E0, "latin"), (0x2E5, "common"), (0x2EA, "bopomofo"), (0x2EC, "common"),
  (0x300, "inherited"), (0x370, "greek"), (0x374, "common"), (0x375, "greek"), (0x378, "unknown"),
  (0x37A, "greek"), (0x37E, "common"), (0x37F, "greek"), (0x380, "unknown"), (0x384, "greek"),
  (0x385, "common"), (0x386, "greek"), (0x387, "common"), (0x388, "greek"), (0x38B, "unknown"),
  (0x38C, "greek"), (0x38D, "unknown"), (0x38E, "greek"), (0x3A2, "unknown"), (0x3A3, "greek"),
  (0x3E2, "coptic"), (0x3F0, "greek"), (0x400, "cyrillic"), (0x485, "inherited"),
  (0x487, "cyrillic"), (0x530, "unknown"), (0x531, "armenian"), (0x557, "unknown"),
  (0x559, "armenian"), (0x58B, "unknown"), (0x58D, "armenian"), (0x590, "unknown"),
  (0x591, "hebrew"), (0x5C8, "unknown"), (0x5D0, "hebrew"), (0x5EB, "unknown"), (0x5EF, "hebrew"),
  (0x5F5, "unknown"), (0x600, "arabic"), (0x605, "common"), (0x606, "arabic"), (0x60C, "common"),
  (0x60D, "arabic"), (0x61B, "common"), (0x61C, "arabic"), (0x61F, "common"), (0x620, "arabic"),
  (0x640, "common"), (0x641, "arabic"), (0x64B, "inherited"), (0x656, "arabic"),
  (0x670, "inherited"), (0x671, "arabic"), (0x6DD, "common"), (0x6DE, "arabic"),
  (0x700, "syriac"), (0x70E, "unknown"), (0x70F, "syriac"), (0x74B, "unknown"), (0x74D, "syriac"),
  (0x750, "arabic"), (0x780, "thaana"), (0x7B2, "unknown"), (0x7C0, "nko"), (0x7FB, "unknown"),
  (0x7FD, "nko"), (0x800, "samaritan"), (0x82E, "unknown"), (0x830, "samaritan"),
  (0x83F, "unknown"), (0x840, "mandaic"), (0x85C, "unknown"), (0x85E, "mandaic"),
  (0x85F, "unknown"), (0x860, "syriac"), (0x86B, "unknown"), (0x870, "arabic"),
  (0x88F, "unknown"), (0x890, "arabic"), (0x892, "unknown"), (0x898, "arabic"), (0x8E2, "common"),
  (0x8E3, "arabic"), (0x900, "devanagari"), (0x951, "inherited"), (0x955, "devanagari"),
  (0x964, "common"), (0x966, "devanagari"), (0x980, "bengali"), (0x984, "unknown"),
  (0x985, "bengali"), (0x98D, "unknown"), (0x98F, "bengali"), (0x991, "unknown"),
  (0x993, "bengali"), (0x9A9, "unknown"), (0x9AA, "bengali"), (0x9B1, "unknown"),
  (0x9B2, "bengali"), (0x9B3, "unknown"), (0x9B6, "bengali"), (0x9BA, "unknown"),
  (0x9BC, "bengali"), (0x9C5, "unknown"), (0x9C7, "bengali"), (0x9C9, "unknown"),
  (0x9CB, "bengali"), (0x9CF, "unknown"), (0x9D7, "bengali"), (0x9D8, "unknown"),
  (0x9DC, "bengali"), (0x9DE, "unknown"), (0x9DF, "bengali"), (0x9E4, "unknown"),
  (0x9E6, "bengali"), (0x9FF, "unknown"), (0xA01, "gurmukhi"), (0xA04, "unknown"),
  (0xA05, "gurmukhi"), (0xA0B, "unknown"), (0xA0F, "gurmukhi"), (0xA11, "unknown"),
  (0xA13, "gurmukhi"), (0xA29, "unknown"), (0xA2A, "gurmukhi"), (0xA31, "unknown"),
  (0xA32, "gurmukhi"), (0xA34, "unknown"), (0xA35, "gurmukhi"), (0xA37, "unknown"),
  (0xA38, "gurmukhi"), (0xA3A, "unknown"), (0xA3C, "gurmukhi"), (0xA3D, "unknown"),
  (0xA3E, "gurmukhi"), (0xA43, "unknown"), (0xA47, "gurmukhi"), (0xA49, "unknown"),
  (0xA4B, "gurmukhi"), (0xA4E, "unknown"), (0xA51, "gurmukhi"), (0xA52, "unknown"),
  (0xA59, "gurmukhi"), (0xA5D, "unknown"), (0xA5E, "gurmukhi"), (0xA5F, "unknown"),
  (0xA66, "gurmukhi"), (0xA77, "unknown"), (0xA81, "gujarati"), (0xA84, "unknown"),
  (0xA85, "gujarati"), (0xA8E, "unknown"), (0xA8F, "gujarati"), (0xA92, "unknown"),
  (0xA93, "gujarati"), (0xAA9, "unknown"), (0xAAA, "gujarati"), (0xAB1, "unknown"),
  (0xAB2, "gujarati"), (0xAB4, "unknown"), (0xAB5, "gujarati"), (0xABA, "unknown"),
  (0xABC, "gujarati"), (0xAC6, "unknown"), (0xAC7, "gujarati"), (0xACA, "unknown"),
  (0xACB, "gujarati"), (0xACE, "unknown"), (0xAD0, "gujarati"), (0xAD1, "unknown"),
  (0xAE0, "gujarati"), (0xAE4, "unknown"), (0xAE6, "gujarati"), (0xAF2, "unknown"),
  (0xAF9, "gujarati"), (0xB00, "unknown"), (0xB01, "oriya"), (0xB04, "unknown"), (0xB05, "oriya"),
  (0xB0D, "unknown"), (0xB0F, "oriya"), (0xB11, "unknown"), (0xB13, "oriya"), (0xB29, "unknown"),
  (0xB2A, "oriya"), (0xB31, "unknown"), (0xB32, "oriya"), (0xB34, "unknown"), (0xB35, "oriya"),
  (0xB3A, "unknown"), (0xB3C, "oriya"), (0xB45, "unknown"), (0xB47, "oriya"), (0xB49, "unknown"),
  (0xB4B, "oriya"), (0xB4E, "unknown"), (0xB55, "oriya"), (0xB58, "unknown"), (0xB5C, "oriya"),
  (0xB5E, "unknown"), (0xB5F, "oriya"), (0xB64, "unknown"), (0xB66, "oriya"), (0xB78, "unknown"),
  (0xB82, "tamil"), (0xB84, "unknown"), (0xB85, "tamil"), (0xB8B, "unknown"), (0xB8E, "tamil"),
  (0xB91, "unknown"), (0xB92, "tamil"), (0xB96, "unknown"), (0xB99, "tamil"), (0xB9B, "unknown"),
  (0xB9C, "tamil"), (0xB9D, "unknown"), (0xB9E, "tamil"), (0xBA0, "unknown"), (0xBA3, "tamil"),
  (0xBA5, "unknown"), (0xBA8, "tamil"), (0xBAB, "unknown"), (0xBAE, "tamil"), (0xBBA, "unknown"),
  (0xBBE, "tamil"), (0xBC3, "unknown"), (0xBC6, "tamil"), (0xBC9, "unknown"), (0xBCA, "tamil"),
  (0xBCE, "unknown"), (0xBD0, "tamil"), (0xBD1, "unknown"), (0xBD7, "tamil"), (0xBD8, "unknown"),
  (0xBE6, "tamil"), (0xBFB, "unknown"), (0xC00, "telugu"), (0xC0D, "unknown"), (0xC0E, "telugu"),
  (0xC11, "unknown"), (0xC12, "telugu"), (0xC29, "unknown"), (0xC2A, "telugu"),
  (0xC3A, "unknown"), (0xC3C, "telugu"), (0xC45, "unknown"), (0xC46, "telugu"),
  (0xC49, "unknown"), (0xC4A, "telugu"), (0xC4E, "unknown"), (0xC55, "telugu"),
  (0xC57, "unknown"), (0xC58, "telugu"), (0xC5B, "unknown"), (0xC5D, "telugu"),
  (0xC5E, "unknown"), (0xC60, "telugu"), (0xC64, "unknown"), (0xC66, "telugu"),
  (0xC70, "unknown"), (0xC77, "telugu"), (0xC80, "kannada"), (0xC8D, "unknown"),
  (0xC8E, "kannada"), (0xC91, "unknown"), (0xC92, "kannada"), (0xCA9, "unknown"),
  (0xCAA, "kannada"), (0xCB4, "unknown"), (0xCB5, "kannada"), (0xCBA, "unknown"),
  (0xCBC, "kannada"), (0xCC5, "unknown"), (0xCC6, "kannada"), (0xCC9, "unknown"),
  (0xCCA, "kannada"), (0xCCE, "unknown"), (0xCD5, "kannada"), (0xCD7, "unknown"),
  (0xCDD, "kannada"), (0xCDF, "unknown"), (0xCE0, "kannada"), (0xCE4, "unknown"),
  (0xCE6, "kannada"), (0xCF0, "unknown"), (0xCF1, "kannada"), (0xCF4, "unknown"),
  (0xD00, "malayalam"), (0xD0D, "unknown"), (0xD0E, "malayalam"), (0xD11, "unknown"),
  (0xD12, "malayalam"), (0xD45, "unknown"), (0xD46, "malayalam"), (0xD49, "unknown"),
  (0xD4A, "malayalam"), (0xD50, "unknown"), (0xD54, "malayalam"), (0xD64, "unknown"),
  (0xD66, "malayalam"), (0xD80, "unknown"), (0xD81, "sinhala"), (0xD84, "unknown"),
  (0xD85, "sinhala"), (0xD97, "unknown"), (0xD9A, "sinhala"), (0xDB2, "unknown"),
  (0xDB3, "sinhala"), (0xDBC, "unknown"), (0xDBD, "sinhala"), (0xDBE, "unknown"),
  (0xDC0, "sinhala"), (0xDC7, "unknown"), (0xDCA, "sinhala"), (0xDCB, "unknown"),
  (0xDCF, "sinhala"), (0xDD5, "unknown"), (0xDD6, "sinhala"), (0xDD7, "unknown"),
  (0xDD8, "sinhala"), (0xDE0, "unknown"), (0xDE6, "sinhala"), (0xDF0, "unknown"),
  (0xDF2, "sinhala"), (0xDF5, "unknown"), (0xE01, "thai"), (0xE3B, "unknown"), (0xE3F, "common"),
  (0xE40, "thai"), (0xE5C, "unknown"), (0xE81, "lao"), (0xE83, "unknown"), (0xE84, "lao"),
  (0xE85, "unknown"), (0xE86, "lao"), (0xE8B, "unknown"), (0xE8C, "lao"), (0xEA4, "unknown"),
  (0xEA5, "lao"), (0xEA6, "unknown"), (0xEA7, "lao"), (0xEBE, "unknown"), (0xEC0, "lao"),
  (0xEC5, "unknown"), (0xEC6, "lao"), (0xEC7, "unknown"), (0xEC8, "lao"), (0xECF, "unknown"),
  (0xED0, "lao"), (0xEDA, "unknown"), (0xEDC, "lao"), (0xEE0, "unknown"), (0xF00, "tibetan"),
  (0xF48, "unknown"), (0xF49, "tibetan"), (0xF6D, "unknown"), (0xF71, "tibetan"),
  (0xF98, "unknown"), (0xF99, "tibetan"), (0xFBD, "unknown"), (0xFBE, "tibetan"),
  (0xFCD, "unknown"), (0xFCE, "tibetan"), (0xFD5, "common"), (0xFD9, "tibetan"),
  (0xFDB, "unknown"), (0x1000, "myanmar"), (0x10A0, "georgian"), (0x10C6, "unknown"),
  (0x10C7, "georgian"), (0x10C8, "unknown"), (0x10CD, "georgian"), (0x10CE, "unknown"),
  (0x10D0, "georgian"), (0x10FB, "common"), (0x10FC, "georgian"), (0x1100, "hangul"),
  (0x1200, "ethiopic"), (0x1249, "unknown"), (0x124A, "ethiopic"), (0x124E, "unknown")]

def scriptSteps2 : Steps String := #[
  (0x1250, "ethiopic"), (0x1257, "unknown"), (0x1258, "ethiopic"), (0x1259, "unknown"),
  (0x125A, "ethiopic"), (0x125E, "unknown"), (0x1260, "ethiopic"), (0x1289, "unknown"),
  (0x128A, "ethiopic"), (0x128E, "unknown"), (0x1290, "ethiopic"), (0x12B1, "unknown"),
  (0x12B2, "ethiopic"), (0x12B6, "unknown"), (0x12B8, "ethiopic"), (0x12BF, "unknown"),
  (0x12C0, "ethiopic"), (0x12C1, "unknown"), (0x12C2, "ethiopic"), (0x12C6, "unknown"),
  (0x12C8, "ethiopic"), (0x12D7, "unknown"), (0x12D8, "ethiopic"), (0x1311, "unknown"),
  (0x1312, "ethiopic"), (0x1316, "unknown"), (0x1318, "ethiopic"), (0x135B, "unknown"),
  (0x135D, "ethiopic"), (0x137D, "unknown"), (0x1380, "ethiopic"), (0x139A, "unknown"),
  (0x13A0, "cherokee"), (0x13F6, "unknown"), (0x13F8, "cherokee"), (0x13FE, "unknown"),
  (0x1400, "canadianaboriginal"), (0x1680, "ogham"), (0x169D, "unknown"), (0x16A0, "runic"),
  (0x16EB, "common"), (0x16EE, "runic"), (0x16F9, "unknown"), (0x1700, "tagalog"),
  (0x1716, "unknown"), (0x171F, "tagalog"), (0x1720, "hanunoo"), (0x1735, "common"),
  (0x1737, "unknown"), (0x1740, "buhid"), (0x1754, "unknown"), (0x1760, "tagbanwa"),
  (0x176D, "unknown"), (0x176E, "tagbanwa"), (0x1771, "unknown"), (0x1772, "tagbanwa"),
  (0x1774, "unknown"), (0x1780, "khmer"), (0x17DE, "unknown"), (0x17E0, "khmer"),
  (0x17EA, "unknown"), (0x17F0, "khmer"), (0x17FA, "unknown"), (0x1800, "mongolian"),
  (0x1802, "common"), (0x1804, "mongolian"), (0x1805, "common"), (0x1806, "mongolian"),
  (0x181A, "unknown"), (0x1820, "mongolian"), (0x1879, "unknown"), (0x1880, "mongolian"),
  (0x18AB, "unknown"), (0x18B0, "canadianaboriginal"), (0x18F6, "unknown"), (0x1900, "limbu"),
  (0x191F, "unknown"), (0x1920, "limbu"), (0x192C, "unknown"), (0x1930, "limbu"),
  (0x193C, "unknown"), (0x1940, "limbu"), (0x1941, "unknown"), (0x1944, "limbu"),
  (0x1950, "taile"), (0x196E, "unknown"), (0x1970, "taile"), (0x1975, "unknown"),
  (0x1980, "newtailue"), (0x19AC, "unknown"), (0x19B0, "newtailue"), (0x19CA, "unknown"),
  (0x19D0, "newtailue"), (0x19DB, "unknown"), (0x19DE, "newtailue"), (0x19E0, "khmer"),
  (0x1A00, "buginese"), (0x1A1C, "unknown"), (0x1A1E, "buginese"), (0x1A20, "taitham"),
  (0x1A5F, "unknown"), (0x1A60, "taitham"), (0x1A7D, "unknown"), (0x1A7F, "taitham"),
  (0x1A8A, "unknown"), (0x1A90, "taitham"), (0x1A9A, "unknown"), (0x1AA0, "taitham"),
  (0x1AAE, "unknown"), (0x1AB0, "inherited"), (0x1ACF, "unknown"), (0x1B00, "balinese"),
  (0x1B4D, "unknown"), (0x1B50, "balinese"), (0x1B7F, "unknown"), (0x1B80, "sundanese"),
  (0x1BC0, "batak"), (0x1BF4, "unknown"), (0x1BFC, "batak"), (0x1C00, "lepcha"),
  (0x1C38, "unknown"), (0x1C3B, "lepcha"), (0x1C4A, "unknown"), (0x1C4D, "lepcha"),
  (0x1C50, "olchiki"), (0x1C80, "cyrillic"), (0x1C89, "unknown"), (0x1C90, "georgian"),
  (0x1CBB, "unknown"), (0x1CBD, "georgian"), (0x1CC0, "sundanese"), (0x1CC8, "unknown"),
  (0x1CD0, "inherited"), (0x1CD3, "common"), (0x1CD4, "inherited"), (0x1CE1, "common"),
  (0x1CE2, "inherited"), (0x1CE9, "common"), (0x1CED, "inherited"), (0x1CEE, "common"),
  (0x1CF4, "inherited"), (0x1CF5, "common"), (0x1CF8, "inherited"), (0x1CFA, "common"),
  (0x1CFB, "unknown"), (0x1D00, "latin"), (0x1D26, "greek"), (0x1D2B, "cyrillic"),
  (0x1D2C, "latin"), (0x1D5D, "greek"), (0x1D62, "latin"), (0x1D66, "greek"), (0x1D6B, "latin"),
  (0x1D78, "cyrillic"), (0x1D79, "latin"), (0x1DBF, "greek"), (0x1DC0, "inherited"),
  (0x1E00, "latin"), (0x1F00, "greek"), (0x1F16, "unknown"), (0x1F18, "greek"),
  (0x1F1E, "unknown"), (0x1F20, "greek"), (0x1F46, "unknown"), (0x1F48, "greek"),
  (0x1F4E, "unknown"), (0x1F50, "greek"), (0x1F58, "unknown"), (0x1F59, "greek"),
  (0x1F5A, "unknown"), (0x1F5B, "greek"), (0x1F5C, "unknown"), (0x1F5D, "greek"),
  (0x1F5E, "unknown"), (0x1F5F, "greek"), (0x1F7E, "unknown"), (0x1F80, "greek"),
  (0x1FB5, "unknown"), (0x1FB6, "greek"), (0x1FC5, "unknown"), (0x1FC6, "greek"),
  (0x1FD4, "unknown"), (0x1FD6, "greek"), (0x1FDC, "unknown"), (0x1FDD, "greek"),
  (0x1FF0, "unknown"), (0x1FF2, "greek"), (0x1FF5, "unknown"), (0x1FF6, "greek"),
  (0x1FFF, "unknown"), (0x2000, "common"), (0x200C, "inherited"), (0x200E, "common"),
  (0x2065, "unknown"), (0x2066, "common"), (0x2071, "latin"), (0x2072, "unknown"),
  (0x2074, "common"), (0x207F, "latin"), (0x2080, "common"), (0x208F, "unknown"),
  (0x2090, "latin"), (0x209D, "unknown"), (0x20A0, "common"), (0x20C1, "unknown"),
  (0x20D0, "inherited"), (0x20F1, "unknown"), (0x2100, "common"), (0x2126, "greek"),
  (0x2127, "common"), (0x212A, "latin"), (0x212C, "common"), (0x2132, "latin"),
  (0x2133, "common"), (0x214E, "latin"), (0x214F, "common"), (0x2160, "latin"),
  (0x2189, "common"), (0x218C, "unknown"), (0x2190, "common"), (0x2427, "unknown"),
  (0x2440, "common"), (0x244B, "unknown"), (0x2460, "common"), (0x2800, "braille"),
  (0x2900, "common"), (0x2B74, "unknown"), (0x2B76, "common"), (0x2B96, "unknown"),
  (0x2B97, "common"), (0x2C00, "glagolitic"), (0x2C60, "latin"), (0x2C80, "coptic"),
  (0x2CF4, "unknown"), (0x2CF9, "coptic"), (0x2D00, "georgian"), (0x2D26, "unknown"),
  (0x2D27, "georgian"), (0x2D28, "unknown"), (0x2D2D, "georgian"), (0x2D2E, "unknown"),
  (0x2D30, "tifinagh"), (0x2D68, "unknown"), (0x2D6F, "tifinagh"), (0x2D71, "unknown"),
  (0x2D7F, "tifinagh"), (0x2D80, "ethiopic"), (0x2D97, "unknown"), (0x2DA0, "ethiopic"),
  (0x2DA7, "unknown"), (0x2DA8, "ethiopic"), (0x2DAF, "unknown"), (0x2DB0, "ethiopic"),
  (0x2DB7, "unknown"), (0x2DB8, "ethiopic"), (0x2DBF, "unknown"), (0x2DC0, "ethiopic"),
  (0x2DC7, "unknown"), (0x2DC8, "ethiopic"), (0x2DCF, "unknown"), (0x2DD0, "ethiopic"),
  (0x2DD7, "unknown"), (0x2DD8, "ethiopic"), (0x2DDF, "unknown"), (0x2DE0, "cyrillic"),
  (0x2E00, "common"), (0x2E5E, "unknown"), (0x2E80, "han"), (0x2E9A, "unknown"), (0x2E9B, "han"),
  (0x2EF4, "unknown"), (0x2F00, "han"), (0x2FD6, "unknown"), (0x2FF0, "common"),
  (0x2FFC, "unknown"), (0x3000, "common"), (0x3005, "han"), (0x3006, "common"), (0x3007, "han"),
  (0x3008, "common"), (0x3021, "han"), (0x302A, "inherited"), (0x302E, "hangul"),
  (0x3030, "common"), (0x3038, "han"), (0x303C, "common"), (0x3040, "unknown"),
  (0x3041, "hiragana"), (0x3097, "unknown"), (0x3099, "inherited"), (0x309B, "common"),
  (0x309D, "hiragana"), (0x30A0, "common"), (0x30A1, "katakana"), (0x30FB, "common"),
  (0x30FD, "katakana"), (0x3100, "unknown"), (0x3105, "bopomofo"), (0x3130, "unknown"),
  (0x3131, "hangul"), (0x318F, "unknown"), (0x3190, "common"), (0x31A0, "bopomofo"),
  (0x31C0, "common"), (0x31E4, "unknown"), (0x31F0, "katakana"), (0x3200, "hangul"),
  (0x321F, "unknown"), (0x3220, "common"), (0x3260, "hangul"), (0x327F, "common"),
  (0x32D0, "katakana"), (0x32FF, "common"), (0x3300, "katakana"), (0x3358, "common"),
  (0x3400, "han"), (0x4DC0, "common"), (0x4E00, "han"), (0xA000, "yi"), (0xA48D, "unknown"),
  (0xA490, "yi"), (0xA4C7, "unknown"), (0xA4D0, "lisu"), (0xA500, "vai"), (0xA62C, "unknown"),
  (0xA640, "cyrillic"), (0xA6A0, "bamum"), (0xA6F8, "unknown"), (0xA700, "common"),
  (0xA722, "latin"), (0xA788, "common"), (0xA78B, "latin"), (0xA7CB, "unknown"),
  (0xA7D0, "latin"), (0xA7D2, "unknown"), (0xA7D3, "latin"), (0xA7D4, "unknown"),
  (0xA7D5, "latin"), (0xA7DA, "unknown"), (0xA7F2, "latin"), (0xA800, "sylotinagri"),
  (0xA82D, "unknown"), (0xA830, "common"), (0xA83A, "unknown"), (0xA840, "phagspa"),
  (0xA878, "unknown"), (0xA880, "saurashtra"), (0xA8C6, "unknown"), (0xA8CE, "saurashtra"),
  (0xA8DA, "unknown"), (0xA8E0, "devanagari"), (0xA900, "kayahli"), (0xA92E, "common"),
  (0xA92F, "kayahli"), (0xA930, "rejang"), (0xA954, "unknown"), (0xA95F, "rejang"),
  (0xA960, "hangul"), (0xA97D, "unknown"), (0xA980, "javanese"), (0xA9CE, "unknown"),
  (0xA9CF, "common"), (0xA9D0, "javanese"), (0xA9DA, "unknown"), (0xA9DE, "javanese"),
  (0xA9E0, "myanmar"), (0xA9FF, "unknown"), (0xAA00, "cham"), (0xAA37, "unknown"),
  (0xAA40, "cham"), (0xAA4E, "unknown"), (0xAA50, "cham"), (0xAA5A, "unknown"), (0xAA5C, "cham"),
  (0xAA60, "myanmar"), (0xAA80, "taiviet"), (0xAAC3, "unknown"), (0xAADB, "taiviet"),
  (0xAAE0, "meeteimayek"), (0xAAF7, "unknown"), (0xAB01, "ethiopic"), (0xAB07, "unknown"),
  (0xAB09, "ethiopic"), (0xAB0F, "unknown"), (0xAB11, "ethiopic"), (0xAB17, "unknown"),
  (0xAB20, "ethiopic"), (0xAB27, "unknown"), (0xAB28, "ethiopic"), (0xAB2F, "unknown"),
  (0xAB30, "latin"), (0xAB5B, "common"), (0xAB5C, "latin"), (0xAB65, "greek"), (0xAB66, "latin"),
  (0xAB6A, "common"), (0xAB6C, "unknown"), (0xAB70, "cherokee"), (0xABC0, "meeteimayek"),
  (0xABEE, "unknown")]

def scriptSteps3 : Steps String := #[
  (0xABF0, "meeteimayek"), (0xABFA, "unknown"), (0xAC00, "hangul"), (0xD7A4, "unknown"),
  (0xD7B0, "hangul"), (0xD7C7, "unknown"), (0xD7CB, "hangul"), (0xD7FC, "unknown"),
  (0xF900, "han"), (0xFA6E, "unknown"), (0xFA70, "han"), (0xFADA, "unknown"), (0xFB00, "latin"),
  (0xFB07, "unknown"), (0xFB13, "armenian"), (0xFB18, "unknown"), (0xFB1D, "hebrew"),
  (0xFB37, "unknown"), (0xFB38, "hebrew"), (0xFB3D, "unknown"), (0xFB3E, "hebrew"),
  (0xFB3F, "unknown"), (0xFB40, "hebrew"), (0xFB42, "unknown"), (0xFB43, "hebrew"),
  (0xFB45, "unknown"), (0xFB46, "hebrew"), (0xFB50, "arabic"), (0xFBC3, "unknown"),
  (0xFBD3, "arabic"), (0xFD3E, "common"), (0xFD40, "arabic"), (0xFD90, "unknown"),
  (0xFD92, "arabic"), (0xFDC8, "unknown"), (0xFDCF, "arabic"), (0xFDD0, "unknown"),
  (0xFDF0, "arabic"), (0xFE00, "inherited"), (0xFE10, "common"), (0xFE1A, "unknown"),
  (0xFE20, "inherited"), (0xFE2E, "cyrillic"), (0xFE30, "common"), (0xFE53, "unknown"),
  (0xFE54, "common"), (0xFE67, "unknown"), (0xFE68, "common"), (0xFE6C, "unknown"),
  (0xFE70, "arabic"), (0xFE75, "unknown"), (0xFE76, "arabic"), (0xFEFD, "unknown"),
  (0xFEFF, "common"), (0xFF00, "unknown"), (0xFF01, "common"), (0xFF21, "latin"),
  (0xFF3B, "common"), (0xFF41, "latin"), (0xFF5B, "common"), (0xFF66, "katakana"),
  (0xFF70, "common"), (0xFF71, "katakana"), (0xFF9E, "common"), (0xFFA0, "hangul"),
  (0xFFBF, "unknown"), (0xFFC2, "hangul"), (0xFFC8, "unknown"), (0xFFCA, "hangul"),
  (0xFFD0, "unknown"), (0xFFD2, "hangul"), (0xFFD8, "unknown"), (0xFFDA, "hangul"),
  (0xFFDD, "unknown"), (0xFFE0, "common"), (0xFFE7, "unknown"), (0xFFE8, "common"),
  (0xFFEF, "unknown"), (0xFFF9, "common"), (0xFFFE, "unknown"), (0x10000, "linearb"),
  (0x1000C, "unknown"), (0x1000D, "linearb"), (0x10027, "unknown"), (0x10028, "linearb"),
  (0x1003B, "unknown"), (0x1003C, "linearb"), (0x1003E, "unknown"), (0x1003F, "linearb"),
  (0x1004E, "unknown"), (0x10050, "linearb"), (0x1005E, "unknown"), (0x10080, "linearb"),
  (0x100FB, "unknown"), (0x10100, "common"), (0x10103, "unknown"), (0x10107, "common"),
  (0x10134, "unknown"), (0x10137, "common"), (0x10140, "greek"), (0x1018F, "unknown"),
  (0x10190, "common"), (0x1019D, "unknown"), (0x101A0, "greek"), (0x101A1, "unknown"),
  (0x101D0, "common"), (0x101FD, "inherited"), (0x101FE, "unknown"), (0x10280, "lycian"),
  (0x1029D, "unknown"), (0x102A0, "carian"), (0x102D1, "unknown"), (0x102E0, "inherited"),
  (0x102E1, "common"), (0x102FC, "unknown"), (0x10300, "olditalic"), (0x10324, "unknown"),
  (0x1032D, "olditalic"), (0x10330, "gothic"), (0x1034B, "unknown"), (0x10350, "oldpermic"),
  (0x1037B, "unknown"), (0x10380, "ugaritic"), (0x1039E, "unknown"), (0x1039F, "ugaritic"),
  (0x103A0, "oldpersian"), (0x103C4, "unknown"), (0x103C8, "oldpersian"), (0x103D6, "unknown"),
  (0x10400, "deseret"), (0x10450, "shavian"), (0x10480, "osmanya"), (0x1049E, "unknown"),
  (0x104A0, "osmanya"), (0x104AA, "unknown"), (0x104B0, "osage"), (0x104D4, "unknown"),
  (0x104D8, "osage"), (0x104FC, "unknown"), (0x10500, "elbasan"), (0x10528, "unknown"),
  (0x10530, "caucasianalbanian"), (0x10564, "unknown"), (0x1056F, "caucasianalbanian"),
  (0x10570, "vithkuqi"), (0x1057B, "unknown"), (0x1057C, "vithkuqi"), (0x1058B, "unknown"),
  (0x1058C, "vithkuqi"), (0x10593, "unknown"), (0x10594, "vithkuqi"), (0x10596, "unknown"),
  (0x10597, "vithkuqi"), (0x105A2, "unknown"), (0x105A3, "vithkuqi"), (0x105B2, "unknown"),
  (0x105B3, "vithkuqi"), (0x105BA, "unknown"), (0x105BB, "vithkuqi"), (0x105BD, "unknown"),
  (0x10600, "lineara"), (0x10737, "unknown"), (0x10740, "lineara"), (0x10756, "unknown"),
  (0x10760, "lineara"), (0x10768, "unknown"), (0x10780, "latin"), (0x10786, "unknown"),
  (0x10787, "latin"), (0x107B1, "unknown"), (0x107B2, "latin"), (0x107BB, "unknown"),
  (0x10800, "cypriot"), (0x10806, "unknown"), (0x10808, "cypriot"), (0x10809, "unknown"),
  (0x1080A, "cypriot"), (0x10836, "unknown"), (0x10837, "cypriot"), (0x10839, "unknown"),
  (0x1083C, "cypriot"), (0x1083D, "unknown"), (0x1083F, "cypriot"), (0x10840, "imperialaramaic"),
  (0x10856, "unknown"), (0x10857, "imperialaramaic"), (0x10860, "palmyrene"),
  (0x10880, "nabataean"), (0x1089F, "unknown"), (0x108A7, "nabataean"), (0x108B0, "unknown"),
  (0x108E0, "hatran"), (0x108F3, "unknown"), (0x108F4, "hatran"), (0x108F6, "unknown"),
  (0x108FB, "hatran"), (0x10900, "phoenician"), (0x1091C, "unknown"), (0x1091F, "phoenician"),
  (0x10920, "lydian"), (0x1093A, "unknown"), (0x1093F, "lydian"), (0x10940, "unknown"),
  (0x10980, "meroitichieroglyphs"), (0x109A0, "meroiticcursive"), (0x109B8, "unknown"),
  (0x109BC, "meroiticcursive"), (0x109D0, "unknown"), (0x109D2, "meroiticcursive"),
  (0x10A00, "kharoshthi"), (0x10A04, "unknown"), (0x10A05, "kharoshthi"), (0x10A07, "unknown"),
  (0x10A0C, "kharoshthi"), (0x10A14, "unknown"), (0x10A15, "kharoshthi"), (0x10A18, "unknown"),
  (0x10A19, "kharoshthi"), (0x10A36, "unknown"), (0x10A38, "kharoshthi"), (0x10A3B, "unknown"),
  (0x10A3F, "kharoshthi"), (0x10A49, "unknown"), (0x10A50, "kharoshthi"), (0x10A59, "unknown"),
  (0x10A60, "oldsoutharabian"), (0x10A80, "oldnortharabian"), (0x10AA0, "unknown"),
  (0x10AC0, "manichaean"), (0x10AE7, "unknown"), (0x10AEB, "manichaean"), (0x10AF7, "unknown"),
  (0x10B00, "avestan"), (0x10B36, "unknown"), (0x10B39, "avestan"),
  (0x10B40, "inscriptionalparthian"), (0x10B56, "unknown"), (0x10B58, "inscriptionalparthian"),
  (0x10B60, "inscriptionalpahlavi"), (0x10B73, "unknown"), (0x10B78, "inscriptionalpahlavi"),
  (0x10B80, "psalterpahlavi"), (0x10B92, "unknown"), (0x10B99, "psalterpahlavi"),
  (0x10B9D, "unknown"), (0x10BA9, "psalterpahlavi"), (0x10BB0, "unknown"), (0x10C00, "oldturkic"),
  (0x10C49, "unknown"), (0x10C80, "oldhungarian"), (0x10CB3, "unknown"),
  (0x10CC0, "oldhungarian"), (0x10CF3, "unknown"), (0x10CFA, "oldhungarian"),
  (0x10D00, "hanifirohingya"), (0x10D28, "unknown"), (0x10D30, "hanifirohingya"),
  (0x10D3A, "unknown"), (0x10E60, "arabic"), (0x10E7F, "unknown"), (0x10E80, "yezidi"),
  (0x10EAA, "unknown"), (0x10EAB, "yezidi"), (0x10EAE, "unknown"), (0x10EB0, "yezidi"),
  (0x10EB2, "unknown"), (0x10EFD, "arabic"), (0x10F00, "oldsogdian"), (0x10F28, "unknown"),
  (0x10F30, "sogdian"), (0x10F5A, "unknown"), (0x10F70, "olduyghur"), (0x10F8A, "unknown"),
  (0x10FB0, "chorasmian"), (0x10FCC, "unknown"), (0x10FE0, "elymaic"), (0x10FF7, "unknown"),
  (0x11000, "brahmi"), (0x1104E, "unknown"), (0x11052, "brahmi"), (0x11076, "unknown"),
  (0x1107F, "brahmi"), (0x11080, "kaithi"), (0x110C3, "unknown"), (0x110CD, "kaithi"),
  (0x110CE, "unknown"), (0x110D0, "sorasompeng"), (0x110E9, "unknown"), (0x110F0, "sorasompeng"),
  (0x110FA, "unknown"), (0x11100, "chakma"), (0x11135, "unknown"), (0x11136, "chakma"),
  (0x11148, "unknown"), (0x11150, "mahajani"), (0x11177, "unknown"), (0x11180, "sharada"),
  (0x111E0, "unknown"), (0x111E1, "sinhala"), (0x111F5, "unknown"), (0x11200, "khojki"),
  (0x11212, "unknown"), (0x11213, "khojki"), (0x11242, "unknown"), (0x11280, "multani"),
  (0x11287, "unknown"), (0x11288, "multani"), (0x11289, "unknown"), (0x1128A, "multani"),
  (0x1128E, "unknown"), (0x1128F, "multani"), (0x1129E, "unknown"), (0x1129F, "multani"),
  (0x112AA, "unknown"), (0x112B0, "khudawadi"), (0x112EB, "unknown"), (0x112F0, "khudawadi"),
  (0x112FA, "unknown"), (0x11300, "grantha"), (0x11304, "unknown"), (0x11305, "grantha"),
  (0x1130D, "unknown"), (0x1130F, "grantha"), (0x11311, "unknown"), (0x11313, "grantha"),
  (0x11329, "unknown"), (0x1132A, "grantha"), (0x11331, "unknown"), (0x11332, "grantha"),
  (0x11334, "unknown"), (0x11335, "grantha"), (0x1133A, "unknown"), (0x1133B, "inherited"),
  (0x1133C, "grantha"), (0x11345, "unknown"), (0x11347, "grantha"), (0x11349, "unknown"),
  (0x1134B, "grantha"), (0x1134E, "unknown"), (0x11350, "grantha"), (0x11351, "unknown"),
  (0x11357, "grantha"), (0x11358, "unknown"), (0x1135D, "grantha"), (0x11364, "unknown"),
  (0x11366, "grantha"), (0x1136D, "unknown"), (0x11370, "grantha"), (0x11375, "unknown"),
  (0x11400, "newa"), (0x1145C, "unknown"), (0x1145D, "newa"), (0x11462, "unknown"),
  (0x11480, "tirhuta"), (0x114C8, "unknown"), (0x114D0, "tirhuta"), (0x114DA, "unknown"),
  (0x11580, "siddham"), (0x115B6, "unknown"), (0x115B8, "siddham"), (0x115DE, "unknown"),
  (0x11600, "modi"), (0x11645, "unknown"), (0x11650, "modi"), (0x1165A, "unknown"),
  (0x11660, "mongolian"), (0x1166D, "unknown"), (0x11680, "takri"), (0x116BA, "unknown"),
  (0x116C0, "takri"), (0x116CA, "unknown"), (0x11700, "ahom"), (0x1171B, "unknown"),
  (0x1171D, "ahom"), (0x1172C, "unknown"), (0x11730, "ahom"), (0x11747, "unknown"),
  (0x11800, "dogra"), (0x1183C, "unknown"), (0x118A0, "warangciti"), (0x118F3, "unknown"),
  (0x118FF, "warangciti"), (0x11900, "divesakuru"), (0x11907, "unknown"), (0x11909, "divesakuru"),
  (0x1190A, "unknown"), (0x1190C, "divesakuru"), (0x11914, "unknown"), (0x11915, "divesakuru"),
  (0x11917, "unknown"), (0x11918, "divesakuru"), (0x11936, "unknown"), (0x11937, "divesakuru"),
  (0x11939, "unknown"), (0x1193B, "divesakuru"), (0x11947, "unknown"), (0x11950, "divesakuru"),
  (0x1195A, "unknown"), (0x119A0, "nandinagari"), (0x119A8, "unknown")]

def scriptSteps4 : Steps String := #[
  (0x119AA, "nandinagari"), (0x119D8, "unknown"), (0x119DA, "nandinagari"), (0x119E5, "unknown"),
  (0x11A00, "zanabazarsquare"), (0x11A48, "unknown"), (0x11A50, "soyombo"), (0x11AA3, "unknown"),
  (0x11AB0, "canadianaboriginal"), (0x11AC0, "paucinhau"), (0x11AF9, "unknown"),
  (0x11B00, "devanagari"), (0x11B0A, "unknown"), (0x11C00, "bhaiksuki"), (0x11C09, "unknown"),
  (0x11C0A, "bhaiksuki"), (0x11C37, "unknown"), (0x11C38, "bhaiksuki"), (0x11C46, "unknown"),
  (0x11C50, "bhaiksuki"), (0x11C6D, "unknown"), (0x11C70, "marchen"), (0x11C90, "unknown"),
  (0x11C92, "marchen"), (0x11CA8, "unknown"), (0x11CA9, "marchen"), (0x11CB7, "unknown"),
  (0x11D00, "masaramgondi"), (0x11D07, "unknown"), (0x11D08, "masaramgondi"),
  (0x11D0A, "unknown"), (0x11D0B, "masaramgondi"), (0x11D37, "unknown"),
  (0x11D3A, "masaramgondi"), (0x11D3B, "unknown"), (0x11D3C, "masaramgondi"),
  (0x11D3E, "unknown"), (0x11D3F, "masaramgondi"), (0x11D48, "unknown"),
  (0x11D50, "masaramgondi"), (0x11D5A, "unknown"), (0x11D60, "gunjalagondi"),
  (0x11D66, "unknown"), (0x11D67, "gunjalagondi"), (0x11D69, "unknown"),
  (0x11D6A, "gunjalagondi"), (0x11D8F, "unknown"), (0x11D90, "gunjalagondi"),
  (0x11D92, "unknown"), (0x11D93, "gunjalagondi"), (0x11D99, "unknown"),
  (0x11DA0, "gunjalagondi"), (0x11DAA, "unknown"), (0x11EE0, "makasar"), (0x11EF9, "unknown"),
  (0x11F00, "kawi"), (0x11F11, "unknown"), (0x11F12, "kawi"), (0x11F3B, "unknown"),
  (0x11F3E, "kawi"), (0x11F5A, "unknown"), (0x11FB0, "lisu"), (0x11FB1, "unknown"),
  (0x11FC0, "tamil"), (0x11FF2, "unknown"), (0x11FFF, "tamil"), (0x12000, "cuneiform"),
  (0x1239A, "unknown"), (0x12400, "cuneiform"), (0x1246F, "unknown"), (0x12470, "cuneiform"),
  (0x12475, "unknown"), (0x12480, "cuneiform"), (0x12544, "unknown"), (0x12F90, "cyprominoan"),
  (0x12FF3, "unknown"), (0x13000, "egyptianhieroglyphs"), (0x13456, "unknown"),
  (0x14400, "anatolianhieroglyphs"), (0x14647, "unknown"), (0x16800, "bamum"),
  (0x16A39, "unknown"), (0x16A40, "mro"), (0x16A5F, "unknown"), (0x16A60, "mro"),
  (0x16A6A, "unknown"), (0x16A6E, "mro"), (0x16A70, "tangsa"), (0x16ABF, "unknown"),
  (0x16AC0, "tangsa"), (0x16ACA, "unknown"), (0x16AD0, "bassavah"), (0x16AEE, "unknown"),
  (0x16AF0, "bassavah"), (0x16AF6, "unknown"), (0x16B00, "pahawhhmong"), (0x16B46, "unknown"),
  (0x16B50, "pahawhhmong"), (0x16B5A, "unknown"), (0x16B5B, "pahawhhmong"), (0x16B62, "unknown"),
  (0x16B63, "pahawhhmong"), (0x16B78, "unknown"), (0x16B7D, "pahawhhmong"), (0x16B90, "unknown"),
  (0x16E40, "medefaidrin"), (0x16E9B, "unknown"), (0x16F00, "miao"), (0x16F4B, "unknown"),
  (0x16F4F, "miao"), (0x16F88, "unknown"), (0x16F8F, "miao"), (0x16FA0, "unknown"),
  (0x16FE0, "tangut"), (0x16FE1, "nushu"), (0x16FE2, "han"), (0x16FE4, "khitansmallscript"),
  (0x16FE5, "unknown"), (0x16FF0, "han"), (0x16FF2, "unknown"), (0x17000, "tangut"),
  (0x187F8, "unknown"), (0x18800, "tangut"), (0x18B00, "khitansmallscript"), (0x18CD6, "unknown"),
  (0x18D00, "tangut"), (0x18D09, "unknown"), (0x1AFF0, "katakana"), (0x1AFF4, "unknown"),
  (0x1AFF5, "katakana"), (0x1AFFC, "unknown"), (0x1AFFD, "katakana"), (0x1AFFF, "unknown"),
  (0x1B000, "katakana"), (0x1B001, "hiragana"), (0x1B120, "katakana"), (0x1B123, "unknown"),
  (0x1B132, "hiragana"), (0x1B133, "unknown"), (0x1B150, "hiragana"), (0x1B153, "unknown"),
  (0x1B155, "katakana"), (0x1B156, "unknown"), (0x1B164, "katakana"), (0x1B168, "unknown"),
  (0x1B170, "nushu"), (0x1B2FC, "unknown"), (0x1BC00, "duployan"), (0x1BC6B, "unknown"),
  (0x1BC70, "duployan"), (0x1BC7D, "unknown"), (0x1BC80, "duployan"), (0x1BC89, "unknown"),
  (0x1BC90, "duployan"), (0x1BC9A, "unknown"), (0x1BC9C, "duployan"), (0x1BCA0, "common"),
  (0x1BCA4, "unknown"), (0x1CF00, "inherited"), (0x1CF2E, "unknown"), (0x1CF30, "inherited"),
  (0x1CF47, "unknown"), (0x1CF50, "common"), (0x1CFC4, "unknown"), (0x1D000, "common"),
  (0x1D0F6, "unknown"), (0x1D100, "common"), (0x1D127, "unknown"), (0x1D129, "common"),
  (0x1D167, "inherited"), (0x1D16A, "common"), (0x1D17B, "inherited"), (0x1D183, "common"),
  (0x1D185, "inherited"), (0x1D18C, "common"), (0x1D1AA, "inherited"), (0x1D1AE, "common"),
  (0x1D1EB, "unknown"), (0x1D200, "greek"), (0x1D246, "unknown"), (0x1D2C0, "common"),
  (0x1D2D4, "unknown"), (0x1D2E0, "common"), (0x1D2F4, "unknown"), (0x1D300, "common"),
  (0x1D357, "unknown"), (0x1D360, "common"), (0x1D379, "unknown"), (0x1D400, "common"),
  (0x1D455, "unknown"), (0x1D456, "common"), (0x1D49D, "unknown"), (0x1D49E, "common"),
  (0x1D4A0, "unknown"), (0x1D4A2, "common"), (0x1D4A3, "unknown"), (0x1D4A5, "common"),
  (0x1D4A7, "unknown"), (0x1D4A9, "common"), (0x1D4AD, "unknown"), (0x1D4AE, "common"),
  (0x1D4BA, "unknown"), (0x1D4BB, "common"), (0x1D4BC, "unknown"), (0x1D4BD, "common"),
  (0x1D4C4, "unknown"), (0x1D4C5, "common"), (0x1D506, "unknown"), (0x1D507, "common"),
  (0x1D50B, "unknown"), (0x1D50D, "common"), (0x1D515, "unknown"), (0x1D516, "common"),
  (0x1D51D, "unknown"), (0x1D51E, "common"), (0x1D53A, "unknown"), (0x1D53B, "common"),
  (0x1D53F, "unknown"), (0x1D540, "common"), (0x1D545, "unknown"), (0x1D546, "common"),
  (0x1D547, "unknown"), (0x1D54A, "common"), (0x1D551, "unknown"), (0x1D552, "common"),
  (0x1D6A6, "unknown"), (0x1D6A8, "common"), (0x1D7CC, "unknown"), (0x1D7CE, "common"),
  (0x1D800, "signwriting"), (0x1DA8C, "unknown"), (0x1DA9B, "signwriting"), (0x1DAA0, "unknown"),
  (0x1DAA1, "signwriting"), (0x1DAB0, "unknown"), (0x1DF00, "latin"), (0x1DF1F, "unknown"),
  (0x1DF25, "latin"), (0x1DF2B, "unknown"), (0x1E000, "glagolitic"), (0x1E007, "unknown"),
  (0x1E008, "glagolitic"), (0x1E019, "unknown"), (0x1E01B, "glagolitic"), (0x1E022, "unknown"),
  (0x1E023, "glagolitic"), (0x1E025, "unknown"), (0x1E026, "glagolitic"), (0x1E02B, "unknown"),
  (0x1E030, "cyrillic"), (0x1E06E, "unknown"), (0x1E08F, "cyrillic"), (0x1E090, "unknown"),
  (0x1E100, "nyiakengpuachuehmong"), (0x1E12D, "unknown"), (0x1E130, "nyiakengpuachuehmong"),
  (0x1E13E, "unknown"), (0x1E140, "nyiakengpuachuehmong"), (0x1E14A, "unknown"),
  (0x1E14E, "nyiakengpuachuehmong"), (0x1E150, "unknown"), (0x1E290, "toto"),
  (0x1E2AF, "unknown"), (0x1E2C0, "wancho"), (0x1E2FA, "unknown"), (0x1E2FF, "wancho"),
  (0x1E300, "unknown"), (0x1E4D0, "nagmundari"), (0x1E4FA, "unknown"), (0x1E7E0, "ethiopic"),
  (0x1E7E7, "unknown"), (0x1E7E8, "ethiopic"), (0x1E7EC, "unknown"), (0x1E7ED, "ethiopic"),
  (0x1E7EF, "unknown"), (0x1E7F0, "ethiopic"), (0x1E7FF, "unknown"), (0x1E800, "mendekikakui"),
  (0x1E8C5, "unknown"), (0x1E8C7, "mendekikakui"), (0x1E8D7, "unknown"), (0x1E900, "adlam"),
  (0x1E94C, "unknown"), (0x1E950, "adlam"), (0x1E95A, "unknown"), (0x1E95E, "adlam"),
  (0x1E960, "unknown"), (0x1EC71, "common"), (0x1ECB5, "unknown"), (0x1ED01, "common"),
  (0x1ED3E, "unknown"), (0x1EE00, "arabic"), (0x1EE04, "unknown"), (0x1EE05, "arabic"),
  (0x1EE20, "unknown"), (0x1EE21, "arabic"), (0x1EE23, "unknown"), (0x1EE24, "arabic"),
  (0x1EE25, "unknown"), (0x1EE27, "arabic"), (0x1EE28, "unknown"), (0x1EE29, "arabic"),
  (0x1EE33, "unknown"), (0x1EE34, "arabic"), (0x1EE38, "unknown"), (0x1EE39, "arabic"),
  (0x1EE3A, "unknown"), (0x1EE3B, "arabic"), (0x1EE3C, "unknown"), (0x1EE42, "arabic"),
  (0x1EE43, "unknown"), (0x1EE47, "arabic"), (0x1EE48, "unknown"), (0x1EE49, "arabic"),
  (0x1EE4A, "unknown"), (0x1EE4B, "arabic"), (0x1EE4C, "unknown"), (0x1EE4D, "arabic"),
  (0x1EE50, "unknown"), (0x1EE51, "arabic"), (0x1EE53, "unknown"), (0x1EE54, "arabic"),
  (0x1EE55, "unknown"), (0x1EE57, "arabic"), (0x1EE58, "unknown"), (0x1EE59, "arabic"),
  (0x1EE5A, "unknown"), (0x1EE5B, "arabic"), (0x1EE5C, "unknown"), (0x1EE5D, "arabic"),
  (0x1EE5E, "unknown"), (0x1EE5F, "arabic"), (0x1EE60, "unknown"), (0x1EE61, "arabic"),
  (0x1EE63, "unknown"), (0x1EE64, "arabic"), (0x1EE65, "unknown"), (0x1EE67, "arabic"),
  (0x1EE6B, "unknown"), (0x1EE6C, "arabic"), (0x1EE73, "unknown"), (0x1EE74, "arabic"),
  (0x1EE78, "unknown"), (0x1EE79, "arabic"), (0x1EE7D, "unknown"), (0x1EE7E, "arabic"),
  (0x1EE7F, "unknown"), (0x1EE80, "arabic"), (0x1EE8A, "unknown"), (0x1EE8B, "arabic"),
  (0x1EE9C, "unknown"), (0x1EEA1, "arabic"), (0x1EEA4, "unknown"), (0x1EEA5, "arabic"),
  (0x1EEAA, "unknown"), (0x1EEAB, "arabic"), (0x1EEBC, "unknown"), (0x1EEF0, "arabic"),
  (0x1EEF2, "unknown"), (0x1F000, "common"), (0x1F02C, "unknown"), (0x1F030, "common"),
  (0x1F094, "unknown"), (0x1F0A0, "common"), (0x1F0AF, "unknown"), (0x1F0B1, "common"),
  (0x1F0C0, "unknown"), (0x1F0C1, "common"), (0x1F0D0, "unknown"), (0x1F0D1, "common"),
  (0x1F0F6, "unknown"), (0x1F100, "common"), (0x1F1AE, "unknown"), (0x1F1E6, "common"),
  (0x1F200, "hiragana"), (0x1F201, "common"), (0x1F203, "unknown"), (0x1F210, "common"),
  (0x1F23C, "unknown"), (0x1F240, "common"), (0x1F249, "unknown"), (0x1F250, "common"),
  (0x1F252, "unknown"), (0x1F260, "common"), (0x1F266, "unknown"), (0x1F300, "common"),
  (0x1F6D8, "unknown"), (0x1F6DC, "common"), (0x1F6ED, "unknown"), (0x1F6F0, "common"),
  (0x1F6FD, "unknown"), (0x1F700, "common"), (0x1F777, "unknown"), (0x1F77B, "common"),
  (0x1F7DA, "unknown"), (0x1F7E0, "common"), (0x1F7EC, "unknown"), (0x1F7F0, "common"),
  (0x1F7F1, "unknown"), (0x1F800, "common")]

def scriptSteps5 : Steps String := #[
  (0x1F80C, "unknown"), (0x1F810, "common"), (0x1F848, "unknown"), (0x1F850, "common"),
  (0x1F85A, "unknown"), (0x1F860, "common"), (0x1F888, "unknown"), (0x1F890, "common"),
  (0x1F8AE, "unknown"), (0x1F8B0, "common"), (0x1F8B2, "unknown"), (0x1F900, "common"),
  (0x1FA54, "unknown"), (0x1FA60, "common"), (0x1FA6E, "unknown"), (0x1FA70, "common"),
  (0x1FA7D, "unknown"), (0x1FA80, "common"), (0x1FA89, "unknown"), (0x1FA90, "common"),
  (0x1FABE, "unknown"), (0x1FABF, "common"), (0x1FAC6, "unknown"), (0x1FACE, "common"),
  (0x1FADC, "unknown"), (0x1FAE0, "common"), (0x1FAE9, "unknown"), (0x1FAF0, "common"),
  (0x1FAF9, "unknown"), (0x1FB00, "common"), (0x1FB93, "unknown"), (0x1FB94, "common"),
  (0x1FBCB, "unknown"), (0x1FBF0, "common"), (0x1FBFA, "unknown"), (0x20000, "han"),
  (0x2A6E0, "unknown"), (0x2A700, "han"), (0x2B73A, "unknown"), (0x2B740, "han"),
  (0x2B81E, "unknown"), (0x2B820, "han"), (0x2CEA2, "unknown"), (0x2CEB0, "han"),
  (0x2EBE1, "unknown"), (0x2F800, "han"), (0x2FA1E, "unknown"), (0x30000, "han"),
  (0x3134B, "unknown"), (0x31350, "han"), (0x323B0, "unknown"), (0xE0001, "common"),
  (0xE0002, "unknown"), (0xE0020, "common"), (0xE0080, "unknown"), (0xE0100, "inherited"),
  (0xE01F0, "unknown"), (0x110000, "unknown")]

def scriptSteps : Steps String :=
  scriptSteps1 ++ scriptSteps2 ++ scriptSteps3 ++ scriptSteps4 ++ scriptSteps5

/-- The script of a character; `unknown` has no members that a pattern could ask for. -/
def script (c : Char) : String := (scriptSteps.at? c).getD "unknown"

def scriptNames : List String := [
  "adlam", "ahom", "anatolianhieroglyphs", "arabic", "armenian", "avestan", "balinese", "bamum",
  "bassavah", "batak", "bengali", "bhaiksuki", "bopomofo", "brahmi", "braille", "buginese",
  "buhid", "canadianaboriginal", "carian", "caucasianalbanian", "chakma", "cham", "cherokee",
  "chorasmian", "common", "coptic", "cuneiform", "cypriot", "cyprominoan", "cyrillic", "deseret",
  "devanagari", "divesakuru", "dogra", "duployan", "egyptianhieroglyphs", "elbasan", "elymaic",
  "ethiopic", "georgian", "glagolitic", "gothic", "grantha", "greek", "gujarati", "gunjalagondi",
  "gurmukhi", "han", "hangul", "hanifirohingya", "hanunoo", "hatran", "hebrew", "hiragana",
  "imperialaramaic", "inherited", "inscriptionalpahlavi", "inscriptionalparthian", "javanese",
  "kaithi", "kannada", "katakana", "kawi", "kayahli", "kharoshthi", "khitansmallscript", "khmer",
  "khojki", "khudawadi", "lao", "latin", "lepcha", "limbu", "lineara", "linearb", "lisu",
  "lycian", "lydian", "mahajani", "makasar", "malayalam", "mandaic", "manichaean", "marchen",
  "masaramgondi", "medefaidrin", "meeteimayek", "mendekikakui", "meroiticcursive",
  "meroitichieroglyphs", "miao", "modi", "mongolian", "mro", "multani", "myanmar", "nabataean",
  "nagmundari", "nandinagari", "newa", "newtailue", "nko", "nushu", "nyiakengpuachuehmong",
  "ogham", "olchiki", "oldhungarian", "olditalic", "oldnortharabian", "oldpermic", "oldpersian",
  "oldsogdian", "oldsoutharabian", "oldturkic", "olduyghur", "oriya", "osage", "osmanya",
  "pahawhhmong", "palmyrene", "paucinhau", "phagspa", "phoenician", "psalterpahlavi", "rejang",
  "runic", "samaritan", "saurashtra", "sharada", "shavian", "siddham", "signwriting", "sinhala",
  "sogdian", "sorasompeng", "soyombo", "sundanese", "sylotinagri", "syriac", "tagalog",
  "tagbanwa", "taile", "taitham", "taiviet", "takri", "tamil", "tangsa", "tangut", "telugu",
  "thaana", "thai", "tibetan", "tifinagh", "tirhuta", "toto", "ugaritic", "vai", "vithkuqi",
  "wancho", "warangciti", "yezidi", "yi", "zanabazarsquare"]

/-- Short names. -/
def scriptAliases : List (String × String) := [
  ("adlm", "adlam"), ("aghb", "caucasianalbanian"), ("arab", "arabic"),
  ("armi", "imperialaramaic"), ("armn", "armenian"), ("avst", "avestan"), ("bali", "balinese"),
  ("bamu", "bamum"), ("bass", "bassavah"), ("batk", "batak"), ("beng", "bengali"),
  ("bhks", "bhaiksuki"), ("bopo", "bopomofo"), ("brah", "brahmi"), ("brai", "braille"),
  ("bugi", "buginese"), ("buhd", "buhid"), ("cakm", "chakma"), ("cans", "canadianaboriginal"),
  ("cari", "carian"), ("cher", "cherokee"), ("chrs", "chorasmian"), ("copt", "coptic"),
  ("cpmn", "cyprominoan"), ("cprt", "cypriot"), ("cyrl", "cyrillic"), ("deva", "devanagari"),
  ("diak", "divesakuru"), ("dogr", "dogra"), ("dsrt", "deseret"), ("dupl", "duployan"),
  ("egyp", "egyptianhieroglyphs"), ("elba", "elbasan"), ("elym", "elymaic"), ("ethi", "ethiopic"),
  ("geor", "georgian"), ("glag", "glagolitic"), ("gong", "gunjalagondi"),
  ("gonm", "masaramgondi"), ("goth", "gothic"), ("gran", "grantha"), ("grek", "greek"),
  ("gujr", "gujarati"), ("guru", "gurmukhi"), ("hang", "hangul"), ("hani", "han"),
  ("hano", "hanunoo"), ("hatr", "hatran"), ("hebr", "hebrew"), ("hira", "hiragana"),
  ("hluw", "anatolianhieroglyphs"), ("hmng", "pahawhhmong"), ("hmnp", "nyiakengpuachuehmong"),
  ("hung", "oldhungarian"), ("ital", "olditalic"), ("java", "javanese"), ("kali", "kayahli"),
  ("kana", "katakana"), ("khar", "kharoshthi"), ("khmr", "khmer"), ("khoj", "khojki"),
  ("kits", "khitansmallscript"), ("knda", "kannada"), ("kthi", "kaithi"), ("lana", "taitham"),
  ("laoo", "lao"), ("latn", "latin"), ("lepc", "lepcha"), ("limb", "limbu"), ("lina", "lineara"),
  ("linb", "linearb"), ("lyci", "lycian"), ("lydi", "lydian"), ("mahj", "mahajani"),
  ("maka", "makasar"), ("mand", "mandaic"), ("mani", "manichaean"), ("marc", "marchen"),
  ("medf", "medefaidrin"), ("mend", "mendekikakui"), ("merc", "meroiticcursive"),
  ("mero", "meroitichieroglyphs"), ("mlym", "malayalam"), ("mong", "mongolian"), ("mroo", "mro"),
  ("mtei", "meeteimayek"), ("mult", "multani"), ("mymr", "myanmar"), ("nagm", "nagmundari"),
  ("nand", "nandinagari"), ("narb", "oldnortharabian"), ("nbat", "nabataean"), ("nkoo", "nko"),
  ("nshu", "nushu"), ("ogam", "ogham"), ("olck", "olchiki"), ("orkh", "oldturkic"),
  ("orya", "oriya"), ("osge", "osage"), ("osma", "osmanya"), ("ougr", "olduyghur"),
  ("palm", "palmyrene"), ("pauc", "paucinhau"), ("perm", "oldpermic"), ("phag", "phagspa"),
  ("phli", "inscriptionalpahlavi"), ("phlp", "psalterpahlavi"), ("phnx", "phoenician"),
  ("plrd", "miao"), ("prti", "inscriptionalparthian"), ("qaac", "coptic"), ("qaai", "inherited"),
  ("rjng", "rejang"), ("rohg", "hanifirohingya"), ("runr", "runic"), ("samr", "samaritan"),
  ("sarb", "oldsoutharabian"), ("saur", "saurashtra"), ("sgnw", "signwriting"),
  ("shaw", "shavian"), ("shrd", "sharada"), ("sidd", "siddham"), ("sind", "khudawadi"),
  ("sinh", "sinhala"), ("sogd", "sogdian"), ("sogo", "oldsogdian"), ("sora", "sorasompeng"),
  ("soyo", "soyombo"), ("sund", "sundanese"), ("sylo", "sylotinagri"), ("syrc", "syriac"),
  ("tagb", "tagbanwa"), ("takr", "takri"), ("tale", "taile"), ("talu", "newtailue"),
  ("taml", "tamil"), ("tang", "tangut"), ("tavt", "taiviet"), ("telu", "telugu"),
  ("tfng", "tifinagh"), ("tglg", "tagalog"), ("thaa", "thaana"), ("tibt", "tibetan"),
  ("tirh", "tirhuta"), ("tnsa", "tangsa"), ("ugar", "ugaritic"), ("vaii", "vai"),
  ("vith", "vithkuqi"), ("wara", "warangciti"), ("wcho", "wancho"), ("xpeo", "oldpersian"),
  ("xsux", "cuneiform"), ("yezi", "yezidi"), ("yiii", "yi"), ("zanb", "zanabazarsquare"),
  ("zinh", "inherited"), ("zyyy", "common")]

end RefDoc.Text
