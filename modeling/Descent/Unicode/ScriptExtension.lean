import Descent.Unicode.Script

/-!
The property Script_Extensions: all symbols that a script uses. Symbols that several scripts use have
the script Common or Inherited, or that of one of them; here they belong to each of their scripts.
-/

namespace Descent.Unicode.Script

def shared : List (String × Ranges) := [
  ("adlam", [(0x61F, 0x61F), (0x640, 0x640), (0x204F, 0x204F), (0x2E41, 0x2E41)]),
  ("arabic", [(0x60C, 0x60C), (0x61B, 0x61B), (0x61F, 0x61F), (0x640, 0x640), (0x64B, 0x655),
    (0x670, 0x670), (0x204F, 0x204F), (0x2E41, 0x2E41), (0xFD3E, 0xFD3F), (0x102E0, 0x102FB)]),
  ("armenian", [(0x308, 0x308)]), ("avestan", [(0xB7, 0xB7), (0x2E30, 0x2E31)]),
  ("bengali", [(0x2BC, 0x2BC), (0x951, 0x952), (0x964, 0x965), (0x1CD0, 0x1CD0), (0x1CD2, 0x1CD2),
    (0x1CD5, 0x1CD6), (0x1CD8, 0x1CD8), (0x1CE1, 0x1CE1), (0x1CEA, 0x1CEA), (0x1CED, 0x1CED),
    (0x1CF2, 0x1CF2), (0x1CF5, 0x1CF7), (0xA8F1, 0xA8F1)]),
  ("bopomofo", [(0x2C7, 0x2C7), (0x2C9, 0x2CB), (0x2D9, 0x2D9), (0x3001, 0x3003), (0x3008,
    0x3011), (0x3013, 0x301F), (0x302A, 0x302D), (0x3030, 0x3030), (0x3037, 0x3037), (0x30FB,
    0x30FB), (0xFE45, 0xFE46), (0xFF61, 0xFF65)]), ("buginese", [(0xA9CF, 0xA9CF)]),
  ("buhid", [(0x1735, 0x1736)]),
  ("carian", [(0xB7, 0xB7), (0x205A, 0x205A), (0x205D, 0x205D), (0x2E31, 0x2E31)]),
  ("caucasianalbanian", [(0x304, 0x304), (0x331, 0x331), (0x35E, 0x35E)]),
  ("chakma", [(0x9E6, 0x9EF), (0x1040, 0x1049)]),
  ("cherokee", [(0x300, 0x302), (0x304, 0x304), (0x30B, 0x30C), (0x323, 0x324), (0x330, 0x331)]),
  ("coptic", [(0xB7, 0xB7), (0x300, 0x300), (0x304, 0x305), (0x307, 0x307), (0x374, 0x375),
    (0x2E17, 0x2E17), (0x102E0, 0x102FB)]),
  ("cypriot", [(0x10100, 0x10102), (0x10107, 0x10133), (0x10137, 0x1013F)]),
  ("cyprominoan", [(0x10100, 0x10101)]),
  ("cyrillic", [(0x2BC, 0x2BC), (0x300, 0x302), (0x304, 0x304), (0x306, 0x306), (0x308, 0x308),
    (0x30B, 0x30B), (0x311, 0x311), (0x485, 0x486), (0x1DF8, 0x1DF8), (0x2E43, 0x2E43)]),
  ("devanagari", [(0x2BC, 0x2BC), (0x951, 0x952), (0x964, 0x965), (0x1CD0, 0x1CF6), (0x1CF8,
    0x1CF9), (0x20F0, 0x20F0), (0xA830, 0xA839)]), ("dogra", [(0x964, 0x96F), (0xA830, 0xA839)]),
  ("duployan", [(0xB7, 0xB7), (0x307, 0x308), (0x30A, 0x30A), (0x323, 0x324), (0x2E3C, 0x2E3C),
    (0x1BCA0, 0x1BCA3)]), ("elbasan", [(0xB7, 0xB7), (0x305, 0x305)]),
  ("ethiopic", [(0x30E, 0x30E)]), ("garay", [(0x60C, 0x60C), (0x61B, 0x61B), (0x61F, 0x61F)]),
  ("georgian", [(0xB7, 0xB7), (0x589, 0x589), (0x10FB, 0x10FB), (0x205A, 0x205A), (0x2E31,
    0x2E31)]),
  ("glagolitic", [(0xB7, 0xB7), (0x303, 0x303), (0x305, 0x305), (0x484, 0x484), (0x487, 0x487),
    (0x589, 0x589), (0x10FB, 0x10FB), (0x205A, 0x205A), (0x2E43, 0x2E43), (0xA66F, 0xA66F)]),
  ("gothic", [(0xB7, 0xB7), (0x304, 0x305), (0x308, 0x308), (0x331, 0x331)]),
  ("grantha", [(0x951, 0x952), (0x964, 0x965), (0xBE6, 0xBF3), (0x1CD0, 0x1CD0), (0x1CD2, 0x1CD3),
    (0x1CF2, 0x1CF4), (0x1CF8, 0x1CF9), (0x20F0, 0x20F0), (0x1133B, 0x1133B), (0x11FD0, 0x11FD1),
    (0x11FD3, 0x11FD3)]),
  ("greek", [(0xB7, 0xB7), (0x300, 0x301), (0x304, 0x304), (0x306, 0x306), (0x308, 0x308), (0x313,
    0x313), (0x342, 0x342), (0x345, 0x345), (0x374, 0x374), (0x1DC0, 0x1DC1), (0x205D, 0x205D)]),
  ("gujarati", [(0x951, 0x952), (0x964, 0x965), (0xA830, 0xA839)]),
  ("gunjalagondi", [(0xB7, 0xB7), (0x964, 0x965)]),
  ("gurmukhi", [(0x951, 0x952), (0x964, 0x965), (0xA830, 0xA839)]),
  ("gurungkhema", [(0x965, 0x965)]),
  ("han", [(0xB7, 0xB7), (0x2FF0, 0x2FFF), (0x3001, 0x3003), (0x3006, 0x3006), (0x3008, 0x3011),
    (0x3013, 0x301F), (0x302A, 0x302D), (0x3030, 0x3030), (0x3037, 0x3037), (0x303C, 0x303F),
    (0x30FB, 0x30FB), (0x3190, 0x319F), (0x31C0, 0x31E5), (0x31EF, 0x31EF), (0x3220, 0x3247),
    (0x3280, 0x32B0), (0x32C0, 0x32CB), (0x32FF, 0x32FF), (0x3358, 0x3370), (0x337B, 0x337F),
    (0x33E0, 0x33FE), (0xA700, 0xA707), (0xFE45, 0xFE46), (0xFF61, 0xFF65), (0x1D360, 0x1D371),
    (0x1F250, 0x1F251)]),
  ("hangul", [(0x3001, 0x3003), (0x3008, 0x3011), (0x3013, 0x301F), (0x3030, 0x3030), (0x3037,
    0x3037), (0x30FB, 0x30FB), (0xFE45, 0xFE46), (0xFF61, 0xFF65)]),
  ("hanifirohingya", [(0x60C, 0x60C), (0x61B, 0x61B), (0x61F, 0x61F), (0x640, 0x640), (0x6D4,
    0x6D4)]), ("hanunoo", [(0x1735, 0x1736)]), ("hebrew", [(0x307, 0x308)]),
  ("hiragana", [(0x3001, 0x3003), (0x3008, 0x3011), (0x3013, 0x301F), (0x3030, 0x3035), (0x3037,
    0x3037), (0x303C, 0x303D), (0x3099, 0x309C), (0x30A0, 0x30A0), (0x30FB, 0x30FC), (0xFE45,
    0xFE46), (0xFF61, 0xFF65), (0xFF70, 0xFF70), (0xFF9E, 0xFF9F)]),
  ("javanese", [(0xA9CF, 0xA9CF)]),
  ("kaithi", [(0x966, 0x96F), (0x2E31, 0x2E31), (0xA830, 0xA839)]),
  ("kannada", [(0x951, 0x952), (0x964, 0x965), (0x1CD0, 0x1CD0), (0x1CD2, 0x1CD3), (0x1CDA,
    0x1CDA), (0x1CF2, 0x1CF2), (0x1CF4, 0x1CF4), (0xA830, 0xA835)]),
  ("katakana", [(0x305, 0x305), (0x323, 0x323), (0x3001, 0x3003), (0x3008, 0x3011), (0x3013,
    0x301F), (0x3030, 0x3035), (0x3037, 0x3037), (0x303C, 0x303D), (0x3099, 0x309C), (0x30A0,
    0x30A0), (0x30FB, 0x30FC), (0xFE45, 0xFE46), (0xFF61, 0xFF65), (0xFF70, 0xFF70), (0xFF9E,
    0xFF9F)]), ("kayahli", [(0xA92E, 0xA92E)]), ("khojki", [(0xAE6, 0xAEF), (0xA830, 0xA839)]),
  ("khudawadi", [(0x964, 0x965), (0xA830, 0xA839)]),
  ("latin", [(0xB7, 0xB7), (0x2BC, 0x2BC), (0x2C7, 0x2C7), (0x2C9, 0x2CB), (0x2CD, 0x2CD), (0x2D7,
    0x2D7), (0x2D9, 0x2D9), (0x300, 0x30E), (0x310, 0x311), (0x313, 0x313), (0x323, 0x325),
    (0x32D, 0x32E), (0x330, 0x331), (0x358, 0x358), (0x35E, 0x35E), (0x363, 0x36F), (0x485,
    0x486), (0x951, 0x952), (0x10FB, 0x10FB), (0x1DF8, 0x1DF8), (0x202F, 0x202F), (0x20F0,
    0x20F0), (0x2E17, 0x2E17), (0xA700, 0xA707), (0xA92E, 0xA92E)]), ("limbu", [(0x965, 0x965)]),
  ("lineara", [(0x10107, 0x10133)]),
  ("linearb", [(0x10100, 0x10102), (0x10107, 0x10133), (0x10137, 0x1013F)]),
  ("lisu", [(0x2BC, 0x2BC), (0x2CD, 0x2CD), (0x300A, 0x300B)]), ("lycian", [(0x205A, 0x205A)]),
  ("lydian", [(0xB7, 0xB7), (0x2E31, 0x2E31)]),
  ("mahajani", [(0xB7, 0xB7), (0x964, 0x96F), (0xA830, 0xA839)]),
  ("malayalam", [(0x951, 0x952), (0x964, 0x965), (0x1CDA, 0x1CDA), (0x1CF2, 0x1CF2), (0xA830,
    0xA832)]), ("mandaic", [(0x640, 0x640)]), ("manichaean", [(0x640, 0x640)]),
  ("masaramgondi", [(0x964, 0x965)]), ("meroitichieroglyphs", [(0x205D, 0x205D)]),
  ("modi", [(0xA830, 0xA839)]),
  ("mongolian", [(0x1802, 0x1803), (0x1805, 0x1805), (0x202F, 0x202F), (0x3001, 0x3002), (0x3008,
    0x300B)]), ("multani", [(0xA66, 0xA6F)]), ("myanmar", [(0xA92E, 0xA92E)]),
  ("nandinagari", [(0x951, 0x951), (0x964, 0x965), (0xCE6, 0xCEF), (0x1CE9, 0x1CE9), (0x1CF2,
    0x1CF2), (0x1CFA, 0x1CFA), (0xA830, 0xA835)]),
  ("newa", [(0x951, 0x952), (0x1CD5, 0x1CD5), (0x1CD7, 0x1CD8), (0x1CE2, 0x1CE2), (0x1CE9,
    0x1CE9), (0x1CEB, 0x1CEB), (0x1CED, 0x1CED)]),
  ("nko", [(0x60C, 0x60C), (0x61B, 0x61B), (0x61F, 0x61F), (0xFD3E, 0xFD3F)]),
  ("olonal", [(0x964, 0x965)]),
  ("oldhungarian", [(0x205A, 0x205A), (0x205D, 0x205D), (0x2E31, 0x2E31), (0x2E41, 0x2E41)]),
  ("oldpermic", [(0xB7, 0xB7), (0x300, 0x300), (0x306, 0x308), (0x313, 0x313), (0x483, 0x483)]),
  ("oldturkic", [(0x205A, 0x205A), (0x2E30, 0x2E30)]),
  ("olduyghur", [(0x640, 0x640), (0x10AF2, 0x10AF2)]),
  ("oriya", [(0x951, 0x952), (0x964, 0x965), (0x1CDA, 0x1CDA), (0x1CF2, 0x1CF2)]),
  ("osage", [(0x301, 0x301), (0x304, 0x304), (0x30B, 0x30B), (0x358, 0x358)]),
  ("phagspa", [(0x1802, 0x1803), (0x1805, 0x1805), (0x202F, 0x202F), (0x3002, 0x3002)]),
  ("psalterpahlavi", [(0x640, 0x640)]), ("runic", [(0x16EB, 0x16ED)]),
  ("samaritan", [(0x2E31, 0x2E31)]),
  ("sharada", [(0x951, 0x951), (0x1CD7, 0x1CD7), (0x1CD9, 0x1CD9), (0x1CDC, 0x1CDD), (0x1CE0,
    0x1CE0), (0x1CEA, 0x1CEA), (0x1CED, 0x1CED), (0xA830, 0xA835), (0xA838, 0xA838)]),
  ("shavian", [(0xB7, 0xB7)]), ("sinhala", [(0x964, 0x965), (0x1CF2, 0x1CF2)]),
  ("sogdian", [(0x640, 0x640)]),
  ("sunuwar", [(0x300, 0x301), (0x303, 0x303), (0x30D, 0x30D), (0x310, 0x310), (0x32D, 0x32D),
    (0x331, 0x331)]), ("sylotinagri", [(0x964, 0x965), (0x9E6, 0x9EF)]),
  ("syriac", [(0x303, 0x304), (0x307, 0x308), (0x30A, 0x30A), (0x323, 0x325), (0x32D, 0x32E),
    (0x330, 0x331), (0x60C, 0x60C), (0x61B, 0x61C), (0x61F, 0x61F), (0x640, 0x640), (0x64B,
    0x655), (0x670, 0x670), (0x1DF8, 0x1DF8), (0x1DFA, 0x1DFA)]), ("tagalog", [(0x1735, 0x1736)]),
  ("tagbanwa", [(0x1735, 0x1736)]),
  ("taile", [(0x300, 0x301), (0x307, 0x308), (0x30C, 0x30C), (0x1040, 0x1049)]),
  ("takri", [(0x964, 0x965), (0xA830, 0xA839)]),
  ("tamil", [(0x951, 0x952), (0x964, 0x965), (0x1CDA, 0x1CDA), (0xA8F3, 0xA8F3), (0x11301,
    0x11301), (0x11303, 0x11303), (0x1133B, 0x1133C)]),
  ("tangut", [(0x2FF0, 0x2FFF), (0x31EF, 0x31EF)]),
  ("telugu", [(0x951, 0x952), (0x964, 0x965), (0x1CD5, 0x1CD6), (0x1CD8, 0x1CD8), (0x1CDA,
    0x1CDA), (0x1CF2, 0x1CF2)]),
  ("thaana", [(0x60C, 0x60C), (0x61B, 0x61C), (0x61F, 0x61F), (0x660, 0x669), (0xFDF2, 0xFDF2),
    (0xFDFD, 0xFDFD)]),
  ("thai", [(0x2BC, 0x2BC), (0x2D7, 0x2D7), (0x303, 0x303), (0x331, 0x331)]),
  ("tibetan", [(0x3008, 0x300B)]),
  ("tifinagh", [(0x302, 0x302), (0x304, 0x304), (0x306, 0x309), (0x323, 0x323)]),
  ("tirhuta", [(0x951, 0x952), (0x964, 0x965), (0x1CD5, 0x1CD5), (0x1CE2, 0x1CE2), (0x1CF2,
    0x1CF2), (0xA830, 0xA839)]),
  ("todhri", [(0x301, 0x301), (0x304, 0x304), (0x307, 0x307), (0x311, 0x311), (0x313, 0x313),
    (0x35E, 0x35E)]), ("toto", [(0x2BC, 0x2BC)]),
  ("tulutigalari", [(0xCE6, 0xCEF), (0x1CF2, 0x1CF2), (0x1CF4, 0x1CF4), (0xA830, 0xA835), (0xA8F1,
    0xA8F1)]), ("yezidi", [(0x60C, 0x60C), (0x61B, 0x61B), (0x61F, 0x61F), (0x660, 0x669)]),
  ("yi", [(0x3001, 0x3002), (0x3008, 0x3011), (0x3014, 0x301B), (0x30FB, 0x30FB), (0xFF61,
    0xFF65)])]

private def sharedByAny : Ranges := .ofList (shared.flatMap (·.2))

/-- The symbols that a script uses. Those that are shared by certain scripts are neither common nor
inherited. -/
def extension (name : String) (script : Ranges) : Ranges :=
  if name = "common" || name = "inherited" then script.diff sharedByAny
  else script.union ((shared.lookup name).getD [])

end Descent.Unicode.Script
