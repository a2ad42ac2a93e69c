import LayoutCheck.Text.Characters

/-! # Line breaking

The property Line_Break, and where a line may end by the default rules of Unicode. Letters are the
rest; conditional nonstarters count as nonstarters; quotation marks are told apart by the side they
belong to, and opening marks by their width. Runs of a script that sets no blanks between words
would need a dictionary, and there is none: such a run is kept whole, and a line may end behind it. -/

namespace LayoutCheck

inductive BreakClass where
  | letter
  | mandatory
  | carriageReturn
  | lineFeed
  | nextLine
  | space
  | zeroWidthSpace
  | wordJoiner
  | glue
  | joiner
  | combining
  | afterwards
  | beforehand
  | eitherSide
  | hyphen
  | contingent
  | closing
  | closingParenthesis
  | exclamation
  | inseparable
  | nonstarter
  | opening
  | wideOpening
  | quotation
  | initialQuotation
  | finalQuotation
  | infixSeparator
  | digit
  | afterNumber
  | beforeNumber
  | slash
  | hebrewLetter
  | ideograph
  | emojiBase
  | emojiModifier
  | reservedPictograph
  | regionalIndicator
  | dottedCircle
  | aksara
  | aksaraPrebase
  | aksaraStart
  | virama
  | finalVirama
  | leadingJamo
  | vowelJamo
  | trailingJamo
  | unspaced
  | openSyllable
  | closedSyllable
  deriving DecidableEq, Repr

namespace BreakClass

set_option maxRecDepth 4000 in
def glueCharacters : CodePoints :=
  [(0xA0, 0xA0), (0x35C, 0x362), (0xF08, 0xF08), (0xF0C, 0xF0C), (0xF12, 0xF12), (0xFD9, 0xFDA),
   (0x180E, 0x180E), (0x1AEB, 0x1AEB), (0x1DCD, 0x1DCD), (0x1DFC, 0x1DFC), (0x2007, 0x2007),
   (0x2011, 0x2011), (0x202F, 0x202F), (0xFE20, 0xFE20), (0xFE22, 0xFE22), (0xFE24, 0xFE24),
   (0xFE26, 0xFE27), (0xFE29, 0xFE29), (0xFE2B, 0xFE2B), (0xFE2D, 0xFE2E), (0x1107F, 0x1107F),
   (0x13430, 0x13436), (0x13439, 0x1343B), (0x16FE4, 0x16FE4)]

set_option maxRecDepth 4000 in
def combiningCharacters : CodePoints :=
  [(0x0, 0x8), (0xE, 0x1F), (0x7F, 0x84), (0x86, 0x9F), (0x300, 0x35B), (0x363, 0x36F),
   (0x483, 0x489), (0x591, 0x5BD), (0x5BF, 0x5BF), (0x5C1, 0x5C2), (0x5C4, 0x5C5), (0x5C7, 0x5C7),
   (0x610, 0x61A), (0x61C, 0x61C), (0x64B, 0x65F), (0x670, 0x670), (0x6D6, 0x6DC), (0x6DF, 0x6E4),
   (0x6E7, 0x6E8), (0x6EA, 0x6ED), (0x711, 0x711), (0x730, 0x74A), (0x7A6, 0x7B0), (0x7EB, 0x7F3),
   (0x7FD, 0x7FD), (0x816, 0x819), (0x81B, 0x823), (0x825, 0x827), (0x829, 0x82D), (0x859, 0x85B),
   (0x897, 0x89F), (0x8CA, 0x8E1), (0x8E3, 0x903), (0x93A, 0x93C), (0x93E, 0x94F), (0x951, 0x957),
   (0x962, 0x963), (0x981, 0x983), (0x9BC, 0x9BC), (0x9BE, 0x9C4), (0x9C7, 0x9C8), (0x9CB, 0x9CD),
   (0x9D7, 0x9D7), (0x9E2, 0x9E3), (0x9FE, 0x9FE), (0xA01, 0xA03), (0xA3C, 0xA3C), (0xA3E, 0xA42),
   (0xA47, 0xA48), (0xA4B, 0xA4D), (0xA51, 0xA51), (0xA70, 0xA71), (0xA75, 0xA75), (0xA81, 0xA83),
   (0xABC, 0xABC), (0xABE, 0xAC5), (0xAC7, 0xAC9), (0xACB, 0xACD), (0xAE2, 0xAE3), (0xAFA, 0xAFF),
   (0xB01, 0xB03), (0xB3C, 0xB3C), (0xB3E, 0xB44), (0xB47, 0xB48), (0xB4B, 0xB4D), (0xB55, 0xB57),
   (0xB62, 0xB63), (0xB82, 0xB82), (0xBBE, 0xBC2), (0xBC6, 0xBC8), (0xBCA, 0xBCD), (0xBD7, 0xBD7),
   (0xC00, 0xC04), (0xC3C, 0xC3C), (0xC3E, 0xC44), (0xC46, 0xC48), (0xC4A, 0xC4D), (0xC55, 0xC56),
   (0xC62, 0xC63), (0xC81, 0xC83), (0xCBC, 0xCBC), (0xCBE, 0xCC4), (0xCC6, 0xCC8), (0xCCA, 0xCCD),
   (0xCD5, 0xCD6), (0xCE2, 0xCE3), (0xCF3, 0xCF3), (0xD00, 0xD03), (0xD3B, 0xD3C), (0xD3E, 0xD44),
   (0xD46, 0xD48), (0xD4A, 0xD4D), (0xD57, 0xD57), (0xD62, 0xD63), (0xD81, 0xD83), (0xDCA, 0xDCA),
   (0xDCF, 0xDD4), (0xDD6, 0xDD6), (0xDD8, 0xDDF), (0xDF2, 0xDF3), (0xF18, 0xF19), (0xF35, 0xF35),
   (0xF37, 0xF37), (0xF39, 0xF39), (0xF3E, 0xF3F), (0xF71, 0xF7E), (0xF80, 0xF84), (0xF86, 0xF87),
   (0xF8D, 0xF97), (0xF99, 0xFBC), (0xFC6, 0xFC6), (0x135D, 0x135F), (0x1712, 0x1715),
   (0x1732, 0x1734), (0x1752, 0x1753), (0x1772, 0x1773), (0x180B, 0x180D), (0x180F, 0x180F),
   (0x1885, 0x1886), (0x18A9, 0x18A9), (0x1920, 0x192B), (0x1930, 0x193B), (0x1A17, 0x1A1B),
   (0x1A7F, 0x1A7F), (0x1AB0, 0x1ADD), (0x1AE0, 0x1AEA), (0x1B00, 0x1B04), (0x1B34, 0x1B43),
   (0x1B6B, 0x1B73), (0x1B80, 0x1B82), (0x1BA1, 0x1BAD), (0x1BE6, 0x1BF1), (0x1C24, 0x1C37),
   (0x1CD0, 0x1CD2), (0x1CD4, 0x1CE8), (0x1CED, 0x1CED), (0x1CF4, 0x1CF4), (0x1CF7, 0x1CF9),
   (0x1DC0, 0x1DCC), (0x1DCE, 0x1DFB), (0x1DFD, 0x1DFF), (0x200C, 0x200C), (0x200E, 0x200F),
   (0x202A, 0x202E), (0x2066, 0x206F), (0x20D0, 0x20F0), (0x2CEF, 0x2CF1), (0x2D7F, 0x2D7F),
   (0x2DE0, 0x2DFF), (0x302A, 0x302F), (0x3035, 0x3035), (0x3099, 0x309A), (0xA66F, 0xA672),
   (0xA674, 0xA67D), (0xA69E, 0xA69F), (0xA6F0, 0xA6F1), (0xA802, 0xA802), (0xA806, 0xA806),
   (0xA80B, 0xA80B), (0xA823, 0xA827), (0xA82C, 0xA82C), (0xA880, 0xA881), (0xA8B4, 0xA8C5),
   (0xA8E0, 0xA8F1), (0xA8FF, 0xA8FF), (0xA926, 0xA92D), (0xA947, 0xA953), (0xA980, 0xA983),
   (0xA9B3, 0xA9BF), (0xAA29, 0xAA36), (0xAA43, 0xAA43), (0xAA4C, 0xAA4D), (0xAAEB, 0xAAEF),
   (0xAAF5, 0xAAF6), (0xABE3, 0xABEA), (0xABEC, 0xABED), (0xFB1E, 0xFB1E), (0xFE00, 0xFE0F),
   (0xFE21, 0xFE21), (0xFE23, 0xFE23), (0xFE25, 0xFE25), (0xFE28, 0xFE28), (0xFE2A, 0xFE2A),
   (0xFE2C, 0xFE2C), (0xFE2F, 0xFE2F), (0xFFF9, 0xFFFB), (0x101FD, 0x101FD), (0x102E0, 0x102E0),
   (0x10376, 0x1037A), (0x10A01, 0x10A03), (0x10A05, 0x10A06), (0x10A0C, 0x10A0F),
   (0x10A38, 0x10A3A), (0x10A3F, 0x10A3F), (0x10AE5, 0x10AE6), (0x10D24, 0x10D27),
   (0x10D69, 0x10D6D), (0x10EAB, 0x10EAC), (0x10EFA, 0x10EFF), (0x10F46, 0x10F50),
   (0x10F82, 0x10F85), (0x11000, 0x11002), (0x11038, 0x11045), (0x11070, 0x11070),
   (0x11073, 0x11074), (0x11080, 0x11082), (0x110B0, 0x110BA), (0x110C2, 0x110C2),
   (0x11100, 0x11102), (0x11127, 0x11134), (0x11145, 0x11146), (0x11173, 0x11173),
   (0x11180, 0x11182), (0x111B3, 0x111C0), (0x111C9, 0x111CC), (0x111CE, 0x111CF),
   (0x1122C, 0x11237), (0x1123E, 0x1123E), (0x11241, 0x11241), (0x112DF, 0x112EA),
   (0x11300, 0x11303), (0x1133B, 0x1133C), (0x1133E, 0x11344), (0x11347, 0x11348),
   (0x1134B, 0x1134C), (0x11357, 0x11357), (0x11362, 0x11363), (0x11366, 0x1136C),
   (0x11370, 0x11374), (0x113B8, 0x113C0), (0x113C2, 0x113C2), (0x113C5, 0x113C5),
   (0x113C7, 0x113CA), (0x113CC, 0x113CF), (0x113D2, 0x113D2), (0x113E1, 0x113E2),
   (0x11435, 0x11446), (0x1145E, 0x1145E), (0x114B0, 0x114C3), (0x115AF, 0x115B5),
   (0x115B8, 0x115C0), (0x115DC, 0x115DD), (0x11630, 0x11640), (0x116AB, 0x116B7),
   (0x1182C, 0x1183A), (0x11930, 0x11935), (0x11937, 0x11938), (0x1193B, 0x1193D),
   (0x11940, 0x11940), (0x11942, 0x11943), (0x119D1, 0x119D7), (0x119DA, 0x119E0),
   (0x119E4, 0x119E4), (0x11A01, 0x11A0A), (0x11A33, 0x11A39), (0x11A3B, 0x11A3E),
   (0x11A47, 0x11A47), (0x11A51, 0x11A5B), (0x11A8A, 0x11A99), (0x11B60, 0x11B67),
   (0x11C2F, 0x11C36), (0x11C38, 0x11C3F), (0x11C92, 0x11CA7), (0x11CA9, 0x11CB6),
   (0x11D31, 0x11D36), (0x11D3A, 0x11D3A), (0x11D3C, 0x11D3D), (0x11D3F, 0x11D45),
   (0x11D47, 0x11D47), (0x11D8A, 0x11D8E), (0x11D90, 0x11D91), (0x11D93, 0x11D97),
   (0x11EF3, 0x11EF6), (0x11F00, 0x11F01), (0x11F03, 0x11F03), (0x11F34, 0x11F3A),
   (0x11F3E, 0x11F41), (0x11F5A, 0x11F5A), (0x13440, 0x13440), (0x13447, 0x13455),
   (0x1611E, 0x1612F), (0x16AF0, 0x16AF4), (0x16B30, 0x16B36), (0x16F4F, 0x16F4F),
   (0x16F51, 0x16F87), (0x16F8F, 0x16F92), (0x16FF0, 0x16FF1), (0x1BC9D, 0x1BC9E),
   (0x1BCA0, 0x1BCA3), (0x1CF00, 0x1CF2D), (0x1CF30, 0x1CF46), (0x1D165, 0x1D169),
   (0x1D16D, 0x1D182), (0x1D185, 0x1D18B), (0x1D1AA, 0x1D1AD), (0x1D242, 0x1D244),
   (0x1DA00, 0x1DA36), (0x1DA3B, 0x1DA6C), (0x1DA75, 0x1DA75), (0x1DA84, 0x1DA84),
   (0x1DA9B, 0x1DA9F), (0x1DAA1, 0x1DAAF), (0x1E000, 0x1E006), (0x1E008, 0x1E018),
   (0x1E01B, 0x1E021), (0x1E023, 0x1E024), (0x1E026, 0x1E02A), (0x1E08F, 0x1E08F),
   (0x1E130, 0x1E136), (0x1E2AE, 0x1E2AE), (0x1E2EC, 0x1E2EF), (0x1E4EC, 0x1E4EF),
   (0x1E5EE, 0x1E5EF), (0x1E6E3, 0x1E6E3), (0x1E6E6, 0x1E6E6), (0x1E6EE, 0x1E6EF),
   (0x1E6F5, 0x1E6F5), (0x1E8D0, 0x1E8D6), (0x1E944, 0x1E94A), (0xE0001, 0xE0001),
   (0xE0020, 0xE007F), (0xE0100, 0xE01EF)]

set_option maxRecDepth 4000 in
def afterwardsCharacters : CodePoints :=
  [(0x9, 0x9), (0x7C, 0x7C), (0xAD, 0xAD), (0x58A, 0x58A), (0x5BE, 0x5BE), (0x964, 0x965),
   (0xE5A, 0xE5B), (0xF0B, 0xF0B), (0xF34, 0xF34), (0xF7F, 0xF7F), (0xF85, 0xF85), (0xFBE, 0xFBF),
   (0xFD2, 0xFD2), (0x104A, 0x104B), (0x1361, 0x1361), (0x1400, 0x1400), (0x1680, 0x1680),
   (0x16EB, 0x16ED), (0x1735, 0x1736), (0x17D4, 0x17D5), (0x17D8, 0x17D8), (0x17DA, 0x17DA),
   (0x1804, 0x1805), (0x1B4E, 0x1B4F), (0x1B5A, 0x1B5B), (0x1B5D, 0x1B60), (0x1B7D, 0x1B7F),
   (0x1C3B, 0x1C3F), (0x1C7E, 0x1C7F), (0x2000, 0x2006), (0x2008, 0x200A), (0x2010, 0x2010),
   (0x2012, 0x2013), (0x2027, 0x2027), (0x2056, 0x2056), (0x2058, 0x205B), (0x205D, 0x205F),
   (0x2800, 0x2800), (0x2CFA, 0x2CFC), (0x2CFF, 0x2CFF), (0x2D70, 0x2D70), (0x2E0E, 0x2E15),
   (0x2E17, 0x2E17), (0x2E19, 0x2E19), (0x2E2A, 0x2E2D), (0x2E30, 0x2E31), (0x2E33, 0x2E34),
   (0x2E3C, 0x2E3E), (0x2E40, 0x2E41), (0x2E43, 0x2E4A), (0x2E4C, 0x2E4C), (0x2E4E, 0x2E4F),
   (0x2E5D, 0x2E5D), (0x3000, 0x3000), (0xA4FE, 0xA4FF), (0xA60D, 0xA60D), (0xA60F, 0xA60F),
   (0xA6F3, 0xA6F7), (0xA8CE, 0xA8CF), (0xA92E, 0xA92F), (0xA9C7, 0xA9C9), (0xA9CF, 0xA9CF),
   (0xAA40, 0xAA42), (0xAA44, 0xAA4B), (0xAA5D, 0xAA5F), (0xAAF0, 0xAAF1), (0xABEB, 0xABEB),
   (0x10100, 0x10102), (0x1039F, 0x1039F), (0x103D0, 0x103D0), (0x10857, 0x10857),
   (0x1091F, 0x1091F), (0x10A50, 0x10A57), (0x10AF0, 0x10AF5), (0x10B39, 0x10B3F),
   (0x10D6E, 0x10D6E), (0x10EAD, 0x10EAD), (0x10ED0, 0x10ED0), (0x11047, 0x11048),
   (0x110BE, 0x110C1), (0x11140, 0x11143), (0x111C5, 0x111C6), (0x111C8, 0x111C8),
   (0x111DD, 0x111DF), (0x11238, 0x11239), (0x1123B, 0x1123C), (0x112A9, 0x112A9),
   (0x1133D, 0x1133D), (0x1135D, 0x1135D), (0x1144B, 0x1144E), (0x1145A, 0x1145B),
   (0x115C2, 0x115C3), (0x115C9, 0x115D7), (0x11641, 0x11642), (0x1173C, 0x1173E),
   (0x11944, 0x11946), (0x11A41, 0x11A44), (0x11A9A, 0x11A9C), (0x11AA1, 0x11AA2),
   (0x11C41, 0x11C45), (0x11EF2, 0x11EF2), (0x11EF7, 0x11EF8), (0x11F43, 0x11F44),
   (0x11FFF, 0x11FFF), (0x12470, 0x12474), (0x16A6E, 0x16A6F), (0x16AF5, 0x16AF5),
   (0x16B37, 0x16B39), (0x16B44, 0x16B44), (0x16D6E, 0x16D6F), (0x16E97, 0x16E98),
   (0x1BC9F, 0x1BC9F), (0x1DA87, 0x1DA8A)]

set_option maxRecDepth 4000 in
def beforehandCharacters : CodePoints :=
  [(0xB4, 0xB4), (0x2C8, 0x2C8), (0x2CC, 0x2CC), (0x2DF, 0x2DF), (0xC77, 0xC77), (0xC84, 0xC84),
   (0xF01, 0xF04), (0xF06, 0xF07), (0xF09, 0xF0A), (0xFD0, 0xFD1), (0xFD3, 0xFD3), (0x1806, 0x1806),
   (0x1FFD, 0x1FFD), (0xA874, 0xA875), (0xA8FC, 0xA8FC), (0x11175, 0x11175), (0x111DB, 0x111DB),
   (0x115C1, 0x115C1), (0x11660, 0x1166C), (0x119E2, 0x119E2), (0x11A3F, 0x11A3F),
   (0x11A45, 0x11A45), (0x11A9E, 0x11AA0), (0x11B00, 0x11B09), (0x11C70, 0x11C70)]

set_option maxRecDepth 4000 in
def closingCharacters : CodePoints :=
  [(0x7D, 0x7D), (0xF3B, 0xF3B), (0xF3D, 0xF3D), (0x169C, 0x169C), (0x2046, 0x2046),
   (0x207E, 0x207E), (0x208E, 0x208E), (0x2309, 0x2309), (0x230B, 0x230B), (0x232A, 0x232A),
   (0x2769, 0x2769), (0x276B, 0x276B), (0x276D, 0x276D), (0x276F, 0x276F), (0x2771, 0x2771),
   (0x2773, 0x2773), (0x2775, 0x2775), (0x27C6, 0x27C6), (0x27E7, 0x27E7), (0x27E9, 0x27E9),
   (0x27EB, 0x27EB), (0x27ED, 0x27ED), (0x27EF, 0x27EF), (0x2984, 0x2984), (0x2986, 0x2986),
   (0x2988, 0x2988), (0x298A, 0x298A), (0x298C, 0x298C), (0x298E, 0x298E), (0x2990, 0x2990),
   (0x2992, 0x2992), (0x2994, 0x2994), (0x2996, 0x2996), (0x2998, 0x2998), (0x29D9, 0x29D9),
   (0x29DB, 0x29DB), (0x29FD, 0x29FD), (0x2E23, 0x2E23), (0x2E25, 0x2E25), (0x2E27, 0x2E27),
   (0x2E29, 0x2E29), (0x3001, 0x3002), (0x3009, 0x3009), (0x300B, 0x300B), (0x300D, 0x300D),
   (0x300F, 0x300F), (0x3011, 0x3011), (0x3015, 0x3015), (0x3017, 0x3017), (0x3019, 0x3019),
   (0x301B, 0x301B), (0x301E, 0x301F), (0xFD3E, 0xFD3E), (0xFE10, 0xFE12), (0xFE18, 0xFE18),
   (0xFE36, 0xFE36), (0xFE38, 0xFE38), (0xFE3A, 0xFE3A), (0xFE3C, 0xFE3C), (0xFE3E, 0xFE3E),
   (0xFE40, 0xFE40), (0xFE42, 0xFE42), (0xFE44, 0xFE44), (0xFE48, 0xFE48), (0xFE50, 0xFE50),
   (0xFE52, 0xFE52), (0xFE5A, 0xFE5A), (0xFE5C, 0xFE5C), (0xFE5E, 0xFE5E), (0xFF09, 0xFF09),
   (0xFF0C, 0xFF0C), (0xFF0E, 0xFF0E), (0xFF3D, 0xFF3D), (0xFF5D, 0xFF5D), (0xFF60, 0xFF61),
   (0xFF63, 0xFF64), (0x1325B, 0x1325D), (0x13282, 0x13282), (0x13287, 0x13287), (0x13289, 0x13289),
   (0x1337A, 0x1337B), (0x13438, 0x13438), (0x1343D, 0x1343D), (0x1343F, 0x1343F),
   (0x145CF, 0x145CF)]

set_option maxRecDepth 4000 in
def exclamationCharacters : CodePoints :=
  [(0x21, 0x21), (0x3F, 0x3F), (0x5C6, 0x5C6), (0x61B, 0x61B), (0x61D, 0x61F), (0x6D4, 0x6D4),
   (0x7F9, 0x7F9), (0xF0D, 0xF11), (0xF14, 0xF14), (0x1802, 0x1803), (0x1808, 0x1809),
   (0x1944, 0x1945), (0x2762, 0x2763), (0x2CF9, 0x2CF9), (0x2CFE, 0x2CFE), (0x2E2E, 0x2E2E),
   (0x2E53, 0x2E54), (0xA60E, 0xA60E), (0xA876, 0xA877), (0xFE15, 0xFE16), (0xFE56, 0xFE57),
   (0xFF01, 0xFF01), (0xFF1F, 0xFF1F), (0x115C4, 0x115C5), (0x11C71, 0x11C71)]

set_option maxRecDepth 4000 in
def nonstarterCharacters : CodePoints :=
  [(0x17D6, 0x17D6), (0x203C, 0x203D), (0x2047, 0x2049), (0x3005, 0x3005), (0x301C, 0x301C),
   (0x303B, 0x303C), (0x3041, 0x3041), (0x3043, 0x3043), (0x3045, 0x3045), (0x3047, 0x3047),
   (0x3049, 0x3049), (0x3063, 0x3063), (0x3083, 0x3083), (0x3085, 0x3085), (0x3087, 0x3087),
   (0x308E, 0x308E), (0x3095, 0x3096), (0x309B, 0x309E), (0x30A0, 0x30A1), (0x30A3, 0x30A3),
   (0x30A5, 0x30A5), (0x30A7, 0x30A7), (0x30A9, 0x30A9), (0x30C3, 0x30C3), (0x30E3, 0x30E3),
   (0x30E5, 0x30E5), (0x30E7, 0x30E7), (0x30EE, 0x30EE), (0x30F5, 0x30F6), (0x30FB, 0x30FE),
   (0x31F0, 0x31FF), (0xA015, 0xA015), (0xFE13, 0xFE14), (0xFE54, 0xFE55), (0xFF1A, 0xFF1B),
   (0xFF65, 0xFF65), (0xFF67, 0xFF70), (0xFF9E, 0xFF9F), (0x16FE0, 0x16FE3), (0x16FF2, 0x16FF3),
   (0x1B132, 0x1B132), (0x1B150, 0x1B152), (0x1B155, 0x1B155), (0x1B164, 0x1B167),
   (0x1F679, 0x1F67B)]

set_option maxRecDepth 4000 in
def openingCharacters : CodePoints :=
  [(0x28, 0x28), (0x5B, 0x5B), (0x7B, 0x7B), (0xA1, 0xA1), (0xBF, 0xBF), (0xF3A, 0xF3A),
   (0xF3C, 0xF3C), (0x169B, 0x169B), (0x201A, 0x201A), (0x201E, 0x201E), (0x2045, 0x2045),
   (0x207D, 0x207D), (0x208D, 0x208D), (0x2308, 0x2308), (0x230A, 0x230A), (0x2768, 0x2768),
   (0x276A, 0x276A), (0x276C, 0x276C), (0x276E, 0x276E), (0x2770, 0x2770), (0x2772, 0x2772),
   (0x2774, 0x2774), (0x27C5, 0x27C5), (0x27E6, 0x27E6), (0x27E8, 0x27E8), (0x27EA, 0x27EA),
   (0x27EC, 0x27EC), (0x27EE, 0x27EE), (0x2983, 0x2983), (0x2985, 0x2985), (0x2987, 0x2987),
   (0x2989, 0x2989), (0x298B, 0x298B), (0x298D, 0x298D), (0x298F, 0x298F), (0x2991, 0x2991),
   (0x2993, 0x2993), (0x2995, 0x2995), (0x2997, 0x2997), (0x29D8, 0x29D8), (0x29DA, 0x29DA),
   (0x29FC, 0x29FC), (0x2E18, 0x2E18), (0x2E22, 0x2E22), (0x2E24, 0x2E24), (0x2E26, 0x2E26),
   (0x2E28, 0x2E28), (0x2E42, 0x2E42), (0x2E55, 0x2E55), (0x2E57, 0x2E57), (0x2E59, 0x2E59),
   (0x2E5B, 0x2E5B), (0xFD3F, 0xFD3F), (0x13258, 0x1325A), (0x13286, 0x13286), (0x13288, 0x13288),
   (0x13379, 0x13379), (0x1342F, 0x1342F), (0x13437, 0x13437), (0x1343C, 0x1343C),
   (0x1343E, 0x1343E), (0x145CE, 0x145CE), (0x1E95E, 0x1E95F)]

set_option maxRecDepth 4000 in
def wideOpeningCharacters : CodePoints :=
  [(0x2329, 0x2329), (0x3008, 0x3008), (0x300A, 0x300A), (0x300C, 0x300C), (0x300E, 0x300E),
   (0x3010, 0x3010), (0x3014, 0x3014), (0x3016, 0x3016), (0x3018, 0x3018), (0x301A, 0x301A),
   (0x301D, 0x301D), (0xFE17, 0xFE17), (0xFE35, 0xFE35), (0xFE37, 0xFE37), (0xFE39, 0xFE39),
   (0xFE3B, 0xFE3B), (0xFE3D, 0xFE3D), (0xFE3F, 0xFE3F), (0xFE41, 0xFE41), (0xFE43, 0xFE43),
   (0xFE47, 0xFE47), (0xFE59, 0xFE59), (0xFE5B, 0xFE5B), (0xFE5D, 0xFE5D), (0xFF08, 0xFF08),
   (0xFF3B, 0xFF3B), (0xFF5B, 0xFF5B), (0xFF5F, 0xFF5F), (0xFF62, 0xFF62)]

set_option maxRecDepth 4000 in
def digitCharacters : CodePoints :=
  [(0x30, 0x39), (0x600, 0x605), (0x660, 0x669), (0x66B, 0x66C), (0x6DD, 0x6DD), (0x6F0, 0x6F9),
   (0x7C0, 0x7C9), (0x890, 0x891), (0x8E2, 0x8E2), (0x966, 0x96F), (0x9E6, 0x9EF), (0xA66, 0xA6F),
   (0xAE6, 0xAEF), (0xB66, 0xB6F), (0xBE6, 0xBEF), (0xC66, 0xC6F), (0xCE6, 0xCEF), (0xD66, 0xD6F),
   (0xDE6, 0xDEF), (0xE50, 0xE59), (0xED0, 0xED9), (0xF20, 0xF29), (0x1040, 0x1049),
   (0x1090, 0x1099), (0x17E0, 0x17E9), (0x1810, 0x1819), (0x1946, 0x194F), (0x19D0, 0x19DA),
   (0x1A80, 0x1A89), (0x1A90, 0x1A99), (0x1BB0, 0x1BB9), (0x1C40, 0x1C49), (0x1C50, 0x1C59),
   (0xA620, 0xA629), (0xA8D0, 0xA8D9), (0xA900, 0xA909), (0xA9F0, 0xA9F9), (0xABF0, 0xABF9),
   (0x104A0, 0x104A9), (0x10D30, 0x10D39), (0x10D40, 0x10D49), (0x110BD, 0x110BD),
   (0x110CD, 0x110CD), (0x110F0, 0x110F9), (0x11136, 0x1113F), (0x111D0, 0x111D9),
   (0x112F0, 0x112F9), (0x11450, 0x11459), (0x114D0, 0x114D9), (0x11650, 0x11659),
   (0x116C0, 0x116C9), (0x116D0, 0x116E3), (0x11730, 0x11739), (0x118E0, 0x118E9),
   (0x11BF0, 0x11BF9), (0x11C50, 0x11C59), (0x11D50, 0x11D59), (0x11DA0, 0x11DA9),
   (0x11DE0, 0x11DE9), (0x16A60, 0x16A69), (0x16AC0, 0x16AC9), (0x16B50, 0x16B59),
   (0x16D70, 0x16D79), (0x1CCF0, 0x1CCF9), (0x1D7CE, 0x1D7FF), (0x1E140, 0x1E149),
   (0x1E2F0, 0x1E2F9), (0x1E4F0, 0x1E4F9), (0x1E5F1, 0x1E5FA), (0x1E950, 0x1E959),
   (0x1FBF0, 0x1FBF9)]

set_option maxRecDepth 4000 in
def afterNumberCharacters : CodePoints :=
  [(0x25, 0x25), (0xA2, 0xA2), (0xB0, 0xB0), (0x609, 0x60B), (0x66A, 0x66A), (0x9F2, 0x9F3),
   (0x9F9, 0x9F9), (0xD79, 0xD79), (0x2030, 0x2037), (0x2057, 0x2057), (0x20A7, 0x20A7),
   (0x20B6, 0x20B6), (0x20BB, 0x20BB), (0x20BE, 0x20BE), (0x20C0, 0x20C0), (0x2103, 0x2103),
   (0x2109, 0x2109), (0xA838, 0xA838), (0xFDFC, 0xFDFC), (0xFE6A, 0xFE6A), (0xFF05, 0xFF05),
   (0xFFE0, 0xFFE0), (0x11FDD, 0x11FE0), (0x1ECAC, 0x1ECAC), (0x1ECB0, 0x1ECB0)]

set_option maxRecDepth 4000 in
def beforeNumberCharacters : CodePoints :=
  [(0x24, 0x24), (0x2B, 0x2B), (0x5C, 0x5C), (0xA3, 0xA5), (0xB1, 0xB1), (0x58F, 0x58F),
   (0x7FE, 0x7FF), (0x9FB, 0x9FB), (0xAF1, 0xAF1), (0xBF9, 0xBF9), (0xE3F, 0xE3F), (0x17DB, 0x17DB),
   (0x20A0, 0x20A6), (0x20A8, 0x20B5), (0x20B7, 0x20BA), (0x20BC, 0x20BD), (0x20BF, 0x20BF),
   (0x20C1, 0x20CF), (0x2116, 0x2116), (0x2212, 0x2213), (0xFE69, 0xFE69), (0xFF04, 0xFF04),
   (0xFFE1, 0xFFE1), (0xFFE5, 0xFFE6), (0x1E2FF, 0x1E2FF)]

set_option maxRecDepth 4000 in
def ideographCharacters : CodePoints :=
  [(0x1B5C, 0x1B5C), (0x1B61, 0x1B6A), (0x1B74, 0x1B7C), (0x231A, 0x231B), (0x23F0, 0x23F3),
   (0x2600, 0x2603), (0x2614, 0x2615), (0x2618, 0x2618), (0x261A, 0x261C), (0x261E, 0x261F),
   (0x2639, 0x263B), (0x2668, 0x2668), (0x267F, 0x267F), (0x26BD, 0x26C8), (0x26CD, 0x26CD),
   (0x26CF, 0x26D1), (0x26D3, 0x26D4), (0x26D8, 0x26D9), (0x26DC, 0x26DC), (0x26DF, 0x26E1),
   (0x26EA, 0x26EA), (0x26F1, 0x26F5), (0x26F7, 0x26F8), (0x26FA, 0x26FA), (0x26FD, 0x2704),
   (0x2708, 0x2709), (0x2764, 0x2764), (0x2E80, 0x2E99), (0x2E9B, 0x2EF3), (0x2F00, 0x2FD5),
   (0x2FF0, 0x2FFF), (0x3003, 0x3004), (0x3006, 0x3007), (0x3012, 0x3013), (0x3020, 0x3029),
   (0x3030, 0x3034), (0x3036, 0x303A), (0x303D, 0x303F), (0x3042, 0x3042), (0x3044, 0x3044),
   (0x3046, 0x3046), (0x3048, 0x3048), (0x304A, 0x3062), (0x3064, 0x3082), (0x3084, 0x3084),
   (0x3086, 0x3086), (0x3088, 0x308D), (0x308F, 0x3094), (0x309F, 0x309F), (0x30A2, 0x30A2),
   (0x30A4, 0x30A4), (0x30A6, 0x30A6), (0x30A8, 0x30A8), (0x30AA, 0x30C2), (0x30C4, 0x30E2),
   (0x30E4, 0x30E4), (0x30E6, 0x30E6), (0x30E8, 0x30ED), (0x30EF, 0x30F4), (0x30F7, 0x30FA),
   (0x30FF, 0x30FF), (0x3105, 0x312F), (0x3131, 0x318E), (0x3190, 0x31E5), (0x31EF, 0x31EF),
   (0x3200, 0x321E), (0x3220, 0x3247), (0x3250, 0x4DBF), (0x4E00, 0xA014), (0xA016, 0xA48C),
   (0xA490, 0xA4C6), (0xA9C1, 0xA9C6), (0xA9CA, 0xA9CD), (0xA9DE, 0xA9DF), (0xAA5C, 0xAA5C),
   (0xF900, 0xFAFF), (0xFE30, 0xFE34), (0xFE45, 0xFE46), (0xFE49, 0xFE4F), (0xFE51, 0xFE51),
   (0xFE58, 0xFE58), (0xFE5F, 0xFE66), (0xFE68, 0xFE68), (0xFE6B, 0xFE6B), (0xFF02, 0xFF03),
   (0xFF06, 0xFF07), (0xFF0A, 0xFF0B), (0xFF0D, 0xFF0D), (0xFF0F, 0xFF19), (0xFF1C, 0xFF1E),
   (0xFF20, 0xFF3A), (0xFF3C, 0xFF3C), (0xFF3E, 0xFF5A), (0xFF5C, 0xFF5C), (0xFF5E, 0xFF5E),
   (0xFF66, 0xFF66), (0xFF71, 0xFF9D), (0xFFA0, 0xFFBE), (0xFFC2, 0xFFC7), (0xFFCA, 0xFFCF),
   (0xFFD2, 0xFFD7), (0xFFDA, 0xFFDC), (0xFFE2, 0xFFE4), (0x11049, 0x1104D), (0x11052, 0x11065),
   (0x113B7, 0x113B7), (0x113D3, 0x113D5), (0x113D7, 0x113D8), (0x11F45, 0x11F4F),
   (0x16FF4, 0x16FF6), (0x17000, 0x18AFF), (0x18D00, 0x18D1E), (0x18D80, 0x18DF2),
   (0x1B000, 0x1B122), (0x1B170, 0x1B2FB), (0x1F000, 0x1F02B), (0x1F030, 0x1F093),
   (0x1F0A0, 0x1F0AE), (0x1F0B1, 0x1F0BF), (0x1F0C1, 0x1F0CF), (0x1F0D1, 0x1F0F5),
   (0x1F200, 0x1F202), (0x1F210, 0x1F23B), (0x1F240, 0x1F248), (0x1F250, 0x1F251),
   (0x1F260, 0x1F265), (0x1F300, 0x1F384), (0x1F386, 0x1F39B), (0x1F39E, 0x1F3B4),
   (0x1F3B7, 0x1F3BB), (0x1F3BD, 0x1F3C1), (0x1F3C5, 0x1F3C6), (0x1F3C8, 0x1F3C9),
   (0x1F3CD, 0x1F3FA), (0x1F400, 0x1F441), (0x1F444, 0x1F445), (0x1F451, 0x1F465),
   (0x1F479, 0x1F47B), (0x1F47D, 0x1F480), (0x1F484, 0x1F484), (0x1F488, 0x1F48E),
   (0x1F490, 0x1F490), (0x1F492, 0x1F49F), (0x1F4A1, 0x1F4A1), (0x1F4A3, 0x1F4A3),
   (0x1F4A5, 0x1F4A9), (0x1F4AB, 0x1F4AE), (0x1F4B0, 0x1F4B0), (0x1F4B3, 0x1F4FF),
   (0x1F507, 0x1F516), (0x1F525, 0x1F531), (0x1F54A, 0x1F573), (0x1F576, 0x1F579),
   (0x1F57B, 0x1F58F), (0x1F591, 0x1F594), (0x1F597, 0x1F5D3), (0x1F5DC, 0x1F5F3),
   (0x1F5FA, 0x1F644), (0x1F648, 0x1F64A), (0x1F680, 0x1F6A2), (0x1F6A4, 0x1F6B3),
   (0x1F6B7, 0x1F6BF), (0x1F6C1, 0x1F6CB), (0x1F6CD, 0x1F6D8), (0x1F6DC, 0x1F6EC),
   (0x1F6F0, 0x1F6FC), (0x1F774, 0x1F776), (0x1F77B, 0x1F77F), (0x1F7D5, 0x1F7D9),
   (0x1F7E0, 0x1F7EB), (0x1F7F0, 0x1F7F0), (0x1F90D, 0x1F90E), (0x1F910, 0x1F917),
   (0x1F920, 0x1F925), (0x1F927, 0x1F92F), (0x1F93A, 0x1F93B), (0x1F93F, 0x1F976),
   (0x1F978, 0x1F9B4), (0x1F9B7, 0x1F9B7), (0x1F9BA, 0x1F9BA), (0x1F9BC, 0x1F9CC),
   (0x1F9D0, 0x1F9D0), (0x1F9DE, 0x1F9FF), (0x1FA60, 0x1FA6D), (0x1FA70, 0x1FA7C),
   (0x1FA80, 0x1FA8A), (0x1FA8E, 0x1FAC2), (0x1FAC6, 0x1FAC6), (0x1FAC8, 0x1FAC8),
   (0x1FACD, 0x1FADC), (0x1FADF, 0x1FAEA), (0x1FAEF, 0x1FAEF), (0x20000, 0x2FFFD),
   (0x30000, 0x3FFFD)]

set_option maxRecDepth 4000 in
def emojiBaseCharacters : CodePoints :=
  [(0x261D, 0x261D), (0x26F9, 0x26F9), (0x270A, 0x270D), (0x1F385, 0x1F385), (0x1F3C2, 0x1F3C4),
   (0x1F3C7, 0x1F3C7), (0x1F3CA, 0x1F3CC), (0x1F442, 0x1F443), (0x1F446, 0x1F450),
   (0x1F466, 0x1F478), (0x1F47C, 0x1F47C), (0x1F481, 0x1F483), (0x1F485, 0x1F487),
   (0x1F48F, 0x1F48F), (0x1F491, 0x1F491), (0x1F4AA, 0x1F4AA), (0x1F574, 0x1F575),
   (0x1F57A, 0x1F57A), (0x1F590, 0x1F590), (0x1F595, 0x1F596), (0x1F645, 0x1F647),
   (0x1F64B, 0x1F64F), (0x1F6A3, 0x1F6A3), (0x1F6B4, 0x1F6B6), (0x1F6C0, 0x1F6C0),
   (0x1F6CC, 0x1F6CC), (0x1F90C, 0x1F90C), (0x1F90F, 0x1F90F), (0x1F918, 0x1F91F),
   (0x1F926, 0x1F926), (0x1F930, 0x1F939), (0x1F93C, 0x1F93E), (0x1F977, 0x1F977),
   (0x1F9B5, 0x1F9B6), (0x1F9B8, 0x1F9B9), (0x1F9BB, 0x1F9BB), (0x1F9CD, 0x1F9CF),
   (0x1F9D1, 0x1F9DD), (0x1FAC3, 0x1FAC5), (0x1FAF0, 0x1FAF8)]

set_option maxRecDepth 4000 in
def reservedPictographCharacters : CodePoints :=
  [(0x1F02C, 0x1F02F), (0x1F094, 0x1F09F), (0x1F0AF, 0x1F0B0), (0x1F0C0, 0x1F0C0),
   (0x1F0D0, 0x1F0D0), (0x1F0F6, 0x1F0FF), (0x1F1AE, 0x1F1E5), (0x1F203, 0x1F20F),
   (0x1F23C, 0x1F23F), (0x1F249, 0x1F24F), (0x1F252, 0x1F25F), (0x1F266, 0x1F2FF),
   (0x1F6D9, 0x1F6DB), (0x1F6ED, 0x1F6EF), (0x1F6FD, 0x1F6FF), (0x1F7DA, 0x1F7DF),
   (0x1F7EC, 0x1F7EF), (0x1F7F1, 0x1F7FF), (0x1FA58, 0x1FA5F), (0x1FA6E, 0x1FA6F),
   (0x1FA7D, 0x1FA7F), (0x1FA8B, 0x1FA8D), (0x1FAC7, 0x1FAC7), (0x1FAC9, 0x1FACC),
   (0x1FADD, 0x1FADE), (0x1FAEB, 0x1FAEE), (0x1FAF9, 0x1FAFF), (0x1FC00, 0x1FFFD)]

set_option maxRecDepth 4000 in
def aksaraCharacters : CodePoints :=
  [(0x1B05, 0x1B33), (0x1B45, 0x1B4C), (0xA984, 0xA9B2), (0x11005, 0x11037), (0x11071, 0x11072),
   (0x11075, 0x11075), (0x11305, 0x1130C), (0x1130F, 0x11310), (0x11313, 0x11328),
   (0x1132A, 0x11330), (0x11332, 0x11333), (0x11335, 0x11339), (0x11360, 0x11361),
   (0x11392, 0x113B5), (0x11900, 0x11906), (0x11909, 0x11909), (0x1190C, 0x11913),
   (0x11915, 0x11916), (0x11918, 0x1192F), (0x11F04, 0x11F10), (0x11F12, 0x11F33)]

set_option maxRecDepth 4000 in
def unspacedCharacters : CodePoints :=
  [(0xE01, 0xE3A), (0xE40, 0xE4E), (0xE81, 0xE82), (0xE84, 0xE84), (0xE86, 0xE8A), (0xE8C, 0xEA3),
   (0xEA5, 0xEA5), (0xEA7, 0xEBD), (0xEC0, 0xEC4), (0xEC6, 0xEC6), (0xEC8, 0xECE), (0xEDC, 0xEDF),
   (0x1000, 0x103F), (0x1050, 0x108F), (0x109A, 0x109F), (0x1780, 0x17D3), (0x17D7, 0x17D7),
   (0x17DC, 0x17DD), (0x1950, 0x196D), (0x1970, 0x1974), (0x1980, 0x19AB), (0x19B0, 0x19C9),
   (0x19DE, 0x19DF), (0x1A20, 0x1A5E), (0x1A60, 0x1A7C), (0x1AA0, 0x1AAD), (0xA9E0, 0xA9EF),
   (0xA9FA, 0xA9FE), (0xAA60, 0xAAC2), (0xAADB, 0xAADF), (0x11700, 0x1171A), (0x1171D, 0x1172B),
   (0x1173A, 0x1173B), (0x1173F, 0x11746)]

/-- The characters of each class, the commonest letters first. Syllables of Hangul are left
out. -/
def table : List (BreakClass × CodePoints) :=
  [(letter, [(0x41, 0x5A), (0x61, 0x7A)]),
   (mandatory, [(0xB, 0xC), (0x2028, 0x2029)]),
   (carriageReturn, [(0xD, 0xD)]),
   (lineFeed, [(0xA, 0xA)]),
   (nextLine, [(0x85, 0x85)]),
   (space, [(0x20, 0x20)]),
   (zeroWidthSpace, [(0x200B, 0x200B)]),
   (wordJoiner, [(0x2060, 0x2060), (0xFEFF, 0xFEFF)]),
   (glue, glueCharacters),
   (joiner, [(0x200D, 0x200D)]),
   (combining, combiningCharacters),
   (afterwards, afterwardsCharacters),
   (beforehand, beforehandCharacters),
   (eitherSide, [(0x2014, 0x2014), (0x2E3A, 0x2E3B)]),
   (hyphen, [(0x2D, 0x2D)]),
   (contingent, [(0xFFFC, 0xFFFC)]),
   (closing, closingCharacters),
   (closingParenthesis, [(0x29, 0x29), (0x5D, 0x5D), (0x2E56, 0x2E56), (0x2E58, 0x2E58),
     (0x2E5A, 0x2E5A), (0x2E5C, 0x2E5C)]),
   (exclamation, exclamationCharacters),
   (inseparable, [(0x2024, 0x2026), (0x22EF, 0x22EF), (0xFE19, 0xFE19), (0x10AF6, 0x10AF6)]),
   (nonstarter, nonstarterCharacters),
   (opening, openingCharacters),
   (wideOpening, wideOpeningCharacters),
   (quotation, [(0x22, 0x22), (0x27, 0x27), (0x275B, 0x2760), (0x2E00, 0x2E01), (0x2E06, 0x2E08),
     (0x2E0B, 0x2E0B), (0x1F676, 0x1F678)]),
   (initialQuotation, [(0xAB, 0xAB), (0x2018, 0x2018), (0x201B, 0x201C), (0x201F, 0x201F),
     (0x2039, 0x2039), (0x2E02, 0x2E02), (0x2E04, 0x2E04), (0x2E09, 0x2E09), (0x2E0C, 0x2E0C),
     (0x2E1C, 0x2E1C), (0x2E20, 0x2E20)]),
   (finalQuotation, [(0xBB, 0xBB), (0x2019, 0x2019), (0x201D, 0x201D), (0x203A, 0x203A),
     (0x2E03, 0x2E03), (0x2E05, 0x2E05), (0x2E0A, 0x2E0A), (0x2E0D, 0x2E0D), (0x2E1D, 0x2E1D),
     (0x2E21, 0x2E21)]),
   (infixSeparator, [(0x2C, 0x2C), (0x2E, 0x2E), (0x3A, 0x3B), (0x37E, 0x37E), (0x589, 0x589),
     (0x60C, 0x60D), (0x7F8, 0x7F8), (0x2044, 0x2044)]),
   (digit, digitCharacters),
   (afterNumber, afterNumberCharacters),
   (beforeNumber, beforeNumberCharacters),
   (slash, [(0x2F, 0x2F)]),
   (hebrewLetter, [(0x5D0, 0x5EA), (0x5EF, 0x5F2), (0xFB1D, 0xFB1D), (0xFB1F, 0xFB28),
     (0xFB2A, 0xFB36), (0xFB38, 0xFB3C), (0xFB3E, 0xFB3E), (0xFB40, 0xFB41), (0xFB43, 0xFB44),
     (0xFB46, 0xFB4F)]),
   (ideograph, ideographCharacters),
   (emojiBase, emojiBaseCharacters),
   (emojiModifier, [(0x1F3FB, 0x1F3FF)]),
   (reservedPictograph, reservedPictographCharacters),
   (regionalIndicator, [(0x1F1E6, 0x1F1FF)]),
   (dottedCircle, [(0x25CC, 0x25CC)]),
   (aksara, aksaraCharacters),
   (aksaraPrebase, [(0x11003, 0x11004), (0x113D1, 0x113D1), (0x1193F, 0x1193F), (0x11941, 0x11941),
     (0x11F02, 0x11F02)]),
   (aksaraStart, [(0x1B50, 0x1B59), (0x1BC0, 0x1BE5), (0xA9D0, 0xA9D9), (0xAA00, 0xAA28),
     (0xAA50, 0xAA59), (0x11066, 0x1106F), (0x11350, 0x11350), (0x1135E, 0x1135F),
     (0x11380, 0x11389), (0x1138B, 0x1138B), (0x1138E, 0x1138E), (0x11390, 0x11391),
     (0x11950, 0x11959), (0x11EE0, 0x11EF1), (0x11F50, 0x11F59), (0x16100, 0x1611D),
     (0x16130, 0x16139)]),
   (virama, [(0x1B44, 0x1B44), (0xA9C0, 0xA9C0), (0x11046, 0x11046), (0x1134D, 0x1134D),
     (0x113D0, 0x113D0), (0x1193E, 0x1193E), (0x11F42, 0x11F42)]),
   (finalVirama, [(0x1BF2, 0x1BF3)]),
   (leadingJamo, [(0x1100, 0x115F), (0xA960, 0xA97C)]),
   (vowelJamo, [(0x1160, 0x11A7), (0xD7B0, 0xD7C6)]),
   (trailingJamo, [(0x11A8, 0x11FF), (0xD7CB, 0xD7FB)]),
   (unspaced, unspacedCharacters)]

/-- Syllables of Hangul come in blocks of 28: an open one, then those it can be closed to. -/
def hangul? (n : Nat) : Option BreakClass :=
  if 0xAC00 ≤ n ∧ n ≤ 0xD7A3 then
    some (if (n - 0xAC00) % 28 = 0 then openSyllable else closedSyllable)
  else none

def ofChar (c : Char) : BreakClass :=
  match hangul? c.toNat with
  | some k => k
  | none => ((table.find? fun entry => entry.2.has c).map (·.1)).getD letter

end BreakClass

inductive UnspacedScript where
  | burmese
  | khmer
  | lao
  | thai
  | other
  deriving DecidableEq, Repr

namespace UnspacedScript

def ofChar (c : Char) : UnspacedScript :=
  if CodePoints.has [(0xE01, 0xE7F)] c then thai
  else if CodePoints.has [(0xE80, 0xEFF)] c then lao
  else if CodePoints.has [(0x1000, 0x109F), (0xA9E0, 0xA9FF), (0xAA60, 0xAA7F)] c then burmese
  else if CodePoints.has [(0x1780, 0x17FF), (0x19E0, 0x19FF)] c then khmer
  else other

def name? : UnspacedScript → Option Text
  | burmese => some "Burmese".toList
  | khmer => some "Khmer".toList
  | lao => some "Lao".toList
  | thai => some "Thai".toList
  | other => none

end UnspacedScript

namespace LineBreak

/-- A part of a text, with its script if it is a run that is kept whole. -/
structure Span where
  text : Text
  script : Option UnspacedScript
  deriving DecidableEq, Repr

def isUnspaced (c : Char) : Bool := BreakClass.ofChar c = .unspaced

/-- A single character of such a script is no run. -/
def spansOfRun (run : Text) : List Span :=
  if 2 ≤ run.length ∧ run.all isUnspaced then
    (run.splitBy fun a b => UnspacedScript.ofChar a = UnspacedScript.ofChar b).map fun t =>
      ⟨t, t.head?.map UnspacedScript.ofChar⟩
  else [⟨run, none⟩]

def spans (t : Text) : List Span :=
  (t.splitBy fun a b => isUnspaced a == isUnspaced b).flatMap spansOfRun

structure Cluster where
  kind : BreakClass
  size : Nat
  joins : Bool
  whole : Bool
  deriving DecidableEq, Repr

namespace Cluster

def holdsMarks (x : Cluster) : Bool :=
  !x.whole &&
    [.mandatory, .carriageReturn, .lineFeed, .nextLine, .space, .zeroWidthSpace].all (x.kind ≠ ·)

/-- Adds a character to clusters, the last of which comes first. A mark that nothing holds
counts as a letter. -/
def push (done : List Cluster) (c : Char) : List Cluster :=
  let kind := BreakClass.ofChar c
  let alone : Cluster := ⟨if kind = .unspaced then .letter else kind, 1, false, false⟩
  if kind = .combining ∨ kind = .joiner then
    let stray : Cluster := ⟨.letter, 1, kind = .joiner, false⟩
    match done with
    | [] => [stray]
    | x :: rest =>
      if x.holdsMarks then { x with size := x.size + 1, joins := kind = .joiner } :: rest
      else stray :: x :: rest
  else alone :: done

def pushSpan (done : List Cluster) (s : Span) : List Cluster :=
  match s.script with
  | some _ => ⟨.letter, s.text.length, false, true⟩ :: done
  | none => s.text.foldl push done

end Cluster

def clusters (t : Text) : List Cluster := ((spans t).foldl Cluster.pushSpan []).reverse

abbrev Rule := Bool × Bool

def among (k : BreakClass) (ks : List BreakClass) : Bool := ks.contains k

def lineEnds : List BreakClass := [.mandatory, .carriageReturn, .lineFeed, .nextLine]

def letters : List BreakClass := [.letter, .dottedCircle, .hebrewLetter]

def pictures : List BreakClass := [.ideograph, .reservedPictograph, .emojiBase, .emojiModifier]

def openings : List BreakClass := [.opening, .wideOpening]

def closings : List BreakClass := [.closing, .closingParenthesis]

def quotations : List BreakClass := [.quotation, .initialQuotation, .finalQuotation]

def jamo : List BreakClass :=
  [.leadingJamo, .vowelJamo, .trailingJamo, .openSyllable, .closedSyllable]

def lineEndRules (a b : BreakClass) : List Rule :=
  [(a = .carriageReturn, b ≠ .lineFeed), (among a lineEnds, true), (among b lineEnds, false)]

def glueRules (before : List BreakClass) (a b : BreakClass) (joins : Bool) : List Rule :=
  let solid := (a :: before).dropWhile (· = .space)
  [(among b [.space, .zeroWidthSpace], false),
   (solid.head? = some .zeroWidthSpace, true),
   (joins, false),
   (a = .wordJoiner ∨ b = .wordJoiner ∨ a = .glue, false),
   (b = .glue && !among a [.space, .afterwards, .hyphen], false)]

def opensQuotation : List BreakClass → Bool
  | .initialQuotation :: front =>
    match front with
    | [] => true
    | k :: _ => among k (lineEnds ++ openings ++ quotations ++ [.glue, .space, .zeroWidthSpace])
  | _ => false

def closesQuotation (b : BreakClass) (after : Option BreakClass) : Bool :=
  b = .finalQuotation &&
    match after with
    | none => true
    | some k => among k (lineEnds ++ closings ++ quotations
        ++ [.space, .glue, .wordJoiner, .exclamation, .infixSeparator, .slash, .zeroWidthSpace])

def markRules (before : List BreakClass) (a b : BreakClass) (after : Option BreakClass) :
    List Rule :=
  let solid := (a :: before).dropWhile (· = .space)
  let last (ks : List BreakClass) : Bool := (solid.head?.map (among · ks)).getD false
  [(among b (closings ++ [.exclamation, .infixSeparator, .slash]), false),
   (last openings || opensQuotation solid || closesQuotation b after, false),
   (last closings && b = .nonstarter, false),
   (last [.eitherSide] && b = .eitherSide, false),
   (a = .space, true),
   (among a quotations || among b quotations, false),
   (a = .contingent ∨ b = .contingent, true)]

def hyphenRules (before : List BreakClass) (a b : BreakClass) : List Rule :=
  [(among b [.afterwards, .hyphen, .nonstarter] || a = .beforehand, false),
   (among a [.hyphen, .afterwards] && before.head? = some .hebrewLetter && b ≠ .hebrewLetter,
     false),
   (a = .slash && b = .hebrewLetter, false),
   (b = .inseparable, false)]

def numberRules (a b : BreakClass) : List Rule :=
  let around : List BreakClass := [.beforeNumber, .afterNumber]
  [(among a letters && b = .digit || a = .digit && among b letters, false),
   (a = .beforeNumber && among b pictures || among a pictures && b = .afterNumber, false),
   (among a around && among b letters || among a letters && among b around, false),
   (among a (.digit :: closings) && among b around, false),
   (among a around && among b (.digit :: openings), false),
   (among a [.hyphen, .infixSeparator, .digit, .slash] && b = .digit, false)]

def hangulRules (a b : BreakClass) : List Rule :=
  [(a = .leadingJamo && among b [.leadingJamo, .vowelJamo, .openSyllable, .closedSyllable], false),
   (among a [.vowelJamo, .openSyllable] && among b [.vowelJamo, .trailingJamo], false),
   (among a [.trailingJamo, .closedSyllable] && b = .trailingJamo, false),
   (among a jamo && b = .afterNumber || a = .beforeNumber && among b jamo, false)]

def letterRules (before : List BreakClass) (a b : BreakClass) (after : Option BreakClass) :
    List Rule :=
  let aksaras : List BreakClass := [.aksara, .dottedCircle]
  let starts := .aksaraStart :: aksaras
  [(among a letters && among b letters, false),
   (a = .aksaraPrebase && among b starts, false),
   (among a starts && among b [.finalVirama, .virama], false),
   (a = .virama && (before.head?.map (among · starts)).getD false && among b aksaras, false),
   (among a starts && among b starts && after = some .finalVirama, false),
   (a = .infixSeparator && among b letters, false),
   (among a (.digit :: letters) && b = .opening, false),
   (a = .closingParenthesis && among b (.digit :: letters), false)]

def pictureRules (before : List BreakClass) (a b : BreakClass) : List Rule :=
  let indicators := ((a :: before).takeWhile (· = .regionalIndicator)).length
  [(a = .regionalIndicator && b = .regionalIndicator, indicators % 2 = 0),
   (among a [.emojiBase, .reservedPictograph] && b = .emojiModifier, false)]

def mayEnd (before : List BreakClass) (a b : Cluster) (after : Option BreakClass) : Bool :=
  let x := a.kind
  let y := b.kind
  let rules : List Rule :=
    (a.whole, true) :: lineEndRules x y ++ glueRules before x y a.joins
      ++ markRules before x y after ++ hyphenRules before x y ++ numberRules x y
      ++ hangulRules x y ++ letterRules before x y after ++ pictureRules before x y
  ((rules.find? (·.1)).map (·.2)).getD true

def endsFrom (before : List BreakClass) : List Cluster → List Bool
  | [] => []
  | [a] => List.replicate (a.size - 1) false ++ [true]
  | a :: b :: rest =>
    List.replicate (a.size - 1) false ++ mayEnd before a b (rest.head?.map (·.kind))
      :: endsFrom (a.kind :: before) (b :: rest)

def ends (t : Text) : List Bool := endsFrom [] (clusters t)

def unsegmented (t : Text) : List Text := (spans t).filterMap fun s => s.script.bind (·.name?)

end LineBreak

end LayoutCheck
