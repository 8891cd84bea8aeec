/-
Second names of characters: corrections, the names of control characters,
and abbreviations (Unicode 14). The abbreviations of variation selectors are
not listed.
-/

namespace Toolsmith.Text

/-- Code points and a further name of each. -/
def secondNames : List (Nat × String) :=
  [
    (0x0000, "NUL"), (0x0000, "NULL"), (0x0001, "SOH"),
    (0x0001, "START OF HEADING"), (0x0002, "START OF TEXT"), (0x0002, "STX"),
    (0x0003, "END OF TEXT"), (0x0003, "ETX"), (0x0004, "END OF TRANSMISSION"),
    (0x0004, "EOT"), (0x0005, "ENQ"), (0x0005, "ENQUIRY"), (0x0006, "ACK"),
    (0x0006, "ACKNOWLEDGE"), (0x0007, "ALERT"), (0x0007, "BEL"),
    (0x0008, "BACKSPACE"), (0x0008, "BS"), (0x0009, "CHARACTER TABULATION"),
    (0x0009, "HORIZONTAL TABULATION"), (0x0009, "HT"), (0x0009, "TAB"),
    (0x000a, "END OF LINE"), (0x000a, "EOL"), (0x000a, "LF"),
    (0x000a, "LINE FEED"), (0x000a, "NEW LINE"), (0x000a, "NL"),
    (0x000b, "LINE TABULATION"), (0x000b, "VERTICAL TABULATION"),
    (0x000b, "VT"), (0x000c, "FF"), (0x000c, "FORM FEED"),
    (0x000d, "CARRIAGE RETURN"), (0x000d, "CR"),
    (0x000e, "LOCKING-SHIFT ONE"), (0x000e, "SHIFT OUT"), (0x000e, "SO"),
    (0x000f, "LOCKING-SHIFT ZERO"), (0x000f, "SHIFT IN"), (0x000f, "SI"),
    (0x0010, "DATA LINK ESCAPE"), (0x0010, "DLE"), (0x0011, "DC1"),
    (0x0011, "DEVICE CONTROL ONE"), (0x0012, "DC2"),
    (0x0012, "DEVICE CONTROL TWO"), (0x0013, "DC3"),
    (0x0013, "DEVICE CONTROL THREE"), (0x0014, "DC4"),
    (0x0014, "DEVICE CONTROL FOUR"), (0x0015, "NAK"),
    (0x0015, "NEGATIVE ACKNOWLEDGE"), (0x0016, "SYN"),
    (0x0016, "SYNCHRONOUS IDLE"), (0x0017, "END OF TRANSMISSION BLOCK"),
    (0x0017, "ETB"), (0x0018, "CAN"), (0x0018, "CANCEL"),
    (0x0019, "END OF MEDIUM"), (0x0019, "EOM"), (0x001a, "SUB"),
    (0x001a, "SUBSTITUTE"), (0x001b, "ESC"), (0x001b, "ESCAPE"),
    (0x001c, "FILE SEPARATOR"), (0x001c, "FS"),
    (0x001c, "INFORMATION SEPARATOR FOUR"), (0x001d, "GROUP SEPARATOR"),
    (0x001d, "GS"), (0x001d, "INFORMATION SEPARATOR THREE"),
    (0x001e, "INFORMATION SEPARATOR TWO"), (0x001e, "RECORD SEPARATOR"),
    (0x001e, "RS"), (0x001f, "INFORMATION SEPARATOR ONE"),
    (0x001f, "UNIT SEPARATOR"), (0x001f, "US"), (0x0020, "SP"),
    (0x007f, "DEL"), (0x007f, "DELETE"), (0x0080, "PAD"),
    (0x0080, "PADDING CHARACTER"), (0x0081, "HIGH OCTET PRESET"),
    (0x0081, "HOP"), (0x0082, "BPH"), (0x0082, "BREAK PERMITTED HERE"),
    (0x0083, "NBH"), (0x0083, "NO BREAK HERE"), (0x0084, "IND"),
    (0x0084, "INDEX"), (0x0085, "NEL"), (0x0085, "NEXT LINE"),
    (0x0086, "SSA"), (0x0086, "START OF SELECTED AREA"),
    (0x0087, "END OF SELECTED AREA"), (0x0087, "ESA"),
    (0x0088, "CHARACTER TABULATION SET"),
    (0x0088, "HORIZONTAL TABULATION SET"), (0x0088, "HTS"),
    (0x0089, "CHARACTER TABULATION WITH JUSTIFICATION"),
    (0x0089, "HORIZONTAL TABULATION WITH JUSTIFICATION"), (0x0089, "HTJ"),
    (0x008a, "LINE TABULATION SET"), (0x008a, "VERTICAL TABULATION SET"),
    (0x008a, "VTS"), (0x008b, "PARTIAL LINE DOWN"),
    (0x008b, "PARTIAL LINE FORWARD"), (0x008b, "PLD"),
    (0x008c, "PARTIAL LINE BACKWARD"), (0x008c, "PARTIAL LINE UP"),
    (0x008c, "PLU"), (0x008d, "REVERSE INDEX"), (0x008d, "REVERSE LINE FEED"),
    (0x008d, "RI"), (0x008e, "SINGLE SHIFT TWO"), (0x008e, "SINGLE-SHIFT-2"),
    (0x008e, "SS2"), (0x008f, "SINGLE SHIFT THREE"),
    (0x008f, "SINGLE-SHIFT-3"), (0x008f, "SS3"), (0x0090, "DCS"),
    (0x0090, "DEVICE CONTROL STRING"), (0x0091, "PRIVATE USE ONE"),
    (0x0091, "PRIVATE USE-1"), (0x0091, "PU1"), (0x0092, "PRIVATE USE TWO"),
    (0x0092, "PRIVATE USE-2"), (0x0092, "PU2"),
    (0x0093, "SET TRANSMIT STATE"), (0x0093, "STS"),
    (0x0094, "CANCEL CHARACTER"), (0x0094, "CCH"),
    (0x0095, "MESSAGE WAITING"), (0x0095, "MW"), (0x0096, "SPA"),
    (0x0096, "START OF GUARDED AREA"), (0x0096, "START OF PROTECTED AREA"),
    (0x0097, "END OF GUARDED AREA"), (0x0097, "END OF PROTECTED AREA"),
    (0x0097, "EPA"), (0x0098, "SOS"), (0x0098, "START OF STRING"),
    (0x0099, "SGC"), (0x0099, "SINGLE GRAPHIC CHARACTER INTRODUCER"),
    (0x009a, "SCI"), (0x009a, "SINGLE CHARACTER INTRODUCER"),
    (0x009b, "CONTROL SEQUENCE INTRODUCER"), (0x009b, "CSI"), (0x009c, "ST"),
    (0x009c, "STRING TERMINATOR"), (0x009d, "OPERATING SYSTEM COMMAND"),
    (0x009d, "OSC"), (0x009e, "PM"), (0x009e, "PRIVACY MESSAGE"),
    (0x009f, "APC"), (0x009f, "APPLICATION PROGRAM COMMAND"),
    (0x00a0, "NBSP"), (0x00ad, "SHY"), (0x01a2, "LATIN CAPITAL LETTER GHA"),
    (0x01a3, "LATIN SMALL LETTER GHA"), (0x034f, "CGJ"), (0x061c, "ALM"),
    (0x0709, "SYRIAC SUBLINEAR COLON SKEWED LEFT"),
    (0x0cde, "KANNADA LETTER LLLA"), (0x0e9d, "LAO LETTER FO FON"),
    (0x0e9f, "LAO LETTER FO FAY"), (0x0ea3, "LAO LETTER RO"),
    (0x0ea5, "LAO LETTER LO"),
    (0x0fd0, "TIBETAN MARK BKA- SHOG GI MGO RGYAN"),
    (0x11ec, "HANGUL JONGSEONG YESIEUNG-KIYEOK"),
    (0x11ed, "HANGUL JONGSEONG YESIEUNG-SSANGKIYEOK"),
    (0x11ee, "HANGUL JONGSEONG SSANGYESIEUNG"),
    (0x11ef, "HANGUL JONGSEONG YESIEUNG-KHIEUKH"), (0x180b, "FVS1"),
    (0x180c, "FVS2"), (0x180d, "FVS3"), (0x180e, "MVS"), (0x180f, "FVS4"),
    (0x200b, "ZWSP"), (0x200c, "ZWNJ"), (0x200d, "ZWJ"), (0x200e, "LRM"),
    (0x200f, "RLM"), (0x202a, "LRE"), (0x202b, "RLE"), (0x202c, "PDF"),
    (0x202d, "LRO"), (0x202e, "RLO"), (0x202f, "NNBSP"), (0x205f, "MMSP"),
    (0x2060, "WJ"), (0x2066, "LRI"), (0x2067, "RLI"), (0x2068, "FSI"),
    (0x2069, "PDI"), (0x2118, "WEIERSTRASS ELLIPTIC FUNCTION"),
    (0x2448, "MICR ON US SYMBOL"), (0x2449, "MICR DASH SYMBOL"),
    (0x2b7a, "LEFTWARDS TRIANGLE-HEADED ARROW WITH DOUBLE VERTICAL STROKE"),
    (0x2b7c, "RIGHTWARDS TRIANGLE-HEADED ARROW WITH DOUBLE VERTICAL STROKE"),
    (0xa015, "YI SYLLABLE ITERATION MARK"),
    (0xaa6e, "MYANMAR LETTER KHAMTI LLA"),
    (0xfe18, "PRESENTATION FORM FOR VERTICAL RIGHT WHITE LENTICULAR BRACKET"),
    (0xfeff, "BOM"), (0xfeff, "BYTE ORDER MARK"), (0xfeff, "ZWNBSP"),
    (0x122d4, "CUNEIFORM SIGN NU11 TENU"),
    (0x122d5, "CUNEIFORM SIGN NU11 OVER NU11 BUR OVER BUR"),
    (0x16e56, "MEDEFAIDRIN CAPITAL LETTER H"),
    (0x16e57, "MEDEFAIDRIN CAPITAL LETTER NG"),
    (0x16e76, "MEDEFAIDRIN SMALL LETTER H"),
    (0x16e77, "MEDEFAIDRIN SMALL LETTER NG"),
    (0x1b001, "HENTAIGANA LETTER E-1"),
    (0x1d0c5, "BYZANTINE MUSICAL SYMBOL FTHORA SKLIRON CHROMA VASIS")
  ]

end Toolsmith.Text
