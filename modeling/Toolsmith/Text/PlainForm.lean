/-
Characters of names that are ASCII letters, digits or underscores in another
form: wide, raised, lowered, mathematical, or joined to one character
(Unicode 14). Names are compared without such forms.
-/
import Toolsmith.Text.CodeTable

namespace Toolsmith.Text

/-- The characters that are one ASCII character in another form. -/
def variantForms : CodeTable :=
  ⟨[
    (0x00aa, "a"), (0x00ba, "o"), (0x017f, "s"), (0x02b0, "h\ufffdjr"),
    (0x02b7, "wy"), (0x02e1, "lsx"),
    (0x1d2c, "A\ufffdB\ufffdDE\ufffdGHIJKLMN\ufffdO\ufffdPRTUWa"),
    (0x1d47, "bde"), (0x1d4d, "g\ufffdkm\ufffdo"), (0x1d56, "ptu"),
    (0x1d5b, "v"), (0x1d62, "iruv"), (0x1d9c, "c"), (0x1da0, "f"),
    (0x1dbb, "z"), (0x2071, "i"), (0x207f, "n"),
    (0x2090, "aeox\ufffdhklmnpst"), (0x2102, "C"),
    (0x210a, "gHHHh\ufffdIILl\ufffdN"), (0x2119, "PQRRR"), (0x2124, "Z"),
    (0x2128, "Z\ufffdK\ufffdBC\ufffdeEF\ufffdMo"), (0x2139, "i"),
    (0x2145, "Ddeij"), (0x2160, "I"), (0x2164, "V"), (0x2169, "X"),
    (0x216c, "LCDMi"), (0x2174, "v"), (0x2179, "x"), (0x217c, "lcdm"),
    (0x2c7c, "jV"), (0xa7f2, "CFQ"), (0xfe33, "__"), (0xfe4d, "___"),
    (0xff10, "0123456789"), (0xff21, "ABCDEFGHIJKLMNOPQRSTUVWXYZ"),
    (0xff3f, "_\ufffdabcdefghijklmnopqrstuvwxyz"), (0x107a5, "q"),
    (0x1d400, "ABCDEFGHIJKLMNOPQRSTUVWXYZabcdefghij"),
    (0x1d424, "klmnopqrstuvwxyzABCDEFGHIJKLMNOPQRST"),
    (0x1d448, "UVWXYZabcdefg\ufffdijklmnopqrstuvwxyzABCD"),
    (0x1d46c, "EFGHIJKLMNOPQRSTUVWXYZabcdefghijklmn"),
    (0x1d490, "opqrstuvwxyzA\ufffdCD"), (0x1d4a2, "G"), (0x1d4a5, "JK"),
    (0x1d4a9, "NOPQ\ufffdSTUVWXYZabcd\ufffdf\ufffdhijklmn\ufffdpqrstuvw"),
    (0x1d4cd, "xyzABCDEFGHIJKLMNOPQRSTUVWXYZabcdefg"),
    (0x1d4f1, "hijklmnopqrstuvwxyzAB\ufffdDEFG"),
    (0x1d50d, "JKLMNOPQ\ufffdSTUVWXY\ufffdabcdefghijklmnopqrs"),
    (0x1d531, "tuvwxyzAB\ufffdDEFG\ufffdIJKLM\ufffdO"),
    (0x1d54a, "STUVWXY\ufffdabcdefghijklmnopqrstuvwxyzAB"),
    (0x1d56e, "CDEFGHIJKLMNOPQRSTUVWXYZabcdefghijkl"),
    (0x1d592, "mnopqrstuvwxyzABCDEFGHIJKLMNOPQRSTUV"),
    (0x1d5b6, "WXYZabcdefghijklmnopqrstuvwxyzABCDEF"),
    (0x1d5da, "GHIJKLMNOPQRSTUVWXYZabcdefghijklmnop"),
    (0x1d5fe, "qrstuvwxyzABCDEFGHIJKLMNOPQRSTUVWXYZ"),
    (0x1d622, "abcdefghijklmnopqrstuvwxyzABCDEFGHIJ"),
    (0x1d646, "KLMNOPQRSTUVWXYZabcdefghijklmnopqrst"),
    (0x1d66a, "uvwxyzABCDEFGHIJKLMNOPQRSTUVWXYZabcd"),
    (0x1d68e, "efghijklmnopqrstuvwxyz"),
    (0x1d7ce, "012345678901234567890123456789012345"),
    (0x1d7f2, "67890123456789"), (0x1fbf0, "0123456789")
  ]⟩

/-- The characters that are several ASCII characters joined. -/
def joinedForms : List (Nat × String) :=
  [
    (0x0132, "IJ"), (0x0133, "ij"), (0x01c7, "LJ"), (0x01c8, "Lj"),
    (0x01c9, "lj"), (0x01ca, "NJ"), (0x01cb, "Nj"), (0x01cc, "nj"),
    (0x01f1, "DZ"), (0x01f2, "Dz"), (0x01f3, "dz"), (0x2161, "II"),
    (0x2162, "III"), (0x2163, "IV"), (0x2165, "VI"), (0x2166, "VII"),
    (0x2167, "VIII"), (0x2168, "IX"), (0x216a, "XI"), (0x216b, "XII"),
    (0x2171, "ii"), (0x2172, "iii"), (0x2173, "iv"), (0x2175, "vi"),
    (0x2176, "vii"), (0x2177, "viii"), (0x2178, "ix"), (0x217a, "xi"),
    (0x217b, "xii"), (0xfb00, "ff"), (0xfb01, "fi"), (0xfb02, "fl"),
    (0xfb03, "ffi"), (0xfb04, "ffl"), (0xfb05, "st"), (0xfb06, "st")
  ]

/-- A character of a name in its plain form, if it is ASCII in another one,
and itself if not. -/
def plainForm (c : Char) : List Char :=
  if c.toNat < 0x80 then [c]
  else
    match variantForms.char? c.toNat, joinedForms.lookup c.toNat with
    | some plain, _ => [plain]
    | none, some letters => letters.toList
    | none, none => [c]

/-- A name in plain form. -/
def plainName (name : String) : String :=
  String.ofList (name.toList.flatMap plainForm)

end Toolsmith.Text
