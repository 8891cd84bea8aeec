/-
The code pages.
-/
import Toolsmith.Encoding.Codepage

namespace Toolsmith.Codepage

/-- Every code page but that of Latin-1. -/
def all : List Codepage :=
  [
    ⟨"cp037", ["037", "csibm037", "ebcdic_cp_ca", "ebcdic_cp_nl",
      "ebcdic_cp_us", "ebcdic_cp_wt", "ibm037", "ibm039"],
      ["\u009c\u0009\u0086\u007f\u0097\u008d\u008e\u000b\u000c\u000d\u000e",
       "\u000f\u0010\u0011\u0012\u0013\u009d\u0085\u0008\u0087\u0018\u0019",
       "\u0092\u008f\u001c\u001d\u001e\u001f",
       "\u0080\u0081\u0082\u0083\u0084\u000a\u0017\u001b\u0088\u0089\u008a",
       "\u008b\u008c\u0005\u0006\u0007\u0090\u0091\u0016\u0093\u0094\u0095",
       "\u0096\u0004\u0098\u0099\u009a\u009b\u0014\u0015\u009e\u001a",
       " \u00a0âäàáãåçñ¢.<(+|&éêëèíîïìß!$*);¬",
       "-/ÂÄÀÁÃÅÇÑ¦,%_>?øÉÊËÈÍÎÏÌ`:#@'=\u0022",
       "Øabcdefghi«»ðýþ±°jklmnopqrªºæ¸Æ¤",
       "µ~stuvwxyz¡¿ÐÝÞ®^£¥·©§¶¼½¾[]¯¨´×",
       "\u007bABCDEFGHI\u00adôöòóõ\u007dJKLMNOPQR¹ûüùúÿ",
       "\u005c÷STUVWXYZ²ÔÖÒÓÕ0123456789³ÛÜÙÚ\u009f"]⟩,
    ⟨"cp1006", [],
      ["\u0080\u0081\u0082\u0083\u0084\u0085\u0086\u0087\u0088\u0089\u008a",
       "\u008b\u008c\u008d\u008e\u008f\u0090\u0091\u0092\u0093\u0094\u0095",
       "\u0096\u0097\u0098\u0099\u009a\u009b\u009c\u009d\u009e\u009f",
       "\u00a0۰۱۲۳۴۵۶۷۸۹،\u061b\u00ad\u061f\ufe81\ufe8d\ufe8e\ufe8e\ufe8f",
       "\ufe91\ufb56\ufb58\ufe93\ufe95\ufe97\ufb66\ufb68\ufe99\ufe9b\ufe9d",
       "\ufe9f",
       "\ufb7a\ufb7c\ufea1\ufea3\ufea5\ufea7\ufea9\ufb84\ufeab\ufead\ufb8c",
       "\ufeaf\ufb8a\ufeb1\ufeb3\ufeb5\ufeb7\ufeb9\ufebb\ufebd\ufebf\ufec1",
       "\ufec5\ufec9\ufeca\ufecb\ufecc\ufecd\ufece\ufecf\ufed0\ufed1",
       "\ufed3\ufed5\ufed7\ufed9\ufedb\ufb92\ufb94\ufedd\ufedf\ufee0\ufee1",
       "\ufee3\ufb9e\ufee5\ufee7\ufe85\ufeed\ufba6\ufba8\ufba9\ufbaa\ufe80",
       "\ufe89\ufe8a\ufe8b\ufef1\ufef2\ufef3\ufbb0\ufbae\ufe7c\ufe7d"]⟩,
    ⟨"cp1026", ["1026", "csibm1026", "ibm1026"],
      ["\u009c\u0009\u0086\u007f\u0097\u008d\u008e\u000b\u000c\u000d\u000e",
       "\u000f\u0010\u0011\u0012\u0013\u009d\u0085\u0008\u0087\u0018\u0019",
       "\u0092\u008f\u001c\u001d\u001e\u001f",
       "\u0080\u0081\u0082\u0083\u0084\u000a\u0017\u001b\u0088\u0089\u008a",
       "\u008b\u008c\u0005\u0006\u0007\u0090\u0091\u0016\u0093\u0094\u0095",
       "\u0096\u0004\u0098\u0099\u009a\u009b\u0014\u0015\u009e\u001a",
       " \u00a0âäàáãå\u007bñÇ.<(+!&éêëèíîïìßĞİ*);^",
       "-/ÂÄÀÁÃÅ[Ñş,%_>?øÉÊËÈÍÎÏÌı:ÖŞ'=Ü",
       "Øabcdefghi«»\u007d`¦±°jklmnopqrªºæ¸Æ¤",
       "µöstuvwxyz¡¿]$@®¢£¥·©§¶¼½¾¬|¯¨´×",
       "çABCDEFGHI\u00adô~òóõğJKLMNOPQR¹û\u005cùúÿ",
       "ü÷STUVWXYZ²Ô#ÒÓÕ0123456789³Û\u0022ÙÚ\u009f"]⟩,
    ⟨"cp1125", ["1125", "cp866u", "ibm1125", "ruscii"],
      ["АБВГДЕЖЗИЙКЛМНОПРСТУФХЦЧШЩЪЫЬЭЮЯ",
       "абвгдежзийклмноп░▒▓│┤╡╢╖╕╣║╗╝╜╛┐",
       "└┴┬├─┼╞╟╚╔╩╦╠═╬╧╨╤╥╙╘╒╓╫╪┘┌█▄▌▐▀",
       "рстуфхцчшщъыьэюяЁёҐґЄєІіЇї·√№¤■\u00a0"]⟩,
    ⟨"cp1140", ["1140", "ibm1140"],
      ["\u009c\u0009\u0086\u007f\u0097\u008d\u008e\u000b\u000c\u000d\u000e",
       "\u000f\u0010\u0011\u0012\u0013\u009d\u0085\u0008\u0087\u0018\u0019",
       "\u0092\u008f\u001c\u001d\u001e\u001f",
       "\u0080\u0081\u0082\u0083\u0084\u000a\u0017\u001b\u0088\u0089\u008a",
       "\u008b\u008c\u0005\u0006\u0007\u0090\u0091\u0016\u0093\u0094\u0095",
       "\u0096\u0004\u0098\u0099\u009a\u009b\u0014\u0015\u009e\u001a",
       " \u00a0âäàáãåçñ¢.<(+|&éêëèíîïìß!$*);¬",
       "-/ÂÄÀÁÃÅÇÑ¦,%_>?øÉÊËÈÍÎÏÌ`:#@'=\u0022",
       "Øabcdefghi«»ðýþ±°jklmnopqrªºæ¸Æ€",
       "µ~stuvwxyz¡¿ÐÝÞ®^£¥·©§¶¼½¾[]¯¨´×",
       "\u007bABCDEFGHI\u00adôöòóõ\u007dJKLMNOPQR¹ûüùúÿ",
       "\u005c÷STUVWXYZ²ÔÖÒÓÕ0123456789³ÛÜÙÚ\u009f"]⟩,
    ⟨"cp1250", ["1250", "windows_1250"],
      ["€\ufffd‚\ufffd„…†‡\ufffd‰Š‹ŚŤŽŹ\ufffd‘’“”•–—\ufffd™š›śťžź",
       "\u00a0ˇ˘Ł¤Ą¦§¨©Ş«¬\u00ad®Ż°±˛ł´µ¶·¸ąş»Ľ˝ľż",
       "ŔÁÂĂÄĹĆÇČÉĘËĚÍÎĎĐŃŇÓÔŐÖ×ŘŮÚŰÜÝŢß",
       "ŕáâăäĺćçčéęëěíîďđńňóôőö÷řůúűüýţ˙"]⟩,
    ⟨"cp1251", ["1251", "windows_1251"],
      ["ЂЃ‚ѓ„…†‡€‰Љ‹ЊЌЋЏђ‘’“”•–—\ufffd™љ›њќћџ",
       "\u00a0ЎўЈ¤Ґ¦§Ё©Є«¬\u00ad®Ї°±Ііґµ¶·ё№є»јЅѕї",
       "АБВГДЕЖЗИЙКЛМНОПРСТУФХЦЧШЩЪЫЬЭЮЯ",
       "абвгдежзийклмнопрстуфхцчшщъыьэюя"]⟩,
    ⟨"cp1252", ["1252", "windows_1252"],
      ["€\ufffd‚ƒ„…†‡ˆ‰Š‹Œ\ufffdŽ\ufffd\ufffd‘’“”•–—˜™š›œ\ufffdžŸ",
       "\u00a0¡¢£¤¥¦§¨©ª«¬\u00ad®¯°±²³´µ¶·¸¹º»¼½¾¿",
       "ÀÁÂÃÄÅÆÇÈÉÊËÌÍÎÏÐÑÒÓÔÕÖ×ØÙÚÛÜÝÞß",
       "àáâãäåæçèéêëìíîïðñòóôõö÷øùúûüýþÿ"]⟩,
    ⟨"cp1253", ["1253", "windows_1253"],
      ["€\ufffd‚ƒ„…†‡\ufffd‰\ufffd‹\ufffd\ufffd\ufffd\ufffd\ufffd‘’“”•–—",
       "\ufffd™\ufffd›\ufffd\ufffd\ufffd\ufffd",
       "\u00a0΅Ά£¤¥¦§¨©\ufffd«¬\u00ad®―°±²³΄µ¶·ΈΉΊ»Ό½ΎΏ",
       "ΐΑΒΓΔΕΖΗΘΙΚΛΜΝΞΟΠΡ\ufffdΣΤΥΦΧΨΩΪΫάέήί",
       "ΰαβγδεζηθικλμνξοπρςστυφχψωϊϋόύώ\ufffd"]⟩,
    ⟨"cp1254", ["1254", "windows_1254"],
      ["€\ufffd‚ƒ„…†‡ˆ‰Š‹Œ\ufffd\ufffd\ufffd\ufffd‘’“”•–—˜™š›œ\ufffd\ufffd",
       "Ÿ",
       "\u00a0¡¢£¤¥¦§¨©ª«¬\u00ad®¯°±²³´µ¶·¸¹º»¼½¾¿",
       "ÀÁÂÃÄÅÆÇÈÉÊËÌÍÎÏĞÑÒÓÔÕÖ×ØÙÚÛÜİŞß",
       "àáâãäåæçèéêëìíîïğñòóôõö÷øùúûüışÿ"]⟩,
    ⟨"cp1255", ["1255", "windows_1255"],
      ["€\ufffd‚ƒ„…†‡ˆ‰\ufffd‹\ufffd\ufffd\ufffd\ufffd\ufffd‘’“”•–—˜™",
       "\ufffd›\ufffd\ufffd\ufffd\ufffd",
       "\u00a0¡¢£₪¥¦§¨©×«¬\u00ad®¯°±²³´µ¶·¸¹÷»¼½¾¿",
       "\u05b0\u05b1\u05b2\u05b3\u05b4\u05b5\u05b6\u05b7\u05b8\u05b9\ufffd",
       "\u05bb\u05bc\u05bd\u05be\u05bf\u05c0\u05c1\u05c2\u05c3\u05f0\u05f1",
       "\u05f2\u05f3\u05f4\ufffd\ufffd\ufffd\ufffd\ufffd\ufffd\ufffd",
       "\u05d0\u05d1\u05d2\u05d3\u05d4\u05d5\u05d6\u05d7\u05d8\u05d9\u05da",
       "\u05db\u05dc\u05dd\u05de\u05df\u05e0\u05e1\u05e2\u05e3\u05e4\u05e5",
       "\u05e6\u05e7\u05e8\u05e9\u05ea\ufffd\ufffd\u200e\u200f\ufffd"]⟩,
    ⟨"cp1256", ["1256", "windows_1256"],
      ["€\u067e‚ƒ„…†‡ˆ‰\u0679‹Œ\u0686\u0698\u0688\u06af‘’“”•–—\u06a9™",
       "\u0691›œ\u200c\u200d\u06ba",
       "\u00a0،¢£¤¥¦§¨©\u06be«¬\u00ad®¯°±²³´µ¶·¸¹\u061b»¼½¾\u061f",
       "\u06c1\u0621\u0622\u0623\u0624\u0625\u0626\u0627\u0628\u0629\u062a",
       "\u062b\u062c\u062d\u062e\u062f\u0630\u0631\u0632\u0633\u0634\u0635",
       "\u0636×\u0637\u0638\u0639\u063a\u0640\u0641\u0642\u0643",
       "à\u0644â\u0645\u0646\u0647\u0648çèéêë\u0649\u064aîï\u064b\u064c",
       "\u064d\u064eô\u064f\u0650÷\u0651ù\u0652ûü\u200e\u200f\u06d2"]⟩,
    ⟨"cp1257", ["1257", "windows_1257"],
      ["€\ufffd‚\ufffd„…†‡\ufffd‰\ufffd‹\ufffd¨ˇ¸\ufffd‘’“”•–—\ufffd™",
       "\ufffd›\ufffd¯˛\ufffd",
       "\u00a0\ufffd¢£¤\ufffd¦§Ø©Ŗ«¬\u00ad®Æ°±²³´µ¶·ø¹ŗ»¼½¾æ",
       "ĄĮĀĆÄÅĘĒČÉŹĖĢĶĪĻŠŃŅÓŌÕÖ×ŲŁŚŪÜŻŽß",
       "ąįāćäåęēčéźėģķīļšńņóōõö÷ųłśūüżž˙"]⟩,
    ⟨"cp1258", ["1258", "windows_1258"],
      ["€\ufffd‚ƒ„…†‡ˆ‰\ufffd‹Œ\ufffd\ufffd\ufffd\ufffd‘’“”•–—˜™\ufffd›œ",
       "\ufffd\ufffdŸ",
       "\u00a0¡¢£¤¥¦§¨©ª«¬\u00ad®¯°±²³´µ¶·¸¹º»¼½¾¿",
       "ÀÁÂĂÄÅÆÇÈÉÊË\u0300ÍÎÏĐÑ\u0309ÓÔƠÖ×ØÙÚÛÜƯ\u0303ß",
       "àáâăäåæçèéêë\u0301íîïđñ\u0323óôơö÷øùúûüư₫ÿ"]⟩,
    ⟨"cp273", ["273", "csibm273", "ibm273"],
      ["\u009c\u0009\u0086\u007f\u0097\u008d\u008e\u000b\u000c\u000d\u000e",
       "\u000f\u0010\u0011\u0012\u0013\u009d\u0085\u0008\u0087\u0018\u0019",
       "\u0092\u008f\u001c\u001d\u001e\u001f",
       "\u0080\u0081\u0082\u0083\u0084\u000a\u0017\u001b\u0088\u0089\u008a",
       "\u008b\u008c\u0005\u0006\u0007\u0090\u0091\u0016\u0093\u0094\u0095",
       "\u0096\u0004\u0098\u0099\u009a\u009b\u0014\u0015\u009e\u001a",
       " \u00a0â\u007bàáãåçñÄ.<(+!&éêëèíîïì~Ü$*);^",
       "-/Â[ÀÁÃÅÇÑö,%_>?øÉÊËÈÍÎÏÌ`:#§'=\u0022",
       "Øabcdefghi«»ðýþ±°jklmnopqrªºæ¸Æ¤",
       "µßstuvwxyz¡¿ÐÝÞ®¢£¥·©@¶¼½¾¬|‾¨´×",
       "äABCDEFGHI\u00adô¦òóõüJKLMNOPQR¹û\u007dùúÿ",
       "Ö÷STUVWXYZ²Ô\u005cÒÓÕ0123456789³Û]ÙÚ\u009f"]⟩,
    ⟨"cp424", ["424", "csibm424", "ebcdic_cp_he", "ibm424"],
      ["\u009c\u0009\u0086\u007f\u0097\u008d\u008e\u000b\u000c\u000d\u000e",
       "\u000f\u0010\u0011\u0012\u0013\u009d\u0085\u0008\u0087\u0018\u0019",
       "\u0092\u008f\u001c\u001d\u001e\u001f",
       "\u0080\u0081\u0082\u0083\u0084\u000a\u0017\u001b\u0088\u0089\u008a",
       "\u008b\u008c\u0005\u0006\u0007\u0090\u0091\u0016\u0093\u0094\u0095",
       "\u0096\u0004\u0098\u0099\u009a\u009b\u0014\u0015\u009e\u001a",
       " \u05d0\u05d1\u05d2\u05d3\u05d4\u05d5\u05d6\u05d7\u05d8¢.<(+|&",
       "\u05d9\u05da\u05db\u05dc\u05dd\u05de\u05df\u05e0\u05e1!$*);¬",
       "-/\u05e2\u05e3\u05e4\u05e5\u05e6\u05e7\u05e8\u05e9¦,%_>?\ufffd",
       "\u05ea\ufffd\ufffd\u00a0\ufffd\ufffd\ufffd‗`:#@'=\u0022",
       "\ufffdabcdefghi«»\ufffd\ufffd\ufffd±°jklmnopqr\ufffd\ufffd\ufffd¸",
       "\ufffd¤",
       "µ~stuvwxyz\ufffd\ufffd\ufffd\ufffd\ufffd®^£¥·©§¶¼½¾[]¯¨´×",
       "\u007bABCDEFGHI\u00ad\ufffd\ufffd\ufffd\ufffd\ufffd\u007dJKLMNOPQR",
       "¹\ufffd\ufffd\ufffd\ufffd\ufffd",
       "\u005c÷STUVWXYZ²\ufffd\ufffd\ufffd\ufffd\ufffd0123456789³\ufffd",
       "\ufffd\ufffd\ufffd\u009f"]⟩,
    ⟨"cp437", ["437", "cspc8codepage437", "ibm437"],
      ["ÇüéâäàåçêëèïîìÄÅÉæÆôöòûùÿÖÜ¢£¥₧ƒ",
       "áíóúñÑªº¿⌐¬½¼¡«»░▒▓│┤╡╢╖╕╣║╗╝╜╛┐",
       "└┴┬├─┼╞╟╚╔╩╦╠═╬╧╨╤╥╙╘╒╓╫╪┘┌█▄▌▐▀",
       "αßΓπΣσµτΦΘΩδ∞φε∩≡±≥≤⌠⌡÷≈°∙·√ⁿ²■\u00a0"]⟩,
    ⟨"cp500", ["500", "csibm500", "ebcdic_cp_be", "ebcdic_cp_ch", "ibm500"],
      ["\u009c\u0009\u0086\u007f\u0097\u008d\u008e\u000b\u000c\u000d\u000e",
       "\u000f\u0010\u0011\u0012\u0013\u009d\u0085\u0008\u0087\u0018\u0019",
       "\u0092\u008f\u001c\u001d\u001e\u001f",
       "\u0080\u0081\u0082\u0083\u0084\u000a\u0017\u001b\u0088\u0089\u008a",
       "\u008b\u008c\u0005\u0006\u0007\u0090\u0091\u0016\u0093\u0094\u0095",
       "\u0096\u0004\u0098\u0099\u009a\u009b\u0014\u0015\u009e\u001a",
       " \u00a0âäàáãåçñ[.<(+!&éêëèíîïìß]$*);^",
       "-/ÂÄÀÁÃÅÇÑ¦,%_>?øÉÊËÈÍÎÏÌ`:#@'=\u0022",
       "Øabcdefghi«»ðýþ±°jklmnopqrªºæ¸Æ¤",
       "µ~stuvwxyz¡¿ÐÝÞ®¢£¥·©§¶¼½¾¬|¯¨´×",
       "\u007bABCDEFGHI\u00adôöòóõ\u007dJKLMNOPQR¹ûüùúÿ",
       "\u005c÷STUVWXYZ²ÔÖÒÓÕ0123456789³ÛÜÙÚ\u009f"]⟩,
    ⟨"cp720", [],
      ["\u0080\u0081éâ\u0084à\u0086çêëèïî\u008d\u008e\u008f\u0090\u0651",
       "\u0652ô¤\u0640ûù\u0621\u0622\u0623\u0624£\u0625\u0626\u0627",
       "\u0628\u0629\u062a\u062b\u062c\u062d\u062e\u062f\u0630\u0631\u0632",
       "\u0633\u0634\u0635«»░▒▓│┤╡╢╖╕╣║╗╝╜╛┐",
       "└┴┬├─┼╞╟╚╔╩╦╠═╬╧╨╤╥╙╘╒╓╫╪┘┌█▄▌▐▀",
       "\u0636\u0637\u0638\u0639\u063a\u0641µ\u0642\u0643\u0644\u0645",
       "\u0646\u0647\u0648\u0649\u064a≡\u064b\u064c\u064d\u064e\u064f",
       "\u0650≈°∙·√ⁿ²■\u00a0"]⟩,
    ⟨"cp737", [],
      ["ΑΒΓΔΕΖΗΘΙΚΛΜΝΞΟΠΡΣΤΥΦΧΨΩαβγδεζηθ",
       "ικλμνξοπρσςτυφχψ░▒▓│┤╡╢╖╕╣║╗╝╜╛┐",
       "└┴┬├─┼╞╟╚╔╩╦╠═╬╧╨╤╥╙╘╒╓╫╪┘┌█▄▌▐▀",
       "ωάέήϊίόύϋώΆΈΉΊΌΎΏ±≥≤ΪΫ÷≈°∙·√ⁿ²■\u00a0"]⟩,
    ⟨"cp775", ["775", "cspc775baltic", "ibm775"],
      ["ĆüéāäģåćłēŖŗīŹÄÅÉæÆōöĢ¢ŚśÖÜø£Ø×¤",
       "ĀĪóŻżź”¦©®¬½¼Ł«»░▒▓│┤ĄČĘĖ╣║╗╝ĮŠ┐",
       "└┴┬├─┼ŲŪ╚╔╩╦╠═╬Žąčęėįšųūž┘┌█▄▌▐▀",
       "ÓßŌŃõÕµńĶķĻļņĒŅ’\u00ad±“¾¶§÷„°∙·¹³²■\u00a0"]⟩,
    ⟨"cp850", ["850", "cspc850multilingual", "ibm850"],
      ["ÇüéâäàåçêëèïîìÄÅÉæÆôöòûùÿÖÜø£Ø×ƒ",
       "áíóúñÑªº¿®¬½¼¡«»░▒▓│┤ÁÂÀ©╣║╗╝¢¥┐",
       "└┴┬├─┼ãÃ╚╔╩╦╠═╬¤ðÐÊËÈıÍÎÏ┘┌█▄¦Ì▀",
       "ÓßÔÒõÕµþÞÚÛÙýÝ¯´\u00ad±‗¾¶§÷¸°¨·¹³²■\u00a0"]⟩,
    ⟨"cp852", ["852", "cspcp852", "ibm852"],
      ["ÇüéâäůćçłëŐőîŹÄĆÉĹĺôöĽľŚśÖÜŤťŁ×č",
       "áíóúĄąŽžĘę¬źČş«»░▒▓│┤ÁÂĚŞ╣║╗╝Żż┐",
       "└┴┬├─┼Ăă╚╔╩╦╠═╬¤đĐĎËďŇÍÎě┘┌█▄ŢŮ▀",
       "ÓßÔŃńňŠšŔÚŕŰýÝţ´\u00ad˝˛ˇ˘§÷¸°¨˙űŘř■\u00a0"]⟩,
    ⟨"cp855", ["855", "csibm855", "ibm855"],
      ["ђЂѓЃёЁєЄѕЅіІїЇјЈљЉњЊћЋќЌўЎџЏюЮъЪ",
       "аАбБцЦдДеЕфФгГ«»░▒▓│┤хХиИ╣║╗╝йЙ┐",
       "└┴┬├─┼кК╚╔╩╦╠═╬¤лЛмМнНоОп┘┌█▄Пя▀",
       "ЯрРсСтТуУжЖвВьЬ№\u00adыЫзЗшШэЭщЩчЧ§■\u00a0"]⟩,
    ⟨"cp856", [],
      ["\u05d0\u05d1\u05d2\u05d3\u05d4\u05d5\u05d6\u05d7\u05d8\u05d9\u05da",
       "\u05db\u05dc\u05dd\u05de\u05df\u05e0\u05e1\u05e2\u05e3\u05e4\u05e5",
       "\u05e6\u05e7\u05e8\u05e9\u05ea\ufffd£\ufffd×\ufffd",
       "\ufffd\ufffd\ufffd\ufffd\ufffd\ufffd\ufffd\ufffd\ufffd®¬½¼\ufffd«»",
       "░▒▓│┤\ufffd\ufffd\ufffd©╣║╗╝¢¥┐",
       "└┴┬├─┼\ufffd\ufffd╚╔╩╦╠═╬¤\ufffd\ufffd\ufffd\ufffd\ufffd\ufffd",
       "\ufffd\ufffd\ufffd┘┌█▄¦\ufffd▀",
       "\ufffd\ufffd\ufffd\ufffd\ufffd\ufffdµ\ufffd\ufffd\ufffd\ufffd",
       "\ufffd\ufffd\ufffd¯´\u00ad±‗¾¶§÷¸°¨·¹³²■\u00a0"]⟩,
    ⟨"cp857", ["857", "csibm857", "ibm857"],
      ["ÇüéâäàåçêëèïîıÄÅÉæÆôöòûùİÖÜø£ØŞş",
       "áíóúñÑĞğ¿®¬½¼¡«»░▒▓│┤ÁÂÀ©╣║╗╝¢¥┐",
       "└┴┬├─┼ãÃ╚╔╩╦╠═╬¤ºªÊËÈ\ufffdÍÎÏ┘┌█▄¦Ì▀",
       "ÓßÔÒõÕµ\ufffd×ÚÛÙìÿ¯´\u00ad±\ufffd¾¶§÷¸°¨·¹³²■\u00a0"]⟩,
    ⟨"cp858", ["858", "csibm858", "ibm858"],
      ["ÇüéâäàåçêëèïîìÄÅÉæÆôöòûùÿÖÜø£Ø×ƒ",
       "áíóúñÑªº¿®¬½¼¡«»░▒▓│┤ÁÂÀ©╣║╗╝¢¥┐",
       "└┴┬├─┼ãÃ╚╔╩╦╠═╬¤ðÐÊËÈ€ÍÎÏ┘┌█▄¦Ì▀",
       "ÓßÔÒõÕµþÞÚÛÙýÝ¯´\u00ad±‗¾¶§÷¸°¨·¹³²■\u00a0"]⟩,
    ⟨"cp860", ["860", "csibm860", "ibm860"],
      ["ÇüéâãàÁçêÊèÍÔìÃÂÉÀÈôõòÚùÌÕÜ¢£Ù₧Ó",
       "áíóúñÑªº¿Ò¬½¼¡«»░▒▓│┤╡╢╖╕╣║╗╝╜╛┐",
       "└┴┬├─┼╞╟╚╔╩╦╠═╬╧╨╤╥╙╘╒╓╫╪┘┌█▄▌▐▀",
       "αßΓπΣσµτΦΘΩδ∞φε∩≡±≥≤⌠⌡÷≈°∙·√ⁿ²■\u00a0"]⟩,
    ⟨"cp861", ["861", "cp_is", "csibm861", "ibm861"],
      ["ÇüéâäàåçêëèÐðÞÄÅÉæÆôöþûÝýÖÜø£Ø₧ƒ",
       "áíóúÁÍÓÚ¿⌐¬½¼¡«»░▒▓│┤╡╢╖╕╣║╗╝╜╛┐",
       "└┴┬├─┼╞╟╚╔╩╦╠═╬╧╨╤╥╙╘╒╓╫╪┘┌█▄▌▐▀",
       "αßΓπΣσµτΦΘΩδ∞φε∩≡±≥≤⌠⌡÷≈°∙·√ⁿ²■\u00a0"]⟩,
    ⟨"cp862", ["862", "cspc862latinhebrew", "ibm862"],
      ["\u05d0\u05d1\u05d2\u05d3\u05d4\u05d5\u05d6\u05d7\u05d8\u05d9\u05da",
       "\u05db\u05dc\u05dd\u05de\u05df\u05e0\u05e1\u05e2\u05e3\u05e4\u05e5",
       "\u05e6\u05e7\u05e8\u05e9\u05ea¢£¥₧ƒ",
       "áíóúñÑªº¿⌐¬½¼¡«»░▒▓│┤╡╢╖╕╣║╗╝╜╛┐",
       "└┴┬├─┼╞╟╚╔╩╦╠═╬╧╨╤╥╙╘╒╓╫╪┘┌█▄▌▐▀",
       "αßΓπΣσµτΦΘΩδ∞φε∩≡±≥≤⌠⌡÷≈°∙·√ⁿ²■\u00a0"]⟩,
    ⟨"cp863", ["863", "csibm863", "ibm863"],
      ["ÇüéâÂà¶çêëèïî‗À§ÉÈÊôËÏûù¤ÔÜ¢£ÙÛƒ",
       "¦´óú¨¸³¯Î⌐¬½¼¾«»░▒▓│┤╡╢╖╕╣║╗╝╜╛┐",
       "└┴┬├─┼╞╟╚╔╩╦╠═╬╧╨╤╥╙╘╒╓╫╪┘┌█▄▌▐▀",
       "αßΓπΣσµτΦΘΩδ∞φε∩≡±≥≤⌠⌡÷≈°∙·√ⁿ²■\u00a0"]⟩,
    ⟨"cp864", ["864", "csibm864", "ibm864"],
      ["٪&'()*+,-./0123456789:;<=>?",
       "@ABCDEFGHIJKLMNOPQRSTUVWXYZ[\u005c]^_",
       "`abcdefghijklmnopqrstuvwxyz\u007b|\u007d~\u007f",
       "°·∙√▒─│┼┤┬├┴┐┌└┘β∞φ±½¼≈«»\ufef7\ufef8\ufffd\ufffd\ufefb\ufefc",
       "\ufffd",
       "\u00a0\u00ad\ufe82£¤\ufe84\ufffd\ufffd\ufe8e\ufe8f\ufe95\ufe99،",
       "\ufe9d\ufea1\ufea5\u0660\u0661\u0662\u0663\u0664\u0665\u0666\u0667",
       "\u0668\u0669\ufed1\u061b\ufeb1\ufeb5\ufeb9\u061f",
       "¢\ufe80\ufe81\ufe83\ufe85\ufeca\ufe8b\ufe8d\ufe91\ufe93\ufe97",
       "\ufe9b\ufe9f\ufea3\ufea7\ufea9\ufeab\ufead\ufeaf\ufeb3\ufeb7\ufebb",
       "\ufebf\ufec1\ufec5\ufecb\ufecf¦¬÷×\ufec9",
       "\u0640\ufed3\ufed7\ufedb\ufedf\ufee3\ufee7\ufeeb\ufeed\ufeef\ufef3",
       "\ufebd\ufecc\ufece\ufecd\ufee1\ufe7d\u0651\ufee5\ufee9\ufeec\ufef0",
       "\ufef2\ufed0\ufed5\ufef5\ufef6\ufedd\ufed9\ufef1■\ufffd"]⟩,
    ⟨"cp865", ["865", "csibm865", "ibm865"],
      ["ÇüéâäàåçêëèïîìÄÅÉæÆôöòûùÿÖÜø£Ø₧ƒ",
       "áíóúñÑªº¿⌐¬½¼¡«¤░▒▓│┤╡╢╖╕╣║╗╝╜╛┐",
       "└┴┬├─┼╞╟╚╔╩╦╠═╬╧╨╤╥╙╘╒╓╫╪┘┌█▄▌▐▀",
       "αßΓπΣσµτΦΘΩδ∞φε∩≡±≥≤⌠⌡÷≈°∙·√ⁿ²■\u00a0"]⟩,
    ⟨"cp866", ["866", "csibm866", "ibm866"],
      ["АБВГДЕЖЗИЙКЛМНОПРСТУФХЦЧШЩЪЫЬЭЮЯ",
       "абвгдежзийклмноп░▒▓│┤╡╢╖╕╣║╗╝╜╛┐",
       "└┴┬├─┼╞╟╚╔╩╦╠═╬╧╨╤╥╙╘╒╓╫╪┘┌█▄▌▐▀",
       "рстуфхцчшщъыьэюяЁёЄєЇїЎў°∙·√№¤■\u00a0"]⟩,
    ⟨"cp869", ["869", "cp_gr", "csibm869", "ibm869"],
      ["\ufffd\ufffd\ufffd\ufffd\ufffd\ufffdΆ\ufffd·¬¦‘’Έ―ΉΊΪΌ\ufffd\ufffd",
       "ΎΫ©Ώ²³ά£έήί",
       "ϊΐόύΑΒΓΔΕΖΗ½ΘΙ«»░▒▓│┤ΚΛΜΝ╣║╗╝ΞΟ┐",
       "└┴┬├─┼ΠΡ╚╔╩╦╠═╬ΣΤΥΦΧΨΩαβγ┘┌█▄δε▀",
       "ζηθικλμνξοπρσςτ΄\u00ad±υφχ§ψ΅°¨ωϋΰώ■\u00a0"]⟩,
    ⟨"cp874", [],
      ["€\ufffd\ufffd\ufffd\ufffd…\ufffd\ufffd\ufffd\ufffd\ufffd\ufffd",
       "\ufffd\ufffd\ufffd\ufffd\ufffd‘’“”•–—\ufffd\ufffd\ufffd\ufffd",
       "\ufffd\ufffd\ufffd\ufffd",
       "\u00a0กขฃคฅฆงจฉชซฌญฎฏฐฑฒณดตถทธนบปผฝพฟ",
       "ภมยรฤลฦวศษสหฬอฮฯะ\u0e31าำ\u0e34\u0e35\u0e36\u0e37\u0e38\u0e39",
       "\u0e3a\ufffd\ufffd\ufffd\ufffd฿",
       "เแโใไๅๆ\u0e47\u0e48\u0e49\u0e4a\u0e4b\u0e4c\u0e4d\u0e4e๏๐๑๒๓๔๕๖๗๘๙",
       "๚๛\ufffd\ufffd\ufffd\ufffd"]⟩,
    ⟨"cp875", [],
      ["\u009c\u0009\u0086\u007f\u0097\u008d\u008e\u000b\u000c\u000d\u000e",
       "\u000f\u0010\u0011\u0012\u0013\u009d\u0085\u0008\u0087\u0018\u0019",
       "\u0092\u008f\u001c\u001d\u001e\u001f",
       "\u0080\u0081\u0082\u0083\u0084\u000a\u0017\u001b\u0088\u0089\u008a",
       "\u008b\u008c\u0005\u0006\u0007\u0090\u0091\u0016\u0093\u0094\u0095",
       "\u0096\u0004\u0098\u0099\u009a\u009b\u0014\u0015\u009e\u001a",
       " ΑΒΓΔΕΖΗΘΙ[.<(+!&ΚΛΜΝΞΟΠΡΣ]$*);^",
       "-/ΤΥΦΧΨΩΪΫ|,%_>?¨ΆΈΉ\u00a0ΊΌΎΏ`:#@'=\u0022",
       "΅abcdefghiαβγδεζ°jklmnopqrηθικλμ",
       "´~stuvwxyzνξοπρσ£άέήϊίόύϋώςτυφχψ",
       "\u007bABCDEFGHI\u00adωΐΰ‘―\u007dJKLMNOPQR±½\u001a\u0387’¦",
       "\u005c\u001aSTUVWXYZ²§\u001a\u001a«¬0123456789³©\u001a\u001a»",
       "\u009f"]⟩,
    ⟨"hp_roman8", ["cp1051", "csHPRoman8", "ibm1051", "r8", "roman8"],
      ["\u0080\u0081\u0082\u0083\u0084\u0085\u0086\u0087\u0088\u0089\u008a",
       "\u008b\u008c\u008d\u008e\u008f\u0090\u0091\u0092\u0093\u0094\u0095",
       "\u0096\u0097\u0098\u0099\u009a\u009b\u009c\u009d\u009e\u009f",
       "\u00a0ÀÂÈÊËÎÏ´ˋˆ¨˜ÙÛ₤¯Ýý°ÇçÑñ¡¿¤£¥§ƒ¢",
       "âêôûáéóúàèòùäëöüÅîØÆåíøæÄìÖÜÉïßÔ",
       "ÁÃãÐðÍÌÓÒÕõŠšÚŸÿÞþ·µ¶¾—¼½ªº«■»±\ufffd"]⟩,
    ⟨"iso8859_10", ["csisolatin6", "iso_8859_10", "iso_8859_10_1992",
      "iso_ir_157", "l6", "latin6"],
      ["\u0080\u0081\u0082\u0083\u0084\u0085\u0086\u0087\u0088\u0089\u008a",
       "\u008b\u008c\u008d\u008e\u008f\u0090\u0091\u0092\u0093\u0094\u0095",
       "\u0096\u0097\u0098\u0099\u009a\u009b\u009c\u009d\u009e\u009f",
       "\u00a0ĄĒĢĪĨĶ§ĻĐŠŦŽ\u00adŪŊ°ąēģīĩķ·ļđšŧž―ūŋ",
       "ĀÁÂÃÄÅÆĮČÉĘËĖÍÎÏÐŅŌÓÔÕÖŨØŲÚÛÜÝÞß",
       "āáâãäåæįčéęëėíîïðņōóôõöũøųúûüýþĸ"]⟩,
    ⟨"iso8859_11", ["iso_8859_11", "iso_8859_11_2001", "thai"],
      ["\u0080\u0081\u0082\u0083\u0084\u0085\u0086\u0087\u0088\u0089\u008a",
       "\u008b\u008c\u008d\u008e\u008f\u0090\u0091\u0092\u0093\u0094\u0095",
       "\u0096\u0097\u0098\u0099\u009a\u009b\u009c\u009d\u009e\u009f",
       "\u00a0กขฃคฅฆงจฉชซฌญฎฏฐฑฒณดตถทธนบปผฝพฟ",
       "ภมยรฤลฦวศษสหฬอฮฯะ\u0e31าำ\u0e34\u0e35\u0e36\u0e37\u0e38\u0e39",
       "\u0e3a\ufffd\ufffd\ufffd\ufffd฿",
       "เแโใไๅๆ\u0e47\u0e48\u0e49\u0e4a\u0e4b\u0e4c\u0e4d\u0e4e๏๐๑๒๓๔๕๖๗๘๙",
       "๚๛\ufffd\ufffd\ufffd\ufffd"]⟩,
    ⟨"iso8859_13", ["iso_8859_13", "l7", "latin7"],
      ["\u0080\u0081\u0082\u0083\u0084\u0085\u0086\u0087\u0088\u0089\u008a",
       "\u008b\u008c\u008d\u008e\u008f\u0090\u0091\u0092\u0093\u0094\u0095",
       "\u0096\u0097\u0098\u0099\u009a\u009b\u009c\u009d\u009e\u009f",
       "\u00a0”¢£¤„¦§Ø©Ŗ«¬\u00ad®Æ°±²³“µ¶·ø¹ŗ»¼½¾æ",
       "ĄĮĀĆÄÅĘĒČÉŹĖĢĶĪĻŠŃŅÓŌÕÖ×ŲŁŚŪÜŻŽß",
       "ąįāćäåęēčéźėģķīļšńņóōõö÷ųłśūüżž’"]⟩,
    ⟨"iso8859_14", ["iso_8859_14", "iso_8859_14_1998", "iso_celtic",
      "iso_ir_199", "l8", "latin8"],
      ["\u0080\u0081\u0082\u0083\u0084\u0085\u0086\u0087\u0088\u0089\u008a",
       "\u008b\u008c\u008d\u008e\u008f\u0090\u0091\u0092\u0093\u0094\u0095",
       "\u0096\u0097\u0098\u0099\u009a\u009b\u009c\u009d\u009e\u009f",
       "\u00a0Ḃḃ£ĊċḊ§Ẁ©ẂḋỲ\u00ad®ŸḞḟĠġṀṁ¶ṖẁṗẃṠỳẄẅṡ",
       "ÀÁÂÃÄÅÆÇÈÉÊËÌÍÎÏŴÑÒÓÔÕÖṪØÙÚÛÜÝŶß",
       "àáâãäåæçèéêëìíîïŵñòóôõöṫøùúûüýŷÿ"]⟩,
    ⟨"iso8859_15", ["iso_8859_15", "l9", "latin9"],
      ["\u0080\u0081\u0082\u0083\u0084\u0085\u0086\u0087\u0088\u0089\u008a",
       "\u008b\u008c\u008d\u008e\u008f\u0090\u0091\u0092\u0093\u0094\u0095",
       "\u0096\u0097\u0098\u0099\u009a\u009b\u009c\u009d\u009e\u009f",
       "\u00a0¡¢£€¥Š§š©ª«¬\u00ad®¯°±²³Žµ¶·ž¹º»ŒœŸ¿",
       "ÀÁÂÃÄÅÆÇÈÉÊËÌÍÎÏÐÑÒÓÔÕÖ×ØÙÚÛÜÝÞß",
       "àáâãäåæçèéêëìíîïðñòóôõö÷øùúûüýþÿ"]⟩,
    ⟨"iso8859_16", ["iso_8859_16", "iso_8859_16_2001", "iso_ir_226", "l10",
      "latin10"],
      ["\u0080\u0081\u0082\u0083\u0084\u0085\u0086\u0087\u0088\u0089\u008a",
       "\u008b\u008c\u008d\u008e\u008f\u0090\u0091\u0092\u0093\u0094\u0095",
       "\u0096\u0097\u0098\u0099\u009a\u009b\u009c\u009d\u009e\u009f",
       "\u00a0ĄąŁ€„Š§š©Ș«Ź\u00adźŻ°±ČłŽ”¶·žčș»ŒœŸż",
       "ÀÁÂĂÄĆÆÇÈÉÊËÌÍÎÏĐŃÒÓÔŐÖŚŰÙÚÛÜĘȚß",
       "àáâăäćæçèéêëìíîïđńòóôőöśűùúûüęțÿ"]⟩,
    ⟨"iso8859_2", ["csisolatin2", "iso_8859_2", "iso_8859_2_1987",
      "iso_ir_101", "l2", "latin2"],
      ["\u0080\u0081\u0082\u0083\u0084\u0085\u0086\u0087\u0088\u0089\u008a",
       "\u008b\u008c\u008d\u008e\u008f\u0090\u0091\u0092\u0093\u0094\u0095",
       "\u0096\u0097\u0098\u0099\u009a\u009b\u009c\u009d\u009e\u009f",
       "\u00a0Ą˘Ł¤ĽŚ§¨ŠŞŤŹ\u00adŽŻ°ą˛ł´ľśˇ¸šşťź˝žż",
       "ŔÁÂĂÄĹĆÇČÉĘËĚÍÎĎĐŃŇÓÔŐÖ×ŘŮÚŰÜÝŢß",
       "ŕáâăäĺćçčéęëěíîďđńňóôőö÷řůúűüýţ˙"]⟩,
    ⟨"iso8859_3", ["csisolatin3", "iso_8859_3", "iso_8859_3_1988",
      "iso_ir_109", "l3", "latin3"],
      ["\u0080\u0081\u0082\u0083\u0084\u0085\u0086\u0087\u0088\u0089\u008a",
       "\u008b\u008c\u008d\u008e\u008f\u0090\u0091\u0092\u0093\u0094\u0095",
       "\u0096\u0097\u0098\u0099\u009a\u009b\u009c\u009d\u009e\u009f",
       "\u00a0Ħ˘£¤\ufffdĤ§¨İŞĞĴ\u00ad\ufffdŻ°ħ²³´µĥ·¸ışğĵ½\ufffdż",
       "ÀÁÂ\ufffdÄĊĈÇÈÉÊËÌÍÎÏ\ufffdÑÒÓÔĠÖ×ĜÙÚÛÜŬŜß",
       "àáâ\ufffdäċĉçèéêëìíîï\ufffdñòóôġö÷ĝùúûüŭŝ˙"]⟩,
    ⟨"iso8859_4", ["csisolatin4", "iso_8859_4", "iso_8859_4_1988",
      "iso_ir_110", "l4", "latin4"],
      ["\u0080\u0081\u0082\u0083\u0084\u0085\u0086\u0087\u0088\u0089\u008a",
       "\u008b\u008c\u008d\u008e\u008f\u0090\u0091\u0092\u0093\u0094\u0095",
       "\u0096\u0097\u0098\u0099\u009a\u009b\u009c\u009d\u009e\u009f",
       "\u00a0ĄĸŖ¤ĨĻ§¨ŠĒĢŦ\u00adŽ¯°ą˛ŗ´ĩļˇ¸šēģŧŊžŋ",
       "ĀÁÂÃÄÅÆĮČÉĘËĖÍÎĪĐŅŌĶÔÕÖ×ØŲÚÛÜŨŪß",
       "āáâãäåæįčéęëėíîīđņōķôõö÷øųúûüũū˙"]⟩,
    ⟨"iso8859_5", ["csisolatincyrillic", "cyrillic", "iso_8859_5",
      "iso_8859_5_1988", "iso_ir_144"],
      ["\u0080\u0081\u0082\u0083\u0084\u0085\u0086\u0087\u0088\u0089\u008a",
       "\u008b\u008c\u008d\u008e\u008f\u0090\u0091\u0092\u0093\u0094\u0095",
       "\u0096\u0097\u0098\u0099\u009a\u009b\u009c\u009d\u009e\u009f",
       "\u00a0ЁЂЃЄЅІЇЈЉЊЋЌ\u00adЎЏАБВГДЕЖЗИЙКЛМНОП",
       "РСТУФХЦЧШЩЪЫЬЭЮЯабвгдежзийклмноп",
       "рстуфхцчшщъыьэюя№ёђѓєѕіїјљњћќ§ўџ"]⟩,
    ⟨"iso8859_6", ["arabic", "asmo_708", "csisolatinarabic", "ecma_114",
      "iso_8859_6", "iso_8859_6_1987", "iso_ir_127"],
      ["\u0080\u0081\u0082\u0083\u0084\u0085\u0086\u0087\u0088\u0089\u008a",
       "\u008b\u008c\u008d\u008e\u008f\u0090\u0091\u0092\u0093\u0094\u0095",
       "\u0096\u0097\u0098\u0099\u009a\u009b\u009c\u009d\u009e\u009f",
       "\u00a0\ufffd\ufffd\ufffd¤\ufffd\ufffd\ufffd\ufffd\ufffd\ufffd",
       "\ufffd،\u00ad\ufffd\ufffd\ufffd\ufffd\ufffd\ufffd\ufffd\ufffd",
       "\ufffd\ufffd\ufffd\ufffd\ufffd\u061b\ufffd\ufffd\ufffd\u061f",
       "\ufffd\u0621\u0622\u0623\u0624\u0625\u0626\u0627\u0628\u0629\u062a",
       "\u062b\u062c\u062d\u062e\u062f\u0630\u0631\u0632\u0633\u0634\u0635",
       "\u0636\u0637\u0638\u0639\u063a\ufffd\ufffd\ufffd\ufffd\ufffd",
       "\u0640\u0641\u0642\u0643\u0644\u0645\u0646\u0647\u0648\u0649\u064a",
       "\u064b\u064c\u064d\u064e\u064f\u0650\u0651\u0652\ufffd\ufffd\ufffd",
       "\ufffd\ufffd\ufffd\ufffd\ufffd\ufffd\ufffd\ufffd\ufffd\ufffd"]⟩,
    ⟨"iso8859_7", ["csisolatingreek", "ecma_118", "elot_928", "greek",
      "greek8", "iso_8859_7", "iso_8859_7_1987", "iso_ir_126"],
      ["\u0080\u0081\u0082\u0083\u0084\u0085\u0086\u0087\u0088\u0089\u008a",
       "\u008b\u008c\u008d\u008e\u008f\u0090\u0091\u0092\u0093\u0094\u0095",
       "\u0096\u0097\u0098\u0099\u009a\u009b\u009c\u009d\u009e\u009f",
       "\u00a0‘’£€₯¦§¨©ͺ«¬\u00ad\ufffd―°±²³΄΅Ά·ΈΉΊ»Ό½ΎΏ",
       "ΐΑΒΓΔΕΖΗΘΙΚΛΜΝΞΟΠΡ\ufffdΣΤΥΦΧΨΩΪΫάέήί",
       "ΰαβγδεζηθικλμνξοπρςστυφχψωϊϋόύώ\ufffd"]⟩,
    ⟨"iso8859_8", ["csisolatinhebrew", "hebrew", "iso_8859_8",
      "iso_8859_8_1988", "iso_ir_138"],
      ["\u0080\u0081\u0082\u0083\u0084\u0085\u0086\u0087\u0088\u0089\u008a",
       "\u008b\u008c\u008d\u008e\u008f\u0090\u0091\u0092\u0093\u0094\u0095",
       "\u0096\u0097\u0098\u0099\u009a\u009b\u009c\u009d\u009e\u009f",
       "\u00a0\ufffd¢£¤¥¦§¨©×«¬\u00ad®¯°±²³´µ¶·¸¹÷»¼½¾\ufffd",
       "\ufffd\ufffd\ufffd\ufffd\ufffd\ufffd\ufffd\ufffd\ufffd\ufffd\ufffd",
       "\ufffd\ufffd\ufffd\ufffd\ufffd\ufffd\ufffd\ufffd\ufffd\ufffd\ufffd",
       "\ufffd\ufffd\ufffd\ufffd\ufffd\ufffd\ufffd\ufffd\ufffd‗",
       "\u05d0\u05d1\u05d2\u05d3\u05d4\u05d5\u05d6\u05d7\u05d8\u05d9\u05da",
       "\u05db\u05dc\u05dd\u05de\u05df\u05e0\u05e1\u05e2\u05e3\u05e4\u05e5",
       "\u05e6\u05e7\u05e8\u05e9\u05ea\ufffd\ufffd\u200e\u200f\ufffd"]⟩,
    ⟨"iso8859_9", ["csisolatin5", "iso_8859_9", "iso_8859_9_1989",
      "iso_ir_148", "l5", "latin5"],
      ["\u0080\u0081\u0082\u0083\u0084\u0085\u0086\u0087\u0088\u0089\u008a",
       "\u008b\u008c\u008d\u008e\u008f\u0090\u0091\u0092\u0093\u0094\u0095",
       "\u0096\u0097\u0098\u0099\u009a\u009b\u009c\u009d\u009e\u009f",
       "\u00a0¡¢£¤¥¦§¨©ª«¬\u00ad®¯°±²³´µ¶·¸¹º»¼½¾¿",
       "ÀÁÂÃÄÅÆÇÈÉÊËÌÍÎÏĞÑÒÓÔÕÖ×ØÙÚÛÜİŞß",
       "àáâãäåæçèéêëìíîïğñòóôõö÷øùúûüışÿ"]⟩,
    ⟨"koi8_r", ["cskoi8r"],
      ["─│┌┐└┘├┤┬┴┼▀▄█▌▐░▒▓⌠■∙√≈≤≥\u00a0⌡°²·÷",
       "═║╒ё╓╔╕╖╗╘╙╚╛╜╝╞╟╠╡Ё╢╣╤╥╦╧╨╩╪╫╬©",
       "юабцдефгхийклмнопярстужвьызшэщчъ",
       "ЮАБЦДЕФГХИЙКЛМНОПЯРСТУЖВЬЫЗШЭЩЧЪ"]⟩,
    ⟨"koi8_t", [],
      ["қғ‚Ғ„…†‡\ufffd‰ҳ‹ҲҷҶ\ufffdҚ‘’“”•–—\ufffd™\ufffd›\ufffd\ufffd\ufffd",
       "\ufffd",
       "\ufffdӯӮё¤ӣ¦§\ufffd\ufffd\ufffd«¬\u00ad®\ufffd°±²Ё\ufffdӢ¶·\ufffd№",
       "\ufffd»\ufffd\ufffd\ufffd©",
       "юабцдефгхийклмнопярстужвьызшэщчъ",
       "ЮАБЦДЕФГХИЙКЛМНОПЯРСТУЖВЬЫЗШЭЩЧЪ"]⟩,
    ⟨"koi8_u", [],
      ["─│┌┐└┘├┤┬┴┼▀▄█▌▐░▒▓⌠■∙√≈≤≥\u00a0⌡°²·÷",
       "═║╒ёє╔ії╗╘╙╚╛ґ╝╞╟╠╡ЁЄ╣ІЇ╦╧╨╩╪Ґ╬©",
       "юабцдефгхийклмнопярстужвьызшэщчъ",
       "ЮАБЦДЕФГХИЙКЛМНОПЯРСТУЖВЬЫЗШЭЩЧЪ"]⟩,
    ⟨"kz1048", ["kz_1048", "rk1048", "strk1048_2002"],
      ["ЂЃ‚ѓ„…†‡€‰Љ‹ЊҚҺЏђ‘’“”•–—\ufffd™љ›њқһџ",
       "\u00a0ҰұӘ¤Ө¦§Ё©Ғ«¬\u00ad®Ү°±Ііөµ¶·ё№ғ»әҢңү",
       "АБВГДЕЖЗИЙКЛМНОПРСТУФХЦЧШЩЪЫЬЭЮЯ",
       "абвгдежзийклмнопрстуфхцчшщъыьэюя"]⟩,
    ⟨"mac_arabic", [],
      ["Ä\u00a0ÇÉÑÖÜáàâä\u06ba«çéèêëí…îïñó»ôö÷úùûü",
       " !\u0022#$٪&'()*+،-./\u0660\u0661\u0662\u0663\u0664\u0665\u0666",
       "\u0667\u0668\u0669:\u061b<=>\u061f",
       "❊\u0621\u0622\u0623\u0624\u0625\u0626\u0627\u0628\u0629\u062a",
       "\u062b\u062c\u062d\u062e\u062f\u0630\u0631\u0632\u0633\u0634\u0635",
       "\u0636\u0637\u0638\u0639\u063a[\u005c]^_",
       "\u0640\u0641\u0642\u0643\u0644\u0645\u0646\u0647\u0648\u0649\u064a",
       "\u064b\u064c\u064d\u064e\u064f\u0650\u0651\u0652\u067e\u0679\u0686",
       "\u06d5\u06a4\u06af\u0688\u0691\u007b|\u007d\u0698\u06d2"]⟩,
    ⟨"mac_croatian", [],
      ["ÄÅÇÉÑÖÜáàâäãåçéèêëíìîïñóòôöõúùûü",
       "†°¢£§•¶ß®Š™´¨≠ŽØ∞±≤≥∆µ∂∑∏š∫ªºΩžø",
       "¿¡¬√ƒ≈Ć«Č…\u00a0ÀÃÕŒœĐ—“”‘’÷◊\uf8ff©⁄€‹›Æ»",
       "–·‚„‰ÂćÁčÈÍÎÏÌÓÔđÒÚÛÙıˆ˜¯πË˚¸Êæˇ"]⟩,
    ⟨"mac_cyrillic", ["maccyrillic"],
      ["АБВГДЕЖЗИЙКЛМНОПРСТУФХЦЧШЩЪЫЬЭЮЯ",
       "†°Ґ£§•¶І®©™Ђђ≠Ѓѓ∞±≤≥іµґЈЄєЇїЉљЊњ",
       "јЅ¬√ƒ≈∆«»…\u00a0ЋћЌќѕ–—“”‘’÷„ЎўЏџ№Ёёя",
       "абвгдежзийклмнопрстуфхцчшщъыьэю€"]⟩,
    ⟨"mac_farsi", [],
      ["Ä\u00a0ÇÉÑÖÜáàâä\u06ba«çéèêëí…îïñó»ôö÷úùûü",
       " !\u0022#$٪&'()*+،-./۰۱۲۳۴۵۶۷۸۹:\u061b<=>\u061f",
       "❊\u0621\u0622\u0623\u0624\u0625\u0626\u0627\u0628\u0629\u062a",
       "\u062b\u062c\u062d\u062e\u062f\u0630\u0631\u0632\u0633\u0634\u0635",
       "\u0636\u0637\u0638\u0639\u063a[\u005c]^_",
       "\u0640\u0641\u0642\u0643\u0644\u0645\u0646\u0647\u0648\u0649\u064a",
       "\u064b\u064c\u064d\u064e\u064f\u0650\u0651\u0652\u067e\u0679\u0686",
       "\u06d5\u06a4\u06af\u0688\u0691\u007b|\u007d\u0698\u06d2"]⟩,
    ⟨"mac_greek", ["macgreek"],
      ["Ä¹²É³ÖÜ΅àâä΄¨çéèêë£™îï•½‰ôö¦€ùûü",
       "†ΓΔΘΛΞΠß®©ΣΪ§≠°·Α±≤≥¥ΒΕΖΗΙΚΜΦΫΨΩ",
       "άΝ¬ΟΡ≈Τ«»…\u00a0ΥΧΆΈœ–―“”‘’÷ΉΊΌΎέήίόΏ",
       "ύαβψδεφγηιξκλμνοπώρστθωςχυζϊϋΐΰ\u00ad"]⟩,
    ⟨"mac_iceland", ["maciceland"],
      ["ÄÅÇÉÑÖÜáàâäãåçéèêëíìîïñóòôöõúùûü",
       "Ý°¢£§•¶ß®©™´¨≠ÆØ∞±≤≥¥µ∂∑∏π∫ªºΩæø",
       "¿¡¬√ƒ≈∆«»…\u00a0ÀÃÕŒœ–—“”‘’÷◊ÿŸ⁄€ÐðÞþ",
       "ý·‚„‰ÂÊÁËÈÍÎÏÌÓÔ\uf8ffÒÚÛÙıˆ˜¯˘˙˚¸˝˛ˇ"]⟩,
    ⟨"mac_latin2", ["mac_centeuro", "maccentraleurope", "maclatin2"],
      ["ÄĀāÉĄÖÜáąČäčĆćéŹźĎíďĒēĖóėôöõúĚěü",
       "†°Ę£§•¶ß®©™ę¨≠ģĮįĪ≤≥īĶ∂∑łĻļĽľĹĺŅ",
       "ņŃ¬√ńŇ∆«»…\u00a0ňŐÕőŌ–—“”‘’÷◊ōŔŕŘ‹›řŖ",
       "ŗŠ‚„šŚśÁŤťÍŽžŪÓÔūŮÚůŰűŲųÝýķŻŁżĢˇ"]⟩,
    ⟨"mac_roman", ["macintosh", "macroman"],
      ["ÄÅÇÉÑÖÜáàâäãåçéèêëíìîïñóòôöõúùûü",
       "†°¢£§•¶ß®©™´¨≠ÆØ∞±≤≥¥µ∂∑∏π∫ªºΩæø",
       "¿¡¬√ƒ≈∆«»…\u00a0ÀÃÕŒœ–—“”‘’÷◊ÿŸ⁄€‹›ﬁﬂ",
       "‡·‚„‰ÂÊÁËÈÍÎÏÌÓÔ\uf8ffÒÚÛÙıˆ˜¯˘˙˚¸˝˛ˇ"]⟩,
    ⟨"mac_romanian", [],
      ["ÄÅÇÉÑÖÜáàâäãåçéèêëíìîïñóòôöõúùûü",
       "†°¢£§•¶ß®©™´¨≠ĂȘ∞±≤≥¥µ∂∑∏π∫ªºΩăș",
       "¿¡¬√ƒ≈∆«»…\u00a0ÀÃÕŒœ–—“”‘’÷◊ÿŸ⁄€‹›Țț",
       "‡·‚„‰ÂÊÁËÈÍÎÏÌÓÔ\uf8ffÒÚÛÙıˆ˜¯˘˙˚¸˝˛ˇ"]⟩,
    ⟨"mac_turkish", ["macturkish"],
      ["ÄÅÇÉÑÖÜáàâäãåçéèêëíìîïñóòôöõúùûü",
       "†°¢£§•¶ß®©™´¨≠ÆØ∞±≤≥¥µ∂∑∏π∫ªºΩæø",
       "¿¡¬√ƒ≈∆«»…\u00a0ÀÃÕŒœ–—“”‘’÷◊ÿŸĞğİıŞş",
       "‡·‚„‰ÂÊÁËÈÍÎÏÌÓÔ\uf8ffÒÚÛÙ\uf8a0ˆ˜¯˘˙˚¸˝˛ˇ"]⟩,
    ⟨"palmos", [],
      ["€\u0081‚ƒ„…†‡ˆ‰Š‹Œ♦♣♥♠‘’“”•–—˜™š\u009bœ\u009d\u009eŸ",
       "\u00a0¡¢£¤¥¦§¨©ª«¬\u00ad®¯°±²³´µ¶·¸¹º»¼½¾¿",
       "ÀÁÂÃÄÅÆÇÈÉÊËÌÍÎÏÐÑÒÓÔÕÖ×ØÙÚÛÜÝÞß",
       "àáâãäåæçèéêëìíîïðñòóôõö÷øùúûüýþÿ"]⟩,
    ⟨"ptcp154", ["cp154", "csptcp154", "cyrillic_asian", "pt154"],
      ["ҖҒӮғ„…ҶҮҲүҠӢҢҚҺҸҗ‘’“”•–—ҳҷҡӣңқһҹ",
       "\u00a0ЎўЈӨҘҰ§Ё©Ә«¬ӯ®Ҝ°ұІіҙө¶·ё№ә»јҪҫҝ",
       "АБВГДЕЖЗИЙКЛМНОПРСТУФХЦЧШЩЪЫЬЭЮЯ",
       "абвгдежзийклмнопрстуфхцчшщъыьэюя"]⟩,
    ⟨"tis_620", ["iso_ir_166", "tis620", "tis_620_0", "tis_620_2529_0",
      "tis_620_2529_1"],
      ["\u0080\u0081\u0082\u0083\u0084\u0085\u0086\u0087\u0088\u0089\u008a",
       "\u008b\u008c\u008d\u008e\u008f\u0090\u0091\u0092\u0093\u0094\u0095",
       "\u0096\u0097\u0098\u0099\u009a\u009b\u009c\u009d\u009e\u009f",
       "\ufffdกขฃคฅฆงจฉชซฌญฎฏฐฑฒณดตถทธนบปผฝพฟ",
       "ภมยรฤลฦวศษสหฬอฮฯะ\u0e31าำ\u0e34\u0e35\u0e36\u0e37\u0e38\u0e39",
       "\u0e3a\ufffd\ufffd\ufffd\ufffd฿",
       "เแโใไๅๆ\u0e47\u0e48\u0e49\u0e4a\u0e4b\u0e4c\u0e4d\u0e4e๏๐๑๒๓๔๕๖๗๘๙",
       "๚๛\ufffd\ufffd\ufffd\ufffd"]⟩
  ]

end Toolsmith.Codepage
