import Reshape.Charset.Index

/-!
# The upper halves of the single-byte sets

In a single-byte encoding the bytes below 128 are ASCII and each byte above
stands for one character or for none.  The pointer of a character is its byte
less 128.
-/

namespace Reshape
namespace Charset

def ibm866Index : Index := Index.ofRows [
  "АБВГДЕЖЗИЙКЛМНОПРСТУФХЦЧШЩЪЫЬЭЮЯабвгдежзийклмноп░▒▓│┤╡╢╖╕╣║╗╝╜╛┐",
  "└┴┬├─┼╞╟╚╔╩╦╠═╬╧╨╤╥╙╘╒╓╫╪┘┌█▄▌▐▀рстуфхцчшщъыьэюяЁёЄєЇїЎў°∙·√№¤■\u00a0"]

def iso8859_2Index : Index := Index.ofRows [
  "\u0080\u0081\u0082\u0083\u0084\u0085\u0086\u0087\u0088\u0089\u008a",
  "\u008b\u008c\u008d\u008e\u008f\u0090\u0091\u0092\u0093\u0094\u0095",
  "\u0096\u0097\u0098\u0099\u009a\u009b\u009c\u009d\u009e\u009f\u00a0",
  "Ą˘Ł¤ĽŚ§¨ŠŞŤ",
  "Ź\u00adŽŻ°ą˛ł´ľ",
  "śˇ¸šşťź˝žż",
  "ŔÁÂĂÄĹĆÇČÉĘËĚÍÎĎĐŃŇÓÔŐÖ×ŘŮÚŰÜÝŢßŕáâăäĺćçčéęëěíîďđńňóôőö÷řůúűüýţ˙"]

def iso8859_3Index : Index := Index.ofRows [
  "\u0080\u0081\u0082\u0083\u0084\u0085\u0086\u0087\u0088\u0089\u008a",
  "\u008b\u008c\u008d\u008e\u008f\u0090\u0091\u0092\u0093\u0094\u0095",
  "\u0096\u0097\u0098\u0099\u009a\u009b\u009c\u009d\u009e\u009f\u00a0",
  "Ħ˘£¤�Ĥ§¨İŞĞ",
  "Ĵ\u00ad�Ż°ħ²³´µ",
  "ĥ·¸ışğĵ½�ż",
  "ÀÁÂ�ÄĊĈÇÈÉÊËÌÍÎÏ�ÑÒÓÔĠÖ×ĜÙÚÛÜŬŜßàáâ�äċĉçèéêëìíîï�ñòóôġö÷ĝùúûüŭŝ˙"]

def iso8859_4Index : Index := Index.ofRows [
  "\u0080\u0081\u0082\u0083\u0084\u0085\u0086\u0087\u0088\u0089\u008a",
  "\u008b\u008c\u008d\u008e\u008f\u0090\u0091\u0092\u0093\u0094\u0095",
  "\u0096\u0097\u0098\u0099\u009a\u009b\u009c\u009d\u009e\u009f\u00a0",
  "ĄĸŖ¤ĨĻ§¨ŠĒĢ",
  "Ŧ\u00adŽ¯°ą˛ŗ´ĩ",
  "ļˇ¸šēģŧŊžŋ",
  "ĀÁÂÃÄÅÆĮČÉĘËĖÍÎĪĐŅŌĶÔÕÖ×ØŲÚÛÜŨŪßāáâãäåæįčéęëėíîīđņōķôõö÷øųúûüũū˙"]

def iso8859_5Index : Index := Index.ofRows [
  "\u0080\u0081\u0082\u0083\u0084\u0085\u0086\u0087\u0088\u0089\u008a",
  "\u008b\u008c\u008d\u008e\u008f\u0090\u0091\u0092\u0093\u0094\u0095",
  "\u0096\u0097\u0098\u0099\u009a\u009b\u009c\u009d\u009e\u009f\u00a0",
  "ЁЂЃЄЅІЇЈЉЊЋ",
  "Ќ\u00adЎЏАБВГДЕ",
  "ЖЗИЙКЛМНОП",
  "РСТУФХЦЧШЩЪЫЬЭЮЯабвгдежзийклмнопрстуфхцчшщъыьэюя№ёђѓєѕіїјљњћќ§ўџ"]

def iso8859_6Index : Index := Index.ofRows [
  "\u0080\u0081\u0082\u0083\u0084\u0085\u0086\u0087\u0088\u0089\u008a",
  "\u008b\u008c\u008d\u008e\u008f\u0090\u0091\u0092\u0093\u0094\u0095",
  "\u0096\u0097\u0098\u0099\u009a\u009b\u009c\u009d\u009e\u009f\u00a0",
  "���¤�������",
  "،\u00ad��������",
  "�����\u061b���\u061f",
  "�\u0621\u0622\u0623\u0624\u0625\u0626\u0627\u0628\u0629\u062a",
  "\u062b\u062c\u062d\u062e\u062f\u0630\u0631\u0632\u0633\u0634\u0635",
  "\u0636\u0637\u0638\u0639\u063a�����\u0640",
  "\u0641\u0642\u0643\u0644\u0645\u0646\u0647\u0648\u0649\u064a\u064b",
  "\u064c\u064d\u064e\u064f\u0650\u0651\u0652���",
  "����������"]

def iso8859_7Index : Index := Index.ofRows [
  "\u0080\u0081\u0082\u0083\u0084\u0085\u0086\u0087\u0088\u0089\u008a",
  "\u008b\u008c\u008d\u008e\u008f\u0090\u0091\u0092\u0093\u0094\u0095",
  "\u0096\u0097\u0098\u0099\u009a\u009b\u009c\u009d\u009e\u009f\u00a0",
  "‘’£€₯¦§¨©ͺ«",
  "¬\u00ad�―°±²³΄΅",
  "Ά·ΈΉΊ»Ό½ΎΏ",
  "ΐΑΒΓΔΕΖΗΘΙΚΛΜΝΞΟΠΡ�ΣΤΥΦΧΨΩΪΫάέήίΰαβγδεζηθικλμνξοπρςστυφχψωϊϋόύώ�"]

def iso8859_8Index : Index := Index.ofRows [
  "\u0080\u0081\u0082\u0083\u0084\u0085\u0086\u0087\u0088\u0089\u008a",
  "\u008b\u008c\u008d\u008e\u008f\u0090\u0091\u0092\u0093\u0094\u0095",
  "\u0096\u0097\u0098\u0099\u009a\u009b\u009c\u009d\u009e\u009f\u00a0",
  "�¢£¤¥¦§¨©×«",
  "¬\u00ad®¯°±²³´µ",
  "¶·¸¹÷»¼½¾�",
  "�����������",
  "�����������",
  "���������‗\u05d0",
  "\u05d1\u05d2\u05d3\u05d4\u05d5\u05d6\u05d7\u05d8\u05d9\u05da\u05db",
  "\u05dc\u05dd\u05de\u05df\u05e0\u05e1\u05e2\u05e3\u05e4\u05e5",
  "\u05e6\u05e7\u05e8\u05e9\u05ea��\u200e\u200f�"]

def iso8859_10Index : Index := Index.ofRows [
  "\u0080\u0081\u0082\u0083\u0084\u0085\u0086\u0087\u0088\u0089\u008a",
  "\u008b\u008c\u008d\u008e\u008f\u0090\u0091\u0092\u0093\u0094\u0095",
  "\u0096\u0097\u0098\u0099\u009a\u009b\u009c\u009d\u009e\u009f\u00a0",
  "ĄĒĢĪĨĶ§ĻĐŠŦ",
  "Ž\u00adŪŊ°ąēģīĩ",
  "ķ·ļđšŧž―ūŋ",
  "ĀÁÂÃÄÅÆĮČÉĘËĖÍÎÏÐŅŌÓÔÕÖŨØŲÚÛÜÝÞßāáâãäåæįčéęëėíîïðņōóôõöũøųúûüýþĸ"]

def iso8859_13Index : Index := Index.ofRows [
  "\u0080\u0081\u0082\u0083\u0084\u0085\u0086\u0087\u0088\u0089\u008a",
  "\u008b\u008c\u008d\u008e\u008f\u0090\u0091\u0092\u0093\u0094\u0095",
  "\u0096\u0097\u0098\u0099\u009a\u009b\u009c\u009d\u009e\u009f\u00a0",
  "”¢£¤„¦§Ø©Ŗ«",
  "¬\u00ad®Æ°±²³“µ",
  "¶·ø¹ŗ»¼½¾æ",
  "ĄĮĀĆÄÅĘĒČÉŹĖĢĶĪĻŠŃŅÓŌÕÖ×ŲŁŚŪÜŻŽßąįāćäåęēčéźėģķīļšńņóōõö÷ųłśūüżž’"]

def iso8859_14Index : Index := Index.ofRows [
  "\u0080\u0081\u0082\u0083\u0084\u0085\u0086\u0087\u0088\u0089\u008a",
  "\u008b\u008c\u008d\u008e\u008f\u0090\u0091\u0092\u0093\u0094\u0095",
  "\u0096\u0097\u0098\u0099\u009a\u009b\u009c\u009d\u009e\u009f\u00a0",
  "Ḃḃ£ĊċḊ§Ẁ©Ẃḋ",
  "Ỳ\u00ad®ŸḞḟĠġṀṁ",
  "¶ṖẁṗẃṠỳẄẅṡ",
  "ÀÁÂÃÄÅÆÇÈÉÊËÌÍÎÏŴÑÒÓÔÕÖṪØÙÚÛÜÝŶßàáâãäåæçèéêëìíîïŵñòóôõöṫøùúûüýŷÿ"]

def iso8859_15Index : Index := Index.ofRows [
  "\u0080\u0081\u0082\u0083\u0084\u0085\u0086\u0087\u0088\u0089\u008a",
  "\u008b\u008c\u008d\u008e\u008f\u0090\u0091\u0092\u0093\u0094\u0095",
  "\u0096\u0097\u0098\u0099\u009a\u009b\u009c\u009d\u009e\u009f\u00a0",
  "¡¢£€¥Š§š©ª«",
  "¬\u00ad®¯°±²³Žµ",
  "¶·ž¹º»ŒœŸ¿",
  "ÀÁÂÃÄÅÆÇÈÉÊËÌÍÎÏÐÑÒÓÔÕÖ×ØÙÚÛÜÝÞßàáâãäåæçèéêëìíîïðñòóôõö÷øùúûüýþÿ"]

def iso8859_16Index : Index := Index.ofRows [
  "\u0080\u0081\u0082\u0083\u0084\u0085\u0086\u0087\u0088\u0089\u008a",
  "\u008b\u008c\u008d\u008e\u008f\u0090\u0091\u0092\u0093\u0094\u0095",
  "\u0096\u0097\u0098\u0099\u009a\u009b\u009c\u009d\u009e\u009f\u00a0",
  "ĄąŁ€„Š§š©Ș«",
  "Ź\u00adźŻ°±ČłŽ”",
  "¶·žčș»ŒœŸż",
  "ÀÁÂĂÄĆÆÇÈÉÊËÌÍÎÏĐŃÒÓÔŐÖŚŰÙÚÛÜĘȚßàáâăäćæçèéêëìíîïđńòóôőöśűùúûüęțÿ"]

def koi8RIndex : Index := Index.ofRows [
  "─│┌┐└┘├┤┬┴┼▀▄█▌▐░▒▓⌠■∙√≈≤≥\u00a0⌡°²·÷═║╒ё╓╔╕╖╗╘╙╚╛╜╝╞╟╠╡Ё╢╣╤╥╦╧╨╩╪╫╬©",
  "юабцдефгхийклмнопярстужвьызшэщчъЮАБЦДЕФГХИЙКЛМНОПЯРСТУЖВЬЫЗШЭЩЧЪ"]

def koi8UIndex : Index := Index.ofRows [
  "─│┌┐└┘├┤┬┴┼▀▄█▌▐░▒▓⌠■∙√≈≤≥\u00a0⌡°²·÷═║╒ёє╔ії╗╘╙╚╛ґў╞╟╠╡ЁЄ╣ІЇ╦╧╨╩╪ҐЎ©",
  "юабцдефгхийклмнопярстужвьызшэщчъЮАБЦДЕФГХИЙКЛМНОПЯРСТУЖВЬЫЗШЭЩЧЪ"]

def macintoshIndex : Index := Index.ofRows [
  "ÄÅÇÉÑÖÜáàâäãåçéèêëíìîïñóòôöõúùûü†°¢£§•¶ß®©™´¨≠ÆØ∞±≤≥¥µ∂∑∏π∫ªºΩæø",
  "¿¡¬√ƒ≈∆«»…\u00a0ÀÃÕŒœ–—“”‘’÷◊ÿŸ⁄€‹›ﬁﬂ‡·‚„‰ÂÊÁËÈÍÎÏÌÓÔ\uf8ffÒÚÛÙıˆ˜¯˘˙˚¸˝˛ˇ"]

def windows874Index : Index := Index.ofRows [
  "€\u0081\u0082\u0083\u0084…\u0086\u0087\u0088\u0089\u008a\u008b\u008c",
  "\u008d\u008e\u008f\u0090‘’“”•–—\u0098\u0099",
  "\u009a\u009b\u009c\u009d\u009e\u009f\u00a0กขฃคฅฆ",
  "งจฉชซฌญฎฏฐฑฒณ",
  "ดตถทธนบปผฝพฟ",
  "ภมยรฤลฦวศษสหฬอฮฯะ\u0e31าำ\u0e34\u0e35\u0e36\u0e37\u0e38\u0e39\u0e3a����฿",
  "เแโใไๅๆ\u0e47\u0e48\u0e49\u0e4a\u0e4b\u0e4c\u0e4d\u0e4e๏๐๑๒๓๔๕๖๗๘๙๚๛����"]

def windows1250Index : Index := Index.ofRows [
  "€\u0081‚\u0083„…†‡\u0088‰Š‹ŚŤŽŹ\u0090‘’“”•–—\u0098™š›śťžź",
  "\u00a0ˇ˘Ł¤Ą¦§¨©Ş«¬\u00ad®Ż°±˛ł´µ¶·¸ąş»Ľ˝ľż",
  "ŔÁÂĂÄĹĆÇČÉĘËĚÍÎĎĐŃŇÓÔŐÖ×ŘŮÚŰÜÝŢßŕáâăäĺćçčéęëěíîďđńňóôőö÷řůúűüýţ˙"]

def windows1251Index : Index := Index.ofRows [
  "ЂЃ‚ѓ„…†‡€‰Љ‹ЊЌЋЏђ‘’“”•–—\u0098™љ›њќћџ",
  "\u00a0ЎўЈ¤Ґ¦§Ё©Є«¬\u00ad®Ї°±Ііґµ¶·ё№є»јЅѕї",
  "АБВГДЕЖЗИЙКЛМНОПРСТУФХЦЧШЩЪЫЬЭЮЯабвгдежзийклмнопрстуфхцчшщъыьэюя"]

def windows1252Index : Index := Index.ofRows [
  "€\u0081‚ƒ„…†‡ˆ‰Š‹Œ\u008dŽ\u008f\u0090‘’“”•–—˜™š›œ\u009džŸ",
  "\u00a0¡¢£¤¥¦§¨©ª«¬\u00ad®¯°±²³´µ¶·¸¹º»¼½¾¿",
  "ÀÁÂÃÄÅÆÇÈÉÊËÌÍÎÏÐÑÒÓÔÕÖ×ØÙÚÛÜÝÞßàáâãäåæçèéêëìíîïðñòóôõö÷øùúûüýþÿ"]

def windows1253Index : Index := Index.ofRows [
  "€\u0081‚ƒ„…†‡\u0088‰\u008a‹\u008c\u008d\u008e\u008f\u0090‘’“”•",
  "–—\u0098™\u009a›\u009c\u009d\u009e\u009f\u00a0΅Ά£¤¥¦§¨©�",
  "«¬\u00ad®―°±²³΄µ¶·ΈΉΊ»Ό½ΎΏ",
  "ΐΑΒΓΔΕΖΗΘΙΚΛΜΝΞΟΠΡ�ΣΤΥΦΧΨΩΪΫάέήίΰαβγδεζηθικλμνξοπρςστυφχψωϊϋόύώ�"]

def windows1254Index : Index := Index.ofRows [
  "€\u0081‚ƒ„…†‡ˆ‰Š‹Œ\u008d\u008e\u008f\u0090‘’“”•–—˜™š›œ\u009d\u009eŸ",
  "\u00a0¡¢£¤¥¦§¨©ª«¬\u00ad®¯°±²³´µ¶·¸¹º»¼½¾¿",
  "ÀÁÂÃÄÅÆÇÈÉÊËÌÍÎÏĞÑÒÓÔÕÖ×ØÙÚÛÜİŞßàáâãäåæçèéêëìíîïğñòóôõö÷øùúûüışÿ"]

def windows1255Index : Index := Index.ofRows [
  "€\u0081‚ƒ„…†‡ˆ‰\u008a‹\u008c\u008d\u008e\u008f\u0090‘’“”•",
  "–—˜™\u009a›\u009c\u009d\u009e\u009f\u00a0¡¢£₪¥¦§¨©×",
  "«¬\u00ad®¯°±²³´µ¶·¸¹÷»¼½¾¿",
  "\u05b0\u05b1\u05b2\u05b3\u05b4\u05b5\u05b6\u05b7\u05b8\u05b9\u05ba",
  "\u05bb\u05bc\u05bd\u05be\u05bf\u05c0\u05c1\u05c2\u05c3\u05f0\u05f1",
  "\u05f2\u05f3\u05f4�������\u05d0",
  "\u05d1\u05d2\u05d3\u05d4\u05d5\u05d6\u05d7\u05d8\u05d9\u05da\u05db",
  "\u05dc\u05dd\u05de\u05df\u05e0\u05e1\u05e2\u05e3\u05e4\u05e5",
  "\u05e6\u05e7\u05e8\u05e9\u05ea��\u200e\u200f�"]

def windows1256Index : Index := Index.ofRows [
  "€\u067e‚ƒ„…†‡ˆ‰\u0679‹Œ\u0686\u0698\u0688\u06af‘’“”•",
  "–—\u06a9™\u0691›œ\u200c\u200d\u06ba\u00a0،¢£¤¥¦§¨©\u06be",
  "«¬\u00ad®¯°±²³´µ¶·¸¹\u061b»¼½¾\u061f",
  "\u06c1\u0621\u0622\u0623\u0624\u0625\u0626\u0627\u0628\u0629\u062a",
  "\u062b\u062c\u062d\u062e\u062f\u0630\u0631\u0632\u0633\u0634\u0635",
  "\u0636×\u0637\u0638\u0639\u063a\u0640\u0641\u0642\u0643à",
  "\u0644â\u0645\u0646\u0647\u0648çèéêë",
  "\u0649\u064aîï\u064b\u064c\u064d\u064eô\u064f",
  "\u0650÷\u0651ù\u0652ûü\u200e\u200f\u06d2"]

def windows1257Index : Index := Index.ofRows [
  "€\u0081‚\u0083„…†‡\u0088‰\u008a‹\u008c¨ˇ¸\u0090‘’“”•",
  "–—\u0098™\u009a›\u009c¯˛\u009f\u00a0�¢£¤�¦§Ø©Ŗ",
  "«¬\u00ad®Æ°±²³´µ¶·ø¹ŗ»¼½¾æ",
  "ĄĮĀĆÄÅĘĒČÉŹĖĢĶĪĻŠŃŅÓŌÕÖ×ŲŁŚŪÜŻŽßąįāćäåęēčéźėģķīļšńņóōõö÷ųłśūüżž˙"]

def windows1258Index : Index := Index.ofRows [
  "€\u0081‚ƒ„…†‡ˆ‰\u008a‹Œ\u008d\u008e\u008f\u0090‘’“”•",
  "–—˜™\u009a›œ\u009d\u009eŸ\u00a0¡¢£¤¥¦§¨©ª",
  "«¬\u00ad®¯°±²³´µ¶·¸¹º»¼½¾¿",
  "ÀÁÂĂÄÅÆÇÈÉÊË\u0300ÍÎÏĐÑ\u0309ÓÔƠÖ×ØÙÚÛÜƯ\u0303ß",
  "àáâăäåæçèéêë\u0301íîïđñ\u0323óôơö÷øùúûüư₫ÿ"]

def macCyrillicIndex : Index := Index.ofRows [
  "АБВГДЕЖЗИЙКЛМНОПРСТУФХЦЧШЩЪЫЬЭЮЯ†°Ґ£§•¶І®©™Ђђ≠Ѓѓ∞±≤≥іµґЈЄєЇїЉљЊњ",
  "јЅ¬√ƒ≈∆«»…\u00a0ЋћЌќѕ–—“”‘’÷„ЎўЏџ№Ёёяабвгдежзийклмнопрстуфхцчшщъыьэю€"]

end Charset
end Reshape
