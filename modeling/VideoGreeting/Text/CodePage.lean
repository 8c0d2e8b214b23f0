/-!
# Code pages

Where every character takes one byte, the bytes below `0x80` are ASCII. A page lists the characters
of the bytes above, up to the last one; the bytes between ASCII and the first one listed are control
characters. The replacement character stands where a page has none.
-/

namespace VideoGreeting.Text.CodePage

/-- IBM code page 866. -/
def ibm866 : String :=
  "АБВГДЕЖЗИЙКЛМНОПРСТУФХЦЧШЩЪЫЬЭЮЯабвгдежзийклмноп░▒▓│┤╡╢╖╕╣║╗╝╜╛┐└┴┬├─┼╞╟╚╔╩╦╠═╬╧╨╤╥╙╘╒" ++
  "╓╫╪┘┌█▄▌▐▀рстуфхцчшщъыьэюяЁёЄєЇїЎў°∙·√№¤■\u00a0"

/-- Part 2 of ISO 8859. -/
def isoPart2 : String :=
  "\u00a0Ą˘Ł¤ĽŚ§¨ŠŞŤŹ\u00adŽŻ°ą˛ł´ľśˇ¸šşťź˝žżŔÁÂĂÄĹĆÇČÉĘËĚÍÎĎĐŃŇÓÔŐÖ×ŘŮÚŰÜÝŢßŕáâăäĺćçčéęë" ++
  "ěíîďđńňóôőö÷řůúűüýţ˙"

/-- Part 3 of ISO 8859. -/
def isoPart3 : String :=
  "\u00a0Ħ˘£¤�Ĥ§¨İŞĞĴ\u00ad�Ż°ħ²³´µĥ·¸ışğĵ½�żÀÁÂ�ÄĊĈÇÈÉÊËÌÍÎÏ�ÑÒÓÔĠÖ×ĜÙÚÛÜŬŜßàáâ�äċĉçèéêë" ++
  "ìíîï�ñòóôġö÷ĝùúûüŭŝ˙"

/-- Part 4 of ISO 8859. -/
def isoPart4 : String :=
  "\u00a0ĄĸŖ¤ĨĻ§¨ŠĒĢŦ\u00adŽ¯°ą˛ŗ´ĩļˇ¸šēģŧŊžŋĀÁÂÃÄÅÆĮČÉĘËĖÍÎĪĐŅŌĶÔÕÖ×ØŲÚÛÜŨŪßāáâãäåæįčéęë" ++
  "ėíîīđņōķôõö÷øųúûüũū˙"

/-- Part 5 of ISO 8859. -/
def isoPart5 : String :=
  "\u00a0ЁЂЃЄЅІЇЈЉЊЋЌ\u00adЎЏАБВГДЕЖЗИЙКЛМНОПРСТУФХЦЧШЩЪЫЬЭЮЯабвгдежзийклмнопрстуфхцчшщъы" ++
  "ьэюя№ёђѓєѕіїјљњћќ§ўџ"

/-- Part 6 of ISO 8859. -/
def isoPart6 : String :=
  "\u00a0���¤�������،\u00ad�������������؛���؟�ءآأؤإئابةتثجحخدذرزسشصضطظعغ�����ـفقكلمنهوىي" ++
  "\u064b\u064c\u064d\u064e\u064f\u0650\u0651\u0652�������������"

/-- Part 7 of ISO 8859. -/
def isoPart7 : String :=
  "\u00a0‘’£€₯¦§¨©ͺ«¬\u00ad�―°±²³΄΅Ά·ΈΉΊ»Ό½ΎΏΐΑΒΓΔΕΖΗΘΙΚΛΜΝΞΟΠΡ�ΣΤΥΦΧΨΩΪΫάέήίΰαβγδεζηθικλ" ++
  "μνξοπρςστυφχψωϊϋόύώ�"

/-- Part 8 of ISO 8859. -/
def isoPart8 : String :=
  "\u00a0�¢£¤¥¦§¨©×«¬\u00ad®¯°±²³´µ¶·¸¹÷»¼½¾��������������������������������‗אבגדהוזחטיךכ" ++
  "לםמןנסעףפץצקרשת��\u200e\u200f�"

/-- Part 10 of ISO 8859. -/
def isoPart10 : String :=
  "\u00a0ĄĒĢĪĨĶ§ĻĐŠŦŽ\u00adŪŊ°ąēģīĩķ·ļđšŧž―ūŋĀÁÂÃÄÅÆĮČÉĘËĖÍÎÏÐŅŌÓÔÕÖŨØŲÚÛÜÝÞßāáâãäåæįčéęë" ++
  "ėíîïðņōóôõöũøųúûüýþĸ"

/-- Part 13 of ISO 8859. -/
def isoPart13 : String :=
  "\u00a0”¢£¤„¦§Ø©Ŗ«¬\u00ad®Æ°±²³“µ¶·ø¹ŗ»¼½¾æĄĮĀĆÄÅĘĒČÉŹĖĢĶĪĻŠŃŅÓŌÕÖ×ŲŁŚŪÜŻŽßąįāćäåęēčéźė" ++
  "ģķīļšńņóōõö÷ųłśūüżž’"

/-- Part 14 of ISO 8859. -/
def isoPart14 : String :=
  "\u00a0Ḃḃ£ĊċḊ§Ẁ©ẂḋỲ\u00ad®ŸḞḟĠġṀṁ¶ṖẁṗẃṠỳẄẅṡÀÁÂÃÄÅÆÇÈÉÊËÌÍÎÏŴÑÒÓÔÕÖṪØÙÚÛÜÝŶßàáâãäåæçèéêë" ++
  "ìíîïŵñòóôõöṫøùúûüýŷÿ"

/-- Part 15 of ISO 8859. -/
def isoPart15 : String :=
  "\u00a0¡¢£€¥Š§š©ª«¬\u00ad®¯°±²³Žµ¶·ž¹º»ŒœŸ¿ÀÁÂÃÄÅÆÇÈÉÊËÌÍÎÏÐÑÒÓÔÕÖ×ØÙÚÛÜÝÞßàáâãäåæçèéêë" ++
  "ìíîïðñòóôõö÷øùúûüýþÿ"

/-- Part 16 of ISO 8859. -/
def isoPart16 : String :=
  "\u00a0ĄąŁ€„Š§š©Ș«Ź\u00adźŻ°±ČłŽ”¶·žčș»ŒœŸżÀÁÂĂÄĆÆÇÈÉÊËÌÍÎÏĐŃÒÓÔŐÖŚŰÙÚÛÜĘȚßàáâăäćæçèéêë" ++
  "ìíîïđńòóôőöśűùúûüęțÿ"

/-- KOI8-R. -/
def koi8r : String :=
  "─│┌┐└┘├┤┬┴┼▀▄█▌▐░▒▓⌠■∙√≈≤≥\u00a0⌡°²·÷═║╒ё╓╔╕╖╗╘╙╚╛╜╝╞╟╠╡Ё╢╣╤╥╦╧╨╩╪╫╬©юабцдефгхийклмноп" ++
  "ярстужвьызшэщчъЮАБЦДЕФГХИЙКЛМНОПЯРСТУЖВЬЫЗШЭЩЧЪ"

/-- KOI8-U. -/
def koi8u : String :=
  "─│┌┐└┘├┤┬┴┼▀▄█▌▐░▒▓⌠■∙√≈≤≥\u00a0⌡°²·÷═║╒ёє╔ії╗╘╙╚╛ґў╞╟╠╡ЁЄ╣ІЇ╦╧╨╩╪ҐЎ©юабцдефгхийклмноп" ++
  "ярстужвьызшэщчъЮАБЦДЕФГХИЙКЛМНОПЯРСТУЖВЬЫЗШЭЩЧЪ"

/-- The Macintosh script for western languages. -/
def macintosh : String :=
  "ÄÅÇÉÑÖÜáàâäãåçéèêëíìîïñóòôöõúùûü†°¢£§•¶ß®©™´¨≠ÆØ∞±≤≥¥µ∂∑∏π∫ªºΩæø¿¡¬√ƒ≈∆«»…\u00a0ÀÃÕŒœ–" ++
  "—“”‘’÷◊ÿŸ⁄€‹›ﬁﬂ‡·‚„‰ÂÊÁËÈÍÎÏÌÓÔ\uf8ffÒÚÛÙıˆ˜¯˘˙˚¸˝˛ˇ"

/-- Windows code page 874. -/
def windows874 : String :=
  "€\u0081\u0082\u0083\u0084…\u0086\u0087\u0088\u0089\u008a\u008b\u008c\u008d\u008e\u008f" ++
  "\u0090‘’“”•–—\u0098\u0099\u009a\u009b\u009c\u009d\u009e\u009f\u00a0กขฃคฅฆงจฉชซฌญฎฏฐฑฒณ" ++
  "ดตถทธนบปผฝพฟภมยรฤลฦวศษสหฬอฮฯะ\u0e31าำ\u0e34\u0e35\u0e36\u0e37\u0e38\u0e39\u0e3a����฿เแ" ++
  "โใไๅๆ\u0e47\u0e48\u0e49\u0e4a\u0e4b\u0e4c\u0e4d\u0e4e๏๐๑๒๓๔๕๖๗๘๙๚๛����"

/-- Windows code page 1250. -/
def windows1250 : String :=
  "€\u0081‚\u0083„…†‡\u0088‰Š‹ŚŤŽŹ\u0090‘’“”•–—\u0098™š›śťžź\u00a0ˇ˘Ł¤Ą¦§¨©Ş«¬\u00ad®Ż°±˛" ++
  "ł´µ¶·¸ąş»Ľ˝ľżŔÁÂĂÄĹĆÇČÉĘËĚÍÎĎĐŃŇÓÔŐÖ×ŘŮÚŰÜÝŢßŕáâăäĺćçčéęëěíîďđńňóôőö÷řůúűüýţ˙"

/-- Windows code page 1251. -/
def windows1251 : String :=
  "ЂЃ‚ѓ„…†‡€‰Љ‹ЊЌЋЏђ‘’“”•–—\u0098™љ›њќћџ\u00a0ЎўЈ¤Ґ¦§Ё©Є«¬\u00ad®Ї°±Ііґµ¶·ё№є»јЅѕїАБВГДЕЖ" ++
  "ЗИЙКЛМНОПРСТУФХЦЧШЩЪЫЬЭЮЯабвгдежзийклмнопрстуфхцчшщъыьэюя"

/-- Windows code page 1252. -/
def windows1252 : String :=
  "€\u0081‚ƒ„…†‡ˆ‰Š‹Œ\u008dŽ\u008f\u0090‘’“”•–—˜™š›œ\u009džŸ\u00a0¡¢£¤¥¦§¨©ª«¬\u00ad®¯°±²" ++
  "³´µ¶·¸¹º»¼½¾¿ÀÁÂÃÄÅÆÇÈÉÊËÌÍÎÏÐÑÒÓÔÕÖ×ØÙÚÛÜÝÞßàáâãäåæçèéêëìíîïðñòóôõö÷øùúûüýþÿ"

/-- Windows code page 1253. -/
def windows1253 : String :=
  "€\u0081‚ƒ„…†‡\u0088‰\u008a‹\u008c\u008d\u008e\u008f\u0090‘’“”•–—\u0098™\u009a›\u009c" ++
  "\u009d\u009e\u009f\u00a0΅Ά£¤¥¦§¨©�«¬\u00ad®―°±²³΄µ¶·ΈΉΊ»Ό½ΎΏΐΑΒΓΔΕΖΗΘΙΚΛΜΝΞΟΠΡ�ΣΤΥΦΧΨΩ" ++
  "ΪΫάέήίΰαβγδεζηθικλμνξοπρςστυφχψωϊϋόύώ�"

/-- Windows code page 1254. -/
def windows1254 : String :=
  "€\u0081‚ƒ„…†‡ˆ‰Š‹Œ\u008d\u008e\u008f\u0090‘’“”•–—˜™š›œ\u009d\u009eŸ\u00a0¡¢£¤¥¦§¨©ª«¬" ++
  "\u00ad®¯°±²³´µ¶·¸¹º»¼½¾¿ÀÁÂÃÄÅÆÇÈÉÊËÌÍÎÏĞÑÒÓÔÕÖ×ØÙÚÛÜİŞßàáâãäåæçèéêëìíîïğñòóôõö÷øùúûüı" ++
  "şÿ"

/-- Windows code page 1255. -/
def windows1255 : String :=
  "€\u0081‚ƒ„…†‡ˆ‰\u008a‹\u008c\u008d\u008e\u008f\u0090‘’“”•–—˜™\u009a›\u009c\u009d\u009e" ++
  "\u009f\u00a0¡¢£₪¥¦§¨©×«¬\u00ad®¯°±²³´µ¶·¸¹÷»¼½¾¿\u05b0\u05b1\u05b2\u05b3\u05b4\u05b5" ++
  "\u05b6\u05b7\u05b8\u05b9\u05ba\u05bb\u05bc\u05bd־\u05bf׀\u05c1\u05c2׃װױײ׳״�������אבגדה" ++
  "וזחטיךכלםמןנסעףפץצקרשת��\u200e\u200f�"

/-- Windows code page 1256. -/
def windows1256 : String :=
  "€پ‚ƒ„…†‡ˆ‰ٹ‹Œچژڈگ‘’“”•–—ک™ڑ›œ\u200c\u200dں\u00a0،¢£¤¥¦§¨©ھ«¬\u00ad®¯°±²³´µ¶·¸¹؛»¼½¾؟ہء" ++
  "آأؤإئابةتثجحخدذرزسشصض×طظعغـفقكàلâمنهوçèéêëىيîï\u064b\u064c\u064d\u064eô\u064f\u0650÷" ++
  "\u0651ù\u0652ûü\u200e\u200fے"

/-- Windows code page 1257. -/
def windows1257 : String :=
  "€\u0081‚\u0083„…†‡\u0088‰\u008a‹\u008c¨ˇ¸\u0090‘’“”•–—\u0098™\u009a›\u009c¯˛\u009f" ++
  "\u00a0�¢£¤�¦§Ø©Ŗ«¬\u00ad®Æ°±²³´µ¶·ø¹ŗ»¼½¾æĄĮĀĆÄÅĘĒČÉŹĖĢĶĪĻŠŃŅÓŌÕÖ×ŲŁŚŪÜŻŽßąįāćäåęēčéźė" ++
  "ģķīļšńņóōõö÷ųłśūüżž˙"

/-- Windows code page 1258. -/
def windows1258 : String :=
  "€\u0081‚ƒ„…†‡ˆ‰\u008a‹Œ\u008d\u008e\u008f\u0090‘’“”•–—˜™\u009a›œ\u009d\u009eŸ\u00a0¡¢£" ++
  "¤¥¦§¨©ª«¬\u00ad®¯°±²³´µ¶·¸¹º»¼½¾¿ÀÁÂĂÄÅÆÇÈÉÊË\u0300ÍÎÏĐÑ\u0309ÓÔƠÖ×ØÙÚÛÜƯ\u0303ßàáâăäå" ++
  "æçèéêë\u0301íîïđñ\u0323óôơö÷øùúûüư₫ÿ"

/-- The Macintosh script for Cyrillic. -/
def macintoshCyrillic : String :=
  "АБВГДЕЖЗИЙКЛМНОПРСТУФХЦЧШЩЪЫЬЭЮЯ†°Ґ£§•¶І®©™Ђђ≠Ѓѓ∞±≤≥іµґЈЄєЇїЉљЊњјЅ¬√ƒ≈∆«»…\u00a0ЋћЌќѕ–" ++
  "—“”‘’÷„ЎўЏџ№Ёёяабвгдежзийклмнопрстуфхцчшщъыьэю€"

/-- A page that users give a meaning: its upper half lies in an area for private use. -/
def userDefined : String := String.ofList ((List.range 128).map fun i => Char.ofNat (0xf780 + i))

end VideoGreeting.Text.CodePage
