import ZoneArbiter.Text.Encoding.Defect

/-!
# ZoneArbiter.Text.Encoding.Codepage — one byte for every character

A **codepage** says which characters bytes stand for, one each. It starts from the
first 256 characters and names the runs of bytes that stand for others; the
replacement character there marks a byte that stands for nothing. Most codepages keep
the characters of ASCII.

Encodings for East Asian scripts have one byte for the characters of ASCII, and some
of them for the syllables of katakana. Only these are read.
-/

namespace ZoneArbiter.Text

/-- Which characters bytes stand for, one each. -/
structure Codepage where
  /-- The names of the codepage, its own first. -/
  names : List String
  /-- The first bytes of runs that stand for other characters, and these characters. -/
  changes : List (Nat × String)
  /-- Bytes from here on stand for nothing but for the changes. -/
  limit : Nat := 0x100
deriving Repr, DecidableEq

namespace Codepage

/-- The mark of a byte that stands for nothing. -/
def gap : Char := Char.ofNat 0xfffd

/-- The character of a byte. -/
def char? (page : Codepage) (byte : Nat) : Option Char :=
  let change := page.changes.findSome? fun run =>
    if run.1 ≤ byte then run.2.toList[byte - run.1]? else none
  let plain := if byte < page.limit then some (Char.ofNat byte) else none
  (change.or plain).filter (· ≠ gap)

/-- The characters of all bytes. -/
def table (page : Codepage) : Array (Option Char) := ((List.range 0x100).map page.char?).toArray

/-- The characters of bytes from a position on, by a table. -/
def readBy (table : Array (Option Char)) (defect : Nat → Nat → DecodingDefect) (position : Nat) :
    List Nat → Decoded
  | [] => .ok []
  | byte :: rest =>
      match (table[byte]?).join with
      | some c => (c :: ·) <$> readBy table defect (position + 1) rest
      | none => .error (defect position byte)

/-- The text of bytes in a codepage. -/
def read (page : Codepage) (bytes : List Nat) : Decoded :=
  readBy page.table (fun position byte => .malformed "charmap" .noCharacter position [byte]) 0 bytes

/-- The text of bytes in an East Asian encoding. -/
def readEastAsian (page : Codepage) (bytes : List Nat) : Decoded :=
  let family := page.names.headD ""
  readBy page.table (fun position byte => .malformed family .noSequence position [byte]) 0 bytes

/-- Codepages that do not keep ASCII. -/
def ebcdic : List Codepage :=
  [⟨["cp037", "037", "csibm037", "ebcdic_cp_ca", "ebcdic_cp_nl", "ebcdic_cp_us", "ebcdic_cp_wt",
     "ibm037", "ibm039"],
    [(0x04, "\x9c\t\x86\x7f\x97\x8d\x8e"), (0x14, "\x9d\x85\x08\x87\x18\x19\x92\x8f"),
     (0x20, "\x80\x81\x82\x83\x84\n\x17\x1b\x88\x89\x8a\x8b\x8c\x05\x06\x07\x90\x91"),
     (0x32, "\x16\x93\x94\x95\x96\x04\x98\x99\x9a\x9b\x14\x15\x9e\x1a \xa0âäàáãåçñ¢.<"),
     (0x4d, "(+|&éêëèíîïìß!$*);¬-/ÂÄÀÁÃÅÇÑ¦,%_>?øÉÊËÈÍÎÏÌ\x60:#@'=\"Øabcdefghi«»ðýþ±°"),
     (0x91, "jklmnopqrªºæ¸Æ¤µ~stuvwxyz¡¿ÐÝÞ®^£¥·©§¶¼½¾[]¯¨´×\x7bABCDEFGHI\xadôöòóõ"),
     (0xd0, "\x7dJKLMNOPQR¹ûüùúÿ\\÷STUVWXYZ²ÔÖÒÓÕ0123456789³ÛÜÙÚ\x9f")], 0x100⟩,
   ⟨["cp1026", "1026", "csibm1026", "ibm1026"],
    [(0x04, "\x9c\t\x86\x7f\x97\x8d\x8e"), (0x14, "\x9d\x85\x08\x87\x18\x19\x92\x8f"),
     (0x20, "\x80\x81\x82\x83\x84\n\x17\x1b\x88\x89\x8a\x8b\x8c\x05\x06\x07\x90\x91"),
     (0x32, "\x16\x93\x94\x95\x96\x04\x98\x99\x9a\x9b\x14\x15\x9e\x1a \xa0âäàáãå\x7bñ"),
     (0x4a, "Ç.<(+!&éêëèíîïìßĞİ*);^-/ÂÄÀÁÃÅ[Ñş,%_>?øÉÊËÈÍÎÏÌı:ÖŞ'=ÜØabcdefghi«»\x7d"),
     (0x8d, "\x60¦±°jklmnopqrªºæ¸Æ¤µöstuvwxyz¡¿]$@®¢£¥·©§¶¼½¾¬|¯¨´×çABCDEFGHI\xadô~òó"),
     (0xcf, "õğJKLMNOPQR¹û\\ùúÿü÷STUVWXYZ²Ô#ÒÓÕ0123456789³Û\"ÙÚ\x9f")], 0x100⟩,
   ⟨["cp1140", "1140", "ibm1140"],
    [(0x04, "\x9c\t\x86\x7f\x97\x8d\x8e"), (0x14, "\x9d\x85\x08\x87\x18\x19\x92\x8f"),
     (0x20, "\x80\x81\x82\x83\x84\n\x17\x1b\x88\x89\x8a\x8b\x8c\x05\x06\x07\x90\x91"),
     (0x32, "\x16\x93\x94\x95\x96\x04\x98\x99\x9a\x9b\x14\x15\x9e\x1a \xa0âäàáãåçñ¢.<"),
     (0x4d, "(+|&éêëèíîïìß!$*);¬-/ÂÄÀÁÃÅÇÑ¦,%_>?øÉÊËÈÍÎÏÌ\x60:#@'=\"Øabcdefghi«»ðýþ±°"),
     (0x91, "jklmnopqrªºæ¸Æ€µ~stuvwxyz¡¿ÐÝÞ®^£¥·©§¶¼½¾[]¯¨´×\x7bABCDEFGHI\xadôöòóõ"),
     (0xd0, "\x7dJKLMNOPQR¹ûüùúÿ\\÷STUVWXYZ²ÔÖÒÓÕ0123456789³ÛÜÙÚ\x9f")], 0x100⟩,
   ⟨["cp273", "273", "csibm273", "ibm273"],
    [(0x04, "\x9c\t\x86\x7f\x97\x8d\x8e"), (0x14, "\x9d\x85\x08\x87\x18\x19\x92\x8f"),
     (0x20, "\x80\x81\x82\x83\x84\n\x17\x1b\x88\x89\x8a\x8b\x8c\x05\x06\x07\x90\x91"),
     (0x32, "\x16\x93\x94\x95\x96\x04\x98\x99\x9a\x9b\x14\x15\x9e\x1a \xa0â\x7bàáãåçñ"),
     (0x4a, "Ä.<(+!&éêëèíîïì~Ü$*);^-/Â[ÀÁÃÅÇÑö,%_>?øÉÊËÈÍÎÏÌ\x60:#§'=\"Øabcdefghi«»ðý"),
     (0x8e, "þ±°jklmnopqrªºæ¸Æ¤µßstuvwxyz¡¿ÐÝÞ®¢£¥·©@¶¼½¾¬|‾¨´×äABCDEFGHI\xadô¦òóõüJK"),
     (0xd3, "LMNOPQR¹û\x7dùúÿÖ÷STUVWXYZ²Ô\\ÒÓÕ0123456789³Û]ÙÚ\x9f")], 0x100⟩,
   ⟨["cp424", "424", "csibm424", "ebcdic_cp_he", "ibm424"],
    [(0x04, "\x9c\t\x86\x7f\x97\x8d\x8e"), (0x14, "\x9d\x85\x08\x87\x18\x19\x92\x8f"),
     (0x20, "\x80\x81\x82\x83\x84\n\x17\x1b\x88\x89\x8a\x8b\x8c\x05\x06\x07\x90\x91"),
     (0x32, "\x16\x93\x94\x95\x96\x04\x98\x99\x9a\x9b\x14\x15\x9e\x1a אבגדהוזחט¢.<(+|"),
     (0x50, "&יךכלםמןנס!$*);¬-/עףפץצקרש¦,%_>?�ת��\xa0���‗\x60:#@'=\"�abcdefghi«»���±°"),
     (0x91, "jklmnopqr���¸�¤µ~stuvwxyz�����®^£¥·©§¶¼½¾[]¯¨´×\x7bABCDEFGHI\xad�����"),
     (0xd0, "\x7dJKLMNOPQR¹�����\\÷STUVWXYZ²�����0123456789³����\x9f")], 0x100⟩,
   ⟨["cp500", "500", "csibm500", "ebcdic_cp_be", "ebcdic_cp_ch", "ibm500"],
    [(0x04, "\x9c\t\x86\x7f\x97\x8d\x8e"), (0x14, "\x9d\x85\x08\x87\x18\x19\x92\x8f"),
     (0x20, "\x80\x81\x82\x83\x84\n\x17\x1b\x88\x89\x8a\x8b\x8c\x05\x06\x07\x90\x91"),
     (0x32, "\x16\x93\x94\x95\x96\x04\x98\x99\x9a\x9b\x14\x15\x9e\x1a \xa0âäàáãåçñ[.<"),
     (0x4d, "(+!&éêëèíîïìß]$*);^-/ÂÄÀÁÃÅÇÑ¦,%_>?øÉÊËÈÍÎÏÌ\x60:#@'=\"Øabcdefghi«»ðýþ±°"),
     (0x91, "jklmnopqrªºæ¸Æ¤µ~stuvwxyz¡¿ÐÝÞ®¢£¥·©§¶¼½¾¬|¯¨´×\x7bABCDEFGHI\xadôöòóõ"),
     (0xd0, "\x7dJKLMNOPQR¹ûüùúÿ\\÷STUVWXYZ²ÔÖÒÓÕ0123456789³ÛÜÙÚ\x9f")], 0x100⟩,
   ⟨["cp875"],
    [(0x04, "\x9c\t\x86\x7f\x97\x8d\x8e"), (0x14, "\x9d\x85\x08\x87\x18\x19\x92\x8f"),
     (0x20, "\x80\x81\x82\x83\x84\n\x17\x1b\x88\x89\x8a\x8b\x8c\x05\x06\x07\x90\x91"),
     (0x32, "\x16\x93\x94\x95\x96\x04\x98\x99\x9a\x9b\x14\x15\x9e\x1a ΑΒΓΔΕΖΗΘΙ[.<(+!"),
     (0x50, "&ΚΛΜΝΞΟΠΡΣ]$*);^-/ΤΥΦΧΨΩΪΫ|,%_>?¨ΆΈΉ\xa0ΊΌΎΏ\x60:#@'=\"΅abcdefghiαβγδεζ°"),
     (0x91, "jklmnopqrηθικλμ´~stuvwxyzνξοπρσ£άέήϊίόύϋώςτυφχψ\x7bABCDEFGHI\xadωΐΰ‘―"),
     (0xd0, "\x7dJKLMNOPQR±½\x1a·’¦\\\x1aSTUVWXYZ²§\x1a\x1a«¬0123456789³©\x1a\x1a»"),
     (0xff, "\x9f")], 0x100⟩]

/-- Codepages of consoles. -/
def console : List Codepage :=
  [⟨["cp1006"],
    [(0xa1, "۰۱۲۳۴۵۶۷۸۹،؛\xad؟ﺁﺍﺎﺎﺏﺑﭖﭘﺓﺕﺗﭦﭨﺙﺛﺝﺟﭺﭼﺡﺣﺥﺧﺩﮄﺫﺭﮌﺯﮊﺱﺳﺵﺷﺹﺻﺽﺿﻁﻅﻉﻊﻋﻌﻍﻎﻏﻐﻑﻓﻕﻗﻙﻛﮒ"),
     (0xe6, "ﮔﻝﻟﻠﻡﻣﮞﻥﻧﺅﻭﮦﮨﮩﮪﺀﺉﺊﺋﻱﻲﻳﮰﮮﹼﹽ")], 0x100⟩,
   ⟨["cp1125", "1125", "cp866u", "ibm1125", "ruscii"],
    [(0x80, "АБВГДЕЖЗИЙКЛМНОПРСТУФХЦЧШЩЪЫЬЭЮЯабвгдежзийклмноп░▒▓│┤╡╢╖╕╣║╗╝╜╛┐└┴┬├─┼╞╟"),
     (0xc8, "╚╔╩╦╠═╬╧╨╤╥╙╘╒╓╫╪┘┌█▄▌▐▀рстуфхцчшщъыьэюяЁёҐґЄєІіЇї·√№¤■\xa0")], 0x100⟩,
   ⟨["cp437", "437", "cspc8codepage437", "ibm437"],
    [(0x80, "ÇüéâäàåçêëèïîìÄÅÉæÆôöòûùÿÖÜ¢£¥₧ƒáíóúñÑªº¿⌐¬½¼¡«»░▒▓│┤╡╢╖╕╣║╗╝╜╛┐└┴┬├─┼╞╟"),
     (0xc8, "╚╔╩╦╠═╬╧╨╤╥╙╘╒╓╫╪┘┌█▄▌▐▀αßΓπΣσµτΦΘΩδ∞φε∩≡±≥≤⌠⌡÷≈°∙·√ⁿ²■\xa0")], 0x100⟩,
   ⟨["cp720"],
    [(0x82, "éâ\x84à\x86çêëèïî"),
     (0x91, "\u0651\u0652ô¤ـûùءآأؤ£إئابةتثجحخدذرزسشص«»░▒▓│┤╡╢╖╕╣║╗╝╜╛┐└┴┬├─┼╞╟╚╔╩╦╠═╬"),
     (0xcf, "╧╨╤╥╙╘╒╓╫╪┘┌█▄▌▐▀ضطظعغفµقكلمنهوىي≡\u064b\u064c\u064d\u064e\u064f\u0650≈°"),
     (0xf9, "∙·√ⁿ²■\xa0")], 0x100⟩,
   ⟨["cp737"],
    [(0x80, "ΑΒΓΔΕΖΗΘΙΚΛΜΝΞΟΠΡΣΤΥΦΧΨΩαβγδεζηθικλμνξοπρσςτυφχψ░▒▓│┤╡╢╖╕╣║╗╝╜╛┐└┴┬├─┼╞╟"),
     (0xc8, "╚╔╩╦╠═╬╧╨╤╥╙╘╒╓╫╪┘┌█▄▌▐▀ωάέήϊίόύϋώΆΈΉΊΌΎΏ±≥≤ΪΫ÷≈°∙·√ⁿ²■\xa0")], 0x100⟩,
   ⟨["cp775", "775", "cspc775baltic", "ibm775"],
    [(0x80, "ĆüéāäģåćłēŖŗīŹÄÅÉæÆōöĢ¢ŚśÖÜø£Ø×¤ĀĪóŻżź”¦©®¬½¼Ł«»░▒▓│┤ĄČĘĖ╣║╗╝ĮŠ┐└┴┬├─┼ŲŪ"),
     (0xc8, "╚╔╩╦╠═╬Žąčęėįšųūž┘┌█▄▌▐▀ÓßŌŃõÕµńĶķĻļņĒŅ’\xad±“¾¶§÷„°∙·¹³²■\xa0")], 0x100⟩,
   ⟨["cp850", "850", "cspc850multilingual", "ibm850"],
    [(0x80, "ÇüéâäàåçêëèïîìÄÅÉæÆôöòûùÿÖÜø£Ø×ƒáíóúñÑªº¿®¬½¼¡«»░▒▓│┤ÁÂÀ©╣║╗╝¢¥┐└┴┬├─┼ãÃ"),
     (0xc8, "╚╔╩╦╠═╬¤ðÐÊËÈıÍÎÏ┘┌█▄¦Ì▀ÓßÔÒõÕµþÞÚÛÙýÝ¯´\xad±‗¾¶§÷¸°¨·¹³²■\xa0")], 0x100⟩,
   ⟨["cp852", "852", "cspcp852", "ibm852"],
    [(0x80, "ÇüéâäůćçłëŐőîŹÄĆÉĹĺôöĽľŚśÖÜŤťŁ×čáíóúĄąŽžĘę¬źČş«»░▒▓│┤ÁÂĚŞ╣║╗╝Żż┐└┴┬├─┼Ăă"),
     (0xc8, "╚╔╩╦╠═╬¤đĐĎËďŇÍÎě┘┌█▄ŢŮ▀ÓßÔŃńňŠšŔÚŕŰýÝţ´\xad˝˛ˇ˘§÷¸°¨˙űŘř■\xa0")], 0x100⟩,
   ⟨["cp855", "855", "csibm855", "ibm855"],
    [(0x80, "ђЂѓЃёЁєЄѕЅіІїЇјЈљЉњЊћЋќЌўЎџЏюЮъЪаАбБцЦдДеЕфФгГ«»░▒▓│┤хХиИ╣║╗╝йЙ┐└┴┬├─┼кК"),
     (0xc8, "╚╔╩╦╠═╬¤лЛмМнНоОп┘┌█▄Пя▀ЯрРсСтТуУжЖвВьЬ№\xadыЫзЗшШэЭщЩчЧ§■\xa0")], 0x100⟩,
   ⟨["cp856"],
    [(0x80, "אבגדהוזחטיךכלםמןנסעףפץצקרשת�£�×����������®¬½¼�«»░▒▓│┤���©╣║╗╝¢¥┐└┴┬├─┼��"),
     (0xc8, "╚╔╩╦╠═╬¤���������┘┌█▄¦�▀������µ�������¯´\xad±‗¾¶§÷¸°¨·¹³²■\xa0")], 0x100⟩,
   ⟨["cp857", "857", "csibm857", "ibm857"],
    [(0x80, "ÇüéâäàåçêëèïîıÄÅÉæÆôöòûùİÖÜø£ØŞşáíóúñÑĞğ¿®¬½¼¡«»░▒▓│┤ÁÂÀ©╣║╗╝¢¥┐└┴┬├─┼ãÃ"),
     (0xc8, "╚╔╩╦╠═╬¤ºªÊËÈ�ÍÎÏ┘┌█▄¦Ì▀ÓßÔÒõÕµ�×ÚÛÙìÿ¯´\xad±�¾¶§÷¸°¨·¹³²■\xa0")], 0x100⟩,
   ⟨["cp858", "858", "csibm858", "ibm858"],
    [(0x80, "ÇüéâäàåçêëèïîìÄÅÉæÆôöòûùÿÖÜø£Ø×ƒáíóúñÑªº¿®¬½¼¡«»░▒▓│┤ÁÂÀ©╣║╗╝¢¥┐└┴┬├─┼ãÃ"),
     (0xc8, "╚╔╩╦╠═╬¤ðÐÊËÈ€ÍÎÏ┘┌█▄¦Ì▀ÓßÔÒõÕµþÞÚÛÙýÝ¯´\xad±‗¾¶§÷¸°¨·¹³²■\xa0")], 0x100⟩,
   ⟨["cp860", "860", "csibm860", "ibm860"],
    [(0x80, "ÇüéâãàÁçêÊèÍÔìÃÂÉÀÈôõòÚùÌÕÜ¢£Ù₧ÓáíóúñÑªº¿Ò¬½¼¡«»░▒▓│┤╡╢╖╕╣║╗╝╜╛┐└┴┬├─┼╞╟"),
     (0xc8, "╚╔╩╦╠═╬╧╨╤╥╙╘╒╓╫╪┘┌█▄▌▐▀αßΓπΣσµτΦΘΩδ∞φε∩≡±≥≤⌠⌡÷≈°∙·√ⁿ²■\xa0")], 0x100⟩,
   ⟨["cp861", "861", "cp_is", "csibm861", "ibm861"],
    [(0x80, "ÇüéâäàåçêëèÐðÞÄÅÉæÆôöþûÝýÖÜø£Ø₧ƒáíóúÁÍÓÚ¿⌐¬½¼¡«»░▒▓│┤╡╢╖╕╣║╗╝╜╛┐└┴┬├─┼╞╟"),
     (0xc8, "╚╔╩╦╠═╬╧╨╤╥╙╘╒╓╫╪┘┌█▄▌▐▀αßΓπΣσµτΦΘΩδ∞φε∩≡±≥≤⌠⌡÷≈°∙·√ⁿ²■\xa0")], 0x100⟩,
   ⟨["cp862", "862", "cspc862latinhebrew", "ibm862"],
    [(0x80, "אבגדהוזחטיךכלםמןנסעףפץצקרשת¢£¥₧ƒáíóúñÑªº¿⌐¬½¼¡«»░▒▓│┤╡╢╖╕╣║╗╝╜╛┐└┴┬├─┼╞╟"),
     (0xc8, "╚╔╩╦╠═╬╧╨╤╥╙╘╒╓╫╪┘┌█▄▌▐▀αßΓπΣσµτΦΘΩδ∞φε∩≡±≥≤⌠⌡÷≈°∙·√ⁿ²■\xa0")], 0x100⟩,
   ⟨["cp863", "863", "csibm863", "ibm863"],
    [(0x80, "ÇüéâÂà¶çêëèïî‗À§ÉÈÊôËÏûù¤ÔÜ¢£ÙÛƒ¦´óú¨¸³¯Î⌐¬½¼¾«»░▒▓│┤╡╢╖╕╣║╗╝╜╛┐└┴┬├─┼╞╟"),
     (0xc8, "╚╔╩╦╠═╬╧╨╤╥╙╘╒╓╫╪┘┌█▄▌▐▀αßΓπΣσµτΦΘΩδ∞φε∩≡±≥≤⌠⌡÷≈°∙·√ⁿ²■\xa0")], 0x100⟩,
   ⟨["cp864", "864", "csibm864", "ibm864"],
    [(0x25, "٪"),
     (0x80, "°·∙√▒─│┼┤┬├┴┐┌└┘β∞φ±½¼≈«»ﻷﻸ��ﻻﻼ�\xa0\xadﺂ£¤ﺄ��ﺎﺏﺕﺙ،ﺝﺡﺥ٠١٢٣٤٥٦٧٨٩ﻑ؛ﺱﺵﺹ؟¢ﺀ"),
     (0xc2, "ﺁﺃﺅﻊﺋﺍﺑﺓﺗﺛﺟﺣﺧﺩﺫﺭﺯﺳﺷﺻﺿﻁﻅﻋﻏ¦¬÷×ﻉـﻓﻗﻛﻟﻣﻧﻫﻭﻯﻳﺽﻌﻎﻍﻡﹽ\u0651ﻥﻩﻬﻰﻲﻐﻕﻵﻶﻝﻙﻱ■�")], 0x100⟩,
   ⟨["cp865", "865", "csibm865", "ibm865"],
    [(0x80, "ÇüéâäàåçêëèïîìÄÅÉæÆôöòûùÿÖÜø£Ø₧ƒáíóúñÑªº¿⌐¬½¼¡«¤░▒▓│┤╡╢╖╕╣║╗╝╜╛┐└┴┬├─┼╞╟"),
     (0xc8, "╚╔╩╦╠═╬╧╨╤╥╙╘╒╓╫╪┘┌█▄▌▐▀αßΓπΣσµτΦΘΩδ∞φε∩≡±≥≤⌠⌡÷≈°∙·√ⁿ²■\xa0")], 0x100⟩,
   ⟨["cp866", "866", "csibm866", "ibm866"],
    [(0x80, "АБВГДЕЖЗИЙКЛМНОПРСТУФХЦЧШЩЪЫЬЭЮЯабвгдежзийклмноп░▒▓│┤╡╢╖╕╣║╗╝╜╛┐└┴┬├─┼╞╟"),
     (0xc8, "╚╔╩╦╠═╬╧╨╤╥╙╘╒╓╫╪┘┌█▄▌▐▀рстуфхцчшщъыьэюяЁёЄєЇїЎў°∙·√№¤■\xa0")], 0x100⟩,
   ⟨["cp869", "869", "cp_gr", "csibm869", "ibm869"],
    [(0x80, "������Ά�·¬¦‘’Έ―ΉΊΪΌ��ΎΫ©Ώ²³ά£έήίϊΐόύΑΒΓΔΕΖΗ½ΘΙ«»░▒▓│┤ΚΛΜΝ╣║╗╝ΞΟ┐└┴┬├─┼ΠΡ"),
     (0xc8, "╚╔╩╦╠═╬ΣΤΥΦΧΨΩαβγ┘┌█▄δε▀ζηθικλμνξοπρσςτ΄\xad±υφχ§ψ΅°¨ωϋΰώ■\xa0")], 0x100⟩,
   ⟨["cp874"],
    [(0x80, "€����…�����������‘’“”•–—��������\xa0กขฃคฅฆงจฉชซฌญฎฏฐฑฒณดตถทธนบปผฝพฟภมยรฤ"),
     (0xc5, "ลฦวศษสหฬอฮฯะ\u0e31าำ\u0e34\u0e35\u0e36\u0e37\u0e38\u0e39\u0e3a����฿เแโใไ"),
     (0xe5, "ๅๆ\u0e47\u0e48\u0e49\u0e4a\u0e4b\u0e4c\u0e4d\u0e4e๏๐๑๒๓๔๕๖๗๘๙๚๛����")], 0x100⟩]

/-- Codepages of windows. -/
def windows : List Codepage :=
  [⟨["cp1250", "1250", "windows_1250"],
    [(0x80, "€�‚�„…†‡�‰Š‹ŚŤŽŹ�‘’“”•–—�™š›śťžź\xa0ˇ˘Ł¤Ą"), (0xaa, "Ş"), (0xaf, "Ż°±˛ł"),
     (0xb9, "ąş»Ľ˝ľżŔÁÂĂÄĹĆÇČÉĘËĚÍÎĎĐŃŇÓÔŐÖ×ŘŮÚŰÜÝŢßŕáâăäĺćçčéęëěíîďđńňóôőö÷řůúűüýţ˙")], 0x100⟩,
   ⟨["cp1251", "1251", "windows_1251"],
    [(0x80, "ЂЃ‚ѓ„…†‡€‰Љ‹ЊЌЋЏђ‘’“”•–—�™љ›њќћџ\xa0ЎўЈ¤Ґ¦§Ё©Є"),
     (0xaf, "Ї°±Ііґµ¶·ё№є»јЅѕїАБВГДЕЖЗИЙКЛМНОПРСТУФХЦЧШЩЪЫЬЭЮЯабвгдежзийклмнопрстуфхц"),
     (0xf7, "чшщъыьэюя")], 0x100⟩,
   ⟨["cp1252", "1252", "windows_1252"], [(0x80, "€�‚ƒ„…†‡ˆ‰Š‹Œ�Ž��‘’“”•–—˜™š›œ�žŸ")], 0x100⟩,
   ⟨["cp1253", "1253", "windows_1253"],
    [(0x80, "€�‚ƒ„…†‡�‰�‹�����‘’“”•–—�™�›����\xa0΅Ά"), (0xaa, "�"), (0xaf, "―"),
     (0xb4, "΄µ¶·ΈΉΊ»Ό½ΎΏΐΑΒΓΔΕΖΗΘΙΚΛΜΝΞΟΠΡ�ΣΤΥΦΧΨΩΪΫάέήίΰαβγδεζηθικλμνξοπρςστυφχψωϊϋ"),
     (0xfc, "όύώ�")], 0x100⟩,
   ⟨["cp1254", "1254", "windows_1254"],
    [(0x80, "€�‚ƒ„…†‡ˆ‰Š‹Œ����‘’“”•–—˜™š›œ��Ÿ"), (0xd0, "Ğ"), (0xdd, "İŞ"), (0xf0, "ğ"),
     (0xfd, "ış")], 0x100⟩,
   ⟨["cp1255", "1255", "windows_1255"],
    [(0x80, "€�‚ƒ„…†‡ˆ‰�‹�����‘’“”•–—˜™�›����"), (0xa4, "₪"), (0xaa, "×"), (0xba, "÷"),
     (0xc0, "\u05b0\u05b1\u05b2\u05b3\u05b4\u05b5\u05b6\u05b7\u05b8\u05b9�\u05bb"),
     (0xcc, "\u05bc\u05bd־\u05bf׀\u05c1\u05c2׃װױײ׳״�������אבגדהוזחטיךכלםמןנסעףפץצקרשת"),
     (0xfb, "��\u200e\u200f�")], 0x100⟩,
   ⟨["cp1256", "1256", "windows_1256"],
    [(0x80, "€پ‚ƒ„…†‡ˆ‰ٹ‹Œچژڈگ‘’“”•–—ک™ڑ›œ\u200c\u200dں\xa0،"), (0xaa, "ھ"), (0xba, "؛"),
     (0xbf, "؟ہءآأؤإئابةتثجحخدذرزسشصض×طظعغـفقكàلâمنهو"),
     (0xec, "ىيîï\u064b\u064c\u064d\u064eô\u064f\u0650÷\u0651ù\u0652ûü\u200e\u200fے")], 0x100⟩,
   ⟨["cp1257", "1257", "windows_1257"],
    [(0x80, "€�‚�„…†‡�‰�‹�¨ˇ¸�‘’“”•–—�™�›�¯˛�\xa0�¢£¤�¦§Ø©Ŗ"), (0xaf, "Æ"), (0xb8, "ø¹ŗ"),
     (0xbf, "æĄĮĀĆÄÅĘĒČÉŹĖĢĶĪĻŠŃŅÓŌÕÖ×ŲŁŚŪÜŻŽßąįāćäåęēčéźėģķīļšńņóōõö÷ųłśūüżž˙")], 0x100⟩,
   ⟨["cp1258", "1258", "windows_1258"],
    [(0x80, "€�‚ƒ„…†‡ˆ‰�‹Œ����‘’“”•–—˜™�›œ��Ÿ"), (0xc3, "Ă"), (0xcc, "\u0300ÍÎÏĐÑ\u0309ÓÔƠ"),
     (0xdd, "Ư\u0303"), (0xe3, "ă"), (0xec, "\u0301íîïđñ\u0323óôơ"), (0xfd, "ư₫")], 0x100⟩]

/-- Codepages of the international standard. -/
def standard : List Codepage :=
  [⟨["iso8859_1"], [], 0x100⟩,
   ⟨["iso8859_10", "csisolatin6", "iso_8859_10", "iso_8859_10_1992", "iso_ir_157", "l6", "latin6"],
    [(0xa1, "ĄĒĢĪĨĶ§ĻĐŠŦŽ\xadŪŊ°ąēģīĩķ·ļđšŧž―ūŋĀ"), (0xc7, "ĮČÉĘËĖ"), (0xd1, "ŅŌ"), (0xd7, "ŨØŲ"),
     (0xe0, "ā"), (0xe7, "įčéęëė"), (0xf1, "ņō"), (0xf7, "ũøų"), (0xff, "ĸ")], 0x100⟩,
   ⟨["iso8859_11", "iso_8859_11", "iso_8859_11_2001", "thai"],
    [(0xa1, "กขฃคฅฆงจฉชซฌญฎฏฐฑฒณดตถทธนบปผฝพฟภมยรฤลฦวศษสหฬอฮฯะ\u0e31าำ\u0e34\u0e35"),
     (0xd6, "\u0e36\u0e37\u0e38\u0e39\u0e3a����฿เแโใไๅๆ\u0e47\u0e48\u0e49\u0e4a\u0e4b"),
     (0xec, "\u0e4c\u0e4d\u0e4e๏๐๑๒๓๔๕๖๗๘๙๚๛����")], 0x100⟩,
   ⟨["iso8859_13", "iso_8859_13", "l7", "latin7"],
    [(0xa1, "”¢£¤„¦§Ø©Ŗ"), (0xaf, "Æ"), (0xb4, "“µ¶·ø¹ŗ"),
     (0xbf, "æĄĮĀĆÄÅĘĒČÉŹĖĢĶĪĻŠŃŅÓŌÕÖ×ŲŁŚŪÜŻŽßąįāćäåęēčéźėģķīļšńņóōõö÷ųłśūüżž’")], 0x100⟩,
   ⟨["iso8859_14", "iso_8859_14", "iso_8859_14_1998", "iso_celtic", "iso_ir_199", "l8", "latin8"],
    [(0xa1, "Ḃḃ£ĊċḊ§Ẁ©ẂḋỲ\xad®ŸḞḟĠġṀṁ¶ṖẁṗẃṠỳẄẅṡ"), (0xd0, "Ŵ"), (0xd7, "Ṫ"), (0xde, "Ŷ"),
     (0xf0, "ŵ"), (0xf7, "ṫ"), (0xfe, "ŷ")], 0x100⟩,
   ⟨["iso8859_15", "iso_8859_15", "l9", "latin9"],
    [(0xa4, "€¥Š§š"), (0xb4, "Žµ¶·ž¹º»ŒœŸ")], 0x100⟩,
   ⟨["iso8859_16", "iso_8859_16", "iso_8859_16_2001", "iso_ir_226", "l10", "latin10"],
    [(0xa1, "ĄąŁ€„Š§š©Ș«Ź\xadźŻ°±ČłŽ”¶·žčș»ŒœŸżÀÁÂĂÄĆ"), (0xd0, "ĐŃÒÓÔŐÖŚŰ"), (0xdd, "ĘȚ"),
     (0xe3, "ăäć"), (0xf0, "đńòóôőöśű"), (0xfd, "ęț")], 0x100⟩,
   ⟨["iso8859_2", "csisolatin2", "iso_8859_2", "iso_8859_2_1987", "iso_ir_101", "l2", "latin2"],
    [(0xa1, "Ą˘Ł¤ĽŚ§¨ŠŞŤŹ\xadŽŻ°ą˛ł´ľśˇ¸šşťź˝žżŔÁÂĂÄĹĆÇČÉĘËĚÍÎĎĐŃŇÓÔŐÖ×ŘŮÚŰÜÝŢßŕáâăäĺ"),
     (0xe6, "ćçčéęëěíîďđńňóôőö÷řůúűüýţ˙")], 0x100⟩,
   ⟨["iso8859_3", "csisolatin3", "iso_8859_3", "iso_8859_3_1988", "iso_ir_109", "l3", "latin3"],
    [(0xa1, "Ħ˘£¤�Ĥ§¨İŞĞĴ\xad�Ż°ħ"), (0xb6, "ĥ·¸ışğĵ½�żÀÁÂ�ÄĊĈ"), (0xd0, "�"), (0xd5, "ĠÖ×Ĝ"),
     (0xdd, "ŬŜ"), (0xe3, "�äċĉ"), (0xf0, "�"), (0xf5, "ġö÷ĝ"), (0xfd, "ŭŝ˙")], 0x100⟩,
   ⟨["iso8859_4", "csisolatin4", "iso_8859_4", "iso_8859_4_1988", "iso_ir_110", "l4", "latin4"],
    [(0xa1, "ĄĸŖ¤ĨĻ§¨ŠĒĢŦ\xadŽ¯°ą˛ŗ´ĩļˇ¸šēģŧŊžŋĀ"), (0xc7, "ĮČÉĘËĖÍÎĪĐŅŌĶ"), (0xd9, "ŲÚÛÜŨŪßā"),
     (0xe7, "įčéęëėíîīđņōķ"), (0xf9, "ųúûüũū˙")], 0x100⟩,
   ⟨["iso8859_5", "csisolatincyrillic", "cyrillic", "iso_8859_5", "iso_8859_5_1988", "iso_ir_144"],
    [(0xa1, "ЁЂЃЄЅІЇЈЉЊЋЌ\xadЎЏАБВГДЕЖЗИЙКЛМНОПРСТУФХЦЧШЩЪЫЬЭЮЯабвгдежзийклмнопрстуфх"),
     (0xe6, "цчшщъыьэюя№ёђѓєѕіїјљњћќ§ўџ")], 0x100⟩,
   ⟨["iso8859_6", "arabic", "asmo_708", "csisolatinarabic", "ecma_114", "iso_8859_6",
     "iso_8859_6_1987", "iso_ir_127"],
    [(0xa1, "���¤�������،\xad�������������؛���؟�ءآأؤإئابةتثجحخدذرزسشصضطظعغ�����ـفقكلم"),
     (0xe6, "نهوىي\u064b\u064c\u064d\u064e\u064f\u0650\u0651\u0652�������������")], 0x100⟩,
   ⟨["iso8859_7", "csisolatingreek", "ecma_118", "elot_928", "greek", "greek8", "iso_8859_7",
     "iso_8859_7_1987", "iso_ir_126"],
    [(0xa1, "‘’£€₯"), (0xaa, "ͺ«¬\xad�―"),
     (0xb4, "΄΅Ά·ΈΉΊ»Ό½ΎΏΐΑΒΓΔΕΖΗΘΙΚΛΜΝΞΟΠΡ�ΣΤΥΦΧΨΩΪΫάέήίΰαβγδεζηθικλμνξοπρςστυφχψωϊϋ"),
     (0xfc, "όύώ�")], 0x100⟩,
   ⟨["iso8859_8", "csisolatinhebrew", "hebrew", "iso_8859_8", "iso_8859_8_1988", "iso_ir_138"],
    [(0xa1, "�"), (0xaa, "×"), (0xba, "÷"),
     (0xbf, "��������������������������������‗אבגדהוזחטיךכלםמןנסעףפץצקרשת��\u200e"),
     (0xfe, "\u200f�")], 0x100⟩,
   ⟨["iso8859_9", "csisolatin5", "iso_8859_9", "iso_8859_9_1989", "iso_ir_148", "l5", "latin5"],
    [(0xd0, "Ğ"), (0xdd, "İŞ"), (0xf0, "ğ"), (0xfd, "ış")], 0x100⟩,
   ⟨["latin_1", "8859", "cp819", "csisolatin1", "ibm819", "iso8859", "iso8859_1", "iso_8859_1",
     "iso_8859_1_1987", "iso_ir_100", "l1", "latin", "latin1"],
    [], 0x100⟩]

/-- Codepages of desktops. -/
def desktop : List Codepage :=
  [⟨["mac_arabic"],
    [(0x80, "Ä\xa0ÇÉÑÖÜáàâäں«çéèêëí…îïñó»ôö÷úùûü !\"#$٪&'()*+،-./٠١٢٣٤٥٦٧٨٩:؛<=>؟❊ءآأ"),
     (0xc4, "ؤإئابةتثجحخدذرزسشصضطظعغ[\\]^_ـفقكلمنهوىي\u064b\u064c\u064d\u064e\u064f"),
     (0xf0, "\u0650\u0651\u0652پٹچەڤگڈڑ\x7b|\x7dژے")], 0x100⟩,
   ⟨["mac_croatian"],
    [(0x80, "ÄÅÇÉÑÖÜáàâäãåçéèêëíìîïñóòôöõúùûü†°¢£§•¶ß®Š™´¨≠ŽØ∞±≤≥∆µ∂∑∏š∫ªºΩžø¿¡¬√ƒ≈Ć«"),
     (0xc8, "Č…\xa0ÀÃÕŒœĐ—“”‘’÷◊\uf8ff©⁄€‹›Æ»–·‚„‰ÂćÁčÈÍÎÏÌÓÔđÒÚÛÙıˆ˜¯πË˚¸Êæˇ")], 0x100⟩,
   ⟨["mac_cyrillic", "maccyrillic"],
    [(0x80, "АБВГДЕЖЗИЙКЛМНОПРСТУФХЦЧШЩЪЫЬЭЮЯ†°Ґ£§•¶І®©™Ђђ≠Ѓѓ∞±≤≥іµґЈЄєЇїЉљЊњјЅ¬√ƒ≈∆«"),
     (0xc8, "»…\xa0ЋћЌќѕ–—“”‘’÷„ЎўЏџ№Ёёяабвгдежзийклмнопрстуфхцчшщъыьэю€")], 0x100⟩,
   ⟨["mac_farsi"],
    [(0x80, "Ä\xa0ÇÉÑÖÜáàâäں«çéèêëí…îïñó»ôö÷úùûü !\"#$٪&'()*+،-./۰۱۲۳۴۵۶۷۸۹:؛<=>؟❊ءآأ"),
     (0xc4, "ؤإئابةتثجحخدذرزسشصضطظعغ[\\]^_ـفقكلمنهوىي\u064b\u064c\u064d\u064e\u064f"),
     (0xf0, "\u0650\u0651\u0652پٹچەڤگڈڑ\x7b|\x7dژے")], 0x100⟩,
   ⟨["mac_greek", "macgreek"],
    [(0x80, "Ä¹²É³ÖÜ΅àâä΄¨çéèêë£™îï•½‰ôö¦€ùûü†ΓΔΘΛΞΠß®©ΣΪ§≠°·Α±≤≥¥ΒΕΖΗΙΚΜΦΫΨΩάΝ¬ΟΡ≈Τ«"),
     (0xc8, "»…\xa0ΥΧΆΈœ–―“”‘’÷ΉΊΌΎέήίόΏύαβψδεφγηιξκλμνοπώρστθωςχυζϊϋΐΰ\xad")], 0x100⟩,
   ⟨["mac_iceland", "maciceland"],
    [(0x80, "ÄÅÇÉÑÖÜáàâäãåçéèêëíìîïñóòôöõúùûüÝ°¢£§•¶ß®©™´¨≠ÆØ∞±≤≥¥µ∂∑∏π∫ªºΩæø¿¡¬√ƒ≈∆«"),
     (0xc8, "»…\xa0ÀÃÕŒœ–—“”‘’÷◊ÿŸ⁄€ÐðÞþý·‚„‰ÂÊÁËÈÍÎÏÌÓÔ\uf8ffÒÚÛÙıˆ˜¯˘˙˚¸˝˛ˇ")], 0x100⟩,
   ⟨["mac_latin2", "mac_centeuro", "maccentraleurope", "maclatin2"],
    [(0x80, "ÄĀāÉĄÖÜáąČäčĆćéŹźĎíďĒēĖóėôöõúĚěü†°Ę£§•¶ß®©™ę¨≠ģĮįĪ≤≥īĶ∂∑łĻļĽľĹĺŅņŃ¬√ńŇ∆«"),
     (0xc8, "»…\xa0ňŐÕőŌ–—“”‘’÷◊ōŔŕŘ‹›řŖŗŠ‚„šŚśÁŤťÍŽžŪÓÔūŮÚůŰűŲųÝýķŻŁżĢˇ")], 0x100⟩,
   ⟨["mac_roman", "macintosh", "macroman"],
    [(0x80, "ÄÅÇÉÑÖÜáàâäãåçéèêëíìîïñóòôöõúùûü†°¢£§•¶ß®©™´¨≠ÆØ∞±≤≥¥µ∂∑∏π∫ªºΩæø¿¡¬√ƒ≈∆«"),
     (0xc8, "»…\xa0ÀÃÕŒœ–—“”‘’÷◊ÿŸ⁄€‹›ﬁﬂ‡·‚„‰ÂÊÁËÈÍÎÏÌÓÔ\uf8ffÒÚÛÙıˆ˜¯˘˙˚¸˝˛ˇ")], 0x100⟩,
   ⟨["mac_romanian"],
    [(0x80, "ÄÅÇÉÑÖÜáàâäãåçéèêëíìîïñóòôöõúùûü†°¢£§•¶ß®©™´¨≠ĂȘ∞±≤≥¥µ∂∑∏π∫ªºΩăș¿¡¬√ƒ≈∆«"),
     (0xc8, "»…\xa0ÀÃÕŒœ–—“”‘’÷◊ÿŸ⁄€‹›Țț‡·‚„‰ÂÊÁËÈÍÎÏÌÓÔ\uf8ffÒÚÛÙıˆ˜¯˘˙˚¸˝˛ˇ")], 0x100⟩,
   ⟨["mac_turkish", "macturkish"],
    [(0x80, "ÄÅÇÉÑÖÜáàâäãåçéèêëíìîïñóòôöõúùûü†°¢£§•¶ß®©™´¨≠ÆØ∞±≤≥¥µ∂∑∏π∫ªºΩæø¿¡¬√ƒ≈∆«"),
     (0xc8, "»…\xa0ÀÃÕŒœ–—“”‘’÷◊ÿŸĞğİıŞş‡·‚„‰ÂÊÁËÈÍÎÏÌÓÔ\uf8ffÒÚÛÙ\uf8a0ˆ˜¯˘˙˚¸˝˛ˇ")], 0x100⟩]

/-- Codepages of regions and devices. -/
def regional : List Codepage :=
  [⟨["charmap"], [], 0x100⟩,
   ⟨["hp_roman8", "cp1051", "csHPRoman8", "ibm1051", "r8", "roman8"],
    [(0xa1, "ÀÂÈÊËÎÏ´ˋˆ¨˜ÙÛ₤¯Ýý°ÇçÑñ¡¿¤£¥§ƒ¢âêôûáéóúàèòùäëöüÅîØÆåíøæÄìÖÜÉïßÔÁÃãÐðÍÌÓÒ"),
     (0xe9, "ÕõŠšÚŸÿÞþ·µ¶¾—¼½ªº«■»±�")], 0x100⟩,
   ⟨["koi8_r", "cskoi8r"],
    [(0x80, "─│┌┐└┘├┤┬┴┼▀▄█▌▐░▒▓⌠■∙√≈≤≥\xa0⌡°²·÷═║╒ё╓╔╕╖╗╘╙╚╛╜╝╞╟╠╡Ё╢╣╤╥╦╧╨╩╪╫╬©юабцд"),
     (0xc5, "ефгхийклмнопярстужвьызшэщчъЮАБЦДЕФГХИЙКЛМНОПЯРСТУЖВЬЫЗШЭЩЧЪ")], 0x100⟩,
   ⟨["koi8_t"],
    [(0x80, "қғ‚Ғ„…†‡�‰ҳ‹ҲҷҶ�Қ‘’“”•–—�™�›�����ӯӮё¤ӣ¦§���"),
     (0xaf, "�°±²Ё�Ӣ¶·�№�»���©юабцдефгхийклмнопярстужвьызшэщчъЮАБЦДЕФГХИЙКЛМНОПЯРСТУЖ"),
     (0xf7, "ВЬЫЗШЭЩЧЪ")], 0x100⟩,
   ⟨["koi8_u"],
    [(0x80, "─│┌┐└┘├┤┬┴┼▀▄█▌▐░▒▓⌠■∙√≈≤≥\xa0⌡°²·÷═║╒ёє╔ії╗╘╙╚╛ґ╝╞╟╠╡ЁЄ╣ІЇ╦╧╨╩╪Ґ╬©юабцд"),
     (0xc5, "ефгхийклмнопярстужвьызшэщчъЮАБЦДЕФГХИЙКЛМНОПЯРСТУЖВЬЫЗШЭЩЧЪ")], 0x100⟩,
   ⟨["kz1048", "kz_1048", "rk1048", "strk1048_2002"],
    [(0x80, "ЂЃ‚ѓ„…†‡€‰Љ‹ЊҚҺЏђ‘’“”•–—�™љ›њқһџ\xa0ҰұӘ¤Ө¦§Ё©Ғ"),
     (0xaf, "Ү°±Ііөµ¶·ё№ғ»әҢңүАБВГДЕЖЗИЙКЛМНОПРСТУФХЦЧШЩЪЫЬЭЮЯабвгдежзийклмнопрстуфхц"),
     (0xf7, "чшщъыьэюя")], 0x100⟩,
   ⟨["palmos"], [(0x80, "€\x81‚ƒ„…†‡ˆ‰Š‹Œ♦♣♥♠‘’“”•–—˜™š\x9bœ\x9d\x9eŸ")], 0x100⟩,
   ⟨["ptcp154", "cp154", "csptcp154", "cyrillic_asian", "pt154"],
    [(0x80, "ҖҒӮғ„…ҶҮҲүҠӢҢҚҺҸҗ‘’“”•–—ҳҷҡӣңқһҹ\xa0ЎўЈӨҘҰ§Ё©Ә«¬ӯ®Ҝ°ұІіҙө¶·ё№ә»јҪҫҝАБВГД"),
     (0xc5, "ЕЖЗИЙКЛМНОПРСТУФХЦЧШЩЪЫЬЭЮЯабвгдежзийклмнопрстуфхцчшщъыьэюя")], 0x100⟩,
   ⟨["tis_620", "iso_ir_166", "tis620", "tis_620_0", "tis_620_2529_0", "tis_620_2529_1"],
    [(0xa0, "�กขฃคฅฆงจฉชซฌญฎฏฐฑฒณดตถทธนบปผฝพฟภมยรฤลฦวศษสหฬอฮฯะ\u0e31าำ\u0e34\u0e35"),
     (0xd6, "\u0e36\u0e37\u0e38\u0e39\u0e3a����฿เแโใไๅๆ\u0e47\u0e48\u0e49\u0e4a\u0e4b"),
     (0xec, "\u0e4c\u0e4d\u0e4e๏๐๑๒๓๔๕๖๗๘๙๚๛����")], 0x100⟩]

/-- All codepages. -/
def all : List Codepage := ebcdic ++ console ++ windows ++ standard ++ desktop ++ regional

/-- The signs and syllables of katakana that have one byte. -/
def katakana : String := "｡｢｣､･ｦｧｨｩｪｫｬｭｮｯｰｱｲｳｴｵｶｷｸｹｺｻｼｽｾｿﾀﾁﾂﾃﾄﾅﾆﾇﾈﾉﾊﾋﾌﾍﾎﾏﾐﾑﾒﾓﾔﾕﾖﾗﾘﾙﾚﾛﾜﾝﾞﾟ"

/-- The encodings for East Asian scripts. -/
def eastAsian : List Codepage :=
  [⟨["big5", "big5_tw", "csbig5", "x_mac_trad_chinese"], [], 0x80⟩,
   ⟨["big5hkscs", "big5_hkscs", "hkscs"], [], 0x80⟩,
   ⟨["cp932", "932", "ms932", "ms_kanji", "mskanji"],
    [(0x80, "\x80"), (0xa0, "\xa0"), (0xa1, katakana), (0xfd, "\uf8f1\uf8f2\uf8f3")], 0x80⟩,
   ⟨["cp949", "949", "ms949", "uhc"], [], 0x80⟩,
   ⟨["cp950", "950", "ms950"], [], 0x80⟩,
   ⟨["euc_jis_2004", "euc_jis2004", "eucjis2004", "jisx0213"], [], 0x80⟩,
   ⟨["euc_jisx0213", "eucjisx0213"], [], 0x80⟩,
   ⟨["euc_jp", "eucjp", "u_jis", "ujis"], [], 0x80⟩,
   ⟨["euc_kr", "euckr", "korean", "ks_c_5601", "ks_c_5601_1987", "ks_x_1001", "ksc5601",
     "ksx1001", "x_mac_korean"], [], 0x80⟩,
   ⟨["gb18030", "gb18030_2000"], [], 0x80⟩,
   ⟨["gb2312", "chinese", "csiso58gb231280", "euc_cn", "euccn", "eucgb2312_cn", "gb2312_1980",
     "gb2312_80", "iso_ir_58", "x_mac_simp_chinese"], [], 0x80⟩,
   ⟨["gbk", "936", "cp936", "ms936"], [], 0x80⟩,
   ⟨["hz", "hz_gb", "hz_gb_2312", "hzgb"], [], 0x80⟩,
   ⟨["iso2022_jp", "csiso2022jp", "iso2022jp", "iso_2022_jp"], [], 0x80⟩,
   ⟨["iso2022_jp_1", "iso2022jp_1", "iso_2022_jp_1"], [], 0x80⟩,
   ⟨["iso2022_jp_2", "iso2022jp_2", "iso_2022_jp_2"], [], 0x80⟩,
   ⟨["iso2022_jp_2004", "iso2022jp_2004", "iso_2022_jp_2004"], [], 0x80⟩,
   ⟨["iso2022_jp_3", "iso2022jp_3", "iso_2022_jp_3"], [], 0x80⟩,
   ⟨["iso2022_jp_ext", "iso2022jp_ext", "iso_2022_jp_ext"], [], 0x80⟩,
   ⟨["iso2022_kr", "csiso2022kr", "iso2022kr", "iso_2022_kr"], [], 0x80⟩,
   ⟨["johab", "cp1361", "ms1361"], [], 0x80⟩,
   ⟨["shift_jis", "csshiftjis", "s_jis", "shiftjis", "sjis", "x_mac_japanese"],
    [(0xa1, katakana)], 0x80⟩,
   ⟨["shift_jis_2004", "s_jis_2004", "shiftjis2004", "sjis_2004"],
    [(0x5c, "¥"), (0x7e, "‾"), (0xa1, katakana)], 0x80⟩,
   ⟨["shift_jisx0213", "s_jisx0213", "shiftjisx0213", "sjisx0213"],
    [(0x5c, "¥"), (0x7e, "‾"), (0xa1, katakana)], 0x80⟩]

end Codepage

end ZoneArbiter.Text
