import StorageReply.Xml.CodePage.Dos
import StorageReply.Xml.CodePage.Iso8859
import StorageReply.Xml.CodePage.Macintosh
import StorageReply.Xml.CodePage.Regional
import StorageReply.Xml.CodePage.Windows

/-!
# Code pages

Encodings of one byte a character whose lower half is ASCII, by their names.

Main definitions:

* `CodePage.named`: the tables with their names;
* `CodePage.find?`: the table of a name.
-/

namespace StorageReply.Xml.CodePage

/-- The tables with their names, in small letters and with underscores for all other marks. -/
def named : List (List String × String) :=
  [(["csisolatin2", "iso8859_2", "iso_8859_2", "iso_8859_2_1987", "iso_ir_101", "l2", "latin2"],
    latin2),
   (["csisolatin3", "iso8859_3", "iso_8859_3", "iso_8859_3_1988", "iso_ir_109", "l3", "latin3"],
    latin3),
   (["csisolatin4", "iso8859_4", "iso_8859_4", "iso_8859_4_1988", "iso_ir_110", "l4", "latin4"],
    latin4),
   (["csisolatincyrillic", "cyrillic", "iso8859_5", "iso_8859_5", "iso_8859_5_1988",
    "iso_ir_144"], cyrillic),
   (["arabic", "asmo_708", "csisolatinarabic", "ecma_114", "iso8859_6", "iso_8859_6",
    "iso_8859_6_1987", "iso_ir_127"], arabic),
   (["csisolatingreek", "ecma_118", "elot_928", "greek", "greek8", "iso8859_7", "iso_8859_7",
    "iso_8859_7_1987", "iso_ir_126"], greek),
   (["csisolatinhebrew", "hebrew", "iso8859_8", "iso_8859_8", "iso_8859_8_1988", "iso_ir_138"],
    hebrew),
   (["csisolatin5", "iso8859_9", "iso_8859_9", "iso_8859_9_1989", "iso_ir_148", "l5", "latin5"],
    latin5),
   (["csisolatin6", "iso8859_10", "iso_8859_10", "iso_8859_10_1992", "iso_ir_157", "l6",
    "latin6"], latin6),
   (["iso8859_11", "iso_8859_11", "iso_8859_11_2001", "thai"], thai),
   (["iso8859_13", "iso_8859_13", "l7", "latin7"], latin7),
   (["iso8859_14", "iso_8859_14", "iso_8859_14_1998", "iso_celtic", "iso_ir_199", "l8",
    "latin8"], latin8),
   (["iso8859_15", "iso_8859_15", "l9", "latin9"], latin9),
   (["iso8859_16", "iso_8859_16", "iso_8859_16_2001", "iso_ir_226", "l10", "latin10"], latin10),
   (["1250", "cp1250", "windows_1250"], windows1250),
   (["1251", "cp1251", "windows_1251"], windows1251),
   (["1252", "cp1252", "windows_1252"], windows1252),
   (["1253", "cp1253", "windows_1253"], windows1253),
   (["1254", "cp1254", "windows_1254"], windows1254),
   (["1255", "cp1255", "windows_1255"], windows1255),
   (["1256", "cp1256", "windows_1256"], windows1256),
   (["1257", "cp1257", "windows_1257"], windows1257),
   (["1258", "cp1258", "windows_1258"], windows1258),
   (["cp874"], windows874),
   (["437", "cp437", "cspc8codepage437", "ibm437"], dos437),
   (["cp720"], dos720),
   (["cp737"], dos737),
   (["775", "cp775", "cspc775baltic", "ibm775"], dos775),
   (["850", "cp850", "cspc850multilingual", "ibm850"], dos850),
   (["852", "cp852", "cspcp852", "ibm852"], dos852),
   (["855", "cp855", "csibm855", "ibm855"], dos855),
   (["cp856"], dos856),
   (["857", "cp857", "csibm857", "ibm857"], dos857),
   (["858", "cp858", "csibm858", "ibm858"], dos858),
   (["860", "cp860", "csibm860", "ibm860"], dos860),
   (["861", "cp861", "cp_is", "csibm861", "ibm861"], dos861),
   (["862", "cp862", "cspc862latinhebrew", "ibm862"], dos862),
   (["863", "cp863", "csibm863", "ibm863"], dos863),
   (["865", "cp865", "csibm865", "ibm865"], dos865),
   (["866", "cp866", "csibm866", "ibm866"], dos866),
   (["869", "cp869", "cp_gr", "csibm869", "ibm869"], dos869),
   (["cp1006"], dos1006),
   (["1125", "cp1125", "cp866u", "ibm1125", "ruscii"], dos1125),
   (["mac_centeuro", "mac_latin2", "maccentraleurope", "maclatin2"], macCentral),
   (["mac_croatian"], macCroatian),
   (["mac_cyrillic", "maccyrillic"], macCyrillic),
   (["mac_greek", "macgreek"], macGreek),
   (["mac_iceland", "maciceland"], macIceland),
   (["mac_roman", "macintosh", "macroman"], macRoman),
   (["mac_romanian"], macRomanian),
   (["mac_turkish", "macturkish"], macTurkish),
   (["palmos"], palm),
   (["cskoi8r", "koi8_r"], koi8r),
   (["koi8_t"], koi8t),
   (["koi8_u"], koi8u),
   (["kz1048", "kz_1048", "rk1048", "strk1048_2002"], kazakh),
   (["cp154", "csptcp154", "cyrillic_asian", "pt154", "ptcp154"], asianCyrillic),
   (["iso_ir_166", "tis620", "tis_620", "tis_620_0", "tis_620_2529_0", "tis_620_2529_1"],
    thaiStandard),
   (["cp1051", "hp_roman8", "ibm1051", "r8", "roman8"], roman8)]

/-- The table of a name. -/
def find? (name : String) : Option String :=
  (named.find? fun entry => entry.1.contains name).map Prod.snd

end StorageReply.Xml.CodePage
