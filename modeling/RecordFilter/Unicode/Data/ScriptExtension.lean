/-
# Script extensions

The characters that are used with a script, where characters that several scripts share count
for each of them.
-/

import RecordFilter.Unicode.CodeSet

namespace RecordFilter
namespace Unicode

/-- The characters used with each script. -/
def scriptExtensions : List NamedSet := [
  ⟨["divesakuru", "diak"],
    ["11900 7 2 1 2 8 1 2 1 1E 1 2 2 C 9 A"]⟩,
  ⟨["tagbanwa", "tagb"],
    ["1735 2 29 D 1 3 1 2"]⟩,
  ⟨["rejang", "rjng"],
    ["A930 24 B 1"]⟩,
  ⟨["shavian", "shaw"],
    ["B7 1 10398 30"]⟩,
  ⟨["bamum", "bamu"],
    ["A6A0 58 C108 239"]⟩,
  ⟨["buginese", "bugi"],
    ["1A00 1C 2 2 8FAF 1"]⟩,
  ⟨["vai", "vaii"],
    ["A500 12C"]⟩,
  ⟨["gujarati", "gujr"],
    ["951 2 11 2 11B 3 1 9 1 3 1 16 1 7 1 2 1 5 2 A 1 3 1 3 2 1 F 4 2 C 7 7 9D30 A"]⟩,
  ⟨["syriac", "syrc"],
    ["303 2 2 2 1 1 18 3 7 2 1 2 2DA 1 E 2 2 1 20 1 A B 1A 1 8F E 1 3C 2 3 110 B 158D 1 1 1"]⟩,
  ⟨["oldsogdian", "sogo"],
    ["10F00 28"]⟩,
  ⟨["samaritan", "samr"],
    ["800 2E 2 F 25F2 1"]⟩,
  ⟨["siddham", "sidd"],
    ["11580 36 2 26"]⟩,
  ⟨["common", "zyyy"],
    ["0 41 1A 6 1A 2F 1 C 1 2 1 5 17 1 1F 1 1C1 3 1 A 1 1 3 1 1 9 1 1 1 6 5 5 2 14 7E 1 6 1 1 1",
     "27D 1 D7 1 204 1 55C 1 195 4 1027 C 2 21 1 1F 1 A 1 2 1 7 1 B 3 B 1 F 11 22 3E 26 1 3 2 6 1",
     "1B 1 11 29 3 4 29A 16 B 15 3A0 100 274 2 8A 200 17 1 18 2 A 1 4 1 1 1 1A 1A2 1 3 1 D 1 D 1",
     "15 1 211 18 1F 1 31 F C 4 A1 A 5 60 1F 1 19C0 40 5908 1A 66 3 3D0 1 E 2 52A4 A 16 15 2 C 1",
     "13 1 4 93 1 1 20 1A 6 1A 6 7F 7 1 7 A 5 192 D 33 2D CA03 FD 3 1B4 6 17 F 11 5F 74 3C F6 A 27",
     "2 3E 3 11 8 2 7 1E 4 3D D5 14 C 14 C 57 1B 7 87 55 1 47 1 2 2 1 2 2 2 4 1 C 1 1 1 7 1 41 1 4",
     "2 8 1 7 1 1C 1 4 1 5 1 1 3 7 1 154 2 124 2 32 1471 44 4C 3D 2C2 2C 4 64 C F 2 F 1 F 1 25 A",
     "AE 38 1A 1 2 D 2C 4 9 17 6 9A 3D9 3 11 3 D 3 DA 6 C 4 1 F C 4 38 8 A 6 28 8 1E 2 C 4 2 E 9",
     "27 158 8 E 2 D 3 B 3 39 1 1 4 10 2 C 4 A 7 93 1 67 C0406 1 1E 60"]⟩,
  ⟨["nagmundari", "nagm"],
    ["1E4D0 2A"]⟩,
  ⟨["sundanese", "sund"],
    ["1B80 40 100 8"]⟩,
  ⟨["lycian", "lyci"],
    ["205A 1 E225 1D"]⟩,
  ⟨["cypriot", "cprt"],
    ["10100 3 4 2D 3 9 6C0 6 2 1 1 2C 1 2 3 1 2 1"]⟩,
  ⟨["deseret", "dsrt"],
    ["10400 50"]⟩,
  ⟨["zanabazarsquare", "zanb"],
    ["11A00 48"]⟩,
  ⟨["newa"],
    ["951 2 1382 1 1 2 9 1 6 1 1 1 1 1 F712 5C 1 5"]⟩,
  ⟨["warangciti", "wara"],
    ["118A0 53 C 1"]⟩,
  ⟨["takri", "takr"],
    ["964 2 9ECA A 6E46 3A 6 A"]⟩,
  ⟨["inscriptionalpahlavi", "phli"],
    ["10B60 13 5 8"]⟩,
  ⟨["kannada", "knda"],
    ["951 2 11 2 31A D 1 3 1 17 1 A 1 5 2 9 1 3 1 4 7 2 5 3 1 4 2 A 1 3 FDC 1 1 2 6 1 17 1 1 1",
      "8B3B 6"]⟩,
  ⟨["bopomofo", "bopo"],
    ["2C7 1 1 3 D 1 10 2 2D15 3 4 A 1 D A 4 2 1 6 1 C3 1 9 2B 70 20 CC85 2 11A 5"]⟩,
  ⟨["malayalam", "mlym"],
    ["951 2 11 2 39A D 1 3 1 33 1 3 1 6 4 10 2 1A F5A 1 17 1 8B3D 3"]⟩,
  ⟨["newtailue", "talu"],
    ["1980 2C 4 1A 6 B 3 2"]⟩,
  ⟨["katakana", "kana"],
    ["305 1 1D 1 2CDD 3 4 A 1 D 10 6 1 1 4 2 5B 4 3 60 F0 10 D0 2F 1 58 CAED 2 11A 3F B050 4 1 7 1",
      "2 1 1 11F 3 32 1 E 4"]⟩,
  ⟨["sharada", "shrd"],
    ["951 1 1385 1 1 1 2 2 2 1 9 1 2 1 8B42 6 2 1 6947 60 980 8"]⟩,
  ⟨["olchiki", "olck"],
    ["1C50 30"]⟩,
  ⟨["mro", "mroo"],
    ["16A40 1F 1 A 4 2"]⟩,
  ⟨["kharoshthi", "khar"],
    ["10A00 4 1 2 5 8 1 3 1 1D 2 3 4 A 7 9"]⟩,
  ⟨["qaac", "coptic", "copt"],
    ["B7 1 248 1 3 2 1 1 6C 2 6C E 2890 74 5 7 117 1 D4C8 1C"]⟩,
  ⟨["runic", "runr"],
    ["16A0 59"]⟩,
  ⟨["kawi"],
    ["11F00 11 1 29 3 1D"]⟩,
  ⟨["nko", "nkoo"],
    ["60C 1 E 1 3 1 1A0 3B 2 3 F53E 2"]⟩,
  ⟨["braille", "brai"],
    ["2800 100"]⟩,
  ⟨["modi"],
    ["A830 A 6DC6 45 B A"]⟩,
  ⟨["oldnortharabian", "narb"],
    ["10A80 20"]⟩,
  ⟨["lineara", "lina"],
    ["10107 2D 4CC 137 9 16 A 8"]⟩,
  ⟨["kayahli", "kali"],
    ["A900 30"]⟩,
  ⟨["masaramgondi", "gonm"],
    ["964 2 1139A 7 1 2 1 2C 3 1 1 2 1 9 8 A"]⟩,
  ⟨["khmer", "khmr"],
    ["1780 5E 2 A 6 A 1E6 20"]⟩,
  ⟨["limbu", "limb"],
    ["965 1 F9A 1F 1 C 4 C 4 1 3 C"]⟩,
  ⟨["chakma", "cakm"],
    ["9E6 A 650 A 100B6 35 1 12"]⟩,
  ⟨["thai"],
    ["2BC 1 1A 1 2B 1 2D 1 ACF 3A 5 1C"]⟩,
  ⟨["mahajani", "mahj"],
    ["B7 1 8AC C 9EC0 A 6916 27"]⟩,
  ⟨["caucasianalbanian", "aghb"],
    ["304 1 2C 1 2C 1 101D1 34 B 1"]⟩,
  ⟨["elymaic", "elym"],
    ["10FE0 17"]⟩,
  ⟨["sylotinagri", "sylo"],
    ["964 2 80 A 9E10 2D"]⟩,
  ⟨["hiragana", "hira"],
    ["3001 3 4 A 1 D 10 6 1 1 4 2 3 56 2 8 5A 2 CD48 2 11A 5 A 1 2D 2 B061 11F 12 1 1D 3 40AD 1"]⟩,
  ⟨["gurmukhi", "guru"],
    ["951 2 11 2 9B 3 1 6 4 2 2 16 1 7 1 2 1 2 1 2 2 1 1 5 4 2 2 3 3 1 7 4 1 1 7 11 9DB9 A"]⟩,
  ⟨["meroiticcursive", "merc"],
    ["109A0 18 4 14 2 2E"]⟩,
  ⟨["mendekikakui", "mend"],
    ["1E800 C5 2 10"]⟩,
  ⟨["bengali", "beng"],
    ["2BC 1 694 2 11 2 1A 4 1 8 2 2 2 16 1 7 1 1 3 4 2 9 2 2 2 4 8 1 4 2 1 5 2 19 12D1 1 1 1 2 2 1",
      "1 8 1 8 1 2 1 4 1 2 3 8BF9 1"]⟩,
  ⟨["gothic", "goth"],
    ["B7 1 24C 2 2 1 28 1 FFFE 1B"]⟩,
  ⟨["ahom"],
    ["11700 1B 2 F 4 17"]⟩,
  ⟨["nabataean", "nbat"],
    ["10880 1F 8 9"]⟩,
  ⟨["nyiakengpuachuehmong", "hmnp"],
    ["1E100 2D 3 E 2 A 4 2"]⟩,
  ⟨["meeteimayek", "mtei"],
    ["AAE0 17 C9 2E 2 A"]⟩,
  ⟨["palmyrene", "palm"],
    ["10860 20"]⟩,
  ⟨["batak", "batk"],
    ["1BC0 34 8 4"]⟩,
  ⟨["miao", "plrd"],
    ["16F00 4B 4 39 7 11"]⟩,
  ⟨["psalterpahlavi", "phlp"],
    ["640 1 1053F 12 7 4 C 7"]⟩,
  ⟨["buhid", "buhd"],
    ["1735 2 9 14"]⟩,
  ⟨["grantha", "gran"],
    ["951 2 11 2 280 E 10DC 1 1 2 1E 3 3 2 3F6 1 F20F 4 1 8 2 2 2 16 1 7 1 2 1 5 1 A 2 2 2 3 2 1 6",
      "1 5 7 2 7 3 5 C5B 2 1 1"]⟩,
  ⟨["khitansmallscript", "kits"],
    ["16FE4 1 1B1B 1D6 29 1"]⟩,
  ⟨["hebrew", "hebr"],
    ["307 2 288 37 8 1B 4 6 F528 1A 1 5 1 1 1 2 1 2 1 A"]⟩,
  ⟨["taitham", "lana"],
    ["1A20 3F 1 1D 2 B 6 A 6 E"]⟩,
  ⟨["meroitichieroglyphs", "mero"],
    ["205D 1 E922 20"]⟩,
  ⟨["lisu"],
    ["2BC 1 10 1 2D3C 2 74C4 30 7AB0 1"]⟩,
  ⟨["toto"],
    ["2BC 1 1DFD3 1F"]⟩,
  ⟨["khudawadi", "sind"],
    ["964 2 9ECA A 6A76 3B 5 A"]⟩,
  ⟨["tirhuta", "tirh"],
    ["951 2 11 2 136F 1 C 1 F 1 8B3D A 6C46 48 8 A"]⟩,
  ⟨["avestan", "avst"],
    ["B7 1 2D78 2 DCCE 36 3 7"]⟩,
  ⟨["han", "hani"],
    ["B7 1 2DC8 1A 1 59 C D6 1A 10 1 3 1 D 1 D 1 D 2 1 6 9 BB 1 94 10 20 26 9 1 30 28 38 31 F C 33",
      "1 58 19 A 5 60 1F 1 19C0 40 5200 700 8 51F8 16E 2 6A 36B 2 11A 5 707C 2 C 7 6369 12 1EDE 2",
      "DAE A6E0 20 111E 2 168E 2 1D31 F 26E 9A2 21E 5E2 134B 5 212A"]⟩,
  ⟨["greek", "grek"],
    ["B7 1 248 2 2 1 1 1 1 1 A 1 2E 1 2 1 2A 8 2 4 1 1 4 1 1 1 1 3 1 1 1 14 1 3F E 10 1926 5 32 5",
      "4 5 54 3 13E 16 2 6 2 26 2 6 2 8 1 1 1 1 1 1 1 1F 2 35 1 F 1 E 2 6 1 13 2 3 1 9 5E 1 C8 1",
      "8A3E 1 55DA 4F 11 1 D05F 46"]⟩,
  ⟨["gunjalagondi", "gong"],
    ["B7 1 8AC 2 113FA 6 1 2 1 25 1 2 1 6 7 A"]⟩,
  ⟨["khojki", "khoj"],
    ["AE6 A 9D40 A 69C6 12 1 2F"]⟩,
  ⟨["cuneiform", "xsux"],
    ["12000 39A 66 6F 1 5 B C4"]⟩,
  ⟨["egyptianhieroglyphs", "egyp"],
    ["13000 456 A F9B"]⟩,
  ⟨["olduyghur", "ougr"],
    ["640 1 104B1 1 47D 1A"]⟩,
  ⟨["oldsoutharabian", "sarb"],
    ["10A60 20"]⟩,
  ⟨["cyrillic", "cyrl"],
    ["2BC 1 43 3 1 1 1 1 1 1 2 1 5 1 EE 130 1750 B A0 1 4C 1 7F 1 FE7 20 43 1 77FC 60 578E 2 E200",
      "3E 21 1"]⟩,
  ⟨["taiviet", "tavt"],
    ["AA80 43 18 5"]⟩,
  ⟨["olditalic", "ital"],
    ["10300 24 9 3"]⟩,
  ⟨["elbasan", "elba"],
    ["B7 1 24D 1 101FA 28"]⟩,
  ⟨["ethiopic", "ethi"],
    ["30E 1 EF1 49 1 4 2 7 1 1 1 4 2 29 1 4 2 21 1 4 2 7 1 1 1 4 2 F 1 39 1 4 2 43 2 20 3 1A 19E6",
      "17 9 7 1 7 1 7 1 7 1 7 1 7 1 7 1 7 7D22 6 2 6 2 6 9 7 1 7 13CB1 7 1 4 1 2 1 F"]⟩,
  ⟨["tagalog", "tglg"],
    ["1700 16 9 1 15 2"]⟩,
  ⟨["ugaritic", "ugar"],
    ["10380 1E 1 1"]⟩,
  ⟨["osage", "osge"],
    ["301 1 2 1 6 1 4C 1 10157 24 4 24"]⟩,
  ⟨["duployan", "dupl"],
    ["B7 1 24F 2 1 1 18 2 2B17 1 18DC3 6B 5 D 3 9 7 A 2 8"]⟩,
  ⟨["tifinagh", "tfng"],
    ["302 1 1 1 1 4 19 1 2A0C 38 7 2 E 1"]⟩,
  ⟨["inscriptionalparthian", "prti"],
    ["10B40 16 2 8"]⟩,
  ⟨["signwriting", "sgnw"],
    ["1D800 28C F 5 1 F"]⟩,
  ⟨["osmanya", "osma"],
    ["10480 1E 2 A"]⟩,
  ⟨["hanunoo", "hano"],
    ["1720 17"]⟩,
  ⟨["nandinagari", "nand"],
    ["951 1 12 2 380 A FF9 1 8 1 7 1 8B35 6 716A 8 2 2E 2 B"]⟩,
  ⟨["ogham", "ogam"],
    ["1680 1D"]⟩,
  ⟨["oldpersian", "xpeo"],
    ["103A0 24 4 E"]⟩,
  ⟨["bhaiksuki", "bhks"],
    ["11C00 9 1 2D 1 E A 1D"]⟩,
  ⟨["makasar", "maka"],
    ["11EE0 19"]⟩,
  ⟨["imperialaramaic", "armi"],
    ["10840 16 1 9"]⟩,
  ⟨["anatolianhieroglyphs", "hluw"],
    ["14400 247"]⟩,
  ⟨["oldturkic", "orkh"],
    ["205A 1 DD5 1 DDCF 49"]⟩,
  ⟨["medefaidrin", "medf"],
    ["16E40 5B"]⟩,
  ⟨["pahawhhmong", "hmng"],
    ["16B00 46 A A 1 7 1 15 5 13"]⟩,
  ⟨["dogra", "dogr"],
    ["964 C 9EC0 A 6FC6 3C"]⟩,
  ⟨["armenian", "armn"],
    ["308 1 228 26 2 32 2 3 F583 5"]⟩,
  ⟨["sorasompeng", "sora"],
    ["110D0 19 7 A"]⟩,
  ⟨["canadianaboriginal", "cans"],
    ["1400 280 230 46 101BA 10"]⟩,
  ⟨["thaana", "thaa"],
    ["60C 1 E 2 2 1 40 A 116 32 F640 1 A 1"]⟩,
  ⟨["chorasmian", "chrs"],
    ["10FB0 1C"]⟩,
  ⟨["bassavah", "bass"],
    ["16AD0 1E 2 6"]⟩,
  ⟨["linearb", "linb"],
    ["10000 C 1 1A 1 13 1 2 1 F 2 E 22 7B 5 3 4 2D 3 9"]⟩,
  ⟨["myanmar", "mymr"],
    ["1000 A0 988E 1 B1 1F 61 20 6C50 14"]⟩,
  ⟨["mandaic", "mand"],
    ["640 1 1FF 1C 2 1"]⟩,
  ⟨["marchen", "marc"],
    ["11C70 20 2 16 1 E"]⟩,
  ⟨["glagolitic", "glag"],
    ["B7 1 24B 1 1 1 17E 1 2 1 101 1 B71 1 F5E 1 BA5 60 1E3 1 782B 1 13990 7 1 11 2 7 1 2 1 5"]⟩,
  ⟨["vithkuqi", "vith"],
    ["10570 B 1 F 1 7 1 2 1 B 1 F 1 7 1 2"]⟩,
  ⟨["carian", "cari"],
    ["B7 1 1FA2 1 2 1 DD3 1 D46E 31"]⟩,
  ⟨["javanese", "java"],
    ["A980 4E 1 B 4 2"]⟩,
  ⟨["sogdian", "sogd"],
    ["640 1 108EF 2A"]⟩,
  ⟨["yezidi", "yezi"],
    ["60C 1 E 1 3 1 40 A 10816 2A 1 3 2 2"]⟩,
  ⟨["yi", "yiii"],
    ["3001 2 5 A 2 8 DF 1 6F04 48D 3 37 5A9A 5"]⟩,
  ⟨["oldpermic", "perm"],
    ["B7 1 248 1 5 3 A 1 16F 1 FECC 2B"]⟩,
  ⟨["kaithi", "kthi"],
    ["966 A 24C1 1 79FE A 6846 43 A 1"]⟩,
  ⟨["sinhala", "sinh"],
    ["964 2 41B 3 1 12 3 18 1 9 1 1 2 7 3 1 4 6 1 1 1 8 6 A 2 3 EFD 1 F4EE 14"]⟩,
  ⟨["telugu", "telu"],
    ["951 2 11 2 29A D 1 3 1 17 1 10 2 9 1 3 1 4 7 2 1 3 1 2 2 4 2 A 7 9 1055 2 1 1 1 1 17 1"]⟩,
  ⟨["lepcha", "lepc"],
    ["1C00 38 3 F 3 3"]⟩,
  ⟨["brahmi", "brah"],
    ["11000 4E 4 24 9 1"]⟩,
  ⟨["hangul", "hang"],
    ["1100 100 1E01 3 4 A 1 D E 3 6 1 C3 1 35 5E 71 1F 41 1F 76E1 1D 283 2BA4 C 17 4 31 2649 2 11A",
      "5 3A 1F 3 6 2 6 2 6 2 3"]⟩,
  ⟨["devanagari", "deva"],
    ["2BC 1 643 53 2 2B 1350 27 1 2 3F6 1 873F A A6 20 7200 A"]⟩,
  ⟨["nushu", "nshu"],
    ["16FE1 1 418E 18C"]⟩,
  ⟨["adlam", "adlm"],
    ["61F 1 20 1 1A0E 1 DF1 1 1BABE 4C 4 A 4 2"]⟩,
  ⟨["wancho", "wcho"],
    ["1E2C0 3A 5 1"]⟩,
  ⟨["tibetan", "tibt"],
    ["F00 48 1 24 4 27 1 24 1 F 1 7 4 2 202D 4"]⟩,
  ⟨["latin", "latn"],
    ["41 1A 6 1A 2F 1 C 1 2 1 5 17 1 1F 1 1C1 3 1 A 1 1 3 1 1 9 1 1 1 6 5 1B F 1 2 1 1 F 3 7 2 1 2",
     "26 1 5 1 4 D 115 2 4CA 2 7A8 1 C04 26 6 31 5 4 5 D 1 46 39 1 7 100 12F 1 41 1 D 1 10 D 53 1",
     "39 2 6 1 1B 1 11 29 AD7 20 197 1 78E8 8 1A 66 3 52 14 F 12E 1 201 2B 1 9 1 4 4F96 7 41A 1A 6",
     "1A 825 6 1 2A 1 9 D745 1F 6 6"]⟩,
  ⟨["lydian", "lydi"],
    ["B7 1 2D79 1 DAEE 1A 5 1"]⟩,
  ⟨["qaai", "inherited", "zinh"],
    ["30F 1 2 1 1 F 3 7 2 1 2 10 1 2 1 12 1 5 1 4 5F0 2 115B 2E 2 C 2D6 36 1 1 1 5 20C 2 C2 20",
      "DD10 10 10 E 3CF 1 CD02 2E 2 17 220 3 11 8 2 7 1E 4 C2F52 F0"]⟩,
  ⟨["tamil", "taml"],
    ["951 2 11 2 21C 2 1 6 3 3 1 4 3 2 1 1 1 2 3 2 3 3 3 C 4 5 3 3 1 4 2 1 6 1 E 15 10DF 1 8C18 1",
      "6A0D 1 1 1 37 2 C83 32 D 1"]⟩,
  ⟨["cham"],
    ["AA00 37 9 E 2 A 2 4"]⟩,
  ⟨["hanifirohingya", "rohg"],
    ["60C 1 E 1 3 1 20 1 93 1 1062B 28 8 A"]⟩,
  ⟨["georgian", "geor"],
    ["B7 1 4D1 1 B16 26 1 1 5 1 2 30 B90 2B 2 3 39A 1 CA5 26 1 1 5 1 103 1"]⟩,
  ⟨["tangut", "tang"],
    ["2FF0 10 1EF 1 13DF0 1 1F 1B00 200 1F 61 73"]⟩,
  ⟨["multani", "mult"],
    ["A66 A 10810 7 1 1 1 4 1 F 1 B"]⟩,
  ⟨["mongolian", "mong"],
    ["1800 1A 6 59 7 2B 784 1 FD1 2 5 4 E654 D"]⟩,
  ⟨["oriya", "orya"],
    ["951 2 11 2 19B 3 1 8 2 2 2 16 1 7 1 2 1 5 2 9 2 2 2 3 7 3 4 2 1 5 2 12 1162 1 17 1"]⟩,
  ⟨["arabic", "arab"],
    ["600 5 1 D7 1 22 50 30 F0 22 5 4B 1 1D 174F 1 DF1 1 CD0E 280 20 10 70 5 1 87 3E3 1C B64 1F 43",
     "6 8 9 21 6 DF00 4 1 1B 1 2 1 1 2 1 1 A 1 4 1 1 1 1 6 1 4 1 1 1 1 1 1 3 1 2 1 1 2 1 1 1 1 1 1",
     "1 1 1 1 2 1 1 2 4 1 7 1 4 1 4 1 1 1 A 1 11 5 3 1 5 1 11 34 2"]⟩,
  ⟨["hatran", "hatr"],
    ["108E0 13 1 2 5 5"]⟩,
  ⟨["saurashtra", "saur"],
    ["A880 46 8 C"]⟩,
  ⟨["phagspa", "phag"],
    ["1802 2 1 1 829 1 FD2 1 783D 38"]⟩,
  ⟨["taile", "tale"],
    ["300 2 5 2 3 1 D33 A 906 1E 2 5"]⟩,
  ⟨["cyprominoan", "cpmn"],
    ["10100 2 2E8E 63"]⟩,
  ⟨["oldhungarian", "hung"],
    ["205A 1 2 1 DD3 1 F 1 DE3E 33 D 33 7 6"]⟩,
  ⟨["soyombo", "soyo"],
    ["11A50 53"]⟩,
  ⟨["cherokee", "cher"],
    ["300 3 1 1 6 2 16 2 B 2 106E 56 2 6 9772 50"]⟩,
  ⟨["manichaean", "mani"],
    ["640 1 1047F 27 4 C"]⟩,
  ⟨["phoenician", "phnx"],
    ["10900 1C 3 1"]⟩,
  ⟨["tangsa", "tnsa"],
    ["16A70 4F 1 A"]⟩,
  ⟨["paucinhau", "pauc"],
    ["11AC0 39"]⟩,
  ⟨["lao", "laoo"],
    ["E81 2 1 1 1 5 1 18 1 1 1 17 2 5 1 1 1 7 1 A 2 4"]⟩,
  ⟨["balinese", "bali"],
    ["1B00 4D 1 32"]⟩,
  ⟨["garay", "gara"],
    ["60C 1 E 1 3 1 10720 26 3 1D 8 2"]⟩,
  ⟨["gurungkhema", "gukh"],
    ["965 1 1579A 3A"]⟩,
  ⟨["kiratrai", "krai"],
    ["16D40 3A"]⟩,
  ⟨["olonal", "onao"],
    ["964 2 1DC6A 2B 4 1"]⟩,
  ⟨["sunuwar", "sunu"],
    ["300 2 1 1 9 1 2 1 1C 1 3 1 1188E 22 E A"]⟩,
  ⟨["todhri", "todr"],
    ["301 1 2 1 2 1 9 1 1 1 4A 1 10261 34"]⟩,
  ⟨["tulutigalari", "tutg"],
    ["CE6 A 1002 1 1 1 8B3B 6 BB 1 6A8E A 1 1 2 1 1 26 1 A 1 1 2 1 1 4 1 A 1 2 8 2"]⟩,
  ⟨["beriaerfe", "berf"],
    ["16EA0 19 2 19"]⟩,
  ⟨["sidetic", "sidt"],
    ["10940 1A"]⟩,
  ⟨["taiyo", "tayo"],
    ["1E6C0 1F 1 16 8 2"]⟩,
  ⟨["tolongsiki", "tols"],
    ["11DB0 2C 4 A"]⟩]

end Unicode
end RecordFilter
