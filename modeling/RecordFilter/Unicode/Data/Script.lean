/-
# Scripts

The script that a character is written in, by short and long name.
-/

import RecordFilter.Unicode.CodeSet

namespace RecordFilter
namespace Unicode

/-- The scripts of the standard. -/
def scripts : List NamedSet := [
  ⟨["divesakuru", "diak"],
    ["11900 7 2 1 2 8 1 2 1 1E 1 2 2 C 9 A"]⟩,
  ⟨["tagbanwa", "tagb"],
    ["1760 D 1 3 1 2"]⟩,
  ⟨["rejang", "rjng"],
    ["A930 24 B 1"]⟩,
  ⟨["shavian", "shaw"],
    ["10450 30"]⟩,
  ⟨["bamum", "bamu"],
    ["A6A0 58 C108 239"]⟩,
  ⟨["buginese", "bugi"],
    ["1A00 1C 2 2"]⟩,
  ⟨["vai", "vaii"],
    ["A500 12C"]⟩,
  ⟨["gujarati", "gujr"],
    ["A81 3 1 9 1 3 1 16 1 7 1 2 1 5 2 A 1 3 1 3 2 1 F 4 2 C 7 7"]⟩,
  ⟨["syriac", "syrc"],
    ["700 E 1 3C 2 3 110 B"]⟩,
  ⟨["oldsogdian", "sogo"],
    ["10F00 28"]⟩,
  ⟨["samaritan", "samr"],
    ["800 2E 2 F"]⟩,
  ⟨["siddham", "sidd"],
    ["11580 36 2 26"]⟩,
  ⟨["common", "zyyy"],
    ["0 41 1A 6 1A 2F 1 F 1 5 17 1 1F 1 1C1 27 5 5 2 14 74 1 9 1 6 1 1 1 27D 1 6 1 E 1 3 1 20 1 9C",
     "1 204 1 81 2 4D9 1 195 4 122 1 5EF 3 47 2 CB 2 1 1 4CD 1 D 1 7 4 1 6 1 3 2 1 305 C 2 57 1 B",
     "3 B 1 F 11 22 3E 26 1 3 2 6 1 1B 1 11 29 3 4 29A 16 B 15 3A0 100 274 2 8A 200 5E 192 15 1 1",
     "1 19 F 8 4 4 5B 2 3 1 5A 2 93 10 20 26 9 1 30 40 1F 51 2F 1 58 A8 19C0 40 5900 22 66 3 A5 A",
     "F4 1 A0 1 18B 1 E 2 51D2 2 D0 A 16 23 1 13 1 4 93 1 1 20 1A 6 1A B A 1 2D 2 40 7 1 7 A 5 102",
     "3 4 2D 3 9 50 D 33 2D E4 1B B9A4 4 F5C FD 3 1B4 6 17 F 11 5F 74 3C F6 A 27 2 3E 3 11 8 2 7",
     "1E 4 3D D5 14 C 14 C 57 9 19 87 55 1 47 1 2 2 1 2 2 2 4 1 C 1 1 1 7 1 41 1 4 2 8 1 7 1 1C 1",
     "4 1 5 1 1 3 7 1 154 2 124 2 32 1471 44 4C 3D 2C2 2C 4 64 C F 2 F 1 F 1 25 A AE 38 1A 1 2 D",
     "2C 4 9 7 2 E 6 9A 3D9 3 11 3 D 3 DA 6 C 4 1 F C 4 38 8 A 6 28 8 1E 2 C 4 2 E 9 27 158 8 E 2",
     "D 3 B 3 39 1 1 4 10 2 C 4 A 7 93 1 67 C0406 1 1E 60"]⟩,
  ⟨["nagmundari", "nagm"],
    ["1E4D0 2A"]⟩,
  ⟨["sundanese", "sund"],
    ["1B80 40 100 8"]⟩,
  ⟨["lycian", "lyci"],
    ["10280 1D"]⟩,
  ⟨["cypriot", "cprt"],
    ["10800 6 2 1 1 2C 1 2 3 1 2 1"]⟩,
  ⟨["deseret", "dsrt"],
    ["10400 50"]⟩,
  ⟨["zanabazarsquare", "zanb"],
    ["11A00 48"]⟩,
  ⟨["newa"],
    ["11400 5C 1 5"]⟩,
  ⟨["warangciti", "wara"],
    ["118A0 53 C 1"]⟩,
  ⟨["takri", "takr"],
    ["11680 3A 6 A"]⟩,
  ⟨["inscriptionalpahlavi", "phli"],
    ["10B60 13 5 8"]⟩,
  ⟨["kannada", "knda"],
    ["C80 D 1 3 1 17 1 A 1 5 2 9 1 3 1 4 7 2 5 3 1 4 2 A 1 3"]⟩,
  ⟨["bopomofo", "bopo"],
    ["2EA 2 2E19 2B 70 20"]⟩,
  ⟨["malayalam", "mlym"],
    ["D00 D 1 3 1 33 1 3 1 6 4 10 2 1A"]⟩,
  ⟨["newtailue", "talu"],
    ["1980 2C 4 1A 6 B 3 2"]⟩,
  ⟨["katakana", "kana"],
    ["30A1 5A 2 3 F0 10 D0 2F 1 58 CC0E A 1 2D B052 4 1 7 1 2 1 1 11F 3 32 1 E 4"]⟩,
  ⟨["sharada", "shrd"],
    ["11180 60 980 8"]⟩,
  ⟨["olchiki", "olck"],
    ["1C50 30"]⟩,
  ⟨["mro", "mroo"],
    ["16A40 1F 1 A 4 2"]⟩,
  ⟨["kharoshthi", "khar"],
    ["10A00 4 1 2 5 8 1 3 1 1D 2 3 4 A 7 9"]⟩,
  ⟨["qaac", "coptic", "copt"],
    ["3E2 E 2890 74 5 7"]⟩,
  ⟨["runic", "runr"],
    ["16A0 4B 3 B"]⟩,
  ⟨["kawi"],
    ["11F00 11 1 29 3 1D"]⟩,
  ⟨["nko", "nkoo"],
    ["7C0 3B 2 3"]⟩,
  ⟨["braille", "brai"],
    ["2800 100"]⟩,
  ⟨["modi"],
    ["11600 45 B A"]⟩,
  ⟨["oldnortharabian", "narb"],
    ["10A80 20"]⟩,
  ⟨["lineara", "lina"],
    ["10600 137 9 16 A 8"]⟩,
  ⟨["kayahli", "kali"],
    ["A900 2E 1 1"]⟩,
  ⟨["masaramgondi", "gonm"],
    ["11D00 7 1 2 1 2C 3 1 1 2 1 9 8 A"]⟩,
  ⟨["khmer", "khmr"],
    ["1780 5E 2 A 6 A 1E6 20"]⟩,
  ⟨["limbu", "limb"],
    ["1900 1F 1 C 4 C 4 1 3 C"]⟩,
  ⟨["chakma", "cakm"],
    ["11100 35 1 12"]⟩,
  ⟨["thai"],
    ["E01 3A 5 1C"]⟩,
  ⟨["mahajani", "mahj"],
    ["11150 27"]⟩,
  ⟨["caucasianalbanian", "aghb"],
    ["10530 34 B 1"]⟩,
  ⟨["elymaic", "elym"],
    ["10FE0 17"]⟩,
  ⟨["sylotinagri", "sylo"],
    ["A800 2D"]⟩,
  ⟨["hiragana", "hira"],
    ["3041 56 6 3 17F61 11F 12 1 1D 3 40AD 1"]⟩,
  ⟨["gurmukhi", "guru"],
    ["A01 3 1 6 4 2 2 16 1 7 1 2 1 2 1 2 2 1 1 5 4 2 2 3 3 1 7 4 1 1 7 11"]⟩,
  ⟨["meroiticcursive", "merc"],
    ["109A0 18 4 14 2 2E"]⟩,
  ⟨["mendekikakui", "mend"],
    ["1E800 C5 2 10"]⟩,
  ⟨["bengali", "beng"],
    ["980 4 1 8 2 2 2 16 1 7 1 1 3 4 2 9 2 2 2 4 8 1 4 2 1 5 2 19"]⟩,
  ⟨["gothic", "goth"],
    ["10330 1B"]⟩,
  ⟨["ahom"],
    ["11700 1B 2 F 4 17"]⟩,
  ⟨["nabataean", "nbat"],
    ["10880 1F 8 9"]⟩,
  ⟨["nyiakengpuachuehmong", "hmnp"],
    ["1E100 2D 3 E 2 A 4 2"]⟩,
  ⟨["meeteimayek", "mtei"],
    ["AAE0 17 C9 2E 2 A"]⟩,
  ⟨["palmyrene", "palm"],
    ["10860 20"]⟩,
  ⟨["batak", "batk"],
    ["1BC0 34 8 4"]⟩,
  ⟨["miao", "plrd"],
    ["16F00 4B 4 39 7 11"]⟩,
  ⟨["psalterpahlavi", "phlp"],
    ["10B80 12 7 4 C 7"]⟩,
  ⟨["buhid", "buhd"],
    ["1740 14"]⟩,
  ⟨["grantha", "gran"],
    ["11300 4 1 8 2 2 2 16 1 7 1 2 1 5 2 9 2 2 2 3 2 1 6 1 5 7 2 7 3 5"]⟩,
  ⟨["khitansmallscript", "kits"],
    ["16FE4 1 1B1B 1D6 29 1"]⟩,
  ⟨["hebrew", "hebr"],
    ["591 37 8 1B 4 6 F528 1A 1 5 1 1 1 2 1 2 1 A"]⟩,
  ⟨["taitham", "lana"],
    ["1A20 3F 1 1D 2 B 6 A 6 E"]⟩,
  ⟨["meroitichieroglyphs", "mero"],
    ["10980 20"]⟩,
  ⟨["lisu"],
    ["A4D0 30 7AB0 1"]⟩,
  ⟨["toto"],
    ["1E290 1F"]⟩,
  ⟨["khudawadi", "sind"],
    ["112B0 3B 5 A"]⟩,
  ⟨["tirhuta", "tirh"],
    ["11480 48 8 A"]⟩,
  ⟨["avestan", "avst"],
    ["10B00 36 3 7"]⟩,
  ⟨["han", "hani"],
    ["2E80 1A 1 59 C D6 2F 1 1 1 19 9 E 4 3C4 19C0 40 5200 5900 16E 2 6A 7508 2 C 7 9009 A6E0 20",
      "111E 2 168E 2 1D31 F 26E 9A2 21E 5E2 134B 5 212A"]⟩,
  ⟨["greek", "grek"],
    ["370 4 1 3 2 4 1 1 4 1 1 1 1 3 1 1 1 14 1 3F E 10 1926 5 32 5 4 5 54 1 140 16 2 6 2 26 2 6 2",
      "8 1 1 1 1 1 1 1 1F 2 35 1 F 1 E 2 6 1 13 2 3 1 9 127 1 8A3E 1 55DA 4F 11 1 D05F 46"]⟩,
  ⟨["gunjalagondi", "gong"],
    ["11D60 6 1 2 1 25 1 2 1 6 7 A"]⟩,
  ⟨["khojki", "khoj"],
    ["11200 12 1 2F"]⟩,
  ⟨["cuneiform", "xsux"],
    ["12000 39A 66 6F 1 5 B C4"]⟩,
  ⟨["egyptianhieroglyphs", "egyp"],
    ["13000 456 A F9B"]⟩,
  ⟨["olduyghur", "ougr"],
    ["10F70 1A"]⟩,
  ⟨["oldsoutharabian", "sarb"],
    ["10A60 20"]⟩,
  ⟨["cyrillic", "cyrl"],
    ["400 85 2 A9 1750 B A0 1 4C 1 1067 20 7840 60 578E 2 E200 3E 21 1"]⟩,
  ⟨["taiviet", "tavt"],
    ["AA80 43 18 5"]⟩,
  ⟨["olditalic", "ital"],
    ["10300 24 9 3"]⟩,
  ⟨["elbasan", "elba"],
    ["10500 28"]⟩,
  ⟨["ethiopic", "ethi"],
    ["1200 49 1 4 2 7 1 1 1 4 2 29 1 4 2 21 1 4 2 7 1 1 1 4 2 F 1 39 1 4 2 43 2 20 3 1A 19E6 17 9",
      "7 1 7 1 7 1 7 1 7 1 7 1 7 1 7 7D22 6 2 6 2 6 9 7 1 7 13CB1 7 1 4 1 2 1 F"]⟩,
  ⟨["tagalog", "tglg"],
    ["1700 16 9 1"]⟩,
  ⟨["ugaritic", "ugar"],
    ["10380 1E 1 1"]⟩,
  ⟨["osage", "osge"],
    ["104B0 24 4 24"]⟩,
  ⟨["duployan", "dupl"],
    ["1BC00 6B 5 D 3 9 7 A 2 4"]⟩,
  ⟨["tifinagh", "tfng"],
    ["2D30 38 7 2 E 1"]⟩,
  ⟨["inscriptionalparthian", "prti"],
    ["10B40 16 2 8"]⟩,
  ⟨["signwriting", "sgnw"],
    ["1D800 28C F 5 1 F"]⟩,
  ⟨["osmanya", "osma"],
    ["10480 1E 2 A"]⟩,
  ⟨["hanunoo", "hano"],
    ["1720 15"]⟩,
  ⟨["nandinagari", "nand"],
    ["119A0 8 2 2E 2 B"]⟩,
  ⟨["ogham", "ogam"],
    ["1680 1D"]⟩,
  ⟨["oldpersian", "xpeo"],
    ["103A0 24 4 E"]⟩,
  ⟨["bhaiksuki", "bhks"],
    ["11C00 9 1 2D 1 E A 1D"]⟩,
  ⟨["makasar", "maka"],
    ["11EE0 19"]⟩,
  ⟨["imperialaramaic", "armi"],
    ["10840 16 1 9"]⟩,
  ⟨["anatolianhieroglyphs", "hluw"],
    ["14400 247"]⟩,
  ⟨["oldturkic", "orkh"],
    ["10C00 49"]⟩,
  ⟨["medefaidrin", "medf"],
    ["16E40 5B"]⟩,
  ⟨["pahawhhmong", "hmng"],
    ["16B00 46 A A 1 7 1 15 5 13"]⟩,
  ⟨["dogra", "dogr"],
    ["11800 3C"]⟩,
  ⟨["armenian", "armn"],
    ["531 26 2 32 2 3 F583 5"]⟩,
  ⟨["sorasompeng", "sora"],
    ["110D0 19 7 A"]⟩,
  ⟨["canadianaboriginal", "cans"],
    ["1400 280 230 46 101BA 10"]⟩,
  ⟨["thaana", "thaa"],
    ["780 32"]⟩,
  ⟨["chorasmian", "chrs"],
    ["10FB0 1C"]⟩,
  ⟨["bassavah", "bass"],
    ["16AD0 1E 2 6"]⟩,
  ⟨["linearb", "linb"],
    ["10000 C 1 1A 1 13 1 2 1 F 2 E 22 7B"]⟩,
  ⟨["myanmar", "mymr"],
    ["1000 A0 9940 1F 61 20 6C50 14"]⟩,
  ⟨["mandaic", "mand"],
    ["840 1C 2 1"]⟩,
  ⟨["marchen", "marc"],
    ["11C70 20 2 16 1 E"]⟩,
  ⟨["glagolitic", "glag"],
    ["2C00 60 1B3A0 7 1 11 2 7 1 2 1 5"]⟩,
  ⟨["vithkuqi", "vith"],
    ["10570 B 1 F 1 7 1 2 1 B 1 F 1 7 1 2"]⟩,
  ⟨["carian", "cari"],
    ["102A0 31"]⟩,
  ⟨["javanese", "java"],
    ["A980 4E 2 A 4 2"]⟩,
  ⟨["sogdian", "sogd"],
    ["10F30 2A"]⟩,
  ⟨["yezidi", "yezi"],
    ["10E80 2A 1 3 2 2"]⟩,
  ⟨["yi", "yiii"],
    ["A000 48D 3 37"]⟩,
  ⟨["oldpermic", "perm"],
    ["10350 2B"]⟩,
  ⟨["kaithi", "kthi"],
    ["11080 43 A 1"]⟩,
  ⟨["sinhala", "sinh"],
    ["D81 3 1 12 3 18 1 9 1 1 2 7 3 1 4 6 1 1 1 8 6 A 2 3 103EC 14"]⟩,
  ⟨["telugu", "telu"],
    ["C00 D 1 3 1 17 1 10 2 9 1 3 1 4 7 2 1 3 1 2 2 4 2 A 7 9"]⟩,
  ⟨["lepcha", "lepc"],
    ["1C00 38 3 F 3 3"]⟩,
  ⟨["brahmi", "brah"],
    ["11000 4E 4 24 9 1"]⟩,
  ⟨["hangul", "hang"],
    ["1100 100 1E2E 2 101 5E 71 1F 41 1F 76E1 1D 283 2BA4 C 17 4 31 27A4 1F 3 6 2 6 2 6 2 3"]⟩,
  ⟨["devanagari", "deva"],
    ["900 51 4 F 2 1A 9F60 20 7200 A"]⟩,
  ⟨["nushu", "nshu"],
    ["16FE1 1 418E 18C"]⟩,
  ⟨["adlam", "adlm"],
    ["1E900 4C 4 A 4 2"]⟩,
  ⟨["wancho", "wcho"],
    ["1E2C0 3A 5 1"]⟩,
  ⟨["tibetan", "tibt"],
    ["F00 48 1 24 4 27 1 24 1 F 1 7 4 2"]⟩,
  ⟨["latin", "latn"],
    ["41 1A 6 1A 2F 1 F 1 5 17 1 1F 1 1C1 27 5 1A1B 26 6 31 5 4 5 D 1 46 41 100 171 1 D 1 10 D 8D",
      "2 6 1 1B 1 11 29 AD7 20 7AA2 66 3 52 14 F 330 2B 1 9 1 4 4F96 7 41A 1A 6 1A 825 6 1 2A 1 9",
      "D745 1F 6 6"]⟩,
  ⟨["lydian", "lydi"],
    ["10920 1A 5 1"]⟩,
  ⟨["qaai", "inherited", "zinh"],
    ["300 70 115 2 1C4 B 1A 1 2E0 4 115B 2E 2 C 1E4 3 1 D 1 7 4 1 6 1 3 2 C6 40 20C 2 C2 21 F39 4",
      "6B 2 CD65 10 10 E 3CF 1 E2 1 105A 1 BBC4 2E 2 17 220 3 11 8 2 7 1E 4 C2F52 F0"]⟩,
  ⟨["tamil", "taml"],
    ["B82 2 1 6 3 3 1 4 3 2 1 1 1 2 3 2 3 3 3 C 4 5 3 3 1 4 2 1 6 1 E 15 113C5 32 D 1"]⟩,
  ⟨["cham"],
    ["AA00 37 9 E 2 A 2 4"]⟩,
  ⟨["hanifirohingya", "rohg"],
    ["10D00 28 8 A"]⟩,
  ⟨["georgian", "geor"],
    ["10A0 26 1 1 5 1 2 2B 1 4 B90 2B 2 3 1040 26 1 1 5 1"]⟩,
  ⟨["tangut", "tang"],
    ["16FE0 1 1F 1B00 200 1F 61 73"]⟩,
  ⟨["multani", "mult"],
    ["11280 7 1 1 1 4 1 F 1 B"]⟩,
  ⟨["mongolian", "mong"],
    ["1800 2 2 1 1 14 6 59 7 2B FDB5 D"]⟩,
  ⟨["oriya", "orya"],
    ["B01 3 1 8 2 2 2 16 1 7 1 2 1 5 2 9 2 2 2 3 7 3 4 2 1 5 2 12"]⟩,
  ⟨["arabic", "arab"],
    ["600 5 1 6 1 E 1 3 1 20 1 A B 1A 1 6C 1 22 50 30 F0 22 5 4B 1 1D F250 1EE 2 90 20 10 70 5 1",
      "87 F63 1F 43 6 8 9 21 6 DF00 4 1 1B 1 2 1 1 2 1 1 A 1 4 1 1 1 1 6 1 4 1 1 1 1 1 1 3 1 2 1 1",
      "2 1 1 1 1 1 1 1 1 1 1 2 1 1 2 4 1 7 1 4 1 4 1 1 1 A 1 11 5 3 1 5 1 11 34 2"]⟩,
  ⟨["hatran", "hatr"],
    ["108E0 13 1 2 5 5"]⟩,
  ⟨["saurashtra", "saur"],
    ["A880 46 8 C"]⟩,
  ⟨["phagspa", "phag"],
    ["A840 38"]⟩,
  ⟨["taile", "tale"],
    ["1950 1E 2 5"]⟩,
  ⟨["cyprominoan", "cpmn"],
    ["12F90 63"]⟩,
  ⟨["oldhungarian", "hung"],
    ["10C80 33 D 33 7 6"]⟩,
  ⟨["soyombo", "soyo"],
    ["11A50 53"]⟩,
  ⟨["cherokee", "cher"],
    ["13A0 56 2 6 9772 50"]⟩,
  ⟨["manichaean", "mani"],
    ["10AC0 27 4 C"]⟩,
  ⟨["phoenician", "phnx"],
    ["10900 1C 3 1"]⟩,
  ⟨["tangsa", "tnsa"],
    ["16A70 4F 1 A"]⟩,
  ⟨["paucinhau", "pauc"],
    ["11AC0 39"]⟩,
  ⟨["lao", "laoo"],
    ["E81 2 1 1 1 5 1 18 1 1 1 17 2 5 1 1 1 7 1 A 2 4"]⟩,
  ⟨["balinese", "bali"],
    ["1B00 4D 1 32"]⟩,
  ⟨["garay", "gara"],
    ["10D40 26 3 1D 8 2"]⟩,
  ⟨["gurungkhema", "gukh"],
    ["16100 3A"]⟩,
  ⟨["kiratrai", "krai"],
    ["16D40 3A"]⟩,
  ⟨["olonal", "onao"],
    ["1E5D0 2B 4 1"]⟩,
  ⟨["sunuwar", "sunu"],
    ["11BC0 22 E A"]⟩,
  ⟨["todhri", "todr"],
    ["105C0 34"]⟩,
  ⟨["tulutigalari", "tutg"],
    ["11380 A 1 1 2 1 1 26 1 A 1 1 2 1 1 4 1 A 1 2 8 2"]⟩,
  ⟨["beriaerfe", "berf"],
    ["16EA0 19 2 19"]⟩,
  ⟨["sidetic", "sidt"],
    ["10940 1A"]⟩,
  ⟨["taiyo", "tayo"],
    ["1E6C0 1F 1 16 8 2"]⟩,
  ⟨["tolongsiki", "tols"],
    ["11DB0 2C 4 A"]⟩]

end Unicode
end RecordFilter
