import Restyle.Text.Category

/-!
# Restyle.Text.WritingSystem

The writing systems that code points belong to.

* `systemOf` — the writing system of a code point.
* `systemsOf` — all writing systems that a code point is used in.
-/

namespace Restyle
namespace Text

/-- Names of the writing systems, the short one first. -/
def systemNames : List (String × List String) :=
  [("Zzzz", ["Unknown"]), ("Adlm", ["Adlam"]), ("Ahom", []), ("Hluw", ["Anatolian_Hieroglyphs"]),
    ("Arab", ["Arabic"]), ("Armn", ["Armenian"]), ("Avst", ["Avestan"]), ("Bali", ["Balinese"]),
    ("Bamu", ["Bamum"]), ("Bass", ["Bassa_Vah"]), ("Batk", ["Batak"]), ("Beng", ["Bengali"]),
    ("Bhks", ["Bhaiksuki"]), ("Bopo", ["Bopomofo"]), ("Brah", ["Brahmi"]), ("Brai", ["Braille"]),
    ("Bugi", ["Buginese"]), ("Buhd", ["Buhid"]), ("Cans", ["Canadian_Aboriginal"]),
    ("Cari", ["Carian"]), ("Aghb", ["Caucasian_Albanian"]), ("Cakm", ["Chakma"]), ("Cham", []),
    ("Cher", ["Cherokee"]), ("Chrs", ["Chorasmian"]), ("Zyyy", ["Common"]),
    ("Copt", ["Coptic", "Qaac"]), ("Xsux", ["Cuneiform"]), ("Cprt", ["Cypriot"]),
    ("Cpmn", ["Cypro_Minoan"]), ("Cyrl", ["Cyrillic"]), ("Dsrt", ["Deseret"]),
    ("Deva", ["Devanagari"]), ("Diak", ["Dives_Akuru"]), ("Dogr", ["Dogra"]),
    ("Dupl", ["Duployan"]), ("Egyp", ["Egyptian_Hieroglyphs"]), ("Elba", ["Elbasan"]),
    ("Elym", ["Elymaic"]), ("Ethi", ["Ethiopic"]), ("Geor", ["Georgian"]), ("Glag", ["Glagolitic"]),
    ("Goth", ["Gothic"]), ("Gran", ["Grantha"]), ("Grek", ["Greek"]), ("Gujr", ["Gujarati"]),
    ("Gong", ["Gunjala_Gondi"]), ("Guru", ["Gurmukhi"]), ("Hani", ["Han"]), ("Hang", ["Hangul"]),
    ("Rohg", ["Hanifi_Rohingya"]), ("Hano", ["Hanunoo"]), ("Hatr", ["Hatran"]),
    ("Hebr", ["Hebrew"]), ("Hira", ["Hiragana"]), ("Armi", ["Imperial_Aramaic"]),
    ("Zinh", ["Inherited", "Qaai"]), ("Phli", ["Inscriptional_Pahlavi"]),
    ("Prti", ["Inscriptional_Parthian"]), ("Java", ["Javanese"]), ("Kthi", ["Kaithi"]),
    ("Knda", ["Kannada"]), ("Kana", ["Katakana"]), ("Kawi", []), ("Kali", ["Kayah_Li"]),
    ("Khar", ["Kharoshthi"]), ("Kits", ["Khitan_Small_Script"]), ("Khmr", ["Khmer"]),
    ("Khoj", ["Khojki"]), ("Sind", ["Khudawadi"]), ("Laoo", ["Lao"]), ("Latn", ["Latin"]),
    ("Lepc", ["Lepcha"]), ("Limb", ["Limbu"]), ("Lina", ["Linear_A"]), ("Linb", ["Linear_B"]),
    ("Lisu", []), ("Lyci", ["Lycian"]), ("Lydi", ["Lydian"]), ("Mahj", ["Mahajani"]),
    ("Maka", ["Makasar"]), ("Mlym", ["Malayalam"]), ("Mand", ["Mandaic"]), ("Mani", ["Manichaean"]),
    ("Marc", ["Marchen"]), ("Gonm", ["Masaram_Gondi"]), ("Medf", ["Medefaidrin"]),
    ("Mtei", ["Meetei_Mayek"]), ("Mend", ["Mende_Kikakui"]), ("Merc", ["Meroitic_Cursive"]),
    ("Mero", ["Meroitic_Hieroglyphs"]), ("Plrd", ["Miao"]), ("Modi", []), ("Mong", ["Mongolian"]),
    ("Mroo", ["Mro"]), ("Mult", ["Multani"]), ("Mymr", ["Myanmar"]), ("Nbat", ["Nabataean"]),
    ("Nagm", ["Nag_Mundari"]), ("Nand", ["Nandinagari"]), ("Talu", ["New_Tai_Lue"]), ("Newa", []),
    ("Nkoo", ["Nko"]), ("Nshu", ["Nushu"]), ("Hmnp", ["Nyiakeng_Puachue_Hmong"]),
    ("Ogam", ["Ogham"]), ("Olck", ["Ol_Chiki"]), ("Hung", ["Old_Hungarian"]),
    ("Ital", ["Old_Italic"]), ("Narb", ["Old_North_Arabian"]), ("Perm", ["Old_Permic"]),
    ("Xpeo", ["Old_Persian"]), ("Sogo", ["Old_Sogdian"]), ("Sarb", ["Old_South_Arabian"]),
    ("Orkh", ["Old_Turkic"]), ("Ougr", ["Old_Uyghur"]), ("Orya", ["Oriya"]), ("Osge", ["Osage"]),
    ("Osma", ["Osmanya"]), ("Hmng", ["Pahawh_Hmong"]), ("Palm", ["Palmyrene"]),
    ("Pauc", ["Pau_Cin_Hau"]), ("Phag", ["Phags_Pa"]), ("Phnx", ["Phoenician"]),
    ("Phlp", ["Psalter_Pahlavi"]), ("Rjng", ["Rejang"]), ("Runr", ["Runic"]),
    ("Samr", ["Samaritan"]), ("Saur", ["Saurashtra"]), ("Shrd", ["Sharada"]), ("Shaw", ["Shavian"]),
    ("Sidd", ["Siddham"]), ("Sgnw", ["SignWriting"]), ("Sinh", ["Sinhala"]), ("Sogd", ["Sogdian"]),
    ("Sora", ["Sora_Sompeng"]), ("Soyo", ["Soyombo"]), ("Sund", ["Sundanese"]),
    ("Sylo", ["Syloti_Nagri"]), ("Syrc", ["Syriac"]), ("Tglg", ["Tagalog"]), ("Tagb", ["Tagbanwa"]),
    ("Tale", ["Tai_Le"]), ("Lana", ["Tai_Tham"]), ("Tavt", ["Tai_Viet"]), ("Takr", ["Takri"]),
    ("Taml", ["Tamil"]), ("Tnsa", ["Tangsa"]), ("Tang", ["Tangut"]), ("Telu", ["Telugu"]),
    ("Thaa", ["Thaana"]), ("Thai", []), ("Tibt", ["Tibetan"]), ("Tfng", ["Tifinagh"]),
    ("Tirh", ["Tirhuta"]), ("Toto", []), ("Ugar", ["Ugaritic"]), ("Vaii", ["Vai"]),
    ("Vith", ["Vithkuqi"]), ("Wcho", ["Wancho"]), ("Wara", ["Warang_Citi"]), ("Yezi", ["Yezidi"]),
    ("Yiii", ["Yi"]), ("Zanb", ["Zanabazar_Square"])]

def systemCodes : List String := systemNames.map (·.1)

/-- Lengths and writing systems of the runs of all code points. -/
def systemLines : List String :=
  ["65Zyyy26Latn6Zyyy26Latn47Zyyy1Latn15Zyyy1Latn5Zyyy23Latn1Zyyy31Latn1Zyyy449Latn39Zyyy5Latn",
    "5Zyyy2Bopo20Zyyy112Zinh4Grek1Zyyy3Grek2Zzzz4Grek1Zyyy1Grek4Zzzz1Grek1Zyyy1Grek1Zyyy3Grek",
    "1Zzzz1Grek1Zzzz20Grek1Zzzz63Grek14Copt16Grek133Cyrl2Zinh169Cyrl1Zzzz38Armn2Zzzz50Armn2Zzzz",
    "3Armn1Zzzz55Hebr8Zzzz27Hebr4Zzzz6Hebr11Zzzz5Arab1Zyyy6Arab1Zyyy14Arab1Zyyy3Arab1Zyyy32Arab",
    "1Zyyy10Arab11Zinh26Arab1Zinh108Arab1Zyyy34Arab14Syrc1Zzzz60Syrc2Zzzz3Syrc48Arab50Thaa",
    "14Zzzz59Nkoo2Zzzz3Nkoo46Samr2Zzzz15Samr1Zzzz28Mand2Zzzz1Mand1Zzzz11Syrc5Zzzz31Arab1Zzzz",
    "2Arab6Zzzz74Arab1Zyyy29Arab81Deva4Zinh15Deva2Zyyy26Deva4Beng1Zzzz8Beng2Zzzz2Beng2Zzzz",
    "22Beng1Zzzz7Beng1Zzzz1Beng3Zzzz4Beng2Zzzz9Beng2Zzzz2Beng2Zzzz4Beng8Zzzz1Beng4Zzzz2Beng",
    "1Zzzz5Beng2Zzzz25Beng2Zzzz3Guru1Zzzz6Guru4Zzzz2Guru2Zzzz22Guru1Zzzz7Guru1Zzzz2Guru1Zzzz",
    "2Guru1Zzzz2Guru2Zzzz1Guru1Zzzz5Guru4Zzzz2Guru2Zzzz3Guru3Zzzz1Guru7Zzzz4Guru1Zzzz1Guru7Zzzz",
    "17Guru10Zzzz3Gujr1Zzzz9Gujr1Zzzz3Gujr1Zzzz22Gujr1Zzzz7Gujr1Zzzz2Gujr1Zzzz5Gujr2Zzzz10Gujr",
    "1Zzzz3Gujr1Zzzz3Gujr2Zzzz1Gujr15Zzzz4Gujr2Zzzz12Gujr7Zzzz7Gujr1Zzzz3Orya1Zzzz8Orya2Zzzz",
    "2Orya2Zzzz22Orya1Zzzz7Orya1Zzzz2Orya1Zzzz5Orya2Zzzz9Orya2Zzzz2Orya2Zzzz3Orya7Zzzz3Orya",
    "4Zzzz2Orya1Zzzz5Orya2Zzzz18Orya10Zzzz2Taml1Zzzz6Taml3Zzzz3Taml1Zzzz4Taml3Zzzz2Taml1Zzzz",
    "1Taml1Zzzz2Taml3Zzzz2Taml3Zzzz3Taml3Zzzz12Taml4Zzzz5Taml3Zzzz3Taml1Zzzz4Taml2Zzzz1Taml",
    "6Zzzz1Taml14Zzzz21Taml5Zzzz13Telu1Zzzz3Telu1Zzzz23Telu1Zzzz16Telu2Zzzz9Telu1Zzzz3Telu1Zzzz",
    "4Telu7Zzzz2Telu1Zzzz3Telu2Zzzz1Telu2Zzzz4Telu2Zzzz10Telu7Zzzz9Telu13Knda1Zzzz3Knda1Zzzz",
    "23Knda1Zzzz10Knda1Zzzz5Knda2Zzzz9Knda1Zzzz3Knda1Zzzz4Knda7Zzzz2Knda6Zzzz2Knda1Zzzz4Knda",
    "2Zzzz10Knda1Zzzz3Knda12Zzzz13Mlym1Zzzz3Mlym1Zzzz51Mlym1Zzzz3Mlym1Zzzz6Mlym4Zzzz16Mlym2Zzzz",
    "26Mlym1Zzzz3Sinh1Zzzz18Sinh3Zzzz24Sinh1Zzzz9Sinh1Zzzz1Sinh2Zzzz7Sinh3Zzzz1Sinh4Zzzz6Sinh",
    "1Zzzz1Sinh1Zzzz8Sinh6Zzzz10Sinh2Zzzz3Sinh12Zzzz58Thai4Zzzz1Zyyy28Thai37Zzzz2Laoo1Zzzz1Laoo",
    "1Zzzz5Laoo1Zzzz24Laoo1Zzzz1Laoo1Zzzz23Laoo2Zzzz5Laoo1Zzzz1Laoo1Zzzz7Laoo1Zzzz10Laoo2Zzzz",
    "4Laoo32Zzzz72Tibt1Zzzz36Tibt4Zzzz39Tibt1Zzzz36Tibt1Zzzz15Tibt1Zzzz7Tibt4Zyyy2Tibt37Zzzz",
    "160Mymr38Geor1Zzzz1Geor5Zzzz1Geor2Zzzz43Geor1Zyyy4Geor256Hang73Ethi1Zzzz4Ethi2Zzzz7Ethi",
    "1Zzzz1Ethi1Zzzz4Ethi2Zzzz41Ethi1Zzzz4Ethi2Zzzz33Ethi1Zzzz4Ethi2Zzzz7Ethi1Zzzz1Ethi1Zzzz",
    "4Ethi2Zzzz15Ethi1Zzzz57Ethi1Zzzz4Ethi2Zzzz67Ethi2Zzzz32Ethi3Zzzz26Ethi6Zzzz86Cher2Zzzz",
    "6Cher2Zzzz640Cans29Ogam3Zzzz75Runr3Zyyy11Runr7Zzzz22Tglg9Zzzz1Tglg21Hano2Zyyy9Zzzz20Buhd",
    "12Zzzz13Tagb1Zzzz3Tagb1Zzzz2Tagb12Zzzz94Khmr2Zzzz10Khmr6Zzzz10Khmr6Zzzz2Mong2Zyyy1Mong",
    "1Zyyy20Mong6Zzzz89Mong7Zzzz43Mong5Zzzz70Cans10Zzzz31Limb1Zzzz12Limb4Zzzz12Limb4Zzzz1Limb",
    "3Zzzz12Limb30Tale2Zzzz5Tale11Zzzz44Talu4Zzzz26Talu6Zzzz11Talu3Zzzz2Talu32Khmr28Bugi2Zzzz",
    "2Bugi63Lana1Zzzz29Lana2Zzzz11Lana6Zzzz10Lana6Zzzz14Lana2Zzzz31Zinh49Zzzz77Bali3Zzzz47Bali",
    "1Zzzz64Sund52Batk8Zzzz4Batk56Lepc3Zzzz15Lepc3Zzzz3Lepc48Olck9Cyrl7Zzzz43Geor2Zzzz3Geor",
    "8Sund8Zzzz3Zinh1Zyyy13Zinh1Zyyy7Zinh4Zyyy1Zinh6Zyyy1Zinh3Zyyy2Zinh1Zyyy5Zzzz38Latn5Grek",
    "1Cyrl49Latn5Grek4Latn5Grek13Latn1Cyrl70Latn1Grek64Zinh256Latn22Grek2Zzzz6Grek2Zzzz38Grek",
    "2Zzzz6Grek2Zzzz8Grek1Zzzz1Grek1Zzzz1Grek1Zzzz1Grek1Zzzz31Grek2Zzzz53Grek1Zzzz15Grek1Zzzz",
    "14Grek2Zzzz6Grek1Zzzz19Grek2Zzzz3Grek1Zzzz9Grek1Zzzz12Zyyy2Zinh87Zyyy1Zzzz11Zyyy1Latn2Zzzz",
    "11Zyyy1Latn15Zyyy1Zzzz13Latn3Zzzz33Zyyy15Zzzz33Zinh15Zzzz38Zyyy1Grek3Zyyy2Latn6Zyyy1Latn",
    "27Zyyy1Latn17Zyyy41Latn3Zyyy4Zzzz663Zyyy25Zzzz11Zyyy21Zzzz928Zyyy256Brai628Zyyy2Zzzz32Zyyy",
    "1Zzzz105Zyyy96Glag32Latn116Copt5Zzzz7Copt38Geor1Zzzz1Geor5Zzzz1Geor2Zzzz56Tfng7Zzzz2Tfng",
    "14Zzzz1Tfng23Ethi9Zzzz7Ethi1Zzzz7Ethi1Zzzz7Ethi1Zzzz7Ethi1Zzzz7Ethi1Zzzz7Ethi1Zzzz7Ethi",
    "1Zzzz7Ethi1Zzzz32Cyrl94Zyyy34Zzzz26Hani1Zzzz89Hani12Zzzz214Hani26Zzzz12Zyyy4Zzzz5Zyyy1Hani",
    "1Zyyy1Hani25Zyyy9Hani4Zinh2Hang8Zyyy4Hani4Zyyy1Zzzz86Hira2Zzzz2Zinh2Zyyy3Hira1Zyyy90Kana",
    "2Zyyy3Kana5Zzzz43Bopo1Zzzz94Hang1Zzzz16Zyyy32Bopo36Zyyy12Zzzz16Kana31Hang1Zzzz64Zyyy31Hang",
    "81Zyyy47Kana1Zyyy88Kana168Zyyy6592Hani64Zyyy20992Hani1165Yiii3Zzzz55Yiii9Zzzz48Lisu300Vaii",
    "20Zzzz96Cyrl88Bamu8Zzzz34Zyyy102Latn3Zyyy64Latn5Zzzz2Latn1Zzzz1Latn1Zzzz5Latn24Zzzz14Latn",
    "45Sylo3Zzzz10Zyyy6Zzzz56Phag8Zzzz70Saur8Zzzz12Saur6Zzzz32Deva46Kali1Zyyy1Kali36Rjng11Zzzz",
    "1Rjng29Hang3Zzzz78Java1Zzzz1Zyyy10Java4Zzzz2Java31Mymr1Zzzz55Cham9Zzzz14Cham2Zzzz10Cham",
    "2Zzzz4Cham32Mymr67Tavt24Zzzz5Tavt23Mtei10Zzzz6Ethi2Zzzz6Ethi2Zzzz6Ethi9Zzzz7Ethi1Zzzz7Ethi",
    "1Zzzz43Latn1Zyyy9Latn1Grek4Latn2Zyyy4Zzzz80Cher46Mtei2Zzzz10Mtei6Zzzz11172Hang12Zzzz23Hang",
    "4Zzzz49Hang8452Zzzz366Hani2Zzzz106Hani38Zzzz7Latn12Zzzz5Armn5Zzzz26Hebr1Zzzz5Hebr1Zzzz",
    "1Hebr1Zzzz2Hebr1Zzzz2Hebr1Zzzz10Hebr115Arab16Zzzz363Arab2Zyyy80Arab2Zzzz54Arab7Zzzz1Arab",
    "32Zzzz16Arab16Zinh10Zyyy6Zzzz14Zinh2Cyrl35Zyyy1Zzzz19Zyyy1Zzzz4Zyyy4Zzzz5Arab1Zzzz135Arab",
    "2Zzzz1Zyyy1Zzzz32Zyyy26Latn6Zyyy26Latn11Zyyy10Kana1Zyyy45Kana2Zyyy31Hang3Zzzz6Hang2Zzzz",
    "6Hang2Zzzz6Hang2Zzzz3Hang3Zzzz7Zyyy1Zzzz7Zyyy10Zzzz5Zyyy2Zzzz12Linb1Zzzz26Linb1Zzzz19Linb",
    "1Zzzz2Linb1Zzzz15Linb2Zzzz14Linb34Zzzz123Linb5Zzzz3Zyyy4Zzzz45Zyyy3Zzzz9Zyyy79Grek1Zzzz",
    "13Zyyy3Zzzz1Grek47Zzzz45Zyyy1Zinh130Zzzz29Lyci3Zzzz49Cari15Zzzz1Zinh27Zyyy4Zzzz36Ital9Zzzz",
    "3Ital27Goth5Zzzz43Perm5Zzzz30Ugar1Zzzz1Ugar36Xpeo4Zzzz14Xpeo42Zzzz80Dsrt48Shaw30Osma2Zzzz",
    "10Osma6Zzzz36Osge4Zzzz36Osge4Zzzz40Elba8Zzzz52Aghb11Zzzz1Aghb11Vith1Zzzz15Vith1Zzzz7Vith",
    "1Zzzz2Vith1Zzzz11Vith1Zzzz15Vith1Zzzz7Vith1Zzzz2Vith67Zzzz311Lina9Zzzz22Lina10Zzzz8Lina",
    "24Zzzz6Latn1Zzzz42Latn1Zzzz9Latn69Zzzz6Cprt2Zzzz1Cprt1Zzzz44Cprt1Zzzz2Cprt3Zzzz1Cprt2Zzzz",
    "1Cprt22Armi1Zzzz9Armi32Palm31Nbat8Zzzz9Nbat48Zzzz19Hatr1Zzzz2Hatr5Zzzz5Hatr28Phnx3Zzzz",
    "1Phnx26Lydi5Zzzz1Lydi64Zzzz32Mero24Merc4Zzzz20Merc2Zzzz46Merc4Khar1Zzzz2Khar5Zzzz8Khar",
    "1Zzzz3Khar1Zzzz29Khar2Zzzz3Khar4Zzzz10Khar7Zzzz9Khar7Zzzz32Sarb32Narb32Zzzz39Mani4Zzzz",
    "12Mani9Zzzz54Avst3Zzzz7Avst22Prti2Zzzz8Prti19Phli5Zzzz8Phli18Phlp7Zzzz4Phlp12Zzzz7Phlp",
    "80Zzzz73Orkh55Zzzz51Hung13Zzzz51Hung7Zzzz6Hung40Rohg8Zzzz10Rohg294Zzzz31Arab1Zzzz42Yezi",
    "1Zzzz3Yezi2Zzzz2Yezi75Zzzz3Arab40Sogo8Zzzz42Sogd22Zzzz26Ougr38Zzzz28Chrs20Zzzz23Elym9Zzzz",
    "78Brah4Zzzz36Brah9Zzzz1Brah67Kthi10Zzzz1Kthi2Zzzz25Sora7Zzzz10Sora6Zzzz53Cakm1Zzzz18Cakm",
    "8Zzzz39Mahj9Zzzz96Shrd1Zzzz20Sinh11Zzzz18Khoj1Zzzz47Khoj62Zzzz7Mult1Zzzz1Mult1Zzzz4Mult",
    "1Zzzz15Mult1Zzzz11Mult6Zzzz59Sind5Zzzz10Sind6Zzzz4Gran1Zzzz8Gran2Zzzz2Gran2Zzzz22Gran1Zzzz",
    "7Gran1Zzzz2Gran1Zzzz5Gran1Zzzz1Zinh9Gran2Zzzz2Gran2Zzzz3Gran2Zzzz1Gran6Zzzz1Gran5Zzzz7Gran",
    "2Zzzz7Gran3Zzzz5Gran139Zzzz92Newa1Zzzz5Newa30Zzzz72Tirh8Zzzz10Tirh166Zzzz54Sidd2Zzzz38Sidd",
    "34Zzzz69Modi11Zzzz10Modi6Zzzz13Mong19Zzzz58Takr6Zzzz10Takr54Zzzz27Ahom2Zzzz15Ahom4Zzzz",
    "23Ahom185Zzzz60Dogr100Zzzz83Wara12Zzzz1Wara7Diak2Zzzz1Diak2Zzzz8Diak1Zzzz2Diak1Zzzz30Diak",
    "1Zzzz2Diak2Zzzz12Diak9Zzzz10Diak70Zzzz8Nand2Zzzz46Nand2Zzzz11Nand27Zzzz72Zanb8Zzzz83Soyo",
    "13Zzzz16Cans57Pauc7Zzzz10Deva246Zzzz9Bhks1Zzzz45Bhks1Zzzz14Bhks10Zzzz29Bhks3Zzzz32Marc",
    "2Zzzz22Marc1Zzzz14Marc73Zzzz7Gonm1Zzzz2Gonm1Zzzz44Gonm3Zzzz1Gonm1Zzzz2Gonm1Zzzz9Gonm8Zzzz",
    "10Gonm6Zzzz6Gong1Zzzz2Gong1Zzzz37Gong1Zzzz2Gong1Zzzz6Gong7Zzzz10Gong310Zzzz25Maka7Zzzz",
    "17Kawi1Zzzz41Kawi3Zzzz28Kawi86Zzzz1Lisu15Zzzz50Taml13Zzzz1Taml922Xsux102Zzzz111Xsux1Zzzz",
    "5Xsux11Zzzz196Xsux2636Zzzz99Cpmn13Zzzz1110Egyp4010Zzzz583Hluw8633Zzzz569Bamu7Zzzz31Mroo",
    "1Zzzz10Mroo4Zzzz2Mroo79Tnsa1Zzzz10Tnsa6Zzzz30Bass2Zzzz6Bass10Zzzz70Hmng10Zzzz10Hmng1Zzzz",
    "7Hmng1Zzzz21Hmng5Zzzz19Hmng688Zzzz91Medf101Zzzz75Plrd4Zzzz57Plrd7Zzzz17Plrd64Zzzz1Tang",
    "1Nshu2Hani1Kits11Zzzz2Hani14Zzzz6136Tang8Zzzz768Tang470Kits42Zzzz9Tang8935Zzzz4Kana1Zzzz",
    "7Kana1Zzzz2Kana1Zzzz1Kana287Hira3Kana15Zzzz1Hira29Zzzz3Hira2Zzzz1Kana14Zzzz4Kana8Zzzz",
    "396Nshu2308Zzzz107Dupl5Zzzz13Dupl3Zzzz9Dupl7Zzzz10Dupl2Zzzz4Dupl4Zyyy4700Zzzz46Zinh2Zzzz",
    "23Zinh9Zzzz116Zyyy60Zzzz246Zyyy10Zzzz39Zyyy2Zzzz62Zyyy3Zinh17Zyyy8Zinh2Zyyy7Zinh30Zyyy",
    "4Zinh61Zyyy21Zzzz70Grek122Zzzz20Zyyy12Zzzz20Zyyy12Zzzz87Zyyy9Zzzz25Zyyy135Zzzz85Zyyy1Zzzz",
    "71Zyyy1Zzzz2Zyyy2Zzzz1Zyyy2Zzzz2Zyyy2Zzzz4Zyyy1Zzzz12Zyyy1Zzzz1Zyyy1Zzzz7Zyyy1Zzzz65Zyyy",
    "1Zzzz4Zyyy2Zzzz8Zyyy1Zzzz7Zyyy1Zzzz28Zyyy1Zzzz4Zyyy1Zzzz5Zyyy1Zzzz1Zyyy3Zzzz7Zyyy1Zzzz",
    "340Zyyy2Zzzz292Zyyy2Zzzz50Zyyy652Sgnw15Zzzz5Sgnw1Zzzz15Sgnw1104Zzzz31Latn6Zzzz6Latn213Zzzz",
    "7Glag1Zzzz17Glag2Zzzz7Glag1Zzzz2Glag1Zzzz5Glag5Zzzz62Cyrl33Zzzz1Cyrl112Zzzz45Hmnp3Zzzz",
    "14Hmnp2Zzzz10Hmnp4Zzzz2Hmnp320Zzzz31Toto17Zzzz58Wcho5Zzzz1Wcho464Zzzz42Nagm742Zzzz7Ethi",
    "1Zzzz4Ethi1Zzzz2Ethi1Zzzz15Ethi1Zzzz197Mend2Zzzz16Mend41Zzzz76Adlm4Zzzz10Adlm4Zzzz2Adlm",
    "785Zzzz68Zyyy76Zzzz61Zyyy194Zzzz4Arab1Zzzz27Arab1Zzzz2Arab1Zzzz1Arab2Zzzz1Arab1Zzzz10Arab",
    "1Zzzz4Arab1Zzzz1Arab1Zzzz1Arab6Zzzz1Arab4Zzzz1Arab1Zzzz1Arab1Zzzz1Arab1Zzzz3Arab1Zzzz2Arab",
    "1Zzzz1Arab2Zzzz1Arab1Zzzz1Arab1Zzzz1Arab1Zzzz1Arab1Zzzz1Arab1Zzzz2Arab1Zzzz1Arab2Zzzz4Arab",
    "1Zzzz7Arab1Zzzz4Arab1Zzzz4Arab1Zzzz1Arab1Zzzz10Arab1Zzzz17Arab5Zzzz3Arab1Zzzz5Arab1Zzzz",
    "17Arab52Zzzz2Arab270Zzzz44Zyyy4Zzzz100Zyyy12Zzzz15Zyyy2Zzzz15Zyyy1Zzzz15Zyyy1Zzzz37Zyyy",
    "10Zzzz174Zyyy56Zzzz26Zyyy1Hira2Zyyy13Zzzz44Zyyy4Zzzz9Zyyy7Zzzz2Zyyy14Zzzz6Zyyy154Zzzz",
    "984Zyyy4Zzzz17Zyyy3Zzzz13Zyyy3Zzzz119Zyyy4Zzzz95Zyyy6Zzzz12Zyyy4Zzzz1Zyyy15Zzzz12Zyyy4Zzzz",
    "56Zyyy8Zzzz10Zyyy6Zzzz40Zyyy8Zzzz30Zyyy2Zzzz2Zyyy78Zzzz340Zyyy12Zzzz14Zyyy2Zzzz13Zyyy3Zzzz",
    "9Zyyy7Zzzz46Zyyy1Zzzz7Zyyy8Zzzz14Zyyy4Zzzz9Zyyy7Zzzz9Zyyy7Zzzz147Zyyy1Zzzz55Zyyy37Zzzz",
    "10Zyyy1030Zzzz42720Hani32Zzzz4154Hani6Zzzz222Hani2Zzzz5762Hani14Zzzz7473Hani3103Zzzz",
    "542Hani1506Zzzz4939Hani5Zzzz4192Hani711761Zzzz1Zyyy30Zzzz96Zyyy128Zzzz240Zinh196112Zzzz"]

def systemRuns : Array Nat := runsOf systemCodes 256 systemLines

/-- Ranges of codes that are used in other writing systems than the one that they belong to. -/
def sharedRanges : List (Nat × Nat × List String) :=
  [(0x342, 0x342, ["Grek"]), (0x345, 0x345, ["Grek"]), (0x363, 0x36f, ["Latn"]),
    (0x483, 0x483, ["Cyrl", "Perm"]), (0x484, 0x484, ["Cyrl", "Glag"]),
    (0x485, 0x486, ["Cyrl", "Latn"]), (0x487, 0x487, ["Cyrl", "Glag"]),
    (0x60c, 0x60c, ["Arab", "Rohg", "Nkoo", "Syrc", "Thaa", "Yezi"]),
    (0x61b, 0x61b, ["Arab", "Rohg", "Nkoo", "Syrc", "Thaa", "Yezi"]),
    (0x61c, 0x61c, ["Arab", "Syrc", "Thaa"]),
    (0x61f, 0x61f, ["Adlm", "Arab", "Rohg", "Nkoo", "Syrc", "Thaa", "Yezi"]),
    (0x640, 0x640, ["Adlm", "Arab", "Rohg", "Mand", "Mani", "Ougr", "Phlp", "Sogd", "Syrc"]),
    (0x64b, 0x655, ["Arab", "Syrc"]), (0x660, 0x669, ["Arab", "Thaa", "Yezi"]),
    (0x670, 0x670, ["Arab", "Syrc"]), (0x6d4, 0x6d4, ["Arab", "Rohg"]),
    (0x951, 0x951, ["Beng", "Deva", "Gran", "Gujr", "Guru", "Knda", "Latn", "Mlym", "Orya", "Shrd", "Taml", "Telu", "Tirh"]),
    (0x952, 0x952, ["Beng", "Deva", "Gran", "Gujr", "Guru", "Knda", "Latn", "Mlym", "Orya", "Taml", "Telu", "Tirh"]),
    (0x964, 0x964, ["Beng", "Deva", "Dogr", "Gran", "Gujr", "Gong", "Guru", "Knda", "Sind", "Mahj", "Mlym", "Gonm", "Nand", "Orya", "Sinh", "Sylo", "Takr", "Taml", "Telu", "Tirh"]),
    (0x965, 0x965, ["Beng", "Deva", "Dogr", "Gran", "Gujr", "Gong", "Guru", "Knda", "Sind", "Limb", "Mahj", "Mlym", "Gonm", "Nand", "Orya", "Sinh", "Sylo", "Takr", "Taml", "Telu", "Tirh"]),
    (0x966, 0x96f, ["Deva", "Dogr", "Kthi", "Mahj"]), (0x9e6, 0x9ef, ["Beng", "Cakm", "Sylo"]),
    (0xa66, 0xa6f, ["Guru", "Mult"]), (0xae6, 0xaef, ["Gujr", "Khoj"]),
    (0xbe6, 0xbf3, ["Gran", "Taml"]), (0xce6, 0xcef, ["Knda", "Nand"]),
    (0x1040, 0x1049, ["Cakm", "Mymr", "Tale"]), (0x10fb, 0x10fb, ["Geor", "Latn"]),
    (0x1735, 0x1736, ["Buhd", "Hano", "Tglg", "Tagb"]), (0x1802, 0x1803, ["Mong", "Phag"]),
    (0x1805, 0x1805, ["Mong", "Phag"]), (0x1cd0, 0x1cd0, ["Beng", "Deva", "Gran", "Knda"]),
    (0x1cd1, 0x1cd1, ["Deva"]), (0x1cd2, 0x1cd2, ["Beng", "Deva", "Gran", "Knda"]),
    (0x1cd3, 0x1cd3, ["Deva", "Gran"]), (0x1cd4, 0x1cd4, ["Deva"]),
    (0x1cd5, 0x1cd6, ["Beng", "Deva"]), (0x1cd7, 0x1cd7, ["Deva", "Shrd"]),
    (0x1cd8, 0x1cd8, ["Beng", "Deva"]), (0x1cd9, 0x1cd9, ["Deva", "Shrd"]),
    (0x1cda, 0x1cda, ["Deva", "Knda", "Mlym", "Orya", "Taml", "Telu"]), (0x1cdb, 0x1cdb, ["Deva"]),
    (0x1cdc, 0x1cdd, ["Deva", "Shrd"]), (0x1cde, 0x1cdf, ["Deva"]),
    (0x1ce0, 0x1ce0, ["Deva", "Shrd"]), (0x1ce1, 0x1ce1, ["Beng", "Deva"]),
    (0x1ce2, 0x1ce8, ["Deva"]), (0x1ce9, 0x1ce9, ["Deva", "Nand"]),
    (0x1cea, 0x1cea, ["Beng", "Deva"]), (0x1ceb, 0x1cec, ["Deva"]),
    (0x1ced, 0x1ced, ["Beng", "Deva"]), (0x1cee, 0x1cf1, ["Deva"]),
    (0x1cf2, 0x1cf2, ["Beng", "Deva", "Gran", "Knda", "Nand", "Orya", "Telu", "Tirh"]),
    (0x1cf3, 0x1cf3, ["Deva", "Gran"]), (0x1cf4, 0x1cf4, ["Deva", "Gran", "Knda"]),
    (0x1cf5, 0x1cf6, ["Beng", "Deva"]), (0x1cf7, 0x1cf7, ["Beng"]),
    (0x1cf8, 0x1cf9, ["Deva", "Gran"]), (0x1cfa, 0x1cfa, ["Nand"]), (0x1dc0, 0x1dc1, ["Grek"]),
    (0x1df8, 0x1df8, ["Cyrl", "Syrc"]), (0x1dfa, 0x1dfa, ["Syrc"]),
    (0x202f, 0x202f, ["Latn", "Mong"]), (0x20f0, 0x20f0, ["Deva", "Gran", "Latn"]),
    (0x2e43, 0x2e43, ["Cyrl", "Glag"]),
    (0x3001, 0x3002, ["Bopo", "Hani", "Hang", "Hira", "Kana", "Yiii"]),
    (0x3003, 0x3003, ["Bopo", "Hani", "Hang", "Hira", "Kana"]), (0x3006, 0x3006, ["Hani"]),
    (0x3008, 0x3011, ["Bopo", "Hani", "Hang", "Hira", "Kana", "Yiii"]),
    (0x3013, 0x3013, ["Bopo", "Hani", "Hang", "Hira", "Kana"]),
    (0x3014, 0x301b, ["Bopo", "Hani", "Hang", "Hira", "Kana", "Yiii"]),
    (0x301c, 0x301f, ["Bopo", "Hani", "Hang", "Hira", "Kana"]), (0x302a, 0x302d, ["Bopo", "Hani"]),
    (0x3030, 0x3030, ["Bopo", "Hani", "Hang", "Hira", "Kana"]), (0x3031, 0x3035, ["Hira", "Kana"]),
    (0x3037, 0x3037, ["Bopo", "Hani", "Hang", "Hira", "Kana"]),
    (0x303c, 0x303d, ["Hani", "Hira", "Kana"]), (0x303e, 0x303f, ["Hani"]),
    (0x3099, 0x309c, ["Hira", "Kana"]), (0x30a0, 0x30a0, ["Hira", "Kana"]),
    (0x30fb, 0x30fb, ["Bopo", "Hani", "Hang", "Hira", "Kana", "Yiii"]),
    (0x30fc, 0x30fc, ["Hira", "Kana"]), (0x3190, 0x319f, ["Hani"]), (0x31c0, 0x31e3, ["Hani"]),
    (0x3220, 0x3247, ["Hani"]), (0x3280, 0x32b0, ["Hani"]), (0x32c0, 0x32cb, ["Hani"]),
    (0x32ff, 0x32ff, ["Hani"]), (0x3358, 0x3370, ["Hani"]), (0x337b, 0x337f, ["Hani"]),
    (0x33e0, 0x33fe, ["Hani"]), (0xa66f, 0xa66f, ["Cyrl", "Glag"]),
    (0xa700, 0xa707, ["Hani", "Latn"]),
    (0xa830, 0xa832, ["Deva", "Dogr", "Gujr", "Guru", "Kthi", "Knda", "Khoj", "Sind", "Mahj", "Mlym", "Modi", "Nand", "Takr", "Tirh"]),
    (0xa833, 0xa835, ["Deva", "Dogr", "Gujr", "Guru", "Kthi", "Knda", "Khoj", "Sind", "Mahj", "Modi", "Nand", "Takr", "Tirh"]),
    (0xa836, 0xa839, ["Deva", "Dogr", "Gujr", "Guru", "Kthi", "Khoj", "Sind", "Mahj", "Modi", "Takr", "Tirh"]),
    (0xa8f1, 0xa8f1, ["Beng", "Deva"]), (0xa8f3, 0xa8f3, ["Deva", "Taml"]),
    (0xa92e, 0xa92e, ["Kali", "Latn", "Mymr"]), (0xa9cf, 0xa9cf, ["Bugi", "Java"]),
    (0xfd3e, 0xfd3f, ["Arab", "Nkoo"]), (0xfdf2, 0xfdf2, ["Arab", "Thaa"]),
    (0xfdfd, 0xfdfd, ["Arab", "Thaa"]), (0xfe45, 0xfe46, ["Bopo", "Hani", "Hang", "Hira", "Kana"]),
    (0xff61, 0xff65, ["Bopo", "Hani", "Hang", "Hira", "Kana", "Yiii"]),
    (0xff70, 0xff70, ["Hira", "Kana"]), (0xff9e, 0xff9f, ["Hira", "Kana"]),
    (0x10100, 0x10101, ["Cprt", "Cpmn", "Linb"]), (0x10102, 0x10102, ["Cprt", "Linb"]),
    (0x10107, 0x10133, ["Cprt", "Lina", "Linb"]), (0x10137, 0x1013f, ["Cprt", "Linb"]),
    (0x102e0, 0x102fb, ["Arab", "Copt"]), (0x10af2, 0x10af2, ["Mani", "Ougr"]),
    (0x11301, 0x11301, ["Gran", "Taml"]), (0x11303, 0x11303, ["Gran", "Taml"]),
    (0x1133b, 0x1133c, ["Gran", "Taml"]), (0x11fd0, 0x11fd1, ["Gran", "Taml"]),
    (0x11fd3, 0x11fd3, ["Gran", "Taml"]), (0x1bca0, 0x1bca3, ["Dupl"]),
    (0x1d360, 0x1d371, ["Hani"]), (0x1f250, 0x1f251, ["Hani"])]

/-- The writing system of a code point, by its place among the names. -/
def systemOf (code : Nat) : Nat := runValue systemRuns 256 code

/-- The writing systems that a code point is used in. -/
def systemsOf (code : Nat) : List Nat :=
  match sharedRanges.find? fun (first, last, _) => first ≤ code && code ≤ last with
  | some (_, _, short) => short.map systemCodes.idxOf
  | none => [systemOf code]

/-- The place of a writing system by a name. -/
def systemNamed? (name : String) : Option Nat :=
  systemNames.findIdx? fun (short, others) => short == name || others.contains name

end Text
end Restyle
