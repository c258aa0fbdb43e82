import Architecture.Unicode.Runs

/-!
Scripts of code points, and the several scripts in which some of them are used.
-/

namespace Architecture.Unicode

def scriptRuns : List String :=
  ["Zyyy65Latn26Zyyy6Latn26Zyyy47Latn1Zyyy15Latn1Zyyy5Latn23Zyyy1Latn31Zyyy1Latn449Zyyy39Latn5",
    "Zyyy5Bopo2Zyyy20Zinh112Grek4Zyyy1Grek3Zzzz2Grek4Zyyy1Grek1Zzzz4Grek1Zyyy1Grek1Zyyy1Grek3Zz",
    "zz1Grek1Zzzz1Grek20Zzzz1Grek63Copt14Grek16Cyrl133Zinh2Cyrl169Zzzz1Armn38Zzzz2Armn50Zzzz2Ar",
    "mn3Zzzz1Hebr55Zzzz8Hebr27Zzzz4Hebr6Zzzz11Arab5Zyyy1Arab6Zyyy1Arab14Zyyy1Arab3Zyyy1Arab32Zy",
    "yy1Arab10Zinh11Arab26Zinh1Arab108Zyyy1Arab34Syrc14Zzzz1Syrc60Zzzz2Syrc3Arab48Thaa50Zzzz14N",
    "koo59Zzzz2Nkoo3Samr46Zzzz2Samr15Zzzz1Mand28Zzzz2Mand1Zzzz1Syrc11Zzzz5Arab31Zzzz1Arab2Zzzz6",
    "Arab74Zyyy1Arab29Deva81Zinh4Deva15Zyyy2Deva26Beng4Zzzz1Beng8Zzzz2Beng2Zzzz2Beng22Zzzz1Beng",
    "7Zzzz1Beng1Zzzz3Beng4Zzzz2Beng9Zzzz2Beng2Zzzz2Beng4Zzzz8Beng1Zzzz4Beng2Zzzz1Beng5Zzzz2Beng",
    "25Zzzz2Guru3Zzzz1Guru6Zzzz4Guru2Zzzz2Guru22Zzzz1Guru7Zzzz1Guru2Zzzz1Guru2Zzzz1Guru2Zzzz2Gu",
    "ru1Zzzz1Guru5Zzzz4Guru2Zzzz2Guru3Zzzz3Guru1Zzzz7Guru4Zzzz1Guru1Zzzz7Guru17Zzzz10Gujr3Zzzz1",
    "Gujr9Zzzz1Gujr3Zzzz1Gujr22Zzzz1Gujr7Zzzz1Gujr2Zzzz1Gujr5Zzzz2Gujr10Zzzz1Gujr3Zzzz1Gujr3Zzz",
    "z2Gujr1Zzzz15Gujr4Zzzz2Gujr12Zzzz7Gujr7Zzzz1Orya3Zzzz1Orya8Zzzz2Orya2Zzzz2Orya22Zzzz1Orya7",
    "Zzzz1Orya2Zzzz1Orya5Zzzz2Orya9Zzzz2Orya2Zzzz2Orya3Zzzz7Orya3Zzzz4Orya2Zzzz1Orya5Zzzz2Orya1",
    "8Zzzz10Taml2Zzzz1Taml6Zzzz3Taml3Zzzz1Taml4Zzzz3Taml2Zzzz1Taml1Zzzz1Taml2Zzzz3Taml2Zzzz3Tam",
    "l3Zzzz3Taml12Zzzz4Taml5Zzzz3Taml3Zzzz1Taml4Zzzz2Taml1Zzzz6Taml1Zzzz14Taml21Zzzz5Telu13Zzzz",
    "1Telu3Zzzz1Telu23Zzzz1Telu16Zzzz2Telu9Zzzz1Telu3Zzzz1Telu4Zzzz7Telu2Zzzz1Telu3Zzzz2Telu1Zz",
    "zz2Telu4Zzzz2Telu10Zzzz7Telu9Knda13Zzzz1Knda3Zzzz1Knda23Zzzz1Knda10Zzzz1Knda5Zzzz2Knda9Zzz",
    "z1Knda3Zzzz1Knda4Zzzz7Knda2Zzzz6Knda2Zzzz1Knda4Zzzz2Knda10Zzzz1Knda3Zzzz12Mlym13Zzzz1Mlym3",
    "Zzzz1Mlym51Zzzz1Mlym3Zzzz1Mlym6Zzzz4Mlym16Zzzz2Mlym26Zzzz1Sinh3Zzzz1Sinh18Zzzz3Sinh24Zzzz1",
    "Sinh9Zzzz1Sinh1Zzzz2Sinh7Zzzz3Sinh1Zzzz4Sinh6Zzzz1Sinh1Zzzz1Sinh8Zzzz6Sinh10Zzzz2Sinh3Zzzz",
    "12Thai58Zzzz4Zyyy1Thai28Zzzz37Laoo2Zzzz1Laoo1Zzzz1Laoo5Zzzz1Laoo24Zzzz1Laoo1Zzzz1Laoo23Zzz",
    "z2Laoo5Zzzz1Laoo1Zzzz1Laoo7Zzzz1Laoo10Zzzz2Laoo4Zzzz32Tibt72Zzzz1Tibt36Zzzz4Tibt39Zzzz1Tib",
    "t36Zzzz1Tibt15Zzzz1Tibt7Zyyy4Tibt2Zzzz37Mymr160Geor38Zzzz1Geor1Zzzz5Geor1Zzzz2Geor43Zyyy1G",
    "eor4Hang256Ethi73Zzzz1Ethi4Zzzz2Ethi7Zzzz1Ethi1Zzzz1Ethi4Zzzz2Ethi41Zzzz1Ethi4Zzzz2Ethi33Z",
    "zzz1Ethi4Zzzz2Ethi7Zzzz1Ethi1Zzzz1Ethi4Zzzz2Ethi15Zzzz1Ethi57Zzzz1Ethi4Zzzz2Ethi67Zzzz2Eth",
    "i32Zzzz3Ethi26Zzzz6Cher86Zzzz2Cher6Zzzz2Cans640Ogam29Zzzz3Runr75Zyyy3Runr11Zzzz7Tglg22Zzzz",
    "9Tglg1Hano21Zyyy2Zzzz9Buhd20Zzzz12Tagb13Zzzz1Tagb3Zzzz1Tagb2Zzzz12Khmr94Zzzz2Khmr10Zzzz6Kh",
    "mr10Zzzz6Mong2Zyyy2Mong1Zyyy1Mong20Zzzz6Mong89Zzzz7Mong43Zzzz5Cans70Zzzz10Limb31Zzzz1Limb1",
    "2Zzzz4Limb12Zzzz4Limb1Zzzz3Limb12Tale30Zzzz2Tale5Zzzz11Talu44Zzzz4Talu26Zzzz6Talu11Zzzz3Ta",
    "lu2Khmr32Bugi28Zzzz2Bugi2Lana63Zzzz1Lana29Zzzz2Lana11Zzzz6Lana10Zzzz6Lana14Zzzz2Zinh31Zzzz",
    "49Bali77Zzzz3Bali47Zzzz1Sund64Batk52Zzzz8Batk4Lepc56Zzzz3Lepc15Zzzz3Lepc3Olck48Cyrl9Zzzz7G",
    "eor43Zzzz2Geor3Sund8Zzzz8Zinh3Zyyy1Zinh13Zyyy1Zinh7Zyyy4Zinh1Zyyy6Zinh1Zyyy3Zinh2Zyyy1Zzzz",
    "5Latn38Grek5Cyrl1Latn49Grek5Latn4Grek5Latn13Cyrl1Latn70Grek1Zinh64Latn256Grek22Zzzz2Grek6Z",
    "zzz2Grek38Zzzz2Grek6Zzzz2Grek8Zzzz1Grek1Zzzz1Grek1Zzzz1Grek1Zzzz1Grek31Zzzz2Grek53Zzzz1Gre",
    "k15Zzzz1Grek14Zzzz2Grek6Zzzz1Grek19Zzzz2Grek3Zzzz1Grek9Zzzz1Zyyy12Zinh2Zyyy87Zzzz1Zyyy11La",
    "tn1Zzzz2Zyyy11Latn1Zyyy15Zzzz1Latn13Zzzz3Zyyy33Zzzz15Zinh33Zzzz15Zyyy38Grek1Zyyy3Latn2Zyyy",
    "6Latn1Zyyy27Latn1Zyyy17Latn41Zyyy3Zzzz4Zyyy663Zzzz25Zyyy11Zzzz21Zyyy928Brai256Zyyy628Zzzz2",
    "Zyyy32Zzzz1Zyyy105Glag96Latn32Copt116Zzzz5Copt7Geor38Zzzz1Geor1Zzzz5Geor1Zzzz2Tfng56Zzzz7T",
    "fng2Zzzz14Tfng1Ethi23Zzzz9Ethi7Zzzz1Ethi7Zzzz1Ethi7Zzzz1Ethi7Zzzz1Ethi7Zzzz1Ethi7Zzzz1Ethi",
    "7Zzzz1Ethi7Zzzz1Cyrl32Zyyy94Zzzz34Hani26Zzzz1Hani89Zzzz12Hani214Zzzz26Zyyy12Zzzz4Zyyy5Hani",
    "1Zyyy1Hani1Zyyy25Hani9Zinh4Hang2Zyyy8Hani4Zyyy4Zzzz1Hira86Zzzz2Zinh2Zyyy2Hira3Zyyy1Kana90Z",
    "yyy2Kana3Zzzz5Bopo43Zzzz1Hang94Zzzz1Zyyy16Bopo32Zyyy36Zzzz12Kana16Hang31Zzzz1Zyyy64Hang31Z",
    "yyy81Kana47Zyyy1Kana88Zyyy168Hani6592Zyyy64Hani20992Yiii1165Zzzz3Yiii55Zzzz9Lisu48Vaii300Z",
    "zzz20Cyrl96Bamu88Zzzz8Zyyy34Latn102Zyyy3Latn64Zzzz5Latn2Zzzz1Latn1Zzzz1Latn5Zzzz24Latn14Sy",
    "lo45Zzzz3Zyyy10Zzzz6Phag56Zzzz8Saur70Zzzz8Saur12Zzzz6Deva32Kali46Zyyy1Kali1Rjng36Zzzz11Rjn",
    "g1Hang29Zzzz3Java78Zzzz1Zyyy1Java10Zzzz4Java2Mymr31Zzzz1Cham55Zzzz9Cham14Zzzz2Cham10Zzzz2C",
    "ham4Mymr32Tavt67Zzzz24Tavt5Mtei23Zzzz10Ethi6Zzzz2Ethi6Zzzz2Ethi6Zzzz9Ethi7Zzzz1Ethi7Zzzz1L",
    "atn43Zyyy1Latn9Grek1Latn4Zyyy2Zzzz4Cher80Mtei46Zzzz2Mtei10Zzzz6Hang11172Zzzz12Hang23Zzzz4H",
    "ang49Zzzz8452Hani366Zzzz2Hani106Zzzz38Latn7Zzzz12Armn5Zzzz5Hebr26Zzzz1Hebr5Zzzz1Hebr1Zzzz1",
    "Hebr2Zzzz1Hebr2Zzzz1Hebr10Arab115Zzzz16Arab363Zyyy2Arab80Zzzz2Arab54Zzzz7Arab1Zzzz32Arab16",
    "Zinh16Zyyy10Zzzz6Zinh14Cyrl2Zyyy35Zzzz1Zyyy19Zzzz1Zyyy4Zzzz4Arab5Zzzz1Arab135Zzzz2Zyyy1Zzz",
    "z1Zyyy32Latn26Zyyy6Latn26Zyyy11Kana10Zyyy1Kana45Zyyy2Hang31Zzzz3Hang6Zzzz2Hang6Zzzz2Hang6Z",
    "zzz2Hang3Zzzz3Zyyy7Zzzz1Zyyy7Zzzz10Zyyy5Zzzz2Linb12Zzzz1Linb26Zzzz1Linb19Zzzz1Linb2Zzzz1Li",
    "nb15Zzzz2Linb14Zzzz34Linb123Zzzz5Zyyy3Zzzz4Zyyy45Zzzz3Zyyy9Grek79Zzzz1Zyyy13Zzzz3Grek1Zzzz",
    "47Zyyy45Zinh1Zzzz130Lyci29Zzzz3Cari49Zzzz15Zinh1Zyyy27Zzzz4Ital36Zzzz9Ital3Goth27Zzzz5Perm",
    "43Zzzz5Ugar30Zzzz1Ugar1Xpeo36Zzzz4Xpeo14Zzzz42Dsrt80Shaw48Osma30Zzzz2Osma10Zzzz6Osge36Zzzz",
    "4Osge36Zzzz4Elba40Zzzz8Aghb52Zzzz11Aghb1Vith11Zzzz1Vith15Zzzz1Vith7Zzzz1Vith2Zzzz1Vith11Zz",
    "zz1Vith15Zzzz1Vith7Zzzz1Vith2Zzzz67Lina311Zzzz9Lina22Zzzz10Lina8Zzzz24Latn6Zzzz1Latn42Zzzz",
    "1Latn9Zzzz69Cprt6Zzzz2Cprt1Zzzz1Cprt44Zzzz1Cprt2Zzzz3Cprt1Zzzz2Cprt1Armi22Zzzz1Armi9Palm32",
    "Nbat31Zzzz8Nbat9Zzzz48Hatr19Zzzz1Hatr2Zzzz5Hatr5Phnx28Zzzz3Phnx1Lydi26Zzzz5Lydi1Zzzz64Mero",
    "32Merc24Zzzz4Merc20Zzzz2Merc46Khar4Zzzz1Khar2Zzzz5Khar8Zzzz1Khar3Zzzz1Khar29Zzzz2Khar3Zzzz",
    "4Khar10Zzzz7Khar9Zzzz7Sarb32Narb32Zzzz32Mani39Zzzz4Mani12Zzzz9Avst54Zzzz3Avst7Prti22Zzzz2P",
    "rti8Phli19Zzzz5Phli8Phlp18Zzzz7Phlp4Zzzz12Phlp7Zzzz80Orkh73Zzzz55Hung51Zzzz13Hung51Zzzz7Hu",
    "ng6Rohg40Zzzz8Rohg10Zzzz294Arab31Zzzz1Yezi42Zzzz1Yezi3Zzzz2Yezi2Zzzz75Arab3Sogo40Zzzz8Sogd",
    "42Zzzz22Ougr26Zzzz38Chrs28Zzzz20Elym23Zzzz9Brah78Zzzz4Brah36Zzzz9Brah1Kthi67Zzzz10Kthi1Zzz",
    "z2Sora25Zzzz7Sora10Zzzz6Cakm53Zzzz1Cakm18Zzzz8Mahj39Zzzz9Shrd96Zzzz1Sinh20Zzzz11Khoj18Zzzz",
    "1Khoj47Zzzz62Mult7Zzzz1Mult1Zzzz1Mult4Zzzz1Mult15Zzzz1Mult11Zzzz6Sind59Zzzz5Sind10Zzzz6Gra",
    "n4Zzzz1Gran8Zzzz2Gran2Zzzz2Gran22Zzzz1Gran7Zzzz1Gran2Zzzz1Gran5Zzzz1Zinh1Gran9Zzzz2Gran2Zz",
    "zz2Gran3Zzzz2Gran1Zzzz6Gran1Zzzz5Gran7Zzzz2Gran7Zzzz3Gran5Zzzz139Newa92Zzzz1Newa5Zzzz30Tir",
    "h72Zzzz8Tirh10Zzzz166Sidd54Zzzz2Sidd38Zzzz34Modi69Zzzz11Modi10Zzzz6Mong13Zzzz19Takr58Zzzz6",
    "Takr10Zzzz54Ahom27Zzzz2Ahom15Zzzz4Ahom23Zzzz185Dogr60Zzzz100Wara83Zzzz12Wara1Diak7Zzzz2Dia",
    "k1Zzzz2Diak8Zzzz1Diak2Zzzz1Diak30Zzzz1Diak2Zzzz2Diak12Zzzz9Diak10Zzzz70Nand8Zzzz2Nand46Zzz",
    "z2Nand11Zzzz27Zanb72Zzzz8Soyo83Zzzz13Cans16Pauc57Zzzz7Deva10Zzzz246Bhks9Zzzz1Bhks45Zzzz1Bh",
    "ks14Zzzz10Bhks29Zzzz3Marc32Zzzz2Marc22Zzzz1Marc14Zzzz73Gonm7Zzzz1Gonm2Zzzz1Gonm44Zzzz3Gonm",
    "1Zzzz1Gonm2Zzzz1Gonm9Zzzz8Gonm10Zzzz6Gong6Zzzz1Gong2Zzzz1Gong37Zzzz1Gong2Zzzz1Gong6Zzzz7Go",
    "ng10Zzzz310Maka25Zzzz7Kawi17Zzzz1Kawi41Zzzz3Kawi28Zzzz86Lisu1Zzzz15Taml50Zzzz13Taml1Xsux92",
    "2Zzzz102Xsux111Zzzz1Xsux5Zzzz11Xsux196Zzzz2636Cpmn99Zzzz13Egyp1110Zzzz4010Hluw583Zzzz8633B",
    "amu569Zzzz7Mroo31Zzzz1Mroo10Zzzz4Mroo2Tnsa79Zzzz1Tnsa10Zzzz6Bass30Zzzz2Bass6Zzzz10Hmng70Zz",
    "zz10Hmng10Zzzz1Hmng7Zzzz1Hmng21Zzzz5Hmng19Zzzz688Medf91Zzzz101Plrd75Zzzz4Plrd57Zzzz7Plrd17",
    "Zzzz64Tang1Nshu1Hani2Kits1Zzzz11Hani2Zzzz14Tang6136Zzzz8Tang768Kits470Zzzz42Tang9Zzzz8935K",
    "ana4Zzzz1Kana7Zzzz1Kana2Zzzz1Kana1Hira287Kana3Zzzz15Hira1Zzzz29Hira3Zzzz2Kana1Zzzz14Kana4Z",
    "zzz8Nshu396Zzzz2308Dupl107Zzzz5Dupl13Zzzz3Dupl9Zzzz7Dupl10Zzzz2Dupl4Zyyy4Zzzz4700Zinh46Zzz",
    "z2Zinh23Zzzz9Zyyy116Zzzz60Zyyy246Zzzz10Zyyy39Zzzz2Zyyy62Zinh3Zyyy17Zinh8Zyyy2Zinh7Zyyy30Zi",
    "nh4Zyyy61Zzzz21Grek70Zzzz122Zyyy20Zzzz12Zyyy20Zzzz12Zyyy87Zzzz9Zyyy25Zzzz135Zyyy85Zzzz1Zyy",
    "y71Zzzz1Zyyy2Zzzz2Zyyy1Zzzz2Zyyy2Zzzz2Zyyy4Zzzz1Zyyy12Zzzz1Zyyy1Zzzz1Zyyy7Zzzz1Zyyy65Zzzz1",
    "Zyyy4Zzzz2Zyyy8Zzzz1Zyyy7Zzzz1Zyyy28Zzzz1Zyyy4Zzzz1Zyyy5Zzzz1Zyyy1Zzzz3Zyyy7Zzzz1Zyyy340Zz",
    "zz2Zyyy292Zzzz2Zyyy50Sgnw652Zzzz15Sgnw5Zzzz1Sgnw15Zzzz1104Latn31Zzzz6Latn6Zzzz213Glag7Zzzz",
    "1Glag17Zzzz2Glag7Zzzz1Glag2Zzzz1Glag5Zzzz5Cyrl62Zzzz33Cyrl1Zzzz112Hmnp45Zzzz3Hmnp14Zzzz2Hm",
    "np10Zzzz4Hmnp2Zzzz320Toto31Zzzz17Wcho58Zzzz5Wcho1Zzzz464Nagm42Zzzz742Ethi7Zzzz1Ethi4Zzzz1E",
    "thi2Zzzz1Ethi15Zzzz1Mend197Zzzz2Mend16Zzzz41Adlm76Zzzz4Adlm10Zzzz4Adlm2Zzzz785Zyyy68Zzzz76",
    "Zyyy61Zzzz194Arab4Zzzz1Arab27Zzzz1Arab2Zzzz1Arab1Zzzz2Arab1Zzzz1Arab10Zzzz1Arab4Zzzz1Arab1",
    "Zzzz1Arab1Zzzz6Arab1Zzzz4Arab1Zzzz1Arab1Zzzz1Arab1Zzzz1Arab3Zzzz1Arab2Zzzz1Arab1Zzzz2Arab1",
    "Zzzz1Arab1Zzzz1Arab1Zzzz1Arab1Zzzz1Arab1Zzzz1Arab2Zzzz1Arab1Zzzz2Arab4Zzzz1Arab7Zzzz1Arab4",
    "Zzzz1Arab4Zzzz1Arab1Zzzz1Arab10Zzzz1Arab17Zzzz5Arab3Zzzz1Arab5Zzzz1Arab17Zzzz52Arab2Zzzz27",
    "0Zyyy44Zzzz4Zyyy100Zzzz12Zyyy15Zzzz2Zyyy15Zzzz1Zyyy15Zzzz1Zyyy37Zzzz10Zyyy174Zzzz56Zyyy26H",
    "ira1Zyyy2Zzzz13Zyyy44Zzzz4Zyyy9Zzzz7Zyyy2Zzzz14Zyyy6Zzzz154Zyyy984Zzzz4Zyyy17Zzzz3Zyyy13Zz",
    "zz3Zyyy119Zzzz4Zyyy95Zzzz6Zyyy12Zzzz4Zyyy1Zzzz15Zyyy12Zzzz4Zyyy56Zzzz8Zyyy10Zzzz6Zyyy40Zzz",
    "z8Zyyy30Zzzz2Zyyy2Zzzz78Zyyy340Zzzz12Zyyy14Zzzz2Zyyy13Zzzz3Zyyy9Zzzz7Zyyy46Zzzz1Zyyy7Zzzz8",
    "Zyyy14Zzzz4Zyyy9Zzzz7Zyyy9Zzzz7Zyyy147Zzzz1Zyyy55Zzzz37Zyyy10Zzzz1030Hani42720Zzzz32Hani41",
    "54Zzzz6Hani222Zzzz2Hani5762Zzzz14Hani7473Zzzz3103Hani542Zzzz1506Hani4939Zzzz5Hani4192Zzzz7",
    "11761Zyyy1Zzzz30Zyyy96Zzzz128Zinh240Zzzz196112Zzzz0"]

/-- The short and the long name of every script. -/
def scriptNames : List (String × String) :=
  [("Adlm", "Adlam"), ("Aghb", "Caucasian_Albanian"), ("Ahom", "Ahom"), ("Arab", "Arabic"),
    ("Armi", "Imperial_Aramaic"), ("Armn", "Armenian"), ("Avst", "Avestan"), ("Bali", "Balinese"),
    ("Bamu", "Bamum"), ("Bass", "Bassa_Vah"), ("Batk", "Batak"), ("Beng", "Bengali"),
    ("Bhks", "Bhaiksuki"), ("Bopo", "Bopomofo"), ("Brah", "Brahmi"), ("Brai", "Braille"),
    ("Bugi", "Buginese"), ("Buhd", "Buhid"), ("Cakm", "Chakma"), ("Cans", "Canadian_Aboriginal"),
    ("Cari", "Carian"), ("Cham", "Cham"), ("Cher", "Cherokee"), ("Chrs", "Chorasmian"),
    ("Copt", "Coptic"), ("Cpmn", "Cypro_Minoan"), ("Cprt", "Cypriot"), ("Cyrl", "Cyrillic"),
    ("Deva", "Devanagari"), ("Diak", "Dives_Akuru"), ("Dogr", "Dogra"), ("Dsrt", "Deseret"),
    ("Dupl", "Duployan"), ("Egyp", "Egyptian_Hieroglyphs"), ("Elba", "Elbasan"),
    ("Elym", "Elymaic"), ("Ethi", "Ethiopic"), ("Geor", "Georgian"), ("Glag", "Glagolitic"),
    ("Gong", "Gunjala_Gondi"), ("Gonm", "Masaram_Gondi"), ("Goth", "Gothic"), ("Gran", "Grantha"),
    ("Grek", "Greek"), ("Gujr", "Gujarati"), ("Guru", "Gurmukhi"), ("Hang", "Hangul"),
    ("Hani", "Han"), ("Hano", "Hanunoo"), ("Hatr", "Hatran"), ("Hebr", "Hebrew"),
    ("Hira", "Hiragana"), ("Hluw", "Anatolian_Hieroglyphs"), ("Hmng", "Pahawh_Hmong"),
    ("Hmnp", "Nyiakeng_Puachue_Hmong"), ("Hung", "Old_Hungarian"), ("Ital", "Old_Italic"),
    ("Java", "Javanese"), ("Kali", "Kayah_Li"), ("Kana", "Katakana"), ("Kawi", "Kawi"),
    ("Khar", "Kharoshthi"), ("Khmr", "Khmer"), ("Khoj", "Khojki"), ("Kits", "Khitan_Small_Script"),
    ("Knda", "Kannada"), ("Kthi", "Kaithi"), ("Lana", "Tai_Tham"), ("Laoo", "Lao"),
    ("Latn", "Latin"), ("Lepc", "Lepcha"), ("Limb", "Limbu"), ("Lina", "Linear_A"),
    ("Linb", "Linear_B"), ("Lisu", "Lisu"), ("Lyci", "Lycian"), ("Lydi", "Lydian"),
    ("Mahj", "Mahajani"), ("Maka", "Makasar"), ("Mand", "Mandaic"), ("Mani", "Manichaean"),
    ("Marc", "Marchen"), ("Medf", "Medefaidrin"), ("Mend", "Mende_Kikakui"),
    ("Merc", "Meroitic_Cursive"), ("Mero", "Meroitic_Hieroglyphs"), ("Mlym", "Malayalam"),
    ("Modi", "Modi"), ("Mong", "Mongolian"), ("Mroo", "Mro"), ("Mtei", "Meetei_Mayek"),
    ("Mult", "Multani"), ("Mymr", "Myanmar"), ("Nagm", "Nag_Mundari"), ("Nand", "Nandinagari"),
    ("Narb", "Old_North_Arabian"), ("Nbat", "Nabataean"), ("Newa", "Newa"), ("Nkoo", "Nko"),
    ("Nshu", "Nushu"), ("Ogam", "Ogham"), ("Olck", "Ol_Chiki"), ("Orkh", "Old_Turkic"),
    ("Orya", "Oriya"), ("Osge", "Osage"), ("Osma", "Osmanya"), ("Ougr", "Old_Uyghur"),
    ("Palm", "Palmyrene"), ("Pauc", "Pau_Cin_Hau"), ("Perm", "Old_Permic"), ("Phag", "Phags_Pa"),
    ("Phli", "Inscriptional_Pahlavi"), ("Phlp", "Psalter_Pahlavi"), ("Phnx", "Phoenician"),
    ("Plrd", "Miao"), ("Prti", "Inscriptional_Parthian"), ("Rjng", "Rejang"),
    ("Rohg", "Hanifi_Rohingya"), ("Runr", "Runic"), ("Samr", "Samaritan"),
    ("Sarb", "Old_South_Arabian"), ("Saur", "Saurashtra"), ("Sgnw", "SignWriting"),
    ("Shaw", "Shavian"), ("Shrd", "Sharada"), ("Sidd", "Siddham"), ("Sind", "Khudawadi"),
    ("Sinh", "Sinhala"), ("Sogd", "Sogdian"), ("Sogo", "Old_Sogdian"), ("Sora", "Sora_Sompeng"),
    ("Soyo", "Soyombo"), ("Sund", "Sundanese"), ("Sylo", "Syloti_Nagri"), ("Syrc", "Syriac"),
    ("Tagb", "Tagbanwa"), ("Takr", "Takri"), ("Tale", "Tai_Le"), ("Talu", "New_Tai_Lue"),
    ("Taml", "Tamil"), ("Tang", "Tangut"), ("Tavt", "Tai_Viet"), ("Telu", "Telugu"),
    ("Tfng", "Tifinagh"), ("Tglg", "Tagalog"), ("Thaa", "Thaana"), ("Thai", "Thai"),
    ("Tibt", "Tibetan"), ("Tirh", "Tirhuta"), ("Tnsa", "Tangsa"), ("Toto", "Toto"),
    ("Ugar", "Ugaritic"), ("Vaii", "Vai"), ("Vith", "Vithkuqi"), ("Wara", "Warang_Citi"),
    ("Wcho", "Wancho"), ("Xpeo", "Old_Persian"), ("Xsux", "Cuneiform"), ("Yezi", "Yezidi"),
    ("Yiii", "Yi"), ("Zanb", "Zanabazar_Square"), ("Zinh", "Inherited"), ("Zyyy", "Common"),
    ("Zzzz", "Unknown"), ("Copt", "Qaac"), ("Zinh", "Qaai")]

def scriptTable : Array (Nat × String) := decodeRuns scriptRuns

/-- The short name of a character's script. -/
def script (c : Char) : String :=
  lookupRun scriptTable c.toNat 0 scriptTable.size

/-- Code points that are used in other scripts than their own, or in several. -/
def extendedScripts : List (List (Nat × Nat) × List String) :=
  [([(0x342, 0x342), (0x345, 0x345), (0x1DC0, 0x1DC1)], ["Grek"]),
    ([(0x363, 0x36F)], ["Latn"]),
    ([(0x483, 0x483)], ["Cyrl", "Perm"]),
    ([(0x484, 0x484), (0x487, 0x487), (0x2E43, 0x2E43), (0xA66F, 0xA66F)], ["Cyrl", "Glag"]),
    ([(0x485, 0x486)], ["Cyrl", "Latn"]),
    ([(0x60C, 0x60C), (0x61B, 0x61B)], ["Arab", "Rohg", "Nkoo", "Syrc", "Thaa", "Yezi"]),
    ([(0x61C, 0x61C)], ["Arab", "Syrc", "Thaa"]),
    ([(0x61F, 0x61F)], ["Adlm", "Arab", "Rohg", "Nkoo", "Syrc", "Thaa", "Yezi"]),
    ([(0x640, 0x640)], ["Adlm", "Arab", "Rohg", "Mand", "Mani", "Ougr", "Phlp", "Sogd", "Syrc"]),
    ([(0x64B, 0x655), (0x670, 0x670)], ["Arab", "Syrc"]),
    ([(0x660, 0x669)], ["Arab", "Thaa", "Yezi"]),
    ([(0x6D4, 0x6D4)], ["Arab", "Rohg"]),
    ([(0x951, 0x951)],
      ["Beng", "Deva", "Gran", "Gujr", "Guru", "Knda", "Latn", "Mlym", "Orya", "Shrd", "Taml",
       "Telu", "Tirh"]),
    ([(0x952, 0x952)],
      ["Beng", "Deva", "Gran", "Gujr", "Guru", "Knda", "Latn", "Mlym", "Orya", "Taml", "Telu",
       "Tirh"]),
    ([(0x964, 0x964)],
      ["Beng", "Deva", "Dogr", "Gran", "Gujr", "Gong", "Guru", "Knda", "Sind", "Mahj", "Mlym",
       "Gonm", "Nand", "Orya", "Sinh", "Sylo", "Takr", "Taml", "Telu", "Tirh"]),
    ([(0x965, 0x965)],
      ["Beng", "Deva", "Dogr", "Gran", "Gujr", "Gong", "Guru", "Knda", "Sind", "Limb", "Mahj",
       "Mlym", "Gonm", "Nand", "Orya", "Sinh", "Sylo", "Takr", "Taml", "Telu", "Tirh"]),
    ([(0x966, 0x96F)], ["Deva", "Dogr", "Kthi", "Mahj"]),
    ([(0x9E6, 0x9EF)], ["Beng", "Cakm", "Sylo"]),
    ([(0xA66, 0xA6F)], ["Guru", "Mult"]),
    ([(0xAE6, 0xAEF)], ["Gujr", "Khoj"]),
    ([(0xBE6, 0xBF3), (0x11301, 0x11301), (0x11303, 0x11303), (0x1133B, 0x1133C),
        (0x11FD0, 0x11FD1), (0x11FD3, 0x11FD3)], ["Gran", "Taml"]),
    ([(0xCE6, 0xCEF)], ["Knda", "Nand"]),
    ([(0x1040, 0x1049)], ["Cakm", "Mymr", "Tale"]),
    ([(0x10FB, 0x10FB)], ["Geor", "Latn"]),
    ([(0x1735, 0x1736)], ["Buhd", "Hano", "Tglg", "Tagb"]),
    ([(0x1802, 0x1803), (0x1805, 0x1805)], ["Mong", "Phag"]),
    ([(0x1CD0, 0x1CD0), (0x1CD2, 0x1CD2)], ["Beng", "Deva", "Gran", "Knda"]),
    ([(0x1CD1, 0x1CD1), (0x1CD4, 0x1CD4), (0x1CDB, 0x1CDB), (0x1CDE, 0x1CDF), (0x1CE2, 0x1CE8),
        (0x1CEB, 0x1CEC), (0x1CEE, 0x1CF1)], ["Deva"]),
    ([(0x1CD3, 0x1CD3), (0x1CF3, 0x1CF3), (0x1CF8, 0x1CF9)], ["Deva", "Gran"]),
    ([(0x1CD5, 0x1CD6), (0x1CD8, 0x1CD8), (0x1CE1, 0x1CE1), (0x1CEA, 0x1CEA), (0x1CED, 0x1CED),
        (0x1CF5, 0x1CF6), (0xA8F1, 0xA8F1)], ["Beng", "Deva"]),
    ([(0x1CD7, 0x1CD7), (0x1CD9, 0x1CD9), (0x1CDC, 0x1CDD), (0x1CE0, 0x1CE0)], ["Deva", "Shrd"]),
    ([(0x1CDA, 0x1CDA)], ["Deva", "Knda", "Mlym", "Orya", "Taml", "Telu"]),
    ([(0x1CE9, 0x1CE9)], ["Deva", "Nand"]),
    ([(0x1CF2, 0x1CF2)], ["Beng", "Deva", "Gran", "Knda", "Nand", "Orya", "Telu", "Tirh"]),
    ([(0x1CF4, 0x1CF4)], ["Deva", "Gran", "Knda"]),
    ([(0x1CF7, 0x1CF7)], ["Beng"]),
    ([(0x1CFA, 0x1CFA)], ["Nand"]),
    ([(0x1DF8, 0x1DF8)], ["Cyrl", "Syrc"]),
    ([(0x1DFA, 0x1DFA)], ["Syrc"]),
    ([(0x202F, 0x202F)], ["Latn", "Mong"]),
    ([(0x20F0, 0x20F0)], ["Deva", "Gran", "Latn"]),
    ([(0x3001, 0x3002), (0x3008, 0x3011), (0x3014, 0x301B), (0x30FB, 0x30FB), (0xFF61, 0xFF65)],
      ["Bopo", "Hani", "Hang", "Hira", "Kana", "Yiii"]),
    ([(0x3003, 0x3003), (0x3013, 0x3013), (0x301C, 0x301F), (0x3030, 0x3030), (0x3037, 0x3037),
        (0xFE45, 0xFE46)], ["Bopo", "Hani", "Hang", "Hira", "Kana"]),
    ([(0x3006, 0x3006), (0x303E, 0x303F), (0x3190, 0x319F), (0x31C0, 0x31E3), (0x3220, 0x3247),
        (0x3280, 0x32B0), (0x32C0, 0x32CB), (0x32FF, 0x32FF), (0x3358, 0x3370), (0x337B, 0x337F),
        (0x33E0, 0x33FE), (0x1D360, 0x1D371), (0x1F250, 0x1F251)], ["Hani"]),
    ([(0x302A, 0x302D)], ["Bopo", "Hani"]),
    ([(0x3031, 0x3035), (0x3099, 0x309C), (0x30A0, 0x30A0), (0x30FC, 0x30FC), (0xFF70, 0xFF70),
        (0xFF9E, 0xFF9F)], ["Hira", "Kana"]),
    ([(0x303C, 0x303D)], ["Hani", "Hira", "Kana"]),
    ([(0xA700, 0xA707)], ["Hani", "Latn"]),
    ([(0xA830, 0xA832)],
      ["Deva", "Dogr", "Gujr", "Guru", "Kthi", "Knda", "Khoj", "Sind", "Mahj", "Mlym", "Modi",
       "Nand", "Takr", "Tirh"]),
    ([(0xA833, 0xA835)],
      ["Deva", "Dogr", "Gujr", "Guru", "Kthi", "Knda", "Khoj", "Sind", "Mahj", "Modi", "Nand",
       "Takr", "Tirh"]),
    ([(0xA836, 0xA839)],
      ["Deva", "Dogr", "Gujr", "Guru", "Kthi", "Khoj", "Sind", "Mahj", "Modi", "Takr", "Tirh"]),
    ([(0xA8F3, 0xA8F3)], ["Deva", "Taml"]),
    ([(0xA92E, 0xA92E)], ["Kali", "Latn", "Mymr"]),
    ([(0xA9CF, 0xA9CF)], ["Bugi", "Java"]),
    ([(0xFD3E, 0xFD3F)], ["Arab", "Nkoo"]),
    ([(0xFDF2, 0xFDF2), (0xFDFD, 0xFDFD)], ["Arab", "Thaa"]),
    ([(0x10100, 0x10101)], ["Cprt", "Cpmn", "Linb"]),
    ([(0x10102, 0x10102), (0x10137, 0x1013F)], ["Cprt", "Linb"]),
    ([(0x10107, 0x10133)], ["Cprt", "Lina", "Linb"]),
    ([(0x102E0, 0x102FB)], ["Arab", "Copt"]),
    ([(0x10AF2, 0x10AF2)], ["Mani", "Ougr"]),
    ([(0x1BCA0, 0x1BCA3)], ["Dupl"])]

/-- The short names of the scripts in which a character is used. -/
def scripts (c : Char) : List String :=
  match extendedScripts.find? fun (ranges, _) => inRanges ranges c with
  | some (_, names) => names
  | none => [script c]

end Architecture.Unicode
