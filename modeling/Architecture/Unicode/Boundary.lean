import Architecture.Unicode.Category

/-!
Classes of code points at which a text is divided into characters, words and sentences.
-/

namespace Architecture.Unicode

def characterPartRuns : List String :=
  ["Cn10Lf1Cn2Cr1Cn18Xx95Cn33Xx13Cn1Xx594Ex112Xx275Ex7Xx263Ex45Xx1Ex1Xx1Ex2Xx1Ex2Xx1Ex1Xx56Pp6Xx1",
    "0Ex11Xx1Cn1Xx46Ex21Xx16Ex1Xx101Ex7Pp1Xx1Ex6Xx2Ex2Xx1Ex4Xx33Pp1Xx1Ex1Xx30Ex27Xx91Ex11Xx58Ex9Xx",
    "9Ex1Xx24Ex4Xx1Ex9Xx1Ex3Xx1Ex5Xx43Ex3Xx52Pp2Xx6Ex8Xx42Ex24Pp1Ex32Sm1Xx54Ex1Sm1Ex1Xx1Sm3Ex8Sm4E",
    "x1Sm2Xx1Ex7Xx10Ex2Xx29Ex1Sm2Xx56Ex1Xx1Ex1Sm2Ex4Xx2Sm2Xx2Sm2Ex1Xx9Ex1Xx10Ex2Xx26Ex1Xx2Ex2Sm1Xx",
    "56Ex1Xx1Sm3Ex2Xx4Ex2Xx2Ex3Xx3Ex1Xx30Ex2Xx3Ex1Xx11Ex2Sm1Xx56Ex1Xx1Sm3Ex5Xx1Ex2Sm1Xx1Sm2Ex1Xx20",
    "Ex2Xx22Ex6Xx1Ex1Sm2Xx56Ex1Xx1Ex2Sm1Ex4Xx2Sm2Xx2Sm2Ex1Xx7Ex3Xx10Ex2Xx30Ex1Xx59Ex1Sm1Ex1Sm2Xx3S",
    "m3Xx1Sm3Ex1Xx9Ex1Xx40Ex1Sm3Ex1Xx55Ex1Xx1Ex3Sm4Xx1Ex3Xx1Ex4Xx7Ex2Xx11Ex2Xx29Ex1Sm2Xx56Ex1Xx1Sm",
    "1Ex1Sm2Ex1Sm2Xx1Ex1Sm2Xx1Sm2Ex2Xx7Ex2Xx11Ex2Xx15Sm1Xx12Ex2Sm2Xx55Ex2Xx1Ex1Sm2Ex4Xx1Sm3Xx1Sm3E",
    "x1Pp1Xx8Ex1Xx10Ex2Xx29Ex1Sm2Xx70Ex1Xx4Ex1Sm2Ex3Xx1Ex1Xx1Sm7Ex1Xx18Sm2Xx61Ex1Xx1Sm1Ex7Xx12Ex8X",
    "x98Ex1Xx1Sm1Ex9Xx11Ex7Xx73Ex2Xx27Ex1Xx1Ex1Xx1Ex1Xx4Sm2Xx49Ex14Sm1Ex5Xx1Ex2Xx5Ex11Xx1Ex36Xx9Ex",
    "1Xx102Ex4Sm1Ex6Xx1Ex2Sm2Ex2Xx23Sm2Ex2Xx4Ex3Xx16Ex4Xx13Ex1Xx1Sm1Ex2Xx6Ex1Xx15Ex1Xx98L96V72T88X",
    "x349Ex3Xx946Ex3Sm1Xx28Ex2Sm1Xx29Ex2Xx30Ex2Xx64Ex2Sm1Ex7Sm8Ex1Sm2Ex11Xx9Ex1Xx45Ex3Cn1Ex1Xx117E",
    "x2Xx34Ex1Xx118Ex3Sm4Ex2Sm3Xx4Sm2Ex1Sm6Ex3Xx219Ex2Sm2Ex1Xx57Sm1Ex1Sm1Ex7Xx1Ex1Xx1Ex1Xx2Ex8Sm6E",
    "x10Xx2Ex1Xx48Ex31Xx49Ex4Sm1Xx47Ex7Sm1Ex1Sm5Ex1Sm2Xx38Ex9Xx12Ex2Sm1Xx30Sm1Ex4Sm2Ex2Sm1Ex3Xx56E",
    "x1Sm1Ex2Sm3Ex1Sm1Ex3Sm2Xx48Sm8Ex8Sm2Ex2Xx152Ex3Xx1Ex13Sm1Ex7Xx4Ex1Xx6Ex1Xx2Sm1Ex2Xx198Ex64Xx5",
    "23Cn1Ex1Zwj1Cn2Xx24Cn7Xx49Cn16Xx96Ex33Xx3070Ex3Xx141Ex1Xx96Ex32Xx554Ex6Xx105Ex2Xx30164Ex4Xx1E",
    "x10Xx32Ex2Xx80Ex2Xx272Ex1Xx3Ex1Xx4Ex1Xx23Sm2Ex2Sm1Xx4Ex1Xx83Sm2Xx50Sm16Ex2Xx26Ex18Xx13Ex1Xx38",
    "Ex8Xx25Ex11Sm2Xx12L29Xx3Ex3Sm1Xx47Ex1Sm2Ex4Sm2Ex2Sm3Xx36Ex1Xx67Ex6Sm2Ex2Sm2Ex2Xx12Ex1Xx8Ex1Sm",
    "1Xx46Ex1Xx51Ex1Xx1Ex3Xx2Ex2Xx5Ex2Xx1Ex1Xx41Sm1Ex2Sm2Xx5Sm1Ex1Xx236Sm2Ex1Sm2Ex1Sm2Xx1Sm1Ex1Xx1",
    "8Lv11172Xx12V23Xx4T49Xx8994Ex1Xx737Ex16Xx16Ex16Xx207Cn1Xx158Ex2Xx80Cn12Xx513Ex1Xx226Ex1Xx149E",
    "x5Xx1670Ex3Xx1Ex2Xx5Ex4Xx40Ex3Xx4Ex1Xx165Ex2Xx573Ex4Xx387Ex2Xx80Ex3Xx70Ex11Xx49Ex4Xx122Sm1Ex1",
    "Sm1Xx53Ex15Xx41Ex1Xx2Ex2Xx10Ex3Sm1Xx45Sm3Ex4Sm2Ex2Xx2Pp1Xx4Ex1Xx10Pp1Xx50Ex3Xx36Ex5Sm1Ex8Xx16",
    "Sm2Xx44Ex1Xx12Ex2Sm1Xx48Sm3Ex9Sm2Xx1Pp2Xx5Ex4Xx1Sm1Ex1Xx92Sm3Ex3Sm2Ex1Sm1Ex2Xx6Ex1Xx2Ex1Xx157",
    "Ex1Sm3Ex8Xx21Ex2Sm2Xx55Ex2Xx1Ex1Sm1Ex1Sm4Xx2Sm2Xx2Sm3Xx9Ex1Xx10Sm2Xx2Ex7Xx3Ex5Xx192Sm3Ex8Sm2E",
    "x3Sm1Ex1Xx23Ex1Xx81Ex1Sm2Ex6Sm1Ex1Sm2Ex1Sm1Ex2Sm1Ex2Xx235Ex1Sm2Ex4Xx2Sm4Ex2Sm1Ex2Xx27Ex2Xx82S",
    "m3Ex8Sm2Ex1Sm1Ex2Xx106Ex1Sm1Ex1Sm2Ex6Sm1Ex1Xx101Ex3Xx2Ex4Sm1Ex5Xx256Sm3Ex9Sm1Ex2Xx245Ex1Sm5Xx",
    "1Sm2Xx2Ex2Sm1Ex1Pp1Sm1Pp1Sm1Ex1Xx141Sm3Ex4Xx2Ex2Sm4Ex1Xx3Sm1Xx28Ex10Xx40Ex6Sm1Pp1Ex4Xx8Ex1Xx9",
    "Ex6Sm2Ex3Xx40Pp6Ex13Sm1Ex2Xx405Sm1Ex7Xx1Ex6Sm1Ex1Xx82Ex22Xx1Sm1Ex7Sm1Ex2Sm1Ex2Xx122Ex6Xx3Ex1X",
    "x1Ex2Xx1Ex7Pp1Ex1Xx66Sm5Xx1Ex2Xx1Sm2Ex1Sm1Ex1Xx347Ex2Sm2Xx9Ex2Pp1Sm1Xx48Sm2Ex5Xx3Sm2Ex1Sm1Ex1",
    "Xx5357Cn16Ex1Xx6Ex15Xx13978Ex5Xx59Ex7Xx1048Ex1Xx1Sm55Xx7Ex4Xx81Ex1Xx11Sm2Xx19627Ex2Xx1Cn4Xx47",
    "00Ex46Xx2Ex23Xx542Ex1Sm1Ex3Xx3Sm1Ex5Cn8Ex8Xx2Ex7Xx30Ex4Xx148Ex3Xx1979Ex55Xx4Ex50Xx8Ex1Xx14Ex1",
    "Xx22Ex5Xx1Ex15Xx1360Ex7Xx1Ex17Xx2Ex7Xx1Ex2Xx1Ex5Xx100Ex1Xx160Ex7Xx375Ex1Xx61Ex4Xx508Ex4Xx992E",
    "x7Xx109Ex7Xx2203Ri26Xx507Ex5Xx789504Cn32Ex96Cn128Ex240Cn3600Xx192512"]

def characterPartTable : Array (Nat × String) := decodeRuns characterPartRuns

def characterPartNames : List (String × String) :=
  [("Cn", "control"), ("Cr", "cr"), ("Ex", "extend"), ("L", "l"), ("Lf", "lf"), ("Lv", "lv"),
    ("Lvt", "lvt"), ("Pp", "prepend"), ("Ri", "regionalindicator"), ("Sm", "spacingmark"),
    ("T", "t"), ("V", "v"), ("Zwj", "zwj")]

/-- The class of a code point among the parts of a character. In the block of Hangul syllables
each one without a final consonant comes before those with one. -/
def characterPart (c : Char) : String :=
  if 0xAC00 ≤ c.toNat ∧ c.toNat ≤ 0xD7A3 then
    if (c.toNat - 0xAC00) % 28 = 0 then "Lv" else "Lvt"
  else lookupRun characterPartTable c.toNat 0 characterPartTable.size

def wordPartRuns : List String :=
  ["Xx10Lf1Nl2Cr1Xx18Wsegspace1Xx1Dq1Xx4Sq1Xx4Mn1Xx1Mb1Xx1Nu10Ml1Mn1Xx5Le26Xx4Ex1Xx1Le26Xx10Nl1Xx",
    "36Le1Xx2Fo1Xx7Le1Xx1Ml1Xx2Le1Xx5Le23Xx1Le31Xx1Le480Xx6Le34Extend112Le5Xx1Le2Xx2Le4Mn1Le1Xx6Le",
    "1Ml1Le3Xx1Le1Xx1Le20Xx1Le83Xx1Le139Xx1Extend7Le166Xx1Le38Xx2Le4Xx1Le1Ml1Le41Mn1Le1Xx6Extend45",
    "Xx1Extend1Xx1Extend2Xx1Extend2Xx1Extend1Xx8Hl27Xx4Hl4Le1Ml1Xx11Fo6Xx6Mn2Xx2Extend11Xx1Fo1Xx3L",
    "e43Extend21Nu10Xx1Nu1Mn1Xx1Le2Extend1Le99Xx1Le1Extend7Fo1Xx1Extend6Le2Extend2Xx1Extend4Le2Nu1",
    "0Le3Xx2Le1Xx15Fo1Le1Extend1Le30Extend27Xx2Le89Extend11Le1Xx14Nu10Le33Extend9Le2Xx2Mn1Xx1Le1Xx",
    "2Extend1Xx2Le22Extend4Le1Extend9Le1Extend3Le1Extend5Xx18Le25Extend3Xx4Le11Xx5Le24Xx1Le6Xx1Fo2",
    "Xx6Extend8Le42Extend24Fo1Extend33Le54Extend3Le1Extend18Le1Extend7Le10Extend2Xx2Nu10Xx1Le16Ext",
    "end3Xx1Le8Xx2Le2Xx2Le22Xx1Le7Xx1Le1Xx3Le4Xx2Extend1Le1Extend7Xx2Extend2Xx2Extend3Le1Xx8Extend",
    "1Xx4Le2Xx1Le3Extend2Xx2Nu10Le2Xx10Le1Xx1Extend1Xx2Extend3Xx1Le6Xx4Le2Xx2Le22Xx1Le7Xx1Le2Xx1Le",
    "2Xx1Le2Xx2Extend1Xx1Extend5Xx4Extend2Xx2Extend3Xx3Extend1Xx7Le4Xx1Le1Xx7Nu10Extend2Le3Extend1",
    "Xx11Extend3Xx1Le9Xx1Le3Xx1Le22Xx1Le7Xx1Le2Xx1Le5Xx2Extend1Le1Extend8Xx1Extend3Xx1Extend3Xx2Le",
    "1Xx15Le2Extend2Xx2Nu10Xx9Le1Extend6Xx1Extend3Xx1Le8Xx2Le2Xx2Le22Xx1Le7Xx1Le2Xx1Le5Xx2Extend1L",
    "e1Extend7Xx2Extend2Xx2Extend3Xx7Extend3Xx4Le2Xx1Le3Extend2Xx2Nu10Xx1Le1Xx16Extend1Le1Xx1Le6Xx",
    "3Le3Xx1Le4Xx3Le2Xx1Le1Xx1Le2Xx3Le2Xx3Le3Xx3Le12Xx4Extend5Xx3Extend3Xx1Extend4Xx2Le1Xx6Extend1",
    "Xx14Nu10Xx16Extend5Le8Xx1Le3Xx1Le23Xx1Le16Xx2Extend1Le1Extend7Xx1Extend3Xx1Extend4Xx7Extend2X",
    "x1Le3Xx2Le1Xx2Le2Extend2Xx2Nu10Xx16Le1Extend3Xx1Le8Xx1Le3Xx1Le23Xx1Le10Xx1Le5Xx2Extend1Le1Ext",
    "end7Xx1Extend3Xx1Extend4Xx7Extend2Xx6Le2Xx1Le2Extend2Xx2Nu10Xx1Le2Extend1Xx12Extend4Le9Xx1Le3",
    "Xx1Le41Extend2Le1Extend7Xx1Extend3Xx1Extend4Le1Xx5Le3Extend1Xx7Le3Extend2Xx2Nu10Xx10Le6Xx1Ext",
    "end3Xx1Le18Xx3Le24Xx1Le9Xx1Le1Xx2Le7Xx3Extend1Xx4Extend6Xx1Extend1Xx1Extend8Xx6Nu10Xx2Extend2",
    "Xx61Extend1Xx2Extend7Xx12Extend8Xx1Nu10Xx87Extend1Xx2Extend9Xx11Extend7Xx1Nu10Xx38Le1Xx23Exte",
    "nd2Xx6Nu10Xx11Extend1Xx1Extend1Xx1Extend1Xx4Extend2Le8Xx1Le36Xx4Extend20Xx1Extend2Le5Extend11",
    "Xx1Extend36Xx9Extend1Xx100Extend20Xx1Nu10Xx12Extend4Xx4Extend3Xx1Extend3Xx2Extend7Xx3Extend4X",
    "x13Extend12Xx1Extend1Nu10Extend4Xx2Le38Xx1Le1Xx5Le1Xx2Le43Xx1Le333Xx1Le4Xx2Le7Xx1Le1Xx1Le4Xx2",
    "Le41Xx1Le4Xx2Le33Xx1Le4Xx2Le7Xx1Le1Xx1Le4Xx2Le15Xx1Le57Xx1Le4Xx2Le67Xx2Extend3Xx32Le16Xx16Le8",
    "6Xx2Le6Xx3Le620Xx2Le17Wsegspace1Le26Xx5Le75Xx3Le11Xx7Le18Extend4Xx9Le19Extend3Xx11Le18Extend2",
    "Xx12Le13Xx1Le3Xx1Extend2Xx64Extend32Xx9Extend1Xx2Nu10Xx33Extend3Fo1Extend1Nu10Xx6Le89Xx7Le5Ex",
    "tend2Le34Extend1Le1Xx5Le70Xx10Le31Xx1Extend12Xx4Extend12Xx10Nu10Xx128Nu10Xx38Le23Extend5Xx57E",
    "xtend10Xx1Extend29Xx2Extend1Nu10Xx6Nu10Xx22Extend31Xx49Extend5Le47Extend17Le8Xx3Nu10Xx17Exten",
    "d9Xx12Extend3Le30Extend13Le2Nu10Le44Extend14Xx12Le36Extend20Xx8Nu10Xx3Le3Nu10Le36Xx2Le9Xx7Le4",
    "3Xx2Le3Xx16Extend3Xx1Extend21Le4Extend1Le6Extend1Le2Extend3Le1Xx5Le192Extend64Le278Xx2Le6Xx2L",
    "e38Xx2Le6Xx2Le8Xx1Le1Xx1Le1Xx1Le1Xx1Le31Xx2Le53Xx1Le7Xx1Le1Xx3Le3Xx1Le7Xx3Le4Xx2Le6Xx4Le13Xx5",
    "Le3Xx1Le7Xx3Wsegspace7Xx1Wsegspace3Xx1Extend1Zwj1Fo2Xx8Mb2Xx10Mb1Xx2Ml1Nl2Fo5Ex1Xx15Ex2Xx3Mn1",
    "Xx15Ex1Xx10Wsegspace1Fo5Xx1Fo10Xx1Le1Xx13Le1Xx16Le13Xx51Extend33Xx17Le1Xx4Le1Xx2Le10Xx1Le1Xx3",
    "Le5Xx6Le1Xx1Le1Xx1Le1Xx1Le4Xx1Le11Xx2Le4Xx5Le5Xx4Le1Xx17Le41Xx813Le52Xx1814Le229Xx6Le4Extend3",
    "Le2Xx12Le38Xx1Le1Xx5Le1Xx2Le56Xx7Le1Xx15Extend1Le23Xx9Le7Xx1Le7Xx1Le7Xx1Le7Xx1Le7Xx1Le7Xx1Le7",
    "Xx1Le7Xx1Extend32Xx47Le1Xx464Wsegspace1Xx4Le1Xx36Extend6Xx1Ka5Xx5Le2Xx92Extend2Ka2Xx3Ka91Xx1K",
    "a4Xx5Le43Xx1Le94Xx17Le32Xx48Ka16Xx208Ka47Xx1Ka88Xx27816Le1165Xx67Le46Xx2Le269Xx3Le16Nu10Le2Xx",
    "20Le47Extend4Xx1Extend10Xx1Le31Extend2Le80Extend2Xx22Le195Xx5Le2Xx1Le1Xx1Le5Xx24Le16Extend1Le",
    "3Extend1Le4Extend1Le23Extend5Xx4Extend1Xx19Le52Xx12Extend2Le50Extend18Xx10Nu10Xx6Extend18Le6X",
    "x3Le1Xx1Le2Extend1Nu10Le28Extend8Xx2Le23Extend13Xx12Le29Xx3Extend4Le47Extend14Xx14Le1Nu10Xx11",
    "Extend1Xx10Nu10Xx6Le41Extend14Xx9Le3Extend1Le8Extend2Xx2Nu10Xx33Extend3Xx50Extend1Xx1Extend3X",
    "x2Extend2Xx5Extend2Xx1Extend1Xx30Le11Extend5Xx2Le3Extend2Xx10Le6Xx2Le6Xx2Le6Xx9Le7Xx1Le7Xx1Le",
    "58Xx6Le115Extend8Xx1Extend2Xx2Nu10Xx6Le11172Xx12Le23Xx4Le49Xx8964Le7Xx12Le5Xx5Hl1Extend1Hl10X",
    "x1Hl13Xx1Hl5Xx1Hl1Xx1Hl2Xx1Hl2Xx1Hl10Le98Xx33Le363Xx18Le64Xx2Le54Xx40Le12Xx4Extend16Mn1Xx2Ml1",
    "Mn1Xx11Extend16Xx3Ex2Xx24Ex3Mn1Xx1Mb1Xx1Mn1Ml1Xx26Le5Xx1Le135Xx2Fo1Xx7Mb1Xx4Mn1Xx1Mb1Xx1Nu10M",
    "l1Mn1Xx5Le26Xx4Ex1Xx1Le26Xx11Ka56Extend2Le31Xx3Le6Xx2Le6Xx2Le6Xx2Le3Xx28Fo3Xx4Le12Xx1Le26Xx1L",
    "e19Xx1Le2Xx1Le15Xx2Le14Xx34Le123Xx69Le53Xx136Extend1Xx130Le29Xx3Le49Xx15Extend1Xx31Le32Xx13Le",
    "30Xx5Le38Extend5Xx5Le30Xx2Le36Xx4Le8Xx1Le5Xx42Le158Xx2Nu10Xx6Le36Xx4Le36Xx4Le40Xx8Le52Xx12Le1",
    "1Xx1Le15Xx1Le7Xx1Le2Xx1Le11Xx1Le15Xx1Le7Xx1Le2Xx67Le311Xx9Le22Xx10Le8Xx24Le6Xx1Le42Xx1Le9Xx69",
    "Le6Xx2Le1Xx1Le44Xx1Le2Xx3Le1Xx2Le23Xx10Le23Xx9Le31Xx65Le19Xx1Le2Xx10Le22Xx10Le26Xx70Le56Xx6Le",
    "2Xx64Le1Extend3Xx1Extend2Xx5Extend4Le4Xx1Le3Xx1Le29Xx2Extend3Xx4Extend1Xx32Le29Xx3Le29Xx35Le8",
    "Xx1Le28Extend2Xx25Le54Xx10Le22Xx10Le19Xx13Le18Xx110Le73Xx55Le51Xx13Le51Xx13Le36Extend4Xx8Nu10",
    "Xx326Le42Xx1Extend2Xx3Le2Xx75Extend3Le29Xx10Le1Xx8Le22Extend11Xx31Le18Extend4Xx42Le21Xx27Le23",
    "Xx9Extend3Le53Extend15Xx31Nu10Extend1Le2Extend2Le1Xx9Extend4Le45Extend11Xx2Fo1Xx4Extend1Xx10F",
    "o1Xx2Le25Xx7Nu10Xx6Extend3Le36Extend14Xx1Nu10Xx4Le1Extend2Le1Xx8Le35Extend1Xx2Le1Xx9Extend3Le",
    "48Extend14Le4Xx4Extend4Xx1Extend2Nu10Le1Xx1Le1Xx35Le18Xx1Le25Extend12Xx6Extend1Le2Extend1Xx62",
    "Le7Xx1Le1Xx1Le4Xx1Le15Xx1Le10Xx7Le47Extend12Xx5Nu10Xx6Extend4Xx1Le8Xx2Le2Xx2Le22Xx1Le7Xx1Le2X",
    "x1Le5Xx1Extend2Le1Extend7Xx2Extend2Xx2Extend3Xx2Le1Xx6Extend1Xx5Le5Extend2Xx2Extend7Xx3Extend",
    "5Xx139Le53Extend18Le4Xx5Nu10Xx4Extend1Le3Xx30Le48Extend20Le2Xx1Le1Xx8Nu10Xx166Le47Extend7Xx2E",
    "xtend9Xx23Le4Extend2Xx34Le48Extend17Xx3Le1Xx11Nu10Xx38Le43Extend13Le1Xx7Nu10Xx83Extend15Xx4Nu",
    "10Xx198Le44Extend15Xx101Le64Nu10Xx21Le8Xx2Le1Xx2Le8Xx1Le2Xx1Le24Extend6Xx1Extend2Xx2Extend4Le",
    "1Extend1Le1Extend2Xx12Nu10Xx70Le8Xx2Le39Extend7Xx2Extend7Le1Xx1Le1Extend1Xx27Le1Extend10Le40E",
    "xtend7Le1Extend4Xx8Extend1Xx8Le1Extend11Le46Extend16Xx3Le1Xx18Le73Xx263Le9Xx1Le37Extend8Xx1Ex",
    "tend8Le1Xx15Nu10Xx24Le30Xx2Extend22Xx1Extend14Xx73Le7Xx1Le2Xx1Le38Extend6Xx3Extend1Xx1Extend2",
    "Xx1Extend7Le1Extend1Xx8Nu10Xx6Le6Xx1Le2Xx1Le32Extend5Xx1Extend2Xx1Extend5Le1Xx7Nu10Xx310Le19E",
    "xtend4Xx9Extend2Le1Extend1Le13Xx1Le34Extend7Xx3Extend5Xx13Nu10Xx86Le1Xx79Le922Xx102Le111Xx17L",
    "e196Xx2636Le97Xx15Le1072Fo16Extend1Le6Extend15Xx4010Le583Xx8633Le569Xx7Le31Xx1Nu10Xx6Le79Xx1N",
    "u10Xx6Le30Xx2Extend5Xx11Le48Extend7Xx9Le4Xx12Nu10Xx9Le21Xx5Le19Xx688Le64Xx128Le75Xx4Extend1Le",
    "1Extend55Xx7Extend4Le13Xx64Le2Xx1Le1Extend1Xx11Extend2Xx16382Ka4Xx1Ka7Xx1Ka2Xx1Ka1Xx287Ka3Xx5",
    "0Ka1Xx14Ka4Xx2712Le107Xx5Le13Xx3Le9Xx7Le10Xx3Extend2Xx1Fo4Xx4700Extend46Xx2Extend23Xx542Exten",
    "d5Xx3Extend6Fo8Extend8Xx2Extend7Xx30Extend4Xx148Extend3Xx443Le85Xx1Le71Xx1Le2Xx2Le1Xx2Le2Xx2L",
    "e4Xx1Le12Xx1Le1Xx1Le7Xx1Le65Xx1Le4Xx2Le8Xx1Le7Xx1Le28Xx1Le4Xx1Le5Xx1Le1Xx3Le7Xx1Le340Xx2Le25X",
    "x1Le25Xx1Le31Xx1Le25Xx1Le31Xx1Le25Xx1Le31Xx1Le25Xx1Le31Xx1Le25Xx1Le8Xx2Nu50Xx512Extend55Xx4Ex",
    "tend50Xx8Extend1Xx14Extend1Xx22Extend5Xx1Extend15Xx1104Le31Xx6Le6Xx213Extend7Xx1Extend17Xx2Ex",
    "tend7Xx1Extend2Xx1Extend5Xx5Le62Xx33Extend1Xx112Le45Xx3Extend7Le7Xx2Nu10Xx4Le1Xx321Le30Extend",
    "1Xx17Le44Extend4Nu10Xx470Le28Extend4Nu10Xx742Le7Xx1Le4Xx1Le2Xx1Le15Xx1Le197Xx11Extend7Xx41Le6",
    "8Extend7Le1Xx4Nu10Xx1190Le4Xx1Le27Xx1Le2Xx1Le1Xx2Le1Xx1Le10Xx1Le4Xx1Le1Xx1Le1Xx6Le1Xx4Le1Xx1L",
    "e1Xx1Le1Xx1Le3Xx1Le2Xx1Le1Xx2Le1Xx1Le1Xx1Le1Xx1Le1Xx1Le1Xx1Le2Xx1Le1Xx2Le4Xx1Le7Xx1Le4Xx1Le4X",
    "x1Le1Xx1Le10Xx1Le17Xx5Le3Xx1Le5Xx1Le17Xx628Le26Xx6Le26Xx6Le26Xx92Ri26Xx507Extend5Xx2032Nu10Xx",
    "787463Fo1Xx30Extend96Xx128Extend240Xx196112"]

def wordPartTable : Array (Nat × String) := decodeRuns wordPartRuns

def wordPartNames : List (String × String) :=
  [("Le", "aletter"), ("Cr", "cr"), ("Dq", "doublequote"), ("Extend", "extend"),
    ("Ex", "extendnumlet"), ("Fo", "format"), ("Hl", "hebrewletter"), ("Ka", "katakana"),
    ("Lf", "lf"), ("Ml", "midletter"), ("Mn", "midnum"), ("Mb", "midnumlet"), ("Nl", "newline"),
    ("Nu", "numeric"), ("Ri", "regionalindicator"), ("Sq", "singlequote"),
    ("Wsegspace", "wsegspace"), ("Zwj", "zwj")]

/-- The class of a code point among the parts of a word. -/
def wordPart (c : Char) : String :=
  lookupRun wordPartTable c.toNat 0 wordPartTable.size

/-- Runs of classes, with `Ca` for the letters whose class is that of their case. -/
def sentencePartRuns : List String :=
  ["Xx9Sp1Lf1Sp2Cr1Xx18Sp1St1Cl1Xx4Cl3Xx2Sc2At1Xx1Nu10Sc1Xx4St1Xx1Ca26Cl1Xx1Cl1Xx3Ca26Cl1Xx1Cl1Xx",
    "7Se1Xx26Sp1Xx9Ca1Cl1Xx1Fo1Xx7Ca1Xx4Ca1Cl1Xx4Ca23Xx1Ca31Xx1Ca458Xx4Ca12Xx14Ca5Xx7Ca1Xx1Ca1Xx17",
    "Ex112Ca5Xx1Ca2Xx2Ca4Xx1Ca1Xx6Ca1Xx1Ca3Xx1Ca1Xx1Ca20Xx1Ca83Xx1Ca139Xx1Ex7Ca166Xx1Ca38Xx2Ca1Xx3",
    "Sc1Xx2Ca41St1Xx7Ex45Xx1Ex1Xx1Ex2Xx1Ex2Xx1Ex1Xx8Ca27Xx4Ca5Xx12Fo6Xx6Sc2Xx2Ex11Xx1Fo1St3Ca43Ex2",
    "1Nu10Xx1Nu2Xx1Ca2Ex1Ca99St1Ca1Ex7Fo1Xx1Ex6Ca2Ex2Xx1Ex4Ca2Nu10Ca3Xx2Ca1St3Xx12Fo1Ca1Ex1Ca30Ex2",
    "7Xx2Ca89Ex11Ca1Xx14Nu10Ca33Ex9Ca2Xx2Sc1St1Ca1Xx2Ex1Xx2Ca22Ex4Ca1Ex9Ca1Ex3Ca1Ex5Xx9St1Xx1St1Xx",
    "3St2Xx1Ca25Ex3Xx4Ca11Xx5Ca24Xx1Ca6Xx1Fo2Xx6Ex8Ca42Ex24Fo1Ex33Ca54Ex3Ca1Ex18Ca1Ex7Ca10Ex2St2Nu",
    "10Xx1Ca16Ex3Xx1Ca8Xx2Ca2Xx2Ca22Xx1Ca7Xx1Ca1Xx3Ca4Xx2Ex1Ca1Ex7Xx2Ex2Xx2Ex3Ca1Xx8Ex1Xx4Ca2Xx1Ca",
    "3Ex2Xx2Nu10Ca2Xx10Ca1Xx1Ex1Xx2Ex3Xx1Ca6Xx4Ca2Xx2Ca22Xx1Ca7Xx1Ca2Xx1Ca2Xx1Ca2Xx2Ex1Xx1Ex5Xx4Ex",
    "2Xx2Ex3Xx3Ex1Xx7Ca4Xx1Ca1Xx7Nu10Ex2Ca3Ex1Xx11Ex3Xx1Ca9Xx1Ca3Xx1Ca22Xx1Ca7Xx1Ca2Xx1Ca5Xx2Ex1Ca",
    "1Ex8Xx1Ex3Xx1Ex3Xx2Ca1Xx15Ca2Ex2Xx2Nu10Xx9Ca1Ex6Xx1Ex3Xx1Ca8Xx2Ca2Xx2Ca22Xx1Ca7Xx1Ca2Xx1Ca5Xx",
    "2Ex1Ca1Ex7Xx2Ex2Xx2Ex3Xx7Ex3Xx4Ca2Xx1Ca3Ex2Xx2Nu10Xx1Ca1Xx16Ex1Ca1Xx1Ca6Xx3Ca3Xx1Ca4Xx3Ca2Xx1",
    "Ca1Xx1Ca2Xx3Ca2Xx3Ca3Xx3Ca12Xx4Ex5Xx3Ex3Xx1Ex4Xx2Ca1Xx6Ex1Xx14Nu10Xx16Ex5Ca8Xx1Ca3Xx1Ca23Xx1C",
    "a16Xx2Ex1Ca1Ex7Xx1Ex3Xx1Ex4Xx7Ex2Xx1Ca3Xx2Ca1Xx2Ca2Ex2Xx2Nu10Xx16Ca1Ex3Xx1Ca8Xx1Ca3Xx1Ca23Xx1",
    "Ca10Xx1Ca5Xx2Ex1Ca1Ex7Xx1Ex3Xx1Ex4Xx7Ex2Xx6Ca2Xx1Ca2Ex2Xx2Nu10Xx1Ca2Ex1Xx12Ex4Ca9Xx1Ca3Xx1Ca4",
    "1Ex2Ca1Ex7Xx1Ex3Xx1Ex4Ca1Xx5Ca3Ex1Xx7Ca3Ex2Xx2Nu10Xx10Ca6Xx1Ex3Xx1Ca18Xx3Ca24Xx1Ca9Xx1Ca1Xx2C",
    "a7Xx3Ex1Xx4Ex6Xx1Ex1Xx1Ex8Xx6Nu10Xx2Ex2Xx13Ca48Ex1Ca2Ex7Xx5Ca7Ex8Xx1Nu10Xx39Ca2Xx1Ca1Xx1Ca5Xx",
    "1Ca24Xx1Ca1Xx1Ca10Ex1Ca2Ex9Ca1Xx2Ca5Xx1Ca1Xx1Ex7Xx1Nu10Xx2Ca4Xx32Ca1Xx23Ex2Xx6Nu10Xx11Ex1Xx1E",
    "x1Xx1Ex1Cl4Ex2Ca8Xx1Ca36Xx4Ex20Xx1Ex2Ca5Ex11Xx1Ex36Xx9Ex1Xx57Ca43Ex20Ca1Nu10St2Xx4Ca6Ex4Ca4Ex",
    "3Ca1Ex3Ca2Ex7Ca3Ex4Ca13Ex12Ca1Ex1Nu10Ex4Xx2Ca38Xx1Ca1Xx5Ca1Xx2Le43Xx1Ca1Le3Ca329Xx1Ca4Xx2Ca7X",
    "x1Ca1Xx1Ca4Xx2Ca41Xx1Ca4Xx2Ca33Xx1Ca4Xx2Ca7Xx1Ca1Xx1Ca4Xx2Ca15Xx1Ca57Xx1Ca4Xx2Ca67Xx2Ex3Xx2St",
    "1Xx4St2Xx23Ca16Xx16Ca86Xx2Ca6Xx3Ca620Xx1St1Ca17Sp1Ca26Cl2Xx3Ca75Xx3Ca11Xx7Ca18Ex4Xx9Ca19Ex3St",
    "2Xx9Ca18Ex2Xx12Ca13Xx1Ca3Xx1Ex2Xx12Ca52Ex32Xx3Ca1Xx4Ca1Ex1Xx2Nu10Xx24Sc1St1Xx4Sc1St1Xx1Ex3Fo1",
    "Ex1Nu10Xx6Ca89Xx7Ca5Ex2Ca34Ex1Ca1Xx5Ca70Xx10Ca31Xx1Ex12Xx4Ex12Xx8St2Nu10Ca30Xx2Ca5Xx11Ca44Xx4",
    "Ca26Xx6Nu10Xx38Ca23Ex5Xx4Ca53Ex10Xx1Ex29Xx2Ex1Nu10Xx6Nu10Xx13Ca1St4Xx4Ex31Xx49Ex5Ca47Ex17Ca8X",
    "x3Nu10St2Xx2St2Xx11Ex9Xx9St2Xx1Ex3Ca30Ex13Ca2Nu10Ca44Ex14Xx12Ca36Ex20Xx3St2Xx3Nu10Xx3Ca3Nu10C",
    "a36St2Ca9Xx7Le43Xx2Le3Xx16Ex3Xx1Ex21Ca4Ex1Ca6Ex1Ca2Ex3Ca1Xx5Ca192Ex64Ca278Xx2Ca6Xx2Ca38Xx2Ca6",
    "Xx2Ca8Xx1Ca1Xx1Ca1Xx1Ca1Xx1Ca31Xx2Ca53Xx1Ca7Xx1Ca1Xx3Ca3Xx1Ca7Xx3Ca4Xx2Ca6Xx4Ca13Xx5Ca3Xx1Ca7",
    "Xx3Sp11Fo1Ex2Fo2Xx3Sc2Xx3Cl8Xx4At1Xx3Se2Fo5Sp1Xx9Cl2Xx1St2Xx7Cl2St3Xx21Sp1Fo5Xx1Fo10Xx1Ca1Xx1",
    "1Cl2Ca1Xx13Cl2Xx1Ca13Xx51Ex33Xx17Ca1Xx4Ca1Xx2Ca10Xx1Ca1Xx3Ca5Xx6Ca1Xx1Ca1Xx1Ca1Xx1Ca4Xx1Ca11X",
    "x2Ca4Xx5Ca5Xx4Ca1Xx17Ca41Xx383Cl4Xx29Cl2Xx395Ca52Xx625Cl6Xx7Cl14Xx79Cl2Xx31Cl10Xx403Cl22Xx63C",
    "l4Xx32Cl2Xx514Ca229Xx6Ca4Ex3Ca2Xx12Ca38Xx1Ca1Xx5Ca1Xx2Ca56Xx7Ca1Xx15Ex1Ca23Xx9Ca7Xx1Ca7Xx1Ca7",
    "Xx1Ca7Xx1Ca7Xx1Ca7Xx1Ca7Xx1Ca7Xx1Ex32Cl14Xx14Cl2Xx2Cl10Xx4St1Ca1Xx12St1Xx5Cl1Xx16St2Cl8Xx419S",
    "p1Sc1St1Xx2Ca3Cl10Xx2Cl8Xx1Cl3Xx1Ca9Ex6Xx1Ca5Xx2Ca5Xx4Ca86Xx2Ex2Xx2Ca3Xx1Ca90Xx1Ca4Xx5Ca43Xx1",
    "Ca94Xx17Ca32Xx48Ca16Xx512Ca6592Xx64Ca22157Xx67Ca46Xx1St1Ca269Xx1St2Ca16Nu10Ca2Xx20Ca47Ex4Xx1E",
    "x10Xx1Ca31Ex2Ca80Ex2Xx1St1Xx3St1Xx31Ca9Xx2Ca103Xx2Ca64Xx5Ca2Xx1Ca1Xx1Ca5Xx24Ca16Ex1Ca3Ex1Ca4E",
    "x1Ca23Ex5Xx4Ex1Xx19Ca52Xx2St2Xx8Ex2Ca50Ex18Xx8St2Nu10Xx6Ex18Ca6Xx3Ca1Xx1Ca2Ex1Nu10Ca28Ex8Xx1S",
    "t1Ca23Ex13Xx12Ca29Xx3Ex4Ca47Ex14Xx7St2Xx5Ca1Nu10Xx6Ca5Ex1Ca10Nu10Ca5Xx1Ca41Ex14Xx9Ca3Ex1Ca8Ex",
    "2Xx2Nu10Xx3St3Ca23Xx3Ca1Ex3Ca50Ex1Ca1Ex3Ca2Ex2Ca5Ex2Ca1Ex1Ca1Xx24Ca3Xx2Ca11Ex5St2Ca3Ex2Xx10Ca",
    "6Xx2Ca6Xx2Ca6Xx9Ca7Xx1Ca7Xx1Ca43Xx1Ca14Xx6Ca115Ex8St1Ex2Xx2Nu10Xx6Ca11172Xx12Ca23Xx4Ca49Xx845",
    "2Ca366Xx2Ca106Xx38Ca7Xx12Ca5Xx5Ca1Ex1Ca10Xx1Ca13Xx1Ca5Xx1Ca1Xx1Ca2Xx1Ca2Xx1Ca108Xx33Ca363Cl2X",
    "x16Ca64Xx2Ca54Xx40Ca12Xx4Ex16Sc2Xx1Sc1Xx3Cl2Xx7Ex16Xx1Sc2Xx2Cl16Xx2Cl2Xx7Sc2At1Xx2Sc1St2Sc1Cl",
    "6Xx4Sc1Xx12Ca5Xx1Ca135Xx2Fo1Xx1St1Xx6Cl2Xx2Sc2At1Xx1Nu10Sc1Xx4St1Xx1Ca26Cl1Xx1Cl1Xx3Ca26Cl1Xx",
    "1Cl1Xx1Cl2St1Cl2Sc1Xx1Ca56Ex2Ca31Xx3Ca6Xx2Ca6Xx2Ca6Xx2Ca3Xx28Fo3Xx4Ca12Xx1Ca26Xx1Ca19Xx1Ca2Xx",
    "1Ca15Xx2Ca14Xx34Ca123Xx69Ca53Xx136Ex1Xx130Ca29Xx3Ca49Xx15Ex1Xx31Ca32Xx13Ca30Xx5Ca38Ex5Xx5Ca30",
    "Xx2Ca36Xx4Ca8Xx1Ca5Xx42Ca158Xx2Nu10Xx6Ca36Xx4Ca36Xx4Ca40Xx8Ca52Xx12Ca11Xx1Ca15Xx1Ca7Xx1Ca2Xx1",
    "Ca11Xx1Ca15Xx1Ca7Xx1Ca2Xx67Ca311Xx9Ca22Xx10Ca8Xx24Ca6Xx1Ca42Xx1Ca9Xx69Ca6Xx2Ca1Xx1Ca44Xx1Ca2X",
    "x3Ca1Xx2Ca23Xx10Ca23Xx9Ca31Xx65Ca19Xx1Ca2Xx10Ca22Xx10Ca26Xx70Ca56Xx6Ca2Xx64Ca1Ex3Xx1Ex2Xx5Ex4",
    "Ca4Xx1Ca3Xx1Ca29Xx2Ex3Xx4Ex1Xx22St2Xx8Ca29Xx3Ca29Xx35Ca8Xx1Ca28Ex2Xx25Ca54Xx10Ca22Xx10Ca19Xx1",
    "3Ca18Xx110Ca73Xx55Ca51Xx13Ca51Xx13Ca36Ex4Xx8Nu10Xx326Ca42Xx1Ex2Xx3Ca2Xx75Ex3Ca29Xx10Ca1Xx8Ca2",
    "2Ex11Xx4St5Xx22Ca18Ex4St4Xx38Ca21Xx27Ca23Xx9Ex3Ca53Ex15St2Xx29Nu10Ex1Ca2Ex2Ca1Xx9Ex4Ca45Ex11X",
    "x2Fo1St4Ex1Xx10Fo1Xx2Ca25Xx7Nu10Xx6Ex3Ca36Ex14Xx1Nu10Xx1St3Ca1Ex2Ca1Xx8Ca35Ex1Xx2Ca1Xx9Ex3Ca4",
    "8Ex14Ca4St2Xx2Ex4St1Ex2Nu10Ca1Xx1Ca1Xx1St2Xx32Ca18Xx1Ca25Ex12St2Xx1St2Xx1Ex1Ca2Ex1Xx62Ca7Xx1C",
    "a1Xx1Ca4Xx1Ca15Xx1Ca10St1Xx6Ca47Ex12Xx5Nu10Xx6Ex4Xx1Ca8Xx2Ca2Xx2Ca22Xx1Ca7Xx1Ca2Xx1Ca5Xx1Ex2C",
    "a1Ex7Xx2Ex2Xx2Ex3Xx2Ca1Xx6Ex1Xx5Ca5Ex2Xx2Ex7Xx3Ex5Xx139Ca53Ex18Ca4St2Xx3Nu10Xx4Ex1Ca3Xx30Ca48",
    "Ex20Ca2Xx1Ca1Xx8Nu10Xx166Ca47Ex7Xx2Ex9Xx1St2Xx5St15Ca4Ex2Xx34Ca48Ex17St2Xx1Ca1Xx11Nu10Xx38Ca4",
    "3Ex13Ca1Xx7Nu10Xx54Ca27Xx2Ex15Xx4Nu10Xx2St3Xx1Ca7Xx185Ca44Ex15Xx101Ca64Nu10Xx21Ca8Xx2Ca1Xx2Ca",
    "8Xx1Ca2Xx1Ca24Ex6Xx1Ex2Xx2Ex4Ca1Ex1Ca1Ex2St1Xx1St1Xx9Nu10Xx70Ca8Xx2Ca39Ex7Xx2Ex7Ca1Xx1Ca1Ex1X",
    "x27Ca1Ex10Ca40Ex7Ca1Ex4Xx3St2Xx3Ex1Xx8Ca1Ex11Ca46Ex16Xx1St2Ca1Xx18Ca73Xx263Ca9Xx1Ca37Ex8Xx1Ex",
    "8Ca1St2Xx13Nu10Xx24Ca30Xx2Ex22Xx1Ex14Xx73Ca7Xx1Ca2Xx1Ca38Ex6Xx3Ex1Xx1Ex2Xx1Ex7Ca1Ex1Xx8Nu10Xx",
    "6Ca6Xx1Ca2Xx1Ca32Ex5Xx1Ex2Xx1Ex5Ca1Xx7Nu10Xx310Ca19Ex4St2Xx7Ex2Ca1Ex1Ca13Xx1Ca34Ex7Xx3Ex5St2X",
    "x11Nu10Xx86Ca1Xx79Ca922Xx102Ca111Xx17Ca196Xx2636Ca97Xx15Ca1072Fo16Ex1Ca6Ex15Xx4010Ca583Xx8633",
    "Ca569Xx7Ca31Xx1Nu10Xx4St2Ca79Xx1Nu10Xx6Ca30Xx2Ex5St1Xx10Ca48Ex7St2Xx7Ca4St1Xx11Nu10Xx9Ca21Xx5",
    "Ca19Xx688Ca64Xx24St1Xx103Ca75Xx4Ex1Ca1Ex55Xx7Ex4Ca13Xx64Ca2Xx1Ca1Ex1Xx11Ex2Xx14Ca6136Xx8Ca123",
    "8Xx42Ca9Xx8935Ca4Xx1Ca7Xx1Ca2Xx1Ca291Xx15Ca1Xx29Ca3Xx2Ca1Xx14Ca4Xx8Ca396Xx2308Ca107Xx5Ca13Xx3",
    "Ca9Xx7Ca10Xx3Ex2St1Fo4Xx4700Ex46Xx2Ex23Xx542Ex5Xx3Ex6Fo8Ex8Xx2Ex7Xx30Ex4Xx148Ex3Xx443Ca85Xx1C",
    "a71Xx1Ca2Xx2Ca1Xx2Ca2Xx2Ca4Xx1Ca12Xx1Ca1Xx1Ca7Xx1Ca65Xx1Ca4Xx2Ca8Xx1Ca7Xx1Ca28Xx1Ca4Xx1Ca5Xx1",
    "Ca1Xx3Ca7Xx1Ca340Xx2Ca25Xx1Ca25Xx1Ca31Xx1Ca25Xx1Ca31Xx1Ca25Xx1Ca31Xx1Ca25Xx1Ca31Xx1Ca25Xx1Ca8",
    "Xx2Nu50Xx512Ex55Xx4Ex50Xx8Ex1Xx14Ex1Xx3St1Xx18Ex5Xx1Ex15Xx1104Ca31Xx6Ca6Xx213Ex7Xx1Ex17Xx2Ex7",
    "Xx1Ex2Xx1Ex5Xx5Ca62Xx33Ex1Xx112Ca45Xx3Ex7Ca7Xx2Nu10Xx4Ca1Xx321Ca30Ex1Xx17Ca44Ex4Nu10Xx470Ca28",
    "Ex4Nu10Xx742Ca7Xx1Ca4Xx1Ca2Xx1Ca15Xx1Ca197Xx11Ex7Xx41Ca68Ex7Ca1Xx4Nu10Xx1190Ca4Xx1Ca27Xx1Ca2X",
    "x1Ca1Xx2Ca1Xx1Ca10Xx1Ca4Xx1Ca1Xx1Ca1Xx6Ca1Xx4Ca1Xx1Ca1Xx1Ca1Xx1Ca3Xx1Ca2Xx1Ca1Xx2Ca1Xx1Ca1Xx1",
    "Ca1Xx1Ca1Xx1Ca1Xx1Ca2Xx1Ca1Xx2Ca4Xx1Ca7Xx1Ca4Xx1Ca4Xx1Ca1Xx1Ca10Xx1Ca17Xx5Ca3Xx1Ca5Xx1Ca17Xx6",
    "28Ca26Xx6Ca26Xx6Ca26Xx1260Cl3Xx1399Nu10Xx1030Ca42720Xx32Ca4154Xx6Ca222Xx2Ca5762Xx14Ca7473Xx31",
    "03Ca542Xx1506Ca4939Xx5Ca4192Xx711761Fo1Xx30Ex96Xx128Ex240Xx196112"]

def sentencePartTable : Array (Nat × String) := decodeRuns sentencePartRuns

def sentencePartNames : List (String × String) :=
  [("At", "aterm"), ("Cl", "close"), ("Cr", "cr"), ("Ex", "extend"), ("Fo", "format"), ("Lf", "lf"),
    ("Lo", "lower"), ("Nu", "numeric"), ("Le", "oletter"), ("Sc", "scontinue"), ("St", "sterm"),
    ("Se", "sep"), ("Sp", "sp"), ("Up", "upper")]

/-- The class of a code point among the parts of a sentence. -/
def sentencePart (c : Char) : String :=
  match lookupRun sentencePartTable c.toNat 0 sentencePartTable.size with
  | "Ca" =>
    if isLowercase c then "Lo"
    else if isUppercase c || category c = "Lt" then "Up"
    else "Le"
  | part => part

end Architecture.Unicode
