import Architecture.Unicode.Category

/-!
Properties that a code point has or has not, apart from those that its category decides.

Most of them are had by all of some categories, with exceptions. The exceptions are written as
runs: `Y` where the property is had and `N` where it is not, whatever the category, and `K` where
the category decides.
-/

namespace Architecture.Unicode

/-- A property by its names, in small letters and without separators. -/
structure Flag where
  names : List String
  categories : List String
  exceptions : Array (Nat × String)

namespace Flag

def ofRuns (names categories lines : List String) : Flag where
  names
  categories
  exceptions := decodeRuns lines

def holds (f : Flag) (c : Char) : Bool :=
  match lookupRun f.exceptions c.toNat 0 f.exceptions.size with
  | "Y" => true
  | "N" => false
  | _ => f.categories.contains (category c)

end Flag

def flags : List Flag :=
  [.ofRuns ["asciihexdigit", "ahex"] [] ["K48Y10K7Y6K26Y6K1"],
    .ofRuns ["alphabetic", "alpha"] ["Ll", "Lm", "Lo", "Lt", "Lu", "Nl"]
      ["K837Y1K618Y14K1Y1K1Y2K1Y2K1Y1K72Y11K48Y13K1Y7K16Y1K101Y7K4Y4K2Y2K4Y1K35Y1K30Y16K102Y11K10",
        "1Y2K3Y9K1Y3K1Y4K167Y12K3Y7K6Y20K54Y2K2Y15K1Y2K5Y3K10Y2K29Y3K58Y7K2Y2K2Y2K10Y1K10Y2K29Y3K5",
        "8Y5K4Y2K2Y2K4Y1K30Y2K3Y1K11Y3K58Y8K1Y3K1Y2K21Y2K22Y3K4Y3K58Y7K2Y2K2Y2K9Y2K10Y2K30Y1K59Y5K",
        "3Y3K1Y3K10Y1K40Y5K57Y7K1Y3K1Y3K8Y2K11Y2K29Y3K58Y7K1Y3K1Y3K8Y2K11Y2K15Y1K12Y4K58Y7K1Y3K1Y3",
        "K10Y1K10Y2K29Y3K75Y6K1Y1K1Y8K18Y2K61Y1K2Y7K18Y1K99Y1K2Y6K1Y2K16Y1K163Y19K9Y11K1Y36K110Y12",
        "K1Y1K2Y4K23Y4K4Y3K1Y3K2Y7K3Y4K13Y12K1Y1K10Y4K1652Y2K30Y2K30Y2K30Y2K66Y19K188Y2K34Y1K118Y1",
        "2K4Y9K222Y5K57Y10K2Y20K74Y2K11Y3K49Y5K48Y15K60Y3K30Y9K2Y2K57Y11K50Y19K432Y14K1729Y52K2294",
        "Y32K30836Y8K34Y2K354Y1K8Y1K23Y5K88Y2K50Y16K1Y1K57Y1K38Y5K28Y12K45Y4K48Y12K37Y1K67Y14K12Y1",
        "K8Y2K45Y3K50Y1K1Y3K2Y2K5Y1K44Y5K5Y1K237Y8K20275Y1K2135Y5K1670Y3K1Y2K5Y4K788Y4K387Y2K339Y3",
        "K53Y14K45Y2K11Y3K45Y9K9Y1K61Y3K36Y12K18Y2K57Y3K48Y13K14Y2K92Y9K2Y1K6Y1K2Y1K157Y10K23Y4K58",
        "Y7K2Y2K2Y2K10Y1K10Y2K209Y13K1Y3K106Y18K237Y7K2Y7K29Y2K82Y15K1Y1K106Y11K103Y14K257Y13K247Y",
        "6K1Y2K2Y2K3Y1K1Y1K142Y7K2Y6K4Y1K28Y10K42Y5K1Y4K18Y11K46Y14K407Y8K1Y7K83Y22K1Y14K122Y6K3Y1",
        "K1Y2K1Y3K1Y1K3Y1K66Y5K1Y2K1Y4K348Y4K9Y2K1Y1K48Y7K3Y3K20494Y1K1Y55K7Y4K93Y2K19628Y1K9057Y7",
        "K1Y17K2Y7K1Y2K1Y5K100Y1K2231Y1K2024Y26K6Y26K6Y26K1"],
    .ofRuns ["bidicontrol", "bidic"] [] ["K1564Y1K6641Y2K26Y5K55Y4K1"],
    .ofRuns ["caseignorable", "ci"] ["Cf", "Lm", "Me", "Mn", "Sk"]
      ["K39Y1K6Y1K11Y1K124Y1K719Y1K471Y1K148Y1K6691Y2K10Y1K2Y1K56811Y1K62Y1K2Y1K177Y1K6Y1K11Y1K1"],
    .ofRuns ["cased"] ["Ll", "Lt", "Lu"]
      ["K170Y1K15Y1K501Y9K7Y2K30Y5K96Y1K52Y1K3457Y1K3119Y63K13Y1K34Y37K689Y1K13Y1K16Y13K195Y32K82",
        "2Y52K1938Y2K31262Y2K210Y1K129Y3K3Y2K866Y4K9Y1K23574Y1K2Y3K1Y42K1Y9K55413Y62K4290Y26K6Y26K",
        "6Y26K1"],
    .ofRuns ["changeswhencasefolded", "cwcf"] ["Lt", "Lu"]
      ["K181Y1K41Y1K105Y1K53Y1K453Y1K124Y1K13Y2N3Y2K25Y2K3Y1K401Y1K3608N86K2Y6K2178Y9K529Y2K228Y8",
        "K8Y8K8Y8K10Y3K2Y1K10Y3K2Y1K42Y3K2Y1K266N1K4N1K3N3K2N3K2N1K3N5K6N1K3N1K3N2K2N2K1N1K10N2K5N",
        "1K26Y16K838Y26K34464Y80K20288Y7K12Y5K55528N26K26N26K26N26K26N1K1N2K2N1K2N2K2N4K1N8K26N26K",
        "26N2K1N4K2N8K1N7K27N2K1N4K1N5K1N1K3N7K27N26K26N26K26N26K26N26K26N26K26N26K30N25K33N25K33N",
        "25K33N25K33N25K33N1K1"],
    .ofRuns ["changeswhencasemapped", "cwcm"] ["Ll", "Lt", "Lu"]
      ["K312N1K84N1K13N1K14N2K14N1K3N1K98N1K18N6K27N1K2N1K1N1K2N3K2N1K1N1K2N1K5N2K1N1K2N2K1N7K1N2",
        "K1N1K2N3K6N5K1N1K1N8K2N17K149Y1K140N3K39N1K355N1K39N1K6007N44K63N13K2N3K1N16K1N12K257N2K1",
        "N1K610N1K4N1K2N10K1N1K3N5K6N1K3N1K3N2K1N3K1N2K4N1K2N4K5N5K22Y32K822Y52K1927N1K2N1K2N5K104",
        "N1K31307N2K63N8K21N1K6N1K25N1K35N1K1N1K36N1K821N35K1N7K5N9K75927N85K1N71K1N2K2N1K2N2K2N4K",
        "1N12K1N1K1N7K1N65K1N4K2N8K1N7K1N28K1N4K1N5K1N1K3N7K1N340K2N25K1N25K1N31K1N25K1N31K1N25K1N",
        "31K1N25K1N31K1N25K1N8K1844N10K1N20K6N6K1"],
    .ofRuns ["changeswhenlowercased", "cwl"] ["Lt", "Lu"]
      ["K978N3K7469N1K4N1K3N3K2N3K2N1K3N5K6N1K3N1K3N2K2N2K1N1K10N2K5N1K26Y16K838Y26K110384N26K26N",
        "26K26N26K26N1K1N2K2N1K2N2K2N4K1N8K26N26K26N2K1N4K2N8K1N7K27N2K1N4K1N5K1N1K3N7K27N26K26N26",
        "K26N26K26N26K26N26K26N26K30N25K33N25K33N25K33N25K33N25K33N1K1"],
    .ofRuns ["changeswhentitlecased", "cwt"] ["Ll"]
      ["K312N1K84N1K13N1K14N2K14N1K3N1K5Y1K2Y1K2Y1K38Y1K47N1K18N6K27N1K2N1K1N1K2N3K2N1K1N1K2N1K5N",
        "2K1N1K2N2K1N7K1N2K1N1K2N3K6N5K1N1K1N8K2N17K149Y1K182N1K355N1K39N1K2887N43K2N3K3072N44K63N",
        "13K2N3K1N16K1N12K257N2K1N1K618N1K3N2K3N1K27N1K4N1K4N1K2N2K8N4K38Y16K848Y26K1927N1K2N1K2N5",
        "K104N1K31307N2K63N8K21N1K6N1K25N1K35N1K1N1K36N1K821N35K1N7K5N9K75953N26K26N7K1N18K26N26K2",
        "6N4K1N1K1N7K1N11K26N26K26N26K26N26K26N26K26N26K26N26K26N26K26N26K26N28K28N25K1N6K26N25K1N",
        "6K26N25K1N6K26N25K1N6K26N25K1N6K1N1K1844N10K1N20K6N6K1"],
    .ofRuns ["changeswhenuppercased", "cwu"] ["Ll", "Lt"]
      ["K312N1K84N1K13N1K14N2K14N1K3N1K98N1K18N6K27N1K2N1K1N1K2N3K2N1K1N1K2N1K5N2K1N1K2N2K1N7K1N2",
        "K1N1K2N3K6N5K1N1K1N8K2N17K149Y1K182N1K355N1K39N1K6007N44K63N13K2N3K1N16K1N12K257N2K1N1K61",
        "8N1K3N2K3N1K27N1K4N1K4N1K2N2K8N4K38Y16K848Y26K1927N1K2N1K2N5K104N1K31307N2K63N8K21N1K6N1K",
        "25N1K35N1K1N1K36N1K821N35K1N7K5N9K75953N26K26N7K1N18K26N26K26N4K1N1K1N7K1N11K26N26K26N26K",
        "26N26K26N26K26N26K26N26K26N26K26N26K26N28K28N25K1N6K26N25K1N6K26N25K1N6K26N25K1N6K26N25K1",
        "N6K1N1K1844N10K1N20K6N6K1"],
    .ofRuns ["dash"] ["Pd"] ["K8275Y1K39Y1K15Y1K390Y1K1"],
    .ofRuns ["defaultignorablecodepoint", "di"] []
      ["K173Y1K673Y1K716Y1K2882Y2K1619Y2K85Y5K2043Y5K26Y5K49Y16K4340Y1K52379Y16K239Y1K160Y1K79Y9K",
        "48295Y4K5327Y8K798341Y4096K1"],
    .ofRuns ["deprecated", "dep"] [] ["K329Y1K1321Y1K2307Y1K1Y1K2089Y2K2245Y6K697Y2K908502Y1K1"],
    .ofRuns ["diacritic", "dia"] ["Sk"]
      ["K183Y1K504Y18K4Y12K14Y5K7Y1K1Y1K17Y79K1Y8K5Y6K17Y1K5Y1K264Y5K209Y1K55Y17K1Y27K1Y1K1Y2K1Y1",
        "K134Y8K4Y2K134Y2K4Y2K3Y3K67Y27K91Y11K58Y11K34Y2K110N1K15Y8K41Y10K16Y28K61Y1K16Y1K3Y4K28Y1",
        "K74Y1K16Y1K110Y1K16Y1K110Y1K16Y1K47Y3K60Y1K16Y1K7Y1K119Y1K110Y1K16Y1K110Y1K16Y1K109Y2K16Y",
        "1K124Y1K124Y6K1Y1K107Y1K13Y5K75Y2K27Y1K1Y1K1Y1K4Y2K66Y3K1Y2K62Y1K112Y1K1Y2K40Y2K4Y5K25Y7K",
        "1Y1K10Y2K705Y3K948Y2K179Y11K9Y1K347Y3K313Y8K2Y1K48Y15K2Y11K104Y1K15Y1K38Y9K54Y2K138Y2K64Y",
        "6K82Y25K4Y1K6Y1K2Y3K50Y63K89Y12K37Y11K3823Y3K317Y1K506Y6K105Y2K97Y1K30066Y1K12Y2K1Y1K28Y2",
        "K82Y2K37Y9K104Y1K111Y2K202Y1K27Y18K57Y4K36Y1K95Y1K12Y1K36Y1K149Y3K65Y4K51Y1K101Y4K9Y1K130",
        "Y2K20272Y1K147N17K605Y16K320Y1K45Y2K832Y1K1183Y6K1Y42K1Y9K810Y2K571Y6K469Y3K70Y11K49Y4K19",
        "2Y1K41Y1K72Y2K120Y2K62Y1K76Y1K9Y3K104Y2K178Y2K81Y1K16Y1K24Y7K3Y5K205Y1K3Y1K123Y2K251Y2K12",
        "6Y1K118Y2K115Y1K269Y2K258Y2K4Y1K156Y1K83Y1K18Y1K81Y1K421Y1K258Y1K1Y2K81Y1K5807Y15K13978Y5",
        "K59Y7K1112Y17K80Y2K16382Y4K1Y7K1Y2K7937Y46K2Y23K544Y3K3Y6K8Y8K2Y7K30Y4K3714Y62K194Y7K375Y",
        "1K61Y4K1504Y7K109Y3K1Y3K2736N5K1"],
    .ofRuns ["emoji"] []
      ["K35Y1K6Y1K5Y10K111Y1K4Y1K8077Y1K12Y1K216Y1K22Y1K90Y6K15Y2K367Y2K12Y1K166Y1K25Y11K4Y3K199Y",
        "1K231Y2K10Y1K9Y1K58Y4K1Y5K9Y1K2Y1K2Y2K2Y1K4Y1K2Y1K1Y2K2Y1K3Y1K3Y2K8Y3K5Y1K1Y1K5Y12K11Y2K2",
        "Y1K1Y2K1Y1K18Y1K2Y2K18Y6K1Y1K1Y2K3Y2K5Y1K2Y2K4Y2K11Y2K5Y2K2Y1K5Y2K1Y1K1Y2K20Y2K5Y6K1Y4K2Y",
        "1K4Y1K2Y1K2Y6K1Y1K2Y1K1Y1K1Y1K6Y1K3Y1K6Y1K10Y2K15Y1K2Y1K4Y1K1Y1K4Y3K1Y1K11Y2K48Y3K9Y1K14Y",
        "1K14Y1K372Y2K463Y3K19Y2K51Y1K4Y1K1242Y1K12Y1K601Y1K1Y1K114026Y1K202Y1K160Y2K12Y2K14Y1K2Y1",
        "0K75Y26K1Y2K23Y1K20Y1K2Y9K21Y2K174Y34K2Y112K2Y2K1Y3K2Y83K2Y3K1Y263K1Y63K11Y6K1Y24K7Y2K2Y8",
        "K12Y1K2Y4K2Y1K4Y2K13Y2K2Y1K8Y2K9Y1K5Y3K12Y3K8Y3K2Y1K1Y1K4Y1K6Y1K3Y1K6Y86K48Y70K5Y8K2Y3K4Y",
        "10K3Y1K1Y2K3Y1K2Y10K227Y12K4Y1K283Y47K1Y10K1Y185K112Y13K3Y9K7Y46K1Y7K8Y14K4Y9K7Y9K1"],
    .ofRuns ["emojicomponent", "ecomp"] []
      ["K35Y1K6Y1K5Y10K8147Y1K213Y1K56619Y1K62422Y26K507Y5K1456Y4K788076Y96K1"],
    .ofRuns ["emojimodifier", "emod"] [] ["K127995Y5K1"],
    .ofRuns ["emojimodifierbase", "ebase"] []
      ["K9757Y1K219Y1K16Y4K117879Y1K60Y3K2Y1K2Y3K117Y2K2Y11K21Y19K3Y1K4Y3K1Y3K7Y1K1Y1K24Y1K201Y2K",
        "4Y1K21Y1K4Y2K174Y3K3Y5K83Y1K16Y3K9Y1K11Y1K575Y1K2Y1K8Y8K6Y1K9Y10K2Y3K56Y1K61Y2K1Y2K1Y1K17",
        "Y3K1Y13K229Y3K42Y9K1"],
    .ofRuns ["emojipresentation", "epres"] []
      ["K8986Y2K205Y4K3Y1K2Y1K521Y2K21Y2K50Y12K43Y1K19Y1K13Y1K8Y2K17Y2K5Y2K8Y1K5Y1K21Y1K7Y2K1Y1K4",
        "Y1K2Y1K7Y1K4Y2K28Y1K35Y1K1Y1K4Y3K1Y1K61Y3K24Y1K14Y1K859Y2K51Y1K4Y1K115886Y1K202Y1K190Y1K2",
        "Y10K75Y26K1Y1K24Y1K20Y1K2Y5K1Y3K21Y2K174Y33K12Y9K1Y70K1Y22K12Y43K4Y5K12Y17K3Y1K3Y71K1Y1K1",
        "Y187K2Y63K13Y4K1Y24K18Y1K26Y2K13Y1K86Y85K48Y70K6Y1K3Y3K2Y3K4Y4K11Y2K7Y9K227Y12K4Y1K283Y47",
        "K1Y10K1Y185K112Y13K3Y9K7Y46K1Y7K8Y14K4Y9K7Y9K1"],
    .ofRuns ["extendedpictographic", "extpict"] []
      ["K169Y1K4Y1K8077Y1K12Y1K216Y1K22Y1K90Y6K15Y2K367Y2K12Y1K95Y1K70Y1K25Y11K4Y3K199Y1K231Y2K10",
        "Y1K9Y1K58Y4K1Y6K1Y12K1Y114K10Y118K2Y11K1Y1K1Y1K6Y1K3Y1K6Y1K10Y2K15Y1K2Y1K4Y1K1Y1K4Y3K1Y1K",
        "11Y5K45Y3K9Y1K14Y1K14Y1K372Y2K463Y3K19Y2K51Y1K4Y1K1242Y1K12Y1K601Y1K1Y1K114022Y256K13Y3K3",
        "1Y1K60Y6K12Y2K14Y1K2Y10K18Y57K27Y15K10Y1K20Y1K2Y9K1Y4K9Y434K5Y318K8Y266K48Y128K116Y12K85Y",
        "43K12Y4K56Y8K10Y6K40Y8K30Y82K12Y47K1Y10K1Y441K256Y1022K1"],
    .ofRuns ["extender", "ext"] []
      ["K183Y1K536Y2K878Y1K441Y1K858Y1K752Y1K127Y1K2371Y1K56Y1K611Y1K398Y1K68Y1K5001Y1K43Y5K103Y2",
        "K93Y3K28438Y1K1526Y1K962Y1K22Y1K137Y1K108Y1K21Y2K21627Y1K2064Y2K3034Y1K616Y3K1231Y1K20649",
        "Y2K1180Y2K1Y1K29016Y2K2054Y3K1"],
    .ofRuns ["graphemebase", "grbase"] ["Ll", "Lm", "Lo", "Lt", "Lu", "Mc", "Nd", "Nl", "No", "Pc",
      "Pd", "Pe", "Pf", "Pi", "Po", "Ps", "Sc", "Sk", "Sm", "So", "Zs"]
      ["K2494N1K24N1K358N1K24N1K102N1K24N1K234N1K18N2K103N1K24N1K119N1K15N1K3413N1K5368N2K53102N2",
        "K5022N1K24N1K344N1K12N1K241N1K896N1K47156N1K8N5K1"],
    .ofRuns ["graphemeextend", "grext"] ["Me", "Mn"]
      ["K2494Y1K24Y1K358Y1K24Y1K102Y1K24Y1K234Y1K18Y2K103Y1K24Y1K119Y1K15Y1K3413Y1K1238Y1K4129Y2K",
        "53102Y2K5022Y1K24Y1K344Y1K12Y1K241Y1K896Y1K47156Y1K8Y5K798381Y96K1"],
    .ofRuns ["graphemelink", "grlink"] []
      ["K2381Y1K127Y1K127Y1K127Y1K127Y1K127Y1K127Y1K127Y1K109Y2K16Y1K124Y1K111Y1K127Y1K201Y1K180Y",
        "2K1753Y2K30Y1K157Y1K653Y1K227Y1K101Y2K70Y2K4491Y1K31366Y1K37Y1K151Y1K142Y1K108Y1K309Y1K24",
        "6Y1K24145Y1K1542Y1K41Y1K14Y1K57Y1K121Y2K139Y1K116Y1K180Y1K98Y1K244Y1K127Y1K252Y1K127Y1K11",
        "8Y1K116Y1K269Y1K259Y2K161Y1K83Y1K18Y1K81Y1K421Y1K260Y2K81Y1K425Y2K1"],
    .ofRuns ["hexdigit", "hex"] [] ["K48Y10K7Y6K26Y6K65193Y10K7Y6K26Y6K1"],
    .ofRuns ["hyphen"] [] ["K45Y1K127Y1K1244Y1K4731Y1K2057Y2K3589Y1K739Y1K52583Y1K169Y1K87Y1K1"],
    .ofRuns ["idsbinaryoperator", "idsb"] [] ["K12272Y2K2Y8K1"],
    .ofRuns ["idstrinaryoperator", "idst"] [] ["K12274Y2K1"],
    .ofRuns ["idcontinue", "idc"] ["Ll", "Lm", "Lo", "Lt", "Lu", "Mc", "Mn", "Nd", "Nl", "Pc"]
      ["K183Y1K719Y1K4065Y9K1640Y1K1853Y1K21Y1K3328N1K619Y2K1"],
    .ofRuns ["idstart", "ids"] ["Ll", "Lm", "Lo", "Lt", "Lu", "Nl"]
      ["K6277Y2K2193Y1K21Y1K3328N1K619Y2K1"],
    .ofRuns ["ideographic", "ideo"] []
      ["K12294Y2K25Y9K14Y3K965Y6592K64Y20992K22784Y366K2Y106K29962Y1K27Y6136K8Y1238K42Y9K9319Y396",
        "K19716Y42720K32Y4154K6Y222K2Y5762K14Y7473K3103Y542K1506Y4939K5Y4192K1"],
    .ofRuns ["joincontrol", "joinc"] [] ["K8204Y2K1"],
    .ofRuns ["logicalorderexception", "loe"] [] ["K3648Y5K123Y5K2800Y3K2Y1K37114Y2K2Y1K1Y2K1"],
    .ofRuns ["lowercase", "lower"] ["Ll"]
      ["K170Y1K15Y1K501Y9K7Y2K30Y5K96Y1K52Y1K3457Y1K3119Y63K13Y1K34Y37K689Y1K13Y1K16Y13K211Y16K84",
        "8Y26K1938Y2K31262Y2K210Y1K129Y3K3Y2K866Y4K9Y1K23574Y1K2Y3K1Y42K1Y9K55413Y62K1"],
    .ofRuns ["math"] ["Sm"]
      ["K94Y1K881Y3K2Y1K26Y2K2Y2K7200Y1K27Y3K11Y1K32Y4K24Y2K14Y2K65Y13K4Y1K3Y2K4Y5K18Y1K4Y1K2Y10K",
        "1Y1K3Y5K6Y1K3Y2K2Y2K1Y3K1Y6K3Y4K5Y5K75Y5K2Y4K1Y2K1Y2K1Y1K1Y5K2Y2K4Y2K4Y18K2Y2K1Y1K1Y7K1Y1",
        "K6Y2K290Y4K168Y2K1Y1K24Y1K17Y1K445Y2K12Y9K5Y5K5Y2K2Y2K3Y5K14Y1K1Y1K2Y6K24Y2K57Y1K1Y1K29Y4",
        "K9Y2K342Y2K31Y10K403Y22K63Y4K32Y2K54371Y1K1Y1K4Y1K211Y1K1Y1K54465Y85K1Y71K1Y2K2Y1K2Y2K2Y4",
        "K1Y12K1Y1K1Y7K1Y65K1Y4K2Y8K1Y7K1Y28K1Y4K1Y5K1Y1K3Y7K1Y340K2Y25K1Y25K1Y31K1Y25K1Y31K1Y25K1",
        "Y31K1Y25K1Y31K1Y25K1Y8K2Y50K5632Y4K1Y27K1Y2K1Y1K2Y1K1Y10K1Y4K1Y1K1Y1K6Y1K4Y1K1Y1K1Y1K1Y3K",
        "1Y2K1Y1K2Y1K1Y1K1Y1K1Y1K1Y1K1Y2K1Y1K2Y4K1Y7K1Y4K1Y4K1Y1K1Y10K1Y17K5Y3K1Y5K1Y17K1"],
    .ofRuns ["noncharactercodepoint", "nchar"] []
      ["K64976Y32K526Y2K65534Y2K65534Y2K65534Y2K65534Y2K65534Y2K65534Y2K65534Y2K65534Y2K65534Y2K6",
        "5534Y2K65534Y2K65534Y2K65534Y2K65534Y2K65534Y2K65534Y2"],
    .ofRuns ["otheralphabetic", "oalpha"] []
      ["K837Y1K618Y14K1Y1K1Y2K1Y2K1Y1K72Y11K48Y13K1Y7K16Y1K101Y7K4Y4K2Y2K4Y1K35Y1K30Y16K102Y11K10",
        "1Y2K3Y9K1Y3K1Y4K167Y12K3Y7K6Y20K54Y2K2Y15K1Y2K5Y3K10Y2K29Y3K58Y7K2Y2K2Y2K10Y1K10Y2K29Y3K5",
        "8Y5K4Y2K2Y2K4Y1K30Y2K3Y1K11Y3K58Y8K1Y3K1Y2K21Y2K22Y3K4Y3K58Y7K2Y2K2Y2K9Y2K10Y2K30Y1K59Y5K",
        "3Y3K1Y3K10Y1K40Y5K57Y7K1Y3K1Y3K8Y2K11Y2K29Y3K58Y7K1Y3K1Y3K8Y2K11Y2K15Y1K12Y4K58Y7K1Y3K1Y3",
        "K10Y1K10Y2K29Y3K75Y6K1Y1K1Y8K18Y2K61Y1K2Y7K18Y1K99Y1K2Y6K1Y2K16Y1K163Y19K9Y11K1Y36K110Y12",
        "K1Y1K2Y4K23Y4K4Y3K1Y3K2Y7K3Y4K13Y12K1Y1K10Y4K1652Y2K30Y2K30Y2K30Y2K66Y19K188Y2K34Y1K118Y1",
        "2K4Y9K222Y5K57Y10K2Y20K74Y2K11Y3K49Y5K48Y15K60Y3K30Y9K2Y2K57Y11K50Y19K432Y14K1729Y52K2294",
        "Y32K30836Y8K34Y2K354Y1K8Y1K23Y5K88Y2K50Y16K1Y1K57Y1K38Y5K28Y12K45Y4K48Y12K37Y1K67Y14K12Y1",
        "K8Y2K45Y3K50Y1K1Y3K2Y2K5Y1K44Y5K5Y1K237Y8K20275Y1K2135Y5K1670Y3K1Y2K5Y4K788Y4K387Y2K339Y3",
        "K53Y14K45Y2K11Y3K45Y9K9Y1K61Y3K36Y12K18Y2K57Y3K48Y13K14Y2K92Y9K2Y1K6Y1K2Y1K157Y10K23Y4K58",
        "Y7K2Y2K2Y2K10Y1K10Y2K209Y13K1Y3K106Y18K237Y7K2Y7K29Y2K82Y15K1Y1K106Y11K103Y14K257Y13K247Y",
        "6K1Y2K2Y2K3Y1K1Y1K142Y7K2Y6K4Y1K28Y10K42Y5K1Y4K18Y11K46Y14K407Y8K1Y7K83Y22K1Y14K122Y6K3Y1",
        "K1Y2K1Y3K1Y1K3Y1K66Y5K1Y2K1Y4K348Y4K9Y2K1Y1K48Y7K3Y3K20494Y1K1Y55K7Y4K93Y2K19628Y1K9057Y7",
        "K1Y17K2Y7K1Y2K1Y5K100Y1K2231Y1K2024Y26K6Y26K6Y26K1"],
    .ofRuns ["otherdefaultignorablecodepoint", "odi"] []
      ["K847Y1K3599Y2K1619Y2K2223Y1K4350Y1K52795Y1K79Y9K851975Y1K1Y30K96Y128K240Y3600K1"],
    .ofRuns ["othergraphemeextend", "ogrext"] []
      ["K2494Y1K24Y1K358Y1K24Y1K102Y1K24Y1K234Y1K18Y2K103Y1K24Y1K119Y1K15Y1K3413Y1K1238Y1K4129Y2K",
        "53102Y2K5022Y1K24Y1K344Y1K12Y1K241Y1K896Y1K47156Y1K8Y5K798381Y96K1"],
    .ofRuns ["otheridcontinue", "oidc"] [] ["K183Y1K719Y1K4065Y9K1640Y1K1"],
    .ofRuns ["otheridstart", "oids"] [] ["K6277Y2K2193Y1K21Y1K3948Y2K1"],
    .ofRuns ["otherlowercase", "olower"] []
      ["K170Y1K15Y1K501Y9K7Y2K30Y5K96Y1K52Y1K3457Y1K3119Y63K13Y1K34Y37K689Y1K13Y1K16Y13K211Y16K84",
        "8Y26K1938Y2K31262Y2K210Y1K129Y3K3Y2K866Y4K9Y1K23574Y1K2Y3K1Y42K1Y9K55413Y62K1"],
    .ofRuns ["othermath", "omath"] []
      ["K94Y1K881Y3K2Y1K26Y2K2Y2K7200Y1K27Y3K11Y1K32Y4K24Y2K14Y2K65Y13K4Y1K3Y2K4Y5K18Y1K4Y1K2Y10K",
        "1Y1K3Y5K6Y1K3Y2K2Y2K1Y3K1Y6K3Y4K5Y5K75Y5K2Y4K1Y2K1Y2K1Y1K1Y5K2Y2K4Y2K4Y18K2Y2K1Y1K1Y7K1Y1",
        "K6Y2K290Y4K168Y2K1Y1K24Y1K17Y1K445Y2K12Y9K5Y5K5Y2K2Y2K3Y5K14Y1K1Y1K2Y6K24Y2K57Y1K1Y1K29Y4",
        "K9Y2K342Y2K31Y10K403Y22K63Y4K32Y2K54371Y1K1Y1K4Y1K211Y1K1Y1K54465Y85K1Y71K1Y2K2Y1K2Y2K2Y4",
        "K1Y12K1Y1K1Y7K1Y65K1Y4K2Y8K1Y7K1Y28K1Y4K1Y5K1Y1K3Y7K1Y340K2Y25K1Y25K1Y31K1Y25K1Y31K1Y25K1",
        "Y31K1Y25K1Y31K1Y25K1Y8K2Y50K5632Y4K1Y27K1Y2K1Y1K2Y1K1Y10K1Y4K1Y1K1Y1K6Y1K4Y1K1Y1K1Y1K1Y3K",
        "1Y2K1Y1K2Y1K1Y1K1Y1K1Y1K1Y1K1Y2K1Y1K2Y4K1Y7K1Y4K1Y4K1Y1K1Y10K1Y17K5Y3K1Y5K1Y17K1"],
    .ofRuns ["otheruppercase", "oupper"] [] ["K8544Y16K838Y26K117856Y26K6Y26K6Y26K1"],
    .ofRuns ["patternsyntax", "patsyn"] ["Pe", "Pf", "Pi", "Ps"]
      ["K33Y7K2Y6K10Y7K27Y1K1Y1K1Y1K27Y1K1Y1K34Y7K1Y1K2Y1K1Y1K1Y2K4Y1K8Y1K23Y1K31Y1K3650N4K1885N2",
        "K2419Y8K8Y8K8Y9K2Y4K2Y4K2Y13K1Y10K30N2K14N2K257Y376K4Y29K2Y309K160Y616K44Y49K2Y31K10Y403K",
        "22Y63K4Y32K2Y514K512Y2K4Y3K2Y1K2Y14K2Y2K10Y24K1Y18K8Y35K385Y3K14Y2K8Y1K3Y1K15Y1K52710N2K2",
        "8N16Y2N2K16N6K169N2K49N1K1N1K29N1K1N1K1N2K1N2K1"],
    .ofRuns ["patternwhitespace", "patws"] ["Zl", "Zp"] ["K9Y5K18Y1K100Y1K8072Y2K1"],
    .ofRuns ["prependedconcatenationmark", "pcm"] []
      ["K1536Y6K215Y1K49Y1K384Y2K80Y1K67546Y1K15Y1K1"],
    .ofRuns ["quotationmark", "qmark"] []
      ["K34Y1K4Y1K131Y1K15Y1K8028Y8K25Y2K3591Y1K457Y4K13Y3K52769Y4K189Y1K4Y1K90Y2K1"],
    .ofRuns ["radical"] [] ["K11904Y26K1Y89K12Y214K1"],
    .ofRuns ["regionalindicator", "ri"] [] ["K127462Y26K1"],
    .ofRuns ["sentenceterminal", "sterm"] []
      ["K33Y1K12Y1K16Y1K1353Y1K147Y3K180Y1K43Y3K246Y1K61Y1K1Y1K3Y2K293Y2K1764Y2K790Y1K4Y2K773Y1K1",
        "98Y2K204Y1K5Y1K314Y2K354Y4K174Y2K2Y2K29Y2K188Y2K65Y2K956Y2K9Y3K3556Y1K13Y1K22Y2K429Y1K299",
        "48Y1K270Y2K227Y1K3Y1K382Y2K86Y2K95Y1K152Y2K147Y3K144Y2K249Y1K21094Y1K3Y2K169Y1K12Y1K16Y1K",
        "65Y1K2804Y2K1277Y5K44Y4K189Y2K117Y4K127Y3K129Y2K6Y1K16Y2K88Y2K1Y2K108Y1K417Y2K373Y2K5Y15K",
        "105Y2K249Y3K517Y1K1Y1K251Y2K87Y2K420Y2K692Y2K74Y2K19241Y2K133Y1K65Y2K11Y1K851Y1K19974Y1K7",
        "656Y1K1"],
    .ofRuns ["softdotted", "sd"] []
      ["K105Y2K196Y1K281Y1K30Y1K52Y1K20Y1K320Y1K98Y1K1Y1K6409Y1K51Y1K13Y1K3Y1K132Y1K157Y1K421Y1K2",
        "14Y2K2866Y1K108453Y2K50Y2K50Y2K50Y2K50Y2K50Y2K50Y2K50Y2K50Y2K50Y2K50Y2K50Y2K50Y2K2182Y1K3",
        "05Y2K26Y1K1"],
    .ofRuns ["terminalpunctuation", "term"] []
      ["K33Y1K10Y1K1Y1K11Y2K3Y1K830Y1K8Y1K513Y1K57Y1K72Y1K14Y1K1Y3K180Y1K43Y11K1Y1K235Y2K54Y15K31",
        "Y1K261Y2K1268Y2K172Y1K4Y6K311Y2K789Y8K773Y1K124Y3K71Y2K157Y3K3Y1K39Y4K2Y2K314Y2K354Y4K174",
        "Y2K1Y3K29Y2K188Y5K62Y2K956Y2K9Y3K3556Y1K13Y1K4Y1K10Y1K1Y2K3Y2K428Y2K29947Y2K269Y3K227Y5K3",
        "82Y2K86Y2K95Y1K151Y3K147Y3K127Y1K16Y2K249Y1K21092Y3K1Y4K169Y1K10Y1K1Y1K11Y2K3Y1K65Y1K2Y1K",
        "1082Y1K48Y1K1158Y1K199Y1K310Y2K152Y6K68Y6K89Y4K952Y5K44Y4K189Y7K112Y4K127Y3K129Y2K6Y1K16Y",
        "2K88Y5K108Y1K417Y3K12Y2K358Y4K3Y15K105Y2K249Y3K517Y1K1Y1K251Y2K87Y2K4Y2K414Y3K45Y1K645Y2K",
        "74Y2K1323Y5K17913Y2K133Y1K65Y3K10Y1K850Y2K19974Y1K7655Y4K1"],
    .ofRuns ["unifiedideograph", "uideo"] []
      ["K13312Y6592K64Y20992K23054Y2K1Y1K1Y2K10Y1K1Y1K1Y2K2Y3K67030Y42720K32Y4154K6Y222K2Y5762K14",
        "Y7473K5151Y4939K5Y4192K1"],
    .ofRuns ["uppercase", "upper"] ["Lu"] ["K8544Y16K838Y26K117856Y26K6Y26K6Y26K1"],
    .ofRuns ["variationselector", "vs"] [] ["K6155Y3K1Y1K58864Y16K852720Y240K1"],
    .ofRuns ["whitespace", "wspace", "space"] ["Zl", "Zp", "Zs"] ["K9Y5K119Y1K1"],
    .ofRuns ["xidcontinue", "xidc"] ["Ll", "Lm", "Lo", "Lt", "Lu", "Mc", "Mn", "Nd", "Nl", "Pc"]
      ["K183Y1K706N1K12Y1K4065Y9K1640Y1K1853Y1K21Y1K3328N1K52782N6K406N2K116N1K1N1K1N1K1N1K1N1K1N",
        "1K1N1K1N1K1"],
    .ofRuns ["xidstart", "xids"] ["Ll", "Lm", "Lo", "Lt", "Lu", "Nl"]
      ["K890N1K2744N1K127N1K2513Y2K2193Y1K21Y1K3328N1K52782N6K406N2K116N1K1N1K1N1K1N1K1N1K1N1K1N1",
        "K1N1K287N2K1"]]

/-- Whether a character has the property of that name. -/
def hasFlag (name : String) (c : Char) : Bool :=
  (flags.find? (·.names.contains name)).any (·.holds c)

end Architecture.Unicode
