import Architecture.Unicode.Runs

/-!
Versions of the standard in which code points were assigned, each with one capital.
-/

namespace Architecture.Unicode

/-- Runs of versions, with `Z` for what is not assigned. -/
def ageRuns : List String :=
  ["A502D4A30D8F1G1D18G3H11I14A89D5G2A47D1A10D5G17A70D9F1G8H5G3A2D1F13J4A2J2Z2A1I3A1P1Z4A7Z1A1Z1A",
    "20Z1A44J1A7D1F2A1D1A1D1A1D1A1D1A18E2F1G5H4D1A12D1A66D1A12D1A41J1D2F2D4A53F2A2F2A2F2I1A28D2A8H",
    "2A2I6F16I4J16K2L2P8Z1A38Z2A7T1A39T1A1D1Z2P2M1Z1B17H1B13A10I1A9B1H3Z8A27Z4T1A5Z11G4M1P1J5H1A1G",
    "9J5A1O1X1H1A1L1A26J5A19D3G3H6L1A14F2A72D2A5D1A15D1A30G2A10D5G1D14Z1D30G3D27Z2G3H30J18D49F1Z14",
    "I59Z2T3K46Z2K15Z1L28Z2L1Z1S11Z5X31Z1X2Z6X8M1P1M11P6Q2X1R8W10X11T1R15Q1M27P1K1A3G1A53L2A18K1L1",
    "A5K1L2A25J2L5P1K2I2H1I2P1A3Z1A8Z2A2Z2A22Z1A7Z1A1Z3A4Z2A1G1A7Z2A2Z2A3H1Z8A1Z4A2Z1A5Z2A21K1S2T1",
    "Z2G1A1G1Z1A6Z4A2Z2A22Z1A7Z1A2Z1A2Z1A2Z2A1Z1A5Z4A2Z2A3Z3J1Z7A4Z1A1Z7A15J1T1Z10A3Z1A7G1A1Z1A3Z1",
    "A22Z1A7Z1A2Z1A5Z2A10Z1A3Z1A3Z2A1Z15A1G3Z2A10M1G1Z7Q1S6Z1A3Z1A8Z2A2Z2A22Z1A7Z1A2Z1G1A4Z2A8J1Z2",
    "A2Z2A3Z7W1A2Z4A2Z1A3J2Z2A11G1L6Z10A2Z1A6Z3A3Z1A4Z3A2Z1A1Z1A2Z3A2Z3A3Z3A8H1A3Z4A5Z3A3Z1A4Z2J1Z",
    "6A1Z14H1A12G8Z5P1A3T1A8Z1A3Z1A23Z1A10P1A5Z2X1J1A7Z1A3Z1A4Z7A2Z1J2Q1Z2X1Z2A2J2Z2A10Z7U1J8R1P1A",
    "2T1A8Z1A3Z1A23Z1A10Z1A5Z2G2A7Z1A3Z1A4Z7A2Z6X1A1Z1A2I2Z2A10Z1I2Y1Z12S1P1A2W1A8Z1A3Z1A23L1A16L1",
    "S2J1A6J1Z1A3Z1A4L1R1Z4R3A1R7Q1A2J2Z2A10J6R3J7Z1W1D2Z1D18Z3D24Z1D9Z1D1Z2D7Z3D1Z4D6Z1D1Z1D8Z6P1",
    "0Z2D3Z12A58Z4A29Z37A2Z1A1Z1U1A2U1A1Z1U1A1U6A4U1A7U1A3Z1A1Z1A1U2A2U1A13U1A3Z2A5Z1A1Z1A6Y1Z1A10",
    "Z2A2M2Z32B72Z1B33D1J2Z4B27L4B6D1B1Z1B21D3B7D1B1D3Z1D15Z1J1D1H2J3K4L2Z37D34J1D5J1D2J1D7J3D4J6D",
    "26J64K4J2A38Z1M1Z5M1Z2A39F2H2A1H1M3A90K5A68K5A82K6D7H1D63H1D1Z1D4Z2D7Z1D1Z1D4Z2D39H1D1Z1D4Z2D",
    "31H1D1Z1D4Z2D7Z1D1Z1D4Z2D7H1D7Z1D23H1D31H1D1Z1D4Z2D7H1D39H1D19Z2L2H2D28Z3H26Z6D85Q1Z2Q6Z2K1D6",
    "30K9D29Z3D81P8Z7F13X1F7X1Z9X1F23Z9F20Z12F13Z1F3Z1F2Z12D93G1Z2D10Z6G10Z6D15X1D10Z6D88T1Z7D42J1",
    "Z5K70Z10G29P2Z1G12Z4G12Z4G1Z3G42Z2G5Z11H42K2Z4H26Z6H10K1Z3H2G32H28Z2H2K63Z1K29Z2K11Z6K10Z6K14",
    "Z2P15W2X14Z49I76X1Z3I45X2Z1J43M3J12M6L52Z8L4J56Z3J15Z3J51R9Z7T43Z2T3M8Z8K35M4S1P2U1Z5G108H88I",
    "7J28P15S4X1R1L1K1I2A155B1J4A90J6A22Z2A6Z2A38Z2A6Z2A8Z1A1Z1A1Z1A1Z1A31Z2A53Z1A15Z1A14Z2A6Z1A19",
    "Z2A3Z1A9Z1A47D1A23F1D6F5G2H2F1H7F5J1Z1O4A7F1Z2A27Z1H5L8Z3A11B1C1D3F2H4K3L1N1P3Q1S1X1Z15A18D2F",
    "7H1I4J1Z15A57D2G1H1F15H1I2J1K3A48D1I1J4K1Q2Z4A91D9F12A242F14A1D1A121D1F1D30F52G2H11I12K1L11P7",
    "R4S1A37D2Z25A11Z21A139F20G1A150F10A80D8F8A20G2F2H1D1A86D2F12H2F10G8H11J1K2G2H16I1J10K3J4K10L1",
    "K19L1K1L4K24P1A4L1A4L2A28L1A35L1A1L1A4L3A1K1A7L2A7F14A31L3A24L1A14L1H7I4M1J1M1L2F28J4F16D256F",
    "512G14H6I7J5I4J41P3J5K5P26Z2P32Z1W1P34T3P12U1P8S1T25Q4T15U1H47X1H47X1I13J3K1J3I4J6K2H107K7M2Z",
    "5H45Z1M1Z5M1Z2H54M2Z7H1L1Z14L1H23Z9H7Z1H7Z1H7Z1H7Z1H7Z1H7Z1H7Z1H7Z1J32H24J4H2J19K1M10P7R2S5T5",
    "U1W3X11Z34D26Z1D89Z12D214Z26D12Z4A56D3F3D1A1Z1A84F2Z2A6F2A94F1Z5A40J1S1T1Z1A94Z1A16D24L3W5H16",
    "J20Z12F16A29G2Z1A36K12G1F15A28G2H1A50F15A12G4A47V1A119G4A99G2A31G1D6582W10G64A20902H22J8K8M1Q",
    "9S21T5W13X3D1165Z3D18F2D16F1D12F1D3F1D1Z9K48J300Z20J32L2J18M8J28P6Q1M1K88Z8H23I4J5I2J107L2Q1L",
    "2M2P12L10M1P3R1T1P2Q6T2U6X2U5W4Z5X2Z1X1Z1X5Z24X3W2P1M2L1J5H44W1Z3K10Z6I56Z8J69R1Z8J12Z6K28Q2T",
    "2J84Z11J1K29Z3K78Z1K11Z4K2P31Z1J55Z9J14Z2J10Z2J4K28P4K67Z24K5M23Z10L6Z2L6Z2L6Z9L7Z1L7Z1P48Q4P",
    "2U2W4Z4Q80K46Z2K10Z6B11172Z12K23Z4K49Z4B2048A6702M2F59K3Z2H106Z38A7Z12A5Z5D1A25Z1A5Z1A1Z1A2Z1",
    "A2Z1A108L16X1Z16A365X16A64Z2A54Z7X1E32A12F1G1X2F16H10Z6A4J3P7Q2A21F2G2A10Z1A19Z1A4Z4A3F1A1Z1A",
    "135Z2A1Z1A94F2A94Z3A6Z2A6Z2A6Z2A3Z3A7Z1A7Z10D3C1A3G12Z1G26Z1G19Z1G2Z1G15Z2G14Z34G123Z5G3Z4G45",
    "Z3G9H75P2R2Z1J12W1Z3P1Z47J46Z130J29Z3J49Z15P28Z4E31P1E4Z9S3E27Z5P43Z5G30Z1G1H36Z4H14Z42E38G2E",
    "38G80Z2G10Z6R36Z4R36Z4P40Z8P52Z11P1X11Z1X15Z1X7Z1X2Z1X11Z1X15Z1X7Z1X2Z67P311Z9P22Z10P8Z24X6Z1",
    "X42Z1X9Z69G6Z2G1Z1G44Z1G2Z3G1Z2G1K22Z1K9P63Z8P9Z48Q19Z1Q2Z5Q5I26K2Z3I1J26Z5J1Z64M56Z4Q2M2Q16Z",
    "2Q46H4Z1H2Z5H8Z1H3Z1H27T2Z2H3Z4H9T1Z7H9Z7K32P32Z32P39Z4P12Z9K54Z3K29Z2K27Z5K8P18Z7P4Z12P7Z80K",
    "73Z55Q51Z13Q51Z7Q6T40Z8T10Z294K31Z1W42Z1W3Z2W2Z75Y3T40Z8T42Z22X26Z38W28Z20U23Z9L78Z4L30X6Z9P1",
    "K66X1Z10T1Z2M25Z7M10Z6M53Z1M14T3W1Z8P39Z9M73Q4P1W2M10P1Q5Z1P20Z11P18Z1P43R1Y3Z62Q7Z1Q1Z1Q4Z1Q",
    "15Z1Q11Z6P59Z5P10Z6Q1P3Z1P8Z2P2Z2P22Z1P7Z1P2Z1P5Z1T1P9Z2P2Z2P3Z2Q1Z6P1Z5P7Z2P7Z3P5Z139R90W1R1",
    "Z1R1T1U1W2Z30P72Z8P10Z166P54Z2P18Q20Z34P69Z11P10Z6R13Z19M56U1X1Z6M10Z54Q26T1Z2Q15Z4Q16X7Z185T",
    "60Z100P83Z12P1W7Z2W1Z2W8Z1W2Z1W30Z1W2Z2W12Z9W10Z70U8Z2U46Z2U11Z27S72Z8S52U2S23T1S5Z13X16P57Z7",
    "Y10Z246R9Z1R45Z1R14Z10R29Z3R32Z2R22Z1R14Z73S7Z1S2Z1S44Z3S1Z1S2Z1S9Z8S10Z6T6Z1T2Z1T37Z1T2Z1T6Z",
    "7T10Z310T25Z7Y17Z1Y41Z3Y28Z86W1Z15U50Z13U1I879P42Q1Z102I99P12Z1I4P1Z11Q196Z2636X99Z13K1071Y1U",
    "9Y29Z4010Q583Z8633L569Z7P31Z1P10Z4P2X79Z1X10Z6P30Z2P6Z10P70Z10P10Z1P7Z1P21Z5P19Z688T91Z101M69",
    "U6Z4U1M47U9Z7M17Z64R1S1U2W1Z11W2Z14R6125T5U6Z8R755W483Z42W9Z8935X4Z1X7Z1X2Z1L2S285X4Z15Y1Z29U",
    "3Z2Y1Z14U4Z8S396Z2308P107Z5P13Z3P9Z7P10Z2P8Z4700X46Z2X23Z9X116Z60E246Z10E39Z2J1E180Q11X2Z21H7",
    "0Z122Y20Z12T20Z12G87Z9I18T7Z135E85Z1E71Z1E2Z2E1Z2E2Z2E4Z1E12Z1E1Z1E4G1E2Z1E65Z1E4Z2E8Z1E7Z1E2",
    "8Z1E4Z1E5Z1E1Z3E7Z1E338H2Z2E290I2Z2E50Q652Z15Q5Z1Q15Z1104X31Z6Y6Z213R7Z1R17Z2R7Z1R2Z1R5Z5Y62Z",
    "33Y1Z112U45Z3U14Z2U10Z4U2Z320X31Z17U58Z5U1Z464Y42Z742X7Z1X4Z1X2Z1X15Z1P197Z2P16Z41R75U1Z4R10Z",
    "4R2Z785T68Z76U61Z194M4Z1M27Z1M2Z1M1Z2M1Z1M10Z1M4Z1M1Z1M1Z6M1Z4M1Z1M1Z1M1Z1M3Z1M2Z1M1Z2M1Z1M1Z",
    "1M1Z1M1Z1M1Z1M2Z1M1Z2M4Z1M7Z1M4Z1M4Z1M1Z1M10Z1M17Z5M3Z1M5Z1M17Z52M2Z270J44Z4J100Z12L15Z2L14P1",
    "Z1L15Z1L15P22Z10K11P2W3K31T1L1K1L11K1L1K1L2K1L3K1L3K5L8K1L7K1L10M2U1W3L9K1L1K2L2K1L10K4L2K1L1",
    "0R18W1Z56L26K1L2Z13K34L9R1Z4K9Z7L2Z14S6Z154L33P12Q3L6P1L70P1Q2L20P12L37P1L5P4Q5P12L17P7Q8L63P",
    "1L1P1L182P1L4P2Q1L62P2M4P7Q5L24P18R1P41R1P86L5M1L16M1L3M1L1M1L1M1L1M1L3M1L6M2L4M1L1M2L4M1L12P",
    "2Q2L11P48L70P10Q1R2S2U1W2Z4Y1X3P13Z3P4R3S2T1U1W2Z3L116Y3Z4Y5P85T4Y1Z6U12Z4X1Z15P12Z4P56Z8P10Z",
    "6P40Z8P30Z2W2Z78S12W1U3Q9R6S1R8S8R1S2R12U1R12S1T3R15S13T5U1W1T4W2X1T1U1T4Q5R13S6T11W2U6W3U2T1",
    "0U6Q1T2U8W1X1U3S23T25U84Z12T14Z2U4W1Y3U3X2Z3U3W4Y2Z7U6W19X4Y3W7X4Y3Z1Y1W3X3Z8Y2W7X3Y2Z4X8Y1Z7",
    "X7Y2Z7W147Z1W55Z37W10Z1028B2E42711W7X2Z32K4149X4Y1Z6L222Z2Q5762Z14S7473Z3103E542Z1504B2W4939Z",
    "5Y4192Z56398B2Z65534B2Z65534B2Z65534B2Z65534B2Z65534B2Z65534B2Z65534B2Z65534B2Z65534B2Z65534B",
    "2Z1E1Z30E96Z128G240Z65038B131074"]

/-- The versions by number, from the first to the last. -/
def versions : List (String × Char) :=
  [("1.1", 'A'), ("2.0", 'B'), ("2.1", 'C'), ("3.0", 'D'), ("3.1", 'E'), ("3.2", 'F'),
    ("4.0", 'G'), ("4.1", 'H'), ("5.0", 'I'), ("5.1", 'J'), ("5.2", 'K'), ("6.0", 'L'),
    ("6.1", 'M'), ("6.2", 'N'), ("6.3", 'O'), ("7.0", 'P'), ("8.0", 'Q'), ("9.0", 'R'),
    ("10.0", 'S'), ("11.0", 'T'), ("12.0", 'U'), ("12.1", 'V'), ("13.0", 'W'), ("14.0", 'X'),
    ("15.0", 'Y')]

def ageTable : Array (Nat × String) := decodeRuns ageRuns

/-- Whether a character was assigned in this version or before it. -/
def isAssignedIn (version : Char) (c : Char) : Bool :=
  (lookupRun ageTable c.toNat 0 ageTable.size).toList.any (· ≤ version)

end Architecture.Unicode
