import PaneRunner.Unicode.Table

/-
  The version of the Unicode Standard that a character appeared in. `ageText` lists runs of code
  points from zero on: the key of a version and the length of the run; the key A stands for none.
-/
namespace PaneRunner.Unicode

/-- The versions in their order, with the keys that stand for them in `ageText`. -/
def versions : List (Char × String) :=
  [('B', "1.1"), ('C', "2.0"), ('D', "2.1"), ('E', "3.0"), ('F', "3.1"), ('G', "3.2"),
    ('H', "4.0"), ('I', "4.1"), ('J', "5.0"), ('K', "5.1"), ('L', "5.2"), ('M', "6.0"),
    ('N', "6.1"), ('O', "6.2"), ('P', "6.3"), ('Q', "7.0"), ('R', "8.0"), ('S', "9.0"),
    ('T', "10.0"), ('U', "11.0"), ('V', "12.0"), ('W', "12.1"), ('X', "13.0"), ('Y', "14.0"),
    ('Z', "15.0"), ('a', "15.1"), ('b', "16.0")]

/-- The runs of equal versions, in the order of the code points. -/
def ageText : List String :=
  ["B502E4B30E8G1H1E18H3I11J14B89E5H2B47E1B10E5H17B70E9G1H8I5H3B2E1G13K4B2K2A2B1J3B1Q1A4B7A1B1A1",
    "B20A1B44K1B7E1G2B1E1B1E1B1E1B1E1B18F2G1H5I4E1B12E1B66E1B12E1B41K1E2G2E4B53G2B2G2B2G2J1B28E2",
    "B8I2B2J6G16J4K16L2M2Q8A1B38A2B7U1B39U1B1E1A2Q2N1A1C17I1C13B10J1B9C1I3A8B27A4U1B5A11H4N1Q1K5",
    "I1B1H9K5B1P1Y1I1B1M1B26K5B19E3H3I6M1B14G2B72E2B5E1B15E1B30H2B10E5H1E14A1E30H3E27A2H3I30K18",
    "E49G1A14J59A2U3L46A2L15A1M28A2M1A1T11A5Y31A1Y2A5b1Y8N1Q1N11Q6R2Y1S8X10Y11U1S15R1N27Q1L1B3H1",
    "B53M2B18L1M1B5L1M2B25K2M5Q1L2J2I1J2Q1B3A1B8A2B2A2B22A1B7A1B1A3B4A2B1H1B7A2B2A2B3I1A8B1A4B2A1",
    "B5A2B21L1T2U1A2H1B1H1A1B6A4B2A2B22A1B7A1B2A1B2A1B2A2B1A1B5A4B2A2B3A3K1A7B4A1B1A7B15K1U1A10B3",
    "A1B7H1B1A1B3A1B22A1B7A1B2A1B5A2B10A1B3A1B3A2B1A15B1H3A2B10N1H1A7R1T6A1B3A1B8A2B2A2B22A1B7A1",
    "B2A1H1B4A2B8K1A2B2A2B3A7X1B2A4B2A1B3K2A2B11H1M6A10B2A1B6A3B3A1B4A3B2A1B1A1B2A3B2A3B3A3B8I1B3",
    "A4B5A3B3A1B4A2K1A6B1A14I1B12H8A5Q1B3U1B8A1B3A1B23A1B10Q1B5A2Y1K1B7A1B3A1B4A7B2A1K2R1A2Y1A2B2",
    "K2A2B10A7V1K8S1Q1B2U1B8A1B3A1B23A1B10A1B5A2H2B7A1B3A1B4A7B2A6Y1B1A1B2J2A2B10A1J2Z1A12T1Q1B2",
    "X1B8A1B3A1B23M1B16M1T2K1B6K1A1B3A1B4M1S1A4S3B1S7R1B2K2A2B10K6S3K7A1X1E2A1E18A3E24A1E9A1E1A2",
    "E7A3E1A4E6A1E1A1E8A6Q10A2E3A12B58A4B29A37B2A1B1A1V1B2V1B1A1V1B1V6B4V1B7V1B3A1B1A1B1V2B2V1B13",
    "V1B3A2B5A1B1A1B6Z1A1B10A2B2N2A32C72A1C33E1K2A4C27M4C6E1C1A1C21E3C7E1C1E3A1E15A1K1E1I2K3L4M2",
    "A37E34K1E5K1E2K1E7K3E4K6E26K64L4K2B38A1N1A5N1A2B39G2I2B1I1N3B90L5B68L5B82L6E7I1E63I1E1A1E4A2",
    "E7A1E1A1E4A2E39I1E1A1E4A2E31I1E1A1E4A2E7A1E1A1E4A2E7I1E7A1E23I1E31I1E1A1E4A2E7I1E39I1E19A2M2",
    "I2E28A3I26A6E85R1A2R6A2L1E630L9E29A3E81Q8A7G13Y1G7Y1A9Y1G23A9G20A12G13A1G3A1G2A12E93H1A2E10",
    "A6H10A6E15Y1E10A6E88U1A7E42K1A5L70A10H29Q2A1H12A4H12A4H1A3H42A2H5A11I42L2A4I26A6I10L1A3I2H32",
    "I28A2I2L63A1L29A2L11A6L10A6L14A2Q15X2Y14A49J76Y1A1b2J45Y2b1K43N3K12N6M52A8M4K56A3K15A3K51S9",
    "b2A5U43A2U3N8A8L35N4T1Q2V1A5H108I88J7K28Q15T4Y1S1M1L1J2B155C1K4B90K6B22A2B6A2B38A2B6A2B8A1B1",
    "A1B1A1B1A1B31A2B53A1B15A1B14A2B6A1B19A2B3A1B9A1B47E1B23G1E6G5H2I2G1I7G5K1A1P4B7G1A2B27A1I5M8",
    "A3B11C1D1E3G2I4L3M1O1Q3R1T1Y1A15B18E2G7I1J4K1A15B57E2H1I1G15I1J2K1L3B48E1J1K4L1R2A4B91E9G12",
    "B242G14B1E1B121E1G1E30G52H2I11J12L1M11Q7S4T1B37E2b3A22B11A21B139G20H1B150G10B80E8G8B20H2G2I1",
    "E1B86E2G12I2G10H8I11K1L2H2I16J1K10L3K4L10M1L19M1L1M4L24Q1B4M1B4M2B28M1B35M1B1M1B4M3B1L1B7M2",
    "B7G14B31M3B24M1B14M1I7J4N1K1N1M2G28K4G16E256G512H14I6J7K5J4K41Q3K5L5Q26A2Q32A1X1Q34U3Q12V1Q8",
    "T1U25R4U15V1I47Y1I47Y1J13K3L1K3J4K6L2I107L7N2A5I45A1N1A5N1A2I54N2A7I1M1A14M1I23A9I7A1I7A1I7",
    "A1I7A1I7A1I7A1I7A1I7A1K32I24K4I2K19L1N10Q7S2T5U5V1X3Y11A34E26A1E89A12E214A26E12a4B56E3G3E1B1",
    "A1B84G2A2B6G2B94G1A5B40K1T1U1A1B94A1B16E24M3X5I16K20b2A9a1G16B29H2A1B36L12H1G15B28H2I1B50G15",
    "B12H4B47W1B119H4B99H2B31H1E6582X10H64B20902I22K8L8N1R9T21U5X13Y3E1165A3E18G2E16G1E12G1E3G1E1",
    "A9L48K300A20K32M2K18N8K28Q6R1N1L88A8I23J4K5J2K107M2R1M2N2Q12M10N1Q3S1U1Q2R6U2V6Y2V5X4b3A2Y2",
    "A1Y1A1Y5b3A21Y3X2Q1N2M1K5I44X1A3L10A6J56A8K69S1A8K12A6L28R2U2K84A11K1L29A3L78A1L11A4L2Q31A1",
    "K55A9K14A2K10A2K4L28Q4L67A24L5N23A10M6A2M6A2M6A9M7A1M7A1Q48R4Q2V2X4A4R80L46A2L10A6C11172A12",
    "L23A4L49A2052B6702N2G59L3A2I106A38B7A12B5A5E1B25A1B5A1B1A1B2A1B2A1B108M16Y1A16B365Y16B64A2",
    "B54A7Y1F32B12G1H1Y2G16I10A6B4K3Q7R2B21G2H2B10A1B19A1B4A4B3G1B1A1B135A2B1A1B94G2B94A3B6A2B6A2",
    "B6A2B3A3B7A1B7A10E3D1B3H12A1H26A1H19A1H2A1H15A2H14A34H123A5H3A4H45A3H9I75Q2S2A1K12X1A3Q1A47",
    "K46A130K29A3K49A15Q28A4F31Q1F4A9T3F27A5Q43A5H30A1H1I36A4I14A42F38H2F38H80A2H10A6S36A4S36A4",
    "Q40A8Q52A11Q1Y11A1Y15A1Y7A1Y2A1Y11A1Y15A1Y7A1Y2A3b52A12Q311A9Q22A10Q8A24Y6A1Y42A1Y9A69H6A2H1",
    "A1H44A1H2A3H1A2H1L22A1L9Q63A8Q9A48R19A1R2A5R5J26L2A3J1K26A5K1A64N56A4R2N2R16A2R46I4A1I2A5I8",
    "A1I3A1I27U2A2I3A4I9U1A7I9A7L32Q32A32Q39A4Q12A9L54A3L29A2L27A5L8Q18A7Q4A12Q7A80L73A55R51A13",
    "R51A7R6U40A8U10A6b38A3b29A8b2A208L31A1X42A1X3A2X2A16b3A55b1Z3U40A8U42A22Y26A38X28A20V23A9M78",
    "A4M30Y6A9Q1L66Y1A10U1A2N25A7N10A6N53A1N14U3X1A8Q39A9N73R4Q1X2N10Q1R5A1Q20A11Q18A1Q43S1Z3A62",
    "R7A1R1A1R4A1R15A1R11A6Q59A5Q10A6R1Q3A1Q8A2Q2A2Q22A1Q7A1Q2A1Q5A1U1Q9A2Q2A2Q3A2R1A6Q1A5Q7A2Q7",
    "A3Q5A11b10A1b1A2b1A1b38A1b10A1b1A2b1A1b4A1b10A1b2A8b2A29S90X1S1A1S1U1V1X2A30Q72A8Q10A166Q54",
    "A2Q18R20A34Q69A11Q10A6S13A19N56V1Y1A6N10A6b20A28R26U1A2R15A4R16Y7A185U60A100Q83A12Q1X7A2X1A2",
    "X8A1X2A1X30A1X2A2X12A9X10A70V8A2V46A2V11A27T72A8T52V2T23U1T5A13Y16Q57A7Z10A182b34A14b10A6S9",
    "A1S45A1S14A10S29A3S32A2S22A1S14A73T7A1T2A1T44A3T1A1T2A1T9A8T10A6U6A1U2A1U37A1U2A1U6A7U10A310",
    "U25A7Z17A1Z41A3Z28b1A85X1A15V50A13V1J879Q42R1A102J99Q12A1J4Q1A11R196A2636Y99A13L1071Z1V9Z29",
    "A10b3995A5R583A6841b58A1734M569A7Q31A1Q10A4Q2Y79A1Y10A6Q30A2Q6A10Q70A10Q10A1Q7A1Q21A5Q19A432",
    "b58A198U91A101N69V6A4V1N47V9A7N17A64S1T1V2X1A11X2A14S6125U5V6A8S755X483A41b1X9A8935Y4A1Y7A1",
    "Y2A1M2T285Y4A15Z1A29V3A2Z1A14V4A8T396A2308Q107A5Q13A3Q9A7Q10A2Q8A3932b250A6b436A76Y46A2Y23A9",
    "Y116A60F246A10F39A2K1F180R11Y2A21I70A122Z20A12U20A12H87A9J18U7A135F85A1F71A1F2A2F1A2F2A2F4A1",
    "F12A1F1A1F4H1F2A1F65A1F4A2F8A1F7A1F28A1F4A1F5A1F1A3F7A1F338I2A2F290J2A2F50R652A15R5A1R15",
    "A1104Y31A6Z6A213S7A1S17A2S7A1S2A1S5A5Z62A33Z1A112V45A3V14A2V10A4V2A320Y31A17V58A5V1A464Z42",
    "A214b43A4b1A480Y7A1Y4A1Y2A1Y15A1Q197A2Q16A41S75V1A4S10A4S2A785U68A76V61A194N4A1N27A1N2A1N1A2",
    "N1A1N10A1N4A1N1A1N1A6N1A4N1A1N1A1N1A1N3A1N2A1N1A2N1A1N1A1N1A1N1A1N1A1N2A1N1A2N4A1N7A1N4A1N4",
    "A1N1A1N10A1N17A5N3A1N5A1N17A52N2A270K44A4K100A12M15A2M14Q1A1M15A1M15Q22A10L11Q2X3L31U1M1L1",
    "M11L1M1L1M2L1M3L1M3L5M8L1M7L1M10N2V1X3M9L1M1L2M2L1M10L4M2L1M10S18X1A56M26L1M2A13L34M9S1A4L9",
    "A7M2A14T6A154M33Q12R3M6Q1M70Q1R2M20Q12M37Q1M5Q4R5Q12M17Q7R8M63Q1M1Q1M182Q1M4Q2R1M62Q2N4Q7R5",
    "M24Q18S1Q41S1Q86M5N1M16N1M3N1M1N1M1N1M1N1M3N1M6N2M4N1M1N2M4N1M12Q2R2M11Q48M70Q10R1S2T2V1X2A4",
    "Z1Y3Q13A3Q4S3T2U1V1X2A3M116Z3A4Z5Q85U4Z1A6V12A4Y1A15Q12A4Q56A8Q10A6Q40A8Q30A2X2b10A4b2A62T12",
    "X1V3R9S6T1S8T8S1T2S12V1S12T1U3S15T13U5V1X1U4X2Y1U1V1U4R5S13T6U11X2V6X3V2U10V6R1U2V8X1Y1V3T23",
    "U25V84A12U14A2V4X1Z3V3Y2A3V3X4Z2b1A5b1V6X19Y4Z3X7Y4Z3b1Z1X3Y3b1A7Z2X7Y3Z2b1A2b1Y8Z1b1A6Y7Z2",
    "A7X147A1X55b37X10A1028C2F42711X7Y2A32L4149Y4Z1A6M222A2R5762A14T7473A15a622A2466F542A1504C2",
    "X4939A5Z4192A56398C2A65534C2A65534C2A65534C2A65534C2A65534C2A65534C2A65534C2A65534C2A65534C2",
    "A65534C2A1F1A30F96A128H240A65038C131074"]

/-- Whether a version goes by a name: its number, or the digits of its number after a letter. -/
def isVersion (name version : String) : Bool :=
  name == version || name == "v" ++ .ofList (version.toList.filter (· != '.'))

/-- The characters that were there in a version. -/
def age? (name : String) : Option CharSet :=
  (versions.findIdx? fun v => isVersion name v.2).map fun i =>
    ofRuns ((versions.take (i + 1)).map (·.1)) (runs (String.join ageText).toList)

end PaneRunner.Unicode
