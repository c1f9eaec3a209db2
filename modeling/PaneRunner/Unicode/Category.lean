import PaneRunner.Unicode.Table

/-
  The general category of every character. `text` lists runs of code points from zero on: the key
  of a category and the length of the run. The names are those of the Unicode Character Database,
  short and long.
-/
namespace PaneRunner.Unicode

/-- The general categories. -/
inductive Category where
  | cc
  | cf
  | cn
  | co
  | cs
  | ll
  | lm
  | lo
  | lt
  | lu
  | mc
  | me
  | mn
  | nd
  | nl
  | no
  | pc
  | pd
  | pe
  | pf
  | pi
  | po
  | ps
  | sc
  | sk
  | sm
  | so
  | zl
  | zp
  | zs
  deriving DecidableEq, Repr

namespace Category

/-- The categories with the keys that stand for them in `text`. -/
def keys : List (Char × Category) :=
  [('A', .cc), ('B', .cf), ('C', .cn), ('D', .co), ('E', .cs), ('F', .ll),
    ('G', .lm), ('H', .lo), ('I', .lt), ('J', .lu), ('K', .mc), ('L', .me),
    ('M', .mn), ('N', .nd), ('O', .nl), ('P', .no), ('Q', .pc), ('R', .pd),
    ('S', .pe), ('T', .pf), ('U', .pi), ('V', .po), ('W', .ps), ('X', .sc),
    ('Y', .sk), ('Z', .sm), ('a', .so), ('b', .zl), ('c', .zp), ('d', .zs)]

/-- The runs of equal categories, in the order of the code points. -/
def text : List String :=
  ["A32d1V3X1V3W1S1V1Z1V1R1V2N10V2Z3V2J26W1V1S1Y1Q1Y1F26W1Z1S1Z1A33d1V1X4a1V1Y1a1H1U1Z1B1a1Y1a1",
    "Z1P2Y1F1V2Y1P1H1T1P3V1J23Z1J7F24Z1F8J1F1J1F1J1F1J1F1J1F1J1F1J1F1J1F1J1F1J1F1J1F1J1F1J1F1J1F1",
    "J1F1J1F1J1F1J1F1J1F1J1F1J1F1J1F1J1F1J1F1J1F1J1F1J1F1J1F2J1F1J1F1J1F1J1F1J1F1J1F1J1F1J1F2J1F1",
    "J1F1J1F1J1F1J1F1J1F1J1F1J1F1J1F1J1F1J1F1J1F1J1F1J1F1J1F1J1F1J1F1J1F1J1F1J1F1J1F1J1F1J1F1J2F1",
    "J1F1J1F3J2F1J1F1J2F1J3F2J4F1J2F1J3F3J2F1J2F1J1F1J1F1J2F1J1F2J1F1J2F1J3F1J1F1J2F2H1J1F3H4J1I1",
    "F1J1I1F1J1I1F1J1F1J1F1J1F1J1F1J1F1J1F1J1F1J1F2J1F1J1F1J1F1J1F1J1F1J1F1J1F1J1F1J1F2J1I1F1J1F1",
    "J3F1J1F1J1F1J1F1J1F1J1F1J1F1J1F1J1F1J1F1J1F1J1F1J1F1J1F1J1F1J1F1J1F1J1F1J1F1J1F1J1F1J1F1J1F1",
    "J1F1J1F1J1F1J1F1J1F1J1F1J1F7J2F1J2F2J1F1J4F1J1F1J1F1J1F1J1F69H1F27G18Y4G12Y14G5Y7G1Y1G1Y17",
    "M112J1F1J1F1G1Y1J1F1C2G1F3V1J1C4Y2J1V1J3C1J1C1J2F1J17C1J9F35J1F2J3F3J1F1J1F1J1F1J1F1J1F1J1F1",
    "J1F1J1F1J1F1J1F1J1F1J1F5J1F1Z1J1F1J2F2J51F48J1F1J1F1J1F1J1F1J1F1J1F1J1F1J1F1J1F1J1F1J1F1J1F1",
    "J1F1J1F1J1F1J1F1J1F1a1M5L2J1F1J1F1J1F1J1F1J1F1J1F1J1F1J1F1J1F1J1F1J1F1J1F1J1F1J1F1J1F1J1F1J1",
    "F1J1F1J1F1J1F1J1F1J1F1J1F1J1F1J1F1J1F1J1F1J2F1J1F1J1F1J1F1J1F1J1F1J1F2J1F1J1F1J1F1J1F1J1F1J1",
    "F1J1F1J1F1J1F1J1F1J1F1J1F1J1F1J1F1J1F1J1F1J1F1J1F1J1F1J1F1J1F1J1F1J1F1J1F1J1F1J1F1J1F1J1F1J1",
    "F1J1F1J1F1J1F1J1F1J1F1J1F1J1F1J1F1J1F1J1F1J1F1J1F1J1F1J1F1J1F1J1F1J1F1J1F1J1F1C1J38C2G1V6F41",
    "V1R1C2a2X1C1M45R1M1V1M2V1M2V1M1C8H27C4H4V2C11B6Z3V2X1V2a2M11V1B1V3H32G1H10M21N10V4H2M1H99V1",
    "H1M7B1a1M6G2M2a1M4H2N10H3a2H1V14C1B1H1M1H30M27C2H89M11H1C14N10H33M9G2a1V3G1C2M1X2H22M4G1M9G1",
    "M3G1M5C2V15C1H25M3C2V1C1H11C5H24Y1H6C1B2C5M9H41G1M24B1M32K1H54M1K1M1H1K3M8K4M1K2H1M7H10M2V2",
    "N10V1G1H15M1K2C1H8C2H2C2H22C1H7C1H1C3H4C2M1H1K3M4C2K2C2K2M1H1C8K1C4H2C1H3M2C2N10H2X2P6a1X1H1",
    "V1M1C2M2K1C1H6C4H2C2H22C1H7C1H2C1H2C1H2C2M1C1K3M2C4M2C2M3C3M1C7H4C1H1C7N10M2H3M1V1C10M2K1C1",
    "H9C1H3C1H22C1H7C1H2C1H5C2M1H1K3M5C1M2K1C1K2M1C2H1C15H2M2C2N10V1X1C7H1M6C1M1K2C1H8C2H2C2H22C1",
    "H7C1H2C1H5C2M1H1K1M1K1M4C2K2C2K2M1C7M2K1C4H2C1H3M2C2N10a1H1P6C10M1H1C1H6C3H3C1H4C3H2C1H1C1H2",
    "C3H2C3H3C3H12C4K2M1K2C3K3C1K3M1C2H1C6K1C14N10P3a6X1a1C5M1K3M1H8C1H3C1H23C1H16C2M1H1M3K4C1M3",
    "C1M4C7M2C1H3C2H1C2H2M2C2N10C7V1P7a1H1M1K2V1H8C1H3C1H23C1H10C1H5C2M1H1K1M1K5C1M1K2C1K2M2C7K2",
    "C6H2C1H2M2C2N10C1H2K1C12M2K2H9C1H3C1H41M2H1K3M4C1K3C1K3M1H1a1C4H3K1P7H3M2C2N10P9a1H6C1M1K2C1",
    "H18C3H24C1H9C1H1C2H7C3M1C4K3M3C1M1C1K8C6N10C2K2V1C12H48M1H2M7C4X1H6G1M8V1N10V2C37H2C1H1C1H5",
    "C1H24C1H1C1H10M1H2M9H1C2H5C1G1C1M7C1N10C2H4C32H1a3V15a1V1a3M2a6N10P10a1M1a1M1a1M1W1S1W1S1K2",
    "H8C1H36C4M14K1M5V1M2H5M11C1M36C1a8M1a6C1a2V5a4V2C37H43K2M4K1M6K1M2K2M2H1N10V6H6K2M2H4M3H1K3",
    "H2K7H3M4H13M1K2M2K6M1H1K1N10K3M1a2J38C1J1C5J1C2F43V1G1F3H329C1H4C2H7C1H1C1H4C2H41C1H4C2H33C1",
    "H4C2H7C1H1C1H4C2H15C1H57C1H4C2H67C2M3V9P20C3H16a10C6J86C2F6C2R1H620a1V1H17d1H26W1S1C3H75V3O3",
    "H8C7H18M3K1C9H19M2K1V2C9H18M2C12H13C1H3C1M2C12H52M2K1M7K8M1K2M11V3G1V3X1H1M1C2N10C6P10C6V6R1",
    "V4M3B1M1N10C6H35G1H53C7H5M2H34M1H1C5H70C10H31C1M3K4M2K3C4K2M1K6M3C4a1C3V2N10H30C2H5C11H44C4",
    "H26C6N10P1C3a34H23M2K2M1C2V2H53K1M1K1M7C1M1K1M1K2M8K6M10C2M1N10C6N10C6V7G1V6C2M14L1M16C49M4",
    "K1H47M1K1M5K1M1K5M1K2H8C1V2N10V7a10M9a9V3M2K1H30K1M4K2M2K1M3H2N10H44M1K1M2K3M1K1M3K2C8V4H36",
    "K8M8K2M2C3V5N10C3H3N10H30G6V2F9J1F1C5J43C2J3V8C8M3V1M13K1M7H4M1H6M1H2K1M2H1C5F44G63F13G1F34",
    "G37M64J1F1J1F1J1F1J1F1J1F1J1F1J1F1J1F1J1F1J1F1J1F1J1F1J1F1J1F1J1F1J1F1J1F1J1F1J1F1J1F1J1F1J1",
    "F1J1F1J1F1J1F1J1F1J1F1J1F1J1F1J1F1J1F1J1F1J1F1J1F1J1F1J1F1J1F1J1F1J1F1J1F1J1F1J1F1J1F1J1F1J1",
    "F1J1F1J1F1J1F1J1F1J1F1J1F1J1F1J1F1J1F1J1F1J1F1J1F1J1F1J1F1J1F1J1F1J1F1J1F1J1F1J1F1J1F1J1F1J1",
    "F1J1F1J1F1J1F1J1F1J1F1J1F1J1F9J1F1J1F1J1F1J1F1J1F1J1F1J1F1J1F1J1F1J1F1J1F1J1F1J1F1J1F1J1F1J1",
    "F1J1F1J1F1J1F1J1F1J1F1J1F1J1F1J1F1J1F1J1F1J1F1J1F1J1F1J1F1J1F1J1F1J1F1J1F1J1F1J1F1J1F1J1F1J1",
    "F1J1F1J1F1J1F1J1F1J1F1J1F1J1F1J1F1J1F1J1F9J8F6C2J6C2F8J8F8J8F6C2J6C2F8C1J1C1J1C1J1C1J1F8J8",
    "F14C2F8I8F8I8F8I8F5C1F2J4I1Y1F1Y3F3C1F2J4I1Y3F4C2F2J4C1Y3F8J5Y3C2F3C1F2J4I1Y2C1d11B5R6V2U1T1",
    "W1U2T1W1U1V8b1c1B5d1V9U1T1V4Q2V3Z1W1S1V11Z1V1Q1V10d1B5C1B10P1G1C2P6Z3W1S1G1P10Z3W1S1C1G13C3",
    "X33C15M13L4M1L3M12C15a2J1a4J1a2F1J3F2J3F1a1J1a2Z1J5a6J1a1J1a1J1a1J4a1F1J4F1H4F1a2F2J2Z5J1F4",
    "a1Z1a2F1a1P16O35J1F1O4P1a2C4Z5a5Z2a4Z1a2Z1a2Z1a7Z1a31Z2a2Z1a1Z1a31Z268a8W1S1W1S1a20Z2a7W1S1",
    "a81Z1a30Z25a40Z6a72C22a11C21P60a78P22a183Z1a9Z1a54Z8a111Z1a248W1S1W1S1W1S1W1S1W1S1W1S1W1S1",
    "P30a44Z5W1S1Z31W1S1W1S1W1S1W1S1W1S1Z16a256Z131W1S1W1S1W1S1W1S1W1S1W1S1W1S1W1S1W1S1W1S1W1S1",
    "Z63W1S1W1S1Z32W1S1Z258a48Z21a2Z6a39C2a32C1a105J48F48J1F1J3F2J1F1J1F1J1F1J4F1J1F2J1F6G2J3F1J1",
    "F1J1F1J1F1J1F1J1F1J1F1J1F1J1F1J1F1J1F1J1F1J1F1J1F1J1F1J1F1J1F1J1F1J1F1J1F1J1F1J1F1J1F1J1F1J1",
    "F1J1F1J1F1J1F1J1F1J1F1J1F1J1F1J1F1J1F1J1F1J1F1J1F1J1F1J1F1J1F1J1F1J1F1J1F1J1F1J1F1J1F1J1F1J1",
    "F1J1F1J1F2a6J1F1J1F1M3J1F1C5V4P1V2F38C1F1C5F1C2H56C7G1V1C14M1H23C9H7C1H7C1H7C1H7C1H7C1H7C1H7",
    "C1H7C1M32V2U1T1U1T1V3U1T1V1U1T1V9R1V2R1V1U1T1V2U1T1W1S1W1S1W1S1W1S1V5G1V10R2V4R1V1W1V13a2V3",
    "W1S1W1S1W1S1W1S1R1C34a26C1a89C12a214C26a16d1V3a1G1H1O1W1S1W1S1W1S1W1S1W1S1a2W1S1W1S1W1S1W1S1",
    "R1W1S2a1O9M4K2R1G5a2O3G1H1V1a2C1H86C2M2Y2G2H1R1H90V1G3H1C5H43C1H94C1a2P4a10H32a38C9a1H16a31",
    "C1P10a30P8a1P15a32P10a39P15a320H6592a64H21013G1H1143C3a55C9H40G6V2H268G1V3H16N10H2C20J1F1J1",
    "F1J1F1J1F1J1F1J1F1J1F1J1F1J1F1J1F1J1F1J1F1J1F1J1F1J1F1J1F1J1F1J1F1J1F1J1F1J1F1J1F1J1F1H1M1L3",
    "V1M10V1G1J1F1J1F1J1F1J1F1J1F1J1F1J1F1J1F1J1F1J1F1J1F1J1F1J1F1J1F1G2M2H70O10M2V6C8Y23G9Y2J1F1",
    "J1F1J1F1J1F1J1F1J1F1J1F3J1F1J1F1J1F1J1F1J1F1J1F1J1F1J1F1J1F1J1F1J1F1J1F1J1F1J1F1J1F1J1F1J1F1",
    "J1F1J1F1J1F1J1F1J1F1J1F1J1F1J1F1J1F1J1F1J1F1J1F1J1F1J1F1G1F8J1F1J1F1J2F1J1F1J1F1J1F1J1F1G1Y2",
    "J1F1J1F1H1J1F1J1F3J1F1J1F1J1F1J1F1J1F1J1F1J1F1J1F1J1F1J1F1J5F1J5F1J1F1J1F1J1F1J1F1J1F1J1F1J1",
    "F1J4F1J1F1J2F1C2J1F1C1F1C1F1J1F1J1F1J1F1J1C21G3J1F1H1G2F1H7M1H3M1H4M1H23K2M2K1a4M1C3P6a2X1a1",
    "C6H52V4C8K2H50K16M2C8V2N10C6M18H6V3H1V1H2M1N10H28M8V2H23M11K2C11V1H29C3M3K1H47M1K2M4K2M2K3",
    "V13C1G1N10C4V2H5M1G1H9N10H5C1H41M6K2M2K2M2C9H3M1H8M1K1C2N10C2V4H16G1H6a3H1K1M1K1H50M1H1M3H2",
    "M2H5M2H1M1H1C24H2G1V2H11K1M2K2V2H1G2K1M1C10H6C2H6C2H6C9H7C1H7C1F43Y1G4F9G1Y2C4F80H35K2M1K2M1",
    "K2V1K1M1C2N10C6H11172C12H23C4H49C4E2048D6400H366C2H106C38F7C12F5C5H1M1H10Z1H13C1H5C1H1C1H2C1",
    "H2C1H108Y17C16H363S1W1a16H64C2H54C7a1C32H12X1a3M16V7W1S1V1C6M16V1R2Q2W1S1W1S1W1S1W1S1W1S1W1",
    "S1W1S1W1S1V2W1S1V4Q3V3C1V4R1W1S1W1S1W1S1V3Z1R1Z3C1V1X1V2C4H5C1H135C2B1C1V3X1V3W1S1V1Z1V1R1V2",
    "N10V2Z3V2J26W1V1S1Y1Q1Y1F26W1Z1S1Z1W1S1V1W1S1V2H10G1H45G2H31C3H6C2H6C2H6C2H3C3X2Z1Y1a1X2C1a1",
    "Z4a2C10B3a2C2H12C1H26C1H19C1H2C1H15C2H14C34H123C5V3C4P45C3a9O53P4a17P2a3C1a13C3a1C47a45M1",
    "C130H29C3H49C15M1P27C4H32P4C9H20O1H8O1C5H38M5C5H30C1V1H36C4H8V1O5C42J40F40H78C2N10C6J36C4F36",
    "C4H40C8H52C11V1J11C1J15C1J7C1J2C1F11C1F15C1F7C1F2C3H52C12H311C9H22C10H8C24G6C1G42C1G9C69H6C2",
    "H1C1H44C1H2C3H1C2H23C1V1P8H23a2P7H31C8P9C48H19C1H2C5P5H22P6C3V1H26C5V1C64H56C4P2H2P16C2P46H1",
    "M3C1M2C5M4H4C1H3C1H29C2M3C4M1P9C7V9C7H29P2V1H29P3C32H8a1H28M2C4P5V7C9H54C3V7H22C2P8H19C5P8",
    "H18C7V4C12P7C80H73C55J51C13F51C7P6H36M4C8N10C6N10H4G1H1J22C3M5R1G1F22C8Z2C208P31C1H42C1M2R1",
    "C2H2C16H3C55M4H29P10H1C8H22M11P4V5C22H18M4V4C38H21P7C20H23C9K1M1K1H53M15V7C4P20N10M1H2M2H1C9",
    "M3K1H45K3M4K2M2V2B1V4M1C10B1C2H25C7N10C6M3H36M5K1M8C1N10V4H1K2H1C8H35M1V2H1C9M2K1H48K3M9K2H4",
    "V4M4V1K1M1N10H1V1H1V3C1P20C11H18C1H25K3M3K2M1K1M2V6M1H2M1C62H7C1H1C1H4C1H15C1H10V1C6H47M1K3",
    "M8C5N10C6M2K2C1H8C2H2C2H22C1H7C1H2C1H5C1M2H1K2M1K4C2K2C2K3C2H1C6K1C5H5K2C2M7C3M5C11H10C1H1C2",
    "H1C1H38C1H1K3M6C1K1C2K1C1K4C1K2M1K1M1H1M1H1V2C1V2C8M2C29H53K3M8K2M3K1M1H4V5N10V2C1V1M1H3C30",
    "H48K3M6K1M1K4M2K1M2H2V1H1C8N10C166H47K3M4C2K4M2K1M2V23H4M2C34H48K3M8K2M1K1M2V3H1C11N10C6V13",
    "C19H43M1K1M1K2M6K1M1H1V1C6N10C6N20C28H27C2M1K1M1K2M4K1M5C4N10P2V3a1H7C185H44K3M9K1M2V1C100",
    "J32F32N10P9C12H8C2H1C2H8C1H2C1H24K6C1K2C2M2K1M1H1K1H1K1M1V3C9N10C70H8C2H39K3M4C2M2K4M1H1V1H1",
    "K1C27H1M10H40M6K1H1M4V8M1C8H1M6K2M3H46M13K1M2V3H1V5C13H73C7V10C182H33V1C14N10C6H9C1H37K1M7C1",
    "M6K1M1H1V5C10N10P19C3V2H30C2M22C1K1M7K1M2K1M2C73H7C1H2C1H38M6C3M1C1M2C1M7H1M1C8N10C6H6C1H2C1",
    "H32K5C1M2C1K2M1K1M1H1C7N10C310H19M2K2V2C7M2H1K1H13C1H34K2M5C3K2M1K1M1V13N10M1C85H1C15P21a8X4",
    "a17C13V1H922C102O111C1V5C11H196C2636H97V2C13H1072B16M1H6M15C10H3995C5H583C6841H30M12K3M3N10",
    "C1734H569C7H31C1N10C4V2H79C1N10C6H30C2M5V1C10H48M7V5a4G4V1a1C10N10C1P7C1H21C5H19C432G3H40G2",
    "V3N10C198J32F32P23V4C101H75C4M1H1K55C7M4G13C64G2V1G1M1C11K2C14H6136C8H1238C41H10C8935G4C1G7",
    "C1G2C1H291C15H1C29H3C2H1C14H4C8H396C2308H107C5H13C3H9C7H10C2a1M2V1B4C3932a240N10C6a436C76M46",
    "C2M23C9a116C60a246C10a39C2a60K2M3a3K6B8M8a2M7a30M4a61C21a66M3a1C122P20C12P20C12a87C9P25C135",
    "J26F26J26F7C1F18J26F26J1C1J2C2J1C2J2C2J4C1J8F4C1F1C1F7C1F11J26F26J2C1J4C2J8C1J7C1F26J2C1J4C1",
    "J5C1J1C3J7C1F26J26F26J26F26J26F26J26F26J26F26J26F28C2J25Z1F25Z1F6J25Z1F25Z1F6J25Z1F25Z1F6J25",
    "Z1F25Z1F6J25Z1F25Z1F6J1F1C2N50a512M55a4M50a8M1a14M1a2V5C15M5C1M15C1104F10H1F20C6F6C213M7C1",
    "M17C2M7C1M2C1M5C5G62C33M1C112H45C3M7G7C2N10C4H1a1C320H30M1C17H44M4N10C5X1C464H27G1M4N10C214",
    "H30M2H1N10C4V1C480H7C1H4C1H2C1H15C1H197C2P9M7C41J34F34M7G1C4N10C4V2C785P59a1P3X1P4C76P45a1",
    "P15C194H4C1H27C1H2C1H1C2H1C1H10C1H4C1H1C1H1C6H1C4H1C1H1C1H1C1H3C1H2C1H1C2H1C1H1C1H1C1H1C1H1",
    "C1H2C1H1C2H4C1H7C1H4C1H4C1H1C1H10C1H17C5H3C1H5C1H17C52Z2C270a44C4a100C12a15C2a15C1a15C1a37",
    "C10P13a161C56a29C13a44C4a9C7a2C14a6C154a251Y5a728C4a17C3a13C3a119C4a95C6a12C4a1C15a12C4a56C8",
    "a10C6a40C8a30C2a12C4a2C62a340C12a14C2a13C3a10C5a56C7a15C2a11C6a9C7a147C1a92N10C1030H42720C32",
    "H4154C6H222C2H5762C14H7473C15H622C2466H542C1506H4939C5H4192C711761B1C30B96C128M240C65040",
    "D65534C2D65534C2"]

/-- The decoded runs. -/
def runs : List (Char × Nat) := Unicode.runs (String.join text).toList

/-- The characters of some categories. -/
def set (cs : List Category) : CharSet :=
  ofRuns ((keys.filter fun k => cs.contains k.2).map (·.1)) runs

/-- The names of a category or of a group of them, as `plainName` gives them, and the categories
they mean. -/
def groups : List (List String × List Category) :=
  [(["c", "other"], [.cc, .cf, .cn, .co, .cs]),
    (["cc", "cntrl", "control"], [.cc]),
    (["cf", "format"], [.cf]),
    (["cn", "unassigned"], [.cn]),
    (["co", "privateuse"], [.co]),
    (["l", "letter"], [.ll, .lm, .lo, .lt, .lu]),
    (["lc", "casedletter"], [.ll, .lt, .lu]),
    (["ll", "lowercaseletter"], [.ll]),
    (["lm", "modifierletter"], [.lm]),
    (["lo", "otherletter"], [.lo]),
    (["lt", "titlecaseletter"], [.lt]),
    (["lu", "uppercaseletter"], [.lu]),
    (["m", "combiningmark", "mark"], [.mc, .me, .mn]),
    (["mc", "spacingmark"], [.mc]),
    (["me", "enclosingmark"], [.me]),
    (["mn", "nonspacingmark"], [.mn]),
    (["n", "number"], [.nd, .nl, .no]),
    (["nd", "decimalnumber", "digit"], [.nd]),
    (["nl", "letternumber"], [.nl]),
    (["no", "othernumber"], [.no]),
    (["p", "punct", "punctuation"], [.pc, .pd, .pe, .pf, .pi, .po, .ps]),
    (["pc", "connectorpunctuation"], [.pc]),
    (["pd", "dashpunctuation"], [.pd]),
    (["pe", "closepunctuation"], [.pe]),
    (["pf", "finalpunctuation"], [.pf]),
    (["pi", "initialpunctuation"], [.pi]),
    (["po", "otherpunctuation"], [.po]),
    (["ps", "openpunctuation"], [.ps]),
    (["s", "symbol"], [.sc, .sk, .sm, .so]),
    (["sc", "currencysymbol"], [.sc]),
    (["sk", "modifiersymbol"], [.sk]),
    (["sm", "mathsymbol"], [.sm]),
    (["so", "othersymbol"], [.so]),
    (["z", "separator"], [.zl, .zp, .zs]),
    (["zl", "lineseparator"], [.zl]),
    (["zp", "paragraphseparator"], [.zp]),
    (["zs", "spaceseparator"], [.zs])]

end Category

end PaneRunner.Unicode
