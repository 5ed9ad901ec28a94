import CacheWarden.Text.Run

/-!
# Ages of characters

The version of Unicode that introduced each code point, up to 16.0. The assignment is kept as a list
of runs, in which `A` stands for code points that no version has introduced, and each further letter
for the next version.
-/

namespace CacheWarden.Text

/-- A version of Unicode. -/
structure Version where
  major : Nat
  minor : Nat
  deriving DecidableEq, Repr

namespace Version

/-- All versions that introduced characters, ascending. -/
def all : List Version :=
  [⟨1, 1⟩, ⟨2, 0⟩, ⟨2, 1⟩, ⟨3, 0⟩, ⟨3, 1⟩, ⟨3, 2⟩, ⟨4, 0⟩, ⟨4, 1⟩, ⟨5, 0⟩, ⟨5, 1⟩, ⟨5, 2⟩, ⟨6, 0⟩,
    ⟨6, 1⟩, ⟨6, 2⟩, ⟨6, 3⟩, ⟨7, 0⟩, ⟨8, 0⟩, ⟨9, 0⟩, ⟨10, 0⟩, ⟨11, 0⟩, ⟨12, 0⟩, ⟨12, 1⟩, ⟨13, 0⟩,
    ⟨14, 0⟩, ⟨15, 0⟩, ⟨15, 1⟩, ⟨16, 0⟩]

/-- Whether a version is another one or came before it. -/
def isUpTo (v w : Version) : Bool := v.major < w.major || v.major == w.major && v.minor ≤ w.minor

/-- The names of a version: `6.1` or `V6_1`. -/
def names (v : Version) : List String :=
  [toString v.major ++ "." ++ toString v.minor, "V" ++ toString v.major ++ "_" ++ toString v.minor]

/-- The runs of code points with one age. -/
def assignment : List String :=
  ["B502E4B30E8GHE18H3I11J14B89E5H2B47EB10E5H17B70E9GH8I5H3B2EG13K4B2K2A2BJ3BQA4B7ABAB20AB44KB7E",
   "G2BEBEBEBEB18F2GH5I4EB12EB66EB12EB41KE2G2E4B53G2B2G2B2G2JB28E2B8I2B2J6G16J4K16L2M2Q8AB38A2B7",
   "UB39UBEA2Q2NAC17IC13B10JB9CI3A8B27A4UB5A11H4NQK5IBH9K5BPYIBMB26K5B19E3H3I6MB14G2B72E2B5EB15E",
   "B30H2B10E5HE14AE30H3E27A2H3I30K18E49GA14J59A2U3L46A2L15AM28A2MAT11A5Y31AY2A5bY8NQN11Q6R2YS8X",
   "10Y11US15RN27QLB3HB53M2B18LMB5LM2B25K2M5QL2J2IJ2QB3AB8A2B2A2B22AB7ABA3B4A2BHB7A2B2A2B3IA8BA4",
   "B2AB5A2B21LT2UA2HBHAB6A4B2A2B22AB7AB2AB2AB2A2BAB5A4B2A2B3A3KA7B4ABA7B15KUA10B3AB7HBAB3AB22AB",
   "7AB2AB5A2B10AB3AB3A2BA15BH3A2B10NHA7RT6AB3AB8A2B2A2B22AB7AB2AHB4A2B8KA2B2A2B3A7XB2A4B2AB3K2A",
   "2B11HM6A10B2AB6A3B3AB4A3B2ABAB2A3B2A3B3A3B8IB3A4B5A3B3AB4A2KA6BA14IB12H8A5QB3UB8AB3AB23AB10Q",
   "B5A2YKB7AB3AB4A7B2AK2RA2YA2B2K2A2B10A7VK8SQB2UB8AB3AB23AB10AB5A2H2B7AB3AB4A7B2A6YBAB2J2A2B10",
   "AJ2ZA12TQB2XB8AB3AB23MB16MT2KB6KAB3AB4MSA4S3BS7RB2K2A2B10K6S3K7AXE2AE18A3E24AE9AEA2E7A3EA4E6",
   "AEAE8A6Q10A2E3A12B58A4B29A37B2ABAVB2VBAVBV6B4VB7VB3ABABV2B2VB13VB3A2B5ABAB6ZAB10A2B2N2A32C72",
   "AC33EK2A4C27M4C6ECAC21E3C7ECE3AE15AKEI2K3L4M2A37E34KE5KE2KE7K3E4K6E26K64L4K2B38ANA5NA2B39G2I",
   "2BIN3B90L5B68L5B82L6E7IE63IEAE4A2E7AEAE4A2E39IEAE4A2E31IEAE4A2E7AEAE4A2E7IE7AE23IE31IEAE4A2E",
   "7IE39IE19A2M2I2E28A3I26A6E85RA2R6A2LE630L9E29A3E81Q8A7G13YG7YA9YG23A9G20A12G13AG3AG2A12E93HA",
   "2E10A6H10A6E15YE10A6E88UA7E42KA5L70A10H29Q2AH12A4H12A4HA3H42A2H5A11I42L2A4I26A6I10LA3I2H32I2",
   "8A2I2L63AL29A2L11A6L10A6L14A2Q15X2Y14A49J76YAb2J45Y2bK43N3K12N6M52A8M4K56A3K15A3K51S9b2A5U43",
   "A2U3N8A8L35N4TQ2VA5H108I88J7K28Q15T4YSMLJ2B155CK4B90K6B22A2B6A2B38A2B6A2B8ABABABAB31A2B53AB1",
   "5AB14A2B6AB19A2B3AB9AB47EB23GE6G5H2I2GI7G5KAP4B7GA2B27AI5M8A3B11CDE3G2I4L3MOQ3RTYA15B18E2G7I",
   "J4KA15B57E2HIG15IJ2KL3B48EJK4LR2A4B91E9G12B242G14BEB121EGE30G52H2I11J12LM11Q7S4TB37E2b3A22B1",
   "1A21B139G20HB150G10B80E8G8B20H2G2IEB86E2G12I2G10H8I11KL2H2I16JK10L3K4L10ML19MLM4L24QB4MB4M2B",
   "28MB35MBMB4M3BLB7M2B7G14B31M3B24MB14MI7J4NKNM2G28K4G16E256G512H14I6J7K5J4K41Q3K5L5Q26A2Q32AX",
   "Q34U3Q12VQ8TU25R4U15VI47YI47YJ13K3LK3J4K6L2I107L7N2A5I45ANA5NA2I54N2A7IMA14MI23A9I7AI7AI7AI7",
   "AI7AI7AI7AI7AK32I24K4I2K19LN10Q7S2T5U5VX3Y11A34E26AE89A12E214A26E12a4B56E3G3EBAB84G2A2B6G2B9",
   "4GA5B40KTUAB94AB16E24M3X5I16K20b2A9aG16B29H2AB36L12HG15B28H2IB50G15B12H4B47WB119H4B99H2B31HE",
   "6582X10H64B20902I22K8L8NR9T21U5X13Y3E1165A3E18G2E16GE12GE3GEA9L48K300A20K32M2K18N8K28Q6RNL88",
   "A8I23J4K5J2K107M2RM2N2Q12M10NQ3SUQ2R6U2V6Y2V5X4b3A2Y2AYAY5b3A21Y3X2QN2MK5I44XA3L10A6J56A8K69",
   "SA8K12A6L28R2U2K84A11KL29A3L78AL11A4L2Q31AK55A9K14A2K10A2K4L28Q4L67A24L5N23A10M6A2M6A2M6A9M7",
   "AM7AQ48R4Q2V2X4A4R80L46A2L10A6C11172A12L23A4L49A4C2048B6702N2G59L3A2I106A38B7A12B5A5EB25AB5A",
   "BAB2AB2AB108M16YA16B365Y16B64A2B54A7YF32B12GHY2G16I10A6B4K3Q7R2B21G2H2B10AB19AB4A4B3GBAB135A",
   "2BAB94G2B94A3B6A2B6A2B6A2B3A3B7AB7A10E3DB3H12AH26AH19AH2AH15A2H14A34H123A5H3A4H45A3H9I75Q2S2",
   "AK12XA3QA47K46A130K29A3K49A15Q28A4F31QF4A9T3F27A5Q43A5H30AHI36A4I14A42F38H2F38H80A2H10A6S36A",
   "4S36A4Q40A8Q52A11QY11AY15AY7AY2AY11AY15AY7AY2A3b52A12Q311A9Q22A10Q8A24Y6AY42AY9A69H6A2HAH44A",
   "H2A3HA2HL22AL9Q63A8Q9A48R19AR2A5R5J26L2A3JK26A5KA64N56A4R2N2R16A2R46I4AI2A5I8AI3AI27U2A2I3A4",
   "I9UA7I9A7L32Q32A32Q39A4Q12A9L54A3L29A2L27A5L8Q18A7Q4A12Q7A80L73A55R51A13R51A7R6U40A8U10A6b38",
   "A3b29A8b2A208L31AX42AX3A2X2A16b3A55bZ3U40A8U42A22Y26A38X28A20V23A9M78A4M30Y6A9QL66YA10UA2N25",
   "A7N10A6N53AN14U3XA8Q39A9N73R4QX2N10QR5AQ20A11Q18AQ43SZ3A62R7ARAR4AR15AR11A6Q59A5Q10A6RQ3AQ8A",
   "2Q2A2Q22AQ7AQ2AQ5AUQ9A2Q2A2Q3A2RA6QA5Q7A2Q7A3Q5A11b10AbA2bAb38Ab10AbA2bAb4Ab10Ab2A8b2A29S90X",
   "SASUVX2A30Q72A8Q10A166Q54A2Q18R20A34Q69A11Q10A6S13A19N56VYA6N10A6b20A28R26UA2R15A4R16Y7A185U",
   "60A100Q83A12QX7A2XA2X8AX2AX30AX2A2X12A9X10A70V8A2V46A2V11A27T72A8T52V2T23UT5A13Y16Q57A7Z10A1",
   "82b34A14b10A6S9AS45AS14A10S29A3S32A2S22AS14A73T7AT2AT44A3TAT2AT9A8T10A6U6AU2AU37AU2AU6A7U10A",
   "310U25A7Z17AZ41A3Z28bA85XA15V50A13VJ879Q42RA102J99Q12AJ4QA11R196A2636Y99A13L1071ZV9Z29A10b39",
   "95A5R583A6841b58A1734M569A7Q31AQ10A4Q2Y79AY10A6Q30A2Q6A10Q70A10Q10AQ7AQ21A5Q19A432b58A198U91",
   "A101N69V6A4VN47V9A7N17A64STV2XA11X2A14S6125U5V6A8S755X483A41bX9A8935Y4AY7AY2AM2T285Y4A15ZA29",
   "V3A2ZA14V4A8T396A2308Q107A5Q13A3Q9A7Q10A2Q8A3932b250A6b436A76Y46A2Y23A9Y116A60F246A10F39A2KF",
   "180R11Y2A21I70A122Z20A12U20A12H87A9J18U7A135F85AF71AF2A2FA2F2A2F4AF12AFAF4HF2AF65AF4A2F8AF7A",
   "F28AF4AF5AFA3F7AF338I2A2F290J2A2F50R652A15R5AR15A1104Y31A6Z6A213S7AS17A2S7AS2AS5A5Z62A33ZA11",
   "2V45A3V14A2V10A4V2A320Y31A17V58A5VA464Z42A214b43A4bA480Y7AY4AY2AY15AQ197A2Q16A41S75VA4S10A4S",
   "2A785U68A76V61A194N4AN27AN2ANA2NAN10AN4ANANA6NA4NANANAN3AN2ANA2NANANANANAN2ANA2N4AN7AN4AN4AN",
   "AN10AN17A5N3AN5AN17A52N2A270K44A4K100A12M15A2M14QAM15AM15Q22A10L11Q2X3L31UMLM11LMLM2LM3LM3L5",
   "M8LM7LM10N2VX3M9LML2M2LM10L4M2LM10S18XA56M26LM2A13L34M9SA4L9A7M2A14T6A154M33Q12R3M6QM70QR2M2",
   "0Q12M37QM5Q4R5Q12M17Q7R8M63QMQM182QM4Q2RM62Q2N4Q7R5M24Q18SQ41SQ86M5NM16NM3NMNMNMNM3NM6N2M4NM",
   "N2M4NM12Q2R2M11Q48M70Q10RS2T2VX2A4ZY3Q13A3Q4S3T2UVX2A3M116Z3A4Z5Q85U4ZA6V12A4YA15Q12A4Q56A8Q",
   "10A6Q40A8Q30A2X2b10A4b2A62T12XV3R9S6TS8T8ST2S12VS12TU3S15T13U5VXU4X2YUVU4R5S13T6U11X2V6X3V2U",
   "10V6RU2V8XYV3T23U25V84A12U14A2V4XZ3V3Y2A3V3X4Z2bA5bV6X19Y4Z3X7Y4Z3bZX3Y3bA7Z2X7Y3Z2bA2bY8ZbA",
   "6Y7Z2A7X147AX55b37X10A1028C2F42711X7Y2A32L4149Y4ZA6M222A2R5762A14T7473A15a622A2466F542A1504C",
   "2X4939A5Z4192A56398C2A65534C2A65534C2A65534C2A65534C2A65534C2A65534C2A65534C2A65534C2A65534C",
   "2A65534C2AFA30F96A128H240A65038C131074"]

/-- The ages of all code points. -/
def ages : List (Run (Option Version)) := Run.ofTexts (none :: all.map some) assignment

/-- The code points that a version has, its own and those of earlier ones. -/
def assigned (v : Version) : CharSet := Run.toSet (fun age => age.any (·.isUpTo v)) ages

end Version

end CacheWarden.Text
