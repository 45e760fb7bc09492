/-!
# Ages of characters, code point by code point

The edition of the standard that first assigned each code point from 0 to 10FFFF, in order, as runs:
a code and, where the run is longer than one code point, its length in decimal. A capital letter
stands for the number of the edition before its point, from A for 1 to P for 16, a small letter for
the number behind the point, where that is not 0. Z stands for what edition 16.0 leaves unassigned.
-/

namespace RowQuery.Repertoire

/-- Runs of ages, from code point 0 on. -/
def ageRuns : String :=
  String.join [
    "Aa502C4Aa30C8CbDC18D3Da11E14Aa89C5D2Aa47CAa10C5D17Aa70C9CbD8Da5D3Aa2CCb13Ea4Aa2Ea2Z2AaE3AaG",
    "Z4Aa7ZAaZAa20ZAa44EaAa7CCb2AaCAaCAaCAaCAa18Ca2CbD5Da4CAa12CAa66CAa12CAa41EaC2Cb2C4Aa53Cb2Aa2",
    "Cb2Aa2Cb2EAa28C2Aa8Da2Aa2E6Cb16E4Ea16Eb2F2G8ZAa38Z2Aa7KAa39KAaCZ2G2FaZB17DaB13Aa10EAa9BDa3Z8",
    "Aa27Z4KAa5Z11D4FaGEa5DaAaD9Ea5AaFcNDaAaFAa26Ea5Aa19C3D3Da6FAa14Cb2Aa72C2Aa5CAa15CAa30D2Aa10",
    "C5DC14ZC30D3C27Z2D3Da30Ea18C49CbZ14E59Z2K3Eb46Z2Eb15ZF28Z2FZJ11Z5N31ZN2Z5PN8FaGFa11G6H2NI8",
    "M10N11KI15HFa27GEbAa3DAa53F2Aa18EbFAa5EbF2Aa25Ea2F5GEb2E2DaE2GAa3ZAa8Z2Aa2Z2Aa22ZAa7ZAaZ3Aa4",
    "Z2AaDAa7Z2Aa2Z2Aa3DaZ8AaZ4Aa2ZAa5Z2Aa21EbJ2KZ2DAaDZAa6Z4Aa2Z2Aa22ZAa7ZAa2ZAa2ZAa2Z2AaZAa5Z4",
    "Aa2Z2Aa3Z3EaZ7Aa4ZAaZ7Aa15EaKZ10Aa3ZAa7DAaZAa3ZAa22ZAa7ZAa2ZAa5Z2Aa10ZAa3ZAa3Z2AaZ15AaD3Z2",
    "Aa10FaDZ7HJ6ZAa3ZAa8Z2Aa2Z2Aa22ZAa7ZAa2ZDAa4Z2Aa8EaZ2Aa2Z2Aa3Z7MAa2Z4Aa2ZAa3Ea2Z2Aa11DF6Z10",
    "Aa2ZAa6Z3Aa3ZAa4Z3Aa2ZAaZAa2Z3Aa2Z3Aa3Z3Aa8DaAa3Z4Aa5Z3Aa3ZAa4Z2EaZ6AaZ14DaAa12D8Z5GAa3KAa8Z",
    "Aa3ZAa23ZAa10GAa5Z2NEaAa7ZAa3ZAa4Z7Aa2ZEa2HZ2NZ2Aa2Ea2Z2Aa10Z7LEa8IGAa2KAa8ZAa3ZAa23ZAa10Z",
    "Aa5Z2D2Aa7ZAa3ZAa4Z7Aa2Z6NAaZAa2E2Z2Aa10ZE2OZ12JGAa2MAa8ZAa3ZAa23FAa16FJ2EaAa6EaZAa3ZAa4FIZ4",
    "I3AaI7HAa2Ea2Z2Aa10Ea6I3Ea7ZMC2ZC18Z3C24ZC9ZCZ2C7Z3CZ4C6ZCZC8Z6G10Z2C3Z12Aa58Z4Aa29Z37Aa2ZAa",
    "ZLAa2LAaZLAaL6Aa4LAa7LAa3ZAaZAaL2Aa2LAa13LAa3Z2Aa5ZAaZAa6OZAa10Z2Aa2Fa2Z32B72ZB33CEa2Z4B27F4",
    "B6CBZB21C3B7CBC3ZC15ZEaCDa2Ea3Eb4F2Z37C34EaC5EaC2EaC7Ea3C4Ea6C26Ea64Eb4Ea2Aa38ZFaZ5FaZ2Aa39",
    "Cb2Da2AaDaFa3Aa90Eb5Aa68Eb5Aa82Eb6C7DaC63DaCZC4Z2C7ZCZC4Z2C39DaCZC4Z2C31DaCZC4Z2C7ZCZC4Z2C7",
    "DaC7ZC23DaC31DaCZC4Z2C7DaC39DaC19Z2F2Da2C28Z3Da26Z6C85HZ2H6Z2EbC630Eb9C29Z3C81G8Z7Cb13NCb7N",
    "Z9NCb23Z9Cb20Z12Cb13ZCb3ZCb2Z12C93DZ2C10Z6D10Z6C15NC10Z6C88KZ7C42EaZ5Eb70Z10D29G2ZD12Z4D12Z4",
    "DZ3D42Z2D5Z11Da42Eb2Z4Da26Z6Da10EbZ3Da2D32Da28Z2Da2Eb63ZEb29Z2Eb11Z6Eb10Z6Eb14Z2G15M2N14Z49",
    "E76NZP2E45N2PEa43Fa3Ea12Fa6F52Z8F4Ea56Z3Ea15Z3Ea51I9P2Z5K43Z2K3Fa8Z8Eb35Fa4JG2LZ5D108Da88E7",
    "Ea28G15J4NIFEbE2Aa155BEa4Aa90Ea6Aa22Z2Aa6Z2Aa38Z2Aa6Z2Aa8ZAaZAaZAaZAa31Z2Aa53ZAa15ZAa14Z2Aa6",
    "ZAa19Z2Aa3ZAa9ZAa47CAa23CbC6Cb5D2Da2CbDa7Cb5EaZFc4Aa7CbZ2Aa27ZDa5F8Z3Aa11BBaC3Cb2Da4Eb3FFbG3",
    "HJNZ15Aa18C2Cb7DaE4EaZ15Aa57C2DDaCb15DaE2EaEb3Aa48CEEa4EbH2Z4Aa91C9Cb12Aa242Cb14AaCAa121CCb",
    "C30Cb52D2Da11E12EbF11G7I4JAa37C2P3Z22Aa11Z21Aa139Cb20DAa150Cb10Aa80C8Cb8Aa20D2Cb2DaCAa86C2",
    "Cb12Da2Cb10D8Da11EaEb2D2Da16EEa10Eb3Ea4Eb10FEb19FEbF4Eb24GAa4FAa4F2Aa28FAa35FAaFAa4F3AaEbAa7",
    "F2Aa7Cb14Aa31F3Aa24FAa14FDa7E4FaEaFaF2Cb28Ea4Cb16C256Cb512D14Da6E7Ea5E4Ea41G3Ea5Eb5G26Z2G32Z",
    "MG34K3G12LG8JK25H4K15LDa47NDa47NE13Ea3EbEa3E4Ea6Eb2Da107Eb7Fa2Z5Da45ZFaZ5FaZ2Da54Fa2Z7DaFZ14",
    "FDa23Z9Da7ZDa7ZDa7ZDa7ZDa7ZDa7ZDa7ZDa7ZEa32Da24Ea4Da2Ea19EbFa10G7I2J5K5LM3N11Z34C26ZC89Z12",
    "C214Z26C12Oa4Aa56C3Cb3CAaZAa84Cb2Z2Aa6Cb2Aa94CbZ5Aa40EaJKZAa94ZAa16C24F3M5Da16Ea20P2Z9OaCb16",
    "Aa29D2ZAa36Eb12DCb15Aa28D2DaAa50Cb15Aa12D4Aa47LaAa119D4Aa99D2Aa31DC6582M10D64Aa20902Da22Ea8",
    "Eb8FaH9J21K5M13N3C1165Z3C18Cb2C16CbC12CbC3CbCZ9Eb48Ea300Z20Ea32F2Ea18Fa8Ea28G6HFaEb88Z8Da23",
    "E4Ea5E2Ea107F2HF2Fa2G12F10FaG3IKG2H6K2L6N2L5M4P3Z2N2ZNZN5P3Z21N3M2GFa2FEa5Da44MZ3Eb10Z6E56Z8",
    "Ea69IZ8Ea12Z6Eb28H2K2Ea84Z11EaEb29Z3Eb78ZEb11Z4Eb2G31ZEa55Z9Ea14Z2Ea10Z2Ea4Eb28G4Eb67Z24Eb5",
    "Fa23Z10F6Z2F6Z2F6Z9F7ZF7ZG48H4G2L2M4Z4H80Eb46Z2Eb10Z6B11172Z12Eb23Z4Eb49Z2052Aa6702Fa2Cb59",
    "Eb3Z2Da106Z38Aa7Z12Aa5Z5CAa25ZAa5ZAaZAa2ZAa2ZAa108F16NZ16Aa365N16Aa64Z2Aa54Z7NCa32Aa12CbDN2",
    "Cb16Da10Z6Aa4Ea3G7H2Aa21Cb2D2Aa10ZAa19ZAa4Z4Aa3CbAaZAa135Z2AaZAa94Cb2Aa94Z3Aa6Z2Aa6Z2Aa6Z2",
    "Aa3Z3Aa7ZAa7Z10C3BaAa3D12ZD26ZD19ZD2ZD15Z2D14Z34D123Z5D3Z4D45Z3D9Da75G2I2ZEa12MZ3GZ47Ea46",
    "Z130Ea29Z3Ea49Z15G28Z4Ca31GCa4Z9J3Ca27Z5G43Z5D30ZDDa36Z4Da14Z42Ca38D2Ca38D80Z2D10Z6I36Z4I36",
    "Z4G40Z8G52Z11GN11ZN15ZN7ZN2ZN11ZN15ZN7ZN2Z3P52Z12G311Z9G22Z10G8Z24N6ZN42ZN9Z69D6Z2DZD44ZD2Z3",
    "DZ2DEb22ZEb9G63Z8G9Z48H19ZH2Z5H5E26Eb2Z3EEa26Z5EaZ64Fa56Z4H2Fa2H16Z2H46Da4ZDa2Z5Da8ZDa3ZDa27",
    "K2Z2Da3Z4Da9KZ7Da9Z7Eb32G32Z32G39Z4G12Z9Eb54Z3Eb29Z2Eb27Z5Eb8G18Z7G4Z12G7Z80Eb73Z55H51Z13H51",
    "Z7H6K40Z8K10Z6P38Z3P29Z8P2Z208Eb31ZM42ZM3Z2M2Z16P3Z55PO3K40Z8K42Z22N26Z38M28Z20L23Z9F78Z4F30",
    "N6Z9GEb66NZ10KZ2Fa25Z7Fa10Z6Fa53ZFa14K3MZ8G39Z9Fa73H4GM2Fa10GH5ZG20Z11G18ZG43IO3Z62H7ZHZH4Z",
    "H15ZH11Z6G59Z5G10Z6HG3ZG8Z2G2Z2G22ZG7ZG2ZG5ZKG9Z2G2Z2G3Z2HZ6GZ5G7Z2G7Z3G5Z11P10ZPZ2PZP38ZP10",
    "ZPZ2PZP4ZP10ZP2Z8P2Z29I90MIZIKLM2Z30G72Z8G10Z166G54Z2G18H20Z34G69Z11G10Z6I13Z19Fa56LNZ6Fa10",
    "Z6P20Z28H26KZ2H15Z4H16N7Z185K60Z100G83Z12GM7Z2MZ2M8ZM2ZM30ZM2Z2M12Z9M10Z70L8Z2L46Z2L11Z27J72",
    "Z8J52L2J23KJ5Z13N16G57Z7O10Z182P34Z14P10Z6I9ZI45ZI14Z10I29Z3I32Z2I22ZI14Z73J7ZJ2ZJ44Z3JZJ2Z",
    "J9Z8J10Z6K6ZK2ZK37ZK2ZK6Z7K10Z310K25Z7O17ZO41Z3O28PZ85MZ15L50Z13LE879G42HZ102E99G12ZE4GZ11",
    "H196Z2636N99Z13Eb1071OL9O29Z10P3995Z5H583Z6841P58Z1734F569Z7G31ZG10Z4G2N79ZN10Z6G30Z2G6Z10",
    "G70Z10G10ZG7ZG21Z5G19Z432P58Z198K91Z101Fa69L6Z4LFa47L9Z7Fa17Z64IJL2MZ11M2Z14I6125K5L6Z8I755",
    "M483Z41PM9Z8935N4ZN7ZN2ZF2J285N4Z15OZ29L3Z2OZ14L4Z8J396Z2308G107Z5G13Z3G9Z7G10Z2G8Z3932P250",
    "Z6P436Z76N46Z2N23Z9N116Z60Ca246Z10Ca39Z2EaCa180H11N2Z21Da70Z122O20Z12K20Z12D87Z9E18K7Z135",
    "Ca85ZCa71ZCa2Z2CaZ2Ca2Z2Ca4ZCa12ZCaZCa4DCa2ZCa65ZCa4Z2Ca8ZCa7ZCa28ZCa4ZCa5ZCaZ3Ca7ZCa338Da2",
    "Z2Ca290E2Z2Ca50H652Z15H5ZH15Z1104N31Z6O6Z213I7ZI17Z2I7ZI2ZI5Z5O62Z33OZ112L45Z3L14Z2L10Z4L2",
    "Z320N31Z17L58Z5LZ464O42Z214P43Z4PZ480N7ZN4ZN2ZN15ZG197Z2G16Z41I75LZ4I10Z4I2Z785K68Z76L61Z194",
    "Fa4ZFa27ZFa2ZFaZ2FaZFa10ZFa4ZFaZFaZ6FaZ4FaZFaZFaZFa3ZFa2ZFaZ2FaZFaZFaZFaZFaZFa2ZFaZ2Fa4ZFa7Z",
    "Fa4ZFa4ZFaZFa10ZFa17Z5Fa3ZFa5ZFa17Z52Fa2Z270Ea44Z4Ea100Z12F15Z2F14GZF15ZF15G22Z10Eb11G2M3",
    "Eb31KFEbF11EbFEbF2EbF3EbF3Eb5F8EbF7EbF10Fa2LM3F9EbFEb2F2EbF10Eb4F2EbF10I18MZ56F26EbF2Z13Eb34",
    "F9IZ4Eb9Z7F2Z14J6Z154F33G12H3F6GF70GH2F20G12F37GF5G4H5G12F17G7H8F63GFGF182GF4G2HF62G2Fa4G7H5",
    "F24G18IG41IG86F5FaF16FaF3FaFFaFFaFFaF3FaF6Fa2F4FaFFa2F4FaF12G2H2F11G48F70G10HI2J2LM2Z4ON3G13",
    "Z3G4I3J2KLM2Z3F116O3Z4O5G85K4OZ6L12Z4NZ15G12Z4G56Z8G10Z6G40Z8G30Z2M2P10Z4P2Z62J12ML3H9I6JI8",
    "J8IJ2I12LI12JK3I15J13K5LMK4M2NKLK4H5I13J6K11M2L6M3L2K10L6HK2L8MNL3J23K25L84Z12K14Z2L4MO3L3N2",
    "Z3L3M4O2PZ5PL6M19N4O3M7N4O3POM3N3PZ7O2M7N3O2PZ2PN8OPZ6N7O2Z7M147ZM55P37M10Z1028B2Ca42711M7N2",
    "Z32Eb4149N4OZ6F222Z2H5762Z14J7473Z15Oa622Z2466Ca542Z1504B2M4939Z5O4192Z56398B2Z65534B2Z65534",
    "B2Z65534B2Z65534B2Z65534B2Z65534B2Z65534B2Z65534B2Z65534B2Z65534B2ZCaZ30Ca96Z128D240Z65038",
    "B131074"]

end RowQuery.Repertoire
