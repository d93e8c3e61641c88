import Bindery.Text.CharName.Run
/-!
# Names of pictographs

The names from U+1F000 on: tiles, cards, enclosed letters, pictures, tags and variation selectors.
-/
namespace Bindery.Text.CharName

def pictographs : List Run := [
  ⟨0x1F000, "MAHJONG TILE EAST WINDcSOUTH WINDcWEST WINDcNORTH WINDcRED DRAGONcGREEN DRAGON"⟩,
  ⟨0x1F006, "MAHJONG TILE WHITE DRAGONcONE OF CHARACTERScTWO OF CHARACTERScTHREE OF CHARACTERS"⟩,
  ⟨0x1F00A, "MAHJONG TILE FOUR OF CHARACTERScFIVE OF CHARACTERScSIX OF CHARACTERS"⟩,
  ⟨0x1F00D, "MAHJONG TILE SEVEN OF CHARACTERScEIGHT OF CHARACTERScNINE OF CHARACTERS"⟩,
  ⟨0x1F010, "MAHJONG TILE ONE OF BAMBOOScTWO OF BAMBOOScTHREE OF BAMBOOScFOUR OF BAMBOOS"⟩,
  ⟨0x1F014, "MAHJONG TILE FIVE OF BAMBOOScSIX OF BAMBOOScSEVEN OF BAMBOOScEIGHT OF BAMBOOS"⟩,
  ⟨0x1F018, "MAHJONG TILE NINE OF BAMBOOScONE OF CIRCLEScTWO OF CIRCLEScTHREE OF CIRCLES"⟩,
  ⟨0x1F01C, "MAHJONG TILE FOUR OF CIRCLEScFIVE OF CIRCLEScSIX OF CIRCLEScSEVEN OF CIRCLES"⟩,
  ⟨0x1F020, "MAHJONG TILE EIGHT OF CIRCLEScNINE OF CIRCLEScPLUMcORCHIDcBAMBOOcCHRYSANTHEMUM"⟩,
  ⟨0x1F026, "MAHJONG TILE SPRINGcSUMMERcAUTUMNcWINTERcJOKERcBACK"⟩,
  ⟨0x1F030, "DOMINO TILE HORIZONTAL BACKcHORIZONTAL-00-00e01e02e03e04e05e06d01-00e01e02e03e04e05"⟩,
  ⟨0x1F03E, "DOMINO TILE HORIZONTAL-01-06d02-00e01e02e03e04e05e06d03-00e01e02e03e04e05e06d04-00"⟩,
  ⟨0x1F04E, "DOMINO TILE HORIZONTAL-04-01e02e03e04e05e06d05-00e01e02e03e04e05e06d06-00e01e02e03"⟩,
  ⟨0x1F05F, "DOMINO TILE HORIZONTAL-06-04e05e06cVERTICAL BACKcVERTICAL-00-00e01e02e03e04e05e06"⟩,
  ⟨0x1F06A, "DOMINO TILE VERTICAL-01-00e01e02e03e04e05e06d02-00e01e02e03e04e05e06d03-00e01e02e03"⟩,
  ⟨0x1F07C, "DOMINO TILE VERTICAL-03-04e05e06d04-00e01e02e03e04e05e06d05-00e01e02e03e04e05e06"⟩,
  ⟨0x1F08D, "DOMINO TILE VERTICAL-06-00e01e02e03e04e05e06"⟩,
  ⟨0x1F0A0, "PLAYING CARD BACKcACE OF SPADEScTWO OF SPADEScTHREE OF SPADEScFOUR OF SPADES"⟩,
  ⟨0x1F0A5, "PLAYING CARD FIVE OF SPADEScSIX OF SPADEScSEVEN OF SPADEScEIGHT OF SPADES"⟩,
  ⟨0x1F0A9, "PLAYING CARD NINE OF SPADEScTEN OF SPADEScJACK OF SPADEScKNIGHT OF SPADES"⟩,
  ⟨0x1F0AD, "PLAYING CARD QUEEN OF SPADEScKING OF SPADES"⟩,
  ⟨0x1F0B1, "PLAYING CARD ACE OF HEARTScTWO OF HEARTScTHREE OF HEARTScFOUR OF HEARTS"⟩,
  ⟨0x1F0B5, "PLAYING CARD FIVE OF HEARTScSIX OF HEARTScSEVEN OF HEARTScEIGHT OF HEARTS"⟩,
  ⟨0x1F0B9, "PLAYING CARD NINE OF HEARTScTEN OF HEARTScJACK OF HEARTScKNIGHT OF HEARTS"⟩,
  ⟨0x1F0BD, "PLAYING CARD QUEEN OF HEARTScKING OF HEARTScRED JOKER"⟩,
  ⟨0x1F0C1, "PLAYING CARD ACE OF DIAMONDScTWO OF DIAMONDScTHREE OF DIAMONDScFOUR OF DIAMONDS"⟩,
  ⟨0x1F0C5, "PLAYING CARD FIVE OF DIAMONDScSIX OF DIAMONDScSEVEN OF DIAMONDScEIGHT OF DIAMONDS"⟩,
  ⟨0x1F0C9, "PLAYING CARD NINE OF DIAMONDScTEN OF DIAMONDScJACK OF DIAMONDScKNIGHT OF DIAMONDS"⟩,
  ⟨0x1F0CD, "PLAYING CARD QUEEN OF DIAMONDScKING OF DIAMONDScBLACK JOKER"⟩,
  ⟨0x1F0D1, "PLAYING CARD ACE OF CLUBScTWO OF CLUBScTHREE OF CLUBScFOUR OF CLUBScFIVE OF CLUBS"⟩,
  ⟨0x1F0D6, "PLAYING CARD SIX OF CLUBScSEVEN OF CLUBScEIGHT OF CLUBScNINE OF CLUBScTEN OF CLUBS"⟩,
  ⟨0x1F0DB, "PLAYING CARD JACK OF CLUBScKNIGHT OF CLUBScQUEEN OF CLUBScKING OF CLUBScWHITE JOKER"⟩,
  ⟨0x1F0E0, "PLAYING CARD FOOLcTRUMP-1d2d3d4d5d6d7d8d9d10d11d12d13d14d15d16d17d18d19d20d21"⟩,
  ⟨0x1F100, "DIGIT ZERO FULL STOPcCOMMAbONE COMMAbTWO COMMAbTHREE COMMAbFOUR COMMAbFIVE COMMA"⟩,
  ⟨0x1F107, "DIGIT SIX COMMAbSEVEN COMMAbEIGHT COMMAbNINE COMMA"⟩,
  ⟨0x1F10B, "DINGBAT CIRCLED SANS-SERIF DIGIT ZERObNEGATIVE CIRCLED SANS-SERIF DIGIT ZERO"⟩,
  ⟨0x1F10D, "CIRCLED ZERO WITH SLASHbANTICLOCKWISE ARROWbDOLLAR SIGN WITH OVERLAID BACKSLASH"⟩,
  ⟨0x1F110, "PARENTHESIZED LATIN CAPITAL LETTER AeBeCeDeEeFeGeHeIeJeKeLeMeNeOePeQeReSeTeUeVeWeXeY"⟩,
  ⟨0x1F129, "PARENTHESIZED LATIN CAPITAL LETTER ZaTORTOISE SHELL BRACKETED LATIN CAPITAL LETTER S"⟩,
  ⟨0x1F12B, "CIRCLED ITALIC LATIN CAPITAL LETTER CfRbCDbWZaCOPYLEFT SYMBOL"⟩,
  ⟨0x1F130, "SQUARED LATIN CAPITAL LETTER AeBeCeDeEeFeGeHeIeJeKeLeMeNeOePeQeReSeTeUeVeWeXeYeZbHV"⟩,
  ⟨0x1F14B, "SQUARED MVbSDbSSbPPVbWCaNEGATIVE CIRCLED LATIN CAPITAL LETTER AfBfCfDfEfFfGfHfIfJfK"⟩,
  ⟨0x1F15B, "NEGATIVE CIRCLED LATIN CAPITAL LETTER LfMfNfOfPfQfRfSfTfUfVfWfXfYfZaRAISED MC SIGN"⟩,
  ⟨0x1F16B, "RAISED MD SIGNbMR SIGNaCIRCLED CCbC WITH OVERLAID BACKSLASHbHUMAN FIGURE"⟩,
  ⟨0x1F170, "NEGATIVE SQUARED LATIN CAPITAL LETTER AfBfCfDfEfFfGfHfIfJfKfLfMfNfOfPfQfRfSfTfUfVfW"⟩,
  ⟨0x1F187, "NEGATIVE SQUARED LATIN CAPITAL LETTER XfYfZ"⟩,
  ⟨0x1F18A, "CROSSED NEGATIVE SQUARED LATIN CAPITAL LETTER PaNEGATIVE SQUARED ICcPAcSAcABcWC"⟩,
  ⟨0x1F190, "SQUARE DJaSQUARED CLbCOOLbFREEbIDbNEWbNGbOKbSOSbUP WITH EXCLAMATION MARKbVSbTHREE D"⟩,
  ⟨0x1F19C, "SQUARED SECOND SCREENbTWO KbFOUR KbEIGHT KbFIVE POINT ONEbSEVEN POINT ONE"⟩,
  ⟨0x1F1A2, "SQUARED TWENTY-TWO POINT TWObSIXTY PbONE HUNDRED TWENTY PbLATIN SMALL LETTER DbHC"⟩,
  ⟨0x1F1A7, "SQUARED HDRbHI-RESbLOSSLESSbSHVbUHDbVODaMASK WORK SYMBOL"⟩,
  ⟨0x1F1E6, "REGIONAL INDICATOR SYMBOL LETTER AeBeCeDeEeFeGeHeIeJeKeLeMeNeOePeQeReSeTeUeVeWeXeYeZ"⟩,
  ⟨0x1F200, "SQUARE HIRAGANA HOKAaSQUARED KATAKANA KOKOcSA"⟩,
  ⟨0x1F210, "SQUARED CJK UNIFIED IDEOGRAPH-624Be5B57e53CCbKATAKANA DEbCJK UNIFIED IDEOGRAPH-4E8C"⟩,
  ⟨0x1F215, "SQUARED CJK UNIFIED IDEOGRAPH-591Ae89E3e5929e4EA4e6620e7121e6599e524De5F8Ce518De65B0"⟩,
  ⟨0x1F220, "SQUARED CJK UNIFIED IDEOGRAPH-521De7D42e751Fe8CA9e58F0e5439e6F14e6295e6355e4E00e4E09"⟩,
  ⟨0x1F22B, "SQUARED CJK UNIFIED IDEOGRAPH-904Ae5DE6e4E2De53F3e6307e8D70e6253e7981e7A7Ae5408e6E80"⟩,
  ⟨0x1F236, "SQUARED CJK UNIFIED IDEOGRAPH-6709e6708e7533e5272e55B6e914D"⟩,
  ⟨0x1F240, "TORTOISE SHELL BRACKETED CJK UNIFIED IDEOGRAPH-672Cg4E09g4E8Cg5B89g70B9g6253g76D7"⟩,
  ⟨0x1F247, "TORTOISE SHELL BRACKETED CJK UNIFIED IDEOGRAPH-52DDg6557"⟩,
  ⟨0x1F250, "CIRCLED IDEOGRAPH ADVANTAGEcACCEPT"⟩,
  ⟨0x1F260, "ROUNDED SYMBOL FOR FUdLUdSHOUdXIdSHUANGXIdCAI"⟩,
  ⟨0x1F300, "CYCLONEaFOGGYaCLOSED UMBRELLAaNIGHT WITH STARSaSUNRISE OVER MOUNTAINSaSUNRISE"⟩,
  ⟨0x1F306, "CITYSCAPE AT DUSKaSUNSET OVER BUILDINGSaRAINBOWaBRIDGE AT NIGHTaWATER WAVEaVOLCANO"⟩,
  ⟨0x1F30C, "MILKY WAYaEARTH GLOBE EUROPE-AFRICAcAMERICAScASIA-AUSTRALIAaGLOBE WITH MERIDIANS"⟩,
  ⟨0x1F311, "NEW MOON SYMBOLaWAXING CRESCENT MOON SYMBOLaFIRST QUARTER MOON SYMBOL"⟩,
  ⟨0x1F314, "WAXING GIBBOUS MOON SYMBOLaFULL MOON SYMBOLaWANING GIBBOUS MOON SYMBOL"⟩,
  ⟨0x1F317, "LAST QUARTER MOON SYMBOLaWANING CRESCENT MOON SYMBOLaCRESCENT MOON"⟩,
  ⟨0x1F31A, "NEW MOON WITH FACEaFIRST QUARTER MOON WITH FACEaLAST QUARTER MOON WITH FACE"⟩,
  ⟨0x1F31D, "FULL MOON WITH FACEaSUN WITH FACEaGLOWING STARaSHOOTING STARaTHERMOMETER"⟩,
  ⟨0x1F322, "BLACK DROPLETaWHITE SUNbSUN WITH SMALL CLOUDcBEHIND CLOUDdCLOUD WITH RAIN"⟩,
  ⟨0x1F327, "CLOUD WITH RAINcSNOWcLIGHTNINGcTORNADOaFOGaWIND BLOWING FACEaHOT DOGaTACOaBURRITO"⟩,
  ⟨0x1F330, "CHESTNUTaSEEDLINGaEVERGREEN TREEaDECIDUOUS TREEaPALM TREEaCACTUSaHOT PEPPERaTULIP"⟩,
  ⟨0x1F338, "CHERRY BLOSSOMaROSEaHIBISCUSaSUNFLOWERaBLOSSOMaEAR OF MAIZEcRICEaHERB"⟩,
  ⟨0x1F340, "FOUR LEAF CLOVERaMAPLE LEAFaFALLEN LEAFaLEAF FLUTTERING IN WINDaMUSHROOMaTOMATO"⟩,
  ⟨0x1F346, "AUBERGINEaGRAPESaMELONaWATERMELONaTANGERINEaLEMONaBANANAaPINEAPPLEaRED APPLE"⟩,
  ⟨0x1F34F, "GREEN APPLEaPEARaPEACHaCHERRIESaSTRAWBERRYaHAMBURGERaSLICE OF PIZZAaMEAT ON BONE"⟩,
  ⟨0x1F357, "POULTRY LEGaRICE CRACKERbBALLaCOOKED RICEaCURRY AND RICEaSTEAMING BOWLaSPAGHETTI"⟩,
  ⟨0x1F35E, "BREADaFRENCH FRIESaROASTED SWEET POTATOaDANGOaODENaSUSHIaFRIED SHRIMP"⟩,
  ⟨0x1F365, "FISH CAKE WITH SWIRL DESIGNaSOFT ICE CREAMaSHAVED ICEaICE CREAMaDOUGHNUTaCOOKIE"⟩,
  ⟨0x1F36B, "CHOCOLATE BARaCANDYaLOLLIPOPaCUSTARDaHONEY POTaSHORTCAKEaBENTO BOXaPOT OF FOOD"⟩,
  ⟨0x1F373, "COOKINGaFORK AND KNIFEaTEACUP WITHOUT HANDLEaSAKE BOTTLE AND CUPaWINE GLASS"⟩,
  ⟨0x1F378, "COCKTAIL GLASSaTROPICAL DRINKaBEER MUGaCLINKING BEER MUGSaBABY BOTTLE"⟩,
  ⟨0x1F37D, "FORK AND KNIFE WITH PLATEaBOTTLE WITH POPPING CORKaPOPCORNaRIBBONaWRAPPED PRESENT"⟩,
  ⟨0x1F382, "BIRTHDAY CAKEaJACK-O-LANTERNaCHRISTMAS TREEaFATHER CHRISTMASaFIREWORKS"⟩,
  ⟨0x1F387, "FIREWORK SPARKLERaBALLOONaPARTY POPPERaCONFETTI BALLaTANABATA TREEaCROSSED FLAGS"⟩,
  ⟨0x1F38D, "PINE DECORATIONaJAPANESE DOLLSaCARP STREAMERaWIND CHIMEaMOON VIEWING CEREMONY"⟩,
  ⟨0x1F392, "SCHOOL SATCHELaGRADUATION CAPaHEART WITH TIP ON THE LEFTaBOUQUET OF FLOWERS"⟩,
  ⟨0x1F396, "MILITARY MEDALaREMINDER RIBBONaMUSICAL KEYBOARD WITH JACKSaSTUDIO MICROPHONE"⟩,
  ⟨0x1F39A, "LEVEL SLIDERaCONTROL KNOBSaBEAMED ASCENDING MUSICAL NOTESbDESCENDING MUSICAL NOTES"⟩,
  ⟨0x1F39E, "FILM FRAMESaADMISSION TICKETSaCAROUSEL HORSEaFERRIS WHEELaROLLER COASTER"⟩,
  ⟨0x1F3A3, "FISHING POLE AND FISHaMICROPHONEaMOVIE CAMERAaCINEMAaHEADPHONEaARTIST PALETTE"⟩,
  ⟨0x1F3A9, "TOP HATaCIRCUS TENTaTICKETaCLAPPER BOARDaPERFORMING ARTSaVIDEO GAMEaDIRECT HIT"⟩,
  ⟨0x1F3B0, "SLOT MACHINEaBILLIARDSaGAME DIEaBOWLINGaFLOWER PLAYING CARDSaMUSICAL NOTE"⟩,
  ⟨0x1F3B6, "MULTIPLE MUSICAL NOTESaSAXOPHONEaGUITARaMUSICAL KEYBOARDaTRUMPETaVIOLIN"⟩,
  ⟨0x1F3BC, "MUSICAL SCOREaRUNNING SHIRT WITH SASHaTENNIS RACQUET AND BALLaSKI AND SKI BOOT"⟩,
  ⟨0x1F3C0, "BASKETBALL AND HOOPaCHEQUERED FLAGaSNOWBOARDERaRUNNERaSURFERaSPORTS MEDALaTROPHY"⟩,
  ⟨0x1F3C7, "HORSE RACINGaAMERICAN FOOTBALLaRUGBY FOOTBALLaSWIMMERaWEIGHT LIFTERaGOLFER"⟩,
  ⟨0x1F3CD, "RACING MOTORCYCLEbCARaCRICKET BAT AND BALLaVOLLEYBALLaFIELD HOCKEY STICK AND BALL"⟩,
  ⟨0x1F3D2, "ICE HOCKEY STICK AND PUCKaTABLE TENNIS PADDLE AND BALLaSNOW CAPPED MOUNTAINaCAMPING"⟩,
  ⟨0x1F3D6, "BEACH WITH UMBRELLAaBUILDING CONSTRUCTIONaHOUSE BUILDINGSaCITYSCAPE"⟩,
  ⟨0x1F3DA, "DERELICT HOUSE BUILDINGaCLASSICAL BUILDINGaDESERTaDESERT ISLANDaNATIONAL PARK"⟩,
  ⟨0x1F3DF, "STADIUMaHOUSE BUILDINGbWITH GARDENaOFFICE BUILDINGaJAPANESE POST OFFICE"⟩,
  ⟨0x1F3E4, "EUROPEAN POST OFFICEaHOSPITALaBANKaAUTOMATED TELLER MACHINEaHOTELaLOVE HOTEL"⟩,
  ⟨0x1F3EA, "CONVENIENCE STOREaSCHOOLaDEPARTMENT STOREaFACTORYaIZAKAYA LANTERNaJAPANESE CASTLE"⟩,
  ⟨0x1F3F0, "EUROPEAN CASTLEaWHITE PENNANTaBLACK PENNANTaWAVING WHITE FLAGbBLACK FLAGaROSETTE"⟩,
  ⟨0x1F3F6, "BLACK ROSETTEaLABELaBADMINTON RACQUET AND SHUTTLECOCKaBOW AND ARROWaAMPHORA"⟩,
  ⟨0x1F3FB, "EMOJI MODIFIER FITZPATRICK TYPE-1-2e3e4e5e6aRATaMOUSEaOXaWATER BUFFALOaCOWaTIGER"⟩,
  ⟨0x1F406, "LEOPARDaRABBITaCATaDRAGONaCROCODILEaWHALEaSNAILaSNAKEaHORSEaRAMaGOATaSHEEPaMONKEY"⟩,
  ⟨0x1F413, "ROOSTERaCHICKENaDOGaPIGaBOARaELEPHANTaOCTOPUSaSPIRAL SHELLaBUGaANTaHONEYBEE"⟩,
  ⟨0x1F41E, "LADY BEETLEaFISHaTROPICAL FISHaBLOWFISHaTURTLEaHATCHING CHICKaBABY CHICK"⟩,
  ⟨0x1F425, "FRONT-FACING BABY CHICKaBIRDaPENGUINaKOALAaPOODLEaDROMEDARY CAMELaBACTRIAN CAMEL"⟩,
  ⟨0x1F42C, "DOLPHINaMOUSE FACEaCOW FACEaTIGER FACEaRABBIT FACEaCAT FACEaDRAGON FACE"⟩,
  ⟨0x1F433, "SPOUTING WHALEaHORSE FACEaMONKEY FACEaDOG FACEaPIG FACEaFROG FACEaHAMSTER FACE"⟩,
  ⟨0x1F43A, "WOLF FACEaBEAR FACEaPANDA FACEaPIG NOSEaPAW PRINTSaCHIPMUNKaEYESaEYEaEARaNOSEaMOUTH"⟩,
  ⟨0x1F445, "TONGUEaWHITE UP POINTING BACKHAND INDEXbDOWN POINTING BACKHAND INDEX"⟩,
  ⟨0x1F448, "WHITE LEFT POINTING BACKHAND INDEXbRIGHT POINTING BACKHAND INDEXaFISTED HAND SIGN"⟩,
  ⟨0x1F44B, "WAVING HAND SIGNaOK HAND SIGNaTHUMBS UP SIGNbDOWN SIGNaCLAPPING HANDS SIGN"⟩,
  ⟨0x1F450, "OPEN HANDS SIGNaCROWNaWOMANS HATaEYEGLASSESaNECKTIEaT-SHIRTaJEANSaDRESSaKIMONO"⟩,
  ⟨0x1F459, "BIKINIaWOMANS CLOTHESaPURSEaHANDBAGaPOUCHaMANS SHOEaATHLETIC SHOEaHIGH-HEELED SHOE"⟩,
  ⟨0x1F461, "WOMANS SANDALbBOOTSaFOOTPRINTSaBUST IN SILHOUETTEaBUSTS IN SILHOUETTEaBOYaGIRLaMAN"⟩,
  ⟨0x1F469, "WOMANaFAMILYaMAN AND WOMAN HOLDING HANDSaTWO MEN HOLDING HANDSbWOMEN HOLDING HANDS"⟩,
  ⟨0x1F46E, "POLICE OFFICERaWOMAN WITH BUNNY EARSaBRIDE WITH VEILaPERSON WITH BLOND HAIR"⟩,
  ⟨0x1F472, "MAN WITH GUA PI MAOcTURBANaOLDER MANbWOMANaBABYaCONSTRUCTION WORKERaPRINCESS"⟩,
  ⟨0x1F479, "JAPANESE OGREbGOBLINaGHOSTaBABY ANGELaEXTRATERRESTRIAL ALIENaALIEN MONSTERaIMPaSKULL"⟩,
  ⟨0x1F481, "INFORMATION DESK PERSONaGUARDSMANaDANCERaLIPSTICKaNAIL POLISHaFACE MASSAGEaHAIRCUT"⟩,
  ⟨0x1F488, "BARBER POLEaSYRINGEaPILLaKISS MARKaLOVE LETTERaRINGaGEM STONEaKISSaBOUQUET"⟩,
  ⟨0x1F491, "COUPLE WITH HEARTaWEDDINGaBEATING HEARTaBROKEN HEARTaTWO HEARTSaSPARKLING HEART"⟩,
  ⟨0x1F497, "GROWING HEARTaHEART WITH ARROWaBLUE HEARTaGREEN HEARTaYELLOW HEARTaPURPLE HEART"⟩,
  ⟨0x1F49D, "HEART WITH RIBBONaREVOLVING HEARTSaHEART DECORATIONaDIAMOND SHAPE WITH A DOT INSIDE"⟩,
  ⟨0x1F4A1, "ELECTRIC LIGHT BULBaANGER SYMBOLaBOMBaSLEEPING SYMBOLaCOLLISION SYMBOL"⟩,
  ⟨0x1F4A6, "SPLASHING SWEAT SYMBOLaDROPLETaDASH SYMBOLaPILE OF POOaFLEXED BICEPSaDIZZY SYMBOL"⟩,
  ⟨0x1F4AC, "SPEECH BALLOONaTHOUGHT BALLOONaWHITE FLOWERaHUNDRED POINTS SYMBOLaMONEY BAG"⟩,
  ⟨0x1F4B1, "CURRENCY EXCHANGEaHEAVY DOLLAR SIGNaCREDIT CARDaBANKNOTE WITH YEN SIGNcDOLLAR SIGN"⟩,
  ⟨0x1F4B6, "BANKNOTE WITH EURO SIGNcPOUND SIGNaMONEY WITH WINGS"⟩,
  ⟨0x1F4B9, "CHART WITH UPWARDS TREND AND YEN SIGNaSEATaPERSONAL COMPUTERaBRIEFCASEaMINIDISC"⟩,
  ⟨0x1F4BE, "FLOPPY DISKaOPTICAL DISCaDVDaFILE FOLDERaOPEN FILE FOLDERaPAGE WITH CURLbFACING UP"⟩,
  ⟨0x1F4C5, "CALENDARaTEAR-OFF CALENDARaCARD INDEXaCHART WITH UPWARDS TRENDcDOWNWARDS TREND"⟩,
  ⟨0x1F4CA, "BAR CHARTaCLIPBOARDaPUSHPINaROUND PUSHPINaPAPERCLIPaSTRAIGHT RULERaTRIANGULAR RULER"⟩,
  ⟨0x1F4D1, "BOOKMARK TABSaLEDGERaNOTEBOOKaNOTEBOOK WITH DECORATIVE COVERaCLOSED BOOKaOPEN BOOK"⟩,
  ⟨0x1F4D7, "GREEN BOOKaBLUE BOOKaORANGE BOOKaBOOKSaNAME BADGEaSCROLLaMEMOaTELEPHONE RECEIVER"⟩,
  ⟨0x1F4DF, "PAGERaFAX MACHINEaSATELLITE ANTENNAaPUBLIC ADDRESS LOUDSPEAKERaCHEERING MEGAPHONE"⟩,
  ⟨0x1F4E4, "OUTBOX TRAYaINBOX TRAYaPACKAGEaE-MAIL SYMBOLaINCOMING ENVELOPE"⟩,
  ⟨0x1F4E9, "ENVELOPE WITH DOWNWARDS ARROW ABOVEaCLOSED MAILBOX WITH LOWERED FLAGdRAISED FLAG"⟩,
  ⟨0x1F4EC, "OPEN MAILBOX WITH RAISED FLAGdLOWERED FLAGaPOSTBOXaPOSTAL HORNaNEWSPAPER"⟩,
  ⟨0x1F4F1, "MOBILE PHONEbPHONE WITH RIGHTWARDS ARROW AT LEFTaVIBRATION MODEaMOBILE PHONE OFF"⟩,
  ⟨0x1F4F5, "NO MOBILE PHONESaANTENNA WITH BARSaCAMERAaCAMERA WITH FLASHaVIDEO CAMERAaTELEVISION"⟩,
  ⟨0x1F4FB, "RADIOaVIDEOCASSETTEaFILM PROJECTORaPORTABLE STEREOaPRAYER BEADS"⟩,
  ⟨0x1F500, "TWISTED RIGHTWARDS ARROWSaCLOCKWISE RIGHTWARDS AND LEFTWARDS OPEN CIRCLE ARROWS"⟩,
  ⟨0x1F502, "CLOCKWISE RIGHTWARDS AND LEFTWARDS OPEN CIRCLE ARROWS WITH CIRCLED ONE OVERLAY"⟩,
  ⟨0x1F503, "CLOCKWISE DOWNWARDS AND UPWARDS OPEN CIRCLE ARROWS"⟩,
  ⟨0x1F504, "ANTICLOCKWISE DOWNWARDS AND UPWARDS OPEN CIRCLE ARROWSaLOW BRIGHTNESS SYMBOL"⟩,
  ⟨0x1F506, "HIGH BRIGHTNESS SYMBOLaSPEAKER WITH CANCELLATION STROKEaSPEAKER"⟩,
  ⟨0x1F509, "SPEAKER WITH ONE SOUND WAVEcTHREE SOUND WAVESaBATTERYaELECTRIC PLUG"⟩,
  ⟨0x1F50D, "LEFT-POINTING MAGNIFYING GLASSaRIGHT-POINTING MAGNIFYING GLASSaLOCK WITH INK PEN"⟩,
  ⟨0x1F510, "CLOSED LOCK WITH KEYaKEYaLOCKaOPEN LOCKaBELLaBELL WITH CANCELLATION STROKEaBOOKMARK"⟩,
  ⟨0x1F517, "LINK SYMBOLaRADIO BUTTONaBACK WITH LEFTWARDS ARROW ABOVE"⟩,
  ⟨0x1F51A, "END WITH LEFTWARDS ARROW ABOVEaON WITH EXCLAMATION MARK WITH LEFT RIGHT ARROW ABOVE"⟩,
  ⟨0x1F51C, "SOON WITH RIGHTWARDS ARROW ABOVEaTOP WITH UPWARDS ARROW ABOVE"⟩,
  ⟨0x1F51E, "NO ONE UNDER EIGHTEEN SYMBOLaKEYCAP TENaINPUT SYMBOL FOR LATIN CAPITAL LETTERS"⟩,
  ⟨0x1F521, "INPUT SYMBOL FOR LATIN SMALL LETTERSdNUMBERSdSYMBOLSdLATIN LETTERSaFIRE"⟩,
  ⟨0x1F526, "ELECTRIC TORCHaWRENCHaHAMMERaNUT AND BOLTaHOCHOaPISTOLaMICROSCOPEaTELESCOPE"⟩,
  ⟨0x1F52E, "CRYSTAL BALLaSIX POINTED STAR WITH MIDDLE DOTaJAPANESE SYMBOL FOR BEGINNER"⟩,
  ⟨0x1F531, "TRIDENT EMBLEMaBLACK SQUARE BUTTONaWHITE SQUARE BUTTONaLARGE RED CIRCLEbBLUE CIRCLE"⟩,
  ⟨0x1F536, "LARGE ORANGE DIAMONDbBLUE DIAMONDaSMALL ORANGE DIAMONDbBLUE DIAMOND"⟩,
  ⟨0x1F53A, "UP-POINTING RED TRIANGLEaDOWN-POINTING RED TRIANGLEaUP-POINTING SMALL RED TRIANGLE"⟩,
  ⟨0x1F53D, "DOWN-POINTING SMALL RED TRIANGLEaLOWER RIGHT SHADOWED WHITE CIRCLE"⟩,
  ⟨0x1F53F, "UPPER RIGHT SHADOWED WHITE CIRCLEaCIRCLED CROSS POMMEE"⟩,
  ⟨0x1F541, "CROSS POMMEE WITH HALF-CIRCLE BELOWbPOMMEEaNOTCHED LEFT SEMICIRCLE WITH THREE DOTS"⟩,
  ⟨0x1F544, "NOTCHED RIGHT SEMICIRCLE WITH THREE DOTSaSYMBOL FOR MARKS CHAPTERaWHITE LATIN CROSS"⟩,
  ⟨0x1F547, "HEAVY LATIN CROSSaCELTIC CROSSaOM SYMBOLaDOVE OF PEACEaKAABAaMOSQUEaSYNAGOGUE"⟩,
  ⟨0x1F54E, "MENORAH WITH NINE BRANCHESaBOWL OF HYGIEIAaCLOCK FACE ONE OCLOCKcTWO OCLOCK"⟩,
  ⟨0x1F552, "CLOCK FACE THREE OCLOCKcFOUR OCLOCKcFIVE OCLOCKcSIX OCLOCKcSEVEN OCLOCKcEIGHT OCLOCK"⟩,
  ⟨0x1F558, "CLOCK FACE NINE OCLOCKcTEN OCLOCKcELEVEN OCLOCKcTWELVE OCLOCKcONE-THIRTYcTWO-THIRTY"⟩,
  ⟨0x1F55E, "CLOCK FACE THREE-THIRTYcFOUR-THIRTYcFIVE-THIRTYcSIX-THIRTYcSEVEN-THIRTYcEIGHT-THIRTY"⟩,
  ⟨0x1F564, "CLOCK FACE NINE-THIRTYcTEN-THIRTYcELEVEN-THIRTYcTWELVE-THIRTYaRIGHT SPEAKER"⟩,
  ⟨0x1F569, "RIGHT SPEAKER WITH ONE SOUND WAVEdTHREE SOUND WAVESaBULLHORN"⟩,
  ⟨0x1F56C, "BULLHORN WITH SOUND WAVESaRINGING BELLaBOOKaCANDLEaMANTELPIECE CLOCK"⟩,
  ⟨0x1F571, "BLACK SKULL AND CROSSBONESaNO PIRACYaHOLEaMAN IN BUSINESS SUIT LEVITATING"⟩,
  ⟨0x1F575, "SLEUTH OR SPYaDARK SUNGLASSESaSPIDERaSPIDER WEBaJOYSTICKaMAN DANCING"⟩,
  ⟨0x1F57B, "LEFT HAND TELEPHONE RECEIVERaTELEPHONE RECEIVER WITH PAGE"⟩,
  ⟨0x1F57D, "RIGHT HAND TELEPHONE RECEIVERaWHITE TOUCHTONE TELEPHONEaBLACK TOUCHTONE TELEPHONE"⟩,
  ⟨0x1F580, "TELEPHONE ON TOP OF MODEMaCLAMSHELL MOBILE PHONEaBACK OF ENVELOPEaSTAMPED ENVELOPE"⟩,
  ⟨0x1F584, "ENVELOPE WITH LIGHTNINGaFLYING ENVELOPEaPEN OVER STAMPED ENVELOPEaLINKED PAPERCLIPS"⟩,
  ⟨0x1F588, "BLACK PUSHPINaLOWER LEFT PENCILcBALLPOINT PENcFOUNTAIN PENcPAINTBRUSHcCRAYON"⟩,
  ⟨0x1F58E, "LEFT WRITING HANDaTURNED OK HAND SIGNaRAISED HAND WITH FINGERS SPLAYED"⟩,
  ⟨0x1F591, "REVERSED RAISED HAND WITH FINGERS SPLAYEDbTHUMBS UP SIGNcDOWN SIGNbVICTORY HAND"⟩,
  ⟨0x1F595, "REVERSED HAND WITH MIDDLE FINGER EXTENDED"⟩,
  ⟨0x1F596, "RAISED HAND WITH PART BETWEEN MIDDLE AND RING FINGERS"⟩,
  ⟨0x1F597, "WHITE DOWN POINTING LEFT HAND INDEXaSIDEWAYS WHITE LEFT POINTING INDEX"⟩,
  ⟨0x1F599, "SIDEWAYS WHITE RIGHT POINTING INDEXbBLACK LEFT POINTING INDEXcRIGHT POINTING INDEX"⟩,
  ⟨0x1F59C, "BLACK LEFT POINTING BACKHAND INDEXbRIGHT POINTING BACKHAND INDEX"⟩,
  ⟨0x1F59E, "SIDEWAYS WHITE UP POINTING INDEXcDOWN POINTING INDEXbBLACK UP POINTING INDEX"⟩,
  ⟨0x1F5A1, "SIDEWAYS BLACK DOWN POINTING INDEXaBLACK UP POINTING BACKHAND INDEX"⟩,
  ⟨0x1F5A3, "BLACK DOWN POINTING BACKHAND INDEXbHEARTaDESKTOP COMPUTERaKEYBOARD AND MOUSE"⟩,
  ⟨0x1F5A7, "THREE NETWORKED COMPUTERSaPRINTERaPOCKET CALCULATORaBLACK HARD SHELL FLOPPY DISK"⟩,
  ⟨0x1F5AB, "WHITE HARD SHELL FLOPPY DISKaSOFT SHELL FLOPPY DISKaTAPE CARTRIDGEaWIRED KEYBOARD"⟩,
  ⟨0x1F5AF, "ONE BUTTON MOUSEaTWO BUTTON MOUSEaTHREE BUTTON MOUSEaTRACKBALLaOLD PERSONAL COMPUTER"⟩,
  ⟨0x1F5B4, "HARD DISKaSCREENaPRINTER ICONaFAX ICONaOPTICAL DISC ICONaDOCUMENT WITH TEXT"⟩,
  ⟨0x1F5BA, "DOCUMENT WITH TEXT AND PICTUREcPICTUREaFRAME WITH PICTUREcTILEScAN XaBLACK FOLDER"⟩,
  ⟨0x1F5C0, "FOLDERaOPEN FOLDERaCARD INDEX DIVIDERSbFILE BOXaFILE CABINETaEMPTY NOTEbNOTE PAGE"⟩,
  ⟨0x1F5C7, "EMPTY NOTE PADaNOTEaNOTE PAGEbPADaEMPTY DOCUMENTbPAGEbPAGESaDOCUMENTaPAGEaPAGES"⟩,
  ⟨0x1F5D1, "WASTEBASKETaSPIRAL NOTE PADbCALENDAR PADaDESKTOP WINDOWaMINIMIZEaMAXIMIZEaOVERLAP"⟩,
  ⟨0x1F5D8, "CLOCKWISE RIGHT AND LEFT SEMICIRCLE ARROWSaCANCELLATION XaINCREASE FONT SIZE SYMBOL"⟩,
  ⟨0x1F5DB, "DECREASE FONT SIZE SYMBOLaCOMPRESSIONaOLD KEYaROLLED-UP NEWSPAPER"⟩,
  ⟨0x1F5DF, "PAGE WITH CIRCLED TEXTaSTOCK CHARTaDAGGER KNIFEaLIPSaSPEAKING HEAD IN SILHOUETTE"⟩,
  ⟨0x1F5E4, "THREE RAYS ABOVEcBELOWcLEFTcRIGHTaLEFT SPEECH BUBBLEaRIGHT SPEECH BUBBLE"⟩,
  ⟨0x1F5EA, "TWO SPEECH BUBBLESaTHREE SPEECH BUBBLESaLEFT THOUGHT BUBBLEaRIGHT THOUGHT BUBBLE"⟩,
  ⟨0x1F5EE, "LEFT ANGER BUBBLEaRIGHT ANGER BUBBLEaMOOD BUBBLEaLIGHTNING MOOD BUBBLEbMOOD"⟩,
  ⟨0x1F5F3, "BALLOT BOX WITH BALLOTbSCRIPT XbBOX WITH SCRIPT XbBOLD SCRIPT X"⟩,
  ⟨0x1F5F7, "BALLOT BOX WITH BOLD SCRIPT XaLIGHT CHECK MARKaBALLOT BOX WITH BOLD CHECKaWORLD MAP"⟩,
  ⟨0x1F5FB, "MOUNT FUJIaTOKYO TOWERaSTATUE OF LIBERTYaSILHOUETTE OF JAPANaMOYAIaGRINNING FACE"⟩,
  ⟨0x1F601, "GRINNING FACE WITH SMILING EYESaFACE WITH TEARS OF JOYaSMILING FACE WITH OPEN MOUTH"⟩,
  ⟨0x1F604, "SMILING FACE WITH OPEN MOUTH AND SMILING EYESgCOLD SWEATgTIGHTLY-CLOSED EYESdHALO"⟩,
  ⟨0x1F608, "SMILING FACE WITH HORNSaWINKING FACEaSMILING FACE WITH SMILING EYES"⟩,
  ⟨0x1F60B, "FACE SAVOURING DELICIOUS FOODaRELIEVED FACEaSMILING FACE WITH HEART-SHAPED EYES"⟩,
  ⟨0x1F60E, "SMILING FACE WITH SUNGLASSESaSMIRKING FACEaNEUTRAL FACEaEXPRESSIONLESS FACE"⟩,
  ⟨0x1F612, "UNAMUSED FACEaFACE WITH COLD SWEATaPENSIVE FACEaCONFUSED FACEaCONFOUNDED FACE"⟩,
  ⟨0x1F617, "KISSING FACEaFACE THROWING A KISSaKISSING FACE WITH SMILING EYESdCLOSED EYES"⟩,
  ⟨0x1F61B, "FACE WITH STUCK-OUT TONGUEeTONGUE AND WINKING EYEgTIGHTLY-CLOSED EYES"⟩,
  ⟨0x1F61E, "DISAPPOINTED FACEaWORRIED FACEaANGRY FACEaPOUTING FACEaCRYING FACEaPERSEVERING FACE"⟩,
  ⟨0x1F624, "FACE WITH LOOK OF TRIUMPHaDISAPPOINTED BUT RELIEVED FACE"⟩,
  ⟨0x1F626, "FROWNING FACE WITH OPEN MOUTHaANGUISHED FACEaFEARFUL FACEaWEARY FACEaSLEEPY FACE"⟩,
  ⟨0x1F62B, "TIRED FACEaGRIMACING FACEaLOUDLY CRYING FACEaFACE WITH OPEN MOUTHaHUSHED FACE"⟩,
  ⟨0x1F630, "FACE WITH OPEN MOUTH AND COLD SWEATbSCREAMING IN FEARaASTONISHED FACEaFLUSHED FACE"⟩,
  ⟨0x1F634, "SLEEPING FACEaDIZZY FACEaFACE WITHOUT MOUTHbWITH MEDICAL MASK"⟩,
  ⟨0x1F638, "GRINNING CAT FACE WITH SMILING EYESaCAT FACE WITH TEARS OF JOY"⟩,
  ⟨0x1F63A, "SMILING CAT FACE WITH OPEN MOUTHeHEART-SHAPED EYESaCAT FACE WITH WRY SMILE"⟩,
  ⟨0x1F63D, "KISSING CAT FACE WITH CLOSED EYESaPOUTING CAT FACEaCRYING CAT FACEaWEARY CAT FACE"⟩,
  ⟨0x1F641, "SLIGHTLY FROWNING FACEbSMILING FACEaUPSIDE-DOWN FACEaFACE WITH ROLLING EYES"⟩,
  ⟨0x1F645, "FACE WITH NO GOOD GESTUREcOK GESTUREaPERSON BOWING DEEPLYaSEE-NO-EVIL MONKEY"⟩,
  ⟨0x1F649, "HEAR-NO-EVIL MONKEYaSPEAK-NO-EVIL MONKEYaHAPPY PERSON RAISING ONE HAND"⟩,
  ⟨0x1F64C, "PERSON RAISING BOTH HANDS IN CELEBRATIONbFROWNINGbWITH POUTING FACEcFOLDED HANDS"⟩,
  ⟨0x1F650, "NORTH WEST POINTING LEAFaSOUTH WEST POINTING LEAFaNORTH EAST POINTING LEAF"⟩,
  ⟨0x1F653, "SOUTH EAST POINTING LEAFaTURNED NORTH WEST POINTING LEAFbSOUTH WEST POINTING LEAF"⟩,
  ⟨0x1F656, "TURNED NORTH EAST POINTING LEAFbSOUTH EAST POINTING LEAF"⟩,
  ⟨0x1F658, "NORTH WEST POINTING VINE LEAFaSOUTH WEST POINTING VINE LEAF"⟩,
  ⟨0x1F65A, "NORTH EAST POINTING VINE LEAFaSOUTH EAST POINTING VINE LEAF"⟩,
  ⟨0x1F65C, "HEAVY NORTH WEST POINTING VINE LEAFbSOUTH WEST POINTING VINE LEAF"⟩,
  ⟨0x1F65E, "HEAVY NORTH EAST POINTING VINE LEAFbSOUTH EAST POINTING VINE LEAF"⟩,
  ⟨0x1F660, "NORTH WEST POINTING BUDaSOUTH WEST POINTING BUDaNORTH EAST POINTING BUD"⟩,
  ⟨0x1F663, "SOUTH EAST POINTING BUDaHEAVY NORTH WEST POINTING BUDbSOUTH WEST POINTING BUD"⟩,
  ⟨0x1F666, "HEAVY NORTH EAST POINTING BUDbSOUTH EAST POINTING BUDaHOLLOW QUILT SQUARE ORNAMENT"⟩,
  ⟨0x1F669, "HOLLOW QUILT SQUARE ORNAMENT IN BLACK SQUAREaSOLID QUILT SQUARE ORNAMENT"⟩,
  ⟨0x1F66B, "SOLID QUILT SQUARE ORNAMENT IN BLACK SQUAREaLEFTWARDS ROCKETaUPWARDS ROCKET"⟩,
  ⟨0x1F66E, "RIGHTWARDS ROCKETaDOWNWARDS ROCKETaSCRIPT LIGATURE ET ORNAMENT"⟩,
  ⟨0x1F671, "HEAVY SCRIPT LIGATURE ET ORNAMENTaLIGATURE OPEN ET ORNAMENT"⟩,
  ⟨0x1F673, "HEAVY LIGATURE OPEN ET ORNAMENTbAMPERSAND ORNAMENTaSWASH AMPERSAND ORNAMENT"⟩,
  ⟨0x1F676, "SANS-SERIF HEAVY DOUBLE TURNED COMMA QUOTATION MARK ORNAMENT"⟩,
  ⟨0x1F677, "SANS-SERIF HEAVY DOUBLE COMMA QUOTATION MARK ORNAMENT"⟩,
  ⟨0x1F678, "SANS-SERIF HEAVY LOW DOUBLE COMMA QUOTATION MARK ORNAMENTaHEAVY INTERROBANG ORNAMENT"⟩,
  ⟨0x1F67A, "SANS-SERIF INTERROBANG ORNAMENTaHEAVY SANS-SERIF INTERROBANG ORNAMENT"⟩,
  ⟨0x1F67C, "VERY HEAVY SOLIDUScREVERSE SOLIDUSaCHECKER BOARDaREVERSE CHECKER BOARDaROCKET"⟩,
  ⟨0x1F681, "HELICOPTERaSTEAM LOCOMOTIVEaRAILWAY CARaHIGH-SPEED TRAINcTRAIN WITH BULLET NOSE"⟩,
  ⟨0x1F686, "TRAINaMETROaLIGHT RAILaSTATIONaTRAMaTRAM CARaBUSaONCOMING BUSaTROLLEYBUSaBUS STOP"⟩,
  ⟨0x1F690, "MINIBUSaAMBULANCEaFIRE ENGINEaPOLICE CARaONCOMING POLICE CARaTAXIaONCOMING TAXI"⟩,
  ⟨0x1F697, "AUTOMOBILEaONCOMING AUTOMOBILEaRECREATIONAL VEHICLEaDELIVERY TRUCKaARTICULATED LORRY"⟩,
  ⟨0x1F69C, "TRACTORaMONORAILaMOUNTAIN RAILWAYaSUSPENSION RAILWAYaMOUNTAIN CABLEWAY"⟩,
  ⟨0x1F6A1, "AERIAL TRAMWAYaSHIPaROWBOATaSPEEDBOATaHORIZONTAL TRAFFIC LIGHT"⟩,
  ⟨0x1F6A6, "VERTICAL TRAFFIC LIGHTaCONSTRUCTION SIGNaPOLICE CARS REVOLVING LIGHT"⟩,
  ⟨0x1F6A9, "TRIANGULAR FLAG ON POSTaDOORaNO ENTRY SIGNaSMOKING SYMBOLaNO SMOKING SYMBOL"⟩,
  ⟨0x1F6AE, "PUT LITTER IN ITS PLACE SYMBOLaDO NOT LITTER SYMBOLaPOTABLE WATER SYMBOL"⟩,
  ⟨0x1F6B1, "NON-POTABLE WATER SYMBOLaBICYCLEaNO BICYCLESaBICYCLISTaMOUNTAIN BICYCLISTaPEDESTRIAN"⟩,
  ⟨0x1F6B7, "NO PEDESTRIANSaCHILDREN CROSSINGaMENS SYMBOLaWOMENS SYMBOLaRESTROOMaBABY SYMBOL"⟩,
  ⟨0x1F6BD, "TOILETaWATER CLOSETaSHOWERaBATHaBATHTUBaPASSPORT CONTROLaCUSTOMSaBAGGAGE CLAIM"⟩,
  ⟨0x1F6C5, "LEFT LUGGAGEaTRIANGLE WITH ROUNDED CORNERSaPROHIBITED SIGN"⟩,
  ⟨0x1F6C8, "CIRCLED INFORMATION SOURCEaBOYS SYMBOLaGIRLS SYMBOLaCOUCH AND LAMP"⟩,
  ⟨0x1F6CC, "SLEEPING ACCOMMODATIONaSHOPPING BAGSaBELLHOP BELLaBEDaPLACE OF WORSHIP"⟩,
  ⟨0x1F6D1, "OCTAGONAL SIGNaSHOPPING TROLLEYaSTUPAaPAGODAaHINDU TEMPLEaHUTaELEVATOR"⟩,
  ⟨0x1F6DD, "PLAYGROUND SLIDEaWHEELaRING BUOYaHAMMER AND WRENCHaSHIELDaOIL DRUMaMOTORWAY"⟩,
  ⟨0x1F6E4, "RAILWAY TRACKaMOTOR BOATaUP-POINTING MILITARY AIRPLANEcAIRPLANEcSMALL AIRPLANE"⟩,
  ⟨0x1F6E9, "SMALL AIRPLANEaNORTHEAST-POINTING AIRPLANEaAIRPLANE DEPARTUREbARRIVING"⟩,
  ⟨0x1F6F0, "SATELLITEaONCOMING FIRE ENGINEaDIESEL LOCOMOTIVEaPASSENGER SHIPaSCOOTER"⟩,
  ⟨0x1F6F5, "MOTOR SCOOTERaCANOEaSLEDaFLYING SAUCERaSKATEBOARDaAUTO RICKSHAWaPICKUP TRUCK"⟩,
  ⟨0x1F6FC, "ROLLER SKATE"⟩,
  ⟨0x1F700, "ALCHEMICAL SYMBOL FOR QUINTESSENCEdAIRdFIREdEARTHdWATERdAQUAFORTISdAQUA REGIA"⟩,
  ⟨0x1F707, "ALCHEMICAL SYMBOL FOR AQUA REGIA-2eVITAEeVITAE-2dVINEGARdVINEGAR-2e3dSULFUR"⟩,
  ⟨0x1F70E, "ALCHEMICAL SYMBOL FOR PHILOSOPHERS SULFURdBLACK SULFURdMERCURY SUBLIMATEeSUBLIMATE-2"⟩,
  ⟨0x1F712, "ALCHEMICAL SYMBOL FOR MERCURY SUBLIMATE-3dCINNABARdSALTdNITREdVITRIOLdVITRIOL-2"⟩,
  ⟨0x1F718, "ALCHEMICAL SYMBOL FOR ROCK SALTeSALT-2dGOLDdSILVERdIRON OREeORE-2dCROCUS OF IRON"⟩,
  ⟨0x1F71F, "ALCHEMICAL SYMBOL FOR REGULUS OF IRONdCOPPER OREdIRON-COPPER OREdSUBLIMATE OF COPPER"⟩,
  ⟨0x1F723, "ALCHEMICAL SYMBOL FOR CROCUS OF COPPERfCOPPER-2dCOPPER ANTIMONIATE"⟩,
  ⟨0x1F726, "ALCHEMICAL SYMBOL FOR SALT OF COPPER ANTIMONIATEdSUBLIMATE OF SALT OF COPPER"⟩,
  ⟨0x1F728, "ALCHEMICAL SYMBOL FOR VERDIGRISdTIN OREdLEAD OREdANTIMONY OREdSUBLIMATE OF ANTIMONY"⟩,
  ⟨0x1F72D, "ALCHEMICAL SYMBOL FOR SALT OF ANTIMONYdSUBLIMATE OF SALT OF ANTIMONY"⟩,
  ⟨0x1F72F, "ALCHEMICAL SYMBOL FOR VINEGAR OF ANTIMONYdREGULUS OF ANTIMONYfANTIMONY-2dREGULUS"⟩,
  ⟨0x1F733, "ALCHEMICAL SYMBOL FOR REGULUS-2e3e4dALKALIdALKALI-2dMARCASITEdSAL-AMMONIACdARSENIC"⟩,
  ⟨0x1F73B, "ALCHEMICAL SYMBOL FOR REALGARdREALGAR-2dAURIPIGMENTdBISMUTH OREdTARTARdTARTAR-2"⟩,
  ⟨0x1F741, "ALCHEMICAL SYMBOL FOR QUICK LIMEdBORAXdBORAX-2e3dALUMdOILdSPIRITdTINCTUREdGUMdWAX"⟩,
  ⟨0x1F74B, "ALCHEMICAL SYMBOL FOR POWDERdCALXdTUTTYdCAPUT MORTUUMdSCEPTER OF JOVEdCADUCEUS"⟩,
  ⟨0x1F751, "ALCHEMICAL SYMBOL FOR TRIDENTdSTARRED TRIDENTdLODESTONEdSOAPdURINEdHORSE DUNGdASHES"⟩,
  ⟨0x1F758, "ALCHEMICAL SYMBOL FOR POT ASHESdBRICKdPOWDERED BRICKdAMALGAMdSTRATUM SUPER STRATUM"⟩,
  ⟨0x1F75D, "ALCHEMICAL SYMBOL FOR STRATUM SUPER STRATUM-2dSUBLIMATIONdPRECIPITATEdDISTILL"⟩,
  ⟨0x1F761, "ALCHEMICAL SYMBOL FOR DISSOLVEdDISSOLVE-2dPURIFYdPUTREFACTIONdCRUCIBLEdCRUCIBLE-2e3"⟩,
  ⟨0x1F768, "ALCHEMICAL SYMBOL FOR CRUCIBLE-4e5dALEMBICdBATH OF MARYfVAPOURSdRETORTdHOURdNIGHT"⟩,
  ⟨0x1F770, "ALCHEMICAL SYMBOL FOR DAY-NIGHTdMONTHdHALF DRAMeOUNCE"⟩,
  ⟨0x1F780, "BLACK LEFT-POINTING ISOSCELES RIGHT TRIANGLEbUP-POINTING ISOSCELES RIGHT TRIANGLE"⟩,
  ⟨0x1F782, "BLACK RIGHT-POINTING ISOSCELES RIGHT TRIANGLEbDOWN-POINTING ISOSCELES RIGHT TRIANGLE"⟩,
  ⟨0x1F784, "BLACK SLIGHTLY SMALL CIRCLEaMEDIUM BOLD WHITE CIRCLEaBOLD WHITE CIRCLE"⟩,
  ⟨0x1F787, "HEAVY WHITE CIRCLEaVERY HEAVY WHITE CIRCLEaEXTREMELY HEAVY WHITE CIRCLE"⟩,
  ⟨0x1F78A, "WHITE CIRCLE CONTAINING BLACK SMALL CIRCLEaROUND TARGETaBLACK TINY SQUARE"⟩,
  ⟨0x1F78D, "BLACK SLIGHTLY SMALL SQUAREaLIGHT WHITE SQUAREaMEDIUM WHITE SQUAREaBOLD WHITE SQUARE"⟩,
  ⟨0x1F791, "HEAVY WHITE SQUAREaVERY HEAVY WHITE SQUAREaEXTREMELY HEAVY WHITE SQUARE"⟩,
  ⟨0x1F794, "WHITE SQUARE CONTAINING BLACK VERY SMALL SQUAREeMEDIUM SQUAREaSQUARE TARGET"⟩,
  ⟨0x1F797, "BLACK TINY DIAMONDbVERY SMALL DIAMONDbMEDIUM SMALL DIAMOND"⟩,
  ⟨0x1F79A, "WHITE DIAMOND CONTAINING BLACK VERY SMALL DIAMONDeMEDIUM DIAMONDaDIAMOND TARGET"⟩,
  ⟨0x1F79D, "BLACK TINY LOZENGEbVERY SMALL LOZENGEbMEDIUM SMALL LOZENGE"⟩,
  ⟨0x1F7A0, "WHITE LOZENGE CONTAINING BLACK SMALL LOZENGEaTHIN GREEK CROSSaLIGHT GREEK CROSS"⟩,
  ⟨0x1F7A3, "MEDIUM GREEK CROSSaBOLD GREEK CROSSaVERY BOLD GREEK CROSSbHEAVY GREEK CROSS"⟩,
  ⟨0x1F7A7, "EXTREMELY HEAVY GREEK CROSSaTHIN SALTIREaLIGHT SALTIREaMEDIUM SALTIREaBOLD SALTIRE"⟩,
  ⟨0x1F7AC, "HEAVY SALTIREaVERY HEAVY SALTIREaEXTREMELY HEAVY SALTIREaLIGHT FIVE SPOKED ASTERISK"⟩,
  ⟨0x1F7B0, "MEDIUM FIVE SPOKED ASTERISKaBOLD FIVE SPOKED ASTERISKaHEAVY FIVE SPOKED ASTERISK"⟩,
  ⟨0x1F7B3, "VERY HEAVY FIVE SPOKED ASTERISKaEXTREMELY HEAVY FIVE SPOKED ASTERISK"⟩,
  ⟨0x1F7B5, "LIGHT SIX SPOKED ASTERISKaMEDIUM SIX SPOKED ASTERISKaBOLD SIX SPOKED ASTERISK"⟩,
  ⟨0x1F7B8, "HEAVY SIX SPOKED ASTERISKaVERY HEAVY SIX SPOKED ASTERISK"⟩,
  ⟨0x1F7BA, "EXTREMELY HEAVY SIX SPOKED ASTERISKaLIGHT EIGHT SPOKED ASTERISK"⟩,
  ⟨0x1F7BC, "MEDIUM EIGHT SPOKED ASTERISKaBOLD EIGHT SPOKED ASTERISKaHEAVY EIGHT SPOKED ASTERISK"⟩,
  ⟨0x1F7BF, "VERY HEAVY EIGHT SPOKED ASTERISKaLIGHT THREE POINTED BLACK STAR"⟩,
  ⟨0x1F7C1, "MEDIUM THREE POINTED BLACK STARaTHREE POINTED BLACK STAR"⟩,
  ⟨0x1F7C3, "MEDIUM THREE POINTED PINWHEEL STARaLIGHT FOUR POINTED BLACK STAR"⟩,
  ⟨0x1F7C5, "MEDIUM FOUR POINTED BLACK STARaFOUR POINTED BLACK STAR"⟩,
  ⟨0x1F7C7, "MEDIUM FOUR POINTED PINWHEEL STARaREVERSE LIGHT FOUR POINTED PINWHEEL STAR"⟩,
  ⟨0x1F7C9, "LIGHT FIVE POINTED BLACK STARaHEAVY FIVE POINTED BLACK STAR"⟩,
  ⟨0x1F7CB, "MEDIUM SIX POINTED BLACK STARaHEAVY SIX POINTED BLACK STARaSIX POINTED PINWHEEL STAR"⟩,
  ⟨0x1F7CE, "MEDIUM EIGHT POINTED BLACK STARaHEAVY EIGHT POINTED BLACK STAR"⟩,
  ⟨0x1F7D0, "VERY HEAVY EIGHT POINTED BLACK STARaHEAVY EIGHT POINTED PINWHEEL STAR"⟩,
  ⟨0x1F7D2, "LIGHT TWELVE POINTED BLACK STARaHEAVY TWELVE POINTED BLACK STARdPINWHEEL STAR"⟩,
  ⟨0x1F7D5, "CIRCLED TRIANGLEaNEGATIVE CIRCLED TRIANGLEaCIRCLED SQUAREaNEGATIVE CIRCLED SQUARE"⟩,
  ⟨0x1F7E0, "LARGE ORANGE CIRCLEbYELLOW CIRCLEbGREEN CIRCLEbPURPLE CIRCLEbBROWN CIRCLEbRED SQUARE"⟩,
  ⟨0x1F7E6, "LARGE BLUE SQUAREbORANGE SQUAREbYELLOW SQUAREbGREEN SQUAREbPURPLE SQUARE"⟩,
  ⟨0x1F7EB, "LARGE BROWN SQUARE"⟩,
  ⟨0x1F7F0, "HEAVY EQUALS SIGN"⟩,
  ⟨0x1F800, "LEFTWARDS ARROW WITH SMALL TRIANGLE ARROWHEAD"⟩,
  ⟨0x1F801, "UPWARDS ARROW WITH SMALL TRIANGLE ARROWHEAD"⟩,
  ⟨0x1F802, "RIGHTWARDS ARROW WITH SMALL TRIANGLE ARROWHEAD"⟩,
  ⟨0x1F803, "DOWNWARDS ARROW WITH SMALL TRIANGLE ARROWHEAD"⟩,
  ⟨0x1F804, "LEFTWARDS ARROW WITH MEDIUM TRIANGLE ARROWHEAD"⟩,
  ⟨0x1F805, "UPWARDS ARROW WITH MEDIUM TRIANGLE ARROWHEAD"⟩,
  ⟨0x1F806, "RIGHTWARDS ARROW WITH MEDIUM TRIANGLE ARROWHEAD"⟩,
  ⟨0x1F807, "DOWNWARDS ARROW WITH MEDIUM TRIANGLE ARROWHEAD"⟩,
  ⟨0x1F808, "LEFTWARDS ARROW WITH LARGE TRIANGLE ARROWHEAD"⟩,
  ⟨0x1F809, "UPWARDS ARROW WITH LARGE TRIANGLE ARROWHEAD"⟩,
  ⟨0x1F80A, "RIGHTWARDS ARROW WITH LARGE TRIANGLE ARROWHEAD"⟩,
  ⟨0x1F80B, "DOWNWARDS ARROW WITH LARGE TRIANGLE ARROWHEAD"⟩,
  ⟨0x1F810, "LEFTWARDS ARROW WITH SMALL EQUILATERAL ARROWHEAD"⟩,
  ⟨0x1F811, "UPWARDS ARROW WITH SMALL EQUILATERAL ARROWHEAD"⟩,
  ⟨0x1F812, "RIGHTWARDS ARROW WITH SMALL EQUILATERAL ARROWHEAD"⟩,
  ⟨0x1F813, "DOWNWARDS ARROW WITH SMALL EQUILATERAL ARROWHEAD"⟩,
  ⟨0x1F814, "LEFTWARDS ARROW WITH EQUILATERAL ARROWHEADaUPWARDS ARROW WITH EQUILATERAL ARROWHEAD"⟩,
  ⟨0x1F816, "RIGHTWARDS ARROW WITH EQUILATERAL ARROWHEAD"⟩,
  ⟨0x1F817, "DOWNWARDS ARROW WITH EQUILATERAL ARROWHEAD"⟩,
  ⟨0x1F818, "HEAVY LEFTWARDS ARROW WITH EQUILATERAL ARROWHEAD"⟩,
  ⟨0x1F819, "HEAVY UPWARDS ARROW WITH EQUILATERAL ARROWHEAD"⟩,
  ⟨0x1F81A, "HEAVY RIGHTWARDS ARROW WITH EQUILATERAL ARROWHEAD"⟩,
  ⟨0x1F81B, "HEAVY DOWNWARDS ARROW WITH EQUILATERAL ARROWHEAD"⟩,
  ⟨0x1F81C, "HEAVY LEFTWARDS ARROW WITH LARGE EQUILATERAL ARROWHEAD"⟩,
  ⟨0x1F81D, "HEAVY UPWARDS ARROW WITH LARGE EQUILATERAL ARROWHEAD"⟩,
  ⟨0x1F81E, "HEAVY RIGHTWARDS ARROW WITH LARGE EQUILATERAL ARROWHEAD"⟩,
  ⟨0x1F81F, "HEAVY DOWNWARDS ARROW WITH LARGE EQUILATERAL ARROWHEAD"⟩,
  ⟨0x1F820, "LEFTWARDS TRIANGLE-HEADED ARROW WITH NARROW SHAFT"⟩,
  ⟨0x1F821, "UPWARDS TRIANGLE-HEADED ARROW WITH NARROW SHAFT"⟩,
  ⟨0x1F822, "RIGHTWARDS TRIANGLE-HEADED ARROW WITH NARROW SHAFT"⟩,
  ⟨0x1F823, "DOWNWARDS TRIANGLE-HEADED ARROW WITH NARROW SHAFT"⟩,
  ⟨0x1F824, "LEFTWARDS TRIANGLE-HEADED ARROW WITH MEDIUM SHAFT"⟩,
  ⟨0x1F825, "UPWARDS TRIANGLE-HEADED ARROW WITH MEDIUM SHAFT"⟩,
  ⟨0x1F826, "RIGHTWARDS TRIANGLE-HEADED ARROW WITH MEDIUM SHAFT"⟩,
  ⟨0x1F827, "DOWNWARDS TRIANGLE-HEADED ARROW WITH MEDIUM SHAFT"⟩,
  ⟨0x1F828, "LEFTWARDS TRIANGLE-HEADED ARROW WITH BOLD SHAFT"⟩,
  ⟨0x1F829, "UPWARDS TRIANGLE-HEADED ARROW WITH BOLD SHAFT"⟩,
  ⟨0x1F82A, "RIGHTWARDS TRIANGLE-HEADED ARROW WITH BOLD SHAFT"⟩,
  ⟨0x1F82B, "DOWNWARDS TRIANGLE-HEADED ARROW WITH BOLD SHAFT"⟩,
  ⟨0x1F82C, "LEFTWARDS TRIANGLE-HEADED ARROW WITH HEAVY SHAFT"⟩,
  ⟨0x1F82D, "UPWARDS TRIANGLE-HEADED ARROW WITH HEAVY SHAFT"⟩,
  ⟨0x1F82E, "RIGHTWARDS TRIANGLE-HEADED ARROW WITH HEAVY SHAFT"⟩,
  ⟨0x1F82F, "DOWNWARDS TRIANGLE-HEADED ARROW WITH HEAVY SHAFT"⟩,
  ⟨0x1F830, "LEFTWARDS TRIANGLE-HEADED ARROW WITH VERY HEAVY SHAFT"⟩,
  ⟨0x1F831, "UPWARDS TRIANGLE-HEADED ARROW WITH VERY HEAVY SHAFT"⟩,
  ⟨0x1F832, "RIGHTWARDS TRIANGLE-HEADED ARROW WITH VERY HEAVY SHAFT"⟩,
  ⟨0x1F833, "DOWNWARDS TRIANGLE-HEADED ARROW WITH VERY HEAVY SHAFTaLEFTWARDS FINGER-POST ARROW"⟩,
  ⟨0x1F835, "UPWARDS FINGER-POST ARROWaRIGHTWARDS FINGER-POST ARROWaDOWNWARDS FINGER-POST ARROW"⟩,
  ⟨0x1F838, "LEFTWARDS SQUARED ARROWaUPWARDS SQUARED ARROWaRIGHTWARDS SQUARED ARROW"⟩,
  ⟨0x1F83B, "DOWNWARDS SQUARED ARROWaLEFTWARDS COMPRESSED ARROWaUPWARDS COMPRESSED ARROW"⟩,
  ⟨0x1F83E, "RIGHTWARDS COMPRESSED ARROWaDOWNWARDS COMPRESSED ARROW"⟩,
  ⟨0x1F840, "LEFTWARDS HEAVY COMPRESSED ARROWaUPWARDS HEAVY COMPRESSED ARROW"⟩,
  ⟨0x1F842, "RIGHTWARDS HEAVY COMPRESSED ARROWaDOWNWARDS HEAVY COMPRESSED ARROW"⟩,
  ⟨0x1F844, "LEFTWARDS HEAVY ARROWaUPWARDS HEAVY ARROWaRIGHTWARDS HEAVY ARROW"⟩,
  ⟨0x1F847, "DOWNWARDS HEAVY ARROW"⟩,
  ⟨0x1F850, "LEFTWARDS SANS-SERIF ARROWaUPWARDS SANS-SERIF ARROWaRIGHTWARDS SANS-SERIF ARROW"⟩,
  ⟨0x1F853, "DOWNWARDS SANS-SERIF ARROWaNORTH WEST SANS-SERIF ARROWbEAST SANS-SERIF ARROW"⟩,
  ⟨0x1F856, "SOUTH EAST SANS-SERIF ARROWbWEST SANS-SERIF ARROWaLEFT RIGHT SANS-SERIF ARROW"⟩,
  ⟨0x1F859, "UP DOWN SANS-SERIF ARROW"⟩,
  ⟨0x1F860, "WIDE-HEADED LEFTWARDS LIGHT BARB ARROWcUPWARDS LIGHT BARB ARROW"⟩,
  ⟨0x1F862, "WIDE-HEADED RIGHTWARDS LIGHT BARB ARROWcDOWNWARDS LIGHT BARB ARROW"⟩,
  ⟨0x1F864, "WIDE-HEADED NORTH WEST LIGHT BARB ARROWdEAST LIGHT BARB ARROW"⟩,
  ⟨0x1F866, "WIDE-HEADED SOUTH EAST LIGHT BARB ARROWdWEST LIGHT BARB ARROWcLEFTWARDS BARB ARROW"⟩,
  ⟨0x1F869, "WIDE-HEADED UPWARDS BARB ARROWcRIGHTWARDS BARB ARROWcDOWNWARDS BARB ARROW"⟩,
  ⟨0x1F86C, "WIDE-HEADED NORTH WEST BARB ARROWdEAST BARB ARROWcSOUTH EAST BARB ARROW"⟩,
  ⟨0x1F86F, "WIDE-HEADED SOUTH WEST BARB ARROWcLEFTWARDS MEDIUM BARB ARROW"⟩,
  ⟨0x1F871, "WIDE-HEADED UPWARDS MEDIUM BARB ARROWcRIGHTWARDS MEDIUM BARB ARROW"⟩,
  ⟨0x1F873, "WIDE-HEADED DOWNWARDS MEDIUM BARB ARROWcNORTH WEST MEDIUM BARB ARROW"⟩,
  ⟨0x1F875, "WIDE-HEADED NORTH EAST MEDIUM BARB ARROWcSOUTH EAST MEDIUM BARB ARROW"⟩,
  ⟨0x1F877, "WIDE-HEADED SOUTH WEST MEDIUM BARB ARROWcLEFTWARDS HEAVY BARB ARROW"⟩,
  ⟨0x1F879, "WIDE-HEADED UPWARDS HEAVY BARB ARROWcRIGHTWARDS HEAVY BARB ARROW"⟩,
  ⟨0x1F87B, "WIDE-HEADED DOWNWARDS HEAVY BARB ARROWcNORTH WEST HEAVY BARB ARROW"⟩,
  ⟨0x1F87D, "WIDE-HEADED NORTH EAST HEAVY BARB ARROWcSOUTH EAST HEAVY BARB ARROW"⟩,
  ⟨0x1F87F, "WIDE-HEADED SOUTH WEST HEAVY BARB ARROWcLEFTWARDS VERY HEAVY BARB ARROW"⟩,
  ⟨0x1F881, "WIDE-HEADED UPWARDS VERY HEAVY BARB ARROWcRIGHTWARDS VERY HEAVY BARB ARROW"⟩,
  ⟨0x1F883, "WIDE-HEADED DOWNWARDS VERY HEAVY BARB ARROWcNORTH WEST VERY HEAVY BARB ARROW"⟩,
  ⟨0x1F885, "WIDE-HEADED NORTH EAST VERY HEAVY BARB ARROWcSOUTH EAST VERY HEAVY BARB ARROW"⟩,
  ⟨0x1F887, "WIDE-HEADED SOUTH WEST VERY HEAVY BARB ARROW"⟩,
  ⟨0x1F890, "LEFTWARDS TRIANGLE ARROWHEADaUPWARDS TRIANGLE ARROWHEAD"⟩,
  ⟨0x1F892, "RIGHTWARDS TRIANGLE ARROWHEADaDOWNWARDS TRIANGLE ARROWHEAD"⟩,
  ⟨0x1F894, "LEFTWARDS WHITE ARROW WITHIN TRIANGLE ARROWHEAD"⟩,
  ⟨0x1F895, "UPWARDS WHITE ARROW WITHIN TRIANGLE ARROWHEAD"⟩,
  ⟨0x1F896, "RIGHTWARDS WHITE ARROW WITHIN TRIANGLE ARROWHEAD"⟩,
  ⟨0x1F897, "DOWNWARDS WHITE ARROW WITHIN TRIANGLE ARROWHEADaLEFTWARDS ARROW WITH NOTCHED TAIL"⟩,
  ⟨0x1F899, "UPWARDS ARROW WITH NOTCHED TAILaRIGHTWARDS ARROW WITH NOTCHED TAIL"⟩,
  ⟨0x1F89B, "DOWNWARDS ARROW WITH NOTCHED TAILaHEAVY ARROW SHAFT WIDTH ONEeTWO THIRDSeONE HALF"⟩,
  ⟨0x1F89F, "HEAVY ARROW SHAFT WIDTH ONE THIRDaLEFTWARDS BOTTOM-SHADED WHITE ARROW"⟩,
  ⟨0x1F8A1, "RIGHTWARDS BOTTOM SHADED WHITE ARROWaLEFTWARDS TOP SHADED WHITE ARROW"⟩,
  ⟨0x1F8A3, "RIGHTWARDS TOP SHADED WHITE ARROWaLEFTWARDS LEFT-SHADED WHITE ARROW"⟩,
  ⟨0x1F8A5, "RIGHTWARDS RIGHT-SHADED WHITE ARROWaLEFTWARDS RIGHT-SHADED WHITE ARROW"⟩,
  ⟨0x1F8A7, "RIGHTWARDS LEFT-SHADED WHITE ARROWaLEFTWARDS BACK-TILTED SHADOWED WHITE ARROW"⟩,
  ⟨0x1F8A9, "RIGHTWARDS BACK-TILTED SHADOWED WHITE ARROW"⟩,
  ⟨0x1F8AA, "LEFTWARDS FRONT-TILTED SHADOWED WHITE ARROW"⟩,
  ⟨0x1F8AB, "RIGHTWARDS FRONT-TILTED SHADOWED WHITE ARROWaWHITE ARROW SHAFT WIDTH ONEeTWO THIRDS"⟩,
  ⟨0x1F8B0, "ARROW POINTING UPWARDS THEN NORTH WESTcRIGHTWARDS THEN CURVING SOUTH WEST"⟩,
  ⟨0x1F900, "CIRCLED CROSS FORMEE WITH FOUR DOTSeTWO DOTScFORMEEaLEFT HALF CIRCLE WITH FOUR DOTS"⟩,
  ⟨0x1F904, "LEFT HALF CIRCLE WITH THREE DOTSeTWO DOTSeDOTcCIRCLEaDOWNWARD FACING HOOK"⟩,
  ⟨0x1F909, "DOWNWARD FACING NOTCHED HOOKcHOOK WITH DOTcNOTCHED HOOK WITH DOTaPINCHED FINGERS"⟩,
  ⟨0x1F90D, "WHITE HEARTaBROWN HEARTaPINCHING HANDaZIPPER-MOUTH FACEaMONEY-MOUTH FACE"⟩,
  ⟨0x1F912, "FACE WITH THERMOMETERaNERD FACEaTHINKING FACEaFACE WITH HEAD-BANDAGEaROBOT FACE"⟩,
  ⟨0x1F917, "HUGGING FACEaSIGN OF THE HORNSaCALL ME HANDaRAISED BACK OF HANDaLEFT-FACING FIST"⟩,
  ⟨0x1F91C, "RIGHT-FACING FISTaHANDSHAKEaHAND WITH INDEX AND MIDDLE FINGERS CROSSED"⟩,
  ⟨0x1F91F, "I LOVE YOU HAND SIGNaFACE WITH COWBOY HATaCLOWN FACEaNAUSEATED FACE"⟩,
  ⟨0x1F923, "ROLLING ON THE FLOOR LAUGHINGaDROOLING FACEaLYING FACEaFACE PALMaSNEEZING FACE"⟩,
  ⟨0x1F928, "FACE WITH ONE EYEBROW RAISEDaGRINNING FACE WITH STAR EYES"⟩,
  ⟨0x1F92A, "GRINNING FACE WITH ONE LARGE AND ONE SMALL EYEaFACE WITH FINGER COVERING CLOSED LIPS"⟩,
  ⟨0x1F92C, "SERIOUS FACE WITH SYMBOLS COVERING MOUTH"⟩,
  ⟨0x1F92D, "SMILING FACE WITH SMILING EYES AND HAND COVERING MOUTHaFACE WITH OPEN MOUTH VOMITING"⟩,
  ⟨0x1F92F, "SHOCKED FACE WITH EXPLODING HEADaPREGNANT WOMANaBREAST-FEEDINGaPALMS UP TOGETHER"⟩,
  ⟨0x1F933, "SELFIEaPRINCEaMAN IN TUXEDOaMOTHER CHRISTMASaSHRUGaPERSON DOING CARTWHEELaJUGGLING"⟩,
  ⟨0x1F93A, "FENCERaMODERN PENTATHLONaWRESTLERSaWATER POLOaHANDBALLaDIVING MASKaWILTED FLOWER"⟩,
  ⟨0x1F941, "DRUM WITH DRUMSTICKSaCLINKING GLASSESaTUMBLER GLASSaSPOONaGOAL NETaRIFLE"⟩,
  ⟨0x1F947, "FIRST PLACE MEDALaSECOND PLACE MEDALaTHIRD PLACE MEDALaBOXING GLOVE"⟩,
  ⟨0x1F94B, "MARTIAL ARTS UNIFORMaCURLING STONEaLACROSSE STICK AND BALLaSOFTBALLaFLYING DISC"⟩,
  ⟨0x1F950, "CROISSANTaAVOCADOaCUCUMBERaBACONaPOTATOaCARROTaBAGUETTE BREADaGREEN SALAD"⟩,
  ⟨0x1F958, "SHALLOW PAN OF FOODaSTUFFED FLATBREADaEGGaGLASS OF MILKaPEANUTSaKIWIFRUITaPANCAKES"⟩,
  ⟨0x1F95F, "DUMPLINGaFORTUNE COOKIEaTAKEOUT BOXaCHOPSTICKSaBOWL WITH SPOONaCUP WITH STRAW"⟩,
  ⟨0x1F965, "COCONUTaBROCCOLIaPIEaPRETZELaCUT OF MEATaSANDWICHaCANNED FOODaLEAFY GREENaMANGO"⟩,
  ⟨0x1F96E, "MOON CAKEaBAGELaSMILING FACE WITH SMILING EYES AND THREE HEARTSaYAWNING FACE"⟩,
  ⟨0x1F972, "SMILING FACE WITH TEARaFACE WITH PARTY HORN AND PARTY HATcUNEVEN EYES AND WAVY MOUTH"⟩,
  ⟨0x1F975, "OVERHEATED FACEaFREEZING FACEaNINJAaDISGUISED FACEaFACE HOLDING BACK TEARS"⟩,
  ⟨0x1F97A, "FACE WITH PLEADING EYESaSARIaLAB COATaGOGGLESaHIKING BOOTaFLAT SHOEaCRABaLION FACE"⟩,
  ⟨0x1F982, "SCORPIONaTURKEYaUNICORN FACEaEAGLEaDUCKaBATaSHARKaOWLaFOX FACEaBUTTERFLYaDEER"⟩,
  ⟨0x1F98D, "GORILLAaLIZARDaRHINOCEROSaSHRIMPaSQUIDaGIRAFFE FACEaZEBRA FACEaHEDGEHOGaSAUROPOD"⟩,
  ⟨0x1F996, "T-REXaCRICKETaKANGAROOaLLAMAaPEACOCKaHIPPOPOTAMUSaPARROTaRACCOONaLOBSTERaMOSQUITO"⟩,
  ⟨0x1F9A0, "MICROBEaBADGERaSWANaMAMMOTHaDODOaSLOTHaOTTERaORANGUTANaSKUNKaFLAMINGOaOYSTERaBEAVER"⟩,
  ⟨0x1F9AC, "BISONaSEALaGUIDE DOGaPROBING CANEaEMOJI COMPONENT RED HAIRcCURLY HAIRcBALD"⟩,
  ⟨0x1F9B3, "EMOJI COMPONENT WHITE HAIRaBONEaLEGaFOOTaTOOTHaSUPERHEROaSUPERVILLAINaSAFETY VEST"⟩,
  ⟨0x1F9BB, "EAR WITH HEARING AIDaMOTORIZED WHEELCHAIRaMANUAL WHEELCHAIRaMECHANICAL ARMbLEG"⟩,
  ⟨0x1F9C0, "CHEESE WEDGEaCUPCAKEaSALT SHAKERaBEVERAGE BOXaGARLICaONIONaFALAFELaWAFFLEaBUTTER"⟩,
  ⟨0x1F9C9, "MATE DRINKaICE CUBEaBUBBLE TEAaTROLLaSTANDING PERSONaKNEELING PERSONaDEAF PERSON"⟩,
  ⟨0x1F9D0, "FACE WITH MONOCLEaADULTaCHILDaOLDER ADULTaBEARDED PERSONaPERSON WITH HEADSCARF"⟩,
  ⟨0x1F9D6, "PERSON IN STEAMY ROOMbCLIMBINGbIN LOTUS POSITIONaMAGEaFAIRYaVAMPIREaMERPERSONaELF"⟩,
  ⟨0x1F9DE, "GENIEaZOMBIEaBRAINaORANGE HEARTaBILLED CAPaSCARFaGLOVESaCOATaSOCKSaRED GIFT ENVELOPE"⟩,
  ⟨0x1F9E8, "FIRECRACKERaJIGSAW PUZZLE PIECEaTEST TUBEaPETRI DISHaDNA DOUBLE HELIXaCOMPASSaABACUS"⟩,
  ⟨0x1F9EF, "FIRE EXTINGUISHERaTOOLBOXaBRICKaMAGNETaLUGGAGEaLOTION BOTTLEaSPOOL OF THREAD"⟩,
  ⟨0x1F9F6, "BALL OF YARNaSAFETY PINaTEDDY BEARaBROOMaBASKETaROLL OF PAPERaBAR OF SOAPaSPONGE"⟩,
  ⟨0x1F9FE, "RECEIPTaNAZAR AMULETaNEUTRAL CHESS KINGcQUEENcROOKcBISHOPcKNIGHTcPAWN"⟩,
  ⟨0x1FA06, "WHITE CHESS KNIGHT ROTATED FORTY-FIVE DEGREES"⟩,
  ⟨0x1FA07, "BLACK CHESS KNIGHT ROTATED FORTY-FIVE DEGREES"⟩,
  ⟨0x1FA08, "NEUTRAL CHESS KNIGHT ROTATED FORTY-FIVE DEGREES"⟩,
  ⟨0x1FA09, "WHITE CHESS KING ROTATED NINETY DEGREEScQUEEN ROTATED NINETY DEGREES"⟩,
  ⟨0x1FA0B, "WHITE CHESS ROOK ROTATED NINETY DEGREEScBISHOP ROTATED NINETY DEGREES"⟩,
  ⟨0x1FA0D, "WHITE CHESS KNIGHT ROTATED NINETY DEGREEScPAWN ROTATED NINETY DEGREES"⟩,
  ⟨0x1FA0F, "BLACK CHESS KING ROTATED NINETY DEGREEScQUEEN ROTATED NINETY DEGREES"⟩,
  ⟨0x1FA11, "BLACK CHESS ROOK ROTATED NINETY DEGREEScBISHOP ROTATED NINETY DEGREES"⟩,
  ⟨0x1FA13, "BLACK CHESS KNIGHT ROTATED NINETY DEGREEScPAWN ROTATED NINETY DEGREES"⟩,
  ⟨0x1FA15, "NEUTRAL CHESS KING ROTATED NINETY DEGREEScQUEEN ROTATED NINETY DEGREES"⟩,
  ⟨0x1FA17, "NEUTRAL CHESS ROOK ROTATED NINETY DEGREEScBISHOP ROTATED NINETY DEGREES"⟩,
  ⟨0x1FA19, "NEUTRAL CHESS KNIGHT ROTATED NINETY DEGREEScPAWN ROTATED NINETY DEGREES"⟩,
  ⟨0x1FA1B, "WHITE CHESS KNIGHT ROTATED ONE HUNDRED THIRTY-FIVE DEGREES"⟩,
  ⟨0x1FA1C, "BLACK CHESS KNIGHT ROTATED ONE HUNDRED THIRTY-FIVE DEGREES"⟩,
  ⟨0x1FA1D, "NEUTRAL CHESS KNIGHT ROTATED ONE HUNDRED THIRTY-FIVE DEGREESaWHITE CHESS TURNED KING"⟩,
  ⟨0x1FA1F, "WHITE CHESS TURNED QUEENdROOKdBISHOPdKNIGHTdPAWNaBLACK CHESS TURNED KINGdQUEENdROOK"⟩,
  ⟨0x1FA27, "BLACK CHESS TURNED BISHOPdKNIGHTdPAWNaNEUTRAL CHESS TURNED KINGdQUEENdROOKdBISHOP"⟩,
  ⟨0x1FA2E, "NEUTRAL CHESS TURNED KNIGHTdPAWN"⟩,
  ⟨0x1FA30, "WHITE CHESS KNIGHT ROTATED TWO HUNDRED TWENTY-FIVE DEGREES"⟩,
  ⟨0x1FA31, "BLACK CHESS KNIGHT ROTATED TWO HUNDRED TWENTY-FIVE DEGREES"⟩,
  ⟨0x1FA32, "NEUTRAL CHESS KNIGHT ROTATED TWO HUNDRED TWENTY-FIVE DEGREES"⟩,
  ⟨0x1FA33, "WHITE CHESS KING ROTATED TWO HUNDRED SEVENTY DEGREES"⟩,
  ⟨0x1FA34, "WHITE CHESS QUEEN ROTATED TWO HUNDRED SEVENTY DEGREES"⟩,
  ⟨0x1FA35, "WHITE CHESS ROOK ROTATED TWO HUNDRED SEVENTY DEGREES"⟩,
  ⟨0x1FA36, "WHITE CHESS BISHOP ROTATED TWO HUNDRED SEVENTY DEGREES"⟩,
  ⟨0x1FA37, "WHITE CHESS KNIGHT ROTATED TWO HUNDRED SEVENTY DEGREES"⟩,
  ⟨0x1FA38, "WHITE CHESS PAWN ROTATED TWO HUNDRED SEVENTY DEGREES"⟩,
  ⟨0x1FA39, "BLACK CHESS KING ROTATED TWO HUNDRED SEVENTY DEGREES"⟩,
  ⟨0x1FA3A, "BLACK CHESS QUEEN ROTATED TWO HUNDRED SEVENTY DEGREES"⟩,
  ⟨0x1FA3B, "BLACK CHESS ROOK ROTATED TWO HUNDRED SEVENTY DEGREES"⟩,
  ⟨0x1FA3C, "BLACK CHESS BISHOP ROTATED TWO HUNDRED SEVENTY DEGREES"⟩,
  ⟨0x1FA3D, "BLACK CHESS KNIGHT ROTATED TWO HUNDRED SEVENTY DEGREES"⟩,
  ⟨0x1FA3E, "BLACK CHESS PAWN ROTATED TWO HUNDRED SEVENTY DEGREES"⟩,
  ⟨0x1FA3F, "NEUTRAL CHESS KING ROTATED TWO HUNDRED SEVENTY DEGREES"⟩,
  ⟨0x1FA40, "NEUTRAL CHESS QUEEN ROTATED TWO HUNDRED SEVENTY DEGREES"⟩,
  ⟨0x1FA41, "NEUTRAL CHESS ROOK ROTATED TWO HUNDRED SEVENTY DEGREES"⟩,
  ⟨0x1FA42, "NEUTRAL CHESS BISHOP ROTATED TWO HUNDRED SEVENTY DEGREES"⟩,
  ⟨0x1FA43, "NEUTRAL CHESS KNIGHT ROTATED TWO HUNDRED SEVENTY DEGREES"⟩,
  ⟨0x1FA44, "NEUTRAL CHESS PAWN ROTATED TWO HUNDRED SEVENTY DEGREES"⟩,
  ⟨0x1FA45, "WHITE CHESS KNIGHT ROTATED THREE HUNDRED FIFTEEN DEGREES"⟩,
  ⟨0x1FA46, "BLACK CHESS KNIGHT ROTATED THREE HUNDRED FIFTEEN DEGREES"⟩,
  ⟨0x1FA47, "NEUTRAL CHESS KNIGHT ROTATED THREE HUNDRED FIFTEEN DEGREESaWHITE CHESS EQUIHOPPER"⟩,
  ⟨0x1FA49, "BLACK CHESS EQUIHOPPERaNEUTRAL CHESS EQUIHOPPER"⟩,
  ⟨0x1FA4B, "WHITE CHESS EQUIHOPPER ROTATED NINETY DEGREES"⟩,
  ⟨0x1FA4C, "BLACK CHESS EQUIHOPPER ROTATED NINETY DEGREES"⟩,
  ⟨0x1FA4D, "NEUTRAL CHESS EQUIHOPPER ROTATED NINETY DEGREESaWHITE CHESS KNIGHT-QUEENdROOKdBISHOP"⟩,
  ⟨0x1FA51, "BLACK CHESS KNIGHT-QUEENdROOKdBISHOP"⟩,
  ⟨0x1FA60, "XIANGQI RED GENERALcMANDARINcELEPHANTcHORSEcCHARIOTcCANNONcSOLDIERbBLACK GENERAL"⟩,
  ⟨0x1FA68, "XIANGQI BLACK MANDARINcELEPHANTcHORSEcCHARIOTcCANNONcSOLDIER"⟩,
  ⟨0x1FA70, "BALLET SHOESaONE-PIECE SWIMSUITaBRIEFSaSHORTSaTHONG SANDAL"⟩,
  ⟨0x1FA78, "DROP OF BLOODaADHESIVE BANDAGEaSTETHOSCOPEaX-RAYaCRUTCH"⟩,
  ⟨0x1FA80, "YO-YOaKITEaPARACHUTEaBOOMERANGaMAGIC WANDaPINATAaNESTING DOLLS"⟩,
  ⟨0x1FA90, "RINGED PLANETaCHAIRaRAZORaAXEaDIYA LAMPaBANJOaMILITARY HELMETaACCORDIONaLONG DRUM"⟩,
  ⟨0x1FA99, "COINaCARPENTRY SAWaSCREWDRIVERaLADDERaHOOKaMIRRORaWINDOWaPLUNGERaSEWING NEEDLEaKNOT"⟩,
  ⟨0x1FAA3, "BUCKETaMOUSE TRAPaTOOTHBRUSHaHEADSTONEaPLACARDaROCKaMIRROR BALLaIDENTIFICATION CARD"⟩,
  ⟨0x1FAAB, "LOW BATTERYaHAMSA"⟩,
  ⟨0x1FAB0, "FLYaWORMaBEETLEaCOCKROACHaPOTTED PLANTaWOODaFEATHERaLOTUSaCORALaEMPTY NEST"⟩,
  ⟨0x1FABA, "NEST WITH EGGS"⟩,
  ⟨0x1FAC0, "ANATOMICAL HEARTaLUNGSaPEOPLE HUGGINGaPREGNANT MANbPERSONaPERSON WITH CROWN"⟩,
  ⟨0x1FAD0, "BLUEBERRIESaBELL PEPPERaOLIVEaFLATBREADaTAMALEaFONDUEaTEAPOTaPOURING LIQUIDaBEANS"⟩,
  ⟨0x1FAD9, "JAR"⟩,
  ⟨0x1FAE0, "MELTING FACEaSALUTING FACEaFACE WITH OPEN EYES AND HAND OVER MOUTHcPEEKING EYE"⟩,
  ⟨0x1FAE4, "FACE WITH DIAGONAL MOUTHaDOTTED LINE FACEaBITING LIPaBUBBLES"⟩,
  ⟨0x1FAF0, "HAND WITH INDEX FINGER AND THUMB CROSSEDaRIGHTWARDS HANDaLEFTWARDS HAND"⟩,
  ⟨0x1FAF3, "PALM DOWN HANDbUP HANDaINDEX POINTING AT THE VIEWERaHEART HANDS"⟩,
  ⟨0x1FB00, "BLOCK SEXTANT-1c2c12c3c13c23c123c4c14c24c124c34c134c234c1234c5c15c25c125c35c235c1235"⟩,
  ⟨0x1FB16, "BLOCK SEXTANT-45c145c245c1245c345c1345c2345c12345c6c16c26c126c36c136c236c1236c46c146"⟩,
  ⟨0x1FB28, "BLOCK SEXTANT-1246c346c1346c2346c12346c56c156c256c1256c356c1356c2356c12356c456c1456"⟩,
  ⟨0x1FB37, "BLOCK SEXTANT-2456c12456c3456c13456c23456"⟩,
  ⟨0x1FB3C, "LOWER LEFT BLOCK DIAGONAL LOWER MIDDLE LEFT TO LOWER CENTREjRIGHT"⟩,
  ⟨0x1FB3E, "LOWER LEFT BLOCK DIAGONAL UPPER MIDDLE LEFT TO LOWER CENTREjRIGHT"⟩,
  ⟨0x1FB40, "LOWER LEFT BLOCK DIAGONAL UPPER LEFT TO LOWER CENTRE"⟩,
  ⟨0x1FB41, "LOWER RIGHT BLOCK DIAGONAL UPPER MIDDLE LEFT TO UPPER CENTREjRIGHT"⟩,
  ⟨0x1FB43, "LOWER RIGHT BLOCK DIAGONAL LOWER MIDDLE LEFT TO UPPER CENTREjRIGHT"⟩,
  ⟨0x1FB45, "LOWER RIGHT BLOCK DIAGONAL LOWER LEFT TO UPPER CENTRE"⟩,
  ⟨0x1FB46, "LOWER RIGHT BLOCK DIAGONAL LOWER MIDDLE LEFT TO UPPER MIDDLE RIGHT"⟩,
  ⟨0x1FB47, "LOWER RIGHT BLOCK DIAGONAL LOWER CENTRE TO LOWER MIDDLE RIGHT"⟩,
  ⟨0x1FB48, "LOWER RIGHT BLOCK DIAGONAL LOWER LEFT TO LOWER MIDDLE RIGHT"⟩,
  ⟨0x1FB49, "LOWER RIGHT BLOCK DIAGONAL LOWER CENTRE TO UPPER MIDDLE RIGHT"⟩,
  ⟨0x1FB4A, "LOWER RIGHT BLOCK DIAGONAL LOWER LEFT TO UPPER MIDDLE RIGHTfCENTRE TO UPPER RIGHT"⟩,
  ⟨0x1FB4C, "LOWER LEFT BLOCK DIAGONAL UPPER CENTRE TO UPPER MIDDLE RIGHT"⟩,
  ⟨0x1FB4D, "LOWER LEFT BLOCK DIAGONAL UPPER LEFT TO UPPER MIDDLE RIGHT"⟩,
  ⟨0x1FB4E, "LOWER LEFT BLOCK DIAGONAL UPPER CENTRE TO LOWER MIDDLE RIGHT"⟩,
  ⟨0x1FB4F, "LOWER LEFT BLOCK DIAGONAL UPPER LEFT TO LOWER MIDDLE RIGHTfCENTRE TO LOWER RIGHT"⟩,
  ⟨0x1FB51, "LOWER LEFT BLOCK DIAGONAL UPPER MIDDLE LEFT TO LOWER MIDDLE RIGHT"⟩,
  ⟨0x1FB52, "UPPER RIGHT BLOCK DIAGONAL LOWER MIDDLE LEFT TO LOWER CENTREjRIGHT"⟩,
  ⟨0x1FB54, "UPPER RIGHT BLOCK DIAGONAL UPPER MIDDLE LEFT TO LOWER CENTREjRIGHT"⟩,
  ⟨0x1FB56, "UPPER RIGHT BLOCK DIAGONAL UPPER LEFT TO LOWER CENTRE"⟩,
  ⟨0x1FB57, "UPPER LEFT BLOCK DIAGONAL UPPER MIDDLE LEFT TO UPPER CENTREjRIGHT"⟩,
  ⟨0x1FB59, "UPPER LEFT BLOCK DIAGONAL LOWER MIDDLE LEFT TO UPPER CENTREjRIGHT"⟩,
  ⟨0x1FB5B, "UPPER LEFT BLOCK DIAGONAL LOWER LEFT TO UPPER CENTRE"⟩,
  ⟨0x1FB5C, "UPPER LEFT BLOCK DIAGONAL LOWER MIDDLE LEFT TO UPPER MIDDLE RIGHT"⟩,
  ⟨0x1FB5D, "UPPER LEFT BLOCK DIAGONAL LOWER CENTRE TO LOWER MIDDLE RIGHT"⟩,
  ⟨0x1FB5E, "UPPER LEFT BLOCK DIAGONAL LOWER LEFT TO LOWER MIDDLE RIGHT"⟩,
  ⟨0x1FB5F, "UPPER LEFT BLOCK DIAGONAL LOWER CENTRE TO UPPER MIDDLE RIGHT"⟩,
  ⟨0x1FB60, "UPPER LEFT BLOCK DIAGONAL LOWER LEFT TO UPPER MIDDLE RIGHTfCENTRE TO UPPER RIGHT"⟩,
  ⟨0x1FB62, "UPPER RIGHT BLOCK DIAGONAL UPPER CENTRE TO UPPER MIDDLE RIGHT"⟩,
  ⟨0x1FB63, "UPPER RIGHT BLOCK DIAGONAL UPPER LEFT TO UPPER MIDDLE RIGHT"⟩,
  ⟨0x1FB64, "UPPER RIGHT BLOCK DIAGONAL UPPER CENTRE TO LOWER MIDDLE RIGHT"⟩,
  ⟨0x1FB65, "UPPER RIGHT BLOCK DIAGONAL UPPER LEFT TO LOWER MIDDLE RIGHTfCENTRE TO LOWER RIGHT"⟩,
  ⟨0x1FB67, "UPPER RIGHT BLOCK DIAGONAL UPPER MIDDLE LEFT TO LOWER MIDDLE RIGHT"⟩,
  ⟨0x1FB68, "UPPER AND RIGHT AND LOWER TRIANGULAR THREE QUARTERS BLOCK"⟩,
  ⟨0x1FB69, "LEFT AND LOWER AND RIGHT TRIANGULAR THREE QUARTERS BLOCK"⟩,
  ⟨0x1FB6A, "UPPER AND LEFT AND LOWER TRIANGULAR THREE QUARTERS BLOCK"⟩,
  ⟨0x1FB6B, "LEFT AND UPPER AND RIGHT TRIANGULAR THREE QUARTERS BLOCK"⟩,
  ⟨0x1FB6C, "LEFT TRIANGULAR ONE QUARTER BLOCKaUPPER TRIANGULAR ONE QUARTER BLOCK"⟩,
  ⟨0x1FB6E, "RIGHT TRIANGULAR ONE QUARTER BLOCKaLOWER TRIANGULAR ONE QUARTER BLOCK"⟩,
  ⟨0x1FB70, "VERTICAL ONE EIGHTH BLOCK-2e3e4e5e6e7aHORIZONTAL ONE EIGHTH BLOCK-2e3e4e5e6e7"⟩,
  ⟨0x1FB7C, "LEFT AND LOWER ONE EIGHTH BLOCKcUPPER ONE EIGHTH BLOCK"⟩,
  ⟨0x1FB7E, "RIGHT AND UPPER ONE EIGHTH BLOCKcLOWER ONE EIGHTH BLOCK"⟩,
  ⟨0x1FB80, "UPPER AND LOWER ONE EIGHTH BLOCKaHORIZONTAL ONE EIGHTH BLOCK-1358"⟩,
  ⟨0x1FB82, "UPPER ONE QUARTER BLOCKbTHREE EIGHTHS BLOCKbFIVE EIGHTHS BLOCKbTHREE QUARTERS BLOCK"⟩,
  ⟨0x1FB86, "UPPER SEVEN EIGHTHS BLOCKaRIGHT ONE QUARTER BLOCKbTHREE EIGHTHS BLOCK"⟩,
  ⟨0x1FB89, "RIGHT FIVE EIGHTHS BLOCKbTHREE QUARTERS BLOCKbSEVEN EIGHTHS BLOCK"⟩,
  ⟨0x1FB8C, "LEFT HALF MEDIUM SHADEaRIGHT HALF MEDIUM SHADEaUPPER HALF MEDIUM SHADE"⟩,
  ⟨0x1FB8F, "LOWER HALF MEDIUM SHADEaINVERSE MEDIUM SHADE"⟩,
  ⟨0x1FB91, "UPPER HALF BLOCK AND LOWER HALF INVERSE MEDIUM SHADE"⟩,
  ⟨0x1FB92, "UPPER HALF INVERSE MEDIUM SHADE AND LOWER HALF BLOCK"⟩,
  ⟨0x1FB94, "LEFT HALF INVERSE MEDIUM SHADE AND RIGHT HALF BLOCKaCHECKER BOARD FILL"⟩,
  ⟨0x1FB96, "INVERSE CHECKER BOARD FILLaHEAVY HORIZONTAL FILLaUPPER LEFT TO LOWER RIGHT FILL"⟩,
  ⟨0x1FB99, "UPPER RIGHT TO LOWER LEFT FILLbAND LOWER TRIANGULAR HALF BLOCK"⟩,
  ⟨0x1FB9B, "LEFT AND RIGHT TRIANGULAR HALF BLOCKaUPPER LEFT TRIANGULAR MEDIUM SHADE"⟩,
  ⟨0x1FB9D, "UPPER RIGHT TRIANGULAR MEDIUM SHADEaLOWER RIGHT TRIANGULAR MEDIUM SHADE"⟩,
  ⟨0x1FB9F, "LOWER LEFT TRIANGULAR MEDIUM SHADE"⟩,
  ⟨0x1FBA0, "BOX DRAWINGS LIGHT DIAGONAL UPPER CENTRE TO MIDDLE LEFTiRIGHT"⟩,
  ⟨0x1FBA2, "BOX DRAWINGS LIGHT DIAGONAL MIDDLE LEFT TO LOWER CENTREfRIGHT TO LOWER CENTRE"⟩,
  ⟨0x1FBA4, "BOX DRAWINGS LIGHT DIAGONAL UPPER CENTRE TO MIDDLE LEFT TO LOWER CENTRE"⟩,
  ⟨0x1FBA5, "BOX DRAWINGS LIGHT DIAGONAL UPPER CENTRE TO MIDDLE RIGHT TO LOWER CENTRE"⟩,
  ⟨0x1FBA6, "BOX DRAWINGS LIGHT DIAGONAL MIDDLE LEFT TO LOWER CENTRE TO MIDDLE RIGHT"⟩,
  ⟨0x1FBA7, "BOX DRAWINGS LIGHT DIAGONAL MIDDLE LEFT TO UPPER CENTRE TO MIDDLE RIGHT"⟩,
  ⟨0x1FBA8, "BOX DRAWINGS LIGHT DIAGONAL UPPER CENTRE TO MIDDLE LEFT AND MIDDLE RIGHT TO LOWER CENTRE"⟩,
  ⟨0x1FBA9, "BOX DRAWINGS LIGHT DIAGONAL UPPER CENTRE TO MIDDLE RIGHT AND MIDDLE LEFT TO LOWER CENTRE"⟩,
  ⟨0x1FBAA, "BOX DRAWINGS LIGHT DIAGONAL UPPER CENTRE TO MIDDLE RIGHT TO LOWER CENTRE TO MIDDLE LEFT"⟩,
  ⟨0x1FBAB, "BOX DRAWINGS LIGHT DIAGONAL UPPER CENTRE TO MIDDLE LEFT TO LOWER CENTRE TO MIDDLE RIGHT"⟩,
  ⟨0x1FBAC, "BOX DRAWINGS LIGHT DIAGONAL MIDDLE LEFT TO UPPER CENTRE TO MIDDLE RIGHT TO LOWER CENTRE"⟩,
  ⟨0x1FBAD, "BOX DRAWINGS LIGHT DIAGONAL MIDDLE RIGHT TO UPPER CENTRE TO MIDDLE LEFT TO LOWER CENTRE"⟩,
  ⟨0x1FBAE, "BOX DRAWINGS LIGHT DIAGONAL DIAMONDdHORIZONTAL WITH VERTICAL STROKE"⟩,
  ⟨0x1FBB0, "ARROWHEAD-SHAPED POINTERaINVERSE CHECK MARKaLEFT HALF RUNNING MAN"⟩,
  ⟨0x1FBB3, "RIGHT HALF RUNNING MANaINVERSE DOWNWARDS ARROW WITH TIP LEFTWARDS"⟩,
  ⟨0x1FBB5, "LEFTWARDS ARROW AND UPPER AND LOWER ONE EIGHTH BLOCK"⟩,
  ⟨0x1FBB6, "RIGHTWARDS ARROW AND UPPER AND LOWER ONE EIGHTH BLOCK"⟩,
  ⟨0x1FBB7, "DOWNWARDS ARROW AND RIGHT ONE EIGHTH BLOCKaUPWARDS ARROW AND RIGHT ONE EIGHTH BLOCK"⟩,
  ⟨0x1FBB9, "LEFT HALF FOLDERaRIGHT HALF FOLDERaVOIDED GREEK CROSSaRIGHT OPEN SQUARED DOT"⟩,
  ⟨0x1FBBD, "NEGATIVE DIAGONAL CROSScMIDDLE RIGHT TO LOWER CENTREcDIAMOND"⟩,
  ⟨0x1FBC0, "WHITE HEAVY SALTIRE WITH ROUNDED CORNERSaLEFT THIRD WHITE RIGHT POINTING INDEX"⟩,
  ⟨0x1FBC2, "MIDDLE THIRD WHITE RIGHT POINTING INDEXaRIGHT THIRD WHITE RIGHT POINTING INDEX"⟩,
  ⟨0x1FBC4, "NEGATIVE SQUARED QUESTION MARKaSTICK FIGUREbFIGURE WITH ARMS RAISEDcLEANING LEFT"⟩,
  ⟨0x1FBC8, "STICK FIGURE LEANING RIGHTcWITH DRESSaWHITE UP-POINTING CHEVRON"⟩,
  ⟨0x1FBF0, "SEGMENTED DIGIT ZEROcONEcTWOcTHREEcFOURcFIVEcSIXcSEVENcEIGHTcNINE"⟩,
  ⟨0xE0001, "LANGUAGE TAG"⟩,
  ⟨0xE0020, "TAG SPACEbEXCLAMATION MARKbQUOTATION MARKbNUMBER SIGNbDOLLAR SIGNbPERCENT SIGN"⟩,
  ⟨0xE0026, "TAG AMPERSANDbAPOSTROPHEbLEFT PARENTHESISbRIGHT PARENTHESISbASTERISKbPLUS SIGNbCOMMA"⟩,
  ⟨0xE002D, "TAG HYPHEN-MINUSbFULL STOPbSOLIDUSbDIGIT ZEROcONEcTWOcTHREEcFOURcFIVEcSIXcSEVEN"⟩,
  ⟨0xE0038, "TAG DIGIT EIGHTcNINEbCOLONbSEMICOLONbLESS-THAN SIGNbEQUALS SIGNbGREATER-THAN SIGN"⟩,
  ⟨0xE003F, "TAG QUESTION MARKbCOMMERCIAL ATbLATIN CAPITAL LETTER AeBeCeDeEeFeGeHeIeJeKeLeMeNeOeP"⟩,
  ⟨0xE0051, "TAG LATIN CAPITAL LETTER QeReSeTeUeVeWeXeYeZbLEFT SQUARE BRACKETbREVERSE SOLIDUS"⟩,
  ⟨0xE005D, "TAG RIGHT SQUARE BRACKETbCIRCUMFLEX ACCENTbLOW LINEbGRAVE ACCENT"⟩,
  ⟨0xE0061, "TAG LATIN SMALL LETTER AeBeCeDeEeFeGeHeIeJeKeLeMeNeOePeQeReSeTeUeVeWeXeYeZ"⟩,
  ⟨0xE007B, "TAG LEFT CURLY BRACKETbVERTICAL LINEbRIGHT CURLY BRACKETbTILDEaCANCEL TAG"⟩,
  ⟨0xE0100, "VARIATION SELECTOR-17c18c19c20c21c22c23c24c25c26c27c28c29c30c31c32c33c34c35c36c37c38"⟩,
  ⟨0xE0116, "VARIATION SELECTOR-39c40c41c42c43c44c45c46c47c48c49c50c51c52c53c54c55c56c57c58c59c60"⟩,
  ⟨0xE012C, "VARIATION SELECTOR-61c62c63c64c65c66c67c68c69c70c71c72c73c74c75c76c77c78c79c80c81c82"⟩,
  ⟨0xE0142, "VARIATION SELECTOR-83c84c85c86c87c88c89c90c91c92c93c94c95c96c97c98c99c100c101c102"⟩,
  ⟨0xE0156, "VARIATION SELECTOR-103c104c105c106c107c108c109c110c111c112c113c114c115c116c117c118"⟩,
  ⟨0xE0166, "VARIATION SELECTOR-119c120c121c122c123c124c125c126c127c128c129c130c131c132c133c134"⟩,
  ⟨0xE0176, "VARIATION SELECTOR-135c136c137c138c139c140c141c142c143c144c145c146c147c148c149c150"⟩,
  ⟨0xE0186, "VARIATION SELECTOR-151c152c153c154c155c156c157c158c159c160c161c162c163c164c165c166"⟩,
  ⟨0xE0196, "VARIATION SELECTOR-167c168c169c170c171c172c173c174c175c176c177c178c179c180c181c182"⟩,
  ⟨0xE01A6, "VARIATION SELECTOR-183c184c185c186c187c188c189c190c191c192c193c194c195c196c197c198"⟩,
  ⟨0xE01B6, "VARIATION SELECTOR-199c200c201c202c203c204c205c206c207c208c209c210c211c212c213c214"⟩,
  ⟨0xE01C6, "VARIATION SELECTOR-215c216c217c218c219c220c221c222c223c224c225c226c227c228c229c230"⟩,
  ⟨0xE01D6, "VARIATION SELECTOR-231c232c233c234c235c236c237c238c239c240c241c242c243c244c245c246"⟩,
  ⟨0xE01E6, "VARIATION SELECTOR-247c248c249c250c251c252c253c254c255c256"⟩]

end Bindery.Text.CharName
