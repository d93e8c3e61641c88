import Bindery.Text.CharName.Run
/-!
# Names of symbols

The names from U+2000 to U+2BFF: punctuation, currencies, arrows, operators, shapes and dingbats.
-/
namespace Bindery.Text.CharName

def symbols : List Run := [
  ⟨0x2000, "EN QUADaEM QUADaEN SPACEaEM SPACEaTHREE-PER-EM SPACEaFOUR-PER-EM SPACE"⟩,
  ⟨0x2006, "SIX-PER-EM SPACEaFIGURE SPACEaPUNCTUATION SPACEaTHIN SPACEaHAIR SPACE"⟩,
  ⟨0x200B, "ZERO WIDTH SPACEcNON-JOINERcJOINERaLEFT-TO-RIGHT MARKaRIGHT-TO-LEFT MARKaHYPHEN"⟩,
  ⟨0x2011, "NON-BREAKING HYPHENaFIGURE DASHaEN DASHaEM DASHaHORIZONTAL BARaDOUBLE VERTICAL LINE"⟩,
  ⟨0x2017, "DOUBLE LOW LINEaLEFT SINGLE QUOTATION MARKaRIGHT SINGLE QUOTATION MARK"⟩,
  ⟨0x201A, "SINGLE LOW-9 QUOTATION MARKbHIGH-REVERSED-9 QUOTATION MARKaLEFT DOUBLE QUOTATION MARK"⟩,
  ⟨0x201D, "RIGHT DOUBLE QUOTATION MARKaDOUBLE LOW-9 QUOTATION MARK"⟩,
  ⟨0x201F, "DOUBLE HIGH-REVERSED-9 QUOTATION MARKaDAGGERaDOUBLE DAGGERaBULLETaTRIANGULAR BULLET"⟩,
  ⟨0x2024, "ONE DOT LEADERaTWO DOT LEADERaHORIZONTAL ELLIPSISaHYPHENATION POINTaLINE SEPARATOR"⟩,
  ⟨0x2029, "PARAGRAPH SEPARATORaLEFT-TO-RIGHT EMBEDDINGaRIGHT-TO-LEFT EMBEDDING"⟩,
  ⟨0x202C, "POP DIRECTIONAL FORMATTINGaLEFT-TO-RIGHT OVERRIDEaRIGHT-TO-LEFT OVERRIDE"⟩,
  ⟨0x202F, "NARROW NO-BREAK SPACEaPER MILLE SIGNbTEN THOUSAND SIGNaPRIMEaDOUBLE PRIME"⟩,
  ⟨0x2034, "TRIPLE PRIMEaREVERSED PRIMEbDOUBLE PRIMEbTRIPLE PRIMEaCARET"⟩,
  ⟨0x2039, "SINGLE LEFT-POINTING ANGLE QUOTATION MARKbRIGHT-POINTING ANGLE QUOTATION MARK"⟩,
  ⟨0x203B, "REFERENCE MARKaDOUBLE EXCLAMATION MARKaINTERROBANGaOVERLINEaUNDERTIEaCHARACTER TIE"⟩,
  ⟨0x2041, "CARET INSERTION POINTaASTERISMaHYPHEN BULLETaFRACTION SLASH"⟩,
  ⟨0x2045, "LEFT SQUARE BRACKET WITH QUILLaRIGHT SQUARE BRACKET WITH QUILLaDOUBLE QUESTION MARK"⟩,
  ⟨0x2048, "QUESTION EXCLAMATION MARKaEXCLAMATION QUESTION MARKaTIRONIAN SIGN ET"⟩,
  ⟨0x204B, "REVERSED PILCROW SIGNaBLACK LEFTWARDS BULLETbRIGHTWARDS BULLETaLOW ASTERISK"⟩,
  ⟨0x204F, "REVERSED SEMICOLONaCLOSE UPaTWO ASTERISKS ALIGNED VERTICALLYaCOMMERCIAL MINUS SIGN"⟩,
  ⟨0x2053, "SWUNG DASHaINVERTED UNDERTIEaFLOWER PUNCTUATION MARKaTHREE DOT PUNCTUATION"⟩,
  ⟨0x2057, "QUADRUPLE PRIMEaFOUR DOT PUNCTUATIONaFIVE DOT PUNCTUATIONaTWO DOT PUNCTUATION"⟩,
  ⟨0x205B, "FOUR DOT MARKaDOTTED CROSSaTRICOLONaVERTICAL FOUR DOTSaMEDIUM MATHEMATICAL SPACE"⟩,
  ⟨0x2060, "WORD JOINERaFUNCTION APPLICATIONaINVISIBLE TIMESbSEPARATORbPLUS"⟩,
  ⟨0x2066, "LEFT-TO-RIGHT ISOLATEaRIGHT-TO-LEFT ISOLATEaFIRST STRONG ISOLATE"⟩,
  ⟨0x2069, "POP DIRECTIONAL ISOLATEaINHIBIT SYMMETRIC SWAPPINGaACTIVATE SYMMETRIC SWAPPING"⟩,
  ⟨0x206C, "INHIBIT ARABIC FORM SHAPINGaACTIVATE ARABIC FORM SHAPINGaNATIONAL DIGIT SHAPES"⟩,
  ⟨0x206F, "NOMINAL DIGIT SHAPESaSUPERSCRIPT ZERObLATIN SMALL LETTER I"⟩,
  ⟨0x2074, "SUPERSCRIPT FOURbFIVEbSIXbSEVENbEIGHTbNINEbPLUS SIGNbMINUSbEQUALS SIGN"⟩,
  ⟨0x207D, "SUPERSCRIPT LEFT PARENTHESISbRIGHT PARENTHESISbLATIN SMALL LETTER NaSUBSCRIPT ZERO"⟩,
  ⟨0x2081, "SUBSCRIPT ONEbTWObTHREEbFOURbFIVEbSIXbSEVENbEIGHTbNINEbPLUS SIGNbMINUSbEQUALS SIGN"⟩,
  ⟨0x208D, "SUBSCRIPT LEFT PARENTHESISbRIGHT PARENTHESIS"⟩,
  ⟨0x2090, "LATIN SUBSCRIPT SMALL LETTER AeEeOeXeSCHWAeHeKeLeMeNePeSeT"⟩,
  ⟨0x20A0, "EURO-CURRENCY SIGNaCOLON SIGNaCRUZEIRO SIGNaFRENCH FRANC SIGNaLIRA SIGNaMILL SIGN"⟩,
  ⟨0x20A6, "NAIRA SIGNaPESETA SIGNaRUPEE SIGNaWON SIGNaNEW SHEQEL SIGNaDONG SIGNaEURO SIGN"⟩,
  ⟨0x20AD, "KIP SIGNaTUGRIK SIGNaDRACHMA SIGNaGERMAN PENNY SIGNaPESO SIGNaGUARANI SIGN"⟩,
  ⟨0x20B3, "AUSTRAL SIGNaHRYVNIA SIGNaCEDI SIGNaLIVRE TOURNOIS SIGNaSPESMILO SIGNaTENGE SIGN"⟩,
  ⟨0x20B9, "INDIAN RUPEE SIGNaTURKISH LIRA SIGNaNORDIC MARK SIGNaMANAT SIGNaRUBLE SIGNaLARI SIGN"⟩,
  ⟨0x20BF, "BITCOIN SIGNaSOM SIGN"⟩,
  ⟨0x20D0, "COMBINING LEFT HARPOON ABOVEbRIGHT HARPOON ABOVEbLONG VERTICAL LINE OVERLAY"⟩,
  ⟨0x20D3, "COMBINING SHORT VERTICAL LINE OVERLAYbANTICLOCKWISE ARROW ABOVEbCLOCKWISE ARROW ABOVE"⟩,
  ⟨0x20D6, "COMBINING LEFT ARROW ABOVEbRIGHT ARROW ABOVEbRING OVERLAYbCLOCKWISE RING OVERLAY"⟩,
  ⟨0x20DA, "COMBINING ANTICLOCKWISE RING OVERLAYbTHREE DOTS ABOVEbFOUR DOTS ABOVE"⟩,
  ⟨0x20DD, "COMBINING ENCLOSING CIRCLEcSQUAREcDIAMONDcCIRCLE BACKSLASHbLEFT RIGHT ARROW ABOVE"⟩,
  ⟨0x20E2, "COMBINING ENCLOSING SCREENcKEYCAPcUPWARD POINTING TRIANGLEbREVERSE SOLIDUS OVERLAY"⟩,
  ⟨0x20E6, "COMBINING DOUBLE VERTICAL STROKE OVERLAYbANNUITY SYMBOLbTRIPLE UNDERDOT"⟩,
  ⟨0x20E9, "COMBINING WIDE BRIDGE ABOVEbLEFTWARDS ARROW OVERLAYbLONG DOUBLE SOLIDUS OVERLAY"⟩,
  ⟨0x20EC, "COMBINING RIGHTWARDS HARPOON WITH BARB DOWNWARDS"⟩,
  ⟨0x20ED, "COMBINING LEFTWARDS HARPOON WITH BARB DOWNWARDSbLEFT ARROW BELOWbRIGHT ARROW BELOW"⟩,
  ⟨0x20F0, "COMBINING ASTERISK ABOVE"⟩,
  ⟨0x2100, "ACCOUNT OFaADDRESSED TO THE SUBJECTaDOUBLE-STRUCK CAPITAL CaDEGREE CELSIUS"⟩,
  ⟨0x2104, "CENTRE LINE SYMBOLaCARE OFaCADA UNAaEULER CONSTANTaSCRUPLEaDEGREE FAHRENHEIT"⟩,
  ⟨0x210A, "SCRIPT SMALL GbCAPITAL HaBLACK-LETTER CAPITAL HaDOUBLE-STRUCK CAPITAL H"⟩,
  ⟨0x210E, "PLANCK CONSTANTbCONSTANT OVER TWO PIaSCRIPT CAPITAL IaBLACK-LETTER CAPITAL I"⟩,
  ⟨0x2112, "SCRIPT CAPITAL LbSMALL LaL B BAR SYMBOLaDOUBLE-STRUCK CAPITAL NaNUMERO SIGN"⟩,
  ⟨0x2117, "SOUND RECORDING COPYRIGHTaSCRIPT CAPITAL PaDOUBLE-STRUCK CAPITAL PdQaSCRIPT CAPITAL R"⟩,
  ⟨0x211C, "BLACK-LETTER CAPITAL RaDOUBLE-STRUCK CAPITAL RaPRESCRIPTION TAKEaRESPONSE"⟩,
  ⟨0x2120, "SERVICE MARKaTELEPHONE SIGNaTRADE MARK SIGNaVERSICLEaDOUBLE-STRUCK CAPITAL Z"⟩,
  ⟨0x2125, "OUNCE SIGNaOHM SIGNaINVERTED OHM SIGNaBLACK-LETTER CAPITAL Z"⟩,
  ⟨0x2129, "TURNED GREEK SMALL LETTER IOTAaKELVIN SIGNaANGSTROM SIGNaSCRIPT CAPITAL B"⟩,
  ⟨0x212D, "BLACK-LETTER CAPITAL CaESTIMATED SYMBOLaSCRIPT SMALL EbCAPITAL EcFaTURNED CAPITAL F"⟩,
  ⟨0x2133, "SCRIPT CAPITAL MbSMALL OaALEF SYMBOLaBET SYMBOLaGIMEL SYMBOLaDALET SYMBOL"⟩,
  ⟨0x2139, "INFORMATION SOURCEaROTATED CAPITAL QaFACSIMILE SIGNaDOUBLE-STRUCK SMALL PIdGAMMA"⟩,
  ⟨0x213E, "DOUBLE-STRUCK CAPITAL GAMMAdPIcN-ARY SUMMATIONaTURNED SANS-SERIF CAPITAL GeL"⟩,
  ⟨0x2143, "REVERSED SANS-SERIF CAPITAL LaTURNED SANS-SERIF CAPITAL Y"⟩,
  ⟨0x2145, "DOUBLE-STRUCK ITALIC CAPITAL DdSMALL DeEeIeJaPROPERTY LINEaTURNED AMPERSANDaPER SIGN"⟩,
  ⟨0x214D, "AKTIESELSKABaTURNED SMALL FaSYMBOL FOR SAMARITAN SOURCEaVULGAR FRACTION ONE SEVENTH"⟩,
  ⟨0x2151, "VULGAR FRACTION ONE NINTHdTENTHdTHIRDcTWO THIRDScONE FIFTHcTWO FIFTHScTHREE FIFTHS"⟩,
  ⟨0x2158, "VULGAR FRACTION FOUR FIFTHScONE SIXTHcFIVE SIXTHScONE EIGHTHcTHREE EIGHTHS"⟩,
  ⟨0x215D, "VULGAR FRACTION FIVE EIGHTHScSEVEN EIGHTHSaFRACTION NUMERATOR ONEaROMAN NUMERAL ONE"⟩,
  ⟨0x2161, "ROMAN NUMERAL TWOcTHREEcFOURcFIVEcSIXcSEVENcEIGHTcNINEcTENcELEVENcTWELVEcFIFTY"⟩,
  ⟨0x216D, "ROMAN NUMERAL ONE HUNDREDcFIVE HUNDREDcONE THOUSANDaSMALL ROMAN NUMERAL ONEdTWOdTHREE"⟩,
  ⟨0x2173, "SMALL ROMAN NUMERAL FOURdFIVEdSIXdSEVENdEIGHTdNINEdTENdELEVENdTWELVEdFIFTY"⟩,
  ⟨0x217D, "SMALL ROMAN NUMERAL ONE HUNDREDdFIVE HUNDREDdONE THOUSAND"⟩,
  ⟨0x2180, "ROMAN NUMERAL ONE THOUSAND C DcFIVE THOUSANDcTEN THOUSANDcREVERSED ONE HUNDRED"⟩,
  ⟨0x2184, "LATIN SMALL LETTER REVERSED CaROMAN NUMERAL SIX LATE FORMcFIFTY EARLY FORMdTHOUSAND"⟩,
  ⟨0x2188, "ROMAN NUMERAL ONE HUNDRED THOUSANDaVULGAR FRACTION ZERO THIRDSaTURNED DIGIT TWOcTHREE"⟩,
  ⟨0x2190, "LEFTWARDS ARROWaUPWARDS ARROWaRIGHTWARDS ARROWaDOWNWARDS ARROWaLEFT RIGHT ARROW"⟩,
  ⟨0x2195, "UP DOWN ARROWaNORTH WEST ARROWbEAST ARROWaSOUTH EAST ARROWbWEST ARROW"⟩,
  ⟨0x219A, "LEFTWARDS ARROW WITH STROKEaRIGHTWARDS ARROW WITH STROKEaLEFTWARDS WAVE ARROW"⟩,
  ⟨0x219D, "RIGHTWARDS WAVE ARROWaLEFTWARDS TWO HEADED ARROWaUPWARDS TWO HEADED ARROW"⟩,
  ⟨0x21A0, "RIGHTWARDS TWO HEADED ARROWaDOWNWARDS TWO HEADED ARROWaLEFTWARDS ARROW WITH TAIL"⟩,
  ⟨0x21A3, "RIGHTWARDS ARROW WITH TAILaLEFTWARDS ARROW FROM BARaUPWARDS ARROW FROM BAR"⟩,
  ⟨0x21A6, "RIGHTWARDS ARROW FROM BARaDOWNWARDS ARROW FROM BARaUP DOWN ARROW WITH BASE"⟩,
  ⟨0x21A9, "LEFTWARDS ARROW WITH HOOKaRIGHTWARDS ARROW WITH HOOKaLEFTWARDS ARROW WITH LOOP"⟩,
  ⟨0x21AC, "RIGHTWARDS ARROW WITH LOOPaLEFT RIGHT WAVE ARROWcARROW WITH STROKE"⟩,
  ⟨0x21AF, "DOWNWARDS ZIGZAG ARROWaUPWARDS ARROW WITH TIP LEFTWARDSeRIGHTWARDS"⟩,
  ⟨0x21B2, "DOWNWARDS ARROW WITH TIP LEFTWARDSeRIGHTWARDSaRIGHTWARDS ARROW WITH CORNER DOWNWARDS"⟩,
  ⟨0x21B5, "DOWNWARDS ARROW WITH CORNER LEFTWARDSaANTICLOCKWISE TOP SEMICIRCLE ARROW"⟩,
  ⟨0x21B7, "CLOCKWISE TOP SEMICIRCLE ARROWaNORTH WEST ARROW TO LONG BAR"⟩,
  ⟨0x21B9, "LEFTWARDS ARROW TO BAR OVER RIGHTWARDS ARROW TO BARaANTICLOCKWISE OPEN CIRCLE ARROW"⟩,
  ⟨0x21BB, "CLOCKWISE OPEN CIRCLE ARROWaLEFTWARDS HARPOON WITH BARB UPWARDSeDOWNWARDS"⟩,
  ⟨0x21BE, "UPWARDS HARPOON WITH BARB RIGHTWARDSeLEFTWARDSaRIGHTWARDS HARPOON WITH BARB UPWARDS"⟩,
  ⟨0x21C1, "RIGHTWARDS HARPOON WITH BARB DOWNWARDSaDOWNWARDS HARPOON WITH BARB RIGHTWARDS"⟩,
  ⟨0x21C3, "DOWNWARDS HARPOON WITH BARB LEFTWARDSaRIGHTWARDS ARROW OVER LEFTWARDS ARROW"⟩,
  ⟨0x21C5, "UPWARDS ARROW LEFTWARDS OF DOWNWARDS ARROWaLEFTWARDS ARROW OVER RIGHTWARDS ARROW"⟩,
  ⟨0x21C7, "LEFTWARDS PAIRED ARROWSaUPWARDS PAIRED ARROWSaRIGHTWARDS PAIRED ARROWS"⟩,
  ⟨0x21CA, "DOWNWARDS PAIRED ARROWSaLEFTWARDS HARPOON OVER RIGHTWARDS HARPOON"⟩,
  ⟨0x21CC, "RIGHTWARDS HARPOON OVER LEFTWARDS HARPOONaLEFTWARDS DOUBLE ARROW WITH STROKE"⟩,
  ⟨0x21CE, "LEFT RIGHT DOUBLE ARROW WITH STROKEaRIGHTWARDS DOUBLE ARROW WITH STROKE"⟩,
  ⟨0x21D0, "LEFTWARDS DOUBLE ARROWaUPWARDS DOUBLE ARROWaRIGHTWARDS DOUBLE ARROW"⟩,
  ⟨0x21D3, "DOWNWARDS DOUBLE ARROWaLEFT RIGHT DOUBLE ARROWaUP DOWN DOUBLE ARROW"⟩,
  ⟨0x21D6, "NORTH WEST DOUBLE ARROWbEAST DOUBLE ARROWaSOUTH EAST DOUBLE ARROWbWEST DOUBLE ARROW"⟩,
  ⟨0x21DA, "LEFTWARDS TRIPLE ARROWaRIGHTWARDS TRIPLE ARROWaLEFTWARDS SQUIGGLE ARROW"⟩,
  ⟨0x21DD, "RIGHTWARDS SQUIGGLE ARROWaUPWARDS ARROW WITH DOUBLE STROKE"⟩,
  ⟨0x21DF, "DOWNWARDS ARROW WITH DOUBLE STROKEaLEFTWARDS DASHED ARROWaUPWARDS DASHED ARROW"⟩,
  ⟨0x21E2, "RIGHTWARDS DASHED ARROWaDOWNWARDS DASHED ARROWaLEFTWARDS ARROW TO BAR"⟩,
  ⟨0x21E5, "RIGHTWARDS ARROW TO BARaLEFTWARDS WHITE ARROWaUPWARDS WHITE ARROW"⟩,
  ⟨0x21E8, "RIGHTWARDS WHITE ARROWaDOWNWARDS WHITE ARROWaUPWARDS WHITE ARROW FROM BARdON PEDESTAL"⟩,
  ⟨0x21EC, "UPWARDS WHITE ARROW ON PEDESTAL WITH HORIZONTAL BARgVERTICAL BARcDOUBLE ARROW"⟩,
  ⟨0x21EF, "UPWARDS WHITE DOUBLE ARROW ON PEDESTALaRIGHTWARDS WHITE ARROW FROM WALL"⟩,
  ⟨0x21F1, "NORTH WEST ARROW TO CORNERaSOUTH EAST ARROW TO CORNERaUP DOWN WHITE ARROW"⟩,
  ⟨0x21F4, "RIGHT ARROW WITH SMALL CIRCLEaDOWNWARDS ARROW LEFTWARDS OF UPWARDS ARROW"⟩,
  ⟨0x21F6, "THREE RIGHTWARDS ARROWSaLEFTWARDS ARROW WITH VERTICAL STROKE"⟩,
  ⟨0x21F8, "RIGHTWARDS ARROW WITH VERTICAL STROKEaLEFT RIGHT ARROW WITH VERTICAL STROKE"⟩,
  ⟨0x21FA, "LEFTWARDS ARROW WITH DOUBLE VERTICAL STROKE"⟩,
  ⟨0x21FB, "RIGHTWARDS ARROW WITH DOUBLE VERTICAL STROKE"⟩,
  ⟨0x21FC, "LEFT RIGHT ARROW WITH DOUBLE VERTICAL STROKEaLEFTWARDS OPEN-HEADED ARROW"⟩,
  ⟨0x21FE, "RIGHTWARDS OPEN-HEADED ARROWaLEFT RIGHT OPEN-HEADED ARROWaFOR ALLaCOMPLEMENT"⟩,
  ⟨0x2202, "PARTIAL DIFFERENTIALaTHERE EXISTSbDOES NOT EXISTaEMPTY SETaINCREMENTaNABLAaELEMENT OF"⟩,
  ⟨0x2209, "NOT AN ELEMENT OFaSMALL ELEMENT OFaCONTAINS AS MEMBERaDOES NOT CONTAIN AS MEMBER"⟩,
  ⟨0x220D, "SMALL CONTAINS AS MEMBERaEND OF PROOFaN-ARY PRODUCTcCOPRODUCTcSUMMATIONaMINUS SIGN"⟩,
  ⟨0x2213, "MINUS-OR-PLUS SIGNaDOT PLUSaDIVISION SLASHaSET MINUSaASTERISK OPERATORaRING OPERATOR"⟩,
  ⟨0x2219, "BULLET OPERATORaSQUARE ROOTaCUBE ROOTaFOURTH ROOTaPROPORTIONAL TOaINFINITY"⟩,
  ⟨0x221F, "RIGHT ANGLEaANGLEaMEASURED ANGLEaSPHERICAL ANGLEaDIVIDESaDOES NOT DIVIDEaPARALLEL TO"⟩,
  ⟨0x2226, "NOT PARALLEL TOaLOGICAL ANDbORaINTERSECTIONaUNIONaINTEGRALaDOUBLE INTEGRAL"⟩,
  ⟨0x222D, "TRIPLE INTEGRALaCONTOUR INTEGRALaSURFACE INTEGRALaVOLUME INTEGRALaCLOCKWISE INTEGRAL"⟩,
  ⟨0x2232, "CLOCKWISE CONTOUR INTEGRALaANTICLOCKWISE CONTOUR INTEGRALaTHEREFOREaBECAUSEaRATIO"⟩,
  ⟨0x2237, "PROPORTIONaDOT MINUSaEXCESSaGEOMETRIC PROPORTIONaHOMOTHETICaTILDE OPERATOR"⟩,
  ⟨0x223D, "REVERSED TILDEaINVERTED LAZY SaSINE WAVEaWREATH PRODUCTaNOT TILDEaMINUS TILDE"⟩,
  ⟨0x2243, "ASYMPTOTICALLY EQUAL TOaNOT ASYMPTOTICALLY EQUAL TOaAPPROXIMATELY EQUAL TO"⟩,
  ⟨0x2246, "APPROXIMATELY BUT NOT ACTUALLY EQUAL TOaNEITHER APPROXIMATELY NOR ACTUALLY EQUAL TO"⟩,
  ⟨0x2248, "ALMOST EQUAL TOaNOT ALMOST EQUAL TOaALMOST EQUAL OR EQUAL TOaTRIPLE TILDE"⟩,
  ⟨0x224C, "ALL EQUAL TOaEQUIVALENT TOaGEOMETRICALLY EQUIVALENT TOaDIFFERENCE BETWEEN"⟩,
  ⟨0x2250, "APPROACHES THE LIMITaGEOMETRICALLY EQUAL TOaAPPROXIMATELY EQUAL TO OR THE IMAGE OF"⟩,
  ⟨0x2253, "IMAGE OF OR APPROXIMATELY EQUAL TOaCOLON EQUALSaEQUALS COLONaRING IN EQUAL TO"⟩,
  ⟨0x2257, "RING EQUAL TOaCORRESPONDS TOaESTIMATESaEQUIANGULAR TOaSTAR EQUALSaDELTA EQUAL TO"⟩,
  ⟨0x225D, "EQUAL TO BY DEFINITIONaMEASURED BYaQUESTIONED EQUAL TOaNOT EQUAL TOaIDENTICAL TO"⟩,
  ⟨0x2262, "NOT IDENTICAL TOaSTRICTLY EQUIVALENT TOaLESS-THAN OR EQUAL TO"⟩,
  ⟨0x2265, "GREATER-THAN OR EQUAL TOaLESS-THAN OVER EQUAL TOaGREATER-THAN OVER EQUAL TO"⟩,
  ⟨0x2268, "LESS-THAN BUT NOT EQUAL TOaGREATER-THAN BUT NOT EQUAL TOaMUCH LESS-THANbGREATER-THAN"⟩,
  ⟨0x226C, "BETWEENaNOT EQUIVALENT TObLESS-THANbGREATER-THANaNEITHER LESS-THAN NOR EQUAL TO"⟩,
  ⟨0x2271, "NEITHER GREATER-THAN NOR EQUAL TOaLESS-THAN OR EQUIVALENT TO"⟩,
  ⟨0x2273, "GREATER-THAN OR EQUIVALENT TOaNEITHER LESS-THAN NOR EQUIVALENT TO"⟩,
  ⟨0x2275, "NEITHER GREATER-THAN NOR EQUIVALENT TOaLESS-THAN OR GREATER-THAN"⟩,
  ⟨0x2277, "GREATER-THAN OR LESS-THANaNEITHER LESS-THAN NOR GREATER-THAN"⟩,
  ⟨0x2279, "NEITHER GREATER-THAN NOR LESS-THANaPRECEDESaSUCCEEDSaPRECEDES OR EQUAL TO"⟩,
  ⟨0x227D, "SUCCEEDS OR EQUAL TOaPRECEDES OR EQUIVALENT TOaSUCCEEDS OR EQUIVALENT TO"⟩,
  ⟨0x2280, "DOES NOT PRECEDEcSUCCEEDaSUBSET OFaSUPERSET OFaNOT A SUBSET OFcSUPERSET OF"⟩,
  ⟨0x2286, "SUBSET OF OR EQUAL TOaSUPERSET OF OR EQUAL TOaNEITHER A SUBSET OF NOR EQUAL TO"⟩,
  ⟨0x2289, "NEITHER A SUPERSET OF NOR EQUAL TOaSUBSET OF WITH NOT EQUAL TO"⟩,
  ⟨0x228B, "SUPERSET OF WITH NOT EQUAL TOaMULTISETaMULTISET MULTIPLICATIONbUNIONaSQUARE IMAGE OF"⟩,
  ⟨0x2290, "SQUARE ORIGINAL OFbIMAGE OF OR EQUAL TObORIGINAL OF OR EQUAL TObCAPbCUPaCIRCLED PLUS"⟩,
  ⟨0x2296, "CIRCLED MINUSbTIMESbDIVISION SLASHbDOT OPERATORbRING OPERATORbASTERISK OPERATOR"⟩,
  ⟨0x229C, "CIRCLED EQUALSbDASHaSQUARED PLUSbMINUSbTIMESbDOT OPERATORaRIGHT TACKaLEFT TACK"⟩,
  ⟨0x22A4, "DOWN TACKaUP TACKaASSERTIONaMODELSaTRUEaFORCESaTRIPLE VERTICAL BAR RIGHT TURNSTILE"⟩,
  ⟨0x22AB, "DOUBLE VERTICAL BAR DOUBLE RIGHT TURNSTILEaDOES NOT PROVEaNOT TRUEaDOES NOT FORCE"⟩,
  ⟨0x22AF, "NEGATED DOUBLE VERTICAL BAR DOUBLE RIGHT TURNSTILEaPRECEDES UNDER RELATION"⟩,
  ⟨0x22B1, "SUCCEEDS UNDER RELATIONaNORMAL SUBGROUP OFaCONTAINS AS NORMAL SUBGROUP"⟩,
  ⟨0x22B4, "NORMAL SUBGROUP OF OR EQUAL TOaCONTAINS AS NORMAL SUBGROUP OR EQUAL TOaORIGINAL OF"⟩,
  ⟨0x22B7, "IMAGE OFaMULTIMAPaHERMITIAN CONJUGATE MATRIXaINTERCALATEaXORaNANDaNOR"⟩,
  ⟨0x22BE, "RIGHT ANGLE WITH ARCbTRIANGLEaN-ARY LOGICAL ANDdORcINTERSECTIONcUNION"⟩,
  ⟨0x22C4, "DIAMOND OPERATORaDOT OPERATORaSTAR OPERATORaDIVISION TIMESaBOWTIE"⟩,
  ⟨0x22C9, "LEFT NORMAL FACTOR SEMIDIRECT PRODUCTaRIGHT NORMAL FACTOR SEMIDIRECT PRODUCT"⟩,
  ⟨0x22CB, "LEFT SEMIDIRECT PRODUCTaRIGHT SEMIDIRECT PRODUCTaREVERSED TILDE EQUALS"⟩,
  ⟨0x22CE, "CURLY LOGICAL ORcANDaDOUBLE SUBSETbSUPERSETbINTERSECTIONbUNIONaPITCHFORK"⟩,
  ⟨0x22D5, "EQUAL AND PARALLEL TOaLESS-THAN WITH DOTaGREATER-THAN WITH DOTaVERY MUCH LESS-THAN"⟩,
  ⟨0x22D9, "VERY MUCH GREATER-THANaLESS-THAN EQUAL TO OR GREATER-THAN"⟩,
  ⟨0x22DB, "GREATER-THAN EQUAL TO OR LESS-THANaEQUAL TO OR LESS-THANdGREATER-THANdPRECEDES"⟩,
  ⟨0x22DF, "EQUAL TO OR SUCCEEDSaDOES NOT PRECEDE OR EQUALcSUCCEED OR EQUAL"⟩,
  ⟨0x22E2, "NOT SQUARE IMAGE OF OR EQUAL TOcORIGINAL OF OR EQUAL TO"⟩,
  ⟨0x22E4, "SQUARE IMAGE OF OR NOT EQUAL TObORIGINAL OF OR NOT EQUAL TO"⟩,
  ⟨0x22E6, "LESS-THAN BUT NOT EQUIVALENT TOaGREATER-THAN BUT NOT EQUIVALENT TO"⟩,
  ⟨0x22E8, "PRECEDES BUT NOT EQUIVALENT TOaSUCCEEDS BUT NOT EQUIVALENT TOaNOT NORMAL SUBGROUP OF"⟩,
  ⟨0x22EB, "DOES NOT CONTAIN AS NORMAL SUBGROUPaNOT NORMAL SUBGROUP OF OR EQUAL TO"⟩,
  ⟨0x22ED, "DOES NOT CONTAIN AS NORMAL SUBGROUP OR EQUALaVERTICAL ELLIPSIS"⟩,
  ⟨0x22EF, "MIDLINE HORIZONTAL ELLIPSISaUP RIGHT DIAGONAL ELLIPSISaDOWN RIGHT DIAGONAL ELLIPSIS"⟩,
  ⟨0x22F2, "ELEMENT OF WITH LONG HORIZONTAL STROKEdVERTICAL BAR AT END OF HORIZONTAL STROKE"⟩,
  ⟨0x22F4, "SMALL ELEMENT OF WITH VERTICAL BAR AT END OF HORIZONTAL STROKE"⟩,
  ⟨0x22F5, "ELEMENT OF WITH DOT ABOVEdOVERBARaSMALL ELEMENT OF WITH OVERBAR"⟩,
  ⟨0x22F8, "ELEMENT OF WITH UNDERBARdTWO HORIZONTAL STROKESaCONTAINS WITH LONG HORIZONTAL STROKE"⟩,
  ⟨0x22FB, "CONTAINS WITH VERTICAL BAR AT END OF HORIZONTAL STROKE"⟩,
  ⟨0x22FC, "SMALL CONTAINS WITH VERTICAL BAR AT END OF HORIZONTAL STROKEaCONTAINS WITH OVERBAR"⟩,
  ⟨0x22FE, "SMALL CONTAINS WITH OVERBARaZ NOTATION BAG MEMBERSHIPaDIAMETER SIGNaELECTRIC ARROW"⟩,
  ⟨0x2302, "HOUSEaUP ARROWHEADaDOWN ARROWHEADaPROJECTIVEaPERSPECTIVEaWAVY LINEaLEFT CEILING"⟩,
  ⟨0x2309, "RIGHT CEILINGaLEFT FLOORaRIGHT FLOORaBOTTOM RIGHT CROPbLEFT CROPaTOP RIGHT CROP"⟩,
  ⟨0x230F, "TOP LEFT CROPaREVERSED NOT SIGNaSQUARE LOZENGEaARCaSEGMENTaSECTORaTELEPHONE RECORDER"⟩,
  ⟨0x2316, "POSITION INDICATORaVIEWDATA SQUAREaPLACE OF INTEREST SIGNaTURNED NOT SIGNaWATCH"⟩,
  ⟨0x231B, "HOURGLASSaTOP LEFT CORNERbRIGHT CORNERaBOTTOM LEFT CORNERbRIGHT CORNER"⟩,
  ⟨0x2320, "TOP HALF INTEGRALaBOTTOM HALF INTEGRALaFROWNaSMILE"⟩,
  ⟨0x2324, "UP ARROWHEAD BETWEEN TWO HORIZONTAL BARSaOPTION KEYaERASE TO THE RIGHT"⟩,
  ⟨0x2327, "X IN A RECTANGLE BOXaKEYBOARDaLEFT-POINTING ANGLE BRACKET"⟩,
  ⟨0x232A, "RIGHT-POINTING ANGLE BRACKETaERASE TO THE LEFTaBENZENE RINGaCYLINDRICITY"⟩,
  ⟨0x232E, "ALL AROUND-PROFILEaSYMMETRYaTOTAL RUNOUTaDIMENSION ORIGINaCONICAL TAPERaSLOPE"⟩,
  ⟨0x2334, "COUNTERBOREaCOUNTERSINKaAPL FUNCTIONAL SYMBOL I-BEAMdSQUISH QUADdQUAD EQUALeDIVIDE"⟩,
  ⟨0x233A, "APL FUNCTIONAL SYMBOL QUAD DIAMONDeJOTeCIRCLEdCIRCLE STILEeJOTdSLASH BAR"⟩,
  ⟨0x2340, "APL FUNCTIONAL SYMBOL BACKSLASH BARdQUAD SLASHeBACKSLASHeLESS-THANeGREATER-THAN"⟩,
  ⟨0x2345, "APL FUNCTIONAL SYMBOL LEFTWARDS VANEdRIGHTWARDS VANEdQUAD LEFTWARDS ARROW"⟩,
  ⟨0x2348, "APL FUNCTIONAL SYMBOL QUAD RIGHTWARDS ARROWdCIRCLE BACKSLASHdDOWN TACK UNDERBAR"⟩,
  ⟨0x234B, "APL FUNCTIONAL SYMBOL DELTA STILEdQUAD DOWN CARETeDELTAdDOWN TACK JOTdUPWARDS VANE"⟩,
  ⟨0x2350, "APL FUNCTIONAL SYMBOL QUAD UPWARDS ARROWdUP TACK OVERBARdDEL STILEdQUAD UP CARETeDEL"⟩,
  ⟨0x2355, "APL FUNCTIONAL SYMBOL UP TACK JOTdDOWNWARDS VANEdQUAD DOWNWARDS ARROWdQUOTE UNDERBAR"⟩,
  ⟨0x2359, "APL FUNCTIONAL SYMBOL DELTA UNDERBARdDIAMOND UNDERBARdJOT UNDERBARdCIRCLE UNDERBAR"⟩,
  ⟨0x235D, "APL FUNCTIONAL SYMBOL UP SHOE JOTdQUOTE QUADdCIRCLE STARdQUAD COLONdUP TACK DIAERESIS"⟩,
  ⟨0x2362, "APL FUNCTIONAL SYMBOL DEL DIAERESISdSTAR DIAERESISdJOT DIAERESISdCIRCLE DIAERESIS"⟩,
  ⟨0x2366, "APL FUNCTIONAL SYMBOL DOWN SHOE STILEdLEFT SHOE STILEdTILDE DIAERESIS"⟩,
  ⟨0x2369, "APL FUNCTIONAL SYMBOL GREATER-THAN DIAERESISdCOMMA BARdDEL TILDEdZILDEdSTILE TILDE"⟩,
  ⟨0x236E, "APL FUNCTIONAL SYMBOL SEMICOLON UNDERBARdQUAD NOT EQUALeQUESTIONdDOWN CARET TILDE"⟩,
  ⟨0x2372, "APL FUNCTIONAL SYMBOL UP CARET TILDEdIOTAdRHOdOMEGAdALPHA UNDERBARdEPSILON UNDERBAR"⟩,
  ⟨0x2378, "APL FUNCTIONAL SYMBOL IOTA UNDERBARdOMEGA UNDERBARdALPHAaNOT CHECK MARK"⟩,
  ⟨0x237C, "RIGHT ANGLE WITH DOWNWARDS ZIGZAG ARROWaSHOULDERED OPEN BOXaBELL SYMBOL"⟩,
  ⟨0x237F, "VERTICAL LINE WITH MIDDLE DOTaINSERTION SYMBOLaCONTINUOUS UNDERLINE SYMBOL"⟩,
  ⟨0x2382, "DISCONTINUOUS UNDERLINE SYMBOLaEMPHASIS SYMBOLaCOMPOSITION SYMBOL"⟩,
  ⟨0x2385, "WHITE SQUARE WITH CENTRE VERTICAL LINEaENTER SYMBOLaALTERNATIVE KEY SYMBOL"⟩,
  ⟨0x2388, "HELM SYMBOLaCIRCLED HORIZONTAL BAR WITH NOTCHbTRIANGLE DOWN"⟩,
  ⟨0x238B, "BROKEN CIRCLE WITH NORTHWEST ARROWaUNDO SYMBOLaMONOSTABLE SYMBOLaHYSTERESIS SYMBOL"⟩,
  ⟨0x238F, "OPEN-CIRCUIT-OUTPUT H-TYPE SYMBOLdL-TYPE SYMBOLaPASSIVE-PULL-DOWN-OUTPUT SYMBOL"⟩,
  ⟨0x2392, "PASSIVE-PULL-UP-OUTPUT SYMBOLaDIRECT CURRENT SYMBOL FORM TWOaSOFTWARE-FUNCTION SYMBOL"⟩,
  ⟨0x2395, "APL FUNCTIONAL SYMBOL QUADaDECIMAL SEPARATOR KEY SYMBOLaPREVIOUS PAGEaNEXT PAGE"⟩,
  ⟨0x2399, "PRINT SCREEN SYMBOLaCLEAR SCREEN SYMBOLaLEFT PARENTHESIS UPPER HOOKcEXTENSION"⟩,
  ⟨0x239D, "LEFT PARENTHESIS LOWER HOOKaRIGHT PARENTHESIS UPPER HOOKcEXTENSIONcLOWER HOOK"⟩,
  ⟨0x23A1, "LEFT SQUARE BRACKET UPPER CORNERdEXTENSIONdLOWER CORNER"⟩,
  ⟨0x23A4, "RIGHT SQUARE BRACKET UPPER CORNERdEXTENSIONdLOWER CORNER"⟩,
  ⟨0x23A7, "LEFT CURLY BRACKET UPPER HOOKdMIDDLE PIECEdLOWER HOOKaCURLY BRACKET EXTENSION"⟩,
  ⟨0x23AB, "RIGHT CURLY BRACKET UPPER HOOKdMIDDLE PIECEdLOWER HOOKaINTEGRAL EXTENSION"⟩,
  ⟨0x23AF, "HORIZONTAL LINE EXTENSIONaUPPER LEFT OR LOWER RIGHT CURLY BRACKET SECTION"⟩,
  ⟨0x23B1, "UPPER RIGHT OR LOWER LEFT CURLY BRACKET SECTIONaSUMMATION TOPbBOTTOM"⟩,
  ⟨0x23B4, "TOP SQUARE BRACKETaBOTTOM SQUARE BRACKETcBRACKET OVER TOP SQUARE BRACKET"⟩,
  ⟨0x23B7, "RADICAL SYMBOL BOTTOMaLEFT VERTICAL BOX LINEaRIGHT VERTICAL BOX LINE"⟩,
  ⟨0x23BA, "HORIZONTAL SCAN LINE-1d3d7d9aDENTISTRY SYMBOL LIGHT VERTICAL AND TOP RIGHT"⟩,
  ⟨0x23BF, "DENTISTRY SYMBOL LIGHT VERTICAL AND BOTTOM RIGHTeWITH CIRCLE"⟩,
  ⟨0x23C1, "DENTISTRY SYMBOL LIGHT DOWN AND HORIZONTAL WITH CIRCLEdUP AND HORIZONTAL WITH CIRCLE"⟩,
  ⟨0x23C3, "DENTISTRY SYMBOL LIGHT VERTICAL WITH TRIANGLEdDOWN AND HORIZONTAL WITH TRIANGLE"⟩,
  ⟨0x23C5, "DENTISTRY SYMBOL LIGHT UP AND HORIZONTAL WITH TRIANGLEdVERTICAL AND WAVE"⟩,
  ⟨0x23C7, "DENTISTRY SYMBOL LIGHT DOWN AND HORIZONTAL WITH WAVEdUP AND HORIZONTAL WITH WAVE"⟩,
  ⟨0x23C9, "DENTISTRY SYMBOL LIGHT DOWN AND HORIZONTALdUP AND HORIZONTALdVERTICAL AND TOP LEFT"⟩,
  ⟨0x23CC, "DENTISTRY SYMBOL LIGHT VERTICAL AND BOTTOM LEFTaSQUARE FOOTaRETURN SYMBOL"⟩,
  ⟨0x23CF, "EJECT SYMBOLaVERTICAL LINE EXTENSIONaMETRICAL BREVEbLONG OVER SHORTbSHORT OVER LONG"⟩,
  ⟨0x23D4, "METRICAL LONG OVER TWO SHORTSbTWO SHORTS OVER LONGdJOINEDbTRISEMEbTETRASEMEbPENTASEME"⟩,
  ⟨0x23DA, "EARTH GROUNDaFUSEaTOP PARENTHESISaBOTTOM PARENTHESISaTOP CURLY BRACKET"⟩,
  ⟨0x23DF, "BOTTOM CURLY BRACKETaTOP TORTOISE SHELL BRACKETaBOTTOM TORTOISE SHELL BRACKET"⟩,
  ⟨0x23E2, "WHITE TRAPEZIUMaBENZENE RING WITH CIRCLEaSTRAIGHTNESSaFLATNESSaAC CURRENT"⟩,
  ⟨0x23E7, "ELECTRICAL INTERSECTIONaDECIMAL EXPONENT SYMBOLaBLACK RIGHT-POINTING DOUBLE TRIANGLE"⟩,
  ⟨0x23EA, "BLACK LEFT-POINTING DOUBLE TRIANGLEbUP-POINTING DOUBLE TRIANGLE"⟩,
  ⟨0x23EC, "BLACK DOWN-POINTING DOUBLE TRIANGLEbRIGHT-POINTING DOUBLE TRIANGLE WITH VERTICAL BAR"⟩,
  ⟨0x23EE, "BLACK LEFT-POINTING DOUBLE TRIANGLE WITH VERTICAL BAR"⟩,
  ⟨0x23EF, "BLACK RIGHT-POINTING TRIANGLE WITH DOUBLE VERTICAL BARaALARM CLOCKaSTOPWATCH"⟩,
  ⟨0x23F2, "TIMER CLOCKaHOURGLASS WITH FLOWING SANDaBLACK MEDIUM LEFT-POINTING TRIANGLE"⟩,
  ⟨0x23F5, "BLACK MEDIUM RIGHT-POINTING TRIANGLEcUP-POINTING TRIANGLEcDOWN-POINTING TRIANGLE"⟩,
  ⟨0x23F8, "DOUBLE VERTICAL BARaBLACK SQUARE FOR STOPbCIRCLE FOR RECORDaPOWER SYMBOL"⟩,
  ⟨0x23FC, "POWER ON-OFF SYMBOLbON SYMBOLbSLEEP SYMBOLaOBSERVER EYE SYMBOLaSYMBOL FOR NULL"⟩,
  ⟨0x2401, "SYMBOL FOR START OF HEADINGeTEXTcEND OF TEXTeTRANSMISSIONcENQUIRYcACKNOWLEDGEcBELL"⟩,
  ⟨0x2408, "SYMBOL FOR BACKSPACEcHORIZONTAL TABULATIONcLINE FEEDcVERTICAL TABULATIONcFORM FEED"⟩,
  ⟨0x240D, "SYMBOL FOR CARRIAGE RETURNcSHIFT OUTdINcDATA LINK ESCAPEcDEVICE CONTROL ONEeTWOeTHREE"⟩,
  ⟨0x2414, "SYMBOL FOR DEVICE CONTROL FOURcNEGATIVE ACKNOWLEDGEcSYNCHRONOUS IDLE"⟩,
  ⟨0x2417, "SYMBOL FOR END OF TRANSMISSION BLOCKcCANCELcEND OF MEDIUMcSUBSTITUTEcESCAPE"⟩,
  ⟨0x241C, "SYMBOL FOR FILE SEPARATORcGROUP SEPARATORcRECORD SEPARATORcUNIT SEPARATORcSPACE"⟩,
  ⟨0x2421, "SYMBOL FOR DELETEaBLANK SYMBOLaOPEN BOXaSYMBOL FOR NEWLINEcDELETE FORM TWO"⟩,
  ⟨0x2426, "SYMBOL FOR SUBSTITUTE FORM TWO"⟩,
  ⟨0x2440, "OCR HOOKbCHAIRbFORKbINVERTED FORKbBELT BUCKLEbBOW TIEbBRANCH BANK IDENTIFICATION"⟩,
  ⟨0x2447, "OCR AMOUNT OF CHECKbDASHbCUSTOMER ACCOUNT NUMBERbDOUBLE BACKSLASH"⟩,
  ⟨0x2460, "CIRCLED DIGIT ONEcTWOcTHREEcFOURcFIVEcSIXcSEVENcEIGHTcNINEbNUMBER TENcELEVENcTWELVE"⟩,
  ⟨0x246C, "CIRCLED NUMBER THIRTEENcFOURTEENcFIFTEENcSIXTEENcSEVENTEENcEIGHTEENcNINETEENcTWENTY"⟩,
  ⟨0x2474, "PARENTHESIZED DIGIT ONEcTWOcTHREEcFOURcFIVEcSIXcSEVENcEIGHTcNINEbNUMBER TENcELEVEN"⟩,
  ⟨0x247F, "PARENTHESIZED NUMBER TWELVEcTHIRTEENcFOURTEENcFIFTEENcSIXTEENcSEVENTEENcEIGHTEEN"⟩,
  ⟨0x2486, "PARENTHESIZED NUMBER NINETEENcTWENTYaDIGIT ONE FULL STOPbTWO FULL STOP"⟩,
  ⟨0x248A, "DIGIT THREE FULL STOPbFOUR FULL STOPbFIVE FULL STOPbSIX FULL STOPbSEVEN FULL STOP"⟩,
  ⟨0x248F, "DIGIT EIGHT FULL STOPbNINE FULL STOPaNUMBER TEN FULL STOPbELEVEN FULL STOP"⟩,
  ⟨0x2493, "NUMBER TWELVE FULL STOPbTHIRTEEN FULL STOPbFOURTEEN FULL STOPbFIFTEEN FULL STOP"⟩,
  ⟨0x2497, "NUMBER SIXTEEN FULL STOPbSEVENTEEN FULL STOPbEIGHTEEN FULL STOPbNINETEEN FULL STOP"⟩,
  ⟨0x249B, "NUMBER TWENTY FULL STOPaPARENTHESIZED LATIN SMALL LETTER AeBeCeDeEeFeGeHeIeJeKeLeMeN"⟩,
  ⟨0x24AA, "PARENTHESIZED LATIN SMALL LETTER OePeQeReSeTeUeVeWeXeYeZ"⟩,
  ⟨0x24B6, "CIRCLED LATIN CAPITAL LETTER AeBeCeDeEeFeGeHeIeJeKeLeMeNeOePeQeReSeTeUeVeWeXeYeZ"⟩,
  ⟨0x24D0, "CIRCLED LATIN SMALL LETTER AeBeCeDeEeFeGeHeIeJeKeLeMeNeOePeQeReSeTeUeVeWeXeYeZ"⟩,
  ⟨0x24EA, "CIRCLED DIGIT ZEROaNEGATIVE CIRCLED NUMBER ELEVENdTWELVEdTHIRTEENdFOURTEENdFIFTEEN"⟩,
  ⟨0x24F0, "NEGATIVE CIRCLED NUMBER SIXTEENdSEVENTEENdEIGHTEENdNINETEENdTWENTY"⟩,
  ⟨0x24F5, "DOUBLE CIRCLED DIGIT ONEdTWOdTHREEdFOURdFIVEdSIXdSEVENdEIGHTdNINEcNUMBER TEN"⟩,
  ⟨0x24FF, "NEGATIVE CIRCLED DIGIT ZEROaBOX DRAWINGS LIGHT HORIZONTALcHEAVY HORIZONTAL"⟩,
  ⟨0x2502, "BOX DRAWINGS LIGHT VERTICALcHEAVY VERTICALcLIGHT TRIPLE DASH HORIZONTAL"⟩,
  ⟨0x2505, "BOX DRAWINGS HEAVY TRIPLE DASH HORIZONTALcLIGHT TRIPLE DASH VERTICAL"⟩,
  ⟨0x2507, "BOX DRAWINGS HEAVY TRIPLE DASH VERTICALcLIGHT QUADRUPLE DASH HORIZONTAL"⟩,
  ⟨0x2509, "BOX DRAWINGS HEAVY QUADRUPLE DASH HORIZONTALcLIGHT QUADRUPLE DASH VERTICAL"⟩,
  ⟨0x250B, "BOX DRAWINGS HEAVY QUADRUPLE DASH VERTICALcLIGHT DOWN AND RIGHT"⟩,
  ⟨0x250D, "BOX DRAWINGS DOWN LIGHT AND RIGHT HEAVYdHEAVY AND RIGHT LIGHTcHEAVY DOWN AND RIGHT"⟩,
  ⟨0x2510, "BOX DRAWINGS LIGHT DOWN AND LEFTcDOWN LIGHT AND LEFT HEAVYdHEAVY AND LEFT LIGHT"⟩,
  ⟨0x2513, "BOX DRAWINGS HEAVY DOWN AND LEFTcLIGHT UP AND RIGHTcUP LIGHT AND RIGHT HEAVY"⟩,
  ⟨0x2516, "BOX DRAWINGS UP HEAVY AND RIGHT LIGHTcHEAVY UP AND RIGHTcLIGHT UP AND LEFT"⟩,
  ⟨0x2519, "BOX DRAWINGS UP LIGHT AND LEFT HEAVYdHEAVY AND LEFT LIGHTcHEAVY UP AND LEFT"⟩,
  ⟨0x251C, "BOX DRAWINGS LIGHT VERTICAL AND RIGHTcVERTICAL LIGHT AND RIGHT HEAVY"⟩,
  ⟨0x251E, "BOX DRAWINGS UP HEAVY AND RIGHT DOWN LIGHTcDOWN HEAVY AND RIGHT UP LIGHT"⟩,
  ⟨0x2520, "BOX DRAWINGS VERTICAL HEAVY AND RIGHT LIGHTcDOWN LIGHT AND RIGHT UP HEAVY"⟩,
  ⟨0x2522, "BOX DRAWINGS UP LIGHT AND RIGHT DOWN HEAVYcHEAVY VERTICAL AND RIGHT"⟩,
  ⟨0x2524, "BOX DRAWINGS LIGHT VERTICAL AND LEFTcVERTICAL LIGHT AND LEFT HEAVY"⟩,
  ⟨0x2526, "BOX DRAWINGS UP HEAVY AND LEFT DOWN LIGHTcDOWN HEAVY AND LEFT UP LIGHT"⟩,
  ⟨0x2528, "BOX DRAWINGS VERTICAL HEAVY AND LEFT LIGHTcDOWN LIGHT AND LEFT UP HEAVY"⟩,
  ⟨0x252A, "BOX DRAWINGS UP LIGHT AND LEFT DOWN HEAVYcHEAVY VERTICAL AND LEFT"⟩,
  ⟨0x252C, "BOX DRAWINGS LIGHT DOWN AND HORIZONTALcLEFT HEAVY AND RIGHT DOWN LIGHT"⟩,
  ⟨0x252E, "BOX DRAWINGS RIGHT HEAVY AND LEFT DOWN LIGHTcDOWN LIGHT AND HORIZONTAL HEAVY"⟩,
  ⟨0x2530, "BOX DRAWINGS DOWN HEAVY AND HORIZONTAL LIGHTcRIGHT LIGHT AND LEFT DOWN HEAVY"⟩,
  ⟨0x2532, "BOX DRAWINGS LEFT LIGHT AND RIGHT DOWN HEAVYcHEAVY DOWN AND HORIZONTAL"⟩,
  ⟨0x2534, "BOX DRAWINGS LIGHT UP AND HORIZONTALcLEFT HEAVY AND RIGHT UP LIGHT"⟩,
  ⟨0x2536, "BOX DRAWINGS RIGHT HEAVY AND LEFT UP LIGHTcUP LIGHT AND HORIZONTAL HEAVY"⟩,
  ⟨0x2538, "BOX DRAWINGS UP HEAVY AND HORIZONTAL LIGHTcRIGHT LIGHT AND LEFT UP HEAVY"⟩,
  ⟨0x253A, "BOX DRAWINGS LEFT LIGHT AND RIGHT UP HEAVYcHEAVY UP AND HORIZONTAL"⟩,
  ⟨0x253C, "BOX DRAWINGS LIGHT VERTICAL AND HORIZONTALcLEFT HEAVY AND RIGHT VERTICAL LIGHT"⟩,
  ⟨0x253E, "BOX DRAWINGS RIGHT HEAVY AND LEFT VERTICAL LIGHTcVERTICAL LIGHT AND HORIZONTAL HEAVY"⟩,
  ⟨0x2540, "BOX DRAWINGS UP HEAVY AND DOWN HORIZONTAL LIGHTcDOWN HEAVY AND UP HORIZONTAL LIGHT"⟩,
  ⟨0x2542, "BOX DRAWINGS VERTICAL HEAVY AND HORIZONTAL LIGHTcLEFT UP HEAVY AND RIGHT DOWN LIGHT"⟩,
  ⟨0x2544, "BOX DRAWINGS RIGHT UP HEAVY AND LEFT DOWN LIGHTcLEFT DOWN HEAVY AND RIGHT UP LIGHT"⟩,
  ⟨0x2546, "BOX DRAWINGS RIGHT DOWN HEAVY AND LEFT UP LIGHTcDOWN LIGHT AND UP HORIZONTAL HEAVY"⟩,
  ⟨0x2548, "BOX DRAWINGS UP LIGHT AND DOWN HORIZONTAL HEAVYcRIGHT LIGHT AND LEFT VERTICAL HEAVY"⟩,
  ⟨0x254A, "BOX DRAWINGS LEFT LIGHT AND RIGHT VERTICAL HEAVYcHEAVY VERTICAL AND HORIZONTAL"⟩,
  ⟨0x254C, "BOX DRAWINGS LIGHT DOUBLE DASH HORIZONTALcHEAVY DOUBLE DASH HORIZONTAL"⟩,
  ⟨0x254E, "BOX DRAWINGS LIGHT DOUBLE DASH VERTICALcHEAVY DOUBLE DASH VERTICALcDOUBLE HORIZONTAL"⟩,
  ⟨0x2551, "BOX DRAWINGS DOUBLE VERTICALcDOWN SINGLE AND RIGHT DOUBLEdDOUBLE AND RIGHT SINGLE"⟩,
  ⟨0x2554, "BOX DRAWINGS DOUBLE DOWN AND RIGHTcDOWN SINGLE AND LEFT DOUBLEdDOUBLE AND LEFT SINGLE"⟩,
  ⟨0x2557, "BOX DRAWINGS DOUBLE DOWN AND LEFTcUP SINGLE AND RIGHT DOUBLEdDOUBLE AND RIGHT SINGLE"⟩,
  ⟨0x255A, "BOX DRAWINGS DOUBLE UP AND RIGHTcUP SINGLE AND LEFT DOUBLEdDOUBLE AND LEFT SINGLE"⟩,
  ⟨0x255D, "BOX DRAWINGS DOUBLE UP AND LEFTcVERTICAL SINGLE AND RIGHT DOUBLE"⟩,
  ⟨0x255F, "BOX DRAWINGS VERTICAL DOUBLE AND RIGHT SINGLEcDOUBLE VERTICAL AND RIGHT"⟩,
  ⟨0x2561, "BOX DRAWINGS VERTICAL SINGLE AND LEFT DOUBLEdDOUBLE AND LEFT SINGLE"⟩,
  ⟨0x2563, "BOX DRAWINGS DOUBLE VERTICAL AND LEFTcDOWN SINGLE AND HORIZONTAL DOUBLE"⟩,
  ⟨0x2565, "BOX DRAWINGS DOWN DOUBLE AND HORIZONTAL SINGLEcDOUBLE DOWN AND HORIZONTAL"⟩,
  ⟨0x2567, "BOX DRAWINGS UP SINGLE AND HORIZONTAL DOUBLEdDOUBLE AND HORIZONTAL SINGLE"⟩,
  ⟨0x2569, "BOX DRAWINGS DOUBLE UP AND HORIZONTALcVERTICAL SINGLE AND HORIZONTAL DOUBLE"⟩,
  ⟨0x256B, "BOX DRAWINGS VERTICAL DOUBLE AND HORIZONTAL SINGLEcDOUBLE VERTICAL AND HORIZONTAL"⟩,
  ⟨0x256D, "BOX DRAWINGS LIGHT ARC DOWN AND RIGHTgLEFTeUP AND LEFTgRIGHT"⟩,
  ⟨0x2571, "BOX DRAWINGS LIGHT DIAGONAL UPPER RIGHT TO LOWER LEFTfLEFT TO LOWER RIGHTeCROSSdLEFT"⟩,
  ⟨0x2575, "BOX DRAWINGS LIGHT UPdRIGHTdDOWNcHEAVY LEFTdUPdRIGHTdDOWNcLIGHT LEFT AND HEAVY RIGHT"⟩,
  ⟨0x257D, "BOX DRAWINGS LIGHT UP AND HEAVY DOWNcHEAVY LEFT AND LIGHT RIGHTdUP AND LIGHT DOWN"⟩,
  ⟨0x2580, "UPPER HALF BLOCKaLOWER ONE EIGHTH BLOCKcQUARTER BLOCKbTHREE EIGHTHS BLOCKbHALF BLOCK"⟩,
  ⟨0x2585, "LOWER FIVE EIGHTHS BLOCKbTHREE QUARTERS BLOCKbSEVEN EIGHTHS BLOCKaFULL BLOCK"⟩,
  ⟨0x2589, "LEFT SEVEN EIGHTHS BLOCKbTHREE QUARTERS BLOCKbFIVE EIGHTHS BLOCKbHALF BLOCK"⟩,
  ⟨0x258D, "LEFT THREE EIGHTHS BLOCKbONE QUARTER BLOCKcEIGHTH BLOCKaRIGHT HALF BLOCKaLIGHT SHADE"⟩,
  ⟨0x2592, "MEDIUM SHADEaDARK SHADEaUPPER ONE EIGHTH BLOCKaRIGHT ONE EIGHTH BLOCK"⟩,
  ⟨0x2596, "QUADRANT LOWER LEFTcRIGHTbUPPER LEFTcLEFT AND LOWER LEFT AND LOWER RIGHTfRIGHT"⟩,
  ⟨0x259B, "QUADRANT UPPER LEFT AND UPPER RIGHT AND LOWER LEFTiRIGHTcRIGHTcRIGHT AND LOWER LEFT"⟩,
  ⟨0x259F, "QUADRANT UPPER RIGHT AND LOWER LEFT AND LOWER RIGHTaBLACK SQUAREaWHITE SQUARE"⟩,
  ⟨0x25A2, "WHITE SQUARE WITH ROUNDED CORNERScCONTAINING BLACK SMALL SQUARE"⟩,
  ⟨0x25A4, "SQUARE WITH HORIZONTAL FILLcVERTICAL FILLcORTHOGONAL CROSSHATCH FILL"⟩,
  ⟨0x25A7, "SQUARE WITH UPPER LEFT TO LOWER RIGHT FILLdRIGHT TO LOWER LEFT FILL"⟩,
  ⟨0x25A9, "SQUARE WITH DIAGONAL CROSSHATCH FILLaBLACK SMALL SQUAREaWHITE SMALL SQUARE"⟩,
  ⟨0x25AC, "BLACK RECTANGLEaWHITE RECTANGLEaBLACK VERTICAL RECTANGLEaWHITE VERTICAL RECTANGLE"⟩,
  ⟨0x25B0, "BLACK PARALLELOGRAMaWHITE PARALLELOGRAMaBLACK UP-POINTING TRIANGLE"⟩,
  ⟨0x25B3, "WHITE UP-POINTING TRIANGLEaBLACK UP-POINTING SMALL TRIANGLE"⟩,
  ⟨0x25B5, "WHITE UP-POINTING SMALL TRIANGLEaBLACK RIGHT-POINTING TRIANGLE"⟩,
  ⟨0x25B7, "WHITE RIGHT-POINTING TRIANGLEaBLACK RIGHT-POINTING SMALL TRIANGLE"⟩,
  ⟨0x25B9, "WHITE RIGHT-POINTING SMALL TRIANGLEaBLACK RIGHT-POINTING POINTER"⟩,
  ⟨0x25BB, "WHITE RIGHT-POINTING POINTERaBLACK DOWN-POINTING TRIANGLE"⟩,
  ⟨0x25BD, "WHITE DOWN-POINTING TRIANGLEaBLACK DOWN-POINTING SMALL TRIANGLE"⟩,
  ⟨0x25BF, "WHITE DOWN-POINTING SMALL TRIANGLEaBLACK LEFT-POINTING TRIANGLE"⟩,
  ⟨0x25C1, "WHITE LEFT-POINTING TRIANGLEaBLACK LEFT-POINTING SMALL TRIANGLE"⟩,
  ⟨0x25C3, "WHITE LEFT-POINTING SMALL TRIANGLEaBLACK LEFT-POINTING POINTER"⟩,
  ⟨0x25C5, "WHITE LEFT-POINTING POINTERaBLACK DIAMONDaWHITE DIAMOND"⟩,
  ⟨0x25C8, "WHITE DIAMOND CONTAINING BLACK SMALL DIAMONDaFISHEYEaLOZENGEaWHITE CIRCLE"⟩,
  ⟨0x25CC, "DOTTED CIRCLEaCIRCLE WITH VERTICAL FILLaBULLSEYEaBLACK CIRCLE"⟩,
  ⟨0x25D0, "CIRCLE WITH LEFT HALF BLACKcRIGHT HALF BLACKcLOWER HALF BLACKcUPPER HALF BLACK"⟩,
  ⟨0x25D4, "CIRCLE WITH UPPER RIGHT QUADRANT BLACKcALL BUT UPPER LEFT QUADRANT BLACK"⟩,
  ⟨0x25D6, "LEFT HALF BLACK CIRCLEaRIGHT HALF BLACK CIRCLEaINVERSE BULLETbWHITE CIRCLE"⟩,
  ⟨0x25DA, "UPPER HALF INVERSE WHITE CIRCLEaLOWER HALF INVERSE WHITE CIRCLE"⟩,
  ⟨0x25DC, "UPPER LEFT QUADRANT CIRCULAR ARCbRIGHT QUADRANT CIRCULAR ARC"⟩,
  ⟨0x25DE, "LOWER RIGHT QUADRANT CIRCULAR ARCbLEFT QUADRANT CIRCULAR ARCaUPPER HALF CIRCLE"⟩,
  ⟨0x25E1, "LOWER HALF CIRCLEaBLACK LOWER RIGHT TRIANGLEcLEFT TRIANGLEbUPPER LEFT TRIANGLE"⟩,
  ⟨0x25E5, "BLACK UPPER RIGHT TRIANGLEaWHITE BULLETaSQUARE WITH LEFT HALF BLACKcRIGHT HALF BLACK"⟩,
  ⟨0x25E9, "SQUARE WITH UPPER LEFT DIAGONAL HALF BLACKcLOWER RIGHT DIAGONAL HALF BLACK"⟩,
  ⟨0x25EB, "WHITE SQUARE WITH VERTICAL BISECTING LINEbUP-POINTING TRIANGLE WITH DOT"⟩,
  ⟨0x25ED, "UP-POINTING TRIANGLE WITH LEFT HALF BLACKeRIGHT HALF BLACKaLARGE CIRCLE"⟩,
  ⟨0x25F0, "WHITE SQUARE WITH UPPER LEFT QUADRANTdLOWER LEFT QUADRANTeRIGHT QUADRANT"⟩,
  ⟨0x25F3, "WHITE SQUARE WITH UPPER RIGHT QUADRANTbCIRCLE WITH UPPER LEFT QUADRANT"⟩,
  ⟨0x25F5, "WHITE CIRCLE WITH LOWER LEFT QUADRANTeRIGHT QUADRANTdUPPER RIGHT QUADRANT"⟩,
  ⟨0x25F8, "UPPER LEFT TRIANGLEbRIGHT TRIANGLEaLOWER LEFT TRIANGLEaWHITE MEDIUM SQUARE"⟩,
  ⟨0x25FC, "BLACK MEDIUM SQUAREaWHITE MEDIUM SMALL SQUAREaBLACK MEDIUM SMALL SQUARE"⟩,
  ⟨0x25FF, "LOWER RIGHT TRIANGLEaBLACK SUN WITH RAYSaCLOUDaUMBRELLAaSNOWMANaCOMETaBLACK STAR"⟩,
  ⟨0x2606, "WHITE STARaLIGHTNINGaTHUNDERSTORMaSUNaASCENDING NODEaDESCENDING NODEaCONJUNCTION"⟩,
  ⟨0x260D, "OPPOSITIONaBLACK TELEPHONEaWHITE TELEPHONEaBALLOT BOXbBOX WITH CHECKdXaSALTIRE"⟩,
  ⟨0x2614, "UMBRELLA WITH RAIN DROPSaHOT BEVERAGEaWHITE SHOGI PIECEaBLACK SHOGI PIECEaSHAMROCK"⟩,
  ⟨0x2619, "REVERSED ROTATED FLORAL HEART BULLETaBLACK LEFT POINTING INDEXbRIGHT POINTING INDEX"⟩,
  ⟨0x261C, "WHITE LEFT POINTING INDEXbUP POINTING INDEXbRIGHT POINTING INDEXbDOWN POINTING INDEX"⟩,
  ⟨0x2620, "SKULL AND CROSSBONESaCAUTION SIGNaRADIOACTIVE SIGNaBIOHAZARD SIGNaCADUCEUSaANKH"⟩,
  ⟨0x2626, "ORTHODOX CROSSaCHI RHOaCROSS OF LORRAINEcJERUSALEMaSTAR AND CRESCENTaFARSI SYMBOL"⟩,
  ⟨0x262C, "ADI SHAKTIaHAMMER AND SICKLEaPEACE SYMBOLaYIN YANGaTRIGRAM FOR HEAVENcLAKEcFIRE"⟩,
  ⟨0x2633, "TRIGRAM FOR THUNDERcWINDcWATERcMOUNTAINcEARTHaWHEEL OF DHARMAaWHITE FROWNING FACE"⟩,
  ⟨0x263A, "WHITE SMILING FACEaBLACK SMILING FACEaWHITE SUN WITH RAYSaFIRST QUARTER MOON"⟩,
  ⟨0x263E, "LAST QUARTER MOONaMERCURYaFEMALE SIGNaEARTHaMALE SIGNaJUPITERaSATURNaURANUSaNEPTUNE"⟩,
  ⟨0x2647, "PLUTOaARIESaTAURUSaGEMINIaCANCERaLEOaVIRGOaLIBRAaSCORPIUSaSAGITTARIUSaCAPRICORN"⟩,
  ⟨0x2652, "AQUARIUSaPISCESaWHITE CHESS KINGcQUEENcROOKcBISHOPcKNIGHTcPAWNaBLACK CHESS KINGcQUEEN"⟩,
  ⟨0x265C, "BLACK CHESS ROOKcBISHOPcKNIGHTcPAWNbSPADE SUITaWHITE HEART SUITbDIAMOND SUIT"⟩,
  ⟨0x2663, "BLACK CLUB SUITaWHITE SPADE SUITaBLACK HEART SUITbDIAMOND SUITaWHITE CLUB SUIT"⟩,
  ⟨0x2668, "HOT SPRINGSaQUARTER NOTEaEIGHTH NOTEaBEAMED EIGHTH NOTESbSIXTEENTH NOTES"⟩,
  ⟨0x266D, "MUSIC FLAT SIGNbNATURAL SIGNbSHARP SIGNaWEST SYRIAC CROSSaEAST SYRIAC CROSS"⟩,
  ⟨0x2672, "UNIVERSAL RECYCLING SYMBOLaRECYCLING SYMBOL FOR TYPE-1 PLASTICSe2 PLASTICSe3 PLASTICS"⟩,
  ⟨0x2676, "RECYCLING SYMBOL FOR TYPE-4 PLASTICSe5 PLASTICSe6 PLASTICSe7 PLASTICS"⟩,
  ⟨0x267A, "RECYCLING SYMBOL FOR GENERIC MATERIALSaBLACK UNIVERSAL RECYCLING SYMBOL"⟩,
  ⟨0x267C, "RECYCLED PAPER SYMBOLaPARTIALLY-RECYCLED PAPER SYMBOLaPERMANENT PAPER SIGN"⟩,
  ⟨0x267F, "WHEELCHAIR SYMBOLaDIE FACE-1c2c3c4c5c6aWHITE CIRCLE WITH DOT RIGHTdTWO DOTS"⟩,
  ⟨0x2688, "BLACK CIRCLE WITH WHITE DOT RIGHTdTWO WHITE DOTSaMONOGRAM FOR YANGcYIN"⟩,
  ⟨0x268C, "DIGRAM FOR GREATER YANGcLESSER YINdYANGcGREATER YINaWHITE FLAGaBLACK FLAG"⟩,
  ⟨0x2692, "HAMMER AND PICKaANCHORaCROSSED SWORDSaSTAFF OF AESCULAPIUSaSCALESaALEMBICaFLOWERaGEAR"⟩,
  ⟨0x269A, "STAFF OF HERMESaATOM SYMBOLaFLEUR-DE-LISaOUTLINED WHITE STAR"⟩,
  ⟨0x269E, "THREE LINES CONVERGING RIGHTdLEFTaWARNING SIGNaHIGH VOLTAGE SIGNaDOUBLED FEMALE SIGN"⟩,
  ⟨0x26A3, "DOUBLED MALE SIGNaINTERLOCKED FEMALE AND MALE SIGNaMALE AND FEMALE SIGN"⟩,
  ⟨0x26A6, "MALE WITH STROKE SIGNdAND MALE AND FEMALE SIGNaVERTICAL MALE WITH STROKE SIGN"⟩,
  ⟨0x26A9, "HORIZONTAL MALE WITH STROKE SIGNaMEDIUM WHITE CIRCLEbBLACK CIRCLEbSMALL WHITE CIRCLE"⟩,
  ⟨0x26AD, "MARRIAGE SYMBOLaDIVORCE SYMBOLaUNMARRIED PARTNERSHIP SYMBOLaCOFFINaFUNERAL URNaNEUTER"⟩,
  ⟨0x26B3, "CERESaPALLASaJUNOaVESTAaCHIRONaBLACK MOON LILITHaSEXTILEaSEMISEXTILEaQUINCUNX"⟩,
  ⟨0x26BC, "SESQUIQUADRATEaSOCCER BALLaBASEBALLaSQUARED KEYaWHITE DRAUGHTS MANcKING"⟩,
  ⟨0x26C2, "BLACK DRAUGHTS MANcKINGaSNOWMAN WITHOUT SNOWaSUN BEHIND CLOUDaRAINaBLACK SNOWMAN"⟩,
  ⟨0x26C8, "THUNDER CLOUD AND RAINaTURNED WHITE SHOGI PIECEbBLACK SHOGI PIECE"⟩,
  ⟨0x26CB, "WHITE DIAMOND IN SQUAREaCROSSING LANESaDISABLED CARaOPHIUCHUSaPICKaCAR SLIDING"⟩,
  ⟨0x26D1, "HELMET WITH WHITE CROSSaCIRCLED CROSSING LANESaCHAINSaNO ENTRY"⟩,
  ⟨0x26D5, "ALTERNATE ONE-WAY LEFT WAY TRAFFICaBLACK TWO-WAY LEFT WAY TRAFFIC"⟩,
  ⟨0x26D7, "WHITE TWO-WAY LEFT WAY TRAFFICaBLACK LEFT LANE MERGEaWHITE LEFT LANE MERGE"⟩,
  ⟨0x26DA, "DRIVE SLOW SIGNaHEAVY WHITE DOWN-POINTING TRIANGLEaLEFT CLOSED ENTRYaSQUARED SALTIRE"⟩,
  ⟨0x26DE, "FALLING DIAGONAL IN WHITE CIRCLE IN BLACK SQUAREaBLACK TRUCKaRESTRICTED LEFT ENTRY-1"⟩,
  ⟨0x26E1, "RESTRICTED LEFT ENTRY-2aASTRONOMICAL SYMBOL FOR URANUS"⟩,
  ⟨0x26E3, "HEAVY CIRCLE WITH STROKE AND TWO DOTS ABOVEaPENTAGRAM"⟩,
  ⟨0x26E5, "RIGHT-HANDED INTERLACED PENTAGRAMaLEFT-HANDED INTERLACED PENTAGRAMaINVERTED PENTAGRAM"⟩,
  ⟨0x26E8, "BLACK CROSS ON SHIELDaSHINTO SHRINEaCHURCHaCASTLEaHISTORIC SITEaGEAR WITHOUT HUB"⟩,
  ⟨0x26EE, "GEAR WITH HANDLESaMAP SYMBOL FOR LIGHTHOUSEaMOUNTAINaUMBRELLA ON GROUNDaFOUNTAIN"⟩,
  ⟨0x26F3, "FLAG IN HOLEaFERRYaSAILBOATaSQUARE FOUR CORNERSaSKIERaICE SKATEaPERSON WITH BALLaTENT"⟩,
  ⟨0x26FB, "JAPANESE BANK SYMBOLaHEADSTONE GRAVEYARD SYMBOLaFUEL PUMPaCUP ON BLACK SQUARE"⟩,
  ⟨0x26FF, "WHITE FLAG WITH HORIZONTAL MIDDLE BLACK STRIPEaBLACK SAFETY SCISSORS"⟩,
  ⟨0x2701, "UPPER BLADE SCISSORSaBLACK SCISSORSaLOWER BLADE SCISSORSaWHITE SCISSORS"⟩,
  ⟨0x2705, "WHITE HEAVY CHECK MARKaTELEPHONE LOCATION SIGNaTAPE DRIVEaAIRPLANEaENVELOPE"⟩,
  ⟨0x270A, "RAISED FISTbHANDaVICTORY HANDaWRITING HANDaLOWER RIGHT PENCILaPENCIL"⟩,
  ⟨0x2710, "UPPER RIGHT PENCILaWHITE NIBaBLACK NIBaCHECK MARKaHEAVY CHECK MARKaMULTIPLICATION X"⟩,
  ⟨0x2716, "HEAVY MULTIPLICATION XaBALLOT XaHEAVY BALLOT XaOUTLINED GREEK CROSSaHEAVY GREEK CROSS"⟩,
  ⟨0x271B, "OPEN CENTRE CROSSaHEAVY OPEN CENTRE CROSSaLATIN CROSSaSHADOWED WHITE LATIN CROSS"⟩,
  ⟨0x271F, "OUTLINED LATIN CROSSaMALTESE CROSSaSTAR OF DAVIDaFOUR TEARDROP-SPOKED ASTERISK"⟩,
  ⟨0x2723, "FOUR BALLOON-SPOKED ASTERISKaHEAVY FOUR BALLOON-SPOKED ASTERISK"⟩,
  ⟨0x2725, "FOUR CLUB-SPOKED ASTERISKaBLACK FOUR POINTED STARaWHITE FOUR POINTED STARaSPARKLES"⟩,
  ⟨0x2729, "STRESS OUTLINED WHITE STARaCIRCLED WHITE STARaOPEN CENTRE BLACK STAR"⟩,
  ⟨0x272C, "BLACK CENTRE WHITE STARaOUTLINED BLACK STARaHEAVY OUTLINED BLACK STARaPINWHEEL STAR"⟩,
  ⟨0x2730, "SHADOWED WHITE STARaHEAVY ASTERISKaOPEN CENTRE ASTERISKaEIGHT SPOKED ASTERISK"⟩,
  ⟨0x2734, "EIGHT POINTED BLACK STARcPINWHEEL STARaSIX POINTED BLACK STAR"⟩,
  ⟨0x2737, "EIGHT POINTED RECTILINEAR BLACK STARaHEAVY EIGHT POINTED RECTILINEAR BLACK STAR"⟩,
  ⟨0x2739, "TWELVE POINTED BLACK STARaSIXTEEN POINTED ASTERISKaTEARDROP-SPOKED ASTERISK"⟩,
  ⟨0x273C, "OPEN CENTRE TEARDROP-SPOKED ASTERISKaHEAVY TEARDROP-SPOKED ASTERISK"⟩,
  ⟨0x273E, "SIX PETALLED BLACK AND WHITE FLORETTEaBLACK FLORETTEaWHITE FLORETTE"⟩,
  ⟨0x2741, "EIGHT PETALLED OUTLINED BLACK FLORETTEaCIRCLED OPEN CENTRE EIGHT POINTED STAR"⟩,
  ⟨0x2743, "HEAVY TEARDROP-SPOKED PINWHEEL ASTERISKaSNOWFLAKEaTIGHT TRIFOLIATE SNOWFLAKE"⟩,
  ⟨0x2746, "HEAVY CHEVRON SNOWFLAKEaSPARKLEaHEAVY SPARKLEaBALLOON-SPOKED ASTERISK"⟩,
  ⟨0x274A, "EIGHT TEARDROP-SPOKED PROPELLER ASTERISK"⟩,
  ⟨0x274B, "HEAVY EIGHT TEARDROP-SPOKED PROPELLER ASTERISKaCROSS MARKaSHADOWED WHITE CIRCLE"⟩,
  ⟨0x274E, "NEGATIVE SQUARED CROSS MARKaLOWER RIGHT DROP-SHADOWED WHITE SQUARE"⟩,
  ⟨0x2750, "UPPER RIGHT DROP-SHADOWED WHITE SQUAREaLOWER RIGHT SHADOWED WHITE SQUARE"⟩,
  ⟨0x2752, "UPPER RIGHT SHADOWED WHITE SQUAREaBLACK QUESTION MARK ORNAMENT"⟩,
  ⟨0x2754, "WHITE QUESTION MARK ORNAMENTbEXCLAMATION MARK ORNAMENTaBLACK DIAMOND MINUS WHITE X"⟩,
  ⟨0x2757, "HEAVY EXCLAMATION MARK SYMBOLaLIGHT VERTICAL BARaMEDIUM VERTICAL BAR"⟩,
  ⟨0x275A, "HEAVY VERTICAL BARbSINGLE TURNED COMMA QUOTATION MARK ORNAMENT"⟩,
  ⟨0x275C, "HEAVY SINGLE COMMA QUOTATION MARK ORNAMENT"⟩,
  ⟨0x275D, "HEAVY DOUBLE TURNED COMMA QUOTATION MARK ORNAMENTcCOMMA QUOTATION MARK ORNAMENT"⟩,
  ⟨0x275F, "HEAVY LOW SINGLE COMMA QUOTATION MARK ORNAMENTcDOUBLE COMMA QUOTATION MARK ORNAMENT"⟩,
  ⟨0x2761, "CURVED STEM PARAGRAPH SIGN ORNAMENTaHEAVY EXCLAMATION MARK ORNAMENT"⟩,
  ⟨0x2763, "HEAVY HEART EXCLAMATION MARK ORNAMENTbBLACK HEARTaROTATED HEAVY BLACK HEART BULLET"⟩,
  ⟨0x2766, "FLORAL HEARTaROTATED FLORAL HEART BULLETaMEDIUM LEFT PARENTHESIS ORNAMENT"⟩,
  ⟨0x2769, "MEDIUM RIGHT PARENTHESIS ORNAMENTbFLATTENED LEFT PARENTHESIS ORNAMENT"⟩,
  ⟨0x276B, "MEDIUM FLATTENED RIGHT PARENTHESIS ORNAMENTbLEFT-POINTING ANGLE BRACKET ORNAMENT"⟩,
  ⟨0x276D, "MEDIUM RIGHT-POINTING ANGLE BRACKET ORNAMENT"⟩,
  ⟨0x276E, "HEAVY LEFT-POINTING ANGLE QUOTATION MARK ORNAMENT"⟩,
  ⟨0x276F, "HEAVY RIGHT-POINTING ANGLE QUOTATION MARK ORNAMENT"⟩,
  ⟨0x2770, "HEAVY LEFT-POINTING ANGLE BRACKET ORNAMENTbRIGHT-POINTING ANGLE BRACKET ORNAMENT"⟩,
  ⟨0x2772, "LIGHT LEFT TORTOISE SHELL BRACKET ORNAMENTbRIGHT TORTOISE SHELL BRACKET ORNAMENT"⟩,
  ⟨0x2774, "MEDIUM LEFT CURLY BRACKET ORNAMENTbRIGHT CURLY BRACKET ORNAMENT"⟩,
  ⟨0x2776, "DINGBAT NEGATIVE CIRCLED DIGIT ONEeTWOeTHREEeFOUReFIVEeSIXeSEVENeEIGHTeNINE"⟩,
  ⟨0x277F, "DINGBAT NEGATIVE CIRCLED NUMBER TENbCIRCLED SANS-SERIF DIGIT ONEfTWOfTHREEfFOURfFIVE"⟩,
  ⟨0x2785, "DINGBAT CIRCLED SANS-SERIF DIGIT SIXfSEVENfEIGHTfNINEeNUMBER TEN"⟩,
  ⟨0x278A, "DINGBAT NEGATIVE CIRCLED SANS-SERIF DIGIT ONEgTWOgTHREEgFOURgFIVEgSIXgSEVENgEIGHT"⟩,
  ⟨0x2792, "DINGBAT NEGATIVE CIRCLED SANS-SERIF DIGIT NINEfNUMBER TEN"⟩,
  ⟨0x2794, "HEAVY WIDE-HEADED RIGHTWARDS ARROWbPLUS SIGNbMINUS SIGNbDIVISION SIGN"⟩,
  ⟨0x2798, "HEAVY SOUTH EAST ARROWbRIGHTWARDS ARROWbNORTH EAST ARROW"⟩,
  ⟨0x279B, "DRAFTING POINT RIGHTWARDS ARROWaHEAVY ROUND-TIPPED RIGHTWARDS ARROW"⟩,
  ⟨0x279D, "TRIANGLE-HEADED RIGHTWARDS ARROWaHEAVY TRIANGLE-HEADED RIGHTWARDS ARROW"⟩,
  ⟨0x279F, "DASHED TRIANGLE-HEADED RIGHTWARDS ARROWaHEAVY DASHED TRIANGLE-HEADED RIGHTWARDS ARROW"⟩,
  ⟨0x27A1, "BLACK RIGHTWARDS ARROWaTHREE-D TOP-LIGHTED RIGHTWARDS ARROWHEAD"⟩,
  ⟨0x27A3, "THREE-D BOTTOM-LIGHTED RIGHTWARDS ARROWHEADaBLACK RIGHTWARDS ARROWHEAD"⟩,
  ⟨0x27A5, "HEAVY BLACK CURVED DOWNWARDS AND RIGHTWARDS ARROWdUPWARDS AND RIGHTWARDS ARROW"⟩,
  ⟨0x27A7, "SQUAT BLACK RIGHTWARDS ARROWaHEAVY CONCAVE-POINTED BLACK RIGHTWARDS ARROW"⟩,
  ⟨0x27A9, "RIGHT-SHADED WHITE RIGHTWARDS ARROWaLEFT-SHADED WHITE RIGHTWARDS ARROW"⟩,
  ⟨0x27AB, "BACK-TILTED SHADOWED WHITE RIGHTWARDS ARROW"⟩,
  ⟨0x27AC, "FRONT-TILTED SHADOWED WHITE RIGHTWARDS ARROW"⟩,
  ⟨0x27AD, "HEAVY LOWER RIGHT-SHADOWED WHITE RIGHTWARDS ARROW"⟩,
  ⟨0x27AE, "HEAVY UPPER RIGHT-SHADOWED WHITE RIGHTWARDS ARROW"⟩,
  ⟨0x27AF, "NOTCHED LOWER RIGHT-SHADOWED WHITE RIGHTWARDS ARROWaCURLY LOOP"⟩,
  ⟨0x27B1, "NOTCHED UPPER RIGHT-SHADOWED WHITE RIGHTWARDS ARROW"⟩,
  ⟨0x27B2, "CIRCLED HEAVY WHITE RIGHTWARDS ARROWaWHITE-FEATHERED RIGHTWARDS ARROW"⟩,
  ⟨0x27B4, "BLACK-FEATHERED SOUTH EAST ARROWcRIGHTWARDS ARROWcNORTH EAST ARROW"⟩,
  ⟨0x27B7, "HEAVY BLACK-FEATHERED SOUTH EAST ARROWdRIGHTWARDS ARROWdNORTH EAST ARROW"⟩,
  ⟨0x27BA, "TEARDROP-BARBED RIGHTWARDS ARROWaHEAVY TEARDROP-SHANKED RIGHTWARDS ARROW"⟩,
  ⟨0x27BC, "WEDGE-TAILED RIGHTWARDS ARROWaHEAVY WEDGE-TAILED RIGHTWARDS ARROW"⟩,
  ⟨0x27BE, "OPEN-OUTLINED RIGHTWARDS ARROWaDOUBLE CURLY LOOPaTHREE DIMENSIONAL ANGLE"⟩,
  ⟨0x27C1, "WHITE TRIANGLE CONTAINING SMALL WHITE TRIANGLEaPERPENDICULARaOPEN SUBSETbSUPERSET"⟩,
  ⟨0x27C5, "LEFT S-SHAPED BAG DELIMITERaRIGHT S-SHAPED BAG DELIMITERaOR WITH DOT INSIDE"⟩,
  ⟨0x27C8, "REVERSE SOLIDUS PRECEDING SUBSETaSUPERSET PRECEDING SOLIDUS"⟩,
  ⟨0x27CA, "VERTICAL BAR WITH HORIZONTAL STROKEaMATHEMATICAL RISING DIAGONALaLONG DIVISION"⟩,
  ⟨0x27CD, "MATHEMATICAL FALLING DIAGONALaSQUARED LOGICAL ANDcORaWHITE DIAMOND WITH CENTRED DOT"⟩,
  ⟨0x27D1, "AND WITH DOTaELEMENT OF OPENING UPWARDSaLOWER RIGHT CORNER WITH DOT"⟩,
  ⟨0x27D4, "UPPER LEFT CORNER WITH DOTaLEFT OUTER JOINaRIGHT OUTER JOINaFULL OUTER JOIN"⟩,
  ⟨0x27D8, "LARGE UP TACKbDOWN TACKaLEFT AND RIGHT DOUBLE TURNSTILEdTACKbMULTIMAPaLONG RIGHT TACK"⟩,
  ⟨0x27DE, "LONG LEFT TACKaUP TACK WITH CIRCLE ABOVEaLOZENGE DIVIDED BY HORIZONTAL RULE"⟩,
  ⟨0x27E1, "WHITE CONCAVE-SIDED DIAMONDdDIAMOND WITH LEFTWARDS TICKfRIGHTWARDS TICK"⟩,
  ⟨0x27E4, "WHITE SQUARE WITH LEFTWARDS TICKdRIGHTWARDS TICK"⟩,
  ⟨0x27E6, "MATHEMATICAL LEFT WHITE SQUARE BRACKETbRIGHT WHITE SQUARE BRACKETbLEFT ANGLE BRACKET"⟩,
  ⟨0x27E9, "MATHEMATICAL RIGHT ANGLE BRACKETbLEFT DOUBLE ANGLE BRACKETbRIGHT DOUBLE ANGLE BRACKET"⟩,
  ⟨0x27EC, "MATHEMATICAL LEFT WHITE TORTOISE SHELL BRACKETbRIGHT WHITE TORTOISE SHELL BRACKET"⟩,
  ⟨0x27EE, "MATHEMATICAL LEFT FLATTENED PARENTHESISbRIGHT FLATTENED PARENTHESIS"⟩,
  ⟨0x27F0, "UPWARDS QUADRUPLE ARROWaDOWNWARDS QUADRUPLE ARROWaANTICLOCKWISE GAPPED CIRCLE ARROW"⟩,
  ⟨0x27F3, "CLOCKWISE GAPPED CIRCLE ARROWaRIGHT ARROW WITH CIRCLED PLUSaLONG LEFTWARDS ARROW"⟩,
  ⟨0x27F6, "LONG RIGHTWARDS ARROWbLEFT RIGHT ARROWbLEFTWARDS DOUBLE ARROWbRIGHTWARDS DOUBLE ARROW"⟩,
  ⟨0x27FA, "LONG LEFT RIGHT DOUBLE ARROWbLEFTWARDS ARROW FROM BARbRIGHTWARDS ARROW FROM BAR"⟩,
  ⟨0x27FD, "LONG LEFTWARDS DOUBLE ARROW FROM BARbRIGHTWARDS DOUBLE ARROW FROM BARcSQUIGGLE ARROW"⟩,
  ⟨0x2800, "BRAILLE PATTERN BLANKcDOTS-1d2d12d3d13d23d123d4d14d24d124d34d134d234d1234d5d15d25d125"⟩,
  ⟨0x2814, "BRAILLE PATTERN DOTS-35d135d235d1235d45d145d245d1245d345d1345d2345d12345d6d16d26d126"⟩,
  ⟨0x2824, "BRAILLE PATTERN DOTS-36d136d236d1236d46d146d246d1246d346d1346d2346d12346d56d156d256"⟩,
  ⟨0x2833, "BRAILLE PATTERN DOTS-1256d356d1356d2356d12356d456d1456d2456d12456d3456d13456d23456"⟩,
  ⟨0x283F, "BRAILLE PATTERN DOTS-123456d7d17d27d127d37d137d237d1237d47d147d247d1247d347d1347d2347"⟩,
  ⟨0x284F, "BRAILLE PATTERN DOTS-12347d57d157d257d1257d357d1357d2357d12357d457d1457d2457d12457"⟩,
  ⟨0x285C, "BRAILLE PATTERN DOTS-3457d13457d23457d123457d67d167d267d1267d367d1367d2367d12367d467"⟩,
  ⟨0x2869, "BRAILLE PATTERN DOTS-1467d2467d12467d3467d13467d23467d123467d567d1567d2567d12567d3567"⟩,
  ⟨0x2875, "BRAILLE PATTERN DOTS-13567d23567d123567d4567d14567d24567d124567d34567d134567d234567"⟩,
  ⟨0x287F, "BRAILLE PATTERN DOTS-1234567d8d18d28d128d38d138d238d1238d48d148d248d1248d348d1348"⟩,
  ⟨0x288E, "BRAILLE PATTERN DOTS-2348d12348d58d158d258d1258d358d1358d2358d12358d458d1458d2458"⟩,
  ⟨0x289B, "BRAILLE PATTERN DOTS-12458d3458d13458d23458d123458d68d168d268d1268d368d1368d2368"⟩,
  ⟨0x28A7, "BRAILLE PATTERN DOTS-12368d468d1468d2468d12468d3468d13468d23468d123468d568d1568d2568"⟩,
  ⟨0x28B3, "BRAILLE PATTERN DOTS-12568d3568d13568d23568d123568d4568d14568d24568d124568d34568"⟩,
  ⟨0x28BD, "BRAILLE PATTERN DOTS-134568d234568d1234568d78d178d278d1278d378d1378d2378d12378d478"⟩,
  ⟨0x28C9, "BRAILLE PATTERN DOTS-1478d2478d12478d3478d13478d23478d123478d578d1578d2578d12578d3578"⟩,
  ⟨0x28D5, "BRAILLE PATTERN DOTS-13578d23578d123578d4578d14578d24578d124578d34578d134578d234578"⟩,
  ⟨0x28DF, "BRAILLE PATTERN DOTS-1234578d678d1678d2678d12678d3678d13678d23678d123678d4678d14678"⟩,
  ⟨0x28EA, "BRAILLE PATTERN DOTS-24678d124678d34678d134678d234678d1234678d5678d15678d25678d125678"⟩,
  ⟨0x28F4, "BRAILLE PATTERN DOTS-35678d135678d235678d1235678d45678d145678d245678d1245678d345678"⟩,
  ⟨0x28FD, "BRAILLE PATTERN DOTS-1345678d2345678d12345678"⟩,
  ⟨0x2900, "RIGHTWARDS TWO-HEADED ARROW WITH VERTICAL STROKEfDOUBLE VERTICAL STROKE"⟩,
  ⟨0x2902, "LEFTWARDS DOUBLE ARROW WITH VERTICAL STROKE"⟩,
  ⟨0x2903, "RIGHTWARDS DOUBLE ARROW WITH VERTICAL STROKE"⟩,
  ⟨0x2904, "LEFT RIGHT DOUBLE ARROW WITH VERTICAL STROKEaRIGHTWARDS TWO-HEADED ARROW FROM BAR"⟩,
  ⟨0x2906, "LEFTWARDS DOUBLE ARROW FROM BARaRIGHTWARDS DOUBLE ARROW FROM BAR"⟩,
  ⟨0x2908, "DOWNWARDS ARROW WITH HORIZONTAL STROKEaUPWARDS ARROW WITH HORIZONTAL STROKE"⟩,
  ⟨0x290A, "UPWARDS TRIPLE ARROWaDOWNWARDS TRIPLE ARROWaLEFTWARDS DOUBLE DASH ARROW"⟩,
  ⟨0x290D, "RIGHTWARDS DOUBLE DASH ARROWaLEFTWARDS TRIPLE DASH ARROWaRIGHTWARDS TRIPLE DASH ARROW"⟩,
  ⟨0x2910, "RIGHTWARDS TWO-HEADED TRIPLE DASH ARROWbARROW WITH DOTTED STEMaUPWARDS ARROW TO BAR"⟩,
  ⟨0x2913, "DOWNWARDS ARROW TO BARaRIGHTWARDS ARROW WITH TAIL WITH VERTICAL STROKE"⟩,
  ⟨0x2915, "RIGHTWARDS ARROW WITH TAIL WITH DOUBLE VERTICAL STROKEbTWO-HEADED ARROW WITH TAIL"⟩,
  ⟨0x2917, "RIGHTWARDS TWO-HEADED ARROW WITH TAIL WITH VERTICAL STROKEhDOUBLE VERTICAL STROKE"⟩,
  ⟨0x2919, "LEFTWARDS ARROW-TAILaRIGHTWARDS ARROW-TAILaLEFTWARDS DOUBLE ARROW-TAIL"⟩,
  ⟨0x291C, "RIGHTWARDS DOUBLE ARROW-TAILaLEFTWARDS ARROW TO BLACK DIAMOND"⟩,
  ⟨0x291E, "RIGHTWARDS ARROW TO BLACK DIAMONDaLEFTWARDS ARROW FROM BAR TO BLACK DIAMOND"⟩,
  ⟨0x2920, "RIGHTWARDS ARROW FROM BAR TO BLACK DIAMONDaNORTH WEST AND SOUTH EAST ARROW"⟩,
  ⟨0x2922, "NORTH EAST AND SOUTH WEST ARROWbWEST ARROW WITH HOOKbEAST ARROW WITH HOOK"⟩,
  ⟨0x2925, "SOUTH EAST ARROW WITH HOOKbWEST ARROW WITH HOOKaNORTH WEST ARROW AND NORTH EAST ARROW"⟩,
  ⟨0x2928, "NORTH EAST ARROW AND SOUTH EAST ARROWaSOUTH EAST ARROW AND SOUTH WEST ARROW"⟩,
  ⟨0x292A, "SOUTH WEST ARROW AND NORTH WEST ARROWaRISING DIAGONAL CROSSING FALLING DIAGONAL"⟩,
  ⟨0x292C, "FALLING DIAGONAL CROSSING RISING DIAGONALaSOUTH EAST ARROW CROSSING NORTH EAST ARROW"⟩,
  ⟨0x292E, "NORTH EAST ARROW CROSSING SOUTH EAST ARROWaFALLING DIAGONAL CROSSING NORTH EAST ARROW"⟩,
  ⟨0x2930, "RISING DIAGONAL CROSSING SOUTH EAST ARROWaNORTH EAST ARROW CROSSING NORTH WEST ARROW"⟩,
  ⟨0x2932, "NORTH WEST ARROW CROSSING NORTH EAST ARROWaWAVE ARROW POINTING DIRECTLY RIGHT"⟩,
  ⟨0x2934, "ARROW POINTING RIGHTWARDS THEN CURVING UPWARDSfDOWNWARDS"⟩,
  ⟨0x2936, "ARROW POINTING DOWNWARDS THEN CURVING LEFTWARDSfRIGHTWARDS"⟩,
  ⟨0x2938, "RIGHT-SIDE ARC CLOCKWISE ARROWaLEFT-SIDE ARC ANTICLOCKWISE ARROW"⟩,
  ⟨0x293A, "TOP ARC ANTICLOCKWISE ARROWaBOTTOM ARC ANTICLOCKWISE ARROW"⟩,
  ⟨0x293C, "TOP ARC CLOCKWISE ARROW WITH MINUScANTICLOCKWISE ARROW WITH PLUS"⟩,
  ⟨0x293E, "LOWER RIGHT SEMICIRCULAR CLOCKWISE ARROWbLEFT SEMICIRCULAR ANTICLOCKWISE ARROW"⟩,
  ⟨0x2940, "ANTICLOCKWISE CLOSED CIRCLE ARROWaCLOCKWISE CLOSED CIRCLE ARROW"⟩,
  ⟨0x2942, "RIGHTWARDS ARROW ABOVE SHORT LEFTWARDS ARROW"⟩,
  ⟨0x2943, "LEFTWARDS ARROW ABOVE SHORT RIGHTWARDS ARROW"⟩,
  ⟨0x2944, "SHORT RIGHTWARDS ARROW ABOVE LEFTWARDS ARROWaRIGHTWARDS ARROW WITH PLUS BELOW"⟩,
  ⟨0x2946, "LEFTWARDS ARROW WITH PLUS BELOWaRIGHTWARDS ARROW THROUGH X"⟩,
  ⟨0x2948, "LEFT RIGHT ARROW THROUGH SMALL CIRCLEaUPWARDS TWO-HEADED ARROW FROM SMALL CIRCLE"⟩,
  ⟨0x294A, "LEFT BARB UP RIGHT BARB DOWN HARPOONcDOWN RIGHT BARB UP HARPOON"⟩,
  ⟨0x294C, "UP BARB RIGHT DOWN BARB LEFT HARPOONcLEFT DOWN BARB RIGHT HARPOON"⟩,
  ⟨0x294E, "LEFT BARB UP RIGHT BARB UP HARPOONaUP BARB RIGHT DOWN BARB RIGHT HARPOON"⟩,
  ⟨0x2950, "LEFT BARB DOWN RIGHT BARB DOWN HARPOONaUP BARB LEFT DOWN BARB LEFT HARPOON"⟩,
  ⟨0x2952, "LEFTWARDS HARPOON WITH BARB UP TO BARaRIGHTWARDS HARPOON WITH BARB UP TO BAR"⟩,
  ⟨0x2954, "UPWARDS HARPOON WITH BARB RIGHT TO BARaDOWNWARDS HARPOON WITH BARB RIGHT TO BAR"⟩,
  ⟨0x2956, "LEFTWARDS HARPOON WITH BARB DOWN TO BARaRIGHTWARDS HARPOON WITH BARB DOWN TO BAR"⟩,
  ⟨0x2958, "UPWARDS HARPOON WITH BARB LEFT TO BARaDOWNWARDS HARPOON WITH BARB LEFT TO BAR"⟩,
  ⟨0x295A, "LEFTWARDS HARPOON WITH BARB UP FROM BARaRIGHTWARDS HARPOON WITH BARB UP FROM BAR"⟩,
  ⟨0x295C, "UPWARDS HARPOON WITH BARB RIGHT FROM BARaDOWNWARDS HARPOON WITH BARB RIGHT FROM BAR"⟩,
  ⟨0x295E, "LEFTWARDS HARPOON WITH BARB DOWN FROM BARaRIGHTWARDS HARPOON WITH BARB DOWN FROM BAR"⟩,
  ⟨0x2960, "UPWARDS HARPOON WITH BARB LEFT FROM BARaDOWNWARDS HARPOON WITH BARB LEFT FROM BAR"⟩,
  ⟨0x2962, "LEFTWARDS HARPOON WITH BARB UP ABOVE LEFTWARDS HARPOON WITH BARB DOWN"⟩,
  ⟨0x2963, "UPWARDS HARPOON WITH BARB LEFT BESIDE UPWARDS HARPOON WITH BARB RIGHT"⟩,
  ⟨0x2964, "RIGHTWARDS HARPOON WITH BARB UP ABOVE RIGHTWARDS HARPOON WITH BARB DOWN"⟩,
  ⟨0x2965, "DOWNWARDS HARPOON WITH BARB LEFT BESIDE DOWNWARDS HARPOON WITH BARB RIGHT"⟩,
  ⟨0x2966, "LEFTWARDS HARPOON WITH BARB UP ABOVE RIGHTWARDS HARPOON WITH BARB UP"⟩,
  ⟨0x2967, "LEFTWARDS HARPOON WITH BARB DOWN ABOVE RIGHTWARDS HARPOON WITH BARB DOWN"⟩,
  ⟨0x2968, "RIGHTWARDS HARPOON WITH BARB UP ABOVE LEFTWARDS HARPOON WITH BARB UP"⟩,
  ⟨0x2969, "RIGHTWARDS HARPOON WITH BARB DOWN ABOVE LEFTWARDS HARPOON WITH BARB DOWN"⟩,
  ⟨0x296A, "LEFTWARDS HARPOON WITH BARB UP ABOVE LONG DASHeDOWN BELOW LONG DASH"⟩,
  ⟨0x296C, "RIGHTWARDS HARPOON WITH BARB UP ABOVE LONG DASHeDOWN BELOW LONG DASH"⟩,
  ⟨0x296E, "UPWARDS HARPOON WITH BARB LEFT BESIDE DOWNWARDS HARPOON WITH BARB RIGHT"⟩,
  ⟨0x296F, "DOWNWARDS HARPOON WITH BARB LEFT BESIDE UPWARDS HARPOON WITH BARB RIGHT"⟩,
  ⟨0x2970, "RIGHT DOUBLE ARROW WITH ROUNDED HEADaEQUALS SIGN ABOVE RIGHTWARDS ARROW"⟩,
  ⟨0x2972, "TILDE OPERATOR ABOVE RIGHTWARDS ARROWaLEFTWARDS ARROW ABOVE TILDE OPERATOR"⟩,
  ⟨0x2974, "RIGHTWARDS ARROW ABOVE TILDE OPERATORdALMOST EQUAL TOaLESS-THAN ABOVE LEFTWARDS ARROW"⟩,
  ⟨0x2977, "LEFTWARDS ARROW THROUGH LESS-THANaGREATER-THAN ABOVE RIGHTWARDS ARROW"⟩,
  ⟨0x2979, "SUBSET ABOVE RIGHTWARDS ARROWaLEFTWARDS ARROW THROUGH SUBSET"⟩,
  ⟨0x297B, "SUPERSET ABOVE LEFTWARDS ARROWaLEFT FISH TAILaRIGHT FISH TAILaUP FISH TAIL"⟩,
  ⟨0x297F, "DOWN FISH TAILaTRIPLE VERTICAL BAR DELIMITERaZ NOTATION SPOTcTYPE COLON"⟩,
  ⟨0x2983, "LEFT WHITE CURLY BRACKETaRIGHT WHITE CURLY BRACKETaLEFT WHITE PARENTHESIS"⟩,
  ⟨0x2986, "RIGHT WHITE PARENTHESISaZ NOTATION LEFT IMAGE BRACKETcRIGHT IMAGE BRACKET"⟩,
  ⟨0x2989, "Z NOTATION LEFT BINDING BRACKETcRIGHT BINDING BRACKET"⟩,
  ⟨0x298B, "LEFT SQUARE BRACKET WITH UNDERBARaRIGHT SQUARE BRACKET WITH UNDERBAR"⟩,
  ⟨0x298D, "LEFT SQUARE BRACKET WITH TICK IN TOP CORNER"⟩,
  ⟨0x298E, "RIGHT SQUARE BRACKET WITH TICK IN BOTTOM CORNER"⟩,
  ⟨0x298F, "LEFT SQUARE BRACKET WITH TICK IN BOTTOM CORNER"⟩,
  ⟨0x2990, "RIGHT SQUARE BRACKET WITH TICK IN TOP CORNERaLEFT ANGLE BRACKET WITH DOT"⟩,
  ⟨0x2992, "RIGHT ANGLE BRACKET WITH DOTaLEFT ARC LESS-THAN BRACKET"⟩,
  ⟨0x2994, "RIGHT ARC GREATER-THAN BRACKETaDOUBLE LEFT ARC GREATER-THAN BRACKET"⟩,
  ⟨0x2996, "DOUBLE RIGHT ARC LESS-THAN BRACKETaLEFT BLACK TORTOISE SHELL BRACKET"⟩,
  ⟨0x2998, "RIGHT BLACK TORTOISE SHELL BRACKETaDOTTED FENCEaVERTICAL ZIGZAG LINE"⟩,
  ⟨0x299B, "MEASURED ANGLE OPENING LEFTaRIGHT ANGLE VARIANT WITH SQUARE"⟩,
  ⟨0x299D, "MEASURED RIGHT ANGLE WITH DOTaANGLE WITH S INSIDEaACUTE ANGLE"⟩,
  ⟨0x29A0, "SPHERICAL ANGLE OPENING LEFTdUPaTURNED ANGLEaREVERSED ANGLEaANGLE WITH UNDERBAR"⟩,
  ⟨0x29A5, "REVERSED ANGLE WITH UNDERBARaOBLIQUE ANGLE OPENING UPdDOWN"⟩,
  ⟨0x29A8, "MEASURED ANGLE WITH OPEN ARM ENDING IN ARROW POINTING UP AND RIGHTlLEFT"⟩,
  ⟨0x29AA, "MEASURED ANGLE WITH OPEN ARM ENDING IN ARROW POINTING DOWN AND RIGHTlLEFT"⟩,
  ⟨0x29AC, "MEASURED ANGLE WITH OPEN ARM ENDING IN ARROW POINTING RIGHT AND UPjLEFT AND UP"⟩,
  ⟨0x29AE, "MEASURED ANGLE WITH OPEN ARM ENDING IN ARROW POINTING RIGHT AND DOWNjLEFT AND DOWN"⟩,
  ⟨0x29B0, "REVERSED EMPTY SETaEMPTY SET WITH OVERBARdSMALL CIRCLE ABOVEdRIGHT ARROW ABOVE"⟩,
  ⟨0x29B4, "EMPTY SET WITH LEFT ARROW ABOVEaCIRCLE WITH HORIZONTAL BARaCIRCLED VERTICAL BAR"⟩,
  ⟨0x29B7, "CIRCLED PARALLELbREVERSE SOLIDUSbPERPENDICULAR"⟩,
  ⟨0x29BA, "CIRCLE DIVIDED BY HORIZONTAL BAR AND TOP HALF DIVIDED BY VERTICAL BAR"⟩,
  ⟨0x29BB, "CIRCLE WITH SUPERIMPOSED XaCIRCLED ANTICLOCKWISE-ROTATED DIVISION SIGN"⟩,
  ⟨0x29BD, "UP ARROW THROUGH CIRCLEaCIRCLED WHITE BULLETbBULLETbLESS-THANbGREATER-THAN"⟩,
  ⟨0x29C2, "CIRCLE WITH SMALL CIRCLE TO THE RIGHTcTWO HORIZONTAL STROKES TO THE RIGHT"⟩,
  ⟨0x29C4, "SQUARED RISING DIAGONAL SLASHbFALLING DIAGONAL SLASHbASTERISKbSMALL CIRCLEbSQUARE"⟩,
  ⟨0x29C9, "TWO JOINED SQUARESaTRIANGLE WITH DOT ABOVEcUNDERBARaS IN TRIANGLE"⟩,
  ⟨0x29CD, "TRIANGLE WITH SERIFS AT BOTTOMaRIGHT TRIANGLE ABOVE LEFT TRIANGLE"⟩,
  ⟨0x29CF, "LEFT TRIANGLE BESIDE VERTICAL BARaVERTICAL BAR BESIDE RIGHT TRIANGLE"⟩,
  ⟨0x29D1, "BOWTIE WITH LEFT HALF BLACKcRIGHT HALF BLACKaBLACK BOWTIEaTIMES WITH LEFT HALF BLACK"⟩,
  ⟨0x29D5, "TIMES WITH RIGHT HALF BLACKaWHITE HOURGLASSaBLACK HOURGLASSaLEFT WIGGLY FENCE"⟩,
  ⟨0x29D9, "RIGHT WIGGLY FENCEaLEFT DOUBLE WIGGLY FENCEaRIGHT DOUBLE WIGGLY FENCE"⟩,
  ⟨0x29DC, "INCOMPLETE INFINITYaTIE OVER INFINITYaINFINITY NEGATED WITH VERTICAL BAR"⟩,
  ⟨0x29DF, "DOUBLE-ENDED MULTIMAPaSQUARE WITH CONTOURED OUTLINEaINCREASES ASaSHUFFLE PRODUCT"⟩,
  ⟨0x29E3, "EQUALS SIGN AND SLANTED PARALLELePARALLEL WITH TILDE ABOVE"⟩,
  ⟨0x29E5, "IDENTICAL TO AND SLANTED PARALLELaGLEICH STARKaTHERMODYNAMIC"⟩,
  ⟨0x29E8, "DOWN-POINTING TRIANGLE WITH LEFT HALF BLACKeRIGHT HALF BLACK"⟩,
  ⟨0x29EA, "BLACK DIAMOND WITH DOWN ARROWbLOZENGEaWHITE CIRCLE WITH DOWN ARROW"⟩,
  ⟨0x29ED, "BLACK CIRCLE WITH DOWN ARROWaERROR-BARRED WHITE SQUAREcBLACK SQUAREcWHITE DIAMOND"⟩,
  ⟨0x29F1, "ERROR-BARRED BLACK DIAMONDcWHITE CIRCLEcBLACK CIRCLEaRULE-DELAYED"⟩,
  ⟨0x29F5, "REVERSE SOLIDUS OPERATORaSOLIDUS WITH OVERBARaREVERSE SOLIDUS WITH HORIZONTAL STROKE"⟩,
  ⟨0x29F8, "BIG SOLIDUSbREVERSE SOLIDUSaDOUBLE PLUSaTRIPLE PLUS"⟩,
  ⟨0x29FC, "LEFT-POINTING CURVED ANGLE BRACKETaRIGHT-POINTING CURVED ANGLE BRACKETaTINYaMINY"⟩,
  ⟨0x2A00, "N-ARY CIRCLED DOT OPERATORdPLUS OPERATORdTIMES OPERATORcUNION OPERATOR WITH DOTfPLUS"⟩,
  ⟨0x2A05, "N-ARY SQUARE INTERSECTION OPERATORdUNION OPERATORaTWO LOGICAL AND OPERATOR"⟩,
  ⟨0x2A08, "TWO LOGICAL OR OPERATORaN-ARY TIMES OPERATORaMODULO TWO SUMaSUMMATION WITH INTEGRAL"⟩,
  ⟨0x2A0C, "QUADRUPLE INTEGRAL OPERATORaFINITE PART INTEGRALaINTEGRAL WITH DOUBLE STROKE"⟩,
  ⟨0x2A0F, "INTEGRAL AVERAGE WITH SLASHaCIRCULATION FUNCTIONaANTICLOCKWISE INTEGRATION"⟩,
  ⟨0x2A12, "LINE INTEGRATION WITH RECTANGULAR PATH AROUND POLEdSEMICIRCULAR PATH AROUND POLE"⟩,
  ⟨0x2A14, "LINE INTEGRATION NOT INCLUDING THE POLEaINTEGRAL AROUND A POINT OPERATOR"⟩,
  ⟨0x2A16, "QUATERNION INTEGRAL OPERATORaINTEGRAL WITH LEFTWARDS ARROW WITH HOOKcTIMES SIGN"⟩,
  ⟨0x2A19, "INTEGRAL WITH INTERSECTIONcUNIONcOVERBARcUNDERBARaJOINaLARGE LEFT TRIANGLE OPERATOR"⟩,
  ⟨0x2A1F, "Z NOTATION SCHEMA COMPOSITIONdPIPINGdPROJECTIONaPLUS SIGN WITH SMALL CIRCLE ABOVE"⟩,
  ⟨0x2A23, "PLUS SIGN WITH CIRCUMFLEX ACCENT ABOVEdTILDE ABOVEdDOT BELOWdTILDE BELOW"⟩,
  ⟨0x2A27, "PLUS SIGN WITH SUBSCRIPT TWOdBLACK TRIANGLEaMINUS SIGN WITH COMMA ABOVEdDOT BELOW"⟩,
  ⟨0x2A2B, "MINUS SIGN WITH FALLING DOTSdRISING DOTSaPLUS SIGN IN LEFT HALF CIRCLE"⟩,
  ⟨0x2A2E, "PLUS SIGN IN RIGHT HALF CIRCLEaVECTOR OR CROSS PRODUCT"⟩,
  ⟨0x2A30, "MULTIPLICATION SIGN WITH DOT ABOVEdUNDERBARaSEMIDIRECT PRODUCT WITH BOTTOM CLOSED"⟩,
  ⟨0x2A33, "SMASH PRODUCTaMULTIPLICATION SIGN IN LEFT HALF CIRCLEdRIGHT HALF CIRCLE"⟩,
  ⟨0x2A36, "CIRCLED MULTIPLICATION SIGN WITH CIRCUMFLEX ACCENT"⟩,
  ⟨0x2A37, "MULTIPLICATION SIGN IN DOUBLE CIRCLEaCIRCLED DIVISION SIGNaPLUS SIGN IN TRIANGLE"⟩,
  ⟨0x2A3A, "MINUS SIGN IN TRIANGLEaMULTIPLICATION SIGN IN TRIANGLEaINTERIOR PRODUCT"⟩,
  ⟨0x2A3D, "RIGHTHAND INTERIOR PRODUCTaZ NOTATION RELATIONAL COMPOSITION"⟩,
  ⟨0x2A3F, "AMALGAMATION OR COPRODUCTaINTERSECTION WITH DOTaUNION WITH MINUS SIGNcOVERBAR"⟩,
  ⟨0x2A43, "INTERSECTION WITH OVERBARcLOGICAL ANDaUNION WITH LOGICAL ORbABOVE INTERSECTION"⟩,
  ⟨0x2A47, "INTERSECTION ABOVE UNIONaUNION ABOVE BAR ABOVE INTERSECTION"⟩,
  ⟨0x2A49, "INTERSECTION ABOVE BAR ABOVE UNIONaUNION BESIDE AND JOINED WITH UNION"⟩,
  ⟨0x2A4B, "INTERSECTION BESIDE AND JOINED WITH INTERSECTIONaCLOSED UNION WITH SERIFS"⟩,
  ⟨0x2A4D, "CLOSED INTERSECTION WITH SERIFSaDOUBLE SQUARE INTERSECTIONcUNION"⟩,
  ⟨0x2A50, "CLOSED UNION WITH SERIFS AND SMASH PRODUCTaLOGICAL AND WITH DOT ABOVE"⟩,
  ⟨0x2A52, "LOGICAL OR WITH DOT ABOVEaDOUBLE LOGICAL ANDcORaTWO INTERSECTING LOGICAL ANDdOR"⟩,
  ⟨0x2A57, "SLOPING LARGE ORcANDaLOGICAL OR OVERLAPPING LOGICAL ANDbAND WITH MIDDLE STEM"⟩,
  ⟨0x2A5B, "LOGICAL OR WITH MIDDLE STEMbAND WITH HORIZONTAL DASHbOR WITH HORIZONTAL DASH"⟩,
  ⟨0x2A5E, "LOGICAL AND WITH DOUBLE OVERBARdUNDERBARdDOUBLE UNDERBARaSMALL VEE WITH UNDERBAR"⟩,
  ⟨0x2A62, "LOGICAL OR WITH DOUBLE OVERBAReUNDERBARaZ NOTATION DOMAIN ANTIRESTRICTION"⟩,
  ⟨0x2A65, "Z NOTATION RANGE ANTIRESTRICTIONaEQUALS SIGN WITH DOT BELOWaIDENTICAL WITH DOT ABOVE"⟩,
  ⟨0x2A68, "TRIPLE HORIZONTAL BAR WITH DOUBLE VERTICAL STROKEeTRIPLE VERTICAL STROKE"⟩,
  ⟨0x2A6A, "TILDE OPERATOR WITH DOT ABOVEdRISING DOTSaSIMILAR MINUS SIMILAR"⟩,
  ⟨0x2A6D, "CONGRUENT WITH DOT ABOVEaEQUALS WITH ASTERISKaALMOST EQUAL TO WITH CIRCUMFLEX ACCENT"⟩,
  ⟨0x2A70, "APPROXIMATELY EQUAL OR EQUAL TOaEQUALS SIGN ABOVE PLUS SIGN"⟩,
  ⟨0x2A72, "PLUS SIGN ABOVE EQUALS SIGNaEQUALS SIGN ABOVE TILDE OPERATORaDOUBLE COLON EQUAL"⟩,
  ⟨0x2A75, "TWO CONSECUTIVE EQUALS SIGNSaTHREE CONSECUTIVE EQUALS SIGNS"⟩,
  ⟨0x2A77, "EQUALS SIGN WITH TWO DOTS ABOVE AND TWO DOTS BELOWaEQUIVALENT WITH FOUR DOTS ABOVE"⟩,
  ⟨0x2A79, "LESS-THAN WITH CIRCLE INSIDEaGREATER-THAN WITH CIRCLE INSIDE"⟩,
  ⟨0x2A7B, "LESS-THAN WITH QUESTION MARK ABOVEaGREATER-THAN WITH QUESTION MARK ABOVE"⟩,
  ⟨0x2A7D, "LESS-THAN OR SLANTED EQUAL TOaGREATER-THAN OR SLANTED EQUAL TO"⟩,
  ⟨0x2A7F, "LESS-THAN OR SLANTED EQUAL TO WITH DOT INSIDE"⟩,
  ⟨0x2A80, "GREATER-THAN OR SLANTED EQUAL TO WITH DOT INSIDE"⟩,
  ⟨0x2A81, "LESS-THAN OR SLANTED EQUAL TO WITH DOT ABOVE"⟩,
  ⟨0x2A82, "GREATER-THAN OR SLANTED EQUAL TO WITH DOT ABOVE"⟩,
  ⟨0x2A83, "LESS-THAN OR SLANTED EQUAL TO WITH DOT ABOVE RIGHT"⟩,
  ⟨0x2A84, "GREATER-THAN OR SLANTED EQUAL TO WITH DOT ABOVE LEFTaLESS-THAN OR APPROXIMATE"⟩,
  ⟨0x2A86, "GREATER-THAN OR APPROXIMATEaLESS-THAN AND SINGLE-LINE NOT EQUAL TO"⟩,
  ⟨0x2A88, "GREATER-THAN AND SINGLE-LINE NOT EQUAL TOaLESS-THAN AND NOT APPROXIMATE"⟩,
  ⟨0x2A8A, "GREATER-THAN AND NOT APPROXIMATEaLESS-THAN ABOVE DOUBLE-LINE EQUAL ABOVE GREATER-THAN"⟩,
  ⟨0x2A8C, "GREATER-THAN ABOVE DOUBLE-LINE EQUAL ABOVE LESS-THANaLESS-THAN ABOVE SIMILAR OR EQUAL"⟩,
  ⟨0x2A8E, "GREATER-THAN ABOVE SIMILAR OR EQUALaLESS-THAN ABOVE SIMILAR ABOVE GREATER-THAN"⟩,
  ⟨0x2A90, "GREATER-THAN ABOVE SIMILAR ABOVE LESS-THAN"⟩,
  ⟨0x2A91, "LESS-THAN ABOVE GREATER-THAN ABOVE DOUBLE-LINE EQUAL"⟩,
  ⟨0x2A92, "GREATER-THAN ABOVE LESS-THAN ABOVE DOUBLE-LINE EQUAL"⟩,
  ⟨0x2A93, "LESS-THAN ABOVE SLANTED EQUAL ABOVE GREATER-THAN ABOVE SLANTED EQUAL"⟩,
  ⟨0x2A94, "GREATER-THAN ABOVE SLANTED EQUAL ABOVE LESS-THAN ABOVE SLANTED EQUAL"⟩,
  ⟨0x2A95, "SLANTED EQUAL TO OR LESS-THANeGREATER-THANeLESS-THAN WITH DOT INSIDE"⟩,
  ⟨0x2A98, "SLANTED EQUAL TO OR GREATER-THAN WITH DOT INSIDEaDOUBLE-LINE EQUAL TO OR LESS-THAN"⟩,
  ⟨0x2A9A, "DOUBLE-LINE EQUAL TO OR GREATER-THANcSLANTED EQUAL TO OR LESS-THANgGREATER-THAN"⟩,
  ⟨0x2A9D, "SIMILAR OR LESS-THANcGREATER-THANbABOVE LESS-THAN ABOVE EQUALS SIGN"⟩,
  ⟨0x2AA0, "SIMILAR ABOVE GREATER-THAN ABOVE EQUALS SIGNaDOUBLE NESTED LESS-THANcGREATER-THAN"⟩,
  ⟨0x2AA3, "DOUBLE NESTED LESS-THAN WITH UNDERBARaGREATER-THAN OVERLAPPING LESS-THAN"⟩,
  ⟨0x2AA5, "GREATER-THAN BESIDE LESS-THANaLESS-THAN CLOSED BY CURVEaGREATER-THAN CLOSED BY CURVE"⟩,
  ⟨0x2AA8, "LESS-THAN CLOSED BY CURVE ABOVE SLANTED EQUAL"⟩,
  ⟨0x2AA9, "GREATER-THAN CLOSED BY CURVE ABOVE SLANTED EQUALaSMALLER THANaLARGER THAN"⟩,
  ⟨0x2AAC, "SMALLER THAN OR EQUAL TOaLARGER THAN OR EQUAL TOaEQUALS SIGN WITH BUMPY ABOVE"⟩,
  ⟨0x2AAF, "PRECEDES ABOVE SINGLE-LINE EQUALS SIGNaSUCCEEDS ABOVE SINGLE-LINE EQUALS SIGN"⟩,
  ⟨0x2AB1, "PRECEDES ABOVE SINGLE-LINE NOT EQUAL TOaSUCCEEDS ABOVE SINGLE-LINE NOT EQUAL TO"⟩,
  ⟨0x2AB3, "PRECEDES ABOVE EQUALS SIGNaSUCCEEDS ABOVE EQUALS SIGNaPRECEDES ABOVE NOT EQUAL TO"⟩,
  ⟨0x2AB6, "SUCCEEDS ABOVE NOT EQUAL TOaPRECEDES ABOVE ALMOST EQUAL TO"⟩,
  ⟨0x2AB8, "SUCCEEDS ABOVE ALMOST EQUAL TOaPRECEDES ABOVE NOT ALMOST EQUAL TO"⟩,
  ⟨0x2ABA, "SUCCEEDS ABOVE NOT ALMOST EQUAL TOaDOUBLE PRECEDESbSUCCEEDSaSUBSET WITH DOT"⟩,
  ⟨0x2ABE, "SUPERSET WITH DOTaSUBSET WITH PLUS SIGN BELOWaSUPERSET WITH PLUS SIGN BELOW"⟩,
  ⟨0x2AC1, "SUBSET WITH MULTIPLICATION SIGN BELOWaSUPERSET WITH MULTIPLICATION SIGN BELOW"⟩,
  ⟨0x2AC3, "SUBSET OF OR EQUAL TO WITH DOT ABOVEaSUPERSET OF OR EQUAL TO WITH DOT ABOVE"⟩,
  ⟨0x2AC5, "SUBSET OF ABOVE EQUALS SIGNaSUPERSET OF ABOVE EQUALS SIGN"⟩,
  ⟨0x2AC7, "SUBSET OF ABOVE TILDE OPERATORaSUPERSET OF ABOVE TILDE OPERATOR"⟩,
  ⟨0x2AC9, "SUBSET OF ABOVE ALMOST EQUAL TOaSUPERSET OF ABOVE ALMOST EQUAL TO"⟩,
  ⟨0x2ACB, "SUBSET OF ABOVE NOT EQUAL TOaSUPERSET OF ABOVE NOT EQUAL TO"⟩,
  ⟨0x2ACD, "SQUARE LEFT OPEN BOX OPERATORbRIGHT OPEN BOX OPERATORaCLOSED SUBSETbSUPERSET"⟩,
  ⟨0x2AD1, "CLOSED SUBSET OR EQUAL TObSUPERSET OR EQUAL TOaSUBSET ABOVE SUPERSET"⟩,
  ⟨0x2AD4, "SUPERSET ABOVE SUBSETaSUBSET ABOVE SUBSETaSUPERSET ABOVE SUPERSETbBESIDE SUBSET"⟩,
  ⟨0x2AD8, "SUPERSET BESIDE AND JOINED BY DASH WITH SUBSETaELEMENT OF OPENING DOWNWARDS"⟩,
  ⟨0x2ADA, "PITCHFORK WITH TEE TOPaTRANSVERSAL INTERSECTIONaFORKINGaNONFORKINGaSHORT LEFT TACK"⟩,
  ⟨0x2ADF, "SHORT DOWN TACKbUP TACKaPERPENDICULAR WITH SaVERTICAL BAR TRIPLE RIGHT TURNSTILE"⟩,
  ⟨0x2AE3, "DOUBLE VERTICAL BAR LEFT TURNSTILEaVERTICAL BAR DOUBLE LEFT TURNSTILE"⟩,
  ⟨0x2AE5, "DOUBLE VERTICAL BAR DOUBLE LEFT TURNSTILE"⟩,
  ⟨0x2AE6, "LONG DASH FROM LEFT MEMBER OF DOUBLE VERTICALaSHORT DOWN TACK WITH OVERBAR"⟩,
  ⟨0x2AE8, "SHORT UP TACK WITH UNDERBARdABOVE SHORT DOWN TACKaDOUBLE DOWN TACKbUP TACK"⟩,
  ⟨0x2AEC, "DOUBLE STROKE NOT SIGNaREVERSED DOUBLE STROKE NOT SIGN"⟩,
  ⟨0x2AEE, "DOES NOT DIVIDE WITH REVERSED NEGATION SLASHaVERTICAL LINE WITH CIRCLE ABOVEeBELOW"⟩,
  ⟨0x2AF1, "DOWN TACK WITH CIRCLE BELOWaPARALLEL WITH HORIZONTAL STROKEcTILDE OPERATOR"⟩,
  ⟨0x2AF4, "TRIPLE VERTICAL BAR BINARY RELATIONdWITH HORIZONTAL STROKEbCOLON OPERATOR"⟩,
  ⟨0x2AF7, "TRIPLE NESTED LESS-THANcGREATER-THANaDOUBLE-LINE SLANTED LESS-THAN OR EQUAL TO"⟩,
  ⟨0x2AFA, "DOUBLE-LINE SLANTED GREATER-THAN OR EQUAL TOaTRIPLE SOLIDUS BINARY RELATION"⟩,
  ⟨0x2AFC, "LARGE TRIPLE VERTICAL BAR OPERATORaDOUBLE SOLIDUS OPERATORaWHITE VERTICAL BAR"⟩,
  ⟨0x2AFF, "N-ARY WHITE VERTICAL BARaNORTH EAST WHITE ARROWbWEST WHITE ARROW"⟩,
  ⟨0x2B02, "SOUTH EAST WHITE ARROWbWEST WHITE ARROWaLEFT RIGHT WHITE ARROWaLEFTWARDS BLACK ARROW"⟩,
  ⟨0x2B06, "UPWARDS BLACK ARROWaDOWNWARDS BLACK ARROWaNORTH EAST BLACK ARROWbWEST BLACK ARROW"⟩,
  ⟨0x2B0A, "SOUTH EAST BLACK ARROWbWEST BLACK ARROWaLEFT RIGHT BLACK ARROWaUP DOWN BLACK ARROW"⟩,
  ⟨0x2B0E, "RIGHTWARDS ARROW WITH TIP DOWNWARDSeUPWARDSaLEFTWARDS ARROW WITH TIP DOWNWARDS"⟩,
  ⟨0x2B11, "LEFTWARDS ARROW WITH TIP UPWARDSaSQUARE WITH TOP HALF BLACKcBOTTOM HALF BLACK"⟩,
  ⟨0x2B14, "SQUARE WITH UPPER RIGHT DIAGONAL HALF BLACKcLOWER LEFT DIAGONAL HALF BLACK"⟩,
  ⟨0x2B16, "DIAMOND WITH LEFT HALF BLACKcRIGHT HALF BLACKcTOP HALF BLACKcBOTTOM HALF BLACK"⟩,
  ⟨0x2B1A, "DOTTED SQUAREaBLACK LARGE SQUAREaWHITE LARGE SQUAREaBLACK VERY SMALL SQUARE"⟩,
  ⟨0x2B1E, "WHITE VERY SMALL SQUAREaBLACK PENTAGONaWHITE PENTAGONbHEXAGONaBLACK HEXAGON"⟩,
  ⟨0x2B23, "HORIZONTAL BLACK HEXAGONaBLACK LARGE CIRCLEbMEDIUM DIAMONDaWHITE MEDIUM DIAMOND"⟩,
  ⟨0x2B27, "BLACK MEDIUM LOZENGEaWHITE MEDIUM LOZENGEaBLACK SMALL DIAMONDcLOZENGE"⟩,
  ⟨0x2B2B, "WHITE SMALL LOZENGEaBLACK HORIZONTAL ELLIPSEaWHITE HORIZONTAL ELLIPSE"⟩,
  ⟨0x2B2E, "BLACK VERTICAL ELLIPSEaWHITE VERTICAL ELLIPSEaLEFT ARROW WITH SMALL CIRCLE"⟩,
  ⟨0x2B31, "THREE LEFTWARDS ARROWSaLEFT ARROW WITH CIRCLED PLUSaLONG LEFTWARDS SQUIGGLE ARROW"⟩,
  ⟨0x2B34, "LEFTWARDS TWO-HEADED ARROW WITH VERTICAL STROKEfDOUBLE VERTICAL STROKEeFROM BAR"⟩,
  ⟨0x2B37, "LEFTWARDS TWO-HEADED TRIPLE DASH ARROWbARROW WITH DOTTED STEM"⟩,
  ⟨0x2B39, "LEFTWARDS ARROW WITH TAIL WITH VERTICAL STROKEfDOUBLE VERTICAL STROKE"⟩,
  ⟨0x2B3B, "LEFTWARDS TWO-HEADED ARROW WITH TAILfTAIL WITH VERTICAL STROKEhDOUBLE VERTICAL STROKE"⟩,
  ⟨0x2B3E, "LEFTWARDS ARROW THROUGH XaWAVE ARROW POINTING DIRECTLY LEFT"⟩,
  ⟨0x2B40, "EQUALS SIGN ABOVE LEFTWARDS ARROWaREVERSE TILDE OPERATOR ABOVE LEFTWARDS ARROW"⟩,
  ⟨0x2B42, "LEFTWARDS ARROW ABOVE REVERSE ALMOST EQUAL TOaRIGHTWARDS ARROW THROUGH GREATER-THAN"⟩,
  ⟨0x2B44, "RIGHTWARDS ARROW THROUGH SUPERSETaLEFTWARDS QUADRUPLE ARROW"⟩,
  ⟨0x2B46, "RIGHTWARDS QUADRUPLE ARROWaREVERSE TILDE OPERATOR ABOVE RIGHTWARDS ARROW"⟩,
  ⟨0x2B48, "RIGHTWARDS ARROW ABOVE REVERSE ALMOST EQUAL TOaTILDE OPERATOR ABOVE LEFTWARDS ARROW"⟩,
  ⟨0x2B4A, "LEFTWARDS ARROW ABOVE ALMOST EQUAL TOdREVERSE TILDE OPERATOR"⟩,
  ⟨0x2B4C, "RIGHTWARDS ARROW ABOVE REVERSE TILDE OPERATORaDOWNWARDS TRIANGLE-HEADED ZIGZAG ARROW"⟩,
  ⟨0x2B4E, "SHORT SLANTED NORTH ARROWbBACKSLANTED SOUTH ARROWaWHITE MEDIUM STARaBLACK SMALL STAR"⟩,
  ⟨0x2B52, "WHITE SMALL STARaBLACK RIGHT-POINTING PENTAGONaWHITE RIGHT-POINTING PENTAGON"⟩,
  ⟨0x2B55, "HEAVY LARGE CIRCLEbOVAL WITH OVAL INSIDEbCIRCLE WITH CIRCLE INSIDEbCIRCLE"⟩,
  ⟨0x2B59, "HEAVY CIRCLED SALTIREaSLANTED NORTH ARROW WITH HOOKED HEAD"⟩,
  ⟨0x2B5B, "BACKSLANTED SOUTH ARROW WITH HOOKED TAILaSLANTED NORTH ARROW WITH HORIZONTAL TAIL"⟩,
  ⟨0x2B5D, "BACKSLANTED SOUTH ARROW WITH HORIZONTAL TAIL"⟩,
  ⟨0x2B5E, "BENT ARROW POINTING DOWNWARDS THEN NORTH EAST"⟩,
  ⟨0x2B5F, "SHORT BENT ARROW POINTING DOWNWARDS THEN NORTH EASTaLEFTWARDS TRIANGLE-HEADED ARROW"⟩,
  ⟨0x2B61, "UPWARDS TRIANGLE-HEADED ARROWaRIGHTWARDS TRIANGLE-HEADED ARROW"⟩,
  ⟨0x2B63, "DOWNWARDS TRIANGLE-HEADED ARROWaLEFT RIGHT TRIANGLE-HEADED ARROW"⟩,
  ⟨0x2B65, "UP DOWN TRIANGLE-HEADED ARROWaNORTH WEST TRIANGLE-HEADED ARROW"⟩,
  ⟨0x2B67, "NORTH EAST TRIANGLE-HEADED ARROWaSOUTH EAST TRIANGLE-HEADED ARROW"⟩,
  ⟨0x2B69, "SOUTH WEST TRIANGLE-HEADED ARROWaLEFTWARDS TRIANGLE-HEADED DASHED ARROW"⟩,
  ⟨0x2B6B, "UPWARDS TRIANGLE-HEADED DASHED ARROWaRIGHTWARDS TRIANGLE-HEADED DASHED ARROW"⟩,
  ⟨0x2B6D, "DOWNWARDS TRIANGLE-HEADED DASHED ARROWaCLOCKWISE TRIANGLE-HEADED OPEN CIRCLE ARROW"⟩,
  ⟨0x2B6F, "ANTICLOCKWISE TRIANGLE-HEADED OPEN CIRCLE ARROW"⟩,
  ⟨0x2B70, "LEFTWARDS TRIANGLE-HEADED ARROW TO BARaUPWARDS TRIANGLE-HEADED ARROW TO BAR"⟩,
  ⟨0x2B72, "RIGHTWARDS TRIANGLE-HEADED ARROW TO BARaDOWNWARDS TRIANGLE-HEADED ARROW TO BAR"⟩,
  ⟨0x2B76, "NORTH WEST TRIANGLE-HEADED ARROW TO BARbEAST TRIANGLE-HEADED ARROW TO BAR"⟩,
  ⟨0x2B78, "SOUTH EAST TRIANGLE-HEADED ARROW TO BARbWEST TRIANGLE-HEADED ARROW TO BAR"⟩,
  ⟨0x2B7A, "LEFTWARDS TRIANGLE-HEADED ARROW WITH DOUBLE HORIZONTAL STROKE"⟩,
  ⟨0x2B7B, "UPWARDS TRIANGLE-HEADED ARROW WITH DOUBLE HORIZONTAL STROKE"⟩,
  ⟨0x2B7C, "RIGHTWARDS TRIANGLE-HEADED ARROW WITH DOUBLE HORIZONTAL STROKE"⟩,
  ⟨0x2B7D, "DOWNWARDS TRIANGLE-HEADED ARROW WITH DOUBLE HORIZONTAL STROKEaHORIZONTAL TAB KEY"⟩,
  ⟨0x2B7F, "VERTICAL TAB KEY"⟩,
  ⟨0x2B80, "LEFTWARDS TRIANGLE-HEADED ARROW OVER RIGHTWARDS TRIANGLE-HEADED ARROW"⟩,
  ⟨0x2B81, "UPWARDS TRIANGLE-HEADED ARROW LEFTWARDS OF DOWNWARDS TRIANGLE-HEADED ARROW"⟩,
  ⟨0x2B82, "RIGHTWARDS TRIANGLE-HEADED ARROW OVER LEFTWARDS TRIANGLE-HEADED ARROW"⟩,
  ⟨0x2B83, "DOWNWARDS TRIANGLE-HEADED ARROW LEFTWARDS OF UPWARDS TRIANGLE-HEADED ARROW"⟩,
  ⟨0x2B84, "LEFTWARDS TRIANGLE-HEADED PAIRED ARROWSaUPWARDS TRIANGLE-HEADED PAIRED ARROWS"⟩,
  ⟨0x2B86, "RIGHTWARDS TRIANGLE-HEADED PAIRED ARROWSaDOWNWARDS TRIANGLE-HEADED PAIRED ARROWS"⟩,
  ⟨0x2B88, "LEFTWARDS BLACK CIRCLED WHITE ARROWaUPWARDS BLACK CIRCLED WHITE ARROW"⟩,
  ⟨0x2B8A, "RIGHTWARDS BLACK CIRCLED WHITE ARROWaDOWNWARDS BLACK CIRCLED WHITE ARROW"⟩,
  ⟨0x2B8C, "ANTICLOCKWISE TRIANGLE-HEADED RIGHT U-SHAPED ARROWdBOTTOM U-SHAPED ARROW"⟩,
  ⟨0x2B8E, "ANTICLOCKWISE TRIANGLE-HEADED LEFT U-SHAPED ARROWdTOP U-SHAPED ARROWaRETURN LEFT"⟩,
  ⟨0x2B91, "RETURN RIGHTaNEWLINE LEFTbRIGHTaFOUR CORNER ARROWS CIRCLING ANTICLOCKWISE"⟩,
  ⟨0x2B95, "RIGHTWARDS BLACK ARROW"⟩,
  ⟨0x2B97, "SYMBOL FOR TYPE A ELECTRONICSaTHREE-D TOP-LIGHTED LEFTWARDS EQUILATERAL ARROWHEAD"⟩,
  ⟨0x2B99, "THREE-D RIGHT-LIGHTED UPWARDS EQUILATERAL ARROWHEAD"⟩,
  ⟨0x2B9A, "THREE-D TOP-LIGHTED RIGHTWARDS EQUILATERAL ARROWHEAD"⟩,
  ⟨0x2B9B, "THREE-D LEFT-LIGHTED DOWNWARDS EQUILATERAL ARROWHEAD"⟩,
  ⟨0x2B9C, "BLACK LEFTWARDS EQUILATERAL ARROWHEADbUPWARDS EQUILATERAL ARROWHEAD"⟩,
  ⟨0x2B9E, "BLACK RIGHTWARDS EQUILATERAL ARROWHEADbDOWNWARDS EQUILATERAL ARROWHEAD"⟩,
  ⟨0x2BA0, "DOWNWARDS TRIANGLE-HEADED ARROW WITH LONG TIP LEFTWARDShRIGHTWARDS"⟩,
  ⟨0x2BA2, "UPWARDS TRIANGLE-HEADED ARROW WITH LONG TIP LEFTWARDShRIGHTWARDS"⟩,
  ⟨0x2BA4, "LEFTWARDS TRIANGLE-HEADED ARROW WITH LONG TIP UPWARDS"⟩,
  ⟨0x2BA5, "RIGHTWARDS TRIANGLE-HEADED ARROW WITH LONG TIP UPWARDS"⟩,
  ⟨0x2BA6, "LEFTWARDS TRIANGLE-HEADED ARROW WITH LONG TIP DOWNWARDS"⟩,
  ⟨0x2BA7, "RIGHTWARDS TRIANGLE-HEADED ARROW WITH LONG TIP DOWNWARDS"⟩,
  ⟨0x2BA8, "BLACK CURVED DOWNWARDS AND LEFTWARDS ARROWeRIGHTWARDS ARROW"⟩,
  ⟨0x2BAA, "BLACK CURVED UPWARDS AND LEFTWARDS ARROWeRIGHTWARDS ARROWcLEFTWARDS AND UPWARDS ARROW"⟩,
  ⟨0x2BAD, "BLACK CURVED RIGHTWARDS AND UPWARDS ARROWcLEFTWARDS AND DOWNWARDS ARROW"⟩,
  ⟨0x2BAF, "BLACK CURVED RIGHTWARDS AND DOWNWARDS ARROWaRIBBON ARROW DOWN LEFTdRIGHTcUP LEFT"⟩,
  ⟨0x2BB3, "RIBBON ARROW UP RIGHTcLEFT UPcRIGHT UPcLEFT DOWNcRIGHT DOWN"⟩,
  ⟨0x2BB8, "UPWARDS WHITE ARROW FROM BAR WITH HORIZONTAL BARaUP ARROWHEAD IN A RECTANGLE BOX"⟩,
  ⟨0x2BBA, "OVERLAPPING WHITE SQUAREScAND BLACK SQUARESbBLACK SQUARESaBALLOT BOX WITH LIGHT X"⟩,
  ⟨0x2BBE, "CIRCLED XbBOLD XaBLACK SQUARE CENTREDbDIAMOND CENTREDaTURNED BLACK PENTAGON"⟩,
  ⟨0x2BC3, "HORIZONTAL BLACK OCTAGONaBLACK OCTAGONbMEDIUM UP-POINTING TRIANGLE CENTRED"⟩,
  ⟨0x2BC6, "BLACK MEDIUM DOWN-POINTING TRIANGLE CENTREDcLEFT-POINTING TRIANGLE CENTRED"⟩,
  ⟨0x2BC8, "BLACK MEDIUM RIGHT-POINTING TRIANGLE CENTREDaNEPTUNE FORM TWOaTOP HALF BLACK CIRCLE"⟩,
  ⟨0x2BCB, "BOTTOM HALF BLACK CIRCLEaLIGHT FOUR POINTED BLACK CUSP"⟩,
  ⟨0x2BCD, "ROTATED LIGHT FOUR POINTED BLACK CUSPaWHITE FOUR POINTED CUSP"⟩,
  ⟨0x2BCF, "ROTATED WHITE FOUR POINTED CUSPaSQUARE POSITION INDICATORaUNCERTAINTY SIGNaGROUP MARK"⟩,
  ⟨0x2BD3, "PLUTO FORM TWOcTHREEcFOURcFIVEaTRANSPLUTOaPROSERPINAaASTRAEAaHYGIEAaPHOLUSaNESSUS"⟩,
  ⟨0x2BDD, "WHITE MOON SELENAaBLACK DIAMOND ON CROSSaTRUE LIGHT MOON ARTAaCUPIDOaHADESaZEUS"⟩,
  ⟨0x2BE3, "KRONOSaAPOLLONaADMETOSaVULCANUSaPOSEIDONaLEFT HALF BLACK STARaRIGHT HALF BLACK STAR"⟩,
  ⟨0x2BEA, "STAR WITH LEFT HALF BLACKcRIGHT HALF BLACK"⟩,
  ⟨0x2BEC, "LEFTWARDS TWO-HEADED ARROW WITH TRIANGLE ARROWHEADS"⟩,
  ⟨0x2BED, "UPWARDS TWO-HEADED ARROW WITH TRIANGLE ARROWHEADS"⟩,
  ⟨0x2BEE, "RIGHTWARDS TWO-HEADED ARROW WITH TRIANGLE ARROWHEADS"⟩,
  ⟨0x2BEF, "DOWNWARDS TWO-HEADED ARROW WITH TRIANGLE ARROWHEADSaERIS FORM ONEcTWOaSEDNA"⟩,
  ⟨0x2BF3, "RUSSIAN ASTROLOGICAL SYMBOL VIGINTILEdNOVILEdQUINTILEdBINOVILEdSENTAGONdTREDECILE"⟩,
  ⟨0x2BF9, "EQUALS SIGN WITH INFINITY BELOWaUNITED SYMBOLaSEPARATED SYMBOLaDOUBLED SYMBOL"⟩,
  ⟨0x2BFD, "PASSED SYMBOLaREVERSED RIGHT ANGLEaHELLSCHREIBER PAUSE SYMBOL"⟩]

end Bindery.Text.CharName
