import Bindery.Text.CharName.Run
/-!
# Names of scripts of East Asia

The names from U+2C00 to U+FFFF: radicals, kana, Bopomofo, Yi, presentation forms, and the scripts
that stand among them. Ideographs and Hangul syllables have computed names.
-/
namespace Bindery.Text.CharName

def eastAsian : List Run := [
  ⟨0x2C00, "GLAGOLITIC CAPITAL LETTER AZUdBUKYdVEDEdGLAGOLIdDOBROdYESTUdZHIVETEdDZELOdZEMLJAdIZHE"⟩,
  ⟨0x2C0A, "GLAGOLITIC CAPITAL LETTER INITIAL IZHEdIdDJERVIdKAKOdLJUDIJEdMYSLITEdNASHIdONUdPOKOJI"⟩,
  ⟨0x2C13, "GLAGOLITIC CAPITAL LETTER RITSIdSLOVOdTVRIDOdUKUdFRITUdHERUdOTUdPEdSHTAdTSIdCHRIVI"⟩,
  ⟨0x2C1E, "GLAGOLITIC CAPITAL LETTER SHAdYERUdYERIdYATIdSPIDERY HAdYUdSMALL YUSeYUS WITH TAILdYO"⟩,
  ⟨0x2C27, "GLAGOLITIC CAPITAL LETTER IOTATED SMALL YUSdBIG YUSdIOTATED BIG YUSdFITAdIZHITSA"⟩,
  ⟨0x2C2C, "GLAGOLITIC CAPITAL LETTER SHTAPICdTROKUTASTI AdLATINATE MYSLITEdCAUDATE CHRIVI"⟩,
  ⟨0x2C30, "GLAGOLITIC SMALL LETTER AZUdBUKYdVEDEdGLAGOLIdDOBROdYESTUdZHIVETEdDZELOdZEMLJAdIZHE"⟩,
  ⟨0x2C3A, "GLAGOLITIC SMALL LETTER INITIAL IZHEdIdDJERVIdKAKOdLJUDIJEdMYSLITEdNASHIdONUdPOKOJI"⟩,
  ⟨0x2C43, "GLAGOLITIC SMALL LETTER RITSIdSLOVOdTVRIDOdUKUdFRITUdHERUdOTUdPEdSHTAdTSIdCHRIVIdSHA"⟩,
  ⟨0x2C4F, "GLAGOLITIC SMALL LETTER YERUdYERIdYATIdSPIDERY HAdYUdSMALL YUSeYUS WITH TAILdYO"⟩,
  ⟨0x2C57, "GLAGOLITIC SMALL LETTER IOTATED SMALL YUSdBIG YUSdIOTATED BIG YUSdFITAdIZHITSA"⟩,
  ⟨0x2C5C, "GLAGOLITIC SMALL LETTER SHTAPICdTROKUTASTI AdLATINATE MYSLITEdCAUDATE CHRIVI"⟩,
  ⟨0x2C60, "LATIN CAPITAL LETTER L WITH DOUBLE BARbSMALL LETTER L WITH DOUBLE BAR"⟩,
  ⟨0x2C62, "LATIN CAPITAL LETTER L WITH MIDDLE TILDEdP WITH STROKEdR WITH TAIL"⟩,
  ⟨0x2C65, "LATIN SMALL LETTER A WITH STROKEdT WITH DIAGONAL STROKE"⟩,
  ⟨0x2C67, "LATIN CAPITAL LETTER H WITH DESCENDERbSMALL LETTER H WITH DESCENDER"⟩,
  ⟨0x2C69, "LATIN CAPITAL LETTER K WITH DESCENDERbSMALL LETTER K WITH DESCENDER"⟩,
  ⟨0x2C6B, "LATIN CAPITAL LETTER Z WITH DESCENDERbSMALL LETTER Z WITH DESCENDER"⟩,
  ⟨0x2C6D, "LATIN CAPITAL LETTER ALPHAdM WITH HOOKdTURNED AeALPHAbSMALL LETTER V WITH RIGHT HOOK"⟩,
  ⟨0x2C72, "LATIN CAPITAL LETTER W WITH HOOKbSMALL LETTER W WITH HOOKdV WITH CURL"⟩,
  ⟨0x2C75, "LATIN CAPITAL LETTER HALF HbSMALL LETTER HALF HdTAILLESS PHIdE WITH NOTCH"⟩,
  ⟨0x2C79, "LATIN SMALL LETTER TURNED R WITH TAILdO WITH LOW RING INSIDE"⟩,
  ⟨0x2C7B, "LATIN LETTER SMALL CAPITAL TURNED EbSUBSCRIPT SMALL LETTER J"⟩,
  ⟨0x2C7D, "MODIFIER LETTER CAPITAL VaLATIN CAPITAL LETTER S WITH SWASH TAILdZ WITH SWASH TAIL"⟩,
  ⟨0x2C80, "COPTIC CAPITAL LETTER ALFAbSMALL LETTER ALFAbCAPITAL LETTER VIDAbSMALL LETTER VIDA"⟩,
  ⟨0x2C84, "COPTIC CAPITAL LETTER GAMMAbSMALL LETTER GAMMAbCAPITAL LETTER DALDA"⟩,
  ⟨0x2C87, "COPTIC SMALL LETTER DALDAbCAPITAL LETTER EIEbSMALL LETTER EIEbCAPITAL LETTER SOU"⟩,
  ⟨0x2C8B, "COPTIC SMALL LETTER SOUbCAPITAL LETTER ZATAbSMALL LETTER ZATAbCAPITAL LETTER HATE"⟩,
  ⟨0x2C8F, "COPTIC SMALL LETTER HATEbCAPITAL LETTER THETHEbSMALL LETTER THETHE"⟩,
  ⟨0x2C92, "COPTIC CAPITAL LETTER IAUDAbSMALL LETTER IAUDAbCAPITAL LETTER KAPAbSMALL LETTER KAPA"⟩,
  ⟨0x2C96, "COPTIC CAPITAL LETTER LAULAbSMALL LETTER LAULAbCAPITAL LETTER MIbSMALL LETTER MI"⟩,
  ⟨0x2C9A, "COPTIC CAPITAL LETTER NIbSMALL LETTER NIbCAPITAL LETTER KSIbSMALL LETTER KSI"⟩,
  ⟨0x2C9E, "COPTIC CAPITAL LETTER ObSMALL LETTER ObCAPITAL LETTER PIbSMALL LETTER PI"⟩,
  ⟨0x2CA2, "COPTIC CAPITAL LETTER RObSMALL LETTER RObCAPITAL LETTER SIMAbSMALL LETTER SIMA"⟩,
  ⟨0x2CA6, "COPTIC CAPITAL LETTER TAUbSMALL LETTER TAUbCAPITAL LETTER UAbSMALL LETTER UA"⟩,
  ⟨0x2CAA, "COPTIC CAPITAL LETTER FIbSMALL LETTER FIbCAPITAL LETTER KHIbSMALL LETTER KHI"⟩,
  ⟨0x2CAE, "COPTIC CAPITAL LETTER PSIbSMALL LETTER PSIbCAPITAL LETTER OOUbSMALL LETTER OOU"⟩,
  ⟨0x2CB2, "COPTIC CAPITAL LETTER DIALECT-P ALEFbSMALL LETTER DIALECT-P ALEF"⟩,
  ⟨0x2CB4, "COPTIC CAPITAL LETTER OLD COPTIC AINbSMALL LETTER OLD COPTIC AIN"⟩,
  ⟨0x2CB6, "COPTIC CAPITAL LETTER CRYPTOGRAMMIC EIEbSMALL LETTER CRYPTOGRAMMIC EIE"⟩,
  ⟨0x2CB8, "COPTIC CAPITAL LETTER DIALECT-P KAPAbSMALL LETTER DIALECT-P KAPA"⟩,
  ⟨0x2CBA, "COPTIC CAPITAL LETTER DIALECT-P NIbSMALL LETTER DIALECT-P NI"⟩,
  ⟨0x2CBC, "COPTIC CAPITAL LETTER CRYPTOGRAMMIC NIbSMALL LETTER CRYPTOGRAMMIC NI"⟩,
  ⟨0x2CBE, "COPTIC CAPITAL LETTER OLD COPTIC OOUbSMALL LETTER OLD COPTIC OOUbCAPITAL LETTER SAMPI"⟩,
  ⟨0x2CC1, "COPTIC SMALL LETTER SAMPIbCAPITAL LETTER CROSSED SHEIbSMALL LETTER CROSSED SHEI"⟩,
  ⟨0x2CC4, "COPTIC CAPITAL LETTER OLD COPTIC SHEIbSMALL LETTER OLD COPTIC SHEI"⟩,
  ⟨0x2CC6, "COPTIC CAPITAL LETTER OLD COPTIC ESHbSMALL LETTER OLD COPTIC ESH"⟩,
  ⟨0x2CC8, "COPTIC CAPITAL LETTER AKHMIMIC KHEIbSMALL LETTER AKHMIMIC KHEI"⟩,
  ⟨0x2CCA, "COPTIC CAPITAL LETTER DIALECT-P HORIbSMALL LETTER DIALECT-P HORI"⟩,
  ⟨0x2CCC, "COPTIC CAPITAL LETTER OLD COPTIC HORIbSMALL LETTER OLD COPTIC HORI"⟩,
  ⟨0x2CCE, "COPTIC CAPITAL LETTER OLD COPTIC HAbSMALL LETTER OLD COPTIC HA"⟩,
  ⟨0x2CD0, "COPTIC CAPITAL LETTER L-SHAPED HAbSMALL LETTER L-SHAPED HA"⟩,
  ⟨0x2CD2, "COPTIC CAPITAL LETTER OLD COPTIC HEIbSMALL LETTER OLD COPTIC HEI"⟩,
  ⟨0x2CD4, "COPTIC CAPITAL LETTER OLD COPTIC HATbSMALL LETTER OLD COPTIC HAT"⟩,
  ⟨0x2CD6, "COPTIC CAPITAL LETTER OLD COPTIC GANGIAbSMALL LETTER OLD COPTIC GANGIA"⟩,
  ⟨0x2CD8, "COPTIC CAPITAL LETTER OLD COPTIC DJAbSMALL LETTER OLD COPTIC DJA"⟩,
  ⟨0x2CDA, "COPTIC CAPITAL LETTER OLD COPTIC SHIMAbSMALL LETTER OLD COPTIC SHIMA"⟩,
  ⟨0x2CDC, "COPTIC CAPITAL LETTER OLD NUBIAN SHIMAbSMALL LETTER OLD NUBIAN SHIMA"⟩,
  ⟨0x2CDE, "COPTIC CAPITAL LETTER OLD NUBIAN NGIbSMALL LETTER OLD NUBIAN NGI"⟩,
  ⟨0x2CE0, "COPTIC CAPITAL LETTER OLD NUBIAN NYIbSMALL LETTER OLD NUBIAN NYI"⟩,
  ⟨0x2CE2, "COPTIC CAPITAL LETTER OLD NUBIAN WAUbSMALL LETTER OLD NUBIAN WAUbSYMBOL KAIcMI RO"⟩,
  ⟨0x2CE6, "COPTIC SYMBOL PI ROcSTAUROScTAU ROcKHI ROcSHIMA SIMA"⟩,
  ⟨0x2CEB, "COPTIC CAPITAL LETTER CRYPTOGRAMMIC SHEIbSMALL LETTER CRYPTOGRAMMIC SHEI"⟩,
  ⟨0x2CED, "COPTIC CAPITAL LETTER CRYPTOGRAMMIC GANGIAbSMALL LETTER CRYPTOGRAMMIC GANGIA"⟩,
  ⟨0x2CEF, "COPTIC COMBINING NI ABOVEcSPIRITUS ASPERdLENISbCAPITAL LETTER BOHAIRIC KHEI"⟩,
  ⟨0x2CF3, "COPTIC SMALL LETTER BOHAIRIC KHEI"⟩,
  ⟨0x2CF9, "COPTIC OLD NUBIAN FULL STOPdDIRECT QUESTION MARKdINDIRECT QUESTION MARKdVERSE DIVIDER"⟩,
  ⟨0x2CFD, "COPTIC FRACTION ONE HALFbFULL STOPbMORPHOLOGICAL DIVIDERaGEORGIAN SMALL LETTER ANdBAN"⟩,
  ⟨0x2D02, "GEORGIAN SMALL LETTER GANdDONdENdVINdZENdTANdINdKANdLASdMANdNARdONdPARdZHARdRAEdSAN"⟩,
  ⟨0x2D12, "GEORGIAN SMALL LETTER TARdUNdPHARdKHARdGHANdQARdSHINdCHINdCANdJILdCILdCHARdXANdJHAN"⟩,
  ⟨0x2D20, "GEORGIAN SMALL LETTER HAEdHEdHIEdWEdHARdHOE"⟩,
  ⟨0x2D27, "GEORGIAN SMALL LETTER YN"⟩,
  ⟨0x2D2D, "GEORGIAN SMALL LETTER AEN"⟩,
  ⟨0x2D30, "TIFINAGH LETTER YAcYABcYABHcYAGcYAGHHcBERBER ACADEMY YAJcYAJcYADcYADHcYADDcYADDHcYEY"⟩,
  ⟨0x2D3C, "TIFINAGH LETTER YAFcYAKcTUAREG YAKcYAKHHcYAHcBERBER ACADEMY YAHcTUAREG YAHcYAHHcYAA"⟩,
  ⟨0x2D45, "TIFINAGH LETTER YAKHcTUAREG YAKHcYAQcTUAREG YAQcYIcYAZHcAHAGGAR YAZHcTUAREG YAZHcYAL"⟩,
  ⟨0x2D4E, "TIFINAGH LETTER YAMcYANcTUAREG YAGNdYANGcYAPcYUcYARcYARRcYAGHcTUAREG YAGHcAYER YAGH"⟩,
  ⟨0x2D59, "TIFINAGH LETTER YAScYASScYASHcYATcYATHcYACHcYATTcYAVcYAWcYAYcYAZcTAWELLEMET YAZcYAZZ"⟩,
  ⟨0x2D66, "TIFINAGH LETTER YEcYO"⟩,
  ⟨0x2D6F, "TIFINAGH MODIFIER LETTER LABIALIZATION MARKbSEPARATOR MARK"⟩,
  ⟨0x2D7F, "TIFINAGH CONSONANT JOINERaETHIOPIC SYLLABLE LOAcMOAcROAcSOAcSHOAcBOAcTOAcCOAcNOAcNYOA"⟩,
  ⟨0x2D8A, "ETHIOPIC SYLLABLE GLOTTAL OAcZOAcDOAcDDOAcJOAcTHOAcCHOAcPHOAcPOAcGGWAcGGWIcGGWEEcGGWE"⟩,
  ⟨0x2DA0, "ETHIOPIC SYLLABLE SSAcSSUcSSIcSSAAcSSEEcSSEcSSO"⟩,
  ⟨0x2DA8, "ETHIOPIC SYLLABLE CCAcCCUcCCIcCCAAcCCEEcCCEcCCO"⟩,
  ⟨0x2DB0, "ETHIOPIC SYLLABLE ZZAcZZUcZZIcZZAAcZZEEcZZEcZZO"⟩,
  ⟨0x2DB8, "ETHIOPIC SYLLABLE CCHAcCCHUcCCHIcCCHAAcCCHEEcCCHEcCCHO"⟩,
  ⟨0x2DC0, "ETHIOPIC SYLLABLE QYAcQYUcQYIcQYAAcQYEEcQYEcQYO"⟩,
  ⟨0x2DC8, "ETHIOPIC SYLLABLE KYAcKYUcKYIcKYAAcKYEEcKYEcKYO"⟩,
  ⟨0x2DD0, "ETHIOPIC SYLLABLE XYAcXYUcXYIcXYAAcXYEEcXYEcXYO"⟩,
  ⟨0x2DD8, "ETHIOPIC SYLLABLE GYAcGYUcGYIcGYAAcGYEEcGYEcGYO"⟩,
  ⟨0x2DE0, "COMBINING CYRILLIC LETTER BEdVEdGHEdDEdZHEdZEdKAdELdEMdENdOdPEdERdESdTEdHAdTSEdCHE"⟩,
  ⟨0x2DF2, "COMBINING CYRILLIC LETTER SHAdSHCHAdFITAdES-TEdAdIEdDJERVdMONOGRAPH UKdYATdYU"⟩,
  ⟨0x2DFC, "COMBINING CYRILLIC LETTER IOTIFIED AdLITTLE YUSdBIG YUSdIOTIFIED BIG YUS"⟩,
  ⟨0x2E00, "RIGHT ANGLE SUBSTITUTION MARKERcDOTTED SUBSTITUTION MARKERaLEFT SUBSTITUTION BRACKET"⟩,
  ⟨0x2E03, "RIGHT SUBSTITUTION BRACKETaLEFT DOTTED SUBSTITUTION BRACKET"⟩,
  ⟨0x2E05, "RIGHT DOTTED SUBSTITUTION BRACKETaRAISED INTERPOLATION MARKER"⟩,
  ⟨0x2E07, "RAISED DOTTED INTERPOLATION MARKERaDOTTED TRANSPOSITION MARKER"⟩,
  ⟨0x2E09, "LEFT TRANSPOSITION BRACKETaRIGHT TRANSPOSITION BRACKETaRAISED SQUARE"⟩,
  ⟨0x2E0C, "LEFT RAISED OMISSION BRACKETaRIGHT RAISED OMISSION BRACKETaEDITORIAL CORONIS"⟩,
  ⟨0x2E0F, "PARAGRAPHOSaFORKED PARAGRAPHOSaREVERSED FORKED PARAGRAPHOSaHYPODIASTOLEaDOTTED OBELOS"⟩,
  ⟨0x2E14, "DOWNWARDS ANCORAaUPWARDS ANCORAaDOTTED RIGHT-POINTING ANGLEaDOUBLE OBLIQUE HYPHEN"⟩,
  ⟨0x2E18, "INVERTED INTERROBANGaPALM BRANCHaHYPHEN WITH DIAERESISaTILDE WITH RING ABOVE"⟩,
  ⟨0x2E1C, "LEFT LOW PARAPHRASE BRACKETaRIGHT LOW PARAPHRASE BRACKETaTILDE WITH DOT ABOVEdBELOW"⟩,
  ⟨0x2E20, "LEFT VERTICAL BAR WITH QUILLaRIGHT VERTICAL BAR WITH QUILLaTOP LEFT HALF BRACKET"⟩,
  ⟨0x2E23, "TOP RIGHT HALF BRACKETaBOTTOM LEFT HALF BRACKETbRIGHT HALF BRACKET"⟩,
  ⟨0x2E26, "LEFT SIDEWAYS U BRACKETaRIGHT SIDEWAYS U BRACKETaLEFT DOUBLE PARENTHESIS"⟩,
  ⟨0x2E29, "RIGHT DOUBLE PARENTHESISaTWO DOTS OVER ONE DOT PUNCTUATION"⟩,
  ⟨0x2E2B, "ONE DOT OVER TWO DOTS PUNCTUATIONaSQUARED FOUR DOT PUNCTUATIONaFIVE DOT MARK"⟩,
  ⟨0x2E2E, "REVERSED QUESTION MARKaVERTICAL TILDEaRING POINTaWORD SEPARATOR MIDDLE DOT"⟩,
  ⟨0x2E32, "TURNED COMMAaRAISED DOTbCOMMAaTURNED SEMICOLONaDAGGER WITH LEFT GUARDcRIGHT GUARD"⟩,
  ⟨0x2E38, "TURNED DAGGERaTOP HALF SECTION SIGNaTWO-EM DASHaTHREE-EM DASHaSTENOGRAPHIC FULL STOP"⟩,
  ⟨0x2E3D, "VERTICAL SIX DOTSaWIGGLY VERTICAL LINEaCAPITULUMaDOUBLE HYPHENaREVERSED COMMA"⟩,
  ⟨0x2E42, "DOUBLE LOW-REVERSED-9 QUOTATION MARKaDASH WITH LEFT UPTURNaDOUBLE SUSPENSION MARK"⟩,
  ⟨0x2E45, "INVERTED LOW KAVYKAcKAVYKA WITH KAVYKA ABOVEaLOW KAVYKAbKAVYKA WITH DOT"⟩,
  ⟨0x2E49, "DOUBLE STACKED COMMAaDOTTED SOLIDUSaTRIPLE DAGGERaMEDIEVAL COMMAaPARAGRAPHUS MARK"⟩,
  ⟨0x2E4E, "PUNCTUS ELEVATUS MARKaCORNISH VERSE DIVIDERaCROSS PATTY WITH RIGHT CROSSBAR"⟩,
  ⟨0x2E51, "CROSS PATTY WITH LEFT CROSSBARaTIRONIAN SIGN CAPITAL ETaMEDIEVAL EXCLAMATION MARK"⟩,
  ⟨0x2E54, "MEDIEVAL QUESTION MARKaLEFT SQUARE BRACKET WITH STROKE"⟩,
  ⟨0x2E56, "RIGHT SQUARE BRACKET WITH STROKEaLEFT SQUARE BRACKET WITH DOUBLE STROKE"⟩,
  ⟨0x2E58, "RIGHT SQUARE BRACKET WITH DOUBLE STROKEaTOP HALF LEFT PARENTHESIScRIGHT PARENTHESIS"⟩,
  ⟨0x2E5B, "BOTTOM HALF LEFT PARENTHESIScRIGHT PARENTHESISaOBLIQUE HYPHEN"⟩,
  ⟨0x2E80, "CJK RADICAL REPEATcCLIFFcSECOND ONEdTWOdTHREEcPERSONcBOXcTABLEcKNIFE ONEdTWO"⟩,
  ⟨0x2E8A, "CJK RADICAL DIVINATIONcSEALcSMALL ONEdTWOcLAME ONEdTWOdTHREEdFOURcSNAKEcTHREAD"⟩,
  ⟨0x2E94, "CJK RADICAL SNOUT ONEdTWOcHEART ONEdTWOcHANDcRAP"⟩,
  ⟨0x2E9B, "CJK RADICAL CHOKEcSUNcMOONcDEATHcMOTHERcCIVILIANcWATER ONEdTWOcFIREcPAW ONEdTWO"⟩,
  ⟨0x2EA6, "CJK RADICAL SIMPLIFIED HALF TREE TRUNKcCOWcDOGcJADEcBOLT OF CLOTHcEYEcSPIRIT ONEdTWO"⟩,
  ⟨0x2EAE, "CJK RADICAL BAMBOOcSILKcC-SIMPLIFIED SILKcNET ONEdTWOdTHREEdFOURcMESHcSHEEPcRAMcEWE"⟩,
  ⟨0x2EB9, "CJK RADICAL OLDcBRUSH ONEdTWOcMEATcMORTARcGRASS ONEdTWOdTHREEcTIGERcCLOTHEScWEST ONE"⟩,
  ⟨0x2EC4, "CJK RADICAL WEST TWOcC-SIMPLIFIED SEEcSIMPLIFIED HORNcHORNcC-SIMPLIFIED SPEECHeSHELL"⟩,
  ⟨0x2ECA, "CJK RADICAL FOOTcC-SIMPLIFIED CARTcSIMPLIFIED WALKcWALK ONEdTWOcCITY"⟩,
  ⟨0x2ED0, "CJK RADICAL C-SIMPLIFIED GOLDcLONG ONEdTWOcC-SIMPLIFIED LONGeGATEcMOUND ONEdTWOcRAIN"⟩,
  ⟨0x2ED8, "CJK RADICAL BLUEcC-SIMPLIFIED TANNED LEATHEReLEAFeWINDeFLYcEAT ONEdTWOdTHREE"⟩,
  ⟨0x2EE0, "CJK RADICAL C-SIMPLIFIED EATcHEADcC-SIMPLIFIED HORSEcBONEcGHOSTcC-SIMPLIFIED FISH"⟩,
  ⟨0x2EE6, "CJK RADICAL C-SIMPLIFIED BIRDeSALTcSIMPLIFIED WHEATdYELLOWcC-SIMPLIFIED FROG"⟩,
  ⟨0x2EEB, "CJK RADICAL J-SIMPLIFIED EVENcC-SIMPLIFIED EVENcJ-SIMPLIFIED TOOTHcC-SIMPLIFIED TOOTH"⟩,
  ⟨0x2EEF, "CJK RADICAL J-SIMPLIFIED DRAGONcC-SIMPLIFIED DRAGONcTURTLEcJ-SIMPLIFIED TURTLE"⟩,
  ⟨0x2EF3, "CJK RADICAL C-SIMPLIFIED TURTLE"⟩,
  ⟨0x2F00, "KANGXI RADICAL ONEcLINEcDOTcSLASHcSECONDcHOOKcTWOcLIDcMANcLEGScENTERcEIGHTcDOWN BOX"⟩,
  ⟨0x2F0D, "KANGXI RADICAL COVERcICEcTABLEcOPEN BOXcKNIFEcPOWERcWRAPcSPOONcRIGHT OPEN BOX"⟩,
  ⟨0x2F16, "KANGXI RADICAL HIDING ENCLOSUREcTENcDIVINATIONcSEALcCLIFFcPRIVATEcAGAINcMOUTH"⟩,
  ⟨0x2F1E, "KANGXI RADICAL ENCLOSUREcEARTHcSCHOLARcGOcGO SLOWLYcEVENINGcBIGcWOMANcCHILDcROOFcINCH"⟩,
  ⟨0x2F29, "KANGXI RADICAL SMALLcLAMEcCORPSEcSPROUTcMOUNTAINcRIVERcWORKcONESELFcTURBANcDRY"⟩,
  ⟨0x2F33, "KANGXI RADICAL SHORT THREADcDOTTED CLIFFcLONG STRIDEcTWO HANDScSHOOTcBOWcSNOUT"⟩,
  ⟨0x2F3A, "KANGXI RADICAL BRISTLEcSTEPcHEARTcHALBERDcDOORcHANDcBRANCHcRAPcSCRIPTcDIPPERcAXE"⟩,
  ⟨0x2F45, "KANGXI RADICAL SQUAREcNOTcSUNcSAYcMOONcTREEcLACKcSTOPcDEATHcWEAPONcDO NOTcCOMPAREcFUR"⟩,
  ⟨0x2F52, "KANGXI RADICAL CLANcSTEAMcWATERcFIREcCLAWcFATHERcDOUBLE XcHALF TREE TRUNKcSLICEcFANG"⟩,
  ⟨0x2F5C, "KANGXI RADICAL COWcDOGcPROFOUNDcJADEcMELONcTILEcSWEETcLIFEcUSEcFIELDcBOLT OF CLOTH"⟩,
  ⟨0x2F67, "KANGXI RADICAL SICKNESScDOTTED TENTcWHITEcSKINcDISHcEYEcSPEARcARROWcSTONEcSPIRIT"⟩,
  ⟨0x2F71, "KANGXI RADICAL TRACKcGRAINcCAVEcSTANDcBAMBOOcRICEcSILKcJARcNETcSHEEPcFEATHERcOLDcAND"⟩,
  ⟨0x2F7E, "KANGXI RADICAL PLOWcEARcBRUSHcMEATcMINISTERcSELFcARRIVEcMORTARcTONGUEcOPPOSEcBOAT"⟩,
  ⟨0x2F89, "KANGXI RADICAL STOPPINGcCOLORcGRASScTIGERcINSECTcBLOODcWALK ENCLOSUREcCLOTHEScWEST"⟩,
  ⟨0x2F92, "KANGXI RADICAL SEEcHORNcSPEECHcVALLEYcBEANcPIGcBADGERcSHELLcREDcRUNcFOOTcBODYcCART"⟩,
  ⟨0x2F9F, "KANGXI RADICAL BITTERcMORNINGcWALKcCITYcWINEcDISTINGUISHcVILLAGEcGOLDcLONGcGATEcMOUND"⟩,
  ⟨0x2FAA, "KANGXI RADICAL SLAVEcSHORT TAILED BIRDcRAINcBLUEcWRONGcFACEcLEATHERcTANNED LEATHER"⟩,
  ⟨0x2FB2, "KANGXI RADICAL LEEKcSOUNDcLEAFcWINDcFLYcEATcHEADcFRAGRANTcHORSEcBONEcTALLcHAIRcFIGHT"⟩,
  ⟨0x2FBF, "KANGXI RADICAL SACRIFICIAL WINEcCAULDRONcGHOSTcFISHcBIRDcSALTcDEERcWHEATcHEMPcYELLOW"⟩,
  ⟨0x2FC9, "KANGXI RADICAL MILLETcBLACKcEMBROIDERYcFROGcTRIPODcDRUMcRATcNOSEcEVENcTOOTHcDRAGON"⟩,
  ⟨0x2FD4, "KANGXI RADICAL TURTLEcFLUTE"⟩,
  ⟨0x2FF0, "IDEOGRAPHIC DESCRIPTION CHARACTER LEFT TO RIGHTdABOVE TO BELOW"⟩,
  ⟨0x2FF2, "IDEOGRAPHIC DESCRIPTION CHARACTER LEFT TO MIDDLE AND RIGHTdABOVE TO MIDDLE AND BELOW"⟩,
  ⟨0x2FF4, "IDEOGRAPHIC DESCRIPTION CHARACTER FULL SURROUNDdSURROUND FROM ABOVEfBELOWfLEFT"⟩,
  ⟨0x2FF8, "IDEOGRAPHIC DESCRIPTION CHARACTER SURROUND FROM UPPER LEFTgRIGHTfLOWER LEFTdOVERLAID"⟩,
  ⟨0x3000, "IDEOGRAPHIC SPACEbCOMMAbFULL STOPaDITTO MARKaJAPANESE INDUSTRIAL STANDARD SYMBOL"⟩,
  ⟨0x3005, "IDEOGRAPHIC ITERATION MARKbCLOSING MARKbNUMBER ZEROaLEFT ANGLE BRACKET"⟩,
  ⟨0x3009, "RIGHT ANGLE BRACKETaLEFT DOUBLE ANGLE BRACKETaRIGHT DOUBLE ANGLE BRACKET"⟩,
  ⟨0x300C, "LEFT CORNER BRACKETaRIGHT CORNER BRACKETaLEFT WHITE CORNER BRACKET"⟩,
  ⟨0x300F, "RIGHT WHITE CORNER BRACKETaLEFT BLACK LENTICULAR BRACKET"⟩,
  ⟨0x3011, "RIGHT BLACK LENTICULAR BRACKETaPOSTAL MARKaGETA MARKaLEFT TORTOISE SHELL BRACKET"⟩,
  ⟨0x3015, "RIGHT TORTOISE SHELL BRACKETaLEFT WHITE LENTICULAR BRACKET"⟩,
  ⟨0x3017, "RIGHT WHITE LENTICULAR BRACKETaLEFT WHITE TORTOISE SHELL BRACKET"⟩,
  ⟨0x3019, "RIGHT WHITE TORTOISE SHELL BRACKETaLEFT WHITE SQUARE BRACKET"⟩,
  ⟨0x301B, "RIGHT WHITE SQUARE BRACKETaWAVE DASHaREVERSED DOUBLE PRIME QUOTATION MARK"⟩,
  ⟨0x301E, "DOUBLE PRIME QUOTATION MARKaLOW DOUBLE PRIME QUOTATION MARKaPOSTAL MARK FACE"⟩,
  ⟨0x3021, "HANGZHOU NUMERAL ONEcTWOcTHREEcFOURcFIVEcSIXcSEVENcEIGHTcNINE"⟩,
  ⟨0x302A, "IDEOGRAPHIC LEVEL TONE MARKbRISING TONE MARKbDEPARTING TONE MARKbENTERING TONE MARK"⟩,
  ⟨0x302E, "HANGUL SINGLE DOT TONE MARKbDOUBLE DOT TONE MARKaWAVY DASHaVERTICAL KANA REPEAT MARK"⟩,
  ⟨0x3032, "VERTICAL KANA REPEAT WITH VOICED SOUND MARKdMARK UPPER HALF"⟩,
  ⟨0x3034, "VERTICAL KANA REPEAT WITH VOICED SOUND MARK UPPER HALFdMARK LOWER HALF"⟩,
  ⟨0x3036, "CIRCLED POSTAL MARKaIDEOGRAPHIC TELEGRAPH LINE FEED SEPARATOR SYMBOL"⟩,
  ⟨0x3038, "HANGZHOU NUMERAL TENcTWENTYcTHIRTYaVERTICAL IDEOGRAPHIC ITERATION MARKaMASU MARK"⟩,
  ⟨0x303D, "PART ALTERNATION MARKaIDEOGRAPHIC VARIATION INDICATORbHALF FILL SPACE"⟩,
  ⟨0x3041, "HIRAGANA LETTER SMALL AcAcSMALL IcIcSMALL UcUcSMALL EcEcSMALL OcOcKAcGAcKIcGIcKUcGU"⟩,
  ⟨0x3051, "HIRAGANA LETTER KEcGEcKOcGOcSAcZAcSIcZIcSUcZUcSEcZEcSOcZOcTAcDAcTIcDIcSMALL TUcTUcDU"⟩,
  ⟨0x3066, "HIRAGANA LETTER TEcDEcTOcDOcNAcNIcNUcNEcNOcHAcBAcPAcHIcBIcPIcHUcBUcPUcHEcBEcPEcHOcBO"⟩,
  ⟨0x307D, "HIRAGANA LETTER POcMAcMIcMUcMEcMOcSMALL YAcYAcSMALL YUcYUcSMALL YOcYOcRAcRIcRUcREcRO"⟩,
  ⟨0x308E, "HIRAGANA LETTER SMALL WAcWAcWIcWEcWOcNcVUcSMALL KAdKE"⟩,
  ⟨0x3099, "COMBINING KATAKANA-HIRAGANA VOICED SOUND MARKdSEMI-VOICED SOUND MARK"⟩,
  ⟨0x309B, "KATAKANA-HIRAGANA VOICED SOUND MARKcSEMI-VOICED SOUND MARKaHIRAGANA ITERATION MARK"⟩,
  ⟨0x309E, "HIRAGANA VOICED ITERATION MARKbDIGRAPH YORIaKATAKANA-HIRAGANA DOUBLE HYPHEN"⟩,
  ⟨0x30A1, "KATAKANA LETTER SMALL AcAcSMALL IcIcSMALL UcUcSMALL EcEcSMALL OcOcKAcGAcKIcGIcKUcGU"⟩,
  ⟨0x30B1, "KATAKANA LETTER KEcGEcKOcGOcSAcZAcSIcZIcSUcZUcSEcZEcSOcZOcTAcDAcTIcDIcSMALL TUcTUcDU"⟩,
  ⟨0x30C6, "KATAKANA LETTER TEcDEcTOcDOcNAcNIcNUcNEcNOcHAcBAcPAcHIcBIcPIcHUcBUcPUcHEcBEcPEcHOcBO"⟩,
  ⟨0x30DD, "KATAKANA LETTER POcMAcMIcMUcMEcMOcSMALL YAcYAcSMALL YUcYUcSMALL YOcYOcRAcRIcRUcREcRO"⟩,
  ⟨0x30EE, "KATAKANA LETTER SMALL WAcWAcWIcWEcWOcNcVUcSMALL KAdKEcVAcVIcVEcVObMIDDLE DOT"⟩,
  ⟨0x30FC, "KATAKANA-HIRAGANA PROLONGED SOUND MARKaKATAKANA ITERATION MARKbVOICED ITERATION MARK"⟩,
  ⟨0x30FF, "KATAKANA DIGRAPH KOTO"⟩,
  ⟨0x3105, "BOPOMOFO LETTER BcPcMcFcDcTcNcLcGcKcHcJcQcXcZHcCHcSHcRcZcCcScAcOcEcEHcAIcEIcAUcOUcAN"⟩,
  ⟨0x3123, "BOPOMOFO LETTER ENcANGcENGcERcIcUcIUcVcNGcGNcIHcO WITH DOT ABOVEcNN"⟩,
  ⟨0x3131, "HANGUL LETTER KIYEOKcSSANGKIYEOKcKIYEOK-SIOScNIEUNcNIEUN-CIEUCdHIEUHcTIKEUT"⟩,
  ⟨0x3138, "HANGUL LETTER SSANGTIKEUTcRIEULcRIEUL-KIYEOKdMIEUMdPIEUPdSIOSdTHIEUTHdPHIEUPHdHIEUH"⟩,
  ⟨0x3141, "HANGUL LETTER MIEUMcPIEUPcSSANGPIEUPcPIEUP-SIOScSIOScSSANGSIOScIEUNGcCIEUCcSSANGCIEUC"⟩,
  ⟨0x314A, "HANGUL LETTER CHIEUCHcKHIEUKHcTHIEUTHcPHIEUPHcHIEUHcAcAEcYAcYAEcEOcEcYEOcYEcOcWAcWAE"⟩,
  ⟨0x315A, "HANGUL LETTER OEcYOcUcWEOcWEcWIcYUcEUcYIcIbFILLERbLETTER SSANGNIEUNcNIEUN-TIKEUTdSIOS"⟩,
  ⟨0x3168, "HANGUL LETTER NIEUN-PANSIOScRIEUL-KIYEOK-SIOSdTIKEUTdPIEUP-SIOSdPANSIOSdYEORINHIEUH"⟩,
  ⟨0x316E, "HANGUL LETTER MIEUM-PIEUPdSIOSdPANSIOScKAPYEOUNMIEUMcPIEUP-KIYEOKdTIKEUTdSIOS-KIYEOK"⟩,
  ⟨0x3175, "HANGUL LETTER PIEUP-SIOS-TIKEUTdCIEUCdTHIEUTHcKAPYEOUNPIEUPcKAPYEOUNSSANGPIEUP"⟩,
  ⟨0x317A, "HANGUL LETTER SIOS-KIYEOKdNIEUNdTIKEUTdPIEUPdCIEUCcPANSIOScSSANGIEUNGcYESIEUNG"⟩,
  ⟨0x3182, "HANGUL LETTER YESIEUNG-SIOSdPANSIOScKAPYEOUNPHIEUPHcSSANGHIEUHcYEORINHIEUHcYO-YAdYAE"⟩,
  ⟨0x3189, "HANGUL LETTER YO-IcYU-YEOdYEdIcARAEAcARAEAE"⟩,
  ⟨0x3190, "IDEOGRAPHIC ANNOTATION LINKING MARKcREVERSE MARKcONE MARKcTWO MARKcTHREE MARK"⟩,
  ⟨0x3195, "IDEOGRAPHIC ANNOTATION FOUR MARKcTOP MARKcMIDDLE MARKcBOTTOM MARKcFIRST MARK"⟩,
  ⟨0x319A, "IDEOGRAPHIC ANNOTATION SECOND MARKcTHIRD MARKcFOURTH MARKcHEAVEN MARKcEARTH MARK"⟩,
  ⟨0x319F, "IDEOGRAPHIC ANNOTATION MAN MARKaBOPOMOFO LETTER BUcZIcJIcGUcEEcENNcOOcONNcIRcANNcINN"⟩,
  ⟨0x31AB, "BOPOMOFO LETTER UNNcIMcNGGcAINNcAUNNcAMcOMcONGcINNNbFINAL LETTER PdTdKdHbLETTER GHcLH"⟩,
  ⟨0x31BA, "BOPOMOFO LETTER ZYbFINAL LETTER GbLETTER GWcKWcOEcAHaCJK STROKE TcWGcXGcBXGcSWcHZZ"⟩,
  ⟨0x31C6, "CJK STROKE HZGcHPcHZWGcSZWGcHZTcHZZPcHPWGcHZWcHZZZcNcHcScPcSPcDcHZcHGcSZcSWZcSTcSGcPD"⟩,
  ⟨0x31DC, "CJK STROKE PZcTNcSZZcSWGcHXWGcHZZZGcPGcQ"⟩,
  ⟨0x31F0, "KATAKANA LETTER SMALL KUdSIdSUdTOdNUdHAdHIdHUdHEdHOdMUdRAdRIdRUdREdRO"⟩,
  ⟨0x3200, "PARENTHESIZED HANGUL KIYEOKcNIEUNcTIKEUTcRIEULcMIEUMcPIEUPcSIOScIEUNGcCIEUCcCHIEUCH"⟩,
  ⟨0x320A, "PARENTHESIZED HANGUL KHIEUKHcTHIEUTHcPHIEUPHcHIEUHcKIYEOK AcNIEUN AcTIKEUT AcRIEUL A"⟩,
  ⟨0x3212, "PARENTHESIZED HANGUL MIEUM AcPIEUP AcSIOS AcIEUNG AcCIEUC AcCHIEUCH AcKHIEUKH A"⟩,
  ⟨0x3219, "PARENTHESIZED HANGUL THIEUTH AcPHIEUPH AcHIEUH AcCIEUC UbKOREAN CHARACTER OJEONdO HU"⟩,
  ⟨0x3220, "PARENTHESIZED IDEOGRAPH ONEcTWOcTHREEcFOURcFIVEcSIXcSEVENcEIGHTcNINEcTENcMOONcFIRE"⟩,
  ⟨0x322C, "PARENTHESIZED IDEOGRAPH WATERcWOODcMETALcEARTHcSUNcSTOCKcHAVEcSOCIETYcNAMEcSPECIAL"⟩,
  ⟨0x3236, "PARENTHESIZED IDEOGRAPH FINANCIALcCONGRATULATIONcLABORcREPRESENTcCALLcSTUDYcSUPERVISE"⟩,
  ⟨0x323D, "PARENTHESIZED IDEOGRAPH ENTERPRISEcRESOURCEcALLIANCEcFESTIVALcRESTcSELFcREACH"⟩,
  ⟨0x3244, "CIRCLED IDEOGRAPH QUESTIONcKINDERGARTENcSCHOOLcKOTObNUMBER TEN ON BLACK SQUARE"⟩,
  ⟨0x3249, "CIRCLED NUMBER TWENTY ON BLACK SQUAREcTHIRTY ON BLACK SQUAREcFORTY ON BLACK SQUARE"⟩,
  ⟨0x324C, "CIRCLED NUMBER FIFTY ON BLACK SQUAREcSIXTY ON BLACK SQUAREcSEVENTY ON BLACK SQUARE"⟩,
  ⟨0x324F, "CIRCLED NUMBER EIGHTY ON BLACK SQUAREaPARTNERSHIP SIGNaCIRCLED NUMBER TWENTY ONEdTWO"⟩,
  ⟨0x3253, "CIRCLED NUMBER TWENTY THREEdFOURdFIVEdSIXdSEVENdEIGHTdNINEcTHIRTYcTHIRTY ONEdTWO"⟩,
  ⟨0x325D, "CIRCLED NUMBER THIRTY THREEdFOURdFIVEbHANGUL KIYEOKcNIEUNcTIKEUTcRIEULcMIEUMcPIEUP"⟩,
  ⟨0x3266, "CIRCLED HANGUL SIOScIEUNGcCIEUCcCHIEUCHcKHIEUKHcTHIEUTHcPHIEUPHcHIEUHcKIYEOK A"⟩,
  ⟨0x326F, "CIRCLED HANGUL NIEUN AcTIKEUT AcRIEUL AcMIEUM AcPIEUP AcSIOS AcIEUNG AcCIEUC A"⟩,
  ⟨0x3277, "CIRCLED HANGUL CHIEUCH AcKHIEUKH AcTHIEUTH AcPHIEUPH AcHIEUH A"⟩,
  ⟨0x327C, "CIRCLED KOREAN CHARACTER CHAMKOdJUEUIbHANGUL IEUNG UaKOREAN STANDARD SYMBOL"⟩,
  ⟨0x3280, "CIRCLED IDEOGRAPH ONEcTWOcTHREEcFOURcFIVEcSIXcSEVENcEIGHTcNINEcTENcMOONcFIREcWATER"⟩,
  ⟨0x328D, "CIRCLED IDEOGRAPH WOODcMETALcEARTHcSUNcSTOCKcHAVEcSOCIETYcNAMEcSPECIALcFINANCIAL"⟩,
  ⟨0x3297, "CIRCLED IDEOGRAPH CONGRATULATIONcLABORcSECRETcMALEcFEMALEcSUITABLEcEXCELLENTcPRINT"⟩,
  ⟨0x329F, "CIRCLED IDEOGRAPH ATTENTIONcITEMcRESTcCOPYcCORRECTcHIGHcCENTREcLOWcLEFTcRIGHT"⟩,
  ⟨0x32A9, "CIRCLED IDEOGRAPH MEDICINEcRELIGIONcSTUDYcSUPERVISEcENTERPRISEcRESOURCEcALLIANCE"⟩,
  ⟨0x32B0, "CIRCLED IDEOGRAPH NIGHTbNUMBER THIRTY SIXdSEVENdEIGHTdNINEcFORTYcFORTY ONEdTWOdTHREE"⟩,
  ⟨0x32B9, "CIRCLED NUMBER FORTY FOURdFIVEdSIXdSEVENdEIGHTdNINEcFIFTY"⟩,
  ⟨0x32C0, "IDEOGRAPHIC TELEGRAPH SYMBOL FOR JANUARYeFEBRUARYeMARCHeAPRILeMAYeJUNEeJULYeAUGUST"⟩,
  ⟨0x32C8, "IDEOGRAPHIC TELEGRAPH SYMBOL FOR SEPTEMBEReOCTOBEReNOVEMBEReDECEMBERaSQUARE HGbERGbEV"⟩,
  ⟨0x32CF, "LIMITED LIABILITY SIGNaCIRCLED KATAKANA AcIcUcEcOcKAcKIcKUcKEcKOcSAcSIcSUcSEcSOcTAcTI"⟩,
  ⟨0x32E1, "CIRCLED KATAKANA TUcTEcTOcNAcNIcNUcNEcNOcHAcHIcHUcHEcHOcMAcMIcMUcMEcMOcYAcYUcYOcRAcRI"⟩,
  ⟨0x32F8, "CIRCLED KATAKANA RUcREcROcWAcWIcWEcWOaSQUARE ERA NAME REIWAbAPAATObARUHUAbANPEAbAARU"⟩,
  ⟨0x3304, "SQUARE ININGUbINTIbUONbESUKUUDObEEKAAbONSUbOOMUbKAIRIbKARATTObKARORIIbGARONbGANMA"⟩,
  ⟨0x3310, "SQUARE GIGAbGINIIbKYURIIbGIRUDAAbKIRObKIROGURAMUbKIROMEETORUbKIROWATTObGURAMU"⟩,
  ⟨0x3319, "SQUARE GURAMUTONbKURUZEIRObKUROONEbKEESUbKORUNAbKOOPObSAIKURUbSANTIIMUbSIRINGUbSENTI"⟩,
  ⟨0x3323, "SQUARE SENTObDAASUbDESIbDORUbTONbNANObNOTTObHAITUbPAASENTObPAATUbBAARERUbPIASUTORU"⟩,
  ⟨0x332F, "SQUARE PIKURUbPIKObBIRUbHUARADDObHUIITObBUSSYERUbHURANbHEKUTAARUbPESObPENIHIbHERUTU"⟩,
  ⟨0x333A, "SQUARE PENSUbPEEZIbBEETAbPOINTObBORUTObHONbPONDObHOORUbHOONbMAIKURObMAIRUbMAHHA"⟩,
  ⟨0x3346, "SQUARE MARUKUbMANSYONbMIKURONbMIRIbMIRIBAARUbMEGAbMEGATONbMEETORUbYAADObYAARUbYUAN"⟩,
  ⟨0x3351, "SQUARE RITTORUbRIRAbRUPIIbRUUBURUbREMUbRENTOGENbWATTO"⟩,
  ⟨0x3358, "IDEOGRAPHIC TELEGRAPH SYMBOL FOR HOUR ZEROfONEfTWOfTHREEfFOURfFIVEfSIXfSEVENfEIGHT"⟩,
  ⟨0x3361, "IDEOGRAPHIC TELEGRAPH SYMBOL FOR HOUR NINEfTENfELEVENfTWELVEfTHIRTEENfFOURTEEN"⟩,
  ⟨0x3367, "IDEOGRAPHIC TELEGRAPH SYMBOL FOR HOUR FIFTEENfSIXTEENfSEVENTEENfEIGHTEENfNINETEEN"⟩,
  ⟨0x336C, "IDEOGRAPHIC TELEGRAPH SYMBOL FOR HOUR TWENTYfTWENTY-ONEgTWOgTHREEgFOURaSQUARE HPAbDA"⟩,
  ⟨0x3373, "SQUARE AUbBARbOVbPCbDMbDM SQUAREDcCUBEDbIUbERA NAME HEISEIdSYOUWAdTAISYOUdMEIZI"⟩,
  ⟨0x337F, "SQUARE CORPORATIONbPA AMPSbNAbMU AbMAbKAbKBbMBbGBbCALbKCALbPFbNFbMU FcGbMGbKGbHZbKHZ"⟩,
  ⟨0x3392, "SQUARE MHZbGHZbTHZbMU LbMLbDLbKLbFMbNMbMU MbMMbCMbKMbMM SQUAREDbCM SQUAREDbM SQUARED"⟩,
  ⟨0x33A2, "SQUARE KM SQUAREDbMM CUBEDbCM CUBEDbM CUBEDbKM CUBEDbM OVER SdS SQUAREDbPAbKPAbMPA"⟩,
  ⟨0x33AC, "SQUARE GPAbRADbRAD OVER SdS SQUAREDbPSbNSbMU SbMSbPVbNVbMU VbMVbKVbMV MEGAbPWbNWbMU W"⟩,
  ⟨0x33BD, "SQUARE MWbKWbMW MEGAbK OHMbM OHMbAMbBQbCCbCDbC OVER KGbCObDBbGYbHAbHPbINbKK"⟩,
  ⟨0x33CE, "SQUARE KM CAPITALbKTbLMbLNbLOGbLXbMB SMALLbMILbMOLbPHbPMbPPMbPRbSRbSVbWBbV OVER M"⟩,
  ⟨0x33DF, "SQUARE A OVER MaIDEOGRAPHIC TELEGRAPH SYMBOL FOR DAY ONEfTWOfTHREEfFOURfFIVEfSIX"⟩,
  ⟨0x33E6, "IDEOGRAPHIC TELEGRAPH SYMBOL FOR DAY SEVENfEIGHTfNINEfTENfELEVENfTWELVEfTHIRTEEN"⟩,
  ⟨0x33ED, "IDEOGRAPHIC TELEGRAPH SYMBOL FOR DAY FOURTEENfFIFTEENfSIXTEENfSEVENTEENfEIGHTEEN"⟩,
  ⟨0x33F2, "IDEOGRAPHIC TELEGRAPH SYMBOL FOR DAY NINETEENfTWENTYfTWENTY-ONEgTWOgTHREEgFOURgFIVE"⟩,
  ⟨0x33F9, "IDEOGRAPHIC TELEGRAPH SYMBOL FOR DAY TWENTY-SIXgSEVENgEIGHTgNINEfTHIRTYfTHIRTY-ONE"⟩,
  ⟨0x33FF, "SQUARE GAL"⟩,
  ⟨0x4DC0, "HEXAGRAM FOR THE CREATIVE HEAVENdRECEPTIVE EARTHcDIFFICULTY AT THE BEGINNING"⟩,
  ⟨0x4DC3, "HEXAGRAM FOR YOUTHFUL FOLLYcWAITINGcCONFLICTcTHE ARMYcHOLDING TOGETHERcSMALL TAMING"⟩,
  ⟨0x4DC9, "HEXAGRAM FOR TREADINGcPEACEcSTANDSTILLcFELLOWSHIPcGREAT POSSESSIONcMODESTYcENTHUSIASM"⟩,
  ⟨0x4DD0, "HEXAGRAM FOR FOLLOWINGcWORK ON THE DECAYEDcAPPROACHcCONTEMPLATIONcBITING THROUGH"⟩,
  ⟨0x4DD5, "HEXAGRAM FOR GRACEcSPLITTING APARTcRETURNcINNOCENCEcGREAT TAMINGcMOUTH CORNERS"⟩,
  ⟨0x4DDB, "HEXAGRAM FOR GREAT PREPONDERANCEcTHE ABYSMAL WATERdCLINGING FIREcINFLUENCEcDURATION"⟩,
  ⟨0x4DE0, "HEXAGRAM FOR RETREATcGREAT POWERcPROGRESScDARKENING OF THE LIGHTcTHE FAMILY"⟩,
  ⟨0x4DE5, "HEXAGRAM FOR OPPOSITIONcOBSTRUCTIONcDELIVERANCEcDECREASEcINCREASEcBREAKTHROUGH"⟩,
  ⟨0x4DEB, "HEXAGRAM FOR COMING TO MEETcGATHERING TOGETHERcPUSHING UPWARDcOPPRESSIONcTHE WELL"⟩,
  ⟨0x4DF0, "HEXAGRAM FOR REVOLUTIONcTHE CAULDRONdAROUSING THUNDERdKEEPING STILL MOUNTAIN"⟩,
  ⟨0x4DF4, "HEXAGRAM FOR DEVELOPMENTcTHE MARRYING MAIDENcABUNDANCEcTHE WANDERERdGENTLE WIND"⟩,
  ⟨0x4DF9, "HEXAGRAM FOR THE JOYOUS LAKEcDISPERSIONcLIMITATIONcINNER TRUTHcSMALL PREPONDERANCE"⟩,
  ⟨0x4DFE, "HEXAGRAM FOR AFTER COMPLETIONcBEFORE COMPLETION"⟩,
  ⟨0xA000, "YI SYLLABLE ITcIXcIcIPcIETcIEXcIEcIEPcATcAXcAcAPcUOXcUOcUOPcOTcOXcOcOPcEXcEcWUcBIT"⟩,
  ⟨0xA017, "YI SYLLABLE BIXcBIcBIPcBIETcBIEXcBIEcBIEPcBATcBAXcBAcBAPcBUOXcBUOcBUOPcBOTcBOXcBOcBOP"⟩,
  ⟨0xA029, "YI SYLLABLE BEXcBEcBEPcBUTcBUXcBUcBUPcBURXcBURcBYTcBYXcBYcBYPcBYRXcBYRcPITcPIXcPIcPIP"⟩,
  ⟨0xA03C, "YI SYLLABLE PIEXcPIEcPIEPcPATcPAXcPAcPAPcPUOXcPUOcPUOPcPOTcPOXcPOcPOPcPUTcPUXcPUcPUP"⟩,
  ⟨0xA04E, "YI SYLLABLE PURXcPURcPYTcPYXcPYcPYPcPYRXcPYRcBBITcBBIXcBBIcBBIPcBBIETcBBIEXcBBIE"⟩,
  ⟨0xA05D, "YI SYLLABLE BBIEPcBBATcBBAXcBBAcBBAPcBBUOXcBBUOcBBUOPcBBOTcBBOXcBBOcBBOPcBBEXcBBE"⟩,
  ⟨0xA06B, "YI SYLLABLE BBEPcBBUTcBBUXcBBUcBBUPcBBURXcBBURcBBYTcBBYXcBBYcBBYPcNBITcNBIXcNBIcNBIP"⟩,
  ⟨0xA07A, "YI SYLLABLE NBIEXcNBIEcNBIEPcNBATcNBAXcNBAcNBAPcNBOTcNBOXcNBOcNBOPcNBUTcNBUXcNBUcNBUP"⟩,
  ⟨0xA089, "YI SYLLABLE NBURXcNBURcNBYTcNBYXcNBYcNBYPcNBYRXcNBYRcHMITcHMIXcHMIcHMIPcHMIEXcHMIE"⟩,
  ⟨0xA097, "YI SYLLABLE HMIEPcHMATcHMAXcHMAcHMAPcHMUOXcHMUOcHMUOPcHMOTcHMOXcHMOcHMOPcHMUTcHMUX"⟩,
  ⟨0xA0A5, "YI SYLLABLE HMUcHMUPcHMURXcHMURcHMYXcHMYcHMYPcHMYRXcHMYRcMITcMIXcMIcMIPcMIEXcMIEcMIEP"⟩,
  ⟨0xA0B5, "YI SYLLABLE MATcMAXcMAcMAPcMUOTcMUOXcMUOcMUOPcMOTcMOXcMOcMOPcMEXcMEcMUTcMUXcMUcMUP"⟩,
  ⟨0xA0C7, "YI SYLLABLE MURXcMURcMYTcMYXcMYcMYPcFITcFIXcFIcFIPcFATcFAXcFAcFAPcFOXcFOcFOPcFUTcFUX"⟩,
  ⟨0xA0DA, "YI SYLLABLE FUcFUPcFURXcFURcFYTcFYXcFYcFYPcVITcVIXcVIcVIPcVIETcVIEXcVIEcVIEPcVATcVAX"⟩,
  ⟨0xA0EC, "YI SYLLABLE VAcVAPcVOTcVOXcVOcVOPcVEXcVEPcVUTcVUXcVUcVUPcVURXcVURcVYTcVYXcVYcVYPcVYRX"⟩,
  ⟨0xA0FF, "YI SYLLABLE VYRcDITcDIXcDIcDIPcDIEXcDIEcDIEPcDATcDAXcDAcDAPcDUOXcDUOcDOTcDOXcDOcDOP"⟩,
  ⟨0xA111, "YI SYLLABLE DEXcDEcDEPcDUTcDUXcDUcDUPcDURXcDURcTITcTIXcTIcTIPcTIEXcTIEcTIEPcTATcTAX"⟩,
  ⟨0xA123, "YI SYLLABLE TAcTAPcTUOTcTUOXcTUOcTUOPcTOTcTOXcTOcTOPcTEXcTEcTEPcTUTcTUXcTUcTUPcTURX"⟩,
  ⟨0xA135, "YI SYLLABLE TURcDDITcDDIXcDDIcDDIPcDDIEXcDDIEcDDIEPcDDATcDDAXcDDAcDDAPcDDUOXcDDUO"⟩,
  ⟨0xA143, "YI SYLLABLE DDUOPcDDOTcDDOXcDDOcDDOPcDDEXcDDEcDDEPcDDUTcDDUXcDDUcDDUPcDDURXcDDURcNDIT"⟩,
  ⟨0xA152, "YI SYLLABLE NDIXcNDIcNDIPcNDIEXcNDIEcNDATcNDAXcNDAcNDAPcNDOTcNDOXcNDOcNDOPcNDEXcNDE"⟩,
  ⟨0xA161, "YI SYLLABLE NDEPcNDUTcNDUXcNDUcNDUPcNDURXcNDURcHNITcHNIXcHNIcHNIPcHNIETcHNIEXcHNIE"⟩,
  ⟨0xA16F, "YI SYLLABLE HNIEPcHNATcHNAXcHNAcHNAPcHNUOXcHNUOcHNOTcHNOXcHNOPcHNEXcHNEcHNEPcHNUTcNIT"⟩,
  ⟨0xA17E, "YI SYLLABLE NIXcNIcNIPcNIEXcNIEcNIEPcNAXcNAcNAPcNUOXcNUOcNUOPcNOTcNOXcNOcNOPcNEXcNE"⟩,
  ⟨0xA190, "YI SYLLABLE NEPcNUTcNUXcNUcNUPcNURXcNURcHLITcHLIXcHLIcHLIPcHLIEXcHLIEcHLIEPcHLATcHLAX"⟩,
  ⟨0xA1A0, "YI SYLLABLE HLAcHLAPcHLUOXcHLUOcHLUOPcHLOXcHLOcHLOPcHLEXcHLEcHLEPcHLUTcHLUXcHLUcHLUP"⟩,
  ⟨0xA1AF, "YI SYLLABLE HLURXcHLURcHLYTcHLYXcHLYcHLYPcHLYRXcHLYRcLITcLIXcLIcLIPcLIETcLIEXcLIE"⟩,
  ⟨0xA1BE, "YI SYLLABLE LIEPcLATcLAXcLAcLAPcLUOTcLUOXcLUOcLUOPcLOTcLOXcLOcLOPcLEXcLEcLEPcLUTcLUX"⟩,
  ⟨0xA1D0, "YI SYLLABLE LUcLUPcLURXcLURcLYTcLYXcLYcLYPcLYRXcLYRcGITcGIXcGIcGIPcGIETcGIEXcGIEcGIEP"⟩,
  ⟨0xA1E2, "YI SYLLABLE GATcGAXcGAcGAPcGUOTcGUOXcGUOcGUOPcGOTcGOXcGOcGOPcGETcGEXcGEcGEPcGUTcGUX"⟩,
  ⟨0xA1F4, "YI SYLLABLE GUcGUPcGURXcGURcKITcKIXcKIcKIPcKIEXcKIEcKIEPcKATcKAXcKAcKAPcKUOXcKUOcKUOP"⟩,
  ⟨0xA206, "YI SYLLABLE KOTcKOXcKOcKOPcKETcKEXcKEcKEPcKUTcKUXcKUcKUPcKURXcKURcGGITcGGIXcGGIcGGIEX"⟩,
  ⟨0xA218, "YI SYLLABLE GGIEcGGIEPcGGATcGGAXcGGAcGGAPcGGUOTcGGUOXcGGUOcGGUOPcGGOTcGGOXcGGOcGGOP"⟩,
  ⟨0xA226, "YI SYLLABLE GGETcGGEXcGGEcGGEPcGGUTcGGUXcGGUcGGUPcGGURXcGGURcMGIEXcMGIEcMGATcMGAXcMGA"⟩,
  ⟨0xA235, "YI SYLLABLE MGAPcMGUOXcMGUOcMGUOPcMGOTcMGOXcMGOcMGOPcMGEXcMGEcMGEPcMGUTcMGUXcMGUcMGUP"⟩,
  ⟨0xA244, "YI SYLLABLE MGURXcMGURcHXITcHXIXcHXIcHXIPcHXIETcHXIEXcHXIEcHXIEPcHXATcHXAXcHXAcHXAP"⟩,
  ⟨0xA252, "YI SYLLABLE HXUOTcHXUOXcHXUOcHXUOPcHXOTcHXOXcHXOcHXOPcHXEXcHXEcHXEPcNGIEXcNGIEcNGIEP"⟩,
  ⟨0xA260, "YI SYLLABLE NGATcNGAXcNGAcNGAPcNGUOTcNGUOXcNGUOcNGOTcNGOXcNGOcNGOPcNGEXcNGEcNGEPcHIT"⟩,
  ⟨0xA26F, "YI SYLLABLE HIEXcHIEcHATcHAXcHAcHAPcHUOTcHUOXcHUOcHUOPcHOTcHOXcHOcHOPcHEXcHEcHEPcWAT"⟩,
  ⟨0xA281, "YI SYLLABLE WAXcWAcWAPcWUOXcWUOcWUOPcWOXcWOcWOPcWEXcWEcWEPcZITcZIXcZIcZIPcZIEXcZIE"⟩,
  ⟨0xA293, "YI SYLLABLE ZIEPcZATcZAXcZAcZAPcZUOXcZUOcZUOPcZOTcZOXcZOcZOPcZEXcZEcZEPcZUTcZUXcZU"⟩,
  ⟨0xA2A5, "YI SYLLABLE ZUPcZURXcZURcZYTcZYXcZYcZYPcZYRXcZYRcCITcCIXcCIcCIPcCIETcCIEXcCIEcCIEP"⟩,
  ⟨0xA2B6, "YI SYLLABLE CATcCAXcCAcCAPcCUOXcCUOcCUOPcCOTcCOXcCOcCOPcCEXcCEcCEPcCUTcCUXcCUcCUP"⟩,
  ⟨0xA2C8, "YI SYLLABLE CURXcCURcCYTcCYXcCYcCYPcCYRXcCYRcZZITcZZIXcZZIcZZIPcZZIETcZZIEXcZZIE"⟩,
  ⟨0xA2D7, "YI SYLLABLE ZZIEPcZZATcZZAXcZZAcZZAPcZZOXcZZOcZZOPcZZEXcZZEcZZEPcZZUXcZZUcZZUPcZZURX"⟩,
  ⟨0xA2E6, "YI SYLLABLE ZZURcZZYTcZZYXcZZYcZZYPcZZYRXcZZYRcNZITcNZIXcNZIcNZIPcNZIEXcNZIEcNZIEP"⟩,
  ⟨0xA2F4, "YI SYLLABLE NZATcNZAXcNZAcNZAPcNZUOXcNZUOcNZOXcNZOPcNZEXcNZEcNZUXcNZUcNZUPcNZURXcNZUR"⟩,
  ⟨0xA303, "YI SYLLABLE NZYTcNZYXcNZYcNZYPcNZYRXcNZYRcSITcSIXcSIcSIPcSIEXcSIEcSIEPcSATcSAXcSAcSAP"⟩,
  ⟨0xA314, "YI SYLLABLE SUOXcSUOcSUOPcSOTcSOXcSOcSOPcSEXcSEcSEPcSUTcSUXcSUcSUPcSURXcSURcSYTcSYX"⟩,
  ⟨0xA326, "YI SYLLABLE SYcSYPcSYRXcSYRcSSITcSSIXcSSIcSSIPcSSIEXcSSIEcSSIEPcSSATcSSAXcSSAcSSAP"⟩,
  ⟨0xA335, "YI SYLLABLE SSOTcSSOXcSSOcSSOPcSSEXcSSEcSSEPcSSUTcSSUXcSSUcSSUPcSSYTcSSYXcSSYcSSYP"⟩,
  ⟨0xA344, "YI SYLLABLE SSYRXcSSYRcZHATcZHAXcZHAcZHAPcZHUOXcZHUOcZHUOPcZHOTcZHOXcZHOcZHOPcZHET"⟩,
  ⟨0xA352, "YI SYLLABLE ZHEXcZHEcZHEPcZHUTcZHUXcZHUcZHUPcZHURXcZHURcZHYTcZHYXcZHYcZHYPcZHYRXcZHYR"⟩,
  ⟨0xA361, "YI SYLLABLE CHATcCHAXcCHAcCHAPcCHUOTcCHUOXcCHUOcCHUOPcCHOTcCHOXcCHOcCHOPcCHETcCHEX"⟩,
  ⟨0xA36F, "YI SYLLABLE CHEcCHEPcCHUXcCHUcCHUPcCHURXcCHURcCHYTcCHYXcCHYcCHYPcCHYRXcCHYRcRRAXcRRA"⟩,
  ⟨0xA37E, "YI SYLLABLE RRUOXcRRUOcRROTcRROXcRROcRROPcRRETcRREXcRREcRREPcRRUTcRRUXcRRUcRRUPcRRURX"⟩,
  ⟨0xA38D, "YI SYLLABLE RRURcRRYTcRRYXcRRYcRRYPcRRYRXcRRYRcNRATcNRAXcNRAcNRAPcNROXcNROcNROPcNRET"⟩,
  ⟨0xA39C, "YI SYLLABLE NREXcNREcNREPcNRUTcNRUXcNRUcNRUPcNRURXcNRURcNRYTcNRYXcNRYcNRYPcNRYRXcNRYR"⟩,
  ⟨0xA3AB, "YI SYLLABLE SHATcSHAXcSHAcSHAPcSHUOXcSHUOcSHUOPcSHOTcSHOXcSHOcSHOPcSHETcSHEXcSHEcSHEP"⟩,
  ⟨0xA3BA, "YI SYLLABLE SHUTcSHUXcSHUcSHUPcSHURXcSHURcSHYTcSHYXcSHYcSHYPcSHYRXcSHYRcRATcRAXcRA"⟩,
  ⟨0xA3C9, "YI SYLLABLE RAPcRUOXcRUOcRUOPcROTcROXcROcROPcREXcREcREPcRUTcRUXcRUcRUPcRURXcRURcRYT"⟩,
  ⟨0xA3DB, "YI SYLLABLE RYXcRYcRYPcRYRXcRYRcJITcJIXcJIcJIPcJIETcJIEXcJIEcJIEPcJUOTcJUOXcJUOcJUOP"⟩,
  ⟨0xA3EC, "YI SYLLABLE JOTcJOXcJOcJOPcJUTcJUXcJUcJUPcJURXcJURcJYTcJYXcJYcJYPcJYRXcJYRcQITcQIXcQI"⟩,
  ⟨0xA3FF, "YI SYLLABLE QIPcQIETcQIEXcQIEcQIEPcQUOTcQUOXcQUOcQUOPcQOTcQOXcQOcQOPcQUTcQUXcQUcQUP"⟩,
  ⟨0xA410, "YI SYLLABLE QURXcQURcQYTcQYXcQYcQYPcQYRXcQYRcJJITcJJIXcJJIcJJIPcJJIETcJJIEXcJJIE"⟩,
  ⟨0xA41F, "YI SYLLABLE JJIEPcJJUOXcJJUOcJJUOPcJJOTcJJOXcJJOcJJOPcJJUTcJJUXcJJUcJJUPcJJURXcJJUR"⟩,
  ⟨0xA42D, "YI SYLLABLE JJYTcJJYXcJJYcJJYPcNJITcNJIXcNJIcNJIPcNJIETcNJIEXcNJIEcNJIEPcNJUOXcNJUO"⟩,
  ⟨0xA43B, "YI SYLLABLE NJOTcNJOXcNJOcNJOPcNJUXcNJUcNJUPcNJURXcNJURcNJYTcNJYXcNJYcNJYPcNJYRXcNJYR"⟩,
  ⟨0xA44A, "YI SYLLABLE NYITcNYIXcNYIcNYIPcNYIETcNYIEXcNYIEcNYIEPcNYUOXcNYUOcNYUOPcNYOTcNYOXcNYO"⟩,
  ⟨0xA458, "YI SYLLABLE NYOPcNYUTcNYUXcNYUcNYUPcXITcXIXcXIcXIPcXIETcXIEXcXIEcXIEPcXUOXcXUOcXOT"⟩,
  ⟨0xA468, "YI SYLLABLE XOXcXOcXOPcXYTcXYXcXYcXYPcXYRXcXYRcYITcYIXcYIcYIPcYIETcYIEXcYIEcYIEPcYUOT"⟩,
  ⟨0xA47A, "YI SYLLABLE YUOXcYUOcYUOPcYOTcYOXcYOcYOPcYUTcYUXcYUcYUPcYURXcYURcYYTcYYXcYYcYYPcYYRX"⟩,
  ⟨0xA48C, "YI SYLLABLE YYR"⟩,
  ⟨0xA490, "YI RADICAL QOTcLIcKITcNYIPcCYPcSSIcGGOPcGEPcMIcHXITcLYRcBBUTcMOPcYOcPUTcHXUOcTATcGA"⟩,
  ⟨0xA4A2, "YI RADICAL ZUPcCYTcDDURcBURcGGUOcNYOPcTUcOPcJJUTcZOTcPYTcHMOcYITcVURcSHYcVEPcZAcJO"⟩,
  ⟨0xA4B4, "YI RADICAL NZUPcJJYcGOTcJJIEcWOcDUcSHURcLIEcCYcCUOPcCIPcHXOPcSHATcZURcSHOPcCHEcZZIET"⟩,
  ⟨0xA4C5, "YI RADICAL NBIEcKE"⟩,
  ⟨0xA4D0, "LISU LETTER BAcPAcPHAcDAcTAcTHAcGAcKAcKHAcJAcCAcCHAcDZAcTSAcTSHAcMAcNAcLAcSAcZHAcZA"⟩,
  ⟨0xA4E5, "LISU LETTER NGAcHAcXAcHHAcFAcWAcSHAcYAcGHAcAcAEcEcEUcIcOcUcUEcUHcOEcTONE MYA TIdNA PO"⟩,
  ⟨0xA4FA, "LISU LETTER TONE MYA CYAeBOeNAeJEUbPUNCTUATION COMMAcFULL STOPaVAI SYLLABLE EEcEEN"⟩,
  ⟨0xA502, "VAI SYLLABLE HEEcWEEcWEENcPEEcBHEEcBEEcMBEEcKPEEcMGBEEcGBEEcFEEcVEEcTEEcTHEEcDHEE"⟩,
  ⟨0xA511, "VAI SYLLABLE DHHEEcLEEcREEcDEEcNDEEcSEEcSHEEcZEEcZHEEcCEEcJEEcNJEEcYEEcKEEcNGGEEcGEE"⟩,
  ⟨0xA521, "VAI SYLLABLE MEEcNEEcNYEEcIcINcHIcHINcWIcWINcPIcBHIcBIcMBIcKPIcMGBIcGBIcFIcVIcTIcTHI"⟩,
  ⟨0xA535, "VAI SYLLABLE DHIcDHHIcLIcRIcDIcNDIcSIcSHIcZIcZHIcCIcJIcNJIcYIcKIcNGGIcGIcMIcNIcNYIcA"⟩,
  ⟨0xA54A, "VAI SYLLABLE ANcNGANcHAcHANcWAcWANcPAcBHAcBAcMBAcKPAcKPANcMGBAcGBAcFAcVAcTAcTHAcDHA"⟩,
  ⟨0xA55D, "VAI SYLLABLE DHHAcLAcRAcDAcNDAcSAcSHAcZAcZHAcCAcJAcNJAcYAcKAcKANcNGGAcGAcMAcNAcNYAcOO"⟩,
  ⟨0xA572, "VAI SYLLABLE OONcHOOcWOOcWOONcPOOcBHOOcBOOcMBOOcKPOOcMGBOOcGBOOcFOOcVOOcTOOcTHOOcDHOO"⟩,
  ⟨0xA582, "VAI SYLLABLE DHHOOcLOOcROOcDOOcNDOOcSOOcSHOOcZOOcZHOOcCOOcJOOcNJOOcYOOcKOOcNGGOOcGOO"⟩,
  ⟨0xA592, "VAI SYLLABLE MOOcNOOcNYOOcUcUNcHUcHUNcWUcWUNcPUcBHUcBUcMBUcKPUcMGBUcGBUcFUcVUcTUcTHU"⟩,
  ⟨0xA5A6, "VAI SYLLABLE DHUcDHHUcLUcRUcDUcNDUcSUcSHUcZUcZHUcCUcJUcNJUcYUcKUcNGGUcGUcMUcNUcNYUcO"⟩,
  ⟨0xA5BB, "VAI SYLLABLE ONcNGONcHOcHONcWOcWONcPOcBHOcBOcMBOcKPOcMGBOcGBOcGBONcFOcVOcTOcTHOcDHO"⟩,
  ⟨0xA5CE, "VAI SYLLABLE DHHOcLOcROcDOcNDOcSOcSHOcZOcZHOcCOcJOcNJOcYOcKOcNGGOcGOcMOcNOcNYOcEcEN"⟩,
  ⟨0xA5E3, "VAI SYLLABLE NGENcHEcHENcWEcWENcPEcBHEcBEcMBEcKPEcKPENcMGBEcGBEcGBENcFEcVEcTEcTHEcDHE"⟩,
  ⟨0xA5F6, "VAI SYLLABLE DHHEcLEcREcDEcNDEcSEcSHEcZEcZHEcCEcJEcNJEcYEcKEcNGGEcNGGENcGEcGENcMEcNE"⟩,
  ⟨0xA60A, "VAI SYLLABLE NYEcNGcLENGTHENERbCOMMAbFULL STOPbQUESTION MARKbSYLLABLE NDOLE FAdKAdSOO"⟩,
  ⟨0xA613, "VAI SYMBOL FEENGcKEENGcTINGcNIIcBANGcFAAcTAAcDANGcDOONGcKUNGcTONGcDO-OcJONG"⟩,
  ⟨0xA620, "VAI DIGIT ZEROcONEcTWOcTHREEcFOURcFIVEcSIXcSEVENcEIGHTcNINEbSYLLABLE NDOLE MAdDO"⟩,
  ⟨0xA640, "CYRILLIC CAPITAL LETTER ZEMLYAbSMALL LETTER ZEMLYAbCAPITAL LETTER DZELO"⟩,
  ⟨0xA643, "CYRILLIC SMALL LETTER DZELObCAPITAL LETTER REVERSED DZEbSMALL LETTER REVERSED DZE"⟩,
  ⟨0xA646, "CYRILLIC CAPITAL LETTER IOTAbSMALL LETTER IOTAbCAPITAL LETTER DJERV"⟩,
  ⟨0xA649, "CYRILLIC SMALL LETTER DJERVbCAPITAL LETTER MONOGRAPH UKbSMALL LETTER MONOGRAPH UK"⟩,
  ⟨0xA64C, "CYRILLIC CAPITAL LETTER BROAD OMEGAbSMALL LETTER BROAD OMEGA"⟩,
  ⟨0xA64E, "CYRILLIC CAPITAL LETTER NEUTRAL YERbSMALL LETTER NEUTRAL YER"⟩,
  ⟨0xA650, "CYRILLIC CAPITAL LETTER YERU WITH BACK YERbSMALL LETTER YERU WITH BACK YER"⟩,
  ⟨0xA652, "CYRILLIC CAPITAL LETTER IOTIFIED YATbSMALL LETTER IOTIFIED YAT"⟩,
  ⟨0xA654, "CYRILLIC CAPITAL LETTER REVERSED YUbSMALL LETTER REVERSED YU"⟩,
  ⟨0xA656, "CYRILLIC CAPITAL LETTER IOTIFIED AbSMALL LETTER IOTIFIED A"⟩,
  ⟨0xA658, "CYRILLIC CAPITAL LETTER CLOSED LITTLE YUSbSMALL LETTER CLOSED LITTLE YUS"⟩,
  ⟨0xA65A, "CYRILLIC CAPITAL LETTER BLENDED YUSbSMALL LETTER BLENDED YUS"⟩,
  ⟨0xA65C, "CYRILLIC CAPITAL LETTER IOTIFIED CLOSED LITTLE YUS"⟩,
  ⟨0xA65D, "CYRILLIC SMALL LETTER IOTIFIED CLOSED LITTLE YUSbCAPITAL LETTER YNbSMALL LETTER YN"⟩,
  ⟨0xA660, "CYRILLIC CAPITAL LETTER REVERSED TSEbSMALL LETTER REVERSED TSEbCAPITAL LETTER SOFT DE"⟩,
  ⟨0xA663, "CYRILLIC SMALL LETTER SOFT DEbCAPITAL LETTER SOFT ELbSMALL LETTER SOFT EL"⟩,
  ⟨0xA666, "CYRILLIC CAPITAL LETTER SOFT EMbSMALL LETTER SOFT EMbCAPITAL LETTER MONOCULAR O"⟩,
  ⟨0xA669, "CYRILLIC SMALL LETTER MONOCULAR ObCAPITAL LETTER BINOCULAR ObSMALL LETTER BINOCULAR O"⟩,
  ⟨0xA66C, "CYRILLIC CAPITAL LETTER DOUBLE MONOCULAR ObSMALL LETTER DOUBLE MONOCULAR O"⟩,
  ⟨0xA66E, "CYRILLIC LETTER MULTIOCULAR OaCOMBINING CYRILLIC VZMETcTEN MILLIONS SIGN"⟩,
  ⟨0xA671, "COMBINING CYRILLIC HUNDRED MILLIONS SIGNcTHOUSAND MILLIONS SIGNaSLAVONIC ASTERISK"⟩,
  ⟨0xA674, "COMBINING CYRILLIC LETTER UKRAINIAN IEdIdYIdUdHARD SIGNdYERUdSOFT SIGNdOMEGAcKAVYKA"⟩,
  ⟨0xA67D, "COMBINING CYRILLIC PAYEROKaCYRILLIC KAVYKAbPAYEROKbCAPITAL LETTER DWE"⟩,
  ⟨0xA681, "CYRILLIC SMALL LETTER DWEbCAPITAL LETTER DZWEbSMALL LETTER DZWEbCAPITAL LETTER ZHWE"⟩,
  ⟨0xA685, "CYRILLIC SMALL LETTER ZHWEbCAPITAL LETTER CCHEbSMALL LETTER CCHEbCAPITAL LETTER DZZE"⟩,
  ⟨0xA689, "CYRILLIC SMALL LETTER DZZEbCAPITAL LETTER TE WITH MIDDLE HOOK"⟩,
  ⟨0xA68B, "CYRILLIC SMALL LETTER TE WITH MIDDLE HOOKbCAPITAL LETTER TWEbSMALL LETTER TWE"⟩,
  ⟨0xA68E, "CYRILLIC CAPITAL LETTER TSWEbSMALL LETTER TSWEbCAPITAL LETTER TSSEbSMALL LETTER TSSE"⟩,
  ⟨0xA692, "CYRILLIC CAPITAL LETTER TCHEbSMALL LETTER TCHEbCAPITAL LETTER HWEbSMALL LETTER HWE"⟩,
  ⟨0xA696, "CYRILLIC CAPITAL LETTER SHWEbSMALL LETTER SHWEbCAPITAL LETTER DOUBLE O"⟩,
  ⟨0xA699, "CYRILLIC SMALL LETTER DOUBLE ObCAPITAL LETTER CROSSED ObSMALL LETTER CROSSED O"⟩,
  ⟨0xA69C, "MODIFIER LETTER CYRILLIC HARD SIGNdSOFT SIGNaCOMBINING CYRILLIC LETTER EFdIOTIFIED E"⟩,
  ⟨0xA6A0, "BAMUM LETTER AcKAcUcKUcEEcREEcTAEcOcNYIcIcLAcPAcRIIcRIEEcLEEEEcMEEEEcTAAcNDAAcNJAEMcM"⟩,
  ⟨0xA6B4, "BAMUM LETTER SUUcMUcSHIIcSIcSHEUXcSEUXcKYEEcKETcNUAEcNUcNJUAEcYOQcSHUcYUQcYAcNSHA"⟩,
  ⟨0xA6C4, "BAMUM LETTER KEUXcPEUXcNJEEcNTEEcPUEcWUEcPEEcFEEcRUcLUcMIcNIcREUXcRAEcKENcNGKWAEN"⟩,
  ⟨0xA6D4, "BAMUM LETTER NGGAcNGAcSHOcPUAEcFUcFOMcWAcNAcLIcPIcLOQcKOcMBENcRENcMENcMAcTIcKIcMO"⟩,
  ⟨0xA6E7, "BAMUM LETTER MBAAcTETcKPAcTENcNTUUcSAMBAcFAAMAEcKOVUUcKOGHOMbCOMBINING MARK KOQNDON"⟩,
  ⟨0xA6F1, "BAMUM COMBINING MARK TUKWENTISbNJAEMLIbFULL STOPbCOLONbCOMMAbSEMICOLONbQUESTION MARK"⟩,
  ⟨0xA700, "MODIFIER LETTER CHINESE TONE YIN PINGeYANG PINGeYIN SHANGeYANG SHANGeYIN QUeYANG QU"⟩,
  ⟨0xA706, "MODIFIER LETTER CHINESE TONE YIN RUeYANG RUcEXTRA-HIGH DOTTED TONE BAR"⟩,
  ⟨0xA709, "MODIFIER LETTER HIGH DOTTED TONE BARcMID DOTTED TONE BARcLOW DOTTED TONE BAR"⟩,
  ⟨0xA70C, "MODIFIER LETTER EXTRA-LOW DOTTED TONE BARdHIGH DOTTED LEFT-STEM TONE BAR"⟩,
  ⟨0xA70E, "MODIFIER LETTER HIGH DOTTED LEFT-STEM TONE BARcMID DOTTED LEFT-STEM TONE BAR"⟩,
  ⟨0xA710, "MODIFIER LETTER LOW DOTTED LEFT-STEM TONE BARcEXTRA-LOW DOTTED LEFT-STEM TONE BAR"⟩,
  ⟨0xA712, "MODIFIER LETTER EXTRA-HIGH LEFT-STEM TONE BARcHIGH LEFT-STEM TONE BAR"⟩,
  ⟨0xA714, "MODIFIER LETTER MID LEFT-STEM TONE BARcLOW LEFT-STEM TONE BAR"⟩,
  ⟨0xA716, "MODIFIER LETTER EXTRA-LOW LEFT-STEM TONE BARcDOT VERTICAL BARdSLASHdHORIZONTAL BAR"⟩,
  ⟨0xA71A, "MODIFIER LETTER LOWER RIGHT CORNER ANGLEcRAISED UP ARROWdDOWN ARROWdEXCLAMATION MARK"⟩,
  ⟨0xA71E, "MODIFIER LETTER RAISED INVERTED EXCLAMATION MARKcLOW INVERTED EXCLAMATION MARK"⟩,
  ⟨0xA720, "MODIFIER LETTER STRESS AND HIGH TONEeLOW TONEaLATIN CAPITAL LETTER EGYPTOLOGICAL ALEF"⟩,
  ⟨0xA723, "LATIN SMALL LETTER EGYPTOLOGICAL ALEFbCAPITAL LETTER EGYPTOLOGICAL AIN"⟩,
  ⟨0xA725, "LATIN SMALL LETTER EGYPTOLOGICAL AINbCAPITAL LETTER HENGbSMALL LETTER HENG"⟩,
  ⟨0xA728, "LATIN CAPITAL LETTER TZbSMALL LETTER TZbCAPITAL LETTER TRESILLObSMALL LETTER TRESILLO"⟩,
  ⟨0xA72C, "LATIN CAPITAL LETTER CUATRILLObSMALL LETTER CUATRILLO"⟩,
  ⟨0xA72E, "LATIN CAPITAL LETTER CUATRILLO WITH COMMAbSMALL LETTER CUATRILLO WITH COMMA"⟩,
  ⟨0xA730, "LATIN LETTER SMALL CAPITAL FeSbCAPITAL LETTER AAbSMALL LETTER AAbCAPITAL LETTER AO"⟩,
  ⟨0xA735, "LATIN SMALL LETTER AObCAPITAL LETTER AUbSMALL LETTER AUbCAPITAL LETTER AV"⟩,
  ⟨0xA739, "LATIN SMALL LETTER AVbCAPITAL LETTER AV WITH HORIZONTAL BAR"⟩,
  ⟨0xA73B, "LATIN SMALL LETTER AV WITH HORIZONTAL BARbCAPITAL LETTER AYbSMALL LETTER AY"⟩,
  ⟨0xA73E, "LATIN CAPITAL LETTER REVERSED C WITH DOTbSMALL LETTER REVERSED C WITH DOT"⟩,
  ⟨0xA740, "LATIN CAPITAL LETTER K WITH STROKEbSMALL LETTER K WITH STROKE"⟩,
  ⟨0xA742, "LATIN CAPITAL LETTER K WITH DIAGONAL STROKEbSMALL LETTER K WITH DIAGONAL STROKE"⟩,
  ⟨0xA744, "LATIN CAPITAL LETTER K WITH STROKE AND DIAGONAL STROKE"⟩,
  ⟨0xA745, "LATIN SMALL LETTER K WITH STROKE AND DIAGONAL STROKEbCAPITAL LETTER BROKEN L"⟩,
  ⟨0xA747, "LATIN SMALL LETTER BROKEN LbCAPITAL LETTER L WITH HIGH STROKE"⟩,
  ⟨0xA749, "LATIN SMALL LETTER L WITH HIGH STROKEbCAPITAL LETTER O WITH LONG STROKE OVERLAY"⟩,
  ⟨0xA74B, "LATIN SMALL LETTER O WITH LONG STROKE OVERLAYbCAPITAL LETTER O WITH LOOP"⟩,
  ⟨0xA74D, "LATIN SMALL LETTER O WITH LOOPbCAPITAL LETTER OObSMALL LETTER OO"⟩,
  ⟨0xA750, "LATIN CAPITAL LETTER P WITH STROKE THROUGH DESCENDER"⟩,
  ⟨0xA751, "LATIN SMALL LETTER P WITH STROKE THROUGH DESCENDERbCAPITAL LETTER P WITH FLOURISH"⟩,
  ⟨0xA753, "LATIN SMALL LETTER P WITH FLOURISHbCAPITAL LETTER P WITH SQUIRREL TAIL"⟩,
  ⟨0xA755, "LATIN SMALL LETTER P WITH SQUIRREL TAIL"⟩,
  ⟨0xA756, "LATIN CAPITAL LETTER Q WITH STROKE THROUGH DESCENDER"⟩,
  ⟨0xA757, "LATIN SMALL LETTER Q WITH STROKE THROUGH DESCENDER"⟩,
  ⟨0xA758, "LATIN CAPITAL LETTER Q WITH DIAGONAL STROKEbSMALL LETTER Q WITH DIAGONAL STROKE"⟩,
  ⟨0xA75A, "LATIN CAPITAL LETTER R ROTUNDAbSMALL LETTER R ROTUNDAbCAPITAL LETTER RUM ROTUNDA"⟩,
  ⟨0xA75D, "LATIN SMALL LETTER RUM ROTUNDAbCAPITAL LETTER V WITH DIAGONAL STROKE"⟩,
  ⟨0xA75F, "LATIN SMALL LETTER V WITH DIAGONAL STROKEbCAPITAL LETTER VYbSMALL LETTER VY"⟩,
  ⟨0xA762, "LATIN CAPITAL LETTER VISIGOTHIC ZbSMALL LETTER VISIGOTHIC Z"⟩,
  ⟨0xA764, "LATIN CAPITAL LETTER THORN WITH STROKEbSMALL LETTER THORN WITH STROKE"⟩,
  ⟨0xA766, "LATIN CAPITAL LETTER THORN WITH STROKE THROUGH DESCENDER"⟩,
  ⟨0xA767, "LATIN SMALL LETTER THORN WITH STROKE THROUGH DESCENDERbCAPITAL LETTER VEND"⟩,
  ⟨0xA769, "LATIN SMALL LETTER VENDbCAPITAL LETTER ETbSMALL LETTER ETbCAPITAL LETTER IS"⟩,
  ⟨0xA76D, "LATIN SMALL LETTER ISbCAPITAL LETTER CONbSMALL LETTER CONaMODIFIER LETTER US"⟩,
  ⟨0xA771, "LATIN SMALL LETTER DUMdLUMdMUMdNUMdRUMbLETTER SMALL CAPITAL RUMbSMALL LETTER TUMdUM"⟩,
  ⟨0xA779, "LATIN CAPITAL LETTER INSULAR DbSMALL LETTER INSULAR DbCAPITAL LETTER INSULAR F"⟩,
  ⟨0xA77C, "LATIN SMALL LETTER INSULAR FbCAPITAL LETTER INSULAR GdTURNED INSULAR G"⟩,
  ⟨0xA77F, "LATIN SMALL LETTER TURNED INSULAR GbCAPITAL LETTER TURNED LbSMALL LETTER TURNED L"⟩,
  ⟨0xA782, "LATIN CAPITAL LETTER INSULAR RbSMALL LETTER INSULAR RbCAPITAL LETTER INSULAR S"⟩,
  ⟨0xA785, "LATIN SMALL LETTER INSULAR SbCAPITAL LETTER INSULAR TbSMALL LETTER INSULAR T"⟩,
  ⟨0xA788, "MODIFIER LETTER LOW CIRCUMFLEX ACCENTcCOLONcSHORT EQUALS SIGN"⟩,
  ⟨0xA78B, "LATIN CAPITAL LETTER SALTILLObSMALL LETTER SALTILLObCAPITAL LETTER TURNED H"⟩,
  ⟨0xA78E, "LATIN SMALL LETTER L WITH RETROFLEX HOOK AND BELTbLETTER SINOLOGICAL DOT"⟩,
  ⟨0xA790, "LATIN CAPITAL LETTER N WITH DESCENDERbSMALL LETTER N WITH DESCENDER"⟩,
  ⟨0xA792, "LATIN CAPITAL LETTER C WITH BARbSMALL LETTER C WITH BARfPALATAL HOOK"⟩,
  ⟨0xA795, "LATIN SMALL LETTER H WITH PALATAL HOOKbCAPITAL LETTER B WITH FLOURISH"⟩,
  ⟨0xA797, "LATIN SMALL LETTER B WITH FLOURISHbCAPITAL LETTER F WITH STROKE"⟩,
  ⟨0xA799, "LATIN SMALL LETTER F WITH STROKEbCAPITAL LETTER VOLAPUK AEbSMALL LETTER VOLAPUK AE"⟩,
  ⟨0xA79C, "LATIN CAPITAL LETTER VOLAPUK OEbSMALL LETTER VOLAPUK OEbCAPITAL LETTER VOLAPUK UE"⟩,
  ⟨0xA79F, "LATIN SMALL LETTER VOLAPUK UEbCAPITAL LETTER G WITH OBLIQUE STROKE"⟩,
  ⟨0xA7A1, "LATIN SMALL LETTER G WITH OBLIQUE STROKEbCAPITAL LETTER K WITH OBLIQUE STROKE"⟩,
  ⟨0xA7A3, "LATIN SMALL LETTER K WITH OBLIQUE STROKEbCAPITAL LETTER N WITH OBLIQUE STROKE"⟩,
  ⟨0xA7A5, "LATIN SMALL LETTER N WITH OBLIQUE STROKEbCAPITAL LETTER R WITH OBLIQUE STROKE"⟩,
  ⟨0xA7A7, "LATIN SMALL LETTER R WITH OBLIQUE STROKEbCAPITAL LETTER S WITH OBLIQUE STROKE"⟩,
  ⟨0xA7A9, "LATIN SMALL LETTER S WITH OBLIQUE STROKEbCAPITAL LETTER H WITH HOOKdREVERSED OPEN E"⟩,
  ⟨0xA7AC, "LATIN CAPITAL LETTER SCRIPT GdL WITH BELTdSMALL CAPITAL IbLETTER SMALL CAPITAL Q"⟩,
  ⟨0xA7B0, "LATIN CAPITAL LETTER TURNED KeTdJ WITH CROSSED-TAILdCHIdBETAbSMALL LETTER BETA"⟩,
  ⟨0xA7B6, "LATIN CAPITAL LETTER OMEGAbSMALL LETTER OMEGAbCAPITAL LETTER U WITH STROKE"⟩,
  ⟨0xA7B9, "LATIN SMALL LETTER U WITH STROKEbCAPITAL LETTER GLOTTAL AbSMALL LETTER GLOTTAL A"⟩,
  ⟨0xA7BC, "LATIN CAPITAL LETTER GLOTTAL IbSMALL LETTER GLOTTAL IbCAPITAL LETTER GLOTTAL U"⟩,
  ⟨0xA7BF, "LATIN SMALL LETTER GLOTTAL UbCAPITAL LETTER OLD POLISH ObSMALL LETTER OLD POLISH O"⟩,
  ⟨0xA7C2, "LATIN CAPITAL LETTER ANGLICANA WbSMALL LETTER ANGLICANA W"⟩,
  ⟨0xA7C4, "LATIN CAPITAL LETTER C WITH PALATAL HOOKdS WITH HOOKdZ WITH PALATAL HOOK"⟩,
  ⟨0xA7C7, "LATIN CAPITAL LETTER D WITH SHORT STROKE OVERLAY"⟩,
  ⟨0xA7C8, "LATIN SMALL LETTER D WITH SHORT STROKE OVERLAY"⟩,
  ⟨0xA7C9, "LATIN CAPITAL LETTER S WITH SHORT STROKE OVERLAY"⟩,
  ⟨0xA7CA, "LATIN SMALL LETTER S WITH SHORT STROKE OVERLAY"⟩,
  ⟨0xA7D0, "LATIN CAPITAL LETTER CLOSED INSULAR GbSMALL LETTER CLOSED INSULAR G"⟩,
  ⟨0xA7D3, "LATIN SMALL LETTER DOUBLE THORN"⟩,
  ⟨0xA7D5, "LATIN SMALL LETTER DOUBLE WYNNbCAPITAL LETTER MIDDLE SCOTS S"⟩,
  ⟨0xA7D7, "LATIN SMALL LETTER MIDDLE SCOTS SbCAPITAL LETTER SIGMOID SbSMALL LETTER SIGMOID S"⟩,
  ⟨0xA7F2, "MODIFIER LETTER CAPITAL CdFdQaLATIN CAPITAL LETTER REVERSED HALF H"⟩,
  ⟨0xA7F6, "LATIN SMALL LETTER REVERSED HALF HbEPIGRAPHIC LETTER SIDEWAYS I"⟩,
  ⟨0xA7F8, "MODIFIER LETTER CAPITAL H WITH STROKEcSMALL LIGATURE OE"⟩,
  ⟨0xA7FA, "LATIN LETTER SMALL CAPITAL TURNED MbEPIGRAPHIC LETTER REVERSED FePdINVERTED MdI LONGA"⟩,
  ⟨0xA7FF, "LATIN EPIGRAPHIC LETTER ARCHAIC MaSYLOTI NAGRI LETTER AdIcSIGN DVISVARAcLETTER UdEdO"⟩,
  ⟨0xA806, "SYLOTI NAGRI SIGN HASANTAcLETTER KOdKHOdGOdGHOcSIGN ANUSVARAcLETTER COdCHOdJOdJHOdTTO"⟩,
  ⟨0xA811, "SYLOTI NAGRI LETTER TTHOdDDOdDDHOdTOdTHOdDOdDHOdNOdPOdPHOdBOdBHOdMOdROdLOdRROdSOdHO"⟩,
  ⟨0xA823, "SYLOTI NAGRI VOWEL SIGN AeIeUeEeOOcPOETRY MARK-1e2e3e4cSIGN ALTERNATE HASANTA"⟩,
  ⟨0xA830, "NORTH INDIC FRACTION ONE QUARTEReHALFdTHREE QUARTERSdONE SIXTEENTHeEIGHTH"⟩,
  ⟨0xA835, "NORTH INDIC FRACTION THREE SIXTEENTHScQUARTER MARKcPLACEHOLDER MARKcRUPEE MARK"⟩,
  ⟨0xA839, "NORTH INDIC QUANTITY MARK"⟩,
  ⟨0xA840, "PHAGS-PA LETTER KAdKHAdGAdNGAdCAdCHAdJAdNYAdTAdTHAdDAdNAdPAdPHAdBAdMAdTSAdTSHAdDZAdWA"⟩,
  ⟨0xA854, "PHAGS-PA LETTER ZHAdZAdSMALL AdYAdRAdLAdSHAdSAdHAdAdIdUdEdOdQAdXAdFAdGGAdEE"⟩,
  ⟨0xA867, "PHAGS-PA SUBJOINED LETTER WAeYAcLETTER TTAdTTHAdDDAdNNAdALTERNATE YAdVOICELESS SHA"⟩,
  ⟨0xA86F, "PHAGS-PA LETTER VOICED HAdASPIRATED FAcSUBJOINED LETTER RAcSUPERFIXED LETTER RA"⟩,
  ⟨0xA873, "PHAGS-PA LETTER CANDRABINDUcSINGLE HEAD MARKcDOUBLE HEAD MARKcMARK SHADdDOUBLE SHAD"⟩,
  ⟨0xA880, "SAURASHTRA SIGN ANUSVARAcVISARGAbLETTER AcAAcIcIIcUcUUcVOCALIC RdRRdLdLLcEcEEcAIcOcOO"⟩,
  ⟨0xA891, "SAURASHTRA LETTER AUcKAcKHAcGAcGHAcNGAcCAcCHAcJAcJHAcNYAcTTAcTTHAcDDAcDDHAcNNAcTAcTHA"⟩,
  ⟨0xA8A3, "SAURASHTRA LETTER DAcDHAcNAcPAcPHAcBAcBHAcMAcYAcRAcLAcVAcSHAcSSAcSAcHAcLLA"⟩,
  ⟨0xA8B4, "SAURASHTRA CONSONANT SIGN HAARUbVOWEL SIGN AAdIdIIdUdUUdVOCALIC ReRReLeLLdEdEEdAIdO"⟩,
  ⟨0xA8C2, "SAURASHTRA VOWEL SIGN OOdAUbSIGN VIRAMAcCANDRABINDU"⟩,
  ⟨0xA8CE, "SAURASHTRA DANDAbDOUBLE DANDAbDIGIT ZEROcONEcTWOcTHREEcFOURcFIVEcSIXcSEVENcEIGHTcNINE"⟩,
  ⟨0xA8E0, "COMBINING DEVANAGARI DIGIT ZEROdONEdTWOdTHREEdFOURdFIVEdSIXdSEVENdEIGHTdNINEcLETTER A"⟩,
  ⟨0xA8EB, "COMBINING DEVANAGARI LETTER UdKAdNAdPAdRAdVIcSIGN AVAGRAHA"⟩,
  ⟨0xA8F2, "DEVANAGARI SIGN SPACING CANDRABINDUcCANDRABINDU VIRAMAcDOUBLE CANDRABINDU VIRAMA"⟩,
  ⟨0xA8F5, "DEVANAGARI SIGN CANDRABINDU TWOdTHREEdAVAGRAHAcPUSHPIKAbGAP FILLERbCARETbHEADSTROKE"⟩,
  ⟨0xA8FC, "DEVANAGARI SIGN SIDDHAMbJAIN OMbLETTER AYbVOWEL SIGN AYaKAYAH LI DIGIT ZEROdONEdTWO"⟩,
  ⟨0xA903, "KAYAH LI DIGIT THREEdFOURdFIVEdSIXdSEVENdEIGHTdNINEcLETTER KAdKHAdGAdNGAdSAdSHAdZA"⟩,
  ⟨0xA911, "KAYAH LI LETTER NYAdTAdHTAdNAdPAdPHAdMAdDAdBAdRAdYAdLAdWAdTHAdHAdVAdCAdAdOEdIdOO"⟩,
  ⟨0xA926, "KAYAH LI VOWEL UEdEdUdEEdOcTONE PLOPHUdCALYAdCALYA PLOPHUcSIGN CWIdSHYA"⟩,
  ⟨0xA930, "REJANG LETTER KAcGAcNGAcTAcDAcNAcPAcBAcMAcCAcJAcNYAcSAcRAcLAcYAcWAcHAcMBAcNGGAcNDA"⟩,
  ⟨0xA945, "REJANG LETTER NYJAcAbVOWEL SIGN IdUdEdAIdOdAUdEUdEAbCONSONANT SIGN NGdNdRdHbVIRAMA"⟩,
  ⟨0xA95F, "REJANG SECTION MARKaHANGUL CHOSEONG TIKEUT-MIEUMdPIEUPdSIOSdCIEUCcRIEUL-KIYEOK"⟩,
  ⟨0xA965, "HANGUL CHOSEONG RIEUL-SSANGKIYEOKdTIKEUTdSSANGTIKEUTdMIEUMdPIEUPdSSANGPIEUP"⟩,
  ⟨0xA96B, "HANGUL CHOSEONG RIEUL-KAPYEOUNPIEUPdSIOSdCIEUCdKHIEUKHcMIEUM-KIYEOKdTIKEUTdSIOS"⟩,
  ⟨0xA972, "HANGUL CHOSEONG PIEUP-SIOS-THIEUTHdKHIEUKHdHIEUHcSSANGSIOS-PIEUPcIEUNG-RIEULdHIEUH"⟩,
  ⟨0xA978, "HANGUL CHOSEONG SSANGCIEUC-HIEUHcSSANGTHIEUTHcPHIEUPH-HIEUHcHIEUH-SIOS"⟩,
  ⟨0xA97C, "HANGUL CHOSEONG SSANGYEORINHIEUH"⟩,
  ⟨0xA980, "JAVANESE SIGN PANYANGGAcCECAKcLAYARcWIGNYANbLETTER AcI KAWIcIcIIcUcPA CEREKcNGA LELET"⟩,
  ⟨0xA98B, "JAVANESE LETTER NGA LELET RASWADIcEcAIcOcKAcKA SASAKdMURDAcGAcGA MURDAcNGAcCA"⟩,
  ⟨0xA996, "JAVANESE LETTER CA MURDAcJAcNYA MURDAcJA MAHAPRANAcNYAcTTAcTTA MAHAPRANAcDDA"⟩,
  ⟨0xA99E, "JAVANESE LETTER DDA MAHAPRANAcNA MURDAcTAcTA MURDAcDAcDA MAHAPRANAcNAcPAcPA MURDAcBA"⟩,
  ⟨0xA9A8, "JAVANESE LETTER BA MURDAcMAcYAcRAcRA AGUNGcLAcWAcSA MURDAdMAHAPRANAcSAcHA"⟩,
  ⟨0xA9B3, "JAVANESE SIGN CECAK TELUbVOWEL SIGN TARUNGdTOLONGdWULUdWULU MELIKdSUKUdSUKU MENDUT"⟩,
  ⟨0xA9BA, "JAVANESE VOWEL SIGN TALINGdDIRGA MUREdPEPETbCONSONANT SIGN KERETdPENGKALdCAKRA"⟩,
  ⟨0xA9C0, "JAVANESE PANGKONbLEFT RERENGGANbRIGHT RERENGGANbPADA ANDAPcMADYAcLUHURcWINDUcPANGKAT"⟩,
  ⟨0xA9C8, "JAVANESE PADA LINGSAcLUNGSIcADEGcADEG ADEGcPISELEHbTURNED PADA PISELEH"⟩,
  ⟨0xA9CF, "JAVANESE PANGRANGKEPbDIGIT ZEROcONEcTWOcTHREEcFOURcFIVEcSIXcSEVENcEIGHTcNINE"⟩,
  ⟨0xA9DE, "JAVANESE PADA TIRTA TUMETEScISEN-ISENaMYANMAR LETTER SHAN GHAdCHAdJHAdNNAdBHA"⟩,
  ⟨0xA9E5, "MYANMAR SIGN SHAN SAWbMODIFIER LETTER SHAN REDUPLICATIONbLETTER TAI LAING NYAeFAeGA"⟩,
  ⟨0xA9EA, "MYANMAR LETTER TAI LAING GHAeJAeJHAeDDAeDDHAeNNAbTAI LAING DIGIT ZEROeONEeTWOeTHREE"⟩,
  ⟨0xA9F4, "MYANMAR TAI LAING DIGIT FOUReFIVEeSIXeSEVENeEIGHTeNINEbLETTER TAI LAING LLAeDAeDHAeBA"⟩,
  ⟨0xA9FE, "MYANMAR LETTER TAI LAING BHA"⟩,
  ⟨0xAA00, "CHAM LETTER AcIcUcEcAIcOcKAcKHAcGAcGHAcNGUEcNGAcCHAcCHHAcJAcJHAcNHUEcNHAcNHJAcTAcTHA"⟩,
  ⟨0xAA15, "CHAM LETTER DAcDHAcNUEcNAcDDAcPAcPPAcPHAcBAcBHAcMUEcMAcBBAcYAcRAcLAcVAcSSAcSAcHA"⟩,
  ⟨0xAA29, "CHAM VOWEL SIGN AAdIdIIdEIdUdOEdOdAIdAUdUEbCONSONANT SIGN YAdRAdLAdWA"⟩,
  ⟨0xAA40, "CHAM LETTER FINAL KdGdNGbCONSONANT SIGN FINAL NGbLETTER FINAL CHdTdNdPdYdRdLdSS"⟩,
  ⟨0xAA4C, "CHAM CONSONANT SIGN FINAL MeH"⟩,
  ⟨0xAA50, "CHAM DIGIT ZEROcONEcTWOcTHREEcFOURcFIVEcSIXcSEVENcEIGHTcNINE"⟩,
  ⟨0xAA5C, "CHAM PUNCTUATION SPIRALcDANDAcDOUBLE DANDAcTRIPLE DANDAaMYANMAR LETTER KHAMTI GAdCA"⟩,
  ⟨0xAA62, "MYANMAR LETTER KHAMTI CHAdJAdJHAdNYAdTTAdTTHAdDDAdDDHAdDHAdNAdSAdHAdHHAdFA"⟩,
  ⟨0xAA70, "MYANMAR MODIFIER LETTER KHAMTI REDUPLICATIONbLETTER KHAMTI XAdZAdRA"⟩,
  ⟨0xAA74, "MYANMAR LOGOGRAM KHAMTI OAYdQNdHMbSYMBOL AITON EXCLAMATIONdONEdTWObLETTER AITON RA"⟩,
  ⟨0xAA7B, "MYANMAR SIGN PAO KAREN TONEcTAI LAING TONE-2f5bLETTER SHWE PALAUNG CHAeSHA"⟩,
  ⟨0xAA80, "TAI VIET LETTER LOW KOdHIGH KOdLOW KHOdHIGH KHOdLOW KHHOdHIGH KHHOdLOW GOdHIGH GO"⟩,
  ⟨0xAA88, "TAI VIET LETTER LOW NGOdHIGH NGOdLOW COdHIGH COdLOW CHOdHIGH CHOdLOW SOdHIGH SO"⟩,
  ⟨0xAA90, "TAI VIET LETTER LOW NYOdHIGH NYOdLOW DOdHIGH DOdLOW TOdHIGH TOdLOW THOdHIGH THO"⟩,
  ⟨0xAA98, "TAI VIET LETTER LOW NOdHIGH NOdLOW BOdHIGH BOdLOW POdHIGH POdLOW PHOdHIGH PHOdLOW FO"⟩,
  ⟨0xAAA1, "TAI VIET LETTER HIGH FOdLOW MOdHIGH MOdLOW YOdHIGH YOdLOW ROdHIGH ROdLOW LOdHIGH LO"⟩,
  ⟨0xAAAA, "TAI VIET LETTER LOW VOdHIGH VOdLOW HOdHIGH HOdLOW OdHIGH OcMAI KANGcVOWEL AAdIdUEdUdE"⟩,
  ⟨0xAAB6, "TAI VIET VOWEL OcMAI KHITcVOWEL IAdUEAdUAdAUEdAYdANdAMcTONE MAI EKeNUENGeTHOeSONG"⟩,
  ⟨0xAADB, "TAI VIET SYMBOL KONdNUENGdSAMdHO HOIdKOI KOIaMEETEI MAYEK LETTER EdOdCHAdNYAdTTAdTTHA"⟩,
  ⟨0xAAE6, "MEETEI MAYEK LETTER DDAdDDHAdNNAdSHAdSSAcVOWEL SIGN IIeUUeAAIeAUeAAUcCHEIKHAN"⟩,
  ⟨0xAAF1, "MEETEI MAYEK AHANG KHUDAMcANJIcSYLLABLE REPETITION MARKcWORD REPETITION MARK"⟩,
  ⟨0xAAF5, "MEETEI MAYEK VOWEL SIGN VISARGAcVIRAMA"⟩,
  ⟨0xAB01, "ETHIOPIC SYLLABLE TTHUcTTHIcTTHAAcTTHEEcTTHEcTTHO"⟩,
  ⟨0xAB09, "ETHIOPIC SYLLABLE DDHUcDDHIcDDHAAcDDHEEcDDHEcDDHO"⟩,
  ⟨0xAB11, "ETHIOPIC SYLLABLE DZUcDZIcDZAAcDZEEcDZEcDZO"⟩,
  ⟨0xAB20, "ETHIOPIC SYLLABLE CCHHAcCCHHUcCCHHIcCCHHAAcCCHHEEcCCHHEcCCHHO"⟩,
  ⟨0xAB28, "ETHIOPIC SYLLABLE BBAcBBUcBBIcBBAAcBBEEcBBEcBBO"⟩,
  ⟨0xAB30, "LATIN SMALL LETTER BARRED ALPHAdA REVERSED-SCHWAdBLACKLETTER EdBARRED E"⟩,
  ⟨0xAB34, "LATIN SMALL LETTER E WITH FLOURISHdLENIS FdSCRIPT G WITH CROSSED-TAIL"⟩,
  ⟨0xAB37, "LATIN SMALL LETTER L WITH INVERTED LAZY SfDOUBLE MIDDLE TILDEfMIDDLE RING"⟩,
  ⟨0xAB3A, "LATIN SMALL LETTER M WITH CROSSED-TAILdN WITH CROSSED-TAILdENG WITH CROSSED-TAIL"⟩,
  ⟨0xAB3D, "LATIN SMALL LETTER BLACKLETTER OeO WITH STROKEdOPEN O WITH STROKEdINVERTED OE"⟩,
  ⟨0xAB41, "LATIN SMALL LETTER TURNED OE WITH STROKEgHORIZONTAL STROKEeO OPEN-OgO WITH STROKE"⟩,
  ⟨0xAB45, "LATIN SMALL LETTER STIRRUP RbLETTER SMALL CAPITAL R WITH RIGHT LEG"⟩,
  ⟨0xAB47, "LATIN SMALL LETTER R WITHOUT HANDLEdDOUBLE RdR WITH CROSSED-TAIL"⟩,
  ⟨0xAB4A, "LATIN SMALL LETTER DOUBLE R WITH CROSSED-TAILdSCRIPT ReR WITH RINGdBASELINE ESH"⟩,
  ⟨0xAB4E, "LATIN SMALL LETTER U WITH SHORT RIGHT LEGeBAR WITH SHORT RIGHT LEGdUIdTURNED UI"⟩,
  ⟨0xAB52, "LATIN SMALL LETTER U WITH LEFT HOOKdCHIdCHI WITH LOW RIGHT RINGgLEFT SERIF"⟩,
  ⟨0xAB56, "LATIN SMALL LETTER X WITH LOW RIGHT RINGfLONG LEFT LEGhLEG AND LOW RIGHT RING"⟩,
  ⟨0xAB59, "LATIN SMALL LETTER X WITH LONG LEFT LEG WITH SERIFdY WITH SHORT RIGHT LEG"⟩,
  ⟨0xAB5B, "MODIFIER BREVE WITH INVERTED BREVEbLETTER SMALL HENGdL WITH INVERTED LAZY S"⟩,
  ⟨0xAB5E, "MODIFIER LETTER SMALL L WITH MIDDLE TILDEdU WITH LEFT HOOK"⟩,
  ⟨0xAB60, "LATIN SMALL LETTER SAKHA YATdIOTIFIED EdOPEN OEdUOdINVERTED ALPHA"⟩,
  ⟨0xAB65, "GREEK LETTER SMALL CAPITAL OMEGAaLATIN SMALL LETTER DZ DIGRAPH WITH RETROFLEX HOOK"⟩,
  ⟨0xAB67, "LATIN SMALL LETTER TS DIGRAPH WITH RETROFLEX HOOKdTURNED R WITH MIDDLE TILDE"⟩,
  ⟨0xAB69, "MODIFIER LETTER SMALL TURNED WcLEFT TACKcRIGHT TACK"⟩,
  ⟨0xAB70, "CHEROKEE SMALL LETTER AdEdIdOdUdVdGAdKAdGEdGIdGOdGUdGVdHAdHEdHIdHOdHUdHVdLAdLEdLIdLO"⟩,
  ⟨0xAB87, "CHEROKEE SMALL LETTER LUdLVdMAdMEdMIdMOdMUdNAdHNAdNAHdNEdNIdNOdNUdNVdQUAdQUEdQUIdQUO"⟩,
  ⟨0xAB9A, "CHEROKEE SMALL LETTER QUUdQUVdSAdSdSEdSIdSOdSUdSVdDAdTAdDEdTEdDIdTIdDOdDUdDVdDLAdTLA"⟩,
  ⟨0xABAE, "CHEROKEE SMALL LETTER TLEdTLIdTLOdTLUdTLVdTSAdTSEdTSIdTSOdTSUdTSVdWAdWEdWIdWOdWUdWV"⟩,
  ⟨0xABBF, "CHEROKEE SMALL LETTER YAaMEETEI MAYEK LETTER KOKdSAMdLAIdMITdPAdNAdCHILdTILdKHOUdNGOU"⟩,
  ⟨0xABCA, "MEETEI MAYEK LETTER THOUdWAIdYANGdHUKdUNdIdPHAMdATIYAdGOKdJHAMdRAIdBAdJILdDILdGHOU"⟩,
  ⟨0xABD9, "MEETEI MAYEK LETTER DHOUdBHAMdKOK LONSUMdLAI LONSUMdMIT LONSUMdPA LONSUMdNA LONSUM"⟩,
  ⟨0xABE0, "MEETEI MAYEK LETTER TIL LONSUMdNGOU LONSUMdI LONSUMcVOWEL SIGN ONAPeINAPeANAPeYENAP"⟩,
  ⟨0xABE7, "MEETEI MAYEK VOWEL SIGN SOUNAPeUNAPeCHEINAPeNUNGcCHEIKHEIcLUM IYEKcAPUN IYEK"⟩,
  ⟨0xABF0, "MEETEI MAYEK DIGIT ZEROdONEdTWOdTHREEdFOURdFIVEdSIXdSEVENdEIGHTdNINE"⟩,
  ⟨0xD7B0, "HANGUL JUNGSEONG O-YEOdO-IcYO-AdAEdEOcU-YEOdI-IcYU-AEdOcEU-AdEOdEdOcI-YA-OdYAEdYEOdYE"⟩,
  ⟨0xD7C1, "HANGUL JUNGSEONG I-O-IdYOdYUdIcARAEA-AdE"⟩,
  ⟨0xD7CB, "HANGUL JONGSEONG NIEUN-RIEULdCHIEUCHcSSANGTIKEUTcSSANGTIKEUT-PIEUPcTIKEUT-PIEUPdSIOS"⟩,
  ⟨0xD7D1, "HANGUL JONGSEONG TIKEUT-SIOS-KIYEOKdCIEUCdCHIEUCHdTHIEUTHcRIEUL-SSANGKIYEOK"⟩,
  ⟨0xD7D6, "HANGUL JONGSEONG RIEUL-KIYEOK-HIEUHcSSANGRIEUL-KHIEUKHcRIEUL-MIEUM-HIEUHdPIEUP-TIKEUT"⟩,
  ⟨0xD7DA, "HANGUL JONGSEONG RIEUL-PIEUP-PHIEUPHdYESIEUNGdYEORINHIEUH-HIEUHcKAPYEOUNRIEUL"⟩,
  ⟨0xD7DE, "HANGUL JONGSEONG MIEUM-NIEUNdSSANGNIEUNcSSANGMIEUMcMIEUM-PIEUP-SIOSdCIEUC"⟩,
  ⟨0xD7E3, "HANGUL JONGSEONG PIEUP-TIKEUTdRIEUL-PHIEUPHdMIEUMcSSANGPIEUPcPIEUP-SIOS-TIKEUTdCIEUC"⟩,
  ⟨0xD7E9, "HANGUL JONGSEONG PIEUP-CHIEUCHcSIOS-MIEUMdKAPYEOUNPIEUPcSSANGSIOS-KIYEOKdTIKEUT"⟩,
  ⟨0xD7EE, "HANGUL JONGSEONG SIOS-PANSIOSdCIEUCdCHIEUCHdTHIEUTHdHIEUHcPANSIOS-PIEUPdKAPYEOUNPIEUP"⟩,
  ⟨0xD7F5, "HANGUL JONGSEONG YESIEUNG-MIEUMdHIEUHcCIEUC-PIEUPdSSANGPIEUPcSSANGCIEUCcPHIEUPH-SIOS"⟩,
  ⟨0xD7FB, "HANGUL JONGSEONG PHIEUPH-THIEUTH"⟩,
  ⟨0xFB00, "LATIN SMALL LIGATURE FFdFIdFLdFFIdFFLdLONG S TdST"⟩,
  ⟨0xFB13, "ARMENIAN SMALL LIGATURE MEN NOWeECHeINIdVEW NOWdMEN XEH"⟩,
  ⟨0xFB1D, "HEBREW LETTER YOD WITH HIRIQbPOINT JUDEO-SPANISH VARIKA"⟩,
  ⟨0xFB1F, "HEBREW LIGATURE YIDDISH YOD YOD PATAHbLETTER ALTERNATIVE AYINcWIDE ALEFdDALETdHEdKAF"⟩,
  ⟨0xFB25, "HEBREW LETTER WIDE LAMEDdFINAL MEMdRESHdTAVcALTERNATIVE PLUS SIGNcSHIN WITH SHIN DOT"⟩,
  ⟨0xFB2B, "HEBREW LETTER SHIN WITH SIN DOTeDAGESH AND SHIN DOTgSIN DOTcALEF WITH PATAHeQAMATS"⟩,
  ⟨0xFB30, "HEBREW LETTER ALEF WITH MAPIQcBET WITH DAGESHcGIMEL WITH DAGESHcDALET WITH DAGESH"⟩,
  ⟨0xFB34, "HEBREW LETTER HE WITH MAPIQcVAV WITH DAGESHcZAYIN WITH DAGESH"⟩,
  ⟨0xFB38, "HEBREW LETTER TET WITH DAGESHcYOD WITH DAGESHcFINAL KAF WITH DAGESHcKAF WITH DAGESH"⟩,
  ⟨0xFB3C, "HEBREW LETTER LAMED WITH DAGESH"⟩,
  ⟨0xFB3E, "HEBREW LETTER MEM WITH DAGESH"⟩,
  ⟨0xFB40, "HEBREW LETTER NUN WITH DAGESHcSAMEKH WITH DAGESH"⟩,
  ⟨0xFB43, "HEBREW LETTER FINAL PE WITH DAGESHcPE WITH DAGESH"⟩,
  ⟨0xFB46, "HEBREW LETTER TSADI WITH DAGESHcQOF WITH DAGESHcRESH WITH DAGESHcSHIN WITH DAGESH"⟩,
  ⟨0xFB4A, "HEBREW LETTER TAV WITH DAGESHcVAV WITH HOLAMcBET WITH RAFEcKAF WITH RAFEcPE WITH RAFE"⟩,
  ⟨0xFB4F, "HEBREW LIGATURE ALEF LAMEDaARABIC LETTER ALEF WASLA ISOLATED FORMeFINAL FORM"⟩,
  ⟨0xFB52, "ARABIC LETTER BEEH ISOLATED FORMdFINAL FORMdINITIAL FORMdMEDIAL FORM"⟩,
  ⟨0xFB56, "ARABIC LETTER PEH ISOLATED FORMdFINAL FORMdINITIAL FORMdMEDIAL FORM"⟩,
  ⟨0xFB5A, "ARABIC LETTER BEHEH ISOLATED FORMdFINAL FORMdINITIAL FORMdMEDIAL FORM"⟩,
  ⟨0xFB5E, "ARABIC LETTER TTEHEH ISOLATED FORMdFINAL FORMdINITIAL FORMdMEDIAL FORM"⟩,
  ⟨0xFB62, "ARABIC LETTER TEHEH ISOLATED FORMdFINAL FORMdINITIAL FORMdMEDIAL FORM"⟩,
  ⟨0xFB66, "ARABIC LETTER TTEH ISOLATED FORMdFINAL FORMdINITIAL FORMdMEDIAL FORM"⟩,
  ⟨0xFB6A, "ARABIC LETTER VEH ISOLATED FORMdFINAL FORMdINITIAL FORMdMEDIAL FORM"⟩,
  ⟨0xFB6E, "ARABIC LETTER PEHEH ISOLATED FORMdFINAL FORMdINITIAL FORMdMEDIAL FORM"⟩,
  ⟨0xFB72, "ARABIC LETTER DYEH ISOLATED FORMdFINAL FORMdINITIAL FORMdMEDIAL FORM"⟩,
  ⟨0xFB76, "ARABIC LETTER NYEH ISOLATED FORMdFINAL FORMdINITIAL FORMdMEDIAL FORM"⟩,
  ⟨0xFB7A, "ARABIC LETTER TCHEH ISOLATED FORMdFINAL FORMdINITIAL FORMdMEDIAL FORM"⟩,
  ⟨0xFB7E, "ARABIC LETTER TCHEHEH ISOLATED FORMdFINAL FORMdINITIAL FORMdMEDIAL FORM"⟩,
  ⟨0xFB82, "ARABIC LETTER DDAHAL ISOLATED FORMdFINAL FORMcDAHAL ISOLATED FORMdFINAL FORM"⟩,
  ⟨0xFB86, "ARABIC LETTER DUL ISOLATED FORMdFINAL FORMcDDAL ISOLATED FORMdFINAL FORM"⟩,
  ⟨0xFB8A, "ARABIC LETTER JEH ISOLATED FORMdFINAL FORMcRREH ISOLATED FORMdFINAL FORM"⟩,
  ⟨0xFB8E, "ARABIC LETTER KEHEH ISOLATED FORMdFINAL FORMdINITIAL FORMdMEDIAL FORM"⟩,
  ⟨0xFB92, "ARABIC LETTER GAF ISOLATED FORMdFINAL FORMdINITIAL FORMdMEDIAL FORM"⟩,
  ⟨0xFB96, "ARABIC LETTER GUEH ISOLATED FORMdFINAL FORMdINITIAL FORMdMEDIAL FORM"⟩,
  ⟨0xFB9A, "ARABIC LETTER NGOEH ISOLATED FORMdFINAL FORMdINITIAL FORMdMEDIAL FORM"⟩,
  ⟨0xFB9E, "ARABIC LETTER NOON GHUNNA ISOLATED FORMeFINAL FORMcRNOON ISOLATED FORMdFINAL FORM"⟩,
  ⟨0xFBA2, "ARABIC LETTER RNOON INITIAL FORMdMEDIAL FORMcHEH WITH YEH ABOVE ISOLATED FORM"⟩,
  ⟨0xFBA5, "ARABIC LETTER HEH WITH YEH ABOVE FINAL FORMdGOAL ISOLATED FORMeFINAL FORM"⟩,
  ⟨0xFBA8, "ARABIC LETTER HEH GOAL INITIAL FORMeMEDIAL FORMdDOACHASHMEE ISOLATED FORMeFINAL FORM"⟩,
  ⟨0xFBAC, "ARABIC LETTER HEH DOACHASHMEE INITIAL FORMeMEDIAL FORMcYEH BARREE ISOLATED FORM"⟩,
  ⟨0xFBAF, "ARABIC LETTER YEH BARREE FINAL FORMeWITH HAMZA ABOVE ISOLATED FORMhFINAL FORM"⟩,
  ⟨0xFBB2, "ARABIC SYMBOL DOT ABOVEdBELOWcTWO DOTS ABOVEeBELOWcTHREE DOTS ABOVEeBELOW"⟩,
  ⟨0xFBB8, "ARABIC SYMBOL THREE DOTS POINTING DOWNWARDS ABOVEgBELOWcFOUR DOTS ABOVEeBELOW"⟩,
  ⟨0xFBBC, "ARABIC SYMBOL DOUBLE VERTICAL BAR BELOWcTWO DOTS VERTICALLY ABOVEfBELOWcRING"⟩,
  ⟨0xFBC0, "ARABIC SYMBOL SMALL TAH ABOVEeBELOWcWASLA ABOVE"⟩,
  ⟨0xFBD3, "ARABIC LETTER NG ISOLATED FORMdFINAL FORMdINITIAL FORMdMEDIAL FORMcU ISOLATED FORM"⟩,
  ⟨0xFBD8, "ARABIC LETTER U FINAL FORMcOE ISOLATED FORMdFINAL FORMcYU ISOLATED FORMdFINAL FORM"⟩,
  ⟨0xFBDD, "ARABIC LETTER U WITH HAMZA ABOVE ISOLATED FORMcVE ISOLATED FORMdFINAL FORM"⟩,
  ⟨0xFBE0, "ARABIC LETTER KIRGHIZ OE ISOLATED FORMeFINAL FORMdYU ISOLATED FORMeFINAL FORM"⟩,
  ⟨0xFBE4, "ARABIC LETTER E ISOLATED FORMdFINAL FORMdINITIAL FORMdMEDIAL FORM"⟩,
  ⟨0xFBE8, "ARABIC LETTER UIGHUR KAZAKH KIRGHIZ ALEF MAKSURA INITIAL FORMhMEDIAL FORM"⟩,
  ⟨0xFBEA, "ARABIC LIGATURE YEH WITH HAMZA ABOVE WITH ALEF ISOLATED FORMiFINAL FORM"⟩,
  ⟨0xFBEC, "ARABIC LIGATURE YEH WITH HAMZA ABOVE WITH AE ISOLATED FORMiFINAL FORM"⟩,
  ⟨0xFBEE, "ARABIC LIGATURE YEH WITH HAMZA ABOVE WITH WAW ISOLATED FORMiFINAL FORM"⟩,
  ⟨0xFBF0, "ARABIC LIGATURE YEH WITH HAMZA ABOVE WITH U ISOLATED FORMiFINAL FORMhOE ISOLATED FORM"⟩,
  ⟨0xFBF3, "ARABIC LIGATURE YEH WITH HAMZA ABOVE WITH OE FINAL FORMhYU ISOLATED FORMiFINAL FORM"⟩,
  ⟨0xFBF6, "ARABIC LIGATURE YEH WITH HAMZA ABOVE WITH E ISOLATED FORMiFINAL FORMiINITIAL FORM"⟩,
  ⟨0xFBF9, "ARABIC LIGATURE UIGHUR KIRGHIZ YEH WITH HAMZA ABOVE WITH ALEF MAKSURA ISOLATED FORM"⟩,
  ⟨0xFBFA, "ARABIC LIGATURE UIGHUR KIRGHIZ YEH WITH HAMZA ABOVE WITH ALEF MAKSURA FINAL FORM"⟩,
  ⟨0xFBFB, "ARABIC LIGATURE UIGHUR KIRGHIZ YEH WITH HAMZA ABOVE WITH ALEF MAKSURA INITIAL FORM"⟩,
  ⟨0xFBFC, "ARABIC LETTER FARSI YEH ISOLATED FORMeFINAL FORMeINITIAL FORMeMEDIAL FORM"⟩,
  ⟨0xFC00, "ARABIC LIGATURE YEH WITH HAMZA ABOVE WITH JEEM ISOLATED FORMhHAH ISOLATED FORM"⟩,
  ⟨0xFC02, "ARABIC LIGATURE YEH WITH HAMZA ABOVE WITH MEEM ISOLATED FORM"⟩,
  ⟨0xFC03, "ARABIC LIGATURE YEH WITH HAMZA ABOVE WITH ALEF MAKSURA ISOLATED FORM"⟩,
  ⟨0xFC04, "ARABIC LIGATURE YEH WITH HAMZA ABOVE WITH YEH ISOLATED FORM"⟩,
  ⟨0xFC05, "ARABIC LIGATURE BEH WITH JEEM ISOLATED FORMeHAH ISOLATED FORMeKHAH ISOLATED FORM"⟩,
  ⟨0xFC08, "ARABIC LIGATURE BEH WITH MEEM ISOLATED FORMeALEF MAKSURA ISOLATED FORM"⟩,
  ⟨0xFC0A, "ARABIC LIGATURE BEH WITH YEH ISOLATED FORMcTEH WITH JEEM ISOLATED FORM"⟩,
  ⟨0xFC0C, "ARABIC LIGATURE TEH WITH HAH ISOLATED FORMeKHAH ISOLATED FORMeMEEM ISOLATED FORM"⟩,
  ⟨0xFC0F, "ARABIC LIGATURE TEH WITH ALEF MAKSURA ISOLATED FORMeYEH ISOLATED FORM"⟩,
  ⟨0xFC11, "ARABIC LIGATURE THEH WITH JEEM ISOLATED FORMeMEEM ISOLATED FORM"⟩,
  ⟨0xFC13, "ARABIC LIGATURE THEH WITH ALEF MAKSURA ISOLATED FORMeYEH ISOLATED FORM"⟩,
  ⟨0xFC15, "ARABIC LIGATURE JEEM WITH HAH ISOLATED FORMeMEEM ISOLATED FORM"⟩,
  ⟨0xFC17, "ARABIC LIGATURE HAH WITH JEEM ISOLATED FORMeMEEM ISOLATED FORM"⟩,
  ⟨0xFC19, "ARABIC LIGATURE KHAH WITH JEEM ISOLATED FORMeHAH ISOLATED FORMeMEEM ISOLATED FORM"⟩,
  ⟨0xFC1C, "ARABIC LIGATURE SEEN WITH JEEM ISOLATED FORMeHAH ISOLATED FORMeKHAH ISOLATED FORM"⟩,
  ⟨0xFC1F, "ARABIC LIGATURE SEEN WITH MEEM ISOLATED FORMcSAD WITH HAH ISOLATED FORM"⟩,
  ⟨0xFC21, "ARABIC LIGATURE SAD WITH MEEM ISOLATED FORMcDAD WITH JEEM ISOLATED FORM"⟩,
  ⟨0xFC23, "ARABIC LIGATURE DAD WITH HAH ISOLATED FORMeKHAH ISOLATED FORMeMEEM ISOLATED FORM"⟩,
  ⟨0xFC26, "ARABIC LIGATURE TAH WITH HAH ISOLATED FORMeMEEM ISOLATED FORM"⟩,
  ⟨0xFC28, "ARABIC LIGATURE ZAH WITH MEEM ISOLATED FORMcAIN WITH JEEM ISOLATED FORM"⟩,
  ⟨0xFC2A, "ARABIC LIGATURE AIN WITH MEEM ISOLATED FORMcGHAIN WITH JEEM ISOLATED FORM"⟩,
  ⟨0xFC2C, "ARABIC LIGATURE GHAIN WITH MEEM ISOLATED FORMcFEH WITH JEEM ISOLATED FORM"⟩,
  ⟨0xFC2E, "ARABIC LIGATURE FEH WITH HAH ISOLATED FORMeKHAH ISOLATED FORMeMEEM ISOLATED FORM"⟩,
  ⟨0xFC31, "ARABIC LIGATURE FEH WITH ALEF MAKSURA ISOLATED FORMeYEH ISOLATED FORM"⟩,
  ⟨0xFC33, "ARABIC LIGATURE QAF WITH HAH ISOLATED FORMeMEEM ISOLATED FORM"⟩,
  ⟨0xFC35, "ARABIC LIGATURE QAF WITH ALEF MAKSURA ISOLATED FORMeYEH ISOLATED FORM"⟩,
  ⟨0xFC37, "ARABIC LIGATURE KAF WITH ALEF ISOLATED FORMeJEEM ISOLATED FORMeHAH ISOLATED FORM"⟩,
  ⟨0xFC3A, "ARABIC LIGATURE KAF WITH KHAH ISOLATED FORMeLAM ISOLATED FORMeMEEM ISOLATED FORM"⟩,
  ⟨0xFC3D, "ARABIC LIGATURE KAF WITH ALEF MAKSURA ISOLATED FORMeYEH ISOLATED FORM"⟩,
  ⟨0xFC3F, "ARABIC LIGATURE LAM WITH JEEM ISOLATED FORMeHAH ISOLATED FORMeKHAH ISOLATED FORM"⟩,
  ⟨0xFC42, "ARABIC LIGATURE LAM WITH MEEM ISOLATED FORMeALEF MAKSURA ISOLATED FORM"⟩,
  ⟨0xFC44, "ARABIC LIGATURE LAM WITH YEH ISOLATED FORMcMEEM WITH JEEM ISOLATED FORM"⟩,
  ⟨0xFC46, "ARABIC LIGATURE MEEM WITH HAH ISOLATED FORMeKHAH ISOLATED FORMeMEEM ISOLATED FORM"⟩,
  ⟨0xFC49, "ARABIC LIGATURE MEEM WITH ALEF MAKSURA ISOLATED FORMeYEH ISOLATED FORM"⟩,
  ⟨0xFC4B, "ARABIC LIGATURE NOON WITH JEEM ISOLATED FORMeHAH ISOLATED FORMeKHAH ISOLATED FORM"⟩,
  ⟨0xFC4E, "ARABIC LIGATURE NOON WITH MEEM ISOLATED FORMeALEF MAKSURA ISOLATED FORM"⟩,
  ⟨0xFC50, "ARABIC LIGATURE NOON WITH YEH ISOLATED FORMcHEH WITH JEEM ISOLATED FORM"⟩,
  ⟨0xFC52, "ARABIC LIGATURE HEH WITH MEEM ISOLATED FORMeALEF MAKSURA ISOLATED FORM"⟩,
  ⟨0xFC54, "ARABIC LIGATURE HEH WITH YEH ISOLATED FORMcYEH WITH JEEM ISOLATED FORM"⟩,
  ⟨0xFC56, "ARABIC LIGATURE YEH WITH HAH ISOLATED FORMeKHAH ISOLATED FORMeMEEM ISOLATED FORM"⟩,
  ⟨0xFC59, "ARABIC LIGATURE YEH WITH ALEF MAKSURA ISOLATED FORMeYEH ISOLATED FORM"⟩,
  ⟨0xFC5B, "ARABIC LIGATURE THAL WITH SUPERSCRIPT ALEF ISOLATED FORM"⟩,
  ⟨0xFC5C, "ARABIC LIGATURE REH WITH SUPERSCRIPT ALEF ISOLATED FORM"⟩,
  ⟨0xFC5D, "ARABIC LIGATURE ALEF MAKSURA WITH SUPERSCRIPT ALEF ISOLATED FORM"⟩,
  ⟨0xFC5E, "ARABIC LIGATURE SHADDA WITH DAMMATAN ISOLATED FORMeKASRATAN ISOLATED FORM"⟩,
  ⟨0xFC60, "ARABIC LIGATURE SHADDA WITH FATHA ISOLATED FORMeDAMMA ISOLATED FORM"⟩,
  ⟨0xFC62, "ARABIC LIGATURE SHADDA WITH KASRA ISOLATED FORMeSUPERSCRIPT ALEF ISOLATED FORM"⟩,
  ⟨0xFC64, "ARABIC LIGATURE YEH WITH HAMZA ABOVE WITH REH FINAL FORMhZAIN FINAL FORM"⟩,
  ⟨0xFC66, "ARABIC LIGATURE YEH WITH HAMZA ABOVE WITH MEEM FINAL FORMhNOON FINAL FORM"⟩,
  ⟨0xFC68, "ARABIC LIGATURE YEH WITH HAMZA ABOVE WITH ALEF MAKSURA FINAL FORMhYEH FINAL FORM"⟩,
  ⟨0xFC6A, "ARABIC LIGATURE BEH WITH REH FINAL FORMeZAIN FINAL FORMeMEEM FINAL FORM"⟩,
  ⟨0xFC6D, "ARABIC LIGATURE BEH WITH NOON FINAL FORMeALEF MAKSURA FINAL FORMeYEH FINAL FORM"⟩,
  ⟨0xFC70, "ARABIC LIGATURE TEH WITH REH FINAL FORMeZAIN FINAL FORMeMEEM FINAL FORM"⟩,
  ⟨0xFC73, "ARABIC LIGATURE TEH WITH NOON FINAL FORMeALEF MAKSURA FINAL FORMeYEH FINAL FORM"⟩,
  ⟨0xFC76, "ARABIC LIGATURE THEH WITH REH FINAL FORMeZAIN FINAL FORMeMEEM FINAL FORM"⟩,
  ⟨0xFC79, "ARABIC LIGATURE THEH WITH NOON FINAL FORMeALEF MAKSURA FINAL FORMeYEH FINAL FORM"⟩,
  ⟨0xFC7C, "ARABIC LIGATURE FEH WITH ALEF MAKSURA FINAL FORMeYEH FINAL FORM"⟩,
  ⟨0xFC7E, "ARABIC LIGATURE QAF WITH ALEF MAKSURA FINAL FORMeYEH FINAL FORM"⟩,
  ⟨0xFC80, "ARABIC LIGATURE KAF WITH ALEF FINAL FORMeLAM FINAL FORMeMEEM FINAL FORM"⟩,
  ⟨0xFC83, "ARABIC LIGATURE KAF WITH ALEF MAKSURA FINAL FORMeYEH FINAL FORM"⟩,
  ⟨0xFC85, "ARABIC LIGATURE LAM WITH MEEM FINAL FORMeALEF MAKSURA FINAL FORMeYEH FINAL FORM"⟩,
  ⟨0xFC88, "ARABIC LIGATURE MEEM WITH ALEF FINAL FORMeMEEM FINAL FORMcNOON WITH REH FINAL FORM"⟩,
  ⟨0xFC8B, "ARABIC LIGATURE NOON WITH ZAIN FINAL FORMeMEEM FINAL FORMeNOON FINAL FORM"⟩,
  ⟨0xFC8E, "ARABIC LIGATURE NOON WITH ALEF MAKSURA FINAL FORMeYEH FINAL FORM"⟩,
  ⟨0xFC90, "ARABIC LIGATURE ALEF MAKSURA WITH SUPERSCRIPT ALEF FINAL FORMcYEH WITH REH FINAL FORM"⟩,
  ⟨0xFC92, "ARABIC LIGATURE YEH WITH ZAIN FINAL FORMeMEEM FINAL FORMeNOON FINAL FORM"⟩,
  ⟨0xFC95, "ARABIC LIGATURE YEH WITH ALEF MAKSURA FINAL FORMeYEH FINAL FORM"⟩,
  ⟨0xFC97, "ARABIC LIGATURE YEH WITH HAMZA ABOVE WITH JEEM INITIAL FORMhHAH INITIAL FORM"⟩,
  ⟨0xFC99, "ARABIC LIGATURE YEH WITH HAMZA ABOVE WITH KHAH INITIAL FORMhMEEM INITIAL FORM"⟩,
  ⟨0xFC9B, "ARABIC LIGATURE YEH WITH HAMZA ABOVE WITH HEH INITIAL FORMcBEH WITH JEEM INITIAL FORM"⟩,
  ⟨0xFC9D, "ARABIC LIGATURE BEH WITH HAH INITIAL FORMeKHAH INITIAL FORMeMEEM INITIAL FORM"⟩,
  ⟨0xFCA0, "ARABIC LIGATURE BEH WITH HEH INITIAL FORMcTEH WITH JEEM INITIAL FORMeHAH INITIAL FORM"⟩,
  ⟨0xFCA3, "ARABIC LIGATURE TEH WITH KHAH INITIAL FORMeMEEM INITIAL FORMeHEH INITIAL FORM"⟩,
  ⟨0xFCA6, "ARABIC LIGATURE THEH WITH MEEM INITIAL FORMcJEEM WITH HAH INITIAL FORM"⟩,
  ⟨0xFCA8, "ARABIC LIGATURE JEEM WITH MEEM INITIAL FORMcHAH WITH JEEM INITIAL FORM"⟩,
  ⟨0xFCAA, "ARABIC LIGATURE HAH WITH MEEM INITIAL FORMcKHAH WITH JEEM INITIAL FORM"⟩,
  ⟨0xFCAC, "ARABIC LIGATURE KHAH WITH MEEM INITIAL FORMcSEEN WITH JEEM INITIAL FORM"⟩,
  ⟨0xFCAE, "ARABIC LIGATURE SEEN WITH HAH INITIAL FORMeKHAH INITIAL FORMeMEEM INITIAL FORM"⟩,
  ⟨0xFCB1, "ARABIC LIGATURE SAD WITH HAH INITIAL FORMeKHAH INITIAL FORMeMEEM INITIAL FORM"⟩,
  ⟨0xFCB4, "ARABIC LIGATURE DAD WITH JEEM INITIAL FORMeHAH INITIAL FORMeKHAH INITIAL FORM"⟩,
  ⟨0xFCB7, "ARABIC LIGATURE DAD WITH MEEM INITIAL FORMcTAH WITH HAH INITIAL FORM"⟩,
  ⟨0xFCB9, "ARABIC LIGATURE ZAH WITH MEEM INITIAL FORMcAIN WITH JEEM INITIAL FORM"⟩,
  ⟨0xFCBB, "ARABIC LIGATURE AIN WITH MEEM INITIAL FORMcGHAIN WITH JEEM INITIAL FORM"⟩,
  ⟨0xFCBD, "ARABIC LIGATURE GHAIN WITH MEEM INITIAL FORMcFEH WITH JEEM INITIAL FORM"⟩,
  ⟨0xFCBF, "ARABIC LIGATURE FEH WITH HAH INITIAL FORMeKHAH INITIAL FORMeMEEM INITIAL FORM"⟩,
  ⟨0xFCC2, "ARABIC LIGATURE QAF WITH HAH INITIAL FORMeMEEM INITIAL FORM"⟩,
  ⟨0xFCC4, "ARABIC LIGATURE KAF WITH JEEM INITIAL FORMeHAH INITIAL FORMeKHAH INITIAL FORM"⟩,
  ⟨0xFCC7, "ARABIC LIGATURE KAF WITH LAM INITIAL FORMeMEEM INITIAL FORM"⟩,
  ⟨0xFCC9, "ARABIC LIGATURE LAM WITH JEEM INITIAL FORMeHAH INITIAL FORMeKHAH INITIAL FORM"⟩,
  ⟨0xFCCC, "ARABIC LIGATURE LAM WITH MEEM INITIAL FORMeHEH INITIAL FORM"⟩,
  ⟨0xFCCE, "ARABIC LIGATURE MEEM WITH JEEM INITIAL FORMeHAH INITIAL FORMeKHAH INITIAL FORM"⟩,
  ⟨0xFCD1, "ARABIC LIGATURE MEEM WITH MEEM INITIAL FORMcNOON WITH JEEM INITIAL FORM"⟩,
  ⟨0xFCD3, "ARABIC LIGATURE NOON WITH HAH INITIAL FORMeKHAH INITIAL FORMeMEEM INITIAL FORM"⟩,
  ⟨0xFCD6, "ARABIC LIGATURE NOON WITH HEH INITIAL FORMcHEH WITH JEEM INITIAL FORM"⟩,
  ⟨0xFCD8, "ARABIC LIGATURE HEH WITH MEEM INITIAL FORMeSUPERSCRIPT ALEF INITIAL FORM"⟩,
  ⟨0xFCDA, "ARABIC LIGATURE YEH WITH JEEM INITIAL FORMeHAH INITIAL FORMeKHAH INITIAL FORM"⟩,
  ⟨0xFCDD, "ARABIC LIGATURE YEH WITH MEEM INITIAL FORMeHEH INITIAL FORM"⟩,
  ⟨0xFCDF, "ARABIC LIGATURE YEH WITH HAMZA ABOVE WITH MEEM MEDIAL FORMhHEH MEDIAL FORM"⟩,
  ⟨0xFCE1, "ARABIC LIGATURE BEH WITH MEEM MEDIAL FORMeHEH MEDIAL FORMcTEH WITH MEEM MEDIAL FORM"⟩,
  ⟨0xFCE4, "ARABIC LIGATURE TEH WITH HEH MEDIAL FORMcTHEH WITH MEEM MEDIAL FORMeHEH MEDIAL FORM"⟩,
  ⟨0xFCE7, "ARABIC LIGATURE SEEN WITH MEEM MEDIAL FORMeHEH MEDIAL FORM"⟩,
  ⟨0xFCE9, "ARABIC LIGATURE SHEEN WITH MEEM MEDIAL FORMeHEH MEDIAL FORMcKAF WITH LAM MEDIAL FORM"⟩,
  ⟨0xFCEC, "ARABIC LIGATURE KAF WITH MEEM MEDIAL FORMcLAM WITH MEEM MEDIAL FORM"⟩,
  ⟨0xFCEE, "ARABIC LIGATURE NOON WITH MEEM MEDIAL FORMeHEH MEDIAL FORMcYEH WITH MEEM MEDIAL FORM"⟩,
  ⟨0xFCF1, "ARABIC LIGATURE YEH WITH HEH MEDIAL FORMcSHADDA WITH FATHA MEDIAL FORM"⟩,
  ⟨0xFCF3, "ARABIC LIGATURE SHADDA WITH DAMMA MEDIAL FORMeKASRA MEDIAL FORM"⟩,
  ⟨0xFCF5, "ARABIC LIGATURE TAH WITH ALEF MAKSURA ISOLATED FORMeYEH ISOLATED FORM"⟩,
  ⟨0xFCF7, "ARABIC LIGATURE AIN WITH ALEF MAKSURA ISOLATED FORMeYEH ISOLATED FORM"⟩,
  ⟨0xFCF9, "ARABIC LIGATURE GHAIN WITH ALEF MAKSURA ISOLATED FORMeYEH ISOLATED FORM"⟩,
  ⟨0xFCFB, "ARABIC LIGATURE SEEN WITH ALEF MAKSURA ISOLATED FORMeYEH ISOLATED FORM"⟩,
  ⟨0xFCFD, "ARABIC LIGATURE SHEEN WITH ALEF MAKSURA ISOLATED FORMeYEH ISOLATED FORM"⟩,
  ⟨0xFCFF, "ARABIC LIGATURE HAH WITH ALEF MAKSURA ISOLATED FORMeYEH ISOLATED FORM"⟩,
  ⟨0xFD01, "ARABIC LIGATURE JEEM WITH ALEF MAKSURA ISOLATED FORMeYEH ISOLATED FORM"⟩,
  ⟨0xFD03, "ARABIC LIGATURE KHAH WITH ALEF MAKSURA ISOLATED FORMeYEH ISOLATED FORM"⟩,
  ⟨0xFD05, "ARABIC LIGATURE SAD WITH ALEF MAKSURA ISOLATED FORMeYEH ISOLATED FORM"⟩,
  ⟨0xFD07, "ARABIC LIGATURE DAD WITH ALEF MAKSURA ISOLATED FORMeYEH ISOLATED FORM"⟩,
  ⟨0xFD09, "ARABIC LIGATURE SHEEN WITH JEEM ISOLATED FORMeHAH ISOLATED FORMeKHAH ISOLATED FORM"⟩,
  ⟨0xFD0C, "ARABIC LIGATURE SHEEN WITH MEEM ISOLATED FORMeREH ISOLATED FORM"⟩,
  ⟨0xFD0E, "ARABIC LIGATURE SEEN WITH REH ISOLATED FORMcSAD WITH REH ISOLATED FORM"⟩,
  ⟨0xFD10, "ARABIC LIGATURE DAD WITH REH ISOLATED FORMcTAH WITH ALEF MAKSURA FINAL FORM"⟩,
  ⟨0xFD12, "ARABIC LIGATURE TAH WITH YEH FINAL FORMcAIN WITH ALEF MAKSURA FINAL FORM"⟩,
  ⟨0xFD14, "ARABIC LIGATURE AIN WITH YEH FINAL FORMcGHAIN WITH ALEF MAKSURA FINAL FORM"⟩,
  ⟨0xFD16, "ARABIC LIGATURE GHAIN WITH YEH FINAL FORMcSEEN WITH ALEF MAKSURA FINAL FORM"⟩,
  ⟨0xFD18, "ARABIC LIGATURE SEEN WITH YEH FINAL FORMcSHEEN WITH ALEF MAKSURA FINAL FORM"⟩,
  ⟨0xFD1A, "ARABIC LIGATURE SHEEN WITH YEH FINAL FORMcHAH WITH ALEF MAKSURA FINAL FORM"⟩,
  ⟨0xFD1C, "ARABIC LIGATURE HAH WITH YEH FINAL FORMcJEEM WITH ALEF MAKSURA FINAL FORM"⟩,
  ⟨0xFD1E, "ARABIC LIGATURE JEEM WITH YEH FINAL FORMcKHAH WITH ALEF MAKSURA FINAL FORM"⟩,
  ⟨0xFD20, "ARABIC LIGATURE KHAH WITH YEH FINAL FORMcSAD WITH ALEF MAKSURA FINAL FORM"⟩,
  ⟨0xFD22, "ARABIC LIGATURE SAD WITH YEH FINAL FORMcDAD WITH ALEF MAKSURA FINAL FORM"⟩,
  ⟨0xFD24, "ARABIC LIGATURE DAD WITH YEH FINAL FORMcSHEEN WITH JEEM FINAL FORMeHAH FINAL FORM"⟩,
  ⟨0xFD27, "ARABIC LIGATURE SHEEN WITH KHAH FINAL FORMeMEEM FINAL FORMeREH FINAL FORM"⟩,
  ⟨0xFD2A, "ARABIC LIGATURE SEEN WITH REH FINAL FORMcSAD WITH REH FINAL FORM"⟩,
  ⟨0xFD2C, "ARABIC LIGATURE DAD WITH REH FINAL FORMcSHEEN WITH JEEM INITIAL FORMeHAH INITIAL FORM"⟩,
  ⟨0xFD2F, "ARABIC LIGATURE SHEEN WITH KHAH INITIAL FORMeMEEM INITIAL FORM"⟩,
  ⟨0xFD31, "ARABIC LIGATURE SEEN WITH HEH INITIAL FORMcSHEEN WITH HEH INITIAL FORM"⟩,
  ⟨0xFD33, "ARABIC LIGATURE TAH WITH MEEM INITIAL FORMcSEEN WITH JEEM MEDIAL FORMeHAH MEDIAL FORM"⟩,
  ⟨0xFD36, "ARABIC LIGATURE SEEN WITH KHAH MEDIAL FORMcSHEEN WITH JEEM MEDIAL FORM"⟩,
  ⟨0xFD38, "ARABIC LIGATURE SHEEN WITH HAH MEDIAL FORMeKHAH MEDIAL FORMcTAH WITH MEEM MEDIAL FORM"⟩,
  ⟨0xFD3B, "ARABIC LIGATURE ZAH WITH MEEM MEDIAL FORMcALEF WITH FATHATAN FINAL FORMfISOLATED FORM"⟩,
  ⟨0xFD3E, "ORNATE LEFT PARENTHESISbRIGHT PARENTHESISaARABIC LIGATURE RAHIMAHU ALLAAH"⟩,
  ⟨0xFD41, "ARABIC LIGATURE RADI ALLAAHU ANHeANHAAeANHUMeANHUMAAeANHUNNA"⟩,
  ⟨0xFD46, "ARABIC LIGATURE SALLALLAAHU ALAYHI WA-AALIHcALAYHI AS-SALAAMcALAYHIM AS-SALAAM"⟩,
  ⟨0xFD49, "ARABIC LIGATURE ALAYHIMAA AS-SALAAMcALAYHI AS-SALAATU WAS-SALAAMcQUDDISA SIRRAH"⟩,
  ⟨0xFD4C, "ARABIC LIGATURE SALLALLAHU ALAYHI WAAALIHEE WA-SALLAMcALAYHAA AS-SALAAM"⟩,
  ⟨0xFD4E, "ARABIC LIGATURE TABAARAKA WA-TAAALAAcRAHIMAHUM ALLAAH"⟩,
  ⟨0xFD50, "ARABIC LIGATURE TEH WITH JEEM WITH MEEM INITIAL FORMeHAH WITH JEEM FINAL FORM"⟩,
  ⟨0xFD52, "ARABIC LIGATURE TEH WITH HAH WITH JEEM INITIAL FORMgMEEM INITIAL FORM"⟩,
  ⟨0xFD54, "ARABIC LIGATURE TEH WITH KHAH WITH MEEM INITIAL FORMeMEEM WITH JEEM INITIAL FORM"⟩,
  ⟨0xFD56, "ARABIC LIGATURE TEH WITH MEEM WITH HAH INITIAL FORMgKHAH INITIAL FORM"⟩,
  ⟨0xFD58, "ARABIC LIGATURE JEEM WITH MEEM WITH HAH FINAL FORMhINITIAL FORM"⟩,
  ⟨0xFD5A, "ARABIC LIGATURE HAH WITH MEEM WITH YEH FINAL FORMgALEF MAKSURA FINAL FORM"⟩,
  ⟨0xFD5C, "ARABIC LIGATURE SEEN WITH HAH WITH JEEM INITIAL FORMeJEEM WITH HAH INITIAL FORM"⟩,
  ⟨0xFD5E, "ARABIC LIGATURE SEEN WITH JEEM WITH ALEF MAKSURA FINAL FORMeMEEM WITH HAH FINAL FORM"⟩,
  ⟨0xFD60, "ARABIC LIGATURE SEEN WITH MEEM WITH HAH INITIAL FORMgJEEM INITIAL FORM"⟩,
  ⟨0xFD62, "ARABIC LIGATURE SEEN WITH MEEM WITH MEEM FINAL FORMhINITIAL FORM"⟩,
  ⟨0xFD64, "ARABIC LIGATURE SAD WITH HAH WITH HAH FINAL FORMhINITIAL FORM"⟩,
  ⟨0xFD66, "ARABIC LIGATURE SAD WITH MEEM WITH MEEM FINAL FORM"⟩,
  ⟨0xFD67, "ARABIC LIGATURE SHEEN WITH HAH WITH MEEM FINAL FORMhINITIAL FORM"⟩,
  ⟨0xFD69, "ARABIC LIGATURE SHEEN WITH JEEM WITH YEH FINAL FORMeMEEM WITH KHAH FINAL FORM"⟩,
  ⟨0xFD6B, "ARABIC LIGATURE SHEEN WITH MEEM WITH KHAH INITIAL FORMgMEEM FINAL FORMhINITIAL FORM"⟩,
  ⟨0xFD6E, "ARABIC LIGATURE DAD WITH HAH WITH ALEF MAKSURA FINAL FORMeKHAH WITH MEEM FINAL FORM"⟩,
  ⟨0xFD70, "ARABIC LIGATURE DAD WITH KHAH WITH MEEM INITIAL FORM"⟩,
  ⟨0xFD71, "ARABIC LIGATURE TAH WITH MEEM WITH HAH FINAL FORMhINITIAL FORMgMEEM INITIAL FORM"⟩,
  ⟨0xFD74, "ARABIC LIGATURE TAH WITH MEEM WITH YEH FINAL FORMcAIN WITH JEEM WITH MEEM FINAL FORM"⟩,
  ⟨0xFD76, "ARABIC LIGATURE AIN WITH MEEM WITH MEEM FINAL FORMhINITIAL FORM"⟩,
  ⟨0xFD78, "ARABIC LIGATURE AIN WITH MEEM WITH ALEF MAKSURA FINAL FORM"⟩,
  ⟨0xFD79, "ARABIC LIGATURE GHAIN WITH MEEM WITH MEEM FINAL FORMgYEH FINAL FORM"⟩,
  ⟨0xFD7B, "ARABIC LIGATURE GHAIN WITH MEEM WITH ALEF MAKSURA FINAL FORM"⟩,
  ⟨0xFD7C, "ARABIC LIGATURE FEH WITH KHAH WITH MEEM FINAL FORMhINITIAL FORM"⟩,
  ⟨0xFD7E, "ARABIC LIGATURE QAF WITH MEEM WITH HAH FINAL FORMgMEEM FINAL FORM"⟩,
  ⟨0xFD80, "ARABIC LIGATURE LAM WITH HAH WITH MEEM FINAL FORMgYEH FINAL FORM"⟩,
  ⟨0xFD82, "ARABIC LIGATURE LAM WITH HAH WITH ALEF MAKSURA FINAL FORMeJEEM WITH JEEM INITIAL FORM"⟩,
  ⟨0xFD84, "ARABIC LIGATURE LAM WITH JEEM WITH JEEM FINAL FORMeKHAH WITH MEEM FINAL FORM"⟩,
  ⟨0xFD86, "ARABIC LIGATURE LAM WITH KHAH WITH MEEM INITIAL FORMeMEEM WITH HAH FINAL FORM"⟩,
  ⟨0xFD88, "ARABIC LIGATURE LAM WITH MEEM WITH HAH INITIAL FORM"⟩,
  ⟨0xFD89, "ARABIC LIGATURE MEEM WITH HAH WITH JEEM INITIAL FORMgMEEM INITIAL FORMgYEH FINAL FORM"⟩,
  ⟨0xFD8C, "ARABIC LIGATURE MEEM WITH JEEM WITH HAH INITIAL FORMgMEEM INITIAL FORM"⟩,
  ⟨0xFD8E, "ARABIC LIGATURE MEEM WITH KHAH WITH JEEM INITIAL FORMgMEEM INITIAL FORM"⟩,
  ⟨0xFD92, "ARABIC LIGATURE MEEM WITH JEEM WITH KHAH INITIAL FORM"⟩,
  ⟨0xFD93, "ARABIC LIGATURE HEH WITH MEEM WITH JEEM INITIAL FORMgMEEM INITIAL FORM"⟩,
  ⟨0xFD95, "ARABIC LIGATURE NOON WITH HAH WITH MEEM INITIAL FORMgALEF MAKSURA FINAL FORM"⟩,
  ⟨0xFD97, "ARABIC LIGATURE NOON WITH JEEM WITH MEEM FINAL FORMhINITIAL FORM"⟩,
  ⟨0xFD99, "ARABIC LIGATURE NOON WITH JEEM WITH ALEF MAKSURA FINAL FORMeMEEM WITH YEH FINAL FORM"⟩,
  ⟨0xFD9B, "ARABIC LIGATURE NOON WITH MEEM WITH ALEF MAKSURA FINAL FORM"⟩,
  ⟨0xFD9C, "ARABIC LIGATURE YEH WITH MEEM WITH MEEM FINAL FORMhINITIAL FORM"⟩,
  ⟨0xFD9E, "ARABIC LIGATURE BEH WITH KHAH WITH YEH FINAL FORMcTEH WITH JEEM WITH YEH FINAL FORM"⟩,
  ⟨0xFDA0, "ARABIC LIGATURE TEH WITH JEEM WITH ALEF MAKSURA FINAL FORMeKHAH WITH YEH FINAL FORM"⟩,
  ⟨0xFDA2, "ARABIC LIGATURE TEH WITH KHAH WITH ALEF MAKSURA FINAL FORMeMEEM WITH YEH FINAL FORM"⟩,
  ⟨0xFDA4, "ARABIC LIGATURE TEH WITH MEEM WITH ALEF MAKSURA FINAL FORM"⟩,
  ⟨0xFDA5, "ARABIC LIGATURE JEEM WITH MEEM WITH YEH FINAL FORMeHAH WITH ALEF MAKSURA FINAL FORM"⟩,
  ⟨0xFDA7, "ARABIC LIGATURE JEEM WITH MEEM WITH ALEF MAKSURA FINAL FORM"⟩,
  ⟨0xFDA8, "ARABIC LIGATURE SEEN WITH KHAH WITH ALEF MAKSURA FINAL FORM"⟩,
  ⟨0xFDA9, "ARABIC LIGATURE SAD WITH HAH WITH YEH FINAL FORMcSHEEN WITH HAH WITH YEH FINAL FORM"⟩,
  ⟨0xFDAB, "ARABIC LIGATURE DAD WITH HAH WITH YEH FINAL FORMcLAM WITH JEEM WITH YEH FINAL FORM"⟩,
  ⟨0xFDAD, "ARABIC LIGATURE LAM WITH MEEM WITH YEH FINAL FORMcYEH WITH HAH WITH YEH FINAL FORM"⟩,
  ⟨0xFDAF, "ARABIC LIGATURE YEH WITH JEEM WITH YEH FINAL FORMeMEEM WITH YEH FINAL FORM"⟩,
  ⟨0xFDB1, "ARABIC LIGATURE MEEM WITH MEEM WITH YEH FINAL FORMcQAF WITH MEEM WITH YEH FINAL FORM"⟩,
  ⟨0xFDB3, "ARABIC LIGATURE NOON WITH HAH WITH YEH FINAL FORMcQAF WITH MEEM WITH HAH INITIAL FORM"⟩,
  ⟨0xFDB5, "ARABIC LIGATURE LAM WITH HAH WITH MEEM INITIAL FORMcAIN WITH MEEM WITH YEH FINAL FORM"⟩,
  ⟨0xFDB7, "ARABIC LIGATURE KAF WITH MEEM WITH YEH FINAL FORM"⟩,
  ⟨0xFDB8, "ARABIC LIGATURE NOON WITH JEEM WITH HAH INITIAL FORM"⟩,
  ⟨0xFDB9, "ARABIC LIGATURE MEEM WITH KHAH WITH YEH FINAL FORM"⟩,
  ⟨0xFDBA, "ARABIC LIGATURE LAM WITH JEEM WITH MEEM INITIAL FORM"⟩,
  ⟨0xFDBB, "ARABIC LIGATURE KAF WITH MEEM WITH MEEM FINAL FORMcLAM WITH JEEM WITH MEEM FINAL FORM"⟩,
  ⟨0xFDBD, "ARABIC LIGATURE NOON WITH JEEM WITH HAH FINAL FORMcJEEM WITH HAH WITH YEH FINAL FORM"⟩,
  ⟨0xFDBF, "ARABIC LIGATURE HAH WITH JEEM WITH YEH FINAL FORMcMEEM WITH JEEM WITH YEH FINAL FORM"⟩,
  ⟨0xFDC1, "ARABIC LIGATURE FEH WITH MEEM WITH YEH FINAL FORMcBEH WITH HAH WITH YEH FINAL FORM"⟩,
  ⟨0xFDC3, "ARABIC LIGATURE KAF WITH MEEM WITH MEEM INITIAL FORM"⟩,
  ⟨0xFDC4, "ARABIC LIGATURE AIN WITH JEEM WITH MEEM INITIAL FORM"⟩,
  ⟨0xFDC5, "ARABIC LIGATURE SAD WITH MEEM WITH MEEM INITIAL FORM"⟩,
  ⟨0xFDC6, "ARABIC LIGATURE SEEN WITH KHAH WITH YEH FINAL FORMcNOON WITH JEEM WITH YEH FINAL FORM"⟩,
  ⟨0xFDCF, "ARABIC LIGATURE SALAAMUHU ALAYNAA"⟩,
  ⟨0xFDF0, "ARABIC LIGATURE SALLA USED AS KORANIC STOP SIGN ISOLATED FORM"⟩,
  ⟨0xFDF1, "ARABIC LIGATURE QALA USED AS KORANIC STOP SIGN ISOLATED FORMcALLAH ISOLATED FORM"⟩,
  ⟨0xFDF3, "ARABIC LIGATURE AKBAR ISOLATED FORMcMOHAMMAD ISOLATED FORMcSALAM ISOLATED FORM"⟩,
  ⟨0xFDF6, "ARABIC LIGATURE RASOUL ISOLATED FORMcALAYHE ISOLATED FORMcWASALLAM ISOLATED FORM"⟩,
  ⟨0xFDF9, "ARABIC LIGATURE SALLA ISOLATED FORMcSALLALLAHOU ALAYHE WASALLAMcJALLAJALALOUHOU"⟩,
  ⟨0xFDFC, "RIAL SIGNaARABIC LIGATURE BISMILLAH AR-RAHMAN AR-RAHEEMcSUBHAANAHU WA TAAALAA"⟩,
  ⟨0xFDFF, "ARABIC LIGATURE AZZA WA JALLaVARIATION SELECTOR-1c2c3c4c5c6c7c8c9c10c11c12c13c14c15"⟩,
  ⟨0xFE0F, "VARIATION SELECTOR-16aPRESENTATION FORM FOR VERTICAL COMMAeIDEOGRAPHIC COMMA"⟩,
  ⟨0xFE12, "PRESENTATION FORM FOR VERTICAL IDEOGRAPHIC FULL STOPeCOLONeSEMICOLONeEXCLAMATION MARK"⟩,
  ⟨0xFE16, "PRESENTATION FORM FOR VERTICAL QUESTION MARKeLEFT WHITE LENTICULAR BRACKET"⟩,
  ⟨0xFE18, "PRESENTATION FORM FOR VERTICAL RIGHT WHITE LENTICULAR BRAKCETeHORIZONTAL ELLIPSIS"⟩,
  ⟨0xFE20, "COMBINING LIGATURE LEFT HALFcRIGHT HALFbDOUBLE TILDE LEFT HALFdRIGHT HALF"⟩,
  ⟨0xFE24, "COMBINING MACRON LEFT HALFcRIGHT HALFbCONJOINING MACRONbLIGATURE LEFT HALF BELOW"⟩,
  ⟨0xFE28, "COMBINING LIGATURE RIGHT HALF BELOWbTILDE LEFT HALF BELOWcRIGHT HALF BELOW"⟩,
  ⟨0xFE2B, "COMBINING MACRON LEFT HALF BELOWcRIGHT HALF BELOWbCONJOINING MACRON BELOW"⟩,
  ⟨0xFE2E, "COMBINING CYRILLIC TITLO LEFT HALFdRIGHT HALF"⟩,
  ⟨0xFE30, "PRESENTATION FORM FOR VERTICAL TWO DOT LEADEReEM DASHeEN DASHeLOW LINEeWAVY LOW LINE"⟩,
  ⟨0xFE35, "PRESENTATION FORM FOR VERTICAL LEFT PARENTHESISeRIGHT PARENTHESISeLEFT CURLY BRACKET"⟩,
  ⟨0xFE38, "PRESENTATION FORM FOR VERTICAL RIGHT CURLY BRACKETeLEFT TORTOISE SHELL BRACKET"⟩,
  ⟨0xFE3A, "PRESENTATION FORM FOR VERTICAL RIGHT TORTOISE SHELL BRACKET"⟩,
  ⟨0xFE3B, "PRESENTATION FORM FOR VERTICAL LEFT BLACK LENTICULAR BRACKET"⟩,
  ⟨0xFE3C, "PRESENTATION FORM FOR VERTICAL RIGHT BLACK LENTICULAR BRACKET"⟩,
  ⟨0xFE3D, "PRESENTATION FORM FOR VERTICAL LEFT DOUBLE ANGLE BRACKETeRIGHT DOUBLE ANGLE BRACKET"⟩,
  ⟨0xFE3F, "PRESENTATION FORM FOR VERTICAL LEFT ANGLE BRACKETeRIGHT ANGLE BRACKET"⟩,
  ⟨0xFE41, "PRESENTATION FORM FOR VERTICAL LEFT CORNER BRACKETeRIGHT CORNER BRACKET"⟩,
  ⟨0xFE43, "PRESENTATION FORM FOR VERTICAL LEFT WHITE CORNER BRACKETeRIGHT WHITE CORNER BRACKET"⟩,
  ⟨0xFE45, "SESAME DOTaWHITE SESAME DOTaPRESENTATION FORM FOR VERTICAL LEFT SQUARE BRACKET"⟩,
  ⟨0xFE48, "PRESENTATION FORM FOR VERTICAL RIGHT SQUARE BRACKETaDASHED OVERLINE"⟩,
  ⟨0xFE4A, "CENTRELINE OVERLINEaWAVY OVERLINEaDOUBLE WAVY OVERLINEaDASHED LOW LINE"⟩,
  ⟨0xFE4E, "CENTRELINE LOW LINEaWAVY LOW LINEaSMALL COMMAbIDEOGRAPHIC COMMAbFULL STOP"⟩,
  ⟨0xFE54, "SMALL SEMICOLONbCOLONbQUESTION MARKbEXCLAMATION MARKbEM DASHbLEFT PARENTHESIS"⟩,
  ⟨0xFE5A, "SMALL RIGHT PARENTHESISbLEFT CURLY BRACKETbRIGHT CURLY BRACKET"⟩,
  ⟨0xFE5D, "SMALL LEFT TORTOISE SHELL BRACKETbRIGHT TORTOISE SHELL BRACKETbNUMBER SIGNbAMPERSAND"⟩,
  ⟨0xFE61, "SMALL ASTERISKbPLUS SIGNbHYPHEN-MINUSbLESS-THAN SIGNbGREATER-THAN SIGNbEQUALS SIGN"⟩,
  ⟨0xFE68, "SMALL REVERSE SOLIDUSbDOLLAR SIGNbPERCENT SIGNbCOMMERCIAL AT"⟩,
  ⟨0xFE70, "ARABIC FATHATAN ISOLATED FORMbTATWEEL WITH FATHATAN ABOVEbDAMMATAN ISOLATED FORM"⟩,
  ⟨0xFE73, "ARABIC TAIL FRAGMENTbKASRATAN ISOLATED FORM"⟩,
  ⟨0xFE76, "ARABIC FATHA ISOLATED FORMcMEDIAL FORMbDAMMA ISOLATED FORMcMEDIAL FORM"⟩,
  ⟨0xFE7A, "ARABIC KASRA ISOLATED FORMcMEDIAL FORMbSHADDA ISOLATED FORMcMEDIAL FORM"⟩,
  ⟨0xFE7E, "ARABIC SUKUN ISOLATED FORMcMEDIAL FORMbLETTER HAMZA ISOLATED FORM"⟩,
  ⟨0xFE81, "ARABIC LETTER ALEF WITH MADDA ABOVE ISOLATED FORMgFINAL FORM"⟩,
  ⟨0xFE83, "ARABIC LETTER ALEF WITH HAMZA ABOVE ISOLATED FORMgFINAL FORM"⟩,
  ⟨0xFE85, "ARABIC LETTER WAW WITH HAMZA ABOVE ISOLATED FORMgFINAL FORM"⟩,
  ⟨0xFE87, "ARABIC LETTER ALEF WITH HAMZA BELOW ISOLATED FORMgFINAL FORM"⟩,
  ⟨0xFE89, "ARABIC LETTER YEH WITH HAMZA ABOVE ISOLATED FORMgFINAL FORMgINITIAL FORMgMEDIAL FORM"⟩,
  ⟨0xFE8D, "ARABIC LETTER ALEF ISOLATED FORMdFINAL FORMcBEH ISOLATED FORMdFINAL FORMdINITIAL FORM"⟩,
  ⟨0xFE92, "ARABIC LETTER BEH MEDIAL FORMcTEH MARBUTA ISOLATED FORMeFINAL FORMdISOLATED FORM"⟩,
  ⟨0xFE96, "ARABIC LETTER TEH FINAL FORMdINITIAL FORMdMEDIAL FORMcTHEH ISOLATED FORMdFINAL FORM"⟩,
  ⟨0xFE9B, "ARABIC LETTER THEH INITIAL FORMdMEDIAL FORMcJEEM ISOLATED FORMdFINAL FORM"⟩,
  ⟨0xFE9F, "ARABIC LETTER JEEM INITIAL FORMdMEDIAL FORMcHAH ISOLATED FORMdFINAL FORMdINITIAL FORM"⟩,
  ⟨0xFEA4, "ARABIC LETTER HAH MEDIAL FORMcKHAH ISOLATED FORMdFINAL FORMdINITIAL FORMdMEDIAL FORM"⟩,
  ⟨0xFEA9, "ARABIC LETTER DAL ISOLATED FORMdFINAL FORMcTHAL ISOLATED FORMdFINAL FORM"⟩,
  ⟨0xFEAD, "ARABIC LETTER REH ISOLATED FORMdFINAL FORMcZAIN ISOLATED FORMdFINAL FORM"⟩,
  ⟨0xFEB1, "ARABIC LETTER SEEN ISOLATED FORMdFINAL FORMdINITIAL FORMdMEDIAL FORM"⟩,
  ⟨0xFEB5, "ARABIC LETTER SHEEN ISOLATED FORMdFINAL FORMdINITIAL FORMdMEDIAL FORM"⟩,
  ⟨0xFEB9, "ARABIC LETTER SAD ISOLATED FORMdFINAL FORMdINITIAL FORMdMEDIAL FORMcDAD ISOLATED FORM"⟩,
  ⟨0xFEBE, "ARABIC LETTER DAD FINAL FORMdINITIAL FORMdMEDIAL FORMcTAH ISOLATED FORMdFINAL FORM"⟩,
  ⟨0xFEC3, "ARABIC LETTER TAH INITIAL FORMdMEDIAL FORMcZAH ISOLATED FORMdFINAL FORMdINITIAL FORM"⟩,
  ⟨0xFEC8, "ARABIC LETTER ZAH MEDIAL FORMcAIN ISOLATED FORMdFINAL FORMdINITIAL FORMdMEDIAL FORM"⟩,
  ⟨0xFECD, "ARABIC LETTER GHAIN ISOLATED FORMdFINAL FORMdINITIAL FORMdMEDIAL FORM"⟩,
  ⟨0xFED1, "ARABIC LETTER FEH ISOLATED FORMdFINAL FORMdINITIAL FORMdMEDIAL FORMcQAF ISOLATED FORM"⟩,
  ⟨0xFED6, "ARABIC LETTER QAF FINAL FORMdINITIAL FORMdMEDIAL FORMcKAF ISOLATED FORMdFINAL FORM"⟩,
  ⟨0xFEDB, "ARABIC LETTER KAF INITIAL FORMdMEDIAL FORMcLAM ISOLATED FORMdFINAL FORMdINITIAL FORM"⟩,
  ⟨0xFEE0, "ARABIC LETTER LAM MEDIAL FORMcMEEM ISOLATED FORMdFINAL FORMdINITIAL FORMdMEDIAL FORM"⟩,
  ⟨0xFEE5, "ARABIC LETTER NOON ISOLATED FORMdFINAL FORMdINITIAL FORMdMEDIAL FORM"⟩,
  ⟨0xFEE9, "ARABIC LETTER HEH ISOLATED FORMdFINAL FORMdINITIAL FORMdMEDIAL FORMcWAW ISOLATED FORM"⟩,
  ⟨0xFEEE, "ARABIC LETTER WAW FINAL FORMcALEF MAKSURA ISOLATED FORMeFINAL FORMcYEH ISOLATED FORM"⟩,
  ⟨0xFEF2, "ARABIC LETTER YEH FINAL FORMdINITIAL FORMdMEDIAL FORM"⟩,
  ⟨0xFEF5, "ARABIC LIGATURE LAM WITH ALEF WITH MADDA ABOVE ISOLATED FORMiFINAL FORM"⟩,
  ⟨0xFEF7, "ARABIC LIGATURE LAM WITH ALEF WITH HAMZA ABOVE ISOLATED FORMiFINAL FORM"⟩,
  ⟨0xFEF9, "ARABIC LIGATURE LAM WITH ALEF WITH HAMZA BELOW ISOLATED FORMiFINAL FORMfISOLATED FORM"⟩,
  ⟨0xFEFC, "ARABIC LIGATURE LAM WITH ALEF FINAL FORM"⟩,
  ⟨0xFEFF, "ZERO WIDTH NO-BREAK SPACE"⟩,
  ⟨0xFF01, "FULLWIDTH EXCLAMATION MARKbQUOTATION MARKbNUMBER SIGNbDOLLAR SIGNbPERCENT SIGN"⟩,
  ⟨0xFF06, "FULLWIDTH AMPERSANDbAPOSTROPHEbLEFT PARENTHESISbRIGHT PARENTHESISbASTERISKbPLUS SIGN"⟩,
  ⟨0xFF0C, "FULLWIDTH COMMAbHYPHEN-MINUSbFULL STOPbSOLIDUSbDIGIT ZEROcONEcTWOcTHREEcFOURcFIVEcSIX"⟩,
  ⟨0xFF17, "FULLWIDTH DIGIT SEVENcEIGHTcNINEbCOLONbSEMICOLONbLESS-THAN SIGNbEQUALS SIGN"⟩,
  ⟨0xFF1E, "FULLWIDTH GREATER-THAN SIGNbQUESTION MARKbCOMMERCIAL ATbLATIN CAPITAL LETTER AeBeCeD"⟩,
  ⟨0xFF25, "FULLWIDTH LATIN CAPITAL LETTER EeFeGeHeIeJeKeLeMeNeOePeQeReSeTeUeVeWeXeYeZ"⟩,
  ⟨0xFF3B, "FULLWIDTH LEFT SQUARE BRACKETbREVERSE SOLIDUSbRIGHT SQUARE BRACKETbCIRCUMFLEX ACCENT"⟩,
  ⟨0xFF3F, "FULLWIDTH LOW LINEbGRAVE ACCENTbLATIN SMALL LETTER AeBeCeDeEeFeGeHeIeJeKeLeMeNeOePeQ"⟩,
  ⟨0xFF52, "FULLWIDTH LATIN SMALL LETTER ReSeTeUeVeWeXeYeZbLEFT CURLY BRACKETbVERTICAL LINE"⟩,
  ⟨0xFF5D, "FULLWIDTH RIGHT CURLY BRACKETbTILDEbLEFT WHITE PARENTHESISbRIGHT WHITE PARENTHESIS"⟩,
  ⟨0xFF61, "HALFWIDTH IDEOGRAPHIC FULL STOPbLEFT CORNER BRACKETbRIGHT CORNER BRACKET"⟩,
  ⟨0xFF64, "HALFWIDTH IDEOGRAPHIC COMMAbKATAKANA MIDDLE DOTcLETTER WOdSMALL AeIeUeEeOeYAeYUeYOeTU"⟩,
  ⟨0xFF70, "HALFWIDTH KATAKANA-HIRAGANA PROLONGED SOUND MARKbKATAKANA LETTER AdIdUdEdOdKAdKIdKU"⟩,
  ⟨0xFF79, "HALFWIDTH KATAKANA LETTER KEdKOdSAdSIdSUdSEdSOdTAdTIdTUdTEdTOdNAdNIdNUdNEdNOdHAdHIdHU"⟩,
  ⟨0xFF8D, "HALFWIDTH KATAKANA LETTER HEdHOdMAdMIdMUdMEdMOdYAdYUdYOdRAdRIdRUdREdROdWAdN"⟩,
  ⟨0xFF9E, "HALFWIDTH KATAKANA VOICED SOUND MARKcSEMI-VOICED SOUND MARKbHANGUL FILLER"⟩,
  ⟨0xFFA1, "HALFWIDTH HANGUL LETTER KIYEOKdSSANGKIYEOKdKIYEOK-SIOSdNIEUNdNIEUN-CIEUCeHIEUHdTIKEUT"⟩,
  ⟨0xFFA8, "HALFWIDTH HANGUL LETTER SSANGTIKEUTdRIEULdRIEUL-KIYEOKeMIEUMePIEUPeSIOSeTHIEUTH"⟩,
  ⟨0xFFAF, "HALFWIDTH HANGUL LETTER RIEUL-PHIEUPHeHIEUHdMIEUMdPIEUPdSSANGPIEUPdPIEUP-SIOSdSIOS"⟩,
  ⟨0xFFB6, "HALFWIDTH HANGUL LETTER SSANGSIOSdIEUNGdCIEUCdSSANGCIEUCdCHIEUCHdKHIEUKHdTHIEUTH"⟩,
  ⟨0xFFBD, "HALFWIDTH HANGUL LETTER PHIEUPHdHIEUH"⟩,
  ⟨0xFFC2, "HALFWIDTH HANGUL LETTER AdAEdYAdYAEdEOdE"⟩,
  ⟨0xFFCA, "HALFWIDTH HANGUL LETTER YEOdYEdOdWAdWAEdOE"⟩,
  ⟨0xFFD2, "HALFWIDTH HANGUL LETTER YOdUdWEOdWEdWIdYU"⟩,
  ⟨0xFFDA, "HALFWIDTH HANGUL LETTER EUdYIdI"⟩,
  ⟨0xFFE0, "FULLWIDTH CENT SIGNbPOUND SIGNbNOT SIGNbMACRONbBROKEN BARbYEN SIGNbWON SIGN"⟩,
  ⟨0xFFE8, "HALFWIDTH FORMS LIGHT VERTICALbLEFTWARDS ARROWbUPWARDS ARROWbRIGHTWARDS ARROW"⟩,
  ⟨0xFFEC, "HALFWIDTH DOWNWARDS ARROWbBLACK SQUAREbWHITE CIRCLE"⟩,
  ⟨0xFFF9, "INTERLINEAR ANNOTATION ANCHORcSEPARATORcTERMINATORaOBJECT REPLACEMENT CHARACTER"⟩,
  ⟨0xFFFD, "REPLACEMENT CHARACTER"⟩]

end Bindery.Text.CharName
