import Bindery.Text.CharName.Run
/-!
# Names of alphabets

The names from U+0020 to U+08FF: Latin, Greek, Cyrillic, Armenian, Hebrew, Arabic, Syriac and their
neighbours.
-/
namespace Bindery.Text.CharName

def alphabets : List Run := [
  ⟨0x0020, "SPACEaEXCLAMATION MARKaQUOTATION MARKaNUMBER SIGNaDOLLAR SIGNaPERCENT SIGNaAMPERSAND"⟩,
  ⟨0x0027, "APOSTROPHEaLEFT PARENTHESISaRIGHT PARENTHESISaASTERISKaPLUS SIGNaCOMMAaHYPHEN-MINUS"⟩,
  ⟨0x002E, "FULL STOPaSOLIDUSaDIGIT ZERObONEbTWObTHREEbFOURbFIVEbSIXbSEVENbEIGHTbNINEaCOLON"⟩,
  ⟨0x003B, "SEMICOLONaLESS-THAN SIGNaEQUALS SIGNaGREATER-THAN SIGNaQUESTION MARKaCOMMERCIAL AT"⟩,
  ⟨0x0041, "LATIN CAPITAL LETTER AdBdCdDdEdFdGdHdIdJdKdLdMdNdOdPdQdRdSdTdUdVdWdXdYdZ"⟩,
  ⟨0x005B, "LEFT SQUARE BRACKETaREVERSE SOLIDUSaRIGHT SQUARE BRACKETaCIRCUMFLEX ACCENTaLOW LINE"⟩,
  ⟨0x0060, "GRAVE ACCENTaLATIN SMALL LETTER AdBdCdDdEdFdGdHdIdJdKdLdMdNdOdPdQdRdSdTdUdVdWdXdYdZ"⟩,
  ⟨0x007B, "LEFT CURLY BRACKETaVERTICAL LINEaRIGHT CURLY BRACKETaTILDE"⟩,
  ⟨0x00A0, "NO-BREAK SPACEaINVERTED EXCLAMATION MARKaCENT SIGNaPOUND SIGNaCURRENCY SIGNaYEN SIGN"⟩,
  ⟨0x00A6, "BROKEN BARaSECTION SIGNaDIAERESISaCOPYRIGHT SIGNaFEMININE ORDINAL INDICATOR"⟩,
  ⟨0x00AB, "LEFT-POINTING DOUBLE ANGLE QUOTATION MARKaNOT SIGNaSOFT HYPHENaREGISTERED SIGNaMACRON"⟩,
  ⟨0x00B0, "DEGREE SIGNaPLUS-MINUS SIGNaSUPERSCRIPT TWObTHREEaACUTE ACCENTaMICRO SIGN"⟩,
  ⟨0x00B6, "PILCROW SIGNaMIDDLE DOTaCEDILLAaSUPERSCRIPT ONEaMASCULINE ORDINAL INDICATOR"⟩,
  ⟨0x00BB, "RIGHT-POINTING DOUBLE ANGLE QUOTATION MARKaVULGAR FRACTION ONE QUARTERdHALF"⟩,
  ⟨0x00BE, "VULGAR FRACTION THREE QUARTERSaINVERTED QUESTION MARK"⟩,
  ⟨0x00C0, "LATIN CAPITAL LETTER A WITH GRAVEfACUTEfCIRCUMFLEXfTILDEfDIAERESISfRING ABOVEdAE"⟩,
  ⟨0x00C7, "LATIN CAPITAL LETTER C WITH CEDILLAdE WITH GRAVEfACUTEfCIRCUMFLEXfDIAERESIS"⟩,
  ⟨0x00CC, "LATIN CAPITAL LETTER I WITH GRAVEfACUTEfCIRCUMFLEXfDIAERESISdETHdN WITH TILDE"⟩,
  ⟨0x00D2, "LATIN CAPITAL LETTER O WITH GRAVEfACUTEfCIRCUMFLEXfTILDEfDIAERESIS"⟩,
  ⟨0x00D7, "MULTIPLICATION SIGNaLATIN CAPITAL LETTER O WITH STROKEdU WITH GRAVEfACUTEfCIRCUMFLEX"⟩,
  ⟨0x00DC, "LATIN CAPITAL LETTER U WITH DIAERESISdY WITH ACUTEdTHORNbSMALL LETTER SHARP S"⟩,
  ⟨0x00E0, "LATIN SMALL LETTER A WITH GRAVEfACUTEfCIRCUMFLEXfTILDEfDIAERESISfRING ABOVEdAE"⟩,
  ⟨0x00E7, "LATIN SMALL LETTER C WITH CEDILLAdE WITH GRAVEfACUTEfCIRCUMFLEXfDIAERESIS"⟩,
  ⟨0x00EC, "LATIN SMALL LETTER I WITH GRAVEfACUTEfCIRCUMFLEXfDIAERESISdETHdN WITH TILDE"⟩,
  ⟨0x00F2, "LATIN SMALL LETTER O WITH GRAVEfACUTEfCIRCUMFLEXfTILDEfDIAERESISaDIVISION SIGN"⟩,
  ⟨0x00F8, "LATIN SMALL LETTER O WITH STROKEdU WITH GRAVEfACUTEfCIRCUMFLEXfDIAERESISdY WITH ACUTE"⟩,
  ⟨0x00FE, "LATIN SMALL LETTER THORNdY WITH DIAERESISbCAPITAL LETTER A WITH MACRON"⟩,
  ⟨0x0101, "LATIN SMALL LETTER A WITH MACRONbCAPITAL LETTER A WITH BREVE"⟩,
  ⟨0x0103, "LATIN SMALL LETTER A WITH BREVEbCAPITAL LETTER A WITH OGONEK"⟩,
  ⟨0x0105, "LATIN SMALL LETTER A WITH OGONEKbCAPITAL LETTER C WITH ACUTE"⟩,
  ⟨0x0107, "LATIN SMALL LETTER C WITH ACUTEbCAPITAL LETTER C WITH CIRCUMFLEX"⟩,
  ⟨0x0109, "LATIN SMALL LETTER C WITH CIRCUMFLEXbCAPITAL LETTER C WITH DOT ABOVE"⟩,
  ⟨0x010B, "LATIN SMALL LETTER C WITH DOT ABOVEbCAPITAL LETTER C WITH CARON"⟩,
  ⟨0x010D, "LATIN SMALL LETTER C WITH CARONbCAPITAL LETTER D WITH CARONbSMALL LETTER D WITH CARON"⟩,
  ⟨0x0110, "LATIN CAPITAL LETTER D WITH STROKEbSMALL LETTER D WITH STROKE"⟩,
  ⟨0x0112, "LATIN CAPITAL LETTER E WITH MACRONbSMALL LETTER E WITH MACRON"⟩,
  ⟨0x0114, "LATIN CAPITAL LETTER E WITH BREVEbSMALL LETTER E WITH BREVE"⟩,
  ⟨0x0116, "LATIN CAPITAL LETTER E WITH DOT ABOVEbSMALL LETTER E WITH DOT ABOVE"⟩,
  ⟨0x0118, "LATIN CAPITAL LETTER E WITH OGONEKbSMALL LETTER E WITH OGONEK"⟩,
  ⟨0x011A, "LATIN CAPITAL LETTER E WITH CARONbSMALL LETTER E WITH CARON"⟩,
  ⟨0x011C, "LATIN CAPITAL LETTER G WITH CIRCUMFLEXbSMALL LETTER G WITH CIRCUMFLEX"⟩,
  ⟨0x011E, "LATIN CAPITAL LETTER G WITH BREVEbSMALL LETTER G WITH BREVE"⟩,
  ⟨0x0120, "LATIN CAPITAL LETTER G WITH DOT ABOVEbSMALL LETTER G WITH DOT ABOVE"⟩,
  ⟨0x0122, "LATIN CAPITAL LETTER G WITH CEDILLAbSMALL LETTER G WITH CEDILLA"⟩,
  ⟨0x0124, "LATIN CAPITAL LETTER H WITH CIRCUMFLEXbSMALL LETTER H WITH CIRCUMFLEX"⟩,
  ⟨0x0126, "LATIN CAPITAL LETTER H WITH STROKEbSMALL LETTER H WITH STROKE"⟩,
  ⟨0x0128, "LATIN CAPITAL LETTER I WITH TILDEbSMALL LETTER I WITH TILDE"⟩,
  ⟨0x012A, "LATIN CAPITAL LETTER I WITH MACRONbSMALL LETTER I WITH MACRON"⟩,
  ⟨0x012C, "LATIN CAPITAL LETTER I WITH BREVEbSMALL LETTER I WITH BREVE"⟩,
  ⟨0x012E, "LATIN CAPITAL LETTER I WITH OGONEKbSMALL LETTER I WITH OGONEK"⟩,
  ⟨0x0130, "LATIN CAPITAL LETTER I WITH DOT ABOVEbSMALL LETTER DOTLESS IbCAPITAL LIGATURE IJ"⟩,
  ⟨0x0133, "LATIN SMALL LIGATURE IJbCAPITAL LETTER J WITH CIRCUMFLEX"⟩,
  ⟨0x0135, "LATIN SMALL LETTER J WITH CIRCUMFLEXbCAPITAL LETTER K WITH CEDILLA"⟩,
  ⟨0x0137, "LATIN SMALL LETTER K WITH CEDILLAdKRAbCAPITAL LETTER L WITH ACUTE"⟩,
  ⟨0x013A, "LATIN SMALL LETTER L WITH ACUTEbCAPITAL LETTER L WITH CEDILLA"⟩,
  ⟨0x013C, "LATIN SMALL LETTER L WITH CEDILLAbCAPITAL LETTER L WITH CARON"⟩,
  ⟨0x013E, "LATIN SMALL LETTER L WITH CARONbCAPITAL LETTER L WITH MIDDLE DOT"⟩,
  ⟨0x0140, "LATIN SMALL LETTER L WITH MIDDLE DOTbCAPITAL LETTER L WITH STROKE"⟩,
  ⟨0x0142, "LATIN SMALL LETTER L WITH STROKEbCAPITAL LETTER N WITH ACUTE"⟩,
  ⟨0x0144, "LATIN SMALL LETTER N WITH ACUTEbCAPITAL LETTER N WITH CEDILLA"⟩,
  ⟨0x0146, "LATIN SMALL LETTER N WITH CEDILLAbCAPITAL LETTER N WITH CARON"⟩,
  ⟨0x0148, "LATIN SMALL LETTER N WITH CARONePRECEDED BY APOSTROPHEbCAPITAL LETTER ENG"⟩,
  ⟨0x014B, "LATIN SMALL LETTER ENGbCAPITAL LETTER O WITH MACRONbSMALL LETTER O WITH MACRON"⟩,
  ⟨0x014E, "LATIN CAPITAL LETTER O WITH BREVEbSMALL LETTER O WITH BREVE"⟩,
  ⟨0x0150, "LATIN CAPITAL LETTER O WITH DOUBLE ACUTEbSMALL LETTER O WITH DOUBLE ACUTE"⟩,
  ⟨0x0152, "LATIN CAPITAL LIGATURE OEbSMALL LIGATURE OEbCAPITAL LETTER R WITH ACUTE"⟩,
  ⟨0x0155, "LATIN SMALL LETTER R WITH ACUTEbCAPITAL LETTER R WITH CEDILLA"⟩,
  ⟨0x0157, "LATIN SMALL LETTER R WITH CEDILLAbCAPITAL LETTER R WITH CARON"⟩,
  ⟨0x0159, "LATIN SMALL LETTER R WITH CARONbCAPITAL LETTER S WITH ACUTEbSMALL LETTER S WITH ACUTE"⟩,
  ⟨0x015C, "LATIN CAPITAL LETTER S WITH CIRCUMFLEXbSMALL LETTER S WITH CIRCUMFLEX"⟩,
  ⟨0x015E, "LATIN CAPITAL LETTER S WITH CEDILLAbSMALL LETTER S WITH CEDILLA"⟩,
  ⟨0x0160, "LATIN CAPITAL LETTER S WITH CARONbSMALL LETTER S WITH CARON"⟩,
  ⟨0x0162, "LATIN CAPITAL LETTER T WITH CEDILLAbSMALL LETTER T WITH CEDILLA"⟩,
  ⟨0x0164, "LATIN CAPITAL LETTER T WITH CARONbSMALL LETTER T WITH CARON"⟩,
  ⟨0x0166, "LATIN CAPITAL LETTER T WITH STROKEbSMALL LETTER T WITH STROKE"⟩,
  ⟨0x0168, "LATIN CAPITAL LETTER U WITH TILDEbSMALL LETTER U WITH TILDE"⟩,
  ⟨0x016A, "LATIN CAPITAL LETTER U WITH MACRONbSMALL LETTER U WITH MACRON"⟩,
  ⟨0x016C, "LATIN CAPITAL LETTER U WITH BREVEbSMALL LETTER U WITH BREVE"⟩,
  ⟨0x016E, "LATIN CAPITAL LETTER U WITH RING ABOVEbSMALL LETTER U WITH RING ABOVE"⟩,
  ⟨0x0170, "LATIN CAPITAL LETTER U WITH DOUBLE ACUTEbSMALL LETTER U WITH DOUBLE ACUTE"⟩,
  ⟨0x0172, "LATIN CAPITAL LETTER U WITH OGONEKbSMALL LETTER U WITH OGONEK"⟩,
  ⟨0x0174, "LATIN CAPITAL LETTER W WITH CIRCUMFLEXbSMALL LETTER W WITH CIRCUMFLEX"⟩,
  ⟨0x0176, "LATIN CAPITAL LETTER Y WITH CIRCUMFLEXbSMALL LETTER Y WITH CIRCUMFLEX"⟩,
  ⟨0x0178, "LATIN CAPITAL LETTER Y WITH DIAERESISdZ WITH ACUTEbSMALL LETTER Z WITH ACUTE"⟩,
  ⟨0x017B, "LATIN CAPITAL LETTER Z WITH DOT ABOVEbSMALL LETTER Z WITH DOT ABOVE"⟩,
  ⟨0x017D, "LATIN CAPITAL LETTER Z WITH CARONbSMALL LETTER Z WITH CARONdLONG SdB WITH STROKE"⟩,
  ⟨0x0181, "LATIN CAPITAL LETTER B WITH HOOKfTOPBARbSMALL LETTER B WITH TOPBAR"⟩,
  ⟨0x0184, "LATIN CAPITAL LETTER TONE SIXbSMALL LETTER TONE SIXbCAPITAL LETTER OPEN OdC WITH HOOK"⟩,
  ⟨0x0188, "LATIN SMALL LETTER C WITH HOOKbCAPITAL LETTER AFRICAN DdD WITH HOOKfTOPBAR"⟩,
  ⟨0x018C, "LATIN SMALL LETTER D WITH TOPBARdTURNED DELTAbCAPITAL LETTER REVERSED EdSCHWAdOPEN E"⟩,
  ⟨0x0191, "LATIN CAPITAL LETTER F WITH HOOKbSMALL LETTER F WITH HOOKbCAPITAL LETTER G WITH HOOK"⟩,
  ⟨0x0194, "LATIN CAPITAL LETTER GAMMAbSMALL LETTER HVbCAPITAL LETTER IOTAdI WITH STROKE"⟩,
  ⟨0x0198, "LATIN CAPITAL LETTER K WITH HOOKbSMALL LETTER K WITH HOOKdL WITH BAR"⟩,
  ⟨0x019B, "LATIN SMALL LETTER LAMBDA WITH STROKEbCAPITAL LETTER TURNED MdN WITH LEFT HOOK"⟩,
  ⟨0x019E, "LATIN SMALL LETTER N WITH LONG RIGHT LEGbCAPITAL LETTER O WITH MIDDLE TILDEfHORN"⟩,
  ⟨0x01A1, "LATIN SMALL LETTER O WITH HORNbCAPITAL LETTER OIbSMALL LETTER OI"⟩,
  ⟨0x01A4, "LATIN CAPITAL LETTER P WITH HOOKbSMALL LETTER P WITH HOOKbLETTER YR"⟩,
  ⟨0x01A7, "LATIN CAPITAL LETTER TONE TWObSMALL LETTER TONE TWObCAPITAL LETTER ESH"⟩,
  ⟨0x01AA, "LATIN LETTER REVERSED ESH LOOPbSMALL LETTER T WITH PALATAL HOOK"⟩,
  ⟨0x01AC, "LATIN CAPITAL LETTER T WITH HOOKbSMALL LETTER T WITH HOOK"⟩,
  ⟨0x01AE, "LATIN CAPITAL LETTER T WITH RETROFLEX HOOKdU WITH HORNbSMALL LETTER U WITH HORN"⟩,
  ⟨0x01B1, "LATIN CAPITAL LETTER UPSILONdV WITH HOOKdY WITH HOOKbSMALL LETTER Y WITH HOOK"⟩,
  ⟨0x01B5, "LATIN CAPITAL LETTER Z WITH STROKEbSMALL LETTER Z WITH STROKEbCAPITAL LETTER EZH"⟩,
  ⟨0x01B8, "LATIN CAPITAL LETTER EZH REVERSEDbSMALL LETTER EZH REVERSEDeWITH TAIL"⟩,
  ⟨0x01BB, "LATIN LETTER TWO WITH STROKEbCAPITAL LETTER TONE FIVEbSMALL LETTER TONE FIVE"⟩,
  ⟨0x01BE, "LATIN LETTER INVERTED GLOTTAL STOP WITH STROKEcWYNNcDENTAL CLICKcLATERAL CLICK"⟩,
  ⟨0x01C2, "LATIN LETTER ALVEOLAR CLICKcRETROFLEX CLICKbCAPITAL LETTER DZ WITH CARON"⟩,
  ⟨0x01C5, "LATIN CAPITAL LETTER D WITH SMALL LETTER Z WITH CARONbSMALL LETTER DZ WITH CARON"⟩,
  ⟨0x01C7, "LATIN CAPITAL LETTER LJdL WITH SMALL LETTER JbSMALL LETTER LJbCAPITAL LETTER NJ"⟩,
  ⟨0x01CB, "LATIN CAPITAL LETTER N WITH SMALL LETTER JbSMALL LETTER NJ"⟩,
  ⟨0x01CD, "LATIN CAPITAL LETTER A WITH CARONbSMALL LETTER A WITH CARON"⟩,
  ⟨0x01CF, "LATIN CAPITAL LETTER I WITH CARONbSMALL LETTER I WITH CARON"⟩,
  ⟨0x01D1, "LATIN CAPITAL LETTER O WITH CARONbSMALL LETTER O WITH CARON"⟩,
  ⟨0x01D3, "LATIN CAPITAL LETTER U WITH CARONbSMALL LETTER U WITH CARON"⟩,
  ⟨0x01D5, "LATIN CAPITAL LETTER U WITH DIAERESIS AND MACRON"⟩,
  ⟨0x01D6, "LATIN SMALL LETTER U WITH DIAERESIS AND MACRON"⟩,
  ⟨0x01D7, "LATIN CAPITAL LETTER U WITH DIAERESIS AND ACUTE"⟩,
  ⟨0x01D8, "LATIN SMALL LETTER U WITH DIAERESIS AND ACUTE"⟩,
  ⟨0x01D9, "LATIN CAPITAL LETTER U WITH DIAERESIS AND CARON"⟩,
  ⟨0x01DA, "LATIN SMALL LETTER U WITH DIAERESIS AND CARON"⟩,
  ⟨0x01DB, "LATIN CAPITAL LETTER U WITH DIAERESIS AND GRAVE"⟩,
  ⟨0x01DC, "LATIN SMALL LETTER U WITH DIAERESIS AND GRAVEdTURNED E"⟩,
  ⟨0x01DE, "LATIN CAPITAL LETTER A WITH DIAERESIS AND MACRON"⟩,
  ⟨0x01DF, "LATIN SMALL LETTER A WITH DIAERESIS AND MACRON"⟩,
  ⟨0x01E0, "LATIN CAPITAL LETTER A WITH DOT ABOVE AND MACRON"⟩,
  ⟨0x01E1, "LATIN SMALL LETTER A WITH DOT ABOVE AND MACRONbCAPITAL LETTER AE WITH MACRON"⟩,
  ⟨0x01E3, "LATIN SMALL LETTER AE WITH MACRONbCAPITAL LETTER G WITH STROKE"⟩,
  ⟨0x01E5, "LATIN SMALL LETTER G WITH STROKEbCAPITAL LETTER G WITH CARON"⟩,
  ⟨0x01E7, "LATIN SMALL LETTER G WITH CARONbCAPITAL LETTER K WITH CARONbSMALL LETTER K WITH CARON"⟩,
  ⟨0x01EA, "LATIN CAPITAL LETTER O WITH OGONEKbSMALL LETTER O WITH OGONEK"⟩,
  ⟨0x01EC, "LATIN CAPITAL LETTER O WITH OGONEK AND MACRONbSMALL LETTER O WITH OGONEK AND MACRON"⟩,
  ⟨0x01EE, "LATIN CAPITAL LETTER EZH WITH CARONbSMALL LETTER EZH WITH CARONdJ WITH CARON"⟩,
  ⟨0x01F1, "LATIN CAPITAL LETTER DZdD WITH SMALL LETTER ZbSMALL LETTER DZ"⟩,
  ⟨0x01F4, "LATIN CAPITAL LETTER G WITH ACUTEbSMALL LETTER G WITH ACUTEbCAPITAL LETTER HWAIRdWYNN"⟩,
  ⟨0x01F8, "LATIN CAPITAL LETTER N WITH GRAVEbSMALL LETTER N WITH GRAVE"⟩,
  ⟨0x01FA, "LATIN CAPITAL LETTER A WITH RING ABOVE AND ACUTE"⟩,
  ⟨0x01FB, "LATIN SMALL LETTER A WITH RING ABOVE AND ACUTEbCAPITAL LETTER AE WITH ACUTE"⟩,
  ⟨0x01FD, "LATIN SMALL LETTER AE WITH ACUTEbCAPITAL LETTER O WITH STROKE AND ACUTE"⟩,
  ⟨0x01FF, "LATIN SMALL LETTER O WITH STROKE AND ACUTEbCAPITAL LETTER A WITH DOUBLE GRAVE"⟩,
  ⟨0x0201, "LATIN SMALL LETTER A WITH DOUBLE GRAVEbCAPITAL LETTER A WITH INVERTED BREVE"⟩,
  ⟨0x0203, "LATIN SMALL LETTER A WITH INVERTED BREVEbCAPITAL LETTER E WITH DOUBLE GRAVE"⟩,
  ⟨0x0205, "LATIN SMALL LETTER E WITH DOUBLE GRAVEbCAPITAL LETTER E WITH INVERTED BREVE"⟩,
  ⟨0x0207, "LATIN SMALL LETTER E WITH INVERTED BREVEbCAPITAL LETTER I WITH DOUBLE GRAVE"⟩,
  ⟨0x0209, "LATIN SMALL LETTER I WITH DOUBLE GRAVEbCAPITAL LETTER I WITH INVERTED BREVE"⟩,
  ⟨0x020B, "LATIN SMALL LETTER I WITH INVERTED BREVEbCAPITAL LETTER O WITH DOUBLE GRAVE"⟩,
  ⟨0x020D, "LATIN SMALL LETTER O WITH DOUBLE GRAVEbCAPITAL LETTER O WITH INVERTED BREVE"⟩,
  ⟨0x020F, "LATIN SMALL LETTER O WITH INVERTED BREVEbCAPITAL LETTER R WITH DOUBLE GRAVE"⟩,
  ⟨0x0211, "LATIN SMALL LETTER R WITH DOUBLE GRAVEbCAPITAL LETTER R WITH INVERTED BREVE"⟩,
  ⟨0x0213, "LATIN SMALL LETTER R WITH INVERTED BREVEbCAPITAL LETTER U WITH DOUBLE GRAVE"⟩,
  ⟨0x0215, "LATIN SMALL LETTER U WITH DOUBLE GRAVEbCAPITAL LETTER U WITH INVERTED BREVE"⟩,
  ⟨0x0217, "LATIN SMALL LETTER U WITH INVERTED BREVEbCAPITAL LETTER S WITH COMMA BELOW"⟩,
  ⟨0x0219, "LATIN SMALL LETTER S WITH COMMA BELOWbCAPITAL LETTER T WITH COMMA BELOW"⟩,
  ⟨0x021B, "LATIN SMALL LETTER T WITH COMMA BELOWbCAPITAL LETTER YOGHbSMALL LETTER YOGH"⟩,
  ⟨0x021E, "LATIN CAPITAL LETTER H WITH CARONbSMALL LETTER H WITH CARON"⟩,
  ⟨0x0220, "LATIN CAPITAL LETTER N WITH LONG RIGHT LEGbSMALL LETTER D WITH CURLbCAPITAL LETTER OU"⟩,
  ⟨0x0223, "LATIN SMALL LETTER OUbCAPITAL LETTER Z WITH HOOKbSMALL LETTER Z WITH HOOK"⟩,
  ⟨0x0226, "LATIN CAPITAL LETTER A WITH DOT ABOVEbSMALL LETTER A WITH DOT ABOVE"⟩,
  ⟨0x0228, "LATIN CAPITAL LETTER E WITH CEDILLAbSMALL LETTER E WITH CEDILLA"⟩,
  ⟨0x022A, "LATIN CAPITAL LETTER O WITH DIAERESIS AND MACRON"⟩,
  ⟨0x022B, "LATIN SMALL LETTER O WITH DIAERESIS AND MACRONbCAPITAL LETTER O WITH TILDE AND MACRON"⟩,
  ⟨0x022D, "LATIN SMALL LETTER O WITH TILDE AND MACRONbCAPITAL LETTER O WITH DOT ABOVE"⟩,
  ⟨0x022F, "LATIN SMALL LETTER O WITH DOT ABOVEbCAPITAL LETTER O WITH DOT ABOVE AND MACRON"⟩,
  ⟨0x0231, "LATIN SMALL LETTER O WITH DOT ABOVE AND MACRONbCAPITAL LETTER Y WITH MACRON"⟩,
  ⟨0x0233, "LATIN SMALL LETTER Y WITH MACRONdL WITH CURLdN WITH CURLdT WITH CURLdDOTLESS J"⟩,
  ⟨0x0238, "LATIN SMALL LETTER DB DIGRAPHdQP DIGRAPHbCAPITAL LETTER A WITH STROKEdC WITH STROKE"⟩,
  ⟨0x023C, "LATIN SMALL LETTER C WITH STROKEbCAPITAL LETTER L WITH BARdT WITH DIAGONAL STROKE"⟩,
  ⟨0x023F, "LATIN SMALL LETTER S WITH SWASH TAILdZ WITH SWASH TAILbCAPITAL LETTER GLOTTAL STOP"⟩,
  ⟨0x0242, "LATIN SMALL LETTER GLOTTAL STOPbCAPITAL LETTER B WITH STROKEdU BARdTURNED V"⟩,
  ⟨0x0246, "LATIN CAPITAL LETTER E WITH STROKEbSMALL LETTER E WITH STROKE"⟩,
  ⟨0x0248, "LATIN CAPITAL LETTER J WITH STROKEbSMALL LETTER J WITH STROKE"⟩,
  ⟨0x024A, "LATIN CAPITAL LETTER SMALL Q WITH HOOK TAILbSMALL LETTER Q WITH HOOK TAIL"⟩,
  ⟨0x024C, "LATIN CAPITAL LETTER R WITH STROKEbSMALL LETTER R WITH STROKE"⟩,
  ⟨0x024E, "LATIN CAPITAL LETTER Y WITH STROKEbSMALL LETTER Y WITH STROKEdTURNED AdALPHA"⟩,
  ⟨0x0252, "LATIN SMALL LETTER TURNED ALPHAdB WITH HOOKdOPEN OdC WITH CURLdD WITH TAILfHOOK"⟩,
  ⟨0x0258, "LATIN SMALL LETTER REVERSED EdSCHWAdSCHWA WITH HOOKdOPEN EdREVERSED OPEN E"⟩,
  ⟨0x025D, "LATIN SMALL LETTER REVERSED OPEN E WITH HOOKdCLOSED REVERSED OPEN E"⟩,
  ⟨0x025F, "LATIN SMALL LETTER DOTLESS J WITH STROKEdG WITH HOOKdSCRIPT GbLETTER SMALL CAPITAL G"⟩,
  ⟨0x0263, "LATIN SMALL LETTER GAMMAdRAMS HORNdTURNED HdH WITH HOOKdHENG WITH HOOKdI WITH STROKE"⟩,
  ⟨0x0269, "LATIN SMALL LETTER IOTAbLETTER SMALL CAPITAL IbSMALL LETTER L WITH MIDDLE TILDEfBELT"⟩,
  ⟨0x026D, "LATIN SMALL LETTER L WITH RETROFLEX HOOKdLEZHdTURNED MeM WITH LONG LEGdM WITH HOOK"⟩,
  ⟨0x0272, "LATIN SMALL LETTER N WITH LEFT HOOKfRETROFLEX HOOKbLETTER SMALL CAPITAL N"⟩,
  ⟨0x0275, "LATIN SMALL LETTER BARRED ObLETTER SMALL CAPITAL OEbSMALL LETTER CLOSED OMEGAdPHI"⟩,
  ⟨0x0279, "LATIN SMALL LETTER TURNED ReR WITH LONG LEGgHOOKdR WITH LONG LEGfTAILfFISHHOOK"⟩,
  ⟨0x027F, "LATIN SMALL LETTER REVERSED R WITH FISHHOOKbLETTER SMALL CAPITAL ReINVERTED R"⟩,
  ⟨0x0282, "LATIN SMALL LETTER S WITH HOOKdESHdDOTLESS J WITH STROKE AND HOOKdSQUAT REVERSED ESH"⟩,
  ⟨0x0286, "LATIN SMALL LETTER ESH WITH CURLdTURNED TdT WITH RETROFLEX HOOKdU BARdUPSILON"⟩,
  ⟨0x028B, "LATIN SMALL LETTER V WITH HOOKdTURNED VeWeYbLETTER SMALL CAPITAL Y"⟩,
  ⟨0x0290, "LATIN SMALL LETTER Z WITH RETROFLEX HOOKfCURLdEZHdEZH WITH CURLbLETTER GLOTTAL STOP"⟩,
  ⟨0x0295, "LATIN LETTER PHARYNGEAL VOICED FRICATIVEcINVERTED GLOTTAL STOPcSTRETCHED C"⟩,
  ⟨0x0298, "LATIN LETTER BILABIAL CLICKcSMALL CAPITAL BbSMALL LETTER CLOSED OPEN E"⟩,
  ⟨0x029B, "LATIN LETTER SMALL CAPITAL G WITH HOOKeHbSMALL LETTER J WITH CROSSED-TAILdTURNED K"⟩,
  ⟨0x029F, "LATIN LETTER SMALL CAPITAL LbSMALL LETTER Q WITH HOOKbLETTER GLOTTAL STOP WITH STROKE"⟩,
  ⟨0x02A2, "LATIN LETTER REVERSED GLOTTAL STOP WITH STROKEbSMALL LETTER DZ DIGRAPHdDEZH DIGRAPH"⟩,
  ⟨0x02A5, "LATIN SMALL LETTER DZ DIGRAPH WITH CURLdTS DIGRAPHdTESH DIGRAPHdTC DIGRAPH WITH CURL"⟩,
  ⟨0x02A9, "LATIN SMALL LETTER FENG DIGRAPHdLS DIGRAPHdLZ DIGRAPHbLETTER BILABIAL PERCUSSIVE"⟩,
  ⟨0x02AD, "LATIN LETTER BIDENTAL PERCUSSIVEbSMALL LETTER TURNED H WITH FISHHOOK"⟩,
  ⟨0x02AF, "LATIN SMALL LETTER TURNED H WITH FISHHOOK AND TAILaMODIFIER LETTER SMALL H"⟩,
  ⟨0x02B1, "MODIFIER LETTER SMALL H WITH HOOKdJdRdTURNED ReR WITH HOOKdCAPITAL INVERTED RdWdY"⟩,
  ⟨0x02B9, "MODIFIER LETTER PRIMEcDOUBLE PRIMEcTURNED COMMAcAPOSTROPHEcREVERSED COMMA"⟩,
  ⟨0x02BE, "MODIFIER LETTER RIGHT HALF RINGcLEFT HALF RINGcGLOTTAL STOPcREVERSED GLOTTAL STOP"⟩,
  ⟨0x02C2, "MODIFIER LETTER LEFT ARROWHEADcRIGHT ARROWHEADcUP ARROWHEADcDOWN ARROWHEAD"⟩,
  ⟨0x02C6, "MODIFIER LETTER CIRCUMFLEX ACCENTaCARONaMODIFIER LETTER VERTICAL LINEcMACRON"⟩,
  ⟨0x02CA, "MODIFIER LETTER ACUTE ACCENTcGRAVE ACCENTcLOW VERTICAL LINEdMACRONdGRAVE ACCENT"⟩,
  ⟨0x02CF, "MODIFIER LETTER LOW ACUTE ACCENTcTRIANGULAR COLONcHALF TRIANGULAR COLON"⟩,
  ⟨0x02D2, "MODIFIER LETTER CENTRED RIGHT HALF RINGdLEFT HALF RINGcUP TACKcDOWN TACKcPLUS SIGN"⟩,
  ⟨0x02D7, "MODIFIER LETTER MINUS SIGNaBREVEaDOT ABOVEaRING ABOVEaOGONEKaSMALL TILDE"⟩,
  ⟨0x02DD, "DOUBLE ACUTE ACCENTaMODIFIER LETTER RHOTIC HOOKcCROSS ACCENTcSMALL GAMMAdLdSdX"⟩,
  ⟨0x02E4, "MODIFIER LETTER SMALL REVERSED GLOTTAL STOPcEXTRA-HIGH TONE BARcHIGH TONE BAR"⟩,
  ⟨0x02E7, "MODIFIER LETTER MID TONE BARcLOW TONE BARcEXTRA-LOW TONE BARcYIN DEPARTING TONE MARK"⟩,
  ⟨0x02EB, "MODIFIER LETTER YANG DEPARTING TONE MARKcVOICINGcUNASPIRATEDcDOUBLE APOSTROPHE"⟩,
  ⟨0x02EF, "MODIFIER LETTER LOW DOWN ARROWHEADdUP ARROWHEADdLEFT ARROWHEADdRIGHT ARROWHEADdRING"⟩,
  ⟨0x02F4, "MODIFIER LETTER MIDDLE GRAVE ACCENTdDOUBLE GRAVE ACCENTeACUTE ACCENTcLOW TILDE"⟩,
  ⟨0x02F8, "MODIFIER LETTER RAISED COLONcBEGIN HIGH TONEcEND HIGH TONEcBEGIN LOW TONE"⟩,
  ⟨0x02FC, "MODIFIER LETTER END LOW TONEcSHELFcOPEN SHELFcLOW LEFT ARROWaCOMBINING GRAVE ACCENT"⟩,
  ⟨0x0301, "COMBINING ACUTE ACCENTbCIRCUMFLEX ACCENTbTILDEbMACRONbOVERLINEbBREVEbDOT ABOVE"⟩,
  ⟨0x0308, "COMBINING DIAERESISbHOOK ABOVEbRING ABOVEbDOUBLE ACUTE ACCENTbCARON"⟩,
  ⟨0x030D, "COMBINING VERTICAL LINE ABOVEbDOUBLE VERTICAL LINE ABOVEcGRAVE ACCENTbCANDRABINDU"⟩,
  ⟨0x0311, "COMBINING INVERTED BREVEbTURNED COMMA ABOVEbCOMMA ABOVEbREVERSED COMMA ABOVE"⟩,
  ⟨0x0315, "COMBINING COMMA ABOVE RIGHTbGRAVE ACCENT BELOWbACUTE ACCENT BELOWbLEFT TACK BELOW"⟩,
  ⟨0x0319, "COMBINING RIGHT TACK BELOWbLEFT ANGLE ABOVEbHORNbLEFT HALF RING BELOWbUP TACK BELOW"⟩,
  ⟨0x031E, "COMBINING DOWN TACK BELOWbPLUS SIGN BELOWbMINUS SIGN BELOWbPALATALIZED HOOK BELOW"⟩,
  ⟨0x0322, "COMBINING RETROFLEX HOOK BELOWbDOT BELOWbDIAERESIS BELOWbRING BELOWbCOMMA BELOW"⟩,
  ⟨0x0327, "COMBINING CEDILLAbOGONEKbVERTICAL LINE BELOWbBRIDGE BELOWbINVERTED DOUBLE ARCH BELOW"⟩,
  ⟨0x032C, "COMBINING CARON BELOWbCIRCUMFLEX ACCENT BELOWbBREVE BELOWbINVERTED BREVE BELOW"⟩,
  ⟨0x0330, "COMBINING TILDE BELOWbMACRON BELOWbLOW LINEbDOUBLE LOW LINEbTILDE OVERLAY"⟩,
  ⟨0x0335, "COMBINING SHORT STROKE OVERLAYbLONG STROKE OVERLAYbSHORT SOLIDUS OVERLAY"⟩,
  ⟨0x0338, "COMBINING LONG SOLIDUS OVERLAYbRIGHT HALF RING BELOWbINVERTED BRIDGE BELOW"⟩,
  ⟨0x033B, "COMBINING SQUARE BELOWbSEAGULL BELOWbX ABOVEbVERTICAL TILDEbDOUBLE OVERLINE"⟩,
  ⟨0x0340, "COMBINING GRAVE TONE MARKbACUTE TONE MARKbGREEK PERISPOMENIcKORONIScDIALYTIKA TONOS"⟩,
  ⟨0x0345, "COMBINING GREEK YPOGEGRAMMENIbBRIDGE ABOVEbEQUALS SIGN BELOW"⟩,
  ⟨0x0348, "COMBINING DOUBLE VERTICAL LINE BELOWbLEFT ANGLE BELOWbNOT TILDE ABOVE"⟩,
  ⟨0x034B, "COMBINING HOMOTHETIC ABOVEbALMOST EQUAL TO ABOVEbLEFT RIGHT ARROW BELOW"⟩,
  ⟨0x034E, "COMBINING UPWARDS ARROW BELOWbGRAPHEME JOINERbRIGHT ARROWHEAD ABOVE"⟩,
  ⟨0x0351, "COMBINING LEFT HALF RING ABOVEbFERMATAbX BELOWbLEFT ARROWHEAD BELOW"⟩,
  ⟨0x0355, "COMBINING RIGHT ARROWHEAD BELOWdAND UP ARROWHEAD BELOWcHALF RING ABOVE"⟩,
  ⟨0x0358, "COMBINING DOT ABOVE RIGHTbASTERISK BELOWbDOUBLE RING BELOWbZIGZAG ABOVE"⟩,
  ⟨0x035C, "COMBINING DOUBLE BREVE BELOWcBREVEcMACRONcMACRON BELOWcTILDEcINVERTED BREVE"⟩,
  ⟨0x0362, "COMBINING DOUBLE RIGHTWARDS ARROW BELOWbLATIN SMALL LETTER AeEeIeOeUeCeDeHeMeReTeVeX"⟩,
  ⟨0x0370, "GREEK CAPITAL LETTER HETAbSMALL LETTER HETAbCAPITAL LETTER ARCHAIC SAMPI"⟩,
  ⟨0x0373, "GREEK SMALL LETTER ARCHAIC SAMPIbNUMERAL SIGNbLOWER NUMERAL SIGN"⟩,
  ⟨0x0376, "GREEK CAPITAL LETTER PAMPHYLIAN DIGAMMAbSMALL LETTER PAMPHYLIAN DIGAMMA"⟩,
  ⟨0x037A, "GREEK YPOGEGRAMMENIbSMALL REVERSED LUNATE SIGMA SYMBOLcDOTTED LUNATE SIGMA SYMBOL"⟩,
  ⟨0x037D, "GREEK SMALL REVERSED DOTTED LUNATE SIGMA SYMBOLbQUESTION MARKbCAPITAL LETTER YOT"⟩,
  ⟨0x0384, "GREEK TONOSbDIALYTIKA TONOSbCAPITAL LETTER ALPHA WITH TONOSbANO TELEIA"⟩,
  ⟨0x0388, "GREEK CAPITAL LETTER EPSILON WITH TONOSdETA WITH TONOSdIOTA WITH TONOS"⟩,
  ⟨0x038C, "GREEK CAPITAL LETTER OMICRON WITH TONOS"⟩,
  ⟨0x038E, "GREEK CAPITAL LETTER UPSILON WITH TONOSdOMEGA WITH TONOS"⟩,
  ⟨0x0390, "GREEK SMALL LETTER IOTA WITH DIALYTIKA AND TONOSbCAPITAL LETTER ALPHAdBETAdGAMMA"⟩,
  ⟨0x0394, "GREEK CAPITAL LETTER DELTAdEPSILONdZETAdETAdTHETAdIOTAdKAPPAdLAMDAdMUdNUdXIdOMICRON"⟩,
  ⟨0x03A0, "GREEK CAPITAL LETTER PIdRHO"⟩,
  ⟨0x03A3, "GREEK CAPITAL LETTER SIGMAdTAUdUPSILONdPHIdCHIdPSIdOMEGAdIOTA WITH DIALYTIKA"⟩,
  ⟨0x03AB, "GREEK CAPITAL LETTER UPSILON WITH DIALYTIKAbSMALL LETTER ALPHA WITH TONOS"⟩,
  ⟨0x03AD, "GREEK SMALL LETTER EPSILON WITH TONOSdETA WITH TONOSdIOTA WITH TONOS"⟩,
  ⟨0x03B0, "GREEK SMALL LETTER UPSILON WITH DIALYTIKA AND TONOSdALPHAdBETAdGAMMAdDELTAdEPSILON"⟩,
  ⟨0x03B6, "GREEK SMALL LETTER ZETAdETAdTHETAdIOTAdKAPPAdLAMDAdMUdNUdXIdOMICRONdPIdRHO"⟩,
  ⟨0x03C2, "GREEK SMALL LETTER FINAL SIGMAdSIGMAdTAUdUPSILONdPHIdCHIdPSIdOMEGA"⟩,
  ⟨0x03CA, "GREEK SMALL LETTER IOTA WITH DIALYTIKAdUPSILON WITH DIALYTIKAdOMICRON WITH TONOS"⟩,
  ⟨0x03CD, "GREEK SMALL LETTER UPSILON WITH TONOSdOMEGA WITH TONOSbCAPITAL KAI SYMBOLbBETA SYMBOL"⟩,
  ⟨0x03D1, "GREEK THETA SYMBOLbUPSILON WITH HOOK SYMBOLdACUTE AND HOOK SYMBOL"⟩,
  ⟨0x03D4, "GREEK UPSILON WITH DIAERESIS AND HOOK SYMBOLbPHI SYMBOLbPI SYMBOLbKAI SYMBOL"⟩,
  ⟨0x03D8, "GREEK LETTER ARCHAIC KOPPAbSMALL LETTER ARCHAIC KOPPAbLETTER STIGMA"⟩,
  ⟨0x03DB, "GREEK SMALL LETTER STIGMAbLETTER DIGAMMAbSMALL LETTER DIGAMMAbLETTER KOPPA"⟩,
  ⟨0x03DF, "GREEK SMALL LETTER KOPPAbLETTER SAMPIbSMALL LETTER SAMPIaCOPTIC CAPITAL LETTER SHEI"⟩,
  ⟨0x03E3, "COPTIC SMALL LETTER SHEIbCAPITAL LETTER FEIbSMALL LETTER FEIbCAPITAL LETTER KHEI"⟩,
  ⟨0x03E7, "COPTIC SMALL LETTER KHEIbCAPITAL LETTER HORIbSMALL LETTER HORIbCAPITAL LETTER GANGIA"⟩,
  ⟨0x03EB, "COPTIC SMALL LETTER GANGIAbCAPITAL LETTER SHIMAbSMALL LETTER SHIMAbCAPITAL LETTER DEI"⟩,
  ⟨0x03EF, "COPTIC SMALL LETTER DEIaGREEK KAPPA SYMBOLbRHO SYMBOLbLUNATE SIGMA SYMBOLbLETTER YOT"⟩,
  ⟨0x03F4, "GREEK CAPITAL THETA SYMBOLbLUNATE EPSILON SYMBOLbREVERSED LUNATE EPSILON SYMBOL"⟩,
  ⟨0x03F7, "GREEK CAPITAL LETTER SHObSMALL LETTER SHObCAPITAL LUNATE SIGMA SYMBOLcLETTER SAN"⟩,
  ⟨0x03FB, "GREEK SMALL LETTER SANbRHO WITH STROKE SYMBOLbCAPITAL REVERSED LUNATE SIGMA SYMBOL"⟩,
  ⟨0x03FE, "GREEK CAPITAL DOTTED LUNATE SIGMA SYMBOLcREVERSED DOTTED LUNATE SIGMA SYMBOL"⟩,
  ⟨0x0400, "CYRILLIC CAPITAL LETTER IE WITH GRAVEdIOdDJEdGJEdUKRAINIAN IEdDZE"⟩,
  ⟨0x0406, "CYRILLIC CAPITAL LETTER BYELORUSSIAN-UKRAINIAN IdYIdJEdLJEdNJEdTSHEdKJEdI WITH GRAVE"⟩,
  ⟨0x040E, "CYRILLIC CAPITAL LETTER SHORT UdDZHEdAdBEdVEdGHEdDEdIEdZHEdZEdIdSHORT IdKAdELdEMdENdO"⟩,
  ⟨0x041F, "CYRILLIC CAPITAL LETTER PEdERdESdTEdUdEFdHAdTSEdCHEdSHAdSHCHAdHARD SIGNdYERU"⟩,
  ⟨0x042C, "CYRILLIC CAPITAL LETTER SOFT SIGNdEdYUdYAbSMALL LETTER AdBEdVEdGHEdDEdIEdZHEdZEdI"⟩,
  ⟨0x0439, "CYRILLIC SMALL LETTER SHORT IdKAdELdEMdENdOdPEdERdESdTEdUdEFdHAdTSEdCHEdSHAdSHCHA"⟩,
  ⟨0x044A, "CYRILLIC SMALL LETTER HARD SIGNdYERUdSOFT SIGNdEdYUdYAdIE WITH GRAVEdIOdDJEdGJE"⟩,
  ⟨0x0454, "CYRILLIC SMALL LETTER UKRAINIAN IEdDZEdBYELORUSSIAN-UKRAINIAN IdYIdJEdLJEdNJEdTSHE"⟩,
  ⟨0x045C, "CYRILLIC SMALL LETTER KJEdI WITH GRAVEdSHORT UdDZHEbCAPITAL LETTER OMEGA"⟩,
  ⟨0x0461, "CYRILLIC SMALL LETTER OMEGAbCAPITAL LETTER YATbSMALL LETTER YAT"⟩,
  ⟨0x0464, "CYRILLIC CAPITAL LETTER IOTIFIED EbSMALL LETTER IOTIFIED EbCAPITAL LETTER LITTLE YUS"⟩,
  ⟨0x0467, "CYRILLIC SMALL LETTER LITTLE YUSbCAPITAL LETTER IOTIFIED LITTLE YUS"⟩,
  ⟨0x0469, "CYRILLIC SMALL LETTER IOTIFIED LITTLE YUSbCAPITAL LETTER BIG YUSbSMALL LETTER BIG YUS"⟩,
  ⟨0x046C, "CYRILLIC CAPITAL LETTER IOTIFIED BIG YUSbSMALL LETTER IOTIFIED BIG YUS"⟩,
  ⟨0x046E, "CYRILLIC CAPITAL LETTER KSIbSMALL LETTER KSIbCAPITAL LETTER PSIbSMALL LETTER PSI"⟩,
  ⟨0x0472, "CYRILLIC CAPITAL LETTER FITAbSMALL LETTER FITAbCAPITAL LETTER IZHITSA"⟩,
  ⟨0x0475, "CYRILLIC SMALL LETTER IZHITSAbCAPITAL LETTER IZHITSA WITH DOUBLE GRAVE ACCENT"⟩,
  ⟨0x0477, "CYRILLIC SMALL LETTER IZHITSA WITH DOUBLE GRAVE ACCENTbCAPITAL LETTER UK"⟩,
  ⟨0x0479, "CYRILLIC SMALL LETTER UKbCAPITAL LETTER ROUND OMEGAbSMALL LETTER ROUND OMEGA"⟩,
  ⟨0x047C, "CYRILLIC CAPITAL LETTER OMEGA WITH TITLObSMALL LETTER OMEGA WITH TITLO"⟩,
  ⟨0x047E, "CYRILLIC CAPITAL LETTER OTbSMALL LETTER OTbCAPITAL LETTER KOPPAbSMALL LETTER KOPPA"⟩,
  ⟨0x0482, "CYRILLIC THOUSANDS SIGNaCOMBINING CYRILLIC TITLOcPALATALIZATIONcDASIA PNEUMATA"⟩,
  ⟨0x0486, "COMBINING CYRILLIC PSILI PNEUMATAcPOKRYTIEcHUNDRED THOUSANDS SIGNcMILLIONS SIGN"⟩,
  ⟨0x048A, "CYRILLIC CAPITAL LETTER SHORT I WITH TAILbSMALL LETTER SHORT I WITH TAIL"⟩,
  ⟨0x048C, "CYRILLIC CAPITAL LETTER SEMISOFT SIGNbSMALL LETTER SEMISOFT SIGN"⟩,
  ⟨0x048E, "CYRILLIC CAPITAL LETTER ER WITH TICKbSMALL LETTER ER WITH TICK"⟩,
  ⟨0x0490, "CYRILLIC CAPITAL LETTER GHE WITH UPTURNbSMALL LETTER GHE WITH UPTURN"⟩,
  ⟨0x0492, "CYRILLIC CAPITAL LETTER GHE WITH STROKEbSMALL LETTER GHE WITH STROKE"⟩,
  ⟨0x0494, "CYRILLIC CAPITAL LETTER GHE WITH MIDDLE HOOKbSMALL LETTER GHE WITH MIDDLE HOOK"⟩,
  ⟨0x0496, "CYRILLIC CAPITAL LETTER ZHE WITH DESCENDERbSMALL LETTER ZHE WITH DESCENDER"⟩,
  ⟨0x0498, "CYRILLIC CAPITAL LETTER ZE WITH DESCENDERbSMALL LETTER ZE WITH DESCENDER"⟩,
  ⟨0x049A, "CYRILLIC CAPITAL LETTER KA WITH DESCENDERbSMALL LETTER KA WITH DESCENDER"⟩,
  ⟨0x049C, "CYRILLIC CAPITAL LETTER KA WITH VERTICAL STROKEbSMALL LETTER KA WITH VERTICAL STROKE"⟩,
  ⟨0x049E, "CYRILLIC CAPITAL LETTER KA WITH STROKEbSMALL LETTER KA WITH STROKE"⟩,
  ⟨0x04A0, "CYRILLIC CAPITAL LETTER BASHKIR KAbSMALL LETTER BASHKIR KA"⟩,
  ⟨0x04A2, "CYRILLIC CAPITAL LETTER EN WITH DESCENDERbSMALL LETTER EN WITH DESCENDER"⟩,
  ⟨0x04A4, "CYRILLIC CAPITAL LIGATURE EN GHEbSMALL LIGATURE EN GHE"⟩,
  ⟨0x04A6, "CYRILLIC CAPITAL LETTER PE WITH MIDDLE HOOKbSMALL LETTER PE WITH MIDDLE HOOK"⟩,
  ⟨0x04A8, "CYRILLIC CAPITAL LETTER ABKHASIAN HAbSMALL LETTER ABKHASIAN HA"⟩,
  ⟨0x04AA, "CYRILLIC CAPITAL LETTER ES WITH DESCENDERbSMALL LETTER ES WITH DESCENDER"⟩,
  ⟨0x04AC, "CYRILLIC CAPITAL LETTER TE WITH DESCENDERbSMALL LETTER TE WITH DESCENDER"⟩,
  ⟨0x04AE, "CYRILLIC CAPITAL LETTER STRAIGHT UbSMALL LETTER STRAIGHT U"⟩,
  ⟨0x04B0, "CYRILLIC CAPITAL LETTER STRAIGHT U WITH STROKEbSMALL LETTER STRAIGHT U WITH STROKE"⟩,
  ⟨0x04B2, "CYRILLIC CAPITAL LETTER HA WITH DESCENDERbSMALL LETTER HA WITH DESCENDER"⟩,
  ⟨0x04B4, "CYRILLIC CAPITAL LIGATURE TE TSEbSMALL LIGATURE TE TSE"⟩,
  ⟨0x04B6, "CYRILLIC CAPITAL LETTER CHE WITH DESCENDERbSMALL LETTER CHE WITH DESCENDER"⟩,
  ⟨0x04B8, "CYRILLIC CAPITAL LETTER CHE WITH VERTICAL STROKE"⟩,
  ⟨0x04B9, "CYRILLIC SMALL LETTER CHE WITH VERTICAL STROKEbCAPITAL LETTER SHHAbSMALL LETTER SHHA"⟩,
  ⟨0x04BC, "CYRILLIC CAPITAL LETTER ABKHASIAN CHEbSMALL LETTER ABKHASIAN CHE"⟩,
  ⟨0x04BE, "CYRILLIC CAPITAL LETTER ABKHASIAN CHE WITH DESCENDER"⟩,
  ⟨0x04BF, "CYRILLIC SMALL LETTER ABKHASIAN CHE WITH DESCENDERbLETTER PALOCHKA"⟩,
  ⟨0x04C1, "CYRILLIC CAPITAL LETTER ZHE WITH BREVEbSMALL LETTER ZHE WITH BREVE"⟩,
  ⟨0x04C3, "CYRILLIC CAPITAL LETTER KA WITH HOOKbSMALL LETTER KA WITH HOOK"⟩,
  ⟨0x04C5, "CYRILLIC CAPITAL LETTER EL WITH TAILbSMALL LETTER EL WITH TAIL"⟩,
  ⟨0x04C7, "CYRILLIC CAPITAL LETTER EN WITH HOOKbSMALL LETTER EN WITH HOOK"⟩,
  ⟨0x04C9, "CYRILLIC CAPITAL LETTER EN WITH TAILbSMALL LETTER EN WITH TAIL"⟩,
  ⟨0x04CB, "CYRILLIC CAPITAL LETTER KHAKASSIAN CHEbSMALL LETTER KHAKASSIAN CHE"⟩,
  ⟨0x04CD, "CYRILLIC CAPITAL LETTER EM WITH TAILbSMALL LETTER EM WITH TAILdPALOCHKA"⟩,
  ⟨0x04D0, "CYRILLIC CAPITAL LETTER A WITH BREVEbSMALL LETTER A WITH BREVE"⟩,
  ⟨0x04D2, "CYRILLIC CAPITAL LETTER A WITH DIAERESISbSMALL LETTER A WITH DIAERESIS"⟩,
  ⟨0x04D4, "CYRILLIC CAPITAL LIGATURE A IEbSMALL LIGATURE A IEbCAPITAL LETTER IE WITH BREVE"⟩,
  ⟨0x04D7, "CYRILLIC SMALL LETTER IE WITH BREVEbCAPITAL LETTER SCHWAbSMALL LETTER SCHWA"⟩,
  ⟨0x04DA, "CYRILLIC CAPITAL LETTER SCHWA WITH DIAERESISbSMALL LETTER SCHWA WITH DIAERESIS"⟩,
  ⟨0x04DC, "CYRILLIC CAPITAL LETTER ZHE WITH DIAERESISbSMALL LETTER ZHE WITH DIAERESIS"⟩,
  ⟨0x04DE, "CYRILLIC CAPITAL LETTER ZE WITH DIAERESISbSMALL LETTER ZE WITH DIAERESIS"⟩,
  ⟨0x04E0, "CYRILLIC CAPITAL LETTER ABKHASIAN DZEbSMALL LETTER ABKHASIAN DZE"⟩,
  ⟨0x04E2, "CYRILLIC CAPITAL LETTER I WITH MACRONbSMALL LETTER I WITH MACRON"⟩,
  ⟨0x04E4, "CYRILLIC CAPITAL LETTER I WITH DIAERESISbSMALL LETTER I WITH DIAERESIS"⟩,
  ⟨0x04E6, "CYRILLIC CAPITAL LETTER O WITH DIAERESISbSMALL LETTER O WITH DIAERESIS"⟩,
  ⟨0x04E8, "CYRILLIC CAPITAL LETTER BARRED ObSMALL LETTER BARRED O"⟩,
  ⟨0x04EA, "CYRILLIC CAPITAL LETTER BARRED O WITH DIAERESISbSMALL LETTER BARRED O WITH DIAERESIS"⟩,
  ⟨0x04EC, "CYRILLIC CAPITAL LETTER E WITH DIAERESISbSMALL LETTER E WITH DIAERESIS"⟩,
  ⟨0x04EE, "CYRILLIC CAPITAL LETTER U WITH MACRONbSMALL LETTER U WITH MACRON"⟩,
  ⟨0x04F0, "CYRILLIC CAPITAL LETTER U WITH DIAERESISbSMALL LETTER U WITH DIAERESIS"⟩,
  ⟨0x04F2, "CYRILLIC CAPITAL LETTER U WITH DOUBLE ACUTEbSMALL LETTER U WITH DOUBLE ACUTE"⟩,
  ⟨0x04F4, "CYRILLIC CAPITAL LETTER CHE WITH DIAERESISbSMALL LETTER CHE WITH DIAERESIS"⟩,
  ⟨0x04F6, "CYRILLIC CAPITAL LETTER GHE WITH DESCENDERbSMALL LETTER GHE WITH DESCENDER"⟩,
  ⟨0x04F8, "CYRILLIC CAPITAL LETTER YERU WITH DIAERESISbSMALL LETTER YERU WITH DIAERESIS"⟩,
  ⟨0x04FA, "CYRILLIC CAPITAL LETTER GHE WITH STROKE AND HOOK"⟩,
  ⟨0x04FB, "CYRILLIC SMALL LETTER GHE WITH STROKE AND HOOKbCAPITAL LETTER HA WITH HOOK"⟩,
  ⟨0x04FD, "CYRILLIC SMALL LETTER HA WITH HOOKbCAPITAL LETTER HA WITH STROKE"⟩,
  ⟨0x04FF, "CYRILLIC SMALL LETTER HA WITH STROKEbCAPITAL LETTER KOMI DEbSMALL LETTER KOMI DE"⟩,
  ⟨0x0502, "CYRILLIC CAPITAL LETTER KOMI DJEbSMALL LETTER KOMI DJEbCAPITAL LETTER KOMI ZJE"⟩,
  ⟨0x0505, "CYRILLIC SMALL LETTER KOMI ZJEbCAPITAL LETTER KOMI DZJEbSMALL LETTER KOMI DZJE"⟩,
  ⟨0x0508, "CYRILLIC CAPITAL LETTER KOMI LJEbSMALL LETTER KOMI LJEbCAPITAL LETTER KOMI NJE"⟩,
  ⟨0x050B, "CYRILLIC SMALL LETTER KOMI NJEbCAPITAL LETTER KOMI SJEbSMALL LETTER KOMI SJE"⟩,
  ⟨0x050E, "CYRILLIC CAPITAL LETTER KOMI TJEbSMALL LETTER KOMI TJEbCAPITAL LETTER REVERSED ZE"⟩,
  ⟨0x0511, "CYRILLIC SMALL LETTER REVERSED ZEbCAPITAL LETTER EL WITH HOOK"⟩,
  ⟨0x0513, "CYRILLIC SMALL LETTER EL WITH HOOKbCAPITAL LETTER LHAbSMALL LETTER LHA"⟩,
  ⟨0x0516, "CYRILLIC CAPITAL LETTER RHAbSMALL LETTER RHAbCAPITAL LETTER YAEbSMALL LETTER YAE"⟩,
  ⟨0x051A, "CYRILLIC CAPITAL LETTER QAbSMALL LETTER QAbCAPITAL LETTER WEbSMALL LETTER WE"⟩,
  ⟨0x051E, "CYRILLIC CAPITAL LETTER ALEUT KAbSMALL LETTER ALEUT KA"⟩,
  ⟨0x0520, "CYRILLIC CAPITAL LETTER EL WITH MIDDLE HOOKbSMALL LETTER EL WITH MIDDLE HOOK"⟩,
  ⟨0x0522, "CYRILLIC CAPITAL LETTER EN WITH MIDDLE HOOKbSMALL LETTER EN WITH MIDDLE HOOK"⟩,
  ⟨0x0524, "CYRILLIC CAPITAL LETTER PE WITH DESCENDERbSMALL LETTER PE WITH DESCENDER"⟩,
  ⟨0x0526, "CYRILLIC CAPITAL LETTER SHHA WITH DESCENDERbSMALL LETTER SHHA WITH DESCENDER"⟩,
  ⟨0x0528, "CYRILLIC CAPITAL LETTER EN WITH LEFT HOOKbSMALL LETTER EN WITH LEFT HOOK"⟩,
  ⟨0x052A, "CYRILLIC CAPITAL LETTER DZZHEbSMALL LETTER DZZHEbCAPITAL LETTER DCHE"⟩,
  ⟨0x052D, "CYRILLIC SMALL LETTER DCHEbCAPITAL LETTER EL WITH DESCENDER"⟩,
  ⟨0x052F, "CYRILLIC SMALL LETTER EL WITH DESCENDER"⟩,
  ⟨0x0531, "ARMENIAN CAPITAL LETTER AYBdBENdGIMdDAdECHdZAdEHdETdTOdZHEdINIdLIWNdXEHdCAdKENdHOdJA"⟩,
  ⟨0x0542, "ARMENIAN CAPITAL LETTER GHADdCHEHdMENdYIdNOWdSHAdVOdCHAdPEHdJHEHdRAdSEHdVEWdTIWNdREH"⟩,
  ⟨0x0551, "ARMENIAN CAPITAL LETTER COdYIWNdPIWRdKEHdOHdFEH"⟩,
  ⟨0x0559, "ARMENIAN MODIFIER LETTER LEFT HALF RINGbAPOSTROPHEbEMPHASIS MARKbEXCLAMATION MARK"⟩,
  ⟨0x055D, "ARMENIAN COMMAbQUESTION MARKbABBREVIATION MARKbSMALL LETTER TURNED AYBdAYBdBENdGIMdDA"⟩,
  ⟨0x0565, "ARMENIAN SMALL LETTER ECHdZAdEHdETdTOdZHEdINIdLIWNdXEHdCAdKENdHOdJAdGHADdCHEHdMENdYI"⟩,
  ⟨0x0576, "ARMENIAN SMALL LETTER NOWdSHAdVOdCHAdPEHdJHEHdRAdSEHdVEWdTIWNdREHdCOdYIWNdPIWRdKEHdOH"⟩,
  ⟨0x0586, "ARMENIAN SMALL LETTER FEHcLIGATURE ECH YIWNcLETTER YI WITH STROKEbFULL STOPbHYPHEN"⟩,
  ⟨0x058D, "RIGHT-FACING ARMENIAN ETERNITY SIGNaLEFT-FACING ARMENIAN ETERNITY SIGN"⟩,
  ⟨0x058F, "ARMENIAN DRAM SIGN"⟩,
  ⟨0x0591, "HEBREW ACCENT ETNAHTAcSEGOLcSHALSHELETcZAQEF QATANdGADOLcTIPEHAcREVIAcZARQAcPASHTA"⟩,
  ⟨0x059A, "HEBREW ACCENT YETIVcTEVIRcGERESHcGERESH MUQDAMcGERSHAYIMcQARNEY PARAcTELISHA GEDOLA"⟩,
  ⟨0x05A1, "HEBREW ACCENT PAZERcATNAH HAFUKHcMUNAHcMAHAPAKHcMERKHAcMERKHA KEFULAcDARGAcQADMA"⟩,
  ⟨0x05A9, "HEBREW ACCENT TELISHA QETANAcYERAH BEN YOMOcOLEcILUYcDEHIcZINORbMARK MASORA CIRCLE"⟩,
  ⟨0x05B0, "HEBREW POINT SHEVAcHATAF SEGOLdPATAHdQAMATScHIRIQcTSEREcSEGOLcPATAHcQAMATScHOLAM"⟩,
  ⟨0x05BA, "HEBREW POINT HOLAM HASER FOR VAVcQUBUTScDAGESH OR MAPIQcMETEGbPUNCTUATION MAQAF"⟩,
  ⟨0x05BF, "HEBREW POINT RAFEbPUNCTUATION PASEQbPOINT SHIN DOTcSIN DOTbPUNCTUATION SOF PASUQ"⟩,
  ⟨0x05C4, "HEBREW MARK UPPER DOTcLOWER DOTbPUNCTUATION NUN HAFUKHAbPOINT QAMATS QATAN"⟩,
  ⟨0x05D0, "HEBREW LETTER ALEFcBETcGIMELcDALETcHEcVAVcZAYINcHETcTETcYODcFINAL KAFcKAFcLAMED"⟩,
  ⟨0x05DD, "HEBREW LETTER FINAL MEMcMEMcFINAL NUNcNUNcSAMEKHcAYINcFINAL PEcPEcFINAL TSADIcTSADI"⟩,
  ⟨0x05E7, "HEBREW LETTER QOFcRESHcSHINcTAV"⟩,
  ⟨0x05EF, "HEBREW YOD TRIANGLEbLIGATURE YIDDISH DOUBLE VAVdVAV YODdDOUBLE YODbPUNCTUATION GERESH"⟩,
  ⟨0x05F4, "HEBREW PUNCTUATION GERSHAYIM"⟩,
  ⟨0x0600, "ARABIC NUMBER SIGNbSIGN SANAHbFOOTNOTE MARKERbSIGN SAFHAcSAMVATbNUMBER MARK ABOVE"⟩,
  ⟨0x0606, "ARABIC-INDIC CUBE ROOTcFOURTH ROOTaARABIC RAYaARABIC-INDIC PER MILLE SIGN"⟩,
  ⟨0x060A, "ARABIC-INDIC PER TEN THOUSAND SIGNaAFGHANI SIGNaARABIC COMMAbDATE SEPARATOR"⟩,
  ⟨0x060E, "ARABIC POETIC VERSE SIGNbSIGN MISRAcSALLALLAHOU ALAYHE WASSALLAMcALAYHE ASSALLAM"⟩,
  ⟨0x0612, "ARABIC SIGN RAHMATULLAH ALAYHEcRADI ALLAHOU ANHUcTAKHALLUSbSMALL HIGH TAH"⟩,
  ⟨0x0616, "ARABIC SMALL HIGH LIGATURE ALEF WITH LAM WITH YEHdZAINcFATHAcDAMMAcKASRAbSEMICOLON"⟩,
  ⟨0x061C, "ARABIC LETTER MARKbEND OF TEXT MARKbTRIPLE DOT PUNCTUATION MARKbQUESTION MARK"⟩,
  ⟨0x0620, "ARABIC LETTER KASHMIRI YEHcHAMZAcALEF WITH MADDA ABOVEeHAMZA ABOVE"⟩,
  ⟨0x0624, "ARABIC LETTER WAW WITH HAMZA ABOVEcALEF WITH HAMZA BELOWcYEH WITH HAMZA ABOVEcALEF"⟩,
  ⟨0x0628, "ARABIC LETTER BEHcTEH MARBUTAcTEHcTHEHcJEEMcHAHcKHAHcDALcTHALcREHcZAINcSEENcSHEENcSAD"⟩,
  ⟨0x0636, "ARABIC LETTER DADcTAHcZAHcAINcGHAINcKEHEH WITH TWO DOTS ABOVEeTHREE DOTS BELOW"⟩,
  ⟨0x063D, "ARABIC LETTER FARSI YEH WITH INVERTED VfTWO DOTS ABOVEfTHREE DOTS ABOVEbTATWEEL"⟩,
  ⟨0x0641, "ARABIC LETTER FEHcQAFcKAFcLAMcMEEMcNOONcHEHcWAWcALEF MAKSURAcYEHbFATHATANbDAMMATAN"⟩,
  ⟨0x064D, "ARABIC KASRATANbFATHAbDAMMAbKASRAbSHADDAbSUKUNbMADDAH ABOVEbHAMZA ABOVEcBELOW"⟩,
  ⟨0x0656, "ARABIC SUBSCRIPT ALEFbINVERTED DAMMAbMARK NOON GHUNNAbZWARAKAY"⟩,
  ⟨0x065A, "ARABIC VOWEL SIGN SMALL V ABOVEdINVERTED SMALL V ABOVEdDOT BELOWbREVERSED DAMMA"⟩,
  ⟨0x065E, "ARABIC FATHA WITH TWO DOTSbWAVY HAMZA BELOWaARABIC-INDIC DIGIT ZEROdONEdTWOdTHREE"⟩,
  ⟨0x0664, "ARABIC-INDIC DIGIT FOURdFIVEdSIXdSEVENdEIGHTdNINEaARABIC PERCENT SIGN"⟩,
  ⟨0x066B, "ARABIC DECIMAL SEPARATORbTHOUSANDS SEPARATORbFIVE POINTED STARbLETTER DOTLESS BEHdQAF"⟩,
  ⟨0x0670, "ARABIC LETTER SUPERSCRIPT ALEFcALEF WASLAdWITH WAVY HAMZA ABOVEgBELOWcHIGH HAMZA"⟩,
  ⟨0x0675, "ARABIC LETTER HIGH HAMZA ALEFeWAWcU WITH HAMZA ABOVEcHIGH HAMZA YEHcTTEHcTTEHEHcBEEH"⟩,
  ⟨0x067C, "ARABIC LETTER TEH WITH RINGeTHREE DOTS ABOVE DOWNWARDScPEHcTEHEHcBEHEH"⟩,
  ⟨0x0681, "ARABIC LETTER HAH WITH HAMZA ABOVEeTWO DOTS VERTICAL ABOVEcNYEHcDYEH"⟩,
  ⟨0x0685, "ARABIC LETTER HAH WITH THREE DOTS ABOVEcTCHEHcTCHEHEHcDDALcDAL WITH RINGeDOT BELOW"⟩,
  ⟨0x068B, "ARABIC LETTER DAL WITH DOT BELOW AND SMALL TAHcDAHALcDDAHALcDUL"⟩,
  ⟨0x068F, "ARABIC LETTER DAL WITH THREE DOTS ABOVE DOWNWARDSeFOUR DOTS ABOVEcRREH"⟩,
  ⟨0x0692, "ARABIC LETTER REH WITH SMALL VeRINGeDOT BELOWeSMALL V BELOWeDOT BELOW AND DOT ABOVE"⟩,
  ⟨0x0697, "ARABIC LETTER REH WITH TWO DOTS ABOVEcJEHcREH WITH FOUR DOTS ABOVE"⟩,
  ⟨0x069A, "ARABIC LETTER SEEN WITH DOT BELOW AND DOT ABOVEeTHREE DOTS BELOW"⟩,
  ⟨0x069C, "ARABIC LETTER SEEN WITH THREE DOTS BELOW AND THREE DOTS ABOVEcSAD WITH TWO DOTS BELOW"⟩,
  ⟨0x069E, "ARABIC LETTER SAD WITH THREE DOTS ABOVEcTAH WITH THREE DOTS ABOVE"⟩,
  ⟨0x06A0, "ARABIC LETTER AIN WITH THREE DOTS ABOVEcDOTLESS FEHcFEH WITH DOT MOVED BELOWfBELOW"⟩,
  ⟨0x06A4, "ARABIC LETTER VEHcFEH WITH THREE DOTS BELOWcPEHEHcQAF WITH DOT ABOVEeTHREE DOTS ABOVE"⟩,
  ⟨0x06A9, "ARABIC LETTER KEHEHcSWASH KAFcKAF WITH RINGeDOT ABOVEcNGcKAF WITH THREE DOTS BELOW"⟩,
  ⟨0x06AF, "ARABIC LETTER GAFcGAF WITH RINGcNGOEHcGAF WITH TWO DOTS BELOWcGUEH"⟩,
  ⟨0x06B4, "ARABIC LETTER GAF WITH THREE DOTS ABOVEcLAM WITH SMALL VeDOT ABOVEeTHREE DOTS ABOVE"⟩,
  ⟨0x06B8, "ARABIC LETTER LAM WITH THREE DOTS BELOWcNOON WITH DOT BELOWdGHUNNAcRNOON"⟩,
  ⟨0x06BC, "ARABIC LETTER NOON WITH RINGeTHREE DOTS ABOVEcHEH DOACHASHMEEcTCHEH WITH DOT ABOVE"⟩,
  ⟨0x06C0, "ARABIC LETTER HEH WITH YEH ABOVEdGOALdGOAL WITH HAMZA ABOVEcTEH MARBUTA GOAL"⟩,
  ⟨0x06C4, "ARABIC LETTER WAW WITH RINGcKIRGHIZ OEcOEcUcYUcKIRGHIZ YUcWAW WITH TWO DOTS ABOVEcVE"⟩,
  ⟨0x06CC, "ARABIC LETTER FARSI YEHcYEH WITH TAILeSMALL VcWAW WITH DOT ABOVEcE"⟩,
  ⟨0x06D1, "ARABIC LETTER YEH WITH THREE DOTS BELOWdBARREEdBARREE WITH HAMZA ABOVEbFULL STOP"⟩,
  ⟨0x06D5, "ARABIC LETTER AEbSMALL HIGH LIGATURE SAD WITH LAM WITH ALEF MAKSURA"⟩,
  ⟨0x06D7, "ARABIC SMALL HIGH LIGATURE QAF WITH LAM WITH ALEF MAKSURAdMEEM INITIAL FORMdLAM ALEF"⟩,
  ⟨0x06DA, "ARABIC SMALL HIGH JEEMdTHREE DOTSdSEENbEND OF AYAHbSTART OF RUB EL HIZB"⟩,
  ⟨0x06DF, "ARABIC SMALL HIGH ROUNDED ZEROdUPRIGHT RECTANGULAR ZEROdDOTLESS HEAD OF KHAH"⟩,
  ⟨0x06E2, "ARABIC SMALL HIGH MEEM ISOLATED FORMcLOW SEENcHIGH MADDAcWAWcYEHcHIGH YEHdNOON"⟩,
  ⟨0x06E9, "ARABIC PLACE OF SAJDAHbEMPTY CENTRE LOW STOPdHIGH STOP"⟩,
  ⟨0x06EC, "ARABIC ROUNDED HIGH STOP WITH FILLED CENTREbSMALL LOW MEEMbLETTER DAL WITH INVERTED V"⟩,
  ⟨0x06EF, "ARABIC LETTER REH WITH INVERTED VaEXTENDED ARABIC-INDIC DIGIT ZEROeONEeTWOeTHREEeFOUR"⟩,
  ⟨0x06F5, "EXTENDED ARABIC-INDIC DIGIT FIVEeSIXeSEVENeEIGHTeNINE"⟩,
  ⟨0x06FA, "ARABIC LETTER SHEEN WITH DOT BELOWcDAD WITH DOT BELOWcGHAIN WITH DOT BELOW"⟩,
  ⟨0x06FD, "ARABIC SIGN SINDHI AMPERSANDdPOSTPOSITION MENbLETTER HEH WITH INVERTED V"⟩,
  ⟨0x0700, "SYRIAC END OF PARAGRAPHbSUPRALINEAR FULL STOPbSUBLINEAR FULL STOPbSUPRALINEAR COLON"⟩,
  ⟨0x0704, "SYRIAC SUBLINEAR COLONbHORIZONTAL COLONbCOLON SKEWED LEFTdRIGHT"⟩,
  ⟨0x0708, "SYRIAC SUPRALINEAR COLON SKEWED LEFTbSUBLINEAR COLON SKEWED RIGHTbCONTRACTION"⟩,
  ⟨0x070B, "SYRIAC HARKLEAN OBELUScMETOBELUScASTERISCUS"⟩,
  ⟨0x070F, "SYRIAC ABBREVIATION MARKbLETTER ALAPHcSUPERSCRIPT ALAPHcBETHcGAMALcGAMAL GARSHUNI"⟩,
  ⟨0x0715, "SYRIAC LETTER DALATHcDOTLESS DALATH RISHcHEcWAWcZAINcHETHcTETHcTETH GARSHUNIcYUDH"⟩,
  ⟨0x071E, "SYRIAC LETTER YUDH HEcKAPHcLAMADHcMIMcNUNcSEMKATHcFINAL SEMKATHcEcPEcREVERSED PE"⟩,
  ⟨0x0728, "SYRIAC LETTER SADHEcQAPHcRISHcSHINcTAWcPERSIAN BHETHdGHAMALdDHALATHbPTHAHA ABOVE"⟩,
  ⟨0x0731, "SYRIAC PTHAHA BELOWcDOTTEDbZQAPHA ABOVEcBELOWcDOTTEDbRBASA ABOVEcBELOW"⟩,
  ⟨0x0738, "SYRIAC DOTTED ZLAMA HORIZONTALdANGULARbHBASA ABOVEcBELOWbHBASA-ESASA DOTTED"⟩,
  ⟨0x073D, "SYRIAC ESASA ABOVEcBELOWbRWAHAbFEMININE DOTbQUSHSHAYAbRUKKAKHA"⟩,
  ⟨0x0743, "SYRIAC TWO VERTICAL DOTS ABOVEeBELOWbTHREE DOTS ABOVEdBELOWbOBLIQUE LINE ABOVEdBELOW"⟩,
  ⟨0x0749, "SYRIAC MUSICbBARREKH"⟩,
  ⟨0x074D, "SYRIAC LETTER SOGDIAN ZHAINdKHAPHdFE"⟩,
  ⟨0x0750, "ARABIC LETTER BEH WITH THREE DOTS HORIZONTALLY BELOWeDOT BELOW AND THREE DOTS ABOVE"⟩,
  ⟨0x0752, "ARABIC LETTER BEH WITH THREE DOTS POINTING UPWARDS BELOWiBELOW AND TWO DOTS ABOVE"⟩,
  ⟨0x0754, "ARABIC LETTER BEH WITH TWO DOTS BELOW AND DOT ABOVEeINVERTED SMALL V BELOWeSMALL V"⟩,
  ⟨0x0757, "ARABIC LETTER HAH WITH TWO DOTS ABOVEeTHREE DOTS POINTING UPWARDS BELOW"⟩,
  ⟨0x0759, "ARABIC LETTER DAL WITH TWO DOTS VERTICALLY BELOW AND SMALL TAHeINVERTED SMALL V BELOW"⟩,
  ⟨0x075B, "ARABIC LETTER REH WITH STROKEcSEEN WITH FOUR DOTS ABOVEcAIN WITH TWO DOTS ABOVE"⟩,
  ⟨0x075E, "ARABIC LETTER AIN WITH THREE DOTS POINTING DOWNWARDS ABOVEeTWO DOTS VERTICALLY ABOVE"⟩,
  ⟨0x0760, "ARABIC LETTER FEH WITH TWO DOTS BELOWeTHREE DOTS POINTING UPWARDS BELOW"⟩,
  ⟨0x0762, "ARABIC LETTER KEHEH WITH DOT ABOVEeTHREE DOTS ABOVEgPOINTING UPWARDS BELOW"⟩,
  ⟨0x0765, "ARABIC LETTER MEEM WITH DOT ABOVEfBELOWcNOON WITH TWO DOTS BELOWeSMALL TAHfV"⟩,
  ⟨0x076A, "ARABIC LETTER LAM WITH BARcREH WITH TWO DOTS VERTICALLY ABOVEeHAMZA ABOVE"⟩,
  ⟨0x076D, "ARABIC LETTER SEEN WITH TWO DOTS VERTICALLY ABOVE"⟩,
  ⟨0x076E, "ARABIC LETTER HAH WITH SMALL ARABIC LETTER TAH BELOWiAND TWO DOTS"⟩,
  ⟨0x0770, "ARABIC LETTER SEEN WITH SMALL ARABIC LETTER TAH AND TWO DOTS"⟩,
  ⟨0x0771, "ARABIC LETTER REH WITH SMALL ARABIC LETTER TAH AND TWO DOTS"⟩,
  ⟨0x0772, "ARABIC LETTER HAH WITH SMALL ARABIC LETTER TAH ABOVE"⟩,
  ⟨0x0773, "ARABIC LETTER ALEF WITH EXTENDED ARABIC-INDIC DIGIT TWO ABOVEiTHREE ABOVE"⟩,
  ⟨0x0775, "ARABIC LETTER FARSI YEH WITH EXTENDED ARABIC-INDIC DIGIT TWO ABOVEjTHREE ABOVE"⟩,
  ⟨0x0777, "ARABIC LETTER FARSI YEH WITH EXTENDED ARABIC-INDIC DIGIT FOUR BELOW"⟩,
  ⟨0x0778, "ARABIC LETTER WAW WITH EXTENDED ARABIC-INDIC DIGIT TWO ABOVEiTHREE ABOVE"⟩,
  ⟨0x077A, "ARABIC LETTER YEH BARREE WITH EXTENDED ARABIC-INDIC DIGIT TWO ABOVEjTHREE ABOVE"⟩,
  ⟨0x077C, "ARABIC LETTER HAH WITH EXTENDED ARABIC-INDIC DIGIT FOUR BELOW"⟩,
  ⟨0x077D, "ARABIC LETTER SEEN WITH EXTENDED ARABIC-INDIC DIGIT FOUR ABOVEeINVERTED V"⟩,
  ⟨0x077F, "ARABIC LETTER KAF WITH TWO DOTS ABOVEaTHAANA LETTER HAAcSHAVIYANIcNOONUcRAAcBAA"⟩,
  ⟨0x0785, "THAANA LETTER LHAVIYANIcKAAFUcALIFUcVAAVUcMEEMUcFAAFUcDHAALUcTHAAcLAAMUcGAAFU"⟩,
  ⟨0x078F, "THAANA LETTER GNAVIYANIcSEENUcDAVIYANIcZAVIYANIcTAVIYANIcYAAcPAVIYANIcJAVIYANI"⟩,
  ⟨0x0797, "THAANA LETTER CHAVIYANIcTTAAcHHAAcKHAAcTHAALUcZAAcSHEENUcSAADHUcDAADHUcTOcZOcAINU"⟩,
  ⟨0x07A3, "THAANA LETTER GHAINUcQAAFUcWAAVUbABAFILIbAABAAFILIbIBIFILIbEEBEEFILIbUBUFILI"⟩,
  ⟨0x07AB, "THAANA OOBOOFILIbEBEFILIbEYBEYFILIbOBOFILIbOABOAFILIbSUKUNbLETTER NAA"⟩,
  ⟨0x07C0, "NKO DIGIT ZEROcONEcTWOcTHREEcFOURcFIVEcSIXcSEVENcEIGHTcNINEbLETTER AcEEcIcEcUcOOcO"⟩,
  ⟨0x07D1, "NKO LETTER DAGBASINNAcNcBAcPAcTAcJAcCHAcDAcRAcRRAcSAcGBAcFAcKAcLAcNA WOLOSOcMAcNYAcNA"⟩,
  ⟨0x07E4, "NKO LETTER HAcWAcYAcNYA WOLOSOcJONA JAdCHAdRAbCOMBINING SHORT HIGH TONEdLOW TONE"⟩,
  ⟨0x07ED, "NKO COMBINING SHORT RISING TONEcLONG DESCENDING TONEdHIGH TONEdLOW TONEdRISING TONE"⟩,
  ⟨0x07F2, "NKO COMBINING NASALIZATION MARKcDOUBLE DOT ABOVEbHIGH TONE APOSTROPHE"⟩,
  ⟨0x07F5, "NKO LOW TONE APOSTROPHEbSYMBOL OO DENNENcGBAKURUNENbCOMMAbEXCLAMATION MARKbLAJANYALAN"⟩,
  ⟨0x07FD, "NKO DANTAYALANbDOROME SIGNbTAMAN SIGNaSAMARITAN LETTER ALAFcBITcGAMANcDALATcIYcBAA"⟩,
  ⟨0x0806, "SAMARITAN LETTER ZENcITcTITcYUTcKAAFcLABATcMIMcNUNcSINGAATcINcFIcTSAADIYcQUFcRISH"⟩,
  ⟨0x0814, "SAMARITAN LETTER SHANcTAAFbMARK INcIN-ALAFcOCCLUSIONcDAGESH"⟩,
  ⟨0x081A, "SAMARITAN MODIFIER LETTER EPENTHETIC YUTbMARK EPENTHETIC YUTbVOWEL SIGN LONG EdE"⟩,
  ⟨0x081E, "SAMARITAN VOWEL SIGN OVERLONG AAdLONG AAdAAdOVERLONG AdLONG AdA"⟩,
  ⟨0x0824, "SAMARITAN MODIFIER LETTER SHORT AbVOWEL SIGN SHORT AdLONG UdUbMODIFIER LETTER I"⟩,
  ⟨0x0829, "SAMARITAN VOWEL SIGN LONG IdIdOdSUKUNbMARK NEQUDAA"⟩,
  ⟨0x0830, "SAMARITAN PUNCTUATION NEQUDAAcAFSAAQcANGEDcBAUcATMAAUcSHIYYAALAAbABBREVIATION MARK"⟩,
  ⟨0x0837, "SAMARITAN PUNCTUATION MELODIC QITSAcZIQAAcQITSAcZAEFcTURUcARKAANUcSOF MASHFAATcANNAAU"⟩,
  ⟨0x0840, "MANDAIC LETTER HALQAcABcAGcADcAHcUSHENNAcAZcITcATTcAKSAcAKcALcAMcANcAScINcAPcASZcAQ"⟩,
  ⟨0x0853, "MANDAIC LETTER ARcASHcATcDUSHENNAcKADcAINbAFFRICATION MARKbVOCALIZATION MARK"⟩,
  ⟨0x085B, "MANDAIC GEMINATION MARK"⟩,
  ⟨0x085E, "MANDAIC PUNCTUATION"⟩,
  ⟨0x0860, "SYRIAC LETTER MALAYALAM NGAdJAdNYAdTTAdNNAdNNNAdBHAdRAdLLAdLLLAdSSA"⟩,
  ⟨0x0870, "ARABIC LETTER ALEF WITH ATTACHED FATHAfTOP RIGHT FATHAeRIGHT MIDDLE STROKE"⟩,
  ⟨0x0873, "ARABIC LETTER ALEF WITH LEFT MIDDLE STROKEeATTACHED KASRAfBOTTOM RIGHT KASRA"⟩,
  ⟨0x0876, "ARABIC LETTER ALEF WITH ATTACHED ROUND DOT ABOVEfRIGHT ROUND DOTfLEFT ROUND DOT"⟩,
  ⟨0x0879, "ARABIC LETTER ALEF WITH ATTACHED ROUND DOT BELOWeDOT ABOVE"⟩,
  ⟨0x087B, "ARABIC LETTER ALEF WITH ATTACHED TOP RIGHT FATHA AND DOT ABOVE"⟩,
  ⟨0x087C, "ARABIC LETTER ALEF WITH RIGHT MIDDLE STROKE AND DOT ABOVE"⟩,
  ⟨0x087D, "ARABIC LETTER ALEF WITH ATTACHED BOTTOM RIGHT KASRA AND DOT ABOVE"⟩,
  ⟨0x087E, "ARABIC LETTER ALEF WITH ATTACHED TOP RIGHT FATHA AND LEFT RING"⟩,
  ⟨0x087F, "ARABIC LETTER ALEF WITH RIGHT MIDDLE STROKE AND LEFT RING"⟩,
  ⟨0x0880, "ARABIC LETTER ALEF WITH ATTACHED BOTTOM RIGHT KASRA AND LEFT RINGfRIGHT HAMZA"⟩,
  ⟨0x0882, "ARABIC LETTER ALEF WITH ATTACHED LEFT HAMZAbTATWEEL WITH OVERSTRUCK HAMZAeWAW"⟩,
  ⟨0x0885, "ARABIC TATWEEL WITH TWO DOTS BELOWbLETTER THIN YEHbBASELINE ROUND DOT"⟩,
  ⟨0x0888, "ARABIC RAISED ROUND DOTbLETTER NOON WITH INVERTED SMALL V"⟩,
  ⟨0x088A, "ARABIC LETTER HAH WITH INVERTED SMALL V BELOWcTAH WITH DOT BELOWeTHREE DOTS BELOW"⟩,
  ⟨0x088D, "ARABIC LETTER KEHEH WITH TWO DOTS VERTICALLY BELOWbVERTICAL TAIL"⟩,
  ⟨0x0890, "ARABIC POUND MARK ABOVEbPIASTRE MARK ABOVE"⟩,
  ⟨0x0898, "ARABIC SMALL HIGH WORD AL-JUZcLOW WORD ISHMAAMeIMAALAeTASHEELbMADDA WAAJIB"⟩,
  ⟨0x089D, "ARABIC SUPERSCRIPT ALEF MOKHASSASbDOUBLED MADDAbHALF MADDA OVER MADDA"⟩,
  ⟨0x08A0, "ARABIC LETTER BEH WITH SMALL V BELOWeHAMZA ABOVEcJEEM WITH TWO DOTS ABOVE"⟩,
  ⟨0x08A3, "ARABIC LETTER TAH WITH TWO DOTS ABOVEcFEH WITH DOT BELOW AND THREE DOTS ABOVE"⟩,
  ⟨0x08A5, "ARABIC LETTER QAF WITH DOT BELOWcLAM WITH DOUBLE BARcMEEM WITH THREE DOTS ABOVE"⟩,
  ⟨0x08A8, "ARABIC LETTER YEH WITH TWO DOTS BELOW AND HAMZA ABOVEiDOT ABOVEcREH WITH LOOP"⟩,
  ⟨0x08AB, "ARABIC LETTER WAW WITH DOT WITHINcROHINGYA YEHcLOW ALEFcDAL WITH THREE DOTS BELOW"⟩,
  ⟨0x08AF, "ARABIC LETTER SAD WITH THREE DOTS BELOWcGAF WITH INVERTED STROKEcSTRAIGHT WAW"⟩,
  ⟨0x08B2, "ARABIC LETTER ZAIN WITH INVERTED V ABOVEcAIN WITH THREE DOTS BELOWcKAF WITH DOT BELOW"⟩,
  ⟨0x08B5, "ARABIC LETTER QAF WITH DOT BELOW AND NO DOTS ABOVEcBEH WITH SMALL MEEM ABOVE"⟩,
  ⟨0x08B7, "ARABIC LETTER PEH WITH SMALL MEEM ABOVEcTEH WITH SMALL TEH ABOVE"⟩,
  ⟨0x08B9, "ARABIC LETTER REH WITH SMALL NOON ABOVEcYEH WITH TWO DOTS BELOW AND SMALL NOON ABOVE"⟩,
  ⟨0x08BB, "ARABIC LETTER AFRICAN FEHdQAFdNOONcPEH WITH SMALL VcTEH WITH SMALL V"⟩,
  ⟨0x08C0, "ARABIC LETTER TTEH WITH SMALL VcTCHEH WITH SMALL VcKEHEH WITH SMALL V"⟩,
  ⟨0x08C3, "ARABIC LETTER GHAIN WITH THREE DOTS ABOVEcAFRICAN QAF WITH THREE DOTS ABOVE"⟩,
  ⟨0x08C5, "ARABIC LETTER JEEM WITH THREE DOTS ABOVEgBELOWcLAM WITH SMALL ARABIC LETTER TAH ABOVE"⟩,
  ⟨0x08C8, "ARABIC LETTER GRAFbSMALL FARSI YEHcHIGH FARSI YEHdYEH BARREE WITH TWO DOTS BELOW"⟩,
  ⟨0x08CC, "ARABIC SMALL HIGH WORD SAHdZAHbLARGE ROUND DOT ABOVEeBELOWbSUKUN BELOW"⟩,
  ⟨0x08D1, "ARABIC LARGE CIRCLE BELOWcROUND DOT INSIDE CIRCLE BELOWbSMALL LOW WAW"⟩,
  ⟨0x08D4, "ARABIC SMALL HIGH WORD AR-RUBdSADdAINdQAFdNOON WITH KASRAcLOW NOON WITH KASRA"⟩,
  ⟨0x08DA, "ARABIC SMALL HIGH WORD ATH-THALATHAeAS-SAJDAeAN-NISFeSAKTAeQIFeWAQFAdFOOTNOTE MARKER"⟩,
  ⟨0x08E1, "ARABIC SMALL HIGH SIGN SAFHAbDISPUTED END OF AYAHbTURNED DAMMA BELOWbCURLY FATHA"⟩,
  ⟨0x08E5, "ARABIC CURLY DAMMAcKASRAcFATHATANcDAMMATANcKASRATANbTONE ONE DOT ABOVEcTWO DOTS ABOVE"⟩,
  ⟨0x08EC, "ARABIC TONE LOOP ABOVEcONE DOT BELOWcTWO DOTS BELOWcLOOP BELOWbOPEN FATHATANcDAMMATAN"⟩,
  ⟨0x08F2, "ARABIC OPEN KASRATANbSMALL HIGH WAWbFATHA WITH RINGdDOT ABOVEbKASRA WITH DOT BELOW"⟩,
  ⟨0x08F7, "ARABIC LEFT ARROWHEAD ABOVEbRIGHT ARROWHEAD ABOVEbLEFT ARROWHEAD BELOW"⟩,
  ⟨0x08FA, "ARABIC RIGHT ARROWHEAD BELOWbDOUBLE RIGHT ARROWHEAD ABOVEeABOVE WITH DOT"⟩,
  ⟨0x08FD, "ARABIC RIGHT ARROWHEAD ABOVE WITH DOTbDAMMA WITH DOTbMARK SIDEWAYS NOON GHUNNA"⟩]

end Bindery.Text.CharName
