import Bindery.Text.CharName.Run
/-!
# Names of notations

The names from U+1D000 to U+1EFFF: music, mathematical letters, signs of the hands, and the scripts
that stand among them.
-/
namespace Bindery.Text.CharName

def notations : List Run := [
  ⟨0x1D000, "BYZANTINE MUSICAL SYMBOL PSILIdDASEIAdPERISPOMENIdOXEIA EKFONITIKONeDIPLI"⟩,
  ⟨0x1D005, "BYZANTINE MUSICAL SYMBOL VAREIA EKFONITIKONeDIPLIdKATHISTIdSYRMATIKIdPARAKLITIKI"⟩,
  ⟨0x1D00A, "BYZANTINE MUSICAL SYMBOL YPOKRISISdYPOKRISIS DIPLIdKREMASTIdAPESO EKFONITIKON"⟩,
  ⟨0x1D00E, "BYZANTINE MUSICAL SYMBOL EXO EKFONITIKONdTELEIAdKENTIMATAdAPOSTROFOS"⟩,
  ⟨0x1D012, "BYZANTINE MUSICAL SYMBOL APOSTROFOS DIPLIdSYNEVMAdTHITAdOLIGON ARCHAION"⟩,
  ⟨0x1D016, "BYZANTINE MUSICAL SYMBOL GORGON ARCHAIONdPSILONdCHAMILONdVATHYdISON ARCHAION"⟩,
  ⟨0x1D01B, "BYZANTINE MUSICAL SYMBOL KENTIMA ARCHAIONdKENTIMATA ARCHAIONdSAXIMATAdPARICHON"⟩,
  ⟨0x1D01F, "BYZANTINE MUSICAL SYMBOL STAVROS APODEXIAdOXEIAI ARCHAIONdVAREIAI ARCHAION"⟩,
  ⟨0x1D022, "BYZANTINE MUSICAL SYMBOL APODERMA ARCHAIONdAPOTHEMAdKLASMAdREVMAdPIASMA ARCHAION"⟩,
  ⟨0x1D027, "BYZANTINE MUSICAL SYMBOL TINAGMAdANATRICHISMAdSEISMAdSYNAGMA ARCHAIONeMETA STAVROU"⟩,
  ⟨0x1D02C, "BYZANTINE MUSICAL SYMBOL OYRANISMA ARCHAIONdTHEMAdLEMOIdDYOdTRIAdTESSERAdKRATIMATA"⟩,
  ⟨0x1D033, "BYZANTINE MUSICAL SYMBOL APESO EXO NEOdFTHORA ARCHAIONdIMIFTHORAdTROMIKON ARCHAION"⟩,
  ⟨0x1D037, "BYZANTINE MUSICAL SYMBOL KATAVA TROMIKONdPELASTONdPSIFISTONdKONTEVMA"⟩,
  ⟨0x1D03B, "BYZANTINE MUSICAL SYMBOL CHOREVMA ARCHAIONdRAPISMAdPARAKALESMA ARCHAION"⟩,
  ⟨0x1D03E, "BYZANTINE MUSICAL SYMBOL PARAKLITIKI ARCHAIONdICHADINdNANAdPETASMAdKONTEVMA ALLO"⟩,
  ⟨0x1D043, "BYZANTINE MUSICAL SYMBOL TROMIKON ALLOdSTRAGGISMATAdGRONTHISMATAdISON NEOdOLIGON NEO"⟩,
  ⟨0x1D048, "BYZANTINE MUSICAL SYMBOL OXEIA NEOdPETASTIdKOUFISMAdPETASTOKOUFISMAdKRATIMOKOUFISMA"⟩,
  ⟨0x1D04D, "BYZANTINE MUSICAL SYMBOL PELASTON NEOdKENTIMATA NEO ANOdKENTIMA NEO ANOdYPSILI"⟩,
  ⟨0x1D051, "BYZANTINE MUSICAL SYMBOL APOSTROFOS NEOdAPOSTROFOI SYNDESMOS NEOdYPORROI"⟩,
  ⟨0x1D054, "BYZANTINE MUSICAL SYMBOL KRATIMOYPORROONdELAFRONdCHAMILIdMIKRON ISONdVAREIA NEO"⟩,
  ⟨0x1D059, "BYZANTINE MUSICAL SYMBOL PIASMA NEOdPSIFISTON NEOdOMALONdANTIKENOMAdLYGISMA"⟩,
  ⟨0x1D05E, "BYZANTINE MUSICAL SYMBOL PARAKLITIKI NEOdPARAKALESMA NEOdETERON PARAKALESMAdKYLISMA"⟩,
  ⟨0x1D062, "BYZANTINE MUSICAL SYMBOL ANTIKENOKYLISMAdTROMIKON NEOdEKSTREPTONdSYNAGMA NEOdSYRMA"⟩,
  ⟨0x1D067, "BYZANTINE MUSICAL SYMBOL CHOREVMA NEOdEPEGERMAdSEISMA NEOdXIRON KLASMA"⟩,
  ⟨0x1D06B, "BYZANTINE MUSICAL SYMBOL TROMIKOPSIFISTONdPSIFISTOLYGISMAdTROMIKOLYGISMA"⟩,
  ⟨0x1D06E, "BYZANTINE MUSICAL SYMBOL TROMIKOPARAKALESMAdPSIFISTOPARAKALESMAdTROMIKOSYNAGMA"⟩,
  ⟨0x1D071, "BYZANTINE MUSICAL SYMBOL PSIFISTOSYNAGMAdGORGOSYNTHETONdARGOSYNTHETON"⟩,
  ⟨0x1D074, "BYZANTINE MUSICAL SYMBOL ETERON ARGOSYNTHETONdOYRANISMA NEOdTHEMATISMOS ESOeEXO"⟩,
  ⟨0x1D078, "BYZANTINE MUSICAL SYMBOL THEMA APLOUNdTHES KAI APOTHESdKATAVASMAdENDOFONONdYFEN KATO"⟩,
  ⟨0x1D07D, "BYZANTINE MUSICAL SYMBOL YFEN ANOdSTAVROSdKLASMA ANOdDIPLI ARCHAIONdKRATIMA ARCHAION"⟩,
  ⟨0x1D082, "BYZANTINE MUSICAL SYMBOL KRATIMA ALLOeNEOdAPODERMA NEOdAPLIdDIPLIdTRIPLIdTETRAPLI"⟩,
  ⟨0x1D089, "BYZANTINE MUSICAL SYMBOL KORONISdLEIMMA ENOS CHRONOUeDYO CHRONONeTRION CHRONON"⟩,
  ⟨0x1D08D, "BYZANTINE MUSICAL SYMBOL LEIMMA TESSARON CHRONONeIMISEOS CHRONOUdGORGON NEO ANO"⟩,
  ⟨0x1D090, "BYZANTINE MUSICAL SYMBOL GORGON PARESTIGMENON ARISTERAfDEXIAdDIGORGON"⟩,
  ⟨0x1D093, "BYZANTINE MUSICAL SYMBOL DIGORGON PARESTIGMENON ARISTERA KATOgANOfDEXIAdTRIGORGON"⟩,
  ⟨0x1D097, "BYZANTINE MUSICAL SYMBOL ARGONdIMIDIARGONdDIARGONdAGOGI POLI ARGIeARGOTERIeARGI"⟩,
  ⟨0x1D09D, "BYZANTINE MUSICAL SYMBOL AGOGI METRIAeMESIeGORGIeGORGOTERIePOLI GORGI"⟩,
  ⟨0x1D0A2, "BYZANTINE MUSICAL SYMBOL MARTYRIA PROTOS ICHOSeALLI PROTOS ICHOSeDEYTEROS ICHOS"⟩,
  ⟨0x1D0A5, "BYZANTINE MUSICAL SYMBOL MARTYRIA ALLI DEYTEROS ICHOSeTRITOS ICHOSeTRIFONIAS"⟩,
  ⟨0x1D0A8, "BYZANTINE MUSICAL SYMBOL MARTYRIA TETARTOS ICHOSfLEGETOS ICHOSeLEGETOS ICHOS"⟩,
  ⟨0x1D0AB, "BYZANTINE MUSICAL SYMBOL MARTYRIA PLAGIOS ICHOSdISAKIA TELOUS ICHIMATOS"⟩,
  ⟨0x1D0AD, "BYZANTINE MUSICAL SYMBOL APOSTROFOI TELOUS ICHIMATOSdFANEROSIS TETRAFONIAS"⟩,
  ⟨0x1D0AF, "BYZANTINE MUSICAL SYMBOL FANEROSIS MONOFONIASeDIFONIASdMARTYRIA VARYS ICHOS"⟩,
  ⟨0x1D0B2, "BYZANTINE MUSICAL SYMBOL MARTYRIA PROTOVARYS ICHOSePLAGIOS TETARTOS ICHOS"⟩,
  ⟨0x1D0B4, "BYZANTINE MUSICAL SYMBOL GORTHMIKON N APLOUNfDIPLOUNdENARXIS KAI FTHORA VOUdIMIFONON"⟩,
  ⟨0x1D0B8, "BYZANTINE MUSICAL SYMBOL IMIFTHORONdFTHORA ARCHAION DEYTEROU ICHOUeDIATONIKI PAfNANA"⟩,
  ⟨0x1D0BC, "BYZANTINE MUSICAL SYMBOL FTHORA NAOS ICHOSeDIATONIKI DIeSKLIRON DIATONON DI"⟩,
  ⟨0x1D0BF, "BYZANTINE MUSICAL SYMBOL FTHORA DIATONIKI KEfZOfNI KATOgANOeMALAKON CHROMA DIFONIAS"⟩,
  ⟨0x1D0C4, "BYZANTINE MUSICAL SYMBOL FTHORA MALAKON CHROMA MONOFONIAS"⟩,
  ⟨0x1D0C5, "BYZANTINE MUSICAL SYMBOL FHTORA SKLIRON CHROMA VASISdFTHORA SKLIRON CHROMA SYNAFI"⟩,
  ⟨0x1D0C7, "BYZANTINE MUSICAL SYMBOL FTHORA NENANOdCHROA ZYGOSeKLITONeSPATHI"⟩,
  ⟨0x1D0CB, "BYZANTINE MUSICAL SYMBOL FTHORA I YFESIS TETARTIMORIONeENARMONIOS ANTIFONIA"⟩,
  ⟨0x1D0CD, "BYZANTINE MUSICAL SYMBOL YFESIS TRITIMORIONdDIESIS TRITIMORIONeTETARTIMORION"⟩,
  ⟨0x1D0D0, "BYZANTINE MUSICAL SYMBOL DIESIS APLI DYO DODEKATAeMONOGRAMMOS TESSERA DODEKATA"⟩,
  ⟨0x1D0D2, "BYZANTINE MUSICAL SYMBOL DIESIS DIGRAMMOS EX DODEKATAeTRIGRAMMOS OKTO DODEKATA"⟩,
  ⟨0x1D0D4, "BYZANTINE MUSICAL SYMBOL YFESIS APLI DYO DODEKATAeMONOGRAMMOS TESSERA DODEKATA"⟩,
  ⟨0x1D0D6, "BYZANTINE MUSICAL SYMBOL YFESIS DIGRAMMOS EX DODEKATAeTRIGRAMMOS OKTO DODEKATA"⟩,
  ⟨0x1D0D8, "BYZANTINE MUSICAL SYMBOL GENIKI DIESISeYFESISdDIASTOLI APLI MIKRIfMEGALIeDIPLI"⟩,
  ⟨0x1D0DD, "BYZANTINE MUSICAL SYMBOL DIASTOLI THESEOSdSIMANSIS THESEOSeTHESEOS DISIMOUfTRISIMOU"⟩,
  ⟨0x1D0E1, "BYZANTINE MUSICAL SYMBOL SIMANSIS THESEOS TETRASIMOUeARSEOSeARSEOS DISIMOUfTRISIMOU"⟩,
  ⟨0x1D0E5, "BYZANTINE MUSICAL SYMBOL SIMANSIS ARSEOS TETRASIMOUdDIGRAMMA GGdDIFTOGGOS OUdSTIGMA"⟩,
  ⟨0x1D0E9, "BYZANTINE MUSICAL SYMBOL ARKTIKO PAeVOUeGAeDIeKEeZOeNIdKENTIMATA NEO MESO"⟩,
  ⟨0x1D0F1, "BYZANTINE MUSICAL SYMBOL KENTIMA NEO MESOdKENTIMATA NEO KATOdKENTIMA NEO KATO"⟩,
  ⟨0x1D0F4, "BYZANTINE MUSICAL SYMBOL KLASMA KATOdGORGON NEO KATO"⟩,
  ⟨0x1D100, "MUSICAL SYMBOL SINGLE BARLINEcDOUBLE BARLINEcFINAL BARLINEcREVERSE FINAL BARLINE"⟩,
  ⟨0x1D104, "MUSICAL SYMBOL DASHED BARLINEcSHORT BARLINEcLEFT REPEAT SIGNcRIGHT REPEAT SIGN"⟩,
  ⟨0x1D108, "MUSICAL SYMBOL REPEAT DOTScDAL SEGNOcDA CAPOcSEGNOcCODAcREPEATED FIGURE-1e2e3"⟩,
  ⟨0x1D110, "MUSICAL SYMBOL FERMATAcFERMATA BELOWcBREATH MARKcCAESURAcBRACEcBRACKET"⟩,
  ⟨0x1D116, "MUSICAL SYMBOL ONE-LINE STAFFcTWO-LINE STAFFcTHREE-LINE STAFFcFOUR-LINE STAFF"⟩,
  ⟨0x1D11A, "MUSICAL SYMBOL FIVE-LINE STAFFcSIX-LINE STAFFdSTRING FRETBOARDcFOUR-STRING FRETBOARD"⟩,
  ⟨0x1D11E, "MUSICAL SYMBOL G CLEFdCLEF OTTAVA ALTAfBASSAcC CLEFcF CLEFdCLEF OTTAVA ALTAfBASSA"⟩,
  ⟨0x1D125, "MUSICAL SYMBOL DRUM CLEF-1e2"⟩,
  ⟨0x1D129, "MUSICAL SYMBOL MULTIPLE MEASURE RESTcDOUBLE SHARPdFLATcFLAT UPdDOWNcNATURAL UPdDOWN"⟩,
  ⟨0x1D130, "MUSICAL SYMBOL SHARP UPdDOWNcQUARTER TONE SHARPeFLATcCOMMON TIMEcCUT TIME"⟩,
  ⟨0x1D136, "MUSICAL SYMBOL OTTAVA ALTAdBASSAcQUINDICESIMA ALTAdBASSAcMULTI RESTcWHOLE REST"⟩,
  ⟨0x1D13C, "MUSICAL SYMBOL HALF RESTcQUARTER RESTcEIGHTH RESTcSIXTEENTH RESTcTHIRTY-SECOND REST"⟩,
  ⟨0x1D141, "MUSICAL SYMBOL SIXTY-FOURTH RESTcONE HUNDRED TWENTY-EIGHTH RESTcX NOTEHEAD"⟩,
  ⟨0x1D144, "MUSICAL SYMBOL PLUS NOTEHEADcCIRCLE X NOTEHEADcSQUARE NOTEHEAD WHITEeBLACK"⟩,
  ⟨0x1D148, "MUSICAL SYMBOL TRIANGLE NOTEHEAD UP WHITEfBLACKeLEFT WHITEfBLACKeRIGHT WHITEfBLACK"⟩,
  ⟨0x1D14E, "MUSICAL SYMBOL TRIANGLE NOTEHEAD DOWN WHITEfBLACKeUP RIGHT WHITEgBLACK"⟩,
  ⟨0x1D152, "MUSICAL SYMBOL MOON NOTEHEAD WHITEeBLACKcTRIANGLE-ROUND NOTEHEAD DOWN WHITEgBLACK"⟩,
  ⟨0x1D156, "MUSICAL SYMBOL PARENTHESIS NOTEHEADcVOID NOTEHEADcNOTEHEAD BLACKcNULL NOTEHEAD"⟩,
  ⟨0x1D15A, "MUSICAL SYMBOL CLUSTER NOTEHEAD WHITEeBLACKcBREVEcWHOLE NOTEcHALF NOTEcQUARTER NOTE"⟩,
  ⟨0x1D160, "MUSICAL SYMBOL EIGHTH NOTEcSIXTEENTH NOTEcTHIRTY-SECOND NOTEcSIXTY-FOURTH NOTE"⟩,
  ⟨0x1D164, "MUSICAL SYMBOL ONE HUNDRED TWENTY-EIGHTH NOTEcCOMBINING STEMdSPRECHGESANG STEM"⟩,
  ⟨0x1D167, "MUSICAL SYMBOL COMBINING TREMOLO-1e2e3cFINGERED TREMOLO-1e2e3"⟩,
  ⟨0x1D16D, "MUSICAL SYMBOL COMBINING AUGMENTATION DOTdFLAG-1e2e3e4e5cBEGIN BEAMcEND BEAM"⟩,
  ⟨0x1D175, "MUSICAL SYMBOL BEGIN TIEcEND TIEcBEGIN SLURcEND SLURcBEGIN PHRASEcEND PHRASE"⟩,
  ⟨0x1D17B, "MUSICAL SYMBOL COMBINING ACCENTdSTACCATOdTENUTOdSTACCATISSIMOdMARCATO"⟩,
  ⟨0x1D180, "MUSICAL SYMBOL COMBINING MARCATO-STACCATOdACCENT-STACCATOdLOUREcARPEGGIATO UPdDOWN"⟩,
  ⟨0x1D185, "MUSICAL SYMBOL COMBINING DOITdRIPdFLIPdSMEARdBENDdDOUBLE TONGUEdTRIPLE TONGUE"⟩,
  ⟨0x1D18C, "MUSICAL SYMBOL RINFORZANDOcSUBITOcZcPIANOcMEZZOcFORTEcCRESCENDOcDECRESCENDO"⟩,
  ⟨0x1D194, "MUSICAL SYMBOL GRACE NOTE SLASHeNO SLASHcTRcTURNcINVERTED TURNcTURN SLASHdUP"⟩,
  ⟨0x1D19B, "MUSICAL SYMBOL ORNAMENT STROKE-1e2e3e4e5e6e7e8e9e10e11cHAUPTSTIMMEcNEBENSTIMME"⟩,
  ⟨0x1D1A8, "MUSICAL SYMBOL END OF STIMMEcDEGREE SLASHcCOMBINING DOWN BOWdUP BOWdHARMONIC"⟩,
  ⟨0x1D1AD, "MUSICAL SYMBOL COMBINING SNAP PIZZICATOcPEDAL MARKdUP MARKcHALF PEDAL MARK"⟩,
  ⟨0x1D1B1, "MUSICAL SYMBOL GLISSANDO UPdDOWNcWITH FINGERNAILScDAMPcDAMP ALLcMAXIMAcLONGAcBREVIS"⟩,
  ⟨0x1D1B9, "MUSICAL SYMBOL SEMIBREVIS WHITEdBLACKcMINIMAcMINIMA BLACKcSEMIMINIMA WHITEdBLACK"⟩,
  ⟨0x1D1BF, "MUSICAL SYMBOL FUSA WHITEdBLACKcLONGA PERFECTA RESTdIMPERFECTA RESTcBREVIS REST"⟩,
  ⟨0x1D1C4, "MUSICAL SYMBOL SEMIBREVIS RESTcMINIMA RESTcSEMIMINIMA REST"⟩,
  ⟨0x1D1C7, "MUSICAL SYMBOL TEMPUS PERFECTUM CUM PROLATIONE PERFECTAgIMPERFECTA"⟩,
  ⟨0x1D1C9, "MUSICAL SYMBOL TEMPUS PERFECTUM CUM PROLATIONE PERFECTA DIMINUTION-1"⟩,
  ⟨0x1D1CA, "MUSICAL SYMBOL TEMPUS IMPERFECTUM CUM PROLATIONE PERFECTAgIMPERFECTA"⟩,
  ⟨0x1D1CC, "MUSICAL SYMBOL TEMPUS IMPERFECTUM CUM PROLATIONE IMPERFECTA DIMINUTION-1i2i3cCROIX"⟩,
  ⟨0x1D1D0, "MUSICAL SYMBOL GREGORIAN C CLEFdF CLEFcSQUARE BcVIRGAcPODATUScCLIVIScSCANDICUS"⟩,
  ⟨0x1D1D7, "MUSICAL SYMBOL CLIMACUScTORCULUScPORRECTUScPORRECTUS FLEXUScSCANDICUS FLEXUS"⟩,
  ⟨0x1D1DC, "MUSICAL SYMBOL TORCULUS RESUPINUScPES SUBPUNCTIScKIEVAN C CLEFdEND OF PIECE"⟩,
  ⟨0x1D1E0, "MUSICAL SYMBOL KIEVAN FINAL NOTEdRECITATIVE MARKdWHOLE NOTEdHALF NOTE"⟩,
  ⟨0x1D1E4, "MUSICAL SYMBOL KIEVAN QUARTER NOTE STEM DOWNgUPdEIGHTH NOTE STEM DOWNgUPdFLAT SIGN"⟩,
  ⟨0x1D1E9, "MUSICAL SYMBOL SORIcKORON"⟩,
  ⟨0x1D200, "GREEK VOCAL NOTATION SYMBOL-1e2e3e4e5e6e7e8e9e10e11e12e13e14e15e16e17e18e19e20e21e22"⟩,
  ⟨0x1D216, "GREEK VOCAL NOTATION SYMBOL-23e24e50e51e52e53e54bINSTRUMENTAL NOTATION SYMBOL-1e2e4"⟩,
  ⟨0x1D220, "GREEK INSTRUMENTAL NOTATION SYMBOL-5e7e8e11e12e13e14e17e18e19e23e24e25e26e27e29e30"⟩,
  ⟨0x1D231, "GREEK INSTRUMENTAL NOTATION SYMBOL-32e36e37e38e39e40e42e43e45e47e48e49e50e51e52e53"⟩,
  ⟨0x1D241, "GREEK INSTRUMENTAL NOTATION SYMBOL-54aCOMBINING GREEK MUSICAL TRISEMEdTETRASEME"⟩,
  ⟨0x1D244, "COMBINING GREEK MUSICAL PENTASEMEaGREEK MUSICAL LEIMMA"⟩,
  ⟨0x1D2E0, "MAYAN NUMERAL ZEROcONEcTWOcTHREEcFOURcFIVEcSIXcSEVENcEIGHTcNINEcTENcELEVENcTWELVE"⟩,
  ⟨0x1D2ED, "MAYAN NUMERAL THIRTEENcFOURTEENcFIFTEENcSIXTEENcSEVENTEENcEIGHTEENcNINETEEN"⟩,
  ⟨0x1D300, "MONOGRAM FOR EARTHaDIGRAM FOR HEAVENLY EARTHcHUMAN EARTHcEARTHLY HEAVENdHUMANcEARTH"⟩,
  ⟨0x1D306, "TETRAGRAM FOR CENTREcFULL CIRCLEcMIREDcBARRIERcKEEPING SMALLcCONTRARIETYcASCENT"⟩,
  ⟨0x1D30D, "TETRAGRAM FOR OPPOSITIONcBRANCHING OUTcDEFECTIVENESS OR DISTORTIONcDIVERGENCE"⟩,
  ⟨0x1D311, "TETRAGRAM FOR YOUTHFULNESScINCREASEcPENETRATIONcREACHcCONTACTcHOLDING BACKcWAITING"⟩,
  ⟨0x1D318, "TETRAGRAM FOR FOLLOWINGcADVANCEcRELEASEcRESISTANCEcEASEcJOYcCONTENTIONcENDEAVOUR"⟩,
  ⟨0x1D320, "TETRAGRAM FOR DUTIEScCHANGEcDECISIVENESScBOLD RESOLUTIONcPACKINGcLEGIONcCLOSENESS"⟩,
  ⟨0x1D327, "TETRAGRAM FOR KINSHIPcGATHERINGcSTRENGTHcPURITYcFULLNESScRESIDENCEcLAW OR MODEL"⟩,
  ⟨0x1D32E, "TETRAGRAM FOR RESPONSEcGOING TO MEETcENCOUNTERScSTOVEcGREATNESScENLARGEMENTcPATTERN"⟩,
  ⟨0x1D335, "TETRAGRAM FOR RITUALcFLIGHTcVASTNESS OR WASTINGcCONSTANCYcMEASUREcETERNITYcUNITY"⟩,
  ⟨0x1D33C, "TETRAGRAM FOR DIMINISHMENTcCLOSED MOUTHcGUARDEDNESScGATHERING INcMASSING"⟩,
  ⟨0x1D341, "TETRAGRAM FOR ACCUMULATIONcEMBELLISHMENTcDOUBTcWATCHcSINKINGcINNERcDEPARTURE"⟩,
  ⟨0x1D348, "TETRAGRAM FOR DARKENINGcDIMMINGcEXHAUSTIONcSEVERANCEcSTOPPAGEcHARDNESScCOMPLETION"⟩,
  ⟨0x1D34F, "TETRAGRAM FOR CLOSUREcFAILUREcAGGRAVATIONcCOMPLIANCEcON THE VERGEcDIFFICULTIES"⟩,
  ⟨0x1D355, "TETRAGRAM FOR LABOURINGcFOSTERING"⟩,
  ⟨0x1D360, "COUNTING ROD UNIT DIGIT ONEeTWOeTHREEeFOUReFIVEeSIXeSEVENeEIGHTeNINEcTENS DIGIT ONE"⟩,
  ⟨0x1D36A, "COUNTING ROD TENS DIGIT TWOeTHREEeFOUReFIVEeSIXeSEVENeEIGHTeNINE"⟩,
  ⟨0x1D372, "IDEOGRAPHIC TALLY MARK ONEdTWOdTHREEdFOURdFIVEaTALLY MARK ONEcFIVE"⟩,
  ⟨0x1D400, "MATHEMATICAL BOLD CAPITAL AdBdCdDdEdFdGdHdIdJdKdLdMdNdOdPdQdRdSdTdUdVdWdXdYdZ"⟩,
  ⟨0x1D41A, "MATHEMATICAL BOLD SMALL AdBdCdDdEdFdGdHdIdJdKdLdMdNdOdPdQdRdSdTdUdVdWdXdYdZ"⟩,
  ⟨0x1D434, "MATHEMATICAL ITALIC CAPITAL AdBdCdDdEdFdGdHdIdJdKdLdMdNdOdPdQdRdSdTdUdVdWdXdYdZ"⟩,
  ⟨0x1D44E, "MATHEMATICAL ITALIC SMALL AdBdCdDdEdFdG"⟩,
  ⟨0x1D456, "MATHEMATICAL ITALIC SMALL IdJdKdLdMdNdOdPdQdRdSdTdUdVdWdXdYdZbBOLD ITALIC CAPITAL A"⟩,
  ⟨0x1D469, "MATHEMATICAL BOLD ITALIC CAPITAL BeCeDeEeFeGeHeIeJeKeLeMeNeOePeQeReSeTeUeVeWeXeYeZ"⟩,
  ⟨0x1D482, "MATHEMATICAL BOLD ITALIC SMALL AeBeCeDeEeFeGeHeIeJeKeLeMeNeOePeQeReSeTeUeVeWeXeYeZ"⟩,
  ⟨0x1D49C, "MATHEMATICAL SCRIPT CAPITAL A"⟩,
  ⟨0x1D49E, "MATHEMATICAL SCRIPT CAPITAL CdD"⟩,
  ⟨0x1D4A2, "MATHEMATICAL SCRIPT CAPITAL G"⟩,
  ⟨0x1D4A5, "MATHEMATICAL SCRIPT CAPITAL JdK"⟩,
  ⟨0x1D4A9, "MATHEMATICAL SCRIPT CAPITAL NdOdPdQ"⟩,
  ⟨0x1D4AE, "MATHEMATICAL SCRIPT CAPITAL SdTdUdVdWdXdYdZcSMALL AdBdCdD"⟩,
  ⟨0x1D4BB, "MATHEMATICAL SCRIPT SMALL F"⟩,
  ⟨0x1D4BD, "MATHEMATICAL SCRIPT SMALL HdIdJdKdLdMdN"⟩,
  ⟨0x1D4C5, "MATHEMATICAL SCRIPT SMALL PdQdRdSdTdUdVdWdXdYdZbBOLD SCRIPT CAPITAL AeBeCeDeEeFeGeH"⟩,
  ⟨0x1D4D8, "MATHEMATICAL BOLD SCRIPT CAPITAL IeJeKeLeMeNeOePeQeReSeTeUeVeWeXeYeZdSMALL AeBeCeDeE"⟩,
  ⟨0x1D4EF, "MATHEMATICAL BOLD SCRIPT SMALL FeGeHeIeJeKeLeMeNeOePeQeReSeTeUeVeWeXeYeZ"⟩,
  ⟨0x1D504, "MATHEMATICAL FRAKTUR CAPITAL AdB"⟩,
  ⟨0x1D507, "MATHEMATICAL FRAKTUR CAPITAL DdEdFdG"⟩,
  ⟨0x1D50D, "MATHEMATICAL FRAKTUR CAPITAL JdKdLdMdNdOdPdQ"⟩,
  ⟨0x1D516, "MATHEMATICAL FRAKTUR CAPITAL SdTdUdVdWdXdY"⟩,
  ⟨0x1D51E, "MATHEMATICAL FRAKTUR SMALL AdBdCdDdEdFdGdHdIdJdKdLdMdNdOdPdQdRdSdTdUdVdWdXdYdZ"⟩,
  ⟨0x1D538, "MATHEMATICAL DOUBLE-STRUCK CAPITAL AeB"⟩,
  ⟨0x1D53B, "MATHEMATICAL DOUBLE-STRUCK CAPITAL DeEeFeG"⟩,
  ⟨0x1D540, "MATHEMATICAL DOUBLE-STRUCK CAPITAL IeJeKeLeM"⟩,
  ⟨0x1D546, "MATHEMATICAL DOUBLE-STRUCK CAPITAL O"⟩,
  ⟨0x1D54A, "MATHEMATICAL DOUBLE-STRUCK CAPITAL SeTeUeVeWeXeY"⟩,
  ⟨0x1D552, "MATHEMATICAL DOUBLE-STRUCK SMALL AeBeCeDeEeFeGeHeIeJeKeLeMeNeOePeQeReSeTeUeVeWeXeYeZ"⟩,
  ⟨0x1D56C, "MATHEMATICAL BOLD FRAKTUR CAPITAL AeBeCeDeEeFeGeHeIeJeKeLeMeNeOePeQeReSeTeUeVeWeXeY"⟩,
  ⟨0x1D585, "MATHEMATICAL BOLD FRAKTUR CAPITAL ZdSMALL AeBeCeDeEeFeGeHeIeJeKeLeMeNeOePeQeReSeTeU"⟩,
  ⟨0x1D59B, "MATHEMATICAL BOLD FRAKTUR SMALL VeWeXeYeZbSANS-SERIF CAPITAL AeBeCeDeEeFeGeHeIeJeKeL"⟩,
  ⟨0x1D5AC, "MATHEMATICAL SANS-SERIF CAPITAL MeNeOePeQeReSeTeUeVeWeXeYeZdSMALL AeBeCeDeEeFeGeHeI"⟩,
  ⟨0x1D5C3, "MATHEMATICAL SANS-SERIF SMALL JeKeLeMeNeOePeQeReSeTeUeVeWeXeYeZdBOLD CAPITAL AfBfCfD"⟩,
  ⟨0x1D5D8, "MATHEMATICAL SANS-SERIF BOLD CAPITAL EfFfGfHfIfJfKfLfMfNfOfPfQfRfSfTfUfVfWfXfYfZ"⟩,
  ⟨0x1D5EE, "MATHEMATICAL SANS-SERIF BOLD SMALL AfBfCfDfEfFfGfHfIfJfKfLfMfNfOfPfQfRfSfTfUfVfWfXfY"⟩,
  ⟨0x1D607, "MATHEMATICAL SANS-SERIF BOLD SMALL ZdITALIC CAPITAL AfBfCfDfEfFfGfHfIfJfKfLfMfNfOfP"⟩,
  ⟨0x1D618, "MATHEMATICAL SANS-SERIF ITALIC CAPITAL QfRfSfTfUfVfWfXfYfZeSMALL AfBfCfDfEfFfGfHfIfJ"⟩,
  ⟨0x1D62C, "MATHEMATICAL SANS-SERIF ITALIC SMALL KfLfMfNfOfPfQfRfSfTfUfVfWfXfYfZ"⟩,
  ⟨0x1D63C, "MATHEMATICAL SANS-SERIF BOLD ITALIC CAPITAL AgBgCgDgEgFgGgHgIgJgKgLgMgNgOgPgQgRgSgT"⟩,
  ⟨0x1D650, "MATHEMATICAL SANS-SERIF BOLD ITALIC CAPITAL UgVgWgXgYgZfSMALL AgBgCgDgEgFgGgHgIgJgK"⟩,
  ⟨0x1D661, "MATHEMATICAL SANS-SERIF BOLD ITALIC SMALL LgMgNgOgPgQgRgSgTgUgVgWgXgYgZ"⟩,
  ⟨0x1D670, "MATHEMATICAL MONOSPACE CAPITAL AdBdCdDdEdFdGdHdIdJdKdLdMdNdOdPdQdRdSdTdUdVdWdXdYdZ"⟩,
  ⟨0x1D68A, "MATHEMATICAL MONOSPACE SMALL AdBdCdDdEdFdGdHdIdJdKdLdMdNdOdPdQdRdSdTdUdVdWdXdYdZ"⟩,
  ⟨0x1D6A4, "MATHEMATICAL ITALIC SMALL DOTLESS IeJ"⟩,
  ⟨0x1D6A8, "MATHEMATICAL BOLD CAPITAL ALPHAdBETAdGAMMAdDELTAdEPSILONdZETAdETAdTHETAdIOTAdKAPPA"⟩,
  ⟨0x1D6B2, "MATHEMATICAL BOLD CAPITAL LAMDAdMUdNUdXIdOMICRONdPIdRHOdTHETA SYMBOLdSIGMAdTAU"⟩,
  ⟨0x1D6BC, "MATHEMATICAL BOLD CAPITAL UPSILONdPHIdCHIdPSIdOMEGAcNABLAcSMALL ALPHAdBETAdGAMMA"⟩,
  ⟨0x1D6C5, "MATHEMATICAL BOLD SMALL DELTAdEPSILONdZETAdETAdTHETAdIOTAdKAPPAdLAMDAdMUdNUdXI"⟩,
  ⟨0x1D6D0, "MATHEMATICAL BOLD SMALL OMICRONdPIdRHOdFINAL SIGMAdSIGMAdTAUdUPSILONdPHIdCHIdPSI"⟩,
  ⟨0x1D6DA, "MATHEMATICAL BOLD SMALL OMEGAcPARTIAL DIFFERENTIALcEPSILON SYMBOLcTHETA SYMBOL"⟩,
  ⟨0x1D6DE, "MATHEMATICAL BOLD KAPPA SYMBOLcPHI SYMBOLcRHO SYMBOLcPI SYMBOLbITALIC CAPITAL ALPHA"⟩,
  ⟨0x1D6E3, "MATHEMATICAL ITALIC CAPITAL BETAdGAMMAdDELTAdEPSILONdZETAdETAdTHETAdIOTAdKAPPAdLAMDA"⟩,
  ⟨0x1D6ED, "MATHEMATICAL ITALIC CAPITAL MUdNUdXIdOMICRONdPIdRHOdTHETA SYMBOLdSIGMAdTAUdUPSILON"⟩,
  ⟨0x1D6F7, "MATHEMATICAL ITALIC CAPITAL PHIdCHIdPSIdOMEGAcNABLAcSMALL ALPHAdBETAdGAMMAdDELTA"⟩,
  ⟨0x1D700, "MATHEMATICAL ITALIC SMALL EPSILONdZETAdETAdTHETAdIOTAdKAPPAdLAMDAdMUdNUdXIdOMICRON"⟩,
  ⟨0x1D70B, "MATHEMATICAL ITALIC SMALL PIdRHOdFINAL SIGMAdSIGMAdTAUdUPSILONdPHIdCHIdPSIdOMEGA"⟩,
  ⟨0x1D715, "MATHEMATICAL ITALIC PARTIAL DIFFERENTIALcEPSILON SYMBOLcTHETA SYMBOLcKAPPA SYMBOL"⟩,
  ⟨0x1D719, "MATHEMATICAL ITALIC PHI SYMBOLcRHO SYMBOLcPI SYMBOLbBOLD ITALIC CAPITAL ALPHAeBETA"⟩,
  ⟨0x1D71E, "MATHEMATICAL BOLD ITALIC CAPITAL GAMMAeDELTAeEPSILONeZETAeETAeTHETAeIOTAeKAPPAeLAMDA"⟩,
  ⟨0x1D727, "MATHEMATICAL BOLD ITALIC CAPITAL MUeNUeXIeOMICRONePIeRHOeTHETA SYMBOLeSIGMAeTAU"⟩,
  ⟨0x1D730, "MATHEMATICAL BOLD ITALIC CAPITAL UPSILONePHIeCHIePSIeOMEGAdNABLAdSMALL ALPHAeBETA"⟩,
  ⟨0x1D738, "MATHEMATICAL BOLD ITALIC SMALL GAMMAeDELTAeEPSILONeZETAeETAeTHETAeIOTAeKAPPAeLAMDA"⟩,
  ⟨0x1D741, "MATHEMATICAL BOLD ITALIC SMALL MUeNUeXIeOMICRONePIeRHOeFINAL SIGMAeSIGMAeTAUeUPSILON"⟩,
  ⟨0x1D74B, "MATHEMATICAL BOLD ITALIC SMALL PHIeCHIePSIeOMEGAdPARTIAL DIFFERENTIALdEPSILON SYMBOL"⟩,
  ⟨0x1D751, "MATHEMATICAL BOLD ITALIC THETA SYMBOLdKAPPA SYMBOLdPHI SYMBOLdRHO SYMBOLdPI SYMBOL"⟩,
  ⟨0x1D756, "MATHEMATICAL SANS-SERIF BOLD CAPITAL ALPHAfBETAfGAMMAfDELTAfEPSILONfZETAfETAfTHETA"⟩,
  ⟨0x1D75E, "MATHEMATICAL SANS-SERIF BOLD CAPITAL IOTAfKAPPAfLAMDAfMUfNUfXIfOMICRONfPIfRHO"⟩,
  ⟨0x1D767, "MATHEMATICAL SANS-SERIF BOLD CAPITAL THETA SYMBOLfSIGMAfTAUfUPSILONfPHIfCHIfPSI"⟩,
  ⟨0x1D76E, "MATHEMATICAL SANS-SERIF BOLD CAPITAL OMEGAeNABLAeSMALL ALPHAfBETAfGAMMAfDELTA"⟩,
  ⟨0x1D774, "MATHEMATICAL SANS-SERIF BOLD SMALL EPSILONfZETAfETAfTHETAfIOTAfKAPPAfLAMDAfMUfNUfXI"⟩,
  ⟨0x1D77E, "MATHEMATICAL SANS-SERIF BOLD SMALL OMICRONfPIfRHOfFINAL SIGMAfSIGMAfTAUfUPSILONfPHI"⟩,
  ⟨0x1D786, "MATHEMATICAL SANS-SERIF BOLD SMALL CHIfPSIfOMEGAePARTIAL DIFFERENTIALeEPSILON SYMBOL"⟩,
  ⟨0x1D78B, "MATHEMATICAL SANS-SERIF BOLD THETA SYMBOLeKAPPA SYMBOLePHI SYMBOLeRHO SYMBOL"⟩,
  ⟨0x1D78F, "MATHEMATICAL SANS-SERIF BOLD PI SYMBOLeITALIC CAPITAL ALPHAgBETAgGAMMAgDELTAgEPSILON"⟩,
  ⟨0x1D795, "MATHEMATICAL SANS-SERIF BOLD ITALIC CAPITAL ZETAgETAgTHETAgIOTAgKAPPAgLAMDAgMUgNUgXI"⟩,
  ⟨0x1D79E, "MATHEMATICAL SANS-SERIF BOLD ITALIC CAPITAL OMICRONgPIgRHOgTHETA SYMBOLgSIGMAgTAU"⟩,
  ⟨0x1D7A4, "MATHEMATICAL SANS-SERIF BOLD ITALIC CAPITAL UPSILONgPHIgCHIgPSIgOMEGAfNABLA"⟩,
  ⟨0x1D7AA, "MATHEMATICAL SANS-SERIF BOLD ITALIC SMALL ALPHAgBETAgGAMMAgDELTAgEPSILONgZETAgETA"⟩,
  ⟨0x1D7B1, "MATHEMATICAL SANS-SERIF BOLD ITALIC SMALL THETAgIOTAgKAPPAgLAMDAgMUgNUgXIgOMICRONgPI"⟩,
  ⟨0x1D7BA, "MATHEMATICAL SANS-SERIF BOLD ITALIC SMALL RHOgFINAL SIGMAgSIGMAgTAUgUPSILONgPHIgCHI"⟩,
  ⟨0x1D7C1, "MATHEMATICAL SANS-SERIF BOLD ITALIC SMALL PSIgOMEGAfPARTIAL DIFFERENTIAL"⟩,
  ⟨0x1D7C4, "MATHEMATICAL SANS-SERIF BOLD ITALIC EPSILON SYMBOLfTHETA SYMBOLfKAPPA SYMBOL"⟩,
  ⟨0x1D7C7, "MATHEMATICAL SANS-SERIF BOLD ITALIC PHI SYMBOLfRHO SYMBOLfPI SYMBOL"⟩,
  ⟨0x1D7CA, "MATHEMATICAL BOLD CAPITAL DIGAMMAcSMALL DIGAMMA"⟩,
  ⟨0x1D7CE, "MATHEMATICAL BOLD DIGIT ZEROdONEdTWOdTHREEdFOURdFIVEdSIXdSEVENdEIGHTdNINE"⟩,
  ⟨0x1D7D8, "MATHEMATICAL DOUBLE-STRUCK DIGIT ZEROeONEeTWOeTHREEeFOUReFIVEeSIXeSEVENeEIGHTeNINE"⟩,
  ⟨0x1D7E2, "MATHEMATICAL SANS-SERIF DIGIT ZEROeONEeTWOeTHREEeFOUReFIVEeSIXeSEVENeEIGHTeNINE"⟩,
  ⟨0x1D7EC, "MATHEMATICAL SANS-SERIF BOLD DIGIT ZEROfONEfTWOfTHREEfFOURfFIVEfSIXfSEVENfEIGHTfNINE"⟩,
  ⟨0x1D7F6, "MATHEMATICAL MONOSPACE DIGIT ZEROdONEdTWOdTHREEdFOURdFIVEdSIXdSEVENdEIGHTdNINE"⟩,
  ⟨0x1D800, "SIGNWRITING HAND-FIST INDEXcCIRCLE INDEXcCUP INDEXcOVAL INDEXcHINGE INDEX"⟩,
  ⟨0x1D805, "SIGNWRITING HAND-ANGLE INDEXcFIST INDEX BENTcCIRCLE INDEX BENT"⟩,
  ⟨0x1D808, "SIGNWRITING HAND-FIST THUMB UNDER INDEX BENTdINDEX RAISED KNUCKLEeCUPPEDeHINGED"⟩,
  ⟨0x1D80C, "SIGNWRITING HAND-FIST INDEX HINGED LOWcCIRCLE INDEX HINGEcFIST INDEX MIDDLE"⟩,
  ⟨0x1D80F, "SIGNWRITING HAND-CIRCLE INDEX MIDDLEcFIST INDEX MIDDLE BENTfRAISED KNUCKLESfHINGED"⟩,
  ⟨0x1D813, "SIGNWRITING HAND-FIST INDEX UP MIDDLE HINGEDeHINGED MIDDLE UPeMIDDLE CONJOINED"⟩,
  ⟨0x1D816, "SIGNWRITING HAND-FIST INDEX MIDDLE CONJOINED INDEX BENTgMIDDLE BENTgCUPPEDgHINGED"⟩,
  ⟨0x1D81A, "SIGNWRITING HAND-FIST INDEX MIDDLE CROSSEDcCIRCLE INDEX MIDDLE CROSSED"⟩,
  ⟨0x1D81C, "SIGNWRITING HAND-FIST MIDDLE BENT OVER INDEXdINDEX BENT OVER MIDDLEeMIDDLE THUMB"⟩,
  ⟨0x1D81F, "SIGNWRITING HAND-CIRCLE INDEX MIDDLE THUMBcFIST INDEX MIDDLE STRAIGHT THUMB BENT"⟩,
  ⟨0x1D821, "SIGNWRITING HAND-FIST INDEX MIDDLE BENT THUMB STRAIGHTfTHUMB BENT"⟩,
  ⟨0x1D823, "SIGNWRITING HAND-FIST INDEX MIDDLE HINGED SPREAD THUMB SIDE"⟩,
  ⟨0x1D824, "SIGNWRITING HAND-FIST INDEX UP MIDDLE HINGED THUMB SIDEiCONJOINED"⟩,
  ⟨0x1D826, "SIGNWRITING HAND-FIST INDEX HINGED MIDDLE UP THUMB SIDE"⟩,
  ⟨0x1D827, "SIGNWRITING HAND-FIST INDEX MIDDLE UP SPREAD THUMB FORWARDfTHUMB CUPPEDgCIRCLED"⟩,
  ⟨0x1D82A, "SIGNWRITING HAND-FIST INDEX MIDDLE THUMB HOOKEDgHINGED"⟩,
  ⟨0x1D82C, "SIGNWRITING HAND-FIST THUMB BETWEEN INDEX MIDDLE STRAIGHT"⟩,
  ⟨0x1D82D, "SIGNWRITING HAND-FIST INDEX MIDDLE CONJOINED THUMB SIDEhSIDE CONJOINEDiBENT"⟩,
  ⟨0x1D830, "SIGNWRITING HAND-FIST MIDDLE THUMB HOOKED INDEX UPdINDEX THUMB HOOKED MIDDLE UP"⟩,
  ⟨0x1D832, "SIGNWRITING HAND-FIST INDEX MIDDLE CONJOINED HINGED THUMB SIDEfCROSSED THUMB SIDE"⟩,
  ⟨0x1D834, "SIGNWRITING HAND-FIST INDEX MIDDLE CONJOINED THUMB FORWARDgCUPPED THUMB FORWARD"⟩,
  ⟨0x1D836, "SIGNWRITING HAND-FIST MIDDLE THUMB CUPPED INDEX UPdINDEX THUMB CUPPED MIDDLE UP"⟩,
  ⟨0x1D838, "SIGNWRITING HAND-FIST MIDDLE THUMB CIRCLED INDEX UPhHINGED"⟩,
  ⟨0x1D83A, "SIGNWRITING HAND-FIST INDEX THUMB ANGLED OUT MIDDLE UPgIN MIDDLE UP"⟩,
  ⟨0x1D83C, "SIGNWRITING HAND-FIST INDEX THUMB CIRCLED MIDDLE UPeMIDDLE THUMB CONJOINED HINGED"⟩,
  ⟨0x1D83E, "SIGNWRITING HAND-FIST INDEX MIDDLE THUMB ANGLED OUTgANGLED"⟩,
  ⟨0x1D840, "SIGNWRITING HAND-FIST MIDDLE THUMB ANGLED OUT INDEX UPiCROSSEDgINDEX UP"⟩,
  ⟨0x1D843, "SIGNWRITING HAND-FIST INDEX THUMB HOOKED MIDDLE HINGEDcFLAT FOUR FINGERS"⟩,
  ⟨0x1D845, "SIGNWRITING HAND-FLAT FOUR FINGERS BENTfHINGEDfCONJOINEDfCONJOINED SPLIT"⟩,
  ⟨0x1D849, "SIGNWRITING HAND-CLAW FOUR FINGERS CONJOINEDcFIST FOUR FINGERS CONJOINED BENT"⟩,
  ⟨0x1D84B, "SIGNWRITING HAND-HINGE FOUR FINGERS CONJOINEDcFLAT FIVE FINGERS SPREAD"⟩,
  ⟨0x1D84D, "SIGNWRITING HAND-FLAT HEEL FIVE FINGERS SPREADdFIVE FINGERS SPREAD FOUR BENT"⟩,
  ⟨0x1D84F, "SIGNWRITING HAND-FLAT HEEL FIVE FINGERS SPREAD FOUR BENTdFIVE FINGERS SPREAD BENT"⟩,
  ⟨0x1D851, "SIGNWRITING HAND-FLAT HEEL FIVE FINGERS SPREAD BENT"⟩,
  ⟨0x1D852, "SIGNWRITING HAND-FLAT FIVE FINGERS SPREAD THUMB FORWARDcCUP FIVE FINGERS SPREAD"⟩,
  ⟨0x1D854, "SIGNWRITING HAND-CUP FIVE FINGERS SPREAD OPENcHINGE FIVE FINGERS SPREAD OPEN"⟩,
  ⟨0x1D856, "SIGNWRITING HAND-OVAL FIVE FINGERS SPREADcFLAT FIVE FINGERS SPREAD HINGED"⟩,
  ⟨0x1D858, "SIGNWRITING HAND-FLAT FIVE FINGERS SPREAD HINGED THUMB SIDEhNO THUMBcFLAT"⟩,
  ⟨0x1D85B, "SIGNWRITING HAND-FLAT BETWEEN PALM FACINGSdHEELdTHUMB SIDEdHEEL THUMB SIDE"⟩,
  ⟨0x1D85F, "SIGNWRITING HAND-FLAT THUMB BENTeFORWARDdSPLIT INDEX THUMB SIDEeCENTRE"⟩,
  ⟨0x1D863, "SIGNWRITING HAND-FLAT SPLIT CENTRE THUMB SIDEgSIDE BENTeLITTLEcCLAWcCLAW THUMB SIDE"⟩,
  ⟨0x1D868, "SIGNWRITING HAND-CLAW NO THUMBdTHUMB FORWARDcHOOK CURLICUEcHOOKcCUP OPENcCUP"⟩,
  ⟨0x1D86E, "SIGNWRITING HAND-CUP OPEN THUMB SIDEdTHUMB SIDEdOPEN NO THUMBdNO THUMB"⟩,
  ⟨0x1D872, "SIGNWRITING HAND-CUP OPEN THUMB FORWARDdTHUMB FORWARDcCURLICUE OPENcCURLICUEcCIRCLE"⟩,
  ⟨0x1D877, "SIGNWRITING HAND-OVALcOVAL THUMB SIDEdNO THUMBdTHUMB FORWARDcHINGE OPEN"⟩,
  ⟨0x1D87C, "SIGNWRITING HAND-HINGE OPEN THUMB FORWARDcHINGEcHINGE SMALLdOPEN THUMB SIDE"⟩,
  ⟨0x1D880, "SIGNWRITING HAND-HINGE THUMB SIDEdOPEN NO THUMBdNO THUMBdTHUMB SIDE TOUCHING INDEX"⟩,
  ⟨0x1D884, "SIGNWRITING HAND-HINGE THUMB BETWEEN MIDDLE RINGcANGLEcFIST INDEX MIDDLE RING"⟩,
  ⟨0x1D887, "SIGNWRITING HAND-CIRCLE INDEX MIDDLE RINGcHINGE INDEX MIDDLE RING"⟩,
  ⟨0x1D889, "SIGNWRITING HAND-ANGLE INDEX MIDDLE RINGcHINGE LITTLEcFIST INDEX MIDDLE RING BENT"⟩,
  ⟨0x1D88C, "SIGNWRITING HAND-FIST INDEX MIDDLE RING CONJOINEDcHINGE INDEX MIDDLE RING CONJOINED"⟩,
  ⟨0x1D88E, "SIGNWRITING HAND-FIST LITTLE DOWNeDOWN RIPPLE STRAIGHTgCURVEDfOTHERS CIRCLEDeUP"⟩,
  ⟨0x1D893, "SIGNWRITING HAND-FIST THUMB UNDER LITTLE UPcCIRCLE LITTLE UPcOVAL LITTLE UP"⟩,
  ⟨0x1D896, "SIGNWRITING HAND-ANGLE LITTLE UPcFIST LITTLE RAISED KNUCKLEeBENTeTOUCHES THUMBeTHUMB"⟩,
  ⟨0x1D89B, "SIGNWRITING HAND-HINGE LITTLE THUMBcFIST LITTLE INDEX THUMBcHINGE LITTLE INDEX THUMB"⟩,
  ⟨0x1D89E, "SIGNWRITING HAND-ANGLE LITTLE INDEX THUMB INDEX THUMB OUThTHUMBcFIST LITTLE INDEX"⟩,
  ⟨0x1D8A1, "SIGNWRITING HAND-CIRCLE LITTLE INDEXcHINGE LITTLE INDEXcANGLE LITTLE INDEX"⟩,
  ⟨0x1D8A4, "SIGNWRITING HAND-FIST INDEX MIDDLE LITTLEcCIRCLE INDEX MIDDLE LITTLE"⟩,
  ⟨0x1D8A6, "SIGNWRITING HAND-HINGE INDEX MIDDLE LITTLEdRINGcANGLE INDEX MIDDLE LITTLE"⟩,
  ⟨0x1D8A9, "SIGNWRITING HAND-FIST INDEX MIDDLE CROSS LITTLEcCIRCLE INDEX MIDDLE CROSS LITTLE"⟩,
  ⟨0x1D8AB, "SIGNWRITING HAND-FIST RING DOWNcHINGE RING DOWN INDEX THUMB HOOK MIDDLE"⟩,
  ⟨0x1D8AD, "SIGNWRITING HAND-ANGLE RING DOWN MIDDLE THUMB INDEX CROSScFIST RING UP"⟩,
  ⟨0x1D8AF, "SIGNWRITING HAND-FIST RING RAISED KNUCKLEeLITTLEcCIRCLE RING LITTLEcOVAL RING LITTLE"⟩,
  ⟨0x1D8B3, "SIGNWRITING HAND-ANGLE RING LITTLEcFIST RING MIDDLEeMIDDLE CONJOINEDfRAISED KNUCKLES"⟩,
  ⟨0x1D8B7, "SIGNWRITING HAND-FIST RING INDEXeTHUMBcHOOK RING THUMBcFIST INDEX RING LITTLE"⟩,
  ⟨0x1D8BB, "SIGNWRITING HAND-CIRCLE INDEX RING LITTLEcCURLICUE INDEX RING LITTLE ON"⟩,
  ⟨0x1D8BD, "SIGNWRITING HAND-HOOK INDEX RING LITTLE OUTgINgUNDERcCUP INDEX RING LITTLE"⟩,
  ⟨0x1D8C1, "SIGNWRITING HAND-HINGE INDEX RING LITTLEcANGLE INDEX RING LITTLE OUTfLITTLE"⟩,
  ⟨0x1D8C4, "SIGNWRITING HAND-FIST MIDDLE DOWNcHINGE MIDDLEcFIST MIDDLE UPcCIRCLE MIDDLE UP"⟩,
  ⟨0x1D8C8, "SIGNWRITING HAND-FIST MIDDLE RAISED KNUCKLEeUP THUMB SIDEcHOOK MIDDLE THUMB"⟩,
  ⟨0x1D8CB, "SIGNWRITING HAND-FIST MIDDLE THUMB LITTLEeLITTLEeRING LITTLE"⟩,
  ⟨0x1D8CE, "SIGNWRITING HAND-CIRCLE MIDDLE RING LITTLEcCURLICUE MIDDLE RING LITTLE ON"⟩,
  ⟨0x1D8D0, "SIGNWRITING HAND-CUP MIDDLE RING LITTLEcHINGE MIDDLE RING LITTLE"⟩,
  ⟨0x1D8D2, "SIGNWRITING HAND-ANGLE MIDDLE RING LITTLE OUTgINfLITTLE"⟩,
  ⟨0x1D8D5, "SIGNWRITING HAND-CIRCLE MIDDLE RING LITTLE BENTcCLAW MIDDLE RING LITTLE CONJOINED"⟩,
  ⟨0x1D8D7, "SIGNWRITING HAND-CLAW MIDDLE RING LITTLE CONJOINED SIDE"⟩,
  ⟨0x1D8D8, "SIGNWRITING HAND-HOOK MIDDLE RING LITTLE CONJOINED OUThINgCONJOINED"⟩,
  ⟨0x1D8DB, "SIGNWRITING HAND-HINGE INDEX HINGEDcFIST INDEX THUMB SIDEcHINGE INDEX THUMB SIDE"⟩,
  ⟨0x1D8DE, "SIGNWRITING HAND-FIST INDEX THUMB SIDE THUMB DIAGONALhCONJOINEDhBENTgINDEX BENT"⟩,
  ⟨0x1D8E2, "SIGNWRITING HAND-FIST INDEX THUMB SIDE BOTH BENTgINDEX HINGEfFORWARD INDEX STRAIGHT"⟩,
  ⟨0x1D8E5, "SIGNWRITING HAND-FIST INDEX THUMB FORWARD INDEX BENTfHOOKfCURLICUE"⟩,
  ⟨0x1D8E8, "SIGNWRITING HAND-FIST INDEX THUMB CURVE THUMB INSIDE"⟩,
  ⟨0x1D8E9, "SIGNWRITING HAND-CLAW INDEX THUMB CURVE THUMB INSIDE"⟩,
  ⟨0x1D8EA, "SIGNWRITING HAND-FIST INDEX THUMB CURVE THUMB UNDERfCIRCLEcCUP INDEX THUMB"⟩,
  ⟨0x1D8ED, "SIGNWRITING HAND-CUP INDEX THUMB OPENcHINGE INDEX THUMB OPENfLARGEeTHUMBeTHUMB SMALL"⟩,
  ⟨0x1D8F2, "SIGNWRITING HAND-ANGLE INDEX THUMB OUTfINeTHUMBcFIST THUMBdTHUMB HEELeSIDE DIAGONAL"⟩,
  ⟨0x1D8F8, "SIGNWRITING HAND-FIST THUMB SIDE CONJOINEDfBENTeFORWARDeBETWEEN INDEX MIDDLE"⟩,
  ⟨0x1D8FC, "SIGNWRITING HAND-FIST THUMB BETWEEN MIDDLE RINGfRING LITTLEeUNDER TWO FINGERS"⟩,
  ⟨0x1D8FF, "SIGNWRITING HAND-FIST THUMB OVER TWO FINGERSeUNDER THREE FINGERSfFOUR FINGERS"⟩,
  ⟨0x1D902, "SIGNWRITING HAND-FIST THUMB OVER FOUR RAISED KNUCKLEScFISTcFIST HEELbTOUCH SINGLE"⟩,
  ⟨0x1D906, "SIGNWRITING TOUCH MULTIPLEcBETWEENbGRASP SINGLEcMULTIPLEcBETWEENbSTRIKE SINGLE"⟩,
  ⟨0x1D90C, "SIGNWRITING STRIKE MULTIPLEcBETWEENbBRUSH SINGLEcMULTIPLEcBETWEENbRUB SINGLE"⟩,
  ⟨0x1D912, "SIGNWRITING RUB MULTIPLEcBETWEENbSURFACE SYMBOLScBETWEENbSQUEEZE LARGE SINGLE"⟩,
  ⟨0x1D917, "SIGNWRITING SQUEEZE SMALL SINGLEcLARGE MULTIPLEcSMALL MULTIPLEcSEQUENTIAL"⟩,
  ⟨0x1D91B, "SIGNWRITING FLICK LARGE SINGLEcSMALL SINGLEcLARGE MULTIPLEcSMALL MULTIPLEcSEQUENTIAL"⟩,
  ⟨0x1D920, "SIGNWRITING SQUEEZE FLICK ALTERNATINGbMOVEMENT-HINGE UP DOWN LARGEfSMALLeSEQUENTIAL"⟩,
  ⟨0x1D924, "SIGNWRITING MOVEMENT-HINGE DOWN SEQUENTIALdUP DOWN ALTERNATING LARGEgSMALL"⟩,
  ⟨0x1D927, "SIGNWRITING MOVEMENT-HINGE SIDE TO SIDE SCISSORScWALLPLANE FINGER CONTACT"⟩,
  ⟨0x1D929, "SIGNWRITING MOVEMENT-FLOORPLANE FINGER CONTACTcWALLPLANE SINGLE STRAIGHT SMALL"⟩,
  ⟨0x1D92B, "SIGNWRITING MOVEMENT-WALLPLANE SINGLE STRAIGHT MEDIUMfLARGEfLARGESTeWRIST FLEX"⟩,
  ⟨0x1D92F, "SIGNWRITING MOVEMENT-WALLPLANE DOUBLE STRAIGHTeWRIST FLEXeALTERNATING"⟩,
  ⟨0x1D932, "SIGNWRITING MOVEMENT-WALLPLANE DOUBLE ALTERNATING WRIST FLEXdCROSS"⟩,
  ⟨0x1D934, "SIGNWRITING MOVEMENT-WALLPLANE TRIPLE STRAIGHT MOVEMENTeWRIST FLEXeALTERNATING"⟩,
  ⟨0x1D937, "SIGNWRITING MOVEMENT-WALLPLANE TRIPLE ALTERNATING WRIST FLEXdBEND SMALLeMEDIUMeLARGE"⟩,
  ⟨0x1D93B, "SIGNWRITING MOVEMENT-WALLPLANE CORNER SMALLeMEDIUMeLARGEeROTATIONdCHECK SMALLeMEDIUM"⟩,
  ⟨0x1D941, "SIGNWRITING MOVEMENT-WALLPLANE CHECK LARGEdBOX SMALLeMEDIUMeLARGEdZIGZAG SMALL"⟩,
  ⟨0x1D946, "SIGNWRITING MOVEMENT-WALLPLANE ZIGZAG MEDIUMeLARGEdPEAKS SMALLeMEDIUMeLARGE"⟩,
  ⟨0x1D94B, "SIGNWRITING TRAVEL-WALLPLANE ROTATION-WALLPLANE SINGLEfDOUBLEfALTERNATING"⟩,
  ⟨0x1D94E, "SIGNWRITING TRAVEL-WALLPLANE ROTATION-FLOORPLANE SINGLEfDOUBLEfALTERNATINGdSHAKING"⟩,
  ⟨0x1D952, "SIGNWRITING TRAVEL-WALLPLANE ARM SPIRAL SINGLEfDOUBLEfTRIPLE"⟩,
  ⟨0x1D955, "SIGNWRITING MOVEMENT-DIAGONAL AWAY SMALLeMEDIUMeLARGEeLARGESTdTOWARDS SMALLeMEDIUM"⟩,
  ⟨0x1D95B, "SIGNWRITING MOVEMENT-DIAGONAL TOWARDS LARGEeLARGESTdBETWEEN AWAY SMALLfMEDIUMfLARGE"⟩,
  ⟨0x1D960, "SIGNWRITING MOVEMENT-DIAGONAL BETWEEN AWAY LARGESTeTOWARDS SMALLfMEDIUMfLARGE"⟩,
  ⟨0x1D964, "SIGNWRITING MOVEMENT-DIAGONAL BETWEEN TOWARDS LARGEST"⟩,
  ⟨0x1D965, "SIGNWRITING MOVEMENT-FLOORPLANE SINGLE STRAIGHT SMALLfMEDIUMfLARGEfLARGEST"⟩,
  ⟨0x1D969, "SIGNWRITING MOVEMENT-FLOORPLANE SINGLE WRIST FLEXdDOUBLE STRAIGHTeWRIST FLEX"⟩,
  ⟨0x1D96C, "SIGNWRITING MOVEMENT-FLOORPLANE DOUBLE ALTERNATINGeALTERNATING WRIST FLEXdCROSS"⟩,
  ⟨0x1D96F, "SIGNWRITING MOVEMENT-FLOORPLANE TRIPLE STRAIGHT MOVEMENTeWRIST FLEX"⟩,
  ⟨0x1D971, "SIGNWRITING MOVEMENT-FLOORPLANE TRIPLE ALTERNATING MOVEMENTfWRIST FLEXdBEND"⟩,
  ⟨0x1D974, "SIGNWRITING MOVEMENT-FLOORPLANE CORNER SMALLeMEDIUMeLARGEdCHECKdBOX SMALLeMEDIUM"⟩,
  ⟨0x1D97A, "SIGNWRITING MOVEMENT-FLOORPLANE BOX LARGEdZIGZAG SMALLeMEDIUMeLARGEdPEAKS SMALL"⟩,
  ⟨0x1D97F, "SIGNWRITING MOVEMENT-FLOORPLANE PEAKS MEDIUMeLARGE"⟩,
  ⟨0x1D981, "SIGNWRITING TRAVEL-FLOORPLANE ROTATION-FLOORPLANE SINGLEfDOUBLEfALTERNATING"⟩,
  ⟨0x1D984, "SIGNWRITING TRAVEL-FLOORPLANE ROTATION-WALLPLANE SINGLEfDOUBLEfALTERNATINGdSHAKING"⟩,
  ⟨0x1D988, "SIGNWRITING MOVEMENT-WALLPLANE CURVE QUARTER SMALLfMEDIUMfLARGEfLARGEST"⟩,
  ⟨0x1D98C, "SIGNWRITING MOVEMENT-WALLPLANE CURVE HALF-CIRCLE SMALLgMEDIUMgLARGEgLARGEST"⟩,
  ⟨0x1D990, "SIGNWRITING MOVEMENT-WALLPLANE CURVE THREE-QUARTER CIRCLE SMALLhMEDIUMdHUMP SMALL"⟩,
  ⟨0x1D993, "SIGNWRITING MOVEMENT-WALLPLANE HUMP MEDIUMeLARGEdLOOP SMALLeMEDIUMeLARGE"⟩,
  ⟨0x1D998, "SIGNWRITING MOVEMENT-WALLPLANE LOOP SMALL DOUBLEdWAVE CURVE DOUBLE SMALLgMEDIUM"⟩,
  ⟨0x1D99B, "SIGNWRITING MOVEMENT-WALLPLANE WAVE CURVE DOUBLE LARGEfTRIPLE SMALLgMEDIUMgLARGE"⟩,
  ⟨0x1D99F, "SIGNWRITING MOVEMENT-WALLPLANE CURVE THEN STRAIGHTdCURVED CROSS SMALLfMEDIUM"⟩,
  ⟨0x1D9A2, "SIGNWRITING ROTATION-WALLPLANE SINGLEdDOUBLEdALTERNATEbMOVEMENT-WALLPLANE SHAKING"⟩,
  ⟨0x1D9A6, "SIGNWRITING MOVEMENT-WALLPLANE CURVE HITTING FRONT WALLdHUMP HITTING FRONT WALL"⟩,
  ⟨0x1D9A8, "SIGNWRITING MOVEMENT-WALLPLANE LOOP HITTING FRONT WALLdWAVE HITTING FRONT WALL"⟩,
  ⟨0x1D9AA, "SIGNWRITING ROTATION-WALLPLANE SINGLE HITTING FRONT WALLdDOUBLE HITTING FRONT WALL"⟩,
  ⟨0x1D9AC, "SIGNWRITING ROTATION-WALLPLANE ALTERNATING HITTING FRONT WALL"⟩,
  ⟨0x1D9AD, "SIGNWRITING MOVEMENT-WALLPLANE CURVE HITTING CHESTdHUMP HITTING CHEST"⟩,
  ⟨0x1D9AF, "SIGNWRITING MOVEMENT-WALLPLANE LOOP HITTING CHESTdWAVE HITTING CHEST"⟩,
  ⟨0x1D9B1, "SIGNWRITING ROTATION-WALLPLANE SINGLE HITTING CHESTdDOUBLE HITTING CHEST"⟩,
  ⟨0x1D9B3, "SIGNWRITING ROTATION-WALLPLANE ALTERNATING HITTING CHEST"⟩,
  ⟨0x1D9B4, "SIGNWRITING MOVEMENT-WALLPLANE WAVE DIAGONAL PATH SMALLgMEDIUMgLARGE"⟩,
  ⟨0x1D9B7, "SIGNWRITING MOVEMENT-FLOORPLANE CURVE HITTING CEILING SMALLgLARGE"⟩,
  ⟨0x1D9B9, "SIGNWRITING MOVEMENT-FLOORPLANE HUMP HITTING CEILING SMALL DOUBLEgLARGE DOUBLE"⟩,
  ⟨0x1D9BB, "SIGNWRITING MOVEMENT-FLOORPLANE HUMP HITTING CEILING SMALL TRIPLEgLARGE TRIPLE"⟩,
  ⟨0x1D9BD, "SIGNWRITING MOVEMENT-FLOORPLANE LOOP HITTING CEILING SMALL SINGLEgLARGE SINGLE"⟩,
  ⟨0x1D9BF, "SIGNWRITING MOVEMENT-FLOORPLANE LOOP HITTING CEILING SMALL DOUBLEgLARGE DOUBLE"⟩,
  ⟨0x1D9C1, "SIGNWRITING MOVEMENT-FLOORPLANE WAVE HITTING CEILING SMALLgLARGE"⟩,
  ⟨0x1D9C3, "SIGNWRITING ROTATION-FLOORPLANE SINGLE HITTING CEILINGdDOUBLE HITTING CEILING"⟩,
  ⟨0x1D9C5, "SIGNWRITING ROTATION-FLOORPLANE ALTERNATING HITTING CEILING"⟩,
  ⟨0x1D9C6, "SIGNWRITING MOVEMENT-FLOORPLANE CURVE HITTING FLOOR SMALLgLARGE"⟩,
  ⟨0x1D9C8, "SIGNWRITING MOVEMENT-FLOORPLANE HUMP HITTING FLOOR SMALL DOUBLEgLARGE DOUBLE"⟩,
  ⟨0x1D9CA, "SIGNWRITING MOVEMENT-FLOORPLANE HUMP HITTING FLOOR TRIPLE SMALL TRIPLEhLARGE TRIPLE"⟩,
  ⟨0x1D9CC, "SIGNWRITING MOVEMENT-FLOORPLANE LOOP HITTING FLOOR SMALL SINGLEgLARGE SINGLE"⟩,
  ⟨0x1D9CE, "SIGNWRITING MOVEMENT-FLOORPLANE LOOP HITTING FLOOR SMALL DOUBLEgLARGE DOUBLE"⟩,
  ⟨0x1D9D0, "SIGNWRITING MOVEMENT-FLOORPLANE WAVE HITTING FLOOR SMALLgLARGE"⟩,
  ⟨0x1D9D2, "SIGNWRITING ROTATION-FLOORPLANE SINGLE HITTING FLOORdDOUBLE HITTING FLOOR"⟩,
  ⟨0x1D9D4, "SIGNWRITING ROTATION-FLOORPLANE ALTERNATING HITTING FLOOR"⟩,
  ⟨0x1D9D5, "SIGNWRITING MOVEMENT-FLOORPLANE CURVE SMALLeMEDIUMeLARGEeLARGESTeCOMBINEDdHUMP SMALL"⟩,
  ⟨0x1D9DB, "SIGNWRITING MOVEMENT-FLOORPLANE LOOP SMALLdWAVE SNAKEeSMALLeLARGE"⟩,
  ⟨0x1D9DF, "SIGNWRITING ROTATION-FLOORPLANE SINGLEdDOUBLEdALTERNATING"⟩,
  ⟨0x1D9E2, "SIGNWRITING MOVEMENT-FLOORPLANE SHAKING PARALLELcWALLPLANE ARM CIRCLE SMALL SINGLE"⟩,
  ⟨0x1D9E4, "SIGNWRITING MOVEMENT-WALLPLANE ARM CIRCLE MEDIUM SINGLEfSMALL DOUBLEfMEDIUM DOUBLE"⟩,
  ⟨0x1D9E7, "SIGNWRITING MOVEMENT-FLOORPLANE ARM CIRCLE HITTING WALL SMALL SINGLEhMEDIUM SINGLE"⟩,
  ⟨0x1D9E9, "SIGNWRITING MOVEMENT-FLOORPLANE ARM CIRCLE HITTING WALL LARGE SINGLEhSMALL DOUBLE"⟩,
  ⟨0x1D9EB, "SIGNWRITING MOVEMENT-FLOORPLANE ARM CIRCLE HITTING WALL MEDIUM DOUBLEhLARGE DOUBLE"⟩,
  ⟨0x1D9ED, "SIGNWRITING MOVEMENT-WALLPLANE WRIST CIRCLE FRONT SINGLEgDOUBLE"⟩,
  ⟨0x1D9EF, "SIGNWRITING MOVEMENT-FLOORPLANE WRIST CIRCLE HITTING WALL SINGLEhDOUBLE"⟩,
  ⟨0x1D9F1, "SIGNWRITING MOVEMENT-WALLPLANE FINGER CIRCLES SINGLEfDOUBLE"⟩,
  ⟨0x1D9F3, "SIGNWRITING MOVEMENT-FLOORPLANE FINGER CIRCLES HITTING WALL SINGLEhDOUBLE"⟩,
  ⟨0x1D9F5, "SIGNWRITING DYNAMIC ARROWHEAD SMALLdLARGEcFASTcSLOWcTENSEcRELAXEDcSIMULTANEOUS"⟩,
  ⟨0x1D9FC, "SIGNWRITING DYNAMIC SIMULTANEOUS ALTERNATINGcEVERY OTHER TIMEcGRADUALbHEADbHEAD RIM"⟩,
  ⟨0x1DA01, "SIGNWRITING HEAD MOVEMENT-WALLPLANE STRAIGHTeTILTdFLOORPLANE STRAIGHT"⟩,
  ⟨0x1DA04, "SIGNWRITING HEAD MOVEMENT-WALLPLANE CURVEdFLOORPLANE CURVEcMOVEMENT CIRCLE"⟩,
  ⟨0x1DA07, "SIGNWRITING FACE DIRECTION POSITION NOSE FORWARD TILTINGfUP OR DOWNhDOWN TILTING"⟩,
  ⟨0x1DA0A, "SIGNWRITING EYEBROWS STRAIGHT UPdNEUTRALdDOWNbDREAMY EYEBROWS NEUTRAL DOWN"⟩,
  ⟨0x1DA0E, "SIGNWRITING DREAMY EYEBROWS DOWN NEUTRALdUP NEUTRALdNEUTRAL UPbFOREHEAD NEUTRAL"⟩,
  ⟨0x1DA12, "SIGNWRITING FOREHEAD CONTACTcWRINKLEDbEYES OPENcSQUEEZEDcCLOSEDbEYE BLINK SINGLE"⟩,
  ⟨0x1DA18, "SIGNWRITING EYE BLINK MULTIPLEbEYES HALF OPENcWIDE OPENcHALF CLOSED"⟩,
  ⟨0x1DA1C, "SIGNWRITING EYES WIDENING MOVEMENTbEYE WINKbEYELASHES UPcDOWNcFLUTTERING"⟩,
  ⟨0x1DA21, "SIGNWRITING EYEGAZE-WALLPLANE STRAIGHTdSTRAIGHT DOUBLEeALTERNATING"⟩,
  ⟨0x1DA24, "SIGNWRITING EYEGAZE-FLOORPLANE STRAIGHTdSTRAIGHT DOUBLEeALTERNATINGcWALLPLANE CURVED"⟩,
  ⟨0x1DA28, "SIGNWRITING EYEGAZE-FLOORPLANE CURVEDcWALLPLANE CIRCLINGbCHEEKS PUFFEDcNEUTRAL"⟩,
  ⟨0x1DA2C, "SIGNWRITING CHEEKS SUCKEDbTENSE CHEEKS HIGHdMIDDLEdLOWbEARSbNOSE NEUTRALcCONTACT"⟩,
  ⟨0x1DA33, "SIGNWRITING NOSE WRINKLEScWIGGLESbAIR BLOWING OUTcSUCKING INcBLOW SMALL ROTATIONS"⟩,
  ⟨0x1DA38, "SIGNWRITING AIR SUCK SMALL ROTATIONSbBREATH INHALEcEXHALEbMOUTH CLOSED NEUTRAL"⟩,
  ⟨0x1DA3C, "SIGNWRITING MOUTH CLOSED FORWARDdCONTACTcSMILEcSMILE WRINKLEDdOPENcFROWN"⟩,
  ⟨0x1DA42, "SIGNWRITING MOUTH FROWN WRINKLEDdOPENcOPEN CIRCLEdFORWARDdWRINKLEDdOVAL"⟩,
  ⟨0x1DA48, "SIGNWRITING MOUTH OPEN OVAL WRINKLEDeYAWNdRECTANGLEdRECTANGLE WRINKLEDeYAWNcKISS"⟩,
  ⟨0x1DA4E, "SIGNWRITING MOUTH KISS FORWARDdWRINKLEDcTENSEcTENSE FORWARDdSUCKED"⟩,
  ⟨0x1DA53, "SIGNWRITING LIPS PRESSED TOGETHERbLIP LOWER OVER UPPERcUPPER OVER LOWER"⟩,
  ⟨0x1DA56, "SIGNWRITING MOUTH CORNERScWRINKLES SINGLEdDOUBLEbTONGUE STICKING OUT FAR"⟩,
  ⟨0x1DA5A, "SIGNWRITING TONGUE LICKING LIPScTIP BETWEEN LIPSdTOUCHING INSIDE MOUTH"⟩,
  ⟨0x1DA5D, "SIGNWRITING TONGUE INSIDE MOUTH RELAXEDcMOVES AGAINST CHEEKcCENTRE STICKING OUT"⟩,
  ⟨0x1DA60, "SIGNWRITING TONGUE CENTRE INSIDE MOUTHbTEETHbTEETH MOVEMENTcON TONGUE"⟩,
  ⟨0x1DA64, "SIGNWRITING TEETH ON TONGUE MOVEMENTdLIPSdLIPS MOVEMENTcBITE LIPS"⟩,
  ⟨0x1DA68, "SIGNWRITING MOVEMENT-WALLPLANE JAWcFLOORPLANE JAWbNECKbHAIRbEXCITEMENT"⟩,
  ⟨0x1DA6D, "SIGNWRITING SHOULDER HIP SPINEdPOSITIONSbWALLPLANE SHOULDER HIP MOVE"⟩,
  ⟨0x1DA70, "SIGNWRITING FLOORPLANE SHOULDER HIP MOVEbSHOULDER TILTING FROM WAIST"⟩,
  ⟨0x1DA72, "SIGNWRITING TORSO-WALLPLANE STRAIGHT STRETCHdCURVED BENDcFLOORPLANE TWISTING"⟩,
  ⟨0x1DA75, "SIGNWRITING UPPER BODY TILTING FROM HIP JOINTSbLIMB COMBINATIONcLENGTH-1d2d3d4d5d6d7"⟩,
  ⟨0x1DA7E, "SIGNWRITING FINGERbLOCATION-WALLPLANE SPACEcFLOORPLANE SPACEbLOCATION HEIGHTcWIDTH"⟩,
  ⟨0x1DA83, "SIGNWRITING LOCATION DEPTHcHEAD NECKcTORSOcLIMBS DIGITSbCOMMAbFULL STOPbSEMICOLON"⟩,
  ⟨0x1DA8A, "SIGNWRITING COLONbPARENTHESIS"⟩,
  ⟨0x1DA9B, "SIGNWRITING FILL MODIFIER-2d3d4d5d6"⟩,
  ⟨0x1DAA1, "SIGNWRITING ROTATION MODIFIER-2d3d4d5d6d7d8d9d10d11d12d13d14d15d16"⟩,
  ⟨0x1DF00, "LATIN SMALL LETTER FENG DIGRAPH WITH TRILLdREVERSED SCRIPT G"⟩,
  ⟨0x1DF02, "LATIN LETTER SMALL CAPITAL TURNED GbSMALL LETTER REVERSED K"⟩,
  ⟨0x1DF04, "LATIN LETTER SMALL CAPITAL L WITH BELTbSMALL LETTER LEZH WITH RETROFLEX HOOK"⟩,
  ⟨0x1DF06, "LATIN SMALL LETTER TURNED Y WITH BELTdREVERSED ENG"⟩,
  ⟨0x1DF08, "LATIN SMALL LETTER TURNED R WITH LONG LEG AND RETROFLEX HOOK"⟩,
  ⟨0x1DF09, "LATIN SMALL LETTER T WITH HOOK AND RETROFLEX HOOK"⟩,
  ⟨0x1DF0A, "LATIN LETTER RETROFLEX CLICK WITH RETROFLEX HOOKbSMALL LETTER ESH WITH DOUBLE BAR"⟩,
  ⟨0x1DF0C, "LATIN SMALL LETTER ESH WITH DOUBLE BAR AND CURLdTURNED T WITH CURL"⟩,
  ⟨0x1DF0E, "LATIN LETTER INVERTED GLOTTAL STOP WITH CURLcSTRETCHED C WITH CURL"⟩,
  ⟨0x1DF10, "LATIN LETTER SMALL CAPITAL TURNED KbSMALL LETTER L WITH FISHHOOK"⟩,
  ⟨0x1DF12, "LATIN SMALL LETTER DEZH DIGRAPH WITH PALATAL HOOKdL WITH BELT AND PALATAL HOOK"⟩,
  ⟨0x1DF14, "LATIN SMALL LETTER ENG WITH PALATAL HOOKdTURNED R WITH PALATAL HOOK"⟩,
  ⟨0x1DF16, "LATIN SMALL LETTER R WITH FISHHOOK AND PALATAL HOOKdTESH DIGRAPH WITH PALATAL HOOK"⟩,
  ⟨0x1DF18, "LATIN SMALL LETTER EZH WITH PALATAL HOOKdDEZH DIGRAPH WITH RETROFLEX HOOK"⟩,
  ⟨0x1DF1A, "LATIN SMALL LETTER I WITH STROKE AND RETROFLEX HOOKdO WITH RETROFLEX HOOK"⟩,
  ⟨0x1DF1C, "LATIN SMALL LETTER TESH DIGRAPH WITH RETROFLEX HOOKdC WITH RETROFLEX HOOK"⟩,
  ⟨0x1DF1E, "LATIN SMALL LETTER S WITH CURL"⟩,
  ⟨0x1E000, "COMBINING GLAGOLITIC LETTER AZUdBUKYdVEDEdGLAGOLIdDOBROdYESTUdZHIVETE"⟩,
  ⟨0x1E008, "COMBINING GLAGOLITIC LETTER ZEMLJAdIZHEdINITIAL IZHEdIdDJERVIdKAKOdLJUDIJEdMYSLITE"⟩,
  ⟨0x1E010, "COMBINING GLAGOLITIC LETTER NASHIdONUdPOKOJIdRITSIdSLOVOdTVRIDOdUKUdFRITUdHERU"⟩,
  ⟨0x1E01B, "COMBINING GLAGOLITIC LETTER SHTAdTSIdCHRIVIdSHAdYERUdYERIdYATI"⟩,
  ⟨0x1E023, "COMBINING GLAGOLITIC LETTER YUdSMALL YUS"⟩,
  ⟨0x1E026, "COMBINING GLAGOLITIC LETTER YOdIOTATED SMALL YUSdBIG YUSdIOTATED BIG YUSdFITA"⟩,
  ⟨0x1E100, "NYIAKENG PUACHUE HMONG LETTER MAeTSAeNTAeTAeHAeNAeXAeNKAeCAeLAeSAeZAeNCAeNTSAeKAeDA"⟩,
  ⟨0x1E110, "NYIAKENG PUACHUE HMONG LETTER NYAeNRAeVAeNTXAeTXAeFAeRAeQAeYAeNQAePAeXYAeNPAeDLA"⟩,
  ⟨0x1E11E, "NYIAKENG PUACHUE HMONG LETTER NPLAeHAHeMLAePLAeGAeRRAeAeAAeIeUeOeOOeEeEEeW"⟩,
  ⟨0x1E130, "NYIAKENG PUACHUE HMONG TONE-BeMeJeVeSeGeDdSIGN FOR PERSONfTHINGfLOCATIONfANIMAL"⟩,
  ⟨0x1E13B, "NYIAKENG PUACHUE HMONG SIGN FOR INVERTEBRATEeXW XWdSYLLABLE LENGTHENER"⟩,
  ⟨0x1E140, "NYIAKENG PUACHUE HMONG DIGIT ZEROeONEeTWOeTHREEeFOUReFIVEeSIXeSEVENeEIGHTeNINE"⟩,
  ⟨0x1E14E, "NYIAKENG PUACHUE HMONG LOGOGRAM NYAJdCIRCLED CA"⟩,
  ⟨0x1E290, "TOTO LETTER PAcBAcTAcDAcKAcGAcMAcNAcNGAcSAcCHAcYAcWAcJAcHAcRAcLAcIcBREATHY IcIU"⟩,
  ⟨0x1E2A4, "TOTO LETTER BREATHY IUcUcEcBREATHY EcEOcBREATHY EOcOcAEcBREATHY AEcA"⟩,
  ⟨0x1E2AE, "TOTO SIGN RISING TONE"⟩,
  ⟨0x1E2C0, "WANCHO LETTER AAcAcBAcCAcDAcGAcYAcPHAcLAcNAcPAcTAcTHAcFAcSAcSHAcJAcZAcWAcVAcKAcOcAU"⟩,
  ⟨0x1E2D7, "WANCHO LETTER RAcMAcKHAcHAcEcIcNGAcUcLLHAcTSAcTRAcONGcAANGcANGcINGcONcENcAANcNYAcUEN"⟩,
  ⟨0x1E2EB, "WANCHO LETTER YIHbTONE TUPcTUPNIcKOIcKOINIbDIGIT ZEROcONEcTWOcTHREEcFOURcFIVEcSIX"⟩,
  ⟨0x1E2F7, "WANCHO DIGIT SEVENcEIGHTcNINE"⟩,
  ⟨0x1E2FF, "WANCHO NGUN SIGN"⟩,
  ⟨0x1E7E0, "ETHIOPIC SYLLABLE HHYAcHHYUcHHYIcHHYAAcHHYEEcHHYEcHHYO"⟩,
  ⟨0x1E7E8, "ETHIOPIC SYLLABLE GURAGE HHWAcHHWIcHHWEEcHHWE"⟩,
  ⟨0x1E7ED, "ETHIOPIC SYLLABLE GURAGE MWIdMWEE"⟩,
  ⟨0x1E7F0, "ETHIOPIC SYLLABLE GURAGE QWIdQWEEdQWEdBWIdBWEEdKWIdKWEEdKWEdGWIdGWEEdGWEdFWIdFWEE"⟩,
  ⟨0x1E7FD, "ETHIOPIC SYLLABLE GURAGE PWIdPWEE"⟩,
  ⟨0x1E800, "MENDE KIKAKUI SYLLABLE M001 KIdM002 KAdM003 KUdM065 KEEdM095 KEdM076 KOOdM048 KO"⟩,
  ⟨0x1E807, "MENDE KIKAKUI SYLLABLE M179 KUAdM004 WIdM005 WAdM006 WUdM126 WEEdM118 WEdM114 WOO"⟩,
  ⟨0x1E80E, "MENDE KIKAKUI SYLLABLE M045 WOdM194 WUIdM143 WEIdM061 WVIdM049 WVAdM139 WVEdM007 MIN"⟩,
  ⟨0x1E815, "MENDE KIKAKUI SYLLABLE M008 MANdM009 MUNdM059 MENdM094 MONdM154 MUANdM189 MUEN"⟩,
  ⟨0x1E81B, "MENDE KIKAKUI SYLLABLE M010 BIdM011 BAdM012 BUdM150 BEEdM097 BEdM103 BOOdM138 BO"⟩,
  ⟨0x1E822, "MENDE KIKAKUI SYLLABLE M013 IdM014 AdM015 UdM163 EEdM100 EdM165 OOdM147 OdM137 EI"⟩,
  ⟨0x1E82A, "MENDE KIKAKUI SYLLABLE M131 INdM135 INdM195 ANdM178 ENdM019 SIdM020 SAdM021 SU"⟩,
  ⟨0x1E831, "MENDE KIKAKUI SYLLABLE M162 SEEdM116 SEdM136 SOOdM079 SOdM196 SIAdM025 LIdM026 LA"⟩,
  ⟨0x1E838, "MENDE KIKAKUI SYLLABLE M027 LUdM084 LEEdM073 LEdM054 LOOdM153 LOdM110 LONG LE"⟩,
  ⟨0x1E83E, "MENDE KIKAKUI SYLLABLE M016 DIdM017 DAdM018 DUdM089 DEEdM180 DOOdM181 DOdM022 TI"⟩,
  ⟨0x1E845, "MENDE KIKAKUI SYLLABLE M023 TAdM024 TUdM091 TEEdM055 TEdM104 TOOdM069 TOdM028 JI"⟩,
  ⟨0x1E84C, "MENDE KIKAKUI SYLLABLE M029 JAdM030 JUdM157 JEEdM113 JEdM160 JOOdM063 JO"⟩,
  ⟨0x1E852, "MENDE KIKAKUI SYLLABLE M175 LONG JOdM031 YIdM032 YAdM033 YUdM109 YEEdM080 YE"⟩,
  ⟨0x1E858, "MENDE KIKAKUI SYLLABLE M141 YOOdM121 YOdM034 FIdM035 FAdM036 FUdM078 FEEdM075 FE"⟩,
  ⟨0x1E85F, "MENDE KIKAKUI SYLLABLE M133 FOOdM088 FOdM197 FUAdM101 FANdM037 NINdM038 NANdM039 NUN"⟩,
  ⟨0x1E866, "MENDE KIKAKUI SYLLABLE M117 NENdM169 NONdM176 HIdM041 HAdM186 HUdM040 HEEdM096 HE"⟩,
  ⟨0x1E86D, "MENDE KIKAKUI SYLLABLE M042 HOOdM140 HOdM083 HEEIdM128 HOOUdM053 HINdM130 HAN"⟩,
  ⟨0x1E873, "MENDE KIKAKUI SYLLABLE M087 HUNdM052 HENdM193 HONdM046 HUANdM090 NGGIdM043 NGGA"⟩,
  ⟨0x1E879, "MENDE KIKAKUI SYLLABLE M082 NGGUdM115 NGGEEdM146 NGGEdM156 NGGOOdM120 NGGO"⟩,
  ⟨0x1E87E, "MENDE KIKAKUI SYLLABLE M159 NGGAAdM127 NGGUAdM086 LONG NGGEdM106 LONG NGGOO"⟩,
  ⟨0x1E882, "MENDE KIKAKUI SYLLABLE M183 LONG NGGOdM155 GIdM111 GAdM168 GUdM190 GEEdM166 GUEI"⟩,
  ⟨0x1E888, "MENDE KIKAKUI SYLLABLE M167 GUANdM184 NGENdM057 NGONdM177 NGUANdM068 PIdM099 PA"⟩,
  ⟨0x1E88E, "MENDE KIKAKUI SYLLABLE M050 PUdM081 PEEdM051 PEdM102 POOdM066 POdM145 MBIdM062 MBA"⟩,
  ⟨0x1E895, "MENDE KIKAKUI SYLLABLE M122 MBUdM047 MBEEdM188 MBEEdM072 MBEdM172 MBOOdM174 MBO"⟩,
  ⟨0x1E89B, "MENDE KIKAKUI SYLLABLE M187 MBUUdM161 LONG MBEdM105 LONG MBOOdM142 LONG MBOdM132 KPI"⟩,
  ⟨0x1E8A0, "MENDE KIKAKUI SYLLABLE M092 KPAdM074 KPUdM044 KPEEdM108 KPEdM112 KPOOdM158 KPO"⟩,
  ⟨0x1E8A6, "MENDE KIKAKUI SYLLABLE M124 GBIdM056 GBAdM148 GBUdM093 GBEEdM107 GBEdM071 GBOO"⟩,
  ⟨0x1E8AC, "MENDE KIKAKUI SYLLABLE M070 GBOdM171 RAdM123 NDIdM129 NDAdM125 NDUdM191 NDEE"⟩,
  ⟨0x1E8B2, "MENDE KIKAKUI SYLLABLE M119 NDEdM067 NDOOdM064 NDOdM152 NJAdM192 NJUdM149 NJEE"⟩,
  ⟨0x1E8B8, "MENDE KIKAKUI SYLLABLE M134 NJOOdM182 VIdM185 VAdM151 VUdM173 VEEdM085 VEdM144 VOO"⟩,
  ⟨0x1E8BF, "MENDE KIKAKUI SYLLABLE M077 VOdM164 NYINdM058 NYANdM170 NYUNdM098 NYENdM060 NYON"⟩,
  ⟨0x1E8C7, "MENDE KIKAKUI DIGIT ONEdTWOdTHREEdFOURdFIVEdSIXdSEVENdEIGHTdNINE"⟩,
  ⟨0x1E8D0, "MENDE KIKAKUI COMBINING NUMBER TEENSeTENSeHUNDREDSeTHOUSANDSeTEN THOUSANDS"⟩,
  ⟨0x1E8D5, "MENDE KIKAKUI COMBINING NUMBER HUNDRED THOUSANDSeMILLIONS"⟩,
  ⟨0x1E900, "ADLAM CAPITAL LETTER ALIFdDAALIdLAAMdMIIMdBAdSINNYIIYHEdPEdBHEdRAdEdFAdIdOdDHAdYHE"⟩,
  ⟨0x1E90F, "ADLAM CAPITAL LETTER WAWdNUNdKAFdYAdUdJIIMdCHIdHAdQAAFdGAdNYAdTUdNHAdVAdKHAdGBEdZAL"⟩,
  ⟨0x1E920, "ADLAM CAPITAL LETTER KPOdSHAbSMALL LETTER ALIFdDAALIdLAAMdMIIMdBAdSINNYIIYHEdPEdBHE"⟩,
  ⟨0x1E92A, "ADLAM SMALL LETTER RAdEdFAdIdOdDHAdYHEdWAWdNUNdKAFdYAdUdJIIMdCHIdHAdQAAFdGAdNYAdTU"⟩,
  ⟨0x1E93D, "ADLAM SMALL LETTER NHAdVAdKHAdGBEdZALdKPOdSHAbALIF LENGTHENERbVOWEL LENGTHENER"⟩,
  ⟨0x1E946, "ADLAM GEMINATION MARKbHAMZAbCONSONANT MODIFIERbGEMINATE CONSONANT MODIFIERbNUKTA"⟩,
  ⟨0x1E94B, "ADLAM NASALIZATION MARK"⟩,
  ⟨0x1E950, "ADLAM DIGIT ZEROcONEcTWOcTHREEcFOURcFIVEcSIXcSEVENcEIGHTcNINE"⟩,
  ⟨0x1E95E, "ADLAM INITIAL EXCLAMATION MARKcQUESTION MARK"⟩,
  ⟨0x1EC71, "INDIC SIYAQ NUMBER ONEdTWOdTHREEdFOURdFIVEdSIXdSEVENdEIGHTdNINEdTENdTWENTYdTHIRTY"⟩,
  ⟨0x1EC7D, "INDIC SIYAQ NUMBER FORTYdFIFTYdSIXTYdSEVENTYdEIGHTYdNINETYdONE HUNDREDdTWO HUNDRED"⟩,
  ⟨0x1EC85, "INDIC SIYAQ NUMBER THREE HUNDREDdFOUR HUNDREDdFIVE HUNDREDdSIX HUNDREDdSEVEN HUNDRED"⟩,
  ⟨0x1EC8A, "INDIC SIYAQ NUMBER EIGHT HUNDREDdNINE HUNDREDdONE THOUSANDdTWO THOUSAND"⟩,
  ⟨0x1EC8E, "INDIC SIYAQ NUMBER THREE THOUSANDdFOUR THOUSANDdFIVE THOUSANDdSIX THOUSAND"⟩,
  ⟨0x1EC92, "INDIC SIYAQ NUMBER SEVEN THOUSANDdEIGHT THOUSANDdNINE THOUSANDdTEN THOUSAND"⟩,
  ⟨0x1EC96, "INDIC SIYAQ NUMBER TWENTY THOUSANDdTHIRTY THOUSANDdFORTY THOUSANDdFIFTY THOUSAND"⟩,
  ⟨0x1EC9A, "INDIC SIYAQ NUMBER SIXTY THOUSANDdSEVENTY THOUSANDdEIGHTY THOUSANDdNINETY THOUSAND"⟩,
  ⟨0x1EC9E, "INDIC SIYAQ NUMBER LAKHdLAKHANcLAKH MARKcNUMBER KARORdKARORANdPREFIXED ONEeTWOeTHREE"⟩,
  ⟨0x1ECA6, "INDIC SIYAQ NUMBER PREFIXED FOUReFIVEeSIXeSEVENeEIGHTeNINEcPLACEHOLDER"⟩,
  ⟨0x1ECAD, "INDIC SIYAQ FRACTION ONE QUARTEReHALFdTHREE QUARTERScRUPEE MARKcNUMBER ALTERNATE ONE"⟩,
  ⟨0x1ECB2, "INDIC SIYAQ NUMBER ALTERNATE TWOeTEN THOUSANDcALTERNATE LAKH MARK"⟩,
  ⟨0x1ED01, "OTTOMAN SIYAQ NUMBER ONEdTWOdTHREEdFOURdFIVEdSIXdSEVENdEIGHTdNINEdTENdTWENTYdTHIRTY"⟩,
  ⟨0x1ED0D, "OTTOMAN SIYAQ NUMBER FORTYdFIFTYdSIXTYdSEVENTYdEIGHTYdNINETYdONE HUNDREDdTWO HUNDRED"⟩,
  ⟨0x1ED15, "OTTOMAN SIYAQ NUMBER THREE HUNDREDdFOUR HUNDREDdFIVE HUNDREDdSIX HUNDRED"⟩,
  ⟨0x1ED19, "OTTOMAN SIYAQ NUMBER SEVEN HUNDREDdEIGHT HUNDREDdNINE HUNDREDdONE THOUSAND"⟩,
  ⟨0x1ED1D, "OTTOMAN SIYAQ NUMBER TWO THOUSANDdTHREE THOUSANDdFOUR THOUSANDdFIVE THOUSAND"⟩,
  ⟨0x1ED21, "OTTOMAN SIYAQ NUMBER SIX THOUSANDdSEVEN THOUSANDdEIGHT THOUSANDdNINE THOUSAND"⟩,
  ⟨0x1ED25, "OTTOMAN SIYAQ NUMBER TEN THOUSANDdTWENTY THOUSANDdTHIRTY THOUSANDdFORTY THOUSAND"⟩,
  ⟨0x1ED29, "OTTOMAN SIYAQ NUMBER FIFTY THOUSANDdSIXTY THOUSANDdSEVENTY THOUSANDdEIGHTY THOUSAND"⟩,
  ⟨0x1ED2D, "OTTOMAN SIYAQ NUMBER NINETY THOUSANDcMARRATANcALTERNATE NUMBER TWOeTHREEeFOUReFIVE"⟩,
  ⟨0x1ED33, "OTTOMAN SIYAQ ALTERNATE NUMBER SIXeSEVENeEIGHTeNINEeTENeFOUR HUNDREDeSIX HUNDRED"⟩,
  ⟨0x1ED3A, "OTTOMAN SIYAQ ALTERNATE NUMBER TWO THOUSANDeTEN THOUSANDcFRACTION ONE HALFeSIXTH"⟩,
  ⟨0x1EE00, "ARABIC MATHEMATICAL ALEFcBEHcJEEMcDAL"⟩,
  ⟨0x1EE05, "ARABIC MATHEMATICAL WAWcZAINcHAHcTAHcYEHcKAFcLAMcMEEMcNOONcSEENcAINcFEHcSADcQAFcREH"⟩,
  ⟨0x1EE14, "ARABIC MATHEMATICAL SHEENcTEHcTHEHcKHAHcTHALcDADcZAHcGHAINcDOTLESS BEHdNOONdFEHdQAF"⟩,
  ⟨0x1EE21, "ARABIC MATHEMATICAL INITIAL BEHdJEEM"⟩,
  ⟨0x1EE24, "ARABIC MATHEMATICAL INITIAL HEH"⟩,
  ⟨0x1EE27, "ARABIC MATHEMATICAL INITIAL HAH"⟩,
  ⟨0x1EE29, "ARABIC MATHEMATICAL INITIAL YEHdKAFdLAMdMEEMdNOONdSEENdAINdFEHdSADdQAF"⟩,
  ⟨0x1EE34, "ARABIC MATHEMATICAL INITIAL SHEENdTEHdTHEHdKHAH"⟩,
  ⟨0x1EE39, "ARABIC MATHEMATICAL INITIAL DAD"⟩,
  ⟨0x1EE3B, "ARABIC MATHEMATICAL INITIAL GHAIN"⟩,
  ⟨0x1EE42, "ARABIC MATHEMATICAL TAILED JEEM"⟩,
  ⟨0x1EE47, "ARABIC MATHEMATICAL TAILED HAH"⟩,
  ⟨0x1EE49, "ARABIC MATHEMATICAL TAILED YEH"⟩,
  ⟨0x1EE4B, "ARABIC MATHEMATICAL TAILED LAM"⟩,
  ⟨0x1EE4D, "ARABIC MATHEMATICAL TAILED NOONdSEENdAIN"⟩,
  ⟨0x1EE51, "ARABIC MATHEMATICAL TAILED SADdQAF"⟩,
  ⟨0x1EE54, "ARABIC MATHEMATICAL TAILED SHEEN"⟩,
  ⟨0x1EE57, "ARABIC MATHEMATICAL TAILED KHAH"⟩,
  ⟨0x1EE59, "ARABIC MATHEMATICAL TAILED DAD"⟩,
  ⟨0x1EE5B, "ARABIC MATHEMATICAL TAILED GHAIN"⟩,
  ⟨0x1EE5D, "ARABIC MATHEMATICAL TAILED DOTLESS NOON"⟩,
  ⟨0x1EE5F, "ARABIC MATHEMATICAL TAILED DOTLESS QAF"⟩,
  ⟨0x1EE61, "ARABIC MATHEMATICAL STRETCHED BEHdJEEM"⟩,
  ⟨0x1EE64, "ARABIC MATHEMATICAL STRETCHED HEH"⟩,
  ⟨0x1EE67, "ARABIC MATHEMATICAL STRETCHED HAHdTAHdYEHdKAF"⟩,
  ⟨0x1EE6C, "ARABIC MATHEMATICAL STRETCHED MEEMdNOONdSEENdAINdFEHdSADdQAF"⟩,
  ⟨0x1EE74, "ARABIC MATHEMATICAL STRETCHED SHEENdTEHdTHEHdKHAH"⟩,
  ⟨0x1EE79, "ARABIC MATHEMATICAL STRETCHED DADdZAHdGHAINdDOTLESS BEH"⟩,
  ⟨0x1EE7E, "ARABIC MATHEMATICAL STRETCHED DOTLESS FEH"⟩,
  ⟨0x1EE80, "ARABIC MATHEMATICAL LOOPED ALEFdBEHdJEEMdDALdHEHdWAWdZAINdHAHdTAHdYEH"⟩,
  ⟨0x1EE8B, "ARABIC MATHEMATICAL LOOPED LAMdMEEMdNOONdSEENdAINdFEHdSADdQAFdREHdSHEENdTEHdTHEH"⟩,
  ⟨0x1EE97, "ARABIC MATHEMATICAL LOOPED KHAHdTHALdDADdZAHdGHAIN"⟩,
  ⟨0x1EEA1, "ARABIC MATHEMATICAL DOUBLE-STRUCK BEHeJEEMeDAL"⟩,
  ⟨0x1EEA5, "ARABIC MATHEMATICAL DOUBLE-STRUCK WAWeZAINeHAHeTAHeYEH"⟩,
  ⟨0x1EEAB, "ARABIC MATHEMATICAL DOUBLE-STRUCK LAMeMEEMeNOONeSEENeAINeFEHeSADeQAFeREHeSHEENeTEH"⟩,
  ⟨0x1EEB6, "ARABIC MATHEMATICAL DOUBLE-STRUCK THEHeKHAHeTHALeDADeZAHeGHAIN"⟩,
  ⟨0x1EEF0, "ARABIC MATHEMATICAL OPERATOR MEEM WITH HAH WITH TATWEELdHAH WITH DAL"⟩]

end Bindery.Text.CharName
