import Bindery.Text.CharName.Run
/-!
# Names of ancient scripts

The names from U+10000 to U+11FFF: scripts of the ancient world, and scripts of few writers.
-/
namespace Bindery.Text.CharName

def ancient : List Run := [
  ⟨0x10000, "LINEAR B SYLLABLE B008 AdB038 EdB028 IdB061 OdB010 UdB001 DAdB045 DEdB007 DIdB014 DO"⟩,
  ⟨0x10009, "LINEAR B SYLLABLE B051 DUdB057 JAdB046 JE"⟩,
  ⟨0x1000D, "LINEAR B SYLLABLE B036 JOdB065 JUdB077 KAdB044 KEdB067 KIdB070 KOdB081 KUdB080 MA"⟩,
  ⟨0x10015, "LINEAR B SYLLABLE B013 MEdB073 MIdB015 MOdB023 MUdB006 NAdB024 NEdB030 NIdB052 NO"⟩,
  ⟨0x1001D, "LINEAR B SYLLABLE B055 NUdB003 PAdB072 PEdB039 PIdB011 POdB050 PUdB016 QAdB078 QE"⟩,
  ⟨0x10025, "LINEAR B SYLLABLE B021 QIdB032 QO"⟩,
  ⟨0x10028, "LINEAR B SYLLABLE B060 RAdB027 REdB053 RIdB002 ROdB026 RUdB031 SAdB009 SEdB041 SI"⟩,
  ⟨0x10030, "LINEAR B SYLLABLE B012 SOdB058 SUdB059 TAdB004 TEdB037 TIdB005 TOdB069 TUdB054 WA"⟩,
  ⟨0x10038, "LINEAR B SYLLABLE B075 WEdB040 WIdB042 WO"⟩,
  ⟨0x1003C, "LINEAR B SYLLABLE B017 ZAdB074 ZE"⟩,
  ⟨0x1003F, "LINEAR B SYLLABLE B020 ZOdB025 A2dB043 A3dB085 AUdB071 DWEdB090 DWOdB048 NWA"⟩,
  ⟨0x10046, "LINEAR B SYLLABLE B029 PU2dB062 PTEdB076 RA2dB033 RA3dB068 RO2dB066 TA2dB087 TWE"⟩,
  ⟨0x1004D, "LINEAR B SYLLABLE B091 TWO"⟩,
  ⟨0x10050, "LINEAR B SYMBOL B018dB019dB022dB034dB047dB049dB056dB063dB064dB079dB082dB083dB086"⟩,
  ⟨0x1005D, "LINEAR B SYMBOL B089"⟩,
  ⟨0x10080, "LINEAR B IDEOGRAM B100 MANdB102 WOMANdB104 DEERdB105 EQUIDdB105F MAREdB105M STALLION"⟩,
  ⟨0x10086, "LINEAR B IDEOGRAM B106F EWEdB106M RAMdB107F SHE-GOATdB107M HE-GOATdB108F SOW"⟩,
  ⟨0x1008B, "LINEAR B IDEOGRAM B108M BOARdB109F COWdB109M BULLdB120 WHEATdB121 BARLEYdB122 OLIVE"⟩,
  ⟨0x10091, "LINEAR B IDEOGRAM B123 SPICEdB125 CYPERUScMONOGRAM B127 KAPOdB128 KANAKO"⟩,
  ⟨0x10095, "LINEAR B IDEOGRAM B130 OILdB131 WINEdB132cMONOGRAM B133 AREPAdB135 MERI"⟩,
  ⟨0x1009A, "LINEAR B IDEOGRAM B140 BRONZEdB141 GOLDdB142dB145 WOOLdB146dB150dB151 HORNdB152dB153"⟩,
  ⟨0x100A3, "LINEAR B IDEOGRAM B154cMONOGRAM B156 TURO2cIDEOGRAM B157dB158dB159 CLOTHdB160dB161"⟩,
  ⟨0x100AA, "LINEAR B IDEOGRAM B162 GARMENTdB163 ARMOURdB164dB165dB166dB167dB168dB169dB170dB171"⟩,
  ⟨0x100B4, "LINEAR B IDEOGRAM B172dB173 MONTHdB174dB176 TREEdB177dB178dB179dB180dB181dB182dB183"⟩,
  ⟨0x100BF, "LINEAR B IDEOGRAM B184dB185dB189dB190dB191 HELMETdB220 FOOTSTOOLdB225 BATHTUB"⟩,
  ⟨0x100C6, "LINEAR B IDEOGRAM B230 SPEARdB231 ARROWdB232dB233 SWORDdB234dB236"⟩,
  ⟨0x100CC, "LINEAR B IDEOGRAM B240 WHEELED CHARIOTdB241 CHARIOTdB242 CHARIOT FRAMEdB243 WHEEL"⟩,
  ⟨0x100D0, "LINEAR B IDEOGRAM B245dB246cMONOGRAM B247 DIPTEcIDEOGRAM B248dB249dB251dB252dB253"⟩,
  ⟨0x100D8, "LINEAR B IDEOGRAM B254 DARTdB255dB256dB257dB258dB259dVESSEL B155eB200eB201eB202eB203"⟩,
  ⟨0x100E3, "LINEAR B IDEOGRAM VESSEL B204eB205eB206eB207eB208eB209eB210eB211eB212eB213eB214eB215"⟩,
  ⟨0x100EF, "LINEAR B IDEOGRAM VESSEL B216eB217eB218eB219eB221eB222eB226eB227eB228eB229eB250eB305"⟩,
  ⟨0x10100, "AEGEAN WORD SEPARATOR LINEdDOTbCHECK MARK"⟩,
  ⟨0x10107, "AEGEAN NUMBER ONEcTWOcTHREEcFOURcFIVEcSIXcSEVENcEIGHTcNINEcTENcTWENTYcTHIRTYcFORTY"⟩,
  ⟨0x10114, "AEGEAN NUMBER FIFTYcSIXTYcSEVENTYcEIGHTYcNINETYcONE HUNDREDcTWO HUNDRED"⟩,
  ⟨0x1011B, "AEGEAN NUMBER THREE HUNDREDcFOUR HUNDREDcFIVE HUNDREDcSIX HUNDREDcSEVEN HUNDRED"⟩,
  ⟨0x10120, "AEGEAN NUMBER EIGHT HUNDREDcNINE HUNDREDcONE THOUSANDcTWO THOUSANDcTHREE THOUSAND"⟩,
  ⟨0x10125, "AEGEAN NUMBER FOUR THOUSANDcFIVE THOUSANDcSIX THOUSANDcSEVEN THOUSANDcEIGHT THOUSAND"⟩,
  ⟨0x1012A, "AEGEAN NUMBER NINE THOUSANDcTEN THOUSANDcTWENTY THOUSANDcTHIRTY THOUSAND"⟩,
  ⟨0x1012E, "AEGEAN NUMBER FORTY THOUSANDcFIFTY THOUSANDcSIXTY THOUSANDcSEVENTY THOUSAND"⟩,
  ⟨0x10132, "AEGEAN NUMBER EIGHTY THOUSANDcNINETY THOUSAND"⟩,
  ⟨0x10137, "AEGEAN WEIGHT BASE UNITcFIRST SUBUNITcSECOND SUBUNITcTHIRD SUBUNITcFOURTH SUBUNIT"⟩,
  ⟨0x1013C, "AEGEAN DRY MEASURE FIRST SUBUNITbLIQUID MEASURE FIRST SUBUNITbMEASURE SECOND SUBUNIT"⟩,
  ⟨0x1013F, "AEGEAN MEASURE THIRD SUBUNITaGREEK ACROPHONIC ATTIC ONE QUARTEReHALFeDRACHMAdFIVE"⟩,
  ⟨0x10144, "GREEK ACROPHONIC ATTIC FIFTYdFIVE HUNDREDeTHOUSANDdFIFTY THOUSANDdFIVE TALENTS"⟩,
  ⟨0x10149, "GREEK ACROPHONIC ATTIC TEN TALENTSdFIFTY TALENTSdONE HUNDRED TALENTS"⟩,
  ⟨0x1014C, "GREEK ACROPHONIC ATTIC FIVE HUNDRED TALENTSdONE THOUSAND TALENTS"⟩,
  ⟨0x1014E, "GREEK ACROPHONIC ATTIC FIVE THOUSAND TALENTSeSTATERSdTEN STATERSdFIFTY STATERS"⟩,
  ⟨0x10152, "GREEK ACROPHONIC ATTIC ONE HUNDRED STATERSdFIVE HUNDRED STATERSdONE THOUSAND STATERS"⟩,
  ⟨0x10155, "GREEK ACROPHONIC ATTIC TEN THOUSAND STATERSdFIFTY THOUSAND STATERSdTEN MNAS"⟩,
  ⟨0x10158, "GREEK ACROPHONIC HERAEUM ONE PLETHRONcTHESPIAN ONEcHERMIONIAN ONEcEPIDAUREAN TWO"⟩,
  ⟨0x1015C, "GREEK ACROPHONIC THESPIAN TWOcCYRENAIC TWO DRACHMAScEPIDAUREAN TWO DRACHMAS"⟩,
  ⟨0x1015F, "GREEK ACROPHONIC TROEZENIAN FIVEdTENdTEN ALTERNATE FORMcHERMIONIAN TENcMESSENIAN TEN"⟩,
  ⟨0x10164, "GREEK ACROPHONIC THESPIAN TENdTHIRTYcTROEZENIAN FIFTYdFIFTY ALTERNATE FORM"⟩,
  ⟨0x10168, "GREEK ACROPHONIC HERMIONIAN FIFTYcTHESPIAN FIFTYdONE HUNDREDdTHREE HUNDRED"⟩,
  ⟨0x1016C, "GREEK ACROPHONIC EPIDAUREAN FIVE HUNDREDcTROEZENIAN FIVE HUNDRED"⟩,
  ⟨0x1016E, "GREEK ACROPHONIC THESPIAN FIVE HUNDREDcCARYSTIAN FIVE HUNDREDcNAXIAN FIVE HUNDRED"⟩,
  ⟨0x10171, "GREEK ACROPHONIC THESPIAN ONE THOUSANDdFIVE THOUSANDcDELPHIC FIVE MNAS"⟩,
  ⟨0x10174, "GREEK ACROPHONIC STRATIAN FIFTY MNASbONE HALF SIGNdSIGN ALTERNATE FORM"⟩,
  ⟨0x10177, "GREEK TWO THIRDS SIGNbTHREE QUARTERS SIGNbYEAR SIGNbTALENT SIGNbDRACHMA SIGN"⟩,
  ⟨0x1017C, "GREEK OBOL SIGNbTWO OBOLS SIGNbTHREE OBOLS SIGNbFOUR OBOLS SIGNbFIVE OBOLS SIGN"⟩,
  ⟨0x10181, "GREEK METRETES SIGNbKYATHOS BASE SIGNbLITRA SIGNbOUNKIA SIGNbXESTES SIGNbARTABE SIGN"⟩,
  ⟨0x10187, "GREEK AROURA SIGNbGRAMMA SIGNbTRYBLION BASE SIGNbZERO SIGNbONE QUARTER SIGN"⟩,
  ⟨0x1018C, "GREEK SINUSOID SIGNbINDICTION SIGNaNOMISMA SIGN"⟩,
  ⟨0x10190, "ROMAN SEXTANS SIGNbUNCIA SIGNbSEMUNCIA SIGNbSEXTULA SIGNbDIMIDIA SEXTULA SIGN"⟩,
  ⟨0x10195, "ROMAN SILIQUA SIGNbDENARIUS SIGNbQUINARIUS SIGNbSESTERTIUS SIGNbDUPONDIUS SIGN"⟩,
  ⟨0x1019A, "ROMAN AS SIGNbCENTURIAL SIGNaASCIA SYMBOL"⟩,
  ⟨0x101A0, "GREEK SYMBOL TAU RHO"⟩,
  ⟨0x101D0, "PHAISTOS DISC SIGN PEDESTRIANdPLUMED HEADdTATTOOED HEADdCAPTIVEdCHILDdWOMANdHELMET"⟩,
  ⟨0x101D7, "PHAISTOS DISC SIGN GAUNTLETdTIARAdARROWdBOWdSHIELDdCLUBdMANACLESdMATTOCKdSAWdLID"⟩,
  ⟨0x101E1, "PHAISTOS DISC SIGN BOOMERANGdCARPENTRY PLANEdDOLIUMdCOMBdSLINGdCOLUMNdBEEHIVEdSHIP"⟩,
  ⟨0x101E9, "PHAISTOS DISC SIGN HORNdHIDEdBULLS LEGdCATdRAMdEAGLEdDOVEdTUNNYdBEEdPLANE TREEdVINE"⟩,
  ⟨0x101F4, "PHAISTOS DISC SIGN PAPYRUSdROSETTEdLILYdOX BACKdFLUTEdGRATERdSTRAINERdSMALL AXE"⟩,
  ⟨0x101FC, "PHAISTOS DISC SIGN WAVY BANDdCOMBINING OBLIQUE STROKE"⟩,
  ⟨0x10280, "LYCIAN LETTER AcEcBcBHcGcDcIcWcZcTHcJcKcQcLcMcNcMMcNNcUcPcKKcRcScTcTTcANcENcHcX"⟩,
  ⟨0x102A0, "CARIAN LETTER AcP2cDcLcUUUcRcLDcA2cQcBcMcOcD2cTcSHcSH2cScC-18cUcNNcXcNcTT2cPcSScIcE"⟩,
  ⟨0x102BB, "CARIAN LETTER UUUUcKcK2cNDcUUcGcG2cSTcST2cNGcIIcC-39cTTcUUU2cRRcMBcMB2cMB3cMB4cLD2"⟩,
  ⟨0x102CF, "CARIAN LETTER E2cUUU3"⟩,
  ⟨0x102E0, "COPTIC EPACT THOUSANDS MARKcDIGIT ONEdTWOdTHREEdFOURdFIVEdSIXdSEVENdEIGHTdNINE"⟩,
  ⟨0x102EA, "COPTIC EPACT NUMBER TENdTWENTYdTHIRTYdFORTYdFIFTYdSIXTYdSEVENTYdEIGHTYdNINETY"⟩,
  ⟨0x102F3, "COPTIC EPACT NUMBER ONE HUNDREDdTWO HUNDREDdTHREE HUNDREDdFOUR HUNDREDdFIVE HUNDRED"⟩,
  ⟨0x102F8, "COPTIC EPACT NUMBER SIX HUNDREDdSEVEN HUNDREDdEIGHT HUNDREDdNINE HUNDRED"⟩,
  ⟨0x10300, "OLD ITALIC LETTER AdBEdKEdDEdEdVEdZEdHEdTHEdIdKAdELdEMdENdESHdOdPEdSHEdKUdERdESdTEdU"⟩,
  ⟨0x10317, "OLD ITALIC LETTER EKSdPHEdKHEdEFdERSdCHEdIIdUUdESScNUMERAL ONEdFIVEdTENdFIFTY"⟩,
  ⟨0x1032D, "OLD ITALIC LETTER YEdNORTHERN TSEdSOUTHERN TSEaGOTHIC LETTER AHSAcBAIRKANcGIBAcDAGS"⟩,
  ⟨0x10334, "GOTHIC LETTER AIHVUScQAIRTHRAcIUJAcHAGLcTHIUTHcEIScKUSMAcLAGUScMANNAcNAUTHScJERcURUS"⟩,
  ⟨0x10340, "GOTHIC LETTER PAIRTHRAcNINETYcRAIDAcSAUILcTEIWScWINJAcFAIHUcIGGWScHWAIRcOTHAL"⟩,
  ⟨0x1034A, "GOTHIC LETTER NINE HUNDRED"⟩,
  ⟨0x10350, "OLD PERMIC LETTER ANdBURdGAIdDOIdEdZHOIdDZHOIdZATAdDZITAdIdKOKEdLEIdMENOEdNENOEdVOOI"⟩,
  ⟨0x1035F, "OLD PERMIC LETTER PEEIdREIdSIIdTAIdUdCHERYdSHOOIdSHCHOOIdYRYdYERUdOdOOdEFdHAdTSIU"⟩,
  ⟨0x1036E, "OLD PERMIC LETTER VERdYERdYERIdYATdIEdYUdYAdIAaCOMBINING OLD PERMIC LETTER ANeDOI"⟩,
  ⟨0x10378, "COMBINING OLD PERMIC LETTER ZATAeNENOEeSII"⟩,
  ⟨0x10380, "UGARITIC LETTER ALPAcBETAcGAMLAcKHAcDELTAcHOcWOcZETAcHOTAcTETcYODcKAFcSHINcLAMDAcMEM"⟩,
  ⟨0x1038F, "UGARITIC LETTER DHALcNUNcZUcSAMKAcAINcPUcSADEcQOPAcRASHAcTHANNAcGHAINcTOcIcUcSSU"⟩,
  ⟨0x1039F, "UGARITIC WORD DIVIDERaOLD PERSIAN SIGN AdIdUdKAdKUdGAdGUdXAdCAdJAdJIdTAdTUdDAdDIdDU"⟩,
  ⟨0x103B0, "OLD PERSIAN SIGN THAdPAdBAdFAdNAdNUdMAdMIdMUdYAdVAdVIdRAdRUdLAdSAdZAdSHAdSSAdHA"⟩,
  ⟨0x103C8, "OLD PERSIAN SIGN AURAMAZDAAdAURAMAZDAA-2dAURAMAZDAAHAdXSHAAYATHIYAdDAHYAAUSH"⟩,
  ⟨0x103CD, "OLD PERSIAN SIGN DAHYAAUSH-2dBAGAdBUUMISHcWORD DIVIDERcNUMBER ONEdTWOdTENdTWENTY"⟩,
  ⟨0x103D5, "OLD PERSIAN NUMBER HUNDRED"⟩,
  ⟨0x10400, "DESERET CAPITAL LETTER LONG IeEeAeAHeOeOOdSHORT IeEeAeAHeOeOOdAYdOWdWUdYEEdHdPEEdBEE"⟩,
  ⟨0x10413, "DESERET CAPITAL LETTER TEEdDEEdCHEEdJEEdKAYdGAYdEFdVEEdETHdTHEEdESdZEEdESHdZHEEdER"⟩,
  ⟨0x10422, "DESERET CAPITAL LETTER ELdEMdENdENGdOIdEWbSMALL LETTER LONG IeEeAeAHeOeOOdSHORT IeE"⟩,
  ⟨0x10430, "DESERET SMALL LETTER SHORT AeAHeOeOOdAYdOWdWUdYEEdHdPEEdBEEdTEEdDEEdCHEEdJEEdKAYdGAY"⟩,
  ⟨0x10441, "DESERET SMALL LETTER EFdVEEdETHdTHEEdESdZEEdESHdZHEEdERdELdEMdENdENGdOIdEW"⟩,
  ⟨0x10450, "SHAVIAN LETTER PEEPcTOTcKICKcFEEcTHIGHcSOcSUREcCHURCHcYEAcHUNGcBIBcDEADcGAGcVOWcTHEY"⟩,
  ⟨0x1045F, "SHAVIAN LETTER ZOOcMEASUREcJUDGEcWOEcHA-HAcLOLLcMIMEcIFcEGGcASHcADOcONcWOOLcOUTcAH"⟩,
  ⟨0x1046E, "SHAVIAN LETTER ROARcNUNcEATcAGEcICEcUPcOAKcOOZEcOILcAWEcAREcORcAIRcERRcARRAYcEARcIAN"⟩,
  ⟨0x1047F, "SHAVIAN LETTER YEWaOSMANYA LETTER ALEFcBAcTAcJAcXAcKHAcDEELcRAcSAcSHIINcDHAcCAYNcGA"⟩,
  ⟨0x1048D, "OSMANYA LETTER FAcQAAFcKAAFcLAANcMIINcNUUNcWAWcHAcYAcAcEcIcOcUcAAcEEcOO"⟩,
  ⟨0x104A0, "OSMANYA DIGIT ZEROcONEcTWOcTHREEcFOURcFIVEcSIXcSEVENcEIGHTcNINE"⟩,
  ⟨0x104B0, "OSAGE CAPITAL LETTER AdAIdAINdAHdBRAdCHAdEHCHAdEdEINdHAdHYAdIdKAdEHKAdKYAdLAdMAdNAdO"⟩,
  ⟨0x104C3, "OSAGE CAPITAL LETTER OINdPAdEHPAdSAdSHAdTAdEHTAdTSAdEHTSAdTSHAdDHAdUdWAdKHAdGHAdZA"⟩,
  ⟨0x104D3, "OSAGE CAPITAL LETTER ZHA"⟩,
  ⟨0x104D8, "OSAGE SMALL LETTER AdAIdAINdAHdBRAdCHAdEHCHAdEdEINdHAdHYAdIdKAdEHKAdKYAdLAdMAdNAdO"⟩,
  ⟨0x104EB, "OSAGE SMALL LETTER OINdPAdEHPAdSAdSHAdTAdEHTAdTSAdEHTSAdTSHAdDHAdUdWAdKHAdGHAdZAdZHA"⟩,
  ⟨0x10500, "ELBASAN LETTER AcBEcCEcCHEcDEcNDEcDHEcEIcEcFEcGEcGJEcHEcIcJEcKEcLEcLLEcMEcNEcNAcNJE"⟩,
  ⟨0x10516, "ELBASAN LETTER OcPEcQEcREcRREcSEcSHEcTEcTHEcUcVEcXEcYcZEcZHEcGHEcGHAMMAcKHE"⟩,
  ⟨0x10530, "CAUCASIAN ALBANIAN LETTER ALTdBETdGIMdDATdEBdZARLdEYNdZHILdTASdCHAdYOWDdZHAdIRBdSHA"⟩,
  ⟨0x1053E, "CAUCASIAN ALBANIAN LETTER LANdINYAdXEYNdDYANdCARdJHOXdKARdLYITdHEYTdQAYdAORdCHOYdCHI"⟩,
  ⟨0x1054B, "CAUCASIAN ALBANIAN LETTER CYAYdMAQdQARdNOWCdDZYAYdSHAKdJAYNdONdTYAYdFAMdDZAYdCHAT"⟩,
  ⟨0x10557, "CAUCASIAN ALBANIAN LETTER PENdGHEYSdRATdSEYKdVEYZdTIWRdSHOYdIWNdCYAWdCAYNdYAYDdPIWR"⟩,
  ⟨0x10563, "CAUCASIAN ALBANIAN LETTER KIW"⟩,
  ⟨0x1056F, "CAUCASIAN ALBANIAN CITATION MARKaVITHKUQI CAPITAL LETTER AdBBEdBEdCEdCHEdDEdDHEdEIdE"⟩,
  ⟨0x10579, "VITHKUQI CAPITAL LETTER FEdGA"⟩,
  ⟨0x1057C, "VITHKUQI CAPITAL LETTER HAdHHAdIdIJEdJEdKAdLAdLLAdMEdNEdNJEdOdPEdQAdRE"⟩,
  ⟨0x1058C, "VITHKUQI CAPITAL LETTER SEdSHEdTEdTHEdUdVEdXE"⟩,
  ⟨0x10594, "VITHKUQI CAPITAL LETTER YdZE"⟩,
  ⟨0x10597, "VITHKUQI SMALL LETTER AdBBEdBEdCEdCHEdDEdDHEdEIdEdFEdGA"⟩,
  ⟨0x105A3, "VITHKUQI SMALL LETTER HAdHHAdIdIJEdJEdKAdLAdLLAdMEdNEdNJEdOdPEdQAdRE"⟩,
  ⟨0x105B3, "VITHKUQI SMALL LETTER SEdSHEdTEdTHEdUdVEdXE"⟩,
  ⟨0x105BB, "VITHKUQI SMALL LETTER YdZE"⟩,
  ⟨0x10600, "LINEAR A SIGN AB001dAB002dAB003dAB004dAB005dAB006dAB007dAB008dAB009dAB010dAB011"⟩,
  ⟨0x1060B, "LINEAR A SIGN AB013dAB016dAB017dAB020dAB021dAB021FdAB021MdAB022dAB022FdAB022MdAB023"⟩,
  ⟨0x10616, "LINEAR A SIGN AB023MdAB024dAB026dAB027dAB028dA028BdAB029dAB030dAB031dAB034dAB037"⟩,
  ⟨0x10621, "LINEAR A SIGN AB038dAB039dAB040dAB041dAB044dAB045dAB046dAB047dAB048dAB049dAB050"⟩,
  ⟨0x1062C, "LINEAR A SIGN AB051dAB053dAB054dAB055dAB056dAB057dAB058dAB059dAB060dAB061dAB065"⟩,
  ⟨0x10637, "LINEAR A SIGN AB066dAB067dAB069dAB070dAB073dAB074dAB076dAB077dAB078dAB079dAB080"⟩,
  ⟨0x10642, "LINEAR A SIGN AB081dAB082dAB085dAB086dAB087dA100-102dAB118dAB120dA120BdAB122dAB123"⟩,
  ⟨0x1064D, "LINEAR A SIGN AB131AdAB131BdA131CdAB164dAB171dAB180dAB188dAB191dA301dA302dA303dA304"⟩,
  ⟨0x10659, "LINEAR A SIGN A305dA306dA307dA308dA309AdA309BdA309CdA310dA311dA312dA313AdA313BdA313C"⟩,
  ⟨0x10666, "LINEAR A SIGN A314dA315dA316dA317dA318dA319dA320dA321dA322dA323dA324dA325dA326dA327"⟩,
  ⟨0x10674, "LINEAR A SIGN A328dA329dA330dA331dA332dA333dA334dA335dA336dA337dA338dA339dA340dA341"⟩,
  ⟨0x10682, "LINEAR A SIGN A342dA343dA344dA345dA346dA347dA348dA349dA350dA351dA352dA353dA354dA355"⟩,
  ⟨0x10690, "LINEAR A SIGN A356dA357dA358dA359dA360dA361dA362dA363dA364dA365dA366dA367dA368dA369"⟩,
  ⟨0x1069E, "LINEAR A SIGN A370dA371dA400-VASdA401-VASdA402-VASdA403-VASdA404-VASdA405-VAS"⟩,
  ⟨0x106A6, "LINEAR A SIGN A406-VASdA407-VASdA408-VASdA409-VASdA410-VASdA411-VASdA412-VAS"⟩,
  ⟨0x106AD, "LINEAR A SIGN A413-VASdA414-VASdA415-VASdA416-VASdA417-VASdA418-VASdA501dA502dA503"⟩,
  ⟨0x106B6, "LINEAR A SIGN A504dA505dA506dA508dA509dA510dA511dA512dA513dA515dA516dA520dA521dA523"⟩,
  ⟨0x106C4, "LINEAR A SIGN A524dA525dA526dA527dA528dA529dA530dA531dA532dA534dA535dA536dA537dA538"⟩,
  ⟨0x106D2, "LINEAR A SIGN A539dA540dA541dA542dA545dA547dA548dA549dA550dA551dA552dA553dA554dA555"⟩,
  ⟨0x106E0, "LINEAR A SIGN A556dA557dA559dA563dA564dA565dA566dA568dA569dA570dA571dA572dA573dA574"⟩,
  ⟨0x106EE, "LINEAR A SIGN A575dA576dA577dA578dA579dA580dA581dA582dA583dA584dA585dA586dA587dA588"⟩,
  ⟨0x106FC, "LINEAR A SIGN A589dA591dA592dA594dA595dA596dA598dA600dA601dA602dA603dA604dA606dA608"⟩,
  ⟨0x1070A, "LINEAR A SIGN A609dA610dA611dA612dA613dA614dA615dA616dA617dA618dA619dA620dA621dA622"⟩,
  ⟨0x10718, "LINEAR A SIGN A623dA624dA626dA627dA628dA629dA634dA637dA638dA640dA642dA643dA644dA645"⟩,
  ⟨0x10726, "LINEAR A SIGN A646dA648dA649dA651dA652dA653dA654dA655dA656dA657dA658dA659dA660dA661"⟩,
  ⟨0x10734, "LINEAR A SIGN A662dA663dA664"⟩,
  ⟨0x10740, "LINEAR A SIGN A701 AdA702 BdA703 DdA704 EdA705 FdA706 HdA707 JdA708 KdA709 L"⟩,
  ⟨0x10749, "LINEAR A SIGN A709-2 L2e3 L3e4 L4e6 L6dA710 WdA711 XdA712 YdA713 OMEGAdA714 ABB"⟩,
  ⟨0x10752, "LINEAR A SIGN A715 BBdA717 DDdA726 EYYYdA732 JE"⟩,
  ⟨0x10760, "LINEAR A SIGN A800dA801dA802dA803dA804dA805dA806dA807"⟩,
  ⟨0x10780, "MODIFIER LETTER SMALL CAPITAL AAcSUPERSCRIPT TRIANGULAR COLONdHALF TRIANGULAR COLON"⟩,
  ⟨0x10783, "MODIFIER LETTER SMALL AEdCAPITAL BdB WITH HOOK"⟩,
  ⟨0x10787, "MODIFIER LETTER SMALL DZ DIGRAPHeDIGRAPH WITH RETROFLEX HOOKgCURLdDEZH DIGRAPH"⟩,
  ⟨0x1078B, "MODIFIER LETTER SMALL D WITH TAILfHOOKfHOOK AND TAILdREVERSED E"⟩,
  ⟨0x1078F, "MODIFIER LETTER SMALL CLOSED REVERSED OPEN EdFENG DIGRAPHdRAMS HORNdCAPITAL G"⟩,
  ⟨0x10793, "MODIFIER LETTER SMALL G WITH HOOKdCAPITAL G WITH HOOKdH WITH STROKEdCAPITAL H"⟩,
  ⟨0x10797, "MODIFIER LETTER SMALL HENG WITH HOOKdDOTLESS J WITH STROKE AND HOOKdLS DIGRAPH"⟩,
  ⟨0x1079A, "MODIFIER LETTER SMALL LZ DIGRAPHdL WITH BELTdCAPITAL L WITH BELT"⟩,
  ⟨0x1079D, "MODIFIER LETTER SMALL L WITH RETROFLEX HOOK AND BELTdLEZHdLEZH WITH RETROFLEX HOOK"⟩,
  ⟨0x107A0, "MODIFIER LETTER SMALL TURNED YeY WITH BELTdO WITH STROKEdCAPITAL OEdCLOSED OMEGAdQ"⟩,
  ⟨0x107A6, "MODIFIER LETTER SMALL TURNED R WITH LONG LEGhLEG AND RETROFLEX HOOKdR WITH TAIL"⟩,
  ⟨0x107A9, "MODIFIER LETTER SMALL R WITH FISHHOOKdCAPITAL RdTC DIGRAPH WITH CURLdTS DIGRAPH"⟩,
  ⟨0x107AD, "MODIFIER LETTER SMALL TS DIGRAPH WITH RETROFLEX HOOKdTESH DIGRAPH"⟩,
  ⟨0x107AF, "MODIFIER LETTER SMALL T WITH RETROFLEX HOOKdV WITH RIGHT HOOK"⟩,
  ⟨0x107B2, "MODIFIER LETTER SMALL CAPITAL YcGLOTTAL STOP WITH STROKE"⟩,
  ⟨0x107B4, "MODIFIER LETTER REVERSED GLOTTAL STOP WITH STROKEcBILABIAL CLICKcDENTAL CLICK"⟩,
  ⟨0x107B7, "MODIFIER LETTER LATERAL CLICKcALVEOLAR CLICKcRETROFLEX CLICK WITH RETROFLEX HOOK"⟩,
  ⟨0x107BA, "MODIFIER LETTER SMALL S WITH CURL"⟩,
  ⟨0x10800, "CYPRIOT SYLLABLE AcEcIcOcUcJA"⟩,
  ⟨0x10808, "CYPRIOT SYLLABLE JO"⟩,
  ⟨0x1080A, "CYPRIOT SYLLABLE KAcKEcKIcKOcKUcLAcLEcLIcLOcLUcMAcMEcMIcMOcMUcNAcNEcNIcNOcNUcPAcPE"⟩,
  ⟨0x10820, "CYPRIOT SYLLABLE PIcPOcPUcRAcREcRIcROcRUcSAcSEcSIcSOcSUcTAcTEcTIcTOcTUcWAcWEcWIcWO"⟩,
  ⟨0x10837, "CYPRIOT SYLLABLE XAcXE"⟩,
  ⟨0x1083C, "CYPRIOT SYLLABLE ZA"⟩,
  ⟨0x1083F, "CYPRIOT SYLLABLE ZOaIMPERIAL ARAMAIC LETTER ALEPHdBETHdGIMELdDALETHdHEdWAWdZAYIN"⟩,
  ⟨0x10847, "IMPERIAL ARAMAIC LETTER HETHdTETHdYODHdKAPHdLAMEDHdMEMdNUNdSAMEKHdAYINdPEdSADHEdQOPH"⟩,
  ⟨0x10853, "IMPERIAL ARAMAIC LETTER RESHdSHINdTAW"⟩,
  ⟨0x10857, "IMPERIAL ARAMAIC SECTION SIGNcNUMBER ONEdTWOdTHREEdTENdTWENTYdONE HUNDREDeTHOUSAND"⟩,
  ⟨0x1085F, "IMPERIAL ARAMAIC NUMBER TEN THOUSANDaPALMYRENE LETTER ALEPHcBETHcGIMELcDALETHcHEcWAW"⟩,
  ⟨0x10866, "PALMYRENE LETTER ZAYINcHETHcTETHcYODHcKAPHcLAMEDHcMEMcFINAL NUNcNUNcSAMEKHcAYINcPE"⟩,
  ⟨0x10872, "PALMYRENE LETTER SADHEcQOPHcRESHcSHINcTAWbLEFT-POINTING FLEURON"⟩,
  ⟨0x10878, "PALMYRENE RIGHT-POINTING FLEURONbNUMBER ONEcTWOcTHREEcFOURcFIVEcTENcTWENTY"⟩,
  ⟨0x10880, "NABATAEAN LETTER FINAL ALEPHcALEPHcFINAL BETHcBETHcGIMELcDALETHcFINAL HEcHEcWAW"⟩,
  ⟨0x10889, "NABATAEAN LETTER ZAYINcHETHcTETHcFINAL YODHcYODHcFINAL KAPHcKAPHcFINAL LAMEDHcLAMEDH"⟩,
  ⟨0x10892, "NABATAEAN LETTER FINAL MEMcMEMcFINAL NUNcNUNcSAMEKHcAYINcPEcSADHEcQOPHcRESH"⟩,
  ⟨0x1089C, "NABATAEAN LETTER FINAL SHINcSHINcTAW"⟩,
  ⟨0x108A7, "NABATAEAN NUMBER ONEcTWOcTHREEcFOURbCRUCIFORM NUMBER FOURbNUMBER FIVEcTENcTWENTY"⟩,
  ⟨0x108AF, "NABATAEAN NUMBER ONE HUNDRED"⟩,
  ⟨0x108E0, "HATRAN LETTER ALEPHcBETHcGIMELcDALETH-RESHcHEcWAWcZAYNcHETHcTETHcYODHcKAPHcLAMEDH"⟩,
  ⟨0x108EC, "HATRAN LETTER MEMcNUNcSAMEKHcAYNcPEcSADHEcQOPH"⟩,
  ⟨0x108F4, "HATRAN LETTER SHINcTAW"⟩,
  ⟨0x108FB, "HATRAN NUMBER ONEcFIVEcTENcTWENTYcONE HUNDREDaPHOENICIAN LETTER ALFcBETcGAMLcDELTcHE"⟩,
  ⟨0x10905, "PHOENICIAN LETTER WAUcZAIcHETcTETcYODcKAFcLAMDcMEMcNUNcSEMKcAINcPEcSADEcQOFcROSH"⟩,
  ⟨0x10914, "PHOENICIAN LETTER SHINcTAUbNUMBER ONEcTENcTWENTYcONE HUNDREDcTWOcTHREE"⟩,
  ⟨0x1091F, "PHOENICIAN WORD SEPARATORaLYDIAN LETTER AcBcGcDcEcVcIcYcKcLcMcNcOcRcSScTcUcFcQcScTT"⟩,
  ⟨0x10935, "LYDIAN LETTER ANcENcLYcNNcC"⟩,
  ⟨0x1093F, "LYDIAN TRIANGULAR MARK"⟩,
  ⟨0x10980, "MEROITIC HIEROGLYPHIC LETTER AdEdIdOdYAdWAdBAdBA-2dPAdMAdNAdNA-2dNEdNE-2dRAdRA-2dLA"⟩,
  ⟨0x10991, "MEROITIC HIEROGLYPHIC LETTER KHAdHHAdSAdSA-2dSEdKAdQAdTAdTA-2dTEdTE-2dTOdDA"⟩,
  ⟨0x1099E, "MEROITIC HIEROGLYPHIC SYMBOL VIDJdVIDJ-2bCURSIVE LETTER AdEdIdOdYAdWAdBAdPAdMAdNAdNE"⟩,
  ⟨0x109AB, "MEROITIC CURSIVE LETTER RAdLAdKHAdHHAdSAdARCHAIC SAdSEdKAdQAdTAdTEdTOdDA"⟩,
  ⟨0x109BC, "MEROITIC CURSIVE FRACTION ELEVEN TWELFTHSdONE HALFcLOGOGRAM RMTdIMNcNUMBER ONEdTWO"⟩,
  ⟨0x109C2, "MEROITIC CURSIVE NUMBER THREEdFOURdFIVEdSIXdSEVENdEIGHTdNINEdTENdTWENTYdTHIRTYdFORTY"⟩,
  ⟨0x109CD, "MEROITIC CURSIVE NUMBER FIFTYdSIXTYdSEVENTY"⟩,
  ⟨0x109D2, "MEROITIC CURSIVE NUMBER ONE HUNDREDdTWO HUNDREDdTHREE HUNDREDdFOUR HUNDRED"⟩,
  ⟨0x109D6, "MEROITIC CURSIVE NUMBER FIVE HUNDREDdSIX HUNDREDdSEVEN HUNDREDdEIGHT HUNDRED"⟩,
  ⟨0x109DA, "MEROITIC CURSIVE NUMBER NINE HUNDREDdONE THOUSANDdTWO THOUSANDdTHREE THOUSAND"⟩,
  ⟨0x109DE, "MEROITIC CURSIVE NUMBER FOUR THOUSANDdFIVE THOUSANDdSIX THOUSANDdSEVEN THOUSAND"⟩,
  ⟨0x109E2, "MEROITIC CURSIVE NUMBER EIGHT THOUSANDdNINE THOUSANDdTEN THOUSANDdTWENTY THOUSAND"⟩,
  ⟨0x109E6, "MEROITIC CURSIVE NUMBER THIRTY THOUSANDdFORTY THOUSANDdFIFTY THOUSANDdSIXTY THOUSAND"⟩,
  ⟨0x109EA, "MEROITIC CURSIVE NUMBER SEVENTY THOUSANDdEIGHTY THOUSANDdNINETY THOUSAND"⟩,
  ⟨0x109ED, "MEROITIC CURSIVE NUMBER ONE HUNDRED THOUSANDdTWO HUNDRED THOUSAND"⟩,
  ⟨0x109EF, "MEROITIC CURSIVE NUMBER THREE HUNDRED THOUSANDdFOUR HUNDRED THOUSAND"⟩,
  ⟨0x109F1, "MEROITIC CURSIVE NUMBER FIVE HUNDRED THOUSANDdSIX HUNDRED THOUSAND"⟩,
  ⟨0x109F3, "MEROITIC CURSIVE NUMBER SEVEN HUNDRED THOUSANDdEIGHT HUNDRED THOUSAND"⟩,
  ⟨0x109F5, "MEROITIC CURSIVE NUMBER NINE HUNDRED THOUSANDcFRACTION ONE TWELFTHdTWO TWELFTHS"⟩,
  ⟨0x109F8, "MEROITIC CURSIVE FRACTION THREE TWELFTHSdFOUR TWELFTHSdFIVE TWELFTHSdSIX TWELFTHS"⟩,
  ⟨0x109FC, "MEROITIC CURSIVE FRACTION SEVEN TWELFTHSdEIGHT TWELFTHSdNINE TWELFTHSdTEN TWELFTHS"⟩,
  ⟨0x10A00, "KHAROSHTHI LETTER AbVOWEL SIGN IdUdVOCALIC R"⟩,
  ⟨0x10A05, "KHAROSHTHI VOWEL SIGN EdO"⟩,
  ⟨0x10A0C, "KHAROSHTHI VOWEL LENGTH MARKbSIGN DOUBLE RING BELOWcANUSVARAcVISARGAbLETTER KAcKHA"⟩,
  ⟨0x10A12, "KHAROSHTHI LETTER GAcGHA"⟩,
  ⟨0x10A15, "KHAROSHTHI LETTER CAcCHAcJA"⟩,
  ⟨0x10A19, "KHAROSHTHI LETTER NYAcTTAcTTHAcDDAcDDHAcNNAcTAcTHAcDAcDHAcNAcPAcPHAcBAcBHAcMAcYAcRA"⟩,
  ⟨0x10A2B, "KHAROSHTHI LETTER LAcVAcSHAcSSAcSAcZAcHAcKKAcTTTHAcTTTAcVHA"⟩,
  ⟨0x10A38, "KHAROSHTHI SIGN BAR ABOVEcCAUDAcDOT BELOW"⟩,
  ⟨0x10A3F, "KHAROSHTHI VIRAMAbDIGIT ONEcTWOcTHREEcFOURbNUMBER TENcTWENTYcONE HUNDREDdTHOUSAND"⟩,
  ⟨0x10A48, "KHAROSHTHI FRACTION ONE HALF"⟩,
  ⟨0x10A50, "KHAROSHTHI PUNCTUATION DOTcSMALL CIRCLEcCIRCLEcCRESCENT BARcMANGALAMcLOTUScDANDA"⟩,
  ⟨0x10A57, "KHAROSHTHI PUNCTUATION DOUBLE DANDAcLINES"⟩,
  ⟨0x10A60, "OLD SOUTH ARABIAN LETTER HEeLAMEDHeHETHeMEMeQOPHeWAWeSHINeRESHeBETHeTAWeSATeKAPHeNUN"⟩,
  ⟨0x10A6D, "OLD SOUTH ARABIAN LETTER KHETHeSADHEeSAMEKHeFEeALEFeAYNeDHADHEeGIMELeDALETHeGHAYN"⟩,
  ⟨0x10A77, "OLD SOUTH ARABIAN LETTER TETHeZAYNeDHALETHeYODHeTHAWeTHETHdNUMBER ONEeFIFTY"⟩,
  ⟨0x10A7F, "OLD SOUTH ARABIAN NUMERIC INDICATORbNORTH ARABIAN LETTER HEHeLAMeHAHeMEEMeQAFeWAW"⟩,
  ⟨0x10A86, "OLD NORTH ARABIAN LETTER ES-2eREHeBEHeTEHeES-1eKAFeNOONeKHAHeSADeES-3eFEHeALEFeAIN"⟩,
  ⟨0x10A93, "OLD NORTH ARABIAN LETTER DADeGEEMeDALeGHAINeTAHeZAINeTHALeYEHeTHEHeZAHdNUMBER ONE"⟩,
  ⟨0x10A9E, "OLD NORTH ARABIAN NUMBER TENeTWENTY"⟩,
  ⟨0x10AC0, "MANICHAEAN LETTER ALEPHcBETHcBHETHcGIMELcGHIMELcDALETHcHEcWAWbSIGN UDbLETTER ZAYIN"⟩,
  ⟨0x10ACA, "MANICHAEAN LETTER ZHAYINcJAYINcJHAYINcHETHcTETHcYODHcKAPHcXAPHcKHAPHcLAMEDHcDHAMEDH"⟩,
  ⟨0x10AD5, "MANICHAEAN LETTER THAMEDHcMEMcNUNcSAMEKHcAYINcAAYINcPEcFEcSADHEcQOPHcXOPHcQHOPHcRESH"⟩,
  ⟨0x10AE2, "MANICHAEAN LETTER SHINcSSHINcTAWbABBREVIATION MARK ABOVEdBELOW"⟩,
  ⟨0x10AEB, "MANICHAEAN NUMBER ONEcFIVEcTENcTWENTYcONE HUNDREDbPUNCTUATION STARcFLEURON"⟩,
  ⟨0x10AF2, "MANICHAEAN PUNCTUATION DOUBLE DOT WITHIN DOTcDOT WITHIN DOTcDOTcTWO DOTScLINE FILLER"⟩,
  ⟨0x10B00, "AVESTAN LETTER AcAAcAOcAAOcANcAANcAEcAEEcEcEEcOcOOcIcIIcUcUUcKEcXEcXYEcXVEcGEcGGE"⟩,
  ⟨0x10B16, "AVESTAN LETTER GHEcCEcJEcTEcTHEcDEcDHEcTTEcPEcFEcBEcBHEcNGEcNGYEcNGVEcNEcNYEcNNEcME"⟩,
  ⟨0x10B29, "AVESTAN LETTER HMEcYYEcYEcVEcREcLEcSEcZEcSHEcZHEcSHYEcSSHEcHE"⟩,
  ⟨0x10B39, "AVESTAN ABBREVIATION MARKaTINY TWO DOTS OVER ONE DOT PUNCTUATION"⟩,
  ⟨0x10B3B, "SMALL TWO DOTS OVER ONE DOT PUNCTUATIONaLARGE TWO DOTS OVER ONE DOT PUNCTUATION"⟩,
  ⟨0x10B3D, "LARGE ONE DOT OVER TWO DOTS PUNCTUATIONbTWO RINGS OVER ONE RING PUNCTUATION"⟩,
  ⟨0x10B3F, "LARGE ONE RING OVER TWO RINGS PUNCTUATIONaINSCRIPTIONAL PARTHIAN LETTER ALEPHdBETH"⟩,
  ⟨0x10B42, "INSCRIPTIONAL PARTHIAN LETTER GIMELdDALETHdHEdWAWdZAYINdHETHdTETHdYODHdKAPHdLAMEDH"⟩,
  ⟨0x10B4C, "INSCRIPTIONAL PARTHIAN LETTER MEMdNUNdSAMEKHdAYINdPEdSADHEdQOPHdRESHdSHINdTAW"⟩,
  ⟨0x10B58, "INSCRIPTIONAL PARTHIAN NUMBER ONEdTWOdTHREEdFOURdTENdTWENTYdONE HUNDREDeTHOUSAND"⟩,
  ⟨0x10B60, "INSCRIPTIONAL PAHLAVI LETTER ALEPHdBETHdGIMELdDALETHdHEdWAW-AYIN-RESHdZAYINdHETH"⟩,
  ⟨0x10B68, "INSCRIPTIONAL PAHLAVI LETTER TETHdYODHdKAPHdLAMEDHdMEM-QOPHdNUNdSAMEKHdPEdSADHEdSHIN"⟩,
  ⟨0x10B72, "INSCRIPTIONAL PAHLAVI LETTER TAW"⟩,
  ⟨0x10B78, "INSCRIPTIONAL PAHLAVI NUMBER ONEdTWOdTHREEdFOURdTENdTWENTYdONE HUNDREDeTHOUSAND"⟩,
  ⟨0x10B80, "PSALTER PAHLAVI LETTER ALEPHdBETHdGIMELdDALETHdHEdWAW-AYIN-RESHdZAYINdHETHdYODHdKAPH"⟩,
  ⟨0x10B8A, "PSALTER PAHLAVI LETTER LAMEDHdMEM-QOPHdNUNdSAMEKHdPEdSADHEdSHINdTAW"⟩,
  ⟨0x10B99, "PSALTER PAHLAVI SECTION MARKcTURNED SECTION MARKcFOUR DOTS WITH CROSSfDOT"⟩,
  ⟨0x10BA9, "PSALTER PAHLAVI NUMBER ONEdTWOdTHREEdFOURdTENdTWENTYdONE HUNDRED"⟩,
  ⟨0x10C00, "OLD TURKIC LETTER ORKHON AdYENISEI AeAEdORKHON IdYENISEI IeEdORKHON OeOEdYENISEI OE"⟩,
  ⟨0x10C09, "OLD TURKIC LETTER ORKHON ABdYENISEI ABdORKHON AEBdYENISEI AEBdORKHON AGdYENISEI AG"⟩,
  ⟨0x10C0F, "OLD TURKIC LETTER ORKHON AEGdYENISEI AEGdORKHON ADdYENISEI ADdORKHON AEDeEZ"⟩,
  ⟨0x10C15, "OLD TURKIC LETTER YENISEI EZdORKHON AYdYENISEI AYdORKHON AEYdYENISEI AEYdORKHON AEK"⟩,
  ⟨0x10C1B, "OLD TURKIC LETTER YENISEI AEKdORKHON OEKdYENISEI OEKdORKHON ALdYENISEI ALdORKHON AEL"⟩,
  ⟨0x10C21, "OLD TURKIC LETTER ORKHON ELTeEMeANeAENdYENISEI AENdORKHON ENTdYENISEI ENTdORKHON ENC"⟩,
  ⟨0x10C29, "OLD TURKIC LETTER YENISEI ENCdORKHON ENYdYENISEI ENYeANGdORKHON ENGdYENISEI AENG"⟩,
  ⟨0x10C2F, "OLD TURKIC LETTER ORKHON EPeOPeICeECdYENISEI ECdORKHON AQdYENISEI AQdORKHON IQ"⟩,
  ⟨0x10C37, "OLD TURKIC LETTER YENISEI IQdORKHON OQdYENISEI OQdORKHON ARdYENISEI ARdORKHON AEReAS"⟩,
  ⟨0x10C3E, "OLD TURKIC LETTER ORKHON AESeASHdYENISEI ASHdORKHON ESHdYENISEI ESHdORKHON AT"⟩,
  ⟨0x10C44, "OLD TURKIC LETTER YENISEI ATdORKHON AETdYENISEI AETdORKHON OTeBASH"⟩,
  ⟨0x10C80, "OLD HUNGARIAN CAPITAL LETTER AeAAeEBeAMBeECeENCeECSeEDeANDeEeCLOSE EeEEeEFeEGeEGYeEH"⟩,
  ⟨0x10C90, "OLD HUNGARIAN CAPITAL LETTER IeIIeEJeEKeAKeUNKeELeELYeEMeENeENYeOeOOeNIKOLSBURG OE"⟩,
  ⟨0x10C9E, "OLD HUNGARIAN CAPITAL LETTER RUDIMENTA OEeOEEeEPeEMPeEReSHORT EReESeESZeETeENTeETY"⟩,
  ⟨0x10CA9, "OLD HUNGARIAN CAPITAL LETTER ECHeUeUUeNIKOLSBURG UEeRUDIMENTA UEeEVeEZeEZS"⟩,
  ⟨0x10CB1, "OLD HUNGARIAN CAPITAL LETTER ENT-SHAPED SIGNeUS"⟩,
  ⟨0x10CC0, "OLD HUNGARIAN SMALL LETTER AeAAeEBeAMBeECeENCeECSeEDeANDeEeCLOSE EeEEeEFeEGeEGYeEHeI"⟩,
  ⟨0x10CD1, "OLD HUNGARIAN SMALL LETTER IIeEJeEKeAKeUNKeELeELYeEMeENeENYeOeOOeNIKOLSBURG OE"⟩,
  ⟨0x10CDE, "OLD HUNGARIAN SMALL LETTER RUDIMENTA OEeOEEeEPeEMPeEReSHORT EReESeESZeETeENTeETYeECH"⟩,
  ⟨0x10CEA, "OLD HUNGARIAN SMALL LETTER UeUUeNIKOLSBURG UEeRUDIMENTA UEeEVeEZeEZSeENT-SHAPED SIGN"⟩,
  ⟨0x10CF2, "OLD HUNGARIAN SMALL LETTER US"⟩,
  ⟨0x10CFA, "OLD HUNGARIAN NUMBER ONEdFIVEdTENdFIFTYdONE HUNDREDeTHOUSAND"⟩,
  ⟨0x10D00, "HANIFI ROHINGYA LETTER AdBAdPAdTAdTTAdJAdCAdHAdKHAdFAdDAdDDAdRAdRRAdZAdSAdSHAdKAdGA"⟩,
  ⟨0x10D13, "HANIFI ROHINGYA LETTER LAdMAdNAdWAdKINNA WAdYAdKINNA YAdNGAdNYAdVAcVOWEL AdIdUdEdO"⟩,
  ⟨0x10D22, "HANIFI ROHINGYA MARK SAKINdNA KHONNAcSIGN HARBAHAYdTAHALAdTANAdTASSI"⟩,
  ⟨0x10D30, "HANIFI ROHINGYA DIGIT ZEROdONEdTWOdTHREEdFOURdFIVEdSIXdSEVENdEIGHTdNINE"⟩,
  ⟨0x10E60, "RUMI DIGIT ONEcTWOcTHREEcFOURcFIVEcSIXcSEVENcEIGHTcNINEbNUMBER TENcTWENTYcTHIRTY"⟩,
  ⟨0x10E6C, "RUMI NUMBER FORTYcFIFTYcSIXTYcSEVENTYcEIGHTYcNINETYcONE HUNDREDcTWO HUNDRED"⟩,
  ⟨0x10E74, "RUMI NUMBER THREE HUNDREDcFOUR HUNDREDcFIVE HUNDREDcSIX HUNDREDcSEVEN HUNDRED"⟩,
  ⟨0x10E79, "RUMI NUMBER EIGHT HUNDREDcNINE HUNDREDbFRACTION ONE HALFdQUARTERdTHIRDcTWO THIRDS"⟩,
  ⟨0x10E80, "YEZIDI LETTER ELIFcBEcPEcPHEcTHEcSEcCIMcCHIMcCHHIMcHHAcXAcDALcZALcRAcRHAcZAcJAcSIN"⟩,
  ⟨0x10E92, "YEZIDI LETTER SHINcSADcDADcTAcZEcEYNcXHEYNcFAcVAcVA ALTERNATE FORMcQAFcKAFcKHAFcGAF"⟩,
  ⟨0x10EA0, "YEZIDI LETTER LAMcMIMcNUNcUMcWAWcOWcEWcHAYcYOTcET"⟩,
  ⟨0x10EAB, "YEZIDI COMBINING HAMZA MARKcMADDA MARKbHYPHENATION MARK"⟩,
  ⟨0x10EB0, "YEZIDI LETTER LAM WITH DOT ABOVEcYOT WITH CIRCUMFLEX ABOVE"⟩,
  ⟨0x10F00, "OLD SOGDIAN LETTER ALEPHdFINAL ALEPHdBETHdFINAL BETHdGIMELdHEdFINAL HEdWAWdZAYIN"⟩,
  ⟨0x10F09, "OLD SOGDIAN LETTER HETHdYODHdKAPHdLAMEDHdMEMdNUNdFINAL NUNeNUN WITH VERTICAL TAIL"⟩,
  ⟨0x10F11, "OLD SOGDIAN LETTER SAMEKHdAYINdALTERNATE AYINdPEdSADHEdFINAL SADHE"⟩,
  ⟨0x10F17, "OLD SOGDIAN LETTER FINAL SADHE WITH VERTICAL TAILdRESH-AYIN-DALETHdSHINdTAW"⟩,
  ⟨0x10F1B, "OLD SOGDIAN LETTER FINAL TAWeTAW WITH VERTICAL TAILcNUMBER ONEdTWOdTHREEdFOURdFIVE"⟩,
  ⟨0x10F22, "OLD SOGDIAN NUMBER TENdTWENTYdTHIRTYdONE HUNDREDcFRACTION ONE HALF"⟩,
  ⟨0x10F27, "OLD SOGDIAN LIGATURE AYIN-DALETH"⟩,
  ⟨0x10F30, "SOGDIAN LETTER ALEPHcBETHcGIMELcHEcWAWcZAYINcHETHcYODHcKAPHcLAMEDHcMEMcNUNcSAMEKH"⟩,
  ⟨0x10F3D, "SOGDIAN LETTER AYINcPEcSADHEcRESH-AYINcSHINcTAWcFETHcLESHbINDEPENDENT SHIN"⟩,
  ⟨0x10F46, "SOGDIAN COMBINING DOT BELOWcTWO DOTS BELOWcDOT ABOVEcTWO DOTS ABOVEcCURVE ABOVE"⟩,
  ⟨0x10F4B, "SOGDIAN COMBINING CURVE BELOWcHOOK ABOVEdBELOWcLONG HOOK BELOWcRESH BELOW"⟩,
  ⟨0x10F50, "SOGDIAN COMBINING STROKE BELOWbNUMBER ONEcTENcTWENTYcONE HUNDRED"⟩,
  ⟨0x10F55, "SOGDIAN PUNCTUATION TWO VERTICAL BARSeBARS WITH DOTScCIRCLE WITH DOT"⟩,
  ⟨0x10F58, "SOGDIAN PUNCTUATION TWO CIRCLES WITH DOTScHALF CIRCLE WITH DOT"⟩,
  ⟨0x10F70, "OLD UYGHUR LETTER ALEPHdBETHdGIMEL-HETHdWAWdZAYINdFINAL HETHdYODHdKAPHdLAMEDHdMEM"⟩,
  ⟨0x10F7A, "OLD UYGHUR LETTER NUNdSAMEKHdPEdSADHEdRESHdSHINdTAWdLESHcCOMBINING DOT ABOVEeBELOW"⟩,
  ⟨0x10F84, "OLD UYGHUR COMBINING TWO DOTS ABOVEfBELOWcPUNCTUATION BARdTWO BARSeDOTSdFOUR DOTS"⟩,
  ⟨0x10FB0, "CHORASMIAN LETTER ALEPHcSMALL ALEPHcBETHcGIMELcDALETHcHEcWAWcCURLED WAWcZAYINcHETH"⟩,
  ⟨0x10FBA, "CHORASMIAN LETTER YODHcKAPHcLAMEDHcMEMcNUNcSAMEKHcAYINcPEcRESHcSHINcTAWbNUMBER ONE"⟩,
  ⟨0x10FC6, "CHORASMIAN NUMBER TWOcTHREEcFOURcTENcTWENTYcONE HUNDRED"⟩,
  ⟨0x10FE0, "ELYMAIC LETTER ALEPHcBETHcGIMELcDALETHcHEcWAWcZAYINcHETHcTETHcYODHcKAPHcLAMEDHcMEM"⟩,
  ⟨0x10FED, "ELYMAIC LETTER NUNcSAMEKHcAYINcPEcSADHEcQOPHcRESHcSHINcTAWbLIGATURE ZAYIN-YODH"⟩,
  ⟨0x11000, "BRAHMI SIGN CANDRABINDUcANUSVARAcVISARGAcJIHVAMULIYAcUPADHMANIYAbLETTER AcAAcIcIIcU"⟩,
  ⟨0x1100A, "BRAHMI LETTER UUcVOCALIC RdRRdLdLLcEcAIcOcAUcKAcKHAcGAcGHAcNGAcCAcCHAcJAcJHAcNYAcTTA"⟩,
  ⟨0x1101E, "BRAHMI LETTER TTHAcDDAcDDHAcNNAcTAcTHAcDAcDHAcNAcPAcPHAcBAcBHAcMAcYAcRAcLAcVAcSHA"⟩,
  ⟨0x11031, "BRAHMI LETTER SSAcSAcHAcLLAcOLD TAMIL LLLAeRRAeNNNAbVOWEL SIGN AAdBHATTIPROLU AAdI"⟩,
  ⟨0x1103B, "BRAHMI VOWEL SIGN IIdUdUUdVOCALIC ReRReLeLLdEdAIdOdAUbVIRAMAbDANDAbDOUBLE DANDA"⟩,
  ⟨0x11049, "BRAHMI PUNCTUATION DOTcDOUBLE DOTcLINEcCRESCENT BARcLOTUS"⟩,
  ⟨0x11052, "BRAHMI NUMBER ONEcTWOcTHREEcFOURcFIVEcSIXcSEVENcEIGHTcNINEcTENcTWENTYcTHIRTYcFORTY"⟩,
  ⟨0x1105F, "BRAHMI NUMBER FIFTYcSIXTYcSEVENTYcEIGHTYcNINETYcONE HUNDREDdTHOUSANDbDIGIT ZEROcONE"⟩,
  ⟨0x11068, "BRAHMI DIGIT TWOcTHREEcFOURcFIVEcSIXcSEVENcEIGHTcNINEbSIGN OLD TAMIL VIRAMA"⟩,
  ⟨0x11071, "BRAHMI LETTER OLD TAMIL SHORT EfObVOWEL SIGN OLD TAMIL SHORT EgO"⟩,
  ⟨0x11075, "BRAHMI LETTER OLD TAMIL LLA"⟩,
  ⟨0x1107F, "BRAHMI NUMBER JOINERaKAITHI SIGN CANDRABINDUcANUSVARAcVISARGAbLETTER AcAAcIcIIcUcUU"⟩,
  ⟨0x11089, "KAITHI LETTER EcAIcOcAUcKAcKHAcGAcGHAcNGAcCAcCHAcJAcJHAcNYAcTTAcTTHAcDDAcDDDHAcDDHA"⟩,
  ⟨0x1109C, "KAITHI LETTER RHAcNNAcTAcTHAcDAcDHAcNAcPAcPHAcBAcBHAcMAcYAcRAcLAcVAcSHAcSSAcSAcHA"⟩,
  ⟨0x110B0, "KAITHI VOWEL SIGN AAdIdIIdUdUUdEdAIdOdAUbSIGN VIRAMAcNUKTAbABBREVIATION SIGN"⟩,
  ⟨0x110BC, "KAITHI ENUMERATION SIGNbNUMBER SIGNbSECTION MARKbDOUBLE SECTION MARKbDANDA"⟩,
  ⟨0x110C1, "KAITHI DOUBLE DANDAbVOWEL SIGN VOCALIC R"⟩,
  ⟨0x110CD, "KAITHI NUMBER SIGN ABOVE"⟩,
  ⟨0x110D0, "SORA SOMPENG LETTER SAHdTAHdBAHdCAHdDAHdGAHdMAHdNGAHdLAHdNAHdVAHdPAHdYAHdRAHdHAHdKAH"⟩,
  ⟨0x110E0, "SORA SOMPENG LETTER JAHdNYAHdAHdEEHdIHdUHdOHdEHdMAE"⟩,
  ⟨0x110F0, "SORA SOMPENG DIGIT ZEROdONEdTWOdTHREEdFOURdFIVEdSIXdSEVENdEIGHTdNINE"⟩,
  ⟨0x11100, "CHAKMA SIGN CANDRABINDUcANUSVARAcVISARGAbLETTER AAcIcUcEcKAAcKHAAcGAAcGHAAcNGAAcCAA"⟩,
  ⟨0x1110D, "CHAKMA LETTER CHAAcJAAcJHAAcNYAAcTTAAcTTHAAcDDAAcDDHAAcNNAAcTAAcTHAAcDAAcDHAAcNAA"⟩,
  ⟨0x1111B, "CHAKMA LETTER PAAcPHAAcBAAcBHAAcMAAcYYAAcYAAcRAAcLAAcWAAcSAAcHAAbVOWEL SIGN AdIdIIdU"⟩,
  ⟨0x1112B, "CHAKMA VOWEL SIGN UUdEdAIdOdAUdOIbO MARKbAU MARKbVIRAMAbMAAYYAA"⟩,
  ⟨0x11136, "CHAKMA DIGIT ZEROcONEcTWOcTHREEcFOURcFIVEcSIXcSEVENcEIGHTcNINEbSECTION MARKbDANDA"⟩,
  ⟨0x11142, "CHAKMA DOUBLE DANDAbQUESTION MARKbLETTER LHAAbVOWEL SIGN AAdEIbLETTER VAA"⟩,
  ⟨0x11150, "MAHAJANI LETTER AcIcUcEcOcKAcKHAcGAcGHAcCAcCHAcJAcJHAcNYAcTTAcTTHAcDDAcDDHAcNNAcTA"⟩,
  ⟨0x11164, "MAHAJANI LETTER THAcDAcDHAcNAcPAcPHAcBAcBHAcMAcRAcLAcVAcSAcHAcRRAbSIGN NUKTA"⟩,
  ⟨0x11174, "MAHAJANI ABBREVIATION SIGNbSECTION MARKbLIGATURE SHRI"⟩,
  ⟨0x11180, "SHARADA SIGN CANDRABINDUcANUSVARAcVISARGAbLETTER AcAAcIcIIcUcUUcVOCALIC RdRRdLdLLcE"⟩,
  ⟨0x1118E, "SHARADA LETTER AIcOcAUcKAcKHAcGAcGHAcNGAcCAcCHAcJAcJHAcNYAcTTAcTTHAcDDAcDDHAcNNAcTA"⟩,
  ⟨0x111A1, "SHARADA LETTER THAcDAcDHAcNAcPAcPHAcBAcBHAcMAcYAcRAcLAcLLAcVAcSHAcSSAcSAcHA"⟩,
  ⟨0x111B3, "SHARADA VOWEL SIGN AAdIdIIdUdUUdVOCALIC ReRReLeLLdEdAIdOdAUbSIGN VIRAMAcAVAGRAHA"⟩,
  ⟨0x111C2, "SHARADA SIGN JIHVAMULIYAcUPADHMANIYAbOMbDANDAbDOUBLE DANDAbABBREVIATION SIGN"⟩,
  ⟨0x111C8, "SHARADA SEPARATORbSANDHI MARKbSIGN NUKTAbVOWEL MODIFIER MARKbEXTRA SHORT VOWEL MARK"⟩,
  ⟨0x111CD, "SHARADA SUTRA MARKbVOWEL SIGN PRISHTHAMATRA EbSIGN INVERTED CANDRABINDUbDIGIT ZERO"⟩,
  ⟨0x111D1, "SHARADA DIGIT ONEcTWOcTHREEcFOURcFIVEcSIXcSEVENcEIGHTcNINEbEKAMbSIGN SIDDHAM"⟩,
  ⟨0x111DC, "SHARADA HEADSTROKEbCONTINUATION SIGNbSECTION MARK-1d2"⟩,
  ⟨0x111E1, "SINHALA ARCHAIC DIGIT ONEdTWOdTHREEdFOURdFIVEdSIXdSEVENdEIGHTdNINEcNUMBER TENdTWENTY"⟩,
  ⟨0x111EC, "SINHALA ARCHAIC NUMBER THIRTYdFORTYdFIFTYdSIXTYdSEVENTYdEIGHTYdNINETYdONE HUNDRED"⟩,
  ⟨0x111F4, "SINHALA ARCHAIC NUMBER ONE THOUSAND"⟩,
  ⟨0x11200, "KHOJKI LETTER AcAAcIcUcEcAIcOcAUcKAcKHAcGAcGGAcGHAcNGAcCAcCHAcJAcJJA"⟩,
  ⟨0x11213, "KHOJKI LETTER NYAcTTAcTTHAcDDAcDDHAcNNAcTAcTHAcDAcDDDAcDHAcNAcPAcPHAcBAcBBAcBHAcMA"⟩,
  ⟨0x11225, "KHOJKI LETTER YAcRAcLAcVAcSAcHAcLLAbVOWEL SIGN AAdIdIIdUdEdAIdOdAUbSIGN ANUSVARA"⟩,
  ⟨0x11235, "KHOJKI SIGN VIRAMAcNUKTAcSHADDAbDANDAbDOUBLE DANDAbWORD SEPARATORbSECTION MARK"⟩,
  ⟨0x1123C, "KHOJKI DOUBLE SECTION MARKbABBREVIATION SIGNbSIGN SUKUN"⟩,
  ⟨0x11280, "MULTANI LETTER AcIcUcEcKAcKHAcGA"⟩,
  ⟨0x11288, "MULTANI LETTER GHA"⟩,
  ⟨0x1128A, "MULTANI LETTER CAcCHAcJAcJJA"⟩,
  ⟨0x1128F, "MULTANI LETTER NYAcTTAcTTHAcDDAcDDDAcDDHAcNNAcTAcTHAcDAcDHAcNAcPAcPHAcBA"⟩,
  ⟨0x1129F, "MULTANI LETTER BHAcMAcYAcRAcLAcVAcSAcHAcRRAcRHAbSECTION MARK"⟩,
  ⟨0x112B0, "KHUDAWADI LETTER AcAAcIcIIcUcUUcEcAIcOcAUcKAcKHAcGAcGGAcGHAcNGAcCAcCHAcJAcJJAcJHA"⟩,
  ⟨0x112C5, "KHUDAWADI LETTER NYAcTTAcTTHAcDDAcDDDAcRRAcDDHAcNNAcTAcTHAcDAcDHAcNAcPAcPHAcBAcBBA"⟩,
  ⟨0x112D6, "KHUDAWADI LETTER BHAcMAcYAcRAcLAcVAcSHAcSAcHAbSIGN ANUSVARAbVOWEL SIGN AAdIdIIdUdUU"⟩,
  ⟨0x112E5, "KHUDAWADI VOWEL SIGN EdAIdOdAUbSIGN NUKTAcVIRAMA"⟩,
  ⟨0x112F0, "KHUDAWADI DIGIT ZEROcONEcTWOcTHREEcFOURcFIVEcSIXcSEVENcEIGHTcNINE"⟩,
  ⟨0x11300, "GRANTHA SIGN COMBINING ANUSVARA ABOVEcCANDRABINDUcANUSVARAcVISARGA"⟩,
  ⟨0x11305, "GRANTHA LETTER AcAAcIcIIcUcUUcVOCALIC RdL"⟩,
  ⟨0x1130F, "GRANTHA LETTER EEcAI"⟩,
  ⟨0x11313, "GRANTHA LETTER OOcAUcKAcKHAcGAcGHAcNGAcCAcCHAcJAcJHAcNYAcTTAcTTHAcDDAcDDHAcNNAcTA"⟩,
  ⟨0x11325, "GRANTHA LETTER THAcDAcDHAcNA"⟩,
  ⟨0x1132A, "GRANTHA LETTER PAcPHAcBAcBHAcMAcYAcRA"⟩,
  ⟨0x11332, "GRANTHA LETTER LAcLLA"⟩,
  ⟨0x11335, "GRANTHA LETTER VAcSHAcSSAcSAcHA"⟩,
  ⟨0x1133B, "COMBINING BINDU BELOWaGRANTHA SIGN NUKTAcAVAGRAHAbVOWEL SIGN AAdIdIIdUdUUdVOCALIC R"⟩,
  ⟨0x11344, "GRANTHA VOWEL SIGN VOCALIC RR"⟩,
  ⟨0x11347, "GRANTHA VOWEL SIGN EEdAI"⟩,
  ⟨0x1134B, "GRANTHA VOWEL SIGN OOdAUbSIGN VIRAMA"⟩,
  ⟨0x11350, "GRANTHA OM"⟩,
  ⟨0x11357, "GRANTHA AU LENGTH MARK"⟩,
  ⟨0x1135D, "GRANTHA SIGN PLUTAbLETTER VEDIC ANUSVARAdDOUBLE ANUSVARAcVOCALIC RRdLL"⟩,
  ⟨0x11362, "GRANTHA VOWEL SIGN VOCALIC LeLL"⟩,
  ⟨0x11366, "COMBINING GRANTHA DIGIT ZEROdONEdTWOdTHREEdFOURdFIVEdSIX"⟩,
  ⟨0x11370, "COMBINING GRANTHA LETTER AdKAdNAdVIdPA"⟩,
  ⟨0x11400, "NEWA LETTER AcAAcIcIIcUcUUcVOCALIC RdRRdLdLLcEcAIcOcAUcKAcKHAcGAcGHAcNGAcNGHAcCAcCHA"⟩,
  ⟨0x11416, "NEWA LETTER JAcJHAcNYAcNYHAcTTAcTTHAcDDAcDDHAcNNAcTAcTHAcDAcDHAcNAcNHAcPAcPHAcBAcBHA"⟩,
  ⟨0x11429, "NEWA LETTER MAcMHAcYAcRAcRHAcLAcLHAcWAcSHAcSSAcSAcHAbVOWEL SIGN AAdIdIIdUdUU"⟩,
  ⟨0x1143A, "NEWA VOWEL SIGN VOCALIC ReRReLeLLdEdAIdOdAUbSIGN VIRAMAcCANDRABINDUcANUSVARAcVISARGA"⟩,
  ⟨0x11446, "NEWA SIGN NUKTAcAVAGRAHAcFINAL ANUSVARAbOMbSIDDHIbDANDAbDOUBLE DANDAbCOMMA"⟩,
  ⟨0x1144E, "NEWA GAP FILLERbABBREVIATION SIGNbDIGIT ZEROcONEcTWOcTHREEcFOURcFIVEcSIXcSEVENcEIGHT"⟩,
  ⟨0x11459, "NEWA DIGIT NINEbDOUBLE COMMAbPLACEHOLDER MARK"⟩,
  ⟨0x1145D, "NEWA INSERTION SIGNbSANDHI MARKbLETTER VEDIC ANUSVARAbSIGN JIHVAMULIYAcUPADHMANIYA"⟩,
  ⟨0x11480, "TIRHUTA ANJIbLETTER AcAAcIcIIcUcUUcVOCALIC RdRRdLdLLcEcAIcOcAUcKAcKHAcGAcGHAcNGAcCA"⟩,
  ⟨0x11495, "TIRHUTA LETTER CHAcJAcJHAcNYAcTTAcTTHAcDDAcDDHAcNNAcTAcTHAcDAcDHAcNAcPAcPHAcBAcBHA"⟩,
  ⟨0x114A7, "TIRHUTA LETTER MAcYAcRAcLAcVAcSHAcSSAcSAcHAbVOWEL SIGN AAdIdIIdUdUUdVOCALIC ReRReL"⟩,
  ⟨0x114B8, "TIRHUTA VOWEL SIGN VOCALIC LLdEdSHORT EdAIdOdSHORT OdAUbSIGN CANDRABINDUcANUSVARA"⟩,
  ⟨0x114C1, "TIRHUTA SIGN VISARGAcVIRAMAcNUKTAcAVAGRAHAbGVANGbABBREVIATION SIGNbOM"⟩,
  ⟨0x114D0, "TIRHUTA DIGIT ZEROcONEcTWOcTHREEcFOURcFIVEcSIXcSEVENcEIGHTcNINE"⟩,
  ⟨0x11580, "SIDDHAM LETTER AcAAcIcIIcUcUUcVOCALIC RdRRdLdLLcEcAIcOcAUcKAcKHAcGAcGHAcNGAcCAcCHA"⟩,
  ⟨0x11595, "SIDDHAM LETTER JAcJHAcNYAcTTAcTTHAcDDAcDDHAcNNAcTAcTHAcDAcDHAcNAcPAcPHAcBAcBHAcMAcYA"⟩,
  ⟨0x115A8, "SIDDHAM LETTER RAcLAcVAcSHAcSSAcSAcHAbVOWEL SIGN AAdIdIIdUdUUdVOCALIC ReRR"⟩,
  ⟨0x115B8, "SIDDHAM VOWEL SIGN EdAIdOdAUbSIGN CANDRABINDUcANUSVARAcVISARGAcVIRAMAcNUKTAcSIDDHAM"⟩,
  ⟨0x115C2, "SIDDHAM DANDAbDOUBLE DANDAbSEPARATOR DOTcBARbREPETITION MARK-1d2d3bEND OF TEXT MARK"⟩,
  ⟨0x115CA, "SIDDHAM SECTION MARK WITH TRIDENT AND U-SHAPED ORNAMENTSgDOTTED CRESCENTS"⟩,
  ⟨0x115CC, "SIDDHAM SECTION MARK WITH RAYS AND DOTTED CRESCENTShDOUBLE CRESCENTS"⟩,
  ⟨0x115CE, "SIDDHAM SECTION MARK WITH RAYS AND DOTTED TRIPLE CRESCENTSdDOUBLE RING"⟩,
  ⟨0x115D0, "SIDDHAM SECTION MARK DOUBLE RING WITH RAYSdWITH DOUBLE CRESCENTSeTRIPLE CRESCENTS"⟩,
  ⟨0x115D3, "SIDDHAM SECTION MARK WITH QUADRUPLE CRESCENTSeSEPTUPLE CRESCENTSeCIRCLES AND RAYS"⟩,
  ⟨0x115D6, "SIDDHAM SECTION MARK WITH CIRCLES AND TWO ENCLOSURESgFOUR ENCLOSURES"⟩,
  ⟨0x115D8, "SIDDHAM LETTER THREE-CIRCLE ALTERNATE IcTWO-CIRCLE ALTERNATE IfIIcALTERNATE U"⟩,
  ⟨0x115DC, "SIDDHAM VOWEL SIGN ALTERNATE UeUU"⟩,
  ⟨0x11600, "MODI LETTER AcAAcIcIIcUcUUcVOCALIC RdRRdLdLLcEcAIcOcAUcKAcKHAcGAcGHAcNGAcCAcCHAcJA"⟩,
  ⟨0x11616, "MODI LETTER JHAcNYAcTTAcTTHAcDDAcDDHAcNNAcTAcTHAcDAcDHAcNAcPAcPHAcBAcBHAcMAcYAcRAcLA"⟩,
  ⟨0x1162A, "MODI LETTER VAcSHAcSSAcSAcHAcLLAbVOWEL SIGN AAdIdIIdUdUUdVOCALIC ReRReLeLLdEdAIdOdAU"⟩,
  ⟨0x1163D, "MODI SIGN ANUSVARAcVISARGAcVIRAMAcARDHACANDRAbDANDAbDOUBLE DANDAbABBREVIATION SIGN"⟩,
  ⟨0x11644, "MODI SIGN HUVA"⟩,
  ⟨0x11650, "MODI DIGIT ZEROcONEcTWOcTHREEcFOURcFIVEcSIXcSEVENcEIGHTcNINE"⟩,
  ⟨0x11660, "MONGOLIAN BIRGA WITH ORNAMENTbROTATED BIRGAbDOUBLE BIRGA WITH ORNAMENT"⟩,
  ⟨0x11663, "MONGOLIAN TRIPLE BIRGA WITH ORNAMENTbBIRGA WITH DOUBLE ORNAMENT"⟩,
  ⟨0x11665, "MONGOLIAN ROTATED BIRGA WITH ORNAMENTeDOUBLE ORNAMENTbINVERTED BIRGA"⟩,
  ⟨0x11668, "MONGOLIAN INVERTED BIRGA WITH DOUBLE ORNAMENTbSWIRL BIRGAcBIRGA WITH ORNAMENT"⟩,
  ⟨0x1166B, "MONGOLIAN SWIRL BIRGA WITH DOUBLE ORNAMENTbTURNED SWIRL BIRGA WITH DOUBLE ORNAMENT"⟩,
  ⟨0x11680, "TAKRI LETTER AcAAcIcIIcUcUUcEcAIcOcAUcKAcKHAcGAcGHAcNGAcCAcCHAcJAcJHAcNYAcTTAcTTHA"⟩,
  ⟨0x11696, "TAKRI LETTER DDAcDDHAcNNAcTAcTHAcDAcDHAcNAcPAcPHAcBAcBHAcMAcYAcRAcLAcVAcSHAcSAcHA"⟩,
  ⟨0x116AA, "TAKRI LETTER RRAbSIGN ANUSVARAcVISARGAbVOWEL SIGN AAdIdIIdUdUUdEdAIdOdAUbSIGN VIRAMA"⟩,
  ⟨0x116B7, "TAKRI SIGN NUKTAbLETTER ARCHAIC KHAbABBREVIATION SIGN"⟩,
  ⟨0x116C0, "TAKRI DIGIT ZEROcONEcTWOcTHREEcFOURcFIVEcSIXcSEVENcEIGHTcNINE"⟩,
  ⟨0x11700, "AHOM LETTER KAcKHAcNGAcNAcTAcALTERNATE TAcPAcPHAcBAcMAcJAcCHAcTHAcRAcLAcSAcNYAcHAcA"⟩,
  ⟨0x11713, "AHOM LETTER DAcDHAcGAcALTERNATE GAcGHAcBHAcJHAcALTERNATE BA"⟩,
  ⟨0x1171D, "AHOM CONSONANT SIGN MEDIAL LAeRAeLIGATING RAbVOWEL SIGN AdAAdIdIIdUdUUdEdAWdOdAIdAM"⟩,
  ⟨0x1172B, "AHOM SIGN KILLER"⟩,
  ⟨0x11730, "AHOM DIGIT ZEROcONEcTWOcTHREEcFOURcFIVEcSIXcSEVENcEIGHTcNINEbNUMBER TENcTWENTY"⟩,
  ⟨0x1173C, "AHOM SIGN SMALL SECTIONcSECTIONcRULAIbSYMBOL VIbLETTER CAcTTAcTTHAcDDAcDDHAcNNAcLLA"⟩,
  ⟨0x11800, "DOGRA LETTER AcAAcIcIIcUcUUcEcAIcOcAUcKAcKHAcGAcGHAcNGAcCAcCHAcJAcJHAcNYAcTTAcTTHA"⟩,
  ⟨0x11816, "DOGRA LETTER DDAcDDHAcNNAcTAcTHAcDAcDHAcNAcPAcPHAcBAcBHAcMAcYAcRAcLAcVAcSHAcSSAcSA"⟩,
  ⟨0x1182A, "DOGRA LETTER HAcRRAbVOWEL SIGN AAdIdIIdUdUUdVOCALIC ReRRdEdAIdOdAUbSIGN ANUSVARA"⟩,
  ⟨0x11838, "DOGRA SIGN VISARGAcVIRAMAcNUKTAbABBREVIATION SIGN"⟩,
  ⟨0x118A0, "WARANG CITI CAPITAL LETTER NGAAeAeWIeYUeYAeYOeIIeUUeEeOeANGeGAeKOeENYeYUJeUCeENNeODD"⟩,
  ⟨0x118B2, "WARANG CITI CAPITAL LETTER TTEeNUNGeDAeATeAMeBUePUeHIYOeHOLOeHORReHAReSSUUeSIIeVIYO"⟩,
  ⟨0x118C0, "WARANG CITI SMALL LETTER NGAAeAeWIeYUeYAeYOeIIeUUeEeOeANGeGAeKOeENYeYUJeUCeENNeODD"⟩,
  ⟨0x118D2, "WARANG CITI SMALL LETTER TTEeNUNGeDAeATeAMeBUePUeHIYOeHOLOeHORReHAReSSUUeSIIeVIYO"⟩,
  ⟨0x118E0, "WARANG CITI DIGIT ZEROdONEdTWOdTHREEdFOURdFIVEdSIXdSEVENdEIGHTdNINEcNUMBER TEN"⟩,
  ⟨0x118EB, "WARANG CITI NUMBER TWENTYdTHIRTYdFORTYdFIFTYdSIXTYdSEVENTYdEIGHTYdNINETY"⟩,
  ⟨0x118FF, "WARANG CITI OMaDIVES AKURU LETTER AdAAdIdIIdUdUUdE"⟩,
  ⟨0x11909, "DIVES AKURU LETTER O"⟩,
  ⟨0x1190C, "DIVES AKURU LETTER KAdKHAdGAdGHAdNGAdCAdCHAdJA"⟩,
  ⟨0x11915, "DIVES AKURU LETTER NYAdTTA"⟩,
  ⟨0x11918, "DIVES AKURU LETTER DDAdDDHAdNNAdTAdTHAdDAdDHAdNAdPAdPHAdBAdBHAdMAdYAdYYAdRAdLAdVA"⟩,
  ⟨0x1192A, "DIVES AKURU LETTER SHAdSSAdSAdHAdLLAdZAcVOWEL SIGN AAeIeIIeUeUUeE"⟩,
  ⟨0x11937, "DIVES AKURU VOWEL SIGN AIeO"⟩,
  ⟨0x1193B, "DIVES AKURU SIGN ANUSVARAdCANDRABINDUdHALANTAcVIRAMAcPREFIXED NASAL SIGNcMEDIAL YA"⟩,
  ⟨0x11941, "DIVES AKURU INITIAL RAcMEDIAL RAcSIGN NUKTAcDOUBLE DANDAcGAP FILLERcEND OF TEXT MARK"⟩,
  ⟨0x11950, "DIVES AKURU DIGIT ZEROdONEdTWOdTHREEdFOURdFIVEdSIXdSEVENdEIGHTdNINE"⟩,
  ⟨0x119A0, "NANDINAGARI LETTER AcAAcIcIIcUcUUcVOCALIC RdRR"⟩,
  ⟨0x119AA, "NANDINAGARI LETTER EcAIcOcAUcKAcKHAcGAcGHAcNGAcCAcCHAcJAcJHAcNYAcTTAcTTHAcDDAcDDHA"⟩,
  ⟨0x119BC, "NANDINAGARI LETTER NNAcTAcTHAcDAcDHAcNAcPAcPHAcBAcBHAcMAcYAcRAcLAcVAcSHAcSSAcSAcHA"⟩,
  ⟨0x119CF, "NANDINAGARI LETTER LLAcRRAbVOWEL SIGN AAdIdIIdUdUUdVOCALIC ReRR"⟩,
  ⟨0x119DA, "NANDINAGARI VOWEL SIGN EdAIdOdAUbSIGN ANUSVARAcVISARGAcVIRAMAcAVAGRAHAcSIDDHAM"⟩,
  ⟨0x119E3, "NANDINAGARI HEADSTROKEbVOWEL SIGN PRISHTHAMATRA E"⟩,
  ⟨0x11A00, "ZANABAZAR SQUARE LETTER AcVOWEL SIGN IeUEeUeEeOEeOeAIeAUeREVERSED IdLENGTH MARK"⟩,
  ⟨0x11A0B, "ZANABAZAR SQUARE LETTER KAdKHAdGAdGHAdNGAdCAdCHAdJAdNYAdTTAdTTHAdDDAdDDHAdNNAdTAdTHA"⟩,
  ⟨0x11A1B, "ZANABAZAR SQUARE LETTER DAdDHAdNAdPAdPHAdBAdBHAdMAdTSAdTSHAdDZAdDZHAdZHAdZAd-AdYAdRA"⟩,
  ⟨0x11A2C, "ZANABAZAR SQUARE LETTER LAdVAdSHAdSSAdSAdHAdKSSAcFINAL CONSONANT MARKcSIGN VIRAMA"⟩,
  ⟨0x11A35, "ZANABAZAR SQUARE SIGN CANDRABINDUdCANDRABINDU WITH ORNAMENTdCANDRA WITH ORNAMENT"⟩,
  ⟨0x11A38, "ZANABAZAR SQUARE SIGN ANUSVARAdVISARGAcCLUSTER-INITIAL LETTER RAdFINAL LETTER YAfRA"⟩,
  ⟨0x11A3D, "ZANABAZAR SQUARE CLUSTER-FINAL LETTER LAfVAcINITIAL HEAD MARKcCLOSING HEAD MARK"⟩,
  ⟨0x11A41, "ZANABAZAR SQUARE MARK TSHEGdSHADdDOUBLE SHADdLONG TSHEG"⟩,
  ⟨0x11A45, "ZANABAZAR SQUARE INITIAL DOUBLE-LINED HEAD MARKcCLOSING DOUBLE-LINED HEAD MARK"⟩,
  ⟨0x11A47, "ZANABAZAR SQUARE SUBJOINER"⟩,
  ⟨0x11A50, "SOYOMBO LETTER AbVOWEL SIGN IdUEdUdEdOdOEdAIdAUdVOCALIC ReLcLENGTH MARKbLETTER KA"⟩,
  ⟨0x11A5D, "SOYOMBO LETTER KHAcGAcGHAcNGAcCAcCHAcJAcJHAcNYAcTTAcTTHAcDDAcDDHAcNNAcTAcTHAcDAcDHA"⟩,
  ⟨0x11A6F, "SOYOMBO LETTER NAcPAcPHAcBAcBHAcMAcTSAcTSHAcDZAcZHAcZAc-AcYAcRAcLAcVAcSHAcSSAcSAcHA"⟩,
  ⟨0x11A83, "SOYOMBO LETTER KSSAbSIGN JIHVAMULIYAcUPADHMANIYAbCLUSTER-INITIAL LETTER RAeLAeSHAeSA"⟩,
  ⟨0x11A8A, "SOYOMBO FINAL CONSONANT SIGN GeKeNGeDeNeBeMeReLeSHeSe-AbSIGN ANUSVARAcVISARGA"⟩,
  ⟨0x11A98, "SOYOMBO GEMINATION MARKbSUBJOINERbMARK TSHEGcSHADcDOUBLE SHADcPLUTA"⟩,
  ⟨0x11A9E, "SOYOMBO HEAD MARK WITH MOON AND SUN AND TRIPLE FLAMEiFLAMEgSUNbTERMINAL MARK-1d2"⟩,
  ⟨0x11AB0, "CANADIAN SYLLABICS NATTILIK HIdHIIdHOdHOOdHAdHAAdSHRIdSHRIIdSHROdSHROOdSHRAdSHRAA"⟩,
  ⟨0x11ABC, "CANADIAN SYLLABICS SPEcSPIcSPOcSPAaPAU CIN HAU LETTER PAeKAeLAeMAeDAeZAeVAeNGAeHAeGA"⟩,
  ⟨0x11ACA, "PAU CIN HAU LETTER KHAeSAeBAeCAeTAeTHAeNAePHAeRAeFAeCHAeAeEeIeOeUeUAeIAeFINAL PfKfT"⟩,
  ⟨0x11ADF, "PAU CIN HAU LETTER FINAL MfNfLfWfNGfYdRISING TONE LONGeTONEdSANDHI GLOTTAL STOP"⟩,
  ⟨0x11AE8, "PAU CIN HAU RISING TONE LONG FINALfFINALdSANDHI GLOTTAL STOP FINALeTONE LONGeTONE"⟩,
  ⟨0x11AED, "PAU CIN HAU SANDHI TONE LONG FINALfFINALdMID-LEVEL TONEdGLOTTAL STOP VARIANT"⟩,
  ⟨0x11AF1, "PAU CIN HAU MID-LEVEL TONE LONG FINALgFINALdLOW-FALLING TONE LONGfTONEdGLOTTAL STOP"⟩,
  ⟨0x11AF6, "PAU CIN HAU LOW-FALLING TONE LONG FINALgFINALdGLOTTAL STOP FINAL"⟩,
  ⟨0x11C00, "BHAIKSUKI LETTER AcAAcIcIIcUcUUcVOCALIC RdRRdL"⟩,
  ⟨0x11C0A, "BHAIKSUKI LETTER EcAIcOcAUcKAcKHAcGAcGHAcNGAcCAcCHAcJAcJHAcNYAcTTAcTTHAcDDAcDDHAcNNA"⟩,
  ⟨0x11C1D, "BHAIKSUKI LETTER TAcTHAcDAcDHAcNAcPAcPHAcBAcBHAcMAcYAcRAcLAcVAcSHAcSSAcSAcHA"⟩,
  ⟨0x11C2F, "BHAIKSUKI VOWEL SIGN AAdIdIIdUdUUdVOCALIC ReRReL"⟩,
  ⟨0x11C38, "BHAIKSUKI VOWEL SIGN EdAIdOdAUbSIGN CANDRABINDUcANUSVARAcVISARGAcVIRAMAcAVAGRAHA"⟩,
  ⟨0x11C41, "BHAIKSUKI DANDAbDOUBLE DANDAbWORD SEPARATORbGAP FILLER-1d2"⟩,
  ⟨0x11C50, "BHAIKSUKI DIGIT ZEROcONEcTWOcTHREEcFOURcFIVEcSIXcSEVENcEIGHTcNINEbNUMBER ONEcTWO"⟩,
  ⟨0x11C5C, "BHAIKSUKI NUMBER THREEcFOURcFIVEcSIXcSEVENcEIGHTcNINEcTENcTWENTYcTHIRTYcFORTYcFIFTY"⟩,
  ⟨0x11C68, "BHAIKSUKI NUMBER SIXTYcSEVENTYcEIGHTYcNINETYbHUNDREDS UNIT MARK"⟩,
  ⟨0x11C70, "MARCHEN HEAD MARKbMARK SHADbLETTER KAcKHAcGAcNGAcCAcCHAcJAcNYAcTAcTHAcDAcNAcPAcPHA"⟩,
  ⟨0x11C80, "MARCHEN LETTER BAcMAcTSAcTSHAcDZAcWAcZHAcZAc-AcYAcRAcLAcSHAcSAcHAcA"⟩,
  ⟨0x11C92, "MARCHEN SUBJOINED LETTER KAdKHAdGAdNGAdCAdCHAdJAdNYAdTAdTHAdDAdNAdPAdPHAdBAdMAdTSA"⟩,
  ⟨0x11CA3, "MARCHEN SUBJOINED LETTER TSHAdDZAdWAdZHAdZA"⟩,
  ⟨0x11CA9, "MARCHEN SUBJOINED LETTER YAdRAdLAdSHAdSAdHAdAbVOWEL SIGN AAdIdUdEdObSIGN ANUSVARA"⟩,
  ⟨0x11CB6, "MARCHEN SIGN CANDRABINDU"⟩,
  ⟨0x11D00, "MASARAM GONDI LETTER AdAAdIdIIdUdUUdE"⟩,
  ⟨0x11D08, "MASARAM GONDI LETTER AIdO"⟩,
  ⟨0x11D0B, "MASARAM GONDI LETTER AUdKAdKHAdGAdGHAdNGAdCAdCHAdJAdJHAdNYAdTTAdTTHAdDDAdDDHAdNNAdTA"⟩,
  ⟨0x11D1C, "MASARAM GONDI LETTER THAdDAdDHAdNAdPAdPHAdBAdBHAdMAdYAdRAdLAdVAdSHAdSSAdSAdHAdLLA"⟩,
  ⟨0x11D2E, "MASARAM GONDI LETTER KSSAdJNYAdTRAcVOWEL SIGN AAeIeIIeUeUUeVOCALIC R"⟩,
  ⟨0x11D3A, "MASARAM GONDI VOWEL SIGN E"⟩,
  ⟨0x11D3C, "MASARAM GONDI VOWEL SIGN AIeO"⟩,
  ⟨0x11D3F, "MASARAM GONDI VOWEL SIGN AUcSIGN ANUSVARAdVISARGAdNUKTAdCANDRAdHALANTAcVIRAMAcREPHA"⟩,
  ⟨0x11D47, "MASARAM GONDI RA-KARA"⟩,
  ⟨0x11D50, "MASARAM GONDI DIGIT ZEROdONEdTWOdTHREEdFOURdFIVEdSIXdSEVENdEIGHTdNINE"⟩,
  ⟨0x11D60, "GUNJALA GONDI LETTER AdAAdIdIIdUdUU"⟩,
  ⟨0x11D67, "GUNJALA GONDI LETTER EEdAI"⟩,
  ⟨0x11D6A, "GUNJALA GONDI LETTER OOdAUdYAdVAdBAdBHAdMAdKAdKHAdTAdTHAdLAdGAdGHAdDAdDHAdNAdCAdCHA"⟩,
  ⟨0x11D7D, "GUNJALA GONDI LETTER TTAdTTHAdLLAdJAdJHAdDDAdDDHAdNGAdPAdPHAdHAdRAdSAcVOWEL SIGN AA"⟩,
  ⟨0x11D8B, "GUNJALA GONDI VOWEL SIGN IeIIeUeUU"⟩,
  ⟨0x11D90, "GUNJALA GONDI VOWEL SIGN EEeAI"⟩,
  ⟨0x11D93, "GUNJALA GONDI VOWEL SIGN OOeAUcSIGN ANUSVARAdVISARGAcVIRAMAcOM"⟩,
  ⟨0x11DA0, "GUNJALA GONDI DIGIT ZEROdONEdTWOdTHREEdFOURdFIVEdSIXdSEVENdEIGHTdNINE"⟩,
  ⟨0x11EE0, "MAKASAR LETTER KAcGAcNGAcPAcBAcMAcTAcDAcNAcCAcJAcNYAcYAcRAcLAcVAcSAcAbANGKA"⟩,
  ⟨0x11EF3, "MAKASAR VOWEL SIGN IdUdEdObPASSIMBANGbEND OF SECTION"⟩,
  ⟨0x11FB0, "LISU LETTER YHA"⟩,
  ⟨0x11FC0, "TAMIL FRACTION ONE THREE-HUNDRED-AND-TWENTIETHdONE-HUNDRED-AND-SIXTIETHdEIGHTIETH"⟩,
  ⟨0x11FC3, "TAMIL FRACTION ONE SIXTY-FOURTHdFORTIETHdTHIRTY-SECONDcTHREE EIGHTIETHS"⟩,
  ⟨0x11FC7, "TAMIL FRACTION THREE SIXTY-FOURTHScONE TWENTIETHdSIXTEENTH-1e2dTENTHdEIGHTH"⟩,
  ⟨0x11FCD, "TAMIL FRACTION THREE TWENTIETHSdSIXTEENTHScONE FIFTHdQUARTERdHALF-1e2cTHREE QUARTERS"⟩,
  ⟨0x11FD4, "TAMIL FRACTION DOWNSCALING FACTOR KIIZHbSIGN NELcCEVITUcAAZHAAKKUcUZHAKKU"⟩,
  ⟨0x11FD9, "TAMIL SIGN MUUVUZHAKKUcKURUNIcPATHAKKUcMUKKURUNIcKAACUcPANAMcPONcVARAAKANcPAARAM"⟩,
  ⟨0x11FE2, "TAMIL SIGN KUZHIcVELIbWET CULTIVATION SIGNbDRY CULTIVATION SIGNbLAND SIGN"⟩,
  ⟨0x11FE7, "TAMIL SALT PAN SIGNbTRADITIONAL CREDIT SIGNcNUMBER SIGNbCURRENT SIGNbAND ODD SIGN"⟩,
  ⟨0x11FEC, "TAMIL SPENT SIGNbTOTAL SIGNbIN POSSESSION SIGNbSTARTING FROM SIGNbSIGN MUTHALIYA"⟩,
  ⟨0x11FF1, "TAMIL SIGN VAKAIYARAA"⟩,
  ⟨0x11FFF, "TAMIL PUNCTUATION END OF TEXT"⟩]

end Bindery.Text.CharName
