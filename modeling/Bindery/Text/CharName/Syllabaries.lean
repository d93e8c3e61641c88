import Bindery.Text.CharName.Run
/-!
# Names of syllabic scripts

The names from U+0900 to U+1FFF: the scripts of India and its neighbours, Hangul letters, Ethiopic,
Cherokee, Canadian syllables, and the extensions of Latin and Greek that stand among them.
-/
namespace Bindery.Text.CharName

def syllabaries : List Run := [
  ⟨0x0900, "DEVANAGARI SIGN INVERTED CANDRABINDUcCANDRABINDUcANUSVARAcVISARGAbLETTER SHORT AcAcAA"⟩,
  ⟨0x0907, "DEVANAGARI LETTER IcIIcUcUUcVOCALIC RdLcCANDRA EcSHORT EcEcAIcCANDRA OcSHORT OcOcAU"⟩,
  ⟨0x0915, "DEVANAGARI LETTER KAcKHAcGAcGHAcNGAcCAcCHAcJAcJHAcNYAcTTAcTTHAcDDAcDDHAcNNAcTAcTHAcDA"⟩,
  ⟨0x0927, "DEVANAGARI LETTER DHAcNAcNNNAcPAcPHAcBAcBHAcMAcYAcRAcRRAcLAcLLAcLLLAcVAcSHAcSSAcSAcHA"⟩,
  ⟨0x093A, "DEVANAGARI VOWEL SIGN OEdOOEbSIGN NUKTAcAVAGRAHAbVOWEL SIGN AAdIdIIdUdUUdVOCALIC ReRR"⟩,
  ⟨0x0945, "DEVANAGARI VOWEL SIGN CANDRA EdSHORT EdEdAIdCANDRA OdSHORT OdOdAUbSIGN VIRAMA"⟩,
  ⟨0x094E, "DEVANAGARI VOWEL SIGN PRISHTHAMATRA EdAWbOMbSTRESS SIGN UDATTAdANUDATTAbGRAVE ACCENT"⟩,
  ⟨0x0954, "DEVANAGARI ACUTE ACCENTbVOWEL SIGN CANDRA LONG EdUEdUUEbLETTER QAcKHHAcGHHAcZAcDDDHA"⟩,
  ⟨0x095D, "DEVANAGARI LETTER RHAcFAcYYAcVOCALIC RRdLLbVOWEL SIGN VOCALIC LeLLbDANDAbDOUBLE DANDA"⟩,
  ⟨0x0966, "DEVANAGARI DIGIT ZEROcONEcTWOcTHREEcFOURcFIVEcSIXcSEVENcEIGHTcNINEbABBREVIATION SIGN"⟩,
  ⟨0x0971, "DEVANAGARI SIGN HIGH SPACING DOTbLETTER CANDRA AcOEcOOEcAWcUEcUUEcMARWARI DDAcZHA"⟩,
  ⟨0x097A, "DEVANAGARI LETTER HEAVY YAcGGAcJJAcGLOTTAL STOPcDDDAcBBAaBENGALI ANJI"⟩,
  ⟨0x0981, "BENGALI SIGN CANDRABINDUcANUSVARAcVISARGA"⟩,
  ⟨0x0985, "BENGALI LETTER AcAAcIcIIcUcUUcVOCALIC RdL"⟩,
  ⟨0x098F, "BENGALI LETTER EcAI"⟩,
  ⟨0x0993, "BENGALI LETTER OcAUcKAcKHAcGAcGHAcNGAcCAcCHAcJAcJHAcNYAcTTAcTTHAcDDAcDDHAcNNAcTAcTHA"⟩,
  ⟨0x09A6, "BENGALI LETTER DAcDHAcNA"⟩,
  ⟨0x09AA, "BENGALI LETTER PAcPHAcBAcBHAcMAcYAcRA"⟩,
  ⟨0x09B2, "BENGALI LETTER LA"⟩,
  ⟨0x09B6, "BENGALI LETTER SHAcSSAcSAcHA"⟩,
  ⟨0x09BC, "BENGALI SIGN NUKTAcAVAGRAHAbVOWEL SIGN AAdIdIIdUdUUdVOCALIC ReRR"⟩,
  ⟨0x09C7, "BENGALI VOWEL SIGN EdAI"⟩,
  ⟨0x09CB, "BENGALI VOWEL SIGN OdAUbSIGN VIRAMAbLETTER KHANDA TA"⟩,
  ⟨0x09D7, "BENGALI AU LENGTH MARK"⟩,
  ⟨0x09DC, "BENGALI LETTER RRAcRHA"⟩,
  ⟨0x09DF, "BENGALI LETTER YYAcVOCALIC RRdLLbVOWEL SIGN VOCALIC LeLL"⟩,
  ⟨0x09E6, "BENGALI DIGIT ZEROcONEcTWOcTHREEcFOURcFIVEcSIXcSEVENcEIGHTcNINE"⟩,
  ⟨0x09F0, "BENGALI LETTER RA WITH MIDDLE DIAGONALeLOWER DIAGONALbRUPEE MARKcSIGN"⟩,
  ⟨0x09F4, "BENGALI CURRENCY NUMERATOR ONEdTWOdTHREEdFOURdONE LESS THAN THE DENOMINATOR"⟩,
  ⟨0x09F9, "BENGALI CURRENCY DENOMINATOR SIXTEENbISSHARbGANDA MARKbLETTER VEDIC ANUSVARA"⟩,
  ⟨0x09FD, "BENGALI ABBREVIATION SIGNbSANDHI MARK"⟩,
  ⟨0x0A01, "GURMUKHI SIGN ADAK BINDIcBINDIcVISARGA"⟩,
  ⟨0x0A05, "GURMUKHI LETTER AcAAcIcIIcUcUU"⟩,
  ⟨0x0A0F, "GURMUKHI LETTER EEcAI"⟩,
  ⟨0x0A13, "GURMUKHI LETTER OOcAUcKAcKHAcGAcGHAcNGAcCAcCHAcJAcJHAcNYAcTTAcTTHAcDDAcDDHAcNNAcTA"⟩,
  ⟨0x0A25, "GURMUKHI LETTER THAcDAcDHAcNA"⟩,
  ⟨0x0A2A, "GURMUKHI LETTER PAcPHAcBAcBHAcMAcYAcRA"⟩,
  ⟨0x0A32, "GURMUKHI LETTER LAcLLA"⟩,
  ⟨0x0A35, "GURMUKHI LETTER VAcSHA"⟩,
  ⟨0x0A38, "GURMUKHI LETTER SAcHA"⟩,
  ⟨0x0A3C, "GURMUKHI SIGN NUKTA"⟩,
  ⟨0x0A3E, "GURMUKHI VOWEL SIGN AAdIdIIdUdUU"⟩,
  ⟨0x0A47, "GURMUKHI VOWEL SIGN EEdAI"⟩,
  ⟨0x0A4B, "GURMUKHI VOWEL SIGN OOdAUbSIGN VIRAMA"⟩,
  ⟨0x0A51, "GURMUKHI SIGN UDAAT"⟩,
  ⟨0x0A59, "GURMUKHI LETTER KHHAcGHHAcZAcRRA"⟩,
  ⟨0x0A5E, "GURMUKHI LETTER FA"⟩,
  ⟨0x0A66, "GURMUKHI DIGIT ZEROcONEcTWOcTHREEcFOURcFIVEcSIXcSEVENcEIGHTcNINEbTIPPIbADDAKbIRIbURA"⟩,
  ⟨0x0A74, "GURMUKHI EK ONKARbSIGN YAKASHbABBREVIATION SIGN"⟩,
  ⟨0x0A81, "GUJARATI SIGN CANDRABINDUcANUSVARAcVISARGA"⟩,
  ⟨0x0A85, "GUJARATI LETTER AcAAcIcIIcUcUUcVOCALIC RdLbVOWEL CANDRA E"⟩,
  ⟨0x0A8F, "GUJARATI LETTER EcAIbVOWEL CANDRA O"⟩,
  ⟨0x0A93, "GUJARATI LETTER OcAUcKAcKHAcGAcGHAcNGAcCAcCHAcJAcJHAcNYAcTTAcTTHAcDDAcDDHAcNNAcTAcTHA"⟩,
  ⟨0x0AA6, "GUJARATI LETTER DAcDHAcNA"⟩,
  ⟨0x0AAA, "GUJARATI LETTER PAcPHAcBAcBHAcMAcYAcRA"⟩,
  ⟨0x0AB2, "GUJARATI LETTER LAcLLA"⟩,
  ⟨0x0AB5, "GUJARATI LETTER VAcSHAcSSAcSAcHA"⟩,
  ⟨0x0ABC, "GUJARATI SIGN NUKTAcAVAGRAHAbVOWEL SIGN AAdIdIIdUdUUdVOCALIC ReRRdCANDRA E"⟩,
  ⟨0x0AC7, "GUJARATI VOWEL SIGN EdAIdCANDRA O"⟩,
  ⟨0x0ACB, "GUJARATI VOWEL SIGN OdAUbSIGN VIRAMA"⟩,
  ⟨0x0AD0, "GUJARATI OM"⟩,
  ⟨0x0AE0, "GUJARATI LETTER VOCALIC RRdLLbVOWEL SIGN VOCALIC LeLL"⟩,
  ⟨0x0AE6, "GUJARATI DIGIT ZEROcONEcTWOcTHREEcFOURcFIVEcSIXcSEVENcEIGHTcNINEbABBREVIATION SIGN"⟩,
  ⟨0x0AF1, "GUJARATI RUPEE SIGN"⟩,
  ⟨0x0AF9, "GUJARATI LETTER ZHAbSIGN SUKUNcSHADDAcMADDAHcTHREE-DOT NUKTA ABOVEcCIRCLE NUKTA ABOVE"⟩,
  ⟨0x0AFF, "GUJARATI SIGN TWO-CIRCLE NUKTA ABOVE"⟩,
  ⟨0x0B01, "ORIYA SIGN CANDRABINDUcANUSVARAcVISARGA"⟩,
  ⟨0x0B05, "ORIYA LETTER AcAAcIcIIcUcUUcVOCALIC RdL"⟩,
  ⟨0x0B0F, "ORIYA LETTER EcAI"⟩,
  ⟨0x0B13, "ORIYA LETTER OcAUcKAcKHAcGAcGHAcNGAcCAcCHAcJAcJHAcNYAcTTAcTTHAcDDAcDDHAcNNAcTAcTHAcDA"⟩,
  ⟨0x0B27, "ORIYA LETTER DHAcNA"⟩,
  ⟨0x0B2A, "ORIYA LETTER PAcPHAcBAcBHAcMAcYAcRA"⟩,
  ⟨0x0B32, "ORIYA LETTER LAcLLA"⟩,
  ⟨0x0B35, "ORIYA LETTER VAcSHAcSSAcSAcHA"⟩,
  ⟨0x0B3C, "ORIYA SIGN NUKTAcAVAGRAHAbVOWEL SIGN AAdIdIIdUdUUdVOCALIC ReRR"⟩,
  ⟨0x0B47, "ORIYA VOWEL SIGN EdAI"⟩,
  ⟨0x0B4B, "ORIYA VOWEL SIGN OdAUbSIGN VIRAMA"⟩,
  ⟨0x0B55, "ORIYA SIGN OVERLINEbAI LENGTH MARKbAU LENGTH MARK"⟩,
  ⟨0x0B5C, "ORIYA LETTER RRAcRHA"⟩,
  ⟨0x0B5F, "ORIYA LETTER YYAcVOCALIC RRdLLbVOWEL SIGN VOCALIC LeLL"⟩,
  ⟨0x0B66, "ORIYA DIGIT ZEROcONEcTWOcTHREEcFOURcFIVEcSIXcSEVENcEIGHTcNINEbISSHARbLETTER WA"⟩,
  ⟨0x0B72, "ORIYA FRACTION ONE QUARTERdHALFcTHREE QUARTERScONE SIXTEENTHdEIGHTHcTHREE SIXTEENTHS"⟩,
  ⟨0x0B82, "TAMIL SIGN ANUSVARAcVISARGA"⟩,
  ⟨0x0B85, "TAMIL LETTER AcAAcIcIIcUcUU"⟩,
  ⟨0x0B8E, "TAMIL LETTER EcEEcAI"⟩,
  ⟨0x0B92, "TAMIL LETTER OcOOcAUcKA"⟩,
  ⟨0x0B99, "TAMIL LETTER NGAcCA"⟩,
  ⟨0x0B9C, "TAMIL LETTER JA"⟩,
  ⟨0x0B9E, "TAMIL LETTER NYAcTTA"⟩,
  ⟨0x0BA3, "TAMIL LETTER NNAcTA"⟩,
  ⟨0x0BA8, "TAMIL LETTER NAcNNNAcPA"⟩,
  ⟨0x0BAE, "TAMIL LETTER MAcYAcRAcRRAcLAcLLAcLLLAcVAcSHAcSSAcSAcHA"⟩,
  ⟨0x0BBE, "TAMIL VOWEL SIGN AAdIdIIdUdUU"⟩,
  ⟨0x0BC6, "TAMIL VOWEL SIGN EdEEdAI"⟩,
  ⟨0x0BCA, "TAMIL VOWEL SIGN OdOOdAUbSIGN VIRAMA"⟩,
  ⟨0x0BD0, "TAMIL OM"⟩,
  ⟨0x0BD7, "TAMIL AU LENGTH MARK"⟩,
  ⟨0x0BE6, "TAMIL DIGIT ZEROcONEcTWOcTHREEcFOURcFIVEcSIXcSEVENcEIGHTcNINEbNUMBER TENcONE HUNDRED"⟩,
  ⟨0x0BF2, "TAMIL NUMBER ONE THOUSANDbDAY SIGNbMONTH SIGNbYEAR SIGNbDEBIT SIGNbCREDIT SIGN"⟩,
  ⟨0x0BF8, "TAMIL AS ABOVE SIGNbRUPEE SIGNbNUMBER SIGN"⟩,
  ⟨0x0C00, "TELUGU SIGN COMBINING CANDRABINDU ABOVEcCANDRABINDUcANUSVARAcVISARGA"⟩,
  ⟨0x0C04, "TELUGU SIGN COMBINING ANUSVARA ABOVEbLETTER AcAAcIcIIcUcUUcVOCALIC RdL"⟩,
  ⟨0x0C0E, "TELUGU LETTER EcEEcAI"⟩,
  ⟨0x0C12, "TELUGU LETTER OcOOcAUcKAcKHAcGAcGHAcNGAcCAcCHAcJAcJHAcNYAcTTAcTTHAcDDAcDDHAcNNAcTA"⟩,
  ⟨0x0C25, "TELUGU LETTER THAcDAcDHAcNA"⟩,
  ⟨0x0C2A, "TELUGU LETTER PAcPHAcBAcBHAcMAcYAcRAcRRAcLAcLLAcLLLAcVAcSHAcSSAcSAcHA"⟩,
  ⟨0x0C3C, "TELUGU SIGN NUKTAcAVAGRAHAbVOWEL SIGN AAdIdIIdUdUUdVOCALIC ReRR"⟩,
  ⟨0x0C46, "TELUGU VOWEL SIGN EdEEdAI"⟩,
  ⟨0x0C4A, "TELUGU VOWEL SIGN OdOOdAUbSIGN VIRAMA"⟩,
  ⟨0x0C55, "TELUGU LENGTH MARKbAI LENGTH MARK"⟩,
  ⟨0x0C58, "TELUGU LETTER TSAcDZAcRRRA"⟩,
  ⟨0x0C5D, "TELUGU LETTER NAKAARA POLLU"⟩,
  ⟨0x0C60, "TELUGU LETTER VOCALIC RRdLLbVOWEL SIGN VOCALIC LeLL"⟩,
  ⟨0x0C66, "TELUGU DIGIT ZEROcONEcTWOcTHREEcFOURcFIVEcSIXcSEVENcEIGHTcNINE"⟩,
  ⟨0x0C77, "TELUGU SIGN SIDDHAMbFRACTION DIGIT ZERO FOR ODD POWERS OF FOUR"⟩,
  ⟨0x0C79, "TELUGU FRACTION DIGIT ONE FOR ODD POWERS OF FOURdTWO FOR ODD POWERS OF FOUR"⟩,
  ⟨0x0C7B, "TELUGU FRACTION DIGIT THREE FOR ODD POWERS OF FOURdONE FOR EVEN POWERS OF FOUR"⟩,
  ⟨0x0C7D, "TELUGU FRACTION DIGIT TWO FOR EVEN POWERS OF FOURdTHREE FOR EVEN POWERS OF FOUR"⟩,
  ⟨0x0C7F, "TELUGU SIGN TUUMUaKANNADA SIGN SPACING CANDRABINDUcCANDRABINDUcANUSVARAcVISARGA"⟩,
  ⟨0x0C84, "KANNADA SIGN SIDDHAMbLETTER AcAAcIcIIcUcUUcVOCALIC RdL"⟩,
  ⟨0x0C8E, "KANNADA LETTER EcEEcAI"⟩,
  ⟨0x0C92, "KANNADA LETTER OcOOcAUcKAcKHAcGAcGHAcNGAcCAcCHAcJAcJHAcNYAcTTAcTTHAcDDAcDDHAcNNAcTA"⟩,
  ⟨0x0CA5, "KANNADA LETTER THAcDAcDHAcNA"⟩,
  ⟨0x0CAA, "KANNADA LETTER PAcPHAcBAcBHAcMAcYAcRAcRRAcLAcLLA"⟩,
  ⟨0x0CB5, "KANNADA LETTER VAcSHAcSSAcSAcHA"⟩,
  ⟨0x0CBC, "KANNADA SIGN NUKTAcAVAGRAHAbVOWEL SIGN AAdIdIIdUdUUdVOCALIC ReRR"⟩,
  ⟨0x0CC6, "KANNADA VOWEL SIGN EdEEdAI"⟩,
  ⟨0x0CCA, "KANNADA VOWEL SIGN OdOOdAUbSIGN VIRAMA"⟩,
  ⟨0x0CD5, "KANNADA LENGTH MARKbAI LENGTH MARK"⟩,
  ⟨0x0CDD, "KANNADA LETTER NAKAARA POLLUcFA"⟩,
  ⟨0x0CE0, "KANNADA LETTER VOCALIC RRdLLbVOWEL SIGN VOCALIC LeLL"⟩,
  ⟨0x0CE6, "KANNADA DIGIT ZEROcONEcTWOcTHREEcFOURcFIVEcSIXcSEVENcEIGHTcNINE"⟩,
  ⟨0x0CF1, "KANNADA SIGN JIHVAMULIYAcUPADHMANIYA"⟩,
  ⟨0x0D00, "MALAYALAM SIGN COMBINING ANUSVARA ABOVEcCANDRABINDUcANUSVARAcVISARGA"⟩,
  ⟨0x0D04, "MALAYALAM LETTER VEDIC ANUSVARAcAcAAcIcIIcUcUUcVOCALIC RdL"⟩,
  ⟨0x0D0E, "MALAYALAM LETTER EcEEcAI"⟩,
  ⟨0x0D12, "MALAYALAM LETTER OcOOcAUcKAcKHAcGAcGHAcNGAcCAcCHAcJAcJHAcNYAcTTAcTTHAcDDAcDDHAcNNAcTA"⟩,
  ⟨0x0D25, "MALAYALAM LETTER THAcDAcDHAcNAcNNNAcPAcPHAcBAcBHAcMAcYAcRAcRRAcLAcLLAcLLLAcVAcSHAcSSA"⟩,
  ⟨0x0D38, "MALAYALAM LETTER SAcHAcTTTAbSIGN VERTICAL BAR VIRAMAcCIRCULAR VIRAMAcAVAGRAHA"⟩,
  ⟨0x0D3E, "MALAYALAM VOWEL SIGN AAdIdIIdUdUUdVOCALIC ReRR"⟩,
  ⟨0x0D46, "MALAYALAM VOWEL SIGN EdEEdAI"⟩,
  ⟨0x0D4A, "MALAYALAM VOWEL SIGN OdOOdAUbSIGN VIRAMAbLETTER DOT REPHbSIGN PARA"⟩,
  ⟨0x0D54, "MALAYALAM LETTER CHILLU MdYdLLLbAU LENGTH MARKbFRACTION ONE ONE-HUNDRED-AND-SIXTIETH"⟩,
  ⟨0x0D59, "MALAYALAM FRACTION ONE FORTIETHcTHREE EIGHTIETHScONE TWENTIETHdTENTHcTHREE TWENTIETHS"⟩,
  ⟨0x0D5E, "MALAYALAM FRACTION ONE FIFTHbLETTER ARCHAIC IIcVOCALIC RRdLLbVOWEL SIGN VOCALIC LeLL"⟩,
  ⟨0x0D66, "MALAYALAM DIGIT ZEROcONEcTWOcTHREEcFOURcFIVEcSIXcSEVENcEIGHTcNINEbNUMBER TEN"⟩,
  ⟨0x0D71, "MALAYALAM NUMBER ONE HUNDREDdTHOUSANDbFRACTION ONE QUARTERdHALFcTHREE QUARTERS"⟩,
  ⟨0x0D76, "MALAYALAM FRACTION ONE SIXTEENTHdEIGHTHcTHREE SIXTEENTHSbDATE MARKbLETTER CHILLU NNdN"⟩,
  ⟨0x0D7C, "MALAYALAM LETTER CHILLU RRdLdLLdK"⟩,
  ⟨0x0D81, "SINHALA SIGN CANDRABINDUcANUSVARAYAcVISARGAYA"⟩,
  ⟨0x0D85, "SINHALA LETTER AYANNAcAAYANNAcAEYANNAcAEEYANNAcIYANNAcIIYANNAcUYANNAcUUYANNAcIRUYANNA"⟩,
  ⟨0x0D8E, "SINHALA LETTER IRUUYANNAcILUYANNAcILUUYANNAcEYANNAcEEYANNAcAIYANNAcOYANNAcOOYANNA"⟩,
  ⟨0x0D96, "SINHALA LETTER AUYANNA"⟩,
  ⟨0x0D9A, "SINHALA LETTER ALPAPRAANA KAYANNAcMAHAAPRAANA KAYANNAcALPAPRAANA GAYANNA"⟩,
  ⟨0x0D9D, "SINHALA LETTER MAHAAPRAANA GAYANNAcKANTAJA NAASIKYAYAcSANYAKA GAYANNA"⟩,
  ⟨0x0DA0, "SINHALA LETTER ALPAPRAANA CAYANNAcMAHAAPRAANA CAYANNAcALPAPRAANA JAYANNA"⟩,
  ⟨0x0DA3, "SINHALA LETTER MAHAAPRAANA JAYANNAcTAALUJA NAASIKYAYAdSANYOOGA NAAKSIKYAYA"⟩,
  ⟨0x0DA6, "SINHALA LETTER SANYAKA JAYANNAcALPAPRAANA TTAYANNAcMAHAAPRAANA TTAYANNA"⟩,
  ⟨0x0DA9, "SINHALA LETTER ALPAPRAANA DDAYANNAcMAHAAPRAANA DDAYANNAcMUURDHAJA NAYANNA"⟩,
  ⟨0x0DAC, "SINHALA LETTER SANYAKA DDAYANNAcALPAPRAANA TAYANNAcMAHAAPRAANA TAYANNA"⟩,
  ⟨0x0DAF, "SINHALA LETTER ALPAPRAANA DAYANNAcMAHAAPRAANA DAYANNAcDANTAJA NAYANNA"⟩,
  ⟨0x0DB3, "SINHALA LETTER SANYAKA DAYANNAcALPAPRAANA PAYANNAcMAHAAPRAANA PAYANNA"⟩,
  ⟨0x0DB6, "SINHALA LETTER ALPAPRAANA BAYANNAcMAHAAPRAANA BAYANNAcMAYANNAcAMBA BAYANNAcYAYANNA"⟩,
  ⟨0x0DBB, "SINHALA LETTER RAYANNA"⟩,
  ⟨0x0DBD, "SINHALA LETTER DANTAJA LAYANNA"⟩,
  ⟨0x0DC0, "SINHALA LETTER VAYANNAcTAALUJA SAYANNAcMUURDHAJA SAYANNAcDANTAJA SAYANNAcHAYANNA"⟩,
  ⟨0x0DC5, "SINHALA LETTER MUURDHAJA LAYANNAcFAYANNA"⟩,
  ⟨0x0DCA, "SINHALA SIGN AL-LAKUNA"⟩,
  ⟨0x0DCF, "SINHALA VOWEL SIGN AELA-PILLAdKETTI AEDA-PILLAdDIGA AEDA-PILLAdKETTI IS-PILLA"⟩,
  ⟨0x0DD3, "SINHALA VOWEL SIGN DIGA IS-PILLAdKETTI PAA-PILLA"⟩,
  ⟨0x0DD6, "SINHALA VOWEL SIGN DIGA PAA-PILLA"⟩,
  ⟨0x0DD8, "SINHALA VOWEL SIGN GAETTA-PILLAdKOMBUVAdDIGA KOMBUVAdKOMBU DEKA"⟩,
  ⟨0x0DDC, "SINHALA VOWEL SIGN KOMBUVA HAA AELA-PILLAfDIGA AELA-PILLAfGAYANUKITTAdGAYANUKITTA"⟩,
  ⟨0x0DE6, "SINHALA LITH DIGIT ZEROdONEdTWOdTHREEdFOURdFIVEdSIXdSEVENdEIGHTdNINE"⟩,
  ⟨0x0DF2, "SINHALA VOWEL SIGN DIGA GAETTA-PILLAeGAYANUKITTAbPUNCTUATION KUNDDALIYA"⟩,
  ⟨0x0E01, "THAI CHARACTER KO KAIcKHO KHAIdKHUATdKHWAIdKHONdRAKHANGcNGO NGUcCHO CHANdCHINGdCHANG"⟩,
  ⟨0x0E0B, "THAI CHARACTER SO SOcCHO CHOEcYO YINGcDO CHADAcTO PATAKcTHO THANdNANGMONTHOdPHUTHAO"⟩,
  ⟨0x0E13, "THAI CHARACTER NO NENcDO DEKcTO TAOcTHO THUNGdTHAHANdTHONGcNO NUcBO BAIMAIcPO PLA"⟩,
  ⟨0x0E1C, "THAI CHARACTER PHO PHUNGcFO FAcPHO PHANcFO FANcPHO SAMPHAOcMO MAcYO YAKcRO RUAcRU"⟩,
  ⟨0x0E25, "THAI CHARACTER LO LINGcLUcWO WAENcSO SALAdRUSIdSUAcHO HIPcLO CHULAcO ANGcHO NOKHUK"⟩,
  ⟨0x0E2F, "THAI CHARACTER PAIYANNOIcSARA AcMAI HAN-AKATcSARA AAdAMdIdIIdUEdUEEdUdUUcPHINTHU"⟩,
  ⟨0x0E3F, "THAI CURRENCY SYMBOL BAHTbCHARACTER SARA EdAEdOdAI MAIMUANeMAIMALAIcLAKKHANGYAO"⟩,
  ⟨0x0E46, "THAI CHARACTER MAIYAMOKcMAITAIKHUcMAI EKdTHOdTRIdCHATTAWAcTHANTHAKHATcNIKHAHIT"⟩,
  ⟨0x0E4E, "THAI CHARACTER YAMAKKANcFONGMANbDIGIT ZEROcONEcTWOcTHREEcFOURcFIVEcSIXcSEVENcEIGHT"⟩,
  ⟨0x0E59, "THAI DIGIT NINEbCHARACTER ANGKHANKHUcKHOMUT"⟩,
  ⟨0x0E81, "LAO LETTER KOcKHO SUNG"⟩,
  ⟨0x0E84, "LAO LETTER KHO TAM"⟩,
  ⟨0x0E86, "LAO LETTER PALI GHAcNGOcCOcPALI CHAcSO TAM"⟩,
  ⟨0x0E8C, "LAO LETTER PALI JHAcNYOcPALI NYAdTTAdTTHAdDDAdDDHAdNNAcDOcTOcTHO SUNGdTAMcPALI DHAcNO"⟩,
  ⟨0x0E9A, "LAO LETTER BOcPOcPHO SUNGcFO TAMcPHO TAMcFO SUNGcPALI BHAcMOcYOcLO LING"⟩,
  ⟨0x0EA5, "LAO LETTER LO LOOT"⟩,
  ⟨0x0EA7, "LAO LETTER WOcSANSKRIT SHAdSSAcSO SUNGcHO SUNGcPALI LLAcOcHO TAMbELLIPSIS"⟩,
  ⟨0x0EB0, "LAO VOWEL SIGN AdMAI KANdAAdAMdIdIIdYdYYdUdUUbSIGN PALI VIRAMAbVOWEL SIGN MAI KON"⟩,
  ⟨0x0EBC, "LAO SEMIVOWEL SIGN LOdNYO"⟩,
  ⟨0x0EC0, "LAO VOWEL SIGN EdEIdOdAYdAI"⟩,
  ⟨0x0EC6, "LAO KO LA"⟩,
  ⟨0x0EC8, "LAO TONE MAI EKdTHOdTIdCATAWAbCANCELLATION MARKbNIGGAHITA"⟩,
  ⟨0x0ED0, "LAO DIGIT ZEROcONEcTWOcTHREEcFOURcFIVEcSIXcSEVENcEIGHTcNINE"⟩,
  ⟨0x0EDC, "LAO HO NOcMObLETTER KHMU GOdNYO"⟩,
  ⟨0x0F00, "TIBETAN SYLLABLE OMbMARK GTER YIG MGO TRUNCATED Af-UM RNAM BCAD MAhGTER TSHEG MA"⟩,
  ⟨0x0F04, "TIBETAN MARK INITIAL YIG MGO MDUN MAcCLOSING YIG MGO SGAB MA"⟩,
  ⟨0x0F06, "TIBETAN MARK CARET YIG MGO PHUR SHAD MAcYIG MGO TSHEG SHAD MAcSBRUL SHAD"⟩,
  ⟨0x0F09, "TIBETAN MARK BSKUR YIG MGOcBKA- SHOG YIG MGOcINTERSYLLABIC TSHEG"⟩,
  ⟨0x0F0C, "TIBETAN MARK DELIMITER TSHEG BSTARcSHADcNYIS SHADcTSHEG SHADcNYIS TSHEG SHAD"⟩,
  ⟨0x0F11, "TIBETAN MARK RIN CHEN SPUNGS SHADcRGYA GRAM SHADcCARET -DZUD RTAGS ME LONG CAN"⟩,
  ⟨0x0F14, "TIBETAN MARK GTER TSHEGbLOGOTYPE SIGN CHAD RTAGSdLHAG RTAGS"⟩,
  ⟨0x0F17, "TIBETAN ASTROLOGICAL SIGN SGRA GCAN -CHAR RTAGSd-KHYUD PAdSDONG TSHUGS"⟩,
  ⟨0x0F1A, "TIBETAN SIGN RDEL DKAR GCIGeGNYISeGSUMdNAG GCIGeGNYISdDKAR RDEL NAGbDIGIT ZEROcONE"⟩,
  ⟨0x0F22, "TIBETAN DIGIT TWOcTHREEcFOURcFIVEcSIXcSEVENcEIGHTcNINEcHALF ONEdTWOdTHREEdFOURdFIVE"⟩,
  ⟨0x0F2F, "TIBETAN DIGIT HALF SIXdSEVENdEIGHTdNINEdZERObMARK BSDUS RTAGScNGAS BZUNG NYI ZLA"⟩,
  ⟨0x0F36, "TIBETAN MARK CARET -DZUD RTAGS BZHI MIG CANcNGAS BZUNG SGOR RTAGScCHE MGOcTSA -PHRU"⟩,
  ⟨0x0F3A, "TIBETAN MARK GUG RTAGS GYONeGYAScANG KHANG GYONeGYASbSIGN YAR TSHEScMAR TSHES"⟩,
  ⟨0x0F40, "TIBETAN LETTER KAcKHAcGAcGHAcNGAcCAcCHAcJA"⟩,
  ⟨0x0F49, "TIBETAN LETTER NYAcTTAcTTHAcDDAcDDHAcNNAcTAcTHAcDAcDHAcNAcPAcPHAcBAcBHAcMAcTSAcTSHA"⟩,
  ⟨0x0F5B, "TIBETAN LETTER DZAcDZHAcWAcZHAcZAc-AcYAcRAcLAcSHAcSSAcSAcHAcAcKSSAcFIXED-FORM RAcKKA"⟩,
  ⟨0x0F6C, "TIBETAN LETTER RRA"⟩,
  ⟨0x0F71, "TIBETAN VOWEL SIGN AAdIdIIdUdUUdVOCALIC ReRReLeLLdEdEEdOdOObSIGN RJES SU NGA RO"⟩,
  ⟨0x0F7F, "TIBETAN SIGN RNAM BCADbVOWEL SIGN REVERSED IeIIbSIGN NYI ZLA NAA DAcSNA LDAN"⟩,
  ⟨0x0F84, "TIBETAN MARK HALANTAcPALUTAbSIGN LCI RTAGScYANG RTAGScLCE TSA CANcMCHU CAN"⟩,
  ⟨0x0F8A, "TIBETAN SIGN GRU CAN RGYINGSdMED RGYINGScINVERTED MCHU CANbSUBJOINED SIGN LCE TSA CAN"⟩,
  ⟨0x0F8E, "TIBETAN SUBJOINED SIGN MCHU CANdINVERTED MCHU CANcLETTER KAdKHAdGAdGHAdNGAdCAdCHAdJA"⟩,
  ⟨0x0F99, "TIBETAN SUBJOINED LETTER NYAdTTAdTTHAdDDAdDDHAdNNAdTAdTHAdDAdDHAdNAdPAdPHAdBAdBHAdMA"⟩,
  ⟨0x0FA9, "TIBETAN SUBJOINED LETTER TSAdTSHAdDZAdDZHAdWAdZHAdZAd-AdYAdRAdLAdSHAdSSAdSAdHAdAdKSSA"⟩,
  ⟨0x0FBA, "TIBETAN SUBJOINED LETTER FIXED-FORM WAfYAfRA"⟩,
  ⟨0x0FBE, "TIBETAN KU RU KHAdKHA BZHI MIG CANbCANTILLATION SIGN HEAVY BEATdLIGHT BEATdCANG TE-U"⟩,
  ⟨0x0FC3, "TIBETAN CANTILLATION SIGN SBUB -CHALbSYMBOL DRIL BUcRDO RJEcPADMA GDAN"⟩,
  ⟨0x0FC7, "TIBETAN SYMBOL RDO RJE RGYA GRAMcPHUR PAcNOR BUdBU NYIS -KHYILeGSUM -KHYIL"⟩,
  ⟨0x0FCC, "TIBETAN SYMBOL NOR BU BZHI -KHYIL"⟩,
  ⟨0x0FCE, "TIBETAN SIGN RDEL NAG RDEL DKAReGSUMbMARK BSKA- SHOG GI MGO RGYAN"⟩,
  ⟨0x0FD1, "TIBETAN MARK MNYAM YIG GI MGO RGYANcNYIS TSHEGcINITIAL BRDA RNYING YIG MGO MDUN MA"⟩,
  ⟨0x0FD4, "TIBETAN MARK CLOSING BRDA RNYING YIG MGO SGAB MAaRIGHT-FACING SVASTI SIGN"⟩,
  ⟨0x0FD6, "LEFT-FACING SVASTI SIGNaRIGHT-FACING SVASTI SIGN WITH DOTS"⟩,
  ⟨0x0FD8, "LEFT-FACING SVASTI SIGN WITH DOTSaTIBETAN MARK LEADING MCHAN RTAGS"⟩,
  ⟨0x0FDA, "TIBETAN MARK TRAILING MCHAN RTAGS"⟩,
  ⟨0x1000, "MYANMAR LETTER KAcKHAcGAcGHAcNGAcCAcCHAcJAcJHAcNYAcNNYAcTTAcTTHAcDDAcDDHAcNNAcTAcTHA"⟩,
  ⟨0x1012, "MYANMAR LETTER DAcDHAcNAcPAcPHAcBAcBHAcMAcYAcRAcLAcWAcSAcHAcLLAcAcSHAN AcIcIIcUcUUcE"⟩,
  ⟨0x1028, "MYANMAR LETTER MON EcOcAUbVOWEL SIGN TALL AAdAAdIdIIdUdUUdEdAIdMON IIeOdE ABOVE"⟩,
  ⟨0x1036, "MYANMAR SIGN ANUSVARAcDOT BELOWcVISARGAcVIRAMAcASATbCONSONANT SIGN MEDIAL YAeRAeWAeHA"⟩,
  ⟨0x103F, "MYANMAR LETTER GREAT SAbDIGIT ZEROcONEcTWOcTHREEcFOURcFIVEcSIXcSEVENcEIGHTcNINE"⟩,
  ⟨0x104A, "MYANMAR SIGN LITTLE SECTIONcSECTIONbSYMBOL LOCATIVEcCOMPLETEDcAFOREMENTIONEDcGENITIVE"⟩,
  ⟨0x1050, "MYANMAR LETTER SHAcSSAcVOCALIC RdRRdLdLLbVOWEL SIGN VOCALIC ReRReLeLLbLETTER MON NGA"⟩,
  ⟨0x105B, "MYANMAR LETTER MON JHAdBBAdBBEbCONSONANT SIGN MON MEDIAL NAfMAfLA"⟩,
  ⟨0x1061, "MYANMAR LETTER SGAW KAREN SHAbVOWEL SIGN SGAW KAREN EUbTONE MARK SGAW KAREN HATHI"⟩,
  ⟨0x1064, "MYANMAR TONE MARK SGAW KAREN KE PHObLETTER WESTERN PWO KAREN THAfPWA"⟩,
  ⟨0x1067, "MYANMAR VOWEL SIGN WESTERN PWO KAREN EUgUEbSIGN WESTERN PWO KAREN TONE-1g2g3g4g5"⟩,
  ⟨0x106E, "MYANMAR LETTER EASTERN PWO KAREN NNAfYWAfGHWAbVOWEL SIGN GEBA KAREN IdKAYAH OEeUeEE"⟩,
  ⟨0x1075, "MYANMAR LETTER SHAN KAdKHAdGAdCAdZAdNYAdDAdNAdPHAdFAdBAdTHAdHA"⟩,
  ⟨0x1082, "MYANMAR CONSONANT SIGN SHAN MEDIAL WAbVOWEL SIGN SHAN AAeEeE ABOVEeFINAL Y"⟩,
  ⟨0x1087, "MYANMAR SIGN SHAN TONE-2e3e5e6dCOUNCIL TONE-2f3eEMPHATIC TONEbLETTER RUMAI PALAUNG FA"⟩,
  ⟨0x108F, "MYANMAR SIGN RUMAI PALAUNG TONE-5bSHAN DIGIT ZEROdONEdTWOdTHREEdFOURdFIVEdSIXdSEVEN"⟩,
  ⟨0x1098, "MYANMAR SHAN DIGIT EIGHTdNINEbSIGN KHAMTI TONE-1e3bVOWEL SIGN AITON AeAI"⟩,
  ⟨0x109E, "MYANMAR SYMBOL SHAN ONEdEXCLAMATIONaGEORGIAN CAPITAL LETTER ANdBANdGANdDONdENdVINdZEN"⟩,
  ⟨0x10A7, "GEORGIAN CAPITAL LETTER TANdINdKANdLASdMANdNARdONdPARdZHARdRAEdSANdTARdUNdPHARdKHAR"⟩,
  ⟨0x10B6, "GEORGIAN CAPITAL LETTER GHANdQARdSHINdCHINdCANdJILdCILdCHARdXANdJHANdHAEdHEdHIEdWE"⟩,
  ⟨0x10C4, "GEORGIAN CAPITAL LETTER HARdHOE"⟩,
  ⟨0x10C7, "GEORGIAN CAPITAL LETTER YN"⟩,
  ⟨0x10CD, "GEORGIAN CAPITAL LETTER AEN"⟩,
  ⟨0x10D0, "GEORGIAN LETTER ANcBANcGANcDONcENcVINcZENcTANcINcKANcLAScMANcNARcONcPARcZHARcRAEcSAN"⟩,
  ⟨0x10E2, "GEORGIAN LETTER TARcUNcPHARcKHARcGHANcQARcSHINcCHINcCANcJILcCILcCHARcXANcJHANcHAEcHE"⟩,
  ⟨0x10F2, "GEORGIAN LETTER HIEcWEcHARcHOEcFIcYNcELIFIcTURNED GANcAINbPARAGRAPH SEPARATOR"⟩,
  ⟨0x10FC, "MODIFIER LETTER GEORGIAN NARaGEORGIAN LETTER AENcHARD SIGNcLABIAL SIGN"⟩,
  ⟨0x1100, "HANGUL CHOSEONG KIYEOKcSSANGKIYEOKcNIEUNcTIKEUTcSSANGTIKEUTcRIEULcMIEUMcPIEUP"⟩,
  ⟨0x1108, "HANGUL CHOSEONG SSANGPIEUPcSIOScSSANGSIOScIEUNGcCIEUCcSSANGCIEUCcCHIEUCHcKHIEUKH"⟩,
  ⟨0x1110, "HANGUL CHOSEONG THIEUTHcPHIEUPHcHIEUHcNIEUN-KIYEOKcSSANGNIEUNcNIEUN-TIKEUTdPIEUP"⟩,
  ⟨0x1117, "HANGUL CHOSEONG TIKEUT-KIYEOKcRIEUL-NIEUNcSSANGRIEULcRIEUL-HIEUHcKAPYEOUNRIEUL"⟩,
  ⟨0x111C, "HANGUL CHOSEONG MIEUM-PIEUPcKAPYEOUNMIEUMcPIEUP-KIYEOKdNIEUNdTIKEUTdSIOSdSIOS-KIYEOK"⟩,
  ⟨0x1123, "HANGUL CHOSEONG PIEUP-SIOS-TIKEUTePIEUPdSSANGSIOSdSIOS-CIEUCdCIEUCdCHIEUCHdTHIEUTH"⟩,
  ⟨0x112A, "HANGUL CHOSEONG PIEUP-PHIEUPHcKAPYEOUNPIEUPcKAPYEOUNSSANGPIEUPcSIOS-KIYEOKdNIEUN"⟩,
  ⟨0x112F, "HANGUL CHOSEONG SIOS-TIKEUTdRIEULdMIEUMdPIEUPdPIEUP-KIYEOKdSSANGSIOSdIEUNGdCIEUC"⟩,
  ⟨0x1137, "HANGUL CHOSEONG SIOS-CHIEUCHdKHIEUKHdTHIEUTHdPHIEUPHdHIEUHcCHITUEUMSIOS"⟩,
  ⟨0x113D, "HANGUL CHOSEONG CHITUEUMSSANGSIOScCEONGCHIEUMSIOScCEONGCHIEUMSSANGSIOScPANSIOS"⟩,
  ⟨0x1141, "HANGUL CHOSEONG IEUNG-KIYEOKdTIKEUTdMIEUMdPIEUPdSIOSdPANSIOScSSANGIEUNGcIEUNG-CIEUC"⟩,
  ⟨0x1149, "HANGUL CHOSEONG IEUNG-CHIEUCHdTHIEUTHdPHIEUPHcYESIEUNGcCIEUC-IEUNGcCHITUEUMCIEUC"⟩,
  ⟨0x114F, "HANGUL CHOSEONG CHITUEUMSSANGCIEUCcCEONGCHIEUMCIEUCcCEONGCHIEUMSSANGCIEUC"⟩,
  ⟨0x1152, "HANGUL CHOSEONG CHIEUCH-KHIEUKHdHIEUHcCHITUEUMCHIEUCHcCEONGCHIEUMCHIEUCH"⟩,
  ⟨0x1156, "HANGUL CHOSEONG PHIEUPH-PIEUPcKAPYEOUNPHIEUPHcSSANGHIEUHcYEORINHIEUHcKIYEOK-TIKEUT"⟩,
  ⟨0x115B, "HANGUL CHOSEONG NIEUN-SIOSdCIEUCdHIEUHcTIKEUT-RIEULcFILLERbJUNGSEONG FILLERcAcAEcYA"⟩,
  ⟨0x1164, "HANGUL JUNGSEONG YAEcEOcEcYEOcYEcOcWAcWAEcOEcYOcUcWEOcWEcWIcYUcEUcYIcIcA-OdUcYA-OdYO"⟩,
  ⟨0x117A, "HANGUL JUNGSEONG EO-OdUdEUcYEO-OdUcO-EOdEdYEdOdUcYO-YAdYAEdYEOdOdIcU-AdAEdEO-EUdYEdU"⟩,
  ⟨0x118E, "HANGUL JUNGSEONG YU-AdEOdEdYEOdYEdUdIcEU-UdEUcYI-UcI-AdYAdOdUdEUdARAEAcARAEAcARAEA-EO"⟩,
  ⟨0x11A0, "HANGUL JUNGSEONG ARAEA-UdIcSSANGARAEAcA-EUcYA-UcYEO-YAcO-YAdYAEbJONGSEONG KIYEOK"⟩,
  ⟨0x11A9, "HANGUL JONGSEONG SSANGKIYEOKcKIYEOK-SIOScNIEUNcNIEUN-CIEUCdHIEUHcTIKEUTcRIEUL"⟩,
  ⟨0x11B0, "HANGUL JONGSEONG RIEUL-KIYEOKdMIEUMdPIEUPdSIOSdTHIEUTHdPHIEUPHdHIEUHcMIEUMcPIEUP"⟩,
  ⟨0x11B9, "HANGUL JONGSEONG PIEUP-SIOScSIOScSSANGSIOScIEUNGcCIEUCcCHIEUCHcKHIEUKHcTHIEUTH"⟩,
  ⟨0x11C1, "HANGUL JONGSEONG PHIEUPHcHIEUHcKIYEOK-RIEULdSIOS-KIYEOKcNIEUN-KIYEOKdTIKEUTdSIOS"⟩,
  ⟨0x11C8, "HANGUL JONGSEONG NIEUN-PANSIOSdTHIEUTHcTIKEUT-KIYEOKdRIEULcRIEUL-KIYEOK-SIOSdNIEUN"⟩,
  ⟨0x11CE, "HANGUL JONGSEONG RIEUL-TIKEUTdTIKEUT-HIEUHcSSANGRIEULcRIEUL-MIEUM-KIYEOKeSIOS"⟩,
  ⟨0x11D3, "HANGUL JONGSEONG RIEUL-PIEUP-SIOSeHIEUHdKAPYEOUNPIEUPdSSANGSIOSdPANSIOSdKHIEUKH"⟩,
  ⟨0x11D9, "HANGUL JONGSEONG RIEUL-YEORINHIEUHcMIEUM-KIYEOKdRIEULdPIEUPdSIOSdSSANGSIOSdPANSIOS"⟩,
  ⟨0x11E0, "HANGUL JONGSEONG MIEUM-CHIEUCHdHIEUHcKAPYEOUNMIEUMcPIEUP-RIEULdPHIEUPHdHIEUH"⟩,
  ⟨0x11E6, "HANGUL JONGSEONG KAPYEOUNPIEUPcSIOS-KIYEOKdTIKEUTdRIEULdPIEUPcPANSIOScIEUNG-KIYEOK"⟩,
  ⟨0x11ED, "HANGUL JONGSEONG IEUNG-SSANGKIYEOKcSSANGIEUNGcIEUNG-KHIEUKHcYESIEUNGcYESIEUNG-SIOS"⟩,
  ⟨0x11F2, "HANGUL JONGSEONG YESIEUNG-PANSIOScPHIEUPH-PIEUPcKAPYEOUNPHIEUPHcHIEUH-NIEUNdRIEUL"⟩,
  ⟨0x11F7, "HANGUL JONGSEONG HIEUH-MIEUMdPIEUPcYEORINHIEUHcKIYEOK-NIEUNdPIEUPdCHIEUCHdKHIEUKH"⟩,
  ⟨0x11FE, "HANGUL JONGSEONG KIYEOK-HIEUHcSSANGNIEUNaETHIOPIC SYLLABLE HAcHUcHIcHAAcHEEcHEcHOcHOA"⟩,
  ⟨0x1208, "ETHIOPIC SYLLABLE LAcLUcLIcLAAcLEEcLEcLOcLWAcHHAcHHUcHHIcHHAAcHHEEcHHEcHHOcHHWAcMAcMU"⟩,
  ⟨0x121A, "ETHIOPIC SYLLABLE MIcMAAcMEEcMEcMOcMWAcSZAcSZUcSZIcSZAAcSZEEcSZEcSZOcSZWAcRAcRUcRI"⟩,
  ⟨0x122B, "ETHIOPIC SYLLABLE RAAcREEcREcROcRWAcSAcSUcSIcSAAcSEEcSEcSOcSWAcSHAcSHUcSHIcSHAAcSHEE"⟩,
  ⟨0x123D, "ETHIOPIC SYLLABLE SHEcSHOcSHWAcQAcQUcQIcQAAcQEEcQEcQOcQOAcQWA"⟩,
  ⟨0x124A, "ETHIOPIC SYLLABLE QWIcQWAAcQWEEcQWE"⟩,
  ⟨0x1250, "ETHIOPIC SYLLABLE QHAcQHUcQHIcQHAAcQHEEcQHEcQHO"⟩,
  ⟨0x1258, "ETHIOPIC SYLLABLE QHWA"⟩,
  ⟨0x125A, "ETHIOPIC SYLLABLE QHWIcQHWAAcQHWEEcQHWE"⟩,
  ⟨0x1260, "ETHIOPIC SYLLABLE BAcBUcBIcBAAcBEEcBEcBOcBWAcVAcVUcVIcVAAcVEEcVEcVOcVWAcTAcTUcTIcTAA"⟩,
  ⟨0x1274, "ETHIOPIC SYLLABLE TEEcTEcTOcTWAcCAcCUcCIcCAAcCEEcCEcCOcCWAcXAcXUcXIcXAAcXEEcXEcXOcXOA"⟩,
  ⟨0x1288, "ETHIOPIC SYLLABLE XWA"⟩,
  ⟨0x128A, "ETHIOPIC SYLLABLE XWIcXWAAcXWEEcXWE"⟩,
  ⟨0x1290, "ETHIOPIC SYLLABLE NAcNUcNIcNAAcNEEcNEcNOcNWAcNYAcNYUcNYIcNYAAcNYEEcNYEcNYOcNYWA"⟩,
  ⟨0x12A0, "ETHIOPIC SYLLABLE GLOTTAL AdUdIdAAdEEdEdOdWAcKAcKUcKIcKAAcKEEcKEcKOcKOAcKWA"⟩,
  ⟨0x12B2, "ETHIOPIC SYLLABLE KWIcKWAAcKWEEcKWE"⟩,
  ⟨0x12B8, "ETHIOPIC SYLLABLE KXAcKXUcKXIcKXAAcKXEEcKXEcKXO"⟩,
  ⟨0x12C0, "ETHIOPIC SYLLABLE KXWA"⟩,
  ⟨0x12C2, "ETHIOPIC SYLLABLE KXWIcKXWAAcKXWEEcKXWE"⟩,
  ⟨0x12C8, "ETHIOPIC SYLLABLE WAcWUcWIcWAAcWEEcWEcWOcWOAcPHARYNGEAL AdUdIdAAdEEdEdO"⟩,
  ⟨0x12D8, "ETHIOPIC SYLLABLE ZAcZUcZIcZAAcZEEcZEcZOcZWAcZHAcZHUcZHIcZHAAcZHEEcZHEcZHOcZHWAcYAcYU"⟩,
  ⟨0x12EA, "ETHIOPIC SYLLABLE YIcYAAcYEEcYEcYOcYOAcDAcDUcDIcDAAcDEEcDEcDOcDWAcDDAcDDUcDDIcDDAA"⟩,
  ⟨0x12FC, "ETHIOPIC SYLLABLE DDEEcDDEcDDOcDDWAcJAcJUcJIcJAAcJEEcJEcJOcJWAcGAcGUcGIcGAAcGEEcGEcGO"⟩,
  ⟨0x130F, "ETHIOPIC SYLLABLE GOAcGWA"⟩,
  ⟨0x1312, "ETHIOPIC SYLLABLE GWIcGWAAcGWEEcGWE"⟩,
  ⟨0x1318, "ETHIOPIC SYLLABLE GGAcGGUcGGIcGGAAcGGEEcGGEcGGOcGGWAAcTHAcTHUcTHIcTHAAcTHEEcTHEcTHO"⟩,
  ⟨0x1327, "ETHIOPIC SYLLABLE THWAcCHAcCHUcCHIcCHAAcCHEEcCHEcCHOcCHWAcPHAcPHUcPHIcPHAAcPHEEcPHE"⟩,
  ⟨0x1336, "ETHIOPIC SYLLABLE PHOcPHWAcTSAcTSUcTSIcTSAAcTSEEcTSEcTSOcTSWAcTZAcTZUcTZIcTZAAcTZEE"⟩,
  ⟨0x1345, "ETHIOPIC SYLLABLE TZEcTZOcTZOAcFAcFUcFIcFAAcFEEcFEcFOcFWAcPAcPUcPIcPAAcPEEcPEcPOcPWA"⟩,
  ⟨0x1358, "ETHIOPIC SYLLABLE RYAcMYAcFYA"⟩,
  ⟨0x135D, "ETHIOPIC COMBINING GEMINATION AND VOWEL LENGTH MARKcVOWEL LENGTH MARKcGEMINATION MARK"⟩,
  ⟨0x1360, "ETHIOPIC SECTION MARKbWORDSPACEbFULL STOPbCOMMAbSEMICOLONbCOLONbPREFACE COLON"⟩,
  ⟨0x1367, "ETHIOPIC QUESTION MARKbPARAGRAPH SEPARATORbDIGIT ONEcTWOcTHREEcFOURcFIVEcSIXcSEVEN"⟩,
  ⟨0x1370, "ETHIOPIC DIGIT EIGHTcNINEbNUMBER TENcTWENTYcTHIRTYcFORTYcFIFTYcSIXTYcSEVENTYcEIGHTY"⟩,
  ⟨0x137A, "ETHIOPIC NUMBER NINETYcHUNDREDcTEN THOUSAND"⟩,
  ⟨0x1380, "ETHIOPIC SYLLABLE SEBATBEIT MWAcMWIcMWEEcMWEcSEBATBEIT BWAcBWIcBWEEcBWEcSEBATBEIT FWA"⟩,
  ⟨0x1389, "ETHIOPIC SYLLABLE FWIcFWEEcFWEcSEBATBEIT PWAcPWIcPWEEcPWEbTONAL MARK YIZETdDERET"⟩,
  ⟨0x1392, "ETHIOPIC TONAL MARK RIKRIKdSHORT RIKRIKdDIFATdKENATdCHIRETdHIDETdDERET-HIDETdKURT"⟩,
  ⟨0x13A0, "CHEROKEE LETTER AcEcIcOcUcVcGAcKAcGEcGIcGOcGUcGVcHAcHEcHIcHOcHUcHVcLAcLEcLIcLOcLUcLV"⟩,
  ⟨0x13B9, "CHEROKEE LETTER MAcMEcMIcMOcMUcNAcHNAcNAHcNEcNIcNOcNUcNVcQUAcQUEcQUIcQUOcQUUcQUVcSAcS"⟩,
  ⟨0x13CE, "CHEROKEE LETTER SEcSIcSOcSUcSVcDAcTAcDEcTEcDIcTIcDOcDUcDVcDLAcTLAcTLEcTLIcTLOcTLUcTLV"⟩,
  ⟨0x13E3, "CHEROKEE LETTER TSAcTSEcTSIcTSOcTSUcTSVcWAcWEcWIcWOcWUcWVcYAcYEcYIcYOcYUcYVcMV"⟩,
  ⟨0x13F8, "CHEROKEE SMALL LETTER YEdYIdYOdYUdYVdMV"⟩,
  ⟨0x1400, "CANADIAN SYLLABICS HYPHENcEcAAIcIcIIcOcOOcY-CREE OOcCARRIER EEdIcAcAAcWEcWEST-CREE WE"⟩,
  ⟨0x140E, "CANADIAN SYLLABICS WIcWEST-CREE WIcWIIcWEST-CREE WIIcWOcWEST-CREE WOcWOO"⟩,
  ⟨0x1415, "CANADIAN SYLLABICS WEST-CREE WOOcNASKAPI WOOcWAcWEST-CREE WAcWAAcWEST-CREE WAA"⟩,
  ⟨0x141B, "CANADIAN SYLLABICS NASKAPI WAAcAIcY-CREE WcGLOTTAL STOPcFINAL ACUTEdGRAVE"⟩,
  ⟨0x1421, "CANADIAN SYLLABICS FINAL BOTTOM HALF RINGdTOP HALF RINGdRIGHT HALF RINGdRING"⟩,
  ⟨0x1425, "CANADIAN SYLLABICS FINAL DOUBLE ACUTEeSHORT VERTICAL STROKESdMIDDLE DOT"⟩,
  ⟨0x1428, "CANADIAN SYLLABICS FINAL SHORT HORIZONTAL STROKEdPLUSdDOWN TACKcENcINcONcANcPEcPAAI"⟩,
  ⟨0x1431, "CANADIAN SYLLABICS PIcPIIcPOcPOOcY-CREE POOcCARRIER HEEdHIcPAcPAAcPWEcWEST-CREE PWE"⟩,
  ⟨0x143C, "CANADIAN SYLLABICS PWIcWEST-CREE PWIcPWIIcWEST-CREE PWIIcPWOcWEST-CREE PWOcPWOO"⟩,
  ⟨0x1443, "CANADIAN SYLLABICS WEST-CREE PWOOcPWAcWEST-CREE PWAcPWAAcWEST-CREE PWAAcY-CREE PWAAcP"⟩,
  ⟨0x144A, "CANADIAN SYLLABICS WEST-CREE PcCARRIER HcTEcTAAIcTIcTIIcTOcTOOcY-CREE TOOcCARRIER DEE"⟩,
  ⟨0x1454, "CANADIAN SYLLABICS CARRIER DIcTAcTAAcTWEcWEST-CREE TWEcTWIcWEST-CREE TWIcTWII"⟩,
  ⟨0x145C, "CANADIAN SYLLABICS WEST-CREE TWIIcTWOcWEST-CREE TWOcTWOOcWEST-CREE TWOOcTWA"⟩,
  ⟨0x1462, "CANADIAN SYLLABICS WEST-CREE TWAcTWAAcWEST-CREE TWAAcNASKAPI TWAAcTcTTEcTTIcTTOcTTA"⟩,
  ⟨0x146B, "CANADIAN SYLLABICS KEcKAAIcKIcKIIcKOcKOOcY-CREE KOOcKAcKAAcKWEcWEST-CREE KWEcKWI"⟩,
  ⟨0x1477, "CANADIAN SYLLABICS WEST-CREE KWIcKWIIcWEST-CREE KWIIcKWOcWEST-CREE KWOcKWOO"⟩,
  ⟨0x147D, "CANADIAN SYLLABICS WEST-CREE KWOOcKWAcWEST-CREE KWAcKWAAcWEST-CREE KWAAcNASKAPI KWAA"⟩,
  ⟨0x1483, "CANADIAN SYLLABICS KcKWcSOUTH-SLAVEY KEHeKIHeKOHeKAHcCEcCAAIcCIcCIIcCOcCOOcY-CREE COO"⟩,
  ⟨0x1490, "CANADIAN SYLLABICS CAcCAAcCWEcWEST-CREE CWEcCWIcWEST-CREE CWIcCWIIcWEST-CREE CWIIcCWO"⟩,
  ⟨0x1499, "CANADIAN SYLLABICS WEST-CREE CWOcCWOOcWEST-CREE CWOOcCWAcWEST-CREE CWAcCWAA"⟩,
  ⟨0x149F, "CANADIAN SYLLABICS WEST-CREE CWAAcNASKAPI CWAAcCcSAYISI THcMEcMAAIcMIcMIIcMOcMOO"⟩,
  ⟨0x14A9, "CANADIAN SYLLABICS Y-CREE MOOcMAcMAAcMWEcWEST-CREE MWEcMWIcWEST-CREE MWIcMWII"⟩,
  ⟨0x14B1, "CANADIAN SYLLABICS WEST-CREE MWIIcMWOcWEST-CREE MWOcMWOOcWEST-CREE MWOOcMWA"⟩,
  ⟨0x14B7, "CANADIAN SYLLABICS WEST-CREE MWAcMWAAcWEST-CREE MWAAcNASKAPI MWAAcMcWEST-CREE McMH"⟩,
  ⟨0x14BE, "CANADIAN SYLLABICS ATHAPASCAN McSAYISI McNEcNAAIcNIcNIIcNOcNOOcY-CREE NOOcNAcNAAcNWE"⟩,
  ⟨0x14CA, "CANADIAN SYLLABICS WEST-CREE NWEcNWAcWEST-CREE NWAcNWAAcWEST-CREE NWAAcNASKAPI NWAAcN"⟩,
  ⟨0x14D1, "CANADIAN SYLLABICS CARRIER NGcNHcLEcLAAIcLIcLIIcLOcLOOcY-CREE LOOcLAcLAAcLWE"⟩,
  ⟨0x14DD, "CANADIAN SYLLABICS WEST-CREE LWEcLWIcWEST-CREE LWIcLWIIcWEST-CREE LWIIcLWO"⟩,
  ⟨0x14E3, "CANADIAN SYLLABICS WEST-CREE LWOcLWOOcWEST-CREE LWOOcLWAcWEST-CREE LWAcLWAA"⟩,
  ⟨0x14E9, "CANADIAN SYLLABICS WEST-CREE LWAAcLcWEST-CREE LcMEDIAL LcSEcSAAIcSIcSIIcSOcSOO"⟩,
  ⟨0x14F3, "CANADIAN SYLLABICS Y-CREE SOOcSAcSAAcSWEcWEST-CREE SWEcSWIcWEST-CREE SWIcSWII"⟩,
  ⟨0x14FB, "CANADIAN SYLLABICS WEST-CREE SWIIcSWOcWEST-CREE SWOcSWOOcWEST-CREE SWOOcSWA"⟩,
  ⟨0x1501, "CANADIAN SYLLABICS WEST-CREE SWAcSWAAcWEST-CREE SWAAcNASKAPI SWAAcScATHAPASCAN ScSW"⟩,
  ⟨0x1508, "CANADIAN SYLLABICS BLACKFOOT ScMOOSE-CREE SKcNASKAPI SKWdS-WdSPWAdSTWAdSKWAdSCWAcSHE"⟩,
  ⟨0x1511, "CANADIAN SYLLABICS SHIcSHIIcSHOcSHOOcSHAcSHAAcSHWEcWEST-CREE SHWEcSHWIcWEST-CREE SHWI"⟩,
  ⟨0x151B, "CANADIAN SYLLABICS SHWIIcWEST-CREE SHWIIcSHWOcWEST-CREE SHWOcSHWOOcWEST-CREE SHWOO"⟩,
  ⟨0x1521, "CANADIAN SYLLABICS SHWAcWEST-CREE SHWAcSHWAAcWEST-CREE SHWAAcSHcYEcYAAIcYIcYIIcYOcYOO"⟩,
  ⟨0x152C, "CANADIAN SYLLABICS Y-CREE YOOcYAcYAAcYWEcWEST-CREE YWEcYWIcWEST-CREE YWIcYWII"⟩,
  ⟨0x1534, "CANADIAN SYLLABICS WEST-CREE YWIIcYWOcWEST-CREE YWOcYWOOcWEST-CREE YWOOcYWA"⟩,
  ⟨0x153A, "CANADIAN SYLLABICS WEST-CREE YWAcYWAAcWEST-CREE YWAAcNASKAPI YWAAcYcBIBLE-CREE Y"⟩,
  ⟨0x1540, "CANADIAN SYLLABICS WEST-CREE YcSAYISI YIcREcR-CREE REcWEST-CREE LEcRAAIcRIcRIIcROcROO"⟩,
  ⟨0x154A, "CANADIAN SYLLABICS WEST-CREE LOcRAcRAAcWEST-CREE LAcRWAAcWEST-CREE RWAAcRcWEST-CREE R"⟩,
  ⟨0x1552, "CANADIAN SYLLABICS MEDIAL RcFEcFAAIcFIcFIIcFOcFOOcFAcFAAcFWAAcWEST-CREE FWAAcFcTHE"⟩,
  ⟨0x155F, "CANADIAN SYLLABICS N-CREE THEcTHIcN-CREE THIcTHIIcN-CREE THIIcTHOcTHOOcTHAcTHAAcTHWAA"⟩,
  ⟨0x1569, "CANADIAN SYLLABICS WEST-CREE THWAAcTHcTTHEcTTHIcTTHOcTTHAcTTHcTYEcTYIcTYOcTYA"⟩,
  ⟨0x1574, "CANADIAN SYLLABICS NUNAVIK HEdHIdHIIdHOdHOOdHAdHAAdHcNUNAVUT HcHKcQAAIcQIcQIIcQOcQOO"⟩,
  ⟨0x1583, "CANADIAN SYLLABICS QAcQAAcQcTLHEcTLHIcTLHOcTLHAcWEST-CREE REeRIeROeRAcNGAAIcNGIcNGII"⟩,
  ⟨0x1591, "CANADIAN SYLLABICS NGOcNGOOcNGAcNGAAcNGcNNGcSAYISI SHEdSHIdSHOdSHAcWOODS-CREE THEeTHI"⟩,
  ⟨0x159D, "CANADIAN SYLLABICS WOODS-CREE THOeTHAeTHcLHIcLHIIcLHOcLHOOcLHAcLHAAcLHcTH-CREE THE"⟩,
  ⟨0x15A8, "CANADIAN SYLLABICS TH-CREE THIeTHIIeTHOeTHOOeTHAeTHAAeTHcAIVILIK BcBLACKFOOT EdIdOdA"⟩,
  ⟨0x15B4, "CANADIAN SYLLABICS BLACKFOOT WEdWIdWOdWAdNEdNIdNOdNAdKEdKIdKOdKAcSAYISI HEdHIdHOdHA"⟩,
  ⟨0x15C4, "CANADIAN SYLLABICS CARRIER GHUdGHOdGHEdGHEEdGHIdGHAdRUdROdREdREEdRIdRAdWUdWOdWEdWEE"⟩,
  ⟨0x15D4, "CANADIAN SYLLABICS CARRIER WIdWAdHWUdHWOdHWEdHWEEdHWIdHWAdTHUdTHOdTHEdTHEEdTHIdTHA"⟩,
  ⟨0x15E2, "CANADIAN SYLLABICS CARRIER TTUdTTOdTTEdTTEEdTTIdTTAdPUdPOdPEdPEEdPIdPAdPdGUdGOdGEdGEE"⟩,
  ⟨0x15F3, "CANADIAN SYLLABICS CARRIER GIdGAdKHUdKHOdKHEdKHEEdKHIdKHAdKKUdKKOdKKEdKKEEdKKIdKKAdKK"⟩,
  ⟨0x1602, "CANADIAN SYLLABICS CARRIER NUdNOdNEdNEEdNIdNAdMUdMOdMEdMEEdMIdMAdYUdYOdYEdYEEdYIdYA"⟩,
  ⟨0x1614, "CANADIAN SYLLABICS CARRIER JUcSAYISI JUcCARRIER JOdJEdJEEdJIcSAYISI JIcCARRIER JAdJJU"⟩,
  ⟨0x161D, "CANADIAN SYLLABICS CARRIER JJOdJJEdJJEEdJJIdJJAdLUdLOdLEdLEEdLIdLAdDLUdDLOdDLEdDLEE"⟩,
  ⟨0x162C, "CANADIAN SYLLABICS CARRIER DLIdDLAdLHUdLHOdLHEdLHEEdLHIdLHAdTLHUdTLHOdTLHEdTLHEEdTLHI"⟩,
  ⟨0x1639, "CANADIAN SYLLABICS CARRIER TLHAdTLUdTLOdTLEdTLEEdTLIdTLAdZUdZOdZEdZEEdZIdZAdZ"⟩,
  ⟨0x1647, "CANADIAN SYLLABICS CARRIER INITIAL ZdDZUdDZOdDZEdDZEEdDZIdDZAdSUdSOdSEdSEEdSIdSAdSHU"⟩,
  ⟨0x1655, "CANADIAN SYLLABICS CARRIER SHOdSHEdSHEEdSHIdSHAdSHdTSUdTSOdTSEdTSEEdTSIdTSAdCHUdCHO"⟩,
  ⟨0x1663, "CANADIAN SYLLABICS CARRIER CHEdCHEEdCHIdCHAdTTSUdTTSOdTTSEdTTSEEdTTSIdTTSAcCHI SIGN"⟩,
  ⟨0x166E, "CANADIAN SYLLABICS FULL STOPcQAIcNGAIcNNGIcNNGIIcNNGOcNNGOOcNNGAcNNGAA"⟩,
  ⟨0x1677, "CANADIAN SYLLABICS WOODS-CREE THWEEeTHWIeTHWIIeTHWOeTHWOOeTHWAeTHWAAeFINAL TH"⟩,
  ⟨0x167F, "CANADIAN SYLLABICS BLACKFOOT WaOGHAM SPACE MARKbLETTER BEITHcLUIScFEARNcSAILcNION"⟩,
  ⟨0x1686, "OGHAM LETTER UATHcDAIRcTINNEcCOLLcCEIRTcMUINcGORTcNGEADALcSTRAIFcRUIScAILMcONNcUR"⟩,
  ⟨0x1693, "OGHAM LETTER EADHADHcIODHADHcEABHADHcORcUILLEANNcIFINcEAMHANCHOLLcPEITHbFEATHER MARK"⟩,
  ⟨0x169C, "OGHAM REVERSED FEATHER MARK"⟩,
  ⟨0x16A0, "RUNIC LETTER FEHU FEOH FE FcVcURUZ UR UcYRcYcWcTHURISAZ THURS THORNcETHcANSUZ AcOS O"⟩,
  ⟨0x16AA, "RUNIC LETTER AC AcAESCcLONG-BRANCH-OSS OcSHORT-TWIG-OSS OcOcOEcONcRAIDO RAD REID R"⟩,
  ⟨0x16B2, "RUNIC LETTER KAUNAcCENcKAUN KcGcENGcGEBO GYFU GcGARcWUNJO WYNN WcHAGLAZ HcHAEGL H"⟩,
  ⟨0x16BC, "RUNIC LETTER LONG-BRANCH-HAGALL HcSHORT-TWIG-HAGALL HcNAUDIZ NYD NAUD N"⟩,
  ⟨0x16BF, "RUNIC LETTER SHORT-TWIG-NAUD NcDOTTED-NcISAZ IS ISS IcEcJERAN JcGERcLONG-BRANCH-AR AE"⟩,
  ⟨0x16C6, "RUNIC LETTER SHORT-TWIG-AR AcIWAZ EOHcPERTHO PEORTH PcALGIZ EOLHXcSOWILO S"⟩,
  ⟨0x16CB, "RUNIC LETTER SIGEL LONG-BRANCH-SOL ScSHORT-TWIG-SOL ScCcZcTIWAZ TIR TYR T"⟩,
  ⟨0x16D0, "RUNIC LETTER SHORT-TWIG-TYR TcDcBERKANAN BEORC BJARKAN BcSHORT-TWIG-BJARKAN B"⟩,
  ⟨0x16D4, "RUNIC LETTER DOTTED-PcOPEN-PcEHWAZ EH EcMANNAZ MAN McLONG-BRANCH-MADR M"⟩,
  ⟨0x16D9, "RUNIC LETTER SHORT-TWIG-MADR McLAUKAZ LAGU LOGR LcDOTTED-LcINGWAZcINGcDAGAZ DAEG D"⟩,
  ⟨0x16DF, "RUNIC LETTER OTHALAN ETHEL OcEARcIORcCWEORTHcCALCcCEALCcSTANcLONG-BRANCH-YR"⟩,
  ⟨0x16E7, "RUNIC LETTER SHORT-TWIG-YRcICELANDIC-YRcQcXbSINGLE PUNCTUATIONbMULTIPLE PUNCTUATION"⟩,
  ⟨0x16ED, "RUNIC CROSS PUNCTUATIONbARLAUG SYMBOLbTVIMADUR SYMBOLbBELGTHOR SYMBOLbLETTER KcSHcOO"⟩,
  ⟨0x16F4, "RUNIC LETTER FRANKS CASKET OSeISeEHeACeAESC"⟩,
  ⟨0x1700, "TAGALOG LETTER AcIcUcKAcGAcNGAcTAcDAcNAcPAcBAcMAcYAcRAcLAcWAcSAcHAbVOWEL SIGN IdU"⟩,
  ⟨0x1714, "TAGALOG SIGN VIRAMAcPAMUDPOD"⟩,
  ⟨0x171F, "TAGALOG LETTER ARCHAIC RAaHANUNOO LETTER AcIcUcKAcGAcNGAcTAcDAcNAcPAcBAcMAcYAcRAcLA"⟩,
  ⟨0x172F, "HANUNOO LETTER WAcSAcHAbVOWEL SIGN IdUbSIGN PAMUDPODaPHILIPPINE SINGLE PUNCTUATION"⟩,
  ⟨0x1736, "PHILIPPINE DOUBLE PUNCTUATION"⟩,
  ⟨0x1740, "BUHID LETTER AcIcUcKAcGAcNGAcTAcDAcNAcPAcBAcMAcYAcRAcLAcWAcSAcHAbVOWEL SIGN IdU"⟩,
  ⟨0x1760, "TAGBANWA LETTER AcIcUcKAcGAcNGAcTAcDAcNAcPAcBAcMAcYA"⟩,
  ⟨0x176E, "TAGBANWA LETTER LAcWAcSA"⟩,
  ⟨0x1772, "TAGBANWA VOWEL SIGN IdU"⟩,
  ⟨0x1780, "KHMER LETTER KAcKHAcKOcKHOcNGOcCAcCHAcCOcCHOcNYOcDAcTTHAcDOcTTHOcNNOcTAcTHAcTOcTHOcNO"⟩,
  ⟨0x1794, "KHMER LETTER BAcPHAcPOcPHOcMOcYOcROcLOcVOcSHAcSSOcSAcHAcLAcQAbINDEPENDENT VOWEL QAQ"⟩,
  ⟨0x17A4, "KHMER INDEPENDENT VOWEL QAAdQIdQIIdQUdQUKdQUUdQUUVdRYdRYYdLYdLYYdQEdQAIdQOO TYPE ONE"⟩,
  ⟨0x17B2, "KHMER INDEPENDENT VOWEL QOO TYPE TWOdQAUbVOWEL INHERENT AQdAAcSIGN AAdIdIIdYdYYdUdUU"⟩,
  ⟨0x17BD, "KHMER VOWEL SIGN UAdOEdYAdIEdEdAEdAIdOOdAUbSIGN NIKAHITcREAHMUKcYUUKALEAPINTU"⟩,
  ⟨0x17C9, "KHMER SIGN MUUSIKATOANcTRIISAPcBANTOCcROBATcTOANDAKHIATcKAKABATcAHSDAcSAMYOK SANNYA"⟩,
  ⟨0x17D1, "KHMER SIGN VIRIAMcCOENGcBATHAMASATcKHANcBARIYOOSANcCAMNUC PII KUUHcLEK TOOcBEYYAL"⟩,
  ⟨0x17D9, "KHMER SIGN PHNAEK MUANcKOOMUUTbCURRENCY SYMBOL RIELbSIGN AVAKRAHASANYAcATTHACAN"⟩,
  ⟨0x17E0, "KHMER DIGIT ZEROcONEcTWOcTHREEcFOURcFIVEcSIXcSEVENcEIGHTcNINE"⟩,
  ⟨0x17F0, "KHMER SYMBOL LEK ATTAK SONeMUOYePIIeBEIeBUONePRAMePRAM-MUOYfPIIfBEIfBUON"⟩,
  ⟨0x1800, "MONGOLIAN BIRGAbELLIPSISbCOMMAbFULL STOPbCOLONbFOUR DOTSbTODO SOFT HYPHEN"⟩,
  ⟨0x1807, "MONGOLIAN SIBE SYLLABLE BOUNDARY MARKERbMANCHU COMMAcFULL STOPbNIRUGU"⟩,
  ⟨0x180B, "MONGOLIAN FREE VARIATION SELECTOR ONEeTWOeTHREEbVOWEL SEPARATOR"⟩,
  ⟨0x180F, "MONGOLIAN FREE VARIATION SELECTOR FOURbDIGIT ZEROcONEcTWOcTHREEcFOURcFIVEcSIXcSEVEN"⟩,
  ⟨0x1818, "MONGOLIAN DIGIT EIGHTcNINE"⟩,
  ⟨0x1820, "MONGOLIAN LETTER AcEcIcOcUcOEcUEcEEcNAcANGcBAcPAcQAcGAcMAcLAcSAcSHAcTAcDAcCHAcJAcYA"⟩,
  ⟨0x1837, "MONGOLIAN LETTER RAcWAcFAcKAcKHAcTSAcZAcHAAcZRAcLHAcZHIcCHIcTODO LONG VOWEL SIGNdEdI"⟩,
  ⟨0x1846, "MONGOLIAN LETTER TODO OdUdOEdUEdANGdBAdPAdQAdGAdMAdTAdDAdCHAdJAdTSAdYAdWAdKAdGAAdHAA"⟩,
  ⟨0x185A, "MONGOLIAN LETTER TODO JIAdNIAdDZAcSIBE EdIdIYdUEdUdANGdKAdGAdHAdPAdSHAdTAdDAdJAdFA"⟩,
  ⟨0x186C, "MONGOLIAN LETTER SIBE GAAdHAAdTSAdZAdRAAdCHAdZHAcMANCHU IdKAdRAdFAdZHA"⟩,
  ⟨0x1878, "MONGOLIAN LETTER CHA WITH TWO DOTS"⟩,
  ⟨0x1880, "MONGOLIAN LETTER ALI GALI ANUSVARA ONEeVISARGA ONEeDAMARUeUBADAMAeINVERTED UBADAMA"⟩,
  ⟨0x1885, "MONGOLIAN LETTER ALI GALI BALUDAeTHREE BALUDAeAeIeKAeNGAeCAeTTAeTTHAeDDAeNNAeTAeDAePA"⟩,
  ⟨0x1893, "MONGOLIAN LETTER ALI GALI PHAeSSAeZHAeZAeAHcTODO ALI GALI TAfZHAcMANCHU ALI GALI GHA"⟩,
  ⟨0x189B, "MONGOLIAN LETTER MANCHU ALI GALI NGAfCAfJHAfTTAfDDHAfTAfDHAfSSAfCYAfZHAfZA"⟩,
  ⟨0x18A6, "MONGOLIAN LETTER ALI GALI HALF UfYAcMANCHU ALI GALI BHAcALI GALI DAGALGA"⟩,
  ⟨0x18AA, "MONGOLIAN LETTER MANCHU ALI GALI LHA"⟩,
  ⟨0x18B0, "CANADIAN SYLLABICS OYcAYcAAYcWAYcPOYcPAYcPWOYcTAYcKAYcKWAYcMAYcNOYcNAYcLAYcSOYcSAY"⟩,
  ⟨0x18C0, "CANADIAN SYLLABICS SHOYcSHAYcSHWOYcYOYcYAYcRAYcNWIcOJIBWAY NWIcNWIIcOJIBWAY NWIIcNWO"⟩,
  ⟨0x18CB, "CANADIAN SYLLABICS OJIBWAY NWOcNWOOcOJIBWAY NWOOcRWEEcRWIcRWIIcRWOcRWOOcRWAcOJIBWAY P"⟩,
  ⟨0x18D5, "CANADIAN SYLLABICS OJIBWAY TdKdCdMdNdSdSHcEASTERN WcWESTERN WcFINAL SMALL RING"⟩,
  ⟨0x18DF, "CANADIAN SYLLABICS FINAL RAISED DOTcR-CREE RWEcWEST-CREE LOOeLAAcTHWEcTHWAcTTHWE"⟩,
  ⟨0x18E6, "CANADIAN SYLLABICS TTHOOcTTHAAcTLHWEcTLHOOcSAYISI SHWEdSHOOdHOOcCARRIER GWUdDENE GEE"⟩,
  ⟨0x18EF, "CANADIAN SYLLABICS CARRIER GAAdGWAcSAYISI JUUcCARRIER JWAcBEAVER DENE LeR"⟩,
  ⟨0x18F5, "CANADIAN SYLLABICS CARRIER DENTAL S"⟩,
  ⟨0x1900, "LIMBU VOWEL-CARRIER LETTERbLETTER KAcKHAcGAcGHAcNGAcCAcCHAcJAcJHAcYANcTAcTHAcDAcDHA"⟩,
  ⟨0x190F, "LIMBU LETTER NAcPAcPHAcBAcBHAcMAcYAcRAcLAcWAcSHAcSSAcSAcHAcGYANcTRA"⟩,
  ⟨0x1920, "LIMBU VOWEL SIGN AdIdUdEEdAIdOOdAUdEdObSUBJOINED LETTER YAdRAdWA"⟩,
  ⟨0x1930, "LIMBU SMALL LETTER KAdNGAdANUSVARAdTAdNAdPAdMAdRAdLAbSIGN MUKPHRENGcKEMPHRENGcSA-I"⟩,
  ⟨0x1940, "LIMBU SIGN LOO"⟩,
  ⟨0x1944, "LIMBU EXCLAMATION MARKbQUESTION MARKbDIGIT ZEROcONEcTWOcTHREEcFOURcFIVEcSIXcSEVEN"⟩,
  ⟨0x194E, "LIMBU DIGIT EIGHTcNINEaTAI LE LETTER KAdXAdNGAdTSAdSAdYAdTAdTHAdLAdPAdPHAdMAdFAdVAdHA"⟩,
  ⟨0x195F, "TAI LE LETTER QAdKHAdTSHAdNAdAdIdEEdEHdUdOOdOdUEdEdAUEdAI"⟩,
  ⟨0x1970, "TAI LE LETTER TONE-2e3e4e5e6"⟩,
  ⟨0x1980, "NEW TAI LUE LETTER HIGH QAeLOW QAeHIGH KAfXAfNGAeLOW KAfXAfNGAeHIGH TSAfSAfYAeLOW TSA"⟩,
  ⟨0x198C, "NEW TAI LUE LETTER LOW SAfYAeHIGH TAfTHAfNAeLOW TAfTHAfNAeHIGH PAfPHAfMAeLOW PAfPHA"⟩,
  ⟨0x1999, "NEW TAI LUE LETTER LOW MAeHIGH FAfVAfLAeLOW FAfVAfLAeHIGH HAfDAfBAeLOW HAfDAfBA"⟩,
  ⟨0x19A6, "NEW TAI LUE LETTER HIGH KVAfXVAeLOW KVAfXVAeHIGH SUAeLOW SUA"⟩,
  ⟨0x19B0, "NEW TAI LUE VOWEL SIGN VOWEL SHORTENERfAAfIIfUfUUfEfAEfOfOAfUEfAYfAAYfUYfOYfOAYfUEY"⟩,
  ⟨0x19C0, "NEW TAI LUE VOWEL SIGN IYdLETTER FINAL VfNGfNfMfKfDfBdTONE MARK-1f2"⟩,
  ⟨0x19D0, "NEW TAI LUE DIGIT ZEROeONEeTWOeTHREEeFOUReFIVEeSIXeSEVENeEIGHTeNINEdTHAM DIGIT ONE"⟩,
  ⟨0x19DE, "NEW TAI LUE SIGN LAEeLAEVaKHMER SYMBOL PATHAMASATcMUOY KOETcPII KOETcBEI KOET"⟩,
  ⟨0x19E4, "KHMER SYMBOL BUON KOETcPRAM KOETcPRAM-MUOY KOETdPII KOETdBEI KOETdBUON KOETcDAP KOET"⟩,
  ⟨0x19EB, "KHMER SYMBOL DAP-MUOY KOETdPII KOETdBEI KOETdBUON KOETdPRAM KOETcTUTEYASATcMUOY ROC"⟩,
  ⟨0x19F2, "KHMER SYMBOL PII ROCcBEI ROCcBUON ROCcPRAM ROCcPRAM-MUOY ROCdPII ROCdBEI ROCdBUON ROC"⟩,
  ⟨0x19FA, "KHMER SYMBOL DAP ROCcDAP-MUOY ROCdPII ROCdBEI ROCdBUON ROCdPRAM ROC"⟩,
  ⟨0x1A00, "BUGINESE LETTER KAcGAcNGAcNGKAcPAcBAcMAcMPAcTAcDAcNAcNRAcCAcJAcNYAcNYCAcYAcRAcLAcVA"⟩,
  ⟨0x1A14, "BUGINESE LETTER SAcAcHAbVOWEL SIGN IdUdEdOdAE"⟩,
  ⟨0x1A1E, "BUGINESE PALLAWAbEND OF SECTIONaTAI THAM LETTER HIGH KAeKHAeKXAdLOW KAeKXAeKHAdNGA"⟩,
  ⟨0x1A27, "TAI THAM LETTER HIGH CAeCHAdLOW CAeSAeCHAdNYAdRATAdHIGH RATHAdDAdLOW RATHAdRANA"⟩,
  ⟨0x1A32, "TAI THAM LETTER HIGH TAeTHAdLOW TAeTHAdNAdBAdHIGH PAePHAeFAdLOW PAeFAePHAdMAdLOW YA"⟩,
  ⟨0x1A40, "TAI THAM LETTER HIGH YAdRAdRUEdLAdLUEdWAdHIGH SHAeSSAeSAeHAdLLAdAdLOW HAdIdIIdUdUUdEE"⟩,
  ⟨0x1A52, "TAI THAM LETTER OOdLAEdGREAT SAcCONSONANT SIGN MEDIAL RAfLAeLA TANG LAI"⟩,
  ⟨0x1A58, "TAI THAM SIGN MAI KANG LAIcCONSONANT SIGN FINAL NGAeLOW PAeHIGH RATHA OR LOW PAeMAeBA"⟩,
  ⟨0x1A5E, "TAI THAM CONSONANT SIGN SA"⟩,
  ⟨0x1A60, "TAI THAM SIGN SAKOTcVOWEL SIGN AeMAI SATeAAeTALL AAeIeIIeUEeUUEeUeUUeOeOA BELOWeOYeE"⟩,
  ⟨0x1A6F, "TAI THAM VOWEL SIGN AEeOOeAIeTHAM AIeOA ABOVEcSIGN MAI KANGdTONE-1e2dKHUEN TONE-3f4f5"⟩,
  ⟨0x1A7A, "TAI THAM SIGN RA HAAMdMAI SAMdKHUEN-LUE KARAN"⟩,
  ⟨0x1A7F, "TAI THAM COMBINING CRYPTOGRAMMIC DOTcHORA DIGIT ZEROeONEeTWOeTHREEeFOUReFIVEeSIX"⟩,
  ⟨0x1A87, "TAI THAM HORA DIGIT SEVENeEIGHTeNINE"⟩,
  ⟨0x1A90, "TAI THAM THAM DIGIT ZEROeONEeTWOeTHREEeFOUReFIVEeSIXeSEVENeEIGHTeNINE"⟩,
  ⟨0x1AA0, "TAI THAM SIGN WIANGdWIANGWAAKdSAWANdKEOWdHOYdDOKMAIdREVERSED ROTATED RANAdMAI YAMOK"⟩,
  ⟨0x1AA8, "TAI THAM SIGN KAANdKAANKUUdSATKAANdSATKAANKUUdHANGdCAANG"⟩,
  ⟨0x1AB0, "COMBINING DOUBLED CIRCUMFLEX ACCENTbDIAERESIS-RINGbINFINITYbDOWNWARDS ARROW"⟩,
  ⟨0x1AB4, "COMBINING TRIPLE DOTbX-X BELOWbWIGGLY LINE BELOWbOPEN MARK BELOW"⟩,
  ⟨0x1AB8, "COMBINING DOUBLE OPEN MARK BELOWbLIGHT CENTRALIZATION STROKE BELOW"⟩,
  ⟨0x1ABA, "COMBINING STRONG CENTRALIZATION STROKE BELOWbPARENTHESES ABOVE"⟩,
  ⟨0x1ABC, "COMBINING DOUBLE PARENTHESES ABOVEbPARENTHESES BELOWcOVERLAY"⟩,
  ⟨0x1ABF, "COMBINING LATIN SMALL LETTER W BELOWeTURNED W BELOWbLEFT PARENTHESIS ABOVE LEFT"⟩,
  ⟨0x1AC2, "COMBINING RIGHT PARENTHESIS ABOVE RIGHTbLEFT PARENTHESIS BELOW LEFT"⟩,
  ⟨0x1AC4, "COMBINING RIGHT PARENTHESIS BELOW RIGHTbSQUARE BRACKETS ABOVEbNUMBER SIGN ABOVE"⟩,
  ⟨0x1AC7, "COMBINING INVERTED DOUBLE ARCH ABOVEbPLUS SIGN ABOVEbDOUBLE PLUS SIGN ABOVEeBELOW"⟩,
  ⟨0x1ACB, "COMBINING TRIPLE ACUTE ACCENTbLATIN SMALL LETTER INSULAR GfRfT"⟩,
  ⟨0x1B00, "BALINESE SIGN ULU RICEMdCANDRAcCECEKcSURANGcBISAHbLETTER AKARAcAKARA TEDUNGcIKARA"⟩,
  ⟨0x1B08, "BALINESE LETTER IKARA TEDUNGcUKARAcUKARA TEDUNGcRA REPAdREPA TEDUNGcLA LENGA"⟩,
  ⟨0x1B0E, "BALINESE LETTER LA LENGA TEDUNGcEKARAcAIKARAcOKARAcOKARA TEDUNGcKAcKA MAHAPRANAcGA"⟩,
  ⟨0x1B16, "BALINESE LETTER GA GORAcNGAcCAcCA LACAcJAcJA JERAcNYAcTA LATIKdMURDA MAHAPRANA"⟩,
  ⟨0x1B1F, "BALINESE LETTER DA MURDA ALPAPRANAeMAHAPRANAcNA RAMBATcTAcTA TAWAcDAcDA MADUcNAcPA"⟩,
  ⟨0x1B28, "BALINESE LETTER PA KAPALcBAcBA KEMBANGcMAcYAcRAcLAcWAcSA SAGAdSAPAcSAcHAbSIGN REREKAN"⟩,
  ⟨0x1B35, "BALINESE VOWEL SIGN TEDUNGdULUdULU SARIdSUKUdSUKU ILUTdRA REPAeREPA TEDUNGdLA LENGA"⟩,
  ⟨0x1B3D, "BALINESE VOWEL SIGN LA LENGA TEDUNGdTALINGdTALING REPAeTEDUNGeREPA TEDUNGdPEPET"⟩,
  ⟨0x1B43, "BALINESE VOWEL SIGN PEPET TEDUNGbADEG ADEGbLETTER KAF SASAKcKHOT SASAKcTZIR SASAK"⟩,
  ⟨0x1B48, "BALINESE LETTER EF SASAKcVE SASAKcZAL SASAKcASYURA SASAKcARCHAIC JNYA"⟩,
  ⟨0x1B50, "BALINESE DIGIT ZEROcONEcTWOcTHREEcFOURcFIVEcSIXcSEVENcEIGHTcNINEbPANTIbPAMADAbWINDU"⟩,
  ⟨0x1B5D, "BALINESE CARIK PAMUNGKAHcSIKIcPARERENbPAMENENGbMUSICAL SYMBOL DONGdDENGdDUNGdDANG"⟩,
  ⟨0x1B65, "BALINESE MUSICAL SYMBOL DANG SURANGdDINGdDAENGdDEUNGdDAINGdDANG GEDEdCOMBINING TEGEH"⟩,
  ⟨0x1B6C, "BALINESE MUSICAL SYMBOL COMBINING ENDEPeKEMPULeKEMPLIeJEGOGANeKEMPUL WITH JEGOGAN"⟩,
  ⟨0x1B71, "BALINESE MUSICAL SYMBOL COMBINING KEMPLI WITH JEGOGANeBENDEeGONGdRIGHT-HAND OPEN DUG"⟩,
  ⟨0x1B75, "BALINESE MUSICAL SYMBOL RIGHT-HAND OPEN DAGfCLOSED TUKgTAKdLEFT-HAND OPEN PANGgPUNG"⟩,
  ⟨0x1B7A, "BALINESE MUSICAL SYMBOL LEFT-HAND CLOSED PLAKgPLUKfOPEN PINGbPANTI LANTANG"⟩,
  ⟨0x1B7E, "BALINESE PAMADA LANTANG"⟩,
  ⟨0x1B80, "SUNDANESE SIGN PANYECEKcPANGLAYARcPANGWISADbLETTER AcIcUcAEcOcEcEUcKAcQAcGAcNGAcCAcJA"⟩,
  ⟨0x1B90, "SUNDANESE LETTER ZAcNYAcTAcDAcNAcPAcFAcVAcBAcMAcYAcRAcLAcWAcSAcXAcHA"⟩,
  ⟨0x1BA1, "SUNDANESE CONSONANT SIGN PAMINGKALdPANYAKRAdPANYIKUbVOWEL SIGN PANGHULUdPANYUKU"⟩,
  ⟨0x1BA6, "SUNDANESE VOWEL SIGN PANAELAENGdPANOLONGdPAMEPETdPANEULEUNGbSIGN PAMAAEHcVIRAMA"⟩,
  ⟨0x1BAC, "SUNDANESE CONSONANT SIGN PASANGAN MAeWAbLETTER KHAcSYAbDIGIT ZEROcONEcTWOcTHREEcFOUR"⟩,
  ⟨0x1BB5, "SUNDANESE DIGIT FIVEcSIXcSEVENcEIGHTcNINEbAVAGRAHAbLETTER REUcLEUcBHAcFINAL KdM"⟩,
  ⟨0x1BC0, "BATAK LETTER AcSIMALUNGUN AcHAcSIMALUNGUN HAcMANDAILING HAcBAcKARO BAcPA"⟩,
  ⟨0x1BC8, "BATAK LETTER SIMALUNGUN PAcNAcMANDAILING NAcWAcSIMALUNGUN WAcPAKPAK WAcGA"⟩,
  ⟨0x1BCF, "BATAK LETTER SIMALUNGUN GAcJAcDAcRAcSIMALUNGUN RAcMAcSIMALUNGUN MAcSOUTHERN TA"⟩,
  ⟨0x1BD7, "BATAK LETTER NORTHERN TAcSAcSIMALUNGUN SAcMANDAILING SAcYAcSIMALUNGUN YAcNGAcLA"⟩,
  ⟨0x1BDF, "BATAK LETTER SIMALUNGUN LAcNYAcCAcNDAcMBAcIcUbSIGN TOMPIbVOWEL SIGN EdPAKPAK EdEEdI"⟩,
  ⟨0x1BEB, "BATAK VOWEL SIGN KARO IdOdKARO OdUdU FOR SIMALUNGUN SAbCONSONANT SIGN NGdHbPANGOLAT"⟩,
  ⟨0x1BF3, "BATAK PANONGONAN"⟩,
  ⟨0x1BFC, "BATAK SYMBOL BINDU NA METEKdPINARBORASdJUDULdPANGOLATaLEPCHA LETTER KAcKLAcKHAcGAcGLA"⟩,
  ⟨0x1C05, "LEPCHA LETTER NGAcCAcCHAcJAcNYAcTAcTHAcDAcNAcPAcPLAcPHAcFAcFLAcBAcBLAcMAcMLAcTSAcTSHA"⟩,
  ⟨0x1C19, "LEPCHA LETTER DZAcYAcRAcLAcHAcHLAcVAcSAcSHAcWAcAbSUBJOINED LETTER YAdRAbVOWEL SIGN AA"⟩,
  ⟨0x1C27, "LEPCHA VOWEL SIGN IdOdOOdUdUUdEbCONSONANT SIGN KdMdLdNdPdRdTdNYIN-DOdKANGbSIGN RAN"⟩,
  ⟨0x1C37, "LEPCHA SIGN NUKTA"⟩,
  ⟨0x1C3B, "LEPCHA PUNCTUATION TA-ROLcNYET THYOOM TA-ROLcCER-WAcTSHOOK CER-WAcTSHOOKbDIGIT ZERO"⟩,
  ⟨0x1C41, "LEPCHA DIGIT ONEcTWOcTHREEcFOURcFIVEcSIXcSEVENcEIGHTcNINE"⟩,
  ⟨0x1C4D, "LEPCHA LETTER TTAcTTHAcDDAaOL CHIKI DIGIT ZEROdONEdTWOdTHREEdFOURdFIVEdSIXdSEVEN"⟩,
  ⟨0x1C58, "OL CHIKI DIGIT EIGHTdNINEcLETTER LAdATdAGdANGdALdLAAdAAKdAAJdAAMdAAWdLIdISdIHdINYdIR"⟩,
  ⟨0x1C69, "OL CHIKI LETTER LUdUCdUDdUNNdUYdLEdEPdEDDdENdERRdLOdOTTdOBdOVdOHcMU TTUDDAG"⟩,
  ⟨0x1C79, "OL CHIKI GAAHLAA TTUDDAAGcMU-GAAHLAA TTUDDAAGcRELAAcPHAARKAAcAHADcPUNCTUATION MUCAAD"⟩,
  ⟨0x1C7F, "OL CHIKI PUNCTUATION DOUBLE MUCAADaCYRILLIC SMALL LETTER ROUNDED VEdLONG-LEGGED DE"⟩,
  ⟨0x1C82, "CYRILLIC SMALL LETTER NARROW OdWIDE ESdTALL TEdTHREE-LEGGED TEdTALL HARD SIGNeYAT"⟩,
  ⟨0x1C88, "CYRILLIC SMALL LETTER UNBLENDED UK"⟩,
  ⟨0x1C90, "GEORGIAN MTAVRULI CAPITAL LETTER ANeBANeGANeDONeENeVINeZENeTANeINeKANeLASeMANeNAReON"⟩,
  ⟨0x1C9E, "GEORGIAN MTAVRULI CAPITAL LETTER PAReZHAReRAEeSANeTAReUNePHAReKHAReGHANeQAReSHINeCHIN"⟩,
  ⟨0x1CAA, "GEORGIAN MTAVRULI CAPITAL LETTER CANeJILeCILeCHAReXANeJHANeHAEeHEeHIEeWEeHAReHOEeFI"⟩,
  ⟨0x1CB7, "GEORGIAN MTAVRULI CAPITAL LETTER YNeELIFIeTURNED GANeAIN"⟩,
  ⟨0x1CBD, "GEORGIAN MTAVRULI CAPITAL LETTER AENeHARD SIGNeLABIAL SIGN"⟩,
  ⟨0x1CC0, "SUNDANESE PUNCTUATION BINDU SURYAdPANGLONGdPURNAMAdCAKRAdLEU SATANGAdKA SATANGA"⟩,
  ⟨0x1CC6, "SUNDANESE PUNCTUATION BINDU DA SATANGAdBA SATANGA"⟩,
  ⟨0x1CD0, "VEDIC TONE KARSHANAcSHARAcPRENKHAbSIGN NIHSHVASAcYAJURVEDIC MIDLINE SVARITA"⟩,
  ⟨0x1CD5, "VEDIC TONE YAJURVEDIC AGGRAVATED INDEPENDENT SVARITAdINDEPENDENT SVARITA"⟩,
  ⟨0x1CD7, "VEDIC TONE YAJURVEDIC KATHAKA INDEPENDENT SVARITAcCANDRA BELOW"⟩,
  ⟨0x1CD9, "VEDIC TONE YAJURVEDIC KATHAKA INDEPENDENT SVARITA SCHROEDERcDOUBLE SVARITA"⟩,
  ⟨0x1CDB, "VEDIC TONE TRIPLE SVARITAcKATHAKA ANUDATTAcDOT BELOWcTWO DOTS BELOWcTHREE DOTS BELOW"⟩,
  ⟨0x1CE0, "VEDIC TONE RIGVEDIC KASHMIRI INDEPENDENT SVARITAcATHARVAVEDIC INDEPENDENT SVARITA"⟩,
  ⟨0x1CE2, "VEDIC SIGN VISARGA SVARITAdUDATTAcREVERSED VISARGA UDATTAcVISARGA ANUDATTA"⟩,
  ⟨0x1CE6, "VEDIC SIGN REVERSED VISARGA ANUDATTAcVISARGA UDATTA WITH TAILdANUDATTA WITH TAIL"⟩,
  ⟨0x1CE9, "VEDIC SIGN ANUSVARA ANTARGOMUKHAdBAHIRGOMUKHAdVAMAGOMUKHAdVAMAGOMUKHA WITH TAIL"⟩,
  ⟨0x1CED, "VEDIC SIGN TIRYAKcHEXIFORM LONG ANUSVARAcLONG ANUSVARAcRTHANG LONG ANUSVARA"⟩,
  ⟨0x1CF1, "VEDIC SIGN ANUSVARA UBHAYATO MUKHAcARDHAVISARGAcROTATED ARDHAVISARGA"⟩,
  ⟨0x1CF4, "VEDIC TONE CANDRA ABOVEbSIGN JIHVAMULIYAcUPADHMANIYAcATIKRAMAbTONE RING ABOVE"⟩,
  ⟨0x1CF9, "VEDIC TONE DOUBLE RING ABOVEbSIGN DOUBLE ANUSVARA ANTARGOMUKHA"⟩,
  ⟨0x1D00, "LATIN LETTER SMALL CAPITAL AeAEbSMALL LETTER TURNED AEbLETTER SMALL CAPITAL BARRED B"⟩,
  ⟨0x1D04, "LATIN LETTER SMALL CAPITAL CeDeETHeEbSMALL LETTER TURNED OPEN EeI"⟩,
  ⟨0x1D0A, "LATIN LETTER SMALL CAPITAL JeKeL WITH STROKEeMeREVERSED NeOeOPEN O"⟩,
  ⟨0x1D11, "LATIN SMALL LETTER SIDEWAYS OeOPEN OeO WITH STROKEdTURNED OEbLETTER SMALL CAPITAL OU"⟩,
  ⟨0x1D16, "LATIN SMALL LETTER TOP HALF OdBOTTOM HALF ObLETTER SMALL CAPITAL PeREVERSED R"⟩,
  ⟨0x1D1A, "LATIN LETTER SMALL CAPITAL TURNED ReTeUbSMALL LETTER SIDEWAYS UeDIAERESIZED U"⟩,
  ⟨0x1D1F, "LATIN SMALL LETTER SIDEWAYS TURNED MbLETTER SMALL CAPITAL VeWeZeEZH"⟩,
  ⟨0x1D24, "LATIN LETTER VOICED LARYNGEAL SPIRANTcAINaGREEK LETTER SMALL CAPITAL GAMMAeLAMDAePI"⟩,
  ⟨0x1D29, "GREEK LETTER SMALL CAPITAL RHOePSIaCYRILLIC LETTER SMALL CAPITAL EL"⟩,
  ⟨0x1D2C, "MODIFIER LETTER CAPITAL AdAEdBdBARRED BdDdEdREVERSED EdGdHdIdJdKdLdMdNdREVERSED NdO"⟩,
  ⟨0x1D3D, "MODIFIER LETTER CAPITAL OUdPdRdTdUdWcSMALL AdTURNED AdALPHAdTURNED AEdBdDdEdSCHWA"⟩,
  ⟨0x1D4B, "MODIFIER LETTER SMALL OPEN EdTURNED OPEN EdGdTURNED IdKdMdENGdOdOPEN OdTOP HALF O"⟩,
  ⟨0x1D55, "MODIFIER LETTER SMALL BOTTOM HALF OdPdTdUdSIDEWAYS UdTURNED MdVdAINdBETAdGREEK GAMMA"⟩,
  ⟨0x1D5F, "MODIFIER LETTER SMALL DELTAdGREEK PHIdCHIaLATIN SUBSCRIPT SMALL LETTER IeReUeV"⟩,
  ⟨0x1D66, "GREEK SUBSCRIPT SMALL LETTER BETAeGAMMAeRHOePHIeCHIaLATIN SMALL LETTER UE"⟩,
  ⟨0x1D6C, "LATIN SMALL LETTER B WITH MIDDLE TILDEdD WITH MIDDLE TILDEdF WITH MIDDLE TILDE"⟩,
  ⟨0x1D6F, "LATIN SMALL LETTER M WITH MIDDLE TILDEdN WITH MIDDLE TILDEdP WITH MIDDLE TILDE"⟩,
  ⟨0x1D72, "LATIN SMALL LETTER R WITH MIDDLE TILDEfFISHHOOK AND MIDDLE TILDEdS WITH MIDDLE TILDE"⟩,
  ⟨0x1D75, "LATIN SMALL LETTER T WITH MIDDLE TILDEdZ WITH MIDDLE TILDEdTURNED G"⟩,
  ⟨0x1D78, "MODIFIER LETTER CYRILLIC ENaLATIN SMALL LETTER INSULAR GdTH WITH STRIKETHROUGH"⟩,
  ⟨0x1D7B, "LATIN SMALL CAPITAL LETTER I WITH STROKEcLETTER IOTA WITH STROKEdP WITH STROKE"⟩,
  ⟨0x1D7E, "LATIN SMALL CAPITAL LETTER U WITH STROKEcLETTER UPSILON WITH STROKE"⟩,
  ⟨0x1D80, "LATIN SMALL LETTER B WITH PALATAL HOOKdD WITH PALATAL HOOKdF WITH PALATAL HOOK"⟩,
  ⟨0x1D83, "LATIN SMALL LETTER G WITH PALATAL HOOKdK WITH PALATAL HOOKdL WITH PALATAL HOOK"⟩,
  ⟨0x1D86, "LATIN SMALL LETTER M WITH PALATAL HOOKdN WITH PALATAL HOOKdP WITH PALATAL HOOK"⟩,
  ⟨0x1D89, "LATIN SMALL LETTER R WITH PALATAL HOOKdS WITH PALATAL HOOKdESH WITH PALATAL HOOK"⟩,
  ⟨0x1D8C, "LATIN SMALL LETTER V WITH PALATAL HOOKdX WITH PALATAL HOOKdZ WITH PALATAL HOOK"⟩,
  ⟨0x1D8F, "LATIN SMALL LETTER A WITH RETROFLEX HOOKdALPHA WITH RETROFLEX HOOK"⟩,
  ⟨0x1D91, "LATIN SMALL LETTER D WITH HOOK AND TAILdE WITH RETROFLEX HOOK"⟩,
  ⟨0x1D93, "LATIN SMALL LETTER OPEN E WITH RETROFLEX HOOKdREVERSED OPEN E WITH RETROFLEX HOOK"⟩,
  ⟨0x1D95, "LATIN SMALL LETTER SCHWA WITH RETROFLEX HOOKdI WITH RETROFLEX HOOK"⟩,
  ⟨0x1D97, "LATIN SMALL LETTER OPEN O WITH RETROFLEX HOOKdESH WITH RETROFLEX HOOK"⟩,
  ⟨0x1D99, "LATIN SMALL LETTER U WITH RETROFLEX HOOKdEZH WITH RETROFLEX HOOK"⟩,
  ⟨0x1D9B, "MODIFIER LETTER SMALL TURNED ALPHAdCdC WITH CURLdETHdREVERSED OPEN EdF"⟩,
  ⟨0x1DA1, "MODIFIER LETTER SMALL DOTLESS J WITH STROKEdSCRIPT GdTURNED HdI WITH STROKEdIOTA"⟩,
  ⟨0x1DA6, "MODIFIER LETTER SMALL CAPITAL IeI WITH STROKEdJ WITH CROSSED-TAIL"⟩,
  ⟨0x1DA9, "MODIFIER LETTER SMALL L WITH RETROFLEX HOOKfPALATAL HOOKdCAPITAL LdM WITH HOOK"⟩,
  ⟨0x1DAD, "MODIFIER LETTER SMALL TURNED M WITH LONG LEGdN WITH LEFT HOOKfRETROFLEX HOOK"⟩,
  ⟨0x1DB0, "MODIFIER LETTER SMALL CAPITAL NdBARRED OdPHIdS WITH HOOKdESHdT WITH PALATAL HOOK"⟩,
  ⟨0x1DB6, "MODIFIER LETTER SMALL U BARdUPSILONdCAPITAL UdV WITH HOOKdTURNED VdZ"⟩,
  ⟨0x1DBC, "MODIFIER LETTER SMALL Z WITH RETROFLEX HOOKfCURLdEZHdTHETA"⟩,
  ⟨0x1DC0, "COMBINING DOTTED GRAVE ACCENTcACUTE ACCENTbSNAKE BELOWbSUSPENSION MARKbMACRON-ACUTE"⟩,
  ⟨0x1DC5, "COMBINING GRAVE-MACRONbMACRON-GRAVEbACUTE-MACRONbGRAVE-ACUTE-GRAVEbACUTE-GRAVE-ACUTE"⟩,
  ⟨0x1DCA, "COMBINING LATIN SMALL LETTER R BELOWbBREVE-MACRONbMACRON-BREVE"⟩,
  ⟨0x1DCD, "COMBINING DOUBLE CIRCUMFLEX ABOVEbOGONEK ABOVEbZIGZAG BELOWbIS BELOWbUR ABOVE"⟩,
  ⟨0x1DD2, "COMBINING US ABOVEbLATIN SMALL LETTER FLATTENED OPEN A ABOVEeAEeAOeAVeC CEDILLA"⟩,
  ⟨0x1DD8, "COMBINING LATIN SMALL LETTER INSULAR DeETHeGcLETTER SMALL CAPITAL GcSMALL LETTER KeL"⟩,
  ⟨0x1DDE, "COMBINING LATIN LETTER SMALL CAPITAL LfMcSMALL LETTER NcLETTER SMALL CAPITAL NfR"⟩,
  ⟨0x1DE3, "COMBINING LATIN SMALL LETTER R ROTUNDAeSeLONG SeZeALPHAeBeBETAeSCHWAeF"⟩,
  ⟨0x1DEC, "COMBINING LATIN SMALL LETTER L WITH DOUBLE MIDDLE TILDE"⟩,
  ⟨0x1DED, "COMBINING LATIN SMALL LETTER O WITH LIGHT CENTRALIZATION STROKEePeESH"⟩,
  ⟨0x1DF0, "COMBINING LATIN SMALL LETTER U WITH LIGHT CENTRALIZATION STROKEeWeA WITH DIAERESIS"⟩,
  ⟨0x1DF3, "COMBINING LATIN SMALL LETTER O WITH DIAERESISeU WITH DIAERESISbUP TACK ABOVE"⟩,
  ⟨0x1DF6, "COMBINING KAVYKA ABOVE RIGHTdLEFTbDOT ABOVE LEFTbWIDE INVERTED BRIDGE BELOW"⟩,
  ⟨0x1DFA, "COMBINING DOT BELOW LEFTbDELETION MARKbDOUBLE INVERTED BREVE BELOW"⟩,
  ⟨0x1DFD, "COMBINING ALMOST EQUAL TO BELOWbLEFT ARROWHEAD ABOVE"⟩,
  ⟨0x1DFF, "COMBINING RIGHT ARROWHEAD AND DOWN ARROWHEAD BELOW"⟩,
  ⟨0x1E00, "LATIN CAPITAL LETTER A WITH RING BELOWbSMALL LETTER A WITH RING BELOW"⟩,
  ⟨0x1E02, "LATIN CAPITAL LETTER B WITH DOT ABOVEbSMALL LETTER B WITH DOT ABOVE"⟩,
  ⟨0x1E04, "LATIN CAPITAL LETTER B WITH DOT BELOWbSMALL LETTER B WITH DOT BELOW"⟩,
  ⟨0x1E06, "LATIN CAPITAL LETTER B WITH LINE BELOWbSMALL LETTER B WITH LINE BELOW"⟩,
  ⟨0x1E08, "LATIN CAPITAL LETTER C WITH CEDILLA AND ACUTEbSMALL LETTER C WITH CEDILLA AND ACUTE"⟩,
  ⟨0x1E0A, "LATIN CAPITAL LETTER D WITH DOT ABOVEbSMALL LETTER D WITH DOT ABOVE"⟩,
  ⟨0x1E0C, "LATIN CAPITAL LETTER D WITH DOT BELOWbSMALL LETTER D WITH DOT BELOW"⟩,
  ⟨0x1E0E, "LATIN CAPITAL LETTER D WITH LINE BELOWbSMALL LETTER D WITH LINE BELOW"⟩,
  ⟨0x1E10, "LATIN CAPITAL LETTER D WITH CEDILLAbSMALL LETTER D WITH CEDILLA"⟩,
  ⟨0x1E12, "LATIN CAPITAL LETTER D WITH CIRCUMFLEX BELOWbSMALL LETTER D WITH CIRCUMFLEX BELOW"⟩,
  ⟨0x1E14, "LATIN CAPITAL LETTER E WITH MACRON AND GRAVEbSMALL LETTER E WITH MACRON AND GRAVE"⟩,
  ⟨0x1E16, "LATIN CAPITAL LETTER E WITH MACRON AND ACUTEbSMALL LETTER E WITH MACRON AND ACUTE"⟩,
  ⟨0x1E18, "LATIN CAPITAL LETTER E WITH CIRCUMFLEX BELOWbSMALL LETTER E WITH CIRCUMFLEX BELOW"⟩,
  ⟨0x1E1A, "LATIN CAPITAL LETTER E WITH TILDE BELOWbSMALL LETTER E WITH TILDE BELOW"⟩,
  ⟨0x1E1C, "LATIN CAPITAL LETTER E WITH CEDILLA AND BREVEbSMALL LETTER E WITH CEDILLA AND BREVE"⟩,
  ⟨0x1E1E, "LATIN CAPITAL LETTER F WITH DOT ABOVEbSMALL LETTER F WITH DOT ABOVE"⟩,
  ⟨0x1E20, "LATIN CAPITAL LETTER G WITH MACRONbSMALL LETTER G WITH MACRON"⟩,
  ⟨0x1E22, "LATIN CAPITAL LETTER H WITH DOT ABOVEbSMALL LETTER H WITH DOT ABOVE"⟩,
  ⟨0x1E24, "LATIN CAPITAL LETTER H WITH DOT BELOWbSMALL LETTER H WITH DOT BELOW"⟩,
  ⟨0x1E26, "LATIN CAPITAL LETTER H WITH DIAERESISbSMALL LETTER H WITH DIAERESIS"⟩,
  ⟨0x1E28, "LATIN CAPITAL LETTER H WITH CEDILLAbSMALL LETTER H WITH CEDILLA"⟩,
  ⟨0x1E2A, "LATIN CAPITAL LETTER H WITH BREVE BELOWbSMALL LETTER H WITH BREVE BELOW"⟩,
  ⟨0x1E2C, "LATIN CAPITAL LETTER I WITH TILDE BELOWbSMALL LETTER I WITH TILDE BELOW"⟩,
  ⟨0x1E2E, "LATIN CAPITAL LETTER I WITH DIAERESIS AND ACUTE"⟩,
  ⟨0x1E2F, "LATIN SMALL LETTER I WITH DIAERESIS AND ACUTEbCAPITAL LETTER K WITH ACUTE"⟩,
  ⟨0x1E31, "LATIN SMALL LETTER K WITH ACUTEbCAPITAL LETTER K WITH DOT BELOW"⟩,
  ⟨0x1E33, "LATIN SMALL LETTER K WITH DOT BELOWbCAPITAL LETTER K WITH LINE BELOW"⟩,
  ⟨0x1E35, "LATIN SMALL LETTER K WITH LINE BELOWbCAPITAL LETTER L WITH DOT BELOW"⟩,
  ⟨0x1E37, "LATIN SMALL LETTER L WITH DOT BELOWbCAPITAL LETTER L WITH DOT BELOW AND MACRON"⟩,
  ⟨0x1E39, "LATIN SMALL LETTER L WITH DOT BELOW AND MACRONbCAPITAL LETTER L WITH LINE BELOW"⟩,
  ⟨0x1E3B, "LATIN SMALL LETTER L WITH LINE BELOWbCAPITAL LETTER L WITH CIRCUMFLEX BELOW"⟩,
  ⟨0x1E3D, "LATIN SMALL LETTER L WITH CIRCUMFLEX BELOWbCAPITAL LETTER M WITH ACUTE"⟩,
  ⟨0x1E3F, "LATIN SMALL LETTER M WITH ACUTEbCAPITAL LETTER M WITH DOT ABOVE"⟩,
  ⟨0x1E41, "LATIN SMALL LETTER M WITH DOT ABOVEbCAPITAL LETTER M WITH DOT BELOW"⟩,
  ⟨0x1E43, "LATIN SMALL LETTER M WITH DOT BELOWbCAPITAL LETTER N WITH DOT ABOVE"⟩,
  ⟨0x1E45, "LATIN SMALL LETTER N WITH DOT ABOVEbCAPITAL LETTER N WITH DOT BELOW"⟩,
  ⟨0x1E47, "LATIN SMALL LETTER N WITH DOT BELOWbCAPITAL LETTER N WITH LINE BELOW"⟩,
  ⟨0x1E49, "LATIN SMALL LETTER N WITH LINE BELOWbCAPITAL LETTER N WITH CIRCUMFLEX BELOW"⟩,
  ⟨0x1E4B, "LATIN SMALL LETTER N WITH CIRCUMFLEX BELOWbCAPITAL LETTER O WITH TILDE AND ACUTE"⟩,
  ⟨0x1E4D, "LATIN SMALL LETTER O WITH TILDE AND ACUTEbCAPITAL LETTER O WITH TILDE AND DIAERESIS"⟩,
  ⟨0x1E4F, "LATIN SMALL LETTER O WITH TILDE AND DIAERESISbCAPITAL LETTER O WITH MACRON AND GRAVE"⟩,
  ⟨0x1E51, "LATIN SMALL LETTER O WITH MACRON AND GRAVEbCAPITAL LETTER O WITH MACRON AND ACUTE"⟩,
  ⟨0x1E53, "LATIN SMALL LETTER O WITH MACRON AND ACUTEbCAPITAL LETTER P WITH ACUTE"⟩,
  ⟨0x1E55, "LATIN SMALL LETTER P WITH ACUTEbCAPITAL LETTER P WITH DOT ABOVE"⟩,
  ⟨0x1E57, "LATIN SMALL LETTER P WITH DOT ABOVEbCAPITAL LETTER R WITH DOT ABOVE"⟩,
  ⟨0x1E59, "LATIN SMALL LETTER R WITH DOT ABOVEbCAPITAL LETTER R WITH DOT BELOW"⟩,
  ⟨0x1E5B, "LATIN SMALL LETTER R WITH DOT BELOWbCAPITAL LETTER R WITH DOT BELOW AND MACRON"⟩,
  ⟨0x1E5D, "LATIN SMALL LETTER R WITH DOT BELOW AND MACRONbCAPITAL LETTER R WITH LINE BELOW"⟩,
  ⟨0x1E5F, "LATIN SMALL LETTER R WITH LINE BELOWbCAPITAL LETTER S WITH DOT ABOVE"⟩,
  ⟨0x1E61, "LATIN SMALL LETTER S WITH DOT ABOVEbCAPITAL LETTER S WITH DOT BELOW"⟩,
  ⟨0x1E63, "LATIN SMALL LETTER S WITH DOT BELOWbCAPITAL LETTER S WITH ACUTE AND DOT ABOVE"⟩,
  ⟨0x1E65, "LATIN SMALL LETTER S WITH ACUTE AND DOT ABOVE"⟩,
  ⟨0x1E66, "LATIN CAPITAL LETTER S WITH CARON AND DOT ABOVE"⟩,
  ⟨0x1E67, "LATIN SMALL LETTER S WITH CARON AND DOT ABOVE"⟩,
  ⟨0x1E68, "LATIN CAPITAL LETTER S WITH DOT BELOW AND DOT ABOVE"⟩,
  ⟨0x1E69, "LATIN SMALL LETTER S WITH DOT BELOW AND DOT ABOVEbCAPITAL LETTER T WITH DOT ABOVE"⟩,
  ⟨0x1E6B, "LATIN SMALL LETTER T WITH DOT ABOVEbCAPITAL LETTER T WITH DOT BELOW"⟩,
  ⟨0x1E6D, "LATIN SMALL LETTER T WITH DOT BELOWbCAPITAL LETTER T WITH LINE BELOW"⟩,
  ⟨0x1E6F, "LATIN SMALL LETTER T WITH LINE BELOWbCAPITAL LETTER T WITH CIRCUMFLEX BELOW"⟩,
  ⟨0x1E71, "LATIN SMALL LETTER T WITH CIRCUMFLEX BELOWbCAPITAL LETTER U WITH DIAERESIS BELOW"⟩,
  ⟨0x1E73, "LATIN SMALL LETTER U WITH DIAERESIS BELOWbCAPITAL LETTER U WITH TILDE BELOW"⟩,
  ⟨0x1E75, "LATIN SMALL LETTER U WITH TILDE BELOWbCAPITAL LETTER U WITH CIRCUMFLEX BELOW"⟩,
  ⟨0x1E77, "LATIN SMALL LETTER U WITH CIRCUMFLEX BELOWbCAPITAL LETTER U WITH TILDE AND ACUTE"⟩,
  ⟨0x1E79, "LATIN SMALL LETTER U WITH TILDE AND ACUTEbCAPITAL LETTER U WITH MACRON AND DIAERESIS"⟩,
  ⟨0x1E7B, "LATIN SMALL LETTER U WITH MACRON AND DIAERESISbCAPITAL LETTER V WITH TILDE"⟩,
  ⟨0x1E7D, "LATIN SMALL LETTER V WITH TILDEbCAPITAL LETTER V WITH DOT BELOW"⟩,
  ⟨0x1E7F, "LATIN SMALL LETTER V WITH DOT BELOWbCAPITAL LETTER W WITH GRAVE"⟩,
  ⟨0x1E81, "LATIN SMALL LETTER W WITH GRAVEbCAPITAL LETTER W WITH ACUTEbSMALL LETTER W WITH ACUTE"⟩,
  ⟨0x1E84, "LATIN CAPITAL LETTER W WITH DIAERESISbSMALL LETTER W WITH DIAERESIS"⟩,
  ⟨0x1E86, "LATIN CAPITAL LETTER W WITH DOT ABOVEbSMALL LETTER W WITH DOT ABOVE"⟩,
  ⟨0x1E88, "LATIN CAPITAL LETTER W WITH DOT BELOWbSMALL LETTER W WITH DOT BELOW"⟩,
  ⟨0x1E8A, "LATIN CAPITAL LETTER X WITH DOT ABOVEbSMALL LETTER X WITH DOT ABOVE"⟩,
  ⟨0x1E8C, "LATIN CAPITAL LETTER X WITH DIAERESISbSMALL LETTER X WITH DIAERESIS"⟩,
  ⟨0x1E8E, "LATIN CAPITAL LETTER Y WITH DOT ABOVEbSMALL LETTER Y WITH DOT ABOVE"⟩,
  ⟨0x1E90, "LATIN CAPITAL LETTER Z WITH CIRCUMFLEXbSMALL LETTER Z WITH CIRCUMFLEX"⟩,
  ⟨0x1E92, "LATIN CAPITAL LETTER Z WITH DOT BELOWbSMALL LETTER Z WITH DOT BELOW"⟩,
  ⟨0x1E94, "LATIN CAPITAL LETTER Z WITH LINE BELOWbSMALL LETTER Z WITH LINE BELOW"⟩,
  ⟨0x1E96, "LATIN SMALL LETTER H WITH LINE BELOWdT WITH DIAERESISdW WITH RING ABOVE"⟩,
  ⟨0x1E99, "LATIN SMALL LETTER Y WITH RING ABOVEdA WITH RIGHT HALF RINGdLONG S WITH DOT ABOVE"⟩,
  ⟨0x1E9C, "LATIN SMALL LETTER LONG S WITH DIAGONAL STROKEgHIGH STROKEbCAPITAL LETTER SHARP S"⟩,
  ⟨0x1E9F, "LATIN SMALL LETTER DELTAbCAPITAL LETTER A WITH DOT BELOW"⟩,
  ⟨0x1EA1, "LATIN SMALL LETTER A WITH DOT BELOWbCAPITAL LETTER A WITH HOOK ABOVE"⟩,
  ⟨0x1EA3, "LATIN SMALL LETTER A WITH HOOK ABOVEbCAPITAL LETTER A WITH CIRCUMFLEX AND ACUTE"⟩,
  ⟨0x1EA5, "LATIN SMALL LETTER A WITH CIRCUMFLEX AND ACUTE"⟩,
  ⟨0x1EA6, "LATIN CAPITAL LETTER A WITH CIRCUMFLEX AND GRAVE"⟩,
  ⟨0x1EA7, "LATIN SMALL LETTER A WITH CIRCUMFLEX AND GRAVE"⟩,
  ⟨0x1EA8, "LATIN CAPITAL LETTER A WITH CIRCUMFLEX AND HOOK ABOVE"⟩,
  ⟨0x1EA9, "LATIN SMALL LETTER A WITH CIRCUMFLEX AND HOOK ABOVE"⟩,
  ⟨0x1EAA, "LATIN CAPITAL LETTER A WITH CIRCUMFLEX AND TILDE"⟩,
  ⟨0x1EAB, "LATIN SMALL LETTER A WITH CIRCUMFLEX AND TILDE"⟩,
  ⟨0x1EAC, "LATIN CAPITAL LETTER A WITH CIRCUMFLEX AND DOT BELOW"⟩,
  ⟨0x1EAD, "LATIN SMALL LETTER A WITH CIRCUMFLEX AND DOT BELOW"⟩,
  ⟨0x1EAE, "LATIN CAPITAL LETTER A WITH BREVE AND ACUTEbSMALL LETTER A WITH BREVE AND ACUTE"⟩,
  ⟨0x1EB0, "LATIN CAPITAL LETTER A WITH BREVE AND GRAVEbSMALL LETTER A WITH BREVE AND GRAVE"⟩,
  ⟨0x1EB2, "LATIN CAPITAL LETTER A WITH BREVE AND HOOK ABOVE"⟩,
  ⟨0x1EB3, "LATIN SMALL LETTER A WITH BREVE AND HOOK ABOVEbCAPITAL LETTER A WITH BREVE AND TILDE"⟩,
  ⟨0x1EB5, "LATIN SMALL LETTER A WITH BREVE AND TILDEbCAPITAL LETTER A WITH BREVE AND DOT BELOW"⟩,
  ⟨0x1EB7, "LATIN SMALL LETTER A WITH BREVE AND DOT BELOWbCAPITAL LETTER E WITH DOT BELOW"⟩,
  ⟨0x1EB9, "LATIN SMALL LETTER E WITH DOT BELOWbCAPITAL LETTER E WITH HOOK ABOVE"⟩,
  ⟨0x1EBB, "LATIN SMALL LETTER E WITH HOOK ABOVEbCAPITAL LETTER E WITH TILDE"⟩,
  ⟨0x1EBD, "LATIN SMALL LETTER E WITH TILDEbCAPITAL LETTER E WITH CIRCUMFLEX AND ACUTE"⟩,
  ⟨0x1EBF, "LATIN SMALL LETTER E WITH CIRCUMFLEX AND ACUTE"⟩,
  ⟨0x1EC0, "LATIN CAPITAL LETTER E WITH CIRCUMFLEX AND GRAVE"⟩,
  ⟨0x1EC1, "LATIN SMALL LETTER E WITH CIRCUMFLEX AND GRAVE"⟩,
  ⟨0x1EC2, "LATIN CAPITAL LETTER E WITH CIRCUMFLEX AND HOOK ABOVE"⟩,
  ⟨0x1EC3, "LATIN SMALL LETTER E WITH CIRCUMFLEX AND HOOK ABOVE"⟩,
  ⟨0x1EC4, "LATIN CAPITAL LETTER E WITH CIRCUMFLEX AND TILDE"⟩,
  ⟨0x1EC5, "LATIN SMALL LETTER E WITH CIRCUMFLEX AND TILDE"⟩,
  ⟨0x1EC6, "LATIN CAPITAL LETTER E WITH CIRCUMFLEX AND DOT BELOW"⟩,
  ⟨0x1EC7, "LATIN SMALL LETTER E WITH CIRCUMFLEX AND DOT BELOWbCAPITAL LETTER I WITH HOOK ABOVE"⟩,
  ⟨0x1EC9, "LATIN SMALL LETTER I WITH HOOK ABOVEbCAPITAL LETTER I WITH DOT BELOW"⟩,
  ⟨0x1ECB, "LATIN SMALL LETTER I WITH DOT BELOWbCAPITAL LETTER O WITH DOT BELOW"⟩,
  ⟨0x1ECD, "LATIN SMALL LETTER O WITH DOT BELOWbCAPITAL LETTER O WITH HOOK ABOVE"⟩,
  ⟨0x1ECF, "LATIN SMALL LETTER O WITH HOOK ABOVEbCAPITAL LETTER O WITH CIRCUMFLEX AND ACUTE"⟩,
  ⟨0x1ED1, "LATIN SMALL LETTER O WITH CIRCUMFLEX AND ACUTE"⟩,
  ⟨0x1ED2, "LATIN CAPITAL LETTER O WITH CIRCUMFLEX AND GRAVE"⟩,
  ⟨0x1ED3, "LATIN SMALL LETTER O WITH CIRCUMFLEX AND GRAVE"⟩,
  ⟨0x1ED4, "LATIN CAPITAL LETTER O WITH CIRCUMFLEX AND HOOK ABOVE"⟩,
  ⟨0x1ED5, "LATIN SMALL LETTER O WITH CIRCUMFLEX AND HOOK ABOVE"⟩,
  ⟨0x1ED6, "LATIN CAPITAL LETTER O WITH CIRCUMFLEX AND TILDE"⟩,
  ⟨0x1ED7, "LATIN SMALL LETTER O WITH CIRCUMFLEX AND TILDE"⟩,
  ⟨0x1ED8, "LATIN CAPITAL LETTER O WITH CIRCUMFLEX AND DOT BELOW"⟩,
  ⟨0x1ED9, "LATIN SMALL LETTER O WITH CIRCUMFLEX AND DOT BELOW"⟩,
  ⟨0x1EDA, "LATIN CAPITAL LETTER O WITH HORN AND ACUTEbSMALL LETTER O WITH HORN AND ACUTE"⟩,
  ⟨0x1EDC, "LATIN CAPITAL LETTER O WITH HORN AND GRAVEbSMALL LETTER O WITH HORN AND GRAVE"⟩,
  ⟨0x1EDE, "LATIN CAPITAL LETTER O WITH HORN AND HOOK ABOVE"⟩,
  ⟨0x1EDF, "LATIN SMALL LETTER O WITH HORN AND HOOK ABOVEbCAPITAL LETTER O WITH HORN AND TILDE"⟩,
  ⟨0x1EE1, "LATIN SMALL LETTER O WITH HORN AND TILDEbCAPITAL LETTER O WITH HORN AND DOT BELOW"⟩,
  ⟨0x1EE3, "LATIN SMALL LETTER O WITH HORN AND DOT BELOWbCAPITAL LETTER U WITH DOT BELOW"⟩,
  ⟨0x1EE5, "LATIN SMALL LETTER U WITH DOT BELOWbCAPITAL LETTER U WITH HOOK ABOVE"⟩,
  ⟨0x1EE7, "LATIN SMALL LETTER U WITH HOOK ABOVEbCAPITAL LETTER U WITH HORN AND ACUTE"⟩,
  ⟨0x1EE9, "LATIN SMALL LETTER U WITH HORN AND ACUTEbCAPITAL LETTER U WITH HORN AND GRAVE"⟩,
  ⟨0x1EEB, "LATIN SMALL LETTER U WITH HORN AND GRAVEbCAPITAL LETTER U WITH HORN AND HOOK ABOVE"⟩,
  ⟨0x1EED, "LATIN SMALL LETTER U WITH HORN AND HOOK ABOVEbCAPITAL LETTER U WITH HORN AND TILDE"⟩,
  ⟨0x1EEF, "LATIN SMALL LETTER U WITH HORN AND TILDEbCAPITAL LETTER U WITH HORN AND DOT BELOW"⟩,
  ⟨0x1EF1, "LATIN SMALL LETTER U WITH HORN AND DOT BELOWbCAPITAL LETTER Y WITH GRAVE"⟩,
  ⟨0x1EF3, "LATIN SMALL LETTER Y WITH GRAVEbCAPITAL LETTER Y WITH DOT BELOW"⟩,
  ⟨0x1EF5, "LATIN SMALL LETTER Y WITH DOT BELOWbCAPITAL LETTER Y WITH HOOK ABOVE"⟩,
  ⟨0x1EF7, "LATIN SMALL LETTER Y WITH HOOK ABOVEbCAPITAL LETTER Y WITH TILDE"⟩,
  ⟨0x1EF9, "LATIN SMALL LETTER Y WITH TILDEbCAPITAL LETTER MIDDLE-WELSH LL"⟩,
  ⟨0x1EFB, "LATIN SMALL LETTER MIDDLE-WELSH LLbCAPITAL LETTER MIDDLE-WELSH V"⟩,
  ⟨0x1EFD, "LATIN SMALL LETTER MIDDLE-WELSH VbCAPITAL LETTER Y WITH LOOPbSMALL LETTER Y WITH LOOP"⟩,
  ⟨0x1F00, "GREEK SMALL LETTER ALPHA WITH PSILIfDASIAfPSILI AND VARIAfDASIA AND VARIA"⟩,
  ⟨0x1F04, "GREEK SMALL LETTER ALPHA WITH PSILI AND OXIAfDASIA AND OXIAfPSILI AND PERISPOMENI"⟩,
  ⟨0x1F07, "GREEK SMALL LETTER ALPHA WITH DASIA AND PERISPOMENIbCAPITAL LETTER ALPHA WITH PSILI"⟩,
  ⟨0x1F09, "GREEK CAPITAL LETTER ALPHA WITH DASIAfPSILI AND VARIAfDASIA AND VARIAfPSILI AND OXIA"⟩,
  ⟨0x1F0D, "GREEK CAPITAL LETTER ALPHA WITH DASIA AND OXIAfPSILI AND PERISPOMENI"⟩,
  ⟨0x1F0F, "GREEK CAPITAL LETTER ALPHA WITH DASIA AND PERISPOMENIbSMALL LETTER EPSILON WITH PSILI"⟩,
  ⟨0x1F11, "GREEK SMALL LETTER EPSILON WITH DASIAfPSILI AND VARIAfDASIA AND VARIAfPSILI AND OXIA"⟩,
  ⟨0x1F15, "GREEK SMALL LETTER EPSILON WITH DASIA AND OXIA"⟩,
  ⟨0x1F18, "GREEK CAPITAL LETTER EPSILON WITH PSILIfDASIAfPSILI AND VARIAfDASIA AND VARIA"⟩,
  ⟨0x1F1C, "GREEK CAPITAL LETTER EPSILON WITH PSILI AND OXIAfDASIA AND OXIA"⟩,
  ⟨0x1F20, "GREEK SMALL LETTER ETA WITH PSILIfDASIAfPSILI AND VARIAfDASIA AND VARIA"⟩,
  ⟨0x1F24, "GREEK SMALL LETTER ETA WITH PSILI AND OXIAfDASIA AND OXIAfPSILI AND PERISPOMENI"⟩,
  ⟨0x1F27, "GREEK SMALL LETTER ETA WITH DASIA AND PERISPOMENIbCAPITAL LETTER ETA WITH PSILIfDASIA"⟩,
  ⟨0x1F2A, "GREEK CAPITAL LETTER ETA WITH PSILI AND VARIAfDASIA AND VARIAfPSILI AND OXIA"⟩,
  ⟨0x1F2D, "GREEK CAPITAL LETTER ETA WITH DASIA AND OXIAfPSILI AND PERISPOMENI"⟩,
  ⟨0x1F2F, "GREEK CAPITAL LETTER ETA WITH DASIA AND PERISPOMENIbSMALL LETTER IOTA WITH PSILI"⟩,
  ⟨0x1F31, "GREEK SMALL LETTER IOTA WITH DASIAfPSILI AND VARIAfDASIA AND VARIAfPSILI AND OXIA"⟩,
  ⟨0x1F35, "GREEK SMALL LETTER IOTA WITH DASIA AND OXIAfPSILI AND PERISPOMENI"⟩,
  ⟨0x1F37, "GREEK SMALL LETTER IOTA WITH DASIA AND PERISPOMENIbCAPITAL LETTER IOTA WITH PSILI"⟩,
  ⟨0x1F39, "GREEK CAPITAL LETTER IOTA WITH DASIAfPSILI AND VARIAfDASIA AND VARIAfPSILI AND OXIA"⟩,
  ⟨0x1F3D, "GREEK CAPITAL LETTER IOTA WITH DASIA AND OXIAfPSILI AND PERISPOMENI"⟩,
  ⟨0x1F3F, "GREEK CAPITAL LETTER IOTA WITH DASIA AND PERISPOMENIbSMALL LETTER OMICRON WITH PSILI"⟩,
  ⟨0x1F41, "GREEK SMALL LETTER OMICRON WITH DASIAfPSILI AND VARIAfDASIA AND VARIAfPSILI AND OXIA"⟩,
  ⟨0x1F45, "GREEK SMALL LETTER OMICRON WITH DASIA AND OXIA"⟩,
  ⟨0x1F48, "GREEK CAPITAL LETTER OMICRON WITH PSILIfDASIAfPSILI AND VARIAfDASIA AND VARIA"⟩,
  ⟨0x1F4C, "GREEK CAPITAL LETTER OMICRON WITH PSILI AND OXIAfDASIA AND OXIA"⟩,
  ⟨0x1F50, "GREEK SMALL LETTER UPSILON WITH PSILIfDASIAfPSILI AND VARIAfDASIA AND VARIA"⟩,
  ⟨0x1F54, "GREEK SMALL LETTER UPSILON WITH PSILI AND OXIAfDASIA AND OXIAfPSILI AND PERISPOMENI"⟩,
  ⟨0x1F57, "GREEK SMALL LETTER UPSILON WITH DASIA AND PERISPOMENI"⟩,
  ⟨0x1F59, "GREEK CAPITAL LETTER UPSILON WITH DASIA"⟩,
  ⟨0x1F5B, "GREEK CAPITAL LETTER UPSILON WITH DASIA AND VARIA"⟩,
  ⟨0x1F5D, "GREEK CAPITAL LETTER UPSILON WITH DASIA AND OXIA"⟩,
  ⟨0x1F5F, "GREEK CAPITAL LETTER UPSILON WITH DASIA AND PERISPOMENIbSMALL LETTER OMEGA WITH PSILI"⟩,
  ⟨0x1F61, "GREEK SMALL LETTER OMEGA WITH DASIAfPSILI AND VARIAfDASIA AND VARIAfPSILI AND OXIA"⟩,
  ⟨0x1F65, "GREEK SMALL LETTER OMEGA WITH DASIA AND OXIAfPSILI AND PERISPOMENI"⟩,
  ⟨0x1F67, "GREEK SMALL LETTER OMEGA WITH DASIA AND PERISPOMENIbCAPITAL LETTER OMEGA WITH PSILI"⟩,
  ⟨0x1F69, "GREEK CAPITAL LETTER OMEGA WITH DASIAfPSILI AND VARIAfDASIA AND VARIAfPSILI AND OXIA"⟩,
  ⟨0x1F6D, "GREEK CAPITAL LETTER OMEGA WITH DASIA AND OXIAfPSILI AND PERISPOMENI"⟩,
  ⟨0x1F6F, "GREEK CAPITAL LETTER OMEGA WITH DASIA AND PERISPOMENIbSMALL LETTER ALPHA WITH VARIA"⟩,
  ⟨0x1F71, "GREEK SMALL LETTER ALPHA WITH OXIAdEPSILON WITH VARIAfOXIAdETA WITH VARIAfOXIA"⟩,
  ⟨0x1F76, "GREEK SMALL LETTER IOTA WITH VARIAfOXIAdOMICRON WITH VARIAfOXIAdUPSILON WITH VARIA"⟩,
  ⟨0x1F7B, "GREEK SMALL LETTER UPSILON WITH OXIAdOMEGA WITH VARIAfOXIA"⟩,
  ⟨0x1F80, "GREEK SMALL LETTER ALPHA WITH PSILI AND YPOGEGRAMMENIfDASIA AND YPOGEGRAMMENI"⟩,
  ⟨0x1F82, "GREEK SMALL LETTER ALPHA WITH PSILI AND VARIA AND YPOGEGRAMMENI"⟩,
  ⟨0x1F83, "GREEK SMALL LETTER ALPHA WITH DASIA AND VARIA AND YPOGEGRAMMENI"⟩,
  ⟨0x1F84, "GREEK SMALL LETTER ALPHA WITH PSILI AND OXIA AND YPOGEGRAMMENI"⟩,
  ⟨0x1F85, "GREEK SMALL LETTER ALPHA WITH DASIA AND OXIA AND YPOGEGRAMMENI"⟩,
  ⟨0x1F86, "GREEK SMALL LETTER ALPHA WITH PSILI AND PERISPOMENI AND YPOGEGRAMMENI"⟩,
  ⟨0x1F87, "GREEK SMALL LETTER ALPHA WITH DASIA AND PERISPOMENI AND YPOGEGRAMMENI"⟩,
  ⟨0x1F88, "GREEK CAPITAL LETTER ALPHA WITH PSILI AND PROSGEGRAMMENIfDASIA AND PROSGEGRAMMENI"⟩,
  ⟨0x1F8A, "GREEK CAPITAL LETTER ALPHA WITH PSILI AND VARIA AND PROSGEGRAMMENI"⟩,
  ⟨0x1F8B, "GREEK CAPITAL LETTER ALPHA WITH DASIA AND VARIA AND PROSGEGRAMMENI"⟩,
  ⟨0x1F8C, "GREEK CAPITAL LETTER ALPHA WITH PSILI AND OXIA AND PROSGEGRAMMENI"⟩,
  ⟨0x1F8D, "GREEK CAPITAL LETTER ALPHA WITH DASIA AND OXIA AND PROSGEGRAMMENI"⟩,
  ⟨0x1F8E, "GREEK CAPITAL LETTER ALPHA WITH PSILI AND PERISPOMENI AND PROSGEGRAMMENI"⟩,
  ⟨0x1F8F, "GREEK CAPITAL LETTER ALPHA WITH DASIA AND PERISPOMENI AND PROSGEGRAMMENI"⟩,
  ⟨0x1F90, "GREEK SMALL LETTER ETA WITH PSILI AND YPOGEGRAMMENIfDASIA AND YPOGEGRAMMENI"⟩,
  ⟨0x1F92, "GREEK SMALL LETTER ETA WITH PSILI AND VARIA AND YPOGEGRAMMENI"⟩,
  ⟨0x1F93, "GREEK SMALL LETTER ETA WITH DASIA AND VARIA AND YPOGEGRAMMENI"⟩,
  ⟨0x1F94, "GREEK SMALL LETTER ETA WITH PSILI AND OXIA AND YPOGEGRAMMENI"⟩,
  ⟨0x1F95, "GREEK SMALL LETTER ETA WITH DASIA AND OXIA AND YPOGEGRAMMENI"⟩,
  ⟨0x1F96, "GREEK SMALL LETTER ETA WITH PSILI AND PERISPOMENI AND YPOGEGRAMMENI"⟩,
  ⟨0x1F97, "GREEK SMALL LETTER ETA WITH DASIA AND PERISPOMENI AND YPOGEGRAMMENI"⟩,
  ⟨0x1F98, "GREEK CAPITAL LETTER ETA WITH PSILI AND PROSGEGRAMMENIfDASIA AND PROSGEGRAMMENI"⟩,
  ⟨0x1F9A, "GREEK CAPITAL LETTER ETA WITH PSILI AND VARIA AND PROSGEGRAMMENI"⟩,
  ⟨0x1F9B, "GREEK CAPITAL LETTER ETA WITH DASIA AND VARIA AND PROSGEGRAMMENI"⟩,
  ⟨0x1F9C, "GREEK CAPITAL LETTER ETA WITH PSILI AND OXIA AND PROSGEGRAMMENI"⟩,
  ⟨0x1F9D, "GREEK CAPITAL LETTER ETA WITH DASIA AND OXIA AND PROSGEGRAMMENI"⟩,
  ⟨0x1F9E, "GREEK CAPITAL LETTER ETA WITH PSILI AND PERISPOMENI AND PROSGEGRAMMENI"⟩,
  ⟨0x1F9F, "GREEK CAPITAL LETTER ETA WITH DASIA AND PERISPOMENI AND PROSGEGRAMMENI"⟩,
  ⟨0x1FA0, "GREEK SMALL LETTER OMEGA WITH PSILI AND YPOGEGRAMMENIfDASIA AND YPOGEGRAMMENI"⟩,
  ⟨0x1FA2, "GREEK SMALL LETTER OMEGA WITH PSILI AND VARIA AND YPOGEGRAMMENI"⟩,
  ⟨0x1FA3, "GREEK SMALL LETTER OMEGA WITH DASIA AND VARIA AND YPOGEGRAMMENI"⟩,
  ⟨0x1FA4, "GREEK SMALL LETTER OMEGA WITH PSILI AND OXIA AND YPOGEGRAMMENI"⟩,
  ⟨0x1FA5, "GREEK SMALL LETTER OMEGA WITH DASIA AND OXIA AND YPOGEGRAMMENI"⟩,
  ⟨0x1FA6, "GREEK SMALL LETTER OMEGA WITH PSILI AND PERISPOMENI AND YPOGEGRAMMENI"⟩,
  ⟨0x1FA7, "GREEK SMALL LETTER OMEGA WITH DASIA AND PERISPOMENI AND YPOGEGRAMMENI"⟩,
  ⟨0x1FA8, "GREEK CAPITAL LETTER OMEGA WITH PSILI AND PROSGEGRAMMENIfDASIA AND PROSGEGRAMMENI"⟩,
  ⟨0x1FAA, "GREEK CAPITAL LETTER OMEGA WITH PSILI AND VARIA AND PROSGEGRAMMENI"⟩,
  ⟨0x1FAB, "GREEK CAPITAL LETTER OMEGA WITH DASIA AND VARIA AND PROSGEGRAMMENI"⟩,
  ⟨0x1FAC, "GREEK CAPITAL LETTER OMEGA WITH PSILI AND OXIA AND PROSGEGRAMMENI"⟩,
  ⟨0x1FAD, "GREEK CAPITAL LETTER OMEGA WITH DASIA AND OXIA AND PROSGEGRAMMENI"⟩,
  ⟨0x1FAE, "GREEK CAPITAL LETTER OMEGA WITH PSILI AND PERISPOMENI AND PROSGEGRAMMENI"⟩,
  ⟨0x1FAF, "GREEK CAPITAL LETTER OMEGA WITH DASIA AND PERISPOMENI AND PROSGEGRAMMENI"⟩,
  ⟨0x1FB0, "GREEK SMALL LETTER ALPHA WITH VRACHYfMACRONfVARIA AND YPOGEGRAMMENIfYPOGEGRAMMENI"⟩,
  ⟨0x1FB4, "GREEK SMALL LETTER ALPHA WITH OXIA AND YPOGEGRAMMENI"⟩,
  ⟨0x1FB6, "GREEK SMALL LETTER ALPHA WITH PERISPOMENIfPERISPOMENI AND YPOGEGRAMMENI"⟩,
  ⟨0x1FB8, "GREEK CAPITAL LETTER ALPHA WITH VRACHYfMACRONfVARIAfOXIAfPROSGEGRAMMENIbKORONIS"⟩,
  ⟨0x1FBE, "GREEK PROSGEGRAMMENIbPSILIbPERISPOMENIbDIALYTIKA AND PERISPOMENI"⟩,
  ⟨0x1FC2, "GREEK SMALL LETTER ETA WITH VARIA AND YPOGEGRAMMENIfYPOGEGRAMMENI"⟩,
  ⟨0x1FC4, "GREEK SMALL LETTER ETA WITH OXIA AND YPOGEGRAMMENI"⟩,
  ⟨0x1FC6, "GREEK SMALL LETTER ETA WITH PERISPOMENIfPERISPOMENI AND YPOGEGRAMMENI"⟩,
  ⟨0x1FC8, "GREEK CAPITAL LETTER EPSILON WITH VARIAfOXIAdETA WITH VARIAfOXIAfPROSGEGRAMMENI"⟩,
  ⟨0x1FCD, "GREEK PSILI AND VARIAdOXIAdPERISPOMENIbSMALL LETTER IOTA WITH VRACHYfMACRON"⟩,
  ⟨0x1FD2, "GREEK SMALL LETTER IOTA WITH DIALYTIKA AND VARIAhOXIA"⟩,
  ⟨0x1FD6, "GREEK SMALL LETTER IOTA WITH PERISPOMENIfDIALYTIKA AND PERISPOMENI"⟩,
  ⟨0x1FD8, "GREEK CAPITAL LETTER IOTA WITH VRACHYfMACRONfVARIAfOXIA"⟩,
  ⟨0x1FDD, "GREEK DASIA AND VARIAdOXIAdPERISPOMENIbSMALL LETTER UPSILON WITH VRACHYfMACRON"⟩,
  ⟨0x1FE2, "GREEK SMALL LETTER UPSILON WITH DIALYTIKA AND VARIAhOXIAdRHO WITH PSILIfDASIA"⟩,
  ⟨0x1FE6, "GREEK SMALL LETTER UPSILON WITH PERISPOMENIfDIALYTIKA AND PERISPOMENI"⟩,
  ⟨0x1FE8, "GREEK CAPITAL LETTER UPSILON WITH VRACHYfMACRONfVARIAfOXIAdRHO WITH DASIA"⟩,
  ⟨0x1FED, "GREEK DIALYTIKA AND VARIAdOXIAbVARIA"⟩,
  ⟨0x1FF2, "GREEK SMALL LETTER OMEGA WITH VARIA AND YPOGEGRAMMENIfYPOGEGRAMMENI"⟩,
  ⟨0x1FF4, "GREEK SMALL LETTER OMEGA WITH OXIA AND YPOGEGRAMMENI"⟩,
  ⟨0x1FF6, "GREEK SMALL LETTER OMEGA WITH PERISPOMENIfPERISPOMENI AND YPOGEGRAMMENI"⟩,
  ⟨0x1FF8, "GREEK CAPITAL LETTER OMICRON WITH VARIAfOXIAdOMEGA WITH VARIAfOXIAfPROSGEGRAMMENI"⟩,
  ⟨0x1FFD, "GREEK OXIAbDASIA"⟩]

end Bindery.Text.CharName
