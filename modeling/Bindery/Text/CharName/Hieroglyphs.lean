import Bindery.Text.CharName.Run
/-!
# Names of hieroglyphs

The names from U+12000 to U+1CFFF: cuneiform, hieroglyphs, Bamum, Tangut and kana of old.
-/
namespace Bindery.Text.CharName

def hieroglyphs : List Run := [
  ⟨0x12000, "CUNEIFORM SIGN AcA TIMES AeBADeGAN2 TENUeHAeIGIeLAGAR GUNUeMUSHeSAGcA2cAB"⟩,
  ⟨0x1200B, "CUNEIFORM SIGN AB TIMES ASH2eDUN3 GUNUeGALeGAN2 TENUeHAeIGI GUNUeIMINeLAGABeSHESH"⟩,
  ⟨0x12014, "CUNEIFORM SIGN AB TIMES U PLUS U PLUS UdGUNUcAB2cAB2 TIMES BALAGeGAN2 TENU"⟩,
  ⟨0x12019, "CUNEIFORM SIGN AB2 TIMES ME PLUS ENeSHA3eTAK4cADcAKcAK TIMES ERIN2eSHITA PLUS GISH"⟩,
  ⟨0x12020, "CUNEIFORM SIGN ALcAL TIMES ALeDIM2eGISHeHAeKAD3eKIeSHEeUSHcALANcALEPHcAMAR"⟩,
  ⟨0x1202C, "CUNEIFORM SIGN AMAR TIMES SHEcANcAN OVER ANdTHREE TIMES"⟩,
  ⟨0x12030, "CUNEIFORM SIGN AN PLUS NAGA OPPOSING AN PLUS NAGAfSQUAREDcANSHEcAPINcARAD"⟩,
  ⟨0x12035, "CUNEIFORM SIGN ARAD TIMES KURcARKABcASAL2cASHcASH ZIDA TENUdKABA TENU"⟩,
  ⟨0x1203B, "CUNEIFORM SIGN ASH OVER ASH TUG2 OVER TUG2 TUG2 OVER TUG2 PAPfOVER ASH"⟩,
  ⟨0x1203D, "CUNEIFORM SIGN ASH OVER ASH OVER ASH CROSSING ASH OVER ASH OVER ASHcASH2cASHGABcBA"⟩,
  ⟨0x12041, "CUNEIFORM SIGN BADcBAG3cBAHAR2cBALcBAL OVER BALcBALAGcBARcBARA2cBIcBI TIMES AeGAR"⟩,
  ⟨0x1204C, "CUNEIFORM SIGN BI TIMES IGI GUNUcBUcBU OVER BU ABfUNdCROSSING BUcBULUG"⟩,
  ⟨0x12052, "CUNEIFORM SIGN BULUG OVER BULUGcBURcBUR2cDAcDAGcDAG KISIM5 TIMES A PLUS MASHfAMAR"⟩,
  ⟨0x12059, "CUNEIFORM SIGN DAG KISIM5 TIMES BALAGfBIfGAfGA PLUS MASHfGIfGIR2fGUDfHAfIR"⟩,
  ⟨0x12062, "CUNEIFORM SIGN DAG KISIM5 TIMES IR PLUS LUfKAKfLAfLUfLU PLUS MASH2fLUMfNE"⟩,
  ⟨0x12069, "CUNEIFORM SIGN DAG KISIM5 TIMES PAP PLUS PAPfSIfTAK4fU2 PLUS GIR2fUSHcDAMcDARcDARA3"⟩,
  ⟨0x12071, "CUNEIFORM SIGN DARA4cDIcDIBcDIMcDIM TIMES SHEcDIM2cDINcDIN KASKAL U GUNU DISHcDISH"⟩,
  ⟨0x1207A, "CUNEIFORM SIGN DUcDU OVER DUdGUNUdSHESHIGcDUBcDUB TIMES ESH2cDUB2cDUGcDUGUDcDUHcDUN"⟩,
  ⟨0x12085, "CUNEIFORM SIGN DUN3cDUN3 GUNUdGUNU GUNUcDUN4cDUR2cEcE TIMES PAPdOVER E NUN OVER NUN"⟩,
  ⟨0x1208D, "CUNEIFORM SIGN E2cE2 TIMES A PLUS HA PLUS DAeGAReMIeSALeSHEeUcEDINcEGIRcELcEN"⟩,
  ⟨0x12098, "CUNEIFORM SIGN EN TIMES GAN2eGAN2 TENUeMEdCROSSING ENdOPPOSING ENdSQUAREDcERENcERIN2"⟩,
  ⟨0x120A0, "CUNEIFORM SIGN ESH2cEZENcEZEN TIMES AeA PLUS LALgLAL TIMES LALeANeBADeDUN3 GUNU"⟩,
  ⟨0x120A8, "CUNEIFORM SIGN EZEN TIMES DUN3 GUNU GUNUeHAeHA GUNUeIGI GUNUeKASKALeKASKAL SQUARED"⟩,
  ⟨0x120AE, "CUNEIFORM SIGN EZEN TIMES KU3eLAeLAL TIMES LALeLIeLUeU2eUDcGAcGA GUNUcGA2"⟩,
  ⟨0x120B8, "CUNEIFORM SIGN GA2 TIMES A PLUS DA PLUS HAgHAgIGIeAB2 TENU PLUS TABeANeASH"⟩,
  ⟨0x120BE, "CUNEIFORM SIGN GA2 TIMES ASH2 PLUS GALeBADeBAR PLUS RAeBUReBUR PLUS RAeDAeDI"⟩,
  ⟨0x120C5, "CUNEIFORM SIGN GA2 TIMES DIM TIMES SHEeDUBeELeEL PLUS LAeENeEN TIMES GAN2 TENU"⟩,
  ⟨0x120CB, "CUNEIFORM SIGN GA2 TIMES GAN2 TENUeGAReGIeGI4eGI4 PLUS AeGIR2 PLUS SU"⟩,
  ⟨0x120D1, "CUNEIFORM SIGN GA2 TIMES HA PLUS LU PLUS ESH2eHALeHAL PLUS LAeHI PLUS LIeHUB2"⟩,
  ⟨0x120D6, "CUNEIFORM SIGN GA2 TIMES IGI GUNUeISH PLUS HU PLUS ASHeKAKeKASKALeKIDeKID PLUS LAL"⟩,
  ⟨0x120DC, "CUNEIFORM SIGN GA2 TIMES KU3 PLUS ANeLAeME PLUS ENeMIeNUNeNUN OVER NUNePAeSALeSAR"⟩,
  ⟨0x120E5, "CUNEIFORM SIGN GA2 TIMES SHEeSHE PLUS TUReSHIDeSUMeTAK4eUeUDeUD PLUS DUdOVER GA2"⟩,
  ⟨0x120EE, "CUNEIFORM SIGN GABAcGABA CROSSING GABAcGADcGAD OVER GAD GAR OVER GARcGAL"⟩,
  ⟨0x120F3, "CUNEIFORM SIGN GAL GAD OVER GAD GAR OVER GARcGALAMcGAMcGANcGAN2cGAN2 TENUdOVER GAN2"⟩,
  ⟨0x120FA, "CUNEIFORM SIGN GAN2 CROSSING GAN2cGARcGAR3cGASHANcGESHTINcGESHTIN TIMES KURcGI"⟩,
  ⟨0x12101, "CUNEIFORM SIGN GI TIMES EeUdCROSSING GIcGI4cGI4 OVER GI4dCROSSING GI4cGIDIMcGIR2"⟩,
  ⟨0x12109, "CUNEIFORM SIGN GIR2 GUNUcGIR3cGIR3 TIMES A PLUS IGIeGAN2 TENUeIGIeLU PLUS IGIePA"⟩,
  ⟨0x12110, "CUNEIFORM SIGN GISALcGISHcGISH CROSSING GISHdTIMES BADeTAK4dTENUcGUcGU CROSSING GU"⟩,
  ⟨0x12118, "CUNEIFORM SIGN GU2cGU2 TIMES KAKeKAK TIMES IGI GUNUeNUNeSAL PLUS TUG2dGUNUcGUD"⟩,
  ⟨0x1211F, "CUNEIFORM SIGN GUD TIMES A PLUS KUReKURdOVER GUD LUGALcGULcGUMcGUM TIMES SHEcGUR"⟩,
  ⟨0x12126, "CUNEIFORM SIGN GUR7cGURUNcGURUSHcHAcHA TENUdGUNUcHALcHIcHI TIMES ASHeASH2eBADeDISH"⟩,
  ⟨0x12132, "CUNEIFORM SIGN HI TIMES GADeKINeNUNeSHEeUcHUcHUB2cHUB2 TIMES ANeHALeKASKALeLISHeUD"⟩,
  ⟨0x1213E, "CUNEIFORM SIGN HUL2cIcI AcIBcIDIMcIDIM OVER IDIM BURfSQUAREDcIGcIGIcIGI DIBdRI"⟩,
  ⟨0x12149, "CUNEIFORM SIGN IGI OVER IGI SHIR OVER SHIR UD OVER UDdGUNUcILcIL TIMES GAN2 TENUcIL2"⟩,
  ⟨0x1214E, "CUNEIFORM SIGN IMcIM TIMES TAK4dCROSSING IMdOPPOSING IMdSQUAREDcIMINcINcIRcISHcKA"⟩,
  ⟨0x12158, "CUNEIFORM SIGN KA TIMES AeADeAD PLUS KU3eASH2eBADeBALAGeBAReBIeERIN2eESH2eGAeGAL"⟩,
  ⟨0x12164, "CUNEIFORM SIGN KA TIMES GAN2 TENUeGAReGAR PLUS SHA3 PLUS AeGIeGIR2eGISH PLUS SAR"⟩,
  ⟨0x1216A, "CUNEIFORM SIGN KA TIMES GISH CROSSING GISHeGUeGUR7eIGIeIMeKAKeKIeKIDeLIeLUeME"⟩,
  ⟨0x12175, "CUNEIFORM SIGN KA TIMES ME PLUS DUgGIgTEeMIeMI PLUS NUNUZeNEeNUNePIeRUeSAeSAReSHA"⟩,
  ⟨0x12181, "CUNEIFORM SIGN KA TIMES SHEeSHIDeSHUeSIGeSUHUReTAReUeU2eUDeUMUM TIMES PAeUSHeZIcKA2"⟩,
  ⟨0x1218E, "CUNEIFORM SIGN KA2 CROSSING KA2cKABcKAD2cKAD3cKAD4cKAD5cKAD5 OVER KAD5cKAK"⟩,
  ⟨0x12196, "CUNEIFORM SIGN KAK TIMES IGI GUNUcKALcKAL TIMES BADdCROSSING KALcKAM2cKAM4cKASKAL"⟩,
  ⟨0x1219D, "CUNEIFORM SIGN KASKAL LAGAB TIMES U OVER LAGAB TIMES U"⟩,
  ⟨0x1219E, "CUNEIFORM SIGN KASKAL OVER KASKAL LAGAB TIMES U OVER LAGAB TIMES UcKESH2cKI"⟩,
  ⟨0x121A1, "CUNEIFORM SIGN KI TIMES BADeUeUDcKIDcKINcKISALcKISHcKISIM5cKISIM5 OVER KISIM5cKU"⟩,
  ⟨0x121AB, "CUNEIFORM SIGN KU OVER HI TIMES ASH2 KU OVER HI TIMES ASH2cKU3cKU4cKU4 VARIANT FORM"⟩,
  ⟨0x121AF, "CUNEIFORM SIGN KU7cKULcKUL GUNUcKUNcKURcKUR OPPOSING KURcKUSHU2cKWU318cLAcLAGAB"⟩,
  ⟨0x121B9, "CUNEIFORM SIGN LAGAB TIMES AeA PLUS DA PLUS HAgGARgLALeALeANeASH ZIDA TENUeBADeBI"⟩,
  ⟨0x121C2, "CUNEIFORM SIGN LAGAB TIMES DAReENeGAeGAReGUDeGUD PLUS GUDeHAeHALeHI TIMES NUN"⟩,
  ⟨0x121CB, "CUNEIFORM SIGN LAGAB TIMES IGI GUNUeIMeIM PLUS HAgLUeKIeKINeKU3eKUL"⟩,
  ⟨0x121D3, "CUNEIFORM SIGN LAGAB TIMES KUL PLUS HI PLUS AeLAGABeLISHeLUeLULeMEeME PLUS ENeMUSH"⟩,
  ⟨0x121DB, "CUNEIFORM SIGN LAGAB TIMES NEeSHE PLUS SUMeSHITA PLUS GISH PLUS ERIN2hTENUeSHU2"⟩,
  ⟨0x121E0, "CUNEIFORM SIGN LAGAB TIMES SHU2 PLUS SHU2eSUMeTAGeTAK4eTE PLUS A PLUS SU PLUS NAeU"⟩,
  ⟨0x121E6, "CUNEIFORM SIGN LAGAB TIMES U PLUS AgU PLUS UeU2 PLUS ASHeUDeUSHdSQUAREDcLAGAR"⟩,
  ⟨0x121ED, "CUNEIFORM SIGN LAGAR TIMES SHEeSHE PLUS SUMdGUNUdGUNU OVER LAGAR GUNU SHEcLAHSHUcLAL"⟩,
  ⟨0x121F3, "CUNEIFORM SIGN LAL TIMES LALcLAMcLAM TIMES KUReKUR PLUS RUcLIcLILcLIMMU2cLISHcLU"⟩,
  ⟨0x121FC, "CUNEIFORM SIGN LU TIMES BADcLU2cLU2 TIMES ALeBADeESH2eESH2 TENUeGAN2 TENU"⟩,
  ⟨0x12203, "CUNEIFORM SIGN LU2 TIMES HI TIMES BADeIMeKAD2eKAD3eKAD3 PLUS ASHeKIeLA PLUS ASH"⟩,
  ⟨0x1220A, "CUNEIFORM SIGN LU2 TIMES LAGABeME PLUS ENeNEeNUeSI PLUS ASHeSIK2 PLUS BUeTUG2dTENU"⟩,
  ⟨0x12212, "CUNEIFORM SIGN LU2 CROSSING LU2dOPPOSING LU2dSQUAREDdSHESHIGcLU3cLUGAL"⟩,
  ⟨0x12218, "CUNEIFORM SIGN LUGAL OVER LUGALdOPPOSING LUGALdSHESHIGcLUHcLULcLUMcLUM OVER LUM"⟩,
  ⟨0x1221F, "CUNEIFORM SIGN LUM OVER LUM GAR OVER GARcMAcMA TIMES TAK4dGUNUcMA2cMAHcMARcMASH"⟩,
  ⟨0x12227, "CUNEIFORM SIGN MASH2cMEcMEScMIcMINcMUcMU OVER MUcMUGcMUG GUNUcMUNSUBcMURGU2cMUSH"⟩,
  ⟨0x12233, "CUNEIFORM SIGN MUSH TIMES AeKUReZAdOVER MUSHeMUSH TIMES A PLUS NAdCROSSING MUSH"⟩,
  ⟨0x12239, "CUNEIFORM SIGN MUSH3cMUSH3 TIMES AeA PLUS DIeDIdGUNUcNAcNA2cNAGAcNAGA INVERTED"⟩,
  ⟨0x12242, "CUNEIFORM SIGN NAGA TIMES SHU TENUdOPPOSING NAGAcNAGARcNAM NUTILLUcNAMcNAM2cNE"⟩,
  ⟨0x12249, "CUNEIFORM SIGN NE TIMES AeUDdSHESHIGcNIcNI TIMES EcNI2cNIMcNIM TIMES GAN2 TENU"⟩,
  ⟨0x12251, "CUNEIFORM SIGN NIM TIMES GAR PLUS GAN2 TENUcNINDA2cNINDA2 TIMES ANeASHeASH PLUS ASH"⟩,
  ⟨0x12256, "CUNEIFORM SIGN NINDA2 TIMES GUDeME PLUS GAN2 TENUeNEeNUNeSHEeSHE PLUS A ANgASH"⟩,
  ⟨0x1225D, "CUNEIFORM SIGN NINDA2 TIMES SHE PLUS ASH PLUS ASHeU2 PLUS ASHeUSHcNISAGcNUcNU11cNUN"⟩,
  ⟨0x12264, "CUNEIFORM SIGN NUN LAGAR TIMES GARfMASHfSALfSAL OVER NUN LAGAR TIMES SALfUSHdTENU"⟩,
  ⟨0x1226A, "CUNEIFORM SIGN NUN OVER NUNdCROSSING NUNeNUN LAGAR OVER LAGARcNUNUZ"⟩,
  ⟨0x1226E, "CUNEIFORM SIGN NUNUZ AB2 TIMES ASHGABfBIfDUGfGUDfIGI GUNUfKAD3fLAfNEfSILA3fU2"⟩,
  ⟨0x12278, "CUNEIFORM SIGN NUNUZ KISIM5 TIMES BIfBI UcPAcPADcPANcPAPcPESH2cPIcPI TIMES AeABeBI"⟩,
  ⟨0x12283, "CUNEIFORM SIGN PI TIMES BUeEeIeIBeUeU2dCROSSING PIcPIRIGcPIRIG TIMES KALeUDeZA"⟩,
  ⟨0x1228E, "CUNEIFORM SIGN PIRIG OPPOSING PIRIGcRAcRABcRIcRUcSAcSAG NUTILLUcSAGcSAG TIMES AeDU"⟩,
  ⟨0x12298, "CUNEIFORM SIGN SAG TIMES DUBeHAeKAKeKUReLUMeMIeNUNeSALeSHIDeTABeU2eUBeUMeUReUSH"⟩,
  ⟨0x122A7, "CUNEIFORM SIGN SAG OVER SAGdGUNUcSALcSAL LAGAB TIMES ASH2cSANGA2cSARcSHAcSHA3"⟩,
  ⟨0x122AF, "CUNEIFORM SIGN SHA3 TIMES AeBADeGISHeNEeSHU2eTUReUeU PLUS AcSHA6cSHAB6cSHAR2cSHE"⟩,
  ⟨0x122BB, "CUNEIFORM SIGN SHE HUdOVER SHE GAD OVER GAD GAR OVER GARfTAB OVER TAB GAR OVER GAR"⟩,
  ⟨0x122BE, "CUNEIFORM SIGN SHEG9cSHENcSHESHcSHESH2cSHESHLAMcSHIDcSHID TIMES AeIMcSHIM"⟩,
  ⟨0x122C7, "CUNEIFORM SIGN SHIM TIMES AeBALeBULUGeDINeGAReIGIeIGI GUNUeKUSHU2eLULeMUGeSALcSHINIG"⟩,
  ⟨0x122D3, "CUNEIFORM SIGN SHIRcSHIR TENUdOVER SHIR BUR OVER BURcSHITAcSHUcSHU OVER INVERTED SHU"⟩,
  ⟨0x122D9, "CUNEIFORM SIGN SHU2cSHUBURcSIcSI GUNUcSIGcSIG4cSIG4 OVER SIG4 SHU2cSIK2cSILA3cSU"⟩,
  ⟨0x122E3, "CUNEIFORM SIGN SU OVER SUcSUDcSUD2cSUHURcSUMcSUMASHcSURcSUR9cTAcTA ASTERISKdTIMES HI"⟩,
  ⟨0x122EE, "CUNEIFORM SIGN TA TIMES MIdGUNUcTABcTAB OVER TAB NI OVER NI DISH OVER DISHdSQUARED"⟩,
  ⟨0x122F3, "CUNEIFORM SIGN TAGcTAG TIMES BIeGUDeSHEeSHUeTUG2eUDcTAK4cTARcTEcTE GUNUcTIcTI TENU"⟩,
  ⟨0x12300, "CUNEIFORM SIGN TILcTIRcTIR TIMES TAK4dOVER TIReTIR GAD OVER GAD GAR OVER GARcTUcTUG2"⟩,
  ⟨0x12307, "CUNEIFORM SIGN TUKcTUMcTURcTUR OVER TUR ZA OVER ZAcUcU GUDdU U"⟩,
  ⟨0x1230E, "CUNEIFORM SIGN U OVER U PA OVER PA GAR OVER GARfSUR OVER SUR"⟩,
  ⟨0x12310, "CUNEIFORM SIGN U OVER U U REVERSED OVER U REVERSEDcU2cUBcUDcUD KUSHU2dTIMES BADeMI"⟩,
  ⟨0x12317, "CUNEIFORM SIGN UD TIMES U PLUS U PLUS UiU GUNUdGUNUdSHESHIGdSHESHIG TIMES BADcUDUG"⟩,
  ⟨0x1231D, "CUNEIFORM SIGN UMcUM TIMES LAGABeME PLUS DAeSHA3eUcUMBINcUMUMcUMUM TIMES KASKALePA"⟩,
  ⟨0x12326, "CUNEIFORM SIGN UNcUN GUNUcURcUR CROSSING URdSHESHIGcUR2cUR2 TIMES A PLUS HAgNAeALeHA"⟩,
  ⟨0x12330, "CUNEIFORM SIGN UR2 TIMES NUNeU2eU2 PLUS ASHgBIcUR4cURIcURI3cURUcURU TIMES AeASHGAB"⟩,
  ⟨0x1233A, "CUNEIFORM SIGN URU TIMES BAReDUNeGAeGALeGAN2 TENUeGAReGUeHAeIGIeIMeISHeKIeLUMeMINePA"⟩,
  ⟨0x12349, "CUNEIFORM SIGN URU TIMES SHEeSIG4eTUeU PLUS GUDeUDeURUDAcURUDAcURUDA TIMES UcUSH"⟩,
  ⟨0x12352, "CUNEIFORM SIGN USH TIMES AeKUeKUReTAK4cUSHXcUSH2cUSHUMXcUTUKIcUZ3cUZ3 TIMES KASKAL"⟩,
  ⟨0x1235C, "CUNEIFORM SIGN UZUcZAcZA TENUdSQUARED TIMES KURcZAGcZAMXcZE2cZIcZI OVER ZIcZI3cZIB"⟩,
  ⟨0x12367, "CUNEIFORM SIGN ZIB KABA TENUcZIGcZIZ2cZUcZU5cZU5 TIMES AcZUBURcZUMcKAP ELAMITE"⟩,
  ⟨0x12370, "CUNEIFORM SIGN AB TIMES NUNcAB2 TIMES AcAMAR TIMES KUGcDAG KISIM5 TIMES U2 PLUS MASH"⟩,
  ⟨0x12374, "CUNEIFORM SIGN DAG3cDISH PLUS SHUcDUB TIMES SHEcEZEN TIMES GUDeSHE"⟩,
  ⟨0x12379, "CUNEIFORM SIGN GA2 TIMES AN PLUS KAK PLUS AeASH2cGE22cGIGcHUSHcKA TIMES ANSHEeASH3"⟩,
  ⟨0x12380, "CUNEIFORM SIGN KA TIMES GISHeGUDeHI TIMES ASH2eLUMePAeSHULeTUeUR2cLAGAB TIMES GI"⟩,
  ⟨0x12389, "CUNEIFORM SIGN LU2 SHESHIG TIMES BADdTIMES ESH2 PLUS LALeSHUcMESHcMUSH3 TIMES ZAcNA4"⟩,
  ⟨0x1238F, "CUNEIFORM SIGN NINcNIN9cNINDA2 TIMES BALeGIcNU11 ROTATED NINETY DEGREES"⟩,
  ⟨0x12394, "CUNEIFORM SIGN PESH2 ASTERISKcPIR2cSAG TIMES IGI GUNUcTI2cUM TIMES MEcU U"⟩,
  ⟨0x12400, "CUNEIFORM NUMERIC SIGN TWO ASHdTHREE ASHdFOUR ASHdFIVE ASHdSIX ASHdSEVEN ASH"⟩,
  ⟨0x12406, "CUNEIFORM NUMERIC SIGN EIGHT ASHdNINE ASHdTHREE DISHdFOUR DISHdFIVE DISHdSIX DISH"⟩,
  ⟨0x1240C, "CUNEIFORM NUMERIC SIGN SEVEN DISHdEIGHT DISHdNINE DISHdFOUR UdFIVE UdSIX UdSEVEN U"⟩,
  ⟨0x12413, "CUNEIFORM NUMERIC SIGN EIGHT UdNINE UdONE GESH2dTWO GESH2dTHREE GESH2dFOUR GESH2"⟩,
  ⟨0x12419, "CUNEIFORM NUMERIC SIGN FIVE GESH2dSIX GESH2dSEVEN GESH2dEIGHT GESH2dNINE GESH2"⟩,
  ⟨0x1241E, "CUNEIFORM NUMERIC SIGN ONE GESHUdTWO GESHUdTHREE GESHUdFOUR GESHUdFIVE GESHU"⟩,
  ⟨0x12423, "CUNEIFORM NUMERIC SIGN TWO SHAR2dTHREE SHAR2eSHAR2 VARIANT FORMdFOUR SHAR2"⟩,
  ⟨0x12427, "CUNEIFORM NUMERIC SIGN FIVE SHAR2dSIX SHAR2dSEVEN SHAR2dEIGHT SHAR2dNINE SHAR2"⟩,
  ⟨0x1242C, "CUNEIFORM NUMERIC SIGN ONE SHARUdTWO SHARUdTHREE SHARUeSHARU VARIANT FORMdFOUR SHARU"⟩,
  ⟨0x12431, "CUNEIFORM NUMERIC SIGN FIVE SHARUdSHAR2 TIMES GAL PLUS DISHhMINdONE BURUdTWO BURU"⟩,
  ⟨0x12436, "CUNEIFORM NUMERIC SIGN THREE BURUeBURU VARIANT FORMdFOUR BURUdFIVE BURU"⟩,
  ⟨0x1243A, "CUNEIFORM NUMERIC SIGN THREE VARIANT FORM ESH16gESH21dFOUR VARIANT FORM LIMMUgLIMMU4"⟩,
  ⟨0x1243E, "CUNEIFORM NUMERIC SIGN FOUR VARIANT FORM LIMMU AhBdSIX VARIANT FORM ASH9"⟩,
  ⟨0x12441, "CUNEIFORM NUMERIC SIGN SEVEN VARIANT FORM IMIN3gIMIN AhBdEIGHT VARIANT FORM USSU"⟩,
  ⟨0x12445, "CUNEIFORM NUMERIC SIGN EIGHT VARIANT FORM USSU3dNINE VARIANT FORM ILIMMUgILIMMU3"⟩,
  ⟨0x12448, "CUNEIFORM NUMERIC SIGN NINE VARIANT FORM ILIMMU4gILIMMU AdTWO ASH TENU"⟩,
  ⟨0x1244B, "CUNEIFORM NUMERIC SIGN THREE ASH TENUdFOUR ASH TENUdFIVE ASH TENUdSIX ASH TENU"⟩,
  ⟨0x1244F, "CUNEIFORM NUMERIC SIGN ONE BAN2dTWO BAN2dTHREE BAN2dFOUR BAN2eBAN2 VARIANT FORM"⟩,
  ⟨0x12454, "CUNEIFORM NUMERIC SIGN FIVE BAN2eBAN2 VARIANT FORMdNIGIDAMINdNIGIDAESHdONE ESHE3"⟩,
  ⟨0x12459, "CUNEIFORM NUMERIC SIGN TWO ESHE3dONE THIRD DISHdTWO THIRDS DISHdFIVE SIXTHS DISH"⟩,
  ⟨0x1245D, "CUNEIFORM NUMERIC SIGN ONE THIRD VARIANT FORM AdTWO THIRDS VARIANT FORM A"⟩,
  ⟨0x1245F, "CUNEIFORM NUMERIC SIGN ONE EIGHTH ASHeQUARTER ASHdOLD ASSYRIAN ONE SIXTHgQUARTER"⟩,
  ⟨0x12463, "CUNEIFORM NUMERIC SIGN ONE QUARTER GUReHALF GURdELAMITE ONE THIRDeTWO THIRDSeFORTY"⟩,
  ⟨0x12468, "CUNEIFORM NUMERIC SIGN ELAMITE FIFTYdFOUR U VARIANT FORMdFIVE U VARIANT FORM"⟩,
  ⟨0x1246B, "CUNEIFORM NUMERIC SIGN SIX U VARIANT FORMdSEVEN U VARIANT FORMdEIGHT U VARIANT FORM"⟩,
  ⟨0x1246E, "CUNEIFORM NUMERIC SIGN NINE U VARIANT FORM"⟩,
  ⟨0x12470, "CUNEIFORM PUNCTUATION SIGN OLD ASSYRIAN WORD DIVIDERdVERTICAL COLONdDIAGONAL COLON"⟩,
  ⟨0x12473, "CUNEIFORM PUNCTUATION SIGN DIAGONAL TRICOLONeQUADCOLON"⟩,
  ⟨0x12480, "CUNEIFORM SIGN AB TIMES NUN TENUeSHU2cAD TIMES ESH2cBAD TIMES DISH TENU"⟩,
  ⟨0x12484, "CUNEIFORM SIGN BAHAR2 TIMES AB2eNIeZAcBU OVER BU TIMES NA2cDA TIMES TAK4"⟩,
  ⟨0x12489, "CUNEIFORM SIGN DAG TIMES KURcDIM TIMES IGIeU U UcDIM2 TIMES UDcDUG TIMES ANSHEeASH"⟩,
  ⟨0x1248F, "CUNEIFORM SIGN DUG TIMES ASH AT LEFTeDINeDUNeERIN2eGAeGIeGIR2 GUNUeGISHeHAeHI"⟩,
  ⟨0x12499, "CUNEIFORM SIGN DUG TIMES IGI GUNUeKASKALeKUReKUSHU2eKUSHU2 PLUS KASKALeLAK-020eLAM"⟩,
  ⟨0x124A0, "CUNEIFORM SIGN DUG TIMES LAM TIMES KUReLUH PLUS GISHeMASHeMESeMIeNIePIeSHEeSI GUNU"⟩,
  ⟨0x124A9, "CUNEIFORM SIGN E2 TIMES KURePAPcERIN2 XcESH2 CROSSING ESH2cEZEN SHESHIG TIMES ASHfHI"⟩,
  ⟨0x124AF, "CUNEIFORM SIGN EZEN SHESHIG TIMES IGI GUNUfLAfLALfMEfMESfSUdTIMES SU"⟩,
  ⟨0x124B6, "CUNEIFORM SIGN GA2 TIMES BAHAR2eDIM GUNUeDUG TIMES IGI GUNUgKASKALeERENeGA"⟩,
  ⟨0x124BC, "CUNEIFORM SIGN GA2 TIMES GAR PLUS DIgNEeHA PLUS AeKUSHU2 PLUS KASKALeLAM"⟩,
  ⟨0x124C1, "CUNEIFORM SIGN GA2 TIMES LAM TIMES KUReLUHeMUSHeNEeNE PLUS E2gGIeSHIMeZIZ2"⟩,
  ⟨0x124C9, "CUNEIFORM SIGN GABA ROTATED NINETY DEGREEScGESHTIN TIMES U"⟩,
  ⟨0x124CB, "CUNEIFORM SIGN GISH TIMES GISH CROSSING GISHcGU2 TIMES IGI GUNU"⟩,
  ⟨0x124CD, "CUNEIFORM SIGN GUD PLUS GISH TIMES TAK4cHA TENU GUNUcHI TIMES ASH OVER HI TIMES ASH"⟩,
  ⟨0x124D0, "CUNEIFORM SIGN KA TIMES BUeKAeU U UeURcLAGAB TIMES ZU OVER ZUcLAK-003d021d025d030"⟩,
  ⟨0x124D9, "CUNEIFORM SIGN LAK-050d051d062d079 OVER LAK-079 GUNUd080d081 OVER LAK-081d092d130"⟩,
  ⟨0x124E1, "CUNEIFORM SIGN LAK-142d210d219d220d225d228d238d265d266d343d347d348d383d384d390d441"⟩,
  ⟨0x124F1, "CUNEIFORM SIGN LAK-449d449 TIMES GUfIGIfPAP PLUS LU3hPAP PLUS LU3fU2 PLUS BAd450d457"⟩,
  ⟨0x124F9, "CUNEIFORM SIGN LAK-470d483d490d492d493d495d550d608d617d617 TIMES ASHfBAD"⟩,
  ⟨0x12504, "CUNEIFORM SIGN LAK-617 TIMES DUN3 GUNU GUNUfKU3fLAfTARfTEfU2fUDfURUDAd636d648"⟩,
  ⟨0x1250E, "CUNEIFORM SIGN LAK-648 TIMES DUBfGAfIGIfIGI GUNUfNIfPAP PLUS PAP PLUS LU3"⟩,
  ⟨0x12514, "CUNEIFORM SIGN LAK-648 TIMES SHESH PLUS KIfUDfURUDAd724d749cLU2 GUNU TIMES ASH"⟩,
  ⟨0x1251A, "CUNEIFORM SIGN LU2 TIMES DISHeHALePAPePAP PLUS PAP PLUS LU3eTAK4cMI PLUS ZA7"⟩,
  ⟨0x12520, "CUNEIFORM SIGN MUSH OVER MUSH TIMES GAgKAKcNINDA2 TIMES DIM GUNUeGISHeGULeHIeKESH2"⟩,
  ⟨0x12527, "CUNEIFORM SIGN NINDA2 TIMES LAK-050eMASHePAP PLUS PAPeUeU PLUS UeURUDA"⟩,
  ⟨0x1252D, "CUNEIFORM SIGN SAG GUNU TIMES HAdTIMES ENeSHE AT LEFTeTAK4cSHA6 TENUcSHE OVER SHE"⟩,
  ⟨0x12533, "CUNEIFORM SIGN SHE PLUS HUB2eNAM2eSARcSHU2 PLUS DUG TIMES NIeE2 TIMES AN"⟩,
  ⟨0x12538, "CUNEIFORM SIGN SI TIMES TAK4cTAK4 PLUS SAGcTUM TIMES GAN2 TENUeTHREE DISH"⟩,
  ⟨0x1253C, "CUNEIFORM SIGN UR2 INVERTEDdTIMES UDcURU TIMES DARA3eLAK-668eLU3cZA7"⟩,
  ⟨0x12542, "CUNEIFORM SIGN ZU OVER ZU PLUS SARcZU5 TIMES THREE DISH TENU"⟩,
  ⟨0x12F90, "CYPRO-MINOAN SIGN CM001dCM002dCM004dCM005dCM006dCM007dCM008dCM009dCM010dCM011dCM012"⟩,
  ⟨0x12F9B, "CYPRO-MINOAN SIGN CM012BdCM013dCM015dCM017dCM019dCM021dCM023dCM024dCM025dCM026dCM027"⟩,
  ⟨0x12FA6, "CYPRO-MINOAN SIGN CM028dCM029dCM030dCM033dCM034dCM035dCM036dCM037dCM038dCM039dCM040"⟩,
  ⟨0x12FB1, "CYPRO-MINOAN SIGN CM041dCM044dCM046dCM047dCM049dCM050dCM051dCM052dCM053dCM054dCM055"⟩,
  ⟨0x12FBC, "CYPRO-MINOAN SIGN CM056dCM058dCM059dCM060dCM061dCM062dCM063dCM064dCM066dCM067dCM068"⟩,
  ⟨0x12FC7, "CYPRO-MINOAN SIGN CM069dCM070dCM071dCM072dCM073dCM074dCM075dCM075BdCM076dCM078dCM079"⟩,
  ⟨0x12FD2, "CYPRO-MINOAN SIGN CM080dCM081dCM082dCM083dCM084dCM085dCM086dCM087dCM088dCM089dCM090"⟩,
  ⟨0x12FDD, "CYPRO-MINOAN SIGN CM091dCM092dCM094dCM095dCM096dCM097dCM098dCM099dCM100dCM101dCM102"⟩,
  ⟨0x12FE8, "CYPRO-MINOAN SIGN CM103dCM104dCM105dCM107dCM108dCM109dCM110dCM112dCM114dCM301dCM302"⟩,
  ⟨0x13000, "EGYPTIAN HIEROGLYPH A001cA002cA003cA004cA005cA005AcA006cA006AcA006BcA007cA008cA009"⟩,
  ⟨0x1300C, "EGYPTIAN HIEROGLYPH A010cA011cA012cA013cA014cA014AcA015cA016cA017cA017AcA018cA019"⟩,
  ⟨0x13018, "EGYPTIAN HIEROGLYPH A020cA021cA022cA023cA024cA025cA026cA027cA028cA029cA030cA031cA032"⟩,
  ⟨0x13025, "EGYPTIAN HIEROGLYPH A032AcA033cA034cA035cA036cA037cA038cA039cA040cA040AcA041cA042"⟩,
  ⟨0x13031, "EGYPTIAN HIEROGLYPH A042AcA043cA043AcA044cA045cA045AcA046cA047cA048cA049cA050cA051"⟩,
  ⟨0x1303D, "EGYPTIAN HIEROGLYPH A052cA053cA054cA055cA056cA057cA058cA059cA060cA061cA062cA063cA064"⟩,
  ⟨0x1304A, "EGYPTIAN HIEROGLYPH A065cA066cA067cA068cA069cA070cB001cB002cB003cB004cB005cB005A"⟩,
  ⟨0x13056, "EGYPTIAN HIEROGLYPH B006cB007cB008cB009cC001cC002cC002AcC002BcC002CcC003cC004cC005"⟩,
  ⟨0x13062, "EGYPTIAN HIEROGLYPH C006cC007cC008cC009cC010cC010AcC011cC012cC013cC014cC015cC016"⟩,
  ⟨0x1306E, "EGYPTIAN HIEROGLYPH C017cC018cC019cC020cC021cC022cC023cC024cD001cD002cD003cD004cD005"⟩,
  ⟨0x1307B, "EGYPTIAN HIEROGLYPH D006cD007cD008cD008AcD009cD010cD011cD012cD013cD014cD015cD016"⟩,
  ⟨0x13087, "EGYPTIAN HIEROGLYPH D017cD018cD019cD020cD021cD022cD023cD024cD025cD026cD027cD027A"⟩,
  ⟨0x13093, "EGYPTIAN HIEROGLYPH D028cD029cD030cD031cD031AcD032cD033cD034cD034AcD035cD036cD037"⟩,
  ⟨0x1309F, "EGYPTIAN HIEROGLYPH D038cD039cD040cD041cD042cD043cD044cD045cD046cD046AcD047cD048"⟩,
  ⟨0x130AB, "EGYPTIAN HIEROGLYPH D048AcD049cD050cD050AcD050BcD050CcD050DcD050EcD050FcD050GcD050H"⟩,
  ⟨0x130B6, "EGYPTIAN HIEROGLYPH D050IcD051cD052cD052AcD053cD054cD054AcD055cD056cD057cD058cD059"⟩,
  ⟨0x130C2, "EGYPTIAN HIEROGLYPH D060cD061cD062cD063cD064cD065cD066cD067cD067AcD067BcD067CcD067D"⟩,
  ⟨0x130CE, "EGYPTIAN HIEROGLYPH D067EcD067FcD067GcD067HcE001cE002cE003cE004cE005cE006cE007cE008"⟩,
  ⟨0x130DA, "EGYPTIAN HIEROGLYPH E008AcE009cE009AcE010cE011cE012cE013cE014cE015cE016cE016AcE017"⟩,
  ⟨0x130E6, "EGYPTIAN HIEROGLYPH E017AcE018cE019cE020cE020AcE021cE022cE023cE024cE025cE026cE027"⟩,
  ⟨0x130F2, "EGYPTIAN HIEROGLYPH E028cE028AcE029cE030cE031cE032cE033cE034cE034AcE036cE037cE038"⟩,
  ⟨0x130FE, "EGYPTIAN HIEROGLYPH F001cF001AcF002cF003cF004cF005cF006cF007cF008cF009cF010cF011"⟩,
  ⟨0x1310A, "EGYPTIAN HIEROGLYPH F012cF013cF013AcF014cF015cF016cF017cF018cF019cF020cF021cF021A"⟩,
  ⟨0x13116, "EGYPTIAN HIEROGLYPH F022cF023cF024cF025cF026cF027cF028cF029cF030cF031cF031AcF032"⟩,
  ⟨0x13122, "EGYPTIAN HIEROGLYPH F033cF034cF035cF036cF037cF037AcF038cF038AcF039cF040cF041cF042"⟩,
  ⟨0x1312E, "EGYPTIAN HIEROGLYPH F043cF044cF045cF045AcF046cF046AcF047cF047AcF048cF049cF050cF051"⟩,
  ⟨0x1313A, "EGYPTIAN HIEROGLYPH F051AcF051BcF051CcF052cF053cG001cG002cG003cG004cG005cG006cG006A"⟩,
  ⟨0x13146, "EGYPTIAN HIEROGLYPH G007cG007AcG007BcG008cG009cG010cG011cG011AcG012cG013cG014cG015"⟩,
  ⟨0x13152, "EGYPTIAN HIEROGLYPH G016cG017cG018cG019cG020cG020AcG021cG022cG023cG024cG025cG026"⟩,
  ⟨0x1315E, "EGYPTIAN HIEROGLYPH G026AcG027cG028cG029cG030cG031cG032cG033cG034cG035cG036cG036A"⟩,
  ⟨0x1316A, "EGYPTIAN HIEROGLYPH G037cG037AcG038cG039cG040cG041cG042cG043cG043AcG044cG045cG045A"⟩,
  ⟨0x13176, "EGYPTIAN HIEROGLYPH G046cG047cG048cG049cG050cG051cG052cG053cG054cH001cH002cH003cH004"⟩,
  ⟨0x13183, "EGYPTIAN HIEROGLYPH H005cH006cH006AcH007cH008cI001cI002cI003cI004cI005cI005AcI006"⟩,
  ⟨0x1318F, "EGYPTIAN HIEROGLYPH I007cI008cI009cI009AcI010cI010AcI011cI011AcI012cI013cI014cI015"⟩,
  ⟨0x1319B, "EGYPTIAN HIEROGLYPH K001cK002cK003cK004cK005cK006cK007cK008cL001cL002cL002AcL003"⟩,
  ⟨0x131A7, "EGYPTIAN HIEROGLYPH L004cL005cL006cL006AcL007cL008cM001cM001AcM001BcM002cM003cM003A"⟩,
  ⟨0x131B3, "EGYPTIAN HIEROGLYPH M004cM005cM006cM007cM008cM009cM010cM010AcM011cM012cM012AcM012B"⟩,
  ⟨0x131BF, "EGYPTIAN HIEROGLYPH M012CcM012DcM012EcM012FcM012GcM012HcM013cM014cM015cM015AcM016"⟩,
  ⟨0x131CA, "EGYPTIAN HIEROGLYPH M016AcM017cM017AcM018cM019cM020cM021cM022cM022AcM023cM024cM024A"⟩,
  ⟨0x131D6, "EGYPTIAN HIEROGLYPH M025cM026cM027cM028cM028AcM029cM030cM031cM031AcM032cM033cM033A"⟩,
  ⟨0x131E2, "EGYPTIAN HIEROGLYPH M033BcM034cM035cM036cM037cM038cM039cM040cM040AcM041cM042cM043"⟩,
  ⟨0x131EE, "EGYPTIAN HIEROGLYPH M044cN001cN002cN003cN004cN005cN006cN007cN008cN009cN010cN011cN012"⟩,
  ⟨0x131FB, "EGYPTIAN HIEROGLYPH N013cN014cN015cN016cN017cN018cN018AcN018BcN019cN020cN021cN022"⟩,
  ⟨0x13207, "EGYPTIAN HIEROGLYPH N023cN024cN025cN025AcN026cN027cN028cN029cN030cN031cN032cN033"⟩,
  ⟨0x13213, "EGYPTIAN HIEROGLYPH N033AcN034cN034AcN035cN035AcN036cN037cN037AcN038cN039cN040cN041"⟩,
  ⟨0x1321F, "EGYPTIAN HIEROGLYPH N042cNL001cNL002cNL003cNL004cNL005cNL005AcNL006cNL007cNL008"⟩,
  ⟨0x13229, "EGYPTIAN HIEROGLYPH NL009cNL010cNL011cNL012cNL013cNL014cNL015cNL016cNL017cNL017A"⟩,
  ⟨0x13233, "EGYPTIAN HIEROGLYPH NL018cNL019cNL020cNU001cNU002cNU003cNU004cNU005cNU006cNU007"⟩,
  ⟨0x1323D, "EGYPTIAN HIEROGLYPH NU008cNU009cNU010cNU010AcNU011cNU011AcNU012cNU013cNU014cNU015"⟩,
  ⟨0x13247, "EGYPTIAN HIEROGLYPH NU016cNU017cNU018cNU018AcNU019cNU020cNU021cNU022cNU022AcO001"⟩,
  ⟨0x13251, "EGYPTIAN HIEROGLYPH O001AcO002cO003cO004cO005cO005AcO006cO006AcO006BcO006CcO006D"⟩,
  ⟨0x1325C, "EGYPTIAN HIEROGLYPH O006EcO006FcO007cO008cO009cO010cO010AcO010BcO010CcO011cO012cO013"⟩,
  ⟨0x13268, "EGYPTIAN HIEROGLYPH O014cO015cO016cO017cO018cO019cO019AcO020cO020AcO021cO022cO023"⟩,
  ⟨0x13274, "EGYPTIAN HIEROGLYPH O024cO024AcO025cO025AcO026cO027cO028cO029cO029AcO030cO030AcO031"⟩,
  ⟨0x13280, "EGYPTIAN HIEROGLYPH O032cO033cO033AcO034cO035cO036cO036AcO036BcO036CcO036DcO037cO038"⟩,
  ⟨0x1328C, "EGYPTIAN HIEROGLYPH O039cO040cO041cO042cO043cO044cO045cO046cO047cO048cO049cO050"⟩,
  ⟨0x13298, "EGYPTIAN HIEROGLYPH O050AcO050BcO051cP001cP001AcP002cP003cP003AcP004cP005cP006cP007"⟩,
  ⟨0x132A4, "EGYPTIAN HIEROGLYPH P008cP009cP010cP011cQ001cQ002cQ003cQ004cQ005cQ006cQ007cR001cR002"⟩,
  ⟨0x132B1, "EGYPTIAN HIEROGLYPH R002AcR003cR003AcR003BcR004cR005cR006cR007cR008cR009cR010cR010A"⟩,
  ⟨0x132BD, "EGYPTIAN HIEROGLYPH R011cR012cR013cR014cR015cR016cR016AcR017cR018cR019cR020cR021"⟩,
  ⟨0x132C9, "EGYPTIAN HIEROGLYPH R022cR023cR024cR025cR026cR027cR028cR029cS001cS002cS002AcS003"⟩,
  ⟨0x132D5, "EGYPTIAN HIEROGLYPH S004cS005cS006cS006AcS007cS008cS009cS010cS011cS012cS013cS014"⟩,
  ⟨0x132E1, "EGYPTIAN HIEROGLYPH S014AcS014BcS015cS016cS017cS017AcS018cS019cS020cS021cS022cS023"⟩,
  ⟨0x132ED, "EGYPTIAN HIEROGLYPH S024cS025cS026cS026AcS026BcS027cS028cS029cS030cS031cS032cS033"⟩,
  ⟨0x132F9, "EGYPTIAN HIEROGLYPH S034cS035cS035AcS036cS037cS038cS039cS040cS041cS042cS043cS044"⟩,
  ⟨0x13305, "EGYPTIAN HIEROGLYPH S045cS046cT001cT002cT003cT003AcT004cT005cT006cT007cT007AcT008"⟩,
  ⟨0x13311, "EGYPTIAN HIEROGLYPH T008AcT009cT009AcT010cT011cT011AcT012cT013cT014cT015cT016cT016A"⟩,
  ⟨0x1331D, "EGYPTIAN HIEROGLYPH T017cT018cT019cT020cT021cT022cT023cT024cT025cT026cT027cT028cT029"⟩,
  ⟨0x1332A, "EGYPTIAN HIEROGLYPH T030cT031cT032cT032AcT033cT033AcT034cT035cT036cU001cU002cU003"⟩,
  ⟨0x13336, "EGYPTIAN HIEROGLYPH U004cU005cU006cU006AcU006BcU007cU008cU009cU010cU011cU012cU013"⟩,
  ⟨0x13342, "EGYPTIAN HIEROGLYPH U014cU015cU016cU017cU018cU019cU020cU021cU022cU023cU023AcU024"⟩,
  ⟨0x1334E, "EGYPTIAN HIEROGLYPH U025cU026cU027cU028cU029cU029AcU030cU031cU032cU032AcU033cU034"⟩,
  ⟨0x1335A, "EGYPTIAN HIEROGLYPH U035cU036cU037cU038cU039cU040cU041cU042cV001cV001AcV001BcV001C"⟩,
  ⟨0x13366, "EGYPTIAN HIEROGLYPH V001DcV001EcV001FcV001GcV001HcV001IcV002cV002AcV003cV004cV005"⟩,
  ⟨0x13371, "EGYPTIAN HIEROGLYPH V006cV007cV007AcV007BcV008cV009cV010cV011cV011AcV011BcV011CcV012"⟩,
  ⟨0x1337D, "EGYPTIAN HIEROGLYPH V012AcV012BcV013cV014cV015cV016cV017cV018cV019cV020cV020AcV020B"⟩,
  ⟨0x13389, "EGYPTIAN HIEROGLYPH V020CcV020DcV020EcV020FcV020GcV020HcV020IcV020JcV020KcV020LcV021"⟩,
  ⟨0x13394, "EGYPTIAN HIEROGLYPH V022cV023cV023AcV024cV025cV026cV027cV028cV028AcV029cV029AcV030"⟩,
  ⟨0x133A0, "EGYPTIAN HIEROGLYPH V030AcV031cV031AcV032cV033cV033AcV034cV035cV036cV037cV037AcV038"⟩,
  ⟨0x133AC, "EGYPTIAN HIEROGLYPH V039cV040cV040AcW001cW002cW003cW003AcW004cW005cW006cW007cW008"⟩,
  ⟨0x133B8, "EGYPTIAN HIEROGLYPH W009cW009AcW010cW010AcW011cW012cW013cW014cW014AcW015cW016cW017"⟩,
  ⟨0x133C4, "EGYPTIAN HIEROGLYPH W017AcW018cW018AcW019cW020cW021cW022cW023cW024cW024AcW025cX001"⟩,
  ⟨0x133D0, "EGYPTIAN HIEROGLYPH X002cX003cX004cX004AcX004BcX005cX006cX006AcX007cX008cX008AcY001"⟩,
  ⟨0x133DC, "EGYPTIAN HIEROGLYPH Y001AcY002cY003cY004cY005cY006cY007cY008cZ001cZ002cZ002AcZ002B"⟩,
  ⟨0x133E8, "EGYPTIAN HIEROGLYPH Z002CcZ002DcZ003cZ003AcZ003BcZ004cZ004AcZ005cZ005AcZ006cZ007"⟩,
  ⟨0x133F3, "EGYPTIAN HIEROGLYPH Z008cZ009cZ010cZ011cZ012cZ013cZ014cZ015cZ015AcZ015BcZ015CcZ015D"⟩,
  ⟨0x133FF, "EGYPTIAN HIEROGLYPH Z015EcZ015FcZ015GcZ015HcZ015IcZ016cZ016AcZ016BcZ016CcZ016DcZ016E"⟩,
  ⟨0x1340A, "EGYPTIAN HIEROGLYPH Z016FcZ016GcZ016HcAA001cAA002cAA003cAA004cAA005cAA006cAA007"⟩,
  ⟨0x13414, "EGYPTIAN HIEROGLYPH AA007AcAA007BcAA008cAA009cAA010cAA011cAA012cAA013cAA014cAA015"⟩,
  ⟨0x1341E, "EGYPTIAN HIEROGLYPH AA016cAA017cAA018cAA019cAA020cAA021cAA022cAA023cAA024cAA025"⟩,
  ⟨0x13428, "EGYPTIAN HIEROGLYPH AA026cAA027cAA028cAA029cAA030cAA031cAA032"⟩,
  ⟨0x13430, "EGYPTIAN HIEROGLYPH VERTICAL JOINERcHORIZONTAL JOINERcINSERT AT TOP START"⟩,
  ⟨0x13433, "EGYPTIAN HIEROGLYPH INSERT AT BOTTOM STARTeTOP ENDeBOTTOM ENDcOVERLAY MIDDLE"⟩,
  ⟨0x13437, "EGYPTIAN HIEROGLYPH BEGIN SEGMENTcEND SEGMENT"⟩,
  ⟨0x14400, "ANATOLIAN HIEROGLYPH A001cA002cA003cA004cA005cA006cA007cA008cA009cA010cA010AcA011"⟩,
  ⟨0x1440C, "ANATOLIAN HIEROGLYPH A012cA013cA014cA015cA016cA017cA018cA019cA020cA021cA022cA023"⟩,
  ⟨0x14418, "ANATOLIAN HIEROGLYPH A024cA025cA026cA026AcA027cA028cA029cA030cA031cA032cA033cA034"⟩,
  ⟨0x14424, "ANATOLIAN HIEROGLYPH A035cA036cA037cA038cA039cA039AcA040cA041cA041AcA042cA043cA044"⟩,
  ⟨0x14430, "ANATOLIAN HIEROGLYPH A045cA045AcA046cA046AcA046BcA047cA048cA049cA050cA051cA052cA053"⟩,
  ⟨0x1443C, "ANATOLIAN HIEROGLYPH A054cA055cA056cA057cA058cA059cA060cA061cA062cA063cA064cA065"⟩,
  ⟨0x14448, "ANATOLIAN HIEROGLYPH A066cA066AcA066BcA066CcA067cA068cA069cA070cA071cA072cA073cA074"⟩,
  ⟨0x14454, "ANATOLIAN HIEROGLYPH A075cA076cA077cA078cA079cA080cA081cA082cA083cA084cA085cA086"⟩,
  ⟨0x14460, "ANATOLIAN HIEROGLYPH A087cA088cA089cA090cA091cA092cA093cA094cA095cA096cA097cA097A"⟩,
  ⟨0x1446C, "ANATOLIAN HIEROGLYPH A098cA098AcA099cA100cA100AcA101cA101AcA102cA102AcA103cA104"⟩,
  ⟨0x14477, "ANATOLIAN HIEROGLYPH A104AcA104BcA104CcA105cA105AcA105BcA106cA107cA107AcA107BcA107C"⟩,
  ⟨0x14482, "ANATOLIAN HIEROGLYPH A108cA109cA110cA110AcA110BcA111cA112cA113cA114cA115cA115AcA116"⟩,
  ⟨0x1448E, "ANATOLIAN HIEROGLYPH A117cA118cA119cA120cA121cA122cA123cA124cA125cA125AcA126cA127"⟩,
  ⟨0x1449A, "ANATOLIAN HIEROGLYPH A128cA129cA130cA131cA132cA133cA134cA135cA135AcA136cA137cA138"⟩,
  ⟨0x144A6, "ANATOLIAN HIEROGLYPH A139cA140cA141cA142cA143cA144cA145cA146cA147cA148cA149cA150"⟩,
  ⟨0x144B2, "ANATOLIAN HIEROGLYPH A151cA152cA153cA154cA155cA156cA157cA158cA159cA160cA161cA162"⟩,
  ⟨0x144BE, "ANATOLIAN HIEROGLYPH A163cA164cA165cA166cA167cA168cA169cA170cA171cA172cA173cA174"⟩,
  ⟨0x144CA, "ANATOLIAN HIEROGLYPH A175cA176cA177cA178cA179cA180cA181cA182cA183cA184cA185cA186"⟩,
  ⟨0x144D6, "ANATOLIAN HIEROGLYPH A187cA188cA189cA190cA191cA192cA193cA194cA195cA196cA197cA198"⟩,
  ⟨0x144E2, "ANATOLIAN HIEROGLYPH A199cA200cA201cA202cA202AcA202BcA203cA204cA205cA206cA207cA207A"⟩,
  ⟨0x144EE, "ANATOLIAN HIEROGLYPH A208cA209cA209AcA210cA211cA212cA213cA214cA215cA215AcA216cA216A"⟩,
  ⟨0x144FA, "ANATOLIAN HIEROGLYPH A217cA218cA219cA220cA221cA222cA223cA224cA225cA226cA227cA227A"⟩,
  ⟨0x14506, "ANATOLIAN HIEROGLYPH A228cA229cA230cA231cA232cA233cA234cA235cA236cA237cA238cA239"⟩,
  ⟨0x14512, "ANATOLIAN HIEROGLYPH A240cA241cA242cA243cA244cA245cA246cA247cA248cA249cA250cA251"⟩,
  ⟨0x1451E, "ANATOLIAN HIEROGLYPH A252cA253cA254cA255cA256cA257cA258cA259cA260cA261cA262cA263"⟩,
  ⟨0x1452A, "ANATOLIAN HIEROGLYPH A264cA265cA266cA267cA267AcA268cA269cA270cA271cA272cA273cA274"⟩,
  ⟨0x14536, "ANATOLIAN HIEROGLYPH A275cA276cA277cA278cA279cA280cA281cA282cA283cA284cA285cA286"⟩,
  ⟨0x14542, "ANATOLIAN HIEROGLYPH A287cA288cA289cA289AcA290cA291cA292cA293cA294cA294AcA295cA296"⟩,
  ⟨0x1454E, "ANATOLIAN HIEROGLYPH A297cA298cA299cA299AcA300cA301cA302cA303cA304cA305cA306cA307"⟩,
  ⟨0x1455A, "ANATOLIAN HIEROGLYPH A308cA309cA309AcA310cA311cA312cA313cA314cA315cA316cA317cA318"⟩,
  ⟨0x14566, "ANATOLIAN HIEROGLYPH A319cA320cA321cA322cA323cA324cA325cA326cA327cA328cA329cA329A"⟩,
  ⟨0x14572, "ANATOLIAN HIEROGLYPH A330cA331cA332AcA332BcA332CcA333cA334cA335cA336cA336AcA336B"⟩,
  ⟨0x1457D, "ANATOLIAN HIEROGLYPH A336CcA337cA338cA339cA340cA341cA342cA343cA344cA345cA346cA347"⟩,
  ⟨0x14589, "ANATOLIAN HIEROGLYPH A348cA349cA350cA351cA352cA353cA354cA355cA356cA357cA358cA359"⟩,
  ⟨0x14595, "ANATOLIAN HIEROGLYPH A359AcA360cA361cA362cA363cA364cA364AcA365cA366cA367cA368cA368A"⟩,
  ⟨0x145A1, "ANATOLIAN HIEROGLYPH A369cA370cA371cA371AcA372cA373cA374cA375cA376cA377cA378cA379"⟩,
  ⟨0x145AD, "ANATOLIAN HIEROGLYPH A380cA381cA381AcA382cA383 RA OR RIcA383AcA384cA385cA386cA386A"⟩,
  ⟨0x145B7, "ANATOLIAN HIEROGLYPH A387cA388cA389cA390cA391cA392cA393 EIGHTcA394cA395cA396cA397"⟩,
  ⟨0x145C2, "ANATOLIAN HIEROGLYPH A398cA399cA400cA401cA402cA403cA404cA405cA406cA407cA408cA409"⟩,
  ⟨0x145CE, "ANATOLIAN HIEROGLYPH A410 BEGIN LOGOGRAM MARKcA410A END LOGOGRAM MARKcA411cA412cA413"⟩,
  ⟨0x145D3, "ANATOLIAN HIEROGLYPH A414cA415cA416cA417cA418cA419cA420cA421cA422cA423cA424cA425"⟩,
  ⟨0x145DF, "ANATOLIAN HIEROGLYPH A426cA427cA428cA429cA430cA431cA432cA433cA434cA435cA436cA437"⟩,
  ⟨0x145EB, "ANATOLIAN HIEROGLYPH A438cA439cA440cA441cA442cA443cA444cA445cA446cA447cA448cA449"⟩,
  ⟨0x145F7, "ANATOLIAN HIEROGLYPH A450cA450AcA451cA452cA453cA454cA455cA456cA457cA457AcA458cA459"⟩,
  ⟨0x14603, "ANATOLIAN HIEROGLYPH A460cA461cA462cA463cA464cA465cA466cA467cA468cA469cA470cA471"⟩,
  ⟨0x1460F, "ANATOLIAN HIEROGLYPH A472cA473cA474cA475cA476cA477cA478cA479cA480cA481cA482cA483"⟩,
  ⟨0x1461B, "ANATOLIAN HIEROGLYPH A484cA485cA486cA487cA488cA489cA490cA491cA492cA493cA494cA495"⟩,
  ⟨0x14627, "ANATOLIAN HIEROGLYPH A496cA497cA501cA502cA503cA504cA505cA506cA507cA508cA509cA510"⟩,
  ⟨0x14633, "ANATOLIAN HIEROGLYPH A511cA512cA513cA514cA515cA516cA517cA518cA519cA520cA521cA522"⟩,
  ⟨0x1463F, "ANATOLIAN HIEROGLYPH A523cA524cA525cA526cA527cA528cA529cA530"⟩,
  ⟨0x16800, "BAMUM LETTER PHASE-A NGKUE MFONeGBIEE FONePON MFON PIPAEMGBIEEgPIPAEMBAeNAA MFON"⟩,
  ⟨0x16805, "BAMUM LETTER PHASE-A SHUENSHUETeTITA MFONeNZA MFONeSHINDA PA NJI"⟩,
  ⟨0x16809, "BAMUM LETTER PHASE-A PON PA NJI PIPAEMGBIEEhPIPAEMBAeMAEMBGBIEEeTU MAEMBAeNGANGU"⟩,
  ⟨0x1680E, "BAMUM LETTER PHASE-A MAEMVEUXeMANSUAEeMVEUAENGAMeSEUNYAMeNTOQPENeKEUKEUTNDAeNKINDI"⟩,
  ⟨0x16815, "BAMUM LETTER PHASE-A SUUeNGKUENZEUMeLAPAQeLET KUTeNTAP MFAAeMAEKEUPePASHAEeGHEUAERAE"⟩,
  ⟨0x1681D, "BAMUM LETTER PHASE-A PAMSHAEeMON NGGEUAETeNZUN MEUTeU YUQ NAEeGHEUAEGHEUAEeNTAP NTAA"⟩,
  ⟨0x16823, "BAMUM LETTER PHASE-A SISAeMGBASAeMEUNJOMNDEUQeMOOMPUQeKAFAePA LEERAEWAeNDA LEERAEWA"⟩,
  ⟨0x1682A, "BAMUM LETTER PHASE-A PETeMAEMKPENeNIKAePUPeTUAEPeLUAEPeSONJAMeTEUTEUWENeMAENYIeKET"⟩,
  ⟨0x16834, "BAMUM LETTER PHASE-A NDAANGGEUAETeKUOQeMOOMEUTeSHUMeLOMMAEeFIRIeROMeKPOQeSOQ"⟩,
  ⟨0x1683D, "BAMUM LETTER PHASE-A MAP PIEETeSHIRAEeNTAPeSHOQ NSHUT YUMeNYIT MONGKEUAEQePAARAE"⟩,
  ⟨0x16843, "BAMUM LETTER PHASE-A NKAARAEeUNKNOWNeNGGENeMAESIeNJAMeMBANYIeNYETeTEUAENeSOTePAAM"⟩,
  ⟨0x1684D, "BAMUM LETTER PHASE-A NSHIEEeMAEMeNYIeKAQeNSHAeVEEeLUeNENeNAQeMBAQdB NSHUET"⟩,
  ⟨0x16858, "BAMUM LETTER PHASE-B TU MAEMGBIEEeSIEEeSET TUeLOM NTEUMeMBA MAELEEeKIEEMeYEURAE"⟩,
  ⟨0x1685F, "BAMUM LETTER PHASE-B MBAARAEeKAMePEESHIeYAFU LEERAEWAeLAM NSHUT NYAMeNTIEE SHEUOQ"⟩,
  ⟨0x16865, "BAMUM LETTER PHASE-B NDU NJAAeGHEUGHEUAEMePITeTU NSIEEeSHET NJAQeSHEUAEQTU"⟩,
  ⟨0x1686B, "BAMUM LETTER PHASE-B MFON TEUAEQeMBIT MBAAKETeNYI NTEUMeKEUPUQeGHEUGHENeKEUYEUX"⟩,
  ⟨0x16871, "BAMUM LETTER PHASE-B LAANAEePARUMeVEUMeNGKINDI MVOPeNGGEU MBUeWUAETeSAKEUAEeTAAM"⟩,
  ⟨0x16879, "BAMUM LETTER PHASE-B MEUQeNGGUOQeNGGUOQ LARGEeMFIYAQeSUEeMBEURIeMONTIEENeNYAEMAE"⟩,
  ⟨0x16881, "BAMUM LETTER PHASE-B PUNGAAMeMEUT NGGEETeFEUXeMBUOQeFEEeKEUAEMeMA NJEUAENAfNJUQAeLET"⟩,
  ⟨0x1688A, "BAMUM LETTER PHASE-B NGGAAMeNSENeMAeKIQeNGOMdC NGKUE MAEMBAeNZAeYUMeWANGKUOQeNGGEN"⟩,
  ⟨0x16894, "BAMUM LETTER PHASE-C NDEUAEREEeNGKAQeGHARAEeMBEEKEETeGBAYIeNYIR MKPARAQ MEUN"⟩,
  ⟨0x1689A, "BAMUM LETTER PHASE-C NTU MBITeMBEUMePIRIEENeNDOMBUeMBAA CABBAGE-TREEeKEUSHEUAEPeGHAP"⟩,
  ⟨0x168A1, "BAMUM LETTER PHASE-C KEUKAQeYU MUOMAEeNZEUMeMBUEeNSEUAENeMBITeYEUQeKPARAQeKAAeSEUX"⟩,
  ⟨0x168AB, "BAMUM LETTER PHASE-C NDIDAeTAASHAEeNJUEQeTITA YUEeSUAETeNGGUAEN NYAMeVEUXeNANSANAQ"⟩,
  ⟨0x168B3, "BAMUM LETTER PHASE-C MA KEUAERIeNTAAeNGGUONeLAPeMBIRIEENeMGBASAQeNTEUNGBAeTEUTEUX"⟩,
  ⟨0x168BB, "BAMUM LETTER PHASE-C NGGUMeFUEeNDEUTeNSAeNSHAQeBUNGeVEUAEPENeMBERAEeRUeNJAEMeLAM"⟩,
  ⟨0x168C6, "BAMUM LETTER PHASE-C TITUAEPeNSUOT NGOMeNJEEEEeKETeNGGUeMAESIeMBUAEMeLUeKUTeNJAM"⟩,
  ⟨0x168D0, "BAMUM LETTER PHASE-C NGOMeWUPeNGGUEETeNSOMeNTENeKUOP NKAARAEeNSUNeNDAMeMA NSIEEeYAA"⟩,
  ⟨0x168DA, "BAMUM LETTER PHASE-C NDAPeSHUEQeSETFONeMBIeMAEMBAeMBANYIeKEUSEUXeMBEUXeKEUM"⟩,
  ⟨0x168E3, "BAMUM LETTER PHASE-C MBAA PICKETeYUWOQeNJEUXeMIEEeMUAEeSHIQeKEN LAWfFATIGUEeNGAQeNAQ"⟩,
  ⟨0x168ED, "BAMUM LETTER PHASE-C LIQePINePENeTETdD MBUOeWAPeNJIeMFONeNJIEEeLIEEeNJEUTeNSHEE"⟩,
  ⟨0x168F9, "BAMUM LETTER PHASE-D NGGAAMAEeNYAMeWUAENeNGKUNeSHEEeNGKAPeKEUAETMEUNeTEUTeSHEUAE"⟩,
  ⟨0x16902, "BAMUM LETTER PHASE-D NJAPeSUEeKETeYAEMMAEeKUOMeSAPeMFEUTeNDEUXeMALEERIeMEUTeSEUAEQ"⟩,
  ⟨0x1690D, "BAMUM LETTER PHASE-D YENeNJEUAEMeKEUOT MBUAEeNGKEURIeTUeGHAAeNGKYEEeFEUFEUAETeNDEE"⟩,
  ⟨0x16916, "BAMUM LETTER PHASE-D MGBOFUMeLEUAEPeNDONeMONIeMGBEUNePUUTeMGBIEEeMFOeLUMeNSIEEPeMBAA"⟩,
  ⟨0x16921, "BAMUM LETTER PHASE-D KWAETeNYETeTEUAENeSOTeYUWOQeKEUMeRAEMeTEEEEeNGKEUAEQeMFEUAE"⟩,
  ⟨0x1692B, "BAMUM LETTER PHASE-D NSIEETeKEUPePIPePEUTAEeNYUEeLETeNGGAAMeMFIEEeNGGWAENeYUOMePAP"⟩,
  ⟨0x16936, "BAMUM LETTER PHASE-D YUOPeNDAMeNTEUMeSUAEeKUNeNGGEUXeNGKIEEeTUOTeMEUNeKUQeNSUMeTEUN"⟩,
  ⟨0x16942, "BAMUM LETTER PHASE-D MAENJETeNGGAPeLEUMeNGGUOMeNSHUTeNJUEQeGHEUAEeKUeREN OLDeTAEeTOQ"⟩,
  ⟨0x1694D, "BAMUM LETTER PHASE-D NYIeRIIeLEEEEeMEEEEeMeSUUeMUeSHIIeSHEUXeKYEEeNUeSHUeNTEEePEEeNI"⟩,
  ⟨0x1695C, "BAMUM LETTER PHASE-D SHOQePUQeMVOPeLOQeREN MUCHeTIeNTUUeMBAA SEVENeSAQeFAAdE NDAP"⟩,
  ⟨0x16967, "BAMUM LETTER PHASE-E TOONeMBEUMeLAPeVOMeLOONePAAeSOMeRAQeNSHUOPeNDUNePUAEeTAMeNGKA"⟩,
  ⟨0x16974, "BAMUM LETTER PHASE-E KPEUXeWUOeSEEeNGGEUAETePAAMeTOOeKUOPeLOMeNSHIEEeNGOPeMAEM"⟩,
  ⟨0x1697F, "BAMUM LETTER PHASE-E NGKEUXeNGOQeNSHUEeRIMGBAeNJEUXePEEMeSAAeNGGURAEeMGBAeGHEUX"⟩,
  ⟨0x16989, "BAMUM LETTER PHASE-E NGKEUAEMeNJAEMLIeMAPeLOOTeNGGEEEEeNDIQeTAEN NTEUMeSETePUM"⟩,
  ⟨0x16992, "BAMUM LETTER PHASE-E NDAA SOFTNESSeNGGUAESHAE NYAMeYIEEeGHEUNeTUAEeYEUAEePOeTUMAE"⟩,
  ⟨0x1699A, "BAMUM LETTER PHASE-E KEUAEeSUAENeTEUAEQeVEUAEeWEUXeLAAMePUeTAAQeGHAAMAEeNGEUREUT"⟩,
  ⟨0x169A4, "BAMUM LETTER PHASE-E SHEUAEQeMGBENeMBEEeNZAQeNKOMeGBETeTUMeKUETeYAPeNYI CLEAVEReYIT"⟩,
  ⟨0x169AF, "BAMUM LETTER PHASE-E MFEUQeNDIAQePIEEQeYUEQeLEUAEMeFUEeGBEUXeNGKUPeKETeMAEeNGKAAMI"⟩,
  ⟨0x169BA, "BAMUM LETTER PHASE-E GHETeFAeNTUMePEUTeYEUMeNGGEUAEeNYI BETWEENeNZUQePOONeMIEEeFUET"⟩,
  ⟨0x169C5, "BAMUM LETTER PHASE-E NAEeMUAEeGHEUAEeFU IeMVIePUAQeNGKUMeKUTePIETeNTAPeYEUAETeNGGUP"⟩,
  ⟨0x169D1, "BAMUM LETTER PHASE-E PA PEOPLEeFU CALLeFOMeNJEEeAeTOQeOeIeLAQePA PLURALeTAAeTAQ"⟩,
  ⟨0x169DD, "BAMUM LETTER PHASE-E NDAA MY HOUSEeSHIQeYEUXeNGUAEeYUAENeYOQ SWIMMINGfCOVEReYUQeYUN"⟩,
  ⟨0x169E6, "BAMUM LETTER PHASE-E KEUXePEUXeNJEE EPOCHePUEeWUEeFEEeVEEeLUeMIeREUXeRAEeNGUAETeNGA"⟩,
  ⟨0x169F3, "BAMUM LETTER PHASE-E SHOeSHOQeFU REMEDYeNAePIeLOQeKOeMENeMAeMAQeTEUeKIeMONeTENeFAQ"⟩,
  ⟨0x16A02, "BAMUM LETTER PHASE-E GHOMdF KAeUeKUeEEeREEeTAEeNYIeLAeRIIeRIEEeMEEEEeTAAeNDAAeNJAEM"⟩,
  ⟨0x16A11, "BAMUM LETTER PHASE-F MeSUUeSHIIeSIeSEUXeKYEEeKETeNUAEeNUeNJUAEeYOQeSHUeYAeNSHAePEUX"⟩,
  ⟨0x16A20, "BAMUM LETTER PHASE-F NTEEeWUEePEEeRUeNIeREUXeKENeNGKWAENeNGGAeSHOePUAEeFOMeWAeLIeLOQ"⟩,
  ⟨0x16A2F, "BAMUM LETTER PHASE-F KOeMBENeRENeMAeMOeMBAAeTETeKPAeSAMBAeVUEQ"⟩,
  ⟨0x16A40, "MRO LETTER TAcNGIcYOcMIMcBAcDAcAcPHIcKHAIcHAOcDAIcCHUcKEAAEcOLcMAEMcNINcPAcOOcOcRO"⟩,
  ⟨0x16A54, "MRO LETTER SHIcTHEAcEAcWAcEcKOcLANcLAcHAIcRIcTEK"⟩,
  ⟨0x16A60, "MRO DIGIT ZEROcONEcTWOcTHREEcFOURcFIVEcSIXcSEVENcEIGHTcNINE"⟩,
  ⟨0x16A6E, "MRO DANDAbDOUBLE DANDAaTANGSA LETTER OZcOCcOQcOXcAZcACcAQcAXcVZcVCcVQcVXcEZcECcEQcEX"⟩,
  ⟨0x16A80, "TANGSA LETTER IZcICcIQcIXcUZcUCcUQcUXcAWZcAWCcAWQcAWXcUIZcUICcUIQcUIXcFINAL NG"⟩,
  ⟨0x16A91, "TANGSA LETTER LONG UEXcSHORT UEZdAWXcUECcUEZcUEQcUEXcUIUZcUIUCcUIUQcUIUXcMZcMCcMQcMX"⟩,
  ⟨0x16AA0, "TANGSA LETTER KAcKHAcGAcNGAcSAcYAcWAcPAcNYAcPHAcBAcMAcNAcHAcLAcHTAcTAcDAcRAcNHAcSHA"⟩,
  ⟨0x16AB5, "TANGSA LETTER CAcTSAcGHAcHTTAcTHAcXAcFAcDHAcCHAcZA"⟩,
  ⟨0x16AC0, "TANGSA DIGIT ZEROcONEcTWOcTHREEcFOURcFIVEcSIXcSEVENcEIGHTcNINE"⟩,
  ⟨0x16AD0, "BASSA VAH LETTER ENNIdKAdSEdFAdMBEdYIEdGAHdDHIIdKPAHdJOdHWAHdWAdZOdGBUdDOdCEdUWUdTO"⟩,
  ⟨0x16AE2, "BASSA VAH LETTER BAdVUdYEINdPAdWADDAdAdOdOOdUdEEdEdI"⟩,
  ⟨0x16AF0, "BASSA VAH COMBINING HIGH TONEdLOW TONEdMID TONEdLOW-MID TONEdHIGH-LOW TONEcFULL STOP"⟩,
  ⟨0x16B00, "PAHAWH HMONG VOWEL KEEBdKEEVdKIBdKIVdKAUBdKAUVdKUBdKUVdKEBdKEVdKAIBdKAIVdKOOBdKOOV"⟩,
  ⟨0x16B0E, "PAHAWH HMONG VOWEL KAWBdKAWVdKUABdKUAVdKOBdKOVdKIABdKIAVdKABdKAVdKWBdKWVdKAABdKAAV"⟩,
  ⟨0x16B1C, "PAHAWH HMONG CONSONANT VAUdNTSAUdLAUdHAUdNLAUdRAUdNKAUdQHAUdYAUdHLAUdMAUdCHAUdNCHAU"⟩,
  ⟨0x16B29, "PAHAWH HMONG CONSONANT HNAUdPLHAUdNTHAUdNAUdAUdXAUdCAUcMARK CIM TUBeSOeKESeKHAVeSUAM"⟩,
  ⟨0x16B35, "PAHAWH HMONG MARK CIM HOMeTAUMcSIGN VOS THOMeTSHAB CEEBdCIM CHEEMdVOS THIABeFEEM"⟩,
  ⟨0x16B3C, "PAHAWH HMONG SIGN XYEEM NTXIVeRHOeTOVeFAIBdVOS SEEVdMEEJ SUABdVOS NRUAdIB YAMdXAUS"⟩,
  ⟨0x16B45, "PAHAWH HMONG SIGN CIM TSOV ROG"⟩,
  ⟨0x16B50, "PAHAWH HMONG DIGIT ZEROdONEdTWOdTHREEdFOURdFIVEdSIXdSEVENdEIGHTdNINE"⟩,
  ⟨0x16B5B, "PAHAWH HMONG NUMBER TENSdHUNDREDSdTEN THOUSANDSdMILLIONSdHUNDRED MILLIONS"⟩,
  ⟨0x16B60, "PAHAWH HMONG NUMBER TEN BILLIONSdTRILLIONS"⟩,
  ⟨0x16B63, "PAHAWH HMONG SIGN VOS LUBdXYOOdHLIdTHIRD-STAGE HLIdZWJ THAJdHNUBdNQIGdXIABdNTUJdAV"⟩,
  ⟨0x16B6D, "PAHAWH HMONG SIGN TXHEEJ CEEVdMEEJ TSEEBdTAUdLOSdMUSdCIM HAIS LUS NTOG NTOG"⟩,
  ⟨0x16B73, "PAHAWH HMONG SIGN CIM CUAM TSHOOJeTXWVeTXWV CHWVePUB DAWBeNRES TOS"⟩,
  ⟨0x16B7D, "PAHAWH HMONG CLAN SIGN TSHEEJeYEEGeLISeLAUJeXYOOJeKOOeHAWJeMUASeTHOJeTSABePHABeKHAB"⟩,
  ⟨0x16B89, "PAHAWH HMONG CLAN SIGN HAMeVAJeFAJeYAJeTSWBeKWMeVWJ"⟩,
  ⟨0x16E40, "MEDEFAIDRIN CAPITAL LETTER MdSdVdWdATIUdZdKPdPdTdGdFdIdKdAdJdEdBdCdUdYUdLdQdHPdNYdX"⟩,
  ⟨0x16E59, "MEDEFAIDRIN CAPITAL LETTER DdOEdNdRdOdAIdYbSMALL LETTER MdSdVdWdATIUdZdKPdPdTdGdFdI"⟩,
  ⟨0x16E6C, "MEDEFAIDRIN SMALL LETTER KdAdJdEdBdCdUdYUdLdQdHPdNYdXdDdOEdNdRdOdAIdYbDIGIT ZEROcONE"⟩,
  ⟨0x16E82, "MEDEFAIDRIN DIGIT TWOcTHREEcFOURcFIVEcSIXcSEVENcEIGHTcNINEbNUMBER TENcELEVENcTWELVE"⟩,
  ⟨0x16E8D, "MEDEFAIDRIN NUMBER THIRTEENcFOURTEENcFIFTEENcSIXTEENcSEVENTEENcEIGHTEENcNINETEEN"⟩,
  ⟨0x16E94, "MEDEFAIDRIN DIGIT ONE ALTERNATE FORMcTWO ALTERNATE FORMcTHREE ALTERNATE FORMbCOMMA"⟩,
  ⟨0x16E98, "MEDEFAIDRIN FULL STOPbSYMBOL AIVAbEXCLAMATION OH"⟩,
  ⟨0x16F00, "MIAO LETTER PAcBAcYI PAcPLAcMAcMHAcARCHAIC MAcFAcVAcVFAcTAcDAcYI TTAdTAcTTAcDDAcNA"⟩,
  ⟨0x16F11, "MIAO LETTER NHAcYI NNAcARCHAIC NAcNNAcNNHAcLAcLYAcLHAcLHYAcTLHAcDLHAcTLHYAcDLHYAcKA"⟩,
  ⟨0x16F1F, "MIAO LETTER GAcYI KAcQAcQGAcNGAcNGHAcARCHAIC NGAcHAcXAcGHAcGHHAcTSSAcDZZAcNYAcNYHA"⟩,
  ⟨0x16F2E, "MIAO LETTER TSHAcDZHAcYI TSHAdDZHAcREFORMED TSHAcSHAcSSAcZHAcZSHAcTSAcDZAcYI TSAcSA"⟩,
  ⟨0x16F3B, "MIAO LETTER ZAcZSAcZZAcZZSAcARCHAIC ZZAcZZYAcZZSYAcWAcAHcHHAcBRIcSYIcDZYIcTEcTSEcRTE"⟩,
  ⟨0x16F4F, "MIAO SIGN CONSONANT MODIFIER BARbLETTER NASALIZATIONbSIGN ASPIRATION"⟩,
  ⟨0x16F52, "MIAO SIGN REFORMED VOICINGdASPIRATIONbVOWEL SIGN AdAAdAHHdANdANGdOdOOdWOdWdEdENdENG"⟩,
  ⟨0x16F60, "MIAO VOWEL SIGN OEYdIdIAdIANdIANGdIOdIEdIIdIUdINGdUdUAdUANdUANGdUUdUEIdUNGdYdYIdAE"⟩,
  ⟨0x16F74, "MIAO VOWEL SIGN AEEdERRdROUNDED ERRdERdROUNDED ERdAIdEIdAUdOUdNdNGdUOGdYUIdOGdOERdVW"⟩,
  ⟨0x16F84, "MIAO VOWEL SIGN IGdEAdIONGdUI"⟩,
  ⟨0x16F8F, "MIAO TONE RIGHTcTOP RIGHTcABOVEcBELOWbLETTER TONE-2d3d4d5d6d7d8cREFORMED TONE-1e2e4"⟩,
  ⟨0x16F9D, "MIAO LETTER REFORMED TONE-5e6e8"⟩,
  ⟨0x16FE0, "TANGUT ITERATION MARKaNUSHU ITERATION MARKaOLD CHINESE HOOK MARKcITERATION MARK"⟩,
  ⟨0x16FE4, "KHITAN SMALL SCRIPT FILLER"⟩,
  ⟨0x16FF0, "VIETNAMESE ALTERNATE READING MARK CAeNHAY"⟩,
  ⟨0x18800, "TANGUT COMPONENT-001c002c003c004c005c006c007c008c009c010c011c012c013c014c015c016c017"⟩,
  ⟨0x18811, "TANGUT COMPONENT-018c019c020c021c022c023c024c025c026c027c028c029c030c031c032c033c034"⟩,
  ⟨0x18822, "TANGUT COMPONENT-035c036c037c038c039c040c041c042c043c044c045c046c047c048c049c050c051"⟩,
  ⟨0x18833, "TANGUT COMPONENT-052c053c054c055c056c057c058c059c060c061c062c063c064c065c066c067c068"⟩,
  ⟨0x18844, "TANGUT COMPONENT-069c070c071c072c073c074c075c076c077c078c079c080c081c082c083c084c085"⟩,
  ⟨0x18855, "TANGUT COMPONENT-086c087c088c089c090c091c092c093c094c095c096c097c098c099c100c101c102"⟩,
  ⟨0x18866, "TANGUT COMPONENT-103c104c105c106c107c108c109c110c111c112c113c114c115c116c117c118c119"⟩,
  ⟨0x18877, "TANGUT COMPONENT-120c121c122c123c124c125c126c127c128c129c130c131c132c133c134c135c136"⟩,
  ⟨0x18888, "TANGUT COMPONENT-137c138c139c140c141c142c143c144c145c146c147c148c149c150c151c152c153"⟩,
  ⟨0x18899, "TANGUT COMPONENT-154c155c156c157c158c159c160c161c162c163c164c165c166c167c168c169c170"⟩,
  ⟨0x188AA, "TANGUT COMPONENT-171c172c173c174c175c176c177c178c179c180c181c182c183c184c185c186c187"⟩,
  ⟨0x188BB, "TANGUT COMPONENT-188c189c190c191c192c193c194c195c196c197c198c199c200c201c202c203c204"⟩,
  ⟨0x188CC, "TANGUT COMPONENT-205c206c207c208c209c210c211c212c213c214c215c216c217c218c219c220c221"⟩,
  ⟨0x188DD, "TANGUT COMPONENT-222c223c224c225c226c227c228c229c230c231c232c233c234c235c236c237c238"⟩,
  ⟨0x188EE, "TANGUT COMPONENT-239c240c241c242c243c244c245c246c247c248c249c250c251c252c253c254c255"⟩,
  ⟨0x188FF, "TANGUT COMPONENT-256c257c258c259c260c261c262c263c264c265c266c267c268c269c270c271c272"⟩,
  ⟨0x18910, "TANGUT COMPONENT-273c274c275c276c277c278c279c280c281c282c283c284c285c286c287c288c289"⟩,
  ⟨0x18921, "TANGUT COMPONENT-290c291c292c293c294c295c296c297c298c299c300c301c302c303c304c305c306"⟩,
  ⟨0x18932, "TANGUT COMPONENT-307c308c309c310c311c312c313c314c315c316c317c318c319c320c321c322c323"⟩,
  ⟨0x18943, "TANGUT COMPONENT-324c325c326c327c328c329c330c331c332c333c334c335c336c337c338c339c340"⟩,
  ⟨0x18954, "TANGUT COMPONENT-341c342c343c344c345c346c347c348c349c350c351c352c353c354c355c356c357"⟩,
  ⟨0x18965, "TANGUT COMPONENT-358c359c360c361c362c363c364c365c366c367c368c369c370c371c372c373c374"⟩,
  ⟨0x18976, "TANGUT COMPONENT-375c376c377c378c379c380c381c382c383c384c385c386c387c388c389c390c391"⟩,
  ⟨0x18987, "TANGUT COMPONENT-392c393c394c395c396c397c398c399c400c401c402c403c404c405c406c407c408"⟩,
  ⟨0x18998, "TANGUT COMPONENT-409c410c411c412c413c414c415c416c417c418c419c420c421c422c423c424c425"⟩,
  ⟨0x189A9, "TANGUT COMPONENT-426c427c428c429c430c431c432c433c434c435c436c437c438c439c440c441c442"⟩,
  ⟨0x189BA, "TANGUT COMPONENT-443c444c445c446c447c448c449c450c451c452c453c454c455c456c457c458c459"⟩,
  ⟨0x189CB, "TANGUT COMPONENT-460c461c462c463c464c465c466c467c468c469c470c471c472c473c474c475c476"⟩,
  ⟨0x189DC, "TANGUT COMPONENT-477c478c479c480c481c482c483c484c485c486c487c488c489c490c491c492c493"⟩,
  ⟨0x189ED, "TANGUT COMPONENT-494c495c496c497c498c499c500c501c502c503c504c505c506c507c508c509c510"⟩,
  ⟨0x189FE, "TANGUT COMPONENT-511c512c513c514c515c516c517c518c519c520c521c522c523c524c525c526c527"⟩,
  ⟨0x18A0F, "TANGUT COMPONENT-528c529c530c531c532c533c534c535c536c537c538c539c540c541c542c543c544"⟩,
  ⟨0x18A20, "TANGUT COMPONENT-545c546c547c548c549c550c551c552c553c554c555c556c557c558c559c560c561"⟩,
  ⟨0x18A31, "TANGUT COMPONENT-562c563c564c565c566c567c568c569c570c571c572c573c574c575c576c577c578"⟩,
  ⟨0x18A42, "TANGUT COMPONENT-579c580c581c582c583c584c585c586c587c588c589c590c591c592c593c594c595"⟩,
  ⟨0x18A53, "TANGUT COMPONENT-596c597c598c599c600c601c602c603c604c605c606c607c608c609c610c611c612"⟩,
  ⟨0x18A64, "TANGUT COMPONENT-613c614c615c616c617c618c619c620c621c622c623c624c625c626c627c628c629"⟩,
  ⟨0x18A75, "TANGUT COMPONENT-630c631c632c633c634c635c636c637c638c639c640c641c642c643c644c645c646"⟩,
  ⟨0x18A86, "TANGUT COMPONENT-647c648c649c650c651c652c653c654c655c656c657c658c659c660c661c662c663"⟩,
  ⟨0x18A97, "TANGUT COMPONENT-664c665c666c667c668c669c670c671c672c673c674c675c676c677c678c679c680"⟩,
  ⟨0x18AA8, "TANGUT COMPONENT-681c682c683c684c685c686c687c688c689c690c691c692c693c694c695c696c697"⟩,
  ⟨0x18AB9, "TANGUT COMPONENT-698c699c700c701c702c703c704c705c706c707c708c709c710c711c712c713c714"⟩,
  ⟨0x18ACA, "TANGUT COMPONENT-715c716c717c718c719c720c721c722c723c724c725c726c727c728c729c730c731"⟩,
  ⟨0x18ADB, "TANGUT COMPONENT-732c733c734c735c736c737c738c739c740c741c742c743c744c745c746c747c748"⟩,
  ⟨0x18AEC, "TANGUT COMPONENT-749c750c751c752c753c754c755c756c757c758c759c760c761c762c763c764c765"⟩,
  ⟨0x18AFD, "TANGUT COMPONENT-766c767c768"⟩,
  ⟨0x1AFF0, "KATAKANA LETTER MINNAN TONE-2e3e4e5"⟩,
  ⟨0x1AFF5, "KATAKANA LETTER MINNAN TONE-7e8dNASALIZED TONE-1f2f3f4f5"⟩,
  ⟨0x1AFFD, "KATAKANA LETTER MINNAN NASALIZED TONE-7f8"⟩,
  ⟨0x1B000, "KATAKANA LETTER ARCHAIC EaHIRAGANA LETTER ARCHAIC YEaHENTAIGANA LETTER A-1d2d3dWO"⟩,
  ⟨0x1B006, "HENTAIGANA LETTER I-1d2d3d4cU-1d2d3d4d5cE-2d3d4d5d6cO-1d2d3cKA-1d2d3d4d5d6d7d8d9d10"⟩,
  ⟨0x1B021, "HENTAIGANA LETTER KA-11dKEcKI-1d2d3d4d5d6d7d8cKU-1d2d3d4d5d6d7cKE-1d2d3d4d5d6cKO-1d2"⟩,
  ⟨0x1B03A, "HENTAIGANA LETTER KO-3dKIcSA-1d2d3d4d5d6d7d8cSI-1d2d3d4d5d6cSU-1d2d3d4d5d6d7d8cSE-1"⟩,
  ⟨0x1B053, "HENTAIGANA LETTER SE-2d3d4d5cSO-1d2d3d4d5d6d7cTA-1d2d3d4cTI-1d2d3d4d5d6d7cTU-1d2d3d4"⟩,
  ⟨0x1B06D, "HENTAIGANA LETTER TU-TOcTE-1d2d3d4d5d6d7d8d9cTO-1d2d3d4d5d6dRAcNA-1d2d3d4d5d6d7d8d9"⟩,
  ⟨0x1B087, "HENTAIGANA LETTER NI-1d2d3d4d5d6d7dTEcNU-1d2d3cNE-1d2d3d4d5d6dKOcNO-1d2d3d4d5cHA-1d2"⟩,
  ⟨0x1B0A0, "HENTAIGANA LETTER HA-3d4d5d6d7d8d9d10d11cHI-1d2d3d4d5d6d7cHU-1d2d3cHE-1d2d3d4d5d6d7"⟩,
  ⟨0x1B0BA, "HENTAIGANA LETTER HO-1d2d3d4d5d6d7d8cMA-1d2d3d4d5d6d7cMI-1d2d3d4d5d6d7cMU-1d2d3d4"⟩,
  ⟨0x1B0D4, "HENTAIGANA LETTER ME-1d2dMAcMO-1d2d3d4d5d6cYA-1d2d3d4d5dYOcYU-1d2d3d4cYO-1d2d3d4d5d6"⟩,
  ⟨0x1B0ED, "HENTAIGANA LETTER RA-1d2d3d4cRI-1d2d3d4d5d6d7cRU-1d2d3d4d5d6cRE-1d2d3d4cRO-1d2d3d4d5"⟩,
  ⟨0x1B107, "HENTAIGANA LETTER RO-6cWA-1d2d3d4d5cWI-1d2d3d4d5cWE-1d2d3d4cWO-1d2d3d4d5d6d7"⟩,
  ⟨0x1B11D, "HENTAIGANA LETTER N-MU-MO-1f2aHIRAGANA LETTER ARCHAIC WUaKATAKANA LETTER ARCHAIC YI"⟩,
  ⟨0x1B121, "KATAKANA LETTER ARCHAIC YEdWU"⟩,
  ⟨0x1B150, "HIRAGANA LETTER SMALL WIdWEdWO"⟩,
  ⟨0x1B164, "KATAKANA LETTER SMALL WIdWEdWOdN"⟩,
  ⟨0x1BC00, "DUPLOYAN LETTER HcXcPcTcFcKcLcBcDcVcGcRcP NcD ScF NcK McR ScTHcSLOAN DHcDHcKK"⟩,
  ⟨0x1BC15, "DUPLOYAN LETTER SLOAN JcHLcLHcRHcMcNcJcScM NcN McJ McS JcM WITH DOTcN WITH DOT"⟩,
  ⟨0x1BC23, "DUPLOYAN LETTER J WITH DOTeDOTS INSIDE AND ABOVEcS WITH DOTeDOT BELOWcM ScN ScJ S"⟩,
  ⟨0x1BC2A, "DUPLOYAN LETTER S ScM N ScN M ScJ M ScS J ScJ S WITH DOTdNdN ScS TdT RdPdP RcT SdR S"⟩,
  ⟨0x1BC38, "DUPLOYAN LETTER WcWHcW RcS NdMcK R ScG R ScS KdK RcAcSLOAN OWcOAcOcAOUcIcEcIE"⟩,
  ⟨0x1BC49, "DUPLOYAN LETTER SHORT IcUIcEEcSLOAN EHcROMANIAN IcSLOAN EEcLONG IcYEcUcEUcXWcU N"⟩,
  ⟨0x1BC55, "DUPLOYAN LETTER LONG UcROMANIAN UcUHcSLOAN UcOOHcOWcOUcWAcWOcWIcWEIcWOWcNASAL UdOdI"⟩,
  ⟨0x1BC64, "DUPLOYAN LETTER NASAL AcPERNIN ANdAMcSLOAN ENdANdONcVOCALIC M"⟩,
  ⟨0x1BC70, "DUPLOYAN AFFIX LEFT HORIZONTAL SECANTcMID HORIZONTAL SECANTcRIGHT HORIZONTAL SECANT"⟩,
  ⟨0x1BC73, "DUPLOYAN AFFIX LOW VERTICAL SECANTcMID VERTICAL SECANTcHIGH VERTICAL SECANT"⟩,
  ⟨0x1BC76, "DUPLOYAN AFFIX ATTACHED SECANTdLEFT-TO-RIGHT SECANTdTANGENTdTAILdE HOOKdI HOOK"⟩,
  ⟨0x1BC7C, "DUPLOYAN AFFIX ATTACHED TANGENT HOOK"⟩,
  ⟨0x1BC80, "DUPLOYAN AFFIX HIGH ACUTEdTIGHT ACUTEdGRAVEdLONG GRAVEdDOTdCIRCLEdLINEdWAVEdVERTICAL"⟩,
  ⟨0x1BC90, "DUPLOYAN AFFIX LOW ACUTEdTIGHT ACUTEdGRAVEdLONG GRAVEdDOTdCIRCLEdLINEdWAVEdVERTICAL"⟩,
  ⟨0x1BC99, "DUPLOYAN AFFIX LOW ARROW"⟩,
  ⟨0x1BC9C, "DUPLOYAN SIGN O WITH CROSSbTHICK LETTER SELECTORbDOUBLE MARK"⟩,
  ⟨0x1BC9F, "DUPLOYAN PUNCTUATION CHINOOK FULL STOPaSHORTHAND FORMAT LETTER OVERLAP"⟩,
  ⟨0x1BCA1, "SHORTHAND FORMAT CONTINUING OVERLAPcDOWN STEPcUP STEP"⟩,
  ⟨0x1CF00, "ZNAMENNY COMBINING MARK GORAZDO NIZKO S KRYZHEM ON LEFTdNIZKO S KRYZHEM ON LEFT"⟩,
  ⟨0x1CF02, "ZNAMENNY COMBINING MARK TSATA ON LEFTdGORAZDO NIZKO ON LEFTdNIZKO ON LEFT"⟩,
  ⟨0x1CF05, "ZNAMENNY COMBINING MARK SREDNE ON LEFTdMALO POVYSHE ON LEFTdPOVYSHE ON LEFT"⟩,
  ⟨0x1CF08, "ZNAMENNY COMBINING MARK VYSOKO ON LEFTdMALO POVYSHE S KHOKHLOM ON LEFT"⟩,
  ⟨0x1CF0A, "ZNAMENNY COMBINING MARK POVYSHE S KHOKHLOM ON LEFTdVYSOKO S KHOKHLOM ON LEFT"⟩,
  ⟨0x1CF0C, "ZNAMENNY COMBINING MARK GORAZDO NIZKO S KRYZHEM ON RIGHTdNIZKO S KRYZHEM ON RIGHT"⟩,
  ⟨0x1CF0E, "ZNAMENNY COMBINING MARK TSATA ON RIGHTdGORAZDO NIZKO ON RIGHTdNIZKO ON RIGHT"⟩,
  ⟨0x1CF11, "ZNAMENNY COMBINING MARK SREDNE ON RIGHTdMALO POVYSHE ON RIGHTdPOVYSHE ON RIGHT"⟩,
  ⟨0x1CF14, "ZNAMENNY COMBINING MARK VYSOKO ON RIGHTdMALO POVYSHE S KHOKHLOM ON RIGHT"⟩,
  ⟨0x1CF16, "ZNAMENNY COMBINING MARK POVYSHE S KHOKHLOM ON RIGHTdVYSOKO S KHOKHLOM ON RIGHT"⟩,
  ⟨0x1CF18, "ZNAMENNY COMBINING MARK TSATA S KRYZHEMdMALO POVYSHE S KRYZHEMdSTRANNO MALO POVYSHE"⟩,
  ⟨0x1CF1B, "ZNAMENNY COMBINING MARK POVYSHE S KRYZHEMeSTRANNOdVYSOKO S KRYZHEM"⟩,
  ⟨0x1CF1E, "ZNAMENNY COMBINING MARK MALO POVYSHE STRANNOdGORAZDO VYSOKOdZELOdONdRAVNOdTIKHAYA"⟩,
  ⟨0x1CF24, "ZNAMENNY COMBINING MARK BORZAYAdUDARKAdPODVERTKAdLOMKAdKUPNAYAdKACHKAdZEVOKdSKOBA"⟩,
  ⟨0x1CF2C, "ZNAMENNY COMBINING MARK RAZSEKAdKRYZH ON LEFT"⟩,
  ⟨0x1CF30, "ZNAMENNY COMBINING TONAL RANGE MARK MRACHNOfSVETLOfTRESVETLOcMARK ZADERZHKA"⟩,
  ⟨0x1CF34, "ZNAMENNY COMBINING MARK DEMESTVENNY ZADERZHKAdOTSECHKAdPODCHASHIE"⟩,
  ⟨0x1CF37, "ZNAMENNY COMBINING MARK PODCHASHIE WITH VERTICAL STROKEdCHASHKAdCHASHKA POLNAYA"⟩,
  ⟨0x1CF3A, "ZNAMENNY COMBINING MARK OBLACHKOdSOROCHYA NOZHKAdTOCHKAdDVOETOCHIE"⟩,
  ⟨0x1CF3E, "ZNAMENNY COMBINING ATTACHING VERTICAL OMETcMARK CURVED OMETdKRYZH"⟩,
  ⟨0x1CF41, "ZNAMENNY COMBINING LOWER TONAL RANGE INDICATORbPRIZNAK MODIFIER LEVEL-2e3"⟩,
  ⟨0x1CF44, "ZNAMENNY PRIZNAK MODIFIER DIRECTION FLIPdKRYZHdROG"⟩,
  ⟨0x1CF50, "ZNAMENNY NEUME KRYUKcKRYUK TIKHYcPARAKLITcDVA V CHELNUcKLYUCHcZANOZHEKcSTOPITSA"⟩,
  ⟨0x1CF57, "ZNAMENNY NEUME STOPITSA S OCHKOMcPEREVODKAcPEREVODKA NEPOSTOYANNAYA"⟩,
  ⟨0x1CF5A, "ZNAMENNY NEUME STOPITSA WITH SOROCHYA NOZHKAcCHELYUSTKAcPALKAcZAPYATAYA"⟩,
  ⟨0x1CF5E, "ZNAMENNY NEUME GOLUBCHIK BORZYdTIKHYdMRACHNYdSVETLYdTRESVETLYcVRAKHIYA PROSTAYA"⟩,
  ⟨0x1CF64, "ZNAMENNY NEUME VRAKHIYA MRACHNAYAdSVETLAYAdTRESVETLAYAdKLYUCHEVAYA PROSTAYA"⟩,
  ⟨0x1CF68, "ZNAMENNY NEUME VRAKHIYA KLYUCHEVAYA MRACHNAYAeSVETLAYAeTRESVETLAYAcDOUBLE ZAPYATAYA"⟩,
  ⟨0x1CF6C, "ZNAMENNY NEUME REVERSED CHELYUSTKAcDERBITSAcKHAMILOcCHASHKAcPODCHASHIE"⟩,
  ⟨0x1CF71, "ZNAMENNY NEUME SKAMEYTSA MRACHNAYAdSVETLAYAdTRESVETLAYAdTIKHAYAcDEMESTVENNY KLYUCH"⟩,
  ⟨0x1CF76, "ZNAMENNY NEUME SKAMEYTSA KLYUCHEVAYA SVETLAYAdKLYUCHENEPOSTOYANNAYA"⟩,
  ⟨0x1CF78, "ZNAMENNY NEUME SKAMEYTSA KLYUCHEVAYA TIKHAYAdDVOECHELNAYA PROSTAYAeSVETLAYA"⟩,
  ⟨0x1CF7B, "ZNAMENNY NEUME SKAMEYTSA DVOECHELNAYA NEPOSTOYANNAYAeKLYUCHEVAYAcSLOZHITIE"⟩,
  ⟨0x1CF7E, "ZNAMENNY NEUME SLOZHITIE S ZAPYATOYdZAKRYTOEdS KRYZHEMcKRYZHcROGcFITAcKOBYLAcZMEYTSA"⟩,
  ⟨0x1CF86, "ZNAMENNY NEUME STATYAcSTATYA S ZAPYATOYeKRYZHEMeZAPYATOY I KRYZHEM"⟩,
  ⟨0x1CF8A, "ZNAMENNY NEUME STATYA S KRYZHEM I ZAPYATOYdZAKRYTAYAdZAKRYTAYA S ZAPYATOYdS ROGOM"⟩,
  ⟨0x1CF8E, "ZNAMENNY NEUME STATYA S DVUMYA ZAPYATYMIeZAPYATOY I PODCHASHIEMcPOLKULIZMY"⟩,
  ⟨0x1CF91, "ZNAMENNY NEUME STATYA NEPOSTOYANNAYAcSTRELA PROSTAYAdMRACHNOTIKHAYAdKRYZHEVAYA"⟩,
  ⟨0x1CF95, "ZNAMENNY NEUME STRELA POLUPOVODNAYAdPOVODNAYAdNEPOSTOYANNAYAdKLYUCHEPOVODNAYA"⟩,
  ⟨0x1CF99, "ZNAMENNY NEUME STRELA KLYUCHENEPOSTOYANNAYAdTIKHAYA PUTNAYAdDVOECHELNAYA"⟩,
  ⟨0x1CF9C, "ZNAMENNY NEUME STRELA DVOECHELNOKRYZHEVAYAdDVOECHELNOPOVODNAYA"⟩,
  ⟨0x1CF9E, "ZNAMENNY NEUME STRELA DVOECHELNAYA KLYUCHEVAYAdDVOECHELNOPOVODNAYA KLYUCHEVAYA"⟩,
  ⟨0x1CFA0, "ZNAMENNY NEUME STRELA GROMNAYA WITH SINGLE ZAPYATAYA"⟩,
  ⟨0x1CFA1, "ZNAMENNY NEUME STRELA GROMOPOVODNAYA WITH SINGLE ZAPYATAYAdGROMNAYAdGROMOPOVODNAYA"⟩,
  ⟨0x1CFA4, "ZNAMENNY NEUME STRELA GROMOPOVODNAYA WITH DOUBLE ZAPYATAYAdGROMOKRYZHEVAYA"⟩,
  ⟨0x1CFA6, "ZNAMENNY NEUME STRELA GROMOKRYZHEVAYA POVODNAYAcMECHIKcMECHIK POVODNYdKLYUCHEVOY"⟩,
  ⟨0x1CFAA, "ZNAMENNY NEUME MECHIK KLYUCHEPOVODNYdKLYUCHENEPOSTOYANNYcSTRELA TRYASOGLASNAYA"⟩,
  ⟨0x1CFAD, "ZNAMENNY NEUME STRELA TRYASOPOVODNAYAdTRYASOSTRELNAYAcOSOKAcOSOKA SVETLAYA"⟩,
  ⟨0x1CFB1, "ZNAMENNY NEUME OSOKA TRESVETLAYAdKRYUKOVAYA SVETLAYAdKLYUCHEVAYA SVETLAYA"⟩,
  ⟨0x1CFB4, "ZNAMENNY NEUME OSOKA KLYUCHEVAYA NEPOSTOYANNAYAcSTRELA KRYUKOVAYA"⟩,
  ⟨0x1CFB6, "ZNAMENNY NEUME STRELA KRYUKOVAYA POVODNAYAeGROMNAYA WITH SINGLE ZAPYATAYA"⟩,
  ⟨0x1CFB8, "ZNAMENNY NEUME STRELA KRYUKOVAYA GROMOPOVODNAYA WITH SINGLE ZAPYATAYAeGROMNAYA"⟩,
  ⟨0x1CFBA, "ZNAMENNY NEUME STRELA KRYUKOVAYA GROMOPOVODNAYAeGROMOPOVODNAYA WITH DOUBLE ZAPYATAYA"⟩,
  ⟨0x1CFBC, "ZNAMENNY NEUME STRELA KRYUKOVAYA GROMOKRYZHEVAYAeGROMOKRYZHEVAYA POVODNAYAeTRYASKA"⟩,
  ⟨0x1CFBF, "ZNAMENNY NEUME KUFISMAcOBLAKOcDUDAcNEMKAcPAUK"⟩]

end Bindery.Text.CharName
