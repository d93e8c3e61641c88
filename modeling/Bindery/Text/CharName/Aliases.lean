import Bindery.Text.CharName.Run
/-!
# Other names of characters

Corrected names, the names of controls, and abbreviations.
-/
namespace Bindery.Text.CharName

def aliases : List Run := [
  ⟨0x0000, "NUL"⟩,
  ⟨0x0000, "NULLaSOH"⟩,
  ⟨0x0001, "START OF HEADINGcTEXT"⟩,
  ⟨0x0002, "STXaEND OF TEXT"⟩,
  ⟨0x0003, "ETXaEND OF TRANSMISSION"⟩,
  ⟨0x0004, "EOTaENQ"⟩,
  ⟨0x0005, "ENQUIRYaACK"⟩,
  ⟨0x0006, "ACKNOWLEDGEaALERT"⟩,
  ⟨0x0007, "BELaBACKSPACE"⟩,
  ⟨0x0008, "BSaCHARACTER TABULATION"⟩,
  ⟨0x0009, "HORIZONTAL TABULATION"⟩,
  ⟨0x0009, "HT"⟩,
  ⟨0x0009, "TABaEND OF LINE"⟩,
  ⟨0x000A, "EOL"⟩,
  ⟨0x000A, "LF"⟩,
  ⟨0x000A, "LINE FEED"⟩,
  ⟨0x000A, "NEW LINE"⟩,
  ⟨0x000A, "NLaLINE TABULATION"⟩,
  ⟨0x000B, "VERTICAL TABULATION"⟩,
  ⟨0x000B, "VTaFF"⟩,
  ⟨0x000C, "FORM FEEDaCARRIAGE RETURN"⟩,
  ⟨0x000D, "CRaLOCKING-SHIFT ONE"⟩,
  ⟨0x000E, "SHIFT OUT"⟩,
  ⟨0x000E, "SOaLOCKING-SHIFT ZERO"⟩,
  ⟨0x000F, "SHIFT IN"⟩,
  ⟨0x000F, "SIaDATA LINK ESCAPE"⟩,
  ⟨0x0010, "DLEaDC1"⟩,
  ⟨0x0011, "DEVICE CONTROL ONEaDC2"⟩,
  ⟨0x0012, "DEVICE CONTROL TWOaDC3"⟩,
  ⟨0x0013, "DEVICE CONTROL THREEaDC4"⟩,
  ⟨0x0014, "DEVICE CONTROL FOURaNAK"⟩,
  ⟨0x0015, "NEGATIVE ACKNOWLEDGEaSYN"⟩,
  ⟨0x0016, "SYNCHRONOUS IDLEaEND OF TRANSMISSION BLOCK"⟩,
  ⟨0x0017, "ETBaCAN"⟩,
  ⟨0x0018, "CANCELaEND OF MEDIUM"⟩,
  ⟨0x0019, "EOMaSUB"⟩,
  ⟨0x001A, "SUBSTITUTEaESC"⟩,
  ⟨0x001B, "ESCAPEaFILE SEPARATOR"⟩,
  ⟨0x001C, "FS"⟩,
  ⟨0x001C, "INFORMATION SEPARATOR FOURaGROUP SEPARATOR"⟩,
  ⟨0x001D, "GS"⟩,
  ⟨0x001D, "INFORMATION SEPARATOR THREEcTWO"⟩,
  ⟨0x001E, "RECORD SEPARATOR"⟩,
  ⟨0x001E, "RSaINFORMATION SEPARATOR ONE"⟩,
  ⟨0x001F, "UNIT SEPARATOR"⟩,
  ⟨0x001F, "USaSP"⟩,
  ⟨0x007F, "DEL"⟩,
  ⟨0x007F, "DELETEaPAD"⟩,
  ⟨0x0080, "PADDING CHARACTERaHIGH OCTET PRESET"⟩,
  ⟨0x0081, "HOPaBPH"⟩,
  ⟨0x0082, "BREAK PERMITTED HEREaNBH"⟩,
  ⟨0x0083, "NO BREAK HEREaIND"⟩,
  ⟨0x0084, "INDEXaNEL"⟩,
  ⟨0x0085, "NEXT LINEaSSA"⟩,
  ⟨0x0086, "START OF SELECTED AREAaEND OF SELECTED AREA"⟩,
  ⟨0x0087, "ESAaCHARACTER TABULATION SET"⟩,
  ⟨0x0088, "HORIZONTAL TABULATION SET"⟩,
  ⟨0x0088, "HTSaCHARACTER TABULATION WITH JUSTIFICATION"⟩,
  ⟨0x0089, "HORIZONTAL TABULATION WITH JUSTIFICATION"⟩,
  ⟨0x0089, "HTJaLINE TABULATION SET"⟩,
  ⟨0x008A, "VERTICAL TABULATION SET"⟩,
  ⟨0x008A, "VTSaPARTIAL LINE DOWN"⟩,
  ⟨0x008B, "PARTIAL LINE FORWARD"⟩,
  ⟨0x008B, "PLDaPARTIAL LINE BACKWARD"⟩,
  ⟨0x008C, "PARTIAL LINE UP"⟩,
  ⟨0x008C, "PLUaREVERSE INDEX"⟩,
  ⟨0x008D, "REVERSE LINE FEED"⟩,
  ⟨0x008D, "RIaSINGLE SHIFT TWO"⟩,
  ⟨0x008E, "SINGLE-SHIFT-2"⟩,
  ⟨0x008E, "SS2aSINGLE SHIFT THREE"⟩,
  ⟨0x008F, "SINGLE-SHIFT-3"⟩,
  ⟨0x008F, "SS3aDCS"⟩,
  ⟨0x0090, "DEVICE CONTROL STRINGaPRIVATE USE ONE"⟩,
  ⟨0x0091, "PRIVATE USE-1"⟩,
  ⟨0x0091, "PU1aPRIVATE USE TWO"⟩,
  ⟨0x0092, "PRIVATE USE-2"⟩,
  ⟨0x0092, "PU2aSET TRANSMIT STATE"⟩,
  ⟨0x0093, "STSaCANCEL CHARACTER"⟩,
  ⟨0x0094, "CCHaMESSAGE WAITING"⟩,
  ⟨0x0095, "MWaSPA"⟩,
  ⟨0x0096, "START OF GUARDED AREA"⟩,
  ⟨0x0096, "START OF PROTECTED AREAaEND OF GUARDED AREA"⟩,
  ⟨0x0097, "END OF PROTECTED AREA"⟩,
  ⟨0x0097, "EPAaSOS"⟩,
  ⟨0x0098, "START OF STRINGaSGC"⟩,
  ⟨0x0099, "SINGLE GRAPHIC CHARACTER INTRODUCERaSCI"⟩,
  ⟨0x009A, "SINGLE CHARACTER INTRODUCERaCONTROL SEQUENCE INTRODUCER"⟩,
  ⟨0x009B, "CSIaST"⟩,
  ⟨0x009C, "STRING TERMINATORaOPERATING SYSTEM COMMAND"⟩,
  ⟨0x009D, "OSCaPM"⟩,
  ⟨0x009E, "PRIVACY MESSAGEaAPC"⟩,
  ⟨0x009F, "APPLICATION PROGRAM COMMANDaNBSP"⟩,
  ⟨0x00AD, "SHY"⟩,
  ⟨0x01A2, "LATIN CAPITAL LETTER GHAbSMALL LETTER GHA"⟩,
  ⟨0x034F, "CGJ"⟩,
  ⟨0x061C, "ALM"⟩,
  ⟨0x0709, "SYRIAC SUBLINEAR COLON SKEWED LEFT"⟩,
  ⟨0x0CDE, "KANNADA LETTER LLLA"⟩,
  ⟨0x0E9D, "LAO LETTER FO FON"⟩,
  ⟨0x0E9F, "LAO LETTER FO FAY"⟩,
  ⟨0x0EA3, "LAO LETTER RO"⟩,
  ⟨0x0EA5, "LAO LETTER LO"⟩,
  ⟨0x0FD0, "TIBETAN MARK BKA- SHOG GI MGO RGYAN"⟩,
  ⟨0x11EC, "HANGUL JONGSEONG YESIEUNG-KIYEOKdSSANGKIYEOKcSSANGYESIEUNGcYESIEUNG-KHIEUKH"⟩,
  ⟨0x180B, "FVS1aFVS2aFVS3aMVSaFVS4"⟩,
  ⟨0x200B, "ZWSPaZWNJaZWJaLRMaRLM"⟩,
  ⟨0x202A, "LREaRLEaPDFaLROaRLOaNNBSP"⟩,
  ⟨0x205F, "MMSPaWJ"⟩,
  ⟨0x2066, "LRIaRLIaFSIaPDI"⟩,
  ⟨0x2118, "WEIERSTRASS ELLIPTIC FUNCTION"⟩,
  ⟨0x2448, "MICR ON US SYMBOLbDASH SYMBOL"⟩,
  ⟨0x2B7A, "LEFTWARDS TRIANGLE-HEADED ARROW WITH DOUBLE VERTICAL STROKE"⟩,
  ⟨0x2B7C, "RIGHTWARDS TRIANGLE-HEADED ARROW WITH DOUBLE VERTICAL STROKE"⟩,
  ⟨0xA015, "YI SYLLABLE ITERATION MARK"⟩,
  ⟨0xAA6E, "MYANMAR LETTER KHAMTI LLA"⟩,
  ⟨0xFE00, "VS1aVS2aVS3aVS4aVS5aVS6aVS7aVS8aVS9aVS10aVS11aVS12aVS13aVS14aVS15aVS16"⟩,
  ⟨0xFE18, "PRESENTATION FORM FOR VERTICAL RIGHT WHITE LENTICULAR BRACKET"⟩,
  ⟨0xFEFF, "BOM"⟩,
  ⟨0xFEFF, "BYTE ORDER MARK"⟩,
  ⟨0xFEFF, "ZWNBSP"⟩,
  ⟨0x122D4, "CUNEIFORM SIGN NU11 TENUdOVER NU11 BUR OVER BUR"⟩,
  ⟨0x16E56, "MEDEFAIDRIN CAPITAL LETTER HdNG"⟩,
  ⟨0x16E76, "MEDEFAIDRIN SMALL LETTER HdNG"⟩,
  ⟨0x1B001, "HENTAIGANA LETTER E-1"⟩,
  ⟨0x1D0C5, "BYZANTINE MUSICAL SYMBOL FTHORA SKLIRON CHROMA VASIS"⟩,
  ⟨0xE0100, "VS17aVS18aVS19aVS20aVS21aVS22aVS23aVS24aVS25aVS26aVS27aVS28aVS29aVS30aVS31aVS32aVS33"⟩,
  ⟨0xE0111, "VS34aVS35aVS36aVS37aVS38aVS39aVS40aVS41aVS42aVS43aVS44aVS45aVS46aVS47aVS48aVS49aVS50"⟩,
  ⟨0xE0122, "VS51aVS52aVS53aVS54aVS55aVS56aVS57aVS58aVS59aVS60aVS61aVS62aVS63aVS64aVS65aVS66aVS67"⟩,
  ⟨0xE0133, "VS68aVS69aVS70aVS71aVS72aVS73aVS74aVS75aVS76aVS77aVS78aVS79aVS80aVS81aVS82aVS83aVS84"⟩,
  ⟨0xE0144, "VS85aVS86aVS87aVS88aVS89aVS90aVS91aVS92aVS93aVS94aVS95aVS96aVS97aVS98aVS99aVS100"⟩,
  ⟨0xE0154, "VS101aVS102aVS103aVS104aVS105aVS106aVS107aVS108aVS109aVS110aVS111aVS112aVS113aVS114"⟩,
  ⟨0xE0162, "VS115aVS116aVS117aVS118aVS119aVS120aVS121aVS122aVS123aVS124aVS125aVS126aVS127aVS128"⟩,
  ⟨0xE0170, "VS129aVS130aVS131aVS132aVS133aVS134aVS135aVS136aVS137aVS138aVS139aVS140aVS141aVS142"⟩,
  ⟨0xE017E, "VS143aVS144aVS145aVS146aVS147aVS148aVS149aVS150aVS151aVS152aVS153aVS154aVS155aVS156"⟩,
  ⟨0xE018C, "VS157aVS158aVS159aVS160aVS161aVS162aVS163aVS164aVS165aVS166aVS167aVS168aVS169aVS170"⟩,
  ⟨0xE019A, "VS171aVS172aVS173aVS174aVS175aVS176aVS177aVS178aVS179aVS180aVS181aVS182aVS183aVS184"⟩,
  ⟨0xE01A8, "VS185aVS186aVS187aVS188aVS189aVS190aVS191aVS192aVS193aVS194aVS195aVS196aVS197aVS198"⟩,
  ⟨0xE01B6, "VS199aVS200aVS201aVS202aVS203aVS204aVS205aVS206aVS207aVS208aVS209aVS210aVS211aVS212"⟩,
  ⟨0xE01C4, "VS213aVS214aVS215aVS216aVS217aVS218aVS219aVS220aVS221aVS222aVS223aVS224aVS225aVS226"⟩,
  ⟨0xE01D2, "VS227aVS228aVS229aVS230aVS231aVS232aVS233aVS234aVS235aVS236aVS237aVS238aVS239aVS240"⟩,
  ⟨0xE01E0, "VS241aVS242aVS243aVS244aVS245aVS246aVS247aVS248aVS249aVS250aVS251aVS252aVS253aVS254"⟩,
  ⟨0xE01EE, "VS255aVS256"⟩]

end Bindery.Text.CharName
