/-!
# Further names of characters

Corrected names, the names of control characters, and abbreviations. The format is that of
`Text.codeNamed?`.
-/

namespace HttpTemplates.Text.CharacterName

/-- Corrected names, the names of control characters, and abbreviations. -/
def aliases : String :=
  "0:aNULL;0:d;aSTART OF HEADING;1:bOH;bTART OF TEXT;2:cX;aEND OF TEXT;3:bTX;bND OF TRANSMISSION;
4:bOT;bNQUIRY;5:d;aACKNOWLEDGE;6:d;bLERT;7:aBEL;bACKSPACE;8:bS;aCHARACTER TABULATION;
9:aHORIZONTAL TABULATION;9:bT;9:aTAB;aLINE FEED;A:aNEW LINE;A:aEND OF LINE;A:bOL;A:aLF;A:aNL;
aLINE TABULATION;B:aVERTICAL TABULATION;B:bT;aFORM FEED;C:bF;aCARRIAGE RETURN;D:bR;aSHIFT OUT;
E:aLOCKING-SHIFT ONE;E:aSO;bHIFT IN;F:aLOCKING-SHIFT ZERO;F:aSI;aDATA LINK ESCAPE;10:bLE;
bEVICE CONTROL ONE;11:bC1;bEVICE CONTROL TWO;12:bC2;bEVICE CONTROL THREE;13:bC3;
bEVICE CONTROL FOUR;14:bC4;aNEGATIVE ACKNOWLEDGE;15:bAK;aSYNCHRONOUS IDLE;16:d;
aEND OF TRANSMISSION BLOCK;17:bTB;aCANCEL;18:d;aEND OF MEDIUM;19:bOM;aSUBSTITUTE;1A:d;aESCAPE;
1B:d;aINFORMATION SEPARATOR FOUR;1C:aFILE SEPARATOR;1C:bS;aINFORMATION SEPARATOR THREE;
1D:aGROUP SEPARATOR;1D:bS;aINFORMATION SEPARATOR TWO;1E:aRECORD SEPARATOR;1E:bS;
aINFORMATION SEPARATOR ONE;1F:aUNIT SEPARATOR;1F:bS;aSP;7F:aDELETE;7F:d;aPADDING CHARACTER;80:d;
aHIGH OCTET PRESET;81:bOP;aBREAK PERMITTED HERE;82:bPH;aNO BREAK HERE;83:bBH;aINDEX;84:d;
aNEXT LINE;85:cL;aSTART OF SELECTED AREA;86:bSA;aEND OF SELECTED AREA;87:bSA;
aCHARACTER TABULATION SET;88:aHORIZONTAL TABULATION SET;88:bTS;aCHARACTER TABULATION WITH JUSTIFIC
ATION;89:aHORIZONTAL TABULATION WITH JUSTIFICATION;89:bTJ;aLINE TABULATION SET;
8A:aVERTICAL TABULATION SET;8A:bTS;aPARTIAL LINE FORWARD;8B:nDOWN;8B:bLD;bARTIAL LINE BACKWARD;
8C:nUP;8C:bLU;aREVERSE LINE FEED;8D:iINDEX;8D:bI;aSINGLE SHIFT TWO;8E:g-SHIFT-2;8E:bS2;
bINGLE SHIFT THREE;8F:g-SHIFT-3;8F:bS3;aDEVICE CONTROL STRING;90:bCS;aPRIVATE USE ONE;91:l-1;
91:bU1;bRIVATE USE TWO;92:l-2;92:bU2;aSET TRANSMIT STATE;93:bTS;aCANCEL CHARACTER;94:bCH;
aMESSAGE WAITING;95:bW;aSTART OF GUARDED AREA;96:jPROTECTED AREA;96:bPA;aEND OF GUARDED AREA;
97:hPROTECTED AREA;97:bPA;aSTART OF STRING;98:bOS;bINGLE GRAPHIC CHARACTER INTRODUCER;99:bGC;
bINGLE CHARACTER INTRODUCER;9A:bCI;aCONTROL SEQUENCE INTRODUCER;9B:bSI;aSTRING TERMINATOR;9C:c;
aOPERATING SYSTEM COMMAND;9D:bSC;aPRIVACY MESSAGE;9E:bM;aAPPLICATION PROGRAM COMMAND;9F:cC;aNBSP;
AD:aSHY;1A2:aLATIN CAPITAL LETTER GHA;gSMALL LETTER GHA;34F:aCGJ;61C:aALM;709:aSYRIAC SUBLINEAR CO
LON SKEWED LEFT;CDE:aKANNADA LETTER LLLA;E9D:aLAO LETTER FO FON;E9F:pAY;EA3:lRO;EA5:lLO;
FD0:aTIBETAN MARK BKA- SHOG GI MGO RGYAN;11EC:aHANGUL JONGSEONG YESIEUNG-KIYEOK;zbSSANGKIYEOK;
rSSANGYESIEUNG;rYESIEUNG-KHIEUKH;180B:aFVS1;d2;d3;aMVS;aFVS4;200B:aZWSP;cNJ;cJ;aLRM;aRLM;
202A:aLRE;aRLE;aPDF;aLRO;aRLO;aNNBSP;205F:aMMSP;aWJ;2066:aLRI;aRLI;aFSI;aPDI;
2118:aWEIERSTRASS ELLIPTIC FUNCTION;2448:aMICR ON US SYMBOL;fDASH SYMBOL;2B7A:aLEFTWARDS TRIANGLE-
HEADED ARROW WITH DOUBLE VERTICAL STROKE;2B7C:aRIGHTWARDS TRIANGLE-HEADED ARROW WITH DOUBLE VERTIC
AL STROKE;A015:aYI SYLLABLE ITERATION MARK;AA6E:aMYANMAR LETTER KHAMTI LLA;FE00:aVS1;c2;c3;c4;c5;
c6;c7;c8;c9;c10;d1;d2;d3;d4;d5;d6;FE18:aPRESENTATION FORM FOR VERTICAL RIGHT WHITE LENTICULAR BRAC
KET;FEFF:aBYTE ORDER MARK;FEFF:bOM;FEFF:aZWNBSP;122D4:aCUNEIFORM SIGN NU11 TENU;
uOVER NU11 BUR OVER BUR;16E56:aMEDEFAIDRIN CAPITAL LETTER H;zcNG;16E76:mSMALL LETTER H;zNG;
1B001:aHENTAIGANA LETTER E-1;1D0C5:aBYZANTINE MUSICAL SYMBOL FTHORA SKLIRON CHROMA VASIS;
E0100:aVS17;d8;d9;c20;d1;d2;d3;d4;d5;d6;d7;d8;d9;c30;d1;d2;d3;d4;d5;d6;d7;d8;d9;c40;d1;d2;d3;d4;
d5;d6;d7;d8;d9;c50;d1;d2;d3;d4;d5;d6;d7;d8;d9;c60;d1;d2;d3;d4;d5;d6;d7;d8;d9;c70;d1;d2;d3;d4;d5;
d6;d7;d8;d9;c80;d1;d2;d3;d4;d5;d6;d7;d8;d9;c90;d1;d2;d3;d4;d5;d6;d7;d8;d9;c100;e1;e2;e3;e4;e5;e6;
e7;e8;e9;d10;e1;e2;e3;e4;e5;e6;e7;e8;e9;d20;e1;e2;e3;e4;e5;e6;e7;e8;e9;d30;e1;e2;e3;e4;e5;e6;e7;
e8;e9;d40;e1;e2;e3;e4;e5;e6;e7;e8;e9;d50;e1;e2;e3;e4;e5;e6;e7;e8;e9;d60;e1;e2;e3;e4;e5;e6;e7;e8;
e9;d70;e1;e2;e3;e4;e5;e6;e7;e8;e9;d80;e1;e2;e3;e4;e5;e6;e7;e8;e9;d90;e1;e2;e3;e4;e5;e6;e7;e8;e9;
c200;e1;e2;e3;e4;e5;e6;e7;e8;e9;d10;e1;e2;e3;e4;e5;e6;e7;e8;e9;d20;e1;e2;e3;e4;e5;e6;e7;e8;e9;d30;
e1;e2;e3;e4;e5;e6;e7;e8;e9;d40;e1;e2;e3;e4;e5;e6;e7;e8;e9;d50;e1;e2;e3;e4;e5;e6"

end HttpTemplates.Text.CharacterName
