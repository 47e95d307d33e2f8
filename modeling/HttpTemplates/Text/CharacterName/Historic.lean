/-!
# Character names: historic scripts

The names of the characters from U+10000 to U+1CFFF. The format is that of
`Text.codeNamed?`.
-/

namespace HttpTemplates.Text.CharacterName

/-- The names of the characters from U+10000 to U+1CFFF. -/
def historic : String :=
  "10000:aLINEAR B SYLLABLE B008 A;u38 E;u28 I;u61 O;u10 U;u01 DA;u45 DE;u07 DI;u14 DO;u51 DU;v7 JA;
u46 JE;1000D:u36 JO;u65 JU;u77 KA;u44 KE;u67 KI;u70 KO;u81 KU;v0 MA;u13 ME;u73 MI;u15 MO;u23 MU;
u06 NA;u24 NE;u30 NI;u52 NO;v5 NU;u03 PA;u72 PE;u39 PI;u11 PO;u50 PU;u16 QA;u78 QE;u21 QI;u32 QO;
10028:u60 RA;u27 RE;u53 RI;u02 RO;u26 RU;u31 SA;u09 SE;u41 SI;u12 SO;u58 SU;v9 TA;u04 TE;u37 TI;
u05 TO;u69 TU;u54 WA;u75 WE;u40 WI;v2 WO;1003C:u17 ZA;u74 ZE;1003F:u20 ZO;v5 A2;u43 A3;u85 AU;
u71 DWE;u90 DWO;u48 NWA;u29 PU2;u62 PTE;u76 RA2;u33 RA3;u68 RO2;v6 TA2;u87 TWE;u91 TWO;
10050:lMBOL B018;t9;s22;s34;s47;t9;s56;s63;t4;s79;s82;t3;t6;t9;10080:jIDEOGRAM B100 MAN;v2 WOMAN;
v4 DEER;v5 EQUID;wF MARE;wM STALLION;v6F EWE;wM RAM;v7F SHE-GOAT;wM HE-GOAT;v8F SOW;wM BOAR;
v9F COW;wM BULL;u20 WHEAT;v1 BARLEY;v2 OLIVE;v3 SPICE;v5 CYPERUS;jMONOGRAM B127 KAPO;v8 KANAKO;
jIDEOGRAM B130 OIL;v1 WINE;v2;jMONOGRAM B133 AREPA;v5 MERI;jIDEOGRAM B140 BRONZE;v1 GOLD;v2;
v5 WOOL;v6;u50;v1 HORN;v2;v3;v4;jMONOGRAM B156 TURO2;jIDEOGRAM B157;v8;v9 CLOTH;u60;v1;v2 GARMENT;
v3 ARMOUR;v4;v5;v6;v7;v8;v9;u70;v1;v2;v3 MONTH;v4;v6 TREE;v7;v8;v9;u80;v1;v2;v3;v4;v5;v9;u90;
v1 HELMET;t220 FOOTSTOOL;v5 BATHTUB;u30 SPEAR;v1 ARROW;v2;v3 SWORD;v4;v6;u40 WHEELED CHARIOT;
v1 CHARIOT;v2 CHARIOT FRAME;v3 WHEEL;v5;v6;jMONOGRAM B247 DIPTE;jIDEOGRAM B248;v9;u51;v2;v3;
v4 DART;v5;v6;v7;v8;v9;sVESSEL B155;zb200;zd1;zd2;zd3;zd4;zd5;zd6;zd7;zd8;zd9;zc10;zd1;zd2;zd3;
zd4;zd5;zd6;zd7;zd8;zd9;zc21;zd2;zd6;zd7;zd8;zd9;zc50;zb305;10100:aAEGEAN WORD SEPARATOR LINE;
wDOT;hCHECK MARK;10107:hNUMBER ONE;oTWO;pHREE;oFOUR;pIVE;oSIX;pEVEN;oEIGHT;oNINE;oTEN;pWENTY;
pHIRTY;oFORTY;pIFTY;oSIXTY;pEVENTY;oEIGHTY;oNINETY;oONE HUNDRED;oTWO HUNDRED;pHREE HUNDRED;
oFOUR HUNDRED;pIVE HUNDRED;oSIX HUNDRED;pEVEN HUNDRED;oEIGHT HUNDRED;oNINE HUNDRED;oONE THOUSAND;
oTWO THOUSAND;pHREE THOUSAND;oFOUR THOUSAND;pIVE THOUSAND;oSIX THOUSAND;pEVEN THOUSAND;
oEIGHT THOUSAND;oNINE THOUSAND;oTEN THOUSAND;pWENTY THOUSAND;pHIRTY THOUSAND;oFORTY THOUSAND;
pIFTY THOUSAND;oSIXTY THOUSAND;pEVENTY THOUSAND;oEIGHTY THOUSAND;oNINETY THOUSAND;
10137:hWEIGHT BASE UNIT;oFIRST SUBUNIT;oSECOND SUBUNIT;oTHIRD SUBUNIT;oFOURTH SUBUNIT;
hDRY MEASURE FIRST SUBUNIT;hLIQUID MEASURE FIRST SUBUNIT;hMEASURE SECOND SUBUNIT;pTHIRD SUBUNIT;
aGREEK ACROPHONIC ATTIC ONE QUARTER;zcHALF;zcDRACHMA;xFIVE;zFTY;zVE HUNDRED;zdTHOUSAND;
zFTY THOUSAND;zVE TALENTS;xTEN TALENTS;xFIFTY TALENTS;xONE HUNDRED TALENTS;xFIVE HUNDRED TALENTS;
xONE THOUSAND TALENTS;xFIVE THOUSAND TALENTS;zdSTATERS;xTEN STATERS;xFIFTY STATERS;
xONE HUNDRED STATERS;xFIVE HUNDRED STATERS;xONE THOUSAND STATERS;xTEN THOUSAND STATERS;
xFIFTY THOUSAND STATERS;xTEN MNAS;rHERAEUM ONE PLETHRON;rTHESPIAN ONE;rHERMIONIAN ONE;
rEPIDAUREAN TWO;rTHESPIAN TWO;rCYRENAIC TWO DRACHMAS;rEPIDAUREAN TWO DRACHMAS;rTROEZENIAN FIVE;
zdTEN;zg ALTERNATE FORM;rHERMIONIAN TEN;rMESSENIAN TEN;rTHESPIAN TEN;zcHIRTY;sROEZENIAN FIFTY;
zi ALTERNATE FORM;rHERMIONIAN FIFTY;rTHESPIAN FIFTY;zbONE HUNDRED;zbTHREE HUNDRED;
rEPIDAUREAN FIVE HUNDRED;rTROEZENIAN FIVE HUNDRED;sHESPIAN FIVE HUNDRED;rCARYSTIAN FIVE HUNDRED;
rNAXIAN FIVE HUNDRED;rTHESPIAN ONE THOUSAND;zbFIVE THOUSAND;rDELPHIC FIVE MNAS;
rSTRATIAN FIFTY MNAS;gONE HALF SIGN;t ALTERNATE FORM;gTWO THIRDS SIGN;hHREE QUARTERS SIGN;
gYEAR SIGN;gTALENT SIGN;gDRACHMA SIGN;gOBOL SIGN;gTWO OBOLS SIGN;hHREE OBOLS SIGN;
gFOUR OBOLS SIGN;hIVE OBOLS SIGN;gMETRETES SIGN;gKYATHOS BASE SIGN;gLITRA SIGN;gOUNKIA SIGN;
gXESTES SIGN;gARTABE SIGN;iOURA SIGN;gGRAMMA SIGN;gTRYBLION BASE SIGN;gZERO SIGN;
gONE QUARTER SIGN;gSINUSOID SIGN;gINDICTION SIGN;aNOMISMA SIGN;10190:aROMAN SEXTANS SIGN;
gUNCIA SIGN;gSEMUNCIA SIGN;iXTULA SIGN;gDIMIDIA SEXTULA SIGN;gSILIQUA SIGN;gDENARIUS SIGN;
gQUINARIUS SIGN;gSESTERTIUS SIGN;gDUPONDIUS SIGN;gAS SIGN;gCENTURIAL SIGN;aASCIA SYMBOL;
101A0:aGREEK SYMBOL TAU RHO;101D0:aPHAISTOS DISC SIGN PEDESTRIAN;uLUMED HEAD;tTATTOOED HEAD;
tCAPTIVE;uHILD;tWOMAN;tHELMET;tGAUNTLET;tTIARA;tARROW;tBOW;tSHIELD;tCLUB;tMANACLES;vTTOCK;tSAW;
tLID;tBOOMERANG;tCARPENTRY PLANE;tDOLIUM;tCOMB;tSLING;tCOLUMN;tBEEHIVE;tSHIP;tHORN;uIDE;
tBULLS LEG;tCAT;tRAM;tEAGLE;tDOVE;tTUNNY;tBEE;tPLANE TREE;tVINE;tPAPYRUS;tROSETTE;tLILY;tOX BACK;
tFLUTE;tGRATER;tSTRAINER;uMALL AXE;tWAVY BAND;tCOMBINING OBLIQUE STROKE;10280:aLYCIAN LETTER A;oE;
oB;pH;oG;oD;oI;oW;oZ;oTH;oJ;oK;oQ;oL;oM;oN;oMM;oNN;oU;oP;oKK;oR;oS;oT;pT;oAN;oEN;oH;oX;
102A0:aCARIAN LETTER A;oP2;oD;oL;oUUU;oR;oLD;oA2;oQ;oB;oM;oO;oD2;oT;oSH;q2;p;oC-18;oU;oNN;oX;oN;
oTT2;oP;oSS;oI;oE;oUUUU;oK;p2;oND;oUU;oG;p2;oST;q2;oNG;oII;oC-39;oTT;oUUU2;oRR;oMB;q2;q3;q4;oLD2;
oE2;oUUU3;102E0:bOPTIC EPACT THOUSANDS MARK;nDIGIT ONE;tTWO;uHREE;tFOUR;uIVE;tSIX;uEVEN;tEIGHT;
tNINE;nNUMBER TEN;vWENTY;vHIRTY;uFORTY;vIFTY;uSIXTY;vEVENTY;uEIGHTY;uNINETY;uONE HUNDRED;
uTWO HUNDRED;vHREE HUNDRED;uFOUR HUNDRED;vIVE HUNDRED;uSIX HUNDRED;vEVEN HUNDRED;uEIGHT HUNDRED;
uNINE HUNDRED;10300:aOLD ITALIC LETTER A;sBE;sKE;sDE;sE;sVE;sZE;sHE;sTHE;sI;sKA;sEL;tM;tN;tSH;sO;
sPE;sSHE;sKU;sER;tS;sTE;sU;sEKS;sPHE;sKHE;sEF;tRS;sCHE;sII;sUU;sESS;lNUMERAL ONE;tFIVE;tTEN;
tFIFTY;1032D:lLETTER YE;sNORTHERN TSE;sSOUTHERN TSE;aGOTHIC LETTER AHSA;oBAIRKAN;oGIBA;oDAGS;
oAIHVUS;oQAIRTHRA;oIUJA;oHAGL;oTHIUTH;oEIS;oKUSMA;oLAGUS;oMANNA;oNAUTHS;oJER;oURUS;oPAIRTHRA;
oNINETY;oRAIDA;oSAUIL;oTEIWS;oWINJA;oFAIHU;oIGGWS;oHWAIR;oOTHAL;oNINE HUNDRED;
10350:aOLD PERMIC LETTER AN;sBUR;sGAI;sDOI;sE;sZHOI;sDZHOI;sZATA;sDZITA;sI;sKOKE;sLEI;sMENOE;
sNENOE;sVOOI;sPEEI;sREI;sSII;sTAI;sU;sCHERY;sSHOOI;uCHOOI;sYRY;tERU;sO;tO;sEF;sHA;sTSIU;sVER;sYER;
vI;tAT;sIE;sYU;tA;sIA;aCOMBINING OLD PERMIC LETTER AN;zdDOI;zdZATA;zdNENOE;zdSII;
10380:aUGARITIC LETTER ALPA;qBETA;qGAMLA;qKHA;qDELTA;qHO;qWO;qZETA;qHOTA;qTET;qYOD;qKAF;qSHIN;
qLAMDA;qMEM;qDHAL;qNUN;qZU;qSAMKA;qAIN;qPU;qSADE;qQOPA;qRASHA;qTHANNA;qGHAIN;qTO;qI;qU;qSSU;
1039F:jWORD DIVIDER;aOLD PERSIAN SIGN A;rI;rU;rKA;sU;rGA;sU;rXA;rCA;rJA;sI;rTA;sU;rDA;sI;sU;rTHA;
rPA;rBA;rFA;rNA;sU;rMA;sI;sU;rYA;rVA;sI;rRA;sU;rLA;rSA;rZA;rSHA;sSA;rHA;103C8:rAURAMAZDAA;zc-2;
zcHA;rXSHAAYATHIYA;rDAHYAAUSH;zb-2;rBAGA;sUUMISH;mWORD DIVIDER;mNUMBER ONE;tTWO;uEN;uWENTY;
tHUNDRED;10400:aDESERET CAPITAL LETTER LONG I;zdE;zdA;zeH;zdO;zeO;xSHORT I;zeE;zeA;zfH;zeO;zfO;
xAY;xOW;xWU;xYEE;xH;xPEE;xBEE;xTEE;xDEE;xCHEE;xJEE;xKAY;xGAY;xEF;xVEE;xETH;xTHEE;xES;xZEE;xESH;
xZHEE;xER;yL;yM;yN;zG;xOI;xEW;iSMALL LETTER LONG I;zbE;zbA;zcH;zbO;zcO;vSHORT I;zcE;zcA;zdH;zcO;
zdO;vAY;vOW;vWU;vYEE;vH;vPEE;vBEE;vTEE;vDEE;vCHEE;vJEE;vKAY;vGAY;vEF;vVEE;vETH;vTHEE;vES;vZEE;
vESH;vZHEE;vER;wL;wM;wN;xG;vOI;vEW;aSHAVIAN LETTER PEEP;pTOT;pKICK;pFEE;pTHIGH;pSO;qURE;pCHURCH;
pYEA;pHUNG;pBIB;pDEAD;pGAG;pVOW;pTHEY;pZOO;pMEASURE;pJUDGE;pWOE;pHA-HA;pLOLL;pMIME;pIF;pEGG;pASH;
qDO;pON;pWOOL;pOUT;pAH;pROAR;pNUN;pEAT;pAGE;pICE;pUP;pOAK;qOZE;qIL;pAWE;qRE;pOR;pAIR;pERR;pARRAY;
pEAR;pIAN;pYEW;aOSMANYA LETTER ALEF;pBA;pTA;pJA;pXA;pKHA;pDEEL;pRA;pSA;qHIIN;pDHA;pCAYN;pGA;pFA;
pQAAF;pKAAF;pLAAN;pMIIN;pNUUN;pWAW;pHA;pYA;pA;pE;pI;pO;pU;pAA;pEE;pOO;104A0:iDIGIT ZERO;oONE;oTWO;
pHREE;oFOUR;pIVE;oSIX;pEVEN;oEIGHT;oNINE;104B0:cAGE CAPITAL LETTER A;wI;xN;wH;vBRA;vCHA;vEHCHA;w;
wIN;vHA;wYA;vI;vKA;vEHKA;vKYA;vLA;vMA;vNA;vO;wIN;vPA;vEHPA;vSA;wHA;vTA;vEHTA;vTSA;vEHTSA;vTSHA;
vDHA;vU;vWA;vKHA;vGHA;vZA;wHA;104D8:gSMALL LETTER A;uI;vN;uH;tBRA;tCHA;tEHCHA;u;uIN;tHA;uYA;tI;
tKA;tEHKA;tKYA;tLA;tMA;tNA;tO;uIN;tPA;tEHPA;tSA;uHA;tTA;tEHTA;tTSA;tEHTSA;tTSHA;tDHA;tU;tWA;tKHA;
tGHA;tZA;uHA;10500:aELBASAN LETTER A;pBE;pCE;qHE;pDE;pNDE;pDHE;pEI;q;pFE;pGE;qJE;pHE;pI;pJE;pKE;
pLE;qLE;pME;pNE;qA;qJE;pO;pPE;pQE;pRE;qRE;pSE;qHE;pTE;qHE;pU;pVE;pXE;pY;pZE;qHE;pGHE;rAMMA;pKHE;
10530:aCAUCASIAN ALBANIAN LETTER ALT;zbBET;zbGIM;zbDAT;zbEB;zbZARL;zbEYN;zbZHIL;zbTAS;zbCHA;
zbYOWD;zbZHA;zbIRB;zbSHA;zbLAN;zbINYA;zbXEYN;zbDYAN;zbCAR;zbJHOX;zbKAR;zbLYIT;zbHEYT;zbQAY;zbAOR;
zbCHOY;zdI;zcYAY;zbMAQ;zbQAR;zbNOWC;zbDZYAY;zbSHAK;zbJAYN;zbON;zbTYAY;zbFAM;zbDZAY;zbCHAT;zbPEN;
zbGHEYS;zbRAT;zbSEYK;zbVEYZ;zbTIWR;zbSHOY;zbIWN;zbCYAW;zcAYN;zbYAYD;zbPIWR;zbKIW;
1056F:tCITATION MARK;aVITHKUQI CAPITAL LETTER A;yBBE;zE;yCE;zHE;yDE;zHE;yEI;z;yFE;yGA;1057C:yHA;
zHA;yI;zJE;yJE;yKA;yLA;zLA;yME;yNE;zJE;yO;yPE;yQA;yRE;1058C:ySE;zHE;yTE;zHE;yU;yVE;yXE;10594:yY;
yZE;10597:jSMALL LETTER A;wBBE;xE;wCE;xHE;wDE;xHE;wEI;x;wFE;wGA;105A3:wHA;xHA;wI;xJE;wJE;wKA;wLA;
xLA;wME;wNE;xJE;wO;wPE;wQA;wRE;105B3:wSE;xHE;wTE;xHE;wU;wVE;wXE;105BB:wY;wZE;
10600:aLINEAR A SIGN AB001;s2;s3;s4;s5;s6;s7;s8;s9;r10;s1;s3;s6;s7;r20;s1;tF;tM;s2;tF;tM;s3;tM;s4;
s6;s7;s8;p028B;pB029;r30;s1;s4;s7;s8;s9;r40;s1;s4;s5;s6;s7;s8;s9;r50;s1;s3;s4;s5;s6;s7;s8;s9;r60;
s1;s5;s6;s7;s9;r70;s3;s4;s6;s7;s8;s9;r80;s1;s2;s5;s6;s7;p100-102;pB118;r20;p120B;pB122;s3;r31A;tB;
p131C;pB164;r71;r80;s8;r91;p301;r2;r3;r4;r5;r6;r7;r8;r9A;sB;sC;q10;r1;r2;r3A;sB;sC;r4;r5;r6;r7;r8;
r9;q20;r1;r2;r3;r4;r5;r6;r7;r8;r9;q30;r1;r2;r3;r4;r5;r6;r7;r8;r9;q40;r1;r2;r3;r4;r5;r6;r7;r8;r9;
q50;r1;r2;r3;r4;r5;r6;r7;r8;r9;q60;r1;r2;r3;r4;r5;r6;r7;r8;r9;q70;r1;p400-VAS;r1-VAS;r2-VAS;
r3-VAS;r4-VAS;r5-VAS;r6-VAS;r7-VAS;r8-VAS;r9-VAS;q10-VAS;r1-VAS;r2-VAS;r3-VAS;r4-VAS;r5-VAS;
r6-VAS;r7-VAS;r8-VAS;p501;r2;r3;r4;r5;r6;r8;r9;q10;r1;r2;r3;r5;r6;q20;r1;r3;r4;r5;r6;r7;r8;r9;q30;
r1;r2;r4;r5;r6;r7;r8;r9;q40;r1;r2;r5;r7;r8;r9;q50;r1;r2;r3;r4;r5;r6;r7;r9;q63;r4;r5;r6;r8;r9;q70;
r1;r2;r3;r4;r5;r6;r7;r8;r9;q80;r1;r2;r3;r4;r5;r6;r7;r8;r9;q91;r2;r4;r5;r6;r8;p600;r1;r2;r3;r4;r6;
r8;r9;q10;r1;r2;r3;r4;r5;r6;r7;r8;r9;q20;r1;r2;r3;r4;r6;r7;r8;r9;q34;r7;r8;q40;r2;r3;r4;r5;r6;r8;
r9;q51;r2;r3;r4;r5;r6;r7;r8;r9;q60;r1;r2;r3;r4;10740:p701 A;r2 B;r3 D;r4 E;r5 F;r6 H;r7 J;r8 K;
r9 L;s-2 L2;t3 L3;t4 L4;t6 L6;q10 W;r1 X;r2 Y;r3 OMEGA;r4 ABB;r5 BB;r7 DD;q26 EYYY;q32 JE;
10760:p800;r1;r2;r3;r4;r5;r6;r7;10780:aMODIFIER LETTER SMALL CAPITAL AA;rUPERSCRIPT TRIANGULAR COL
ON;zdHALF TRIANGULAR COLON;rMALL AE;wCAPITAL B;wB WITH HOOK;10787:wDZ DIGRAPH;
zh WITH RETROFLEX HOOK;znCURL;xEZH DIGRAPH;x WITH TAIL;zeHOOK;zi AND TAIL;wREVERSED E;
wCLOSED REVERSED OPEN E;wFENG DIGRAPH;wRAMS HORN;wCAPITAL G;wG WITH HOOK;wCAPITAL G WITH HOOK;
wH WITH STROKE;wCAPITAL H;wHENG WITH HOOK;wDOTLESS J WITH STROKE AND HOOK;wLS DIGRAPH;xZ DIGRAPH;
x WITH BELT;wCAPITAL L WITH BELT;wL WITH RETROFLEX HOOK AND BELT;xEZH;zb WITH RETROFLEX HOOK;
wTURNED Y;zf WITH BELT;wO WITH STROKE;wCAPITAL OE;xLOSED OMEGA;wQ;wTURNED R WITH LONG LEG;
zt AND RETROFLEX HOOK;wR WITH TAIL;zeFISHHOOK;wCAPITAL R;wTC DIGRAPH WITH CURL;xS DIGRAPH;
zh WITH RETROFLEX HOOK;xESH DIGRAPH;x WITH RETROFLEX HOOK;wV WITH RIGHT HOOK;107B2:wCAPITAL Y;
qGLOTTAL STOP WITH STROKE;qREVERSED GLOTTAL STOP WITH STROKE;qBILABIAL CLICK;qDENTAL CLICK;
qLATERAL CLICK;qALVEOLAR CLICK;qRETROFLEX CLICK WITH RETROFLEX HOOK;qSMALL S WITH CURL;
10800:aCYPRIOT SYLLABLE A;rE;rI;rO;rU;rJA;10808:sO;1080A:rKA;sE;sI;sO;sU;rLA;sE;sI;sO;sU;rMA;sE;
sI;sO;sU;rNA;sE;sI;sO;sU;rPA;sE;sI;sO;sU;rRA;sE;sI;sO;sU;rSA;sE;sI;sO;sU;rTA;sE;sI;sO;sU;rWA;sE;
sI;sO;10837:rXA;sE;1083C:rZA;1083F:sO;aIMPERIAL ARAMAIC LETTER ALEPH;yBETH;yGIMEL;yDALETH;yHE;
yWAW;yZAYIN;yHETH;yTETH;yYODH;yKAPH;yLAMEDH;yMEM;yNUN;ySAMEKH;yAYIN;yPE;ySADHE;yQOPH;yRESH;ySHIN;
yTAW;10857:rSECTION SIGN;rNUMBER ONE;yTWO;zHREE;zEN;zWENTY;yONE HUNDRED;zdTHOUSAND;yTEN THOUSAND;
aPALMYRENE LETTER ALEPH;rBETH;rGIMEL;rDALETH;rHE;rWAW;rZAYIN;rHETH;rTETH;rYODH;rKAPH;rLAMEDH;rMEM;
rFINAL NUN;rNUN;rSAMEKH;rAYIN;rPE;rSADHE;rQOPH;rRESH;rSHIN;rTAW;mFT-POINTING FLEURON;
kRIGHT-POINTING FLEURON;kNUMBER ONE;rTWO;sHREE;rFOUR;sIVE;rTEN;sWENTY;aNABATAEAN LETTER FINAL ALEP
H;rALEPH;rFINAL BETH;rBETH;rGIMEL;rDALETH;rFINAL HE;rHE;rWAW;rZAYIN;rHETH;rTETH;rFINAL YODH;rYODH;
rFINAL KAPH;rKAPH;rFINAL LAMEDH;rLAMEDH;rFINAL MEM;rMEM;rFINAL NUN;rNUN;rSAMEKH;rAYIN;rPE;rSADHE;
rQOPH;rRESH;rFINAL SHIN;rSHIN;rTAW;108A7:kNUMBER ONE;rTWO;sHREE;rFOUR;kCRUCIFORM NUMBER FOUR;
kNUMBER FIVE;rTEN;sWENTY;rONE HUNDRED;108E0:aHATRAN LETTER ALEPH;oBETH;oGIMEL;oDALETH-RESH;oHE;
oWAW;oZAYN;oHETH;oTETH;oYODH;oKAPH;oLAMEDH;oMEM;oNUN;oSAMEKH;oAYN;oPE;oSADHE;oQOPH;108F4:oSHIN;
oTAW;108FB:hNUMBER ONE;oFIVE;oTEN;pWENTY;oONE HUNDRED;aPHOENICIAN LETTER ALF;sBET;sGAML;sDELT;sHE;
sWAU;sZAI;sHET;sTET;sYOD;sKAF;sLAMD;sMEM;sNUN;sSEMK;sAIN;sPE;sSADE;sQOF;sROSH;sSHIN;sTAU;
lNUMBER ONE;sTEN;tWENTY;sONE HUNDRED;sTWO;tHREE;1091F:lWORD SEPARATOR;aLYDIAN LETTER A;oB;oG;oD;
oE;oV;oI;oY;oK;oL;oM;oN;oO;oR;oSS;oT;oU;oF;oQ;oS;oTT;oAN;oEN;oLY;oNN;oC;1093F:hTRIANGULAR MARK;
10980:aMEROITIC HIEROGLYPHIC LETTER A;zeE;zeI;zeO;zeYA;zeWA;zeBA;zg-2;zePA;zeMA;zeNA;zg-2;zfE;
zg-2;zeRA;zg-2;zeLA;zeKHA;zeHHA;zeSA;zg-2;zfE;zeKA;zeQA;zeTA;zg-2;zfE;zg-2;zfO;zeDA;wSYMBOL VIDJ;
zi-2;jCURSIVE LETTER A;yE;yI;yO;yYA;yWA;yBA;yPA;yMA;yNA;zE;yRA;yLA;yKHA;yHHA;ySA;yARCHAIC SA;ySE;
yKA;yQA;yTA;zE;zO;yDA;109BC:rFRACTION ELEVEN TWELFTHS;zbONE HALF;rLOGOGRAM RMT;zbIMN;rNUMBER ONE;
yTWO;zHREE;yFOUR;zIVE;ySIX;zEVEN;yEIGHT;yNINE;yTEN;zWENTY;zHIRTY;yFORTY;zIFTY;ySIXTY;zEVENTY;
109D2:yONE HUNDRED;yTWO HUNDRED;zHREE HUNDRED;yFOUR HUNDRED;zIVE HUNDRED;ySIX HUNDRED;
zEVEN HUNDRED;yEIGHT HUNDRED;yNINE HUNDRED;yONE THOUSAND;yTWO THOUSAND;zHREE THOUSAND;
yFOUR THOUSAND;zIVE THOUSAND;ySIX THOUSAND;zEVEN THOUSAND;yEIGHT THOUSAND;yNINE THOUSAND;
yTEN THOUSAND;zWENTY THOUSAND;zHIRTY THOUSAND;yFORTY THOUSAND;zIFTY THOUSAND;ySIXTY THOUSAND;
zEVENTY THOUSAND;yEIGHTY THOUSAND;yNINETY THOUSAND;yONE HUNDRED THOUSAND;yTWO HUNDRED THOUSAND;
zHREE HUNDRED THOUSAND;yFOUR HUNDRED THOUSAND;zIVE HUNDRED THOUSAND;ySIX HUNDRED THOUSAND;
zEVEN HUNDRED THOUSAND;yEIGHT HUNDRED THOUSAND;yNINE HUNDRED THOUSAND;rFRACTION ONE TWELFTH;
zbTWO TWELFTHS;zcHREE TWELFTHS;zbFOUR TWELFTHS;zcIVE TWELFTHS;zbSIX TWELFTHS;zcEVEN TWELFTHS;
zbEIGHT TWELFTHS;zbNINE TWELFTHS;zbTEN TWELFTHS;aKHAROSHTHI LETTER A;lVOWEL SIGN I;wU;wVOCALIC R;
10A05:wE;wO;10A0C:rLENGTH MARK;lSIGN DOUBLE RING BELOW;qANUSVARA;qVISARGA;lLETTER KA;tHA;sGA;tHA;
10A15:sCA;tHA;sJA;10A19:sNYA;sTTA;uHA;sDDA;uHA;sNNA;sTA;tHA;sDA;tHA;sNA;sPA;tHA;sBA;tHA;sMA;sYA;
sRA;sLA;sVA;sSHA;tSA;tA;sZA;sHA;sKKA;sTTTHA;vA;sVHA;10A38:lSIGN BAR ABOVE;qCAUDA;qDOT BELOW;
10A3F:lVIRAMA;lDIGIT ONE;rTWO;sHREE;rFOUR;lNUMBER TEN;tWENTY;sONE HUNDRED;wTHOUSAND;
lFRACTION ONE HALF;10A50:lPUNCTUATION DOT;xSMALL CIRCLE;xCIRCLE;yRESCENT BAR;xMANGALAM;xLOTUS;
xDANDA;yOUBLE DANDA;xLINES;10A60:aOLD SOUTH ARABIAN LETTER HE;zLAMEDH;zHETH;zMEM;zQOPH;zWAW;zSHIN;
zRESH;zBETH;zTAW;zSAT;zKAPH;zNUN;zKHETH;zSADHE;zcMEKH;zFE;zALEF;zbYN;zDHADHE;zGIMEL;zDALETH;
zGHAYN;zTETH;zZAYN;zDHALETH;zYODH;zTHAW;zcETH;sNUMBER ONE;zFIFTY;vERIC INDICATOR;
eNORTH ARABIAN LETTER HEH;zLAM;zHAH;zMEEM;zQAF;zWAW;zES-2;zREH;zBEH;zTEH;zES-1;zKAF;zNOON;zKHAH;
zSAD;zES-3;zFEH;zALEF;zbIN;zDAD;zGEEM;zDAL;zGHAIN;zTAH;zZAIN;zTHAL;zYEH;zTHEH;zZAH;sNUMBER ONE;
zTEN;zbWENTY;10AC0:aMANICHAEAN LETTER ALEPH;sBETH;tHETH;sGIMEL;tHIMEL;sDALETH;sHE;sWAW;lSIGN UD;
lLETTER ZAYIN;tHAYIN;sJAYIN;tHAYIN;sHETH;sTETH;sYODH;sKAPH;sXAPH;sKHAPH;sLAMEDH;sDHAMEDH;sTHAMEDH;
sMEM;sNUN;sSAMEKH;sAYIN;tAYIN;sPE;sFE;sSADHE;sQOPH;sXOPH;sQHOPH;sRESH;sSHIN;tSHIN;sTAW;
lABBREVIATION MARK ABOVE;zeBELOW;10AEB:lNUMBER ONE;sFIVE;sTEN;tWENTY;sONE HUNDRED;
lPUNCTUATION STAR;xFLEURON;xDOUBLE DOT WITHIN DOT;zT WITHIN DOT;zb;xTWO DOTS;xLINE FILLER;
10B00:aAVESTAN LETTER A;qA;qO;qAO;qN;qAN;qE;rE;pE;qE;pO;qO;pI;qI;pU;qU;pKE;pXE;qYE;qVE;pGE;qGE;
qHE;pCE;pJE;pTE;qHE;pDE;qHE;pTTE;pPE;pFE;pBE;qHE;pNGE;rYE;rVE;qE;qYE;qNE;pME;pHME;pYYE;qE;pVE;pRE;
pLE;pSE;pZE;pSHE;pZHE;pSHYE;qSHE;pHE;10B39:iABBREVIATION MARK;aTINY TWO DOTS OVER ONE DOT PUNCTUAT
ION;aSMALL TWO DOTS OVER ONE DOT PUNCTUATION;aLARGE TWO DOTS OVER ONE DOT PUNCTUATION;
gONE DOT OVER TWO DOTS PUNCTUATION;gTWO RINGS OVER ONE RING PUNCTUATION;gONE RING OVER TWO RINGS P
UNCTUATION;aINSCRIPTIONAL PARTHIAN LETTER ALEPH;zfBETH;zfGIMEL;zfDALETH;zfHE;zfWAW;zfZAYIN;zfHETH;
zfTETH;zfYODH;zfKAPH;zfLAMEDH;zfMEM;zfNUN;zfSAMEKH;zfAYIN;zfPE;zfSADHE;zfQOPH;zfRESH;zfSHIN;zfTAW;
10B58:xNUMBER ONE;zfTWO;zgHREE;zfFOUR;zfTEN;zgWENTY;zfONE HUNDRED;zjTHOUSAND;qHLAVI LETTER ALEPH;
zeBETH;zeGIMEL;zeDALETH;zeHE;zeWAW-AYIN-RESH;zeZAYIN;zeHETH;zeTETH;zeYODH;zeKAPH;zeLAMEDH;
zeMEM-QOPH;zeNUN;zeSAMEKH;zePE;zeSADHE;zfHIN;zeTAW;10B78:wNUMBER ONE;zeTWO;zfHREE;zeFOUR;zeTEN;
zfWENTY;zeONE HUNDRED;ziTHOUSAND;aPSALTER PAHLAVI LETTER ALEPH;xBETH;xGIMEL;xDALETH;xHE;
xWAW-AYIN-RESH;xZAYIN;xHETH;xYODH;xKAPH;xLAMEDH;xMEM-QOPH;xNUN;xSAMEKH;xPE;xSADHE;yHIN;xTAW;
10B99:qSECTION MARK;qTURNED SECTION MARK;qFOUR DOTS WITH CROSS;zgDOT;10BA9:qNUMBER ONE;xTWO;yHREE;
xFOUR;xTEN;yWENTY;xONE HUNDRED;10C00:aOLD TURKIC LETTER ORKHON A;sYENISEI A;zcE;sORKHON I;
sYENISEI I;zbE;sORKHON O;zbE;sYENISEI OE;sORKHON AB;sYENISEI AB;sORKHON AEB;sYENISEI AEB;
sORKHON AG;sYENISEI AG;sORKHON AEG;sYENISEI AEG;sORKHON AD;sYENISEI AD;sORKHON AED;zEZ;
sYENISEI EZ;sORKHON AY;sYENISEI AY;sORKHON AEY;sYENISEI AEY;sORKHON AEK;sYENISEI AEK;sORKHON OEK;
sYENISEI OEK;sORKHON AL;sYENISEI AL;sORKHON AEL;zELT;zbM;zAN;zbEN;sYENISEI AEN;sORKHON ENT;
sYENISEI ENT;sORKHON ENC;sYENISEI ENC;sORKHON ENY;sYENISEI ENY;zbANG;sORKHON ENG;sYENISEI AENG;
sORKHON EP;zOP;zIC;zEC;sYENISEI EC;sORKHON AQ;sYENISEI AQ;sORKHON IQ;sYENISEI IQ;sORKHON OQ;
sYENISEI OQ;sORKHON AR;sYENISEI AR;sORKHON AER;zbS;zbES;zbSH;sYENISEI ASH;sORKHON ESH;
sYENISEI ESH;sORKHON AT;sYENISEI AT;sORKHON AET;sYENISEI AET;sORKHON OT;zBASH;
10C80:eHUNGARIAN CAPITAL LETTER A;zfA;zeEB;zeAMB;zeEC;zfNC;zfCS;zfD;zeAND;zeE;zeCLOSE E;zeEE;zfF;
zfG;zgY;zfH;zeI;zfI;zeEJ;zfK;zeAK;zeUNK;zeEL;zgY;zfM;zfN;zgY;zeO;zfO;zeNIKOLSBURG OE;
zeRUDIMENTA OE;zeOEE;zeEP;zfMP;zfR;zeSHORT ER;zeES;zgZ;zfT;zfNT;zfTY;zfCH;zeU;zfU;zeNIKOLSBURG UE;
zeRUDIMENTA UE;zeEV;zfZ;zgS;zfNT-SHAPED SIGN;zeUS;10CC0:oSMALL LETTER A;zdA;zcEB;zcAMB;zcEC;zdNC;
zdCS;zdD;zcAND;zcE;zcCLOSE E;zcEE;zdF;zdG;zeY;zdH;zcI;zdI;zcEJ;zdK;zcAK;zcUNK;zcEL;zeY;zdM;zdN;
zeY;zcO;zdO;zcNIKOLSBURG OE;zcRUDIMENTA OE;zcOEE;zcEP;zdMP;zdR;zcSHORT ER;zcES;zeZ;zdT;zdNT;zdTY;
zdCH;zcU;zdU;zcNIKOLSBURG UE;zcRUDIMENTA UE;zcEV;zdZ;zeS;zdNT-SHAPED SIGN;zcUS;10CFA:oNUMBER ONE;
vFIVE;vTEN;vFIFTY;vONE HUNDRED;zTHOUSAND;aHANIFI ROHINGYA LETTER A;xBA;xPA;xTA;yTA;xJA;xCA;xHA;
xKHA;xFA;xDA;yDA;xRA;yRA;xZA;xSA;yHA;xKA;xGA;xLA;xMA;xNA;xWA;xKINNA WA;xYA;xKINNA YA;xNGA;yYA;xVA;
qVOWEL A;wI;wU;wE;wO;qMARK SAKIN;vNA KHONNA;qSIGN HARBAHAY;vTAHALA;xNA;xSSI;10D30:qDIGIT ZERO;
wONE;wTWO;xHREE;wFOUR;xIVE;wSIX;xEVEN;wEIGHT;wNINE;10E60:aRUMI DIGIT ONE;lTWO;mHREE;lFOUR;mIVE;
lSIX;mEVEN;lEIGHT;lNINE;fNUMBER TEN;nWENTY;nHIRTY;mFORTY;nIFTY;mSIXTY;nEVENTY;mEIGHTY;mNINETY;
mONE HUNDRED;mTWO HUNDRED;nHREE HUNDRED;mFOUR HUNDRED;nIVE HUNDRED;mSIX HUNDRED;nEVEN HUNDRED;
mEIGHT HUNDRED;mNINE HUNDRED;fFRACTION ONE HALF;sQUARTER;sTHIRD;oTWO THIRDS;
10E80:aYEZIDI LETTER ELIF;oBE;oPE;pHE;oTHE;oSE;oCIM;pHIM;qHIM;oHHA;oXA;oDAL;oZAL;oRA;pHA;oZA;oJA;
oSIN;pHIN;pAD;oDAD;oTA;oZE;oEYN;oXHEYN;oFA;oVA;q ALTERNATE FORM;oQAF;oKAF;pHAF;oGAF;oLAM;oMIM;
oNUN;oUM;oWAW;oOW;oEW;oHAY;oYOT;oET;10EAB:hCOMBINING HAMZA MARK;rMADDA MARK;hHYPHENATION MARK;
10EB0:hLETTER LAM WITH DOT ABOVE;oYOT WITH CIRCUMFLEX ABOVE;10F00:aOLD SOGDIAN LETTER ALEPH;
tFINAL ALEPH;tBETH;tFINAL BETH;tGIMEL;tHE;tFINAL HE;tWAW;tZAYIN;tHETH;tYODH;tKAPH;tLAMEDH;tMEM;
tNUN;tFINAL NUN;zd WITH VERTICAL TAIL;tSAMEKH;tAYIN;uLTERNATE AYIN;tPE;tSADHE;tFINAL SADHE;
zf WITH VERTICAL TAIL;tRESH-AYIN-DALETH;tSHIN;tTAW;tFINAL TAW;zd WITH VERTICAL TAIL;mNUMBER ONE;
tTWO;uHREE;tFOUR;uIVE;tTEN;uWENTY;uHIRTY;tONE HUNDRED;mFRACTION ONE HALF;mLIGATURE AYIN-DALETH;
10F30:aSOGDIAN LETTER ALEPH;pBETH;pGIMEL;pHE;pWAW;pZAYIN;pHETH;pYODH;pKAPH;pLAMEDH;pMEM;pNUN;
pSAMEKH;pAYIN;pPE;pSADHE;pRESH-AYIN;pSHIN;pTAW;pFETH;pLESH;iINDEPENDENT SHIN;iCOMBINING DOT BELOW;
sTWO DOTS BELOW;sDOT ABOVE;sTWO DOTS ABOVE;sCURVE ABOVE;yBELOW;sHOOK ABOVE;xBELOW;
sLONG HOOK BELOW;sRESH BELOW;sSTROKE BELOW;iNUMBER ONE;pTEN;qWENTY;pONE HUNDRED;
iPUNCTUATION TWO VERTICAL BARS;zm WITH DOTS;uCIRCLE WITH DOT;uTWO CIRCLES WITH DOTS;
uHALF CIRCLE WITH DOT;10F70:aOLD UYGHUR LETTER ALEPH;sBETH;sGIMEL-HETH;sWAW;sZAYIN;sFINAL HETH;
sYODH;sKAPH;sLAMEDH;sMEM;sNUN;sSAMEKH;sPE;sSADHE;sRESH;sSHIN;sTAW;sLESH;lCOMBINING DOT ABOVE;
zBELOW;vTWO DOTS ABOVE;zfBELOW;lPUNCTUATION BAR;xTWO BARS;zcDOTS;xFOUR DOTS;
10FB0:aCHORASMIAN LETTER ALEPH;sSMALL ALEPH;sBETH;sGIMEL;sDALETH;sHE;sWAW;sCURLED WAW;sZAYIN;
sHETH;sYODH;sKAPH;sLAMEDH;sMEM;sNUN;sSAMEKH;sAYIN;sPE;sRESH;sSHIN;sTAW;lNUMBER ONE;sTWO;tHREE;
sFOUR;sTEN;tWENTY;sONE HUNDRED;10FE0:aELYMAIC LETTER ALEPH;pBETH;pGIMEL;pDALETH;pHE;pWAW;pZAYIN;
pHETH;pTETH;pYODH;pKAPH;pLAMEDH;pMEM;pNUN;pSAMEKH;pAYIN;pPE;pSADHE;pQOPH;pRESH;pSHIN;pTAW;
jIGATURE ZAYIN-YODH;11000:aBRAHMI SIGN CANDRABINDU;mANUSVARA;mVISARGA;mJIHVAMULIYA;mUPADHMANIYA;
hLETTER A;pA;oI;pI;oU;pU;oVOCALIC R;xR;wL;xL;oE;oAI;oO;oAU;oKA;pHA;oGA;pHA;oNGA;oCA;pHA;oJA;pHA;
oNYA;oTTA;qHA;oDDA;qHA;oNNA;oTA;pHA;oDA;pHA;oNA;oPA;pHA;oBA;pHA;oMA;oYA;oRA;oLA;oVA;oSHA;pSA;pA;
oHA;oLLA;oOLD TAMIL LLLA;yRRA;yNNNA;hVOWEL SIGN AA;sBHATTIPROLU AA;sI;tI;sU;tU;sVOCALIC R;zcR;zbL;
zcL;sE;sAI;sO;sAU;iIRAMA;hDANDA;iOUBLE DANDA;hPUNCTUATION DOT;vUBLE DOT;tLINE;tCRESCENT BAR;
tLOTUS;11052:hNUMBER ONE;oTWO;pHREE;oFOUR;pIVE;oSIX;pEVEN;oEIGHT;oNINE;oTEN;pWENTY;pHIRTY;oFORTY;
pIFTY;oSIXTY;pEVENTY;oEIGHTY;oNINETY;oONE HUNDRED;sTHOUSAND;hDIGIT ZERO;nONE;nTWO;oHREE;nFOUR;
oIVE;nSIX;oEVEN;nEIGHT;nNINE;hSIGN OLD TAMIL VIRAMA;hLETTER OLD TAMIL SHORT E;zfO;
hVOWEL SIGN OLD TAMIL SHORT E;zjO;hLETTER OLD TAMIL LLA;1107F:hNUMBER JOINER;
aKAITHI SIGN CANDRABINDU;mANUSVARA;mVISARGA;hLETTER A;pA;oI;pI;oU;pU;oE;oAI;oO;oAU;oKA;pHA;oGA;
pHA;oNGA;oCA;pHA;oJA;pHA;oNYA;oTTA;qHA;oDDA;qDHA;qHA;oRHA;oNNA;oTA;pHA;oDA;pHA;oNA;oPA;pHA;oBA;
pHA;oMA;oYA;oRA;oLA;oVA;oSHA;pSA;pA;oHA;hVOWEL SIGN AA;sI;tI;sU;tU;sE;sAI;sO;sAU;hSIGN VIRAMA;
mNUKTA;hABBREVIATION SIGN;hENUMERATION SIGN;hNUMBER SIGN;hSECTION MARK;hDOUBLE SECTION MARK;iANDA;
iOUBLE DANDA;hVOWEL SIGN VOCALIC R;110CD:hNUMBER SIGN ABOVE;110D0:aSORA SOMPENG LETTER SAH;uTAH;
uBAH;uCAH;uDAH;uGAH;uMAH;uNGAH;uLAH;uNAH;uVAH;uPAH;uYAH;uRAH;uHAH;uKAH;uJAH;uNYAH;uAH;uEEH;uIH;
uUH;uOH;uEH;uMAE;110F0:nDIGIT ZERO;tONE;tTWO;uHREE;tFOUR;uIVE;tSIX;uEVEN;tEIGHT;tNINE;
11100:aCHAKMA SIGN CANDRABINDU;mANUSVARA;mVISARGA;hLETTER AA;oI;oU;oE;oKAA;pHAA;oGAA;pHAA;oNGAA;
oCAA;pHAA;oJAA;pHAA;oNYAA;oTTAA;qHAA;oDDAA;qHAA;oNNAA;oTAA;pHAA;oDAA;pHAA;oNAA;oPAA;pHAA;oBAA;
pHAA;oMAA;oYYAA;pAA;oRAA;oLAA;oWAA;oSAA;oHAA;hVOWEL SIGN A;sI;tI;sU;tU;sE;sAI;sO;sAU;sOI;hO MARK;
hAU MARK;hVIRAMA;hMAAYYAA;11136:hDIGIT ZERO;nONE;nTWO;oHREE;nFOUR;oIVE;nSIX;oEVEN;nEIGHT;nNINE;
hSECTION MARK;hDANDA;iOUBLE DANDA;hQUESTION MARK;hLETTER LHAA;hVOWEL SIGN AA;sEI;hLETTER VAA;
11150:aMAHAJANI LETTER A;qI;qU;qE;qO;qKA;rHA;qGA;rHA;qCA;rHA;qJA;rHA;qNYA;qTTA;sHA;qDDA;sHA;qNNA;
qTA;rHA;qDA;rHA;qNA;qPA;rHA;qBA;rHA;qMA;qRA;qLA;qVA;qSA;qHA;qRRA;jSIGN NUKTA;jABBREVIATION SIGN;
jSECTION MARK;jLIGATURE SHRI;11180:aSHARADA SIGN CANDRABINDU;nANUSVARA;nVISARGA;iLETTER A;qA;pI;
qI;pU;qU;pVOCALIC R;yR;xL;yL;pE;pAI;pO;pAU;pKA;qHA;pGA;qHA;pNGA;pCA;qHA;pJA;qHA;pNYA;pTTA;rHA;
pDDA;rHA;pNNA;pTA;qHA;pDA;qHA;pNA;pPA;qHA;pBA;qHA;pMA;pYA;pRA;pLA;qLA;pVA;pSHA;qSA;qA;pHA;
iVOWEL SIGN AA;tI;uI;tU;uU;tVOCALIC R;zdR;zcL;zdL;tE;tAI;tO;tAU;iSIGN VIRAMA;nAVAGRAHA;
nJIHVAMULIYA;nUPADHMANIYA;iOM;iDANDA;jOUBLE DANDA;iABBREVIATION SIGN;iSEPARATOR;jANDHI MARK;
jIGN NUKTA;iVOWEL MODIFIER MARK;iEXTRA SHORT VOWEL MARK;iSUTRA MARK;iVOWEL SIGN PRISHTHAMATRA E;
iSIGN INVERTED CANDRABINDU;iDIGIT ZERO;oONE;oTWO;pHREE;oFOUR;pIVE;oSIX;pEVEN;oEIGHT;oNINE;iEKAM;
iSIGN SIDDHAM;iHEADSTROKE;iCONTINUATION SIGN;iSECTION MARK-1;v2;111E1:bINHALA ARCHAIC DIGIT ONE;
wTWO;xHREE;wFOUR;xIVE;wSIX;xEVEN;wEIGHT;wNINE;qNUMBER TEN;yWENTY;yHIRTY;xFORTY;yIFTY;xSIXTY;
yEVENTY;xEIGHTY;xNINETY;xONE HUNDRED;zcTHOUSAND;11200:aKHOJKI LETTER A;pA;oI;oU;oE;oAI;oO;oAU;oKA;
pHA;oGA;pGA;pHA;oNGA;oCA;pHA;oJA;pJA;11213:oNYA;oTTA;qHA;oDDA;qHA;oNNA;oTA;pHA;oDA;pDDA;pHA;oNA;
oPA;pHA;oBA;pBA;pHA;oMA;oYA;oRA;oLA;oVA;oSA;oHA;oLLA;hVOWEL SIGN AA;sI;tI;sU;sE;sAI;sO;sAU;
hSIGN ANUSVARA;mVIRAMA;mNUKTA;mSHADDA;hDANDA;iOUBLE DANDA;hWORD SEPARATOR;hSECTION MARK;
hDOUBLE SECTION MARK;hABBREVIATION SIGN;hSIGN SUKUN;11280:aMULTANI LETTER A;pI;pU;pE;pKA;qHA;pGA;
11288:qHA;1128A:pCA;qHA;pJA;qJA;1128F:pNYA;pTTA;rHA;pDDA;rDA;rHA;pNNA;pTA;qHA;pDA;qHA;pNA;pPA;qHA;
pBA;1129F:qHA;pMA;pYA;pRA;pLA;pVA;pSA;pHA;pRRA;qHA;iSECTION MARK;112B0:aKHUDAWADI LETTER A;sA;rI;
sI;rU;sU;rE;rAI;rO;rAU;rKA;sHA;rGA;sGA;sHA;rNGA;rCA;sHA;rJA;sJA;sHA;rNYA;rTTA;tHA;rDDA;tDA;rRRA;
rDDHA;rNNA;rTA;sHA;rDA;sHA;rNA;rPA;sHA;rBA;sBA;sHA;rMA;rYA;rRA;rLA;rVA;rSHA;sA;rHA;kSIGN ANUSVARA;
kVOWEL SIGN AA;vI;wI;vU;wU;vE;vAI;vO;vAU;kSIGN NUKTA;pVIRAMA;112F0:kDIGIT ZERO;qONE;qTWO;rHREE;
qFOUR;rIVE;qSIX;rEVEN;qEIGHT;qNINE;11300:aGRANTHA SIGN COMBINING ANUSVARA ABOVE;oANDRABINDU;
nANUSVARA;nVISARGA;11305:iLETTER A;qA;pI;qI;pU;qU;pVOCALIC R;xL;1130F:pEE;pAI;11313:pOO;pAU;pKA;
qHA;pGA;qHA;pNGA;pCA;qHA;pJA;qHA;pNYA;pTTA;rHA;pDDA;rHA;pNNA;pTA;qHA;pDA;qHA;pNA;1132A:pPA;qHA;
pBA;qHA;pMA;pYA;pRA;11332:pLA;qLA;11335:pVA;pSHA;qSA;qA;pHA;1133B:aCOMBINING BINDU BELOW;
aGRANTHA SIGN NUKTA;nAVAGRAHA;iVOWEL SIGN AA;tI;uI;tU;uU;tVOCALIC R;zdR;11347:tEE;tAI;1134B:tOO;
tAU;iSIGN VIRAMA;11350:iOM;11357:iAU LENGTH MARK;1135D:iSIGN PLUTA;iLETTER VEDIC ANUSVARA;
vDOUBLE ANUSVARA;qOCALIC RR;xLL;iVOWEL SIGN VOCALIC L;zdL;11366:aCOMBINING GRANTHA DIGIT ZERO;
yONE;yTWO;zHREE;yFOUR;zIVE;ySIX;11370:sLETTER A;zKA;zNA;zVI;zPA;11400:aNEWA LETTER A;nA;mI;nI;mU;
nU;mVOCALIC R;vR;uL;vL;mE;mAI;mO;mAU;mKA;nHA;mGA;nHA;mNGA;oHA;mCA;nHA;mJA;nHA;mNYA;oHA;mTTA;oHA;
mDDA;oHA;mNNA;mTA;nHA;mDA;nHA;mNA;nHA;mPA;nHA;mBA;nHA;mMA;nHA;mYA;mRA;nHA;mLA;nHA;mWA;mSHA;nSA;nA;
mHA;fVOWEL SIGN AA;qI;rI;qU;rU;qVOCALIC R;zR;yL;zL;qE;qAI;qO;qAU;fSIGN VIRAMA;kCANDRABINDU;
kANUSVARA;kVISARGA;kNUKTA;kAVAGRAHA;kFINAL ANUSVARA;fOM;fSIDDHI;fDANDA;gOUBLE DANDA;fCOMMA;
fGAP FILLER;fABBREVIATION SIGN;fDIGIT ZERO;lONE;lTWO;mHREE;lFOUR;mIVE;lSIX;mEVEN;lEIGHT;lNINE;
gOUBLE COMMA;fPLACEHOLDER MARK;1145D:fINSERTION SIGN;fSANDHI MARK;fLETTER VEDIC ANUSVARA;
fSIGN JIHVAMULIYA;kUPADHMANIYA;11480:aTIRHUTA ANJI;iLETTER A;qA;pI;qI;pU;qU;pVOCALIC R;yR;xL;yL;
pE;pAI;pO;pAU;pKA;qHA;pGA;qHA;pNGA;pCA;qHA;pJA;qHA;pNYA;pTTA;rHA;pDDA;rHA;pNNA;pTA;qHA;pDA;qHA;
pNA;pPA;qHA;pBA;qHA;pMA;pYA;pRA;pLA;pVA;pSHA;qSA;qA;pHA;iVOWEL SIGN AA;tI;uI;tU;uU;tVOCALIC R;zdR;
zcL;zdL;tE;tSHORT E;tAI;tO;tSHORT O;tAU;iSIGN CANDRABINDU;nANUSVARA;nVISARGA;pRAMA;nNUKTA;
nAVAGRAHA;iGVANG;iABBREVIATION SIGN;iOM;114D0:iDIGIT ZERO;oONE;oTWO;pHREE;oFOUR;pIVE;oSIX;pEVEN;
oEIGHT;oNINE;11580:aSIDDHAM LETTER A;qA;pI;qI;pU;qU;pVOCALIC R;yR;xL;yL;pE;pAI;pO;pAU;pKA;qHA;pGA;
qHA;pNGA;pCA;qHA;pJA;qHA;pNYA;pTTA;rHA;pDDA;rHA;pNNA;pTA;qHA;pDA;qHA;pNA;pPA;qHA;pBA;qHA;pMA;pYA;
pRA;pLA;pVA;pSHA;qSA;qA;pHA;iVOWEL SIGN AA;tI;uI;tU;uU;tVOCALIC R;zdR;115B8:tE;tAI;tO;tAU;
iSIGN CANDRABINDU;nANUSVARA;nVISARGA;pRAMA;nNUKTA;nSIDDHAM;iDANDA;jOUBLE DANDA;iSEPARATOR DOT;
sBAR;iREPETITION MARK-1;y2;y3;iEND OF TEXT MARK;iSECTION MARK WITH TRIDENT AND U-SHAPED ORNAMENTS;
znDOTTED CRESCENTS;zbRAYS AND DOTTED CRESCENTS;zrDOUBLE CRESCENTS;zrTRIPLE CRESCENTS;vDOUBLE RING;
zh WITH RAYS;vWITH DOUBLE CRESCENTS;zbTRIPLE CRESCENTS;zbQUADRUPLE CRESCENTS;zbSEPTUPLE CRESCENTS;
zbCIRCLES AND RAYS;znTWO ENCLOSURES;znFOUR ENCLOSURES;iLETTER THREE-CIRCLE ALTERNATE I;
qWO-CIRCLE ALTERNATE I;zmI;pALTERNATE U;iVOWEL SIGN ALTERNATE U;zfU;11600:aMODI LETTER A;nA;mI;nI;
mU;nU;mVOCALIC R;vR;uL;vL;mE;mAI;mO;mAU;mKA;nHA;mGA;nHA;mNGA;mCA;nHA;mJA;nHA;mNYA;mTTA;oHA;mDDA;
oHA;mNNA;mTA;nHA;mDA;nHA;mNA;mPA;nHA;mBA;nHA;mMA;mYA;mRA;mLA;mVA;mSHA;nSA;nA;mHA;mLLA;
fVOWEL SIGN AA;qI;rI;qU;rU;qVOCALIC R;zR;yL;zL;qE;qAI;qO;qAU;fSIGN ANUSVARA;kVISARGA;mRAMA;
kARDHACANDRA;fDANDA;gOUBLE DANDA;fABBREVIATION SIGN;fSIGN HUVA;11650:fDIGIT ZERO;lONE;lTWO;mHREE;
lFOUR;mIVE;lSIX;mEVEN;lEIGHT;lNINE;11660:cNGOLIAN BIRGA WITH ORNAMENT;kROTATED BIRGA;
kDOUBLE BIRGA WITH ORNAMENT;kTRIPLE BIRGA WITH ORNAMENT;kBIRGA WITH DOUBLE ORNAMENT;
kROTATED BIRGA WITH ORNAMENT;zeDOUBLE ORNAMENT;kINVERTED BIRGA;y WITH DOUBLE ORNAMENT;
kSWIRL BIRGA;v WITH ORNAMENT;zcDOUBLE ORNAMENT;kTURNED SWIRL BIRGA WITH DOUBLE ORNAMENT;
11680:aTAKRI LETTER A;oA;nI;oI;nU;oU;nE;nAI;nO;nAU;nKA;oHA;nGA;oHA;nNGA;nCA;oHA;nJA;oHA;nNYA;nTTA;
pHA;nDDA;pHA;nNNA;nTA;oHA;nDA;oHA;nNA;nPA;oHA;nBA;oHA;nMA;nYA;nRA;nLA;nVA;nSHA;oA;nHA;nRRA;
gSIGN ANUSVARA;lVISARGA;gVOWEL SIGN AA;rI;sI;rU;sU;rE;rAI;rO;rAU;gSIGN VIRAMA;lNUKTA;
gLETTER ARCHAIC KHA;gABBREVIATION SIGN;116C0:gDIGIT ZERO;mONE;mTWO;nHREE;mFOUR;nIVE;mSIX;nEVEN;
mEIGHT;mNINE;11700:aAHOM LETTER KA;nHA;mNGA;nA;mTA;mALTERNATE TA;mPA;nHA;mBA;mMA;mJA;mCHA;mTHA;
mRA;mLA;mSA;mNYA;mHA;mA;mDA;nHA;mGA;mALTERNATE GA;mGHA;mBHA;mJHA;mALTERNATE BA;
1171D:fCONSONANT SIGN MEDIAL LA;zcRA;zcLIGATING RA;fVOWEL SIGN A;rA;qI;rI;qU;rU;qE;qAW;qO;qAI;rM;
fSIGN KILLER;11730:fDIGIT ZERO;lONE;lTWO;mHREE;lFOUR;mIVE;lSIX;mEVEN;lEIGHT;lNINE;fNUMBER TEN;
nWENTY;fSIGN SMALL SECTION;lECTION;kRULAI;gYMBOL VI;fLETTER CA;mTTA;oHA;mDDA;oHA;mNNA;mLLA;
11800:aDOGRA LETTER A;oA;nI;oI;nU;oU;nE;nAI;nO;nAU;nKA;oHA;nGA;oHA;nNGA;nCA;oHA;nJA;oHA;nNYA;nTTA;
pHA;nDDA;pHA;nNNA;nTA;oHA;nDA;oHA;nNA;nPA;oHA;nBA;oHA;nMA;nYA;nRA;nLA;nVA;nSHA;oSA;oA;nHA;nRRA;
gVOWEL SIGN AA;rI;sI;rU;sU;rVOCALIC R;zbR;rE;rAI;rO;rAU;gSIGN ANUSVARA;lVISARGA;nRAMA;lNUKTA;
gABBREVIATION SIGN;118A0:aWARANG CITI CAPITAL LETTER NGAA;zcA;zcWI;zcYU;zdA;zdO;zcII;zcUU;zcE;zcO;
zcANG;zcGA;zcKO;zcENY;zcYUJ;zcUC;zcENN;zcODD;zcTTE;zcNUNG;zcDA;zcAT;zdM;zcBU;zcPU;zcHIYO;zdOLO;
zeRR;zdAR;zcSSUU;zdII;zcVIYO;mSMALL LETTER NGAA;zA;zWI;zYU;zbA;zbO;zII;zUU;zE;zO;zANG;zGA;zKO;
zENY;zYUJ;zUC;zENN;zODD;zTTE;zNUNG;zDA;zAT;zbM;zBU;zPU;zHIYO;zbOLO;zcRR;zbAR;zSSUU;zbII;zVIYO;
mDIGIT ZERO;sONE;sTWO;tHREE;sFOUR;tIVE;sSIX;tEVEN;sEIGHT;sNINE;mNUMBER TEN;uWENTY;uHIRTY;tFORTY;
uIFTY;tSIXTY;uEVENTY;tEIGHTY;tNINETY;118FF:mOM;aDIVES AKURU LETTER A;uA;tI;uI;tU;uU;tE;11909:tO;
1190C:tKA;uHA;tGA;uHA;tNGA;tCA;uHA;tJA;11915:tNYA;tTTA;11918:tDDA;vHA;tNNA;tTA;uHA;tDA;uHA;tNA;
tPA;uHA;tBA;uHA;tMA;tYA;uYA;tRA;tLA;tVA;tSHA;uSA;uA;tHA;tLLA;tZA;mVOWEL SIGN AA;xI;yI;xU;yU;xE;
11937:xAI;xO;1193B:mSIGN ANUSVARA;rCANDRABINDU;rHALANTA;mVIRAMA;mPREFIXED NASAL SIGN;mMEDIAL YA;
mINITIAL RA;mMEDIAL RA;mSIGN NUKTA;mDOUBLE DANDA;mGAP FILLER;mEND OF TEXT MARK;11950:mDIGIT ZERO;
sONE;sTWO;tHREE;sFOUR;tIVE;sSIX;tEVEN;sEIGHT;sNINE;119A0:aNANDINAGARI LETTER A;uA;tI;uI;tU;uU;
tVOCALIC R;zdR;119AA:tE;tAI;tO;tAU;tKA;uHA;tGA;uHA;tNGA;tCA;uHA;tJA;uHA;tNYA;tTTA;vHA;tDDA;vHA;
tNNA;tTA;uHA;tDA;uHA;tNA;tPA;uHA;tBA;uHA;tMA;tYA;tRA;tLA;tVA;tSHA;uSA;uA;tHA;tLLA;tRRA;
mVOWEL SIGN AA;xI;yI;xU;yU;xVOCALIC R;zhR;119DA:xE;xAI;xO;xAU;mSIGN ANUSVARA;rVISARGA;tRAMA;
rAVAGRAHA;rSIDDHAM;mHEADSTROKE;mVOWEL SIGN PRISHTHAMATRA E;11A00:aZANABAZAR SQUARE LETTER A;
rVOWEL SIGN I;zdUE;ze;zdE;zdOE;ze;zdAI;zeU;zdREVERSED I;xLENGTH MARK;rLETTER KA;zHA;yGA;zHA;yNGA;
yCA;zHA;yJA;yNYA;yTTA;zbHA;yDDA;zbHA;yNNA;yTA;zHA;yDA;zHA;yNA;yPA;zHA;yBA;zHA;yMA;yTSA;zbHA;yDZA;
zbHA;yZHA;zA;y-A;yYA;yRA;yLA;yVA;ySHA;zSA;zA;yHA;yKSSA;rFINAL CONSONANT MARK;rSIGN VIRAMA;
wCANDRABINDU;zi WITH ORNAMENT;zd WITH ORNAMENT;wANUSVARA;wVISARGA;rCLUSTER-INITIAL LETTER RA;
zFINAL LETTER YA;znRA;znLA;znVA;rINITIAL HEAD MARK;rCLOSING HEAD MARK;rMARK TSHEG;wSHAD;
wDOUBLE SHAD;wLONG TSHEG;rINITIAL DOUBLE-LINED HEAD MARK;rCLOSING DOUBLE-LINED HEAD MARK;
rSUBJOINER;11A50:aSOYOMBO LETTER A;iVOWEL SIGN I;tUE;u;tE;tO;uE;tAI;uU;tVOCALIC R;zcL;
oLENGTH MARK;iLETTER KA;qHA;pGA;qHA;pNGA;pCA;qHA;pJA;qHA;pNYA;pTTA;rHA;pDDA;rHA;pNNA;pTA;qHA;pDA;
qHA;pNA;pPA;qHA;pBA;qHA;pMA;pTSA;rHA;pDZA;pZHA;qA;p-A;pYA;pRA;pLA;pVA;pSHA;qSA;qA;pHA;pKSSA;
iSIGN JIHVAMULIYA;nUPADHMANIYA;iCLUSTER-INITIAL LETTER RA;zgLA;zgSHA;zhA;iFINAL CONSONANT SIGN G;
zeK;zeNG;zeD;zeN;zeB;zeM;zeR;zeL;zeSH;zf;ze-A;iSIGN ANUSVARA;nVISARGA;iGEMINATION MARK;iSUBJOINER;
iMARK TSHEG;nSHAD;nDOUBLE SHAD;nPLUTA;iHEAD MARK WITH MOON AND SUN AND TRIPLE FLAME;zpFLAME;zk;
iTERMINAL MARK-1;w2;11AB0:aCANADIAN SYLLABICS NATTILIK HI;zfI;zeO;zfO;zeA;zfA;zdSHRI;zhI;zgO;zhO;
zgA;zhA;tSPE;vI;vO;vA;aPAU CIN HAU LETTER PA;tKA;tLA;tMA;tDA;tZA;tVA;tNGA;tHA;tGA;tKHA;tSA;tBA;
tCA;tTA;uHA;tNA;tPHA;tRA;tFA;tCHA;tA;tE;tI;tO;tU;uA;tIA;tFINAL P;zK;zT;zM;zN;zL;zW;zNG;zY;
mRISING TONE LONG;x;mSANDHI GLOTTAL STOP;mRISING TONE LONG FINAL;yFINAL;mSANDHI GLOTTAL STOP FINAL
;tTONE LONG;x;x LONG FINAL;yFINAL;mMID-LEVEL TONE;mGLOTTAL STOP VARIANT;mMID-LEVEL TONE LONG FINAL
;zcFINAL;mLOW-FALLING TONE LONG;zd;mGLOTTAL STOP;mLOW-FALLING TONE LONG FINAL;zeFINAL;
mGLOTTAL STOP FINAL;11C00:aBHAIKSUKI LETTER A;sA;rI;sI;rU;sU;rVOCALIC R;zbR;zL;11C0A:rE;rAI;rO;
rAU;rKA;sHA;rGA;sHA;rNGA;rCA;sHA;rJA;sHA;rNYA;rTTA;tHA;rDDA;tHA;rNNA;rTA;sHA;rDA;sHA;rNA;rPA;sHA;
rBA;sHA;rMA;rYA;rRA;rLA;rVA;rSHA;sSA;sA;rHA;kVOWEL SIGN AA;vI;wI;vU;wU;vVOCALIC R;zfR;zeL;
11C38:vE;vAI;vO;vAU;kSIGN CANDRABINDU;pANUSVARA;pVISARGA;rRAMA;pAVAGRAHA;kDANDA;lOUBLE DANDA;
kWORD SEPARATOR;kGAP FILLER-1;v2;11C50:kDIGIT ZERO;qONE;qTWO;rHREE;qFOUR;rIVE;qSIX;rEVEN;qEIGHT;
qNINE;kNUMBER ONE;rTWO;sHREE;rFOUR;sIVE;rSIX;sEVEN;rEIGHT;rNINE;rTEN;sWENTY;sHIRTY;rFORTY;sIFTY;
rSIXTY;sEVENTY;rEIGHTY;rNINETY;kHUNDREDS UNIT MARK;11C70:aMARCHEN HEAD MARK;iMARK SHAD;iLETTER KA;
qHA;pGA;pNGA;pCA;qHA;pJA;pNYA;pTA;qHA;pDA;pNA;pPA;qHA;pBA;pMA;pTSA;rHA;pDZA;pWA;pZHA;qA;p-A;pYA;
pRA;pLA;pSHA;qA;pHA;pA;11C92:iSUBJOINED LETTER KA;zbHA;zGA;zNGA;zCA;zbHA;zJA;zNYA;zTA;zbHA;zDA;
zNA;zPA;zbHA;zBA;zMA;zTSA;zcHA;zDZA;zWA;zZHA;zbA;11CA9:zYA;zRA;zLA;zSHA;zbA;zHA;zA;iVOWEL SIGN AA;
tI;tU;tE;tO;iSIGN ANUSVARA;nCANDRABINDU;11D00:cSARAM GONDI LETTER A;wA;vI;wI;vU;wU;vE;11D08:vAI;
vO;11D0B:vAU;vKA;wHA;vGA;wHA;vNGA;vCA;wHA;vJA;wHA;vNYA;vTTA;xHA;vDDA;xHA;vNNA;vTA;wHA;vDA;wHA;vNA;
vPA;wHA;vBA;wHA;vMA;vYA;vRA;vLA;vVA;vSHA;wSA;wA;vHA;vLLA;vKSSA;vJNYA;vTRA;oVOWEL SIGN AA;zI;zbI;
zU;zbU;zVOCALIC R;11D3A:zE;11D3C:zAI;zO;11D3F:zAU;oSIGN ANUSVARA;tVISARGA;tNUKTA;tCANDRA;tHALANTA;
oVIRAMA;oREPHA;pA-KARA;11D50:oDIGIT ZERO;uONE;uTWO;vHREE;uFOUR;vIVE;uSIX;vEVEN;uEIGHT;uNINE;
11D60:aGUNJALA GONDI LETTER A;wA;vI;wI;vU;wU;11D67:vEE;vAI;11D6A:vOO;vAU;vYA;vVA;vBA;wHA;vMA;vKA;
wHA;vTA;wHA;vLA;vGA;wHA;vDA;wHA;vNA;vCA;wHA;vTTA;xHA;vLLA;vJA;wHA;vDDA;xHA;vNGA;vPA;wHA;vHA;vRA;
vSA;oVOWEL SIGN AA;zI;zbI;zU;zbU;11D90:zEE;zAI;11D93:zOO;zAU;oSIGN ANUSVARA;tVISARGA;oVIRAMA;oOM;
11DA0:oDIGIT ZERO;uONE;uTWO;vHREE;uFOUR;vIVE;uSIX;vEVEN;uEIGHT;uNINE;11EE0:aMAKASAR LETTER KA;pGA;
pNGA;pPA;pBA;pMA;pTA;pDA;pNA;pCA;pJA;pNYA;pYA;pRA;pLA;pVA;pSA;pA;iANGKA;iVOWEL SIGN I;tU;tE;tO;
iPASSIMBANG;iEND OF SECTION;11FB0:aLISU LETTER YHA;11FC0:aTAMIL FRACTION ONE THREE-HUNDRED-AND-TWE
NTIETH;tONE-HUNDRED-AND-SIXTIETH;tEIGHTIETH;tSIXTY-FOURTH;tFORTIETH;tTHIRTY-SECOND;
pTHREE EIGHTIETHS;vSIXTY-FOURTHS;pONE TWENTIETH;tSIXTEENTH-1;ze2;tTENTH;tEIGHTH;pTHREE TWENTIETHS;
vSIXTEENTHS;pONE FIFTH;tQUARTER;tHALF-1;y2;pTHREE QUARTERS;pDOWNSCALING FACTOR KIIZH;gSIGN NEL;
lCEVITU;lAAZHAAKKU;lUZHAKKU;lMUUVUZHAKKU;lKURUNI;lPATHAKKU;lMUKKURUNI;lKAACU;lPANAM;mON;lVARAAKAN;
lPAARAM;lKUZHI;lVELI;gWET CULTIVATION SIGN;gDRY CULTIVATION SIGN;gLAND SIGN;gSALT PAN SIGN;
gTRADITIONAL CREDIT SIGN;sNUMBER SIGN;gCURRENT SIGN;gAND ODD SIGN;gSPENT SIGN;gTOTAL SIGN;
gIN POSSESSION SIGN;gSTARTING FROM SIGN;hIGN MUTHALIYA;lVAKAIYARAA;11FFF:gPUNCTUATION END OF TEXT;
aCUNEIFORM SIGN A;q TIMES A;xBAD;xGAN2 TENU;xHA;xIGI;xLAGAR GUNU;xMUSH;xSAG;q2;qB;r TIMES ASH2;
yDUN3 GUNU;yGAL;zbN2 TENU;yHA;yIGI GUNU;zMIN;yLAGAB;ySHESH;yU PLUS U PLUS U;sGUNU;r2;
s TIMES BALAG;zGAN2 TENU;zME PLUS EN;zSHA3;zTAK4;qD;qK;r TIMES ERIN2;ySHITA PLUS GISH;qL;
r TIMES AL;yDIM2;yGISH;yHA;yKAD3;zI;ySHE;yUSH;rAN;rEPH;qMAR;t TIMES SHE;qN;r OVER AN;sTHREE TIMES;
sPLUS NAGA OPPOSING AN PLUS NAGA;zdSQUARED;rSHE;qPIN;qRAD;t TIMES KUR;rKAB;qSAL2;rH;s ZIDA TENU;
tKABA TENU;tOVER ASH TUG2 OVER TUG2 TUG2 OVER TUG2 PAP;zdOVER ASH;zl CROSSING ASH OVER ASH OVER AS
H;s2;sGAB;pBA;rD;rG3;rHAR2;rL;s OVER BAL;sAG;rR;sA2;qI;r TIMES A;yGAR;yIGI GUNU;qU;r OVER BU AB;
zbUN;sCROSSING BU;rLUG;u OVER BULUG;rR;s2;pDA;rG;s KISIM5 TIMES A PLUS MASH;ziMAR;zhBALAG;ziI;
zhGA;zj PLUS MASH;ziI;zjR2;ziUD;zhHA;zhIR;zj PLUS LU;zhKAK;zhLA;ziU;zj PLUS MASH2;zjM;zhNE;
zhPAP PLUS PAP;zhSI;zhTAK4;zhU2 PLUS GIR2;ziSH;rM;rR;sA3;t4;qI;rB;rM;s TIMES SHE;s2;rN;
s KASKAL U GUNU DISH;rSH;qU;r OVER DU;sGUNU;sSHESHIG;rB;s TIMES ESH2;s2;rG;sUD;rH;rN;s3;t GUNU;
y GUNU;s4;rR2;pE;q TIMES PAP;rOVER E NUN OVER NUN;q2;r TIMES A PLUS HA PLUS DA;yGAR;yMI;ySAL;zHE;
yU;qDIN;qGIR;qL;qN;r TIMES GAN2;zd TENU;yME;sCROSSING EN;sOPPOSING EN;sSQUARED;qREN;rIN2;qSH2;
qZEN;t TIMES A;zc PLUS LAL;zl TIMES LAL;zcN;zbBAD;zbDUN3 GUNU;zk GUNU;zbHA;zd GUNU;zbIGI GUNU;
zbKASKAL;zh SQUARED;zcU3;zbLA;zdL TIMES LAL;zcI;zcU;zbU2;zcD;pGA;r GUNU;r2;
s TIMES A PLUS DA PLUS HA;zhHA;zhIGI;zbB2 TENU PLUS TAB;zbN;zbSH;zd2 PLUS GAL;zBAD;zcR PLUS RA;
zbUR;zd PLUS RA;zDA;zbI;zcM TIMES SHE;zbUB;zEL;zc PLUS LA;zbN;zc TIMES GAN2 TENU;zGAN2 TENU;zcR;
zbI;zc4;zd PLUS A;zcR2 PLUS SU;zHA PLUS LU PLUS ESH2;zcL;zd PLUS LA;zbI PLUS LI;zbUB2;zIGI GUNU;
zbSH PLUS HU PLUS ASH;zKAK;zcSKAL;zbID;zd PLUS LAL;zbU3 PLUS AN;zLA;zME PLUS EN;zbI;zNUN;
zd OVER NUN;zPA;zSAL;zcR;zbHE;zd PLUS TUR;zcID;zbUM;zTAK4;zU;zbD;zc PLUS DU;tOVER GA2;rBA;
t CROSSING GABA;rD;s OVER GAD GAR OVER GAR;rL;s GAD OVER GAD GAR OVER GAR;sAM;rM;rN;s2;t TENU;
uOVER GAN2;uCROSSING GAN2;rR;s3;rSHAN;qESHTIN;w TIMES KUR;qI;r TIMES E;yU;sCROSSING GI;r4;
s OVER GI4;tCROSSING GI4;rDIM;rR2;t GUNU;s3;t TIMES A PLUS IGI;zbGAN2 TENU;zbIGI;zbLU PLUS IGI;
zbPA;rSAL;sH;t CROSSING GISH;uTIMES BAD;zbTAK4;vENU;qU;r CROSSING GU;r2;s TIMES KAK;
zd TIMES IGI GUNU;zNUN;zSAL PLUS TUG2;tGUNU;rD;s TIMES A PLUS KUR;zKUR;tOVER GUD LUGAL;rL;rM;
s TIMES SHE;rR;s7;sUN;tSH;pHA;r TENU;sGUNU;rL;qI;r TIMES ASH;zc2;yBAD;yDISH;yGAD;yKIN;yNUN;ySHE;
yU;qU;rB2;t TIMES AN;zbHAL;zbKASKAL;zbLISH;zbUD;rL2;pI;q A;qB;qDIM;t OVER IDIM BUR;zfSQUARED;qG;
rI;s DIB;tRI;tOVER IGI SHIR OVER SHIR UD OVER UD;tGUNU;qL;r TIMES GAN2 TENU;r2;qM;r TIMES TAK4;
sCROSSING IM;sOPPOSING IM;sSQUARED;rIN;qN;qR;qSH;pKA;r TIMES A;zD;zb PLUS KU3;zSH2;yBAD;zbLAG;zbR;
zI;yERIN2;zSH2;yGA;zbL;zbN2 TENU;zbR;zc PLUS SHA3 PLUS A;zI;zbR2;zbSH PLUS SAR;zeCROSSING GISH;zU;
zbR7;yIGI;zM;yKAK;zI;zbD;yLI;zU;yME;zb PLUS DU;zhGI;zhTE;zI;zb PLUS NUNUZ;yNE;zUN;yPI;yRU;ySA;zbR;
zHA;zbE;zbID;zbU;zIG;zUHUR;yTAR;yU;z2;zD;zMUM TIMES PA;zSH;yZI;r2;s CROSSING KA2;rB;rD2;s3;s4;s5;
t OVER KAD5;rK;s TIMES IGI GUNU;rL;s TIMES BAD;tCROSSING KAL;rM2;s4;rSKAL;v LAGAB TIMES U OVER LAG
AB TIMES U;wOVER KASKAL LAGAB TIMES U OVER LAGAB TIMES U;qESH2;qI;r TIMES BAD;yU;zD;rD;rN;rSAL;sH;
sIM5;v OVER KISIM5;qU;r OVER HI TIMES ASH2 KU OVER HI TIMES ASH2;r3;r4;s VARIANT FORM;r7;rL;
s GUNU;rN;rR;s OPPOSING KUR;rSHU2;qWU318;pLA;rGAB;u TIMES A;zd PLUS DA PLUS HA;zjGAR;zjLAL;zdL;
zdN;zdSH ZIDA TENU;zcBAD;zdI;zcDAR;zcEN;zcGA;zeR;zdUD;zf PLUS GUD;zcHA;zeL;zdI TIMES NUN;
zcIGI GUNU;zdM;ze PLUS HA;zkLU;zcKI;zeN;zdU3;zeL;zf PLUS HI PLUS A;zcLAGAB;zdISH;zdU;zeL;zcME;
ze PLUS EN;zdUSH;zcNE;zcSHE PLUS SUM;zeITA PLUS GISH PLUS ERIN2;zsTENU;zeU2;zg PLUS SHU2;zdUM;
zcTAG;zeK4;zdE PLUS A PLUS SU PLUS NA;zcU;zd PLUS A;zjU PLUS U;zd2 PLUS ASH;zdD;zdSH;vSQUARED;tR;
u TIMES SHE;zf PLUS SUM;vGUNU;z OVER LAGAR GUNU SHE;rHSHU;rL;s TIMES LAL;rM;s TIMES KUR;
zd PLUS RU;qI;rL;rMMU2;rSH;qU;r TIMES BAD;r2;s TIMES AL;zBAD;zESH2;ze TENU;zGAN2 TENU;
zHI TIMES BAD;zIM;zKAD2;zd3;ze PLUS ASH;zbI;zLA PLUS ASH;zcGAB;zME PLUS EN;zNE;zbU;zSI PLUS ASH;
zcK2 PLUS BU;zTUG2;uENU;tCROSSING LU2;tOPPOSING LU2;tSQUARED;uHESHIG;r3;rGAL;u OVER LUGAL;
wPPOSING LUGAL;vSHESHIG;rH;rL;rM;s OVER LUM;zc GAR OVER GAR;pMA;r TIMES TAK4;sGUNU;r2;rH;rR;rSH;
t2;qE;rS;qI;rN;qU;r OVER MU;rG;s GUNU;rNSUB;rRGU2;rSH;t TIMES A;zbKUR;zbZA;uOVER MUSH;
ze TIMES A PLUS NA;uCROSSING MUSH;t3;u TIMES A;zd PLUS DI;zcDI;vGUNU;pNA;r2;rGA;t INVERTED;
uTIMES SHU TENU;uOPPOSING NAGA;tR;rM NUTILLU;s;s2;qE;r TIMES A;yUD;sSHESHIG;qI;r TIMES E;r2;rM;
s TIMES GAN2 TENU;zcR PLUS GAN2 TENU;rNDA2;v TIMES AN;zeSH;zg PLUS ASH;zdGUD;zdME PLUS GAN2 TENU;
zdNE;zeUN;zdSHE;zg PLUS A AN;znSH;zp PLUS ASH;zdU2 PLUS ASH;zeSH;rSAG;qU;r11;rN;s LAGAR TIMES GAR;
zgMASH;zgSAL;zj OVER NUN LAGAR TIMES SAL;zgUSH;tTENU;tOVER NUN;tCROSSING NUN;zg LAGAR OVER LAGAR;
sUZ;u AB2 TIMES ASHGAB;zgBI;zgDUG;zgGUD;zgIGI GUNU;zgKAD3;zgLA;zgNE;zgSILA3;zgU2;vKISIM5 TIMES BI;
zl U;pPA;rD;rN;rP;qESH2;qI;r TIMES A;zB;yBI;zU;yE;yI;zB;yU;z2;sCROSSING PI;rRIG;u TIMES KAL;zcUD;
zcZA;vOPPOSING PIRIG;pRA;rB;qI;qU;pSA;rG NUTILLU;s;s TIMES A;zDU;zcB;zHA;zKAK;zbUR;zLUM;zMI;zNUN;
zSAL;zbHID;zTAB;zU2;zbB;zbM;zbR;zbSH;tOVER SAG;tGUNU;rL;s LAGAB TIMES ASH2;rNGA2;rR;qHA;s3;
t TIMES A;zbBAD;zbGISH;zbNE;zbSHU2;zbTUR;zbU;zc PLUS A;s6;sB6;sR2;rE;s HU;tOVER SHE GAD OVER GAD G
AR OVER GAR;zdTAB OVER TAB GAR OVER GAR;sG9;sN;sSH;u2;uLAM;rID;t TIMES A;zbIM;sM;t TIMES A;zbBAL;
zcULUG;zbDIN;zbGAR;zbIGI;ze GUNU;zbKUSHU2;zbLUL;zbMUG;zbSAL;sNIG;sR;t TENU;
uOVER SHIR BUR OVER BUR;sTA;rU;s OVER INVERTED SHU;s2;sBUR;qI;r GUNU;rG;s4;t OVER SIG4 SHU2;rK2;
rLA3;qU;r OVER SU;rD;s2;rHUR;rM;sASH;rR;s9;pTA;r ASTERISK;sTIMES HI;yMI;sGUNU;rB;
s OVER TAB NI OVER NI DISH OVER DISH;tSQUARED;rG;s TIMES BI;zGUD;zSHE;zcU;zTUG2;zUD;rK4;rR;qE;
r GUNU;qI;r TENU;rL;rR;s TIMES TAK4;tOVER TIR;zc GAD OVER GAD GAR OVER GAR;qU;rG2;rK;rM;rR;
s OVER TUR ZA OVER ZA;pU;q GUD;rU U;rOVER U PA OVER PA GAR OVER GAR;ySUR OVER SUR;
yU REVERSED OVER U REVERSED;q2;qB;qD;r KUSHU2;sTIMES BAD;yMI;yU PLUS U PLUS U;zo GUNU;sGUNU;
sSHESHIG;z TIMES BAD;rUG;qM;r TIMES LAGAB;yME PLUS DA;ySHA3;yU;rBIN;rUM;t TIMES KASKAL;zbPA;qN;
r GUNU;qR;r CROSSING UR;sSHESHIG;r2;s TIMES A PLUS HA;zhNA;zbL;zHA;zNUN;zU2;zc PLUS ASH;ziBI;r4;
rI;s3;rU;s TIMES A;zbSHGAB;zBAR;zDUN;zGA;zcL;zcN2 TENU;zcR;zbU;zHA;zIGI;zbM;zbSH;zKI;zLUM;zMIN;
zPA;zSHE;zbIG4;zTU;zU PLUS GUD;zbD;zbRUDA;sDA;u TIMES U;qSH;s TIMES A;zKU;zcR;zTAK4;sX;s2;sUMX;
qTUKI;qZ3;s TIMES KASKAL;rU;pZA;r TENU;sSQUARED TIMES KUR;rG;rMX;qE2;qI;r OVER ZI;r3;rB;
s KABA TENU;rG;rZ2;qU;r5;s TIMES A;rBUR;rM;pKAP ELAMITE;pAB TIMES NUN;r2 TIMES A;qMAR TIMES KUG;
pDAG KISIM5 TIMES U2 PLUS MASH;s3;qISH PLUS SHU;qUB TIMES SHE;pEZEN TIMES GUD;zbSHE;
pGA2 TIMES AN PLUS KAK PLUS A;zbSH2;qE22;qIG;pHUSH;pKA TIMES ANSHE;zSH3;yGISH;zUD;yHI TIMES ASH2;
yLUM;yPA;ySHUL;yTU;yUR2;pLAGAB TIMES GI;qU2 SHESHIG TIMES BAD;tTIMES ESH2 PLUS LAL;zSHU;pMESH;
qUSH3 TIMES ZA;pNA4;qIN;s9;sDA2 TIMES BAL;zdGI;qU11 ROTATED NINETY DEGREES;pPESH2 ASTERISK;qIR2;
pSAG TIMES IGI GUNU;pTI2;pUM TIMES ME;q U;12400:kNUMERIC SIGN TWO ASH;yHREE ASH;xFOUR ASH;
yIVE ASH;xSIX ASH;yEVEN ASH;xEIGHT ASH;xNINE ASH;xTHREE DISH;xFOUR DISH;yIVE DISH;xSIX DISH;
yEVEN DISH;xEIGHT DISH;xNINE DISH;xFOUR U;yIVE U;xSIX U;yEVEN U;xEIGHT U;xNINE U;xONE GESH2;
xTWO GESH2;yHREE GESH2;xFOUR GESH2;yIVE GESH2;xSIX GESH2;yEVEN GESH2;xEIGHT GESH2;xNINE GESH2;
xONE GESHU;xTWO GESHU;yHREE GESHU;xFOUR GESHU;yIVE GESHU;xTWO SHAR2;yHREE SHAR2;zj VARIANT FORM;
xFOUR SHAR2;yIVE SHAR2;xSIX SHAR2;yEVEN SHAR2;xEIGHT SHAR2;xNINE SHAR2;xONE SHARU;xTWO SHARU;
yHREE SHARU;zj VARIANT FORM;xFOUR SHARU;yIVE SHARU;xSHAR2 TIMES GAL PLUS DISH;ztMIN;xONE BURU;
xTWO BURU;yHREE BURU;zi VARIANT FORM;xFOUR BURU;yIVE BURU;xTHREE VARIANT FORM ESH16;zu21;
xFOUR VARIANT FORM LIMMU;zv4;zv A;zwB;xSIX VARIANT FORM ASH9;yEVEN VARIANT FORM IMIN3;zv A;zwB;
xEIGHT VARIANT FORM USSU;zv3;xNINE VARIANT FORM ILIMMU;zw3;zw4;zw A;xTWO ASH TENU;yHREE ASH TENU;
xFOUR ASH TENU;yIVE ASH TENU;xSIX ASH TENU;xONE BAN2;xTWO BAN2;yHREE BAN2;xFOUR BAN2;
zh VARIANT FORM;yIVE BAN2;zh VARIANT FORM;xNIGIDAMIN;zeESH;xONE ESHE3;xTWO ESHE3;xONE THIRD DISH;
xTWO THIRDS DISH;xFIVE SIXTHS DISH;xONE THIRD VARIANT FORM A;xTWO THIRDS VARIANT FORM A;
xONE EIGHTH ASH;zcQUARTER ASH;yLD ASSYRIAN ONE SIXTH;zpQUARTER;yNE QUARTER GUR;zcHALF GUR;
xELAMITE ONE THIRD;zgTWO THIRDS;zgFORTY;zhIFTY;xFOUR U VARIANT FORM;yIVE U VARIANT FORM;
xSIX U VARIANT FORM;yEVEN U VARIANT FORM;xEIGHT U VARIANT FORM;xNINE U VARIANT FORM;
12470:kPUNCTUATION SIGN OLD ASSYRIAN WORD DIVIDER;zcVERTICAL COLON;zcDIAGONAL COLON;zlTRICOLON;
zlQUADCOLON;12480:kSIGN AB TIMES NUN TENU;ySHU2;qD TIMES ESH2;pBAD TIMES DISH TENU;
rHAR2 TIMES AB2;zdNI;zdZA;qU OVER BU TIMES NA2;pDA TIMES TAK4;rG TIMES KUR;qIM TIMES IGI;zU U U;
s2 TIMES UD;qUG TIMES ANSHE;zbSH;zd AT LEFT;zDIN;zbUN;zERIN2;zGA;zbI;zcR2 GUNU;zcSH;zHA;zbI;
zIGI GUNU;zKASKAL;zbUR;zcSHU2;zg PLUS KASKAL;zLAK-020;zcM;zd TIMES KUR;zbUH PLUS GISH;zMASH;zbES;
zbI;zNI;zPI;zSHE;zbI GUNU;pE2 TIMES KUR;yPAP;qRIN2 X;qSH2 CROSSING ESH2;qZEN SHESHIG TIMES ASH;
zjHI;zjIGI GUNU;zjLA;zlL;zjME;zlS;zjSU;uTIMES SU;pGA2 TIMES BAHAR2;zDIM GUNU;zbUG TIMES IGI GUNU;
zkKASKAL;zEREN;zGA;zcR PLUS DI;zjNE;zHA PLUS A;zKUSHU2 PLUS KASKAL;zLAM;zd TIMES KUR;zbUH;zMUSH;
zNE;zc PLUS E2;ziGI;zSHIM;zZIZ2;rBA ROTATED NINETY DEGREES;qESHTIN TIMES U;
qISH TIMES GISH CROSSING GISH;qU2 TIMES IGI GUNU;rD PLUS GISH TIMES TAK4;pHA TENU GUNU;
qI TIMES ASH OVER HI TIMES ASH;pKA TIMES BU;yKA;yU U U;zR;pLAGAB TIMES ZU OVER ZU;rK-003;u21;v5;
u30;u50;v1;u62;u79 OVER LAK-079 GUNU;u80;v1 OVER LAK-081;u92;t130;u42;t210;v9;u20;v5;v8;u38;u65;
v6;t343;v7;v8;u83;v4;u90;t441;v9;w TIMES GU;zeIGI;zePAP PLUS LU3;znPAP PLUS LU3;zeU2 PLUS BA;u50;
v7;u70;u83;u90;v2;v3;v5;t550;t608;u17;w TIMES ASH;zeBAD;zeDUN3 GUNU GUNU;zeKU3;zeLA;zeTAR;zfE;
zeU2;zfD;zfRUDA;u36;u48;w TIMES DUB;zeGA;zeIGI;zh GUNU;zeNI;zePAP PLUS PAP PLUS LU3;
zeSHESH PLUS KI;zeUD;zfRUDA;t724;u49;qU2 GUNU TIMES ASH;tTIMES DISH;zHAL;zPAP;
zd PLUS PAP PLUS LU3;zTAK4;pMI PLUS ZA7;qUSH OVER MUSH TIMES GA;zlKAK;pNINDA2 TIMES DIM GUNU;
zdGISH;zeUL;zdHI;zdKESH2;zdLAK-050;zdMASH;zdPAP PLUS PAP;zdU;ze PLUS U;zeRUDA;pSAG GUNU TIMES HA;
tTIMES EN;zSHE AT LEFT;zTAK4;qHA6 TENU;rE OVER SHE;tPLUS HUB2;yNAM2;ySAR;rU2 PLUS DUG TIMES NI;
zE2 TIMES AN;qI TIMES TAK4;pTAK4 PLUS SAG;qUM TIMES GAN2 TENU;zTHREE DISH;pUR2 INVERTED;tTIMES UD;
rU TIMES DARA3;zLAK-668;zbU3;pZA7;qU OVER ZU PLUS SAR;r5 TIMES THREE DISH TENU;
12F90:bYPRO-MINOAN SIGN CM001;w2;w4;w5;w6;w7;w8;w9;v10;w1;w2;xB;w3;w5;w7;w9;v21;w3;w4;w5;w6;w7;w8;
w9;v30;w3;w4;w5;w6;w7;w8;w9;v40;w1;w4;w6;w7;w9;v50;w1;w2;w3;w4;w5;w6;w8;w9;v60;w1;w2;w3;w4;w6;w7;
w8;w9;v70;w1;w2;w3;w4;w5;xB;w6;w8;w9;v80;w1;w2;w3;w4;w5;w6;w7;w8;w9;v90;w1;w2;w4;w5;w6;w7;w8;w9;
u100;w1;w2;w3;w4;w5;w7;w8;w9;v10;w2;w4;u301;w2;13000:aEGYPTIAN HIEROGLYPH A001;x2;x3;x4;x5;yA;x6;
yA;yB;x7;x8;x9;w10;x1;x2;x3;x4;yA;x5;x6;x7;yA;x8;x9;w20;x1;x2;x3;x4;x5;x6;x7;x8;x9;w30;x1;x2;yA;
x3;x4;x5;x6;x7;x8;x9;w40;yA;x1;x2;yA;x3;yA;x4;x5;yA;x6;x7;x8;x9;w50;x1;x2;x3;x4;x5;x6;x7;x8;x9;
w60;x1;x2;x3;x4;x5;x6;x7;x8;x9;w70;uB001;x2;x3;x4;x5;yA;x6;x7;x8;x9;uC001;x2;yA;yB;yC;x3;x4;x5;x6;
x7;x8;x9;w10;yA;x1;x2;x3;x4;x5;x6;x7;x8;x9;w20;x1;x2;x3;x4;uD001;x2;x3;x4;x5;x6;x7;x8;yA;x9;w10;
x1;x2;x3;x4;x5;x6;x7;x8;x9;w20;x1;x2;x3;x4;x5;x6;x7;yA;x8;x9;w30;x1;yA;x2;x3;x4;yA;x5;x6;x7;x8;x9;
w40;x1;x2;x3;x4;x5;x6;yA;x7;x8;yA;x9;w50;yA;yB;yC;yD;yE;yF;yG;yH;yI;x1;x2;yA;x3;x4;yA;x5;x6;x7;x8;
x9;w60;x1;x2;x3;x4;x5;x6;x7;yA;yB;yC;yD;yE;yF;yG;yH;uE001;x2;x3;x4;x5;x6;x7;x8;yA;x9;yA;w10;x1;x2;
x3;x4;x5;x6;yA;x7;yA;x8;x9;w20;yA;x1;x2;x3;x4;x5;x6;x7;x8;yA;x9;w30;x1;x2;x3;x4;yA;x6;x7;x8;uF001;
yA;x2;x3;x4;x5;x6;x7;x8;x9;w10;x1;x2;x3;yA;x4;x5;x6;x7;x8;x9;w20;x1;yA;x2;x3;x4;x5;x6;x7;x8;x9;
w30;x1;yA;x2;x3;x4;x5;x6;x7;yA;x8;yA;x9;w40;x1;x2;x3;x4;x5;yA;x6;yA;x7;yA;x8;x9;w50;x1;yA;yB;yC;
x2;x3;uG001;x2;x3;x4;x5;x6;yA;x7;yA;yB;x8;x9;w10;x1;yA;x2;x3;x4;x5;x6;x7;x8;x9;w20;yA;x1;x2;x3;x4;
x5;x6;yA;x7;x8;x9;w30;x1;x2;x3;x4;x5;x6;yA;x7;yA;x8;x9;w40;x1;x2;x3;yA;x4;x5;yA;x6;x7;x8;x9;w50;
x1;x2;x3;x4;uH001;x2;x3;x4;x5;x6;yA;x7;x8;uI001;x2;x3;x4;x5;yA;x6;x7;x8;x9;yA;w10;yA;x1;yA;x2;x3;
x4;x5;uK001;x2;x3;x4;x5;x6;x7;x8;uL001;x2;yA;x3;x4;x5;x6;yA;x7;x8;uM001;yA;yB;x2;x3;yA;x4;x5;x6;
x7;x8;x9;w10;yA;x1;x2;yA;yB;yC;yD;yE;yF;yG;yH;x3;x4;x5;yA;x6;yA;x7;yA;x8;x9;w20;x1;x2;yA;x3;x4;yA;
x5;x6;x7;x8;yA;x9;w30;x1;yA;x2;x3;yA;yB;x4;x5;x6;x7;x8;x9;w40;yA;x1;x2;x3;x4;uN001;x2;x3;x4;x5;x6;
x7;x8;x9;w10;x1;x2;x3;x4;x5;x6;x7;x8;yA;yB;x9;w20;x1;x2;x3;x4;x5;yA;x6;x7;x8;x9;w30;x1;x2;x3;yA;
x4;yA;x5;yA;x6;x7;yA;x8;x9;w40;x1;x2;vL001;y2;y3;y4;y5;zA;y6;y7;y8;y9;x10;y1;y2;y3;y4;y5;y6;y7;zA;
y8;y9;x20;vU001;y2;y3;y4;y5;y6;y7;y8;y9;x10;zA;y1;zA;y2;y3;y4;y5;y6;y7;y8;zA;y9;x20;y1;y2;zA;
uO001;yA;x2;x3;x4;x5;yA;x6;yA;yB;yC;yD;yE;yF;x7;x8;x9;w10;yA;yB;yC;x1;x2;x3;x4;x5;x6;x7;x8;x9;yA;
w20;yA;x1;x2;x3;x4;yA;x5;yA;x6;x7;x8;x9;yA;w30;yA;x1;x2;x3;yA;x4;x5;x6;yA;yB;yC;yD;x7;x8;x9;w40;
x1;x2;x3;x4;x5;x6;x7;x8;x9;w50;yA;yB;x1;uP001;yA;x2;x3;yA;x4;x5;x6;x7;x8;x9;w10;x1;uQ001;x2;x3;x4;
x5;x6;x7;uR001;x2;yA;x3;yA;yB;x4;x5;x6;x7;x8;x9;w10;yA;x1;x2;x3;x4;x5;x6;yA;x7;x8;x9;w20;x1;x2;x3;
x4;x5;x6;x7;x8;x9;uS001;x2;yA;x3;x4;x5;x6;yA;x7;x8;x9;w10;x1;x2;x3;x4;yA;yB;x5;x6;x7;yA;x8;x9;w20;
x1;x2;x3;x4;x5;x6;yA;yB;x7;x8;x9;w30;x1;x2;x3;x4;x5;yA;x6;x7;x8;x9;w40;x1;x2;x3;x4;x5;x6;uT001;x2;
x3;yA;x4;x5;x6;x7;yA;x8;yA;x9;yA;w10;x1;yA;x2;x3;x4;x5;x6;yA;x7;x8;x9;w20;x1;x2;x3;x4;x5;x6;x7;x8;
x9;w30;x1;x2;yA;x3;yA;x4;x5;x6;uU001;x2;x3;x4;x5;x6;yA;yB;x7;x8;x9;w10;x1;x2;x3;x4;x5;x6;x7;x8;x9;
w20;x1;x2;x3;yA;x4;x5;x6;x7;x8;x9;yA;w30;x1;x2;yA;x3;x4;x5;x6;x7;x8;x9;w40;x1;x2;uV001;yA;yB;yC;
yD;yE;yF;yG;yH;yI;x2;yA;x3;x4;x5;x6;x7;yA;yB;x8;x9;w10;x1;yA;yB;yC;x2;yA;yB;x3;x4;x5;x6;x7;x8;x9;
w20;yA;yB;yC;yD;yE;yF;yG;yH;yI;yJ;yK;yL;x1;x2;x3;yA;x4;x5;x6;x7;x8;yA;x9;yA;w30;yA;x1;yA;x2;x3;yA;
x4;x5;x6;x7;yA;x8;x9;w40;yA;uW001;x2;x3;yA;x4;x5;x6;x7;x8;x9;yA;w10;yA;x1;x2;x3;x4;yA;x5;x6;x7;yA;
x8;yA;x9;w20;x1;x2;x3;x4;yA;x5;uX001;x2;x3;x4;yA;yB;x5;x6;yA;x7;x8;yA;uY001;yA;x2;x3;x4;x5;x6;x7;
x8;uZ001;x2;yA;yB;yC;yD;x3;yA;yB;x4;yA;x5;yA;x6;x7;x8;x9;w10;x1;x2;x3;x4;x5;yA;yB;yC;yD;yE;yF;yG;
yH;yI;x6;yA;yB;yC;yD;yE;yF;yG;yH;uAA001;y2;y3;y4;y5;y6;y7;zA;zB;y8;y9;x10;y1;y2;y3;y4;y5;y6;y7;y8;
y9;x20;y1;y2;y3;y4;y5;y6;y7;y8;y9;x30;y1;y2;13430:uVERTICAL JOINER;uHORIZONTAL JOINER;
uINSERT AT TOP START;zfBOTTOM START;zfTOP END;zfBOTTOM END;uOVERLAY MIDDLE;uBEGIN SEGMENT;
uEND SEGMENT;14400:aANATOLIAN HIEROGLYPH A001;y2;y3;y4;y5;y6;y7;y8;y9;x10;zA;y1;y2;y3;y4;y5;y6;y7;
y8;y9;x20;y1;y2;y3;y4;y5;y6;zA;y7;y8;y9;x30;y1;y2;y3;y4;y5;y6;y7;y8;y9;zA;x40;y1;zA;y2;y3;y4;y5;
zA;y6;zA;zB;y7;y8;y9;x50;y1;y2;y3;y4;y5;y6;y7;y8;y9;x60;y1;y2;y3;y4;y5;y6;zA;zB;zC;y7;y8;y9;x70;
y1;y2;y3;y4;y5;y6;y7;y8;y9;x80;y1;y2;y3;y4;y5;y6;y7;y8;y9;x90;y1;y2;y3;y4;y5;y6;y7;zA;y8;zA;y9;
w100;zA;y1;zA;y2;zA;y3;y4;zA;zB;zC;y5;zA;zB;y6;y7;zA;zB;zC;y8;y9;x10;zA;zB;y1;y2;y3;y4;y5;zA;y6;
y7;y8;y9;x20;y1;y2;y3;y4;y5;zA;y6;y7;y8;y9;x30;y1;y2;y3;y4;y5;zA;y6;y7;y8;y9;x40;y1;y2;y3;y4;y5;
y6;y7;y8;y9;x50;y1;y2;y3;y4;y5;y6;y7;y8;y9;x60;y1;y2;y3;y4;y5;y6;y7;y8;y9;x70;y1;y2;y3;y4;y5;y6;
y7;y8;y9;x80;y1;y2;y3;y4;y5;y6;y7;y8;y9;x90;y1;y2;y3;y4;y5;y6;y7;y8;y9;w200;y1;y2;zA;zB;y3;y4;y5;
y6;y7;zA;y8;y9;zA;x10;y1;y2;y3;y4;y5;zA;y6;zA;y7;y8;y9;x20;y1;y2;y3;y4;y5;y6;y7;zA;y8;y9;x30;y1;
y2;y3;y4;y5;y6;y7;y8;y9;x40;y1;y2;y3;y4;y5;y6;y7;y8;y9;x50;y1;y2;y3;y4;y5;y6;y7;y8;y9;x60;y1;y2;
y3;y4;y5;y6;y7;zA;y8;y9;x70;y1;y2;y3;y4;y5;y6;y7;y8;y9;x80;y1;y2;y3;y4;y5;y6;y7;y8;y9;zA;x90;y1;
y2;y3;y4;zA;y5;y6;y7;y8;y9;zA;w300;y1;y2;y3;y4;y5;y6;y7;y8;y9;zA;x10;y1;y2;y3;y4;y5;y6;y7;y8;y9;
x20;y1;y2;y3;y4;y5;y6;y7;y8;y9;zA;x30;y1;y2A;zB;zC;y3;y4;y5;y6;zA;zB;zC;y7;y8;y9;x40;y1;y2;y3;y4;
y5;y6;y7;y8;y9;x50;y1;y2;y3;y4;y5;y6;y7;y8;y9;zA;x60;y1;y2;y3;y4;zA;y5;y6;y7;y8;zA;y9;x70;y1;zA;
y2;y3;y4;y5;y6;y7;y8;y9;x80;y1;zA;y2;y3 RA OR RI;zA;y4;y5;y6;zA;y7;y8;y9;x90;y1;y2;y3 EIGHT;y4;y5;
y6;y7;y8;y9;w400;y1;y2;y3;y4;y5;y6;y7;y8;y9;x10 BEGIN LOGOGRAM MARK;zA END LOGOGRAM MARK;y1;y2;y3;
y4;y5;y6;y7;y8;y9;x20;y1;y2;y3;y4;y5;y6;y7;y8;y9;x30;y1;y2;y3;y4;y5;y6;y7;y8;y9;x40;y1;y2;y3;y4;
y5;y6;y7;y8;y9;x50;zA;y1;y2;y3;y4;y5;y6;y7;zA;y8;y9;x60;y1;y2;y3;y4;y5;y6;y7;y8;y9;x70;y1;y2;y3;
y4;y5;y6;y7;y8;y9;x80;y1;y2;y3;y4;y5;y6;y7;y8;y9;x90;y1;y2;y3;y4;y5;y6;y7;w501;y2;y3;y4;y5;y6;y7;
y8;y9;x10;y1;y2;y3;y4;y5;y6;y7;y8;y9;x20;y1;y2;y3;y4;y5;y6;y7;y8;y9;x30;16800:aBAMUM LETTER PHASE-
A NGKUE MFON;vGBIEE FON;vPON MFON PIPAEMGBIEE;zlBA;vNAA MFON;vSHUENSHUET;vTITA MFON;vNZA MFON;
vSHINDA PA NJI;vPON PA NJI PIPAEMGBIEE;znBA;vMAEMBGBIEE;vTU MAEMBA;vNGANGU;vMAEMVEUX;xNSUAE;
wVEUAENGAM;vSEUNYAM;vNTOQPEN;vKEUKEUTNDA;vNKINDI;vSUU;vNGKUENZEUM;vLAPAQ;wET KUT;vNTAP MFAA;
vMAEKEUP;vPASHAE;vGHEUAERAE;vPAMSHAE;vMON NGGEUAET;vNZUN MEUT;vU YUQ NAE;vGHEUAEGHEUAE;vNTAP NTAA;
vSISA;vMGBASA;wEUNJOMNDEUQ;wOOMPUQ;vKAFA;vPA LEERAEWA;vNDA LEERAEWA;vPET;vMAEMKPEN;vNIKA;vPUP;
vTUAEP;vLUAEP;vSONJAM;vTEUTEUWEN;vMAENYI;vKET;vNDAANGGEUAET;vKUOQ;vMOOMEUT;vSHUM;vLOMMAE;vFIRI;
vROM;vKPOQ;vSOQ;vMAP PIEET;vSHIRAE;vNTAP;vSHOQ NSHUT YUM;vNYIT MONGKEUAEQ;vPAARAE;vNKAARAE;
vUNKNOWN;vNGGEN;vMAESI;vNJAM;vMBANYI;vNYET;vTEUAEN;vSOT;vPAAM;vNSHIEE;vMAEM;vNYI;vKAQ;vNSHA;vVEE;
vLU;vNEN;wAQ;vMBAQ;tB NSHUET;vTU MAEMGBIEE;vSIEE;wET TU;vLOM NTEUM;vMBA MAELEE;vKIEEM;vYEURAE;
vMBAARAE;vKAM;vPEESHI;vYAFU LEERAEWA;vLAM NSHUT NYAM;vNTIEE SHEUOQ;wDU NJAA;vGHEUGHEUAEM;vPIT;
vTU NSIEE;vSHET NJAQ;yUAEQTU;vMFON TEUAEQ;wBIT MBAAKET;vNYI NTEUM;vKEUPUQ;vGHEUGHEN;vKEUYEUX;
vLAANAE;vPARUM;vVEUM;vNGKINDI MVOP;xGEU MBU;vWUAET;vSAKEUAE;vTAAM;vMEUQ;vNGGUOQ;zc LARGE;vMFIYAQ;
vSUE;vMBEURI;wONTIEEN;vNYAEMAE;vPUNGAAM;vMEUT NGGEET;vFEUX;vMBUOQ;vFEE;vKEUAEM;vMA NJEUAENA;zbUQA;
vLET;vNGGAAM;wSEN;vMA;vKIQ;vNGOM;tC NGKUE MAEMBA;wZA;vYUM;vWANGKUOQ;vNGGEN;wDEUAEREE;wGKAQ;
vGHARAE;vMBEEKEET;vGBAYI;vNYIR MKPARAQ MEUN;wTU MBIT;vMBEUM;vPIRIEEN;vNDOMBU;vMBAA CABBAGE-TREE;
vKEUSHEUAEP;vGHAP;vKEUKAQ;vYU MUOMAE;vNZEUM;vMBUE;vNSEUAEN;vMBIT;vYEUQ;vKPARAQ;wAA;vSEUX;vNDIDA;
vTAASHAE;vNJUEQ;vTITA YUE;vSUAET;vNGGUAEN NYAM;vVEUX;vNANSANAQ;vMA KEUAERI;vNTAA;wGGUON;vLAP;
vMBIRIEEN;wGBASAQ;vNTEUNGBA;vTEUTEUX;vNGGUM;vFUE;vNDEUT;wSA;xHAQ;vBUNG;vVEUAEPEN;vMBERAE;vRU;
vNJAEM;vLAM;vTITUAEP;vNSUOT NGOM;wJEEEE;vKET;vNGGU;vMAESI;wBUAEM;vLU;vKUT;vNJAM;wGOM;vWUP;
vNGGUEET;wSOM;wTEN;vKUOP NKAARAE;vNSUN;wDAM;vMA NSIEE;vYAA;vNDAP;vSHUEQ;wETFON;vMBI;wAEMBA;wBANYI;
vKEUSEUX;vMBEUX;vKEUM;vMBAA PICKET;vYUWOQ;vNJEUX;vMIEE;wUAE;vSHIQ;vKEN LAW;zFATIGUE;vNGAQ;wAQ;
vLIQ;vPIN;wEN;vTET;tD MBUO;vWAP;vNJI;vMFON;vNJIEE;vLIEE;vNJEUT;wSHEE;wGGAAMAE;wYAM;vWUAEN;vNGKUN;
vSHEE;vNGKAP;vKEUAETMEUN;vTEUT;vSHEUAE;vNJAP;vSUE;vKET;vYAEMMAE;vKUOM;vSAP;vMFEUT;vNDEUX;vMALEERI;
wEUT;vSEUAEQ;vYEN;vNJEUAEM;vKEUOT MBUAE;vNGKEURI;vTU;vGHAA;vNGKYEE;vFEUFEUAET;vNDEE;vMGBOFUM;
vLEUAEP;vNDON;vMONI;wGBEUN;vPUUT;vMGBIEE;wFO;vLUM;vNSIEEP;vMBAA;vKWAET;vNYET;vTEUAEN;vSOT;vYUWOQ;
vKEUM;vRAEM;vTEEEE;vNGKEUAEQ;vMFEUAE;vNSIEET;vKEUP;vPIP;wEUTAE;vNYUE;vLET;vNGGAAM;vMFIEE;vNGGWAEN;
vYUOM;vPAP;vYUOP;vNDAM;wTEUM;vSUAE;vKUN;vNGGEUX;xKIEE;vTUOT;vMEUN;vKUQ;vNSUM;vTEUN;vMAENJET;
vNGGAP;vLEUM;vNGGUOM;wSHUT;wJUEQ;vGHEUAE;vKU;vREN OLD;vTAE;wOQ;vNYI;vRII;vLEEEE;vMEEEE;w;vSUU;vMU;
vSHII;xEUX;vKYEE;vNU;vSHU;vNTEE;vPEE;vNI;vSHOQ;vPUQ;vMVOP;vLOQ;vREN MUCH;vTI;vNTUU;vMBAA SEVEN;
vSAQ;vFAA;tE NDAP;vTOON;vMBEUM;vLAP;vVOM;vLOON;vPAA;vSOM;vRAQ;vNSHUOP;wDUN;vPUAE;vTAM;vNGKA;
vKPEUX;vWUO;vSEE;vNGGEUAET;vPAAM;vTOO;vKUOP;vLOM;vNSHIEE;wGOP;vMAEM;vNGKEUX;xOQ;wSHUE;vRIMGBA;
vNJEUX;vPEEM;vSAA;vNGGURAE;vMGBA;vGHEUX;vNGKEUAEM;wJAEMLI;vMAP;vLOOT;vNGGEEEE;wDIQ;vTAEN NTEUM;
vSET;vPUM;vNDAA SOFTNESS;wGGUAESHAE NYAM;vYIEE;vGHEUN;vTUAE;vYEUAE;vPO;vTUMAE;vKEUAE;vSUAEN;
vTEUAEQ;vVEUAE;vWEUX;vLAAM;vPU;vTAAQ;vGHAAMAE;vNGEUREUT;vSHEUAEQ;vMGBEN;wBEE;vNZAQ;wKOM;vGBET;
vTUM;vKUET;vYAP;vNYI CLEAVER;vYIT;vMFEUQ;vNDIAQ;vPIEEQ;vYUEQ;vLEUAEM;vFUE;vGBEUX;vNGKUP;vKET;vMAE;
vNGKAAMI;vGHET;vFA;vNTUM;vPEUT;vYEUM;vNGGEUAE;wYI BETWEEN;wZUQ;vPOON;vMIEE;vFUET;vNAE;vMUAE;
vGHEUAE;vFU I;vMVI;vPUAQ;vNGKUM;vKUT;vPIET;vNTAP;vYEUAET;vNGGUP;vPA PEOPLE;vFU CALL;wOM;vNJEE;vA;
vTOQ;vO;vI;vLAQ;vPA PLURAL;vTAA;xQ;vNDAA MY HOUSE;vSHIQ;vYEUX;vNGUAE;vYUAEN;wOQ SWIMMING;zCOVER;
wUQ;xN;vKEUX;vPEUX;vNJEE EPOCH;vPUE;vWUE;vFEE;vVEE;vLU;vMI;vREUX;wAE;vNGUAET;xA;vSHO;yQ;
vFU REMEDY;vNA;vPI;vLOQ;vKO;vMEN;wA;xQ;vTEU;vKI;vMON;vTEN;vFAQ;vGHOM;tF KA;vU;vKU;vEE;vREE;vTAE;
vNYI;vLA;vRII;xEE;vMEEEE;vTAA;vNDAA;wJAEM;vM;vSUU;wHII;wI;wEUX;vKYEE;wET;vNUAE;x;wJUAE;vYOQ;vSHU;
vYA;vNSHA;vPEUX;vNTEE;vWUE;vPEE;vRU;vNI;vREUX;vKEN;vNGKWAEN;xGA;vSHO;vPUAE;vFOM;vWA;vLI;wOQ;vKO;
vMBEN;vREN;vMA;wO;wBAA;vTET;vKPA;vSAMBA;vVUEQ;16A40:aMRO LETTER TA;lNGI;lYO;lMIM;lBA;lDA;lA;lPHI;
lKHAI;lHAO;lDAI;lCHU;lKEAAE;lOL;lMAEM;lNIN;lPA;lOO;m;lRO;lSHI;lTHEA;lEA;lWA;lE;lKO;lLAN;n;lHAI;
lRI;lTEK;16A60:eDIGIT ZERO;kONE;kTWO;lHREE;kFOUR;lIVE;kSIX;lEVEN;kEIGHT;kNINE;16A6E:fANDA;
fOUBLE DANDA;aTANGSA LETTER OZ;pC;pQ;pX;oAZ;pC;pQ;pX;oVZ;pC;pQ;pX;oEZ;pC;pQ;pX;oIZ;pC;pQ;pX;oUZ;
pC;pQ;pX;oAWZ;qC;qQ;qX;oUIZ;qC;qQ;qX;oFINAL NG;oLONG UEX;oSHORT UEZ;uAWX;oUEC;qZ;qQ;qX;pIUZ;rC;rQ;
rX;oMZ;pC;pQ;pX;oKA;pHA;oGA;oNGA;oSA;oYA;oWA;oPA;oNYA;oPHA;oBA;oMA;oNA;oHA;oLA;oHTA;oTA;oDA;oRA;
oNHA;oSHA;oCA;oTSA;oGHA;oHTTA;oTHA;oXA;oFA;oDHA;oCHA;oZA;16AC0:hDIGIT ZERO;nONE;nTWO;oHREE;nFOUR;
oIVE;nSIX;oEVEN;nEIGHT;nNINE;16AD0:aBASSA VAH LETTER ENNI;rKA;rSE;rFA;rMBE;rYIE;rGAH;rDHII;rKPAH;
rJO;rHWAH;rWA;rZO;rGBU;rDO;rCE;rUWU;rTO;rBA;rVU;rYEIN;rPA;rWADDA;rA;rO;sO;rU;rEE;s;rI;
16AF0:kCOMBINING HIGH TONE;uLOW TONE;uMID TONE;uLOW-MID TONE;uHIGH-LOW TONE;kFULL STOP;
16B00:aPAHAWH HMONG VOWEL KEEB;wV;uIB;vV;uAUB;wV;uUB;vV;uEB;vV;uAIB;wV;uOOB;wV;uAWB;wV;uUAB;wV;
uOB;vV;uIAB;wV;uAB;vV;uWB;vV;uAAB;wV;nCONSONANT VAU;xNTSAU;xLAU;xHAU;xNLAU;xRAU;xNKAU;xQHAU;xYAU;
xHLAU;xMAU;xCHAU;xNCHAU;xHNAU;xPLHAU;xNTHAU;yAU;xAU;xXAU;xCAU;nMARK CIM TUB;wSO;wKES;xHAV;wSUAM;
wHOM;wTAUM;nSIGN VOS THOM;xSHAB CEEB;sCIM CHEEM;sVOS THIAB;wFEEM;sXYEEM NTXIV;yRHO;yTOV;yFAIB;
sVOS SEEV;sMEEJ SUAB;sVOS NRUA;sIB YAM;sXAUS;sCIM TSOV ROG;16B50:nDIGIT ZERO;tONE;tTWO;uHREE;
tFOUR;uIVE;tSIX;uEVEN;tEIGHT;tNINE;16B5B:nNUMBER TENS;uHUNDREDS;uTEN THOUSANDS;uMILLIONS;
uHUNDRED MILLIONS;uTEN BILLIONS;vRILLIONS;16B63:nSIGN VOS LUB;sXYOO;sHLI;sTHIRD-STAGE HLI;
sZWJ THAJ;sHNUB;sNQIG;sXIAB;sNTUJ;sAV;sTXHEEJ CEEV;sMEEJ TSEEB;sTAU;sLOS;sMUS;
sCIM HAIS LUS NTOG NTOG;wCUAM TSHOOJ;wTXWV;zb CHWV;wPUB DAWB;wNRES TOS;16B7D:nCLAN SIGN TSHEEJ;
xYEEG;xLIS;yAUJ;xXYOOJ;xKOO;xHAWJ;xMUAS;xTHOJ;ySAB;xPHAB;xKHAB;xHAM;xVAJ;xFAJ;xYAJ;xTSWB;xKWM;
xVWJ;16E40:aMEDEFAIDRIN CAPITAL LETTER M;zcS;zcV;zcW;zcATIU;zcZ;zcKP;zcP;zcT;zcG;zcF;zcI;zcK;zcA;
zcJ;zcE;zcB;zcC;zcU;zcYU;zcL;zcQ;zcHP;zcNY;zcX;zcD;zcOE;zcN;zcR;zcO;zcAI;zcY;mSMALL LETTER M;zS;
zV;zW;zATIU;zZ;zKP;zP;zT;zG;zF;zI;zK;zA;zJ;zE;zB;zC;zU;zYU;zL;zQ;zHP;zNY;zX;zD;zOE;zN;zR;zO;zAI;
zY;mDIGIT ZERO;sONE;sTWO;tHREE;sFOUR;tIVE;sSIX;tEVEN;sEIGHT;sNINE;mNUMBER TEN;tELEVEN;tTWELVE;
uHIRTEEN;tFOURTEEN;uIFTEEN;tSIXTEEN;uEVENTEEN;tEIGHTEEN;tNINETEEN;mDIGIT ONE ALTERNATE FORM;
sTWO ALTERNATE FORM;tHREE ALTERNATE FORM;mCOMMA;mFULL STOP;mSYMBOL AIVA;mEXCLAMATION OH;
16F00:bIAO LETTER PA;mBA;mYI PA;mPLA;mMA;nHA;mARCHAIC MA;mFA;mVA;nFA;mTA;mDA;mYI TTA;qA;mTTA;mDDA;
mNA;nHA;mYI NNA;mARCHAIC NA;mNNA;oHA;mLA;nYA;nHA;oYA;mTLHA;mDLHA;mTLHYA;mDLHYA;mKA;mGA;mYI KA;mQA;
nGA;mNGA;oHA;mARCHAIC NGA;mHA;mXA;mGHA;oHA;mTSSA;mDZZA;mNYA;oHA;mTSHA;mDZHA;mYI TSHA;pDZHA;
mREFORMED TSHA;mSHA;nSA;mZHA;nSHA;mTSA;mDZA;mYI TSA;mSA;mZA;nSA;nZA;oSA;mARCHAIC ZZA;mZZYA;oSYA;
mWA;mAH;mHHA;mBRI;mSYI;mDZYI;mTE;nSE;mRTE;16F4F:fSIGN CONSONANT MODIFIER BAR;fLETTER NASALIZATION;
fSIGN ASPIRATION;kREFORMED VOICING;tASPIRATION;fVOWEL SIGN A;rA;rHH;rN;sG;qO;rO;qWO;r;qE;rN;sG;
qOEY;qI;rA;sN;tG;rO;rE;rI;rU;rNG;qU;rA;sN;tG;rU;rEI;rNG;qY;rI;qAE;sE;qERR;qROUNDED ERR;qER;
qROUNDED ER;qAI;qEI;qAU;qOU;qN;rG;qUOG;qYUI;qOG;rER;qVW;qIG;qEA;qIONG;qUI;16F8F:fTONE RIGHT;
kTOP RIGHT;kABOVE;kBELOW;fLETTER TONE-2;r3;r4;r5;r6;r7;r8;mREFORMED TONE-1;zb2;zb4;zb5;zb6;zb8;
16FE0:aTANGUT ITERATION MARK;aNUSHU ITERATION MARK;aOLD CHINESE HOOK MARK;mITERATION MARK;
aKHITAN SMALL SCRIPT FILLER;16FF0:aVIETNAMESE ALTERNATE READING MARK CA;zjNHAY;
18800:aTANGUT COMPONENT-001;t2;t3;t4;t5;t6;t7;t8;t9;s10;t1;t2;t3;t4;t5;t6;t7;t8;t9;s20;t1;t2;t3;
t4;t5;t6;t7;t8;t9;s30;t1;t2;t3;t4;t5;t6;t7;t8;t9;s40;t1;t2;t3;t4;t5;t6;t7;t8;t9;s50;t1;t2;t3;t4;
t5;t6;t7;t8;t9;s60;t1;t2;t3;t4;t5;t6;t7;t8;t9;s70;t1;t2;t3;t4;t5;t6;t7;t8;t9;s80;t1;t2;t3;t4;t5;
t6;t7;t8;t9;s90;t1;t2;t3;t4;t5;t6;t7;t8;t9;r100;t1;t2;t3;t4;t5;t6;t7;t8;t9;s10;t1;t2;t3;t4;t5;t6;
t7;t8;t9;s20;t1;t2;t3;t4;t5;t6;t7;t8;t9;s30;t1;t2;t3;t4;t5;t6;t7;t8;t9;s40;t1;t2;t3;t4;t5;t6;t7;
t8;t9;s50;t1;t2;t3;t4;t5;t6;t7;t8;t9;s60;t1;t2;t3;t4;t5;t6;t7;t8;t9;s70;t1;t2;t3;t4;t5;t6;t7;t8;
t9;s80;t1;t2;t3;t4;t5;t6;t7;t8;t9;s90;t1;t2;t3;t4;t5;t6;t7;t8;t9;r200;t1;t2;t3;t4;t5;t6;t7;t8;t9;
s10;t1;t2;t3;t4;t5;t6;t7;t8;t9;s20;t1;t2;t3;t4;t5;t6;t7;t8;t9;s30;t1;t2;t3;t4;t5;t6;t7;t8;t9;s40;
t1;t2;t3;t4;t5;t6;t7;t8;t9;s50;t1;t2;t3;t4;t5;t6;t7;t8;t9;s60;t1;t2;t3;t4;t5;t6;t7;t8;t9;s70;t1;
t2;t3;t4;t5;t6;t7;t8;t9;s80;t1;t2;t3;t4;t5;t6;t7;t8;t9;s90;t1;t2;t3;t4;t5;t6;t7;t8;t9;r300;t1;t2;
t3;t4;t5;t6;t7;t8;t9;s10;t1;t2;t3;t4;t5;t6;t7;t8;t9;s20;t1;t2;t3;t4;t5;t6;t7;t8;t9;s30;t1;t2;t3;
t4;t5;t6;t7;t8;t9;s40;t1;t2;t3;t4;t5;t6;t7;t8;t9;s50;t1;t2;t3;t4;t5;t6;t7;t8;t9;s60;t1;t2;t3;t4;
t5;t6;t7;t8;t9;s70;t1;t2;t3;t4;t5;t6;t7;t8;t9;s80;t1;t2;t3;t4;t5;t6;t7;t8;t9;s90;t1;t2;t3;t4;t5;
t6;t7;t8;t9;r400;t1;t2;t3;t4;t5;t6;t7;t8;t9;s10;t1;t2;t3;t4;t5;t6;t7;t8;t9;s20;t1;t2;t3;t4;t5;t6;
t7;t8;t9;s30;t1;t2;t3;t4;t5;t6;t7;t8;t9;s40;t1;t2;t3;t4;t5;t6;t7;t8;t9;s50;t1;t2;t3;t4;t5;t6;t7;
t8;t9;s60;t1;t2;t3;t4;t5;t6;t7;t8;t9;s70;t1;t2;t3;t4;t5;t6;t7;t8;t9;s80;t1;t2;t3;t4;t5;t6;t7;t8;
t9;s90;t1;t2;t3;t4;t5;t6;t7;t8;t9;r500;t1;t2;t3;t4;t5;t6;t7;t8;t9;s10;t1;t2;t3;t4;t5;t6;t7;t8;t9;
s20;t1;t2;t3;t4;t5;t6;t7;t8;t9;s30;t1;t2;t3;t4;t5;t6;t7;t8;t9;s40;t1;t2;t3;t4;t5;t6;t7;t8;t9;s50;
t1;t2;t3;t4;t5;t6;t7;t8;t9;s60;t1;t2;t3;t4;t5;t6;t7;t8;t9;s70;t1;t2;t3;t4;t5;t6;t7;t8;t9;s80;t1;
t2;t3;t4;t5;t6;t7;t8;t9;s90;t1;t2;t3;t4;t5;t6;t7;t8;t9;r600;t1;t2;t3;t4;t5;t6;t7;t8;t9;s10;t1;t2;
t3;t4;t5;t6;t7;t8;t9;s20;t1;t2;t3;t4;t5;t6;t7;t8;t9;s30;t1;t2;t3;t4;t5;t6;t7;t8;t9;s40;t1;t2;t3;
t4;t5;t6;t7;t8;t9;s50;t1;t2;t3;t4;t5;t6;t7;t8;t9;s60;t1;t2;t3;t4;t5;t6;t7;t8;t9;s70;t1;t2;t3;t4;
t5;t6;t7;t8;t9;s80;t1;t2;t3;t4;t5;t6;t7;t8;t9;s90;t1;t2;t3;t4;t5;t6;t7;t8;t9;r700;t1;t2;t3;t4;t5;
t6;t7;t8;t9;s10;t1;t2;t3;t4;t5;t6;t7;t8;t9;s20;t1;t2;t3;t4;t5;t6;t7;t8;t9;s30;t1;t2;t3;t4;t5;t6;
t7;t8;t9;s40;t1;t2;t3;t4;t5;t6;t7;t8;t9;s50;t1;t2;t3;t4;t5;t6;t7;t8;t9;s60;t1;t2;t3;t4;t5;t6;t7;
t8;aKHITAN SMALL SCRIPT CHARACTER-18B00;zj1;zj2;zj3;zj4;zj5;zj6;zj7;zj8;zj9;zjA;zjB;zjC;zjD;zjE;
zjF;zi10;zj1;zj2;zj3;zj4;zj5;zj6;zj7;zj8;zj9;zjA;zjB;zjC;zjD;zjE;zjF;zi20;zj1;zj2;zj3;zj4;zj5;zj6;
zj7;zj8;zj9;zjA;zjB;zjC;zjD;zjE;zjF;zi30;zj1;zj2;zj3;zj4;zj5;zj6;zj7;zj8;zj9;zjA;zjB;zjC;zjD;zjE;
zjF;zi40;zj1;zj2;zj3;zj4;zj5;zj6;zj7;zj8;zj9;zjA;zjB;zjC;zjD;zjE;zjF;zi50;zj1;zj2;zj3;zj4;zj5;zj6;
zj7;zj8;zj9;zjA;zjB;zjC;zjD;zjE;zjF;zi60;zj1;zj2;zj3;zj4;zj5;zj6;zj7;zj8;zj9;zjA;zjB;zjC;zjD;zjE;
zjF;zi70;zj1;zj2;zj3;zj4;zj5;zj6;zj7;zj8;zj9;zjA;zjB;zjC;zjD;zjE;zjF;zi80;zj1;zj2;zj3;zj4;zj5;zj6;
zj7;zj8;zj9;zjA;zjB;zjC;zjD;zjE;zjF;zi90;zj1;zj2;zj3;zj4;zj5;zj6;zj7;zj8;zj9;zjA;zjB;zjC;zjD;zjE;
zjF;ziA0;zj1;zj2;zj3;zj4;zj5;zj6;zj7;zj8;zj9;zjA;zjB;zjC;zjD;zjE;zjF;ziB0;zj1;zj2;zj3;zj4;zj5;zj6;
zj7;zj8;zj9;zjA;zjB;zjC;zjD;zjE;zjF;ziC0;zj1;zj2;zj3;zj4;zj5;zj6;zj7;zj8;zj9;zjA;zjB;zjC;zjD;zjE;
zjF;ziD0;zj1;zj2;zj3;zj4;zj5;zj6;zj7;zj8;zj9;zjA;zjB;zjC;zjD;zjE;zjF;ziE0;zj1;zj2;zj3;zj4;zj5;zj6;
zj7;zj8;zj9;zjA;zjB;zjC;zjD;zjE;zjF;ziF0;zj1;zj2;zj3;zj4;zj5;zj6;zj7;zj8;zj9;zjA;zjB;zjC;zjD;zjE;
zjF;zhC00;zj1;zj2;zj3;zj4;zj5;zj6;zj7;zj8;zj9;zjA;zjB;zjC;zjD;zjE;zjF;zi10;zj1;zj2;zj3;zj4;zj5;
zj6;zj7;zj8;zj9;zjA;zjB;zjC;zjD;zjE;zjF;zi20;zj1;zj2;zj3;zj4;zj5;zj6;zj7;zj8;zj9;zjA;zjB;zjC;zjD;
zjE;zjF;zi30;zj1;zj2;zj3;zj4;zj5;zj6;zj7;zj8;zj9;zjA;zjB;zjC;zjD;zjE;zjF;zi40;zj1;zj2;zj3;zj4;zj5;
zj6;zj7;zj8;zj9;zjA;zjB;zjC;zjD;zjE;zjF;zi50;zj1;zj2;zj3;zj4;zj5;zj6;zj7;zj8;zj9;zjA;zjB;zjC;zjD;
zjE;zjF;zi60;zj1;zj2;zj3;zj4;zj5;zj6;zj7;zj8;zj9;zjA;zjB;zjC;zjD;zjE;zjF;zi70;zj1;zj2;zj3;zj4;zj5;
zj6;zj7;zj8;zj9;zjA;zjB;zjC;zjD;zjE;zjF;zi80;zj1;zj2;zj3;zj4;zj5;zj6;zj7;zj8;zj9;zjA;zjB;zjC;zjD;
zjE;zjF;zi90;zj1;zj2;zj3;zj4;zj5;zj6;zj7;zj8;zj9;zjA;zjB;zjC;zjD;zjE;zjF;ziA0;zj1;zj2;zj3;zj4;zj5;
zj6;zj7;zj8;zj9;zjA;zjB;zjC;zjD;zjE;zjF;ziB0;zj1;zj2;zj3;zj4;zj5;zj6;zj7;zj8;zj9;zjA;zjB;zjC;zjD;
zjE;zjF;ziC0;zj1;zj2;zj3;zj4;zj5;zj6;zj7;zj8;zj9;zjA;zjB;zjC;zjD;zjE;zjF;ziD0;zj1;zj2;zj3;zj4;zj5;
1AFF0:bATAKANA LETTER MINNAN TONE-2;zd3;zd4;zd5;1AFF5:zd7;zd8;xNASALIZED TONE-1;zn2;zn3;zn4;zn5;
1AFFD:zn7;zn8;1B000:qARCHAIC E;aHIRAGANA LETTER ARCHAIC YE;bENTAIGANA LETTER A-1;u2;u3;uWO;sI-1;
u2;u3;u4;sU-1;u2;u3;u4;u5;sE-2;u3;u4;u5;u6;sO-1;u2;u3;sKA-1;v2;v3;v4;v5;v6;v7;v8;v9;v10;w1;vKE;
tI-1;v2;v3;v4;v5;v6;v7;v8;tU-1;v2;v3;v4;v5;v6;v7;tE-1;v2;v3;v4;v5;v6;tO-1;v2;v3;vKI;sSA-1;v2;v3;
v4;v5;v6;v7;v8;tI-1;v2;v3;v4;v5;v6;tU-1;v2;v3;v4;v5;v6;v7;v8;tE-1;v2;v3;v4;v5;tO-1;v2;v3;v4;v5;v6;
v7;sTA-1;v2;v3;v4;tI-1;v2;v3;v4;v5;v6;v7;tU-1;v2;v3;v4;vTO;tE-1;v2;v3;v4;v5;v6;v7;v8;v9;tO-1;v2;
v3;v4;v5;v6;vRA;sNA-1;v2;v3;v4;v5;v6;v7;v8;v9;tI-1;v2;v3;v4;v5;v6;v7;vTE;tU-1;v2;v3;tE-1;v2;v3;v4;
v5;v6;vKO;tO-1;v2;v3;v4;v5;sHA-1;v2;v3;v4;v5;v6;v7;v8;v9;v10;w1;tI-1;v2;v3;v4;v5;v6;v7;tU-1;v2;v3;
tE-1;v2;v3;v4;v5;v6;v7;tO-1;v2;v3;v4;v5;v6;v7;v8;sMA-1;v2;v3;v4;v5;v6;v7;tI-1;v2;v3;v4;v5;v6;v7;
tU-1;v2;v3;v4;tE-1;v2;vMA;tO-1;v2;v3;v4;v5;v6;sYA-1;v2;v3;v4;v5;vYO;tU-1;v2;v3;v4;tO-1;v2;v3;v4;
v5;v6;sRA-1;v2;v3;v4;tI-1;v2;v3;v4;v5;v6;v7;tU-1;v2;v3;v4;v5;v6;tE-1;v2;v3;v4;tO-1;v2;v3;v4;v5;v6;
sWA-1;v2;v3;v4;v5;tI-1;v2;v3;v4;v5;tE-1;v2;v3;v4;tO-1;v2;v3;v4;v5;v6;v7;sN-MU-MO-1;zb2;
bIRAGANA LETTER ARCHAIC WU;aKATAKANA LETTER ARCHAIC YI;zE;yWU;1B150:aHIRAGANA LETTER SMALL WI;xE;
xO;1B164:aKATAKANA LETTER SMALL WI;xE;xO;wN;1B170:aNUSHU CHARACTER-1B170;u1;u2;u3;u4;u5;u6;u7;u8;
u9;uA;uB;uC;uD;uE;uF;t80;u1;u2;u3;u4;u5;u6;u7;u8;u9;uA;uB;uC;uD;uE;uF;t90;u1;u2;u3;u4;u5;u6;u7;u8;
u9;uA;uB;uC;uD;uE;uF;tA0;u1;u2;u3;u4;u5;u6;u7;u8;u9;uA;uB;uC;uD;uE;uF;tB0;u1;u2;u3;u4;u5;u6;u7;u8;
u9;uA;uB;uC;uD;uE;uF;tC0;u1;u2;u3;u4;u5;u6;u7;u8;u9;uA;uB;uC;uD;uE;uF;tD0;u1;u2;u3;u4;u5;u6;u7;u8;
u9;uA;uB;uC;uD;uE;uF;tE0;u1;u2;u3;u4;u5;u6;u7;u8;u9;uA;uB;uC;uD;uE;uF;tF0;u1;u2;u3;u4;u5;u6;u7;u8;
u9;uA;uB;uC;uD;uE;uF;s200;u1;u2;u3;u4;u5;u6;u7;u8;u9;uA;uB;uC;uD;uE;uF;t10;u1;u2;u3;u4;u5;u6;u7;
u8;u9;uA;uB;uC;uD;uE;uF;t20;u1;u2;u3;u4;u5;u6;u7;u8;u9;uA;uB;uC;uD;uE;uF;t30;u1;u2;u3;u4;u5;u6;u7;
u8;u9;uA;uB;uC;uD;uE;uF;t40;u1;u2;u3;u4;u5;u6;u7;u8;u9;uA;uB;uC;uD;uE;uF;t50;u1;u2;u3;u4;u5;u6;u7;
u8;u9;uA;uB;uC;uD;uE;uF;t60;u1;u2;u3;u4;u5;u6;u7;u8;u9;uA;uB;uC;uD;uE;uF;t70;u1;u2;u3;u4;u5;u6;u7;
u8;u9;uA;uB;uC;uD;uE;uF;t80;u1;u2;u3;u4;u5;u6;u7;u8;u9;uA;uB;uC;uD;uE;uF;t90;u1;u2;u3;u4;u5;u6;u7;
u8;u9;uA;uB;uC;uD;uE;uF;tA0;u1;u2;u3;u4;u5;u6;u7;u8;u9;uA;uB;uC;uD;uE;uF;tB0;u1;u2;u3;u4;u5;u6;u7;
u8;u9;uA;uB;uC;uD;uE;uF;tC0;u1;u2;u3;u4;u5;u6;u7;u8;u9;uA;uB;uC;uD;uE;uF;tD0;u1;u2;u3;u4;u5;u6;u7;
u8;u9;uA;uB;uC;uD;uE;uF;tE0;u1;u2;u3;u4;u5;u6;u7;u8;u9;uA;uB;uC;uD;uE;uF;tF0;u1;u2;u3;u4;u5;u6;u7;
u8;u9;uA;uB;1BC00:aDUPLOYAN LETTER H;qX;qP;qT;qF;qK;qL;qB;qD;qV;qG;qR;qP N;qD S;qF N;qK M;qR S;
qTH;qSLOAN DH;qDH;qKK;qSLOAN J;qHL;qLH;qRH;qM;qN;qJ;qS;qM N;qN M;qJ M;qS J;qM WITH DOT;
qN WITH DOT;qJ WITH DOT;zbS INSIDE AND ABOVE;qS WITH DOT;zb BELOW;qM S;qN S;qJ S;qS S;qM N S;
qN M S;qJ M S;qS J S;qJ S WITH DOT;sN;t S;qS T;t R;sP;t R;qT S;sR S;qW;rH;r R;qS N;sM;qK R S;
qG R S;qS K;t R;qA;qSLOAN OW;qOA;r;qAOU;qI;qE;qIE;qSHORT I;qUI;qEE;qSLOAN EH;qROMANIAN I;
qSLOAN EE;qLONG I;qYE;qU;qEU;qXW;qU N;qLONG U;qROMANIAN U;qUH;qSLOAN U;qOOH;rW;rU;qWA;rO;rI;rEI;
rOW;qNASAL U;wO;wI;wA;qPERNIN AN;yM;qSLOAN EN;wAN;wON;qVOCALIC M;1BC70:jAFFIX LEFT HORIZONTAL SECA
NT;pMID HORIZONTAL SECANT;pRIGHT HORIZONTAL SECANT;pLOW VERTICAL SECANT;pMID VERTICAL SECANT;
pHIGH VERTICAL SECANT;pATTACHED SECANT;yLEFT-TO-RIGHT SECANT;yTANGENT;zbIL;yE HOOK;yI HOOK;
yTANGENT HOOK;1BC80:pHIGH ACUTE;uTIGHT ACUTE;uGRAVE;uLONG GRAVE;uDOT;uCIRCLE;uLINE;uWAVE;
uVERTICAL;1BC90:pLOW ACUTE;tTIGHT ACUTE;tGRAVE;tLONG GRAVE;tDOT;tCIRCLE;tLINE;tWAVE;tVERTICAL;
tARROW;1BC9C:jSIGN O WITH CROSS;jTHICK LETTER SELECTOR;jDOUBLE MARK;jPUNCTUATION CHINOOK FULL STOP
;aSHORTHAND FORMAT LETTER OVERLAP;rCONTINUING OVERLAP;rDOWN STEP;rUP STEP;1CF00:aZNAMENNY COMBININ
G MARK GORAZDO NIZKO S KRYZHEM ON LEFT;yNIZKO S KRYZHEM ON LEFT;yTSATA ON LEFT;
yGORAZDO NIZKO ON LEFT;yNIZKO ON LEFT;ySREDNE ON LEFT;yMALO POVYSHE ON LEFT;yPOVYSHE ON LEFT;
yVYSOKO ON LEFT;yMALO POVYSHE S KHOKHLOM ON LEFT;yPOVYSHE S KHOKHLOM ON LEFT;
yVYSOKO S KHOKHLOM ON LEFT;yGORAZDO NIZKO S KRYZHEM ON RIGHT;yNIZKO S KRYZHEM ON RIGHT;
yTSATA ON RIGHT;yGORAZDO NIZKO ON RIGHT;yNIZKO ON RIGHT;ySREDNE ON RIGHT;yMALO POVYSHE ON RIGHT;
yPOVYSHE ON RIGHT;yVYSOKO ON RIGHT;yMALO POVYSHE S KHOKHLOM ON RIGHT;yPOVYSHE S KHOKHLOM ON RIGHT;
yVYSOKO S KHOKHLOM ON RIGHT;yTSATA S KRYZHEM;yMALO POVYSHE S KRYZHEM;ySTRANNO MALO POVYSHE;
yPOVYSHE S KRYZHEM;ziTRANNO;yVYSOKO S KRYZHEM;yMALO POVYSHE STRANNO;yGORAZDO VYSOKO;yZELO;yON;
yRAVNO;yTIKHAYA;yBORZAYA;yUDARKA;yPODVERTKA;yLOMKA;yKUPNAYA;zACHKA;yZEVOK;ySKOBA;yRAZSEKA;
yKRYZH ON LEFT;1CF30:tTONAL RANGE MARK MRACHNO;zlSVETLO;zlTRESVETLO;tMARK ZADERZHKA;
yDEMESTVENNY ZADERZHKA;yOTSECHKA;yPODCHASHIE;zj WITH VERTICAL STROKE;yCHASHKA;zg POLNAYA;
yOBLACHKO;ySOROCHYA NOZHKA;yTOCHKA;yDVOETOCHIE;tATTACHING VERTICAL OMET;tMARK CURVED OMET;yKRYZH;
tLOWER TONAL RANGE INDICATOR;jPRIZNAK MODIFIER LEVEL-2;zh3;zbDIRECTION FLIP;zbKRYZH;zbROG;
1CF50:jNEUME KRYUK;u TIKHY;pPARAKLIT;pDVA V CHELNU;pKLYUCH;pZANOZHEK;pSTOPITSA;x S OCHKOM;
pPEREVODKA;y NEPOSTOYANNAYA;pSTOPITSA WITH SOROCHYA NOZHKA;pCHELYUSTKA;pPALKA;pZAPYATAYA;
pGOLUBCHIK BORZY;zTIKHY;zMRACHNY;zSVETLY;zTRESVETLY;pVRAKHIYA PROSTAYA;yMRACHNAYA;ySVETLAYA;
yTRESVETLAYA;yKLYUCHEVAYA PROSTAYA;zlMRACHNAYA;zlSVETLAYA;zlTRESVETLAYA;pDOUBLE ZAPYATAYA;
pREVERSED CHELYUSTKA;pDERBITSA;pKHAMILO;pCHASHKA;pPODCHASHIE;pSKAMEYTSA MRACHNAYA;zSVETLAYA;
zTRESVETLAYA;zbIKHAYA;pDEMESTVENNY KLYUCH;pSKAMEYTSA KLYUCHEVAYA SVETLAYA;zhNEPOSTOYANNAYA;
zhVAYA TIKHAYA;zDVOECHELNAYA PROSTAYA;znSVETLAYA;znNEPOSTOYANNAYA;znKLYUCHEVAYA;qLOZHITIE;
y S ZAPYATOY;zZAKRYTOE;zS KRYZHEM;pKRYZH;pROG;pFITA;pKOBYLA;pZMEYTSA;pSTATYA;v S ZAPYATOY;
yKRYZHEM;yZAPYATOY I KRYZHEM;yKRYZHEM I ZAPYATOY;wZAKRYTAYA;zg S ZAPYATOY;wS ROGOM;
yDVUMYA ZAPYATYMI;yZAPYATOY I PODCHASHIEM;pPOLKULIZMY;pSTATYA NEPOSTOYANNAYA;rRELA PROSTAYA;
wMRACHNOTIKHAYA;wKRYZHEVAYA;wPOLUPOVODNAYA;yVODNAYA;wNEPOSTOYANNAYA;wKLYUCHEPOVODNAYA;
zeNEPOSTOYANNAYA;wTIKHAYA PUTNAYA;wDVOECHELNAYA;zgOKRYZHEVAYA;zhPOVODNAYA;zgAYA KLYUCHEVAYA;
zgOPOVODNAYA KLYUCHEVAYA;wGROMNAYA WITH SINGLE ZAPYATAYA;zbOPOVODNAYA WITH SINGLE ZAPYATAYA;
zbNAYA;zbOPOVODNAYA;zl WITH DOUBLE ZAPYATAYA;zcKRYZHEVAYA;zm POVODNAYA;pMECHIK;v POVODNY;
wKLYUCHEVOY;zePOVODNY;zeNEPOSTOYANNY;pSTRELA TRYASOGLASNAYA;zdPOVODNAYA;zdSTRELNAYA;pOSOKA;
u SVETLAYA;vTRESVETLAYA;vKRYUKOVAYA SVETLAYA;wLYUCHEVAYA SVETLAYA;ziNEPOSTOYANNAYA;
pSTRELA KRYUKOVAYA;zh POVODNAYA;ziGROMNAYA WITH SINGLE ZAPYATAYA;zmOPOVODNAYA WITH SINGLE ZAPYATAY
A;zmNAYA;zmOPOVODNAYA;zw WITH DOUBLE ZAPYATAYA;znKRYZHEVAYA;zx POVODNAYA;ziTRYASKA;pKUFISMA;
pOBLAKO;pDUDA;pNEMKA;pPAUK"

end HttpTemplates.Text.CharacterName
