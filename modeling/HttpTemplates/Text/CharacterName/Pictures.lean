/-!
# Character names: pictures

The names of the characters from U+1D000 on. The format is that of
`Text.codeNamed?`.
-/

namespace HttpTemplates.Text.CharacterName

/-- The names of the characters from U+1D000 on. -/
def pictures : String :=
  "1D000:aBYZANTINE MUSICAL SYMBOL PSILI;zDASEIA;zPERISPOMENI;zOXEIA EKFONITIKON;zgDIPLI;
zVAREIA EKFONITIKON;zhDIPLI;zKATHISTI;zSYRMATIKI;zPARAKLITIKI;zYPOKRISIS;zj DIPLI;zKREMASTI;
zAPESO EKFONITIKON;zEXO EKFONITIKON;zTELEIA;zKENTIMATA;zAPOSTROFOS;zk DIPLI;zSYNEVMA;zTHITA;
zOLIGON ARCHAION;zGORGON ARCHAION;zPSILON;zCHAMILON;zVATHY;zISON ARCHAION;zKENTIMA ARCHAION;
zhTA ARCHAION;zSAXIMATA;zPARICHON;zSTAVROS APODEXIA;zOXEIAI ARCHAION;zVAREIAI ARCHAION;
zAPODERMA ARCHAION;zdTHEMA;zKLASMA;zREVMA;zPIASMA ARCHAION;zTINAGMA;zANATRICHISMA;zSEISMA;
zbYNAGMA ARCHAION;ziMETA STAVROU;zOYRANISMA ARCHAION;zTHEMA;zLEMOI;zDYO;zTRIA;zbESSERA;zKRATIMATA;
zAPESO EXO NEO;zFTHORA ARCHAION;zIMIFTHORA;zTROMIKON ARCHAION;zKATAVA TROMIKON;zPELASTON;
zbSIFISTON;zKONTEVMA;zCHOREVMA ARCHAION;zRAPISMA;zPARAKALESMA ARCHAION;zfLITIKI ARCHAION;zICHADIN;
zNANA;zPETASMA;zKONTEVMA ALLO;zTROMIKON ALLO;zSTRAGGISMATA;zGRONTHISMATA;zISON NEO;zOLIGON NEO;
zbXEIA NEO;zPETASTI;zKOUFISMA;zPETASTOKOUFISMA;zKRATIMOKOUFISMA;zPELASTON NEO;zKENTIMATA NEO ANO;
zh NEO ANO;zYPSILI;zAPOSTROFOS NEO;zjI SYNDESMOS NEO;zYPORROI;zKRATIMOYPORROON;zELAFRON;zCHAMILI;
zMIKRON ISON;zVAREIA NEO;zPIASMA NEO;zbSIFISTON NEO;zOMALON;zANTIKENOMA;zLYGISMA;zPARAKLITIKI NEO;
zfALESMA NEO;zETERON PARAKALESMA;zKYLISMA;zANTIKENOKYLISMA;zTROMIKON NEO;zEKSTREPTON;zSYNAGMA NEO;
zcRMA;zCHOREVMA NEO;zEPEGERMA;zSEISMA NEO;zXIRON KLASMA;zTROMIKOPSIFISTON;zPSIFISTOLYGISMA;
zTROMIKOLYGISMA;zhPARAKALESMA;zPSIFISTOPARAKALESMA;zTROMIKOSYNAGMA;zPSIFISTOSYNAGMA;
zGORGOSYNTHETON;zARGOSYNTHETON;zETERON ARGOSYNTHETON;zOYRANISMA NEO;zTHEMATISMOS ESO;znXO;
zf APLOUN;zdS KAI APOTHES;zKATAVASMA;zENDOFONON;zYFEN KATO;zfANO;zSTAVROS;zKLASMA ANO;
zDIPLI ARCHAION;zKRATIMA ARCHAION;zjLLO;ziNEO;zAPODERMA NEO;zcLI;zDIPLI;zTRIPLI;zbETRAPLI;
zKORONIS;zLEIMMA ENOS CHRONOU;zhDYO CHRONON;zhTRION CHRONON;ziESSARON CHRONON;zhIMISEOS CHRONOU;
zGORGON NEO ANO;zhPARESTIGMENON ARISTERA;zvDEXIA;zDIGORGON;zi PARESTIGMENON ARISTERA KATO;zzhANO;
zxDEXIA;zTRIGORGON;zARGON;zIMIDIARGON;zDIARGON;zAGOGI POLI ARGI;zgARGOTERI;zjI;zgMETRIA;ziSI;
zgGORGI;zkOTERI;zgPOLI GORGI;zMARTYRIA PROTOS ICHOS;zjALLI PROTOS ICHOS;zjDEYTEROS ICHOS;
zjALLI DEYTEROS ICHOS;zjTRITOS ICHOS;zmFONIAS;zkETARTOS ICHOS;zsLEGETOS ICHOS;zjLEGETOS ICHOS;
zjPLAGIOS ICHOS;zISAKIA TELOUS ICHIMATOS;zAPOSTROFOI TELOUS ICHIMATOS;zFANEROSIS TETRAFONIAS;
zkMONOFONIAS;zkDIFONIAS;zMARTYRIA VARYS ICHOS;zjPROTOVARYS ICHOS;zkLAGIOS TETARTOS ICHOS;
zGORTHMIKON N APLOUN;znDIPLOUN;zENARXIS KAI FTHORA VOU;zIMIFONON;zeTHORON;zFTHORA ARCHAION DEYTERO
U ICHOU;zhDIATONIKI PA;zrNANA;zhNAOS ICHOS;zhDIATONIKI DI;zhSKLIRON DIATONON DI;zhDIATONIKI KE;
zrZO;zrNI KATO;zuANO;zhMALAKON CHROMA DIFONIAS;zwMONOFONIAS;zbHTORA SKLIRON CHROMA VASIS;
zbTHORA SKLIRON CHROMA SYNAFI;zhNENANO;zCHROA ZYGOS;zgKLITON;zgSPATHI;zFTHORA I YFESIS TETARTIMORI
ON;zhENARMONIOS ANTIFONIA;zYFESIS TRITIMORION;zDIESIS TRITIMORION;ziETARTIMORION;
zhAPLI DYO DODEKATA;zhMONOGRAMMOS TESSERA DODEKATA;zhDIGRAMMOS EX DODEKATA;
zhTRIGRAMMOS OKTO DODEKATA;zYFESIS APLI DYO DODEKATA;zhMONOGRAMMOS TESSERA DODEKATA;
zhDIGRAMMOS EX DODEKATA;zhTRIGRAMMOS OKTO DODEKATA;zGENIKI DIESIS;zhYFESIS;zDIASTOLI APLI MIKRI;
zpEGALI;zjDIPLI;zjTHESEOS;zSIMANSIS THESEOS;zq DISIMOU;zrTRISIMOU;zsETRASIMOU;zjARSEOS;zp DISIMOU;
zqTRISIMOU;zrETRASIMOU;zDIGRAMMA GG;zcFTOGGOS OU;zSTIGMA;zARKTIKO PA;ziVOU;ziGA;ziDI;ziKE;ziZO;
ziNI;zKENTIMATA NEO MESO;zh NEO MESO;zhTA NEO KATO;zh NEO KATO;zbLASMA KATO;zGORGON NEO KATO;
1D100:aMUSICAL SYMBOL SINGLE BARLINE;pDOUBLE BARLINE;pFINAL BARLINE;pREVERSE FINAL BARLINE;
pDASHED BARLINE;pSHORT BARLINE;pLEFT REPEAT SIGN;pRIGHT REPEAT SIGN;qEPEAT DOTS;pDAL SEGNO;r CAPO;
pSEGNO;pCODA;pREPEATED FIGURE-1;zg2;zg3;pFERMATA;w BELOW;pBREATH MARK;pCAESURA;pBRACE;tKET;
pONE-LINE STAFF;pTWO-LINE STAFF;qHREE-LINE STAFF;pFOUR-LINE STAFF;qIVE-LINE STAFF;pSIX-LINE STAFF;
tSTRING FRETBOARD;pFOUR-STRING FRETBOARD;pG CLEF;v OTTAVA ALTA;zeBASSA;pC CLEF;pF CLEF;
v OTTAVA ALTA;zeBASSA;pDRUM CLEF-1;z2;1D129:pMULTIPLE MEASURE REST;pDOUBLE SHARP;wFLAT;pFLAT UP;
uDOWN;pNATURAL UP;xDOWN;pSHARP UP;vDOWN;pQUARTER TONE SHARP;zdFLAT;pCOMMON TIME;qUT TIME;
pOTTAVA ALTA;wBASSA;pQUINDICESIMA ALTA;zdBASSA;pMULTI REST;pWHOLE REST;pHALF REST;pQUARTER REST;
pEIGHTH REST;pSIXTEENTH REST;pTHIRTY-SECOND REST;pSIXTY-FOURTH REST;pONE HUNDRED TWENTY-EIGHTH RES
T;pX NOTEHEAD;pPLUS NOTEHEAD;pCIRCLE X NOTEHEAD;pSQUARE NOTEHEAD WHITE;zgBLACK;
pTRIANGLE NOTEHEAD UP WHITE;zlBLACK;ziLEFT WHITE;znBLACK;ziRIGHT WHITE;zoBLACK;ziDOWN WHITE;
znBLACK;ziUP RIGHT WHITE;zrBLACK;pMOON NOTEHEAD WHITE;zeBLACK;pTRIANGLE-ROUND NOTEHEAD DOWN WHITE;
ztBLACK;pPARENTHESIS NOTEHEAD;pVOID NOTEHEAD;pNOTEHEAD BLACK;qULL NOTEHEAD;
pCLUSTER NOTEHEAD WHITE;zhBLACK;pBREVE;pWHOLE NOTE;pHALF NOTE;pQUARTER NOTE;pEIGHTH NOTE;
pSIXTEENTH NOTE;pTHIRTY-SECOND NOTE;pSIXTY-FOURTH NOTE;pONE HUNDRED TWENTY-EIGHTH NOTE;
pCOMBINING STEM;zbPRECHGESANG STEM;zTREMOLO-1;zi2;zi3;pFINGERED TREMOLO-1;zh2;zh3;
pCOMBINING AUGMENTATION DOT;zFLAG-1;zf2;zf3;zf4;zf5;pBEGIN BEAM;pEND BEAM;pBEGIN TIE;pEND TIE;
pBEGIN SLUR;pEND SLUR;pBEGIN PHRASE;pEND PHRASE;pCOMBINING ACCENT;zSTACCATO;zTENUTO;
zSTACCATISSIMO;zMARCATO;zh-STACCATO;zACCENT-STACCATO;zLOURE;pARPEGGIATO UP;zbDOWN;pCOMBINING DOIT;
zRIP;zFLIP;zSMEAR;zBEND;zDOUBLE TONGUE;zTRIPLE TONGUE;pRINFORZANDO;pSUBITO;pZ;pPIANO;pMEZZO;
pFORTE;pCRESCENDO;pDECRESCENDO;pGRACE NOTE SLASH;zbNO SLASH;pTR;qURN;pINVERTED TURN;pTURN SLASH;
uUP;pORNAMENT STROKE-1;zg2;zg3;zg4;zg5;zg6;zg7;zg8;zg9;zg10;zh1;pHAUPTSTIMME;pNEBENSTIMME;
pEND OF STIMME;pDEGREE SLASH;pCOMBINING DOWN BOW;zUP BOW;zHARMONIC;zSNAP PIZZICATO;pPEDAL MARK;
vUP MARK;pHALF PEDAL MARK;pGLISSANDO UP;zDOWN;pWITH FINGERNAILS;pDAMP;t ALL;pMAXIMA;pLONGA;
pBREVIS;pSEMIBREVIS WHITE;zbBLACK;pMINIMA;v BLACK;pSEMIMINIMA WHITE;zbBLACK;pFUSA WHITE;uBLACK;
pLONGA PERFECTA REST;vIMPERFECTA REST;pBREVIS REST;pSEMIBREVIS REST;pMINIMA REST;pSEMIMINIMA REST;
pTEMPUS PERFECTUM CUM PROLATIONE PERFECTA;zwIMPERFECTA;zwPERFECTA DIMINUTION-1;
wIMPERFECTUM CUM PROLATIONE PERFECTA;zyIMPERFECTA;zzj DIMINUTION-1;zzv2;zzv3;pCROIX;
pGREGORIAN C CLEF;zF CLEF;pSQUARE B;pVIRGA;pPODATUS;pCLIVIS;pSCANDICUS;pCLIMACUS;pTORCULUS;
pPORRECTUS;y FLEXUS;pSCANDICUS FLEXUS;pTORCULUS RESUPINUS;pPES SUBPUNCTIS;pKIEVAN C CLEF;
wEND OF PIECE;wFINAL NOTE;wRECITATIVE MARK;wWHOLE NOTE;wHALF NOTE;wQUARTER NOTE STEM DOWN;zpUP;
wEIGHTH NOTE STEM DOWN;zoUP;wFLAT SIGN;pSORI;pKORON;1D200:aGREEK VOCAL NOTATION SYMBOL-1;zd2;zd3;
zd4;zd5;zd6;zd7;zd8;zd9;zd10;ze1;ze2;ze3;ze4;ze5;ze6;ze7;ze8;ze9;zd20;ze1;ze2;ze3;ze4;zd50;ze1;
ze2;ze3;ze4;gINSTRUMENTAL NOTATION SYMBOL-1;zk2;zk4;zk5;zk7;zk8;zk11;zl2;zl3;zl4;zl7;zl8;zl9;zk23;
zl4;zl5;zl6;zl7;zl9;zk30;zl2;zl6;zl7;zl8;zl9;zk40;zl2;zl3;zl5;zl7;zl8;zl9;zk50;zl1;zl2;zl3;zl4;
aCOMBINING GREEK MUSICAL TRISEME;zETRASEME;yPENTASEME;aGREEK MUSICAL LEIMMA;
1D2E0:aMAYAN NUMERAL ZERO;oONE;oTWO;pHREE;oFOUR;pIVE;oSIX;pEVEN;oEIGHT;oNINE;oTEN;oELEVEN;oTWELVE;
pHIRTEEN;oFOURTEEN;pIFTEEN;oSIXTEEN;pEVENTEEN;oEIGHTEEN;oNINETEEN;1D300:bONOGRAM FOR EARTH;
aDIGRAM FOR HEAVENLY EARTH;mUMAN EARTH;lEARTHLY HEAVEN;uUMAN;q;aTETRAGRAM FOR CENTRE;oFULL CIRCLE;
oMIRED;oBARRIER;oKEEPING SMALL;oCONTRARIETY;oASCENT;oOPPOSITION;oBRANCHING OUT;
oDEFECTIVENESS OR DISTORTION;pIVERGENCE;oYOUTHFULNESS;oINCREASE;oPENETRATION;oREACH;oCONTACT;
oHOLDING BACK;oWAITING;oFOLLOWING;oADVANCE;oRELEASE;qSISTANCE;oEASE;oJOY;oCONTENTION;oENDEAVOUR;
oDUTIES;oCHANGE;oDECISIVENESS;oBOLD RESOLUTION;oPACKING;oLEGION;oCLOSENESS;oKINSHIP;oGATHERING;
oSTRENGTH;oPURITY;oFULLNESS;oRESIDENCE;oLAW OR MODEL;oRESPONSE;oGOING TO MEET;oENCOUNTERS;oSTOVE;
oGREATNESS;oENLARGEMENT;oPATTERN;oRITUAL;oFLIGHT;oVASTNESS OR WASTING;oCONSTANCY;oMEASURE;
oETERNITY;oUNITY;oDIMINISHMENT;oCLOSED MOUTH;oGUARDEDNESS;pATHERING IN;oMASSING;oACCUMULATION;
oEMBELLISHMENT;oDOUBT;oWATCH;oSINKING;oINNER;oDEPARTURE;pARKENING;pIMMING;oEXHAUSTION;oSEVERANCE;
pTOPPAGE;oHARDNESS;oCOMPLETION;pLOSURE;oFAILURE;oAGGRAVATION;oCOMPLIANCE;oON THE VERGE;
oDIFFICULTIES;oLABOURING;oFOSTERING;1D360:aCOUNTING ROD UNIT DIGIT ONE;yTWO;zHREE;yFOUR;zIVE;ySIX;
zEVEN;yEIGHT;yNINE;nTENS DIGIT ONE;yTWO;zHREE;yFOUR;zIVE;ySIX;zEVEN;yEIGHT;yNINE;
aIDEOGRAPHIC TALLY MARK ONE;xTWO;yHREE;xFOUR;yIVE;aTALLY MARK ONE;lFIVE;1D400:aMATHEMATICAL BOLD C
APITAL A;zbB;zbC;zbD;zbE;zbF;zbG;zbH;zbI;zbJ;zbK;zbL;zbM;zbN;zbO;zbP;zbQ;zbR;zbS;zbT;zbU;zbV;zbW;
zbX;zbY;zbZ;sSMALL A;yB;yC;yD;yE;yF;yG;yH;yI;yJ;yK;yL;yM;yN;yO;yP;yQ;yR;yS;yT;yU;yV;yW;yX;yY;yZ;
nITALIC CAPITAL A;zdB;zdC;zdD;zdE;zdF;zdG;zdH;zdI;zdJ;zdK;zdL;zdM;zdN;zdO;zdP;zdQ;zdR;zdS;zdT;zdU;
zdV;zdW;zdX;zdY;zdZ;uSMALL A;zbB;zbC;zbD;zbE;zbF;zbG;1D456:zbI;zbJ;zbK;zbL;zbM;zbN;zbO;zbP;zbQ;
zbR;zbS;zbT;zbU;zbV;zbW;zbX;zbY;zbZ;nBOLD ITALIC CAPITAL A;ziB;ziC;ziD;ziE;ziF;ziG;ziH;ziI;ziJ;
ziK;ziL;ziM;ziN;ziO;ziP;ziQ;ziR;ziS;ziT;ziU;ziV;ziW;ziX;ziY;ziZ;zSMALL A;zgB;zgC;zgD;zgE;zgF;zgG;
zgH;zgI;zgJ;zgK;zgL;zgM;zgN;zgO;zgP;zgQ;zgR;zgS;zgT;zgU;zgV;zgW;zgX;zgY;zgZ;nSCRIPT CAPITAL A;
1D49E:zdC;zdD;1D4A2:zdG;1D4A5:zdJ;zdK;1D4A9:zdN;zdO;zdP;zdQ;1D4AE:zdS;zdT;zdU;zdV;zdW;zdX;zdY;zdZ;
uSMALL A;zbB;zbC;zbD;1D4BB:zbF;1D4BD:zbH;zbI;zbJ;zbK;zbL;zbM;zbN;1D4C5:zbP;zbQ;zbR;zbS;zbT;zbU;
zbV;zbW;zbX;zbY;zbZ;nBOLD SCRIPT CAPITAL A;ziB;ziC;ziD;ziE;ziF;ziG;ziH;ziI;ziJ;ziK;ziL;ziM;ziN;
ziO;ziP;ziQ;ziR;ziS;ziT;ziU;ziV;ziW;ziX;ziY;ziZ;zSMALL A;zgB;zgC;zgD;zgE;zgF;zgG;zgH;zgI;zgJ;zgK;
zgL;zgM;zgN;zgO;zgP;zgQ;zgR;zgS;zgT;zgU;zgV;zgW;zgX;zgY;zgZ;nFRAKTUR CAPITAL A;zeB;1D507:zeD;zeE;
zeF;zeG;1D50D:zeJ;zeK;zeL;zeM;zeN;zeO;zeP;zeQ;1D516:zeS;zeT;zeU;zeV;zeW;zeX;zeY;1D51E:vSMALL A;
zcB;zcC;zcD;zcE;zcF;zcG;zcH;zcI;zcJ;zcK;zcL;zcM;zcN;zcO;zcP;zcQ;zcR;zcS;zcT;zcU;zcV;zcW;zcX;zcY;
zcZ;nDOUBLE-STRUCK CAPITAL A;zkB;1D53B:zkD;zkE;zkF;zkG;1D540:zkI;zkJ;zkK;zkL;zkM;1D546:zkO;
1D54A:zkS;zkT;zkU;zkV;zkW;zkX;zkY;1D552:zcSMALL A;ziB;ziC;ziD;ziE;ziF;ziG;ziH;ziI;ziJ;ziK;ziL;ziM;
ziN;ziO;ziP;ziQ;ziR;ziS;ziT;ziU;ziV;ziW;ziX;ziY;ziZ;nBOLD FRAKTUR CAPITAL A;zjB;zjC;zjD;zjE;zjF;
zjG;zjH;zjI;zjJ;zjK;zjL;zjM;zjN;zjO;zjP;zjQ;zjR;zjS;zjT;zjU;zjV;zjW;zjX;zjY;zjZ;zbSMALL A;zhB;zhC;
zhD;zhE;zhF;zhG;zhH;zhI;zhJ;zhK;zhL;zhM;zhN;zhO;zhP;zhQ;zhR;zhS;zhT;zhU;zhV;zhW;zhX;zhY;zhZ;
nSANS-SERIF CAPITAL A;zhB;zhC;zhD;zhE;zhF;zhG;zhH;zhI;zhJ;zhK;zhL;zhM;zhN;zhO;zhP;zhQ;zhR;zhS;zhT;
zhU;zhV;zhW;zhX;zhY;zhZ;ySMALL A;zfB;zfC;zfD;zfE;zfF;zfG;zfH;zfI;zfJ;zfK;zfL;zfM;zfN;zfO;zfP;zfQ;
zfR;zfS;zfT;zfU;zfV;zfW;zfX;zfY;zfZ;yBOLD CAPITAL A;zmB;zmC;zmD;zmE;zmF;zmG;zmH;zmI;zmJ;zmK;zmL;
zmM;zmN;zmO;zmP;zmQ;zmR;zmS;zmT;zmU;zmV;zmW;zmX;zmY;zmZ;zeSMALL A;zkB;zkC;zkD;zkE;zkF;zkG;zkH;zkI;
zkJ;zkK;zkL;zkM;zkN;zkO;zkP;zkQ;zkR;zkS;zkT;zkU;zkV;zkW;zkX;zkY;zkZ;yITALIC CAPITAL A;zoB;zoC;zoD;
zoE;zoF;zoG;zoH;zoI;zoJ;zoK;zoL;zoM;zoN;zoO;zoP;zoQ;zoR;zoS;zoT;zoU;zoV;zoW;zoX;zoY;zoZ;zgSMALL A;
zmB;zmC;zmD;zmE;zmF;zmG;zmH;zmI;zmJ;zmK;zmL;zmM;zmN;zmO;zmP;zmQ;zmR;zmS;zmT;zmU;zmV;zmW;zmX;zmY;
zmZ;yBOLD ITALIC CAPITAL A;ztB;ztC;ztD;ztE;ztF;ztG;ztH;ztI;ztJ;ztK;ztL;ztM;ztN;ztO;ztP;ztQ;ztR;
ztS;ztT;ztU;ztV;ztW;ztX;ztY;ztZ;zlSMALL A;zrB;zrC;zrD;zrE;zrF;zrG;zrH;zrI;zrJ;zrK;zrL;zrM;zrN;zrO;
zrP;zrQ;zrR;zrS;zrT;zrU;zrV;zrW;zrX;zrY;zrZ;nMONOSPACE CAPITAL A;zgB;zgC;zgD;zgE;zgF;zgG;zgH;zgI;
zgJ;zgK;zgL;zgM;zgN;zgO;zgP;zgQ;zgR;zgS;zgT;zgU;zgV;zgW;zgX;zgY;zgZ;xSMALL A;zeB;zeC;zeD;zeE;zeF;
zeG;zeH;zeI;zeJ;zeK;zeL;zeM;zeN;zeO;zeP;zeQ;zeR;zeS;zeT;zeU;zeV;zeW;zeX;zeY;zeZ;
nITALIC SMALL DOTLESS I;zjJ;1D6A8:nBOLD CAPITAL ALPHA;zbBETA;zbGAMMA;zbDELTA;zbEPSILON;zbZETA;
zbETA;zbTHETA;zbIOTA;zbKAPPA;zbLAMDA;zbMU;zbNU;zbXI;zbOMICRON;zbPI;zbRHO;zbTHETA SYMBOL;zbSIGMA;
zbTAU;zbUPSILON;zbPHI;zbCHI;zbPSI;zbOMEGA;sNABLA;sSMALL ALPHA;yBETA;yGAMMA;yDELTA;yEPSILON;yZETA;
yETA;yTHETA;yIOTA;yKAPPA;yLAMDA;yMU;yNU;yXI;yOMICRON;yPI;yRHO;yFINAL SIGMA;ySIGMA;yTAU;yUPSILON;
yPHI;yCHI;yPSI;yOMEGA;sPARTIAL DIFFERENTIAL;sEPSILON SYMBOL;sTHETA SYMBOL;sKAPPA SYMBOL;
sPHI SYMBOL;sRHO SYMBOL;sPI SYMBOL;nITALIC CAPITAL ALPHA;zdBETA;zdGAMMA;zdDELTA;zdEPSILON;zdZETA;
zdETA;zdTHETA;zdIOTA;zdKAPPA;zdLAMDA;zdMU;zdNU;zdXI;zdOMICRON;zdPI;zdRHO;zdTHETA SYMBOL;zdSIGMA;
zdTAU;zdUPSILON;zdPHI;zdCHI;zdPSI;zdOMEGA;uNABLA;uSMALL ALPHA;zbBETA;zbGAMMA;zbDELTA;zbEPSILON;
zbZETA;zbETA;zbTHETA;zbIOTA;zbKAPPA;zbLAMDA;zbMU;zbNU;zbXI;zbOMICRON;zbPI;zbRHO;zbFINAL SIGMA;
zbSIGMA;zbTAU;zbUPSILON;zbPHI;zbCHI;zbPSI;zbOMEGA;uPARTIAL DIFFERENTIAL;uEPSILON SYMBOL;
uTHETA SYMBOL;uKAPPA SYMBOL;uPHI SYMBOL;uRHO SYMBOL;uPI SYMBOL;nBOLD ITALIC CAPITAL ALPHA;ziBETA;
ziGAMMA;ziDELTA;ziEPSILON;ziZETA;ziETA;ziTHETA;ziIOTA;ziKAPPA;ziLAMDA;ziMU;ziNU;ziXI;ziOMICRON;
ziPI;ziRHO;ziTHETA SYMBOL;ziSIGMA;ziTAU;ziUPSILON;ziPHI;ziCHI;ziPSI;ziOMEGA;zNABLA;zSMALL ALPHA;
zgBETA;zgGAMMA;zgDELTA;zgEPSILON;zgZETA;zgETA;zgTHETA;zgIOTA;zgKAPPA;zgLAMDA;zgMU;zgNU;zgXI;
zgOMICRON;zgPI;zgRHO;zgFINAL SIGMA;zgSIGMA;zgTAU;zgUPSILON;zgPHI;zgCHI;zgPSI;zgOMEGA;
zPARTIAL DIFFERENTIAL;zEPSILON SYMBOL;zTHETA SYMBOL;zKAPPA SYMBOL;zPHI SYMBOL;zRHO SYMBOL;
zPI SYMBOL;nSANS-SERIF BOLD CAPITAL ALPHA;zmBETA;zmGAMMA;zmDELTA;zmEPSILON;zmZETA;zmETA;zmTHETA;
zmIOTA;zmKAPPA;zmLAMDA;zmMU;zmNU;zmXI;zmOMICRON;zmPI;zmRHO;zmTHETA SYMBOL;zmSIGMA;zmTAU;zmUPSILON;
zmPHI;zmCHI;zmPSI;zmOMEGA;zeNABLA;zeSMALL ALPHA;zkBETA;zkGAMMA;zkDELTA;zkEPSILON;zkZETA;zkETA;
zkTHETA;zkIOTA;zkKAPPA;zkLAMDA;zkMU;zkNU;zkXI;zkOMICRON;zkPI;zkRHO;zkFINAL SIGMA;zkSIGMA;zkTAU;
zkUPSILON;zkPHI;zkCHI;zkPSI;zkOMEGA;zePARTIAL DIFFERENTIAL;zeEPSILON SYMBOL;zeTHETA SYMBOL;
zeKAPPA SYMBOL;zePHI SYMBOL;zeRHO SYMBOL;zePI SYMBOL;zeITALIC CAPITAL ALPHA;ztBETA;ztGAMMA;
ztDELTA;ztEPSILON;ztZETA;ztETA;ztTHETA;ztIOTA;ztKAPPA;ztLAMDA;ztMU;ztNU;ztXI;ztOMICRON;ztPI;ztRHO;
ztTHETA SYMBOL;ztSIGMA;ztTAU;ztUPSILON;ztPHI;ztCHI;ztPSI;ztOMEGA;zlNABLA;zlSMALL ALPHA;zrBETA;
zrGAMMA;zrDELTA;zrEPSILON;zrZETA;zrETA;zrTHETA;zrIOTA;zrKAPPA;zrLAMDA;zrMU;zrNU;zrXI;zrOMICRON;
zrPI;zrRHO;zrFINAL SIGMA;zrSIGMA;zrTAU;zrUPSILON;zrPHI;zrCHI;zrPSI;zrOMEGA;zlPARTIAL DIFFERENTIAL;
zlEPSILON SYMBOL;zlTHETA SYMBOL;zlKAPPA SYMBOL;zlPHI SYMBOL;zlRHO SYMBOL;zlPI SYMBOL;
nBOLD CAPITAL DIGAMMA;sSMALL DIGAMMA;1D7CE:sDIGIT ZERO;yONE;yTWO;zHREE;yFOUR;zIVE;ySIX;zEVEN;
yEIGHT;yNINE;nDOUBLE-STRUCK DIGIT ZERO;ziONE;ziTWO;zjHREE;ziFOUR;zjIVE;ziSIX;zjEVEN;ziEIGHT;
ziNINE;nSANS-SERIF DIGIT ZERO;zfONE;zfTWO;zgHREE;zfFOUR;zgIVE;zfSIX;zgEVEN;zfEIGHT;zfNINE;
yBOLD DIGIT ZERO;zkONE;zkTWO;zlHREE;zkFOUR;zlIVE;zkSIX;zlEVEN;zkEIGHT;zkNINE;
nMONOSPACE DIGIT ZERO;zeONE;zeTWO;zfHREE;zeFOUR;zfIVE;zeSIX;zfEVEN;zeEIGHT;zeNINE;
aSIGNWRITING HAND-FIST INDEX;rCIRCLE INDEX;sUP INDEX;rOVAL INDEX;rHINGE INDEX;rANGLE INDEX;
rFIST INDEX BENT;rCIRCLE INDEX BENT;rFIST THUMB UNDER INDEX BENT;wINDEX RAISED KNUCKLE;zdCUPPED;
zdHINGED;zj LOW;rCIRCLE INDEX HINGE;rFIST INDEX MIDDLE;rCIRCLE INDEX MIDDLE;
rFIST INDEX MIDDLE BENT;zkRAISED KNUCKLES;zkHINGED;zdUP MIDDLE HINGED;zdHINGED MIDDLE UP;
zdMIDDLE CONJOINED;zt INDEX BENT;zuMIDDLE BENT;zuCUPPED;zuHINGED;zlROSSED;rCIRCLE INDEX MIDDLE CRO
SSED;rFIST MIDDLE BENT OVER INDEX;wINDEX BENT OVER MIDDLE;zdMIDDLE THUMB;rCIRCLE INDEX MIDDLE THUM
B;rFIST INDEX MIDDLE STRAIGHT THUMB BENT;zkBENT THUMB STRAIGHT;zkTHUMB BENT;
zkHINGED SPREAD THUMB SIDE;zdUP MIDDLE HINGED THUMB SIDE;zzbCONJOINED;zdHINGED MIDDLE UP THUMB SID
E;zdMIDDLE UP SPREAD THUMB FORWARD;zkTHUMB CUPPED;zrIRCLED;zqHOOKED;zrINGED;
wTHUMB BETWEEN INDEX MIDDLE STRAIGHT;wINDEX MIDDLE CONJOINED THUMB SIDE;zzf CONJOINED;zzgBENT;
wMIDDLE THUMB HOOKED INDEX UP;wINDEX THUMB HOOKED MIDDLE UP;zdMIDDLE CONJOINED HINGED THUMB SIDE;
zlROSSED THUMB SIDE;zlONJOINED THUMB FORWARD;zuCUPPED THUMB FORWARD;wMIDDLE THUMB CUPPED INDEX UP;
wINDEX THUMB CUPPED MIDDLE UP;wMIDDLE THUMB CIRCLED INDEX UP;zyHINGED;wINDEX THUMB ANGLED OUT MIDD
LE UP;zqIN MIDDLE UP;zjCIRCLED MIDDLE UP;zdMIDDLE THUMB CONJOINED HINGED;zqANGLED OUT;zw;
wMIDDLE THUMB ANGLED OUT INDEX UP;zzcCROSSED;zrINDEX UP;wINDEX THUMB HOOKED MIDDLE HINGED;
sLAT FOUR FINGERS;zj BENT;zkHINGED;zkCONJOINED;zt SPLIT;rCLAW FOUR FINGERS CONJOINED;
rFIST FOUR FINGERS CONJOINED BENT;rHINGE FOUR FINGERS CONJOINED;rFLAT FIVE FINGERS SPREAD;
wHEEL FIVE FINGERS SPREAD;wFIVE FINGERS SPREAD FOUR BENT;wHEEL FIVE FINGERS SPREAD FOUR BENT;
wFIVE FINGERS SPREAD BENT;wHEEL FIVE FINGERS SPREAD BENT;wFIVE FINGERS SPREAD THUMB FORWARD;
rCUP FIVE FINGERS SPREAD;zp OPEN;rHINGE FIVE FINGERS SPREAD OPEN;rOVAL FIVE FINGERS SPREAD;
rFLAT FIVE FINGERS SPREAD HINGED;zx THUMB SIDE;zyNO THUMB;v;v BETWEEN PALM FACINGS;wHEEL;
wTHUMB SIDE;wHEEL THUMB SIDE;wTHUMB BENT;zdFORWARD;wSPLIT INDEX THUMB SIDE;zdCENTRE;zj THUMB SIDE;
zu BENT;zdLITTLE;rCLAW;v THUMB SIDE;wNO THUMB;wTHUMB FORWARD;rHOOK CURLICUE;v;rCUP OPEN;u;
u OPEN THUMB SIDE;vTHUMB SIDE;vOPEN NO THUMB;vNO THUMB;vOPEN THUMB FORWARD;vTHUMB FORWARD;
tRLICUE OPEN;z;sIRCLE;rOVAL;v THUMB SIDE;wNO THUMB;wTHUMB FORWARD;rHINGE OPEN;zc THUMB FORWARD;w;
w SMALL;xOPEN THUMB SIDE;xTHUMB SIDE;xOPEN NO THUMB;xNO THUMB;xTHUMB SIDE TOUCHING INDEX;
zeBETWEEN MIDDLE RING;rANGLE;rFIST INDEX MIDDLE RING;rCIRCLE INDEX MIDDLE RING;
rHINGE INDEX MIDDLE RING;rANGLE INDEX MIDDLE RING;rHINGE LITTLE;rFIST INDEX MIDDLE RING BENT;
zpCONJOINED;rHINGE INDEX MIDDLE RING CONJOINED;rFIST LITTLE DOWN;zi RIPPLE STRAIGHT;zqCURVED;
zjOTHERS CIRCLED;zeUP;wTHUMB UNDER LITTLE UP;rCIRCLE LITTLE UP;rOVAL LITTLE UP;rANGLE LITTLE UP;
rFIST LITTLE RAISED KNUCKLE;zeBENT;zeTOUCHES THUMB;zfHUMB;rHINGE LITTLE THUMB;
rFIST LITTLE INDEX THUMB;rHINGE LITTLE INDEX THUMB;rANGLE LITTLE INDEX THUMB INDEX THUMB OUT;zzd;
rFIST LITTLE INDEX;rCIRCLE LITTLE INDEX;rHINGE LITTLE INDEX;rANGLE LITTLE INDEX;
rFIST INDEX MIDDLE LITTLE;rCIRCLE INDEX MIDDLE LITTLE;rHINGE INDEX MIDDLE LITTLE;xRING;
rANGLE INDEX MIDDLE LITTLE;rFIST INDEX MIDDLE CROSS LITTLE;rCIRCLE INDEX MIDDLE CROSS LITTLE;
rFIST RING DOWN;rHINGE RING DOWN INDEX THUMB HOOK MIDDLE;rANGLE RING DOWN MIDDLE THUMB INDEX CROSS
;rFIST RING UP;zcRAISED KNUCKLE;zcLITTLE;rCIRCLE RING LITTLE;rOVAL RING LITTLE;rANGLE RING LITTLE;
rFIST RING MIDDLE;zi CONJOINED;zjRAISED KNUCKLES;zcINDEX;zcTHUMB;rHOOK RING THUMB;
rFIST INDEX RING LITTLE;rCIRCLE INDEX RING LITTLE;sURLICUE INDEX RING LITTLE ON;
rHOOK INDEX RING LITTLE OUT;zpIN;zpUNDER;rCUP INDEX RING LITTLE;rHINGE INDEX RING LITTLE;
rANGLE INDEX RING LITTLE OUT;zp;rFIST MIDDLE DOWN;rHINGE MIDDLE;rFIST MIDDLE UP;rCIRCLE MIDDLE UP;
rFIST MIDDLE RAISED KNUCKLE;zeUP THUMB SIDE;rHOOK MIDDLE THUMB;rFIST MIDDLE THUMB LITTLE;zeLITTLE;
zeRING LITTLE;rCIRCLE MIDDLE RING LITTLE;sURLICUE MIDDLE RING LITTLE ON;tP MIDDLE RING LITTLE;
rHINGE MIDDLE RING LITTLE;rANGLE MIDDLE RING LITTLE OUT;zrIN;zq;rCIRCLE MIDDLE RING LITTLE BENT;
sLAW MIDDLE RING LITTLE CONJOINED;zz SIDE;rHOOK MIDDLE RING LITTLE CONJOINED OUT;zzbIN;zz;
sINGE INDEX HINGED;rFIST INDEX THUMB SIDE;rHINGE INDEX THUMB SIDE;rFIST INDEX THUMB SIDE THUMB DIA
GONAL;zuCONJOINED;zuBENT;zoINDEX BENT;zoBOTH BENT;zoINDEX HINGE;zjFORWARD INDEX STRAIGHT;zxBENT;
zjHOOK;zjCURLICUE;zmVE THUMB INSIDE;rCLAW INDEX THUMB CURVE THUMB INSIDE;rFIST INDEX THUMB CURVE T
HUMB UNDER;zkIRCLE;rCUP INDEX THUMB;zh OPEN;rHINGE INDEX THUMB OPEN;zkLARGE;zj;zj SMALL;
rANGLE INDEX THUMB OUT;zkIN;zj;rFIST THUMB;zc HEEL;zdSIDE DIAGONAL;ziCONJOINED;ziBENT;zdFORWARD;
zdBETWEEN INDEX MIDDLE;zlMIDDLE RING;zlRING LITTLE;zdUNDER TWO FINGERS;zdOVER TWO FINGERS;
zdUNDER THREE FINGERS;zjFOUR FINGERS;zdOVER FOUR RAISED KNUCKLES;v;v HEEL;mTOUCH SINGLE;sMULTIPLE;
sBETWEEN;mGRASP SINGLE;sMULTIPLE;sBETWEEN;mSTRIKE SINGLE;tMULTIPLE;tBETWEEN;mBRUSH SINGLE;
sMULTIPLE;sBETWEEN;mRUB SINGLE;qMULTIPLE;qBETWEEN;mSURFACE SYMBOLS;uBETWEEN;nQUEEZE LARGE SINGLE;
uSMALL SINGLE;uLARGE MULTIPLE;uSMALL MULTIPLE;vEQUENTIAL;mFLICK LARGE SINGLE;sSMALL SINGLE;
sLARGE MULTIPLE;sSMALL MULTIPLE;tEQUENTIAL;mSQUEEZE FLICK ALTERNATING;mMOVEMENT-HINGE UP DOWN LARG
E;zkSMALL;zfSEQUENTIAL;zcDOWN SEQUENTIAL;zcUP DOWN ALTERNATING LARGE;zwSMALL;
zcSIDE TO SIDE SCISSORS;vWALLPLANE FINGER CONTACT;vFLOORPLANE FINGER CONTACT;
vWALLPLANE SINGLE STRAIGHT SMALL;zwMEDIUM;zwLARGE;zzcST;znWRIST FLEX;zgDOUBLE STRAIGHT;
znWRIST FLEX;znALTERNATING;zy WRIST FLEX;zgCROSS;zgTRIPLE STRAIGHT MOVEMENT;znWRIST FLEX;
znALTERNATING;zy WRIST FLEX;zgBEND SMALL;zlMEDIUM;zlLARGE;zgCORNER SMALL;znMEDIUM;znLARGE;
znROTATION;zhHECK SMALL;zmMEDIUM;zmLARGE;zgBOX SMALL;zkMEDIUM;zkLARGE;zgZIGZAG SMALL;znMEDIUM;
znLARGE;zgPEAKS SMALL;zmMEDIUM;zmLARGE;mTRAVEL-WALLPLANE ROTATION-WALLPLANE SINGLE;zxDOUBLE;
zxALTERNATING;znFLOORPLANE SINGLE;zyDOUBLE;zyALTERNATING;zeSHAKING;zeARM SPIRAL SINGLE;zpDOUBLE;
zpTRIPLE;mMOVEMENT-DIAGONAL AWAY SMALL;zkMEDIUM;zkLARGE;zpST;zfTOWARDS SMALL;znMEDIUM;znLARGE;
zsST;zfBETWEEN AWAY SMALL;zsMEDIUM;zsLARGE;zxST;znTOWARDS SMALL;zvMEDIUM;zvLARGE;zzbST;
vFLOORPLANE SINGLE STRAIGHT SMALL;zxMEDIUM;zxLARGE;zzdST;zoWRIST FLEX;zhDOUBLE STRAIGHT;
zoWRIST FLEX;zoALTERNATING;zz WRIST FLEX;zhCROSS;zhTRIPLE STRAIGHT MOVEMENT;zoWRIST FLEX;
zoALTERNATING MOVEMENT;zzbWRIST FLEX;zhBEND;zhCORNER SMALL;zoMEDIUM;zoLARGE;ziHECK;zhBOX SMALL;
zlMEDIUM;zlLARGE;zhZIGZAG SMALL;zoMEDIUM;zoLARGE;zhPEAKS SMALL;znMEDIUM;znLARGE;
mTRAVEL-FLOORPLANE ROTATION-FLOORPLANE SINGLE;zzDOUBLE;zzALTERNATING;zoWALLPLANE SINGLE;zyDOUBLE;
zyALTERNATING;zfSHAKING;mMOVEMENT-WALLPLANE CURVE QUARTER SMALL;zuMEDIUM;zuLARGE;zzST;
zmHALF-CIRCLE SMALL;zyMEDIUM;zyLARGE;zzeST;zmTHREE-QUARTER CIRCLE SMALL;zziMEDIUM;zgHUMP SMALL;
zlMEDIUM;zlLARGE;zgLOOP SMALL;zlMEDIUM;zlLARGE;zlSMALL DOUBLE;zgWAVE CURVE DOUBLE SMALL;zyMEDIUM;
zyLARGE;zrTRIPLE SMALL;zyMEDIUM;zyLARGE;zgCURVE THEN STRAIGHT;zlD CROSS SMALL;ztMEDIUM;
mROTATION-WALLPLANE SINGLE;zgDOUBLE;zgALTERNATE;mMOVEMENT-WALLPLANE SHAKING;
zgCURVE HITTING FRONT WALL;zgHUMP HITTING FRONT WALL;zgLOOP HITTING FRONT WALL;
zgWAVE HITTING FRONT WALL;mROTATION-WALLPLANE SINGLE HITTING FRONT WALL;zgDOUBLE HITTING FRONT WAL
L;zgALTERNATING HITTING FRONT WALL;mMOVEMENT-WALLPLANE CURVE HITTING CHEST;zgHUMP HITTING CHEST;
zgLOOP HITTING CHEST;zgWAVE HITTING CHEST;mROTATION-WALLPLANE SINGLE HITTING CHEST;
zgDOUBLE HITTING CHEST;zgALTERNATING HITTING CHEST;mMOVEMENT-WALLPLANE WAVE DIAGONAL PATH SMALL;
zzMEDIUM;zzLARGE;vFLOORPLANE CURVE HITTING CEILING SMALL;zzeLARGE;zhHUMP HITTING CEILING SMALL DOU
BLE;zzdLARGE DOUBLE;zzdSMALL TRIPLE;zzdLARGE TRIPLE;zhLOOP HITTING CEILING SMALL SINGLE;
zzdLARGE SINGLE;zzdSMALL DOUBLE;zzdLARGE DOUBLE;zhWAVE HITTING CEILING SMALL;zzdLARGE;
mROTATION-FLOORPLANE SINGLE HITTING CEILING;zhDOUBLE HITTING CEILING;zhALTERNATING HITTING CEILING
;mMOVEMENT-FLOORPLANE CURVE HITTING FLOOR SMALL;zzcLARGE;zhHUMP HITTING FLOOR SMALL DOUBLE;
zzbLARGE DOUBLE;zzbTRIPLE SMALL TRIPLE;zziLARGE TRIPLE;zhLOOP HITTING FLOOR SMALL SINGLE;
zzbLARGE SINGLE;zzbSMALL DOUBLE;zzbLARGE DOUBLE;zhWAVE HITTING FLOOR SMALL;zzbLARGE;
mROTATION-FLOORPLANE SINGLE HITTING FLOOR;zhDOUBLE HITTING FLOOR;zhALTERNATING HITTING FLOOR;
mMOVEMENT-FLOORPLANE CURVE SMALL;znMEDIUM;znLARGE;zsST;znCOMBINED;zhHUMP SMALL;zhLOOP SMALL;
zhWAVE SNAKE;znMALL;zmLARGE;mROTATION-FLOORPLANE SINGLE;zhDOUBLE;zhALTERNATING;
mMOVEMENT-FLOORPLANE SHAKING PARALLEL;vWALLPLANE ARM CIRCLE SMALL SINGLE;zrMEDIUM SINGLE;
zrSMALL DOUBLE;zrMEDIUM DOUBLE;vFLOORPLANE ARM CIRCLE HITTING WALL SMALL SINGLE;zzgMEDIUM SINGLE;
zzgLARGE SINGLE;zzgSMALL DOUBLE;zzgMEDIUM DOUBLE;zzgLARGE DOUBLE;vWALLPLANE WRIST CIRCLE FRONT SIN
GLE;zzDOUBLE;vFLOORPLANE WRIST CIRCLE HITTING WALL SINGLE;zziDOUBLE;vWALLPLANE FINGER CIRCLES SING
LE;zvDOUBLE;vFLOORPLANE FINGER CIRCLES HITTING WALL SINGLE;zzkDOUBLE;mDYNAMIC ARROWHEAD SMALL;
zfLARGE;uFAST;uSLOW;uTENSE;uRELAXED;uSIMULTANEOUS;zh ALTERNATING;uEVERY OTHER TIME;uGRADUAL;mHEAD;
q RIM;rMOVEMENT-WALLPLANE STRAIGHT;zlTILT;zbFLOORPLANE STRAIGHT;zbWALLPLANE CURVE;
zbFLOORPLANE CURVE;z CIRCLE;mFACE DIRECTION POSITION NOSE FORWARD TILTING;zqUP OR DOWN;
zzb TILTING;mEYEBROWS STRAIGHT UP;zfNEUTRAL;zfDOWN;mDREAMY EYEBROWS NEUTRAL DOWN;zdDOWN NEUTRAL;
zdUP NEUTRAL;zdNEUTRAL UP;mFOREHEAD NEUTRAL;vCONTACT;vWRINKLED;mEYES OPEN;rSQUEEZED;rCLOSED;
p BLINK SINGLE;wMULTIPLE;pS HALF OPEN;rWIDE OPEN;rHALF CLOSED;rWIDENING MOVEMENT;p WINK;
pLASHES UP;wDOWN;wFLUTTERING;pGAZE-WALLPLANE STRAIGHT;zn DOUBLE;zoALTERNATING;
uFLOORPLANE STRAIGHT;zo DOUBLE;zpALTERNATING;uWALLPLANE CURVED;uFLOORPLANE CURVED;
uWALLPLANE CIRCLING;mCHEEKS PUFFED;tNEUTRAL;tSUCKED;mTENSE CHEEKS HIGH;zMIDDLE;zLOW;mEARS;
mNOSE NEUTRAL;rCONTACT;rWRINKLES;sIGGLES;mAIR BLOWING OUT;qSUCKING IN;qBLOW SMALL ROTATIONS;
qSUCK SMALL ROTATIONS;mBREATH INHALE;tEXHALE;mMOUTH CLOSED NEUTRAL;zFORWARD;zCONTACT;sSMILE;
x WRINKLED;yOPEN;sFROWN;x WRINKLED;yOPEN;sOPEN CIRCLE;xFORWARD;xWRINKLED;xOVAL;zc WRINKLED;zdYAWN;
xRECTANGLE;zh WRINKLED;ziYAWN;sKISS;w FORWARD;xWRINKLED;sTENSE;x FORWARD;ySUCKED;
mLIPS PRESSED TOGETHER;p LOWER OVER UPPER;qUPPER OVER LOWER;mMOUTH CORNERS;sWRINKLES SINGLE;
zcDOUBLE;mTONGUE STICKING OUT FAR;tLICKING LIPS;tTIP BETWEEN LIPS;xTOUCHING INSIDE MOUTH;
tINSIDE MOUTH RELAXED;tMOVES AGAINST CHEEK;tCENTRE STICKING OUT;zbINSIDE MOUTH;nEETH;r MOVEMENT;
sON TONGUE;zc MOVEMENT;vLIPS;z MOVEMENT;sBITE LIPS;mMOVEMENT-WALLPLANE JAW;vFLOORPLANE JAW;mNECK;
mHAIR;mEXCITEMENT;mSHOULDER HIP SPINE;zPOSITIONS;mWALLPLANE SHOULDER HIP MOVE;
mFLOORPLANE SHOULDER HIP MOVE;mSHOULDER TILTING FROM WAIST;mTORSO-WALLPLANE STRAIGHT STRETCH;
zdCURVED BEND;sFLOORPLANE TWISTING;mUPPER BODY TILTING FROM HIP JOINTS;mLIMB COMBINATION;
rLENGTH-1;y2;y3;y4;y5;y6;y7;mFINGER;mLOCATION-WALLPLANE SPACE;vFLOORPLANE SPACE;u HEIGHT;vWIDTH;
vDEPTH;vHEAD NECK;vTORSO;vLIMBS DIGITS;mCOMMA;mFULL STOP;mSEMICOLON;mCOLON;mPARENTHESIS;
1DA9B:mFILL MODIFIER-2;zb3;zb4;zb5;zb6;1DAA1:mROTATION MODIFIER-2;zf3;zf4;zf5;zf6;zf7;zf8;zf9;
zf10;zg1;zg2;zg3;zg4;zg5;zg6;1DF00:aLATIN SMALL LETTER FENG DIGRAPH WITH TRILL;tREVERSED SCRIPT G;
gLETTER SMALL CAPITAL TURNED G;gSMALL LETTER REVERSED K;gLETTER SMALL CAPITAL L WITH BELT;
gSMALL LETTER LEZH WITH RETROFLEX HOOK;tTURNED Y WITH BELT;tREVERSED ENG;tTURNED R WITH LONG LEG A
ND RETROFLEX HOOK;u WITH HOOK AND RETROFLEX HOOK;gLETTER RETROFLEX CLICK WITH RETROFLEX HOOK;
gSMALL LETTER ESH WITH DOUBLE BAR;zn AND CURL;tTURNED T WITH CURL;gLETTER INVERTED GLOTTAL STOP WI
TH CURL;nSTRETCHED C WITH CURL;oMALL CAPITAL TURNED K;gSMALL LETTER L WITH FISHHOOK;
tDEZH DIGRAPH WITH PALATAL HOOK;tL WITH BELT AND PALATAL HOOK;tENG WITH PALATAL HOOK;
tTURNED R WITH PALATAL HOOK;tR WITH FISHHOOK AND PALATAL HOOK;tTESH DIGRAPH WITH PALATAL HOOK;
tEZH WITH PALATAL HOOK;tDEZH DIGRAPH WITH RETROFLEX HOOK;tI WITH STROKE AND RETROFLEX HOOK;
tO WITH RETROFLEX HOOK;tTESH DIGRAPH WITH RETROFLEX HOOK;tC WITH RETROFLEX HOOK;tS WITH CURL;
1E000:aCOMBINING GLAGOLITIC LETTER AZU;zdBUKY;zdVEDE;zdGLAGOLI;zdDOBRO;zdYESTU;zdZHIVETE;
1E008:zeEMLJA;zdIZHE;zeNITIAL IZHE;ze;zdDJERVI;zdKAKO;zdLJUDIJE;zdMYSLITE;zdNASHI;zdONU;zdPOKOJI;
zdRITSI;zdSLOVO;zdTVRIDO;zdUKU;zdFRITU;zdHERU;1E01B:zdSHTA;zdTSI;zdCHRIVI;zdSHA;zdYERU;zgI;zeATI;
1E023:zeU;zdSMALL YUS;1E026:zdYO;zdIOTATED SMALL YUS;zdBIG YUS;zdIOTATED BIG YUS;zdFITA;
1E100:aNYIAKENG PUACHUE HMONG LETTER MA;zfTSA;zfNTA;zfTA;zfHA;zfNA;zfXA;zfNKA;zfCA;zfLA;zfSA;zfZA;
zfNCA;zgTSA;zfKA;zfDA;zfNYA;zgRA;zfVA;zfNTXA;zfTXA;zfFA;zfRA;zfQA;zfYA;zfNQA;zfPA;zfXYA;zfNPA;
zfDLA;zfNPLA;zfHAH;zfMLA;zfPLA;zfGA;zfRRA;zfA;zgA;zfI;zfU;zfO;zgO;zfE;zgE;zfW;1E130:xTONE-B;zdM;
zdJ;zdV;zdS;zdG;zdD;xSIGN FOR PERSON;zhTHING;zhLOCATION;zhANIMAL;zhINVERTEBRATE;zdXW XW;
yYLLABLE LENGTHENER;1E140:xDIGIT ZERO;zeONE;zeTWO;zfHREE;zeFOUR;zfIVE;zeSIX;zfEVEN;zeEIGHT;zeNINE;
1E14E:xLOGOGRAM NYAJ;xCIRCLED CA;1E290:aTOTO LETTER PA;mBA;mTA;mDA;mKA;mGA;mMA;mNA;nGA;mSA;mCHA;
mYA;mWA;mJA;mHA;mRA;mLA;mI;mBREATHY I;mIU;mBREATHY IU;mU;mE;mBREATHY E;mEO;mBREATHY EO;mO;mAE;
mBREATHY AE;mA;fSIGN RISING TONE;1E2C0:aWANCHO LETTER AA;p;oBA;oCA;oDA;oGA;oYA;oPHA;oLA;oNA;oPA;
oTA;pHA;oFA;oSA;pHA;oJA;oZA;oWA;oVA;oKA;oO;oAU;oRA;oMA;oKHA;oHA;oE;oI;oNGA;oU;oLLHA;oTSA;pRA;oONG;
oAANG;pNG;oING;oON;oEN;oAAN;oNYA;oUEN;oYIH;hTONE TUP;pNI;mKOI;pNI;hDIGIT ZERO;nONE;nTWO;oHREE;
nFOUR;oIVE;nSIX;oEVEN;nEIGHT;nNINE;1E2FF:hNGUN SIGN;1E7E0:aETHIOPIC SYLLABLE HHYA;vU;vI;vAA;vEE;w;
vO;1E7E8:sGURAGE HHWA;sHHWI;vEE;w;1E7ED:sGURAGE MWI;zcEE;1E7F0:zQWI;zcEE;zd;zBWI;zcEE;zKWI;zcEE;
zd;zGWI;zcEE;zd;zFWI;zcEE;zPWI;zcEE;1E800:aMENDE KIKAKUI SYLLABLE M001 KI;zb2 KA;zb3 KU;z65 KEE;
z95 KE;z76 KOO;z48 KO;y179 KUA;y004 WI;zb5 WA;zb6 WU;y126 WEE;z18 WE;zb4 WOO;y045 WO;y194 WUI;
z43 WEI;y061 WVI;z49 WVA;y139 WVE;y007 MIN;zb8 MAN;zb9 MUN;z59 MEN;z94 MON;y154 MUAN;z89 MUEN;
y010 BI;zb1 BA;zb2 BU;y150 BEE;y097 BE;y103 BOO;z38 BO;y013 I;zb4 A;zb5 U;y163 EE;z00 E;z65 OO;
z47 O;z37 EI;zb1 IN;zb5 IN;z95 AN;z78 EN;y019 SI;z20 SA;zb1 SU;y162 SEE;z16 SE;z36 SOO;y079 SO;
y196 SIA;y025 LI;zb6 LA;zb7 LU;z84 LEE;z73 LE;z54 LOO;y153 LO;z10 LONG LE;y016 DI;zb7 DA;zb8 DU;
z89 DEE;y180 DOO;zb1 DO;y022 TI;zb3 TA;zb4 TU;z91 TEE;z55 TE;y104 TOO;y069 TO;z28 JI;zb9 JA;
z30 JU;y157 JEE;z13 JE;z60 JOO;y063 JO;y175 LONG JO;y031 YI;zb2 YA;zb3 YU;y109 YEE;y080 YE;
y141 YOO;z21 YO;y034 FI;zb5 FA;zb6 FU;z78 FEE;zb5 FE;y133 FOO;y088 FO;y197 FUA;z01 FAN;y037 NIN;
zb8 NAN;zb9 NUN;y117 NEN;z69 NON;z76 HI;y041 HA;y186 HU;y040 HEE;z96 HE;z42 HOO;y140 HO;y083 HEEI;
y128 HOOU;y053 HIN;y130 HAN;y087 HUN;z52 HEN;y193 HON;y046 HUAN;z90 NGGI;z43 NGGA;z82 NGGU;
y115 NGGEE;z46 NGGE;z56 NGGOO;z20 NGGO;z59 NGGAA;z27 NGGUA;y086 LONG NGGE;y106 LONG NGGOO;
z83 LONG NGGO;z55 GI;z11 GA;z68 GU;z90 GEE;z66 GUEI;zb7 GUAN;z84 NGEN;y057 NGON;y177 NGUAN;
y068 PI;z99 PA;z50 PU;z81 PEE;z51 PE;y102 POO;y066 PO;y145 MBI;y062 MBA;y122 MBU;y047 MBEE;
y188 MBEE;y072 MBE;y172 MBOO;zb4 MBO;z87 MBUU;z61 LONG MBE;z05 LONG MBOO;z42 LONG MBO;z32 KPI;
y092 KPA;z74 KPU;z44 KPEE;y108 KPE;z12 KPOO;z58 KPO;z24 GBI;y056 GBA;y148 GBU;y093 GBEE;y107 GBE;
y071 GBOO;zb0 GBO;y171 RA;z23 NDI;zb9 NDA;zb5 NDU;z91 NDEE;z19 NDE;y067 NDOO;zb4 NDO;y152 NJA;
z92 NJU;z49 NJEE;z34 NJOO;z82 VI;zb5 VA;z51 VU;z73 VEE;y085 VE;y144 VOO;y077 VO;y164 NYIN;
y058 NYAN;y170 NYUN;y098 NYEN;z60 NYON;1E8C7:oDIGIT ONE;uTWO;vHREE;uFOUR;vIVE;uSIX;vEVEN;uEIGHT;
uNINE;oCOMBINING NUMBER TEENS;ziNS;zgHUNDREDS;zgTHOUSANDS;zhEN THOUSANDS;zgHUNDRED THOUSANDS;
zgMILLIONS;1E900:aADLAM CAPITAL LETTER ALIF;vDAALI;vLAAM;vMIIM;vBA;vSINNYIIYHE;vPE;vBHE;vRA;vE;
vFA;vI;vO;vDHA;vYHE;vWAW;vNUN;vKAF;vYA;vU;vJIIM;vCHI;vHA;vQAAF;vGA;vNYA;vTU;vNHA;vVA;vKHA;vGBE;
vZAL;vKPO;vSHA;gSMALL LETTER ALIF;tDAALI;tLAAM;tMIIM;tBA;tSINNYIIYHE;tPE;tBHE;tRA;tE;tFA;tI;tO;
tDHA;tYHE;tWAW;tNUN;tKAF;tYA;tU;tJIIM;tCHI;tHA;tQAAF;tGA;tNYA;tTU;tNHA;tVA;tKHA;tGBE;tZAL;tKPO;
tSHA;gALIF LENGTHENER;gVOWEL LENGTHENER;gGEMINATION MARK;gHAMZA;gCONSONANT MODIFIER;
gGEMINATE CONSONANT MODIFIER;gNUKTA;hASALIZATION MARK;1E950:gDIGIT ZERO;mONE;mTWO;nHREE;mFOUR;
nIVE;mSIX;nEVEN;mEIGHT;mNINE;1E95E:gINITIAL EXCLAMATION MARK;oQUESTION MARK;
1EC71:aINDIC SIYAQ NUMBER ONE;tTWO;uHREE;tFOUR;uIVE;tSIX;uEVEN;tEIGHT;tNINE;tTEN;uWENTY;uHIRTY;
tFORTY;uIFTY;tSIXTY;uEVENTY;tEIGHTY;tNINETY;tONE HUNDRED;tTWO HUNDRED;uHREE HUNDRED;tFOUR HUNDRED;
uIVE HUNDRED;tSIX HUNDRED;uEVEN HUNDRED;tEIGHT HUNDRED;tNINE HUNDRED;tONE THOUSAND;tTWO THOUSAND;
uHREE THOUSAND;tFOUR THOUSAND;uIVE THOUSAND;tSIX THOUSAND;uEVEN THOUSAND;tEIGHT THOUSAND;
tNINE THOUSAND;tTEN THOUSAND;uWENTY THOUSAND;uHIRTY THOUSAND;tFORTY THOUSAND;uIFTY THOUSAND;
tSIXTY THOUSAND;uEVENTY THOUSAND;tEIGHTY THOUSAND;tNINETY THOUSAND;tLAKH;xAN;mLAKH MARK;
mNUMBER KAROR;yAN;tPREFIXED ONE;zdTWO;zeHREE;zdFOUR;zeIVE;zdSIX;zeEVEN;zdEIGHT;zdNINE;
mPLACEHOLDER;mFRACTION ONE QUARTER;zHALF;vTHREE QUARTERS;mRUPEE MARK;mNUMBER ALTERNATE ONE;zeTWO;
zfEN THOUSAND;mALTERNATE LAKH MARK;1ED01:aOTTOMAN SIYAQ NUMBER ONE;vTWO;wHREE;vFOUR;wIVE;vSIX;
wEVEN;vEIGHT;vNINE;vTEN;wWENTY;wHIRTY;vFORTY;wIFTY;vSIXTY;wEVENTY;vEIGHTY;vNINETY;vONE HUNDRED;
vTWO HUNDRED;wHREE HUNDRED;vFOUR HUNDRED;wIVE HUNDRED;vSIX HUNDRED;wEVEN HUNDRED;vEIGHT HUNDRED;
vNINE HUNDRED;vONE THOUSAND;vTWO THOUSAND;wHREE THOUSAND;vFOUR THOUSAND;wIVE THOUSAND;
vSIX THOUSAND;wEVEN THOUSAND;vEIGHT THOUSAND;vNINE THOUSAND;vTEN THOUSAND;wWENTY THOUSAND;
wHIRTY THOUSAND;vFORTY THOUSAND;wIFTY THOUSAND;vSIXTY THOUSAND;wEVENTY THOUSAND;vEIGHTY THOUSAND;
vNINETY THOUSAND;oMARRATAN;oALTERNATE NUMBER TWO;zhHREE;zgFOUR;zhIVE;zgSIX;zhEVEN;zgEIGHT;zgNINE;
zgTEN;zgFOUR HUNDRED;zgSIX HUNDRED;zgTWO THOUSAND;zhEN THOUSAND;oFRACTION ONE HALF;zcSIXTH;
1EE00:aARABIC MATHEMATICAL ALEF;uBEH;uJEEM;uDAL;1EE05:uWAW;uZAIN;uHAH;uTAH;uYEH;uKAF;uLAM;uMEEM;
uNOON;uSEEN;uAIN;uFEH;uSAD;uQAF;uREH;uSHEEN;uTEH;vHEH;uKHAH;uTHAL;uDAD;uZAH;uGHAIN;uDOTLESS BEH;
zdNOON;zdFEH;zdQAF;1EE21:uINITIAL BEH;zdJEEM;1EE24:zdHEH;1EE27:zeAH;1EE29:zdYEH;zdKAF;zdLAM;
zdMEEM;zdNOON;zdSEEN;zdAIN;zdFEH;zdSAD;zdQAF;1EE34:zdSHEEN;zdTEH;zeHEH;zdKHAH;1EE39:zdDAD;
1EE3B:zdGHAIN;1EE42:uTAILED JEEM;1EE47:zcHAH;1EE49:zcYEH;1EE4B:zcLAM;1EE4D:zcNOON;zcSEEN;zcAIN;
1EE51:zcSAD;zcQAF;1EE54:zcSHEEN;1EE57:zcKHAH;1EE59:zcDAD;1EE5B:zcGHAIN;1EE5D:zcDOTLESS NOON;
1EE5F:zkQAF;1EE61:uSTRETCHED BEH;zfJEEM;1EE64:zfHEH;1EE67:zgAH;zfTAH;zfYEH;zfKAF;1EE6C:zfMEEM;
zfNOON;zfSEEN;zfAIN;zfFEH;zfSAD;zfQAF;1EE74:zfSHEEN;zfTEH;zgHEH;zfKHAH;1EE79:zfDAD;zfZAH;zfGHAIN;
zfDOTLESS BEH;1EE7E:znFEH;1EE80:uLOOPED ALEF;zcBEH;zcJEEM;zcDAL;zcHEH;zcWAW;zcZAIN;zcHAH;zcTAH;
zcYEH;1EE8B:zcLAM;zcMEEM;zcNOON;zcSEEN;zcAIN;zcFEH;zcSAD;zcQAF;zcREH;zcSHEEN;zcTEH;zdHEH;zcKHAH;
zcTHAL;zcDAD;zcZAH;zcGHAIN;1EEA1:uDOUBLE-STRUCK BEH;zjJEEM;zjDAL;1EEA5:zjWAW;zjZAIN;zjHAH;zjTAH;
zjYEH;1EEAB:zjLAM;zjMEEM;zjNOON;zjSEEN;zjAIN;zjFEH;zjSAD;zjQAF;zjREH;zjSHEEN;zjTEH;zkHEH;zjKHAH;
zjTHAL;zjDAD;zjZAH;zjGHAIN;1EEF0:uOPERATOR MEEM WITH HAH WITH TATWEEL;zeHAH WITH DAL;
1F000:aMAHJONG TILE EAST WIND;nSOUTH WIND;nWEST WIND;nNORTH WIND;nRED DRAGON;nGREEN DRAGON;
nWHITE DRAGON;nONE OF CHARACTERS;nTWO OF CHARACTERS;oHREE OF CHARACTERS;nFOUR OF CHARACTERS;
oIVE OF CHARACTERS;nSIX OF CHARACTERS;oEVEN OF CHARACTERS;nEIGHT OF CHARACTERS;
nNINE OF CHARACTERS;nONE OF BAMBOOS;nTWO OF BAMBOOS;oHREE OF BAMBOOS;nFOUR OF BAMBOOS;
oIVE OF BAMBOOS;nSIX OF BAMBOOS;oEVEN OF BAMBOOS;nEIGHT OF BAMBOOS;nNINE OF BAMBOOS;
nONE OF CIRCLES;nTWO OF CIRCLES;oHREE OF CIRCLES;nFOUR OF CIRCLES;oIVE OF CIRCLES;nSIX OF CIRCLES;
oEVEN OF CIRCLES;nEIGHT OF CIRCLES;nNINE OF CIRCLES;nPLUM;nORCHID;nBAMBOO;nCHRYSANTHEMUM;nSPRING;
oUMMER;nAUTUMN;nWINTER;nJOKER;nBACK;1F030:aDOMINO TILE HORIZONTAL BACK;w-00-00;zc1;zc2;zc3;zc4;
zc5;zc6;y1-00;zc1;zc2;zc3;zc4;zc5;zc6;y2-00;zc1;zc2;zc3;zc4;zc5;zc6;y3-00;zc1;zc2;zc3;zc4;zc5;zc6;
y4-00;zc1;zc2;zc3;zc4;zc5;zc6;y5-00;zc1;zc2;zc3;zc4;zc5;zc6;y6-00;zc1;zc2;zc3;zc4;zc5;zc6;
mVERTICAL BACK;u-00-00;z1;z2;z3;z4;z5;z6;w1-00;z1;z2;z3;z4;z5;z6;w2-00;z1;z2;z3;z4;z5;z6;w3-00;z1;
z2;z3;z4;z5;z6;w4-00;z1;z2;z3;z4;z5;z6;w5-00;z1;z2;z3;z4;z5;z6;w6-00;z1;z2;z3;z4;z5;z6;
1F0A0:aPLAYING CARD BACK;nACE OF SPADES;nTWO OF SPADES;oHREE OF SPADES;nFOUR OF SPADES;
oIVE OF SPADES;nSIX OF SPADES;oEVEN OF SPADES;nEIGHT OF SPADES;nNINE OF SPADES;nTEN OF SPADES;
nJACK OF SPADES;nKNIGHT OF SPADES;nQUEEN OF SPADES;nKING OF SPADES;1F0B1:nACE OF HEARTS;
nTWO OF HEARTS;oHREE OF HEARTS;nFOUR OF HEARTS;oIVE OF HEARTS;nSIX OF HEARTS;oEVEN OF HEARTS;
nEIGHT OF HEARTS;nNINE OF HEARTS;nTEN OF HEARTS;nJACK OF HEARTS;nKNIGHT OF HEARTS;
nQUEEN OF HEARTS;nKING OF HEARTS;nRED JOKER;1F0C1:nACE OF DIAMONDS;nTWO OF DIAMONDS;
oHREE OF DIAMONDS;nFOUR OF DIAMONDS;oIVE OF DIAMONDS;nSIX OF DIAMONDS;oEVEN OF DIAMONDS;
nEIGHT OF DIAMONDS;nNINE OF DIAMONDS;nTEN OF DIAMONDS;nJACK OF DIAMONDS;nKNIGHT OF DIAMONDS;
nQUEEN OF DIAMONDS;nKING OF DIAMONDS;nBLACK JOKER;1F0D1:nACE OF CLUBS;nTWO OF CLUBS;
oHREE OF CLUBS;nFOUR OF CLUBS;oIVE OF CLUBS;nSIX OF CLUBS;oEVEN OF CLUBS;nEIGHT OF CLUBS;
nNINE OF CLUBS;nTEN OF CLUBS;nJACK OF CLUBS;nKNIGHT OF CLUBS;nQUEEN OF CLUBS;nKING OF CLUBS;
nWHITE JOKER;nFOOL;nTRUMP-1;t2;t3;t4;t5;t6;t7;t8;t9;t10;u1;u2;u3;u4;u5;u6;u7;u8;u9;t20;u1;
1F100:aDIGIT ZERO FULL STOP;lCOMMA;gONE COMMA;gTWO COMMA;hHREE COMMA;gFOUR COMMA;hIVE COMMA;
gSIX COMMA;hEVEN COMMA;gEIGHT COMMA;gNINE COMMA;cNGBAT CIRCLED SANS-SERIF DIGIT ZERO;
iNEGATIVE CIRCLED SANS-SERIF DIGIT ZERO;aCIRCLED ZERO WITH SLASH;iANTICLOCKWISE ARROW;
iDOLLAR SIGN WITH OVERLAID BACKSLASH;aPARENTHESIZED LATIN CAPITAL LETTER A;zkB;zkC;zkD;zkE;zkF;
zkG;zkH;zkI;zkJ;zkK;zkL;zkM;zkN;zkO;zkP;zkQ;zkR;zkS;zkT;zkU;zkV;zkW;zkX;zkY;zkZ;
aTORTOISE SHELL BRACKETED LATIN CAPITAL LETTER S;aCIRCLED ITALIC LATIN CAPITAL LETTER C;zlR;iCD;
iWZ;bOPYLEFT SYMBOL;aSQUARED LATIN CAPITAL LETTER A;zeB;zeC;zeD;zeE;zeF;zeG;zeH;zeI;zeJ;zeK;zeL;
zeM;zeN;zeO;zeP;zeQ;zeR;zeS;zeT;zeU;zeV;zeW;zeX;zeY;zeZ;iHV;iMV;iSD;jS;iPPV;iWC;
aNEGATIVE CIRCLED LATIN CAPITAL LETTER A;znB;znC;znD;znE;znF;znG;znH;znI;znJ;znK;znL;znM;znN;znO;
znP;znQ;znR;znS;znT;znU;znV;znW;znX;znY;znZ;aRAISED MC SIGN;iD SIGN;iR SIGN;aCIRCLED CC;
j WITH OVERLAID BACKSLASH;iHUMAN FIGURE;aNEGATIVE SQUARED LATIN CAPITAL LETTER A;znB;znC;znD;znE;
znF;znG;znH;znI;znJ;znK;znL;znM;znN;znO;znP;znQ;znR;znS;znT;znU;znV;znW;znX;znY;znZ;
aCROSSED NEGATIVE SQUARED LATIN CAPITAL LETTER P;aNEGATIVE SQUARED IC;rPA;rSA;rAB;rWC;aSQUARE DJ;
gD CL;jOOL;iFREE;iID;iNEW;jG;iOK;iSOS;iUP WITH EXCLAMATION MARK;iVS;iTHREE D;iSECOND SCREEN;
iTWO K;iFOUR K;iEIGHT K;iFIVE POINT ONE;iSEVEN POINT ONE;iTWENTY-TWO POINT TWO;iSIXTY P;
iONE HUNDRED TWENTY P;iLATIN SMALL LETTER D;iHC;jDR;jI-RES;iLOSSLESS;iSHV;iUHD;iVOD;
aMASK WORK SYMBOL;1F1E6:aREGIONAL INDICATOR SYMBOL LETTER A;ziB;ziC;ziD;ziE;ziF;ziG;ziH;ziI;ziJ;
ziK;ziL;ziM;ziN;ziO;ziP;ziQ;ziR;ziS;ziT;ziU;ziV;ziW;ziX;ziY;ziZ;aSQUARE HIRAGANA HOKA;
gD KATAKANA KOKO;rSA;1F210:iCJK UNIFIED IDEOGRAPH-624B;zf5B57;zg3CC;iKATAKANA DE;
iCJK UNIFIED IDEOGRAPH-4E8C;zf591A;zf89E3;zf5929;zf4EA4;zf6620;zf7121;zf6599;zf524D;zgF8C;zg18D;
zf65B0;zf521D;zf7D42;zg51F;zf8CA9;zf58F0;zg439;zf6F14;zg295;zg355;zf4E00;zi9;zf904A;zf5DE6;zf4E2D;
zf53F3;zf6307;zf8D70;zf6253;zf7981;zgA7A;zf5408;zf6E80;zg709;zi8;zf7533;zf5272;zg5B6;zf914D;
1F240:aTORTOISE SHELL BRACKETED CJK UNIFIED IDEOGRAPH-672C;zw4E09;zy8C;zw5B89;zw70B9;zw6253;
zw76D7;zw52DD;zw6557;1F250:aCIRCLED IDEOGRAPH ADVANTAGE;tCCEPT;1F260:aROUNDED SYMBOL FOR FU;tLU;
tSHOU;tXI;tSHUANGXI;tCAI;1F300:aCYCLONE;aFOGGY;aCLOSED UMBRELLA;aNIGHT WITH STARS;
aSUNRISE OVER MOUNTAINS;h;aCITYSCAPE AT DUSK;aSUNSET OVER BUILDINGS;aRAINBOW;aBRIDGE AT NIGHT;
aWATER WAVE;aVOLCANO;aMILKY WAY;aEARTH GLOBE EUROPE-AFRICA;mAMERICAS;nSIA-AUSTRALIA;
aGLOBE WITH MERIDIANS;aNEW MOON SYMBOL;aWAXING CRESCENT MOON SYMBOL;aFIRST QUARTER MOON SYMBOL;
aWAXING GIBBOUS MOON SYMBOL;aFULL MOON SYMBOL;aWANING GIBBOUS MOON SYMBOL;aLAST QUARTER MOON SYMBO
L;aWANING CRESCENT MOON SYMBOL;aCRESCENT MOON;aNEW MOON WITH FACE;aFIRST QUARTER MOON WITH FACE;
aLAST QUARTER MOON WITH FACE;aFULL MOON WITH FACE;aSUN WITH FACE;aGLOWING STAR;aSHOOTING STAR;
aTHERMOMETER;aBLACK DROPLET;aWHITE SUN;j WITH SMALL CLOUD;kBEHIND CLOUD;w WITH RAIN;
aCLOUD WITH RAIN;lSNOW;lLIGHTNING;lTORNADO;aFOG;aWIND BLOWING FACE;aHOT DOG;aTACO;aBURRITO;
aCHESTNUT;aSEEDLING;aEVERGREEN TREE;aDECIDUOUS TREE;aPALM TREE;aCACTUS;aHOT PEPPER;aTULIP;
aCHERRY BLOSSOM;aROSE;aHIBISCUS;aSUNFLOWER;aBLOSSOM;aEAR OF MAIZE;hRICE;aHERB;aFOUR LEAF CLOVER;
aMAPLE LEAF;aFALLEN LEAF;aLEAF FLUTTERING IN WIND;aMUSHROOM;aTOMATO;aAUBERGINE;aGRAPES;aMELON;
aWATERMELON;aTANGERINE;aLEMON;aBANANA;aPINEAPPLE;aRED APPLE;aGREEN APPLE;aPEAR;dCH;aCHERRIES;
aSTRAWBERRY;aHAMBURGER;aSLICE OF PIZZA;aMEAT ON BONE;aPOULTRY LEG;aRICE CRACKER;fBALL;
aCOOKED RICE;bURRY AND RICE;aSTEAMING BOWL;bPAGHETTI;aBREAD;aFRENCH FRIES;aROASTED SWEET POTATO;
aDANGO;aODEN;aSUSHI;aFRIED SHRIMP;bISH CAKE WITH SWIRL DESIGN;aSOFT ICE CREAM;bHAVED ICE;
aICE CREAM;aDOUGHNUT;aCOOKIE;bHOCOLATE BAR;bANDY;aLOLLIPOP;aCUSTARD;aHONEY POT;aSHORTCAKE;
aBENTO BOX;aPOT OF FOOD;aCOOKING;aFORK AND KNIFE;aTEACUP WITHOUT HANDLE;aSAKE BOTTLE AND CUP;
aWINE GLASS;aCOCKTAIL GLASS;aTROPICAL DRINK;aBEER MUG;aCLINKING BEER MUGS;aBABY BOTTLE;
aFORK AND KNIFE WITH PLATE;aBOTTLE WITH POPPING CORK;aPOPCORN;aRIBBON;aWRAPPED PRESENT;
aBIRTHDAY CAKE;aJACK-O-LANTERN;aCHRISTMAS TREE;aFATHER CHRISTMAS;bIREWORKS;i SPARKLER;aBALLOON;
aPARTY POPPER;aCONFETTI BALL;aTANABATA TREE;aCROSSED FLAGS;aPINE DECORATION;aJAPANESE DOLLS;
aCARP STREAMER;aWIND CHIME;aMOON VIEWING CEREMONY;aSCHOOL SATCHEL;aGRADUATION CAP;
aHEART WITH TIP ON THE LEFT;aBOUQUET OF FLOWERS;aMILITARY MEDAL;aREMINDER RIBBON;
aMUSICAL KEYBOARD WITH JACKS;aSTUDIO MICROPHONE;aLEVEL SLIDER;aCONTROL KNOBS;
aBEAMED ASCENDING MUSICAL NOTES;hDESCENDING MUSICAL NOTES;aFILM FRAMES;aADMISSION TICKETS;
aCAROUSEL HORSE;aFERRIS WHEEL;aROLLER COASTER;aFISHING POLE AND FISH;aMICROPHONE;bOVIE CAMERA;
aCINEMA;aHEADPHONE;aARTIST PALETTE;aTOP HAT;aCIRCUS TENT;aTICKET;aCLAPPER BOARD;aPERFORMING ARTS;
aVIDEO GAME;aDIRECT HIT;aSLOT MACHINE;aBILLIARDS;aGAME DIE;aBOWLING;aFLOWER PLAYING CARDS;
aMUSICAL NOTE;cLTIPLE MUSICAL NOTES;aSAXOPHONE;aGUITAR;aMUSICAL KEYBOARD;aTRUMPET;aVIOLIN;
aMUSICAL SCORE;aRUNNING SHIRT WITH SASH;aTENNIS RACQUET AND BALL;aSKI AND SKI BOOT;
aBASKETBALL AND HOOP;aCHEQUERED FLAG;aSNOWBOARDER;aRUNNER;aSURFER;bPORTS MEDAL;aTROPHY;
aHORSE RACING;aAMERICAN FOOTBALL;aRUGBY FOOTBALL;aSWIMMER;aWEIGHT LIFTER;aGOLFER;
aRACING MOTORCYCLE;hCAR;aCRICKET BAT AND BALL;aVOLLEYBALL;aFIELD HOCKEY STICK AND BALL;
aICE HOCKEY STICK AND PUCK;aTABLE TENNIS PADDLE AND BALL;aSNOW CAPPED MOUNTAIN;aCAMPING;
aBEACH WITH UMBRELLA;bUILDING CONSTRUCTION;aHOUSE BUILDINGS;aCITYSCAPE;aDERELICT HOUSE BUILDING;
aCLASSICAL BUILDING;aDESERT;g ISLAND;aNATIONAL PARK;aSTADIUM;aHOUSE BUILDING;gWITH GARDEN;
aOFFICE BUILDING;aJAPANESE POST OFFICE;aEUROPEAN POST OFFICE;aHOSPITAL;aBANK;
aAUTOMATED TELLER MACHINE;aHOTEL;aLOVE HOTEL;aCONVENIENCE STORE;aSCHOOL;aDEPARTMENT STORE;
aFACTORY;aIZAKAYA LANTERN;aJAPANESE CASTLE;aEUROPEAN CASTLE;aWHITE PENNANT;aBLACK PENNANT;
aWAVING WHITE FLAG;hBLACK FLAG;aROSETTE;aBLACK ROSETTE;aLABEL;aBADMINTON RACQUET AND SHUTTLECOCK;
bOW AND ARROW;aAMPHORA;aEMOJI MODIFIER FITZPATRICK TYPE-1-2;zh3;zh4;zh5;zh6;aRAT;aMOUSE;aOX;
aWATER BUFFALO;aCOW;aTIGER;aLEOPARD;aRABBIT;aCAT;aDRAGON;aCROCODILE;aWHALE;aSNAIL;dKE;aHORSE;aRAM;
aGOAT;aSHEEP;aMONKEY;aROOSTER;aCHICKEN;aDOG;aPIG;aBOAR;aELEPHANT;aOCTOPUS;aSPIRAL SHELL;aBUG;aANT;
aHONEYBEE;aLADY BEETLE;aFISH;aTROPICAL FISH;aBLOWFISH;aTURTLE;aHATCHING CHICK;aBABY CHICK;
aFRONT-FACING BABY CHICK;aBIRD;aPENGUIN;aKOALA;aPOODLE;aDROMEDARY CAMEL;aBACTRIAN CAMEL;aDOLPHIN;
aMOUSE FACE;aCOW FACE;aTIGER FACE;aRABBIT FACE;aCAT FACE;aDRAGON FACE;aSPOUTING WHALE;aHORSE FACE;
aMONKEY FACE;aDOG FACE;aPIG FACE;aFROG FACE;aHAMSTER FACE;aWOLF FACE;aBEAR FACE;aPANDA FACE;
bIG NOSE;bAW PRINTS;aCHIPMUNK;aEYES;d;bAR;aNOSE;aMOUTH;aTONGUE;aWHITE UP POINTING BACKHAND INDEX;
gDOWN POINTING BACKHAND INDEX;gLEFT POINTING BACKHAND INDEX;gRIGHT POINTING BACKHAND INDEX;
aFISTED HAND SIGN;aWAVING HAND SIGN;aOK HAND SIGN;aTHUMBS UP SIGN;hDOWN SIGN;aCLAPPING HANDS SIGN;
aOPEN HANDS SIGN;aCROWN;aWOMANS HAT;aEYEGLASSES;aNECKTIE;aT-SHIRT;aJEANS;aDRESS;aKIMONO;aBIKINI;
aWOMANS CLOTHES;aPURSE;aHANDBAG;aPOUCH;aMANS SHOE;aATHLETIC SHOE;aHIGH-HEELED SHOE;aWOMANS SANDAL;
hBOOTS;aFOOTPRINTS;aBUST IN SILHOUETTE;eS IN SILHOUETTE;bOY;aGIRL;aMAN;aWOMAN;aFAMILY;
aMAN AND WOMAN HOLDING HANDS;aTWO MEN HOLDING HANDS;eWOMEN HOLDING HANDS;aPOLICE OFFICER;
aWOMAN WITH BUNNY EARS;aBRIDE WITH VEIL;aPERSON WITH BLOND HAIR;aMAN WITH GUA PI MAO;jTURBAN;
aOLDER MAN;gWOMAN;aBABY;aCONSTRUCTION WORKER;aPRINCESS;aJAPANESE OGRE;jGOBLIN;aGHOST;aBABY ANGEL;
aEXTRATERRESTRIAL ALIEN;aALIEN MONSTER;aIMP;aSKULL;aINFORMATION DESK PERSON;aGUARDSMAN;aDANCER;
aLIPSTICK;aNAIL POLISH;aFACE MASSAGE;aHAIRCUT;aBARBER POLE;aSYRINGE;aPILL;aKISS MARK;aLOVE LETTER;
aRING;aGEM STONE;aKISS;aBOUQUET;aCOUPLE WITH HEART;aWEDDING;aBEATING HEART;bROKEN HEART;
aTWO HEARTS;aSPARKLING HEART;aGROWING HEART;aHEART WITH ARROW;aBLUE HEART;aGREEN HEART;
aYELLOW HEART;aPURPLE HEART;aHEART WITH RIBBON;aREVOLVING HEARTS;aHEART DECORATION;
aDIAMOND SHAPE WITH A DOT INSIDE;aELECTRIC LIGHT BULB;aANGER SYMBOL;aBOMB;aSLEEPING SYMBOL;
aCOLLISION SYMBOL;aSPLASHING SWEAT SYMBOL;aDROPLET;bASH SYMBOL;aPILE OF POO;aFLEXED BICEPS;
aDIZZY SYMBOL;aSPEECH BALLOON;aTHOUGHT BALLOON;aWHITE FLOWER;aHUNDRED POINTS SYMBOL;aMONEY BAG;
aCURRENCY EXCHANGE;aHEAVY DOLLAR SIGN;aCREDIT CARD;aBANKNOTE WITH YEN SIGN;oDOLLAR SIGN;
oEURO SIGN;oPOUND SIGN;aMONEY WITH WINGS;aCHART WITH UPWARDS TREND AND YEN SIGN;aSEAT;
aPERSONAL COMPUTER;aBRIEFCASE;aMINIDISC;aFLOPPY DISK;aOPTICAL DISC;aDVD;aFILE FOLDER;
aOPEN FILE FOLDER;aPAGE WITH CURL;fFACING UP;aCALENDAR;aTEAR-OFF CALENDAR;aCARD INDEX;
bHART WITH UPWARDS TREND;lDOWNWARDS TREND;aBAR CHART;aCLIPBOARD;aPUSHPIN;aROUND PUSHPIN;
aPAPERCLIP;aSTRAIGHT RULER;aTRIANGULAR RULER;aBOOKMARK TABS;aLEDGER;aNOTEBOOK;
i WITH DECORATIVE COVER;aCLOSED BOOK;aOPEN BOOK;aGREEN BOOK;aBLUE BOOK;aORANGE BOOK;aBOOKS;
aNAME BADGE;aSCROLL;aMEMO;aTELEPHONE RECEIVER;aPAGER;aFAX MACHINE;aSATELLITE ANTENNA;
aPUBLIC ADDRESS LOUDSPEAKER;aCHEERING MEGAPHONE;aOUTBOX TRAY;aINBOX TRAY;aPACKAGE;aE-MAIL SYMBOL;
aINCOMING ENVELOPE;aENVELOPE WITH DOWNWARDS ARROW ABOVE;aCLOSED MAILBOX WITH LOWERED FLAG;
uRAISED FLAG;aOPEN MAILBOX WITH RAISED FLAG;sLOWERED FLAG;aPOSTBOX;eAL HORN;aNEWSPAPER;
aMOBILE PHONE;m WITH RIGHTWARDS ARROW AT LEFT;aVIBRATION MODE;aMOBILE PHONE OFF;aNO MOBILE PHONES;
aANTENNA WITH BARS;aCAMERA;g WITH FLASH;aVIDEO CAMERA;aTELEVISION;aRADIO;aVIDEOCASSETTE;
aFILM PROJECTOR;aPORTABLE STEREO;bRAYER BEADS;aTWISTED RIGHTWARDS ARROWS;aCLOCKWISE RIGHTWARDS AN
D LEFTWARDS OPEN CIRCLE ARROWS;zzd WITH CIRCLED ONE OVERLAY;kDOWNWARDS AND UPWARDS OPEN CIRCLE ARR
OWS;aANTICLOCKWISE DOWNWARDS AND UPWARDS OPEN CIRCLE ARROWS;aLOW BRIGHTNESS SYMBOL;
aHIGH BRIGHTNESS SYMBOL;aSPEAKER WITH CANCELLATION STROKE;h;h WITH ONE SOUND WAVE;
nTHREE SOUND WAVES;aBATTERY;aELECTRIC PLUG;aLEFT-POINTING MAGNIFYING GLASS;
aRIGHT-POINTING MAGNIFYING GLASS;aLOCK WITH INK PEN;aCLOSED LOCK WITH KEY;aKEY;aLOCK;aOPEN LOCK;
aBELL;e WITH CANCELLATION STROKE;bOOKMARK;aLINK SYMBOL;aRADIO BUTTON;aBACK WITH LEFTWARDS ARROW AB
OVE;aEND WITH LEFTWARDS ARROW ABOVE;aON WITH EXCLAMATION MARK WITH LEFT RIGHT ARROW ABOVE;
aSOON WITH RIGHTWARDS ARROW ABOVE;aTOP WITH UPWARDS ARROW ABOVE;aNO ONE UNDER EIGHTEEN SYMBOL;
aKEYCAP TEN;aINPUT SYMBOL FOR LATIN CAPITAL LETTERS;xSMALL LETTERS;rNUMBERS;rSYMBOLS;
rLATIN LETTERS;aFIRE;aELECTRIC TORCH;aWRENCH;aHAMMER;aNUT AND BOLT;aHOCHO;aPISTOL;aMICROSCOPE;
aTELESCOPE;aCRYSTAL BALL;aSIX POINTED STAR WITH MIDDLE DOT;aJAPANESE SYMBOL FOR BEGINNER;
aTRIDENT EMBLEM;aBLACK SQUARE BUTTON;aWHITE SQUARE BUTTON;aLARGE RED CIRCLE;gBLUE CIRCLE;
gORANGE DIAMOND;gBLUE DIAMOND;aSMALL ORANGE DIAMOND;gBLUE DIAMOND;aUP-POINTING RED TRIANGLE;
aDOWN-POINTING RED TRIANGLE;aUP-POINTING SMALL RED TRIANGLE;aDOWN-POINTING SMALL RED TRIANGLE;
aLOWER RIGHT SHADOWED WHITE CIRCLE;aUPPER RIGHT SHADOWED WHITE CIRCLE;aCIRCLED CROSS POMMEE;
bROSS POMMEE WITH HALF-CIRCLE BELOW;m;aNOTCHED LEFT SEMICIRCLE WITH THREE DOTS;
iRIGHT SEMICIRCLE WITH THREE DOTS;aSYMBOL FOR MARKS CHAPTER;aWHITE LATIN CROSS;aHEAVY LATIN CROSS;
aCELTIC CROSS;aOM SYMBOL;aDOVE OF PEACE;aKAABA;aMOSQUE;aSYNAGOGUE;aMENORAH WITH NINE BRANCHES;
aBOWL OF HYGIEIA;aCLOCK FACE ONE OCLOCK;lTWO OCLOCK;mHREE OCLOCK;lFOUR OCLOCK;mIVE OCLOCK;
lSIX OCLOCK;mEVEN OCLOCK;lEIGHT OCLOCK;lNINE OCLOCK;lTEN OCLOCK;lELEVEN OCLOCK;lTWELVE OCLOCK;
lONE-THIRTY;lTWO-THIRTY;mHREE-THIRTY;lFOUR-THIRTY;mIVE-THIRTY;lSIX-THIRTY;mEVEN-THIRTY;
lEIGHT-THIRTY;lNINE-THIRTY;lTEN-THIRTY;lELEVEN-THIRTY;lTWELVE-THIRTY;aRIGHT SPEAKER;
n WITH ONE SOUND WAVE;tTHREE SOUND WAVES;aBULLHORN;i WITH SOUND WAVES;aRINGING BELL;aBOOK;aCANDLE;
aMANTELPIECE CLOCK;aBLACK SKULL AND CROSSBONES;aNO PIRACY;aHOLE;aMAN IN BUSINESS SUIT LEVITATING;
aSLEUTH OR SPY;aDARK SUNGLASSES;aSPIDER;g WEB;aJOYSTICK;aMAN DANCING;aLEFT HAND TELEPHONE RECEIVER
;aTELEPHONE RECEIVER WITH PAGE;aRIGHT HAND TELEPHONE RECEIVER;aWHITE TOUCHTONE TELEPHONE;
aBLACK TOUCHTONE TELEPHONE;aTELEPHONE ON TOP OF MODEM;aCLAMSHELL MOBILE PHONE;aBACK OF ENVELOPE;
aSTAMPED ENVELOPE;aENVELOPE WITH LIGHTNING;aFLYING ENVELOPE;aPEN OVER STAMPED ENVELOPE;
aLINKED PAPERCLIPS;aBLACK PUSHPIN;aLOWER LEFT PENCIL;lBALLPOINT PEN;lFOUNTAIN PEN;lPAINTBRUSH;
lCRAYON;bEFT WRITING HAND;aTURNED OK HAND SIGN;aRAISED HAND WITH FINGERS SPLAYED;
bEVERSED RAISED HAND WITH FINGERS SPLAYED;jTHUMBS UP SIGN;qDOWN SIGN;jVICTORY HAND;
jHAND WITH MIDDLE FINGER EXTENDED;bAISED HAND WITH PART BETWEEN MIDDLE AND RING FINGERS;
aWHITE DOWN POINTING LEFT HAND INDEX;aSIDEWAYS WHITE LEFT POINTING INDEX;pRIGHT POINTING INDEX;
jBLACK LEFT POINTING INDEX;pRIGHT POINTING INDEX;aBLACK LEFT POINTING BACKHAND INDEX;
gRIGHT POINTING BACKHAND INDEX;aSIDEWAYS WHITE UP POINTING INDEX;pDOWN POINTING INDEX;
jBLACK UP POINTING INDEX;pDOWN POINTING INDEX;aBLACK UP POINTING BACKHAND INDEX;
gDOWN POINTING BACKHAND INDEX;gHEART;aDESKTOP COMPUTER;aKEYBOARD AND MOUSE;
aTHREE NETWORKED COMPUTERS;aPRINTER;bOCKET CALCULATOR;aBLACK HARD SHELL FLOPPY DISK;
aWHITE HARD SHELL FLOPPY DISK;aSOFT SHELL FLOPPY DISK;aTAPE CARTRIDGE;aWIRED KEYBOARD;
aONE BUTTON MOUSE;aTWO BUTTON MOUSE;bHREE BUTTON MOUSE;bRACKBALL;aOLD PERSONAL COMPUTER;
aHARD DISK;aSCREEN;aPRINTER ICON;aFAX ICON;aOPTICAL DISC ICON;aDOCUMENT WITH TEXT;s AND PICTURE;
oPICTURE;aFRAME WITH PICTURE;lTILES;lAN X;aBLACK FOLDER;aFOLDER;aOPEN FOLDER;aCARD INDEX DIVIDERS;
fFILE BOX;aFILE CABINET;aEMPTY NOTE;k PAGE;nD;aNOTE;e PAGE;hD;aEMPTY DOCUMENT;gPAGE;kS;aDOCUMENT;
aPAGE;eS;aWASTEBASKET;aSPIRAL NOTE PAD;hCALENDAR PAD;aDESKTOP WINDOW;aMINIMIZE;bAXIMIZE;aOVERLAP;
aCLOCKWISE RIGHT AND LEFT SEMICIRCLE ARROWS;bANCELLATION X;aINCREASE FONT SIZE SYMBOL;
aDECREASE FONT SIZE SYMBOL;aCOMPRESSION;aOLD KEY;aROLLED-UP NEWSPAPER;aPAGE WITH CIRCLED TEXT;
aSTOCK CHART;aDAGGER KNIFE;aLIPS;aSPEAKING HEAD IN SILHOUETTE;aTHREE RAYS ABOVE;lBELOW;lLEFT;
lRIGHT;aLEFT SPEECH BUBBLE;aRIGHT SPEECH BUBBLE;aTWO SPEECH BUBBLES;bHREE SPEECH BUBBLES;
aLEFT THOUGHT BUBBLE;aRIGHT THOUGHT BUBBLE;aLEFT ANGER BUBBLE;aRIGHT ANGER BUBBLE;aMOOD BUBBLE;
aLIGHTNING MOOD BUBBLE;o;aBALLOT BOX WITH BALLOT;hSCRIPT X;hBOX WITH SCRIPT X;jLD SCRIPT X;
jX WITH BOLD SCRIPT X;aLIGHT CHECK MARK;aBALLOT BOX WITH BOLD CHECK;aWORLD MAP;aMOUNT FUJI;
aTOKYO TOWER;aSTATUE OF LIBERTY;bILHOUETTE OF JAPAN;aMOYAI;aGRINNING FACE;n WITH SMILING EYES;
aFACE WITH TEARS OF JOY;aSMILING FACE WITH OPEN MOUTH;zd AND SMILING EYES;ziCOLD SWEAT;
ziTIGHTLY-CLOSED EYES;sHALO;tORNS;aWINKING FACE;aSMILING FACE WITH SMILING EYES;
aFACE SAVOURING DELICIOUS FOOD;aRELIEVED FACE;aSMILING FACE WITH HEART-SHAPED EYES;sSUNGLASSES;
dRKING FACE;aNEUTRAL FACE;aEXPRESSIONLESS FACE;aUNAMUSED FACE;aFACE WITH COLD SWEAT;aPENSIVE FACE;
aCONFUSED FACE;eOUNDED FACE;aKISSING FACE;aFACE THROWING A KISS;aKISSING FACE WITH SMILING EYES;
sCLOSED EYES;aFACE WITH STUCK-OUT TONGUE;zb AND WINKING EYE;zgTIGHTLY-CLOSED EYES;
aDISAPPOINTED FACE;aWORRIED FACE;aANGRY FACE;aPOUTING FACE;aCRYING FACE;aPERSEVERING FACE;
aFACE WITH LOOK OF TRIUMPH;aDISAPPOINTED BUT RELIEVED FACE;aFROWNING FACE WITH OPEN MOUTH;
aANGUISHED FACE;aFEARFUL FACE;aWEARY FACE;aSLEEPY FACE;aTIRED FACE;aGRIMACING FACE;
aLOUDLY CRYING FACE;aFACE WITH OPEN MOUTH;aHUSHED FACE;aFACE WITH OPEN MOUTH AND COLD SWEAT;
fSCREAMING IN FEAR;aASTONISHED FACE;aFLUSHED FACE;aSLEEPING FACE;aDIZZY FACE;aFACE WITHOUT MOUTH;
j MEDICAL MASK;aGRINNING CAT FACE WITH SMILING EYES;aCAT FACE WITH TEARS OF JOY;
aSMILING CAT FACE WITH OPEN MOUTH;wHEART-SHAPED EYES;aCAT FACE WITH WRY SMILE;
aKISSING CAT FACE WITH CLOSED EYES;aPOUTING CAT FACE;aCRYING CAT FACE;aWEARY CAT FACE;
aSLIGHTLY FROWNING FACE;jSMILING FACE;aUPSIDE-DOWN FACE;aFACE WITH ROLLING EYES;kNO GOOD GESTURE;
kOK GESTURE;aPERSON BOWING DEEPLY;aSEE-NO-EVIL MONKEY;aHEAR-NO-EVIL MONKEY;aSPEAK-NO-EVIL MONKEY;
aHAPPY PERSON RAISING ONE HAND;aPERSON RAISING BOTH HANDS IN CELEBRATION;hFROWNING;
hWITH POUTING FACE;mFOLDED HANDS;aNORTH WEST POINTING LEAF;aSOUTH WEST POINTING LEAF;
aNORTH EAST POINTING LEAF;aSOUTH EAST POINTING LEAF;aTURNED NORTH WEST POINTING LEAF;
hSOUTH WEST POINTING LEAF;hNORTH EAST POINTING LEAF;hSOUTH EAST POINTING LEAF;
aNORTH WEST POINTING VINE LEAF;aSOUTH WEST POINTING VINE LEAF;aNORTH EAST POINTING VINE LEAF;
aSOUTH EAST POINTING VINE LEAF;aHEAVY NORTH WEST POINTING VINE LEAF;gSOUTH WEST POINTING VINE LEAF
;gNORTH EAST POINTING VINE LEAF;gSOUTH EAST POINTING VINE LEAF;aNORTH WEST POINTING BUD;
aSOUTH WEST POINTING BUD;aNORTH EAST POINTING BUD;aSOUTH EAST POINTING BUD;
aHEAVY NORTH WEST POINTING BUD;gSOUTH WEST POINTING BUD;gNORTH EAST POINTING BUD;
gSOUTH EAST POINTING BUD;bOLLOW QUILT SQUARE ORNAMENT;zd IN BLACK SQUARE;aSOLID QUILT SQUARE ORNAM
ENT;zc IN BLACK SQUARE;aLEFTWARDS ROCKET;aUPWARDS ROCKET;aRIGHTWARDS ROCKET;aDOWNWARDS ROCKET;
aSCRIPT LIGATURE ET ORNAMENT;aHEAVY SCRIPT LIGATURE ET ORNAMENT;aLIGATURE OPEN ET ORNAMENT;
aHEAVY LIGATURE OPEN ET ORNAMENT;gAMPERSAND ORNAMENT;aSWASH AMPERSAND ORNAMENT;
bANS-SERIF HEAVY DOUBLE TURNED COMMA QUOTATION MARK ORNAMENT;yCOMMA QUOTATION MARK ORNAMENT;
rLOW DOUBLE COMMA QUOTATION MARK ORNAMENT;aHEAVY INTERROBANG ORNAMENT;aSANS-SERIF INTERROBANG ORNA
MENT;aHEAVY SANS-SERIF INTERROBANG ORNAMENT;aVERY HEAVY SOLIDUS;lREVERSE SOLIDUS;aCHECKER BOARD;
aREVERSE CHECKER BOARD;bOCKET;aHELICOPTER;aSTEAM LOCOMOTIVE;aRAILWAY CAR;aHIGH-SPEED TRAIN;
q WITH BULLET NOSE;aTRAIN;aMETRO;aLIGHT RAIL;aSTATION;aTRAM;e CAR;aBUS;aONCOMING BUS;aTROLLEYBUS;
aBUS STOP;aMINIBUS;aAMBULANCE;aFIRE ENGINE;aPOLICE CAR;aONCOMING POLICE CAR;aTAXI;aONCOMING TAXI;
aAUTOMOBILE;aONCOMING AUTOMOBILE;aRECREATIONAL VEHICLE;aDELIVERY TRUCK;aARTICULATED LORRY;
aTRACTOR;aMONORAIL;cUNTAIN RAILWAY;aSUSPENSION RAILWAY;aMOUNTAIN CABLEWAY;aAERIAL TRAMWAY;aSHIP;
aROWBOAT;aSPEEDBOAT;aHORIZONTAL TRAFFIC LIGHT;aVERTICAL TRAFFIC LIGHT;aCONSTRUCTION SIGN;
aPOLICE CARS REVOLVING LIGHT;aTRIANGULAR FLAG ON POST;aDOOR;aNO ENTRY SIGN;aSMOKING SYMBOL;
aNO SMOKING SYMBOL;aPUT LITTER IN ITS PLACE SYMBOL;aDO NOT LITTER SYMBOL;aPOTABLE WATER SYMBOL;
aNON-POTABLE WATER SYMBOL;aBICYCLE;aNO BICYCLES;aBICYCLIST;aMOUNTAIN BICYCLIST;aPEDESTRIAN;
aNO PEDESTRIANS;aCHILDREN CROSSING;aMENS SYMBOL;aWOMENS SYMBOL;aRESTROOM;aBABY SYMBOL;aTOILET;
aWATER CLOSET;aSHOWER;aBATH;eTUB;aPASSPORT CONTROL;aCUSTOMS;aBAGGAGE CLAIM;aLEFT LUGGAGE;
aTRIANGLE WITH ROUNDED CORNERS;aPROHIBITED SIGN;aCIRCLED INFORMATION SOURCE;aBOYS SYMBOL;
aGIRLS SYMBOL;aCOUCH AND LAMP;aSLEEPING ACCOMMODATION;bHOPPING BAGS;aBELLHOP BELL;cD;
aPLACE OF WORSHIP;aOCTAGONAL SIGN;aSHOPPING TROLLEY;bTUPA;aPAGODA;aHINDU TEMPLE;bUT;aELEVATOR;
1F6DD:aPLAYGROUND SLIDE;aWHEEL;aRING BUOY;aHAMMER AND WRENCH;aSHIELD;aOIL DRUM;aMOTORWAY;
aRAILWAY TRACK;aMOTOR BOAT;aUP-POINTING MILITARY AIRPLANE;mAIRPLANE;mSMALL AIRPLANE;
aSMALL AIRPLANE;aNORTHEAST-POINTING AIRPLANE;aAIRPLANE DEPARTURE;jARRIVING;1F6F0:aSATELLITE;
aONCOMING FIRE ENGINE;aDIESEL LOCOMOTIVE;aPASSENGER SHIP;aSCOOTER;aMOTOR SCOOTER;aCANOE;aSLED;
aFLYING SAUCER;aSKATEBOARD;aAUTO RICKSHAW;aPICKUP TRUCK;aROLLER SKATE;1F700:aALCHEMICAL SYMBOL FO
R QUINTESSENCE;wAIR;wFIRE;wEARTH;wWATER;wAQUAFORTIS;zb REGIA;zh-2;zcVITAE;zh-2;wVINEGAR;ze-2;zf3;
wSULFUR;wPHILOSOPHERS SULFUR;wBLACK SULFUR;wMERCURY SUBLIMATE;zo-2;zp3;wCINNABAR;wSALT;wNITRE;
wVITRIOL;ze-2;wROCK SALT;zg-2;wGOLD;wSILVER;wIRON ORE;zf-2;wCROCUS OF IRON;wREGULUS OF IRON;
wCOPPER ORE;wIRON-COPPER ORE;wSUBLIMATE OF COPPER;wCROCUS OF COPPER;zn-2;xOPPER ANTIMONIATE;
wSALT OF COPPER ANTIMONIATE;xUBLIMATE OF SALT OF COPPER;wVERDIGRIS;wTIN ORE;wLEAD ORE;
wANTIMONY ORE;wSUBLIMATE OF ANTIMONY;xALT OF ANTIMONY;xUBLIMATE OF SALT OF ANTIMONY;
wVINEGAR OF ANTIMONY;wREGULUS OF ANTIMONY;zq-2;ze;ze-2;zf3;zf4;wALKALI;zd-2;wMARCASITE;
wSAL-AMMONIAC;wARSENIC;wREALGAR;ze-2;wAURIPIGMENT;wBISMUTH ORE;wTARTAR;zd-2;wQUICK LIME;wBORAX;
zc-2;zd3;wALUM;wOIL;wSPIRIT;wTINCTURE;wGUM;wWAX;wPOWDER;wCALX;wTUTTY;wCAPUT MORTUUM;
wSCEPTER OF JOVE;wCADUCEUS;wTRIDENT;wSTARRED TRIDENT;wLODESTONE;wSOAP;wURINE;wHORSE DUNG;wASHES;
wPOT ASHES;wBRICK;wPOWDERED BRICK;wAMALGAM;wSTRATUM SUPER STRATUM;zs-2;xUBLIMATION;wPRECIPITATE;
wDISTILL;zSOLVE;zf-2;wPURIFY;yTREFACTION;wCRUCIBLE;zf-2;zg3;zg4;zg5;wALEMBIC;wBATH OF MARY;
zfVAPOURS;wRETORT;wHOUR;wNIGHT;wDAY-NIGHT;wMONTH;wHALF DRAM;zcOUNCE;1F780:aBLACK LEFT-POINTING ISO
SCELES RIGHT TRIANGLE;gUP-POINTING ISOSCELES RIGHT TRIANGLE;gRIGHT-POINTING ISOSCELES RIGHT TRIANG
LE;gDOWN-POINTING ISOSCELES RIGHT TRIANGLE;gSLIGHTLY SMALL CIRCLE;aMEDIUM BOLD WHITE CIRCLE;
aBOLD WHITE CIRCLE;aHEAVY WHITE CIRCLE;aVERY HEAVY WHITE CIRCLE;aEXTREMELY HEAVY WHITE CIRCLE;
aWHITE CIRCLE CONTAINING BLACK SMALL CIRCLE;aROUND TARGET;aBLACK TINY SQUARE;
gSLIGHTLY SMALL SQUARE;aLIGHT WHITE SQUARE;aMEDIUM WHITE SQUARE;aBOLD WHITE SQUARE;
aHEAVY WHITE SQUARE;aVERY HEAVY WHITE SQUARE;aEXTREMELY HEAVY WHITE SQUARE;
aWHITE SQUARE CONTAINING BLACK VERY SMALL SQUARE;zfMEDIUM SQUARE;aSQUARE TARGET;
aBLACK TINY DIAMOND;gVERY SMALL DIAMOND;gMEDIUM SMALL DIAMOND;aWHITE DIAMOND CONTAINING BLACK VER
Y SMALL DIAMOND;zgMEDIUM DIAMOND;aDIAMOND TARGET;aBLACK TINY LOZENGE;gVERY SMALL LOZENGE;
gMEDIUM SMALL LOZENGE;aWHITE LOZENGE CONTAINING BLACK SMALL LOZENGE;aTHIN GREEK CROSS;
aLIGHT GREEK CROSS;aMEDIUM GREEK CROSS;aBOLD GREEK CROSS;aVERY BOLD GREEK CROSS;
fHEAVY GREEK CROSS;aEXTREMELY HEAVY GREEK CROSS;aTHIN SALTIRE;aLIGHT SALTIRE;aMEDIUM SALTIRE;
aBOLD SALTIRE;aHEAVY SALTIRE;aVERY HEAVY SALTIRE;aEXTREMELY HEAVY SALTIRE;aLIGHT FIVE SPOKED ASTER
ISK;aMEDIUM FIVE SPOKED ASTERISK;aBOLD FIVE SPOKED ASTERISK;aHEAVY FIVE SPOKED ASTERISK;
aVERY HEAVY FIVE SPOKED ASTERISK;aEXTREMELY HEAVY FIVE SPOKED ASTERISK;aLIGHT SIX SPOKED ASTERISK;
aMEDIUM SIX SPOKED ASTERISK;aBOLD SIX SPOKED ASTERISK;aHEAVY SIX SPOKED ASTERISK;
aVERY HEAVY SIX SPOKED ASTERISK;aEXTREMELY HEAVY SIX SPOKED ASTERISK;aLIGHT EIGHT SPOKED ASTERISK;
aMEDIUM EIGHT SPOKED ASTERISK;aBOLD EIGHT SPOKED ASTERISK;aHEAVY EIGHT SPOKED ASTERISK;
aVERY HEAVY EIGHT SPOKED ASTERISK;aLIGHT THREE POINTED BLACK STAR;aMEDIUM THREE POINTED BLACK STAR
;aTHREE POINTED BLACK STAR;aMEDIUM THREE POINTED PINWHEEL STAR;aLIGHT FOUR POINTED BLACK STAR;
aMEDIUM FOUR POINTED BLACK STAR;aFOUR POINTED BLACK STAR;aMEDIUM FOUR POINTED PINWHEEL STAR;
aREVERSE LIGHT FOUR POINTED PINWHEEL STAR;aLIGHT FIVE POINTED BLACK STAR;aHEAVY FIVE POINTED BLAC
K STAR;aMEDIUM SIX POINTED BLACK STAR;aHEAVY SIX POINTED BLACK STAR;aSIX POINTED PINWHEEL STAR;
aMEDIUM EIGHT POINTED BLACK STAR;aHEAVY EIGHT POINTED BLACK STAR;aVERY HEAVY EIGHT POINTED BLACK S
TAR;aHEAVY EIGHT POINTED PINWHEEL STAR;aLIGHT TWELVE POINTED BLACK STAR;aHEAVY TWELVE POINTED BLAC
K STAR;vPINWHEEL STAR;aCIRCLED TRIANGLE;aNEGATIVE CIRCLED TRIANGLE;aCIRCLED SQUARE;
aNEGATIVE CIRCLED SQUARE;1F7E0:aLARGE ORANGE CIRCLE;gYELLOW CIRCLE;gGREEN CIRCLE;gPURPLE CIRCLE;
gBROWN CIRCLE;gRED SQUARE;gBLUE SQUARE;gORANGE SQUARE;gYELLOW SQUARE;gGREEN SQUARE;gPURPLE SQUARE;
gBROWN SQUARE;1F7F0:aHEAVY EQUALS SIGN;1F800:aLEFTWARDS ARROW WITH SMALL TRIANGLE ARROWHEAD;
aUPWARDS ARROW WITH SMALL TRIANGLE ARROWHEAD;aRIGHTWARDS ARROW WITH SMALL TRIANGLE ARROWHEAD;
aDOWNWARDS ARROW WITH SMALL TRIANGLE ARROWHEAD;aLEFTWARDS ARROW WITH MEDIUM TRIANGLE ARROWHEAD;
aUPWARDS ARROW WITH MEDIUM TRIANGLE ARROWHEAD;aRIGHTWARDS ARROW WITH MEDIUM TRIANGLE ARROWHEAD;
aDOWNWARDS ARROW WITH MEDIUM TRIANGLE ARROWHEAD;aLEFTWARDS ARROW WITH LARGE TRIANGLE ARROWHEAD;
aUPWARDS ARROW WITH LARGE TRIANGLE ARROWHEAD;aRIGHTWARDS ARROW WITH LARGE TRIANGLE ARROWHEAD;
aDOWNWARDS ARROW WITH LARGE TRIANGLE ARROWHEAD;1F810:aLEFTWARDS ARROW WITH SMALL EQUILATERAL ARROW
HEAD;aUPWARDS ARROW WITH SMALL EQUILATERAL ARROWHEAD;aRIGHTWARDS ARROW WITH SMALL EQUILATERAL ARRO
WHEAD;aDOWNWARDS ARROW WITH SMALL EQUILATERAL ARROWHEAD;aLEFTWARDS ARROW WITH EQUILATERAL ARROWHEA
D;aUPWARDS ARROW WITH EQUILATERAL ARROWHEAD;aRIGHTWARDS ARROW WITH EQUILATERAL ARROWHEAD;
aDOWNWARDS ARROW WITH EQUILATERAL ARROWHEAD;aHEAVY LEFTWARDS ARROW WITH EQUILATERAL ARROWHEAD;
gUPWARDS ARROW WITH EQUILATERAL ARROWHEAD;gRIGHTWARDS ARROW WITH EQUILATERAL ARROWHEAD;
gDOWNWARDS ARROW WITH EQUILATERAL ARROWHEAD;gLEFTWARDS ARROW WITH LARGE EQUILATERAL ARROWHEAD;
gUPWARDS ARROW WITH LARGE EQUILATERAL ARROWHEAD;gRIGHTWARDS ARROW WITH LARGE EQUILATERAL ARROWHEAD
;gDOWNWARDS ARROW WITH LARGE EQUILATERAL ARROWHEAD;aLEFTWARDS TRIANGLE-HEADED ARROW WITH NARROW SH
AFT;aUPWARDS TRIANGLE-HEADED ARROW WITH NARROW SHAFT;aRIGHTWARDS TRIANGLE-HEADED ARROW WITH NARRO
W SHAFT;aDOWNWARDS TRIANGLE-HEADED ARROW WITH NARROW SHAFT;aLEFTWARDS TRIANGLE-HEADED ARROW WITH M
EDIUM SHAFT;aUPWARDS TRIANGLE-HEADED ARROW WITH MEDIUM SHAFT;aRIGHTWARDS TRIANGLE-HEADED ARROW WIT
H MEDIUM SHAFT;aDOWNWARDS TRIANGLE-HEADED ARROW WITH MEDIUM SHAFT;aLEFTWARDS TRIANGLE-HEADED ARRO
W WITH BOLD SHAFT;aUPWARDS TRIANGLE-HEADED ARROW WITH BOLD SHAFT;aRIGHTWARDS TRIANGLE-HEADED ARRO
W WITH BOLD SHAFT;aDOWNWARDS TRIANGLE-HEADED ARROW WITH BOLD SHAFT;aLEFTWARDS TRIANGLE-HEADED ARRO
W WITH HEAVY SHAFT;aUPWARDS TRIANGLE-HEADED ARROW WITH HEAVY SHAFT;aRIGHTWARDS TRIANGLE-HEADED ARR
OW WITH HEAVY SHAFT;aDOWNWARDS TRIANGLE-HEADED ARROW WITH HEAVY SHAFT;aLEFTWARDS TRIANGLE-HEADED A
RROW WITH VERY HEAVY SHAFT;aUPWARDS TRIANGLE-HEADED ARROW WITH VERY HEAVY SHAFT;
aRIGHTWARDS TRIANGLE-HEADED ARROW WITH VERY HEAVY SHAFT;aDOWNWARDS TRIANGLE-HEADED ARROW WITH VER
Y HEAVY SHAFT;aLEFTWARDS FINGER-POST ARROW;aUPWARDS FINGER-POST ARROW;aRIGHTWARDS FINGER-POST ARRO
W;aDOWNWARDS FINGER-POST ARROW;aLEFTWARDS SQUARED ARROW;aUPWARDS SQUARED ARROW;
aRIGHTWARDS SQUARED ARROW;aDOWNWARDS SQUARED ARROW;aLEFTWARDS COMPRESSED ARROW;
aUPWARDS COMPRESSED ARROW;aRIGHTWARDS COMPRESSED ARROW;aDOWNWARDS COMPRESSED ARROW;
aLEFTWARDS HEAVY COMPRESSED ARROW;aUPWARDS HEAVY COMPRESSED ARROW;aRIGHTWARDS HEAVY COMPRESSED ARR
OW;aDOWNWARDS HEAVY COMPRESSED ARROW;aLEFTWARDS HEAVY ARROW;aUPWARDS HEAVY ARROW;
aRIGHTWARDS HEAVY ARROW;aDOWNWARDS HEAVY ARROW;1F850:aLEFTWARDS SANS-SERIF ARROW;
aUPWARDS SANS-SERIF ARROW;aRIGHTWARDS SANS-SERIF ARROW;aDOWNWARDS SANS-SERIF ARROW;
aNORTH WEST SANS-SERIF ARROW;gEAST SANS-SERIF ARROW;aSOUTH EAST SANS-SERIF ARROW;
gWEST SANS-SERIF ARROW;aLEFT RIGHT SANS-SERIF ARROW;aUP DOWN SANS-SERIF ARROW;
1F860:aWIDE-HEADED LEFTWARDS LIGHT BARB ARROW;mUPWARDS LIGHT BARB ARROW;mRIGHTWARDS LIGHT BARB ARR
OW;mDOWNWARDS LIGHT BARB ARROW;mNORTH WEST LIGHT BARB ARROW;sEAST LIGHT BARB ARROW;
mSOUTH EAST LIGHT BARB ARROW;sWEST LIGHT BARB ARROW;mLEFTWARDS BARB ARROW;mUPWARDS BARB ARROW;
mRIGHTWARDS BARB ARROW;mDOWNWARDS BARB ARROW;mNORTH WEST BARB ARROW;sEAST BARB ARROW;
mSOUTH EAST BARB ARROW;sWEST BARB ARROW;mLEFTWARDS MEDIUM BARB ARROW;mUPWARDS MEDIUM BARB ARROW;
mRIGHTWARDS MEDIUM BARB ARROW;mDOWNWARDS MEDIUM BARB ARROW;mNORTH WEST MEDIUM BARB ARROW;
sEAST MEDIUM BARB ARROW;mSOUTH EAST MEDIUM BARB ARROW;sWEST MEDIUM BARB ARROW;
mLEFTWARDS HEAVY BARB ARROW;mUPWARDS HEAVY BARB ARROW;mRIGHTWARDS HEAVY BARB ARROW;
mDOWNWARDS HEAVY BARB ARROW;mNORTH WEST HEAVY BARB ARROW;sEAST HEAVY BARB ARROW;
mSOUTH EAST HEAVY BARB ARROW;sWEST HEAVY BARB ARROW;mLEFTWARDS VERY HEAVY BARB ARROW;
mUPWARDS VERY HEAVY BARB ARROW;mRIGHTWARDS VERY HEAVY BARB ARROW;mDOWNWARDS VERY HEAVY BARB ARROW;
mNORTH WEST VERY HEAVY BARB ARROW;sEAST VERY HEAVY BARB ARROW;mSOUTH EAST VERY HEAVY BARB ARROW;
sWEST VERY HEAVY BARB ARROW;1F890:aLEFTWARDS TRIANGLE ARROWHEAD;aUPWARDS TRIANGLE ARROWHEAD;
aRIGHTWARDS TRIANGLE ARROWHEAD;aDOWNWARDS TRIANGLE ARROWHEAD;aLEFTWARDS WHITE ARROW WITHIN TRIANGL
E ARROWHEAD;aUPWARDS WHITE ARROW WITHIN TRIANGLE ARROWHEAD;aRIGHTWARDS WHITE ARROW WITHIN TRIANGL
E ARROWHEAD;aDOWNWARDS WHITE ARROW WITHIN TRIANGLE ARROWHEAD;aLEFTWARDS ARROW WITH NOTCHED TAIL;
aUPWARDS ARROW WITH NOTCHED TAIL;aRIGHTWARDS ARROW WITH NOTCHED TAIL;aDOWNWARDS ARROW WITH NOTCHE
D TAIL;aHEAVY ARROW SHAFT WIDTH ONE;yTWO THIRDS;yONE HALF;zdTHIRD;aLEFTWARDS BOTTOM-SHADED WHITE A
RROW;aRIGHTWARDS BOTTOM SHADED WHITE ARROW;aLEFTWARDS TOP SHADED WHITE ARROW;
aRIGHTWARDS TOP SHADED WHITE ARROW;aLEFTWARDS LEFT-SHADED WHITE ARROW;aRIGHTWARDS RIGHT-SHADED WHI
TE ARROW;aLEFTWARDS RIGHT-SHADED WHITE ARROW;aRIGHTWARDS LEFT-SHADED WHITE ARROW;
aLEFTWARDS BACK-TILTED SHADOWED WHITE ARROW;aRIGHTWARDS BACK-TILTED SHADOWED WHITE ARROW;
aLEFTWARDS FRONT-TILTED SHADOWED WHITE ARROW;aRIGHTWARDS FRONT-TILTED SHADOWED WHITE ARROW;
aWHITE ARROW SHAFT WIDTH ONE;yTWO THIRDS;1F8B0:aARROW POINTING UPWARDS THEN NORTH WEST;
pRIGHTWARDS THEN CURVING SOUTH WEST;1F900:aCIRCLED CROSS FORMEE WITH FOUR DOTS;zbTWO DOTS;u;
aLEFT HALF CIRCLE WITH FOUR DOTS;wTHREE DOTS;xWO DOTS;wDOT;q;aDOWNWARD FACING HOOK;qNOTCHED HOOK;
qHOOK WITH DOT;qNOTCHED HOOK WITH DOT;aPINCHED FINGERS;aWHITE HEART;aBROWN HEART;aPINCHING HAND;
aZIPPER-MOUTH FACE;aMONEY-MOUTH FACE;aFACE WITH THERMOMETER;aNERD FACE;aTHINKING FACE;
aFACE WITH HEAD-BANDAGE;aROBOT FACE;aHUGGING FACE;aSIGN OF THE HORNS;aCALL ME HAND;
aRAISED BACK OF HAND;aLEFT-FACING FIST;aRIGHT-FACING FIST;aHANDSHAKE;e WITH INDEX AND MIDDLE FINGE
RS CROSSED;aI LOVE YOU HAND SIGN;aFACE WITH COWBOY HAT;aCLOWN FACE;aNAUSEATED FACE;
aROLLING ON THE FLOOR LAUGHING;aDROOLING FACE;aLYING FACE;aFACE PALM;aSNEEZING FACE;
aFACE WITH ONE EYEBROW RAISED;aGRINNING FACE WITH STAR EYES;tONE LARGE AND ONE SMALL EYE;
aFACE WITH FINGER COVERING CLOSED LIPS;aSERIOUS FACE WITH SYMBOLS COVERING MOUTH;
bMILING FACE WITH SMILING EYES AND HAND COVERING MOUTH;aFACE WITH OPEN MOUTH VOMITING;
aSHOCKED FACE WITH EXPLODING HEAD;aPREGNANT WOMAN;aBREAST-FEEDING;aPALMS UP TOGETHER;aSELFIE;
aPRINCE;aMAN IN TUXEDO;bOTHER CHRISTMAS;aSHRUG;aPERSON DOING CARTWHEEL;aJUGGLING;aFENCER;
aMODERN PENTATHLON;aWRESTLERS;bATER POLO;aHANDBALL;aDIVING MASK;aWILTED FLOWER;
aDRUM WITH DRUMSTICKS;aCLINKING GLASSES;aTUMBLER GLASS;aSPOON;aGOAL NET;aRIFLE;aFIRST PLACE MEDAL;
aSECOND PLACE MEDAL;aTHIRD PLACE MEDAL;aBOXING GLOVE;aMARTIAL ARTS UNIFORM;aCURLING STONE;
aLACROSSE STICK AND BALL;aSOFTBALL;aFLYING DISC;aCROISSANT;aAVOCADO;aCUCUMBER;aBACON;aPOTATO;
aCARROT;aBAGUETTE BREAD;aGREEN SALAD;aSHALLOW PAN OF FOOD;bTUFFED FLATBREAD;aEGG;aGLASS OF MILK;
aPEANUTS;aKIWIFRUIT;aPANCAKES;aDUMPLING;aFORTUNE COOKIE;aTAKEOUT BOX;aCHOPSTICKS;aBOWL WITH SPOON;
aCUP WITH STRAW;bOCONUT;aBROCCOLI;aPIE;bRETZEL;aCUT OF MEAT;aSANDWICH;aCANNED FOOD;aLEAFY GREEN;
aMANGO;bOON CAKE;aBAGEL;aSMILING FACE WITH SMILING EYES AND THREE HEARTS;aYAWNING FACE;
aSMILING FACE WITH TEAR;aFACE WITH PARTY HORN AND PARTY HAT;kUNEVEN EYES AND WAVY MOUTH;
aOVERHEATED FACE;aFREEZING FACE;aNINJA;aDISGUISED FACE;aFACE HOLDING BACK TEARS;
fWITH PLEADING EYES;aSARI;aLAB COAT;aGOGGLES;aHIKING BOOT;aFLAT SHOE;aCRAB;aLION FACE;aSCORPION;
aTURKEY;aUNICORN FACE;aEAGLE;aDUCK;aBAT;aSHARK;aOWL;aFOX FACE;aBUTTERFLY;aDEER;aGORILLA;aLIZARD;
aRHINOCEROS;aSHRIMP;bQUID;aGIRAFFE FACE;aZEBRA FACE;aHEDGEHOG;aSAUROPOD;aT-REX;aCRICKET;aKANGAROO;
aLLAMA;aPEACOCK;aHIPPOPOTAMUS;aPARROT;aRACCOON;aLOBSTER;aMOSQUITO;bICROBE;aBADGER;aSWAN;aMAMMOTH;
aDODO;aSLOTH;aOTTER;bRANGUTAN;aSKUNK;aFLAMINGO;aOYSTER;aBEAVER;bISON;aSEAL;aGUIDE DOG;
aPROBING CANE;aEMOJI COMPONENT RED HAIR;qCURLY HAIR;qBALD;qWHITE HAIR;aBONE;aLEG;aFOOT;aTOOTH;
aSUPERHERO;fVILLAIN;bAFETY VEST;aEAR WITH HEARING AID;aMOTORIZED WHEELCHAIR;bANUAL WHEELCHAIR;
bECHANICAL ARM;lLEG;aCHEESE WEDGE;bUPCAKE;aSALT SHAKER;aBEVERAGE BOX;aGARLIC;aONION;aFALAFEL;
aWAFFLE;aBUTTER;aMATE DRINK;aICE CUBE;aBUBBLE TEA;aTROLL;aSTANDING PERSON;aKNEELING PERSON;
aDEAF PERSON;aFACE WITH MONOCLE;aADULT;aCHILD;aOLDER ADULT;aBEARDED PERSON;aPERSON WITH HEADSCARF;
hIN STEAMY ROOM;hCLIMBING;hIN LOTUS POSITION;aMAGE;aFAIRY;aVAMPIRE;aMERPERSON;aELF;aGENIE;aZOMBIE;
aBRAIN;aORANGE HEART;aBILLED CAP;aSCARF;aGLOVES;aCOAT;aSOCKS;aRED GIFT ENVELOPE;aFIRECRACKER;
aJIGSAW PUZZLE PIECE;aTEST TUBE;aPETRI DISH;aDNA DOUBLE HELIX;aCOMPASS;aABACUS;aFIRE EXTINGUISHER;
aTOOLBOX;aBRICK;aMAGNET;aLUGGAGE;bOTION BOTTLE;aSPOOL OF THREAD;aBALL OF YARN;aSAFETY PIN;
aTEDDY BEAR;aBROOM;bASKET;aROLL OF PAPER;aBAR OF SOAP;aSPONGE;aRECEIPT;aNAZAR AMULET;
bEUTRAL CHESS KING;oQUEEN;oROOK;oBISHOP;oKNIGHT;oPAWN;aWHITE CHESS KNIGHT ROTATED FORTY-FIVE DEGRE
ES;aBLACK CHESS KNIGHT ROTATED FORTY-FIVE DEGREES;aNEUTRAL CHESS KNIGHT ROTATED FORTY-FIVE DEGREES
;aWHITE CHESS KING ROTATED NINETY DEGREES;mQUEEN ROTATED NINETY DEGREES;mROOK ROTATED NINETY DEGRE
ES;mBISHOP ROTATED NINETY DEGREES;mKNIGHT ROTATED NINETY DEGREES;mPAWN ROTATED NINETY DEGREES;
aBLACK CHESS KING ROTATED NINETY DEGREES;mQUEEN ROTATED NINETY DEGREES;mROOK ROTATED NINETY DEGREE
S;mBISHOP ROTATED NINETY DEGREES;mKNIGHT ROTATED NINETY DEGREES;mPAWN ROTATED NINETY DEGREES;
aNEUTRAL CHESS KING ROTATED NINETY DEGREES;oQUEEN ROTATED NINETY DEGREES;oROOK ROTATED NINETY DEGR
EES;oBISHOP ROTATED NINETY DEGREES;oKNIGHT ROTATED NINETY DEGREES;oPAWN ROTATED NINETY DEGREES;
aWHITE CHESS KNIGHT ROTATED ONE HUNDRED THIRTY-FIVE DEGREES;aBLACK CHESS KNIGHT ROTATED ONE HUNDRE
D THIRTY-FIVE DEGREES;aNEUTRAL CHESS KNIGHT ROTATED ONE HUNDRED THIRTY-FIVE DEGREES;
aWHITE CHESS TURNED KING;tQUEEN;tROOK;tBISHOP;tKNIGHT;tPAWN;aBLACK CHESS TURNED KING;tQUEEN;tROOK;
tBISHOP;tKNIGHT;tPAWN;aNEUTRAL CHESS TURNED KING;vQUEEN;vROOK;vBISHOP;vKNIGHT;vPAWN;
aWHITE CHESS KNIGHT ROTATED TWO HUNDRED TWENTY-FIVE DEGREES;aBLACK CHESS KNIGHT ROTATED TWO HUNDRE
D TWENTY-FIVE DEGREES;aNEUTRAL CHESS KNIGHT ROTATED TWO HUNDRED TWENTY-FIVE DEGREES;
aWHITE CHESS KING ROTATED TWO HUNDRED SEVENTY DEGREES;mQUEEN ROTATED TWO HUNDRED SEVENTY DEGREES;
mROOK ROTATED TWO HUNDRED SEVENTY DEGREES;mBISHOP ROTATED TWO HUNDRED SEVENTY DEGREES;
mKNIGHT ROTATED TWO HUNDRED SEVENTY DEGREES;mPAWN ROTATED TWO HUNDRED SEVENTY DEGREES;
aBLACK CHESS KING ROTATED TWO HUNDRED SEVENTY DEGREES;mQUEEN ROTATED TWO HUNDRED SEVENTY DEGREES;
mROOK ROTATED TWO HUNDRED SEVENTY DEGREES;mBISHOP ROTATED TWO HUNDRED SEVENTY DEGREES;
mKNIGHT ROTATED TWO HUNDRED SEVENTY DEGREES;mPAWN ROTATED TWO HUNDRED SEVENTY DEGREES;
aNEUTRAL CHESS KING ROTATED TWO HUNDRED SEVENTY DEGREES;oQUEEN ROTATED TWO HUNDRED SEVENTY DEGREES
;oROOK ROTATED TWO HUNDRED SEVENTY DEGREES;oBISHOP ROTATED TWO HUNDRED SEVENTY DEGREES;
oKNIGHT ROTATED TWO HUNDRED SEVENTY DEGREES;oPAWN ROTATED TWO HUNDRED SEVENTY DEGREES;
aWHITE CHESS KNIGHT ROTATED THREE HUNDRED FIFTEEN DEGREES;aBLACK CHESS KNIGHT ROTATED THREE HUNDRE
D FIFTEEN DEGREES;aNEUTRAL CHESS KNIGHT ROTATED THREE HUNDRED FIFTEEN DEGREES;
aWHITE CHESS EQUIHOPPER;aBLACK CHESS EQUIHOPPER;aNEUTRAL CHESS EQUIHOPPER;aWHITE CHESS EQUIHOPPE
R ROTATED NINETY DEGREES;aBLACK CHESS EQUIHOPPER ROTATED NINETY DEGREES;aNEUTRAL CHESS EQUIHOPPE
R ROTATED NINETY DEGREES;aWHITE CHESS KNIGHT-QUEEN;tROOK;tBISHOP;aBLACK CHESS KNIGHT-QUEEN;tROOK;
tBISHOP;1FA60:aXIANGQI RED GENERAL;mMANDARIN;mELEPHANT;mHORSE;mCHARIOT;nANNON;mSOLDIER;
iBLACK GENERAL;oMANDARIN;oELEPHANT;oHORSE;oCHARIOT;pANNON;oSOLDIER;1FA70:aBALLET SHOES;
aONE-PIECE SWIMSUIT;aBRIEFS;aSHORTS;aTHONG SANDAL;1FA78:aDROP OF BLOOD;aADHESIVE BANDAGE;
aSTETHOSCOPE;aX-RAY;aCRUTCH;1FA80:aYO-YO;aKITE;aPARACHUTE;aBOOMERANG;aMAGIC WAND;aPINATA;
aNESTING DOLLS;1FA90:aRINGED PLANET;aCHAIR;aRAZOR;aAXE;aDIYA LAMP;aBANJO;aMILITARY HELMET;
aACCORDION;aLONG DRUM;aCOIN;bARPENTRY SAW;aSCREWDRIVER;aLADDER;aHOOK;aMIRROR;aWINDOW;aPLUNGER;
aSEWING NEEDLE;aKNOT;aBUCKET;aMOUSE TRAP;aTOOTHBRUSH;aHEADSTONE;aPLACARD;aROCK;aMIRROR BALL;
aIDENTIFICATION CARD;aLOW BATTERY;aHAMSA;1FAB0:aFLY;aWORM;aBEETLE;aCOCKROACH;aPOTTED PLANT;aWOOD;
aFEATHER;aLOTUS;aCORAL;aEMPTY NEST;aNEST WITH EGGS;1FAC0:aANATOMICAL HEART;aLUNGS;aPEOPLE HUGGING;
bREGNANT MAN;jPERSON;bERSON WITH CROWN;1FAD0:aBLUEBERRIES;bELL PEPPER;aOLIVE;aFLATBREAD;aTAMALE;
aFONDUE;aTEAPOT;aPOURING LIQUID;aBEANS;aJAR;1FAE0:aMELTING FACE;aSALUTING FACE;
aFACE WITH OPEN EYES AND HAND OVER MOUTH;kPEEKING EYE;kDIAGONAL MOUTH;aDOTTED LINE FACE;
aBITING LIP;bUBBLES;1FAF0:aHAND WITH INDEX FINGER AND THUMB CROSSED;aRIGHTWARDS HAND;
aLEFTWARDS HAND;aPALM DOWN HAND;fUP HAND;aINDEX POINTING AT THE VIEWER;aHEART HANDS;
1FB00:aBLOCK SEXTANT-1;o2;o12;o3;o13;o23;o123;o4;o14;o24;o124;o34;o134;o234;o1234;o5;o15;o25;o125;
o35;o235;o1235;o45;o145;o245;o1245;o345;o1345;o2345;o12345;o6;o16;o26;o126;o36;o136;o236;o1236;
o46;o146;p246;o346;o1346;o2346;o12346;o56;o156;o256;o1256;o356;o1356;o2356;o12356;o456;o1456;
o2456;o12456;o3456;o13456;o23456;aLOWER LEFT BLOCK DIAGONAL LOWER MIDDLE LEFT TO LOWER CENTRE;
zzdRIGHT;zbUPPER MIDDLE LEFT TO LOWER CENTRE;zzdRIGHT;zhLEFT TO LOWER CENTRE;
gRIGHT BLOCK DIAGONAL UPPER MIDDLE LEFT TO UPPER CENTRE;zzeRIGHT;zcLOWER MIDDLE LEFT TO UPPER CENT
RE;zzeRIGHT;ziLEFT TO UPPER CENTRE;ziMIDDLE LEFT TO UPPER MIDDLE RIGHT;ziCENTRE TO LOWER MIDDLE RI
GHT;ziLEFT TO LOWER MIDDLE RIGHT;ziCENTRE TO UPPER MIDDLE RIGHT;ziLEFT TO UPPER MIDDLE RIGHT;
ziCENTRE TO UPPER RIGHT;gLEFT BLOCK DIAGONAL UPPER CENTRE TO UPPER MIDDLE RIGHT;
zhLEFT TO UPPER MIDDLE RIGHT;zhCENTRE TO LOWER MIDDLE RIGHT;zhLEFT TO LOWER MIDDLE RIGHT;
zhCENTRE TO LOWER RIGHT;zhMIDDLE LEFT TO LOWER MIDDLE RIGHT;aUPPER RIGHT BLOCK DIAGONAL LOWER MIDD
LE LEFT TO LOWER CENTRE;zzeRIGHT;zcUPPER MIDDLE LEFT TO LOWER CENTRE;zzeRIGHT;
ziLEFT TO LOWER CENTRE;gLEFT BLOCK DIAGONAL UPPER MIDDLE LEFT TO UPPER CENTRE;zzdRIGHT;
zbLOWER MIDDLE LEFT TO UPPER CENTRE;zzdRIGHT;zhLEFT TO UPPER CENTRE;zhMIDDLE LEFT TO UPPER MIDDL
E RIGHT;zhCENTRE TO LOWER MIDDLE RIGHT;zhLEFT TO LOWER MIDDLE RIGHT;zhCENTRE TO UPPER MIDDLE RIGHT
;zhLEFT TO UPPER MIDDLE RIGHT;zhCENTRE TO UPPER RIGHT;gRIGHT BLOCK DIAGONAL UPPER CENTRE TO UPPE
R MIDDLE RIGHT;ziLEFT TO UPPER MIDDLE RIGHT;ziCENTRE TO LOWER MIDDLE RIGHT;
ziLEFT TO LOWER MIDDLE RIGHT;ziCENTRE TO LOWER RIGHT;ziMIDDLE LEFT TO LOWER MIDDLE RIGHT;
gAND RIGHT AND LOWER TRIANGULAR THREE QUARTERS BLOCK;aLEFT AND LOWER AND RIGHT TRIANGULAR THREE QU
ARTERS BLOCK;aUPPER AND LEFT AND LOWER TRIANGULAR THREE QUARTERS BLOCK;aLEFT AND UPPER AND RIGHT T
RIANGULAR THREE QUARTERS BLOCK;fTRIANGULAR ONE QUARTER BLOCK;aUPPER TRIANGULAR ONE QUARTER BLOCK;
aRIGHT TRIANGULAR ONE QUARTER BLOCK;aLOWER TRIANGULAR ONE QUARTER BLOCK;aVERTICAL ONE EIGHTH BLOCK
-2;zb3;zb4;zb5;zb6;zb7;aHORIZONTAL ONE EIGHTH BLOCK-2;zd3;zd4;zd5;zd6;zd7;aLEFT AND LOWER ONE EIGH
TH BLOCK;jUPPER ONE EIGHTH BLOCK;aRIGHT AND UPPER ONE EIGHTH BLOCK;kLOWER ONE EIGHTH BLOCK;
aUPPER AND LOWER ONE EIGHTH BLOCK;aHORIZONTAL ONE EIGHTH BLOCK-1358;aUPPER ONE QUARTER BLOCK;
gTHREE EIGHTHS BLOCK;gFIVE EIGHTHS BLOCK;gTHREE QUARTERS BLOCK;gSEVEN EIGHTHS BLOCK;
aRIGHT ONE QUARTER BLOCK;gTHREE EIGHTHS BLOCK;gFIVE EIGHTHS BLOCK;gTHREE QUARTERS BLOCK;
gSEVEN EIGHTHS BLOCK;aLEFT HALF MEDIUM SHADE;aRIGHT HALF MEDIUM SHADE;aUPPER HALF MEDIUM SHADE;
aLOWER HALF MEDIUM SHADE;aINVERSE MEDIUM SHADE;aUPPER HALF BLOCK AND LOWER HALF INVERSE MEDIUM SHA
DE;lINVERSE MEDIUM SHADE AND LOWER HALF BLOCK;1FB94:aLEFT HALF INVERSE MEDIUM SHADE AND RIGHT HAL
F BLOCK;aCHECKER BOARD FILL;aINVERSE CHECKER BOARD FILL;aHEAVY HORIZONTAL FILL;
aUPPER LEFT TO LOWER RIGHT FILL;gRIGHT TO LOWER LEFT FILL;gAND LOWER TRIANGULAR HALF BLOCK;
aLEFT AND RIGHT TRIANGULAR HALF BLOCK;aUPPER LEFT TRIANGULAR MEDIUM SHADE;gRIGHT TRIANGULAR MEDIU
M SHADE;aLOWER RIGHT TRIANGULAR MEDIUM SHADE;gLEFT TRIANGULAR MEDIUM SHADE;
aBOX DRAWINGS LIGHT DIAGONAL UPPER CENTRE TO MIDDLE LEFT;zzbRIGHT;zdMIDDLE LEFT TO LOWER CENTRE;
zkRIGHT TO LOWER CENTRE;zdUPPER CENTRE TO MIDDLE LEFT TO LOWER CENTRE;zzbRIGHT TO LOWER CENTRE;
zdMIDDLE LEFT TO LOWER CENTRE TO MIDDLE RIGHT;zsUPPER CENTRE TO MIDDLE RIGHT;
zdUPPER CENTRE TO MIDDLE LEFT AND MIDDLE RIGHT TO LOWER CENTRE;zzbRIGHT AND MIDDLE LEFT TO LOWER C
ENTRE;zzhTO LOWER CENTRE TO MIDDLE LEFT;zzbLEFT TO LOWER CENTRE TO MIDDLE RIGHT;
zdMIDDLE LEFT TO UPPER CENTRE TO MIDDLE RIGHT TO LOWER CENTRE;zkRIGHT TO UPPER CENTRE TO MIDDLE LE
FT TO LOWER CENTRE;zdDIAMOND;tHORIZONTAL WITH VERTICAL STROKE;aARROWHEAD-SHAPED POINTER;
aINVERSE CHECK MARK;aLEFT HALF RUNNING MAN;aRIGHT HALF RUNNING MAN;aINVERSE DOWNWARDS ARROW WITH T
IP LEFTWARDS;aLEFTWARDS ARROW AND UPPER AND LOWER ONE EIGHTH BLOCK;aRIGHTWARDS ARROW AND UPPER AN
D LOWER ONE EIGHTH BLOCK;aDOWNWARDS ARROW AND RIGHT ONE EIGHTH BLOCK;aUPWARDS ARROW AND RIGHT ON
E EIGHTH BLOCK;aLEFT HALF FOLDER;aRIGHT HALF FOLDER;aVOIDED GREEK CROSS;aRIGHT OPEN SQUARED DOT;
aNEGATIVE DIAGONAL CROSS;sMIDDLE RIGHT TO LOWER CENTRE;sDIAMOND;aWHITE HEAVY SALTIRE WITH ROUNDE
D CORNERS;aLEFT THIRD WHITE RIGHT POINTING INDEX;aMIDDLE THIRD WHITE RIGHT POINTING INDEX;
aRIGHT THIRD WHITE RIGHT POINTING INDEX;aNEGATIVE SQUARED QUESTION MARK;aSTICK FIGURE;
m WITH ARMS RAISED;nLEANING LEFT;vRIGHT;nWITH DRESS;aWHITE UP-POINTING CHEVRON;
1FBF0:aSEGMENTED DIGIT ZERO;qONE;qTWO;rHREE;qFOUR;rIVE;qSIX;rEVEN;qEIGHT;qNINE;
2F800:aCJK COMPATIBILITY IDEOGRAPH-2F800;zh1;zh2;zh3;zh4;zh5;zh6;zh7;zh8;zh9;zhA;zhB;zhC;zhD;zhE;
zhF;zg10;zh1;zh2;zh3;zh4;zh5;zh6;zh7;zh8;zh9;zhA;zhB;zhC;zhD;zhE;zhF;zg20;zh1;zh2;zh3;zh4;zh5;zh6;
zh7;zh8;zh9;zhA;zhB;zhC;zhD;zhE;zhF;zg30;zh1;zh2;zh3;zh4;zh5;zh6;zh7;zh8;zh9;zhA;zhB;zhC;zhD;zhE;
zhF;zg40;zh1;zh2;zh3;zh4;zh5;zh6;zh7;zh8;zh9;zhA;zhB;zhC;zhD;zhE;zhF;zg50;zh1;zh2;zh3;zh4;zh5;zh6;
zh7;zh8;zh9;zhA;zhB;zhC;zhD;zhE;zhF;zg60;zh1;zh2;zh3;zh4;zh5;zh6;zh7;zh8;zh9;zhA;zhB;zhC;zhD;zhE;
zhF;zg70;zh1;zh2;zh3;zh4;zh5;zh6;zh7;zh8;zh9;zhA;zhB;zhC;zhD;zhE;zhF;zg80;zh1;zh2;zh3;zh4;zh5;zh6;
zh7;zh8;zh9;zhA;zhB;zhC;zhD;zhE;zhF;zg90;zh1;zh2;zh3;zh4;zh5;zh6;zh7;zh8;zh9;zhA;zhB;zhC;zhD;zhE;
zhF;zgA0;zh1;zh2;zh3;zh4;zh5;zh6;zh7;zh8;zh9;zhA;zhB;zhC;zhD;zhE;zhF;zgB0;zh1;zh2;zh3;zh4;zh5;zh6;
zh7;zh8;zh9;zhA;zhB;zhC;zhD;zhE;zhF;zgC0;zh1;zh2;zh3;zh4;zh5;zh6;zh7;zh8;zh9;zhA;zhB;zhC;zhD;zhE;
zhF;zgD0;zh1;zh2;zh3;zh4;zh5;zh6;zh7;zh8;zh9;zhA;zhB;zhC;zhD;zhE;zhF;zgE0;zh1;zh2;zh3;zh4;zh5;zh6;
zh7;zh8;zh9;zhA;zhB;zhC;zhD;zhE;zhF;zgF0;zh1;zh2;zh3;zh4;zh5;zh6;zh7;zh8;zh9;zhA;zhB;zhC;zhD;zhE;
zhF;zf900;zh1;zh2;zh3;zh4;zh5;zh6;zh7;zh8;zh9;zhA;zhB;zhC;zhD;zhE;zhF;zg10;zh1;zh2;zh3;zh4;zh5;
zh6;zh7;zh8;zh9;zhA;zhB;zhC;zhD;zhE;zhF;zg20;zh1;zh2;zh3;zh4;zh5;zh6;zh7;zh8;zh9;zhA;zhB;zhC;zhD;
zhE;zhF;zg30;zh1;zh2;zh3;zh4;zh5;zh6;zh7;zh8;zh9;zhA;zhB;zhC;zhD;zhE;zhF;zg40;zh1;zh2;zh3;zh4;zh5;
zh6;zh7;zh8;zh9;zhA;zhB;zhC;zhD;zhE;zhF;zg50;zh1;zh2;zh3;zh4;zh5;zh6;zh7;zh8;zh9;zhA;zhB;zhC;zhD;
zhE;zhF;zg60;zh1;zh2;zh3;zh4;zh5;zh6;zh7;zh8;zh9;zhA;zhB;zhC;zhD;zhE;zhF;zg70;zh1;zh2;zh3;zh4;zh5;
zh6;zh7;zh8;zh9;zhA;zhB;zhC;zhD;zhE;zhF;zg80;zh1;zh2;zh3;zh4;zh5;zh6;zh7;zh8;zh9;zhA;zhB;zhC;zhD;
zhE;zhF;zg90;zh1;zh2;zh3;zh4;zh5;zh6;zh7;zh8;zh9;zhA;zhB;zhC;zhD;zhE;zhF;zgA0;zh1;zh2;zh3;zh4;zh5;
zh6;zh7;zh8;zh9;zhA;zhB;zhC;zhD;zhE;zhF;zgB0;zh1;zh2;zh3;zh4;zh5;zh6;zh7;zh8;zh9;zhA;zhB;zhC;zhD;
zhE;zhF;zgC0;zh1;zh2;zh3;zh4;zh5;zh6;zh7;zh8;zh9;zhA;zhB;zhC;zhD;zhE;zhF;zgD0;zh1;zh2;zh3;zh4;zh5;
zh6;zh7;zh8;zh9;zhA;zhB;zhC;zhD;zhE;zhF;zgE0;zh1;zh2;zh3;zh4;zh5;zh6;zh7;zh8;zh9;zhA;zhB;zhC;zhD;
zhE;zhF;zgF0;zh1;zh2;zh3;zh4;zh5;zh6;zh7;zh8;zh9;zhA;zhB;zhC;zhD;zhE;zhF;zfA00;zh1;zh2;zh3;zh4;
zh5;zh6;zh7;zh8;zh9;zhA;zhB;zhC;zhD;zhE;zhF;zg10;zh1;zh2;zh3;zh4;zh5;zh6;zh7;zh8;zh9;zhA;zhB;zhC;
zhD;E0001:aLANGUAGE TAG;E0020:aTAG SPACE;eEXCLAMATION MARK;eQUOTATION MARK;eNUMBER SIGN;
eDOLLAR SIGN;ePERCENT SIGN;eAMPERSAND;fPOSTROPHE;eLEFT PARENTHESIS;eRIGHT PARENTHESIS;eASTERISK;
ePLUS SIGN;eCOMMA;eHYPHEN-MINUS;eFULL STOP;eSOLIDUS;eDIGIT ZERO;kONE;kTWO;lHREE;kFOUR;lIVE;kSIX;
lEVEN;kEIGHT;kNINE;eCOLON;eSEMICOLON;eLESS-THAN SIGN;eEQUALS SIGN;eGREATER-THAN SIGN;
eQUESTION MARK;eCOMMERCIAL AT;eLATIN CAPITAL LETTER A;zB;zC;zD;zE;zF;zG;zH;zI;zJ;zK;zL;zM;zN;zO;
zP;zQ;zR;zS;zT;zU;zV;zW;zX;zY;zZ;fEFT SQUARE BRACKET;eREVERSE SOLIDUS;fIGHT SQUARE BRACKET;
eCIRCUMFLEX ACCENT;eLOW LINE;eGRAVE ACCENT;eLATIN SMALL LETTER A;xB;xC;xD;xE;xF;xG;xH;xI;xJ;xK;xL;
xM;xN;xO;xP;xQ;xR;xS;xT;xU;xV;xW;xX;xY;xZ;fEFT CURLY BRACKET;eVERTICAL LINE;eRIGHT CURLY BRACKET;
eTILDE;aCANCEL TAG;E0100:aVARIATION SELECTOR-17;u8;u9;t20;u1;u2;u3;u4;u5;u6;u7;u8;u9;t30;u1;u2;u3;
u4;u5;u6;u7;u8;u9;t40;u1;u2;u3;u4;u5;u6;u7;u8;u9;t50;u1;u2;u3;u4;u5;u6;u7;u8;u9;t60;u1;u2;u3;u4;
u5;u6;u7;u8;u9;t70;u1;u2;u3;u4;u5;u6;u7;u8;u9;t80;u1;u2;u3;u4;u5;u6;u7;u8;u9;t90;u1;u2;u3;u4;u5;
u6;u7;u8;u9;t100;v1;v2;v3;v4;v5;v6;v7;v8;v9;u10;v1;v2;v3;v4;v5;v6;v7;v8;v9;u20;v1;v2;v3;v4;v5;v6;
v7;v8;v9;u30;v1;v2;v3;v4;v5;v6;v7;v8;v9;u40;v1;v2;v3;v4;v5;v6;v7;v8;v9;u50;v1;v2;v3;v4;v5;v6;v7;
v8;v9;u60;v1;v2;v3;v4;v5;v6;v7;v8;v9;u70;v1;v2;v3;v4;v5;v6;v7;v8;v9;u80;v1;v2;v3;v4;v5;v6;v7;v8;
v9;u90;v1;v2;v3;v4;v5;v6;v7;v8;v9;t200;v1;v2;v3;v4;v5;v6;v7;v8;v9;u10;v1;v2;v3;v4;v5;v6;v7;v8;v9;
u20;v1;v2;v3;v4;v5;v6;v7;v8;v9;u30;v1;v2;v3;v4;v5;v6;v7;v8;v9;u40;v1;v2;v3;v4;v5;v6;v7;v8;v9;u50;
v1;v2;v3;v4;v5;v6"

end HttpTemplates.Text.CharacterName
