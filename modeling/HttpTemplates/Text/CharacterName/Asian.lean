/-!
# Character names: East Asian scripts

The names of the characters from U+3000 to U+FFFF that have one of their own. The format is that of
`Text.codeNamed?`.
-/

namespace HttpTemplates.Text.CharacterName

/-- The names of the characters from U+3000 to U+FFFF that have one of their own. -/
def asian : String :=
  "3000:aIDEOGRAPHIC SPACE;mCOMMA;mFULL STOP;aDITTO MARK;aJAPANESE INDUSTRIAL STANDARD SYMBOL;
aIDEOGRAPHIC ITERATION MARK;mCLOSING MARK;mNUMBER ZERO;aLEFT ANGLE BRACKET;aRIGHT ANGLE BRACKET;
aLEFT DOUBLE ANGLE BRACKET;aRIGHT DOUBLE ANGLE BRACKET;aLEFT CORNER BRACKET;aRIGHT CORNER BRACKET;
aLEFT WHITE CORNER BRACKET;aRIGHT WHITE CORNER BRACKET;aLEFT BLACK LENTICULAR BRACKET;
aRIGHT BLACK LENTICULAR BRACKET;aPOSTAL MARK;aGETA MARK;aLEFT TORTOISE SHELL BRACKET;
aRIGHT TORTOISE SHELL BRACKET;aLEFT WHITE LENTICULAR BRACKET;aRIGHT WHITE LENTICULAR BRACKET;
aLEFT WHITE TORTOISE SHELL BRACKET;aRIGHT WHITE TORTOISE SHELL BRACKET;aLEFT WHITE SQUARE BRACKET;
aRIGHT WHITE SQUARE BRACKET;aWAVE DASH;aREVERSED DOUBLE PRIME QUOTATION MARK;
aDOUBLE PRIME QUOTATION MARK;aLOW DOUBLE PRIME QUOTATION MARK;aPOSTAL MARK FACE;
aHANGZHOU NUMERAL ONE;rTWO;sHREE;rFOUR;sIVE;rSIX;sEVEN;rEIGHT;rNINE;aIDEOGRAPHIC LEVEL TONE MARK;
mRISING TONE MARK;mDEPARTING TONE MARK;mENTERING TONE MARK;aHANGUL SINGLE DOT TONE MARK;
hDOUBLE DOT TONE MARK;aWAVY DASH;aVERTICAL KANA REPEAT MARK;vWITH VOICED SOUND MARK;
vMARK UPPER HALF;vWITH VOICED SOUND MARK UPPER HALF;vMARK LOWER HALF;aCIRCLED POSTAL MARK;
aIDEOGRAPHIC TELEGRAPH LINE FEED SEPARATOR SYMBOL;aHANGZHOU NUMERAL TEN;sWENTY;sHIRTY;
aVERTICAL IDEOGRAPHIC ITERATION MARK;aMASU MARK;aPART ALTERNATION MARK;aIDEOGRAPHIC VARIATION INDI
CATOR;mHALF FILL SPACE;3041:aHIRAGANA LETTER SMALL A;qA;qSMALL I;qI;qSMALL U;qU;qSMALL E;qE;
qSMALL O;qO;qKA;qGA;qKI;qGI;qKU;qGU;qKE;qGE;qKO;qGO;qSA;qZA;qSI;qZI;qSU;qZU;qSE;qZE;qSO;qZO;qTA;
qDA;qTI;qDI;qSMALL TU;qTU;qDU;qTE;qDE;qTO;qDO;qNA;rI;rU;rE;rO;qHA;qBA;qPA;qHI;qBI;qPI;qHU;qBU;qPU;
qHE;qBE;qPE;qHO;qBO;qPO;qMA;rI;rU;rE;rO;qSMALL YA;qYA;qSMALL YU;qYU;qSMALL YO;qYO;qRA;rI;rU;rE;rO;
qSMALL WA;qWA;rI;rE;rO;qN;qVU;qSMALL KA;xE;3099:aCOMBINING KATAKANA-HIRAGANA VOICED SOUND MARK;
zdSEMI-VOICED SOUND MARK;aKATAKANA-HIRAGANA VOICED SOUND MARK;sSEMI-VOICED SOUND MARK;
aHIRAGANA ITERATION MARK;jVOICED ITERATION MARK;jDIGRAPH YORI;aKATAKANA-HIRAGANA DOUBLE HYPHEN;
i LETTER SMALL A;qA;qSMALL I;qI;qSMALL U;qU;qSMALL E;qE;qSMALL O;qO;qKA;qGA;qKI;qGI;qKU;qGU;qKE;
qGE;qKO;qGO;qSA;qZA;qSI;qZI;qSU;qZU;qSE;qZE;qSO;qZO;qTA;qDA;qTI;qDI;qSMALL TU;qTU;qDU;qTE;qDE;qTO;
qDO;qNA;rI;rU;rE;rO;qHA;qBA;qPA;qHI;qBI;qPI;qHU;qBU;qPU;qHE;qBE;qPE;qHO;qBO;qPO;qMA;rI;rU;rE;rO;
qSMALL YA;qYA;qSMALL YU;qYU;qSMALL YO;qYO;qRA;rI;rU;rE;rO;qSMALL WA;qWA;rI;rE;rO;qN;qVU;qSMALL KA;
xE;qVA;rI;rE;rO;jMIDDLE DOT;i-HIRAGANA PROLONGED SOUND MARK;i ITERATION MARK;
jVOICED ITERATION MARK;jDIGRAPH KOTO;3105:aBOPOMOFO LETTER B;qP;qM;qF;qD;qT;qN;qL;qG;qK;qH;qJ;qQ;
qX;qZH;qCH;qSH;qR;qZ;qC;qS;qA;qO;qE;rH;qAI;qEI;qAU;qOU;qAN;qEN;qANG;qENG;rR;qI;qU;qIU;qV;qNG;qGN;
qIH;qO WITH DOT ABOVE;qNN;3131:aHANGUL LETTER KIYEOK;oSSANGKIYEOK;oKIYEOK-SIOS;oNIEUN;t-CIEUC;
uHIEUH;oTIKEUT;oSSANGTIKEUT;oRIEUL;t-KIYEOK;uMIEUM;uPIEUP;uSIOS;uTHIEUTH;uPHIEUPH;uHIEUH;oMIEUM;
oPIEUP;oSSANGPIEUP;oPIEUP-SIOS;oSIOS;pSANGSIOS;oIEUNG;oCIEUC;oSSANGCIEUC;oCHIEUCH;oKHIEUKH;
oTHIEUTH;oPHIEUPH;oHIEUH;oA;pE;oYA;qE;oEO;p;oYEO;q;oO;oWA;qE;oOE;oYO;oU;oWEO;q;pI;oYU;oEU;oYI;oI;
hFILLER;hLETTER SSANGNIEUN;oNIEUN-TIKEUT;uSIOS;uPANSIOS;oRIEUL-KIYEOK-SIOS;uTIKEUT;uPIEUP-SIOS;
vANSIOS;uYEORINHIEUH;oMIEUM-PIEUP;uSIOS;uPANSIOS;oKAPYEOUNMIEUM;oPIEUP-KIYEOK;uTIKEUT;
uSIOS-KIYEOK;zTIKEUT;uCIEUC;uTHIEUTH;oKAPYEOUNPIEUP;wSSANGPIEUP;oSIOS-KIYEOK;tNIEUN;tTIKEUT;
tPIEUP;tCIEUC;oPANSIOS;oSSANGIEUNG;oYESIEUNG;w-SIOS;xPANSIOS;oKAPYEOUNPHIEUPH;oSSANGHIEUH;
oYEORINHIEUH;pO-YA;tE;rI;pU-YEO;t;rI;oARAEA;tE;3190:aIDEOGRAPHIC ANNOTATION LINKING MARK;
xREVERSE MARK;xONE MARK;xTWO MARK;yHREE MARK;xFOUR MARK;xTOP MARK;xMIDDLE MARK;xBOTTOM MARK;
xFIRST MARK;xSECOND MARK;xTHIRD MARK;xFOURTH MARK;xHEAVEN MARK;xEARTH MARK;xMAN MARK;
aBOPOMOFO LETTER BU;qZI;qJI;qGU;qEE;rNN;qOO;rNN;qIR;qANN;qINN;qUNN;qIM;qNGG;qAINN;rUNN;rM;qOM;rNG;
qINNN;jFINAL LETTER P;wT;wK;wH;jLETTER GH;qLH;qZY;jFINAL LETTER G;jLETTER GW;qKW;qOE;qAH;
aCJK STROKE T;lWG;lXG;lBXG;lSW;lHZZ;nG;mP;mZWG;lSZWG;lHZT;nZP;mPWG;mZW;nZZ;lN;lH;lS;lP;lSP;lD;lHZ;
mG;lSZ;mWZ;mT;mG;lPD;mZ;lTN;lSZZ;mWG;lHXWG;mZZZG;lPG;lQ;31F0:aKATAKANA LETTER SMALL KU;wSI;xU;wTO;
wNU;wHA;xI;xU;xE;xO;wMU;wRA;xI;xU;xE;xO;aPARENTHESIZED HANGUL KIYEOK;vNIEUN;vTIKEUT;vRIEUL;vMIEUM;
vPIEUP;vSIOS;vIEUNG;vCIEUC;wHIEUCH;vKHIEUKH;vTHIEUTH;vPHIEUPH;vHIEUH;vKIYEOK A;vNIEUN A;vTIKEUT A;
vRIEUL A;vMIEUM A;vPIEUP A;vSIOS A;vIEUNG A;vCIEUC A;wHIEUCH A;vKHIEUKH A;vTHIEUTH A;vPHIEUPH A;
vHIEUH A;vCIEUC U;oKOREAN CHARACTER OJEON;zh HU;3220:oIDEOGRAPH ONE;yTWO;zHREE;yFOUR;zIVE;ySIX;
zEVEN;yEIGHT;yNINE;yTEN;yMOON;yFIRE;yWATER;zOOD;yMETAL;yEARTH;ySUN;zTOCK;yHAVE;ySOCIETY;yNAME;
ySPECIAL;yFINANCIAL;yCONGRATULATION;yLABOR;yREPRESENT;yCALL;ySTUDY;zUPERVISE;yENTERPRISE;
yRESOURCE;yALLIANCE;yFESTIVAL;yREST;ySELF;yREACH;aCIRCLED IDEOGRAPH QUESTION;sKINDERGARTEN;
sSCHOOL;sKOTO;iNUMBER TEN ON BLACK SQUARE;qWENTY ON BLACK SQUARE;qHIRTY ON BLACK SQUARE;
pFORTY ON BLACK SQUARE;qIFTY ON BLACK SQUARE;pSIXTY ON BLACK SQUARE;qEVENTY ON BLACK SQUARE;
pEIGHTY ON BLACK SQUARE;aPARTNERSHIP SIGN;aCIRCLED NUMBER TWENTY ONE;wTWO;xHREE;wFOUR;xIVE;wSIX;
xEVEN;wEIGHT;wNINE;qHIRTY;v ONE;wTWO;xHREE;wFOUR;xIVE;iHANGUL KIYEOK;pNIEUN;pTIKEUT;pRIEUL;pMIEUM;
pPIEUP;pSIOS;pIEUNG;pCIEUC;qHIEUCH;pKHIEUKH;pTHIEUTH;pPHIEUPH;pHIEUH;pKIYEOK A;pNIEUN A;pTIKEUT A;
pRIEUL A;pMIEUM A;pPIEUP A;pSIOS A;pIEUNG A;pCIEUC A;qHIEUCH A;pKHIEUKH A;pTHIEUTH A;pPHIEUPH A;
pHIEUH A;iKOREAN CHARACTER CHAMKO;zJUEUI;iHANGUL IEUNG U;aKOREAN STANDARD SYMBOL;
aCIRCLED IDEOGRAPH ONE;sTWO;tHREE;sFOUR;tIVE;sSIX;tEVEN;sEIGHT;sNINE;sTEN;sMOON;sFIRE;sWATER;tOOD;
sMETAL;sEARTH;sSUN;tTOCK;sHAVE;sSOCIETY;sNAME;sSPECIAL;sFINANCIAL;sCONGRATULATION;sLABOR;sSECRET;
sMALE;sFEMALE;sSUITABLE;sEXCELLENT;sPRINT;sATTENTION;sITEM;sREST;sCOPY;uRRECT;sHIGH;sCENTRE;sLOW;
tEFT;sRIGHT;sMEDICINE;sRELIGION;sSTUDY;tUPERVISE;sENTERPRISE;sRESOURCE;sALLIANCE;sNIGHT;
iNUMBER THIRTY SIX;xEVEN;wEIGHT;wNINE;pFORTY;u ONE;vTWO;wHREE;vFOUR;wIVE;vSIX;wEVEN;vEIGHT;vNINE;
qIFTY;aIDEOGRAPHIC TELEGRAPH SYMBOL FOR JANUARY;ziFEBRUARY;ziMARCH;ziAPRIL;ziMAY;ziJUNE;zkLY;
ziAUGUST;ziSEPTEMBER;ziOCTOBER;ziNOVEMBER;ziDECEMBER;aSQUARE HG;hERG;iV;aLIMITED LIABILITY SIGN;
aCIRCLED KATAKANA A;rI;rU;rE;rO;rKA;sI;sU;sE;sO;rSA;sI;sU;sE;sO;rTA;sI;sU;sE;sO;rNA;sI;sU;sE;sO;
rHA;sI;sU;sE;sO;rMA;sI;sU;sE;sO;rYA;sU;sO;rRA;sI;sU;sE;sO;rWA;sI;sE;sO;aSQUARE ERA NAME REIWA;
hAPAATO;iRUHUA;iNPEA;iARU;hININGU;jTI;hUON;hESUKUUDO;iEKAA;hONSU;iOMU;hKAIRI;jRATTO;kORII;hGARON;
jNMA;iIGA;jNII;hKYURII;hGIRUDAA;hKIRO;lGURAMU;lMEETORU;lWATTO;hGURAMU;nTON;hKURUZEIRO;kOONE;iEESU;
iORUNA;jOPO;hSAIKURU;jNTIIMU;iIRINGU;iENTI;lO;hDAASU;iESI;iORU;hTON;hNANO;iOTTO;hHAITU;hPAASENTO;
kTU;hBAARERU;hPIASUTORU;jKURU;kO;hBIRU;hHUARADDO;jIITO;hBUSSYERU;hHURAN;iEKUTAARU;hPESO;jNIHI;
hHERUTU;hPENSU;jEZI;hBEETA;hPOINTO;hBORUTO;hHON;hPONDO;hHOORU;kN;hMAIKURO;kRU;jHHA;jRUKU;jNSYON;
iIKURON;jRI;lBAARU;iEGA;lTON;jETORU;hYAADO;kRU;iUAN;hRITTORU;jRA;iUPII;jUBURU;iEMU;jNTOGEN;hWATTO;
aIDEOGRAPHIC TELEGRAPH SYMBOL FOR HOUR ZERO;znONE;znTWO;zoHREE;znFOUR;zoIVE;znSIX;zoEVEN;znEIGHT;
znNINE;znTEN;znELEVEN;znTWELVE;zoHIRTEEN;znFOURTEEN;zoIFTEEN;znSIXTEEN;zoEVENTEEN;znEIGHTEEN;
znNINETEEN;znTWENTY;zt-ONE;zuTWO;zvHREE;zuFOUR;aSQUARE HPA;hDA;hAU;hBAR;hOV;hPC;hDM;j SQUARED;
kCUBED;hIU;hERA NAME HEISEI;qSYOUWA;qTAISYOU;qMEIZI;hCORPORATION;hPA AMPS;hNA;hMU A;iA;hKA;iB;hMB;
hGB;hCAL;hKCAL;hPF;hNF;hMU F;kG;iG;hKG;hHZ;hKHZ;hMHZ;hGHZ;hTHZ;hMU L;iL;hDL;hKL;hFM;hNM;hMU M;iM;
hCM;hKM;hMM SQUARED;hCM SQUARED;hM SQUARED;hKM SQUARED;hMM CUBED;hCM CUBED;hM CUBED;hKM CUBED;
hM OVER S;p SQUARED;hPA;hKPA;hMPA;hGPA;hRAD;k OVER S;r SQUARED;hPS;hNS;hMU S;iS;hPV;hNV;hMU V;iV;
hKV;hMV MEGA;hPW;hNW;hMU W;iW;hKW;hMW MEGA;hK OHM;hM OHM;hAM;hBQ;hCC;iD;i OVER KG;iO;hDB;hGY;hHA;
iP;hIN;hKK;iM CAPITAL;iT;hLM;iN;iOG;iX;hMB SMALL;iIL;iOL;hPH;iM;iPM;iR;hSR;iV;hWB;hV OVER M;
hA OVER M;aIDEOGRAPHIC TELEGRAPH SYMBOL FOR DAY ONE;zmTWO;znHREE;zmFOUR;znIVE;zmSIX;znEVEN;
zmEIGHT;zmNINE;zmTEN;zmELEVEN;zmTWELVE;znHIRTEEN;zmFOURTEEN;znIFTEEN;zmSIXTEEN;znEVENTEEN;
zmEIGHTEEN;zmNINETEEN;zmTWENTY;zs-ONE;ztTWO;zuHREE;ztFOUR;zuIVE;ztSIX;zuEVEN;ztEIGHT;ztNINE;
znHIRTY;zs-ONE;aSQUARE GAL;4DC0:aHEXAGRAM FOR THE CREATIVE HEAVEN;rRECEPTIVE EARTH;
nDIFFICULTY AT THE BEGINNING;nYOUTHFUL FOLLY;nWAITING;nCONFLICT;nTHE ARMY;nHOLDING TOGETHER;
nSMALL TAMING;nTREADING;nPEACE;nSTANDSTILL;nFELLOWSHIP;nGREAT POSSESSION;nMODESTY;nENTHUSIASM;
nFOLLOWING;nWORK ON THE DECAYED;nAPPROACH;nCONTEMPLATION;nBITING THROUGH;nGRACE;nSPLITTING APART;
nRETURN;nINNOCENCE;nGREAT TAMING;nMOUTH CORNERS;nGREAT PREPONDERANCE;nTHE ABYSMAL WATER;
rCLINGING FIRE;nINFLUENCE;nDURATION;nRETREAT;nGREAT POWER;nPROGRESS;nDARKENING OF THE LIGHT;
nTHE FAMILY;nOPPOSITION;oBSTRUCTION;nDELIVERANCE;pCREASE;nINCREASE;nBREAKTHROUGH;nCOMING TO MEET;
nGATHERING TOGETHER;nPUSHING UPWARD;nOPPRESSION;nTHE WELL;nREVOLUTION;nTHE CAULDRON;
rAROUSING THUNDER;rKEEPING STILL MOUNTAIN;nDEVELOPMENT;nTHE MARRYING MAIDEN;nABUNDANCE;
nTHE WANDERER;rGENTLE WIND;rJOYOUS LAKE;nDISPERSION;nLIMITATION;nINNER TRUTH;nSMALL PREPONDERANCE;
nAFTER COMPLETION;nBEFORE COMPLETION;A000:aYI SYLLABLE IT;nX;n;nP;nET;oX;o;oP;mAT;nX;n;nP;mUOX;o;
oP;mOT;nX;n;nP;mEX;n;mWU;mBIT;oX;o;oP;oET;pX;p;pP;nAT;oX;o;oP;nUOX;p;pP;nOT;oX;o;oP;nEX;o;oP;nUT;
oX;o;oP;oRX;p;nYT;oX;o;oP;oRX;p;mPIT;oX;o;oP;oEX;p;pP;nAT;oX;o;oP;nUOX;p;pP;nOT;oX;o;oP;nUT;oX;o;
oP;oRX;p;nYT;oX;o;oP;oRX;p;mBBIT;pX;p;pP;pET;qX;q;qP;oAT;pX;p;pP;oUOX;q;qP;oOT;pX;p;pP;oEX;p;pP;
oUT;pX;p;pP;pRX;q;oYT;pX;p;pP;mNBIT;pX;p;pP;pEX;q;qP;oAT;pX;p;pP;oOT;pX;p;pP;oUT;pX;p;pP;pRX;q;
oYT;pX;p;pP;pRX;q;mHMIT;pX;p;pP;pEX;q;qP;oAT;pX;p;pP;oUOX;q;qP;oOT;pX;p;pP;oUT;pX;p;pP;pRX;q;oYX;
p;pP;pRX;q;mMIT;oX;o;oP;oEX;p;pP;nAT;oX;o;oP;nUOT;pX;p;pP;nOT;oX;o;oP;nEX;o;nUT;oX;o;oP;oRX;p;nYT;
oX;o;oP;mFIT;oX;o;oP;nAT;oX;o;oP;nOX;o;oP;nUT;oX;o;oP;oRX;p;nYT;oX;o;oP;mVIT;oX;o;oP;oET;pX;p;pP;
nAT;oX;o;oP;nOT;oX;o;oP;nEX;oP;nUT;oX;o;oP;oRX;p;nYT;oX;o;oP;oRX;p;mDIT;oX;o;oP;oEX;p;pP;nAT;oX;o;
oP;nUOX;p;nOT;oX;o;oP;nEX;o;oP;nUT;oX;o;oP;oRX;p;mTIT;oX;o;oP;oEX;p;pP;nAT;oX;o;oP;nUOT;pX;p;pP;
nOT;oX;o;oP;nEX;o;oP;nUT;oX;o;oP;oRX;p;mDDIT;pX;p;pP;pEX;q;qP;oAT;pX;p;pP;oUOX;q;qP;oOT;pX;p;pP;
oEX;p;pP;oUT;pX;p;pP;pRX;q;mNDIT;pX;p;pP;pEX;q;oAT;pX;p;pP;oOT;pX;p;pP;oEX;p;pP;oUT;pX;p;pP;pRX;q;
mHNIT;pX;p;pP;pET;qX;q;qP;oAT;pX;p;pP;oUOX;q;oOT;pX;pP;oEX;p;pP;oUT;mNIT;oX;o;oP;oEX;p;pP;nAX;o;
oP;nUOX;p;pP;nOT;oX;o;oP;nEX;o;oP;nUT;oX;o;oP;oRX;p;mHLIT;pX;p;pP;pEX;q;qP;oAT;pX;p;pP;oUOX;q;qP;
oOX;p;pP;oEX;p;pP;oUT;pX;p;pP;pRX;q;oYT;pX;p;pP;pRX;q;mLIT;oX;o;oP;oET;pX;p;pP;nAT;oX;o;oP;nUOT;
pX;p;pP;nOT;oX;o;oP;nEX;o;oP;nUT;oX;o;oP;oRX;p;nYT;oX;o;oP;oRX;p;mGIT;oX;o;oP;oET;pX;p;pP;nAT;oX;
o;oP;nUOT;pX;p;pP;nOT;oX;o;oP;nET;oX;o;oP;nUT;oX;o;oP;oRX;p;mKIT;oX;o;oP;oEX;p;pP;nAT;oX;o;oP;
nUOX;p;pP;nOT;oX;o;oP;nET;oX;o;oP;nUT;oX;o;oP;oRX;p;mGGIT;pX;p;pEX;q;qP;oAT;pX;p;pP;oUOT;qX;q;qP;
oOT;pX;p;pP;oET;pX;p;pP;oUT;pX;p;pP;pRX;q;mMGIEX;q;oAT;pX;p;pP;oUOX;q;qP;oOT;pX;p;pP;oEX;p;pP;oUT;
pX;p;pP;pRX;q;mHXIT;pX;p;pP;pET;qX;q;qP;oAT;pX;p;pP;oUOT;qX;q;qP;oOT;pX;p;pP;oEX;p;pP;mNGIEX;q;qP;
oAT;pX;p;pP;oUOT;qX;q;oOT;pX;p;pP;oEX;p;pP;mHIT;oEX;p;nAT;oX;o;oP;nUOT;pX;p;pP;nOT;oX;o;oP;nEX;o;
oP;mWAT;oX;o;oP;nUOX;p;pP;nOX;o;oP;nEX;o;oP;mZIT;oX;o;oP;oEX;p;pP;nAT;oX;o;oP;nUOX;p;pP;nOT;oX;o;
oP;nEX;o;oP;nUT;oX;o;oP;oRX;p;nYT;oX;o;oP;oRX;p;mCIT;oX;o;oP;oET;pX;p;pP;nAT;oX;o;oP;nUOX;p;pP;
nOT;oX;o;oP;nEX;o;oP;nUT;oX;o;oP;oRX;p;nYT;oX;o;oP;oRX;p;mZZIT;pX;p;pP;pET;qX;q;qP;oAT;pX;p;pP;
oOX;p;pP;oEX;p;pP;oUX;p;pP;pRX;q;oYT;pX;p;pP;pRX;q;mNZIT;pX;p;pP;pEX;q;qP;oAT;pX;p;pP;oUOX;q;oOX;
pP;oEX;p;oUX;p;pP;pRX;q;oYT;pX;p;pP;pRX;q;mSIT;oX;o;oP;oEX;p;pP;nAT;oX;o;oP;nUOX;p;pP;nOT;oX;o;oP;
nEX;o;oP;nUT;oX;o;oP;oRX;p;nYT;oX;o;oP;oRX;p;nSIT;pX;p;pP;pEX;q;qP;oAT;pX;p;pP;oOT;pX;p;pP;oEX;p;
pP;oUT;pX;p;pP;oYT;pX;p;pP;pRX;q;mZHAT;pX;p;pP;oUOX;q;qP;oOT;pX;p;pP;oET;pX;p;pP;oUT;pX;p;pP;pRX;
q;oYT;pX;p;pP;pRX;q;mCHAT;pX;p;pP;oUOT;qX;q;qP;oOT;pX;p;pP;oET;pX;p;pP;oUX;p;pP;pRX;q;oYT;pX;p;pP;
pRX;q;mRRAX;p;oUOX;q;oOT;pX;p;pP;oET;pX;p;pP;oUT;pX;p;pP;pRX;q;oYT;pX;p;pP;pRX;q;mNRAT;pX;p;pP;
oOX;p;pP;oET;pX;p;pP;oUT;pX;p;pP;pRX;q;oYT;pX;p;pP;pRX;q;mSHAT;pX;p;pP;oUOX;q;qP;oOT;pX;p;pP;oET;
pX;p;pP;oUT;pX;p;pP;pRX;q;oYT;pX;p;pP;pRX;q;mRAT;oX;o;oP;nUOX;p;pP;nOT;oX;o;oP;nEX;o;oP;nUT;oX;o;
oP;oRX;p;nYT;oX;o;oP;oRX;p;mJIT;oX;o;oP;oET;pX;p;pP;nUOT;pX;p;pP;nOT;oX;o;oP;nUT;oX;o;oP;oRX;p;
nYT;oX;o;oP;oRX;p;mQIT;oX;o;oP;oET;pX;p;pP;nUOT;pX;p;pP;nOT;oX;o;oP;nUT;oX;o;oP;oRX;p;nYT;oX;o;oP;
oRX;p;mJJIT;pX;p;pP;pET;qX;q;qP;oUOX;q;qP;oOT;pX;p;pP;oUT;pX;p;pP;pRX;q;oYT;pX;p;pP;mNJIT;pX;p;pP;
pET;qX;q;qP;oUOX;q;oOT;pX;p;pP;oUX;p;pP;pRX;q;oYT;pX;p;pP;pRX;q;nYIT;pX;p;pP;pET;qX;q;qP;oUOX;q;
qP;oOT;pX;p;pP;oUT;pX;p;pP;mXIT;oX;o;oP;oET;pX;p;pP;nUOX;p;nOT;oX;o;oP;nYT;oX;o;oP;oRX;p;mYIT;oX;
o;oP;oET;pX;p;pP;nUOT;pX;p;pP;nOT;oX;o;oP;nUT;oX;o;oP;oRX;p;nYT;oX;o;oP;oRX;p;A490:dRADICAL QOT;
lLI;lKIT;lNYIP;lCYP;lSSI;lGGOP;mEP;lMI;lHXIT;lLYR;lBBUT;lMOP;lYO;lPUT;lHXUO;lTAT;lGA;lZUP;lCYT;
lDDUR;lBUR;lGGUO;lNYOP;lTU;lOP;lJJUT;lZOT;lPYT;lHMO;lYIT;lVUR;lSHY;lVEP;lZA;lJO;lNZUP;lJJY;lGOT;
lJJIE;lWO;lDU;lSHUR;lLIE;lCY;mUOP;mIP;lHXOP;lSHAT;lZUR;lSHOP;lCHE;lZZIET;lNBIE;lKE;
A4D0:aLISU LETTER BA;mPA;nHA;mDA;mTA;nHA;mGA;mKA;nHA;mJA;mCA;nHA;mDZA;mTSA;oHA;mMA;mNA;mLA;mSA;
mZHA;nA;mNGA;mHA;mXA;mHHA;mFA;mWA;mSHA;mYA;mGHA;mA;nE;mE;nU;mI;mO;mU;nE;nH;mOE;mTONE MYA TI;
rNA PO;rMYA CYA;vBO;vNA;vJEU;fPUNCTUATION COMMA;rFULL STOP;aVAI SYLLABLE EE;pN;nHEE;nWEE;qN;nPEE;
nBHEE;oEE;nMBEE;nKPEE;nMGBEE;nGBEE;nFEE;nVEE;nTEE;oHEE;nDHEE;pHEE;nLEE;nREE;nDEE;nNDEE;nSEE;oHEE;
nZEE;oHEE;nCEE;nJEE;nNJEE;nYEE;nKEE;nNGGEE;nGEE;nMEE;nNEE;oYEE;nI;oN;nHI;pN;nWI;pN;nPI;nBHI;oI;
nMBI;nKPI;nMGBI;nGBI;nFI;nVI;nTI;oHI;nDHI;pHI;nLI;nRI;nDI;nNDI;nSI;oHI;nZI;oHI;nCI;nJI;nNJI;nYI;
nKI;nNGGI;nGI;nMI;nNI;oYI;nA;oN;nNGAN;nHA;pN;nWA;pN;nPA;nBHA;oA;nMBA;nKPA;qN;nMGBA;nGBA;nFA;nVA;
nTA;oHA;nDHA;pHA;nLA;nRA;nDA;nNDA;nSA;oHA;nZA;oHA;nCA;nJA;nNJA;nYA;nKA;pN;nNGGA;nGA;nMA;nNA;oYA;
nOO;pN;nHOO;nWOO;qN;nPOO;nBHOO;oOO;nMBOO;nKPOO;nMGBOO;nGBOO;nFOO;nVOO;nTOO;oHOO;nDHOO;pHOO;nLOO;
nROO;nDOO;nNDOO;nSOO;oHOO;nZOO;oHOO;nCOO;nJOO;nNJOO;nYOO;nKOO;nNGGOO;nGOO;nMOO;nNOO;oYOO;nU;oN;
nHU;pN;nWU;pN;nPU;nBHU;oU;nMBU;nKPU;nMGBU;nGBU;nFU;nVU;nTU;oHU;nDHU;pHU;nLU;nRU;nDU;nNDU;nSU;oHU;
nZU;oHU;nCU;nJU;nNJU;nYU;nKU;nNGGU;nGU;nMU;nNU;oYU;nO;oN;nNGON;nHO;pN;nWO;pN;nPO;nBHO;oO;nMBO;
nKPO;nMGBO;nGBO;qN;nFO;nVO;nTO;oHO;nDHO;pHO;nLO;nRO;nDO;nNDO;nSO;oHO;nZO;oHO;nCO;nJO;nNJO;nYO;nKO;
nNGGO;nGO;nMO;nNO;oYO;nE;oN;nNGEN;nHE;pN;nWE;pN;nPE;nBHE;oE;nMBE;nKPE;qN;nMGBE;nGBE;qN;nFE;nVE;
nTE;oHE;nDHE;pHE;nLE;nRE;nDE;nNDE;nSE;oHE;nZE;oHE;nCE;nJE;nNJE;nYE;nKE;nNGGE;rN;nGE;pN;nME;nNE;
oYE;oG;nLENGTHENER;eCOMMA;eFULL STOP;eQUESTION MARK;eSYLLABLE NDOLE FA;tKA;tSOO;gMBOL FEENG;
lKEENG;lTING;lNII;lBANG;lFAA;lTAA;lDANG;mOONG;lKUNG;lTONG;lDO-O;lJONG;eDIGIT ZERO;kONE;kTWO;lHREE;
kFOUR;lIVE;kSIX;lEVEN;kEIGHT;kNINE;eSYLLABLE NDOLE MA;tDO;A640:aCYRILLIC CAPITAL LETTER ZEMLYA;
jSMALL LETTER ZEMLYA;jCAPITAL LETTER DZELO;jSMALL LETTER DZELO;jCAPITAL LETTER REVERSED DZE;
jSMALL LETTER REVERSED DZE;jCAPITAL LETTER IOTA;jSMALL LETTER IOTA;jCAPITAL LETTER DJERV;
jSMALL LETTER DJERV;jCAPITAL LETTER MONOGRAPH UK;jSMALL LETTER MONOGRAPH UK;
jCAPITAL LETTER BROAD OMEGA;jSMALL LETTER BROAD OMEGA;jCAPITAL LETTER NEUTRAL YER;
jSMALL LETTER NEUTRAL YER;jCAPITAL LETTER YERU WITH BACK YER;jSMALL LETTER YERU WITH BACK YER;
jCAPITAL LETTER IOTIFIED YAT;jSMALL LETTER IOTIFIED YAT;jCAPITAL LETTER REVERSED YU;
jSMALL LETTER REVERSED YU;jCAPITAL LETTER IOTIFIED A;jSMALL LETTER IOTIFIED A;
jCAPITAL LETTER CLOSED LITTLE YUS;jSMALL LETTER CLOSED LITTLE YUS;jCAPITAL LETTER BLENDED YUS;
jSMALL LETTER BLENDED YUS;jCAPITAL LETTER IOTIFIED CLOSED LITTLE YUS;jSMALL LETTER IOTIFIED CLOSE
D LITTLE YUS;jCAPITAL LETTER YN;jSMALL LETTER YN;jCAPITAL LETTER REVERSED TSE;
jSMALL LETTER REVERSED TSE;jCAPITAL LETTER SOFT DE;jSMALL LETTER SOFT DE;jCAPITAL LETTER SOFT EL;
jSMALL LETTER SOFT EL;jCAPITAL LETTER SOFT EM;jSMALL LETTER SOFT EM;jCAPITAL LETTER MONOCULAR O;
jSMALL LETTER MONOCULAR O;jCAPITAL LETTER BINOCULAR O;jSMALL LETTER BINOCULAR O;
jCAPITAL LETTER DOUBLE MONOCULAR O;jSMALL LETTER DOUBLE MONOCULAR O;jLETTER MULTIOCULAR O;
bOMBINING CYRILLIC VZMET;tTEN MILLIONS SIGN;tHUNDRED MILLIONS SIGN;tTHOUSAND MILLIONS SIGN;
aSLAVONIC ASTERISK;aCOMBINING CYRILLIC LETTER UKRAINIAN IE;zbI;zbYI;zbU;zbHARD SIGN;zbYERU;
zbSOFT SIGN;zbOMEGA;tKAVYKA;tPAYEROK;bYRILLIC KAVYKA;jPAYEROK;jCAPITAL LETTER DWE;
jSMALL LETTER DWE;jCAPITAL LETTER DZWE;jSMALL LETTER DZWE;jCAPITAL LETTER ZHWE;jSMALL LETTER ZHWE;
jCAPITAL LETTER CCHE;jSMALL LETTER CCHE;jCAPITAL LETTER DZZE;jSMALL LETTER DZZE;
jCAPITAL LETTER TE WITH MIDDLE HOOK;jSMALL LETTER TE WITH MIDDLE HOOK;jCAPITAL LETTER TWE;
jSMALL LETTER TWE;jCAPITAL LETTER TSWE;jSMALL LETTER TSWE;jCAPITAL LETTER TSSE;jSMALL LETTER TSSE;
jCAPITAL LETTER TCHE;jSMALL LETTER TCHE;jCAPITAL LETTER HWE;jSMALL LETTER HWE;
jCAPITAL LETTER SHWE;jSMALL LETTER SHWE;jCAPITAL LETTER DOUBLE O;jSMALL LETTER DOUBLE O;
jCAPITAL LETTER CROSSED O;jSMALL LETTER CROSSED O;aMODIFIER LETTER CYRILLIC HARD SIGN;zSOFT SIGN;
aCOMBINING CYRILLIC LETTER EF;zbIOTIFIED E;aBAMUM LETTER A;nKA;nU;nKU;nEE;nREE;nTAE;nO;nNYI;nI;
nLA;nPA;nRII;pEE;nLEEEE;nMEEEE;nTAA;nNDAA;oJAEM;nM;nSUU;nMU;nSHII;oI;oHEUX;oEUX;nKYEE;oET;nNUAE;p;
oJUAE;nYOQ;nSHU;nYUQ;oA;nNSHA;nKEUX;nPEUX;nNJEE;oTEE;nPUE;nWUE;nPEE;nFEE;nRU;nLU;nMI;nNI;nREUX;
oAE;nKEN;nNGKWAEN;pGA;pA;nSHO;nPUAE;nFU;oOM;nWA;nNA;nLI;nPI;nLOQ;nKO;nMBEN;nREN;nMEN;oA;nTI;nKI;
nMO;oBAA;nTET;nKPA;nTEN;nNTUU;nSAMBA;nFAAMAE;nKOVUU;pGHOM;gCOMBINING MARK KOQNDON;vTUKWENTIS;
gNJAEMLI;gFULL STOP;gCOLON;iMMA;gSEMICOLON;gQUESTION MARK;A700:aMODIFIER LETTER CHINESE TONE YIN P
ING;zfANG PING;zfIN SHANG;zfANG SHANG;zfIN QU;zfANG QU;zfIN RU;zfANG RU;qEXTRA-HIGH DOTTED TONE BA
R;qHIGH DOTTED TONE BAR;qMID DOTTED TONE BAR;qLOW DOTTED TONE BAR;qEXTRA-LOW DOTTED TONE BAR;
wHIGH DOTTED LEFT-STEM TONE BAR;qHIGH DOTTED LEFT-STEM TONE BAR;qMID DOTTED LEFT-STEM TONE BAR;
qLOW DOTTED LEFT-STEM TONE BAR;qEXTRA-LOW DOTTED LEFT-STEM TONE BAR;wHIGH LEFT-STEM TONE BAR;
qHIGH LEFT-STEM TONE BAR;qMID LEFT-STEM TONE BAR;qLOW LEFT-STEM TONE BAR;qEXTRA-LOW LEFT-STEM TON
E BAR;qDOT VERTICAL BAR;uSLASH;uHORIZONTAL BAR;qLOWER RIGHT CORNER ANGLE;qRAISED UP ARROW;
xDOWN ARROW;xEXCLAMATION MARK;xINVERTED EXCLAMATION MARK;qLOW INVERTED EXCLAMATION MARK;
qSTRESS AND HIGH TONE;zcLOW TONE;aLATIN CAPITAL LETTER EGYPTOLOGICAL ALEF;gSMALL LETTER EGYPTOLOGI
CAL ALEF;gCAPITAL LETTER EGYPTOLOGICAL AIN;gSMALL LETTER EGYPTOLOGICAL AIN;gCAPITAL LETTER HENG;
gSMALL LETTER HENG;gCAPITAL LETTER TZ;gSMALL LETTER TZ;gCAPITAL LETTER TRESILLO;
gSMALL LETTER TRESILLO;gCAPITAL LETTER CUATRILLO;gSMALL LETTER CUATRILLO;gCAPITAL LETTER CUATRILL
O WITH COMMA;gSMALL LETTER CUATRILLO WITH COMMA;gLETTER SMALL CAPITAL F;zcS;gCAPITAL LETTER AA;
gSMALL LETTER AA;gCAPITAL LETTER AO;gSMALL LETTER AO;gCAPITAL LETTER AU;gSMALL LETTER AU;
gCAPITAL LETTER AV;gSMALL LETTER AV;gCAPITAL LETTER AV WITH HORIZONTAL BAR;
gSMALL LETTER AV WITH HORIZONTAL BAR;gCAPITAL LETTER AY;gSMALL LETTER AY;gCAPITAL LETTER REVERSE
D C WITH DOT;gSMALL LETTER REVERSED C WITH DOT;gCAPITAL LETTER K WITH STROKE;
gSMALL LETTER K WITH STROKE;gCAPITAL LETTER K WITH DIAGONAL STROKE;gSMALL LETTER K WITH DIAGONAL S
TROKE;gCAPITAL LETTER K WITH STROKE AND DIAGONAL STROKE;gSMALL LETTER K WITH STROKE AND DIAGONAL S
TROKE;gCAPITAL LETTER BROKEN L;gSMALL LETTER BROKEN L;gCAPITAL LETTER L WITH HIGH STROKE;
gSMALL LETTER L WITH HIGH STROKE;gCAPITAL LETTER O WITH LONG STROKE OVERLAY;
gSMALL LETTER O WITH LONG STROKE OVERLAY;gCAPITAL LETTER O WITH LOOP;gSMALL LETTER O WITH LOOP;
gCAPITAL LETTER OO;gSMALL LETTER OO;gCAPITAL LETTER P WITH STROKE THROUGH DESCENDER;
gSMALL LETTER P WITH STROKE THROUGH DESCENDER;gCAPITAL LETTER P WITH FLOURISH;
gSMALL LETTER P WITH FLOURISH;gCAPITAL LETTER P WITH SQUIRREL TAIL;gSMALL LETTER P WITH SQUIRREL T
AIL;gCAPITAL LETTER Q WITH STROKE THROUGH DESCENDER;gSMALL LETTER Q WITH STROKE THROUGH DESCENDER;
gCAPITAL LETTER Q WITH DIAGONAL STROKE;gSMALL LETTER Q WITH DIAGONAL STROKE;
gCAPITAL LETTER R ROTUNDA;gSMALL LETTER R ROTUNDA;gCAPITAL LETTER RUM ROTUNDA;
gSMALL LETTER RUM ROTUNDA;gCAPITAL LETTER V WITH DIAGONAL STROKE;gSMALL LETTER V WITH DIAGONAL STR
OKE;gCAPITAL LETTER VY;gSMALL LETTER VY;gCAPITAL LETTER VISIGOTHIC Z;gSMALL LETTER VISIGOTHIC Z;
gCAPITAL LETTER THORN WITH STROKE;gSMALL LETTER THORN WITH STROKE;gCAPITAL LETTER THORN WITH STROK
E THROUGH DESCENDER;gSMALL LETTER THORN WITH STROKE THROUGH DESCENDER;gCAPITAL LETTER VEND;
gSMALL LETTER VEND;gCAPITAL LETTER ET;gSMALL LETTER ET;gCAPITAL LETTER IS;gSMALL LETTER IS;
gCAPITAL LETTER CON;gSMALL LETTER CON;aMODIFIER LETTER US;aLATIN SMALL LETTER DUM;tLUM;tMUM;tNUM;
tRUM;gLETTER SMALL CAPITAL RUM;gSMALL LETTER TUM;tUM;gCAPITAL LETTER INSULAR D;
gSMALL LETTER INSULAR D;gCAPITAL LETTER INSULAR F;gSMALL LETTER INSULAR F;gCAPITAL LETTER INSULA
R G;vTURNED INSULAR G;gSMALL LETTER TURNED INSULAR G;gCAPITAL LETTER TURNED L;
gSMALL LETTER TURNED L;gCAPITAL LETTER INSULAR R;gSMALL LETTER INSULAR R;gCAPITAL LETTER INSULAR S
;gSMALL LETTER INSULAR S;gCAPITAL LETTER INSULAR T;gSMALL LETTER INSULAR T;
aMODIFIER LETTER LOW CIRCUMFLEX ACCENT;qCOLON;qSHORT EQUALS SIGN;aLATIN CAPITAL LETTER SALTILLO;
gSMALL LETTER SALTILLO;gCAPITAL LETTER TURNED H;gSMALL LETTER L WITH RETROFLEX HOOK AND BELT;
gLETTER SINOLOGICAL DOT;gCAPITAL LETTER N WITH DESCENDER;gSMALL LETTER N WITH DESCENDER;
gCAPITAL LETTER C WITH BAR;gSMALL LETTER C WITH BAR;zbPALATAL HOOK;tH WITH PALATAL HOOK;
gCAPITAL LETTER B WITH FLOURISH;gSMALL LETTER B WITH FLOURISH;gCAPITAL LETTER F WITH STROKE;
gSMALL LETTER F WITH STROKE;gCAPITAL LETTER VOLAPUK AE;gSMALL LETTER VOLAPUK AE;
gCAPITAL LETTER VOLAPUK OE;gSMALL LETTER VOLAPUK OE;gCAPITAL LETTER VOLAPUK UE;
gSMALL LETTER VOLAPUK UE;gCAPITAL LETTER G WITH OBLIQUE STROKE;gSMALL LETTER G WITH OBLIQUE STROKE
;gCAPITAL LETTER K WITH OBLIQUE STROKE;gSMALL LETTER K WITH OBLIQUE STROKE;
gCAPITAL LETTER N WITH OBLIQUE STROKE;gSMALL LETTER N WITH OBLIQUE STROKE;gCAPITAL LETTER R WITH O
BLIQUE STROKE;gSMALL LETTER R WITH OBLIQUE STROKE;gCAPITAL LETTER S WITH OBLIQUE STROKE;
gSMALL LETTER S WITH OBLIQUE STROKE;gCAPITAL LETTER H WITH HOOK;vREVERSED OPEN E;vSCRIPT G;
vL WITH BELT;vSMALL CAPITAL I;gLETTER SMALL CAPITAL Q;gCAPITAL LETTER TURNED K;zdT;
vJ WITH CROSSED-TAIL;vCHI;vBETA;gSMALL LETTER BETA;gCAPITAL LETTER OMEGA;gSMALL LETTER OMEGA;
gCAPITAL LETTER U WITH STROKE;gSMALL LETTER U WITH STROKE;gCAPITAL LETTER GLOTTAL A;
gSMALL LETTER GLOTTAL A;gCAPITAL LETTER GLOTTAL I;gSMALL LETTER GLOTTAL I;gCAPITAL LETTER GLOTTA
L U;gSMALL LETTER GLOTTAL U;gCAPITAL LETTER OLD POLISH O;gSMALL LETTER OLD POLISH O;
gCAPITAL LETTER ANGLICANA W;gSMALL LETTER ANGLICANA W;gCAPITAL LETTER C WITH PALATAL HOOK;
vS WITH HOOK;vZ WITH PALATAL HOOK;vD WITH SHORT STROKE OVERLAY;gSMALL LETTER D WITH SHORT STROKE O
VERLAY;gCAPITAL LETTER S WITH SHORT STROKE OVERLAY;gSMALL LETTER S WITH SHORT STROKE OVERLAY;
A7D0:gCAPITAL LETTER CLOSED INSULAR G;gSMALL LETTER CLOSED INSULAR G;A7D3:tDOUBLE THORN;
A7D5:zbWYNN;gCAPITAL LETTER MIDDLE SCOTS S;gSMALL LETTER MIDDLE SCOTS S;gCAPITAL LETTER SIGMOID S;
gSMALL LETTER SIGMOID S;A7F2:aMODIFIER LETTER CAPITAL C;yF;yQ;aLATIN CAPITAL LETTER REVERSED HAL
F H;gSMALL LETTER REVERSED HALF H;gEPIGRAPHIC LETTER SIDEWAYS I;aMODIFIER LETTER CAPITAL H WITH ST
ROKE;qSMALL LIGATURE OE;aLATIN LETTER SMALL CAPITAL TURNED M;gEPIGRAPHIC LETTER REVERSED F;ziP;
yINVERTED M;z LONGA;yARCHAIC M;aSYLOTI NAGRI LETTER A;uI;nSIGN DVISVARA;nLETTER U;uE;uO;
nSIGN HASANTA;nLETTER KO;vHO;uGO;vHO;nSIGN ANUSVARA;nLETTER CO;vHO;uJO;vHO;uTTO;wHO;uDDO;wHO;uTO;
vHO;uDO;vHO;uNO;uPO;vHO;uBO;vHO;uMO;uRO;uLO;uRRO;uSO;uHO;nVOWEL SIGN A;yI;yU;yE;yOO;
nPOETRY MARK-1;z2;z3;z4;nSIGN ALTERNATE HASANTA;A830:aNORTH INDIC FRACTION ONE QUARTER;zHALF;
vTHREE QUARTERS;vONE SIXTEENTH;zEIGHTH;vTHREE SIXTEENTHS;mQUARTER MARK;mPLACEHOLDER MARK;
mRUPEE MARK;mQUANTITY MARK;A840:aPHAGS-PA LETTER KA;rHA;qGA;qNGA;qCA;rHA;qJA;qNYA;qTA;rHA;qDA;qNA;
qPA;rHA;qBA;qMA;qTSA;sHA;qDZA;qWA;qZHA;rA;qSMALL A;qYA;qRA;qLA;qSHA;rA;qHA;qA;qI;qU;qE;qO;qQA;qXA;
qFA;qGGA;qEE;jSUBJOINED LETTER WA;zbYA;jLETTER TTA;sHA;qDDA;qNNA;qALTERNATE YA;qVOICELESS SHA;
vD HA;qASPIRATED FA;jSUBJOINED LETTER RA;lPERFIXED LETTER RA;jLETTER CANDRABINDU;
jSINGLE HEAD MARK;jDOUBLE HEAD MARK;jMARK SHAD;oDOUBLE SHAD;A880:aSAURASHTRA SIGN ANUSVARA;
qVISARGA;lLETTER A;tA;sI;tI;sU;tU;sVOCALIC R;zcR;zbL;zcL;sE;tE;sAI;sO;tO;sAU;sKA;tHA;sGA;tHA;sNGA;
sCA;tHA;sJA;tHA;sNYA;sTTA;uHA;sDDA;uHA;sNNA;sTA;tHA;sDA;tHA;sNA;sPA;tHA;sBA;tHA;sMA;sYA;sRA;sLA;
sVA;sSHA;tSA;tA;sHA;sLLA;lCONSONANT SIGN HAARU;lVOWEL SIGN AA;wI;xI;wU;xU;wVOCALIC R;zgR;zfL;zgL;
wE;xE;wAI;wO;xO;wAU;lSIGN VIRAMA;qCANDRABINDU;A8CE:lDANDA;mOUBLE DANDA;mIGIT ZERO;rONE;rTWO;sHREE;
rFOUR;sIVE;rSIX;sEVEN;rEIGHT;rNINE;A8E0:aCOMBINING DEVANAGARI DIGIT ZERO;zcONE;zcTWO;zdHREE;
zcFOUR;zdIVE;zcSIX;zdEVEN;zcEIGHT;zcNINE;vLETTER A;zdU;zdKA;zdNA;zdPA;zdRA;zdVI;vSIGN AVAGRAHA;
aDEVANAGARI SIGN SPACING CANDRABINDU;qCANDRABINDU VIRAMA;qDOUBLE CANDRABINDU VIRAMA;
qCANDRABINDU TWO;zeHREE;zdAVAGRAHA;qPUSHPIKA;lGAP FILLER;lCARET;lHEADSTROKE;lSIGN SIDDHAM;
lJAIN OM;lLETTER AY;lVOWEL SIGN AY;aKAYAH LI DIGIT ZERO;pONE;pTWO;qHREE;pFOUR;qIVE;pSIX;qEVEN;
pEIGHT;pNINE;jLETTER KA;rHA;qGA;qNGA;qSA;rHA;qZA;qNYA;qTA;qHTA;qNA;qPA;rHA;qMA;qDA;qBA;qRA;qYA;
qLA;qWA;qTHA;qHA;qVA;qCA;qA;qOE;qI;qOO;jVOWEL UE;pE;pU;pEE;pO;jTONE PLOPHU;oCALYA;t PLOPHU;
jSIGN CWI;oSHYA;aREJANG LETTER KA;oGA;oNGA;oTA;oDA;oNA;oPA;oBA;oMA;oCA;oJA;oNYA;oSA;oRA;oLA;oYA;
oWA;oHA;oMBA;oNGGA;pDA;pYJA;oA;hVOWEL SIGN I;sU;sE;sAI;sO;sAU;sEU;tA;hCONSONANT SIGN NG;x;wR;wH;
hVIRAMA;A95F:hSECTION MARK;aHANGUL CHOSEONG TIKEUT-MIEUM;xPIEUP;xSIOS;xCIEUC;qRIEUL-KIYEOK;
wSSANGKIYEOK;wTIKEUT;wSSANGTIKEUT;wMIEUM;wPIEUP;wSSANGPIEUP;wKAPYEOUNPIEUP;wSIOS;wCIEUC;wKHIEUKH;
qMIEUM-KIYEOK;wTIKEUT;wSIOS;qPIEUP-SIOS-THIEUTH;wKHIEUKH;wHIEUH;qSSANGSIOS-PIEUP;qIEUNG-RIEUL;
wHIEUH;qSSANGCIEUC-HIEUH;vTHIEUTH;qPHIEUPH-HIEUH;qHIEUH-SIOS;qSSANGYEORINHIEUH;
A980:aJAVANESE SIGN PANYANGGA;oCECAK;oLAYAR;oWIGNYAN;jLETTER A;qI KAWI;r;rI;qU;qPA CEREK;
qNGA LELET;z RASWADI;qE;qAI;qO;qKA;s SASAK;tMURDA;qGA;s MURDA;qNGA;qCA;s MURDA;qJA;qNYA MURDA;
qJA MAHAPRANA;qNYA;qTTA;t MAHAPRANA;qDDA;t MAHAPRANA;qNA MURDA;qTA;s MURDA;qDA;s MAHAPRANA;qNA;
qPA;s MURDA;qBA;s MURDA;qMA;qYA;qRA;s AGUNG;qLA;qWA;qSA MURDA;uAHAPRANA;s;qHA;jSIGN CECAK TELU;
jVOWEL SIGN TARUNG;vOLONG;uWULU;y MELIK;uSUKU;y MENDUT;uTALING;uDIRGA MURE;uPEPET;
jCONSONANT SIGN KERET;yPENGKAL;yCAKRA;jPANGKON;jLEFT RERENGGAN;jRIGHT RERENGGAN;jPADA ANDAP;
oMADYA;oLUHUR;oWINDU;oPANGKAT;oLINGSA;pUNGSI;oADEG;s ADEG;oPISELEH;jTURNED PADA PISELEH;
A9CF:jPANGRANGKEP;jDIGIT ZERO;pONE;pTWO;qHREE;pFOUR;qIVE;pSIX;qEVEN;pEIGHT;pNINE;
A9DE:jPADA TIRTA TUMETES;oISEN-ISEN;aMYANMAR LETTER SHAN GHA;uCHA;uJHA;uNNA;uBHA;iSIGN SHAN SAW;
iMODIFIER LETTER SHAN REDUPLICATION;iLETTER TAI LAING NYA;zFA;zGA;zbHA;zJA;zbHA;zDDA;zcHA;zNNA;
iTAI LAING DIGIT ZERO;yONE;yTWO;zHREE;yFOUR;zIVE;ySIX;zEVEN;yEIGHT;yNINE;iLETTER TAI LAING LLA;
zDA;zbHA;zBA;zbHA;AA00:aCHAM LETTER A;mI;mU;mE;mAI;mO;mKA;nHA;mGA;nHA;mNGUE;oA;mCHA;oHA;mJA;nHA;
mNHUE;oA;oJA;mTA;nHA;mDA;nHA;mNUE;nA;mDDA;mPA;nPA;nHA;mBA;nHA;mMUE;nA;mBBA;mYA;mRA;mLA;mVA;mSSA;
nA;mHA;fVOWEL SIGN AA;qI;rI;qEI;qU;qOE;r;qAI;rU;qUE;fCONSONANT SIGN YA;uRA;uLA;uWA;
AA40:fLETTER FINAL K;sG;sNG;fCONSONANT SIGN FINAL NG;fLETTER FINAL CH;sT;sN;sP;sY;sR;sL;sSS;
fCONSONANT SIGN FINAL M;zbH;AA50:fDIGIT ZERO;lONE;lTWO;mHREE;lFOUR;mIVE;lSIX;mEVEN;lEIGHT;lNINE;
AA5C:fPUNCTUATION SPIRAL;rDANDA;sOUBLE DANDA;rTRIPLE DANDA;aMYANMAR LETTER KHAMTI GA;wCA;xHA;wJA;
xHA;wNYA;wTTA;yHA;wDDA;yHA;xHA;wNA;wSA;wHA;xHA;wFA;iMODIFIER LETTER KHAMTI REDUPLICATION;
iLETTER KHAMTI XA;wZA;wRA;jOGOGRAM KHAMTI OAY;yQN;yHM;iSYMBOL AITON EXCLAMATION;vONE;vTWO;
iLETTER AITON RA;iSIGN PAO KAREN TONE;nTAI LAING TONE-2;zd5;iLETTER SHWE PALAUNG CHA;zdSHA;
aTAI VIET LETTER LOW KO;qHIGH KO;qLOW KHO;qHIGH KHO;qLOW KHHO;qHIGH KHHO;qLOW GO;qHIGH GO;
qLOW NGO;qHIGH NGO;qLOW CO;qHIGH CO;qLOW CHO;qHIGH CHO;qLOW SO;qHIGH SO;qLOW NYO;qHIGH NYO;
qLOW DO;qHIGH DO;qLOW TO;qHIGH TO;qLOW THO;qHIGH THO;qLOW NO;qHIGH NO;qLOW BO;qHIGH BO;qLOW PO;
qHIGH PO;qLOW PHO;qHIGH PHO;qLOW FO;qHIGH FO;qLOW MO;qHIGH MO;qLOW YO;qHIGH YO;qLOW RO;qHIGH RO;
qLOW LO;qHIGH LO;qLOW VO;qHIGH VO;qLOW HO;qHIGH HO;qLOW O;qHIGH O;jMAI KANG;jVOWEL AA;pI;pUE;q;pE;
pO;jMAI KHIT;jVOWEL IA;pUEA;qA;pAUE;qY;qN;qM;jTONE MAI EK;sNUENG;sTHO;sSONG;AADB:jSYMBOL KON;
qNUENG;qSAM;qHO HOI;qKOI KOI;aMEETEI MAYEK LETTER E;uO;uCHA;uNYA;uTTA;wHA;uDDA;wHA;uNNA;uSHA;vSA;
nVOWEL SIGN II;yUU;yAAI;zU;zAU;nCHEIKHAN;nAHANG KHUDAM;oNJI;nSYLLABLE REPETITION MARK;
nWORD REPETITION MARK;nVOWEL SIGN VISARGA;oIRAMA;AB01:aETHIOPIC SYLLABLE TTHU;vI;vAA;vEE;w;vO;
AB09:sDDHU;vI;vAA;vEE;w;vO;AB11:tZU;uI;uAA;uEE;v;uO;AB20:sCCHHA;wU;wI;wAA;wEE;x;wO;AB28:sBBA;uU;
uI;uAA;uEE;v;uO;AB30:aLATIN SMALL LETTER BARRED ALPHA;tA REVERSED-SCHWA;tBLACKLETTER E;uARRED E;
tE WITH FLOURISH;tLENIS F;tSCRIPT G WITH CROSSED-TAIL;tL WITH INVERTED LAZY S;
zbDOUBLE MIDDLE TILDE;zbMIDDLE RING;tM WITH CROSSED-TAIL;tN WITH CROSSED-TAIL;
tENG WITH CROSSED-TAIL;tBLACKLETTER O;zh WITH STROKE;tOPEN O WITH STROKE;tINVERTED OE;
tTURNED OE WITH STROKE;zjHORIZONTAL STROKE;zc OPEN-O;zj WITH STROKE;tSTIRRUP R;
gLETTER SMALL CAPITAL R WITH RIGHT LEG;gSMALL LETTER R WITHOUT HANDLE;tDOUBLE R;
tR WITH CROSSED-TAIL;tDOUBLE R WITH CROSSED-TAIL;tSCRIPT R;zc WITH RING;tBASELINE ESH;
tU WITH SHORT RIGHT LEG;vBAR WITH SHORT RIGHT LEG;uI;tTURNED UI;tU WITH LEFT HOOK;tCHI;
w WITH LOW RIGHT RING;zhLEFT SERIF;tX WITH LOW RIGHT RING;zdNG LEFT LEG;zo AND LOW RIGHT RING;
zpWITH SERIF;tY WITH SHORT RIGHT LEG;aMODIFIER BREVE WITH INVERTED BREVE;jLETTER SMALL HENG;
wL WITH INVERTED LAZY S;zeMIDDLE TILDE;wU WITH LEFT HOOK;aLATIN SMALL LETTER SAKHA YAT;
tIOTIFIED E;tOPEN OE;tUO;tINVERTED ALPHA;aGREEK LETTER SMALL CAPITAL OMEGA;
aLATIN SMALL LETTER DZ DIGRAPH WITH RETROFLEX HOOK;tTS DIGRAPH WITH RETROFLEX HOOK;
uURNED R WITH MIDDLE TILDE;aMODIFIER LETTER SMALL TURNED W;qLEFT TACK;qRIGHT TACK;
AB70:aCHEROKEE SMALL LETTER A;wE;wI;wO;wU;wV;wGA;wKA;wGE;xI;xO;xU;xV;wHA;xE;xI;xO;xU;xV;wLA;xE;xI;
xO;xU;xV;wMA;xE;xI;xO;xU;wNA;wHNA;wNAH;xE;xI;xO;xU;xV;wQUA;yE;yI;yO;yU;yV;wSA;x;xE;xI;xO;xU;xV;
wDA;wTA;wDE;wTE;wDI;wTI;wDO;xU;xV;xLA;wTLA;yE;yI;yO;yU;yV;xSA;yE;yI;yO;yU;yV;wWA;xE;xI;xO;xU;xV;
wYA;aMEETEI MAYEK LETTER KOK;uSAM;uLAI;uMIT;uPA;uNA;uCHIL;uTIL;uKHOU;uNGOU;uTHOU;uWAI;uYANG;uHUK;
uUN;uI;uPHAM;uATIYA;uGOK;uJHAM;uRAI;uBA;uJIL;uDIL;uGHOU;uDHOU;uBHAM;uKOK LONSUM;uLAI LONSUM;
uMIT LONSUM;uPA LONSUM;uNA LONSUM;uTIL LONSUM;uNGOU LONSUM;uI LONSUM;nVOWEL SIGN ONAP;yINAP;yANAP;
yYENAP;ySOUNAP;yUNAP;yCHEINAP;yNUNG;nCHEIKHEI;nLUM IYEK;nAPUN IYEK;ABF0:nDIGIT ZERO;tONE;tTWO;
uHREE;tFOUR;uIVE;tSIX;uEVEN;tEIGHT;tNINE;D7B0:aHANGUL JUNGSEONG O-YEO;tO-I;rYO-A;vE;uEO;rU-YEO;
tI-I;rYU-AE;uO;rEU-A;uEO;v;uO;rI-YA-O;vE;uEO;v;tO-I;tYO;uU;tI;rARAEA-A;xE;D7CB:iONGSEONG NIEUN-RIE
UL;xCHIEUCH;rSSANGTIKEUT;zd-PIEUP;rTIKEUT-PIEUP;ySIOS;zd-KIYEOK;yCIEUC;zHIEUCH;yTHIEUTH;
rRIEUL-SSANGKIYEOK;xKIYEOK-HIEUH;rSSANGRIEUL-KHIEUKH;rRIEUL-MIEUM-HIEUH;xPIEUP-TIKEUT;zePHIEUPH;
xYESIEUNG;zORINHIEUH-HIEUH;rKAPYEOUNRIEUL;rMIEUM-NIEUN;xSSANGNIEUN;rSSANGMIEUM;rMIEUM-PIEUP-SIOS;
xCIEUC;rPIEUP-TIKEUT;xRIEUL-PHIEUPH;xMIEUM;rSSANGPIEUP;rPIEUP-SIOS-TIKEUT;xCIEUC;yHIEUCH;
rSIOS-MIEUM;wKAPYEOUNPIEUP;sSANGSIOS-KIYEOK;zcTIKEUT;sIOS-PANSIOS;wCIEUC;xHIEUCH;wTHIEUTH;wHIEUH;
rPANSIOS-PIEUP;zKAPYEOUNPIEUP;rYESIEUNG-MIEUM;zbHIEUH;rCIEUC-PIEUP;xSSANGPIEUP;rSSANGCIEUC;
rPHIEUPH-SIOS;zTHIEUTH;F900:aCJK COMPATIBILITY IDEOGRAPH-F900;zg1;zg2;zg3;zg4;zg5;zg6;zg7;zg8;zg9;
zgA;zgB;zgC;zgD;zgE;zgF;zf10;zg1;zg2;zg3;zg4;zg5;zg6;zg7;zg8;zg9;zgA;zgB;zgC;zgD;zgE;zgF;zf20;zg1;
zg2;zg3;zg4;zg5;zg6;zg7;zg8;zg9;zgA;zgB;zgC;zgD;zgE;zgF;zf30;zg1;zg2;zg3;zg4;zg5;zg6;zg7;zg8;zg9;
zgA;zgB;zgC;zgD;zgE;zgF;zf40;zg1;zg2;zg3;zg4;zg5;zg6;zg7;zg8;zg9;zgA;zgB;zgC;zgD;zgE;zgF;zf50;zg1;
zg2;zg3;zg4;zg5;zg6;zg7;zg8;zg9;zgA;zgB;zgC;zgD;zgE;zgF;zf60;zg1;zg2;zg3;zg4;zg5;zg6;zg7;zg8;zg9;
zgA;zgB;zgC;zgD;zgE;zgF;zf70;zg1;zg2;zg3;zg4;zg5;zg6;zg7;zg8;zg9;zgA;zgB;zgC;zgD;zgE;zgF;zf80;zg1;
zg2;zg3;zg4;zg5;zg6;zg7;zg8;zg9;zgA;zgB;zgC;zgD;zgE;zgF;zf90;zg1;zg2;zg3;zg4;zg5;zg6;zg7;zg8;zg9;
zgA;zgB;zgC;zgD;zgE;zgF;zfA0;zg1;zg2;zg3;zg4;zg5;zg6;zg7;zg8;zg9;zgA;zgB;zgC;zgD;zgE;zgF;zfB0;zg1;
zg2;zg3;zg4;zg5;zg6;zg7;zg8;zg9;zgA;zgB;zgC;zgD;zgE;zgF;zfC0;zg1;zg2;zg3;zg4;zg5;zg6;zg7;zg8;zg9;
zgA;zgB;zgC;zgD;zgE;zgF;zfD0;zg1;zg2;zg3;zg4;zg5;zg6;zg7;zg8;zg9;zgA;zgB;zgC;zgD;zgE;zgF;zfE0;zg1;
zg2;zg3;zg4;zg5;zg6;zg7;zg8;zg9;zgA;zgB;zgC;zgD;zgE;zgF;zfF0;zg1;zg2;zg3;zg4;zg5;zg6;zg7;zg8;zg9;
zgA;zgB;zgC;zgD;zgE;zgF;zeA00;zg1;zg2;zg3;zg4;zg5;zg6;zg7;zg8;zg9;zgA;zgB;zgC;zgD;zgE;zgF;zf10;
zg1;zg2;zg3;zg4;zg5;zg6;zg7;zg8;zg9;zgA;zgB;zgC;zgD;zgE;zgF;zf20;zg1;zg2;zg3;zg4;zg5;zg6;zg7;zg8;
zg9;zgA;zgB;zgC;zgD;zgE;zgF;zf30;zg1;zg2;zg3;zg4;zg5;zg6;zg7;zg8;zg9;zgA;zgB;zgC;zgD;zgE;zgF;zf40;
zg1;zg2;zg3;zg4;zg5;zg6;zg7;zg8;zg9;zgA;zgB;zgC;zgD;zgE;zgF;zf50;zg1;zg2;zg3;zg4;zg5;zg6;zg7;zg8;
zg9;zgA;zgB;zgC;zgD;zgE;zgF;zf60;zg1;zg2;zg3;zg4;zg5;zg6;zg7;zg8;zg9;zgA;zgB;zgC;zgD;FA70:zf70;
zg1;zg2;zg3;zg4;zg5;zg6;zg7;zg8;zg9;zgA;zgB;zgC;zgD;zgE;zgF;zf80;zg1;zg2;zg3;zg4;zg5;zg6;zg7;zg8;
zg9;zgA;zgB;zgC;zgD;zgE;zgF;zf90;zg1;zg2;zg3;zg4;zg5;zg6;zg7;zg8;zg9;zgA;zgB;zgC;zgD;zgE;zgF;zfA0;
zg1;zg2;zg3;zg4;zg5;zg6;zg7;zg8;zg9;zgA;zgB;zgC;zgD;zgE;zgF;zfB0;zg1;zg2;zg3;zg4;zg5;zg6;zg7;zg8;
zg9;zgA;zgB;zgC;zgD;zgE;zgF;zfC0;zg1;zg2;zg3;zg4;zg5;zg6;zg7;zg8;zg9;zgA;zgB;zgC;zgD;zgE;zgF;zfD0;
zg1;zg2;zg3;zg4;zg5;zg6;zg7;zg8;zg9;FB00:aLATIN SMALL LIGATURE FF;wI;wL;wFI;xL;vLONG S T;vST;
FB13:aARMENIAN SMALL LIGATURE MEN NOW;zdECH;zdINI;yVEW NOW;yMEN XEH;FB1D:aHEBREW LETTER YOD WITH H
IRIQ;hPOINT JUDEO-SPANISH VARIKA;hLIGATURE YIDDISH YOD YOD PATAH;iETTER ALTERNATIVE AYIN;
oWIDE ALEF;tDALET;tHE;tKAF;tLAMED;tFINAL MEM;tRESH;tTAV;oALTERNATIVE PLUS SIGN;
oSHIN WITH SHIN DOT;zIN DOT;yDAGESH AND SHIN DOT;zlIN DOT;oALEF WITH PATAH;yQAMATS;yMAPIQ;
oBET WITH DAGESH;oGIMEL WITH DAGESH;oDALET WITH DAGESH;oHE WITH MAPIQ;oVAV WITH DAGESH;
oZAYIN WITH DAGESH;FB38:oTET WITH DAGESH;oYOD WITH DAGESH;oFINAL KAF WITH DAGESH;oKAF WITH DAGESH;
oLAMED WITH DAGESH;FB3E:oMEM WITH DAGESH;FB40:oNUN WITH DAGESH;oSAMEKH WITH DAGESH;
FB43:oFINAL PE WITH DAGESH;oPE WITH DAGESH;FB46:oTSADI WITH DAGESH;oQOF WITH DAGESH;
oRESH WITH DAGESH;oSHIN WITH DAGESH;oTAV WITH DAGESH;oVAV WITH HOLAM;oBET WITH RAFE;
oKAF WITH RAFE;oPE WITH RAFE;iIGATURE ALEF LAMED;aARABIC LETTER ALEF WASLA ISOLATED FORM;
zFINAL FORM;oBEEH ISOLATED FORM;tFINAL FORM;tINITIAL FORM;tMEDIAL FORM;oPEH ISOLATED FORM;
sFINAL FORM;sINITIAL FORM;sMEDIAL FORM;oBEHEH ISOLATED FORM;uFINAL FORM;uINITIAL FORM;
uMEDIAL FORM;oTTEHEH ISOLATED FORM;vFINAL FORM;vINITIAL FORM;vMEDIAL FORM;pEHEH ISOLATED FORM;
uFINAL FORM;uINITIAL FORM;uMEDIAL FORM;pTEH ISOLATED FORM;tFINAL FORM;tINITIAL FORM;tMEDIAL FORM;
oVEH ISOLATED FORM;sFINAL FORM;sINITIAL FORM;sMEDIAL FORM;oPEHEH ISOLATED FORM;uFINAL FORM;
uINITIAL FORM;uMEDIAL FORM;oDYEH ISOLATED FORM;tFINAL FORM;tINITIAL FORM;tMEDIAL FORM;
oNYEH ISOLATED FORM;tFINAL FORM;tINITIAL FORM;tMEDIAL FORM;oTCHEH ISOLATED FORM;uFINAL FORM;
uINITIAL FORM;uMEDIAL FORM;tEH ISOLATED FORM;wFINAL FORM;wINITIAL FORM;wMEDIAL FORM;
oDDAHAL ISOLATED FORM;vFINAL FORM;pAHAL ISOLATED FORM;uFINAL FORM;pUL ISOLATED FORM;sFINAL FORM;
pDAL ISOLATED FORM;tFINAL FORM;oJEH ISOLATED FORM;sFINAL FORM;oRREH ISOLATED FORM;tFINAL FORM;
oKEHEH ISOLATED FORM;uFINAL FORM;uINITIAL FORM;uMEDIAL FORM;oGAF ISOLATED FORM;sFINAL FORM;
sINITIAL FORM;sMEDIAL FORM;pUEH ISOLATED FORM;tFINAL FORM;tINITIAL FORM;tMEDIAL FORM;
oNGOEH ISOLATED FORM;uFINAL FORM;uINITIAL FORM;uMEDIAL FORM;pOON GHUNNA ISOLATED FORM;
zbFINAL FORM;oRNOON ISOLATED FORM;uFINAL FORM;uINITIAL FORM;uMEDIAL FORM;oHEH WITH YEH ABOVE ISOLA
TED FORM;ziFINAL FORM;sGOAL ISOLATED FORM;xFINAL FORM;xINITIAL FORM;xMEDIAL FORM;
sDOACHASHMEE ISOLATED FORM;zfFINAL FORM;zfINITIAL FORM;zfMEDIAL FORM;oYEH BARREE ISOLATED FORM;
zFINAL FORM;zWITH HAMZA ABOVE ISOLATED FORM;zrFINAL FORM;hSYMBOL DOT ABOVE;sBELOW;oTWO DOTS ABOVE;
xBELOW;pHREE DOTS ABOVE;zBELOW;zPOINTING DOWNWARDS ABOVE;ztBELOW;oFOUR DOTS ABOVE;yBELOW;
oDOUBLE VERTICAL BAR BELOW;oTWO DOTS VERTICALLY ABOVE;zjBELOW;oRING;oSMALL TAH ABOVE;yBELOW;
oWASLA ABOVE;FBD3:hLETTER NG ISOLATED FORM;rFINAL FORM;rINITIAL FORM;rMEDIAL FORM;
oU ISOLATED FORM;qFINAL FORM;oOE ISOLATED FORM;rFINAL FORM;oYU ISOLATED FORM;rFINAL FORM;
oU WITH HAMZA ABOVE ISOLATED FORM;oVE ISOLATED FORM;rFINAL FORM;oKIRGHIZ OE ISOLATED FORM;
zFINAL FORM;wYU ISOLATED FORM;zFINAL FORM;oE ISOLATED FORM;qFINAL FORM;qINITIAL FORM;qMEDIAL FORM;
oUIGHUR KAZAKH KIRGHIZ ALEF MAKSURA INITIAL FORM;zyMEDIAL FORM;iIGATURE YEH WITH HAMZA ABOVE WIT
H ALEF ISOLATED FORM;zwFINAL FORM;zsE ISOLATED FORM;zuFINAL FORM;zrWAW ISOLATED FORM;zvFINAL FORM;
zrU ISOLATED FORM;ztFINAL FORM;zrOE ISOLATED FORM;zuFINAL FORM;zrYU ISOLATED FORM;zuFINAL FORM;
zrE ISOLATED FORM;ztFINAL FORM;ztINITIAL FORM;qUIGHUR KIRGHIZ YEH WITH HAMZA ABOVE WITH ALEF MAKSU
RA ISOLATED FORM;zzuFINAL FORM;zzuINITIAL FORM;iETTER FARSI YEH ISOLATED FORM;yFINAL FORM;
yINITIAL FORM;yMEDIAL FORM;iIGATURE YEH WITH HAMZA ABOVE WITH JEEM ISOLATED FORM;
zrHAH ISOLATED FORM;zrMEEM ISOLATED FORM;zrALEF MAKSURA ISOLATED FORM;zrYEH ISOLATED FORM;
qBEH WITH JEEM ISOLATED FORM;zHAH ISOLATED FORM;zKHAH ISOLATED FORM;zMEEM ISOLATED FORM;
zALEF MAKSURA ISOLATED FORM;zYEH ISOLATED FORM;qTEH WITH JEEM ISOLATED FORM;zHAH ISOLATED FORM;
zKHAH ISOLATED FORM;zMEEM ISOLATED FORM;zALEF MAKSURA ISOLATED FORM;zYEH ISOLATED FORM;
rHEH WITH JEEM ISOLATED FORM;zbMEEM ISOLATED FORM;zbALEF MAKSURA ISOLATED FORM;
zbYEH ISOLATED FORM;qJEEM WITH HAH ISOLATED FORM;zbMEEM ISOLATED FORM;qHAH WITH JEEM ISOLATED FORM
;zMEEM ISOLATED FORM;qKHAH WITH JEEM ISOLATED FORM;zbHAH ISOLATED FORM;zbMEEM ISOLATED FORM;
qSEEN WITH JEEM ISOLATED FORM;zbHAH ISOLATED FORM;zbKHAH ISOLATED FORM;zbMEEM ISOLATED FORM;
rAD WITH HAH ISOLATED FORM;zMEEM ISOLATED FORM;qDAD WITH JEEM ISOLATED FORM;zHAH ISOLATED FORM;
zKHAH ISOLATED FORM;zMEEM ISOLATED FORM;qTAH WITH HAH ISOLATED FORM;zMEEM ISOLATED FORM;
qZAH WITH MEEM ISOLATED FORM;qAIN WITH JEEM ISOLATED FORM;zMEEM ISOLATED FORM;
qGHAIN WITH JEEM ISOLATED FORM;zcMEEM ISOLATED FORM;qFEH WITH JEEM ISOLATED FORM;
zHAH ISOLATED FORM;zKHAH ISOLATED FORM;zMEEM ISOLATED FORM;zALEF MAKSURA ISOLATED FORM;
zYEH ISOLATED FORM;qQAF WITH HAH ISOLATED FORM;zMEEM ISOLATED FORM;zALEF MAKSURA ISOLATED FORM;
zYEH ISOLATED FORM;qKAF WITH ALEF ISOLATED FORM;zJEEM ISOLATED FORM;zHAH ISOLATED FORM;
zKHAH ISOLATED FORM;zLAM ISOLATED FORM;zMEEM ISOLATED FORM;zALEF MAKSURA ISOLATED FORM;
zYEH ISOLATED FORM;qLAM WITH JEEM ISOLATED FORM;zHAH ISOLATED FORM;zKHAH ISOLATED FORM;
zMEEM ISOLATED FORM;zALEF MAKSURA ISOLATED FORM;zYEH ISOLATED FORM;qMEEM WITH JEEM ISOLATED FORM;
zbHAH ISOLATED FORM;zbKHAH ISOLATED FORM;zbMEEM ISOLATED FORM;zbALEF MAKSURA ISOLATED FORM;
zbYEH ISOLATED FORM;qNOON WITH JEEM ISOLATED FORM;zbHAH ISOLATED FORM;zbKHAH ISOLATED FORM;
zbMEEM ISOLATED FORM;zbALEF MAKSURA ISOLATED FORM;zbYEH ISOLATED FORM;qHEH WITH JEEM ISOLATED FORM
;zMEEM ISOLATED FORM;zALEF MAKSURA ISOLATED FORM;zYEH ISOLATED FORM;qYEH WITH JEEM ISOLATED FORM;
zHAH ISOLATED FORM;zKHAH ISOLATED FORM;zMEEM ISOLATED FORM;zALEF MAKSURA ISOLATED FORM;
zYEH ISOLATED FORM;qTHAL WITH SUPERSCRIPT ALEF ISOLATED FORM;qREH WITH SUPERSCRIPT ALEF ISOLATED F
ORM;qALEF MAKSURA WITH SUPERSCRIPT ALEF ISOLATED FORM;qSHADDA WITH DAMMATAN ISOLATED FORM;
zdKASRATAN ISOLATED FORM;zdFATHA ISOLATED FORM;zdDAMMA ISOLATED FORM;zdKASRA ISOLATED FORM;
zdSUPERSCRIPT ALEF ISOLATED FORM;qYEH WITH HAMZA ABOVE WITH REH FINAL FORM;zrZAIN FINAL FORM;
zrMEEM FINAL FORM;zrNOON FINAL FORM;zrALEF MAKSURA FINAL FORM;zrYEH FINAL FORM;
qBEH WITH REH FINAL FORM;zZAIN FINAL FORM;zMEEM FINAL FORM;zNOON FINAL FORM;
zALEF MAKSURA FINAL FORM;zYEH FINAL FORM;qTEH WITH REH FINAL FORM;zZAIN FINAL FORM;
zMEEM FINAL FORM;zNOON FINAL FORM;zALEF MAKSURA FINAL FORM;zYEH FINAL FORM;
rHEH WITH REH FINAL FORM;zbZAIN FINAL FORM;zbMEEM FINAL FORM;zbNOON FINAL FORM;
zbALEF MAKSURA FINAL FORM;zbYEH FINAL FORM;qFEH WITH ALEF MAKSURA FINAL FORM;zYEH FINAL FORM;
qQAF WITH ALEF MAKSURA FINAL FORM;zYEH FINAL FORM;qKAF WITH ALEF FINAL FORM;zLAM FINAL FORM;
zMEEM FINAL FORM;zALEF MAKSURA FINAL FORM;zYEH FINAL FORM;qLAM WITH MEEM FINAL FORM;
zALEF MAKSURA FINAL FORM;zYEH FINAL FORM;qMEEM WITH ALEF FINAL FORM;zbMEEM FINAL FORM;
qNOON WITH REH FINAL FORM;zbZAIN FINAL FORM;zbMEEM FINAL FORM;zbNOON FINAL FORM;
zbALEF MAKSURA FINAL FORM;zbYEH FINAL FORM;qALEF MAKSURA WITH SUPERSCRIPT ALEF FINAL FORM;
qYEH WITH REH FINAL FORM;zZAIN FINAL FORM;zMEEM FINAL FORM;zNOON FINAL FORM;
zALEF MAKSURA FINAL FORM;zYEH FINAL FORM;zHAMZA ABOVE WITH JEEM INITIAL FORM;zrHAH INITIAL FORM;
zrKHAH INITIAL FORM;zrMEEM INITIAL FORM;zrHEH INITIAL FORM;qBEH WITH JEEM INITIAL FORM;
zHAH INITIAL FORM;zKHAH INITIAL FORM;zMEEM INITIAL FORM;zHEH INITIAL FORM;qTEH WITH JEEM INITIAL F
ORM;zHAH INITIAL FORM;zKHAH INITIAL FORM;zMEEM INITIAL FORM;zHEH INITIAL FORM;
rHEH WITH MEEM INITIAL FORM;qJEEM WITH HAH INITIAL FORM;zbMEEM INITIAL FORM;
qHAH WITH JEEM INITIAL FORM;zMEEM INITIAL FORM;qKHAH WITH JEEM INITIAL FORM;zbMEEM INITIAL FORM;
qSEEN WITH JEEM INITIAL FORM;zbHAH INITIAL FORM;zbKHAH INITIAL FORM;zbMEEM INITIAL FORM;
rAD WITH HAH INITIAL FORM;zKHAH INITIAL FORM;zMEEM INITIAL FORM;qDAD WITH JEEM INITIAL FORM;
zHAH INITIAL FORM;zKHAH INITIAL FORM;zMEEM INITIAL FORM;qTAH WITH HAH INITIAL FORM;
qZAH WITH MEEM INITIAL FORM;qAIN WITH JEEM INITIAL FORM;zMEEM INITIAL FORM;
qGHAIN WITH JEEM INITIAL FORM;zcMEEM INITIAL FORM;qFEH WITH JEEM INITIAL FORM;zHAH INITIAL FORM;
zKHAH INITIAL FORM;zMEEM INITIAL FORM;qQAF WITH HAH INITIAL FORM;zMEEM INITIAL FORM;
qKAF WITH JEEM INITIAL FORM;zHAH INITIAL FORM;zKHAH INITIAL FORM;zLAM INITIAL FORM;
zMEEM INITIAL FORM;qLAM WITH JEEM INITIAL FORM;zHAH INITIAL FORM;zKHAH INITIAL FORM;
zMEEM INITIAL FORM;zHEH INITIAL FORM;qMEEM WITH JEEM INITIAL FORM;zbHAH INITIAL FORM;
zbKHAH INITIAL FORM;zbMEEM INITIAL FORM;qNOON WITH JEEM INITIAL FORM;zbHAH INITIAL FORM;
zbKHAH INITIAL FORM;zbMEEM INITIAL FORM;zbHEH INITIAL FORM;qHEH WITH JEEM INITIAL FORM;
zMEEM INITIAL FORM;zSUPERSCRIPT ALEF INITIAL FORM;qYEH WITH JEEM INITIAL FORM;zHAH INITIAL FORM;
zKHAH INITIAL FORM;zMEEM INITIAL FORM;zHEH INITIAL FORM;zbAMZA ABOVE WITH MEEM MEDIAL FORM;
zrHEH MEDIAL FORM;qBEH WITH MEEM MEDIAL FORM;zHEH MEDIAL FORM;qTEH WITH MEEM MEDIAL FORM;
zHEH MEDIAL FORM;rHEH WITH MEEM MEDIAL FORM;zbHEH MEDIAL FORM;qSEEN WITH MEEM MEDIAL FORM;
zbHEH MEDIAL FORM;rHEEN WITH MEEM MEDIAL FORM;zcHEH MEDIAL FORM;qKAF WITH LAM MEDIAL FORM;
zMEEM MEDIAL FORM;qLAM WITH MEEM MEDIAL FORM;qNOON WITH MEEM MEDIAL FORM;zbHEH MEDIAL FORM;
qYEH WITH MEEM MEDIAL FORM;zHEH MEDIAL FORM;qSHADDA WITH FATHA MEDIAL FORM;zdDAMMA MEDIAL FORM;
zdKASRA MEDIAL FORM;qTAH WITH ALEF MAKSURA ISOLATED FORM;zYEH ISOLATED FORM;
qAIN WITH ALEF MAKSURA ISOLATED FORM;zYEH ISOLATED FORM;qGHAIN WITH ALEF MAKSURA ISOLATED FORM;
zcYEH ISOLATED FORM;qSEEN WITH ALEF MAKSURA ISOLATED FORM;zbYEH ISOLATED FORM;
rHEEN WITH ALEF MAKSURA ISOLATED FORM;zcYEH ISOLATED FORM;qHAH WITH ALEF MAKSURA ISOLATED FORM;
zYEH ISOLATED FORM;qJEEM WITH ALEF MAKSURA ISOLATED FORM;zbYEH ISOLATED FORM;
qKHAH WITH ALEF MAKSURA ISOLATED FORM;zbYEH ISOLATED FORM;qSAD WITH ALEF MAKSURA ISOLATED FORM;
zYEH ISOLATED FORM;qDAD WITH ALEF MAKSURA ISOLATED FORM;zYEH ISOLATED FORM;
qSHEEN WITH JEEM ISOLATED FORM;zcHAH ISOLATED FORM;zcKHAH ISOLATED FORM;zcMEEM ISOLATED FORM;
zcREH ISOLATED FORM;rEEN WITH REH ISOLATED FORM;rAD WITH REH ISOLATED FORM;
qDAD WITH REH ISOLATED FORM;qTAH WITH ALEF MAKSURA FINAL FORM;zYEH FINAL FORM;
qAIN WITH ALEF MAKSURA FINAL FORM;zYEH FINAL FORM;qGHAIN WITH ALEF MAKSURA FINAL FORM;
zcYEH FINAL FORM;qSEEN WITH ALEF MAKSURA FINAL FORM;zbYEH FINAL FORM;rHEEN WITH ALEF MAKSURA FINA
L FORM;zcYEH FINAL FORM;qHAH WITH ALEF MAKSURA FINAL FORM;zYEH FINAL FORM;qJEEM WITH ALEF MAKSUR
A FINAL FORM;zbYEH FINAL FORM;qKHAH WITH ALEF MAKSURA FINAL FORM;zbYEH FINAL FORM;
qSAD WITH ALEF MAKSURA FINAL FORM;zYEH FINAL FORM;qDAD WITH ALEF MAKSURA FINAL FORM;
zYEH FINAL FORM;qSHEEN WITH JEEM FINAL FORM;zcHAH FINAL FORM;zcKHAH FINAL FORM;zcMEEM FINAL FORM;
zcREH FINAL FORM;rEEN WITH REH FINAL FORM;rAD WITH REH FINAL FORM;qDAD WITH REH FINAL FORM;
qSHEEN WITH JEEM INITIAL FORM;zcHAH INITIAL FORM;zcKHAH INITIAL FORM;zcMEEM INITIAL FORM;
rEEN WITH HEH INITIAL FORM;rHEEN WITH HEH INITIAL FORM;qTAH WITH MEEM INITIAL FORM;
qSEEN WITH JEEM MEDIAL FORM;zbHAH MEDIAL FORM;zbKHAH MEDIAL FORM;rHEEN WITH JEEM MEDIAL FORM;
zcHAH MEDIAL FORM;zcKHAH MEDIAL FORM;qTAH WITH MEEM MEDIAL FORM;qZAH WITH MEEM MEDIAL FORM;
qALEF WITH FATHATAN FINAL FORM;zkISOLATED FORM;aORNATE LEFT PARENTHESIS;hRIGHT PARENTHESIS;
aARABIC LIGATURE RAHIMAHU ALLAAH;sDI ALLAAHU ANH;zhAA;zhUM;zjAA;ziNNA;qSALLALLAAHU ALAYHI WA-AALIH
;qALAYHI AS-SALAAM;wM AS-SALAAM;xAA AS-SALAAM;w AS-SALAATU WAS-SALAAM;qQUDDISA SIRRAH;
qSALLALLAHU ALAYHI WAAALIHEE WA-SALLAM;qALAYHAA AS-SALAAM;qTABAARAKA WA-TAAALAA;qRAHIMAHUM ALLAAH;
qTEH WITH JEEM WITH MEEM INITIAL FORM;zHAH WITH JEEM FINAL FORM;zoINITIAL FORM;
zjMEEM INITIAL FORM;zKHAH WITH MEEM INITIAL FORM;zMEEM WITH JEEM INITIAL FORM;zkHAH INITIAL FORM;
zkKHAH INITIAL FORM;qJEEM WITH MEEM WITH HAH FINAL FORM;zpINITIAL FORM;qHAH WITH MEEM WITH YEH FIN
AL FORM;zkALEF MAKSURA FINAL FORM;qSEEN WITH HAH WITH JEEM INITIAL FORM;zbJEEM WITH HAH INITIAL FO
RM;zlALEF MAKSURA FINAL FORM;zbMEEM WITH HAH FINAL FORM;zpINITIAL FORM;zlJEEM INITIAL FORM;
zlMEEM FINAL FORM;zqINITIAL FORM;rAD WITH HAH WITH HAH FINAL FORM;znINITIAL FORM;
zMEEM WITH MEEM FINAL FORM;rHEEN WITH HAH WITH MEEM FINAL FORM;zqINITIAL FORM;
zcJEEM WITH YEH FINAL FORM;zcMEEM WITH KHAH FINAL FORM;zrINITIAL FORM;zmMEEM FINAL FORM;
zrINITIAL FORM;qDAD WITH HAH WITH ALEF MAKSURA FINAL FORM;zKHAH WITH MEEM FINAL FORM;
zpINITIAL FORM;qTAH WITH MEEM WITH HAH FINAL FORM;zoINITIAL FORM;zkMEEM INITIAL FORM;
zkYEH FINAL FORM;qAIN WITH JEEM WITH MEEM FINAL FORM;zMEEM WITH MEEM FINAL FORM;zpINITIAL FORM;
zkALEF MAKSURA FINAL FORM;qGHAIN WITH MEEM WITH MEEM FINAL FORM;zmYEH FINAL FORM;
zmALEF MAKSURA FINAL FORM;qFEH WITH KHAH WITH MEEM FINAL FORM;zpINITIAL FORM;
qQAF WITH MEEM WITH HAH FINAL FORM;zkMEEM FINAL FORM;qLAM WITH HAH WITH MEEM FINAL FORM;
zjYEH FINAL FORM;zjALEF MAKSURA FINAL FORM;zJEEM WITH JEEM INITIAL FORM;zpFINAL FORM;
zKHAH WITH MEEM FINAL FORM;zpINITIAL FORM;zMEEM WITH HAH FINAL FORM;zoINITIAL FORM;
qMEEM WITH HAH WITH JEEM INITIAL FORM;zkMEEM INITIAL FORM;zkYEH FINAL FORM;
zbJEEM WITH HAH INITIAL FORM;zlMEEM INITIAL FORM;zbKHAH WITH JEEM INITIAL FORM;
zlMEEM INITIAL FORM;FD92:zbJEEM WITH KHAH INITIAL FORM;qHEH WITH MEEM WITH JEEM INITIAL FORM;
zkMEEM INITIAL FORM;qNOON WITH HAH WITH MEEM INITIAL FORM;zkALEF MAKSURA FINAL FORM;
zbJEEM WITH MEEM FINAL FORM;zqINITIAL FORM;zlALEF MAKSURA FINAL FORM;zbMEEM WITH YEH FINAL FORM;
zlALEF MAKSURA FINAL FORM;qYEH WITH MEEM WITH MEEM FINAL FORM;zpINITIAL FORM;
qBEH WITH KHAH WITH YEH FINAL FORM;qTEH WITH JEEM WITH YEH FINAL FORM;zkALEF MAKSURA FINAL FORM;
zKHAH WITH YEH FINAL FORM;zkALEF MAKSURA FINAL FORM;zMEEM WITH YEH FINAL FORM;
zkALEF MAKSURA FINAL FORM;qJEEM WITH MEEM WITH YEH FINAL FORM;zbHAH WITH ALEF MAKSURA FINAL FORM;
zbMEEM WITH ALEF MAKSURA FINAL FORM;qSEEN WITH KHAH WITH ALEF MAKSURA FINAL FORM;
rAD WITH HAH WITH YEH FINAL FORM;rHEEN WITH HAH WITH YEH FINAL FORM;qDAD WITH HAH WITH YEH FINAL F
ORM;qLAM WITH JEEM WITH YEH FINAL FORM;zMEEM WITH YEH FINAL FORM;qYEH WITH HAH WITH YEH FINAL FORM
;zJEEM WITH YEH FINAL FORM;zMEEM WITH YEH FINAL FORM;qMEEM WITH MEEM WITH YEH FINAL FORM;
qQAF WITH MEEM WITH YEH FINAL FORM;qNOON WITH HAH WITH YEH FINAL FORM;qQAF WITH MEEM WITH HAH INIT
IAL FORM;qLAM WITH HAH WITH MEEM INITIAL FORM;qAIN WITH MEEM WITH YEH FINAL FORM;
qKAF WITH MEEM WITH YEH FINAL FORM;qNOON WITH JEEM WITH HAH INITIAL FORM;qMEEM WITH KHAH WITH YE
H FINAL FORM;qLAM WITH JEEM WITH MEEM INITIAL FORM;qKAF WITH MEEM WITH MEEM FINAL FORM;
qLAM WITH JEEM WITH MEEM FINAL FORM;qNOON WITH JEEM WITH HAH FINAL FORM;qJEEM WITH HAH WITH YEH FI
NAL FORM;qHAH WITH JEEM WITH YEH FINAL FORM;qMEEM WITH JEEM WITH YEH FINAL FORM;
qFEH WITH MEEM WITH YEH FINAL FORM;qBEH WITH HAH WITH YEH FINAL FORM;qKAF WITH MEEM WITH MEEM INIT
IAL FORM;qAIN WITH JEEM WITH MEEM INITIAL FORM;qSAD WITH MEEM WITH MEEM INITIAL FORM;
rEEN WITH KHAH WITH YEH FINAL FORM;qNOON WITH JEEM WITH YEH FINAL FORM;FDCF:qSALAAMUHU ALAYNAA;
FDF0:tLA USED AS KORANIC STOP SIGN ISOLATED FORM;qQALA USED AS KORANIC STOP SIGN ISOLATED FORM;
qALLAH ISOLATED FORM;rKBAR ISOLATED FORM;qMOHAMMAD ISOLATED FORM;qSALAM ISOLATED FORM;
qRASOUL ISOLATED FORM;qALAYHE ISOLATED FORM;qWASALLAM ISOLATED FORM;qSALLA ISOLATED FORM;
vLLAHOU ALAYHE WASALLAM;qJALLAJALALOUHOU;aRIAL SIGN;aARABIC LIGATURE BISMILLAH AR-RAHMAN AR-RAHEEM
;qSUBHAANAHU WA TAAALAA;qAZZA WA JALL;aVARIATION SELECTOR-1;t2;t3;t4;t5;t6;t7;t8;t9;t10;u1;u2;u3;
u4;u5;u6;aPRESENTATION FORM FOR VERTICAL COMMA;zgIDEOGRAPHIC COMMA;zsFULL STOP;zgCOLON;
zgSEMICOLON;zgEXCLAMATION MARK;zgQUESTION MARK;zgLEFT WHITE LENTICULAR BRACKET;
zgRIGHT WHITE LENTICULAR BRAKCET;zgHORIZONTAL ELLIPSIS;FE20:aCOMBINING LIGATURE LEFT HALF;
tRIGHT HALF;kDOUBLE TILDE LEFT HALF;xRIGHT HALF;kMACRON LEFT HALF;rRIGHT HALF;kCONJOINING MACRON;
kLIGATURE LEFT HALF BELOW;tRIGHT HALF BELOW;kTILDE LEFT HALF BELOW;qRIGHT HALF BELOW;
kMACRON LEFT HALF BELOW;rRIGHT HALF BELOW;kCONJOINING MACRON BELOW;lYRILLIC TITLO LEFT HALF;
zRIGHT HALF;aPRESENTATION FORM FOR VERTICAL TWO DOT LEADER;zgEM DASH;zhN DASH;zgLOW LINE;
zgWAVY LOW LINE;zgLEFT PARENTHESIS;zgRIGHT PARENTHESIS;zgLEFT CURLY BRACKET;zgRIGHT CURLY BRACKET;
zgLEFT TORTOISE SHELL BRACKET;zgRIGHT TORTOISE SHELL BRACKET;zgLEFT BLACK LENTICULAR BRACKET;
zgRIGHT BLACK LENTICULAR BRACKET;zgLEFT DOUBLE ANGLE BRACKET;zgRIGHT DOUBLE ANGLE BRACKET;
zgLEFT ANGLE BRACKET;zgRIGHT ANGLE BRACKET;zgLEFT CORNER BRACKET;zgRIGHT CORNER BRACKET;
zgLEFT WHITE CORNER BRACKET;zgRIGHT WHITE CORNER BRACKET;aSESAME DOT;aWHITE SESAME DOT;
aPRESENTATION FORM FOR VERTICAL LEFT SQUARE BRACKET;zgRIGHT SQUARE BRACKET;aDASHED OVERLINE;
aCENTRELINE OVERLINE;aWAVY OVERLINE;aDOUBLE WAVY OVERLINE;bASHED LOW LINE;aCENTRELINE LOW LINE;
aWAVY LOW LINE;aSMALL COMMA;gIDEOGRAPHIC COMMA;gFULL STOP;FE54:gSEMICOLON;gCOLON;gQUESTION MARK;
gEXCLAMATION MARK;hM DASH;gLEFT PARENTHESIS;gRIGHT PARENTHESIS;gLEFT CURLY BRACKET;
gRIGHT CURLY BRACKET;gLEFT TORTOISE SHELL BRACKET;gRIGHT TORTOISE SHELL BRACKET;gNUMBER SIGN;
gAMPERSAND;hSTERISK;gPLUS SIGN;gHYPHEN-MINUS;gLESS-THAN SIGN;gGREATER-THAN SIGN;gEQUALS SIGN;
FE68:gREVERSE SOLIDUS;gDOLLAR SIGN;gPERCENT SIGN;gCOMMERCIAL AT;FE70:aARABIC FATHATAN ISOLATED FOR
M;hTATWEEL WITH FATHATAN ABOVE;hDAMMATAN ISOLATED FORM;hTAIL FRAGMENT;hKASRATAN ISOLATED FORM;
FE76:hFATHA ISOLATED FORM;nMEDIAL FORM;hDAMMA ISOLATED FORM;nMEDIAL FORM;hKASRA ISOLATED FORM;
nMEDIAL FORM;hSHADDA ISOLATED FORM;oMEDIAL FORM;iUKUN ISOLATED FORM;nMEDIAL FORM;
hLETTER HAMZA ISOLATED FORM;oALEF WITH MADDA ABOVE ISOLATED FORM;zlFINAL FORM;
yHAMZA ABOVE ISOLATED FORM;zlFINAL FORM;oWAW WITH HAMZA ABOVE ISOLATED FORM;zkFINAL FORM;
oALEF WITH HAMZA BELOW ISOLATED FORM;zlFINAL FORM;oYEH WITH HAMZA ABOVE ISOLATED FORM;
zkFINAL FORM;zkINITIAL FORM;zkMEDIAL FORM;oALEF ISOLATED FORM;tFINAL FORM;oBEH ISOLATED FORM;
sFINAL FORM;sINITIAL FORM;sMEDIAL FORM;oTEH MARBUTA ISOLATED FORM;zbFINAL FORM;sISOLATED FORM;
sFINAL FORM;sINITIAL FORM;sMEDIAL FORM;pHEH ISOLATED FORM;tFINAL FORM;tINITIAL FORM;tMEDIAL FORM;
oJEEM ISOLATED FORM;tFINAL FORM;tINITIAL FORM;tMEDIAL FORM;oHAH ISOLATED FORM;sFINAL FORM;
sINITIAL FORM;sMEDIAL FORM;oKHAH ISOLATED FORM;tFINAL FORM;tINITIAL FORM;tMEDIAL FORM;
oDAL ISOLATED FORM;sFINAL FORM;oTHAL ISOLATED FORM;tFINAL FORM;oREH ISOLATED FORM;sFINAL FORM;
oZAIN ISOLATED FORM;tFINAL FORM;oSEEN ISOLATED FORM;tFINAL FORM;tINITIAL FORM;tMEDIAL FORM;
pHEEN ISOLATED FORM;uFINAL FORM;uINITIAL FORM;uMEDIAL FORM;pAD ISOLATED FORM;sFINAL FORM;
sINITIAL FORM;sMEDIAL FORM;oDAD ISOLATED FORM;sFINAL FORM;sINITIAL FORM;sMEDIAL FORM;
oTAH ISOLATED FORM;sFINAL FORM;sINITIAL FORM;sMEDIAL FORM;oZAH ISOLATED FORM;sFINAL FORM;
sINITIAL FORM;sMEDIAL FORM;oAIN ISOLATED FORM;sFINAL FORM;sINITIAL FORM;sMEDIAL FORM;
oGHAIN ISOLATED FORM;uFINAL FORM;uINITIAL FORM;uMEDIAL FORM;oFEH ISOLATED FORM;sFINAL FORM;
sINITIAL FORM;sMEDIAL FORM;oQAF ISOLATED FORM;sFINAL FORM;sINITIAL FORM;sMEDIAL FORM;
oKAF ISOLATED FORM;sFINAL FORM;sINITIAL FORM;sMEDIAL FORM;oLAM ISOLATED FORM;sFINAL FORM;
sINITIAL FORM;sMEDIAL FORM;oMEEM ISOLATED FORM;tFINAL FORM;tINITIAL FORM;tMEDIAL FORM;
oNOON ISOLATED FORM;tFINAL FORM;tINITIAL FORM;tMEDIAL FORM;oHEH ISOLATED FORM;sFINAL FORM;
sINITIAL FORM;sMEDIAL FORM;oWAW ISOLATED FORM;sFINAL FORM;oALEF MAKSURA ISOLATED FORM;
zcFINAL FORM;oYEH ISOLATED FORM;sFINAL FORM;sINITIAL FORM;sMEDIAL FORM;iIGATURE LAM WITH ALEF WIT
H MADDA ABOVE ISOLATED FORM;zwFINAL FORM;zkHAMZA ABOVE ISOLATED FORM;zwFINAL FORM;
zqBELOW ISOLATED FORM;zwFINAL FORM;zfISOLATED FORM;zfFINAL FORM;FEFF:aZERO WIDTH NO-BREAK SPACE;
FF01:aFULLWIDTH EXCLAMATION MARK;kQUOTATION MARK;kNUMBER SIGN;kDOLLAR SIGN;kPERCENT SIGN;
kAMPERSAND;lPOSTROPHE;kLEFT PARENTHESIS;kRIGHT PARENTHESIS;kASTERISK;kPLUS SIGN;kCOMMA;
kHYPHEN-MINUS;kFULL STOP;kSOLIDUS;kDIGIT ZERO;qONE;qTWO;rHREE;qFOUR;rIVE;qSIX;rEVEN;qEIGHT;qNINE;
kCOLON;kSEMICOLON;kLESS-THAN SIGN;kEQUALS SIGN;kGREATER-THAN SIGN;kQUESTION MARK;kCOMMERCIAL AT;
kLATIN CAPITAL LETTER A;zgB;zgC;zgD;zgE;zgF;zgG;zgH;zgI;zgJ;zgK;zgL;zgM;zgN;zgO;zgP;zgQ;zgR;zgS;
zgT;zgU;zgV;zgW;zgX;zgY;zgZ;lEFT SQUARE BRACKET;kREVERSE SOLIDUS;lIGHT SQUARE BRACKET;
kCIRCUMFLEX ACCENT;kLOW LINE;kGRAVE ACCENT;kLATIN SMALL LETTER A;zeB;zeC;zeD;zeE;zeF;zeG;zeH;zeI;
zeJ;zeK;zeL;zeM;zeN;zeO;zeP;zeQ;zeR;zeS;zeT;zeU;zeV;zeW;zeX;zeY;zeZ;lEFT CURLY BRACKET;
kVERTICAL LINE;kRIGHT CURLY BRACKET;kTILDE;kLEFT WHITE PARENTHESIS;kRIGHT WHITE PARENTHESIS;
aHALFWIDTH IDEOGRAPHIC FULL STOP;kLEFT CORNER BRACKET;kRIGHT CORNER BRACKET;kIDEOGRAPHIC COMMA;
kKATAKANA MIDDLE DOT;tLETTER WO;zbSMALL A;zhI;zhU;zhE;zhO;zhYA;ziU;ziO;zhTU;
s-HIRAGANA PROLONGED SOUND MARK;s LETTER A;zbI;zbU;zbE;zbO;zbKA;zcI;zcU;zcE;zcO;zbSA;zcI;zcU;zcE;
zcO;zbTA;zcI;zcU;zcE;zcO;zbNA;zcI;zcU;zcE;zcO;zbHA;zcI;zcU;zcE;zcO;zbMA;zcI;zcU;zcE;zcO;zbYA;zcU;
zcO;zbRA;zcI;zcU;zcE;zcO;zbWA;zbN;tVOICED SOUND MARK;tSEMI-VOICED SOUND MARK;kHANGUL FILLER;
rLETTER KIYEOK;ySSANGKIYEOK;yKIYEOK-SIOS;yNIEUN;ze-CIEUC;zfHIEUH;yTIKEUT;ySSANGTIKEUT;yRIEUL;
ze-KIYEOK;zfMIEUM;zfPIEUP;zfSIOS;zfTHIEUTH;zfPHIEUPH;zfHIEUH;yMIEUM;yPIEUP;ySSANGPIEUP;
yPIEUP-SIOS;ySIOS;zSANGSIOS;yIEUNG;yCIEUC;ySSANGCIEUC;yCHIEUCH;yKHIEUKH;yTHIEUTH;yPHIEUPH;yHIEUH;
FFC2:yA;zE;yYA;zbE;yEO;z;FFCA:yYEO;zb;yO;yWA;zbE;yOE;FFD2:yYO;yU;yWEO;zb;zI;yYU;FFDA:yEU;yYI;yI;
FFE0:aFULLWIDTH CENT SIGN;kPOUND SIGN;kNOT SIGN;kMACRON;kBROKEN BAR;kYEN SIGN;kWON SIGN;
FFE8:aHALFWIDTH FORMS LIGHT VERTICAL;kLEFTWARDS ARROW;kUPWARDS ARROW;kRIGHTWARDS ARROW;
kDOWNWARDS ARROW;kBLACK SQUARE;kWHITE CIRCLE;FFF9:aINTERLINEAR ANNOTATION ANCHOR;xSEPARATOR;
xTERMINATOR;aOBJECT REPLACEMENT CHARACTER;aREPLACEMENT CHARACTER"

end HttpTemplates.Text.CharacterName
