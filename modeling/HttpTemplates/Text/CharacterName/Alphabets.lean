/-!
# Character names: alphabets

The names of the characters with code points below U+2000. The format is that of
`Text.codeNamed?`.
-/

namespace HttpTemplates.Text.CharacterName

/-- The names of the characters with code points below U+2000. -/
def alphabets : String :=
  "20:aSPACE;aEXCLAMATION MARK;aQUOTATION MARK;aNUMBER SIGN;aDOLLAR SIGN;aPERCENT SIGN;aAMPERSAND;
bPOSTROPHE;aLEFT PARENTHESIS;aRIGHT PARENTHESIS;aASTERISK;aPLUS SIGN;aCOMMA;aHYPHEN-MINUS;
aFULL STOP;aSOLIDUS;aDIGIT ZERO;gONE;gTWO;hHREE;gFOUR;hIVE;gSIX;hEVEN;gEIGHT;gNINE;aCOLON;
aSEMICOLON;aLESS-THAN SIGN;aEQUALS SIGN;aGREATER-THAN SIGN;aQUESTION MARK;aCOMMERCIAL AT;
aLATIN CAPITAL LETTER A;vB;vC;vD;vE;vF;vG;vH;vI;vJ;vK;vL;vM;vN;vO;vP;vQ;vR;vS;vT;vU;vV;vW;vX;vY;
vZ;bEFT SQUARE BRACKET;aREVERSE SOLIDUS;bIGHT SQUARE BRACKET;aCIRCUMFLEX ACCENT;aLOW LINE;
aGRAVE ACCENT;aLATIN SMALL LETTER A;tB;tC;tD;tE;tF;tG;tH;tI;tJ;tK;tL;tM;tN;tO;tP;tQ;tR;tS;tT;tU;
tV;tW;tX;tY;tZ;bEFT CURLY BRACKET;aVERTICAL LINE;aRIGHT CURLY BRACKET;aTILDE;A0:aNO-BREAK SPACE;
aINVERTED EXCLAMATION MARK;aCENT SIGN;aPOUND SIGN;aCURRENCY SIGN;aYEN SIGN;aBROKEN BAR;
aSECTION SIGN;aDIAERESIS;aCOPY
RIGHT SIGN;aFEMININE ORDINAL INDICATOR;aLEFT-POINTING DOUBLE ANGLE QUOTATION MARK;aNOT SIGN;
aSOFT HYPHEN;aREGISTERED SIGN;aMACRON;aDEGREE SIGN;aPLUS-MINUS SIGN;aSUPERSCRIPT TWO;nHREE;
aACUTE ACCENT;aMICRO SIGN;aPILCROW SIGN;aMIDDLE DOT;aCEDILLA;aSUPERSCRIPT ONE;
aMASCULINE ORDINAL INDICATOR;aRIGHT-POINTING DOUBLE ANGLE QUOTATION MARK;aVULGAR FRACTION ONE QUAR
TER;uHALF;qTHREE QUARTERS;aINVERTED QUESTION MARK;aLATIN CAPITAL LETTER A WITH GRAVE;zdACUTE;
zdCIRCUMFLEX;zdTILDE;zdDIAERESIS;zdRING ABOVE;wE;vC WITH CEDILLA;vE WITH GRAVE;zdACUTE;
zdCIRCUMFLEX;zdDIAERESIS;vI WITH GRAVE;zdACUTE;zdCIRCUMFLEX;zdDIAERESIS;vETH;vN WITH TILDE;
vO WITH GRAVE;zdACUTE;zdCIRCUMFLEX;zdTILDE;zdDIAERESIS;aMULTIPLICATION SIGN;
aLATIN CAPITAL LETTER O WITH STROKE;vU WITH GRAVE;zdACUTE;zdCIRCUMFLEX;zdDIAERESIS;vY WITH ACUTE;
vTHORN;gSMALL LETTER SHARP S;tA WITH GRAVE;zbACUTE;zbCIRCUMFLEX;zbTILDE;zbDIAERESIS;zbRING ABOVE;
uE;tC WITH CEDILLA;tE WITH GRAVE;zbACUTE;zbCIRCUMFLEX;zbDIAERESIS;tI WITH GRAVE;zbACUTE;
zbCIRCUMFLEX;zbDIAERESIS;tETH;tN WITH TILDE;tO WITH GRAVE;zbACUTE;zbCIRCUMFLEX;zbTILDE;
zbDIAERESIS;aDIVISION SIGN;aLATIN SMALL LETTER O WITH STROKE;tU WITH GRAVE;zbACUTE;zbCIRCUMFLEX;
zbDIAERESIS;tY WITH ACUTE;tTHORN;tY WITH DIAERESIS;gCAPITAL LETTER A WITH MACRON;
gSMALL LETTER A WITH MACRON;gCAPITAL LETTER A WITH BREVE;gSMALL LETTER A WITH BREVE;
gCAPITAL LETTER A WITH OGONEK;gSMALL LETTER A WITH OGONEK;gCAPITAL LETTER C WITH ACUTE;
gSMALL LETTER C WITH ACUTE;gCAPITAL LETTER C WITH CIRCUMFLEX;gSMALL LETTER C WITH CIRCUMFLEX;
gCAPITAL LETTER C WITH DOT ABOVE;gSMALL LETTER C WITH DOT ABOVE;gCAPITAL LETTER C WITH CARON;
gSMALL LETTER C WITH CARON;gCAPITAL LETTER D WITH CARON;gSMALL LETTER D WITH CARON;
gCAPITAL LETTER D WITH STROKE;gSMALL LETTER D WITH STROKE;gCAPITAL LETTER E WITH MACRON;
gSMALL LETTER E WITH MACRON;gCAPITAL LETTER E WITH BREVE;gSMALL LETTER E WITH BREVE;
gCAPITAL LETTER E WITH DOT ABOVE;gSMALL LETTER E WITH DOT ABOVE;gCAPITAL LETTER E WITH OGONEK;
gSMALL LETTER E WITH OGONEK;gCAPITAL LETTER E WITH CARON;gSMALL LETTER E WITH CARON;
gCAPITAL LETTER G WITH CIRCUMFLEX;gSMALL LETTER G WITH CIRCUMFLEX;gCAPITAL LETTER G WITH BREVE;
gSMALL LETTER G WITH BREVE;gCAPITAL LETTER G WITH DOT ABOVE;gSMALL LETTER G WITH DOT ABOVE;
gCAPITAL LETTER G WITH CEDILLA;gSMALL LETTER G WITH CEDILLA;gCAPITAL LETTER H WITH CIRCUMFLEX;
gSMALL LETTER H WITH CIRCUMFLEX;gCAPITAL LETTER H WITH STROKE;gSMALL LETTER H WITH STROKE;
gCAPITAL LETTER I WITH TILDE;gSMALL LETTER I WITH TILDE;gCAPITAL LETTER I WITH MACRON;
gSMALL LETTER I WITH MACRON;gCAPITAL LETTER I WITH BREVE;gSMALL LETTER I WITH BREVE;
gCAPITAL LETTER I WITH OGONEK;gSMALL LETTER I WITH OGONEK;gCAPITAL LETTER I WITH DOT ABOVE;
gSMALL LETTER DOTLESS I;gCAPITAL LIGATURE IJ;gSMALL LIGATURE IJ;gCAPITAL LETTER J WITH CIRCUMFLEX;
gSMALL LETTER J WITH CIRCUMFLEX;gCAPITAL LETTER K WITH CEDILLA;gSMALL LETTER K WITH CEDILLA;uRA;
gCAPITAL LETTER L WITH ACUTE;gSMALL LETTER L WITH ACUTE;gCAPITAL LETTER L WITH CEDILLA;
gSMALL LETTER L WITH CEDILLA;gCAPITAL LETTER L WITH CARON;gSMALL LETTER L WITH CARON;
gCAPITAL LETTER L WITH MIDDLE DOT;gSMALL LETTER L WITH MIDDLE DOT;gCAPITAL LETTER L WITH STROKE;
gSMALL LETTER L WITH STROKE;gCAPITAL LETTER N WITH ACUTE;gSMALL LETTER N WITH ACUTE;
gCAPITAL LETTER N WITH CEDILLA;gSMALL LETTER N WITH CEDILLA;gCAPITAL LETTER N WITH CARON;
gSMALL LETTER N WITH CARON;vPRECEDED BY APOSTROPHE;gCAPITAL LETTER ENG;gSMALL LETTER ENG;
gCAPITAL LETTER O WITH MACRON;gSMALL LETTER O WITH MACRON;gCAPITAL LETTER O WITH BREVE;
gSMALL LETTER O WITH BREVE;gCAPITAL LETTER O WITH DOUBLE ACUTE;gSMALL LETTER O WITH DOUBLE ACUTE;
gCAPITAL LIGATURE OE;gSMALL LIGATURE OE;gCAPITAL LETTER R WITH ACUTE;gSMALL LETTER R WITH ACUTE;
gCAPITAL LETTER R WITH CEDILLA;gSMALL LETTER R WITH CEDILLA;gCAPITAL LETTER R WITH CARON;
gSMALL LETTER R WITH CARON;gCAPITAL LETTER S WITH ACUTE;gSMALL LETTER S WITH ACUTE;
gCAPITAL LETTER S WITH CIRCUMFLEX;gSMALL LETTER S WITH CIRCUMFLEX;gCAPITAL LETTER S WITH CEDILLA;
gSMALL LETTER S WITH CEDILLA;gCAPITAL LETTER S WITH CARON;gSMALL LETTER S WITH CARON;
gCAPITAL LETTER T WITH CEDILLA;gSMALL LETTER T WITH CEDILLA;gCAPITAL LETTER T WITH CARON;
gSMALL LETTER T WITH CARON;gCAPITAL LETTER T WITH STROKE;gSMALL LETTER T WITH STROKE;
gCAPITAL LETTER U WITH TILDE;gSMALL LETTER U WITH TILDE;gCAPITAL LETTER U WITH MACRON;
gSMALL LETTER U WITH MACRON;gCAPITAL LETTER U WITH BREVE;gSMALL LETTER U WITH BREVE;
gCAPITAL LETTER U WITH RING ABOVE;gSMALL LETTER U WITH RING ABOVE;gCAPITAL LETTER U WITH DOUBLE AC
UTE;gSMALL LETTER U WITH DOUBLE ACUTE;gCAPITAL LETTER U WITH OGONEK;gSMALL LETTER U WITH OGONEK;
gCAPITAL LETTER W WITH CIRCUMFLEX;gSMALL LETTER W WITH CIRCUMFLEX;gCAPITAL LETTER Y WITH CIRCUMFLE
X;gSMALL LETTER Y WITH CIRCUMFLEX;gCAPITAL LETTER Y WITH DIAERESIS;vZ WITH ACUTE;
gSMALL LETTER Z WITH ACUTE;gCAPITAL LETTER Z WITH DOT ABOVE;gSMALL LETTER Z WITH DOT ABOVE;
gCAPITAL LETTER Z WITH CARON;gSMALL LETTER Z WITH CARON;tLONG S;tB WITH STROKE;
gCAPITAL LETTER B WITH HOOK;zdTOPBAR;gSMALL LETTER B WITH TOPBAR;gCAPITAL LETTER TONE SIX;
gSMALL LETTER TONE SIX;gCAPITAL LETTER OPEN O;vC WITH HOOK;gSMALL LETTER C WITH HOOK;
gCAPITAL LETTER AFRICAN D;vD WITH HOOK;zdTOPBAR;gSMALL LETTER D WITH TOPBAR;tTURNED DELTA;
gCAPITAL LETTER REVERSED E;vSCHWA;vOPEN E;vF WITH HOOK;gSMALL LETTER F WITH HOOK;
gCAPITAL LETTER G WITH HOOK;wAMMA;gSMALL LETTER HV;gCAPITAL LETTER IOTA;w WITH STROKE;
vK WITH HOOK;gSMALL LETTER K WITH HOOK;tL WITH BAR;uAMBDA WITH STROKE;gCAPITAL LETTER TURNED M;
vN WITH LEFT HOOK;gSMALL LETTER N WITH LONG RIGHT LEG;gCAPITAL LETTER O WITH MIDDLE TILDE;zdHORN;
gSMALL LETTER O WITH HORN;gCAPITAL LETTER OI;gSMALL LETTER OI;gCAPITAL LETTER P WITH HOOK;
gSMALL LETTER P WITH HOOK;gLETTER YR;gCAPITAL LETTER TONE TWO;gSMALL LETTER TONE TWO;
gCAPITAL LETTER ESH;gLETTER REVERSED ESH LOOP;gSMALL LETTER T WITH PALATAL HOOK;
gCAPITAL LETTER T WITH HOOK;gSMALL LETTER T WITH HOOK;gCAPITAL LETTER T WITH RETROFLEX HOOK;
vU WITH HORN;gSMALL LETTER U WITH HORN;gCAPITAL LETTER UPSILON;vV WITH HOOK;vY WITH HOOK;
gSMALL LETTER Y WITH HOOK;gCAPITAL LETTER Z WITH STROKE;gSMALL LETTER Z WITH STROKE;
gCAPITAL LETTER EZH;y REVERSED;gSMALL LETTER EZH REVERSED;xWITH TAIL;gLETTER TWO WITH STROKE;
gCAPITAL LETTER TONE FIVE;gSMALL LETTER TONE FIVE;gLETTER INVERTED GLOTTAL STOP WITH STROKE;nWYNN;
nDENTAL CLICK;nLATERAL CLICK;nALVEOLAR CLICK;nRETROFLEX CLICK;gCAPITAL LETTER DZ WITH CARON;
w WITH SMALL LETTER Z WITH CARON;gSMALL LETTER DZ WITH CARON;gCAPITAL LETTER LJ;
w WITH SMALL LETTER J;gSMALL LETTER LJ;gCAPITAL LETTER NJ;w WITH SMALL LETTER J;gSMALL LETTER NJ;
gCAPITAL LETTER A WITH CARON;gSMALL LETTER A WITH CARON;gCAPITAL LETTER I WITH CARON;
gSMALL LETTER I WITH CARON;gCAPITAL LETTER O WITH CARON;gSMALL LETTER O WITH CARON;
gCAPITAL LETTER U WITH CARON;gSMALL LETTER U WITH CARON;gCAPITAL LETTER U WITH DIAERESIS AND MACRO
N;gSMALL LETTER U WITH DIAERESIS AND MACRON;gCAPITAL LETTER U WITH DIAERESIS AND ACUTE;
gSMALL LETTER U WITH DIAERESIS AND ACUTE;gCAPITAL LETTER U WITH DIAERESIS AND CARON;
gSMALL LETTER U WITH DIAERESIS AND CARON;gCAPITAL LETTER U WITH DIAERESIS AND GRAVE;
gSMALL LETTER U WITH DIAERESIS AND GRAVE;tTURNED E;gCAPITAL LETTER A WITH DIAERESIS AND MACRON;
gSMALL LETTER A WITH DIAERESIS AND MACRON;gCAPITAL LETTER A WITH DOT ABOVE AND MACRON;
gSMALL LETTER A WITH DOT ABOVE AND MACRON;gCAPITAL LETTER AE WITH MACRON;gSMALL LETTER AE WITH MAC
RON;gCAPITAL LETTER G WITH STROKE;gSMALL LETTER G WITH STROKE;gCAPITAL LETTER G WITH CARON;
gSMALL LETTER G WITH CARON;gCAPITAL LETTER K WITH CARON;gSMALL LETTER K WITH CARON;
gCAPITAL LETTER O WITH OGONEK;gSMALL LETTER O WITH OGONEK;gCAPITAL LETTER O WITH OGONEK AND MACRON
;gSMALL LETTER O WITH OGONEK AND MACRON;gCAPITAL LETTER EZH WITH CARON;gSMALL LETTER EZH WITH CARO
N;tJ WITH CARON;gCAPITAL LETTER DZ;w WITH SMALL LETTER Z;gSMALL LETTER DZ;gCAPITAL LETTER G WITH A
CUTE;gSMALL LETTER G WITH ACUTE;gCAPITAL LETTER HWAIR;vWYNN;vN WITH GRAVE;gSMALL LETTER N WITH GRA
VE;gCAPITAL LETTER A WITH RING ABOVE AND ACUTE;gSMALL LETTER A WITH RING ABOVE AND ACUTE;
gCAPITAL LETTER AE WITH ACUTE;gSMALL LETTER AE WITH ACUTE;gCAPITAL LETTER O WITH STROKE AND ACUTE;
gSMALL LETTER O WITH STROKE AND ACUTE;gCAPITAL LETTER A WITH DOUBLE GRAVE;gSMALL LETTER A WITH DOU
BLE GRAVE;gCAPITAL LETTER A WITH INVERTED BREVE;gSMALL LETTER A WITH INVERTED BREVE;
gCAPITAL LETTER E WITH DOUBLE GRAVE;gSMALL LETTER E WITH DOUBLE GRAVE;gCAPITAL LETTER E WITH INVER
TED BREVE;gSMALL LETTER E WITH INVERTED BREVE;gCAPITAL LETTER I WITH DOUBLE GRAVE;
gSMALL LETTER I WITH DOUBLE GRAVE;gCAPITAL LETTER I WITH INVERTED BREVE;gSMALL LETTER I WITH INVER
TED BREVE;gCAPITAL LETTER O WITH DOUBLE GRAVE;gSMALL LETTER O WITH DOUBLE GRAVE;
gCAPITAL LETTER O WITH INVERTED BREVE;gSMALL LETTER O WITH INVERTED BREVE;gCAPITAL LETTER R WITH D
OUBLE GRAVE;gSMALL LETTER R WITH DOUBLE GRAVE;gCAPITAL LETTER R WITH INVERTED BREVE;
gSMALL LETTER R WITH INVERTED BREVE;gCAPITAL LETTER U WITH DOUBLE GRAVE;gSMALL LETTER U WITH DOUBL
E GRAVE;gCAPITAL LETTER U WITH INVERTED BREVE;gSMALL LETTER U WITH INVERTED BREVE;
gCAPITAL LETTER S WITH COMMA BELOW;gSMALL LETTER S WITH COMMA BELOW;gCAPITAL LETTER T WITH COMMA B
ELOW;gSMALL LETTER T WITH COMMA BELOW;gCAPITAL LETTER YOGH;gSMALL LETTER YOGH;
gCAPITAL LETTER H WITH CARON;gSMALL LETTER H WITH CARON;gCAPITAL LETTER N WITH LONG RIGHT LEG;
gSMALL LETTER D WITH CURL;gCAPITAL LETTER OU;gSMALL LETTER OU;gCAPITAL LETTER Z WITH HOOK;
gSMALL LETTER Z WITH HOOK;gCAPITAL LETTER A WITH DOT ABOVE;gSMALL LETTER A WITH DOT ABOVE;
gCAPITAL LETTER E WITH CEDILLA;gSMALL LETTER E WITH CEDILLA;gCAPITAL LETTER O WITH DIAERESIS AND M
ACRON;gSMALL LETTER O WITH DIAERESIS AND MACRON;gCAPITAL LETTER O WITH TILDE AND MACRON;
gSMALL LETTER O WITH TILDE AND MACRON;gCAPITAL LETTER O WITH DOT ABOVE;gSMALL LETTER O WITH DOT AB
OVE;gCAPITAL LETTER O WITH DOT ABOVE AND MACRON;gSMALL LETTER O WITH DOT ABOVE AND MACRON;
gCAPITAL LETTER Y WITH MACRON;gSMALL LETTER Y WITH MACRON;tL WITH CURL;tN WITH CURL;tT WITH CURL;
tDOTLESS J;uB DIGRAPH;tQP DIGRAPH;gCAPITAL LETTER A WITH STROKE;vC WITH STROKE;
gSMALL LETTER C WITH STROKE;gCAPITAL LETTER L WITH BAR;vT WITH DIAGONAL STROKE;
gSMALL LETTER S WITH SWASH TAIL;tZ WITH SWASH TAIL;gCAPITAL LETTER GLOTTAL STOP;
gSMALL LETTER GLOTTAL STOP;gCAPITAL LETTER B WITH STROKE;vU BAR;vTURNED V;vE WITH STROKE;
gSMALL LETTER E WITH STROKE;gCAPITAL LETTER J WITH STROKE;gSMALL LETTER J WITH STROKE;
gCAPITAL LETTER SMALL Q WITH HOOK TAIL;gSMALL LETTER Q WITH HOOK TAIL;gCAPITAL LETTER R WITH STROK
E;gSMALL LETTER R WITH STROKE;gCAPITAL LETTER Y WITH STROKE;gSMALL LETTER Y WITH STROKE;tTURNED A;
tALPHA;tTURNED ALPHA;tB WITH HOOK;tOPEN O;tC WITH CURL;tD WITH TAIL;zbHOOK;tREVERSED E;tSCHWA;
y WITH HOOK;tOPEN E;tREVERSED OPEN E;zj WITH HOOK;tCLOSED REVERSED OPEN E;tDOTLESS J WITH STROKE;
tG WITH HOOK;tSCRIPT G;gLETTER SMALL CAPITAL G;gSMALL LETTER GAMMA;tRAMS HORN;tTURNED H;
tH WITH HOOK;uENG WITH HOOK;tI WITH STROKE;uOTA;gLETTER SMALL CAPITAL I;gSMALL LETTER L WITH MIDDL
E TILDE;zbBELT;zbRETROFLEX HOOK;uEZH;tTURNED M;zc WITH LONG LEG;tM WITH HOOK;tN WITH LEFT HOOK;
zbRETROFLEX HOOK;gLETTER SMALL CAPITAL N;gSMALL LETTER BARRED O;gLETTER SMALL CAPITAL OE;
gSMALL LETTER CLOSED OMEGA;tPHI;tTURNED R;zc WITH LONG LEG;ziHOOK;tR WITH LONG LEG;zbTAIL;
zbFISHHOOK;uEVERSED R WITH FISHHOOK;gLETTER SMALL CAPITAL R;zcINVERTED R;gSMALL LETTER S WITH HOOK
;tESH;tDOTLESS J WITH STROKE AND HOOK;tSQUAT REVERSED ESH;tESH WITH CURL;tTURNED T;
u WITH RETROFLEX HOOK;tU BAR;uPSILON;tV WITH HOOK;tTURNED V;zbW;zbY;gLETTER SMALL CAPITAL Y;
gSMALL LETTER Z WITH RETROFLEX HOOK;zbCURL;tEZH;w WITH CURL;gLETTER GLOTTAL STOP;
nPHARYNGEAL VOICED FRICATIVE;nINVERTED GLOTTAL STOP;nSTRETCHED C;nBILABIAL CLICK;nSMALL CAPITAL B;
gSMALL LETTER CLOSED OPEN E;gLETTER SMALL CAPITAL G WITH HOOK;zcH;gSMALL LETTER J WITH CROSSED-TAI
L;tTURNED K;gLETTER SMALL CAPITAL L;gSMALL LETTER Q WITH HOOK;gLETTER GLOTTAL STOP WITH STROKE;
nREVERSED GLOTTAL STOP WITH STROKE;gSMALL LETTER DZ DIGRAPH;uEZH DIGRAPH;uZ DIGRAPH WITH CURL;
tTS DIGRAPH;uESH DIGRAPH;uC DIGRAPH WITH CURL;tFENG DIGRAPH;tLS DIGRAPH;uZ DIGRAPH;
gLETTER BILABIAL PERCUSSIVE;pDENTAL PERCUSSIVE;gSMALL LETTER TURNED H WITH FISHHOOK;zq AND TAIL;
aMODIFIER LETTER SMALL H;x WITH HOOK;wJ;wR;wTURNED R;zf WITH HOOK;wCAPITAL INVERTED R;wW;wY;
qPRIME;qDOUBLE PRIME;qTURNED COMMA;qAPOSTROPHE;qREVERSED COMMA;rIGHT HALF RING;qLEFT HALF RING;
qGLOTTAL STOP;qREVERSED GLOTTAL STOP;qLEFT ARROWHEAD;qRIGHT ARROWHEAD;qUP ARROWHEAD;
qDOWN ARROWHEAD;qCIRCUMFLEX ACCENT;aCARON;aMODIFIER LETTER VERTICAL LINE;qMACRON;qACUTE ACCENT;
qGRAVE ACCENT;qLOW VERTICAL LINE;uMACRON;uGRAVE ACCENT;uACUTE ACCENT;qTRIANGULAR COLON;
qHALF TRIANGULAR COLON;qCENTRED RIGHT HALF RING;yLEFT HALF RING;qUP TACK;qDOWN TACK;qPLUS SIGN;
qMINUS SIGN;aBREVE;aDOT ABOVE;aRING ABOVE;aOGONEK;aSMALL TILDE;aDOUBLE ACUTE ACCENT;
aMODIFIER LETTER RHOTIC HOOK;qCROSS ACCENT;qSMALL GAMMA;wL;wS;wX;wREVERSED GLOTTAL STOP;
qEXTRA-HIGH TONE BAR;qHIGH TONE BAR;qMID TONE BAR;qLOW TONE BAR;qEXTRA-LOW TONE BAR;
qYIN DEPARTING TONE MARK;rANG DEPARTING TONE MARK;qVOICING;qUNASPIRATED;qDOUBLE APOSTROPHE;
qLOW DOWN ARROWHEAD;uUP ARROWHEAD;uLEFT ARROWHEAD;uRIGHT ARROWHEAD;wNG;qMIDDLE GRAVE ACCENT;
xDOUBLE GRAVE ACCENT;zfACUTE ACCENT;qLOW TILDE;qRAISED COLON;qBEGIN HIGH TONE;qEND HIGH TONE;
qBEGIN LOW TONE;qEND LOW TONE;qSHELF;qOPEN SHELF;qLOW LEFT ARROW;aCOMBINING GRAVE ACCENT;
kACUTE ACCENT;kCIRCUMFLEX ACCENT;kTILDE;kMACRON;kOVERLINE;kBREVE;kDOT ABOVE;lIAERESIS;kHOOK ABOVE;
kRING ABOVE;kDOUBLE ACUTE ACCENT;kCARON;kVERTICAL LINE ABOVE;kDOUBLE VERTICAL LINE ABOVE;
rGRAVE ACCENT;kCANDRABINDU;kINVERTED BREVE;kTURNED COMMA ABOVE;kCOMMA ABOVE;kREVERSED COMMA ABOVE;
kCOMMA ABOVE RIGHT;kGRAVE ACCENT BELOW;kACUTE ACCENT BELOW;kLEFT TACK BELOW;kRIGHT TACK BELOW;
kLEFT ANGLE ABOVE;kHORN;kLEFT HALF RING BELOW;kUP TACK BELOW;kDOWN TACK BELOW;kPLUS SIGN BELOW;
kMINUS SIGN BELOW;kPALATALIZED HOOK BELOW;kRETROFLEX HOOK BELOW;kDOT BELOW;lIAERESIS BELOW;
kRING BELOW;kCOMMA BELOW;lEDILLA;kOGONEK;kVERTICAL LINE BELOW;kBRIDGE BELOW;
kINVERTED DOUBLE ARCH BELOW;kCARON BELOW;lIRCUMFLEX ACCENT BELOW;kBREVE BELOW;
kINVERTED BREVE BELOW;kTILDE BELOW;kMACRON BELOW;kLOW LINE;kDOUBLE LOW LINE;kTILDE OVERLAY;
kSHORT STROKE OVERLAY;kLONG STROKE OVERLAY;kSHORT SOLIDUS OVERLAY;kLONG SOLIDUS OVERLAY;
kRIGHT HALF RING BELOW;kINVERTED BRIDGE BELOW;kSQUARE BELOW;lEAGULL BELOW;kX ABOVE;
kVERTICAL TILDE;kDOUBLE OVERLINE;kGRAVE TONE MARK;kACUTE TONE MARK;kGREEK PERISPOMENI;qKORONIS;
qDIALYTIKA TONOS;qYPOGEGRAMMENI;kBRIDGE ABOVE;kEQUALS SIGN BELOW;kDOUBLE VERTICAL LINE BELOW;
kLEFT ANGLE BELOW;kNOT TILDE ABOVE;kHOMOTHETIC ABOVE;kALMOST EQUAL TO ABOVE;
kLEFT RIGHT ARROW BELOW;kUPWARDS ARROW BELOW;kGRAPHEME JOINER;kRIGHT ARROWHEAD ABOVE;
kLEFT HALF RING ABOVE;kFERMATA;kX BELOW;kLEFT ARROWHEAD BELOW;kRIGHT ARROWHEAD BELOW;
zbAND UP ARROWHEAD BELOW;qHALF RING ABOVE;kDOT ABOVE RIGHT;kASTERISK BELOW;kDOUBLE RING BELOW;
kZIGZAG ABOVE;kDOUBLE BREVE BELOW;w;rMACRON;x BELOW;rTILDE;rINVERTED BREVE;
rRIGHTWARDS ARROW BELOW;kLATIN SMALL LETTER A;zeE;zeI;zeO;zeU;zeC;zeD;zeH;zeM;zeR;zeT;zeV;zeX;
aGREEK CAPITAL LETTER HETA;gSMALL LETTER HETA;gCAPITAL LETTER ARCHAIC SAMPI;
gSMALL LETTER ARCHAIC SAMPI;gNUMERAL SIGN;gLOWER NUMERAL SIGN;gCAPITAL LETTER PAMPHYLIAN DIGAMMA;
gSMALL LETTER PAMPHYLIAN DIGAMMA;37A:gYPOGEGRAMMENI;gSMALL REVERSED LUNATE SIGMA SYMBOL;
mDOTTED LUNATE SIGMA SYMBOL;mREVERSED DOTTED LUNATE SIGMA SYMBOL;gQUESTION MARK;
gCAPITAL LETTER YOT;384:gTONOS;gDIALYTIKA TONOS;gCAPITAL LETTER ALPHA WITH TONOS;gANO TELEIA;
gCAPITAL LETTER EPSILON WITH TONOS;wTA WITH TONOS;vIOTA WITH TONOS;38C:vOMICRON WITH TONOS;
38E:vUPSILON WITH TONOS;vOMEGA WITH TONOS;gSMALL LETTER IOTA WITH DIALYTIKA AND TONOS;
gCAPITAL LETTER ALPHA;vBETA;vGAMMA;vDELTA;vEPSILON;vZETA;vETA;vTHETA;vIOTA;vKAPPA;vLAMDA;vMU;vNU;
vXI;vOMICRON;vPI;vRHO;3A3:vSIGMA;vTAU;vUPSILON;vPHI;vCHI;vPSI;vOMEGA;vIOTA WITH DIALYTIKA;
vUPSILON WITH DIALYTIKA;gSMALL LETTER ALPHA WITH TONOS;tEPSILON WITH TONOS;uTA WITH TONOS;
tIOTA WITH TONOS;tUPSILON WITH DIALYTIKA AND TONOS;tALPHA;tBETA;tGAMMA;tDELTA;tEPSILON;tZETA;tETA;
tTHETA;tIOTA;tKAPPA;tLAMDA;tMU;tNU;tXI;tOMICRON;tPI;tRHO;tFINAL SIGMA;tSIGMA;tTAU;tUPSILON;tPHI;
tCHI;tPSI;tOMEGA;tIOTA WITH DIALYTIKA;tUPSILON WITH DIALYTIKA;tOMICRON WITH TONOS;
tUPSILON WITH TONOS;tOMEGA WITH TONOS;gCAPITAL KAI SYMBOL;gBETA SYMBOL;gTHETA SYMBOL;
gUPSILON WITH HOOK SYMBOL;tACUTE AND HOOK SYMBOL;tDIAERESIS AND HOOK SYMBOL;gPHI SYMBOL;hI SYMBOL;
gKAI SYMBOL;gLETTER ARCHAIC KOPPA;gSMALL LETTER ARCHAIC KOPPA;gLETTER STIGMA;gSMALL LETTER STIGMA;
gLETTER DIGAMMA;gSMALL LETTER DIGAMMA;gLETTER KOPPA;gSMALL LETTER KOPPA;gLETTER SAMPI;
gSMALL LETTER SAMPI;aCOPTIC CAPITAL LETTER SHEI;hSMALL LETTER SHEI;hCAPITAL LETTER FEI;
hSMALL LETTER FEI;hCAPITAL LETTER KHEI;hSMALL LETTER KHEI;hCAPITAL LETTER HORI;hSMALL LETTER HORI;
hCAPITAL LETTER GANGIA;hSMALL LETTER GANGIA;hCAPITAL LETTER SHIMA;hSMALL LETTER SHIMA;
hCAPITAL LETTER DEI;hSMALL LETTER DEI;aGREEK KAPPA SYMBOL;gRHO SYMBOL;gLUNATE SIGMA SYMBOL;
hETTER YOT;gCAPITAL THETA SYMBOL;gLUNATE EPSILON SYMBOL;gREVERSED LUNATE EPSILON SYMBOL;
gCAPITAL LETTER SHO;gSMALL LETTER SHO;gCAPITAL LUNATE SIGMA SYMBOL;pETTER SAN;gSMALL LETTER SAN;
gRHO WITH STROKE SYMBOL;gCAPITAL REVERSED LUNATE SIGMA SYMBOL;oDOTTED LUNATE SIGMA SYMBOL;
oREVERSED DOTTED LUNATE SIGMA SYMBOL;aCYRILLIC CAPITAL LETTER IE WITH GRAVE;zO;yDJE;yGJE;
yUKRAINIAN IE;yDZE;yBYELORUSSIAN-UKRAINIAN I;yYI;yJE;yLJE;yNJE;yTSHE;yKJE;yI WITH GRAVE;ySHORT U;
yDZHE;yA;yBE;yVE;yGHE;yDE;yIE;yZHE;zE;yI;ySHORT I;yKA;yEL;zM;zN;yO;yPE;yER;zS;yTE;yU;yEF;yHA;yTSE;
yCHE;ySHA;zbCHA;yHARD SIGN;yYERU;ySOFT SIGN;yE;yYU;zA;jSMALL LETTER A;wBE;wVE;wGHE;wDE;wIE;wZHE;
xE;wI;wSHORT I;wKA;wEL;xM;xN;wO;wPE;wER;xS;wTE;wU;wEF;wHA;wTSE;wCHE;wSHA;yCHA;wHARD SIGN;wYERU;
wSOFT SIGN;wE;wYU;xA;wIE WITH GRAVE;xO;wDJE;wGJE;wUKRAINIAN IE;wDZE;wBYELORUSSIAN-UKRAINIAN I;wYI;
wJE;wLJE;wNJE;wTSHE;wKJE;wI WITH GRAVE;wSHORT U;wDZHE;jCAPITAL LETTER OMEGA;jSMALL LETTER OMEGA;
jCAPITAL LETTER YAT;jSMALL LETTER YAT;jCAPITAL LETTER IOTIFIED E;jSMALL LETTER IOTIFIED E;
jCAPITAL LETTER LITTLE YUS;jSMALL LETTER LITTLE YUS;jCAPITAL LETTER IOTIFIED LITTLE YUS;
jSMALL LETTER IOTIFIED LITTLE YUS;jCAPITAL LETTER BIG YUS;jSMALL LETTER BIG YUS;
jCAPITAL LETTER IOTIFIED BIG YUS;jSMALL LETTER IOTIFIED BIG YUS;jCAPITAL LETTER KSI;
jSMALL LETTER KSI;jCAPITAL LETTER PSI;jSMALL LETTER PSI;jCAPITAL LETTER FITA;jSMALL LETTER FITA;
jCAPITAL LETTER IZHITSA;jSMALL LETTER IZHITSA;jCAPITAL LETTER IZHITSA WITH DOUBLE GRAVE ACCENT;
jSMALL LETTER IZHITSA WITH DOUBLE GRAVE ACCENT;jCAPITAL LETTER UK;jSMALL LETTER UK;
jCAPITAL LETTER ROUND OMEGA;jSMALL LETTER ROUND OMEGA;jCAPITAL LETTER OMEGA WITH TITLO;
jSMALL LETTER OMEGA WITH TITLO;jCAPITAL LETTER OT;jSMALL LETTER OT;jCAPITAL LETTER KOPPA;
jSMALL LETTER KOPPA;jTHOUSANDS SIGN;bOMBINING CYRILLIC TITLO;tPALATALIZATION;tDASIA PNEUMATA;
tPSILI PNEUMATA;uOKRYTIE;tHUNDRED THOUSANDS SIGN;tMILLIONS SIGN;bYRILLIC CAPITAL LETTER SHORT I WI
TH TAIL;jSMALL LETTER SHORT I WITH TAIL;jCAPITAL LETTER SEMISOFT SIGN;jSMALL LETTER SEMISOFT SIGN;
jCAPITAL LETTER ER WITH TICK;jSMALL LETTER ER WITH TICK;jCAPITAL LETTER GHE WITH UPTURN;
jSMALL LETTER GHE WITH UPTURN;jCAPITAL LETTER GHE WITH STROKE;jSMALL LETTER GHE WITH STROKE;
jCAPITAL LETTER GHE WITH MIDDLE HOOK;jSMALL LETTER GHE WITH MIDDLE HOOK;jCAPITAL LETTER ZHE WITH D
ESCENDER;jSMALL LETTER ZHE WITH DESCENDER;jCAPITAL LETTER ZE WITH DESCENDER;
jSMALL LETTER ZE WITH DESCENDER;jCAPITAL LETTER KA WITH DESCENDER;jSMALL LETTER KA WITH DESCENDER;
jCAPITAL LETTER KA WITH VERTICAL STROKE;jSMALL LETTER KA WITH VERTICAL STROKE;
jCAPITAL LETTER KA WITH STROKE;jSMALL LETTER KA WITH STROKE;jCAPITAL LETTER BASHKIR KA;
jSMALL LETTER BASHKIR KA;jCAPITAL LETTER EN WITH DESCENDER;jSMALL LETTER EN WITH DESCENDER;
jCAPITAL LIGATURE EN GHE;jSMALL LIGATURE EN GHE;jCAPITAL LETTER PE WITH MIDDLE HOOK;
jSMALL LETTER PE WITH MIDDLE HOOK;jCAPITAL LETTER ABKHASIAN HA;jSMALL LETTER ABKHASIAN HA;
jCAPITAL LETTER ES WITH DESCENDER;jSMALL LETTER ES WITH DESCENDER;jCAPITAL LETTER TE WITH DESCENDE
R;jSMALL LETTER TE WITH DESCENDER;jCAPITAL LETTER STRAIGHT U;jSMALL LETTER STRAIGHT U;
jCAPITAL LETTER STRAIGHT U WITH STROKE;jSMALL LETTER STRAIGHT U WITH STROKE;
jCAPITAL LETTER HA WITH DESCENDER;jSMALL LETTER HA WITH DESCENDER;jCAPITAL LIGATURE TE TSE;
jSMALL LIGATURE TE TSE;jCAPITAL LETTER CHE WITH DESCENDER;jSMALL LETTER CHE WITH DESCENDER;
jCAPITAL LETTER CHE WITH VERTICAL STROKE;jSMALL LETTER CHE WITH VERTICAL STROKE;
jCAPITAL LETTER SHHA;jSMALL LETTER SHHA;jCAPITAL LETTER ABKHASIAN CHE;jSMALL LETTER ABKHASIAN CHE;
jCAPITAL LETTER ABKHASIAN CHE WITH DESCENDER;jSMALL LETTER ABKHASIAN CHE WITH DESCENDER;
jLETTER PALOCHKA;jCAPITAL LETTER ZHE WITH BREVE;jSMALL LETTER ZHE WITH BREVE;
jCAPITAL LETTER KA WITH HOOK;jSMALL LETTER KA WITH HOOK;jCAPITAL LETTER EL WITH TAIL;
jSMALL LETTER EL WITH TAIL;jCAPITAL LETTER EN WITH HOOK;jSMALL LETTER EN WITH HOOK;
jCAPITAL LETTER EN WITH TAIL;jSMALL LETTER EN WITH TAIL;jCAPITAL LETTER KHAKASSIAN CHE;
jSMALL LETTER KHAKASSIAN CHE;jCAPITAL LETTER EM WITH TAIL;jSMALL LETTER EM WITH TAIL;wPALOCHKA;
jCAPITAL LETTER A WITH BREVE;jSMALL LETTER A WITH BREVE;jCAPITAL LETTER A WITH DIAERESIS;
jSMALL LETTER A WITH DIAERESIS;jCAPITAL LIGATURE A IE;jSMALL LIGATURE A IE;
jCAPITAL LETTER IE WITH BREVE;jSMALL LETTER IE WITH BREVE;jCAPITAL LETTER SCHWA;
jSMALL LETTER SCHWA;jCAPITAL LETTER SCHWA WITH DIAERESIS;jSMALL LETTER SCHWA WITH DIAERESIS;
jCAPITAL LETTER ZHE WITH DIAERESIS;jSMALL LETTER ZHE WITH DIAERESIS;jCAPITAL LETTER ZE WITH DIAERE
SIS;jSMALL LETTER ZE WITH DIAERESIS;jCAPITAL LETTER ABKHASIAN DZE;jSMALL LETTER ABKHASIAN DZE;
jCAPITAL LETTER I WITH MACRON;jSMALL LETTER I WITH MACRON;jCAPITAL LETTER I WITH DIAERESIS;
jSMALL LETTER I WITH DIAERESIS;jCAPITAL LETTER O WITH DIAERESIS;jSMALL LETTER O WITH DIAERESIS;
jCAPITAL LETTER BARRED O;jSMALL LETTER BARRED O;jCAPITAL LETTER BARRED O WITH DIAERESIS;
jSMALL LETTER BARRED O WITH DIAERESIS;jCAPITAL LETTER E WITH DIAERESIS;jSMALL LETTER E WITH DIAERE
SIS;jCAPITAL LETTER U WITH MACRON;jSMALL LETTER U WITH MACRON;jCAPITAL LETTER U WITH DIAERESIS;
jSMALL LETTER U WITH DIAERESIS;jCAPITAL LETTER U WITH DOUBLE ACUTE;jSMALL LETTER U WITH DOUBLE ACU
TE;jCAPITAL LETTER CHE WITH DIAERESIS;jSMALL LETTER CHE WITH DIAERESIS;jCAPITAL LETTER GHE WITH DE
SCENDER;jSMALL LETTER GHE WITH DESCENDER;jCAPITAL LETTER YERU WITH DIAERESIS;
jSMALL LETTER YERU WITH DIAERESIS;jCAPITAL LETTER GHE WITH STROKE AND HOOK;
jSMALL LETTER GHE WITH STROKE AND HOOK;jCAPITAL LETTER HA WITH HOOK;jSMALL LETTER HA WITH HOOK;
jCAPITAL LETTER HA WITH STROKE;jSMALL LETTER HA WITH STROKE;jCAPITAL LETTER KOMI DE;
jSMALL LETTER KOMI DE;jCAPITAL LETTER KOMI DJE;jSMALL LETTER KOMI DJE;jCAPITAL LETTER KOMI ZJE;
jSMALL LETTER KOMI ZJE;jCAPITAL LETTER KOMI DZJE;jSMALL LETTER KOMI DZJE;jCAPITAL LETTER KOMI LJE;
jSMALL LETTER KOMI LJE;jCAPITAL LETTER KOMI NJE;jSMALL LETTER KOMI NJE;jCAPITAL LETTER KOMI SJE;
jSMALL LETTER KOMI SJE;jCAPITAL LETTER KOMI TJE;jSMALL LETTER KOMI TJE;jCAPITAL LETTER REVERSED ZE
;jSMALL LETTER REVERSED ZE;jCAPITAL LETTER EL WITH HOOK;jSMALL LETTER EL WITH HOOK;
jCAPITAL LETTER LHA;jSMALL LETTER LHA;jCAPITAL LETTER RHA;jSMALL LETTER RHA;jCAPITAL LETTER YAE;
jSMALL LETTER YAE;jCAPITAL LETTER QA;jSMALL LETTER QA;jCAPITAL LETTER WE;jSMALL LETTER WE;
jCAPITAL LETTER ALEUT KA;jSMALL LETTER ALEUT KA;jCAPITAL LETTER EL WITH MIDDLE HOOK;
jSMALL LETTER EL WITH MIDDLE HOOK;jCAPITAL LETTER EN WITH MIDDLE HOOK;jSMALL LETTER EN WITH MIDDL
E HOOK;jCAPITAL LETTER PE WITH DESCENDER;jSMALL LETTER PE WITH DESCENDER;jCAPITAL LETTER SHHA WIT
H DESCENDER;jSMALL LETTER SHHA WITH DESCENDER;jCAPITAL LETTER EN WITH LEFT HOOK;
jSMALL LETTER EN WITH LEFT HOOK;jCAPITAL LETTER DZZHE;jSMALL LETTER DZZHE;jCAPITAL LETTER DCHE;
jSMALL LETTER DCHE;jCAPITAL LETTER EL WITH DESCENDER;jSMALL LETTER EL WITH DESCENDER;
531:aARMENIAN CAPITAL LETTER AYB;yBEN;yGIM;yDA;yECH;yZA;yEH;zT;yTO;yZHE;yINI;yLIWN;yXEH;yCA;yKEN;
yHO;yJA;yGHAD;yCHEH;yMEN;yYI;yNOW;ySHA;yVO;yCHA;yPEH;yJHEH;yRA;ySEH;yVEW;yTIWN;yREH;yCO;yYIWN;
yPIWR;yKEH;yOH;yFEH;559:jMODIFIER LETTER LEFT HALF RING;jAPOSTROPHE;jEMPHASIS MARK;
kXCLAMATION MARK;jCOMMA;jQUESTION MARK;jABBREVIATION MARK;jSMALL LETTER TURNED AYB;wAYB;wBEN;wGIM;
wDA;wECH;wZA;wEH;xT;wTO;wZHE;wINI;wLIWN;wXEH;wCA;wKEN;wHO;wJA;wGHAD;wCHEH;wMEN;wYI;wNOW;wSHA;wVO;
wCHA;wPEH;wJHEH;wRA;wSEH;wVEW;wTIWN;wREH;wCO;wYIWN;wPIWR;wKEH;wOH;wFEH;qIGATURE ECH YIWN;
qETTER YI WITH STROKE;jFULL STOP;jHYPHEN;58D:aRIGHT-FACING ARMENIAN ETERNITY SIGN;
aLEFT-FACING ARMENIAN ETERNITY SIGN;aARMENIAN DRAM SIGN;591:aHEBREW ACCENT ETNAHTA;oSEGOL;
pHALSHELET;oZAQEF QATAN;uGADOL;oTIPEHA;oREVIA;oZARQA;oPASHTA;oYETIV;oTEVIR;oGERESH;u MUQDAM;
rSHAYIM;oQARNEY PARA;oTELISHA GEDOLA;oPAZER;oATNAH HAFUKH;oMUNAH;pAHAPAKH;pERKHA;u KEFULA;oDARGA;
oQADMA;oTELISHA QETANA;oYERAH BEN YOMO;oOLE;oILUY;oDEHI;oZINOR;hMARK MASORA CIRCLE;hPOINT SHEVA;
nHATAF SEGOL;tPATAH;tQAMATS;oIRIQ;nTSERE;nSEGOL;nPATAH;nQAMATS;nHOLAM;s HASER FOR VAV;nQUBUTS;
nDAGESH OR MAPIQ;nMETEG;iUNCTUATION MAQAF;iOINT RAFE;iUNCTUATION PASEQ;iOINT SHIN DOT;oIN DOT;
iUNCTUATION SOF PASUQ;hMARK UPPER DOT;mLOWER DOT;hPUNCTUATION NUN HAFUKHA;iOINT QAMATS QATAN;
5D0:hLETTER ALEF;oBET;oGIMEL;oDALET;oHE;oVAV;oZAYIN;oHET;oTET;oYOD;oFINAL KAF;oKAF;oLAMED;
oFINAL MEM;oMEM;oFINAL NUN;oNUN;oSAMEKH;oAYIN;oFINAL PE;oPE;oFINAL TSADI;oTSADI;oQOF;oRESH;oSHIN;
oTAV;5EF:hYOD TRIANGLE;hLIGATURE YIDDISH DOUBLE VAV;yVAV YOD;yDOUBLE YOD;hPUNCTUATION GERESH;
wSHAYIM;600:aARABIC NUMBER SIGN;hSIGN SANAH;hFOOTNOTE MARKER;hSIGN SAFHA;oMVAT;hNUMBER MARK ABOVE;
g-INDIC CUBE ROOT;nFOURTH ROOT;g RAY;g-INDIC PER MILLE SIGN;rTEN THOUSAND SIGN;bFGHANI SIGN;
bRABIC COMMA;hDATE SEPARATOR;hPOETIC VERSE SIGN;hSIGN MISRA;mSALLALLAHOU ALAYHE WASSALLAM;
mALAYHE ASSALLAM;mRAHMATULLAH ALAYHE;oDI ALLAHOU ANHU;mTAKHALLUS;iMALL HIGH TAH;
sLIGATURE ALEF WITH LAM WITH YEH;sZAIN;nFATHA;nDAMMA;nKASRA;iEMICOLON;hLETTER MARK;
hEND OF TEXT MARK;hTRIPLE DOT PUNCTUATION MARK;hQUESTION MARK;hLETTER KASHMIRI YEH;oHAMZA;
oALEF WITH MADDA ABOVE;yHAMZA ABOVE;oWAW WITH HAMZA ABOVE;oALEF WITH HAMZA BELOW;
oYEH WITH HAMZA ABOVE;oALEF;oBEH;oTEH MARBUTA;r;pHEH;oJEEM;oHAH;oKHAH;oDAL;oTHAL;oREH;oZAIN;oSEEN;
pHEEN;pAD;oDAD;oTAH;oZAH;oAIN;oGHAIN;oKEHEH WITH TWO DOTS ABOVE;zbHREE DOTS BELOW;
oFARSI YEH WITH INVERTED V;zeTWO DOTS ABOVE;zfHREE DOTS ABOVE;hTATWEEL;hLETTER FEH;oQAF;oKAF;oLAM;
oMEEM;oNOON;oHEH;oWAW;oALEF MAKSURA;oYEH;hFATHATAN;hDAMMATAN;hKASRATAN;hFATHA;hDAMMA;hKASRA;
hSHADDA;iUKUN;hMADDAH ABOVE;hHAMZA ABOVE;nBELOW;hSUBSCRIPT ALEF;hINVERTED DAMMA;hMARK NOON GHUNNA;
hZWARAKAY;hVOWEL SIGN SMALL V ABOVE;sINVERTED SMALL V ABOVE;sDOT BELOW;hREVERSED DAMMA;
hFATHA WITH TWO DOTS;hWAVY HAMZA BELOW;g-INDIC DIGIT ZERO;tONE;tTWO;uHREE;tFOUR;uIVE;tSIX;uEVEN;
tEIGHT;tNINE;g PERCENT SIGN;hDECIMAL SEPARATOR;hTHOUSANDS SEPARATOR;hFIVE POINTED STAR;
hLETTER DOTLESS BEH;wQAF;oSUPERSCRIPT ALEF;oALEF WASLA;uITH WAVY HAMZA ABOVE;zkBELOW;oHIGH HAMZA;
y ALEF;zWAW;oU WITH HAMZA ABOVE;oHIGH HAMZA YEH;oTTEH;sEH;oBEEH;oTEH WITH RING;
xTHREE DOTS ABOVE DOWNWARDS;oPEH;oTEHEH;oBEHEH;oHAH WITH HAMZA ABOVE;xTWO DOTS VERTICAL ABOVE;
oNYEH;oDYEH;oHAH WITH THREE DOTS ABOVE;oTCHEH;tEH;oDDAL;pAL WITH RING;xDOT BELOW;zh AND SMALL TAH;
qHAL;pDAHAL;pUL;pAL WITH THREE DOTS ABOVE DOWNWARDS;xFOUR DOTS ABOVE;oRREH;pEH WITH SMALL V;xRING;
xDOT BELOW;xSMALL V BELOW;xDOT BELOW AND DOT ABOVE;xTWO DOTS ABOVE;oJEH;oREH WITH FOUR DOTS ABOVE;
oSEEN WITH DOT BELOW AND DOT ABOVE;yTHREE DOTS BELOW;zp AND THREE DOTS ABOVE;
pAD WITH TWO DOTS BELOW;yHREE DOTS ABOVE;oTAH WITH THREE DOTS ABOVE;oAIN WITH THREE DOTS ABOVE;
oDOTLESS FEH;oFEH WITH DOT MOVED BELOW;zcBELOW;oVEH;oFEH WITH THREE DOTS BELOW;oPEHEH;
oQAF WITH DOT ABOVE;xTHREE DOTS ABOVE;oKEHEH;oSWASH KAF;oKAF WITH RING;xDOT ABOVE;oNG;
oKAF WITH THREE DOTS BELOW;oGAF;r WITH RING;oNGOEH;oGAF WITH TWO DOTS BELOW;pUEH;
pAF WITH THREE DOTS ABOVE;oLAM WITH SMALL V;xDOT ABOVE;xTHREE DOTS ABOVE;zjBELOW;
oNOON WITH DOT BELOW;tGHUNNA;oRNOON;oNOON WITH RING;yTHREE DOTS ABOVE;oHEH DOACHASHMEE;
oTCHEH WITH DOT ABOVE;oHEH WITH YEH ABOVE;sGOAL;w WITH HAMZA ABOVE;oTEH MARBUTA GOAL;
oWAW WITH RING;oKIRGHIZ OE;oOE;oU;oYU;oKIRGHIZ YU;oWAW WITH TWO DOTS ABOVE;oVE;oFARSI YEH;
oYEH WITH TAIL;xSMALL V;oWAW WITH DOT ABOVE;oE;oYEH WITH THREE DOTS BELOW;sBARREE;
y WITH HAMZA ABOVE;hFULL STOP;hLETTER AE;hSMALL HIGH LIGATURE SAD WITH LAM WITH ALEF MAKSURA;
zcQAF WITH LAM WITH ALEF MAKSURA;sMEEM INITIAL FORM;sLAM ALEF;sJEEM;sTHREE DOTS;sSEEN;
hEND OF AYAH;hSTART OF RUB EL HIZB;iMALL HIGH ROUNDED ZERO;sUPRIGHT RECTANGULAR ZERO;
sDOTLESS HEAD OF KHAH;sMEEM ISOLATED FORM;nLOW SEEN;nHIGH MADDA;nWAW;nYEH;nHIGH YEH;sNOON;
hPLACE OF SAJDAH;hEMPTY CENTRE LOW STOP;uHIGH STOP;hROUNDED HIGH STOP WITH FILLED CENTRE;
hSMALL LOW MEEM;hLETTER DAL WITH INVERTED V;oREH WITH INVERTED V;aEXTENDED ARABIC-INDIC DIGIT ZERO
;zdONE;zdTWO;zeHREE;zdFOUR;zeIVE;zdSIX;zeEVEN;zdEIGHT;zdNINE;aARABIC LETTER SHEEN WITH DOT BELOW;
oDAD WITH DOT BELOW;oGHAIN WITH DOT BELOW;hSIGN SINDHI AMPERSAND;tPOSTPOSITION MEN;
hLETTER HEH WITH INVERTED V;aSYRIAC END OF PARAGRAPH;hSUPRALINEAR FULL STOP;jBLINEAR FULL STOP;
jPRALINEAR COLON;jBLINEAR COLON;hHORIZONTAL COLON;hCOLON SKEWED LEFT;uRIGHT;
hSUPRALINEAR COLON SKEWED LEFT;jBLINEAR COLON SKEWED RIGHT;hCONTRACTION;hHARKLEAN OBELUS;
qMETOBELUS;qASTERISCUS;70F:hABBREVIATION MARK;hLETTER ALAPH;oSUPERSCRIPT ALAPH;oBETH;oGAMAL;
t GARSHUNI;oDALATH;pOTLESS DALATH RISH;oHE;oWAW;oZAIN;oHETH;oTETH;s GARSHUNI;oYUDH;s HE;oKAPH;
oLAMADH;oMIM;oNUN;oSEMKATH;oFINAL SEMKATH;oE;oPE;oREVERSED PE;oSADHE;oQAPH;oRISH;oSHIN;oTAW;
oPERSIAN BHETH;wGHAMAL;wDHALATH;hPTHAHA ABOVE;oBELOW;oDOTTED;hZQAPHA ABOVE;oBELOW;oDOTTED;
hRBASA ABOVE;nBELOW;hDOTTED ZLAMA HORIZONTAL;uANGULAR;hHBASA ABOVE;nBELOW;m-ESASA DOTTED;
hESASA ABOVE;nBELOW;hRWAHA;hFEMININE DOT;hQUSHSHAYA;hRUKKAKHA;hTWO VERTICAL DOTS ABOVE;zBELOW;
iHREE DOTS ABOVE;sBELOW;hOBLIQUE LINE ABOVE;uBELOW;hMUSIC;hBARREKH;74D:hLETTER SOGDIAN ZHAIN;
wKHAPH;wFE;aARABIC LETTER BEH WITH THREE DOTS HORIZONTALLY BELOW;xDOT BELOW AND THREE DOTS ABOVE;
xTHREE DOTS POINTING UPWARDS BELOW;zzg AND TWO DOTS ABOVE;yWO DOTS BELOW AND DOT ABOVE;
xINVERTED SMALL V BELOW;xSMALL V;oHAH WITH TWO DOTS ABOVE;yHREE DOTS POINTING UPWARDS BELOW;
oDAL WITH TWO DOTS VERTICALLY BELOW AND SMALL TAH;xINVERTED SMALL V BELOW;oREH WITH STROKE;
oSEEN WITH FOUR DOTS ABOVE;oAIN WITH TWO DOTS ABOVE;yHREE DOTS POINTING DOWNWARDS ABOVE;
yWO DOTS VERTICALLY ABOVE;oFEH WITH TWO DOTS BELOW;yHREE DOTS POINTING UPWARDS BELOW;
oKEHEH WITH DOT ABOVE;zTHREE DOTS ABOVE;zlPOINTING UPWARDS BELOW;oMEEM WITH DOT ABOVE;zdBELOW;
oNOON WITH TWO DOTS BELOW;ySMALL TAH;zfV;oLAM WITH BAR;oREH WITH TWO DOTS VERTICALLY ABOVE;
xHAMZA ABOVE;oSEEN WITH TWO DOTS VERTICALLY ABOVE;oHAH WITH SMALL ARABIC LETTER TAH BELOW;
zwAND TWO DOTS;oSEEN WITH SMALL ARABIC LETTER TAH AND TWO DOTS;oREH WITH SMALL ARABIC LETTER TAH A
ND TWO DOTS;oHAH WITH SMALL ARABIC LETTER TAH ABOVE;oALEF WITH EXTENDED ARABIC-INDIC DIGIT TWO ABO
VE;zzdHREE ABOVE;oFARSI YEH WITH EXTENDED ARABIC-INDIC DIGIT TWO ABOVE;zziHREE ABOVE;
zzhFOUR BELOW;oWAW WITH EXTENDED ARABIC-INDIC DIGIT TWO ABOVE;zzcHREE ABOVE;
oYEH BARREE WITH EXTENDED ARABIC-INDIC DIGIT TWO ABOVE;zzjHREE ABOVE;oHAH WITH EXTENDED ARABIC-IND
IC DIGIT FOUR BELOW;oSEEN WITH EXTENDED ARABIC-INDIC DIGIT FOUR ABOVE;yINVERTED V;
oKAF WITH TWO DOTS ABOVE;aTHAANA LETTER HAA;oSHAVIYANI;oNOONU;oRAA;oBAA;oLHAVIYANI;oKAAFU;oALIFU;
oVAAVU;oMEEMU;oFAAFU;oDHAALU;oTHAA;oLAAMU;oGAAFU;pNAVIYANI;oSEENU;oDAVIYANI;oZAVIYANI;oTAVIYANI;
oYAA;oPAVIYANI;oJAVIYANI;oCHAVIYANI;oTTAA;oHHAA;oKHAA;oTHAALU;oZAA;oSHEENU;pAADHU;oDAADHU;oTO;oZO;
oAINU;oGHAINU;oQAAFU;oWAAVU;hABAFILI;iABAAFILI;hIBIFILI;hEEBEEFILI;hUBUFILI;hOOBOOFILI;hEBEFILI;
iYBEYFILI;hOBOFILI;iABOAFILI;hSUKUN;hLETTER NAA;7C0:aNKO DIGIT ZERO;kONE;kTWO;lHREE;kFOUR;lIVE;
kSIX;lEVEN;kEIGHT;kNINE;eLETTER A;lEE;lI;lE;lU;lOO;m;lDAGBASINNA;lN;lBA;lPA;lTA;lJA;lCHA;lDA;lRA;
mRA;lSA;lGBA;lFA;lKA;lLA;lNA WOLOSO;lMA;lNYA;mA;lHA;lWA;lYA;lNYA WOLOSO;lJONA JA;qCHA;qRA;
eCOMBINING SHORT HIGH TONE;uLOW TONE;uRISING TONE;oLONG DESCENDING TONE;tHIGH TONE;tLOW TONE;
tRISING TONE;oNASALIZATION MARK;oDOUBLE DOT ABOVE;eHIGH TONE APOSTROPHE;eLOW TONE APOSTROPHE;
eSYMBOL OO DENNEN;lGBAKURUNEN;eCOMMA;eEXCLAMATION MARK;eLAJANYALAN;7FD:eDANTAYALAN;fOROME SIGN;
eTAMAN SIGN;aSAMARITAN LETTER ALAF;rBIT;rGAMAN;rDALAT;rIY;rBAA;rZEN;rIT;rTIT;rYUT;rKAAF;rLABAT;
rMIM;rNUN;rSINGAAT;rIN;rFI;rTSAADIY;rQUF;rRISH;rSHAN;rTAAF;kMARK IN;r-ALAF;pOCCLUSION;pDAGESH;
lODIFIER LETTER EPENTHETIC YUT;lARK EPENTHETIC YUT;kVOWEL SIGN LONG E;vE;vOVERLONG AA;vLONG AA;
vAA;vOVERLONG A;vLONG A;vA;kMODIFIER LETTER SHORT A;kVOWEL SIGN SHORT A;vLONG U;vU;
kMODIFIER LETTER I;kVOWEL SIGN LONG I;vI;vO;vSUKUN;kMARK NEQUDAA;830:kPUNCTUATION NEQUDAA;wAFSAAQ;
xNGED;wBAU;wATMAAU;wSHIYYAALAA;kABBREVIATION MARK;kPUNCTUATION MELODIC QITSA;wZIQAA;wQITSA;wZAEF;
wTURU;wARKAANU;wSOF MASHFAAT;wANNAAU;840:aMANDAIC LETTER HALQA;pAB;qG;qD;qH;pUSHENNA;pAZ;pIT;pATT;
qKSA;r;qL;qM;qN;qS;pIN;pAP;qSZ;qQ;qR;qSH;qT;pDUSHENNA;pKAD;pAIN;iAFFRICATION MARK;
iVOCALIZATION MARK;iGEMINATION MARK;85E:iPUNCTUATION;860:aSYRIAC LETTER MALAYALAM NGA;yJA;yNYA;
yTTA;yNNA;zbNA;yBHA;yRA;yLLA;zbLA;ySSA;870:aARABIC LETTER ALEF WITH ATTACHED FATHA;
ziTOP RIGHT FATHA;yRIGHT MIDDLE STROKE;yLEFT MIDDLE STROKE;yATTACHED KASRA;ziBOTTOM RIGHT KASRA;
ziROUND DOT ABOVE;zjIGHT ROUND DOT;ziLEFT ROUND DOT;ziROUND DOT BELOW;yDOT ABOVE;
yATTACHED TOP RIGHT FATHA AND DOT ABOVE;yRIGHT MIDDLE STROKE AND DOT ABOVE;
yATTACHED BOTTOM RIGHT KASRA AND DOT ABOVE;ziTOP RIGHT FATHA AND LEFT RING;
yRIGHT MIDDLE STROKE AND LEFT RING;yATTACHED BOTTOM RIGHT KASRA AND LEFT RING;ziRIGHT HAMZA;
ziLEFT HAMZA;hTATWEEL WITH OVERSTRUCK HAMZA;zgWAW;uTWO DOTS BELOW;hLETTER THIN YEH;
hBASELINE ROUND DOT;hRAISED ROUND DOT;hLETTER NOON WITH INVERTED SMALL V;oHAH WITH INVERTED SMAL
L V BELOW;oTAH WITH DOT BELOW;xTHREE DOTS BELOW;oKEHEH WITH TWO DOTS VERTICALLY BELOW;
hVERTICAL TAIL;890:hPOUND MARK ABOVE;iIASTRE MARK ABOVE;898:hSMALL HIGH WORD AL-JUZ;
nLOW WORD ISHMAAM;xMAALA;wTASHEEL;hMADDA WAAJIB;hSUPERSCRIPT ALEF MOKHASSAS;hDOUBLED MADDA;
hHALF MADDA OVER MADDA;hLETTER BEH WITH SMALL V BELOW;xHAMZA ABOVE;oJEEM WITH TWO DOTS ABOVE;
oTAH WITH TWO DOTS ABOVE;oFEH WITH DOT BELOW AND THREE DOTS ABOVE;oQAF WITH DOT BELOW;
oLAM WITH DOUBLE BAR;oMEEM WITH THREE DOTS ABOVE;oYEH WITH TWO DOTS BELOW AND HAMZA ABOVE;
zrDOT ABOVE;oREH WITH LOOP;oWAW WITH DOT WITHIN;oROHINGYA YEH;oLOW ALEF;oDAL WITH THREE DOTS BELOW
;oSAD WITH THREE DOTS BELOW;oGAF WITH INVERTED STROKE;oSTRAIGHT WAW;oZAIN WITH INVERTED V ABOVE;
oAIN WITH THREE DOTS BELOW;oKAF WITH DOT BELOW;oQAF WITH DOT BELOW AND NO DOTS ABOVE;
oBEH WITH SMALL MEEM ABOVE;oPEH WITH SMALL MEEM ABOVE;oTEH WITH SMALL TEH ABOVE;
oREH WITH SMALL NOON ABOVE;oYEH WITH TWO DOTS BELOW AND SMALL NOON ABOVE;oAFRICAN FEH;wQAF;wNOON;
oPEH WITH SMALL V;oTEH WITH SMALL V;pTEH WITH SMALL V;pCHEH WITH SMALL V;oKEHEH WITH SMALL V;
oGHAIN WITH THREE DOTS ABOVE;oAFRICAN QAF WITH THREE DOTS ABOVE;oJEEM WITH THREE DOTS ABOVE;
zkBELOW;oLAM WITH SMALL ARABIC LETTER TAH ABOVE;oGRAF;hSMALL FARSI YEH;nHIGH FARSI YEH;
sYEH BARREE WITH TWO DOTS BELOW;sWORD SAH;sZAH;hLARGE ROUND DOT ABOVE;xBELOW;hSUKUN BELOW;
hLARGE CIRCLE BELOW;nROUND DOT INSIDE CIRCLE BELOW;hSMALL LOW WAW;nHIGH WORD AR-RUB;sSAD;sAIN;
sQAF;sNOON WITH KASRA;nLOW NOON WITH KASRA;nHIGH WORD ATH-THALATHA;yS-SAJDA;yN-NISF;xSAKTA;xQIF;
xWAQFA;sFOOTNOTE MARKER;sSIGN SAFHA;hDISPUTED END OF AYAH;hTURNED DAMMA BELOW;hCURLY FATHA;nDAMMA;
nKASRA;nFATHATAN;nDAMMATAN;nKASRATAN;hTONE ONE DOT ABOVE;mTWO DOTS ABOVE;mLOOP ABOVE;
mONE DOT BELOW;mTWO DOTS BELOW;mLOOP BELOW;hOPEN FATHATAN;mDAMMATAN;mKASRATAN;hSMALL HIGH WAW;
hFATHA WITH RING;sDOT ABOVE;hKASRA WITH DOT BELOW;hLEFT ARROWHEAD ABOVE;hRIGHT ARROWHEAD ABOVE;
hLEFT ARROWHEAD BELOW;hRIGHT ARROWHEAD BELOW;hDOUBLE RIGHT ARROWHEAD ABOVE;zk WITH DOT;
hRIGHT ARROWHEAD ABOVE WITH DOT;hDAMMA WITH DOT;hMARK SIDEWAYS NOON GHUNNA;
aDEVANAGARI SIGN INVERTED CANDRABINDU;qCANDRABINDU;qANUSVARA;qVISARGA;lLETTER SHORT A;sA;tA;sI;tI;
sU;tU;sVOCALIC R;zbL;sCANDRA E;sSHORT E;sE;sAI;sCANDRA O;sSHORT O;sO;sAU;sKA;tHA;sGA;tHA;sNGA;sCA;
tHA;sJA;tHA;sNYA;sTTA;uHA;sDDA;uHA;sNNA;sTA;tHA;sDA;tHA;sNA;tNNA;sPA;tHA;sBA;tHA;sMA;sYA;sRA;tRA;
sLA;tLA;uLA;sVA;sSHA;tSA;tA;sHA;lVOWEL SIGN OE;xOE;lSIGN NUKTA;qAVAGRAHA;lVOWEL SIGN AA;wI;xI;wU;
xU;wVOCALIC R;zgR;wCANDRA E;wSHORT E;wE;wAI;wCANDRA O;wSHORT O;wO;wAU;lSIGN VIRAMA;
lVOWEL SIGN PRISHTHAMATRA E;wAW;lOM;lSTRESS SIGN UDATTA;xANUDATTA;lGRAVE ACCENT;lACUTE ACCENT;
lVOWEL SIGN CANDRA LONG E;wUE;xUE;lLETTER QA;sKHHA;sGHHA;sZA;sDDDHA;sRHA;sFA;sYYA;sVOCALIC RR;
zbLL;lVOWEL SIGN VOCALIC L;zgL;lDANDA;mOUBLE DANDA;mIGIT ZERO;rONE;rTWO;sHREE;rFOUR;sIVE;rSIX;
sEVEN;rEIGHT;rNINE;lABBREVIATION SIGN;lSIGN HIGH SPACING DOT;lLETTER CANDRA A;sOE;tOE;sAW;sUE;tUE;
sMARWARI DDA;sZHA;sHEAVY YA;sGGA;sJJA;sGLOTTAL STOP;sDDDA;sBBA;aBENGALI ANJI;iSIGN CANDRABINDU;
nANUSVARA;nVISARGA;985:iLETTER A;qA;pI;qI;pU;qU;pVOCALIC R;xL;98F:pE;pAI;993:pO;pAU;pKA;qHA;pGA;
qHA;pNGA;pCA;qHA;pJA;qHA;pNYA;pTTA;rHA;pDDA;rHA;pNNA;pTA;qHA;pDA;qHA;pNA;9AA:pPA;qHA;pBA;qHA;pMA;
pYA;pRA;9B2:pLA;9B6:pSHA;qSA;qA;pHA;9BC:iSIGN NUKTA;nAVAGRAHA;iVOWEL SIGN AA;tI;uI;tU;uU;
tVOCALIC R;zdR;9C7:tE;tAI;9CB:tO;tAU;iSIGN VIRAMA;iLETTER KHANDA TA;9D7:iAU LENGTH MARK;
9DC:iLETTER RRA;qHA;9DF:pYYA;pVOCALIC RR;xLL;iVOWEL SIGN VOCALIC L;zdL;9E6:iDIGIT ZERO;oONE;oTWO;
pHREE;oFOUR;pIVE;oSIX;pEVEN;oEIGHT;oNINE;iLETTER RA WITH MIDDLE DIAGONAL;xLOWER DIAGONAL;
iRUPEE MARK;oSIGN;iCURRENCY NUMERATOR ONE;zcTWO;zdHREE;zcFOUR;zcONE LESS THAN THE DENOMINATOR;
rDENOMINATOR SIXTEEN;iISSHAR;iGANDA MARK;iLETTER VEDIC ANUSVARA;iABBREVIATION SIGN;iSANDHI MARK;
A01:aGURMUKHI SIGN ADAK BINDI;oBINDI;oVISARGA;A05:jLETTER A;rA;qI;rI;qU;rU;A0F:qEE;qAI;A13:qOO;
qAU;qKA;rHA;qGA;rHA;qNGA;qCA;rHA;qJA;rHA;qNYA;qTTA;sHA;qDDA;sHA;qNNA;qTA;rHA;qDA;rHA;qNA;A2A:qPA;
rHA;qBA;rHA;qMA;qYA;qRA;A32:qLA;rLA;A35:qVA;qSHA;A38:rA;qHA;A3C:jSIGN NUKTA;A3E:jVOWEL SIGN AA;uI;
vI;uU;vU;A47:uEE;uAI;A4B:uOO;uAU;jSIGN VIRAMA;A51:oUDAAT;A59:jLETTER KHHA;qGHHA;qZA;qRRA;A5E:qFA;
A66:jDIGIT ZERO;pONE;pTWO;qHREE;pFOUR;qIVE;pSIX;qEVEN;pEIGHT;pNINE;jTIPPI;jADDAK;jIRI;jURA;
jEK ONKAR;jSIGN YAKASH;jABBREVIATION SIGN;A81:cJARATI SIGN CANDRABINDU;oANUSVARA;oVISARGA;
A85:jLETTER A;rA;qI;rI;qU;rU;qVOCALIC R;yL;jVOWEL CANDRA E;A8F:jLETTER E;qAI;jVOWEL CANDRA O;
A93:jLETTER O;qAU;qKA;rHA;qGA;rHA;qNGA;qCA;rHA;qJA;rHA;qNYA;qTTA;sHA;qDDA;sHA;qNNA;qTA;rHA;qDA;
rHA;qNA;AAA:qPA;rHA;qBA;rHA;qMA;qYA;qRA;AB2:qLA;rLA;AB5:qVA;qSHA;rSA;rA;qHA;ABC:jSIGN NUKTA;
oAVAGRAHA;jVOWEL SIGN AA;uI;vI;uU;vU;uVOCALIC R;zeR;uCANDRA E;AC7:uE;uAI;uCANDRA O;ACB:uO;uAU;
jSIGN VIRAMA;AD0:jOM;AE0:jLETTER VOCALIC RR;yLL;jVOWEL SIGN VOCALIC L;zeL;AE6:jDIGIT ZERO;pONE;
pTWO;qHREE;pFOUR;qIVE;pSIX;qEVEN;pEIGHT;pNINE;jABBREVIATION SIGN;jRUPEE SIGN;AF9:jLETTER ZHA;
jSIGN SUKUN;pHADDA;oMADDAH;oTHREE-DOT NUKTA ABOVE;oCIRCLE NUKTA ABOVE;oTWO-CIRCLE NUKTA ABOVE;
B01:aORIYA SIGN CANDRABINDU;lANUSVARA;lVISARGA;B05:gLETTER A;oA;nI;oI;nU;oU;nVOCALIC R;vL;B0F:nE;
nAI;B13:nO;nAU;nKA;oHA;nGA;oHA;nNGA;nCA;oHA;nJA;oHA;nNYA;nTTA;pHA;nDDA;pHA;nNNA;nTA;oHA;nDA;oHA;
nNA;B2A:nPA;oHA;nBA;oHA;nMA;nYA;nRA;B32:nLA;oLA;B35:nVA;nSHA;oSA;oA;nHA;B3C:gSIGN NUKTA;lAVAGRAHA;
gVOWEL SIGN AA;rI;sI;rU;sU;rVOCALIC R;zbR;B47:rE;rAI;B4B:rO;rAU;gSIGN VIRAMA;B55:lOVERLINE;
gAI LENGTH MARK;hU LENGTH MARK;B5C:gLETTER RRA;oHA;B5F:nYYA;nVOCALIC RR;vLL;gVOWEL SIGN VOCALIC L;
zbL;B66:gDIGIT ZERO;mONE;mTWO;nHREE;mFOUR;nIVE;mSIX;nEVEN;mEIGHT;mNINE;gISSHAR;gLETTER WA;
gFRACTION ONE QUARTER;tHALF;pTHREE QUARTERS;pONE SIXTEENTH;tEIGHTH;pTHREE SIXTEENTHS;
B82:aTAMIL SIGN ANUSVARA;lVISARGA;B85:gLETTER A;oA;nI;oI;nU;oU;B8E:nE;oE;nAI;B92:nO;oO;nAU;nKA;
B99:nNGA;nCA;B9C:nJA;B9E:nNYA;nTTA;BA3:nNNA;nTA;BA8:nNA;oNNA;nPA;BAE:nMA;nYA;nRA;oRA;nLA;oLA;pLA;
nVA;nSHA;oSA;oA;nHA;BBE:gVOWEL SIGN AA;rI;sI;rU;sU;BC6:rE;sE;rAI;BCA:rO;sO;rAU;gSIGN VIRAMA;
BD0:gOM;BD7:gAU LENGTH MARK;BE6:gDIGIT ZERO;mONE;mTWO;nHREE;mFOUR;nIVE;mSIX;nEVEN;mEIGHT;mNINE;
gNUMBER TEN;nONE HUNDRED;rTHOUSAND;gDAY SIGN;gMONTH SIGN;gYEAR SIGN;gDEBIT SIGN;gCREDIT SIGN;
gAS ABOVE SIGN;gRUPEE SIGN;gNUMBER SIGN;C00:bELUGU SIGN COMBINING CANDRABINDU ABOVE;nANDRABINDU;
mANUSVARA;mVISARGA;mCOMBINING ANUSVARA ABOVE;hLETTER A;pA;oI;pI;oU;pU;oVOCALIC R;wL;C0E:oE;pE;oAI;
C12:oO;pO;oAU;oKA;pHA;oGA;pHA;oNGA;oCA;pHA;oJA;pHA;oNYA;oTTA;qHA;oDDA;qHA;oNNA;oTA;pHA;oDA;pHA;
oNA;C2A:oPA;pHA;oBA;pHA;oMA;oYA;oRA;pRA;oLA;pLA;qLA;oVA;oSHA;pSA;pA;oHA;C3C:hSIGN NUKTA;mAVAGRAHA;
hVOWEL SIGN AA;sI;tI;sU;tU;sVOCALIC R;zcR;C46:sE;tE;sAI;C4A:sO;tO;sAU;hSIGN VIRAMA;
C55:hLENGTH MARK;hAI LENGTH MARK;C58:hLETTER TSA;oDZA;oRRRA;C5D:oNAKAARA POLLU;C60:oVOCALIC RR;
wLL;hVOWEL SIGN VOCALIC L;zcL;C66:hDIGIT ZERO;nONE;nTWO;oHREE;nFOUR;oIVE;nSIX;oEVEN;nEIGHT;nNINE;
C77:hSIGN SIDDHAM;hFRACTION DIGIT ZERO FOR ODD POWERS OF FOUR;wONE FOR ODD POWERS OF FOUR;
wTWO FOR ODD POWERS OF FOUR;xHREE FOR ODD POWERS OF FOUR;wONE FOR EVEN POWERS OF FOUR;
wTWO FOR EVEN POWERS OF FOUR;xHREE FOR EVEN POWERS OF FOUR;hSIGN TUUMU;aKANNADA SIGN SPACING CANDR
ABINDU;nCANDRABINDU;nANUSVARA;nVISARGA;nSIDDHAM;iLETTER A;qA;pI;qI;pU;qU;pVOCALIC R;xL;C8E:pE;qE;
pAI;C92:pO;qO;pAU;pKA;qHA;pGA;qHA;pNGA;pCA;qHA;pJA;qHA;pNYA;pTTA;rHA;pDDA;rHA;pNNA;pTA;qHA;pDA;
qHA;pNA;CAA:pPA;qHA;pBA;qHA;pMA;pYA;pRA;qRA;pLA;qLA;CB5:pVA;pSHA;qSA;qA;pHA;CBC:iSIGN NUKTA;
nAVAGRAHA;iVOWEL SIGN AA;tI;uI;tU;uU;tVOCALIC R;zdR;CC6:tE;uE;tAI;CCA:tO;uO;tAU;iSIGN VIRAMA;
CD5:iLENGTH MARK;iAI LENGTH MARK;CDD:iLETTER NAKAARA POLLU;pFA;CE0:pVOCALIC RR;xLL;
iVOWEL SIGN VOCALIC L;zdL;CE6:iDIGIT ZERO;oONE;oTWO;pHREE;oFOUR;pIVE;oSIX;pEVEN;oEIGHT;oNINE;
CF1:iSIGN JIHVAMULIYA;nUPADHMANIYA;D00:aMALAYALAM SIGN COMBINING ANUSVARA ABOVE;qANDRABINDU;
pANUSVARA;pVISARGA;kLETTER VEDIC ANUSVARA;rA;sA;rI;sI;rU;sU;rVOCALIC R;zL;D0E:rE;sE;rAI;D12:rO;sO;
rAU;rKA;sHA;rGA;sHA;rNGA;rCA;sHA;rJA;sHA;rNYA;rTTA;tHA;rDDA;tHA;rNNA;rTA;sHA;rDA;sHA;rNA;sNNA;rPA;
sHA;rBA;sHA;rMA;rYA;rRA;sRA;rLA;sLA;tLA;rVA;rSHA;sSA;sA;rHA;rTTTA;kSIGN VERTICAL BAR VIRAMA;
pCIRCULAR VIRAMA;pAVAGRAHA;kVOWEL SIGN AA;vI;wI;vU;wU;vVOCALIC R;zfR;D46:vE;wE;vAI;D4A:vO;wO;vAU;
kSIGN VIRAMA;kLETTER DOT REPH;kSIGN PARA;D54:kLETTER CHILLU M;yY;yLLL;kAU LENGTH MARK;
kFRACTION ONE ONE-HUNDRED-AND-SIXTIETH;xFORTIETH;tTHREE EIGHTIETHS;tONE TWENTIETH;yENTH;
tTHREE TWENTIETHS;tONE FIFTH;kLETTER ARCHAIC II;rVOCALIC RR;zLL;kVOWEL SIGN VOCALIC L;zfL;
D66:kDIGIT ZERO;qONE;qTWO;rHREE;qFOUR;rIVE;qSIX;rEVEN;qEIGHT;qNINE;kNUMBER TEN;rONE HUNDRED;
vTHOUSAND;kFRACTION ONE QUARTER;xHALF;tTHREE QUARTERS;tONE SIXTEENTH;xEIGHTH;tTHREE SIXTEENTHS;
kDATE MARK;kLETTER CHILLU NN;z;yRR;yL;zL;yK;D81:aSINHALA SIGN CANDRABINDU;nANUSVARAYA;nVISARGAYA;
D85:iLETTER AYANNA;qAYANNA;qEYANNA;rEYANNA;pIYANNA;qIYANNA;pUYANNA;qUYANNA;pIRUYANNA;sUYANNA;
qLUYANNA;sUYANNA;pEYANNA;qEYANNA;pAIYANNA;pOYANNA;qOYANNA;pAUYANNA;D9A:qLPAPRAANA KAYANNA;
pMAHAAPRAANA KAYANNA;pALPAPRAANA GAYANNA;pMAHAAPRAANA GAYANNA;pKANTAJA NAASIKYAYA;
pSANYAKA GAYANNA;pALPAPRAANA CAYANNA;pMAHAAPRAANA CAYANNA;pALPAPRAANA JAYANNA;
pMAHAAPRAANA JAYANNA;pTAALUJA NAASIKYAYA;xSANYOOGA NAAKSIKYAYA;pSANYAKA JAYANNA;
pALPAPRAANA TTAYANNA;pMAHAAPRAANA TTAYANNA;pALPAPRAANA DDAYANNA;pMAHAAPRAANA DDAYANNA;
qUURDHAJA NAYANNA;pSANYAKA DDAYANNA;pALPAPRAANA TAYANNA;pMAHAAPRAANA TAYANNA;pALPAPRAANA DAYANNA;
pMAHAAPRAANA DAYANNA;pDANTAJA NAYANNA;DB3:pSANYAKA DAYANNA;pALPAPRAANA PAYANNA;
pMAHAAPRAANA PAYANNA;pALPAPRAANA BAYANNA;pMAHAAPRAANA BAYANNA;rYANNA;pAMBA BAYANNA;pYAYANNA;
pRAYANNA;DBD:pDANTAJA LAYANNA;DC0:pVAYANNA;pTAALUJA SAYANNA;pMUURDHAJA SAYANNA;pDANTAJA SAYANNA;
pHAYANNA;pMUURDHAJA LAYANNA;pFAYANNA;DCA:iSIGN AL-LAKUNA;DCF:iVOWEL SIGN AELA-PILLA;
tKETTI AEDA-PILLA;tDIGA AEDA-PILLA;tKETTI IS-PILLA;tDIGA IS-PILLA;tKETTI PAA-PILLA;
DD6:tDIGA PAA-PILLA;DD8:tGAETTA-PILLA;tKOMBUVA;tDIGA KOMBUVA;tKOMBU DEKA;yVA HAA AELA-PILLA;
zgDIGA AELA-PILLA;zgGAYANUKITTA;tGAYANUKITTA;DE6:iLITH DIGIT ZERO;tONE;tTWO;uHREE;tFOUR;uIVE;tSIX;
uEVEN;tEIGHT;tNINE;DF2:iVOWEL SIGN DIGA GAETTA-PILLA;zbYANUKITTA;iPUNCTUATION KUNDDALIYA;
E01:aTHAI CHARACTER KO KAI;qHO KHAI;vUAT;vWAI;vON;tRAKHANG;pNGO NGU;pCHO CHAN;vING;vANG;pSO SO;
pCHO CHOE;pYO YING;pDO CHADA;pTO PATAK;qHO THAN;tNANGMONTHO;tPHUTHAO;pNO NEN;pDO DEK;pTO TAO;
qHO THUNG;vAHAN;vONG;pNO NU;pBO BAIMAI;pPO PLA;qHO PHUNG;pFO FA;pPHO PHAN;pFO FAN;pPHO SAMPHAO;
pMO MA;pYO YAK;pRO RUA;qU;pLO LING;qU;pWO WAEN;pSO SALA;sRUSI;sSUA;pHO HIP;pLO CHULA;pO ANG;
pHO NOKHUK;pPAIYANNOI;pSARA A;pMAI HAN-AKAT;pSARA AA;vM;uI;vI;uUE;wE;v;vU;pPHINTHU;
E3F:gURRENCY SYMBOL BAHT;gHARACTER SARA E;uAE;uO;uAI MAIMUAN;zcALAI;pLAKKHANGYAO;pMAIYAMOK;
sTAIKHU;s EK;tTHO;uRI;tCHATTAWA;pTHANTHAKHAT;pNIKHAHIT;pYAMAKKAN;pFONGMAN;fDIGIT ZERO;lONE;lTWO;
mHREE;lFOUR;mIVE;lSIX;mEVEN;lEIGHT;lNINE;fCHARACTER ANGKHANKHU;pKHOMUT;E81:aLAO LETTER KO;
mHO SUNG;E84:pTAM;E86:lPALI GHA;lNGO;lCO;lPALI CHA;lSO TAM;E8C:lPALI JHA;lNYO;lPALI NYA;qTTA;sHA;
qDDA;sHA;qNNA;lDO;lTO;mHO SUNG;pTAM;lPALI DHA;lNO;lBO;lPO;mHO SUNG;lFO TAM;lPHO TAM;lFO SUNG;
lPALI BHA;lMO;lYO;lLO LING;EA5:pOOT;EA7:lWO;lSANSKRIT SHA;vSA;mO SUNG;lHO SUNG;lPALI LLA;lO;
lHO TAM;eELLIPSIS;eVOWEL SIGN A;pMAI KAN;pAA;qM;pI;qI;pY;qY;pU;qU;eSIGN PALI VIRAMA;
eVOWEL SIGN MAI KON;eSEMIVOWEL SIGN LO;tNYO;EC0:eVOWEL SIGN E;qI;pO;pAY;qI;EC6:eKO LA;
EC8:eTONE MAI EK;nTHO;oI;nCATAWA;eCANCELLATION MARK;eNIGGAHITA;ED0:eDIGIT ZERO;kONE;kTWO;lHREE;
kFOUR;lIVE;kSIX;lEVEN;kEIGHT;kNINE;EDC:eHO NO;hMO;eLETTER KHMU GO;qNYO;F00:aTIBETAN SYLLABLE OM;
iMARK GTER YIG MGO TRUNCATED A;zb-UM RNAM BCAD MA;zfGTER TSHEG MA;nINITIAL YIG MGO MDUN MA;
nCLOSING YIG MGO SGAB MA;oARET YIG MGO PHUR SHAD MA;nYIG MGO TSHEG SHAD MA;nSBRUL SHAD;
nBSKUR YIG MGO;oKA- SHOG YIG MGO;nINTERSYLLABIC TSHEG;nDELIMITER TSHEG BSTAR;nSHAD;nNYIS SHAD;
nTSHEG SHAD;nNYIS TSHEG SHAD;nRIN CHEN SPUNGS SHAD;oGYA GRAM SHAD;nCARET -DZUD RTAGS ME LONG CAN;
nGTER TSHEG;iLOGOTYPE SIGN CHAD RTAGS;wLHAG RTAGS;iASTROLOGICAL SIGN SGRA GCAN -CHAR RTAGS;
zb-KHYUD PA;zbSDONG TSHUGS;iSIGN RDEL DKAR GCIG;yNYIS;ySUM;sNAG GCIG;xNYIS;sDKAR RDEL NAG;
iDIGIT ZERO;oONE;oTWO;pHREE;oFOUR;pIVE;oSIX;pEVEN;oEIGHT;oNINE;oHALF ONE;tTWO;uHREE;tFOUR;uIVE;
tSIX;uEVEN;tEIGHT;tNINE;tZERO;iMARK BSDUS RTAGS;nNGAS BZUNG NYI ZLA;nCARET -DZUD RTAGS BZHI MIG CA
N;nNGAS BZUNG SGOR RTAGS;nCHE MGO;nTSA -PHRU;nGUG RTAGS GYON;zAS;nANG KHANG GYON;zAS;
iSIGN YAR TSHES;nMAR TSHES;iLETTER KA;qHA;pGA;qHA;pNGA;pCA;qHA;pJA;F49:pNYA;pTTA;rHA;pDDA;rHA;
pNNA;pTA;qHA;pDA;qHA;pNA;pPA;qHA;pBA;qHA;pMA;pTSA;rHA;pDZA;rHA;pWA;pZHA;qA;p-A;pYA;pRA;pLA;pSHA;
qSA;qA;pHA;pA;pKSSA;pFIXED-FORM RA;pKKA;pRRA;F71:iVOWEL SIGN AA;tI;uI;tU;uU;tVOCALIC R;zdR;zcL;
zdL;tE;uE;tO;uO;iSIGN RJES SU NGA RO;oNAM BCAD;iVOWEL SIGN REVERSED I;zeI;iSIGN NYI ZLA NAA DA;
nSNA LDAN;iMARK HALANTA;nPALUTA;iSIGN LCI RTAGS;nYANG RTAGS;nLCE TSA CAN;nMCHU CAN;
nGRU CAN RGYINGS;rMED RGYINGS;nINVERTED MCHU CAN;jUBJOINED SIGN LCE TSA CAN;xMCHU CAN;
xINVERTED MCHU CAN;sLETTER KA;zbHA;zGA;zbHA;zNGA;zCA;zbHA;zJA;F99:zNYA;zTTA;zcHA;zDDA;zcHA;zNNA;
zTA;zbHA;zDA;zbHA;zNA;zPA;zbHA;zBA;zbHA;zMA;zTSA;zcHA;zDZA;zcHA;zWA;zZHA;zbA;z-A;zYA;zRA;zLA;zSHA;
zbSA;zbA;zHA;zA;zKSSA;zFIXED-FORM WA;zlYA;zlRA;FBE:iKU RU KHA;r BZHI MIG CAN;
iCANTILLATION SIGN HEAVY BEAT;zbLIGHT BEAT;zbCANG TE-U;zbSBUB -CHAL;iSYMBOL DRIL BU;pRDO RJE;
pPADMA GDAN;pRDO RJE RGYA GRAM;pPHUR PA;pNOR BU;v NYIS -KHYIL;wGSUM -KHYIL;wBZHI -KHYIL;
FCE:jIGN RDEL NAG RDEL DKAR;wGSUM;iMARK BSKA- SHOG GI MGO RGYAN;nMNYAM YIG GI MGO RGYAN;
nNYIS TSHEG;nINITIAL BRDA RNYING YIG MGO MDUN MA;nCLOSING BRDA RNYING YIG MGO SGAB MA;
aRIGHT-FACING SVASTI SIGN;aLEFT-FACING SVASTI SIGN;aRIGHT-FACING SVASTI SIGN WITH DOTS;
aLEFT-FACING SVASTI SIGN WITH DOTS;aTIBETAN MARK LEADING MCHAN RTAGS;nTRAILING MCHAN RTAGS;
1000:aMYANMAR LETTER KA;qHA;pGA;qHA;pNGA;pCA;qHA;pJA;qHA;pNYA;qNYA;pTTA;rHA;pDDA;rHA;pNNA;pTA;qHA;
pDA;qHA;pNA;pPA;qHA;pBA;qHA;pMA;pYA;pRA;pLA;pWA;pSA;pHA;pLLA;pA;pSHAN A;pI;qI;pU;qU;pE;pMON E;pO;
pAU;iVOWEL SIGN TALL AA;tAA;tI;uI;tU;uU;tE;tAI;tMON II;xO;tE ABOVE;iSIGN ANUSVARA;nDOT BELOW;
nVISARGA;pRAMA;nASAT;iCONSONANT SIGN MEDIAL YA;zfRA;zfWA;zfHA;iLETTER GREAT SA;iDIGIT ZERO;oONE;
oTWO;pHREE;oFOUR;pIVE;oSIX;pEVEN;oEIGHT;oNINE;iSIGN LITTLE SECTION;nSECTION;jYMBOL LOCATIVE;
pCOMPLETED;pAFOREMENTIONED;pGENITIVE;iLETTER SHA;qSA;pVOCALIC R;yR;xL;yL;iVOWEL SIGN VOCALIC R;
zdR;zcL;zdL;iLETTER MON NGA;tJHA;tBBA;vE;iCONSONANT SIGN MON MEDIAL NA;zjMA;zjLA;
iLETTER SGAW KAREN SHA;iVOWEL SIGN SGAW KAREN EU;iTONE MARK SGAW KAREN HATHI;zeKE PHO;
iLETTER WESTERN PWO KAREN THA;ziPWA;iVOWEL SIGN WESTERN PWO KAREN EU;zmUE;iSIGN WESTERN PWO KARE
N TONE-1;zl2;zl3;zl4;zl5;iLETTER EASTERN PWO KAREN NNA;ziYWA;ziGHWA;iVOWEL SIGN GEBA KAREN I;
tKAYAH OE;zU;zEE;iLETTER SHAN KA;vHA;uGA;uCA;uZA;uNYA;uDA;uNA;uPHA;uFA;uBA;uTHA;uHA;
iCONSONANT SIGN SHAN MEDIAL WA;iVOWEL SIGN SHAN AA;yE;z ABOVE;yFINAL Y;iSIGN SHAN TONE-2;x3;x5;x6;
sCOUNCIL TONE-2;zg3;zbEMPHATIC TONE;iLETTER RUMAI PALAUNG FA;iSIGN RUMAI PALAUNG TONE-5;
jHAN DIGIT ZERO;tONE;tTWO;uHREE;tFOUR;uIVE;tSIX;uEVEN;tEIGHT;tNINE;jIGN KHAMTI TONE-1;z3;
iVOWEL SIGN AITON A;zbI;iSYMBOL SHAN ONE;uEXCLAMATION;aGEORGIAN CAPITAL LETTER AN;yBAN;yGAN;yDON;
yEN;yVIN;yZEN;yTAN;yIN;yKAN;yLAS;yMAN;yNAR;yON;yPAR;yZHAR;yRAE;ySAN;yTAR;yUN;yPHAR;yKHAR;yGHAN;
yQAR;ySHIN;yCHIN;zAN;yJIL;yCIL;zHAR;yXAN;yJHAN;yHAE;zE;zIE;yWE;yHAR;zOE;10C7:yYN;10CD:yAEN;
10D0:jLETTER AN;qBAN;qGAN;qDON;qEN;qVIN;qZEN;qTAN;qIN;qKAN;qLAS;qMAN;qNAR;qON;qPAR;qZHAR;qRAE;
qSAN;qTAR;qUN;qPHAR;qKHAR;qGHAN;qQAR;qSHIN;qCHIN;rAN;qJIL;qCIL;rHAR;qXAN;qJHAN;qHAE;rE;rIE;qWE;
qHAR;rOE;qFI;qYN;qELIFI;qTURNED GAN;qAIN;jPARAGRAPH SEPARATOR;aMODIFIER LETTER GEORGIAN NAR;
aGEORGIAN LETTER AEN;qHARD SIGN;qLABIAL SIGN;aHANGUL CHOSEONG KIYEOK;qSSANGKIYEOK;qNIEUN;qTIKEUT;
qSSANGTIKEUT;qRIEUL;qMIEUM;qPIEUP;qSSANGPIEUP;rIOS;rSANGSIOS;qIEUNG;qCIEUC;qSSANGCIEUC;qCHIEUCH;
qKHIEUKH;qTHIEUTH;qPHIEUPH;qHIEUH;qNIEUN-KIYEOK;qSSANGNIEUN;qNIEUN-TIKEUT;wPIEUP;qTIKEUT-KIYEOK;
qRIEUL-NIEUN;qSSANGRIEUL;qRIEUL-HIEUH;qKAPYEOUNRIEUL;qMIEUM-PIEUP;qKAPYEOUNMIEUM;qPIEUP-KIYEOK;
wNIEUN;wTIKEUT;wSIOS;zb-KIYEOK;zcTIKEUT;zcPIEUP;xSANGSIOS;xIOS-CIEUC;wCIEUC;xHIEUCH;wTHIEUTH;
wPHIEUPH;qKAPYEOUNPIEUP;ySSANGPIEUP;qSIOS-KIYEOK;vNIEUN;vTIKEUT;vRIEUL;vMIEUM;vPIEUP;zb-KIYEOK;
vSSANGSIOS;vIEUNG;vCIEUC;wHIEUCH;vKHIEUKH;vTHIEUTH;vPHIEUPH;vHIEUH;qCHITUEUMSIOS;zSANGSIOS;
rEONGCHIEUMSIOS;zdSANGSIOS;qPANSIOS;qIEUNG-KIYEOK;wTIKEUT;wMIEUM;wPIEUP;wSIOS;wPANSIOS;
qSSANGIEUNG;qIEUNG-CIEUC;xHIEUCH;wTHIEUTH;wPHIEUPH;qYESIEUNG;qCIEUC-IEUNG;rHITUEUMCIEUC;
ySSANGCIEUC;rEONGCHIEUMCIEUC;zcSSANGCIEUC;rHIEUCH-KHIEUKH;yHIEUH;tTUEUMCHIEUCH;rEONGCHIEUMCHIEUCH;
qPHIEUPH-PIEUP;qKAPYEOUNPHIEUPH;qSSANGHIEUH;qYEORINHIEUH;qKIYEOK-TIKEUT;qNIEUN-SIOS;wCIEUC;wHIEUH;
qTIKEUT-RIEUL;qFILLER;hJUNGSEONG FILLER;rA;sE;rYA;tE;rEO;s;rYEO;t;rO;rWA;tE;rOE;rYO;rU;rWEO;t;sI;
rYU;rEU;rYI;rI;rA-O;tU;rYA-O;uYO;rEO-O;uU;uEU;rYEO-O;vU;rO-EO;u;tYE;tO;tU;rYO-YA;wE;vEO;uO;uI;
rU-A;uE;tEO-EU;tYE;tU;rYU-A;uEO;v;uYEO;w;uU;uI;rEU-U;uEU;rYI-U;rI-A;tYA;tO;tU;tEU;tARAEA;rARAEA;
w-EO;xU;xI;rSSANGARAEA;rA-EU;rYA-U;sEO-YA;rO-YA;vE;iONGSEONG KIYEOK;rSSANGKIYEOK;rKIYEOK-SIOS;
rNIEUN;w-CIEUC;xHIEUH;rTIKEUT;rRIEUL;w-KIYEOK;xMIEUM;xPIEUP;xSIOS;xTHIEUTH;xPHIEUPH;xHIEUH;rMIEUM;
rPIEUP;w-SIOS;rSIOS;sSANGSIOS;rIEUNG;rCIEUC;sHIEUCH;rKHIEUKH;rTHIEUTH;rPHIEUPH;rHIEUH;
rKIYEOK-RIEUL;ySIOS-KIYEOK;rNIEUN-KIYEOK;xTIKEUT;xSIOS;xPANSIOS;xTHIEUTH;rTIKEUT-KIYEOK;yRIEUL;
rRIEUL-KIYEOK-SIOS;xNIEUN;xTIKEUT;ze-HIEUH;rSSANGRIEUL;rRIEUL-MIEUM-KIYEOK;zeSIOS;xPIEUP-SIOS;
zeHIEUH;xKAPYEOUNPIEUP;xSSANGSIOS;xPANSIOS;xKHIEUKH;xYEORINHIEUH;rMIEUM-KIYEOK;xRIEUL;xPIEUP;
xSIOS;ySANGSIOS;xPANSIOS;xCHIEUCH;xHIEUH;rKAPYEOUNMIEUM;rPIEUP-RIEUL;xPHIEUPH;xHIEUH;
rKAPYEOUNPIEUP;rSIOS-KIYEOK;wTIKEUT;wRIEUL;wPIEUP;rPANSIOS;rIEUNG-KIYEOK;xSSANGKIYEOK;rSSANGIEUNG;
rIEUNG-KHIEUKH;rYESIEUNG;z-SIOS;zbPANSIOS;rPHIEUPH-PIEUP;rKAPYEOUNPHIEUPH;rHIEUH-NIEUN;xRIEUL;
xMIEUM;xPIEUP;rYEORINHIEUH;rKIYEOK-NIEUN;yPIEUP;yCHIEUCH;yKHIEUKH;yHIEUH;rSSANGNIEUN;
aETHIOPIC SYLLABLE HA;tU;tI;tAA;tEE;u;tO;uA;sLA;tU;tI;tAA;tEE;u;tO;tWA;sHHA;uU;uI;uAA;uEE;v;uO;
uWA;sMA;tU;tI;tAA;tEE;u;tO;tWA;sSZA;uU;uI;uAA;uEE;v;uO;uWA;sRA;tU;tI;tAA;tEE;u;tO;tWA;sSA;tU;tI;
tAA;tEE;u;tO;tWA;tHA;uU;uI;uAA;uEE;v;uO;uWA;sQA;tU;tI;tAA;tEE;u;tO;uA;tWA;124A:uI;uAA;uEE;v;
1250:tHA;uU;uI;uAA;uEE;v;uO;1258:uWA;125A:vI;vAA;vEE;w;1260:sBA;tU;tI;tAA;tEE;u;tO;tWA;sVA;tU;tI;
tAA;tEE;u;tO;tWA;sTA;tU;tI;tAA;tEE;u;tO;tWA;sCA;tU;tI;tAA;tEE;u;tO;tWA;sXA;tU;tI;tAA;tEE;u;tO;uA;
tWA;128A:uI;uAA;uEE;v;1290:sNA;tU;tI;tAA;tEE;u;tO;tWA;tYA;uU;uI;uAA;uEE;v;uO;uWA;sGLOTTAL A;zbU;
zbI;zbAA;zbEE;zc;zbO;zbWA;sKA;tU;tI;tAA;tEE;u;tO;uA;tWA;12B2:uI;uAA;uEE;v;12B8:tXA;uU;uI;uAA;uEE;
v;uO;12C0:uWA;12C2:vI;vAA;vEE;w;12C8:sWA;tU;tI;tAA;tEE;u;tO;uA;sPHARYNGEAL A;zeU;zeI;zeAA;zeEE;zf;
zeO;12D8:sZA;tU;tI;tAA;tEE;u;tO;tWA;tHA;uU;uI;uAA;uEE;v;uO;uWA;sYA;tU;tI;tAA;tEE;u;tO;uA;sDA;tU;
tI;tAA;tEE;u;tO;tWA;tDA;uU;uI;uAA;uEE;v;uO;uWA;sJA;tU;tI;tAA;tEE;u;tO;tWA;sGA;tU;tI;tAA;tEE;u;tO;
uA;tWA;1312:uI;uAA;uEE;v;1318:tGA;uU;uI;uAA;uEE;v;uO;uWAA;sTHA;uU;uI;uAA;uEE;v;uO;uWA;sCHA;uU;uI;
uAA;uEE;v;uO;uWA;sPHA;uU;uI;uAA;uEE;v;uO;uWA;sTSA;uU;uI;uAA;uEE;v;uO;uWA;tZA;uU;uI;uAA;uEE;v;uO;
vA;sFA;tU;tI;tAA;tEE;u;tO;tWA;sPA;tU;tI;tAA;tEE;u;tO;tWA;sRYA;sMYA;sFYA;135D:jCOMBINING GEMINATIO
N AND VOWEL LENGTH MARK;tVOWEL LENGTH MARK;tGEMINATION MARK;jSECTION MARK;jWORDSPACE;jFULL STOP;
jCOMMA;jSEMICOLON;jCOLON;jPREFACE COLON;jQUESTION MARK;jPARAGRAPH SEPARATOR;jDIGIT ONE;pTWO;qHREE;
pFOUR;qIVE;pSIX;qEVEN;pEIGHT;pNINE;jNUMBER TEN;rWENTY;rHIRTY;qFORTY;rIFTY;qSIXTY;rEVENTY;qEIGHTY;
qNINETY;qHUNDRED;qTEN THOUSAND;1380:jSYLLABLE SEBATBEIT MWA;sMWI;uEE;v;sSEBATBEIT BWA;sBWI;uEE;v;
sSEBATBEIT FWA;sFWI;uEE;v;sSEBATBEIT PWA;sPWI;uEE;v;jTONAL MARK YIZET;uDERET;uRIKRIK;
uSHORT RIKRIK;uDIFAT;uKENAT;uCHIRET;uHIDET;uDERET-HIDET;uKURT;13A0:aCHEROKEE LETTER A;qE;qI;qO;qU;
qV;qGA;qKA;qGE;rI;rO;rU;rV;qHA;rE;rI;rO;rU;rV;qLA;rE;rI;rO;rU;rV;qMA;rE;rI;rO;rU;qNA;qHNA;qNAH;rE;
rI;rO;rU;rV;qQUA;sE;sI;sO;sU;sV;qSA;r;rE;rI;rO;rU;rV;qDA;qTA;qDE;qTE;qDI;qTI;qDO;rU;rV;rLA;qTLA;
sE;sI;sO;sU;sV;rSA;sE;sI;sO;sU;sV;qWA;rE;rI;rO;rU;rV;qYA;rE;rI;rO;rU;rV;qMV;13F8:jSMALL LETTER YE;
xI;xO;xU;xV;wMV;1400:bANADIAN SYLLABICS HYPHEN;tE;tAAI;tI;uI;tO;uO;tY-CREE OO;tCARRIER EE;zcI;tA;
uA;tWE;vST-CREE WE;uI;uEST-CREE WI;uII;uEST-CREE WII;uO;uEST-CREE WO;uOO;uEST-CREE WOO;
tNASKAPI WOO;tWA;uEST-CREE WA;uAA;uEST-CREE WAA;tNASKAPI WAA;tAI;tY-CREE W;tGLOTTAL STOP;
tFINAL ACUTE;zGRAVE;zBOTTOM HALF RING;zTOP HALF RING;zRIGHT HALF RING;zcNG;zDOUBLE ACUTE;
zhSHORT VERTICAL STROKES;zMIDDLE DOT;zSHORT HORIZONTAL STROKE;zPLUS;zDOWN TACK;tEN;tIN;tON;tAN;
tPE;uAAI;uI;vI;uO;vO;tY-CREE POO;tCARRIER HEE;zdI;tPA;vA;uWE;tWEST-CREE PWE;tPWI;tWEST-CREE PWI;
tPWII;tWEST-CREE PWII;tPWO;tWEST-CREE PWO;tPWOO;tWEST-CREE PWOO;tPWA;tWEST-CREE PWA;tPWAA;
tWEST-CREE PWAA;tY-CREE PWAA;tP;tWEST-CREE P;tCARRIER H;tTE;uAAI;uI;vI;uO;vO;tY-CREE TOO;
tCARRIER DEE;zdI;tTA;vA;uWE;tWEST-CREE TWE;tTWI;tWEST-CREE TWI;tTWII;tWEST-CREE TWII;tTWO;
tWEST-CREE TWO;tTWOO;tWEST-CREE TWOO;tTWA;tWEST-CREE TWA;tTWAA;tWEST-CREE TWAA;tNASKAPI TWAA;tT;
uTE;vI;vO;vA;tKE;uAAI;uI;vI;uO;vO;tY-CREE KOO;tKA;vA;uWE;tWEST-CREE KWE;tKWI;tWEST-CREE KWI;tKWII;
tWEST-CREE KWII;tKWO;tWEST-CREE KWO;tKWOO;tWEST-CREE KWOO;tKWA;tWEST-CREE KWA;tKWAA;
tWEST-CREE KWAA;tNASKAPI KWAA;tK;uW;tSOUTH-SLAVEY KEH;ziIH;ziOH;ziAH;tCE;uAAI;uI;vI;uO;vO;
tY-CREE COO;tCA;vA;uWE;tWEST-CREE CWE;tCWI;tWEST-CREE CWI;tCWII;tWEST-CREE CWII;tCWO;
tWEST-CREE CWO;tCWOO;tWEST-CREE CWOO;tCWA;tWEST-CREE CWA;tCWAA;tWEST-CREE CWAA;tNASKAPI CWAA;tC;
tSAYISI TH;tME;uAAI;uI;vI;uO;vO;tY-CREE MOO;tMA;vA;uWE;tWEST-CREE MWE;tMWI;tWEST-CREE MWI;tMWII;
tWEST-CREE MWII;tMWO;tWEST-CREE MWO;tMWOO;tWEST-CREE MWOO;tMWA;tWEST-CREE MWA;tMWAA;
tWEST-CREE MWAA;tNASKAPI MWAA;tM;tWEST-CREE M;tMH;tATHAPASCAN M;tSAYISI M;tNE;uAAI;uI;vI;uO;vO;
tY-CREE NOO;tNA;vA;uWE;tWEST-CREE NWE;tNWA;tWEST-CREE NWA;tNWAA;tWEST-CREE NWAA;tNASKAPI NWAA;u;
tCARRIER NG;tNH;tLE;uAAI;uI;vI;uO;vO;tY-CREE LOO;tLA;vA;uWE;tWEST-CREE LWE;tLWI;tWEST-CREE LWI;
tLWII;tWEST-CREE LWII;tLWO;tWEST-CREE LWO;tLWOO;tWEST-CREE LWOO;tLWA;tWEST-CREE LWA;tLWAA;
tWEST-CREE LWAA;tL;tWEST-CREE L;tMEDIAL L;tSE;uAAI;uI;vI;uO;vO;tY-CREE SOO;tSA;vA;uWE;
tWEST-CREE SWE;tSWI;tWEST-CREE SWI;tSWII;tWEST-CREE SWII;tSWO;tWEST-CREE SWO;tSWOO;
tWEST-CREE SWOO;tSWA;tWEST-CREE SWA;tSWAA;tWEST-CREE SWAA;tNASKAPI SWAA;tS;tATHAPASCAN S;tSW;
tBLACKFOOT S;tMOOSE-CREE SK;tNASKAPI SKW;zd-W;zdPWA;zdTWA;zdKWA;zdCWA;tSHE;vI;wI;vO;wO;vA;wA;vWE;
tWEST-CREE SHWE;tSHWI;tWEST-CREE SHWI;tSHWII;tWEST-CREE SHWII;tSHWO;tWEST-CREE SHWO;tSHWOO;
tWEST-CREE SHWOO;tSHWA;tWEST-CREE SHWA;tSHWAA;tWEST-CREE SHWAA;tSH;tYE;uAAI;uI;vI;uO;vO;
u-CREE YOO;uA;vA;uWE;tWEST-CREE YWE;tYWI;tWEST-CREE YWI;tYWII;tWEST-CREE YWII;tYWO;tWEST-CREE YWO;
tYWOO;tWEST-CREE YWOO;tYWA;tWEST-CREE YWA;tYWAA;tWEST-CREE YWAA;tNASKAPI YWAA;tY;tBIBLE-CREE Y;
tWEST-CREE Y;tSAYISI YI;tRE;u-CREE RE;tWEST-CREE LE;tRAAI;uI;vI;uO;vO;tWEST-CREE LO;tRA;vA;
tWEST-CREE LA;tRWAA;tWEST-CREE RWAA;tR;tWEST-CREE R;tMEDIAL R;tFE;uAAI;uI;vI;uO;vO;uA;vA;uWAA;
tWEST-CREE FWAA;tF;tTHE;tN-CREE THE;tTHI;tN-CREE THI;tTHII;tN-CREE THII;tTHO;wO;vA;wA;vWAA;
tWEST-CREE THWAA;tTH;uTHE;wI;wO;wA;w;uYE;vI;vO;vA;tNUNAVIK HE;zdI;zeI;zdO;zeO;zdA;zeA;zd;yUT H;
tHK;tQAAI;uI;vI;uO;vO;uA;vA;u;tTLHE;wI;wO;wA;tWEST-CREE RE;zfI;zfO;zfA;tNGAAI;vI;wI;vO;wO;vA;wA;v;
uNG;tSAYISI SHE;zdI;zdO;zdA;tWOODS-CREE THE;zhI;zhO;zhA;zh;tLHI;wI;vO;wO;vA;wA;v;tTH-CREE THE;zeI;
zfI;zeO;zfO;zeA;zfA;ze;tAIVILIK B;tBLACKFOOT E;zeI;zeO;zeA;zeWE;zfI;zfO;zfA;zeNE;zfI;zfO;zfA;zeKE;
zfI;zfO;zfA;tSAYISI HE;zcI;zcO;zcA;tCARRIER GHU;zeO;zeE;zfE;zeI;zeA;zcRU;zdO;zdE;zeE;zdI;zdA;zcWU;
zdO;zdE;zeE;zdI;zdA;zcHWU;zeO;zeE;zfE;zeI;zeA;zcTHU;zeO;zeE;zfE;zeI;zeA;zdTU;zeO;zeE;zfE;zeI;zeA;
zcPU;zdO;zdE;zeE;zdI;zdA;zd;zcGU;zdO;zdE;zeE;zdI;zdA;zcKHU;zeO;zeE;zfE;zeI;zeA;zdKU;zeO;zeE;zfE;
zeI;zeA;ze;zcNU;zdO;zdE;zeE;zdI;zdA;zcMU;zdO;zdE;zeE;zdI;zdA;zcYU;zdO;zdE;zeE;zdI;zdA;zcJU;
tSAYISI JU;tCARRIER JO;zdE;zeE;zdI;tSAYISI JI;tCARRIER JA;zdJU;zeO;zeE;zfE;zeI;zeA;zcLU;zdO;zdE;
zeE;zdI;zdA;zcDLU;zeO;zeE;zfE;zeI;zeA;zcLHU;zeO;zeE;zfE;zeI;zeA;zcTLHU;zfO;zfE;zgE;zfI;zfA;zeU;
zeO;zeE;zfE;zeI;zeA;zcZU;zdO;zdE;zeE;zdI;zdA;zd;zcINITIAL Z;zcDZU;zeO;zeE;zfE;zeI;zeA;zcSU;zdO;
zdE;zeE;zdI;zdA;zdHU;zeO;zeE;zfE;zeI;zeA;ze;zcTSU;zeO;zeE;zfE;zeI;zeA;zcCHU;zeO;zeE;zfE;zeI;zeA;
zcTTSU;zfO;zfE;zgE;zfI;zfA;uHI SIGN;tFULL STOP;tQAI;tNGAI;uNGI;xI;wO;xO;wA;xA;tWOODS-CREE THWEE;
ziI;zjI;ziO;zjO;ziA;zjA;zfFINAL TH;tBLACKFOOT W;aOGHAM SPACE MARK;gLETTER BEITH;nLUIS;nFEARN;
nSAIL;nNION;nUATH;nDAIR;nTINNE;nCOLL;oEIRT;nMUIN;nGORT;nNGEADAL;nSTRAIF;nRUIS;nAILM;nONN;nUR;
nEADHADH;nIODHADH;nEABHADH;nOR;nUILLEANN;nIFIN;nEAMHANCHOLL;nPEITH;gFEATHER MARK;
gREVERSED FEATHER MARK;16A0:aRUNIC LETTER FEHU FEOH FE F;nV;nURUZ UR U;nYR;o;nW;
nTHURISAZ THURS THORN;nETH;nANSUZ A;nOS O;nAC A;oESC;nLONG-BRANCH-OSS O;nSHORT-TWIG-OSS O;nO;oE;
oN;nRAIDO RAD REID R;nKAUNA;nCEN;nKAUN K;nG;nENG;nGEBO GYFU G;oAR;nWUNJO WYNN W;nHAGLAZ H;pEGL H;
nLONG-BRANCH-HAGALL H;nSHORT-TWIG-HAGALL H;nNAUDIZ NYD NAUD N;nSHORT-TWIG-NAUD N;nDOTTED-N;
nISAZ IS ISS I;nE;nJERAN J;nGER;nLONG-BRANCH-AR AE;nSHORT-TWIG-AR A;nIWAZ EOH;nPERTHO PEORTH P;
nALGIZ EOLHX;nSOWILO S;oIGEL LONG-BRANCH-SOL S;oHORT-TWIG-SOL S;nC;nZ;nTIWAZ TIR TYR T;
nSHORT-TWIG-TYR T;nD;nBERKANAN BEORC BJARKAN B;nSHORT-TWIG-BJARKAN B;nDOTTED-P;nOPEN-P;
nEHWAZ EH E;nMANNAZ MAN M;nLONG-BRANCH-MADR M;nSHORT-TWIG-MADR M;nLAUKAZ LAGU LOGR L;nDOTTED-L;
nINGWAZ;q;nDAGAZ DAEG D;nOTHALAN ETHEL O;nEAR;nIOR;nCWEORTH;oALC;oEALC;nSTAN;nLONG-BRANCH-YR;
nSHORT-TWIG-YR;nICELANDIC-YR;nQ;nX;gSINGLE PUNCTUATION;gMULTIPLE PUNCTUATION;gCROSS PUNCTUATION;
gARLAUG SYMBOL;gTVIMADUR SYMBOL;gBELGTHOR SYMBOL;gLETTER K;nSH;nOO;nFRANKS CASKET OS;zcIS;zcEH;
zcAC;zdESC;1700:aTAGALOG LETTER A;pI;pU;pKA;pGA;pNGA;pTA;pDA;pNA;pPA;pBA;pMA;pYA;pRA;pLA;pWA;pSA;
pHA;iVOWEL SIGN I;tU;iSIGN VIRAMA;nPAMUDPOD;171F:iLETTER ARCHAIC RA;aHANUNOO LETTER A;pI;pU;pKA;
pGA;pNGA;pTA;pDA;pNA;pPA;pBA;pMA;pYA;pRA;pLA;pWA;pSA;pHA;iVOWEL SIGN I;tU;iSIGN PAMUDPOD;
aPHILIPPINE SINGLE PUNCTUATION;lDOUBLE PUNCTUATION;1740:aBUHID LETTER A;nI;nU;nKA;nGA;nNGA;nTA;
nDA;nNA;nPA;nBA;nMA;nYA;nRA;nLA;nWA;nSA;nHA;gVOWEL SIGN I;rU;1760:aTAGBANWA LETTER A;qI;qU;qKA;
qGA;qNGA;qTA;qDA;qNA;qPA;qBA;qMA;qYA;176E:qLA;qWA;qSA;1772:jVOWEL SIGN I;uU;1780:aKHMER LETTER KA;
oHA;oO;oHO;nNGO;nCA;oHA;oO;oHO;nNYO;nDA;nTTHA;nDO;nTTHO;nNNO;nTA;oHA;oO;oHO;nNO;nBA;nPHA;oO;oHO;
nMO;nYO;nRO;nLO;nVO;nSHA;oSO;oA;nHA;nLA;nQA;gINDEPENDENT VOWEL QAQ;zbA;zI;zbI;zU;zbK;zbU;zcV;yRY;
zbY;yLY;zbY;yQE;zAI;zOO TYPE ONE;ziTWO;zAU;gVOWEL INHERENT AQ;wA;mSIGN AA;rI;sI;rY;sY;rU;sU;sA;
rOE;rYA;rIE;rE;rAE;sI;rOO;rAU;gSIGN NIKAHIT;lREAHMUK;lYUUKALEAPINTU;lMUUSIKATOAN;lTRIISAP;lBANTOC;
lROBAT;lTOANDAKHIAT;lKAKABAT;lAHSDA;lSAMYOK SANNYA;lVIRIAM;lCOENG;lBATHAMASAT;lKHAN;lBARIYOOSAN;
lCAMNUC PII KUUH;lLEK TOO;lBEYYAL;lPHNAEK MUAN;lKOOMUUT;gCURRENCY SYMBOL RIEL;gSIGN AVAKRAHASANYA;
mTTHACAN;17E0:gDIGIT ZERO;mONE;mTWO;nHREE;mFOUR;nIVE;mSIX;nEVEN;mEIGHT;mNINE;
17F0:gSYMBOL LEK ATTAK SON;xMUOY;xPII;xBEI;yUON;xPRAM;zc-MUOY;zdPII;zdBEI;zeUON;
1800:aMONGOLIAN BIRGA;kELLIPSIS;kCOMMA;kFULL STOP;kCOLON;kFOUR DOTS;kTODO SOFT HYPHEN;
kSIBE SYLLABLE BOUNDARY MARKER;kMANCHU COMMA;rFULL STOP;kNIRUGU;kFREE VARIATION SELECTOR ONE;
zjTWO;zkHREE;kVOWEL SEPARATOR;kFREE VARIATION SELECTOR FOUR;kDIGIT ZERO;qONE;qTWO;rHREE;qFOUR;
rIVE;qSIX;rEVEN;qEIGHT;qNINE;1820:kLETTER A;rE;rI;rO;rU;rOE;rUE;rEE;rNA;rANG;rBA;rPA;rQA;rGA;rMA;
rLA;rSA;sHA;rTA;rDA;rCHA;rJA;rYA;rRA;rWA;rFA;rKA;sHA;rTSA;rZA;rHAA;rZRA;rLHA;rZHI;rCHI;
rTODO LONG VOWEL SIGN;wE;wI;wO;wU;wOE;wUE;wANG;wBA;wPA;wQA;wGA;wMA;wTA;wDA;wCHA;wJA;wTSA;wYA;wWA;
wKA;wGAA;wHAA;wJIA;wNIA;wDZA;rSIBE E;wI;xY;wUE;x;wANG;wKA;wGA;wHA;wPA;wSHA;wTA;wDA;wJA;wFA;wGAA;
wHAA;wTSA;wZA;wRAA;wCHA;wZHA;rMANCHU I;yKA;yRA;yFA;yZHA;rCHA WITH TWO DOTS;
1880:rALI GALI ANUSVARA ONE;zbVISARGA ONE;zbDAMARU;zbUBADAMA;zbINVERTED UBADAMA;zbBALUDA;
zbTHREE BALUDA;zbA;zbI;zbKA;zbNGA;zbCA;zbTTA;zdHA;zbDDA;zbNNA;zbTA;zbDA;zbPA;zcHA;zbSSA;zbZHA;zcA;
zbAH;rTODO ALI GALI TA;zgZHA;rMANCHU ALI GALI GHA;ziNGA;ziCA;ziJHA;ziTTA;ziDDHA;ziTA;ziDHA;ziSSA;
ziCYA;ziZHA;zjA;rALI GALI HALF U;zgYA;rMANCHU ALI GALI BHA;rALI GALI DAGALGA;rMANCHU ALI GALI LHA;
18B0:aCANADIAN SYLLABICS OY;tAY;uAY;tWAY;tPOY;uAY;uWOY;tTAY;tKAY;uWAY;tMAY;tNOY;uAY;tLAY;tSOY;uAY;
uHOY;vAY;vWOY;tYOY;uAY;tRAY;tNWI;tOJIBWAY NWI;tNWII;tOJIBWAY NWII;tNWO;tOJIBWAY NWO;tNWOO;
tOJIBWAY NWOO;tRWEE;vI;wI;vO;wO;vA;tOJIBWAY P;zcT;zcK;zcC;zcM;zcN;zcS;zdH;tEASTERN W;tWESTERN W;
tFINAL SMALL RING;zRAISED DOT;tR-CREE RWE;tWEST-CREE LOO;zfAA;tTHWE;wA;uTHWE;wOO;wAA;uLHWE;wOO;
tSAYISI SHWE;zdOO;zbHOO;tCARRIER GWU;zcDENE GEE;zcGAA;zdWA;tSAYISI JUU;tCARRIER JWA;
tBEAVER DENE L;zgR;tCARRIER DENTAL S;1900:aLIMBU VOWEL-CARRIER LETTER;gLETTER KA;oHA;nGA;oHA;nNGA;
nCA;oHA;nJA;oHA;nYAN;nTA;oHA;nDA;oHA;nNA;nPA;oHA;nBA;oHA;nMA;nYA;nRA;nLA;nWA;nSHA;oSA;oA;nHA;
nGYAN;nTRA;1920:gVOWEL SIGN A;rI;rU;rEE;rAI;rOO;rAU;rE;rO;gSUBJOINED LETTER YA;xRA;xWA;
1930:hMALL LETTER KA;tNGA;tANUSVARA;tTA;tNA;tPA;tMA;tRA;tLA;hIGN MUKPHRENG;lKEMPHRENG;lSA-I;
1940:lLOO;1944:gEXCLAMATION MARK;gQUESTION MARK;gDIGIT ZERO;mONE;mTWO;nHREE;mFOUR;nIVE;mSIX;nEVEN;
mEIGHT;mNINE;aTAI LE LETTER KA;oXA;oNGA;oTSA;oSA;oYA;oTA;pHA;oLA;oPA;pHA;oMA;oFA;oVA;oHA;oQA;oKHA;
oTSHA;oNA;oA;oI;oEE;pH;oU;oOO;p;oUE;oE;oAUE;pI;1970:oTONE-2;t3;t4;t5;t6;1980:aNEW TAI LUE LETTER H
IGH QA;tLOW QA;tHIGH KA;yXA;yNGA;tLOW KA;xXA;xNGA;tHIGH TSA;ySA;yYA;tLOW TSA;xSA;xYA;tHIGH TA;zHA;
yNA;tLOW TA;yHA;xNA;tHIGH PA;zHA;yMA;tLOW PA;yHA;xMA;tHIGH FA;yVA;yLA;tLOW FA;xVA;xLA;tHIGH HA;
yDA;yBA;tLOW HA;xDA;xBA;tHIGH KVA;yXVA;tLOW KVA;xXVA;tHIGH SUA;tLOW SUA;19B0:mVOWEL SIGN VOWEL SHO
RTENER;xAA;xII;xU;yU;xE;xAE;xO;yA;xUE;xAY;yAY;xUY;xOY;yAY;xUEY;xIY;mLETTER FINAL V;zNG;zb;zM;zK;
zD;zB;mTONE MARK-1;w2;19D0:mDIGIT ZERO;sONE;sTWO;tHREE;sFOUR;tIVE;sSIX;tEVEN;sEIGHT;sNINE;
mTHAM DIGIT ONE;19DE:mSIGN LAE;uV;aKHMER SYMBOL PATHAMASAT;nMUOY KOET;nPII KOET;nBEI KOET;
oUON KOET;nPRAM KOET;r-MUOY KOET;sPII KOET;sBEI KOET;tUON KOET;nDAP KOET;q-MUOY KOET;rPII KOET;
rBEI KOET;sUON KOET;rPRAM KOET;nTUTEYASAT;nMUOY ROC;nPII ROC;nBEI ROC;oUON ROC;nPRAM ROC;
r-MUOY ROC;sPII ROC;sBEI ROC;tUON ROC;nDAP ROC;q-MUOY ROC;rPII ROC;rBEI ROC;sUON ROC;rPRAM ROC;
aBUGINESE LETTER KA;qGA;qNGA;sKA;qPA;qBA;qMA;rPA;qTA;qDA;qNA;rRA;qCA;qJA;qNYA;sCA;qYA;qRA;qLA;qVA;
qSA;qA;qHA;jVOWEL SIGN I;uU;uE;uO;uAE;1A1E:jPALLAWA;jEND OF SECTION;aTAI THAM LETTER HIGH KA;wHA;
wXA;qLOW KA;vXA;vHA;qNGA;qHIGH CA;wHA;qLOW CA;uSA;uCHA;qNYA;qRATA;qHIGH RATHA;qDA;qLOW RATHA;
qRANA;qHIGH TA;wHA;qLOW TA;vHA;qNA;qBA;qHIGH PA;wHA;vFA;qLOW PA;uFA;uPHA;qMA;qLOW YA;qHIGH YA;qRA;
rUE;qLA;rUE;qWA;qHIGH SHA;wSA;wA;vHA;qLLA;qA;qLOW HA;qI;rI;qU;rU;qEE;qOO;qLAE;qGREAT SA;
jCONSONANT SIGN MEDIAL RA;zgLA;yLA TANG LAI;jSIGN MAI KANG LAI;jCONSONANT SIGN FINAL NGA;yLOW PA;
yHIGH RATHA OR LOW PA;yMA;yBA;ySA;1A60:jSIGN SAKOT;jVOWEL SIGN A;uMAI SAT;uAA;uTALL AA;uI;vI;uUE;
vUE;v;vU;uO;vA BELOW;vY;uE;uAE;uOO;uAI;uTHAM AI;uOA ABOVE;jSIGN MAI KANG;oTONE-1;t2;oKHUEN TONE-3;
z4;z5;oRA HAAM;oMAI SAM;oKHUEN-LUE KARAN;1A7F:jCOMBINING CRYPTOGRAMMIC DOT;jHORA DIGIT ZERO;uONE;
uTWO;vHREE;uFOUR;vIVE;uSIX;vEVEN;uEIGHT;uNINE;1A90:jTHAM DIGIT ZERO;uONE;uTWO;vHREE;uFOUR;vIVE;
uSIX;vEVEN;uEIGHT;uNINE;1AA0:jSIGN WIANG;tWAAK;oSAWAN;oKEOW;oHOY;oDOKMAI;oREVERSED ROTATED RANA;
oMAI YAMOK;oKAAN;sKUU;oSATKAAN;vKUU;oHANG;oCAANG;1AB0:aCOMBINING DOUBLED CIRCUMFLEX ACCENT;
lIAERESIS-RING;kINFINITY;kDOWNWARDS ARROW;kTRIPLE DOT;kX-X BELOW;kWIGGLY LINE BELOW;
kOPEN MARK BELOW;kDOUBLE OPEN MARK BELOW;kLIGHT CENTRALIZATION STROKE BELOW;
kSTRONG CENTRALIZATION STROKE BELOW;kPARENTHESES ABOVE;kDOUBLE PARENTHESES ABOVE;
kPARENTHESES BELOW;wOVERLAY;kLATIN SMALL LETTER W BELOW;zeTURNED W BELOW;lEFT PARENTHESIS ABOVE LE
FT;kRIGHT PARENTHESIS ABOVE RIGHT;kLEFT PARENTHESIS BELOW LEFT;kRIGHT PARENTHESIS BELOW RIGHT;
kSQUARE BRACKETS ABOVE;kNUMBER SIGN ABOVE;kINVERTED DOUBLE ARCH ABOVE;kPLUS SIGN ABOVE;
kDOUBLE PLUS SIGN ABOVE;zcBELOW;kTRIPLE ACUTE ACCENT;kLATIN SMALL LETTER INSULAR G;zmR;zmT;
1B00:aBALINESE SIGN ULU RICEM;sCANDRA;oCECEK;oSURANG;oBISAH;jLETTER AKARA;v TEDUNG;qIKARA;
v TEDUNG;qUKARA;v TEDUNG;qRA REPA;x TEDUNG;qLA LENGA;y TEDUNG;qEKARA;qAIKARA;qOKARA;v TEDUNG;qKA;
s MAHAPRANA;qGA;s GORA;qNGA;qCA;s LACA;qJA;s JERA;qNYA;qTA LATIK;tMURDA MAHAPRANA;
qDA MURDA ALPAPRANA;zMAHAPRANA;qNA RAMBAT;qTA;s TAWA;qDA;s MADU;qNA;qPA;s KAPAL;qBA;s KEMBANG;qMA;
qYA;qRA;qLA;qWA;qSA SAGA;vPA;s;qHA;jSIGN REREKAN;jVOWEL SIGN TEDUNG;uULU;x SARI;uSUKU;y ILUT;
uRA REPA;zc TEDUNG;uLA LENGA;zd TEDUNG;uTALING;zb REPA;zcTEDUNG;zcREPA TEDUNG;uPEPET;z TEDUNG;
jADEG ADEG;jLETTER KAF SASAK;rHOT SASAK;qTZIR SASAK;qEF SASAK;qVE SASAK;qZAL SASAK;qASYURA SASAK;
rRCHAIC JNYA;1B50:jDIGIT ZERO;pONE;pTWO;qHREE;pFOUR;qIVE;pSIX;qEVEN;pEIGHT;pNINE;jPANTI;lMADA;
jWINDU;jCARIK PAMUNGKAH;pSIKI;pPAREREN;jPAMENENG;jMUSICAL SYMBOL DONG;zENG;zUNG;zANG;zd SURANG;
zING;zAENG;zEUNG;zAING;zbNG GEDE;yCOMBINING TEGEH;zjENDEP;zjKEMPUL;znLI;zjJEGOGAN;
zjKEMPUL WITH JEGOGAN;znLI WITH JEGOGAN;zjBENDE;zjGONG;yRIGHT-HAND OPEN DUG;zqAG;zkCLOSED TUK;
zsAK;yLEFT-HAND OPEN PANG;zpUNG;zjCLOSED PLAK;zsUK;zjOPEN PING;jPANTI LANTANG;lMADA LANTANG;
1B80:aSUNDANESE SIGN PANYECEK;sGLAYAR;tWISAD;kLETTER A;rI;rU;rAE;rO;rE;sU;rKA;rQA;rGA;rNGA;rCA;
rJA;rZA;rNYA;rTA;rDA;rNA;rPA;rFA;rVA;rBA;rMA;rYA;rRA;rLA;rWA;rSA;rXA;rHA;kCONSONANT SIGN PAMINGKAL
;zcNYAKRA;zeIKU;kVOWEL SIGN PANGHULU;yYUKU;yAELAENG;yOLONG;xMEPET;xNEULEUNG;kSIGN PAMAAEH;pVIRAMA;
kCONSONANT SIGN PASANGAN MA;zjWA;kLETTER KHA;rSYA;kDIGIT ZERO;qONE;qTWO;rHREE;qFOUR;rIVE;qSIX;
rEVEN;qEIGHT;qNINE;kAVAGRAHA;kLETTER REU;rLEU;rBHA;rFINAL K;xM;aBATAK LETTER A;nSIMALUNGUN A;nHA;
nSIMALUNGUN HA;nMANDAILING HA;nBA;nKARO BA;nPA;nSIMALUNGUN PA;nNA;nMANDAILING NA;nWA;
nSIMALUNGUN WA;nPAKPAK WA;nGA;nSIMALUNGUN GA;nJA;nDA;nRA;nSIMALUNGUN RA;nMA;nSIMALUNGUN MA;
oOUTHERN TA;nNORTHERN TA;nSA;oIMALUNGUN SA;nMANDAILING SA;nYA;nSIMALUNGUN YA;nNGA;nLA;
nSIMALUNGUN LA;nNYA;nCA;nNDA;nMBA;nI;nU;gSIGN TOMPI;gVOWEL SIGN E;rPAKPAK E;rEE;rI;rKARO I;rO;
rKARO O;rU;s FOR SIMALUNGUN SA;gCONSONANT SIGN NG;vH;gPANGOLAT;jONGONAN;1BFC:gSYMBOL BINDU NA METE
K;tPINARBORAS;tJUDUL;tPANGOLAT;aLEPCHA LETTER KA;pLA;pHA;oGA;pLA;oNGA;oCA;pHA;oJA;oNYA;oTA;pHA;
oDA;oNA;oPA;pLA;pHA;oFA;pLA;oBA;pLA;oMA;pLA;oTSA;qHA;oDZA;oYA;oRA;oLA;oHA;pLA;oVA;oSA;pHA;oWA;oA;
hSUBJOINED LETTER YA;yRA;hVOWEL SIGN AA;sI;sO;tO;sU;tU;sE;hCONSONANT SIGN K;wM;wL;wN;wP;wR;wT;
wNYIN-DO;wKANG;hSIGN RAN;mNUKTA;1C3B:hPUNCTUATION TA-ROL;tNYET THYOOM TA-ROL;tCER-WA;
tTSHOOK CER-WA;z;hDIGIT ZERO;nONE;nTWO;oHREE;nFOUR;oIVE;nSIX;oEVEN;nEIGHT;nNINE;1C4D:hLETTER TTA;
qHA;oDDA;aOL CHIKI DIGIT ZERO;pONE;pTWO;qHREE;pFOUR;qIVE;pSIX;qEVEN;pEIGHT;pNINE;jLETTER LA;qAT;
rG;rNG;rL;qLAA;qAAK;sJ;sM;sW;qLI;qIS;rH;rNY;rR;qLU;qUC;rD;rNN;rY;qLE;qEP;rDD;rN;rRR;qLO;qOTT;rB;
rV;rH;jMU TTUDDAG;jGAAHLAA TTUDDAAG;jMU-GAAHLAA TTUDDAAG;jRELAA;jPHAARKAA;jAHAD;
jPUNCTUATION MUCAAD;vDOUBLE MUCAAD;aCYRILLIC SMALL LETTER ROUNDED VE;wLONG-LEGGED DE;wNARROW O;
wWIDE ES;wTALL TE;xHREE-LEGGED TE;xALL HARD SIGN;zcYAT;wUNBLENDED UK;1C90:aGEORGIAN MTAVRULI CAPIT
AL LETTER AN;ziBAN;ziGAN;ziDON;ziEN;ziVIN;ziZEN;ziTAN;ziIN;ziKAN;ziLAS;ziMAN;ziNAR;ziON;ziPAR;
ziZHAR;ziRAE;ziSAN;ziTAR;ziUN;ziPHAR;ziKHAR;ziGHAN;ziQAR;ziSHIN;ziCHIN;zjAN;ziJIL;ziCIL;zjHAR;
ziXAN;ziJHAN;ziHAE;zjE;zjIE;ziWE;ziHAR;zjOE;ziFI;ziYN;ziELIFI;ziTURNED GAN;ziAIN;1CBD:zjEN;
ziHARD SIGN;ziLABIAL SIGN;aSUNDANESE PUNCTUATION BINDU SURYA;zdPANGLONG;zeURNAMA;zdCAKRA;
zdLEU SATANGA;zdKA SATANGA;zdDA SATANGA;zdBA SATANGA;1CD0:aVEDIC TONE KARSHANA;lSHARA;lPRENKHA;
gSIGN NIHSHVASA;lYAJURVEDIC MIDLINE SVARITA;gTONE YAJURVEDIC AGGRAVATED INDEPENDENT SVARITA;
wINDEPENDENT SVARITA;wKATHAKA INDEPENDENT SVARITA;lCANDRA BELOW;lYAJURVEDIC KATHAKA INDEPENDENT SV
ARITA SCHROEDER;lDOUBLE SVARITA;lTRIPLE SVARITA;lKATHAKA ANUDATTA;lDOT BELOW;lTWO DOTS BELOW;
mHREE DOTS BELOW;lRIGVEDIC KASHMIRI INDEPENDENT SVARITA;lATHARVAVEDIC INDEPENDENT SVARITA;
gSIGN VISARGA SVARITA;tUDATTA;lREVERSED VISARGA UDATTA;lVISARGA ANUDATTA;lREVERSED VISARGA ANUDATT
A;lVISARGA UDATTA WITH TAIL;tANUDATTA WITH TAIL;lANUSVARA ANTARGOMUKHA;uBAHIRGOMUKHA;uVAMAGOMUKHA;
zg WITH TAIL;lTIRYAK;lHEXIFORM LONG ANUSVARA;lLONG ANUSVARA;lRTHANG LONG ANUSVARA;
lANUSVARA UBHAYATO MUKHA;mRDHAVISARGA;lROTATED ARDHAVISARGA;gTONE CANDRA ABOVE;gSIGN JIHVAMULIYA;
lUPADHMANIYA;lATIKRAMA;gTONE RING ABOVE;lDOUBLE RING ABOVE;gSIGN DOUBLE ANUSVARA ANTARGOMUKHA;
1D00:aLATIN LETTER SMALL CAPITAL A;zdE;gSMALL LETTER TURNED AE;gLETTER SMALL CAPITAL BARRED B;zcC;
zcD;zcETH;zd;gSMALL LETTER TURNED OPEN E;zbI;gLETTER SMALL CAPITAL J;zcK;zcL WITH STROKE;zcM;
zcREVERSED N;zcO;zdPEN O;gSMALL LETTER SIDEWAYS O;zePEN O;ze WITH STROKE;tTURNED OE;
gLETTER SMALL CAPITAL OU;gSMALL LETTER TOP HALF O;tBOTTOM HALF O;gLETTER SMALL CAPITAL P;
zcREVERSED R;zcTURNED R;zd;zcU;gSMALL LETTER SIDEWAYS U;zdDIAERESIZED U;zdTURNED M;
gLETTER SMALL CAPITAL V;zcW;zcZ;zcEZH;nVOICED LARYNGEAL SPIRANT;nAIN;aGREEK LETTER SMALL CAPITAL G
AMMA;zcLAMDA;zcPI;zcRHO;zcPSI;aCYRILLIC LETTER SMALL CAPITAL EL;aMODIFIER LETTER CAPITAL A;zE;yB;
zARRED B;yD;yE;yREVERSED E;yG;yH;yI;yJ;yK;yL;yM;yN;yREVERSED N;yO;zU;yP;yR;yT;yU;yW;qSMALL A;
wTURNED A;wALPHA;wTURNED AE;wB;wD;wE;wSCHWA;wOPEN E;wTURNED OPEN E;wG;wTURNED I;wK;wM;wENG;wO;
xPEN O;wTOP HALF O;wBOTTOM HALF O;wP;wT;wU;wSIDEWAYS U;wTURNED M;wV;wAIN;wBETA;wGREEK GAMMA;
wDELTA;wGREEK PHI;wCHI;aLATIN SUBSCRIPT SMALL LETTER I;zeR;zeU;zeV;aGREEK SUBSCRIPT SMALL LETTER B
ETA;zeGAMMA;zeRHO;zePHI;zeCHI;aLATIN SMALL LETTER UE;tB WITH MIDDLE TILDE;tD WITH MIDDLE TILDE;
tF WITH MIDDLE TILDE;tM WITH MIDDLE TILDE;tN WITH MIDDLE TILDE;tP WITH MIDDLE TILDE;
tR WITH MIDDLE TILDE;zbFISHHOOK AND MIDDLE TILDE;tS WITH MIDDLE TILDE;tT WITH MIDDLE TILDE;
tZ WITH MIDDLE TILDE;tTURNED G;aMODIFIER LETTER CYRILLIC EN;aLATIN SMALL LETTER INSULAR G;
tTH WITH STRIKETHROUGH;mCAPITAL LETTER I WITH STROKE;mLETTER IOTA WITH STROKE;tP WITH STROKE;
mCAPITAL LETTER U WITH STROKE;mLETTER UPSILON WITH STROKE;tB WITH PALATAL HOOK;
tD WITH PALATAL HOOK;tF WITH PALATAL HOOK;tG WITH PALATAL HOOK;tK WITH PALATAL HOOK;
tL WITH PALATAL HOOK;tM WITH PALATAL HOOK;tN WITH PALATAL HOOK;tP WITH PALATAL HOOK;
tR WITH PALATAL HOOK;tS WITH PALATAL HOOK;tESH WITH PALATAL HOOK;tV WITH PALATAL HOOK;
tX WITH PALATAL HOOK;tZ WITH PALATAL HOOK;tA WITH RETROFLEX HOOK;uLPHA WITH RETROFLEX HOOK;
tD WITH HOOK AND TAIL;tE WITH RETROFLEX HOOK;tOPEN E WITH RETROFLEX HOOK;tREVERSED OPEN E WITH RET
ROFLEX HOOK;tSCHWA WITH RETROFLEX HOOK;tI WITH RETROFLEX HOOK;tOPEN O WITH RETROFLEX HOOK;
tESH WITH RETROFLEX HOOK;tU WITH RETROFLEX HOOK;tEZH WITH RETROFLEX HOOK;aMODIFIER LETTER SMALL TU
RNED ALPHA;wC;x WITH CURL;wETH;wREVERSED OPEN E;wF;wDOTLESS J WITH STROKE;wSCRIPT G;wTURNED H;
wI WITH STROKE;xOTA;wCAPITAL I;zg WITH STROKE;wJ WITH CROSSED-TAIL;wL WITH RETROFLEX HOOK;
zePALATAL HOOK;wCAPITAL L;wM WITH HOOK;wTURNED M WITH LONG LEG;wN WITH LEFT HOOK;zeRETROFLEX HOOK;
wCAPITAL N;wBARRED O;wPHI;wS WITH HOOK;wESH;wT WITH PALATAL HOOK;wU BAR;xPSILON;wCAPITAL U;
wV WITH HOOK;wTURNED V;wZ;x WITH RETROFLEX HOOK;zeCURL;wEZH;wTHETA;aCOMBINING DOTTED GRAVE ACCENT;
rACUTE ACCENT;kSNAKE BELOW;lUSPENSION MARK;kMACRON-ACUTE;kGRAVE-MACRON;kMACRON-GRAVE;
kACUTE-MACRON;kGRAVE-ACUTE-GRAVE;kACUTE-GRAVE-ACUTE;kLATIN SMALL LETTER R BELOW;kBREVE-MACRON;
kMACRON-BREVE;kDOUBLE CIRCUMFLEX ABOVE;kOGONEK ABOVE;kZIGZAG BELOW;kIS BELOW;kUR ABOVE;lS ABOVE;
kLATIN SMALL LETTER FLATTENED OPEN A ABOVE;zeAE;zfO;zfV;zeC CEDILLA;zeINSULAR D;zeETH;zeG;
qLETTER SMALL CAPITAL G;qSMALL LETTER K;zeL;qLETTER SMALL CAPITAL L;zmM;qSMALL LETTER N;
qLETTER SMALL CAPITAL N;zmR;qSMALL LETTER R ROTUNDA;zeS;zeLONG S;zeZ;zeALPHA;zeB;zfETA;zeSCHWA;
zeF;zeL WITH DOUBLE MIDDLE TILDE;zeO WITH LIGHT CENTRALIZATION STROKE;zeP;zeESH;
zeU WITH LIGHT CENTRALIZATION STROKE;zeW;zeA WITH DIAERESIS;zeO WITH DIAERESIS;zeU WITH DIAERESIS;
kUP TACK ABOVE;kKAVYKA ABOVE RIGHT;xLEFT;kDOT ABOVE LEFT;kWIDE INVERTED BRIDGE BELOW;
kDOT BELOW LEFT;lELETION MARK;lOUBLE INVERTED BREVE BELOW;kALMOST EQUAL TO BELOW;
kLEFT ARROWHEAD ABOVE;kRIGHT ARROWHEAD AND DOWN ARROWHEAD BELOW;aLATIN CAPITAL LETTER A WITH RIN
G BELOW;gSMALL LETTER A WITH RING BELOW;gCAPITAL LETTER B WITH DOT ABOVE;gSMALL LETTER B WITH DO
T ABOVE;gCAPITAL LETTER B WITH DOT BELOW;gSMALL LETTER B WITH DOT BELOW;gCAPITAL LETTER B WITH LIN
E BELOW;gSMALL LETTER B WITH LINE BELOW;gCAPITAL LETTER C WITH CEDILLA AND ACUTE;
gSMALL LETTER C WITH CEDILLA AND ACUTE;gCAPITAL LETTER D WITH DOT ABOVE;gSMALL LETTER D WITH DOT A
BOVE;gCAPITAL LETTER D WITH DOT BELOW;gSMALL LETTER D WITH DOT BELOW;gCAPITAL LETTER D WITH LINE B
ELOW;gSMALL LETTER D WITH LINE BELOW;gCAPITAL LETTER D WITH CEDILLA;gSMALL LETTER D WITH CEDILLA;
gCAPITAL LETTER D WITH CIRCUMFLEX BELOW;gSMALL LETTER D WITH CIRCUMFLEX BELOW;
gCAPITAL LETTER E WITH MACRON AND GRAVE;gSMALL LETTER E WITH MACRON AND GRAVE;
gCAPITAL LETTER E WITH MACRON AND ACUTE;gSMALL LETTER E WITH MACRON AND ACUTE;
gCAPITAL LETTER E WITH CIRCUMFLEX BELOW;gSMALL LETTER E WITH CIRCUMFLEX BELOW;
gCAPITAL LETTER E WITH TILDE BELOW;gSMALL LETTER E WITH TILDE BELOW;gCAPITAL LETTER E WITH CEDILL
A AND BREVE;gSMALL LETTER E WITH CEDILLA AND BREVE;gCAPITAL LETTER F WITH DOT ABOVE;
gSMALL LETTER F WITH DOT ABOVE;gCAPITAL LETTER G WITH MACRON;gSMALL LETTER G WITH MACRON;
gCAPITAL LETTER H WITH DOT ABOVE;gSMALL LETTER H WITH DOT ABOVE;gCAPITAL LETTER H WITH DOT BELOW;
gSMALL LETTER H WITH DOT BELOW;gCAPITAL LETTER H WITH DIAERESIS;gSMALL LETTER H WITH DIAERESIS;
gCAPITAL LETTER H WITH CEDILLA;gSMALL LETTER H WITH CEDILLA;gCAPITAL LETTER H WITH BREVE BELOW;
gSMALL LETTER H WITH BREVE BELOW;gCAPITAL LETTER I WITH TILDE BELOW;gSMALL LETTER I WITH TILDE BEL
OW;gCAPITAL LETTER I WITH DIAERESIS AND ACUTE;gSMALL LETTER I WITH DIAERESIS AND ACUTE;
gCAPITAL LETTER K WITH ACUTE;gSMALL LETTER K WITH ACUTE;gCAPITAL LETTER K WITH DOT BELOW;
gSMALL LETTER K WITH DOT BELOW;gCAPITAL LETTER K WITH LINE BELOW;gSMALL LETTER K WITH LINE BELOW;
gCAPITAL LETTER L WITH DOT BELOW;gSMALL LETTER L WITH DOT BELOW;gCAPITAL LETTER L WITH DOT BELOW A
ND MACRON;gSMALL LETTER L WITH DOT BELOW AND MACRON;gCAPITAL LETTER L WITH LINE BELOW;
gSMALL LETTER L WITH LINE BELOW;gCAPITAL LETTER L WITH CIRCUMFLEX BELOW;gSMALL LETTER L WITH CIRCU
MFLEX BELOW;gCAPITAL LETTER M WITH ACUTE;gSMALL LETTER M WITH ACUTE;gCAPITAL LETTER M WITH DOT ABO
VE;gSMALL LETTER M WITH DOT ABOVE;gCAPITAL LETTER M WITH DOT BELOW;gSMALL LETTER M WITH DOT BELOW;
gCAPITAL LETTER N WITH DOT ABOVE;gSMALL LETTER N WITH DOT ABOVE;gCAPITAL LETTER N WITH DOT BELOW;
gSMALL LETTER N WITH DOT BELOW;gCAPITAL LETTER N WITH LINE BELOW;gSMALL LETTER N WITH LINE BELOW;
gCAPITAL LETTER N WITH CIRCUMFLEX BELOW;gSMALL LETTER N WITH CIRCUMFLEX BELOW;
gCAPITAL LETTER O WITH TILDE AND ACUTE;gSMALL LETTER O WITH TILDE AND ACUTE;
gCAPITAL LETTER O WITH TILDE AND DIAERESIS;gSMALL LETTER O WITH TILDE AND DIAERESIS;
gCAPITAL LETTER O WITH MACRON AND GRAVE;gSMALL LETTER O WITH MACRON AND GRAVE;
gCAPITAL LETTER O WITH MACRON AND ACUTE;gSMALL LETTER O WITH MACRON AND ACUTE;
gCAPITAL LETTER P WITH ACUTE;gSMALL LETTER P WITH ACUTE;gCAPITAL LETTER P WITH DOT ABOVE;
gSMALL LETTER P WITH DOT ABOVE;gCAPITAL LETTER R WITH DOT ABOVE;gSMALL LETTER R WITH DOT ABOVE;
gCAPITAL LETTER R WITH DOT BELOW;gSMALL LETTER R WITH DOT BELOW;gCAPITAL LETTER R WITH DOT BELOW A
ND MACRON;gSMALL LETTER R WITH DOT BELOW AND MACRON;gCAPITAL LETTER R WITH LINE BELOW;
gSMALL LETTER R WITH LINE BELOW;gCAPITAL LETTER S WITH DOT ABOVE;gSMALL LETTER S WITH DOT ABOVE;
gCAPITAL LETTER S WITH DOT BELOW;gSMALL LETTER S WITH DOT BELOW;gCAPITAL LETTER S WITH ACUTE AND D
OT ABOVE;gSMALL LETTER S WITH ACUTE AND DOT ABOVE;gCAPITAL LETTER S WITH CARON AND DOT ABOVE;
gSMALL LETTER S WITH CARON AND DOT ABOVE;gCAPITAL LETTER S WITH DOT BELOW AND DOT ABOVE;
gSMALL LETTER S WITH DOT BELOW AND DOT ABOVE;gCAPITAL LETTER T WITH DOT ABOVE;
gSMALL LETTER T WITH DOT ABOVE;gCAPITAL LETTER T WITH DOT BELOW;gSMALL LETTER T WITH DOT BELOW;
gCAPITAL LETTER T WITH LINE BELOW;gSMALL LETTER T WITH LINE BELOW;gCAPITAL LETTER T WITH CIRCUMFLE
X BELOW;gSMALL LETTER T WITH CIRCUMFLEX BELOW;gCAPITAL LETTER U WITH DIAERESIS BELOW;
gSMALL LETTER U WITH DIAERESIS BELOW;gCAPITAL LETTER U WITH TILDE BELOW;gSMALL LETTER U WITH TILD
E BELOW;gCAPITAL LETTER U WITH CIRCUMFLEX BELOW;gSMALL LETTER U WITH CIRCUMFLEX BELOW;
gCAPITAL LETTER U WITH TILDE AND ACUTE;gSMALL LETTER U WITH TILDE AND ACUTE;
gCAPITAL LETTER U WITH MACRON AND DIAERESIS;gSMALL LETTER U WITH MACRON AND DIAERESIS;
gCAPITAL LETTER V WITH TILDE;gSMALL LETTER V WITH TILDE;gCAPITAL LETTER V WITH DOT BELOW;
gSMALL LETTER V WITH DOT BELOW;gCAPITAL LETTER W WITH GRAVE;gSMALL LETTER W WITH GRAVE;
gCAPITAL LETTER W WITH ACUTE;gSMALL LETTER W WITH ACUTE;gCAPITAL LETTER W WITH DIAERESIS;
gSMALL LETTER W WITH DIAERESIS;gCAPITAL LETTER W WITH DOT ABOVE;gSMALL LETTER W WITH DOT ABOVE;
gCAPITAL LETTER W WITH DOT BELOW;gSMALL LETTER W WITH DOT BELOW;gCAPITAL LETTER X WITH DOT ABOVE;
gSMALL LETTER X WITH DOT ABOVE;gCAPITAL LETTER X WITH DIAERESIS;gSMALL LETTER X WITH DIAERESIS;
gCAPITAL LETTER Y WITH DOT ABOVE;gSMALL LETTER Y WITH DOT ABOVE;gCAPITAL LETTER Z WITH CIRCUMFLEX;
gSMALL LETTER Z WITH CIRCUMFLEX;gCAPITAL LETTER Z WITH DOT BELOW;gSMALL LETTER Z WITH DOT BELOW;
gCAPITAL LETTER Z WITH LINE BELOW;gSMALL LETTER Z WITH LINE BELOW;tH WITH LINE BELOW;
tT WITH DIAERESIS;tW WITH RING ABOVE;tY WITH RING ABOVE;tA WITH RIGHT HALF RING;
tLONG S WITH DOT ABOVE;zhIAGONAL STROKE;zgHIGH STROKE;gCAPITAL LETTER SHARP S;gSMALL LETTER DELTA;
gCAPITAL LETTER A WITH DOT BELOW;gSMALL LETTER A WITH DOT BELOW;gCAPITAL LETTER A WITH HOOK ABOVE;
gSMALL LETTER A WITH HOOK ABOVE;gCAPITAL LETTER A WITH CIRCUMFLEX AND ACUTE;
gSMALL LETTER A WITH CIRCUMFLEX AND ACUTE;gCAPITAL LETTER A WITH CIRCUMFLEX AND GRAVE;
gSMALL LETTER A WITH CIRCUMFLEX AND GRAVE;gCAPITAL LETTER A WITH CIRCUMFLEX AND HOOK ABOVE;
gSMALL LETTER A WITH CIRCUMFLEX AND HOOK ABOVE;gCAPITAL LETTER A WITH CIRCUMFLEX AND TILDE;
gSMALL LETTER A WITH CIRCUMFLEX AND TILDE;gCAPITAL LETTER A WITH CIRCUMFLEX AND DOT BELOW;
gSMALL LETTER A WITH CIRCUMFLEX AND DOT BELOW;gCAPITAL LETTER A WITH BREVE AND ACUTE;
gSMALL LETTER A WITH BREVE AND ACUTE;gCAPITAL LETTER A WITH BREVE AND GRAVE;
gSMALL LETTER A WITH BREVE AND GRAVE;gCAPITAL LETTER A WITH BREVE AND HOOK ABOVE;
gSMALL LETTER A WITH BREVE AND HOOK ABOVE;gCAPITAL LETTER A WITH BREVE AND TILDE;
gSMALL LETTER A WITH BREVE AND TILDE;gCAPITAL LETTER A WITH BREVE AND DOT BELOW;
gSMALL LETTER A WITH BREVE AND DOT BELOW;gCAPITAL LETTER E WITH DOT BELOW;gSMALL LETTER E WITH DO
T BELOW;gCAPITAL LETTER E WITH HOOK ABOVE;gSMALL LETTER E WITH HOOK ABOVE;gCAPITAL LETTER E WITH T
ILDE;gSMALL LETTER E WITH TILDE;gCAPITAL LETTER E WITH CIRCUMFLEX AND ACUTE;
gSMALL LETTER E WITH CIRCUMFLEX AND ACUTE;gCAPITAL LETTER E WITH CIRCUMFLEX AND GRAVE;
gSMALL LETTER E WITH CIRCUMFLEX AND GRAVE;gCAPITAL LETTER E WITH CIRCUMFLEX AND HOOK ABOVE;
gSMALL LETTER E WITH CIRCUMFLEX AND HOOK ABOVE;gCAPITAL LETTER E WITH CIRCUMFLEX AND TILDE;
gSMALL LETTER E WITH CIRCUMFLEX AND TILDE;gCAPITAL LETTER E WITH CIRCUMFLEX AND DOT BELOW;
gSMALL LETTER E WITH CIRCUMFLEX AND DOT BELOW;gCAPITAL LETTER I WITH HOOK ABOVE;
gSMALL LETTER I WITH HOOK ABOVE;gCAPITAL LETTER I WITH DOT BELOW;gSMALL LETTER I WITH DOT BELOW;
gCAPITAL LETTER O WITH DOT BELOW;gSMALL LETTER O WITH DOT BELOW;gCAPITAL LETTER O WITH HOOK ABOVE;
gSMALL LETTER O WITH HOOK ABOVE;gCAPITAL LETTER O WITH CIRCUMFLEX AND ACUTE;
gSMALL LETTER O WITH CIRCUMFLEX AND ACUTE;gCAPITAL LETTER O WITH CIRCUMFLEX AND GRAVE;
gSMALL LETTER O WITH CIRCUMFLEX AND GRAVE;gCAPITAL LETTER O WITH CIRCUMFLEX AND HOOK ABOVE;
gSMALL LETTER O WITH CIRCUMFLEX AND HOOK ABOVE;gCAPITAL LETTER O WITH CIRCUMFLEX AND TILDE;
gSMALL LETTER O WITH CIRCUMFLEX AND TILDE;gCAPITAL LETTER O WITH CIRCUMFLEX AND DOT BELOW;
gSMALL LETTER O WITH CIRCUMFLEX AND DOT BELOW;gCAPITAL LETTER O WITH HORN AND ACUTE;
gSMALL LETTER O WITH HORN AND ACUTE;gCAPITAL LETTER O WITH HORN AND GRAVE;gSMALL LETTER O WITH HOR
N AND GRAVE;gCAPITAL LETTER O WITH HORN AND HOOK ABOVE;gSMALL LETTER O WITH HORN AND HOOK ABOVE;
gCAPITAL LETTER O WITH HORN AND TILDE;gSMALL LETTER O WITH HORN AND TILDE;gCAPITAL LETTER O WITH H
ORN AND DOT BELOW;gSMALL LETTER O WITH HORN AND DOT BELOW;gCAPITAL LETTER U WITH DOT BELOW;
gSMALL LETTER U WITH DOT BELOW;gCAPITAL LETTER U WITH HOOK ABOVE;gSMALL LETTER U WITH HOOK ABOVE;
gCAPITAL LETTER U WITH HORN AND ACUTE;gSMALL LETTER U WITH HORN AND ACUTE;gCAPITAL LETTER U WITH H
ORN AND GRAVE;gSMALL LETTER U WITH HORN AND GRAVE;gCAPITAL LETTER U WITH HORN AND HOOK ABOVE;
gSMALL LETTER U WITH HORN AND HOOK ABOVE;gCAPITAL LETTER U WITH HORN AND TILDE;
gSMALL LETTER U WITH HORN AND TILDE;gCAPITAL LETTER U WITH HORN AND DOT BELOW;
gSMALL LETTER U WITH HORN AND DOT BELOW;gCAPITAL LETTER Y WITH GRAVE;gSMALL LETTER Y WITH GRAVE;
gCAPITAL LETTER Y WITH DOT BELOW;gSMALL LETTER Y WITH DOT BELOW;gCAPITAL LETTER Y WITH HOOK ABOVE;
gSMALL LETTER Y WITH HOOK ABOVE;gCAPITAL LETTER Y WITH TILDE;gSMALL LETTER Y WITH TILDE;
gCAPITAL LETTER MIDDLE-WELSH LL;gSMALL LETTER MIDDLE-WELSH LL;gCAPITAL LETTER MIDDLE-WELSH V;
gSMALL LETTER MIDDLE-WELSH V;gCAPITAL LETTER Y WITH LOOP;gSMALL LETTER Y WITH LOOP;
aGREEK SMALL LETTER ALPHA WITH PSILI;zfDASIA;zfPSILI AND VARIA;zfDASIA AND VARIA;zfPSILI AND OXIA;
zfDASIA AND OXIA;zfPSILI AND PERISPOMENI;zfDASIA AND PERISPOMENI;gCAPITAL LETTER ALPHA WITH PSILI;
zhDASIA;zhPSILI AND VARIA;zhDASIA AND VARIA;zhPSILI AND OXIA;zhDASIA AND OXIA;
zhPSILI AND PERISPOMENI;zhDASIA AND PERISPOMENI;gSMALL LETTER EPSILON WITH PSILI;zhDASIA;
zhPSILI AND VARIA;zhDASIA AND VARIA;zhPSILI AND OXIA;zhDASIA AND OXIA;1F18:gCAPITAL LETTER EPSILO
N WITH PSILI;zjDASIA;zjPSILI AND VARIA;zjDASIA AND VARIA;zjPSILI AND OXIA;zjDASIA AND OXIA;
1F20:gSMALL LETTER ETA WITH PSILI;zdDASIA;zdPSILI AND VARIA;zdDASIA AND VARIA;zdPSILI AND OXIA;
zdDASIA AND OXIA;zdPSILI AND PERISPOMENI;zdDASIA AND PERISPOMENI;gCAPITAL LETTER ETA WITH PSILI;
zfDASIA;zfPSILI AND VARIA;zfDASIA AND VARIA;zfPSILI AND OXIA;zfDASIA AND OXIA;
zfPSILI AND PERISPOMENI;zfDASIA AND PERISPOMENI;gSMALL LETTER IOTA WITH PSILI;zeDASIA;
zePSILI AND VARIA;zeDASIA AND VARIA;zePSILI AND OXIA;zeDASIA AND OXIA;zePSILI AND PERISPOMENI;
zeDASIA AND PERISPOMENI;gCAPITAL LETTER IOTA WITH PSILI;zgDASIA;zgPSILI AND VARIA;
zgDASIA AND VARIA;zgPSILI AND OXIA;zgDASIA AND OXIA;zgPSILI AND PERISPOMENI;
zgDASIA AND PERISPOMENI;gSMALL LETTER OMICRON WITH PSILI;zhDASIA;zhPSILI AND VARIA;
zhDASIA AND VARIA;zhPSILI AND OXIA;zhDASIA AND OXIA;1F48:gCAPITAL LETTER OMICRON WITH PSILI;
zjDASIA;zjPSILI AND VARIA;zjDASIA AND VARIA;zjPSILI AND OXIA;zjDASIA AND OXIA;
1F50:gSMALL LETTER UPSILON WITH PSILI;zhDASIA;zhPSILI AND VARIA;zhDASIA AND VARIA;
zhPSILI AND OXIA;zhDASIA AND OXIA;zhPSILI AND PERISPOMENI;zhDASIA AND PERISPOMENI;
1F59:gCAPITAL LETTER UPSILON WITH DASIA;1F5B:zo AND VARIA;1F5D:ztOXIA;1F5F:ztPERISPOMENI;
gSMALL LETTER OMEGA WITH PSILI;zfDASIA;zfPSILI AND VARIA;zfDASIA AND VARIA;zfPSILI AND OXIA;
zfDASIA AND OXIA;zfPSILI AND PERISPOMENI;zfDASIA AND PERISPOMENI;gCAPITAL LETTER OMEGA WITH PSILI;
zhDASIA;zhPSILI AND VARIA;zhDASIA AND VARIA;zhPSILI AND OXIA;zhDASIA AND OXIA;
zhPSILI AND PERISPOMENI;zhDASIA AND PERISPOMENI;gSMALL LETTER ALPHA WITH VARIA;zfOXIA;
tEPSILON WITH VARIA;zhOXIA;uTA WITH VARIA;zdOXIA;tIOTA WITH VARIA;zeOXIA;tOMICRON WITH VARIA;
zhOXIA;tUPSILON WITH VARIA;zhOXIA;tOMEGA WITH VARIA;zfOXIA;1F80:tALPHA WITH PSILI AND YPOGEGRAMMEN
I;zfDASIA AND YPOGEGRAMMENI;zfPSILI AND VARIA AND YPOGEGRAMMENI;zfDASIA AND VARIA AND YPOGEGRAMMEN
I;zfPSILI AND OXIA AND YPOGEGRAMMENI;zfDASIA AND OXIA AND YPOGEGRAMMENI;zfPSILI AND PERISPOMENI AN
D YPOGEGRAMMENI;zfDASIA AND PERISPOMENI AND YPOGEGRAMMENI;gCAPITAL LETTER ALPHA WITH PSILI AND PRO
SGEGRAMMENI;zhDASIA AND PROSGEGRAMMENI;zhPSILI AND VARIA AND PROSGEGRAMMENI;
zhDASIA AND VARIA AND PROSGEGRAMMENI;zhPSILI AND OXIA AND PROSGEGRAMMENI;zhDASIA AND OXIA AND PROS
GEGRAMMENI;zhPSILI AND PERISPOMENI AND PROSGEGRAMMENI;zhDASIA AND PERISPOMENI AND PROSGEGRAMMENI;
gSMALL LETTER ETA WITH PSILI AND YPOGEGRAMMENI;zdDASIA AND YPOGEGRAMMENI;zdPSILI AND VARIA AND YPO
GEGRAMMENI;zdDASIA AND VARIA AND YPOGEGRAMMENI;zdPSILI AND OXIA AND YPOGEGRAMMENI;
zdDASIA AND OXIA AND YPOGEGRAMMENI;zdPSILI AND PERISPOMENI AND YPOGEGRAMMENI;
zdDASIA AND PERISPOMENI AND YPOGEGRAMMENI;gCAPITAL LETTER ETA WITH PSILI AND PROSGEGRAMMENI;
zfDASIA AND PROSGEGRAMMENI;zfPSILI AND VARIA AND PROSGEGRAMMENI;zfDASIA AND VARIA AND PROSGEGRAMME
NI;zfPSILI AND OXIA AND PROSGEGRAMMENI;zfDASIA AND OXIA AND PROSGEGRAMMENI;
zfPSILI AND PERISPOMENI AND PROSGEGRAMMENI;zfDASIA AND PERISPOMENI AND PROSGEGRAMMENI;
gSMALL LETTER OMEGA WITH PSILI AND YPOGEGRAMMENI;zfDASIA AND YPOGEGRAMMENI;
zfPSILI AND VARIA AND YPOGEGRAMMENI;zfDASIA AND VARIA AND YPOGEGRAMMENI;zfPSILI AND OXIA AND YPOGE
GRAMMENI;zfDASIA AND OXIA AND YPOGEGRAMMENI;zfPSILI AND PERISPOMENI AND YPOGEGRAMMENI;
zfDASIA AND PERISPOMENI AND YPOGEGRAMMENI;gCAPITAL LETTER OMEGA WITH PSILI AND PROSGEGRAMMENI;
zhDASIA AND PROSGEGRAMMENI;zhPSILI AND VARIA AND PROSGEGRAMMENI;zhDASIA AND VARIA AND PROSGEGRAMME
NI;zhPSILI AND OXIA AND PROSGEGRAMMENI;zhDASIA AND OXIA AND PROSGEGRAMMENI;
zhPSILI AND PERISPOMENI AND PROSGEGRAMMENI;zhDASIA AND PERISPOMENI AND PROSGEGRAMMENI;
gSMALL LETTER ALPHA WITH VRACHY;zfMACRON;zfVARIA AND YPOGEGRAMMENI;zfYPOGEGRAMMENI;
zfOXIA AND YPOGEGRAMMENI;1FB6:zfPERISPOMENI;zq AND YPOGEGRAMMENI;gCAPITAL LETTER ALPHA WITH VRACHY
;zhMACRON;zhVARIA;zhOXIA;zhPROSGEGRAMMENI;gKORONIS;gPROSGEGRAMMENI;hSILI;hERISPOMENI;
gDIALYTIKA AND PERISPOMENI;gSMALL LETTER ETA WITH VARIA AND YPOGEGRAMMENI;zdYPOGEGRAMMENI;
zdOXIA AND YPOGEGRAMMENI;1FC6:zdPERISPOMENI;zo AND YPOGEGRAMMENI;gCAPITAL LETTER EPSILON WITH VARI
A;zjOXIA;wTA WITH VARIA;zfOXIA;zfPROSGEGRAMMENI;gPSILI AND VARIA;qOXIA;qPERISPOMENI;
gSMALL LETTER IOTA WITH VRACHY;zeMACRON;zeDIALYTIKA AND VARIA;zsOXIA;1FD6:zePERISPOMENI;
zeDIALYTIKA AND PERISPOMENI;gCAPITAL LETTER IOTA WITH VRACHY;zgMACRON;zgVARIA;zgOXIA;
1FDD:gDASIA AND VARIA;qOXIA;qPERISPOMENI;gSMALL LETTER UPSILON WITH VRACHY;zhMACRON;
zhDIALYTIKA AND VARIA;zvOXIA;tRHO WITH PSILI;zdDASIA;tUPSILON WITH PERISPOMENI;
zhDIALYTIKA AND PERISPOMENI;gCAPITAL LETTER UPSILON WITH VRACHY;zjMACRON;zjVARIA;zjOXIA;
vRHO WITH DASIA;gDIALYTIKA AND VARIA;uOXIA;gVARIA;1FF2:gSMALL LETTER OMEGA WITH VARIA AND YPOGEGRA
MMENI;zfYPOGEGRAMMENI;zfOXIA AND YPOGEGRAMMENI;1FF6:zfPERISPOMENI;zq AND YPOGEGRAMMENI;
gCAPITAL LETTER OMICRON WITH VARIA;zjOXIA;xEGA WITH VARIA;zhOXIA;zhPROSGEGRAMMENI;gOXIA;gDASIA"

end HttpTemplates.Text.CharacterName
