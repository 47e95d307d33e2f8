/-!
# Character names: symbols

The names of the characters from U+2000 to U+2FFF. The format is that of
`Text.codeNamed?`.
-/

namespace HttpTemplates.Text.CharacterName

/-- The names of the characters from U+2000 to U+2FFF. -/
def symbols : String :=
  "2000:aEN QUAD;bM QUAD;bN SPACE;bM SPACE;aTHREE-PER-EM SPACE;aFOUR-PER-EM SPACE;aSIX-PER-EM SPACE;
aFIGURE SPACE;aPUNCTUATION SPACE;aTHIN SPACE;aHAIR SPACE;aZERO WIDTH SPACE;lNON-JOINER;lJOINER;
aLEFT-TO-RIGHT MARK;aRIGHT-TO-LEFT MARK;aHYPHEN;aNON-BREAKING HYPHEN;aFIGURE DASH;aEN DASH;
bM DASH;aHORIZONTAL BAR;aDOUBLE VERTICAL LINE;hLOW LINE;aLEFT SINGLE QUOTATION MARK;
aRIGHT SINGLE QUOTATION MARK;aSINGLE LOW-9 QUOTATION MARK;hHIGH-REVERSED-9 QUOTATION MARK;
aLEFT DOUBLE QUOTATION MARK;aRIGHT DOUBLE QUOTATION MARK;aDOUBLE LOW-9 QUOTATION MARK;
hHIGH-REVERSED-9 QUOTATION MARK;bAGGER;bOUBLE DAGGER;aBULLET;aTRIANGULAR BULLET;aONE DOT LEADER;
aTWO DOT LEADER;aHORIZONTAL ELLIPSIS;bYPHENATION POINT;aLINE SEPARATOR;aPARAGRAPH SEPARATOR;
aLEFT-TO-RIGHT EMBEDDING;aRIGHT-TO-LEFT EMBEDDING;aPOP DIRECTIONAL FORMATTING;
aLEFT-TO-RIGHT OVERRIDE;aRIGHT-TO-LEFT OVERRIDE;aNARROW NO-BREAK SPACE;aPER MILLE SIGN;
eTEN THOUSAND SIGN;bRIME;aDOUBLE PRIME;aTRIPLE PRIME;aREVERSED PRIME;jDOUBLE PRIME;jTRIPLE PRIME;
aCARET;aSINGLE LEFT-POINTING ANGLE QUOTATION MARK;hRIGHT-POINTING ANGLE QUOTATION MARK;
aREFERENCE MARK;aDOUBLE EXCLAMATION MARK;aINTERROBANG;aOVERLINE;aUNDERTIE;aCHARACTER TIE;
bARET INSERTION POINT;aASTERISM;aHYPHEN BULLET;aFRACTION SLASH;aLEFT SQUARE BRACKET WITH QUILL;
aRIGHT SQUARE BRACKET WITH QUILL;aDOUBLE QUESTION MARK;aQUESTION EXCLAMATION MARK;
aEXCLAMATION QUESTION MARK;aTIRONIAN SIGN ET;aREVERSED PILCROW SIGN;aBLACK LEFTWARDS BULLET;
gRIGHTWARDS BULLET;aLOW ASTERISK;aREVERSED SEMICOLON;aCLOSE UP;aTWO ASTERISKS ALIGNED VERTICALLY;
aCOMMERCIAL MINUS SIGN;aSWUNG DASH;aINVERTED UNDERTIE;aFLOWER PUNCTUATION MARK;
aTHREE DOT PUNCTUATION;aQUADRUPLE PRIME;aFOUR DOT PUNCTUATION;bIVE DOT PUNCTUATION;
aTWO DOT PUNCTUATION;aFOUR DOT MARK;aDOTTED CROSS;aTRICOLON;aVERTICAL FOUR DOTS;
aMEDIUM MATHEMATICAL SPACE;aWORD JOINER;aFUNCTION APPLICATION;aINVISIBLE TIMES;kSEPARATOR;kPLUS;
2066:aLEFT-TO-RIGHT ISOLATE;aRIGHT-TO-LEFT ISOLATE;aFIRST STRONG ISOLATE;aPOP DIRECTIONAL ISOLATE;
aINHIBIT SYMMETRIC SWAPPING;aACTIVATE SYMMETRIC SWAPPING;aINHIBIT ARABIC FORM SHAPING;
aACTIVATE ARABIC FORM SHAPING;aNATIONAL DIGIT SHAPES;bOMINAL DIGIT SHAPES;aSUPERSCRIPT ZERO;
mLATIN SMALL LETTER I;2074:mFOUR;nIVE;mSIX;nEVEN;mEIGHT;mNINE;mPLUS SIGN;mMINUS;mEQUALS SIGN;
mLEFT PARENTHESIS;mRIGHT PARENTHESIS;mLATIN SMALL LETTER N;cBSCRIPT ZERO;kONE;kTWO;lHREE;kFOUR;
lIVE;kSIX;lEVEN;kEIGHT;kNINE;kPLUS SIGN;kMINUS;kEQUALS SIGN;kLEFT PARENTHESIS;kRIGHT PARENTHESIS;
2090:aLATIN SUBSCRIPT SMALL LETTER A;zeE;zeO;zeX;zeSCHWA;zeH;zeK;zeL;zeM;zeN;zeP;zeS;zeT;
20A0:aEURO-CURRENCY SIGN;aCOLON SIGN;bRUZEIRO SIGN;aFRENCH FRANC SIGN;aLIRA SIGN;aMILL SIGN;
aNAIRA SIGN;aPESETA SIGN;aRUPEE SIGN;aWON SIGN;aNEW SHEQEL SIGN;aDONG SIGN;aEURO SIGN;aKIP SIGN;
aTUGRIK SIGN;aDRACHMA SIGN;aGERMAN PENNY SIGN;aPESO SIGN;aGUARANI SIGN;aAUSTRAL SIGN;
aHRYVNIA SIGN;aCEDI SIGN;aLIVRE TOURNOIS SIGN;aSPESMILO SIGN;aTENGE SIGN;aINDIAN RUPEE SIGN;
aTURKISH LIRA SIGN;aNORDIC MARK SIGN;aMANAT SIGN;aRUBLE SIGN;aLARI SIGN;aBITCOIN SIGN;aSOM SIGN;
20D0:aCOMBINING LEFT HARPOON ABOVE;kRIGHT HARPOON ABOVE;kLONG VERTICAL LINE OVERLAY;
kSHORT VERTICAL LINE OVERLAY;kANTICLOCKWISE ARROW ABOVE;kCLOCKWISE ARROW ABOVE;kLEFT ARROW ABOVE;
kRIGHT ARROW ABOVE;mNG OVERLAY;kCLOCKWISE RING OVERLAY;kANTICLOCKWISE RING OVERLAY;
kTHREE DOTS ABOVE;kFOUR DOTS ABOVE;kENCLOSING CIRCLE;uSQUARE;uDIAMOND;uCIRCLE BACKSLASH;
kLEFT RIGHT ARROW ABOVE;kENCLOSING SCREEN;uKEYCAP;uUPWARD POINTING TRIANGLE;
kREVERSE SOLIDUS OVERLAY;kDOUBLE VERTICAL STROKE OVERLAY;kANNUITY SYMBOL;kTRIPLE UNDERDOT;
kWIDE BRIDGE ABOVE;kLEFTWARDS ARROW OVERLAY;lONG DOUBLE SOLIDUS OVERLAY;kRIGHTWARDS HARPOON WITH B
ARB DOWNWARDS;kLEFTWARDS HARPOON WITH BARB DOWNWARDS;o ARROW BELOW;kRIGHT ARROW BELOW;
kASTERISK ABOVE;2100:aACCOUNT OF;bDDRESSED TO THE SUBJECT;aDOUBLE-STRUCK CAPITAL C;bEGREE CELSIUS;
aCENTRE LINE SYMBOL;bARE OF;cDA UNA;aEULER CONSTANT;aSCRUPLE;aDEGREE FAHRENHEIT;aSCRIPT SMALL G;
hCAPITAL H;aBLACK-LETTER CAPITAL H;aDOUBLE-STRUCK CAPITAL H;aPLANCK CONSTANT;p OVER TWO PI;
aSCRIPT CAPITAL I;aBLACK-LETTER CAPITAL I;aSCRIPT CAPITAL L;hSMALL L;aL B BAR SYMBOL;
aDOUBLE-STRUCK CAPITAL N;aNUMERO SIGN;aSOUND RECORDING COPY
RIGHT;bCRIPT CAPITAL P;aDOUBLE-STRUCK CAPITAL P;wQ;aSCRIPT CAPITAL R;aBLACK-LETTER CAPITAL R;
aDOUBLE-STRUCK CAPITAL R;aPRESCRIPTION TAKE;aRESPONSE;aSERVICE MARK;aTELEPHONE SIGN;
bRADE MARK SIGN;aVERSICLE;aDOUBLE-STRUCK CAPITAL Z;aOUNCE SIGN;bHM SIGN;aINVERTED OHM SIGN;
aBLACK-LETTER CAPITAL Z;aTURNED GREEK SMALL LETTER IOTA;aKELVIN SIGN;aANGSTROM SIGN;
aSCRIPT CAPITAL B;aBLACK-LETTER CAPITAL C;aESTIMATED SYMBOL;aSCRIPT SMALL E;hCAPITAL E;pF;
aTURNED CAPITAL F;aSCRIPT CAPITAL M;hSMALL O;aALEF SYMBOL;aBET SYMBOL;aGIMEL SYMBOL;aDALET SYMBOL;
aINFORMATION SOURCE;aROTATED CAPITAL Q;aFACSIMILE SIGN;aDOUBLE-STRUCK SMALL PI;uGAMMA;
oCAPITAL GAMMA;wPI;oN-ARY SUMMATION;aTURNED SANS-SERIF CAPITAL G;zbL;aREVERSED SANS-SERIF CAPITA
L L;aTURNED SANS-SERIF CAPITAL Y;aDOUBLE-STRUCK ITALIC CAPITAL D;vSMALL D;zcE;zcI;zcJ;
aPROPERTY LINE;aTURNED AMPERSAND;aPER SIGN;aAKTIESELSKAB;aTURNED SMALL F;aSYMBOL FOR SAMARITAN SOU
RCE;aVULGAR FRACTION ONE SEVENTH;uNINTH;uTENTH;vHIRD;qTWO THIRDS;qONE FIFTH;qTWO FIFTHS;
rHREE FIFTHS;qFOUR FIFTHS;qONE SIXTH;qFIVE SIXTHS;qONE EIGHTH;qTHREE EIGHTHS;qFIVE EIGHTHS;
qSEVEN EIGHTHS;aFRACTION NUMERATOR ONE;aROMAN NUMERAL ONE;oTWO;pHREE;oFOUR;pIVE;oSIX;pEVEN;oEIGHT;
oNINE;oTEN;oELEVEN;oTWELVE;oFIFTY;oONE HUNDRED;oFIVE HUNDRED;oONE THOUSAND;
aSMALL ROMAN NUMERAL ONE;uTWO;vHREE;uFOUR;vIVE;uSIX;vEVEN;uEIGHT;uNINE;uTEN;uELEVEN;uTWELVE;
uFIFTY;uONE HUNDRED;uFIVE HUNDRED;uONE THOUSAND;aROMAN NUMERAL ONE THOUSAND C D;oFIVE THOUSAND;
oTEN THOUSAND;oREVERSED ONE HUNDRED;aLATIN SMALL LETTER REVERSED C;aROMAN NUMERAL SIX LATE FORM;
oFIFTY EARLY FORM;uTHOUSAND;oONE HUNDRED THOUSAND;aVULGAR FRACTION ZERO THIRDS;aTURNED DIGIT TWO;
oHREE;2190:aLEFTWARDS ARROW;aUPWARDS ARROW;aRIGHTWARDS ARROW;aDOWNWARDS ARROW;aLEFT RIGHT ARROW;
aUP DOWN ARROW;aNORTH WEST ARROW;gEAST ARROW;aSOUTH EAST ARROW;gWEST ARROW;
aLEFTWARDS ARROW WITH STROKE;aRIGHTWARDS ARROW WITH STROKE;aLEFTWARDS WAVE ARROW;
aRIGHTWARDS WAVE ARROW;aLEFTWARDS TWO HEADED ARROW;aUPWARDS TWO HEADED ARROW;
aRIGHTWARDS TWO HEADED ARROW;aDOWNWARDS TWO HEADED ARROW;aLEFTWARDS ARROW WITH TAIL;
aRIGHTWARDS ARROW WITH TAIL;aLEFTWARDS ARROW FROM BAR;aUPWARDS ARROW FROM BAR;
aRIGHTWARDS ARROW FROM BAR;aDOWNWARDS ARROW FROM BAR;aUP DOWN ARROW WITH BASE;
aLEFTWARDS ARROW WITH HOOK;aRIGHTWARDS ARROW WITH HOOK;aLEFTWARDS ARROW WITH LOOP;
aRIGHTWARDS ARROW WITH LOOP;aLEFT RIGHT WAVE ARROW;lARROW WITH STROKE;aDOWNWARDS ZIGZAG ARROW;
aUPWARDS ARROW WITH TIP LEFTWARDS;xRIGHTWARDS;aDOWNWARDS ARROW WITH TIP LEFTWARDS;zRIGHTWARDS;
aRIGHTWARDS ARROW WITH CORNER DOWNWARDS;aDOWNWARDS ARROW WITH CORNER LEFTWARDS;
aANTICLOCKWISE TOP SEMICIRCLE ARROW;aCLOCKWISE TOP SEMICIRCLE ARROW;aNORTH WEST ARROW TO LONG BAR;
aLEFTWARDS ARROW TO BAR OVER RIGHTWARDS ARROW TO BAR;aANTICLOCKWISE OPEN CIRCLE ARROW;
aCLOCKWISE OPEN CIRCLE ARROW;aLEFTWARDS HARPOON WITH BARB UPWARDS;zdDOWNWARDS;
aUPWARDS HARPOON WITH BARB RIGHTWARDS;zbLEFTWARDS;aRIGHTWARDS HARPOON WITH BARB UPWARDS;
zeDOWNWARDS;aDOWNWARDS HARPOON WITH BARB RIGHTWARDS;zdLEFTWARDS;aRIGHTWARDS ARROW OVER LEFTWARDS A
RROW;aUPWARDS ARROW LEFTWARDS OF DOWNWARDS ARROW;aLEFTWARDS ARROW OVER RIGHTWARDS ARROW;
kPAIRED ARROWS;aUPWARDS PAIRED ARROWS;aRIGHTWARDS PAIRED ARROWS;aDOWNWARDS PAIRED ARROWS;
aLEFTWARDS HARPOON OVER RIGHTWARDS HARPOON;aRIGHTWARDS HARPOON OVER LEFTWARDS HARPOON;
aLEFTWARDS DOUBLE ARROW WITH STROKE;e RIGHT DOUBLE ARROW WITH STROKE;aRIGHTWARDS DOUBLE ARROW WIT
H STROKE;aLEFTWARDS DOUBLE ARROW;aUPWARDS DOUBLE ARROW;aRIGHTWARDS DOUBLE ARROW;
aDOWNWARDS DOUBLE ARROW;aLEFT RIGHT DOUBLE ARROW;aUP DOWN DOUBLE ARROW;aNORTH WEST DOUBLE ARROW;
gEAST DOUBLE ARROW;aSOUTH EAST DOUBLE ARROW;gWEST DOUBLE ARROW;aLEFTWARDS TRIPLE ARROW;
aRIGHTWARDS TRIPLE ARROW;aLEFTWARDS SQUIGGLE ARROW;aRIGHTWARDS SQUIGGLE ARROW;
aUPWARDS ARROW WITH DOUBLE STROKE;aDOWNWARDS ARROW WITH DOUBLE STROKE;aLEFTWARDS DASHED ARROW;
aUPWARDS DASHED ARROW;aRIGHTWARDS DASHED ARROW;aDOWNWARDS DASHED ARROW;aLEFTWARDS ARROW TO BAR;
aRIGHTWARDS ARROW TO BAR;aLEFTWARDS WHITE ARROW;aUPWARDS WHITE ARROW;aRIGHTWARDS WHITE ARROW;
aDOWNWARDS WHITE ARROW;aUPWARDS WHITE ARROW FROM BAR;uON PEDESTAL;zg WITH HORIZONTAL BAR;
zmVERTICAL BAR;oDOUBLE ARROW;zb ON PEDESTAL;aRIGHTWARDS WHITE ARROW FROM WALL;
aNORTH WEST ARROW TO CORNER;aSOUTH EAST ARROW TO CORNER;aUP DOWN WHITE ARROW;
aRIGHT ARROW WITH SMALL CIRCLE;aDOWNWARDS ARROW LEFTWARDS OF UPWARDS ARROW;
aTHREE RIGHTWARDS ARROWS;aLEFTWARDS ARROW WITH VERTICAL STROKE;aRIGHTWARDS ARROW WITH VERTICAL STR
OKE;aLEFT RIGHT ARROW WITH VERTICAL STROKE;eWARDS ARROW WITH DOUBLE VERTICAL STROKE;
aRIGHTWARDS ARROW WITH DOUBLE VERTICAL STROKE;aLEFT RIGHT ARROW WITH DOUBLE VERTICAL STROKE;
eWARDS OPEN-HEADED ARROW;aRIGHTWARDS OPEN-HEADED ARROW;aLEFT RIGHT OPEN-HEADED ARROW;aFOR ALL;
aCOMPLEMENT;aPARTIAL DIFFERENTIAL;aTHERE EXISTS;gDOES NOT EXIST;aEMPTY SET;aINCREMENT;aNABLA;
aELEMENT OF;aNOT AN ELEMENT OF;aSMALL ELEMENT OF;aCONTAINS AS MEMBER;aDOES NOT CONTAIN AS MEMBER;
aSMALL CONTAINS AS MEMBER;aEND OF PROOF;aN-ARY PRODUCT;gCOPRODUCT;gSUMMATION;aMINUS SIGN;
f-OR-PLUS SIGN;aDOT PLUS;bIVISION SLASH;aSET MINUS;aASTERISK OPERATOR;aRING OPERATOR;
aBULLET OPERATOR;aSQUARE ROOT;aCUBE ROOT;aFOURTH ROOT;aPROPORTIONAL TO;aINFINITY;aRIGHT ANGLE;
aANGLE;aMEASURED ANGLE;aSPHERICAL ANGLE;aDIVIDES;bOES NOT DIVIDE;aPARALLEL TO;aNOT PARALLEL TO;
aLOGICAL AND;iOR;aINTERSECTION;aUNION;aINTEGRAL;aDOUBLE INTEGRAL;aTRIPLE INTEGRAL;
aCONTOUR INTEGRAL;aSURFACE INTEGRAL;aVOLUME INTEGRAL;aCLOCKWISE INTEGRAL;kCONTOUR INTEGRAL;
aANTICLOCKWISE CONTOUR INTEGRAL;aTHEREFORE;aBECAUSE;aRATIO;aPROPORTION;aDOT MINUS;aEXCESS;
aGEOMETRIC PROPORTION;aHOMOTHETIC;aTILDE OPERATOR;aREVERSED TILDE;aINVERTED LAZY S;aSINE WAVE;
aWREATH PRODUCT;aNOT TILDE;aMINUS TILDE;aASYMPTOTICALLY EQUAL TO;aNOT ASYMPTOTICALLY EQUAL TO;
aAPPROXIMATELY EQUAL TO;oBUT NOT ACTUALLY EQUAL TO;aNEITHER APPROXIMATELY NOR ACTUALLY EQUAL TO;
aALMOST EQUAL TO;aNOT ALMOST EQUAL TO;aALMOST EQUAL OR EQUAL TO;aTRIPLE TILDE;aALL EQUAL TO;
aEQUIVALENT TO;aGEOMETRICALLY EQUIVALENT TO;aDIFFERENCE BETWEEN;aAPPROACHES THE LIMIT;
aGEOMETRICALLY EQUAL TO;aAPPROXIMATELY EQUAL TO OR THE IMAGE OF;aIMAGE OF OR APPROXIMATELY EQUAL T
O;aCOLON EQUALS;aEQUALS COLON;aRING IN EQUAL TO;fEQUAL TO;aCORRESPONDS TO;aESTIMATES;
bQUIANGULAR TO;aSTAR EQUALS;aDELTA EQUAL TO;aEQUAL TO BY DEFINITION;aMEASURED BY;
aQUESTIONED EQUAL TO;aNOT EQUAL TO;aIDENTICAL TO;aNOT IDENTICAL TO;aSTRICTLY EQUIVALENT TO;
aLESS-THAN OR EQUAL TO;aGREATER-THAN OR EQUAL TO;aLESS-THAN OVER EQUAL TO;aGREATER-THAN OVER EQUA
L TO;aLESS-THAN BUT NOT EQUAL TO;aGREATER-THAN BUT NOT EQUAL TO;aMUCH LESS-THAN;fGREATER-THAN;
aBETWEEN;aNOT EQUIVALENT TO;eLESS-THAN;eGREATER-THAN;bEITHER LESS-THAN NOR EQUAL TO;
iGREATER-THAN NOR EQUAL TO;aLESS-THAN OR EQUIVALENT TO;aGREATER-THAN OR EQUIVALENT TO;
aNEITHER LESS-THAN NOR EQUIVALENT TO;iGREATER-THAN NOR EQUIVALENT TO;aLESS-THAN OR GREATER-THAN;
aGREATER-THAN OR LESS-THAN;aNEITHER LESS-THAN NOR GREATER-THAN;iGREATER-THAN NOR LESS-THAN;
aPRECEDES;aSUCCEEDS;aPRECEDES OR EQUAL TO;aSUCCEEDS OR EQUAL TO;aPRECEDES OR EQUIVALENT TO;
aSUCCEEDS OR EQUIVALENT TO;aDOES NOT PRECEDE;jSUCCEED;aSUBSET OF;cPERSET OF;aNOT A SUBSET OF;
iPERSET OF;aSUBSET OF OR EQUAL TO;cPERSET OF OR EQUAL TO;aNEITHER A SUBSET OF NOR EQUAL TO;
mPERSET OF NOR EQUAL TO;aSUBSET OF WITH NOT EQUAL TO;cPERSET OF WITH NOT EQUAL TO;aMULTISET;
i MULTIPLICATION;jUNION;aSQUARE IMAGE OF;hORIG
INAL OF;hIMAGE OF OR EQUAL TO;hORIG
INAL OF OR EQUAL TO;hCAP;iUP;aCIRCLED PLUS;iMINUS;iTIMES;iDIVISION SLASH;jOT OPERATOR;
iRING OPERATOR;iASTERISK OPERATOR;iEQUALS;iDASH;aSQUARED PLUS;iMINUS;iTIMES;iDOT OPERATOR;
aRIGHT TACK;aLEFT TACK;aDOWN TACK;aUP TACK;aASSERTION;aMODELS;aTRUE;aFORCES;
aTRIPLE VERTICAL BAR RIGHT TURNSTILE;aDOUBLE VERTICAL BAR DOUBLE RIGHT TURNSTILE;cES NOT PROVE;
aNOT TRUE;aDOES NOT FORCE;aNEGATED DOUBLE VERTICAL BAR DOUBLE RIGHT TURNSTILE;
aPRECEDES UNDER RELATION;aSUCCEEDS UNDER RELATION;aNORMAL SUBGROUP OF;aCONTAINS AS NORMAL SUBGROUP
;aNORMAL SUBGROUP OF OR EQUAL TO;aCONTAINS AS NORMAL SUBGROUP OR EQUAL TO;aORIG
INAL OF;aIMAGE OF;aMULTIMAP;aHERMITIAN CONJUGATE MATRIX;aINTERCALATE;aXOR;aNAND;bOR;
aRIGHT ANGLE WITH ARC;gTRIANGLE;aN-ARY LOGICAL AND;oOR;gINTERSECTION;gUNION;aDIAMOND OPERATOR;
bOT OPERATOR;aSTAR OPERATOR;aDIVISION TIMES;aBOWTIE;aLEFT NORMAL FACTOR SEMIDIRECT PRODUCT;
aRIGHT NORMAL FACTOR SEMIDIRECT PRODUCT;aLEFT SEMIDIRECT PRODUCT;aRIGHT SEMIDIRECT PRODUCT;
bEVERSED TILDE EQUALS;aCURLY LOGICAL OR;oAND;aDOUBLE SUBSET;jPERSET;hINTERSECTION;hUNION;
aPITCHFORK;aEQUAL AND PARALLEL TO;aLESS-THAN WITH DOT;aGREATER-THAN WITH DOT;aVERY MUCH LESS-THAN;
kGREATER-THAN;aLESS-THAN EQUAL TO OR GREATER-THAN;aGREATER-THAN EQUAL TO OR LESS-THAN;
aEQUAL TO OR LESS-THAN;mGREATER-THAN;mPRECEDES;mSUCCEEDS;aDOES NOT PRECEDE OR EQUAL;
jSUCCEED OR EQUAL;aNOT SQUARE IMAGE OF OR EQUAL TO;lORIG
INAL OF OR EQUAL TO;aSQUARE IMAGE OF OR NOT EQUAL TO;hORIG
INAL OF OR NOT EQUAL TO;aLESS-THAN BUT NOT EQUIVALENT TO;aGREATER-THAN BUT NOT EQUIVALENT TO;
aPRECEDES BUT NOT EQUIVALENT TO;aSUCCEEDS BUT NOT EQUIVALENT TO;aNOT NORMAL SUBGROUP OF;
aDOES NOT CONTAIN AS NORMAL SUBGROUP;aNOT NORMAL SUBGROUP OF OR EQUAL TO;aDOES NOT CONTAIN AS NORM
AL SUBGROUP OR EQUAL;aVERTICAL ELLIPSIS;aMIDLINE HORIZONTAL ELLIPSIS;aUP RIGHT DIAGONAL ELLIPSIS;
aDOWN RIGHT DIAGONAL ELLIPSIS;aELEMENT OF WITH LONG HORIZONTAL STROKE;qVERTICAL BAR AT END OF HORI
ZONTAL STROKE;aSMALL ELEMENT OF WITH VERTICAL BAR AT END OF HORIZONTAL STROKE;
aELEMENT OF WITH DOT ABOVE;qOVERBAR;aSMALL ELEMENT OF WITH OVERBAR;aELEMENT OF WITH UNDERBAR;
qTWO HORIZONTAL STROKES;aCONTAINS WITH LONG HORIZONTAL STROKE;oVERTICAL BAR AT END OF HORIZONTAL S
TROKE;aSMALL CONTAINS WITH VERTICAL BAR AT END OF HORIZONTAL STROKE;aCONTAINS WITH OVERBAR;
aSMALL CONTAINS WITH OVERBAR;aZ NOTATION BAG MEMBERSHIP;aDIAMETER SIGN;aELECTRIC ARROW;aHOUSE;
aUP ARROWHEAD;aDOWN ARROWHEAD;aPROJECTIVE;bERSPECTIVE;aWAVY LINE;aLEFT CEILING;aRIGHT CEILING;
aLEFT FLOOR;aRIGHT FLOOR;aBOTTOM RIGHT CROP;hLEFT CROP;aTOP RIGHT CROP;eLEFT CROP;
aREVERSED NOT SIGN;aSQUARE LOZENGE;aARC;aSEGMENT;cCTOR;aTELEPHONE RECORDER;aPOSITION INDICATOR;
aVIEWDATA SQUARE;aPLACE OF INTEREST SIGN;aTURNED NOT SIGN;aWATCH;aHOURGLASS;aTOP LEFT CORNER;
eRIGHT CORNER;aBOTTOM LEFT CORNER;hRIGHT CORNER;aTOP HALF INTEGRAL;aBOTTOM HALF INTEGRAL;aFROWN;
aSMILE;aUP ARROWHEAD BETWEEN TWO HORIZONTAL BARS;aOPTION KEY;aERASE TO THE RIGHT;
aX IN A RECTANGLE BOX;aKEYBOARD;aLEFT-POINTING ANGLE BRACKET;aRIGHT-POINTING ANGLE BRACKET;
aERASE TO THE LEFT;aBENZENE RING;aCYLINDRICITY;aALL AROUND-PROFILE;aSYMMETRY;aTOTAL RUNOUT;
aDIMENSION ORIGIN;aCONICAL TAPER;aSLOPE;aCOUNTERBORE;hSINK;aAPL FUNCTIONAL SYMBOL I-BEAM;
wSQUISH QUAD;wQUAD EQUAL;zcDIVIDE;zeAMOND;zcJOT;zcCIRCLE;wCIRCLE STILE;zeJOT;wSLASH BAR;
wBACKSLASH BAR;wQUAD SLASH;zcBACKSLASH;zcLESS-THAN;zcGREATER-THAN;wLEFTWARDS VANE;
wRIGHTWARDS VANE;wQUAD LEFTWARDS ARROW;zcRIGHTWARDS ARROW;wCIRCLE BACKSLASH;wDOWN TACK UNDERBAR;
xELTA STILE;wQUAD DOWN CARET;zdELTA;wDOWN TACK JOT;wUPWARDS VANE;wQUAD UPWARDS ARROW;
wUP TACK OVERBAR;wDEL STILE;wQUAD UP CARET;zcDEL;wUP TACK JOT;wDOWNWARDS VANE;
wQUAD DOWNWARDS ARROW;yOTE UNDERBAR;wDELTA UNDERBAR;xIAMOND UNDERBAR;wJOT UNDERBAR;
wCIRCLE UNDERBAR;wUP SHOE JOT;wQUOTE QUAD;wCIRCLE STAR;wQUAD COLON;wUP TACK DIAERESIS;
wDEL DIAERESIS;wSTAR DIAERESIS;wJOT DIAERESIS;wCIRCLE DIAERESIS;wDOWN SHOE STILE;wLEFT SHOE STILE;
wTILDE DIAERESIS;wGREATER-THAN DIAERESIS;wCOMMA BAR;wDEL TILDE;wZILDE;wSTILE TILDE;
xEMICOLON UNDERBAR;wQUAD NOT EQUAL;zcQUESTION;wDOWN CARET TILDE;wUP CARET TILDE;wIOTA;wRHO;wOMEGA;
wALPHA UNDERBAR;wEPSILON UNDERBAR;wIOTA UNDERBAR;wOMEGA UNDERBAR;wALPHA;aNOT CHECK MARK;
aRIGHT ANGLE WITH DOWNWARDS ZIGZAG ARROW;aSHOULDERED OPEN BOX;aBELL SYMBOL;
aVERTICAL LINE WITH MIDDLE DOT;aINSERTION SYMBOL;aCONTINUOUS UNDERLINE SYMBOL;
aDISCONTINUOUS UNDERLINE SYMBOL;aEMPHASIS SYMBOL;aCOMPOSITION SYMBOL;aWHITE SQUARE WITH CENTRE VER
TICAL LINE;aENTER SYMBOL;aALTERNATIVE KEY SYMBOL;aHELM SYMBOL;aCIRCLED HORIZONTAL BAR WITH NOTCH;
iTRIANGLE DOWN;aBROKEN CIRCLE WITH NORTHWEST ARROW;aUNDO SYMBOL;aMONOSTABLE SYMBOL;
aHYSTERESIS SYMBOL;aOPEN-CIRCUIT-OUTPUT H-TYPE SYMBOL;uL-TYPE SYMBOL;aPASSIVE-PULL-DOWN-OUTPUT SYM
BOL;nUP-OUTPUT SYMBOL;aDIRECT CURRENT SYMBOL FORM TWO;aSOFTWARE-FUNCTION SYMBOL;
aAPL FUNCTIONAL SYMBOL QUAD;aDECIMAL SEPARATOR KEY SYMBOL;aPREVIOUS PAGE;aNEXT PAGE;
aPRINT SCREEN SYMBOL;aCLEAR SCREEN SYMBOL;aLEFT PARENTHESIS UPPER HOOK;rEXTENSION;rLOWER HOOK;
aRIGHT PARENTHESIS UPPER HOOK;sEXTENSION;sLOWER HOOK;aLEFT SQUARE BRACKET UPPER CORNER;uEXTENSION;
uLOWER CORNER;aRIGHT SQUARE BRACKET UPPER CORNER;vEXTENSION;vLOWER CORNER;aLEFT CURLY BRACKET UPPE
R HOOK;tMIDDLE PIECE;tLOWER HOOK;aCURLY BRACKET EXTENSION;aRIGHT CURLY BRACKET UPPER HOOK;
uMIDDLE PIECE;uLOWER HOOK;aINTEGRAL EXTENSION;aHORIZONTAL LINE EXTENSION;aUPPER LEFT OR LOWER RIGH
T CURLY BRACKET SECTION;gRIGHT OR LOWER LEFT CURLY BRACKET SECTION;aSUMMATION TOP;kBOTTOM;
aTOP SQUARE BRACKET;aBOTTOM SQUARE BRACKET;v OVER TOP SQUARE BRACKET;aRADICAL SYMBOL BOTTOM;
aLEFT VERTICAL BOX LINE;aRIGHT VERTICAL BOX LINE;aHORIZONTAL SCAN LINE-1;v3;v7;v9;
aDENTISTRY SYMBOL LIGHT VERTICAL AND TOP RIGHT;zlBOTTOM RIGHT;zhWITH CIRCLE;
xDOWN AND HORIZONTAL WITH CIRCLE;xUP AND HORIZONTAL WITH CIRCLE;xVERTICAL WITH TRIANGLE;
xDOWN AND HORIZONTAL WITH TRIANGLE;xUP AND HORIZONTAL WITH TRIANGLE;xVERTICAL AND WAVE;
xDOWN AND HORIZONTAL WITH WAVE;xUP AND HORIZONTAL WITH WAVE;xDOWN AND HORIZONTAL;
xUP AND HORIZONTAL;xVERTICAL AND TOP LEFT;zlBOTTOM LEFT;aSQUARE FOOT;aRETURN SYMBOL;aEJECT SYMBOL;
aVERTICAL LINE EXTENSION;aMETRICAL BREVE;jLONG OVER SHORT;jSHORT OVER LONG;jLONG OVER TWO SHORTS;
jTWO SHORTS OVER LONG;uJOINED;kRISEME;kETRASEME;jPENTASEME;aEARTH GROUND;aFUSE;aTOP PARENTHESIS;
aBOTTOM PARENTHESIS;aTOP CURLY BRACKET;aBOTTOM CURLY BRACKET;aTOP TORTOISE SHELL BRACKET;
aBOTTOM TORTOISE SHELL BRACKET;aWHITE TRAPEZIUM;aBENZENE RING WITH CIRCLE;aSTRAIGHTNESS;aFLATNESS;
aAC CURRENT;aELECTRICAL INTERSECTION;aDECIMAL EXPONENT SYMBOL;aBLACK RIGHT-POINTING DOUBLE TRIANGL
E;gLEFT-POINTING DOUBLE TRIANGLE;gUP-POINTING DOUBLE TRIANGLE;gDOWN-POINTING DOUBLE TRIANGLE;
gRIGHT-POINTING DOUBLE TRIANGLE WITH VERTICAL BAR;gLEFT-POINTING DOUBLE TRIANGLE WITH VERTICAL BAR
;gRIGHT-POINTING TRIANGLE WITH DOUBLE VERTICAL BAR;aALARM CLOCK;aSTOPWATCH;aTIMER CLOCK;
aHOURGLASS WITH FLOWING SAND;aBLACK MEDIUM LEFT-POINTING TRIANGLE;nRIGHT-POINTING TRIANGLE;
nUP-POINTING TRIANGLE;nDOWN-POINTING TRIANGLE;aDOUBLE VERTICAL BAR;aBLACK SQUARE FOR STOP;
gCIRCLE FOR RECORD;aPOWER SYMBOL;gON-OFF SYMBOL;i SYMBOL;gSLEEP SYMBOL;aOBSERVER EYE SYMBOL;
aSYMBOL FOR NULL;lSTART OF HEADING;uTEXT;lEND OF TEXT;tRANSMISSION;nQUIRY;lACKNOWLEDGE;lBELL;
mACKSPACE;lHORIZONTAL TABULATION;lLINE FEED;lVERTICAL TABULATION;lFORM FEED;lCARRIAGE RETURN;
lSHIFT OUT;rIN;lDATA LINK ESCAPE;mEVICE CONTROL ONE;zbTWO;zcHREE;zbFOUR;lNEGATIVE ACKNOWLEDGE;
lSYNCHRONOUS IDLE;lEND OF TRANSMISSION BLOCK;lCANCEL;lEND OF MEDIUM;lSUBSTITUTE;lESCAPE;
lFILE SEPARATOR;lGROUP SEPARATOR;lRECORD SEPARATOR;lUNIT SEPARATOR;lSPACE;lDELETE;aBLANK SYMBOL;
aOPEN BOX;aSYMBOL FOR NEWLINE;lDELETE FORM TWO;lSUBSTITUTE FORM TWO;2440:aOCR HOOK;eCHAIR;eFORK;
eINVERTED FORK;eBELT BUCKLE;fOW TIE;fRANCH BANK IDENTIFICATION;eAMOUNT OF CHECK;eDASH;
eCUSTOMER ACCOUNT NUMBER;eDOUBLE BACKSLASH;2460:aCIRCLED DIGIT ONE;oTWO;pHREE;oFOUR;pIVE;oSIX;
pEVEN;oEIGHT;oNINE;iNUMBER TEN;pELEVEN;pTWELVE;qHIRTEEN;pFOURTEEN;qIFTEEN;pSIXTEEN;qEVENTEEN;
pEIGHTEEN;pNINETEEN;pTWENTY;aPARENTHESIZED DIGIT ONE;uTWO;vHREE;uFOUR;vIVE;uSIX;vEVEN;uEIGHT;
uNINE;oNUMBER TEN;vELEVEN;vTWELVE;wHIRTEEN;vFOURTEEN;wIFTEEN;vSIXTEEN;wEVENTEEN;vEIGHTEEN;
vNINETEEN;vTWENTY;aDIGIT ONE FULL STOP;gTWO FULL STOP;hHREE FULL STOP;gFOUR FULL STOP;
hIVE FULL STOP;gSIX FULL STOP;hEVEN FULL STOP;gEIGHT FULL STOP;gNINE FULL STOP;
aNUMBER TEN FULL STOP;hELEVEN FULL STOP;hTWELVE FULL STOP;iHIRTEEN FULL STOP;hFOURTEEN FULL STOP;
iIFTEEN FULL STOP;hSIXTEEN FULL STOP;iEVENTEEN FULL STOP;hEIGHTEEN FULL STOP;hNINETEEN FULL STOP;
hTWENTY FULL STOP;aPARENTHESIZED LATIN SMALL LETTER A;ziB;ziC;ziD;ziE;ziF;ziG;ziH;ziI;ziJ;ziK;ziL;
ziM;ziN;ziO;ziP;ziQ;ziR;ziS;ziT;ziU;ziV;ziW;ziX;ziY;ziZ;aCIRCLED LATIN CAPITAL LETTER A;zeB;zeC;
zeD;zeE;zeF;zeG;zeH;zeI;zeJ;zeK;zeL;zeM;zeN;zeO;zeP;zeQ;zeR;zeS;zeT;zeU;zeV;zeW;zeX;zeY;zeZ;
oSMALL LETTER A;zcB;zcC;zcD;zcE;zcF;zcG;zcH;zcI;zcJ;zcK;zcL;zcM;zcN;zcO;zcP;zcQ;zcR;zcS;zcT;zcU;
zcV;zcW;zcX;zcY;zcZ;iDIGIT ZERO;aNEGATIVE CIRCLED NUMBER ELEVEN;yTWELVE;zHIRTEEN;yFOURTEEN;
zIFTEEN;ySIXTEEN;zEVENTEEN;yEIGHTEEN;yNINETEEN;yTWENTY;aDOUBLE CIRCLED DIGIT ONE;vTWO;wHREE;vFOUR;
wIVE;vSIX;wEVEN;vEIGHT;vNINE;pNUMBER TEN;aNEGATIVE CIRCLED DIGIT ZERO;aBOX DRAWINGS LIGHT HORIZONT
AL;nHEAVY HORIZONTAL;nLIGHT VERTICAL;nHEAVY VERTICAL;nLIGHT TRIPLE DASH HORIZONTAL;
nHEAVY TRIPLE DASH HORIZONTAL;nLIGHT TRIPLE DASH VERTICAL;nHEAVY TRIPLE DASH VERTICAL;
nLIGHT QUADRUPLE DASH HORIZONTAL;nHEAVY QUADRUPLE DASH HORIZONTAL;nLIGHT QUADRUPLE DASH VERTICAL;
nHEAVY QUADRUPLE DASH VERTICAL;nLIGHT DOWN AND RIGHT;nDOWN LIGHT AND RIGHT HEAVY;
sHEAVY AND RIGHT LIGHT;nHEAVY DOWN AND RIGHT;nLIGHT DOWN AND LEFT;nDOWN LIGHT AND LEFT HEAVY;
sHEAVY AND LEFT LIGHT;nHEAVY DOWN AND LEFT;nLIGHT UP AND RIGHT;nUP LIGHT AND RIGHT HEAVY;
qHEAVY AND RIGHT LIGHT;nHEAVY UP AND RIGHT;nLIGHT UP AND LEFT;nUP LIGHT AND LEFT HEAVY;
qHEAVY AND LEFT LIGHT;nHEAVY UP AND LEFT;nLIGHT VERTICAL AND RIGHT;nVERTICAL LIGHT AND RIGHT HEAVY
;nUP HEAVY AND RIGHT DOWN LIGHT;nDOWN HEAVY AND RIGHT UP LIGHT;nVERTICAL HEAVY AND RIGHT LIGHT;
nDOWN LIGHT AND RIGHT UP HEAVY;nUP LIGHT AND RIGHT DOWN HEAVY;nHEAVY VERTICAL AND RIGHT;
nLIGHT VERTICAL AND LEFT;nVERTICAL LIGHT AND LEFT HEAVY;nUP HEAVY AND LEFT DOWN LIGHT;
nDOWN HEAVY AND LEFT UP LIGHT;nVERTICAL HEAVY AND LEFT LIGHT;nDOWN LIGHT AND LEFT UP HEAVY;
nUP LIGHT AND LEFT DOWN HEAVY;nHEAVY VERTICAL AND LEFT;nLIGHT DOWN AND HORIZONTAL;
oEFT HEAVY AND RIGHT DOWN LIGHT;nRIGHT HEAVY AND LEFT DOWN LIGHT;nDOWN LIGHT AND HORIZONTAL HEAVY;
sHEAVY AND HORIZONTAL LIGHT;nRIGHT LIGHT AND LEFT DOWN HEAVY;nLEFT LIGHT AND RIGHT DOWN HEAVY;
nHEAVY DOWN AND HORIZONTAL;nLIGHT UP AND HORIZONTAL;oEFT HEAVY AND RIGHT UP LIGHT;
nRIGHT HEAVY AND LEFT UP LIGHT;nUP LIGHT AND HORIZONTAL HEAVY;qHEAVY AND HORIZONTAL LIGHT;
nRIGHT LIGHT AND LEFT UP HEAVY;nLEFT LIGHT AND RIGHT UP HEAVY;nHEAVY UP AND HORIZONTAL;
nLIGHT VERTICAL AND HORIZONTAL;oEFT HEAVY AND RIGHT VERTICAL LIGHT;nRIGHT HEAVY AND LEFT VERTICA
L LIGHT;nVERTICAL LIGHT AND HORIZONTAL HEAVY;nUP HEAVY AND DOWN HORIZONTAL LIGHT;
nDOWN HEAVY AND UP HORIZONTAL LIGHT;nVERTICAL HEAVY AND HORIZONTAL LIGHT;nLEFT UP HEAVY AND RIGH
T DOWN LIGHT;nRIGHT UP HEAVY AND LEFT DOWN LIGHT;nLEFT DOWN HEAVY AND RIGHT UP LIGHT;
nRIGHT DOWN HEAVY AND LEFT UP LIGHT;nDOWN LIGHT AND UP HORIZONTAL HEAVY;nUP LIGHT AND DOWN HORIZON
TAL HEAVY;nRIGHT LIGHT AND LEFT VERTICAL HEAVY;nLEFT LIGHT AND RIGHT VERTICAL HEAVY;
nHEAVY VERTICAL AND HORIZONTAL;nLIGHT DOUBLE DASH HORIZONTAL;nHEAVY DOUBLE DASH HORIZONTAL;
nLIGHT DOUBLE DASH VERTICAL;nHEAVY DOUBLE DASH VERTICAL;nDOUBLE HORIZONTAL;uVERTICAL;
pWN SINGLE AND RIGHT DOUBLE;sDOUBLE AND RIGHT SINGLE;pUBLE DOWN AND RIGHT;pWN SINGLE AND LEFT DOUB
LE;sDOUBLE AND LEFT SINGLE;pUBLE DOWN AND LEFT;nUP SINGLE AND RIGHT DOUBLE;
qDOUBLE AND RIGHT SINGLE;nDOUBLE UP AND RIGHT;nUP SINGLE AND LEFT DOUBLE;qDOUBLE AND LEFT SINGLE;
nDOUBLE UP AND LEFT;nVERTICAL SINGLE AND RIGHT DOUBLE;wDOUBLE AND RIGHT SINGLE;
nDOUBLE VERTICAL AND RIGHT;nVERTICAL SINGLE AND LEFT DOUBLE;wDOUBLE AND LEFT SINGLE;
nDOUBLE VERTICAL AND LEFT;pWN SINGLE AND HORIZONTAL DOUBLE;sDOUBLE AND HORIZONTAL SINGLE;
pUBLE DOWN AND HORIZONTAL;nUP SINGLE AND HORIZONTAL DOUBLE;qDOUBLE AND HORIZONTAL SINGLE;
nDOUBLE UP AND HORIZONTAL;nVERTICAL SINGLE AND HORIZONTAL DOUBLE;wDOUBLE AND HORIZONTAL SINGLE;
nDOUBLE VERTICAL AND HORIZONTAL;nLIGHT ARC DOWN AND RIGHT;zhLEFT;xUP AND LEFT;zfRIGHT;
tDIAGONAL UPPER RIGHT TO LOWER LEFT;zjLEFT TO LOWER RIGHT;zdCROSS;tLEFT;tUP;tRIGHT;tDOWN;
nHEAVY LEFT;tUP;tRIGHT;tDOWN;nLIGHT LEFT AND HEAVY RIGHT;tUP AND HEAVY DOWN;
nHEAVY LEFT AND LIGHT RIGHT;tUP AND LIGHT DOWN;aUPPER HALF BLOCK;aLOWER ONE EIGHTH BLOCK;
kQUARTER BLOCK;gTHREE EIGHTHS BLOCK;gHALF BLOCK;gFIVE EIGHTHS BLOCK;gTHREE QUARTERS BLOCK;
gSEVEN EIGHTHS BLOCK;aFULL BLOCK;aLEFT SEVEN EIGHTHS BLOCK;fTHREE QUARTERS BLOCK;
fFIVE EIGHTHS BLOCK;fHALF BLOCK;fTHREE EIGHTHS BLOCK;fONE QUARTER BLOCK;jEIGHTH BLOCK;
aRIGHT HALF BLOCK;aLIGHT SHADE;aMEDIUM SHADE;aDARK SHADE;aUPPER ONE EIGHTH BLOCK;
aRIGHT ONE EIGHTH BLOCK;aQUADRANT LOWER LEFT;pRIGHT;jUPPER LEFT;t AND LOWER LEFT AND LOWER RIGHT;
zfRIGHT;yUPPER RIGHT AND LOWER LEFT;zvRIGHT;pRIGHT;u AND LOWER LEFT;zk AND LOWER RIGHT;
aBLACK SQUARE;aWHITE SQUARE;m WITH ROUNDED CORNERS;nCONTAINING BLACK SMALL SQUARE;
aSQUARE WITH HORIZONTAL FILL;mVERTICAL FILL;mORTHOGONAL CROSSHATCH FILL;mUPPER LEFT TO LOWER RIGH
T FILL;sRIGHT TO LOWER LEFT FILL;mDIAGONAL CROSSHATCH FILL;aBLACK SMALL SQUARE;
aWHITE SMALL SQUARE;aBLACK RECTANGLE;aWHITE RECTANGLE;aBLACK VERTICAL RECTANGLE;
aWHITE VERTICAL RECTANGLE;aBLACK PARALLELOGRAM;aWHITE PARALLELOGRAM;aBLACK UP-POINTING TRIANGLE;
aWHITE UP-POINTING TRIANGLE;aBLACK UP-POINTING SMALL TRIANGLE;aWHITE UP-POINTING SMALL TRIANGLE;
aBLACK RIGHT-POINTING TRIANGLE;aWHITE RIGHT-POINTING TRIANGLE;aBLACK RIGHT-POINTING SMALL TRIANGLE
;aWHITE RIGHT-POINTING SMALL TRIANGLE;aBLACK RIGHT-POINTING POINTER;aWHITE RIGHT-POINTING POINTER;
aBLACK DOWN-POINTING TRIANGLE;aWHITE DOWN-POINTING TRIANGLE;aBLACK DOWN-POINTING SMALL TRIANGLE;
aWHITE DOWN-POINTING SMALL TRIANGLE;aBLACK LEFT-POINTING TRIANGLE;aWHITE LEFT-POINTING TRIANGLE;
aBLACK LEFT-POINTING SMALL TRIANGLE;aWHITE LEFT-POINTING SMALL TRIANGLE;aBLACK LEFT-POINTING POINT
ER;aWHITE LEFT-POINTING POINTER;aBLACK DIAMOND;aWHITE DIAMOND;n CONTAINING BLACK SMALL DIAMOND;
aFISHEYE;aLOZENGE;aWHITE CIRCLE;aDOTTED CIRCLE;aCIRCLE WITH VERTICAL FILL;aBULLSEYE;bLACK CIRCLE;
aCIRCLE WITH LEFT HALF BLACK;mRIGHT HALF BLACK;mLOWER HALF BLACK;mUPPER HALF BLACK;
sRIGHT QUADRANT BLACK;mALL BUT UPPER LEFT QUADRANT BLACK;aLEFT HALF BLACK CIRCLE;
aRIGHT HALF BLACK CIRCLE;aINVERSE BULLET;iWHITE CIRCLE;aUPPER HALF INVERSE WHITE CIRCLE;
aLOWER HALF INVERSE WHITE CIRCLE;aUPPER LEFT QUADRANT CIRCULAR ARC;gRIGHT QUADRANT CIRCULAR ARC;
aLOWER RIGHT QUADRANT CIRCULAR ARC;gLEFT QUADRANT CIRCULAR ARC;aUPPER HALF CIRCLE;
aLOWER HALF CIRCLE;aBLACK LOWER RIGHT TRIANGLE;mLEFT TRIANGLE;gUPPER LEFT TRIANGLE;
mRIGHT TRIANGLE;aWHITE BULLET;aSQUARE WITH LEFT HALF BLACK;mRIGHT HALF BLACK;
mUPPER LEFT DIAGONAL HALF BLACK;mLOWER RIGHT DIAGONAL HALF BLACK;aWHITE SQUARE WITH VERTICAL BISEC
TING LINE;gUP-POINTING TRIANGLE WITH DOT;aUP-POINTING TRIANGLE WITH LEFT HALF BLACK;
zbRIGHT HALF BLACK;aLARGE CIRCLE;aWHITE SQUARE WITH UPPER LEFT QUADRANT;sLOWER LEFT QUADRANT;
yRIGHT QUADRANT;sUPPER RIGHT QUADRANT;gCIRCLE WITH UPPER LEFT QUADRANT;sLOWER LEFT QUADRANT;
yRIGHT QUADRANT;sUPPER RIGHT QUADRANT;aUPPER LEFT TRIANGLE;gRIGHT TRIANGLE;aLOWER LEFT TRIANGLE;
aWHITE MEDIUM SQUARE;aBLACK MEDIUM SQUARE;aWHITE MEDIUM SMALL SQUARE;aBLACK MEDIUM SMALL SQUARE;
aLOWER RIGHT TRIANGLE;aBLACK SUN WITH RAYS;aCLOUD;aUMBRELLA;aSNOWMAN;aCOMET;aBLACK STAR;
aWHITE STAR;aLIGHTNING;aTHUNDERSTORM;aSUN;aASCENDING NODE;aDESCENDING NODE;aCONJUNCTION;
aOPPOSITION;aBLACK TELEPHONE;aWHITE TELEPHONE;aBALLOT BOX;k WITH CHECK;qX;aSALTIRE;
aUMBRELLA WITH RAIN DROPS;aHOT BEVERAGE;aWHITE SHOGI PIECE;aBLACK SHOGI PIECE;aSHAMROCK;
aREVERSED ROTATED FLORAL HEART BULLET;aBLACK LEFT POINTING INDEX;gRIGHT POINTING INDEX;
aWHITE LEFT POINTING INDEX;gUP POINTING INDEX;gRIGHT POINTING INDEX;gDOWN POINTING INDEX;
aSKULL AND CROSSBONES;aCAUTION SIGN;aRADIOACTIVE SIGN;aBIOHAZARD SIGN;aCADUCEUS;aANKH;
aORTHODOX CROSS;aCHI RHO;bROSS OF LORRAINE;jJERUSALEM;aSTAR AND CRESCENT;aFARSI SYMBOL;
aADI SHAKTI;aHAMMER AND SICKLE;aPEACE SYMBOL;aYIN YANG;aTRIGRAM FOR HEAVEN;mLAKE;mFIRE;mTHUNDER;
mWIND;nATER;mMOUNTAIN;mEARTH;aWHEEL OF DHARMA;cITE FROWNING FACE;gSMILING FACE;
aBLACK SMILING FACE;aWHITE SUN WITH RAYS;aFIRST QUARTER MOON;aLAST QUARTER MOON;aMERCURY;
aFEMALE SIGN;aEARTH;aMALE SIGN;aJUPITER;aSATURN;aURANUS;aNEPTUNE;aPLUTO;aARIES;aTAURUS;aGEMINI;
aCANCER;aLEO;aVIRGO;aLIBRA;aSCORPIUS;bAGITTARIUS;aCAPRICORN;aAQUARIUS;aPISCES;aWHITE CHESS KING;
mQUEEN;mROOK;mBISHOP;mKNIGHT;mPAWN;aBLACK CHESS KING;mQUEEN;mROOK;mBISHOP;mKNIGHT;mPAWN;
gSPADE SUIT;aWHITE HEART SUIT;gDIAMOND SUIT;aBLACK CLUB SUIT;aWHITE SPADE SUIT;aBLACK HEART SUIT;
gDIAMOND SUIT;aWHITE CLUB SUIT;aHOT SPRINGS;aQUARTER NOTE;aEIGHTH NOTE;aBEAMED EIGHTH NOTES;
hSIXTEENTH NOTES;aMUSIC FLAT SIGN;gNATURAL SIGN;gSHARP SIGN;aWEST SYRIAC CROSS;aEAST SYRIAC CROSS;
aUNIVERSAL RECYCLING SYMBOL;aRECYCLING SYMBOL FOR TYPE-1 PLASTICS;zb2 PLASTICS;zb3 PLASTICS;
zb4 PLASTICS;zb5 PLASTICS;zb6 PLASTICS;zb7 PLASTICS;vGENERIC MATERIALS;aBLACK UNIVERSAL RECYCLIN
G SYMBOL;aRECYCLED PAPER SYMBOL;aPARTIALLY-RECYCLED PAPER SYMBOL;bERMANENT PAPER SIGN;
aWHEELCHAIR SYMBOL;aDIE FACE-1;j2;j3;j4;j5;j6;aWHITE CIRCLE WITH DOT RIGHT;sTWO DOTS;
aBLACK CIRCLE WITH WHITE DOT RIGHT;sTWO WHITE DOTS;aMONOGRAM FOR YANG;oIN;aDIGRAM FOR GREATER YANG
;lLESSER YIN;tANG;lGREATER YIN;aWHITE FLAG;aBLACK FLAG;aHAMMER AND PICK;aANCHOR;aCROSSED SWORDS;
aSTAFF OF AESCULAPIUS;bCALES;aALEMBIC;aFLOWER;aGEAR;aSTAFF OF HERMES;aATOM SYMBOL;aFLEUR-DE-LIS;
aOUTLINED WHITE STAR;aTHREE LINES CONVERGING RIGHT;xLEFT;aWARNING SIGN;aHIGH VOLTAGE SIGN;
aDOUBLED FEMALE SIGN;iMALE SIGN;aINTERLOCKED FEMALE AND MALE SIGN;aMALE AND FEMALE SIGN;
fWITH STROKE SIGN;rAND MALE AND FEMALE SIGN;aVERTICAL MALE WITH STROKE SIGN;
aHORIZONTAL MALE WITH STROKE SIGN;aMEDIUM WHITE CIRCLE;hBLACK CIRCLE;hSMALL WHITE CIRCLE;
bARRIAGE SYMBOL;aDIVORCE SYMBOL;aUNMARRIED PARTNERSHIP SYMBOL;aCOFFIN;aFUNERAL URN;aNEUTER;aCERES;
aPALLAS;aJUNO;aVESTA;aCHIRON;aBLACK MOON LILITH;aSEXTILE;cMISEXTILE;aQUINCUNX;aSESQUIQUADRATE;
bOCCER BALL;aBASEBALL;aSQUARED KEY;aWHITE DRAUGHTS MAN;pKING;aBLACK DRAUGHTS MAN;pKING;
aSNOWMAN WITHOUT SNOW;bUN BEHIND CLOUD;aRAIN;aBLACK SNOWMAN;aTHUNDER CLOUD AND RAIN;
bURNED WHITE SHOGI PIECE;hBLACK SHOGI PIECE;aWHITE DIAMOND IN SQUARE;aCROSSING LANES;
aDISABLED CAR;aOPHIUCHUS;aPICK;aCAR SLIDING;aHELMET WITH WHITE CROSS;aCIRCLED CROSSING LANES;
bHAINS;aNO ENTRY;aALTERNATE ONE-WAY LEFT WAY TRAFFIC;aBLACK TWO-WAY LEFT WAY TRAFFIC;
aWHITE TWO-WAY LEFT WAY TRAFFIC;aBLACK LEFT LANE MERGE;aWHITE LEFT LANE MERGE;aDRIVE SLOW SIGN;
aHEAVY WHITE DOWN-POINTING TRIANGLE;aLEFT CLOSED ENTRY;aSQUARED SALTIRE;aFALLING DIAGONAL IN WHIT
E CIRCLE IN BLACK SQUARE;aBLACK TRUCK;aRESTRICTED LEFT ENTRY-1;w2;aASTRONOMICAL SYMBOL FOR URANUS;
aHEAVY CIRCLE WITH STROKE AND TWO DOTS ABOVE;aPENTAGRAM;aRIGHT-HANDED INTERLACED PENTAGRAM;
aLEFT-HANDED INTERLACED PENTAGRAM;aINVERTED PENTAGRAM;aBLACK CROSS ON SHIELD;aSHINTO SHRINE;
aCHURCH;bASTLE;aHISTORIC SITE;aGEAR WITHOUT HUB;j HANDLES;aMAP SYMBOL FOR LIGHTHOUSE;bOUNTAIN;
aUMBRELLA ON GROUND;aFOUNTAIN;bLAG IN HOLE;bERRY;aSAILBOAT;bQUARE FOUR CORNERS;bKIER;aICE SKATE;
aPERSON WITH BALL;aTENT;aJAPANESE BANK SYMBOL;aHEADSTONE GRAVEYARD SYMBOL;aFUEL PUMP;
aCUP ON BLACK SQUARE;aWHITE FLAG WITH HORIZONTAL MIDDLE BLACK STRIPE;aBLACK SAFETY SCISSORS;
aUPPER BLADE SCISSORS;aBLACK SCISSORS;aLOWER BLADE SCISSORS;aWHITE SCISSORS;gHEAVY CHECK MARK;
aTELEPHONE LOCATION SIGN;bAPE DRIVE;aAIRPLANE;aENVELOPE;aRAISED FIST;hHAND;aVICTORY HAND;
aWRITING HAND;aLOWER RIGHT PENCIL;aPENCIL;aUPPER RIGHT PENCIL;aWHITE NIB;aBLACK NIB;aCHECK MARK;
aHEAVY CHECK MARK;aMULTIPLICATION X;aHEAVY MULTIPLICATION X;aBALLOT X;aHEAVY BALLOT X;
aOUTLINED GREEK CROSS;aHEAVY GREEK CROSS;aOPEN CENTRE CROSS;aHEAVY OPEN CENTRE CROSS;aLATIN CROSS;
aSHADOWED WHITE LATIN CROSS;aOUTLINED LATIN CROSS;aMALTESE CROSS;aSTAR OF DAVID;
aFOUR TEARDROP-SPOKED ASTERISK;fBALLOON-SPOKED ASTERISK;aHEAVY FOUR BALLOON-SPOKED ASTERISK;
aFOUR CLUB-SPOKED ASTERISK;aBLACK FOUR POINTED STAR;aWHITE FOUR POINTED STAR;aSPARKLES;
bTRESS OUTLINED WHITE STAR;aCIRCLED WHITE STAR;aOPEN CENTRE BLACK STAR;aBLACK CENTRE WHITE STAR;
aOUTLINED BLACK STAR;aHEAVY OUTLINED BLACK STAR;aPINWHEEL STAR;aSHADOWED WHITE STAR;
aHEAVY ASTERISK;aOPEN CENTRE ASTERISK;aEIGHT SPOKED ASTERISK;gPOINTED BLACK STAR;oPINWHEEL STAR;
aSIX POINTED BLACK STAR;aEIGHT POINTED RECTILINEAR BLACK STAR;aHEAVY EIGHT POINTED RECTILINEAR BLA
CK STAR;aTWELVE POINTED BLACK STAR;aSIXTEEN POINTED ASTERISK;aTEARDROP-SPOKED ASTERISK;
aOPEN CENTRE TEARDROP-SPOKED ASTERISK;aHEAVY TEARDROP-SPOKED ASTERISK;aSIX PETALLED BLACK AND WHIT
E FLORETTE;aBLACK FLORETTE;aWHITE FLORETTE;aEIGHT PETALLED OUTLINED BLACK FLORETTE;
aCIRCLED OPEN CENTRE EIGHT POINTED STAR;aHEAVY TEARDROP-SPOKED PINWHEEL ASTERISK;aSNOWFLAKE;
aTIGHT TRIFOLIATE SNOWFLAKE;aHEAVY CHEVRON SNOWFLAKE;aSPARKLE;aHEAVY SPARKLE;
aBALLOON-SPOKED ASTERISK;aEIGHT TEARDROP-SPOKED PROPELLER ASTERISK;aHEAVY EIGHT TEARDROP-SPOKED PR
OPELLER ASTERISK;aCROSS MARK;aSHADOWED WHITE CIRCLE;aNEGATIVE SQUARED CROSS MARK;
aLOWER RIGHT DROP-SHADOWED WHITE SQUARE;aUPPER RIGHT DROP-SHADOWED WHITE SQUARE;
aLOWER RIGHT SHADOWED WHITE SQUARE;aUPPER RIGHT SHADOWED WHITE SQUARE;aBLACK QUESTION MARK ORNAMEN
T;aWHITE QUESTION MARK ORNAMENT;gEXCLAMATION MARK ORNAMENT;aBLACK DIAMOND MINUS WHITE X;
aHEAVY EXCLAMATION MARK SYMBOL;aLIGHT VERTICAL BAR;aMEDIUM VERTICAL BAR;aHEAVY VERTICAL BAR;
gSINGLE TURNED COMMA QUOTATION MARK ORNAMENT;nCOMMA QUOTATION MARK ORNAMENT;
gDOUBLE TURNED COMMA QUOTATION MARK ORNAMENT;nCOMMA QUOTATION MARK ORNAMENT;
gLOW SINGLE COMMA QUOTATION MARK ORNAMENT;kDOUBLE COMMA QUOTATION MARK ORNAMENT;
aCURVED STEM PARAGRAPH SIGN ORNAMENT;aHEAVY EXCLAMATION MARK ORNAMENT;gHEART EXCLAMATION MARK ORNA
MENT;gBLACK HEART;aROTATED HEAVY BLACK HEART BULLET;aFLORAL HEART;aROTATED FLORAL HEART BULLET;
aMEDIUM LEFT PARENTHESIS ORNAMENT;hRIGHT PARENTHESIS ORNAMENT;hFLATTENED LEFT PARENTHESIS ORNAMENT
;rRIGHT PARENTHESIS ORNAMENT;hLEFT-POINTING ANGLE BRACKET ORNAMENT;hRIGHT-POINTING ANGLE BRACKET O
RNAMENT;aHEAVY LEFT-POINTING ANGLE QUOTATION MARK ORNAMENT;gRIGHT-POINTING ANGLE QUOTATION MARK OR
NAMENT;gLEFT-POINTING ANGLE BRACKET ORNAMENT;gRIGHT-POINTING ANGLE BRACKET ORNAMENT;
aLIGHT LEFT TORTOISE SHELL BRACKET ORNAMENT;gRIGHT TORTOISE SHELL BRACKET ORNAMENT;
aMEDIUM LEFT CURLY BRACKET ORNAMENT;hRIGHT CURLY BRACKET ORNAMENT;aDINGBAT NEGATIVE CIRCLED DIGI
T ONE;zgTWO;zhHREE;zgFOUR;zhIVE;zgSIX;zhEVEN;zgEIGHT;zgNINE;zNUMBER TEN;iCIRCLED SANS-SERIF DIGI
T ONE;ziTWO;zjHREE;ziFOUR;zjIVE;ziSIX;zjEVEN;ziEIGHT;ziNINE;zcNUMBER TEN;iNEGATIVE CIRCLED SANS-SE
RIF DIGIT ONE;zrTWO;zsHREE;zrFOUR;zsIVE;zrSIX;zsEVEN;zrEIGHT;zrNINE;zlNUMBER TEN;
aHEAVY WIDE-HEADED RIGHTWARDS ARROW;gPLUS SIGN;gMINUS SIGN;gDIVISION SIGN;gSOUTH EAST ARROW;
gRIGHTWARDS ARROW;gNORTH EAST ARROW;aDRAFTING POINT RIGHTWARDS ARROW;aHEAVY ROUND-TIPPED RIGHTWARD
S ARROW;aTRIANGLE-HEADED RIGHTWARDS ARROW;aHEAVY TRIANGLE-HEADED RIGHTWARDS ARROW;
aDASHED TRIANGLE-HEADED RIGHTWARDS ARROW;aHEAVY DASHED TRIANGLE-HEADED RIGHTWARDS ARROW;
aBLACK RIGHTWARDS ARROW;aTHREE-D TOP-LIGHTED RIGHTWARDS ARROWHEAD;iBOTTOM-LIGHTED RIGHTWARDS ARROW
HEAD;aBLACK RIGHTWARDS ARROWHEAD;aHEAVY BLACK CURVED DOWNWARDS AND RIGHTWARDS ARROW;
tUPWARDS AND RIGHTWARDS ARROW;aSQUAT BLACK RIGHTWARDS ARROW;aHEAVY CONCAVE-POINTED BLACK RIGHTWARD
S ARROW;aRIGHT-SHADED WHITE RIGHTWARDS ARROW;aLEFT-SHADED WHITE RIGHTWARDS ARROW;
aBACK-TILTED SHADOWED WHITE RIGHTWARDS ARROW;aFRONT-TILTED SHADOWED WHITE RIGHTWARDS ARROW;
aHEAVY LOWER RIGHT-SHADOWED WHITE RIGHTWARDS ARROW;gUPPER RIGHT-SHADOWED WHITE RIGHTWARDS ARROW;
aNOTCHED LOWER RIGHT-SHADOWED WHITE RIGHTWARDS ARROW;aCURLY LOOP;aNOTCHED UPPER RIGHT-SHADOWED WHI
TE RIGHTWARDS ARROW;aCIRCLED HEAVY WHITE RIGHTWARDS ARROW;aWHITE-FEATHERED RIGHTWARDS ARROW;
aBLACK-FEATHERED SOUTH EAST ARROW;qRIGHTWARDS ARROW;qNORTH EAST ARROW;aHEAVY BLACK-FEATHERED SOUT
H EAST ARROW;wRIGHTWARDS ARROW;wNORTH EAST ARROW;aTEARDROP-BARBED RIGHTWARDS ARROW;
aHEAVY TEARDROP-SHANKED RIGHTWARDS ARROW;aWEDGE-TAILED RIGHTWARDS ARROW;aHEAVY WEDGE-TAILED RIGHTW
ARDS ARROW;aOPEN-OUTLINED RIGHTWARDS ARROW;aDOUBLE CURLY LOOP;aTHREE DIMENSIONAL ANGLE;
aWHITE TRIANGLE CONTAINING SMALL WHITE TRIANGLE;aPERPENDICULAR;aOPEN SUBSET;hPERSET;
aLEFT S-SHAPED BAG DELIMITER;aRIGHT S-SHAPED BAG DELIMITER;aOR WITH DOT INSIDE;
aREVERSE SOLIDUS PRECEDING SUBSET;aSUPERSET PRECEDING SOLIDUS;aVERTICAL BAR WITH HORIZONTAL STROKE
;aMATHEMATICAL RISING DIAGONAL;aLONG DIVISION;aMATHEMATICAL FALLING DIAGONAL;aSQUARED LOGICAL AND;
qOR;aWHITE DIAMOND WITH CENTRED DOT;aAND WITH DOT;aELEMENT OF OPENING UPWARDS;
aLOWER RIGHT CORNER WITH DOT;aUPPER LEFT CORNER WITH DOT;aLEFT OUTER JOIN;aRIGHT OUTER JOIN;
aFULL OUTER JOIN;aLARGE UP TACK;gDOWN TACK;bEFT AND RIGHT DOUBLE TURNSTILE;pTACK;fMULTIMAP;
bONG RIGHT TACK;fLEFT TACK;aUP TACK WITH CIRCLE ABOVE;aLOZENGE DIVIDED BY HORIZONTAL RULE;
aWHITE CONCAVE-SIDED DIAMOND;zc WITH LEFTWARDS TICK;ziRIGHTWARDS TICK;gSQUARE WITH LEFTWARDS TICK;
sRIGHTWARDS TICK;aMATHEMATICAL LEFT WHITE SQUARE BRACKET;nRIGHT WHITE SQUARE BRACKET;
nLEFT ANGLE BRACKET;nRIGHT ANGLE BRACKET;nLEFT DOUBLE ANGLE BRACKET;nRIGHT DOUBLE ANGLE BRACKET;
nLEFT WHITE TORTOISE SHELL BRACKET;nRIGHT WHITE TORTOISE SHELL BRACKET;nLEFT FLATTENED PARENTHESIS
;nRIGHT FLATTENED PARENTHESIS;aUPWARDS QUADRUPLE ARROW;aDOWNWARDS QUADRUPLE ARROW;
aANTICLOCKWISE GAPPED CIRCLE ARROW;aCLOCKWISE GAPPED CIRCLE ARROW;aRIGHT ARROW WITH CIRCLED PLUS;
aLONG LEFTWARDS ARROW;fRIGHTWARDS ARROW;fLEFT RIGHT ARROW;jWARDS DOUBLE ARROW;
fRIGHTWARDS DOUBLE ARROW;fLEFT RIGHT DOUBLE ARROW;jWARDS ARROW FROM BAR;fRIGHTWARDS ARROW FROM BAR
;fLEFTWARDS DOUBLE ARROW FROM BAR;fRIGHTWARDS DOUBLE ARROW FROM BAR;qSQUIGGLE ARROW;
aBRAILLE PATTERN BLANK;qDOTS-1;v2;v12;v3;v13;v23;v123;v4;v14;v24;v124;v34;v134;v234;v1234;v5;v15;
v25;v125;v35;v135;v235;v1235;v45;v145;v245;v1245;v345;v1345;v2345;v12345;v6;v16;v26;v126;v36;v136;
v236;v1236;v46;v146;v246;v1246;v346;v1346;v2346;v12346;v56;v156;v256;v1256;v356;v1356;v2356;
v12356;v456;v1456;v2456;v12456;v3456;v13456;v23456;v123456;v7;v17;v27;v127;v37;v137;v237;v1237;
v47;v147;v247;v1247;v347;v1347;v2347;v12347;v57;v157;v257;v1257;v357;v1357;v2357;v12357;v457;
v1457;v2457;v12457;v3457;v13457;v23457;v123457;v67;v167;v267;v1267;v367;v1367;v2367;v12367;v467;
v1467;v2467;v12467;v3467;v13467;v23467;v123467;v567;v1567;v2567;v12567;v3567;v13567;v23567;
v123567;v4567;v14567;v24567;v124567;v34567;v134567;v234567;v1234567;v8;v18;v28;v128;v38;v138;v238;
v1238;v48;v148;v248;v1248;v348;v1348;v2348;v12348;v58;v158;v258;v1258;v358;v1358;v2358;v12358;
v458;v1458;v2458;v12458;v3458;v13458;v23458;v123458;v68;v168;v268;v1268;v368;v1368;v2368;v12368;
v468;v1468;v2468;v12468;v3468;v13468;v23468;v123468;v568;v1568;v2568;v12568;v3568;v13568;v23568;
v123568;v4568;v14568;v24568;v124568;v34568;v134568;v234568;v1234568;v78;v178;v278;v1278;v378;
v1378;v2378;v12378;v478;v1478;v2478;v12478;v3478;v13478;v23478;v123478;v578;v1578;v2578;v12578;
v3578;v13578;v23578;v123578;v4578;v14578;v24578;v124578;v34578;v134578;v234578;v1234578;v678;
v1678;v2678;v12678;v3678;v13678;v23678;v123678;v4678;v14678;v24678;v124678;v34678;v134678;v234678;
v1234678;v5678;v15678;v25678;v125678;v35678;v135678;v235678;v1235678;v45678;v145678;v245678;
v1245678;v345678;v1345678;v2345678;v12345678;aRIGHTWARDS TWO-HEADED ARROW WITH VERTICAL STROKE;
ziDOUBLE VERTICAL STROKE;aLEFTWARDS DOUBLE ARROW WITH VERTICAL STROKE;aRIGHTWARDS DOUBLE ARROW WIT
H VERTICAL STROKE;aLEFT RIGHT DOUBLE ARROW WITH VERTICAL STROKE;aRIGHTWARDS TWO-HEADED ARROW FRO
M BAR;aLEFTWARDS DOUBLE ARROW FROM BAR;aRIGHTWARDS DOUBLE ARROW FROM BAR;aDOWNWARDS ARROW WITH HOR
IZONTAL STROKE;aUPWARDS ARROW WITH HORIZONTAL STROKE;iTRIPLE ARROW;aDOWNWARDS TRIPLE ARROW;
aLEFTWARDS DOUBLE DASH ARROW;aRIGHTWARDS DOUBLE DASH ARROW;aLEFTWARDS TRIPLE DASH ARROW;
aRIGHTWARDS TRIPLE DASH ARROW;mWO-HEADED TRIPLE DASH ARROW;lARROW WITH DOTTED STEM;
aUPWARDS ARROW TO BAR;aDOWNWARDS ARROW TO BAR;aRIGHTWARDS ARROW WITH TAIL WITH VERTICAL STROKE;
zhDOUBLE VERTICAL STROKE;lTWO-HEADED ARROW WITH TAIL;zm WITH VERTICAL STROKE;
zsDOUBLE VERTICAL STROKE;aLEFTWARDS ARROW-TAIL;aRIGHTWARDS ARROW-TAIL;aLEFTWARDS DOUBLE ARROW-TAIL
;aRIGHTWARDS DOUBLE ARROW-TAIL;aLEFTWARDS ARROW TO BLACK DIAMOND;aRIGHTWARDS ARROW TO BLACK DIAMON
D;aLEFTWARDS ARROW FROM BAR TO BLACK DIAMOND;aRIGHTWARDS ARROW FROM BAR TO BLACK DIAMOND;
aNORTH WEST AND SOUTH EAST ARROW;gEAST AND SOUTH WEST ARROW;gWEST ARROW WITH HOOK;
gEAST ARROW WITH HOOK;aSOUTH EAST ARROW WITH HOOK;gWEST ARROW WITH HOOK;aNORTH WEST ARROW AND NORT
H EAST ARROW;gEAST ARROW AND SOUTH EAST ARROW;aSOUTH EAST ARROW AND SOUTH WEST ARROW;
gWEST ARROW AND NORTH WEST ARROW;aRISING DIAGONAL CROSSING FALLING DIAGONAL;
aFALLING DIAGONAL CROSSING RISING DIAGONAL;aSOUTH EAST ARROW CROSSING NORTH EAST ARROW;
aNORTH EAST ARROW CROSSING SOUTH EAST ARROW;aFALLING DIAGONAL CROSSING NORTH EAST ARROW;
aRISING DIAGONAL CROSSING SOUTH EAST ARROW;aNORTH EAST ARROW CROSSING NORTH WEST ARROW;
gWEST ARROW CROSSING NORTH EAST ARROW;aWAVE ARROW POINTING DIRECTLY RIGHT;aARROW POINTING RIGHTWAR
DS THEN CURVING UPWARDS;zoDOWNWARDS;pDOWNWARDS THEN CURVING LEFTWARDS;znRIGHTWARDS;
aRIGHT-SIDE ARC CLOCKWISE ARROW;aLEFT-SIDE ARC ANTICLOCKWISE ARROW;aTOP ARC ANTICLOCKWISE ARROW;
aBOTTOM ARC ANTICLOCKWISE ARROW;aTOP ARC CLOCKWISE ARROW WITH MINUS;iANTICLOCKWISE ARROW WITH PLUS
;aLOWER RIGHT SEMICIRCULAR CLOCKWISE ARROW;gLEFT SEMICIRCULAR ANTICLOCKWISE ARROW;
aANTICLOCKWISE CLOSED CIRCLE ARROW;aCLOCKWISE CLOSED CIRCLE ARROW;aRIGHTWARDS ARROW ABOVE SHORT LE
FTWARDS ARROW;aLEFTWARDS ARROW ABOVE SHORT RIGHTWARDS ARROW;aSHORT RIGHTWARDS ARROW ABOVE LEFTWARD
S ARROW;aRIGHTWARDS ARROW WITH PLUS BELOW;aLEFTWARDS ARROW WITH PLUS BELOW;
aRIGHTWARDS ARROW THROUGH X;aLEFT RIGHT ARROW THROUGH SMALL CIRCLE;aUPWARDS TWO-HEADED ARROW FRO
M SMALL CIRCLE;aLEFT BARB UP RIGHT BARB DOWN HARPOON;kDOWN RIGHT BARB UP HARPOON;
aUP BARB RIGHT DOWN BARB LEFT HARPOON;iLEFT DOWN BARB RIGHT HARPOON;aLEFT BARB UP RIGHT BARB UP HA
RPOON;aUP BARB RIGHT DOWN BARB RIGHT HARPOON;aLEFT BARB DOWN RIGHT BARB DOWN HARPOON;
aUP BARB LEFT DOWN BARB LEFT HARPOON;aLEFTWARDS HARPOON WITH BARB UP TO BAR;
aRIGHTWARDS HARPOON WITH BARB UP TO BAR;aUPWARDS HARPOON WITH BARB RIGHT TO BAR;
aDOWNWARDS HARPOON WITH BARB RIGHT TO BAR;aLEFTWARDS HARPOON WITH BARB DOWN TO BAR;
aRIGHTWARDS HARPOON WITH BARB DOWN TO BAR;aUPWARDS HARPOON WITH BARB LEFT TO BAR;
aDOWNWARDS HARPOON WITH BARB LEFT TO BAR;aLEFTWARDS HARPOON WITH BARB UP FROM BAR;
aRIGHTWARDS HARPOON WITH BARB UP FROM BAR;aUPWARDS HARPOON WITH BARB RIGHT FROM BAR;
aDOWNWARDS HARPOON WITH BARB RIGHT FROM BAR;aLEFTWARDS HARPOON WITH BARB DOWN FROM BAR;
aRIGHTWARDS HARPOON WITH BARB DOWN FROM BAR;aUPWARDS HARPOON WITH BARB LEFT FROM BAR;
aDOWNWARDS HARPOON WITH BARB LEFT FROM BAR;aLEFTWARDS HARPOON WITH BARB UP ABOVE LEFTWARDS HARPOO
N WITH BARB DOWN;aUPWARDS HARPOON WITH BARB LEFT BESIDE UPWARDS HARPOON WITH BARB RIGHT;
aRIGHTWARDS HARPOON WITH BARB UP ABOVE RIGHTWARDS HARPOON WITH BARB DOWN;aDOWNWARDS HARPOON WITH B
ARB LEFT BESIDE DOWNWARDS HARPOON WITH BARB RIGHT;aLEFTWARDS HARPOON WITH BARB UP ABOVE RIGHTWARD
S HARPOON WITH BARB UP;zdDOWN ABOVE RIGHTWARDS HARPOON WITH BARB DOWN;aRIGHTWARDS HARPOON WITH BAR
B UP ABOVE LEFTWARDS HARPOON WITH BARB UP;zeDOWN ABOVE LEFTWARDS HARPOON WITH BARB DOWN;
aLEFTWARDS HARPOON WITH BARB UP ABOVE LONG DASH;zdDOWN BELOW LONG DASH;aRIGHTWARDS HARPOON WITH BA
RB UP ABOVE LONG DASH;zeDOWN BELOW LONG DASH;aUPWARDS HARPOON WITH BARB LEFT BESIDE DOWNWARDS HARP
OON WITH BARB RIGHT;aDOWNWARDS HARPOON WITH BARB LEFT BESIDE UPWARDS HARPOON WITH BARB RIGHT;
aRIGHT DOUBLE ARROW WITH ROUNDED HEAD;aEQUALS SIGN ABOVE RIGHTWARDS ARROW;aTILDE OPERATOR ABOVE RI
GHTWARDS ARROW;aLEFTWARDS ARROW ABOVE TILDE OPERATOR;aRIGHTWARDS ARROW ABOVE TILDE OPERATOR;
xALMOST EQUAL TO;aLESS-THAN ABOVE LEFTWARDS ARROW;cFTWARDS ARROW THROUGH LESS-THAN;
aGREATER-THAN ABOVE RIGHTWARDS ARROW;aSUBSET ABOVE RIGHTWARDS ARROW;aLEFTWARDS ARROW THROUGH SUBSE
T;aSUPERSET ABOVE LEFTWARDS ARROW;aLEFT FISH TAIL;aRIGHT FISH TAIL;aUP FISH TAIL;aDOWN FISH TAIL;
aTRIPLE VERTICAL BAR DELIMITER;aZ NOTATION SPOT;lTYPE COLON;aLEFT WHITE CURLY BRACKET;
aRIGHT WHITE CURLY BRACKET;aLEFT WHITE PARENTHESIS;aRIGHT WHITE PARENTHESIS;
aZ NOTATION LEFT IMAGE BRACKET;lRIGHT IMAGE BRACKET;lLEFT BINDING BRACKET;lRIGHT BINDING BRACKET;
aLEFT SQUARE BRACKET WITH UNDERBAR;aRIGHT SQUARE BRACKET WITH UNDERBAR;aLEFT SQUARE BRACKET WITH T
ICK IN TOP CORNER;aRIGHT SQUARE BRACKET WITH TICK IN BOTTOM CORNER;aLEFT SQUARE BRACKET WITH TIC
K IN BOTTOM CORNER;aRIGHT SQUARE BRACKET WITH TICK IN TOP CORNER;aLEFT ANGLE BRACKET WITH DOT;
aRIGHT ANGLE BRACKET WITH DOT;aLEFT ARC LESS-THAN BRACKET;aRIGHT ARC GREATER-THAN BRACKET;
aDOUBLE LEFT ARC GREATER-THAN BRACKET;hRIGHT ARC LESS-THAN BRACKET;aLEFT BLACK TORTOISE SHELL BRAC
KET;aRIGHT BLACK TORTOISE SHELL BRACKET;aDOTTED FENCE;aVERTICAL ZIGZAG LINE;
aMEASURED ANGLE OPENING LEFT;aRIGHT ANGLE VARIANT WITH SQUARE;aMEASURED RIGHT ANGLE WITH DOT;
aANGLE WITH S INSIDE;bCUTE ANGLE;aSPHERICAL ANGLE OPENING LEFT;yUP;aTURNED ANGLE;aREVERSED ANGLE;
aANGLE WITH UNDERBAR;aREVERSED ANGLE WITH UNDERBAR;aOBLIQUE ANGLE OPENING UP;wDOWN;
aMEASURED ANGLE WITH OPEN ARM ENDING IN ARROW POINTING UP AND RIGHT;zzlLEFT;zzeDOWN AND RIGHT;
zznLEFT;zzeRIGHT AND UP;zzeLEFT AND UP;zzeRIGHT AND DOWN;zzeLEFT AND DOWN;aREVERSED EMPTY SET;
aEMPTY SET WITH OVERBAR;pSMALL CIRCLE ABOVE;pRIGHT ARROW ABOVE;pLEFT ARROW ABOVE;
aCIRCLE WITH HORIZONTAL BAR;gD VERTICAL BAR;iPARALLEL;iREVERSE SOLIDUS;iPERPENDICULAR;
g DIVIDED BY HORIZONTAL BAR AND TOP HALF DIVIDED BY VERTICAL BAR;hWITH SUPERIMPOSED X;
gD ANTICLOCKWISE-ROTATED DIVISION SIGN;aUP ARROW THROUGH CIRCLE;aCIRCLED WHITE BULLET;iBULLET;
iLESS-THAN;iGREATER-THAN;g WITH SMALL CIRCLE TO THE RIGHT;mTWO HORIZONTAL STROKES TO THE RIGHT;
aSQUARED RISING DIAGONAL SLASH;iFALLING DIAGONAL SLASH;iASTERISK;iSMALL CIRCLE;jQUARE;
aTWO JOINED SQUARES;bRIANGLE WITH DOT ABOVE;oUNDERBAR;aS IN TRIANGLE;aTRIANGLE WITH SERIFS AT BOTT
OM;aRIGHT TRIANGLE ABOVE LEFT TRIANGLE;aLEFT TRIANGLE BESIDE VERTICAL BAR;aVERTICAL BAR BESIDE RIG
HT TRIANGLE;aBOWTIE WITH LEFT HALF BLACK;mRIGHT HALF BLACK;bLACK BOWTIE;aTIMES WITH LEFT HALF BLAC
K;lRIGHT HALF BLACK;aWHITE HOURGLASS;aBLACK HOURGLASS;aLEFT WIGGLY FENCE;aRIGHT WIGGLY FENCE;
aLEFT DOUBLE WIGGLY FENCE;aRIGHT DOUBLE WIGGLY FENCE;aINCOMPLETE INFINITY;aTIE OVER INFINITY;
aINFINITY NEGATED WITH VERTICAL BAR;aDOUBLE-ENDED MULTIMAP;aSQUARE WITH CONTOURED OUTLINE;
aINCREASES AS;aSHUFFLE PRODUCT;aEQUALS SIGN AND SLANTED PARALLEL;zh WITH TILDE ABOVE;
aIDENTICAL TO AND SLANTED PARALLEL;aGLEICH STARK;aTHERMODYNAMIC;aDOWN-POINTING TRIANGLE WITH LEF
T HALF BLACK;zdRIGHT HALF BLACK;aBLACK DIAMOND WITH DOWN ARROW;gLOZENGE;aWHITE CIRCLE WITH DOWN AR
ROW;aBLACK CIRCLE WITH DOWN ARROW;aERROR-BARRED WHITE SQUARE;nBLACK SQUARE;nWHITE DIAMOND;
nBLACK DIAMOND;nWHITE CIRCLE;nBLACK CIRCLE;aRULE-DELAYED;bEVERSE SOLIDUS OPERATOR;
aSOLIDUS WITH OVERBAR;aREVERSE SOLIDUS WITH HORIZONTAL STROKE;aBIG SOLIDUS;eREVERSE SOLIDUS;
aDOUBLE PLUS;aTRIPLE PLUS;aLEFT-POINTING CURVED ANGLE BRACKET;aRIGHT-POINTING CURVED ANGLE BRACKET
;aTINY;aMINY;aN-ARY CIRCLED DOT OPERATOR;oPLUS OPERATOR;oTIMES OPERATOR;gUNION OPERATOR WITH DOT;
zbPLUS;gSQUARE INTERSECTION OPERATOR;nUNION OPERATOR;aTWO LOGICAL AND OPERATOR;mOR OPERATOR;
aN-ARY TIMES OPERATOR;aMODULO TWO SUM;aSUMMATION WITH INTEGRAL;aQUADRUPLE INTEGRAL OPERATOR;
aFINITE PART INTEGRAL;aINTEGRAL WITH DOUBLE STROKE;jAVERAGE WITH SLASH;aCIRCULATION FUNCTION;
aANTICLOCKWISE INTEGRATION;aLINE INTEGRATION WITH RECTANGULAR PATH AROUND POLE;
wSEMICIRCULAR PATH AROUND POLE;rNOT INCLUDING THE POLE;aINTEGRAL AROUND A POINT OPERATOR;
aQUATERNION INTEGRAL OPERATOR;aINTEGRAL WITH LEFTWARDS ARROW WITH HOOK;oTIMES SIGN;oINTERSECTION;
oUNION;oOVERBAR;oUNDERBAR;aJOIN;aLARGE LEFT TRIANGLE OPERATOR;aZ NOTATION SCHEMA COMPOSITION;
sPIPING;tROJECTION;aPLUS SIGN WITH SMALL CIRCLE ABOVE;pCIRCUMFLEX ACCENT ABOVE;pTILDE ABOVE;
pDOT BELOW;pTILDE BELOW;pSUBSCRIPT TWO;pBLACK TRIANGLE;aMINUS SIGN WITH COMMA ABOVE;qDOT BELOW;
qFALLING DOTS;qRISING DOTS;aPLUS SIGN IN LEFT HALF CIRCLE;nRIGHT HALF CIRCLE;
aVECTOR OR CROSS PRODUCT;aMULTIPLICATION SIGN WITH DOT ABOVE;zUNDERBAR;aSEMIDIRECT PRODUCT WITH BO
TTOM CLOSED;bMASH PRODUCT;aMULTIPLICATION SIGN IN LEFT HALF CIRCLE;xRIGHT HALF CIRCLE;
aCIRCLED MULTIPLICATION SIGN WITH CIRCUMFLEX ACCENT;aMULTIPLICATION SIGN IN DOUBLE CIRCLE;
aCIRCLED DIVISION SIGN;aPLUS SIGN IN TRIANGLE;aMINUS SIGN IN TRIANGLE;bULTIPLICATION SIGN IN TRIAN
GLE;aINTERIOR PRODUCT;aRIGHTHAND INTERIOR PRODUCT;aZ NOTATION RELATIONAL COMPOSITION;
aAMALGAMATION OR COPRODUCT;aINTERSECTION WITH DOT;aUNION WITH MINUS SIGN;lOVERBAR;
aINTERSECTION WITH OVERBAR;sLOGICAL AND;aUNION WITH LOGICAL OR;gABOVE INTERSECTION;
aINTERSECTION ABOVE UNION;aUNION ABOVE BAR ABOVE INTERSECTION;aINTERSECTION ABOVE BAR ABOVE UNION;
aUNION BESIDE AND JOINED WITH UNION;aINTERSECTION BESIDE AND JOINED WITH INTERSECTION;
aCLOSED UNION WITH SERIFS;hINTERSECTION WITH SERIFS;aDOUBLE SQUARE INTERSECTION;oUNION;
aCLOSED UNION WITH SERIFS AND SMASH PRODUCT;aLOGICAL AND WITH DOT ABOVE;iOR WITH DOT ABOVE;
aDOUBLE LOGICAL AND;pOR;aTWO INTERSECTING LOGICAL AND;zOR;aSLOPING LARGE OR;oAND;
aLOGICAL OR OVERLAPPING LOGICAL AND;iAND WITH MIDDLE STEM;iOR WITH MIDDLE STEM;
iAND WITH HORIZONTAL DASH;iOR WITH HORIZONTAL DASH;iAND WITH DOUBLE OVERBAR;rUNDERBAR;
rDOUBLE UNDERBAR;aSMALL VEE WITH UNDERBAR;aLOGICAL OR WITH DOUBLE OVERBAR;xUNDERBAR;
aZ NOTATION DOMAIN ANTIRESTRICTION;lRANGE ANTIRESTRICTION;aEQUALS SIGN WITH DOT BELOW;
aIDENTICAL WITH DOT ABOVE;aTRIPLE HORIZONTAL BAR WITH DOUBLE VERTICAL STROKE;
zcTRIPLE VERTICAL STROKE;bILDE OPERATOR WITH DOT ABOVE;uRISING DOTS;aSIMILAR MINUS SIMILAR;
aCONGRUENT WITH DOT ABOVE;aEQUALS WITH ASTERISK;aALMOST EQUAL TO WITH CIRCUMFLEX ACCENT;
bPPROXIMATELY EQUAL OR EQUAL TO;aEQUALS SIGN ABOVE PLUS SIGN;aPLUS SIGN ABOVE EQUALS SIGN;
aEQUALS SIGN ABOVE TILDE OPERATOR;aDOUBLE COLON EQUAL;aTWO CONSECUTIVE EQUALS SIGNS;
bHREE CONSECUTIVE EQUALS SIGNS;aEQUALS SIGN WITH TWO DOTS ABOVE AND TWO DOTS BELOW;
dIVALENT WITH FOUR DOTS ABOVE;aLESS-THAN WITH CIRCLE INSIDE;aGREATER-THAN WITH CIRCLE INSIDE;
aLESS-THAN WITH QUESTION MARK ABOVE;aGREATER-THAN WITH QUESTION MARK ABOVE;
aLESS-THAN OR SLANTED EQUAL TO;aGREATER-THAN OR SLANTED EQUAL TO;aLESS-THAN OR SLANTED EQUAL TO WI
TH DOT INSIDE;aGREATER-THAN OR SLANTED EQUAL TO WITH DOT INSIDE;aLESS-THAN OR SLANTED EQUAL TO WIT
H DOT ABOVE;aGREATER-THAN OR SLANTED EQUAL TO WITH DOT ABOVE;aLESS-THAN OR SLANTED EQUAL TO WITH D
OT ABOVE RIGHT;aGREATER-THAN OR SLANTED EQUAL TO WITH DOT ABOVE LEFT;aLESS-THAN OR APPROXIMATE;
aGREATER-THAN OR APPROXIMATE;aLESS-THAN AND SINGLE-LINE NOT EQUAL TO;aGREATER-THAN AND SINGLE-LIN
E NOT EQUAL TO;aLESS-THAN AND NOT APPROXIMATE;aGREATER-THAN AND NOT APPROXIMATE;
aLESS-THAN ABOVE DOUBLE-LINE EQUAL ABOVE GREATER-THAN;aGREATER-THAN ABOVE DOUBLE-LINE EQUAL ABOV
E LESS-THAN;aLESS-THAN ABOVE SIMILAR OR EQUAL;aGREATER-THAN ABOVE SIMILAR OR EQUAL;
aLESS-THAN ABOVE SIMILAR ABOVE GREATER-THAN;aGREATER-THAN ABOVE SIMILAR ABOVE LESS-THAN;
aLESS-THAN ABOVE GREATER-THAN ABOVE DOUBLE-LINE EQUAL;aGREATER-THAN ABOVE LESS-THAN ABOVE DOUBLE-L
INE EQUAL;aLESS-THAN ABOVE SLANTED EQUAL ABOVE GREATER-THAN ABOVE SLANTED EQUAL;
aGREATER-THAN ABOVE SLANTED EQUAL ABOVE LESS-THAN ABOVE SLANTED EQUAL;aSLANTED EQUAL TO OR LESS-TH
AN;uGREATER-THAN;uLESS-THAN WITH DOT INSIDE;uGREATER-THAN WITH DOT INSIDE;aDOUBLE-LINE EQUAL TO O
R LESS-THAN;yGREATER-THAN;mSLANTED EQUAL TO OR LESS-THAN;zhGREATER-THAN;aSIMILAR OR LESS-THAN;
lGREATER-THAN;iABOVE LESS-THAN ABOVE EQUALS SIGN;oGREATER-THAN ABOVE EQUALS SIGN;
aDOUBLE NESTED LESS-THAN;oGREATER-THAN;oLESS-THAN WITH UNDERBAR;aGREATER-THAN OVERLAPPING LESS-THA
N;nBESIDE LESS-THAN;aLESS-THAN CLOSED BY CURVE;aGREATER-THAN CLOSED BY CURVE;
aLESS-THAN CLOSED BY CURVE ABOVE SLANTED EQUAL;aGREATER-THAN CLOSED BY CURVE ABOVE SLANTED EQUAL;
aSMALLER THAN;aLARGER THAN;aSMALLER THAN OR EQUAL TO;aLARGER THAN OR EQUAL TO;
aEQUALS SIGN WITH BUMPY ABOVE;aPRECEDES ABOVE SINGLE-LINE EQUALS SIGN;aSUCCEEDS ABOVE SINGLE-LIN
E EQUALS SIGN;aPRECEDES ABOVE SINGLE-LINE NOT EQUAL TO;aSUCCEEDS ABOVE SINGLE-LINE NOT EQUAL TO;
aPRECEDES ABOVE EQUALS SIGN;aSUCCEEDS ABOVE EQUALS SIGN;aPRECEDES ABOVE NOT EQUAL TO;
aSUCCEEDS ABOVE NOT EQUAL TO;aPRECEDES ABOVE ALMOST EQUAL TO;aSUCCEEDS ABOVE ALMOST EQUAL TO;
aPRECEDES ABOVE NOT ALMOST EQUAL TO;aSUCCEEDS ABOVE NOT ALMOST EQUAL TO;aDOUBLE PRECEDES;
hSUCCEEDS;aSUBSET WITH DOT;cPERSET WITH DOT;cBSET WITH PLUS SIGN BELOW;cPERSET WITH PLUS SIGN BELO
W;cBSET WITH MULTIPLICATION SIGN BELOW;cPERSET WITH MULTIPLICATION SIGN BELOW;
cBSET OF OR EQUAL TO WITH DOT ABOVE;cPERSET OF OR EQUAL TO WITH DOT ABOVE;cBSET OF ABOVE EQUALS SI
GN;cPERSET OF ABOVE EQUALS SIGN;cBSET OF ABOVE TILDE OPERATOR;cPERSET OF ABOVE TILDE OPERATOR;
cBSET OF ABOVE ALMOST EQUAL TO;cPERSET OF ABOVE ALMOST EQUAL TO;cBSET OF ABOVE NOT EQUAL TO;
cPERSET OF ABOVE NOT EQUAL TO;bQUARE LEFT OPEN BOX OPERATOR;hRIGHT OPEN BOX OPERATOR;
aCLOSED SUBSET;jPERSET;jBSET OR EQUAL TO;jPERSET OR EQUAL TO;aSUBSET ABOVE SUPERSET;
cPERSET ABOVE SUBSET;cBSET ABOVE SUBSET;cPERSET ABOVE SUPERSET;jBESIDE SUBSET;
qAND JOINED BY DASH WITH SUBSET;aELEMENT OF OPENING DOWNWARDS;aPITCHFORK WITH TEE TOP;
aTRANSVERSAL INTERSECTION;aFORKING;aNONFORKING;aSHORT LEFT TACK;gDOWN TACK;gUP TACK;
aPERPENDICULAR WITH S;aVERTICAL BAR TRIPLE RIGHT TURNSTILE;aDOUBLE VERTICAL BAR LEFT TURNSTILE;
aVERTICAL BAR DOUBLE LEFT TURNSTILE;aDOUBLE VERTICAL BAR DOUBLE LEFT TURNSTILE;
aLONG DASH FROM LEFT MEMBER OF DOUBLE VERTICAL;aSHORT DOWN TACK WITH OVERBAR;
gUP TACK WITH UNDERBAR;oABOVE SHORT DOWN TACK;aDOUBLE DOWN TACK;hUP TACK;hSTROKE NOT SIGN;
aREVERSED DOUBLE STROKE NOT SIGN;aDOES NOT DIVIDE WITH REVERSED NEGATION SLASH;
aVERTICAL LINE WITH CIRCLE ABOVE;zbBELOW;aDOWN TACK WITH CIRCLE BELOW;aPARALLEL WITH HORIZONTAL ST
ROKE;oTILDE OPERATOR;aTRIPLE VERTICAL BAR BINARY RELATION;uWITH HORIZONTAL STROKE;hCOLON OPERATOR;
hNESTED LESS-THAN;oGREATER-THAN;aDOUBLE-LINE SLANTED LESS-THAN OR EQUAL TO;
uGREATER-THAN OR EQUAL TO;aTRIPLE SOLIDUS BINARY RELATION;aLARGE TRIPLE VERTICAL BAR OPERATOR;
aDOUBLE SOLIDUS OPERATOR;aWHITE VERTICAL BAR;aN-ARY WHITE VERTICAL BAR;bORTH EAST WHITE ARROW;
gWEST WHITE ARROW;aSOUTH EAST WHITE ARROW;gWEST WHITE ARROW;aLEFT RIGHT WHITE ARROW;
eWARDS BLACK ARROW;aUPWARDS BLACK ARROW;aDOWNWARDS BLACK ARROW;aNORTH EAST BLACK ARROW;
gWEST BLACK ARROW;aSOUTH EAST BLACK ARROW;gWEST BLACK ARROW;aLEFT RIGHT BLACK ARROW;
aUP DOWN BLACK ARROW;aRIGHTWARDS ARROW WITH TIP DOWNWARDS;zbUPWARDS;aLEFTWARDS ARROW WITH TIP DOWN
WARDS;zUPWARDS;aSQUARE WITH TOP HALF BLACK;mBOTTOM HALF BLACK;mUPPER RIGHT DIAGONAL HALF BLACK;
mLOWER LEFT DIAGONAL HALF BLACK;aDIAMOND WITH LEFT HALF BLACK;nRIGHT HALF BLACK;nTOP HALF BLACK;
nBOTTOM HALF BLACK;bOTTED SQUARE;aBLACK LARGE SQUARE;aWHITE LARGE SQUARE;aBLACK VERY SMALL SQUARE;
aWHITE VERY SMALL SQUARE;aBLACK PENTAGON;aWHITE PENTAGON;gHEXAGON;aBLACK HEXAGON;
aHORIZONTAL BLACK HEXAGON;aBLACK LARGE CIRCLE;gMEDIUM DIAMOND;aWHITE MEDIUM DIAMOND;
aBLACK MEDIUM LOZENGE;aWHITE MEDIUM LOZENGE;aBLACK SMALL DIAMOND;mLOZENGE;aWHITE SMALL LOZENGE;
aBLACK HORIZONTAL ELLIPSE;aWHITE HORIZONTAL ELLIPSE;aBLACK VERTICAL ELLIPSE;
aWHITE VERTICAL ELLIPSE;aLEFT ARROW WITH SMALL CIRCLE;aTHREE LEFTWARDS ARROWS;
aLEFT ARROW WITH CIRCLED PLUS;bONG LEFTWARDS SQUIGGLE ARROW;bEFTWARDS TWO-HEADED ARROW WITH VERTIC
AL STROKE;zhDOUBLE VERTICAL STROKE;zcFROM BAR;vTRIPLE DASH ARROW;kARROW WITH DOTTED STEM;
vTAIL WITH VERTICAL STROKE;zgDOUBLE VERTICAL STROKE;kTWO-HEADED ARROW WITH TAIL;
zl WITH VERTICAL STROKE;zrDOUBLE VERTICAL STROKE;kARROW THROUGH X;aWAVE ARROW POINTING DIRECTLY LE
FT;aEQUALS SIGN ABOVE LEFTWARDS ARROW;aREVERSE TILDE OPERATOR ABOVE LEFTWARDS ARROW;
aLEFTWARDS ARROW ABOVE REVERSE ALMOST EQUAL TO;aRIGHTWARDS ARROW THROUGH GREATER-THAN;zSUPERSET;
aLEFTWARDS QUADRUPLE ARROW;aRIGHTWARDS QUADRUPLE ARROW;bEVERSE TILDE OPERATOR ABOVE RIGHTWARDS ARR
OW;bIGHTWARDS ARROW ABOVE REVERSE ALMOST EQUAL TO;aTILDE OPERATOR ABOVE LEFTWARDS ARROW;
aLEFTWARDS ARROW ABOVE ALMOST EQUAL TO;wREVERSE TILDE OPERATOR;aRIGHTWARDS ARROW ABOVE REVERSE TIL
DE OPERATOR;aDOWNWARDS TRIANGLE-HEADED ZIGZAG ARROW;aSHORT SLANTED NORTH ARROW;
gBACKSLANTED SOUTH ARROW;aWHITE MEDIUM STAR;aBLACK SMALL STAR;aWHITE SMALL STAR;
aBLACK RIGHT-POINTING PENTAGON;aWHITE RIGHT-POINTING PENTAGON;aHEAVY LARGE CIRCLE;
gOVAL WITH OVAL INSIDE;gCIRCLE WITH CIRCLE INSIDE;m;mD SALTIRE;aSLANTED NORTH ARROW WITH HOOKED HE
AD;aBACKSLANTED SOUTH ARROW WITH HOOKED TAIL;aSLANTED NORTH ARROW WITH HORIZONTAL TAIL;
aBACKSLANTED SOUTH ARROW WITH HORIZONTAL TAIL;bENT ARROW POINTING DOWNWARDS THEN NORTH EAST;
aSHORT BENT ARROW POINTING DOWNWARDS THEN NORTH EAST;aLEFTWARDS TRIANGLE-HEADED ARROW;
aUPWARDS TRIANGLE-HEADED ARROW;aRIGHTWARDS TRIANGLE-HEADED ARROW;aDOWNWARDS TRIANGLE-HEADED ARROW;
aLEFT RIGHT TRIANGLE-HEADED ARROW;aUP DOWN TRIANGLE-HEADED ARROW;aNORTH WEST TRIANGLE-HEADED ARROW
;gEAST TRIANGLE-HEADED ARROW;aSOUTH EAST TRIANGLE-HEADED ARROW;gWEST TRIANGLE-HEADED ARROW;
aLEFTWARDS TRIANGLE-HEADED DASHED ARROW;aUPWARDS TRIANGLE-HEADED DASHED ARROW;
aRIGHTWARDS TRIANGLE-HEADED DASHED ARROW;aDOWNWARDS TRIANGLE-HEADED DASHED ARROW;
aCLOCKWISE TRIANGLE-HEADED OPEN CIRCLE ARROW;aANTICLOCKWISE TRIANGLE-HEADED OPEN CIRCLE ARROW;
aLEFTWARDS TRIANGLE-HEADED ARROW TO BAR;aUPWARDS TRIANGLE-HEADED ARROW TO BAR;
aRIGHTWARDS TRIANGLE-HEADED ARROW TO BAR;aDOWNWARDS TRIANGLE-HEADED ARROW TO BAR;
2B76:aNORTH WEST TRIANGLE-HEADED ARROW TO BAR;gEAST TRIANGLE-HEADED ARROW TO BAR;
aSOUTH EAST TRIANGLE-HEADED ARROW TO BAR;gWEST TRIANGLE-HEADED ARROW TO BAR;
aLEFTWARDS TRIANGLE-HEADED ARROW WITH DOUBLE HORIZONTAL STROKE;aUPWARDS TRIANGLE-HEADED ARROW WIT
H DOUBLE HORIZONTAL STROKE;aRIGHTWARDS TRIANGLE-HEADED ARROW WITH DOUBLE HORIZONTAL STROKE;
aDOWNWARDS TRIANGLE-HEADED ARROW WITH DOUBLE HORIZONTAL STROKE;aHORIZONTAL TAB KEY;
aVERTICAL TAB KEY;aLEFTWARDS TRIANGLE-HEADED ARROW OVER RIGHTWARDS TRIANGLE-HEADED ARROW;
aUPWARDS TRIANGLE-HEADED ARROW LEFTWARDS OF DOWNWARDS TRIANGLE-HEADED ARROW;
aRIGHTWARDS TRIANGLE-HEADED ARROW OVER LEFTWARDS TRIANGLE-HEADED ARROW;aDOWNWARDS TRIANGLE-HEADE
D ARROW LEFTWARDS OF UPWARDS TRIANGLE-HEADED ARROW;aLEFTWARDS TRIANGLE-HEADED PAIRED ARROWS;
aUPWARDS TRIANGLE-HEADED PAIRED ARROWS;aRIGHTWARDS TRIANGLE-HEADED PAIRED ARROWS;
aDOWNWARDS TRIANGLE-HEADED PAIRED ARROWS;aLEFTWARDS BLACK CIRCLED WHITE ARROW;
aUPWARDS BLACK CIRCLED WHITE ARROW;aRIGHTWARDS BLACK CIRCLED WHITE ARROW;aDOWNWARDS BLACK CIRCLE
D WHITE ARROW;aANTICLOCKWISE TRIANGLE-HEADED RIGHT U-SHAPED ARROW;zfBOTTOM U-SHAPED ARROW;
zfLEFT U-SHAPED ARROW;zfTOP U-SHAPED ARROW;aRETURN LEFT;hRIGHT;aNEWLINE LEFT;iRIGHT;
aFOUR CORNER ARROWS CIRCLING ANTICLOCKWISE;aRIGHTWARDS BLACK ARROW;2B97:aSYMBOL FOR TYPE A ELECTRO
NICS;aTHREE-D TOP-LIGHTED LEFTWARDS EQUILATERAL ARROWHEAD;iRIGHT-LIGHTED UPWARDS EQUILATERAL ARROW
HEAD;iTOP-LIGHTED RIGHTWARDS EQUILATERAL ARROWHEAD;iLEFT-LIGHTED DOWNWARDS EQUILATERAL ARROWHEAD;
aBLACK LEFTWARDS EQUILATERAL ARROWHEAD;gUPWARDS EQUILATERAL ARROWHEAD;gRIGHTWARDS EQUILATERAL ARRO
WHEAD;gDOWNWARDS EQUILATERAL ARROWHEAD;aDOWNWARDS TRIANGLE-HEADED ARROW WITH LONG TIP LEFTWARDS;
zvRIGHTWARDS;aUPWARDS TRIANGLE-HEADED ARROW WITH LONG TIP LEFTWARDS;ztRIGHTWARDS;
aLEFTWARDS TRIANGLE-HEADED ARROW WITH LONG TIP UPWARDS;aRIGHTWARDS TRIANGLE-HEADED ARROW WITH LON
G TIP UPWARDS;aLEFTWARDS TRIANGLE-HEADED ARROW WITH LONG TIP DOWNWARDS;aRIGHTWARDS TRIANGLE-HEADE
D ARROW WITH LONG TIP DOWNWARDS;aBLACK CURVED DOWNWARDS AND LEFTWARDS ARROW;zcRIGHTWARDS ARROW;
nUPWARDS AND LEFTWARDS ARROW;zRIGHTWARDS ARROW;nLEFTWARDS AND UPWARDS ARROW;
nRIGHTWARDS AND UPWARDS ARROW;nLEFTWARDS AND DOWNWARDS ARROW;nRIGHTWARDS AND DOWNWARDS ARROW;
aRIBBON ARROW DOWN LEFT;sRIGHT;nUP LEFT;qRIGHT;nLEFT UP;nRIGHT UP;nLEFT DOWN;nRIGHT DOWN;
aUPWARDS WHITE ARROW FROM BAR WITH HORIZONTAL BAR;c ARROWHEAD IN A RECTANGLE BOX;
aOVERLAPPING WHITE SQUARES;sAND BLACK SQUARES;mBLACK SQUARES;aBALLOT BOX WITH LIGHT X;aCIRCLED X;
iBOLD X;aBLACK SQUARE CENTRED;gDIAMOND CENTRED;aTURNED BLACK PENTAGON;aHORIZONTAL BLACK OCTAGON;
aBLACK OCTAGON;gMEDIUM UP-POINTING TRIANGLE CENTRED;nDOWN-POINTING TRIANGLE CENTRED;
nLEFT-POINTING TRIANGLE CENTRED;nRIGHT-POINTING TRIANGLE CENTRED;aNEPTUNE FORM TWO;
aTOP HALF BLACK CIRCLE;aBOTTOM HALF BLACK CIRCLE;aLIGHT FOUR POINTED BLACK CUSP;
aROTATED LIGHT FOUR POINTED BLACK CUSP;aWHITE FOUR POINTED CUSP;aROTATED WHITE FOUR POINTED CUSP;
aSQUARE POSITION INDICATOR;aUNCERTAINTY SIGN;aGROUP MARK;aPLUTO FORM TWO;mHREE;lFOUR;mIVE;
aTRANSPLUTO;aPROSERPINA;aASTRAEA;aHYGIEA;aPHOLUS;aNESSUS;aWHITE MOON SELENA;
aBLACK DIAMOND ON CROSS;aTRUE LIGHT MOON ARTA;aCUPIDO;aHADES;aZEUS;aKRONOS;aAPOLLON;bDMETOS;
aVULCANUS;aPOSEIDON;aLEFT HALF BLACK STAR;aRIGHT HALF BLACK STAR;aSTAR WITH LEFT HALF BLACK;
kRIGHT HALF BLACK;aLEFTWARDS TWO-HEADED ARROW WITH TRIANGLE ARROWHEADS;aUPWARDS TWO-HEADED ARROW W
ITH TRIANGLE ARROWHEADS;aRIGHTWARDS TWO-HEADED ARROW WITH TRIANGLE ARROWHEADS;
aDOWNWARDS TWO-HEADED ARROW WITH TRIANGLE ARROWHEADS;aERIS FORM ONE;kTWO;aSEDNA;
aRUSSIAN ASTROLOGICAL SYMBOL VIGINTILE;zdNOVILE;zdQUINTILE;zdBINOVILE;zdSENTAGON;zdTREDECILE;
aEQUALS SIGN WITH INFINITY BELOW;aUNITED SYMBOL;aSEPARATED SYMBOL;aDOUBLED SYMBOL;aPASSED SYMBOL;
aREVERSED RIGHT ANGLE;aHELLSCHREIBER PAUSE SYMBOL;aGLAGOLITIC CAPITAL LETTER AZU;zbBUKY;zbVEDE;
zbGLAGOLI;zbDOBRO;zbYESTU;zbZHIVETE;zbDZELO;zbZEMLJA;zbIZHE;zcNITIAL IZHE;zc;zbDJERVI;zbKAKO;
zbLJUDIJE;zbMYSLITE;zbNASHI;zbONU;zbPOKOJI;zbRITSI;zbSLOVO;zbTVRIDO;zbUKU;zbFRITU;zbHERU;zbOTU;
zbPE;zbSHTA;zbTSI;zbCHRIVI;zbSHA;zbYERU;zeI;zcATI;zbSPIDERY HA;zbYU;zbSMALL YUS;zk WITH TAIL;zbYO;
zbIOTATED SMALL YUS;zbBIG YUS;zbIOTATED BIG YUS;zbFITA;zbIZHITSA;zbSHTAPIC;zbTROKUTASTI A;
zbLATINATE MYSLITE;zbCAUDATE CHRIVI;lSMALL LETTER AZU;yBUKY;yVEDE;yGLAGOLI;yDOBRO;yYESTU;yZHIVETE;
yDZELO;yZEMLJA;yIZHE;zNITIAL IZHE;z;yDJERVI;yKAKO;yLJUDIJE;yMYSLITE;yNASHI;yONU;yPOKOJI;yRITSI;
ySLOVO;yTVRIDO;yUKU;yFRITU;yHERU;yOTU;yPE;ySHTA;yTSI;yCHRIVI;ySHA;yYERU;zcI;zATI;ySPIDERY HA;yYU;
ySMALL YUS;zi WITH TAIL;yYO;yIOTATED SMALL YUS;yBIG YUS;yIOTATED BIG YUS;yFITA;yIZHITSA;ySHTAPIC;
yTROKUTASTI A;yLATINATE MYSLITE;yCAUDATE CHRIVI;aLATIN CAPITAL LETTER L WITH DOUBLE BAR;
gSMALL LETTER L WITH DOUBLE BAR;gCAPITAL LETTER L WITH MIDDLE TILDE;vP WITH STROKE;vR WITH TAIL;
gSMALL LETTER A WITH STROKE;tT WITH DIAGONAL STROKE;gCAPITAL LETTER H WITH DESCENDER;
gSMALL LETTER H WITH DESCENDER;gCAPITAL LETTER K WITH DESCENDER;gSMALL LETTER K WITH DESCENDER;
gCAPITAL LETTER Z WITH DESCENDER;gSMALL LETTER Z WITH DESCENDER;gCAPITAL LETTER ALPHA;
vM WITH HOOK;vTURNED A;zeLPHA;gSMALL LETTER V WITH RIGHT HOOK;gCAPITAL LETTER W WITH HOOK;
gSMALL LETTER W WITH HOOK;tV WITH CURL;gCAPITAL LETTER HALF H;gSMALL LETTER HALF H;tTAILLESS PHI;
tE WITH NOTCH;tTURNED R WITH TAIL;tO WITH LOW RING INSIDE;gLETTER SMALL CAPITAL TURNED E;
gSUBSCRIPT SMALL LETTER J;aMODIFIER LETTER CAPITAL V;aLATIN CAPITAL LETTER S WITH SWASH TAIL;
vZ WITH SWASH TAIL;aCOPTIC CAPITAL LETTER ALFA;hSMALL LETTER ALFA;hCAPITAL LETTER VIDA;
hSMALL LETTER VIDA;hCAPITAL LETTER GAMMA;hSMALL LETTER GAMMA;hCAPITAL LETTER DALDA;
hSMALL LETTER DALDA;hCAPITAL LETTER EIE;hSMALL LETTER EIE;hCAPITAL LETTER SOU;hSMALL LETTER SOU;
hCAPITAL LETTER ZATA;hSMALL LETTER ZATA;hCAPITAL LETTER HATE;hSMALL LETTER HATE;
hCAPITAL LETTER THETHE;hSMALL LETTER THETHE;hCAPITAL LETTER IAUDA;hSMALL LETTER IAUDA;
hCAPITAL LETTER KAPA;hSMALL LETTER KAPA;hCAPITAL LETTER LAULA;hSMALL LETTER LAULA;
hCAPITAL LETTER MI;hSMALL LETTER MI;hCAPITAL LETTER NI;hSMALL LETTER NI;hCAPITAL LETTER KSI;
hSMALL LETTER KSI;hCAPITAL LETTER O;hSMALL LETTER O;hCAPITAL LETTER PI;hSMALL LETTER PI;
hCAPITAL LETTER RO;hSMALL LETTER RO;hCAPITAL LETTER SIMA;hSMALL LETTER SIMA;hCAPITAL LETTER TAU;
hSMALL LETTER TAU;hCAPITAL LETTER UA;hSMALL LETTER UA;hCAPITAL LETTER FI;hSMALL LETTER FI;
hCAPITAL LETTER KHI;hSMALL LETTER KHI;hCAPITAL LETTER PSI;hSMALL LETTER PSI;hCAPITAL LETTER OOU;
hSMALL LETTER OOU;hCAPITAL LETTER DIALECT-P ALEF;hSMALL LETTER DIALECT-P ALEF;
hCAPITAL LETTER OLD COPTIC AIN;hSMALL LETTER OLD COPTIC AIN;hCAPITAL LETTER CRYPTOGRAMMIC EIE;
hSMALL LETTER CRYPTOGRAMMIC EIE;hCAPITAL LETTER DIALECT-P KAPA;hSMALL LETTER DIALECT-P KAPA;
hCAPITAL LETTER DIALECT-P NI;hSMALL LETTER DIALECT-P NI;hCAPITAL LETTER CRYPTOGRAMMIC NI;
hSMALL LETTER CRYPTOGRAMMIC NI;hCAPITAL LETTER OLD COPTIC OOU;hSMALL LETTER OLD COPTIC OOU;
hCAPITAL LETTER SAMPI;hSMALL LETTER SAMPI;hCAPITAL LETTER CROSSED SHEI;hSMALL LETTER CROSSED SHEI;
hCAPITAL LETTER OLD COPTIC SHEI;hSMALL LETTER OLD COPTIC SHEI;hCAPITAL LETTER OLD COPTIC ESH;
hSMALL LETTER OLD COPTIC ESH;hCAPITAL LETTER AKHMIMIC KHEI;hSMALL LETTER AKHMIMIC KHEI;
hCAPITAL LETTER DIALECT-P HORI;hSMALL LETTER DIALECT-P HORI;hCAPITAL LETTER OLD COPTIC HORI;
hSMALL LETTER OLD COPTIC HORI;hCAPITAL LETTER OLD COPTIC HA;hSMALL LETTER OLD COPTIC HA;
hCAPITAL LETTER L-SHAPED HA;hSMALL LETTER L-SHAPED HA;hCAPITAL LETTER OLD COPTIC HEI;
hSMALL LETTER OLD COPTIC HEI;hCAPITAL LETTER OLD COPTIC HAT;hSMALL LETTER OLD COPTIC HAT;
hCAPITAL LETTER OLD COPTIC GANGIA;hSMALL LETTER OLD COPTIC GANGIA;hCAPITAL LETTER OLD COPTIC DJA;
hSMALL LETTER OLD COPTIC DJA;hCAPITAL LETTER OLD COPTIC SHIMA;hSMALL LETTER OLD COPTIC SHIMA;
hCAPITAL LETTER OLD NUBIAN SHIMA;hSMALL LETTER OLD NUBIAN SHIMA;hCAPITAL LETTER OLD NUBIAN NGI;
hSMALL LETTER OLD NUBIAN NGI;hCAPITAL LETTER OLD NUBIAN NYI;hSMALL LETTER OLD NUBIAN NYI;
hCAPITAL LETTER OLD NUBIAN WAU;hSMALL LETTER OLD NUBIAN WAU;iYMBOL KAI;oMI RO;oPI RO;oSTAUROS;
oTAU RO;oKHI RO;oSHIMA SIMA;hCAPITAL LETTER CRYPTOGRAMMIC SHEI;hSMALL LETTER CRYPTOGRAMMIC SHEI;
hCAPITAL LETTER CRYPTOGRAMMIC GANGIA;hSMALL LETTER CRYPTOGRAMMIC GANGIA;hCOMBINING NI ABOVE;
rSPIRITUS ASPER;zbLENIS;iAPITAL LETTER BOHAIRIC KHEI;hSMALL LETTER BOHAIRIC KHEI;
2CF9:hOLD NUBIAN FULL STOP;sDIRECT QUESTION MARK;sINDIRECT QUESTION MARK;sVERSE DIVIDER;
hFRACTION ONE HALF;iULL STOP;hMORPHOLOGICAL DIVIDER;aGEORGIAN SMALL LETTER AN;wBAN;wGAN;wDON;wEN;
wVIN;wZEN;wTAN;wIN;wKAN;wLAS;wMAN;wNAR;wON;wPAR;wZHAR;wRAE;wSAN;wTAR;wUN;wPHAR;wKHAR;wGHAN;wQAR;
wSHIN;wCHIN;xAN;wJIL;wCIL;xHAR;wXAN;wJHAN;wHAE;xE;xIE;wWE;wHAR;xOE;2D27:wYN;2D2D:wAEN;
2D30:aTIFINAGH LETTER YA;sB;tH;sG;tHH;qBERBER ACADEMY YAJ;qYAJ;sD;tH;tD;uH;rEY;rAF;sK;qTUAREG YAK;
qYAKHH;sH;qBERBER ACADEMY YAH;qTUAREG YAH;qYAHH;sA;sKH;qTUAREG YAKH;qYAQ;qTUAREG YAQ;qYI;rAZH;
qAHAGGAR YAZH;qTUAREG YAZH;qYAL;sM;sN;qTUAREG YAGN;zNG;qYAP;rU;rAR;tR;sGH;qTUAREG YAGH;qAYER YAGH;
qYAS;tS;tH;sT;tH;sCH;sTT;sV;sW;sY;sZ;qTAWELLEMET YAZ;qYAZZ;rE;rO;2D6F:jMODIFIER LETTER LABIALIZATI
ON MARK;jSEPARATOR MARK;2D7F:jCONSONANT JOINER;aETHIOPIC SYLLABLE LOA;sMOA;sROA;sSOA;tHOA;sBOA;
sTOA;sCOA;sNOA;tYOA;sGLOTTAL OA;sZOA;sDOA;tDOA;sJOA;sTHOA;sCHOA;sPHOA;tOA;sGGWA;vI;vEE;w;
2DA0:sSSA;uU;uI;uAA;uEE;v;uO;2DA8:sCCA;uU;uI;uAA;uEE;v;uO;2DB0:sZZA;uU;uI;uAA;uEE;v;uO;2DB8:sCCHA;
vU;vI;vAA;vEE;w;vO;2DC0:sQYA;uU;uI;uAA;uEE;v;uO;2DC8:sKYA;uU;uI;uAA;uEE;v;uO;2DD0:sXYA;uU;uI;uAA;
uEE;v;uO;2DD8:sGYA;uU;uI;uAA;uEE;v;uO;2DE0:aCOMBINING CYRILLIC LETTER BE;zbVE;zbGHE;zbDE;zbZHE;
zcE;zbKA;zbEL;zcM;zcN;zbO;zbPE;zbER;zcS;zbTE;zbHA;zbTSE;zbCHE;zbSHA;zdCHA;zbFITA;zbES-TE;zbA;zbIE;
zbDJERV;zbMONOGRAPH UK;zbYAT;zcU;zbIOTIFIED A;zbLITTLE YUS;zbBIG YUS;zbIOTIFIED BIG YUS;
aRIGHT ANGLE SUBSTITUTION MARKER;mDOTTED SUBSTITUTION MARKER;aLEFT SUBSTITUTION BRACKET;
aRIGHT SUBSTITUTION BRACKET;aLEFT DOTTED SUBSTITUTION BRACKET;aRIGHT DOTTED SUBSTITUTION BRACKET;
bAISED INTERPOLATION MARKER;hDOTTED INTERPOLATION MARKER;aDOTTED TRANSPOSITION MARKER;
aLEFT TRANSPOSITION BRACKET;aRIGHT TRANSPOSITION BRACKET;bAISED SQUARE;aLEFT RAISED OMISSION BRACK
ET;aRIGHT RAISED OMISSION BRACKET;aEDITORIAL CORONIS;aPARAGRAPHOS;aFORKED PARAGRAPHOS;
aREVERSED FORKED PARAGRAPHOS;aHYPODIASTOLE;aDOTTED OBELOS;cWNWARDS ANCORA;aUPWARDS ANCORA;
aDOTTED RIGHT-POINTING ANGLE;cUBLE OBLIQUE HYPHEN;aINVERTED INTERROBANG;aPALM BRANCH;
aHYPHEN WITH DIAERESIS;aTILDE WITH RING ABOVE;aLEFT LOW PARAPHRASE BRACKET;
aRIGHT LOW PARAPHRASE BRACKET;aTILDE WITH DOT ABOVE;pBELOW;aLEFT VERTICAL BAR WITH QUILL;
aRIGHT VERTICAL BAR WITH QUILL;aTOP LEFT HALF BRACKET;eRIGHT HALF BRACKET;aBOTTOM LEFT HALF BRACKE
T;hRIGHT HALF BRACKET;aLEFT SIDEWAYS U BRACKET;aRIGHT SIDEWAYS U BRACKET;aLEFT DOUBLE PARENTHESIS;
aRIGHT DOUBLE PARENTHESIS;aTWO DOTS OVER ONE DOT PUNCTUATION;aONE DOT OVER TWO DOTS PUNCTUATION;
aSQUARED FOUR DOT PUNCTUATION;aFIVE DOT MARK;aREVERSED QUESTION MARK;aVERTICAL TILDE;aRING POINT;
aWORD SEPARATOR MIDDLE DOT;aTURNED COMMA;aRAISED DOT;hCOMMA;aTURNED SEMICOLON;
aDAGGER WITH LEFT GUARD;mRIGHT GUARD;aTURNED DAGGER;bOP HALF SECTION SIGN;bWO-EM DASH;
bHREE-EM DASH;aSTENOGRAPHIC FULL STOP;aVERTICAL SIX DOTS;aWIGGLY VERTICAL LINE;aCAPITULUM;
aDOUBLE HYPHEN;aREVERSED COMMA;aDOUBLE LOW-REVERSED-9 QUOTATION MARK;bASH WITH LEFT UPTURN;
bOUBLE SUSPENSION MARK;aINVERTED LOW KAVYKA;t WITH KAVYKA ABOVE;aLOW KAVYKA;k WITH DOT;
aDOUBLE STACKED COMMA;cTTED SOLIDUS;aTRIPLE DAGGER;aMEDIEVAL COMMA;aPARAGRAPHUS MARK;
bUNCTUS ELEVATUS MARK;aCORNISH VERSE DIVIDER;bROSS PATTY WITH RIGHT CROSSBAR;rLEFT CROSSBAR;
aTIRONIAN SIGN CAPITAL ET;aMEDIEVAL EXCLAMATION MARK;jQUESTION MARK;aLEFT SQUARE BRACKET WITH STRO
KE;aRIGHT SQUARE BRACKET WITH STROKE;aLEFT SQUARE BRACKET WITH DOUBLE STROKE;
aRIGHT SQUARE BRACKET WITH DOUBLE STROKE;aTOP HALF LEFT PARENTHESIS;jRIGHT PARENTHESIS;
aBOTTOM HALF LEFT PARENTHESIS;mRIGHT PARENTHESIS;aOBLIQUE HYPHEN;2E80:aCJK RADICAL REPEAT;mCLIFF;
mSECOND ONE;tTWO;uHREE;mPERSON;mBOX;mTABLE;mKNIFE ONE;sTWO;mDIVINATION;mSEAL;nMALL ONE;sTWO;
mLAME ONE;rTWO;sHREE;rFOUR;mSNAKE;mTHREAD;mSNOUT ONE;sTWO;mHEART ONE;sTWO;nAND;mRAP;2E9B:mCHOKE;
mSUN;mMOON;mDEATH;mMOTHER;mCIVILIAN;mWATER ONE;sTWO;mFIRE;mPAW ONE;qTWO;mSIMPLIFIED HALF TREE TRUN
K;mCOW;mDOG;mJADE;mBOLT OF CLOTH;mEYE;mSPIRIT ONE;tTWO;mBAMBOO;mSILK;mC-SIMPLIFIED SILK;mNET ONE;
qTWO;rHREE;qFOUR;mMESH;mSHEEP;mRAM;mEWE;mOLD;mBRUSH ONE;sTWO;mMEAT;nORTAR;mGRASS ONE;sTWO;tHREE;
mTIGER;mCLOTHES;mWEST ONE;rTWO;mC-SIMPLIFIED SEE;mSIMPLIFIED HORN;mHORN;mC-SIMPLIFIED SPEECH;
zbHELL;mFOOT;mC-SIMPLIFIED CART;mSIMPLIFIED WALK;mWALK ONE;rTWO;mCITY;n-SIMPLIFIED GOLD;mLONG ONE;
rTWO;mC-SIMPLIFIED LONG;zGATE;mMOUND ONE;sTWO;mRAIN;mBLUE;mC-SIMPLIFIED TANNED LEATHER;zLEAF;
zWIND;zFLY;mEAT ONE;qTWO;rHREE;mC-SIMPLIFIED EAT;mHEAD;mC-SIMPLIFIED HORSE;mBONE;mGHOST;
mC-SIMPLIFIED FISH;zBIRD;zSALT;mSIMPLIFIED WHEAT;xYELLOW;mC-SIMPLIFIED FROG;mJ-SIMPLIFIED EVEN;
mC-SIMPLIFIED EVEN;mJ-SIMPLIFIED TOOTH;mC-SIMPLIFIED TOOTH;mJ-SIMPLIFIED DRAGON;
mC-SIMPLIFIED DRAGON;mTURTLE;mJ-SIMPLIFIED TURTLE;mC-SIMPLIFIED TURTLE;2F00:aKANGXI RADICAL ONE;
pLINE;pDOT;pSLASH;qECOND;pHOOK;pTWO;pLID;pMAN;pLEGS;pENTER;qIGHT;pDOWN BOX;pCOVER;pICE;pTABLE;
pOPEN BOX;pKNIFE;pPOWER;pWRAP;pSPOON;pRIGHT OPEN BOX;pHIDING ENCLOSURE;pTEN;pDIVINATION;pSEAL;
pCLIFF;pPRIVATE;pAGAIN;pMOUTH;pENCLOSURE;qARTH;pSCHOLAR;pGO;r SLOWLY;pEVENING;pBIG;pWOMAN;pCHILD;
pROOF;pINCH;pSMALL;pLAME;pCORPSE;pSPROUT;pMOUNTAIN;pRIVER;pWORK;pONESELF;pTURBAN;pDRY;
pSHORT THREAD;pDOTTED CLIFF;pLONG STRIDE;pTWO HANDS;pSHOOT;pBOW;pSNOUT;pBRISTLE;pSTEP;pHEART;
qALBERD;pDOOR;pHAND;pBRANCH;pRAP;pSCRIPT;pDIPPER;pAXE;pSQUARE;pNOT;pSUN;qAY;pMOON;pTREE;pLACK;
pSTOP;pDEATH;pWEAPON;pDO NOT;pCOMPARE;pFUR;pCLAN;pSTEAM;pWATER;pFIRE;pCLAW;pFATHER;pDOUBLE X;
pHALF TREE TRUNK;pSLICE;pFANG;pCOW;pDOG;pPROFOUND;pJADE;pMELON;pTILE;pSWEET;pLIFE;pUSE;pFIELD;
pBOLT OF CLOTH;pSICKNESS;pDOTTED TENT;pWHITE;pSKIN;pDISH;pEYE;pSPEAR;pARROW;pSTONE;qPIRIT;pTRACK;
pGRAIN;pCAVE;pSTAND;pBAMBOO;pRICE;pSILK;pJAR;pNET;pSHEEP;pFEATHER;pOLD;pAND;pPLOW;pEAR;pBRUSH;
pMEAT;qINISTER;pSELF;pARRIVE;pMORTAR;pTONGUE;pOPPOSE;pBOAT;pSTOPPING;pCOLOR;pGRASS;pTIGER;pINSECT;
pBLOOD;pWALK ENCLOSURE;pCLOTHES;pWEST;pSEE;pHORN;pSPEECH;pVALLEY;pBEAN;pPIG;pBADGER;pSHELL;pRED;
qUN;pFOOT;pBODY;pCART;pBITTER;pMORNING;pWALK;pCITY;pWINE;pDISTINGUISH;pVILLAGE;pGOLD;pLONG;pGATE;
pMOUND;pSLAVE;qHORT TAILED BIRD;pRAIN;pBLUE;pWRONG;pFACE;pLEATHER;pTANNED LEATHER;pLEEK;pSOUND;
pLEAF;pWIND;pFLY;pEAT;pHEAD;pFRAGRANT;pHORSE;pBONE;pTALL;pHAIR;pFIGHT;pSACRIFICIAL WINE;pCAULDRON;
pGHOST;pFISH;pBIRD;pSALT;pDEER;pWHEAT;pHEMP;pYELLOW;pMILLET;pBLACK;pEMBROIDERY;pFROG;pTRIPOD;
pDRUM;pRAT;pNOSE;pEVEN;pTOOTH;pDRAGON;pTURTLE;pFLUTE;2FF0:aIDEOGRAPHIC DESCRIPTION CHARACTER LEF
T TO RIGHT;zjABOVE TO BELOW;zjLEFT TO MIDDLE AND RIGHT;zjABOVE TO MIDDLE AND BELOW;
zjFULL SURROUND;zjSURROUND FROM ABOVE;zxBELOW;zxLEFT;zxUPPER LEFT;zzeRIGHT;zxLOWER LEFT;zjOVERLAID"

end HttpTemplates.Text.CharacterName
