/-!
# Names of the characters from 0x2440 to 0x303F

Each entry names the character after the one before it, or the one whose code point is written in
front of a colon. A small letter stands for as many words of the name before, counted from `a`.
-/

namespace Actionary.Text

/-- Names of the characters from 0x2440 to 0x303F. -/
def charactersFrom2440 : String :=
  "2440:OCR HOOK|aCHAIR|aFORK|aINVERTED FORK|aBELT BUCKLE|aBOW TIE|aBRANCH BANK IDENTIFICATION
   aAMOUNT OF CHECK|aDASH|aCUSTOMER ACCOUNT NUMBER|aDOUBLE BACKSLASH|2460:CIRCLED DIGIT ONE|bTWO
   bTHREE|bFOUR|bFIVE|bSIX|bSEVEN|bEIGHT|bNINE|aNUMBER TEN|bELEVEN|bTWELVE|bTHIRTEEN|bFOURTEEN
   bFIFTEEN|bSIXTEEN|bSEVENTEEN|bEIGHTEEN|bNINETEEN|bTWENTY|PARENTHESIZED DIGIT ONE|bTWO|bTHREE
   bFOUR|bFIVE|bSIX|bSEVEN|bEIGHT|bNINE|aNUMBER TEN|bELEVEN|bTWELVE|bTHIRTEEN|bFOURTEEN|bFIFTEEN
   bSIXTEEN|bSEVENTEEN|bEIGHTEEN|bNINETEEN|bTWENTY|DIGIT ONE FULL STOP|aTWO FULL STOP
   aTHREE FULL STOP|aFOUR FULL STOP|aFIVE FULL STOP|aSIX FULL STOP|aSEVEN FULL STOP|aEIGHT FULL STOP
   aNINE FULL STOP|NUMBER TEN FULL STOP|aELEVEN FULL STOP|aTWELVE FULL STOP|aTHIRTEEN FULL STOP
   aFOURTEEN FULL STOP|aFIFTEEN FULL STOP|aSIXTEEN FULL STOP|aSEVENTEEN FULL STOP
   aEIGHTEEN FULL STOP|aNINETEEN FULL STOP|aTWENTY FULL STOP|PARENTHESIZED LATIN SMALL LETTER A|dB
   dC|dD|dE|dF|dG|dH|dI|dJ|dK|dL|dM|dN|dO|dP|dQ|dR|dS|dT|dU|dV|dW|dX|dY|dZ
   CIRCLED LATIN CAPITAL LETTER A|dB|dC|dD|dE|dF|dG|dH|dI|dJ|dK|dL|dM|dN|dO|dP|dQ|dR|dS|dT|dU|dV|dW
   dX|dY|dZ|bSMALL LETTER A|dB|dC|dD|dE|dF|dG|dH|dI|dJ|dK|dL|dM|dN|dO|dP|dQ|dR|dS|dT|dU|dV|dW|dX|dY
   dZ|aDIGIT ZERO|NEGATIVE CIRCLED NUMBER ELEVEN|cTWELVE|cTHIRTEEN|cFOURTEEN|cFIFTEEN|cSIXTEEN
   cSEVENTEEN|cEIGHTEEN|cNINETEEN|cTWENTY|DOUBLE CIRCLED DIGIT ONE|cTWO|cTHREE|cFOUR|cFIVE|cSIX
   cSEVEN|cEIGHT|cNINE|bNUMBER TEN|NEGATIVE CIRCLED DIGIT ZERO|BOX DRAWINGS LIGHT HORIZONTAL
   bHEAVY HORIZONTAL|bLIGHT VERTICAL|bHEAVY VERTICAL|bLIGHT TRIPLE DASH HORIZONTAL
   bHEAVY TRIPLE DASH HORIZONTAL|bLIGHT TRIPLE DASH VERTICAL|bHEAVY TRIPLE DASH VERTICAL
   bLIGHT QUADRUPLE DASH HORIZONTAL|bHEAVY QUADRUPLE DASH HORIZONTAL|bLIGHT QUADRUPLE DASH VERTICAL
   bHEAVY QUADRUPLE DASH VERTICAL|bLIGHT DOWN AND RIGHT|bDOWN LIGHT AND RIGHT HEAVY
   cHEAVY AND RIGHT LIGHT|bHEAVY DOWN AND RIGHT|bLIGHT DOWN AND LEFT|bDOWN LIGHT AND LEFT HEAVY
   cHEAVY AND LEFT LIGHT|bHEAVY DOWN AND LEFT|bLIGHT UP AND RIGHT|bUP LIGHT AND RIGHT HEAVY
   cHEAVY AND RIGHT LIGHT|bHEAVY UP AND RIGHT|bLIGHT UP AND LEFT|bUP LIGHT AND LEFT HEAVY
   cHEAVY AND LEFT LIGHT|bHEAVY UP AND LEFT|bLIGHT VERTICAL AND RIGHT
   bVERTICAL LIGHT AND RIGHT HEAVY|bUP HEAVY AND RIGHT DOWN LIGHT|bDOWN HEAVY AND RIGHT UP LIGHT
   bVERTICAL HEAVY AND RIGHT LIGHT|bDOWN LIGHT AND RIGHT UP HEAVY|bUP LIGHT AND RIGHT DOWN HEAVY
   bHEAVY VERTICAL AND RIGHT|bLIGHT VERTICAL AND LEFT|bVERTICAL LIGHT AND LEFT HEAVY
   bUP HEAVY AND LEFT DOWN LIGHT|bDOWN HEAVY AND LEFT UP LIGHT|bVERTICAL HEAVY AND LEFT LIGHT
   bDOWN LIGHT AND LEFT UP HEAVY|bUP LIGHT AND LEFT DOWN HEAVY|bHEAVY VERTICAL AND LEFT
   bLIGHT DOWN AND HORIZONTAL|bLEFT HEAVY AND RIGHT DOWN LIGHT|bRIGHT HEAVY AND LEFT DOWN LIGHT
   bDOWN LIGHT AND HORIZONTAL HEAVY|cHEAVY AND HORIZONTAL LIGHT|bRIGHT LIGHT AND LEFT DOWN HEAVY
   bLEFT LIGHT AND RIGHT DOWN HEAVY|bHEAVY DOWN AND HORIZONTAL|bLIGHT UP AND HORIZONTAL
   bLEFT HEAVY AND RIGHT UP LIGHT|bRIGHT HEAVY AND LEFT UP LIGHT|bUP LIGHT AND HORIZONTAL HEAVY
   cHEAVY AND HORIZONTAL LIGHT|bRIGHT LIGHT AND LEFT UP HEAVY|bLEFT LIGHT AND RIGHT UP HEAVY
   bHEAVY UP AND HORIZONTAL|bLIGHT VERTICAL AND HORIZONTAL|bLEFT HEAVY AND RIGHT VERTICAL LIGHT
   bRIGHT HEAVY AND LEFT VERTICAL LIGHT|bVERTICAL LIGHT AND HORIZONTAL HEAVY
   bUP HEAVY AND DOWN HORIZONTAL LIGHT|bDOWN HEAVY AND UP HORIZONTAL LIGHT
   bVERTICAL HEAVY AND HORIZONTAL LIGHT|bLEFT UP HEAVY AND RIGHT DOWN LIGHT
   bRIGHT UP HEAVY AND LEFT DOWN LIGHT|bLEFT DOWN HEAVY AND RIGHT UP LIGHT
   bRIGHT DOWN HEAVY AND LEFT UP LIGHT|bDOWN LIGHT AND UP HORIZONTAL HEAVY
   bUP LIGHT AND DOWN HORIZONTAL HEAVY|bRIGHT LIGHT AND LEFT VERTICAL HEAVY
   bLEFT LIGHT AND RIGHT VERTICAL HEAVY|bHEAVY VERTICAL AND HORIZONTAL|bLIGHT DOUBLE DASH HORIZONTAL
   bHEAVY DOUBLE DASH HORIZONTAL|bLIGHT DOUBLE DASH VERTICAL|bHEAVY DOUBLE DASH VERTICAL
   bDOUBLE HORIZONTAL|cVERTICAL|bDOWN SINGLE AND RIGHT DOUBLE|cDOUBLE AND RIGHT SINGLE
   bDOUBLE DOWN AND RIGHT|bDOWN SINGLE AND LEFT DOUBLE|cDOUBLE AND LEFT SINGLE|bDOUBLE DOWN AND LEFT
   bUP SINGLE AND RIGHT DOUBLE|cDOUBLE AND RIGHT SINGLE|bDOUBLE UP AND RIGHT
   bUP SINGLE AND LEFT DOUBLE|cDOUBLE AND LEFT SINGLE|bDOUBLE UP AND LEFT
   bVERTICAL SINGLE AND RIGHT DOUBLE|cDOUBLE AND RIGHT SINGLE|bDOUBLE VERTICAL AND RIGHT
   bVERTICAL SINGLE AND LEFT DOUBLE|cDOUBLE AND LEFT SINGLE|bDOUBLE VERTICAL AND LEFT
   bDOWN SINGLE AND HORIZONTAL DOUBLE|cDOUBLE AND HORIZONTAL SINGLE|bDOUBLE DOWN AND HORIZONTAL
   bUP SINGLE AND HORIZONTAL DOUBLE|cDOUBLE AND HORIZONTAL SINGLE|bDOUBLE UP AND HORIZONTAL
   bVERTICAL SINGLE AND HORIZONTAL DOUBLE|cDOUBLE AND HORIZONTAL SINGLE
   bDOUBLE VERTICAL AND HORIZONTAL|bLIGHT ARC DOWN AND RIGHT|fLEFT|dUP AND LEFT|fRIGHT
   cDIAGONAL UPPER RIGHT TO LOWER LEFT|eLEFT TO LOWER RIGHT|dCROSS|cLEFT|cUP|cRIGHT|cDOWN
   bHEAVY LEFT|cUP|cRIGHT|cDOWN|bLIGHT LEFT AND HEAVY RIGHT|cUP AND HEAVY DOWN
   bHEAVY LEFT AND LIGHT RIGHT|cUP AND LIGHT DOWN|UPPER HALF BLOCK|LOWER ONE EIGHTH BLOCK
   bQUARTER BLOCK|aTHREE EIGHTHS BLOCK|aHALF BLOCK|aFIVE EIGHTHS BLOCK|aTHREE QUARTERS BLOCK
   aSEVEN EIGHTHS BLOCK|FULL BLOCK|LEFT SEVEN EIGHTHS BLOCK|aTHREE QUARTERS BLOCK
   aFIVE EIGHTHS BLOCK|aHALF BLOCK|aTHREE EIGHTHS BLOCK|aONE QUARTER BLOCK|bEIGHTH BLOCK
   RIGHT HALF BLOCK|LIGHT SHADE|MEDIUM SHADE|DARK SHADE|UPPER ONE EIGHTH BLOCK
   RIGHT ONE EIGHTH BLOCK|QUADRANT LOWER LEFT|bRIGHT|aUPPER LEFT
   bLEFT AND LOWER LEFT AND LOWER RIGHT|eRIGHT|dUPPER RIGHT AND LOWER LEFT|hRIGHT|bRIGHT
   bRIGHT AND LOWER LEFT|eLEFT AND LOWER RIGHT|BLACK SQUARE|WHITE SQUARE
   aSQUARE WITH ROUNDED CORNERS|bCONTAINING BLACK SMALL SQUARE|SQUARE WITH HORIZONTAL FILL
   bVERTICAL FILL|bORTHOGONAL CROSSHATCH FILL|bUPPER LEFT TO LOWER RIGHT FILL
   cRIGHT TO LOWER LEFT FILL|bDIAGONAL CROSSHATCH FILL|BLACK SMALL SQUARE|WHITE SMALL SQUARE
   BLACK RECTANGLE|WHITE RECTANGLE|BLACK VERTICAL RECTANGLE|WHITE VERTICAL RECTANGLE
   BLACK PARALLELOGRAM|WHITE PARALLELOGRAM|BLACK UP-POINTING TRIANGLE|WHITE UP-POINTING TRIANGLE
   BLACK UP-POINTING SMALL TRIANGLE|WHITE UP-POINTING SMALL TRIANGLE|BLACK RIGHT-POINTING TRIANGLE
   WHITE RIGHT-POINTING TRIANGLE|BLACK RIGHT-POINTING SMALL TRIANGLE
   WHITE RIGHT-POINTING SMALL TRIANGLE|BLACK RIGHT-POINTING POINTER|WHITE RIGHT-POINTING POINTER
   BLACK DOWN-POINTING TRIANGLE|WHITE DOWN-POINTING TRIANGLE|BLACK DOWN-POINTING SMALL TRIANGLE
   WHITE DOWN-POINTING SMALL TRIANGLE|BLACK LEFT-POINTING TRIANGLE|WHITE LEFT-POINTING TRIANGLE
   BLACK LEFT-POINTING SMALL TRIANGLE|WHITE LEFT-POINTING SMALL TRIANGLE|BLACK LEFT-POINTING POINTER
   WHITE LEFT-POINTING POINTER|BLACK DIAMOND|WHITE DIAMOND|aDIAMOND CONTAINING BLACK SMALL DIAMOND
   FISHEYE|LOZENGE|WHITE CIRCLE|DOTTED CIRCLE|CIRCLE WITH VERTICAL FILL|BULLSEYE|BLACK CIRCLE
   CIRCLE WITH LEFT HALF BLACK|bRIGHT HALF BLACK|bLOWER HALF BLACK|bUPPER HALF BLACK
   cRIGHT QUADRANT BLACK|bALL BUT UPPER LEFT QUADRANT BLACK|LEFT HALF BLACK CIRCLE
   RIGHT HALF BLACK CIRCLE|INVERSE BULLET|aWHITE CIRCLE|UPPER HALF INVERSE WHITE CIRCLE
   LOWER HALF INVERSE WHITE CIRCLE|UPPER LEFT QUADRANT CIRCULAR ARC|aRIGHT QUADRANT CIRCULAR ARC
   LOWER RIGHT QUADRANT CIRCULAR ARC|aLEFT QUADRANT CIRCULAR ARC|UPPER HALF CIRCLE|LOWER HALF CIRCLE
   BLACK LOWER RIGHT TRIANGLE|bLEFT TRIANGLE|aUPPER LEFT TRIANGLE|bRIGHT TRIANGLE|WHITE BULLET
   SQUARE WITH LEFT HALF BLACK|bRIGHT HALF BLACK|bUPPER LEFT DIAGONAL HALF BLACK
   bLOWER RIGHT DIAGONAL HALF BLACK|WHITE SQUARE WITH VERTICAL BISECTING LINE
   aUP-POINTING TRIANGLE WITH DOT|UP-POINTING TRIANGLE WITH LEFT HALF BLACK|dRIGHT HALF BLACK
   LARGE CIRCLE|WHITE SQUARE WITH UPPER LEFT QUADRANT|cLOWER LEFT QUADRANT|dRIGHT QUADRANT
   cUPPER RIGHT QUADRANT|aCIRCLE WITH UPPER LEFT QUADRANT|cLOWER LEFT QUADRANT|dRIGHT QUADRANT
   cUPPER RIGHT QUADRANT|UPPER LEFT TRIANGLE|aRIGHT TRIANGLE|LOWER LEFT TRIANGLE|WHITE MEDIUM SQUARE
   BLACK MEDIUM SQUARE|WHITE MEDIUM SMALL SQUARE|BLACK MEDIUM SMALL SQUARE|LOWER RIGHT TRIANGLE
   BLACK SUN WITH RAYS|CLOUD|UMBRELLA|SNOWMAN|COMET|BLACK STAR|WHITE STAR|LIGHTNING|THUNDERSTORM|SUN
   ASCENDING NODE|DESCENDING NODE|CONJUNCTION|OPPOSITION|BLACK TELEPHONE|WHITE TELEPHONE|BALLOT BOX
   aBOX WITH CHECK|cX|SALTIRE|UMBRELLA WITH RAIN DROPS|HOT BEVERAGE|WHITE SHOGI PIECE
   BLACK SHOGI PIECE|SHAMROCK|REVERSED ROTATED FLORAL HEART BULLET|BLACK LEFT POINTING INDEX
   aRIGHT POINTING INDEX|WHITE LEFT POINTING INDEX|aUP POINTING INDEX|aRIGHT POINTING INDEX
   aDOWN POINTING INDEX|SKULL AND CROSSBONES|CAUTION SIGN|RADIOACTIVE SIGN|BIOHAZARD SIGN|CADUCEUS
   ANKH|ORTHODOX CROSS|CHI RHO|CROSS OF LORRAINE|bJERUSALEM|STAR AND CRESCENT|FARSI SYMBOL
   ADI SHAKTI|HAMMER AND SICKLE|PEACE SYMBOL|YIN YANG|TRIGRAM FOR HEAVEN|bLAKE|bFIRE|bTHUNDER|bWIND
   bWATER|bMOUNTAIN|bEARTH|WHEEL OF DHARMA|WHITE FROWNING FACE|aSMILING FACE|BLACK SMILING FACE
   WHITE SUN WITH RAYS|FIRST QUARTER MOON|LAST QUARTER MOON|MERCURY|FEMALE SIGN|EARTH|MALE SIGN
   JUPITER|SATURN|URANUS|NEPTUNE|PLUTO|ARIES|TAURUS|GEMINI|CANCER|LEO|VIRGO|LIBRA|SCORPIUS
   SAGITTARIUS|CAPRICORN|AQUARIUS|PISCES|WHITE CHESS KING|bQUEEN|bROOK|bBISHOP|bKNIGHT|bPAWN
   BLACK CHESS KING|bQUEEN|bROOK|bBISHOP|bKNIGHT|bPAWN|aSPADE SUIT|WHITE HEART SUIT|aDIAMOND SUIT
   BLACK CLUB SUIT|WHITE SPADE SUIT|BLACK HEART SUIT|aDIAMOND SUIT|WHITE CLUB SUIT|HOT SPRINGS
   QUARTER NOTE|EIGHTH NOTE|BEAMED EIGHTH NOTES|aSIXTEENTH NOTES|MUSIC FLAT SIGN|aNATURAL SIGN
   aSHARP SIGN|WEST SYRIAC CROSS|EAST SYRIAC CROSS|UNIVERSAL RECYCLING SYMBOL
   RECYCLING SYMBOL FOR TYPE-1 PLASTICS|d2 PLASTICS|d3 PLASTICS|d4 PLASTICS|d5 PLASTICS|d6 PLASTICS
   d7 PLASTICS|cGENERIC MATERIALS|BLACK UNIVERSAL RECYCLING SYMBOL|RECYCLED PAPER SYMBOL
   PARTIALLY-RECYCLED PAPER SYMBOL|PERMANENT PAPER SIGN|WHEELCHAIR SYMBOL|DIE FACE-1|b2|b3|b4|b5|b6
   WHITE CIRCLE WITH DOT RIGHT|cTWO DOTS|BLACK CIRCLE WITH WHITE DOT RIGHT|cTWO WHITE DOTS
   MONOGRAM FOR YANG|bYIN|DIGRAM FOR GREATER YANG|bLESSER YIN|cYANG|bGREATER YIN|WHITE FLAG
   BLACK FLAG|HAMMER AND PICK|ANCHOR|CROSSED SWORDS|STAFF OF AESCULAPIUS|SCALES|ALEMBIC|FLOWER|GEAR
   STAFF OF HERMES|ATOM SYMBOL|FLEUR-DE-LIS|OUTLINED WHITE STAR|THREE LINES CONVERGING RIGHT|cLEFT
   WARNING SIGN|HIGH VOLTAGE SIGN|DOUBLED FEMALE SIGN|aMALE SIGN|INTERLOCKED FEMALE AND MALE SIGN
   MALE AND FEMALE SIGN|aWITH STROKE SIGN|cAND MALE AND FEMALE SIGN|VERTICAL MALE WITH STROKE SIGN
   HORIZONTAL MALE WITH STROKE SIGN|MEDIUM WHITE CIRCLE|aBLACK CIRCLE|aSMALL WHITE CIRCLE
   MARRIAGE SYMBOL|DIVORCE SYMBOL|UNMARRIED PARTNERSHIP SYMBOL|COFFIN|FUNERAL URN|NEUTER|CERES
   PALLAS|JUNO|VESTA|CHIRON|BLACK MOON LILITH|SEXTILE|SEMISEXTILE|QUINCUNX|SESQUIQUADRATE
   SOCCER BALL|BASEBALL|SQUARED KEY|WHITE DRAUGHTS MAN|bKING|BLACK DRAUGHTS MAN|bKING
   SNOWMAN WITHOUT SNOW|SUN BEHIND CLOUD|RAIN|BLACK SNOWMAN|THUNDER CLOUD AND RAIN
   TURNED WHITE SHOGI PIECE|aBLACK SHOGI PIECE|WHITE DIAMOND IN SQUARE|CROSSING LANES|DISABLED CAR
   OPHIUCHUS|PICK|CAR SLIDING|HELMET WITH WHITE CROSS|CIRCLED CROSSING LANES|CHAINS|NO ENTRY
   ALTERNATE ONE-WAY LEFT WAY TRAFFIC|BLACK TWO-WAY LEFT WAY TRAFFIC|WHITE TWO-WAY LEFT WAY TRAFFIC
   BLACK LEFT LANE MERGE|WHITE LEFT LANE MERGE|DRIVE SLOW SIGN|HEAVY WHITE DOWN-POINTING TRIANGLE
   LEFT CLOSED ENTRY|SQUARED SALTIRE|FALLING DIAGONAL IN WHITE CIRCLE IN BLACK SQUARE|BLACK TRUCK
   RESTRICTED LEFT ENTRY-1|c2|ASTRONOMICAL SYMBOL FOR URANUS
   HEAVY CIRCLE WITH STROKE AND TWO DOTS ABOVE|PENTAGRAM|RIGHT-HANDED INTERLACED PENTAGRAM
   LEFT-HANDED INTERLACED PENTAGRAM|INVERTED PENTAGRAM|BLACK CROSS ON SHIELD|SHINTO SHRINE|CHURCH
   CASTLE|HISTORIC SITE|GEAR WITHOUT HUB|aWITH HANDLES|MAP SYMBOL FOR LIGHTHOUSE|MOUNTAIN
   UMBRELLA ON GROUND|FOUNTAIN|FLAG IN HOLE|FERRY|SAILBOAT|SQUARE FOUR CORNERS|SKIER|ICE SKATE
   PERSON WITH BALL|TENT|JAPANESE BANK SYMBOL|HEADSTONE GRAVEYARD SYMBOL|FUEL PUMP
   CUP ON BLACK SQUARE|WHITE FLAG WITH HORIZONTAL MIDDLE BLACK STRIPE|BLACK SAFETY SCISSORS
   UPPER BLADE SCISSORS|BLACK SCISSORS|LOWER BLADE SCISSORS|WHITE SCISSORS|aHEAVY CHECK MARK
   TELEPHONE LOCATION SIGN|TAPE DRIVE|AIRPLANE|ENVELOPE|RAISED FIST|aHAND|VICTORY HAND|WRITING HAND
   LOWER RIGHT PENCIL|PENCIL|UPPER RIGHT PENCIL|WHITE NIB|BLACK NIB|CHECK MARK|HEAVY CHECK MARK
   MULTIPLICATION X|HEAVY MULTIPLICATION X|BALLOT X|HEAVY BALLOT X|OUTLINED GREEK CROSS
   HEAVY GREEK CROSS|OPEN CENTRE CROSS|HEAVY OPEN CENTRE CROSS|LATIN CROSS
   SHADOWED WHITE LATIN CROSS|OUTLINED LATIN CROSS|MALTESE CROSS|STAR OF DAVID
   FOUR TEARDROP-SPOKED ASTERISK|aBALLOON-SPOKED ASTERISK|HEAVY FOUR BALLOON-SPOKED ASTERISK
   FOUR CLUB-SPOKED ASTERISK|BLACK FOUR POINTED STAR|WHITE FOUR POINTED STAR|SPARKLES
   STRESS OUTLINED WHITE STAR|CIRCLED WHITE STAR|OPEN CENTRE BLACK STAR|BLACK CENTRE WHITE STAR
   OUTLINED BLACK STAR|HEAVY OUTLINED BLACK STAR|PINWHEEL STAR|SHADOWED WHITE STAR|HEAVY ASTERISK
   OPEN CENTRE ASTERISK|EIGHT SPOKED ASTERISK|aPOINTED BLACK STAR|bPINWHEEL STAR
   SIX POINTED BLACK STAR|EIGHT POINTED RECTILINEAR BLACK STAR
   HEAVY EIGHT POINTED RECTILINEAR BLACK STAR|TWELVE POINTED BLACK STAR|SIXTEEN POINTED ASTERISK
   TEARDROP-SPOKED ASTERISK|OPEN CENTRE TEARDROP-SPOKED ASTERISK|HEAVY TEARDROP-SPOKED ASTERISK
   SIX PETALLED BLACK AND WHITE FLORETTE|BLACK FLORETTE|WHITE FLORETTE
   EIGHT PETALLED OUTLINED BLACK FLORETTE|CIRCLED OPEN CENTRE EIGHT POINTED STAR
   HEAVY TEARDROP-SPOKED PINWHEEL ASTERISK|SNOWFLAKE|TIGHT TRIFOLIATE SNOWFLAKE
   HEAVY CHEVRON SNOWFLAKE|SPARKLE|HEAVY SPARKLE|BALLOON-SPOKED ASTERISK
   EIGHT TEARDROP-SPOKED PROPELLER ASTERISK|HEAVY EIGHT TEARDROP-SPOKED PROPELLER ASTERISK
   CROSS MARK|SHADOWED WHITE CIRCLE|NEGATIVE SQUARED CROSS MARK
   LOWER RIGHT DROP-SHADOWED WHITE SQUARE|UPPER RIGHT DROP-SHADOWED WHITE SQUARE
   LOWER RIGHT SHADOWED WHITE SQUARE|UPPER RIGHT SHADOWED WHITE SQUARE|BLACK QUESTION MARK ORNAMENT
   WHITE QUESTION MARK ORNAMENT|aEXCLAMATION MARK ORNAMENT|BLACK DIAMOND MINUS WHITE X
   HEAVY EXCLAMATION MARK SYMBOL|LIGHT VERTICAL BAR|MEDIUM VERTICAL BAR|HEAVY VERTICAL BAR
   aSINGLE TURNED COMMA QUOTATION MARK ORNAMENT|bCOMMA QUOTATION MARK ORNAMENT
   aDOUBLE TURNED COMMA QUOTATION MARK ORNAMENT|bCOMMA QUOTATION MARK ORNAMENT
   aLOW SINGLE COMMA QUOTATION MARK ORNAMENT|bDOUBLE COMMA QUOTATION MARK ORNAMENT
   CURVED STEM PARAGRAPH SIGN ORNAMENT|HEAVY EXCLAMATION MARK ORNAMENT
   aHEART EXCLAMATION MARK ORNAMENT|aBLACK HEART|ROTATED HEAVY BLACK HEART BULLET|FLORAL HEART
   ROTATED FLORAL HEART BULLET|MEDIUM LEFT PARENTHESIS ORNAMENT|aRIGHT PARENTHESIS ORNAMENT
   aFLATTENED LEFT PARENTHESIS ORNAMENT|bRIGHT PARENTHESIS ORNAMENT
   aLEFT-POINTING ANGLE BRACKET ORNAMENT|aRIGHT-POINTING ANGLE BRACKET ORNAMENT
   HEAVY LEFT-POINTING ANGLE QUOTATION MARK ORNAMENT|aRIGHT-POINTING ANGLE QUOTATION MARK ORNAMENT
   aLEFT-POINTING ANGLE BRACKET ORNAMENT|aRIGHT-POINTING ANGLE BRACKET ORNAMENT
   LIGHT LEFT TORTOISE SHELL BRACKET ORNAMENT|aRIGHT TORTOISE SHELL BRACKET ORNAMENT
   MEDIUM LEFT CURLY BRACKET ORNAMENT|aRIGHT CURLY BRACKET ORNAMENT
   DINGBAT NEGATIVE CIRCLED DIGIT ONE|dTWO|dTHREE|dFOUR|dFIVE|dSIX|dSEVEN|dEIGHT|dNINE|cNUMBER TEN
   aCIRCLED SANS-SERIF DIGIT ONE|eTWO|eTHREE|eFOUR|eFIVE|eSIX|eSEVEN|eEIGHT|eNINE|dNUMBER TEN
   aNEGATIVE CIRCLED SANS-SERIF DIGIT ONE|fTWO|fTHREE|fFOUR|fFIVE|fSIX|fSEVEN|fEIGHT|fNINE
   eNUMBER TEN|HEAVY WIDE-HEADED RIGHTWARDS ARROW|aPLUS SIGN|aMINUS SIGN|aDIVISION SIGN
   aSOUTH EAST ARROW|aRIGHTWARDS ARROW|aNORTH EAST ARROW|DRAFTING POINT RIGHTWARDS ARROW
   HEAVY ROUND-TIPPED RIGHTWARDS ARROW|TRIANGLE-HEADED RIGHTWARDS ARROW
   HEAVY TRIANGLE-HEADED RIGHTWARDS ARROW|DASHED TRIANGLE-HEADED RIGHTWARDS ARROW
   HEAVY DASHED TRIANGLE-HEADED RIGHTWARDS ARROW|BLACK RIGHTWARDS ARROW
   THREE-D TOP-LIGHTED RIGHTWARDS ARROWHEAD|bBOTTOM-LIGHTED RIGHTWARDS ARROWHEAD
   BLACK RIGHTWARDS ARROWHEAD|HEAVY BLACK CURVED DOWNWARDS AND RIGHTWARDS ARROW
   cUPWARDS AND RIGHTWARDS ARROW|SQUAT BLACK RIGHTWARDS ARROW
   HEAVY CONCAVE-POINTED BLACK RIGHTWARDS ARROW|RIGHT-SHADED WHITE RIGHTWARDS ARROW
   LEFT-SHADED WHITE RIGHTWARDS ARROW|BACK-TILTED SHADOWED WHITE RIGHTWARDS ARROW
   FRONT-TILTED SHADOWED WHITE RIGHTWARDS ARROW|HEAVY LOWER RIGHT-SHADOWED WHITE RIGHTWARDS ARROW
   aUPPER RIGHT-SHADOWED WHITE RIGHTWARDS ARROW|NOTCHED LOWER RIGHT-SHADOWED WHITE RIGHTWARDS ARROW
   CURLY LOOP|NOTCHED UPPER RIGHT-SHADOWED WHITE RIGHTWARDS ARROW
   CIRCLED HEAVY WHITE RIGHTWARDS ARROW|WHITE-FEATHERED RIGHTWARDS ARROW
   BLACK-FEATHERED SOUTH EAST ARROW|bRIGHTWARDS ARROW|bNORTH EAST ARROW
   HEAVY BLACK-FEATHERED SOUTH EAST ARROW|cRIGHTWARDS ARROW|cNORTH EAST ARROW
   TEARDROP-BARBED RIGHTWARDS ARROW|HEAVY TEARDROP-SHANKED RIGHTWARDS ARROW
   WEDGE-TAILED RIGHTWARDS ARROW|HEAVY WEDGE-TAILED RIGHTWARDS ARROW|OPEN-OUTLINED RIGHTWARDS ARROW
   DOUBLE CURLY LOOP|THREE DIMENSIONAL ANGLE|WHITE TRIANGLE CONTAINING SMALL WHITE TRIANGLE
   PERPENDICULAR|OPEN SUBSET|aSUPERSET|LEFT S-SHAPED BAG DELIMITER|RIGHT S-SHAPED BAG DELIMITER
   OR WITH DOT INSIDE|REVERSE SOLIDUS PRECEDING SUBSET|SUPERSET PRECEDING SOLIDUS
   VERTICAL BAR WITH HORIZONTAL STROKE|MATHEMATICAL RISING DIAGONAL|LONG DIVISION
   MATHEMATICAL FALLING DIAGONAL|SQUARED LOGICAL AND|bOR|WHITE DIAMOND WITH CENTRED DOT|AND WITH DOT
   ELEMENT OF OPENING UPWARDS|LOWER RIGHT CORNER WITH DOT|UPPER LEFT CORNER WITH DOT|LEFT OUTER JOIN
   RIGHT OUTER JOIN|FULL OUTER JOIN|LARGE UP TACK|aDOWN TACK|LEFT AND RIGHT DOUBLE TURNSTILE|cTACK
   aMULTIMAP|LONG RIGHT TACK|aLEFT TACK|UP TACK WITH CIRCLE ABOVE|LOZENGE DIVIDED BY HORIZONTAL RULE
   WHITE CONCAVE-SIDED DIAMOND|cDIAMOND WITH LEFTWARDS TICK|eRIGHTWARDS TICK
   aSQUARE WITH LEFTWARDS TICK|cRIGHTWARDS TICK|MATHEMATICAL LEFT WHITE SQUARE BRACKET
   aRIGHT WHITE SQUARE BRACKET|aLEFT ANGLE BRACKET|aRIGHT ANGLE BRACKET|aLEFT DOUBLE ANGLE BRACKET
   aRIGHT DOUBLE ANGLE BRACKET|aLEFT WHITE TORTOISE SHELL BRACKET
   aRIGHT WHITE TORTOISE SHELL BRACKET|aLEFT FLATTENED PARENTHESIS|aRIGHT FLATTENED PARENTHESIS
   UPWARDS QUADRUPLE ARROW|DOWNWARDS QUADRUPLE ARROW|ANTICLOCKWISE GAPPED CIRCLE ARROW
   CLOCKWISE GAPPED CIRCLE ARROW|RIGHT ARROW WITH CIRCLED PLUS|LONG LEFTWARDS ARROW
   aRIGHTWARDS ARROW|aLEFT RIGHT ARROW|aLEFTWARDS DOUBLE ARROW|aRIGHTWARDS DOUBLE ARROW
   aLEFT RIGHT DOUBLE ARROW|aLEFTWARDS ARROW FROM BAR|aRIGHTWARDS ARROW FROM BAR
   aLEFTWARDS DOUBLE ARROW FROM BAR|aRIGHTWARDS DOUBLE ARROW FROM BAR|bSQUIGGLE ARROW
   BRAILLE PATTERN BLANK|bDOTS-1|c2|c12|c3|c13|c23|c123|c4|c14|c24|c124|c34|c134|c234|c1234|c5|c15
   c25|c125|c35|c135|c235|c1235|c45|c145|c245|c1245|c345|c1345|c2345|c12345|c6|c16|c26|c126|c36|c136
   c236|c1236|c46|c146|c246|c1246|c346|c1346|c2346|c12346|c56|c156|c256|c1256|c356|c1356|c2356
   c12356|c456|c1456|c2456|c12456|c3456|c13456|c23456|c123456|c7|c17|c27|c127|c37|c137|c237|c1237
   c47|c147|c247|c1247|c347|c1347|c2347|c12347|c57|c157|c257|c1257|c357|c1357|c2357|c12357|c457
   c1457|c2457|c12457|c3457|c13457|c23457|c123457|c67|c167|c267|c1267|c367|c1367|c2367|c12367|c467
   c1467|c2467|c12467|c3467|c13467|c23467|c123467|c567|c1567|c2567|c12567|c3567|c13567|c23567
   c123567|c4567|c14567|c24567|c124567|c34567|c134567|c234567|c1234567|c8|c18|c28|c128|c38|c138|c238
   c1238|c48|c148|c248|c1248|c348|c1348|c2348|c12348|c58|c158|c258|c1258|c358|c1358|c2358|c12358
   c458|c1458|c2458|c12458|c3458|c13458|c23458|c123458|c68|c168|c268|c1268|c368|c1368|c2368|c12368
   c468|c1468|c2468|c12468|c3468|c13468|c23468|c123468|c568|c1568|c2568|c12568|c3568|c13568|c23568
   c123568|c4568|c14568|c24568|c124568|c34568|c134568|c234568|c1234568|c78|c178|c278|c1278|c378
   c1378|c2378|c12378|c478|c1478|c2478|c12478|c3478|c13478|c23478|c123478|c578|c1578|c2578|c12578
   c3578|c13578|c23578|c123578|c4578|c14578|c24578|c124578|c34578|c134578|c234578|c1234578|c678
   c1678|c2678|c12678|c3678|c13678|c23678|c123678|c4678|c14678|c24678|c124678|c34678|c134678|c234678
   c1234678|c5678|c15678|c25678|c125678|c35678|c135678|c235678|c1235678|c45678|c145678|c245678
   c1245678|c345678|c1345678|c2345678|c12345678|RIGHTWARDS TWO-HEADED ARROW WITH VERTICAL STROKE
   eDOUBLE VERTICAL STROKE|LEFTWARDS DOUBLE ARROW WITH VERTICAL STROKE
   RIGHTWARDS DOUBLE ARROW WITH VERTICAL STROKE|LEFT RIGHT DOUBLE ARROW WITH VERTICAL STROKE
   RIGHTWARDS TWO-HEADED ARROW FROM BAR|LEFTWARDS DOUBLE ARROW FROM BAR
   RIGHTWARDS DOUBLE ARROW FROM BAR|DOWNWARDS ARROW WITH HORIZONTAL STROKE
   UPWARDS ARROW WITH HORIZONTAL STROKE|aTRIPLE ARROW|DOWNWARDS TRIPLE ARROW
   LEFTWARDS DOUBLE DASH ARROW|RIGHTWARDS DOUBLE DASH ARROW|LEFTWARDS TRIPLE DASH ARROW
   RIGHTWARDS TRIPLE DASH ARROW|aTWO-HEADED TRIPLE DASH ARROW|aARROW WITH DOTTED STEM
   UPWARDS ARROW TO BAR|DOWNWARDS ARROW TO BAR|RIGHTWARDS ARROW WITH TAIL WITH VERTICAL STROKE
   eDOUBLE VERTICAL STROKE|aTWO-HEADED ARROW WITH TAIL|eTAIL WITH VERTICAL STROKE
   gDOUBLE VERTICAL STROKE|LEFTWARDS ARROW-TAIL|RIGHTWARDS ARROW-TAIL|LEFTWARDS DOUBLE ARROW-TAIL
   RIGHTWARDS DOUBLE ARROW-TAIL|LEFTWARDS ARROW TO BLACK DIAMOND|RIGHTWARDS ARROW TO BLACK DIAMOND
   LEFTWARDS ARROW FROM BAR TO BLACK DIAMOND|RIGHTWARDS ARROW FROM BAR TO BLACK DIAMOND
   NORTH WEST AND SOUTH EAST ARROW|aEAST AND SOUTH WEST ARROW|aWEST ARROW WITH HOOK
   aEAST ARROW WITH HOOK|SOUTH EAST ARROW WITH HOOK|aWEST ARROW WITH HOOK
   NORTH WEST ARROW AND NORTH EAST ARROW|aEAST ARROW AND SOUTH EAST ARROW
   SOUTH EAST ARROW AND SOUTH WEST ARROW|aWEST ARROW AND NORTH WEST ARROW
   RISING DIAGONAL CROSSING FALLING DIAGONAL|FALLING DIAGONAL CROSSING RISING DIAGONAL
   SOUTH EAST ARROW CROSSING NORTH EAST ARROW|NORTH EAST ARROW CROSSING SOUTH EAST ARROW
   FALLING DIAGONAL CROSSING NORTH EAST ARROW|RISING DIAGONAL CROSSING SOUTH EAST ARROW
   NORTH EAST ARROW CROSSING NORTH WEST ARROW|aWEST ARROW CROSSING NORTH EAST ARROW
   WAVE ARROW POINTING DIRECTLY RIGHT|ARROW POINTING RIGHTWARDS THEN CURVING UPWARDS|eDOWNWARDS
   bDOWNWARDS THEN CURVING LEFTWARDS|eRIGHTWARDS|RIGHT-SIDE ARC CLOCKWISE ARROW
   LEFT-SIDE ARC ANTICLOCKWISE ARROW|TOP ARC ANTICLOCKWISE ARROW|BOTTOM ARC ANTICLOCKWISE ARROW
   TOP ARC CLOCKWISE ARROW WITH MINUS|bANTICLOCKWISE ARROW WITH PLUS
   LOWER RIGHT SEMICIRCULAR CLOCKWISE ARROW|aLEFT SEMICIRCULAR ANTICLOCKWISE ARROW
   ANTICLOCKWISE CLOSED CIRCLE ARROW|CLOCKWISE CLOSED CIRCLE ARROW
   RIGHTWARDS ARROW ABOVE SHORT LEFTWARDS ARROW|LEFTWARDS ARROW ABOVE SHORT RIGHTWARDS ARROW
   SHORT RIGHTWARDS ARROW ABOVE LEFTWARDS ARROW|RIGHTWARDS ARROW WITH PLUS BELOW
   LEFTWARDS ARROW WITH PLUS BELOW|RIGHTWARDS ARROW THROUGH X|LEFT RIGHT ARROW THROUGH SMALL CIRCLE
   UPWARDS TWO-HEADED ARROW FROM SMALL CIRCLE|LEFT BARB UP RIGHT BARB DOWN HARPOON
   bDOWN RIGHT BARB UP HARPOON|UP BARB RIGHT DOWN BARB LEFT HARPOON|bLEFT DOWN BARB RIGHT HARPOON
   LEFT BARB UP RIGHT BARB UP HARPOON|UP BARB RIGHT DOWN BARB RIGHT HARPOON
   LEFT BARB DOWN RIGHT BARB DOWN HARPOON|UP BARB LEFT DOWN BARB LEFT HARPOON
   LEFTWARDS HARPOON WITH BARB UP TO BAR|RIGHTWARDS HARPOON WITH BARB UP TO BAR
   UPWARDS HARPOON WITH BARB RIGHT TO BAR|DOWNWARDS HARPOON WITH BARB RIGHT TO BAR
   LEFTWARDS HARPOON WITH BARB DOWN TO BAR|RIGHTWARDS HARPOON WITH BARB DOWN TO BAR
   UPWARDS HARPOON WITH BARB LEFT TO BAR|DOWNWARDS HARPOON WITH BARB LEFT TO BAR
   LEFTWARDS HARPOON WITH BARB UP FROM BAR|RIGHTWARDS HARPOON WITH BARB UP FROM BAR
   UPWARDS HARPOON WITH BARB RIGHT FROM BAR|DOWNWARDS HARPOON WITH BARB RIGHT FROM BAR
   LEFTWARDS HARPOON WITH BARB DOWN FROM BAR|RIGHTWARDS HARPOON WITH BARB DOWN FROM BAR
   UPWARDS HARPOON WITH BARB LEFT FROM BAR|DOWNWARDS HARPOON WITH BARB LEFT FROM BAR
   LEFTWARDS HARPOON WITH BARB UP ABOVE LEFTWARDS HARPOON WITH BARB DOWN
   UPWARDS HARPOON WITH BARB LEFT BESIDE UPWARDS HARPOON WITH BARB RIGHT
   RIGHTWARDS HARPOON WITH BARB UP ABOVE RIGHTWARDS HARPOON WITH BARB DOWN
   DOWNWARDS HARPOON WITH BARB LEFT BESIDE DOWNWARDS HARPOON WITH BARB RIGHT
   LEFTWARDS HARPOON WITH BARB UP ABOVE RIGHTWARDS HARPOON WITH BARB UP
   dDOWN ABOVE RIGHTWARDS HARPOON WITH BARB DOWN
   RIGHTWARDS HARPOON WITH BARB UP ABOVE LEFTWARDS HARPOON WITH BARB UP
   dDOWN ABOVE LEFTWARDS HARPOON WITH BARB DOWN|LEFTWARDS HARPOON WITH BARB UP ABOVE LONG DASH
   dDOWN BELOW LONG DASH|RIGHTWARDS HARPOON WITH BARB UP ABOVE LONG DASH|dDOWN BELOW LONG DASH
   UPWARDS HARPOON WITH BARB LEFT BESIDE DOWNWARDS HARPOON WITH BARB RIGHT
   DOWNWARDS HARPOON WITH BARB LEFT BESIDE UPWARDS HARPOON WITH BARB RIGHT
   RIGHT DOUBLE ARROW WITH ROUNDED HEAD|EQUALS SIGN ABOVE RIGHTWARDS ARROW
   TILDE OPERATOR ABOVE RIGHTWARDS ARROW|LEFTWARDS ARROW ABOVE TILDE OPERATOR
   RIGHTWARDS ARROW ABOVE TILDE OPERATOR|cALMOST EQUAL TO|LESS-THAN ABOVE LEFTWARDS ARROW
   LEFTWARDS ARROW THROUGH LESS-THAN|GREATER-THAN ABOVE RIGHTWARDS ARROW
   SUBSET ABOVE RIGHTWARDS ARROW|LEFTWARDS ARROW THROUGH SUBSET|SUPERSET ABOVE LEFTWARDS ARROW
   LEFT FISH TAIL|RIGHT FISH TAIL|UP FISH TAIL|DOWN FISH TAIL|TRIPLE VERTICAL BAR DELIMITER
   Z NOTATION SPOT|bTYPE COLON|LEFT WHITE CURLY BRACKET|RIGHT WHITE CURLY BRACKET
   LEFT WHITE PARENTHESIS|RIGHT WHITE PARENTHESIS|Z NOTATION LEFT IMAGE BRACKET|bRIGHT IMAGE BRACKET
   bLEFT BINDING BRACKET|bRIGHT BINDING BRACKET|LEFT SQUARE BRACKET WITH UNDERBAR
   RIGHT SQUARE BRACKET WITH UNDERBAR|LEFT SQUARE BRACKET WITH TICK IN TOP CORNER
   RIGHT SQUARE BRACKET WITH TICK IN BOTTOM CORNER|LEFT SQUARE BRACKET WITH TICK IN BOTTOM CORNER
   RIGHT SQUARE BRACKET WITH TICK IN TOP CORNER|LEFT ANGLE BRACKET WITH DOT
   RIGHT ANGLE BRACKET WITH DOT|LEFT ARC LESS-THAN BRACKET|RIGHT ARC GREATER-THAN BRACKET
   DOUBLE LEFT ARC GREATER-THAN BRACKET|aRIGHT ARC LESS-THAN BRACKET
   LEFT BLACK TORTOISE SHELL BRACKET|RIGHT BLACK TORTOISE SHELL BRACKET|DOTTED FENCE
   VERTICAL ZIGZAG LINE|MEASURED ANGLE OPENING LEFT|RIGHT ANGLE VARIANT WITH SQUARE
   MEASURED RIGHT ANGLE WITH DOT|ANGLE WITH S INSIDE|ACUTE ANGLE|SPHERICAL ANGLE OPENING LEFT|cUP
   TURNED ANGLE|REVERSED ANGLE|ANGLE WITH UNDERBAR|REVERSED ANGLE WITH UNDERBAR
   OBLIQUE ANGLE OPENING UP|cDOWN|MEASURED ANGLE WITH OPEN ARM ENDING IN ARROW POINTING UP AND RIGHT
   kLEFT|iDOWN AND RIGHT|kLEFT|iRIGHT AND UP|iLEFT AND UP|iRIGHT AND DOWN|iLEFT AND DOWN
   REVERSED EMPTY SET|EMPTY SET WITH OVERBAR|cSMALL CIRCLE ABOVE|cRIGHT ARROW ABOVE
   cLEFT ARROW ABOVE|CIRCLE WITH HORIZONTAL BAR|CIRCLED VERTICAL BAR|aPARALLEL|aREVERSE SOLIDUS
   aPERPENDICULAR|CIRCLE DIVIDED BY HORIZONTAL BAR AND TOP HALF DIVIDED BY VERTICAL BAR
   aWITH SUPERIMPOSED X|CIRCLED ANTICLOCKWISE-ROTATED DIVISION SIGN|UP ARROW THROUGH CIRCLE
   CIRCLED WHITE BULLET|aBULLET|aLESS-THAN|aGREATER-THAN|CIRCLE WITH SMALL CIRCLE TO THE RIGHT
   bTWO HORIZONTAL STROKES TO THE RIGHT|SQUARED RISING DIAGONAL SLASH|aFALLING DIAGONAL SLASH
   aASTERISK|aSMALL CIRCLE|aSQUARE|TWO JOINED SQUARES|TRIANGLE WITH DOT ABOVE|bUNDERBAR
   S IN TRIANGLE|TRIANGLE WITH SERIFS AT BOTTOM|RIGHT TRIANGLE ABOVE LEFT TRIANGLE
   LEFT TRIANGLE BESIDE VERTICAL BAR|VERTICAL BAR BESIDE RIGHT TRIANGLE|BOWTIE WITH LEFT HALF BLACK
   bRIGHT HALF BLACK|BLACK BOWTIE|TIMES WITH LEFT HALF BLACK|bRIGHT HALF BLACK|WHITE HOURGLASS
   BLACK HOURGLASS|LEFT WIGGLY FENCE|RIGHT WIGGLY FENCE|LEFT DOUBLE WIGGLY FENCE
   RIGHT DOUBLE WIGGLY FENCE|INCOMPLETE INFINITY|TIE OVER INFINITY
   INFINITY NEGATED WITH VERTICAL BAR|DOUBLE-ENDED MULTIMAP|SQUARE WITH CONTOURED OUTLINE
   INCREASES AS|SHUFFLE PRODUCT|EQUALS SIGN AND SLANTED PARALLEL|dPARALLEL WITH TILDE ABOVE
   IDENTICAL TO AND SLANTED PARALLEL|GLEICH STARK|THERMODYNAMIC
   DOWN-POINTING TRIANGLE WITH LEFT HALF BLACK|dRIGHT HALF BLACK|BLACK DIAMOND WITH DOWN ARROW
   aLOZENGE|WHITE CIRCLE WITH DOWN ARROW|BLACK CIRCLE WITH DOWN ARROW|ERROR-BARRED WHITE SQUARE
   bBLACK SQUARE|bWHITE DIAMOND|bBLACK DIAMOND|bWHITE CIRCLE|bBLACK CIRCLE|RULE-DELAYED
   REVERSE SOLIDUS OPERATOR|SOLIDUS WITH OVERBAR|REVERSE SOLIDUS WITH HORIZONTAL STROKE|BIG SOLIDUS
   aREVERSE SOLIDUS|DOUBLE PLUS|TRIPLE PLUS|LEFT-POINTING CURVED ANGLE BRACKET
   RIGHT-POINTING CURVED ANGLE BRACKET|TINY|MINY|N-ARY CIRCLED DOT OPERATOR|cPLUS OPERATOR
   cTIMES OPERATOR|bUNION OPERATOR WITH DOT|ePLUS|bSQUARE INTERSECTION OPERATOR|cUNION OPERATOR
   TWO LOGICAL AND OPERATOR|bOR OPERATOR|N-ARY TIMES OPERATOR|MODULO TWO SUM|SUMMATION WITH INTEGRAL
   QUADRUPLE INTEGRAL OPERATOR|FINITE PART INTEGRAL|INTEGRAL WITH DOUBLE STROKE|aAVERAGE WITH SLASH
   CIRCULATION FUNCTION|ANTICLOCKWISE INTEGRATION|LINE INTEGRATION WITH RECTANGULAR PATH AROUND POLE
   cSEMICIRCULAR PATH AROUND POLE|bNOT INCLUDING THE POLE|INTEGRAL AROUND A POINT OPERATOR
   QUATERNION INTEGRAL OPERATOR|INTEGRAL WITH LEFTWARDS ARROW WITH HOOK|bTIMES SIGN|bINTERSECTION
   bUNION|bOVERBAR|bUNDERBAR|JOIN|LARGE LEFT TRIANGLE OPERATOR|Z NOTATION SCHEMA COMPOSITION|cPIPING
   cPROJECTION|PLUS SIGN WITH SMALL CIRCLE ABOVE|cCIRCUMFLEX ACCENT ABOVE|cTILDE ABOVE|cDOT BELOW
   cTILDE BELOW|cSUBSCRIPT TWO|cBLACK TRIANGLE|MINUS SIGN WITH COMMA ABOVE|cDOT BELOW|cFALLING DOTS
   cRISING DOTS|PLUS SIGN IN LEFT HALF CIRCLE|cRIGHT HALF CIRCLE|VECTOR OR CROSS PRODUCT
   MULTIPLICATION SIGN WITH DOT ABOVE|cUNDERBAR|SEMIDIRECT PRODUCT WITH BOTTOM CLOSED|SMASH PRODUCT
   MULTIPLICATION SIGN IN LEFT HALF CIRCLE|cRIGHT HALF CIRCLE
   CIRCLED MULTIPLICATION SIGN WITH CIRCUMFLEX ACCENT|MULTIPLICATION SIGN IN DOUBLE CIRCLE
   CIRCLED DIVISION SIGN|PLUS SIGN IN TRIANGLE|MINUS SIGN IN TRIANGLE
   MULTIPLICATION SIGN IN TRIANGLE|INTERIOR PRODUCT|RIGHTHAND INTERIOR PRODUCT
   Z NOTATION RELATIONAL COMPOSITION|AMALGAMATION OR COPRODUCT|INTERSECTION WITH DOT
   UNION WITH MINUS SIGN|bOVERBAR|INTERSECTION WITH OVERBAR|bLOGICAL AND|UNION WITH LOGICAL OR
   aABOVE INTERSECTION|INTERSECTION ABOVE UNION|UNION ABOVE BAR ABOVE INTERSECTION
   INTERSECTION ABOVE BAR ABOVE UNION|UNION BESIDE AND JOINED WITH UNION
   INTERSECTION BESIDE AND JOINED WITH INTERSECTION|CLOSED UNION WITH SERIFS
   aINTERSECTION WITH SERIFS|DOUBLE SQUARE INTERSECTION|bUNION
   CLOSED UNION WITH SERIFS AND SMASH PRODUCT|LOGICAL AND WITH DOT ABOVE|aOR WITH DOT ABOVE
   DOUBLE LOGICAL AND|bOR|TWO INTERSECTING LOGICAL AND|cOR|SLOPING LARGE OR|bAND
   LOGICAL OR OVERLAPPING LOGICAL AND|aAND WITH MIDDLE STEM|aOR WITH MIDDLE STEM
   aAND WITH HORIZONTAL DASH|aOR WITH HORIZONTAL DASH|aAND WITH DOUBLE OVERBAR|cUNDERBAR
   cDOUBLE UNDERBAR|SMALL VEE WITH UNDERBAR|LOGICAL OR WITH DOUBLE OVERBAR|dUNDERBAR
   Z NOTATION DOMAIN ANTIRESTRICTION|bRANGE ANTIRESTRICTION|EQUALS SIGN WITH DOT BELOW
   IDENTICAL WITH DOT ABOVE|TRIPLE HORIZONTAL BAR WITH DOUBLE VERTICAL STROKE
   dTRIPLE VERTICAL STROKE|TILDE OPERATOR WITH DOT ABOVE|cRISING DOTS|SIMILAR MINUS SIMILAR
   CONGRUENT WITH DOT ABOVE|EQUALS WITH ASTERISK|ALMOST EQUAL TO WITH CIRCUMFLEX ACCENT
   APPROXIMATELY EQUAL OR EQUAL TO|EQUALS SIGN ABOVE PLUS SIGN|PLUS SIGN ABOVE EQUALS SIGN
   EQUALS SIGN ABOVE TILDE OPERATOR|DOUBLE COLON EQUAL|TWO CONSECUTIVE EQUALS SIGNS
   THREE CONSECUTIVE EQUALS SIGNS|EQUALS SIGN WITH TWO DOTS ABOVE AND TWO DOTS BELOW
   EQUIVALENT WITH FOUR DOTS ABOVE|LESS-THAN WITH CIRCLE INSIDE|GREATER-THAN WITH CIRCLE INSIDE
   LESS-THAN WITH QUESTION MARK ABOVE|GREATER-THAN WITH QUESTION MARK ABOVE
   LESS-THAN OR SLANTED EQUAL TO|GREATER-THAN OR SLANTED EQUAL TO
   LESS-THAN OR SLANTED EQUAL TO WITH DOT INSIDE|GREATER-THAN OR SLANTED EQUAL TO WITH DOT INSIDE
   LESS-THAN OR SLANTED EQUAL TO WITH DOT ABOVE|GREATER-THAN OR SLANTED EQUAL TO WITH DOT ABOVE
   LESS-THAN OR SLANTED EQUAL TO WITH DOT ABOVE RIGHT
   GREATER-THAN OR SLANTED EQUAL TO WITH DOT ABOVE LEFT|LESS-THAN OR APPROXIMATE
   GREATER-THAN OR APPROXIMATE|LESS-THAN AND SINGLE-LINE NOT EQUAL TO
   GREATER-THAN AND SINGLE-LINE NOT EQUAL TO|LESS-THAN AND NOT APPROXIMATE
   GREATER-THAN AND NOT APPROXIMATE|LESS-THAN ABOVE DOUBLE-LINE EQUAL ABOVE GREATER-THAN
   GREATER-THAN ABOVE DOUBLE-LINE EQUAL ABOVE LESS-THAN|LESS-THAN ABOVE SIMILAR OR EQUAL
   GREATER-THAN ABOVE SIMILAR OR EQUAL|LESS-THAN ABOVE SIMILAR ABOVE GREATER-THAN
   GREATER-THAN ABOVE SIMILAR ABOVE LESS-THAN|LESS-THAN ABOVE GREATER-THAN ABOVE DOUBLE-LINE EQUAL
   GREATER-THAN ABOVE LESS-THAN ABOVE DOUBLE-LINE EQUAL
   LESS-THAN ABOVE SLANTED EQUAL ABOVE GREATER-THAN ABOVE SLANTED EQUAL
   GREATER-THAN ABOVE SLANTED EQUAL ABOVE LESS-THAN ABOVE SLANTED EQUAL
   SLANTED EQUAL TO OR LESS-THAN|dGREATER-THAN|dLESS-THAN WITH DOT INSIDE
   dGREATER-THAN WITH DOT INSIDE|DOUBLE-LINE EQUAL TO OR LESS-THAN|eGREATER-THAN
   bSLANTED EQUAL TO OR LESS-THAN|fGREATER-THAN|SIMILAR OR LESS-THAN|bGREATER-THAN
   aABOVE LESS-THAN ABOVE EQUALS SIGN|bGREATER-THAN ABOVE EQUALS SIGN|DOUBLE NESTED LESS-THAN
   bGREATER-THAN|bLESS-THAN WITH UNDERBAR|GREATER-THAN OVERLAPPING LESS-THAN|bBESIDE LESS-THAN
   LESS-THAN CLOSED BY CURVE|GREATER-THAN CLOSED BY CURVE
   LESS-THAN CLOSED BY CURVE ABOVE SLANTED EQUAL|GREATER-THAN CLOSED BY CURVE ABOVE SLANTED EQUAL
   SMALLER THAN|LARGER THAN|SMALLER THAN OR EQUAL TO|LARGER THAN OR EQUAL TO
   EQUALS SIGN WITH BUMPY ABOVE|PRECEDES ABOVE SINGLE-LINE EQUALS SIGN
   SUCCEEDS ABOVE SINGLE-LINE EQUALS SIGN|PRECEDES ABOVE SINGLE-LINE NOT EQUAL TO
   SUCCEEDS ABOVE SINGLE-LINE NOT EQUAL TO|PRECEDES ABOVE EQUALS SIGN|SUCCEEDS ABOVE EQUALS SIGN
   PRECEDES ABOVE NOT EQUAL TO|SUCCEEDS ABOVE NOT EQUAL TO|PRECEDES ABOVE ALMOST EQUAL TO
   SUCCEEDS ABOVE ALMOST EQUAL TO|PRECEDES ABOVE NOT ALMOST EQUAL TO
   SUCCEEDS ABOVE NOT ALMOST EQUAL TO|DOUBLE PRECEDES|aSUCCEEDS|SUBSET WITH DOT|SUPERSET WITH DOT
   SUBSET WITH PLUS SIGN BELOW|SUPERSET WITH PLUS SIGN BELOW|SUBSET WITH MULTIPLICATION SIGN BELOW
   SUPERSET WITH MULTIPLICATION SIGN BELOW|SUBSET OF OR EQUAL TO WITH DOT ABOVE
   SUPERSET OF OR EQUAL TO WITH DOT ABOVE|SUBSET OF ABOVE EQUALS SIGN|SUPERSET OF ABOVE EQUALS SIGN
   SUBSET OF ABOVE TILDE OPERATOR|SUPERSET OF ABOVE TILDE OPERATOR|SUBSET OF ABOVE ALMOST EQUAL TO
   SUPERSET OF ABOVE ALMOST EQUAL TO|SUBSET OF ABOVE NOT EQUAL TO|SUPERSET OF ABOVE NOT EQUAL TO
   SQUARE LEFT OPEN BOX OPERATOR|aRIGHT OPEN BOX OPERATOR|CLOSED SUBSET|aSUPERSET
   aSUBSET OR EQUAL TO|aSUPERSET OR EQUAL TO|SUBSET ABOVE SUPERSET|SUPERSET ABOVE SUBSET
   SUBSET ABOVE SUBSET|SUPERSET ABOVE SUPERSET|aBESIDE SUBSET|bAND JOINED BY DASH WITH SUBSET
   ELEMENT OF OPENING DOWNWARDS|PITCHFORK WITH TEE TOP|TRANSVERSAL INTERSECTION|FORKING|NONFORKING
   SHORT LEFT TACK|aDOWN TACK|aUP TACK|PERPENDICULAR WITH S|VERTICAL BAR TRIPLE RIGHT TURNSTILE
   DOUBLE VERTICAL BAR LEFT TURNSTILE|VERTICAL BAR DOUBLE LEFT TURNSTILE
   DOUBLE VERTICAL BAR DOUBLE LEFT TURNSTILE|LONG DASH FROM LEFT MEMBER OF DOUBLE VERTICAL
   SHORT DOWN TACK WITH OVERBAR|aUP TACK WITH UNDERBAR|cABOVE SHORT DOWN TACK|DOUBLE DOWN TACK
   aUP TACK|aSTROKE NOT SIGN|REVERSED DOUBLE STROKE NOT SIGN
   DOES NOT DIVIDE WITH REVERSED NEGATION SLASH|VERTICAL LINE WITH CIRCLE ABOVE|dBELOW
   DOWN TACK WITH CIRCLE BELOW|PARALLEL WITH HORIZONTAL STROKE|bTILDE OPERATOR
   TRIPLE VERTICAL BAR BINARY RELATION|cWITH HORIZONTAL STROKE|aCOLON OPERATOR|aNESTED LESS-THAN
   bGREATER-THAN|DOUBLE-LINE SLANTED LESS-THAN OR EQUAL TO|cGREATER-THAN OR EQUAL TO
   TRIPLE SOLIDUS BINARY RELATION|LARGE TRIPLE VERTICAL BAR OPERATOR|DOUBLE SOLIDUS OPERATOR
   WHITE VERTICAL BAR|N-ARY WHITE VERTICAL BAR|NORTH EAST WHITE ARROW|aWEST WHITE ARROW
   SOUTH EAST WHITE ARROW|aWEST WHITE ARROW|LEFT RIGHT WHITE ARROW|LEFTWARDS BLACK ARROW
   UPWARDS BLACK ARROW|DOWNWARDS BLACK ARROW|NORTH EAST BLACK ARROW|aWEST BLACK ARROW
   SOUTH EAST BLACK ARROW|aWEST BLACK ARROW|LEFT RIGHT BLACK ARROW|UP DOWN BLACK ARROW
   RIGHTWARDS ARROW WITH TIP DOWNWARDS|dUPWARDS|LEFTWARDS ARROW WITH TIP DOWNWARDS|dUPWARDS
   SQUARE WITH TOP HALF BLACK|bBOTTOM HALF BLACK|bUPPER RIGHT DIAGONAL HALF BLACK
   bLOWER LEFT DIAGONAL HALF BLACK|DIAMOND WITH LEFT HALF BLACK|bRIGHT HALF BLACK|bTOP HALF BLACK
   bBOTTOM HALF BLACK|DOTTED SQUARE|BLACK LARGE SQUARE|WHITE LARGE SQUARE|BLACK VERY SMALL SQUARE
   WHITE VERY SMALL SQUARE|BLACK PENTAGON|WHITE PENTAGON|aHEXAGON|BLACK HEXAGON
   HORIZONTAL BLACK HEXAGON|BLACK LARGE CIRCLE|aMEDIUM DIAMOND|WHITE MEDIUM DIAMOND
   BLACK MEDIUM LOZENGE|WHITE MEDIUM LOZENGE|BLACK SMALL DIAMOND|bLOZENGE|WHITE SMALL LOZENGE
   BLACK HORIZONTAL ELLIPSE|WHITE HORIZONTAL ELLIPSE|BLACK VERTICAL ELLIPSE|WHITE VERTICAL ELLIPSE
   LEFT ARROW WITH SMALL CIRCLE|THREE LEFTWARDS ARROWS|LEFT ARROW WITH CIRCLED PLUS
   LONG LEFTWARDS SQUIGGLE ARROW|LEFTWARDS TWO-HEADED ARROW WITH VERTICAL STROKE
   eDOUBLE VERTICAL STROKE|dFROM BAR|cTRIPLE DASH ARROW|aARROW WITH DOTTED STEM
   cTAIL WITH VERTICAL STROKE|eDOUBLE VERTICAL STROKE|aTWO-HEADED ARROW WITH TAIL
   eTAIL WITH VERTICAL STROKE|gDOUBLE VERTICAL STROKE|aARROW THROUGH X
   WAVE ARROW POINTING DIRECTLY LEFT|EQUALS SIGN ABOVE LEFTWARDS ARROW
   REVERSE TILDE OPERATOR ABOVE LEFTWARDS ARROW|LEFTWARDS ARROW ABOVE REVERSE ALMOST EQUAL TO
   RIGHTWARDS ARROW THROUGH GREATER-THAN|cSUPERSET|LEFTWARDS QUADRUPLE ARROW
   RIGHTWARDS QUADRUPLE ARROW|REVERSE TILDE OPERATOR ABOVE RIGHTWARDS ARROW
   RIGHTWARDS ARROW ABOVE REVERSE ALMOST EQUAL TO|TILDE OPERATOR ABOVE LEFTWARDS ARROW
   LEFTWARDS ARROW ABOVE ALMOST EQUAL TO|cREVERSE TILDE OPERATOR
   RIGHTWARDS ARROW ABOVE REVERSE TILDE OPERATOR|DOWNWARDS TRIANGLE-HEADED ZIGZAG ARROW
   SHORT SLANTED NORTH ARROW|aBACKSLANTED SOUTH ARROW|WHITE MEDIUM STAR|BLACK SMALL STAR
   WHITE SMALL STAR|BLACK RIGHT-POINTING PENTAGON|WHITE RIGHT-POINTING PENTAGON|HEAVY LARGE CIRCLE
   aOVAL WITH OVAL INSIDE|aCIRCLE WITH CIRCLE INSIDE|aCIRCLE|aCIRCLED SALTIRE
   SLANTED NORTH ARROW WITH HOOKED HEAD|BACKSLANTED SOUTH ARROW WITH HOOKED TAIL
   SLANTED NORTH ARROW WITH HORIZONTAL TAIL|BACKSLANTED SOUTH ARROW WITH HORIZONTAL TAIL
   BENT ARROW POINTING DOWNWARDS THEN NORTH EAST|SHORT BENT ARROW POINTING DOWNWARDS THEN NORTH EAST
   LEFTWARDS TRIANGLE-HEADED ARROW|UPWARDS TRIANGLE-HEADED ARROW|RIGHTWARDS TRIANGLE-HEADED ARROW
   DOWNWARDS TRIANGLE-HEADED ARROW|LEFT RIGHT TRIANGLE-HEADED ARROW|UP DOWN TRIANGLE-HEADED ARROW
   NORTH WEST TRIANGLE-HEADED ARROW|aEAST TRIANGLE-HEADED ARROW|SOUTH EAST TRIANGLE-HEADED ARROW
   aWEST TRIANGLE-HEADED ARROW|LEFTWARDS TRIANGLE-HEADED DASHED ARROW
   UPWARDS TRIANGLE-HEADED DASHED ARROW|RIGHTWARDS TRIANGLE-HEADED DASHED ARROW
   DOWNWARDS TRIANGLE-HEADED DASHED ARROW|CLOCKWISE TRIANGLE-HEADED OPEN CIRCLE ARROW
   ANTICLOCKWISE TRIANGLE-HEADED OPEN CIRCLE ARROW|LEFTWARDS TRIANGLE-HEADED ARROW TO BAR
   UPWARDS TRIANGLE-HEADED ARROW TO BAR|RIGHTWARDS TRIANGLE-HEADED ARROW TO BAR
   DOWNWARDS TRIANGLE-HEADED ARROW TO BAR|2B76:NORTH WEST TRIANGLE-HEADED ARROW TO BAR
   aEAST TRIANGLE-HEADED ARROW TO BAR|SOUTH EAST TRIANGLE-HEADED ARROW TO BAR
   aWEST TRIANGLE-HEADED ARROW TO BAR|LEFTWARDS TRIANGLE-HEADED ARROW WITH DOUBLE HORIZONTAL STROKE
   UPWARDS TRIANGLE-HEADED ARROW WITH DOUBLE HORIZONTAL STROKE
   RIGHTWARDS TRIANGLE-HEADED ARROW WITH DOUBLE HORIZONTAL STROKE
   DOWNWARDS TRIANGLE-HEADED ARROW WITH DOUBLE HORIZONTAL STROKE|HORIZONTAL TAB KEY|VERTICAL TAB KEY
   LEFTWARDS TRIANGLE-HEADED ARROW OVER RIGHTWARDS TRIANGLE-HEADED ARROW
   UPWARDS TRIANGLE-HEADED ARROW LEFTWARDS OF DOWNWARDS TRIANGLE-HEADED ARROW
   RIGHTWARDS TRIANGLE-HEADED ARROW OVER LEFTWARDS TRIANGLE-HEADED ARROW
   DOWNWARDS TRIANGLE-HEADED ARROW LEFTWARDS OF UPWARDS TRIANGLE-HEADED ARROW
   LEFTWARDS TRIANGLE-HEADED PAIRED ARROWS|UPWARDS TRIANGLE-HEADED PAIRED ARROWS
   RIGHTWARDS TRIANGLE-HEADED PAIRED ARROWS|DOWNWARDS TRIANGLE-HEADED PAIRED ARROWS
   LEFTWARDS BLACK CIRCLED WHITE ARROW|UPWARDS BLACK CIRCLED WHITE ARROW
   RIGHTWARDS BLACK CIRCLED WHITE ARROW|DOWNWARDS BLACK CIRCLED WHITE ARROW
   ANTICLOCKWISE TRIANGLE-HEADED RIGHT U-SHAPED ARROW|cBOTTOM U-SHAPED ARROW|cLEFT U-SHAPED ARROW
   cTOP U-SHAPED ARROW|RETURN LEFT|aRIGHT|NEWLINE LEFT|aRIGHT
   FOUR CORNER ARROWS CIRCLING ANTICLOCKWISE|RIGHTWARDS BLACK ARROW
   2B97:SYMBOL FOR TYPE A ELECTRONICS|THREE-D TOP-LIGHTED LEFTWARDS EQUILATERAL ARROWHEAD
   bRIGHT-LIGHTED UPWARDS EQUILATERAL ARROWHEAD|bTOP-LIGHTED RIGHTWARDS EQUILATERAL ARROWHEAD
   bLEFT-LIGHTED DOWNWARDS EQUILATERAL ARROWHEAD|BLACK LEFTWARDS EQUILATERAL ARROWHEAD
   aUPWARDS EQUILATERAL ARROWHEAD|aRIGHTWARDS EQUILATERAL ARROWHEAD|aDOWNWARDS EQUILATERAL ARROWHEAD
   DOWNWARDS TRIANGLE-HEADED ARROW WITH LONG TIP LEFTWARDS|gRIGHTWARDS
   UPWARDS TRIANGLE-HEADED ARROW WITH LONG TIP LEFTWARDS|gRIGHTWARDS
   LEFTWARDS TRIANGLE-HEADED ARROW WITH LONG TIP UPWARDS
   RIGHTWARDS TRIANGLE-HEADED ARROW WITH LONG TIP UPWARDS
   LEFTWARDS TRIANGLE-HEADED ARROW WITH LONG TIP DOWNWARDS
   RIGHTWARDS TRIANGLE-HEADED ARROW WITH LONG TIP DOWNWARDS
   BLACK CURVED DOWNWARDS AND LEFTWARDS ARROW|dRIGHTWARDS ARROW|bUPWARDS AND LEFTWARDS ARROW
   dRIGHTWARDS ARROW|bLEFTWARDS AND UPWARDS ARROW|bRIGHTWARDS AND UPWARDS ARROW
   bLEFTWARDS AND DOWNWARDS ARROW|bRIGHTWARDS AND DOWNWARDS ARROW|RIBBON ARROW DOWN LEFT|cRIGHT
   bUP LEFT|cRIGHT|bLEFT UP|bRIGHT UP|bLEFT DOWN|bRIGHT DOWN
   UPWARDS WHITE ARROW FROM BAR WITH HORIZONTAL BAR|UP ARROWHEAD IN A RECTANGLE BOX
   OVERLAPPING WHITE SQUARES|bAND BLACK SQUARES|aBLACK SQUARES|BALLOT BOX WITH LIGHT X|CIRCLED X
   aBOLD X|BLACK SQUARE CENTRED|aDIAMOND CENTRED|TURNED BLACK PENTAGON|HORIZONTAL BLACK OCTAGON
   BLACK OCTAGON|aMEDIUM UP-POINTING TRIANGLE CENTRED|bDOWN-POINTING TRIANGLE CENTRED
   bLEFT-POINTING TRIANGLE CENTRED|bRIGHT-POINTING TRIANGLE CENTRED|NEPTUNE FORM TWO
   TOP HALF BLACK CIRCLE|BOTTOM HALF BLACK CIRCLE|LIGHT FOUR POINTED BLACK CUSP
   ROTATED LIGHT FOUR POINTED BLACK CUSP|WHITE FOUR POINTED CUSP|ROTATED WHITE FOUR POINTED CUSP
   SQUARE POSITION INDICATOR|UNCERTAINTY SIGN|GROUP MARK|PLUTO FORM TWO|bTHREE|bFOUR|bFIVE
   TRANSPLUTO|PROSERPINA|ASTRAEA|HYGIEA|PHOLUS|NESSUS|WHITE MOON SELENA|BLACK DIAMOND ON CROSS
   TRUE LIGHT MOON ARTA|CUPIDO|HADES|ZEUS|KRONOS|APOLLON|ADMETOS|VULCANUS|POSEIDON
   LEFT HALF BLACK STAR|RIGHT HALF BLACK STAR|STAR WITH LEFT HALF BLACK|bRIGHT HALF BLACK
   LEFTWARDS TWO-HEADED ARROW WITH TRIANGLE ARROWHEADS
   UPWARDS TWO-HEADED ARROW WITH TRIANGLE ARROWHEADS
   RIGHTWARDS TWO-HEADED ARROW WITH TRIANGLE ARROWHEADS
   DOWNWARDS TWO-HEADED ARROW WITH TRIANGLE ARROWHEADS|ERIS FORM ONE|bTWO|SEDNA
   RUSSIAN ASTROLOGICAL SYMBOL VIGINTILE|cNOVILE|cQUINTILE|cBINOVILE|cSENTAGON|cTREDECILE
   EQUALS SIGN WITH INFINITY BELOW|UNITED SYMBOL|SEPARATED SYMBOL|DOUBLED SYMBOL|PASSED SYMBOL
   REVERSED RIGHT ANGLE|HELLSCHREIBER PAUSE SYMBOL|GLAGOLITIC CAPITAL LETTER AZU|cBUKY|cVEDE
   cGLAGOLI|cDOBRO|cYESTU|cZHIVETE|cDZELO|cZEMLJA|cIZHE|cINITIAL IZHE|cI|cDJERVI|cKAKO|cLJUDIJE
   cMYSLITE|cNASHI|cONU|cPOKOJI|cRITSI|cSLOVO|cTVRIDO|cUKU|cFRITU|cHERU|cOTU|cPE|cSHTA|cTSI|cCHRIVI
   cSHA|cYERU|cYERI|cYATI|cSPIDERY HA|cYU|cSMALL YUS|dYUS WITH TAIL|cYO|cIOTATED SMALL YUS|cBIG YUS
   cIOTATED BIG YUS|cFITA|cIZHITSA|cSHTAPIC|cTROKUTASTI A|cLATINATE MYSLITE|cCAUDATE CHRIVI
   aSMALL LETTER AZU|cBUKY|cVEDE|cGLAGOLI|cDOBRO|cYESTU|cZHIVETE|cDZELO|cZEMLJA|cIZHE|cINITIAL IZHE
   cI|cDJERVI|cKAKO|cLJUDIJE|cMYSLITE|cNASHI|cONU|cPOKOJI|cRITSI|cSLOVO|cTVRIDO|cUKU|cFRITU|cHERU
   cOTU|cPE|cSHTA|cTSI|cCHRIVI|cSHA|cYERU|cYERI|cYATI|cSPIDERY HA|cYU|cSMALL YUS|dYUS WITH TAIL|cYO
   cIOTATED SMALL YUS|cBIG YUS|cIOTATED BIG YUS|cFITA|cIZHITSA|cSHTAPIC|cTROKUTASTI A
   cLATINATE MYSLITE|cCAUDATE CHRIVI|LATIN CAPITAL LETTER L WITH DOUBLE BAR
   aSMALL LETTER L WITH DOUBLE BAR|aCAPITAL LETTER L WITH MIDDLE TILDE|cP WITH STROKE|cR WITH TAIL
   aSMALL LETTER A WITH STROKE|cT WITH DIAGONAL STROKE|aCAPITAL LETTER H WITH DESCENDER
   aSMALL LETTER H WITH DESCENDER|aCAPITAL LETTER K WITH DESCENDER|aSMALL LETTER K WITH DESCENDER
   aCAPITAL LETTER Z WITH DESCENDER|aSMALL LETTER Z WITH DESCENDER|aCAPITAL LETTER ALPHA
   cM WITH HOOK|cTURNED A|dALPHA|aSMALL LETTER V WITH RIGHT HOOK|aCAPITAL LETTER W WITH HOOK
   aSMALL LETTER W WITH HOOK|cV WITH CURL|aCAPITAL LETTER HALF H|aSMALL LETTER HALF H|cTAILLESS PHI
   cE WITH NOTCH|cTURNED R WITH TAIL|cO WITH LOW RING INSIDE|aLETTER SMALL CAPITAL TURNED E
   aSUBSCRIPT SMALL LETTER J|MODIFIER LETTER CAPITAL V|LATIN CAPITAL LETTER S WITH SWASH TAIL
   cZ WITH SWASH TAIL|COPTIC CAPITAL LETTER ALFA|aSMALL LETTER ALFA|aCAPITAL LETTER VIDA
   aSMALL LETTER VIDA|aCAPITAL LETTER GAMMA|aSMALL LETTER GAMMA|aCAPITAL LETTER DALDA
   aSMALL LETTER DALDA|aCAPITAL LETTER EIE|aSMALL LETTER EIE|aCAPITAL LETTER SOU|aSMALL LETTER SOU
   aCAPITAL LETTER ZATA|aSMALL LETTER ZATA|aCAPITAL LETTER HATE|aSMALL LETTER HATE
   aCAPITAL LETTER THETHE|aSMALL LETTER THETHE|aCAPITAL LETTER IAUDA|aSMALL LETTER IAUDA
   aCAPITAL LETTER KAPA|aSMALL LETTER KAPA|aCAPITAL LETTER LAULA|aSMALL LETTER LAULA
   aCAPITAL LETTER MI|aSMALL LETTER MI|aCAPITAL LETTER NI|aSMALL LETTER NI|aCAPITAL LETTER KSI
   aSMALL LETTER KSI|aCAPITAL LETTER O|aSMALL LETTER O|aCAPITAL LETTER PI|aSMALL LETTER PI
   aCAPITAL LETTER RO|aSMALL LETTER RO|aCAPITAL LETTER SIMA|aSMALL LETTER SIMA|aCAPITAL LETTER TAU
   aSMALL LETTER TAU|aCAPITAL LETTER UA|aSMALL LETTER UA|aCAPITAL LETTER FI|aSMALL LETTER FI
   aCAPITAL LETTER KHI|aSMALL LETTER KHI|aCAPITAL LETTER PSI|aSMALL LETTER PSI|aCAPITAL LETTER OOU
   aSMALL LETTER OOU|aCAPITAL LETTER DIALECT-P ALEF|aSMALL LETTER DIALECT-P ALEF
   aCAPITAL LETTER OLD COPTIC AIN|aSMALL LETTER OLD COPTIC AIN|aCAPITAL LETTER CRYPTOGRAMMIC EIE
   aSMALL LETTER CRYPTOGRAMMIC EIE|aCAPITAL LETTER DIALECT-P KAPA|aSMALL LETTER DIALECT-P KAPA
   aCAPITAL LETTER DIALECT-P NI|aSMALL LETTER DIALECT-P NI|aCAPITAL LETTER CRYPTOGRAMMIC NI
   aSMALL LETTER CRYPTOGRAMMIC NI|aCAPITAL LETTER OLD COPTIC OOU|aSMALL LETTER OLD COPTIC OOU
   aCAPITAL LETTER SAMPI|aSMALL LETTER SAMPI|aCAPITAL LETTER CROSSED SHEI|aSMALL LETTER CROSSED SHEI
   aCAPITAL LETTER OLD COPTIC SHEI|aSMALL LETTER OLD COPTIC SHEI|aCAPITAL LETTER OLD COPTIC ESH
   aSMALL LETTER OLD COPTIC ESH|aCAPITAL LETTER AKHMIMIC KHEI|aSMALL LETTER AKHMIMIC KHEI
   aCAPITAL LETTER DIALECT-P HORI|aSMALL LETTER DIALECT-P HORI|aCAPITAL LETTER OLD COPTIC HORI
   aSMALL LETTER OLD COPTIC HORI|aCAPITAL LETTER OLD COPTIC HA|aSMALL LETTER OLD COPTIC HA
   aCAPITAL LETTER L-SHAPED HA|aSMALL LETTER L-SHAPED HA|aCAPITAL LETTER OLD COPTIC HEI
   aSMALL LETTER OLD COPTIC HEI|aCAPITAL LETTER OLD COPTIC HAT|aSMALL LETTER OLD COPTIC HAT
   aCAPITAL LETTER OLD COPTIC GANGIA|aSMALL LETTER OLD COPTIC GANGIA|aCAPITAL LETTER OLD COPTIC DJA
   aSMALL LETTER OLD COPTIC DJA|aCAPITAL LETTER OLD COPTIC SHIMA|aSMALL LETTER OLD COPTIC SHIMA
   aCAPITAL LETTER OLD NUBIAN SHIMA|aSMALL LETTER OLD NUBIAN SHIMA|aCAPITAL LETTER OLD NUBIAN NGI
   aSMALL LETTER OLD NUBIAN NGI|aCAPITAL LETTER OLD NUBIAN NYI|aSMALL LETTER OLD NUBIAN NYI
   aCAPITAL LETTER OLD NUBIAN WAU|aSMALL LETTER OLD NUBIAN WAU|aSYMBOL KAI|bMI RO|bPI RO|bSTAUROS
   bTAU RO|bKHI RO|bSHIMA SIMA|aCAPITAL LETTER CRYPTOGRAMMIC SHEI|aSMALL LETTER CRYPTOGRAMMIC SHEI
   aCAPITAL LETTER CRYPTOGRAMMIC GANGIA|aSMALL LETTER CRYPTOGRAMMIC GANGIA|aCOMBINING NI ABOVE
   bSPIRITUS ASPER|cLENIS|aCAPITAL LETTER BOHAIRIC KHEI|aSMALL LETTER BOHAIRIC KHEI
   2CF9:aOLD NUBIAN FULL STOP|cDIRECT QUESTION MARK|cINDIRECT QUESTION MARK|cVERSE DIVIDER
   aFRACTION ONE HALF|aFULL STOP|aMORPHOLOGICAL DIVIDER|GEORGIAN SMALL LETTER AN|cBAN|cGAN|cDON|cEN
   cVIN|cZEN|cTAN|cIN|cKAN|cLAS|cMAN|cNAR|cON|cPAR|cZHAR|cRAE|cSAN|cTAR|cUN|cPHAR|cKHAR|cGHAN|cQAR
   cSHIN|cCHIN|cCAN|cJIL|cCIL|cCHAR|cXAN|cJHAN|cHAE|cHE|cHIE|cWE|cHAR|cHOE|2D27:cYN|2D2D:cAEN
   2D30:TIFINAGH LETTER YA|bYAB|bYABH|bYAG|bYAGHH|bBERBER ACADEMY YAJ|bYAJ|bYAD|bYADH|bYADD|bYADDH
   bYEY|bYAF|bYAK|bTUAREG YAK|bYAKHH|bYAH|bBERBER ACADEMY YAH|bTUAREG YAH|bYAHH|bYAA|bYAKH
   bTUAREG YAKH|bYAQ|bTUAREG YAQ|bYI|bYAZH|bAHAGGAR YAZH|bTUAREG YAZH|bYAL|bYAM|bYAN|bTUAREG YAGN
   cYANG|bYAP|bYU|bYAR|bYARR|bYAGH|bTUAREG YAGH|bAYER YAGH|bYAS|bYASS|bYASH|bYAT|bYATH|bYACH|bYATT
   bYAV|bYAW|bYAY|bYAZ|bTAWELLEMET YAZ|bYAZZ|bYE|bYO|2D6F:aMODIFIER LETTER LABIALIZATION MARK
   aSEPARATOR MARK|2D7F:aCONSONANT JOINER|ETHIOPIC SYLLABLE LOA|bMOA|bROA|bSOA|bSHOA|bBOA|bTOA|bCOA
   bNOA|bNYOA|bGLOTTAL OA|bZOA|bDOA|bDDOA|bJOA|bTHOA|bCHOA|bPHOA|bPOA|bGGWA|bGGWI|bGGWEE|bGGWE
   2DA0:bSSA|bSSU|bSSI|bSSAA|bSSEE|bSSE|bSSO|2DA8:bCCA|bCCU|bCCI|bCCAA|bCCEE|bCCE|bCCO|2DB0:bZZA
   bZZU|bZZI|bZZAA|bZZEE|bZZE|bZZO|2DB8:bCCHA|bCCHU|bCCHI|bCCHAA|bCCHEE|bCCHE|bCCHO|2DC0:bQYA|bQYU
   bQYI|bQYAA|bQYEE|bQYE|bQYO|2DC8:bKYA|bKYU|bKYI|bKYAA|bKYEE|bKYE|bKYO|2DD0:bXYA|bXYU|bXYI|bXYAA
   bXYEE|bXYE|bXYO|2DD8:bGYA|bGYU|bGYI|bGYAA|bGYEE|bGYE|bGYO|2DE0:COMBINING CYRILLIC LETTER BE|cVE
   cGHE|cDE|cZHE|cZE|cKA|cEL|cEM|cEN|cO|cPE|cER|cES|cTE|cHA|cTSE|cCHE|cSHA|cSHCHA|cFITA|cES-TE|cA
   cIE|cDJERV|cMONOGRAPH UK|cYAT|cYU|cIOTIFIED A|cLITTLE YUS|cBIG YUS|cIOTIFIED BIG YUS
   RIGHT ANGLE SUBSTITUTION MARKER|bDOTTED SUBSTITUTION MARKER|LEFT SUBSTITUTION BRACKET
   RIGHT SUBSTITUTION BRACKET|LEFT DOTTED SUBSTITUTION BRACKET|RIGHT DOTTED SUBSTITUTION BRACKET
   RAISED INTERPOLATION MARKER|aDOTTED INTERPOLATION MARKER|DOTTED TRANSPOSITION MARKER
   LEFT TRANSPOSITION BRACKET|RIGHT TRANSPOSITION BRACKET|RAISED SQUARE|LEFT RAISED OMISSION BRACKET
   RIGHT RAISED OMISSION BRACKET|EDITORIAL CORONIS|PARAGRAPHOS|FORKED PARAGRAPHOS
   REVERSED FORKED PARAGRAPHOS|HYPODIASTOLE|DOTTED OBELOS|DOWNWARDS ANCORA|UPWARDS ANCORA
   DOTTED RIGHT-POINTING ANGLE|DOUBLE OBLIQUE HYPHEN|INVERTED INTERROBANG|PALM BRANCH
   HYPHEN WITH DIAERESIS|TILDE WITH RING ABOVE|LEFT LOW PARAPHRASE BRACKET
   RIGHT LOW PARAPHRASE BRACKET|TILDE WITH DOT ABOVE|cBELOW|LEFT VERTICAL BAR WITH QUILL
   RIGHT VERTICAL BAR WITH QUILL|TOP LEFT HALF BRACKET|aRIGHT HALF BRACKET|BOTTOM LEFT HALF BRACKET
   aRIGHT HALF BRACKET|LEFT SIDEWAYS U BRACKET|RIGHT SIDEWAYS U BRACKET|LEFT DOUBLE PARENTHESIS
   RIGHT DOUBLE PARENTHESIS|TWO DOTS OVER ONE DOT PUNCTUATION|ONE DOT OVER TWO DOTS PUNCTUATION
   SQUARED FOUR DOT PUNCTUATION|FIVE DOT MARK|REVERSED QUESTION MARK|VERTICAL TILDE|RING POINT
   WORD SEPARATOR MIDDLE DOT|TURNED COMMA|RAISED DOT|aCOMMA|TURNED SEMICOLON|DAGGER WITH LEFT GUARD
   bRIGHT GUARD|TURNED DAGGER|TOP HALF SECTION SIGN|TWO-EM DASH|THREE-EM DASH|STENOGRAPHIC FULL STOP
   VERTICAL SIX DOTS|WIGGLY VERTICAL LINE|CAPITULUM|DOUBLE HYPHEN|REVERSED COMMA
   DOUBLE LOW-REVERSED-9 QUOTATION MARK|DASH WITH LEFT UPTURN|DOUBLE SUSPENSION MARK
   INVERTED LOW KAVYKA|bKAVYKA WITH KAVYKA ABOVE|LOW KAVYKA|aKAVYKA WITH DOT|DOUBLE STACKED COMMA
   DOTTED SOLIDUS|TRIPLE DAGGER|MEDIEVAL COMMA|PARAGRAPHUS MARK|PUNCTUS ELEVATUS MARK
   CORNISH VERSE DIVIDER|CROSS PATTY WITH RIGHT CROSSBAR|cLEFT CROSSBAR|TIRONIAN SIGN CAPITAL ET
   MEDIEVAL EXCLAMATION MARK|aQUESTION MARK|LEFT SQUARE BRACKET WITH STROKE
   RIGHT SQUARE BRACKET WITH STROKE|LEFT SQUARE BRACKET WITH DOUBLE STROKE
   RIGHT SQUARE BRACKET WITH DOUBLE STROKE|TOP HALF LEFT PARENTHESIS|bRIGHT PARENTHESIS
   BOTTOM HALF LEFT PARENTHESIS|bRIGHT PARENTHESIS|OBLIQUE HYPHEN|2E80:CJK RADICAL REPEAT|bCLIFF
   bSECOND ONE|cTWO|cTHREE|bPERSON|bBOX|bTABLE|bKNIFE ONE|cTWO|bDIVINATION|bSEAL|bSMALL ONE|cTWO
   bLAME ONE|cTWO|cTHREE|cFOUR|bSNAKE|bTHREAD|bSNOUT ONE|cTWO|bHEART ONE|cTWO|bHAND|bRAP|2E9B:bCHOKE
   bSUN|bMOON|bDEATH|bMOTHER|bCIVILIAN|bWATER ONE|cTWO|bFIRE|bPAW ONE|cTWO
   bSIMPLIFIED HALF TREE TRUNK|bCOW|bDOG|bJADE|bBOLT OF CLOTH|bEYE|bSPIRIT ONE|cTWO|bBAMBOO|bSILK
   bC-SIMPLIFIED SILK|bNET ONE|cTWO|cTHREE|cFOUR|bMESH|bSHEEP|bRAM|bEWE|bOLD|bBRUSH ONE|cTWO|bMEAT
   bMORTAR|bGRASS ONE|cTWO|cTHREE|bTIGER|bCLOTHES|bWEST ONE|cTWO|bC-SIMPLIFIED SEE|bSIMPLIFIED HORN
   bHORN|bC-SIMPLIFIED SPEECH|dSHELL|bFOOT|bC-SIMPLIFIED CART|bSIMPLIFIED WALK|bWALK ONE|cTWO|bCITY
   bC-SIMPLIFIED GOLD|bLONG ONE|cTWO|bC-SIMPLIFIED LONG|dGATE|bMOUND ONE|cTWO|bRAIN|bBLUE
   bC-SIMPLIFIED TANNED LEATHER|dLEAF|dWIND|dFLY|bEAT ONE|cTWO|cTHREE|bC-SIMPLIFIED EAT|bHEAD
   bC-SIMPLIFIED HORSE|bBONE|bGHOST|bC-SIMPLIFIED FISH|dBIRD|dSALT|bSIMPLIFIED WHEAT|cYELLOW
   bC-SIMPLIFIED FROG|bJ-SIMPLIFIED EVEN|bC-SIMPLIFIED EVEN|bJ-SIMPLIFIED TOOTH|bC-SIMPLIFIED TOOTH
   bJ-SIMPLIFIED DRAGON|bC-SIMPLIFIED DRAGON|bTURTLE|bJ-SIMPLIFIED TURTLE|bC-SIMPLIFIED TURTLE
   2F00:KANGXI RADICAL ONE|bLINE|bDOT|bSLASH|bSECOND|bHOOK|bTWO|bLID|bMAN|bLEGS|bENTER|bEIGHT
   bDOWN BOX|bCOVER|bICE|bTABLE|bOPEN BOX|bKNIFE|bPOWER|bWRAP|bSPOON|bRIGHT OPEN BOX
   bHIDING ENCLOSURE|bTEN|bDIVINATION|bSEAL|bCLIFF|bPRIVATE|bAGAIN|bMOUTH|bENCLOSURE|bEARTH|bSCHOLAR
   bGO|bGO SLOWLY|bEVENING|bBIG|bWOMAN|bCHILD|bROOF|bINCH|bSMALL|bLAME|bCORPSE|bSPROUT|bMOUNTAIN
   bRIVER|bWORK|bONESELF|bTURBAN|bDRY|bSHORT THREAD|bDOTTED CLIFF|bLONG STRIDE|bTWO HANDS|bSHOOT
   bBOW|bSNOUT|bBRISTLE|bSTEP|bHEART|bHALBERD|bDOOR|bHAND|bBRANCH|bRAP|bSCRIPT|bDIPPER|bAXE|bSQUARE
   bNOT|bSUN|bSAY|bMOON|bTREE|bLACK|bSTOP|bDEATH|bWEAPON|bDO NOT|bCOMPARE|bFUR|bCLAN|bSTEAM|bWATER
   bFIRE|bCLAW|bFATHER|bDOUBLE X|bHALF TREE TRUNK|bSLICE|bFANG|bCOW|bDOG|bPROFOUND|bJADE|bMELON
   bTILE|bSWEET|bLIFE|bUSE|bFIELD|bBOLT OF CLOTH|bSICKNESS|bDOTTED TENT|bWHITE|bSKIN|bDISH|bEYE
   bSPEAR|bARROW|bSTONE|bSPIRIT|bTRACK|bGRAIN|bCAVE|bSTAND|bBAMBOO|bRICE|bSILK|bJAR|bNET|bSHEEP
   bFEATHER|bOLD|bAND|bPLOW|bEAR|bBRUSH|bMEAT|bMINISTER|bSELF|bARRIVE|bMORTAR|bTONGUE|bOPPOSE|bBOAT
   bSTOPPING|bCOLOR|bGRASS|bTIGER|bINSECT|bBLOOD|bWALK ENCLOSURE|bCLOTHES|bWEST|bSEE|bHORN|bSPEECH
   bVALLEY|bBEAN|bPIG|bBADGER|bSHELL|bRED|bRUN|bFOOT|bBODY|bCART|bBITTER|bMORNING|bWALK|bCITY|bWINE
   bDISTINGUISH|bVILLAGE|bGOLD|bLONG|bGATE|bMOUND|bSLAVE|bSHORT TAILED BIRD|bRAIN|bBLUE|bWRONG|bFACE
   bLEATHER|bTANNED LEATHER|bLEEK|bSOUND|bLEAF|bWIND|bFLY|bEAT|bHEAD|bFRAGRANT|bHORSE|bBONE|bTALL
   bHAIR|bFIGHT|bSACRIFICIAL WINE|bCAULDRON|bGHOST|bFISH|bBIRD|bSALT|bDEER|bWHEAT|bHEMP|bYELLOW
   bMILLET|bBLACK|bEMBROIDERY|bFROG|bTRIPOD|bDRUM|bRAT|bNOSE|bEVEN|bTOOTH|bDRAGON|bTURTLE|bFLUTE
   2FF0:IDEOGRAPHIC DESCRIPTION CHARACTER LEFT TO RIGHT|cABOVE TO BELOW|cLEFT TO MIDDLE AND RIGHT
   cABOVE TO MIDDLE AND BELOW|cFULL SURROUND|cSURROUND FROM ABOVE|eBELOW|eLEFT|eUPPER LEFT|fRIGHT
   eLOWER LEFT|cOVERLAID|3000:aSPACE|aCOMMA|aFULL STOP|DITTO MARK
   JAPANESE INDUSTRIAL STANDARD SYMBOL|IDEOGRAPHIC ITERATION MARK|aCLOSING MARK|aNUMBER ZERO
   LEFT ANGLE BRACKET|RIGHT ANGLE BRACKET|LEFT DOUBLE ANGLE BRACKET|RIGHT DOUBLE ANGLE BRACKET
   LEFT CORNER BRACKET|RIGHT CORNER BRACKET|LEFT WHITE CORNER BRACKET|RIGHT WHITE CORNER BRACKET
   LEFT BLACK LENTICULAR BRACKET|RIGHT BLACK LENTICULAR BRACKET|POSTAL MARK|GETA MARK
   LEFT TORTOISE SHELL BRACKET|RIGHT TORTOISE SHELL BRACKET|LEFT WHITE LENTICULAR BRACKET
   RIGHT WHITE LENTICULAR BRACKET|LEFT WHITE TORTOISE SHELL BRACKET
   RIGHT WHITE TORTOISE SHELL BRACKET|LEFT WHITE SQUARE BRACKET|RIGHT WHITE SQUARE BRACKET|WAVE DASH
   REVERSED DOUBLE PRIME QUOTATION MARK|DOUBLE PRIME QUOTATION MARK|LOW DOUBLE PRIME QUOTATION MARK
   POSTAL MARK FACE|HANGZHOU NUMERAL ONE|bTWO|bTHREE|bFOUR|bFIVE|bSIX|bSEVEN|bEIGHT|bNINE
   IDEOGRAPHIC LEVEL TONE MARK|aRISING TONE MARK|aDEPARTING TONE MARK|aENTERING TONE MARK
   HANGUL SINGLE DOT TONE MARK|aDOUBLE DOT TONE MARK|WAVY DASH|VERTICAL KANA REPEAT MARK
   cWITH VOICED SOUND MARK|cMARK UPPER HALF|cWITH VOICED SOUND MARK UPPER HALF|cMARK LOWER HALF
   CIRCLED POSTAL MARK|IDEOGRAPHIC TELEGRAPH LINE FEED SEPARATOR SYMBOL|HANGZHOU NUMERAL TEN|bTWENTY
   bTHIRTY|VERTICAL IDEOGRAPHIC ITERATION MARK|MASU MARK|PART ALTERNATION MARK
   IDEOGRAPHIC VARIATION INDICATOR|aHALF FILL SPACE"

end Actionary.Text
