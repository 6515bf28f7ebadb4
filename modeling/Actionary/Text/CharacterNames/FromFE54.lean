/-!
# Names of the characters from 0xFE54 to 0x12543

Each entry names the character after the one before it, or the one whose code point is written in
front of a colon. A small letter stands for as many words of the name before, counted from `a`.
-/

namespace Actionary.Text

/-- Names of the characters from 0xFE54 to 0x12543. -/
def charactersFromFE54 : String :=
  "FE54:SMALL SEMICOLON|aCOLON|aQUESTION MARK|aEXCLAMATION MARK|aEM DASH|aLEFT PARENTHESIS
   aRIGHT PARENTHESIS|aLEFT CURLY BRACKET|aRIGHT CURLY BRACKET|aLEFT TORTOISE SHELL BRACKET
   aRIGHT TORTOISE SHELL BRACKET|aNUMBER SIGN|aAMPERSAND|aASTERISK|aPLUS SIGN|aHYPHEN-MINUS
   aLESS-THAN SIGN|aGREATER-THAN SIGN|aEQUALS SIGN|FE68:aREVERSE SOLIDUS|aDOLLAR SIGN|aPERCENT SIGN
   aCOMMERCIAL AT|FE70:ARABIC FATHATAN ISOLATED FORM|aTATWEEL WITH FATHATAN ABOVE
   aDAMMATAN ISOLATED FORM|aTAIL FRAGMENT|aKASRATAN ISOLATED FORM|FE76:aFATHA ISOLATED FORM
   bMEDIAL FORM|aDAMMA ISOLATED FORM|bMEDIAL FORM|aKASRA ISOLATED FORM|bMEDIAL FORM
   aSHADDA ISOLATED FORM|bMEDIAL FORM|aSUKUN ISOLATED FORM|bMEDIAL FORM|aLETTER HAMZA ISOLATED FORM
   bALEF WITH MADDA ABOVE ISOLATED FORM|fFINAL FORM|dHAMZA ABOVE ISOLATED FORM|fFINAL FORM
   bWAW WITH HAMZA ABOVE ISOLATED FORM|fFINAL FORM|bALEF WITH HAMZA BELOW ISOLATED FORM|fFINAL FORM
   bYEH WITH HAMZA ABOVE ISOLATED FORM|fFINAL FORM|fINITIAL FORM|fMEDIAL FORM|bALEF ISOLATED FORM
   cFINAL FORM|bBEH ISOLATED FORM|cFINAL FORM|cINITIAL FORM|cMEDIAL FORM|bTEH MARBUTA ISOLATED FORM
   dFINAL FORM|cISOLATED FORM|cFINAL FORM|cINITIAL FORM|cMEDIAL FORM|bTHEH ISOLATED FORM|cFINAL FORM
   cINITIAL FORM|cMEDIAL FORM|bJEEM ISOLATED FORM|cFINAL FORM|cINITIAL FORM|cMEDIAL FORM
   bHAH ISOLATED FORM|cFINAL FORM|cINITIAL FORM|cMEDIAL FORM|bKHAH ISOLATED FORM|cFINAL FORM
   cINITIAL FORM|cMEDIAL FORM|bDAL ISOLATED FORM|cFINAL FORM|bTHAL ISOLATED FORM|cFINAL FORM
   bREH ISOLATED FORM|cFINAL FORM|bZAIN ISOLATED FORM|cFINAL FORM|bSEEN ISOLATED FORM|cFINAL FORM
   cINITIAL FORM|cMEDIAL FORM|bSHEEN ISOLATED FORM|cFINAL FORM|cINITIAL FORM|cMEDIAL FORM
   bSAD ISOLATED FORM|cFINAL FORM|cINITIAL FORM|cMEDIAL FORM|bDAD ISOLATED FORM|cFINAL FORM
   cINITIAL FORM|cMEDIAL FORM|bTAH ISOLATED FORM|cFINAL FORM|cINITIAL FORM|cMEDIAL FORM
   bZAH ISOLATED FORM|cFINAL FORM|cINITIAL FORM|cMEDIAL FORM|bAIN ISOLATED FORM|cFINAL FORM
   cINITIAL FORM|cMEDIAL FORM|bGHAIN ISOLATED FORM|cFINAL FORM|cINITIAL FORM|cMEDIAL FORM
   bFEH ISOLATED FORM|cFINAL FORM|cINITIAL FORM|cMEDIAL FORM|bQAF ISOLATED FORM|cFINAL FORM
   cINITIAL FORM|cMEDIAL FORM|bKAF ISOLATED FORM|cFINAL FORM|cINITIAL FORM|cMEDIAL FORM
   bLAM ISOLATED FORM|cFINAL FORM|cINITIAL FORM|cMEDIAL FORM|bMEEM ISOLATED FORM|cFINAL FORM
   cINITIAL FORM|cMEDIAL FORM|bNOON ISOLATED FORM|cFINAL FORM|cINITIAL FORM|cMEDIAL FORM
   bHEH ISOLATED FORM|cFINAL FORM|cINITIAL FORM|cMEDIAL FORM|bWAW ISOLATED FORM|cFINAL FORM
   bALEF MAKSURA ISOLATED FORM|dFINAL FORM|bYEH ISOLATED FORM|cFINAL FORM|cINITIAL FORM|cMEDIAL FORM
   aLIGATURE LAM WITH ALEF WITH MADDA ABOVE ISOLATED FORM|hFINAL FORM|fHAMZA ABOVE ISOLATED FORM
   hFINAL FORM|gBELOW ISOLATED FORM|hFINAL FORM|eISOLATED FORM|eFINAL FORM
   FEFF:ZERO WIDTH NO-BREAK SPACE|FF01:FULLWIDTH EXCLAMATION MARK|aQUOTATION MARK|aNUMBER SIGN
   aDOLLAR SIGN|aPERCENT SIGN|aAMPERSAND|aAPOSTROPHE|aLEFT PARENTHESIS|aRIGHT PARENTHESIS|aASTERISK
   aPLUS SIGN|aCOMMA|aHYPHEN-MINUS|aFULL STOP|aSOLIDUS|aDIGIT ZERO|bONE|bTWO|bTHREE|bFOUR|bFIVE|bSIX
   bSEVEN|bEIGHT|bNINE|aCOLON|aSEMICOLON|aLESS-THAN SIGN|aEQUALS SIGN|aGREATER-THAN SIGN
   aQUESTION MARK|aCOMMERCIAL AT|aLATIN CAPITAL LETTER A|dB|dC|dD|dE|dF|dG|dH|dI|dJ|dK|dL|dM|dN|dO
   dP|dQ|dR|dS|dT|dU|dV|dW|dX|dY|dZ|aLEFT SQUARE BRACKET|aREVERSE SOLIDUS|aRIGHT SQUARE BRACKET
   aCIRCUMFLEX ACCENT|aLOW LINE|aGRAVE ACCENT|aLATIN SMALL LETTER A|dB|dC|dD|dE|dF|dG|dH|dI|dJ|dK|dL
   dM|dN|dO|dP|dQ|dR|dS|dT|dU|dV|dW|dX|dY|dZ|aLEFT CURLY BRACKET|aVERTICAL LINE|aRIGHT CURLY BRACKET
   aTILDE|aLEFT WHITE PARENTHESIS|aRIGHT WHITE PARENTHESIS|HALFWIDTH IDEOGRAPHIC FULL STOP
   aLEFT CORNER BRACKET|aRIGHT CORNER BRACKET|aIDEOGRAPHIC COMMA|aKATAKANA MIDDLE DOT|bLETTER WO
   cSMALL A|dI|dU|dE|dO|dYA|dYU|dYO|dTU|aKATAKANA-HIRAGANA PROLONGED SOUND MARK|aKATAKANA LETTER A
   cI|cU|cE|cO|cKA|cKI|cKU|cKE|cKO|cSA|cSI|cSU|cSE|cSO|cTA|cTI|cTU|cTE|cTO|cNA|cNI|cNU|cNE|cNO|cHA
   cHI|cHU|cHE|cHO|cMA|cMI|cMU|cME|cMO|cYA|cYU|cYO|cRA|cRI|cRU|cRE|cRO|cWA|cN|bVOICED SOUND MARK
   bSEMI-VOICED SOUND MARK|aHANGUL FILLER|bLETTER KIYEOK|cSSANGKIYEOK|cKIYEOK-SIOS|cNIEUN
   cNIEUN-CIEUC|dHIEUH|cTIKEUT|cSSANGTIKEUT|cRIEUL|cRIEUL-KIYEOK|dMIEUM|dPIEUP|dSIOS|dTHIEUTH
   dPHIEUPH|dHIEUH|cMIEUM|cPIEUP|cSSANGPIEUP|cPIEUP-SIOS|cSIOS|cSSANGSIOS|cIEUNG|cCIEUC|cSSANGCIEUC
   cCHIEUCH|cKHIEUKH|cTHIEUTH|cPHIEUPH|cHIEUH|FFC2:cA|cAE|cYA|cYAE|cEO|cE|FFCA:cYEO|cYE|cO|cWA|cWAE
   cOE|FFD2:cYO|cU|cWEO|cWE|cWI|cYU|FFDA:cEU|cYI|cI|FFE0:FULLWIDTH CENT SIGN|aPOUND SIGN|aNOT SIGN
   aMACRON|aBROKEN BAR|aYEN SIGN|aWON SIGN|FFE8:HALFWIDTH FORMS LIGHT VERTICAL|aLEFTWARDS ARROW
   aUPWARDS ARROW|aRIGHTWARDS ARROW|aDOWNWARDS ARROW|aBLACK SQUARE|aWHITE CIRCLE
   FFF9:INTERLINEAR ANNOTATION ANCHOR|bSEPARATOR|bTERMINATOR|OBJECT REPLACEMENT CHARACTER
   REPLACEMENT CHARACTER|10000:LINEAR B SYLLABLE B008 A|cB038 E|cB028 I|cB061 O|cB010 U|cB001 DA
   cB045 DE|cB007 DI|cB014 DO|cB051 DU|cB057 JA|cB046 JE|1000D:cB036 JO|cB065 JU|cB077 KA|cB044 KE
   cB067 KI|cB070 KO|cB081 KU|cB080 MA|cB013 ME|cB073 MI|cB015 MO|cB023 MU|cB006 NA|cB024 NE
   cB030 NI|cB052 NO|cB055 NU|cB003 PA|cB072 PE|cB039 PI|cB011 PO|cB050 PU|cB016 QA|cB078 QE
   cB021 QI|cB032 QO|10028:cB060 RA|cB027 RE|cB053 RI|cB002 RO|cB026 RU|cB031 SA|cB009 SE|cB041 SI
   cB012 SO|cB058 SU|cB059 TA|cB004 TE|cB037 TI|cB005 TO|cB069 TU|cB054 WA|cB075 WE|cB040 WI
   cB042 WO|1003C:cB017 ZA|cB074 ZE|1003F:cB020 ZO|cB025 A2|cB043 A3|cB085 AU|cB071 DWE|cB090 DWO
   cB048 NWA|cB029 PU2|cB062 PTE|cB076 RA2|cB033 RA3|cB068 RO2|cB066 TA2|cB087 TWE|cB091 TWO
   10050:bSYMBOL B018|cB019|cB022|cB034|cB047|cB049|cB056|cB063|cB064|cB079|cB082|cB083|cB086|cB089
   10080:bIDEOGRAM B100 MAN|cB102 WOMAN|cB104 DEER|cB105 EQUID|cB105F MARE|cB105M STALLION
   cB106F EWE|cB106M RAM|cB107F SHE-GOAT|cB107M HE-GOAT|cB108F SOW|cB108M BOAR|cB109F COW
   cB109M BULL|cB120 WHEAT|cB121 BARLEY|cB122 OLIVE|cB123 SPICE|cB125 CYPERUS|bMONOGRAM B127 KAPO
   cB128 KANAKO|bIDEOGRAM B130 OIL|cB131 WINE|cB132|bMONOGRAM B133 AREPA|cB135 MERI
   bIDEOGRAM B140 BRONZE|cB141 GOLD|cB142|cB145 WOOL|cB146|cB150|cB151 HORN|cB152|cB153|cB154
   bMONOGRAM B156 TURO2|bIDEOGRAM B157|cB158|cB159 CLOTH|cB160|cB161|cB162 GARMENT|cB163 ARMOUR
   cB164|cB165|cB166|cB167|cB168|cB169|cB170|cB171|cB172|cB173 MONTH|cB174|cB176 TREE|cB177|cB178
   cB179|cB180|cB181|cB182|cB183|cB184|cB185|cB189|cB190|cB191 HELMET|cB220 FOOTSTOOL|cB225 BATHTUB
   cB230 SPEAR|cB231 ARROW|cB232|cB233 SWORD|cB234|cB236|cB240 WHEELED CHARIOT|cB241 CHARIOT
   cB242 CHARIOT FRAME|cB243 WHEEL|cB245|cB246|bMONOGRAM B247 DIPTE|bIDEOGRAM B248|cB249|cB251|cB252
   cB253|cB254 DART|cB255|cB256|cB257|cB258|cB259|cVESSEL B155|dB200|dB201|dB202|dB203|dB204|dB205
   dB206|dB207|dB208|dB209|dB210|dB211|dB212|dB213|dB214|dB215|dB216|dB217|dB218|dB219|dB221|dB222
   dB226|dB227|dB228|dB229|dB250|dB305|10100:AEGEAN WORD SEPARATOR LINE|cDOT|aCHECK MARK
   10107:aNUMBER ONE|bTWO|bTHREE|bFOUR|bFIVE|bSIX|bSEVEN|bEIGHT|bNINE|bTEN|bTWENTY|bTHIRTY|bFORTY
   bFIFTY|bSIXTY|bSEVENTY|bEIGHTY|bNINETY|bONE HUNDRED|bTWO HUNDRED|bTHREE HUNDRED|bFOUR HUNDRED
   bFIVE HUNDRED|bSIX HUNDRED|bSEVEN HUNDRED|bEIGHT HUNDRED|bNINE HUNDRED|bONE THOUSAND
   bTWO THOUSAND|bTHREE THOUSAND|bFOUR THOUSAND|bFIVE THOUSAND|bSIX THOUSAND|bSEVEN THOUSAND
   bEIGHT THOUSAND|bNINE THOUSAND|bTEN THOUSAND|bTWENTY THOUSAND|bTHIRTY THOUSAND|bFORTY THOUSAND
   bFIFTY THOUSAND|bSIXTY THOUSAND|bSEVENTY THOUSAND|bEIGHTY THOUSAND|bNINETY THOUSAND
   10137:aWEIGHT BASE UNIT|bFIRST SUBUNIT|bSECOND SUBUNIT|bTHIRD SUBUNIT|bFOURTH SUBUNIT
   aDRY MEASURE FIRST SUBUNIT|aLIQUID MEASURE FIRST SUBUNIT|aMEASURE SECOND SUBUNIT|bTHIRD SUBUNIT
   GREEK ACROPHONIC ATTIC ONE QUARTER|dHALF|dDRACHMA|cFIVE|cFIFTY|cFIVE HUNDRED|dTHOUSAND
   cFIFTY THOUSAND|cFIVE TALENTS|cTEN TALENTS|cFIFTY TALENTS|cONE HUNDRED TALENTS
   cFIVE HUNDRED TALENTS|cONE THOUSAND TALENTS|cFIVE THOUSAND TALENTS|dSTATERS|cTEN STATERS
   cFIFTY STATERS|cONE HUNDRED STATERS|cFIVE HUNDRED STATERS|cONE THOUSAND STATERS
   cTEN THOUSAND STATERS|cFIFTY THOUSAND STATERS|cTEN MNAS|bHERAEUM ONE PLETHRON|bTHESPIAN ONE
   bHERMIONIAN ONE|bEPIDAUREAN TWO|bTHESPIAN TWO|bCYRENAIC TWO DRACHMAS|bEPIDAUREAN TWO DRACHMAS
   bTROEZENIAN FIVE|cTEN|cTEN ALTERNATE FORM|bHERMIONIAN TEN|bMESSENIAN TEN|bTHESPIAN TEN|cTHIRTY
   bTROEZENIAN FIFTY|cFIFTY ALTERNATE FORM|bHERMIONIAN FIFTY|bTHESPIAN FIFTY|cONE HUNDRED
   cTHREE HUNDRED|bEPIDAUREAN FIVE HUNDRED|bTROEZENIAN FIVE HUNDRED|bTHESPIAN FIVE HUNDRED
   bCARYSTIAN FIVE HUNDRED|bNAXIAN FIVE HUNDRED|bTHESPIAN ONE THOUSAND|cFIVE THOUSAND
   bDELPHIC FIVE MNAS|bSTRATIAN FIFTY MNAS|aONE HALF SIGN|cSIGN ALTERNATE FORM|aTWO THIRDS SIGN
   aTHREE QUARTERS SIGN|aYEAR SIGN|aTALENT SIGN|aDRACHMA SIGN|aOBOL SIGN|aTWO OBOLS SIGN
   aTHREE OBOLS SIGN|aFOUR OBOLS SIGN|aFIVE OBOLS SIGN|aMETRETES SIGN|aKYATHOS BASE SIGN|aLITRA SIGN
   aOUNKIA SIGN|aXESTES SIGN|aARTABE SIGN|aAROURA SIGN|aGRAMMA SIGN|aTRYBLION BASE SIGN|aZERO SIGN
   aONE QUARTER SIGN|aSINUSOID SIGN|aINDICTION SIGN|NOMISMA SIGN|10190:ROMAN SEXTANS SIGN
   aUNCIA SIGN|aSEMUNCIA SIGN|aSEXTULA SIGN|aDIMIDIA SEXTULA SIGN|aSILIQUA SIGN|aDENARIUS SIGN
   aQUINARIUS SIGN|aSESTERTIUS SIGN|aDUPONDIUS SIGN|aAS SIGN|aCENTURIAL SIGN|ASCIA SYMBOL
   101A0:GREEK SYMBOL TAU RHO|101D0:PHAISTOS DISC SIGN PEDESTRIAN|cPLUMED HEAD|cTATTOOED HEAD
   cCAPTIVE|cCHILD|cWOMAN|cHELMET|cGAUNTLET|cTIARA|cARROW|cBOW|cSHIELD|cCLUB|cMANACLES|cMATTOCK|cSAW
   cLID|cBOOMERANG|cCARPENTRY PLANE|cDOLIUM|cCOMB|cSLING|cCOLUMN|cBEEHIVE|cSHIP|cHORN|cHIDE
   cBULLS LEG|cCAT|cRAM|cEAGLE|cDOVE|cTUNNY|cBEE|cPLANE TREE|cVINE|cPAPYRUS|cROSETTE|cLILY|cOX BACK
   cFLUTE|cGRATER|cSTRAINER|cSMALL AXE|cWAVY BAND|cCOMBINING OBLIQUE STROKE|10280:LYCIAN LETTER A|bE
   bB|bBH|bG|bD|bI|bW|bZ|bTH|bJ|bK|bQ|bL|bM|bN|bMM|bNN|bU|bP|bKK|bR|bS|bT|bTT|bAN|bEN|bH|bX
   102A0:CARIAN LETTER A|bP2|bD|bL|bUUU|bR|bLD|bA2|bQ|bB|bM|bO|bD2|bT|bSH|bSH2|bS|bC-18|bU|bNN|bX|bN
   bTT2|bP|bSS|bI|bE|bUUUU|bK|bK2|bND|bUU|bG|bG2|bST|bST2|bNG|bII|bC-39|bTT|bUUU2|bRR|bMB|bMB2|bMB3
   bMB4|bLD2|bE2|bUUU3|102E0:COPTIC EPACT THOUSANDS MARK|bDIGIT ONE|cTWO|cTHREE|cFOUR|cFIVE|cSIX
   cSEVEN|cEIGHT|cNINE|bNUMBER TEN|cTWENTY|cTHIRTY|cFORTY|cFIFTY|cSIXTY|cSEVENTY|cEIGHTY|cNINETY
   cONE HUNDRED|cTWO HUNDRED|cTHREE HUNDRED|cFOUR HUNDRED|cFIVE HUNDRED|cSIX HUNDRED|cSEVEN HUNDRED
   cEIGHT HUNDRED|cNINE HUNDRED|10300:OLD ITALIC LETTER A|cBE|cKE|cDE|cE|cVE|cZE|cHE|cTHE|cI|cKA|cEL
   cEM|cEN|cESH|cO|cPE|cSHE|cKU|cER|cES|cTE|cU|cEKS|cPHE|cKHE|cEF|cERS|cCHE|cII|cUU|cESS
   bNUMERAL ONE|cFIVE|cTEN|cFIFTY|1032D:bLETTER YE|cNORTHERN TSE|cSOUTHERN TSE|GOTHIC LETTER AHSA
   bBAIRKAN|bGIBA|bDAGS|bAIHVUS|bQAIRTHRA|bIUJA|bHAGL|bTHIUTH|bEIS|bKUSMA|bLAGUS|bMANNA|bNAUTHS|bJER
   bURUS|bPAIRTHRA|bNINETY|bRAIDA|bSAUIL|bTEIWS|bWINJA|bFAIHU|bIGGWS|bHWAIR|bOTHAL|bNINE HUNDRED
   10350:OLD PERMIC LETTER AN|cBUR|cGAI|cDOI|cE|cZHOI|cDZHOI|cZATA|cDZITA|cI|cKOKE|cLEI|cMENOE
   cNENOE|cVOOI|cPEEI|cREI|cSII|cTAI|cU|cCHERY|cSHOOI|cSHCHOOI|cYRY|cYERU|cO|cOO|cEF|cHA|cTSIU|cVER
   cYER|cYERI|cYAT|cIE|cYU|cYA|cIA|COMBINING OLD PERMIC LETTER AN|dDOI|dZATA|dNENOE|dSII
   10380:UGARITIC LETTER ALPA|bBETA|bGAMLA|bKHA|bDELTA|bHO|bWO|bZETA|bHOTA|bTET|bYOD|bKAF|bSHIN
   bLAMDA|bMEM|bDHAL|bNUN|bZU|bSAMKA|bAIN|bPU|bSADE|bQOPA|bRASHA|bTHANNA|bGHAIN|bTO|bI|bU|bSSU
   1039F:aWORD DIVIDER|OLD PERSIAN SIGN A|cI|cU|cKA|cKU|cGA|cGU|cXA|cCA|cJA|cJI|cTA|cTU|cDA|cDI|cDU
   cTHA|cPA|cBA|cFA|cNA|cNU|cMA|cMI|cMU|cYA|cVA|cVI|cRA|cRU|cLA|cSA|cZA|cSHA|cSSA|cHA
   103C8:cAURAMAZDAA|cAURAMAZDAA-2|cAURAMAZDAAHA|cXSHAAYATHIYA|cDAHYAAUSH|cDAHYAAUSH-2|cBAGA
   cBUUMISH|bWORD DIVIDER|bNUMBER ONE|cTWO|cTEN|cTWENTY|cHUNDRED|10400:DESERET CAPITAL LETTER LONG I
   dE|dA|dAH|dO|dOO|cSHORT I|dE|dA|dAH|dO|dOO|cAY|cOW|cWU|cYEE|cH|cPEE|cBEE|cTEE|cDEE|cCHEE|cJEE
   cKAY|cGAY|cEF|cVEE|cETH|cTHEE|cES|cZEE|cESH|cZHEE|cER|cEL|cEM|cEN|cENG|cOI|cEW
   aSMALL LETTER LONG I|dE|dA|dAH|dO|dOO|cSHORT I|dE|dA|dAH|dO|dOO|cAY|cOW|cWU|cYEE|cH|cPEE|cBEE
   cTEE|cDEE|cCHEE|cJEE|cKAY|cGAY|cEF|cVEE|cETH|cTHEE|cES|cZEE|cESH|cZHEE|cER|cEL|cEM|cEN|cENG|cOI
   cEW|SHAVIAN LETTER PEEP|bTOT|bKICK|bFEE|bTHIGH|bSO|bSURE|bCHURCH|bYEA|bHUNG|bBIB|bDEAD|bGAG|bVOW
   bTHEY|bZOO|bMEASURE|bJUDGE|bWOE|bHA-HA|bLOLL|bMIME|bIF|bEGG|bASH|bADO|bON|bWOOL|bOUT|bAH|bROAR
   bNUN|bEAT|bAGE|bICE|bUP|bOAK|bOOZE|bOIL|bAWE|bARE|bOR|bAIR|bERR|bARRAY|bEAR|bIAN|bYEW
   OSMANYA LETTER ALEF|bBA|bTA|bJA|bXA|bKHA|bDEEL|bRA|bSA|bSHIIN|bDHA|bCAYN|bGA|bFA|bQAAF|bKAAF
   bLAAN|bMIIN|bNUUN|bWAW|bHA|bYA|bA|bE|bI|bO|bU|bAA|bEE|bOO|104A0:aDIGIT ZERO|bONE|bTWO|bTHREE
   bFOUR|bFIVE|bSIX|bSEVEN|bEIGHT|bNINE|104B0:OSAGE CAPITAL LETTER A|cAI|cAIN|cAH|cBRA|cCHA|cEHCHA
   cE|cEIN|cHA|cHYA|cI|cKA|cEHKA|cKYA|cLA|cMA|cNA|cO|cOIN|cPA|cEHPA|cSA|cSHA|cTA|cEHTA|cTSA|cEHTSA
   cTSHA|cDHA|cU|cWA|cKHA|cGHA|cZA|cZHA|104D8:aSMALL LETTER A|cAI|cAIN|cAH|cBRA|cCHA|cEHCHA|cE|cEIN
   cHA|cHYA|cI|cKA|cEHKA|cKYA|cLA|cMA|cNA|cO|cOIN|cPA|cEHPA|cSA|cSHA|cTA|cEHTA|cTSA|cEHTSA|cTSHA
   cDHA|cU|cWA|cKHA|cGHA|cZA|cZHA|10500:ELBASAN LETTER A|bBE|bCE|bCHE|bDE|bNDE|bDHE|bEI|bE|bFE|bGE
   bGJE|bHE|bI|bJE|bKE|bLE|bLLE|bME|bNE|bNA|bNJE|bO|bPE|bQE|bRE|bRRE|bSE|bSHE|bTE|bTHE|bU|bVE|bXE|bY
   bZE|bZHE|bGHE|bGHAMMA|bKHE|10530:CAUCASIAN ALBANIAN LETTER ALT|cBET|cGIM|cDAT|cEB|cZARL|cEYN
   cZHIL|cTAS|cCHA|cYOWD|cZHA|cIRB|cSHA|cLAN|cINYA|cXEYN|cDYAN|cCAR|cJHOX|cKAR|cLYIT|cHEYT|cQAY|cAOR
   cCHOY|cCHI|cCYAY|cMAQ|cQAR|cNOWC|cDZYAY|cSHAK|cJAYN|cON|cTYAY|cFAM|cDZAY|cCHAT|cPEN|cGHEYS|cRAT
   cSEYK|cVEYZ|cTIWR|cSHOY|cIWN|cCYAW|cCAYN|cYAYD|cPIWR|cKIW|1056F:bCITATION MARK
   VITHKUQI CAPITAL LETTER A|cBBE|cBE|cCE|cCHE|cDE|cDHE|cEI|cE|cFE|cGA|1057C:cHA|cHHA|cI|cIJE|cJE
   cKA|cLA|cLLA|cME|cNE|cNJE|cO|cPE|cQA|cRE|1058C:cSE|cSHE|cTE|cTHE|cU|cVE|cXE|10594:cY|cZE
   10597:aSMALL LETTER A|cBBE|cBE|cCE|cCHE|cDE|cDHE|cEI|cE|cFE|cGA|105A3:cHA|cHHA|cI|cIJE|cJE|cKA
   cLA|cLLA|cME|cNE|cNJE|cO|cPE|cQA|cRE|105B3:cSE|cSHE|cTE|cTHE|cU|cVE|cXE|105BB:cY|cZE
   10600:LINEAR A SIGN AB001|cAB002|cAB003|cAB004|cAB005|cAB006|cAB007|cAB008|cAB009|cAB010|cAB011
   cAB013|cAB016|cAB017|cAB020|cAB021|cAB021F|cAB021M|cAB022|cAB022F|cAB022M|cAB023|cAB023M|cAB024
   cAB026|cAB027|cAB028|cA028B|cAB029|cAB030|cAB031|cAB034|cAB037|cAB038|cAB039|cAB040|cAB041|cAB044
   cAB045|cAB046|cAB047|cAB048|cAB049|cAB050|cAB051|cAB053|cAB054|cAB055|cAB056|cAB057|cAB058|cAB059
   cAB060|cAB061|cAB065|cAB066|cAB067|cAB069|cAB070|cAB073|cAB074|cAB076|cAB077|cAB078|cAB079|cAB080
   cAB081|cAB082|cAB085|cAB086|cAB087|cA100-102|cAB118|cAB120|cA120B|cAB122|cAB123|cAB131A|cAB131B
   cA131C|cAB164|cAB171|cAB180|cAB188|cAB191|cA301|cA302|cA303|cA304|cA305|cA306|cA307|cA308|cA309A
   cA309B|cA309C|cA310|cA311|cA312|cA313A|cA313B|cA313C|cA314|cA315|cA316|cA317|cA318|cA319|cA320
   cA321|cA322|cA323|cA324|cA325|cA326|cA327|cA328|cA329|cA330|cA331|cA332|cA333|cA334|cA335|cA336
   cA337|cA338|cA339|cA340|cA341|cA342|cA343|cA344|cA345|cA346|cA347|cA348|cA349|cA350|cA351|cA352
   cA353|cA354|cA355|cA356|cA357|cA358|cA359|cA360|cA361|cA362|cA363|cA364|cA365|cA366|cA367|cA368
   cA369|cA370|cA371|cA400-VAS|cA401-VAS|cA402-VAS|cA403-VAS|cA404-VAS|cA405-VAS|cA406-VAS|cA407-VAS
   cA408-VAS|cA409-VAS|cA410-VAS|cA411-VAS|cA412-VAS|cA413-VAS|cA414-VAS|cA415-VAS|cA416-VAS
   cA417-VAS|cA418-VAS|cA501|cA502|cA503|cA504|cA505|cA506|cA508|cA509|cA510|cA511|cA512|cA513|cA515
   cA516|cA520|cA521|cA523|cA524|cA525|cA526|cA527|cA528|cA529|cA530|cA531|cA532|cA534|cA535|cA536
   cA537|cA538|cA539|cA540|cA541|cA542|cA545|cA547|cA548|cA549|cA550|cA551|cA552|cA553|cA554|cA555
   cA556|cA557|cA559|cA563|cA564|cA565|cA566|cA568|cA569|cA570|cA571|cA572|cA573|cA574|cA575|cA576
   cA577|cA578|cA579|cA580|cA581|cA582|cA583|cA584|cA585|cA586|cA587|cA588|cA589|cA591|cA592|cA594
   cA595|cA596|cA598|cA600|cA601|cA602|cA603|cA604|cA606|cA608|cA609|cA610|cA611|cA612|cA613|cA614
   cA615|cA616|cA617|cA618|cA619|cA620|cA621|cA622|cA623|cA624|cA626|cA627|cA628|cA629|cA634|cA637
   cA638|cA640|cA642|cA643|cA644|cA645|cA646|cA648|cA649|cA651|cA652|cA653|cA654|cA655|cA656|cA657
   cA658|cA659|cA660|cA661|cA662|cA663|cA664|10740:cA701 A|cA702 B|cA703 D|cA704 E|cA705 F|cA706 H
   cA707 J|cA708 K|cA709 L|cA709-2 L2|d3 L3|d4 L4|d6 L6|cA710 W|cA711 X|cA712 Y|cA713 OMEGA
   cA714 ABB|cA715 BB|cA717 DD|cA726 EYYY|cA732 JE|10760:cA800|cA801|cA802|cA803|cA804|cA805|cA806
   cA807|10780:MODIFIER LETTER SMALL CAPITAL AA|bSUPERSCRIPT TRIANGULAR COLON|cHALF TRIANGULAR COLON
   bSMALL AE|cCAPITAL B|cB WITH HOOK|10787:cDZ DIGRAPH|dDIGRAPH WITH RETROFLEX HOOK|fCURL
   cDEZH DIGRAPH|cD WITH TAIL|eHOOK|eHOOK AND TAIL|cREVERSED E|cCLOSED REVERSED OPEN E|cFENG DIGRAPH
   cRAMS HORN|cCAPITAL G|cG WITH HOOK|cCAPITAL G WITH HOOK|cH WITH STROKE|cCAPITAL H|cHENG WITH HOOK
   cDOTLESS J WITH STROKE AND HOOK|cLS DIGRAPH|cLZ DIGRAPH|cL WITH BELT|cCAPITAL L WITH BELT
   cL WITH RETROFLEX HOOK AND BELT|cLEZH|cLEZH WITH RETROFLEX HOOK|cTURNED Y|dY WITH BELT
   cO WITH STROKE|cCAPITAL OE|cCLOSED OMEGA|cQ|cTURNED R WITH LONG LEG|gLEG AND RETROFLEX HOOK
   cR WITH TAIL|eFISHHOOK|cCAPITAL R|cTC DIGRAPH WITH CURL|cTS DIGRAPH|dDIGRAPH WITH RETROFLEX HOOK
   cTESH DIGRAPH|cT WITH RETROFLEX HOOK|cV WITH RIGHT HOOK|107B2:cCAPITAL Y
   bGLOTTAL STOP WITH STROKE|bREVERSED GLOTTAL STOP WITH STROKE|bBILABIAL CLICK|bDENTAL CLICK
   bLATERAL CLICK|bALVEOLAR CLICK|bRETROFLEX CLICK WITH RETROFLEX HOOK|bSMALL S WITH CURL
   10800:CYPRIOT SYLLABLE A|bE|bI|bO|bU|bJA|10808:bJO|1080A:bKA|bKE|bKI|bKO|bKU|bLA|bLE|bLI|bLO|bLU
   bMA|bME|bMI|bMO|bMU|bNA|bNE|bNI|bNO|bNU|bPA|bPE|bPI|bPO|bPU|bRA|bRE|bRI|bRO|bRU|bSA|bSE|bSI|bSO
   bSU|bTA|bTE|bTI|bTO|bTU|bWA|bWE|bWI|bWO|10837:bXA|bXE|1083C:bZA|1083F:bZO
   IMPERIAL ARAMAIC LETTER ALEPH|cBETH|cGIMEL|cDALETH|cHE|cWAW|cZAYIN|cHETH|cTETH|cYODH|cKAPH
   cLAMEDH|cMEM|cNUN|cSAMEKH|cAYIN|cPE|cSADHE|cQOPH|cRESH|cSHIN|cTAW|10857:bSECTION SIGN|bNUMBER ONE
   cTWO|cTHREE|cTEN|cTWENTY|cONE HUNDRED|dTHOUSAND|cTEN THOUSAND|PALMYRENE LETTER ALEPH|bBETH|bGIMEL
   bDALETH|bHE|bWAW|bZAYIN|bHETH|bTETH|bYODH|bKAPH|bLAMEDH|bMEM|bFINAL NUN|bNUN|bSAMEKH|bAYIN|bPE
   bSADHE|bQOPH|bRESH|bSHIN|bTAW|aLEFT-POINTING FLEURON|aRIGHT-POINTING FLEURON|aNUMBER ONE|bTWO
   bTHREE|bFOUR|bFIVE|bTEN|bTWENTY|NABATAEAN LETTER FINAL ALEPH|bALEPH|bFINAL BETH|bBETH|bGIMEL
   bDALETH|bFINAL HE|bHE|bWAW|bZAYIN|bHETH|bTETH|bFINAL YODH|bYODH|bFINAL KAPH|bKAPH|bFINAL LAMEDH
   bLAMEDH|bFINAL MEM|bMEM|bFINAL NUN|bNUN|bSAMEKH|bAYIN|bPE|bSADHE|bQOPH|bRESH|bFINAL SHIN|bSHIN
   bTAW|108A7:aNUMBER ONE|bTWO|bTHREE|bFOUR|aCRUCIFORM NUMBER FOUR|aNUMBER FIVE|bTEN|bTWENTY
   bONE HUNDRED|108E0:HATRAN LETTER ALEPH|bBETH|bGIMEL|bDALETH-RESH|bHE|bWAW|bZAYN|bHETH|bTETH|bYODH
   bKAPH|bLAMEDH|bMEM|bNUN|bSAMEKH|bAYN|bPE|bSADHE|bQOPH|108F4:bSHIN|bTAW|108FB:aNUMBER ONE|bFIVE
   bTEN|bTWENTY|bONE HUNDRED|PHOENICIAN LETTER ALF|bBET|bGAML|bDELT|bHE|bWAU|bZAI|bHET|bTET|bYOD
   bKAF|bLAMD|bMEM|bNUN|bSEMK|bAIN|bPE|bSADE|bQOF|bROSH|bSHIN|bTAU|aNUMBER ONE|bTEN|bTWENTY
   bONE HUNDRED|bTWO|bTHREE|1091F:aWORD SEPARATOR|LYDIAN LETTER A|bB|bG|bD|bE|bV|bI|bY|bK|bL|bM|bN
   bO|bR|bSS|bT|bU|bF|bQ|bS|bTT|bAN|bEN|bLY|bNN|bC|1093F:aTRIANGULAR MARK
   10980:MEROITIC HIEROGLYPHIC LETTER A|cE|cI|cO|cYA|cWA|cBA|cBA-2|cPA|cMA|cNA|cNA-2|cNE|cNE-2|cRA
   cRA-2|cLA|cKHA|cHHA|cSA|cSA-2|cSE|cKA|cQA|cTA|cTA-2|cTE|cTE-2|cTO|cDA|bSYMBOL VIDJ|cVIDJ-2
   aCURSIVE LETTER A|cE|cI|cO|cYA|cWA|cBA|cPA|cMA|cNA|cNE|cRA|cLA|cKHA|cHHA|cSA|cARCHAIC SA|cSE|cKA
   cQA|cTA|cTE|cTO|cDA|109BC:bFRACTION ELEVEN TWELFTHS|cONE HALF|bLOGOGRAM RMT|cIMN|bNUMBER ONE|cTWO
   cTHREE|cFOUR|cFIVE|cSIX|cSEVEN|cEIGHT|cNINE|cTEN|cTWENTY|cTHIRTY|cFORTY|cFIFTY|cSIXTY|cSEVENTY
   109D2:cONE HUNDRED|cTWO HUNDRED|cTHREE HUNDRED|cFOUR HUNDRED|cFIVE HUNDRED|cSIX HUNDRED
   cSEVEN HUNDRED|cEIGHT HUNDRED|cNINE HUNDRED|cONE THOUSAND|cTWO THOUSAND|cTHREE THOUSAND
   cFOUR THOUSAND|cFIVE THOUSAND|cSIX THOUSAND|cSEVEN THOUSAND|cEIGHT THOUSAND|cNINE THOUSAND
   cTEN THOUSAND|cTWENTY THOUSAND|cTHIRTY THOUSAND|cFORTY THOUSAND|cFIFTY THOUSAND|cSIXTY THOUSAND
   cSEVENTY THOUSAND|cEIGHTY THOUSAND|cNINETY THOUSAND|cONE HUNDRED THOUSAND|cTWO HUNDRED THOUSAND
   cTHREE HUNDRED THOUSAND|cFOUR HUNDRED THOUSAND|cFIVE HUNDRED THOUSAND|cSIX HUNDRED THOUSAND
   cSEVEN HUNDRED THOUSAND|cEIGHT HUNDRED THOUSAND|cNINE HUNDRED THOUSAND|bFRACTION ONE TWELFTH
   cTWO TWELFTHS|cTHREE TWELFTHS|cFOUR TWELFTHS|cFIVE TWELFTHS|cSIX TWELFTHS|cSEVEN TWELFTHS
   cEIGHT TWELFTHS|cNINE TWELFTHS|cTEN TWELFTHS|KHAROSHTHI LETTER A|aVOWEL SIGN I|cU|cVOCALIC R
   10A05:cE|cO|10A0C:bLENGTH MARK|aSIGN DOUBLE RING BELOW|bANUSVARA|bVISARGA|aLETTER KA|bKHA|bGA
   bGHA|10A15:bCA|bCHA|bJA|10A19:bNYA|bTTA|bTTHA|bDDA|bDDHA|bNNA|bTA|bTHA|bDA|bDHA|bNA|bPA|bPHA|bBA
   bBHA|bMA|bYA|bRA|bLA|bVA|bSHA|bSSA|bSA|bZA|bHA|bKKA|bTTTHA|bTTTA|bVHA|10A38:aSIGN BAR ABOVE
   bCAUDA|bDOT BELOW|10A3F:aVIRAMA|aDIGIT ONE|bTWO|bTHREE|bFOUR|aNUMBER TEN|bTWENTY|bONE HUNDRED
   cTHOUSAND|aFRACTION ONE HALF|10A50:aPUNCTUATION DOT|bSMALL CIRCLE|bCIRCLE|bCRESCENT BAR|bMANGALAM
   bLOTUS|bDANDA|bDOUBLE DANDA|bLINES|10A60:OLD SOUTH ARABIAN LETTER HE|dLAMEDH|dHETH|dMEM|dQOPH
   dWAW|dSHIN|dRESH|dBETH|dTAW|dSAT|dKAPH|dNUN|dKHETH|dSADHE|dSAMEKH|dFE|dALEF|dAYN|dDHADHE|dGIMEL
   dDALETH|dGHAYN|dTETH|dZAYN|dDHALETH|dYODH|dTHAW|dTHETH|cNUMBER ONE|dFIFTY|cNUMERIC INDICATOR
   aNORTH ARABIAN LETTER HEH|dLAM|dHAH|dMEEM|dQAF|dWAW|dES-2|dREH|dBEH|dTEH|dES-1|dKAF|dNOON|dKHAH
   dSAD|dES-3|dFEH|dALEF|dAIN|dDAD|dGEEM|dDAL|dGHAIN|dTAH|dZAIN|dTHAL|dYEH|dTHEH|dZAH|cNUMBER ONE
   dTEN|dTWENTY|10AC0:MANICHAEAN LETTER ALEPH|bBETH|bBHETH|bGIMEL|bGHIMEL|bDALETH|bHE|bWAW|aSIGN UD
   aLETTER ZAYIN|bZHAYIN|bJAYIN|bJHAYIN|bHETH|bTETH|bYODH|bKAPH|bXAPH|bKHAPH|bLAMEDH|bDHAMEDH
   bTHAMEDH|bMEM|bNUN|bSAMEKH|bAYIN|bAAYIN|bPE|bFE|bSADHE|bQOPH|bXOPH|bQHOPH|bRESH|bSHIN|bSSHIN|bTAW
   aABBREVIATION MARK ABOVE|cBELOW|10AEB:aNUMBER ONE|bFIVE|bTEN|bTWENTY|bONE HUNDRED
   aPUNCTUATION STAR|bFLEURON|bDOUBLE DOT WITHIN DOT|bDOT WITHIN DOT|bDOT|bTWO DOTS|bLINE FILLER
   10B00:AVESTAN LETTER A|bAA|bAO|bAAO|bAN|bAAN|bAE|bAEE|bE|bEE|bO|bOO|bI|bII|bU|bUU|bKE|bXE|bXYE
   bXVE|bGE|bGGE|bGHE|bCE|bJE|bTE|bTHE|bDE|bDHE|bTTE|bPE|bFE|bBE|bBHE|bNGE|bNGYE|bNGVE|bNE|bNYE|bNNE
   bME|bHME|bYYE|bYE|bVE|bRE|bLE|bSE|bZE|bSHE|bZHE|bSHYE|bSSHE|bHE|10B39:aABBREVIATION MARK
   TINY TWO DOTS OVER ONE DOT PUNCTUATION|SMALL TWO DOTS OVER ONE DOT PUNCTUATION
   LARGE TWO DOTS OVER ONE DOT PUNCTUATION|aONE DOT OVER TWO DOTS PUNCTUATION
   aTWO RINGS OVER ONE RING PUNCTUATION|aONE RING OVER TWO RINGS PUNCTUATION
   INSCRIPTIONAL PARTHIAN LETTER ALEPH|cBETH|cGIMEL|cDALETH|cHE|cWAW|cZAYIN|cHETH|cTETH|cYODH|cKAPH
   cLAMEDH|cMEM|cNUN|cSAMEKH|cAYIN|cPE|cSADHE|cQOPH|cRESH|cSHIN|cTAW|10B58:bNUMBER ONE|cTWO|cTHREE
   cFOUR|cTEN|cTWENTY|cONE HUNDRED|dTHOUSAND|aPAHLAVI LETTER ALEPH|cBETH|cGIMEL|cDALETH|cHE
   cWAW-AYIN-RESH|cZAYIN|cHETH|cTETH|cYODH|cKAPH|cLAMEDH|cMEM-QOPH|cNUN|cSAMEKH|cPE|cSADHE|cSHIN
   cTAW|10B78:bNUMBER ONE|cTWO|cTHREE|cFOUR|cTEN|cTWENTY|cONE HUNDRED|dTHOUSAND
   PSALTER PAHLAVI LETTER ALEPH|cBETH|cGIMEL|cDALETH|cHE|cWAW-AYIN-RESH|cZAYIN|cHETH|cYODH|cKAPH
   cLAMEDH|cMEM-QOPH|cNUN|cSAMEKH|cPE|cSADHE|cSHIN|cTAW|10B99:bSECTION MARK|bTURNED SECTION MARK
   bFOUR DOTS WITH CROSS|eDOT|10BA9:bNUMBER ONE|cTWO|cTHREE|cFOUR|cTEN|cTWENTY|cONE HUNDRED
   10C00:OLD TURKIC LETTER ORKHON A|cYENISEI A|dAE|cORKHON I|cYENISEI I|dE|cORKHON O|dOE|cYENISEI OE
   cORKHON AB|cYENISEI AB|cORKHON AEB|cYENISEI AEB|cORKHON AG|cYENISEI AG|cORKHON AEG|cYENISEI AEG
   cORKHON AD|cYENISEI AD|cORKHON AED|dEZ|cYENISEI EZ|cORKHON AY|cYENISEI AY|cORKHON AEY
   cYENISEI AEY|cORKHON AEK|cYENISEI AEK|cORKHON OEK|cYENISEI OEK|cORKHON AL|cYENISEI AL|cORKHON AEL
   dELT|dEM|dAN|dAEN|cYENISEI AEN|cORKHON ENT|cYENISEI ENT|cORKHON ENC|cYENISEI ENC|cORKHON ENY
   cYENISEI ENY|dANG|cORKHON ENG|cYENISEI AENG|cORKHON EP|dOP|dIC|dEC|cYENISEI EC|cORKHON AQ
   cYENISEI AQ|cORKHON IQ|cYENISEI IQ|cORKHON OQ|cYENISEI OQ|cORKHON AR|cYENISEI AR|cORKHON AER|dAS
   dAES|dASH|cYENISEI ASH|cORKHON ESH|cYENISEI ESH|cORKHON AT|cYENISEI AT|cORKHON AET|cYENISEI AET
   cORKHON OT|dBASH|10C80:aHUNGARIAN CAPITAL LETTER A|dAA|dEB|dAMB|dEC|dENC|dECS|dED|dAND|dE
   dCLOSE E|dEE|dEF|dEG|dEGY|dEH|dI|dII|dEJ|dEK|dAK|dUNK|dEL|dELY|dEM|dEN|dENY|dO|dOO|dNIKOLSBURG OE
   dRUDIMENTA OE|dOEE|dEP|dEMP|dER|dSHORT ER|dES|dESZ|dET|dENT|dETY|dECH|dU|dUU|dNIKOLSBURG UE
   dRUDIMENTA UE|dEV|dEZ|dEZS|dENT-SHAPED SIGN|dUS|10CC0:bSMALL LETTER A|dAA|dEB|dAMB|dEC|dENC|dECS
   dED|dAND|dE|dCLOSE E|dEE|dEF|dEG|dEGY|dEH|dI|dII|dEJ|dEK|dAK|dUNK|dEL|dELY|dEM|dEN|dENY|dO|dOO
   dNIKOLSBURG OE|dRUDIMENTA OE|dOEE|dEP|dEMP|dER|dSHORT ER|dES|dESZ|dET|dENT|dETY|dECH|dU|dUU
   dNIKOLSBURG UE|dRUDIMENTA UE|dEV|dEZ|dEZS|dENT-SHAPED SIGN|dUS|10CFA:bNUMBER ONE|cFIVE|cTEN
   cFIFTY|cONE HUNDRED|dTHOUSAND|HANIFI ROHINGYA LETTER A|cBA|cPA|cTA|cTTA|cJA|cCA|cHA|cKHA|cFA|cDA
   cDDA|cRA|cRRA|cZA|cSA|cSHA|cKA|cGA|cLA|cMA|cNA|cWA|cKINNA WA|cYA|cKINNA YA|cNGA|cNYA|cVA|bVOWEL A
   cI|cU|cE|cO|bMARK SAKIN|cNA KHONNA|bSIGN HARBAHAY|cTAHALA|cTANA|cTASSI|10D30:bDIGIT ZERO|cONE
   cTWO|cTHREE|cFOUR|cFIVE|cSIX|cSEVEN|cEIGHT|cNINE|10E60:RUMI DIGIT ONE|bTWO|bTHREE|bFOUR|bFIVE
   bSIX|bSEVEN|bEIGHT|bNINE|aNUMBER TEN|bTWENTY|bTHIRTY|bFORTY|bFIFTY|bSIXTY|bSEVENTY|bEIGHTY
   bNINETY|bONE HUNDRED|bTWO HUNDRED|bTHREE HUNDRED|bFOUR HUNDRED|bFIVE HUNDRED|bSIX HUNDRED
   bSEVEN HUNDRED|bEIGHT HUNDRED|bNINE HUNDRED|aFRACTION ONE HALF|cQUARTER|cTHIRD|bTWO THIRDS
   10E80:YEZIDI LETTER ELIF|bBE|bPE|bPHE|bTHE|bSE|bCIM|bCHIM|bCHHIM|bHHA|bXA|bDAL|bZAL|bRA|bRHA|bZA
   bJA|bSIN|bSHIN|bSAD|bDAD|bTA|bZE|bEYN|bXHEYN|bFA|bVA|bVA ALTERNATE FORM|bQAF|bKAF|bKHAF|bGAF|bLAM
   bMIM|bNUN|bUM|bWAW|bOW|bEW|bHAY|bYOT|bET|10EAB:aCOMBINING HAMZA MARK|bMADDA MARK
   aHYPHENATION MARK|10EB0:aLETTER LAM WITH DOT ABOVE|bYOT WITH CIRCUMFLEX ABOVE
   10EFD:ARABIC SMALL LOW WORD SAKTA|dQASR|dMADDA|OLD SOGDIAN LETTER ALEPH|cFINAL ALEPH|cBETH
   cFINAL BETH|cGIMEL|cHE|cFINAL HE|cWAW|cZAYIN|cHETH|cYODH|cKAPH|cLAMEDH|cMEM|cNUN|cFINAL NUN
   dNUN WITH VERTICAL TAIL|cSAMEKH|cAYIN|cALTERNATE AYIN|cPE|cSADHE|cFINAL SADHE
   dSADHE WITH VERTICAL TAIL|cRESH-AYIN-DALETH|cSHIN|cTAW|cFINAL TAW|dTAW WITH VERTICAL TAIL
   bNUMBER ONE|cTWO|cTHREE|cFOUR|cFIVE|cTEN|cTWENTY|cTHIRTY|cONE HUNDRED|bFRACTION ONE HALF
   bLIGATURE AYIN-DALETH|10F30:SOGDIAN LETTER ALEPH|bBETH|bGIMEL|bHE|bWAW|bZAYIN|bHETH|bYODH|bKAPH
   bLAMEDH|bMEM|bNUN|bSAMEKH|bAYIN|bPE|bSADHE|bRESH-AYIN|bSHIN|bTAW|bFETH|bLESH|aINDEPENDENT SHIN
   aCOMBINING DOT BELOW|bTWO DOTS BELOW|bDOT ABOVE|bTWO DOTS ABOVE|bCURVE ABOVE|cBELOW|bHOOK ABOVE
   cBELOW|bLONG HOOK BELOW|bRESH BELOW|bSTROKE BELOW|aNUMBER ONE|bTEN|bTWENTY|bONE HUNDRED
   aPUNCTUATION TWO VERTICAL BARS|dBARS WITH DOTS|bCIRCLE WITH DOT|bTWO CIRCLES WITH DOTS
   bHALF CIRCLE WITH DOT|10F70:OLD UYGHUR LETTER ALEPH|cBETH|cGIMEL-HETH|cWAW|cZAYIN|cFINAL HETH
   cYODH|cKAPH|cLAMEDH|cMEM|cNUN|cSAMEKH|cPE|cSADHE|cRESH|cSHIN|cTAW|cLESH|bCOMBINING DOT ABOVE
   dBELOW|cTWO DOTS ABOVE|eBELOW|bPUNCTUATION BAR|cTWO BARS|dDOTS|cFOUR DOTS
   10FB0:CHORASMIAN LETTER ALEPH|bSMALL ALEPH|bBETH|bGIMEL|bDALETH|bHE|bWAW|bCURLED WAW|bZAYIN|bHETH
   bYODH|bKAPH|bLAMEDH|bMEM|bNUN|bSAMEKH|bAYIN|bPE|bRESH|bSHIN|bTAW|aNUMBER ONE|bTWO|bTHREE|bFOUR
   bTEN|bTWENTY|bONE HUNDRED|10FE0:ELYMAIC LETTER ALEPH|bBETH|bGIMEL|bDALETH|bHE|bWAW|bZAYIN|bHETH
   bTETH|bYODH|bKAPH|bLAMEDH|bMEM|bNUN|bSAMEKH|bAYIN|bPE|bSADHE|bQOPH|bRESH|bSHIN|bTAW
   aLIGATURE ZAYIN-YODH|11000:BRAHMI SIGN CANDRABINDU|bANUSVARA|bVISARGA|bJIHVAMULIYA|bUPADHMANIYA
   aLETTER A|bAA|bI|bII|bU|bUU|bVOCALIC R|cRR|cL|cLL|bE|bAI|bO|bAU|bKA|bKHA|bGA|bGHA|bNGA|bCA|bCHA
   bJA|bJHA|bNYA|bTTA|bTTHA|bDDA|bDDHA|bNNA|bTA|bTHA|bDA|bDHA|bNA|bPA|bPHA|bBA|bBHA|bMA|bYA|bRA|bLA
   bVA|bSHA|bSSA|bSA|bHA|bLLA|bOLD TAMIL LLLA|dRRA|dNNNA|aVOWEL SIGN AA|cBHATTIPROLU AA|cI|cII|cU
   cUU|cVOCALIC R|dRR|dL|dLL|cE|cAI|cO|cAU|aVIRAMA|aDANDA|aDOUBLE DANDA|aPUNCTUATION DOT|bDOUBLE DOT
   bLINE|bCRESCENT BAR|bLOTUS|11052:aNUMBER ONE|bTWO|bTHREE|bFOUR|bFIVE|bSIX|bSEVEN|bEIGHT|bNINE
   bTEN|bTWENTY|bTHIRTY|bFORTY|bFIFTY|bSIXTY|bSEVENTY|bEIGHTY|bNINETY|bONE HUNDRED|cTHOUSAND
   aDIGIT ZERO|bONE|bTWO|bTHREE|bFOUR|bFIVE|bSIX|bSEVEN|bEIGHT|bNINE|aSIGN OLD TAMIL VIRAMA
   aLETTER OLD TAMIL SHORT E|eO|aVOWEL SIGN OLD TAMIL SHORT E|fO|aLETTER OLD TAMIL LLA
   1107F:aNUMBER JOINER|KAITHI SIGN CANDRABINDU|bANUSVARA|bVISARGA|aLETTER A|bAA|bI|bII|bU|bUU|bE
   bAI|bO|bAU|bKA|bKHA|bGA|bGHA|bNGA|bCA|bCHA|bJA|bJHA|bNYA|bTTA|bTTHA|bDDA|bDDDHA|bDDHA|bRHA|bNNA
   bTA|bTHA|bDA|bDHA|bNA|bPA|bPHA|bBA|bBHA|bMA|bYA|bRA|bLA|bVA|bSHA|bSSA|bSA|bHA|aVOWEL SIGN AA|cI
   cII|cU|cUU|cE|cAI|cO|cAU|aSIGN VIRAMA|bNUKTA|aABBREVIATION SIGN|aENUMERATION SIGN|aNUMBER SIGN
   aSECTION MARK|aDOUBLE SECTION MARK|aDANDA|aDOUBLE DANDA|aVOWEL SIGN VOCALIC R
   110CD:aNUMBER SIGN ABOVE|110D0:SORA SOMPENG LETTER SAH|cTAH|cBAH|cCAH|cDAH|cGAH|cMAH|cNGAH|cLAH
   cNAH|cVAH|cPAH|cYAH|cRAH|cHAH|cKAH|cJAH|cNYAH|cAH|cEEH|cIH|cUH|cOH|cEH|cMAE|110F0:bDIGIT ZERO
   cONE|cTWO|cTHREE|cFOUR|cFIVE|cSIX|cSEVEN|cEIGHT|cNINE|11100:CHAKMA SIGN CANDRABINDU|bANUSVARA
   bVISARGA|aLETTER AA|bI|bU|bE|bKAA|bKHAA|bGAA|bGHAA|bNGAA|bCAA|bCHAA|bJAA|bJHAA|bNYAA|bTTAA|bTTHAA
   bDDAA|bDDHAA|bNNAA|bTAA|bTHAA|bDAA|bDHAA|bNAA|bPAA|bPHAA|bBAA|bBHAA|bMAA|bYYAA|bYAA|bRAA|bLAA
   bWAA|bSAA|bHAA|aVOWEL SIGN A|cI|cII|cU|cUU|cE|cAI|cO|cAU|cOI|aO MARK|aAU MARK|aVIRAMA|aMAAYYAA
   11136:aDIGIT ZERO|bONE|bTWO|bTHREE|bFOUR|bFIVE|bSIX|bSEVEN|bEIGHT|bNINE|aSECTION MARK|aDANDA
   aDOUBLE DANDA|aQUESTION MARK|aLETTER LHAA|aVOWEL SIGN AA|cEI|aLETTER VAA|11150:MAHAJANI LETTER A
   bI|bU|bE|bO|bKA|bKHA|bGA|bGHA|bCA|bCHA|bJA|bJHA|bNYA|bTTA|bTTHA|bDDA|bDDHA|bNNA|bTA|bTHA|bDA|bDHA
   bNA|bPA|bPHA|bBA|bBHA|bMA|bRA|bLA|bVA|bSA|bHA|bRRA|aSIGN NUKTA|aABBREVIATION SIGN|aSECTION MARK
   aLIGATURE SHRI|11180:SHARADA SIGN CANDRABINDU|bANUSVARA|bVISARGA|aLETTER A|bAA|bI|bII|bU|bUU
   bVOCALIC R|cRR|cL|cLL|bE|bAI|bO|bAU|bKA|bKHA|bGA|bGHA|bNGA|bCA|bCHA|bJA|bJHA|bNYA|bTTA|bTTHA|bDDA
   bDDHA|bNNA|bTA|bTHA|bDA|bDHA|bNA|bPA|bPHA|bBA|bBHA|bMA|bYA|bRA|bLA|bLLA|bVA|bSHA|bSSA|bSA|bHA
   aVOWEL SIGN AA|cI|cII|cU|cUU|cVOCALIC R|dRR|dL|dLL|cE|cAI|cO|cAU|aSIGN VIRAMA|bAVAGRAHA
   bJIHVAMULIYA|bUPADHMANIYA|aOM|aDANDA|aDOUBLE DANDA|aABBREVIATION SIGN|aSEPARATOR|aSANDHI MARK
   aSIGN NUKTA|aVOWEL MODIFIER MARK|aEXTRA SHORT VOWEL MARK|aSUTRA MARK|aVOWEL SIGN PRISHTHAMATRA E
   aSIGN INVERTED CANDRABINDU|aDIGIT ZERO|bONE|bTWO|bTHREE|bFOUR|bFIVE|bSIX|bSEVEN|bEIGHT|bNINE
   aEKAM|aSIGN SIDDHAM|aHEADSTROKE|aCONTINUATION SIGN|aSECTION MARK-1|c2
   111E1:SINHALA ARCHAIC DIGIT ONE|cTWO|cTHREE|cFOUR|cFIVE|cSIX|cSEVEN|cEIGHT|cNINE|bNUMBER TEN
   cTWENTY|cTHIRTY|cFORTY|cFIFTY|cSIXTY|cSEVENTY|cEIGHTY|cNINETY|cONE HUNDRED|dTHOUSAND
   11200:KHOJKI LETTER A|bAA|bI|bU|bE|bAI|bO|bAU|bKA|bKHA|bGA|bGGA|bGHA|bNGA|bCA|bCHA|bJA|bJJA
   11213:bNYA|bTTA|bTTHA|bDDA|bDDHA|bNNA|bTA|bTHA|bDA|bDDDA|bDHA|bNA|bPA|bPHA|bBA|bBBA|bBHA|bMA|bYA
   bRA|bLA|bVA|bSA|bHA|bLLA|aVOWEL SIGN AA|cI|cII|cU|cE|cAI|cO|cAU|aSIGN ANUSVARA|bVIRAMA|bNUKTA
   bSHADDA|aDANDA|aDOUBLE DANDA|aWORD SEPARATOR|aSECTION MARK|aDOUBLE SECTION MARK
   aABBREVIATION SIGN|aSIGN SUKUN|aLETTER QA|bSHORT I|aVOWEL SIGN VOCALIC R|11280:MULTANI LETTER A
   bI|bU|bE|bKA|bKHA|bGA|11288:bGHA|1128A:bCA|bCHA|bJA|bJJA|1128F:bNYA|bTTA|bTTHA|bDDA|bDDDA|bDDHA
   bNNA|bTA|bTHA|bDA|bDHA|bNA|bPA|bPHA|bBA|1129F:bBHA|bMA|bYA|bRA|bLA|bVA|bSA|bHA|bRRA|bRHA
   aSECTION MARK|112B0:KHUDAWADI LETTER A|bAA|bI|bII|bU|bUU|bE|bAI|bO|bAU|bKA|bKHA|bGA|bGGA|bGHA
   bNGA|bCA|bCHA|bJA|bJJA|bJHA|bNYA|bTTA|bTTHA|bDDA|bDDDA|bRRA|bDDHA|bNNA|bTA|bTHA|bDA|bDHA|bNA|bPA
   bPHA|bBA|bBBA|bBHA|bMA|bYA|bRA|bLA|bVA|bSHA|bSA|bHA|aSIGN ANUSVARA|aVOWEL SIGN AA|cI|cII|cU|cUU
   cE|cAI|cO|cAU|aSIGN NUKTA|bVIRAMA|112F0:aDIGIT ZERO|bONE|bTWO|bTHREE|bFOUR|bFIVE|bSIX|bSEVEN
   bEIGHT|bNINE|11300:GRANTHA SIGN COMBINING ANUSVARA ABOVE|bCANDRABINDU|bANUSVARA|bVISARGA
   11305:aLETTER A|bAA|bI|bII|bU|bUU|bVOCALIC R|cL|1130F:bEE|bAI|11313:bOO|bAU|bKA|bKHA|bGA|bGHA
   bNGA|bCA|bCHA|bJA|bJHA|bNYA|bTTA|bTTHA|bDDA|bDDHA|bNNA|bTA|bTHA|bDA|bDHA|bNA|1132A:bPA|bPHA|bBA
   bBHA|bMA|bYA|bRA|11332:bLA|bLLA|11335:bVA|bSHA|bSSA|bSA|bHA|1133B:COMBINING BINDU BELOW
   GRANTHA SIGN NUKTA|bAVAGRAHA|aVOWEL SIGN AA|cI|cII|cU|cUU|cVOCALIC R|dRR|11347:cEE|cAI|1134B:cOO
   cAU|aSIGN VIRAMA|11350:aOM|11357:aAU LENGTH MARK|1135D:aSIGN PLUTA|aLETTER VEDIC ANUSVARA
   cDOUBLE ANUSVARA|bVOCALIC RR|cLL|aVOWEL SIGN VOCALIC L|dLL|11366:COMBINING GRANTHA DIGIT ZERO
   cONE|cTWO|cTHREE|cFOUR|cFIVE|cSIX|11370:bLETTER A|cKA|cNA|cVI|cPA|11400:NEWA LETTER A|bAA|bI|bII
   bU|bUU|bVOCALIC R|cRR|cL|cLL|bE|bAI|bO|bAU|bKA|bKHA|bGA|bGHA|bNGA|bNGHA|bCA|bCHA|bJA|bJHA|bNYA
   bNYHA|bTTA|bTTHA|bDDA|bDDHA|bNNA|bTA|bTHA|bDA|bDHA|bNA|bNHA|bPA|bPHA|bBA|bBHA|bMA|bMHA|bYA|bRA
   bRHA|bLA|bLHA|bWA|bSHA|bSSA|bSA|bHA|aVOWEL SIGN AA|cI|cII|cU|cUU|cVOCALIC R|dRR|dL|dLL|cE|cAI|cO
   cAU|aSIGN VIRAMA|bCANDRABINDU|bANUSVARA|bVISARGA|bNUKTA|bAVAGRAHA|bFINAL ANUSVARA|aOM|aSIDDHI
   aDANDA|aDOUBLE DANDA|aCOMMA|aGAP FILLER|aABBREVIATION SIGN|aDIGIT ZERO|bONE|bTWO|bTHREE|bFOUR
   bFIVE|bSIX|bSEVEN|bEIGHT|bNINE|aDOUBLE COMMA|aPLACEHOLDER MARK|1145D:aINSERTION SIGN|aSANDHI MARK
   aLETTER VEDIC ANUSVARA|aSIGN JIHVAMULIYA|bUPADHMANIYA|11480:TIRHUTA ANJI|aLETTER A|bAA|bI|bII|bU
   bUU|bVOCALIC R|cRR|cL|cLL|bE|bAI|bO|bAU|bKA|bKHA|bGA|bGHA|bNGA|bCA|bCHA|bJA|bJHA|bNYA|bTTA|bTTHA
   bDDA|bDDHA|bNNA|bTA|bTHA|bDA|bDHA|bNA|bPA|bPHA|bBA|bBHA|bMA|bYA|bRA|bLA|bVA|bSHA|bSSA|bSA|bHA
   aVOWEL SIGN AA|cI|cII|cU|cUU|cVOCALIC R|dRR|dL|dLL|cE|cSHORT E|cAI|cO|cSHORT O|cAU
   aSIGN CANDRABINDU|bANUSVARA|bVISARGA|bVIRAMA|bNUKTA|bAVAGRAHA|aGVANG|aABBREVIATION SIGN|aOM
   114D0:aDIGIT ZERO|bONE|bTWO|bTHREE|bFOUR|bFIVE|bSIX|bSEVEN|bEIGHT|bNINE|11580:SIDDHAM LETTER A
   bAA|bI|bII|bU|bUU|bVOCALIC R|cRR|cL|cLL|bE|bAI|bO|bAU|bKA|bKHA|bGA|bGHA|bNGA|bCA|bCHA|bJA|bJHA
   bNYA|bTTA|bTTHA|bDDA|bDDHA|bNNA|bTA|bTHA|bDA|bDHA|bNA|bPA|bPHA|bBA|bBHA|bMA|bYA|bRA|bLA|bVA|bSHA
   bSSA|bSA|bHA|aVOWEL SIGN AA|cI|cII|cU|cUU|cVOCALIC R|dRR|115B8:cE|cAI|cO|cAU|aSIGN CANDRABINDU
   bANUSVARA|bVISARGA|bVIRAMA|bNUKTA|bSIDDHAM|aDANDA|aDOUBLE DANDA|aSEPARATOR DOT|bBAR
   aREPETITION MARK-1|c2|c3|aEND OF TEXT MARK|aSECTION MARK WITH TRIDENT AND U-SHAPED ORNAMENTS
   fDOTTED CRESCENTS|dRAYS AND DOTTED CRESCENTS|gDOUBLE CRESCENTS|gTRIPLE CRESCENTS|cDOUBLE RING
   dRING WITH RAYS|cWITH DOUBLE CRESCENTS|dTRIPLE CRESCENTS|dQUADRUPLE CRESCENTS|dSEPTUPLE CRESCENTS
   dCIRCLES AND RAYS|fTWO ENCLOSURES|fFOUR ENCLOSURES|aLETTER THREE-CIRCLE ALTERNATE I
   bTWO-CIRCLE ALTERNATE I|eII|bALTERNATE U|aVOWEL SIGN ALTERNATE U|dUU|11600:MODI LETTER A|bAA|bI
   bII|bU|bUU|bVOCALIC R|cRR|cL|cLL|bE|bAI|bO|bAU|bKA|bKHA|bGA|bGHA|bNGA|bCA|bCHA|bJA|bJHA|bNYA|bTTA
   bTTHA|bDDA|bDDHA|bNNA|bTA|bTHA|bDA|bDHA|bNA|bPA|bPHA|bBA|bBHA|bMA|bYA|bRA|bLA|bVA|bSHA|bSSA|bSA
   bHA|bLLA|aVOWEL SIGN AA|cI|cII|cU|cUU|cVOCALIC R|dRR|dL|dLL|cE|cAI|cO|cAU|aSIGN ANUSVARA|bVISARGA
   bVIRAMA|bARDHACANDRA|aDANDA|aDOUBLE DANDA|aABBREVIATION SIGN|aSIGN HUVA|11650:aDIGIT ZERO|bONE
   bTWO|bTHREE|bFOUR|bFIVE|bSIX|bSEVEN|bEIGHT|bNINE|11660:MONGOLIAN BIRGA WITH ORNAMENT
   aROTATED BIRGA|aDOUBLE BIRGA WITH ORNAMENT|aTRIPLE BIRGA WITH ORNAMENT
   aBIRGA WITH DOUBLE ORNAMENT|aROTATED BIRGA WITH ORNAMENT|dDOUBLE ORNAMENT|aINVERTED BIRGA
   bBIRGA WITH DOUBLE ORNAMENT|aSWIRL BIRGA|bBIRGA WITH ORNAMENT|dDOUBLE ORNAMENT
   aTURNED SWIRL BIRGA WITH DOUBLE ORNAMENT|11680:TAKRI LETTER A|bAA|bI|bII|bU|bUU|bE|bAI|bO|bAU|bKA
   bKHA|bGA|bGHA|bNGA|bCA|bCHA|bJA|bJHA|bNYA|bTTA|bTTHA|bDDA|bDDHA|bNNA|bTA|bTHA|bDA|bDHA|bNA|bPA
   bPHA|bBA|bBHA|bMA|bYA|bRA|bLA|bVA|bSHA|bSA|bHA|bRRA|aSIGN ANUSVARA|bVISARGA|aVOWEL SIGN AA|cI|cII
   cU|cUU|cE|cAI|cO|cAU|aSIGN VIRAMA|bNUKTA|aLETTER ARCHAIC KHA|aABBREVIATION SIGN|116C0:aDIGIT ZERO
   bONE|bTWO|bTHREE|bFOUR|bFIVE|bSIX|bSEVEN|bEIGHT|bNINE|11700:AHOM LETTER KA|bKHA|bNGA|bNA|bTA
   bALTERNATE TA|bPA|bPHA|bBA|bMA|bJA|bCHA|bTHA|bRA|bLA|bSA|bNYA|bHA|bA|bDA|bDHA|bGA|bALTERNATE GA
   bGHA|bBHA|bJHA|bALTERNATE BA|1171D:aCONSONANT SIGN MEDIAL LA|dRA|dLIGATING RA|aVOWEL SIGN A|cAA
   cI|cII|cU|cUU|cE|cAW|cO|cAI|cAM|aSIGN KILLER|11730:aDIGIT ZERO|bONE|bTWO|bTHREE|bFOUR|bFIVE|bSIX
   bSEVEN|bEIGHT|bNINE|aNUMBER TEN|bTWENTY|aSIGN SMALL SECTION|bSECTION|bRULAI|aSYMBOL VI|aLETTER CA
   bTTA|bTTHA|bDDA|bDDHA|bNNA|bLLA|11800:DOGRA LETTER A|bAA|bI|bII|bU|bUU|bE|bAI|bO|bAU|bKA|bKHA|bGA
   bGHA|bNGA|bCA|bCHA|bJA|bJHA|bNYA|bTTA|bTTHA|bDDA|bDDHA|bNNA|bTA|bTHA|bDA|bDHA|bNA|bPA|bPHA|bBA
   bBHA|bMA|bYA|bRA|bLA|bVA|bSHA|bSSA|bSA|bHA|bRRA|aVOWEL SIGN AA|cI|cII|cU|cUU|cVOCALIC R|dRR|cE
   cAI|cO|cAU|aSIGN ANUSVARA|bVISARGA|bVIRAMA|bNUKTA|aABBREVIATION SIGN
   118A0:WARANG CITI CAPITAL LETTER NGAA|dA|dWI|dYU|dYA|dYO|dII|dUU|dE|dO|dANG|dGA|dKO|dENY|dYUJ|dUC
   dENN|dODD|dTTE|dNUNG|dDA|dAT|dAM|dBU|dPU|dHIYO|dHOLO|dHORR|dHAR|dSSUU|dSII|dVIYO
   bSMALL LETTER NGAA|dA|dWI|dYU|dYA|dYO|dII|dUU|dE|dO|dANG|dGA|dKO|dENY|dYUJ|dUC|dENN|dODD|dTTE
   dNUNG|dDA|dAT|dAM|dBU|dPU|dHIYO|dHOLO|dHORR|dHAR|dSSUU|dSII|dVIYO|bDIGIT ZERO|cONE|cTWO|cTHREE
   cFOUR|cFIVE|cSIX|cSEVEN|cEIGHT|cNINE|bNUMBER TEN|cTWENTY|cTHIRTY|cFORTY|cFIFTY|cSIXTY|cSEVENTY
   cEIGHTY|cNINETY|118FF:bOM|DIVES AKURU LETTER A|cAA|cI|cII|cU|cUU|cE|11909:cO|1190C:cKA|cKHA|cGA
   cGHA|cNGA|cCA|cCHA|cJA|11915:cNYA|cTTA|11918:cDDA|cDDHA|cNNA|cTA|cTHA|cDA|cDHA|cNA|cPA|cPHA|cBA
   cBHA|cMA|cYA|cYYA|cRA|cLA|cVA|cSHA|cSSA|cSA|cHA|cLLA|cZA|bVOWEL SIGN AA|dI|dII|dU|dUU|dE
   11937:dAI|dO|1193B:bSIGN ANUSVARA|cCANDRABINDU|cHALANTA|bVIRAMA|bPREFIXED NASAL SIGN|bMEDIAL YA
   bINITIAL RA|bMEDIAL RA|bSIGN NUKTA|bDOUBLE DANDA|bGAP FILLER|bEND OF TEXT MARK|11950:bDIGIT ZERO
   cONE|cTWO|cTHREE|cFOUR|cFIVE|cSIX|cSEVEN|cEIGHT|cNINE|119A0:NANDINAGARI LETTER A|bAA|bI|bII|bU
   bUU|bVOCALIC R|cRR|119AA:bE|bAI|bO|bAU|bKA|bKHA|bGA|bGHA|bNGA|bCA|bCHA|bJA|bJHA|bNYA|bTTA|bTTHA
   bDDA|bDDHA|bNNA|bTA|bTHA|bDA|bDHA|bNA|bPA|bPHA|bBA|bBHA|bMA|bYA|bRA|bLA|bVA|bSHA|bSSA|bSA|bHA
   bLLA|bRRA|aVOWEL SIGN AA|cI|cII|cU|cUU|cVOCALIC R|dRR|119DA:cE|cAI|cO|cAU|aSIGN ANUSVARA|bVISARGA
   bVIRAMA|bAVAGRAHA|bSIDDHAM|aHEADSTROKE|aVOWEL SIGN PRISHTHAMATRA E
   11A00:ZANABAZAR SQUARE LETTER A|bVOWEL SIGN I|dUE|dU|dE|dOE|dO|dAI|dAU|dREVERSED I|cLENGTH MARK
   bLETTER KA|cKHA|cGA|cGHA|cNGA|cCA|cCHA|cJA|cNYA|cTTA|cTTHA|cDDA|cDDHA|cNNA|cTA|cTHA|cDA|cDHA|cNA
   cPA|cPHA|cBA|cBHA|cMA|cTSA|cTSHA|cDZA|cDZHA|cZHA|cZA|c-A|cYA|cRA|cLA|cVA|cSHA|cSSA|cSA|cHA|cKSSA
   bFINAL CONSONANT MARK|bSIGN VIRAMA|cCANDRABINDU|cCANDRABINDU WITH ORNAMENT|cCANDRA WITH ORNAMENT
   cANUSVARA|cVISARGA|bCLUSTER-INITIAL LETTER RA|cFINAL LETTER YA|eRA|eLA|eVA|bINITIAL HEAD MARK
   bCLOSING HEAD MARK|bMARK TSHEG|cSHAD|cDOUBLE SHAD|cLONG TSHEG|bINITIAL DOUBLE-LINED HEAD MARK
   bCLOSING DOUBLE-LINED HEAD MARK|bSUBJOINER|11A50:SOYOMBO LETTER A|aVOWEL SIGN I|cUE|cU|cE|cO|cOE
   cAI|cAU|cVOCALIC R|dL|bLENGTH MARK|aLETTER KA|bKHA|bGA|bGHA|bNGA|bCA|bCHA|bJA|bJHA|bNYA|bTTA
   bTTHA|bDDA|bDDHA|bNNA|bTA|bTHA|bDA|bDHA|bNA|bPA|bPHA|bBA|bBHA|bMA|bTSA|bTSHA|bDZA|bZHA|bZA|b-A
   bYA|bRA|bLA|bVA|bSHA|bSSA|bSA|bHA|bKSSA|aSIGN JIHVAMULIYA|bUPADHMANIYA|aCLUSTER-INITIAL LETTER RA
   dLA|dSHA|dSA|aFINAL CONSONANT SIGN G|dK|dNG|dD|dN|dB|dM|dR|dL|dSH|dS|d-A|aSIGN ANUSVARA|bVISARGA
   aGEMINATION MARK|aSUBJOINER|aMARK TSHEG|bSHAD|bDOUBLE SHAD|bPLUTA
   aHEAD MARK WITH MOON AND SUN AND TRIPLE FLAME|hFLAME|fSUN|aTERMINAL MARK-1|c2
   11AB0:CANADIAN SYLLABICS NATTILIK HI|cHII|cHO|cHOO|cHA|cHAA|cSHRI|cSHRII|cSHRO|cSHROO|cSHRA
   cSHRAA|bSPE|bSPI|bSPO|bSPA|PAU CIN HAU LETTER PA|dKA|dLA|dMA|dDA|dZA|dVA|dNGA|dHA|dGA|dKHA|dSA
   dBA|dCA|dTA|dTHA|dNA|dPHA|dRA|dFA|dCHA|dA|dE|dI|dO|dU|dUA|dIA|dFINAL P|eK|eT|eM|eN|eL|eW|eNG|eY
   cRISING TONE LONG|dTONE|cSANDHI GLOTTAL STOP|cRISING TONE LONG FINAL|eFINAL
   cSANDHI GLOTTAL STOP FINAL|dTONE LONG|dTONE|dTONE LONG FINAL|eFINAL|cMID-LEVEL TONE
   cGLOTTAL STOP VARIANT|cMID-LEVEL TONE LONG FINAL|fFINAL|cLOW-FALLING TONE LONG|eTONE
   cGLOTTAL STOP|cLOW-FALLING TONE LONG FINAL|fFINAL|cGLOTTAL STOP FINAL|11B00:DEVANAGARI HEAD MARK
   bMARK WITH HEADSTROKE|aSIGN BHALE|bBHALE WITH HOOK|bEXTENDED BHALE|cBHALE WITH HOOK
   bWESTERN FIVE-LIKE BHALE|cNINE-LIKE BHALE|bREVERSED NINE-LIKE BHALE|bMINDU
   11C00:BHAIKSUKI LETTER A|bAA|bI|bII|bU|bUU|bVOCALIC R|cRR|cL|11C0A:bE|bAI|bO|bAU|bKA|bKHA|bGA
   bGHA|bNGA|bCA|bCHA|bJA|bJHA|bNYA|bTTA|bTTHA|bDDA|bDDHA|bNNA|bTA|bTHA|bDA|bDHA|bNA|bPA|bPHA|bBA
   bBHA|bMA|bYA|bRA|bLA|bVA|bSHA|bSSA|bSA|bHA|aVOWEL SIGN AA|cI|cII|cU|cUU|cVOCALIC R|dRR|dL
   11C38:cE|cAI|cO|cAU|aSIGN CANDRABINDU|bANUSVARA|bVISARGA|bVIRAMA|bAVAGRAHA|aDANDA|aDOUBLE DANDA
   aWORD SEPARATOR|aGAP FILLER-1|c2|11C50:aDIGIT ZERO|bONE|bTWO|bTHREE|bFOUR|bFIVE|bSIX|bSEVEN
   bEIGHT|bNINE|aNUMBER ONE|bTWO|bTHREE|bFOUR|bFIVE|bSIX|bSEVEN|bEIGHT|bNINE|bTEN|bTWENTY|bTHIRTY
   bFORTY|bFIFTY|bSIXTY|bSEVENTY|bEIGHTY|bNINETY|aHUNDREDS UNIT MARK|11C70:MARCHEN HEAD MARK
   aMARK SHAD|aLETTER KA|bKHA|bGA|bNGA|bCA|bCHA|bJA|bNYA|bTA|bTHA|bDA|bNA|bPA|bPHA|bBA|bMA|bTSA
   bTSHA|bDZA|bWA|bZHA|bZA|b-A|bYA|bRA|bLA|bSHA|bSA|bHA|bA|11C92:aSUBJOINED LETTER KA|cKHA|cGA|cNGA
   cCA|cCHA|cJA|cNYA|cTA|cTHA|cDA|cNA|cPA|cPHA|cBA|cMA|cTSA|cTSHA|cDZA|cWA|cZHA|cZA|11CA9:cYA|cRA
   cLA|cSHA|cSA|cHA|cA|aVOWEL SIGN AA|cI|cU|cE|cO|aSIGN ANUSVARA|bCANDRABINDU
   11D00:MASARAM GONDI LETTER A|cAA|cI|cII|cU|cUU|cE|11D08:cAI|cO|11D0B:cAU|cKA|cKHA|cGA|cGHA|cNGA
   cCA|cCHA|cJA|cJHA|cNYA|cTTA|cTTHA|cDDA|cDDHA|cNNA|cTA|cTHA|cDA|cDHA|cNA|cPA|cPHA|cBA|cBHA|cMA|cYA
   cRA|cLA|cVA|cSHA|cSSA|cSA|cHA|cLLA|cKSSA|cJNYA|cTRA|bVOWEL SIGN AA|dI|dII|dU|dUU|dVOCALIC R
   11D3A:dE|11D3C:dAI|dO|11D3F:dAU|bSIGN ANUSVARA|cVISARGA|cNUKTA|cCANDRA|cHALANTA|bVIRAMA|bREPHA
   bRA-KARA|11D50:bDIGIT ZERO|cONE|cTWO|cTHREE|cFOUR|cFIVE|cSIX|cSEVEN|cEIGHT|cNINE
   11D60:GUNJALA GONDI LETTER A|cAA|cI|cII|cU|cUU|11D67:cEE|cAI|11D6A:cOO|cAU|cYA|cVA|cBA|cBHA|cMA
   cKA|cKHA|cTA|cTHA|cLA|cGA|cGHA|cDA|cDHA|cNA|cCA|cCHA|cTTA|cTTHA|cLLA|cJA|cJHA|cDDA|cDDHA|cNGA|cPA
   cPHA|cHA|cRA|cSA|bVOWEL SIGN AA|dI|dII|dU|dUU|11D90:dEE|dAI|11D93:dOO|dAU|bSIGN ANUSVARA|cVISARGA
   bVIRAMA|bOM|11DA0:bDIGIT ZERO|cONE|cTWO|cTHREE|cFOUR|cFIVE|cSIX|cSEVEN|cEIGHT|cNINE
   11EE0:MAKASAR LETTER KA|bGA|bNGA|bPA|bBA|bMA|bTA|bDA|bNA|bCA|bJA|bNYA|bYA|bRA|bLA|bVA|bSA|bA
   aANGKA|aVOWEL SIGN I|cU|cE|cO|aPASSIMBANG|aEND OF SECTION|11F00:KAWI SIGN CANDRABINDU|bANUSVARA
   bREPHA|bVISARGA|aLETTER A|bAA|bI|bII|bU|bUU|bVOCALIC R|cRR|cL|cLL|bE|bAI|bO|11F12:bKA|bKHA|bGA
   bGHA|bNGA|bCA|bCHA|bJA|bJHA|bNYA|bTTA|bTTHA|bDDA|bDDHA|bNNA|bTA|bTHA|bDA|bDHA|bNA|bPA|bPHA|bBA
   bBHA|bMA|bYA|bRA|bLA|bWA|bSHA|bSSA|bSA|bHA|bJNYA|aVOWEL SIGN AA|cALTERNATE AA|cI|cII|cU|cUU
   cVOCALIC R|11F3E:cE|cAI|cEU|aSIGN KILLER|aCONJOINER|aDANDA|aDOUBLE DANDA
   aPUNCTUATION SECTION MARKER|bALTERNATE SECTION MARKER|bFLOWER|bSPACE FILLER|bDOT|bDOUBLE DOT
   bTRIPLE DOT|bCIRCLE|bFILLED CIRCLE|bSPIRAL|bCLOSING SPIRAL|aDIGIT ZERO|bONE|bTWO|bTHREE|bFOUR
   bFIVE|bSIX|bSEVEN|bEIGHT|bNINE|11FB0:LISU LETTER YHA
   11FC0:TAMIL FRACTION ONE THREE-HUNDRED-AND-TWENTIETH|cONE-HUNDRED-AND-SIXTIETH|cEIGHTIETH
   cSIXTY-FOURTH|cFORTIETH|cTHIRTY-SECOND|bTHREE EIGHTIETHS|cSIXTY-FOURTHS|bONE TWENTIETH
   cSIXTEENTH-1|d2|cTENTH|cEIGHTH|bTHREE TWENTIETHS|cSIXTEENTHS|bONE FIFTH|cQUARTER|cHALF-1|d2
   bTHREE QUARTERS|bDOWNSCALING FACTOR KIIZH|aSIGN NEL|bCEVITU|bAAZHAAKKU|bUZHAKKU|bMUUVUZHAKKU
   bKURUNI|bPATHAKKU|bMUKKURUNI|bKAACU|bPANAM|bPON|bVARAAKAN|bPAARAM|bKUZHI|bVELI
   aWET CULTIVATION SIGN|aDRY CULTIVATION SIGN|aLAND SIGN|aSALT PAN SIGN|aTRADITIONAL CREDIT SIGN
   bNUMBER SIGN|aCURRENT SIGN|aAND ODD SIGN|aSPENT SIGN|aTOTAL SIGN|aIN POSSESSION SIGN
   aSTARTING FROM SIGN|aSIGN MUTHALIYA|bVAKAIYARAA|11FFF:aPUNCTUATION END OF TEXT|CUNEIFORM SIGN A
   bA TIMES A|dBAD|dGAN2 TENU|dHA|dIGI|dLAGAR GUNU|dMUSH|dSAG|bA2|bAB|bAB TIMES ASH2|dDUN3 GUNU|dGAL
   dGAN2 TENU|dHA|dIGI GUNU|dIMIN|dLAGAB|dSHESH|dU PLUS U PLUS U|cGUNU|bAB2|bAB2 TIMES BALAG
   dGAN2 TENU|dME PLUS EN|dSHA3|dTAK4|bAD|bAK|bAK TIMES ERIN2|dSHITA PLUS GISH|bAL|bAL TIMES AL
   dDIM2|dGISH|dHA|dKAD3|dKI|dSHE|dUSH|bALAN|bALEPH|bAMAR|bAMAR TIMES SHE|bAN|bAN OVER AN
   cTHREE TIMES|cPLUS NAGA OPPOSING AN PLUS NAGA|eSQUARED|bANSHE|bAPIN|bARAD|bARAD TIMES KUR|bARKAB
   bASAL2|bASH|bASH ZIDA TENU|cKABA TENU|cOVER ASH TUG2 OVER TUG2 TUG2 OVER TUG2 PAP|eOVER ASH
   fASH CROSSING ASH OVER ASH OVER ASH|bASH2|bASHGAB|bBA|bBAD|bBAG3|bBAHAR2|bBAL|bBAL OVER BAL
   bBALAG|bBAR|bBARA2|bBI|bBI TIMES A|dGAR|dIGI GUNU|bBU|bBU OVER BU AB|eUN|cCROSSING BU|bBULUG
   bBULUG OVER BULUG|bBUR|bBUR2|bDA|bDAG|bDAG KISIM5 TIMES A PLUS MASH|eAMAR|eBALAG|eBI|eGA
   eGA PLUS MASH|eGI|eGIR2|eGUD|eHA|eIR|eIR PLUS LU|eKAK|eLA|eLU|eLU PLUS MASH2|eLUM|eNE
   ePAP PLUS PAP|eSI|eTAK4|eU2 PLUS GIR2|eUSH|bDAM|bDAR|bDARA3|bDARA4|bDI|bDIB|bDIM|bDIM TIMES SHE
   bDIM2|bDIN|bDIN KASKAL U GUNU DISH|bDISH|bDU|bDU OVER DU|cGUNU|cSHESHIG|bDUB|bDUB TIMES ESH2
   bDUB2|bDUG|bDUGUD|bDUH|bDUN|bDUN3|bDUN3 GUNU|cGUNU GUNU|bDUN4|bDUR2|bE|bE TIMES PAP
   cOVER E NUN OVER NUN|bE2|bE2 TIMES A PLUS HA PLUS DA|dGAR|dMI|dSAL|dSHE|dU|bEDIN|bEGIR|bEL|bEN
   bEN TIMES GAN2|dGAN2 TENU|dME|cCROSSING EN|cOPPOSING EN|cSQUARED|bEREN|bERIN2|bESH2|bEZEN
   bEZEN TIMES A|dA PLUS LAL|fLAL TIMES LAL|dAN|dBAD|dDUN3 GUNU|eGUNU GUNU|dHA|dHA GUNU|dIGI GUNU
   dKASKAL|dKASKAL SQUARED|dKU3|dLA|dLAL TIMES LAL|dLI|dLU|dU2|dUD|bGA|bGA GUNU|bGA2
   bGA2 TIMES A PLUS DA PLUS HA|fHA|fIGI|dAB2 TENU PLUS TAB|dAN|dASH|dASH2 PLUS GAL|dBAD
   dBAR PLUS RA|dBUR|dBUR PLUS RA|dDA|dDI|dDIM TIMES SHE|dDUB|dEL|dEL PLUS LA|dEN
   dEN TIMES GAN2 TENU|dGAN2 TENU|dGAR|dGI|dGI4|dGI4 PLUS A|dGIR2 PLUS SU|dHA PLUS LU PLUS ESH2|dHAL
   dHAL PLUS LA|dHI PLUS LI|dHUB2|dIGI GUNU|dISH PLUS HU PLUS ASH|dKAK|dKASKAL|dKID|dKID PLUS LAL
   dKU3 PLUS AN|dLA|dME PLUS EN|dMI|dNUN|dNUN OVER NUN|dPA|dSAL|dSAR|dSHE|dSHE PLUS TUR|dSHID|dSUM
   dTAK4|dU|dUD|dUD PLUS DU|cOVER GA2|bGABA|bGABA CROSSING GABA|bGAD|bGAD OVER GAD GAR OVER GAR|bGAL
   bGAL GAD OVER GAD GAR OVER GAR|bGALAM|bGAM|bGAN|bGAN2|bGAN2 TENU|cOVER GAN2|cCROSSING GAN2|bGAR
   bGAR3|bGASHAN|bGESHTIN|bGESHTIN TIMES KUR|bGI|bGI TIMES E|dU|cCROSSING GI|bGI4|bGI4 OVER GI4
   cCROSSING GI4|bGIDIM|bGIR2|bGIR2 GUNU|bGIR3|bGIR3 TIMES A PLUS IGI|dGAN2 TENU|dIGI|dLU PLUS IGI
   dPA|bGISAL|bGISH|bGISH CROSSING GISH|cTIMES BAD|dTAK4|cTENU|bGU|bGU CROSSING GU|bGU2
   bGU2 TIMES KAK|dKAK TIMES IGI GUNU|dNUN|dSAL PLUS TUG2|cGUNU|bGUD|bGUD TIMES A PLUS KUR|dKUR
   cOVER GUD LUGAL|bGUL|bGUM|bGUM TIMES SHE|bGUR|bGUR7|bGURUN|bGURUSH|bHA|bHA TENU|cGUNU|bHAL|bHI
   bHI TIMES ASH|dASH2|dBAD|dDISH|dGAD|dKIN|dNUN|dSHE|dU|bHU|bHUB2|bHUB2 TIMES AN|dHAL|dKASKAL|dLISH
   dUD|bHUL2|bI|bI A|bIB|bIDIM|bIDIM OVER IDIM BUR|eSQUARED|bIG|bIGI|bIGI DIB|cRI
   cOVER IGI SHIR OVER SHIR UD OVER UD|cGUNU|bIL|bIL TIMES GAN2 TENU|bIL2|bIM|bIM TIMES TAK4
   cCROSSING IM|cOPPOSING IM|cSQUARED|bIMIN|bIN|bIR|bISH|bKA|bKA TIMES A|dAD|dAD PLUS KU3|dASH2|dBAD
   dBALAG|dBAR|dBI|dERIN2|dESH2|dGA|dGAL|dGAN2 TENU|dGAR|dGAR PLUS SHA3 PLUS A|dGI|dGIR2
   dGISH PLUS SAR|eCROSSING GISH|dGU|dGUR7|dIGI|dIM|dKAK|dKI|dKID|dLI|dLU|dME|dME PLUS DU|fGI|fTE
   dMI|dMI PLUS NUNUZ|dNE|dNUN|dPI|dRU|dSA|dSAR|dSHA|dSHE|dSHID|dSHU|dSIG|dSUHUR|dTAR|dU|dU2|dUD
   dUMUM TIMES PA|dUSH|dZI|bKA2|bKA2 CROSSING KA2|bKAB|bKAD2|bKAD3|bKAD4|bKAD5|bKAD5 OVER KAD5|bKAK
   bKAK TIMES IGI GUNU|bKAL|bKAL TIMES BAD|cCROSSING KAL|bKAM2|bKAM4|bKASKAL
   bKASKAL LAGAB TIMES U OVER LAGAB TIMES U|cOVER KASKAL LAGAB TIMES U OVER LAGAB TIMES U|bKESH2|bKI
   bKI TIMES BAD|dU|dUD|bKID|bKIN|bKISAL|bKISH|bKISIM5|bKISIM5 OVER KISIM5|bKU
   bKU OVER HI TIMES ASH2 KU OVER HI TIMES ASH2|bKU3|bKU4|bKU4 VARIANT FORM|bKU7|bKUL|bKUL GUNU|bKUN
   bKUR|bKUR OPPOSING KUR|bKUSHU2|bKWU318|bLA|bLAGAB|bLAGAB TIMES A|dA PLUS DA PLUS HA|fGAR|fLAL|dAL
   dAN|dASH ZIDA TENU|dBAD|dBI|dDAR|dEN|dGA|dGAR|dGUD|dGUD PLUS GUD|dHA|dHAL|dHI TIMES NUN|dIGI GUNU
   dIM|dIM PLUS HA|fLU|dKI|dKIN|dKU3|dKUL|dKUL PLUS HI PLUS A|dLAGAB|dLISH|dLU|dLUL|dME|dME PLUS EN
   dMUSH|dNE|dSHE PLUS SUM|dSHITA PLUS GISH PLUS ERIN2|gTENU|dSHU2|dSHU2 PLUS SHU2|dSUM|dTAG|dTAK4
   dTE PLUS A PLUS SU PLUS NA|dU|dU PLUS A|fU PLUS U|dU2 PLUS ASH|dUD|dUSH|cSQUARED|bLAGAR
   bLAGAR TIMES SHE|dSHE PLUS SUM|cGUNU|cGUNU OVER LAGAR GUNU SHE|bLAHSHU|bLAL|bLAL TIMES LAL|bLAM
   bLAM TIMES KUR|dKUR PLUS RU|bLI|bLIL|bLIMMU2|bLISH|bLU|bLU TIMES BAD|bLU2|bLU2 TIMES AL|dBAD
   dESH2|dESH2 TENU|dGAN2 TENU|dHI TIMES BAD|dIM|dKAD2|dKAD3|dKAD3 PLUS ASH|dKI|dLA PLUS ASH|dLAGAB
   dME PLUS EN|dNE|dNU|dSI PLUS ASH|dSIK2 PLUS BU|dTUG2|cTENU|cCROSSING LU2|cOPPOSING LU2|cSQUARED
   cSHESHIG|bLU3|bLUGAL|bLUGAL OVER LUGAL|cOPPOSING LUGAL|cSHESHIG|bLUH|bLUL|bLUM|bLUM OVER LUM
   dLUM GAR OVER GAR|bMA|bMA TIMES TAK4|cGUNU|bMA2|bMAH|bMAR|bMASH|bMASH2|bME|bMES|bMI|bMIN|bMU
   bMU OVER MU|bMUG|bMUG GUNU|bMUNSUB|bMURGU2|bMUSH|bMUSH TIMES A|dKUR|dZA|cOVER MUSH
   dMUSH TIMES A PLUS NA|cCROSSING MUSH|bMUSH3|bMUSH3 TIMES A|dA PLUS DI|dDI|cGUNU|bNA|bNA2|bNAGA
   bNAGA INVERTED|cTIMES SHU TENU|cOPPOSING NAGA|bNAGAR|bNAM NUTILLU|bNAM|bNAM2|bNE|bNE TIMES A|dUD
   cSHESHIG|bNI|bNI TIMES E|bNI2|bNIM|bNIM TIMES GAN2 TENU|dGAR PLUS GAN2 TENU|bNINDA2
   bNINDA2 TIMES AN|dASH|dASH PLUS ASH|dGUD|dME PLUS GAN2 TENU|dNE|dNUN|dSHE|dSHE PLUS A AN|fASH
   fASH PLUS ASH|dU2 PLUS ASH|dUSH|bNISAG|bNU|bNU11|bNUN|bNUN LAGAR TIMES GAR|eMASH|eSAL
   eSAL OVER NUN LAGAR TIMES SAL|eUSH|cTENU|cOVER NUN|cCROSSING NUN|dNUN LAGAR OVER LAGAR|bNUNUZ
   bNUNUZ AB2 TIMES ASHGAB|eBI|eDUG|eGUD|eIGI GUNU|eKAD3|eLA|eNE|eSILA3|eU2|cKISIM5 TIMES BI|eBI U
   bPA|bPAD|bPAN|bPAP|bPESH2|bPI|bPI TIMES A|dAB|dBI|dBU|dE|dI|dIB|dU|dU2|cCROSSING PI|bPIRIG
   bPIRIG TIMES KAL|dUD|dZA|cOPPOSING PIRIG|bRA|bRAB|bRI|bRU|bSA|bSAG NUTILLU|bSAG|bSAG TIMES A|dDU
   dDUB|dHA|dKAK|dKUR|dLUM|dMI|dNUN|dSAL|dSHID|dTAB|dU2|dUB|dUM|dUR|dUSH|cOVER SAG|cGUNU|bSAL
   bSAL LAGAB TIMES ASH2|bSANGA2|bSAR|bSHA|bSHA3|bSHA3 TIMES A|dBAD|dGISH|dNE|dSHU2|dTUR|dU
   dU PLUS A|bSHA6|bSHAB6|bSHAR2|bSHE|bSHE HU|cOVER SHE GAD OVER GAD GAR OVER GAR
   eTAB OVER TAB GAR OVER GAR|bSHEG9|bSHEN|bSHESH|bSHESH2|bSHESHLAM|bSHID|bSHID TIMES A|dIM|bSHIM
   bSHIM TIMES A|dBAL|dBULUG|dDIN|dGAR|dIGI|dIGI GUNU|dKUSHU2|dLUL|dMUG|dSAL|bSHINIG|bSHIR
   bSHIR TENU|cOVER SHIR BUR OVER BUR|bSHITA|bSHU|bSHU OVER INVERTED SHU|bSHU2|bSHUBUR|bSI|bSI GUNU
   bSIG|bSIG4|bSIG4 OVER SIG4 SHU2|bSIK2|bSILA3|bSU|bSU OVER SU|bSUD|bSUD2|bSUHUR|bSUM|bSUMASH|bSUR
   bSUR9|bTA|bTA ASTERISK|cTIMES HI|dMI|cGUNU|bTAB|bTAB OVER TAB NI OVER NI DISH OVER DISH|cSQUARED
   bTAG|bTAG TIMES BI|dGUD|dSHE|dSHU|dTUG2|dUD|bTAK4|bTAR|bTE|bTE GUNU|bTI|bTI TENU|bTIL|bTIR
   bTIR TIMES TAK4|cOVER TIR|dTIR GAD OVER GAD GAR OVER GAR|bTU|bTUG2|bTUK|bTUM|bTUR
   bTUR OVER TUR ZA OVER ZA|bU|bU GUD|cU U|cOVER U PA OVER PA GAR OVER GAR|eSUR OVER SUR
   eU REVERSED OVER U REVERSED|bU2|bUB|bUD|bUD KUSHU2|cTIMES BAD|dMI|dU PLUS U PLUS U|hU GUNU|cGUNU
   cSHESHIG|cSHESHIG TIMES BAD|bUDUG|bUM|bUM TIMES LAGAB|dME PLUS DA|dSHA3|dU|bUMBIN|bUMUM
   bUMUM TIMES KASKAL|dPA|bUN|bUN GUNU|bUR|bUR CROSSING UR|cSHESHIG|bUR2|bUR2 TIMES A PLUS HA|fNA
   dAL|dHA|dNUN|dU2|dU2 PLUS ASH|fBI|bUR4|bURI|bURI3|bURU|bURU TIMES A|dASHGAB|dBAR|dDUN|dGA|dGAL
   dGAN2 TENU|dGAR|dGU|dHA|dIGI|dIM|dISH|dKI|dLUM|dMIN|dPA|dSHE|dSIG4|dTU|dU PLUS GUD|dUD|dURUDA
   bURUDA|bURUDA TIMES U|bUSH|bUSH TIMES A|dKU|dKUR|dTAK4|bUSHX|bUSH2|bUSHUMX|bUTUKI|bUZ3
   bUZ3 TIMES KASKAL|bUZU|bZA|bZA TENU|cSQUARED TIMES KUR|bZAG|bZAMX|bZE2|bZI|bZI OVER ZI|bZI3|bZIB
   bZIB KABA TENU|bZIG|bZIZ2|bZU|bZU5|bZU5 TIMES A|bZUBUR|bZUM|bKAP ELAMITE|bAB TIMES NUN
   bAB2 TIMES A|bAMAR TIMES KUG|bDAG KISIM5 TIMES U2 PLUS MASH|bDAG3|bDISH PLUS SHU|bDUB TIMES SHE
   bEZEN TIMES GUD|dSHE|bGA2 TIMES AN PLUS KAK PLUS A|dASH2|bGE22|bGIG|bHUSH|bKA TIMES ANSHE|dASH3
   dGISH|dGUD|dHI TIMES ASH2|dLUM|dPA|dSHUL|dTU|dUR2|bLAGAB TIMES GI|bLU2 SHESHIG TIMES BAD
   cTIMES ESH2 PLUS LAL|dSHU|bMESH|bMUSH3 TIMES ZA|bNA4|bNIN|bNIN9|bNINDA2 TIMES BAL|dGI
   bNU11 ROTATED NINETY DEGREES|bPESH2 ASTERISK|bPIR2|bSAG TIMES IGI GUNU|bTI2|bUM TIMES ME|bU U
   12400:aNUMERIC SIGN TWO ASH|cTHREE ASH|cFOUR ASH|cFIVE ASH|cSIX ASH|cSEVEN ASH|cEIGHT ASH
   cNINE ASH|cTHREE DISH|cFOUR DISH|cFIVE DISH|cSIX DISH|cSEVEN DISH|cEIGHT DISH|cNINE DISH|cFOUR U
   cFIVE U|cSIX U|cSEVEN U|cEIGHT U|cNINE U|cONE GESH2|cTWO GESH2|cTHREE GESH2|cFOUR GESH2
   cFIVE GESH2|cSIX GESH2|cSEVEN GESH2|cEIGHT GESH2|cNINE GESH2|cONE GESHU|cTWO GESHU|cTHREE GESHU
   cFOUR GESHU|cFIVE GESHU|cTWO SHAR2|cTHREE SHAR2|dSHAR2 VARIANT FORM|cFOUR SHAR2|cFIVE SHAR2
   cSIX SHAR2|cSEVEN SHAR2|cEIGHT SHAR2|cNINE SHAR2|cONE SHARU|cTWO SHARU|cTHREE SHARU
   dSHARU VARIANT FORM|cFOUR SHARU|cFIVE SHARU|cSHAR2 TIMES GAL PLUS DISH|gMIN|cONE BURU|cTWO BURU
   cTHREE BURU|dBURU VARIANT FORM|cFOUR BURU|cFIVE BURU|cTHREE VARIANT FORM ESH16|fESH21
   cFOUR VARIANT FORM LIMMU|fLIMMU4|fLIMMU A|gB|cSIX VARIANT FORM ASH9|cSEVEN VARIANT FORM IMIN3
   fIMIN A|gB|cEIGHT VARIANT FORM USSU|fUSSU3|cNINE VARIANT FORM ILIMMU|fILIMMU3|fILIMMU4|fILIMMU A
   cTWO ASH TENU|cTHREE ASH TENU|cFOUR ASH TENU|cFIVE ASH TENU|cSIX ASH TENU|cONE BAN2|cTWO BAN2
   cTHREE BAN2|cFOUR BAN2|dBAN2 VARIANT FORM|cFIVE BAN2|dBAN2 VARIANT FORM|cNIGIDAMIN|cNIGIDAESH
   cONE ESHE3|cTWO ESHE3|cONE THIRD DISH|cTWO THIRDS DISH|cFIVE SIXTHS DISH
   cONE THIRD VARIANT FORM A|cTWO THIRDS VARIANT FORM A|cONE EIGHTH ASH|dQUARTER ASH
   cOLD ASSYRIAN ONE SIXTH|fQUARTER|cONE QUARTER GUR|dHALF GUR|cELAMITE ONE THIRD|dTWO THIRDS|dFORTY
   dFIFTY|cFOUR U VARIANT FORM|cFIVE U VARIANT FORM|cSIX U VARIANT FORM|cSEVEN U VARIANT FORM
   cEIGHT U VARIANT FORM|cNINE U VARIANT FORM|12470:aPUNCTUATION SIGN OLD ASSYRIAN WORD DIVIDER
   cVERTICAL COLON|cDIAGONAL COLON|dTRICOLON|dQUADCOLON|12480:aSIGN AB TIMES NUN TENU|dSHU2
   bAD TIMES ESH2|bBAD TIMES DISH TENU|bBAHAR2 TIMES AB2|dNI|dZA|bBU OVER BU TIMES NA2
   bDA TIMES TAK4|bDAG TIMES KUR|bDIM TIMES IGI|dU U U|bDIM2 TIMES UD|bDUG TIMES ANSHE|dASH
   dASH AT LEFT|dDIN|dDUN|dERIN2|dGA|dGI|dGIR2 GUNU|dGISH|dHA|dHI|dIGI GUNU|dKASKAL|dKUR|dKUSHU2
   dKUSHU2 PLUS KASKAL|dLAK-020|dLAM|dLAM TIMES KUR|dLUH PLUS GISH|dMASH|dMES|dMI|dNI|dPI|dSHE
   dSI GUNU|bE2 TIMES KUR|dPAP|bERIN2 X|bESH2 CROSSING ESH2|bEZEN SHESHIG TIMES ASH|eHI|eIGI GUNU
   eLA|eLAL|eME|eMES|eSU|cTIMES SU|bGA2 TIMES BAHAR2|dDIM GUNU|dDUG TIMES IGI GUNU|fKASKAL|dEREN|dGA
   dGAR PLUS DI|fNE|dHA PLUS A|dKUSHU2 PLUS KASKAL|dLAM|dLAM TIMES KUR|dLUH|dMUSH|dNE|dNE PLUS E2
   fGI|dSHIM|dZIZ2|bGABA ROTATED NINETY DEGREES|bGESHTIN TIMES U|bGISH TIMES GISH CROSSING GISH
   bGU2 TIMES IGI GUNU|bGUD PLUS GISH TIMES TAK4|bHA TENU GUNU|bHI TIMES ASH OVER HI TIMES ASH
   bKA TIMES BU|dKA|dU U U|dUR|bLAGAB TIMES ZU OVER ZU|bLAK-003|c021|c025|c030|c050|c051|c062
   c079 OVER LAK-079 GUNU|c080|c081 OVER LAK-081|c092|c130|c142|c210|c219|c220|c225|c228|c238|c265
   c266|c343|c347|c348|c383|c384|c390|c441|c449|c449 TIMES GU|eIGI|ePAP PLUS LU3|gPAP PLUS LU3
   eU2 PLUS BA|c450|c457|c470|c483|c490|c492|c493|c495|c550|c608|c617|c617 TIMES ASH|eBAD
   eDUN3 GUNU GUNU|eKU3|eLA|eTAR|eTE|eU2|eUD|eURUDA|c636|c648|c648 TIMES DUB|eGA|eIGI|eIGI GUNU|eNI
   ePAP PLUS PAP PLUS LU3|eSHESH PLUS KI|eUD|eURUDA|c724|c749|bLU2 GUNU TIMES ASH|cTIMES DISH|dHAL
   dPAP|dPAP PLUS PAP PLUS LU3|dTAK4|bMI PLUS ZA7|bMUSH OVER MUSH TIMES GA|fKAK
   bNINDA2 TIMES DIM GUNU|dGISH|dGUL|dHI|dKESH2|dLAK-050|dMASH|dPAP PLUS PAP|dU|dU PLUS U|dURUDA
   bSAG GUNU TIMES HA|cTIMES EN|dSHE AT LEFT|dTAK4|bSHA6 TENU|bSHE OVER SHE|cPLUS HUB2|dNAM2|dSAR
   bSHU2 PLUS DUG TIMES NI|dE2 TIMES AN|bSI TIMES TAK4|bTAK4 PLUS SAG|bTUM TIMES GAN2 TENU
   dTHREE DISH|bUR2 INVERTED|cTIMES UD|bURU TIMES DARA3|dLAK-668|dLU3|bZA7|bZU OVER ZU PLUS SAR
   bZU5 TIMES THREE DISH TENU"

end Actionary.Text
