/-!
# Names of the characters from 0x124A to 0x2426

Each entry names the character after the one before it, or the one whose code point is written in
front of a colon. A small letter stands for as many words of the name before, counted from `a`.
-/

namespace Actionary.Text

/-- Names of the characters from 0x124A to 0x2426. -/
def charactersFrom124A : String :=
  "124A:ETHIOPIC SYLLABLE QWI|bQWAA|bQWEE|bQWE|1250:bQHA|bQHU|bQHI|bQHAA|bQHEE|bQHE|bQHO|1258:bQHWA
   125A:bQHWI|bQHWAA|bQHWEE|bQHWE|1260:bBA|bBU|bBI|bBAA|bBEE|bBE|bBO|bBWA|bVA|bVU|bVI|bVAA|bVEE|bVE
   bVO|bVWA|bTA|bTU|bTI|bTAA|bTEE|bTE|bTO|bTWA|bCA|bCU|bCI|bCAA|bCEE|bCE|bCO|bCWA|bXA|bXU|bXI|bXAA
   bXEE|bXE|bXO|bXOA|bXWA|128A:bXWI|bXWAA|bXWEE|bXWE|1290:bNA|bNU|bNI|bNAA|bNEE|bNE|bNO|bNWA|bNYA
   bNYU|bNYI|bNYAA|bNYEE|bNYE|bNYO|bNYWA|bGLOTTAL A|cU|cI|cAA|cEE|cE|cO|cWA|bKA|bKU|bKI|bKAA|bKEE
   bKE|bKO|bKOA|bKWA|12B2:bKWI|bKWAA|bKWEE|bKWE|12B8:bKXA|bKXU|bKXI|bKXAA|bKXEE|bKXE|bKXO|12C0:bKXWA
   12C2:bKXWI|bKXWAA|bKXWEE|bKXWE|12C8:bWA|bWU|bWI|bWAA|bWEE|bWE|bWO|bWOA|bPHARYNGEAL A|cU|cI|cAA
   cEE|cE|cO|12D8:bZA|bZU|bZI|bZAA|bZEE|bZE|bZO|bZWA|bZHA|bZHU|bZHI|bZHAA|bZHEE|bZHE|bZHO|bZHWA|bYA
   bYU|bYI|bYAA|bYEE|bYE|bYO|bYOA|bDA|bDU|bDI|bDAA|bDEE|bDE|bDO|bDWA|bDDA|bDDU|bDDI|bDDAA|bDDEE|bDDE
   bDDO|bDDWA|bJA|bJU|bJI|bJAA|bJEE|bJE|bJO|bJWA|bGA|bGU|bGI|bGAA|bGEE|bGE|bGO|bGOA|bGWA|1312:bGWI
   bGWAA|bGWEE|bGWE|1318:bGGA|bGGU|bGGI|bGGAA|bGGEE|bGGE|bGGO|bGGWAA|bTHA|bTHU|bTHI|bTHAA|bTHEE|bTHE
   bTHO|bTHWA|bCHA|bCHU|bCHI|bCHAA|bCHEE|bCHE|bCHO|bCHWA|bPHA|bPHU|bPHI|bPHAA|bPHEE|bPHE|bPHO|bPHWA
   bTSA|bTSU|bTSI|bTSAA|bTSEE|bTSE|bTSO|bTSWA|bTZA|bTZU|bTZI|bTZAA|bTZEE|bTZE|bTZO|bTZOA|bFA|bFU|bFI
   bFAA|bFEE|bFE|bFO|bFWA|bPA|bPU|bPI|bPAA|bPEE|bPE|bPO|bPWA|bRYA|bMYA|bFYA
   135D:aCOMBINING GEMINATION AND VOWEL LENGTH MARK|bVOWEL LENGTH MARK|bGEMINATION MARK
   aSECTION MARK|aWORDSPACE|aFULL STOP|aCOMMA|aSEMICOLON|aCOLON|aPREFACE COLON|aQUESTION MARK
   aPARAGRAPH SEPARATOR|aDIGIT ONE|bTWO|bTHREE|bFOUR|bFIVE|bSIX|bSEVEN|bEIGHT|bNINE|aNUMBER TEN
   bTWENTY|bTHIRTY|bFORTY|bFIFTY|bSIXTY|bSEVENTY|bEIGHTY|bNINETY|bHUNDRED|bTEN THOUSAND
   1380:aSYLLABLE SEBATBEIT MWA|bMWI|bMWEE|bMWE|bSEBATBEIT BWA|bBWI|bBWEE|bBWE|bSEBATBEIT FWA|bFWI
   bFWEE|bFWE|bSEBATBEIT PWA|bPWI|bPWEE|bPWE|aTONAL MARK YIZET|cDERET|cRIKRIK|cSHORT RIKRIK|cDIFAT
   cKENAT|cCHIRET|cHIDET|cDERET-HIDET|cKURT|13A0:CHEROKEE LETTER A|bE|bI|bO|bU|bV|bGA|bKA|bGE|bGI
   bGO|bGU|bGV|bHA|bHE|bHI|bHO|bHU|bHV|bLA|bLE|bLI|bLO|bLU|bLV|bMA|bME|bMI|bMO|bMU|bNA|bHNA|bNAH|bNE
   bNI|bNO|bNU|bNV|bQUA|bQUE|bQUI|bQUO|bQUU|bQUV|bSA|bS|bSE|bSI|bSO|bSU|bSV|bDA|bTA|bDE|bTE|bDI|bTI
   bDO|bDU|bDV|bDLA|bTLA|bTLE|bTLI|bTLO|bTLU|bTLV|bTSA|bTSE|bTSI|bTSO|bTSU|bTSV|bWA|bWE|bWI|bWO|bWU
   bWV|bYA|bYE|bYI|bYO|bYU|bYV|bMV|13F8:aSMALL LETTER YE|cYI|cYO|cYU|cYV|cMV
   1400:CANADIAN SYLLABICS HYPHEN|bE|bAAI|bI|bII|bO|bOO|bY-CREE OO|bCARRIER EE|cI|bA|bAA|bWE
   bWEST-CREE WE|bWI|bWEST-CREE WI|bWII|bWEST-CREE WII|bWO|bWEST-CREE WO|bWOO|bWEST-CREE WOO
   bNASKAPI WOO|bWA|bWEST-CREE WA|bWAA|bWEST-CREE WAA|bNASKAPI WAA|bAI|bY-CREE W|bGLOTTAL STOP
   bFINAL ACUTE|cGRAVE|cBOTTOM HALF RING|cTOP HALF RING|cRIGHT HALF RING|cRING|cDOUBLE ACUTE
   dSHORT VERTICAL STROKES|cMIDDLE DOT|cSHORT HORIZONTAL STROKE|cPLUS|cDOWN TACK|bEN|bIN|bON|bAN|bPE
   bPAAI|bPI|bPII|bPO|bPOO|bY-CREE POO|bCARRIER HEE|cHI|bPA|bPAA|bPWE|bWEST-CREE PWE|bPWI
   bWEST-CREE PWI|bPWII|bWEST-CREE PWII|bPWO|bWEST-CREE PWO|bPWOO|bWEST-CREE PWOO|bPWA
   bWEST-CREE PWA|bPWAA|bWEST-CREE PWAA|bY-CREE PWAA|bP|bWEST-CREE P|bCARRIER H|bTE|bTAAI|bTI|bTII
   bTO|bTOO|bY-CREE TOO|bCARRIER DEE|cDI|bTA|bTAA|bTWE|bWEST-CREE TWE|bTWI|bWEST-CREE TWI|bTWII
   bWEST-CREE TWII|bTWO|bWEST-CREE TWO|bTWOO|bWEST-CREE TWOO|bTWA|bWEST-CREE TWA|bTWAA
   bWEST-CREE TWAA|bNASKAPI TWAA|bT|bTTE|bTTI|bTTO|bTTA|bKE|bKAAI|bKI|bKII|bKO|bKOO|bY-CREE KOO|bKA
   bKAA|bKWE|bWEST-CREE KWE|bKWI|bWEST-CREE KWI|bKWII|bWEST-CREE KWII|bKWO|bWEST-CREE KWO|bKWOO
   bWEST-CREE KWOO|bKWA|bWEST-CREE KWA|bKWAA|bWEST-CREE KWAA|bNASKAPI KWAA|bK|bKW|bSOUTH-SLAVEY KEH
   dKIH|dKOH|dKAH|bCE|bCAAI|bCI|bCII|bCO|bCOO|bY-CREE COO|bCA|bCAA|bCWE|bWEST-CREE CWE|bCWI
   bWEST-CREE CWI|bCWII|bWEST-CREE CWII|bCWO|bWEST-CREE CWO|bCWOO|bWEST-CREE CWOO|bCWA
   bWEST-CREE CWA|bCWAA|bWEST-CREE CWAA|bNASKAPI CWAA|bC|bSAYISI TH|bME|bMAAI|bMI|bMII|bMO|bMOO
   bY-CREE MOO|bMA|bMAA|bMWE|bWEST-CREE MWE|bMWI|bWEST-CREE MWI|bMWII|bWEST-CREE MWII|bMWO
   bWEST-CREE MWO|bMWOO|bWEST-CREE MWOO|bMWA|bWEST-CREE MWA|bMWAA|bWEST-CREE MWAA|bNASKAPI MWAA|bM
   bWEST-CREE M|bMH|bATHAPASCAN M|bSAYISI M|bNE|bNAAI|bNI|bNII|bNO|bNOO|bY-CREE NOO|bNA|bNAA|bNWE
   bWEST-CREE NWE|bNWA|bWEST-CREE NWA|bNWAA|bWEST-CREE NWAA|bNASKAPI NWAA|bN|bCARRIER NG|bNH|bLE
   bLAAI|bLI|bLII|bLO|bLOO|bY-CREE LOO|bLA|bLAA|bLWE|bWEST-CREE LWE|bLWI|bWEST-CREE LWI|bLWII
   bWEST-CREE LWII|bLWO|bWEST-CREE LWO|bLWOO|bWEST-CREE LWOO|bLWA|bWEST-CREE LWA|bLWAA
   bWEST-CREE LWAA|bL|bWEST-CREE L|bMEDIAL L|bSE|bSAAI|bSI|bSII|bSO|bSOO|bY-CREE SOO|bSA|bSAA|bSWE
   bWEST-CREE SWE|bSWI|bWEST-CREE SWI|bSWII|bWEST-CREE SWII|bSWO|bWEST-CREE SWO|bSWOO
   bWEST-CREE SWOO|bSWA|bWEST-CREE SWA|bSWAA|bWEST-CREE SWAA|bNASKAPI SWAA|bS|bATHAPASCAN S|bSW
   bBLACKFOOT S|bMOOSE-CREE SK|bNASKAPI SKW|cS-W|cSPWA|cSTWA|cSKWA|cSCWA|bSHE|bSHI|bSHII|bSHO|bSHOO
   bSHA|bSHAA|bSHWE|bWEST-CREE SHWE|bSHWI|bWEST-CREE SHWI|bSHWII|bWEST-CREE SHWII|bSHWO
   bWEST-CREE SHWO|bSHWOO|bWEST-CREE SHWOO|bSHWA|bWEST-CREE SHWA|bSHWAA|bWEST-CREE SHWAA|bSH|bYE
   bYAAI|bYI|bYII|bYO|bYOO|bY-CREE YOO|bYA|bYAA|bYWE|bWEST-CREE YWE|bYWI|bWEST-CREE YWI|bYWII
   bWEST-CREE YWII|bYWO|bWEST-CREE YWO|bYWOO|bWEST-CREE YWOO|bYWA|bWEST-CREE YWA|bYWAA
   bWEST-CREE YWAA|bNASKAPI YWAA|bY|bBIBLE-CREE Y|bWEST-CREE Y|bSAYISI YI|bRE|bR-CREE RE
   bWEST-CREE LE|bRAAI|bRI|bRII|bRO|bROO|bWEST-CREE LO|bRA|bRAA|bWEST-CREE LA|bRWAA|bWEST-CREE RWAA
   bR|bWEST-CREE R|bMEDIAL R|bFE|bFAAI|bFI|bFII|bFO|bFOO|bFA|bFAA|bFWAA|bWEST-CREE FWAA|bF|bTHE
   bN-CREE THE|bTHI|bN-CREE THI|bTHII|bN-CREE THII|bTHO|bTHOO|bTHA|bTHAA|bTHWAA|bWEST-CREE THWAA|bTH
   bTTHE|bTTHI|bTTHO|bTTHA|bTTH|bTYE|bTYI|bTYO|bTYA|bNUNAVIK HE|cHI|cHII|cHO|cHOO|cHA|cHAA|cH
   bNUNAVUT H|bHK|bQAAI|bQI|bQII|bQO|bQOO|bQA|bQAA|bQ|bTLHE|bTLHI|bTLHO|bTLHA|bWEST-CREE RE|dRI|dRO
   dRA|bNGAAI|bNGI|bNGII|bNGO|bNGOO|bNGA|bNGAA|bNG|bNNG|bSAYISI SHE|cSHI|cSHO|cSHA|bWOODS-CREE THE
   dTHI|dTHO|dTHA|dTH|bLHI|bLHII|bLHO|bLHOO|bLHA|bLHAA|bLH|bTH-CREE THE|dTHI|dTHII|dTHO|dTHOO|dTHA
   dTHAA|dTH|bAIVILIK B|bBLACKFOOT E|cI|cO|cA|cWE|cWI|cWO|cWA|cNE|cNI|cNO|cNA|cKE|cKI|cKO|cKA
   bSAYISI HE|cHI|cHO|cHA|bCARRIER GHU|cGHO|cGHE|cGHEE|cGHI|cGHA|cRU|cRO|cRE|cREE|cRI|cRA|cWU|cWO
   cWE|cWEE|cWI|cWA|cHWU|cHWO|cHWE|cHWEE|cHWI|cHWA|cTHU|cTHO|cTHE|cTHEE|cTHI|cTHA|cTTU|cTTO|cTTE
   cTTEE|cTTI|cTTA|cPU|cPO|cPE|cPEE|cPI|cPA|cP|cGU|cGO|cGE|cGEE|cGI|cGA|cKHU|cKHO|cKHE|cKHEE|cKHI
   cKHA|cKKU|cKKO|cKKE|cKKEE|cKKI|cKKA|cKK|cNU|cNO|cNE|cNEE|cNI|cNA|cMU|cMO|cME|cMEE|cMI|cMA|cYU|cYO
   cYE|cYEE|cYI|cYA|cJU|bSAYISI JU|bCARRIER JO|cJE|cJEE|cJI|bSAYISI JI|bCARRIER JA|cJJU|cJJO|cJJE
   cJJEE|cJJI|cJJA|cLU|cLO|cLE|cLEE|cLI|cLA|cDLU|cDLO|cDLE|cDLEE|cDLI|cDLA|cLHU|cLHO|cLHE|cLHEE|cLHI
   cLHA|cTLHU|cTLHO|cTLHE|cTLHEE|cTLHI|cTLHA|cTLU|cTLO|cTLE|cTLEE|cTLI|cTLA|cZU|cZO|cZE|cZEE|cZI|cZA
   cZ|cINITIAL Z|cDZU|cDZO|cDZE|cDZEE|cDZI|cDZA|cSU|cSO|cSE|cSEE|cSI|cSA|cSHU|cSHO|cSHE|cSHEE|cSHI
   cSHA|cSH|cTSU|cTSO|cTSE|cTSEE|cTSI|cTSA|cCHU|cCHO|cCHE|cCHEE|cCHI|cCHA|cTTSU|cTTSO|cTTSE|cTTSEE
   cTTSI|cTTSA|bCHI SIGN|bFULL STOP|bQAI|bNGAI|bNNGI|bNNGII|bNNGO|bNNGOO|bNNGA|bNNGAA
   bWOODS-CREE THWEE|dTHWI|dTHWII|dTHWO|dTHWOO|dTHWA|dTHWAA|dFINAL TH|bBLACKFOOT W|OGHAM SPACE MARK
   aLETTER BEITH|bLUIS|bFEARN|bSAIL|bNION|bUATH|bDAIR|bTINNE|bCOLL|bCEIRT|bMUIN|bGORT|bNGEADAL
   bSTRAIF|bRUIS|bAILM|bONN|bUR|bEADHADH|bIODHADH|bEABHADH|bOR|bUILLEANN|bIFIN|bEAMHANCHOLL|bPEITH
   aFEATHER MARK|aREVERSED FEATHER MARK|16A0:RUNIC LETTER FEHU FEOH FE F|bV|bURUZ UR U|bYR|bY|bW
   bTHURISAZ THURS THORN|bETH|bANSUZ A|bOS O|bAC A|bAESC|bLONG-BRANCH-OSS O|bSHORT-TWIG-OSS O|bO|bOE
   bON|bRAIDO RAD REID R|bKAUNA|bCEN|bKAUN K|bG|bENG|bGEBO GYFU G|bGAR|bWUNJO WYNN W|bHAGLAZ H
   bHAEGL H|bLONG-BRANCH-HAGALL H|bSHORT-TWIG-HAGALL H|bNAUDIZ NYD NAUD N|bSHORT-TWIG-NAUD N
   bDOTTED-N|bISAZ IS ISS I|bE|bJERAN J|bGER|bLONG-BRANCH-AR AE|bSHORT-TWIG-AR A|bIWAZ EOH
   bPERTHO PEORTH P|bALGIZ EOLHX|bSOWILO S|bSIGEL LONG-BRANCH-SOL S|bSHORT-TWIG-SOL S|bC|bZ
   bTIWAZ TIR TYR T|bSHORT-TWIG-TYR T|bD|bBERKANAN BEORC BJARKAN B|bSHORT-TWIG-BJARKAN B|bDOTTED-P
   bOPEN-P|bEHWAZ EH E|bMANNAZ MAN M|bLONG-BRANCH-MADR M|bSHORT-TWIG-MADR M|bLAUKAZ LAGU LOGR L
   bDOTTED-L|bINGWAZ|bING|bDAGAZ DAEG D|bOTHALAN ETHEL O|bEAR|bIOR|bCWEORTH|bCALC|bCEALC|bSTAN
   bLONG-BRANCH-YR|bSHORT-TWIG-YR|bICELANDIC-YR|bQ|bX|aSINGLE PUNCTUATION|aMULTIPLE PUNCTUATION
   aCROSS PUNCTUATION|aARLAUG SYMBOL|aTVIMADUR SYMBOL|aBELGTHOR SYMBOL|aLETTER K|bSH|bOO
   bFRANKS CASKET OS|dIS|dEH|dAC|dAESC|1700:TAGALOG LETTER A|bI|bU|bKA|bGA|bNGA|bTA|bDA|bNA|bPA|bBA
   bMA|bYA|bRA|bLA|bWA|bSA|bHA|aVOWEL SIGN I|cU|aSIGN VIRAMA|bPAMUDPOD|171F:aLETTER ARCHAIC RA
   HANUNOO LETTER A|bI|bU|bKA|bGA|bNGA|bTA|bDA|bNA|bPA|bBA|bMA|bYA|bRA|bLA|bWA|bSA|bHA|aVOWEL SIGN I
   cU|aSIGN PAMUDPOD|PHILIPPINE SINGLE PUNCTUATION|aDOUBLE PUNCTUATION|1740:BUHID LETTER A|bI|bU|bKA
   bGA|bNGA|bTA|bDA|bNA|bPA|bBA|bMA|bYA|bRA|bLA|bWA|bSA|bHA|aVOWEL SIGN I|cU|1760:TAGBANWA LETTER A
   bI|bU|bKA|bGA|bNGA|bTA|bDA|bNA|bPA|bBA|bMA|bYA|176E:bLA|bWA|bSA|1772:aVOWEL SIGN I|cU
   1780:KHMER LETTER KA|bKHA|bKO|bKHO|bNGO|bCA|bCHA|bCO|bCHO|bNYO|bDA|bTTHA|bDO|bTTHO|bNNO|bTA|bTHA
   bTO|bTHO|bNO|bBA|bPHA|bPO|bPHO|bMO|bYO|bRO|bLO|bVO|bSHA|bSSO|bSA|bHA|bLA|bQA
   aINDEPENDENT VOWEL QAQ|cQAA|cQI|cQII|cQU|cQUK|cQUU|cQUUV|cRY|cRYY|cLY|cLYY|cQE|cQAI|cQOO TYPE ONE
   eTWO|cQAU|aVOWEL INHERENT AQ|cAA|bSIGN AA|cI|cII|cY|cYY|cU|cUU|cUA|cOE|cYA|cIE|cE|cAE|cAI|cOO|cAU
   aSIGN NIKAHIT|bREAHMUK|bYUUKALEAPINTU|bMUUSIKATOAN|bTRIISAP|bBANTOC|bROBAT|bTOANDAKHIAT|bKAKABAT
   bAHSDA|bSAMYOK SANNYA|bVIRIAM|bCOENG|bBATHAMASAT|bKHAN|bBARIYOOSAN|bCAMNUC PII KUUH|bLEK TOO
   bBEYYAL|bPHNAEK MUAN|bKOOMUUT|aCURRENCY SYMBOL RIEL|aSIGN AVAKRAHASANYA|bATTHACAN
   17E0:aDIGIT ZERO|bONE|bTWO|bTHREE|bFOUR|bFIVE|bSIX|bSEVEN|bEIGHT|bNINE|17F0:aSYMBOL LEK ATTAK SON
   dMUOY|dPII|dBEI|dBUON|dPRAM|dPRAM-MUOY|ePII|eBEI|eBUON|1800:MONGOLIAN BIRGA|aELLIPSIS|aCOMMA
   aFULL STOP|aCOLON|aFOUR DOTS|aTODO SOFT HYPHEN|aSIBE SYLLABLE BOUNDARY MARKER|aMANCHU COMMA
   bFULL STOP|aNIRUGU|aFREE VARIATION SELECTOR ONE|dTWO|dTHREE|aVOWEL SEPARATOR
   aFREE VARIATION SELECTOR FOUR|aDIGIT ZERO|bONE|bTWO|bTHREE|bFOUR|bFIVE|bSIX|bSEVEN|bEIGHT|bNINE
   1820:aLETTER A|bE|bI|bO|bU|bOE|bUE|bEE|bNA|bANG|bBA|bPA|bQA|bGA|bMA|bLA|bSA|bSHA|bTA|bDA|bCHA|bJA
   bYA|bRA|bWA|bFA|bKA|bKHA|bTSA|bZA|bHAA|bZRA|bLHA|bZHI|bCHI|bTODO LONG VOWEL SIGN|cE|cI|cO|cU|cOE
   cUE|cANG|cBA|cPA|cQA|cGA|cMA|cTA|cDA|cCHA|cJA|cTSA|cYA|cWA|cKA|cGAA|cHAA|cJIA|cNIA|cDZA|bSIBE E
   cI|cIY|cUE|cU|cANG|cKA|cGA|cHA|cPA|cSHA|cTA|cDA|cJA|cFA|cGAA|cHAA|cTSA|cZA|cRAA|cCHA|cZHA
   bMANCHU I|cKA|cRA|cFA|cZHA|bCHA WITH TWO DOTS|1880:bALI GALI ANUSVARA ONE|dVISARGA ONE|dDAMARU
   dUBADAMA|dINVERTED UBADAMA|dBALUDA|dTHREE BALUDA|dA|dI|dKA|dNGA|dCA|dTTA|dTTHA|dDDA|dNNA|dTA|dDA
   dPA|dPHA|dSSA|dZHA|dZA|dAH|bTODO ALI GALI TA|eZHA|bMANCHU ALI GALI GHA|eNGA|eCA|eJHA|eTTA|eDDHA
   eTA|eDHA|eSSA|eCYA|eZHA|eZA|bALI GALI HALF U|eYA|bMANCHU ALI GALI BHA|bALI GALI DAGALGA
   bMANCHU ALI GALI LHA|18B0:CANADIAN SYLLABICS OY|bAY|bAAY|bWAY|bPOY|bPAY|bPWOY|bTAY|bKAY|bKWAY
   bMAY|bNOY|bNAY|bLAY|bSOY|bSAY|bSHOY|bSHAY|bSHWOY|bYOY|bYAY|bRAY|bNWI|bOJIBWAY NWI|bNWII
   bOJIBWAY NWII|bNWO|bOJIBWAY NWO|bNWOO|bOJIBWAY NWOO|bRWEE|bRWI|bRWII|bRWO|bRWOO|bRWA|bOJIBWAY P
   cT|cK|cC|cM|cN|cS|cSH|bEASTERN W|bWESTERN W|bFINAL SMALL RING|cRAISED DOT|bR-CREE RWE
   bWEST-CREE LOO|dLAA|bTHWE|bTHWA|bTTHWE|bTTHOO|bTTHAA|bTLHWE|bTLHOO|bSAYISI SHWE|cSHOO|cHOO
   bCARRIER GWU|cDENE GEE|cGAA|cGWA|bSAYISI JUU|bCARRIER JWA|bBEAVER DENE L|dR|bCARRIER DENTAL S
   1900:LIMBU VOWEL-CARRIER LETTER|aLETTER KA|bKHA|bGA|bGHA|bNGA|bCA|bCHA|bJA|bJHA|bYAN|bTA|bTHA|bDA
   bDHA|bNA|bPA|bPHA|bBA|bBHA|bMA|bYA|bRA|bLA|bWA|bSHA|bSSA|bSA|bHA|bGYAN|bTRA|1920:aVOWEL SIGN A|cI
   cU|cEE|cAI|cOO|cAU|cE|cO|aSUBJOINED LETTER YA|cRA|cWA|1930:aSMALL LETTER KA|cNGA|cANUSVARA|cTA
   cNA|cPA|cMA|cRA|cLA|aSIGN MUKPHRENG|bKEMPHRENG|bSA-I|1940:bLOO|1944:aEXCLAMATION MARK
   aQUESTION MARK|aDIGIT ZERO|bONE|bTWO|bTHREE|bFOUR|bFIVE|bSIX|bSEVEN|bEIGHT|bNINE|TAI LE LETTER KA
   cXA|cNGA|cTSA|cSA|cYA|cTA|cTHA|cLA|cPA|cPHA|cMA|cFA|cVA|cHA|cQA|cKHA|cTSHA|cNA|cA|cI|cEE|cEH|cU
   cOO|cO|cUE|cE|cAUE|cAI|1970:cTONE-2|d3|d4|d5|d6|1980:NEW TAI LUE LETTER HIGH QA|dLOW QA|dHIGH KA
   eXA|eNGA|dLOW KA|eXA|eNGA|dHIGH TSA|eSA|eYA|dLOW TSA|eSA|eYA|dHIGH TA|eTHA|eNA|dLOW TA|eTHA|eNA
   dHIGH PA|ePHA|eMA|dLOW PA|ePHA|eMA|dHIGH FA|eVA|eLA|dLOW FA|eVA|eLA|dHIGH HA|eDA|eBA|dLOW HA|eDA
   eBA|dHIGH KVA|eXVA|dLOW KVA|eXVA|dHIGH SUA|dLOW SUA|19B0:cVOWEL SIGN VOWEL SHORTENER|eAA|eII|eU
   eUU|eE|eAE|eO|eOA|eUE|eAY|eAAY|eUY|eOY|eOAY|eUEY|eIY|cLETTER FINAL V|eNG|eN|eM|eK|eD|eB
   cTONE MARK-1|e2|19D0:cDIGIT ZERO|dONE|dTWO|dTHREE|dFOUR|dFIVE|dSIX|dSEVEN|dEIGHT|dNINE
   cTHAM DIGIT ONE|19DE:cSIGN LAE|dLAEV|KHMER SYMBOL PATHAMASAT|bMUOY KOET|bPII KOET|bBEI KOET
   bBUON KOET|bPRAM KOET|bPRAM-MUOY KOET|cPII KOET|cBEI KOET|cBUON KOET|bDAP KOET|bDAP-MUOY KOET
   cPII KOET|cBEI KOET|cBUON KOET|cPRAM KOET|bTUTEYASAT|bMUOY ROC|bPII ROC|bBEI ROC|bBUON ROC
   bPRAM ROC|bPRAM-MUOY ROC|cPII ROC|cBEI ROC|cBUON ROC|bDAP ROC|bDAP-MUOY ROC|cPII ROC|cBEI ROC
   cBUON ROC|cPRAM ROC|BUGINESE LETTER KA|bGA|bNGA|bNGKA|bPA|bBA|bMA|bMPA|bTA|bDA|bNA|bNRA|bCA|bJA
   bNYA|bNYCA|bYA|bRA|bLA|bVA|bSA|bA|bHA|aVOWEL SIGN I|cU|cE|cO|cAE|1A1E:aPALLAWA|aEND OF SECTION
   TAI THAM LETTER HIGH KA|dKHA|dKXA|cLOW KA|dKXA|dKHA|cNGA|cHIGH CA|dCHA|cLOW CA|dSA|dCHA|cNYA
   cRATA|cHIGH RATHA|cDA|cLOW RATHA|cRANA|cHIGH TA|dTHA|cLOW TA|dTHA|cNA|cBA|cHIGH PA|dPHA|dFA
   cLOW PA|dFA|dPHA|cMA|cLOW YA|cHIGH YA|cRA|cRUE|cLA|cLUE|cWA|cHIGH SHA|dSSA|dSA|dHA|cLLA|cA
   cLOW HA|cI|cII|cU|cUU|cEE|cOO|cLAE|cGREAT SA|bCONSONANT SIGN MEDIAL RA|eLA|dLA TANG LAI
   bSIGN MAI KANG LAI|bCONSONANT SIGN FINAL NGA|dLOW PA|dHIGH RATHA OR LOW PA|dMA|dBA|dSA
   1A60:bSIGN SAKOT|bVOWEL SIGN A|dMAI SAT|dAA|dTALL AA|dI|dII|dUE|dUUE|dU|dUU|dO|dOA BELOW|dOY|dE
   dAE|dOO|dAI|dTHAM AI|dOA ABOVE|bSIGN MAI KANG|cTONE-1|d2|cKHUEN TONE-3|e4|e5|cRA HAAM|cMAI SAM
   cKHUEN-LUE KARAN|1A7F:bCOMBINING CRYPTOGRAMMIC DOT|bHORA DIGIT ZERO|dONE|dTWO|dTHREE|dFOUR|dFIVE
   dSIX|dSEVEN|dEIGHT|dNINE|1A90:bTHAM DIGIT ZERO|dONE|dTWO|dTHREE|dFOUR|dFIVE|dSIX|dSEVEN|dEIGHT
   dNINE|1AA0:bSIGN WIANG|cWIANGWAAK|cSAWAN|cKEOW|cHOY|cDOKMAI|cREVERSED ROTATED RANA|cMAI YAMOK
   cKAAN|cKAANKUU|cSATKAAN|cSATKAANKUU|cHANG|cCAANG|1AB0:COMBINING DOUBLED CIRCUMFLEX ACCENT
   aDIAERESIS-RING|aINFINITY|aDOWNWARDS ARROW|aTRIPLE DOT|aX-X BELOW|aWIGGLY LINE BELOW
   aOPEN MARK BELOW|aDOUBLE OPEN MARK BELOW|aLIGHT CENTRALIZATION STROKE BELOW
   aSTRONG CENTRALIZATION STROKE BELOW|aPARENTHESES ABOVE|aDOUBLE PARENTHESES ABOVE
   aPARENTHESES BELOW|bOVERLAY|aLATIN SMALL LETTER W BELOW|dTURNED W BELOW
   aLEFT PARENTHESIS ABOVE LEFT|aRIGHT PARENTHESIS ABOVE RIGHT|aLEFT PARENTHESIS BELOW LEFT
   aRIGHT PARENTHESIS BELOW RIGHT|aSQUARE BRACKETS ABOVE|aNUMBER SIGN ABOVE
   aINVERTED DOUBLE ARCH ABOVE|aPLUS SIGN ABOVE|aDOUBLE PLUS SIGN ABOVE|dBELOW|aTRIPLE ACUTE ACCENT
   aLATIN SMALL LETTER INSULAR G|eR|eT|1B00:BALINESE SIGN ULU RICEM|cCANDRA|bCECEK|bSURANG|bBISAH
   aLETTER AKARA|bAKARA TEDUNG|bIKARA|bIKARA TEDUNG|bUKARA|bUKARA TEDUNG|bRA REPA|cREPA TEDUNG
   bLA LENGA|cLENGA TEDUNG|bEKARA|bAIKARA|bOKARA|bOKARA TEDUNG|bKA|bKA MAHAPRANA|bGA|bGA GORA|bNGA
   bCA|bCA LACA|bJA|bJA JERA|bNYA|bTA LATIK|cMURDA MAHAPRANA|bDA MURDA ALPAPRANA|dMAHAPRANA
   bNA RAMBAT|bTA|bTA TAWA|bDA|bDA MADU|bNA|bPA|bPA KAPAL|bBA|bBA KEMBANG|bMA|bYA|bRA|bLA|bWA
   bSA SAGA|cSAPA|bSA|bHA|aSIGN REREKAN|aVOWEL SIGN TEDUNG|cULU|cULU SARI|cSUKU|cSUKU ILUT|cRA REPA
   dREPA TEDUNG|cLA LENGA|dLENGA TEDUNG|cTALING|cTALING REPA|dTEDUNG|dREPA TEDUNG|cPEPET
   cPEPET TEDUNG|aADEG ADEG|aLETTER KAF SASAK|bKHOT SASAK|bTZIR SASAK|bEF SASAK|bVE SASAK|bZAL SASAK
   bASYURA SASAK|bARCHAIC JNYA|1B50:aDIGIT ZERO|bONE|bTWO|bTHREE|bFOUR|bFIVE|bSIX|bSEVEN|bEIGHT
   bNINE|aPANTI|aPAMADA|aWINDU|aCARIK PAMUNGKAH|bSIKI|bPAREREN|aPAMENENG|aMUSICAL SYMBOL DONG|cDENG
   cDUNG|cDANG|cDANG SURANG|cDING|cDAENG|cDEUNG|cDAING|cDANG GEDE|cCOMBINING TEGEH|dENDEP|dKEMPUL
   dKEMPLI|dJEGOGAN|dKEMPUL WITH JEGOGAN|dKEMPLI WITH JEGOGAN|dBENDE|dGONG|cRIGHT-HAND OPEN DUG|fDAG
   eCLOSED TUK|fTAK|cLEFT-HAND OPEN PANG|fPUNG|eCLOSED PLAK|fPLUK|eOPEN PING|aPANTI LANTANG
   aPAMADA LANTANG|1B80:SUNDANESE SIGN PANYECEK|bPANGLAYAR|bPANGWISAD|aLETTER A|bI|bU|bAE|bO|bE|bEU
   bKA|bQA|bGA|bNGA|bCA|bJA|bZA|bNYA|bTA|bDA|bNA|bPA|bFA|bVA|bBA|bMA|bYA|bRA|bLA|bWA|bSA|bXA|bHA
   aCONSONANT SIGN PAMINGKAL|cPANYAKRA|cPANYIKU|aVOWEL SIGN PANGHULU|cPANYUKU|cPANAELAENG|cPANOLONG
   cPAMEPET|cPANEULEUNG|aSIGN PAMAAEH|bVIRAMA|aCONSONANT SIGN PASANGAN MA|dWA|aLETTER KHA|bSYA
   aDIGIT ZERO|bONE|bTWO|bTHREE|bFOUR|bFIVE|bSIX|bSEVEN|bEIGHT|bNINE|aAVAGRAHA|aLETTER REU|bLEU|bBHA
   bFINAL K|cM|BATAK LETTER A|bSIMALUNGUN A|bHA|bSIMALUNGUN HA|bMANDAILING HA|bBA|bKARO BA|bPA
   bSIMALUNGUN PA|bNA|bMANDAILING NA|bWA|bSIMALUNGUN WA|bPAKPAK WA|bGA|bSIMALUNGUN GA|bJA|bDA|bRA
   bSIMALUNGUN RA|bMA|bSIMALUNGUN MA|bSOUTHERN TA|bNORTHERN TA|bSA|bSIMALUNGUN SA|bMANDAILING SA|bYA
   bSIMALUNGUN YA|bNGA|bLA|bSIMALUNGUN LA|bNYA|bCA|bNDA|bMBA|bI|bU|aSIGN TOMPI|aVOWEL SIGN E
   cPAKPAK E|cEE|cI|cKARO I|cO|cKARO O|cU|cU FOR SIMALUNGUN SA|aCONSONANT SIGN NG|cH|aPANGOLAT
   aPANONGONAN|1BFC:aSYMBOL BINDU NA METEK|cPINARBORAS|cJUDUL|cPANGOLAT|LEPCHA LETTER KA|bKLA|bKHA
   bGA|bGLA|bNGA|bCA|bCHA|bJA|bNYA|bTA|bTHA|bDA|bNA|bPA|bPLA|bPHA|bFA|bFLA|bBA|bBLA|bMA|bMLA|bTSA
   bTSHA|bDZA|bYA|bRA|bLA|bHA|bHLA|bVA|bSA|bSHA|bWA|bA|aSUBJOINED LETTER YA|cRA|aVOWEL SIGN AA|cI|cO
   cOO|cU|cUU|cE|aCONSONANT SIGN K|cM|cL|cN|cP|cR|cT|cNYIN-DO|cKANG|aSIGN RAN|bNUKTA
   1C3B:aPUNCTUATION TA-ROL|bNYET THYOOM TA-ROL|bCER-WA|bTSHOOK CER-WA|bTSHOOK|aDIGIT ZERO|bONE|bTWO
   bTHREE|bFOUR|bFIVE|bSIX|bSEVEN|bEIGHT|bNINE|1C4D:aLETTER TTA|bTTHA|bDDA|OL CHIKI DIGIT ZERO|cONE
   cTWO|cTHREE|cFOUR|cFIVE|cSIX|cSEVEN|cEIGHT|cNINE|bLETTER LA|cAT|cAG|cANG|cAL|cLAA|cAAK|cAAJ|cAAM
   cAAW|cLI|cIS|cIH|cINY|cIR|cLU|cUC|cUD|cUNN|cUY|cLE|cEP|cEDD|cEN|cERR|cLO|cOTT|cOB|cOV|cOH
   bMU TTUDDAG|bGAAHLAA TTUDDAAG|bMU-GAAHLAA TTUDDAAG|bRELAA|bPHAARKAA|bAHAD|bPUNCTUATION MUCAAD
   cDOUBLE MUCAAD|CYRILLIC SMALL LETTER ROUNDED VE|cLONG-LEGGED DE|cNARROW O|cWIDE ES|cTALL TE
   cTHREE-LEGGED TE|cTALL HARD SIGN|dYAT|cUNBLENDED UK|1C90:GEORGIAN MTAVRULI CAPITAL LETTER AN|dBAN
   dGAN|dDON|dEN|dVIN|dZEN|dTAN|dIN|dKAN|dLAS|dMAN|dNAR|dON|dPAR|dZHAR|dRAE|dSAN|dTAR|dUN|dPHAR
   dKHAR|dGHAN|dQAR|dSHIN|dCHIN|dCAN|dJIL|dCIL|dCHAR|dXAN|dJHAN|dHAE|dHE|dHIE|dWE|dHAR|dHOE|dFI|dYN
   dELIFI|dTURNED GAN|dAIN|1CBD:dAEN|dHARD SIGN|dLABIAL SIGN|SUNDANESE PUNCTUATION BINDU SURYA
   cPANGLONG|cPURNAMA|cCAKRA|cLEU SATANGA|cKA SATANGA|cDA SATANGA|cBA SATANGA
   1CD0:VEDIC TONE KARSHANA|bSHARA|bPRENKHA|aSIGN NIHSHVASA|bYAJURVEDIC MIDLINE SVARITA
   aTONE YAJURVEDIC AGGRAVATED INDEPENDENT SVARITA|cINDEPENDENT SVARITA|cKATHAKA INDEPENDENT SVARITA
   bCANDRA BELOW|bYAJURVEDIC KATHAKA INDEPENDENT SVARITA SCHROEDER|bDOUBLE SVARITA|bTRIPLE SVARITA
   bKATHAKA ANUDATTA|bDOT BELOW|bTWO DOTS BELOW|bTHREE DOTS BELOW
   bRIGVEDIC KASHMIRI INDEPENDENT SVARITA|bATHARVAVEDIC INDEPENDENT SVARITA|aSIGN VISARGA SVARITA
   cUDATTA|bREVERSED VISARGA UDATTA|bVISARGA ANUDATTA|bREVERSED VISARGA ANUDATTA
   bVISARGA UDATTA WITH TAIL|cANUDATTA WITH TAIL|bANUSVARA ANTARGOMUKHA|cBAHIRGOMUKHA|cVAMAGOMUKHA
   cVAMAGOMUKHA WITH TAIL|bTIRYAK|bHEXIFORM LONG ANUSVARA|bLONG ANUSVARA|bRTHANG LONG ANUSVARA
   bANUSVARA UBHAYATO MUKHA|bARDHAVISARGA|bROTATED ARDHAVISARGA|aTONE CANDRA ABOVE|aSIGN JIHVAMULIYA
   bUPADHMANIYA|bATIKRAMA|aTONE RING ABOVE|bDOUBLE RING ABOVE|aSIGN DOUBLE ANUSVARA ANTARGOMUKHA
   1D00:LATIN LETTER SMALL CAPITAL A|dAE|aSMALL LETTER TURNED AE|aLETTER SMALL CAPITAL BARRED B|dC
   dD|dETH|dE|aSMALL LETTER TURNED OPEN E|dI|aLETTER SMALL CAPITAL J|dK|dL WITH STROKE|dM
   dREVERSED N|dO|dOPEN O|aSMALL LETTER SIDEWAYS O|dOPEN O|dO WITH STROKE|cTURNED OE
   aLETTER SMALL CAPITAL OU|aSMALL LETTER TOP HALF O|cBOTTOM HALF O|aLETTER SMALL CAPITAL P
   dREVERSED R|dTURNED R|dT|dU|aSMALL LETTER SIDEWAYS U|dDIAERESIZED U|dTURNED M
   aLETTER SMALL CAPITAL V|dW|dZ|dEZH|bVOICED LARYNGEAL SPIRANT|bAIN
   GREEK LETTER SMALL CAPITAL GAMMA|dLAMDA|dPI|dRHO|dPSI|CYRILLIC LETTER SMALL CAPITAL EL
   MODIFIER LETTER CAPITAL A|cAE|cB|cBARRED B|cD|cE|cREVERSED E|cG|cH|cI|cJ|cK|cL|cM|cN|cREVERSED N
   cO|cOU|cP|cR|cT|cU|cW|bSMALL A|cTURNED A|cALPHA|cTURNED AE|cB|cD|cE|cSCHWA|cOPEN E|cTURNED OPEN E
   cG|cTURNED I|cK|cM|cENG|cO|cOPEN O|cTOP HALF O|cBOTTOM HALF O|cP|cT|cU|cSIDEWAYS U|cTURNED M|cV
   cAIN|cBETA|cGREEK GAMMA|cDELTA|cGREEK PHI|cCHI|LATIN SUBSCRIPT SMALL LETTER I|dR|dU|dV
   GREEK SUBSCRIPT SMALL LETTER BETA|dGAMMA|dRHO|dPHI|dCHI|LATIN SMALL LETTER UE
   cB WITH MIDDLE TILDE|cD WITH MIDDLE TILDE|cF WITH MIDDLE TILDE|cM WITH MIDDLE TILDE
   cN WITH MIDDLE TILDE|cP WITH MIDDLE TILDE|cR WITH MIDDLE TILDE|eFISHHOOK AND MIDDLE TILDE
   cS WITH MIDDLE TILDE|cT WITH MIDDLE TILDE|cZ WITH MIDDLE TILDE|cTURNED G
   MODIFIER LETTER CYRILLIC EN|LATIN SMALL LETTER INSULAR G|cTH WITH STRIKETHROUGH
   bCAPITAL LETTER I WITH STROKE|bLETTER IOTA WITH STROKE|cP WITH STROKE
   bCAPITAL LETTER U WITH STROKE|bLETTER UPSILON WITH STROKE|cB WITH PALATAL HOOK
   cD WITH PALATAL HOOK|cF WITH PALATAL HOOK|cG WITH PALATAL HOOK|cK WITH PALATAL HOOK
   cL WITH PALATAL HOOK|cM WITH PALATAL HOOK|cN WITH PALATAL HOOK|cP WITH PALATAL HOOK
   cR WITH PALATAL HOOK|cS WITH PALATAL HOOK|cESH WITH PALATAL HOOK|cV WITH PALATAL HOOK
   cX WITH PALATAL HOOK|cZ WITH PALATAL HOOK|cA WITH RETROFLEX HOOK|cALPHA WITH RETROFLEX HOOK
   cD WITH HOOK AND TAIL|cE WITH RETROFLEX HOOK|cOPEN E WITH RETROFLEX HOOK
   cREVERSED OPEN E WITH RETROFLEX HOOK|cSCHWA WITH RETROFLEX HOOK|cI WITH RETROFLEX HOOK
   cOPEN O WITH RETROFLEX HOOK|cESH WITH RETROFLEX HOOK|cU WITH RETROFLEX HOOK
   cEZH WITH RETROFLEX HOOK|MODIFIER LETTER SMALL TURNED ALPHA|cC|cC WITH CURL|cETH|cREVERSED OPEN E
   cF|cDOTLESS J WITH STROKE|cSCRIPT G|cTURNED H|cI WITH STROKE|cIOTA|cCAPITAL I|dI WITH STROKE
   cJ WITH CROSSED-TAIL|cL WITH RETROFLEX HOOK|ePALATAL HOOK|cCAPITAL L|cM WITH HOOK
   cTURNED M WITH LONG LEG|cN WITH LEFT HOOK|eRETROFLEX HOOK|cCAPITAL N|cBARRED O|cPHI|cS WITH HOOK
   cESH|cT WITH PALATAL HOOK|cU BAR|cUPSILON|cCAPITAL U|cV WITH HOOK|cTURNED V|cZ
   cZ WITH RETROFLEX HOOK|eCURL|cEZH|cTHETA|COMBINING DOTTED GRAVE ACCENT|bACUTE ACCENT|aSNAKE BELOW
   aSUSPENSION MARK|aMACRON-ACUTE|aGRAVE-MACRON|aMACRON-GRAVE|aACUTE-MACRON|aGRAVE-ACUTE-GRAVE
   aACUTE-GRAVE-ACUTE|aLATIN SMALL LETTER R BELOW|aBREVE-MACRON|aMACRON-BREVE
   aDOUBLE CIRCUMFLEX ABOVE|aOGONEK ABOVE|aZIGZAG BELOW|aIS BELOW|aUR ABOVE|aUS ABOVE
   aLATIN SMALL LETTER FLATTENED OPEN A ABOVE|dAE|dAO|dAV|dC CEDILLA|dINSULAR D|dETH|dG
   bLETTER SMALL CAPITAL G|bSMALL LETTER K|dL|bLETTER SMALL CAPITAL L|eM|bSMALL LETTER N
   bLETTER SMALL CAPITAL N|eR|bSMALL LETTER R ROTUNDA|dS|dLONG S|dZ|dALPHA|dB|dBETA|dSCHWA|dF
   dL WITH DOUBLE MIDDLE TILDE|dO WITH LIGHT CENTRALIZATION STROKE|dP|dESH
   dU WITH LIGHT CENTRALIZATION STROKE|dW|dA WITH DIAERESIS|dO WITH DIAERESIS|dU WITH DIAERESIS
   aUP TACK ABOVE|aKAVYKA ABOVE RIGHT|cLEFT|aDOT ABOVE LEFT|aWIDE INVERTED BRIDGE BELOW
   aDOT BELOW LEFT|aDELETION MARK|aDOUBLE INVERTED BREVE BELOW|aALMOST EQUAL TO BELOW
   aLEFT ARROWHEAD ABOVE|aRIGHT ARROWHEAD AND DOWN ARROWHEAD BELOW
   LATIN CAPITAL LETTER A WITH RING BELOW|aSMALL LETTER A WITH RING BELOW
   aCAPITAL LETTER B WITH DOT ABOVE|aSMALL LETTER B WITH DOT ABOVE|aCAPITAL LETTER B WITH DOT BELOW
   aSMALL LETTER B WITH DOT BELOW|aCAPITAL LETTER B WITH LINE BELOW|aSMALL LETTER B WITH LINE BELOW
   aCAPITAL LETTER C WITH CEDILLA AND ACUTE|aSMALL LETTER C WITH CEDILLA AND ACUTE
   aCAPITAL LETTER D WITH DOT ABOVE|aSMALL LETTER D WITH DOT ABOVE|aCAPITAL LETTER D WITH DOT BELOW
   aSMALL LETTER D WITH DOT BELOW|aCAPITAL LETTER D WITH LINE BELOW|aSMALL LETTER D WITH LINE BELOW
   aCAPITAL LETTER D WITH CEDILLA|aSMALL LETTER D WITH CEDILLA
   aCAPITAL LETTER D WITH CIRCUMFLEX BELOW|aSMALL LETTER D WITH CIRCUMFLEX BELOW
   aCAPITAL LETTER E WITH MACRON AND GRAVE|aSMALL LETTER E WITH MACRON AND GRAVE
   aCAPITAL LETTER E WITH MACRON AND ACUTE|aSMALL LETTER E WITH MACRON AND ACUTE
   aCAPITAL LETTER E WITH CIRCUMFLEX BELOW|aSMALL LETTER E WITH CIRCUMFLEX BELOW
   aCAPITAL LETTER E WITH TILDE BELOW|aSMALL LETTER E WITH TILDE BELOW
   aCAPITAL LETTER E WITH CEDILLA AND BREVE|aSMALL LETTER E WITH CEDILLA AND BREVE
   aCAPITAL LETTER F WITH DOT ABOVE|aSMALL LETTER F WITH DOT ABOVE|aCAPITAL LETTER G WITH MACRON
   aSMALL LETTER G WITH MACRON|aCAPITAL LETTER H WITH DOT ABOVE|aSMALL LETTER H WITH DOT ABOVE
   aCAPITAL LETTER H WITH DOT BELOW|aSMALL LETTER H WITH DOT BELOW|aCAPITAL LETTER H WITH DIAERESIS
   aSMALL LETTER H WITH DIAERESIS|aCAPITAL LETTER H WITH CEDILLA|aSMALL LETTER H WITH CEDILLA
   aCAPITAL LETTER H WITH BREVE BELOW|aSMALL LETTER H WITH BREVE BELOW
   aCAPITAL LETTER I WITH TILDE BELOW|aSMALL LETTER I WITH TILDE BELOW
   aCAPITAL LETTER I WITH DIAERESIS AND ACUTE|aSMALL LETTER I WITH DIAERESIS AND ACUTE
   aCAPITAL LETTER K WITH ACUTE|aSMALL LETTER K WITH ACUTE|aCAPITAL LETTER K WITH DOT BELOW
   aSMALL LETTER K WITH DOT BELOW|aCAPITAL LETTER K WITH LINE BELOW|aSMALL LETTER K WITH LINE BELOW
   aCAPITAL LETTER L WITH DOT BELOW|aSMALL LETTER L WITH DOT BELOW
   aCAPITAL LETTER L WITH DOT BELOW AND MACRON|aSMALL LETTER L WITH DOT BELOW AND MACRON
   aCAPITAL LETTER L WITH LINE BELOW|aSMALL LETTER L WITH LINE BELOW
   aCAPITAL LETTER L WITH CIRCUMFLEX BELOW|aSMALL LETTER L WITH CIRCUMFLEX BELOW
   aCAPITAL LETTER M WITH ACUTE|aSMALL LETTER M WITH ACUTE|aCAPITAL LETTER M WITH DOT ABOVE
   aSMALL LETTER M WITH DOT ABOVE|aCAPITAL LETTER M WITH DOT BELOW|aSMALL LETTER M WITH DOT BELOW
   aCAPITAL LETTER N WITH DOT ABOVE|aSMALL LETTER N WITH DOT ABOVE|aCAPITAL LETTER N WITH DOT BELOW
   aSMALL LETTER N WITH DOT BELOW|aCAPITAL LETTER N WITH LINE BELOW|aSMALL LETTER N WITH LINE BELOW
   aCAPITAL LETTER N WITH CIRCUMFLEX BELOW|aSMALL LETTER N WITH CIRCUMFLEX BELOW
   aCAPITAL LETTER O WITH TILDE AND ACUTE|aSMALL LETTER O WITH TILDE AND ACUTE
   aCAPITAL LETTER O WITH TILDE AND DIAERESIS|aSMALL LETTER O WITH TILDE AND DIAERESIS
   aCAPITAL LETTER O WITH MACRON AND GRAVE|aSMALL LETTER O WITH MACRON AND GRAVE
   aCAPITAL LETTER O WITH MACRON AND ACUTE|aSMALL LETTER O WITH MACRON AND ACUTE
   aCAPITAL LETTER P WITH ACUTE|aSMALL LETTER P WITH ACUTE|aCAPITAL LETTER P WITH DOT ABOVE
   aSMALL LETTER P WITH DOT ABOVE|aCAPITAL LETTER R WITH DOT ABOVE|aSMALL LETTER R WITH DOT ABOVE
   aCAPITAL LETTER R WITH DOT BELOW|aSMALL LETTER R WITH DOT BELOW
   aCAPITAL LETTER R WITH DOT BELOW AND MACRON|aSMALL LETTER R WITH DOT BELOW AND MACRON
   aCAPITAL LETTER R WITH LINE BELOW|aSMALL LETTER R WITH LINE BELOW
   aCAPITAL LETTER S WITH DOT ABOVE|aSMALL LETTER S WITH DOT ABOVE|aCAPITAL LETTER S WITH DOT BELOW
   aSMALL LETTER S WITH DOT BELOW|aCAPITAL LETTER S WITH ACUTE AND DOT ABOVE
   aSMALL LETTER S WITH ACUTE AND DOT ABOVE|aCAPITAL LETTER S WITH CARON AND DOT ABOVE
   aSMALL LETTER S WITH CARON AND DOT ABOVE|aCAPITAL LETTER S WITH DOT BELOW AND DOT ABOVE
   aSMALL LETTER S WITH DOT BELOW AND DOT ABOVE|aCAPITAL LETTER T WITH DOT ABOVE
   aSMALL LETTER T WITH DOT ABOVE|aCAPITAL LETTER T WITH DOT BELOW|aSMALL LETTER T WITH DOT BELOW
   aCAPITAL LETTER T WITH LINE BELOW|aSMALL LETTER T WITH LINE BELOW
   aCAPITAL LETTER T WITH CIRCUMFLEX BELOW|aSMALL LETTER T WITH CIRCUMFLEX BELOW
   aCAPITAL LETTER U WITH DIAERESIS BELOW|aSMALL LETTER U WITH DIAERESIS BELOW
   aCAPITAL LETTER U WITH TILDE BELOW|aSMALL LETTER U WITH TILDE BELOW
   aCAPITAL LETTER U WITH CIRCUMFLEX BELOW|aSMALL LETTER U WITH CIRCUMFLEX BELOW
   aCAPITAL LETTER U WITH TILDE AND ACUTE|aSMALL LETTER U WITH TILDE AND ACUTE
   aCAPITAL LETTER U WITH MACRON AND DIAERESIS|aSMALL LETTER U WITH MACRON AND DIAERESIS
   aCAPITAL LETTER V WITH TILDE|aSMALL LETTER V WITH TILDE|aCAPITAL LETTER V WITH DOT BELOW
   aSMALL LETTER V WITH DOT BELOW|aCAPITAL LETTER W WITH GRAVE|aSMALL LETTER W WITH GRAVE
   aCAPITAL LETTER W WITH ACUTE|aSMALL LETTER W WITH ACUTE|aCAPITAL LETTER W WITH DIAERESIS
   aSMALL LETTER W WITH DIAERESIS|aCAPITAL LETTER W WITH DOT ABOVE|aSMALL LETTER W WITH DOT ABOVE
   aCAPITAL LETTER W WITH DOT BELOW|aSMALL LETTER W WITH DOT BELOW|aCAPITAL LETTER X WITH DOT ABOVE
   aSMALL LETTER X WITH DOT ABOVE|aCAPITAL LETTER X WITH DIAERESIS|aSMALL LETTER X WITH DIAERESIS
   aCAPITAL LETTER Y WITH DOT ABOVE|aSMALL LETTER Y WITH DOT ABOVE|aCAPITAL LETTER Z WITH CIRCUMFLEX
   aSMALL LETTER Z WITH CIRCUMFLEX|aCAPITAL LETTER Z WITH DOT BELOW|aSMALL LETTER Z WITH DOT BELOW
   aCAPITAL LETTER Z WITH LINE BELOW|aSMALL LETTER Z WITH LINE BELOW|cH WITH LINE BELOW
   cT WITH DIAERESIS|cW WITH RING ABOVE|cY WITH RING ABOVE|cA WITH RIGHT HALF RING
   cLONG S WITH DOT ABOVE|fDIAGONAL STROKE|fHIGH STROKE|aCAPITAL LETTER SHARP S|aSMALL LETTER DELTA
   aCAPITAL LETTER A WITH DOT BELOW|aSMALL LETTER A WITH DOT BELOW|aCAPITAL LETTER A WITH HOOK ABOVE
   aSMALL LETTER A WITH HOOK ABOVE|aCAPITAL LETTER A WITH CIRCUMFLEX AND ACUTE
   aSMALL LETTER A WITH CIRCUMFLEX AND ACUTE|aCAPITAL LETTER A WITH CIRCUMFLEX AND GRAVE
   aSMALL LETTER A WITH CIRCUMFLEX AND GRAVE|aCAPITAL LETTER A WITH CIRCUMFLEX AND HOOK ABOVE
   aSMALL LETTER A WITH CIRCUMFLEX AND HOOK ABOVE|aCAPITAL LETTER A WITH CIRCUMFLEX AND TILDE
   aSMALL LETTER A WITH CIRCUMFLEX AND TILDE|aCAPITAL LETTER A WITH CIRCUMFLEX AND DOT BELOW
   aSMALL LETTER A WITH CIRCUMFLEX AND DOT BELOW|aCAPITAL LETTER A WITH BREVE AND ACUTE
   aSMALL LETTER A WITH BREVE AND ACUTE|aCAPITAL LETTER A WITH BREVE AND GRAVE
   aSMALL LETTER A WITH BREVE AND GRAVE|aCAPITAL LETTER A WITH BREVE AND HOOK ABOVE
   aSMALL LETTER A WITH BREVE AND HOOK ABOVE|aCAPITAL LETTER A WITH BREVE AND TILDE
   aSMALL LETTER A WITH BREVE AND TILDE|aCAPITAL LETTER A WITH BREVE AND DOT BELOW
   aSMALL LETTER A WITH BREVE AND DOT BELOW|aCAPITAL LETTER E WITH DOT BELOW
   aSMALL LETTER E WITH DOT BELOW|aCAPITAL LETTER E WITH HOOK ABOVE|aSMALL LETTER E WITH HOOK ABOVE
   aCAPITAL LETTER E WITH TILDE|aSMALL LETTER E WITH TILDE
   aCAPITAL LETTER E WITH CIRCUMFLEX AND ACUTE|aSMALL LETTER E WITH CIRCUMFLEX AND ACUTE
   aCAPITAL LETTER E WITH CIRCUMFLEX AND GRAVE|aSMALL LETTER E WITH CIRCUMFLEX AND GRAVE
   aCAPITAL LETTER E WITH CIRCUMFLEX AND HOOK ABOVE|aSMALL LETTER E WITH CIRCUMFLEX AND HOOK ABOVE
   aCAPITAL LETTER E WITH CIRCUMFLEX AND TILDE|aSMALL LETTER E WITH CIRCUMFLEX AND TILDE
   aCAPITAL LETTER E WITH CIRCUMFLEX AND DOT BELOW|aSMALL LETTER E WITH CIRCUMFLEX AND DOT BELOW
   aCAPITAL LETTER I WITH HOOK ABOVE|aSMALL LETTER I WITH HOOK ABOVE
   aCAPITAL LETTER I WITH DOT BELOW|aSMALL LETTER I WITH DOT BELOW|aCAPITAL LETTER O WITH DOT BELOW
   aSMALL LETTER O WITH DOT BELOW|aCAPITAL LETTER O WITH HOOK ABOVE|aSMALL LETTER O WITH HOOK ABOVE
   aCAPITAL LETTER O WITH CIRCUMFLEX AND ACUTE|aSMALL LETTER O WITH CIRCUMFLEX AND ACUTE
   aCAPITAL LETTER O WITH CIRCUMFLEX AND GRAVE|aSMALL LETTER O WITH CIRCUMFLEX AND GRAVE
   aCAPITAL LETTER O WITH CIRCUMFLEX AND HOOK ABOVE|aSMALL LETTER O WITH CIRCUMFLEX AND HOOK ABOVE
   aCAPITAL LETTER O WITH CIRCUMFLEX AND TILDE|aSMALL LETTER O WITH CIRCUMFLEX AND TILDE
   aCAPITAL LETTER O WITH CIRCUMFLEX AND DOT BELOW|aSMALL LETTER O WITH CIRCUMFLEX AND DOT BELOW
   aCAPITAL LETTER O WITH HORN AND ACUTE|aSMALL LETTER O WITH HORN AND ACUTE
   aCAPITAL LETTER O WITH HORN AND GRAVE|aSMALL LETTER O WITH HORN AND GRAVE
   aCAPITAL LETTER O WITH HORN AND HOOK ABOVE|aSMALL LETTER O WITH HORN AND HOOK ABOVE
   aCAPITAL LETTER O WITH HORN AND TILDE|aSMALL LETTER O WITH HORN AND TILDE
   aCAPITAL LETTER O WITH HORN AND DOT BELOW|aSMALL LETTER O WITH HORN AND DOT BELOW
   aCAPITAL LETTER U WITH DOT BELOW|aSMALL LETTER U WITH DOT BELOW|aCAPITAL LETTER U WITH HOOK ABOVE
   aSMALL LETTER U WITH HOOK ABOVE|aCAPITAL LETTER U WITH HORN AND ACUTE
   aSMALL LETTER U WITH HORN AND ACUTE|aCAPITAL LETTER U WITH HORN AND GRAVE
   aSMALL LETTER U WITH HORN AND GRAVE|aCAPITAL LETTER U WITH HORN AND HOOK ABOVE
   aSMALL LETTER U WITH HORN AND HOOK ABOVE|aCAPITAL LETTER U WITH HORN AND TILDE
   aSMALL LETTER U WITH HORN AND TILDE|aCAPITAL LETTER U WITH HORN AND DOT BELOW
   aSMALL LETTER U WITH HORN AND DOT BELOW|aCAPITAL LETTER Y WITH GRAVE|aSMALL LETTER Y WITH GRAVE
   aCAPITAL LETTER Y WITH DOT BELOW|aSMALL LETTER Y WITH DOT BELOW|aCAPITAL LETTER Y WITH HOOK ABOVE
   aSMALL LETTER Y WITH HOOK ABOVE|aCAPITAL LETTER Y WITH TILDE|aSMALL LETTER Y WITH TILDE
   aCAPITAL LETTER MIDDLE-WELSH LL|aSMALL LETTER MIDDLE-WELSH LL|aCAPITAL LETTER MIDDLE-WELSH V
   aSMALL LETTER MIDDLE-WELSH V|aCAPITAL LETTER Y WITH LOOP|aSMALL LETTER Y WITH LOOP
   GREEK SMALL LETTER ALPHA WITH PSILI|eDASIA|ePSILI AND VARIA|eDASIA AND VARIA|ePSILI AND OXIA
   eDASIA AND OXIA|ePSILI AND PERISPOMENI|eDASIA AND PERISPOMENI|aCAPITAL LETTER ALPHA WITH PSILI
   eDASIA|ePSILI AND VARIA|eDASIA AND VARIA|ePSILI AND OXIA|eDASIA AND OXIA|ePSILI AND PERISPOMENI
   eDASIA AND PERISPOMENI|aSMALL LETTER EPSILON WITH PSILI|eDASIA|ePSILI AND VARIA|eDASIA AND VARIA
   ePSILI AND OXIA|eDASIA AND OXIA|1F18:aCAPITAL LETTER EPSILON WITH PSILI|eDASIA|ePSILI AND VARIA
   eDASIA AND VARIA|ePSILI AND OXIA|eDASIA AND OXIA|1F20:aSMALL LETTER ETA WITH PSILI|eDASIA
   ePSILI AND VARIA|eDASIA AND VARIA|ePSILI AND OXIA|eDASIA AND OXIA|ePSILI AND PERISPOMENI
   eDASIA AND PERISPOMENI|aCAPITAL LETTER ETA WITH PSILI|eDASIA|ePSILI AND VARIA|eDASIA AND VARIA
   ePSILI AND OXIA|eDASIA AND OXIA|ePSILI AND PERISPOMENI|eDASIA AND PERISPOMENI
   aSMALL LETTER IOTA WITH PSILI|eDASIA|ePSILI AND VARIA|eDASIA AND VARIA|ePSILI AND OXIA
   eDASIA AND OXIA|ePSILI AND PERISPOMENI|eDASIA AND PERISPOMENI|aCAPITAL LETTER IOTA WITH PSILI
   eDASIA|ePSILI AND VARIA|eDASIA AND VARIA|ePSILI AND OXIA|eDASIA AND OXIA|ePSILI AND PERISPOMENI
   eDASIA AND PERISPOMENI|aSMALL LETTER OMICRON WITH PSILI|eDASIA|ePSILI AND VARIA|eDASIA AND VARIA
   ePSILI AND OXIA|eDASIA AND OXIA|1F48:aCAPITAL LETTER OMICRON WITH PSILI|eDASIA|ePSILI AND VARIA
   eDASIA AND VARIA|ePSILI AND OXIA|eDASIA AND OXIA|1F50:aSMALL LETTER UPSILON WITH PSILI|eDASIA
   ePSILI AND VARIA|eDASIA AND VARIA|ePSILI AND OXIA|eDASIA AND OXIA|ePSILI AND PERISPOMENI
   eDASIA AND PERISPOMENI|1F59:aCAPITAL LETTER UPSILON WITH DASIA|1F5B:eDASIA AND VARIA|1F5D:gOXIA
   1F5F:gPERISPOMENI|aSMALL LETTER OMEGA WITH PSILI|eDASIA|ePSILI AND VARIA|eDASIA AND VARIA
   ePSILI AND OXIA|eDASIA AND OXIA|ePSILI AND PERISPOMENI|eDASIA AND PERISPOMENI
   aCAPITAL LETTER OMEGA WITH PSILI|eDASIA|ePSILI AND VARIA|eDASIA AND VARIA|ePSILI AND OXIA
   eDASIA AND OXIA|ePSILI AND PERISPOMENI|eDASIA AND PERISPOMENI|aSMALL LETTER ALPHA WITH VARIA
   eOXIA|cEPSILON WITH VARIA|eOXIA|cETA WITH VARIA|eOXIA|cIOTA WITH VARIA|eOXIA|cOMICRON WITH VARIA
   eOXIA|cUPSILON WITH VARIA|eOXIA|cOMEGA WITH VARIA|eOXIA|1F80:cALPHA WITH PSILI AND YPOGEGRAMMENI
   eDASIA AND YPOGEGRAMMENI|ePSILI AND VARIA AND YPOGEGRAMMENI|eDASIA AND VARIA AND YPOGEGRAMMENI
   ePSILI AND OXIA AND YPOGEGRAMMENI|eDASIA AND OXIA AND YPOGEGRAMMENI
   ePSILI AND PERISPOMENI AND YPOGEGRAMMENI|eDASIA AND PERISPOMENI AND YPOGEGRAMMENI
   aCAPITAL LETTER ALPHA WITH PSILI AND PROSGEGRAMMENI|eDASIA AND PROSGEGRAMMENI
   ePSILI AND VARIA AND PROSGEGRAMMENI|eDASIA AND VARIA AND PROSGEGRAMMENI
   ePSILI AND OXIA AND PROSGEGRAMMENI|eDASIA AND OXIA AND PROSGEGRAMMENI
   ePSILI AND PERISPOMENI AND PROSGEGRAMMENI|eDASIA AND PERISPOMENI AND PROSGEGRAMMENI
   aSMALL LETTER ETA WITH PSILI AND YPOGEGRAMMENI|eDASIA AND YPOGEGRAMMENI
   ePSILI AND VARIA AND YPOGEGRAMMENI|eDASIA AND VARIA AND YPOGEGRAMMENI
   ePSILI AND OXIA AND YPOGEGRAMMENI|eDASIA AND OXIA AND YPOGEGRAMMENI
   ePSILI AND PERISPOMENI AND YPOGEGRAMMENI|eDASIA AND PERISPOMENI AND YPOGEGRAMMENI
   aCAPITAL LETTER ETA WITH PSILI AND PROSGEGRAMMENI|eDASIA AND PROSGEGRAMMENI
   ePSILI AND VARIA AND PROSGEGRAMMENI|eDASIA AND VARIA AND PROSGEGRAMMENI
   ePSILI AND OXIA AND PROSGEGRAMMENI|eDASIA AND OXIA AND PROSGEGRAMMENI
   ePSILI AND PERISPOMENI AND PROSGEGRAMMENI|eDASIA AND PERISPOMENI AND PROSGEGRAMMENI
   aSMALL LETTER OMEGA WITH PSILI AND YPOGEGRAMMENI|eDASIA AND YPOGEGRAMMENI
   ePSILI AND VARIA AND YPOGEGRAMMENI|eDASIA AND VARIA AND YPOGEGRAMMENI
   ePSILI AND OXIA AND YPOGEGRAMMENI|eDASIA AND OXIA AND YPOGEGRAMMENI
   ePSILI AND PERISPOMENI AND YPOGEGRAMMENI|eDASIA AND PERISPOMENI AND YPOGEGRAMMENI
   aCAPITAL LETTER OMEGA WITH PSILI AND PROSGEGRAMMENI|eDASIA AND PROSGEGRAMMENI
   ePSILI AND VARIA AND PROSGEGRAMMENI|eDASIA AND VARIA AND PROSGEGRAMMENI
   ePSILI AND OXIA AND PROSGEGRAMMENI|eDASIA AND OXIA AND PROSGEGRAMMENI
   ePSILI AND PERISPOMENI AND PROSGEGRAMMENI|eDASIA AND PERISPOMENI AND PROSGEGRAMMENI
   aSMALL LETTER ALPHA WITH VRACHY|eMACRON|eVARIA AND YPOGEGRAMMENI|eYPOGEGRAMMENI
   eOXIA AND YPOGEGRAMMENI|1FB6:ePERISPOMENI|ePERISPOMENI AND YPOGEGRAMMENI
   aCAPITAL LETTER ALPHA WITH VRACHY|eMACRON|eVARIA|eOXIA|ePROSGEGRAMMENI|aKORONIS|aPROSGEGRAMMENI
   aPSILI|aPERISPOMENI|aDIALYTIKA AND PERISPOMENI|aSMALL LETTER ETA WITH VARIA AND YPOGEGRAMMENI
   eYPOGEGRAMMENI|eOXIA AND YPOGEGRAMMENI|1FC6:ePERISPOMENI|ePERISPOMENI AND YPOGEGRAMMENI
   aCAPITAL LETTER EPSILON WITH VARIA|eOXIA|cETA WITH VARIA|eOXIA|ePROSGEGRAMMENI|aPSILI AND VARIA
   cOXIA|cPERISPOMENI|aSMALL LETTER IOTA WITH VRACHY|eMACRON|eDIALYTIKA AND VARIA|gOXIA
   1FD6:ePERISPOMENI|eDIALYTIKA AND PERISPOMENI|aCAPITAL LETTER IOTA WITH VRACHY|eMACRON|eVARIA
   eOXIA|1FDD:aDASIA AND VARIA|cOXIA|cPERISPOMENI|aSMALL LETTER UPSILON WITH VRACHY|eMACRON
   eDIALYTIKA AND VARIA|gOXIA|cRHO WITH PSILI|eDASIA|cUPSILON WITH PERISPOMENI
   eDIALYTIKA AND PERISPOMENI|aCAPITAL LETTER UPSILON WITH VRACHY|eMACRON|eVARIA|eOXIA
   cRHO WITH DASIA|aDIALYTIKA AND VARIA|cOXIA|aVARIA
   1FF2:aSMALL LETTER OMEGA WITH VARIA AND YPOGEGRAMMENI|eYPOGEGRAMMENI|eOXIA AND YPOGEGRAMMENI
   1FF6:ePERISPOMENI|ePERISPOMENI AND YPOGEGRAMMENI|aCAPITAL LETTER OMICRON WITH VARIA|eOXIA
   cOMEGA WITH VARIA|eOXIA|ePROSGEGRAMMENI|aOXIA|aDASIA|2000:EN QUAD|EM QUAD|EN SPACE|EM SPACE
   THREE-PER-EM SPACE|FOUR-PER-EM SPACE|SIX-PER-EM SPACE|FIGURE SPACE|PUNCTUATION SPACE|THIN SPACE
   HAIR SPACE|ZERO WIDTH SPACE|bNON-JOINER|bJOINER|LEFT-TO-RIGHT MARK|RIGHT-TO-LEFT MARK|HYPHEN
   NON-BREAKING HYPHEN|FIGURE DASH|EN DASH|EM DASH|HORIZONTAL BAR|DOUBLE VERTICAL LINE|aLOW LINE
   LEFT SINGLE QUOTATION MARK|RIGHT SINGLE QUOTATION MARK|SINGLE LOW-9 QUOTATION MARK
   aHIGH-REVERSED-9 QUOTATION MARK|LEFT DOUBLE QUOTATION MARK|RIGHT DOUBLE QUOTATION MARK
   DOUBLE LOW-9 QUOTATION MARK|aHIGH-REVERSED-9 QUOTATION MARK|DAGGER|DOUBLE DAGGER|BULLET
   TRIANGULAR BULLET|ONE DOT LEADER|TWO DOT LEADER|HORIZONTAL ELLIPSIS|HYPHENATION POINT
   LINE SEPARATOR|PARAGRAPH SEPARATOR|LEFT-TO-RIGHT EMBEDDING|RIGHT-TO-LEFT EMBEDDING
   POP DIRECTIONAL FORMATTING|LEFT-TO-RIGHT OVERRIDE|RIGHT-TO-LEFT OVERRIDE|NARROW NO-BREAK SPACE
   PER MILLE SIGN|aTEN THOUSAND SIGN|PRIME|DOUBLE PRIME|TRIPLE PRIME|REVERSED PRIME|aDOUBLE PRIME
   aTRIPLE PRIME|CARET|SINGLE LEFT-POINTING ANGLE QUOTATION MARK
   aRIGHT-POINTING ANGLE QUOTATION MARK|REFERENCE MARK|DOUBLE EXCLAMATION MARK|INTERROBANG|OVERLINE
   UNDERTIE|CHARACTER TIE|CARET INSERTION POINT|ASTERISM|HYPHEN BULLET|FRACTION SLASH
   LEFT SQUARE BRACKET WITH QUILL|RIGHT SQUARE BRACKET WITH QUILL|DOUBLE QUESTION MARK
   QUESTION EXCLAMATION MARK|EXCLAMATION QUESTION MARK|TIRONIAN SIGN ET|REVERSED PILCROW SIGN
   BLACK LEFTWARDS BULLET|aRIGHTWARDS BULLET|LOW ASTERISK|REVERSED SEMICOLON|CLOSE UP
   TWO ASTERISKS ALIGNED VERTICALLY|COMMERCIAL MINUS SIGN|SWUNG DASH|INVERTED UNDERTIE
   FLOWER PUNCTUATION MARK|THREE DOT PUNCTUATION|QUADRUPLE PRIME|FOUR DOT PUNCTUATION
   FIVE DOT PUNCTUATION|TWO DOT PUNCTUATION|FOUR DOT MARK|DOTTED CROSS|TRICOLON|VERTICAL FOUR DOTS
   MEDIUM MATHEMATICAL SPACE|WORD JOINER|FUNCTION APPLICATION|INVISIBLE TIMES|aSEPARATOR|aPLUS
   2066:LEFT-TO-RIGHT ISOLATE|RIGHT-TO-LEFT ISOLATE|FIRST STRONG ISOLATE|POP DIRECTIONAL ISOLATE
   INHIBIT SYMMETRIC SWAPPING|ACTIVATE SYMMETRIC SWAPPING|INHIBIT ARABIC FORM SHAPING
   ACTIVATE ARABIC FORM SHAPING|NATIONAL DIGIT SHAPES|NOMINAL DIGIT SHAPES|SUPERSCRIPT ZERO
   aLATIN SMALL LETTER I|2074:aFOUR|aFIVE|aSIX|aSEVEN|aEIGHT|aNINE|aPLUS SIGN|aMINUS|aEQUALS SIGN
   aLEFT PARENTHESIS|aRIGHT PARENTHESIS|aLATIN SMALL LETTER N|SUBSCRIPT ZERO|aONE|aTWO|aTHREE|aFOUR
   aFIVE|aSIX|aSEVEN|aEIGHT|aNINE|aPLUS SIGN|aMINUS|aEQUALS SIGN|aLEFT PARENTHESIS
   aRIGHT PARENTHESIS|2090:LATIN SUBSCRIPT SMALL LETTER A|dE|dO|dX|dSCHWA|dH|dK|dL|dM|dN|dP|dS|dT
   20A0:EURO-CURRENCY SIGN|COLON SIGN|CRUZEIRO SIGN|FRENCH FRANC SIGN|LIRA SIGN|MILL SIGN|NAIRA SIGN
   PESETA SIGN|RUPEE SIGN|WON SIGN|NEW SHEQEL SIGN|DONG SIGN|EURO SIGN|KIP SIGN|TUGRIK SIGN
   DRACHMA SIGN|GERMAN PENNY SIGN|PESO SIGN|GUARANI SIGN|AUSTRAL SIGN|HRYVNIA SIGN|CEDI SIGN
   LIVRE TOURNOIS SIGN|SPESMILO SIGN|TENGE SIGN|INDIAN RUPEE SIGN|TURKISH LIRA SIGN|NORDIC MARK SIGN
   MANAT SIGN|RUBLE SIGN|LARI SIGN|BITCOIN SIGN|SOM SIGN|20D0:COMBINING LEFT HARPOON ABOVE
   aRIGHT HARPOON ABOVE|aLONG VERTICAL LINE OVERLAY|aSHORT VERTICAL LINE OVERLAY
   aANTICLOCKWISE ARROW ABOVE|aCLOCKWISE ARROW ABOVE|aLEFT ARROW ABOVE|aRIGHT ARROW ABOVE
   aRING OVERLAY|aCLOCKWISE RING OVERLAY|aANTICLOCKWISE RING OVERLAY|aTHREE DOTS ABOVE
   aFOUR DOTS ABOVE|aENCLOSING CIRCLE|bSQUARE|bDIAMOND|bCIRCLE BACKSLASH|aLEFT RIGHT ARROW ABOVE
   aENCLOSING SCREEN|bKEYCAP|bUPWARD POINTING TRIANGLE|aREVERSE SOLIDUS OVERLAY
   aDOUBLE VERTICAL STROKE OVERLAY|aANNUITY SYMBOL|aTRIPLE UNDERDOT|aWIDE BRIDGE ABOVE
   aLEFTWARDS ARROW OVERLAY|aLONG DOUBLE SOLIDUS OVERLAY|aRIGHTWARDS HARPOON WITH BARB DOWNWARDS
   aLEFTWARDS HARPOON WITH BARB DOWNWARDS|aLEFT ARROW BELOW|aRIGHT ARROW BELOW|aASTERISK ABOVE
   2100:ACCOUNT OF|ADDRESSED TO THE SUBJECT|DOUBLE-STRUCK CAPITAL C|DEGREE CELSIUS
   CENTRE LINE SYMBOL|CARE OF|CADA UNA|EULER CONSTANT|SCRUPLE|DEGREE FAHRENHEIT|SCRIPT SMALL G
   aCAPITAL H|BLACK-LETTER CAPITAL H|DOUBLE-STRUCK CAPITAL H|PLANCK CONSTANT|aCONSTANT OVER TWO PI
   SCRIPT CAPITAL I|BLACK-LETTER CAPITAL I|SCRIPT CAPITAL L|aSMALL L|L B BAR SYMBOL
   DOUBLE-STRUCK CAPITAL N|NUMERO SIGN|SOUND RECORDING COPYRIGHT|SCRIPT CAPITAL P
   DOUBLE-STRUCK CAPITAL P|cQ|SCRIPT CAPITAL R|BLACK-LETTER CAPITAL R|DOUBLE-STRUCK CAPITAL R
   PRESCRIPTION TAKE|RESPONSE|SERVICE MARK|TELEPHONE SIGN|TRADE MARK SIGN|VERSICLE
   DOUBLE-STRUCK CAPITAL Z|OUNCE SIGN|OHM SIGN|INVERTED OHM SIGN|BLACK-LETTER CAPITAL Z
   TURNED GREEK SMALL LETTER IOTA|KELVIN SIGN|ANGSTROM SIGN|SCRIPT CAPITAL B|BLACK-LETTER CAPITAL C
   ESTIMATED SYMBOL|SCRIPT SMALL E|aCAPITAL E|bF|TURNED CAPITAL F|SCRIPT CAPITAL M|aSMALL O
   ALEF SYMBOL|BET SYMBOL|GIMEL SYMBOL|DALET SYMBOL|INFORMATION SOURCE|ROTATED CAPITAL Q
   FACSIMILE SIGN|DOUBLE-STRUCK SMALL PI|cGAMMA|bCAPITAL GAMMA|cPI|bN-ARY SUMMATION
   TURNED SANS-SERIF CAPITAL G|dL|REVERSED SANS-SERIF CAPITAL L|TURNED SANS-SERIF CAPITAL Y
   DOUBLE-STRUCK ITALIC CAPITAL D|cSMALL D|dE|dI|dJ|PROPERTY LINE|TURNED AMPERSAND|PER SIGN
   AKTIESELSKAB|TURNED SMALL F|SYMBOL FOR SAMARITAN SOURCE|VULGAR FRACTION ONE SEVENTH|cNINTH|cTENTH
   cTHIRD|bTWO THIRDS|bONE FIFTH|bTWO FIFTHS|bTHREE FIFTHS|bFOUR FIFTHS|bONE SIXTH|bFIVE SIXTHS
   bONE EIGHTH|bTHREE EIGHTHS|bFIVE EIGHTHS|bSEVEN EIGHTHS|FRACTION NUMERATOR ONE|ROMAN NUMERAL ONE
   bTWO|bTHREE|bFOUR|bFIVE|bSIX|bSEVEN|bEIGHT|bNINE|bTEN|bELEVEN|bTWELVE|bFIFTY|bONE HUNDRED
   bFIVE HUNDRED|bONE THOUSAND|SMALL ROMAN NUMERAL ONE|cTWO|cTHREE|cFOUR|cFIVE|cSIX|cSEVEN|cEIGHT
   cNINE|cTEN|cELEVEN|cTWELVE|cFIFTY|cONE HUNDRED|cFIVE HUNDRED|cONE THOUSAND
   ROMAN NUMERAL ONE THOUSAND C D|bFIVE THOUSAND|bTEN THOUSAND|bREVERSED ONE HUNDRED
   LATIN SMALL LETTER REVERSED C|ROMAN NUMERAL SIX LATE FORM|bFIFTY EARLY FORM|cTHOUSAND
   bONE HUNDRED THOUSAND|VULGAR FRACTION ZERO THIRDS|TURNED DIGIT TWO|bTHREE|2190:LEFTWARDS ARROW
   UPWARDS ARROW|RIGHTWARDS ARROW|DOWNWARDS ARROW|LEFT RIGHT ARROW|UP DOWN ARROW|NORTH WEST ARROW
   aEAST ARROW|SOUTH EAST ARROW|aWEST ARROW|LEFTWARDS ARROW WITH STROKE|RIGHTWARDS ARROW WITH STROKE
   LEFTWARDS WAVE ARROW|RIGHTWARDS WAVE ARROW|LEFTWARDS TWO HEADED ARROW|UPWARDS TWO HEADED ARROW
   RIGHTWARDS TWO HEADED ARROW|DOWNWARDS TWO HEADED ARROW|LEFTWARDS ARROW WITH TAIL
   RIGHTWARDS ARROW WITH TAIL|LEFTWARDS ARROW FROM BAR|UPWARDS ARROW FROM BAR
   RIGHTWARDS ARROW FROM BAR|DOWNWARDS ARROW FROM BAR|UP DOWN ARROW WITH BASE
   LEFTWARDS ARROW WITH HOOK|RIGHTWARDS ARROW WITH HOOK|LEFTWARDS ARROW WITH LOOP
   RIGHTWARDS ARROW WITH LOOP|LEFT RIGHT WAVE ARROW|bARROW WITH STROKE|DOWNWARDS ZIGZAG ARROW
   UPWARDS ARROW WITH TIP LEFTWARDS|dRIGHTWARDS|DOWNWARDS ARROW WITH TIP LEFTWARDS|dRIGHTWARDS
   RIGHTWARDS ARROW WITH CORNER DOWNWARDS|DOWNWARDS ARROW WITH CORNER LEFTWARDS
   ANTICLOCKWISE TOP SEMICIRCLE ARROW|CLOCKWISE TOP SEMICIRCLE ARROW|NORTH WEST ARROW TO LONG BAR
   LEFTWARDS ARROW TO BAR OVER RIGHTWARDS ARROW TO BAR|ANTICLOCKWISE OPEN CIRCLE ARROW
   CLOCKWISE OPEN CIRCLE ARROW|LEFTWARDS HARPOON WITH BARB UPWARDS|dDOWNWARDS
   UPWARDS HARPOON WITH BARB RIGHTWARDS|dLEFTWARDS|RIGHTWARDS HARPOON WITH BARB UPWARDS|dDOWNWARDS
   DOWNWARDS HARPOON WITH BARB RIGHTWARDS|dLEFTWARDS|RIGHTWARDS ARROW OVER LEFTWARDS ARROW
   UPWARDS ARROW LEFTWARDS OF DOWNWARDS ARROW|LEFTWARDS ARROW OVER RIGHTWARDS ARROW|aPAIRED ARROWS
   UPWARDS PAIRED ARROWS|RIGHTWARDS PAIRED ARROWS|DOWNWARDS PAIRED ARROWS
   LEFTWARDS HARPOON OVER RIGHTWARDS HARPOON|RIGHTWARDS HARPOON OVER LEFTWARDS HARPOON
   LEFTWARDS DOUBLE ARROW WITH STROKE|LEFT RIGHT DOUBLE ARROW WITH STROKE
   RIGHTWARDS DOUBLE ARROW WITH STROKE|LEFTWARDS DOUBLE ARROW|UPWARDS DOUBLE ARROW
   RIGHTWARDS DOUBLE ARROW|DOWNWARDS DOUBLE ARROW|LEFT RIGHT DOUBLE ARROW|UP DOWN DOUBLE ARROW
   NORTH WEST DOUBLE ARROW|aEAST DOUBLE ARROW|SOUTH EAST DOUBLE ARROW|aWEST DOUBLE ARROW
   LEFTWARDS TRIPLE ARROW|RIGHTWARDS TRIPLE ARROW|LEFTWARDS SQUIGGLE ARROW|RIGHTWARDS SQUIGGLE ARROW
   UPWARDS ARROW WITH DOUBLE STROKE|DOWNWARDS ARROW WITH DOUBLE STROKE|LEFTWARDS DASHED ARROW
   UPWARDS DASHED ARROW|RIGHTWARDS DASHED ARROW|DOWNWARDS DASHED ARROW|LEFTWARDS ARROW TO BAR
   RIGHTWARDS ARROW TO BAR|LEFTWARDS WHITE ARROW|UPWARDS WHITE ARROW|RIGHTWARDS WHITE ARROW
   DOWNWARDS WHITE ARROW|UPWARDS WHITE ARROW FROM BAR|cON PEDESTAL|dPEDESTAL WITH HORIZONTAL BAR
   fVERTICAL BAR|bDOUBLE ARROW|cARROW ON PEDESTAL|RIGHTWARDS WHITE ARROW FROM WALL
   NORTH WEST ARROW TO CORNER|SOUTH EAST ARROW TO CORNER|UP DOWN WHITE ARROW
   RIGHT ARROW WITH SMALL CIRCLE|DOWNWARDS ARROW LEFTWARDS OF UPWARDS ARROW|THREE RIGHTWARDS ARROWS
   LEFTWARDS ARROW WITH VERTICAL STROKE|RIGHTWARDS ARROW WITH VERTICAL STROKE
   LEFT RIGHT ARROW WITH VERTICAL STROKE|LEFTWARDS ARROW WITH DOUBLE VERTICAL STROKE
   RIGHTWARDS ARROW WITH DOUBLE VERTICAL STROKE|LEFT RIGHT ARROW WITH DOUBLE VERTICAL STROKE
   LEFTWARDS OPEN-HEADED ARROW|RIGHTWARDS OPEN-HEADED ARROW|LEFT RIGHT OPEN-HEADED ARROW|FOR ALL
   COMPLEMENT|PARTIAL DIFFERENTIAL|THERE EXISTS|aDOES NOT EXIST|EMPTY SET|INCREMENT|NABLA|ELEMENT OF
   NOT AN ELEMENT OF|SMALL ELEMENT OF|CONTAINS AS MEMBER|DOES NOT CONTAIN AS MEMBER
   SMALL CONTAINS AS MEMBER|END OF PROOF|N-ARY PRODUCT|bCOPRODUCT|bSUMMATION|MINUS SIGN
   MINUS-OR-PLUS SIGN|DOT PLUS|DIVISION SLASH|SET MINUS|ASTERISK OPERATOR|RING OPERATOR
   BULLET OPERATOR|SQUARE ROOT|CUBE ROOT|FOURTH ROOT|PROPORTIONAL TO|INFINITY|RIGHT ANGLE|ANGLE
   MEASURED ANGLE|SPHERICAL ANGLE|DIVIDES|DOES NOT DIVIDE|PARALLEL TO|NOT PARALLEL TO|LOGICAL AND
   aOR|INTERSECTION|UNION|INTEGRAL|DOUBLE INTEGRAL|TRIPLE INTEGRAL|CONTOUR INTEGRAL|SURFACE INTEGRAL
   VOLUME INTEGRAL|CLOCKWISE INTEGRAL|aCONTOUR INTEGRAL|ANTICLOCKWISE CONTOUR INTEGRAL|THEREFORE
   BECAUSE|RATIO|PROPORTION|DOT MINUS|EXCESS|GEOMETRIC PROPORTION|HOMOTHETIC|TILDE OPERATOR
   REVERSED TILDE|INVERTED LAZY S|SINE WAVE|WREATH PRODUCT|NOT TILDE|MINUS TILDE
   ASYMPTOTICALLY EQUAL TO|NOT ASYMPTOTICALLY EQUAL TO|APPROXIMATELY EQUAL TO
   aBUT NOT ACTUALLY EQUAL TO|NEITHER APPROXIMATELY NOR ACTUALLY EQUAL TO|ALMOST EQUAL TO
   NOT ALMOST EQUAL TO|ALMOST EQUAL OR EQUAL TO|TRIPLE TILDE|ALL EQUAL TO|EQUIVALENT TO
   GEOMETRICALLY EQUIVALENT TO|DIFFERENCE BETWEEN|APPROACHES THE LIMIT|GEOMETRICALLY EQUAL TO
   APPROXIMATELY EQUAL TO OR THE IMAGE OF|IMAGE OF OR APPROXIMATELY EQUAL TO|COLON EQUALS
   EQUALS COLON|RING IN EQUAL TO|aEQUAL TO|CORRESPONDS TO|ESTIMATES|EQUIANGULAR TO|STAR EQUALS
   DELTA EQUAL TO|EQUAL TO BY DEFINITION|MEASURED BY|QUESTIONED EQUAL TO|NOT EQUAL TO|IDENTICAL TO
   NOT IDENTICAL TO|STRICTLY EQUIVALENT TO|LESS-THAN OR EQUAL TO|GREATER-THAN OR EQUAL TO
   LESS-THAN OVER EQUAL TO|GREATER-THAN OVER EQUAL TO|LESS-THAN BUT NOT EQUAL TO
   GREATER-THAN BUT NOT EQUAL TO|MUCH LESS-THAN|aGREATER-THAN|BETWEEN|NOT EQUIVALENT TO|aLESS-THAN
   aGREATER-THAN|NEITHER LESS-THAN NOR EQUAL TO|aGREATER-THAN NOR EQUAL TO
   LESS-THAN OR EQUIVALENT TO|GREATER-THAN OR EQUIVALENT TO|NEITHER LESS-THAN NOR EQUIVALENT TO
   aGREATER-THAN NOR EQUIVALENT TO|LESS-THAN OR GREATER-THAN|GREATER-THAN OR LESS-THAN
   NEITHER LESS-THAN NOR GREATER-THAN|aGREATER-THAN NOR LESS-THAN|PRECEDES|SUCCEEDS
   PRECEDES OR EQUAL TO|SUCCEEDS OR EQUAL TO|PRECEDES OR EQUIVALENT TO|SUCCEEDS OR EQUIVALENT TO
   DOES NOT PRECEDE|bSUCCEED|SUBSET OF|SUPERSET OF|NOT A SUBSET OF|bSUPERSET OF
   SUBSET OF OR EQUAL TO|SUPERSET OF OR EQUAL TO|NEITHER A SUBSET OF NOR EQUAL TO
   bSUPERSET OF NOR EQUAL TO|SUBSET OF WITH NOT EQUAL TO|SUPERSET OF WITH NOT EQUAL TO|MULTISET
   MULTISET MULTIPLICATION|aUNION|SQUARE IMAGE OF|aORIGINAL OF|aIMAGE OF OR EQUAL TO
   aORIGINAL OF OR EQUAL TO|aCAP|aCUP|CIRCLED PLUS|aMINUS|aTIMES|aDIVISION SLASH|aDOT OPERATOR
   aRING OPERATOR|aASTERISK OPERATOR|aEQUALS|aDASH|SQUARED PLUS|aMINUS|aTIMES|aDOT OPERATOR
   RIGHT TACK|LEFT TACK|DOWN TACK|UP TACK|ASSERTION|MODELS|TRUE|FORCES
   TRIPLE VERTICAL BAR RIGHT TURNSTILE|DOUBLE VERTICAL BAR DOUBLE RIGHT TURNSTILE|DOES NOT PROVE
   NOT TRUE|DOES NOT FORCE|NEGATED DOUBLE VERTICAL BAR DOUBLE RIGHT TURNSTILE
   PRECEDES UNDER RELATION|SUCCEEDS UNDER RELATION|NORMAL SUBGROUP OF|CONTAINS AS NORMAL SUBGROUP
   NORMAL SUBGROUP OF OR EQUAL TO|CONTAINS AS NORMAL SUBGROUP OR EQUAL TO|ORIGINAL OF|IMAGE OF
   MULTIMAP|HERMITIAN CONJUGATE MATRIX|INTERCALATE|XOR|NAND|NOR|RIGHT ANGLE WITH ARC|aTRIANGLE
   N-ARY LOGICAL AND|cOR|bINTERSECTION|bUNION|DIAMOND OPERATOR|DOT OPERATOR|STAR OPERATOR
   DIVISION TIMES|BOWTIE|LEFT NORMAL FACTOR SEMIDIRECT PRODUCT
   RIGHT NORMAL FACTOR SEMIDIRECT PRODUCT|LEFT SEMIDIRECT PRODUCT|RIGHT SEMIDIRECT PRODUCT
   REVERSED TILDE EQUALS|CURLY LOGICAL OR|bAND|DOUBLE SUBSET|aSUPERSET|aINTERSECTION|aUNION
   PITCHFORK|EQUAL AND PARALLEL TO|LESS-THAN WITH DOT|GREATER-THAN WITH DOT|VERY MUCH LESS-THAN
   bGREATER-THAN|LESS-THAN EQUAL TO OR GREATER-THAN|GREATER-THAN EQUAL TO OR LESS-THAN
   EQUAL TO OR LESS-THAN|cGREATER-THAN|cPRECEDES|cSUCCEEDS|DOES NOT PRECEDE OR EQUAL
   bSUCCEED OR EQUAL|NOT SQUARE IMAGE OF OR EQUAL TO|bORIGINAL OF OR EQUAL TO
   SQUARE IMAGE OF OR NOT EQUAL TO|aORIGINAL OF OR NOT EQUAL TO|LESS-THAN BUT NOT EQUIVALENT TO
   GREATER-THAN BUT NOT EQUIVALENT TO|PRECEDES BUT NOT EQUIVALENT TO|SUCCEEDS BUT NOT EQUIVALENT TO
   NOT NORMAL SUBGROUP OF|DOES NOT CONTAIN AS NORMAL SUBGROUP|NOT NORMAL SUBGROUP OF OR EQUAL TO
   DOES NOT CONTAIN AS NORMAL SUBGROUP OR EQUAL|VERTICAL ELLIPSIS|MIDLINE HORIZONTAL ELLIPSIS
   UP RIGHT DIAGONAL ELLIPSIS|DOWN RIGHT DIAGONAL ELLIPSIS|ELEMENT OF WITH LONG HORIZONTAL STROKE
   cVERTICAL BAR AT END OF HORIZONTAL STROKE
   SMALL ELEMENT OF WITH VERTICAL BAR AT END OF HORIZONTAL STROKE|ELEMENT OF WITH DOT ABOVE|cOVERBAR
   SMALL ELEMENT OF WITH OVERBAR|ELEMENT OF WITH UNDERBAR|cTWO HORIZONTAL STROKES
   CONTAINS WITH LONG HORIZONTAL STROKE|bVERTICAL BAR AT END OF HORIZONTAL STROKE
   SMALL CONTAINS WITH VERTICAL BAR AT END OF HORIZONTAL STROKE|CONTAINS WITH OVERBAR
   SMALL CONTAINS WITH OVERBAR|Z NOTATION BAG MEMBERSHIP|DIAMETER SIGN|ELECTRIC ARROW|HOUSE
   UP ARROWHEAD|DOWN ARROWHEAD|PROJECTIVE|PERSPECTIVE|WAVY LINE|LEFT CEILING|RIGHT CEILING
   LEFT FLOOR|RIGHT FLOOR|BOTTOM RIGHT CROP|aLEFT CROP|TOP RIGHT CROP|aLEFT CROP|REVERSED NOT SIGN
   SQUARE LOZENGE|ARC|SEGMENT|SECTOR|TELEPHONE RECORDER|POSITION INDICATOR|VIEWDATA SQUARE
   PLACE OF INTEREST SIGN|TURNED NOT SIGN|WATCH|HOURGLASS|TOP LEFT CORNER|aRIGHT CORNER
   BOTTOM LEFT CORNER|aRIGHT CORNER|TOP HALF INTEGRAL|BOTTOM HALF INTEGRAL|FROWN|SMILE
   UP ARROWHEAD BETWEEN TWO HORIZONTAL BARS|OPTION KEY|ERASE TO THE RIGHT|X IN A RECTANGLE BOX
   KEYBOARD|LEFT-POINTING ANGLE BRACKET|RIGHT-POINTING ANGLE BRACKET|ERASE TO THE LEFT|BENZENE RING
   CYLINDRICITY|ALL AROUND-PROFILE|SYMMETRY|TOTAL RUNOUT|DIMENSION ORIGIN|CONICAL TAPER|SLOPE
   COUNTERBORE|COUNTERSINK|APL FUNCTIONAL SYMBOL I-BEAM|cSQUISH QUAD|cQUAD EQUAL|dDIVIDE|dDIAMOND
   dJOT|dCIRCLE|cCIRCLE STILE|dJOT|cSLASH BAR|cBACKSLASH BAR|cQUAD SLASH|dBACKSLASH|dLESS-THAN
   dGREATER-THAN|cLEFTWARDS VANE|cRIGHTWARDS VANE|cQUAD LEFTWARDS ARROW|dRIGHTWARDS ARROW
   cCIRCLE BACKSLASH|cDOWN TACK UNDERBAR|cDELTA STILE|cQUAD DOWN CARET|dDELTA|cDOWN TACK JOT
   cUPWARDS VANE|cQUAD UPWARDS ARROW|cUP TACK OVERBAR|cDEL STILE|cQUAD UP CARET|dDEL|cUP TACK JOT
   cDOWNWARDS VANE|cQUAD DOWNWARDS ARROW|cQUOTE UNDERBAR|cDELTA UNDERBAR|cDIAMOND UNDERBAR
   cJOT UNDERBAR|cCIRCLE UNDERBAR|cUP SHOE JOT|cQUOTE QUAD|cCIRCLE STAR|cQUAD COLON
   cUP TACK DIAERESIS|cDEL DIAERESIS|cSTAR DIAERESIS|cJOT DIAERESIS|cCIRCLE DIAERESIS
   cDOWN SHOE STILE|cLEFT SHOE STILE|cTILDE DIAERESIS|cGREATER-THAN DIAERESIS|cCOMMA BAR|cDEL TILDE
   cZILDE|cSTILE TILDE|cSEMICOLON UNDERBAR|cQUAD NOT EQUAL|dQUESTION|cDOWN CARET TILDE
   cUP CARET TILDE|cIOTA|cRHO|cOMEGA|cALPHA UNDERBAR|cEPSILON UNDERBAR|cIOTA UNDERBAR
   cOMEGA UNDERBAR|cALPHA|NOT CHECK MARK|RIGHT ANGLE WITH DOWNWARDS ZIGZAG ARROW|SHOULDERED OPEN BOX
   BELL SYMBOL|VERTICAL LINE WITH MIDDLE DOT|INSERTION SYMBOL|CONTINUOUS UNDERLINE SYMBOL
   DISCONTINUOUS UNDERLINE SYMBOL|EMPHASIS SYMBOL|COMPOSITION SYMBOL
   WHITE SQUARE WITH CENTRE VERTICAL LINE|ENTER SYMBOL|ALTERNATIVE KEY SYMBOL|HELM SYMBOL
   CIRCLED HORIZONTAL BAR WITH NOTCH|aTRIANGLE DOWN|BROKEN CIRCLE WITH NORTHWEST ARROW|UNDO SYMBOL
   MONOSTABLE SYMBOL|HYSTERESIS SYMBOL|OPEN-CIRCUIT-OUTPUT H-TYPE SYMBOL|cL-TYPE SYMBOL
   PASSIVE-PULL-DOWN-OUTPUT SYMBOL|bUP-OUTPUT SYMBOL|DIRECT CURRENT SYMBOL FORM TWO
   SOFTWARE-FUNCTION SYMBOL|APL FUNCTIONAL SYMBOL QUAD|DECIMAL SEPARATOR KEY SYMBOL|PREVIOUS PAGE
   NEXT PAGE|PRINT SCREEN SYMBOL|CLEAR SCREEN SYMBOL|LEFT PARENTHESIS UPPER HOOK|bEXTENSION
   bLOWER HOOK|RIGHT PARENTHESIS UPPER HOOK|bEXTENSION|bLOWER HOOK|LEFT SQUARE BRACKET UPPER CORNER
   cEXTENSION|cLOWER CORNER|RIGHT SQUARE BRACKET UPPER CORNER|cEXTENSION|cLOWER CORNER
   LEFT CURLY BRACKET UPPER HOOK|cMIDDLE PIECE|cLOWER HOOK|CURLY BRACKET EXTENSION
   RIGHT CURLY BRACKET UPPER HOOK|cMIDDLE PIECE|cLOWER HOOK|INTEGRAL EXTENSION
   HORIZONTAL LINE EXTENSION|UPPER LEFT OR LOWER RIGHT CURLY BRACKET SECTION
   aRIGHT OR LOWER LEFT CURLY BRACKET SECTION|SUMMATION TOP|aBOTTOM|TOP SQUARE BRACKET
   BOTTOM SQUARE BRACKET|bBRACKET OVER TOP SQUARE BRACKET|RADICAL SYMBOL BOTTOM
   LEFT VERTICAL BOX LINE|RIGHT VERTICAL BOX LINE|HORIZONTAL SCAN LINE-1|c3|c7|c9
   DENTISTRY SYMBOL LIGHT VERTICAL AND TOP RIGHT|eBOTTOM RIGHT|dWITH CIRCLE
   cDOWN AND HORIZONTAL WITH CIRCLE|cUP AND HORIZONTAL WITH CIRCLE|cVERTICAL WITH TRIANGLE
   cDOWN AND HORIZONTAL WITH TRIANGLE|cUP AND HORIZONTAL WITH TRIANGLE|cVERTICAL AND WAVE
   cDOWN AND HORIZONTAL WITH WAVE|cUP AND HORIZONTAL WITH WAVE|cDOWN AND HORIZONTAL
   cUP AND HORIZONTAL|cVERTICAL AND TOP LEFT|eBOTTOM LEFT|SQUARE FOOT|RETURN SYMBOL|EJECT SYMBOL
   VERTICAL LINE EXTENSION|METRICAL BREVE|aLONG OVER SHORT|aSHORT OVER LONG|aLONG OVER TWO SHORTS
   aTWO SHORTS OVER LONG|cJOINED|aTRISEME|aTETRASEME|aPENTASEME|EARTH GROUND|FUSE|TOP PARENTHESIS
   BOTTOM PARENTHESIS|TOP CURLY BRACKET|BOTTOM CURLY BRACKET|TOP TORTOISE SHELL BRACKET
   BOTTOM TORTOISE SHELL BRACKET|WHITE TRAPEZIUM|BENZENE RING WITH CIRCLE|STRAIGHTNESS|FLATNESS
   AC CURRENT|ELECTRICAL INTERSECTION|DECIMAL EXPONENT SYMBOL|BLACK RIGHT-POINTING DOUBLE TRIANGLE
   aLEFT-POINTING DOUBLE TRIANGLE|aUP-POINTING DOUBLE TRIANGLE|aDOWN-POINTING DOUBLE TRIANGLE
   aRIGHT-POINTING DOUBLE TRIANGLE WITH VERTICAL BAR
   aLEFT-POINTING DOUBLE TRIANGLE WITH VERTICAL BAR
   aRIGHT-POINTING TRIANGLE WITH DOUBLE VERTICAL BAR|ALARM CLOCK|STOPWATCH|TIMER CLOCK
   HOURGLASS WITH FLOWING SAND|BLACK MEDIUM LEFT-POINTING TRIANGLE|bRIGHT-POINTING TRIANGLE
   bUP-POINTING TRIANGLE|bDOWN-POINTING TRIANGLE|DOUBLE VERTICAL BAR|BLACK SQUARE FOR STOP
   aCIRCLE FOR RECORD|POWER SYMBOL|aON-OFF SYMBOL|aON SYMBOL|aSLEEP SYMBOL|OBSERVER EYE SYMBOL
   SYMBOL FOR NULL|bSTART OF HEADING|dTEXT|bEND OF TEXT|dTRANSMISSION|bENQUIRY|bACKNOWLEDGE|bBELL
   bBACKSPACE|bHORIZONTAL TABULATION|bLINE FEED|bVERTICAL TABULATION|bFORM FEED|bCARRIAGE RETURN
   bSHIFT OUT|cIN|bDATA LINK ESCAPE|bDEVICE CONTROL ONE|dTWO|dTHREE|dFOUR|bNEGATIVE ACKNOWLEDGE
   bSYNCHRONOUS IDLE|bEND OF TRANSMISSION BLOCK|bCANCEL|bEND OF MEDIUM|bSUBSTITUTE|bESCAPE
   bFILE SEPARATOR|bGROUP SEPARATOR|bRECORD SEPARATOR|bUNIT SEPARATOR|bSPACE|bDELETE|BLANK SYMBOL
   OPEN BOX|SYMBOL FOR NEWLINE|bDELETE FORM TWO|bSUBSTITUTE FORM TWO"

end Actionary.Text
