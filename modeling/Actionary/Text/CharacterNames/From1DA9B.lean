/-!
# Names of the characters from 0x1DA9B to 0x2FA1D

Each entry names the character after the one before it, or the one whose code point is written in
front of a colon. A small letter stands for as many words of the name before, counted from `a`.
-/

namespace Actionary.Text

/-- Names of the characters from 0x1DA9B to 0x2FA1D. -/
def charactersFrom1DA9B : String :=
  "1DA9B:SIGNWRITING FILL MODIFIER-2|c3|c4|c5|c6|1DAA1:aROTATION MODIFIER-2|c3|c4|c5|c6|c7|c8|c9|c10
   c11|c12|c13|c14|c15|c16|1DF00:LATIN SMALL LETTER FENG DIGRAPH WITH TRILL|cREVERSED SCRIPT G
   aLETTER SMALL CAPITAL TURNED G|aSMALL LETTER REVERSED K|aLETTER SMALL CAPITAL L WITH BELT
   aSMALL LETTER LEZH WITH RETROFLEX HOOK|cTURNED Y WITH BELT|cREVERSED ENG
   cTURNED R WITH LONG LEG AND RETROFLEX HOOK|cT WITH HOOK AND RETROFLEX HOOK
   aLETTER RETROFLEX CLICK WITH RETROFLEX HOOK|aSMALL LETTER ESH WITH DOUBLE BAR|fBAR AND CURL
   cTURNED T WITH CURL|aLETTER INVERTED GLOTTAL STOP WITH CURL|bSTRETCHED C WITH CURL
   bSMALL CAPITAL TURNED K|aSMALL LETTER L WITH FISHHOOK|cDEZH DIGRAPH WITH PALATAL HOOK
   cL WITH BELT AND PALATAL HOOK|cENG WITH PALATAL HOOK|cTURNED R WITH PALATAL HOOK
   cR WITH FISHHOOK AND PALATAL HOOK|cTESH DIGRAPH WITH PALATAL HOOK|cEZH WITH PALATAL HOOK
   cDEZH DIGRAPH WITH RETROFLEX HOOK|cI WITH STROKE AND RETROFLEX HOOK|cO WITH RETROFLEX HOOK
   cTESH DIGRAPH WITH RETROFLEX HOOK|cC WITH RETROFLEX HOOK|cS WITH CURL
   1DF25:cD WITH MID-HEIGHT LEFT HOOK|cL WITH MID-HEIGHT LEFT HOOK|cN WITH MID-HEIGHT LEFT HOOK
   cR WITH MID-HEIGHT LEFT HOOK|cS WITH MID-HEIGHT LEFT HOOK|cT WITH MID-HEIGHT LEFT HOOK
   1E000:COMBINING GLAGOLITIC LETTER AZU|cBUKY|cVEDE|cGLAGOLI|cDOBRO|cYESTU|cZHIVETE|1E008:cZEMLJA
   cIZHE|cINITIAL IZHE|cI|cDJERVI|cKAKO|cLJUDIJE|cMYSLITE|cNASHI|cONU|cPOKOJI|cRITSI|cSLOVO|cTVRIDO
   cUKU|cFRITU|cHERU|1E01B:cSHTA|cTSI|cCHRIVI|cSHA|cYERU|cYERI|cYATI|1E023:cYU|cSMALL YUS|1E026:cYO
   cIOTATED SMALL YUS|cBIG YUS|cIOTATED BIG YUS|cFITA|1E030:MODIFIER LETTER CYRILLIC SMALL A|dBE|dVE
   dGHE|dDE|dIE|dZHE|dZE|dI|dKA|dEL|dEM|dO|dPE|dER|dES|dTE|dU|dEF|dHA|dTSE|dCHE|dSHA|dYERU|dE|dYU
   dDZZE|dSCHWA|dBYELORUSSIAN-UKRAINIAN I|dJE|dBARRED O|dSTRAIGHT U|dPALOCHKA
   CYRILLIC SUBSCRIPT SMALL LETTER A|dBE|dVE|dGHE|dDE|dIE|dZHE|dZE|dI|dKA|dEL|dO|dPE|dES|dU|dEF|dHA
   dTSE|dCHE|dSHA|dHARD SIGN|dYERU|dGHE WITH UPTURN|dBYELORUSSIAN-UKRAINIAN I|dDZE|dDZHE
   MODIFIER LETTER CYRILLIC SMALL ES WITH DESCENDER|dYERU WITH BACK YER|dSTRAIGHT U WITH STROKE
   1E08F:COMBINING CYRILLIC SMALL LETTER BYELORUSSIAN-UKRAINIAN I
   1E100:NYIAKENG PUACHUE HMONG LETTER MA|dTSA|dNTA|dTA|dHA|dNA|dXA|dNKA|dCA|dLA|dSA|dZA|dNCA|dNTSA
   dKA|dDA|dNYA|dNRA|dVA|dNTXA|dTXA|dFA|dRA|dQA|dYA|dNQA|dPA|dXYA|dNPA|dDLA|dNPLA|dHAH|dMLA|dPLA|dGA
   dRRA|dA|dAA|dI|dU|dO|dOO|dE|dEE|dW|1E130:cTONE-B|dM|dJ|dV|dS|dG|dD|cSIGN FOR PERSON|eTHING
   eLOCATION|eANIMAL|eINVERTEBRATE|dXW XW|cSYLLABLE LENGTHENER|1E140:cDIGIT ZERO|dONE|dTWO|dTHREE
   dFOUR|dFIVE|dSIX|dSEVEN|dEIGHT|dNINE|1E14E:cLOGOGRAM NYAJ|cCIRCLED CA|1E290:TOTO LETTER PA|bBA
   bTA|bDA|bKA|bGA|bMA|bNA|bNGA|bSA|bCHA|bYA|bWA|bJA|bHA|bRA|bLA|bI|bBREATHY I|bIU|bBREATHY IU|bU|bE
   bBREATHY E|bEO|bBREATHY EO|bO|bAE|bBREATHY AE|bA|aSIGN RISING TONE|1E2C0:WANCHO LETTER AA|bA|bBA
   bCA|bDA|bGA|bYA|bPHA|bLA|bNA|bPA|bTA|bTHA|bFA|bSA|bSHA|bJA|bZA|bWA|bVA|bKA|bO|bAU|bRA|bMA|bKHA
   bHA|bE|bI|bNGA|bU|bLLHA|bTSA|bTRA|bONG|bAANG|bANG|bING|bON|bEN|bAAN|bNYA|bUEN|bYIH|aTONE TUP
   bTUPNI|bKOI|bKOINI|aDIGIT ZERO|bONE|bTWO|bTHREE|bFOUR|bFIVE|bSIX|bSEVEN|bEIGHT|bNINE
   1E2FF:aNGUN SIGN|1E4D0:NAG MUNDARI LETTER O|cOP|cOL|cOY|cONG|cA|cAJ|cAB|cANY|cAH|cI|cIS|cIDD|cIT
   cIH|cU|cUC|cUD|cUK|cUR|cE|cENN|cEG|cEM|cEN|cETT|cELL|bSIGN OJOD|cMUHOR|cTOYOR|cIKIR|cSUTUH
   bDIGIT ZERO|cONE|cTWO|cTHREE|cFOUR|cFIVE|cSIX|cSEVEN|cEIGHT|cNINE|1E7E0:ETHIOPIC SYLLABLE HHYA
   bHHYU|bHHYI|bHHYAA|bHHYEE|bHHYE|bHHYO|1E7E8:bGURAGE HHWA|bHHWI|bHHWEE|bHHWE|1E7ED:bGURAGE MWI
   cMWEE|1E7F0:cQWI|cQWEE|cQWE|cBWI|cBWEE|cKWI|cKWEE|cKWE|cGWI|cGWEE|cGWE|cFWI|cFWEE|cPWI|cPWEE
   1E800:MENDE KIKAKUI SYLLABLE M001 KI|cM002 KA|cM003 KU|cM065 KEE|cM095 KE|cM076 KOO|cM048 KO
   cM179 KUA|cM004 WI|cM005 WA|cM006 WU|cM126 WEE|cM118 WE|cM114 WOO|cM045 WO|cM194 WUI|cM143 WEI
   cM061 WVI|cM049 WVA|cM139 WVE|cM007 MIN|cM008 MAN|cM009 MUN|cM059 MEN|cM094 MON|cM154 MUAN
   cM189 MUEN|cM010 BI|cM011 BA|cM012 BU|cM150 BEE|cM097 BE|cM103 BOO|cM138 BO|cM013 I|cM014 A
   cM015 U|cM163 EE|cM100 E|cM165 OO|cM147 O|cM137 EI|cM131 IN|cM135 IN|cM195 AN|cM178 EN|cM019 SI
   cM020 SA|cM021 SU|cM162 SEE|cM116 SE|cM136 SOO|cM079 SO|cM196 SIA|cM025 LI|cM026 LA|cM027 LU
   cM084 LEE|cM073 LE|cM054 LOO|cM153 LO|cM110 LONG LE|cM016 DI|cM017 DA|cM018 DU|cM089 DEE
   cM180 DOO|cM181 DO|cM022 TI|cM023 TA|cM024 TU|cM091 TEE|cM055 TE|cM104 TOO|cM069 TO|cM028 JI
   cM029 JA|cM030 JU|cM157 JEE|cM113 JE|cM160 JOO|cM063 JO|cM175 LONG JO|cM031 YI|cM032 YA|cM033 YU
   cM109 YEE|cM080 YE|cM141 YOO|cM121 YO|cM034 FI|cM035 FA|cM036 FU|cM078 FEE|cM075 FE|cM133 FOO
   cM088 FO|cM197 FUA|cM101 FAN|cM037 NIN|cM038 NAN|cM039 NUN|cM117 NEN|cM169 NON|cM176 HI|cM041 HA
   cM186 HU|cM040 HEE|cM096 HE|cM042 HOO|cM140 HO|cM083 HEEI|cM128 HOOU|cM053 HIN|cM130 HAN
   cM087 HUN|cM052 HEN|cM193 HON|cM046 HUAN|cM090 NGGI|cM043 NGGA|cM082 NGGU|cM115 NGGEE|cM146 NGGE
   cM156 NGGOO|cM120 NGGO|cM159 NGGAA|cM127 NGGUA|cM086 LONG NGGE|cM106 LONG NGGOO|cM183 LONG NGGO
   cM155 GI|cM111 GA|cM168 GU|cM190 GEE|cM166 GUEI|cM167 GUAN|cM184 NGEN|cM057 NGON|cM177 NGUAN
   cM068 PI|cM099 PA|cM050 PU|cM081 PEE|cM051 PE|cM102 POO|cM066 PO|cM145 MBI|cM062 MBA|cM122 MBU
   cM047 MBEE|cM188 MBEE|cM072 MBE|cM172 MBOO|cM174 MBO|cM187 MBUU|cM161 LONG MBE|cM105 LONG MBOO
   cM142 LONG MBO|cM132 KPI|cM092 KPA|cM074 KPU|cM044 KPEE|cM108 KPE|cM112 KPOO|cM158 KPO|cM124 GBI
   cM056 GBA|cM148 GBU|cM093 GBEE|cM107 GBE|cM071 GBOO|cM070 GBO|cM171 RA|cM123 NDI|cM129 NDA
   cM125 NDU|cM191 NDEE|cM119 NDE|cM067 NDOO|cM064 NDO|cM152 NJA|cM192 NJU|cM149 NJEE|cM134 NJOO
   cM182 VI|cM185 VA|cM151 VU|cM173 VEE|cM085 VE|cM144 VOO|cM077 VO|cM164 NYIN|cM058 NYAN|cM170 NYUN
   cM098 NYEN|cM060 NYON|1E8C7:bDIGIT ONE|cTWO|cTHREE|cFOUR|cFIVE|cSIX|cSEVEN|cEIGHT|cNINE
   bCOMBINING NUMBER TEENS|dTENS|dHUNDREDS|dTHOUSANDS|dTEN THOUSANDS|dHUNDRED THOUSANDS|dMILLIONS
   1E900:ADLAM CAPITAL LETTER ALIF|cDAALI|cLAAM|cMIIM|cBA|cSINNYIIYHE|cPE|cBHE|cRA|cE|cFA|cI|cO|cDHA
   cYHE|cWAW|cNUN|cKAF|cYA|cU|cJIIM|cCHI|cHA|cQAAF|cGA|cNYA|cTU|cNHA|cVA|cKHA|cGBE|cZAL|cKPO|cSHA
   aSMALL LETTER ALIF|cDAALI|cLAAM|cMIIM|cBA|cSINNYIIYHE|cPE|cBHE|cRA|cE|cFA|cI|cO|cDHA|cYHE|cWAW
   cNUN|cKAF|cYA|cU|cJIIM|cCHI|cHA|cQAAF|cGA|cNYA|cTU|cNHA|cVA|cKHA|cGBE|cZAL|cKPO|cSHA
   aALIF LENGTHENER|aVOWEL LENGTHENER|aGEMINATION MARK|aHAMZA|aCONSONANT MODIFIER
   aGEMINATE CONSONANT MODIFIER|aNUKTA|aNASALIZATION MARK|1E950:aDIGIT ZERO|bONE|bTWO|bTHREE|bFOUR
   bFIVE|bSIX|bSEVEN|bEIGHT|bNINE|1E95E:aINITIAL EXCLAMATION MARK|bQUESTION MARK
   1EC71:INDIC SIYAQ NUMBER ONE|cTWO|cTHREE|cFOUR|cFIVE|cSIX|cSEVEN|cEIGHT|cNINE|cTEN|cTWENTY
   cTHIRTY|cFORTY|cFIFTY|cSIXTY|cSEVENTY|cEIGHTY|cNINETY|cONE HUNDRED|cTWO HUNDRED|cTHREE HUNDRED
   cFOUR HUNDRED|cFIVE HUNDRED|cSIX HUNDRED|cSEVEN HUNDRED|cEIGHT HUNDRED|cNINE HUNDRED
   cONE THOUSAND|cTWO THOUSAND|cTHREE THOUSAND|cFOUR THOUSAND|cFIVE THOUSAND|cSIX THOUSAND
   cSEVEN THOUSAND|cEIGHT THOUSAND|cNINE THOUSAND|cTEN THOUSAND|cTWENTY THOUSAND|cTHIRTY THOUSAND
   cFORTY THOUSAND|cFIFTY THOUSAND|cSIXTY THOUSAND|cSEVENTY THOUSAND|cEIGHTY THOUSAND
   cNINETY THOUSAND|cLAKH|cLAKHAN|bLAKH MARK|bNUMBER KAROR|cKARORAN|cPREFIXED ONE|dTWO|dTHREE|dFOUR
   dFIVE|dSIX|dSEVEN|dEIGHT|dNINE|bPLACEHOLDER|bFRACTION ONE QUARTER|dHALF|cTHREE QUARTERS
   bRUPEE MARK|bNUMBER ALTERNATE ONE|dTWO|dTEN THOUSAND|bALTERNATE LAKH MARK
   1ED01:OTTOMAN SIYAQ NUMBER ONE|cTWO|cTHREE|cFOUR|cFIVE|cSIX|cSEVEN|cEIGHT|cNINE|cTEN|cTWENTY
   cTHIRTY|cFORTY|cFIFTY|cSIXTY|cSEVENTY|cEIGHTY|cNINETY|cONE HUNDRED|cTWO HUNDRED|cTHREE HUNDRED
   cFOUR HUNDRED|cFIVE HUNDRED|cSIX HUNDRED|cSEVEN HUNDRED|cEIGHT HUNDRED|cNINE HUNDRED
   cONE THOUSAND|cTWO THOUSAND|cTHREE THOUSAND|cFOUR THOUSAND|cFIVE THOUSAND|cSIX THOUSAND
   cSEVEN THOUSAND|cEIGHT THOUSAND|cNINE THOUSAND|cTEN THOUSAND|cTWENTY THOUSAND|cTHIRTY THOUSAND
   cFORTY THOUSAND|cFIFTY THOUSAND|cSIXTY THOUSAND|cSEVENTY THOUSAND|cEIGHTY THOUSAND
   cNINETY THOUSAND|bMARRATAN|bALTERNATE NUMBER TWO|dTHREE|dFOUR|dFIVE|dSIX|dSEVEN|dEIGHT|dNINE|dTEN
   dFOUR HUNDRED|dSIX HUNDRED|dTWO THOUSAND|dTEN THOUSAND|bFRACTION ONE HALF|dSIXTH
   1EE00:ARABIC MATHEMATICAL ALEF|bBEH|bJEEM|bDAL|1EE05:bWAW|bZAIN|bHAH|bTAH|bYEH|bKAF|bLAM|bMEEM
   bNOON|bSEEN|bAIN|bFEH|bSAD|bQAF|bREH|bSHEEN|bTEH|bTHEH|bKHAH|bTHAL|bDAD|bZAH|bGHAIN|bDOTLESS BEH
   cNOON|cFEH|cQAF|1EE21:bINITIAL BEH|cJEEM|1EE24:cHEH|1EE27:cHAH|1EE29:cYEH|cKAF|cLAM|cMEEM|cNOON
   cSEEN|cAIN|cFEH|cSAD|cQAF|1EE34:cSHEEN|cTEH|cTHEH|cKHAH|1EE39:cDAD|1EE3B:cGHAIN
   1EE42:bTAILED JEEM|1EE47:cHAH|1EE49:cYEH|1EE4B:cLAM|1EE4D:cNOON|cSEEN|cAIN|1EE51:cSAD|cQAF
   1EE54:cSHEEN|1EE57:cKHAH|1EE59:cDAD|1EE5B:cGHAIN|1EE5D:cDOTLESS NOON|1EE5F:dQAF
   1EE61:bSTRETCHED BEH|cJEEM|1EE64:cHEH|1EE67:cHAH|cTAH|cYEH|cKAF|1EE6C:cMEEM|cNOON|cSEEN|cAIN|cFEH
   cSAD|cQAF|1EE74:cSHEEN|cTEH|cTHEH|cKHAH|1EE79:cDAD|cZAH|cGHAIN|cDOTLESS BEH|1EE7E:dFEH
   1EE80:bLOOPED ALEF|cBEH|cJEEM|cDAL|cHEH|cWAW|cZAIN|cHAH|cTAH|cYEH|1EE8B:cLAM|cMEEM|cNOON|cSEEN
   cAIN|cFEH|cSAD|cQAF|cREH|cSHEEN|cTEH|cTHEH|cKHAH|cTHAL|cDAD|cZAH|cGHAIN|1EEA1:bDOUBLE-STRUCK BEH
   dJEEM|dDAL|1EEA5:dWAW|dZAIN|dHAH|dTAH|dYEH|1EEAB:dLAM|dMEEM|dNOON|dSEEN|dAIN|dFEH|dSAD|dQAF|dREH
   dSHEEN|dTEH|dTHEH|dKHAH|dTHAL|dDAD|dZAH|dGHAIN|1EEF0:bOPERATOR MEEM WITH HAH WITH TATWEEL
   cHAH WITH DAL|1F000:MAHJONG TILE EAST WIND|bSOUTH WIND|bWEST WIND|bNORTH WIND|bRED DRAGON
   bGREEN DRAGON|bWHITE DRAGON|bONE OF CHARACTERS|bTWO OF CHARACTERS|bTHREE OF CHARACTERS
   bFOUR OF CHARACTERS|bFIVE OF CHARACTERS|bSIX OF CHARACTERS|bSEVEN OF CHARACTERS
   bEIGHT OF CHARACTERS|bNINE OF CHARACTERS|bONE OF BAMBOOS|bTWO OF BAMBOOS|bTHREE OF BAMBOOS
   bFOUR OF BAMBOOS|bFIVE OF BAMBOOS|bSIX OF BAMBOOS|bSEVEN OF BAMBOOS|bEIGHT OF BAMBOOS
   bNINE OF BAMBOOS|bONE OF CIRCLES|bTWO OF CIRCLES|bTHREE OF CIRCLES|bFOUR OF CIRCLES
   bFIVE OF CIRCLES|bSIX OF CIRCLES|bSEVEN OF CIRCLES|bEIGHT OF CIRCLES|bNINE OF CIRCLES|bPLUM
   bORCHID|bBAMBOO|bCHRYSANTHEMUM|bSPRING|bSUMMER|bAUTUMN|bWINTER|bJOKER|bBACK
   1F030:DOMINO TILE HORIZONTAL BACK|bHORIZONTAL-00-00|d01|d02|d03|d04|d05|d06|c01-00|d01|d02|d03
   d04|d05|d06|c02-00|d01|d02|d03|d04|d05|d06|c03-00|d01|d02|d03|d04|d05|d06|c04-00|d01|d02|d03|d04
   d05|d06|c05-00|d01|d02|d03|d04|d05|d06|c06-00|d01|d02|d03|d04|d05|d06|bVERTICAL BACK
   bVERTICAL-00-00|d01|d02|d03|d04|d05|d06|c01-00|d01|d02|d03|d04|d05|d06|c02-00|d01|d02|d03|d04|d05
   d06|c03-00|d01|d02|d03|d04|d05|d06|c04-00|d01|d02|d03|d04|d05|d06|c05-00|d01|d02|d03|d04|d05|d06
   c06-00|d01|d02|d03|d04|d05|d06|1F0A0:PLAYING CARD BACK|bACE OF SPADES|bTWO OF SPADES
   bTHREE OF SPADES|bFOUR OF SPADES|bFIVE OF SPADES|bSIX OF SPADES|bSEVEN OF SPADES|bEIGHT OF SPADES
   bNINE OF SPADES|bTEN OF SPADES|bJACK OF SPADES|bKNIGHT OF SPADES|bQUEEN OF SPADES|bKING OF SPADES
   1F0B1:bACE OF HEARTS|bTWO OF HEARTS|bTHREE OF HEARTS|bFOUR OF HEARTS|bFIVE OF HEARTS
   bSIX OF HEARTS|bSEVEN OF HEARTS|bEIGHT OF HEARTS|bNINE OF HEARTS|bTEN OF HEARTS|bJACK OF HEARTS
   bKNIGHT OF HEARTS|bQUEEN OF HEARTS|bKING OF HEARTS|bRED JOKER|1F0C1:bACE OF DIAMONDS
   bTWO OF DIAMONDS|bTHREE OF DIAMONDS|bFOUR OF DIAMONDS|bFIVE OF DIAMONDS|bSIX OF DIAMONDS
   bSEVEN OF DIAMONDS|bEIGHT OF DIAMONDS|bNINE OF DIAMONDS|bTEN OF DIAMONDS|bJACK OF DIAMONDS
   bKNIGHT OF DIAMONDS|bQUEEN OF DIAMONDS|bKING OF DIAMONDS|bBLACK JOKER|1F0D1:bACE OF CLUBS
   bTWO OF CLUBS|bTHREE OF CLUBS|bFOUR OF CLUBS|bFIVE OF CLUBS|bSIX OF CLUBS|bSEVEN OF CLUBS
   bEIGHT OF CLUBS|bNINE OF CLUBS|bTEN OF CLUBS|bJACK OF CLUBS|bKNIGHT OF CLUBS|bQUEEN OF CLUBS
   bKING OF CLUBS|bWHITE JOKER|bFOOL|bTRUMP-1|c2|c3|c4|c5|c6|c7|c8|c9|c10|c11|c12|c13|c14|c15|c16
   c17|c18|c19|c20|c21|1F100:DIGIT ZERO FULL STOP|bCOMMA|aONE COMMA|aTWO COMMA|aTHREE COMMA
   aFOUR COMMA|aFIVE COMMA|aSIX COMMA|aSEVEN COMMA|aEIGHT COMMA|aNINE COMMA
   DINGBAT CIRCLED SANS-SERIF DIGIT ZERO|aNEGATIVE CIRCLED SANS-SERIF DIGIT ZERO
   CIRCLED ZERO WITH SLASH|aANTICLOCKWISE ARROW|aDOLLAR SIGN WITH OVERLAID BACKSLASH
   PARENTHESIZED LATIN CAPITAL LETTER A|dB|dC|dD|dE|dF|dG|dH|dI|dJ|dK|dL|dM|dN|dO|dP|dQ|dR|dS|dT|dU
   dV|dW|dX|dY|dZ|TORTOISE SHELL BRACKETED LATIN CAPITAL LETTER S
   CIRCLED ITALIC LATIN CAPITAL LETTER C|eR|aCD|aWZ|COPYLEFT SYMBOL|SQUARED LATIN CAPITAL LETTER A
   dB|dC|dD|dE|dF|dG|dH|dI|dJ|dK|dL|dM|dN|dO|dP|dQ|dR|dS|dT|dU|dV|dW|dX|dY|dZ|aHV|aMV|aSD|aSS|aPPV
   aWC|NEGATIVE CIRCLED LATIN CAPITAL LETTER A|eB|eC|eD|eE|eF|eG|eH|eI|eJ|eK|eL|eM|eN|eO|eP|eQ|eR|eS
   eT|eU|eV|eW|eX|eY|eZ|RAISED MC SIGN|aMD SIGN|aMR SIGN|CIRCLED CC|aC WITH OVERLAID BACKSLASH
   aHUMAN FIGURE|NEGATIVE SQUARED LATIN CAPITAL LETTER A|eB|eC|eD|eE|eF|eG|eH|eI|eJ|eK|eL|eM|eN|eO
   eP|eQ|eR|eS|eT|eU|eV|eW|eX|eY|eZ|CROSSED NEGATIVE SQUARED LATIN CAPITAL LETTER P
   NEGATIVE SQUARED IC|bPA|bSA|bAB|bWC|SQUARE DJ|SQUARED CL|aCOOL|aFREE|aID|aNEW|aNG|aOK|aSOS
   aUP WITH EXCLAMATION MARK|aVS|aTHREE D|aSECOND SCREEN|aTWO K|aFOUR K|aEIGHT K|aFIVE POINT ONE
   aSEVEN POINT ONE|aTWENTY-TWO POINT TWO|aSIXTY P|aONE HUNDRED TWENTY P|aLATIN SMALL LETTER D|aHC
   aHDR|aHI-RES|aLOSSLESS|aSHV|aUHD|aVOD|MASK WORK SYMBOL|1F1E6:REGIONAL INDICATOR SYMBOL LETTER A
   dB|dC|dD|dE|dF|dG|dH|dI|dJ|dK|dL|dM|dN|dO|dP|dQ|dR|dS|dT|dU|dV|dW|dX|dY|dZ|SQUARE HIRAGANA HOKA
   SQUARED KATAKANA KOKO|bSA|1F210:aCJK UNIFIED IDEOGRAPH-624B|d5B57|d53CC|aKATAKANA DE
   aCJK UNIFIED IDEOGRAPH-4E8C|d591A|d89E3|d5929|d4EA4|d6620|d7121|d6599|d524D|d5F8C|d518D|d65B0
   d521D|d7D42|d751F|d8CA9|d58F0|d5439|d6F14|d6295|d6355|d4E00|d4E09|d904A|d5DE6|d4E2D|d53F3|d6307
   d8D70|d6253|d7981|d7A7A|d5408|d6E80|d6709|d6708|d7533|d5272|d55B6|d914D
   1F240:TORTOISE SHELL BRACKETED CJK UNIFIED IDEOGRAPH-672C|f4E09|f4E8C|f5B89|f70B9|f6253|f76D7
   f52DD|f6557|1F250:CIRCLED IDEOGRAPH ADVANTAGE|bACCEPT|1F260:ROUNDED SYMBOL FOR FU|cLU|cSHOU|cXI
   cSHUANGXI|cCAI|1F300:CYCLONE|FOGGY|CLOSED UMBRELLA|NIGHT WITH STARS|SUNRISE OVER MOUNTAINS
   SUNRISE|CITYSCAPE AT DUSK|SUNSET OVER BUILDINGS|RAINBOW|BRIDGE AT NIGHT|WATER WAVE|VOLCANO
   MILKY WAY|EARTH GLOBE EUROPE-AFRICA|bAMERICAS|bASIA-AUSTRALIA|GLOBE WITH MERIDIANS
   NEW MOON SYMBOL|WAXING CRESCENT MOON SYMBOL|FIRST QUARTER MOON SYMBOL|WAXING GIBBOUS MOON SYMBOL
   FULL MOON SYMBOL|WANING GIBBOUS MOON SYMBOL|LAST QUARTER MOON SYMBOL|WANING CRESCENT MOON SYMBOL
   CRESCENT MOON|NEW MOON WITH FACE|FIRST QUARTER MOON WITH FACE|LAST QUARTER MOON WITH FACE
   FULL MOON WITH FACE|SUN WITH FACE|GLOWING STAR|SHOOTING STAR|THERMOMETER|BLACK DROPLET|WHITE SUN
   aSUN WITH SMALL CLOUD|bBEHIND CLOUD|cCLOUD WITH RAIN|CLOUD WITH RAIN|bSNOW|bLIGHTNING|bTORNADO
   FOG|WIND BLOWING FACE|HOT DOG|TACO|BURRITO|CHESTNUT|SEEDLING|EVERGREEN TREE|DECIDUOUS TREE
   PALM TREE|CACTUS|HOT PEPPER|TULIP|CHERRY BLOSSOM|ROSE|HIBISCUS|SUNFLOWER|BLOSSOM|EAR OF MAIZE
   bRICE|HERB|FOUR LEAF CLOVER|MAPLE LEAF|FALLEN LEAF|LEAF FLUTTERING IN WIND|MUSHROOM|TOMATO
   AUBERGINE|GRAPES|MELON|WATERMELON|TANGERINE|LEMON|BANANA|PINEAPPLE|RED APPLE|GREEN APPLE|PEAR
   PEACH|CHERRIES|STRAWBERRY|HAMBURGER|SLICE OF PIZZA|MEAT ON BONE|POULTRY LEG|RICE CRACKER|aBALL
   COOKED RICE|CURRY AND RICE|STEAMING BOWL|SPAGHETTI|BREAD|FRENCH FRIES|ROASTED SWEET POTATO|DANGO
   ODEN|SUSHI|FRIED SHRIMP|FISH CAKE WITH SWIRL DESIGN|SOFT ICE CREAM|SHAVED ICE|ICE CREAM|DOUGHNUT
   COOKIE|CHOCOLATE BAR|CANDY|LOLLIPOP|CUSTARD|HONEY POT|SHORTCAKE|BENTO BOX|POT OF FOOD|COOKING
   FORK AND KNIFE|TEACUP WITHOUT HANDLE|SAKE BOTTLE AND CUP|WINE GLASS|COCKTAIL GLASS|TROPICAL DRINK
   BEER MUG|CLINKING BEER MUGS|BABY BOTTLE|FORK AND KNIFE WITH PLATE|BOTTLE WITH POPPING CORK
   POPCORN|RIBBON|WRAPPED PRESENT|BIRTHDAY CAKE|JACK-O-LANTERN|CHRISTMAS TREE|FATHER CHRISTMAS
   FIREWORKS|FIREWORK SPARKLER|BALLOON|PARTY POPPER|CONFETTI BALL|TANABATA TREE|CROSSED FLAGS
   PINE DECORATION|JAPANESE DOLLS|CARP STREAMER|WIND CHIME|MOON VIEWING CEREMONY|SCHOOL SATCHEL
   GRADUATION CAP|HEART WITH TIP ON THE LEFT|BOUQUET OF FLOWERS|MILITARY MEDAL|REMINDER RIBBON
   MUSICAL KEYBOARD WITH JACKS|STUDIO MICROPHONE|LEVEL SLIDER|CONTROL KNOBS
   BEAMED ASCENDING MUSICAL NOTES|aDESCENDING MUSICAL NOTES|FILM FRAMES|ADMISSION TICKETS
   CAROUSEL HORSE|FERRIS WHEEL|ROLLER COASTER|FISHING POLE AND FISH|MICROPHONE|MOVIE CAMERA|CINEMA
   HEADPHONE|ARTIST PALETTE|TOP HAT|CIRCUS TENT|TICKET|CLAPPER BOARD|PERFORMING ARTS|VIDEO GAME
   DIRECT HIT|SLOT MACHINE|BILLIARDS|GAME DIE|BOWLING|FLOWER PLAYING CARDS|MUSICAL NOTE
   MULTIPLE MUSICAL NOTES|SAXOPHONE|GUITAR|MUSICAL KEYBOARD|TRUMPET|VIOLIN|MUSICAL SCORE
   RUNNING SHIRT WITH SASH|TENNIS RACQUET AND BALL|SKI AND SKI BOOT|BASKETBALL AND HOOP
   CHEQUERED FLAG|SNOWBOARDER|RUNNER|SURFER|SPORTS MEDAL|TROPHY|HORSE RACING|AMERICAN FOOTBALL
   RUGBY FOOTBALL|SWIMMER|WEIGHT LIFTER|GOLFER|RACING MOTORCYCLE|aCAR|CRICKET BAT AND BALL
   VOLLEYBALL|FIELD HOCKEY STICK AND BALL|ICE HOCKEY STICK AND PUCK|TABLE TENNIS PADDLE AND BALL
   SNOW CAPPED MOUNTAIN|CAMPING|BEACH WITH UMBRELLA|BUILDING CONSTRUCTION|HOUSE BUILDINGS|CITYSCAPE
   DERELICT HOUSE BUILDING|CLASSICAL BUILDING|DESERT|DESERT ISLAND|NATIONAL PARK|STADIUM
   HOUSE BUILDING|aWITH GARDEN|OFFICE BUILDING|JAPANESE POST OFFICE|EUROPEAN POST OFFICE|HOSPITAL
   BANK|AUTOMATED TELLER MACHINE|HOTEL|LOVE HOTEL|CONVENIENCE STORE|SCHOOL|DEPARTMENT STORE|FACTORY
   IZAKAYA LANTERN|JAPANESE CASTLE|EUROPEAN CASTLE|WHITE PENNANT|BLACK PENNANT|WAVING WHITE FLAG
   aBLACK FLAG|ROSETTE|BLACK ROSETTE|LABEL|BADMINTON RACQUET AND SHUTTLECOCK|BOW AND ARROW|AMPHORA
   EMOJI MODIFIER FITZPATRICK TYPE-1-2|d3|d4|d5|d6|RAT|MOUSE|OX|WATER BUFFALO|COW|TIGER|LEOPARD
   RABBIT|CAT|DRAGON|CROCODILE|WHALE|SNAIL|SNAKE|HORSE|RAM|GOAT|SHEEP|MONKEY|ROOSTER|CHICKEN|DOG|PIG
   BOAR|ELEPHANT|OCTOPUS|SPIRAL SHELL|BUG|ANT|HONEYBEE|LADY BEETLE|FISH|TROPICAL FISH|BLOWFISH
   TURTLE|HATCHING CHICK|BABY CHICK|FRONT-FACING BABY CHICK|BIRD|PENGUIN|KOALA|POODLE
   DROMEDARY CAMEL|BACTRIAN CAMEL|DOLPHIN|MOUSE FACE|COW FACE|TIGER FACE|RABBIT FACE|CAT FACE
   DRAGON FACE|SPOUTING WHALE|HORSE FACE|MONKEY FACE|DOG FACE|PIG FACE|FROG FACE|HAMSTER FACE
   WOLF FACE|BEAR FACE|PANDA FACE|PIG NOSE|PAW PRINTS|CHIPMUNK|EYES|EYE|EAR|NOSE|MOUTH|TONGUE
   WHITE UP POINTING BACKHAND INDEX|aDOWN POINTING BACKHAND INDEX|aLEFT POINTING BACKHAND INDEX
   aRIGHT POINTING BACKHAND INDEX|FISTED HAND SIGN|WAVING HAND SIGN|OK HAND SIGN|THUMBS UP SIGN
   aDOWN SIGN|CLAPPING HANDS SIGN|OPEN HANDS SIGN|CROWN|WOMANS HAT|EYEGLASSES|NECKTIE|T-SHIRT|JEANS
   DRESS|KIMONO|BIKINI|WOMANS CLOTHES|PURSE|HANDBAG|POUCH|MANS SHOE|ATHLETIC SHOE|HIGH-HEELED SHOE
   WOMANS SANDAL|aBOOTS|FOOTPRINTS|BUST IN SILHOUETTE|BUSTS IN SILHOUETTE|BOY|GIRL|MAN|WOMAN|FAMILY
   MAN AND WOMAN HOLDING HANDS|TWO MEN HOLDING HANDS|aWOMEN HOLDING HANDS|POLICE OFFICER
   WOMAN WITH BUNNY EARS|BRIDE WITH VEIL|PERSON WITH BLOND HAIR|MAN WITH GUA PI MAO|bTURBAN
   OLDER MAN|aWOMAN|BABY|CONSTRUCTION WORKER|PRINCESS|JAPANESE OGRE|aGOBLIN|GHOST|BABY ANGEL
   EXTRATERRESTRIAL ALIEN|ALIEN MONSTER|IMP|SKULL|INFORMATION DESK PERSON|GUARDSMAN|DANCER|LIPSTICK
   NAIL POLISH|FACE MASSAGE|HAIRCUT|BARBER POLE|SYRINGE|PILL|KISS MARK|LOVE LETTER|RING|GEM STONE
   KISS|BOUQUET|COUPLE WITH HEART|WEDDING|BEATING HEART|BROKEN HEART|TWO HEARTS|SPARKLING HEART
   GROWING HEART|HEART WITH ARROW|BLUE HEART|GREEN HEART|YELLOW HEART|PURPLE HEART|HEART WITH RIBBON
   REVOLVING HEARTS|HEART DECORATION|DIAMOND SHAPE WITH A DOT INSIDE|ELECTRIC LIGHT BULB
   ANGER SYMBOL|BOMB|SLEEPING SYMBOL|COLLISION SYMBOL|SPLASHING SWEAT SYMBOL|DROPLET|DASH SYMBOL
   PILE OF POO|FLEXED BICEPS|DIZZY SYMBOL|SPEECH BALLOON|THOUGHT BALLOON|WHITE FLOWER
   HUNDRED POINTS SYMBOL|MONEY BAG|CURRENCY EXCHANGE|HEAVY DOLLAR SIGN|CREDIT CARD
   BANKNOTE WITH YEN SIGN|bDOLLAR SIGN|bEURO SIGN|bPOUND SIGN|MONEY WITH WINGS
   CHART WITH UPWARDS TREND AND YEN SIGN|SEAT|PERSONAL COMPUTER|BRIEFCASE|MINIDISC|FLOPPY DISK
   OPTICAL DISC|DVD|FILE FOLDER|OPEN FILE FOLDER|PAGE WITH CURL|aFACING UP|CALENDAR
   TEAR-OFF CALENDAR|CARD INDEX|CHART WITH UPWARDS TREND|bDOWNWARDS TREND|BAR CHART|CLIPBOARD
   PUSHPIN|ROUND PUSHPIN|PAPERCLIP|STRAIGHT RULER|TRIANGULAR RULER|BOOKMARK TABS|LEDGER|NOTEBOOK
   NOTEBOOK WITH DECORATIVE COVER|CLOSED BOOK|OPEN BOOK|GREEN BOOK|BLUE BOOK|ORANGE BOOK|BOOKS
   NAME BADGE|SCROLL|MEMO|TELEPHONE RECEIVER|PAGER|FAX MACHINE|SATELLITE ANTENNA
   PUBLIC ADDRESS LOUDSPEAKER|CHEERING MEGAPHONE|OUTBOX TRAY|INBOX TRAY|PACKAGE|E-MAIL SYMBOL
   INCOMING ENVELOPE|ENVELOPE WITH DOWNWARDS ARROW ABOVE|CLOSED MAILBOX WITH LOWERED FLAG
   cRAISED FLAG|OPEN MAILBOX WITH RAISED FLAG|cLOWERED FLAG|POSTBOX|POSTAL HORN|NEWSPAPER
   MOBILE PHONE|aPHONE WITH RIGHTWARDS ARROW AT LEFT|VIBRATION MODE|MOBILE PHONE OFF
   NO MOBILE PHONES|ANTENNA WITH BARS|CAMERA|CAMERA WITH FLASH|VIDEO CAMERA|TELEVISION|RADIO
   VIDEOCASSETTE|FILM PROJECTOR|PORTABLE STEREO|PRAYER BEADS|TWISTED RIGHTWARDS ARROWS
   CLOCKWISE RIGHTWARDS AND LEFTWARDS OPEN CIRCLE ARROWS|fARROWS WITH CIRCLED ONE OVERLAY
   aDOWNWARDS AND UPWARDS OPEN CIRCLE ARROWS|ANTICLOCKWISE DOWNWARDS AND UPWARDS OPEN CIRCLE ARROWS
   LOW BRIGHTNESS SYMBOL|HIGH BRIGHTNESS SYMBOL|SPEAKER WITH CANCELLATION STROKE|SPEAKER
   SPEAKER WITH ONE SOUND WAVE|bTHREE SOUND WAVES|BATTERY|ELECTRIC PLUG
   LEFT-POINTING MAGNIFYING GLASS|RIGHT-POINTING MAGNIFYING GLASS|LOCK WITH INK PEN
   CLOSED LOCK WITH KEY|KEY|LOCK|OPEN LOCK|BELL|BELL WITH CANCELLATION STROKE|BOOKMARK|LINK SYMBOL
   RADIO BUTTON|BACK WITH LEFTWARDS ARROW ABOVE|END WITH LEFTWARDS ARROW ABOVE
   ON WITH EXCLAMATION MARK WITH LEFT RIGHT ARROW ABOVE|SOON WITH RIGHTWARDS ARROW ABOVE
   TOP WITH UPWARDS ARROW ABOVE|NO ONE UNDER EIGHTEEN SYMBOL|KEYCAP TEN
   INPUT SYMBOL FOR LATIN CAPITAL LETTERS|dSMALL LETTERS|cNUMBERS|cSYMBOLS|cLATIN LETTERS|FIRE
   ELECTRIC TORCH|WRENCH|HAMMER|NUT AND BOLT|HOCHO|PISTOL|MICROSCOPE|TELESCOPE|CRYSTAL BALL
   SIX POINTED STAR WITH MIDDLE DOT|JAPANESE SYMBOL FOR BEGINNER|TRIDENT EMBLEM|BLACK SQUARE BUTTON
   WHITE SQUARE BUTTON|LARGE RED CIRCLE|aBLUE CIRCLE|aORANGE DIAMOND|aBLUE DIAMOND
   SMALL ORANGE DIAMOND|aBLUE DIAMOND|UP-POINTING RED TRIANGLE|DOWN-POINTING RED TRIANGLE
   UP-POINTING SMALL RED TRIANGLE|DOWN-POINTING SMALL RED TRIANGLE|LOWER RIGHT SHADOWED WHITE CIRCLE
   UPPER RIGHT SHADOWED WHITE CIRCLE|CIRCLED CROSS POMMEE|CROSS POMMEE WITH HALF-CIRCLE BELOW
   aPOMMEE|NOTCHED LEFT SEMICIRCLE WITH THREE DOTS|aRIGHT SEMICIRCLE WITH THREE DOTS
   SYMBOL FOR MARKS CHAPTER|WHITE LATIN CROSS|HEAVY LATIN CROSS|CELTIC CROSS|OM SYMBOL|DOVE OF PEACE
   KAABA|MOSQUE|SYNAGOGUE|MENORAH WITH NINE BRANCHES|BOWL OF HYGIEIA|CLOCK FACE ONE OCLOCK
   bTWO OCLOCK|bTHREE OCLOCK|bFOUR OCLOCK|bFIVE OCLOCK|bSIX OCLOCK|bSEVEN OCLOCK|bEIGHT OCLOCK
   bNINE OCLOCK|bTEN OCLOCK|bELEVEN OCLOCK|bTWELVE OCLOCK|bONE-THIRTY|bTWO-THIRTY|bTHREE-THIRTY
   bFOUR-THIRTY|bFIVE-THIRTY|bSIX-THIRTY|bSEVEN-THIRTY|bEIGHT-THIRTY|bNINE-THIRTY|bTEN-THIRTY
   bELEVEN-THIRTY|bTWELVE-THIRTY|RIGHT SPEAKER|aSPEAKER WITH ONE SOUND WAVE|cTHREE SOUND WAVES
   BULLHORN|BULLHORN WITH SOUND WAVES|RINGING BELL|BOOK|CANDLE|MANTELPIECE CLOCK
   BLACK SKULL AND CROSSBONES|NO PIRACY|HOLE|MAN IN BUSINESS SUIT LEVITATING|SLEUTH OR SPY
   DARK SUNGLASSES|SPIDER|SPIDER WEB|JOYSTICK|MAN DANCING|LEFT HAND TELEPHONE RECEIVER
   TELEPHONE RECEIVER WITH PAGE|RIGHT HAND TELEPHONE RECEIVER|WHITE TOUCHTONE TELEPHONE
   BLACK TOUCHTONE TELEPHONE|TELEPHONE ON TOP OF MODEM|CLAMSHELL MOBILE PHONE|BACK OF ENVELOPE
   STAMPED ENVELOPE|ENVELOPE WITH LIGHTNING|FLYING ENVELOPE|PEN OVER STAMPED ENVELOPE
   LINKED PAPERCLIPS|BLACK PUSHPIN|LOWER LEFT PENCIL|bBALLPOINT PEN|bFOUNTAIN PEN|bPAINTBRUSH
   bCRAYON|LEFT WRITING HAND|TURNED OK HAND SIGN|RAISED HAND WITH FINGERS SPLAYED
   REVERSED RAISED HAND WITH FINGERS SPLAYED|aTHUMBS UP SIGN|bDOWN SIGN|aVICTORY HAND
   aHAND WITH MIDDLE FINGER EXTENDED|RAISED HAND WITH PART BETWEEN MIDDLE AND RING FINGERS
   WHITE DOWN POINTING LEFT HAND INDEX|SIDEWAYS WHITE LEFT POINTING INDEX|bRIGHT POINTING INDEX
   aBLACK LEFT POINTING INDEX|bRIGHT POINTING INDEX|BLACK LEFT POINTING BACKHAND INDEX
   aRIGHT POINTING BACKHAND INDEX|SIDEWAYS WHITE UP POINTING INDEX|bDOWN POINTING INDEX
   aBLACK UP POINTING INDEX|bDOWN POINTING INDEX|BLACK UP POINTING BACKHAND INDEX
   aDOWN POINTING BACKHAND INDEX|aHEART|DESKTOP COMPUTER|KEYBOARD AND MOUSE
   THREE NETWORKED COMPUTERS|PRINTER|POCKET CALCULATOR|BLACK HARD SHELL FLOPPY DISK
   WHITE HARD SHELL FLOPPY DISK|SOFT SHELL FLOPPY DISK|TAPE CARTRIDGE|WIRED KEYBOARD
   ONE BUTTON MOUSE|TWO BUTTON MOUSE|THREE BUTTON MOUSE|TRACKBALL|OLD PERSONAL COMPUTER|HARD DISK
   SCREEN|PRINTER ICON|FAX ICON|OPTICAL DISC ICON|DOCUMENT WITH TEXT|bTEXT AND PICTURE|bPICTURE
   FRAME WITH PICTURE|bTILES|bAN X|BLACK FOLDER|FOLDER|OPEN FOLDER|CARD INDEX DIVIDERS|aFILE BOX
   FILE CABINET|EMPTY NOTE|aNOTE PAGE|bPAD|NOTE|NOTE PAGE|aPAD|EMPTY DOCUMENT|aPAGE|aPAGES|DOCUMENT
   PAGE|PAGES|WASTEBASKET|SPIRAL NOTE PAD|aCALENDAR PAD|DESKTOP WINDOW|MINIMIZE|MAXIMIZE|OVERLAP
   CLOCKWISE RIGHT AND LEFT SEMICIRCLE ARROWS|CANCELLATION X|INCREASE FONT SIZE SYMBOL
   DECREASE FONT SIZE SYMBOL|COMPRESSION|OLD KEY|ROLLED-UP NEWSPAPER|PAGE WITH CIRCLED TEXT
   STOCK CHART|DAGGER KNIFE|LIPS|SPEAKING HEAD IN SILHOUETTE|THREE RAYS ABOVE|bBELOW|bLEFT|bRIGHT
   LEFT SPEECH BUBBLE|RIGHT SPEECH BUBBLE|TWO SPEECH BUBBLES|THREE SPEECH BUBBLES
   LEFT THOUGHT BUBBLE|RIGHT THOUGHT BUBBLE|LEFT ANGER BUBBLE|RIGHT ANGER BUBBLE|MOOD BUBBLE
   LIGHTNING MOOD BUBBLE|aMOOD|BALLOT BOX WITH BALLOT|aSCRIPT X|aBOX WITH SCRIPT X|aBOLD SCRIPT X
   aBOX WITH BOLD SCRIPT X|LIGHT CHECK MARK|BALLOT BOX WITH BOLD CHECK|WORLD MAP|MOUNT FUJI
   TOKYO TOWER|STATUE OF LIBERTY|SILHOUETTE OF JAPAN|MOYAI|GRINNING FACE|aFACE WITH SMILING EYES
   FACE WITH TEARS OF JOY|SMILING FACE WITH OPEN MOUTH|dMOUTH AND SMILING EYES|fCOLD SWEAT
   fTIGHTLY-CLOSED EYES|cHALO|cHORNS|WINKING FACE|SMILING FACE WITH SMILING EYES
   FACE SAVOURING DELICIOUS FOOD|RELIEVED FACE|SMILING FACE WITH HEART-SHAPED EYES|cSUNGLASSES
   SMIRKING FACE|NEUTRAL FACE|EXPRESSIONLESS FACE|UNAMUSED FACE|FACE WITH COLD SWEAT|PENSIVE FACE
   CONFUSED FACE|CONFOUNDED FACE|KISSING FACE|FACE THROWING A KISS|KISSING FACE WITH SMILING EYES
   cCLOSED EYES|FACE WITH STUCK-OUT TONGUE|dTONGUE AND WINKING EYE|fTIGHTLY-CLOSED EYES
   DISAPPOINTED FACE|WORRIED FACE|ANGRY FACE|POUTING FACE|CRYING FACE|PERSEVERING FACE
   FACE WITH LOOK OF TRIUMPH|DISAPPOINTED BUT RELIEVED FACE|FROWNING FACE WITH OPEN MOUTH
   ANGUISHED FACE|FEARFUL FACE|WEARY FACE|SLEEPY FACE|TIRED FACE|GRIMACING FACE|LOUDLY CRYING FACE
   FACE WITH OPEN MOUTH|HUSHED FACE|FACE WITH OPEN MOUTH AND COLD SWEAT|aSCREAMING IN FEAR
   ASTONISHED FACE|FLUSHED FACE|SLEEPING FACE|DIZZY FACE|FACE WITHOUT MOUTH|aWITH MEDICAL MASK
   GRINNING CAT FACE WITH SMILING EYES|CAT FACE WITH TEARS OF JOY|SMILING CAT FACE WITH OPEN MOUTH
   dHEART-SHAPED EYES|CAT FACE WITH WRY SMILE|KISSING CAT FACE WITH CLOSED EYES|POUTING CAT FACE
   CRYING CAT FACE|WEARY CAT FACE|SLIGHTLY FROWNING FACE|aSMILING FACE|UPSIDE-DOWN FACE
   FACE WITH ROLLING EYES|bNO GOOD GESTURE|bOK GESTURE|PERSON BOWING DEEPLY|SEE-NO-EVIL MONKEY
   HEAR-NO-EVIL MONKEY|SPEAK-NO-EVIL MONKEY|HAPPY PERSON RAISING ONE HAND
   PERSON RAISING BOTH HANDS IN CELEBRATION|aFROWNING|aWITH POUTING FACE|bFOLDED HANDS
   NORTH WEST POINTING LEAF|SOUTH WEST POINTING LEAF|NORTH EAST POINTING LEAF
   SOUTH EAST POINTING LEAF|TURNED NORTH WEST POINTING LEAF|aSOUTH WEST POINTING LEAF
   aNORTH EAST POINTING LEAF|aSOUTH EAST POINTING LEAF|NORTH WEST POINTING VINE LEAF
   SOUTH WEST POINTING VINE LEAF|NORTH EAST POINTING VINE LEAF|SOUTH EAST POINTING VINE LEAF
   HEAVY NORTH WEST POINTING VINE LEAF|aSOUTH WEST POINTING VINE LEAF|aNORTH EAST POINTING VINE LEAF
   aSOUTH EAST POINTING VINE LEAF|NORTH WEST POINTING BUD|SOUTH WEST POINTING BUD
   NORTH EAST POINTING BUD|SOUTH EAST POINTING BUD|HEAVY NORTH WEST POINTING BUD
   aSOUTH WEST POINTING BUD|aNORTH EAST POINTING BUD|aSOUTH EAST POINTING BUD
   HOLLOW QUILT SQUARE ORNAMENT|cORNAMENT IN BLACK SQUARE|SOLID QUILT SQUARE ORNAMENT
   cORNAMENT IN BLACK SQUARE|LEFTWARDS ROCKET|UPWARDS ROCKET|RIGHTWARDS ROCKET|DOWNWARDS ROCKET
   SCRIPT LIGATURE ET ORNAMENT|HEAVY SCRIPT LIGATURE ET ORNAMENT|LIGATURE OPEN ET ORNAMENT
   HEAVY LIGATURE OPEN ET ORNAMENT|aAMPERSAND ORNAMENT|SWASH AMPERSAND ORNAMENT
   SANS-SERIF HEAVY DOUBLE TURNED COMMA QUOTATION MARK ORNAMENT|dCOMMA QUOTATION MARK ORNAMENT
   cLOW DOUBLE COMMA QUOTATION MARK ORNAMENT|HEAVY INTERROBANG ORNAMENT
   SANS-SERIF INTERROBANG ORNAMENT|HEAVY SANS-SERIF INTERROBANG ORNAMENT|VERY HEAVY SOLIDUS
   bREVERSE SOLIDUS|CHECKER BOARD|REVERSE CHECKER BOARD|ROCKET|HELICOPTER|STEAM LOCOMOTIVE
   RAILWAY CAR|HIGH-SPEED TRAIN|bTRAIN WITH BULLET NOSE|TRAIN|METRO|LIGHT RAIL|STATION|TRAM|TRAM CAR
   BUS|ONCOMING BUS|TROLLEYBUS|BUS STOP|MINIBUS|AMBULANCE|FIRE ENGINE|POLICE CAR|ONCOMING POLICE CAR
   TAXI|ONCOMING TAXI|AUTOMOBILE|ONCOMING AUTOMOBILE|RECREATIONAL VEHICLE|DELIVERY TRUCK
   ARTICULATED LORRY|TRACTOR|MONORAIL|MOUNTAIN RAILWAY|SUSPENSION RAILWAY|MOUNTAIN CABLEWAY
   AERIAL TRAMWAY|SHIP|ROWBOAT|SPEEDBOAT|HORIZONTAL TRAFFIC LIGHT|VERTICAL TRAFFIC LIGHT
   CONSTRUCTION SIGN|POLICE CARS REVOLVING LIGHT|TRIANGULAR FLAG ON POST|DOOR|NO ENTRY SIGN
   SMOKING SYMBOL|NO SMOKING SYMBOL|PUT LITTER IN ITS PLACE SYMBOL|DO NOT LITTER SYMBOL
   POTABLE WATER SYMBOL|NON-POTABLE WATER SYMBOL|BICYCLE|NO BICYCLES|BICYCLIST|MOUNTAIN BICYCLIST
   PEDESTRIAN|NO PEDESTRIANS|CHILDREN CROSSING|MENS SYMBOL|WOMENS SYMBOL|RESTROOM|BABY SYMBOL|TOILET
   WATER CLOSET|SHOWER|BATH|BATHTUB|PASSPORT CONTROL|CUSTOMS|BAGGAGE CLAIM|LEFT LUGGAGE
   TRIANGLE WITH ROUNDED CORNERS|PROHIBITED SIGN|CIRCLED INFORMATION SOURCE|BOYS SYMBOL|GIRLS SYMBOL
   COUCH AND LAMP|SLEEPING ACCOMMODATION|SHOPPING BAGS|BELLHOP BELL|BED|PLACE OF WORSHIP
   OCTAGONAL SIGN|SHOPPING TROLLEY|STUPA|PAGODA|HINDU TEMPLE|HUT|ELEVATOR|1F6DC:WIRELESS
   PLAYGROUND SLIDE|WHEEL|RING BUOY|HAMMER AND WRENCH|SHIELD|OIL DRUM|MOTORWAY|RAILWAY TRACK
   MOTOR BOAT|UP-POINTING MILITARY AIRPLANE|bAIRPLANE|bSMALL AIRPLANE|SMALL AIRPLANE
   NORTHEAST-POINTING AIRPLANE|AIRPLANE DEPARTURE|aARRIVING|1F6F0:SATELLITE|ONCOMING FIRE ENGINE
   DIESEL LOCOMOTIVE|PASSENGER SHIP|SCOOTER|MOTOR SCOOTER|CANOE|SLED|FLYING SAUCER|SKATEBOARD
   AUTO RICKSHAW|PICKUP TRUCK|ROLLER SKATE|1F700:ALCHEMICAL SYMBOL FOR QUINTESSENCE|cAIR|cFIRE
   cEARTH|cWATER|cAQUAFORTIS|cAQUA REGIA|dREGIA-2|dVITAE|dVITAE-2|cVINEGAR|cVINEGAR-2|d3|cSULFUR
   cPHILOSOPHERS SULFUR|cBLACK SULFUR|cMERCURY SUBLIMATE|dSUBLIMATE-2|e3|cCINNABAR|cSALT|cNITRE
   cVITRIOL|cVITRIOL-2|cROCK SALT|dSALT-2|cGOLD|cSILVER|cIRON ORE|dORE-2|cCROCUS OF IRON
   cREGULUS OF IRON|cCOPPER ORE|cIRON-COPPER ORE|cSUBLIMATE OF COPPER|cCROCUS OF COPPER|eCOPPER-2
   cCOPPER ANTIMONIATE|cSALT OF COPPER ANTIMONIATE|cSUBLIMATE OF SALT OF COPPER|cVERDIGRIS|cTIN ORE
   cLEAD ORE|cANTIMONY ORE|cSUBLIMATE OF ANTIMONY|cSALT OF ANTIMONY|cSUBLIMATE OF SALT OF ANTIMONY
   cVINEGAR OF ANTIMONY|cREGULUS OF ANTIMONY|eANTIMONY-2|cREGULUS|cREGULUS-2|d3|d4|cALKALI|cALKALI-2
   cMARCASITE|cSAL-AMMONIAC|cARSENIC|cREALGAR|cREALGAR-2|cAURIPIGMENT|cBISMUTH ORE|cTARTAR|cTARTAR-2
   cQUICK LIME|cBORAX|cBORAX-2|d3|cALUM|cOIL|cSPIRIT|cTINCTURE|cGUM|cWAX|cPOWDER|cCALX|cTUTTY
   cCAPUT MORTUUM|cSCEPTER OF JOVE|cCADUCEUS|cTRIDENT|cSTARRED TRIDENT|cLODESTONE|cSOAP|cURINE
   cHORSE DUNG|cASHES|cPOT ASHES|cBRICK|cPOWDERED BRICK|cAMALGAM|cSTRATUM SUPER STRATUM|eSTRATUM-2
   cSUBLIMATION|cPRECIPITATE|cDISTILL|cDISSOLVE|cDISSOLVE-2|cPURIFY|cPUTREFACTION|cCRUCIBLE
   cCRUCIBLE-2|d3|d4|d5|cALEMBIC|cBATH OF MARY|eVAPOURS|cRETORT|cHOUR|cNIGHT|cDAY-NIGHT|cMONTH
   cHALF DRAM|dOUNCE|LOT OF FORTUNE|OCCULTATION|LUNAR ECLIPSE|1F77B:HAUMEA|MAKEMAKE|GONGGONG|QUAOAR
   ORCUS|BLACK LEFT-POINTING ISOSCELES RIGHT TRIANGLE|aUP-POINTING ISOSCELES RIGHT TRIANGLE
   aRIGHT-POINTING ISOSCELES RIGHT TRIANGLE|aDOWN-POINTING ISOSCELES RIGHT TRIANGLE
   aSLIGHTLY SMALL CIRCLE|MEDIUM BOLD WHITE CIRCLE|BOLD WHITE CIRCLE|HEAVY WHITE CIRCLE
   VERY HEAVY WHITE CIRCLE|EXTREMELY HEAVY WHITE CIRCLE|WHITE CIRCLE CONTAINING BLACK SMALL CIRCLE
   ROUND TARGET|BLACK TINY SQUARE|aSLIGHTLY SMALL SQUARE|LIGHT WHITE SQUARE|MEDIUM WHITE SQUARE
   BOLD WHITE SQUARE|HEAVY WHITE SQUARE|VERY HEAVY WHITE SQUARE|EXTREMELY HEAVY WHITE SQUARE
   WHITE SQUARE CONTAINING BLACK VERY SMALL SQUARE|dMEDIUM SQUARE|SQUARE TARGET|BLACK TINY DIAMOND
   aVERY SMALL DIAMOND|aMEDIUM SMALL DIAMOND|WHITE DIAMOND CONTAINING BLACK VERY SMALL DIAMOND
   dMEDIUM DIAMOND|DIAMOND TARGET|BLACK TINY LOZENGE|aVERY SMALL LOZENGE|aMEDIUM SMALL LOZENGE
   WHITE LOZENGE CONTAINING BLACK SMALL LOZENGE|THIN GREEK CROSS|LIGHT GREEK CROSS
   MEDIUM GREEK CROSS|BOLD GREEK CROSS|VERY BOLD GREEK CROSS|aHEAVY GREEK CROSS
   EXTREMELY HEAVY GREEK CROSS|THIN SALTIRE|LIGHT SALTIRE|MEDIUM SALTIRE|BOLD SALTIRE|HEAVY SALTIRE
   VERY HEAVY SALTIRE|EXTREMELY HEAVY SALTIRE|LIGHT FIVE SPOKED ASTERISK|MEDIUM FIVE SPOKED ASTERISK
   BOLD FIVE SPOKED ASTERISK|HEAVY FIVE SPOKED ASTERISK|VERY HEAVY FIVE SPOKED ASTERISK
   EXTREMELY HEAVY FIVE SPOKED ASTERISK|LIGHT SIX SPOKED ASTERISK|MEDIUM SIX SPOKED ASTERISK
   BOLD SIX SPOKED ASTERISK|HEAVY SIX SPOKED ASTERISK|VERY HEAVY SIX SPOKED ASTERISK
   EXTREMELY HEAVY SIX SPOKED ASTERISK|LIGHT EIGHT SPOKED ASTERISK|MEDIUM EIGHT SPOKED ASTERISK
   BOLD EIGHT SPOKED ASTERISK|HEAVY EIGHT SPOKED ASTERISK|VERY HEAVY EIGHT SPOKED ASTERISK
   LIGHT THREE POINTED BLACK STAR|MEDIUM THREE POINTED BLACK STAR|THREE POINTED BLACK STAR
   MEDIUM THREE POINTED PINWHEEL STAR|LIGHT FOUR POINTED BLACK STAR|MEDIUM FOUR POINTED BLACK STAR
   FOUR POINTED BLACK STAR|MEDIUM FOUR POINTED PINWHEEL STAR
   REVERSE LIGHT FOUR POINTED PINWHEEL STAR|LIGHT FIVE POINTED BLACK STAR
   HEAVY FIVE POINTED BLACK STAR|MEDIUM SIX POINTED BLACK STAR|HEAVY SIX POINTED BLACK STAR
   SIX POINTED PINWHEEL STAR|MEDIUM EIGHT POINTED BLACK STAR|HEAVY EIGHT POINTED BLACK STAR
   VERY HEAVY EIGHT POINTED BLACK STAR|HEAVY EIGHT POINTED PINWHEEL STAR
   LIGHT TWELVE POINTED BLACK STAR|HEAVY TWELVE POINTED BLACK STAR|cPINWHEEL STAR|CIRCLED TRIANGLE
   NEGATIVE CIRCLED TRIANGLE|CIRCLED SQUARE|NEGATIVE CIRCLED SQUARE|NINE POINTED WHITE STAR
   1F7E0:LARGE ORANGE CIRCLE|aYELLOW CIRCLE|aGREEN CIRCLE|aPURPLE CIRCLE|aBROWN CIRCLE|aRED SQUARE
   aBLUE SQUARE|aORANGE SQUARE|aYELLOW SQUARE|aGREEN SQUARE|aPURPLE SQUARE|aBROWN SQUARE
   1F7F0:HEAVY EQUALS SIGN|1F800:LEFTWARDS ARROW WITH SMALL TRIANGLE ARROWHEAD
   UPWARDS ARROW WITH SMALL TRIANGLE ARROWHEAD|RIGHTWARDS ARROW WITH SMALL TRIANGLE ARROWHEAD
   DOWNWARDS ARROW WITH SMALL TRIANGLE ARROWHEAD|LEFTWARDS ARROW WITH MEDIUM TRIANGLE ARROWHEAD
   UPWARDS ARROW WITH MEDIUM TRIANGLE ARROWHEAD|RIGHTWARDS ARROW WITH MEDIUM TRIANGLE ARROWHEAD
   DOWNWARDS ARROW WITH MEDIUM TRIANGLE ARROWHEAD|LEFTWARDS ARROW WITH LARGE TRIANGLE ARROWHEAD
   UPWARDS ARROW WITH LARGE TRIANGLE ARROWHEAD|RIGHTWARDS ARROW WITH LARGE TRIANGLE ARROWHEAD
   DOWNWARDS ARROW WITH LARGE TRIANGLE ARROWHEAD
   1F810:LEFTWARDS ARROW WITH SMALL EQUILATERAL ARROWHEAD
   UPWARDS ARROW WITH SMALL EQUILATERAL ARROWHEAD|RIGHTWARDS ARROW WITH SMALL EQUILATERAL ARROWHEAD
   DOWNWARDS ARROW WITH SMALL EQUILATERAL ARROWHEAD|LEFTWARDS ARROW WITH EQUILATERAL ARROWHEAD
   UPWARDS ARROW WITH EQUILATERAL ARROWHEAD|RIGHTWARDS ARROW WITH EQUILATERAL ARROWHEAD
   DOWNWARDS ARROW WITH EQUILATERAL ARROWHEAD|HEAVY LEFTWARDS ARROW WITH EQUILATERAL ARROWHEAD
   aUPWARDS ARROW WITH EQUILATERAL ARROWHEAD|aRIGHTWARDS ARROW WITH EQUILATERAL ARROWHEAD
   aDOWNWARDS ARROW WITH EQUILATERAL ARROWHEAD|aLEFTWARDS ARROW WITH LARGE EQUILATERAL ARROWHEAD
   aUPWARDS ARROW WITH LARGE EQUILATERAL ARROWHEAD
   aRIGHTWARDS ARROW WITH LARGE EQUILATERAL ARROWHEAD
   aDOWNWARDS ARROW WITH LARGE EQUILATERAL ARROWHEAD
   LEFTWARDS TRIANGLE-HEADED ARROW WITH NARROW SHAFT|UPWARDS TRIANGLE-HEADED ARROW WITH NARROW SHAFT
   RIGHTWARDS TRIANGLE-HEADED ARROW WITH NARROW SHAFT
   DOWNWARDS TRIANGLE-HEADED ARROW WITH NARROW SHAFT
   LEFTWARDS TRIANGLE-HEADED ARROW WITH MEDIUM SHAFT|UPWARDS TRIANGLE-HEADED ARROW WITH MEDIUM SHAFT
   RIGHTWARDS TRIANGLE-HEADED ARROW WITH MEDIUM SHAFT
   DOWNWARDS TRIANGLE-HEADED ARROW WITH MEDIUM SHAFT|LEFTWARDS TRIANGLE-HEADED ARROW WITH BOLD SHAFT
   UPWARDS TRIANGLE-HEADED ARROW WITH BOLD SHAFT|RIGHTWARDS TRIANGLE-HEADED ARROW WITH BOLD SHAFT
   DOWNWARDS TRIANGLE-HEADED ARROW WITH BOLD SHAFT|LEFTWARDS TRIANGLE-HEADED ARROW WITH HEAVY SHAFT
   UPWARDS TRIANGLE-HEADED ARROW WITH HEAVY SHAFT|RIGHTWARDS TRIANGLE-HEADED ARROW WITH HEAVY SHAFT
   DOWNWARDS TRIANGLE-HEADED ARROW WITH HEAVY SHAFT
   LEFTWARDS TRIANGLE-HEADED ARROW WITH VERY HEAVY SHAFT
   UPWARDS TRIANGLE-HEADED ARROW WITH VERY HEAVY SHAFT
   RIGHTWARDS TRIANGLE-HEADED ARROW WITH VERY HEAVY SHAFT
   DOWNWARDS TRIANGLE-HEADED ARROW WITH VERY HEAVY SHAFT|LEFTWARDS FINGER-POST ARROW
   UPWARDS FINGER-POST ARROW|RIGHTWARDS FINGER-POST ARROW|DOWNWARDS FINGER-POST ARROW
   LEFTWARDS SQUARED ARROW|UPWARDS SQUARED ARROW|RIGHTWARDS SQUARED ARROW|DOWNWARDS SQUARED ARROW
   LEFTWARDS COMPRESSED ARROW|UPWARDS COMPRESSED ARROW|RIGHTWARDS COMPRESSED ARROW
   DOWNWARDS COMPRESSED ARROW|LEFTWARDS HEAVY COMPRESSED ARROW|UPWARDS HEAVY COMPRESSED ARROW
   RIGHTWARDS HEAVY COMPRESSED ARROW|DOWNWARDS HEAVY COMPRESSED ARROW|LEFTWARDS HEAVY ARROW
   UPWARDS HEAVY ARROW|RIGHTWARDS HEAVY ARROW|DOWNWARDS HEAVY ARROW|1F850:LEFTWARDS SANS-SERIF ARROW
   UPWARDS SANS-SERIF ARROW|RIGHTWARDS SANS-SERIF ARROW|DOWNWARDS SANS-SERIF ARROW
   NORTH WEST SANS-SERIF ARROW|aEAST SANS-SERIF ARROW|SOUTH EAST SANS-SERIF ARROW
   aWEST SANS-SERIF ARROW|LEFT RIGHT SANS-SERIF ARROW|UP DOWN SANS-SERIF ARROW
   1F860:WIDE-HEADED LEFTWARDS LIGHT BARB ARROW|bUPWARDS LIGHT BARB ARROW
   bRIGHTWARDS LIGHT BARB ARROW|bDOWNWARDS LIGHT BARB ARROW|bNORTH WEST LIGHT BARB ARROW
   cEAST LIGHT BARB ARROW|bSOUTH EAST LIGHT BARB ARROW|cWEST LIGHT BARB ARROW|bLEFTWARDS BARB ARROW
   bUPWARDS BARB ARROW|bRIGHTWARDS BARB ARROW|bDOWNWARDS BARB ARROW|bNORTH WEST BARB ARROW
   cEAST BARB ARROW|bSOUTH EAST BARB ARROW|cWEST BARB ARROW|bLEFTWARDS MEDIUM BARB ARROW
   bUPWARDS MEDIUM BARB ARROW|bRIGHTWARDS MEDIUM BARB ARROW|bDOWNWARDS MEDIUM BARB ARROW
   bNORTH WEST MEDIUM BARB ARROW|cEAST MEDIUM BARB ARROW|bSOUTH EAST MEDIUM BARB ARROW
   cWEST MEDIUM BARB ARROW|bLEFTWARDS HEAVY BARB ARROW|bUPWARDS HEAVY BARB ARROW
   bRIGHTWARDS HEAVY BARB ARROW|bDOWNWARDS HEAVY BARB ARROW|bNORTH WEST HEAVY BARB ARROW
   cEAST HEAVY BARB ARROW|bSOUTH EAST HEAVY BARB ARROW|cWEST HEAVY BARB ARROW
   bLEFTWARDS VERY HEAVY BARB ARROW|bUPWARDS VERY HEAVY BARB ARROW|bRIGHTWARDS VERY HEAVY BARB ARROW
   bDOWNWARDS VERY HEAVY BARB ARROW|bNORTH WEST VERY HEAVY BARB ARROW|cEAST VERY HEAVY BARB ARROW
   bSOUTH EAST VERY HEAVY BARB ARROW|cWEST VERY HEAVY BARB ARROW|1F890:LEFTWARDS TRIANGLE ARROWHEAD
   UPWARDS TRIANGLE ARROWHEAD|RIGHTWARDS TRIANGLE ARROWHEAD|DOWNWARDS TRIANGLE ARROWHEAD
   LEFTWARDS WHITE ARROW WITHIN TRIANGLE ARROWHEAD|UPWARDS WHITE ARROW WITHIN TRIANGLE ARROWHEAD
   RIGHTWARDS WHITE ARROW WITHIN TRIANGLE ARROWHEAD|DOWNWARDS WHITE ARROW WITHIN TRIANGLE ARROWHEAD
   LEFTWARDS ARROW WITH NOTCHED TAIL|UPWARDS ARROW WITH NOTCHED TAIL
   RIGHTWARDS ARROW WITH NOTCHED TAIL|DOWNWARDS ARROW WITH NOTCHED TAIL|HEAVY ARROW SHAFT WIDTH ONE
   dTWO THIRDS|dONE HALF|eTHIRD|LEFTWARDS BOTTOM-SHADED WHITE ARROW
   RIGHTWARDS BOTTOM SHADED WHITE ARROW|LEFTWARDS TOP SHADED WHITE ARROW
   RIGHTWARDS TOP SHADED WHITE ARROW|LEFTWARDS LEFT-SHADED WHITE ARROW
   RIGHTWARDS RIGHT-SHADED WHITE ARROW|LEFTWARDS RIGHT-SHADED WHITE ARROW
   RIGHTWARDS LEFT-SHADED WHITE ARROW|LEFTWARDS BACK-TILTED SHADOWED WHITE ARROW
   RIGHTWARDS BACK-TILTED SHADOWED WHITE ARROW|LEFTWARDS FRONT-TILTED SHADOWED WHITE ARROW
   RIGHTWARDS FRONT-TILTED SHADOWED WHITE ARROW|WHITE ARROW SHAFT WIDTH ONE|dTWO THIRDS
   1F8B0:ARROW POINTING UPWARDS THEN NORTH WEST|bRIGHTWARDS THEN CURVING SOUTH WEST
   1F900:CIRCLED CROSS FORMEE WITH FOUR DOTS|dTWO DOTS|bFORMEE|LEFT HALF CIRCLE WITH FOUR DOTS
   dTHREE DOTS|dTWO DOTS|dDOT|bCIRCLE|DOWNWARD FACING HOOK|bNOTCHED HOOK|bHOOK WITH DOT
   bNOTCHED HOOK WITH DOT|PINCHED FINGERS|WHITE HEART|BROWN HEART|PINCHING HAND|ZIPPER-MOUTH FACE
   MONEY-MOUTH FACE|FACE WITH THERMOMETER|NERD FACE|THINKING FACE|FACE WITH HEAD-BANDAGE|ROBOT FACE
   HUGGING FACE|SIGN OF THE HORNS|CALL ME HAND|RAISED BACK OF HAND|LEFT-FACING FIST
   RIGHT-FACING FIST|HANDSHAKE|HAND WITH INDEX AND MIDDLE FINGERS CROSSED|I LOVE YOU HAND SIGN
   FACE WITH COWBOY HAT|CLOWN FACE|NAUSEATED FACE|ROLLING ON THE FLOOR LAUGHING|DROOLING FACE
   LYING FACE|FACE PALM|SNEEZING FACE|FACE WITH ONE EYEBROW RAISED|GRINNING FACE WITH STAR EYES
   cONE LARGE AND ONE SMALL EYE|FACE WITH FINGER COVERING CLOSED LIPS
   SERIOUS FACE WITH SYMBOLS COVERING MOUTH|SMILING FACE WITH SMILING EYES AND HAND COVERING MOUTH
   FACE WITH OPEN MOUTH VOMITING|SHOCKED FACE WITH EXPLODING HEAD|PREGNANT WOMAN|BREAST-FEEDING
   PALMS UP TOGETHER|SELFIE|PRINCE|MAN IN TUXEDO|MOTHER CHRISTMAS|SHRUG|PERSON DOING CARTWHEEL
   JUGGLING|FENCER|MODERN PENTATHLON|WRESTLERS|WATER POLO|HANDBALL|DIVING MASK|WILTED FLOWER
   DRUM WITH DRUMSTICKS|CLINKING GLASSES|TUMBLER GLASS|SPOON|GOAL NET|RIFLE|FIRST PLACE MEDAL
   SECOND PLACE MEDAL|THIRD PLACE MEDAL|BOXING GLOVE|MARTIAL ARTS UNIFORM|CURLING STONE
   LACROSSE STICK AND BALL|SOFTBALL|FLYING DISC|CROISSANT|AVOCADO|CUCUMBER|BACON|POTATO|CARROT
   BAGUETTE BREAD|GREEN SALAD|SHALLOW PAN OF FOOD|STUFFED FLATBREAD|EGG|GLASS OF MILK|PEANUTS
   KIWIFRUIT|PANCAKES|DUMPLING|FORTUNE COOKIE|TAKEOUT BOX|CHOPSTICKS|BOWL WITH SPOON|CUP WITH STRAW
   COCONUT|BROCCOLI|PIE|PRETZEL|CUT OF MEAT|SANDWICH|CANNED FOOD|LEAFY GREEN|MANGO|MOON CAKE|BAGEL
   SMILING FACE WITH SMILING EYES AND THREE HEARTS|YAWNING FACE|SMILING FACE WITH TEAR
   FACE WITH PARTY HORN AND PARTY HAT|bUNEVEN EYES AND WAVY MOUTH|OVERHEATED FACE|FREEZING FACE
   NINJA|DISGUISED FACE|FACE HOLDING BACK TEARS|aWITH PLEADING EYES|SARI|LAB COAT|GOGGLES
   HIKING BOOT|FLAT SHOE|CRAB|LION FACE|SCORPION|TURKEY|UNICORN FACE|EAGLE|DUCK|BAT|SHARK|OWL
   FOX FACE|BUTTERFLY|DEER|GORILLA|LIZARD|RHINOCEROS|SHRIMP|SQUID|GIRAFFE FACE|ZEBRA FACE|HEDGEHOG
   SAUROPOD|T-REX|CRICKET|KANGAROO|LLAMA|PEACOCK|HIPPOPOTAMUS|PARROT|RACCOON|LOBSTER|MOSQUITO
   MICROBE|BADGER|SWAN|MAMMOTH|DODO|SLOTH|OTTER|ORANGUTAN|SKUNK|FLAMINGO|OYSTER|BEAVER|BISON|SEAL
   GUIDE DOG|PROBING CANE|EMOJI COMPONENT RED HAIR|bCURLY HAIR|bBALD|bWHITE HAIR|BONE|LEG|FOOT|TOOTH
   SUPERHERO|SUPERVILLAIN|SAFETY VEST|EAR WITH HEARING AID|MOTORIZED WHEELCHAIR|MANUAL WHEELCHAIR
   MECHANICAL ARM|aLEG|CHEESE WEDGE|CUPCAKE|SALT SHAKER|BEVERAGE BOX|GARLIC|ONION|FALAFEL|WAFFLE
   BUTTER|MATE DRINK|ICE CUBE|BUBBLE TEA|TROLL|STANDING PERSON|KNEELING PERSON|DEAF PERSON
   FACE WITH MONOCLE|ADULT|CHILD|OLDER ADULT|BEARDED PERSON|PERSON WITH HEADSCARF|aIN STEAMY ROOM
   aCLIMBING|aIN LOTUS POSITION|MAGE|FAIRY|VAMPIRE|MERPERSON|ELF|GENIE|ZOMBIE|BRAIN|ORANGE HEART
   BILLED CAP|SCARF|GLOVES|COAT|SOCKS|RED GIFT ENVELOPE|FIRECRACKER|JIGSAW PUZZLE PIECE|TEST TUBE
   PETRI DISH|DNA DOUBLE HELIX|COMPASS|ABACUS|FIRE EXTINGUISHER|TOOLBOX|BRICK|MAGNET|LUGGAGE
   LOTION BOTTLE|SPOOL OF THREAD|BALL OF YARN|SAFETY PIN|TEDDY BEAR|BROOM|BASKET|ROLL OF PAPER
   BAR OF SOAP|SPONGE|RECEIPT|NAZAR AMULET|NEUTRAL CHESS KING|bQUEEN|bROOK|bBISHOP|bKNIGHT|bPAWN
   WHITE CHESS KNIGHT ROTATED FORTY-FIVE DEGREES|BLACK CHESS KNIGHT ROTATED FORTY-FIVE DEGREES
   NEUTRAL CHESS KNIGHT ROTATED FORTY-FIVE DEGREES|WHITE CHESS KING ROTATED NINETY DEGREES
   bQUEEN ROTATED NINETY DEGREES|bROOK ROTATED NINETY DEGREES|bBISHOP ROTATED NINETY DEGREES
   bKNIGHT ROTATED NINETY DEGREES|bPAWN ROTATED NINETY DEGREES
   BLACK CHESS KING ROTATED NINETY DEGREES|bQUEEN ROTATED NINETY DEGREES
   bROOK ROTATED NINETY DEGREES|bBISHOP ROTATED NINETY DEGREES|bKNIGHT ROTATED NINETY DEGREES
   bPAWN ROTATED NINETY DEGREES|NEUTRAL CHESS KING ROTATED NINETY DEGREES
   bQUEEN ROTATED NINETY DEGREES|bROOK ROTATED NINETY DEGREES|bBISHOP ROTATED NINETY DEGREES
   bKNIGHT ROTATED NINETY DEGREES|bPAWN ROTATED NINETY DEGREES
   WHITE CHESS KNIGHT ROTATED ONE HUNDRED THIRTY-FIVE DEGREES
   BLACK CHESS KNIGHT ROTATED ONE HUNDRED THIRTY-FIVE DEGREES
   NEUTRAL CHESS KNIGHT ROTATED ONE HUNDRED THIRTY-FIVE DEGREES|WHITE CHESS TURNED KING|cQUEEN|cROOK
   cBISHOP|cKNIGHT|cPAWN|BLACK CHESS TURNED KING|cQUEEN|cROOK|cBISHOP|cKNIGHT|cPAWN
   NEUTRAL CHESS TURNED KING|cQUEEN|cROOK|cBISHOP|cKNIGHT|cPAWN
   WHITE CHESS KNIGHT ROTATED TWO HUNDRED TWENTY-FIVE DEGREES
   BLACK CHESS KNIGHT ROTATED TWO HUNDRED TWENTY-FIVE DEGREES
   NEUTRAL CHESS KNIGHT ROTATED TWO HUNDRED TWENTY-FIVE DEGREES
   WHITE CHESS KING ROTATED TWO HUNDRED SEVENTY DEGREES|bQUEEN ROTATED TWO HUNDRED SEVENTY DEGREES
   bROOK ROTATED TWO HUNDRED SEVENTY DEGREES|bBISHOP ROTATED TWO HUNDRED SEVENTY DEGREES
   bKNIGHT ROTATED TWO HUNDRED SEVENTY DEGREES|bPAWN ROTATED TWO HUNDRED SEVENTY DEGREES
   BLACK CHESS KING ROTATED TWO HUNDRED SEVENTY DEGREES|bQUEEN ROTATED TWO HUNDRED SEVENTY DEGREES
   bROOK ROTATED TWO HUNDRED SEVENTY DEGREES|bBISHOP ROTATED TWO HUNDRED SEVENTY DEGREES
   bKNIGHT ROTATED TWO HUNDRED SEVENTY DEGREES|bPAWN ROTATED TWO HUNDRED SEVENTY DEGREES
   NEUTRAL CHESS KING ROTATED TWO HUNDRED SEVENTY DEGREES|bQUEEN ROTATED TWO HUNDRED SEVENTY DEGREES
   bROOK ROTATED TWO HUNDRED SEVENTY DEGREES|bBISHOP ROTATED TWO HUNDRED SEVENTY DEGREES
   bKNIGHT ROTATED TWO HUNDRED SEVENTY DEGREES|bPAWN ROTATED TWO HUNDRED SEVENTY DEGREES
   WHITE CHESS KNIGHT ROTATED THREE HUNDRED FIFTEEN DEGREES
   BLACK CHESS KNIGHT ROTATED THREE HUNDRED FIFTEEN DEGREES
   NEUTRAL CHESS KNIGHT ROTATED THREE HUNDRED FIFTEEN DEGREES|WHITE CHESS EQUIHOPPER
   BLACK CHESS EQUIHOPPER|NEUTRAL CHESS EQUIHOPPER|WHITE CHESS EQUIHOPPER ROTATED NINETY DEGREES
   BLACK CHESS EQUIHOPPER ROTATED NINETY DEGREES|NEUTRAL CHESS EQUIHOPPER ROTATED NINETY DEGREES
   WHITE CHESS KNIGHT-QUEEN|cROOK|cBISHOP|BLACK CHESS KNIGHT-QUEEN|cROOK|cBISHOP
   1FA60:XIANGQI RED GENERAL|bMANDARIN|bELEPHANT|bHORSE|bCHARIOT|bCANNON|bSOLDIER|aBLACK GENERAL
   bMANDARIN|bELEPHANT|bHORSE|bCHARIOT|bCANNON|bSOLDIER|1FA70:BALLET SHOES|ONE-PIECE SWIMSUIT|BRIEFS
   SHORTS|THONG SANDAL|LIGHT BLUE HEART|GREY HEART|PINK HEART|DROP OF BLOOD|ADHESIVE BANDAGE
   STETHOSCOPE|X-RAY|CRUTCH|1FA80:YO-YO|KITE|PARACHUTE|BOOMERANG|MAGIC WAND|PINATA|NESTING DOLLS
   MARACAS|FLUTE|1FA90:RINGED PLANET|CHAIR|RAZOR|AXE|DIYA LAMP|BANJO|MILITARY HELMET|ACCORDION
   LONG DRUM|COIN|CARPENTRY SAW|SCREWDRIVER|LADDER|HOOK|MIRROR|WINDOW|PLUNGER|SEWING NEEDLE|KNOT
   BUCKET|MOUSE TRAP|TOOTHBRUSH|HEADSTONE|PLACARD|ROCK|MIRROR BALL|IDENTIFICATION CARD|LOW BATTERY
   HAMSA|FOLDING HAND FAN|HAIR PICK|KHANDA|FLY|WORM|BEETLE|COCKROACH|POTTED PLANT|WOOD|FEATHER|LOTUS
   CORAL|EMPTY NEST|NEST WITH EGGS|HYACINTH|JELLYFISH|WING|1FABF:GOOSE|ANATOMICAL HEART|LUNGS
   PEOPLE HUGGING|PREGNANT MAN|aPERSON|PERSON WITH CROWN|1FACE:MOOSE|DONKEY|BLUEBERRIES|BELL PEPPER
   OLIVE|FLATBREAD|TAMALE|FONDUE|TEAPOT|POURING LIQUID|BEANS|JAR|GINGER ROOT|PEA POD
   1FAE0:MELTING FACE|SALUTING FACE|FACE WITH OPEN EYES AND HAND OVER MOUTH|bPEEKING EYE
   bDIAGONAL MOUTH|DOTTED LINE FACE|BITING LIP|BUBBLES|SHAKING FACE
   1FAF0:HAND WITH INDEX FINGER AND THUMB CROSSED|RIGHTWARDS HAND|LEFTWARDS HAND|PALM DOWN HAND
   aUP HAND|INDEX POINTING AT THE VIEWER|HEART HANDS|LEFTWARDS PUSHING HAND|RIGHTWARDS PUSHING HAND
   1FB00:BLOCK SEXTANT-1|b2|b12|b3|b13|b23|b123|b4|b14|b24|b124|b34|b134|b234|b1234|b5|b15|b25|b125
   b35|b235|b1235|b45|b145|b245|b1245|b345|b1345|b2345|b12345|b6|b16|b26|b126|b36|b136|b236|b1236
   b46|b146|b1246|b346|b1346|b2346|b12346|b56|b156|b256|b1256|b356|b1356|b2356|b12356|b456|b1456
   b2456|b12456|b3456|b13456|b23456|LOWER LEFT BLOCK DIAGONAL LOWER MIDDLE LEFT TO LOWER CENTRE
   iRIGHT|dUPPER MIDDLE LEFT TO LOWER CENTRE|iRIGHT|eLEFT TO LOWER CENTRE
   aRIGHT BLOCK DIAGONAL UPPER MIDDLE LEFT TO UPPER CENTRE|iRIGHT|dLOWER MIDDLE LEFT TO UPPER CENTRE
   iRIGHT|eLEFT TO UPPER CENTRE|eMIDDLE LEFT TO UPPER MIDDLE RIGHT|eCENTRE TO LOWER MIDDLE RIGHT
   eLEFT TO LOWER MIDDLE RIGHT|eCENTRE TO UPPER MIDDLE RIGHT|eLEFT TO UPPER MIDDLE RIGHT
   eCENTRE TO UPPER RIGHT|aLEFT BLOCK DIAGONAL UPPER CENTRE TO UPPER MIDDLE RIGHT
   eLEFT TO UPPER MIDDLE RIGHT|eCENTRE TO LOWER MIDDLE RIGHT|eLEFT TO LOWER MIDDLE RIGHT
   eCENTRE TO LOWER RIGHT|eMIDDLE LEFT TO LOWER MIDDLE RIGHT
   UPPER RIGHT BLOCK DIAGONAL LOWER MIDDLE LEFT TO LOWER CENTRE|iRIGHT
   dUPPER MIDDLE LEFT TO LOWER CENTRE|iRIGHT|eLEFT TO LOWER CENTRE
   aLEFT BLOCK DIAGONAL UPPER MIDDLE LEFT TO UPPER CENTRE|iRIGHT|dLOWER MIDDLE LEFT TO UPPER CENTRE
   iRIGHT|eLEFT TO UPPER CENTRE|eMIDDLE LEFT TO UPPER MIDDLE RIGHT|eCENTRE TO LOWER MIDDLE RIGHT
   eLEFT TO LOWER MIDDLE RIGHT|eCENTRE TO UPPER MIDDLE RIGHT|eLEFT TO UPPER MIDDLE RIGHT
   eCENTRE TO UPPER RIGHT|aRIGHT BLOCK DIAGONAL UPPER CENTRE TO UPPER MIDDLE RIGHT
   eLEFT TO UPPER MIDDLE RIGHT|eCENTRE TO LOWER MIDDLE RIGHT|eLEFT TO LOWER MIDDLE RIGHT
   eCENTRE TO LOWER RIGHT|eMIDDLE LEFT TO LOWER MIDDLE RIGHT
   aAND RIGHT AND LOWER TRIANGULAR THREE QUARTERS BLOCK
   LEFT AND LOWER AND RIGHT TRIANGULAR THREE QUARTERS BLOCK
   UPPER AND LEFT AND LOWER TRIANGULAR THREE QUARTERS BLOCK
   LEFT AND UPPER AND RIGHT TRIANGULAR THREE QUARTERS BLOCK|aTRIANGULAR ONE QUARTER BLOCK
   UPPER TRIANGULAR ONE QUARTER BLOCK|RIGHT TRIANGULAR ONE QUARTER BLOCK
   LOWER TRIANGULAR ONE QUARTER BLOCK|VERTICAL ONE EIGHTH BLOCK-2|d3|d4|d5|d6|d7
   HORIZONTAL ONE EIGHTH BLOCK-2|d3|d4|d5|d6|d7|LEFT AND LOWER ONE EIGHTH BLOCK
   bUPPER ONE EIGHTH BLOCK|RIGHT AND UPPER ONE EIGHTH BLOCK|bLOWER ONE EIGHTH BLOCK
   UPPER AND LOWER ONE EIGHTH BLOCK|HORIZONTAL ONE EIGHTH BLOCK-1358|UPPER ONE QUARTER BLOCK
   aTHREE EIGHTHS BLOCK|aFIVE EIGHTHS BLOCK|aTHREE QUARTERS BLOCK|aSEVEN EIGHTHS BLOCK
   RIGHT ONE QUARTER BLOCK|aTHREE EIGHTHS BLOCK|aFIVE EIGHTHS BLOCK|aTHREE QUARTERS BLOCK
   aSEVEN EIGHTHS BLOCK|LEFT HALF MEDIUM SHADE|RIGHT HALF MEDIUM SHADE|UPPER HALF MEDIUM SHADE
   LOWER HALF MEDIUM SHADE|INVERSE MEDIUM SHADE|UPPER HALF BLOCK AND LOWER HALF INVERSE MEDIUM SHADE
   bINVERSE MEDIUM SHADE AND LOWER HALF BLOCK
   1FB94:LEFT HALF INVERSE MEDIUM SHADE AND RIGHT HALF BLOCK|CHECKER BOARD FILL
   INVERSE CHECKER BOARD FILL|HEAVY HORIZONTAL FILL|UPPER LEFT TO LOWER RIGHT FILL
   aRIGHT TO LOWER LEFT FILL|aAND LOWER TRIANGULAR HALF BLOCK|LEFT AND RIGHT TRIANGULAR HALF BLOCK
   UPPER LEFT TRIANGULAR MEDIUM SHADE|aRIGHT TRIANGULAR MEDIUM SHADE
   LOWER RIGHT TRIANGULAR MEDIUM SHADE|aLEFT TRIANGULAR MEDIUM SHADE
   BOX DRAWINGS LIGHT DIAGONAL UPPER CENTRE TO MIDDLE LEFT|hRIGHT|dMIDDLE LEFT TO LOWER CENTRE
   eRIGHT TO LOWER CENTRE|dUPPER CENTRE TO MIDDLE LEFT TO LOWER CENTRE|hRIGHT TO LOWER CENTRE
   dMIDDLE LEFT TO LOWER CENTRE TO MIDDLE RIGHT|gUPPER CENTRE TO MIDDLE RIGHT
   dUPPER CENTRE TO MIDDLE LEFT AND MIDDLE RIGHT TO LOWER CENTRE
   hRIGHT AND MIDDLE LEFT TO LOWER CENTRE|iTO LOWER CENTRE TO MIDDLE LEFT
   hLEFT TO LOWER CENTRE TO MIDDLE RIGHT
   dMIDDLE LEFT TO UPPER CENTRE TO MIDDLE RIGHT TO LOWER CENTRE
   eRIGHT TO UPPER CENTRE TO MIDDLE LEFT TO LOWER CENTRE|dDIAMOND|cHORIZONTAL WITH VERTICAL STROKE
   ARROWHEAD-SHAPED POINTER|INVERSE CHECK MARK|LEFT HALF RUNNING MAN|RIGHT HALF RUNNING MAN
   INVERSE DOWNWARDS ARROW WITH TIP LEFTWARDS|LEFTWARDS ARROW AND UPPER AND LOWER ONE EIGHTH BLOCK
   RIGHTWARDS ARROW AND UPPER AND LOWER ONE EIGHTH BLOCK|DOWNWARDS ARROW AND RIGHT ONE EIGHTH BLOCK
   UPWARDS ARROW AND RIGHT ONE EIGHTH BLOCK|LEFT HALF FOLDER|RIGHT HALF FOLDER|VOIDED GREEK CROSS
   RIGHT OPEN SQUARED DOT|NEGATIVE DIAGONAL CROSS|bMIDDLE RIGHT TO LOWER CENTRE|bDIAMOND
   WHITE HEAVY SALTIRE WITH ROUNDED CORNERS|LEFT THIRD WHITE RIGHT POINTING INDEX
   MIDDLE THIRD WHITE RIGHT POINTING INDEX|RIGHT THIRD WHITE RIGHT POINTING INDEX
   NEGATIVE SQUARED QUESTION MARK|STICK FIGURE|aFIGURE WITH ARMS RAISED|bLEANING LEFT|cRIGHT
   bWITH DRESS|WHITE UP-POINTING CHEVRON|1FBF0:SEGMENTED DIGIT ZERO|bONE|bTWO|bTHREE|bFOUR|bFIVE
   bSIX|bSEVEN|bEIGHT|bNINE|2F800:CJK COMPATIBILITY IDEOGRAPH-2F800|c2F801|c2F802|c2F803|c2F804
   c2F805|c2F806|c2F807|c2F808|c2F809|c2F80A|c2F80B|c2F80C|c2F80D|c2F80E|c2F80F|c2F810|c2F811|c2F812
   c2F813|c2F814|c2F815|c2F816|c2F817|c2F818|c2F819|c2F81A|c2F81B|c2F81C|c2F81D|c2F81E|c2F81F|c2F820
   c2F821|c2F822|c2F823|c2F824|c2F825|c2F826|c2F827|c2F828|c2F829|c2F82A|c2F82B|c2F82C|c2F82D|c2F82E
   c2F82F|c2F830|c2F831|c2F832|c2F833|c2F834|c2F835|c2F836|c2F837|c2F838|c2F839|c2F83A|c2F83B|c2F83C
   c2F83D|c2F83E|c2F83F|c2F840|c2F841|c2F842|c2F843|c2F844|c2F845|c2F846|c2F847|c2F848|c2F849|c2F84A
   c2F84B|c2F84C|c2F84D|c2F84E|c2F84F|c2F850|c2F851|c2F852|c2F853|c2F854|c2F855|c2F856|c2F857|c2F858
   c2F859|c2F85A|c2F85B|c2F85C|c2F85D|c2F85E|c2F85F|c2F860|c2F861|c2F862|c2F863|c2F864|c2F865|c2F866
   c2F867|c2F868|c2F869|c2F86A|c2F86B|c2F86C|c2F86D|c2F86E|c2F86F|c2F870|c2F871|c2F872|c2F873|c2F874
   c2F875|c2F876|c2F877|c2F878|c2F879|c2F87A|c2F87B|c2F87C|c2F87D|c2F87E|c2F87F|c2F880|c2F881|c2F882
   c2F883|c2F884|c2F885|c2F886|c2F887|c2F888|c2F889|c2F88A|c2F88B|c2F88C|c2F88D|c2F88E|c2F88F|c2F890
   c2F891|c2F892|c2F893|c2F894|c2F895|c2F896|c2F897|c2F898|c2F899|c2F89A|c2F89B|c2F89C|c2F89D|c2F89E
   c2F89F|c2F8A0|c2F8A1|c2F8A2|c2F8A3|c2F8A4|c2F8A5|c2F8A6|c2F8A7|c2F8A8|c2F8A9|c2F8AA|c2F8AB|c2F8AC
   c2F8AD|c2F8AE|c2F8AF|c2F8B0|c2F8B1|c2F8B2|c2F8B3|c2F8B4|c2F8B5|c2F8B6|c2F8B7|c2F8B8|c2F8B9|c2F8BA
   c2F8BB|c2F8BC|c2F8BD|c2F8BE|c2F8BF|c2F8C0|c2F8C1|c2F8C2|c2F8C3|c2F8C4|c2F8C5|c2F8C6|c2F8C7|c2F8C8
   c2F8C9|c2F8CA|c2F8CB|c2F8CC|c2F8CD|c2F8CE|c2F8CF|c2F8D0|c2F8D1|c2F8D2|c2F8D3|c2F8D4|c2F8D5|c2F8D6
   c2F8D7|c2F8D8|c2F8D9|c2F8DA|c2F8DB|c2F8DC|c2F8DD|c2F8DE|c2F8DF|c2F8E0|c2F8E1|c2F8E2|c2F8E3|c2F8E4
   c2F8E5|c2F8E6|c2F8E7|c2F8E8|c2F8E9|c2F8EA|c2F8EB|c2F8EC|c2F8ED|c2F8EE|c2F8EF|c2F8F0|c2F8F1|c2F8F2
   c2F8F3|c2F8F4|c2F8F5|c2F8F6|c2F8F7|c2F8F8|c2F8F9|c2F8FA|c2F8FB|c2F8FC|c2F8FD|c2F8FE|c2F8FF|c2F900
   c2F901|c2F902|c2F903|c2F904|c2F905|c2F906|c2F907|c2F908|c2F909|c2F90A|c2F90B|c2F90C|c2F90D|c2F90E
   c2F90F|c2F910|c2F911|c2F912|c2F913|c2F914|c2F915|c2F916|c2F917|c2F918|c2F919|c2F91A|c2F91B|c2F91C
   c2F91D|c2F91E|c2F91F|c2F920|c2F921|c2F922|c2F923|c2F924|c2F925|c2F926|c2F927|c2F928|c2F929|c2F92A
   c2F92B|c2F92C|c2F92D|c2F92E|c2F92F|c2F930|c2F931|c2F932|c2F933|c2F934|c2F935|c2F936|c2F937|c2F938
   c2F939|c2F93A|c2F93B|c2F93C|c2F93D|c2F93E|c2F93F|c2F940|c2F941|c2F942|c2F943|c2F944|c2F945|c2F946
   c2F947|c2F948|c2F949|c2F94A|c2F94B|c2F94C|c2F94D|c2F94E|c2F94F|c2F950|c2F951|c2F952|c2F953|c2F954
   c2F955|c2F956|c2F957|c2F958|c2F959|c2F95A|c2F95B|c2F95C|c2F95D|c2F95E|c2F95F|c2F960|c2F961|c2F962
   c2F963|c2F964|c2F965|c2F966|c2F967|c2F968|c2F969|c2F96A|c2F96B|c2F96C|c2F96D|c2F96E|c2F96F|c2F970
   c2F971|c2F972|c2F973|c2F974|c2F975|c2F976|c2F977|c2F978|c2F979|c2F97A|c2F97B|c2F97C|c2F97D|c2F97E
   c2F97F|c2F980|c2F981|c2F982|c2F983|c2F984|c2F985|c2F986|c2F987|c2F988|c2F989|c2F98A|c2F98B|c2F98C
   c2F98D|c2F98E|c2F98F|c2F990|c2F991|c2F992|c2F993|c2F994|c2F995|c2F996|c2F997|c2F998|c2F999|c2F99A
   c2F99B|c2F99C|c2F99D|c2F99E|c2F99F|c2F9A0|c2F9A1|c2F9A2|c2F9A3|c2F9A4|c2F9A5|c2F9A6|c2F9A7|c2F9A8
   c2F9A9|c2F9AA|c2F9AB|c2F9AC|c2F9AD|c2F9AE|c2F9AF|c2F9B0|c2F9B1|c2F9B2|c2F9B3|c2F9B4|c2F9B5|c2F9B6
   c2F9B7|c2F9B8|c2F9B9|c2F9BA|c2F9BB|c2F9BC|c2F9BD|c2F9BE|c2F9BF|c2F9C0|c2F9C1|c2F9C2|c2F9C3|c2F9C4
   c2F9C5|c2F9C6|c2F9C7|c2F9C8|c2F9C9|c2F9CA|c2F9CB|c2F9CC|c2F9CD|c2F9CE|c2F9CF|c2F9D0|c2F9D1|c2F9D2
   c2F9D3|c2F9D4|c2F9D5|c2F9D6|c2F9D7|c2F9D8|c2F9D9|c2F9DA|c2F9DB|c2F9DC|c2F9DD|c2F9DE|c2F9DF|c2F9E0
   c2F9E1|c2F9E2|c2F9E3|c2F9E4|c2F9E5|c2F9E6|c2F9E7|c2F9E8|c2F9E9|c2F9EA|c2F9EB|c2F9EC|c2F9ED|c2F9EE
   c2F9EF|c2F9F0|c2F9F1|c2F9F2|c2F9F3|c2F9F4|c2F9F5|c2F9F6|c2F9F7|c2F9F8|c2F9F9|c2F9FA|c2F9FB|c2F9FC
   c2F9FD|c2F9FE|c2F9FF|c2FA00|c2FA01|c2FA02|c2FA03|c2FA04|c2FA05|c2FA06|c2FA07|c2FA08|c2FA09|c2FA0A
   c2FA0B|c2FA0C|c2FA0D|c2FA0E|c2FA0F|c2FA10|c2FA11|c2FA12|c2FA13|c2FA14|c2FA15|c2FA16|c2FA17|c2FA18
   c2FA19|c2FA1A|c2FA1B|c2FA1C|c2FA1D"

end Actionary.Text
