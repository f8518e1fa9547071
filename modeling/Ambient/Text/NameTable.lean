/-!
# Names of characters

Data of the Unicode character database, version 14: the names of characters, but for those that are
made by a rule, and other names that are formally given to characters. A row holds the names of
characters in a row: the number of the first one in hexadecimal digits, and then for each of them a
small letter and words. The letter tells how many words of the name before are kept, the letter `a`
none of them.
-/

namespace Ambient.Text

/-- The first rows of names. -/
def nameRowsA : List String := [
  "20aSPACEaEXCLAMATION MARKaQUOTATION MARKaNUMBER SIGNaDOLLAR SIGNaPERCENT SIGNaAMPERSAND",
  "27aAPOSTROPHEaLEFT PARENTHESISaRIGHT PARENTHESISaASTERISKaPLUS SIGNaCOMMAaHYPHEN-MINUSaFULL STOP",
  "2FaSOLIDUSaDIGIT ZERObONEbTWObTHREEbFOURbFIVEbSIXbSEVENbEIGHTbNINEaCOLONaSEMICOLON",
  "3CaLESS-THAN SIGNaEQUALS SIGNaGREATER-THAN SIGNaQUESTION MARKaCOMMERCIAL AT",
  "41aLATIN CAPITAL LETTER AdBdCdDdEdFdGdHdIdJdKdLdMdNdOdPdQdRdSdTdUdVdWdXdYdZaLEFT SQUARE BRACKET",
  "5CaREVERSE SOLIDUSaRIGHT SQUARE BRACKETaCIRCUMFLEX ACCENTaLOW LINEaGRAVE ACCENT",
  "61aLATIN SMALL LETTER AdBdCdDdEdFdGdHdIdJdKdLdMdNdOdPdQdRdSdTdUdVdWdXdYdZaLEFT CURLY BRACKET",
  "7CaVERTICAL LINEaRIGHT CURLY BRACKETaTILDE",
  "A0aNO-BREAK SPACEaINVERTED EXCLAMATION MARKaCENT SIGNaPOUND SIGNaCURRENCY SIGNaYEN SIGN",
  "A6aBROKEN BARaSECTION SIGNaDIAERESISaCOPYRIGHT SIGNaFEMININE ORDINAL INDICATOR",
  "ABaLEFT-POINTING DOUBLE ANGLE QUOTATION MARKaNOT SIGNaSOFT HYPHENaREGISTERED SIGNaMACRON",
  "B0aDEGREE SIGNaPLUS-MINUS SIGNaSUPERSCRIPT TWObTHREEaACUTE ACCENTaMICRO SIGNaPILCROW SIGN",
  "B7aMIDDLE DOTaCEDILLAaSUPERSCRIPT ONEaMASCULINE ORDINAL INDICATOR",
  "BBaRIGHT-POINTING DOUBLE ANGLE QUOTATION MARKaVULGAR FRACTION ONE QUARTERdHALFcTHREE QUARTERS",
  "BFaINVERTED QUESTION MARKaLATIN CAPITAL LETTER A WITH GRAVEfACUTEfCIRCUMFLEXfTILDEfDIAERESIS",
  "C5aLATIN CAPITAL LETTER A WITH RING ABOVEdAEdC WITH CEDILLAdE WITH GRAVEfACUTEfCIRCUMFLEX",
  "CBaLATIN CAPITAL LETTER E WITH DIAERESISdI WITH GRAVEfACUTEfCIRCUMFLEXfDIAERESISdETH",
  "D1aLATIN CAPITAL LETTER N WITH TILDEdO WITH GRAVEfACUTEfCIRCUMFLEXfTILDEfDIAERESIS",
  "D7aMULTIPLICATION SIGNaLATIN CAPITAL LETTER O WITH STROKEdU WITH GRAVEfACUTEfCIRCUMFLEX",
  "DCaLATIN CAPITAL LETTER U WITH DIAERESISdY WITH ACUTEdTHORNbSMALL LETTER SHARP SdA WITH GRAVE",
  "E1aLATIN SMALL LETTER A WITH ACUTEfCIRCUMFLEXfTILDEfDIAERESISfRING ABOVEdAEdC WITH CEDILLA",
  "E8aLATIN SMALL LETTER E WITH GRAVEfACUTEfCIRCUMFLEXfDIAERESISdI WITH GRAVEfACUTEfCIRCUMFLEX",
  "EFaLATIN SMALL LETTER I WITH DIAERESISdETHdN WITH TILDEdO WITH GRAVEfACUTEfCIRCUMFLEXfTILDE",
  "F6aLATIN SMALL LETTER O WITH DIAERESISaDIVISION SIGNaLATIN SMALL LETTER O WITH STROKE",
  "F9aLATIN SMALL LETTER U WITH GRAVEfACUTEfCIRCUMFLEXfDIAERESISdY WITH ACUTEdTHORN",
  "FFaLATIN SMALL LETTER Y WITH DIAERESISbCAPITAL LETTER A WITH MACRONbSMALL LETTER A WITH MACRON",
  "102aLATIN CAPITAL LETTER A WITH BREVEbSMALL LETTER A WITH BREVEbCAPITAL LETTER A WITH OGONEK",
  "105aLATIN SMALL LETTER A WITH OGONEKbCAPITAL LETTER C WITH ACUTEbSMALL LETTER C WITH ACUTE",
  "108aLATIN CAPITAL LETTER C WITH CIRCUMFLEXbSMALL LETTER C WITH CIRCUMFLEX",
  "10AaLATIN CAPITAL LETTER C WITH DOT ABOVEbSMALL LETTER C WITH DOT ABOVE",
  "10CaLATIN CAPITAL LETTER C WITH CARONbSMALL LETTER C WITH CARONbCAPITAL LETTER D WITH CARON",
  "10FaLATIN SMALL LETTER D WITH CARONbCAPITAL LETTER D WITH STROKEbSMALL LETTER D WITH STROKE",
  "112aLATIN CAPITAL LETTER E WITH MACRONbSMALL LETTER E WITH MACRONbCAPITAL LETTER E WITH BREVE",
  "115aLATIN SMALL LETTER E WITH BREVEbCAPITAL LETTER E WITH DOT ABOVE",
  "117aLATIN SMALL LETTER E WITH DOT ABOVEbCAPITAL LETTER E WITH OGONEKbSMALL LETTER E WITH OGONEK",
  "11AaLATIN CAPITAL LETTER E WITH CARONbSMALL LETTER E WITH CARONbCAPITAL LETTER G WITH CIRCUMFLEX",
  "11DaLATIN SMALL LETTER G WITH CIRCUMFLEXbCAPITAL LETTER G WITH BREVEbSMALL LETTER G WITH BREVE",
  "120aLATIN CAPITAL LETTER G WITH DOT ABOVEbSMALL LETTER G WITH DOT ABOVE",
  "122aLATIN CAPITAL LETTER G WITH CEDILLAbSMALL LETTER G WITH CEDILLA",
  "124aLATIN CAPITAL LETTER H WITH CIRCUMFLEXbSMALL LETTER H WITH CIRCUMFLEX",
  "126aLATIN CAPITAL LETTER H WITH STROKEbSMALL LETTER H WITH STROKEbCAPITAL LETTER I WITH TILDE",
  "129aLATIN SMALL LETTER I WITH TILDEbCAPITAL LETTER I WITH MACRONbSMALL LETTER I WITH MACRON",
  "12CaLATIN CAPITAL LETTER I WITH BREVEbSMALL LETTER I WITH BREVEbCAPITAL LETTER I WITH OGONEK",
  "12FaLATIN SMALL LETTER I WITH OGONEKbCAPITAL LETTER I WITH DOT ABOVEbSMALL LETTER DOTLESS I",
  "132aLATIN CAPITAL LIGATURE IJbSMALL LIGATURE IJbCAPITAL LETTER J WITH CIRCUMFLEX",
  "135aLATIN SMALL LETTER J WITH CIRCUMFLEXbCAPITAL LETTER K WITH CEDILLA",
  "137aLATIN SMALL LETTER K WITH CEDILLAdKRAbCAPITAL LETTER L WITH ACUTEbSMALL LETTER L WITH ACUTE",
  "13BaLATIN CAPITAL LETTER L WITH CEDILLAbSMALL LETTER L WITH CEDILLAbCAPITAL LETTER L WITH CARON",
  "13EaLATIN SMALL LETTER L WITH CARONbCAPITAL LETTER L WITH MIDDLE DOT",
  "140aLATIN SMALL LETTER L WITH MIDDLE DOTbCAPITAL LETTER L WITH STROKEbSMALL LETTER L WITH STROKE",
  "143aLATIN CAPITAL LETTER N WITH ACUTEbSMALL LETTER N WITH ACUTEbCAPITAL LETTER N WITH CEDILLA",
  "146aLATIN SMALL LETTER N WITH CEDILLAbCAPITAL LETTER N WITH CARONbSMALL LETTER N WITH CARON",
  "149aLATIN SMALL LETTER N PRECEDED BY APOSTROPHEbCAPITAL LETTER ENGbSMALL LETTER ENG",
  "14CaLATIN CAPITAL LETTER O WITH MACRONbSMALL LETTER O WITH MACRONbCAPITAL LETTER O WITH BREVE",
  "14FaLATIN SMALL LETTER O WITH BREVEbCAPITAL LETTER O WITH DOUBLE ACUTE",
  "151aLATIN SMALL LETTER O WITH DOUBLE ACUTEbCAPITAL LIGATURE OEbSMALL LIGATURE OE",
  "154aLATIN CAPITAL LETTER R WITH ACUTEbSMALL LETTER R WITH ACUTEbCAPITAL LETTER R WITH CEDILLA",
  "157aLATIN SMALL LETTER R WITH CEDILLAbCAPITAL LETTER R WITH CARONbSMALL LETTER R WITH CARON",
  "15AaLATIN CAPITAL LETTER S WITH ACUTEbSMALL LETTER S WITH ACUTEbCAPITAL LETTER S WITH CIRCUMFLEX",
  "15DaLATIN SMALL LETTER S WITH CIRCUMFLEXbCAPITAL LETTER S WITH CEDILLA",
  "15FaLATIN SMALL LETTER S WITH CEDILLAbCAPITAL LETTER S WITH CARONbSMALL LETTER S WITH CARON",
  "162aLATIN CAPITAL LETTER T WITH CEDILLAbSMALL LETTER T WITH CEDILLAbCAPITAL LETTER T WITH CARON",
  "165aLATIN SMALL LETTER T WITH CARONbCAPITAL LETTER T WITH STROKEbSMALL LETTER T WITH STROKE",
  "168aLATIN CAPITAL LETTER U WITH TILDEbSMALL LETTER U WITH TILDEbCAPITAL LETTER U WITH MACRON",
  "16BaLATIN SMALL LETTER U WITH MACRONbCAPITAL LETTER U WITH BREVEbSMALL LETTER U WITH BREVE",
  "16EaLATIN CAPITAL LETTER U WITH RING ABOVEbSMALL LETTER U WITH RING ABOVE",
  "170aLATIN CAPITAL LETTER U WITH DOUBLE ACUTEbSMALL LETTER U WITH DOUBLE ACUTE",
  "172aLATIN CAPITAL LETTER U WITH OGONEKbSMALL LETTER U WITH OGONEK",
  "174aLATIN CAPITAL LETTER W WITH CIRCUMFLEXbSMALL LETTER W WITH CIRCUMFLEX",
  "176aLATIN CAPITAL LETTER Y WITH CIRCUMFLEXbSMALL LETTER Y WITH CIRCUMFLEX",
  "178aLATIN CAPITAL LETTER Y WITH DIAERESISdZ WITH ACUTEbSMALL LETTER Z WITH ACUTE",
  "17BaLATIN CAPITAL LETTER Z WITH DOT ABOVEbSMALL LETTER Z WITH DOT ABOVE",
  "17DaLATIN CAPITAL LETTER Z WITH CARONbSMALL LETTER Z WITH CARONdLONG SdB WITH STROKE",
  "181aLATIN CAPITAL LETTER B WITH HOOKfTOPBARbSMALL LETTER B WITH TOPBARbCAPITAL LETTER TONE SIX",
  "185aLATIN SMALL LETTER TONE SIXbCAPITAL LETTER OPEN OdC WITH HOOKbSMALL LETTER C WITH HOOK",
  "189aLATIN CAPITAL LETTER AFRICAN DdD WITH HOOKfTOPBARbSMALL LETTER D WITH TOPBARdTURNED DELTA",
  "18EaLATIN CAPITAL LETTER REVERSED EdSCHWAdOPEN EdF WITH HOOKbSMALL LETTER F WITH HOOK",
  "193aLATIN CAPITAL LETTER G WITH HOOKdGAMMAbSMALL LETTER HVbCAPITAL LETTER IOTAdI WITH STROKE",
  "198aLATIN CAPITAL LETTER K WITH HOOKbSMALL LETTER K WITH HOOKdL WITH BARdLAMBDA WITH STROKE",
  "19CaLATIN CAPITAL LETTER TURNED MdN WITH LEFT HOOKbSMALL LETTER N WITH LONG RIGHT LEG",
  "19FaLATIN CAPITAL LETTER O WITH MIDDLE TILDEfHORNbSMALL LETTER O WITH HORNbCAPITAL LETTER OI",
  "1A3aLATIN SMALL LETTER OIbCAPITAL LETTER P WITH HOOKbSMALL LETTER P WITH HOOKbLETTER YR",
  "1A7aLATIN CAPITAL LETTER TONE TWObSMALL LETTER TONE TWObCAPITAL LETTER ESH",
  "1AAaLATIN LETTER REVERSED ESH LOOPbSMALL LETTER T WITH PALATAL HOOKbCAPITAL LETTER T WITH HOOK",
  "1ADaLATIN SMALL LETTER T WITH HOOKbCAPITAL LETTER T WITH RETROFLEX HOOKdU WITH HORN",
  "1B0aLATIN SMALL LETTER U WITH HORNbCAPITAL LETTER UPSILONdV WITH HOOKdY WITH HOOK",
  "1B4aLATIN SMALL LETTER Y WITH HOOKbCAPITAL LETTER Z WITH STROKEbSMALL LETTER Z WITH STROKE",
  "1B7aLATIN CAPITAL LETTER EZHeREVERSEDbSMALL LETTER EZH REVERSEDeWITH TAILbLETTER TWO WITH STROKE",
  "1BCaLATIN CAPITAL LETTER TONE FIVEbSMALL LETTER TONE FIVE",
  "1BEaLATIN LETTER INVERTED GLOTTAL STOP WITH STROKEcWYNNcDENTAL CLICKcLATERAL CLICK",
  "1C2aLATIN LETTER ALVEOLAR CLICKcRETROFLEX CLICKbCAPITAL LETTER DZ WITH CARON",
  "1C5aLATIN CAPITAL LETTER D WITH SMALL LETTER Z WITH CARONbSMALL LETTER DZ WITH CARON",
  "1C7aLATIN CAPITAL LETTER LJdL WITH SMALL LETTER JbSMALL LETTER LJbCAPITAL LETTER NJ",
  "1CBaLATIN CAPITAL LETTER N WITH SMALL LETTER JbSMALL LETTER NJbCAPITAL LETTER A WITH CARON",
  "1CEaLATIN SMALL LETTER A WITH CARONbCAPITAL LETTER I WITH CARONbSMALL LETTER I WITH CARON",
  "1D1aLATIN CAPITAL LETTER O WITH CARONbSMALL LETTER O WITH CARONbCAPITAL LETTER U WITH CARON",
  "1D4aLATIN SMALL LETTER U WITH CARONbCAPITAL LETTER U WITH DIAERESIS AND MACRON",
  "1D6aLATIN SMALL LETTER U WITH DIAERESIS AND MACRONbCAPITAL LETTER U WITH DIAERESIS AND ACUTE",
  "1D8aLATIN SMALL LETTER U WITH DIAERESIS AND ACUTEbCAPITAL LETTER U WITH DIAERESIS AND CARON",
  "1DAaLATIN SMALL LETTER U WITH DIAERESIS AND CARONbCAPITAL LETTER U WITH DIAERESIS AND GRAVE",
  "1DCaLATIN SMALL LETTER U WITH DIAERESIS AND GRAVEdTURNED E",
  "1DEaLATIN CAPITAL LETTER A WITH DIAERESIS AND MACRONbSMALL LETTER A WITH DIAERESIS AND MACRON",
  "1E0aLATIN CAPITAL LETTER A WITH DOT ABOVE AND MACRONbSMALL LETTER A WITH DOT ABOVE AND MACRON",
  "1E2aLATIN CAPITAL LETTER AE WITH MACRONbSMALL LETTER AE WITH MACRONbCAPITAL LETTER G WITH STROKE",
  "1E5aLATIN SMALL LETTER G WITH STROKEbCAPITAL LETTER G WITH CARONbSMALL LETTER G WITH CARON",
  "1E8aLATIN CAPITAL LETTER K WITH CARONbSMALL LETTER K WITH CARONbCAPITAL LETTER O WITH OGONEK",
  "1EBaLATIN SMALL LETTER O WITH OGONEKbCAPITAL LETTER O WITH OGONEK AND MACRON",
  "1EDaLATIN SMALL LETTER O WITH OGONEK AND MACRONbCAPITAL LETTER EZH WITH CARON",
  "1EFaLATIN SMALL LETTER EZH WITH CARONdJ WITH CARONbCAPITAL LETTER DZdD WITH SMALL LETTER Z",
  "1F3aLATIN SMALL LETTER DZbCAPITAL LETTER G WITH ACUTEbSMALL LETTER G WITH ACUTE",
  "1F6aLATIN CAPITAL LETTER HWAIRdWYNNdN WITH GRAVEbSMALL LETTER N WITH GRAVE",
  "1FAaLATIN CAPITAL LETTER A WITH RING ABOVE AND ACUTEbSMALL LETTER A WITH RING ABOVE AND ACUTE",
  "1FCaLATIN CAPITAL LETTER AE WITH ACUTEbSMALL LETTER AE WITH ACUTE",
  "1FEaLATIN CAPITAL LETTER O WITH STROKE AND ACUTEbSMALL LETTER O WITH STROKE AND ACUTE",
  "200aLATIN CAPITAL LETTER A WITH DOUBLE GRAVEbSMALL LETTER A WITH DOUBLE GRAVE",
  "202aLATIN CAPITAL LETTER A WITH INVERTED BREVEbSMALL LETTER A WITH INVERTED BREVE",
  "204aLATIN CAPITAL LETTER E WITH DOUBLE GRAVEbSMALL LETTER E WITH DOUBLE GRAVE",
  "206aLATIN CAPITAL LETTER E WITH INVERTED BREVEbSMALL LETTER E WITH INVERTED BREVE",
  "208aLATIN CAPITAL LETTER I WITH DOUBLE GRAVEbSMALL LETTER I WITH DOUBLE GRAVE",
  "20AaLATIN CAPITAL LETTER I WITH INVERTED BREVEbSMALL LETTER I WITH INVERTED BREVE",
  "20CaLATIN CAPITAL LETTER O WITH DOUBLE GRAVEbSMALL LETTER O WITH DOUBLE GRAVE",
  "20EaLATIN CAPITAL LETTER O WITH INVERTED BREVEbSMALL LETTER O WITH INVERTED BREVE",
  "210aLATIN CAPITAL LETTER R WITH DOUBLE GRAVEbSMALL LETTER R WITH DOUBLE GRAVE",
  "212aLATIN CAPITAL LETTER R WITH INVERTED BREVEbSMALL LETTER R WITH INVERTED BREVE",
  "214aLATIN CAPITAL LETTER U WITH DOUBLE GRAVEbSMALL LETTER U WITH DOUBLE GRAVE",
  "216aLATIN CAPITAL LETTER U WITH INVERTED BREVEbSMALL LETTER U WITH INVERTED BREVE",
  "218aLATIN CAPITAL LETTER S WITH COMMA BELOWbSMALL LETTER S WITH COMMA BELOW",
  "21AaLATIN CAPITAL LETTER T WITH COMMA BELOWbSMALL LETTER T WITH COMMA BELOWbCAPITAL LETTER YOGH",
  "21DaLATIN SMALL LETTER YOGHbCAPITAL LETTER H WITH CARONbSMALL LETTER H WITH CARON",
  "220aLATIN CAPITAL LETTER N WITH LONG RIGHT LEGbSMALL LETTER D WITH CURLbCAPITAL LETTER OU",
  "223aLATIN SMALL LETTER OUbCAPITAL LETTER Z WITH HOOKbSMALL LETTER Z WITH HOOK",
  "226aLATIN CAPITAL LETTER A WITH DOT ABOVEbSMALL LETTER A WITH DOT ABOVE",
  "228aLATIN CAPITAL LETTER E WITH CEDILLAbSMALL LETTER E WITH CEDILLA",
  "22AaLATIN CAPITAL LETTER O WITH DIAERESIS AND MACRONbSMALL LETTER O WITH DIAERESIS AND MACRON",
  "22CaLATIN CAPITAL LETTER O WITH TILDE AND MACRONbSMALL LETTER O WITH TILDE AND MACRON",
  "22EaLATIN CAPITAL LETTER O WITH DOT ABOVEbSMALL LETTER O WITH DOT ABOVE",
  "230aLATIN CAPITAL LETTER O WITH DOT ABOVE AND MACRONbSMALL LETTER O WITH DOT ABOVE AND MACRON",
  "232aLATIN CAPITAL LETTER Y WITH MACRONbSMALL LETTER Y WITH MACRONdL WITH CURLdN WITH CURL",
  "236aLATIN SMALL LETTER T WITH CURLdDOTLESS JdDB DIGRAPHdQP DIGRAPHbCAPITAL LETTER A WITH STROKE",
  "23BaLATIN CAPITAL LETTER C WITH STROKEbSMALL LETTER C WITH STROKEbCAPITAL LETTER L WITH BAR",
  "23EaLATIN CAPITAL LETTER T WITH DIAGONAL STROKEbSMALL LETTER S WITH SWASH TAILdZ WITH SWASH TAIL",
  "241aLATIN CAPITAL LETTER GLOTTAL STOPbSMALL LETTER GLOTTAL STOPbCAPITAL LETTER B WITH STROKE",
  "244aLATIN CAPITAL LETTER U BARdTURNED VdE WITH STROKEbSMALL LETTER E WITH STROKE",
  "248aLATIN CAPITAL LETTER J WITH STROKEbSMALL LETTER J WITH STROKE",
  "24AaLATIN CAPITAL LETTER SMALL Q WITH HOOK TAILbSMALL LETTER Q WITH HOOK TAIL",
  "24CaLATIN CAPITAL LETTER R WITH STROKEbSMALL LETTER R WITH STROKEbCAPITAL LETTER Y WITH STROKE",
  "24FaLATIN SMALL LETTER Y WITH STROKEdTURNED AdALPHAdTURNED ALPHAdB WITH HOOKdOPEN OdC WITH CURL",
  "256aLATIN SMALL LETTER D WITH TAILfHOOKdREVERSED EdSCHWAeWITH HOOKdOPEN EdREVERSED OPEN E",
  "25DaLATIN SMALL LETTER REVERSED OPEN E WITH HOOKdCLOSED REVERSED OPEN EdDOTLESS J WITH STROKE",
  "260aLATIN SMALL LETTER G WITH HOOKdSCRIPT GbLETTER SMALL CAPITAL GbSMALL LETTER GAMMAdRAMS HORN",
  "265aLATIN SMALL LETTER TURNED HdH WITH HOOKdHENG WITH HOOKdI WITH STROKEdIOTA",
  "26AaLATIN LETTER SMALL CAPITAL IbSMALL LETTER L WITH MIDDLE TILDEfBELTfRETROFLEX HOOKdLEZH",
  "26FaLATIN SMALL LETTER TURNED MfWITH LONG LEGdM WITH HOOKdN WITH LEFT HOOKfRETROFLEX HOOK",
  "274aLATIN LETTER SMALL CAPITAL NbSMALL LETTER BARRED ObLETTER SMALL CAPITAL OE",
  "277aLATIN SMALL LETTER CLOSED OMEGAdPHIdTURNED RfWITH LONG LEGgHOOKdR WITH LONG LEGfTAIL",
  "27EaLATIN SMALL LETTER R WITH FISHHOOKdREVERSED R WITH FISHHOOKbLETTER SMALL CAPITAL R",
  "281aLATIN LETTER SMALL CAPITAL INVERTED RbSMALL LETTER S WITH HOOKdESH",
  "284aLATIN SMALL LETTER DOTLESS J WITH STROKE AND HOOKdSQUAT REVERSED ESHdESH WITH CURLdTURNED T",
  "288aLATIN SMALL LETTER T WITH RETROFLEX HOOKdU BARdUPSILONdV WITH HOOKdTURNED VeWeY",
  "28FaLATIN LETTER SMALL CAPITAL YbSMALL LETTER Z WITH RETROFLEX HOOKfCURLdEZHeWITH CURL",
  "294aLATIN LETTER GLOTTAL STOPcPHARYNGEAL VOICED FRICATIVEcINVERTED GLOTTAL STOPcSTRETCHED C",
  "298aLATIN LETTER BILABIAL CLICKcSMALL CAPITAL BbSMALL LETTER CLOSED OPEN E",
  "29BaLATIN LETTER SMALL CAPITAL G WITH HOOKeHbSMALL LETTER J WITH CROSSED-TAILdTURNED K",
  "29FaLATIN LETTER SMALL CAPITAL LbSMALL LETTER Q WITH HOOKbLETTER GLOTTAL STOP WITH STROKE",
  "2A2aLATIN LETTER REVERSED GLOTTAL STOP WITH STROKEbSMALL LETTER DZ DIGRAPHdDEZH DIGRAPH",
  "2A5aLATIN SMALL LETTER DZ DIGRAPH WITH CURLdTS DIGRAPHdTESH DIGRAPHdTC DIGRAPH WITH CURL",
  "2A9aLATIN SMALL LETTER FENG DIGRAPHdLS DIGRAPHdLZ DIGRAPHbLETTER BILABIAL PERCUSSIVE",
  "2ADaLATIN LETTER BIDENTAL PERCUSSIVEbSMALL LETTER TURNED H WITH FISHHOOKhAND TAIL",
  "2B0aMODIFIER LETTER SMALL HeWITH HOOKdJdRdTURNED RfWITH HOOKdCAPITAL INVERTED RdWdYcPRIME",
  "2BAaMODIFIER LETTER DOUBLE PRIMEcTURNED COMMAcAPOSTROPHEcREVERSED COMMAcRIGHT HALF RING",
  "2BFaMODIFIER LETTER LEFT HALF RINGcGLOTTAL STOPcREVERSED GLOTTAL STOPcLEFT ARROWHEAD",
  "2C3aMODIFIER LETTER RIGHT ARROWHEADcUP ARROWHEADcDOWN ARROWHEADcCIRCUMFLEX ACCENTaCARON",
  "2C8aMODIFIER LETTER VERTICAL LINEcMACRONcACUTE ACCENTcGRAVE ACCENTcLOW VERTICAL LINEdMACRON",
  "2CEaMODIFIER LETTER LOW GRAVE ACCENTdACUTE ACCENTcTRIANGULAR COLONcHALF TRIANGULAR COLON",
  "2D2aMODIFIER LETTER CENTRED RIGHT HALF RINGdLEFT HALF RINGcUP TACKcDOWN TACKcPLUS SIGN",
  "2D7aMODIFIER LETTER MINUS SIGNaBREVEaDOT ABOVEaRING ABOVEaOGONEKaSMALL TILDEaDOUBLE ACUTE ACCENT",
  "2DEaMODIFIER LETTER RHOTIC HOOKcCROSS ACCENTcSMALL GAMMAdLdSdXdREVERSED GLOTTAL STOP",
  "2E5aMODIFIER LETTER EXTRA-HIGH TONE BARcHIGH TONE BARcMID TONE BARcLOW TONE BAR",
  "2E9aMODIFIER LETTER EXTRA-LOW TONE BARcYIN DEPARTING TONE MARKcYANG DEPARTING TONE MARKcVOICING",
  "2EDaMODIFIER LETTER UNASPIRATEDcDOUBLE APOSTROPHEcLOW DOWN ARROWHEADdUP ARROWHEADdLEFT ARROWHEAD",
  "2F2aMODIFIER LETTER LOW RIGHT ARROWHEADdRINGcMIDDLE GRAVE ACCENTdDOUBLE GRAVE ACCENT",
  "2F6aMODIFIER LETTER MIDDLE DOUBLE ACUTE ACCENTcLOW TILDEcRAISED COLONcBEGIN HIGH TONE",
  "2FAaMODIFIER LETTER END HIGH TONEcBEGIN LOW TONEcEND LOW TONEcSHELFcOPEN SHELFcLOW LEFT ARROW",
  "300aCOMBINING GRAVE ACCENTbACUTE ACCENTbCIRCUMFLEX ACCENTbTILDEbMACRONbOVERLINEbBREVEbDOT ABOVE",
  "308aCOMBINING DIAERESISbHOOK ABOVEbRING ABOVEbDOUBLE ACUTE ACCENTbCARONbVERTICAL LINE ABOVE",
  "30EaCOMBINING DOUBLE VERTICAL LINE ABOVEcGRAVE ACCENTbCANDRABINDUbINVERTED BREVE",
  "312aCOMBINING TURNED COMMA ABOVEbCOMMA ABOVEbREVERSED COMMA ABOVEbCOMMA ABOVE RIGHT",
  "316aCOMBINING GRAVE ACCENT BELOWbACUTE ACCENT BELOWbLEFT TACK BELOWbRIGHT TACK BELOW",
  "31AaCOMBINING LEFT ANGLE ABOVEbHORNbLEFT HALF RING BELOWbUP TACK BELOWbDOWN TACK BELOW",
  "31FaCOMBINING PLUS SIGN BELOWbMINUS SIGN BELOWbPALATALIZED HOOK BELOWbRETROFLEX HOOK BELOW",
  "323aCOMBINING DOT BELOWbDIAERESIS BELOWbRING BELOWbCOMMA BELOWbCEDILLAbOGONEK",
  "329aCOMBINING VERTICAL LINE BELOWbBRIDGE BELOWbINVERTED DOUBLE ARCH BELOWbCARON BELOW",
  "32DaCOMBINING CIRCUMFLEX ACCENT BELOWbBREVE BELOWbINVERTED BREVE BELOWbTILDE BELOWbMACRON BELOW",
  "332aCOMBINING LOW LINEbDOUBLE LOW LINEbTILDE OVERLAYbSHORT STROKE OVERLAYbLONG STROKE OVERLAY",
  "337aCOMBINING SHORT SOLIDUS OVERLAYbLONG SOLIDUS OVERLAYbRIGHT HALF RING BELOW",
  "33AaCOMBINING INVERTED BRIDGE BELOWbSQUARE BELOWbSEAGULL BELOWbX ABOVEbVERTICAL TILDE",
  "33FaCOMBINING DOUBLE OVERLINEbGRAVE TONE MARKbACUTE TONE MARKbGREEK PERISPOMENIcKORONIS",
  "344aCOMBINING GREEK DIALYTIKA TONOScYPOGEGRAMMENIbBRIDGE ABOVEbEQUALS SIGN BELOW",
  "348aCOMBINING DOUBLE VERTICAL LINE BELOWbLEFT ANGLE BELOWbNOT TILDE ABOVEbHOMOTHETIC ABOVE",
  "34CaCOMBINING ALMOST EQUAL TO ABOVEbLEFT RIGHT ARROW BELOWbUPWARDS ARROW BELOWbGRAPHEME JOINER",
  "350aCOMBINING RIGHT ARROWHEAD ABOVEbLEFT HALF RING ABOVEbFERMATAbX BELOWbLEFT ARROWHEAD BELOW",
  "355aCOMBINING RIGHT ARROWHEAD BELOWdAND UP ARROWHEAD BELOWcHALF RING ABOVEbDOT ABOVE RIGHT",
  "359aCOMBINING ASTERISK BELOWbDOUBLE RING BELOWbZIGZAG ABOVEbDOUBLE BREVE BELOW",
  "35DaCOMBINING DOUBLE BREVEcMACRONdBELOWcTILDEcINVERTED BREVEcRIGHTWARDS ARROW BELOW",
  "363aCOMBINING LATIN SMALL LETTER AeEeIeOeUeCeDeHeMeReTeVeXaGREEK CAPITAL LETTER HETA",
  "371aGREEK SMALL LETTER HETAbCAPITAL LETTER ARCHAIC SAMPIbSMALL LETTER ARCHAIC SAMPIbNUMERAL SIGN",
  "375aGREEK LOWER NUMERAL SIGNbCAPITAL LETTER PAMPHYLIAN DIGAMMAbSMALL LETTER PAMPHYLIAN DIGAMMA",
  "37AaGREEK YPOGEGRAMMENIbSMALL REVERSED LUNATE SIGMA SYMBOLcDOTTED LUNATE SIGMA SYMBOL",
  "37DaGREEK SMALL REVERSED DOTTED LUNATE SIGMA SYMBOLbQUESTION MARKbCAPITAL LETTER YOT",
  "384aGREEK TONOSbDIALYTIKA TONOSbCAPITAL LETTER ALPHA WITH TONOSbANO TELEIA",
  "388aGREEK CAPITAL LETTER EPSILON WITH TONOSdETA WITH TONOSdIOTA WITH TONOS",
  "38CaGREEK CAPITAL LETTER OMICRON WITH TONOS",
  "38EaGREEK CAPITAL LETTER UPSILON WITH TONOSdOMEGA WITH TONOS",
  "390aGREEK SMALL LETTER IOTA WITH DIALYTIKA AND TONOSbCAPITAL LETTER ALPHAdBETAdGAMMAdDELTA",
  "395aGREEK CAPITAL LETTER EPSILONdZETAdETAdTHETAdIOTAdKAPPAdLAMDAdMUdNUdXIdOMICRONdPIdRHO",
  "3A3aGREEK CAPITAL LETTER SIGMAdTAUdUPSILONdPHIdCHIdPSIdOMEGAdIOTA WITH DIALYTIKA",
  "3ABaGREEK CAPITAL LETTER UPSILON WITH DIALYTIKAbSMALL LETTER ALPHA WITH TONOSdEPSILON WITH TONOS",
  "3AEaGREEK SMALL LETTER ETA WITH TONOSdIOTA WITH TONOSdUPSILON WITH DIALYTIKA AND TONOSdALPHA",
  "3B2aGREEK SMALL LETTER BETAdGAMMAdDELTAdEPSILONdZETAdETAdTHETAdIOTAdKAPPAdLAMDAdMUdNUdXIdOMICRON",
  "3C0aGREEK SMALL LETTER PIdRHOdFINAL SIGMAdSIGMAdTAUdUPSILONdPHIdCHIdPSIdOMEGA",
  "3CAaGREEK SMALL LETTER IOTA WITH DIALYTIKAdUPSILON WITH DIALYTIKAdOMICRON WITH TONOS",
  "3CDaGREEK SMALL LETTER UPSILON WITH TONOSdOMEGA WITH TONOSbCAPITAL KAI SYMBOLbBETA SYMBOL",
  "3D1aGREEK THETA SYMBOLbUPSILON WITH HOOK SYMBOLdACUTE AND HOOK SYMBOLdDIAERESIS AND HOOK SYMBOL",
  "3D5aGREEK PHI SYMBOLbPI SYMBOLbKAI SYMBOLbLETTER ARCHAIC KOPPAbSMALL LETTER ARCHAIC KOPPA",
  "3DAaGREEK LETTER STIGMAbSMALL LETTER STIGMAbLETTER DIGAMMAbSMALL LETTER DIGAMMAbLETTER KOPPA",
  "3DFaGREEK SMALL LETTER KOPPAbLETTER SAMPIbSMALL LETTER SAMPIaCOPTIC CAPITAL LETTER SHEI",
  "3E3aCOPTIC SMALL LETTER SHEIbCAPITAL LETTER FEIbSMALL LETTER FEIbCAPITAL LETTER KHEI",
  "3E7aCOPTIC SMALL LETTER KHEIbCAPITAL LETTER HORIbSMALL LETTER HORIbCAPITAL LETTER GANGIA",
  "3EBaCOPTIC SMALL LETTER GANGIAbCAPITAL LETTER SHIMAbSMALL LETTER SHIMAbCAPITAL LETTER DEI",
  "3EFaCOPTIC SMALL LETTER DEIaGREEK KAPPA SYMBOLbRHO SYMBOLbLUNATE SIGMA SYMBOLbLETTER YOT",
  "3F4aGREEK CAPITAL THETA SYMBOLbLUNATE EPSILON SYMBOLbREVERSED LUNATE EPSILON SYMBOL",
  "3F7aGREEK CAPITAL LETTER SHObSMALL LETTER SHObCAPITAL LUNATE SIGMA SYMBOLcLETTER SAN",
  "3FBaGREEK SMALL LETTER SANbRHO WITH STROKE SYMBOLbCAPITAL REVERSED LUNATE SIGMA SYMBOL",
  "3FEaGREEK CAPITAL DOTTED LUNATE SIGMA SYMBOLcREVERSED DOTTED LUNATE SIGMA SYMBOL",
  "400aCYRILLIC CAPITAL LETTER IE WITH GRAVEdIOdDJEdGJEdUKRAINIAN IEdDZEdBYELORUSSIAN-UKRAINIAN I",
  "407aCYRILLIC CAPITAL LETTER YIdJEdLJEdNJEdTSHEdKJEdI WITH GRAVEdSHORT UdDZHEdAdBEdVEdGHEdDEdIE",
  "416aCYRILLIC CAPITAL LETTER ZHEdZEdIdSHORT IdKAdELdEMdENdOdPEdERdESdTEdUdEFdHAdTSEdCHEdSHAdSHCHA",
  "42AaCYRILLIC CAPITAL LETTER HARD SIGNdYERUdSOFT SIGNdEdYUdYAbSMALL LETTER AdBEdVEdGHEdDEdIEdZHE",
  "437aCYRILLIC SMALL LETTER ZEdIdSHORT IdKAdELdEMdENdOdPEdERdESdTEdUdEFdHAdTSEdCHEdSHAdSHCHA",
  "44AaCYRILLIC SMALL LETTER HARD SIGNdYERUdSOFT SIGNdEdYUdYAdIE WITH GRAVEdIOdDJEdGJEdUKRAINIAN IE",
  "455aCYRILLIC SMALL LETTER DZEdBYELORUSSIAN-UKRAINIAN IdYIdJEdLJEdNJEdTSHEdKJEdI WITH GRAVE",
  "45EaCYRILLIC SMALL LETTER SHORT UdDZHEbCAPITAL LETTER OMEGAbSMALL LETTER OMEGA",
  "462aCYRILLIC CAPITAL LETTER YATbSMALL LETTER YATbCAPITAL LETTER IOTIFIED E",
  "465aCYRILLIC SMALL LETTER IOTIFIED EbCAPITAL LETTER LITTLE YUSbSMALL LETTER LITTLE YUS",
  "468aCYRILLIC CAPITAL LETTER IOTIFIED LITTLE YUSbSMALL LETTER IOTIFIED LITTLE YUS",
  "46AaCYRILLIC CAPITAL LETTER BIG YUSbSMALL LETTER BIG YUSbCAPITAL LETTER IOTIFIED BIG YUS",
  "46DaCYRILLIC SMALL LETTER IOTIFIED BIG YUSbCAPITAL LETTER KSIbSMALL LETTER KSI",
  "470aCYRILLIC CAPITAL LETTER PSIbSMALL LETTER PSIbCAPITAL LETTER FITAbSMALL LETTER FITA",
  "474aCYRILLIC CAPITAL LETTER IZHITSAbSMALL LETTER IZHITSA",
  "476aCYRILLIC CAPITAL LETTER IZHITSA WITH DOUBLE GRAVE ACCENT",
  "477aCYRILLIC SMALL LETTER IZHITSA WITH DOUBLE GRAVE ACCENTbCAPITAL LETTER UKbSMALL LETTER UK",
  "47AaCYRILLIC CAPITAL LETTER ROUND OMEGAbSMALL LETTER ROUND OMEGAbCAPITAL LETTER OMEGA WITH TITLO",
  "47DaCYRILLIC SMALL LETTER OMEGA WITH TITLObCAPITAL LETTER OTbSMALL LETTER OT",
  "480aCYRILLIC CAPITAL LETTER KOPPAbSMALL LETTER KOPPAbTHOUSANDS SIGNaCOMBINING CYRILLIC TITLO",
  "484aCOMBINING CYRILLIC PALATALIZATIONcDASIA PNEUMATAcPSILI PNEUMATAcPOKRYTIE",
  "488aCOMBINING CYRILLIC HUNDRED THOUSANDS SIGNcMILLIONS SIGN",
  "48AaCYRILLIC CAPITAL LETTER SHORT I WITH TAILbSMALL LETTER SHORT I WITH TAIL",
  "48CaCYRILLIC CAPITAL LETTER SEMISOFT SIGNbSMALL LETTER SEMISOFT SIGNbCAPITAL LETTER ER WITH TICK",
  "48FaCYRILLIC SMALL LETTER ER WITH TICKbCAPITAL LETTER GHE WITH UPTURN",
  "491aCYRILLIC SMALL LETTER GHE WITH UPTURNbCAPITAL LETTER GHE WITH STROKE",
  "493aCYRILLIC SMALL LETTER GHE WITH STROKEbCAPITAL LETTER GHE WITH MIDDLE HOOK",
  "495aCYRILLIC SMALL LETTER GHE WITH MIDDLE HOOKbCAPITAL LETTER ZHE WITH DESCENDER",
  "497aCYRILLIC SMALL LETTER ZHE WITH DESCENDERbCAPITAL LETTER ZE WITH DESCENDER",
  "499aCYRILLIC SMALL LETTER ZE WITH DESCENDERbCAPITAL LETTER KA WITH DESCENDER",
  "49BaCYRILLIC SMALL LETTER KA WITH DESCENDERbCAPITAL LETTER KA WITH VERTICAL STROKE",
  "49DaCYRILLIC SMALL LETTER KA WITH VERTICAL STROKEbCAPITAL LETTER KA WITH STROKE",
  "49FaCYRILLIC SMALL LETTER KA WITH STROKEbCAPITAL LETTER BASHKIR KAbSMALL LETTER BASHKIR KA",
  "4A2aCYRILLIC CAPITAL LETTER EN WITH DESCENDERbSMALL LETTER EN WITH DESCENDER",
  "4A4aCYRILLIC CAPITAL LIGATURE EN GHEbSMALL LIGATURE EN GHEbCAPITAL LETTER PE WITH MIDDLE HOOK",
  "4A7aCYRILLIC SMALL LETTER PE WITH MIDDLE HOOKbCAPITAL LETTER ABKHASIAN HA",
  "4A9aCYRILLIC SMALL LETTER ABKHASIAN HAbCAPITAL LETTER ES WITH DESCENDER",
  "4ABaCYRILLIC SMALL LETTER ES WITH DESCENDERbCAPITAL LETTER TE WITH DESCENDER",
  "4ADaCYRILLIC SMALL LETTER TE WITH DESCENDERbCAPITAL LETTER STRAIGHT UbSMALL LETTER STRAIGHT U",
  "4B0aCYRILLIC CAPITAL LETTER STRAIGHT U WITH STROKEbSMALL LETTER STRAIGHT U WITH STROKE",
  "4B2aCYRILLIC CAPITAL LETTER HA WITH DESCENDERbSMALL LETTER HA WITH DESCENDER",
  "4B4aCYRILLIC CAPITAL LIGATURE TE TSEbSMALL LIGATURE TE TSEbCAPITAL LETTER CHE WITH DESCENDER",
  "4B7aCYRILLIC SMALL LETTER CHE WITH DESCENDERbCAPITAL LETTER CHE WITH VERTICAL STROKE",
  "4B9aCYRILLIC SMALL LETTER CHE WITH VERTICAL STROKEbCAPITAL LETTER SHHAbSMALL LETTER SHHA",
  "4BCaCYRILLIC CAPITAL LETTER ABKHASIAN CHEbSMALL LETTER ABKHASIAN CHE",
  "4BEaCYRILLIC CAPITAL LETTER ABKHASIAN CHE WITH DESCENDER",
  "4BFaCYRILLIC SMALL LETTER ABKHASIAN CHE WITH DESCENDERbLETTER PALOCHKA",
  "4C1aCYRILLIC CAPITAL LETTER ZHE WITH BREVEbSMALL LETTER ZHE WITH BREVE",
  "4C3aCYRILLIC CAPITAL LETTER KA WITH HOOKbSMALL LETTER KA WITH HOOKbCAPITAL LETTER EL WITH TAIL",
  "4C6aCYRILLIC SMALL LETTER EL WITH TAILbCAPITAL LETTER EN WITH HOOKbSMALL LETTER EN WITH HOOK",
  "4C9aCYRILLIC CAPITAL LETTER EN WITH TAILbSMALL LETTER EN WITH TAILbCAPITAL LETTER KHAKASSIAN CHE",
  "4CCaCYRILLIC SMALL LETTER KHAKASSIAN CHEbCAPITAL LETTER EM WITH TAILbSMALL LETTER EM WITH TAIL",
  "4CFaCYRILLIC SMALL LETTER PALOCHKAbCAPITAL LETTER A WITH BREVEbSMALL LETTER A WITH BREVE",
  "4D2aCYRILLIC CAPITAL LETTER A WITH DIAERESISbSMALL LETTER A WITH DIAERESISbCAPITAL LIGATURE A IE",
  "4D5aCYRILLIC SMALL LIGATURE A IEbCAPITAL LETTER IE WITH BREVEbSMALL LETTER IE WITH BREVE",
  "4D8aCYRILLIC CAPITAL LETTER SCHWAbSMALL LETTER SCHWAbCAPITAL LETTER SCHWA WITH DIAERESIS",
  "4DBaCYRILLIC SMALL LETTER SCHWA WITH DIAERESISbCAPITAL LETTER ZHE WITH DIAERESIS",
  "4DDaCYRILLIC SMALL LETTER ZHE WITH DIAERESISbCAPITAL LETTER ZE WITH DIAERESIS",
  "4DFaCYRILLIC SMALL LETTER ZE WITH DIAERESISbCAPITAL LETTER ABKHASIAN DZE",
  "4E1aCYRILLIC SMALL LETTER ABKHASIAN DZEbCAPITAL LETTER I WITH MACRONbSMALL LETTER I WITH MACRON",
  "4E4aCYRILLIC CAPITAL LETTER I WITH DIAERESISbSMALL LETTER I WITH DIAERESIS",
  "4E6aCYRILLIC CAPITAL LETTER O WITH DIAERESISbSMALL LETTER O WITH DIAERESIS",
  "4E8aCYRILLIC CAPITAL LETTER BARRED ObSMALL LETTER BARRED O",
  "4EAaCYRILLIC CAPITAL LETTER BARRED O WITH DIAERESISbSMALL LETTER BARRED O WITH DIAERESIS",
  "4ECaCYRILLIC CAPITAL LETTER E WITH DIAERESISbSMALL LETTER E WITH DIAERESIS",
  "4EEaCYRILLIC CAPITAL LETTER U WITH MACRONbSMALL LETTER U WITH MACRON",
  "4F0aCYRILLIC CAPITAL LETTER U WITH DIAERESISbSMALL LETTER U WITH DIAERESIS",
  "4F2aCYRILLIC CAPITAL LETTER U WITH DOUBLE ACUTEbSMALL LETTER U WITH DOUBLE ACUTE",
  "4F4aCYRILLIC CAPITAL LETTER CHE WITH DIAERESISbSMALL LETTER CHE WITH DIAERESIS",
  "4F6aCYRILLIC CAPITAL LETTER GHE WITH DESCENDERbSMALL LETTER GHE WITH DESCENDER",
  "4F8aCYRILLIC CAPITAL LETTER YERU WITH DIAERESISbSMALL LETTER YERU WITH DIAERESIS",
  "4FAaCYRILLIC CAPITAL LETTER GHE WITH STROKE AND HOOKbSMALL LETTER GHE WITH STROKE AND HOOK",
  "4FCaCYRILLIC CAPITAL LETTER HA WITH HOOKbSMALL LETTER HA WITH HOOKbCAPITAL LETTER HA WITH STROKE",
  "4FFaCYRILLIC SMALL LETTER HA WITH STROKEbCAPITAL LETTER KOMI DEbSMALL LETTER KOMI DE",
  "502aCYRILLIC CAPITAL LETTER KOMI DJEbSMALL LETTER KOMI DJEbCAPITAL LETTER KOMI ZJE",
  "505aCYRILLIC SMALL LETTER KOMI ZJEbCAPITAL LETTER KOMI DZJEbSMALL LETTER KOMI DZJE",
  "508aCYRILLIC CAPITAL LETTER KOMI LJEbSMALL LETTER KOMI LJEbCAPITAL LETTER KOMI NJE",
  "50BaCYRILLIC SMALL LETTER KOMI NJEbCAPITAL LETTER KOMI SJEbSMALL LETTER KOMI SJE",
  "50EaCYRILLIC CAPITAL LETTER KOMI TJEbSMALL LETTER KOMI TJEbCAPITAL LETTER REVERSED ZE",
  "511aCYRILLIC SMALL LETTER REVERSED ZEbCAPITAL LETTER EL WITH HOOKbSMALL LETTER EL WITH HOOK",
  "514aCYRILLIC CAPITAL LETTER LHAbSMALL LETTER LHAbCAPITAL LETTER RHAbSMALL LETTER RHA",
  "518aCYRILLIC CAPITAL LETTER YAEbSMALL LETTER YAEbCAPITAL LETTER QAbSMALL LETTER QA",
  "51CaCYRILLIC CAPITAL LETTER WEbSMALL LETTER WEbCAPITAL LETTER ALEUT KAbSMALL LETTER ALEUT KA",
  "520aCYRILLIC CAPITAL LETTER EL WITH MIDDLE HOOKbSMALL LETTER EL WITH MIDDLE HOOK",
  "522aCYRILLIC CAPITAL LETTER EN WITH MIDDLE HOOKbSMALL LETTER EN WITH MIDDLE HOOK",
  "524aCYRILLIC CAPITAL LETTER PE WITH DESCENDERbSMALL LETTER PE WITH DESCENDER",
  "526aCYRILLIC CAPITAL LETTER SHHA WITH DESCENDERbSMALL LETTER SHHA WITH DESCENDER",
  "528aCYRILLIC CAPITAL LETTER EN WITH LEFT HOOKbSMALL LETTER EN WITH LEFT HOOK",
  "52AaCYRILLIC CAPITAL LETTER DZZHEbSMALL LETTER DZZHEbCAPITAL LETTER DCHEbSMALL LETTER DCHE",
  "52EaCYRILLIC CAPITAL LETTER EL WITH DESCENDERbSMALL LETTER EL WITH DESCENDER",
  "531aARMENIAN CAPITAL LETTER AYBdBENdGIMdDAdECHdZAdEHdETdTOdZHEdINIdLIWNdXEHdCAdKENdHOdJAdGHAD",
  "543aARMENIAN CAPITAL LETTER CHEHdMENdYIdNOWdSHAdVOdCHAdPEHdJHEHdRAdSEHdVEWdTIWNdREHdCOdYIWNdPIWR",
  "554aARMENIAN CAPITAL LETTER KEHdOHdFEH",
  "559aARMENIAN MODIFIER LETTER LEFT HALF RINGbAPOSTROPHEbEMPHASIS MARKbEXCLAMATION MARKbCOMMA",
  "55EaARMENIAN QUESTION MARKbABBREVIATION MARKbSMALL LETTER TURNED AYBdAYBdBENdGIMdDAdECHdZAdEHdET",
  "569aARMENIAN SMALL LETTER TOdZHEdINIdLIWNdXEHdCAdKENdHOdJAdGHADdCHEHdMENdYIdNOWdSHAdVOdCHAdPEH",
  "57BaARMENIAN SMALL LETTER JHEHdRAdSEHdVEWdTIWNdREHdCOdYIWNdPIWRdKEHdOHdFEHcLIGATURE ECH YIWN",
  "588aARMENIAN SMALL LETTER YI WITH STROKEbFULL STOPbHYPHEN",
  "58DaRIGHT-FACING ARMENIAN ETERNITY SIGNaLEFT-FACING ARMENIAN ETERNITY SIGNaARMENIAN DRAM SIGN",
  "591aHEBREW ACCENT ETNAHTAcSEGOLcSHALSHELETcZAQEF QATANdGADOLcTIPEHAcREVIAcZARQAcPASHTAcYETIV",
  "59BaHEBREW ACCENT TEVIRcGERESHdMUQDAMcGERSHAYIMcQARNEY PARAcTELISHA GEDOLAcPAZERcATNAH HAFUKH",
  "5A3aHEBREW ACCENT MUNAHcMAHAPAKHcMERKHAdKEFULAcDARGAcQADMAcTELISHA QETANAcYERAH BEN YOMOcOLE",
  "5ACaHEBREW ACCENT ILUYcDEHIcZINORbMARK MASORA CIRCLEbPOINT SHEVAcHATAF SEGOLdPATAHdQAMATScHIRIQ",
  "5B5aHEBREW POINT TSEREcSEGOLcPATAHcQAMATScHOLAMdHASER FOR VAVcQUBUTScDAGESH OR MAPIQcMETEG",
  "5BEaHEBREW PUNCTUATION MAQAFbPOINT RAFEbPUNCTUATION PASEQbPOINT SHIN DOTcSIN DOT",
  "5C3aHEBREW PUNCTUATION SOF PASUQbMARK UPPER DOTcLOWER DOTbPUNCTUATION NUN HAFUKHA",
  "5C7aHEBREW POINT QAMATS QATAN",
  "5D0aHEBREW LETTER ALEFcBETcGIMELcDALETcHEcVAVcZAYINcHETcTETcYODcFINAL KAFcKAFcLAMEDcFINAL MEM",
  "5DEaHEBREW LETTER MEMcFINAL NUNcNUNcSAMEKHcAYINcFINAL PEcPEcFINAL TSADIcTSADIcQOFcRESHcSHINcTAV",
  "5EFaHEBREW YOD TRIANGLEbLIGATURE YIDDISH DOUBLE VAVdVAV YODdDOUBLE YODbPUNCTUATION GERESH",
  "5F4aHEBREW PUNCTUATION GERSHAYIM",
  "600aARABIC NUMBER SIGNbSIGN SANAHbFOOTNOTE MARKERbSIGN SAFHAcSAMVATbNUMBER MARK ABOVE",
  "606aARABIC-INDIC CUBE ROOTbFOURTH ROOTaARABIC RAYaARABIC-INDIC PER MILLE SIGNcTEN THOUSAND SIGN",
  "60BaAFGHANI SIGNaARABIC COMMAbDATE SEPARATORbPOETIC VERSE SIGNbSIGN MISRA",
  "610aARABIC SIGN SALLALLAHOU ALAYHE WASSALLAMcALAYHE ASSALLAMcRAHMATULLAH ALAYHE",
  "613aARABIC SIGN RADI ALLAHOU ANHUcTAKHALLUSbSMALL HIGH TAHdLIGATURE ALEF WITH LAM WITH YEHdZAIN",
  "618aARABIC SMALL FATHAcDAMMAcKASRAbSEMICOLONbLETTER MARKbEND OF TEXT MARK",
  "61EaARABIC TRIPLE DOT PUNCTUATION MARKbQUESTION MARKbLETTER KASHMIRI YEHcHAMZA",
  "622aARABIC LETTER ALEF WITH MADDA ABOVEeHAMZA ABOVEcWAW WITH HAMZA ABOVEcALEF WITH HAMZA BELOW",
  "626aARABIC LETTER YEH WITH HAMZA ABOVEcALEFcBEHcTEH MARBUTA",
  "62AaARABIC LETTER TEHcTHEHcJEEMcHAHcKHAHcDALcTHALcREHcZAINcSEENcSHEENcSADcDADcTAHcZAHcAINcGHAIN",
  "63BaARABIC LETTER KEHEH WITH TWO DOTS ABOVEeTHREE DOTS BELOWcFARSI YEH WITH INVERTED V",
  "63EaARABIC LETTER FARSI YEH WITH TWO DOTS ABOVEfTHREE DOTS ABOVEbTATWEELbLETTER FEHcQAFcKAFcLAM",
  "645aARABIC LETTER MEEMcNOONcHEHcWAWcALEF MAKSURAcYEHbFATHATANbDAMMATANbKASRATANbFATHAbDAMMA",
  "650aARABIC KASRAbSHADDAbSUKUNbMADDAH ABOVEbHAMZA ABOVEcBELOWbSUBSCRIPT ALEFbINVERTED DAMMA",
  "658aARABIC MARK NOON GHUNNAbZWARAKAYbVOWEL SIGN SMALL V ABOVEdINVERTED SMALL V ABOVEdDOT BELOW",
  "65DaARABIC REVERSED DAMMAbFATHA WITH TWO DOTSbWAVY HAMZA BELOWaARABIC-INDIC DIGIT ZEROcONEcTWO",
  "663aARABIC-INDIC DIGIT THREEcFOURcFIVEcSIXcSEVENcEIGHTcNINEaARABIC PERCENT SIGN",
  "66BaARABIC DECIMAL SEPARATORbTHOUSANDS SEPARATORbFIVE POINTED STARbLETTER DOTLESS BEHdQAF",
  "670aARABIC LETTER SUPERSCRIPT ALEFcALEF WASLAdWITH WAVY HAMZA ABOVEgBELOWcHIGH HAMZAeALEFeWAW",
  "677aARABIC LETTER U WITH HAMZA ABOVEcHIGH HAMZA YEHcTTEHcTTEHEHcBEEHcTEH WITH RING",
  "67DaARABIC LETTER TEH WITH THREE DOTS ABOVE DOWNWARDScPEHcTEHEHcBEHEHcHAH WITH HAMZA ABOVE",
  "682aARABIC LETTER HAH WITH TWO DOTS VERTICAL ABOVEcNYEHcDYEHcHAH WITH THREE DOTS ABOVEcTCHEH",
  "687aARABIC LETTER TCHEHEHcDDALcDAL WITH RINGeDOT BELOWgAND SMALL TAHcDAHALcDDAHALcDUL",
  "68FaARABIC LETTER DAL WITH THREE DOTS ABOVE DOWNWARDSeFOUR DOTS ABOVEcRREHcREH WITH SMALL VeRING",
  "694aARABIC LETTER REH WITH DOT BELOWeSMALL V BELOWeDOT BELOW AND DOT ABOVEeTWO DOTS ABOVEcJEH",
  "699aARABIC LETTER REH WITH FOUR DOTS ABOVEcSEEN WITH DOT BELOW AND DOT ABOVEeTHREE DOTS BELOW",
  "69CaARABIC LETTER SEEN WITH THREE DOTS BELOW AND THREE DOTS ABOVEcSAD WITH TWO DOTS BELOW",
  "69EaARABIC LETTER SAD WITH THREE DOTS ABOVEcTAH WITH THREE DOTS ABOVEcAIN WITH THREE DOTS ABOVE",
  "6A1aARABIC LETTER DOTLESS FEHcFEH WITH DOT MOVED BELOWfBELOWcVEHcFEH WITH THREE DOTS BELOWcPEHEH",
  "6A7aARABIC LETTER QAF WITH DOT ABOVEeTHREE DOTS ABOVEcKEHEHcSWASH KAFcKAF WITH RINGeDOT ABOVEcNG",
  "6AEaARABIC LETTER KAF WITH THREE DOTS BELOWcGAFdWITH RINGcNGOEHcGAF WITH TWO DOTS BELOWcGUEH",
  "6B4aARABIC LETTER GAF WITH THREE DOTS ABOVEcLAM WITH SMALL VeDOT ABOVEeTHREE DOTS ABOVEgBELOW",
  "6B9aARABIC LETTER NOON WITH DOT BELOWdGHUNNAcRNOONcNOON WITH RINGeTHREE DOTS ABOVE",
  "6BEaARABIC LETTER HEH DOACHASHMEEcTCHEH WITH DOT ABOVEcHEH WITH YEH ABOVEdGOALeWITH HAMZA ABOVE",
  "6C3aARABIC LETTER TEH MARBUTA GOALcWAW WITH RINGcKIRGHIZ OEcOEcUcYUcKIRGHIZ YU",
  "6CAaARABIC LETTER WAW WITH TWO DOTS ABOVEcVEcFARSI YEHcYEH WITH TAILeSMALL VcWAW WITH DOT ABOVE",
  "6D0aARABIC LETTER EcYEH WITH THREE DOTS BELOWdBARREEeWITH HAMZA ABOVEbFULL STOPbLETTER AE",
  "6D6aARABIC SMALL HIGH LIGATURE SAD WITH LAM WITH ALEF MAKSURAeQAF WITH LAM WITH ALEF MAKSURA",
  "6D8aARABIC SMALL HIGH MEEM INITIAL FORMdLAM ALEFdJEEMdTHREE DOTSdSEENbEND OF AYAH",
  "6DEaARABIC START OF RUB EL HIZBbSMALL HIGH ROUNDED ZEROdUPRIGHT RECTANGULAR ZERO",
  "6E1aARABIC SMALL HIGH DOTLESS HEAD OF KHAHdMEEM ISOLATED FORMcLOW SEENcHIGH MADDAcWAWcYEH",
  "6E7aARABIC SMALL HIGH YEHdNOONbPLACE OF SAJDAHbEMPTY CENTRE LOW STOPdHIGH STOP",
  "6ECaARABIC ROUNDED HIGH STOP WITH FILLED CENTREbSMALL LOW MEEMbLETTER DAL WITH INVERTED V",
  "6EFaARABIC LETTER REH WITH INVERTED VaEXTENDED ARABIC-INDIC DIGIT ZEROdONEdTWOdTHREEdFOURdFIVE",
  "6F6aEXTENDED ARABIC-INDIC DIGIT SIXdSEVENdEIGHTdNINEaARABIC LETTER SHEEN WITH DOT BELOW",
  "6FBaARABIC LETTER DAD WITH DOT BELOWcGHAIN WITH DOT BELOWbSIGN SINDHI AMPERSANDdPOSTPOSITION MEN",
  "6FFaARABIC LETTER HEH WITH INVERTED VaSYRIAC END OF PARAGRAPHbSUPRALINEAR FULL STOP",
  "702aSYRIAC SUBLINEAR FULL STOPbSUPRALINEAR COLONbSUBLINEAR COLONbHORIZONTAL COLON",
  "706aSYRIAC COLON SKEWED LEFTdRIGHTbSUPRALINEAR COLON SKEWED LEFTbSUBLINEAR COLON SKEWED RIGHT",
  "70AaSYRIAC CONTRACTIONbHARKLEAN OBELUScMETOBELUScASTERISCUS",
  "70FaSYRIAC ABBREVIATION MARKbLETTER ALAPHcSUPERSCRIPT ALAPHcBETHcGAMALdGARSHUNIcDALATH",
  "716aSYRIAC LETTER DOTLESS DALATH RISHcHEcWAWcZAINcHETHcTETHdGARSHUNIcYUDHdHEcKAPHcLAMADHcMIMcNUN",
  "723aSYRIAC LETTER SEMKATHcFINAL SEMKATHcEcPEcREVERSED PEcSADHEcQAPHcRISHcSHINcTAWcPERSIAN BHETH",
  "72EaSYRIAC LETTER PERSIAN GHAMALdDHALATHbPTHAHA ABOVEcBELOWcDOTTEDbZQAPHA ABOVEcBELOWcDOTTED",
  "736aSYRIAC RBASA ABOVEcBELOWbDOTTED ZLAMA HORIZONTALdANGULARbHBASA ABOVEcBELOW"]

/-- More rows of names. -/
def nameRowsB : List String := [
  "73CaSYRIAC HBASA-ESASA DOTTEDbESASA ABOVEcBELOWbRWAHAbFEMININE DOTbQUSHSHAYAbRUKKAKHA",
  "743aSYRIAC TWO VERTICAL DOTS ABOVEeBELOWbTHREE DOTS ABOVEdBELOWbOBLIQUE LINE ABOVEdBELOWbMUSIC",
  "74AaSYRIAC BARREKH",
  "74DaSYRIAC LETTER SOGDIAN ZHAINdKHAPHdFEaARABIC LETTER BEH WITH THREE DOTS HORIZONTALLY BELOW",
  "751aARABIC LETTER BEH WITH DOT BELOW AND THREE DOTS ABOVEeTHREE DOTS POINTING UPWARDS BELOW",
  "753aARABIC LETTER BEH WITH THREE DOTS POINTING UPWARDS BELOW AND TWO DOTS ABOVE",
  "754aARABIC LETTER BEH WITH TWO DOTS BELOW AND DOT ABOVEeINVERTED SMALL V BELOWeSMALL V",
  "757aARABIC LETTER HAH WITH TWO DOTS ABOVEeTHREE DOTS POINTING UPWARDS BELOW",
  "759aARABIC LETTER DAL WITH TWO DOTS VERTICALLY BELOW AND SMALL TAHeINVERTED SMALL V BELOW",
  "75BaARABIC LETTER REH WITH STROKEcSEEN WITH FOUR DOTS ABOVEcAIN WITH TWO DOTS ABOVE",
  "75EaARABIC LETTER AIN WITH THREE DOTS POINTING DOWNWARDS ABOVEeTWO DOTS VERTICALLY ABOVE",
  "760aARABIC LETTER FEH WITH TWO DOTS BELOWeTHREE DOTS POINTING UPWARDS BELOWcKEHEH WITH DOT ABOVE",
  "763aARABIC LETTER KEHEH WITH THREE DOTS ABOVEgPOINTING UPWARDS BELOWcMEEM WITH DOT ABOVEfBELOW",
  "767aARABIC LETTER NOON WITH TWO DOTS BELOWeSMALL TAHfVcLAM WITH BAR",
  "76BaARABIC LETTER REH WITH TWO DOTS VERTICALLY ABOVEeHAMZA ABOVE",
  "76DaARABIC LETTER SEEN WITH TWO DOTS VERTICALLY ABOVEcHAH WITH SMALL ARABIC LETTER TAH BELOW",
  "76FaARABIC LETTER HAH WITH SMALL ARABIC LETTER TAH AND TWO DOTS",
  "770aARABIC LETTER SEEN WITH SMALL ARABIC LETTER TAH AND TWO DOTS",
  "771aARABIC LETTER REH WITH SMALL ARABIC LETTER TAH AND TWO DOTS",
  "772aARABIC LETTER HAH WITH SMALL ARABIC LETTER TAH ABOVE",
  "773aARABIC LETTER ALEF WITH EXTENDED ARABIC-INDIC DIGIT TWO ABOVEhTHREE ABOVE",
  "775aARABIC LETTER FARSI YEH WITH EXTENDED ARABIC-INDIC DIGIT TWO ABOVEiTHREE ABOVEiFOUR BELOW",
  "778aARABIC LETTER WAW WITH EXTENDED ARABIC-INDIC DIGIT TWO ABOVEhTHREE ABOVE",
  "77AaARABIC LETTER YEH BARREE WITH EXTENDED ARABIC-INDIC DIGIT TWO ABOVEiTHREE ABOVE",
  "77CaARABIC LETTER HAH WITH EXTENDED ARABIC-INDIC DIGIT FOUR BELOW",
  "77DaARABIC LETTER SEEN WITH EXTENDED ARABIC-INDIC DIGIT FOUR ABOVEeINVERTED V",
  "77FaARABIC LETTER KAF WITH TWO DOTS ABOVEaTHAANA LETTER HAAcSHAVIYANIcNOONUcRAAcBAAcLHAVIYANI",
  "786aTHAANA LETTER KAAFUcALIFUcVAAVUcMEEMUcFAAFUcDHAALUcTHAAcLAAMUcGAAFUcGNAVIYANIcSEENUcDAVIYANI",
  "792aTHAANA LETTER ZAVIYANIcTAVIYANIcYAAcPAVIYANIcJAVIYANIcCHAVIYANIcTTAAcHHAAcKHAAcTHAALUcZAA",
  "79DaTHAANA LETTER SHEENUcSAADHUcDAADHUcTOcZOcAINUcGHAINUcQAAFUcWAAVUbABAFILIbAABAAFILIbIBIFILI",
  "7A9aTHAANA EEBEEFILIbUBUFILIbOOBOOFILIbEBEFILIbEYBEYFILIbOBOFILIbOABOAFILIbSUKUNbLETTER NAA",
  "7C0aNKO DIGIT ZEROcONEcTWOcTHREEcFOURcFIVEcSIXcSEVENcEIGHTcNINEbLETTER AcEEcIcEcUcOOcO",
  "7D1aNKO LETTER DAGBASINNAcNcBAcPAcTAcJAcCHAcDAcRAcRRAcSAcGBAcFAcKAcLAcNA WOLOSOcMAcNYAcNAcHAcWA",
  "7E6aNKO LETTER YAcNYA WOLOSOcJONA JAdCHAdRAbCOMBINING SHORT HIGH TONEdLOW TONEdRISING TONE",
  "7EEaNKO COMBINING LONG DESCENDING TONEdHIGH TONEdLOW TONEdRISING TONEcNASALIZATION MARK",
  "7F3aNKO COMBINING DOUBLE DOT ABOVEbHIGH TONE APOSTROPHEbLOW TONE APOSTROPHEbSYMBOL OO DENNEN",
  "7F7aNKO SYMBOL GBAKURUNENbCOMMAbEXCLAMATION MARKbLAJANYALAN",
  "7FDaNKO DANTAYALANbDOROME SIGNbTAMAN SIGNaSAMARITAN LETTER ALAFcBITcGAMANcDALATcIYcBAAcZENcIT",
  "808aSAMARITAN LETTER TITcYUTcKAAFcLABATcMIMcNUNcSINGAATcINcFIcTSAADIYcQUFcRISHcSHANcTAAFbMARK IN",
  "817aSAMARITAN MARK IN-ALAFcOCCLUSIONcDAGESHbMODIFIER LETTER EPENTHETIC YUTbMARK EPENTHETIC YUT",
  "81CaSAMARITAN VOWEL SIGN LONG EdEdOVERLONG AAdLONG AAdAAdOVERLONG AdLONG AdA",
  "824aSAMARITAN MODIFIER LETTER SHORT AbVOWEL SIGN SHORT AdLONG UdUbMODIFIER LETTER I",
  "829aSAMARITAN VOWEL SIGN LONG IdIdOdSUKUNbMARK NEQUDAA",
  "830aSAMARITAN PUNCTUATION NEQUDAAcAFSAAQcANGEDcBAUcATMAAUcSHIYYAALAAbABBREVIATION MARK",
  "837aSAMARITAN PUNCTUATION MELODIC QITSAcZIQAAcQITSAcZAEFcTURUcARKAANUcSOF MASHFAATcANNAAU",
  "840aMANDAIC LETTER HALQAcABcAGcADcAHcUSHENNAcAZcITcATTcAKSAcAKcALcAMcANcAScINcAPcASZcAQcARcASH",
  "855aMANDAIC LETTER ATcDUSHENNAcKADcAINbAFFRICATION MARKbVOCALIZATION MARKbGEMINATION MARK",
  "85EaMANDAIC PUNCTUATION",
  "860aSYRIAC LETTER MALAYALAM NGAdJAdNYAdTTAdNNAdNNNAdBHAdRAdLLAdLLLAdSSA",
  "870aARABIC LETTER ALEF WITH ATTACHED FATHAfTOP RIGHT FATHAeRIGHT MIDDLE STROKE",
  "873aARABIC LETTER ALEF WITH LEFT MIDDLE STROKEeATTACHED KASRAfBOTTOM RIGHT KASRAfROUND DOT ABOVE",
  "877aARABIC LETTER ALEF WITH ATTACHED RIGHT ROUND DOTfLEFT ROUND DOTfROUND DOT BELOWeDOT ABOVE",
  "87BaARABIC LETTER ALEF WITH ATTACHED TOP RIGHT FATHA AND DOT ABOVE",
  "87CaARABIC LETTER ALEF WITH RIGHT MIDDLE STROKE AND DOT ABOVE",
  "87DaARABIC LETTER ALEF WITH ATTACHED BOTTOM RIGHT KASRA AND DOT ABOVE",
  "87EaARABIC LETTER ALEF WITH ATTACHED TOP RIGHT FATHA AND LEFT RING",
  "87FaARABIC LETTER ALEF WITH RIGHT MIDDLE STROKE AND LEFT RING",
  "880aARABIC LETTER ALEF WITH ATTACHED BOTTOM RIGHT KASRA AND LEFT RINGfRIGHT HAMZAfLEFT HAMZA",
  "883aARABIC TATWEEL WITH OVERSTRUCK HAMZAeWAWdTWO DOTS BELOWbLETTER THIN YEHbBASELINE ROUND DOT",
  "888aARABIC RAISED ROUND DOTbLETTER NOON WITH INVERTED SMALL VcHAH WITH INVERTED SMALL V BELOW",
  "88BaARABIC LETTER TAH WITH DOT BELOWeTHREE DOTS BELOWcKEHEH WITH TWO DOTS VERTICALLY BELOW",
  "88EaARABIC VERTICAL TAIL",
  "890aARABIC POUND MARK ABOVEbPIASTRE MARK ABOVE",
  "898aARABIC SMALL HIGH WORD AL-JUZcLOW WORD ISHMAAMeIMAALAeTASHEELbMADDA WAAJIB",
  "89DaARABIC SUPERSCRIPT ALEF MOKHASSASbDOUBLED MADDAbHALF MADDA OVER MADDA",
  "8A0aARABIC LETTER BEH WITH SMALL V BELOWeHAMZA ABOVEcJEEM WITH TWO DOTS ABOVE",
  "8A3aARABIC LETTER TAH WITH TWO DOTS ABOVEcFEH WITH DOT BELOW AND THREE DOTS ABOVE",
  "8A5aARABIC LETTER QAF WITH DOT BELOWcLAM WITH DOUBLE BARcMEEM WITH THREE DOTS ABOVE",
  "8A8aARABIC LETTER YEH WITH TWO DOTS BELOW AND HAMZA ABOVEiDOT ABOVEcREH WITH LOOP",
  "8ABaARABIC LETTER WAW WITH DOT WITHINcROHINGYA YEHcLOW ALEFcDAL WITH THREE DOTS BELOW",
  "8AFaARABIC LETTER SAD WITH THREE DOTS BELOWcGAF WITH INVERTED STROKEcSTRAIGHT WAW",
  "8B2aARABIC LETTER ZAIN WITH INVERTED V ABOVEcAIN WITH THREE DOTS BELOWcKAF WITH DOT BELOW",
  "8B5aARABIC LETTER QAF WITH DOT BELOW AND NO DOTS ABOVEcBEH WITH SMALL MEEM ABOVE",
  "8B7aARABIC LETTER PEH WITH SMALL MEEM ABOVEcTEH WITH SMALL TEH ABOVEcREH WITH SMALL NOON ABOVE",
  "8BAaARABIC LETTER YEH WITH TWO DOTS BELOW AND SMALL NOON ABOVEcAFRICAN FEHdQAFdNOON",
  "8BEaARABIC LETTER PEH WITH SMALL VcTEH WITH SMALL VcTTEH WITH SMALL VcTCHEH WITH SMALL V",
  "8C2aARABIC LETTER KEHEH WITH SMALL VcGHAIN WITH THREE DOTS ABOVE",
  "8C4aARABIC LETTER AFRICAN QAF WITH THREE DOTS ABOVEcJEEM WITH THREE DOTS ABOVEgBELOW",
  "8C7aARABIC LETTER LAM WITH SMALL ARABIC LETTER TAH ABOVEcGRAFbSMALL FARSI YEHcHIGH FARSI YEH",
  "8CBaARABIC SMALL HIGH YEH BARREE WITH TWO DOTS BELOWdWORD SAHdZAHbLARGE ROUND DOT ABOVEeBELOW",
  "8D0aARABIC SUKUN BELOWbLARGE CIRCLE BELOWcROUND DOT INSIDE CIRCLE BELOWbSMALL LOW WAW",
  "8D4aARABIC SMALL HIGH WORD AR-RUBdSADdAINdQAFdNOON WITH KASRAcLOW NOON WITH KASRA",
  "8DAaARABIC SMALL HIGH WORD ATH-THALATHAeAS-SAJDAeAN-NISFeSAKTAeQIFeWAQFAdFOOTNOTE MARKER",
  "8E1aARABIC SMALL HIGH SIGN SAFHAbDISPUTED END OF AYAHbTURNED DAMMA BELOWbCURLY FATHAcDAMMAcKASRA",
  "8E7aARABIC CURLY FATHATANcDAMMATANcKASRATANbTONE ONE DOT ABOVEcTWO DOTS ABOVEcLOOP ABOVE",
  "8EDaARABIC TONE ONE DOT BELOWcTWO DOTS BELOWcLOOP BELOWbOPEN FATHATANcDAMMATANcKASRATAN",
  "8F3aARABIC SMALL HIGH WAWbFATHA WITH RINGdDOT ABOVEbKASRA WITH DOT BELOWbLEFT ARROWHEAD ABOVE",
  "8F8aARABIC RIGHT ARROWHEAD ABOVEbLEFT ARROWHEAD BELOWbRIGHT ARROWHEAD BELOW",
  "8FBaARABIC DOUBLE RIGHT ARROWHEAD ABOVEfWITH DOTbRIGHT ARROWHEAD ABOVE WITH DOTbDAMMA WITH DOT",
  "8FFaARABIC MARK SIDEWAYS NOON GHUNNAaDEVANAGARI SIGN INVERTED CANDRABINDUcCANDRABINDUcANUSVARA",
  "903aDEVANAGARI SIGN VISARGAbLETTER SHORT AcAcAAcIcIIcUcUUcVOCALIC RdLcCANDRA EcSHORT EcEcAI",
  "911aDEVANAGARI LETTER CANDRA OcSHORT OcOcAUcKAcKHAcGAcGHAcNGAcCAcCHAcJAcJHAcNYAcTTAcTTHAcDDA",
  "922aDEVANAGARI LETTER DDHAcNNAcTAcTHAcDAcDHAcNAcNNNAcPAcPHAcBAcBHAcMAcYAcRAcRRAcLAcLLAcLLLAcVA",
  "936aDEVANAGARI LETTER SHAcSSAcSAcHAbVOWEL SIGN OEdOOEbSIGN NUKTAcAVAGRAHAbVOWEL SIGN AAdIdIIdU",
  "942aDEVANAGARI VOWEL SIGN UUdVOCALIC ReRRdCANDRA EdSHORT EdEdAIdCANDRA OdSHORT OdOdAU",
  "94DaDEVANAGARI SIGN VIRAMAbVOWEL SIGN PRISHTHAMATRA EdAWbOMbSTRESS SIGN UDATTAdANUDATTA",
  "953aDEVANAGARI GRAVE ACCENTbACUTE ACCENTbVOWEL SIGN CANDRA LONG EdUEdUUEbLETTER QAcKHHAcGHHAcZA",
  "95CaDEVANAGARI LETTER DDDHAcRHAcFAcYYAcVOCALIC RRdLLbVOWEL SIGN VOCALIC LeLLbDANDAbDOUBLE DANDA",
  "966aDEVANAGARI DIGIT ZEROcONEcTWOcTHREEcFOURcFIVEcSIXcSEVENcEIGHTcNINEbABBREVIATION SIGN",
  "971aDEVANAGARI SIGN HIGH SPACING DOTbLETTER CANDRA AcOEcOOEcAWcUEcUUEcMARWARI DDAcZHAcHEAVY YA",
  "97BaDEVANAGARI LETTER GGAcJJAcGLOTTAL STOPcDDDAcBBAaBENGALI ANJIbSIGN CANDRABINDUcANUSVARA",
  "983aBENGALI SIGN VISARGA",
  "985aBENGALI LETTER AcAAcIcIIcUcUUcVOCALIC RdL",
  "98FaBENGALI LETTER EcAI",
  "993aBENGALI LETTER OcAUcKAcKHAcGAcGHAcNGAcCAcCHAcJAcJHAcNYAcTTAcTTHAcDDAcDDHAcNNAcTAcTHAcDAcDHA",
  "9A8aBENGALI LETTER NA",
  "9AAaBENGALI LETTER PAcPHAcBAcBHAcMAcYAcRA",
  "9B2aBENGALI LETTER LA",
  "9B6aBENGALI LETTER SHAcSSAcSAcHA",
  "9BCaBENGALI SIGN NUKTAcAVAGRAHAbVOWEL SIGN AAdIdIIdUdUUdVOCALIC ReRR",
  "9C7aBENGALI VOWEL SIGN EdAI",
  "9CBaBENGALI VOWEL SIGN OdAUbSIGN VIRAMAbLETTER KHANDA TA",
  "9D7aBENGALI AU LENGTH MARK",
  "9DCaBENGALI LETTER RRAcRHA",
  "9DFaBENGALI LETTER YYAcVOCALIC RRdLLbVOWEL SIGN VOCALIC LeLL",
  "9E6aBENGALI DIGIT ZEROcONEcTWOcTHREEcFOURcFIVEcSIXcSEVENcEIGHTcNINE",
  "9F0aBENGALI LETTER RA WITH MIDDLE DIAGONALeLOWER DIAGONALbRUPEE MARKcSIGNbCURRENCY NUMERATOR ONE",
  "9F5aBENGALI CURRENCY NUMERATOR TWOdTHREEdFOURdONE LESS THAN THE DENOMINATORcDENOMINATOR SIXTEEN",
  "9FAaBENGALI ISSHARbGANDA MARKbLETTER VEDIC ANUSVARAbABBREVIATION SIGNbSANDHI MARK",
  "A01aGURMUKHI SIGN ADAK BINDIcBINDIcVISARGA",
  "A05aGURMUKHI LETTER AcAAcIcIIcUcUU",
  "A0FaGURMUKHI LETTER EEcAI",
  "A13aGURMUKHI LETTER OOcAUcKAcKHAcGAcGHAcNGAcCAcCHAcJAcJHAcNYAcTTAcTTHAcDDAcDDHAcNNAcTAcTHAcDA",
  "A27aGURMUKHI LETTER DHAcNA",
  "A2AaGURMUKHI LETTER PAcPHAcBAcBHAcMAcYAcRA",
  "A32aGURMUKHI LETTER LAcLLA",
  "A35aGURMUKHI LETTER VAcSHA",
  "A38aGURMUKHI LETTER SAcHA",
  "A3CaGURMUKHI SIGN NUKTA",
  "A3EaGURMUKHI VOWEL SIGN AAdIdIIdUdUU",
  "A47aGURMUKHI VOWEL SIGN EEdAI",
  "A4BaGURMUKHI VOWEL SIGN OOdAUbSIGN VIRAMA",
  "A51aGURMUKHI SIGN UDAAT",
  "A59aGURMUKHI LETTER KHHAcGHHAcZAcRRA",
  "A5EaGURMUKHI LETTER FA",
  "A66aGURMUKHI DIGIT ZEROcONEcTWOcTHREEcFOURcFIVEcSIXcSEVENcEIGHTcNINEbTIPPIbADDAKbIRIbURA",
  "A74aGURMUKHI EK ONKARbSIGN YAKASHbABBREVIATION SIGN",
  "A81aGUJARATI SIGN CANDRABINDUcANUSVARAcVISARGA",
  "A85aGUJARATI LETTER AcAAcIcIIcUcUUcVOCALIC RdLbVOWEL CANDRA E",
  "A8FaGUJARATI LETTER EcAIbVOWEL CANDRA O",
  "A93aGUJARATI LETTER OcAUcKAcKHAcGAcGHAcNGAcCAcCHAcJAcJHAcNYAcTTAcTTHAcDDAcDDHAcNNAcTAcTHAcDAcDHA",
  "AA8aGUJARATI LETTER NA",
  "AAAaGUJARATI LETTER PAcPHAcBAcBHAcMAcYAcRA",
  "AB2aGUJARATI LETTER LAcLLA",
  "AB5aGUJARATI LETTER VAcSHAcSSAcSAcHA",
  "ABCaGUJARATI SIGN NUKTAcAVAGRAHAbVOWEL SIGN AAdIdIIdUdUUdVOCALIC ReRRdCANDRA E",
  "AC7aGUJARATI VOWEL SIGN EdAIdCANDRA O",
  "ACBaGUJARATI VOWEL SIGN OdAUbSIGN VIRAMA",
  "AD0aGUJARATI OM",
  "AE0aGUJARATI LETTER VOCALIC RRdLLbVOWEL SIGN VOCALIC LeLL",
  "AE6aGUJARATI DIGIT ZEROcONEcTWOcTHREEcFOURcFIVEcSIXcSEVENcEIGHTcNINEbABBREVIATION SIGN",
  "AF1aGUJARATI RUPEE SIGN",
  "AF9aGUJARATI LETTER ZHAbSIGN SUKUNcSHADDAcMADDAHcTHREE-DOT NUKTA ABOVEcCIRCLE NUKTA ABOVE",
  "AFFaGUJARATI SIGN TWO-CIRCLE NUKTA ABOVE",
  "B01aORIYA SIGN CANDRABINDUcANUSVARAcVISARGA",
  "B05aORIYA LETTER AcAAcIcIIcUcUUcVOCALIC RdL",
  "B0FaORIYA LETTER EcAI",
  "B13aORIYA LETTER OcAUcKAcKHAcGAcGHAcNGAcCAcCHAcJAcJHAcNYAcTTAcTTHAcDDAcDDHAcNNAcTAcTHAcDAcDHAcNA",
  "B2AaORIYA LETTER PAcPHAcBAcBHAcMAcYAcRA",
  "B32aORIYA LETTER LAcLLA",
  "B35aORIYA LETTER VAcSHAcSSAcSAcHA",
  "B3CaORIYA SIGN NUKTAcAVAGRAHAbVOWEL SIGN AAdIdIIdUdUUdVOCALIC ReRR",
  "B47aORIYA VOWEL SIGN EdAI",
  "B4BaORIYA VOWEL SIGN OdAUbSIGN VIRAMA",
  "B55aORIYA SIGN OVERLINEbAI LENGTH MARKbAU LENGTH MARK",
  "B5CaORIYA LETTER RRAcRHA",
  "B5FaORIYA LETTER YYAcVOCALIC RRdLLbVOWEL SIGN VOCALIC LeLL",
  "B66aORIYA DIGIT ZEROcONEcTWOcTHREEcFOURcFIVEcSIXcSEVENcEIGHTcNINEbISSHARbLETTER WA",
  "B72aORIYA FRACTION ONE QUARTERdHALFcTHREE QUARTERScONE SIXTEENTHdEIGHTHcTHREE SIXTEENTHS",
  "B82aTAMIL SIGN ANUSVARAcVISARGA",
  "B85aTAMIL LETTER AcAAcIcIIcUcUU",
  "B8EaTAMIL LETTER EcEEcAI",
  "B92aTAMIL LETTER OcOOcAUcKA",
  "B99aTAMIL LETTER NGAcCA",
  "B9CaTAMIL LETTER JA",
  "B9EaTAMIL LETTER NYAcTTA",
  "BA3aTAMIL LETTER NNAcTA",
  "BA8aTAMIL LETTER NAcNNNAcPA",
  "BAEaTAMIL LETTER MAcYAcRAcRRAcLAcLLAcLLLAcVAcSHAcSSAcSAcHA",
  "BBEaTAMIL VOWEL SIGN AAdIdIIdUdUU",
  "BC6aTAMIL VOWEL SIGN EdEEdAI",
  "BCAaTAMIL VOWEL SIGN OdOOdAUbSIGN VIRAMA",
  "BD0aTAMIL OM",
  "BD7aTAMIL AU LENGTH MARK",
  "BE6aTAMIL DIGIT ZEROcONEcTWOcTHREEcFOURcFIVEcSIXcSEVENcEIGHTcNINEbNUMBER TENcONE HUNDRED",
  "BF2aTAMIL NUMBER ONE THOUSANDbDAY SIGNbMONTH SIGNbYEAR SIGNbDEBIT SIGNbCREDIT SIGNbAS ABOVE SIGN",
  "BF9aTAMIL RUPEE SIGNbNUMBER SIGN",
  "C00aTELUGU SIGN COMBINING CANDRABINDU ABOVEcCANDRABINDUcANUSVARAcVISARGA",
  "C04aTELUGU SIGN COMBINING ANUSVARA ABOVEbLETTER AcAAcIcIIcUcUUcVOCALIC RdL",
  "C0EaTELUGU LETTER EcEEcAI",
  "C12aTELUGU LETTER OcOOcAUcKAcKHAcGAcGHAcNGAcCAcCHAcJAcJHAcNYAcTTAcTTHAcDDAcDDHAcNNAcTAcTHAcDA",
  "C27aTELUGU LETTER DHAcNA",
  "C2AaTELUGU LETTER PAcPHAcBAcBHAcMAcYAcRAcRRAcLAcLLAcLLLAcVAcSHAcSSAcSAcHA",
  "C3CaTELUGU SIGN NUKTAcAVAGRAHAbVOWEL SIGN AAdIdIIdUdUUdVOCALIC ReRR",
  "C46aTELUGU VOWEL SIGN EdEEdAI",
  "C4AaTELUGU VOWEL SIGN OdOOdAUbSIGN VIRAMA",
  "C55aTELUGU LENGTH MARKbAI LENGTH MARK",
  "C58aTELUGU LETTER TSAcDZAcRRRA",
  "C5DaTELUGU LETTER NAKAARA POLLU",
  "C60aTELUGU LETTER VOCALIC RRdLLbVOWEL SIGN VOCALIC LeLL",
  "C66aTELUGU DIGIT ZEROcONEcTWOcTHREEcFOURcFIVEcSIXcSEVENcEIGHTcNINE",
  "C77aTELUGU SIGN SIDDHAMbFRACTION DIGIT ZERO FOR ODD POWERS OF FOURdONE FOR ODD POWERS OF FOUR",
  "C7AaTELUGU FRACTION DIGIT TWO FOR ODD POWERS OF FOURdTHREE FOR ODD POWERS OF FOUR",
  "C7CaTELUGU FRACTION DIGIT ONE FOR EVEN POWERS OF FOURdTWO FOR EVEN POWERS OF FOUR",
  "C7EaTELUGU FRACTION DIGIT THREE FOR EVEN POWERS OF FOURbSIGN TUUMU",
  "C80aKANNADA SIGN SPACING CANDRABINDUcCANDRABINDUcANUSVARAcVISARGAcSIDDHAMbLETTER AcAAcIcIIcUcUU",
  "C8BaKANNADA LETTER VOCALIC RdL",
  "C8EaKANNADA LETTER EcEEcAI",
  "C92aKANNADA LETTER OcOOcAUcKAcKHAcGAcGHAcNGAcCAcCHAcJAcJHAcNYAcTTAcTTHAcDDAcDDHAcNNAcTAcTHAcDA",
  "CA7aKANNADA LETTER DHAcNA",
  "CAAaKANNADA LETTER PAcPHAcBAcBHAcMAcYAcRAcRRAcLAcLLA",
  "CB5aKANNADA LETTER VAcSHAcSSAcSAcHA",
  "CBCaKANNADA SIGN NUKTAcAVAGRAHAbVOWEL SIGN AAdIdIIdUdUUdVOCALIC ReRR",
  "CC6aKANNADA VOWEL SIGN EdEEdAI",
  "CCAaKANNADA VOWEL SIGN OdOOdAUbSIGN VIRAMA",
  "CD5aKANNADA LENGTH MARKbAI LENGTH MARK",
  "CDDaKANNADA LETTER NAKAARA POLLUcFA",
  "CE0aKANNADA LETTER VOCALIC RRdLLbVOWEL SIGN VOCALIC LeLL",
  "CE6aKANNADA DIGIT ZEROcONEcTWOcTHREEcFOURcFIVEcSIXcSEVENcEIGHTcNINE",
  "CF1aKANNADA SIGN JIHVAMULIYAcUPADHMANIYA",
  "D00aMALAYALAM SIGN COMBINING ANUSVARA ABOVEcCANDRABINDUcANUSVARAcVISARGAbLETTER VEDIC ANUSVARAcA",
  "D06aMALAYALAM LETTER AAcIcIIcUcUUcVOCALIC RdL",
  "D0EaMALAYALAM LETTER EcEEcAI",
  "D12aMALAYALAM LETTER OcOOcAUcKAcKHAcGAcGHAcNGAcCAcCHAcJAcJHAcNYAcTTAcTTHAcDDAcDDHAcNNAcTAcTHAcDA",
  "D27aMALAYALAM LETTER DHAcNAcNNNAcPAcPHAcBAcBHAcMAcYAcRAcRRAcLAcLLAcLLLAcVAcSHAcSSAcSAcHAcTTTA",
  "D3BaMALAYALAM SIGN VERTICAL BAR VIRAMAcCIRCULAR VIRAMAcAVAGRAHAbVOWEL SIGN AAdIdIIdUdUU",
  "D43aMALAYALAM VOWEL SIGN VOCALIC ReRR",
  "D46aMALAYALAM VOWEL SIGN EdEEdAI",
  "D4AaMALAYALAM VOWEL SIGN OdOOdAUbSIGN VIRAMAbLETTER DOT REPHbSIGN PARA",
  "D54aMALAYALAM LETTER CHILLU MdYdLLLbAU LENGTH MARKbFRACTION ONE ONE-HUNDRED-AND-SIXTIETH",
  "D59aMALAYALAM FRACTION ONE FORTIETHcTHREE EIGHTIETHScONE TWENTIETHdTENTHcTHREE TWENTIETHS",
  "D5EaMALAYALAM FRACTION ONE FIFTHbLETTER ARCHAIC IIcVOCALIC RRdLLbVOWEL SIGN VOCALIC LeLL",
  "D66aMALAYALAM DIGIT ZEROcONEcTWOcTHREEcFOURcFIVEcSIXcSEVENcEIGHTcNINEbNUMBER TENcONE HUNDRED",
  "D72aMALAYALAM NUMBER ONE THOUSANDbFRACTION ONE QUARTERdHALFcTHREE QUARTERScONE SIXTEENTHdEIGHTH",
  "D78aMALAYALAM FRACTION THREE SIXTEENTHSbDATE MARKbLETTER CHILLU NNdNdRRdLdLLdK",
  "D81aSINHALA SIGN CANDRABINDUcANUSVARAYAcVISARGAYA",
  "D85aSINHALA LETTER AYANNAcAAYANNAcAEYANNAcAEEYANNAcIYANNAcIIYANNAcUYANNAcUUYANNAcIRUYANNA",
  "D8EaSINHALA LETTER IRUUYANNAcILUYANNAcILUUYANNAcEYANNAcEEYANNAcAIYANNAcOYANNAcOOYANNAcAUYANNA",
  "D9AaSINHALA LETTER ALPAPRAANA KAYANNAcMAHAAPRAANA KAYANNAcALPAPRAANA GAYANNAcMAHAAPRAANA GAYANNA",
  "D9EaSINHALA LETTER KANTAJA NAASIKYAYAcSANYAKA GAYANNAcALPAPRAANA CAYANNAcMAHAAPRAANA CAYANNA",
  "DA2aSINHALA LETTER ALPAPRAANA JAYANNAcMAHAAPRAANA JAYANNAcTAALUJA NAASIKYAYA",
  "DA5aSINHALA LETTER TAALUJA SANYOOGA NAAKSIKYAYAcSANYAKA JAYANNAcALPAPRAANA TTAYANNA",
  "DA8aSINHALA LETTER MAHAAPRAANA TTAYANNAcALPAPRAANA DDAYANNAcMAHAAPRAANA DDAYANNA",
  "DABaSINHALA LETTER MUURDHAJA NAYANNAcSANYAKA DDAYANNAcALPAPRAANA TAYANNAcMAHAAPRAANA TAYANNA",
  "DAFaSINHALA LETTER ALPAPRAANA DAYANNAcMAHAAPRAANA DAYANNAcDANTAJA NAYANNA",
  "DB3aSINHALA LETTER SANYAKA DAYANNAcALPAPRAANA PAYANNAcMAHAAPRAANA PAYANNAcALPAPRAANA BAYANNA",
  "DB7aSINHALA LETTER MAHAAPRAANA BAYANNAcMAYANNAcAMBA BAYANNAcYAYANNAcRAYANNA",
  "DBDaSINHALA LETTER DANTAJA LAYANNA",
  "DC0aSINHALA LETTER VAYANNAcTAALUJA SAYANNAcMUURDHAJA SAYANNAcDANTAJA SAYANNAcHAYANNA",
  "DC5aSINHALA LETTER MUURDHAJA LAYANNAcFAYANNA",
  "DCAaSINHALA SIGN AL-LAKUNA",
  "DCFaSINHALA VOWEL SIGN AELA-PILLAdKETTI AEDA-PILLAdDIGA AEDA-PILLAdKETTI IS-PILLAdDIGA IS-PILLA",
  "DD4aSINHALA VOWEL SIGN KETTI PAA-PILLA",
  "DD6aSINHALA VOWEL SIGN DIGA PAA-PILLA",
  "DD8aSINHALA VOWEL SIGN GAETTA-PILLAdKOMBUVAdDIGA KOMBUVAdKOMBU DEKAdKOMBUVA HAA AELA-PILLA",
  "DDDaSINHALA VOWEL SIGN KOMBUVA HAA DIGA AELA-PILLAfGAYANUKITTAdGAYANUKITTA",
  "DE6aSINHALA LITH DIGIT ZEROdONEdTWOdTHREEdFOURdFIVEdSIXdSEVENdEIGHTdNINE",
  "DF2aSINHALA VOWEL SIGN DIGA GAETTA-PILLAeGAYANUKITTAbPUNCTUATION KUNDDALIYA",
  "E01aTHAI CHARACTER KO KAIcKHO KHAIdKHUATdKHWAIdKHONdRAKHANGcNGO NGUcCHO CHANdCHINGdCHANGcSO SO",
  "E0CaTHAI CHARACTER CHO CHOEcYO YINGcDO CHADAcTO PATAKcTHO THANdNANGMONTHOdPHUTHAOcNO NENcDO DEK",
  "E15aTHAI CHARACTER TO TAOcTHO THUNGdTHAHANdTHONGcNO NUcBO BAIMAIcPO PLAcPHO PHUNGcFO FAcPHO PHAN",
  "E1FaTHAI CHARACTER FO FANcPHO SAMPHAOcMO MAcYO YAKcRO RUAcRUcLO LINGcLUcWO WAENcSO SALAdRUSIdSUA",
  "E2BaTHAI CHARACTER HO HIPcLO CHULAcO ANGcHO NOKHUKcPAIYANNOIcSARA AcMAI HAN-AKATcSARA AAdAMdIdII",
  "E36aTHAI CHARACTER SARA UEdUEEdUdUUcPHINTHU",
  "E3FaTHAI CURRENCY SYMBOL BAHTbCHARACTER SARA EdAEdOdAI MAIMUANeMAIMALAIcLAKKHANGYAOcMAIYAMOK",
  "E47aTHAI CHARACTER MAITAIKHUcMAI EKdTHOdTRIdCHATTAWAcTHANTHAKHATcNIKHAHITcYAMAKKANcFONGMAN",
  "E50aTHAI DIGIT ZEROcONEcTWOcTHREEcFOURcFIVEcSIXcSEVENcEIGHTcNINEbCHARACTER ANGKHANKHUcKHOMUT",
  "E81aLAO LETTER KOcKHO SUNG",
  "E84aLAO LETTER KHO TAM",
  "E86aLAO LETTER PALI GHAcNGOcCOcPALI CHAcSO TAM",
  "E8CaLAO LETTER PALI JHAcNYOcPALI NYAdTTAdTTHAdDDAdDDHAdNNAcDOcTOcTHO SUNGdTAMcPALI DHAcNOcBOcPO",
  "E9CaLAO LETTER PHO SUNGcFO TAMcPHO TAMcFO SUNGcPALI BHAcMOcYOcLO LING",
  "EA5aLAO LETTER LO LOOT",
  "EA7aLAO LETTER WOcSANSKRIT SHAdSSAcSO SUNGcHO SUNGcPALI LLAcOcHO TAMbELLIPSISbVOWEL SIGN A",
  "EB1aLAO VOWEL SIGN MAI KANdAAdAMdIdIIdYdYYdUdUUbSIGN PALI VIRAMAbVOWEL SIGN MAI KON",
  "EBCaLAO SEMIVOWEL SIGN LOdNYO",
  "EC0aLAO VOWEL SIGN EdEIdOdAYdAI",
  "EC6aLAO KO LA",
  "EC8aLAO TONE MAI EKdTHOdTIdCATAWAbCANCELLATION MARKbNIGGAHITA",
  "ED0aLAO DIGIT ZEROcONEcTWOcTHREEcFOURcFIVEcSIXcSEVENcEIGHTcNINE",
  "EDCaLAO HO NOcMObLETTER KHMU GOdNYO",
  "F00aTIBETAN SYLLABLE OMbMARK GTER YIG MGO TRUNCATED Af-UM RNAM BCAD MAgGTER TSHEG MA",
  "F04aTIBETAN MARK INITIAL YIG MGO MDUN MAcCLOSING YIG MGO SGAB MAcCARET YIG MGO PHUR SHAD MA",
  "F07aTIBETAN MARK YIG MGO TSHEG SHAD MAcSBRUL SHADcBSKUR YIG MGOcBKA- SHOG YIG MGO",
  "F0BaTIBETAN MARK INTERSYLLABIC TSHEGcDELIMITER TSHEG BSTARcSHADcNYIS SHADcTSHEG SHAD",
  "F10aTIBETAN MARK NYIS TSHEG SHADcRIN CHEN SPUNGS SHADcRGYA GRAM SHAD",
  "F13aTIBETAN MARK CARET -DZUD RTAGS ME LONG CANcGTER TSHEGbLOGOTYPE SIGN CHAD RTAGSdLHAG RTAGS",
  "F17aTIBETAN ASTROLOGICAL SIGN SGRA GCAN -CHAR RTAGSd-KHYUD PAdSDONG TSHUGSbSIGN RDEL DKAR GCIG",
  "F1BaTIBETAN SIGN RDEL DKAR GNYISeGSUMdNAG GCIGeGNYISdDKAR RDEL NAGbDIGIT ZEROcONEcTWOcTHREEcFOUR",
  "F25aTIBETAN DIGIT FIVEcSIXcSEVENcEIGHTcNINEcHALF ONEdTWOdTHREEdFOURdFIVEdSIXdSEVENdEIGHTdNINE",
  "F33aTIBETAN DIGIT HALF ZERObMARK BSDUS RTAGScNGAS BZUNG NYI ZLAcCARET -DZUD RTAGS BZHI MIG CAN",
  "F37aTIBETAN MARK NGAS BZUNG SGOR RTAGScCHE MGOcTSA -PHRUcGUG RTAGS GYONeGYAScANG KHANG GYONeGYAS",
  "F3EaTIBETAN SIGN YAR TSHEScMAR TSHESbLETTER KAcKHAcGAcGHAcNGAcCAcCHAcJA",
  "F49aTIBETAN LETTER NYAcTTAcTTHAcDDAcDDHAcNNAcTAcTHAcDAcDHAcNAcPAcPHAcBAcBHAcMAcTSAcTSHAcDZAcDZHA",
  "F5DaTIBETAN LETTER WAcZHAcZAc-AcYAcRAcLAcSHAcSSAcSAcHAcAcKSSAcFIXED-FORM RAcKKAcRRA",
  "F71aTIBETAN VOWEL SIGN AAdIdIIdUdUUdVOCALIC ReRReLeLLdEdEEdOdOObSIGN RJES SU NGA ROcRNAM BCAD",
  "F80aTIBETAN VOWEL SIGN REVERSED IeIIbSIGN NYI ZLA NAA DAcSNA LDANbMARK HALANTAcPALUTA",
  "F86aTIBETAN SIGN LCI RTAGScYANG RTAGScLCE TSA CANcMCHU CANcGRU CAN RGYINGSdMED RGYINGS",
  "F8CaTIBETAN SIGN INVERTED MCHU CANbSUBJOINED SIGN LCE TSA CANdMCHU CANdINVERTED MCHU CAN",
  "F90aTIBETAN SUBJOINED LETTER KAdKHAdGAdGHAdNGAdCAdCHAdJA",
  "F99aTIBETAN SUBJOINED LETTER NYAdTTAdTTHAdDDAdDDHAdNNAdTAdTHAdDAdDHAdNAdPAdPHAdBAdBHAdMAdTSA",
  "FAAaTIBETAN SUBJOINED LETTER TSHAdDZAdDZHAdWAdZHAdZAd-AdYAdRAdLAdSHAdSSAdSAdHAdAdKSSA",
  "FBAaTIBETAN SUBJOINED LETTER FIXED-FORM WAeYAeRA",
  "FBEaTIBETAN KU RU KHAeBZHI MIG CANbCANTILLATION SIGN HEAVY BEATdLIGHT BEATdCANG TE-UdSBUB -CHAL",
  "FC4aTIBETAN SYMBOL DRIL BUcRDO RJEcPADMA GDANcRDO RJE RGYA GRAMcPHUR PAcNOR BUeNYIS -KHYIL",
  "FCBaTIBETAN SYMBOL NOR BU GSUM -KHYILeBZHI -KHYIL",
  "FCEaTIBETAN SIGN RDEL NAG RDEL DKAReGSUMbMARK BSKA- SHOG GI MGO RGYANcMNYAM YIG GI MGO RGYAN",
  "FD2aTIBETAN MARK NYIS TSHEGcINITIAL BRDA RNYING YIG MGO MDUN MA",
  "FD4aTIBETAN MARK CLOSING BRDA RNYING YIG MGO SGAB MAaRIGHT-FACING SVASTI SIGN",
  "FD6aLEFT-FACING SVASTI SIGNaRIGHT-FACING SVASTI SIGN WITH DOTSaLEFT-FACING SVASTI SIGN WITH DOTS",
  "FD9aTIBETAN MARK LEADING MCHAN RTAGScTRAILING MCHAN RTAGS",
  "1000aMYANMAR LETTER KAcKHAcGAcGHAcNGAcCAcCHAcJAcJHAcNYAcNNYAcTTAcTTHAcDDAcDDHAcNNAcTAcTHAcDAcDHA",
  "1014aMYANMAR LETTER NAcPAcPHAcBAcBHAcMAcYAcRAcLAcWAcSAcHAcLLAcAcSHAN AcIcIIcUcUUcEcMON EcOcAU",
  "102BaMYANMAR VOWEL SIGN TALL AAdAAdIdIIdUdUUdEdAIdMON IIeOdE ABOVEbSIGN ANUSVARAcDOT BELOW",
  "1038aMYANMAR SIGN VISARGAcVIRAMAcASATbCONSONANT SIGN MEDIAL YAeRAeWAeHAbLETTER GREAT SA",
  "1040aMYANMAR DIGIT ZEROcONEcTWOcTHREEcFOURcFIVEcSIXcSEVENcEIGHTcNINEbSIGN LITTLE SECTIONcSECTION",
  "104CaMYANMAR SYMBOL LOCATIVEcCOMPLETEDcAFOREMENTIONEDcGENITIVEbLETTER SHAcSSAcVOCALIC RdRRdLdLL",
  "1056aMYANMAR VOWEL SIGN VOCALIC ReRReLeLLbLETTER MON NGAdJHAdBBAdBBE",
  "105EaMYANMAR CONSONANT SIGN MON MEDIAL NAfMAfLAbLETTER SGAW KAREN SHAbVOWEL SIGN SGAW KAREN EU",
  "1063aMYANMAR TONE MARK SGAW KAREN HATHIfKE PHObLETTER WESTERN PWO KAREN THAfPWA",
  "1067aMYANMAR VOWEL SIGN WESTERN PWO KAREN EUgUEbSIGN WESTERN PWO KAREN TONE-1fTONE-2fTONE-3",
  "106CaMYANMAR SIGN WESTERN PWO KAREN TONE-4fTONE-5bLETTER EASTERN PWO KAREN NNAfYWAfGHWA",
  "1071aMYANMAR VOWEL SIGN GEBA KAREN IdKAYAH OEeUeEEbLETTER SHAN KAdKHAdGAdCAdZAdNYAdDAdNAdPHAdFA",
  "107FaMYANMAR LETTER SHAN BAdTHAdHAbCONSONANT SIGN SHAN MEDIAL WAbVOWEL SIGN SHAN AAeEfABOVE",
  "1086aMYANMAR VOWEL SIGN SHAN FINAL YbSIGN SHAN TONE-2dTONE-3dTONE-5dTONE-6dCOUNCIL TONE-2eTONE-3",
  "108DaMYANMAR SIGN SHAN COUNCIL EMPHATIC TONEbLETTER RUMAI PALAUNG FAbSIGN RUMAI PALAUNG TONE-5",
  "1090aMYANMAR SHAN DIGIT ZEROdONEdTWOdTHREEdFOURdFIVEdSIXdSEVENdEIGHTdNINEbSIGN KHAMTI TONE-1",
  "109BaMYANMAR SIGN KHAMTI TONE-3bVOWEL SIGN AITON AeAIbSYMBOL SHAN ONEdEXCLAMATION",
  "10A0aGEORGIAN CAPITAL LETTER ANdBANdGANdDONdENdVINdZENdTANdINdKANdLASdMANdNARdONdPARdZHARdRAE",
  "10B1aGEORGIAN CAPITAL LETTER SANdTARdUNdPHARdKHARdGHANdQARdSHINdCHINdCANdJILdCILdCHARdXANdJHAN",
  "10C0aGEORGIAN CAPITAL LETTER HAEdHEdHIEdWEdHARdHOE",
  "10C7aGEORGIAN CAPITAL LETTER YN",
  "10CDaGEORGIAN CAPITAL LETTER AEN",
  "10D0aGEORGIAN LETTER ANcBANcGANcDONcENcVINcZENcTANcINcKANcLAScMANcNARcONcPARcZHARcRAEcSANcTARcUN",
  "10E4aGEORGIAN LETTER PHARcKHARcGHANcQARcSHINcCHINcCANcJILcCILcCHARcXANcJHANcHAEcHEcHIEcWEcHAR",
  "10F5aGEORGIAN LETTER HOEcFIcYNcELIFIcTURNED GANcAINbPARAGRAPH SEPARATOR",
  "10FCaMODIFIER LETTER GEORGIAN NARaGEORGIAN LETTER AENcHARD SIGNcLABIAL SIGN",
  "1100aHANGUL CHOSEONG KIYEOKcSSANGKIYEOKcNIEUNcTIKEUTcSSANGTIKEUTcRIEULcMIEUMcPIEUPcSSANGPIEUP",
  "1109aHANGUL CHOSEONG SIOScSSANGSIOScIEUNGcCIEUCcSSANGCIEUCcCHIEUCHcKHIEUKHcTHIEUTHcPHIEUPHcHIEUH",
  "1113aHANGUL CHOSEONG NIEUN-KIYEOKcSSANGNIEUNcNIEUN-TIKEUTcNIEUN-PIEUPcTIKEUT-KIYEOKcRIEUL-NIEUN",
  "1119aHANGUL CHOSEONG SSANGRIEULcRIEUL-HIEUHcKAPYEOUNRIEULcMIEUM-PIEUPcKAPYEOUNMIEUMcPIEUP-KIYEOK",
  "111FaHANGUL CHOSEONG PIEUP-NIEUNcPIEUP-TIKEUTcPIEUP-SIOScPIEUP-SIOS-KIYEOKcPIEUP-SIOS-TIKEUT",
  "1124aHANGUL CHOSEONG PIEUP-SIOS-PIEUPcPIEUP-SSANGSIOScPIEUP-SIOS-CIEUCcPIEUP-CIEUCcPIEUP-CHIEUCH",
  "1129aHANGUL CHOSEONG PIEUP-THIEUTHcPIEUP-PHIEUPHcKAPYEOUNPIEUPcKAPYEOUNSSANGPIEUPcSIOS-KIYEOK",
  "112EaHANGUL CHOSEONG SIOS-NIEUNcSIOS-TIKEUTcSIOS-RIEULcSIOS-MIEUMcSIOS-PIEUPcSIOS-PIEUP-KIYEOK",
  "1134aHANGUL CHOSEONG SIOS-SSANGSIOScSIOS-IEUNGcSIOS-CIEUCcSIOS-CHIEUCHcSIOS-KHIEUKHcSIOS-THIEUTH",
  "113AaHANGUL CHOSEONG SIOS-PHIEUPHcSIOS-HIEUHcCHITUEUMSIOScCHITUEUMSSANGSIOScCEONGCHIEUMSIOS",
  "113FaHANGUL CHOSEONG CEONGCHIEUMSSANGSIOScPANSIOScIEUNG-KIYEOKcIEUNG-TIKEUTcIEUNG-MIEUM",
  "1144aHANGUL CHOSEONG IEUNG-PIEUPcIEUNG-SIOScIEUNG-PANSIOScSSANGIEUNGcIEUNG-CIEUCcIEUNG-CHIEUCH",
  "114AaHANGUL CHOSEONG IEUNG-THIEUTHcIEUNG-PHIEUPHcYESIEUNGcCIEUC-IEUNGcCHITUEUMCIEUC",
  "114FaHANGUL CHOSEONG CHITUEUMSSANGCIEUCcCEONGCHIEUMCIEUCcCEONGCHIEUMSSANGCIEUCcCHIEUCH-KHIEUKH",
  "1153aHANGUL CHOSEONG CHIEUCH-HIEUHcCHITUEUMCHIEUCHcCEONGCHIEUMCHIEUCHcPHIEUPH-PIEUP",
  "1157aHANGUL CHOSEONG KAPYEOUNPHIEUPHcSSANGHIEUHcYEORINHIEUHcKIYEOK-TIKEUTcNIEUN-SIOScNIEUN-CIEUC",
  "115DaHANGUL CHOSEONG NIEUN-HIEUHcTIKEUT-RIEULcFILLERbJUNGSEONG FILLERcAcAEcYAcYAEcEOcEcYEOcYEcO",
  "116AaHANGUL JUNGSEONG WAcWAEcOEcYOcUcWEOcWEcWIcYUcEUcYIcIcA-OcA-UcYA-OcYA-YOcEO-OcEO-UcEO-EU",
  "117DaHANGUL JUNGSEONG YEO-OcYEO-UcO-EOcO-EcO-YEcO-OcO-UcYO-YAcYO-YAEcYO-YEOcYO-OcYO-IcU-AcU-AE",
  "118BaHANGUL JUNGSEONG U-EO-EUcU-YEcU-UcYU-AcYU-EOcYU-EcYU-YEOcYU-YEcYU-UcYU-IcEU-UcEU-EUcYI-U",
  "1198aHANGUL JUNGSEONG I-AcI-YAcI-OcI-UcI-EUcI-ARAEAcARAEAcARAEA-EOcARAEA-UcARAEA-IcSSANGARAEA",
  "11A3aHANGUL JUNGSEONG A-EUcYA-UcYEO-YAcO-YAcO-YAEbJONGSEONG KIYEOKcSSANGKIYEOKcKIYEOK-SIOScNIEUN",
  "11ACaHANGUL JONGSEONG NIEUN-CIEUCcNIEUN-HIEUHcTIKEUTcRIEULcRIEUL-KIYEOKcRIEUL-MIEUMcRIEUL-PIEUP",
  "11B3aHANGUL JONGSEONG RIEUL-SIOScRIEUL-THIEUTHcRIEUL-PHIEUPHcRIEUL-HIEUHcMIEUMcPIEUPcPIEUP-SIOS",
  "11BAaHANGUL JONGSEONG SIOScSSANGSIOScIEUNGcCIEUCcCHIEUCHcKHIEUKHcTHIEUTHcPHIEUPHcHIEUH",
  "11C3aHANGUL JONGSEONG KIYEOK-RIEULcKIYEOK-SIOS-KIYEOKcNIEUN-KIYEOKcNIEUN-TIKEUTcNIEUN-SIOS",
  "11C8aHANGUL JONGSEONG NIEUN-PANSIOScNIEUN-THIEUTHcTIKEUT-KIYEOKcTIKEUT-RIEULcRIEUL-KIYEOK-SIOS",
  "11CDaHANGUL JONGSEONG RIEUL-NIEUNcRIEUL-TIKEUTcRIEUL-TIKEUT-HIEUHcSSANGRIEULcRIEUL-MIEUM-KIYEOK",
  "11D2aHANGUL JONGSEONG RIEUL-MIEUM-SIOScRIEUL-PIEUP-SIOScRIEUL-PIEUP-HIEUHcRIEUL-KAPYEOUNPIEUP",
  "11D6aHANGUL JONGSEONG RIEUL-SSANGSIOScRIEUL-PANSIOScRIEUL-KHIEUKHcRIEUL-YEORINHIEUHcMIEUM-KIYEOK",
  "11DBaHANGUL JONGSEONG MIEUM-RIEULcMIEUM-PIEUPcMIEUM-SIOScMIEUM-SSANGSIOScMIEUM-PANSIOS",
  "11E0aHANGUL JONGSEONG MIEUM-CHIEUCHcMIEUM-HIEUHcKAPYEOUNMIEUMcPIEUP-RIEULcPIEUP-PHIEUPH",
  "11E5aHANGUL JONGSEONG PIEUP-HIEUHcKAPYEOUNPIEUPcSIOS-KIYEOKcSIOS-TIKEUTcSIOS-RIEULcSIOS-PIEUP",
  "11EBaHANGUL JONGSEONG PANSIOScIEUNG-KIYEOKcIEUNG-SSANGKIYEOKcSSANGIEUNGcIEUNG-KHIEUKHcYESIEUNG",
  "11F1aHANGUL JONGSEONG YESIEUNG-SIOScYESIEUNG-PANSIOScPHIEUPH-PIEUPcKAPYEOUNPHIEUPHcHIEUH-NIEUN",
  "11F6aHANGUL JONGSEONG HIEUH-RIEULcHIEUH-MIEUMcHIEUH-PIEUPcYEORINHIEUHcKIYEOK-NIEUNcKIYEOK-PIEUP",
  "11FCaHANGUL JONGSEONG KIYEOK-CHIEUCHcKIYEOK-KHIEUKHcKIYEOK-HIEUHcSSANGNIEUNaETHIOPIC SYLLABLE HA",
  "1201aETHIOPIC SYLLABLE HUcHIcHAAcHEEcHEcHOcHOAcLAcLUcLIcLAAcLEEcLEcLOcLWAcHHAcHHUcHHIcHHAAcHHEE",
  "1215aETHIOPIC SYLLABLE HHEcHHOcHHWAcMAcMUcMIcMAAcMEEcMEcMOcMWAcSZAcSZUcSZIcSZAAcSZEEcSZEcSZO",
  "1227aETHIOPIC SYLLABLE SZWAcRAcRUcRIcRAAcREEcREcROcRWAcSAcSUcSIcSAAcSEEcSEcSOcSWAcSHAcSHUcSHI",
  "123BaETHIOPIC SYLLABLE SHAAcSHEEcSHEcSHOcSHWAcQAcQUcQIcQAAcQEEcQEcQOcQOAcQWA",
  "124AaETHIOPIC SYLLABLE QWIcQWAAcQWEEcQWE",
  "1250aETHIOPIC SYLLABLE QHAcQHUcQHIcQHAAcQHEEcQHEcQHO",
  "1258aETHIOPIC SYLLABLE QHWA",
  "125AaETHIOPIC SYLLABLE QHWIcQHWAAcQHWEEcQHWE",
  "1260aETHIOPIC SYLLABLE BAcBUcBIcBAAcBEEcBEcBOcBWAcVAcVUcVIcVAAcVEEcVEcVOcVWAcTAcTUcTIcTAAcTEEcTE",
  "1276aETHIOPIC SYLLABLE TOcTWAcCAcCUcCIcCAAcCEEcCEcCOcCWAcXAcXUcXIcXAAcXEEcXEcXOcXOAcXWA",
  "128AaETHIOPIC SYLLABLE XWIcXWAAcXWEEcXWE",
  "1290aETHIOPIC SYLLABLE NAcNUcNIcNAAcNEEcNEcNOcNWAcNYAcNYUcNYIcNYAAcNYEEcNYEcNYOcNYWAcGLOTTAL AdU",
  "12A2aETHIOPIC SYLLABLE GLOTTAL IdAAdEEdEdOdWAcKAcKUcKIcKAAcKEEcKEcKOcKOAcKWA",
  "12B2aETHIOPIC SYLLABLE KWIcKWAAcKWEEcKWE",
  "12B8aETHIOPIC SYLLABLE KXAcKXUcKXIcKXAAcKXEEcKXEcKXO",
  "12C0aETHIOPIC SYLLABLE KXWA",
  "12C2aETHIOPIC SYLLABLE KXWIcKXWAAcKXWEEcKXWE",
  "12C8aETHIOPIC SYLLABLE WAcWUcWIcWAAcWEEcWEcWOcWOAcPHARYNGEAL AdUdIdAAdEEdEdO",
  "12D8aETHIOPIC SYLLABLE ZAcZUcZIcZAAcZEEcZEcZOcZWAcZHAcZHUcZHIcZHAAcZHEEcZHEcZHOcZHWAcYAcYUcYI",
  "12EBaETHIOPIC SYLLABLE YAAcYEEcYEcYOcYOAcDAcDUcDIcDAAcDEEcDEcDOcDWAcDDAcDDUcDDIcDDAAcDDEEcDDE",
  "12FEaETHIOPIC SYLLABLE DDOcDDWAcJAcJUcJIcJAAcJEEcJEcJOcJWAcGAcGUcGIcGAAcGEEcGEcGOcGOAcGWA",
  "1312aETHIOPIC SYLLABLE GWIcGWAAcGWEEcGWE",
  "1318aETHIOPIC SYLLABLE GGAcGGUcGGIcGGAAcGGEEcGGEcGGOcGGWAAcTHAcTHUcTHIcTHAAcTHEEcTHEcTHOcTHWA",
  "1328aETHIOPIC SYLLABLE CHAcCHUcCHIcCHAAcCHEEcCHEcCHOcCHWAcPHAcPHUcPHIcPHAAcPHEEcPHEcPHOcPHWAcTSA",
  "1339aETHIOPIC SYLLABLE TSUcTSIcTSAAcTSEEcTSEcTSOcTSWAcTZAcTZUcTZIcTZAAcTZEEcTZEcTZOcTZOAcFAcFU",
  "134AaETHIOPIC SYLLABLE FIcFAAcFEEcFEcFOcFWAcPAcPUcPIcPAAcPEEcPEcPOcPWAcRYAcMYAcFYA"]

/-- More rows of names. -/
def nameRowsC : List String := [
  "135DaETHIOPIC COMBINING GEMINATION AND VOWEL LENGTH MARKcVOWEL LENGTH MARKcGEMINATION MARK",
  "1360aETHIOPIC SECTION MARKbWORDSPACEbFULL STOPbCOMMAbSEMICOLONbCOLONbPREFACE COLONbQUESTION MARK",
  "1368aETHIOPIC PARAGRAPH SEPARATORbDIGIT ONEcTWOcTHREEcFOURcFIVEcSIXcSEVENcEIGHTcNINEbNUMBER TEN",
  "1373aETHIOPIC NUMBER TWENTYcTHIRTYcFORTYcFIFTYcSIXTYcSEVENTYcEIGHTYcNINETYcHUNDREDcTEN THOUSAND",
  "1380aETHIOPIC SYLLABLE SEBATBEIT MWAcMWIcMWEEcMWEcSEBATBEIT BWAcBWIcBWEEcBWEcSEBATBEIT FWAcFWI",
  "138AaETHIOPIC SYLLABLE FWEEcFWEcSEBATBEIT PWAcPWIcPWEEcPWEbTONAL MARK YIZETdDERETdRIKRIK",
  "1393aETHIOPIC TONAL MARK SHORT RIKRIKdDIFATdKENATdCHIRETdHIDETdDERET-HIDETdKURT",
  "13A0aCHEROKEE LETTER AcEcIcOcUcVcGAcKAcGEcGIcGOcGUcGVcHAcHEcHIcHOcHUcHVcLAcLEcLIcLOcLUcLVcMAcME",
  "13BBaCHEROKEE LETTER MIcMOcMUcNAcHNAcNAHcNEcNIcNOcNUcNVcQUAcQUEcQUIcQUOcQUUcQUVcSAcScSEcSIcSOcSU",
  "13D2aCHEROKEE LETTER SVcDAcTAcDEcTEcDIcTIcDOcDUcDVcDLAcTLAcTLEcTLIcTLOcTLUcTLVcTSAcTSEcTSIcTSO",
  "13E7aCHEROKEE LETTER TSUcTSVcWAcWEcWIcWOcWUcWVcYAcYEcYIcYOcYUcYVcMV",
  "13F8aCHEROKEE SMALL LETTER YEdYIdYOdYUdYVdMV",
  "1400aCANADIAN SYLLABICS HYPHENcEcAAIcIcIIcOcOOcY-CREE OOcCARRIER EEdIcAcAAcWEcWEST-CREE WEcWI",
  "140FaCANADIAN SYLLABICS WEST-CREE WIcWIIcWEST-CREE WIIcWOcWEST-CREE WOcWOOcWEST-CREE WOO",
  "1416aCANADIAN SYLLABICS NASKAPI WOOcWAcWEST-CREE WAcWAAcWEST-CREE WAAcNASKAPI WAAcAIcY-CREE W",
  "141EaCANADIAN SYLLABICS GLOTTAL STOPcFINAL ACUTEdGRAVEdBOTTOM HALF RINGdTOP HALF RING",
  "1423aCANADIAN SYLLABICS FINAL RIGHT HALF RINGdRINGdDOUBLE ACUTEeSHORT VERTICAL STROKES",
  "1427aCANADIAN SYLLABICS FINAL MIDDLE DOTdSHORT HORIZONTAL STROKEdPLUSdDOWN TACKcENcINcONcANcPE",
  "1430aCANADIAN SYLLABICS PAAIcPIcPIIcPOcPOOcY-CREE POOcCARRIER HEEdHIcPAcPAAcPWEcWEST-CREE PWE",
  "143CaCANADIAN SYLLABICS PWIcWEST-CREE PWIcPWIIcWEST-CREE PWIIcPWOcWEST-CREE PWOcPWOO",
  "1443aCANADIAN SYLLABICS WEST-CREE PWOOcPWAcWEST-CREE PWAcPWAAcWEST-CREE PWAAcY-CREE PWAAcP",
  "144AaCANADIAN SYLLABICS WEST-CREE PcCARRIER HcTEcTAAIcTIcTIIcTOcTOOcY-CREE TOOcCARRIER DEEdDIcTA",
  "1456aCANADIAN SYLLABICS TAAcTWEcWEST-CREE TWEcTWIcWEST-CREE TWIcTWIIcWEST-CREE TWIIcTWO",
  "145EaCANADIAN SYLLABICS WEST-CREE TWOcTWOOcWEST-CREE TWOOcTWAcWEST-CREE TWAcTWAAcWEST-CREE TWAA",
  "1465aCANADIAN SYLLABICS NASKAPI TWAAcTcTTEcTTIcTTOcTTAcKEcKAAIcKIcKIIcKOcKOOcY-CREE KOOcKAcKAA",
  "1474aCANADIAN SYLLABICS KWEcWEST-CREE KWEcKWIcWEST-CREE KWIcKWIIcWEST-CREE KWIIcKWO",
  "147BaCANADIAN SYLLABICS WEST-CREE KWOcKWOOcWEST-CREE KWOOcKWAcWEST-CREE KWAcKWAAcWEST-CREE KWAA",
  "1482aCANADIAN SYLLABICS NASKAPI KWAAcKcKWcSOUTH-SLAVEY KEHdKIHdKOHdKAHcCEcCAAIcCIcCIIcCOcCOO",
  "148FaCANADIAN SYLLABICS Y-CREE COOcCAcCAAcCWEcWEST-CREE CWEcCWIcWEST-CREE CWIcCWII",
  "1497aCANADIAN SYLLABICS WEST-CREE CWIIcCWOcWEST-CREE CWOcCWOOcWEST-CREE CWOOcCWAcWEST-CREE CWA",
  "149EaCANADIAN SYLLABICS CWAAcWEST-CREE CWAAcNASKAPI CWAAcCcSAYISI THcMEcMAAIcMIcMIIcMOcMOO",
  "14A9aCANADIAN SYLLABICS Y-CREE MOOcMAcMAAcMWEcWEST-CREE MWEcMWIcWEST-CREE MWIcMWII",
  "14B1aCANADIAN SYLLABICS WEST-CREE MWIIcMWOcWEST-CREE MWOcMWOOcWEST-CREE MWOOcMWAcWEST-CREE MWA",
  "14B8aCANADIAN SYLLABICS MWAAcWEST-CREE MWAAcNASKAPI MWAAcMcWEST-CREE McMHcATHAPASCAN McSAYISI M",
  "14C0aCANADIAN SYLLABICS NEcNAAIcNIcNIIcNOcNOOcY-CREE NOOcNAcNAAcNWEcWEST-CREE NWEcNWA",
  "14CCaCANADIAN SYLLABICS WEST-CREE NWAcNWAAcWEST-CREE NWAAcNASKAPI NWAAcNcCARRIER NGcNHcLEcLAAI",
  "14D5aCANADIAN SYLLABICS LIcLIIcLOcLOOcY-CREE LOOcLAcLAAcLWEcWEST-CREE LWEcLWIcWEST-CREE LWIcLWII",
  "14E1aCANADIAN SYLLABICS WEST-CREE LWIIcLWOcWEST-CREE LWOcLWOOcWEST-CREE LWOOcLWAcWEST-CREE LWA",
  "14E8aCANADIAN SYLLABICS LWAAcWEST-CREE LWAAcLcWEST-CREE LcMEDIAL LcSEcSAAIcSIcSIIcSOcSOO",
  "14F3aCANADIAN SYLLABICS Y-CREE SOOcSAcSAAcSWEcWEST-CREE SWEcSWIcWEST-CREE SWIcSWII",
  "14FBaCANADIAN SYLLABICS WEST-CREE SWIIcSWOcWEST-CREE SWOcSWOOcWEST-CREE SWOOcSWAcWEST-CREE SWA",
  "1502aCANADIAN SYLLABICS SWAAcWEST-CREE SWAAcNASKAPI SWAAcScATHAPASCAN ScSWcBLACKFOOT S",
  "1509aCANADIAN SYLLABICS MOOSE-CREE SKcNASKAPI SKWdS-WdSPWAdSTWAdSKWAdSCWAcSHEcSHIcSHIIcSHOcSHOO",
  "1515aCANADIAN SYLLABICS SHAcSHAAcSHWEcWEST-CREE SHWEcSHWIcWEST-CREE SHWIcSHWIIcWEST-CREE SHWII",
  "151DaCANADIAN SYLLABICS SHWOcWEST-CREE SHWOcSHWOOcWEST-CREE SHWOOcSHWAcWEST-CREE SHWAcSHWAA",
  "1524aCANADIAN SYLLABICS WEST-CREE SHWAAcSHcYEcYAAIcYIcYIIcYOcYOOcY-CREE YOOcYAcYAAcYWE",
  "1530aCANADIAN SYLLABICS WEST-CREE YWEcYWIcWEST-CREE YWIcYWIIcWEST-CREE YWIIcYWOcWEST-CREE YWO",
  "1537aCANADIAN SYLLABICS YWOOcWEST-CREE YWOOcYWAcWEST-CREE YWAcYWAAcWEST-CREE YWAAcNASKAPI YWAAcY",
  "153FaCANADIAN SYLLABICS BIBLE-CREE YcWEST-CREE YcSAYISI YIcREcR-CREE REcWEST-CREE LEcRAAIcRIcRII",
  "1548aCANADIAN SYLLABICS ROcROOcWEST-CREE LOcRAcRAAcWEST-CREE LAcRWAAcWEST-CREE RWAAcR",
  "1551aCANADIAN SYLLABICS WEST-CREE RcMEDIAL RcFEcFAAIcFIcFIIcFOcFOOcFAcFAAcFWAAcWEST-CREE FWAAcF",
  "155EaCANADIAN SYLLABICS THEcN-CREE THEcTHIcN-CREE THIcTHIIcN-CREE THIIcTHOcTHOOcTHAcTHAAcTHWAA",
  "1569aCANADIAN SYLLABICS WEST-CREE THWAAcTHcTTHEcTTHIcTTHOcTTHAcTTHcTYEcTYIcTYOcTYAcNUNAVIK HEdHI",
  "1576aCANADIAN SYLLABICS NUNAVIK HIIdHOdHOOdHAdHAAdHcNUNAVUT HcHKcQAAIcQIcQIIcQOcQOOcQAcQAAcQ",
  "1586aCANADIAN SYLLABICS TLHEcTLHIcTLHOcTLHAcWEST-CREE REdRIdROdRAcNGAAIcNGIcNGIIcNGOcNGOOcNGA",
  "1594aCANADIAN SYLLABICS NGAAcNGcNNGcSAYISI SHEdSHIdSHOdSHAcWOODS-CREE THEdTHIdTHOdTHAdTHcLHI",
  "15A1aCANADIAN SYLLABICS LHIIcLHOcLHOOcLHAcLHAAcLHcTH-CREE THEdTHIdTHIIdTHOdTHOOdTHAdTHAAdTH",
  "15AFaCANADIAN SYLLABICS AIVILIK BcBLACKFOOT EdIdOdAdWEdWIdWOdWAdNEdNIdNOdNAdKEdKIdKOdKA",
  "15C0aCANADIAN SYLLABICS SAYISI HEdHIdHOdHAcCARRIER GHUdGHOdGHEdGHEEdGHIdGHAdRUdROdREdREEdRIdRA",
  "15D0aCANADIAN SYLLABICS CARRIER WUdWOdWEdWEEdWIdWAdHWUdHWOdHWEdHWEEdHWIdHWAdTHUdTHOdTHEdTHEEdTHI",
  "15E1aCANADIAN SYLLABICS CARRIER THAdTTUdTTOdTTEdTTEEdTTIdTTAdPUdPOdPEdPEEdPIdPAdPdGUdGOdGEdGEE",
  "15F3aCANADIAN SYLLABICS CARRIER GIdGAdKHUdKHOdKHEdKHEEdKHIdKHAdKKUdKKOdKKEdKKEEdKKIdKKAdKKdNUdNO",
  "1604aCANADIAN SYLLABICS CARRIER NEdNEEdNIdNAdMUdMOdMEdMEEdMIdMAdYUdYOdYEdYEEdYIdYAdJUcSAYISI JU",
  "1616aCANADIAN SYLLABICS CARRIER JOdJEdJEEdJIcSAYISI JIcCARRIER JAdJJUdJJOdJJEdJJEEdJJIdJJAdLUdLO",
  "1624aCANADIAN SYLLABICS CARRIER LEdLEEdLIdLAdDLUdDLOdDLEdDLEEdDLIdDLAdLHUdLHOdLHEdLHEEdLHIdLHA",
  "1634aCANADIAN SYLLABICS CARRIER TLHUdTLHOdTLHEdTLHEEdTLHIdTLHAdTLUdTLOdTLEdTLEEdTLIdTLAdZUdZOdZE",
  "1643aCANADIAN SYLLABICS CARRIER ZEEdZIdZAdZdINITIAL ZdDZUdDZOdDZEdDZEEdDZIdDZAdSUdSOdSEdSEEdSI",
  "1653aCANADIAN SYLLABICS CARRIER SAdSHUdSHOdSHEdSHEEdSHIdSHAdSHdTSUdTSOdTSEdTSEEdTSIdTSAdCHUdCHO",
  "1663aCANADIAN SYLLABICS CARRIER CHEdCHEEdCHIdCHAdTTSUdTTSOdTTSEdTTSEEdTTSIdTTSAcCHI SIGN",
  "166EaCANADIAN SYLLABICS FULL STOPcQAIcNGAIcNNGIcNNGIIcNNGOcNNGOOcNNGAcNNGAAcWOODS-CREE THWEE",
  "1678aCANADIAN SYLLABICS WOODS-CREE THWIdTHWIIdTHWOdTHWOOdTHWAdTHWAAdFINAL THcBLACKFOOT W",
  "1680aOGHAM SPACE MARKbLETTER BEITHcLUIScFEARNcSAILcNIONcUATHcDAIRcTINNEcCOLLcCEIRTcMUINcGORT",
  "168DaOGHAM LETTER NGEADALcSTRAIFcRUIScAILMcONNcURcEADHADHcIODHADHcEABHADHcORcUILLEANNcIFIN",
  "1699aOGHAM LETTER EAMHANCHOLLcPEITHbFEATHER MARKbREVERSED FEATHER MARK",
  "16A0aRUNIC LETTER FEHU FEOH FE FcVcURUZ UR UcYRcYcWcTHURISAZ THURS THORNcETHcANSUZ AcOS OcAC A",
  "16ABaRUNIC LETTER AESCcLONG-BRANCH-OSS OcSHORT-TWIG-OSS OcOcOEcONcRAIDO RAD REID RcKAUNAcCEN",
  "16B4aRUNIC LETTER KAUN KcGcENGcGEBO GYFU GcGARcWUNJO WYNN WcHAGLAZ HcHAEGL H",
  "16BCaRUNIC LETTER LONG-BRANCH-HAGALL HcSHORT-TWIG-HAGALL HcNAUDIZ NYD NAUD NcSHORT-TWIG-NAUD N",
  "16C0aRUNIC LETTER DOTTED-NcISAZ IS ISS IcEcJERAN JcGERcLONG-BRANCH-AR AEcSHORT-TWIG-AR A",
  "16C7aRUNIC LETTER IWAZ EOHcPERTHO PEORTH PcALGIZ EOLHXcSOWILO ScSIGEL LONG-BRANCH-SOL S",
  "16CCaRUNIC LETTER SHORT-TWIG-SOL ScCcZcTIWAZ TIR TYR TcSHORT-TWIG-TYR TcD",
  "16D2aRUNIC LETTER BERKANAN BEORC BJARKAN BcSHORT-TWIG-BJARKAN BcDOTTED-PcOPEN-PcEHWAZ EH E",
  "16D7aRUNIC LETTER MANNAZ MAN McLONG-BRANCH-MADR McSHORT-TWIG-MADR McLAUKAZ LAGU LOGR LcDOTTED-L",
  "16DCaRUNIC LETTER INGWAZcINGcDAGAZ DAEG DcOTHALAN ETHEL OcEARcIORcCWEORTHcCALCcCEALCcSTAN",
  "16E6aRUNIC LETTER LONG-BRANCH-YRcSHORT-TWIG-YRcICELANDIC-YRcQcXbSINGLE PUNCTUATION",
  "16ECaRUNIC MULTIPLE PUNCTUATIONbCROSS PUNCTUATIONbARLAUG SYMBOLbTVIMADUR SYMBOLbBELGTHOR SYMBOL",
  "16F1aRUNIC LETTER KcSHcOOcFRANKS CASKET OSeISeEHeACeAESC",
  "1700aTAGALOG LETTER AcIcUcKAcGAcNGAcTAcDAcNAcPAcBAcMAcYAcRAcLAcWAcSAcHAbVOWEL SIGN IdU",
  "1714aTAGALOG SIGN VIRAMAcPAMUDPOD",
  "171FaTAGALOG LETTER ARCHAIC RAaHANUNOO LETTER AcIcUcKAcGAcNGAcTAcDAcNAcPAcBAcMAcYAcRAcLAcWAcSA",
  "1731aHANUNOO LETTER HAbVOWEL SIGN IdUbSIGN PAMUDPODaPHILIPPINE SINGLE PUNCTUATION",
  "1736aPHILIPPINE DOUBLE PUNCTUATION",
  "1740aBUHID LETTER AcIcUcKAcGAcNGAcTAcDAcNAcPAcBAcMAcYAcRAcLAcWAcSAcHAbVOWEL SIGN IdU",
  "1760aTAGBANWA LETTER AcIcUcKAcGAcNGAcTAcDAcNAcPAcBAcMAcYA",
  "176EaTAGBANWA LETTER LAcWAcSA",
  "1772aTAGBANWA VOWEL SIGN IdU",
  "1780aKHMER LETTER KAcKHAcKOcKHOcNGOcCAcCHAcCOcCHOcNYOcDAcTTHAcDOcTTHOcNNOcTAcTHAcTOcTHOcNOcBA",
  "1795aKHMER LETTER PHAcPOcPHOcMOcYOcROcLOcVOcSHAcSSOcSAcHAcLAcQAbINDEPENDENT VOWEL QAQdQAAdQIdQII",
  "17A7aKHMER INDEPENDENT VOWEL QUdQUKdQUUdQUUVdRYdRYYdLYdLYYdQEdQAIdQOO TYPE ONEfTWOdQAU",
  "17B4aKHMER VOWEL INHERENT AQdAAcSIGN AAdIdIIdYdYYdUdUUdUAdOEdYAdIEdEdAEdAIdOOdAUbSIGN NIKAHIT",
  "17C7aKHMER SIGN REAHMUKcYUUKALEAPINTUcMUUSIKATOANcTRIISAPcBANTOCcROBATcTOANDAKHIATcKAKABATcAHSDA",
  "17D0aKHMER SIGN SAMYOK SANNYAcVIRIAMcCOENGcBATHAMASATcKHANcBARIYOOSANcCAMNUC PII KUUHcLEK TOO",
  "17D8aKHMER SIGN BEYYALcPHNAEK MUANcKOOMUUTbCURRENCY SYMBOL RIELbSIGN AVAKRAHASANYAcATTHACAN",
  "17E0aKHMER DIGIT ZEROcONEcTWOcTHREEcFOURcFIVEcSIXcSEVENcEIGHTcNINE",
  "17F0aKHMER SYMBOL LEK ATTAK SONeMUOYePIIeBEIeBUONePRAMePRAM-MUOYePRAM-PIIePRAM-BEIePRAM-BUON",
  "1800aMONGOLIAN BIRGAbELLIPSISbCOMMAbFULL STOPbCOLONbFOUR DOTSbTODO SOFT HYPHEN",
  "1807aMONGOLIAN SIBE SYLLABLE BOUNDARY MARKERbMANCHU COMMAcFULL STOPbNIRUGU",
  "180BaMONGOLIAN FREE VARIATION SELECTOR ONEeTWOeTHREEbVOWEL SEPARATOR",
  "180FaMONGOLIAN FREE VARIATION SELECTOR FOURbDIGIT ZEROcONEcTWOcTHREEcFOURcFIVEcSIXcSEVENcEIGHT",
  "1819aMONGOLIAN DIGIT NINE",
  "1820aMONGOLIAN LETTER AcEcIcOcUcOEcUEcEEcNAcANGcBAcPAcQAcGAcMAcLAcSAcSHAcTAcDAcCHAcJAcYAcRAcWA",
  "1839aMONGOLIAN LETTER FAcKAcKHAcTSAcZAcHAAcZRAcLHAcZHIcCHIcTODO LONG VOWEL SIGNdEdIdOdUdOEdUE",
  "184AaMONGOLIAN LETTER TODO ANGdBAdPAdQAdGAdMAdTAdDAdCHAdJAdTSAdYAdWAdKAdGAAdHAAdJIAdNIAdDZA",
  "185DaMONGOLIAN LETTER SIBE EdIdIYdUEdUdANGdKAdGAdHAdPAdSHAdTAdDAdJAdFAdGAAdHAAdTSAdZAdRAAdCHA",
  "1872aMONGOLIAN LETTER SIBE ZHAcMANCHU IdKAdRAdFAdZHAcCHA WITH TWO DOTS",
  "1880aMONGOLIAN LETTER ALI GALI ANUSVARA ONEeVISARGA ONEeDAMARUeUBADAMAeINVERTED UBADAMAeBALUDA",
  "1886aMONGOLIAN LETTER ALI GALI THREE BALUDAeAeIeKAeNGAeCAeTTAeTTHAeDDAeNNAeTAeDAePAePHAeSSAeZHA",
  "1896aMONGOLIAN LETTER ALI GALI ZAeAHcTODO ALI GALI TAfZHAcMANCHU ALI GALI GHAfNGAfCAfJHAfTTA",
  "189FaMONGOLIAN LETTER MANCHU ALI GALI DDHAfTAfDHAfSSAfCYAfZHAfZAcALI GALI HALF UfYA",
  "18A8aMONGOLIAN LETTER MANCHU ALI GALI BHAcALI GALI DAGALGAcMANCHU ALI GALI LHA",
  "18B0aCANADIAN SYLLABICS OYcAYcAAYcWAYcPOYcPAYcPWOYcTAYcKAYcKWAYcMAYcNOYcNAYcLAYcSOYcSAYcSHOY",
  "18C1aCANADIAN SYLLABICS SHAYcSHWOYcYOYcYAYcRAYcNWIcOJIBWAY NWIcNWIIcOJIBWAY NWIIcNWOcOJIBWAY NWO",
  "18CCaCANADIAN SYLLABICS NWOOcOJIBWAY NWOOcRWEEcRWIcRWIIcRWOcRWOOcRWAcOJIBWAY PdTdKdCdMdNdSdSH",
  "18DCaCANADIAN SYLLABICS EASTERN WcWESTERN WcFINAL SMALL RINGdRAISED DOTcR-CREE RWEcWEST-CREE LOO",
  "18E2aCANADIAN SYLLABICS WEST-CREE LAAcTHWEcTHWAcTTHWEcTTHOOcTTHAAcTLHWEcTLHOOcSAYISI SHWEdSHOO",
  "18ECaCANADIAN SYLLABICS SAYISI HOOcCARRIER GWUdDENE GEEdGAAdGWAcSAYISI JUUcCARRIER JWA",
  "18F3aCANADIAN SYLLABICS BEAVER DENE LeRcCARRIER DENTAL S",
  "1900aLIMBU VOWEL-CARRIER LETTERbLETTER KAcKHAcGAcGHAcNGAcCAcCHAcJAcJHAcYANcTAcTHAcDAcDHAcNAcPA",
  "1911aLIMBU LETTER PHAcBAcBHAcMAcYAcRAcLAcWAcSHAcSSAcSAcHAcGYANcTRA",
  "1920aLIMBU VOWEL SIGN AdIdUdEEdAIdOOdAUdEdObSUBJOINED LETTER YAdRAdWA",
  "1930aLIMBU SMALL LETTER KAdNGAdANUSVARAdTAdNAdPAdMAdRAdLAbSIGN MUKPHRENGcKEMPHRENGcSA-I",
  "1940aLIMBU SIGN LOO",
  "1944aLIMBU EXCLAMATION MARKbQUESTION MARKbDIGIT ZEROcONEcTWOcTHREEcFOURcFIVEcSIXcSEVENcEIGHT",
  "194FaLIMBU DIGIT NINEaTAI LE LETTER KAdXAdNGAdTSAdSAdYAdTAdTHAdLAdPAdPHAdMAdFAdVAdHAdQAdKHAdTSHA",
  "1962aTAI LE LETTER NAdAdIdEEdEHdUdOOdOdUEdEdAUEdAI",
  "1970aTAI LE LETTER TONE-2dTONE-3dTONE-4dTONE-5dTONE-6",
  "1980aNEW TAI LUE LETTER HIGH QAeLOW QAeHIGH KAfXAfNGAeLOW KAfXAfNGAeHIGH TSAfSAfYAeLOW TSAfSAfYA",
  "198EaNEW TAI LUE LETTER HIGH TAfTHAfNAeLOW TAfTHAfNAeHIGH PAfPHAfMAeLOW PAfPHAfMAeHIGH FAfVAfLA",
  "199DaNEW TAI LUE LETTER LOW FAfVAfLAeHIGH HAfDAfBAeLOW HAfDAfBAeHIGH KVAfXVAeLOW KVAfXVA",
  "19AAaNEW TAI LUE LETTER HIGH SUAeLOW SUA",
  "19B0aNEW TAI LUE VOWEL SIGN VOWEL SHORTENERfAAfIIfUfUUfEfAEfOfOAfUEfAYfAAYfUYfOYfOAYfUEYfIY",
  "19C1aNEW TAI LUE LETTER FINAL VfNGfNfMfKfDfBdTONE MARK-1eMARK-2",
  "19D0aNEW TAI LUE DIGIT ZEROeONEeTWOeTHREEeFOUReFIVEeSIXeSEVENeEIGHTeNINEdTHAM DIGIT ONE",
  "19DEaNEW TAI LUE SIGN LAEeLAEVaKHMER SYMBOL PATHAMASATcMUOY KOETcPII KOETcBEI KOETcBUON KOET",
  "19E5aKHMER SYMBOL PRAM KOETcPRAM-MUOY KOETcPRAM-PII KOETcPRAM-BEI KOETcPRAM-BUON KOETcDAP KOET",
  "19EBaKHMER SYMBOL DAP-MUOY KOETcDAP-PII KOETcDAP-BEI KOETcDAP-BUON KOETcDAP-PRAM KOETcTUTEYASAT",
  "19F1aKHMER SYMBOL MUOY ROCcPII ROCcBEI ROCcBUON ROCcPRAM ROCcPRAM-MUOY ROCcPRAM-PII ROC",
  "19F8aKHMER SYMBOL PRAM-BEI ROCcPRAM-BUON ROCcDAP ROCcDAP-MUOY ROCcDAP-PII ROCcDAP-BEI ROC",
  "19FEaKHMER SYMBOL DAP-BUON ROCcDAP-PRAM ROCaBUGINESE LETTER KAcGAcNGAcNGKAcPAcBAcMAcMPAcTAcDAcNA",
  "1A0BaBUGINESE LETTER NRAcCAcJAcNYAcNYCAcYAcRAcLAcVAcSAcAcHAbVOWEL SIGN IdUdEdOdAE",
  "1A1EaBUGINESE PALLAWAbEND OF SECTIONaTAI THAM LETTER HIGH KAeKHAeKXAdLOW KAeKXAeKHAdNGAdHIGH CA",
  "1A28aTAI THAM LETTER HIGH CHAdLOW CAeSAeCHAdNYAdRATAdHIGH RATHAdDAdLOW RATHAdRANAdHIGH TAeTHA",
  "1A34aTAI THAM LETTER LOW TAeTHAdNAdBAdHIGH PAePHAeFAdLOW PAeFAePHAdMAdLOW YAdHIGH YAdRAdRUEdLA",
  "1A44aTAI THAM LETTER LUEdWAdHIGH SHAeSSAeSAeHAdLLAdAdLOW HAdIdIIdUdUUdEEdOOdLAEdGREAT SA",
  "1A55aTAI THAM CONSONANT SIGN MEDIAL RAfLAeLA TANG LAIcSIGN MAI KANG LAIcCONSONANT SIGN FINAL NGA",
  "1A5AaTAI THAM CONSONANT SIGN LOW PAeHIGH RATHA OR LOW PAeMAeBAeSA",
  "1A60aTAI THAM SIGN SAKOTcVOWEL SIGN AeMAI SATeAAeTALL AAeIeIIeUEeUUEeUeUUeOeOA BELOWeOYeEeAEeOO",
  "1A71aTAI THAM VOWEL SIGN AIeTHAM AIeOA ABOVEcSIGN MAI KANGdTONE-1dTONE-2dKHUEN TONE-3eTONE-4",
  "1A79aTAI THAM SIGN KHUEN TONE-5dRA HAAMdMAI SAMdKHUEN-LUE KARAN",
  "1A7FaTAI THAM COMBINING CRYPTOGRAMMIC DOTcHORA DIGIT ZEROeONEeTWOeTHREEeFOUReFIVEeSIXeSEVEN",
  "1A88aTAI THAM HORA DIGIT EIGHTeNINE",
  "1A90aTAI THAM THAM DIGIT ZEROeONEeTWOeTHREEeFOUReFIVEeSIXeSEVENeEIGHTeNINE",
  "1AA0aTAI THAM SIGN WIANGdWIANGWAAKdSAWANdKEOWdHOYdDOKMAIdREVERSED ROTATED RANAdMAI YAMOKdKAAN",
  "1AA9aTAI THAM SIGN KAANKUUdSATKAANdSATKAANKUUdHANGdCAANG",
  "1AB0aCOMBINING DOUBLED CIRCUMFLEX ACCENTbDIAERESIS-RINGbINFINITYbDOWNWARDS ARROWbTRIPLE DOT",
  "1AB5aCOMBINING X-X BELOWbWIGGLY LINE BELOWbOPEN MARK BELOWbDOUBLE OPEN MARK BELOW",
  "1AB9aCOMBINING LIGHT CENTRALIZATION STROKE BELOWbSTRONG CENTRALIZATION STROKE BELOW",
  "1ABBaCOMBINING PARENTHESES ABOVEbDOUBLE PARENTHESES ABOVEbPARENTHESES BELOWcOVERLAY",
  "1ABFaCOMBINING LATIN SMALL LETTER W BELOWeTURNED W BELOWbLEFT PARENTHESIS ABOVE LEFT",
  "1AC2aCOMBINING RIGHT PARENTHESIS ABOVE RIGHTbLEFT PARENTHESIS BELOW LEFT",
  "1AC4aCOMBINING RIGHT PARENTHESIS BELOW RIGHTbSQUARE BRACKETS ABOVEbNUMBER SIGN ABOVE",
  "1AC7aCOMBINING INVERTED DOUBLE ARCH ABOVEbPLUS SIGN ABOVEbDOUBLE PLUS SIGN ABOVEeBELOW",
  "1ACBaCOMBINING TRIPLE ACUTE ACCENTbLATIN SMALL LETTER INSULAR GfRfT",
  "1B00aBALINESE SIGN ULU RICEMdCANDRAcCECEKcSURANGcBISAHbLETTER AKARAdTEDUNGcIKARAdTEDUNGcUKARA",
  "1B0AaBALINESE LETTER UKARA TEDUNGcRA REPAeTEDUNGcLA LENGAeTEDUNGcEKARAcAIKARAcOKARAdTEDUNGcKA",
  "1B14aBALINESE LETTER KA MAHAPRANAcGAdGORAcNGAcCAdLACAcJAdJERAcNYAcTA LATIKdMURDA MAHAPRANA",
  "1B1FaBALINESE LETTER DA MURDA ALPAPRANAeMAHAPRANAcNA RAMBATcTAdTAWAcDAdMADUcNAcPAdKAPALcBA",
  "1B2AaBALINESE LETTER BA KEMBANGcMAcYAcRAcLAcWAcSA SAGAdSAPA",
  "1B32aBALINESE LETTER SAcHAbSIGN REREKANbVOWEL SIGN TEDUNGdULUeSARIdSUKUeILUTdRA REPAfTEDUNG",
  "1B3CaBALINESE VOWEL SIGN LA LENGAfTEDUNGdTALINGeREPAeTEDUNGeREPA TEDUNGdPEPETeTEDUNGbADEG ADEG",
  "1B45aBALINESE LETTER KAF SASAKcKHOT SASAKcTZIR SASAKcEF SASAKcVE SASAKcZAL SASAKcASYURA SASAK",
  "1B4CaBALINESE LETTER ARCHAIC JNYA",
  "1B50aBALINESE DIGIT ZEROcONEcTWOcTHREEcFOURcFIVEcSIXcSEVENcEIGHTcNINEbPANTIbPAMADAbWINDU",
  "1B5DaBALINESE CARIK PAMUNGKAHcSIKIcPARERENbPAMENENGbMUSICAL SYMBOL DONGdDENGdDUNGdDANGeSURANG",
  "1B66aBALINESE MUSICAL SYMBOL DINGdDAENGdDEUNGdDAINGdDANG GEDEdCOMBINING TEGEHeENDEPeKEMPUL",
  "1B6EaBALINESE MUSICAL SYMBOL COMBINING KEMPLIeJEGOGANeKEMPUL WITH JEGOGANeKEMPLI WITH JEGOGAN",
  "1B72aBALINESE MUSICAL SYMBOL COMBINING BENDEeGONGdRIGHT-HAND OPEN DUGfDAGeCLOSED TUKfTAK",
  "1B78aBALINESE MUSICAL SYMBOL LEFT-HAND OPEN PANGfPUNGeCLOSED PLAKfPLUKeOPEN PINGbPANTI LANTANG",
  "1B7EaBALINESE PAMADA LANTANG",
  "1B80aSUNDANESE SIGN PANYECEKcPANGLAYARcPANGWISADbLETTER AcIcUcAEcOcEcEUcKAcQAcGAcNGAcCAcJAcZA",
  "1B91aSUNDANESE LETTER NYAcTAcDAcNAcPAcFAcVAcBAcMAcYAcRAcLAcWAcSAcXAcHAbCONSONANT SIGN PAMINGKAL",
  "1BA2aSUNDANESE CONSONANT SIGN PANYAKRAdPANYIKUbVOWEL SIGN PANGHULUdPANYUKUdPANAELAENGdPANOLONG",
  "1BA8aSUNDANESE VOWEL SIGN PAMEPETdPANEULEUNGbSIGN PAMAAEHcVIRAMAbCONSONANT SIGN PASANGAN MAeWA",
  "1BAEaSUNDANESE LETTER KHAcSYAbDIGIT ZEROcONEcTWOcTHREEcFOURcFIVEcSIXcSEVENcEIGHTcNINEbAVAGRAHA",
  "1BBBaSUNDANESE LETTER REUcLEUcBHAcFINAL KdMaBATAK LETTER AcSIMALUNGUN AcHAcSIMALUNGUN HA",
  "1BC4aBATAK LETTER MANDAILING HAcBAcKARO BAcPAcSIMALUNGUN PAcNAcMANDAILING NAcWAcSIMALUNGUN WA",
  "1BCDaBATAK LETTER PAKPAK WAcGAcSIMALUNGUN GAcJAcDAcRAcSIMALUNGUN RAcMAcSIMALUNGUN MAcSOUTHERN TA",
  "1BD7aBATAK LETTER NORTHERN TAcSAcSIMALUNGUN SAcMANDAILING SAcYAcSIMALUNGUN YAcNGAcLA",
  "1BDFaBATAK LETTER SIMALUNGUN LAcNYAcCAcNDAcMBAcIcUbSIGN TOMPIbVOWEL SIGN EdPAKPAK EdEEdIdKARO I",
  "1BECaBATAK VOWEL SIGN OdKARO OdUeFOR SIMALUNGUN SAbCONSONANT SIGN NGdHbPANGOLATbPANONGONAN",
  "1BFCaBATAK SYMBOL BINDU NA METEKdPINARBORASdJUDULdPANGOLATaLEPCHA LETTER KAcKLAcKHAcGAcGLAcNGA",
  "1C06aLEPCHA LETTER CAcCHAcJAcNYAcTAcTHAcDAcNAcPAcPLAcPHAcFAcFLAcBAcBLAcMAcMLAcTSAcTSHAcDZAcYAcRA",
  "1C1CaLEPCHA LETTER LAcHAcHLAcVAcSAcSHAcWAcAbSUBJOINED LETTER YAdRAbVOWEL SIGN AAdIdOdOOdUdUUdE",
  "1C2DaLEPCHA CONSONANT SIGN KdMdLdNdPdRdTdNYIN-DOdKANGbSIGN RANcNUKTA",
  "1C3BaLEPCHA PUNCTUATION TA-ROLcNYET THYOOM TA-ROLcCER-WAcTSHOOK CER-WA",
  "1C3FaLEPCHA PUNCTUATION TSHOOKbDIGIT ZEROcONEcTWOcTHREEcFOURcFIVEcSIXcSEVENcEIGHTcNINE",
  "1C4DaLEPCHA LETTER TTAcTTHAcDDAaOL CHIKI DIGIT ZEROdONEdTWOdTHREEdFOURdFIVEdSIXdSEVENdEIGHTdNINE",
  "1C5AaOL CHIKI LETTER LAdATdAGdANGdALdLAAdAAKdAAJdAAMdAAWdLIdISdIHdINYdIRdLUdUCdUDdUNNdUYdLEdEP",
  "1C70aOL CHIKI LETTER EDDdENdERRdLOdOTTdOBdOVdOHcMU TTUDDAGcGAAHLAA TTUDDAAGcMU-GAAHLAA TTUDDAAG",
  "1C7BaOL CHIKI RELAAcPHAARKAAcAHADcPUNCTUATION MUCAADdDOUBLE MUCAAD",
  "1C80aCYRILLIC SMALL LETTER ROUNDED VEdLONG-LEGGED DEdNARROW OdWIDE ESdTALL TEdTHREE-LEGGED TE",
  "1C86aCYRILLIC SMALL LETTER TALL HARD SIGNeYATdUNBLENDED UK",
  "1C90aGEORGIAN MTAVRULI CAPITAL LETTER ANeBANeGANeDONeENeVINeZENeTANeINeKANeLASeMANeNAReONePAR",
  "1C9FaGEORGIAN MTAVRULI CAPITAL LETTER ZHAReRAEeSANeTAReUNePHAReKHAReGHANeQAReSHINeCHINeCANeJIL",
  "1CACaGEORGIAN MTAVRULI CAPITAL LETTER CILeCHAReXANeJHANeHAEeHEeHIEeWEeHAReHOEeFIeYNeELIFI",
  "1CB9aGEORGIAN MTAVRULI CAPITAL LETTER TURNED GANeAIN",
  "1CBDaGEORGIAN MTAVRULI CAPITAL LETTER AENeHARD SIGNeLABIAL SIGN",
  "1CC0aSUNDANESE PUNCTUATION BINDU SURYAdPANGLONGdPURNAMAdCAKRAdLEU SATANGAdKA SATANGAdDA SATANGA",
  "1CC7aSUNDANESE PUNCTUATION BINDU BA SATANGA",
  "1CD0aVEDIC TONE KARSHANAcSHARAcPRENKHAbSIGN NIHSHVASAcYAJURVEDIC MIDLINE SVARITA",
  "1CD5aVEDIC TONE YAJURVEDIC AGGRAVATED INDEPENDENT SVARITAdINDEPENDENT SVARITA",
  "1CD7aVEDIC TONE YAJURVEDIC KATHAKA INDEPENDENT SVARITAcCANDRA BELOW",
  "1CD9aVEDIC TONE YAJURVEDIC KATHAKA INDEPENDENT SVARITA SCHROEDERcDOUBLE SVARITAcTRIPLE SVARITA",
  "1CDCaVEDIC TONE KATHAKA ANUDATTAcDOT BELOWcTWO DOTS BELOWcTHREE DOTS BELOW",
  "1CE0aVEDIC TONE RIGVEDIC KASHMIRI INDEPENDENT SVARITAcATHARVAVEDIC INDEPENDENT SVARITA",
  "1CE2aVEDIC SIGN VISARGA SVARITAdUDATTAcREVERSED VISARGA UDATTAcVISARGA ANUDATTA",
  "1CE6aVEDIC SIGN REVERSED VISARGA ANUDATTAcVISARGA UDATTA WITH TAILdANUDATTA WITH TAIL",
  "1CE9aVEDIC SIGN ANUSVARA ANTARGOMUKHAdBAHIRGOMUKHAdVAMAGOMUKHAeWITH TAILcTIRYAK",
  "1CEEaVEDIC SIGN HEXIFORM LONG ANUSVARAcLONG ANUSVARAcRTHANG LONG ANUSVARA",
  "1CF1aVEDIC SIGN ANUSVARA UBHAYATO MUKHAcARDHAVISARGAcROTATED ARDHAVISARGAbTONE CANDRA ABOVE",
  "1CF5aVEDIC SIGN JIHVAMULIYAcUPADHMANIYAcATIKRAMAbTONE RING ABOVEcDOUBLE RING ABOVE",
  "1CFAaVEDIC SIGN DOUBLE ANUSVARA ANTARGOMUKHA",
  "1D00aLATIN LETTER SMALL CAPITAL AeAEbSMALL LETTER TURNED AEbLETTER SMALL CAPITAL BARRED BeCeD",
  "1D06aLATIN LETTER SMALL CAPITAL ETHeEbSMALL LETTER TURNED OPEN EeIbLETTER SMALL CAPITAL JeK",
  "1D0CaLATIN LETTER SMALL CAPITAL L WITH STROKEeMeREVERSED NeOeOPEN ObSMALL LETTER SIDEWAYS O",
  "1D12aLATIN SMALL LETTER SIDEWAYS OPEN OeO WITH STROKEdTURNED OEbLETTER SMALL CAPITAL OU",
  "1D16aLATIN SMALL LETTER TOP HALF OdBOTTOM HALF ObLETTER SMALL CAPITAL PeREVERSED ReTURNED ReTeU",
  "1D1DaLATIN SMALL LETTER SIDEWAYS UeDIAERESIZED UeTURNED MbLETTER SMALL CAPITAL VeWeZeEZH",
  "1D24aLATIN LETTER VOICED LARYNGEAL SPIRANTcAINaGREEK LETTER SMALL CAPITAL GAMMAeLAMDAePIeRHOePSI",
  "1D2BaCYRILLIC LETTER SMALL CAPITAL ELaMODIFIER LETTER CAPITAL AdAEdBdBARRED BdDdEdREVERSED EdGdH",
  "1D35aMODIFIER LETTER CAPITAL IdJdKdLdMdNdREVERSED NdOdOUdPdRdTdUdWcSMALL AdTURNED AdALPHA",
  "1D46aMODIFIER LETTER SMALL TURNED AEdBdDdEdSCHWAdOPEN EdTURNED OPEN EdGdTURNED IdKdMdENGdO",
  "1D53aMODIFIER LETTER SMALL OPEN OdTOP HALF OdBOTTOM HALF OdPdTdUdSIDEWAYS UdTURNED MdVdAINdBETA",
  "1D5EaMODIFIER LETTER SMALL GREEK GAMMAdDELTAdGREEK PHIdCHIaLATIN SUBSCRIPT SMALL LETTER IeReUeV",
  "1D66aGREEK SUBSCRIPT SMALL LETTER BETAeGAMMAeRHOePHIeCHIaLATIN SMALL LETTER UE",
  "1D6CaLATIN SMALL LETTER B WITH MIDDLE TILDEdD WITH MIDDLE TILDEdF WITH MIDDLE TILDE",
  "1D6FaLATIN SMALL LETTER M WITH MIDDLE TILDEdN WITH MIDDLE TILDEdP WITH MIDDLE TILDE",
  "1D72aLATIN SMALL LETTER R WITH MIDDLE TILDEfFISHHOOK AND MIDDLE TILDEdS WITH MIDDLE TILDE",
  "1D75aLATIN SMALL LETTER T WITH MIDDLE TILDEdZ WITH MIDDLE TILDEdTURNED G",
  "1D78aMODIFIER LETTER CYRILLIC ENaLATIN SMALL LETTER INSULAR GdTH WITH STRIKETHROUGH",
  "1D7BaLATIN SMALL CAPITAL LETTER I WITH STROKEcLETTER IOTA WITH STROKEdP WITH STROKE",
  "1D7EaLATIN SMALL CAPITAL LETTER U WITH STROKEcLETTER UPSILON WITH STROKEdB WITH PALATAL HOOK",
  "1D81aLATIN SMALL LETTER D WITH PALATAL HOOKdF WITH PALATAL HOOKdG WITH PALATAL HOOK",
  "1D84aLATIN SMALL LETTER K WITH PALATAL HOOKdL WITH PALATAL HOOKdM WITH PALATAL HOOK",
  "1D87aLATIN SMALL LETTER N WITH PALATAL HOOKdP WITH PALATAL HOOKdR WITH PALATAL HOOK",
  "1D8AaLATIN SMALL LETTER S WITH PALATAL HOOKdESH WITH PALATAL HOOKdV WITH PALATAL HOOK",
  "1D8DaLATIN SMALL LETTER X WITH PALATAL HOOKdZ WITH PALATAL HOOKdA WITH RETROFLEX HOOK",
  "1D90aLATIN SMALL LETTER ALPHA WITH RETROFLEX HOOKdD WITH HOOK AND TAILdE WITH RETROFLEX HOOK",
  "1D93aLATIN SMALL LETTER OPEN E WITH RETROFLEX HOOKdREVERSED OPEN E WITH RETROFLEX HOOK",
  "1D95aLATIN SMALL LETTER SCHWA WITH RETROFLEX HOOKdI WITH RETROFLEX HOOK",
  "1D97aLATIN SMALL LETTER OPEN O WITH RETROFLEX HOOKdESH WITH RETROFLEX HOOKdU WITH RETROFLEX HOOK",
  "1D9AaLATIN SMALL LETTER EZH WITH RETROFLEX HOOKaMODIFIER LETTER SMALL TURNED ALPHAdCeWITH CURL",
  "1D9EaMODIFIER LETTER SMALL ETHdREVERSED OPEN EdFdDOTLESS J WITH STROKEdSCRIPT GdTURNED H",
  "1DA4aMODIFIER LETTER SMALL I WITH STROKEdIOTAdCAPITAL IfWITH STROKEdJ WITH CROSSED-TAIL",
  "1DA9aMODIFIER LETTER SMALL L WITH RETROFLEX HOOKfPALATAL HOOKdCAPITAL LdM WITH HOOK",
  "1DADaMODIFIER LETTER SMALL TURNED M WITH LONG LEGdN WITH LEFT HOOKfRETROFLEX HOOKdCAPITAL N",
  "1DB1aMODIFIER LETTER SMALL BARRED OdPHIdS WITH HOOKdESHdT WITH PALATAL HOOKdU BARdUPSILON",
  "1DB8aMODIFIER LETTER SMALL CAPITAL UdV WITH HOOKdTURNED VdZeWITH RETROFLEX HOOKfCURLdEZHdTHETA",
  "1DC0aCOMBINING DOTTED GRAVE ACCENTcACUTE ACCENTbSNAKE BELOWbSUSPENSION MARKbMACRON-ACUTE",
  "1DC5aCOMBINING GRAVE-MACRONbMACRON-GRAVEbACUTE-MACRONbGRAVE-ACUTE-GRAVEbACUTE-GRAVE-ACUTE",
  "1DCAaCOMBINING LATIN SMALL LETTER R BELOWbBREVE-MACRONbMACRON-BREVEbDOUBLE CIRCUMFLEX ABOVE",
  "1DCEaCOMBINING OGONEK ABOVEbZIGZAG BELOWbIS BELOWbUR ABOVEbUS ABOVE",
  "1DD3aCOMBINING LATIN SMALL LETTER FLATTENED OPEN A ABOVEeAEeAOeAVeC CEDILLAeINSULAR DeETHeG",
  "1DDBaCOMBINING LATIN LETTER SMALL CAPITAL GcSMALL LETTER KeLcLETTER SMALL CAPITAL LfM",
  "1DE0aCOMBINING LATIN SMALL LETTER NcLETTER SMALL CAPITAL NfRcSMALL LETTER R ROTUNDAeSeLONG SeZ",
  "1DE7aCOMBINING LATIN SMALL LETTER ALPHAeBeBETAeSCHWAeFeL WITH DOUBLE MIDDLE TILDE",
  "1DEDaCOMBINING LATIN SMALL LETTER O WITH LIGHT CENTRALIZATION STROKEePeESH",
  "1DF0aCOMBINING LATIN SMALL LETTER U WITH LIGHT CENTRALIZATION STROKEeWeA WITH DIAERESIS",
  "1DF3aCOMBINING LATIN SMALL LETTER O WITH DIAERESISeU WITH DIAERESISbUP TACK ABOVE",
  "1DF6aCOMBINING KAVYKA ABOVE RIGHTdLEFTbDOT ABOVE LEFTbWIDE INVERTED BRIDGE BELOWbDOT BELOW LEFT",
  "1DFBaCOMBINING DELETION MARKbDOUBLE INVERTED BREVE BELOWbALMOST EQUAL TO BELOW",
  "1DFEaCOMBINING LEFT ARROWHEAD ABOVEbRIGHT ARROWHEAD AND DOWN ARROWHEAD BELOW",
  "1E00aLATIN CAPITAL LETTER A WITH RING BELOWbSMALL LETTER A WITH RING BELOW",
  "1E02aLATIN CAPITAL LETTER B WITH DOT ABOVEbSMALL LETTER B WITH DOT ABOVE",
  "1E04aLATIN CAPITAL LETTER B WITH DOT BELOWbSMALL LETTER B WITH DOT BELOW",
  "1E06aLATIN CAPITAL LETTER B WITH LINE BELOWbSMALL LETTER B WITH LINE BELOW",
  "1E08aLATIN CAPITAL LETTER C WITH CEDILLA AND ACUTEbSMALL LETTER C WITH CEDILLA AND ACUTE",
  "1E0AaLATIN CAPITAL LETTER D WITH DOT ABOVEbSMALL LETTER D WITH DOT ABOVE",
  "1E0CaLATIN CAPITAL LETTER D WITH DOT BELOWbSMALL LETTER D WITH DOT BELOW",
  "1E0EaLATIN CAPITAL LETTER D WITH LINE BELOWbSMALL LETTER D WITH LINE BELOW",
  "1E10aLATIN CAPITAL LETTER D WITH CEDILLAbSMALL LETTER D WITH CEDILLA",
  "1E12aLATIN CAPITAL LETTER D WITH CIRCUMFLEX BELOWbSMALL LETTER D WITH CIRCUMFLEX BELOW",
  "1E14aLATIN CAPITAL LETTER E WITH MACRON AND GRAVEbSMALL LETTER E WITH MACRON AND GRAVE",
  "1E16aLATIN CAPITAL LETTER E WITH MACRON AND ACUTEbSMALL LETTER E WITH MACRON AND ACUTE",
  "1E18aLATIN CAPITAL LETTER E WITH CIRCUMFLEX BELOWbSMALL LETTER E WITH CIRCUMFLEX BELOW",
  "1E1AaLATIN CAPITAL LETTER E WITH TILDE BELOWbSMALL LETTER E WITH TILDE BELOW",
  "1E1CaLATIN CAPITAL LETTER E WITH CEDILLA AND BREVEbSMALL LETTER E WITH CEDILLA AND BREVE",
  "1E1EaLATIN CAPITAL LETTER F WITH DOT ABOVEbSMALL LETTER F WITH DOT ABOVE",
  "1E20aLATIN CAPITAL LETTER G WITH MACRONbSMALL LETTER G WITH MACRON",
  "1E22aLATIN CAPITAL LETTER H WITH DOT ABOVEbSMALL LETTER H WITH DOT ABOVE",
  "1E24aLATIN CAPITAL LETTER H WITH DOT BELOWbSMALL LETTER H WITH DOT BELOW",
  "1E26aLATIN CAPITAL LETTER H WITH DIAERESISbSMALL LETTER H WITH DIAERESIS",
  "1E28aLATIN CAPITAL LETTER H WITH CEDILLAbSMALL LETTER H WITH CEDILLA",
  "1E2AaLATIN CAPITAL LETTER H WITH BREVE BELOWbSMALL LETTER H WITH BREVE BELOW",
  "1E2CaLATIN CAPITAL LETTER I WITH TILDE BELOWbSMALL LETTER I WITH TILDE BELOW",
  "1E2EaLATIN CAPITAL LETTER I WITH DIAERESIS AND ACUTEbSMALL LETTER I WITH DIAERESIS AND ACUTE",
  "1E30aLATIN CAPITAL LETTER K WITH ACUTEbSMALL LETTER K WITH ACUTEbCAPITAL LETTER K WITH DOT BELOW",
  "1E33aLATIN SMALL LETTER K WITH DOT BELOWbCAPITAL LETTER K WITH LINE BELOW",
  "1E35aLATIN SMALL LETTER K WITH LINE BELOWbCAPITAL LETTER L WITH DOT BELOW",
  "1E37aLATIN SMALL LETTER L WITH DOT BELOWbCAPITAL LETTER L WITH DOT BELOW AND MACRON",
  "1E39aLATIN SMALL LETTER L WITH DOT BELOW AND MACRONbCAPITAL LETTER L WITH LINE BELOW",
  "1E3BaLATIN SMALL LETTER L WITH LINE BELOWbCAPITAL LETTER L WITH CIRCUMFLEX BELOW",
  "1E3DaLATIN SMALL LETTER L WITH CIRCUMFLEX BELOWbCAPITAL LETTER M WITH ACUTE",
  "1E3FaLATIN SMALL LETTER M WITH ACUTEbCAPITAL LETTER M WITH DOT ABOVE",
  "1E41aLATIN SMALL LETTER M WITH DOT ABOVEbCAPITAL LETTER M WITH DOT BELOW",
  "1E43aLATIN SMALL LETTER M WITH DOT BELOWbCAPITAL LETTER N WITH DOT ABOVE",
  "1E45aLATIN SMALL LETTER N WITH DOT ABOVEbCAPITAL LETTER N WITH DOT BELOW",
  "1E47aLATIN SMALL LETTER N WITH DOT BELOWbCAPITAL LETTER N WITH LINE BELOW",
  "1E49aLATIN SMALL LETTER N WITH LINE BELOWbCAPITAL LETTER N WITH CIRCUMFLEX BELOW",
  "1E4BaLATIN SMALL LETTER N WITH CIRCUMFLEX BELOWbCAPITAL LETTER O WITH TILDE AND ACUTE",
  "1E4DaLATIN SMALL LETTER O WITH TILDE AND ACUTEbCAPITAL LETTER O WITH TILDE AND DIAERESIS",
  "1E4FaLATIN SMALL LETTER O WITH TILDE AND DIAERESISbCAPITAL LETTER O WITH MACRON AND GRAVE",
  "1E51aLATIN SMALL LETTER O WITH MACRON AND GRAVEbCAPITAL LETTER O WITH MACRON AND ACUTE",
  "1E53aLATIN SMALL LETTER O WITH MACRON AND ACUTEbCAPITAL LETTER P WITH ACUTE",
  "1E55aLATIN SMALL LETTER P WITH ACUTEbCAPITAL LETTER P WITH DOT ABOVE",
  "1E57aLATIN SMALL LETTER P WITH DOT ABOVEbCAPITAL LETTER R WITH DOT ABOVE",
  "1E59aLATIN SMALL LETTER R WITH DOT ABOVEbCAPITAL LETTER R WITH DOT BELOW",
  "1E5BaLATIN SMALL LETTER R WITH DOT BELOWbCAPITAL LETTER R WITH DOT BELOW AND MACRON",
  "1E5DaLATIN SMALL LETTER R WITH DOT BELOW AND MACRONbCAPITAL LETTER R WITH LINE BELOW",
  "1E5FaLATIN SMALL LETTER R WITH LINE BELOWbCAPITAL LETTER S WITH DOT ABOVE",
  "1E61aLATIN SMALL LETTER S WITH DOT ABOVEbCAPITAL LETTER S WITH DOT BELOW",
  "1E63aLATIN SMALL LETTER S WITH DOT BELOWbCAPITAL LETTER S WITH ACUTE AND DOT ABOVE",
  "1E65aLATIN SMALL LETTER S WITH ACUTE AND DOT ABOVEbCAPITAL LETTER S WITH CARON AND DOT ABOVE",
  "1E67aLATIN SMALL LETTER S WITH CARON AND DOT ABOVEbCAPITAL LETTER S WITH DOT BELOW AND DOT ABOVE",
  "1E69aLATIN SMALL LETTER S WITH DOT BELOW AND DOT ABOVEbCAPITAL LETTER T WITH DOT ABOVE",
  "1E6BaLATIN SMALL LETTER T WITH DOT ABOVEbCAPITAL LETTER T WITH DOT BELOW",
  "1E6DaLATIN SMALL LETTER T WITH DOT BELOWbCAPITAL LETTER T WITH LINE BELOW",
  "1E6FaLATIN SMALL LETTER T WITH LINE BELOWbCAPITAL LETTER T WITH CIRCUMFLEX BELOW",
  "1E71aLATIN SMALL LETTER T WITH CIRCUMFLEX BELOWbCAPITAL LETTER U WITH DIAERESIS BELOW",
  "1E73aLATIN SMALL LETTER U WITH DIAERESIS BELOWbCAPITAL LETTER U WITH TILDE BELOW",
  "1E75aLATIN SMALL LETTER U WITH TILDE BELOWbCAPITAL LETTER U WITH CIRCUMFLEX BELOW",
  "1E77aLATIN SMALL LETTER U WITH CIRCUMFLEX BELOWbCAPITAL LETTER U WITH TILDE AND ACUTE",
  "1E79aLATIN SMALL LETTER U WITH TILDE AND ACUTEbCAPITAL LETTER U WITH MACRON AND DIAERESIS",
  "1E7BaLATIN SMALL LETTER U WITH MACRON AND DIAERESISbCAPITAL LETTER V WITH TILDE",
  "1E7DaLATIN SMALL LETTER V WITH TILDEbCAPITAL LETTER V WITH DOT BELOW",
  "1E7FaLATIN SMALL LETTER V WITH DOT BELOWbCAPITAL LETTER W WITH GRAVEbSMALL LETTER W WITH GRAVE",
  "1E82aLATIN CAPITAL LETTER W WITH ACUTEbSMALL LETTER W WITH ACUTEbCAPITAL LETTER W WITH DIAERESIS",
  "1E85aLATIN SMALL LETTER W WITH DIAERESISbCAPITAL LETTER W WITH DOT ABOVE",
  "1E87aLATIN SMALL LETTER W WITH DOT ABOVEbCAPITAL LETTER W WITH DOT BELOW",
  "1E89aLATIN SMALL LETTER W WITH DOT BELOWbCAPITAL LETTER X WITH DOT ABOVE",
  "1E8BaLATIN SMALL LETTER X WITH DOT ABOVEbCAPITAL LETTER X WITH DIAERESIS",
  "1E8DaLATIN SMALL LETTER X WITH DIAERESISbCAPITAL LETTER Y WITH DOT ABOVE",
  "1E8FaLATIN SMALL LETTER Y WITH DOT ABOVEbCAPITAL LETTER Z WITH CIRCUMFLEX",
  "1E91aLATIN SMALL LETTER Z WITH CIRCUMFLEXbCAPITAL LETTER Z WITH DOT BELOW",
  "1E93aLATIN SMALL LETTER Z WITH DOT BELOWbCAPITAL LETTER Z WITH LINE BELOW",
  "1E95aLATIN SMALL LETTER Z WITH LINE BELOWdH WITH LINE BELOWdT WITH DIAERESISdW WITH RING ABOVE",
  "1E99aLATIN SMALL LETTER Y WITH RING ABOVEdA WITH RIGHT HALF RINGdLONG S WITH DOT ABOVE",
  "1E9CaLATIN SMALL LETTER LONG S WITH DIAGONAL STROKEgHIGH STROKEbCAPITAL LETTER SHARP S",
  "1E9FaLATIN SMALL LETTER DELTAbCAPITAL LETTER A WITH DOT BELOWbSMALL LETTER A WITH DOT BELOW",
  "1EA2aLATIN CAPITAL LETTER A WITH HOOK ABOVEbSMALL LETTER A WITH HOOK ABOVE",
  "1EA4aLATIN CAPITAL LETTER A WITH CIRCUMFLEX AND ACUTEbSMALL LETTER A WITH CIRCUMFLEX AND ACUTE",
  "1EA6aLATIN CAPITAL LETTER A WITH CIRCUMFLEX AND GRAVEbSMALL LETTER A WITH CIRCUMFLEX AND GRAVE",
  "1EA8aLATIN CAPITAL LETTER A WITH CIRCUMFLEX AND HOOK ABOVE",
  "1EA9aLATIN SMALL LETTER A WITH CIRCUMFLEX AND HOOK ABOVE",
  "1EAAaLATIN CAPITAL LETTER A WITH CIRCUMFLEX AND TILDEbSMALL LETTER A WITH CIRCUMFLEX AND TILDE",
  "1EACaLATIN CAPITAL LETTER A WITH CIRCUMFLEX AND DOT BELOW",
  "1EADaLATIN SMALL LETTER A WITH CIRCUMFLEX AND DOT BELOWbCAPITAL LETTER A WITH BREVE AND ACUTE",
  "1EAFaLATIN SMALL LETTER A WITH BREVE AND ACUTEbCAPITAL LETTER A WITH BREVE AND GRAVE",
  "1EB1aLATIN SMALL LETTER A WITH BREVE AND GRAVEbCAPITAL LETTER A WITH BREVE AND HOOK ABOVE",
  "1EB3aLATIN SMALL LETTER A WITH BREVE AND HOOK ABOVEbCAPITAL LETTER A WITH BREVE AND TILDE",
  "1EB5aLATIN SMALL LETTER A WITH BREVE AND TILDEbCAPITAL LETTER A WITH BREVE AND DOT BELOW",
  "1EB7aLATIN SMALL LETTER A WITH BREVE AND DOT BELOWbCAPITAL LETTER E WITH DOT BELOW",
  "1EB9aLATIN SMALL LETTER E WITH DOT BELOWbCAPITAL LETTER E WITH HOOK ABOVE",
  "1EBBaLATIN SMALL LETTER E WITH HOOK ABOVEbCAPITAL LETTER E WITH TILDEbSMALL LETTER E WITH TILDE",
  "1EBEaLATIN CAPITAL LETTER E WITH CIRCUMFLEX AND ACUTEbSMALL LETTER E WITH CIRCUMFLEX AND ACUTE",
  "1EC0aLATIN CAPITAL LETTER E WITH CIRCUMFLEX AND GRAVEbSMALL LETTER E WITH CIRCUMFLEX AND GRAVE",
  "1EC2aLATIN CAPITAL LETTER E WITH CIRCUMFLEX AND HOOK ABOVE",
  "1EC3aLATIN SMALL LETTER E WITH CIRCUMFLEX AND HOOK ABOVE",
  "1EC4aLATIN CAPITAL LETTER E WITH CIRCUMFLEX AND TILDEbSMALL LETTER E WITH CIRCUMFLEX AND TILDE",
  "1EC6aLATIN CAPITAL LETTER E WITH CIRCUMFLEX AND DOT BELOW",
  "1EC7aLATIN SMALL LETTER E WITH CIRCUMFLEX AND DOT BELOWbCAPITAL LETTER I WITH HOOK ABOVE",
  "1EC9aLATIN SMALL LETTER I WITH HOOK ABOVEbCAPITAL LETTER I WITH DOT BELOW",
  "1ECBaLATIN SMALL LETTER I WITH DOT BELOWbCAPITAL LETTER O WITH DOT BELOW",
  "1ECDaLATIN SMALL LETTER O WITH DOT BELOWbCAPITAL LETTER O WITH HOOK ABOVE",
  "1ECFaLATIN SMALL LETTER O WITH HOOK ABOVEbCAPITAL LETTER O WITH CIRCUMFLEX AND ACUTE",
  "1ED1aLATIN SMALL LETTER O WITH CIRCUMFLEX AND ACUTEbCAPITAL LETTER O WITH CIRCUMFLEX AND GRAVE",
  "1ED3aLATIN SMALL LETTER O WITH CIRCUMFLEX AND GRAVE",
  "1ED4aLATIN CAPITAL LETTER O WITH CIRCUMFLEX AND HOOK ABOVE",
  "1ED5aLATIN SMALL LETTER O WITH CIRCUMFLEX AND HOOK ABOVE",
  "1ED6aLATIN CAPITAL LETTER O WITH CIRCUMFLEX AND TILDEbSMALL LETTER O WITH CIRCUMFLEX AND TILDE",
  "1ED8aLATIN CAPITAL LETTER O WITH CIRCUMFLEX AND DOT BELOW",
  "1ED9aLATIN SMALL LETTER O WITH CIRCUMFLEX AND DOT BELOWbCAPITAL LETTER O WITH HORN AND ACUTE",
  "1EDBaLATIN SMALL LETTER O WITH HORN AND ACUTEbCAPITAL LETTER O WITH HORN AND GRAVE",
  "1EDDaLATIN SMALL LETTER O WITH HORN AND GRAVEbCAPITAL LETTER O WITH HORN AND HOOK ABOVE",
  "1EDFaLATIN SMALL LETTER O WITH HORN AND HOOK ABOVEbCAPITAL LETTER O WITH HORN AND TILDE",
  "1EE1aLATIN SMALL LETTER O WITH HORN AND TILDEbCAPITAL LETTER O WITH HORN AND DOT BELOW",
  "1EE3aLATIN SMALL LETTER O WITH HORN AND DOT BELOWbCAPITAL LETTER U WITH DOT BELOW",
  "1EE5aLATIN SMALL LETTER U WITH DOT BELOWbCAPITAL LETTER U WITH HOOK ABOVE",
  "1EE7aLATIN SMALL LETTER U WITH HOOK ABOVEbCAPITAL LETTER U WITH HORN AND ACUTE",
  "1EE9aLATIN SMALL LETTER U WITH HORN AND ACUTEbCAPITAL LETTER U WITH HORN AND GRAVE"]

/-- More rows of names. -/
def nameRowsD : List String := [
  "1EEBaLATIN SMALL LETTER U WITH HORN AND GRAVEbCAPITAL LETTER U WITH HORN AND HOOK ABOVE",
  "1EEDaLATIN SMALL LETTER U WITH HORN AND HOOK ABOVEbCAPITAL LETTER U WITH HORN AND TILDE",
  "1EEFaLATIN SMALL LETTER U WITH HORN AND TILDEbCAPITAL LETTER U WITH HORN AND DOT BELOW",
  "1EF1aLATIN SMALL LETTER U WITH HORN AND DOT BELOWbCAPITAL LETTER Y WITH GRAVE",
  "1EF3aLATIN SMALL LETTER Y WITH GRAVEbCAPITAL LETTER Y WITH DOT BELOW",
  "1EF5aLATIN SMALL LETTER Y WITH DOT BELOWbCAPITAL LETTER Y WITH HOOK ABOVE",
  "1EF7aLATIN SMALL LETTER Y WITH HOOK ABOVEbCAPITAL LETTER Y WITH TILDEbSMALL LETTER Y WITH TILDE",
  "1EFAaLATIN CAPITAL LETTER MIDDLE-WELSH LLbSMALL LETTER MIDDLE-WELSH LL",
  "1EFCaLATIN CAPITAL LETTER MIDDLE-WELSH VbSMALL LETTER MIDDLE-WELSH VbCAPITAL LETTER Y WITH LOOP",
  "1EFFaLATIN SMALL LETTER Y WITH LOOPaGREEK SMALL LETTER ALPHA WITH PSILIfDASIAfPSILI AND VARIA",
  "1F03aGREEK SMALL LETTER ALPHA WITH DASIA AND VARIAfPSILI AND OXIAfDASIA AND OXIA",
  "1F06aGREEK SMALL LETTER ALPHA WITH PSILI AND PERISPOMENIfDASIA AND PERISPOMENI",
  "1F08aGREEK CAPITAL LETTER ALPHA WITH PSILIfDASIAfPSILI AND VARIAfDASIA AND VARIAfPSILI AND OXIA",
  "1F0DaGREEK CAPITAL LETTER ALPHA WITH DASIA AND OXIAfPSILI AND PERISPOMENIfDASIA AND PERISPOMENI",
  "1F10aGREEK SMALL LETTER EPSILON WITH PSILIfDASIAfPSILI AND VARIAfDASIA AND VARIAfPSILI AND OXIA",
  "1F15aGREEK SMALL LETTER EPSILON WITH DASIA AND OXIA",
  "1F18aGREEK CAPITAL LETTER EPSILON WITH PSILIfDASIAfPSILI AND VARIAfDASIA AND VARIA",
  "1F1CaGREEK CAPITAL LETTER EPSILON WITH PSILI AND OXIAfDASIA AND OXIA",
  "1F20aGREEK SMALL LETTER ETA WITH PSILIfDASIAfPSILI AND VARIAfDASIA AND VARIAfPSILI AND OXIA",
  "1F25aGREEK SMALL LETTER ETA WITH DASIA AND OXIAfPSILI AND PERISPOMENIfDASIA AND PERISPOMENI",
  "1F28aGREEK CAPITAL LETTER ETA WITH PSILIfDASIAfPSILI AND VARIAfDASIA AND VARIAfPSILI AND OXIA",
  "1F2DaGREEK CAPITAL LETTER ETA WITH DASIA AND OXIAfPSILI AND PERISPOMENIfDASIA AND PERISPOMENI",
  "1F30aGREEK SMALL LETTER IOTA WITH PSILIfDASIAfPSILI AND VARIAfDASIA AND VARIAfPSILI AND OXIA",
  "1F35aGREEK SMALL LETTER IOTA WITH DASIA AND OXIAfPSILI AND PERISPOMENIfDASIA AND PERISPOMENI",
  "1F38aGREEK CAPITAL LETTER IOTA WITH PSILIfDASIAfPSILI AND VARIAfDASIA AND VARIAfPSILI AND OXIA",
  "1F3DaGREEK CAPITAL LETTER IOTA WITH DASIA AND OXIAfPSILI AND PERISPOMENIfDASIA AND PERISPOMENI",
  "1F40aGREEK SMALL LETTER OMICRON WITH PSILIfDASIAfPSILI AND VARIAfDASIA AND VARIAfPSILI AND OXIA",
  "1F45aGREEK SMALL LETTER OMICRON WITH DASIA AND OXIA",
  "1F48aGREEK CAPITAL LETTER OMICRON WITH PSILIfDASIAfPSILI AND VARIAfDASIA AND VARIA",
  "1F4CaGREEK CAPITAL LETTER OMICRON WITH PSILI AND OXIAfDASIA AND OXIA",
  "1F50aGREEK SMALL LETTER UPSILON WITH PSILIfDASIAfPSILI AND VARIAfDASIA AND VARIAfPSILI AND OXIA",
  "1F55aGREEK SMALL LETTER UPSILON WITH DASIA AND OXIAfPSILI AND PERISPOMENIfDASIA AND PERISPOMENI",
  "1F59aGREEK CAPITAL LETTER UPSILON WITH DASIA",
  "1F5BaGREEK CAPITAL LETTER UPSILON WITH DASIA AND VARIA",
  "1F5DaGREEK CAPITAL LETTER UPSILON WITH DASIA AND OXIA",
  "1F5FaGREEK CAPITAL LETTER UPSILON WITH DASIA AND PERISPOMENIbSMALL LETTER OMEGA WITH PSILIfDASIA",
  "1F62aGREEK SMALL LETTER OMEGA WITH PSILI AND VARIAfDASIA AND VARIAfPSILI AND OXIAfDASIA AND OXIA",
  "1F66aGREEK SMALL LETTER OMEGA WITH PSILI AND PERISPOMENIfDASIA AND PERISPOMENI",
  "1F68aGREEK CAPITAL LETTER OMEGA WITH PSILIfDASIAfPSILI AND VARIAfDASIA AND VARIAfPSILI AND OXIA",
  "1F6DaGREEK CAPITAL LETTER OMEGA WITH DASIA AND OXIAfPSILI AND PERISPOMENIfDASIA AND PERISPOMENI",
  "1F70aGREEK SMALL LETTER ALPHA WITH VARIAfOXIAdEPSILON WITH VARIAfOXIAdETA WITH VARIAfOXIA",
  "1F76aGREEK SMALL LETTER IOTA WITH VARIAfOXIAdOMICRON WITH VARIAfOXIAdUPSILON WITH VARIAfOXIA",
  "1F7CaGREEK SMALL LETTER OMEGA WITH VARIAfOXIA",
  "1F80aGREEK SMALL LETTER ALPHA WITH PSILI AND YPOGEGRAMMENIfDASIA AND YPOGEGRAMMENI",
  "1F82aGREEK SMALL LETTER ALPHA WITH PSILI AND VARIA AND YPOGEGRAMMENI",
  "1F83aGREEK SMALL LETTER ALPHA WITH DASIA AND VARIA AND YPOGEGRAMMENI",
  "1F84aGREEK SMALL LETTER ALPHA WITH PSILI AND OXIA AND YPOGEGRAMMENI",
  "1F85aGREEK SMALL LETTER ALPHA WITH DASIA AND OXIA AND YPOGEGRAMMENI",
  "1F86aGREEK SMALL LETTER ALPHA WITH PSILI AND PERISPOMENI AND YPOGEGRAMMENI",
  "1F87aGREEK SMALL LETTER ALPHA WITH DASIA AND PERISPOMENI AND YPOGEGRAMMENI",
  "1F88aGREEK CAPITAL LETTER ALPHA WITH PSILI AND PROSGEGRAMMENIfDASIA AND PROSGEGRAMMENI",
  "1F8AaGREEK CAPITAL LETTER ALPHA WITH PSILI AND VARIA AND PROSGEGRAMMENI",
  "1F8BaGREEK CAPITAL LETTER ALPHA WITH DASIA AND VARIA AND PROSGEGRAMMENI",
  "1F8CaGREEK CAPITAL LETTER ALPHA WITH PSILI AND OXIA AND PROSGEGRAMMENI",
  "1F8DaGREEK CAPITAL LETTER ALPHA WITH DASIA AND OXIA AND PROSGEGRAMMENI",
  "1F8EaGREEK CAPITAL LETTER ALPHA WITH PSILI AND PERISPOMENI AND PROSGEGRAMMENI",
  "1F8FaGREEK CAPITAL LETTER ALPHA WITH DASIA AND PERISPOMENI AND PROSGEGRAMMENI",
  "1F90aGREEK SMALL LETTER ETA WITH PSILI AND YPOGEGRAMMENIfDASIA AND YPOGEGRAMMENI",
  "1F92aGREEK SMALL LETTER ETA WITH PSILI AND VARIA AND YPOGEGRAMMENI",
  "1F93aGREEK SMALL LETTER ETA WITH DASIA AND VARIA AND YPOGEGRAMMENI",
  "1F94aGREEK SMALL LETTER ETA WITH PSILI AND OXIA AND YPOGEGRAMMENI",
  "1F95aGREEK SMALL LETTER ETA WITH DASIA AND OXIA AND YPOGEGRAMMENI",
  "1F96aGREEK SMALL LETTER ETA WITH PSILI AND PERISPOMENI AND YPOGEGRAMMENI",
  "1F97aGREEK SMALL LETTER ETA WITH DASIA AND PERISPOMENI AND YPOGEGRAMMENI",
  "1F98aGREEK CAPITAL LETTER ETA WITH PSILI AND PROSGEGRAMMENIfDASIA AND PROSGEGRAMMENI",
  "1F9AaGREEK CAPITAL LETTER ETA WITH PSILI AND VARIA AND PROSGEGRAMMENI",
  "1F9BaGREEK CAPITAL LETTER ETA WITH DASIA AND VARIA AND PROSGEGRAMMENI",
  "1F9CaGREEK CAPITAL LETTER ETA WITH PSILI AND OXIA AND PROSGEGRAMMENI",
  "1F9DaGREEK CAPITAL LETTER ETA WITH DASIA AND OXIA AND PROSGEGRAMMENI",
  "1F9EaGREEK CAPITAL LETTER ETA WITH PSILI AND PERISPOMENI AND PROSGEGRAMMENI",
  "1F9FaGREEK CAPITAL LETTER ETA WITH DASIA AND PERISPOMENI AND PROSGEGRAMMENI",
  "1FA0aGREEK SMALL LETTER OMEGA WITH PSILI AND YPOGEGRAMMENIfDASIA AND YPOGEGRAMMENI",
  "1FA2aGREEK SMALL LETTER OMEGA WITH PSILI AND VARIA AND YPOGEGRAMMENI",
  "1FA3aGREEK SMALL LETTER OMEGA WITH DASIA AND VARIA AND YPOGEGRAMMENI",
  "1FA4aGREEK SMALL LETTER OMEGA WITH PSILI AND OXIA AND YPOGEGRAMMENI",
  "1FA5aGREEK SMALL LETTER OMEGA WITH DASIA AND OXIA AND YPOGEGRAMMENI",
  "1FA6aGREEK SMALL LETTER OMEGA WITH PSILI AND PERISPOMENI AND YPOGEGRAMMENI",
  "1FA7aGREEK SMALL LETTER OMEGA WITH DASIA AND PERISPOMENI AND YPOGEGRAMMENI",
  "1FA8aGREEK CAPITAL LETTER OMEGA WITH PSILI AND PROSGEGRAMMENIfDASIA AND PROSGEGRAMMENI",
  "1FAAaGREEK CAPITAL LETTER OMEGA WITH PSILI AND VARIA AND PROSGEGRAMMENI",
  "1FABaGREEK CAPITAL LETTER OMEGA WITH DASIA AND VARIA AND PROSGEGRAMMENI",
  "1FACaGREEK CAPITAL LETTER OMEGA WITH PSILI AND OXIA AND PROSGEGRAMMENI",
  "1FADaGREEK CAPITAL LETTER OMEGA WITH DASIA AND OXIA AND PROSGEGRAMMENI",
  "1FAEaGREEK CAPITAL LETTER OMEGA WITH PSILI AND PERISPOMENI AND PROSGEGRAMMENI",
  "1FAFaGREEK CAPITAL LETTER OMEGA WITH DASIA AND PERISPOMENI AND PROSGEGRAMMENI",
  "1FB0aGREEK SMALL LETTER ALPHA WITH VRACHYfMACRONfVARIA AND YPOGEGRAMMENIfYPOGEGRAMMENI",
  "1FB4aGREEK SMALL LETTER ALPHA WITH OXIA AND YPOGEGRAMMENI",
  "1FB6aGREEK SMALL LETTER ALPHA WITH PERISPOMENIgAND YPOGEGRAMMENI",
  "1FB8aGREEK CAPITAL LETTER ALPHA WITH VRACHYfMACRONfVARIAfOXIAfPROSGEGRAMMENIbKORONIS",
  "1FBEaGREEK PROSGEGRAMMENIbPSILIbPERISPOMENIbDIALYTIKA AND PERISPOMENI",
  "1FC2aGREEK SMALL LETTER ETA WITH VARIA AND YPOGEGRAMMENIfYPOGEGRAMMENIfOXIA AND YPOGEGRAMMENI",
  "1FC6aGREEK SMALL LETTER ETA WITH PERISPOMENIgAND YPOGEGRAMMENIbCAPITAL LETTER EPSILON WITH VARIA",
  "1FC9aGREEK CAPITAL LETTER EPSILON WITH OXIAdETA WITH VARIAfOXIAfPROSGEGRAMMENIbPSILI AND VARIA",
  "1FCEaGREEK PSILI AND OXIAdPERISPOMENIbSMALL LETTER IOTA WITH VRACHYfMACRONfDIALYTIKA AND VARIA",
  "1FD3aGREEK SMALL LETTER IOTA WITH DIALYTIKA AND OXIA",
  "1FD6aGREEK SMALL LETTER IOTA WITH PERISPOMENIfDIALYTIKA AND PERISPOMENI",
  "1FD8aGREEK CAPITAL LETTER IOTA WITH VRACHYfMACRONfVARIAfOXIA",
  "1FDDaGREEK DASIA AND VARIAdOXIAdPERISPOMENIbSMALL LETTER UPSILON WITH VRACHYfMACRON",
  "1FE2aGREEK SMALL LETTER UPSILON WITH DIALYTIKA AND VARIAhOXIAdRHO WITH PSILIfDASIA",
  "1FE6aGREEK SMALL LETTER UPSILON WITH PERISPOMENIfDIALYTIKA AND PERISPOMENI",
  "1FE8aGREEK CAPITAL LETTER UPSILON WITH VRACHYfMACRONfVARIAfOXIAdRHO WITH DASIA",
  "1FEDaGREEK DIALYTIKA AND VARIAdOXIAbVARIA",
  "1FF2aGREEK SMALL LETTER OMEGA WITH VARIA AND YPOGEGRAMMENIfYPOGEGRAMMENIfOXIA AND YPOGEGRAMMENI",
  "1FF6aGREEK SMALL LETTER OMEGA WITH PERISPOMENIgAND YPOGEGRAMMENI",
  "1FF8aGREEK CAPITAL LETTER OMICRON WITH VARIAfOXIAdOMEGA WITH VARIAfOXIAfPROSGEGRAMMENIbOXIA",
  "1FFEaGREEK DASIA",
  "2000aEN QUADaEM QUADaEN SPACEaEM SPACEaTHREE-PER-EM SPACEaFOUR-PER-EM SPACEaSIX-PER-EM SPACE",
  "2007aFIGURE SPACEaPUNCTUATION SPACEaTHIN SPACEaHAIR SPACEaZERO WIDTH SPACEcNON-JOINERcJOINER",
  "200EaLEFT-TO-RIGHT MARKaRIGHT-TO-LEFT MARKaHYPHENaNON-BREAKING HYPHENaFIGURE DASHaEN DASH",
  "2014aEM DASHaHORIZONTAL BARaDOUBLE VERTICAL LINEbLOW LINEaLEFT SINGLE QUOTATION MARK",
  "2019aRIGHT SINGLE QUOTATION MARKaSINGLE LOW-9 QUOTATION MARKbHIGH-REVERSED-9 QUOTATION MARK",
  "201CaLEFT DOUBLE QUOTATION MARKaRIGHT DOUBLE QUOTATION MARKaDOUBLE LOW-9 QUOTATION MARK",
  "201FaDOUBLE HIGH-REVERSED-9 QUOTATION MARKaDAGGERaDOUBLE DAGGERaBULLETaTRIANGULAR BULLET",
  "2024aONE DOT LEADERaTWO DOT LEADERaHORIZONTAL ELLIPSISaHYPHENATION POINTaLINE SEPARATOR",
  "2029aPARAGRAPH SEPARATORaLEFT-TO-RIGHT EMBEDDINGaRIGHT-TO-LEFT EMBEDDING",
  "202CaPOP DIRECTIONAL FORMATTINGaLEFT-TO-RIGHT OVERRIDEaRIGHT-TO-LEFT OVERRIDE",
  "202FaNARROW NO-BREAK SPACEaPER MILLE SIGNbTEN THOUSAND SIGNaPRIMEaDOUBLE PRIMEaTRIPLE PRIME",
  "2035aREVERSED PRIMEbDOUBLE PRIMEbTRIPLE PRIMEaCARETaSINGLE LEFT-POINTING ANGLE QUOTATION MARK",
  "203AaSINGLE RIGHT-POINTING ANGLE QUOTATION MARKaREFERENCE MARKaDOUBLE EXCLAMATION MARK",
  "203DaINTERROBANGaOVERLINEaUNDERTIEaCHARACTER TIEaCARET INSERTION POINTaASTERISMaHYPHEN BULLET",
  "2044aFRACTION SLASHaLEFT SQUARE BRACKET WITH QUILLaRIGHT SQUARE BRACKET WITH QUILL",
  "2047aDOUBLE QUESTION MARKaQUESTION EXCLAMATION MARKaEXCLAMATION QUESTION MARKaTIRONIAN SIGN ET",
  "204BaREVERSED PILCROW SIGNaBLACK LEFTWARDS BULLETbRIGHTWARDS BULLETaLOW ASTERISK",
  "204FaREVERSED SEMICOLONaCLOSE UPaTWO ASTERISKS ALIGNED VERTICALLYaCOMMERCIAL MINUS SIGN",
  "2053aSWUNG DASHaINVERTED UNDERTIEaFLOWER PUNCTUATION MARKaTHREE DOT PUNCTUATIONaQUADRUPLE PRIME",
  "2058aFOUR DOT PUNCTUATIONaFIVE DOT PUNCTUATIONaTWO DOT PUNCTUATIONaFOUR DOT MARKaDOTTED CROSS",
  "205DaTRICOLONaVERTICAL FOUR DOTSaMEDIUM MATHEMATICAL SPACEaWORD JOINERaFUNCTION APPLICATION",
  "2062aINVISIBLE TIMESbSEPARATORbPLUS",
  "2066aLEFT-TO-RIGHT ISOLATEaRIGHT-TO-LEFT ISOLATEaFIRST STRONG ISOLATEaPOP DIRECTIONAL ISOLATE",
  "206AaINHIBIT SYMMETRIC SWAPPINGaACTIVATE SYMMETRIC SWAPPINGaINHIBIT ARABIC FORM SHAPING",
  "206DaACTIVATE ARABIC FORM SHAPINGaNATIONAL DIGIT SHAPESaNOMINAL DIGIT SHAPESaSUPERSCRIPT ZERO",
  "2071aSUPERSCRIPT LATIN SMALL LETTER I",
  "2074aSUPERSCRIPT FOURbFIVEbSIXbSEVENbEIGHTbNINEbPLUS SIGNbMINUSbEQUALS SIGNbLEFT PARENTHESIS",
  "207EaSUPERSCRIPT RIGHT PARENTHESISbLATIN SMALL LETTER NaSUBSCRIPT ZERObONEbTWObTHREEbFOURbFIVE",
  "2086aSUBSCRIPT SIXbSEVENbEIGHTbNINEbPLUS SIGNbMINUSbEQUALS SIGNbLEFT PARENTHESIS",
  "208EaSUBSCRIPT RIGHT PARENTHESIS",
  "2090aLATIN SUBSCRIPT SMALL LETTER AeEeOeXeSCHWAeHeKeLeMeNePeSeT",
  "20A0aEURO-CURRENCY SIGNaCOLON SIGNaCRUZEIRO SIGNaFRENCH FRANC SIGNaLIRA SIGNaMILL SIGN",
  "20A6aNAIRA SIGNaPESETA SIGNaRUPEE SIGNaWON SIGNaNEW SHEQEL SIGNaDONG SIGNaEURO SIGNaKIP SIGN",
  "20AEaTUGRIK SIGNaDRACHMA SIGNaGERMAN PENNY SIGNaPESO SIGNaGUARANI SIGNaAUSTRAL SIGNaHRYVNIA SIGN",
  "20B5aCEDI SIGNaLIVRE TOURNOIS SIGNaSPESMILO SIGNaTENGE SIGNaINDIAN RUPEE SIGNaTURKISH LIRA SIGN",
  "20BBaNORDIC MARK SIGNaMANAT SIGNaRUBLE SIGNaLARI SIGNaBITCOIN SIGNaSOM SIGN",
  "20D0aCOMBINING LEFT HARPOON ABOVEbRIGHT HARPOON ABOVEbLONG VERTICAL LINE OVERLAY",
  "20D3aCOMBINING SHORT VERTICAL LINE OVERLAYbANTICLOCKWISE ARROW ABOVEbCLOCKWISE ARROW ABOVE",
  "20D6aCOMBINING LEFT ARROW ABOVEbRIGHT ARROW ABOVEbRING OVERLAYbCLOCKWISE RING OVERLAY",
  "20DAaCOMBINING ANTICLOCKWISE RING OVERLAYbTHREE DOTS ABOVEbFOUR DOTS ABOVEbENCLOSING CIRCLE",
  "20DEaCOMBINING ENCLOSING SQUAREcDIAMONDcCIRCLE BACKSLASHbLEFT RIGHT ARROW ABOVEbENCLOSING SCREEN",
  "20E3aCOMBINING ENCLOSING KEYCAPcUPWARD POINTING TRIANGLEbREVERSE SOLIDUS OVERLAY",
  "20E6aCOMBINING DOUBLE VERTICAL STROKE OVERLAYbANNUITY SYMBOLbTRIPLE UNDERDOTbWIDE BRIDGE ABOVE",
  "20EAaCOMBINING LEFTWARDS ARROW OVERLAYbLONG DOUBLE SOLIDUS OVERLAY",
  "20ECaCOMBINING RIGHTWARDS HARPOON WITH BARB DOWNWARDSbLEFTWARDS HARPOON WITH BARB DOWNWARDS",
  "20EEaCOMBINING LEFT ARROW BELOWbRIGHT ARROW BELOWbASTERISK ABOVE",
  "2100aACCOUNT OFaADDRESSED TO THE SUBJECTaDOUBLE-STRUCK CAPITAL CaDEGREE CELSIUS",
  "2104aCENTRE LINE SYMBOLaCARE OFaCADA UNAaEULER CONSTANTaSCRUPLEaDEGREE FAHRENHEITaSCRIPT SMALL G",
  "210BaSCRIPT CAPITAL HaBLACK-LETTER CAPITAL HaDOUBLE-STRUCK CAPITAL HaPLANCK CONSTANTcOVER TWO PI",
  "2110aSCRIPT CAPITAL IaBLACK-LETTER CAPITAL IaSCRIPT CAPITAL LbSMALL LaL B BAR SYMBOL",
  "2115aDOUBLE-STRUCK CAPITAL NaNUMERO SIGNaSOUND RECORDING COPYRIGHTaSCRIPT CAPITAL P",
  "2119aDOUBLE-STRUCK CAPITAL PcQaSCRIPT CAPITAL RaBLACK-LETTER CAPITAL RaDOUBLE-STRUCK CAPITAL R",
  "211EaPRESCRIPTION TAKEaRESPONSEaSERVICE MARKaTELEPHONE SIGNaTRADE MARK SIGNaVERSICLE",
  "2124aDOUBLE-STRUCK CAPITAL ZaOUNCE SIGNaOHM SIGNaINVERTED OHM SIGNaBLACK-LETTER CAPITAL Z",
  "2129aTURNED GREEK SMALL LETTER IOTAaKELVIN SIGNaANGSTROM SIGNaSCRIPT CAPITAL B",
  "212DaBLACK-LETTER CAPITAL CaESTIMATED SYMBOLaSCRIPT SMALL EbCAPITAL EcFaTURNED CAPITAL F",
  "2133aSCRIPT CAPITAL MbSMALL OaALEF SYMBOLaBET SYMBOLaGIMEL SYMBOLaDALET SYMBOL",
  "2139aINFORMATION SOURCEaROTATED CAPITAL QaFACSIMILE SIGNaDOUBLE-STRUCK SMALL PIcGAMMA",
  "213EaDOUBLE-STRUCK CAPITAL GAMMAcPIbN-ARY SUMMATIONaTURNED SANS-SERIF CAPITAL GdL",
  "2143aREVERSED SANS-SERIF CAPITAL LaTURNED SANS-SERIF CAPITAL YaDOUBLE-STRUCK ITALIC CAPITAL D",
  "2146aDOUBLE-STRUCK ITALIC SMALL DdEdIdJaPROPERTY LINEaTURNED AMPERSANDaPER SIGNaAKTIESELSKAB",
  "214EaTURNED SMALL FaSYMBOL FOR SAMARITAN SOURCEaVULGAR FRACTION ONE SEVENTHdNINTHdTENTHdTHIRD",
  "2154aVULGAR FRACTION TWO THIRDScONE FIFTHcTWO FIFTHScTHREE FIFTHScFOUR FIFTHScONE SIXTH",
  "215AaVULGAR FRACTION FIVE SIXTHScONE EIGHTHcTHREE EIGHTHScFIVE EIGHTHScSEVEN EIGHTHS",
  "215FaFRACTION NUMERATOR ONEaROMAN NUMERAL ONEcTWOcTHREEcFOURcFIVEcSIXcSEVENcEIGHTcNINEcTEN",
  "216AaROMAN NUMERAL ELEVENcTWELVEcFIFTYcONE HUNDREDcFIVE HUNDREDcONE THOUSAND",
  "2170aSMALL ROMAN NUMERAL ONEdTWOdTHREEdFOURdFIVEdSIXdSEVENdEIGHTdNINEdTENdELEVENdTWELVEdFIFTY",
  "217DaSMALL ROMAN NUMERAL ONE HUNDREDdFIVE HUNDREDdONE THOUSANDaROMAN NUMERAL ONE THOUSAND C D",
  "2181aROMAN NUMERAL FIVE THOUSANDcTEN THOUSANDcREVERSED ONE HUNDREDaLATIN SMALL LETTER REVERSED C",
  "2185aROMAN NUMERAL SIX LATE FORMcFIFTY EARLY FORMdTHOUSANDcONE HUNDRED THOUSAND",
  "2189aVULGAR FRACTION ZERO THIRDSaTURNED DIGIT TWOcTHREE",
  "2190aLEFTWARDS ARROWaUPWARDS ARROWaRIGHTWARDS ARROWaDOWNWARDS ARROWaLEFT RIGHT ARROW",
  "2195aUP DOWN ARROWaNORTH WEST ARROWbEAST ARROWaSOUTH EAST ARROWbWEST ARROW",
  "219AaLEFTWARDS ARROW WITH STROKEaRIGHTWARDS ARROW WITH STROKEaLEFTWARDS WAVE ARROW",
  "219DaRIGHTWARDS WAVE ARROWaLEFTWARDS TWO HEADED ARROWaUPWARDS TWO HEADED ARROW",
  "21A0aRIGHTWARDS TWO HEADED ARROWaDOWNWARDS TWO HEADED ARROWaLEFTWARDS ARROW WITH TAIL",
  "21A3aRIGHTWARDS ARROW WITH TAILaLEFTWARDS ARROW FROM BARaUPWARDS ARROW FROM BAR",
  "21A6aRIGHTWARDS ARROW FROM BARaDOWNWARDS ARROW FROM BARaUP DOWN ARROW WITH BASE",
  "21A9aLEFTWARDS ARROW WITH HOOKaRIGHTWARDS ARROW WITH HOOKaLEFTWARDS ARROW WITH LOOP",
  "21ACaRIGHTWARDS ARROW WITH LOOPaLEFT RIGHT WAVE ARROWcARROW WITH STROKEaDOWNWARDS ZIGZAG ARROW",
  "21B0aUPWARDS ARROW WITH TIP LEFTWARDSeRIGHTWARDSaDOWNWARDS ARROW WITH TIP LEFTWARDSeRIGHTWARDS",
  "21B4aRIGHTWARDS ARROW WITH CORNER DOWNWARDSaDOWNWARDS ARROW WITH CORNER LEFTWARDS",
  "21B6aANTICLOCKWISE TOP SEMICIRCLE ARROWaCLOCKWISE TOP SEMICIRCLE ARROW",
  "21B8aNORTH WEST ARROW TO LONG BARaLEFTWARDS ARROW TO BAR OVER RIGHTWARDS ARROW TO BAR",
  "21BAaANTICLOCKWISE OPEN CIRCLE ARROWaCLOCKWISE OPEN CIRCLE ARROW",
  "21BCaLEFTWARDS HARPOON WITH BARB UPWARDSeDOWNWARDSaUPWARDS HARPOON WITH BARB RIGHTWARDS",
  "21BFaUPWARDS HARPOON WITH BARB LEFTWARDSaRIGHTWARDS HARPOON WITH BARB UPWARDSeDOWNWARDS",
  "21C2aDOWNWARDS HARPOON WITH BARB RIGHTWARDSeLEFTWARDSaRIGHTWARDS ARROW OVER LEFTWARDS ARROW",
  "21C5aUPWARDS ARROW LEFTWARDS OF DOWNWARDS ARROWaLEFTWARDS ARROW OVER RIGHTWARDS ARROW",
  "21C7aLEFTWARDS PAIRED ARROWSaUPWARDS PAIRED ARROWSaRIGHTWARDS PAIRED ARROWS",
  "21CAaDOWNWARDS PAIRED ARROWSaLEFTWARDS HARPOON OVER RIGHTWARDS HARPOON",
  "21CCaRIGHTWARDS HARPOON OVER LEFTWARDS HARPOONaLEFTWARDS DOUBLE ARROW WITH STROKE",
  "21CEaLEFT RIGHT DOUBLE ARROW WITH STROKEaRIGHTWARDS DOUBLE ARROW WITH STROKE",
  "21D0aLEFTWARDS DOUBLE ARROWaUPWARDS DOUBLE ARROWaRIGHTWARDS DOUBLE ARROWaDOWNWARDS DOUBLE ARROW",
  "21D4aLEFT RIGHT DOUBLE ARROWaUP DOWN DOUBLE ARROWaNORTH WEST DOUBLE ARROWbEAST DOUBLE ARROW",
  "21D8aSOUTH EAST DOUBLE ARROWbWEST DOUBLE ARROWaLEFTWARDS TRIPLE ARROWaRIGHTWARDS TRIPLE ARROW",
  "21DCaLEFTWARDS SQUIGGLE ARROWaRIGHTWARDS SQUIGGLE ARROWaUPWARDS ARROW WITH DOUBLE STROKE",
  "21DFaDOWNWARDS ARROW WITH DOUBLE STROKEaLEFTWARDS DASHED ARROWaUPWARDS DASHED ARROW",
  "21E2aRIGHTWARDS DASHED ARROWaDOWNWARDS DASHED ARROWaLEFTWARDS ARROW TO BAR",
  "21E5aRIGHTWARDS ARROW TO BARaLEFTWARDS WHITE ARROWaUPWARDS WHITE ARROWaRIGHTWARDS WHITE ARROW",
  "21E9aDOWNWARDS WHITE ARROWaUPWARDS WHITE ARROW FROM BARdON PEDESTALfWITH HORIZONTAL BAR",
  "21EDaUPWARDS WHITE ARROW ON PEDESTAL WITH VERTICAL BARcDOUBLE ARROWeON PEDESTAL",
  "21F0aRIGHTWARDS WHITE ARROW FROM WALLaNORTH WEST ARROW TO CORNERaSOUTH EAST ARROW TO CORNER",
  "21F3aUP DOWN WHITE ARROWaRIGHT ARROW WITH SMALL CIRCLE",
  "21F5aDOWNWARDS ARROW LEFTWARDS OF UPWARDS ARROWaTHREE RIGHTWARDS ARROWS",
  "21F7aLEFTWARDS ARROW WITH VERTICAL STROKEaRIGHTWARDS ARROW WITH VERTICAL STROKE",
  "21F9aLEFT RIGHT ARROW WITH VERTICAL STROKEaLEFTWARDS ARROW WITH DOUBLE VERTICAL STROKE",
  "21FBaRIGHTWARDS ARROW WITH DOUBLE VERTICAL STROKEaLEFT RIGHT ARROW WITH DOUBLE VERTICAL STROKE",
  "21FDaLEFTWARDS OPEN-HEADED ARROWaRIGHTWARDS OPEN-HEADED ARROWaLEFT RIGHT OPEN-HEADED ARROW",
  "2200aFOR ALLaCOMPLEMENTaPARTIAL DIFFERENTIALaTHERE EXISTSbDOES NOT EXISTaEMPTY SETaINCREMENT",
  "2207aNABLAaELEMENT OFaNOT AN ELEMENT OFaSMALL ELEMENT OFaCONTAINS AS MEMBER",
  "220CaDOES NOT CONTAIN AS MEMBERaSMALL CONTAINS AS MEMBERaEND OF PROOFaN-ARY PRODUCTbCOPRODUCT",
  "2211aN-ARY SUMMATIONaMINUS SIGNaMINUS-OR-PLUS SIGNaDOT PLUSaDIVISION SLASHaSET MINUS",
  "2217aASTERISK OPERATORaRING OPERATORaBULLET OPERATORaSQUARE ROOTaCUBE ROOTaFOURTH ROOT",
  "221DaPROPORTIONAL TOaINFINITYaRIGHT ANGLEaANGLEaMEASURED ANGLEaSPHERICAL ANGLEaDIVIDES",
  "2224aDOES NOT DIVIDEaPARALLEL TOaNOT PARALLEL TOaLOGICAL ANDbORaINTERSECTIONaUNIONaINTEGRAL",
  "222CaDOUBLE INTEGRALaTRIPLE INTEGRALaCONTOUR INTEGRALaSURFACE INTEGRALaVOLUME INTEGRAL",
  "2231aCLOCKWISE INTEGRALbCONTOUR INTEGRALaANTICLOCKWISE CONTOUR INTEGRALaTHEREFOREaBECAUSEaRATIO",
  "2237aPROPORTIONaDOT MINUSaEXCESSaGEOMETRIC PROPORTIONaHOMOTHETICaTILDE OPERATORaREVERSED TILDE",
  "223EaINVERTED LAZY SaSINE WAVEaWREATH PRODUCTaNOT TILDEaMINUS TILDEaASYMPTOTICALLY EQUAL TO",
  "2244aNOT ASYMPTOTICALLY EQUAL TOaAPPROXIMATELY EQUAL TObBUT NOT ACTUALLY EQUAL TO",
  "2247aNEITHER APPROXIMATELY NOR ACTUALLY EQUAL TOaALMOST EQUAL TOaNOT ALMOST EQUAL TO",
  "224AaALMOST EQUAL OR EQUAL TOaTRIPLE TILDEaALL EQUAL TOaEQUIVALENT TO",
  "224EaGEOMETRICALLY EQUIVALENT TOaDIFFERENCE BETWEENaAPPROACHES THE LIMITaGEOMETRICALLY EQUAL TO",
  "2252aAPPROXIMATELY EQUAL TO OR THE IMAGE OFaIMAGE OF OR APPROXIMATELY EQUAL TOaCOLON EQUALS",
  "2255aEQUALS COLONaRING IN EQUAL TObEQUAL TOaCORRESPONDS TOaESTIMATESaEQUIANGULAR TOaSTAR EQUALS",
  "225CaDELTA EQUAL TOaEQUAL TO BY DEFINITIONaMEASURED BYaQUESTIONED EQUAL TOaNOT EQUAL TO",
  "2261aIDENTICAL TOaNOT IDENTICAL TOaSTRICTLY EQUIVALENT TOaLESS-THAN OR EQUAL TO",
  "2265aGREATER-THAN OR EQUAL TOaLESS-THAN OVER EQUAL TOaGREATER-THAN OVER EQUAL TO",
  "2268aLESS-THAN BUT NOT EQUAL TOaGREATER-THAN BUT NOT EQUAL TOaMUCH LESS-THANbGREATER-THAN",
  "226CaBETWEENaNOT EQUIVALENT TObLESS-THANbGREATER-THANaNEITHER LESS-THAN NOR EQUAL TO",
  "2271aNEITHER GREATER-THAN NOR EQUAL TOaLESS-THAN OR EQUIVALENT TOaGREATER-THAN OR EQUIVALENT TO",
  "2274aNEITHER LESS-THAN NOR EQUIVALENT TObGREATER-THAN NOR EQUIVALENT TO",
  "2276aLESS-THAN OR GREATER-THANaGREATER-THAN OR LESS-THANaNEITHER LESS-THAN NOR GREATER-THAN",
  "2279aNEITHER GREATER-THAN NOR LESS-THANaPRECEDESaSUCCEEDSaPRECEDES OR EQUAL TO",
  "227DaSUCCEEDS OR EQUAL TOaPRECEDES OR EQUIVALENT TOaSUCCEEDS OR EQUIVALENT TOaDOES NOT PRECEDE",
  "2281aDOES NOT SUCCEEDaSUBSET OFaSUPERSET OFaNOT A SUBSET OFcSUPERSET OFaSUBSET OF OR EQUAL TO",
  "2287aSUPERSET OF OR EQUAL TOaNEITHER A SUBSET OF NOR EQUAL TOcSUPERSET OF NOR EQUAL TO",
  "228AaSUBSET OF WITH NOT EQUAL TOaSUPERSET OF WITH NOT EQUAL TOaMULTISETbMULTIPLICATIONbUNION",
  "228FaSQUARE IMAGE OFbORIGINAL OFbIMAGE OF OR EQUAL TObORIGINAL OF OR EQUAL TObCAPbCUP",
  "2295aCIRCLED PLUSbMINUSbTIMESbDIVISION SLASHbDOT OPERATORbRING OPERATORbASTERISK OPERATORbEQUALS",
  "229DaCIRCLED DASHaSQUARED PLUSbMINUSbTIMESbDOT OPERATORaRIGHT TACKaLEFT TACKaDOWN TACKaUP TACK",
  "22A6aASSERTIONaMODELSaTRUEaFORCESaTRIPLE VERTICAL BAR RIGHT TURNSTILE",
  "22ABaDOUBLE VERTICAL BAR DOUBLE RIGHT TURNSTILEaDOES NOT PROVEaNOT TRUEaDOES NOT FORCE",
  "22AFaNEGATED DOUBLE VERTICAL BAR DOUBLE RIGHT TURNSTILEaPRECEDES UNDER RELATION",
  "22B1aSUCCEEDS UNDER RELATIONaNORMAL SUBGROUP OFaCONTAINS AS NORMAL SUBGROUP",
  "22B4aNORMAL SUBGROUP OF OR EQUAL TOaCONTAINS AS NORMAL SUBGROUP OR EQUAL TOaORIGINAL OFaIMAGE OF",
  "22B8aMULTIMAPaHERMITIAN CONJUGATE MATRIXaINTERCALATEaXORaNANDaNORaRIGHT ANGLE WITH ARCbTRIANGLE",
  "22C0aN-ARY LOGICAL ANDcORbINTERSECTIONbUNIONaDIAMOND OPERATORaDOT OPERATORaSTAR OPERATOR",
  "22C7aDIVISION TIMESaBOWTIEaLEFT NORMAL FACTOR SEMIDIRECT PRODUCT",
  "22CAaRIGHT NORMAL FACTOR SEMIDIRECT PRODUCTaLEFT SEMIDIRECT PRODUCTaRIGHT SEMIDIRECT PRODUCT",
  "22CDaREVERSED TILDE EQUALSaCURLY LOGICAL ORcANDaDOUBLE SUBSETbSUPERSETbINTERSECTIONbUNION",
  "22D4aPITCHFORKaEQUAL AND PARALLEL TOaLESS-THAN WITH DOTaGREATER-THAN WITH DOT",
  "22D8aVERY MUCH LESS-THANcGREATER-THANaLESS-THAN EQUAL TO OR GREATER-THAN",
  "22DBaGREATER-THAN EQUAL TO OR LESS-THANaEQUAL TO OR LESS-THANdGREATER-THANdPRECEDESdSUCCEEDS",
  "22E0aDOES NOT PRECEDE OR EQUALcSUCCEED OR EQUALaNOT SQUARE IMAGE OF OR EQUAL TO",
  "22E3aNOT SQUARE ORIGINAL OF OR EQUAL TOaSQUARE IMAGE OF OR NOT EQUAL TO",
  "22E5aSQUARE ORIGINAL OF OR NOT EQUAL TOaLESS-THAN BUT NOT EQUIVALENT TO",
  "22E7aGREATER-THAN BUT NOT EQUIVALENT TOaPRECEDES BUT NOT EQUIVALENT TO",
  "22E9aSUCCEEDS BUT NOT EQUIVALENT TOaNOT NORMAL SUBGROUP OFaDOES NOT CONTAIN AS NORMAL SUBGROUP",
  "22ECaNOT NORMAL SUBGROUP OF OR EQUAL TOaDOES NOT CONTAIN AS NORMAL SUBGROUP OR EQUAL",
  "22EEaVERTICAL ELLIPSISaMIDLINE HORIZONTAL ELLIPSISaUP RIGHT DIAGONAL ELLIPSIS",
  "22F1aDOWN RIGHT DIAGONAL ELLIPSISaELEMENT OF WITH LONG HORIZONTAL STROKE",
  "22F3aELEMENT OF WITH VERTICAL BAR AT END OF HORIZONTAL STROKE",
  "22F4aSMALL ELEMENT OF WITH VERTICAL BAR AT END OF HORIZONTAL STROKEaELEMENT OF WITH DOT ABOVE",
  "22F6aELEMENT OF WITH OVERBARaSMALL ELEMENT OF WITH OVERBARaELEMENT OF WITH UNDERBAR",
  "22F9aELEMENT OF WITH TWO HORIZONTAL STROKESaCONTAINS WITH LONG HORIZONTAL STROKE",
  "22FBaCONTAINS WITH VERTICAL BAR AT END OF HORIZONTAL STROKE",
  "22FCaSMALL CONTAINS WITH VERTICAL BAR AT END OF HORIZONTAL STROKEaCONTAINS WITH OVERBAR",
  "22FEaSMALL CONTAINS WITH OVERBARaZ NOTATION BAG MEMBERSHIPaDIAMETER SIGNaELECTRIC ARROWaHOUSE",
  "2303aUP ARROWHEADaDOWN ARROWHEADaPROJECTIVEaPERSPECTIVEaWAVY LINEaLEFT CEILINGaRIGHT CEILING",
  "230AaLEFT FLOORaRIGHT FLOORaBOTTOM RIGHT CROPbLEFT CROPaTOP RIGHT CROPbLEFT CROP",
  "2310aREVERSED NOT SIGNaSQUARE LOZENGEaARCaSEGMENTaSECTORaTELEPHONE RECORDERaPOSITION INDICATOR",
  "2317aVIEWDATA SQUAREaPLACE OF INTEREST SIGNaTURNED NOT SIGNaWATCHaHOURGLASSaTOP LEFT CORNER",
  "231DaTOP RIGHT CORNERaBOTTOM LEFT CORNERbRIGHT CORNERaTOP HALF INTEGRALaBOTTOM HALF INTEGRAL",
  "2322aFROWNaSMILEaUP ARROWHEAD BETWEEN TWO HORIZONTAL BARSaOPTION KEYaERASE TO THE RIGHT",
  "2327aX IN A RECTANGLE BOXaKEYBOARDaLEFT-POINTING ANGLE BRACKETaRIGHT-POINTING ANGLE BRACKET",
  "232BaERASE TO THE LEFTaBENZENE RINGaCYLINDRICITYaALL AROUND-PROFILEaSYMMETRYaTOTAL RUNOUT",
  "2331aDIMENSION ORIGINaCONICAL TAPERaSLOPEaCOUNTERBOREaCOUNTERSINKaAPL FUNCTIONAL SYMBOL I-BEAM",
  "2337aAPL FUNCTIONAL SYMBOL SQUISH QUADdQUAD EQUALeDIVIDEeDIAMONDeJOTeCIRCLEdCIRCLE STILEeJOT",
  "233FaAPL FUNCTIONAL SYMBOL SLASH BARdBACKSLASH BARdQUAD SLASHeBACKSLASHeLESS-THANeGREATER-THAN",
  "2345aAPL FUNCTIONAL SYMBOL LEFTWARDS VANEdRIGHTWARDS VANEdQUAD LEFTWARDS ARROWeRIGHTWARDS ARROW",
  "2349aAPL FUNCTIONAL SYMBOL CIRCLE BACKSLASHdDOWN TACK UNDERBARdDELTA STILEdQUAD DOWN CARETeDELTA",
  "234EaAPL FUNCTIONAL SYMBOL DOWN TACK JOTdUPWARDS VANEdQUAD UPWARDS ARROWdUP TACK OVERBAR",
  "2352aAPL FUNCTIONAL SYMBOL DEL STILEdQUAD UP CARETeDELdUP TACK JOTdDOWNWARDS VANE",
  "2357aAPL FUNCTIONAL SYMBOL QUAD DOWNWARDS ARROWdQUOTE UNDERBARdDELTA UNDERBARdDIAMOND UNDERBAR",
  "235BaAPL FUNCTIONAL SYMBOL JOT UNDERBARdCIRCLE UNDERBARdUP SHOE JOTdQUOTE QUADdCIRCLE STAR",
  "2360aAPL FUNCTIONAL SYMBOL QUAD COLONdUP TACK DIAERESISdDEL DIAERESISdSTAR DIAERESIS",
  "2364aAPL FUNCTIONAL SYMBOL JOT DIAERESISdCIRCLE DIAERESISdDOWN SHOE STILEdLEFT SHOE STILE",
  "2368aAPL FUNCTIONAL SYMBOL TILDE DIAERESISdGREATER-THAN DIAERESISdCOMMA BARdDEL TILDEdZILDE",
  "236DaAPL FUNCTIONAL SYMBOL STILE TILDEdSEMICOLON UNDERBARdQUAD NOT EQUALeQUESTION",
  "2371aAPL FUNCTIONAL SYMBOL DOWN CARET TILDEdUP CARET TILDEdIOTAdRHOdOMEGAdALPHA UNDERBAR",
  "2377aAPL FUNCTIONAL SYMBOL EPSILON UNDERBARdIOTA UNDERBARdOMEGA UNDERBARdALPHAaNOT CHECK MARK",
  "237CaRIGHT ANGLE WITH DOWNWARDS ZIGZAG ARROWaSHOULDERED OPEN BOXaBELL SYMBOL",
  "237FaVERTICAL LINE WITH MIDDLE DOTaINSERTION SYMBOLaCONTINUOUS UNDERLINE SYMBOL",
  "2382aDISCONTINUOUS UNDERLINE SYMBOLaEMPHASIS SYMBOLaCOMPOSITION SYMBOL",
  "2385aWHITE SQUARE WITH CENTRE VERTICAL LINEaENTER SYMBOLaALTERNATIVE KEY SYMBOLaHELM SYMBOL",
  "2389aCIRCLED HORIZONTAL BAR WITH NOTCHbTRIANGLE DOWNaBROKEN CIRCLE WITH NORTHWEST ARROW",
  "238CaUNDO SYMBOLaMONOSTABLE SYMBOLaHYSTERESIS SYMBOLaOPEN-CIRCUIT-OUTPUT H-TYPE SYMBOL",
  "2390aOPEN-CIRCUIT-OUTPUT L-TYPE SYMBOLaPASSIVE-PULL-DOWN-OUTPUT SYMBOL",
  "2392aPASSIVE-PULL-UP-OUTPUT SYMBOLaDIRECT CURRENT SYMBOL FORM TWOaSOFTWARE-FUNCTION SYMBOL",
  "2395aAPL FUNCTIONAL SYMBOL QUADaDECIMAL SEPARATOR KEY SYMBOLaPREVIOUS PAGEaNEXT PAGE",
  "2399aPRINT SCREEN SYMBOLaCLEAR SCREEN SYMBOLaLEFT PARENTHESIS UPPER HOOKcEXTENSIONcLOWER HOOK",
  "239EaRIGHT PARENTHESIS UPPER HOOKcEXTENSIONcLOWER HOOKaLEFT SQUARE BRACKET UPPER CORNER",
  "23A2aLEFT SQUARE BRACKET EXTENSIONdLOWER CORNERaRIGHT SQUARE BRACKET UPPER CORNERdEXTENSION",
  "23A6aRIGHT SQUARE BRACKET LOWER CORNERaLEFT CURLY BRACKET UPPER HOOKdMIDDLE PIECEdLOWER HOOK",
  "23AAaCURLY BRACKET EXTENSIONaRIGHT CURLY BRACKET UPPER HOOKdMIDDLE PIECEdLOWER HOOK",
  "23AEaINTEGRAL EXTENSIONaHORIZONTAL LINE EXTENSION",
  "23B0aUPPER LEFT OR LOWER RIGHT CURLY BRACKET SECTIONbRIGHT OR LOWER LEFT CURLY BRACKET SECTION",
  "23B2aSUMMATION TOPbBOTTOMaTOP SQUARE BRACKETaBOTTOM SQUARE BRACKETdOVER TOP SQUARE BRACKET",
  "23B7aRADICAL SYMBOL BOTTOMaLEFT VERTICAL BOX LINEaRIGHT VERTICAL BOX LINEaHORIZONTAL SCAN LINE-1",
  "23BBaHORIZONTAL SCAN LINE-3cLINE-7cLINE-9aDENTISTRY SYMBOL LIGHT VERTICAL AND TOP RIGHT",
  "23BFaDENTISTRY SYMBOL LIGHT VERTICAL AND BOTTOM RIGHTeWITH CIRCLE",
  "23C1aDENTISTRY SYMBOL LIGHT DOWN AND HORIZONTAL WITH CIRCLEdUP AND HORIZONTAL WITH CIRCLE",
  "23C3aDENTISTRY SYMBOL LIGHT VERTICAL WITH TRIANGLEdDOWN AND HORIZONTAL WITH TRIANGLE",
  "23C5aDENTISTRY SYMBOL LIGHT UP AND HORIZONTAL WITH TRIANGLEdVERTICAL AND WAVE",
  "23C7aDENTISTRY SYMBOL LIGHT DOWN AND HORIZONTAL WITH WAVEdUP AND HORIZONTAL WITH WAVE",
  "23C9aDENTISTRY SYMBOL LIGHT DOWN AND HORIZONTALdUP AND HORIZONTALdVERTICAL AND TOP LEFT",
  "23CCaDENTISTRY SYMBOL LIGHT VERTICAL AND BOTTOM LEFTaSQUARE FOOTaRETURN SYMBOLaEJECT SYMBOL",
  "23D0aVERTICAL LINE EXTENSIONaMETRICAL BREVEbLONG OVER SHORTbSHORT OVER LONGbLONG OVER TWO SHORTS",
  "23D5aMETRICAL TWO SHORTS OVER LONGdJOINEDbTRISEMEbTETRASEMEbPENTASEMEaEARTH GROUNDaFUSE",
  "23DCaTOP PARENTHESISaBOTTOM PARENTHESISaTOP CURLY BRACKETaBOTTOM CURLY BRACKET",
  "23E0aTOP TORTOISE SHELL BRACKETaBOTTOM TORTOISE SHELL BRACKETaWHITE TRAPEZIUM",
  "23E3aBENZENE RING WITH CIRCLEaSTRAIGHTNESSaFLATNESSaAC CURRENTaELECTRICAL INTERSECTION",
  "23E8aDECIMAL EXPONENT SYMBOLaBLACK RIGHT-POINTING DOUBLE TRIANGLEbLEFT-POINTING DOUBLE TRIANGLE",
  "23EBaBLACK UP-POINTING DOUBLE TRIANGLEbDOWN-POINTING DOUBLE TRIANGLE",
  "23EDaBLACK RIGHT-POINTING DOUBLE TRIANGLE WITH VERTICAL BAR",
  "23EEaBLACK LEFT-POINTING DOUBLE TRIANGLE WITH VERTICAL BAR",
  "23EFaBLACK RIGHT-POINTING TRIANGLE WITH DOUBLE VERTICAL BARaALARM CLOCKaSTOPWATCHaTIMER CLOCK",
  "23F3aHOURGLASS WITH FLOWING SANDaBLACK MEDIUM LEFT-POINTING TRIANGLEcRIGHT-POINTING TRIANGLE",
  "23F6aBLACK MEDIUM UP-POINTING TRIANGLEcDOWN-POINTING TRIANGLEaDOUBLE VERTICAL BAR",
  "23F9aBLACK SQUARE FOR STOPbCIRCLE FOR RECORDaPOWER SYMBOLbON-OFF SYMBOLbON SYMBOLbSLEEP SYMBOL",
  "23FFaOBSERVER EYE SYMBOLaSYMBOL FOR NULLcSTART OF HEADINGeTEXTcEND OF TEXTeTRANSMISSIONcENQUIRY",
  "2406aSYMBOL FOR ACKNOWLEDGEcBELLcBACKSPACEcHORIZONTAL TABULATIONcLINE FEEDcVERTICAL TABULATION",
  "240CaSYMBOL FOR FORM FEEDcCARRIAGE RETURNcSHIFT OUTdINcDATA LINK ESCAPEcDEVICE CONTROL ONEeTWO",
  "2413aSYMBOL FOR DEVICE CONTROL THREEeFOURcNEGATIVE ACKNOWLEDGEcSYNCHRONOUS IDLE",
  "2417aSYMBOL FOR END OF TRANSMISSION BLOCKcCANCELcEND OF MEDIUMcSUBSTITUTEcESCAPEcFILE SEPARATOR",
  "241DaSYMBOL FOR GROUP SEPARATORcRECORD SEPARATORcUNIT SEPARATORcSPACEcDELETEaBLANK SYMBOL",
  "2423aOPEN BOXaSYMBOL FOR NEWLINEcDELETE FORM TWOcSUBSTITUTE FORM TWO",
  "2440aOCR HOOKbCHAIRbFORKbINVERTED FORKbBELT BUCKLEbBOW TIEbBRANCH BANK IDENTIFICATION",
  "2447aOCR AMOUNT OF CHECKbDASHbCUSTOMER ACCOUNT NUMBERbDOUBLE BACKSLASH",
  "2460aCIRCLED DIGIT ONEcTWOcTHREEcFOURcFIVEcSIXcSEVENcEIGHTcNINEbNUMBER TENcELEVENcTWELVE",
  "246CaCIRCLED NUMBER THIRTEENcFOURTEENcFIFTEENcSIXTEENcSEVENTEENcEIGHTEENcNINETEENcTWENTY",
  "2474aPARENTHESIZED DIGIT ONEcTWOcTHREEcFOURcFIVEcSIXcSEVENcEIGHTcNINEbNUMBER TENcELEVENcTWELVE",
  "2480aPARENTHESIZED NUMBER THIRTEENcFOURTEENcFIFTEENcSIXTEENcSEVENTEENcEIGHTEENcNINETEENcTWENTY",
  "2488aDIGIT ONE FULL STOPbTWO FULL STOPbTHREE FULL STOPbFOUR FULL STOPbFIVE FULL STOP",
  "248DaDIGIT SIX FULL STOPbSEVEN FULL STOPbEIGHT FULL STOPbNINE FULL STOPaNUMBER TEN FULL STOP",
  "2492aNUMBER ELEVEN FULL STOPbTWELVE FULL STOPbTHIRTEEN FULL STOPbFOURTEEN FULL STOP",
  "2496aNUMBER FIFTEEN FULL STOPbSIXTEEN FULL STOPbSEVENTEEN FULL STOPbEIGHTEEN FULL STOP",
  "249AaNUMBER NINETEEN FULL STOPbTWENTY FULL STOPaPARENTHESIZED LATIN SMALL LETTER AeBeCeDeEeFeGeH",
  "24A4aPARENTHESIZED LATIN SMALL LETTER IeJeKeLeMeNeOePeQeReSeTeUeVeWeXeYeZ",
  "24B6aCIRCLED LATIN CAPITAL LETTER AeBeCeDeEeFeGeHeIeJeKeLeMeNeOePeQeReSeTeUeVeWeXeYeZ",
  "24D0aCIRCLED LATIN SMALL LETTER AeBeCeDeEeFeGeHeIeJeKeLeMeNeOePeQeReSeTeUeVeWeXeYeZbDIGIT ZERO",
  "24EBaNEGATIVE CIRCLED NUMBER ELEVENdTWELVEdTHIRTEENdFOURTEENdFIFTEENdSIXTEENdSEVENTEENdEIGHTEEN",
  "24F3aNEGATIVE CIRCLED NUMBER NINETEENdTWENTYaDOUBLE CIRCLED DIGIT ONEdTWOdTHREEdFOURdFIVEdSIX",
  "24FBaDOUBLE CIRCLED DIGIT SEVENdEIGHTdNINEcNUMBER TENaNEGATIVE CIRCLED DIGIT ZERO",
  "2500aBOX DRAWINGS LIGHT HORIZONTALcHEAVY HORIZONTALcLIGHT VERTICALcHEAVY VERTICAL",
  "2504aBOX DRAWINGS LIGHT TRIPLE DASH HORIZONTALcHEAVY TRIPLE DASH HORIZONTAL",
  "2506aBOX DRAWINGS LIGHT TRIPLE DASH VERTICALcHEAVY TRIPLE DASH VERTICAL",
  "2508aBOX DRAWINGS LIGHT QUADRUPLE DASH HORIZONTALcHEAVY QUADRUPLE DASH HORIZONTAL",
  "250AaBOX DRAWINGS LIGHT QUADRUPLE DASH VERTICALcHEAVY QUADRUPLE DASH VERTICAL",
  "250CaBOX DRAWINGS LIGHT DOWN AND RIGHTcDOWN LIGHT AND RIGHT HEAVYdHEAVY AND RIGHT LIGHT",
  "250FaBOX DRAWINGS HEAVY DOWN AND RIGHTcLIGHT DOWN AND LEFTcDOWN LIGHT AND LEFT HEAVY",
  "2512aBOX DRAWINGS DOWN HEAVY AND LEFT LIGHTcHEAVY DOWN AND LEFTcLIGHT UP AND RIGHT",
  "2515aBOX DRAWINGS UP LIGHT AND RIGHT HEAVYdHEAVY AND RIGHT LIGHTcHEAVY UP AND RIGHT",
  "2518aBOX DRAWINGS LIGHT UP AND LEFTcUP LIGHT AND LEFT HEAVYdHEAVY AND LEFT LIGHT",
  "251BaBOX DRAWINGS HEAVY UP AND LEFTcLIGHT VERTICAL AND RIGHTcVERTICAL LIGHT AND RIGHT HEAVY",
  "251EaBOX DRAWINGS UP HEAVY AND RIGHT DOWN LIGHTcDOWN HEAVY AND RIGHT UP LIGHT",
  "2520aBOX DRAWINGS VERTICAL HEAVY AND RIGHT LIGHTcDOWN LIGHT AND RIGHT UP HEAVY",
  "2522aBOX DRAWINGS UP LIGHT AND RIGHT DOWN HEAVYcHEAVY VERTICAL AND RIGHTcLIGHT VERTICAL AND LEFT",
  "2525aBOX DRAWINGS VERTICAL LIGHT AND LEFT HEAVYcUP HEAVY AND LEFT DOWN LIGHT",
  "2527aBOX DRAWINGS DOWN HEAVY AND LEFT UP LIGHTcVERTICAL HEAVY AND LEFT LIGHT",
  "2529aBOX DRAWINGS DOWN LIGHT AND LEFT UP HEAVYcUP LIGHT AND LEFT DOWN HEAVY",
  "252BaBOX DRAWINGS HEAVY VERTICAL AND LEFTcLIGHT DOWN AND HORIZONTAL",
  "252DaBOX DRAWINGS LEFT HEAVY AND RIGHT DOWN LIGHTcRIGHT HEAVY AND LEFT DOWN LIGHT",
  "252FaBOX DRAWINGS DOWN LIGHT AND HORIZONTAL HEAVYdHEAVY AND HORIZONTAL LIGHT",
  "2531aBOX DRAWINGS RIGHT LIGHT AND LEFT DOWN HEAVYcLEFT LIGHT AND RIGHT DOWN HEAVY",
  "2533aBOX DRAWINGS HEAVY DOWN AND HORIZONTALcLIGHT UP AND HORIZONTAL",
  "2535aBOX DRAWINGS LEFT HEAVY AND RIGHT UP LIGHTcRIGHT HEAVY AND LEFT UP LIGHT",
  "2537aBOX DRAWINGS UP LIGHT AND HORIZONTAL HEAVYdHEAVY AND HORIZONTAL LIGHT",
  "2539aBOX DRAWINGS RIGHT LIGHT AND LEFT UP HEAVYcLEFT LIGHT AND RIGHT UP HEAVY",
  "253BaBOX DRAWINGS HEAVY UP AND HORIZONTALcLIGHT VERTICAL AND HORIZONTAL",
  "253DaBOX DRAWINGS LEFT HEAVY AND RIGHT VERTICAL LIGHTcRIGHT HEAVY AND LEFT VERTICAL LIGHT",
  "253FaBOX DRAWINGS VERTICAL LIGHT AND HORIZONTAL HEAVYcUP HEAVY AND DOWN HORIZONTAL LIGHT",
  "2541aBOX DRAWINGS DOWN HEAVY AND UP HORIZONTAL LIGHTcVERTICAL HEAVY AND HORIZONTAL LIGHT",
  "2543aBOX DRAWINGS LEFT UP HEAVY AND RIGHT DOWN LIGHTcRIGHT UP HEAVY AND LEFT DOWN LIGHT",
  "2545aBOX DRAWINGS LEFT DOWN HEAVY AND RIGHT UP LIGHTcRIGHT DOWN HEAVY AND LEFT UP LIGHT",
  "2547aBOX DRAWINGS DOWN LIGHT AND UP HORIZONTAL HEAVYcUP LIGHT AND DOWN HORIZONTAL HEAVY",
  "2549aBOX DRAWINGS RIGHT LIGHT AND LEFT VERTICAL HEAVYcLEFT LIGHT AND RIGHT VERTICAL HEAVY",
  "254BaBOX DRAWINGS HEAVY VERTICAL AND HORIZONTALcLIGHT DOUBLE DASH HORIZONTAL",
  "254DaBOX DRAWINGS HEAVY DOUBLE DASH HORIZONTALcLIGHT DOUBLE DASH VERTICAL",
  "254FaBOX DRAWINGS HEAVY DOUBLE DASH VERTICALcDOUBLE HORIZONTALdVERTICAL",
  "2552aBOX DRAWINGS DOWN SINGLE AND RIGHT DOUBLEdDOUBLE AND RIGHT SINGLEcDOUBLE DOWN AND RIGHT",
  "2555aBOX DRAWINGS DOWN SINGLE AND LEFT DOUBLEdDOUBLE AND LEFT SINGLEcDOUBLE DOWN AND LEFT"]

/-- More rows of names. -/
def nameRowsE : List String := [
  "2558aBOX DRAWINGS UP SINGLE AND RIGHT DOUBLEdDOUBLE AND RIGHT SINGLEcDOUBLE UP AND RIGHT",
  "255BaBOX DRAWINGS UP SINGLE AND LEFT DOUBLEdDOUBLE AND LEFT SINGLEcDOUBLE UP AND LEFT",
  "255EaBOX DRAWINGS VERTICAL SINGLE AND RIGHT DOUBLEdDOUBLE AND RIGHT SINGLE",
  "2560aBOX DRAWINGS DOUBLE VERTICAL AND RIGHTcVERTICAL SINGLE AND LEFT DOUBLE",
  "2562aBOX DRAWINGS VERTICAL DOUBLE AND LEFT SINGLEcDOUBLE VERTICAL AND LEFT",
  "2564aBOX DRAWINGS DOWN SINGLE AND HORIZONTAL DOUBLEdDOUBLE AND HORIZONTAL SINGLE",
  "2566aBOX DRAWINGS DOUBLE DOWN AND HORIZONTALcUP SINGLE AND HORIZONTAL DOUBLE",
  "2568aBOX DRAWINGS UP DOUBLE AND HORIZONTAL SINGLEcDOUBLE UP AND HORIZONTAL",
  "256AaBOX DRAWINGS VERTICAL SINGLE AND HORIZONTAL DOUBLEdDOUBLE AND HORIZONTAL SINGLE",
  "256CaBOX DRAWINGS DOUBLE VERTICAL AND HORIZONTALcLIGHT ARC DOWN AND RIGHTgLEFTeUP AND LEFTgRIGHT",
  "2571aBOX DRAWINGS LIGHT DIAGONAL UPPER RIGHT TO LOWER LEFTfLEFT TO LOWER RIGHTeCROSSdLEFTdUP",
  "2576aBOX DRAWINGS LIGHT RIGHTdDOWNcHEAVY LEFTdUPdRIGHTdDOWNcLIGHT LEFT AND HEAVY RIGHT",
  "257DaBOX DRAWINGS LIGHT UP AND HEAVY DOWNcHEAVY LEFT AND LIGHT RIGHTdUP AND LIGHT DOWN",
  "2580aUPPER HALF BLOCKaLOWER ONE EIGHTH BLOCKcQUARTER BLOCKbTHREE EIGHTHS BLOCKbHALF BLOCK",
  "2585aLOWER FIVE EIGHTHS BLOCKbTHREE QUARTERS BLOCKbSEVEN EIGHTHS BLOCKaFULL BLOCK",
  "2589aLEFT SEVEN EIGHTHS BLOCKbTHREE QUARTERS BLOCKbFIVE EIGHTHS BLOCKbHALF BLOCK",
  "258DaLEFT THREE EIGHTHS BLOCKbONE QUARTER BLOCKcEIGHTH BLOCKaRIGHT HALF BLOCKaLIGHT SHADE",
  "2592aMEDIUM SHADEaDARK SHADEaUPPER ONE EIGHTH BLOCKaRIGHT ONE EIGHTH BLOCKaQUADRANT LOWER LEFT",
  "2597aQUADRANT LOWER RIGHTbUPPER LEFTdAND LOWER LEFT AND LOWER RIGHTfRIGHT",
  "259BaQUADRANT UPPER LEFT AND UPPER RIGHT AND LOWER LEFTiRIGHTcRIGHTdAND LOWER LEFT",
  "259FaQUADRANT UPPER RIGHT AND LOWER LEFT AND LOWER RIGHTaBLACK SQUAREaWHITE SQUARE",
  "25A2aWHITE SQUARE WITH ROUNDED CORNERScCONTAINING BLACK SMALL SQUAREaSQUARE WITH HORIZONTAL FILL",
  "25A5aSQUARE WITH VERTICAL FILLcORTHOGONAL CROSSHATCH FILLcUPPER LEFT TO LOWER RIGHT FILL",
  "25A8aSQUARE WITH UPPER RIGHT TO LOWER LEFT FILLcDIAGONAL CROSSHATCH FILLaBLACK SMALL SQUARE",
  "25ABaWHITE SMALL SQUAREaBLACK RECTANGLEaWHITE RECTANGLEaBLACK VERTICAL RECTANGLE",
  "25AFaWHITE VERTICAL RECTANGLEaBLACK PARALLELOGRAMaWHITE PARALLELOGRAMaBLACK UP-POINTING TRIANGLE",
  "25B3aWHITE UP-POINTING TRIANGLEaBLACK UP-POINTING SMALL TRIANGLE",
  "25B5aWHITE UP-POINTING SMALL TRIANGLEaBLACK RIGHT-POINTING TRIANGLE",
  "25B7aWHITE RIGHT-POINTING TRIANGLEaBLACK RIGHT-POINTING SMALL TRIANGLE",
  "25B9aWHITE RIGHT-POINTING SMALL TRIANGLEaBLACK RIGHT-POINTING POINTER",
  "25BBaWHITE RIGHT-POINTING POINTERaBLACK DOWN-POINTING TRIANGLEaWHITE DOWN-POINTING TRIANGLE",
  "25BEaBLACK DOWN-POINTING SMALL TRIANGLEaWHITE DOWN-POINTING SMALL TRIANGLE",
  "25C0aBLACK LEFT-POINTING TRIANGLEaWHITE LEFT-POINTING TRIANGLE",
  "25C2aBLACK LEFT-POINTING SMALL TRIANGLEaWHITE LEFT-POINTING SMALL TRIANGLE",
  "25C4aBLACK LEFT-POINTING POINTERaWHITE LEFT-POINTING POINTERaBLACK DIAMONDaWHITE DIAMOND",
  "25C8aWHITE DIAMOND CONTAINING BLACK SMALL DIAMONDaFISHEYEaLOZENGEaWHITE CIRCLEaDOTTED CIRCLE",
  "25CDaCIRCLE WITH VERTICAL FILLaBULLSEYEaBLACK CIRCLEaCIRCLE WITH LEFT HALF BLACK",
  "25D1aCIRCLE WITH RIGHT HALF BLACKcLOWER HALF BLACKcUPPER HALF BLACKdRIGHT QUADRANT BLACK",
  "25D5aCIRCLE WITH ALL BUT UPPER LEFT QUADRANT BLACKaLEFT HALF BLACK CIRCLE",
  "25D7aRIGHT HALF BLACK CIRCLEaINVERSE BULLETbWHITE CIRCLEaUPPER HALF INVERSE WHITE CIRCLE",
  "25DBaLOWER HALF INVERSE WHITE CIRCLEaUPPER LEFT QUADRANT CIRCULAR ARC",
  "25DDaUPPER RIGHT QUADRANT CIRCULAR ARCaLOWER RIGHT QUADRANT CIRCULAR ARC",
  "25DFaLOWER LEFT QUADRANT CIRCULAR ARCaUPPER HALF CIRCLEaLOWER HALF CIRCLE",
  "25E2aBLACK LOWER RIGHT TRIANGLEcLEFT TRIANGLEbUPPER LEFT TRIANGLEcRIGHT TRIANGLEaWHITE BULLET",
  "25E7aSQUARE WITH LEFT HALF BLACKcRIGHT HALF BLACKcUPPER LEFT DIAGONAL HALF BLACK",
  "25EAaSQUARE WITH LOWER RIGHT DIAGONAL HALF BLACKaWHITE SQUARE WITH VERTICAL BISECTING LINE",
  "25ECaWHITE UP-POINTING TRIANGLE WITH DOTaUP-POINTING TRIANGLE WITH LEFT HALF BLACK",
  "25EEaUP-POINTING TRIANGLE WITH RIGHT HALF BLACKaLARGE CIRCLE",
  "25F0aWHITE SQUARE WITH UPPER LEFT QUADRANTdLOWER LEFT QUADRANTeRIGHT QUADRANT",
  "25F3aWHITE SQUARE WITH UPPER RIGHT QUADRANTbCIRCLE WITH UPPER LEFT QUADRANTdLOWER LEFT QUADRANT",
  "25F6aWHITE CIRCLE WITH LOWER RIGHT QUADRANTdUPPER RIGHT QUADRANTaUPPER LEFT TRIANGLE",
  "25F9aUPPER RIGHT TRIANGLEaLOWER LEFT TRIANGLEaWHITE MEDIUM SQUAREaBLACK MEDIUM SQUARE",
  "25FDaWHITE MEDIUM SMALL SQUAREaBLACK MEDIUM SMALL SQUAREaLOWER RIGHT TRIANGLE",
  "2600aBLACK SUN WITH RAYSaCLOUDaUMBRELLAaSNOWMANaCOMETaBLACK STARaWHITE STARaLIGHTNING",
  "2608aTHUNDERSTORMaSUNaASCENDING NODEaDESCENDING NODEaCONJUNCTIONaOPPOSITIONaBLACK TELEPHONE",
  "260FaWHITE TELEPHONEaBALLOT BOXcWITH CHECKdXaSALTIREaUMBRELLA WITH RAIN DROPSaHOT BEVERAGE",
  "2616aWHITE SHOGI PIECEaBLACK SHOGI PIECEaSHAMROCKaREVERSED ROTATED FLORAL HEART BULLET",
  "261AaBLACK LEFT POINTING INDEXbRIGHT POINTING INDEXaWHITE LEFT POINTING INDEXbUP POINTING INDEX",
  "261EaWHITE RIGHT POINTING INDEXbDOWN POINTING INDEXaSKULL AND CROSSBONESaCAUTION SIGN",
  "2622aRADIOACTIVE SIGNaBIOHAZARD SIGNaCADUCEUSaANKHaORTHODOX CROSSaCHI RHOaCROSS OF LORRAINE",
  "2629aCROSS OF JERUSALEMaSTAR AND CRESCENTaFARSI SYMBOLaADI SHAKTIaHAMMER AND SICKLEaPEACE SYMBOL",
  "262FaYIN YANGaTRIGRAM FOR HEAVENcLAKEcFIREcTHUNDERcWINDcWATERcMOUNTAINcEARTHaWHEEL OF DHARMA",
  "2639aWHITE FROWNING FACEbSMILING FACEaBLACK SMILING FACEaWHITE SUN WITH RAYSaFIRST QUARTER MOON",
  "263EaLAST QUARTER MOONaMERCURYaFEMALE SIGNaEARTHaMALE SIGNaJUPITERaSATURNaURANUSaNEPTUNEaPLUTO",
  "2648aARIESaTAURUSaGEMINIaCANCERaLEOaVIRGOaLIBRAaSCORPIUSaSAGITTARIUSaCAPRICORNaAQUARIUSaPISCES",
  "2654aWHITE CHESS KINGcQUEENcROOKcBISHOPcKNIGHTcPAWNaBLACK CHESS KINGcQUEENcROOKcBISHOPcKNIGHT",
  "265FaBLACK CHESS PAWNbSPADE SUITaWHITE HEART SUITbDIAMOND SUITaBLACK CLUB SUITaWHITE SPADE SUIT",
  "2665aBLACK HEART SUITbDIAMOND SUITaWHITE CLUB SUITaHOT SPRINGSaQUARTER NOTEaEIGHTH NOTE",
  "266BaBEAMED EIGHTH NOTESbSIXTEENTH NOTESaMUSIC FLAT SIGNbNATURAL SIGNbSHARP SIGN",
  "2670aWEST SYRIAC CROSSaEAST SYRIAC CROSSaUNIVERSAL RECYCLING SYMBOL",
  "2673aRECYCLING SYMBOL FOR TYPE-1 PLASTICSdTYPE-2 PLASTICSdTYPE-3 PLASTICSdTYPE-4 PLASTICS",
  "2677aRECYCLING SYMBOL FOR TYPE-5 PLASTICSdTYPE-6 PLASTICSdTYPE-7 PLASTICSdGENERIC MATERIALS",
  "267BaBLACK UNIVERSAL RECYCLING SYMBOLaRECYCLED PAPER SYMBOLaPARTIALLY-RECYCLED PAPER SYMBOL",
  "267EaPERMANENT PAPER SIGNaWHEELCHAIR SYMBOLaDIE FACE-1bFACE-2bFACE-3bFACE-4bFACE-5bFACE-6",
  "2686aWHITE CIRCLE WITH DOT RIGHTdTWO DOTSaBLACK CIRCLE WITH WHITE DOT RIGHTdTWO WHITE DOTS",
  "268AaMONOGRAM FOR YANGcYINaDIGRAM FOR GREATER YANGcLESSER YINdYANGcGREATER YINaWHITE FLAG",
  "2691aBLACK FLAGaHAMMER AND PICKaANCHORaCROSSED SWORDSaSTAFF OF AESCULAPIUSaSCALESaALEMBICaFLOWER",
  "2699aGEARaSTAFF OF HERMESaATOM SYMBOLaFLEUR-DE-LISaOUTLINED WHITE STAR",
  "269EaTHREE LINES CONVERGING RIGHTdLEFTaWARNING SIGNaHIGH VOLTAGE SIGNaDOUBLED FEMALE SIGN",
  "26A3aDOUBLED MALE SIGNaINTERLOCKED FEMALE AND MALE SIGNaMALE AND FEMALE SIGNbWITH STROKE SIGN",
  "26A7aMALE WITH STROKE AND MALE AND FEMALE SIGNaVERTICAL MALE WITH STROKE SIGN",
  "26A9aHORIZONTAL MALE WITH STROKE SIGNaMEDIUM WHITE CIRCLEbBLACK CIRCLEbSMALL WHITE CIRCLE",
  "26ADaMARRIAGE SYMBOLaDIVORCE SYMBOLaUNMARRIED PARTNERSHIP SYMBOLaCOFFINaFUNERAL URNaNEUTERaCERES",
  "26B4aPALLASaJUNOaVESTAaCHIRONaBLACK MOON LILITHaSEXTILEaSEMISEXTILEaQUINCUNXaSESQUIQUADRATE",
  "26BDaSOCCER BALLaBASEBALLaSQUARED KEYaWHITE DRAUGHTS MANcKINGaBLACK DRAUGHTS MANcKING",
  "26C4aSNOWMAN WITHOUT SNOWaSUN BEHIND CLOUDaRAINaBLACK SNOWMANaTHUNDER CLOUD AND RAIN",
  "26C9aTURNED WHITE SHOGI PIECEbBLACK SHOGI PIECEaWHITE DIAMOND IN SQUAREaCROSSING LANES",
  "26CDaDISABLED CARaOPHIUCHUSaPICKaCAR SLIDINGaHELMET WITH WHITE CROSSaCIRCLED CROSSING LANES",
  "26D3aCHAINSaNO ENTRYaALTERNATE ONE-WAY LEFT WAY TRAFFICaBLACK TWO-WAY LEFT WAY TRAFFIC",
  "26D7aWHITE TWO-WAY LEFT WAY TRAFFICaBLACK LEFT LANE MERGEaWHITE LEFT LANE MERGEaDRIVE SLOW SIGN",
  "26DBaHEAVY WHITE DOWN-POINTING TRIANGLEaLEFT CLOSED ENTRYaSQUARED SALTIRE",
  "26DEaFALLING DIAGONAL IN WHITE CIRCLE IN BLACK SQUAREaBLACK TRUCKaRESTRICTED LEFT ENTRY-1",
  "26E1aRESTRICTED LEFT ENTRY-2aASTRONOMICAL SYMBOL FOR URANUS",
  "26E3aHEAVY CIRCLE WITH STROKE AND TWO DOTS ABOVEaPENTAGRAMaRIGHT-HANDED INTERLACED PENTAGRAM",
  "26E6aLEFT-HANDED INTERLACED PENTAGRAMaINVERTED PENTAGRAMaBLACK CROSS ON SHIELDaSHINTO SHRINE",
  "26EAaCHURCHaCASTLEaHISTORIC SITEaGEAR WITHOUT HUBbWITH HANDLESaMAP SYMBOL FOR LIGHTHOUSE",
  "26F0aMOUNTAINaUMBRELLA ON GROUNDaFOUNTAINaFLAG IN HOLEaFERRYaSAILBOATaSQUARE FOUR CORNERSaSKIER",
  "26F8aICE SKATEaPERSON WITH BALLaTENTaJAPANESE BANK SYMBOLaHEADSTONE GRAVEYARD SYMBOLaFUEL PUMP",
  "26FEaCUP ON BLACK SQUAREaWHITE FLAG WITH HORIZONTAL MIDDLE BLACK STRIPEaBLACK SAFETY SCISSORS",
  "2701aUPPER BLADE SCISSORSaBLACK SCISSORSaLOWER BLADE SCISSORSaWHITE SCISSORSbHEAVY CHECK MARK",
  "2706aTELEPHONE LOCATION SIGNaTAPE DRIVEaAIRPLANEaENVELOPEaRAISED FISTbHANDaVICTORY HAND",
  "270DaWRITING HANDaLOWER RIGHT PENCILaPENCILaUPPER RIGHT PENCILaWHITE NIBaBLACK NIBaCHECK MARK",
  "2714aHEAVY CHECK MARKaMULTIPLICATION XaHEAVY MULTIPLICATION XaBALLOT XaHEAVY BALLOT X",
  "2719aOUTLINED GREEK CROSSaHEAVY GREEK CROSSaOPEN CENTRE CROSSaHEAVY OPEN CENTRE CROSS",
  "271DaLATIN CROSSaSHADOWED WHITE LATIN CROSSaOUTLINED LATIN CROSSaMALTESE CROSSaSTAR OF DAVID",
  "2722aFOUR TEARDROP-SPOKED ASTERISKbBALLOON-SPOKED ASTERISKaHEAVY FOUR BALLOON-SPOKED ASTERISK",
  "2725aFOUR CLUB-SPOKED ASTERISKaBLACK FOUR POINTED STARaWHITE FOUR POINTED STARaSPARKLES",
  "2729aSTRESS OUTLINED WHITE STARaCIRCLED WHITE STARaOPEN CENTRE BLACK STAR",
  "272CaBLACK CENTRE WHITE STARaOUTLINED BLACK STARaHEAVY OUTLINED BLACK STARaPINWHEEL STAR",
  "2730aSHADOWED WHITE STARaHEAVY ASTERISKaOPEN CENTRE ASTERISKaEIGHT SPOKED ASTERISK",
  "2734aEIGHT POINTED BLACK STARcPINWHEEL STARaSIX POINTED BLACK STAR",
  "2737aEIGHT POINTED RECTILINEAR BLACK STARaHEAVY EIGHT POINTED RECTILINEAR BLACK STAR",
  "2739aTWELVE POINTED BLACK STARaSIXTEEN POINTED ASTERISKaTEARDROP-SPOKED ASTERISK",
  "273CaOPEN CENTRE TEARDROP-SPOKED ASTERISKaHEAVY TEARDROP-SPOKED ASTERISK",
  "273EaSIX PETALLED BLACK AND WHITE FLORETTEaBLACK FLORETTEaWHITE FLORETTE",
  "2741aEIGHT PETALLED OUTLINED BLACK FLORETTEaCIRCLED OPEN CENTRE EIGHT POINTED STAR",
  "2743aHEAVY TEARDROP-SPOKED PINWHEEL ASTERISKaSNOWFLAKEaTIGHT TRIFOLIATE SNOWFLAKE",
  "2746aHEAVY CHEVRON SNOWFLAKEaSPARKLEaHEAVY SPARKLEaBALLOON-SPOKED ASTERISK",
  "274AaEIGHT TEARDROP-SPOKED PROPELLER ASTERISKaHEAVY EIGHT TEARDROP-SPOKED PROPELLER ASTERISK",
  "274CaCROSS MARKaSHADOWED WHITE CIRCLEaNEGATIVE SQUARED CROSS MARK",
  "274FaLOWER RIGHT DROP-SHADOWED WHITE SQUAREaUPPER RIGHT DROP-SHADOWED WHITE SQUARE",
  "2751aLOWER RIGHT SHADOWED WHITE SQUAREaUPPER RIGHT SHADOWED WHITE SQUARE",
  "2753aBLACK QUESTION MARK ORNAMENTaWHITE QUESTION MARK ORNAMENTbEXCLAMATION MARK ORNAMENT",
  "2756aBLACK DIAMOND MINUS WHITE XaHEAVY EXCLAMATION MARK SYMBOLaLIGHT VERTICAL BAR",
  "2759aMEDIUM VERTICAL BARaHEAVY VERTICAL BARbSINGLE TURNED COMMA QUOTATION MARK ORNAMENT",
  "275CaHEAVY SINGLE COMMA QUOTATION MARK ORNAMENTbDOUBLE TURNED COMMA QUOTATION MARK ORNAMENT",
  "275EaHEAVY DOUBLE COMMA QUOTATION MARK ORNAMENTbLOW SINGLE COMMA QUOTATION MARK ORNAMENT",
  "2760aHEAVY LOW DOUBLE COMMA QUOTATION MARK ORNAMENTaCURVED STEM PARAGRAPH SIGN ORNAMENT",
  "2762aHEAVY EXCLAMATION MARK ORNAMENTbHEART EXCLAMATION MARK ORNAMENTbBLACK HEART",
  "2765aROTATED HEAVY BLACK HEART BULLETaFLORAL HEARTaROTATED FLORAL HEART BULLET",
  "2768aMEDIUM LEFT PARENTHESIS ORNAMENTbRIGHT PARENTHESIS ORNAMENT",
  "276AaMEDIUM FLATTENED LEFT PARENTHESIS ORNAMENTcRIGHT PARENTHESIS ORNAMENT",
  "276CaMEDIUM LEFT-POINTING ANGLE BRACKET ORNAMENTbRIGHT-POINTING ANGLE BRACKET ORNAMENT",
  "276EaHEAVY LEFT-POINTING ANGLE QUOTATION MARK ORNAMENT",
  "276FaHEAVY RIGHT-POINTING ANGLE QUOTATION MARK ORNAMENTbLEFT-POINTING ANGLE BRACKET ORNAMENT",
  "2771aHEAVY RIGHT-POINTING ANGLE BRACKET ORNAMENTaLIGHT LEFT TORTOISE SHELL BRACKET ORNAMENT",
  "2773aLIGHT RIGHT TORTOISE SHELL BRACKET ORNAMENTaMEDIUM LEFT CURLY BRACKET ORNAMENT",
  "2775aMEDIUM RIGHT CURLY BRACKET ORNAMENTaDINGBAT NEGATIVE CIRCLED DIGIT ONEeTWOeTHREEeFOUReFIVE",
  "277BaDINGBAT NEGATIVE CIRCLED DIGIT SIXeSEVENeEIGHTeNINEdNUMBER TENbCIRCLED SANS-SERIF DIGIT ONE",
  "2781aDINGBAT CIRCLED SANS-SERIF DIGIT TWOeTHREEeFOUReFIVEeSIXeSEVENeEIGHTeNINEdNUMBER TEN",
  "278AaDINGBAT NEGATIVE CIRCLED SANS-SERIF DIGIT ONEfTWOfTHREEfFOURfFIVEfSIXfSEVENfEIGHTfNINE",
  "2793aDINGBAT NEGATIVE CIRCLED SANS-SERIF NUMBER TENaHEAVY WIDE-HEADED RIGHTWARDS ARROWbPLUS SIGN",
  "2796aHEAVY MINUS SIGNbDIVISION SIGNbSOUTH EAST ARROWbRIGHTWARDS ARROWbNORTH EAST ARROW",
  "279BaDRAFTING POINT RIGHTWARDS ARROWaHEAVY ROUND-TIPPED RIGHTWARDS ARROW",
  "279DaTRIANGLE-HEADED RIGHTWARDS ARROWaHEAVY TRIANGLE-HEADED RIGHTWARDS ARROW",
  "279FaDASHED TRIANGLE-HEADED RIGHTWARDS ARROWaHEAVY DASHED TRIANGLE-HEADED RIGHTWARDS ARROW",
  "27A1aBLACK RIGHTWARDS ARROWaTHREE-D TOP-LIGHTED RIGHTWARDS ARROWHEAD",
  "27A3aTHREE-D BOTTOM-LIGHTED RIGHTWARDS ARROWHEADaBLACK RIGHTWARDS ARROWHEAD",
  "27A5aHEAVY BLACK CURVED DOWNWARDS AND RIGHTWARDS ARROWdUPWARDS AND RIGHTWARDS ARROW",
  "27A7aSQUAT BLACK RIGHTWARDS ARROWaHEAVY CONCAVE-POINTED BLACK RIGHTWARDS ARROW",
  "27A9aRIGHT-SHADED WHITE RIGHTWARDS ARROWaLEFT-SHADED WHITE RIGHTWARDS ARROW",
  "27ABaBACK-TILTED SHADOWED WHITE RIGHTWARDS ARROWaFRONT-TILTED SHADOWED WHITE RIGHTWARDS ARROW",
  "27ADaHEAVY LOWER RIGHT-SHADOWED WHITE RIGHTWARDS ARROW",
  "27AEaHEAVY UPPER RIGHT-SHADOWED WHITE RIGHTWARDS ARROW",
  "27AFaNOTCHED LOWER RIGHT-SHADOWED WHITE RIGHTWARDS ARROWaCURLY LOOP",
  "27B1aNOTCHED UPPER RIGHT-SHADOWED WHITE RIGHTWARDS ARROWaCIRCLED HEAVY WHITE RIGHTWARDS ARROW",
  "27B3aWHITE-FEATHERED RIGHTWARDS ARROWaBLACK-FEATHERED SOUTH EAST ARROWbRIGHTWARDS ARROW",
  "27B6aBLACK-FEATHERED NORTH EAST ARROWaHEAVY BLACK-FEATHERED SOUTH EAST ARROWcRIGHTWARDS ARROW",
  "27B9aHEAVY BLACK-FEATHERED NORTH EAST ARROWaTEARDROP-BARBED RIGHTWARDS ARROW",
  "27BBaHEAVY TEARDROP-SHANKED RIGHTWARDS ARROWaWEDGE-TAILED RIGHTWARDS ARROW",
  "27BDaHEAVY WEDGE-TAILED RIGHTWARDS ARROWaOPEN-OUTLINED RIGHTWARDS ARROWaDOUBLE CURLY LOOP",
  "27C0aTHREE DIMENSIONAL ANGLEaWHITE TRIANGLE CONTAINING SMALL WHITE TRIANGLEaPERPENDICULAR",
  "27C3aOPEN SUBSETbSUPERSETaLEFT S-SHAPED BAG DELIMITERaRIGHT S-SHAPED BAG DELIMITER",
  "27C7aOR WITH DOT INSIDEaREVERSE SOLIDUS PRECEDING SUBSETaSUPERSET PRECEDING SOLIDUS",
  "27CAaVERTICAL BAR WITH HORIZONTAL STROKEaMATHEMATICAL RISING DIAGONALaLONG DIVISION",
  "27CDaMATHEMATICAL FALLING DIAGONALaSQUARED LOGICAL ANDcORaWHITE DIAMOND WITH CENTRED DOT",
  "27D1aAND WITH DOTaELEMENT OF OPENING UPWARDSaLOWER RIGHT CORNER WITH DOT",
  "27D4aUPPER LEFT CORNER WITH DOTaLEFT OUTER JOINaRIGHT OUTER JOINaFULL OUTER JOINaLARGE UP TACK",
  "27D9aLARGE DOWN TACKaLEFT AND RIGHT DOUBLE TURNSTILEdTACKbMULTIMAPaLONG RIGHT TACKbLEFT TACK",
  "27DFaUP TACK WITH CIRCLE ABOVEaLOZENGE DIVIDED BY HORIZONTAL RULEaWHITE CONCAVE-SIDED DIAMOND",
  "27E2aWHITE CONCAVE-SIDED DIAMOND WITH LEFTWARDS TICKeRIGHTWARDS TICKbSQUARE WITH LEFTWARDS TICK",
  "27E5aWHITE SQUARE WITH RIGHTWARDS TICKaMATHEMATICAL LEFT WHITE SQUARE BRACKET",
  "27E7aMATHEMATICAL RIGHT WHITE SQUARE BRACKETbLEFT ANGLE BRACKETbRIGHT ANGLE BRACKET",
  "27EAaMATHEMATICAL LEFT DOUBLE ANGLE BRACKETbRIGHT DOUBLE ANGLE BRACKET",
  "27ECaMATHEMATICAL LEFT WHITE TORTOISE SHELL BRACKETbRIGHT WHITE TORTOISE SHELL BRACKET",
  "27EEaMATHEMATICAL LEFT FLATTENED PARENTHESISbRIGHT FLATTENED PARENTHESISaUPWARDS QUADRUPLE ARROW",
  "27F1aDOWNWARDS QUADRUPLE ARROWaANTICLOCKWISE GAPPED CIRCLE ARROWaCLOCKWISE GAPPED CIRCLE ARROW",
  "27F4aRIGHT ARROW WITH CIRCLED PLUSaLONG LEFTWARDS ARROWbRIGHTWARDS ARROWbLEFT RIGHT ARROW",
  "27F8aLONG LEFTWARDS DOUBLE ARROWbRIGHTWARDS DOUBLE ARROWbLEFT RIGHT DOUBLE ARROW",
  "27FBaLONG LEFTWARDS ARROW FROM BARbRIGHTWARDS ARROW FROM BARbLEFTWARDS DOUBLE ARROW FROM BAR",
  "27FEaLONG RIGHTWARDS DOUBLE ARROW FROM BARcSQUIGGLE ARROWaBRAILLE PATTERN BLANKcDOTS-1cDOTS-2",
  "2803aBRAILLE PATTERN DOTS-12cDOTS-3cDOTS-13cDOTS-23cDOTS-123cDOTS-4cDOTS-14cDOTS-24cDOTS-124",
  "280CaBRAILLE PATTERN DOTS-34cDOTS-134cDOTS-234cDOTS-1234cDOTS-5cDOTS-15cDOTS-25cDOTS-125cDOTS-35",
  "2815aBRAILLE PATTERN DOTS-135cDOTS-235cDOTS-1235cDOTS-45cDOTS-145cDOTS-245cDOTS-1245cDOTS-345",
  "281DaBRAILLE PATTERN DOTS-1345cDOTS-2345cDOTS-12345cDOTS-6cDOTS-16cDOTS-26cDOTS-126cDOTS-36",
  "2825aBRAILLE PATTERN DOTS-136cDOTS-236cDOTS-1236cDOTS-46cDOTS-146cDOTS-246cDOTS-1246cDOTS-346",
  "282DaBRAILLE PATTERN DOTS-1346cDOTS-2346cDOTS-12346cDOTS-56cDOTS-156cDOTS-256cDOTS-1256cDOTS-356",
  "2835aBRAILLE PATTERN DOTS-1356cDOTS-2356cDOTS-12356cDOTS-456cDOTS-1456cDOTS-2456cDOTS-12456",
  "283CaBRAILLE PATTERN DOTS-3456cDOTS-13456cDOTS-23456cDOTS-123456cDOTS-7cDOTS-17cDOTS-27cDOTS-127",
  "2844aBRAILLE PATTERN DOTS-37cDOTS-137cDOTS-237cDOTS-1237cDOTS-47cDOTS-147cDOTS-247cDOTS-1247",
  "284CaBRAILLE PATTERN DOTS-347cDOTS-1347cDOTS-2347cDOTS-12347cDOTS-57cDOTS-157cDOTS-257cDOTS-1257",
  "2854aBRAILLE PATTERN DOTS-357cDOTS-1357cDOTS-2357cDOTS-12357cDOTS-457cDOTS-1457cDOTS-2457",
  "285BaBRAILLE PATTERN DOTS-12457cDOTS-3457cDOTS-13457cDOTS-23457cDOTS-123457cDOTS-67cDOTS-167",
  "2862aBRAILLE PATTERN DOTS-267cDOTS-1267cDOTS-367cDOTS-1367cDOTS-2367cDOTS-12367cDOTS-467",
  "2869aBRAILLE PATTERN DOTS-1467cDOTS-2467cDOTS-12467cDOTS-3467cDOTS-13467cDOTS-23467cDOTS-123467",
  "2870aBRAILLE PATTERN DOTS-567cDOTS-1567cDOTS-2567cDOTS-12567cDOTS-3567cDOTS-13567cDOTS-23567",
  "2877aBRAILLE PATTERN DOTS-123567cDOTS-4567cDOTS-14567cDOTS-24567cDOTS-124567cDOTS-34567",
  "287DaBRAILLE PATTERN DOTS-134567cDOTS-234567cDOTS-1234567cDOTS-8cDOTS-18cDOTS-28cDOTS-128",
  "2884aBRAILLE PATTERN DOTS-38cDOTS-138cDOTS-238cDOTS-1238cDOTS-48cDOTS-148cDOTS-248cDOTS-1248",
  "288CaBRAILLE PATTERN DOTS-348cDOTS-1348cDOTS-2348cDOTS-12348cDOTS-58cDOTS-158cDOTS-258cDOTS-1258",
  "2894aBRAILLE PATTERN DOTS-358cDOTS-1358cDOTS-2358cDOTS-12358cDOTS-458cDOTS-1458cDOTS-2458",
  "289BaBRAILLE PATTERN DOTS-12458cDOTS-3458cDOTS-13458cDOTS-23458cDOTS-123458cDOTS-68cDOTS-168",
  "28A2aBRAILLE PATTERN DOTS-268cDOTS-1268cDOTS-368cDOTS-1368cDOTS-2368cDOTS-12368cDOTS-468",
  "28A9aBRAILLE PATTERN DOTS-1468cDOTS-2468cDOTS-12468cDOTS-3468cDOTS-13468cDOTS-23468cDOTS-123468",
  "28B0aBRAILLE PATTERN DOTS-568cDOTS-1568cDOTS-2568cDOTS-12568cDOTS-3568cDOTS-13568cDOTS-23568",
  "28B7aBRAILLE PATTERN DOTS-123568cDOTS-4568cDOTS-14568cDOTS-24568cDOTS-124568cDOTS-34568",
  "28BDaBRAILLE PATTERN DOTS-134568cDOTS-234568cDOTS-1234568cDOTS-78cDOTS-178cDOTS-278cDOTS-1278",
  "28C4aBRAILLE PATTERN DOTS-378cDOTS-1378cDOTS-2378cDOTS-12378cDOTS-478cDOTS-1478cDOTS-2478",
  "28CBaBRAILLE PATTERN DOTS-12478cDOTS-3478cDOTS-13478cDOTS-23478cDOTS-123478cDOTS-578cDOTS-1578",
  "28D2aBRAILLE PATTERN DOTS-2578cDOTS-12578cDOTS-3578cDOTS-13578cDOTS-23578cDOTS-123578cDOTS-4578",
  "28D9aBRAILLE PATTERN DOTS-14578cDOTS-24578cDOTS-124578cDOTS-34578cDOTS-134578cDOTS-234578",
  "28DFaBRAILLE PATTERN DOTS-1234578cDOTS-678cDOTS-1678cDOTS-2678cDOTS-12678cDOTS-3678cDOTS-13678",
  "28E6aBRAILLE PATTERN DOTS-23678cDOTS-123678cDOTS-4678cDOTS-14678cDOTS-24678cDOTS-124678",
  "28ECaBRAILLE PATTERN DOTS-34678cDOTS-134678cDOTS-234678cDOTS-1234678cDOTS-5678cDOTS-15678",
  "28F2aBRAILLE PATTERN DOTS-25678cDOTS-125678cDOTS-35678cDOTS-135678cDOTS-235678cDOTS-1235678",
  "28F8aBRAILLE PATTERN DOTS-45678cDOTS-145678cDOTS-245678cDOTS-1245678cDOTS-345678cDOTS-1345678",
  "28FEaBRAILLE PATTERN DOTS-2345678cDOTS-12345678aRIGHTWARDS TWO-HEADED ARROW WITH VERTICAL STROKE",
  "2901aRIGHTWARDS TWO-HEADED ARROW WITH DOUBLE VERTICAL STROKE",
  "2902aLEFTWARDS DOUBLE ARROW WITH VERTICAL STROKEaRIGHTWARDS DOUBLE ARROW WITH VERTICAL STROKE",
  "2904aLEFT RIGHT DOUBLE ARROW WITH VERTICAL STROKEaRIGHTWARDS TWO-HEADED ARROW FROM BAR",
  "2906aLEFTWARDS DOUBLE ARROW FROM BARaRIGHTWARDS DOUBLE ARROW FROM BAR",
  "2908aDOWNWARDS ARROW WITH HORIZONTAL STROKEaUPWARDS ARROW WITH HORIZONTAL STROKEbTRIPLE ARROW",
  "290BaDOWNWARDS TRIPLE ARROWaLEFTWARDS DOUBLE DASH ARROWaRIGHTWARDS DOUBLE DASH ARROW",
  "290EaLEFTWARDS TRIPLE DASH ARROWaRIGHTWARDS TRIPLE DASH ARROWbTWO-HEADED TRIPLE DASH ARROW",
  "2911aRIGHTWARDS ARROW WITH DOTTED STEMaUPWARDS ARROW TO BARaDOWNWARDS ARROW TO BAR",
  "2914aRIGHTWARDS ARROW WITH TAIL WITH VERTICAL STROKEfDOUBLE VERTICAL STROKE",
  "2916aRIGHTWARDS TWO-HEADED ARROW WITH TAILfWITH VERTICAL STROKEgDOUBLE VERTICAL STROKE",
  "2919aLEFTWARDS ARROW-TAILaRIGHTWARDS ARROW-TAILaLEFTWARDS DOUBLE ARROW-TAIL",
  "291CaRIGHTWARDS DOUBLE ARROW-TAILaLEFTWARDS ARROW TO BLACK DIAMOND",
  "291EaRIGHTWARDS ARROW TO BLACK DIAMONDaLEFTWARDS ARROW FROM BAR TO BLACK DIAMOND",
  "2920aRIGHTWARDS ARROW FROM BAR TO BLACK DIAMONDaNORTH WEST AND SOUTH EAST ARROW",
  "2922aNORTH EAST AND SOUTH WEST ARROWbWEST ARROW WITH HOOKbEAST ARROW WITH HOOK",
  "2925aSOUTH EAST ARROW WITH HOOKbWEST ARROW WITH HOOKaNORTH WEST ARROW AND NORTH EAST ARROW",
  "2928aNORTH EAST ARROW AND SOUTH EAST ARROWaSOUTH EAST ARROW AND SOUTH WEST ARROW",
  "292AaSOUTH WEST ARROW AND NORTH WEST ARROWaRISING DIAGONAL CROSSING FALLING DIAGONAL",
  "292CaFALLING DIAGONAL CROSSING RISING DIAGONALaSOUTH EAST ARROW CROSSING NORTH EAST ARROW",
  "292EaNORTH EAST ARROW CROSSING SOUTH EAST ARROWaFALLING DIAGONAL CROSSING NORTH EAST ARROW",
  "2930aRISING DIAGONAL CROSSING SOUTH EAST ARROWaNORTH EAST ARROW CROSSING NORTH WEST ARROW",
  "2932aNORTH WEST ARROW CROSSING NORTH EAST ARROWaWAVE ARROW POINTING DIRECTLY RIGHT",
  "2934aARROW POINTING RIGHTWARDS THEN CURVING UPWARDSfDOWNWARDScDOWNWARDS THEN CURVING LEFTWARDS",
  "2937aARROW POINTING DOWNWARDS THEN CURVING RIGHTWARDSaRIGHT-SIDE ARC CLOCKWISE ARROW",
  "2939aLEFT-SIDE ARC ANTICLOCKWISE ARROWaTOP ARC ANTICLOCKWISE ARROW",
  "293BaBOTTOM ARC ANTICLOCKWISE ARROWaTOP ARC CLOCKWISE ARROW WITH MINUS",
  "293DaTOP ARC ANTICLOCKWISE ARROW WITH PLUSaLOWER RIGHT SEMICIRCULAR CLOCKWISE ARROW",
  "293FaLOWER LEFT SEMICIRCULAR ANTICLOCKWISE ARROWaANTICLOCKWISE CLOSED CIRCLE ARROW",
  "2941aCLOCKWISE CLOSED CIRCLE ARROWaRIGHTWARDS ARROW ABOVE SHORT LEFTWARDS ARROW",
  "2943aLEFTWARDS ARROW ABOVE SHORT RIGHTWARDS ARROWaSHORT RIGHTWARDS ARROW ABOVE LEFTWARDS ARROW",
  "2945aRIGHTWARDS ARROW WITH PLUS BELOWaLEFTWARDS ARROW WITH PLUS BELOWaRIGHTWARDS ARROW THROUGH X",
  "2948aLEFT RIGHT ARROW THROUGH SMALL CIRCLEaUPWARDS TWO-HEADED ARROW FROM SMALL CIRCLE",
  "294AaLEFT BARB UP RIGHT BARB DOWN HARPOONcDOWN RIGHT BARB UP HARPOON",
  "294CaUP BARB RIGHT DOWN BARB LEFT HARPOONcLEFT DOWN BARB RIGHT HARPOON",
  "294EaLEFT BARB UP RIGHT BARB UP HARPOONaUP BARB RIGHT DOWN BARB RIGHT HARPOON",
  "2950aLEFT BARB DOWN RIGHT BARB DOWN HARPOONaUP BARB LEFT DOWN BARB LEFT HARPOON",
  "2952aLEFTWARDS HARPOON WITH BARB UP TO BARaRIGHTWARDS HARPOON WITH BARB UP TO BAR",
  "2954aUPWARDS HARPOON WITH BARB RIGHT TO BARaDOWNWARDS HARPOON WITH BARB RIGHT TO BAR",
  "2956aLEFTWARDS HARPOON WITH BARB DOWN TO BARaRIGHTWARDS HARPOON WITH BARB DOWN TO BAR",
  "2958aUPWARDS HARPOON WITH BARB LEFT TO BARaDOWNWARDS HARPOON WITH BARB LEFT TO BAR",
  "295AaLEFTWARDS HARPOON WITH BARB UP FROM BARaRIGHTWARDS HARPOON WITH BARB UP FROM BAR",
  "295CaUPWARDS HARPOON WITH BARB RIGHT FROM BARaDOWNWARDS HARPOON WITH BARB RIGHT FROM BAR",
  "295EaLEFTWARDS HARPOON WITH BARB DOWN FROM BARaRIGHTWARDS HARPOON WITH BARB DOWN FROM BAR",
  "2960aUPWARDS HARPOON WITH BARB LEFT FROM BARaDOWNWARDS HARPOON WITH BARB LEFT FROM BAR",
  "2962aLEFTWARDS HARPOON WITH BARB UP ABOVE LEFTWARDS HARPOON WITH BARB DOWN",
  "2963aUPWARDS HARPOON WITH BARB LEFT BESIDE UPWARDS HARPOON WITH BARB RIGHT",
  "2964aRIGHTWARDS HARPOON WITH BARB UP ABOVE RIGHTWARDS HARPOON WITH BARB DOWN",
  "2965aDOWNWARDS HARPOON WITH BARB LEFT BESIDE DOWNWARDS HARPOON WITH BARB RIGHT",
  "2966aLEFTWARDS HARPOON WITH BARB UP ABOVE RIGHTWARDS HARPOON WITH BARB UP",
  "2967aLEFTWARDS HARPOON WITH BARB DOWN ABOVE RIGHTWARDS HARPOON WITH BARB DOWN",
  "2968aRIGHTWARDS HARPOON WITH BARB UP ABOVE LEFTWARDS HARPOON WITH BARB UP",
  "2969aRIGHTWARDS HARPOON WITH BARB DOWN ABOVE LEFTWARDS HARPOON WITH BARB DOWN",
  "296AaLEFTWARDS HARPOON WITH BARB UP ABOVE LONG DASHeDOWN BELOW LONG DASH",
  "296CaRIGHTWARDS HARPOON WITH BARB UP ABOVE LONG DASHeDOWN BELOW LONG DASH",
  "296EaUPWARDS HARPOON WITH BARB LEFT BESIDE DOWNWARDS HARPOON WITH BARB RIGHT",
  "296FaDOWNWARDS HARPOON WITH BARB LEFT BESIDE UPWARDS HARPOON WITH BARB RIGHT",
  "2970aRIGHT DOUBLE ARROW WITH ROUNDED HEADaEQUALS SIGN ABOVE RIGHTWARDS ARROW",
  "2972aTILDE OPERATOR ABOVE RIGHTWARDS ARROWaLEFTWARDS ARROW ABOVE TILDE OPERATOR",
  "2974aRIGHTWARDS ARROW ABOVE TILDE OPERATORdALMOST EQUAL TOaLESS-THAN ABOVE LEFTWARDS ARROW",
  "2977aLEFTWARDS ARROW THROUGH LESS-THANaGREATER-THAN ABOVE RIGHTWARDS ARROW",
  "2979aSUBSET ABOVE RIGHTWARDS ARROWaLEFTWARDS ARROW THROUGH SUBSETaSUPERSET ABOVE LEFTWARDS ARROW",
  "297CaLEFT FISH TAILaRIGHT FISH TAILaUP FISH TAILaDOWN FISH TAILaTRIPLE VERTICAL BAR DELIMITER",
  "2981aZ NOTATION SPOTcTYPE COLONaLEFT WHITE CURLY BRACKETaRIGHT WHITE CURLY BRACKET",
  "2985aLEFT WHITE PARENTHESISaRIGHT WHITE PARENTHESISaZ NOTATION LEFT IMAGE BRACKET",
  "2988aZ NOTATION RIGHT IMAGE BRACKETcLEFT BINDING BRACKETcRIGHT BINDING BRACKET",
  "298BaLEFT SQUARE BRACKET WITH UNDERBARaRIGHT SQUARE BRACKET WITH UNDERBAR",
  "298DaLEFT SQUARE BRACKET WITH TICK IN TOP CORNERaRIGHT SQUARE BRACKET WITH TICK IN BOTTOM CORNER",
  "298FaLEFT SQUARE BRACKET WITH TICK IN BOTTOM CORNERaRIGHT SQUARE BRACKET WITH TICK IN TOP CORNER",
  "2991aLEFT ANGLE BRACKET WITH DOTaRIGHT ANGLE BRACKET WITH DOTaLEFT ARC LESS-THAN BRACKET",
  "2994aRIGHT ARC GREATER-THAN BRACKETaDOUBLE LEFT ARC GREATER-THAN BRACKET",
  "2996aDOUBLE RIGHT ARC LESS-THAN BRACKETaLEFT BLACK TORTOISE SHELL BRACKET",
  "2998aRIGHT BLACK TORTOISE SHELL BRACKETaDOTTED FENCEaVERTICAL ZIGZAG LINE",
  "299BaMEASURED ANGLE OPENING LEFTaRIGHT ANGLE VARIANT WITH SQUAREaMEASURED RIGHT ANGLE WITH DOT",
  "299EaANGLE WITH S INSIDEaACUTE ANGLEaSPHERICAL ANGLE OPENING LEFTdUPaTURNED ANGLEaREVERSED ANGLE",
  "29A4aANGLE WITH UNDERBARaREVERSED ANGLE WITH UNDERBARaOBLIQUE ANGLE OPENING UPdDOWN",
  "29A8aMEASURED ANGLE WITH OPEN ARM ENDING IN ARROW POINTING UP AND RIGHTlLEFTjDOWN AND RIGHTlLEFT",
  "29ACaMEASURED ANGLE WITH OPEN ARM ENDING IN ARROW POINTING RIGHT AND UPjLEFT AND UP",
  "29AEaMEASURED ANGLE WITH OPEN ARM ENDING IN ARROW POINTING RIGHT AND DOWNjLEFT AND DOWN",
  "29B0aREVERSED EMPTY SETaEMPTY SET WITH OVERBARdSMALL CIRCLE ABOVEdRIGHT ARROW ABOVE",
  "29B4aEMPTY SET WITH LEFT ARROW ABOVEaCIRCLE WITH HORIZONTAL BARaCIRCLED VERTICAL BARbPARALLEL",
  "29B8aCIRCLED REVERSE SOLIDUSbPERPENDICULAR",
  "29BAaCIRCLE DIVIDED BY HORIZONTAL BAR AND TOP HALF DIVIDED BY VERTICAL BARbWITH SUPERIMPOSED X",
  "29BCaCIRCLED ANTICLOCKWISE-ROTATED DIVISION SIGNaUP ARROW THROUGH CIRCLEaCIRCLED WHITE BULLET",
  "29BFaCIRCLED BULLETbLESS-THANbGREATER-THANaCIRCLE WITH SMALL CIRCLE TO THE RIGHT",
  "29C3aCIRCLE WITH TWO HORIZONTAL STROKES TO THE RIGHTaSQUARED RISING DIAGONAL SLASH",
  "29C5aSQUARED FALLING DIAGONAL SLASHbASTERISKbSMALL CIRCLEbSQUAREaTWO JOINED SQUARES",
  "29CAaTRIANGLE WITH DOT ABOVEcUNDERBARaS IN TRIANGLEaTRIANGLE WITH SERIFS AT BOTTOM",
  "29CEaRIGHT TRIANGLE ABOVE LEFT TRIANGLEaLEFT TRIANGLE BESIDE VERTICAL BAR",
  "29D0aVERTICAL BAR BESIDE RIGHT TRIANGLEaBOWTIE WITH LEFT HALF BLACKcRIGHT HALF BLACK",
  "29D3aBLACK BOWTIEaTIMES WITH LEFT HALF BLACKcRIGHT HALF BLACKaWHITE HOURGLASSaBLACK HOURGLASS",
  "29D8aLEFT WIGGLY FENCEaRIGHT WIGGLY FENCEaLEFT DOUBLE WIGGLY FENCEaRIGHT DOUBLE WIGGLY FENCE",
  "29DCaINCOMPLETE INFINITYaTIE OVER INFINITYaINFINITY NEGATED WITH VERTICAL BAR",
  "29DFaDOUBLE-ENDED MULTIMAPaSQUARE WITH CONTOURED OUTLINEaINCREASES ASaSHUFFLE PRODUCT",
  "29E3aEQUALS SIGN AND SLANTED PARALLELfWITH TILDE ABOVEaIDENTICAL TO AND SLANTED PARALLEL",
  "29E6aGLEICH STARKaTHERMODYNAMICaDOWN-POINTING TRIANGLE WITH LEFT HALF BLACKdRIGHT HALF BLACK",
  "29EAaBLACK DIAMOND WITH DOWN ARROWbLOZENGEaWHITE CIRCLE WITH DOWN ARROW",
  "29EDaBLACK CIRCLE WITH DOWN ARROWaERROR-BARRED WHITE SQUAREbBLACK SQUAREbWHITE DIAMOND",
  "29F1aERROR-BARRED BLACK DIAMONDbWHITE CIRCLEbBLACK CIRCLEaRULE-DELAYEDaREVERSE SOLIDUS OPERATOR",
  "29F6aSOLIDUS WITH OVERBARaREVERSE SOLIDUS WITH HORIZONTAL STROKEaBIG SOLIDUSbREVERSE SOLIDUS",
  "29FAaDOUBLE PLUSaTRIPLE PLUSaLEFT-POINTING CURVED ANGLE BRACKET",
  "29FDaRIGHT-POINTING CURVED ANGLE BRACKETaTINYaMINYaN-ARY CIRCLED DOT OPERATORcPLUS OPERATOR",
  "2A02aN-ARY CIRCLED TIMES OPERATORbUNION OPERATOR WITH DOTePLUSbSQUARE INTERSECTION OPERATOR",
  "2A06aN-ARY SQUARE UNION OPERATORaTWO LOGICAL AND OPERATORcOR OPERATORaN-ARY TIMES OPERATOR",
  "2A0AaMODULO TWO SUMaSUMMATION WITH INTEGRALaQUADRUPLE INTEGRAL OPERATORaFINITE PART INTEGRAL",
  "2A0EaINTEGRAL WITH DOUBLE STROKEbAVERAGE WITH SLASHaCIRCULATION FUNCTION",
  "2A11aANTICLOCKWISE INTEGRATIONaLINE INTEGRATION WITH RECTANGULAR PATH AROUND POLE",
  "2A13aLINE INTEGRATION WITH SEMICIRCULAR PATH AROUND POLEcNOT INCLUDING THE POLE",
  "2A15aINTEGRAL AROUND A POINT OPERATORaQUATERNION INTEGRAL OPERATOR",
  "2A17aINTEGRAL WITH LEFTWARDS ARROW WITH HOOKcTIMES SIGNcINTERSECTIONcUNIONcOVERBARcUNDERBARaJOIN",
  "2A1EaLARGE LEFT TRIANGLE OPERATORaZ NOTATION SCHEMA COMPOSITIONdPIPINGdPROJECTION",
  "2A22aPLUS SIGN WITH SMALL CIRCLE ABOVEdCIRCUMFLEX ACCENT ABOVEdTILDE ABOVEdDOT BELOWdTILDE BELOW",
  "2A27aPLUS SIGN WITH SUBSCRIPT TWOdBLACK TRIANGLEaMINUS SIGN WITH COMMA ABOVEdDOT BELOW",
  "2A2BaMINUS SIGN WITH FALLING DOTSdRISING DOTSaPLUS SIGN IN LEFT HALF CIRCLEdRIGHT HALF CIRCLE",
  "2A2FaVECTOR OR CROSS PRODUCTaMULTIPLICATION SIGN WITH DOT ABOVEdUNDERBAR",
  "2A32aSEMIDIRECT PRODUCT WITH BOTTOM CLOSEDaSMASH PRODUCTaMULTIPLICATION SIGN IN LEFT HALF CIRCLE",
  "2A35aMULTIPLICATION SIGN IN RIGHT HALF CIRCLEaCIRCLED MULTIPLICATION SIGN WITH CIRCUMFLEX ACCENT",
  "2A37aMULTIPLICATION SIGN IN DOUBLE CIRCLEaCIRCLED DIVISION SIGNaPLUS SIGN IN TRIANGLE",
  "2A3AaMINUS SIGN IN TRIANGLEaMULTIPLICATION SIGN IN TRIANGLEaINTERIOR PRODUCT",
  "2A3DaRIGHTHAND INTERIOR PRODUCTaZ NOTATION RELATIONAL COMPOSITIONaAMALGAMATION OR COPRODUCT",
  "2A40aINTERSECTION WITH DOTaUNION WITH MINUS SIGNcOVERBARaINTERSECTION WITH OVERBARcLOGICAL AND",
  "2A45aUNION WITH LOGICAL ORbABOVE INTERSECTIONaINTERSECTION ABOVE UNION",
  "2A48aUNION ABOVE BAR ABOVE INTERSECTIONaINTERSECTION ABOVE BAR ABOVE UNION",
  "2A4AaUNION BESIDE AND JOINED WITH UNIONaINTERSECTION BESIDE AND JOINED WITH INTERSECTION",
  "2A4CaCLOSED UNION WITH SERIFSbINTERSECTION WITH SERIFSaDOUBLE SQUARE INTERSECTIONcUNION",
  "2A50aCLOSED UNION WITH SERIFS AND SMASH PRODUCTaLOGICAL AND WITH DOT ABOVEbOR WITH DOT ABOVE",
  "2A53aDOUBLE LOGICAL ANDcORaTWO INTERSECTING LOGICAL ANDdORaSLOPING LARGE ORcAND",
  "2A59aLOGICAL OR OVERLAPPING LOGICAL ANDbAND WITH MIDDLE STEMbOR WITH MIDDLE STEM",
  "2A5CaLOGICAL AND WITH HORIZONTAL DASHbOR WITH HORIZONTAL DASHbAND WITH DOUBLE OVERBARdUNDERBAR",
  "2A60aLOGICAL AND WITH DOUBLE UNDERBARaSMALL VEE WITH UNDERBARaLOGICAL OR WITH DOUBLE OVERBAR",
  "2A63aLOGICAL OR WITH DOUBLE UNDERBARaZ NOTATION DOMAIN ANTIRESTRICTIONcRANGE ANTIRESTRICTION",
  "2A66aEQUALS SIGN WITH DOT BELOWaIDENTICAL WITH DOT ABOVE",
  "2A68aTRIPLE HORIZONTAL BAR WITH DOUBLE VERTICAL STROKEeTRIPLE VERTICAL STROKE",
  "2A6AaTILDE OPERATOR WITH DOT ABOVEdRISING DOTSaSIMILAR MINUS SIMILARaCONGRUENT WITH DOT ABOVE",
  "2A6EaEQUALS WITH ASTERISKaALMOST EQUAL TO WITH CIRCUMFLEX ACCENTaAPPROXIMATELY EQUAL OR EQUAL TO",
  "2A71aEQUALS SIGN ABOVE PLUS SIGNaPLUS SIGN ABOVE EQUALS SIGNaEQUALS SIGN ABOVE TILDE OPERATOR",
  "2A74aDOUBLE COLON EQUALaTWO CONSECUTIVE EQUALS SIGNSaTHREE CONSECUTIVE EQUALS SIGNS",
  "2A77aEQUALS SIGN WITH TWO DOTS ABOVE AND TWO DOTS BELOWaEQUIVALENT WITH FOUR DOTS ABOVE",
  "2A79aLESS-THAN WITH CIRCLE INSIDEaGREATER-THAN WITH CIRCLE INSIDE",
  "2A7BaLESS-THAN WITH QUESTION MARK ABOVEaGREATER-THAN WITH QUESTION MARK ABOVE",
  "2A7DaLESS-THAN OR SLANTED EQUAL TOaGREATER-THAN OR SLANTED EQUAL TO",
  "2A7FaLESS-THAN OR SLANTED EQUAL TO WITH DOT INSIDE",
  "2A80aGREATER-THAN OR SLANTED EQUAL TO WITH DOT INSIDE",
  "2A81aLESS-THAN OR SLANTED EQUAL TO WITH DOT ABOVE",
  "2A82aGREATER-THAN OR SLANTED EQUAL TO WITH DOT ABOVE",
  "2A83aLESS-THAN OR SLANTED EQUAL TO WITH DOT ABOVE RIGHT",
  "2A84aGREATER-THAN OR SLANTED EQUAL TO WITH DOT ABOVE LEFTaLESS-THAN OR APPROXIMATE",
  "2A86aGREATER-THAN OR APPROXIMATEaLESS-THAN AND SINGLE-LINE NOT EQUAL TO",
  "2A88aGREATER-THAN AND SINGLE-LINE NOT EQUAL TOaLESS-THAN AND NOT APPROXIMATE",
  "2A8AaGREATER-THAN AND NOT APPROXIMATEaLESS-THAN ABOVE DOUBLE-LINE EQUAL ABOVE GREATER-THAN",
  "2A8CaGREATER-THAN ABOVE DOUBLE-LINE EQUAL ABOVE LESS-THANaLESS-THAN ABOVE SIMILAR OR EQUAL",
  "2A8EaGREATER-THAN ABOVE SIMILAR OR EQUALaLESS-THAN ABOVE SIMILAR ABOVE GREATER-THAN",
  "2A90aGREATER-THAN ABOVE SIMILAR ABOVE LESS-THAN",
  "2A91aLESS-THAN ABOVE GREATER-THAN ABOVE DOUBLE-LINE EQUAL",
  "2A92aGREATER-THAN ABOVE LESS-THAN ABOVE DOUBLE-LINE EQUAL",
  "2A93aLESS-THAN ABOVE SLANTED EQUAL ABOVE GREATER-THAN ABOVE SLANTED EQUAL",
  "2A94aGREATER-THAN ABOVE SLANTED EQUAL ABOVE LESS-THAN ABOVE SLANTED EQUAL",
  "2A95aSLANTED EQUAL TO OR LESS-THANeGREATER-THANeLESS-THAN WITH DOT INSIDE",
  "2A98aSLANTED EQUAL TO OR GREATER-THAN WITH DOT INSIDEaDOUBLE-LINE EQUAL TO OR LESS-THAN",
  "2A9AaDOUBLE-LINE EQUAL TO OR GREATER-THANbSLANTED EQUAL TO OR LESS-THANfGREATER-THAN",
  "2A9DaSIMILAR OR LESS-THANcGREATER-THANbABOVE LESS-THAN ABOVE EQUALS SIGN",
  "2AA0aSIMILAR ABOVE GREATER-THAN ABOVE EQUALS SIGNaDOUBLE NESTED LESS-THANcGREATER-THAN",
  "2AA3aDOUBLE NESTED LESS-THAN WITH UNDERBARaGREATER-THAN OVERLAPPING LESS-THANbBESIDE LESS-THAN",
  "2AA6aLESS-THAN CLOSED BY CURVEaGREATER-THAN CLOSED BY CURVE",
  "2AA8aLESS-THAN CLOSED BY CURVE ABOVE SLANTED EQUAL",
  "2AA9aGREATER-THAN CLOSED BY CURVE ABOVE SLANTED EQUALaSMALLER THANaLARGER THAN",
  "2AACaSMALLER THAN OR EQUAL TOaLARGER THAN OR EQUAL TOaEQUALS SIGN WITH BUMPY ABOVE",
  "2AAFaPRECEDES ABOVE SINGLE-LINE EQUALS SIGNaSUCCEEDS ABOVE SINGLE-LINE EQUALS SIGN",
  "2AB1aPRECEDES ABOVE SINGLE-LINE NOT EQUAL TOaSUCCEEDS ABOVE SINGLE-LINE NOT EQUAL TO",
  "2AB3aPRECEDES ABOVE EQUALS SIGNaSUCCEEDS ABOVE EQUALS SIGNaPRECEDES ABOVE NOT EQUAL TO",
  "2AB6aSUCCEEDS ABOVE NOT EQUAL TOaPRECEDES ABOVE ALMOST EQUAL TOaSUCCEEDS ABOVE ALMOST EQUAL TO",
  "2AB9aPRECEDES ABOVE NOT ALMOST EQUAL TOaSUCCEEDS ABOVE NOT ALMOST EQUAL TOaDOUBLE PRECEDES",
  "2ABCaDOUBLE SUCCEEDSaSUBSET WITH DOTaSUPERSET WITH DOTaSUBSET WITH PLUS SIGN BELOW",
  "2AC0aSUPERSET WITH PLUS SIGN BELOWaSUBSET WITH MULTIPLICATION SIGN BELOW",
  "2AC2aSUPERSET WITH MULTIPLICATION SIGN BELOWaSUBSET OF OR EQUAL TO WITH DOT ABOVE",
  "2AC4aSUPERSET OF OR EQUAL TO WITH DOT ABOVEaSUBSET OF ABOVE EQUALS SIGN",
  "2AC6aSUPERSET OF ABOVE EQUALS SIGNaSUBSET OF ABOVE TILDE OPERATOR",
  "2AC8aSUPERSET OF ABOVE TILDE OPERATORaSUBSET OF ABOVE ALMOST EQUAL TO",
  "2ACAaSUPERSET OF ABOVE ALMOST EQUAL TOaSUBSET OF ABOVE NOT EQUAL TO",
  "2ACCaSUPERSET OF ABOVE NOT EQUAL TOaSQUARE LEFT OPEN BOX OPERATORbRIGHT OPEN BOX OPERATOR",
  "2ACFaCLOSED SUBSETbSUPERSETbSUBSET OR EQUAL TObSUPERSET OR EQUAL TOaSUBSET ABOVE SUPERSET",
  "2AD4aSUPERSET ABOVE SUBSETaSUBSET ABOVE SUBSETaSUPERSET ABOVE SUPERSETbBESIDE SUBSET",
  "2AD8aSUPERSET BESIDE AND JOINED BY DASH WITH SUBSETaELEMENT OF OPENING DOWNWARDS",
  "2ADAaPITCHFORK WITH TEE TOPaTRANSVERSAL INTERSECTIONaFORKINGaNONFORKINGaSHORT LEFT TACK"]

/-- More rows of names. -/
def nameRowsF : List String := [
  "2ADFaSHORT DOWN TACKbUP TACKaPERPENDICULAR WITH SaVERTICAL BAR TRIPLE RIGHT TURNSTILE",
  "2AE3aDOUBLE VERTICAL BAR LEFT TURNSTILEaVERTICAL BAR DOUBLE LEFT TURNSTILE",
  "2AE5aDOUBLE VERTICAL BAR DOUBLE LEFT TURNSTILEaLONG DASH FROM LEFT MEMBER OF DOUBLE VERTICAL",
  "2AE7aSHORT DOWN TACK WITH OVERBARbUP TACK WITH UNDERBARdABOVE SHORT DOWN TACKaDOUBLE DOWN TACK",
  "2AEBaDOUBLE UP TACKbSTROKE NOT SIGNaREVERSED DOUBLE STROKE NOT SIGN",
  "2AEEaDOES NOT DIVIDE WITH REVERSED NEGATION SLASHaVERTICAL LINE WITH CIRCLE ABOVEeBELOW",
  "2AF1aDOWN TACK WITH CIRCLE BELOWaPARALLEL WITH HORIZONTAL STROKEcTILDE OPERATOR",
  "2AF4aTRIPLE VERTICAL BAR BINARY RELATIONdWITH HORIZONTAL STROKEbCOLON OPERATORbNESTED LESS-THAN",
  "2AF8aTRIPLE NESTED GREATER-THANaDOUBLE-LINE SLANTED LESS-THAN OR EQUAL TO",
  "2AFAaDOUBLE-LINE SLANTED GREATER-THAN OR EQUAL TOaTRIPLE SOLIDUS BINARY RELATION",
  "2AFCaLARGE TRIPLE VERTICAL BAR OPERATORaDOUBLE SOLIDUS OPERATORaWHITE VERTICAL BAR",
  "2AFFaN-ARY WHITE VERTICAL BARaNORTH EAST WHITE ARROWbWEST WHITE ARROWaSOUTH EAST WHITE ARROW",
  "2B03aSOUTH WEST WHITE ARROWaLEFT RIGHT WHITE ARROWaLEFTWARDS BLACK ARROWaUPWARDS BLACK ARROW",
  "2B07aDOWNWARDS BLACK ARROWaNORTH EAST BLACK ARROWbWEST BLACK ARROWaSOUTH EAST BLACK ARROW",
  "2B0BaSOUTH WEST BLACK ARROWaLEFT RIGHT BLACK ARROWaUP DOWN BLACK ARROW",
  "2B0EaRIGHTWARDS ARROW WITH TIP DOWNWARDSeUPWARDSaLEFTWARDS ARROW WITH TIP DOWNWARDSeUPWARDS",
  "2B12aSQUARE WITH TOP HALF BLACKcBOTTOM HALF BLACKcUPPER RIGHT DIAGONAL HALF BLACK",
  "2B15aSQUARE WITH LOWER LEFT DIAGONAL HALF BLACKaDIAMOND WITH LEFT HALF BLACKcRIGHT HALF BLACK",
  "2B18aDIAMOND WITH TOP HALF BLACKcBOTTOM HALF BLACKaDOTTED SQUAREaBLACK LARGE SQUARE",
  "2B1CaWHITE LARGE SQUAREaBLACK VERY SMALL SQUAREaWHITE VERY SMALL SQUAREaBLACK PENTAGON",
  "2B20aWHITE PENTAGONbHEXAGONaBLACK HEXAGONaHORIZONTAL BLACK HEXAGONaBLACK LARGE CIRCLE",
  "2B25aBLACK MEDIUM DIAMONDaWHITE MEDIUM DIAMONDaBLACK MEDIUM LOZENGEaWHITE MEDIUM LOZENGE",
  "2B29aBLACK SMALL DIAMONDcLOZENGEaWHITE SMALL LOZENGEaBLACK HORIZONTAL ELLIPSE",
  "2B2DaWHITE HORIZONTAL ELLIPSEaBLACK VERTICAL ELLIPSEaWHITE VERTICAL ELLIPSE",
  "2B30aLEFT ARROW WITH SMALL CIRCLEaTHREE LEFTWARDS ARROWSaLEFT ARROW WITH CIRCLED PLUS",
  "2B33aLONG LEFTWARDS SQUIGGLE ARROWaLEFTWARDS TWO-HEADED ARROW WITH VERTICAL STROKE",
  "2B35aLEFTWARDS TWO-HEADED ARROW WITH DOUBLE VERTICAL STROKEdFROM BARcTRIPLE DASH ARROW",
  "2B38aLEFTWARDS ARROW WITH DOTTED STEMdTAIL WITH VERTICAL STROKEfDOUBLE VERTICAL STROKE",
  "2B3BaLEFTWARDS TWO-HEADED ARROW WITH TAILfWITH VERTICAL STROKEgDOUBLE VERTICAL STROKE",
  "2B3EaLEFTWARDS ARROW THROUGH XaWAVE ARROW POINTING DIRECTLY LEFT",
  "2B40aEQUALS SIGN ABOVE LEFTWARDS ARROWaREVERSE TILDE OPERATOR ABOVE LEFTWARDS ARROW",
  "2B42aLEFTWARDS ARROW ABOVE REVERSE ALMOST EQUAL TOaRIGHTWARDS ARROW THROUGH GREATER-THAN",
  "2B44aRIGHTWARDS ARROW THROUGH SUPERSETaLEFTWARDS QUADRUPLE ARROWaRIGHTWARDS QUADRUPLE ARROW",
  "2B47aREVERSE TILDE OPERATOR ABOVE RIGHTWARDS ARROW",
  "2B48aRIGHTWARDS ARROW ABOVE REVERSE ALMOST EQUAL TOaTILDE OPERATOR ABOVE LEFTWARDS ARROW",
  "2B4AaLEFTWARDS ARROW ABOVE ALMOST EQUAL TOdREVERSE TILDE OPERATOR",
  "2B4CaRIGHTWARDS ARROW ABOVE REVERSE TILDE OPERATORaDOWNWARDS TRIANGLE-HEADED ZIGZAG ARROW",
  "2B4EaSHORT SLANTED NORTH ARROWbBACKSLANTED SOUTH ARROWaWHITE MEDIUM STARaBLACK SMALL STAR",
  "2B52aWHITE SMALL STARaBLACK RIGHT-POINTING PENTAGONaWHITE RIGHT-POINTING PENTAGON",
  "2B55aHEAVY LARGE CIRCLEbOVAL WITH OVAL INSIDEbCIRCLE WITH CIRCLE INSIDE",
  "2B58aHEAVY CIRCLEbCIRCLED SALTIREaSLANTED NORTH ARROW WITH HOOKED HEAD",
  "2B5BaBACKSLANTED SOUTH ARROW WITH HOOKED TAILaSLANTED NORTH ARROW WITH HORIZONTAL TAIL",
  "2B5DaBACKSLANTED SOUTH ARROW WITH HORIZONTAL TAILaBENT ARROW POINTING DOWNWARDS THEN NORTH EAST",
  "2B5FaSHORT BENT ARROW POINTING DOWNWARDS THEN NORTH EASTaLEFTWARDS TRIANGLE-HEADED ARROW",
  "2B61aUPWARDS TRIANGLE-HEADED ARROWaRIGHTWARDS TRIANGLE-HEADED ARROW",
  "2B63aDOWNWARDS TRIANGLE-HEADED ARROWaLEFT RIGHT TRIANGLE-HEADED ARROW",
  "2B65aUP DOWN TRIANGLE-HEADED ARROWaNORTH WEST TRIANGLE-HEADED ARROWbEAST TRIANGLE-HEADED ARROW",
  "2B68aSOUTH EAST TRIANGLE-HEADED ARROWbWEST TRIANGLE-HEADED ARROW",
  "2B6AaLEFTWARDS TRIANGLE-HEADED DASHED ARROWaUPWARDS TRIANGLE-HEADED DASHED ARROW",
  "2B6CaRIGHTWARDS TRIANGLE-HEADED DASHED ARROWaDOWNWARDS TRIANGLE-HEADED DASHED ARROW",
  "2B6EaCLOCKWISE TRIANGLE-HEADED OPEN CIRCLE ARROWaANTICLOCKWISE TRIANGLE-HEADED OPEN CIRCLE ARROW",
  "2B70aLEFTWARDS TRIANGLE-HEADED ARROW TO BARaUPWARDS TRIANGLE-HEADED ARROW TO BAR",
  "2B72aRIGHTWARDS TRIANGLE-HEADED ARROW TO BARaDOWNWARDS TRIANGLE-HEADED ARROW TO BAR",
  "2B76aNORTH WEST TRIANGLE-HEADED ARROW TO BARbEAST TRIANGLE-HEADED ARROW TO BAR",
  "2B78aSOUTH EAST TRIANGLE-HEADED ARROW TO BARbWEST TRIANGLE-HEADED ARROW TO BAR",
  "2B7AaLEFTWARDS TRIANGLE-HEADED ARROW WITH DOUBLE HORIZONTAL STROKE",
  "2B7BaUPWARDS TRIANGLE-HEADED ARROW WITH DOUBLE HORIZONTAL STROKE",
  "2B7CaRIGHTWARDS TRIANGLE-HEADED ARROW WITH DOUBLE HORIZONTAL STROKE",
  "2B7DaDOWNWARDS TRIANGLE-HEADED ARROW WITH DOUBLE HORIZONTAL STROKEaHORIZONTAL TAB KEY",
  "2B7FaVERTICAL TAB KEYaLEFTWARDS TRIANGLE-HEADED ARROW OVER RIGHTWARDS TRIANGLE-HEADED ARROW",
  "2B81aUPWARDS TRIANGLE-HEADED ARROW LEFTWARDS OF DOWNWARDS TRIANGLE-HEADED ARROW",
  "2B82aRIGHTWARDS TRIANGLE-HEADED ARROW OVER LEFTWARDS TRIANGLE-HEADED ARROW",
  "2B83aDOWNWARDS TRIANGLE-HEADED ARROW LEFTWARDS OF UPWARDS TRIANGLE-HEADED ARROW",
  "2B84aLEFTWARDS TRIANGLE-HEADED PAIRED ARROWSaUPWARDS TRIANGLE-HEADED PAIRED ARROWS",
  "2B86aRIGHTWARDS TRIANGLE-HEADED PAIRED ARROWSaDOWNWARDS TRIANGLE-HEADED PAIRED ARROWS",
  "2B88aLEFTWARDS BLACK CIRCLED WHITE ARROWaUPWARDS BLACK CIRCLED WHITE ARROW",
  "2B8AaRIGHTWARDS BLACK CIRCLED WHITE ARROWaDOWNWARDS BLACK CIRCLED WHITE ARROW",
  "2B8CaANTICLOCKWISE TRIANGLE-HEADED RIGHT U-SHAPED ARROWcBOTTOM U-SHAPED ARROW",
  "2B8EaANTICLOCKWISE TRIANGLE-HEADED LEFT U-SHAPED ARROWcTOP U-SHAPED ARROWaRETURN LEFTbRIGHT",
  "2B92aNEWLINE LEFTbRIGHTaFOUR CORNER ARROWS CIRCLING ANTICLOCKWISEaRIGHTWARDS BLACK ARROW",
  "2B97aSYMBOL FOR TYPE A ELECTRONICSaTHREE-D TOP-LIGHTED LEFTWARDS EQUILATERAL ARROWHEAD",
  "2B99aTHREE-D RIGHT-LIGHTED UPWARDS EQUILATERAL ARROWHEAD",
  "2B9AaTHREE-D TOP-LIGHTED RIGHTWARDS EQUILATERAL ARROWHEAD",
  "2B9BaTHREE-D LEFT-LIGHTED DOWNWARDS EQUILATERAL ARROWHEADaBLACK LEFTWARDS EQUILATERAL ARROWHEAD",
  "2B9DaBLACK UPWARDS EQUILATERAL ARROWHEADbRIGHTWARDS EQUILATERAL ARROWHEAD",
  "2B9FaBLACK DOWNWARDS EQUILATERAL ARROWHEAD",
  "2BA0aDOWNWARDS TRIANGLE-HEADED ARROW WITH LONG TIP LEFTWARDSgRIGHTWARDS",
  "2BA2aUPWARDS TRIANGLE-HEADED ARROW WITH LONG TIP LEFTWARDSgRIGHTWARDS",
  "2BA4aLEFTWARDS TRIANGLE-HEADED ARROW WITH LONG TIP UPWARDS",
  "2BA5aRIGHTWARDS TRIANGLE-HEADED ARROW WITH LONG TIP UPWARDS",
  "2BA6aLEFTWARDS TRIANGLE-HEADED ARROW WITH LONG TIP DOWNWARDS",
  "2BA7aRIGHTWARDS TRIANGLE-HEADED ARROW WITH LONG TIP DOWNWARDS",
  "2BA8aBLACK CURVED DOWNWARDS AND LEFTWARDS ARROWeRIGHTWARDS ARROWcUPWARDS AND LEFTWARDS ARROW",
  "2BABaBLACK CURVED UPWARDS AND RIGHTWARDS ARROWcLEFTWARDS AND UPWARDS ARROW",
  "2BADaBLACK CURVED RIGHTWARDS AND UPWARDS ARROWcLEFTWARDS AND DOWNWARDS ARROW",
  "2BAFaBLACK CURVED RIGHTWARDS AND DOWNWARDS ARROWaRIBBON ARROW DOWN LEFTdRIGHTcUP LEFTdRIGHT",
  "2BB4aRIBBON ARROW LEFT UPcRIGHT UPcLEFT DOWNcRIGHT DOWN",
  "2BB8aUPWARDS WHITE ARROW FROM BAR WITH HORIZONTAL BARaUP ARROWHEAD IN A RECTANGLE BOX",
  "2BBAaOVERLAPPING WHITE SQUAREScAND BLACK SQUARESbBLACK SQUARESaBALLOT BOX WITH LIGHT XaCIRCLED X",
  "2BBFaCIRCLED BOLD XaBLACK SQUARE CENTREDbDIAMOND CENTREDaTURNED BLACK PENTAGON",
  "2BC3aHORIZONTAL BLACK OCTAGONaBLACK OCTAGONbMEDIUM UP-POINTING TRIANGLE CENTRED",
  "2BC6aBLACK MEDIUM DOWN-POINTING TRIANGLE CENTREDcLEFT-POINTING TRIANGLE CENTRED",
  "2BC8aBLACK MEDIUM RIGHT-POINTING TRIANGLE CENTREDaNEPTUNE FORM TWOaTOP HALF BLACK CIRCLE",
  "2BCBaBOTTOM HALF BLACK CIRCLEaLIGHT FOUR POINTED BLACK CUSP",
  "2BCDaROTATED LIGHT FOUR POINTED BLACK CUSPaWHITE FOUR POINTED CUSP",
  "2BCFaROTATED WHITE FOUR POINTED CUSPaSQUARE POSITION INDICATORaUNCERTAINTY SIGNaGROUP MARK",
  "2BD3aPLUTO FORM TWOcTHREEcFOURcFIVEaTRANSPLUTOaPROSERPINAaASTRAEAaHYGIEAaPHOLUSaNESSUS",
  "2BDDaWHITE MOON SELENAaBLACK DIAMOND ON CROSSaTRUE LIGHT MOON ARTAaCUPIDOaHADESaZEUSaKRONOS",
  "2BE4aAPOLLONaADMETOSaVULCANUSaPOSEIDONaLEFT HALF BLACK STARaRIGHT HALF BLACK STAR",
  "2BEAaSTAR WITH LEFT HALF BLACKcRIGHT HALF BLACK",
  "2BECaLEFTWARDS TWO-HEADED ARROW WITH TRIANGLE ARROWHEADS",
  "2BEDaUPWARDS TWO-HEADED ARROW WITH TRIANGLE ARROWHEADS",
  "2BEEaRIGHTWARDS TWO-HEADED ARROW WITH TRIANGLE ARROWHEADS",
  "2BEFaDOWNWARDS TWO-HEADED ARROW WITH TRIANGLE ARROWHEADSaERIS FORM ONEcTWOaSEDNA",
  "2BF3aRUSSIAN ASTROLOGICAL SYMBOL VIGINTILEdNOVILEdQUINTILEdBINOVILEdSENTAGONdTREDECILE",
  "2BF9aEQUALS SIGN WITH INFINITY BELOWaUNITED SYMBOLaSEPARATED SYMBOLaDOUBLED SYMBOLaPASSED SYMBOL",
  "2BFEaREVERSED RIGHT ANGLEaHELLSCHREIBER PAUSE SYMBOLaGLAGOLITIC CAPITAL LETTER AZUdBUKYdVEDE",
  "2C03aGLAGOLITIC CAPITAL LETTER GLAGOLIdDOBROdYESTUdZHIVETEdDZELOdZEMLJAdIZHEdINITIAL IZHEdI",
  "2C0CaGLAGOLITIC CAPITAL LETTER DJERVIdKAKOdLJUDIJEdMYSLITEdNASHIdONUdPOKOJIdRITSIdSLOVOdTVRIDO",
  "2C16aGLAGOLITIC CAPITAL LETTER UKUdFRITUdHERUdOTUdPEdSHTAdTSIdCHRIVIdSHAdYERUdYERIdYATI",
  "2C22aGLAGOLITIC CAPITAL LETTER SPIDERY HAdYUdSMALL YUSfWITH TAILdYOdIOTATED SMALL YUSdBIG YUS",
  "2C29aGLAGOLITIC CAPITAL LETTER IOTATED BIG YUSdFITAdIZHITSAdSHTAPICdTROKUTASTI A",
  "2C2EaGLAGOLITIC CAPITAL LETTER LATINATE MYSLITEdCAUDATE CHRIVIbSMALL LETTER AZUdBUKYdVEDE",
  "2C33aGLAGOLITIC SMALL LETTER GLAGOLIdDOBROdYESTUdZHIVETEdDZELOdZEMLJAdIZHEdINITIAL IZHEdIdDJERVI",
  "2C3DaGLAGOLITIC SMALL LETTER KAKOdLJUDIJEdMYSLITEdNASHIdONUdPOKOJIdRITSIdSLOVOdTVRIDOdUKUdFRITU",
  "2C48aGLAGOLITIC SMALL LETTER HERUdOTUdPEdSHTAdTSIdCHRIVIdSHAdYERUdYERIdYATIdSPIDERY HAdYU",
  "2C54aGLAGOLITIC SMALL LETTER SMALL YUSfWITH TAILdYOdIOTATED SMALL YUSdBIG YUSdIOTATED BIG YUS",
  "2C5AaGLAGOLITIC SMALL LETTER FITAdIZHITSAdSHTAPICdTROKUTASTI AdLATINATE MYSLITEdCAUDATE CHRIVI",
  "2C60aLATIN CAPITAL LETTER L WITH DOUBLE BARbSMALL LETTER L WITH DOUBLE BAR",
  "2C62aLATIN CAPITAL LETTER L WITH MIDDLE TILDEdP WITH STROKEdR WITH TAIL",
  "2C65aLATIN SMALL LETTER A WITH STROKEdT WITH DIAGONAL STROKEbCAPITAL LETTER H WITH DESCENDER",
  "2C68aLATIN SMALL LETTER H WITH DESCENDERbCAPITAL LETTER K WITH DESCENDER",
  "2C6AaLATIN SMALL LETTER K WITH DESCENDERbCAPITAL LETTER Z WITH DESCENDER",
  "2C6CaLATIN SMALL LETTER Z WITH DESCENDERbCAPITAL LETTER ALPHAdM WITH HOOKdTURNED AeALPHA",
  "2C71aLATIN SMALL LETTER V WITH RIGHT HOOKbCAPITAL LETTER W WITH HOOKbSMALL LETTER W WITH HOOK",
  "2C74aLATIN SMALL LETTER V WITH CURLbCAPITAL LETTER HALF HbSMALL LETTER HALF HdTAILLESS PHI",
  "2C78aLATIN SMALL LETTER E WITH NOTCHdTURNED R WITH TAILdO WITH LOW RING INSIDE",
  "2C7BaLATIN LETTER SMALL CAPITAL TURNED EbSUBSCRIPT SMALL LETTER JaMODIFIER LETTER CAPITAL V",
  "2C7EaLATIN CAPITAL LETTER S WITH SWASH TAILdZ WITH SWASH TAILaCOPTIC CAPITAL LETTER ALFA",
  "2C81aCOPTIC SMALL LETTER ALFAbCAPITAL LETTER VIDAbSMALL LETTER VIDAbCAPITAL LETTER GAMMA",
  "2C85aCOPTIC SMALL LETTER GAMMAbCAPITAL LETTER DALDAbSMALL LETTER DALDAbCAPITAL LETTER EIE",
  "2C89aCOPTIC SMALL LETTER EIEbCAPITAL LETTER SOUbSMALL LETTER SOUbCAPITAL LETTER ZATA",
  "2C8DaCOPTIC SMALL LETTER ZATAbCAPITAL LETTER HATEbSMALL LETTER HATEbCAPITAL LETTER THETHE",
  "2C91aCOPTIC SMALL LETTER THETHEbCAPITAL LETTER IAUDAbSMALL LETTER IAUDAbCAPITAL LETTER KAPA",
  "2C95aCOPTIC SMALL LETTER KAPAbCAPITAL LETTER LAULAbSMALL LETTER LAULAbCAPITAL LETTER MI",
  "2C99aCOPTIC SMALL LETTER MIbCAPITAL LETTER NIbSMALL LETTER NIbCAPITAL LETTER KSI",
  "2C9DaCOPTIC SMALL LETTER KSIbCAPITAL LETTER ObSMALL LETTER ObCAPITAL LETTER PIbSMALL LETTER PI",
  "2CA2aCOPTIC CAPITAL LETTER RObSMALL LETTER RObCAPITAL LETTER SIMAbSMALL LETTER SIMA",
  "2CA6aCOPTIC CAPITAL LETTER TAUbSMALL LETTER TAUbCAPITAL LETTER UAbSMALL LETTER UA",
  "2CAAaCOPTIC CAPITAL LETTER FIbSMALL LETTER FIbCAPITAL LETTER KHIbSMALL LETTER KHI",
  "2CAEaCOPTIC CAPITAL LETTER PSIbSMALL LETTER PSIbCAPITAL LETTER OOUbSMALL LETTER OOU",
  "2CB2aCOPTIC CAPITAL LETTER DIALECT-P ALEFbSMALL LETTER DIALECT-P ALEF",
  "2CB4aCOPTIC CAPITAL LETTER OLD COPTIC AINbSMALL LETTER OLD COPTIC AIN",
  "2CB6aCOPTIC CAPITAL LETTER CRYPTOGRAMMIC EIEbSMALL LETTER CRYPTOGRAMMIC EIE",
  "2CB8aCOPTIC CAPITAL LETTER DIALECT-P KAPAbSMALL LETTER DIALECT-P KAPA",
  "2CBAaCOPTIC CAPITAL LETTER DIALECT-P NIbSMALL LETTER DIALECT-P NI",
  "2CBCaCOPTIC CAPITAL LETTER CRYPTOGRAMMIC NIbSMALL LETTER CRYPTOGRAMMIC NI",
  "2CBEaCOPTIC CAPITAL LETTER OLD COPTIC OOUbSMALL LETTER OLD COPTIC OOUbCAPITAL LETTER SAMPI",
  "2CC1aCOPTIC SMALL LETTER SAMPIbCAPITAL LETTER CROSSED SHEIbSMALL LETTER CROSSED SHEI",
  "2CC4aCOPTIC CAPITAL LETTER OLD COPTIC SHEIbSMALL LETTER OLD COPTIC SHEI",
  "2CC6aCOPTIC CAPITAL LETTER OLD COPTIC ESHbSMALL LETTER OLD COPTIC ESH",
  "2CC8aCOPTIC CAPITAL LETTER AKHMIMIC KHEIbSMALL LETTER AKHMIMIC KHEI",
  "2CCAaCOPTIC CAPITAL LETTER DIALECT-P HORIbSMALL LETTER DIALECT-P HORI",
  "2CCCaCOPTIC CAPITAL LETTER OLD COPTIC HORIbSMALL LETTER OLD COPTIC HORI",
  "2CCEaCOPTIC CAPITAL LETTER OLD COPTIC HAbSMALL LETTER OLD COPTIC HAbCAPITAL LETTER L-SHAPED HA",
  "2CD1aCOPTIC SMALL LETTER L-SHAPED HAbCAPITAL LETTER OLD COPTIC HEIbSMALL LETTER OLD COPTIC HEI",
  "2CD4aCOPTIC CAPITAL LETTER OLD COPTIC HATbSMALL LETTER OLD COPTIC HAT",
  "2CD6aCOPTIC CAPITAL LETTER OLD COPTIC GANGIAbSMALL LETTER OLD COPTIC GANGIA",
  "2CD8aCOPTIC CAPITAL LETTER OLD COPTIC DJAbSMALL LETTER OLD COPTIC DJA",
  "2CDAaCOPTIC CAPITAL LETTER OLD COPTIC SHIMAbSMALL LETTER OLD COPTIC SHIMA",
  "2CDCaCOPTIC CAPITAL LETTER OLD NUBIAN SHIMAbSMALL LETTER OLD NUBIAN SHIMA",
  "2CDEaCOPTIC CAPITAL LETTER OLD NUBIAN NGIbSMALL LETTER OLD NUBIAN NGI",
  "2CE0aCOPTIC CAPITAL LETTER OLD NUBIAN NYIbSMALL LETTER OLD NUBIAN NYI",
  "2CE2aCOPTIC CAPITAL LETTER OLD NUBIAN WAUbSMALL LETTER OLD NUBIAN WAUbSYMBOL KAIcMI ROcPI RO",
  "2CE7aCOPTIC SYMBOL STAUROScTAU ROcKHI ROcSHIMA SIMAbCAPITAL LETTER CRYPTOGRAMMIC SHEI",
  "2CECaCOPTIC SMALL LETTER CRYPTOGRAMMIC SHEIbCAPITAL LETTER CRYPTOGRAMMIC GANGIA",
  "2CEEaCOPTIC SMALL LETTER CRYPTOGRAMMIC GANGIAbCOMBINING NI ABOVEcSPIRITUS ASPERdLENIS",
  "2CF2aCOPTIC CAPITAL LETTER BOHAIRIC KHEIbSMALL LETTER BOHAIRIC KHEI",
  "2CF9aCOPTIC OLD NUBIAN FULL STOPdDIRECT QUESTION MARKdINDIRECT QUESTION MARKdVERSE DIVIDER",
  "2CFDaCOPTIC FRACTION ONE HALFbFULL STOPbMORPHOLOGICAL DIVIDERaGEORGIAN SMALL LETTER ANdBANdGAN",
  "2D03aGEORGIAN SMALL LETTER DONdENdVINdZENdTANdINdKANdLASdMANdNARdONdPARdZHARdRAEdSANdTARdUNdPHAR",
  "2D15aGEORGIAN SMALL LETTER KHARdGHANdQARdSHINdCHINdCANdJILdCILdCHARdXANdJHANdHAEdHEdHIEdWEdHAR",
  "2D25aGEORGIAN SMALL LETTER HOE",
  "2D27aGEORGIAN SMALL LETTER YN",
  "2D2DaGEORGIAN SMALL LETTER AEN",
  "2D30aTIFINAGH LETTER YAcYABcYABHcYAGcYAGHHcBERBER ACADEMY YAJcYAJcYADcYADHcYADDcYADDHcYEYcYAF",
  "2D3DaTIFINAGH LETTER YAKcTUAREG YAKcYAKHHcYAHcBERBER ACADEMY YAHcTUAREG YAHcYAHHcYAAcYAKH",
  "2D46aTIFINAGH LETTER TUAREG YAKHcYAQcTUAREG YAQcYIcYAZHcAHAGGAR YAZHcTUAREG YAZHcYALcYAMcYAN",
  "2D50aTIFINAGH LETTER TUAREG YAGNdYANGcYAPcYUcYARcYARRcYAGHcTUAREG YAGHcAYER YAGHcYAScYASScYASH",
  "2D5CaTIFINAGH LETTER YATcYATHcYACHcYATTcYAVcYAWcYAYcYAZcTAWELLEMET YAZcYAZZcYEcYO",
  "2D6FaTIFINAGH MODIFIER LETTER LABIALIZATION MARKbSEPARATOR MARK",
  "2D7FaTIFINAGH CONSONANT JOINERaETHIOPIC SYLLABLE LOAcMOAcROAcSOAcSHOAcBOAcTOAcCOAcNOAcNYOA",
  "2D8AaETHIOPIC SYLLABLE GLOTTAL OAcZOAcDOAcDDOAcJOAcTHOAcCHOAcPHOAcPOAcGGWAcGGWIcGGWEEcGGWE",
  "2DA0aETHIOPIC SYLLABLE SSAcSSUcSSIcSSAAcSSEEcSSEcSSO",
  "2DA8aETHIOPIC SYLLABLE CCAcCCUcCCIcCCAAcCCEEcCCEcCCO",
  "2DB0aETHIOPIC SYLLABLE ZZAcZZUcZZIcZZAAcZZEEcZZEcZZO",
  "2DB8aETHIOPIC SYLLABLE CCHAcCCHUcCCHIcCCHAAcCCHEEcCCHEcCCHO",
  "2DC0aETHIOPIC SYLLABLE QYAcQYUcQYIcQYAAcQYEEcQYEcQYO",
  "2DC8aETHIOPIC SYLLABLE KYAcKYUcKYIcKYAAcKYEEcKYEcKYO",
  "2DD0aETHIOPIC SYLLABLE XYAcXYUcXYIcXYAAcXYEEcXYEcXYO",
  "2DD8aETHIOPIC SYLLABLE GYAcGYUcGYIcGYAAcGYEEcGYEcGYO",
  "2DE0aCOMBINING CYRILLIC LETTER BEdVEdGHEdDEdZHEdZEdKAdELdEMdENdOdPEdERdESdTEdHAdTSEdCHEdSHA",
  "2DF3aCOMBINING CYRILLIC LETTER SHCHAdFITAdES-TEdAdIEdDJERVdMONOGRAPH UKdYATdYUdIOTIFIED A",
  "2DFDaCOMBINING CYRILLIC LETTER LITTLE YUSdBIG YUSdIOTIFIED BIG YUS",
  "2E00aRIGHT ANGLE SUBSTITUTION MARKERcDOTTED SUBSTITUTION MARKERaLEFT SUBSTITUTION BRACKET",
  "2E03aRIGHT SUBSTITUTION BRACKETaLEFT DOTTED SUBSTITUTION BRACKET",
  "2E05aRIGHT DOTTED SUBSTITUTION BRACKETaRAISED INTERPOLATION MARKERbDOTTED INTERPOLATION MARKER",
  "2E08aDOTTED TRANSPOSITION MARKERaLEFT TRANSPOSITION BRACKETaRIGHT TRANSPOSITION BRACKET",
  "2E0BaRAISED SQUAREaLEFT RAISED OMISSION BRACKETaRIGHT RAISED OMISSION BRACKETaEDITORIAL CORONIS",
  "2E0FaPARAGRAPHOSaFORKED PARAGRAPHOSaREVERSED FORKED PARAGRAPHOSaHYPODIASTOLEaDOTTED OBELOS",
  "2E14aDOWNWARDS ANCORAaUPWARDS ANCORAaDOTTED RIGHT-POINTING ANGLEaDOUBLE OBLIQUE HYPHEN",
  "2E18aINVERTED INTERROBANGaPALM BRANCHaHYPHEN WITH DIAERESISaTILDE WITH RING ABOVE",
  "2E1CaLEFT LOW PARAPHRASE BRACKETaRIGHT LOW PARAPHRASE BRACKETaTILDE WITH DOT ABOVEdBELOW",
  "2E20aLEFT VERTICAL BAR WITH QUILLaRIGHT VERTICAL BAR WITH QUILLaTOP LEFT HALF BRACKET",
  "2E23aTOP RIGHT HALF BRACKETaBOTTOM LEFT HALF BRACKETbRIGHT HALF BRACKETaLEFT SIDEWAYS U BRACKET",
  "2E27aRIGHT SIDEWAYS U BRACKETaLEFT DOUBLE PARENTHESISaRIGHT DOUBLE PARENTHESIS",
  "2E2AaTWO DOTS OVER ONE DOT PUNCTUATIONaONE DOT OVER TWO DOTS PUNCTUATION",
  "2E2CaSQUARED FOUR DOT PUNCTUATIONaFIVE DOT MARKaREVERSED QUESTION MARKaVERTICAL TILDEaRING POINT",
  "2E31aWORD SEPARATOR MIDDLE DOTaTURNED COMMAaRAISED DOTbCOMMAaTURNED SEMICOLON",
  "2E36aDAGGER WITH LEFT GUARDcRIGHT GUARDaTURNED DAGGERaTOP HALF SECTION SIGNaTWO-EM DASH",
  "2E3BaTHREE-EM DASHaSTENOGRAPHIC FULL STOPaVERTICAL SIX DOTSaWIGGLY VERTICAL LINEaCAPITULUM",
  "2E40aDOUBLE HYPHENaREVERSED COMMAaDOUBLE LOW-REVERSED-9 QUOTATION MARKaDASH WITH LEFT UPTURN",
  "2E44aDOUBLE SUSPENSION MARKaINVERTED LOW KAVYKAdWITH KAVYKA ABOVEaLOW KAVYKAcWITH DOT",
  "2E49aDOUBLE STACKED COMMAaDOTTED SOLIDUSaTRIPLE DAGGERaMEDIEVAL COMMAaPARAGRAPHUS MARK",
  "2E4EaPUNCTUS ELEVATUS MARKaCORNISH VERSE DIVIDERaCROSS PATTY WITH RIGHT CROSSBARdLEFT CROSSBAR",
  "2E52aTIRONIAN SIGN CAPITAL ETaMEDIEVAL EXCLAMATION MARKbQUESTION MARK",
  "2E55aLEFT SQUARE BRACKET WITH STROKEaRIGHT SQUARE BRACKET WITH STROKE",
  "2E57aLEFT SQUARE BRACKET WITH DOUBLE STROKEaRIGHT SQUARE BRACKET WITH DOUBLE STROKE",
  "2E59aTOP HALF LEFT PARENTHESIScRIGHT PARENTHESISaBOTTOM HALF LEFT PARENTHESIScRIGHT PARENTHESIS",
  "2E5DaOBLIQUE HYPHEN",
  "2E80aCJK RADICAL REPEATcCLIFFcSECOND ONEdTWOdTHREEcPERSONcBOXcTABLEcKNIFE ONEdTWOcDIVINATION",
  "2E8BaCJK RADICAL SEALcSMALL ONEdTWOcLAME ONEdTWOdTHREEdFOURcSNAKEcTHREADcSNOUT ONEdTWOcHEART ONE",
  "2E97aCJK RADICAL HEART TWOcHANDcRAP",
  "2E9BaCJK RADICAL CHOKEcSUNcMOONcDEATHcMOTHERcCIVILIANcWATER ONEdTWOcFIREcPAW ONEdTWO",
  "2EA6aCJK RADICAL SIMPLIFIED HALF TREE TRUNKcCOWcDOGcJADEcBOLT OF CLOTHcEYEcSPIRIT ONEdTWOcBAMBOO",
  "2EAFaCJK RADICAL SILKcC-SIMPLIFIED SILKcNET ONEdTWOdTHREEdFOURcMESHcSHEEPcRAMcEWEcOLDcBRUSH ONE",
  "2EBBaCJK RADICAL BRUSH TWOcMEATcMORTARcGRASS ONEdTWOdTHREEcTIGERcCLOTHEScWEST ONEdTWO",
  "2EC5aCJK RADICAL C-SIMPLIFIED SEEcSIMPLIFIED HORNcHORNcC-SIMPLIFIED SPEECHdSHELLcFOOT",
  "2ECBaCJK RADICAL C-SIMPLIFIED CARTcSIMPLIFIED WALKcWALK ONEdTWOcCITYcC-SIMPLIFIED GOLDcLONG ONE",
  "2ED2aCJK RADICAL LONG TWOcC-SIMPLIFIED LONGdGATEcMOUND ONEdTWOcRAINcBLUE",
  "2ED9aCJK RADICAL C-SIMPLIFIED TANNED LEATHERdLEAFdWINDdFLYcEAT ONEdTWOdTHREEcC-SIMPLIFIED EAT",
  "2EE1aCJK RADICAL HEADcC-SIMPLIFIED HORSEcBONEcGHOSTcC-SIMPLIFIED FISHdBIRDdSALTcSIMPLIFIED WHEAT",
  "2EE9aCJK RADICAL SIMPLIFIED YELLOWcC-SIMPLIFIED FROGcJ-SIMPLIFIED EVENcC-SIMPLIFIED EVEN",
  "2EEDaCJK RADICAL J-SIMPLIFIED TOOTHcC-SIMPLIFIED TOOTHcJ-SIMPLIFIED DRAGONcC-SIMPLIFIED DRAGON",
  "2EF1aCJK RADICAL TURTLEcJ-SIMPLIFIED TURTLEcC-SIMPLIFIED TURTLE",
  "2F00aKANGXI RADICAL ONEcLINEcDOTcSLASHcSECONDcHOOKcTWOcLIDcMANcLEGScENTERcEIGHTcDOWN BOXcCOVER",
  "2F0EaKANGXI RADICAL ICEcTABLEcOPEN BOXcKNIFEcPOWERcWRAPcSPOONcRIGHT OPEN BOXcHIDING ENCLOSURE",
  "2F17aKANGXI RADICAL TENcDIVINATIONcSEALcCLIFFcPRIVATEcAGAINcMOUTHcENCLOSUREcEARTHcSCHOLARcGO",
  "2F22aKANGXI RADICAL GO SLOWLYcEVENINGcBIGcWOMANcCHILDcROOFcINCHcSMALLcLAMEcCORPSEcSPROUT",
  "2F2DaKANGXI RADICAL MOUNTAINcRIVERcWORKcONESELFcTURBANcDRYcSHORT THREADcDOTTED CLIFFcLONG STRIDE",
  "2F36aKANGXI RADICAL TWO HANDScSHOOTcBOWcSNOUTcBRISTLEcSTEPcHEARTcHALBERDcDOORcHANDcBRANCHcRAP",
  "2F42aKANGXI RADICAL SCRIPTcDIPPERcAXEcSQUAREcNOTcSUNcSAYcMOONcTREEcLACKcSTOPcDEATHcWEAPONcDO NOT",
  "2F50aKANGXI RADICAL COMPAREcFURcCLANcSTEAMcWATERcFIREcCLAWcFATHERcDOUBLE XcHALF TREE TRUNKcSLICE",
  "2F5BaKANGXI RADICAL FANGcCOWcDOGcPROFOUNDcJADEcMELONcTILEcSWEETcLIFEcUSEcFIELDcBOLT OF CLOTH",
  "2F67aKANGXI RADICAL SICKNESScDOTTED TENTcWHITEcSKINcDISHcEYEcSPEARcARROWcSTONEcSPIRITcTRACK",
  "2F72aKANGXI RADICAL GRAINcCAVEcSTANDcBAMBOOcRICEcSILKcJARcNETcSHEEPcFEATHERcOLDcANDcPLOWcEAR",
  "2F80aKANGXI RADICAL BRUSHcMEATcMINISTERcSELFcARRIVEcMORTARcTONGUEcOPPOSEcBOATcSTOPPINGcCOLOR",
  "2F8BaKANGXI RADICAL GRASScTIGERcINSECTcBLOODcWALK ENCLOSUREcCLOTHEScWESTcSEEcHORNcSPEECHcVALLEY",
  "2F96aKANGXI RADICAL BEANcPIGcBADGERcSHELLcREDcRUNcFOOTcBODYcCARTcBITTERcMORNINGcWALKcCITYcWINE",
  "2FA4aKANGXI RADICAL DISTINGUISHcVILLAGEcGOLDcLONGcGATEcMOUNDcSLAVEcSHORT TAILED BIRDcRAINcBLUE",
  "2FAEaKANGXI RADICAL WRONGcFACEcLEATHERcTANNED LEATHERcLEEKcSOUNDcLEAFcWINDcFLYcEATcHEADcFRAGRANT",
  "2FBAaKANGXI RADICAL HORSEcBONEcTALLcHAIRcFIGHTcSACRIFICIAL WINEcCAULDRONcGHOSTcFISHcBIRDcSALT",
  "2FC5aKANGXI RADICAL DEERcWHEATcHEMPcYELLOWcMILLETcBLACKcEMBROIDERYcFROGcTRIPODcDRUMcRATcNOSE",
  "2FD1aKANGXI RADICAL EVENcTOOTHcDRAGONcTURTLEcFLUTE",
  "2FF0aIDEOGRAPHIC DESCRIPTION CHARACTER LEFT TO RIGHTdABOVE TO BELOWdLEFT TO MIDDLE AND RIGHT",
  "2FF3aIDEOGRAPHIC DESCRIPTION CHARACTER ABOVE TO MIDDLE AND BELOWdFULL SURROUND",
  "2FF5aIDEOGRAPHIC DESCRIPTION CHARACTER SURROUND FROM ABOVEfBELOWfLEFTfUPPER LEFTgRIGHT",
  "2FFAaIDEOGRAPHIC DESCRIPTION CHARACTER SURROUND FROM LOWER LEFTdOVERLAID",
  "3000aIDEOGRAPHIC SPACEbCOMMAbFULL STOPaDITTO MARKaJAPANESE INDUSTRIAL STANDARD SYMBOL",
  "3005aIDEOGRAPHIC ITERATION MARKbCLOSING MARKbNUMBER ZEROaLEFT ANGLE BRACKETaRIGHT ANGLE BRACKET",
  "300AaLEFT DOUBLE ANGLE BRACKETaRIGHT DOUBLE ANGLE BRACKETaLEFT CORNER BRACKET",
  "300DaRIGHT CORNER BRACKETaLEFT WHITE CORNER BRACKETaRIGHT WHITE CORNER BRACKET",
  "3010aLEFT BLACK LENTICULAR BRACKETaRIGHT BLACK LENTICULAR BRACKETaPOSTAL MARKaGETA MARK",
  "3014aLEFT TORTOISE SHELL BRACKETaRIGHT TORTOISE SHELL BRACKETaLEFT WHITE LENTICULAR BRACKET",
  "3017aRIGHT WHITE LENTICULAR BRACKETaLEFT WHITE TORTOISE SHELL BRACKET",
  "3019aRIGHT WHITE TORTOISE SHELL BRACKETaLEFT WHITE SQUARE BRACKETaRIGHT WHITE SQUARE BRACKET",
  "301CaWAVE DASHaREVERSED DOUBLE PRIME QUOTATION MARKaDOUBLE PRIME QUOTATION MARK",
  "301FaLOW DOUBLE PRIME QUOTATION MARKaPOSTAL MARK FACEaHANGZHOU NUMERAL ONEcTWOcTHREEcFOURcFIVE",
  "3026aHANGZHOU NUMERAL SIXcSEVENcEIGHTcNINEaIDEOGRAPHIC LEVEL TONE MARKbRISING TONE MARK",
  "302CaIDEOGRAPHIC DEPARTING TONE MARKbENTERING TONE MARKaHANGUL SINGLE DOT TONE MARK",
  "302FaHANGUL DOUBLE DOT TONE MARKaWAVY DASHaVERTICAL KANA REPEAT MARKdWITH VOICED SOUND MARK",
  "3033aVERTICAL KANA REPEAT MARK UPPER HALFdWITH VOICED SOUND MARK UPPER HALFdMARK LOWER HALF",
  "3036aCIRCLED POSTAL MARKaIDEOGRAPHIC TELEGRAPH LINE FEED SEPARATOR SYMBOLaHANGZHOU NUMERAL TEN",
  "3039aHANGZHOU NUMERAL TWENTYcTHIRTYaVERTICAL IDEOGRAPHIC ITERATION MARKaMASU MARK",
  "303DaPART ALTERNATION MARKaIDEOGRAPHIC VARIATION INDICATORbHALF FILL SPACE",
  "3041aHIRAGANA LETTER SMALL AcAcSMALL IcIcSMALL UcUcSMALL EcEcSMALL OcOcKAcGAcKIcGIcKUcGUcKEcGE",
  "3053aHIRAGANA LETTER KOcGOcSAcZAcSIcZIcSUcZUcSEcZEcSOcZOcTAcDAcTIcDIcSMALL TUcTUcDUcTEcDEcTOcDO",
  "306AaHIRAGANA LETTER NAcNIcNUcNEcNOcHAcBAcPAcHIcBIcPIcHUcBUcPUcHEcBEcPEcHOcBOcPOcMAcMIcMUcMEcMO",
  "3083aHIRAGANA LETTER SMALL YAcYAcSMALL YUcYUcSMALL YOcYOcRAcRIcRUcREcROcSMALL WAcWAcWIcWEcWOcN",
  "3094aHIRAGANA LETTER VUcSMALL KAdKE",
  "3099aCOMBINING KATAKANA-HIRAGANA VOICED SOUND MARKcSEMI-VOICED SOUND MARK",
  "309BaKATAKANA-HIRAGANA VOICED SOUND MARKbSEMI-VOICED SOUND MARKaHIRAGANA ITERATION MARK",
  "309EaHIRAGANA VOICED ITERATION MARKbDIGRAPH YORIaKATAKANA-HIRAGANA DOUBLE HYPHEN",
  "30A1aKATAKANA LETTER SMALL AcAcSMALL IcIcSMALL UcUcSMALL EcEcSMALL OcOcKAcGAcKIcGIcKUcGUcKEcGE",
  "30B3aKATAKANA LETTER KOcGOcSAcZAcSIcZIcSUcZUcSEcZEcSOcZOcTAcDAcTIcDIcSMALL TUcTUcDUcTEcDEcTOcDO",
  "30CAaKATAKANA LETTER NAcNIcNUcNEcNOcHAcBAcPAcHIcBIcPIcHUcBUcPUcHEcBEcPEcHOcBOcPOcMAcMIcMUcMEcMO",
  "30E3aKATAKANA LETTER SMALL YAcYAcSMALL YUcYUcSMALL YOcYOcRAcRIcRUcREcROcSMALL WAcWAcWIcWEcWOcN",
  "30F4aKATAKANA LETTER VUcSMALL KAdKEcVAcVIcVEcVObMIDDLE DOT",
  "30FCaKATAKANA-HIRAGANA PROLONGED SOUND MARKaKATAKANA ITERATION MARKbVOICED ITERATION MARK",
  "30FFaKATAKANA DIGRAPH KOTO",
  "3105aBOPOMOFO LETTER BcPcMcFcDcTcNcLcGcKcHcJcQcXcZHcCHcSHcRcZcCcScAcOcEcEHcAIcEIcAUcOUcANcENcANG",
  "3125aBOPOMOFO LETTER ENGcERcIcUcIUcVcNGcGNcIHcO WITH DOT ABOVEcNN",
  "3131aHANGUL LETTER KIYEOKcSSANGKIYEOKcKIYEOK-SIOScNIEUNcNIEUN-CIEUCcNIEUN-HIEUHcTIKEUT",
  "3138aHANGUL LETTER SSANGTIKEUTcRIEULcRIEUL-KIYEOKcRIEUL-MIEUMcRIEUL-PIEUPcRIEUL-SIOS",
  "313EaHANGUL LETTER RIEUL-THIEUTHcRIEUL-PHIEUPHcRIEUL-HIEUHcMIEUMcPIEUPcSSANGPIEUPcPIEUP-SIOS",
  "3145aHANGUL LETTER SIOScSSANGSIOScIEUNGcCIEUCcSSANGCIEUCcCHIEUCHcKHIEUKHcTHIEUTHcPHIEUPHcHIEUHcA",
  "3150aHANGUL LETTER AEcYAcYAEcEOcEcYEOcYEcOcWAcWAEcOEcYOcUcWEOcWEcWIcYUcEUcYIcIbFILLER",
  "3165aHANGUL LETTER SSANGNIEUNcNIEUN-TIKEUTcNIEUN-SIOScNIEUN-PANSIOScRIEUL-KIYEOK-SIOS",
  "316AaHANGUL LETTER RIEUL-TIKEUTcRIEUL-PIEUP-SIOScRIEUL-PANSIOScRIEUL-YEORINHIEUHcMIEUM-PIEUP",
  "316FaHANGUL LETTER MIEUM-SIOScMIEUM-PANSIOScKAPYEOUNMIEUMcPIEUP-KIYEOKcPIEUP-TIKEUT",
  "3174aHANGUL LETTER PIEUP-SIOS-KIYEOKcPIEUP-SIOS-TIKEUTcPIEUP-CIEUCcPIEUP-THIEUTHcKAPYEOUNPIEUP",
  "3179aHANGUL LETTER KAPYEOUNSSANGPIEUPcSIOS-KIYEOKcSIOS-NIEUNcSIOS-TIKEUTcSIOS-PIEUPcSIOS-CIEUC",
  "317FaHANGUL LETTER PANSIOScSSANGIEUNGcYESIEUNGcYESIEUNG-SIOScYESIEUNG-PANSIOScKAPYEOUNPHIEUPH",
  "3185aHANGUL LETTER SSANGHIEUHcYEORINHIEUHcYO-YAcYO-YAEcYO-IcYU-YEOcYU-YEcYU-IcARAEAcARAEAE",
  "3190aIDEOGRAPHIC ANNOTATION LINKING MARKcREVERSE MARKcONE MARKcTWO MARKcTHREE MARKcFOUR MARK",
  "3196aIDEOGRAPHIC ANNOTATION TOP MARKcMIDDLE MARKcBOTTOM MARKcFIRST MARKcSECOND MARKcTHIRD MARK",
  "319CaIDEOGRAPHIC ANNOTATION FOURTH MARKcHEAVEN MARKcEARTH MARKcMAN MARKaBOPOMOFO LETTER BUcZIcJI",
  "31A3aBOPOMOFO LETTER GUcEEcENNcOOcONNcIRcANNcINNcUNNcIMcNGGcAINNcAUNNcAMcOMcONGcINNN",
  "31B4aBOPOMOFO FINAL LETTER PdTdKdHbLETTER GHcLHcZYbFINAL LETTER GbLETTER GWcKWcOEcAH",
  "31C0aCJK STROKE TcWGcXGcBXGcSWcHZZcHZGcHPcHZWGcSZWGcHZTcHZZPcHPWGcHZWcHZZZcNcHcScPcSPcDcHZcHGcSZ",
  "31D8aCJK STROKE SWZcSTcSGcPDcPZcTNcSZZcSWGcHXWGcHZZZGcPGcQ",
  "31F0aKATAKANA LETTER SMALL KUdSIdSUdTOdNUdHAdHIdHUdHEdHOdMUdRAdRIdRUdREdRO",
  "3200aPARENTHESIZED HANGUL KIYEOKcNIEUNcTIKEUTcRIEULcMIEUMcPIEUPcSIOScIEUNGcCIEUCcCHIEUCHcKHIEUKH",
  "320BaPARENTHESIZED HANGUL THIEUTHcPHIEUPHcHIEUHcKIYEOK AcNIEUN AcTIKEUT AcRIEUL AcMIEUM A",
  "3213aPARENTHESIZED HANGUL PIEUP AcSIOS AcIEUNG AcCIEUC AcCHIEUCH AcKHIEUKH AcTHIEUTH AcPHIEUPH A",
  "321BaPARENTHESIZED HANGUL HIEUH AcCIEUC UbKOREAN CHARACTER OJEONdO HU",
  "3220aPARENTHESIZED IDEOGRAPH ONEcTWOcTHREEcFOURcFIVEcSIXcSEVENcEIGHTcNINEcTENcMOONcFIREcWATER",
  "322DaPARENTHESIZED IDEOGRAPH WOODcMETALcEARTHcSUNcSTOCKcHAVEcSOCIETYcNAMEcSPECIALcFINANCIAL",
  "3237aPARENTHESIZED IDEOGRAPH CONGRATULATIONcLABORcREPRESENTcCALLcSTUDYcSUPERVISEcENTERPRISE",
  "323EaPARENTHESIZED IDEOGRAPH RESOURCEcALLIANCEcFESTIVALcRESTcSELFcREACH",
  "3244aCIRCLED IDEOGRAPH QUESTIONcKINDERGARTENcSCHOOLcKOTObNUMBER TEN ON BLACK SQUARE",
  "3249aCIRCLED NUMBER TWENTY ON BLACK SQUAREcTHIRTY ON BLACK SQUAREcFORTY ON BLACK SQUARE",
  "324CaCIRCLED NUMBER FIFTY ON BLACK SQUAREcSIXTY ON BLACK SQUAREcSEVENTY ON BLACK SQUARE",
  "324FaCIRCLED NUMBER EIGHTY ON BLACK SQUAREaPARTNERSHIP SIGNaCIRCLED NUMBER TWENTY ONEdTWOdTHREE",
  "3254aCIRCLED NUMBER TWENTY FOURdFIVEdSIXdSEVENdEIGHTdNINEcTHIRTYdONEdTWOdTHREEdFOURdFIVE",
  "3260aCIRCLED HANGUL KIYEOKcNIEUNcTIKEUTcRIEULcMIEUMcPIEUPcSIOScIEUNGcCIEUCcCHIEUCHcKHIEUKH",
  "326BaCIRCLED HANGUL THIEUTHcPHIEUPHcHIEUHcKIYEOK AcNIEUN AcTIKEUT AcRIEUL AcMIEUM AcPIEUP A",
  "3274aCIRCLED HANGUL SIOS AcIEUNG AcCIEUC AcCHIEUCH AcKHIEUKH AcTHIEUTH AcPHIEUPH AcHIEUH A",
  "327CaCIRCLED KOREAN CHARACTER CHAMKOdJUEUIbHANGUL IEUNG UaKOREAN STANDARD SYMBOL",
  "3280aCIRCLED IDEOGRAPH ONEcTWOcTHREEcFOURcFIVEcSIXcSEVENcEIGHTcNINEcTENcMOONcFIREcWATERcWOOD",
  "328EaCIRCLED IDEOGRAPH METALcEARTHcSUNcSTOCKcHAVEcSOCIETYcNAMEcSPECIALcFINANCIALcCONGRATULATION",
  "3298aCIRCLED IDEOGRAPH LABORcSECRETcMALEcFEMALEcSUITABLEcEXCELLENTcPRINTcATTENTIONcITEMcREST",
  "32A2aCIRCLED IDEOGRAPH COPYcCORRECTcHIGHcCENTREcLOWcLEFTcRIGHTcMEDICINEcRELIGIONcSTUDYcSUPERVISE",
  "32ADaCIRCLED IDEOGRAPH ENTERPRISEcRESOURCEcALLIANCEcNIGHTbNUMBER THIRTY SIXdSEVENdEIGHTdNINE",
  "32B5aCIRCLED NUMBER FORTYdONEdTWOdTHREEdFOURdFIVEdSIXdSEVENdEIGHTdNINEcFIFTY",
  "32C0aIDEOGRAPHIC TELEGRAPH SYMBOL FOR JANUARYeFEBRUARYeMARCHeAPRILeMAYeJUNEeJULYeAUGUST",
  "32C8aIDEOGRAPHIC TELEGRAPH SYMBOL FOR SEPTEMBEReOCTOBEReNOVEMBEReDECEMBERaSQUARE HGbERGbEV",
  "32CFaLIMITED LIABILITY SIGNaCIRCLED KATAKANA AcIcUcEcOcKAcKIcKUcKEcKOcSAcSIcSUcSEcSOcTAcTIcTUcTE",
  "32E3aCIRCLED KATAKANA TOcNAcNIcNUcNEcNOcHAcHIcHUcHEcHOcMAcMIcMUcMEcMOcYAcYUcYOcRAcRIcRUcREcROcWA",
  "32FCaCIRCLED KATAKANA WIcWEcWOaSQUARE ERA NAME REIWAbAPAATObARUHUAbANPEAbAARUbININGUbINTIbUON",
  "3307aSQUARE ESUKUUDObEEKAAbONSUbOOMUbKAIRIbKARATTObKARORIIbGARONbGANMAbGIGAbGINIIbKYURIIbGIRUDAA",
  "3314aSQUARE KIRObKIROGURAMUbKIROMEETORUbKIROWATTObGURAMUbGURAMUTONbKURUZEIRObKUROONEbKEESU",
  "331DaSQUARE KORUNAbKOOPObSAIKURUbSANTIIMUbSIRINGUbSENTIbSENTObDAASUbDESIbDORUbTONbNANObNOTTO",
  "332AaSQUARE HAITUbPAASENTObPAATUbBAARERUbPIASUTORUbPIKURUbPIKObBIRUbHUARADDObHUIITObBUSSYERU",
  "3335aSQUARE HURANbHEKUTAARUbPESObPENIHIbHERUTUbPENSUbPEEZIbBEETAbPOINTObBORUTObHONbPONDObHOORU",
  "3342aSQUARE HOONbMAIKURObMAIRUbMAHHAbMARUKUbMANSYONbMIKURONbMIRIbMIRIBAARUbMEGAbMEGATONbMEETORU",
  "334EaSQUARE YAADObYAARUbYUANbRITTORUbRIRAbRUPIIbRUUBURUbREMUbRENTOGENbWATTO",
  "3358aIDEOGRAPHIC TELEGRAPH SYMBOL FOR HOUR ZEROfONEfTWOfTHREEfFOURfFIVEfSIXfSEVENfEIGHTfNINEfTEN",
  "3363aIDEOGRAPHIC TELEGRAPH SYMBOL FOR HOUR ELEVENfTWELVEfTHIRTEENfFOURTEENfFIFTEENfSIXTEEN",
  "3369aIDEOGRAPHIC TELEGRAPH SYMBOL FOR HOUR SEVENTEENfEIGHTEENfNINETEENfTWENTYfTWENTY-ONE",
  "336EaIDEOGRAPHIC TELEGRAPH SYMBOL FOR HOUR TWENTY-TWOfTWENTY-THREEfTWENTY-FOURaSQUARE HPAbDAbAU",
  "3374aSQUARE BARbOVbPCbDMcSQUAREDcCUBEDbIUbERA NAME HEISEIdSYOUWAdTAISYOUdMEIZIbCORPORATION",
  "3380aSQUARE PA AMPSbNAbMU AbMAbKAbKBbMBbGBbCALbKCALbPFbNFbMU FcGbMGbKGbHZbKHZbMHZbGHZbTHZbMU L",
  "3396aSQUARE MLbDLbKLbFMbNMbMU MbMMbCMbKMbMM SQUAREDbCM SQUAREDbM SQUAREDbKM SQUAREDbMM CUBED",
  "33A4aSQUARE CM CUBEDbM CUBEDbKM CUBEDbM OVER SeSQUAREDbPAbKPAbMPAbGPAbRADcOVER SeSQUAREDbPSbNS",
  "33B2aSQUARE MU SbMSbPVbNVbMU VbMVbKVbMV MEGAbPWbNWbMU WbMWbKWbMW MEGAbK OHMbM OHMbAMbBQbCCbCD",
  "33C6aSQUARE C OVER KGbCObDBbGYbHAbHPbINbKKbKM CAPITALbKTbLMbLNbLOGbLXbMB SMALLbMILbMOLbPHbPMbPPM",
  "33DAaSQUARE PRbSRbSVbWBbV OVER MbA OVER MaIDEOGRAPHIC TELEGRAPH SYMBOL FOR DAY ONEfTWOfTHREE",
  "33E3aIDEOGRAPHIC TELEGRAPH SYMBOL FOR DAY FOURfFIVEfSIXfSEVENfEIGHTfNINEfTENfELEVENfTWELVE",
  "33ECaIDEOGRAPHIC TELEGRAPH SYMBOL FOR DAY THIRTEENfFOURTEENfFIFTEENfSIXTEENfSEVENTEENfEIGHTEEN",
  "33F2aIDEOGRAPHIC TELEGRAPH SYMBOL FOR DAY NINETEENfTWENTYfTWENTY-ONEfTWENTY-TWOfTWENTY-THREE",
  "33F7aIDEOGRAPHIC TELEGRAPH SYMBOL FOR DAY TWENTY-FOURfTWENTY-FIVEfTWENTY-SIXfTWENTY-SEVEN",
  "33FBaIDEOGRAPHIC TELEGRAPH SYMBOL FOR DAY TWENTY-EIGHTfTWENTY-NINEfTHIRTYfTHIRTY-ONEaSQUARE GAL",
  "4DC0aHEXAGRAM FOR THE CREATIVE HEAVENdRECEPTIVE EARTHcDIFFICULTY AT THE BEGINNINGcYOUTHFUL FOLLY",
  "4DC4aHEXAGRAM FOR WAITINGcCONFLICTcTHE ARMYcHOLDING TOGETHERcSMALL TAMINGcTREADINGcPEACE",
  "4DCBaHEXAGRAM FOR STANDSTILLcFELLOWSHIPcGREAT POSSESSIONcMODESTYcENTHUSIASMcFOLLOWING",
  "4DD1aHEXAGRAM FOR WORK ON THE DECAYEDcAPPROACHcCONTEMPLATIONcBITING THROUGHcGRACE",
  "4DD6aHEXAGRAM FOR SPLITTING APARTcRETURNcINNOCENCEcGREAT TAMINGcMOUTH CORNERS",
  "4DDBaHEXAGRAM FOR GREAT PREPONDERANCEcTHE ABYSMAL WATERdCLINGING FIREcINFLUENCEcDURATIONcRETREAT",
  "4DE1aHEXAGRAM FOR GREAT POWERcPROGRESScDARKENING OF THE LIGHTcTHE FAMILYcOPPOSITIONcOBSTRUCTION",
  "4DE7aHEXAGRAM FOR DELIVERANCEcDECREASEcINCREASEcBREAKTHROUGHcCOMING TO MEETcGATHERING TOGETHER",
  "4DEDaHEXAGRAM FOR PUSHING UPWARDcOPPRESSIONcTHE WELLcREVOLUTIONcTHE CAULDRONdAROUSING THUNDER",
  "4DF3aHEXAGRAM FOR THE KEEPING STILL MOUNTAINcDEVELOPMENTcTHE MARRYING MAIDENcABUNDANCE",
  "4DF7aHEXAGRAM FOR THE WANDERERdGENTLE WINDdJOYOUS LAKEcDISPERSIONcLIMITATIONcINNER TRUTH",
  "4DFDaHEXAGRAM FOR SMALL PREPONDERANCEcAFTER COMPLETIONcBEFORE COMPLETION",
  "A000aYI SYLLABLE ITcIXcIcIPcIETcIEXcIEcIEPcATcAXcAcAPcUOXcUOcUOPcOTcOXcOcOPcEXcEcWUcBITcBIXcBI",
  "A019aYI SYLLABLE BIPcBIETcBIEXcBIEcBIEPcBATcBAXcBAcBAPcBUOXcBUOcBUOPcBOTcBOXcBOcBOPcBEXcBEcBEP",
  "A02CaYI SYLLABLE BUTcBUXcBUcBUPcBURXcBURcBYTcBYXcBYcBYPcBYRXcBYRcPITcPIXcPIcPIPcPIEXcPIEcPIEP",
  "A03FaYI SYLLABLE PATcPAXcPAcPAPcPUOXcPUOcPUOPcPOTcPOXcPOcPOPcPUTcPUXcPUcPUPcPURXcPURcPYTcPYXcPY",
  "A053aYI SYLLABLE PYPcPYRXcPYRcBBITcBBIXcBBIcBBIPcBBIETcBBIEXcBBIEcBBIEPcBBATcBBAXcBBAcBBAPcBBUOX",
  "A063aYI SYLLABLE BBUOcBBUOPcBBOTcBBOXcBBOcBBOPcBBEXcBBEcBBEPcBBUTcBBUXcBBUcBBUPcBBURXcBBURcBBYT",
  "A073aYI SYLLABLE BBYXcBBYcBBYPcNBITcNBIXcNBIcNBIPcNBIEXcNBIEcNBIEPcNBATcNBAXcNBAcNBAPcNBOTcNBOX",
  "A083aYI SYLLABLE NBOcNBOPcNBUTcNBUXcNBUcNBUPcNBURXcNBURcNBYTcNBYXcNBYcNBYPcNBYRXcNBYRcHMITcHMIX",
  "A093aYI SYLLABLE HMIcHMIPcHMIEXcHMIEcHMIEPcHMATcHMAXcHMAcHMAPcHMUOXcHMUOcHMUOPcHMOTcHMOXcHMO",
  "A0A2aYI SYLLABLE HMOPcHMUTcHMUXcHMUcHMUPcHMURXcHMURcHMYXcHMYcHMYPcHMYRXcHMYRcMITcMIXcMIcMIPcMIEX",
  "A0B3aYI SYLLABLE MIEcMIEPcMATcMAXcMAcMAPcMUOTcMUOXcMUOcMUOPcMOTcMOXcMOcMOPcMEXcMEcMUTcMUXcMUcMUP",
  "A0C7aYI SYLLABLE MURXcMURcMYTcMYXcMYcMYPcFITcFIXcFIcFIPcFATcFAXcFAcFAPcFOXcFOcFOPcFUTcFUXcFUcFUP",
  "A0DCaYI SYLLABLE FURXcFURcFYTcFYXcFYcFYPcVITcVIXcVIcVIPcVIETcVIEXcVIEcVIEPcVATcVAXcVAcVAPcVOT",
  "A0EFaYI SYLLABLE VOXcVOcVOPcVEXcVEPcVUTcVUXcVUcVUPcVURXcVURcVYTcVYXcVYcVYPcVYRXcVYRcDITcDIXcDI",
  "A103aYI SYLLABLE DIPcDIEXcDIEcDIEPcDATcDAXcDAcDAPcDUOXcDUOcDOTcDOXcDOcDOPcDEXcDEcDEPcDUTcDUXcDU",
  "A117aYI SYLLABLE DUPcDURXcDURcTITcTIXcTIcTIPcTIEXcTIEcTIEPcTATcTAXcTAcTAPcTUOTcTUOXcTUOcTUOPcTOT",
  "A12AaYI SYLLABLE TOXcTOcTOPcTEXcTEcTEPcTUTcTUXcTUcTUPcTURXcTURcDDITcDDIXcDDIcDDIPcDDIEXcDDIE",
  "A13CaYI SYLLABLE DDIEPcDDATcDDAXcDDAcDDAPcDDUOXcDDUOcDDUOPcDDOTcDDOXcDDOcDDOPcDDEXcDDEcDDEPcDDUT",
  "A14CaYI SYLLABLE DDUXcDDUcDDUPcDDURXcDDURcNDITcNDIXcNDIcNDIPcNDIEXcNDIEcNDATcNDAXcNDAcNDAPcNDOT",
  "A15CaYI SYLLABLE NDOXcNDOcNDOPcNDEXcNDEcNDEPcNDUTcNDUXcNDUcNDUPcNDURXcNDURcHNITcHNIXcHNIcHNIP",
  "A16CaYI SYLLABLE HNIETcHNIEXcHNIEcHNIEPcHNATcHNAXcHNAcHNAPcHNUOXcHNUOcHNOTcHNOXcHNOPcHNEXcHNE",
  "A17BaYI SYLLABLE HNEPcHNUTcNITcNIXcNIcNIPcNIEXcNIEcNIEPcNAXcNAcNAPcNUOXcNUOcNUOPcNOTcNOXcNOcNOP",
  "A18EaYI SYLLABLE NEXcNEcNEPcNUTcNUXcNUcNUPcNURXcNURcHLITcHLIXcHLIcHLIPcHLIEXcHLIEcHLIEPcHLAT",
  "A19FaYI SYLLABLE HLAXcHLAcHLAPcHLUOXcHLUOcHLUOPcHLOXcHLOcHLOPcHLEXcHLEcHLEPcHLUTcHLUXcHLUcHLUP",
  "A1AFaYI SYLLABLE HLURXcHLURcHLYTcHLYXcHLYcHLYPcHLYRXcHLYRcLITcLIXcLIcLIPcLIETcLIEXcLIEcLIEPcLAT"]

/-- More rows of names. -/
def nameRowsG : List String := [
  "A1C0aYI SYLLABLE LAXcLAcLAPcLUOTcLUOXcLUOcLUOPcLOTcLOXcLOcLOPcLEXcLEcLEPcLUTcLUXcLUcLUPcLURXcLUR",
  "A1D4aYI SYLLABLE LYTcLYXcLYcLYPcLYRXcLYRcGITcGIXcGIcGIPcGIETcGIEXcGIEcGIEPcGATcGAXcGAcGAPcGUOT",
  "A1E7aYI SYLLABLE GUOXcGUOcGUOPcGOTcGOXcGOcGOPcGETcGEXcGEcGEPcGUTcGUXcGUcGUPcGURXcGURcKITcKIXcKI",
  "A1FBaYI SYLLABLE KIPcKIEXcKIEcKIEPcKATcKAXcKAcKAPcKUOXcKUOcKUOPcKOTcKOXcKOcKOPcKETcKEXcKEcKEP",
  "A20EaYI SYLLABLE KUTcKUXcKUcKUPcKURXcKURcGGITcGGIXcGGIcGGIEXcGGIEcGGIEPcGGATcGGAXcGGAcGGAPcGGUOT",
  "A21FaYI SYLLABLE GGUOXcGGUOcGGUOPcGGOTcGGOXcGGOcGGOPcGGETcGGEXcGGEcGGEPcGGUTcGGUXcGGUcGGUPcGGURX",
  "A22FaYI SYLLABLE GGURcMGIEXcMGIEcMGATcMGAXcMGAcMGAPcMGUOXcMGUOcMGUOPcMGOTcMGOXcMGOcMGOPcMGEXcMGE",
  "A23FaYI SYLLABLE MGEPcMGUTcMGUXcMGUcMGUPcMGURXcMGURcHXITcHXIXcHXIcHXIPcHXIETcHXIEXcHXIEcHXIEP",
  "A24EaYI SYLLABLE HXATcHXAXcHXAcHXAPcHXUOTcHXUOXcHXUOcHXUOPcHXOTcHXOXcHXOcHXOPcHXEXcHXEcHXEP",
  "A25DaYI SYLLABLE NGIEXcNGIEcNGIEPcNGATcNGAXcNGAcNGAPcNGUOTcNGUOXcNGUOcNGOTcNGOXcNGOcNGOPcNGEX",
  "A26CaYI SYLLABLE NGEcNGEPcHITcHIEXcHIEcHATcHAXcHAcHAPcHUOTcHUOXcHUOcHUOPcHOTcHOXcHOcHOPcHEXcHE",
  "A27FaYI SYLLABLE HEPcWATcWAXcWAcWAPcWUOXcWUOcWUOPcWOXcWOcWOPcWEXcWEcWEPcZITcZIXcZIcZIPcZIEXcZIE",
  "A293aYI SYLLABLE ZIEPcZATcZAXcZAcZAPcZUOXcZUOcZUOPcZOTcZOXcZOcZOPcZEXcZEcZEPcZUTcZUXcZUcZUPcZURX",
  "A2A7aYI SYLLABLE ZURcZYTcZYXcZYcZYPcZYRXcZYRcCITcCIXcCIcCIPcCIETcCIEXcCIEcCIEPcCATcCAXcCAcCAP",
  "A2BAaYI SYLLABLE CUOXcCUOcCUOPcCOTcCOXcCOcCOPcCEXcCEcCEPcCUTcCUXcCUcCUPcCURXcCURcCYTcCYXcCYcCYP",
  "A2CEaYI SYLLABLE CYRXcCYRcZZITcZZIXcZZIcZZIPcZZIETcZZIEXcZZIEcZZIEPcZZATcZZAXcZZAcZZAPcZZOXcZZO",
  "A2DEaYI SYLLABLE ZZOPcZZEXcZZEcZZEPcZZUXcZZUcZZUPcZZURXcZZURcZZYTcZZYXcZZYcZZYPcZZYRXcZZYRcNZIT",
  "A2EEaYI SYLLABLE NZIXcNZIcNZIPcNZIEXcNZIEcNZIEPcNZATcNZAXcNZAcNZAPcNZUOXcNZUOcNZOXcNZOPcNZEXcNZE",
  "A2FEaYI SYLLABLE NZUXcNZUcNZUPcNZURXcNZURcNZYTcNZYXcNZYcNZYPcNZYRXcNZYRcSITcSIXcSIcSIPcSIEXcSIE",
  "A30FaYI SYLLABLE SIEPcSATcSAXcSAcSAPcSUOXcSUOcSUOPcSOTcSOXcSOcSOPcSEXcSEcSEPcSUTcSUXcSUcSUPcSURX",
  "A323aYI SYLLABLE SURcSYTcSYXcSYcSYPcSYRXcSYRcSSITcSSIXcSSIcSSIPcSSIEXcSSIEcSSIEPcSSATcSSAXcSSA",
  "A334aYI SYLLABLE SSAPcSSOTcSSOXcSSOcSSOPcSSEXcSSEcSSEPcSSUTcSSUXcSSUcSSUPcSSYTcSSYXcSSYcSSYP",
  "A344aYI SYLLABLE SSYRXcSSYRcZHATcZHAXcZHAcZHAPcZHUOXcZHUOcZHUOPcZHOTcZHOXcZHOcZHOPcZHETcZHEXcZHE",
  "A354aYI SYLLABLE ZHEPcZHUTcZHUXcZHUcZHUPcZHURXcZHURcZHYTcZHYXcZHYcZHYPcZHYRXcZHYRcCHATcCHAXcCHA",
  "A364aYI SYLLABLE CHAPcCHUOTcCHUOXcCHUOcCHUOPcCHOTcCHOXcCHOcCHOPcCHETcCHEXcCHEcCHEPcCHUXcCHUcCHUP",
  "A374aYI SYLLABLE CHURXcCHURcCHYTcCHYXcCHYcCHYPcCHYRXcCHYRcRRAXcRRAcRRUOXcRRUOcRROTcRROXcRROcRROP",
  "A384aYI SYLLABLE RRETcRREXcRREcRREPcRRUTcRRUXcRRUcRRUPcRRURXcRRURcRRYTcRRYXcRRYcRRYPcRRYRXcRRYR",
  "A394aYI SYLLABLE NRATcNRAXcNRAcNRAPcNROXcNROcNROPcNRETcNREXcNREcNREPcNRUTcNRUXcNRUcNRUPcNRURX",
  "A3A4aYI SYLLABLE NRURcNRYTcNRYXcNRYcNRYPcNRYRXcNRYRcSHATcSHAXcSHAcSHAPcSHUOXcSHUOcSHUOPcSHOT",
  "A3B3aYI SYLLABLE SHOXcSHOcSHOPcSHETcSHEXcSHEcSHEPcSHUTcSHUXcSHUcSHUPcSHURXcSHURcSHYTcSHYXcSHY",
  "A3C3aYI SYLLABLE SHYPcSHYRXcSHYRcRATcRAXcRAcRAPcRUOXcRUOcRUOPcROTcROXcROcROPcREXcREcREPcRUTcRUX",
  "A3D6aYI SYLLABLE RUcRUPcRURXcRURcRYTcRYXcRYcRYPcRYRXcRYRcJITcJIXcJIcJIPcJIETcJIEXcJIEcJIEPcJUOT",
  "A3E9aYI SYLLABLE JUOXcJUOcJUOPcJOTcJOXcJOcJOPcJUTcJUXcJUcJUPcJURXcJURcJYTcJYXcJYcJYPcJYRXcJYR",
  "A3FCaYI SYLLABLE QITcQIXcQIcQIPcQIETcQIEXcQIEcQIEPcQUOTcQUOXcQUOcQUOPcQOTcQOXcQOcQOPcQUTcQUXcQU",
  "A40FaYI SYLLABLE QUPcQURXcQURcQYTcQYXcQYcQYPcQYRXcQYRcJJITcJJIXcJJIcJJIPcJJIETcJJIEXcJJIEcJJIEP",
  "A420aYI SYLLABLE JJUOXcJJUOcJJUOPcJJOTcJJOXcJJOcJJOPcJJUTcJJUXcJJUcJJUPcJJURXcJJURcJJYTcJJYXcJJY",
  "A430aYI SYLLABLE JJYPcNJITcNJIXcNJIcNJIPcNJIETcNJIEXcNJIEcNJIEPcNJUOXcNJUOcNJOTcNJOXcNJOcNJOP",
  "A43FaYI SYLLABLE NJUXcNJUcNJUPcNJURXcNJURcNJYTcNJYXcNJYcNJYPcNJYRXcNJYRcNYITcNYIXcNYIcNYIPcNYIET",
  "A44FaYI SYLLABLE NYIEXcNYIEcNYIEPcNYUOXcNYUOcNYUOPcNYOTcNYOXcNYOcNYOPcNYUTcNYUXcNYUcNYUPcXITcXIX",
  "A45FaYI SYLLABLE XIcXIPcXIETcXIEXcXIEcXIEPcXUOXcXUOcXOTcXOXcXOcXOPcXYTcXYXcXYcXYPcXYRXcXYRcYIT",
  "A472aYI SYLLABLE YIXcYIcYIPcYIETcYIEXcYIEcYIEPcYUOTcYUOXcYUOcYUOPcYOTcYOXcYOcYOPcYUTcYUXcYUcYUP",
  "A485aYI SYLLABLE YURXcYURcYYTcYYXcYYcYYPcYYRXcYYR",
  "A490aYI RADICAL QOTcLIcKITcNYIPcCYPcSSIcGGOPcGEPcMIcHXITcLYRcBBUTcMOPcYOcPUTcHXUOcTATcGAcZUPcCYT",
  "A4A4aYI RADICAL DDURcBURcGGUOcNYOPcTUcOPcJJUTcZOTcPYTcHMOcYITcVURcSHYcVEPcZAcJOcNZUPcJJYcGOT",
  "A4B7aYI RADICAL JJIEcWOcDUcSHURcLIEcCYcCUOPcCIPcHXOPcSHATcZURcSHOPcCHEcZZIETcNBIEcKE",
  "A4D0aLISU LETTER BAcPAcPHAcDAcTAcTHAcGAcKAcKHAcJAcCAcCHAcDZAcTSAcTSHAcMAcNAcLAcSAcZHAcZAcNGAcHA",
  "A4E7aLISU LETTER XAcHHAcFAcWAcSHAcYAcGHAcAcAEcEcEUcIcOcUcUEcUHcOEcTONE MYA TIdNA POdMYA CYAeBO",
  "A4FCaLISU LETTER TONE MYA NAeJEUbPUNCTUATION COMMAcFULL STOPaVAI SYLLABLE EEcEENcHEEcWEEcWEEN",
  "A505aVAI SYLLABLE PEEcBHEEcBEEcMBEEcKPEEcMGBEEcGBEEcFEEcVEEcTEEcTHEEcDHEEcDHHEEcLEEcREEcDEEcNDEE",
  "A516aVAI SYLLABLE SEEcSHEEcZEEcZHEEcCEEcJEEcNJEEcYEEcKEEcNGGEEcGEEcMEEcNEEcNYEEcIcINcHIcHINcWI",
  "A529aVAI SYLLABLE WINcPIcBHIcBIcMBIcKPIcMGBIcGBIcFIcVIcTIcTHIcDHIcDHHIcLIcRIcDIcNDIcSIcSHIcZI",
  "A53EaVAI SYLLABLE ZHIcCIcJIcNJIcYIcKIcNGGIcGIcMIcNIcNYIcAcANcNGANcHAcHANcWAcWANcPAcBHAcBAcMBA",
  "A554aVAI SYLLABLE KPAcKPANcMGBAcGBAcFAcVAcTAcTHAcDHAcDHHAcLAcRAcDAcNDAcSAcSHAcZAcZHAcCAcJAcNJA",
  "A569aVAI SYLLABLE YAcKAcKANcNGGAcGAcMAcNAcNYAcOOcOONcHOOcWOOcWOONcPOOcBHOOcBOOcMBOOcKPOOcMGBOO",
  "A57CaVAI SYLLABLE GBOOcFOOcVOOcTOOcTHOOcDHOOcDHHOOcLOOcROOcDOOcNDOOcSOOcSHOOcZOOcZHOOcCOOcJOO",
  "A58DaVAI SYLLABLE NJOOcYOOcKOOcNGGOOcGOOcMOOcNOOcNYOOcUcUNcHUcHUNcWUcWUNcPUcBHUcBUcMBUcKPUcMGBU",
  "A5A1aVAI SYLLABLE GBUcFUcVUcTUcTHUcDHUcDHHUcLUcRUcDUcNDUcSUcSHUcZUcZHUcCUcJUcNJUcYUcKUcNGGUcGU",
  "A5B7aVAI SYLLABLE MUcNUcNYUcOcONcNGONcHOcHONcWOcWONcPOcBHOcBOcMBOcKPOcMGBOcGBOcGBONcFOcVOcTOcTHO",
  "A5CDaVAI SYLLABLE DHOcDHHOcLOcROcDOcNDOcSOcSHOcZOcZHOcCOcJOcNJOcYOcKOcNGGOcGOcMOcNOcNYOcEcEN",
  "A5E3aVAI SYLLABLE NGENcHEcHENcWEcWENcPEcBHEcBEcMBEcKPEcKPENcMGBEcGBEcGBENcFEcVEcTEcTHEcDHEcDHHE",
  "A5F7aVAI SYLLABLE LEcREcDEcNDEcSEcSHEcZEcZHEcCEcJEcNJEcYEcKEcNGGEcNGGENcGEcGENcMEcNEcNYEcNG",
  "A60CaVAI SYLLABLE LENGTHENERbCOMMAbFULL STOPbQUESTION MARKbSYLLABLE NDOLE FAdKAdSOObSYMBOL FEENG",
  "A614aVAI SYMBOL KEENGcTINGcNIIcBANGcFAAcTAAcDANGcDOONGcKUNGcTONGcDO-OcJONGbDIGIT ZEROcONEcTWO",
  "A623aVAI DIGIT THREEcFOURcFIVEcSIXcSEVENcEIGHTcNINEbSYLLABLE NDOLE MAdDO",
  "A640aCYRILLIC CAPITAL LETTER ZEMLYAbSMALL LETTER ZEMLYAbCAPITAL LETTER DZELObSMALL LETTER DZELO",
  "A644aCYRILLIC CAPITAL LETTER REVERSED DZEbSMALL LETTER REVERSED DZEbCAPITAL LETTER IOTA",
  "A647aCYRILLIC SMALL LETTER IOTAbCAPITAL LETTER DJERVbSMALL LETTER DJERV",
  "A64AaCYRILLIC CAPITAL LETTER MONOGRAPH UKbSMALL LETTER MONOGRAPH UKbCAPITAL LETTER BROAD OMEGA",
  "A64DaCYRILLIC SMALL LETTER BROAD OMEGAbCAPITAL LETTER NEUTRAL YERbSMALL LETTER NEUTRAL YER",
  "A650aCYRILLIC CAPITAL LETTER YERU WITH BACK YERbSMALL LETTER YERU WITH BACK YER",
  "A652aCYRILLIC CAPITAL LETTER IOTIFIED YATbSMALL LETTER IOTIFIED YATbCAPITAL LETTER REVERSED YU",
  "A655aCYRILLIC SMALL LETTER REVERSED YUbCAPITAL LETTER IOTIFIED AbSMALL LETTER IOTIFIED A",
  "A658aCYRILLIC CAPITAL LETTER CLOSED LITTLE YUSbSMALL LETTER CLOSED LITTLE YUS",
  "A65AaCYRILLIC CAPITAL LETTER BLENDED YUSbSMALL LETTER BLENDED YUS",
  "A65CaCYRILLIC CAPITAL LETTER IOTIFIED CLOSED LITTLE YUSbSMALL LETTER IOTIFIED CLOSED LITTLE YUS",
  "A65EaCYRILLIC CAPITAL LETTER YNbSMALL LETTER YNbCAPITAL LETTER REVERSED TSE",
  "A661aCYRILLIC SMALL LETTER REVERSED TSEbCAPITAL LETTER SOFT DEbSMALL LETTER SOFT DE",
  "A664aCYRILLIC CAPITAL LETTER SOFT ELbSMALL LETTER SOFT ELbCAPITAL LETTER SOFT EM",
  "A667aCYRILLIC SMALL LETTER SOFT EMbCAPITAL LETTER MONOCULAR ObSMALL LETTER MONOCULAR O",
  "A66AaCYRILLIC CAPITAL LETTER BINOCULAR ObSMALL LETTER BINOCULAR O",
  "A66CaCYRILLIC CAPITAL LETTER DOUBLE MONOCULAR ObSMALL LETTER DOUBLE MONOCULAR O",
  "A66EaCYRILLIC LETTER MULTIOCULAR OaCOMBINING CYRILLIC VZMETcTEN MILLIONS SIGN",
  "A671aCOMBINING CYRILLIC HUNDRED MILLIONS SIGNcTHOUSAND MILLIONS SIGNaSLAVONIC ASTERISK",
  "A674aCOMBINING CYRILLIC LETTER UKRAINIAN IEdIdYIdUdHARD SIGNdYERUdSOFT SIGNdOMEGAcKAVYKAcPAYEROK",
  "A67EaCYRILLIC KAVYKAbPAYEROKbCAPITAL LETTER DWEbSMALL LETTER DWEbCAPITAL LETTER DZWE",
  "A683aCYRILLIC SMALL LETTER DZWEbCAPITAL LETTER ZHWEbSMALL LETTER ZHWEbCAPITAL LETTER CCHE",
  "A687aCYRILLIC SMALL LETTER CCHEbCAPITAL LETTER DZZEbSMALL LETTER DZZE",
  "A68AaCYRILLIC CAPITAL LETTER TE WITH MIDDLE HOOKbSMALL LETTER TE WITH MIDDLE HOOK",
  "A68CaCYRILLIC CAPITAL LETTER TWEbSMALL LETTER TWEbCAPITAL LETTER TSWEbSMALL LETTER TSWE",
  "A690aCYRILLIC CAPITAL LETTER TSSEbSMALL LETTER TSSEbCAPITAL LETTER TCHEbSMALL LETTER TCHE",
  "A694aCYRILLIC CAPITAL LETTER HWEbSMALL LETTER HWEbCAPITAL LETTER SHWEbSMALL LETTER SHWE",
  "A698aCYRILLIC CAPITAL LETTER DOUBLE ObSMALL LETTER DOUBLE ObCAPITAL LETTER CROSSED O",
  "A69BaCYRILLIC SMALL LETTER CROSSED OaMODIFIER LETTER CYRILLIC HARD SIGNdSOFT SIGN",
  "A69EaCOMBINING CYRILLIC LETTER EFdIOTIFIED EaBAMUM LETTER AcKAcUcKUcEEcREEcTAEcOcNYIcIcLAcPAcRII",
  "A6ADaBAMUM LETTER RIEEcLEEEEcMEEEEcTAAcNDAAcNJAEMcMcSUUcMUcSHIIcSIcSHEUXcSEUXcKYEEcKETcNUAEcNU",
  "A6BEaBAMUM LETTER NJUAEcYOQcSHUcYUQcYAcNSHAcKEUXcPEUXcNJEEcNTEEcPUEcWUEcPEEcFEEcRUcLUcMIcNIcREUX",
  "A6D1aBAMUM LETTER RAEcKENcNGKWAENcNGGAcNGAcSHOcPUAEcFUcFOMcWAcNAcLIcPIcLOQcKOcMBENcRENcMENcMAcTI",
  "A6E5aBAMUM LETTER KIcMOcMBAAcTETcKPAcTENcNTUUcSAMBAcFAAMAEcKOVUUcKOGHOMbCOMBINING MARK KOQNDON",
  "A6F1aBAMUM COMBINING MARK TUKWENTISbNJAEMLIbFULL STOPbCOLONbCOMMAbSEMICOLONbQUESTION MARK",
  "A700aMODIFIER LETTER CHINESE TONE YIN PINGeYANG PINGeYIN SHANGeYANG SHANGeYIN QUeYANG QUeYIN RU",
  "A707aMODIFIER LETTER CHINESE TONE YANG RUcEXTRA-HIGH DOTTED TONE BARcHIGH DOTTED TONE BAR",
  "A70AaMODIFIER LETTER MID DOTTED TONE BARcLOW DOTTED TONE BARcEXTRA-LOW DOTTED TONE BAR",
  "A70DaMODIFIER LETTER EXTRA-HIGH DOTTED LEFT-STEM TONE BARcHIGH DOTTED LEFT-STEM TONE BAR",
  "A70FaMODIFIER LETTER MID DOTTED LEFT-STEM TONE BARcLOW DOTTED LEFT-STEM TONE BAR",
  "A711aMODIFIER LETTER EXTRA-LOW DOTTED LEFT-STEM TONE BARcEXTRA-HIGH LEFT-STEM TONE BAR",
  "A713aMODIFIER LETTER HIGH LEFT-STEM TONE BARcMID LEFT-STEM TONE BARcLOW LEFT-STEM TONE BAR",
  "A716aMODIFIER LETTER EXTRA-LOW LEFT-STEM TONE BARcDOT VERTICAL BARdSLASHdHORIZONTAL BAR",
  "A71AaMODIFIER LETTER LOWER RIGHT CORNER ANGLEcRAISED UP ARROWdDOWN ARROWdEXCLAMATION MARK",
  "A71EaMODIFIER LETTER RAISED INVERTED EXCLAMATION MARKcLOW INVERTED EXCLAMATION MARK",
  "A720aMODIFIER LETTER STRESS AND HIGH TONEeLOW TONEaLATIN CAPITAL LETTER EGYPTOLOGICAL ALEF",
  "A723aLATIN SMALL LETTER EGYPTOLOGICAL ALEFbCAPITAL LETTER EGYPTOLOGICAL AIN",
  "A725aLATIN SMALL LETTER EGYPTOLOGICAL AINbCAPITAL LETTER HENGbSMALL LETTER HENG",
  "A728aLATIN CAPITAL LETTER TZbSMALL LETTER TZbCAPITAL LETTER TRESILLObSMALL LETTER TRESILLO",
  "A72CaLATIN CAPITAL LETTER CUATRILLObSMALL LETTER CUATRILLObCAPITAL LETTER CUATRILLO WITH COMMA",
  "A72FaLATIN SMALL LETTER CUATRILLO WITH COMMAbLETTER SMALL CAPITAL FeSbCAPITAL LETTER AA",
  "A733aLATIN SMALL LETTER AAbCAPITAL LETTER AObSMALL LETTER AObCAPITAL LETTER AUbSMALL LETTER AU",
  "A738aLATIN CAPITAL LETTER AVbSMALL LETTER AVbCAPITAL LETTER AV WITH HORIZONTAL BAR",
  "A73BaLATIN SMALL LETTER AV WITH HORIZONTAL BARbCAPITAL LETTER AYbSMALL LETTER AY",
  "A73EaLATIN CAPITAL LETTER REVERSED C WITH DOTbSMALL LETTER REVERSED C WITH DOT",
  "A740aLATIN CAPITAL LETTER K WITH STROKEbSMALL LETTER K WITH STROKE",
  "A742aLATIN CAPITAL LETTER K WITH DIAGONAL STROKEbSMALL LETTER K WITH DIAGONAL STROKE",
  "A744aLATIN CAPITAL LETTER K WITH STROKE AND DIAGONAL STROKE",
  "A745aLATIN SMALL LETTER K WITH STROKE AND DIAGONAL STROKEbCAPITAL LETTER BROKEN L",
  "A747aLATIN SMALL LETTER BROKEN LbCAPITAL LETTER L WITH HIGH STROKE",
  "A749aLATIN SMALL LETTER L WITH HIGH STROKEbCAPITAL LETTER O WITH LONG STROKE OVERLAY",
  "A74BaLATIN SMALL LETTER O WITH LONG STROKE OVERLAYbCAPITAL LETTER O WITH LOOP",
  "A74DaLATIN SMALL LETTER O WITH LOOPbCAPITAL LETTER OObSMALL LETTER OO",
  "A750aLATIN CAPITAL LETTER P WITH STROKE THROUGH DESCENDER",
  "A751aLATIN SMALL LETTER P WITH STROKE THROUGH DESCENDERbCAPITAL LETTER P WITH FLOURISH",
  "A753aLATIN SMALL LETTER P WITH FLOURISHbCAPITAL LETTER P WITH SQUIRREL TAIL",
  "A755aLATIN SMALL LETTER P WITH SQUIRREL TAILbCAPITAL LETTER Q WITH STROKE THROUGH DESCENDER",
  "A757aLATIN SMALL LETTER Q WITH STROKE THROUGH DESCENDERbCAPITAL LETTER Q WITH DIAGONAL STROKE",
  "A759aLATIN SMALL LETTER Q WITH DIAGONAL STROKEbCAPITAL LETTER R ROTUNDAbSMALL LETTER R ROTUNDA",
  "A75CaLATIN CAPITAL LETTER RUM ROTUNDAbSMALL LETTER RUM ROTUNDA",
  "A75EaLATIN CAPITAL LETTER V WITH DIAGONAL STROKEbSMALL LETTER V WITH DIAGONAL STROKE",
  "A760aLATIN CAPITAL LETTER VYbSMALL LETTER VYbCAPITAL LETTER VISIGOTHIC Z",
  "A763aLATIN SMALL LETTER VISIGOTHIC ZbCAPITAL LETTER THORN WITH STROKE",
  "A765aLATIN SMALL LETTER THORN WITH STROKEbCAPITAL LETTER THORN WITH STROKE THROUGH DESCENDER",
  "A767aLATIN SMALL LETTER THORN WITH STROKE THROUGH DESCENDERbCAPITAL LETTER VEND",
  "A769aLATIN SMALL LETTER VENDbCAPITAL LETTER ETbSMALL LETTER ETbCAPITAL LETTER ISbSMALL LETTER IS",
  "A76EaLATIN CAPITAL LETTER CONbSMALL LETTER CONaMODIFIER LETTER USaLATIN SMALL LETTER DUMdLUMdMUM",
  "A774aLATIN SMALL LETTER NUMdRUMbLETTER SMALL CAPITAL RUMbSMALL LETTER TUMdUM",
  "A779aLATIN CAPITAL LETTER INSULAR DbSMALL LETTER INSULAR DbCAPITAL LETTER INSULAR F",
  "A77CaLATIN SMALL LETTER INSULAR FbCAPITAL LETTER INSULAR GdTURNED INSULAR G",
  "A77FaLATIN SMALL LETTER TURNED INSULAR GbCAPITAL LETTER TURNED LbSMALL LETTER TURNED L",
  "A782aLATIN CAPITAL LETTER INSULAR RbSMALL LETTER INSULAR RbCAPITAL LETTER INSULAR S",
  "A785aLATIN SMALL LETTER INSULAR SbCAPITAL LETTER INSULAR TbSMALL LETTER INSULAR T",
  "A788aMODIFIER LETTER LOW CIRCUMFLEX ACCENTcCOLONcSHORT EQUALS SIGNaLATIN CAPITAL LETTER SALTILLO",
  "A78CaLATIN SMALL LETTER SALTILLObCAPITAL LETTER TURNED H",
  "A78EaLATIN SMALL LETTER L WITH RETROFLEX HOOK AND BELTbLETTER SINOLOGICAL DOT",
  "A790aLATIN CAPITAL LETTER N WITH DESCENDERbSMALL LETTER N WITH DESCENDER",
  "A792aLATIN CAPITAL LETTER C WITH BARbSMALL LETTER C WITH BARfPALATAL HOOKdH WITH PALATAL HOOK",
  "A796aLATIN CAPITAL LETTER B WITH FLOURISHbSMALL LETTER B WITH FLOURISH",
  "A798aLATIN CAPITAL LETTER F WITH STROKEbSMALL LETTER F WITH STROKEbCAPITAL LETTER VOLAPUK AE",
  "A79BaLATIN SMALL LETTER VOLAPUK AEbCAPITAL LETTER VOLAPUK OEbSMALL LETTER VOLAPUK OE",
  "A79EaLATIN CAPITAL LETTER VOLAPUK UEbSMALL LETTER VOLAPUK UE",
  "A7A0aLATIN CAPITAL LETTER G WITH OBLIQUE STROKEbSMALL LETTER G WITH OBLIQUE STROKE",
  "A7A2aLATIN CAPITAL LETTER K WITH OBLIQUE STROKEbSMALL LETTER K WITH OBLIQUE STROKE",
  "A7A4aLATIN CAPITAL LETTER N WITH OBLIQUE STROKEbSMALL LETTER N WITH OBLIQUE STROKE",
  "A7A6aLATIN CAPITAL LETTER R WITH OBLIQUE STROKEbSMALL LETTER R WITH OBLIQUE STROKE",
  "A7A8aLATIN CAPITAL LETTER S WITH OBLIQUE STROKEbSMALL LETTER S WITH OBLIQUE STROKE",
  "A7AAaLATIN CAPITAL LETTER H WITH HOOKdREVERSED OPEN EdSCRIPT GdL WITH BELTdSMALL CAPITAL I",
  "A7AFaLATIN LETTER SMALL CAPITAL QbCAPITAL LETTER TURNED KeTdJ WITH CROSSED-TAILdCHIdBETA",
  "A7B5aLATIN SMALL LETTER BETAbCAPITAL LETTER OMEGAbSMALL LETTER OMEGA",
  "A7B8aLATIN CAPITAL LETTER U WITH STROKEbSMALL LETTER U WITH STROKEbCAPITAL LETTER GLOTTAL A",
  "A7BBaLATIN SMALL LETTER GLOTTAL AbCAPITAL LETTER GLOTTAL IbSMALL LETTER GLOTTAL I",
  "A7BEaLATIN CAPITAL LETTER GLOTTAL UbSMALL LETTER GLOTTAL UbCAPITAL LETTER OLD POLISH O",
  "A7C1aLATIN SMALL LETTER OLD POLISH ObCAPITAL LETTER ANGLICANA WbSMALL LETTER ANGLICANA W",
  "A7C4aLATIN CAPITAL LETTER C WITH PALATAL HOOKdS WITH HOOKdZ WITH PALATAL HOOK",
  "A7C7aLATIN CAPITAL LETTER D WITH SHORT STROKE OVERLAYbSMALL LETTER D WITH SHORT STROKE OVERLAY",
  "A7C9aLATIN CAPITAL LETTER S WITH SHORT STROKE OVERLAYbSMALL LETTER S WITH SHORT STROKE OVERLAY",
  "A7D0aLATIN CAPITAL LETTER CLOSED INSULAR GbSMALL LETTER CLOSED INSULAR G",
  "A7D3aLATIN SMALL LETTER DOUBLE THORN",
  "A7D5aLATIN SMALL LETTER DOUBLE WYNNbCAPITAL LETTER MIDDLE SCOTS SbSMALL LETTER MIDDLE SCOTS S",
  "A7D8aLATIN CAPITAL LETTER SIGMOID SbSMALL LETTER SIGMOID S",
  "A7F2aMODIFIER LETTER CAPITAL CdFdQaLATIN CAPITAL LETTER REVERSED HALF H",
  "A7F6aLATIN SMALL LETTER REVERSED HALF HbEPIGRAPHIC LETTER SIDEWAYS I",
  "A7F8aMODIFIER LETTER CAPITAL H WITH STROKEcSMALL LIGATURE OEaLATIN LETTER SMALL CAPITAL TURNED M",
  "A7FBaLATIN EPIGRAPHIC LETTER REVERSED FePdINVERTED MdI LONGAdARCHAIC MaSYLOTI NAGRI LETTER AdI",
  "A802aSYLOTI NAGRI SIGN DVISVARAcLETTER UdEdOcSIGN HASANTAcLETTER KOdKHOdGOdGHOcSIGN ANUSVARA",
  "A80CaSYLOTI NAGRI LETTER COdCHOdJOdJHOdTTOdTTHOdDDOdDDHOdTOdTHOdDOdDHOdNOdPOdPHOdBOdBHOdMOdROdLO",
  "A820aSYLOTI NAGRI LETTER RROdSOdHOcVOWEL SIGN AeIeUeEeOOcPOETRY MARK-1dMARK-2dMARK-3dMARK-4",
  "A82CaSYLOTI NAGRI SIGN ALTERNATE HASANTA",
  "A830aNORTH INDIC FRACTION ONE QUARTEReHALFdTHREE QUARTERSdONE SIXTEENTHeEIGHTHdTHREE SIXTEENTHS",
  "A836aNORTH INDIC QUARTER MARKcPLACEHOLDER MARKcRUPEE MARKcQUANTITY MARK",
  "A840aPHAGS-PA LETTER KAcKHAcGAcNGAcCAcCHAcJAcNYAcTAcTHAcDAcNAcPAcPHAcBAcMAcTSAcTSHAcDZAcWAcZHA",
  "A855aPHAGS-PA LETTER ZAcSMALL AcYAcRAcLAcSHAcSAcHAcAcIcUcEcOcQAcXAcFAcGGAcEEbSUBJOINED LETTER WA",
  "A868aPHAGS-PA SUBJOINED LETTER YAbLETTER TTAcTTHAcDDAcNNAcALTERNATE YAcVOICELESS SHAcVOICED HA",
  "A870aPHAGS-PA LETTER ASPIRATED FAbSUBJOINED LETTER RAbSUPERFIXED LETTER RAbLETTER CANDRABINDU",
  "A874aPHAGS-PA SINGLE HEAD MARKbDOUBLE HEAD MARKbMARK SHADcDOUBLE SHAD",
  "A880aSAURASHTRA SIGN ANUSVARAcVISARGAbLETTER AcAAcIcIIcUcUUcVOCALIC RdRRdLdLLcEcEEcAIcOcOOcAUcKA",
  "A893aSAURASHTRA LETTER KHAcGAcGHAcNGAcCAcCHAcJAcJHAcNYAcTTAcTTHAcDDAcDDHAcNNAcTAcTHAcDAcDHAcNA",
  "A8A6aSAURASHTRA LETTER PAcPHAcBAcBHAcMAcYAcRAcLAcVAcSHAcSSAcSAcHAcLLAbCONSONANT SIGN HAARU",
  "A8B5aSAURASHTRA VOWEL SIGN AAdIdIIdUdUUdVOCALIC ReRReLeLLdEdEEdAIdOdOOdAUbSIGN VIRAMA",
  "A8C5aSAURASHTRA SIGN CANDRABINDU",
  "A8CEaSAURASHTRA DANDAbDOUBLE DANDAbDIGIT ZEROcONEcTWOcTHREEcFOURcFIVEcSIXcSEVENcEIGHTcNINE",
  "A8E0aCOMBINING DEVANAGARI DIGIT ZEROdONEdTWOdTHREEdFOURdFIVEdSIXdSEVENdEIGHTdNINEcLETTER AdUdKA",
  "A8EDaCOMBINING DEVANAGARI LETTER NAdPAdRAdVIcSIGN AVAGRAHAaDEVANAGARI SIGN SPACING CANDRABINDU",
  "A8F3aDEVANAGARI SIGN CANDRABINDU VIRAMAcDOUBLE CANDRABINDU VIRAMAcCANDRABINDU TWOdTHREEdAVAGRAHA",
  "A8F8aDEVANAGARI SIGN PUSHPIKAbGAP FILLERbCARETbHEADSTROKEbSIGN SIDDHAMbJAIN OMbLETTER AY",
  "A8FFaDEVANAGARI VOWEL SIGN AYaKAYAH LI DIGIT ZEROdONEdTWOdTHREEdFOURdFIVEdSIXdSEVENdEIGHTdNINE",
  "A90AaKAYAH LI LETTER KAdKHAdGAdNGAdSAdSHAdZAdNYAdTAdHTAdNAdPAdPHAdMAdDAdBAdRAdYAdLAdWAdTHAdHAdVA",
  "A921aKAYAH LI LETTER CAdAdOEdIdOOcVOWEL UEdEdUdEEdOcTONE PLOPHUdCALYAePLOPHUcSIGN CWIdSHYA",
  "A930aREJANG LETTER KAcGAcNGAcTAcDAcNAcPAcBAcMAcCAcJAcNYAcSAcRAcLAcYAcWAcHAcMBAcNGGAcNDAcNYJAcA",
  "A947aREJANG VOWEL SIGN IdUdEdAIdOdAUdEUdEAbCONSONANT SIGN NGdNdRdHbVIRAMA",
  "A95FaREJANG SECTION MARKaHANGUL CHOSEONG TIKEUT-MIEUMcTIKEUT-PIEUPcTIKEUT-SIOScTIKEUT-CIEUC",
  "A964aHANGUL CHOSEONG RIEUL-KIYEOKcRIEUL-SSANGKIYEOKcRIEUL-TIKEUTcRIEUL-SSANGTIKEUTcRIEUL-MIEUM",
  "A969aHANGUL CHOSEONG RIEUL-PIEUPcRIEUL-SSANGPIEUPcRIEUL-KAPYEOUNPIEUPcRIEUL-SIOScRIEUL-CIEUC",
  "A96EaHANGUL CHOSEONG RIEUL-KHIEUKHcMIEUM-KIYEOKcMIEUM-TIKEUTcMIEUM-SIOScPIEUP-SIOS-THIEUTH",
  "A973aHANGUL CHOSEONG PIEUP-KHIEUKHcPIEUP-HIEUHcSSANGSIOS-PIEUPcIEUNG-RIEULcIEUNG-HIEUH",
  "A978aHANGUL CHOSEONG SSANGCIEUC-HIEUHcSSANGTHIEUTHcPHIEUPH-HIEUHcHIEUH-SIOScSSANGYEORINHIEUH",
  "A980aJAVANESE SIGN PANYANGGAcCECAKcLAYARcWIGNYANbLETTER AcI KAWI",
  "A986aJAVANESE LETTER IcIIcUcPA CEREKcNGA LELETeRASWADIcEcAIcOcKAdSASAKdMURDAcGAdMURDAcNGAcCA",
  "A996aJAVANESE LETTER CA MURDAcJAcNYA MURDAcJA MAHAPRANAcNYAcTTAdMAHAPRANAcDDAdMAHAPRANAcNA MURDA",
  "A9A0aJAVANESE LETTER TAdMURDAcDAdMAHAPRANAcNAcPAdMURDAcBAdMURDAcMAcYAcRAdAGUNGcLAcWAcSA MURDA",
  "A9B0aJAVANESE LETTER SA MAHAPRANA",
  "A9B1aJAVANESE LETTER SAcHAbSIGN CECAK TELUbVOWEL SIGN TARUNGdTOLONGdWULUeMELIKdSUKUeMENDUT",
  "A9BAaJAVANESE VOWEL SIGN TALINGdDIRGA MUREdPEPETbCONSONANT SIGN KERETdPENGKALdCAKRAbPANGKON",
  "A9C1aJAVANESE LEFT RERENGGANbRIGHT RERENGGANbPADA ANDAPcMADYAcLUHURcWINDUcPANGKATcLINGSAcLUNGSI",
  "A9CAaJAVANESE PADA ADEGdADEGcPISELEHbTURNED PADA PISELEH",
  "A9CFaJAVANESE PANGRANGKEPbDIGIT ZEROcONEcTWOcTHREEcFOURcFIVEcSIXcSEVENcEIGHTcNINE",
  "A9DEaJAVANESE PADA TIRTA TUMETEScISEN-ISENaMYANMAR LETTER SHAN GHAdCHAdJHAdNNAdBHAbSIGN SHAN SAW",
  "A9E6aMYANMAR MODIFIER LETTER SHAN REDUPLICATIONbLETTER TAI LAING NYAeFAeGAeGHAeJAeJHAeDDAeDDHA",
  "A9EFaMYANMAR LETTER TAI LAING NNAbTAI LAING DIGIT ZEROeONEeTWOeTHREEeFOUReFIVEeSIXeSEVENeEIGHT",
  "A9F9aMYANMAR TAI LAING DIGIT NINEbLETTER TAI LAING LLAeDAeDHAeBAeBHA",
  "AA00aCHAM LETTER AcIcUcEcAIcOcKAcKHAcGAcGHAcNGUEcNGAcCHAcCHHAcJAcJHAcNHUEcNHAcNHJAcTAcTHAcDAcDHA",
  "AA17aCHAM LETTER NUEcNAcDDAcPAcPPAcPHAcBAcBHAcMUEcMAcBBAcYAcRAcLAcVAcSSAcSAcHAbVOWEL SIGN AAdI",
  "AA2BaCHAM VOWEL SIGN IIdEIdUdOEdOdAIdAUdUEbCONSONANT SIGN YAdRAdLAdWA",
  "AA40aCHAM LETTER FINAL KdGdNGbCONSONANT SIGN FINAL NGbLETTER FINAL CHdTdNdPdYdRdLdSS",
  "AA4CaCHAM CONSONANT SIGN FINAL MeH",
  "AA50aCHAM DIGIT ZEROcONEcTWOcTHREEcFOURcFIVEcSIXcSEVENcEIGHTcNINE",
  "AA5CaCHAM PUNCTUATION SPIRALcDANDAcDOUBLE DANDAcTRIPLE DANDAaMYANMAR LETTER KHAMTI GAdCAdCHAdJA",
  "AA64aMYANMAR LETTER KHAMTI JHAdNYAdTTAdTTHAdDDAdDDHAdDHAdNAdSAdHAdHHAdFA",
  "AA70aMYANMAR MODIFIER LETTER KHAMTI REDUPLICATIONbLETTER KHAMTI XAdZAdRAbLOGOGRAM KHAMTI OAYdQN",
  "AA76aMYANMAR LOGOGRAM KHAMTI HMbSYMBOL AITON EXCLAMATIONdONEdTWObLETTER AITON RA",
  "AA7BaMYANMAR SIGN PAO KAREN TONEcTAI LAING TONE-2eTONE-5bLETTER SHWE PALAUNG CHAeSHA",
  "AA80aTAI VIET LETTER LOW KOdHIGH KOdLOW KHOdHIGH KHOdLOW KHHOdHIGH KHHOdLOW GOdHIGH GOdLOW NGO",
  "AA89aTAI VIET LETTER HIGH NGOdLOW COdHIGH COdLOW CHOdHIGH CHOdLOW SOdHIGH SOdLOW NYOdHIGH NYO",
  "AA92aTAI VIET LETTER LOW DOdHIGH DOdLOW TOdHIGH TOdLOW THOdHIGH THOdLOW NOdHIGH NOdLOW BO",
  "AA9BaTAI VIET LETTER HIGH BOdLOW POdHIGH POdLOW PHOdHIGH PHOdLOW FOdHIGH FOdLOW MOdHIGH MO",
  "AAA4aTAI VIET LETTER LOW YOdHIGH YOdLOW ROdHIGH ROdLOW LOdHIGH LOdLOW VOdHIGH VOdLOW HOdHIGH HO",
  "AAAEaTAI VIET LETTER LOW OdHIGH OcMAI KANGcVOWEL AAdIdUEdUdEdOcMAI KHITcVOWEL IAdUEAdUAdAUEdAY",
  "AABDaTAI VIET VOWEL ANdAMcTONE MAI EKeNUENGeTHOeSONG",
  "AADBaTAI VIET SYMBOL KONdNUENGdSAMdHO HOIdKOI KOIaMEETEI MAYEK LETTER EdOdCHAdNYAdTTAdTTHAdDDA",
  "AAE7aMEETEI MAYEK LETTER DDHAdNNAdSHAdSSAcVOWEL SIGN IIeUUeAAIeAUeAAUcCHEIKHANcAHANG KHUDAMcANJI",
  "AAF3aMEETEI MAYEK SYLLABLE REPETITION MARKcWORD REPETITION MARKcVOWEL SIGN VISARGAcVIRAMA",
  "AB01aETHIOPIC SYLLABLE TTHUcTTHIcTTHAAcTTHEEcTTHEcTTHO",
  "AB09aETHIOPIC SYLLABLE DDHUcDDHIcDDHAAcDDHEEcDDHEcDDHO",
  "AB11aETHIOPIC SYLLABLE DZUcDZIcDZAAcDZEEcDZEcDZO",
  "AB20aETHIOPIC SYLLABLE CCHHAcCCHHUcCCHHIcCCHHAAcCCHHEEcCCHHEcCCHHO",
  "AB28aETHIOPIC SYLLABLE BBAcBBUcBBIcBBAAcBBEEcBBEcBBO",
  "AB30aLATIN SMALL LETTER BARRED ALPHAdA REVERSED-SCHWAdBLACKLETTER EdBARRED EdE WITH FLOURISH",
  "AB35aLATIN SMALL LETTER LENIS FdSCRIPT G WITH CROSSED-TAILdL WITH INVERTED LAZY S",
  "AB38aLATIN SMALL LETTER L WITH DOUBLE MIDDLE TILDEfMIDDLE RINGdM WITH CROSSED-TAIL",
  "AB3BaLATIN SMALL LETTER N WITH CROSSED-TAILdENG WITH CROSSED-TAILdBLACKLETTER OfWITH STROKE",
  "AB3FaLATIN SMALL LETTER OPEN O WITH STROKEdINVERTED OEdTURNED OE WITH STROKEgHORIZONTAL STROKE",
  "AB43aLATIN SMALL LETTER TURNED O OPEN-OgWITH STROKEdSTIRRUP R",
  "AB46aLATIN LETTER SMALL CAPITAL R WITH RIGHT LEGbSMALL LETTER R WITHOUT HANDLEdDOUBLE R",
  "AB49aLATIN SMALL LETTER R WITH CROSSED-TAILdDOUBLE R WITH CROSSED-TAILdSCRIPT RfWITH RING",
  "AB4DaLATIN SMALL LETTER BASELINE ESHdU WITH SHORT RIGHT LEGeBAR WITH SHORT RIGHT LEGdUI",
  "AB51aLATIN SMALL LETTER TURNED UIdU WITH LEFT HOOKdCHIeWITH LOW RIGHT RINGgLEFT SERIF",
  "AB56aLATIN SMALL LETTER X WITH LOW RIGHT RINGfLONG LEFT LEGiAND LOW RIGHT RINGiWITH SERIF",
  "AB5AaLATIN SMALL LETTER Y WITH SHORT RIGHT LEGaMODIFIER BREVE WITH INVERTED BREVE",
  "AB5CaMODIFIER LETTER SMALL HENGdL WITH INVERTED LAZY SfMIDDLE TILDEdU WITH LEFT HOOK",
  "AB60aLATIN SMALL LETTER SAKHA YATdIOTIFIED EdOPEN OEdUOdINVERTED ALPHA",
  "AB65aGREEK LETTER SMALL CAPITAL OMEGAaLATIN SMALL LETTER DZ DIGRAPH WITH RETROFLEX HOOK",
  "AB67aLATIN SMALL LETTER TS DIGRAPH WITH RETROFLEX HOOKdTURNED R WITH MIDDLE TILDE",
  "AB69aMODIFIER LETTER SMALL TURNED WcLEFT TACKcRIGHT TACK",
  "AB70aCHEROKEE SMALL LETTER AdEdIdOdUdVdGAdKAdGEdGIdGOdGUdGVdHAdHEdHIdHOdHUdHVdLAdLEdLIdLOdLUdLV",
  "AB89aCHEROKEE SMALL LETTER MAdMEdMIdMOdMUdNAdHNAdNAHdNEdNIdNOdNUdNVdQUAdQUEdQUIdQUOdQUUdQUVdSAdS",
  "AB9EaCHEROKEE SMALL LETTER SEdSIdSOdSUdSVdDAdTAdDEdTEdDIdTIdDOdDUdDVdDLAdTLAdTLEdTLIdTLOdTLUdTLV",
  "ABB3aCHEROKEE SMALL LETTER TSAdTSEdTSIdTSOdTSUdTSVdWAdWEdWIdWOdWUdWVdYAaMEETEI MAYEK LETTER KOK",
  "ABC1aMEETEI MAYEK LETTER SAMdLAIdMITdPAdNAdCHILdTILdKHOUdNGOUdTHOUdWAIdYANGdHUKdUNdIdPHAMdATIYA",
  "ABD2aMEETEI MAYEK LETTER GOKdJHAMdRAIdBAdJILdDILdGHOUdDHOUdBHAMdKOK LONSUMdLAI LONSUMdMIT LONSUM",
  "ABDEaMEETEI MAYEK LETTER PA LONSUMdNA LONSUMdTIL LONSUMdNGOU LONSUMdI LONSUMcVOWEL SIGN ONAP",
  "ABE4aMEETEI MAYEK VOWEL SIGN INAPeANAPeYENAPeSOUNAPeUNAPeCHEINAPeNUNGcCHEIKHEIcLUM IYEK",
  "ABEDaMEETEI MAYEK APUN IYEK",
  "ABF0aMEETEI MAYEK DIGIT ZEROdONEdTWOdTHREEdFOURdFIVEdSIXdSEVENdEIGHTdNINE",
  "D7B0aHANGUL JUNGSEONG O-YEOcO-O-IcYO-AcYO-AEcYO-EOcU-YEOcU-I-IcYU-AEcYU-OcEU-AcEU-EOcEU-EcEU-O",
  "D7BDaHANGUL JUNGSEONG I-YA-OcI-YAEcI-YEOcI-YEcI-O-IcI-YOcI-YUcI-IcARAEA-AcARAEA-E",
  "D7CBaHANGUL JONGSEONG NIEUN-RIEULcNIEUN-CHIEUCHcSSANGTIKEUTcSSANGTIKEUT-PIEUPcTIKEUT-PIEUP",
  "D7D0aHANGUL JONGSEONG TIKEUT-SIOScTIKEUT-SIOS-KIYEOKcTIKEUT-CIEUCcTIKEUT-CHIEUCHcTIKEUT-THIEUTH",
  "D7D5aHANGUL JONGSEONG RIEUL-SSANGKIYEOKcRIEUL-KIYEOK-HIEUHcSSANGRIEUL-KHIEUKHcRIEUL-MIEUM-HIEUH",
  "D7D9aHANGUL JONGSEONG RIEUL-PIEUP-TIKEUTcRIEUL-PIEUP-PHIEUPHcRIEUL-YESIEUNG",
  "D7DCaHANGUL JONGSEONG RIEUL-YEORINHIEUH-HIEUHcKAPYEOUNRIEULcMIEUM-NIEUNcMIEUM-SSANGNIEUN",
  "D7E0aHANGUL JONGSEONG SSANGMIEUMcMIEUM-PIEUP-SIOScMIEUM-CIEUCcPIEUP-TIKEUTcPIEUP-RIEUL-PHIEUPH",
  "D7E5aHANGUL JONGSEONG PIEUP-MIEUMcSSANGPIEUPcPIEUP-SIOS-TIKEUTcPIEUP-CIEUCcPIEUP-CHIEUCH",
  "D7EAaHANGUL JONGSEONG SIOS-MIEUMcSIOS-KAPYEOUNPIEUPcSSANGSIOS-KIYEOKcSSANGSIOS-TIKEUT",
  "D7EEaHANGUL JONGSEONG SIOS-PANSIOScSIOS-CIEUCcSIOS-CHIEUCHcSIOS-THIEUTHcSIOS-HIEUHcPANSIOS-PIEUP",
  "D7F4aHANGUL JONGSEONG PANSIOS-KAPYEOUNPIEUPcYESIEUNG-MIEUMcYESIEUNG-HIEUHcCIEUC-PIEUP",
  "D7F8aHANGUL JONGSEONG CIEUC-SSANGPIEUPcSSANGCIEUCcPHIEUPH-SIOScPHIEUPH-THIEUTH",
  "FB00aLATIN SMALL LIGATURE FFdFIdFLdFFIdFFLdLONG S TdST",
  "FB13aARMENIAN SMALL LIGATURE MEN NOWeECHeINIdVEW NOWdMEN XEH",
  "FB1DaHEBREW LETTER YOD WITH HIRIQbPOINT JUDEO-SPANISH VARIKAbLIGATURE YIDDISH YOD YOD PATAH",
  "FB20aHEBREW LETTER ALTERNATIVE AYINcWIDE ALEFdDALETdHEdKAFdLAMEDdFINAL MEMdRESHdTAV",
  "FB29aHEBREW LETTER ALTERNATIVE PLUS SIGNcSHIN WITH SHIN DOTeSIN DOTeDAGESH AND SHIN DOTgSIN DOT",
  "FB2EaHEBREW LETTER ALEF WITH PATAHeQAMATSeMAPIQcBET WITH DAGESHcGIMEL WITH DAGESH",
  "FB33aHEBREW LETTER DALET WITH DAGESHcHE WITH MAPIQcVAV WITH DAGESHcZAYIN WITH DAGESH",
  "FB38aHEBREW LETTER TET WITH DAGESHcYOD WITH DAGESHcFINAL KAF WITH DAGESHcKAF WITH DAGESH",
  "FB3CaHEBREW LETTER LAMED WITH DAGESH",
  "FB3EaHEBREW LETTER MEM WITH DAGESH",
  "FB40aHEBREW LETTER NUN WITH DAGESHcSAMEKH WITH DAGESH",
  "FB43aHEBREW LETTER FINAL PE WITH DAGESHcPE WITH DAGESH",
  "FB46aHEBREW LETTER TSADI WITH DAGESHcQOF WITH DAGESHcRESH WITH DAGESHcSHIN WITH DAGESH",
  "FB4AaHEBREW LETTER TAV WITH DAGESHcVAV WITH HOLAMcBET WITH RAFEcKAF WITH RAFEcPE WITH RAFE",
  "FB4FaHEBREW LIGATURE ALEF LAMEDaARABIC LETTER ALEF WASLA ISOLATED FORMeFINAL FORM",
  "FB52aARABIC LETTER BEEH ISOLATED FORMdFINAL FORMdINITIAL FORMdMEDIAL FORMcPEH ISOLATED FORM",
  "FB57aARABIC LETTER PEH FINAL FORMdINITIAL FORMdMEDIAL FORMcBEHEH ISOLATED FORMdFINAL FORM",
  "FB5CaARABIC LETTER BEHEH INITIAL FORMdMEDIAL FORMcTTEHEH ISOLATED FORMdFINAL FORMdINITIAL FORM",
  "FB61aARABIC LETTER TTEHEH MEDIAL FORMcTEHEH ISOLATED FORMdFINAL FORMdINITIAL FORMdMEDIAL FORM",
  "FB66aARABIC LETTER TTEH ISOLATED FORMdFINAL FORMdINITIAL FORMdMEDIAL FORMcVEH ISOLATED FORM",
  "FB6BaARABIC LETTER VEH FINAL FORMdINITIAL FORMdMEDIAL FORMcPEHEH ISOLATED FORMdFINAL FORM",
  "FB70aARABIC LETTER PEHEH INITIAL FORMdMEDIAL FORMcDYEH ISOLATED FORMdFINAL FORMdINITIAL FORM",
  "FB75aARABIC LETTER DYEH MEDIAL FORMcNYEH ISOLATED FORMdFINAL FORMdINITIAL FORMdMEDIAL FORM",
  "FB7AaARABIC LETTER TCHEH ISOLATED FORMdFINAL FORMdINITIAL FORMdMEDIAL FORMcTCHEHEH ISOLATED FORM",
  "FB7FaARABIC LETTER TCHEHEH FINAL FORMdINITIAL FORMdMEDIAL FORMcDDAHAL ISOLATED FORMdFINAL FORM",
  "FB84aARABIC LETTER DAHAL ISOLATED FORMdFINAL FORMcDUL ISOLATED FORMdFINAL FORM",
  "FB88aARABIC LETTER DDAL ISOLATED FORMdFINAL FORMcJEH ISOLATED FORMdFINAL FORMcRREH ISOLATED FORM",
  "FB8DaARABIC LETTER RREH FINAL FORMcKEHEH ISOLATED FORMdFINAL FORMdINITIAL FORMdMEDIAL FORM",
  "FB92aARABIC LETTER GAF ISOLATED FORMdFINAL FORMdINITIAL FORMdMEDIAL FORMcGUEH ISOLATED FORM",
  "FB97aARABIC LETTER GUEH FINAL FORMdINITIAL FORMdMEDIAL FORMcNGOEH ISOLATED FORMdFINAL FORM",
  "FB9CaARABIC LETTER NGOEH INITIAL FORMdMEDIAL FORMcNOON GHUNNA ISOLATED FORMeFINAL FORM",
  "FBA0aARABIC LETTER RNOON ISOLATED FORMdFINAL FORMdINITIAL FORMdMEDIAL FORM",
  "FBA4aARABIC LETTER HEH WITH YEH ABOVE ISOLATED FORMgFINAL FORMdGOAL ISOLATED FORMeFINAL FORM",
  "FBA8aARABIC LETTER HEH GOAL INITIAL FORMeMEDIAL FORMdDOACHASHMEE ISOLATED FORMeFINAL FORM",
  "FBACaARABIC LETTER HEH DOACHASHMEE INITIAL FORMeMEDIAL FORMcYEH BARREE ISOLATED FORMeFINAL FORM",
  "FBB0aARABIC LETTER YEH BARREE WITH HAMZA ABOVE ISOLATED FORMhFINAL FORMbSYMBOL DOT ABOVEdBELOW",
  "FBB4aARABIC SYMBOL TWO DOTS ABOVEeBELOWcTHREE DOTS ABOVEeBELOWePOINTING DOWNWARDS ABOVEgBELOW",
  "FBBAaARABIC SYMBOL FOUR DOTS ABOVEeBELOWcDOUBLE VERTICAL BAR BELOWcTWO DOTS VERTICALLY ABOVE",
  "FBBEaARABIC SYMBOL TWO DOTS VERTICALLY BELOWcRINGcSMALL TAH ABOVEeBELOWcWASLA ABOVE",
  "FBD3aARABIC LETTER NG ISOLATED FORMdFINAL FORMdINITIAL FORMdMEDIAL FORMcU ISOLATED FORM",
  "FBD8aARABIC LETTER U FINAL FORMcOE ISOLATED FORMdFINAL FORMcYU ISOLATED FORMdFINAL FORM",
  "FBDDaARABIC LETTER U WITH HAMZA ABOVE ISOLATED FORMcVE ISOLATED FORMdFINAL FORM",
  "FBE0aARABIC LETTER KIRGHIZ OE ISOLATED FORMeFINAL FORMdYU ISOLATED FORMeFINAL FORM",
  "FBE4aARABIC LETTER E ISOLATED FORMdFINAL FORMdINITIAL FORMdMEDIAL FORM",
  "FBE8aARABIC LETTER UIGHUR KAZAKH KIRGHIZ ALEF MAKSURA INITIAL FORMhMEDIAL FORM",
  "FBEAaARABIC LIGATURE YEH WITH HAMZA ABOVE WITH ALEF ISOLATED FORMiFINAL FORMhAE ISOLATED FORM",
  "FBEDaARABIC LIGATURE YEH WITH HAMZA ABOVE WITH AE FINAL FORMhWAW ISOLATED FORMiFINAL FORM",
  "FBF0aARABIC LIGATURE YEH WITH HAMZA ABOVE WITH U ISOLATED FORMiFINAL FORMhOE ISOLATED FORM",
  "FBF3aARABIC LIGATURE YEH WITH HAMZA ABOVE WITH OE FINAL FORMhYU ISOLATED FORMiFINAL FORM",
  "FBF6aARABIC LIGATURE YEH WITH HAMZA ABOVE WITH E ISOLATED FORMiFINAL FORMiINITIAL FORM",
  "FBF9aARABIC LIGATURE UIGHUR KIRGHIZ YEH WITH HAMZA ABOVE WITH ALEF MAKSURA ISOLATED FORM",
  "FBFAaARABIC LIGATURE UIGHUR KIRGHIZ YEH WITH HAMZA ABOVE WITH ALEF MAKSURA FINAL FORM",
  "FBFBaARABIC LIGATURE UIGHUR KIRGHIZ YEH WITH HAMZA ABOVE WITH ALEF MAKSURA INITIAL FORM",
  "FBFCaARABIC LETTER FARSI YEH ISOLATED FORMeFINAL FORMeINITIAL FORMeMEDIAL FORM",
  "FC00aARABIC LIGATURE YEH WITH HAMZA ABOVE WITH JEEM ISOLATED FORMhHAH ISOLATED FORM",
  "FC02aARABIC LIGATURE YEH WITH HAMZA ABOVE WITH MEEM ISOLATED FORMhALEF MAKSURA ISOLATED FORM",
  "FC04aARABIC LIGATURE YEH WITH HAMZA ABOVE WITH YEH ISOLATED FORMcBEH WITH JEEM ISOLATED FORM",
  "FC06aARABIC LIGATURE BEH WITH HAH ISOLATED FORMeKHAH ISOLATED FORMeMEEM ISOLATED FORM",
  "FC09aARABIC LIGATURE BEH WITH ALEF MAKSURA ISOLATED FORMeYEH ISOLATED FORM",
  "FC0BaARABIC LIGATURE TEH WITH JEEM ISOLATED FORMeHAH ISOLATED FORMeKHAH ISOLATED FORM",
  "FC0EaARABIC LIGATURE TEH WITH MEEM ISOLATED FORMeALEF MAKSURA ISOLATED FORMeYEH ISOLATED FORM",
  "FC11aARABIC LIGATURE THEH WITH JEEM ISOLATED FORMeMEEM ISOLATED FORMeALEF MAKSURA ISOLATED FORM",
  "FC14aARABIC LIGATURE THEH WITH YEH ISOLATED FORMcJEEM WITH HAH ISOLATED FORMeMEEM ISOLATED FORM",
  "FC17aARABIC LIGATURE HAH WITH JEEM ISOLATED FORMeMEEM ISOLATED FORMcKHAH WITH JEEM ISOLATED FORM",
  "FC1AaARABIC LIGATURE KHAH WITH HAH ISOLATED FORMeMEEM ISOLATED FORMcSEEN WITH JEEM ISOLATED FORM",
  "FC1DaARABIC LIGATURE SEEN WITH HAH ISOLATED FORMeKHAH ISOLATED FORMeMEEM ISOLATED FORM",
  "FC20aARABIC LIGATURE SAD WITH HAH ISOLATED FORMeMEEM ISOLATED FORMcDAD WITH JEEM ISOLATED FORM",
  "FC23aARABIC LIGATURE DAD WITH HAH ISOLATED FORMeKHAH ISOLATED FORMeMEEM ISOLATED FORM",
  "FC26aARABIC LIGATURE TAH WITH HAH ISOLATED FORMeMEEM ISOLATED FORMcZAH WITH MEEM ISOLATED FORM",
  "FC29aARABIC LIGATURE AIN WITH JEEM ISOLATED FORMeMEEM ISOLATED FORM",
  "FC2BaARABIC LIGATURE GHAIN WITH JEEM ISOLATED FORMeMEEM ISOLATED FORM",
  "FC2DaARABIC LIGATURE FEH WITH JEEM ISOLATED FORMeHAH ISOLATED FORMeKHAH ISOLATED FORM",
  "FC30aARABIC LIGATURE FEH WITH MEEM ISOLATED FORMeALEF MAKSURA ISOLATED FORMeYEH ISOLATED FORM",
  "FC33aARABIC LIGATURE QAF WITH HAH ISOLATED FORMeMEEM ISOLATED FORMeALEF MAKSURA ISOLATED FORM",
  "FC36aARABIC LIGATURE QAF WITH YEH ISOLATED FORMcKAF WITH ALEF ISOLATED FORMeJEEM ISOLATED FORM",
  "FC39aARABIC LIGATURE KAF WITH HAH ISOLATED FORMeKHAH ISOLATED FORMeLAM ISOLATED FORM",
  "FC3CaARABIC LIGATURE KAF WITH MEEM ISOLATED FORMeALEF MAKSURA ISOLATED FORMeYEH ISOLATED FORM",
  "FC3FaARABIC LIGATURE LAM WITH JEEM ISOLATED FORMeHAH ISOLATED FORMeKHAH ISOLATED FORM",
  "FC42aARABIC LIGATURE LAM WITH MEEM ISOLATED FORMeALEF MAKSURA ISOLATED FORMeYEH ISOLATED FORM",
  "FC45aARABIC LIGATURE MEEM WITH JEEM ISOLATED FORMeHAH ISOLATED FORMeKHAH ISOLATED FORM",
  "FC48aARABIC LIGATURE MEEM WITH MEEM ISOLATED FORMeALEF MAKSURA ISOLATED FORMeYEH ISOLATED FORM",
  "FC4BaARABIC LIGATURE NOON WITH JEEM ISOLATED FORMeHAH ISOLATED FORMeKHAH ISOLATED FORM",
  "FC4EaARABIC LIGATURE NOON WITH MEEM ISOLATED FORMeALEF MAKSURA ISOLATED FORMeYEH ISOLATED FORM",
  "FC51aARABIC LIGATURE HEH WITH JEEM ISOLATED FORMeMEEM ISOLATED FORMeALEF MAKSURA ISOLATED FORM",
  "FC54aARABIC LIGATURE HEH WITH YEH ISOLATED FORMcYEH WITH JEEM ISOLATED FORMeHAH ISOLATED FORM",
  "FC57aARABIC LIGATURE YEH WITH KHAH ISOLATED FORMeMEEM ISOLATED FORMeALEF MAKSURA ISOLATED FORM",
  "FC5AaARABIC LIGATURE YEH WITH YEH ISOLATED FORMcTHAL WITH SUPERSCRIPT ALEF ISOLATED FORM",
  "FC5CaARABIC LIGATURE REH WITH SUPERSCRIPT ALEF ISOLATED FORM",
  "FC5DaARABIC LIGATURE ALEF MAKSURA WITH SUPERSCRIPT ALEF ISOLATED FORM",
  "FC5EaARABIC LIGATURE SHADDA WITH DAMMATAN ISOLATED FORMeKASRATAN ISOLATED FORM",
  "FC60aARABIC LIGATURE SHADDA WITH FATHA ISOLATED FORMeDAMMA ISOLATED FORMeKASRA ISOLATED FORM",
  "FC63aARABIC LIGATURE SHADDA WITH SUPERSCRIPT ALEF ISOLATED FORM",
  "FC64aARABIC LIGATURE YEH WITH HAMZA ABOVE WITH REH FINAL FORMhZAIN FINAL FORMhMEEM FINAL FORM",
  "FC67aARABIC LIGATURE YEH WITH HAMZA ABOVE WITH NOON FINAL FORMhALEF MAKSURA FINAL FORM",
  "FC69aARABIC LIGATURE YEH WITH HAMZA ABOVE WITH YEH FINAL FORMcBEH WITH REH FINAL FORM",
  "FC6BaARABIC LIGATURE BEH WITH ZAIN FINAL FORMeMEEM FINAL FORMeNOON FINAL FORM",
  "FC6EaARABIC LIGATURE BEH WITH ALEF MAKSURA FINAL FORMeYEH FINAL FORMcTEH WITH REH FINAL FORM",
  "FC71aARABIC LIGATURE TEH WITH ZAIN FINAL FORMeMEEM FINAL FORMeNOON FINAL FORM",
  "FC74aARABIC LIGATURE TEH WITH ALEF MAKSURA FINAL FORMeYEH FINAL FORMcTHEH WITH REH FINAL FORM",
  "FC77aARABIC LIGATURE THEH WITH ZAIN FINAL FORMeMEEM FINAL FORMeNOON FINAL FORM",
  "FC7AaARABIC LIGATURE THEH WITH ALEF MAKSURA FINAL FORMeYEH FINAL FORM",
  "FC7CaARABIC LIGATURE FEH WITH ALEF MAKSURA FINAL FORMeYEH FINAL FORM",
  "FC7EaARABIC LIGATURE QAF WITH ALEF MAKSURA FINAL FORMeYEH FINAL FORMcKAF WITH ALEF FINAL FORM",
  "FC81aARABIC LIGATURE KAF WITH LAM FINAL FORMeMEEM FINAL FORMeALEF MAKSURA FINAL FORM",
  "FC84aARABIC LIGATURE KAF WITH YEH FINAL FORMcLAM WITH MEEM FINAL FORMeALEF MAKSURA FINAL FORM",
  "FC87aARABIC LIGATURE LAM WITH YEH FINAL FORMcMEEM WITH ALEF FINAL FORMeMEEM FINAL FORM",
  "FC8AaARABIC LIGATURE NOON WITH REH FINAL FORMeZAIN FINAL FORMeMEEM FINAL FORMeNOON FINAL FORM",
  "FC8EaARABIC LIGATURE NOON WITH ALEF MAKSURA FINAL FORMeYEH FINAL FORM",
  "FC90aARABIC LIGATURE ALEF MAKSURA WITH SUPERSCRIPT ALEF FINAL FORMcYEH WITH REH FINAL FORM"]

/-- More rows of names. -/
def nameRowsH : List String := [
  "FC92aARABIC LIGATURE YEH WITH ZAIN FINAL FORMeMEEM FINAL FORMeNOON FINAL FORM",
  "FC95aARABIC LIGATURE YEH WITH ALEF MAKSURA FINAL FORMeYEH FINAL FORM",
  "FC97aARABIC LIGATURE YEH WITH HAMZA ABOVE WITH JEEM INITIAL FORMhHAH INITIAL FORM",
  "FC99aARABIC LIGATURE YEH WITH HAMZA ABOVE WITH KHAH INITIAL FORMhMEEM INITIAL FORM",
  "FC9BaARABIC LIGATURE YEH WITH HAMZA ABOVE WITH HEH INITIAL FORMcBEH WITH JEEM INITIAL FORM",
  "FC9DaARABIC LIGATURE BEH WITH HAH INITIAL FORMeKHAH INITIAL FORMeMEEM INITIAL FORM",
  "FCA0aARABIC LIGATURE BEH WITH HEH INITIAL FORMcTEH WITH JEEM INITIAL FORMeHAH INITIAL FORM",
  "FCA3aARABIC LIGATURE TEH WITH KHAH INITIAL FORMeMEEM INITIAL FORMeHEH INITIAL FORM",
  "FCA6aARABIC LIGATURE THEH WITH MEEM INITIAL FORMcJEEM WITH HAH INITIAL FORMeMEEM INITIAL FORM",
  "FCA9aARABIC LIGATURE HAH WITH JEEM INITIAL FORMeMEEM INITIAL FORMcKHAH WITH JEEM INITIAL FORM",
  "FCACaARABIC LIGATURE KHAH WITH MEEM INITIAL FORMcSEEN WITH JEEM INITIAL FORMeHAH INITIAL FORM",
  "FCAFaARABIC LIGATURE SEEN WITH KHAH INITIAL FORMeMEEM INITIAL FORMcSAD WITH HAH INITIAL FORM",
  "FCB2aARABIC LIGATURE SAD WITH KHAH INITIAL FORMeMEEM INITIAL FORMcDAD WITH JEEM INITIAL FORM",
  "FCB5aARABIC LIGATURE DAD WITH HAH INITIAL FORMeKHAH INITIAL FORMeMEEM INITIAL FORM",
  "FCB8aARABIC LIGATURE TAH WITH HAH INITIAL FORMcZAH WITH MEEM INITIAL FORM",
  "FCBAaARABIC LIGATURE AIN WITH JEEM INITIAL FORMeMEEM INITIAL FORMcGHAIN WITH JEEM INITIAL FORM",
  "FCBDaARABIC LIGATURE GHAIN WITH MEEM INITIAL FORMcFEH WITH JEEM INITIAL FORMeHAH INITIAL FORM",
  "FCC0aARABIC LIGATURE FEH WITH KHAH INITIAL FORMeMEEM INITIAL FORMcQAF WITH HAH INITIAL FORM",
  "FCC3aARABIC LIGATURE QAF WITH MEEM INITIAL FORMcKAF WITH JEEM INITIAL FORMeHAH INITIAL FORM",
  "FCC6aARABIC LIGATURE KAF WITH KHAH INITIAL FORMeLAM INITIAL FORMeMEEM INITIAL FORM",
  "FCC9aARABIC LIGATURE LAM WITH JEEM INITIAL FORMeHAH INITIAL FORMeKHAH INITIAL FORM",
  "FCCCaARABIC LIGATURE LAM WITH MEEM INITIAL FORMeHEH INITIAL FORMcMEEM WITH JEEM INITIAL FORM",
  "FCCFaARABIC LIGATURE MEEM WITH HAH INITIAL FORMeKHAH INITIAL FORMeMEEM INITIAL FORM",
  "FCD2aARABIC LIGATURE NOON WITH JEEM INITIAL FORMeHAH INITIAL FORMeKHAH INITIAL FORM",
  "FCD5aARABIC LIGATURE NOON WITH MEEM INITIAL FORMeHEH INITIAL FORMcHEH WITH JEEM INITIAL FORM",
  "FCD8aARABIC LIGATURE HEH WITH MEEM INITIAL FORMeSUPERSCRIPT ALEF INITIAL FORM",
  "FCDAaARABIC LIGATURE YEH WITH JEEM INITIAL FORMeHAH INITIAL FORMeKHAH INITIAL FORM",
  "FCDDaARABIC LIGATURE YEH WITH MEEM INITIAL FORMeHEH INITIAL FORM",
  "FCDFaARABIC LIGATURE YEH WITH HAMZA ABOVE WITH MEEM MEDIAL FORMhHEH MEDIAL FORM",
  "FCE1aARABIC LIGATURE BEH WITH MEEM MEDIAL FORMeHEH MEDIAL FORMcTEH WITH MEEM MEDIAL FORM",
  "FCE4aARABIC LIGATURE TEH WITH HEH MEDIAL FORMcTHEH WITH MEEM MEDIAL FORMeHEH MEDIAL FORM",
  "FCE7aARABIC LIGATURE SEEN WITH MEEM MEDIAL FORMeHEH MEDIAL FORMcSHEEN WITH MEEM MEDIAL FORM",
  "FCEAaARABIC LIGATURE SHEEN WITH HEH MEDIAL FORMcKAF WITH LAM MEDIAL FORMeMEEM MEDIAL FORM",
  "FCEDaARABIC LIGATURE LAM WITH MEEM MEDIAL FORMcNOON WITH MEEM MEDIAL FORMeHEH MEDIAL FORM",
  "FCF0aARABIC LIGATURE YEH WITH MEEM MEDIAL FORMeHEH MEDIAL FORMcSHADDA WITH FATHA MEDIAL FORM",
  "FCF3aARABIC LIGATURE SHADDA WITH DAMMA MEDIAL FORMeKASRA MEDIAL FORM",
  "FCF5aARABIC LIGATURE TAH WITH ALEF MAKSURA ISOLATED FORMeYEH ISOLATED FORM",
  "FCF7aARABIC LIGATURE AIN WITH ALEF MAKSURA ISOLATED FORMeYEH ISOLATED FORM",
  "FCF9aARABIC LIGATURE GHAIN WITH ALEF MAKSURA ISOLATED FORMeYEH ISOLATED FORM",
  "FCFBaARABIC LIGATURE SEEN WITH ALEF MAKSURA ISOLATED FORMeYEH ISOLATED FORM",
  "FCFDaARABIC LIGATURE SHEEN WITH ALEF MAKSURA ISOLATED FORMeYEH ISOLATED FORM",
  "FCFFaARABIC LIGATURE HAH WITH ALEF MAKSURA ISOLATED FORMeYEH ISOLATED FORM",
  "FD01aARABIC LIGATURE JEEM WITH ALEF MAKSURA ISOLATED FORMeYEH ISOLATED FORM",
  "FD03aARABIC LIGATURE KHAH WITH ALEF MAKSURA ISOLATED FORMeYEH ISOLATED FORM",
  "FD05aARABIC LIGATURE SAD WITH ALEF MAKSURA ISOLATED FORMeYEH ISOLATED FORM",
  "FD07aARABIC LIGATURE DAD WITH ALEF MAKSURA ISOLATED FORMeYEH ISOLATED FORM",
  "FD09aARABIC LIGATURE SHEEN WITH JEEM ISOLATED FORMeHAH ISOLATED FORMeKHAH ISOLATED FORM",
  "FD0CaARABIC LIGATURE SHEEN WITH MEEM ISOLATED FORMeREH ISOLATED FORMcSEEN WITH REH ISOLATED FORM",
  "FD0FaARABIC LIGATURE SAD WITH REH ISOLATED FORMcDAD WITH REH ISOLATED FORM",
  "FD11aARABIC LIGATURE TAH WITH ALEF MAKSURA FINAL FORMeYEH FINAL FORM",
  "FD13aARABIC LIGATURE AIN WITH ALEF MAKSURA FINAL FORMeYEH FINAL FORM",
  "FD15aARABIC LIGATURE GHAIN WITH ALEF MAKSURA FINAL FORMeYEH FINAL FORM",
  "FD17aARABIC LIGATURE SEEN WITH ALEF MAKSURA FINAL FORMeYEH FINAL FORM",
  "FD19aARABIC LIGATURE SHEEN WITH ALEF MAKSURA FINAL FORMeYEH FINAL FORM",
  "FD1BaARABIC LIGATURE HAH WITH ALEF MAKSURA FINAL FORMeYEH FINAL FORM",
  "FD1DaARABIC LIGATURE JEEM WITH ALEF MAKSURA FINAL FORMeYEH FINAL FORM",
  "FD1FaARABIC LIGATURE KHAH WITH ALEF MAKSURA FINAL FORMeYEH FINAL FORM",
  "FD21aARABIC LIGATURE SAD WITH ALEF MAKSURA FINAL FORMeYEH FINAL FORM",
  "FD23aARABIC LIGATURE DAD WITH ALEF MAKSURA FINAL FORMeYEH FINAL FORMcSHEEN WITH JEEM FINAL FORM",
  "FD26aARABIC LIGATURE SHEEN WITH HAH FINAL FORMeKHAH FINAL FORMeMEEM FINAL FORMeREH FINAL FORM",
  "FD2AaARABIC LIGATURE SEEN WITH REH FINAL FORMcSAD WITH REH FINAL FORMcDAD WITH REH FINAL FORM",
  "FD2DaARABIC LIGATURE SHEEN WITH JEEM INITIAL FORMeHAH INITIAL FORMeKHAH INITIAL FORM",
  "FD30aARABIC LIGATURE SHEEN WITH MEEM INITIAL FORMcSEEN WITH HEH INITIAL FORM",
  "FD32aARABIC LIGATURE SHEEN WITH HEH INITIAL FORMcTAH WITH MEEM INITIAL FORM",
  "FD34aARABIC LIGATURE SEEN WITH JEEM MEDIAL FORMeHAH MEDIAL FORMeKHAH MEDIAL FORM",
  "FD37aARABIC LIGATURE SHEEN WITH JEEM MEDIAL FORMeHAH MEDIAL FORMeKHAH MEDIAL FORM",
  "FD3AaARABIC LIGATURE TAH WITH MEEM MEDIAL FORMcZAH WITH MEEM MEDIAL FORM",
  "FD3CaARABIC LIGATURE ALEF WITH FATHATAN FINAL FORMfISOLATED FORMaORNATE LEFT PARENTHESIS",
  "FD3FaORNATE RIGHT PARENTHESISaARABIC LIGATURE RAHIMAHU ALLAAHcRADI ALLAAHU ANHeANHAAeANHUM",
  "FD44aARABIC LIGATURE RADI ALLAAHU ANHUMAAeANHUNNAcSALLALLAAHU ALAYHI WA-AALIHcALAYHI AS-SALAAM",
  "FD48aARABIC LIGATURE ALAYHIM AS-SALAAMcALAYHIMAA AS-SALAAMcALAYHI AS-SALAATU WAS-SALAAM",
  "FD4BaARABIC LIGATURE QUDDISA SIRRAHcSALLALLAHU ALAYHI WAAALIHEE WA-SALLAMcALAYHAA AS-SALAAM",
  "FD4EaARABIC LIGATURE TABAARAKA WA-TAAALAAcRAHIMAHUM ALLAAHcTEH WITH JEEM WITH MEEM INITIAL FORM",
  "FD51aARABIC LIGATURE TEH WITH HAH WITH JEEM FINAL FORMhINITIAL FORMgMEEM INITIAL FORM",
  "FD54aARABIC LIGATURE TEH WITH KHAH WITH MEEM INITIAL FORMeMEEM WITH JEEM INITIAL FORM",
  "FD56aARABIC LIGATURE TEH WITH MEEM WITH HAH INITIAL FORMgKHAH INITIAL FORM",
  "FD58aARABIC LIGATURE JEEM WITH MEEM WITH HAH FINAL FORMhINITIAL FORM",
  "FD5AaARABIC LIGATURE HAH WITH MEEM WITH YEH FINAL FORMgALEF MAKSURA FINAL FORM",
  "FD5CaARABIC LIGATURE SEEN WITH HAH WITH JEEM INITIAL FORMeJEEM WITH HAH INITIAL FORM",
  "FD5EaARABIC LIGATURE SEEN WITH JEEM WITH ALEF MAKSURA FINAL FORMeMEEM WITH HAH FINAL FORM",
  "FD60aARABIC LIGATURE SEEN WITH MEEM WITH HAH INITIAL FORMgJEEM INITIAL FORMgMEEM FINAL FORM",
  "FD63aARABIC LIGATURE SEEN WITH MEEM WITH MEEM INITIAL FORMcSAD WITH HAH WITH HAH FINAL FORM",
  "FD65aARABIC LIGATURE SAD WITH HAH WITH HAH INITIAL FORMeMEEM WITH MEEM FINAL FORM",
  "FD67aARABIC LIGATURE SHEEN WITH HAH WITH MEEM FINAL FORMhINITIAL FORMeJEEM WITH YEH FINAL FORM",
  "FD6AaARABIC LIGATURE SHEEN WITH MEEM WITH KHAH FINAL FORMhINITIAL FORMgMEEM FINAL FORM",
  "FD6DaARABIC LIGATURE SHEEN WITH MEEM WITH MEEM INITIAL FORM",
  "FD6EaARABIC LIGATURE DAD WITH HAH WITH ALEF MAKSURA FINAL FORMeKHAH WITH MEEM FINAL FORM",
  "FD70aARABIC LIGATURE DAD WITH KHAH WITH MEEM INITIAL FORMcTAH WITH MEEM WITH HAH FINAL FORM",
  "FD72aARABIC LIGATURE TAH WITH MEEM WITH HAH INITIAL FORMgMEEM INITIAL FORMgYEH FINAL FORM",
  "FD75aARABIC LIGATURE AIN WITH JEEM WITH MEEM FINAL FORMeMEEM WITH MEEM FINAL FORMhINITIAL FORM",
  "FD78aARABIC LIGATURE AIN WITH MEEM WITH ALEF MAKSURA FINAL FORM",
  "FD79aARABIC LIGATURE GHAIN WITH MEEM WITH MEEM FINAL FORMgYEH FINAL FORMgALEF MAKSURA FINAL FORM",
  "FD7CaARABIC LIGATURE FEH WITH KHAH WITH MEEM FINAL FORMhINITIAL FORM",
  "FD7EaARABIC LIGATURE QAF WITH MEEM WITH HAH FINAL FORMgMEEM FINAL FORM",
  "FD80aARABIC LIGATURE LAM WITH HAH WITH MEEM FINAL FORMgYEH FINAL FORMgALEF MAKSURA FINAL FORM",
  "FD83aARABIC LIGATURE LAM WITH JEEM WITH JEEM INITIAL FORMhFINAL FORMeKHAH WITH MEEM FINAL FORM",
  "FD86aARABIC LIGATURE LAM WITH KHAH WITH MEEM INITIAL FORMeMEEM WITH HAH FINAL FORMhINITIAL FORM",
  "FD89aARABIC LIGATURE MEEM WITH HAH WITH JEEM INITIAL FORMgMEEM INITIAL FORMgYEH FINAL FORM",
  "FD8CaARABIC LIGATURE MEEM WITH JEEM WITH HAH INITIAL FORMgMEEM INITIAL FORM",
  "FD8EaARABIC LIGATURE MEEM WITH KHAH WITH JEEM INITIAL FORMgMEEM INITIAL FORM",
  "FD92aARABIC LIGATURE MEEM WITH JEEM WITH KHAH INITIAL FORMcHEH WITH MEEM WITH JEEM INITIAL FORM",
  "FD94aARABIC LIGATURE HEH WITH MEEM WITH MEEM INITIAL FORMcNOON WITH HAH WITH MEEM INITIAL FORM",
  "FD96aARABIC LIGATURE NOON WITH HAH WITH ALEF MAKSURA FINAL FORMeJEEM WITH MEEM FINAL FORM",
  "FD98aARABIC LIGATURE NOON WITH JEEM WITH MEEM INITIAL FORMgALEF MAKSURA FINAL FORM",
  "FD9AaARABIC LIGATURE NOON WITH MEEM WITH YEH FINAL FORMgALEF MAKSURA FINAL FORM",
  "FD9CaARABIC LIGATURE YEH WITH MEEM WITH MEEM FINAL FORMhINITIAL FORM",
  "FD9EaARABIC LIGATURE BEH WITH KHAH WITH YEH FINAL FORMcTEH WITH JEEM WITH YEH FINAL FORM",
  "FDA0aARABIC LIGATURE TEH WITH JEEM WITH ALEF MAKSURA FINAL FORMeKHAH WITH YEH FINAL FORM",
  "FDA2aARABIC LIGATURE TEH WITH KHAH WITH ALEF MAKSURA FINAL FORMeMEEM WITH YEH FINAL FORM",
  "FDA4aARABIC LIGATURE TEH WITH MEEM WITH ALEF MAKSURA FINAL FORM",
  "FDA5aARABIC LIGATURE JEEM WITH MEEM WITH YEH FINAL FORMeHAH WITH ALEF MAKSURA FINAL FORM",
  "FDA7aARABIC LIGATURE JEEM WITH MEEM WITH ALEF MAKSURA FINAL FORM",
  "FDA8aARABIC LIGATURE SEEN WITH KHAH WITH ALEF MAKSURA FINAL FORM",
  "FDA9aARABIC LIGATURE SAD WITH HAH WITH YEH FINAL FORMcSHEEN WITH HAH WITH YEH FINAL FORM",
  "FDABaARABIC LIGATURE DAD WITH HAH WITH YEH FINAL FORMcLAM WITH JEEM WITH YEH FINAL FORM",
  "FDADaARABIC LIGATURE LAM WITH MEEM WITH YEH FINAL FORMcYEH WITH HAH WITH YEH FINAL FORM",
  "FDAFaARABIC LIGATURE YEH WITH JEEM WITH YEH FINAL FORMeMEEM WITH YEH FINAL FORM",
  "FDB1aARABIC LIGATURE MEEM WITH MEEM WITH YEH FINAL FORMcQAF WITH MEEM WITH YEH FINAL FORM",
  "FDB3aARABIC LIGATURE NOON WITH HAH WITH YEH FINAL FORMcQAF WITH MEEM WITH HAH INITIAL FORM",
  "FDB5aARABIC LIGATURE LAM WITH HAH WITH MEEM INITIAL FORMcAIN WITH MEEM WITH YEH FINAL FORM",
  "FDB7aARABIC LIGATURE KAF WITH MEEM WITH YEH FINAL FORMcNOON WITH JEEM WITH HAH INITIAL FORM",
  "FDB9aARABIC LIGATURE MEEM WITH KHAH WITH YEH FINAL FORMcLAM WITH JEEM WITH MEEM INITIAL FORM",
  "FDBBaARABIC LIGATURE KAF WITH MEEM WITH MEEM FINAL FORMcLAM WITH JEEM WITH MEEM FINAL FORM",
  "FDBDaARABIC LIGATURE NOON WITH JEEM WITH HAH FINAL FORMcJEEM WITH HAH WITH YEH FINAL FORM",
  "FDBFaARABIC LIGATURE HAH WITH JEEM WITH YEH FINAL FORMcMEEM WITH JEEM WITH YEH FINAL FORM",
  "FDC1aARABIC LIGATURE FEH WITH MEEM WITH YEH FINAL FORMcBEH WITH HAH WITH YEH FINAL FORM",
  "FDC3aARABIC LIGATURE KAF WITH MEEM WITH MEEM INITIAL FORMcAIN WITH JEEM WITH MEEM INITIAL FORM",
  "FDC5aARABIC LIGATURE SAD WITH MEEM WITH MEEM INITIAL FORMcSEEN WITH KHAH WITH YEH FINAL FORM",
  "FDC7aARABIC LIGATURE NOON WITH JEEM WITH YEH FINAL FORM",
  "FDCFaARABIC LIGATURE SALAAMUHU ALAYNAA",
  "FDF0aARABIC LIGATURE SALLA USED AS KORANIC STOP SIGN ISOLATED FORM",
  "FDF1aARABIC LIGATURE QALA USED AS KORANIC STOP SIGN ISOLATED FORMcALLAH ISOLATED FORM",
  "FDF3aARABIC LIGATURE AKBAR ISOLATED FORMcMOHAMMAD ISOLATED FORMcSALAM ISOLATED FORM",
  "FDF6aARABIC LIGATURE RASOUL ISOLATED FORMcALAYHE ISOLATED FORMcWASALLAM ISOLATED FORM",
  "FDF9aARABIC LIGATURE SALLA ISOLATED FORMcSALLALLAHOU ALAYHE WASALLAMcJALLAJALALOUHOUaRIAL SIGN",
  "FDFDaARABIC LIGATURE BISMILLAH AR-RAHMAN AR-RAHEEMcSUBHAANAHU WA TAAALAAcAZZA WA JALL",
  "FE00aVARIATION SELECTOR-1bSELECTOR-2bSELECTOR-3bSELECTOR-4bSELECTOR-5bSELECTOR-6bSELECTOR-7",
  "FE07aVARIATION SELECTOR-8bSELECTOR-9bSELECTOR-10bSELECTOR-11bSELECTOR-12bSELECTOR-13bSELECTOR-14",
  "FE0EaVARIATION SELECTOR-15bSELECTOR-16aPRESENTATION FORM FOR VERTICAL COMMAeIDEOGRAPHIC COMMA",
  "FE12aPRESENTATION FORM FOR VERTICAL IDEOGRAPHIC FULL STOPeCOLONeSEMICOLONeEXCLAMATION MARK",
  "FE16aPRESENTATION FORM FOR VERTICAL QUESTION MARKeLEFT WHITE LENTICULAR BRACKET",
  "FE18aPRESENTATION FORM FOR VERTICAL RIGHT WHITE LENTICULAR BRAKCETeHORIZONTAL ELLIPSIS",
  "FE20aCOMBINING LIGATURE LEFT HALFcRIGHT HALFbDOUBLE TILDE LEFT HALFdRIGHT HALFbMACRON LEFT HALF",
  "FE25aCOMBINING MACRON RIGHT HALFbCONJOINING MACRONbLIGATURE LEFT HALF BELOWcRIGHT HALF BELOW",
  "FE29aCOMBINING TILDE LEFT HALF BELOWcRIGHT HALF BELOWbMACRON LEFT HALF BELOWcRIGHT HALF BELOW",
  "FE2DaCOMBINING CONJOINING MACRON BELOWbCYRILLIC TITLO LEFT HALFdRIGHT HALF",
  "FE30aPRESENTATION FORM FOR VERTICAL TWO DOT LEADEReEM DASHeEN DASHeLOW LINEeWAVY LOW LINE",
  "FE35aPRESENTATION FORM FOR VERTICAL LEFT PARENTHESISeRIGHT PARENTHESISeLEFT CURLY BRACKET",
  "FE38aPRESENTATION FORM FOR VERTICAL RIGHT CURLY BRACKETeLEFT TORTOISE SHELL BRACKET",
  "FE3AaPRESENTATION FORM FOR VERTICAL RIGHT TORTOISE SHELL BRACKETeLEFT BLACK LENTICULAR BRACKET",
  "FE3CaPRESENTATION FORM FOR VERTICAL RIGHT BLACK LENTICULAR BRACKETeLEFT DOUBLE ANGLE BRACKET",
  "FE3EaPRESENTATION FORM FOR VERTICAL RIGHT DOUBLE ANGLE BRACKETeLEFT ANGLE BRACKET",
  "FE40aPRESENTATION FORM FOR VERTICAL RIGHT ANGLE BRACKETeLEFT CORNER BRACKETeRIGHT CORNER BRACKET",
  "FE43aPRESENTATION FORM FOR VERTICAL LEFT WHITE CORNER BRACKETeRIGHT WHITE CORNER BRACKET",
  "FE45aSESAME DOTaWHITE SESAME DOTaPRESENTATION FORM FOR VERTICAL LEFT SQUARE BRACKET",
  "FE48aPRESENTATION FORM FOR VERTICAL RIGHT SQUARE BRACKETaDASHED OVERLINEaCENTRELINE OVERLINE",
  "FE4BaWAVY OVERLINEaDOUBLE WAVY OVERLINEaDASHED LOW LINEaCENTRELINE LOW LINEaWAVY LOW LINE",
  "FE50aSMALL COMMAbIDEOGRAPHIC COMMAbFULL STOP",
  "FE54aSMALL SEMICOLONbCOLONbQUESTION MARKbEXCLAMATION MARKbEM DASHbLEFT PARENTHESIS",
  "FE5AaSMALL RIGHT PARENTHESISbLEFT CURLY BRACKETbRIGHT CURLY BRACKETbLEFT TORTOISE SHELL BRACKET",
  "FE5EaSMALL RIGHT TORTOISE SHELL BRACKETbNUMBER SIGNbAMPERSANDbASTERISKbPLUS SIGNbHYPHEN-MINUS",
  "FE64aSMALL LESS-THAN SIGNbGREATER-THAN SIGNbEQUALS SIGN",
  "FE68aSMALL REVERSE SOLIDUSbDOLLAR SIGNbPERCENT SIGNbCOMMERCIAL AT",
  "FE70aARABIC FATHATAN ISOLATED FORMbTATWEEL WITH FATHATAN ABOVEbDAMMATAN ISOLATED FORM",
  "FE73aARABIC TAIL FRAGMENTbKASRATAN ISOLATED FORM",
  "FE76aARABIC FATHA ISOLATED FORMcMEDIAL FORMbDAMMA ISOLATED FORMcMEDIAL FORMbKASRA ISOLATED FORM",
  "FE7BaARABIC KASRA MEDIAL FORMbSHADDA ISOLATED FORMcMEDIAL FORMbSUKUN ISOLATED FORMcMEDIAL FORM",
  "FE80aARABIC LETTER HAMZA ISOLATED FORMcALEF WITH MADDA ABOVE ISOLATED FORMgFINAL FORM",
  "FE83aARABIC LETTER ALEF WITH HAMZA ABOVE ISOLATED FORMgFINAL FORM",
  "FE85aARABIC LETTER WAW WITH HAMZA ABOVE ISOLATED FORMgFINAL FORM",
  "FE87aARABIC LETTER ALEF WITH HAMZA BELOW ISOLATED FORMgFINAL FORM",
  "FE89aARABIC LETTER YEH WITH HAMZA ABOVE ISOLATED FORMgFINAL FORMgINITIAL FORMgMEDIAL FORM",
  "FE8DaARABIC LETTER ALEF ISOLATED FORMdFINAL FORMcBEH ISOLATED FORMdFINAL FORMdINITIAL FORM",
  "FE92aARABIC LETTER BEH MEDIAL FORMcTEH MARBUTA ISOLATED FORMeFINAL FORMdISOLATED FORMdFINAL FORM",
  "FE97aARABIC LETTER TEH INITIAL FORMdMEDIAL FORMcTHEH ISOLATED FORMdFINAL FORMdINITIAL FORM",
  "FE9CaARABIC LETTER THEH MEDIAL FORMcJEEM ISOLATED FORMdFINAL FORMdINITIAL FORMdMEDIAL FORM",
  "FEA1aARABIC LETTER HAH ISOLATED FORMdFINAL FORMdINITIAL FORMdMEDIAL FORMcKHAH ISOLATED FORM",
  "FEA6aARABIC LETTER KHAH FINAL FORMdINITIAL FORMdMEDIAL FORMcDAL ISOLATED FORMdFINAL FORM",
  "FEABaARABIC LETTER THAL ISOLATED FORMdFINAL FORMcREH ISOLATED FORMdFINAL FORMcZAIN ISOLATED FORM",
  "FEB0aARABIC LETTER ZAIN FINAL FORMcSEEN ISOLATED FORMdFINAL FORMdINITIAL FORMdMEDIAL FORM",
  "FEB5aARABIC LETTER SHEEN ISOLATED FORMdFINAL FORMdINITIAL FORMdMEDIAL FORMcSAD ISOLATED FORM",
  "FEBAaARABIC LETTER SAD FINAL FORMdINITIAL FORMdMEDIAL FORMcDAD ISOLATED FORMdFINAL FORM",
  "FEBFaARABIC LETTER DAD INITIAL FORMdMEDIAL FORMcTAH ISOLATED FORMdFINAL FORMdINITIAL FORM",
  "FEC4aARABIC LETTER TAH MEDIAL FORMcZAH ISOLATED FORMdFINAL FORMdINITIAL FORMdMEDIAL FORM",
  "FEC9aARABIC LETTER AIN ISOLATED FORMdFINAL FORMdINITIAL FORMdMEDIAL FORMcGHAIN ISOLATED FORM",
  "FECEaARABIC LETTER GHAIN FINAL FORMdINITIAL FORMdMEDIAL FORMcFEH ISOLATED FORMdFINAL FORM",
  "FED3aARABIC LETTER FEH INITIAL FORMdMEDIAL FORMcQAF ISOLATED FORMdFINAL FORMdINITIAL FORM",
  "FED8aARABIC LETTER QAF MEDIAL FORMcKAF ISOLATED FORMdFINAL FORMdINITIAL FORMdMEDIAL FORM",
  "FEDDaARABIC LETTER LAM ISOLATED FORMdFINAL FORMdINITIAL FORMdMEDIAL FORMcMEEM ISOLATED FORM",
  "FEE2aARABIC LETTER MEEM FINAL FORMdINITIAL FORMdMEDIAL FORMcNOON ISOLATED FORMdFINAL FORM",
  "FEE7aARABIC LETTER NOON INITIAL FORMdMEDIAL FORMcHEH ISOLATED FORMdFINAL FORMdINITIAL FORM",
  "FEECaARABIC LETTER HEH MEDIAL FORMcWAW ISOLATED FORMdFINAL FORMcALEF MAKSURA ISOLATED FORM",
  "FEF0aARABIC LETTER ALEF MAKSURA FINAL FORMcYEH ISOLATED FORMdFINAL FORMdINITIAL FORMdMEDIAL FORM",
  "FEF5aARABIC LIGATURE LAM WITH ALEF WITH MADDA ABOVE ISOLATED FORMiFINAL FORM",
  "FEF7aARABIC LIGATURE LAM WITH ALEF WITH HAMZA ABOVE ISOLATED FORMiFINAL FORMhBELOW ISOLATED FORM",
  "FEFAaARABIC LIGATURE LAM WITH ALEF WITH HAMZA BELOW FINAL FORMfISOLATED FORMfFINAL FORM",
  "FEFFaZERO WIDTH NO-BREAK SPACE",
  "FF01aFULLWIDTH EXCLAMATION MARKbQUOTATION MARKbNUMBER SIGNbDOLLAR SIGNbPERCENT SIGNbAMPERSAND",
  "FF07aFULLWIDTH APOSTROPHEbLEFT PARENTHESISbRIGHT PARENTHESISbASTERISKbPLUS SIGNbCOMMA",
  "FF0DaFULLWIDTH HYPHEN-MINUSbFULL STOPbSOLIDUSbDIGIT ZEROcONEcTWOcTHREEcFOURcFIVEcSIXcSEVENcEIGHT",
  "FF19aFULLWIDTH DIGIT NINEbCOLONbSEMICOLONbLESS-THAN SIGNbEQUALS SIGNbGREATER-THAN SIGN",
  "FF1FaFULLWIDTH QUESTION MARKbCOMMERCIAL ATbLATIN CAPITAL LETTER AeBeCeDeEeFeGeHeIeJeKeLeMeNeOeP",
  "FF31aFULLWIDTH LATIN CAPITAL LETTER QeReSeTeUeVeWeXeYeZbLEFT SQUARE BRACKETbREVERSE SOLIDUS",
  "FF3DaFULLWIDTH RIGHT SQUARE BRACKETbCIRCUMFLEX ACCENTbLOW LINEbGRAVE ACCENTbLATIN SMALL LETTER A",
  "FF42aFULLWIDTH LATIN SMALL LETTER BeCeDeEeFeGeHeIeJeKeLeMeNeOePeQeReSeTeUeVeWeXeYeZ",
  "FF5BaFULLWIDTH LEFT CURLY BRACKETbVERTICAL LINEbRIGHT CURLY BRACKETbTILDEbLEFT WHITE PARENTHESIS",
  "FF60aFULLWIDTH RIGHT WHITE PARENTHESISaHALFWIDTH IDEOGRAPHIC FULL STOPbLEFT CORNER BRACKET",
  "FF63aHALFWIDTH RIGHT CORNER BRACKETbIDEOGRAPHIC COMMAbKATAKANA MIDDLE DOTcLETTER WOdSMALL AeIeU",
  "FF6AaHALFWIDTH KATAKANA LETTER SMALL EeOeYAeYUeYOeTUbKATAKANA-HIRAGANA PROLONGED SOUND MARK",
  "FF71aHALFWIDTH KATAKANA LETTER AdIdUdEdOdKAdKIdKUdKEdKOdSAdSIdSUdSEdSOdTAdTIdTUdTEdTOdNAdNIdNU",
  "FF88aHALFWIDTH KATAKANA LETTER NEdNOdHAdHIdHUdHEdHOdMAdMIdMUdMEdMOdYAdYUdYOdRAdRIdRUdREdROdWAdN",
  "FF9EaHALFWIDTH KATAKANA VOICED SOUND MARKcSEMI-VOICED SOUND MARKbHANGUL FILLERcLETTER KIYEOK",
  "FFA2aHALFWIDTH HANGUL LETTER SSANGKIYEOKdKIYEOK-SIOSdNIEUNdNIEUN-CIEUCdNIEUN-HIEUHdTIKEUT",
  "FFA8aHALFWIDTH HANGUL LETTER SSANGTIKEUTdRIEULdRIEUL-KIYEOKdRIEUL-MIEUMdRIEUL-PIEUPdRIEUL-SIOS",
  "FFAEaHALFWIDTH HANGUL LETTER RIEUL-THIEUTHdRIEUL-PHIEUPHdRIEUL-HIEUHdMIEUMdPIEUPdSSANGPIEUP",
  "FFB4aHALFWIDTH HANGUL LETTER PIEUP-SIOSdSIOSdSSANGSIOSdIEUNGdCIEUCdSSANGCIEUCdCHIEUCHdKHIEUKH",
  "FFBCaHALFWIDTH HANGUL LETTER THIEUTHdPHIEUPHdHIEUH",
  "FFC2aHALFWIDTH HANGUL LETTER AdAEdYAdYAEdEOdE",
  "FFCAaHALFWIDTH HANGUL LETTER YEOdYEdOdWAdWAEdOE",
  "FFD2aHALFWIDTH HANGUL LETTER YOdUdWEOdWEdWIdYU",
  "FFDAaHALFWIDTH HANGUL LETTER EUdYIdI",
  "FFE0aFULLWIDTH CENT SIGNbPOUND SIGNbNOT SIGNbMACRONbBROKEN BARbYEN SIGNbWON SIGN",
  "FFE8aHALFWIDTH FORMS LIGHT VERTICALbLEFTWARDS ARROWbUPWARDS ARROWbRIGHTWARDS ARROW",
  "FFECaHALFWIDTH DOWNWARDS ARROWbBLACK SQUAREbWHITE CIRCLE",
  "FFF9aINTERLINEAR ANNOTATION ANCHORcSEPARATORcTERMINATORaOBJECT REPLACEMENT CHARACTER",
  "FFFDaREPLACEMENT CHARACTER",
  "10000aLINEAR B SYLLABLE B008 AdB038 EdB028 IdB061 OdB010 UdB001 DAdB045 DEdB007 DIdB014 DO",
  "10009aLINEAR B SYLLABLE B051 DUdB057 JAdB046 JE",
  "1000DaLINEAR B SYLLABLE B036 JOdB065 JUdB077 KAdB044 KEdB067 KIdB070 KOdB081 KUdB080 MAdB013 ME",
  "10016aLINEAR B SYLLABLE B073 MIdB015 MOdB023 MUdB006 NAdB024 NEdB030 NIdB052 NOdB055 NUdB003 PA",
  "1001FaLINEAR B SYLLABLE B072 PEdB039 PIdB011 POdB050 PUdB016 QAdB078 QEdB021 QIdB032 QO",
  "10028aLINEAR B SYLLABLE B060 RAdB027 REdB053 RIdB002 ROdB026 RUdB031 SAdB009 SEdB041 SIdB012 SO",
  "10031aLINEAR B SYLLABLE B058 SUdB059 TAdB004 TEdB037 TIdB005 TOdB069 TUdB054 WAdB075 WEdB040 WI",
  "1003AaLINEAR B SYLLABLE B042 WO",
  "1003CaLINEAR B SYLLABLE B017 ZAdB074 ZE",
  "1003FaLINEAR B SYLLABLE B020 ZOdB025 A2dB043 A3dB085 AUdB071 DWEdB090 DWOdB048 NWAdB029 PU2",
  "10047aLINEAR B SYLLABLE B062 PTEdB076 RA2dB033 RA3dB068 RO2dB066 TA2dB087 TWEdB091 TWO",
  "10050aLINEAR B SYMBOL B018dB019dB022dB034dB047dB049dB056dB063dB064dB079dB082dB083dB086dB089",
  "10080aLINEAR B IDEOGRAM B100 MANdB102 WOMANdB104 DEERdB105 EQUIDdB105F MAREdB105M STALLION",
  "10086aLINEAR B IDEOGRAM B106F EWEdB106M RAMdB107F SHE-GOATdB107M HE-GOATdB108F SOWdB108M BOAR",
  "1008CaLINEAR B IDEOGRAM B109F COWdB109M BULLdB120 WHEATdB121 BARLEYdB122 OLIVEdB123 SPICE",
  "10092aLINEAR B IDEOGRAM B125 CYPERUScMONOGRAM B127 KAPOdB128 KANAKOcIDEOGRAM B130 OILdB131 WINE",
  "10097aLINEAR B IDEOGRAM B132cMONOGRAM B133 AREPAdB135 MERIcIDEOGRAM B140 BRONZEdB141 GOLDdB142",
  "1009DaLINEAR B IDEOGRAM B145 WOOLdB146dB150dB151 HORNdB152dB153dB154cMONOGRAM B156 TURO2",
  "100A5aLINEAR B IDEOGRAM B157dB158dB159 CLOTHdB160dB161dB162 GARMENTdB163 ARMOURdB164dB165dB166",
  "100AFaLINEAR B IDEOGRAM B167dB168dB169dB170dB171dB172dB173 MONTHdB174dB176 TREEdB177dB178dB179",
  "100BBaLINEAR B IDEOGRAM B180dB181dB182dB183dB184dB185dB189dB190dB191 HELMETdB220 FOOTSTOOL",
  "100C5aLINEAR B IDEOGRAM B225 BATHTUBdB230 SPEARdB231 ARROWdB232dB233 SWORDdB234dB236",
  "100CCaLINEAR B IDEOGRAM B240 WHEELED CHARIOTdB241 CHARIOTdB242 CHARIOT FRAMEdB243 WHEELdB245",
  "100D1aLINEAR B IDEOGRAM B246cMONOGRAM B247 DIPTEcIDEOGRAM B248dB249dB251dB252dB253dB254 DART",
  "100D9aLINEAR B IDEOGRAM B255dB256dB257dB258dB259dVESSEL B155eB200eB201eB202eB203eB204eB205eB206",
  "100E6aLINEAR B IDEOGRAM VESSEL B207eB208eB209eB210eB211eB212eB213eB214eB215eB216eB217eB218eB219",
  "100F3aLINEAR B IDEOGRAM VESSEL B221eB222eB226eB227eB228eB229eB250eB305",
  "10100aAEGEAN WORD SEPARATOR LINEdDOTbCHECK MARK",
  "10107aAEGEAN NUMBER ONEcTWOcTHREEcFOURcFIVEcSIXcSEVENcEIGHTcNINEcTENcTWENTYcTHIRTYcFORTYcFIFTY",
  "10115aAEGEAN NUMBER SIXTYcSEVENTYcEIGHTYcNINETYcONE HUNDREDcTWO HUNDREDcTHREE HUNDRED",
  "1011CaAEGEAN NUMBER FOUR HUNDREDcFIVE HUNDREDcSIX HUNDREDcSEVEN HUNDREDcEIGHT HUNDRED",
  "10121aAEGEAN NUMBER NINE HUNDREDcONE THOUSANDcTWO THOUSANDcTHREE THOUSANDcFOUR THOUSAND",
  "10126aAEGEAN NUMBER FIVE THOUSANDcSIX THOUSANDcSEVEN THOUSANDcEIGHT THOUSANDcNINE THOUSAND",
  "1012BaAEGEAN NUMBER TEN THOUSANDcTWENTY THOUSANDcTHIRTY THOUSANDcFORTY THOUSANDcFIFTY THOUSAND",
  "10130aAEGEAN NUMBER SIXTY THOUSANDcSEVENTY THOUSANDcEIGHTY THOUSANDcNINETY THOUSAND",
  "10137aAEGEAN WEIGHT BASE UNITcFIRST SUBUNITcSECOND SUBUNITcTHIRD SUBUNITcFOURTH SUBUNIT",
  "1013CaAEGEAN DRY MEASURE FIRST SUBUNITbLIQUID MEASURE FIRST SUBUNITbMEASURE SECOND SUBUNIT",
  "1013FaAEGEAN MEASURE THIRD SUBUNITaGREEK ACROPHONIC ATTIC ONE QUARTEReHALFeDRACHMAdFIVEdFIFTY",
  "10145aGREEK ACROPHONIC ATTIC FIVE HUNDREDeTHOUSANDdFIFTY THOUSANDdFIVE TALENTSdTEN TALENTS",
  "1014AaGREEK ACROPHONIC ATTIC FIFTY TALENTSdONE HUNDRED TALENTSdFIVE HUNDRED TALENTS",
  "1014DaGREEK ACROPHONIC ATTIC ONE THOUSAND TALENTSdFIVE THOUSAND TALENTSeSTATERSdTEN STATERS",
  "10151aGREEK ACROPHONIC ATTIC FIFTY STATERSdONE HUNDRED STATERSdFIVE HUNDRED STATERS",
  "10154aGREEK ACROPHONIC ATTIC ONE THOUSAND STATERSdTEN THOUSAND STATERSdFIFTY THOUSAND STATERS",
  "10157aGREEK ACROPHONIC ATTIC TEN MNAScHERAEUM ONE PLETHRONcTHESPIAN ONEcHERMIONIAN ONE",
  "1015BaGREEK ACROPHONIC EPIDAUREAN TWOcTHESPIAN TWOcCYRENAIC TWO DRACHMAScEPIDAUREAN TWO DRACHMAS",
  "1015FaGREEK ACROPHONIC TROEZENIAN FIVEdTENeALTERNATE FORMcHERMIONIAN TENcMESSENIAN TEN",
  "10164aGREEK ACROPHONIC THESPIAN TENdTHIRTYcTROEZENIAN FIFTYeALTERNATE FORMcHERMIONIAN FIFTY",
  "10169aGREEK ACROPHONIC THESPIAN FIFTYdONE HUNDREDdTHREE HUNDREDcEPIDAUREAN FIVE HUNDRED",
  "1016DaGREEK ACROPHONIC TROEZENIAN FIVE HUNDREDcTHESPIAN FIVE HUNDREDcCARYSTIAN FIVE HUNDRED",
  "10170aGREEK ACROPHONIC NAXIAN FIVE HUNDREDcTHESPIAN ONE THOUSANDdFIVE THOUSANDcDELPHIC FIVE MNAS",
  "10174aGREEK ACROPHONIC STRATIAN FIFTY MNASbONE HALF SIGNeALTERNATE FORMbTWO THIRDS SIGN",
  "10178aGREEK THREE QUARTERS SIGNbYEAR SIGNbTALENT SIGNbDRACHMA SIGNbOBOL SIGNbTWO OBOLS SIGN",
  "1017EaGREEK THREE OBOLS SIGNbFOUR OBOLS SIGNbFIVE OBOLS SIGNbMETRETES SIGNbKYATHOS BASE SIGN",
  "10183aGREEK LITRA SIGNbOUNKIA SIGNbXESTES SIGNbARTABE SIGNbAROURA SIGNbGRAMMA SIGN",
  "10189aGREEK TRYBLION BASE SIGNbZERO SIGNbONE QUARTER SIGNbSINUSOID SIGNbINDICTION SIGN",
  "1018EaNOMISMA SIGN",
  "10190aROMAN SEXTANS SIGNbUNCIA SIGNbSEMUNCIA SIGNbSEXTULA SIGNbDIMIDIA SEXTULA SIGNbSILIQUA SIGN",
  "10196aROMAN DENARIUS SIGNbQUINARIUS SIGNbSESTERTIUS SIGNbDUPONDIUS SIGNbAS SIGNbCENTURIAL SIGN",
  "1019CaASCIA SYMBOL",
  "101A0aGREEK SYMBOL TAU RHO",
  "101D0aPHAISTOS DISC SIGN PEDESTRIANdPLUMED HEADdTATTOOED HEADdCAPTIVEdCHILDdWOMANdHELMET",
  "101D7aPHAISTOS DISC SIGN GAUNTLETdTIARAdARROWdBOWdSHIELDdCLUBdMANACLESdMATTOCKdSAWdLIDdBOOMERANG",
  "101E2aPHAISTOS DISC SIGN CARPENTRY PLANEdDOLIUMdCOMBdSLINGdCOLUMNdBEEHIVEdSHIPdHORNdHIDE",
  "101EBaPHAISTOS DISC SIGN BULLS LEGdCATdRAMdEAGLEdDOVEdTUNNYdBEEdPLANE TREEdVINEdPAPYRUSdROSETTE",
  "101F6aPHAISTOS DISC SIGN LILYdOX BACKdFLUTEdGRATERdSTRAINERdSMALL AXEdWAVY BAND",
  "101FDaPHAISTOS DISC SIGN COMBINING OBLIQUE STROKE",
  "10280aLYCIAN LETTER AcEcBcBHcGcDcIcWcZcTHcJcKcQcLcMcNcMMcNNcUcPcKKcRcScTcTTcANcENcHcX",
  "102A0aCARIAN LETTER AcP2cDcLcUUUcRcLDcA2cQcBcMcOcD2cTcSHcSH2cScC-18cUcNNcXcNcTT2cPcSScIcEcUUUUcK",
  "102BDaCARIAN LETTER K2cNDcUUcGcG2cSTcST2cNGcIIcC-39cTTcUUU2cRRcMBcMB2cMB3cMB4cLD2cE2cUUU3",
  "102E0aCOPTIC EPACT THOUSANDS MARKcDIGIT ONEdTWOdTHREEdFOURdFIVEdSIXdSEVENdEIGHTdNINEcNUMBER TEN",
  "102EBaCOPTIC EPACT NUMBER TWENTYdTHIRTYdFORTYdFIFTYdSIXTYdSEVENTYdEIGHTYdNINETYdONE HUNDRED",
  "102F4aCOPTIC EPACT NUMBER TWO HUNDREDdTHREE HUNDREDdFOUR HUNDREDdFIVE HUNDREDdSIX HUNDRED",
  "102F9aCOPTIC EPACT NUMBER SEVEN HUNDREDdEIGHT HUNDREDdNINE HUNDRED",
  "10300aOLD ITALIC LETTER AdBEdKEdDEdEdVEdZEdHEdTHEdIdKAdELdEMdENdESHdOdPEdSHEdKUdERdESdTEdUdEKS",
  "10318aOLD ITALIC LETTER PHEdKHEdEFdERSdCHEdIIdUUdESScNUMERAL ONEdFIVEdTENdFIFTY",
  "1032DaOLD ITALIC LETTER YEdNORTHERN TSEdSOUTHERN TSEaGOTHIC LETTER AHSAcBAIRKANcGIBAcDAGScAIHVUS",
  "10335aGOTHIC LETTER QAIRTHRAcIUJAcHAGLcTHIUTHcEIScKUSMAcLAGUScMANNAcNAUTHScJERcURUScPAIRTHRA",
  "10341aGOTHIC LETTER NINETYcRAIDAcSAUILcTEIWScWINJAcFAIHUcIGGWScHWAIRcOTHALcNINE HUNDRED",
  "10350aOLD PERMIC LETTER ANdBURdGAIdDOIdEdZHOIdDZHOIdZATAdDZITAdIdKOKEdLEIdMENOEdNENOEdVOOIdPEEI",
  "10360aOLD PERMIC LETTER REIdSIIdTAIdUdCHERYdSHOOIdSHCHOOIdYRYdYERUdOdOOdEFdHAdTSIUdVERdYERdYERI",
  "10371aOLD PERMIC LETTER YATdIEdYUdYAdIAaCOMBINING OLD PERMIC LETTER ANeDOIeZATAeNENOEeSII",
  "10380aUGARITIC LETTER ALPAcBETAcGAMLAcKHAcDELTAcHOcWOcZETAcHOTAcTETcYODcKAFcSHINcLAMDAcMEMcDHAL",
  "10390aUGARITIC LETTER NUNcZUcSAMKAcAINcPUcSADEcQOPAcRASHAcTHANNAcGHAINcTOcIcUcSSU",
  "1039FaUGARITIC WORD DIVIDERaOLD PERSIAN SIGN AdIdUdKAdKUdGAdGUdXAdCAdJAdJIdTAdTUdDAdDIdDUdTHAdPA",
  "103B2aOLD PERSIAN SIGN BAdFAdNAdNUdMAdMIdMUdYAdVAdVIdRAdRUdLAdSAdZAdSHAdSSAdHA",
  "103C8aOLD PERSIAN SIGN AURAMAZDAAdAURAMAZDAA-2dAURAMAZDAAHAdXSHAAYATHIYAdDAHYAAUSHdDAHYAAUSH-2",
  "103CEaOLD PERSIAN SIGN BAGAdBUUMISHcWORD DIVIDERcNUMBER ONEdTWOdTENdTWENTYdHUNDRED",
  "10400aDESERET CAPITAL LETTER LONG IeEeAeAHeOeOOdSHORT IeEeAeAHeOeOOdAYdOWdWUdYEEdHdPEEdBEEdTEE",
  "10414aDESERET CAPITAL LETTER DEEdCHEEdJEEdKAYdGAYdEFdVEEdETHdTHEEdESdZEEdESHdZHEEdERdELdEMdEN",
  "10425aDESERET CAPITAL LETTER ENGdOIdEWbSMALL LETTER LONG IeEeAeAHeOeOOdSHORT IeEeAeAHeOeOOdAYdOW",
  "10436aDESERET SMALL LETTER WUdYEEdHdPEEdBEEdTEEdDEEdCHEEdJEEdKAYdGAYdEFdVEEdETHdTHEEdESdZEEdESH",
  "10448aDESERET SMALL LETTER ZHEEdERdELdEMdENdENGdOIdEWaSHAVIAN LETTER PEEPcTOTcKICKcFEEcTHIGHcSO",
  "10456aSHAVIAN LETTER SUREcCHURCHcYEAcHUNGcBIBcDEADcGAGcVOWcTHEYcZOOcMEASUREcJUDGEcWOEcHA-HAcLOLL",
  "10465aSHAVIAN LETTER MIMEcIFcEGGcASHcADOcONcWOOLcOUTcAHcROARcNUNcEATcAGEcICEcUPcOAKcOOZEcOILcAWE",
  "10478aSHAVIAN LETTER AREcORcAIRcERRcARRAYcEARcIANcYEWaOSMANYA LETTER ALEFcBAcTAcJAcXAcKHAcDEEL",
  "10487aOSMANYA LETTER RAcSAcSHIINcDHAcCAYNcGAcFAcQAAFcKAAFcLAANcMIINcNUUNcWAWcHAcYAcAcEcIcOcUcAA",
  "1049CaOSMANYA LETTER EEcOO",
  "104A0aOSMANYA DIGIT ZEROcONEcTWOcTHREEcFOURcFIVEcSIXcSEVENcEIGHTcNINE",
  "104B0aOSAGE CAPITAL LETTER AdAIdAINdAHdBRAdCHAdEHCHAdEdEINdHAdHYAdIdKAdEHKAdKYAdLAdMAdNAdOdOIN",
  "104C4aOSAGE CAPITAL LETTER PAdEHPAdSAdSHAdTAdEHTAdTSAdEHTSAdTSHAdDHAdUdWAdKHAdGHAdZAdZHA",
  "104D8aOSAGE SMALL LETTER AdAIdAINdAHdBRAdCHAdEHCHAdEdEINdHAdHYAdIdKAdEHKAdKYAdLAdMAdNAdOdOINdPA",
  "104EDaOSAGE SMALL LETTER EHPAdSAdSHAdTAdEHTAdTSAdEHTSAdTSHAdDHAdUdWAdKHAdGHAdZAdZHA",
  "10500aELBASAN LETTER AcBEcCEcCHEcDEcNDEcDHEcEIcEcFEcGEcGJEcHEcIcJEcKEcLEcLLEcMEcNEcNAcNJEcOcPE",
  "10518aELBASAN LETTER QEcREcRREcSEcSHEcTEcTHEcUcVEcXEcYcZEcZHEcGHEcGHAMMAcKHE",
  "10530aCAUCASIAN ALBANIAN LETTER ALTdBETdGIMdDATdEBdZARLdEYNdZHILdTASdCHAdYOWDdZHAdIRBdSHAdLAN",
  "1053FaCAUCASIAN ALBANIAN LETTER INYAdXEYNdDYANdCARdJHOXdKARdLYITdHEYTdQAYdAORdCHOYdCHIdCYAYdMAQ",
  "1054DaCAUCASIAN ALBANIAN LETTER QARdNOWCdDZYAYdSHAKdJAYNdONdTYAYdFAMdDZAYdCHATdPENdGHEYSdRAT",
  "1055AaCAUCASIAN ALBANIAN LETTER SEYKdVEYZdTIWRdSHOYdIWNdCYAWdCAYNdYAYDdPIWRdKIW",
  "1056FaCAUCASIAN ALBANIAN CITATION MARKaVITHKUQI CAPITAL LETTER AdBBEdBEdCEdCHEdDEdDHEdEIdEdFEdGA",
  "1057CaVITHKUQI CAPITAL LETTER HAdHHAdIdIJEdJEdKAdLAdLLAdMEdNEdNJEdOdPEdQAdRE",
  "1058CaVITHKUQI CAPITAL LETTER SEdSHEdTEdTHEdUdVEdXE",
  "10594aVITHKUQI CAPITAL LETTER YdZE",
  "10597aVITHKUQI SMALL LETTER AdBBEdBEdCEdCHEdDEdDHEdEIdEdFEdGA",
  "105A3aVITHKUQI SMALL LETTER HAdHHAdIdIJEdJEdKAdLAdLLAdMEdNEdNJEdOdPEdQAdRE",
  "105B3aVITHKUQI SMALL LETTER SEdSHEdTEdTHEdUdVEdXE",
  "105BBaVITHKUQI SMALL LETTER YdZE",
  "10600aLINEAR A SIGN AB001dAB002dAB003dAB004dAB005dAB006dAB007dAB008dAB009dAB010dAB011dAB013",
  "1060CaLINEAR A SIGN AB016dAB017dAB020dAB021dAB021FdAB021MdAB022dAB022FdAB022MdAB023dAB023MdAB024",
  "10618aLINEAR A SIGN AB026dAB027dAB028dA028BdAB029dAB030dAB031dAB034dAB037dAB038dAB039dAB040",
  "10624aLINEAR A SIGN AB041dAB044dAB045dAB046dAB047dAB048dAB049dAB050dAB051dAB053dAB054dAB055",
  "10630aLINEAR A SIGN AB056dAB057dAB058dAB059dAB060dAB061dAB065dAB066dAB067dAB069dAB070dAB073",
  "1063CaLINEAR A SIGN AB074dAB076dAB077dAB078dAB079dAB080dAB081dAB082dAB085dAB086dAB087dA100-102",
  "10648aLINEAR A SIGN AB118dAB120dA120BdAB122dAB123dAB131AdAB131BdA131CdAB164dAB171dAB180dAB188",
  "10654aLINEAR A SIGN AB191dA301dA302dA303dA304dA305dA306dA307dA308dA309AdA309BdA309CdA310dA311",
  "10662aLINEAR A SIGN A312dA313AdA313BdA313CdA314dA315dA316dA317dA318dA319dA320dA321dA322dA323",
  "10670aLINEAR A SIGN A324dA325dA326dA327dA328dA329dA330dA331dA332dA333dA334dA335dA336dA337dA338",
  "1067FaLINEAR A SIGN A339dA340dA341dA342dA343dA344dA345dA346dA347dA348dA349dA350dA351dA352dA353",
  "1068EaLINEAR A SIGN A354dA355dA356dA357dA358dA359dA360dA361dA362dA363dA364dA365dA366dA367dA368",
  "1069DaLINEAR A SIGN A369dA370dA371dA400-VASdA401-VASdA402-VASdA403-VASdA404-VASdA405-VAS",
  "106A6aLINEAR A SIGN A406-VASdA407-VASdA408-VASdA409-VASdA410-VASdA411-VASdA412-VASdA413-VAS",
  "106AEaLINEAR A SIGN A414-VASdA415-VASdA416-VASdA417-VASdA418-VASdA501dA502dA503dA504dA505dA506",
  "106B9aLINEAR A SIGN A508dA509dA510dA511dA512dA513dA515dA516dA520dA521dA523dA524dA525dA526dA527",
  "106C8aLINEAR A SIGN A528dA529dA530dA531dA532dA534dA535dA536dA537dA538dA539dA540dA541dA542dA545",
  "106D7aLINEAR A SIGN A547dA548dA549dA550dA551dA552dA553dA554dA555dA556dA557dA559dA563dA564dA565",
  "106E6aLINEAR A SIGN A566dA568dA569dA570dA571dA572dA573dA574dA575dA576dA577dA578dA579dA580dA581",
  "106F5aLINEAR A SIGN A582dA583dA584dA585dA586dA587dA588dA589dA591dA592dA594dA595dA596dA598dA600",
  "10704aLINEAR A SIGN A601dA602dA603dA604dA606dA608dA609dA610dA611dA612dA613dA614dA615dA616dA617",
  "10713aLINEAR A SIGN A618dA619dA620dA621dA622dA623dA624dA626dA627dA628dA629dA634dA637dA638dA640",
  "10722aLINEAR A SIGN A642dA643dA644dA645dA646dA648dA649dA651dA652dA653dA654dA655dA656dA657dA658",
  "10731aLINEAR A SIGN A659dA660dA661dA662dA663dA664",
  "10740aLINEAR A SIGN A701 AdA702 BdA703 DdA704 EdA705 FdA706 HdA707 JdA708 KdA709 LdA709-2 L2",
  "1074AaLINEAR A SIGN A709-3 L3dA709-4 L4dA709-6 L6dA710 WdA711 XdA712 YdA713 OMEGAdA714 ABB",
  "10752aLINEAR A SIGN A715 BBdA717 DDdA726 EYYYdA732 JE",
  "10760aLINEAR A SIGN A800dA801dA802dA803dA804dA805dA806dA807",
  "10780aMODIFIER LETTER SMALL CAPITAL AAcSUPERSCRIPT TRIANGULAR COLONdHALF TRIANGULAR COLON",
  "10783aMODIFIER LETTER SMALL AEdCAPITAL BdB WITH HOOK",
  "10787aMODIFIER LETTER SMALL DZ DIGRAPHfWITH RETROFLEX HOOKgCURLdDEZH DIGRAPHdD WITH TAILfHOOK",
  "1078DaMODIFIER LETTER SMALL D WITH HOOK AND TAILdREVERSED EdCLOSED REVERSED OPEN EdFENG DIGRAPH",
  "10791aMODIFIER LETTER SMALL RAMS HORNdCAPITAL GdG WITH HOOKdCAPITAL G WITH HOOKdH WITH STROKE",
  "10796aMODIFIER LETTER SMALL CAPITAL HdHENG WITH HOOKdDOTLESS J WITH STROKE AND HOOKdLS DIGRAPH",
  "1079AaMODIFIER LETTER SMALL LZ DIGRAPHdL WITH BELTdCAPITAL L WITH BELT",
  "1079DaMODIFIER LETTER SMALL L WITH RETROFLEX HOOK AND BELTdLEZHeWITH RETROFLEX HOOKdTURNED Y",
  "107A1aMODIFIER LETTER SMALL TURNED Y WITH BELTdO WITH STROKEdCAPITAL OEdCLOSED OMEGAdQ",
  "107A6aMODIFIER LETTER SMALL TURNED R WITH LONG LEGiAND RETROFLEX HOOKdR WITH TAILfFISHHOOK",
  "107AAaMODIFIER LETTER SMALL CAPITAL RdTC DIGRAPH WITH CURLdTS DIGRAPHfWITH RETROFLEX HOOK",
  "107AEaMODIFIER LETTER SMALL TESH DIGRAPHdT WITH RETROFLEX HOOKdV WITH RIGHT HOOK",
  "107B2aMODIFIER LETTER SMALL CAPITAL YcGLOTTAL STOP WITH STROKEcREVERSED GLOTTAL STOP WITH STROKE",
  "107B5aMODIFIER LETTER BILABIAL CLICKcDENTAL CLICKcLATERAL CLICKcALVEOLAR CLICK",
  "107B9aMODIFIER LETTER RETROFLEX CLICK WITH RETROFLEX HOOKcSMALL S WITH CURL",
  "10800aCYPRIOT SYLLABLE AcEcIcOcUcJA",
  "10808aCYPRIOT SYLLABLE JO",
  "1080AaCYPRIOT SYLLABLE KAcKEcKIcKOcKUcLAcLEcLIcLOcLUcMAcMEcMIcMOcMUcNAcNEcNIcNOcNUcPAcPEcPIcPO",
  "10822aCYPRIOT SYLLABLE PUcRAcREcRIcROcRUcSAcSEcSIcSOcSUcTAcTEcTIcTOcTUcWAcWEcWIcWO",
  "10837aCYPRIOT SYLLABLE XAcXE",
  "1083CaCYPRIOT SYLLABLE ZA",
  "1083FaCYPRIOT SYLLABLE ZOaIMPERIAL ARAMAIC LETTER ALEPHdBETHdGIMELdDALETHdHEdWAWdZAYINdHETHdTETH",
  "10849aIMPERIAL ARAMAIC LETTER YODHdKAPHdLAMEDHdMEMdNUNdSAMEKHdAYINdPEdSADHEdQOPHdRESHdSHINdTAW",
  "10857aIMPERIAL ARAMAIC SECTION SIGNcNUMBER ONEdTWOdTHREEdTENdTWENTYdONE HUNDREDeTHOUSAND",
  "1085FaIMPERIAL ARAMAIC NUMBER TEN THOUSANDaPALMYRENE LETTER ALEPHcBETHcGIMELcDALETHcHEcWAWcZAYIN",
  "10867aPALMYRENE LETTER HETHcTETHcYODHcKAPHcLAMEDHcMEMcFINAL NUNcNUNcSAMEKHcAYINcPEcSADHEcQOPH",
  "10874aPALMYRENE LETTER RESHcSHINcTAWbLEFT-POINTING FLEURONbRIGHT-POINTING FLEURONbNUMBER ONEcTWO",
  "1087BaPALMYRENE NUMBER THREEcFOURcFIVEcTENcTWENTYaNABATAEAN LETTER FINAL ALEPHcALEPHcFINAL BETH",
  "10883aNABATAEAN LETTER BETHcGIMELcDALETHcFINAL HEcHEcWAWcZAYINcHETHcTETHcFINAL YODHcYODH",
  "1088EaNABATAEAN LETTER FINAL KAPHcKAPHcFINAL LAMEDHcLAMEDHcFINAL MEMcMEMcFINAL NUNcNUNcSAMEKH"]

/-- More rows of names. -/
def nameRowsI : List String := [
  "10897aNABATAEAN LETTER AYINcPEcSADHEcQOPHcRESHcFINAL SHINcSHINcTAW",
  "108A7aNABATAEAN NUMBER ONEcTWOcTHREEcFOURbCRUCIFORM NUMBER FOURbNUMBER FIVEcTENcTWENTY",
  "108AFaNABATAEAN NUMBER ONE HUNDRED",
  "108E0aHATRAN LETTER ALEPHcBETHcGIMELcDALETH-RESHcHEcWAWcZAYNcHETHcTETHcYODHcKAPHcLAMEDHcMEMcNUN",
  "108EEaHATRAN LETTER SAMEKHcAYNcPEcSADHEcQOPH",
  "108F4aHATRAN LETTER SHINcTAW",
  "108FBaHATRAN NUMBER ONEcFIVEcTENcTWENTYcONE HUNDREDaPHOENICIAN LETTER ALFcBETcGAMLcDELTcHEcWAU",
  "10906aPHOENICIAN LETTER ZAIcHETcTETcYODcKAFcLAMDcMEMcNUNcSEMKcAINcPEcSADEcQOFcROSHcSHINcTAU",
  "10916aPHOENICIAN NUMBER ONEcTENcTWENTYcONE HUNDREDcTWOcTHREE",
  "1091FaPHOENICIAN WORD SEPARATORaLYDIAN LETTER AcBcGcDcEcVcIcYcKcLcMcNcOcRcSScTcUcFcQcScTTcANcEN",
  "10937aLYDIAN LETTER LYcNNcC",
  "1093FaLYDIAN TRIANGULAR MARK",
  "10980aMEROITIC HIEROGLYPHIC LETTER AdEdIdOdYAdWAdBAdBA-2dPAdMAdNAdNA-2dNEdNE-2dRAdRA-2dLAdKHA",
  "10992aMEROITIC HIEROGLYPHIC LETTER HHAdSAdSA-2dSEdKAdQAdTAdTA-2dTEdTE-2dTOdDAcSYMBOL VIDJdVIDJ-2",
  "109A0aMEROITIC CURSIVE LETTER AdEdIdOdYAdWAdBAdPAdMAdNAdNEdRAdLAdKHAdHHAdSAdARCHAIC SAdSEdKAdQA",
  "109B4aMEROITIC CURSIVE LETTER TAdTEdTOdDA",
  "109BCaMEROITIC CURSIVE FRACTION ELEVEN TWELFTHSdONE HALFcLOGOGRAM RMTdIMNcNUMBER ONEdTWOdTHREE",
  "109C3aMEROITIC CURSIVE NUMBER FOURdFIVEdSIXdSEVENdEIGHTdNINEdTENdTWENTYdTHIRTYdFORTYdFIFTYdSIXTY",
  "109CFaMEROITIC CURSIVE NUMBER SEVENTY",
  "109D2aMEROITIC CURSIVE NUMBER ONE HUNDREDdTWO HUNDREDdTHREE HUNDREDdFOUR HUNDREDdFIVE HUNDRED",
  "109D7aMEROITIC CURSIVE NUMBER SIX HUNDREDdSEVEN HUNDREDdEIGHT HUNDREDdNINE HUNDREDdONE THOUSAND",
  "109DCaMEROITIC CURSIVE NUMBER TWO THOUSANDdTHREE THOUSANDdFOUR THOUSANDdFIVE THOUSAND",
  "109E0aMEROITIC CURSIVE NUMBER SIX THOUSANDdSEVEN THOUSANDdEIGHT THOUSANDdNINE THOUSAND",
  "109E4aMEROITIC CURSIVE NUMBER TEN THOUSANDdTWENTY THOUSANDdTHIRTY THOUSANDdFORTY THOUSAND",
  "109E8aMEROITIC CURSIVE NUMBER FIFTY THOUSANDdSIXTY THOUSANDdSEVENTY THOUSANDdEIGHTY THOUSAND",
  "109ECaMEROITIC CURSIVE NUMBER NINETY THOUSANDdONE HUNDRED THOUSANDdTWO HUNDRED THOUSAND",
  "109EFaMEROITIC CURSIVE NUMBER THREE HUNDRED THOUSANDdFOUR HUNDRED THOUSANDdFIVE HUNDRED THOUSAND",
  "109F2aMEROITIC CURSIVE NUMBER SIX HUNDRED THOUSANDdSEVEN HUNDRED THOUSANDdEIGHT HUNDRED THOUSAND",
  "109F5aMEROITIC CURSIVE NUMBER NINE HUNDRED THOUSANDcFRACTION ONE TWELFTHdTWO TWELFTHS",
  "109F8aMEROITIC CURSIVE FRACTION THREE TWELFTHSdFOUR TWELFTHSdFIVE TWELFTHSdSIX TWELFTHS",
  "109FCaMEROITIC CURSIVE FRACTION SEVEN TWELFTHSdEIGHT TWELFTHSdNINE TWELFTHSdTEN TWELFTHS",
  "10A00aKHAROSHTHI LETTER AbVOWEL SIGN IdUdVOCALIC R",
  "10A05aKHAROSHTHI VOWEL SIGN EdO",
  "10A0CaKHAROSHTHI VOWEL LENGTH MARKbSIGN DOUBLE RING BELOWcANUSVARAcVISARGAbLETTER KAcKHAcGAcGHA",
  "10A15aKHAROSHTHI LETTER CAcCHAcJA",
  "10A19aKHAROSHTHI LETTER NYAcTTAcTTHAcDDAcDDHAcNNAcTAcTHAcDAcDHAcNAcPAcPHAcBAcBHAcMAcYAcRAcLAcVA",
  "10A2DaKHAROSHTHI LETTER SHAcSSAcSAcZAcHAcKKAcTTTHAcTTTAcVHA",
  "10A38aKHAROSHTHI SIGN BAR ABOVEcCAUDAcDOT BELOW",
  "10A3FaKHAROSHTHI VIRAMAbDIGIT ONEcTWOcTHREEcFOURbNUMBER TENcTWENTYcONE HUNDREDdTHOUSAND",
  "10A48aKHAROSHTHI FRACTION ONE HALF",
  "10A50aKHAROSHTHI PUNCTUATION DOTcSMALL CIRCLEcCIRCLEcCRESCENT BARcMANGALAMcLOTUScDANDA",
  "10A57aKHAROSHTHI PUNCTUATION DOUBLE DANDAcLINES",
  "10A60aOLD SOUTH ARABIAN LETTER HEeLAMEDHeHETHeMEMeQOPHeWAWeSHINeRESHeBETHeTAWeSATeKAPHeNUNeKHETH",
  "10A6EaOLD SOUTH ARABIAN LETTER SADHEeSAMEKHeFEeALEFeAYNeDHADHEeGIMELeDALETHeGHAYNeTETHeZAYN",
  "10A79aOLD SOUTH ARABIAN LETTER DHALETHeYODHeTHAWeTHETHdNUMBER ONEeFIFTYdNUMERIC INDICATOR",
  "10A80aOLD NORTH ARABIAN LETTER HEHeLAMeHAHeMEEMeQAFeWAWeES-2eREHeBEHeTEHeES-1eKAFeNOONeKHAHeSAD",
  "10A8FaOLD NORTH ARABIAN LETTER ES-3eFEHeALEFeAINeDADeGEEMeDALeGHAINeTAHeZAINeTHALeYEHeTHEHeZAH",
  "10A9DaOLD NORTH ARABIAN NUMBER ONEeTENeTWENTY",
  "10AC0aMANICHAEAN LETTER ALEPHcBETHcBHETHcGIMELcGHIMELcDALETHcHEcWAWbSIGN UDbLETTER ZAYINcZHAYIN",
  "10ACBaMANICHAEAN LETTER JAYINcJHAYINcHETHcTETHcYODHcKAPHcXAPHcKHAPHcLAMEDHcDHAMEDHcTHAMEDHcMEM",
  "10AD7aMANICHAEAN LETTER NUNcSAMEKHcAYINcAAYINcPEcFEcSADHEcQOPHcXOPHcQHOPHcRESHcSHINcSSHINcTAW",
  "10AE5aMANICHAEAN ABBREVIATION MARK ABOVEdBELOW",
  "10AEBaMANICHAEAN NUMBER ONEcFIVEcTENcTWENTYcONE HUNDREDbPUNCTUATION STARcFLEURON",
  "10AF2aMANICHAEAN PUNCTUATION DOUBLE DOT WITHIN DOTcDOT WITHIN DOT",
  "10AF4aMANICHAEAN PUNCTUATION DOTcTWO DOTScLINE FILLER",
  "10B00aAVESTAN LETTER AcAAcAOcAAOcANcAANcAEcAEEcEcEEcOcOOcIcIIcUcUUcKEcXEcXYEcXVEcGEcGGEcGHEcCE",
  "10B18aAVESTAN LETTER JEcTEcTHEcDEcDHEcTTEcPEcFEcBEcBHEcNGEcNGYEcNGVEcNEcNYEcNNEcMEcHMEcYYEcYEcVE",
  "10B2DaAVESTAN LETTER REcLEcSEcZEcSHEcZHEcSHYEcSSHEcHE",
  "10B39aAVESTAN ABBREVIATION MARKaTINY TWO DOTS OVER ONE DOT PUNCTUATION",
  "10B3BaSMALL TWO DOTS OVER ONE DOT PUNCTUATIONaLARGE TWO DOTS OVER ONE DOT PUNCTUATION",
  "10B3DaLARGE ONE DOT OVER TWO DOTS PUNCTUATIONbTWO RINGS OVER ONE RING PUNCTUATION",
  "10B3FaLARGE ONE RING OVER TWO RINGS PUNCTUATIONaINSCRIPTIONAL PARTHIAN LETTER ALEPHdBETHdGIMEL",
  "10B43aINSCRIPTIONAL PARTHIAN LETTER DALETHdHEdWAWdZAYINdHETHdTETHdYODHdKAPHdLAMEDHdMEMdNUN",
  "10B4EaINSCRIPTIONAL PARTHIAN LETTER SAMEKHdAYINdPEdSADHEdQOPHdRESHdSHINdTAW",
  "10B58aINSCRIPTIONAL PARTHIAN NUMBER ONEdTWOdTHREEdFOURdTENdTWENTYdONE HUNDREDeTHOUSAND",
  "10B60aINSCRIPTIONAL PAHLAVI LETTER ALEPHdBETHdGIMELdDALETHdHEdWAW-AYIN-RESHdZAYINdHETHdTETHdYODH",
  "10B6AaINSCRIPTIONAL PAHLAVI LETTER KAPHdLAMEDHdMEM-QOPHdNUNdSAMEKHdPEdSADHEdSHINdTAW",
  "10B78aINSCRIPTIONAL PAHLAVI NUMBER ONEdTWOdTHREEdFOURdTENdTWENTYdONE HUNDREDeTHOUSAND",
  "10B80aPSALTER PAHLAVI LETTER ALEPHdBETHdGIMELdDALETHdHEdWAW-AYIN-RESHdZAYINdHETHdYODHdKAPH",
  "10B8AaPSALTER PAHLAVI LETTER LAMEDHdMEM-QOPHdNUNdSAMEKHdPEdSADHEdSHINdTAW",
  "10B99aPSALTER PAHLAVI SECTION MARKcTURNED SECTION MARKcFOUR DOTS WITH CROSSfDOT",
  "10BA9aPSALTER PAHLAVI NUMBER ONEdTWOdTHREEdFOURdTENdTWENTYdONE HUNDRED",
  "10C00aOLD TURKIC LETTER ORKHON AdYENISEI AeAEdORKHON IdYENISEI IeEdORKHON OeOEdYENISEI OE",
  "10C09aOLD TURKIC LETTER ORKHON ABdYENISEI ABdORKHON AEBdYENISEI AEBdORKHON AGdYENISEI AG",
  "10C0FaOLD TURKIC LETTER ORKHON AEGdYENISEI AEGdORKHON ADdYENISEI ADdORKHON AEDeEZdYENISEI EZ",
  "10C16aOLD TURKIC LETTER ORKHON AYdYENISEI AYdORKHON AEYdYENISEI AEYdORKHON AEKdYENISEI AEK",
  "10C1CaOLD TURKIC LETTER ORKHON OEKdYENISEI OEKdORKHON ALdYENISEI ALdORKHON AELeELTeEMeANeAEN",
  "10C25aOLD TURKIC LETTER YENISEI AENdORKHON ENTdYENISEI ENTdORKHON ENCdYENISEI ENCdORKHON ENY",
  "10C2BaOLD TURKIC LETTER YENISEI ENYeANGdORKHON ENGdYENISEI AENGdORKHON EPeOPeICeECdYENISEI EC",
  "10C34aOLD TURKIC LETTER ORKHON AQdYENISEI AQdORKHON IQdYENISEI IQdORKHON OQdYENISEI OQdORKHON AR",
  "10C3BaOLD TURKIC LETTER YENISEI ARdORKHON AEReASeAESeASHdYENISEI ASHdORKHON ESHdYENISEI ESH",
  "10C43aOLD TURKIC LETTER ORKHON ATdYENISEI ATdORKHON AETdYENISEI AETdORKHON OTeBASH",
  "10C80aOLD HUNGARIAN CAPITAL LETTER AeAAeEBeAMBeECeENCeECSeEDeANDeEeCLOSE EeEEeEFeEGeEGYeEHeIeII",
  "10C92aOLD HUNGARIAN CAPITAL LETTER EJeEKeAKeUNKeELeELYeEMeENeENYeOeOOeNIKOLSBURG OEeRUDIMENTA OE",
  "10C9FaOLD HUNGARIAN CAPITAL LETTER OEEeEPeEMPeEReSHORT EReESeESZeETeENTeETYeECHeUeUU",
  "10CACaOLD HUNGARIAN CAPITAL LETTER NIKOLSBURG UEeRUDIMENTA UEeEVeEZeEZSeENT-SHAPED SIGNeUS",
  "10CC0aOLD HUNGARIAN SMALL LETTER AeAAeEBeAMBeECeENCeECSeEDeANDeEeCLOSE EeEEeEFeEGeEGYeEHeIeIIeEJ",
  "10CD3aOLD HUNGARIAN SMALL LETTER EKeAKeUNKeELeELYeEMeENeENYeOeOOeNIKOLSBURG OEeRUDIMENTA OEeOEE",
  "10CE0aOLD HUNGARIAN SMALL LETTER EPeEMPeEReSHORT EReESeESZeETeENTeETYeECHeUeUUeNIKOLSBURG UE",
  "10CEDaOLD HUNGARIAN SMALL LETTER RUDIMENTA UEeEVeEZeEZSeENT-SHAPED SIGNeUS",
  "10CFAaOLD HUNGARIAN NUMBER ONEdFIVEdTENdFIFTYdONE HUNDREDeTHOUSANDaHANIFI ROHINGYA LETTER AdBA",
  "10D02aHANIFI ROHINGYA LETTER PAdTAdTTAdJAdCAdHAdKHAdFAdDAdDDAdRAdRRAdZAdSAdSHAdKAdGAdLAdMAdNAdWA",
  "10D17aHANIFI ROHINGYA LETTER KINNA WAdYAdKINNA YAdNGAdNYAdVAcVOWEL AdIdUdEdOcMARK SAKIN",
  "10D23aHANIFI ROHINGYA MARK NA KHONNAcSIGN HARBAHAYdTAHALAdTANAdTASSI",
  "10D30aHANIFI ROHINGYA DIGIT ZEROdONEdTWOdTHREEdFOURdFIVEdSIXdSEVENdEIGHTdNINE",
  "10E60aRUMI DIGIT ONEcTWOcTHREEcFOURcFIVEcSIXcSEVENcEIGHTcNINEbNUMBER TENcTWENTYcTHIRTYcFORTY",
  "10E6DaRUMI NUMBER FIFTYcSIXTYcSEVENTYcEIGHTYcNINETYcONE HUNDREDcTWO HUNDREDcTHREE HUNDRED",
  "10E75aRUMI NUMBER FOUR HUNDREDcFIVE HUNDREDcSIX HUNDREDcSEVEN HUNDREDcEIGHT HUNDREDcNINE HUNDRED",
  "10E7BaRUMI FRACTION ONE HALFdQUARTERdTHIRDcTWO THIRDS",
  "10E80aYEZIDI LETTER ELIFcBEcPEcPHEcTHEcSEcCIMcCHIMcCHHIMcHHAcXAcDALcZALcRAcRHAcZAcJAcSINcSHIN",
  "10E93aYEZIDI LETTER SADcDADcTAcZEcEYNcXHEYNcFAcVAdALTERNATE FORMcQAFcKAFcKHAFcGAFcLAMcMIMcNUNcUM",
  "10EA4aYEZIDI LETTER WAWcOWcEWcHAYcYOTcET",
  "10EABaYEZIDI COMBINING HAMZA MARKcMADDA MARKbHYPHENATION MARK",
  "10EB0aYEZIDI LETTER LAM WITH DOT ABOVEcYOT WITH CIRCUMFLEX ABOVE",
  "10F00aOLD SOGDIAN LETTER ALEPHdFINAL ALEPHdBETHdFINAL BETHdGIMELdHEdFINAL HEdWAWdZAYINdHETHdYODH",
  "10F0BaOLD SOGDIAN LETTER KAPHdLAMEDHdMEMdNUNdFINAL NUNfWITH VERTICAL TAILdSAMEKHdAYIN",
  "10F13aOLD SOGDIAN LETTER ALTERNATE AYINdPEdSADHEdFINAL SADHEfWITH VERTICAL TAILdRESH-AYIN-DALETH",
  "10F19aOLD SOGDIAN LETTER SHINdTAWdFINAL TAWfWITH VERTICAL TAILcNUMBER ONEdTWOdTHREEdFOURdFIVE",
  "10F22aOLD SOGDIAN NUMBER TENdTWENTYdTHIRTYdONE HUNDREDcFRACTION ONE HALFcLIGATURE AYIN-DALETH",
  "10F30aSOGDIAN LETTER ALEPHcBETHcGIMELcHEcWAWcZAYINcHETHcYODHcKAPHcLAMEDHcMEMcNUNcSAMEKHcAYINcPE",
  "10F3FaSOGDIAN LETTER SADHEcRESH-AYINcSHINcTAWcFETHcLESHbINDEPENDENT SHINbCOMBINING DOT BELOW",
  "10F47aSOGDIAN COMBINING TWO DOTS BELOWcDOT ABOVEcTWO DOTS ABOVEcCURVE ABOVEdBELOWcHOOK ABOVE",
  "10F4DaSOGDIAN COMBINING HOOK BELOWcLONG HOOK BELOWcRESH BELOWcSTROKE BELOWbNUMBER ONEcTENcTWENTY",
  "10F54aSOGDIAN NUMBER ONE HUNDREDbPUNCTUATION TWO VERTICAL BARSfWITH DOTScCIRCLE WITH DOT",
  "10F58aSOGDIAN PUNCTUATION TWO CIRCLES WITH DOTScHALF CIRCLE WITH DOT",
  "10F70aOLD UYGHUR LETTER ALEPHdBETHdGIMEL-HETHdWAWdZAYINdFINAL HETHdYODHdKAPHdLAMEDHdMEMdNUN",
  "10F7BaOLD UYGHUR LETTER SAMEKHdPEdSADHEdRESHdSHINdTAWdLESHcCOMBINING DOT ABOVEeBELOW",
  "10F84aOLD UYGHUR COMBINING TWO DOTS ABOVEfBELOWcPUNCTUATION BARdTWO BARSeDOTSdFOUR DOTS",
  "10FB0aCHORASMIAN LETTER ALEPHcSMALL ALEPHcBETHcGIMELcDALETHcHEcWAWcCURLED WAWcZAYINcHETHcYODH",
  "10FBBaCHORASMIAN LETTER KAPHcLAMEDHcMEMcNUNcSAMEKHcAYINcPEcRESHcSHINcTAWbNUMBER ONEcTWOcTHREE",
  "10FC8aCHORASMIAN NUMBER FOURcTENcTWENTYcONE HUNDRED",
  "10FE0aELYMAIC LETTER ALEPHcBETHcGIMELcDALETHcHEcWAWcZAYINcHETHcTETHcYODHcKAPHcLAMEDHcMEMcNUN",
  "10FEEaELYMAIC LETTER SAMEKHcAYINcPEcSADHEcQOPHcRESHcSHINcTAWbLIGATURE ZAYIN-YODH",
  "11000aBRAHMI SIGN CANDRABINDUcANUSVARAcVISARGAcJIHVAMULIYAcUPADHMANIYAbLETTER AcAAcIcIIcUcUU",
  "1100BaBRAHMI LETTER VOCALIC RdRRdLdLLcEcAIcOcAUcKAcKHAcGAcGHAcNGAcCAcCHAcJAcJHAcNYAcTTAcTTHAcDDA",
  "11020aBRAHMI LETTER DDHAcNNAcTAcTHAcDAcDHAcNAcPAcPHAcBAcBHAcMAcYAcRAcLAcVAcSHAcSSAcSAcHAcLLA",
  "11035aBRAHMI LETTER OLD TAMIL LLLAeRRAeNNNAbVOWEL SIGN AAdBHATTIPROLU AAdIdIIdUdUUdVOCALIC ReRR",
  "11040aBRAHMI VOWEL SIGN VOCALIC LeLLdEdAIdOdAUbVIRAMAbDANDAbDOUBLE DANDAbPUNCTUATION DOT",
  "1104AaBRAHMI PUNCTUATION DOUBLE DOTcLINEcCRESCENT BARcLOTUS",
  "11052aBRAHMI NUMBER ONEcTWOcTHREEcFOURcFIVEcSIXcSEVENcEIGHTcNINEcTENcTWENTYcTHIRTYcFORTYcFIFTY",
  "11060aBRAHMI NUMBER SIXTYcSEVENTYcEIGHTYcNINETYcONE HUNDREDdTHOUSANDbDIGIT ZEROcONEcTWOcTHREE",
  "1106AaBRAHMI DIGIT FOURcFIVEcSIXcSEVENcEIGHTcNINEbSIGN OLD TAMIL VIRAMAbLETTER OLD TAMIL SHORT E",
  "11072aBRAHMI LETTER OLD TAMIL SHORT ObVOWEL SIGN OLD TAMIL SHORT EgObLETTER OLD TAMIL LLA",
  "1107FaBRAHMI NUMBER JOINERaKAITHI SIGN CANDRABINDUcANUSVARAcVISARGAbLETTER AcAAcIcIIcUcUUcEcAIcO",
  "1108CaKAITHI LETTER AUcKAcKHAcGAcGHAcNGAcCAcCHAcJAcJHAcNYAcTTAcTTHAcDDAcDDDHAcDDHAcRHAcNNAcTA",
  "1109FaKAITHI LETTER THAcDAcDHAcNAcPAcPHAcBAcBHAcMAcYAcRAcLAcVAcSHAcSSAcSAcHAbVOWEL SIGN AAdIdII",
  "110B3aKAITHI VOWEL SIGN UdUUdEdAIdOdAUbSIGN VIRAMAcNUKTAbABBREVIATION SIGNbENUMERATION SIGN",
  "110BDaKAITHI NUMBER SIGNbSECTION MARKbDOUBLE SECTION MARKbDANDAbDOUBLE DANDA",
  "110C2aKAITHI VOWEL SIGN VOCALIC R",
  "110CDaKAITHI NUMBER SIGN ABOVE",
  "110D0aSORA SOMPENG LETTER SAHdTAHdBAHdCAHdDAHdGAHdMAHdNGAHdLAHdNAHdVAHdPAHdYAHdRAHdHAHdKAHdJAH",
  "110E1aSORA SOMPENG LETTER NYAHdAHdEEHdIHdUHdOHdEHdMAE",
  "110F0aSORA SOMPENG DIGIT ZEROdONEdTWOdTHREEdFOURdFIVEdSIXdSEVENdEIGHTdNINE",
  "11100aCHAKMA SIGN CANDRABINDUcANUSVARAcVISARGAbLETTER AAcIcUcEcKAAcKHAAcGAAcGHAAcNGAAcCAAcCHAA",
  "1110EaCHAKMA LETTER JAAcJHAAcNYAAcTTAAcTTHAAcDDAAcDDHAAcNNAAcTAAcTHAAcDAAcDHAAcNAAcPAAcPHAAcBAA",
  "1111EaCHAKMA LETTER BHAAcMAAcYYAAcYAAcRAAcLAAcWAAcSAAcHAAbVOWEL SIGN AdIdIIdUdUUdEdAIdOdAUdOI",
  "11131aCHAKMA O MARKbAU MARKbVIRAMAbMAAYYAA",
  "11136aCHAKMA DIGIT ZEROcONEcTWOcTHREEcFOURcFIVEcSIXcSEVENcEIGHTcNINEbSECTION MARKbDANDA",
  "11142aCHAKMA DOUBLE DANDAbQUESTION MARKbLETTER LHAAbVOWEL SIGN AAdEIbLETTER VAA",
  "11150aMAHAJANI LETTER AcIcUcEcOcKAcKHAcGAcGHAcCAcCHAcJAcJHAcNYAcTTAcTTHAcDDAcDDHAcNNAcTAcTHAcDA",
  "11166aMAHAJANI LETTER DHAcNAcPAcPHAcBAcBHAcMAcRAcLAcVAcSAcHAcRRAbSIGN NUKTAbABBREVIATION SIGN",
  "11175aMAHAJANI SECTION MARKbLIGATURE SHRI",
  "11180aSHARADA SIGN CANDRABINDUcANUSVARAcVISARGAbLETTER AcAAcIcIIcUcUUcVOCALIC RdRRdLdLLcEcAIcO",
  "11190aSHARADA LETTER AUcKAcKHAcGAcGHAcNGAcCAcCHAcJAcJHAcNYAcTTAcTTHAcDDAcDDHAcNNAcTAcTHAcDAcDHA",
  "111A4aSHARADA LETTER NAcPAcPHAcBAcBHAcMAcYAcRAcLAcLLAcVAcSHAcSSAcSAcHAbVOWEL SIGN AAdIdIIdUdUU",
  "111B8aSHARADA VOWEL SIGN VOCALIC ReRReLeLLdEdAIdOdAUbSIGN VIRAMAcAVAGRAHAcJIHVAMULIYA",
  "111C3aSHARADA SIGN UPADHMANIYAbOMbDANDAbDOUBLE DANDAbABBREVIATION SIGNbSEPARATORbSANDHI MARK",
  "111CAaSHARADA SIGN NUKTAbVOWEL MODIFIER MARKbEXTRA SHORT VOWEL MARKbSUTRA MARK",
  "111CEaSHARADA VOWEL SIGN PRISHTHAMATRA EbSIGN INVERTED CANDRABINDUbDIGIT ZEROcONEcTWOcTHREEcFOUR",
  "111D5aSHARADA DIGIT FIVEcSIXcSEVENcEIGHTcNINEbEKAMbSIGN SIDDHAMbHEADSTROKEbCONTINUATION SIGN",
  "111DEaSHARADA SECTION MARK-1cMARK-2",
  "111E1aSINHALA ARCHAIC DIGIT ONEdTWOdTHREEdFOURdFIVEdSIXdSEVENdEIGHTdNINEcNUMBER TENdTWENTY",
  "111ECaSINHALA ARCHAIC NUMBER THIRTYdFORTYdFIFTYdSIXTYdSEVENTYdEIGHTYdNINETYdONE HUNDREDeTHOUSAND",
  "11200aKHOJKI LETTER AcAAcIcUcEcAIcOcAUcKAcKHAcGAcGGAcGHAcNGAcCAcCHAcJAcJJA",
  "11213aKHOJKI LETTER NYAcTTAcTTHAcDDAcDDHAcNNAcTAcTHAcDAcDDDAcDHAcNAcPAcPHAcBAcBBAcBHAcMAcYAcRA",
  "11227aKHOJKI LETTER LAcVAcSAcHAcLLAbVOWEL SIGN AAdIdIIdUdEdAIdOdAUbSIGN ANUSVARAcVIRAMAcNUKTA",
  "11237aKHOJKI SIGN SHADDAbDANDAbDOUBLE DANDAbWORD SEPARATORbSECTION MARKbDOUBLE SECTION MARK",
  "1123DaKHOJKI ABBREVIATION SIGNbSIGN SUKUN",
  "11280aMULTANI LETTER AcIcUcEcKAcKHAcGA",
  "11288aMULTANI LETTER GHA",
  "1128AaMULTANI LETTER CAcCHAcJAcJJA",
  "1128FaMULTANI LETTER NYAcTTAcTTHAcDDAcDDDAcDDHAcNNAcTAcTHAcDAcDHAcNAcPAcPHAcBA",
  "1129FaMULTANI LETTER BHAcMAcYAcRAcLAcVAcSAcHAcRRAcRHAbSECTION MARK",
  "112B0aKHUDAWADI LETTER AcAAcIcIIcUcUUcEcAIcOcAUcKAcKHAcGAcGGAcGHAcNGAcCAcCHAcJAcJJAcJHAcNYAcTTA",
  "112C7aKHUDAWADI LETTER TTHAcDDAcDDDAcRRAcDDHAcNNAcTAcTHAcDAcDHAcNAcPAcPHAcBAcBBAcBHAcMAcYAcRAcLA",
  "112DBaKHUDAWADI LETTER VAcSHAcSAcHAbSIGN ANUSVARAbVOWEL SIGN AAdIdIIdUdUUdEdAIdOdAUbSIGN NUKTA",
  "112EAaKHUDAWADI SIGN VIRAMA",
  "112F0aKHUDAWADI DIGIT ZEROcONEcTWOcTHREEcFOURcFIVEcSIXcSEVENcEIGHTcNINE",
  "11300aGRANTHA SIGN COMBINING ANUSVARA ABOVEcCANDRABINDUcANUSVARAcVISARGA",
  "11305aGRANTHA LETTER AcAAcIcIIcUcUUcVOCALIC RdL",
  "1130FaGRANTHA LETTER EEcAI",
  "11313aGRANTHA LETTER OOcAUcKAcKHAcGAcGHAcNGAcCAcCHAcJAcJHAcNYAcTTAcTTHAcDDAcDDHAcNNAcTAcTHAcDA",
  "11327aGRANTHA LETTER DHAcNA",
  "1132AaGRANTHA LETTER PAcPHAcBAcBHAcMAcYAcRA",
  "11332aGRANTHA LETTER LAcLLA",
  "11335aGRANTHA LETTER VAcSHAcSSAcSAcHA",
  "1133BaCOMBINING BINDU BELOWaGRANTHA SIGN NUKTAcAVAGRAHAbVOWEL SIGN AAdIdIIdUdUUdVOCALIC ReRR",
  "11347aGRANTHA VOWEL SIGN EEdAI",
  "1134BaGRANTHA VOWEL SIGN OOdAUbSIGN VIRAMA",
  "11350aGRANTHA OM",
  "11357aGRANTHA AU LENGTH MARK",
  "1135DaGRANTHA SIGN PLUTAbLETTER VEDIC ANUSVARAdDOUBLE ANUSVARAcVOCALIC RRdLL",
  "11362aGRANTHA VOWEL SIGN VOCALIC LeLL",
  "11366aCOMBINING GRANTHA DIGIT ZEROdONEdTWOdTHREEdFOURdFIVEdSIX",
  "11370aCOMBINING GRANTHA LETTER AdKAdNAdVIdPA",
  "11400aNEWA LETTER AcAAcIcIIcUcUUcVOCALIC RdRRdLdLLcEcAIcOcAUcKAcKHAcGAcGHAcNGAcNGHAcCAcCHAcJA",
  "11417aNEWA LETTER JHAcNYAcNYHAcTTAcTTHAcDDAcDDHAcNNAcTAcTHAcDAcDHAcNAcNHAcPAcPHAcBAcBHAcMAcMHA",
  "1142BaNEWA LETTER YAcRAcRHAcLAcLHAcWAcSHAcSSAcSAcHAbVOWEL SIGN AAdIdIIdUdUUdVOCALIC ReRReLeLLdE",
  "1143FaNEWA VOWEL SIGN AIdOdAUbSIGN VIRAMAcCANDRABINDUcANUSVARAcVISARGAcNUKTAcAVAGRAHA",
  "11448aNEWA SIGN FINAL ANUSVARAbOMbSIDDHIbDANDAbDOUBLE DANDAbCOMMAbGAP FILLERbABBREVIATION SIGN",
  "11450aNEWA DIGIT ZEROcONEcTWOcTHREEcFOURcFIVEcSIXcSEVENcEIGHTcNINEbDOUBLE COMMAbPLACEHOLDER MARK",
  "1145DaNEWA INSERTION SIGNbSANDHI MARKbLETTER VEDIC ANUSVARAbSIGN JIHVAMULIYAcUPADHMANIYA",
  "11480aTIRHUTA ANJIbLETTER AcAAcIcIIcUcUUcVOCALIC RdRRdLdLLcEcAIcOcAUcKAcKHAcGAcGHAcNGAcCAcCHAcJA",
  "11497aTIRHUTA LETTER JHAcNYAcTTAcTTHAcDDAcDDHAcNNAcTAcTHAcDAcDHAcNAcPAcPHAcBAcBHAcMAcYAcRAcLAcVA",
  "114ACaTIRHUTA LETTER SHAcSSAcSAcHAbVOWEL SIGN AAdIdIIdUdUUdVOCALIC ReRReLeLLdEdSHORT EdAIdO",
  "114BDaTIRHUTA VOWEL SIGN SHORT OdAUbSIGN CANDRABINDUcANUSVARAcVISARGAcVIRAMAcNUKTAcAVAGRAHA",
  "114C5aTIRHUTA GVANGbABBREVIATION SIGNbOM",
  "114D0aTIRHUTA DIGIT ZEROcONEcTWOcTHREEcFOURcFIVEcSIXcSEVENcEIGHTcNINE",
  "11580aSIDDHAM LETTER AcAAcIcIIcUcUUcVOCALIC RdRRdLdLLcEcAIcOcAUcKAcKHAcGAcGHAcNGAcCAcCHAcJAcJHA",
  "11597aSIDDHAM LETTER NYAcTTAcTTHAcDDAcDDHAcNNAcTAcTHAcDAcDHAcNAcPAcPHAcBAcBHAcMAcYAcRAcLAcVAcSHA",
  "115ACaSIDDHAM LETTER SSAcSAcHAbVOWEL SIGN AAdIdIIdUdUUdVOCALIC ReRR",
  "115B8aSIDDHAM VOWEL SIGN EdAIdOdAUbSIGN CANDRABINDUcANUSVARAcVISARGAcVIRAMAcNUKTAcSIDDHAMbDANDA",
  "115C3aSIDDHAM DOUBLE DANDAbSEPARATOR DOTcBARbREPETITION MARK-1cMARK-2cMARK-3bEND OF TEXT MARK",
  "115CAaSIDDHAM SECTION MARK WITH TRIDENT AND U-SHAPED ORNAMENTSgDOTTED CRESCENTS",
  "115CCaSIDDHAM SECTION MARK WITH RAYS AND DOTTED CRESCENTShDOUBLE CRESCENTShTRIPLE CRESCENTS",
  "115CFaSIDDHAM SECTION MARK DOUBLE RINGfWITH RAYSdWITH DOUBLE CRESCENTSeTRIPLE CRESCENTS",
  "115D3aSIDDHAM SECTION MARK WITH QUADRUPLE CRESCENTSeSEPTUPLE CRESCENTSeCIRCLES AND RAYS",
  "115D6aSIDDHAM SECTION MARK WITH CIRCLES AND TWO ENCLOSURESgFOUR ENCLOSURES",
  "115D8aSIDDHAM LETTER THREE-CIRCLE ALTERNATE IcTWO-CIRCLE ALTERNATE IeIIcALTERNATE U",
  "115DCaSIDDHAM VOWEL SIGN ALTERNATE UeUU",
  "11600aMODI LETTER AcAAcIcIIcUcUUcVOCALIC RdRRdLdLLcEcAIcOcAUcKAcKHAcGAcGHAcNGAcCAcCHAcJAcJHAcNYA",
  "11618aMODI LETTER TTAcTTHAcDDAcDDHAcNNAcTAcTHAcDAcDHAcNAcPAcPHAcBAcBHAcMAcYAcRAcLAcVAcSHAcSSAcSA",
  "1162EaMODI LETTER HAcLLAbVOWEL SIGN AAdIdIIdUdUUdVOCALIC ReRReLeLLdEdAIdOdAUbSIGN ANUSVARA",
  "1163EaMODI SIGN VISARGAcVIRAMAcARDHACANDRAbDANDAbDOUBLE DANDAbABBREVIATION SIGNbSIGN HUVA",
  "11650aMODI DIGIT ZEROcONEcTWOcTHREEcFOURcFIVEcSIXcSEVENcEIGHTcNINE",
  "11660aMONGOLIAN BIRGA WITH ORNAMENTbROTATED BIRGAbDOUBLE BIRGA WITH ORNAMENT",
  "11663aMONGOLIAN TRIPLE BIRGA WITH ORNAMENTbBIRGA WITH DOUBLE ORNAMENT",
  "11665aMONGOLIAN ROTATED BIRGA WITH ORNAMENTeDOUBLE ORNAMENTbINVERTED BIRGAdWITH DOUBLE ORNAMENT",
  "11669aMONGOLIAN SWIRL BIRGAdWITH ORNAMENTeDOUBLE ORNAMENT",
  "1166CaMONGOLIAN TURNED SWIRL BIRGA WITH DOUBLE ORNAMENT",
  "11680aTAKRI LETTER AcAAcIcIIcUcUUcEcAIcOcAUcKAcKHAcGAcGHAcNGAcCAcCHAcJAcJHAcNYAcTTAcTTHAcDDA",
  "11697aTAKRI LETTER DDHAcNNAcTAcTHAcDAcDHAcNAcPAcPHAcBAcBHAcMAcYAcRAcLAcVAcSHAcSAcHAcRRA",
  "116ABaTAKRI SIGN ANUSVARAcVISARGAbVOWEL SIGN AAdIdIIdUdUUdEdAIdOdAUbSIGN VIRAMAcNUKTA",
  "116B8aTAKRI LETTER ARCHAIC KHAbABBREVIATION SIGN",
  "116C0aTAKRI DIGIT ZEROcONEcTWOcTHREEcFOURcFIVEcSIXcSEVENcEIGHTcNINE",
  "11700aAHOM LETTER KAcKHAcNGAcNAcTAcALTERNATE TAcPAcPHAcBAcMAcJAcCHAcTHAcRAcLAcSAcNYAcHAcAcDAcDHA",
  "11715aAHOM LETTER GAcALTERNATE GAcGHAcBHAcJHAcALTERNATE BA",
  "1171DaAHOM CONSONANT SIGN MEDIAL LAeRAeLIGATING RAbVOWEL SIGN AdAAdIdIIdUdUUdEdAWdOdAIdAM",
  "1172BaAHOM SIGN KILLER",
  "11730aAHOM DIGIT ZEROcONEcTWOcTHREEcFOURcFIVEcSIXcSEVENcEIGHTcNINEbNUMBER TENcTWENTY",
  "1173CaAHOM SIGN SMALL SECTIONcSECTIONcRULAIbSYMBOL VIbLETTER CAcTTAcTTHAcDDAcDDHAcNNAcLLA",
  "11800aDOGRA LETTER AcAAcIcIIcUcUUcEcAIcOcAUcKAcKHAcGAcGHAcNGAcCAcCHAcJAcJHAcNYAcTTAcTTHAcDDA",
  "11817aDOGRA LETTER DDHAcNNAcTAcTHAcDAcDHAcNAcPAcPHAcBAcBHAcMAcYAcRAcLAcVAcSHAcSSAcSAcHAcRRA",
  "1182CaDOGRA VOWEL SIGN AAdIdIIdUdUUdVOCALIC ReRRdEdAIdOdAUbSIGN ANUSVARAcVISARGAcVIRAMAcNUKTA",
  "1183BaDOGRA ABBREVIATION SIGN",
  "118A0aWARANG CITI CAPITAL LETTER NGAAeAeWIeYUeYAeYOeIIeUUeEeOeANGeGAeKOeENYeYUJeUCeENNeODDeTTE",
  "118B3aWARANG CITI CAPITAL LETTER NUNGeDAeATeAMeBUePUeHIYOeHOLOeHORReHAReSSUUeSIIeVIYO",
  "118C0aWARANG CITI SMALL LETTER NGAAeAeWIeYUeYAeYOeIIeUUeEeOeANGeGAeKOeENYeYUJeUCeENNeODDeTTE",
  "118D3aWARANG CITI SMALL LETTER NUNGeDAeATeAMeBUePUeHIYOeHOLOeHORReHAReSSUUeSIIeVIYOcDIGIT ZERO",
  "118E1aWARANG CITI DIGIT ONEdTWOdTHREEdFOURdFIVEdSIXdSEVENdEIGHTdNINEcNUMBER TENdTWENTYdTHIRTY",
  "118EDaWARANG CITI NUMBER FORTYdFIFTYdSIXTYdSEVENTYdEIGHTYdNINETY",
  "118FFaWARANG CITI OMaDIVES AKURU LETTER AdAAdIdIIdUdUUdE",
  "11909aDIVES AKURU LETTER O",
  "1190CaDIVES AKURU LETTER KAdKHAdGAdGHAdNGAdCAdCHAdJA",
  "11915aDIVES AKURU LETTER NYAdTTA",
  "11918aDIVES AKURU LETTER DDAdDDHAdNNAdTAdTHAdDAdDHAdNAdPAdPHAdBAdBHAdMAdYAdYYAdRAdLAdVAdSHAdSSA",
  "1192CaDIVES AKURU LETTER SAdHAdLLAdZAcVOWEL SIGN AAeIeIIeUeUUeE",
  "11937aDIVES AKURU VOWEL SIGN AIeO",
  "1193BaDIVES AKURU SIGN ANUSVARAdCANDRABINDUdHALANTAcVIRAMAcPREFIXED NASAL SIGNcMEDIAL YA",
  "11941aDIVES AKURU INITIAL RAcMEDIAL RAcSIGN NUKTAcDOUBLE DANDAcGAP FILLERcEND OF TEXT MARK",
  "11950aDIVES AKURU DIGIT ZEROdONEdTWOdTHREEdFOURdFIVEdSIXdSEVENdEIGHTdNINE",
  "119A0aNANDINAGARI LETTER AcAAcIcIIcUcUUcVOCALIC RdRR",
  "119AAaNANDINAGARI LETTER EcAIcOcAUcKAcKHAcGAcGHAcNGAcCAcCHAcJAcJHAcNYAcTTAcTTHAcDDAcDDHAcNNAcTA",
  "119BEaNANDINAGARI LETTER THAcDAcDHAcNAcPAcPHAcBAcBHAcMAcYAcRAcLAcVAcSHAcSSAcSAcHAcLLAcRRA",
  "119D1aNANDINAGARI VOWEL SIGN AAdIdIIdUdUUdVOCALIC ReRR",
  "119DAaNANDINAGARI VOWEL SIGN EdAIdOdAUbSIGN ANUSVARAcVISARGAcVIRAMAcAVAGRAHAcSIDDHAMbHEADSTROKE",
  "119E4aNANDINAGARI VOWEL SIGN PRISHTHAMATRA E",
  "11A00aZANABAZAR SQUARE LETTER AcVOWEL SIGN IeUEeUeEeOEeOeAIeAUeREVERSED IdLENGTH MARKcLETTER KA",
  "11A0CaZANABAZAR SQUARE LETTER KHAdGAdGHAdNGAdCAdCHAdJAdNYAdTTAdTTHAdDDAdDDHAdNNAdTAdTHAdDAdDHA",
  "11A1DaZANABAZAR SQUARE LETTER NAdPAdPHAdBAdBHAdMAdTSAdTSHAdDZAdDZHAdZHAdZAd-AdYAdRAdLAdVAdSHA",
  "11A2FaZANABAZAR SQUARE LETTER SSAdSAdHAdKSSAcFINAL CONSONANT MARKcSIGN VIRAMAdCANDRABINDU",
  "11A36aZANABAZAR SQUARE SIGN CANDRABINDU WITH ORNAMENTdCANDRA WITH ORNAMENTdANUSVARAdVISARGA",
  "11A3AaZANABAZAR SQUARE CLUSTER-INITIAL LETTER RAcCLUSTER-FINAL LETTER YAeRAeLAeVA",
  "11A3FaZANABAZAR SQUARE INITIAL HEAD MARKcCLOSING HEAD MARKcMARK TSHEGdSHADdDOUBLE SHAD",
  "11A44aZANABAZAR SQUARE MARK LONG TSHEGcINITIAL DOUBLE-LINED HEAD MARK",
  "11A46aZANABAZAR SQUARE CLOSING DOUBLE-LINED HEAD MARKcSUBJOINER",
  "11A50aSOYOMBO LETTER AbVOWEL SIGN IdUEdUdEdOdOEdAIdAUdVOCALIC ReLcLENGTH MARKbLETTER KAcKHAcGA",
  "11A5FaSOYOMBO LETTER GHAcNGAcCAcCHAcJAcJHAcNYAcTTAcTTHAcDDAcDDHAcNNAcTAcTHAcDAcDHAcNAcPAcPHAcBA",
  "11A73aSOYOMBO LETTER BHAcMAcTSAcTSHAcDZAcZHAcZAc-AcYAcRAcLAcVAcSHAcSSAcSAcHAcKSSA",
  "11A84aSOYOMBO SIGN JIHVAMULIYAcUPADHMANIYAbCLUSTER-INITIAL LETTER RAdLAdSHAdSA",
  "11A8AaSOYOMBO FINAL CONSONANT SIGN GeKeNGeDeNeBeMeReLeSHeSe-AbSIGN ANUSVARAcVISARGA",
  "11A98aSOYOMBO GEMINATION MARKbSUBJOINERbMARK TSHEGcSHADcDOUBLE SHADcPLUTA",
  "11A9EaSOYOMBO HEAD MARK WITH MOON AND SUN AND TRIPLE FLAMEiFLAME",
  "11AA0aSOYOMBO HEAD MARK WITH MOON AND SUNbTERMINAL MARK-1cMARK-2",
  "11AB0aCANADIAN SYLLABICS NATTILIK HIdHIIdHOdHOOdHAdHAAdSHRIdSHRIIdSHROdSHROOdSHRAdSHRAAcSPEcSPI",
  "11ABEaCANADIAN SYLLABICS SPOcSPAaPAU CIN HAU LETTER PAeKAeLAeMAeDAeZAeVAeNGAeHAeGAeKHAeSAeBAeCA",
  "11ACEaPAU CIN HAU LETTER TAeTHAeNAePHAeRAeFAeCHAeAeEeIeOeUeUAeIAeFINAL PfKfTfMfNfLfWfNGfY",
  "11AE5aPAU CIN HAU RISING TONE LONG",
  "11AE6aPAU CIN HAU RISING TONEdSANDHI GLOTTAL STOPdRISING TONE LONG FINALfFINAL",
  "11AEAaPAU CIN HAU SANDHI GLOTTAL STOP FINALeTONE LONG",
  "11AECaPAU CIN HAU SANDHI TONEfLONG FINALfFINALdMID-LEVEL TONEdGLOTTAL STOP VARIANT",
  "11AF1aPAU CIN HAU MID-LEVEL TONE LONG FINALfFINALdLOW-FALLING TONE LONG",
  "11AF4aPAU CIN HAU LOW-FALLING TONEdGLOTTAL STOPdLOW-FALLING TONE LONG FINALfFINAL",
  "11AF8aPAU CIN HAU GLOTTAL STOP FINAL",
  "11C00aBHAIKSUKI LETTER AcAAcIcIIcUcUUcVOCALIC RdRRdL",
  "11C0AaBHAIKSUKI LETTER EcAIcOcAUcKAcKHAcGAcGHAcNGAcCAcCHAcJAcJHAcNYAcTTAcTTHAcDDAcDDHAcNNAcTA",
  "11C1EaBHAIKSUKI LETTER THAcDAcDHAcNAcPAcPHAcBAcBHAcMAcYAcRAcLAcVAcSHAcSSAcSAcHAbVOWEL SIGN AAdI",
  "11C31aBHAIKSUKI VOWEL SIGN IIdUdUUdVOCALIC ReRReL",
  "11C38aBHAIKSUKI VOWEL SIGN EdAIdOdAUbSIGN CANDRABINDUcANUSVARAcVISARGAcVIRAMAcAVAGRAHAbDANDA",
  "11C42aBHAIKSUKI DOUBLE DANDAbWORD SEPARATORbGAP FILLER-1cFILLER-2",
  "11C50aBHAIKSUKI DIGIT ZEROcONEcTWOcTHREEcFOURcFIVEcSIXcSEVENcEIGHTcNINEbNUMBER ONEcTWOcTHREE",
  "11C5DaBHAIKSUKI NUMBER FOURcFIVEcSIXcSEVENcEIGHTcNINEcTENcTWENTYcTHIRTYcFORTYcFIFTYcSIXTY",
  "11C69aBHAIKSUKI NUMBER SEVENTYcEIGHTYcNINETYbHUNDREDS UNIT MARK",
  "11C70aMARCHEN HEAD MARKbMARK SHADbLETTER KAcKHAcGAcNGAcCAcCHAcJAcNYAcTAcTHAcDAcNAcPAcPHAcBAcMA",
  "11C82aMARCHEN LETTER TSAcTSHAcDZAcWAcZHAcZAc-AcYAcRAcLAcSHAcSAcHAcA",
  "11C92aMARCHEN SUBJOINED LETTER KAdKHAdGAdNGAdCAdCHAdJAdNYAdTAdTHAdDAdNAdPAdPHAdBAdMAdTSAdTSHA",
  "11CA4aMARCHEN SUBJOINED LETTER DZAdWAdZHAdZA",
  "11CA9aMARCHEN SUBJOINED LETTER YAdRAdLAdSHAdSAdHAdAbVOWEL SIGN AAdIdUdEdObSIGN ANUSVARA",
  "11CB6aMARCHEN SIGN CANDRABINDU",
  "11D00aMASARAM GONDI LETTER AdAAdIdIIdUdUUdE",
  "11D08aMASARAM GONDI LETTER AIdO",
  "11D0BaMASARAM GONDI LETTER AUdKAdKHAdGAdGHAdNGAdCAdCHAdJAdJHAdNYAdTTAdTTHAdDDAdDDHAdNNAdTAdTHA",
  "11D1DaMASARAM GONDI LETTER DAdDHAdNAdPAdPHAdBAdBHAdMAdYAdRAdLAdVAdSHAdSSAdSAdHAdLLAdKSSAdJNYA",
  "11D30aMASARAM GONDI LETTER TRAcVOWEL SIGN AAeIeIIeUeUUeVOCALIC R",
  "11D3AaMASARAM GONDI VOWEL SIGN E",
  "11D3CaMASARAM GONDI VOWEL SIGN AIeO",
  "11D3FaMASARAM GONDI VOWEL SIGN AUcSIGN ANUSVARAdVISARGAdNUKTAdCANDRAdHALANTAcVIRAMAcREPHA",
  "11D47aMASARAM GONDI RA-KARA",
  "11D50aMASARAM GONDI DIGIT ZEROdONEdTWOdTHREEdFOURdFIVEdSIXdSEVENdEIGHTdNINE",
  "11D60aGUNJALA GONDI LETTER AdAAdIdIIdUdUU",
  "11D67aGUNJALA GONDI LETTER EEdAI",
  "11D6AaGUNJALA GONDI LETTER OOdAUdYAdVAdBAdBHAdMAdKAdKHAdTAdTHAdLAdGAdGHAdDAdDHAdNAdCAdCHAdTTA",
  "11D7EaGUNJALA GONDI LETTER TTHAdLLAdJAdJHAdDDAdDDHAdNGAdPAdPHAdHAdRAdSAcVOWEL SIGN AAeIeIIeUeUU",
  "11D90aGUNJALA GONDI VOWEL SIGN EEeAI",
  "11D93aGUNJALA GONDI VOWEL SIGN OOeAUcSIGN ANUSVARAdVISARGAcVIRAMAcOM",
  "11DA0aGUNJALA GONDI DIGIT ZEROdONEdTWOdTHREEdFOURdFIVEdSIXdSEVENdEIGHTdNINE",
  "11EE0aMAKASAR LETTER KAcGAcNGAcPAcBAcMAcTAcDAcNAcCAcJAcNYAcYAcRAcLAcVAcSAcAbANGKAbVOWEL SIGN IdU",
  "11EF5aMAKASAR VOWEL SIGN EdObPASSIMBANGbEND OF SECTION",
  "11FB0aLISU LETTER YHA",
  "11FC0aTAMIL FRACTION ONE THREE-HUNDRED-AND-TWENTIETHdONE-HUNDRED-AND-SIXTIETHdEIGHTIETH",
  "11FC3aTAMIL FRACTION ONE SIXTY-FOURTHdFORTIETHdTHIRTY-SECONDcTHREE EIGHTIETHSdSIXTY-FOURTHS",
  "11FC8aTAMIL FRACTION ONE TWENTIETHdSIXTEENTH-1dSIXTEENTH-2dTENTHdEIGHTHcTHREE TWENTIETHS",
  "11FCEaTAMIL FRACTION THREE SIXTEENTHScONE FIFTHdQUARTERdHALF-1dHALF-2cTHREE QUARTERS",
  "11FD4aTAMIL FRACTION DOWNSCALING FACTOR KIIZHbSIGN NELcCEVITUcAAZHAAKKUcUZHAKKUcMUUVUZHAKKU",
  "11FDAaTAMIL SIGN KURUNIcPATHAKKUcMUKKURUNIcKAACUcPANAMcPONcVARAAKANcPAARAMcKUZHIcVELI",
  "11FE4aTAMIL WET CULTIVATION SIGNbDRY CULTIVATION SIGNbLAND SIGNbSALT PAN SIGN",
  "11FE8aTAMIL TRADITIONAL CREDIT SIGNcNUMBER SIGNbCURRENT SIGNbAND ODD SIGNbSPENT SIGNbTOTAL SIGN",
  "11FEEaTAMIL IN POSSESSION SIGNbSTARTING FROM SIGNbSIGN MUTHALIYAcVAKAIYARAA",
  "11FFFaTAMIL PUNCTUATION END OF TEXTaCUNEIFORM SIGN AdTIMES AeBADeGAN2 TENUeHAeIGIeLAGAR GUNU",
  "12007aCUNEIFORM SIGN A TIMES MUSHeSAGcA2cABdTIMES ASH2eDUN3 GUNUeGALeGAN2 TENUeHAeIGI GUNUeIMIN",
  "12012aCUNEIFORM SIGN AB TIMES LAGABeSHESHeU PLUS U PLUS UdGUNUcAB2dTIMES BALAGeGAN2 TENU",
  "12019aCUNEIFORM SIGN AB2 TIMES ME PLUS ENeSHA3eTAK4cADcAKdTIMES ERIN2eSHITA PLUS GISHcAL",
  "12021aCUNEIFORM SIGN AL TIMES ALeDIM2eGISHeHAeKAD3eKIeSHEeUSHcALANcALEPHcAMARdTIMES SHEcAN",
  "1202EaCUNEIFORM SIGN AN OVER ANdTHREE TIMESdPLUS NAGA OPPOSING AN PLUS NAGAfSQUAREDcANSHEcAPIN",
  "12034aCUNEIFORM SIGN ARADdTIMES KURcARKABcASAL2cASHdZIDA TENUdKABA TENU",
  "1203BaCUNEIFORM SIGN ASH OVER ASH TUG2 OVER TUG2 TUG2 OVER TUG2 PAPfOVER ASH",
  "1203DaCUNEIFORM SIGN ASH OVER ASH OVER ASH CROSSING ASH OVER ASH OVER ASHcASH2cASHGABcBAcBAD",
  "12042aCUNEIFORM SIGN BAG3cBAHAR2cBALdOVER BALcBALAGcBARcBARA2cBIdTIMES AeGAReIGI GUNUcBU",
  "1204EaCUNEIFORM SIGN BU OVER BU ABfUNdCROSSING BUcBULUGdOVER BULUGcBURcBUR2cDAcDAG",
  "12057aCUNEIFORM SIGN DAG KISIM5 TIMES A PLUS MASHfAMARfBALAGfBIfGAgPLUS MASHfGIfGIR2fGUDfHAfIR",
  "12062aCUNEIFORM SIGN DAG KISIM5 TIMES IR PLUS LUfKAKfLAfLUgPLUS MASH2fLUMfNEfPAP PLUS PAPfSI",
  "1206BaCUNEIFORM SIGN DAG KISIM5 TIMES TAK4fU2 PLUS GIR2fUSHcDAMcDARcDARA3cDARA4cDIcDIBcDIM",
  "12075aCUNEIFORM SIGN DIM TIMES SHEcDIM2cDINdKASKAL U GUNU DISHcDISHcDUdOVER DUdGUNUdSHESHIGcDUB",
  "1207FaCUNEIFORM SIGN DUB TIMES ESH2cDUB2cDUGcDUGUDcDUHcDUNcDUN3dGUNUeGUNUcDUN4cDUR2cEdTIMES PAP",
  "1208CaCUNEIFORM SIGN E OVER E NUN OVER NUNcE2dTIMES A PLUS HA PLUS DAeGAReMIeSALeSHEeUcEDINcEGIR",
  "12096aCUNEIFORM SIGN ELcENdTIMES GAN2fTENUeMEdCROSSING ENdOPPOSING ENdSQUAREDcERENcERIN2cESH2",
  "120A1aCUNEIFORM SIGN EZENdTIMES AfPLUS LALhTIMES LALeANeBADeDUN3 GUNUgGUNUeHAfGUNUeIGI GUNU",
  "120ACaCUNEIFORM SIGN EZEN TIMES KASKALfSQUAREDeKU3eLAeLAL TIMES LALeLIeLUeU2eUDcGAdGUNUcGA2",
  "120B8aCUNEIFORM SIGN GA2 TIMES A PLUS DA PLUS HAgHAgIGIeAB2 TENU PLUS TABeANeASHeASH2 PLUS GAL",
  "120BFaCUNEIFORM SIGN GA2 TIMES BADeBAR PLUS RAeBURfPLUS RAeDAeDIeDIM TIMES SHEeDUBeELfPLUS LAeEN",
  "120CAaCUNEIFORM SIGN GA2 TIMES EN TIMES GAN2 TENUeGAN2 TENUeGAReGIeGI4fPLUS AeGIR2 PLUS SU",
  "120D1aCUNEIFORM SIGN GA2 TIMES HA PLUS LU PLUS ESH2eHALfPLUS LAeHI PLUS LIeHUB2eIGI GUNU",
  "120D7aCUNEIFORM SIGN GA2 TIMES ISH PLUS HU PLUS ASHeKAKeKASKALeKIDfPLUS LALeKU3 PLUS ANeLA",
  "120DEaCUNEIFORM SIGN GA2 TIMES ME PLUS ENeMIeNUNfOVER NUNePAeSALeSAReSHEfPLUS TUReSHIDeSUMeTAK4",
  "120EAaCUNEIFORM SIGN GA2 TIMES UeUDfPLUS DUdOVER GA2cGABAdCROSSING GABAcGAD",
  "120F1aCUNEIFORM SIGN GAD OVER GAD GAR OVER GARcGALdGAD OVER GAD GAR OVER GARcGALAMcGAMcGANcGAN2",
  "120F8aCUNEIFORM SIGN GAN2 TENUdOVER GAN2dCROSSING GAN2cGARcGAR3cGASHANcGESHTINdTIMES KURcGI",
  "12101aCUNEIFORM SIGN GI TIMES EeUdCROSSING GIcGI4dOVER GI4dCROSSING GI4cGIDIMcGIR2dGUNUcGIR3",
  "1210BaCUNEIFORM SIGN GIR3 TIMES A PLUS IGIeGAN2 TENUeIGIeLU PLUS IGIePAcGISALcGISHdCROSSING GISH",
  "12113aCUNEIFORM SIGN GISH TIMES BADeTAK4dTENUcGUdCROSSING GUcGU2dTIMES KAKfTIMES IGI GUNUeNUN",
  "1211CaCUNEIFORM SIGN GU2 TIMES SAL PLUS TUG2dGUNUcGUDdTIMES A PLUS KUReKURdOVER GUD LUGALcGUL",
  "12123aCUNEIFORM SIGN GUMdTIMES SHEcGURcGUR7cGURUNcGURUSHcHAdTENUdGUNUcHALcHIdTIMES ASHeASH2eBAD",
  "12131aCUNEIFORM SIGN HI TIMES DISHeGADeKINeNUNeSHEeUcHUcHUB2dTIMES ANeHALeKASKALeLISHeUDcHUL2cI",
  "12140aCUNEIFORM SIGN I AcIBcIDIMdOVER IDIM BURfSQUAREDcIGcIGIdDIBdRI",
  "12149aCUNEIFORM SIGN IGI OVER IGI SHIR OVER SHIR UD OVER UDdGUNUcILdTIMES GAN2 TENUcIL2cIM",
  "1214FaCUNEIFORM SIGN IM TIMES TAK4dCROSSING IMdOPPOSING IMdSQUAREDcIMINcINcIRcISHcKAdTIMES AeAD",
  "1215AaCUNEIFORM SIGN KA TIMES AD PLUS KU3eASH2eBADeBALAGeBAReBIeERIN2eESH2eGAeGALeGAN2 TENUeGAR",
  "12166aCUNEIFORM SIGN KA TIMES GAR PLUS SHA3 PLUS AeGIeGIR2eGISH PLUS SARfCROSSING GISHeGUeGUR7",
  "1216DaCUNEIFORM SIGN KA TIMES IGIeIMeKAKeKIeKIDeLIeLUeMEfPLUS DUgGIgTEeMIfPLUS NUNUZeNEeNUNePI",
  "1217DaCUNEIFORM SIGN KA TIMES RUeSAeSAReSHAeSHEeSHIDeSHUeSIGeSUHUReTAReUeU2eUDeUMUM TIMES PAeUSH",
  "1218CaCUNEIFORM SIGN KA TIMES ZIcKA2dCROSSING KA2cKABcKAD2cKAD3cKAD4cKAD5dOVER KAD5cKAK",
  "12196aCUNEIFORM SIGN KAK TIMES IGI GUNUcKALdTIMES BADdCROSSING KALcKAM2cKAM4cKASKAL",
  "1219DaCUNEIFORM SIGN KASKAL LAGAB TIMES U OVER LAGAB TIMES U",
  "1219EaCUNEIFORM SIGN KASKAL OVER KASKAL LAGAB TIMES U OVER LAGAB TIMES UcKESH2cKIdTIMES BADeUeUD",
  "121A4aCUNEIFORM SIGN KIDcKINcKISALcKISHcKISIM5dOVER KISIM5cKU",
  "121ABaCUNEIFORM SIGN KU OVER HI TIMES ASH2 KU OVER HI TIMES ASH2cKU3cKU4dVARIANT FORMcKU7cKUL",
  "121B1aCUNEIFORM SIGN KUL GUNUcKUNcKURdOPPOSING KURcKUSHU2cKWU318cLAcLAGABdTIMES A",
  "121BAaCUNEIFORM SIGN LAGAB TIMES A PLUS DA PLUS HAgGARgLALeALeANeASH ZIDA TENUeBADeBIeDAReENeGA",
  "121C5aCUNEIFORM SIGN LAGAB TIMES GAReGUDfPLUS GUDeHAeHALeHI TIMES NUNeIGI GUNUeIMfPLUS HAgLUeKI",
  "121D0aCUNEIFORM SIGN LAGAB TIMES KINeKU3eKULfPLUS HI PLUS AeLAGABeLISHeLUeLULeMEfPLUS ENeMUSHeNE",
  "121DCaCUNEIFORM SIGN LAGAB TIMES SHE PLUS SUMeSHITA PLUS GISH PLUS ERIN2hTENUeSHU2fPLUS SHU2eSUM",
  "121E2aCUNEIFORM SIGN LAGAB TIMES TAGeTAK4eTE PLUS A PLUS SU PLUS NAeUfPLUS AgU PLUS U",
  "121E8aCUNEIFORM SIGN LAGAB TIMES U2 PLUS ASHeUDeUSHdSQUAREDcLAGARdTIMES SHEfPLUS SUMdGUNU",
  "121F0aCUNEIFORM SIGN LAGAR GUNU OVER LAGAR GUNU SHEcLAHSHUcLALdTIMES LALcLAMdTIMES KURfPLUS RU",
  "121F7aCUNEIFORM SIGN LIcLILcLIMMU2cLISHcLUdTIMES BADcLU2dTIMES ALeBADeESH2fTENUeGAN2 TENU",
  "12203aCUNEIFORM SIGN LU2 TIMES HI TIMES BADeIMeKAD2eKAD3fPLUS ASHeKIeLA PLUS ASHeLAGAB",
  "1220BaCUNEIFORM SIGN LU2 TIMES ME PLUS ENeNEeNUeSI PLUS ASHeSIK2 PLUS BUeTUG2dTENUdCROSSING LU2",
  "12213aCUNEIFORM SIGN LU2 OPPOSING LU2dSQUAREDdSHESHIGcLU3cLUGALdOVER LUGALdOPPOSING LUGAL",
  "1221AaCUNEIFORM SIGN LUGAL SHESHIGcLUHcLULcLUMdOVER LUMfGAR OVER GARcMAdTIMES TAK4dGUNUcMA2cMAH",
  "12225aCUNEIFORM SIGN MARcMASHcMASH2cMEcMEScMIcMINcMUdOVER MUcMUGdGUNUcMUNSUBcMURGU2cMUSHdTIMES A"]

/-- More rows of names. -/
def nameRowsJ : List String := [
  "12234aCUNEIFORM SIGN MUSH TIMES KUReZAdOVER MUSHfTIMES A PLUS NAdCROSSING MUSHcMUSH3dTIMES A",
  "1223BaCUNEIFORM SIGN MUSH3 TIMES A PLUS DIeDIdGUNUcNAcNA2cNAGAdINVERTEDdTIMES SHU TENU",
  "12243aCUNEIFORM SIGN NAGA OPPOSING NAGAcNAGARcNAM NUTILLU",
  "12246aCUNEIFORM SIGN NAMcNAM2cNEdTIMES AeUDdSHESHIGcNIdTIMES EcNI2cNIMdTIMES GAN2 TENU",
  "12251aCUNEIFORM SIGN NIM TIMES GAR PLUS GAN2 TENUcNINDA2dTIMES ANeASHfPLUS ASHeGUD",
  "12257aCUNEIFORM SIGN NINDA2 TIMES ME PLUS GAN2 TENUeNEeNUNeSHEfPLUS A ANgASHhPLUS ASH",
  "1225EaCUNEIFORM SIGN NINDA2 TIMES U2 PLUS ASHeUSHcNISAGcNUcNU11cNUNdLAGAR TIMES GARfMASHfSAL",
  "12267aCUNEIFORM SIGN NUN LAGAR TIMES SAL OVER NUN LAGAR TIMES SALfUSHdTENUdOVER NUNdCROSSING NUN",
  "1226CaCUNEIFORM SIGN NUN CROSSING NUN LAGAR OVER LAGARcNUNUZdAB2 TIMES ASHGABfBIfDUGfGUD",
  "12272aCUNEIFORM SIGN NUNUZ AB2 TIMES IGI GUNUfKAD3fLAfNEfSILA3fU2dKISIM5 TIMES BIgUcPAcPADcPAN",
  "1227DaCUNEIFORM SIGN PAPcPESH2cPIdTIMES AeABeBIeBUeEeIeIBeUeU2dCROSSING PIcPIRIGdTIMES KALeUDeZA",
  "1228EaCUNEIFORM SIGN PIRIG OPPOSING PIRIGcRAcRABcRIcRUcSAcSAG NUTILLU",
  "12295aCUNEIFORM SIGN SAGdTIMES AeDUeDUBeHAeKAKeKUReLUMeMIeNUNeSALeSHIDeTABeU2eUBeUMeUReUSH",
  "122A7aCUNEIFORM SIGN SAG OVER SAGdGUNUcSALdLAGAB TIMES ASH2cSANGA2cSARcSHAcSHA3dTIMES AeBADeGISH",
  "122B2aCUNEIFORM SIGN SHA3 TIMES NEeSHU2eTUReUfPLUS AcSHA6cSHAB6cSHAR2cSHEdHU",
  "122BCaCUNEIFORM SIGN SHE OVER SHE GAD OVER GAD GAR OVER GARfTAB OVER TAB GAR OVER GARcSHEG9cSHEN",
  "122C0aCUNEIFORM SIGN SHESHcSHESH2cSHESHLAMcSHIDdTIMES AeIMcSHIMdTIMES AeBALeBULUGeDINeGAReIGI",
  "122CDaCUNEIFORM SIGN SHIM TIMES IGI GUNUeKUSHU2eLULeMUGeSALcSHINIGcSHIRdTENU",
  "122D5aCUNEIFORM SIGN SHIR OVER SHIR BUR OVER BURcSHITAcSHUdOVER INVERTED SHUcSHU2cSHUBURcSIdGUNU",
  "122DDaCUNEIFORM SIGN SIGcSIG4dOVER SIG4 SHU2cSIK2cSILA3cSUdOVER SUcSUDcSUD2cSUHURcSUMcSUMASHcSUR",
  "122EAaCUNEIFORM SIGN SUR9cTAdASTERISKdTIMES HIeMIdGUNUcTABdOVER TAB NI OVER NI DISH OVER DISH",
  "122F2aCUNEIFORM SIGN TAB SQUAREDcTAGdTIMES BIeGUDeSHEeSHUeTUG2eUDcTAK4cTARcTEdGUNUcTIdTENUcTIL",
  "12301aCUNEIFORM SIGN TIRdTIMES TAK4dOVER TIRfGAD OVER GAD GAR OVER GARcTUcTUG2cTUKcTUMcTUR",
  "1230AaCUNEIFORM SIGN TUR OVER TUR ZA OVER ZAcUdGUDdU UdOVER U PA OVER PA GAR OVER GAR",
  "1230FaCUNEIFORM SIGN U OVER U SUR OVER SURfU REVERSED OVER U REVERSEDcU2cUBcUDdKUSHU2dTIMES BAD",
  "12316aCUNEIFORM SIGN UD TIMES MIeU PLUS U PLUS UjGUNUdGUNUdSHESHIGeTIMES BADcUDUGcUMdTIMES LAGAB",
  "1231FaCUNEIFORM SIGN UM TIMES ME PLUS DAeSHA3eUcUMBINcUMUMdTIMES KASKALePAcUNdGUNUcUR",
  "12329aCUNEIFORM SIGN UR CROSSING URdSHESHIGcUR2dTIMES A PLUS HAgNAeALeHAeNUNeU2fPLUS ASHgBIcUR4",
  "12335aCUNEIFORM SIGN URIcURI3cURUdTIMES AeASHGABeBAReDUNeGAeGALeGAN2 TENUeGAReGUeHAeIGIeIMeISH",
  "12345aCUNEIFORM SIGN URU TIMES KIeLUMeMINePAeSHEeSIG4eTUeU PLUS GUDeUDeURUDAcURUDAdTIMES UcUSH",
  "12352aCUNEIFORM SIGN USH TIMES AeKUeKUReTAK4cUSHXcUSH2cUSHUMXcUTUKIcUZ3dTIMES KASKALcUZUcZAdTENU",
  "1235FaCUNEIFORM SIGN ZA SQUARED TIMES KURcZAGcZAMXcZE2cZIdOVER ZIcZI3cZIBdKABA TENUcZIGcZIZ2cZU",
  "1236BaCUNEIFORM SIGN ZU5dTIMES AcZUBURcZUMcKAP ELAMITEcAB TIMES NUNcAB2 TIMES AcAMAR TIMES KUG",
  "12373aCUNEIFORM SIGN DAG KISIM5 TIMES U2 PLUS MASHcDAG3cDISH PLUS SHUcDUB TIMES SHE",
  "12377aCUNEIFORM SIGN EZEN TIMES GUDeSHEcGA2 TIMES AN PLUS KAK PLUS AeASH2cGE22cGIGcHUSH",
  "1237EaCUNEIFORM SIGN KA TIMES ANSHEeASH3eGISHeGUDeHI TIMES ASH2eLUMePAeSHULeTUeUR2",
  "12388aCUNEIFORM SIGN LAGAB TIMES GIcLU2 SHESHIG TIMES BADdTIMES ESH2 PLUS LALeSHUcMESH",
  "1238DaCUNEIFORM SIGN MUSH3 TIMES ZAcNA4cNINcNIN9cNINDA2 TIMES BALeGIcNU11 ROTATED NINETY DEGREES",
  "12394aCUNEIFORM SIGN PESH2 ASTERISKcPIR2cSAG TIMES IGI GUNUcTI2cUM TIMES MEcU U",
  "12400aCUNEIFORM NUMERIC SIGN TWO ASHdTHREE ASHdFOUR ASHdFIVE ASHdSIX ASHdSEVEN ASHdEIGHT ASH",
  "12407aCUNEIFORM NUMERIC SIGN NINE ASHdTHREE DISHdFOUR DISHdFIVE DISHdSIX DISHdSEVEN DISH",
  "1240DaCUNEIFORM NUMERIC SIGN EIGHT DISHdNINE DISHdFOUR UdFIVE UdSIX UdSEVEN UdEIGHT UdNINE U",
  "12415aCUNEIFORM NUMERIC SIGN ONE GESH2dTWO GESH2dTHREE GESH2dFOUR GESH2dFIVE GESH2dSIX GESH2",
  "1241BaCUNEIFORM NUMERIC SIGN SEVEN GESH2dEIGHT GESH2dNINE GESH2dONE GESHUdTWO GESHUdTHREE GESHU",
  "12421aCUNEIFORM NUMERIC SIGN FOUR GESHUdFIVE GESHUdTWO SHAR2dTHREE SHAR2fVARIANT FORMdFOUR SHAR2",
  "12427aCUNEIFORM NUMERIC SIGN FIVE SHAR2dSIX SHAR2dSEVEN SHAR2dEIGHT SHAR2dNINE SHAR2dONE SHARU",
  "1242DaCUNEIFORM NUMERIC SIGN TWO SHARUdTHREE SHARUfVARIANT FORMdFOUR SHARUdFIVE SHARU",
  "12432aCUNEIFORM NUMERIC SIGN SHAR2 TIMES GAL PLUS DISHhMINdONE BURUdTWO BURUdTHREE BURU",
  "12437aCUNEIFORM NUMERIC SIGN THREE BURU VARIANT FORMdFOUR BURUdFIVE BURU",
  "1243AaCUNEIFORM NUMERIC SIGN THREE VARIANT FORM ESH16gESH21dFOUR VARIANT FORM LIMMUgLIMMU4",
  "1243EaCUNEIFORM NUMERIC SIGN FOUR VARIANT FORM LIMMU AhBdSIX VARIANT FORM ASH9",
  "12441aCUNEIFORM NUMERIC SIGN SEVEN VARIANT FORM IMIN3gIMIN AhBdEIGHT VARIANT FORM USSUgUSSU3",
  "12446aCUNEIFORM NUMERIC SIGN NINE VARIANT FORM ILIMMUgILIMMU3gILIMMU4gILIMMU AdTWO ASH TENU",
  "1244BaCUNEIFORM NUMERIC SIGN THREE ASH TENUdFOUR ASH TENUdFIVE ASH TENUdSIX ASH TENUdONE BAN2",
  "12450aCUNEIFORM NUMERIC SIGN TWO BAN2dTHREE BAN2dFOUR BAN2fVARIANT FORMdFIVE BAN2fVARIANT FORM",
  "12456aCUNEIFORM NUMERIC SIGN NIGIDAMINdNIGIDAESHdONE ESHE3dTWO ESHE3dONE THIRD DISH",
  "1245BaCUNEIFORM NUMERIC SIGN TWO THIRDS DISHdFIVE SIXTHS DISHdONE THIRD VARIANT FORM A",
  "1245EaCUNEIFORM NUMERIC SIGN TWO THIRDS VARIANT FORM AdONE EIGHTH ASHeQUARTER ASH",
  "12461aCUNEIFORM NUMERIC SIGN OLD ASSYRIAN ONE SIXTHgQUARTERdONE QUARTER GUReHALF GUR",
  "12465aCUNEIFORM NUMERIC SIGN ELAMITE ONE THIRDeTWO THIRDSeFORTYeFIFTYdFOUR U VARIANT FORM",
  "1246AaCUNEIFORM NUMERIC SIGN FIVE U VARIANT FORMdSIX U VARIANT FORMdSEVEN U VARIANT FORM",
  "1246DaCUNEIFORM NUMERIC SIGN EIGHT U VARIANT FORMdNINE U VARIANT FORM",
  "12470aCUNEIFORM PUNCTUATION SIGN OLD ASSYRIAN WORD DIVIDERdVERTICAL COLONdDIAGONAL COLON",
  "12473aCUNEIFORM PUNCTUATION SIGN DIAGONAL TRICOLONeQUADCOLON",
  "12480aCUNEIFORM SIGN AB TIMES NUN TENUeSHU2cAD TIMES ESH2cBAD TIMES DISH TENUcBAHAR2 TIMES AB2",
  "12485aCUNEIFORM SIGN BAHAR2 TIMES NIeZAcBU OVER BU TIMES NA2cDA TIMES TAK4cDAG TIMES KUR",
  "1248AaCUNEIFORM SIGN DIM TIMES IGIeU U UcDIM2 TIMES UDcDUG TIMES ANSHEeASHfAT LEFTeDINeDUNeERIN2",
  "12493aCUNEIFORM SIGN DUG TIMES GAeGIeGIR2 GUNUeGISHeHAeHIeIGI GUNUeKASKALeKUReKUSHU2fPLUS KASKAL",
  "1249EaCUNEIFORM SIGN DUG TIMES LAK-020eLAMfTIMES KUReLUH PLUS GISHeMASHeMESeMIeNIePIeSHEeSI GUNU",
  "124A9aCUNEIFORM SIGN E2 TIMES KURePAPcERIN2 XcESH2 CROSSING ESH2cEZEN SHESHIG TIMES ASHfHI",
  "124AFaCUNEIFORM SIGN EZEN SHESHIG TIMES IGI GUNUfLAfLALfMEfMESfSUdTIMES SUcGA2 TIMES BAHAR2",
  "124B7aCUNEIFORM SIGN GA2 TIMES DIM GUNUeDUG TIMES IGI GUNUgKASKALeERENeGAeGAR PLUS DIgNE",
  "124BEaCUNEIFORM SIGN GA2 TIMES HA PLUS AeKUSHU2 PLUS KASKALeLAMfTIMES KUReLUHeMUSHeNEfPLUS E2gGI",
  "124C7aCUNEIFORM SIGN GA2 TIMES SHIMeZIZ2cGABA ROTATED NINETY DEGREEScGESHTIN TIMES U",
  "124CBaCUNEIFORM SIGN GISH TIMES GISH CROSSING GISHcGU2 TIMES IGI GUNUcGUD PLUS GISH TIMES TAK4",
  "124CEaCUNEIFORM SIGN HA TENU GUNUcHI TIMES ASH OVER HI TIMES ASHcKA TIMES BUeKAeU U UeUR",
  "124D4aCUNEIFORM SIGN LAGAB TIMES ZU OVER ZUcLAK-003cLAK-021cLAK-025cLAK-030cLAK-050cLAK-051",
  "124DBaCUNEIFORM SIGN LAK-062cLAK-079 OVER LAK-079 GUNUcLAK-080cLAK-081 OVER LAK-081cLAK-092",
  "124E0aCUNEIFORM SIGN LAK-130cLAK-142cLAK-210cLAK-219cLAK-220cLAK-225cLAK-228cLAK-238cLAK-265",
  "124E9aCUNEIFORM SIGN LAK-266cLAK-343cLAK-347cLAK-348cLAK-383cLAK-384cLAK-390cLAK-441cLAK-449",
  "124F2aCUNEIFORM SIGN LAK-449 TIMES GUeIGIePAP PLUS LU3gPAP PLUS LU3eU2 PLUS BAcLAK-450cLAK-457",
  "124F9aCUNEIFORM SIGN LAK-470cLAK-483cLAK-490cLAK-492cLAK-493cLAK-495cLAK-550cLAK-608cLAK-617",
  "12502aCUNEIFORM SIGN LAK-617 TIMES ASHeBADeDUN3 GUNU GUNUeKU3eLAeTAReTEeU2eUDeURUDAcLAK-636",
  "1250DaCUNEIFORM SIGN LAK-648dTIMES DUBeGAeIGIfGUNUeNIePAP PLUS PAP PLUS LU3eSHESH PLUS KIeUD",
  "12516aCUNEIFORM SIGN LAK-648 TIMES URUDAcLAK-724cLAK-749cLU2 GUNU TIMES ASHdTIMES DISHeHALePAP",
  "1251DaCUNEIFORM SIGN LU2 TIMES PAP PLUS PAP PLUS LU3eTAK4cMI PLUS ZA7cMUSH OVER MUSH TIMES GA",
  "12521aCUNEIFORM SIGN MUSH OVER MUSH TIMES KAKcNINDA2 TIMES DIM GUNUeGISHeGULeHIeKESH2eLAK-050",
  "12528aCUNEIFORM SIGN NINDA2 TIMES MASHePAP PLUS PAPeUfPLUS UeURUDAcSAG GUNU TIMES HAdTIMES EN",
  "1252FaCUNEIFORM SIGN SAG TIMES SHE AT LEFTeTAK4cSHA6 TENUcSHE OVER SHEdPLUS HUB2eNAM2eSAR",
  "12536aCUNEIFORM SIGN SHU2 PLUS DUG TIMES NIeE2 TIMES ANcSI TIMES TAK4cTAK4 PLUS SAG",
  "1253AaCUNEIFORM SIGN TUM TIMES GAN2 TENUeTHREE DISHcUR2 INVERTEDdTIMES UDcURU TIMES DARA3",
  "1253FaCUNEIFORM SIGN URU TIMES LAK-668eLU3cZA7cZU OVER ZU PLUS SARcZU5 TIMES THREE DISH TENU",
  "12F90aCYPRO-MINOAN SIGN CM001cCM002cCM004cCM005cCM006cCM007cCM008cCM009cCM010cCM011cCM012cCM012B",
  "12F9CaCYPRO-MINOAN SIGN CM013cCM015cCM017cCM019cCM021cCM023cCM024cCM025cCM026cCM027cCM028cCM029",
  "12FA8aCYPRO-MINOAN SIGN CM030cCM033cCM034cCM035cCM036cCM037cCM038cCM039cCM040cCM041cCM044cCM046",
  "12FB4aCYPRO-MINOAN SIGN CM047cCM049cCM050cCM051cCM052cCM053cCM054cCM055cCM056cCM058cCM059cCM060",
  "12FC0aCYPRO-MINOAN SIGN CM061cCM062cCM063cCM064cCM066cCM067cCM068cCM069cCM070cCM071cCM072cCM073",
  "12FCCaCYPRO-MINOAN SIGN CM074cCM075cCM075BcCM076cCM078cCM079cCM080cCM081cCM082cCM083cCM084cCM085",
  "12FD8aCYPRO-MINOAN SIGN CM086cCM087cCM088cCM089cCM090cCM091cCM092cCM094cCM095cCM096cCM097cCM098",
  "12FE4aCYPRO-MINOAN SIGN CM099cCM100cCM101cCM102cCM103cCM104cCM105cCM107cCM108cCM109cCM110cCM112",
  "12FF0aCYPRO-MINOAN SIGN CM114cCM301cCM302",
  "13000aEGYPTIAN HIEROGLYPH A001cA002cA003cA004cA005cA005AcA006cA006AcA006BcA007cA008cA009cA010",
  "1300DaEGYPTIAN HIEROGLYPH A011cA012cA013cA014cA014AcA015cA016cA017cA017AcA018cA019cA020cA021",
  "1301AaEGYPTIAN HIEROGLYPH A022cA023cA024cA025cA026cA027cA028cA029cA030cA031cA032cA032AcA033cA034",
  "13028aEGYPTIAN HIEROGLYPH A035cA036cA037cA038cA039cA040cA040AcA041cA042cA042AcA043cA043AcA044",
  "13035aEGYPTIAN HIEROGLYPH A045cA045AcA046cA047cA048cA049cA050cA051cA052cA053cA054cA055cA056cA057",
  "13043aEGYPTIAN HIEROGLYPH A058cA059cA060cA061cA062cA063cA064cA065cA066cA067cA068cA069cA070cB001",
  "13051aEGYPTIAN HIEROGLYPH B002cB003cB004cB005cB005AcB006cB007cB008cB009cC001cC002cC002AcC002B",
  "1305EaEGYPTIAN HIEROGLYPH C002CcC003cC004cC005cC006cC007cC008cC009cC010cC010AcC011cC012cC013",
  "1306BaEGYPTIAN HIEROGLYPH C014cC015cC016cC017cC018cC019cC020cC021cC022cC023cC024cD001cD002cD003",
  "13079aEGYPTIAN HIEROGLYPH D004cD005cD006cD007cD008cD008AcD009cD010cD011cD012cD013cD014cD015cD016",
  "13087aEGYPTIAN HIEROGLYPH D017cD018cD019cD020cD021cD022cD023cD024cD025cD026cD027cD027AcD028cD029",
  "13095aEGYPTIAN HIEROGLYPH D030cD031cD031AcD032cD033cD034cD034AcD035cD036cD037cD038cD039cD040",
  "130A2aEGYPTIAN HIEROGLYPH D041cD042cD043cD044cD045cD046cD046AcD047cD048cD048AcD049cD050cD050A",
  "130AFaEGYPTIAN HIEROGLYPH D050BcD050CcD050DcD050EcD050FcD050GcD050HcD050IcD051cD052cD052AcD053",
  "130BBaEGYPTIAN HIEROGLYPH D054cD054AcD055cD056cD057cD058cD059cD060cD061cD062cD063cD064cD065cD066",
  "130C9aEGYPTIAN HIEROGLYPH D067cD067AcD067BcD067CcD067DcD067EcD067FcD067GcD067HcE001cE002cE003",
  "130D5aEGYPTIAN HIEROGLYPH E004cE005cE006cE007cE008cE008AcE009cE009AcE010cE011cE012cE013cE014",
  "130E2aEGYPTIAN HIEROGLYPH E015cE016cE016AcE017cE017AcE018cE019cE020cE020AcE021cE022cE023cE024",
  "130EFaEGYPTIAN HIEROGLYPH E025cE026cE027cE028cE028AcE029cE030cE031cE032cE033cE034cE034AcE036",
  "130FCaEGYPTIAN HIEROGLYPH E037cE038cF001cF001AcF002cF003cF004cF005cF006cF007cF008cF009cF010cF011",
  "1310AaEGYPTIAN HIEROGLYPH F012cF013cF013AcF014cF015cF016cF017cF018cF019cF020cF021cF021AcF022",
  "13117aEGYPTIAN HIEROGLYPH F023cF024cF025cF026cF027cF028cF029cF030cF031cF031AcF032cF033cF034cF035",
  "13125aEGYPTIAN HIEROGLYPH F036cF037cF037AcF038cF038AcF039cF040cF041cF042cF043cF044cF045cF045A",
  "13132aEGYPTIAN HIEROGLYPH F046cF046AcF047cF047AcF048cF049cF050cF051cF051AcF051BcF051CcF052cF053",
  "1313FaEGYPTIAN HIEROGLYPH G001cG002cG003cG004cG005cG006cG006AcG007cG007AcG007BcG008cG009cG010",
  "1314CaEGYPTIAN HIEROGLYPH G011cG011AcG012cG013cG014cG015cG016cG017cG018cG019cG020cG020AcG021",
  "13159aEGYPTIAN HIEROGLYPH G022cG023cG024cG025cG026cG026AcG027cG028cG029cG030cG031cG032cG033cG034",
  "13167aEGYPTIAN HIEROGLYPH G035cG036cG036AcG037cG037AcG038cG039cG040cG041cG042cG043cG043AcG044",
  "13174aEGYPTIAN HIEROGLYPH G045cG045AcG046cG047cG048cG049cG050cG051cG052cG053cG054cH001cH002cH003",
  "13182aEGYPTIAN HIEROGLYPH H004cH005cH006cH006AcH007cH008cI001cI002cI003cI004cI005cI005AcI006",
  "1318FaEGYPTIAN HIEROGLYPH I007cI008cI009cI009AcI010cI010AcI011cI011AcI012cI013cI014cI015cK001",
  "1319CaEGYPTIAN HIEROGLYPH K002cK003cK004cK005cK006cK007cK008cL001cL002cL002AcL003cL004cL005cL006",
  "131AAaEGYPTIAN HIEROGLYPH L006AcL007cL008cM001cM001AcM001BcM002cM003cM003AcM004cM005cM006cM007",
  "131B7aEGYPTIAN HIEROGLYPH M008cM009cM010cM010AcM011cM012cM012AcM012BcM012CcM012DcM012EcM012F",
  "131C3aEGYPTIAN HIEROGLYPH M012GcM012HcM013cM014cM015cM015AcM016cM016AcM017cM017AcM018cM019cM020",
  "131D0aEGYPTIAN HIEROGLYPH M021cM022cM022AcM023cM024cM024AcM025cM026cM027cM028cM028AcM029cM030",
  "131DDaEGYPTIAN HIEROGLYPH M031cM031AcM032cM033cM033AcM033BcM034cM035cM036cM037cM038cM039cM040",
  "131EAaEGYPTIAN HIEROGLYPH M040AcM041cM042cM043cM044cN001cN002cN003cN004cN005cN006cN007cN008cN009",
  "131F8aEGYPTIAN HIEROGLYPH N010cN011cN012cN013cN014cN015cN016cN017cN018cN018AcN018BcN019cN020",
  "13205aEGYPTIAN HIEROGLYPH N021cN022cN023cN024cN025cN025AcN026cN027cN028cN029cN030cN031cN032cN033",
  "13213aEGYPTIAN HIEROGLYPH N033AcN034cN034AcN035cN035AcN036cN037cN037AcN038cN039cN040cN041cN042",
  "13220aEGYPTIAN HIEROGLYPH NL001cNL002cNL003cNL004cNL005cNL005AcNL006cNL007cNL008cNL009cNL010",
  "1322BaEGYPTIAN HIEROGLYPH NL011cNL012cNL013cNL014cNL015cNL016cNL017cNL017AcNL018cNL019cNL020",
  "13236aEGYPTIAN HIEROGLYPH NU001cNU002cNU003cNU004cNU005cNU006cNU007cNU008cNU009cNU010cNU010A",
  "13241aEGYPTIAN HIEROGLYPH NU011cNU011AcNU012cNU013cNU014cNU015cNU016cNU017cNU018cNU018AcNU019",
  "1324CaEGYPTIAN HIEROGLYPH NU020cNU021cNU022cNU022AcO001cO001AcO002cO003cO004cO005cO005AcO006",
  "13258aEGYPTIAN HIEROGLYPH O006AcO006BcO006CcO006DcO006EcO006FcO007cO008cO009cO010cO010AcO010B",
  "13264aEGYPTIAN HIEROGLYPH O010CcO011cO012cO013cO014cO015cO016cO017cO018cO019cO019AcO020cO020A",
  "13271aEGYPTIAN HIEROGLYPH O021cO022cO023cO024cO024AcO025cO025AcO026cO027cO028cO029cO029AcO030",
  "1327EaEGYPTIAN HIEROGLYPH O030AcO031cO032cO033cO033AcO034cO035cO036cO036AcO036BcO036CcO036DcO037",
  "1328BaEGYPTIAN HIEROGLYPH O038cO039cO040cO041cO042cO043cO044cO045cO046cO047cO048cO049cO050cO050A",
  "13299aEGYPTIAN HIEROGLYPH O050BcO051cP001cP001AcP002cP003cP003AcP004cP005cP006cP007cP008cP009",
  "132A6aEGYPTIAN HIEROGLYPH P010cP011cQ001cQ002cQ003cQ004cQ005cQ006cQ007cR001cR002cR002AcR003",
  "132B3aEGYPTIAN HIEROGLYPH R003AcR003BcR004cR005cR006cR007cR008cR009cR010cR010AcR011cR012cR013",
  "132C0aEGYPTIAN HIEROGLYPH R014cR015cR016cR016AcR017cR018cR019cR020cR021cR022cR023cR024cR025cR026",
  "132CEaEGYPTIAN HIEROGLYPH R027cR028cR029cS001cS002cS002AcS003cS004cS005cS006cS006AcS007cS008",
  "132DBaEGYPTIAN HIEROGLYPH S009cS010cS011cS012cS013cS014cS014AcS014BcS015cS016cS017cS017AcS018",
  "132E8aEGYPTIAN HIEROGLYPH S019cS020cS021cS022cS023cS024cS025cS026cS026AcS026BcS027cS028cS029",
  "132F5aEGYPTIAN HIEROGLYPH S030cS031cS032cS033cS034cS035cS035AcS036cS037cS038cS039cS040cS041cS042",
  "13303aEGYPTIAN HIEROGLYPH S043cS044cS045cS046cT001cT002cT003cT003AcT004cT005cT006cT007cT007A",
  "13310aEGYPTIAN HIEROGLYPH T008cT008AcT009cT009AcT010cT011cT011AcT012cT013cT014cT015cT016cT016A",
  "1331DaEGYPTIAN HIEROGLYPH T017cT018cT019cT020cT021cT022cT023cT024cT025cT026cT027cT028cT029cT030",
  "1332BaEGYPTIAN HIEROGLYPH T031cT032cT032AcT033cT033AcT034cT035cT036cU001cU002cU003cU004cU005",
  "13338aEGYPTIAN HIEROGLYPH U006cU006AcU006BcU007cU008cU009cU010cU011cU012cU013cU014cU015cU016",
  "13345aEGYPTIAN HIEROGLYPH U017cU018cU019cU020cU021cU022cU023cU023AcU024cU025cU026cU027cU028cU029",
  "13353aEGYPTIAN HIEROGLYPH U029AcU030cU031cU032cU032AcU033cU034cU035cU036cU037cU038cU039cU040",
  "13360aEGYPTIAN HIEROGLYPH U041cU042cV001cV001AcV001BcV001CcV001DcV001EcV001FcV001GcV001HcV001I",
  "1336CaEGYPTIAN HIEROGLYPH V002cV002AcV003cV004cV005cV006cV007cV007AcV007BcV008cV009cV010cV011",
  "13379aEGYPTIAN HIEROGLYPH V011AcV011BcV011CcV012cV012AcV012BcV013cV014cV015cV016cV017cV018cV019",
  "13386aEGYPTIAN HIEROGLYPH V020cV020AcV020BcV020CcV020DcV020EcV020FcV020GcV020HcV020IcV020JcV020K",
  "13392aEGYPTIAN HIEROGLYPH V020LcV021cV022cV023cV023AcV024cV025cV026cV027cV028cV028AcV029cV029A",
  "1339FaEGYPTIAN HIEROGLYPH V030cV030AcV031cV031AcV032cV033cV033AcV034cV035cV036cV037cV037AcV038",
  "133ACaEGYPTIAN HIEROGLYPH V039cV040cV040AcW001cW002cW003cW003AcW004cW005cW006cW007cW008cW009",
  "133B9aEGYPTIAN HIEROGLYPH W009AcW010cW010AcW011cW012cW013cW014cW014AcW015cW016cW017cW017AcW018",
  "133C6aEGYPTIAN HIEROGLYPH W018AcW019cW020cW021cW022cW023cW024cW024AcW025cX001cX002cX003cX004",
  "133D3aEGYPTIAN HIEROGLYPH X004AcX004BcX005cX006cX006AcX007cX008cX008AcY001cY001AcY002cY003cY004",
  "133E0aEGYPTIAN HIEROGLYPH Y005cY006cY007cY008cZ001cZ002cZ002AcZ002BcZ002CcZ002DcZ003cZ003AcZ003B",
  "133EDaEGYPTIAN HIEROGLYPH Z004cZ004AcZ005cZ005AcZ006cZ007cZ008cZ009cZ010cZ011cZ012cZ013cZ014",
  "133FAaEGYPTIAN HIEROGLYPH Z015cZ015AcZ015BcZ015CcZ015DcZ015EcZ015FcZ015GcZ015HcZ015IcZ016cZ016A",
  "13406aEGYPTIAN HIEROGLYPH Z016BcZ016CcZ016DcZ016EcZ016FcZ016GcZ016HcAA001cAA002cAA003cAA004",
  "13411aEGYPTIAN HIEROGLYPH AA005cAA006cAA007cAA007AcAA007BcAA008cAA009cAA010cAA011cAA012cAA013",
  "1341CaEGYPTIAN HIEROGLYPH AA014cAA015cAA016cAA017cAA018cAA019cAA020cAA021cAA022cAA023cAA024",
  "13427aEGYPTIAN HIEROGLYPH AA025cAA026cAA027cAA028cAA029cAA030cAA031cAA032",
  "13430aEGYPTIAN HIEROGLYPH VERTICAL JOINERcHORIZONTAL JOINERcINSERT AT TOP STARTeBOTTOM START",
  "13434aEGYPTIAN HIEROGLYPH INSERT AT TOP ENDeBOTTOM ENDcOVERLAY MIDDLEcBEGIN SEGMENTcEND SEGMENT",
  "14400aANATOLIAN HIEROGLYPH A001cA002cA003cA004cA005cA006cA007cA008cA009cA010cA010AcA011cA012",
  "1440DaANATOLIAN HIEROGLYPH A013cA014cA015cA016cA017cA018cA019cA020cA021cA022cA023cA024cA025cA026",
  "1441BaANATOLIAN HIEROGLYPH A026AcA027cA028cA029cA030cA031cA032cA033cA034cA035cA036cA037cA038",
  "14428aANATOLIAN HIEROGLYPH A039cA039AcA040cA041cA041AcA042cA043cA044cA045cA045AcA046cA046AcA046B",
  "14435aANATOLIAN HIEROGLYPH A047cA048cA049cA050cA051cA052cA053cA054cA055cA056cA057cA058cA059cA060",
  "14443aANATOLIAN HIEROGLYPH A061cA062cA063cA064cA065cA066cA066AcA066BcA066CcA067cA068cA069cA070",
  "14450aANATOLIAN HIEROGLYPH A071cA072cA073cA074cA075cA076cA077cA078cA079cA080cA081cA082cA083cA084",
  "1445EaANATOLIAN HIEROGLYPH A085cA086cA087cA088cA089cA090cA091cA092cA093cA094cA095cA096cA097",
  "1446BaANATOLIAN HIEROGLYPH A097AcA098cA098AcA099cA100cA100AcA101cA101AcA102cA102AcA103cA104",
  "14477aANATOLIAN HIEROGLYPH A104AcA104BcA104CcA105cA105AcA105BcA106cA107cA107AcA107BcA107CcA108",
  "14483aANATOLIAN HIEROGLYPH A109cA110cA110AcA110BcA111cA112cA113cA114cA115cA115AcA116cA117cA118",
  "14490aANATOLIAN HIEROGLYPH A119cA120cA121cA122cA123cA124cA125cA125AcA126cA127cA128cA129cA130",
  "1449DaANATOLIAN HIEROGLYPH A131cA132cA133cA134cA135cA135AcA136cA137cA138cA139cA140cA141cA142",
  "144AAaANATOLIAN HIEROGLYPH A143cA144cA145cA146cA147cA148cA149cA150cA151cA152cA153cA154cA155cA156",
  "144B8aANATOLIAN HIEROGLYPH A157cA158cA159cA160cA161cA162cA163cA164cA165cA166cA167cA168cA169cA170",
  "144C6aANATOLIAN HIEROGLYPH A171cA172cA173cA174cA175cA176cA177cA178cA179cA180cA181cA182cA183cA184",
  "144D4aANATOLIAN HIEROGLYPH A185cA186cA187cA188cA189cA190cA191cA192cA193cA194cA195cA196cA197cA198",
  "144E2aANATOLIAN HIEROGLYPH A199cA200cA201cA202cA202AcA202BcA203cA204cA205cA206cA207cA207AcA208",
  "144EFaANATOLIAN HIEROGLYPH A209cA209AcA210cA211cA212cA213cA214cA215cA215AcA216cA216AcA217cA218",
  "144FCaANATOLIAN HIEROGLYPH A219cA220cA221cA222cA223cA224cA225cA226cA227cA227AcA228cA229cA230",
  "14509aANATOLIAN HIEROGLYPH A231cA232cA233cA234cA235cA236cA237cA238cA239cA240cA241cA242cA243cA244",
  "14517aANATOLIAN HIEROGLYPH A245cA246cA247cA248cA249cA250cA251cA252cA253cA254cA255cA256cA257cA258",
  "14525aANATOLIAN HIEROGLYPH A259cA260cA261cA262cA263cA264cA265cA266cA267cA267AcA268cA269cA270",
  "14532aANATOLIAN HIEROGLYPH A271cA272cA273cA274cA275cA276cA277cA278cA279cA280cA281cA282cA283cA284",
  "14540aANATOLIAN HIEROGLYPH A285cA286cA287cA288cA289cA289AcA290cA291cA292cA293cA294cA294AcA295",
  "1454DaANATOLIAN HIEROGLYPH A296cA297cA298cA299cA299AcA300cA301cA302cA303cA304cA305cA306cA307",
  "1455AaANATOLIAN HIEROGLYPH A308cA309cA309AcA310cA311cA312cA313cA314cA315cA316cA317cA318cA319",
  "14567aANATOLIAN HIEROGLYPH A320cA321cA322cA323cA324cA325cA326cA327cA328cA329cA329AcA330cA331",
  "14574aANATOLIAN HIEROGLYPH A332AcA332BcA332CcA333cA334cA335cA336cA336AcA336BcA336CcA337cA338",
  "14580aANATOLIAN HIEROGLYPH A339cA340cA341cA342cA343cA344cA345cA346cA347cA348cA349cA350cA351cA352",
  "1458EaANATOLIAN HIEROGLYPH A353cA354cA355cA356cA357cA358cA359cA359AcA360cA361cA362cA363cA364",
  "1459BaANATOLIAN HIEROGLYPH A364AcA365cA366cA367cA368cA368AcA369cA370cA371cA371AcA372cA373cA374",
  "145A8aANATOLIAN HIEROGLYPH A375cA376cA377cA378cA379cA380cA381cA381AcA382cA383 RA OR RIcA383A",
  "145B3aANATOLIAN HIEROGLYPH A384cA385cA386cA386AcA387cA388cA389cA390cA391cA392cA393 EIGHTcA394",
  "145BFaANATOLIAN HIEROGLYPH A395cA396cA397cA398cA399cA400cA401cA402cA403cA404cA405cA406cA407cA408",
  "145CDaANATOLIAN HIEROGLYPH A409cA410 BEGIN LOGOGRAM MARKcA410A END LOGOGRAM MARKcA411cA412cA413",
  "145D3aANATOLIAN HIEROGLYPH A414cA415cA416cA417cA418cA419cA420cA421cA422cA423cA424cA425cA426cA427",
  "145E1aANATOLIAN HIEROGLYPH A428cA429cA430cA431cA432cA433cA434cA435cA436cA437cA438cA439cA440cA441",
  "145EFaANATOLIAN HIEROGLYPH A442cA443cA444cA445cA446cA447cA448cA449cA450cA450AcA451cA452cA453",
  "145FCaANATOLIAN HIEROGLYPH A454cA455cA456cA457cA457AcA458cA459cA460cA461cA462cA463cA464cA465",
  "14609aANATOLIAN HIEROGLYPH A466cA467cA468cA469cA470cA471cA472cA473cA474cA475cA476cA477cA478cA479",
  "14617aANATOLIAN HIEROGLYPH A480cA481cA482cA483cA484cA485cA486cA487cA488cA489cA490cA491cA492cA493",
  "14625aANATOLIAN HIEROGLYPH A494cA495cA496cA497cA501cA502cA503cA504cA505cA506cA507cA508cA509cA510",
  "14633aANATOLIAN HIEROGLYPH A511cA512cA513cA514cA515cA516cA517cA518cA519cA520cA521cA522cA523cA524",
  "14641aANATOLIAN HIEROGLYPH A525cA526cA527cA528cA529cA530",
  "16800aBAMUM LETTER PHASE-A NGKUE MFONdGBIEE FONdPON MFON PIPAEMGBIEEfPIPAEMBAdNAA MFON",
  "16805aBAMUM LETTER PHASE-A SHUENSHUETdTITA MFONdNZA MFONdSHINDA PA NJIdPON PA NJI PIPAEMGBIEE",
  "1680AaBAMUM LETTER PHASE-A PON PA NJI PIPAEMBAdMAEMBGBIEEdTU MAEMBAdNGANGUdMAEMVEUXdMANSUAE",
  "16810aBAMUM LETTER PHASE-A MVEUAENGAMdSEUNYAMdNTOQPENdKEUKEUTNDAdNKINDIdSUUdNGKUENZEUMdLAPAQ",
  "16818aBAMUM LETTER PHASE-A LET KUTdNTAP MFAAdMAEKEUPdPASHAEdGHEUAERAEdPAMSHAEdMON NGGEUAET",
  "1681FaBAMUM LETTER PHASE-A NZUN MEUTdU YUQ NAEdGHEUAEGHEUAEdNTAP NTAAdSISAdMGBASAdMEUNJOMNDEUQ",
  "16826aBAMUM LETTER PHASE-A MOOMPUQdKAFAdPA LEERAEWAdNDA LEERAEWAdPETdMAEMKPENdNIKAdPUPdTUAEP",
  "1682FaBAMUM LETTER PHASE-A LUAEPdSONJAMdTEUTEUWENdMAENYIdKETdNDAANGGEUAETdKUOQdMOOMEUTdSHUM",
  "16838aBAMUM LETTER PHASE-A LOMMAEdFIRIdROMdKPOQdSOQdMAP PIEETdSHIRAEdNTAPdSHOQ NSHUT YUM",
  "16841aBAMUM LETTER PHASE-A NYIT MONGKEUAEQdPAARAEdNKAARAEdUNKNOWNdNGGENdMAESIdNJAMdMBANYIdNYET",
  "1684AaBAMUM LETTER PHASE-A TEUAENdSOTdPAAMdNSHIEEdMAEMdNYIdKAQdNSHAdVEEdLUdNENdNAQdMBAQ",
  "16857aBAMUM LETTER PHASE-B NSHUETdTU MAEMGBIEEdSIEEdSET TUdLOM NTEUMdMBA MAELEEdKIEEMdYEURAE",
  "1685FaBAMUM LETTER PHASE-B MBAARAEdKAMdPEESHIdYAFU LEERAEWAdLAM NSHUT NYAMdNTIEE SHEUOQdNDU NJAA",
  "16866aBAMUM LETTER PHASE-B GHEUGHEUAEMdPITdTU NSIEEdSHET NJAQdSHEUAEQTUdMFON TEUAEQdMBIT MBAAKET",
  "1686DaBAMUM LETTER PHASE-B NYI NTEUMdKEUPUQdGHEUGHENdKEUYEUXdLAANAEdPARUMdVEUMdNGKINDI MVOP",
  "16875aBAMUM LETTER PHASE-B NGGEU MBUdWUAETdSAKEUAEdTAAMdMEUQdNGGUOQeLARGEdMFIYAQdSUEdMBEURI",
  "1687FaBAMUM LETTER PHASE-B MONTIEENdNYAEMAEdPUNGAAMdMEUT NGGEETdFEUXdMBUOQdFEEdKEUAEM",
  "16887aBAMUM LETTER PHASE-B MA NJEUAENAeNJUQAdLETdNGGAAMdNSENdMAdKIQdNGOMcPHASE-C NGKUE MAEMBA",
  "16890aBAMUM LETTER PHASE-C NZAdYUMdWANGKUOQdNGGENdNDEUAEREEdNGKAQdGHARAEdMBEEKEETdGBAYI",
  "16899aBAMUM LETTER PHASE-C NYIR MKPARAQ MEUNdNTU MBITdMBEUMdPIRIEENdNDOMBUdMBAA CABBAGE-TREE",
  "1689FaBAMUM LETTER PHASE-C KEUSHEUAEPdGHAPdKEUKAQdYU MUOMAEdNZEUMdMBUEdNSEUAENdMBITdYEUQdKPARAQ",
  "168A9aBAMUM LETTER PHASE-C KAAdSEUXdNDIDAdTAASHAEdNJUEQdTITA YUEdSUAETdNGGUAEN NYAMdVEUX",
  "168B2aBAMUM LETTER PHASE-C NANSANAQdMA KEUAERIdNTAAdNGGUONdLAPdMBIRIEENdMGBASAQdNTEUNGBAdTEUTEUX",
  "168BBaBAMUM LETTER PHASE-C NGGUMdFUEdNDEUTdNSAdNSHAQdBUNGdVEUAEPENdMBERAEdRUdNJAEMdLAMdTITUAEP",
  "168C7aBAMUM LETTER PHASE-C NSUOT NGOMdNJEEEEdKETdNGGUdMAESIdMBUAEMdLUdKUTdNJAMdNGOMdWUPdNGGUEET",
  "168D3aBAMUM LETTER PHASE-C NSOMdNTENdKUOP NKAARAEdNSUNdNDAMdMA NSIEEdYAAdNDAPdSHUEQdSETFONdMBI",
  "168DEaBAMUM LETTER PHASE-C MAEMBAdMBANYIdKEUSEUXdMBEUXdKEUMdMBAA PICKETdYUWOQdNJEUXdMIEEdMUAE",
  "168E8aBAMUM LETTER PHASE-C SHIQdKEN LAWeFATIGUEdNGAQdNAQdLIQdPINdPENdTETcPHASE-D MBUOdWAPdNJI",
  "168F4aBAMUM LETTER PHASE-D MFONdNJIEEdLIEEdNJEUTdNSHEEdNGGAAMAEdNYAMdWUAENdNGKUNdSHEEdNGKAP",
  "168FFaBAMUM LETTER PHASE-D KEUAETMEUNdTEUTdSHEUAEdNJAPdSUEdKETdYAEMMAEdKUOMdSAPdMFEUTdNDEUX",
  "1690AaBAMUM LETTER PHASE-D MALEERIdMEUTdSEUAEQdYENdNJEUAEMdKEUOT MBUAEdNGKEURIdTUdGHAAdNGKYEE",
  "16914aBAMUM LETTER PHASE-D FEUFEUAETdNDEEdMGBOFUMdLEUAEPdNDONdMONIdMGBEUNdPUUTdMGBIEEdMFOdLUM",
  "1691FaBAMUM LETTER PHASE-D NSIEEPdMBAAdKWAETdNYETdTEUAENdSOTdYUWOQdKEUMdRAEMdTEEEEdNGKEUAEQ",
  "1692AaBAMUM LETTER PHASE-D MFEUAEdNSIEETdKEUPdPIPdPEUTAEdNYUEdLETdNGGAAMdMFIEEdNGGWAENdYUOMdPAP",
  "16936aBAMUM LETTER PHASE-D YUOPdNDAMdNTEUMdSUAEdKUNdNGGEUXdNGKIEEdTUOTdMEUNdKUQdNSUMdTEUN",
  "16942aBAMUM LETTER PHASE-D MAENJETdNGGAPdLEUMdNGGUOMdNSHUTdNJUEQdGHEUAEdKUdREN OLDdTAEdTOQdNYI",
  "1694EaBAMUM LETTER PHASE-D RIIdLEEEEdMEEEEdMdSUUdMUdSHIIdSHEUXdKYEEdNUdSHUdNTEEdPEEdNIdSHOQdPUQ",
  "1695EaBAMUM LETTER PHASE-D MVOPdLOQdREN MUCHdTIdNTUUdMBAA SEVENdSAQdFAAcPHASE-E NDAPdTOONdMBEUM",
  "16969aBAMUM LETTER PHASE-E LAPdVOMdLOONdPAAdSOMdRAQdNSHUOPdNDUNdPUAEdTAMdNGKAdKPEUXdWUOdSEE",
  "16977aBAMUM LETTER PHASE-E NGGEUAETdPAAMdTOOdKUOPdLOMdNSHIEEdNGOPdMAEMdNGKEUXdNGOQdNSHUEdRIMGBA",
  "16983aBAMUM LETTER PHASE-E NJEUXdPEEMdSAAdNGGURAEdMGBAdGHEUXdNGKEUAEMdNJAEMLIdMAPdLOOTdNGGEEEE",
  "1698EaBAMUM LETTER PHASE-E NDIQdTAEN NTEUMdSETdPUMdNDAA SOFTNESSdNGGUAESHAE NYAMdYIEEdGHEUNdTUAE",
  "16997aBAMUM LETTER PHASE-E YEUAEdPOdTUMAEdKEUAEdSUAENdTEUAEQdVEUAEdWEUXdLAAMdPUdTAAQdGHAAMAE",
  "169A3aBAMUM LETTER PHASE-E NGEUREUTdSHEUAEQdMGBENdMBEEdNZAQdNKOMdGBETdTUMdKUETdYAPdNYI CLEAVER",
  "169AEaBAMUM LETTER PHASE-E YITdMFEUQdNDIAQdPIEEQdYUEQdLEUAEMdFUEdGBEUXdNGKUPdKETdMAEdNGKAAMI",
  "169BAaBAMUM LETTER PHASE-E GHETdFAdNTUMdPEUTdYEUMdNGGEUAEdNYI BETWEENdNZUQdPOONdMIEEdFUETdNAE",
  "169C6aBAMUM LETTER PHASE-E MUAEdGHEUAEdFU IdMVIdPUAQdNGKUMdKUTdPIETdNTAPdYEUAETdNGGUPdPA PEOPLE",
  "169D2aBAMUM LETTER PHASE-E FU CALLdFOMdNJEEdAdTOQdOdIdLAQdPA PLURALdTAAdTAQdNDAA MY HOUSEdSHIQ",
  "169DFaBAMUM LETTER PHASE-E YEUXdNGUAEdYUAENdYOQ SWIMMINGeCOVERdYUQdYUNdKEUXdPEUXdNJEE EPOCHdPUE",
  "169EAaBAMUM LETTER PHASE-E WUEdFEEdVEEdLUdMIdREUXdRAEdNGUAETdNGAdSHOdSHOQdFU REMEDYdNAdPIdLOQdKO",
  "169FAaBAMUM LETTER PHASE-E MENdMAdMAQdTEUdKIdMONdTENdFAQdGHOMcPHASE-F KAdUdKUdEEdREEdTAEdNYIdLA",
  "16A0BaBAMUM LETTER PHASE-F RIIdRIEEdMEEEEdTAAdNDAAdNJAEMdMdSUUdSHIIdSIdSEUXdKYEEdKETdNUAEdNU",
  "16A1AaBAMUM LETTER PHASE-F NJUAEdYOQdSHUdYAdNSHAdPEUXdNTEEdWUEdPEEdRUdNIdREUXdKENdNGKWAENdNGGA",
  "16A29aBAMUM LETTER PHASE-F SHOdPUAEdFOMdWAdLIdLOQdKOdMBENdRENdMAdMOdMBAAdTETdKPAdSAMBAdVUEQ",
  "16A40aMRO LETTER TAcNGIcYOcMIMcBAcDAcAcPHIcKHAIcHAOcDAIcCHUcKEAAEcOLcMAEMcNINcPAcOOcOcROcSHI",
  "16A55aMRO LETTER THEAcEAcWAcEcKOcLANcLAcHAIcRIcTEK",
  "16A60aMRO DIGIT ZEROcONEcTWOcTHREEcFOURcFIVEcSIXcSEVENcEIGHTcNINE",
  "16A6EaMRO DANDAbDOUBLE DANDAaTANGSA LETTER OZcOCcOQcOXcAZcACcAQcAXcVZcVCcVQcVXcEZcECcEQcEXcIZcIC",
  "16A82aTANGSA LETTER IQcIXcUZcUCcUQcUXcAWZcAWCcAWQcAWXcUIZcUICcUIQcUIXcFINAL NGcLONG UEX",
  "16A92aTANGSA LETTER SHORT UEZdAWXcUECcUEZcUEQcUEXcUIUZcUIUCcUIUQcUIUXcMZcMCcMQcMXcKAcKHAcGAcNGA",
  "16AA4aTANGSA LETTER SAcYAcWAcPAcNYAcPHAcBAcMAcNAcHAcLAcHTAcTAcDAcRAcNHAcSHAcCAcTSAcGHAcHTTAcTHA",
  "16ABAaTANGSA LETTER XAcFAcDHAcCHAcZA",
  "16AC0aTANGSA DIGIT ZEROcONEcTWOcTHREEcFOURcFIVEcSIXcSEVENcEIGHTcNINE",
  "16AD0aBASSA VAH LETTER ENNIdKAdSEdFAdMBEdYIEdGAHdDHIIdKPAHdJOdHWAHdWAdZOdGBUdDOdCEdUWUdTOdBAdVU",
  "16AE4aBASSA VAH LETTER YEINdPAdWADDAdAdOdOOdUdEEdEdI",
  "16AF0aBASSA VAH COMBINING HIGH TONEdLOW TONEdMID TONEdLOW-MID TONEdHIGH-LOW TONEcFULL STOP",
  "16B00aPAHAWH HMONG VOWEL KEEBdKEEVdKIBdKIVdKAUBdKAUVdKUBdKUVdKEBdKEVdKAIBdKAIVdKOOBdKOOVdKAWB",
  "16B0FaPAHAWH HMONG VOWEL KAWVdKUABdKUAVdKOBdKOVdKIABdKIAVdKABdKAVdKWBdKWVdKAABdKAAV",
  "16B1CaPAHAWH HMONG CONSONANT VAUdNTSAUdLAUdHAUdNLAUdRAUdNKAUdQHAUdYAUdHLAUdMAUdCHAUdNCHAUdHNAU",
  "16B2AaPAHAWH HMONG CONSONANT PLHAUdNTHAUdNAUdAUdXAUdCAUcMARK CIM TUBeSOeKESeKHAVeSUAMeHOMeTAUM",
  "16B37aPAHAWH HMONG SIGN VOS THOMeTSHAB CEEBdCIM CHEEMdVOS THIABeFEEMdXYEEM NTXIVeRHOeTOVeFAIB",
  "16B40aPAHAWH HMONG SIGN VOS SEEVdMEEJ SUABdVOS NRUAdIB YAMdXAUSdCIM TSOV ROG",
  "16B50aPAHAWH HMONG DIGIT ZEROdONEdTWOdTHREEdFOURdFIVEdSIXdSEVENdEIGHTdNINE",
  "16B5BaPAHAWH HMONG NUMBER TENSdHUNDREDSdTEN THOUSANDSdMILLIONSdHUNDRED MILLIONSdTEN BILLIONS",
  "16B61aPAHAWH HMONG NUMBER TRILLIONS",
  "16B63aPAHAWH HMONG SIGN VOS LUBdXYOOdHLIdTHIRD-STAGE HLIdZWJ THAJdHNUBdNQIGdXIABdNTUJdAV",
  "16B6DaPAHAWH HMONG SIGN TXHEEJ CEEVdMEEJ TSEEBdTAUdLOSdMUSdCIM HAIS LUS NTOG NTOGeCUAM TSHOOJ",
  "16B74aPAHAWH HMONG SIGN CIM TXWVfCHWVePUB DAWBeNRES TOS",
  "16B7DaPAHAWH HMONG CLAN SIGN TSHEEJeYEEGeLISeLAUJeXYOOJeKOOeHAWJeMUASeTHOJeTSABePHABeKHABeHAM",
  "16B8AaPAHAWH HMONG CLAN SIGN VAJeFAJeYAJeTSWBeKWMeVWJ",
  "16E40aMEDEFAIDRIN CAPITAL LETTER MdSdVdWdATIUdZdKPdPdTdGdFdIdKdAdJdEdBdCdUdYUdLdQdHPdNYdXdDdOEdN",
  "16E5CaMEDEFAIDRIN CAPITAL LETTER RdOdAIdYbSMALL LETTER MdSdVdWdATIUdZdKPdPdTdGdFdIdKdAdJdEdBdCdU",
  "16E73aMEDEFAIDRIN SMALL LETTER YUdLdQdHPdNYdXdDdOEdNdRdOdAIdYbDIGIT ZEROcONEcTWOcTHREEcFOURcFIVE",
  "16E86aMEDEFAIDRIN DIGIT SIXcSEVENcEIGHTcNINEbNUMBER TENcELEVENcTWELVEcTHIRTEENcFOURTEENcFIFTEEN",
  "16E90aMEDEFAIDRIN NUMBER SIXTEENcSEVENTEENcEIGHTEENcNINETEENbDIGIT ONE ALTERNATE FORM",
  "16E95aMEDEFAIDRIN DIGIT TWO ALTERNATE FORMcTHREE ALTERNATE FORMbCOMMAbFULL STOPbSYMBOL AIVA",
  "16E9AaMEDEFAIDRIN EXCLAMATION OH",
  "16F00aMIAO LETTER PAcBAcYI PAcPLAcMAcMHAcARCHAIC MAcFAcVAcVFAcTAcDAcYI TTAdTAcTTAcDDAcNAcNHA",
  "16F12aMIAO LETTER YI NNAcARCHAIC NAcNNAcNNHAcLAcLYAcLHAcLHYAcTLHAcDLHAcTLHYAcDLHYAcKAcGAcYI KA",
  "16F21aMIAO LETTER QAcQGAcNGAcNGHAcARCHAIC NGAcHAcXAcGHAcGHHAcTSSAcDZZAcNYAcNYHAcTSHAcDZHA",
  "16F30aMIAO LETTER YI TSHAdDZHAcREFORMED TSHAcSHAcSSAcZHAcZSHAcTSAcDZAcYI TSAcSAcZAcZSAcZZAcZZSA",
  "16F3FaMIAO LETTER ARCHAIC ZZAcZZYAcZZSYAcWAcAHcHHAcBRIcSYIcDZYIcTEcTSEcRTE",
  "16F4FaMIAO SIGN CONSONANT MODIFIER BARbLETTER NASALIZATIONbSIGN ASPIRATIONcREFORMED VOICING",
  "16F53aMIAO SIGN REFORMED ASPIRATIONbVOWEL SIGN AdAAdAHHdANdANGdOdOOdWOdWdEdENdENGdOEYdIdIAdIAN",
  "16F64aMIAO VOWEL SIGN IANGdIOdIEdIIdIUdINGdUdUAdUANdUANGdUUdUEIdUNGdYdYIdAEdAEEdERRdROUNDED ERR",
  "16F77aMIAO VOWEL SIGN ERdROUNDED ERdAIdEIdAUdOUdNdNGdUOGdYUIdOGdOERdVWdIGdEAdIONGdUI",
  "16F8FaMIAO TONE RIGHTcTOP RIGHTcABOVEcBELOWbLETTER TONE-2cTONE-3cTONE-4cTONE-5cTONE-6cTONE-7",
  "16F99aMIAO LETTER TONE-8cREFORMED TONE-1dTONE-2dTONE-4dTONE-5dTONE-6dTONE-8",
  "16FE0aTANGUT ITERATION MARKaNUSHU ITERATION MARKaOLD CHINESE HOOK MARKcITERATION MARK",
  "16FE4aKHITAN SMALL SCRIPT FILLER",
  "16FF0aVIETNAMESE ALTERNATE READING MARK CAeNHAY",
  "18800aTANGUT COMPONENT-001bCOMPONENT-002bCOMPONENT-003bCOMPONENT-004bCOMPONENT-005bCOMPONENT-006",
  "18806aTANGUT COMPONENT-007bCOMPONENT-008bCOMPONENT-009bCOMPONENT-010bCOMPONENT-011bCOMPONENT-012",
  "1880CaTANGUT COMPONENT-013bCOMPONENT-014bCOMPONENT-015bCOMPONENT-016bCOMPONENT-017bCOMPONENT-018",
  "18812aTANGUT COMPONENT-019bCOMPONENT-020bCOMPONENT-021bCOMPONENT-022bCOMPONENT-023bCOMPONENT-024",
  "18818aTANGUT COMPONENT-025bCOMPONENT-026bCOMPONENT-027bCOMPONENT-028bCOMPONENT-029bCOMPONENT-030",
  "1881EaTANGUT COMPONENT-031bCOMPONENT-032bCOMPONENT-033bCOMPONENT-034bCOMPONENT-035bCOMPONENT-036",
  "18824aTANGUT COMPONENT-037bCOMPONENT-038bCOMPONENT-039bCOMPONENT-040bCOMPONENT-041bCOMPONENT-042",
  "1882AaTANGUT COMPONENT-043bCOMPONENT-044bCOMPONENT-045bCOMPONENT-046bCOMPONENT-047bCOMPONENT-048",
  "18830aTANGUT COMPONENT-049bCOMPONENT-050bCOMPONENT-051bCOMPONENT-052bCOMPONENT-053bCOMPONENT-054",
  "18836aTANGUT COMPONENT-055bCOMPONENT-056bCOMPONENT-057bCOMPONENT-058bCOMPONENT-059bCOMPONENT-060",
  "1883CaTANGUT COMPONENT-061bCOMPONENT-062bCOMPONENT-063bCOMPONENT-064bCOMPONENT-065bCOMPONENT-066",
  "18842aTANGUT COMPONENT-067bCOMPONENT-068bCOMPONENT-069bCOMPONENT-070bCOMPONENT-071bCOMPONENT-072",
  "18848aTANGUT COMPONENT-073bCOMPONENT-074bCOMPONENT-075bCOMPONENT-076bCOMPONENT-077bCOMPONENT-078",
  "1884EaTANGUT COMPONENT-079bCOMPONENT-080bCOMPONENT-081bCOMPONENT-082bCOMPONENT-083bCOMPONENT-084",
  "18854aTANGUT COMPONENT-085bCOMPONENT-086bCOMPONENT-087bCOMPONENT-088bCOMPONENT-089bCOMPONENT-090",
  "1885AaTANGUT COMPONENT-091bCOMPONENT-092bCOMPONENT-093bCOMPONENT-094bCOMPONENT-095bCOMPONENT-096",
  "18860aTANGUT COMPONENT-097bCOMPONENT-098bCOMPONENT-099bCOMPONENT-100bCOMPONENT-101bCOMPONENT-102",
  "18866aTANGUT COMPONENT-103bCOMPONENT-104bCOMPONENT-105bCOMPONENT-106bCOMPONENT-107bCOMPONENT-108",
  "1886CaTANGUT COMPONENT-109bCOMPONENT-110bCOMPONENT-111bCOMPONENT-112bCOMPONENT-113bCOMPONENT-114",
  "18872aTANGUT COMPONENT-115bCOMPONENT-116bCOMPONENT-117bCOMPONENT-118bCOMPONENT-119bCOMPONENT-120",
  "18878aTANGUT COMPONENT-121bCOMPONENT-122bCOMPONENT-123bCOMPONENT-124bCOMPONENT-125bCOMPONENT-126",
  "1887EaTANGUT COMPONENT-127bCOMPONENT-128bCOMPONENT-129bCOMPONENT-130bCOMPONENT-131bCOMPONENT-132",
  "18884aTANGUT COMPONENT-133bCOMPONENT-134bCOMPONENT-135bCOMPONENT-136bCOMPONENT-137bCOMPONENT-138",
  "1888AaTANGUT COMPONENT-139bCOMPONENT-140bCOMPONENT-141bCOMPONENT-142bCOMPONENT-143bCOMPONENT-144",
  "18890aTANGUT COMPONENT-145bCOMPONENT-146bCOMPONENT-147bCOMPONENT-148bCOMPONENT-149bCOMPONENT-150",
  "18896aTANGUT COMPONENT-151bCOMPONENT-152bCOMPONENT-153bCOMPONENT-154bCOMPONENT-155bCOMPONENT-156",
  "1889CaTANGUT COMPONENT-157bCOMPONENT-158bCOMPONENT-159bCOMPONENT-160bCOMPONENT-161bCOMPONENT-162",
  "188A2aTANGUT COMPONENT-163bCOMPONENT-164bCOMPONENT-165bCOMPONENT-166bCOMPONENT-167bCOMPONENT-168",
  "188A8aTANGUT COMPONENT-169bCOMPONENT-170bCOMPONENT-171bCOMPONENT-172bCOMPONENT-173bCOMPONENT-174",
  "188AEaTANGUT COMPONENT-175bCOMPONENT-176bCOMPONENT-177bCOMPONENT-178bCOMPONENT-179bCOMPONENT-180",
  "188B4aTANGUT COMPONENT-181bCOMPONENT-182bCOMPONENT-183bCOMPONENT-184bCOMPONENT-185bCOMPONENT-186",
  "188BAaTANGUT COMPONENT-187bCOMPONENT-188bCOMPONENT-189bCOMPONENT-190bCOMPONENT-191bCOMPONENT-192",
  "188C0aTANGUT COMPONENT-193bCOMPONENT-194bCOMPONENT-195bCOMPONENT-196bCOMPONENT-197bCOMPONENT-198",
  "188C6aTANGUT COMPONENT-199bCOMPONENT-200bCOMPONENT-201bCOMPONENT-202bCOMPONENT-203bCOMPONENT-204",
  "188CCaTANGUT COMPONENT-205bCOMPONENT-206bCOMPONENT-207bCOMPONENT-208bCOMPONENT-209bCOMPONENT-210",
  "188D2aTANGUT COMPONENT-211bCOMPONENT-212bCOMPONENT-213bCOMPONENT-214bCOMPONENT-215bCOMPONENT-216",
  "188D8aTANGUT COMPONENT-217bCOMPONENT-218bCOMPONENT-219bCOMPONENT-220bCOMPONENT-221bCOMPONENT-222",
  "188DEaTANGUT COMPONENT-223bCOMPONENT-224bCOMPONENT-225bCOMPONENT-226bCOMPONENT-227bCOMPONENT-228",
  "188E4aTANGUT COMPONENT-229bCOMPONENT-230bCOMPONENT-231bCOMPONENT-232bCOMPONENT-233bCOMPONENT-234",
  "188EAaTANGUT COMPONENT-235bCOMPONENT-236bCOMPONENT-237bCOMPONENT-238bCOMPONENT-239bCOMPONENT-240",
  "188F0aTANGUT COMPONENT-241bCOMPONENT-242bCOMPONENT-243bCOMPONENT-244bCOMPONENT-245bCOMPONENT-246",
  "188F6aTANGUT COMPONENT-247bCOMPONENT-248bCOMPONENT-249bCOMPONENT-250bCOMPONENT-251bCOMPONENT-252",
  "188FCaTANGUT COMPONENT-253bCOMPONENT-254bCOMPONENT-255bCOMPONENT-256bCOMPONENT-257bCOMPONENT-258",
  "18902aTANGUT COMPONENT-259bCOMPONENT-260bCOMPONENT-261bCOMPONENT-262bCOMPONENT-263bCOMPONENT-264",
  "18908aTANGUT COMPONENT-265bCOMPONENT-266bCOMPONENT-267bCOMPONENT-268bCOMPONENT-269bCOMPONENT-270",
  "1890EaTANGUT COMPONENT-271bCOMPONENT-272bCOMPONENT-273bCOMPONENT-274bCOMPONENT-275bCOMPONENT-276",
  "18914aTANGUT COMPONENT-277bCOMPONENT-278bCOMPONENT-279bCOMPONENT-280bCOMPONENT-281bCOMPONENT-282",
  "1891AaTANGUT COMPONENT-283bCOMPONENT-284bCOMPONENT-285bCOMPONENT-286bCOMPONENT-287bCOMPONENT-288",
  "18920aTANGUT COMPONENT-289bCOMPONENT-290bCOMPONENT-291bCOMPONENT-292bCOMPONENT-293bCOMPONENT-294",
  "18926aTANGUT COMPONENT-295bCOMPONENT-296bCOMPONENT-297bCOMPONENT-298bCOMPONENT-299bCOMPONENT-300",
  "1892CaTANGUT COMPONENT-301bCOMPONENT-302bCOMPONENT-303bCOMPONENT-304bCOMPONENT-305bCOMPONENT-306",
  "18932aTANGUT COMPONENT-307bCOMPONENT-308bCOMPONENT-309bCOMPONENT-310bCOMPONENT-311bCOMPONENT-312",
  "18938aTANGUT COMPONENT-313bCOMPONENT-314bCOMPONENT-315bCOMPONENT-316bCOMPONENT-317bCOMPONENT-318",
  "1893EaTANGUT COMPONENT-319bCOMPONENT-320bCOMPONENT-321bCOMPONENT-322bCOMPONENT-323bCOMPONENT-324",
  "18944aTANGUT COMPONENT-325bCOMPONENT-326bCOMPONENT-327bCOMPONENT-328bCOMPONENT-329bCOMPONENT-330",
  "1894AaTANGUT COMPONENT-331bCOMPONENT-332bCOMPONENT-333bCOMPONENT-334bCOMPONENT-335bCOMPONENT-336",
  "18950aTANGUT COMPONENT-337bCOMPONENT-338bCOMPONENT-339bCOMPONENT-340bCOMPONENT-341bCOMPONENT-342",
  "18956aTANGUT COMPONENT-343bCOMPONENT-344bCOMPONENT-345bCOMPONENT-346bCOMPONENT-347bCOMPONENT-348",
  "1895CaTANGUT COMPONENT-349bCOMPONENT-350bCOMPONENT-351bCOMPONENT-352bCOMPONENT-353bCOMPONENT-354",
  "18962aTANGUT COMPONENT-355bCOMPONENT-356bCOMPONENT-357bCOMPONENT-358bCOMPONENT-359bCOMPONENT-360",
  "18968aTANGUT COMPONENT-361bCOMPONENT-362bCOMPONENT-363bCOMPONENT-364bCOMPONENT-365bCOMPONENT-366",
  "1896EaTANGUT COMPONENT-367bCOMPONENT-368bCOMPONENT-369bCOMPONENT-370bCOMPONENT-371bCOMPONENT-372",
  "18974aTANGUT COMPONENT-373bCOMPONENT-374bCOMPONENT-375bCOMPONENT-376bCOMPONENT-377bCOMPONENT-378",
  "1897AaTANGUT COMPONENT-379bCOMPONENT-380bCOMPONENT-381bCOMPONENT-382bCOMPONENT-383bCOMPONENT-384",
  "18980aTANGUT COMPONENT-385bCOMPONENT-386bCOMPONENT-387bCOMPONENT-388bCOMPONENT-389bCOMPONENT-390",
  "18986aTANGUT COMPONENT-391bCOMPONENT-392bCOMPONENT-393bCOMPONENT-394bCOMPONENT-395bCOMPONENT-396",
  "1898CaTANGUT COMPONENT-397bCOMPONENT-398bCOMPONENT-399bCOMPONENT-400bCOMPONENT-401bCOMPONENT-402",
  "18992aTANGUT COMPONENT-403bCOMPONENT-404bCOMPONENT-405bCOMPONENT-406bCOMPONENT-407bCOMPONENT-408"]

/-- More rows of names. -/
def nameRowsK : List String := [
  "18998aTANGUT COMPONENT-409bCOMPONENT-410bCOMPONENT-411bCOMPONENT-412bCOMPONENT-413bCOMPONENT-414",
  "1899EaTANGUT COMPONENT-415bCOMPONENT-416bCOMPONENT-417bCOMPONENT-418bCOMPONENT-419bCOMPONENT-420",
  "189A4aTANGUT COMPONENT-421bCOMPONENT-422bCOMPONENT-423bCOMPONENT-424bCOMPONENT-425bCOMPONENT-426",
  "189AAaTANGUT COMPONENT-427bCOMPONENT-428bCOMPONENT-429bCOMPONENT-430bCOMPONENT-431bCOMPONENT-432",
  "189B0aTANGUT COMPONENT-433bCOMPONENT-434bCOMPONENT-435bCOMPONENT-436bCOMPONENT-437bCOMPONENT-438",
  "189B6aTANGUT COMPONENT-439bCOMPONENT-440bCOMPONENT-441bCOMPONENT-442bCOMPONENT-443bCOMPONENT-444",
  "189BCaTANGUT COMPONENT-445bCOMPONENT-446bCOMPONENT-447bCOMPONENT-448bCOMPONENT-449bCOMPONENT-450",
  "189C2aTANGUT COMPONENT-451bCOMPONENT-452bCOMPONENT-453bCOMPONENT-454bCOMPONENT-455bCOMPONENT-456",
  "189C8aTANGUT COMPONENT-457bCOMPONENT-458bCOMPONENT-459bCOMPONENT-460bCOMPONENT-461bCOMPONENT-462",
  "189CEaTANGUT COMPONENT-463bCOMPONENT-464bCOMPONENT-465bCOMPONENT-466bCOMPONENT-467bCOMPONENT-468",
  "189D4aTANGUT COMPONENT-469bCOMPONENT-470bCOMPONENT-471bCOMPONENT-472bCOMPONENT-473bCOMPONENT-474",
  "189DAaTANGUT COMPONENT-475bCOMPONENT-476bCOMPONENT-477bCOMPONENT-478bCOMPONENT-479bCOMPONENT-480",
  "189E0aTANGUT COMPONENT-481bCOMPONENT-482bCOMPONENT-483bCOMPONENT-484bCOMPONENT-485bCOMPONENT-486",
  "189E6aTANGUT COMPONENT-487bCOMPONENT-488bCOMPONENT-489bCOMPONENT-490bCOMPONENT-491bCOMPONENT-492",
  "189ECaTANGUT COMPONENT-493bCOMPONENT-494bCOMPONENT-495bCOMPONENT-496bCOMPONENT-497bCOMPONENT-498",
  "189F2aTANGUT COMPONENT-499bCOMPONENT-500bCOMPONENT-501bCOMPONENT-502bCOMPONENT-503bCOMPONENT-504",
  "189F8aTANGUT COMPONENT-505bCOMPONENT-506bCOMPONENT-507bCOMPONENT-508bCOMPONENT-509bCOMPONENT-510",
  "189FEaTANGUT COMPONENT-511bCOMPONENT-512bCOMPONENT-513bCOMPONENT-514bCOMPONENT-515bCOMPONENT-516",
  "18A04aTANGUT COMPONENT-517bCOMPONENT-518bCOMPONENT-519bCOMPONENT-520bCOMPONENT-521bCOMPONENT-522",
  "18A0AaTANGUT COMPONENT-523bCOMPONENT-524bCOMPONENT-525bCOMPONENT-526bCOMPONENT-527bCOMPONENT-528",
  "18A10aTANGUT COMPONENT-529bCOMPONENT-530bCOMPONENT-531bCOMPONENT-532bCOMPONENT-533bCOMPONENT-534",
  "18A16aTANGUT COMPONENT-535bCOMPONENT-536bCOMPONENT-537bCOMPONENT-538bCOMPONENT-539bCOMPONENT-540",
  "18A1CaTANGUT COMPONENT-541bCOMPONENT-542bCOMPONENT-543bCOMPONENT-544bCOMPONENT-545bCOMPONENT-546",
  "18A22aTANGUT COMPONENT-547bCOMPONENT-548bCOMPONENT-549bCOMPONENT-550bCOMPONENT-551bCOMPONENT-552",
  "18A28aTANGUT COMPONENT-553bCOMPONENT-554bCOMPONENT-555bCOMPONENT-556bCOMPONENT-557bCOMPONENT-558",
  "18A2EaTANGUT COMPONENT-559bCOMPONENT-560bCOMPONENT-561bCOMPONENT-562bCOMPONENT-563bCOMPONENT-564",
  "18A34aTANGUT COMPONENT-565bCOMPONENT-566bCOMPONENT-567bCOMPONENT-568bCOMPONENT-569bCOMPONENT-570",
  "18A3AaTANGUT COMPONENT-571bCOMPONENT-572bCOMPONENT-573bCOMPONENT-574bCOMPONENT-575bCOMPONENT-576",
  "18A40aTANGUT COMPONENT-577bCOMPONENT-578bCOMPONENT-579bCOMPONENT-580bCOMPONENT-581bCOMPONENT-582",
  "18A46aTANGUT COMPONENT-583bCOMPONENT-584bCOMPONENT-585bCOMPONENT-586bCOMPONENT-587bCOMPONENT-588",
  "18A4CaTANGUT COMPONENT-589bCOMPONENT-590bCOMPONENT-591bCOMPONENT-592bCOMPONENT-593bCOMPONENT-594",
  "18A52aTANGUT COMPONENT-595bCOMPONENT-596bCOMPONENT-597bCOMPONENT-598bCOMPONENT-599bCOMPONENT-600",
  "18A58aTANGUT COMPONENT-601bCOMPONENT-602bCOMPONENT-603bCOMPONENT-604bCOMPONENT-605bCOMPONENT-606",
  "18A5EaTANGUT COMPONENT-607bCOMPONENT-608bCOMPONENT-609bCOMPONENT-610bCOMPONENT-611bCOMPONENT-612",
  "18A64aTANGUT COMPONENT-613bCOMPONENT-614bCOMPONENT-615bCOMPONENT-616bCOMPONENT-617bCOMPONENT-618",
  "18A6AaTANGUT COMPONENT-619bCOMPONENT-620bCOMPONENT-621bCOMPONENT-622bCOMPONENT-623bCOMPONENT-624",
  "18A70aTANGUT COMPONENT-625bCOMPONENT-626bCOMPONENT-627bCOMPONENT-628bCOMPONENT-629bCOMPONENT-630",
  "18A76aTANGUT COMPONENT-631bCOMPONENT-632bCOMPONENT-633bCOMPONENT-634bCOMPONENT-635bCOMPONENT-636",
  "18A7CaTANGUT COMPONENT-637bCOMPONENT-638bCOMPONENT-639bCOMPONENT-640bCOMPONENT-641bCOMPONENT-642",
  "18A82aTANGUT COMPONENT-643bCOMPONENT-644bCOMPONENT-645bCOMPONENT-646bCOMPONENT-647bCOMPONENT-648",
  "18A88aTANGUT COMPONENT-649bCOMPONENT-650bCOMPONENT-651bCOMPONENT-652bCOMPONENT-653bCOMPONENT-654",
  "18A8EaTANGUT COMPONENT-655bCOMPONENT-656bCOMPONENT-657bCOMPONENT-658bCOMPONENT-659bCOMPONENT-660",
  "18A94aTANGUT COMPONENT-661bCOMPONENT-662bCOMPONENT-663bCOMPONENT-664bCOMPONENT-665bCOMPONENT-666",
  "18A9AaTANGUT COMPONENT-667bCOMPONENT-668bCOMPONENT-669bCOMPONENT-670bCOMPONENT-671bCOMPONENT-672",
  "18AA0aTANGUT COMPONENT-673bCOMPONENT-674bCOMPONENT-675bCOMPONENT-676bCOMPONENT-677bCOMPONENT-678",
  "18AA6aTANGUT COMPONENT-679bCOMPONENT-680bCOMPONENT-681bCOMPONENT-682bCOMPONENT-683bCOMPONENT-684",
  "18AACaTANGUT COMPONENT-685bCOMPONENT-686bCOMPONENT-687bCOMPONENT-688bCOMPONENT-689bCOMPONENT-690",
  "18AB2aTANGUT COMPONENT-691bCOMPONENT-692bCOMPONENT-693bCOMPONENT-694bCOMPONENT-695bCOMPONENT-696",
  "18AB8aTANGUT COMPONENT-697bCOMPONENT-698bCOMPONENT-699bCOMPONENT-700bCOMPONENT-701bCOMPONENT-702",
  "18ABEaTANGUT COMPONENT-703bCOMPONENT-704bCOMPONENT-705bCOMPONENT-706bCOMPONENT-707bCOMPONENT-708",
  "18AC4aTANGUT COMPONENT-709bCOMPONENT-710bCOMPONENT-711bCOMPONENT-712bCOMPONENT-713bCOMPONENT-714",
  "18ACAaTANGUT COMPONENT-715bCOMPONENT-716bCOMPONENT-717bCOMPONENT-718bCOMPONENT-719bCOMPONENT-720",
  "18AD0aTANGUT COMPONENT-721bCOMPONENT-722bCOMPONENT-723bCOMPONENT-724bCOMPONENT-725bCOMPONENT-726",
  "18AD6aTANGUT COMPONENT-727bCOMPONENT-728bCOMPONENT-729bCOMPONENT-730bCOMPONENT-731bCOMPONENT-732",
  "18ADCaTANGUT COMPONENT-733bCOMPONENT-734bCOMPONENT-735bCOMPONENT-736bCOMPONENT-737bCOMPONENT-738",
  "18AE2aTANGUT COMPONENT-739bCOMPONENT-740bCOMPONENT-741bCOMPONENT-742bCOMPONENT-743bCOMPONENT-744",
  "18AE8aTANGUT COMPONENT-745bCOMPONENT-746bCOMPONENT-747bCOMPONENT-748bCOMPONENT-749bCOMPONENT-750",
  "18AEEaTANGUT COMPONENT-751bCOMPONENT-752bCOMPONENT-753bCOMPONENT-754bCOMPONENT-755bCOMPONENT-756",
  "18AF4aTANGUT COMPONENT-757bCOMPONENT-758bCOMPONENT-759bCOMPONENT-760bCOMPONENT-761bCOMPONENT-762",
  "18AFAaTANGUT COMPONENT-763bCOMPONENT-764bCOMPONENT-765bCOMPONENT-766bCOMPONENT-767bCOMPONENT-768",
  "1AFF0aKATAKANA LETTER MINNAN TONE-2dTONE-3dTONE-4dTONE-5",
  "1AFF5aKATAKANA LETTER MINNAN TONE-7dTONE-8dNASALIZED TONE-1eTONE-2eTONE-3eTONE-4eTONE-5",
  "1AFFDaKATAKANA LETTER MINNAN NASALIZED TONE-7eTONE-8",
  "1B000aKATAKANA LETTER ARCHAIC EaHIRAGANA LETTER ARCHAIC YEaHENTAIGANA LETTER A-1cA-2cA-3cA-WO",
  "1B006aHENTAIGANA LETTER I-1cI-2cI-3cI-4cU-1cU-2cU-3cU-4cU-5cE-2cE-3cE-4cE-5cE-6cO-1cO-2cO-3cKA-1",
  "1B018aHENTAIGANA LETTER KA-2cKA-3cKA-4cKA-5cKA-6cKA-7cKA-8cKA-9cKA-10cKA-11cKA-KEcKI-1cKI-2cKI-3",
  "1B026aHENTAIGANA LETTER KI-4cKI-5cKI-6cKI-7cKI-8cKU-1cKU-2cKU-3cKU-4cKU-5cKU-6cKU-7cKE-1cKE-2",
  "1B034aHENTAIGANA LETTER KE-3cKE-4cKE-5cKE-6cKO-1cKO-2cKO-3cKO-KIcSA-1cSA-2cSA-3cSA-4cSA-5cSA-6",
  "1B042aHENTAIGANA LETTER SA-7cSA-8cSI-1cSI-2cSI-3cSI-4cSI-5cSI-6cSU-1cSU-2cSU-3cSU-4cSU-5cSU-6",
  "1B050aHENTAIGANA LETTER SU-7cSU-8cSE-1cSE-2cSE-3cSE-4cSE-5cSO-1cSO-2cSO-3cSO-4cSO-5cSO-6cSO-7",
  "1B05EaHENTAIGANA LETTER TA-1cTA-2cTA-3cTA-4cTI-1cTI-2cTI-3cTI-4cTI-5cTI-6cTI-7cTU-1cTU-2cTU-3",
  "1B06CaHENTAIGANA LETTER TU-4cTU-TOcTE-1cTE-2cTE-3cTE-4cTE-5cTE-6cTE-7cTE-8cTE-9cTO-1cTO-2cTO-3",
  "1B07AaHENTAIGANA LETTER TO-4cTO-5cTO-6cTO-RAcNA-1cNA-2cNA-3cNA-4cNA-5cNA-6cNA-7cNA-8cNA-9cNI-1",
  "1B088aHENTAIGANA LETTER NI-2cNI-3cNI-4cNI-5cNI-6cNI-7cNI-TEcNU-1cNU-2cNU-3cNE-1cNE-2cNE-3cNE-4",
  "1B096aHENTAIGANA LETTER NE-5cNE-6cNE-KOcNO-1cNO-2cNO-3cNO-4cNO-5cHA-1cHA-2cHA-3cHA-4cHA-5cHA-6",
  "1B0A4aHENTAIGANA LETTER HA-7cHA-8cHA-9cHA-10cHA-11cHI-1cHI-2cHI-3cHI-4cHI-5cHI-6cHI-7cHU-1cHU-2",
  "1B0B2aHENTAIGANA LETTER HU-3cHE-1cHE-2cHE-3cHE-4cHE-5cHE-6cHE-7cHO-1cHO-2cHO-3cHO-4cHO-5cHO-6",
  "1B0C0aHENTAIGANA LETTER HO-7cHO-8cMA-1cMA-2cMA-3cMA-4cMA-5cMA-6cMA-7cMI-1cMI-2cMI-3cMI-4cMI-5",
  "1B0CEaHENTAIGANA LETTER MI-6cMI-7cMU-1cMU-2cMU-3cMU-4cME-1cME-2cME-MAcMO-1cMO-2cMO-3cMO-4cMO-5",
  "1B0DCaHENTAIGANA LETTER MO-6cYA-1cYA-2cYA-3cYA-4cYA-5cYA-YOcYU-1cYU-2cYU-3cYU-4cYO-1cYO-2cYO-3",
  "1B0EAaHENTAIGANA LETTER YO-4cYO-5cYO-6cRA-1cRA-2cRA-3cRA-4cRI-1cRI-2cRI-3cRI-4cRI-5cRI-6cRI-7",
  "1B0F8aHENTAIGANA LETTER RU-1cRU-2cRU-3cRU-4cRU-5cRU-6cRE-1cRE-2cRE-3cRE-4cRO-1cRO-2cRO-3cRO-4",
  "1B106aHENTAIGANA LETTER RO-5cRO-6cWA-1cWA-2cWA-3cWA-4cWA-5cWI-1cWI-2cWI-3cWI-4cWI-5cWE-1cWE-2",
  "1B114aHENTAIGANA LETTER WE-3cWE-4cWO-1cWO-2cWO-3cWO-4cWO-5cWO-6cWO-7cN-MU-MO-1cN-MU-MO-2",
  "1B11FaHIRAGANA LETTER ARCHAIC WUaKATAKANA LETTER ARCHAIC YIdYEdWU",
  "1B150aHIRAGANA LETTER SMALL WIdWEdWO",
  "1B164aKATAKANA LETTER SMALL WIdWEdWOdN",
  "1BC00aDUPLOYAN LETTER HcXcPcTcFcKcLcBcDcVcGcRcP NcD ScF NcK McR ScTHcSLOAN DHcDHcKKcSLOAN JcHL",
  "1BC17aDUPLOYAN LETTER LHcRHcMcNcJcScM NcN McJ McS JcM WITH DOTcN WITH DOTcJ WITH DOT",
  "1BC24aDUPLOYAN LETTER J WITH DOTS INSIDE AND ABOVEcS WITH DOTfBELOWcM ScN ScJ ScS ScM N ScN M S",
  "1BC2DaDUPLOYAN LETTER J M ScS J ScJ S WITH DOTdNeScS TeRdPeRcT SdR ScWcWHcW RcS NdMcK R ScG R S",
  "1BC3FaDUPLOYAN LETTER S KeRcAcSLOAN OWcOAcOcAOUcIcEcIEcSHORT IcUIcEEcSLOAN EHcROMANIAN I",
  "1BC4EaDUPLOYAN LETTER SLOAN EEcLONG IcYEcUcEUcXWcU NcLONG UcROMANIAN UcUHcSLOAN UcOOHcOWcOUcWA",
  "1BC5DaDUPLOYAN LETTER WOcWIcWEIcWOWcNASAL UdOdIdAcPERNIN ANdAMcSLOAN ENdANdONcVOCALIC M",
  "1BC70aDUPLOYAN AFFIX LEFT HORIZONTAL SECANTcMID HORIZONTAL SECANTcRIGHT HORIZONTAL SECANT",
  "1BC73aDUPLOYAN AFFIX LOW VERTICAL SECANTcMID VERTICAL SECANTcHIGH VERTICAL SECANT",
  "1BC76aDUPLOYAN AFFIX ATTACHED SECANTdLEFT-TO-RIGHT SECANTdTANGENTdTAILdE HOOKdI HOOK",
  "1BC7CaDUPLOYAN AFFIX ATTACHED TANGENT HOOK",
  "1BC80aDUPLOYAN AFFIX HIGH ACUTEdTIGHT ACUTEdGRAVEdLONG GRAVEdDOTdCIRCLEdLINEdWAVEdVERTICAL",
  "1BC90aDUPLOYAN AFFIX LOW ACUTEdTIGHT ACUTEdGRAVEdLONG GRAVEdDOTdCIRCLEdLINEdWAVEdVERTICALdARROW",
  "1BC9CaDUPLOYAN SIGN O WITH CROSSbTHICK LETTER SELECTORbDOUBLE MARKbPUNCTUATION CHINOOK FULL STOP",
  "1BCA0aSHORTHAND FORMAT LETTER OVERLAPcCONTINUING OVERLAPcDOWN STEPcUP STEP",
  "1CF00aZNAMENNY COMBINING MARK GORAZDO NIZKO S KRYZHEM ON LEFTdNIZKO S KRYZHEM ON LEFT",
  "1CF02aZNAMENNY COMBINING MARK TSATA ON LEFTdGORAZDO NIZKO ON LEFTdNIZKO ON LEFTdSREDNE ON LEFT",
  "1CF06aZNAMENNY COMBINING MARK MALO POVYSHE ON LEFTdPOVYSHE ON LEFTdVYSOKO ON LEFT",
  "1CF09aZNAMENNY COMBINING MARK MALO POVYSHE S KHOKHLOM ON LEFTdPOVYSHE S KHOKHLOM ON LEFT",
  "1CF0BaZNAMENNY COMBINING MARK VYSOKO S KHOKHLOM ON LEFTdGORAZDO NIZKO S KRYZHEM ON RIGHT",
  "1CF0DaZNAMENNY COMBINING MARK NIZKO S KRYZHEM ON RIGHTdTSATA ON RIGHTdGORAZDO NIZKO ON RIGHT",
  "1CF10aZNAMENNY COMBINING MARK NIZKO ON RIGHTdSREDNE ON RIGHTdMALO POVYSHE ON RIGHT",
  "1CF13aZNAMENNY COMBINING MARK POVYSHE ON RIGHTdVYSOKO ON RIGHTdMALO POVYSHE S KHOKHLOM ON RIGHT",
  "1CF16aZNAMENNY COMBINING MARK POVYSHE S KHOKHLOM ON RIGHTdVYSOKO S KHOKHLOM ON RIGHT",
  "1CF18aZNAMENNY COMBINING MARK TSATA S KRYZHEMdMALO POVYSHE S KRYZHEMdSTRANNO MALO POVYSHE",
  "1CF1BaZNAMENNY COMBINING MARK POVYSHE S KRYZHEMeSTRANNOdVYSOKO S KRYZHEMdMALO POVYSHE STRANNO",
  "1CF1FaZNAMENNY COMBINING MARK GORAZDO VYSOKOdZELOdONdRAVNOdTIKHAYAdBORZAYAdUDARKAdPODVERTKA",
  "1CF27aZNAMENNY COMBINING MARK LOMKAdKUPNAYAdKACHKAdZEVOKdSKOBAdRAZSEKAdKRYZH ON LEFT",
  "1CF30aZNAMENNY COMBINING TONAL RANGE MARK MRACHNOfSVETLOfTRESVETLOcMARK ZADERZHKA",
  "1CF34aZNAMENNY COMBINING MARK DEMESTVENNY ZADERZHKAdOTSECHKAdPODCHASHIEeWITH VERTICAL STROKE",
  "1CF38aZNAMENNY COMBINING MARK CHASHKAePOLNAYAdOBLACHKOdSOROCHYA NOZHKAdTOCHKAdDVOETOCHIE",
  "1CF3EaZNAMENNY COMBINING ATTACHING VERTICAL OMETcMARK CURVED OMETdKRYZH",
  "1CF41aZNAMENNY COMBINING LOWER TONAL RANGE INDICATORbPRIZNAK MODIFIER LEVEL-2dLEVEL-3",
  "1CF44aZNAMENNY PRIZNAK MODIFIER DIRECTION FLIPdKRYZHdROG",
  "1CF50aZNAMENNY NEUME KRYUKdTIKHYcPARAKLITcDVA V CHELNUcKLYUCHcZANOZHEKcSTOPITSAdS OCHKOM",
  "1CF58aZNAMENNY NEUME PEREVODKAdNEPOSTOYANNAYAcSTOPITSA WITH SOROCHYA NOZHKAcCHELYUSTKAcPALKA",
  "1CF5DaZNAMENNY NEUME ZAPYATAYAcGOLUBCHIK BORZYdTIKHYdMRACHNYdSVETLYdTRESVETLYcVRAKHIYA PROSTAYA",
  "1CF64aZNAMENNY NEUME VRAKHIYA MRACHNAYAdSVETLAYAdTRESVETLAYAdKLYUCHEVAYA PROSTAYAeMRACHNAYA",
  "1CF69aZNAMENNY NEUME VRAKHIYA KLYUCHEVAYA SVETLAYAeTRESVETLAYAcDOUBLE ZAPYATAYA",
  "1CF6CaZNAMENNY NEUME REVERSED CHELYUSTKAcDERBITSAcKHAMILOcCHASHKAcPODCHASHIEcSKAMEYTSA MRACHNAYA",
  "1CF72aZNAMENNY NEUME SKAMEYTSA SVETLAYAdTRESVETLAYAdTIKHAYAcDEMESTVENNY KLYUCH",
  "1CF76aZNAMENNY NEUME SKAMEYTSA KLYUCHEVAYA SVETLAYAdKLYUCHENEPOSTOYANNAYAdKLYUCHEVAYA TIKHAYA",
  "1CF79aZNAMENNY NEUME SKAMEYTSA DVOECHELNAYA PROSTAYAeSVETLAYAeNEPOSTOYANNAYAeKLYUCHEVAYA",
  "1CF7DaZNAMENNY NEUME SLOZHITIEdS ZAPYATOYdZAKRYTOEdS KRYZHEMcKRYZHcROGcFITAcKOBYLAcZMEYTSA",
  "1CF86aZNAMENNY NEUME STATYAdS ZAPYATOYeKRYZHEMeZAPYATOY I KRYZHEMeKRYZHEM I ZAPYATOYdZAKRYTAYA",
  "1CF8CaZNAMENNY NEUME STATYA ZAKRYTAYA S ZAPYATOYdS ROGOMeDVUMYA ZAPYATYMIeZAPYATOY I PODCHASHIEM",
  "1CF90aZNAMENNY NEUME POLKULIZMYcSTATYA NEPOSTOYANNAYAcSTRELA PROSTAYAdMRACHNOTIKHAYAdKRYZHEVAYA",
  "1CF95aZNAMENNY NEUME STRELA POLUPOVODNAYAdPOVODNAYAdNEPOSTOYANNAYAdKLYUCHEPOVODNAYA",
  "1CF99aZNAMENNY NEUME STRELA KLYUCHENEPOSTOYANNAYAdTIKHAYA PUTNAYAdDVOECHELNAYA",
  "1CF9CaZNAMENNY NEUME STRELA DVOECHELNOKRYZHEVAYAdDVOECHELNOPOVODNAYAdDVOECHELNAYA KLYUCHEVAYA",
  "1CF9FaZNAMENNY NEUME STRELA DVOECHELNOPOVODNAYA KLYUCHEVAYAdGROMNAYA WITH SINGLE ZAPYATAYA",
  "1CFA1aZNAMENNY NEUME STRELA GROMOPOVODNAYA WITH SINGLE ZAPYATAYAdGROMNAYAdGROMOPOVODNAYA",
  "1CFA4aZNAMENNY NEUME STRELA GROMOPOVODNAYA WITH DOUBLE ZAPYATAYAdGROMOKRYZHEVAYAePOVODNAYA",
  "1CFA7aZNAMENNY NEUME MECHIKdPOVODNYdKLYUCHEVOYdKLYUCHEPOVODNYdKLYUCHENEPOSTOYANNY",
  "1CFACaZNAMENNY NEUME STRELA TRYASOGLASNAYAdTRYASOPOVODNAYAdTRYASOSTRELNAYAcOSOKAdSVETLAYA",
  "1CFB1aZNAMENNY NEUME OSOKA TRESVETLAYAdKRYUKOVAYA SVETLAYAdKLYUCHEVAYA SVETLAYAeNEPOSTOYANNAYA",
  "1CFB5aZNAMENNY NEUME STRELA KRYUKOVAYAePOVODNAYAeGROMNAYA WITH SINGLE ZAPYATAYA",
  "1CFB8aZNAMENNY NEUME STRELA KRYUKOVAYA GROMOPOVODNAYA WITH SINGLE ZAPYATAYAeGROMNAYA",
  "1CFBAaZNAMENNY NEUME STRELA KRYUKOVAYA GROMOPOVODNAYAfWITH DOUBLE ZAPYATAYAeGROMOKRYZHEVAYA",
  "1CFBDaZNAMENNY NEUME STRELA KRYUKOVAYA GROMOKRYZHEVAYA POVODNAYAeTRYASKAcKUFISMAcOBLAKOcDUDA",
  "1CFC2aZNAMENNY NEUME NEMKAcPAUK",
  "1D000aBYZANTINE MUSICAL SYMBOL PSILIdDASEIAdPERISPOMENIdOXEIA EKFONITIKONeDIPLI",
  "1D005aBYZANTINE MUSICAL SYMBOL VAREIA EKFONITIKONeDIPLIdKATHISTIdSYRMATIKIdPARAKLITIKIdYPOKRISIS",
  "1D00BaBYZANTINE MUSICAL SYMBOL YPOKRISIS DIPLIdKREMASTIdAPESO EKFONITIKONdEXO EKFONITIKONdTELEIA",
  "1D010aBYZANTINE MUSICAL SYMBOL KENTIMATAdAPOSTROFOSeDIPLIdSYNEVMAdTHITAdOLIGON ARCHAION",
  "1D016aBYZANTINE MUSICAL SYMBOL GORGON ARCHAIONdPSILONdCHAMILONdVATHYdISON ARCHAION",
  "1D01BaBYZANTINE MUSICAL SYMBOL KENTIMA ARCHAIONdKENTIMATA ARCHAIONdSAXIMATAdPARICHON",
  "1D01FaBYZANTINE MUSICAL SYMBOL STAVROS APODEXIAdOXEIAI ARCHAIONdVAREIAI ARCHAION",
  "1D022aBYZANTINE MUSICAL SYMBOL APODERMA ARCHAIONdAPOTHEMAdKLASMAdREVMAdPIASMA ARCHAIONdTINAGMA",
  "1D028aBYZANTINE MUSICAL SYMBOL ANATRICHISMAdSEISMAdSYNAGMA ARCHAIONeMETA STAVROU",
  "1D02CaBYZANTINE MUSICAL SYMBOL OYRANISMA ARCHAIONdTHEMAdLEMOIdDYOdTRIAdTESSERAdKRATIMATA",
  "1D033aBYZANTINE MUSICAL SYMBOL APESO EXO NEOdFTHORA ARCHAIONdIMIFTHORAdTROMIKON ARCHAION",
  "1D037aBYZANTINE MUSICAL SYMBOL KATAVA TROMIKONdPELASTONdPSIFISTONdKONTEVMAdCHOREVMA ARCHAION",
  "1D03CaBYZANTINE MUSICAL SYMBOL RAPISMAdPARAKALESMA ARCHAIONdPARAKLITIKI ARCHAIONdICHADINdNANA",
  "1D041aBYZANTINE MUSICAL SYMBOL PETASMAdKONTEVMA ALLOdTROMIKON ALLOdSTRAGGISMATAdGRONTHISMATA",
  "1D046aBYZANTINE MUSICAL SYMBOL ISON NEOdOLIGON NEOdOXEIA NEOdPETASTIdKOUFISMAdPETASTOKOUFISMA",
  "1D04CaBYZANTINE MUSICAL SYMBOL KRATIMOKOUFISMAdPELASTON NEOdKENTIMATA NEO ANOdKENTIMA NEO ANO",
  "1D050aBYZANTINE MUSICAL SYMBOL YPSILIdAPOSTROFOS NEOdAPOSTROFOI SYNDESMOS NEOdYPORROI",
  "1D054aBYZANTINE MUSICAL SYMBOL KRATIMOYPORROONdELAFRONdCHAMILIdMIKRON ISONdVAREIA NEOdPIASMA NEO",
  "1D05AaBYZANTINE MUSICAL SYMBOL PSIFISTON NEOdOMALONdANTIKENOMAdLYGISMAdPARAKLITIKI NEO",
  "1D05FaBYZANTINE MUSICAL SYMBOL PARAKALESMA NEOdETERON PARAKALESMAdKYLISMAdANTIKENOKYLISMA",
  "1D063aBYZANTINE MUSICAL SYMBOL TROMIKON NEOdEKSTREPTONdSYNAGMA NEOdSYRMAdCHOREVMA NEOdEPEGERMA",
  "1D069aBYZANTINE MUSICAL SYMBOL SEISMA NEOdXIRON KLASMAdTROMIKOPSIFISTONdPSIFISTOLYGISMA",
  "1D06DaBYZANTINE MUSICAL SYMBOL TROMIKOLYGISMAdTROMIKOPARAKALESMAdPSIFISTOPARAKALESMA",
  "1D070aBYZANTINE MUSICAL SYMBOL TROMIKOSYNAGMAdPSIFISTOSYNAGMAdGORGOSYNTHETONdARGOSYNTHETON",
  "1D074aBYZANTINE MUSICAL SYMBOL ETERON ARGOSYNTHETONdOYRANISMA NEOdTHEMATISMOS ESOeEXO",
  "1D078aBYZANTINE MUSICAL SYMBOL THEMA APLOUNdTHES KAI APOTHESdKATAVASMAdENDOFONONdYFEN KATOeANO",
  "1D07EaBYZANTINE MUSICAL SYMBOL STAVROSdKLASMA ANOdDIPLI ARCHAIONdKRATIMA ARCHAIONeALLOeNEO",
  "1D084aBYZANTINE MUSICAL SYMBOL APODERMA NEOdAPLIdDIPLIdTRIPLIdTETRAPLIdKORONIS",
  "1D08AaBYZANTINE MUSICAL SYMBOL LEIMMA ENOS CHRONOUeDYO CHRONONeTRION CHRONONeTESSARON CHRONON",
  "1D08EaBYZANTINE MUSICAL SYMBOL LEIMMA IMISEOS CHRONOUdGORGON NEO ANOePARESTIGMENON ARISTERA",
  "1D091aBYZANTINE MUSICAL SYMBOL GORGON PARESTIGMENON DEXIAdDIGORGONePARESTIGMENON ARISTERA KATO",
  "1D094aBYZANTINE MUSICAL SYMBOL DIGORGON PARESTIGMENON ARISTERA ANOfDEXIAdTRIGORGONdARGON",
  "1D098aBYZANTINE MUSICAL SYMBOL IMIDIARGONdDIARGONdAGOGI POLI ARGIeARGOTERIeARGIeMETRIAeMESI",
  "1D09FaBYZANTINE MUSICAL SYMBOL AGOGI GORGIeGORGOTERIePOLI GORGIdMARTYRIA PROTOS ICHOS",
  "1D0A3aBYZANTINE MUSICAL SYMBOL MARTYRIA ALLI PROTOS ICHOSeDEYTEROS ICHOSeALLI DEYTEROS ICHOS",
  "1D0A6aBYZANTINE MUSICAL SYMBOL MARTYRIA TRITOS ICHOSeTRIFONIASeTETARTOS ICHOSfLEGETOS ICHOS",
  "1D0AAaBYZANTINE MUSICAL SYMBOL MARTYRIA LEGETOS ICHOSePLAGIOS ICHOSdISAKIA TELOUS ICHIMATOS",
  "1D0ADaBYZANTINE MUSICAL SYMBOL APOSTROFOI TELOUS ICHIMATOSdFANEROSIS TETRAFONIASeMONOFONIAS",
  "1D0B0aBYZANTINE MUSICAL SYMBOL FANEROSIS DIFONIASdMARTYRIA VARYS ICHOSePROTOVARYS ICHOS",
  "1D0B3aBYZANTINE MUSICAL SYMBOL MARTYRIA PLAGIOS TETARTOS ICHOSdGORTHMIKON N APLOUNfDIPLOUN",
  "1D0B6aBYZANTINE MUSICAL SYMBOL ENARXIS KAI FTHORA VOUdIMIFONONdIMIFTHORON",
  "1D0B9aBYZANTINE MUSICAL SYMBOL FTHORA ARCHAION DEYTEROU ICHOUeDIATONIKI PAfNANAeNAOS ICHOS",
  "1D0BDaBYZANTINE MUSICAL SYMBOL FTHORA DIATONIKI DIeSKLIRON DIATONON DIeDIATONIKI KEfZOfNI KATO",
  "1D0C2aBYZANTINE MUSICAL SYMBOL FTHORA DIATONIKI NI ANOeMALAKON CHROMA DIFONIASgMONOFONIAS",
  "1D0C5aBYZANTINE MUSICAL SYMBOL FHTORA SKLIRON CHROMA VASISdFTHORA SKLIRON CHROMA SYNAFIeNENANO",
  "1D0C8aBYZANTINE MUSICAL SYMBOL CHROA ZYGOSeKLITONeSPATHIdFTHORA I YFESIS TETARTIMORION",
  "1D0CCaBYZANTINE MUSICAL SYMBOL FTHORA ENARMONIOS ANTIFONIAdYFESIS TRITIMORIONdDIESIS TRITIMORION",
  "1D0CFaBYZANTINE MUSICAL SYMBOL DIESIS TETARTIMORIONeAPLI DYO DODEKATA",
  "1D0D1aBYZANTINE MUSICAL SYMBOL DIESIS MONOGRAMMOS TESSERA DODEKATAeDIGRAMMOS EX DODEKATA",
  "1D0D3aBYZANTINE MUSICAL SYMBOL DIESIS TRIGRAMMOS OKTO DODEKATAdYFESIS APLI DYO DODEKATA",
  "1D0D5aBYZANTINE MUSICAL SYMBOL YFESIS MONOGRAMMOS TESSERA DODEKATAeDIGRAMMOS EX DODEKATA",
  "1D0D7aBYZANTINE MUSICAL SYMBOL YFESIS TRIGRAMMOS OKTO DODEKATAdGENIKI DIESISeYFESIS",
  "1D0DAaBYZANTINE MUSICAL SYMBOL DIASTOLI APLI MIKRIfMEGALIeDIPLIeTHESEOSdSIMANSIS THESEOSfDISIMOU",
  "1D0E0aBYZANTINE MUSICAL SYMBOL SIMANSIS THESEOS TRISIMOUfTETRASIMOUeARSEOSfDISIMOUfTRISIMOU",
  "1D0E5aBYZANTINE MUSICAL SYMBOL SIMANSIS ARSEOS TETRASIMOUdDIGRAMMA GGdDIFTOGGOS OUdSTIGMA",
  "1D0E9aBYZANTINE MUSICAL SYMBOL ARKTIKO PAeVOUeGAeDIeKEeZOeNIdKENTIMATA NEO MESOdKENTIMA NEO MESO",
  "1D0F2aBYZANTINE MUSICAL SYMBOL KENTIMATA NEO KATOdKENTIMA NEO KATOdKLASMA KATOdGORGON NEO KATO",
  "1D100aMUSICAL SYMBOL SINGLE BARLINEcDOUBLE BARLINEcFINAL BARLINEcREVERSE FINAL BARLINE",
  "1D104aMUSICAL SYMBOL DASHED BARLINEcSHORT BARLINEcLEFT REPEAT SIGNcRIGHT REPEAT SIGNcREPEAT DOTS",
  "1D109aMUSICAL SYMBOL DAL SEGNOcDA CAPOcSEGNOcCODAcREPEATED FIGURE-1dFIGURE-2dFIGURE-3cFERMATA",
  "1D111aMUSICAL SYMBOL FERMATA BELOWcBREATH MARKcCAESURAcBRACEcBRACKETcONE-LINE STAFF",
  "1D117aMUSICAL SYMBOL TWO-LINE STAFFcTHREE-LINE STAFFcFOUR-LINE STAFFcFIVE-LINE STAFF",
  "1D11BaMUSICAL SYMBOL SIX-LINE STAFFcSIX-STRING FRETBOARDcFOUR-STRING FRETBOARDcG CLEF",
  "1D11FaMUSICAL SYMBOL G CLEF OTTAVA ALTAfBASSAcC CLEFcF CLEFeOTTAVA ALTAfBASSAcDRUM CLEF-1dCLEF-2",
  "1D129aMUSICAL SYMBOL MULTIPLE MEASURE RESTcDOUBLE SHARPdFLATcFLAT UPdDOWNcNATURAL UPdDOWN",
  "1D130aMUSICAL SYMBOL SHARP UPdDOWNcQUARTER TONE SHARPeFLATcCOMMON TIMEcCUT TIMEcOTTAVA ALTA",
  "1D137aMUSICAL SYMBOL OTTAVA BASSAcQUINDICESIMA ALTAdBASSAcMULTI RESTcWHOLE RESTcHALF REST",
  "1D13DaMUSICAL SYMBOL QUARTER RESTcEIGHTH RESTcSIXTEENTH RESTcTHIRTY-SECOND REST",
  "1D141aMUSICAL SYMBOL SIXTY-FOURTH RESTcONE HUNDRED TWENTY-EIGHTH RESTcX NOTEHEADcPLUS NOTEHEAD",
  "1D145aMUSICAL SYMBOL CIRCLE X NOTEHEADcSQUARE NOTEHEAD WHITEeBLACKcTRIANGLE NOTEHEAD UP WHITE",
  "1D149aMUSICAL SYMBOL TRIANGLE NOTEHEAD UP BLACKeLEFT WHITEfBLACKeRIGHT WHITEfBLACKeDOWN WHITE",
  "1D14FaMUSICAL SYMBOL TRIANGLE NOTEHEAD DOWN BLACKeUP RIGHT WHITEgBLACKcMOON NOTEHEAD WHITEeBLACK",
  "1D154aMUSICAL SYMBOL TRIANGLE-ROUND NOTEHEAD DOWN WHITEfBLACKcPARENTHESIS NOTEHEADcVOID NOTEHEAD",
  "1D158aMUSICAL SYMBOL NOTEHEAD BLACKcNULL NOTEHEADcCLUSTER NOTEHEAD WHITEeBLACKcBREVEcWHOLE NOTE",
  "1D15EaMUSICAL SYMBOL HALF NOTEcQUARTER NOTEcEIGHTH NOTEcSIXTEENTH NOTEcTHIRTY-SECOND NOTE",
  "1D163aMUSICAL SYMBOL SIXTY-FOURTH NOTEcONE HUNDRED TWENTY-EIGHTH NOTEcCOMBINING STEM",
  "1D166aMUSICAL SYMBOL COMBINING SPRECHGESANG STEMdTREMOLO-1dTREMOLO-2dTREMOLO-3",
  "1D16AaMUSICAL SYMBOL FINGERED TREMOLO-1dTREMOLO-2dTREMOLO-3cCOMBINING AUGMENTATION DOTdFLAG-1",
  "1D16FaMUSICAL SYMBOL COMBINING FLAG-2dFLAG-3dFLAG-4dFLAG-5cBEGIN BEAMcEND BEAMcBEGIN TIEcEND TIE",
  "1D177aMUSICAL SYMBOL BEGIN SLURcEND SLURcBEGIN PHRASEcEND PHRASEcCOMBINING ACCENTdSTACCATO",
  "1D17DaMUSICAL SYMBOL COMBINING TENUTOdSTACCATISSIMOdMARCATOdMARCATO-STACCATOdACCENT-STACCATO",
  "1D182aMUSICAL SYMBOL COMBINING LOUREcARPEGGIATO UPdDOWNcCOMBINING DOITdRIPdFLIPdSMEARdBEND",
  "1D18AaMUSICAL SYMBOL COMBINING DOUBLE TONGUEdTRIPLE TONGUEcRINFORZANDOcSUBITOcZcPIANOcMEZZO",
  "1D191aMUSICAL SYMBOL FORTEcCRESCENDOcDECRESCENDOcGRACE NOTE SLASHeNO SLASHcTRcTURNcINVERTED TURN",
  "1D199aMUSICAL SYMBOL TURN SLASHdUPcORNAMENT STROKE-1dSTROKE-2dSTROKE-3dSTROKE-4dSTROKE-5",
  "1D1A0aMUSICAL SYMBOL ORNAMENT STROKE-6dSTROKE-7dSTROKE-8dSTROKE-9dSTROKE-10dSTROKE-11",
  "1D1A6aMUSICAL SYMBOL HAUPTSTIMMEcNEBENSTIMMEcEND OF STIMMEcDEGREE SLASHcCOMBINING DOWN BOW",
  "1D1ABaMUSICAL SYMBOL COMBINING UP BOWdHARMONICdSNAP PIZZICATOcPEDAL MARKdUP MARKcHALF PEDAL MARK",
  "1D1B1aMUSICAL SYMBOL GLISSANDO UPdDOWNcWITH FINGERNAILScDAMPdALLcMAXIMAcLONGAcBREVIS",
  "1D1B9aMUSICAL SYMBOL SEMIBREVIS WHITEdBLACKcMINIMAdBLACKcSEMIMINIMA WHITEdBLACKcFUSA WHITEdBLACK",
  "1D1C1aMUSICAL SYMBOL LONGA PERFECTA RESTdIMPERFECTA RESTcBREVIS RESTcSEMIBREVIS RESTcMINIMA REST",
  "1D1C6aMUSICAL SYMBOL SEMIMINIMA RESTcTEMPUS PERFECTUM CUM PROLATIONE PERFECTAgIMPERFECTA",
  "1D1C9aMUSICAL SYMBOL TEMPUS PERFECTUM CUM PROLATIONE PERFECTA DIMINUTION-1",
  "1D1CAaMUSICAL SYMBOL TEMPUS IMPERFECTUM CUM PROLATIONE PERFECTAgIMPERFECTAhDIMINUTION-1",
  "1D1CDaMUSICAL SYMBOL TEMPUS IMPERFECTUM CUM PROLATIONE IMPERFECTA DIMINUTION-2hDIMINUTION-3",
  "1D1CFaMUSICAL SYMBOL CROIXcGREGORIAN C CLEFdF CLEFcSQUARE BcVIRGAcPODATUScCLIVIScSCANDICUS",
  "1D1D7aMUSICAL SYMBOL CLIMACUScTORCULUScPORRECTUSdFLEXUScSCANDICUS FLEXUScTORCULUS RESUPINUS",
  "1D1DDaMUSICAL SYMBOL PES SUBPUNCTIScKIEVAN C CLEFdEND OF PIECEdFINAL NOTEdRECITATIVE MARK",
  "1D1E2aMUSICAL SYMBOL KIEVAN WHOLE NOTEdHALF NOTEdQUARTER NOTE STEM DOWNgUPdEIGHTH NOTE STEM DOWN",
  "1D1E7aMUSICAL SYMBOL KIEVAN EIGHTH NOTE STEM UPdFLAT SIGNcSORIcKORON",
  "1D200aGREEK VOCAL NOTATION SYMBOL-1dSYMBOL-2dSYMBOL-3dSYMBOL-4dSYMBOL-5dSYMBOL-6dSYMBOL-7",
  "1D207aGREEK VOCAL NOTATION SYMBOL-8dSYMBOL-9dSYMBOL-10dSYMBOL-11dSYMBOL-12dSYMBOL-13dSYMBOL-14",
  "1D20EaGREEK VOCAL NOTATION SYMBOL-15dSYMBOL-16dSYMBOL-17dSYMBOL-18dSYMBOL-19dSYMBOL-20dSYMBOL-21",
  "1D215aGREEK VOCAL NOTATION SYMBOL-22dSYMBOL-23dSYMBOL-24dSYMBOL-50dSYMBOL-51dSYMBOL-52dSYMBOL-53",
  "1D21CaGREEK VOCAL NOTATION SYMBOL-54bINSTRUMENTAL NOTATION SYMBOL-1dSYMBOL-2dSYMBOL-4dSYMBOL-5",
  "1D221aGREEK INSTRUMENTAL NOTATION SYMBOL-7dSYMBOL-8dSYMBOL-11dSYMBOL-12dSYMBOL-13dSYMBOL-14",
  "1D227aGREEK INSTRUMENTAL NOTATION SYMBOL-17dSYMBOL-18dSYMBOL-19dSYMBOL-23dSYMBOL-24dSYMBOL-25",
  "1D22DaGREEK INSTRUMENTAL NOTATION SYMBOL-26dSYMBOL-27dSYMBOL-29dSYMBOL-30dSYMBOL-32dSYMBOL-36",
  "1D233aGREEK INSTRUMENTAL NOTATION SYMBOL-37dSYMBOL-38dSYMBOL-39dSYMBOL-40dSYMBOL-42dSYMBOL-43",
  "1D239aGREEK INSTRUMENTAL NOTATION SYMBOL-45dSYMBOL-47dSYMBOL-48dSYMBOL-49dSYMBOL-50dSYMBOL-51",
  "1D23FaGREEK INSTRUMENTAL NOTATION SYMBOL-52dSYMBOL-53dSYMBOL-54aCOMBINING GREEK MUSICAL TRISEME",
  "1D243aCOMBINING GREEK MUSICAL TETRASEMEdPENTASEMEaGREEK MUSICAL LEIMMA",
  "1D2E0aMAYAN NUMERAL ZEROcONEcTWOcTHREEcFOURcFIVEcSIXcSEVENcEIGHTcNINEcTENcELEVENcTWELVEcTHIRTEEN",
  "1D2EEaMAYAN NUMERAL FOURTEENcFIFTEENcSIXTEENcSEVENTEENcEIGHTEENcNINETEEN",
  "1D300aMONOGRAM FOR EARTHaDIGRAM FOR HEAVENLY EARTHcHUMAN EARTHcEARTHLY HEAVENdHUMANcEARTH",
  "1D306aTETRAGRAM FOR CENTREcFULL CIRCLEcMIREDcBARRIERcKEEPING SMALLcCONTRARIETYcASCENTcOPPOSITION",
  "1D30EaTETRAGRAM FOR BRANCHING OUTcDEFECTIVENESS OR DISTORTIONcDIVERGENCEcYOUTHFULNESScINCREASE",
  "1D313aTETRAGRAM FOR PENETRATIONcREACHcCONTACTcHOLDING BACKcWAITINGcFOLLOWINGcADVANCEcRELEASE",
  "1D31BaTETRAGRAM FOR RESISTANCEcEASEcJOYcCONTENTIONcENDEAVOURcDUTIEScCHANGEcDECISIVENESS",
  "1D323aTETRAGRAM FOR BOLD RESOLUTIONcPACKINGcLEGIONcCLOSENESScKINSHIPcGATHERINGcSTRENGTHcPURITY",
  "1D32BaTETRAGRAM FOR FULLNESScRESIDENCEcLAW OR MODELcRESPONSEcGOING TO MEETcENCOUNTERScSTOVE",
  "1D332aTETRAGRAM FOR GREATNESScENLARGEMENTcPATTERNcRITUALcFLIGHTcVASTNESS OR WASTINGcCONSTANCY",
  "1D339aTETRAGRAM FOR MEASUREcETERNITYcUNITYcDIMINISHMENTcCLOSED MOUTHcGUARDEDNESScGATHERING IN",
  "1D340aTETRAGRAM FOR MASSINGcACCUMULATIONcEMBELLISHMENTcDOUBTcWATCHcSINKINGcINNERcDEPARTURE",
  "1D348aTETRAGRAM FOR DARKENINGcDIMMINGcEXHAUSTIONcSEVERANCEcSTOPPAGEcHARDNESScCOMPLETIONcCLOSURE",
  "1D350aTETRAGRAM FOR FAILUREcAGGRAVATIONcCOMPLIANCEcON THE VERGEcDIFFICULTIEScLABOURINGcFOSTERING",
  "1D360aCOUNTING ROD UNIT DIGIT ONEeTWOeTHREEeFOUReFIVEeSIXeSEVENeEIGHTeNINEcTENS DIGIT ONEeTWO",
  "1D36BaCOUNTING ROD TENS DIGIT THREEeFOUReFIVEeSIXeSEVENeEIGHTeNINEaIDEOGRAPHIC TALLY MARK ONE",
  "1D373aIDEOGRAPHIC TALLY MARK TWOdTHREEdFOURdFIVEaTALLY MARK ONEcFIVE",
  "1D400aMATHEMATICAL BOLD CAPITAL AdBdCdDdEdFdGdHdIdJdKdLdMdNdOdPdQdRdSdTdUdVdWdXdYdZcSMALL AdBdC",
  "1D41DaMATHEMATICAL BOLD SMALL DdEdFdGdHdIdJdKdLdMdNdOdPdQdRdSdTdUdVdWdXdYdZbITALIC CAPITAL AdBdC",
  "1D437aMATHEMATICAL ITALIC CAPITAL DdEdFdGdHdIdJdKdLdMdNdOdPdQdRdSdTdUdVdWdXdYdZcSMALL AdBdCdDdE",
  "1D453aMATHEMATICAL ITALIC SMALL FdG",
  "1D456aMATHEMATICAL ITALIC SMALL IdJdKdLdMdNdOdPdQdRdSdTdUdVdWdXdYdZbBOLD ITALIC CAPITAL AeBeCeD",
  "1D46CaMATHEMATICAL BOLD ITALIC CAPITAL EeFeGeHeIeJeKeLeMeNeOePeQeReSeTeUeVeWeXeYeZdSMALL AeBeCeD",
  "1D486aMATHEMATICAL BOLD ITALIC SMALL EeFeGeHeIeJeKeLeMeNeOePeQeReSeTeUeVeWeXeYeZ",
  "1D49CaMATHEMATICAL SCRIPT CAPITAL A",
  "1D49EaMATHEMATICAL SCRIPT CAPITAL CdD",
  "1D4A2aMATHEMATICAL SCRIPT CAPITAL G",
  "1D4A5aMATHEMATICAL SCRIPT CAPITAL JdK",
  "1D4A9aMATHEMATICAL SCRIPT CAPITAL NdOdPdQ",
  "1D4AEaMATHEMATICAL SCRIPT CAPITAL SdTdUdVdWdXdYdZcSMALL AdBdCdD",
  "1D4BBaMATHEMATICAL SCRIPT SMALL F",
  "1D4BDaMATHEMATICAL SCRIPT SMALL HdIdJdKdLdMdN",
  "1D4C5aMATHEMATICAL SCRIPT SMALL PdQdRdSdTdUdVdWdXdYdZbBOLD SCRIPT CAPITAL AeBeCeDeEeFeGeHeIeJeK",
  "1D4DBaMATHEMATICAL BOLD SCRIPT CAPITAL LeMeNeOePeQeReSeTeUeVeWeXeYeZdSMALL AeBeCeDeEeFeGeHeIeJeK",
  "1D4F5aMATHEMATICAL BOLD SCRIPT SMALL LeMeNeOePeQeReSeTeUeVeWeXeYeZbFRAKTUR CAPITAL AdB",
  "1D507aMATHEMATICAL FRAKTUR CAPITAL DdEdFdG",
  "1D50DaMATHEMATICAL FRAKTUR CAPITAL JdKdLdMdNdOdPdQ",
  "1D516aMATHEMATICAL FRAKTUR CAPITAL SdTdUdVdWdXdY",
  "1D51EaMATHEMATICAL FRAKTUR SMALL AdBdCdDdEdFdGdHdIdJdKdLdMdNdOdPdQdRdSdTdUdVdWdXdYdZ",
  "1D538aMATHEMATICAL DOUBLE-STRUCK CAPITAL AdB",
  "1D53BaMATHEMATICAL DOUBLE-STRUCK CAPITAL DdEdFdG",
  "1D540aMATHEMATICAL DOUBLE-STRUCK CAPITAL IdJdKdLdM",
  "1D546aMATHEMATICAL DOUBLE-STRUCK CAPITAL O",
  "1D54AaMATHEMATICAL DOUBLE-STRUCK CAPITAL SdTdUdVdWdXdY",
  "1D552aMATHEMATICAL DOUBLE-STRUCK SMALL AdBdCdDdEdFdGdHdIdJdKdLdMdNdOdPdQdRdSdTdUdVdWdXdYdZ",
  "1D56CaMATHEMATICAL BOLD FRAKTUR CAPITAL AeBeCeDeEeFeGeHeIeJeKeLeMeNeOePeQeReSeTeUeVeWeXeYeZ",
  "1D586aMATHEMATICAL BOLD FRAKTUR SMALL AeBeCeDeEeFeGeHeIeJeKeLeMeNeOePeQeReSeTeUeVeWeXeYeZ",
  "1D5A0aMATHEMATICAL SANS-SERIF CAPITAL AdBdCdDdEdFdGdHdIdJdKdLdMdNdOdPdQdRdSdTdUdVdWdXdYdZ",
  "1D5BAaMATHEMATICAL SANS-SERIF SMALL AdBdCdDdEdFdGdHdIdJdKdLdMdNdOdPdQdRdSdTdUdVdWdXdYdZ",
  "1D5D4aMATHEMATICAL SANS-SERIF BOLD CAPITAL AeBeCeDeEeFeGeHeIeJeKeLeMeNeOePeQeReSeTeUeVeWeXeYeZ",
  "1D5EEaMATHEMATICAL SANS-SERIF BOLD SMALL AeBeCeDeEeFeGeHeIeJeKeLeMeNeOePeQeReSeTeUeVeWeXeYeZ",
  "1D608aMATHEMATICAL SANS-SERIF ITALIC CAPITAL AeBeCeDeEeFeGeHeIeJeKeLeMeNeOePeQeReSeTeUeVeWeXeYeZ",
  "1D622aMATHEMATICAL SANS-SERIF ITALIC SMALL AeBeCeDeEeFeGeHeIeJeKeLeMeNeOePeQeReSeTeUeVeWeXeYeZ",
  "1D63CaMATHEMATICAL SANS-SERIF BOLD ITALIC CAPITAL AfBfCfDfEfFfGfHfIfJfKfLfMfNfOfPfQfRfSfTfUfVfW",
  "1D653aMATHEMATICAL SANS-SERIF BOLD ITALIC CAPITAL XfYfZeSMALL AfBfCfDfEfFfGfHfIfJfKfLfMfNfOfPfQ",
  "1D667aMATHEMATICAL SANS-SERIF BOLD ITALIC SMALL RfSfTfUfVfWfXfYfZbMONOSPACE CAPITAL AdBdCdDdEdF",
  "1D676aMATHEMATICAL MONOSPACE CAPITAL GdHdIdJdKdLdMdNdOdPdQdRdSdTdUdVdWdXdYdZcSMALL AdBdCdDdEdFdG",
  "1D691aMATHEMATICAL MONOSPACE SMALL HdIdJdKdLdMdNdOdPdQdRdSdTdUdVdWdXdYdZbITALIC SMALL DOTLESS I",
  "1D6A5aMATHEMATICAL ITALIC SMALL DOTLESS J",
  "1D6A8aMATHEMATICAL BOLD CAPITAL ALPHAdBETAdGAMMAdDELTAdEPSILONdZETAdETAdTHETAdIOTAdKAPPAdLAMDA",
  "1D6B3aMATHEMATICAL BOLD CAPITAL MUdNUdXIdOMICRONdPIdRHOdTHETA SYMBOLdSIGMAdTAUdUPSILONdPHIdCHI",
  "1D6BFaMATHEMATICAL BOLD CAPITAL PSIdOMEGAcNABLAcSMALL ALPHAdBETAdGAMMAdDELTAdEPSILONdZETAdETA",
  "1D6C9aMATHEMATICAL BOLD SMALL THETAdIOTAdKAPPAdLAMDAdMUdNUdXIdOMICRONdPIdRHOdFINAL SIGMAdSIGMA",
  "1D6D5aMATHEMATICAL BOLD SMALL TAUdUPSILONdPHIdCHIdPSIdOMEGAcPARTIAL DIFFERENTIALcEPSILON SYMBOL",
  "1D6DDaMATHEMATICAL BOLD THETA SYMBOLcKAPPA SYMBOLcPHI SYMBOLcRHO SYMBOLcPI SYMBOL",
  "1D6E2aMATHEMATICAL ITALIC CAPITAL ALPHAdBETAdGAMMAdDELTAdEPSILONdZETAdETAdTHETAdIOTAdKAPPAdLAMDA",
  "1D6EDaMATHEMATICAL ITALIC CAPITAL MUdNUdXIdOMICRONdPIdRHOdTHETA SYMBOLdSIGMAdTAUdUPSILONdPHIdCHI",
  "1D6F9aMATHEMATICAL ITALIC CAPITAL PSIdOMEGAcNABLAcSMALL ALPHAdBETAdGAMMAdDELTAdEPSILONdZETAdETA",
  "1D703aMATHEMATICAL ITALIC SMALL THETAdIOTAdKAPPAdLAMDAdMUdNUdXIdOMICRONdPIdRHOdFINAL SIGMAdSIGMA",
  "1D70FaMATHEMATICAL ITALIC SMALL TAUdUPSILONdPHIdCHIdPSIdOMEGAcPARTIAL DIFFERENTIAL",
  "1D716aMATHEMATICAL ITALIC EPSILON SYMBOLcTHETA SYMBOLcKAPPA SYMBOLcPHI SYMBOLcRHO SYMBOL",
  "1D71BaMATHEMATICAL ITALIC PI SYMBOLbBOLD ITALIC CAPITAL ALPHAeBETAeGAMMAeDELTAeEPSILONeZETAeETA",
  "1D723aMATHEMATICAL BOLD ITALIC CAPITAL THETAeIOTAeKAPPAeLAMDAeMUeNUeXIeOMICRONePIeRHO",
  "1D72DaMATHEMATICAL BOLD ITALIC CAPITAL THETA SYMBOLeSIGMAeTAUeUPSILONePHIeCHIePSIeOMEGAdNABLA",
  "1D736aMATHEMATICAL BOLD ITALIC SMALL ALPHAeBETAeGAMMAeDELTAeEPSILONeZETAeETAeTHETAeIOTAeKAPPA",
  "1D740aMATHEMATICAL BOLD ITALIC SMALL LAMDAeMUeNUeXIeOMICRONePIeRHOeFINAL SIGMAeSIGMAeTAUeUPSILON",
  "1D74BaMATHEMATICAL BOLD ITALIC SMALL PHIeCHIePSIeOMEGAdPARTIAL DIFFERENTIALdEPSILON SYMBOL",
  "1D751aMATHEMATICAL BOLD ITALIC THETA SYMBOLdKAPPA SYMBOLdPHI SYMBOLdRHO SYMBOLdPI SYMBOL",
  "1D756aMATHEMATICAL SANS-SERIF BOLD CAPITAL ALPHAeBETAeGAMMAeDELTAeEPSILONeZETAeETAeTHETAeIOTA",
  "1D75FaMATHEMATICAL SANS-SERIF BOLD CAPITAL KAPPAeLAMDAeMUeNUeXIeOMICRONePIeRHOeTHETA SYMBOL",
  "1D768aMATHEMATICAL SANS-SERIF BOLD CAPITAL SIGMAeTAUeUPSILONePHIeCHIePSIeOMEGAdNABLAdSMALL ALPHA",
  "1D771aMATHEMATICAL SANS-SERIF BOLD SMALL BETAeGAMMAeDELTAeEPSILONeZETAeETAeTHETAeIOTAeKAPPA",
  "1D77AaMATHEMATICAL SANS-SERIF BOLD SMALL LAMDAeMUeNUeXIeOMICRONePIeRHOeFINAL SIGMAeSIGMAeTAU",
  "1D784aMATHEMATICAL SANS-SERIF BOLD SMALL UPSILONePHIeCHIePSIeOMEGAdPARTIAL DIFFERENTIAL",
  "1D78AaMATHEMATICAL SANS-SERIF BOLD EPSILON SYMBOLdTHETA SYMBOLdKAPPA SYMBOLdPHI SYMBOL",
  "1D78EaMATHEMATICAL SANS-SERIF BOLD RHO SYMBOLdPI SYMBOLdITALIC CAPITAL ALPHAfBETAfGAMMAfDELTA",
  "1D794aMATHEMATICAL SANS-SERIF BOLD ITALIC CAPITAL EPSILONfZETAfETAfTHETAfIOTAfKAPPAfLAMDAfMUfNU",
  "1D79DaMATHEMATICAL SANS-SERIF BOLD ITALIC CAPITAL XIfOMICRONfPIfRHOfTHETA SYMBOLfSIGMAfTAU",
  "1D7A4aMATHEMATICAL SANS-SERIF BOLD ITALIC CAPITAL UPSILONfPHIfCHIfPSIfOMEGAeNABLAeSMALL ALPHA",
  "1D7ABaMATHEMATICAL SANS-SERIF BOLD ITALIC SMALL BETAfGAMMAfDELTAfEPSILONfZETAfETAfTHETAfIOTA",
  "1D7B3aMATHEMATICAL SANS-SERIF BOLD ITALIC SMALL KAPPAfLAMDAfMUfNUfXIfOMICRONfPIfRHOfFINAL SIGMA",
  "1D7BCaMATHEMATICAL SANS-SERIF BOLD ITALIC SMALL SIGMAfTAUfUPSILONfPHIfCHIfPSIfOMEGA",
  "1D7C3aMATHEMATICAL SANS-SERIF BOLD ITALIC PARTIAL DIFFERENTIALeEPSILON SYMBOLeTHETA SYMBOL",
  "1D7C6aMATHEMATICAL SANS-SERIF BOLD ITALIC KAPPA SYMBOLePHI SYMBOLeRHO SYMBOLePI SYMBOL",
  "1D7CAaMATHEMATICAL BOLD CAPITAL DIGAMMAcSMALL DIGAMMA",
  "1D7CEaMATHEMATICAL BOLD DIGIT ZEROdONEdTWOdTHREEdFOURdFIVEdSIXdSEVENdEIGHTdNINE",
  "1D7D8aMATHEMATICAL DOUBLE-STRUCK DIGIT ZEROdONEdTWOdTHREEdFOURdFIVEdSIXdSEVENdEIGHTdNINE",
  "1D7E2aMATHEMATICAL SANS-SERIF DIGIT ZEROdONEdTWOdTHREEdFOURdFIVEdSIXdSEVENdEIGHTdNINE",
  "1D7ECaMATHEMATICAL SANS-SERIF BOLD DIGIT ZEROeONEeTWOeTHREEeFOUReFIVEeSIXeSEVENeEIGHTeNINE",
  "1D7F6aMATHEMATICAL MONOSPACE DIGIT ZEROdONEdTWOdTHREEdFOURdFIVEdSIXdSEVENdEIGHTdNINE",
  "1D800aSIGNWRITING HAND-FIST INDEXbHAND-CIRCLE INDEXbHAND-CUP INDEXbHAND-OVAL INDEX",
  "1D804aSIGNWRITING HAND-HINGE INDEXbHAND-ANGLE INDEXbHAND-FIST INDEX BENTbHAND-CIRCLE INDEX BENT",
  "1D808aSIGNWRITING HAND-FIST THUMB UNDER INDEX BENTcINDEX RAISED KNUCKLEdCUPPEDdHINGEDeLOW",
  "1D80DaSIGNWRITING HAND-CIRCLE INDEX HINGEbHAND-FIST INDEX MIDDLEbHAND-CIRCLE INDEX MIDDLE",
  "1D810aSIGNWRITING HAND-FIST INDEX MIDDLE BENTeRAISED KNUCKLESeHINGEDdUP MIDDLE HINGED",
  "1D814aSIGNWRITING HAND-FIST INDEX HINGED MIDDLE UPdMIDDLE CONJOINEDfINDEX BENTfMIDDLE BENT",
  "1D818aSIGNWRITING HAND-FIST INDEX MIDDLE CONJOINED CUPPEDfHINGEDeCROSSED",
  "1D81BaSIGNWRITING HAND-CIRCLE INDEX MIDDLE CROSSEDbHAND-FIST MIDDLE BENT OVER INDEX",
  "1D81DaSIGNWRITING HAND-FIST INDEX BENT OVER MIDDLEdMIDDLE THUMBbHAND-CIRCLE INDEX MIDDLE THUMB",
  "1D820aSIGNWRITING HAND-FIST INDEX MIDDLE STRAIGHT THUMB BENTeBENT THUMB STRAIGHTeTHUMB BENT",
  "1D823aSIGNWRITING HAND-FIST INDEX MIDDLE HINGED SPREAD THUMB SIDEdUP MIDDLE HINGED THUMB SIDE",
  "1D825aSIGNWRITING HAND-FIST INDEX UP MIDDLE HINGED THUMB CONJOINEDdHINGED MIDDLE UP THUMB SIDE",
  "1D827aSIGNWRITING HAND-FIST INDEX MIDDLE UP SPREAD THUMB FORWARDeTHUMB CUPPEDfCIRCLEDfHOOKED",
  "1D82BaSIGNWRITING HAND-FIST INDEX MIDDLE THUMB HINGEDcTHUMB BETWEEN INDEX MIDDLE STRAIGHT",
  "1D82DaSIGNWRITING HAND-FIST INDEX MIDDLE CONJOINED THUMB SIDEhCONJOINEDhBENT",
  "1D830aSIGNWRITING HAND-FIST MIDDLE THUMB HOOKED INDEX UPcINDEX THUMB HOOKED MIDDLE UP",
  "1D832aSIGNWRITING HAND-FIST INDEX MIDDLE CONJOINED HINGED THUMB SIDEeCROSSED THUMB SIDE",
  "1D834aSIGNWRITING HAND-FIST INDEX MIDDLE CONJOINED THUMB FORWARDfCUPPED THUMB FORWARD",
  "1D836aSIGNWRITING HAND-FIST MIDDLE THUMB CUPPED INDEX UPcINDEX THUMB CUPPED MIDDLE UP",
  "1D838aSIGNWRITING HAND-FIST MIDDLE THUMB CIRCLED INDEX UPgHINGED",
  "1D83AaSIGNWRITING HAND-FIST INDEX THUMB ANGLED OUT MIDDLE UPfIN MIDDLE UPeCIRCLED MIDDLE UP",
  "1D83DaSIGNWRITING HAND-FIST INDEX MIDDLE THUMB CONJOINED HINGEDfANGLED OUT",
  "1D83FaSIGNWRITING HAND-FIST INDEX MIDDLE THUMB ANGLEDcMIDDLE THUMB ANGLED OUT INDEX UPhCROSSED",
  "1D842aSIGNWRITING HAND-FIST MIDDLE THUMB ANGLED INDEX UPcINDEX THUMB HOOKED MIDDLE HINGED",
  "1D844aSIGNWRITING HAND-FLAT FOUR FINGERSeBENTeHINGEDeCONJOINEDfSPLIT",
  "1D849aSIGNWRITING HAND-CLAW FOUR FINGERS CONJOINEDbHAND-FIST FOUR FINGERS CONJOINED BENT",
  "1D84BaSIGNWRITING HAND-HINGE FOUR FINGERS CONJOINEDbHAND-FLAT FIVE FINGERS SPREAD",
  "1D84DaSIGNWRITING HAND-FLAT HEEL FIVE FINGERS SPREADcFIVE FINGERS SPREAD FOUR BENT",
  "1D84FaSIGNWRITING HAND-FLAT HEEL FIVE FINGERS SPREAD FOUR BENTcFIVE FINGERS SPREAD BENT",
  "1D851aSIGNWRITING HAND-FLAT HEEL FIVE FINGERS SPREAD BENTcFIVE FINGERS SPREAD THUMB FORWARD",
  "1D853aSIGNWRITING HAND-CUP FIVE FINGERS SPREADfOPENbHAND-HINGE FIVE FINGERS SPREAD OPEN",
  "1D856aSIGNWRITING HAND-OVAL FIVE FINGERS SPREADbHAND-FLAT FIVE FINGERS SPREAD HINGEDgTHUMB SIDE",
  "1D859aSIGNWRITING HAND-FLAT FIVE FINGERS SPREAD HINGED NO THUMB",
  "1D85AaSIGNWRITING HAND-FLATcBETWEEN PALM FACINGScHEELcTHUMB SIDEcHEEL THUMB SIDEcTHUMB BENT",
  "1D860aSIGNWRITING HAND-FLAT THUMB FORWARDcSPLIT INDEX THUMB SIDEdCENTREeTHUMB SIDEgBENTdLITTLE",
  "1D866aSIGNWRITING HAND-CLAWcTHUMB SIDEcNO THUMBcTHUMB FORWARDbHAND-HOOK CURLICUE",
  "1D86BaSIGNWRITING HAND-HOOKbHAND-CUP OPEN",
  "1D86DaSIGNWRITING HAND-CUPcOPEN THUMB SIDEcTHUMB SIDEcOPEN NO THUMBcNO THUMBcOPEN THUMB FORWARD",
  "1D873aSIGNWRITING HAND-CUP THUMB FORWARDbHAND-CURLICUE OPEN",
  "1D875aSIGNWRITING HAND-CURLICUEbHAND-CIRCLEbHAND-OVALcTHUMB SIDEcNO THUMBcTHUMB FORWARD"]

/-- More rows of names. -/
def nameRowsL : List String := [
  "1D87BaSIGNWRITING HAND-HINGE OPENdTHUMB FORWARD",
  "1D87DaSIGNWRITING HAND-HINGEcSMALLcOPEN THUMB SIDEcTHUMB SIDEcOPEN NO THUMBcNO THUMB",
  "1D883aSIGNWRITING HAND-HINGE THUMB SIDE TOUCHING INDEXdBETWEEN MIDDLE RINGbHAND-ANGLE",
  "1D886aSIGNWRITING HAND-FIST INDEX MIDDLE RINGbHAND-CIRCLE INDEX MIDDLE RING",
  "1D888aSIGNWRITING HAND-HINGE INDEX MIDDLE RINGbHAND-ANGLE INDEX MIDDLE RINGbHAND-HINGE LITTLE",
  "1D88BaSIGNWRITING HAND-FIST INDEX MIDDLE RING BENTfCONJOINED",
  "1D88DaSIGNWRITING HAND-HINGE INDEX MIDDLE RING CONJOINEDbHAND-FIST LITTLE DOWNeRIPPLE STRAIGHT",
  "1D890aSIGNWRITING HAND-FIST LITTLE DOWN RIPPLE CURVEDeOTHERS CIRCLEDdUPcTHUMB UNDER LITTLE UP",
  "1D894aSIGNWRITING HAND-CIRCLE LITTLE UPbHAND-OVAL LITTLE UPbHAND-ANGLE LITTLE UP",
  "1D897aSIGNWRITING HAND-FIST LITTLE RAISED KNUCKLEdBENTdTOUCHES THUMBdTHUMB",
  "1D89BaSIGNWRITING HAND-HINGE LITTLE THUMBbHAND-FIST LITTLE INDEX THUMB",
  "1D89DaSIGNWRITING HAND-HINGE LITTLE INDEX THUMBbHAND-ANGLE LITTLE INDEX THUMB INDEX THUMB OUT",
  "1D89FaSIGNWRITING HAND-ANGLE LITTLE INDEX THUMB INDEX THUMBbHAND-FIST LITTLE INDEX",
  "1D8A1aSIGNWRITING HAND-CIRCLE LITTLE INDEXbHAND-HINGE LITTLE INDEXbHAND-ANGLE LITTLE INDEX",
  "1D8A4aSIGNWRITING HAND-FIST INDEX MIDDLE LITTLEbHAND-CIRCLE INDEX MIDDLE LITTLE",
  "1D8A6aSIGNWRITING HAND-HINGE INDEX MIDDLE LITTLEcRINGbHAND-ANGLE INDEX MIDDLE LITTLE",
  "1D8A9aSIGNWRITING HAND-FIST INDEX MIDDLE CROSS LITTLEbHAND-CIRCLE INDEX MIDDLE CROSS LITTLE",
  "1D8ABaSIGNWRITING HAND-FIST RING DOWNbHAND-HINGE RING DOWN INDEX THUMB HOOK MIDDLE",
  "1D8ADaSIGNWRITING HAND-ANGLE RING DOWN MIDDLE THUMB INDEX CROSSbHAND-FIST RING UPdRAISED KNUCKLE",
  "1D8B0aSIGNWRITING HAND-FIST RING LITTLEbHAND-CIRCLE RING LITTLEbHAND-OVAL RING LITTLE",
  "1D8B3aSIGNWRITING HAND-ANGLE RING LITTLEbHAND-FIST RING MIDDLEeCONJOINEDeRAISED KNUCKLESdINDEX",
  "1D8B8aSIGNWRITING HAND-FIST RING THUMBbHAND-HOOK RING THUMBbHAND-FIST INDEX RING LITTLE",
  "1D8BBaSIGNWRITING HAND-CIRCLE INDEX RING LITTLEbHAND-CURLICUE INDEX RING LITTLE ON",
  "1D8BDaSIGNWRITING HAND-HOOK INDEX RING LITTLE OUTfINfUNDERbHAND-CUP INDEX RING LITTLE",
  "1D8C1aSIGNWRITING HAND-HINGE INDEX RING LITTLEbHAND-ANGLE INDEX RING LITTLE OUT",
  "1D8C3aSIGNWRITING HAND-ANGLE INDEX RING LITTLEbHAND-FIST MIDDLE DOWNbHAND-HINGE MIDDLE",
  "1D8C6aSIGNWRITING HAND-FIST MIDDLE UPbHAND-CIRCLE MIDDLE UPbHAND-FIST MIDDLE RAISED KNUCKLE",
  "1D8C9aSIGNWRITING HAND-FIST MIDDLE UP THUMB SIDEbHAND-HOOK MIDDLE THUMB",
  "1D8CBaSIGNWRITING HAND-FIST MIDDLE THUMB LITTLEdLITTLEdRING LITTLE",
  "1D8CEaSIGNWRITING HAND-CIRCLE MIDDLE RING LITTLEbHAND-CURLICUE MIDDLE RING LITTLE ON",
  "1D8D0aSIGNWRITING HAND-CUP MIDDLE RING LITTLEbHAND-HINGE MIDDLE RING LITTLE",
  "1D8D2aSIGNWRITING HAND-ANGLE MIDDLE RING LITTLE OUTfIN",
  "1D8D4aSIGNWRITING HAND-ANGLE MIDDLE RING LITTLEbHAND-CIRCLE MIDDLE RING LITTLE BENT",
  "1D8D6aSIGNWRITING HAND-CLAW MIDDLE RING LITTLE CONJOINEDgSIDE",
  "1D8D8aSIGNWRITING HAND-HOOK MIDDLE RING LITTLE CONJOINED OUTgIN",
  "1D8DAaSIGNWRITING HAND-HOOK MIDDLE RING LITTLE CONJOINEDbHAND-HINGE INDEX HINGED",
  "1D8DCaSIGNWRITING HAND-FIST INDEX THUMB SIDEbHAND-HINGE INDEX THUMB SIDE",
  "1D8DEaSIGNWRITING HAND-FIST INDEX THUMB SIDE THUMB DIAGONALgCONJOINEDgBENTfINDEX BENTfBOTH BENT",
  "1D8E3aSIGNWRITING HAND-FIST INDEX THUMB SIDE INDEX HINGEeFORWARD INDEX STRAIGHTgBENTeHOOK",
  "1D8E7aSIGNWRITING HAND-FIST INDEX THUMB CURLICUEeCURVE THUMB INSIDE",
  "1D8E9aSIGNWRITING HAND-CLAW INDEX THUMB CURVE THUMB INSIDE",
  "1D8EAaSIGNWRITING HAND-FIST INDEX THUMB CURVE THUMB UNDEReCIRCLEbHAND-CUP INDEX THUMBeOPEN",
  "1D8EEaSIGNWRITING HAND-HINGE INDEX THUMB OPENeLARGE",
  "1D8F0aSIGNWRITING HAND-HINGE INDEX THUMBeSMALLbHAND-ANGLE INDEX THUMB OUTeIN",
  "1D8F4aSIGNWRITING HAND-ANGLE INDEX THUMBbHAND-FIST THUMBdHEELdSIDE DIAGONALeCONJOINEDeBENT",
  "1D8FAaSIGNWRITING HAND-FIST THUMB FORWARDdBETWEEN INDEX MIDDLEeMIDDLE RINGeRING LITTLE",
  "1D8FEaSIGNWRITING HAND-FIST THUMB UNDER TWO FINGERSdOVER TWO FINGERSdUNDER THREE FINGERS",
  "1D901aSIGNWRITING HAND-FIST THUMB UNDER FOUR FINGERSdOVER FOUR RAISED KNUCKLES",
  "1D903aSIGNWRITING HAND-FISTcHEELbTOUCH SINGLEcMULTIPLEcBETWEENbGRASP SINGLEcMULTIPLEcBETWEEN",
  "1D90BaSIGNWRITING STRIKE SINGLEcMULTIPLEcBETWEENbBRUSH SINGLEcMULTIPLEcBETWEENbRUB SINGLE",
  "1D912aSIGNWRITING RUB MULTIPLEcBETWEENbSURFACE SYMBOLScBETWEENbSQUEEZE LARGE SINGLEcSMALL SINGLE",
  "1D918aSIGNWRITING SQUEEZE LARGE MULTIPLEcSMALL MULTIPLEcSEQUENTIALbFLICK LARGE SINGLE",
  "1D91CaSIGNWRITING FLICK SMALL SINGLEcLARGE MULTIPLEcSMALL MULTIPLEcSEQUENTIAL",
  "1D920aSIGNWRITING SQUEEZE FLICK ALTERNATINGbMOVEMENT-HINGE UP DOWN LARGEeSMALLdSEQUENTIAL",
  "1D924aSIGNWRITING MOVEMENT-HINGE DOWN SEQUENTIALcUP DOWN ALTERNATING LARGEfSMALL",
  "1D927aSIGNWRITING MOVEMENT-HINGE SIDE TO SIDE SCISSORSbMOVEMENT-WALLPLANE FINGER CONTACT",
  "1D929aSIGNWRITING MOVEMENT-FLOORPLANE FINGER CONTACTbMOVEMENT-WALLPLANE SINGLE STRAIGHT SMALL",
  "1D92BaSIGNWRITING MOVEMENT-WALLPLANE SINGLE STRAIGHT MEDIUMeLARGEeLARGESTdWRIST FLEX",
  "1D92FaSIGNWRITING MOVEMENT-WALLPLANE DOUBLE STRAIGHTdWRIST FLEXdALTERNATINGeWRIST FLEXcCROSS",
  "1D934aSIGNWRITING MOVEMENT-WALLPLANE TRIPLE STRAIGHT MOVEMENTdWRIST FLEXdALTERNATINGeWRIST FLEX",
  "1D938aSIGNWRITING MOVEMENT-WALLPLANE BEND SMALLdMEDIUMdLARGEcCORNER SMALLdMEDIUMdLARGEdROTATION",
  "1D93FaSIGNWRITING MOVEMENT-WALLPLANE CHECK SMALLdMEDIUMdLARGEcBOX SMALLdMEDIUMdLARGE",
  "1D945aSIGNWRITING MOVEMENT-WALLPLANE ZIGZAG SMALLdMEDIUMdLARGEcPEAKS SMALLdMEDIUMdLARGE",
  "1D94BaSIGNWRITING TRAVEL-WALLPLANE ROTATION-WALLPLANE SINGLEdDOUBLEdALTERNATING",
  "1D94EaSIGNWRITING TRAVEL-WALLPLANE ROTATION-FLOORPLANE SINGLEdDOUBLEdALTERNATINGcSHAKING",
  "1D952aSIGNWRITING TRAVEL-WALLPLANE ARM SPIRAL SINGLEeDOUBLEeTRIPLEbMOVEMENT-DIAGONAL AWAY SMALL",
  "1D956aSIGNWRITING MOVEMENT-DIAGONAL AWAY MEDIUMdLARGEdLARGESTcTOWARDS SMALLdMEDIUMdLARGEdLARGEST",
  "1D95DaSIGNWRITING MOVEMENT-DIAGONAL BETWEEN AWAY SMALLeMEDIUMeLARGEeLARGESTdTOWARDS SMALLeMEDIUM",
  "1D963aSIGNWRITING MOVEMENT-DIAGONAL BETWEEN TOWARDS LARGEeLARGEST",
  "1D965aSIGNWRITING MOVEMENT-FLOORPLANE SINGLE STRAIGHT SMALLeMEDIUMeLARGEeLARGESTdWRIST FLEX",
  "1D96AaSIGNWRITING MOVEMENT-FLOORPLANE DOUBLE STRAIGHTdWRIST FLEXdALTERNATINGeWRIST FLEXcCROSS",
  "1D96FaSIGNWRITING MOVEMENT-FLOORPLANE TRIPLE STRAIGHT MOVEMENTdWRIST FLEXdALTERNATING MOVEMENT",
  "1D972aSIGNWRITING MOVEMENT-FLOORPLANE TRIPLE ALTERNATING WRIST FLEXcBENDcCORNER SMALLdMEDIUM",
  "1D976aSIGNWRITING MOVEMENT-FLOORPLANE CORNER LARGEcCHECKcBOX SMALLdMEDIUMdLARGEcZIGZAG SMALL",
  "1D97CaSIGNWRITING MOVEMENT-FLOORPLANE ZIGZAG MEDIUMdLARGEcPEAKS SMALLdMEDIUMdLARGE",
  "1D981aSIGNWRITING TRAVEL-FLOORPLANE ROTATION-FLOORPLANE SINGLEdDOUBLEdALTERNATING",
  "1D984aSIGNWRITING TRAVEL-FLOORPLANE ROTATION-WALLPLANE SINGLEdDOUBLEdALTERNATINGcSHAKING",
  "1D988aSIGNWRITING MOVEMENT-WALLPLANE CURVE QUARTER SMALLeMEDIUMeLARGEeLARGESTdHALF-CIRCLE SMALL",
  "1D98DaSIGNWRITING MOVEMENT-WALLPLANE CURVE HALF-CIRCLE MEDIUMeLARGEeLARGEST",
  "1D990aSIGNWRITING MOVEMENT-WALLPLANE CURVE THREE-QUARTER CIRCLE SMALLfMEDIUMcHUMP SMALLdMEDIUM",
  "1D994aSIGNWRITING MOVEMENT-WALLPLANE HUMP LARGEcLOOP SMALLdMEDIUMdLARGEdSMALL DOUBLE",
  "1D999aSIGNWRITING MOVEMENT-WALLPLANE WAVE CURVE DOUBLE SMALLfMEDIUMfLARGEeTRIPLE SMALLfMEDIUM",
  "1D99EaSIGNWRITING MOVEMENT-WALLPLANE WAVE CURVE TRIPLE LARGEcCURVE THEN STRAIGHT",
  "1D9A0aSIGNWRITING MOVEMENT-WALLPLANE CURVED CROSS SMALLeMEDIUMbROTATION-WALLPLANE SINGLEcDOUBLE",
  "1D9A4aSIGNWRITING ROTATION-WALLPLANE ALTERNATEbMOVEMENT-WALLPLANE SHAKING",
  "1D9A6aSIGNWRITING MOVEMENT-WALLPLANE CURVE HITTING FRONT WALLcHUMP HITTING FRONT WALL",
  "1D9A8aSIGNWRITING MOVEMENT-WALLPLANE LOOP HITTING FRONT WALLcWAVE HITTING FRONT WALL",
  "1D9AAaSIGNWRITING ROTATION-WALLPLANE SINGLE HITTING FRONT WALLcDOUBLE HITTING FRONT WALL",
  "1D9ACaSIGNWRITING ROTATION-WALLPLANE ALTERNATING HITTING FRONT WALL",
  "1D9ADaSIGNWRITING MOVEMENT-WALLPLANE CURVE HITTING CHESTcHUMP HITTING CHESTcLOOP HITTING CHEST",
  "1D9B0aSIGNWRITING MOVEMENT-WALLPLANE WAVE HITTING CHESTbROTATION-WALLPLANE SINGLE HITTING CHEST",
  "1D9B2aSIGNWRITING ROTATION-WALLPLANE DOUBLE HITTING CHESTcALTERNATING HITTING CHEST",
  "1D9B4aSIGNWRITING MOVEMENT-WALLPLANE WAVE DIAGONAL PATH SMALLfMEDIUMfLARGE",
  "1D9B7aSIGNWRITING MOVEMENT-FLOORPLANE CURVE HITTING CEILING SMALLfLARGE",
  "1D9B9aSIGNWRITING MOVEMENT-FLOORPLANE HUMP HITTING CEILING SMALL DOUBLEfLARGE DOUBLE",
  "1D9BBaSIGNWRITING MOVEMENT-FLOORPLANE HUMP HITTING CEILING SMALL TRIPLEfLARGE TRIPLE",
  "1D9BDaSIGNWRITING MOVEMENT-FLOORPLANE LOOP HITTING CEILING SMALL SINGLEfLARGE SINGLE",
  "1D9BFaSIGNWRITING MOVEMENT-FLOORPLANE LOOP HITTING CEILING SMALL DOUBLEfLARGE DOUBLE",
  "1D9C1aSIGNWRITING MOVEMENT-FLOORPLANE WAVE HITTING CEILING SMALLfLARGE",
  "1D9C3aSIGNWRITING ROTATION-FLOORPLANE SINGLE HITTING CEILINGcDOUBLE HITTING CEILING",
  "1D9C5aSIGNWRITING ROTATION-FLOORPLANE ALTERNATING HITTING CEILING",
  "1D9C6aSIGNWRITING MOVEMENT-FLOORPLANE CURVE HITTING FLOOR SMALLfLARGE",
  "1D9C8aSIGNWRITING MOVEMENT-FLOORPLANE HUMP HITTING FLOOR SMALL DOUBLEfLARGE DOUBLE",
  "1D9CAaSIGNWRITING MOVEMENT-FLOORPLANE HUMP HITTING FLOOR TRIPLE SMALL TRIPLEgLARGE TRIPLE",
  "1D9CCaSIGNWRITING MOVEMENT-FLOORPLANE LOOP HITTING FLOOR SMALL SINGLEfLARGE SINGLEfSMALL DOUBLE",
  "1D9CFaSIGNWRITING MOVEMENT-FLOORPLANE LOOP HITTING FLOOR LARGE DOUBLEcWAVE HITTING FLOOR SMALL",
  "1D9D1aSIGNWRITING MOVEMENT-FLOORPLANE WAVE HITTING FLOOR LARGE",
  "1D9D2aSIGNWRITING ROTATION-FLOORPLANE SINGLE HITTING FLOORcDOUBLE HITTING FLOOR",
  "1D9D4aSIGNWRITING ROTATION-FLOORPLANE ALTERNATING HITTING FLOORbMOVEMENT-FLOORPLANE CURVE SMALL",
  "1D9D6aSIGNWRITING MOVEMENT-FLOORPLANE CURVE MEDIUMdLARGEdLARGESTdCOMBINEDcHUMP SMALLcLOOP SMALL",
  "1D9DCaSIGNWRITING MOVEMENT-FLOORPLANE WAVE SNAKEdSMALLdLARGEbROTATION-FLOORPLANE SINGLEcDOUBLE",
  "1D9E1aSIGNWRITING ROTATION-FLOORPLANE ALTERNATINGbMOVEMENT-FLOORPLANE SHAKING PARALLEL",
  "1D9E3aSIGNWRITING MOVEMENT-WALLPLANE ARM CIRCLE SMALL SINGLEeMEDIUM SINGLEeSMALL DOUBLE",
  "1D9E6aSIGNWRITING MOVEMENT-WALLPLANE ARM CIRCLE MEDIUM DOUBLE",
  "1D9E7aSIGNWRITING MOVEMENT-FLOORPLANE ARM CIRCLE HITTING WALL SMALL SINGLEgMEDIUM SINGLE",
  "1D9E9aSIGNWRITING MOVEMENT-FLOORPLANE ARM CIRCLE HITTING WALL LARGE SINGLEgSMALL DOUBLE",
  "1D9EBaSIGNWRITING MOVEMENT-FLOORPLANE ARM CIRCLE HITTING WALL MEDIUM DOUBLEgLARGE DOUBLE",
  "1D9EDaSIGNWRITING MOVEMENT-WALLPLANE WRIST CIRCLE FRONT SINGLEfDOUBLE",
  "1D9EFaSIGNWRITING MOVEMENT-FLOORPLANE WRIST CIRCLE HITTING WALL SINGLEgDOUBLE",
  "1D9F1aSIGNWRITING MOVEMENT-WALLPLANE FINGER CIRCLES SINGLEeDOUBLE",
  "1D9F3aSIGNWRITING MOVEMENT-FLOORPLANE FINGER CIRCLES HITTING WALL SINGLEgDOUBLE",
  "1D9F5aSIGNWRITING DYNAMIC ARROWHEAD SMALLdLARGEcFASTcSLOWcTENSEcRELAXEDcSIMULTANEOUSdALTERNATING",
  "1D9FDaSIGNWRITING DYNAMIC EVERY OTHER TIMEcGRADUALbHEADcRIMcMOVEMENT-WALLPLANE STRAIGHTdTILT",
  "1DA03aSIGNWRITING HEAD MOVEMENT-FLOORPLANE STRAIGHTcMOVEMENT-WALLPLANE CURVE",
  "1DA05aSIGNWRITING HEAD MOVEMENT-FLOORPLANE CURVEcMOVEMENT CIRCLE",
  "1DA07aSIGNWRITING FACE DIRECTION POSITION NOSE FORWARD TILTINGfUP OR DOWNiTILTING",
  "1DA0AaSIGNWRITING EYEBROWS STRAIGHT UPdNEUTRALdDOWNbDREAMY EYEBROWS NEUTRAL DOWNdDOWN NEUTRAL",
  "1DA0FaSIGNWRITING DREAMY EYEBROWS UP NEUTRALdNEUTRAL UPbFOREHEAD NEUTRALcCONTACTcWRINKLED",
  "1DA14aSIGNWRITING EYES OPENcSQUEEZEDcCLOSEDbEYE BLINK SINGLEdMULTIPLEbEYES HALF OPENcWIDE OPEN",
  "1DA1BaSIGNWRITING EYES HALF CLOSEDcWIDENING MOVEMENTbEYE WINKbEYELASHES UPcDOWNcFLUTTERING",
  "1DA21aSIGNWRITING EYEGAZE-WALLPLANE STRAIGHTdDOUBLEdALTERNATINGbEYEGAZE-FLOORPLANE STRAIGHT",
  "1DA25aSIGNWRITING EYEGAZE-FLOORPLANE STRAIGHT DOUBLEdALTERNATINGbEYEGAZE-WALLPLANE CURVED",
  "1DA28aSIGNWRITING EYEGAZE-FLOORPLANE CURVEDbEYEGAZE-WALLPLANE CIRCLINGbCHEEKS PUFFEDcNEUTRAL",
  "1DA2CaSIGNWRITING CHEEKS SUCKEDbTENSE CHEEKS HIGHdMIDDLEdLOWbEARSbNOSE NEUTRALcCONTACTcWRINKLES",
  "1DA34aSIGNWRITING NOSE WIGGLESbAIR BLOWING OUTcSUCKING INcBLOW SMALL ROTATIONS",
  "1DA38aSIGNWRITING AIR SUCK SMALL ROTATIONSbBREATH INHALEcEXHALEbMOUTH CLOSED NEUTRALdFORWARD",
  "1DA3DaSIGNWRITING MOUTH CLOSED CONTACTcSMILEdWRINKLEDdOPENcFROWNdWRINKLEDdOPENcOPEN CIRCLE",
  "1DA45aSIGNWRITING MOUTH OPEN FORWARDdWRINKLEDdOVALeWRINKLEDeYAWNdRECTANGLEeWRINKLEDeYAWNcKISS",
  "1DA4EaSIGNWRITING MOUTH KISS FORWARDdWRINKLEDcTENSEdFORWARDdSUCKEDbLIPS PRESSED TOGETHER",
  "1DA54aSIGNWRITING LIP LOWER OVER UPPERcUPPER OVER LOWERbMOUTH CORNERScWRINKLES SINGLEdDOUBLE",
  "1DA59aSIGNWRITING TONGUE STICKING OUT FARcLICKING LIPScTIP BETWEEN LIPSdTOUCHING INSIDE MOUTH",
  "1DA5DaSIGNWRITING TONGUE INSIDE MOUTH RELAXEDcMOVES AGAINST CHEEKcCENTRE STICKING OUT",
  "1DA60aSIGNWRITING TONGUE CENTRE INSIDE MOUTHbTEETHcMOVEMENTcON TONGUEeMOVEMENTdLIPSeMOVEMENT",
  "1DA67aSIGNWRITING TEETH BITE LIPSbMOVEMENT-WALLPLANE JAWbMOVEMENT-FLOORPLANE JAWbNECKbHAIR",
  "1DA6CaSIGNWRITING EXCITEMENTbSHOULDER HIP SPINEdPOSITIONSbWALLPLANE SHOULDER HIP MOVE",
  "1DA70aSIGNWRITING FLOORPLANE SHOULDER HIP MOVEbSHOULDER TILTING FROM WAIST",
  "1DA72aSIGNWRITING TORSO-WALLPLANE STRAIGHT STRETCHcCURVED BENDbTORSO-FLOORPLANE TWISTING",
  "1DA75aSIGNWRITING UPPER BODY TILTING FROM HIP JOINTSbLIMB COMBINATIONcLENGTH-1cLENGTH-2cLENGTH-3",
  "1DA7AaSIGNWRITING LIMB LENGTH-4cLENGTH-5cLENGTH-6cLENGTH-7bFINGERbLOCATION-WALLPLANE SPACE",
  "1DA80aSIGNWRITING LOCATION-FLOORPLANE SPACEbLOCATION HEIGHTcWIDTHcDEPTHcHEAD NECKcTORSO",
  "1DA86aSIGNWRITING LOCATION LIMBS DIGITSbCOMMAbFULL STOPbSEMICOLONbCOLONbPARENTHESIS",
  "1DA9BaSIGNWRITING FILL MODIFIER-2cMODIFIER-3cMODIFIER-4cMODIFIER-5cMODIFIER-6",
  "1DAA1aSIGNWRITING ROTATION MODIFIER-2cMODIFIER-3cMODIFIER-4cMODIFIER-5cMODIFIER-6cMODIFIER-7",
  "1DAA7aSIGNWRITING ROTATION MODIFIER-8cMODIFIER-9cMODIFIER-10cMODIFIER-11cMODIFIER-12cMODIFIER-13",
  "1DAADaSIGNWRITING ROTATION MODIFIER-14cMODIFIER-15cMODIFIER-16",
  "1DF00aLATIN SMALL LETTER FENG DIGRAPH WITH TRILLdREVERSED SCRIPT GbLETTER SMALL CAPITAL TURNED G",
  "1DF03aLATIN SMALL LETTER REVERSED KbLETTER SMALL CAPITAL L WITH BELT",
  "1DF05aLATIN SMALL LETTER LEZH WITH RETROFLEX HOOKdTURNED Y WITH BELTdREVERSED ENG",
  "1DF08aLATIN SMALL LETTER TURNED R WITH LONG LEG AND RETROFLEX HOOK",
  "1DF09aLATIN SMALL LETTER T WITH HOOK AND RETROFLEX HOOK",
  "1DF0AaLATIN LETTER RETROFLEX CLICK WITH RETROFLEX HOOKbSMALL LETTER ESH WITH DOUBLE BARhAND CURL",
  "1DF0DaLATIN SMALL LETTER TURNED T WITH CURLbLETTER INVERTED GLOTTAL STOP WITH CURL",
  "1DF0FaLATIN LETTER STRETCHED C WITH CURLcSMALL CAPITAL TURNED KbSMALL LETTER L WITH FISHHOOK",
  "1DF12aLATIN SMALL LETTER DEZH DIGRAPH WITH PALATAL HOOKdL WITH BELT AND PALATAL HOOK",
  "1DF14aLATIN SMALL LETTER ENG WITH PALATAL HOOKdTURNED R WITH PALATAL HOOK",
  "1DF16aLATIN SMALL LETTER R WITH FISHHOOK AND PALATAL HOOKdTESH DIGRAPH WITH PALATAL HOOK",
  "1DF18aLATIN SMALL LETTER EZH WITH PALATAL HOOKdDEZH DIGRAPH WITH RETROFLEX HOOK",
  "1DF1AaLATIN SMALL LETTER I WITH STROKE AND RETROFLEX HOOKdO WITH RETROFLEX HOOK",
  "1DF1CaLATIN SMALL LETTER TESH DIGRAPH WITH RETROFLEX HOOKdC WITH RETROFLEX HOOKdS WITH CURL",
  "1E000aCOMBINING GLAGOLITIC LETTER AZUdBUKYdVEDEdGLAGOLIdDOBROdYESTUdZHIVETE",
  "1E008aCOMBINING GLAGOLITIC LETTER ZEMLJAdIZHEdINITIAL IZHEdIdDJERVIdKAKOdLJUDIJEdMYSLITEdNASHI",
  "1E011aCOMBINING GLAGOLITIC LETTER ONUdPOKOJIdRITSIdSLOVOdTVRIDOdUKUdFRITUdHERU",
  "1E01BaCOMBINING GLAGOLITIC LETTER SHTAdTSIdCHRIVIdSHAdYERUdYERIdYATI",
  "1E023aCOMBINING GLAGOLITIC LETTER YUdSMALL YUS",
  "1E026aCOMBINING GLAGOLITIC LETTER YOdIOTATED SMALL YUSdBIG YUSdIOTATED BIG YUSdFITA",
  "1E100aNYIAKENG PUACHUE HMONG LETTER MAeTSAeNTAeTAeHAeNAeXAeNKAeCAeLAeSAeZAeNCAeNTSAeKAeDAeNYA",
  "1E111aNYIAKENG PUACHUE HMONG LETTER NRAeVAeNTXAeTXAeFAeRAeQAeYAeNQAePAeXYAeNPAeDLAeNPLAeHAHeMLA",
  "1E121aNYIAKENG PUACHUE HMONG LETTER PLAeGAeRRAeAeAAeIeUeOeOOeEeEEeW",
  "1E130aNYIAKENG PUACHUE HMONG TONE-BdTONE-MdTONE-JdTONE-VdTONE-SdTONE-GdTONE-DdSIGN FOR PERSON",
  "1E138aNYIAKENG PUACHUE HMONG SIGN FOR THINGfLOCATIONfANIMALfINVERTEBRATEeXW XW",
  "1E13DaNYIAKENG PUACHUE HMONG SYLLABLE LENGTHENER",
  "1E140aNYIAKENG PUACHUE HMONG DIGIT ZEROeONEeTWOeTHREEeFOUReFIVEeSIXeSEVENeEIGHTeNINE",
  "1E14EaNYIAKENG PUACHUE HMONG LOGOGRAM NYAJdCIRCLED CA",
  "1E290aTOTO LETTER PAcBAcTAcDAcKAcGAcMAcNAcNGAcSAcCHAcYAcWAcJAcHAcRAcLAcIcBREATHY IcIUcBREATHY IU",
  "1E2A5aTOTO LETTER UcEcBREATHY EcEOcBREATHY EOcOcAEcBREATHY AEcAbSIGN RISING TONE",
  "1E2C0aWANCHO LETTER AAcAcBAcCAcDAcGAcYAcPHAcLAcNAcPAcTAcTHAcFAcSAcSHAcJAcZAcWAcVAcKAcOcAUcRAcMA",
  "1E2D9aWANCHO LETTER KHAcHAcEcIcNGAcUcLLHAcTSAcTRAcONGcAANGcANGcINGcONcENcAANcNYAcUENcYIH",
  "1E2ECaWANCHO TONE TUPcTUPNIcKOIcKOINIbDIGIT ZEROcONEcTWOcTHREEcFOURcFIVEcSIXcSEVENcEIGHTcNINE",
  "1E2FFaWANCHO NGUN SIGN",
  "1E7E0aETHIOPIC SYLLABLE HHYAcHHYUcHHYIcHHYAAcHHYEEcHHYEcHHYO",
  "1E7E8aETHIOPIC SYLLABLE GURAGE HHWAcHHWIcHHWEEcHHWE",
  "1E7EDaETHIOPIC SYLLABLE GURAGE MWIdMWEE",
  "1E7F0aETHIOPIC SYLLABLE GURAGE QWIdQWEEdQWEdBWIdBWEEdKWIdKWEEdKWEdGWIdGWEEdGWEdFWIdFWEEdPWIdPWEE",
  "1E800aMENDE KIKAKUI SYLLABLE M001 KIdM002 KAdM003 KUdM065 KEEdM095 KEdM076 KOOdM048 KOdM179 KUA",
  "1E808aMENDE KIKAKUI SYLLABLE M004 WIdM005 WAdM006 WUdM126 WEEdM118 WEdM114 WOOdM045 WOdM194 WUI",
  "1E810aMENDE KIKAKUI SYLLABLE M143 WEIdM061 WVIdM049 WVAdM139 WVEdM007 MINdM008 MANdM009 MUN",
  "1E817aMENDE KIKAKUI SYLLABLE M059 MENdM094 MONdM154 MUANdM189 MUENdM010 BIdM011 BAdM012 BU",
  "1E81EaMENDE KIKAKUI SYLLABLE M150 BEEdM097 BEdM103 BOOdM138 BOdM013 IdM014 AdM015 UdM163 EE",
  "1E826aMENDE KIKAKUI SYLLABLE M100 EdM165 OOdM147 OdM137 EIdM131 INdM135 INdM195 ANdM178 EN",
  "1E82EaMENDE KIKAKUI SYLLABLE M019 SIdM020 SAdM021 SUdM162 SEEdM116 SEdM136 SOOdM079 SOdM196 SIA",
  "1E836aMENDE KIKAKUI SYLLABLE M025 LIdM026 LAdM027 LUdM084 LEEdM073 LEdM054 LOOdM153 LO",
  "1E83DaMENDE KIKAKUI SYLLABLE M110 LONG LEdM016 DIdM017 DAdM018 DUdM089 DEEdM180 DOOdM181 DO",
  "1E844aMENDE KIKAKUI SYLLABLE M022 TIdM023 TAdM024 TUdM091 TEEdM055 TEdM104 TOOdM069 TOdM028 JI",
  "1E84CaMENDE KIKAKUI SYLLABLE M029 JAdM030 JUdM157 JEEdM113 JEdM160 JOOdM063 JOdM175 LONG JO",
  "1E853aMENDE KIKAKUI SYLLABLE M031 YIdM032 YAdM033 YUdM109 YEEdM080 YEdM141 YOOdM121 YOdM034 FI",
  "1E85BaMENDE KIKAKUI SYLLABLE M035 FAdM036 FUdM078 FEEdM075 FEdM133 FOOdM088 FOdM197 FUAdM101 FAN",
  "1E863aMENDE KIKAKUI SYLLABLE M037 NINdM038 NANdM039 NUNdM117 NENdM169 NONdM176 HIdM041 HA",
  "1E86AaMENDE KIKAKUI SYLLABLE M186 HUdM040 HEEdM096 HEdM042 HOOdM140 HOdM083 HEEIdM128 HOOU",
  "1E871aMENDE KIKAKUI SYLLABLE M053 HINdM130 HANdM087 HUNdM052 HENdM193 HONdM046 HUANdM090 NGGI",
  "1E878aMENDE KIKAKUI SYLLABLE M043 NGGAdM082 NGGUdM115 NGGEEdM146 NGGEdM156 NGGOOdM120 NGGO",
  "1E87EaMENDE KIKAKUI SYLLABLE M159 NGGAAdM127 NGGUAdM086 LONG NGGEdM106 LONG NGGOOdM183 LONG NGGO",
  "1E883aMENDE KIKAKUI SYLLABLE M155 GIdM111 GAdM168 GUdM190 GEEdM166 GUEIdM167 GUANdM184 NGEN",
  "1E88AaMENDE KIKAKUI SYLLABLE M057 NGONdM177 NGUANdM068 PIdM099 PAdM050 PUdM081 PEEdM051 PE",
  "1E891aMENDE KIKAKUI SYLLABLE M102 POOdM066 POdM145 MBIdM062 MBAdM122 MBUdM047 MBEEdM188 MBEE",
  "1E898aMENDE KIKAKUI SYLLABLE M072 MBEdM172 MBOOdM174 MBOdM187 MBUUdM161 LONG MBEdM105 LONG MBOO",
  "1E89EaMENDE KIKAKUI SYLLABLE M142 LONG MBOdM132 KPIdM092 KPAdM074 KPUdM044 KPEEdM108 KPE",
  "1E8A4aMENDE KIKAKUI SYLLABLE M112 KPOOdM158 KPOdM124 GBIdM056 GBAdM148 GBUdM093 GBEEdM107 GBE",
  "1E8ABaMENDE KIKAKUI SYLLABLE M071 GBOOdM070 GBOdM171 RAdM123 NDIdM129 NDAdM125 NDUdM191 NDEE",
  "1E8B2aMENDE KIKAKUI SYLLABLE M119 NDEdM067 NDOOdM064 NDOdM152 NJAdM192 NJUdM149 NJEEdM134 NJOO",
  "1E8B9aMENDE KIKAKUI SYLLABLE M182 VIdM185 VAdM151 VUdM173 VEEdM085 VEdM144 VOOdM077 VOdM164 NYIN",
  "1E8C1aMENDE KIKAKUI SYLLABLE M058 NYANdM170 NYUNdM098 NYENdM060 NYON",
  "1E8C7aMENDE KIKAKUI DIGIT ONEdTWOdTHREEdFOURdFIVEdSIXdSEVENdEIGHTdNINEcCOMBINING NUMBER TEENS",
  "1E8D1aMENDE KIKAKUI COMBINING NUMBER TENSeHUNDREDSeTHOUSANDSeTEN THOUSANDSeHUNDRED THOUSANDS",
  "1E8D6aMENDE KIKAKUI COMBINING NUMBER MILLIONS",
  "1E900aADLAM CAPITAL LETTER ALIFdDAALIdLAAMdMIIMdBAdSINNYIIYHEdPEdBHEdRAdEdFAdIdOdDHAdYHEdWAWdNUN",
  "1E911aADLAM CAPITAL LETTER KAFdYAdUdJIIMdCHIdHAdQAAFdGAdNYAdTUdNHAdVAdKHAdGBEdZALdKPOdSHA",
  "1E922aADLAM SMALL LETTER ALIFdDAALIdLAAMdMIIMdBAdSINNYIIYHEdPEdBHEdRAdEdFAdIdOdDHAdYHEdWAWdNUN",
  "1E933aADLAM SMALL LETTER KAFdYAdUdJIIMdCHIdHAdQAAFdGAdNYAdTUdNHAdVAdKHAdGBEdZALdKPOdSHA",
  "1E944aADLAM ALIF LENGTHENERbVOWEL LENGTHENERbGEMINATION MARKbHAMZAbCONSONANT MODIFIER",
  "1E949aADLAM GEMINATE CONSONANT MODIFIERbNUKTAbNASALIZATION MARK",
  "1E950aADLAM DIGIT ZEROcONEcTWOcTHREEcFOURcFIVEcSIXcSEVENcEIGHTcNINE",
  "1E95EaADLAM INITIAL EXCLAMATION MARKcQUESTION MARK",
  "1EC71aINDIC SIYAQ NUMBER ONEdTWOdTHREEdFOURdFIVEdSIXdSEVENdEIGHTdNINEdTENdTWENTYdTHIRTYdFORTY",
  "1EC7EaINDIC SIYAQ NUMBER FIFTYdSIXTYdSEVENTYdEIGHTYdNINETYdONE HUNDREDdTWO HUNDREDdTHREE HUNDRED",
  "1EC86aINDIC SIYAQ NUMBER FOUR HUNDREDdFIVE HUNDREDdSIX HUNDREDdSEVEN HUNDREDdEIGHT HUNDRED",
  "1EC8BaINDIC SIYAQ NUMBER NINE HUNDREDdONE THOUSANDdTWO THOUSANDdTHREE THOUSANDdFOUR THOUSAND",
  "1EC90aINDIC SIYAQ NUMBER FIVE THOUSANDdSIX THOUSANDdSEVEN THOUSANDdEIGHT THOUSANDdNINE THOUSAND",
  "1EC95aINDIC SIYAQ NUMBER TEN THOUSANDdTWENTY THOUSANDdTHIRTY THOUSANDdFORTY THOUSAND",
  "1EC99aINDIC SIYAQ NUMBER FIFTY THOUSANDdSIXTY THOUSANDdSEVENTY THOUSANDdEIGHTY THOUSAND",
  "1EC9DaINDIC SIYAQ NUMBER NINETY THOUSANDdLAKHdLAKHANcLAKH MARKcNUMBER KARORdKARORANdPREFIXED ONE",
  "1ECA4aINDIC SIYAQ NUMBER PREFIXED TWOeTHREEeFOUReFIVEeSIXeSEVENeEIGHTeNINEcPLACEHOLDER",
  "1ECADaINDIC SIYAQ FRACTION ONE QUARTEReHALFdTHREE QUARTERScRUPEE MARKcNUMBER ALTERNATE ONEeTWO",
  "1ECB3aINDIC SIYAQ NUMBER ALTERNATE TEN THOUSANDcALTERNATE LAKH MARK",
  "1ED01aOTTOMAN SIYAQ NUMBER ONEdTWOdTHREEdFOURdFIVEdSIXdSEVENdEIGHTdNINEdTENdTWENTYdTHIRTYdFORTY",
  "1ED0EaOTTOMAN SIYAQ NUMBER FIFTYdSIXTYdSEVENTYdEIGHTYdNINETYdONE HUNDREDdTWO HUNDRED",
  "1ED15aOTTOMAN SIYAQ NUMBER THREE HUNDREDdFOUR HUNDREDdFIVE HUNDREDdSIX HUNDREDdSEVEN HUNDRED",
  "1ED1AaOTTOMAN SIYAQ NUMBER EIGHT HUNDREDdNINE HUNDREDdONE THOUSANDdTWO THOUSANDdTHREE THOUSAND",
  "1ED1FaOTTOMAN SIYAQ NUMBER FOUR THOUSANDdFIVE THOUSANDdSIX THOUSANDdSEVEN THOUSAND",
  "1ED23aOTTOMAN SIYAQ NUMBER EIGHT THOUSANDdNINE THOUSANDdTEN THOUSANDdTWENTY THOUSAND",
  "1ED27aOTTOMAN SIYAQ NUMBER THIRTY THOUSANDdFORTY THOUSANDdFIFTY THOUSANDdSIXTY THOUSAND",
  "1ED2BaOTTOMAN SIYAQ NUMBER SEVENTY THOUSANDdEIGHTY THOUSANDdNINETY THOUSANDcMARRATAN",
  "1ED2FaOTTOMAN SIYAQ ALTERNATE NUMBER TWOeTHREEeFOUReFIVEeSIXeSEVENeEIGHTeNINEeTENeFOUR HUNDRED",
  "1ED39aOTTOMAN SIYAQ ALTERNATE NUMBER SIX HUNDREDeTWO THOUSANDeTEN THOUSANDcFRACTION ONE HALF",
  "1ED3DaOTTOMAN SIYAQ FRACTION ONE SIXTH",
  "1EE00aARABIC MATHEMATICAL ALEFcBEHcJEEMcDAL",
  "1EE05aARABIC MATHEMATICAL WAWcZAINcHAHcTAHcYEHcKAFcLAMcMEEMcNOONcSEENcAINcFEHcSADcQAFcREHcSHEEN",
  "1EE15aARABIC MATHEMATICAL TEHcTHEHcKHAHcTHALcDADcZAHcGHAINcDOTLESS BEHdNOONdFEHdQAF",
  "1EE21aARABIC MATHEMATICAL INITIAL BEHdJEEM",
  "1EE24aARABIC MATHEMATICAL INITIAL HEH",
  "1EE27aARABIC MATHEMATICAL INITIAL HAH",
  "1EE29aARABIC MATHEMATICAL INITIAL YEHdKAFdLAMdMEEMdNOONdSEENdAINdFEHdSADdQAF",
  "1EE34aARABIC MATHEMATICAL INITIAL SHEENdTEHdTHEHdKHAH",
  "1EE39aARABIC MATHEMATICAL INITIAL DAD",
  "1EE3BaARABIC MATHEMATICAL INITIAL GHAIN",
  "1EE42aARABIC MATHEMATICAL TAILED JEEM",
  "1EE47aARABIC MATHEMATICAL TAILED HAH",
  "1EE49aARABIC MATHEMATICAL TAILED YEH",
  "1EE4BaARABIC MATHEMATICAL TAILED LAM",
  "1EE4DaARABIC MATHEMATICAL TAILED NOONdSEENdAIN",
  "1EE51aARABIC MATHEMATICAL TAILED SADdQAF",
  "1EE54aARABIC MATHEMATICAL TAILED SHEEN",
  "1EE57aARABIC MATHEMATICAL TAILED KHAH",
  "1EE59aARABIC MATHEMATICAL TAILED DAD",
  "1EE5BaARABIC MATHEMATICAL TAILED GHAIN",
  "1EE5DaARABIC MATHEMATICAL TAILED DOTLESS NOON",
  "1EE5FaARABIC MATHEMATICAL TAILED DOTLESS QAF",
  "1EE61aARABIC MATHEMATICAL STRETCHED BEHdJEEM",
  "1EE64aARABIC MATHEMATICAL STRETCHED HEH",
  "1EE67aARABIC MATHEMATICAL STRETCHED HAHdTAHdYEHdKAF",
  "1EE6CaARABIC MATHEMATICAL STRETCHED MEEMdNOONdSEENdAINdFEHdSADdQAF",
  "1EE74aARABIC MATHEMATICAL STRETCHED SHEENdTEHdTHEHdKHAH",
  "1EE79aARABIC MATHEMATICAL STRETCHED DADdZAHdGHAINdDOTLESS BEH",
  "1EE7EaARABIC MATHEMATICAL STRETCHED DOTLESS FEH",
  "1EE80aARABIC MATHEMATICAL LOOPED ALEFdBEHdJEEMdDALdHEHdWAWdZAINdHAHdTAHdYEH",
  "1EE8BaARABIC MATHEMATICAL LOOPED LAMdMEEMdNOONdSEENdAINdFEHdSADdQAFdREHdSHEENdTEHdTHEHdKHAHdTHAL",
  "1EE99aARABIC MATHEMATICAL LOOPED DADdZAHdGHAIN",
  "1EEA1aARABIC MATHEMATICAL DOUBLE-STRUCK BEHdJEEMdDAL",
  "1EEA5aARABIC MATHEMATICAL DOUBLE-STRUCK WAWdZAINdHAHdTAHdYEH",
  "1EEABaARABIC MATHEMATICAL DOUBLE-STRUCK LAMdMEEMdNOONdSEENdAINdFEHdSADdQAFdREHdSHEENdTEHdTHEH",
  "1EEB7aARABIC MATHEMATICAL DOUBLE-STRUCK KHAHdTHALdDADdZAHdGHAIN",
  "1EEF0aARABIC MATHEMATICAL OPERATOR MEEM WITH HAH WITH TATWEELdHAH WITH DAL",
  "1F000aMAHJONG TILE EAST WINDcSOUTH WINDcWEST WINDcNORTH WINDcRED DRAGONcGREEN DRAGON",
  "1F006aMAHJONG TILE WHITE DRAGONcONE OF CHARACTERScTWO OF CHARACTERScTHREE OF CHARACTERS",
  "1F00AaMAHJONG TILE FOUR OF CHARACTERScFIVE OF CHARACTERScSIX OF CHARACTERScSEVEN OF CHARACTERS",
  "1F00EaMAHJONG TILE EIGHT OF CHARACTERScNINE OF CHARACTERScONE OF BAMBOOScTWO OF BAMBOOS",
  "1F012aMAHJONG TILE THREE OF BAMBOOScFOUR OF BAMBOOScFIVE OF BAMBOOScSIX OF BAMBOOS",
  "1F016aMAHJONG TILE SEVEN OF BAMBOOScEIGHT OF BAMBOOScNINE OF BAMBOOScONE OF CIRCLES",
  "1F01AaMAHJONG TILE TWO OF CIRCLEScTHREE OF CIRCLEScFOUR OF CIRCLEScFIVE OF CIRCLES",
  "1F01EaMAHJONG TILE SIX OF CIRCLEScSEVEN OF CIRCLEScEIGHT OF CIRCLEScNINE OF CIRCLEScPLUMcORCHID",
  "1F024aMAHJONG TILE BAMBOOcCHRYSANTHEMUMcSPRINGcSUMMERcAUTUMNcWINTERcJOKERcBACK",
  "1F030aDOMINO TILE HORIZONTAL BACKcHORIZONTAL-00-00cHORIZONTAL-00-01cHORIZONTAL-00-02",
  "1F034aDOMINO TILE HORIZONTAL-00-03cHORIZONTAL-00-04cHORIZONTAL-00-05cHORIZONTAL-00-06",
  "1F038aDOMINO TILE HORIZONTAL-01-00cHORIZONTAL-01-01cHORIZONTAL-01-02cHORIZONTAL-01-03",
  "1F03CaDOMINO TILE HORIZONTAL-01-04cHORIZONTAL-01-05cHORIZONTAL-01-06cHORIZONTAL-02-00",
  "1F040aDOMINO TILE HORIZONTAL-02-01cHORIZONTAL-02-02cHORIZONTAL-02-03cHORIZONTAL-02-04",
  "1F044aDOMINO TILE HORIZONTAL-02-05cHORIZONTAL-02-06cHORIZONTAL-03-00cHORIZONTAL-03-01",
  "1F048aDOMINO TILE HORIZONTAL-03-02cHORIZONTAL-03-03cHORIZONTAL-03-04cHORIZONTAL-03-05",
  "1F04CaDOMINO TILE HORIZONTAL-03-06cHORIZONTAL-04-00cHORIZONTAL-04-01cHORIZONTAL-04-02",
  "1F050aDOMINO TILE HORIZONTAL-04-03cHORIZONTAL-04-04cHORIZONTAL-04-05cHORIZONTAL-04-06",
  "1F054aDOMINO TILE HORIZONTAL-05-00cHORIZONTAL-05-01cHORIZONTAL-05-02cHORIZONTAL-05-03",
  "1F058aDOMINO TILE HORIZONTAL-05-04cHORIZONTAL-05-05cHORIZONTAL-05-06cHORIZONTAL-06-00",
  "1F05CaDOMINO TILE HORIZONTAL-06-01cHORIZONTAL-06-02cHORIZONTAL-06-03cHORIZONTAL-06-04",
  "1F060aDOMINO TILE HORIZONTAL-06-05cHORIZONTAL-06-06cVERTICAL BACKcVERTICAL-00-00cVERTICAL-00-01",
  "1F065aDOMINO TILE VERTICAL-00-02cVERTICAL-00-03cVERTICAL-00-04cVERTICAL-00-05cVERTICAL-00-06",
  "1F06AaDOMINO TILE VERTICAL-01-00cVERTICAL-01-01cVERTICAL-01-02cVERTICAL-01-03cVERTICAL-01-04",
  "1F06FaDOMINO TILE VERTICAL-01-05cVERTICAL-01-06cVERTICAL-02-00cVERTICAL-02-01cVERTICAL-02-02",
  "1F074aDOMINO TILE VERTICAL-02-03cVERTICAL-02-04cVERTICAL-02-05cVERTICAL-02-06cVERTICAL-03-00",
  "1F079aDOMINO TILE VERTICAL-03-01cVERTICAL-03-02cVERTICAL-03-03cVERTICAL-03-04cVERTICAL-03-05",
  "1F07EaDOMINO TILE VERTICAL-03-06cVERTICAL-04-00cVERTICAL-04-01cVERTICAL-04-02cVERTICAL-04-03",
  "1F083aDOMINO TILE VERTICAL-04-04cVERTICAL-04-05cVERTICAL-04-06cVERTICAL-05-00cVERTICAL-05-01",
  "1F088aDOMINO TILE VERTICAL-05-02cVERTICAL-05-03cVERTICAL-05-04cVERTICAL-05-05cVERTICAL-05-06",
  "1F08DaDOMINO TILE VERTICAL-06-00cVERTICAL-06-01cVERTICAL-06-02cVERTICAL-06-03cVERTICAL-06-04",
  "1F092aDOMINO TILE VERTICAL-06-05cVERTICAL-06-06",
  "1F0A0aPLAYING CARD BACKcACE OF SPADEScTWO OF SPADEScTHREE OF SPADEScFOUR OF SPADES",
  "1F0A5aPLAYING CARD FIVE OF SPADEScSIX OF SPADEScSEVEN OF SPADEScEIGHT OF SPADEScNINE OF SPADES",
  "1F0AAaPLAYING CARD TEN OF SPADEScJACK OF SPADEScKNIGHT OF SPADEScQUEEN OF SPADEScKING OF SPADES",
  "1F0B1aPLAYING CARD ACE OF HEARTScTWO OF HEARTScTHREE OF HEARTScFOUR OF HEARTScFIVE OF HEARTS",
  "1F0B6aPLAYING CARD SIX OF HEARTScSEVEN OF HEARTScEIGHT OF HEARTScNINE OF HEARTScTEN OF HEARTS",
  "1F0BBaPLAYING CARD JACK OF HEARTScKNIGHT OF HEARTScQUEEN OF HEARTScKING OF HEARTScRED JOKER",
  "1F0C1aPLAYING CARD ACE OF DIAMONDScTWO OF DIAMONDScTHREE OF DIAMONDScFOUR OF DIAMONDS",
  "1F0C5aPLAYING CARD FIVE OF DIAMONDScSIX OF DIAMONDScSEVEN OF DIAMONDScEIGHT OF DIAMONDS",
  "1F0C9aPLAYING CARD NINE OF DIAMONDScTEN OF DIAMONDScJACK OF DIAMONDScKNIGHT OF DIAMONDS",
  "1F0CDaPLAYING CARD QUEEN OF DIAMONDScKING OF DIAMONDScBLACK JOKER",
  "1F0D1aPLAYING CARD ACE OF CLUBScTWO OF CLUBScTHREE OF CLUBScFOUR OF CLUBScFIVE OF CLUBS",
  "1F0D6aPLAYING CARD SIX OF CLUBScSEVEN OF CLUBScEIGHT OF CLUBScNINE OF CLUBScTEN OF CLUBS",
  "1F0DBaPLAYING CARD JACK OF CLUBScKNIGHT OF CLUBScQUEEN OF CLUBScKING OF CLUBScWHITE JOKERcFOOL",
  "1F0E1aPLAYING CARD TRUMP-1cTRUMP-2cTRUMP-3cTRUMP-4cTRUMP-5cTRUMP-6cTRUMP-7cTRUMP-8cTRUMP-9",
  "1F0EAaPLAYING CARD TRUMP-10cTRUMP-11cTRUMP-12cTRUMP-13cTRUMP-14cTRUMP-15cTRUMP-16cTRUMP-17",
  "1F0F2aPLAYING CARD TRUMP-18cTRUMP-19cTRUMP-20cTRUMP-21",
  "1F100aDIGIT ZERO FULL STOPcCOMMAbONE COMMAbTWO COMMAbTHREE COMMAbFOUR COMMAbFIVE COMMAbSIX COMMA",
  "1F108aDIGIT SEVEN COMMAbEIGHT COMMAbNINE COMMAaDINGBAT CIRCLED SANS-SERIF DIGIT ZERO",
  "1F10CaDINGBAT NEGATIVE CIRCLED SANS-SERIF DIGIT ZEROaCIRCLED ZERO WITH SLASHbANTICLOCKWISE ARROW",
  "1F10FaCIRCLED DOLLAR SIGN WITH OVERLAID BACKSLASHaPARENTHESIZED LATIN CAPITAL LETTER AeBeCeDeEeF",
  "1F116aPARENTHESIZED LATIN CAPITAL LETTER GeHeIeJeKeLeMeNeOePeQeReSeTeUeVeWeXeYeZ",
  "1F12AaTORTOISE SHELL BRACKETED LATIN CAPITAL LETTER SaCIRCLED ITALIC LATIN CAPITAL LETTER CfRbCD",
  "1F12EaCIRCLED WZaCOPYLEFT SYMBOLaSQUARED LATIN CAPITAL LETTER AeBeCeDeEeFeGeHeIeJeKeLeMeNeOePeQ",
  "1F141aSQUARED LATIN CAPITAL LETTER ReSeTeUeVeWeXeYeZbHVbMVbSDbSSbPPVbWC",
  "1F150aNEGATIVE CIRCLED LATIN CAPITAL LETTER AfBfCfDfEfFfGfHfIfJfKfLfMfNfOfPfQfRfSfTfUfVfWfXfYfZ",
  "1F16AaRAISED MC SIGNbMD SIGNbMR SIGNaCIRCLED CCbC WITH OVERLAID BACKSLASHbHUMAN FIGURE",
  "1F170aNEGATIVE SQUARED LATIN CAPITAL LETTER AfBfCfDfEfFfGfHfIfJfKfLfMfNfOfPfQfRfSfTfUfVfWfXfYfZ",
  "1F18AaCROSSED NEGATIVE SQUARED LATIN CAPITAL LETTER PaNEGATIVE SQUARED ICcPAcSAcABcWCaSQUARE DJ",
  "1F191aSQUARED CLbCOOLbFREEbIDbNEWbNGbOKbSOSbUP WITH EXCLAMATION MARKbVSbTHREE DbSECOND SCREEN",
  "1F19DaSQUARED TWO KbFOUR KbEIGHT KbFIVE POINT ONEbSEVEN POINT ONEbTWENTY-TWO POINT TWObSIXTY P",
  "1F1A4aSQUARED ONE HUNDRED TWENTY PbLATIN SMALL LETTER DbHCbHDRbHI-RESbLOSSLESSbSHVbUHDbVOD",
  "1F1ADaMASK WORK SYMBOL",
  "1F1E6aREGIONAL INDICATOR SYMBOL LETTER AeBeCeDeEeFeGeHeIeJeKeLeMeNeOePeQeReSeTeUeVeWeXeYeZ",
  "1F200aSQUARE HIRAGANA HOKAaSQUARED KATAKANA KOKOcSA",
  "1F210aSQUARED CJK UNIFIED IDEOGRAPH-624BdIDEOGRAPH-5B57dIDEOGRAPH-53CCbKATAKANA DE",
  "1F214aSQUARED CJK UNIFIED IDEOGRAPH-4E8CdIDEOGRAPH-591AdIDEOGRAPH-89E3dIDEOGRAPH-5929",
  "1F218aSQUARED CJK UNIFIED IDEOGRAPH-4EA4dIDEOGRAPH-6620dIDEOGRAPH-7121dIDEOGRAPH-6599",
  "1F21CaSQUARED CJK UNIFIED IDEOGRAPH-524DdIDEOGRAPH-5F8CdIDEOGRAPH-518DdIDEOGRAPH-65B0",
  "1F220aSQUARED CJK UNIFIED IDEOGRAPH-521DdIDEOGRAPH-7D42dIDEOGRAPH-751FdIDEOGRAPH-8CA9",
  "1F224aSQUARED CJK UNIFIED IDEOGRAPH-58F0dIDEOGRAPH-5439dIDEOGRAPH-6F14dIDEOGRAPH-6295",
  "1F228aSQUARED CJK UNIFIED IDEOGRAPH-6355dIDEOGRAPH-4E00dIDEOGRAPH-4E09dIDEOGRAPH-904A",
  "1F22CaSQUARED CJK UNIFIED IDEOGRAPH-5DE6dIDEOGRAPH-4E2DdIDEOGRAPH-53F3dIDEOGRAPH-6307",
  "1F230aSQUARED CJK UNIFIED IDEOGRAPH-8D70dIDEOGRAPH-6253dIDEOGRAPH-7981dIDEOGRAPH-7A7A",
  "1F234aSQUARED CJK UNIFIED IDEOGRAPH-5408dIDEOGRAPH-6E80dIDEOGRAPH-6709dIDEOGRAPH-6708",
  "1F238aSQUARED CJK UNIFIED IDEOGRAPH-7533dIDEOGRAPH-5272dIDEOGRAPH-55B6dIDEOGRAPH-914D",
  "1F240aTORTOISE SHELL BRACKETED CJK UNIFIED IDEOGRAPH-672CfIDEOGRAPH-4E09fIDEOGRAPH-4E8C",
  "1F243aTORTOISE SHELL BRACKETED CJK UNIFIED IDEOGRAPH-5B89fIDEOGRAPH-70B9fIDEOGRAPH-6253",
  "1F246aTORTOISE SHELL BRACKETED CJK UNIFIED IDEOGRAPH-76D7fIDEOGRAPH-52DDfIDEOGRAPH-6557",
  "1F250aCIRCLED IDEOGRAPH ADVANTAGEcACCEPT",
  "1F260aROUNDED SYMBOL FOR FUdLUdSHOUdXIdSHUANGXIdCAI",
  "1F300aCYCLONEaFOGGYaCLOSED UMBRELLAaNIGHT WITH STARSaSUNRISE OVER MOUNTAINS",
  "1F305aSUNRISEaCITYSCAPE AT DUSKaSUNSET OVER BUILDINGSaRAINBOWaBRIDGE AT NIGHTaWATER WAVEaVOLCANO",
  "1F30CaMILKY WAYaEARTH GLOBE EUROPE-AFRICAcAMERICAScASIA-AUSTRALIAaGLOBE WITH MERIDIANS",
  "1F311aNEW MOON SYMBOLaWAXING CRESCENT MOON SYMBOLaFIRST QUARTER MOON SYMBOL",
  "1F314aWAXING GIBBOUS MOON SYMBOLaFULL MOON SYMBOLaWANING GIBBOUS MOON SYMBOL",
  "1F317aLAST QUARTER MOON SYMBOLaWANING CRESCENT MOON SYMBOLaCRESCENT MOONaNEW MOON WITH FACE",
  "1F31BaFIRST QUARTER MOON WITH FACEaLAST QUARTER MOON WITH FACEaFULL MOON WITH FACEaSUN WITH FACE",
  "1F31FaGLOWING STARaSHOOTING STARaTHERMOMETERaBLACK DROPLETaWHITE SUNcWITH SMALL CLOUD",
  "1F325aWHITE SUN BEHIND CLOUDeWITH RAINaCLOUD WITH RAINcSNOWcLIGHTNINGcTORNADOaFOG",
  "1F32CaWIND BLOWING FACEaHOT DOGaTACOaBURRITOaCHESTNUTaSEEDLINGaEVERGREEN TREEaDECIDUOUS TREE",
  "1F334aPALM TREEaCACTUSaHOT PEPPERaTULIPaCHERRY BLOSSOMaROSEaHIBISCUSaSUNFLOWERaBLOSSOM",
  "1F33DaEAR OF MAIZEcRICEaHERBaFOUR LEAF CLOVERaMAPLE LEAFaFALLEN LEAFaLEAF FLUTTERING IN WIND",
  "1F344aMUSHROOMaTOMATOaAUBERGINEaGRAPESaMELONaWATERMELONaTANGERINEaLEMONaBANANAaPINEAPPLE",
  "1F34EaRED APPLEaGREEN APPLEaPEARaPEACHaCHERRIESaSTRAWBERRYaHAMBURGERaSLICE OF PIZZAaMEAT ON BONE",
  "1F357aPOULTRY LEGaRICE CRACKERbBALLaCOOKED RICEaCURRY AND RICEaSTEAMING BOWLaSPAGHETTIaBREAD",
  "1F35FaFRENCH FRIESaROASTED SWEET POTATOaDANGOaODENaSUSHIaFRIED SHRIMP",
  "1F365aFISH CAKE WITH SWIRL DESIGNaSOFT ICE CREAMaSHAVED ICEaICE CREAMaDOUGHNUTaCOOKIE",
  "1F36BaCHOCOLATE BARaCANDYaLOLLIPOPaCUSTARDaHONEY POTaSHORTCAKEaBENTO BOXaPOT OF FOODaCOOKING",
  "1F374aFORK AND KNIFEaTEACUP WITHOUT HANDLEaSAKE BOTTLE AND CUPaWINE GLASSaCOCKTAIL GLASS",
  "1F379aTROPICAL DRINKaBEER MUGaCLINKING BEER MUGSaBABY BOTTLEaFORK AND KNIFE WITH PLATE",
  "1F37EaBOTTLE WITH POPPING CORKaPOPCORNaRIBBONaWRAPPED PRESENTaBIRTHDAY CAKEaJACK-O-LANTERN",
  "1F384aCHRISTMAS TREEaFATHER CHRISTMASaFIREWORKSaFIREWORK SPARKLERaBALLOONaPARTY POPPER",
  "1F38AaCONFETTI BALLaTANABATA TREEaCROSSED FLAGSaPINE DECORATIONaJAPANESE DOLLSaCARP STREAMER",
  "1F390aWIND CHIMEaMOON VIEWING CEREMONYaSCHOOL SATCHELaGRADUATION CAPaHEART WITH TIP ON THE LEFT",
  "1F395aBOUQUET OF FLOWERSaMILITARY MEDALaREMINDER RIBBONaMUSICAL KEYBOARD WITH JACKS",
  "1F399aSTUDIO MICROPHONEaLEVEL SLIDERaCONTROL KNOBSaBEAMED ASCENDING MUSICAL NOTES",
  "1F39DaBEAMED DESCENDING MUSICAL NOTESaFILM FRAMESaADMISSION TICKETSaCAROUSEL HORSEaFERRIS WHEEL"]

/-- More rows of names. -/
def nameRowsM : List String := [
  "1F3A2aROLLER COASTERaFISHING POLE AND FISHaMICROPHONEaMOVIE CAMERAaCINEMAaHEADPHONE",
  "1F3A8aARTIST PALETTEaTOP HATaCIRCUS TENTaTICKETaCLAPPER BOARDaPERFORMING ARTSaVIDEO GAME",
  "1F3AFaDIRECT HITaSLOT MACHINEaBILLIARDSaGAME DIEaBOWLINGaFLOWER PLAYING CARDSaMUSICAL NOTE",
  "1F3B6aMULTIPLE MUSICAL NOTESaSAXOPHONEaGUITARaMUSICAL KEYBOARDaTRUMPETaVIOLINaMUSICAL SCORE",
  "1F3BDaRUNNING SHIRT WITH SASHaTENNIS RACQUET AND BALLaSKI AND SKI BOOTaBASKETBALL AND HOOP",
  "1F3C1aCHEQUERED FLAGaSNOWBOARDERaRUNNERaSURFERaSPORTS MEDALaTROPHYaHORSE RACING",
  "1F3C8aAMERICAN FOOTBALLaRUGBY FOOTBALLaSWIMMERaWEIGHT LIFTERaGOLFERaRACING MOTORCYCLEbCAR",
  "1F3CFaCRICKET BAT AND BALLaVOLLEYBALLaFIELD HOCKEY STICK AND BALLaICE HOCKEY STICK AND PUCK",
  "1F3D3aTABLE TENNIS PADDLE AND BALLaSNOW CAPPED MOUNTAINaCAMPINGaBEACH WITH UMBRELLA",
  "1F3D7aBUILDING CONSTRUCTIONaHOUSE BUILDINGSaCITYSCAPEaDERELICT HOUSE BUILDINGaCLASSICAL BUILDING",
  "1F3DCaDESERTbISLANDaNATIONAL PARKaSTADIUMaHOUSE BUILDINGbWITH GARDENaOFFICE BUILDING",
  "1F3E3aJAPANESE POST OFFICEaEUROPEAN POST OFFICEaHOSPITALaBANKaAUTOMATED TELLER MACHINEaHOTEL",
  "1F3E9aLOVE HOTELaCONVENIENCE STOREaSCHOOLaDEPARTMENT STOREaFACTORYaIZAKAYA LANTERN",
  "1F3EFaJAPANESE CASTLEaEUROPEAN CASTLEaWHITE PENNANTaBLACK PENNANTaWAVING WHITE FLAGbBLACK FLAG",
  "1F3F5aROSETTEaBLACK ROSETTEaLABELaBADMINTON RACQUET AND SHUTTLECOCKaBOW AND ARROWaAMPHORA",
  "1F3FBaEMOJI MODIFIER FITZPATRICK TYPE-1-2dTYPE-3dTYPE-4dTYPE-5dTYPE-6aRATaMOUSEaOXaWATER BUFFALO",
  "1F404aCOWaTIGERaLEOPARDaRABBITaCATaDRAGONaCROCODILEaWHALEaSNAILaSNAKEaHORSEaRAMaGOATaSHEEP",
  "1F412aMONKEYaROOSTERaCHICKENaDOGaPIGaBOARaELEPHANTaOCTOPUSaSPIRAL SHELLaBUGaANTaHONEYBEE",
  "1F41EaLADY BEETLEaFISHaTROPICAL FISHaBLOWFISHaTURTLEaHATCHING CHICKaBABY CHICK",
  "1F425aFRONT-FACING BABY CHICKaBIRDaPENGUINaKOALAaPOODLEaDROMEDARY CAMELaBACTRIAN CAMELaDOLPHIN",
  "1F42DaMOUSE FACEaCOW FACEaTIGER FACEaRABBIT FACEaCAT FACEaDRAGON FACEaSPOUTING WHALEaHORSE FACE",
  "1F435aMONKEY FACEaDOG FACEaPIG FACEaFROG FACEaHAMSTER FACEaWOLF FACEaBEAR FACEaPANDA FACE",
  "1F43DaPIG NOSEaPAW PRINTSaCHIPMUNKaEYESaEYEaEARaNOSEaMOUTHaTONGUE",
  "1F446aWHITE UP POINTING BACKHAND INDEXbDOWN POINTING BACKHAND INDEXbLEFT POINTING BACKHAND INDEX",
  "1F449aWHITE RIGHT POINTING BACKHAND INDEXaFISTED HAND SIGNaWAVING HAND SIGNaOK HAND SIGN",
  "1F44DaTHUMBS UP SIGNbDOWN SIGNaCLAPPING HANDS SIGNaOPEN HANDS SIGNaCROWNaWOMANS HATaEYEGLASSES",
  "1F454aNECKTIEaT-SHIRTaJEANSaDRESSaKIMONOaBIKINIaWOMANS CLOTHESaPURSEaHANDBAGaPOUCHaMANS SHOE",
  "1F45FaATHLETIC SHOEaHIGH-HEELED SHOEaWOMANS SANDALbBOOTSaFOOTPRINTSaBUST IN SILHOUETTE",
  "1F465aBUSTS IN SILHOUETTEaBOYaGIRLaMANaWOMANaFAMILYaMAN AND WOMAN HOLDING HANDS",
  "1F46CaTWO MEN HOLDING HANDSbWOMEN HOLDING HANDSaPOLICE OFFICERaWOMAN WITH BUNNY EARS",
  "1F470aBRIDE WITH VEILaPERSON WITH BLOND HAIRaMAN WITH GUA PI MAOcTURBANaOLDER MANbWOMANaBABY",
  "1F477aCONSTRUCTION WORKERaPRINCESSaJAPANESE OGREbGOBLINaGHOSTaBABY ANGELaEXTRATERRESTRIAL ALIEN",
  "1F47EaALIEN MONSTERaIMPaSKULLaINFORMATION DESK PERSONaGUARDSMANaDANCERaLIPSTICKaNAIL POLISH",
  "1F486aFACE MASSAGEaHAIRCUTaBARBER POLEaSYRINGEaPILLaKISS MARKaLOVE LETTERaRINGaGEM STONEaKISS",
  "1F490aBOUQUETaCOUPLE WITH HEARTaWEDDINGaBEATING HEARTaBROKEN HEARTaTWO HEARTSaSPARKLING HEART",
  "1F497aGROWING HEARTaHEART WITH ARROWaBLUE HEARTaGREEN HEARTaYELLOW HEARTaPURPLE HEART",
  "1F49DaHEART WITH RIBBONaREVOLVING HEARTSaHEART DECORATIONaDIAMOND SHAPE WITH A DOT INSIDE",
  "1F4A1aELECTRIC LIGHT BULBaANGER SYMBOLaBOMBaSLEEPING SYMBOLaCOLLISION SYMBOL",
  "1F4A6aSPLASHING SWEAT SYMBOLaDROPLETaDASH SYMBOLaPILE OF POOaFLEXED BICEPSaDIZZY SYMBOL",
  "1F4ACaSPEECH BALLOONaTHOUGHT BALLOONaWHITE FLOWERaHUNDRED POINTS SYMBOLaMONEY BAG",
  "1F4B1aCURRENCY EXCHANGEaHEAVY DOLLAR SIGNaCREDIT CARDaBANKNOTE WITH YEN SIGNcDOLLAR SIGN",
  "1F4B6aBANKNOTE WITH EURO SIGNcPOUND SIGNaMONEY WITH WINGSaCHART WITH UPWARDS TREND AND YEN SIGN",
  "1F4BAaSEATaPERSONAL COMPUTERaBRIEFCASEaMINIDISCaFLOPPY DISKaOPTICAL DISCaDVDaFILE FOLDER",
  "1F4C2aOPEN FILE FOLDERaPAGE WITH CURLbFACING UPaCALENDARaTEAR-OFF CALENDARaCARD INDEX",
  "1F4C8aCHART WITH UPWARDS TRENDcDOWNWARDS TRENDaBAR CHARTaCLIPBOARDaPUSHPINaROUND PUSHPIN",
  "1F4CEaPAPERCLIPaSTRAIGHT RULERaTRIANGULAR RULERaBOOKMARK TABSaLEDGERaNOTEBOOK",
  "1F4D4aNOTEBOOK WITH DECORATIVE COVERaCLOSED BOOKaOPEN BOOKaGREEN BOOKaBLUE BOOKaORANGE BOOK",
  "1F4DAaBOOKSaNAME BADGEaSCROLLaMEMOaTELEPHONE RECEIVERaPAGERaFAX MACHINEaSATELLITE ANTENNA",
  "1F4E2aPUBLIC ADDRESS LOUDSPEAKERaCHEERING MEGAPHONEaOUTBOX TRAYaINBOX TRAYaPACKAGEaE-MAIL SYMBOL",
  "1F4E8aINCOMING ENVELOPEaENVELOPE WITH DOWNWARDS ARROW ABOVEaCLOSED MAILBOX WITH LOWERED FLAG",
  "1F4EBaCLOSED MAILBOX WITH RAISED FLAGaOPEN MAILBOX WITH RAISED FLAGdLOWERED FLAGaPOSTBOX",
  "1F4EFaPOSTAL HORNaNEWSPAPERaMOBILE PHONEcWITH RIGHTWARDS ARROW AT LEFTaVIBRATION MODE",
  "1F4F4aMOBILE PHONE OFFaNO MOBILE PHONESaANTENNA WITH BARSaCAMERAbWITH FLASHaVIDEO CAMERA",
  "1F4FAaTELEVISIONaRADIOaVIDEOCASSETTEaFILM PROJECTORaPORTABLE STEREOaPRAYER BEADS",
  "1F500aTWISTED RIGHTWARDS ARROWSaCLOCKWISE RIGHTWARDS AND LEFTWARDS OPEN CIRCLE ARROWS",
  "1F502aCLOCKWISE RIGHTWARDS AND LEFTWARDS OPEN CIRCLE ARROWS WITH CIRCLED ONE OVERLAY",
  "1F503aCLOCKWISE DOWNWARDS AND UPWARDS OPEN CIRCLE ARROWS",
  "1F504aANTICLOCKWISE DOWNWARDS AND UPWARDS OPEN CIRCLE ARROWSaLOW BRIGHTNESS SYMBOL",
  "1F506aHIGH BRIGHTNESS SYMBOLaSPEAKER WITH CANCELLATION STROKE",
  "1F508aSPEAKERbWITH ONE SOUND WAVEcTHREE SOUND WAVESaBATTERYaELECTRIC PLUG",
  "1F50DaLEFT-POINTING MAGNIFYING GLASSaRIGHT-POINTING MAGNIFYING GLASSaLOCK WITH INK PEN",
  "1F510aCLOSED LOCK WITH KEYaKEYaLOCKaOPEN LOCKaBELLbWITH CANCELLATION STROKEaBOOKMARKaLINK SYMBOL",
  "1F518aRADIO BUTTONaBACK WITH LEFTWARDS ARROW ABOVEaEND WITH LEFTWARDS ARROW ABOVE",
  "1F51BaON WITH EXCLAMATION MARK WITH LEFT RIGHT ARROW ABOVEaSOON WITH RIGHTWARDS ARROW ABOVE",
  "1F51DaTOP WITH UPWARDS ARROW ABOVEaNO ONE UNDER EIGHTEEN SYMBOLaKEYCAP TEN",
  "1F520aINPUT SYMBOL FOR LATIN CAPITAL LETTERSeSMALL LETTERSdNUMBERSdSYMBOLSdLATIN LETTERSaFIRE",
  "1F526aELECTRIC TORCHaWRENCHaHAMMERaNUT AND BOLTaHOCHOaPISTOLaMICROSCOPEaTELESCOPEaCRYSTAL BALL",
  "1F52FaSIX POINTED STAR WITH MIDDLE DOTaJAPANESE SYMBOL FOR BEGINNERaTRIDENT EMBLEM",
  "1F532aBLACK SQUARE BUTTONaWHITE SQUARE BUTTONaLARGE RED CIRCLEbBLUE CIRCLEbORANGE DIAMOND",
  "1F537aLARGE BLUE DIAMONDaSMALL ORANGE DIAMONDbBLUE DIAMONDaUP-POINTING RED TRIANGLE",
  "1F53BaDOWN-POINTING RED TRIANGLEaUP-POINTING SMALL RED TRIANGLEaDOWN-POINTING SMALL RED TRIANGLE",
  "1F53EaLOWER RIGHT SHADOWED WHITE CIRCLEaUPPER RIGHT SHADOWED WHITE CIRCLEaCIRCLED CROSS POMMEE",
  "1F541aCROSS POMMEE WITH HALF-CIRCLE BELOW",
  "1F542aCROSS POMMEEaNOTCHED LEFT SEMICIRCLE WITH THREE DOTSbRIGHT SEMICIRCLE WITH THREE DOTS",
  "1F545aSYMBOL FOR MARKS CHAPTERaWHITE LATIN CROSSaHEAVY LATIN CROSSaCELTIC CROSSaOM SYMBOL",
  "1F54AaDOVE OF PEACEaKAABAaMOSQUEaSYNAGOGUEaMENORAH WITH NINE BRANCHESaBOWL OF HYGIEIA",
  "1F550aCLOCK FACE ONE OCLOCKcTWO OCLOCKcTHREE OCLOCKcFOUR OCLOCKcFIVE OCLOCKcSIX OCLOCK",
  "1F556aCLOCK FACE SEVEN OCLOCKcEIGHT OCLOCKcNINE OCLOCKcTEN OCLOCKcELEVEN OCLOCKcTWELVE OCLOCK",
  "1F55CaCLOCK FACE ONE-THIRTYcTWO-THIRTYcTHREE-THIRTYcFOUR-THIRTYcFIVE-THIRTYcSIX-THIRTY",
  "1F562aCLOCK FACE SEVEN-THIRTYcEIGHT-THIRTYcNINE-THIRTYcTEN-THIRTYcELEVEN-THIRTYcTWELVE-THIRTY",
  "1F568aRIGHT SPEAKERcWITH ONE SOUND WAVEdTHREE SOUND WAVESaBULLHORNbWITH SOUND WAVESaRINGING BELL",
  "1F56EaBOOKaCANDLEaMANTELPIECE CLOCKaBLACK SKULL AND CROSSBONESaNO PIRACYaHOLE",
  "1F574aMAN IN BUSINESS SUIT LEVITATINGaSLEUTH OR SPYaDARK SUNGLASSESaSPIDERbWEBaJOYSTICK",
  "1F57AaMAN DANCINGaLEFT HAND TELEPHONE RECEIVERaTELEPHONE RECEIVER WITH PAGE",
  "1F57DaRIGHT HAND TELEPHONE RECEIVERaWHITE TOUCHTONE TELEPHONEaBLACK TOUCHTONE TELEPHONE",
  "1F580aTELEPHONE ON TOP OF MODEMaCLAMSHELL MOBILE PHONEaBACK OF ENVELOPEaSTAMPED ENVELOPE",
  "1F584aENVELOPE WITH LIGHTNINGaFLYING ENVELOPEaPEN OVER STAMPED ENVELOPEaLINKED PAPERCLIPS",
  "1F588aBLACK PUSHPINaLOWER LEFT PENCILcBALLPOINT PENcFOUNTAIN PENcPAINTBRUSHcCRAYON",
  "1F58EaLEFT WRITING HANDaTURNED OK HAND SIGNaRAISED HAND WITH FINGERS SPLAYED",
  "1F591aREVERSED RAISED HAND WITH FINGERS SPLAYEDbTHUMBS UP SIGNcDOWN SIGNbVICTORY HAND",
  "1F595aREVERSED HAND WITH MIDDLE FINGER EXTENDED",
  "1F596aRAISED HAND WITH PART BETWEEN MIDDLE AND RING FINGERSaWHITE DOWN POINTING LEFT HAND INDEX",
  "1F598aSIDEWAYS WHITE LEFT POINTING INDEXcRIGHT POINTING INDEXbBLACK LEFT POINTING INDEX",
  "1F59BaSIDEWAYS BLACK RIGHT POINTING INDEXaBLACK LEFT POINTING BACKHAND INDEX",
  "1F59DaBLACK RIGHT POINTING BACKHAND INDEXaSIDEWAYS WHITE UP POINTING INDEXcDOWN POINTING INDEX",
  "1F5A0aSIDEWAYS BLACK UP POINTING INDEXcDOWN POINTING INDEXaBLACK UP POINTING BACKHAND INDEX",
  "1F5A3aBLACK DOWN POINTING BACKHAND INDEXbHEARTaDESKTOP COMPUTERaKEYBOARD AND MOUSE",
  "1F5A7aTHREE NETWORKED COMPUTERSaPRINTERaPOCKET CALCULATORaBLACK HARD SHELL FLOPPY DISK",
  "1F5ABaWHITE HARD SHELL FLOPPY DISKaSOFT SHELL FLOPPY DISKaTAPE CARTRIDGEaWIRED KEYBOARD",
  "1F5AFaONE BUTTON MOUSEaTWO BUTTON MOUSEaTHREE BUTTON MOUSEaTRACKBALLaOLD PERSONAL COMPUTER",
  "1F5B4aHARD DISKaSCREENaPRINTER ICONaFAX ICONaOPTICAL DISC ICONaDOCUMENT WITH TEXTdAND PICTURE",
  "1F5BBaDOCUMENT WITH PICTUREaFRAME WITH PICTUREcTILEScAN XaBLACK FOLDERaFOLDERaOPEN FOLDER",
  "1F5C2aCARD INDEX DIVIDERSbFILE BOXaFILE CABINETaEMPTY NOTEcPAGEcPADaNOTEbPAGEbPADaEMPTY DOCUMENT",
  "1F5CCaEMPTY PAGEbPAGESaDOCUMENTaPAGEaPAGESaWASTEBASKETaSPIRAL NOTE PADbCALENDAR PAD",
  "1F5D4aDESKTOP WINDOWaMINIMIZEaMAXIMIZEaOVERLAPaCLOCKWISE RIGHT AND LEFT SEMICIRCLE ARROWS",
  "1F5D9aCANCELLATION XaINCREASE FONT SIZE SYMBOLaDECREASE FONT SIZE SYMBOLaCOMPRESSIONaOLD KEY",
  "1F5DEaROLLED-UP NEWSPAPERaPAGE WITH CIRCLED TEXTaSTOCK CHARTaDAGGER KNIFEaLIPS",
  "1F5E3aSPEAKING HEAD IN SILHOUETTEaTHREE RAYS ABOVEcBELOWcLEFTcRIGHTaLEFT SPEECH BUBBLE",
  "1F5E9aRIGHT SPEECH BUBBLEaTWO SPEECH BUBBLESaTHREE SPEECH BUBBLESaLEFT THOUGHT BUBBLE",
  "1F5EDaRIGHT THOUGHT BUBBLEaLEFT ANGER BUBBLEaRIGHT ANGER BUBBLEaMOOD BUBBLE",
  "1F5F1aLIGHTNING MOOD BUBBLE",
  "1F5F2aLIGHTNING MOODaBALLOT BOX WITH BALLOTbSCRIPT XbBOX WITH SCRIPT XbBOLD SCRIPT X",
  "1F5F7aBALLOT BOX WITH BOLD SCRIPT XaLIGHT CHECK MARKaBALLOT BOX WITH BOLD CHECKaWORLD MAP",
  "1F5FBaMOUNT FUJIaTOKYO TOWERaSTATUE OF LIBERTYaSILHOUETTE OF JAPANaMOYAIaGRINNING FACE",
  "1F601aGRINNING FACE WITH SMILING EYESaFACE WITH TEARS OF JOYaSMILING FACE WITH OPEN MOUTH",
  "1F604aSMILING FACE WITH OPEN MOUTH AND SMILING EYESgCOLD SWEATgTIGHTLY-CLOSED EYESdHALOdHORNS",
  "1F609aWINKING FACEaSMILING FACE WITH SMILING EYESaFACE SAVOURING DELICIOUS FOODaRELIEVED FACE",
  "1F60DaSMILING FACE WITH HEART-SHAPED EYESdSUNGLASSESaSMIRKING FACEaNEUTRAL FACE",
  "1F611aEXPRESSIONLESS FACEaUNAMUSED FACEaFACE WITH COLD SWEATaPENSIVE FACEaCONFUSED FACE",
  "1F616aCONFOUNDED FACEaKISSING FACEaFACE THROWING A KISSaKISSING FACE WITH SMILING EYES",
  "1F61AaKISSING FACE WITH CLOSED EYESaFACE WITH STUCK-OUT TONGUEeAND WINKING EYE",
  "1F61DaFACE WITH STUCK-OUT TONGUE AND TIGHTLY-CLOSED EYESaDISAPPOINTED FACEaWORRIED FACE",
  "1F620aANGRY FACEaPOUTING FACEaCRYING FACEaPERSEVERING FACEaFACE WITH LOOK OF TRIUMPH",
  "1F625aDISAPPOINTED BUT RELIEVED FACEaFROWNING FACE WITH OPEN MOUTHaANGUISHED FACEaFEARFUL FACE",
  "1F629aWEARY FACEaSLEEPY FACEaTIRED FACEaGRIMACING FACEaLOUDLY CRYING FACEaFACE WITH OPEN MOUTH",
  "1F62FaHUSHED FACEaFACE WITH OPEN MOUTH AND COLD SWEATbSCREAMING IN FEARaASTONISHED FACE",
  "1F633aFLUSHED FACEaSLEEPING FACEaDIZZY FACEaFACE WITHOUT MOUTHbWITH MEDICAL MASK",
  "1F638aGRINNING CAT FACE WITH SMILING EYESaCAT FACE WITH TEARS OF JOY",
  "1F63AaSMILING CAT FACE WITH OPEN MOUTHeHEART-SHAPED EYESaCAT FACE WITH WRY SMILE",
  "1F63DaKISSING CAT FACE WITH CLOSED EYESaPOUTING CAT FACEaCRYING CAT FACEaWEARY CAT FACE",
  "1F641aSLIGHTLY FROWNING FACEbSMILING FACEaUPSIDE-DOWN FACEaFACE WITH ROLLING EYES",
  "1F645aFACE WITH NO GOOD GESTUREcOK GESTUREaPERSON BOWING DEEPLYaSEE-NO-EVIL MONKEY",
  "1F649aHEAR-NO-EVIL MONKEYaSPEAK-NO-EVIL MONKEYaHAPPY PERSON RAISING ONE HAND",
  "1F64CaPERSON RAISING BOTH HANDS IN CELEBRATIONbFROWNINGbWITH POUTING FACEcFOLDED HANDS",
  "1F650aNORTH WEST POINTING LEAFaSOUTH WEST POINTING LEAFaNORTH EAST POINTING LEAF",
  "1F653aSOUTH EAST POINTING LEAFaTURNED NORTH WEST POINTING LEAFbSOUTH WEST POINTING LEAF",
  "1F656aTURNED NORTH EAST POINTING LEAFbSOUTH EAST POINTING LEAFaNORTH WEST POINTING VINE LEAF",
  "1F659aSOUTH WEST POINTING VINE LEAFaNORTH EAST POINTING VINE LEAFaSOUTH EAST POINTING VINE LEAF",
  "1F65CaHEAVY NORTH WEST POINTING VINE LEAFbSOUTH WEST POINTING VINE LEAF",
  "1F65EaHEAVY NORTH EAST POINTING VINE LEAFbSOUTH EAST POINTING VINE LEAFaNORTH WEST POINTING BUD",
  "1F661aSOUTH WEST POINTING BUDaNORTH EAST POINTING BUDaSOUTH EAST POINTING BUD",
  "1F664aHEAVY NORTH WEST POINTING BUDbSOUTH WEST POINTING BUDbNORTH EAST POINTING BUD",
  "1F667aHEAVY SOUTH EAST POINTING BUDaHOLLOW QUILT SQUARE ORNAMENTeIN BLACK SQUARE",
  "1F66AaSOLID QUILT SQUARE ORNAMENTeIN BLACK SQUAREaLEFTWARDS ROCKETaUPWARDS ROCKET",
  "1F66EaRIGHTWARDS ROCKETaDOWNWARDS ROCKETaSCRIPT LIGATURE ET ORNAMENT",
  "1F671aHEAVY SCRIPT LIGATURE ET ORNAMENTaLIGATURE OPEN ET ORNAMENT",
  "1F673aHEAVY LIGATURE OPEN ET ORNAMENTbAMPERSAND ORNAMENTaSWASH AMPERSAND ORNAMENT",
  "1F676aSANS-SERIF HEAVY DOUBLE TURNED COMMA QUOTATION MARK ORNAMENTdCOMMA QUOTATION MARK ORNAMENT",
  "1F678aSANS-SERIF HEAVY LOW DOUBLE COMMA QUOTATION MARK ORNAMENTaHEAVY INTERROBANG ORNAMENT",
  "1F67AaSANS-SERIF INTERROBANG ORNAMENTaHEAVY SANS-SERIF INTERROBANG ORNAMENTaVERY HEAVY SOLIDUS",
  "1F67DaVERY HEAVY REVERSE SOLIDUSaCHECKER BOARDaREVERSE CHECKER BOARDaROCKETaHELICOPTER",
  "1F682aSTEAM LOCOMOTIVEaRAILWAY CARaHIGH-SPEED TRAINcWITH BULLET NOSEaTRAINaMETROaLIGHT RAIL",
  "1F689aSTATIONaTRAMbCARaBUSaONCOMING BUSaTROLLEYBUSaBUS STOPaMINIBUSaAMBULANCEaFIRE ENGINE",
  "1F693aPOLICE CARaONCOMING POLICE CARaTAXIaONCOMING TAXIaAUTOMOBILEaONCOMING AUTOMOBILE",
  "1F699aRECREATIONAL VEHICLEaDELIVERY TRUCKaARTICULATED LORRYaTRACTORaMONORAILaMOUNTAIN RAILWAY",
  "1F69FaSUSPENSION RAILWAYaMOUNTAIN CABLEWAYaAERIAL TRAMWAYaSHIPaROWBOATaSPEEDBOAT",
  "1F6A5aHORIZONTAL TRAFFIC LIGHTaVERTICAL TRAFFIC LIGHTaCONSTRUCTION SIGN",
  "1F6A8aPOLICE CARS REVOLVING LIGHTaTRIANGULAR FLAG ON POSTaDOORaNO ENTRY SIGNaSMOKING SYMBOL",
  "1F6ADaNO SMOKING SYMBOLaPUT LITTER IN ITS PLACE SYMBOLaDO NOT LITTER SYMBOLaPOTABLE WATER SYMBOL",
  "1F6B1aNON-POTABLE WATER SYMBOLaBICYCLEaNO BICYCLESaBICYCLISTaMOUNTAIN BICYCLISTaPEDESTRIAN",
  "1F6B7aNO PEDESTRIANSaCHILDREN CROSSINGaMENS SYMBOLaWOMENS SYMBOLaRESTROOMaBABY SYMBOLaTOILET",
  "1F6BEaWATER CLOSETaSHOWERaBATHaBATHTUBaPASSPORT CONTROLaCUSTOMSaBAGGAGE CLAIMaLEFT LUGGAGE",
  "1F6C6aTRIANGLE WITH ROUNDED CORNERSaPROHIBITED SIGNaCIRCLED INFORMATION SOURCEaBOYS SYMBOL",
  "1F6CAaGIRLS SYMBOLaCOUCH AND LAMPaSLEEPING ACCOMMODATIONaSHOPPING BAGSaBELLHOP BELLaBED",
  "1F6D0aPLACE OF WORSHIPaOCTAGONAL SIGNaSHOPPING TROLLEYaSTUPAaPAGODAaHINDU TEMPLEaHUTaELEVATOR",
  "1F6DDaPLAYGROUND SLIDEaWHEELaRING BUOYaHAMMER AND WRENCHaSHIELDaOIL DRUMaMOTORWAYaRAILWAY TRACK",
  "1F6E5aMOTOR BOATaUP-POINTING MILITARY AIRPLANEbAIRPLANEbSMALL AIRPLANEaSMALL AIRPLANE",
  "1F6EAaNORTHEAST-POINTING AIRPLANEaAIRPLANE DEPARTUREbARRIVING",
  "1F6F0aSATELLITEaONCOMING FIRE ENGINEaDIESEL LOCOMOTIVEaPASSENGER SHIPaSCOOTERaMOTOR SCOOTER",
  "1F6F6aCANOEaSLEDaFLYING SAUCERaSKATEBOARDaAUTO RICKSHAWaPICKUP TRUCKaROLLER SKATE",
  "1F700aALCHEMICAL SYMBOL FOR QUINTESSENCEdAIRdFIREdEARTHdWATERdAQUAFORTISdAQUA REGIAeREGIA-2",
  "1F708aALCHEMICAL SYMBOL FOR AQUA VITAEeVITAE-2dVINEGARdVINEGAR-2dVINEGAR-3dSULFUR",
  "1F70EaALCHEMICAL SYMBOL FOR PHILOSOPHERS SULFURdBLACK SULFURdMERCURY SUBLIMATEeSUBLIMATE-2",
  "1F712aALCHEMICAL SYMBOL FOR MERCURY SUBLIMATE-3dCINNABARdSALTdNITREdVITRIOLdVITRIOL-2dROCK SALT",
  "1F719aALCHEMICAL SYMBOL FOR ROCK SALT-2dGOLDdSILVERdIRON OREeORE-2dCROCUS OF IRON",
  "1F71FaALCHEMICAL SYMBOL FOR REGULUS OF IRONdCOPPER OREdIRON-COPPER OREdSUBLIMATE OF COPPER",
  "1F723aALCHEMICAL SYMBOL FOR CROCUS OF COPPERfCOPPER-2dCOPPER ANTIMONIATE",
  "1F726aALCHEMICAL SYMBOL FOR SALT OF COPPER ANTIMONIATEdSUBLIMATE OF SALT OF COPPERdVERDIGRIS",
  "1F729aALCHEMICAL SYMBOL FOR TIN OREdLEAD OREdANTIMONY OREdSUBLIMATE OF ANTIMONYdSALT OF ANTIMONY",
  "1F72EaALCHEMICAL SYMBOL FOR SUBLIMATE OF SALT OF ANTIMONYdVINEGAR OF ANTIMONY",
  "1F730aALCHEMICAL SYMBOL FOR REGULUS OF ANTIMONYfANTIMONY-2",
  "1F732aALCHEMICAL SYMBOL FOR REGULUSdREGULUS-2dREGULUS-3dREGULUS-4dALKALIdALKALI-2dMARCASITE",
  "1F739aALCHEMICAL SYMBOL FOR SAL-AMMONIACdARSENICdREALGARdREALGAR-2dAURIPIGMENTdBISMUTH ORE",
  "1F73FaALCHEMICAL SYMBOL FOR TARTARdTARTAR-2dQUICK LIMEdBORAXdBORAX-2dBORAX-3dALUMdOILdSPIRIT",
  "1F748aALCHEMICAL SYMBOL FOR TINCTUREdGUMdWAXdPOWDERdCALXdTUTTYdCAPUT MORTUUMdSCEPTER OF JOVE",
  "1F750aALCHEMICAL SYMBOL FOR CADUCEUSdTRIDENTdSTARRED TRIDENTdLODESTONEdSOAPdURINEdHORSE DUNG",
  "1F757aALCHEMICAL SYMBOL FOR ASHESdPOT ASHESdBRICKdPOWDERED BRICKdAMALGAMdSTRATUM SUPER STRATUM",
  "1F75DaALCHEMICAL SYMBOL FOR STRATUM SUPER STRATUM-2dSUBLIMATIONdPRECIPITATEdDISTILLdDISSOLVE",
  "1F762aALCHEMICAL SYMBOL FOR DISSOLVE-2dPURIFYdPUTREFACTIONdCRUCIBLEdCRUCIBLE-2dCRUCIBLE-3",
  "1F768aALCHEMICAL SYMBOL FOR CRUCIBLE-4dCRUCIBLE-5dALEMBICdBATH OF MARYfVAPOURSdRETORTdHOURdNIGHT",
  "1F770aALCHEMICAL SYMBOL FOR DAY-NIGHTdMONTHdHALF DRAMeOUNCE",
  "1F780aBLACK LEFT-POINTING ISOSCELES RIGHT TRIANGLEbUP-POINTING ISOSCELES RIGHT TRIANGLE",
  "1F782aBLACK RIGHT-POINTING ISOSCELES RIGHT TRIANGLEbDOWN-POINTING ISOSCELES RIGHT TRIANGLE",
  "1F784aBLACK SLIGHTLY SMALL CIRCLEaMEDIUM BOLD WHITE CIRCLEaBOLD WHITE CIRCLEaHEAVY WHITE CIRCLE",
  "1F788aVERY HEAVY WHITE CIRCLEaEXTREMELY HEAVY WHITE CIRCLE",
  "1F78AaWHITE CIRCLE CONTAINING BLACK SMALL CIRCLEaROUND TARGETaBLACK TINY SQUARE",
  "1F78DaBLACK SLIGHTLY SMALL SQUAREaLIGHT WHITE SQUAREaMEDIUM WHITE SQUAREaBOLD WHITE SQUARE",
  "1F791aHEAVY WHITE SQUAREaVERY HEAVY WHITE SQUAREaEXTREMELY HEAVY WHITE SQUARE",
  "1F794aWHITE SQUARE CONTAINING BLACK VERY SMALL SQUAREeMEDIUM SQUAREaSQUARE TARGET",
  "1F797aBLACK TINY DIAMONDbVERY SMALL DIAMONDbMEDIUM SMALL DIAMOND",
  "1F79AaWHITE DIAMOND CONTAINING BLACK VERY SMALL DIAMONDeMEDIUM DIAMONDaDIAMOND TARGET",
  "1F79DaBLACK TINY LOZENGEbVERY SMALL LOZENGEbMEDIUM SMALL LOZENGE",
  "1F7A0aWHITE LOZENGE CONTAINING BLACK SMALL LOZENGEaTHIN GREEK CROSSaLIGHT GREEK CROSS",
  "1F7A3aMEDIUM GREEK CROSSaBOLD GREEK CROSSaVERY BOLD GREEK CROSSbHEAVY GREEK CROSS",
  "1F7A7aEXTREMELY HEAVY GREEK CROSSaTHIN SALTIREaLIGHT SALTIREaMEDIUM SALTIREaBOLD SALTIRE",
  "1F7ACaHEAVY SALTIREaVERY HEAVY SALTIREaEXTREMELY HEAVY SALTIREaLIGHT FIVE SPOKED ASTERISK",
  "1F7B0aMEDIUM FIVE SPOKED ASTERISKaBOLD FIVE SPOKED ASTERISKaHEAVY FIVE SPOKED ASTERISK",
  "1F7B3aVERY HEAVY FIVE SPOKED ASTERISKaEXTREMELY HEAVY FIVE SPOKED ASTERISK",
  "1F7B5aLIGHT SIX SPOKED ASTERISKaMEDIUM SIX SPOKED ASTERISKaBOLD SIX SPOKED ASTERISK",
  "1F7B8aHEAVY SIX SPOKED ASTERISKaVERY HEAVY SIX SPOKED ASTERISK",
  "1F7BAaEXTREMELY HEAVY SIX SPOKED ASTERISKaLIGHT EIGHT SPOKED ASTERISK",
  "1F7BCaMEDIUM EIGHT SPOKED ASTERISKaBOLD EIGHT SPOKED ASTERISKaHEAVY EIGHT SPOKED ASTERISK",
  "1F7BFaVERY HEAVY EIGHT SPOKED ASTERISKaLIGHT THREE POINTED BLACK STAR",
  "1F7C1aMEDIUM THREE POINTED BLACK STARaTHREE POINTED BLACK STAR",
  "1F7C3aMEDIUM THREE POINTED PINWHEEL STARaLIGHT FOUR POINTED BLACK STAR",
  "1F7C5aMEDIUM FOUR POINTED BLACK STARaFOUR POINTED BLACK STARaMEDIUM FOUR POINTED PINWHEEL STAR",
  "1F7C8aREVERSE LIGHT FOUR POINTED PINWHEEL STARaLIGHT FIVE POINTED BLACK STAR",
  "1F7CAaHEAVY FIVE POINTED BLACK STARaMEDIUM SIX POINTED BLACK STARaHEAVY SIX POINTED BLACK STAR",
  "1F7CDaSIX POINTED PINWHEEL STARaMEDIUM EIGHT POINTED BLACK STARaHEAVY EIGHT POINTED BLACK STAR",
  "1F7D0aVERY HEAVY EIGHT POINTED BLACK STARaHEAVY EIGHT POINTED PINWHEEL STAR",
  "1F7D2aLIGHT TWELVE POINTED BLACK STARaHEAVY TWELVE POINTED BLACK STARdPINWHEEL STAR",
  "1F7D5aCIRCLED TRIANGLEaNEGATIVE CIRCLED TRIANGLEaCIRCLED SQUAREaNEGATIVE CIRCLED SQUARE",
  "1F7E0aLARGE ORANGE CIRCLEbYELLOW CIRCLEbGREEN CIRCLEbPURPLE CIRCLEbBROWN CIRCLEbRED SQUARE",
  "1F7E6aLARGE BLUE SQUAREbORANGE SQUAREbYELLOW SQUAREbGREEN SQUAREbPURPLE SQUAREbBROWN SQUARE",
  "1F7F0aHEAVY EQUALS SIGN",
  "1F800aLEFTWARDS ARROW WITH SMALL TRIANGLE ARROWHEADaUPWARDS ARROW WITH SMALL TRIANGLE ARROWHEAD",
  "1F802aRIGHTWARDS ARROW WITH SMALL TRIANGLE ARROWHEAD",
  "1F803aDOWNWARDS ARROW WITH SMALL TRIANGLE ARROWHEAD",
  "1F804aLEFTWARDS ARROW WITH MEDIUM TRIANGLE ARROWHEAD",
  "1F805aUPWARDS ARROW WITH MEDIUM TRIANGLE ARROWHEAD",
  "1F806aRIGHTWARDS ARROW WITH MEDIUM TRIANGLE ARROWHEAD",
  "1F807aDOWNWARDS ARROW WITH MEDIUM TRIANGLE ARROWHEAD",
  "1F808aLEFTWARDS ARROW WITH LARGE TRIANGLE ARROWHEADaUPWARDS ARROW WITH LARGE TRIANGLE ARROWHEAD",
  "1F80AaRIGHTWARDS ARROW WITH LARGE TRIANGLE ARROWHEAD",
  "1F80BaDOWNWARDS ARROW WITH LARGE TRIANGLE ARROWHEAD",
  "1F810aLEFTWARDS ARROW WITH SMALL EQUILATERAL ARROWHEAD",
  "1F811aUPWARDS ARROW WITH SMALL EQUILATERAL ARROWHEAD",
  "1F812aRIGHTWARDS ARROW WITH SMALL EQUILATERAL ARROWHEAD",
  "1F813aDOWNWARDS ARROW WITH SMALL EQUILATERAL ARROWHEAD",
  "1F814aLEFTWARDS ARROW WITH EQUILATERAL ARROWHEADaUPWARDS ARROW WITH EQUILATERAL ARROWHEAD",
  "1F816aRIGHTWARDS ARROW WITH EQUILATERAL ARROWHEADaDOWNWARDS ARROW WITH EQUILATERAL ARROWHEAD",
  "1F818aHEAVY LEFTWARDS ARROW WITH EQUILATERAL ARROWHEADbUPWARDS ARROW WITH EQUILATERAL ARROWHEAD",
  "1F81AaHEAVY RIGHTWARDS ARROW WITH EQUILATERAL ARROWHEAD",
  "1F81BaHEAVY DOWNWARDS ARROW WITH EQUILATERAL ARROWHEAD",
  "1F81CaHEAVY LEFTWARDS ARROW WITH LARGE EQUILATERAL ARROWHEAD",
  "1F81DaHEAVY UPWARDS ARROW WITH LARGE EQUILATERAL ARROWHEAD",
  "1F81EaHEAVY RIGHTWARDS ARROW WITH LARGE EQUILATERAL ARROWHEAD",
  "1F81FaHEAVY DOWNWARDS ARROW WITH LARGE EQUILATERAL ARROWHEAD",
  "1F820aLEFTWARDS TRIANGLE-HEADED ARROW WITH NARROW SHAFT",
  "1F821aUPWARDS TRIANGLE-HEADED ARROW WITH NARROW SHAFT",
  "1F822aRIGHTWARDS TRIANGLE-HEADED ARROW WITH NARROW SHAFT",
  "1F823aDOWNWARDS TRIANGLE-HEADED ARROW WITH NARROW SHAFT",
  "1F824aLEFTWARDS TRIANGLE-HEADED ARROW WITH MEDIUM SHAFT",
  "1F825aUPWARDS TRIANGLE-HEADED ARROW WITH MEDIUM SHAFT",
  "1F826aRIGHTWARDS TRIANGLE-HEADED ARROW WITH MEDIUM SHAFT",
  "1F827aDOWNWARDS TRIANGLE-HEADED ARROW WITH MEDIUM SHAFT",
  "1F828aLEFTWARDS TRIANGLE-HEADED ARROW WITH BOLD SHAFT",
  "1F829aUPWARDS TRIANGLE-HEADED ARROW WITH BOLD SHAFT",
  "1F82AaRIGHTWARDS TRIANGLE-HEADED ARROW WITH BOLD SHAFT",
  "1F82BaDOWNWARDS TRIANGLE-HEADED ARROW WITH BOLD SHAFT",
  "1F82CaLEFTWARDS TRIANGLE-HEADED ARROW WITH HEAVY SHAFT",
  "1F82DaUPWARDS TRIANGLE-HEADED ARROW WITH HEAVY SHAFT",
  "1F82EaRIGHTWARDS TRIANGLE-HEADED ARROW WITH HEAVY SHAFT",
  "1F82FaDOWNWARDS TRIANGLE-HEADED ARROW WITH HEAVY SHAFT",
  "1F830aLEFTWARDS TRIANGLE-HEADED ARROW WITH VERY HEAVY SHAFT",
  "1F831aUPWARDS TRIANGLE-HEADED ARROW WITH VERY HEAVY SHAFT",
  "1F832aRIGHTWARDS TRIANGLE-HEADED ARROW WITH VERY HEAVY SHAFT",
  "1F833aDOWNWARDS TRIANGLE-HEADED ARROW WITH VERY HEAVY SHAFTaLEFTWARDS FINGER-POST ARROW",
  "1F835aUPWARDS FINGER-POST ARROWaRIGHTWARDS FINGER-POST ARROWaDOWNWARDS FINGER-POST ARROW",
  "1F838aLEFTWARDS SQUARED ARROWaUPWARDS SQUARED ARROWaRIGHTWARDS SQUARED ARROW",
  "1F83BaDOWNWARDS SQUARED ARROWaLEFTWARDS COMPRESSED ARROWaUPWARDS COMPRESSED ARROW",
  "1F83EaRIGHTWARDS COMPRESSED ARROWaDOWNWARDS COMPRESSED ARROWaLEFTWARDS HEAVY COMPRESSED ARROW",
  "1F841aUPWARDS HEAVY COMPRESSED ARROWaRIGHTWARDS HEAVY COMPRESSED ARROW",
  "1F843aDOWNWARDS HEAVY COMPRESSED ARROWaLEFTWARDS HEAVY ARROWaUPWARDS HEAVY ARROW",
  "1F846aRIGHTWARDS HEAVY ARROWaDOWNWARDS HEAVY ARROW",
  "1F850aLEFTWARDS SANS-SERIF ARROWaUPWARDS SANS-SERIF ARROWaRIGHTWARDS SANS-SERIF ARROW",
  "1F853aDOWNWARDS SANS-SERIF ARROWaNORTH WEST SANS-SERIF ARROWbEAST SANS-SERIF ARROW",
  "1F856aSOUTH EAST SANS-SERIF ARROWbWEST SANS-SERIF ARROWaLEFT RIGHT SANS-SERIF ARROW",
  "1F859aUP DOWN SANS-SERIF ARROW",
  "1F860aWIDE-HEADED LEFTWARDS LIGHT BARB ARROWbUPWARDS LIGHT BARB ARROW",
  "1F862aWIDE-HEADED RIGHTWARDS LIGHT BARB ARROWbDOWNWARDS LIGHT BARB ARROW",
  "1F864aWIDE-HEADED NORTH WEST LIGHT BARB ARROWcEAST LIGHT BARB ARROWbSOUTH EAST LIGHT BARB ARROW",
  "1F867aWIDE-HEADED SOUTH WEST LIGHT BARB ARROWbLEFTWARDS BARB ARROWbUPWARDS BARB ARROW",
  "1F86AaWIDE-HEADED RIGHTWARDS BARB ARROWbDOWNWARDS BARB ARROWbNORTH WEST BARB ARROW",
  "1F86DaWIDE-HEADED NORTH EAST BARB ARROWbSOUTH EAST BARB ARROWcWEST BARB ARROW",
  "1F870aWIDE-HEADED LEFTWARDS MEDIUM BARB ARROWbUPWARDS MEDIUM BARB ARROW",
  "1F872aWIDE-HEADED RIGHTWARDS MEDIUM BARB ARROWbDOWNWARDS MEDIUM BARB ARROW",
  "1F874aWIDE-HEADED NORTH WEST MEDIUM BARB ARROWcEAST MEDIUM BARB ARROW",
  "1F876aWIDE-HEADED SOUTH EAST MEDIUM BARB ARROWcWEST MEDIUM BARB ARROWbLEFTWARDS HEAVY BARB ARROW",
  "1F879aWIDE-HEADED UPWARDS HEAVY BARB ARROWbRIGHTWARDS HEAVY BARB ARROW",
  "1F87BaWIDE-HEADED DOWNWARDS HEAVY BARB ARROWbNORTH WEST HEAVY BARB ARROWcEAST HEAVY BARB ARROW",
  "1F87EaWIDE-HEADED SOUTH EAST HEAVY BARB ARROWcWEST HEAVY BARB ARROW",
  "1F880aWIDE-HEADED LEFTWARDS VERY HEAVY BARB ARROWbUPWARDS VERY HEAVY BARB ARROW",
  "1F882aWIDE-HEADED RIGHTWARDS VERY HEAVY BARB ARROWbDOWNWARDS VERY HEAVY BARB ARROW",
  "1F884aWIDE-HEADED NORTH WEST VERY HEAVY BARB ARROWcEAST VERY HEAVY BARB ARROW",
  "1F886aWIDE-HEADED SOUTH EAST VERY HEAVY BARB ARROWcWEST VERY HEAVY BARB ARROW",
  "1F890aLEFTWARDS TRIANGLE ARROWHEADaUPWARDS TRIANGLE ARROWHEADaRIGHTWARDS TRIANGLE ARROWHEAD",
  "1F893aDOWNWARDS TRIANGLE ARROWHEADaLEFTWARDS WHITE ARROW WITHIN TRIANGLE ARROWHEAD",
  "1F895aUPWARDS WHITE ARROW WITHIN TRIANGLE ARROWHEAD",
  "1F896aRIGHTWARDS WHITE ARROW WITHIN TRIANGLE ARROWHEAD",
  "1F897aDOWNWARDS WHITE ARROW WITHIN TRIANGLE ARROWHEADaLEFTWARDS ARROW WITH NOTCHED TAIL",
  "1F899aUPWARDS ARROW WITH NOTCHED TAILaRIGHTWARDS ARROW WITH NOTCHED TAIL",
  "1F89BaDOWNWARDS ARROW WITH NOTCHED TAILaHEAVY ARROW SHAFT WIDTH ONEeTWO THIRDSeONE HALFfTHIRD",
  "1F8A0aLEFTWARDS BOTTOM-SHADED WHITE ARROWaRIGHTWARDS BOTTOM SHADED WHITE ARROW",
  "1F8A2aLEFTWARDS TOP SHADED WHITE ARROWaRIGHTWARDS TOP SHADED WHITE ARROW",
  "1F8A4aLEFTWARDS LEFT-SHADED WHITE ARROWaRIGHTWARDS RIGHT-SHADED WHITE ARROW",
  "1F8A6aLEFTWARDS RIGHT-SHADED WHITE ARROWaRIGHTWARDS LEFT-SHADED WHITE ARROW",
  "1F8A8aLEFTWARDS BACK-TILTED SHADOWED WHITE ARROWaRIGHTWARDS BACK-TILTED SHADOWED WHITE ARROW",
  "1F8AAaLEFTWARDS FRONT-TILTED SHADOWED WHITE ARROWaRIGHTWARDS FRONT-TILTED SHADOWED WHITE ARROW",
  "1F8ACaWHITE ARROW SHAFT WIDTH ONEeTWO THIRDS",
  "1F8B0aARROW POINTING UPWARDS THEN NORTH WESTcRIGHTWARDS THEN CURVING SOUTH WEST",
  "1F900aCIRCLED CROSS FORMEE WITH FOUR DOTSeTWO DOTS",
  "1F902aCIRCLED CROSS FORMEEaLEFT HALF CIRCLE WITH FOUR DOTSeTHREE DOTSeTWO DOTSeDOT",
  "1F907aLEFT HALF CIRCLEaDOWNWARD FACING HOOKcNOTCHED HOOKcHOOK WITH DOTcNOTCHED HOOK WITH DOT",
  "1F90CaPINCHED FINGERSaWHITE HEARTaBROWN HEARTaPINCHING HANDaZIPPER-MOUTH FACEaMONEY-MOUTH FACE",
  "1F912aFACE WITH THERMOMETERaNERD FACEaTHINKING FACEaFACE WITH HEAD-BANDAGEaROBOT FACE",
  "1F917aHUGGING FACEaSIGN OF THE HORNSaCALL ME HANDaRAISED BACK OF HANDaLEFT-FACING FIST",
  "1F91CaRIGHT-FACING FISTaHANDSHAKEaHAND WITH INDEX AND MIDDLE FINGERS CROSSED",
  "1F91FaI LOVE YOU HAND SIGNaFACE WITH COWBOY HATaCLOWN FACEaNAUSEATED FACE",
  "1F923aROLLING ON THE FLOOR LAUGHINGaDROOLING FACEaLYING FACEaFACE PALMaSNEEZING FACE",
  "1F928aFACE WITH ONE EYEBROW RAISEDaGRINNING FACE WITH STAR EYESdONE LARGE AND ONE SMALL EYE",
  "1F92BaFACE WITH FINGER COVERING CLOSED LIPSaSERIOUS FACE WITH SYMBOLS COVERING MOUTH",
  "1F92DaSMILING FACE WITH SMILING EYES AND HAND COVERING MOUTHaFACE WITH OPEN MOUTH VOMITING",
  "1F92FaSHOCKED FACE WITH EXPLODING HEADaPREGNANT WOMANaBREAST-FEEDINGaPALMS UP TOGETHERaSELFIE",
  "1F934aPRINCEaMAN IN TUXEDOaMOTHER CHRISTMASaSHRUGaPERSON DOING CARTWHEELaJUGGLINGaFENCER",
  "1F93BaMODERN PENTATHLONaWRESTLERSaWATER POLOaHANDBALLaDIVING MASKaWILTED FLOWER",
  "1F941aDRUM WITH DRUMSTICKSaCLINKING GLASSESaTUMBLER GLASSaSPOONaGOAL NETaRIFLEaFIRST PLACE MEDAL",
  "1F948aSECOND PLACE MEDALaTHIRD PLACE MEDALaBOXING GLOVEaMARTIAL ARTS UNIFORMaCURLING STONE",
  "1F94DaLACROSSE STICK AND BALLaSOFTBALLaFLYING DISCaCROISSANTaAVOCADOaCUCUMBERaBACONaPOTATO",
  "1F955aCARROTaBAGUETTE BREADaGREEN SALADaSHALLOW PAN OF FOODaSTUFFED FLATBREADaEGGaGLASS OF MILK",
  "1F95CaPEANUTSaKIWIFRUITaPANCAKESaDUMPLINGaFORTUNE COOKIEaTAKEOUT BOXaCHOPSTICKSaBOWL WITH SPOON",
  "1F964aCUP WITH STRAWaCOCONUTaBROCCOLIaPIEaPRETZELaCUT OF MEATaSANDWICHaCANNED FOODaLEAFY GREEN",
  "1F96DaMANGOaMOON CAKEaBAGELaSMILING FACE WITH SMILING EYES AND THREE HEARTSaYAWNING FACE",
  "1F972aSMILING FACE WITH TEARaFACE WITH PARTY HORN AND PARTY HATcUNEVEN EYES AND WAVY MOUTH",
  "1F975aOVERHEATED FACEaFREEZING FACEaNINJAaDISGUISED FACEaFACE HOLDING BACK TEARS",
  "1F97AaFACE WITH PLEADING EYESaSARIaLAB COATaGOGGLESaHIKING BOOTaFLAT SHOEaCRABaLION FACE",
  "1F982aSCORPIONaTURKEYaUNICORN FACEaEAGLEaDUCKaBATaSHARKaOWLaFOX FACEaBUTTERFLYaDEERaGORILLA",
  "1F98EaLIZARDaRHINOCEROSaSHRIMPaSQUIDaGIRAFFE FACEaZEBRA FACEaHEDGEHOGaSAUROPODaT-REXaCRICKET",
  "1F998aKANGAROOaLLAMAaPEACOCKaHIPPOPOTAMUSaPARROTaRACCOONaLOBSTERaMOSQUITOaMICROBEaBADGERaSWAN",
  "1F9A3aMAMMOTHaDODOaSLOTHaOTTERaORANGUTANaSKUNKaFLAMINGOaOYSTERaBEAVERaBISONaSEALaGUIDE DOG",
  "1F9AFaPROBING CANEaEMOJI COMPONENT RED HAIRcCURLY HAIRcBALDcWHITE HAIRaBONEaLEGaFOOTaTOOTH",
  "1F9B8aSUPERHEROaSUPERVILLAINaSAFETY VESTaEAR WITH HEARING AIDaMOTORIZED WHEELCHAIR",
  "1F9BDaMANUAL WHEELCHAIRaMECHANICAL ARMbLEGaCHEESE WEDGEaCUPCAKEaSALT SHAKERaBEVERAGE BOXaGARLIC",
  "1F9C5aONIONaFALAFELaWAFFLEaBUTTERaMATE DRINKaICE CUBEaBUBBLE TEAaTROLLaSTANDING PERSON",
  "1F9CEaKNEELING PERSONaDEAF PERSONaFACE WITH MONOCLEaADULTaCHILDaOLDER ADULTaBEARDED PERSON",
  "1F9D5aPERSON WITH HEADSCARFbIN STEAMY ROOMbCLIMBINGbIN LOTUS POSITIONaMAGEaFAIRYaVAMPIRE",
  "1F9DCaMERPERSONaELFaGENIEaZOMBIEaBRAINaORANGE HEARTaBILLED CAPaSCARFaGLOVESaCOATaSOCKS",
  "1F9E7aRED GIFT ENVELOPEaFIRECRACKERaJIGSAW PUZZLE PIECEaTEST TUBEaPETRI DISHaDNA DOUBLE HELIX",
  "1F9EDaCOMPASSaABACUSaFIRE EXTINGUISHERaTOOLBOXaBRICKaMAGNETaLUGGAGEaLOTION BOTTLE",
  "1F9F5aSPOOL OF THREADaBALL OF YARNaSAFETY PINaTEDDY BEARaBROOMaBASKETaROLL OF PAPERaBAR OF SOAP",
  "1F9FDaSPONGEaRECEIPTaNAZAR AMULETaNEUTRAL CHESS KINGcQUEENcROOKcBISHOPcKNIGHTcPAWN",
  "1FA06aWHITE CHESS KNIGHT ROTATED FORTY-FIVE DEGREES",
  "1FA07aBLACK CHESS KNIGHT ROTATED FORTY-FIVE DEGREES",
  "1FA08aNEUTRAL CHESS KNIGHT ROTATED FORTY-FIVE DEGREESaWHITE CHESS KING ROTATED NINETY DEGREES",
  "1FA0AaWHITE CHESS QUEEN ROTATED NINETY DEGREEScROOK ROTATED NINETY DEGREES",
  "1FA0CaWHITE CHESS BISHOP ROTATED NINETY DEGREEScKNIGHT ROTATED NINETY DEGREES",
  "1FA0EaWHITE CHESS PAWN ROTATED NINETY DEGREESaBLACK CHESS KING ROTATED NINETY DEGREES",
  "1FA10aBLACK CHESS QUEEN ROTATED NINETY DEGREEScROOK ROTATED NINETY DEGREES",
  "1FA12aBLACK CHESS BISHOP ROTATED NINETY DEGREEScKNIGHT ROTATED NINETY DEGREES",
  "1FA14aBLACK CHESS PAWN ROTATED NINETY DEGREESaNEUTRAL CHESS KING ROTATED NINETY DEGREES",
  "1FA16aNEUTRAL CHESS QUEEN ROTATED NINETY DEGREEScROOK ROTATED NINETY DEGREES",
  "1FA18aNEUTRAL CHESS BISHOP ROTATED NINETY DEGREEScKNIGHT ROTATED NINETY DEGREES",
  "1FA1AaNEUTRAL CHESS PAWN ROTATED NINETY DEGREES",
  "1FA1BaWHITE CHESS KNIGHT ROTATED ONE HUNDRED THIRTY-FIVE DEGREES",
  "1FA1CaBLACK CHESS KNIGHT ROTATED ONE HUNDRED THIRTY-FIVE DEGREES",
  "1FA1DaNEUTRAL CHESS KNIGHT ROTATED ONE HUNDRED THIRTY-FIVE DEGREESaWHITE CHESS TURNED KINGdQUEEN",
  "1FA20aWHITE CHESS TURNED ROOKdBISHOPdKNIGHTdPAWNaBLACK CHESS TURNED KINGdQUEENdROOKdBISHOP",
  "1FA28aBLACK CHESS TURNED KNIGHTdPAWNaNEUTRAL CHESS TURNED KINGdQUEENdROOKdBISHOPdKNIGHTdPAWN",
  "1FA30aWHITE CHESS KNIGHT ROTATED TWO HUNDRED TWENTY-FIVE DEGREES",
  "1FA31aBLACK CHESS KNIGHT ROTATED TWO HUNDRED TWENTY-FIVE DEGREES",
  "1FA32aNEUTRAL CHESS KNIGHT ROTATED TWO HUNDRED TWENTY-FIVE DEGREES",
  "1FA33aWHITE CHESS KING ROTATED TWO HUNDRED SEVENTY DEGREES",
  "1FA34aWHITE CHESS QUEEN ROTATED TWO HUNDRED SEVENTY DEGREES",
  "1FA35aWHITE CHESS ROOK ROTATED TWO HUNDRED SEVENTY DEGREES",
  "1FA36aWHITE CHESS BISHOP ROTATED TWO HUNDRED SEVENTY DEGREES",
  "1FA37aWHITE CHESS KNIGHT ROTATED TWO HUNDRED SEVENTY DEGREES",
  "1FA38aWHITE CHESS PAWN ROTATED TWO HUNDRED SEVENTY DEGREES",
  "1FA39aBLACK CHESS KING ROTATED TWO HUNDRED SEVENTY DEGREES",
  "1FA3AaBLACK CHESS QUEEN ROTATED TWO HUNDRED SEVENTY DEGREES",
  "1FA3BaBLACK CHESS ROOK ROTATED TWO HUNDRED SEVENTY DEGREES",
  "1FA3CaBLACK CHESS BISHOP ROTATED TWO HUNDRED SEVENTY DEGREES",
  "1FA3DaBLACK CHESS KNIGHT ROTATED TWO HUNDRED SEVENTY DEGREES",
  "1FA3EaBLACK CHESS PAWN ROTATED TWO HUNDRED SEVENTY DEGREES",
  "1FA3FaNEUTRAL CHESS KING ROTATED TWO HUNDRED SEVENTY DEGREES",
  "1FA40aNEUTRAL CHESS QUEEN ROTATED TWO HUNDRED SEVENTY DEGREES",
  "1FA41aNEUTRAL CHESS ROOK ROTATED TWO HUNDRED SEVENTY DEGREES",
  "1FA42aNEUTRAL CHESS BISHOP ROTATED TWO HUNDRED SEVENTY DEGREES",
  "1FA43aNEUTRAL CHESS KNIGHT ROTATED TWO HUNDRED SEVENTY DEGREES",
  "1FA44aNEUTRAL CHESS PAWN ROTATED TWO HUNDRED SEVENTY DEGREES",
  "1FA45aWHITE CHESS KNIGHT ROTATED THREE HUNDRED FIFTEEN DEGREES",
  "1FA46aBLACK CHESS KNIGHT ROTATED THREE HUNDRED FIFTEEN DEGREES",
  "1FA47aNEUTRAL CHESS KNIGHT ROTATED THREE HUNDRED FIFTEEN DEGREESaWHITE CHESS EQUIHOPPER",
  "1FA49aBLACK CHESS EQUIHOPPERaNEUTRAL CHESS EQUIHOPPER",
  "1FA4BaWHITE CHESS EQUIHOPPER ROTATED NINETY DEGREES",
  "1FA4CaBLACK CHESS EQUIHOPPER ROTATED NINETY DEGREES",
  "1FA4DaNEUTRAL CHESS EQUIHOPPER ROTATED NINETY DEGREESaWHITE CHESS KNIGHT-QUEENcKNIGHT-ROOK",
  "1FA50aWHITE CHESS KNIGHT-BISHOPaBLACK CHESS KNIGHT-QUEENcKNIGHT-ROOKcKNIGHT-BISHOP",
  "1FA60aXIANGQI RED GENERALcMANDARINcELEPHANTcHORSEcCHARIOTcCANNONcSOLDIERbBLACK GENERALcMANDARIN",
  "1FA69aXIANGQI BLACK ELEPHANTcHORSEcCHARIOTcCANNONcSOLDIER",
  "1FA70aBALLET SHOESaONE-PIECE SWIMSUITaBRIEFSaSHORTSaTHONG SANDAL"]

/-- More rows of names. -/
def nameRowsN : List String := [
  "1FA78aDROP OF BLOODaADHESIVE BANDAGEaSTETHOSCOPEaX-RAYaCRUTCH",
  "1FA80aYO-YOaKITEaPARACHUTEaBOOMERANGaMAGIC WANDaPINATAaNESTING DOLLS",
  "1FA90aRINGED PLANETaCHAIRaRAZORaAXEaDIYA LAMPaBANJOaMILITARY HELMETaACCORDIONaLONG DRUMaCOIN",
  "1FA9AaCARPENTRY SAWaSCREWDRIVERaLADDERaHOOKaMIRRORaWINDOWaPLUNGERaSEWING NEEDLEaKNOTaBUCKET",
  "1FAA4aMOUSE TRAPaTOOTHBRUSHaHEADSTONEaPLACARDaROCKaMIRROR BALLaIDENTIFICATION CARDaLOW BATTERY",
  "1FAACaHAMSA",
  "1FAB0aFLYaWORMaBEETLEaCOCKROACHaPOTTED PLANTaWOODaFEATHERaLOTUSaCORALaEMPTY NESTaNEST WITH EGGS",
  "1FAC0aANATOMICAL HEARTaLUNGSaPEOPLE HUGGINGaPREGNANT MANbPERSONaPERSON WITH CROWN",
  "1FAD0aBLUEBERRIESaBELL PEPPERaOLIVEaFLATBREADaTAMALEaFONDUEaTEAPOTaPOURING LIQUIDaBEANSaJAR",
  "1FAE0aMELTING FACEaSALUTING FACEaFACE WITH OPEN EYES AND HAND OVER MOUTHcPEEKING EYE",
  "1FAE4aFACE WITH DIAGONAL MOUTHaDOTTED LINE FACEaBITING LIPaBUBBLES",
  "1FAF0aHAND WITH INDEX FINGER AND THUMB CROSSEDaRIGHTWARDS HANDaLEFTWARDS HANDaPALM DOWN HAND",
  "1FAF4aPALM UP HANDaINDEX POINTING AT THE VIEWERaHEART HANDS",
  "1FB00aBLOCK SEXTANT-1bSEXTANT-2bSEXTANT-12bSEXTANT-3bSEXTANT-13bSEXTANT-23bSEXTANT-123bSEXTANT-4",
  "1FB08aBLOCK SEXTANT-14bSEXTANT-24bSEXTANT-124bSEXTANT-34bSEXTANT-134bSEXTANT-234bSEXTANT-1234",
  "1FB0FaBLOCK SEXTANT-5bSEXTANT-15bSEXTANT-25bSEXTANT-125bSEXTANT-35bSEXTANT-235bSEXTANT-1235",
  "1FB16aBLOCK SEXTANT-45bSEXTANT-145bSEXTANT-245bSEXTANT-1245bSEXTANT-345bSEXTANT-1345",
  "1FB1CaBLOCK SEXTANT-2345bSEXTANT-12345bSEXTANT-6bSEXTANT-16bSEXTANT-26bSEXTANT-126bSEXTANT-36",
  "1FB23aBLOCK SEXTANT-136bSEXTANT-236bSEXTANT-1236bSEXTANT-46bSEXTANT-146bSEXTANT-1246bSEXTANT-346",
  "1FB2AaBLOCK SEXTANT-1346bSEXTANT-2346bSEXTANT-12346bSEXTANT-56bSEXTANT-156bSEXTANT-256",
  "1FB30aBLOCK SEXTANT-1256bSEXTANT-356bSEXTANT-1356bSEXTANT-2356bSEXTANT-12356bSEXTANT-456",
  "1FB36aBLOCK SEXTANT-1456bSEXTANT-2456bSEXTANT-12456bSEXTANT-3456bSEXTANT-13456bSEXTANT-23456",
  "1FB3CaLOWER LEFT BLOCK DIAGONAL LOWER MIDDLE LEFT TO LOWER CENTREjRIGHT",
  "1FB3EaLOWER LEFT BLOCK DIAGONAL UPPER MIDDLE LEFT TO LOWER CENTREjRIGHTfLEFT TO LOWER CENTRE",
  "1FB41aLOWER RIGHT BLOCK DIAGONAL UPPER MIDDLE LEFT TO UPPER CENTREjRIGHT",
  "1FB43aLOWER RIGHT BLOCK DIAGONAL LOWER MIDDLE LEFT TO UPPER CENTREjRIGHTfLEFT TO UPPER CENTRE",
  "1FB46aLOWER RIGHT BLOCK DIAGONAL LOWER MIDDLE LEFT TO UPPER MIDDLE RIGHT",
  "1FB47aLOWER RIGHT BLOCK DIAGONAL LOWER CENTRE TO LOWER MIDDLE RIGHTfLEFT TO LOWER MIDDLE RIGHT",
  "1FB49aLOWER RIGHT BLOCK DIAGONAL LOWER CENTRE TO UPPER MIDDLE RIGHTfLEFT TO UPPER MIDDLE RIGHT",
  "1FB4BaLOWER RIGHT BLOCK DIAGONAL LOWER CENTRE TO UPPER RIGHT",
  "1FB4CaLOWER LEFT BLOCK DIAGONAL UPPER CENTRE TO UPPER MIDDLE RIGHTfLEFT TO UPPER MIDDLE RIGHT",
  "1FB4EaLOWER LEFT BLOCK DIAGONAL UPPER CENTRE TO LOWER MIDDLE RIGHTfLEFT TO LOWER MIDDLE RIGHT",
  "1FB50aLOWER LEFT BLOCK DIAGONAL UPPER CENTRE TO LOWER RIGHTfMIDDLE LEFT TO LOWER MIDDLE RIGHT",
  "1FB52aUPPER RIGHT BLOCK DIAGONAL LOWER MIDDLE LEFT TO LOWER CENTREjRIGHT",
  "1FB54aUPPER RIGHT BLOCK DIAGONAL UPPER MIDDLE LEFT TO LOWER CENTREjRIGHTfLEFT TO LOWER CENTRE",
  "1FB57aUPPER LEFT BLOCK DIAGONAL UPPER MIDDLE LEFT TO UPPER CENTREjRIGHT",
  "1FB59aUPPER LEFT BLOCK DIAGONAL LOWER MIDDLE LEFT TO UPPER CENTREjRIGHTfLEFT TO UPPER CENTRE",
  "1FB5CaUPPER LEFT BLOCK DIAGONAL LOWER MIDDLE LEFT TO UPPER MIDDLE RIGHT",
  "1FB5DaUPPER LEFT BLOCK DIAGONAL LOWER CENTRE TO LOWER MIDDLE RIGHTfLEFT TO LOWER MIDDLE RIGHT",
  "1FB5FaUPPER LEFT BLOCK DIAGONAL LOWER CENTRE TO UPPER MIDDLE RIGHTfLEFT TO UPPER MIDDLE RIGHT",
  "1FB61aUPPER LEFT BLOCK DIAGONAL LOWER CENTRE TO UPPER RIGHT",
  "1FB62aUPPER RIGHT BLOCK DIAGONAL UPPER CENTRE TO UPPER MIDDLE RIGHTfLEFT TO UPPER MIDDLE RIGHT",
  "1FB64aUPPER RIGHT BLOCK DIAGONAL UPPER CENTRE TO LOWER MIDDLE RIGHTfLEFT TO LOWER MIDDLE RIGHT",
  "1FB66aUPPER RIGHT BLOCK DIAGONAL UPPER CENTRE TO LOWER RIGHTfMIDDLE LEFT TO LOWER MIDDLE RIGHT",
  "1FB68aUPPER AND RIGHT AND LOWER TRIANGULAR THREE QUARTERS BLOCK",
  "1FB69aLEFT AND LOWER AND RIGHT TRIANGULAR THREE QUARTERS BLOCK",
  "1FB6AaUPPER AND LEFT AND LOWER TRIANGULAR THREE QUARTERS BLOCK",
  "1FB6BaLEFT AND UPPER AND RIGHT TRIANGULAR THREE QUARTERS BLOCKbTRIANGULAR ONE QUARTER BLOCK",
  "1FB6DaUPPER TRIANGULAR ONE QUARTER BLOCKaRIGHT TRIANGULAR ONE QUARTER BLOCK",
  "1FB6FaLOWER TRIANGULAR ONE QUARTER BLOCKaVERTICAL ONE EIGHTH BLOCK-2dBLOCK-3dBLOCK-4dBLOCK-5",
  "1FB74aVERTICAL ONE EIGHTH BLOCK-6dBLOCK-7aHORIZONTAL ONE EIGHTH BLOCK-2dBLOCK-3dBLOCK-4dBLOCK-5",
  "1FB7AaHORIZONTAL ONE EIGHTH BLOCK-6dBLOCK-7aLEFT AND LOWER ONE EIGHTH BLOCK",
  "1FB7DaLEFT AND UPPER ONE EIGHTH BLOCKaRIGHT AND UPPER ONE EIGHTH BLOCKcLOWER ONE EIGHTH BLOCK",
  "1FB80aUPPER AND LOWER ONE EIGHTH BLOCKaHORIZONTAL ONE EIGHTH BLOCK-1358aUPPER ONE QUARTER BLOCK",
  "1FB83aUPPER THREE EIGHTHS BLOCKbFIVE EIGHTHS BLOCKbTHREE QUARTERS BLOCKbSEVEN EIGHTHS BLOCK",
  "1FB87aRIGHT ONE QUARTER BLOCKbTHREE EIGHTHS BLOCKbFIVE EIGHTHS BLOCKbTHREE QUARTERS BLOCK",
  "1FB8BaRIGHT SEVEN EIGHTHS BLOCKaLEFT HALF MEDIUM SHADEaRIGHT HALF MEDIUM SHADE",
  "1FB8EaUPPER HALF MEDIUM SHADEaLOWER HALF MEDIUM SHADEaINVERSE MEDIUM SHADE",
  "1FB91aUPPER HALF BLOCK AND LOWER HALF INVERSE MEDIUM SHADE",
  "1FB92aUPPER HALF INVERSE MEDIUM SHADE AND LOWER HALF BLOCK",
  "1FB94aLEFT HALF INVERSE MEDIUM SHADE AND RIGHT HALF BLOCKaCHECKER BOARD FILL",
  "1FB96aINVERSE CHECKER BOARD FILLaHEAVY HORIZONTAL FILLaUPPER LEFT TO LOWER RIGHT FILL",
  "1FB99aUPPER RIGHT TO LOWER LEFT FILLbAND LOWER TRIANGULAR HALF BLOCK",
  "1FB9BaLEFT AND RIGHT TRIANGULAR HALF BLOCKaUPPER LEFT TRIANGULAR MEDIUM SHADE",
  "1FB9DaUPPER RIGHT TRIANGULAR MEDIUM SHADEaLOWER RIGHT TRIANGULAR MEDIUM SHADE",
  "1FB9FaLOWER LEFT TRIANGULAR MEDIUM SHADEaBOX DRAWINGS LIGHT DIAGONAL UPPER CENTRE TO MIDDLE LEFT",
  "1FBA1aBOX DRAWINGS LIGHT DIAGONAL UPPER CENTRE TO MIDDLE RIGHTeMIDDLE LEFT TO LOWER CENTRE",
  "1FBA3aBOX DRAWINGS LIGHT DIAGONAL MIDDLE RIGHT TO LOWER CENTRE",
  "1FBA4aBOX DRAWINGS LIGHT DIAGONAL UPPER CENTRE TO MIDDLE LEFT TO LOWER CENTRE",
  "1FBA5aBOX DRAWINGS LIGHT DIAGONAL UPPER CENTRE TO MIDDLE RIGHT TO LOWER CENTRE",
  "1FBA6aBOX DRAWINGS LIGHT DIAGONAL MIDDLE LEFT TO LOWER CENTRE TO MIDDLE RIGHT",
  "1FBA7aBOX DRAWINGS LIGHT DIAGONAL MIDDLE LEFT TO UPPER CENTRE TO MIDDLE RIGHT",
  "1FBA8aBOX DRAWINGS LIGHT DIAGONAL UPPER CENTRE TO MIDDLE LEFT AND MIDDLE RIGHT TO LOWER CENTRE",
  "1FBA9aBOX DRAWINGS LIGHT DIAGONAL UPPER CENTRE TO MIDDLE RIGHT AND MIDDLE LEFT TO LOWER CENTRE",
  "1FBAAaBOX DRAWINGS LIGHT DIAGONAL UPPER CENTRE TO MIDDLE RIGHT TO LOWER CENTRE TO MIDDLE LEFT",
  "1FBABaBOX DRAWINGS LIGHT DIAGONAL UPPER CENTRE TO MIDDLE LEFT TO LOWER CENTRE TO MIDDLE RIGHT",
  "1FBACaBOX DRAWINGS LIGHT DIAGONAL MIDDLE LEFT TO UPPER CENTRE TO MIDDLE RIGHT TO LOWER CENTRE",
  "1FBADaBOX DRAWINGS LIGHT DIAGONAL MIDDLE RIGHT TO UPPER CENTRE TO MIDDLE LEFT TO LOWER CENTRE",
  "1FBAEaBOX DRAWINGS LIGHT DIAGONAL DIAMONDdHORIZONTAL WITH VERTICAL STROKE",
  "1FBB0aARROWHEAD-SHAPED POINTERaINVERSE CHECK MARKaLEFT HALF RUNNING MANaRIGHT HALF RUNNING MAN",
  "1FBB4aINVERSE DOWNWARDS ARROW WITH TIP LEFTWARDS",
  "1FBB5aLEFTWARDS ARROW AND UPPER AND LOWER ONE EIGHTH BLOCK",
  "1FBB6aRIGHTWARDS ARROW AND UPPER AND LOWER ONE EIGHTH BLOCK",
  "1FBB7aDOWNWARDS ARROW AND RIGHT ONE EIGHTH BLOCKaUPWARDS ARROW AND RIGHT ONE EIGHTH BLOCK",
  "1FBB9aLEFT HALF FOLDERaRIGHT HALF FOLDERaVOIDED GREEK CROSSaRIGHT OPEN SQUARED DOT",
  "1FBBDaNEGATIVE DIAGONAL CROSScMIDDLE RIGHT TO LOWER CENTREcDIAMOND",
  "1FBC0aWHITE HEAVY SALTIRE WITH ROUNDED CORNERSaLEFT THIRD WHITE RIGHT POINTING INDEX",
  "1FBC2aMIDDLE THIRD WHITE RIGHT POINTING INDEXaRIGHT THIRD WHITE RIGHT POINTING INDEX",
  "1FBC4aNEGATIVE SQUARED QUESTION MARKaSTICK FIGUREcWITH ARMS RAISEDcLEANING LEFTdRIGHTcWITH DRESS",
  "1FBCAaWHITE UP-POINTING CHEVRON",
  "1FBF0aSEGMENTED DIGIT ZEROcONEcTWOcTHREEcFOURcFIVEcSIXcSEVENcEIGHTcNINE",
  "E0001aLANGUAGE TAG",
  "E0020aTAG SPACEbEXCLAMATION MARKbQUOTATION MARKbNUMBER SIGNbDOLLAR SIGNbPERCENT SIGNbAMPERSAND",
  "E0027aTAG APOSTROPHEbLEFT PARENTHESISbRIGHT PARENTHESISbASTERISKbPLUS SIGNbCOMMAbHYPHEN-MINUS",
  "E002EaTAG FULL STOPbSOLIDUSbDIGIT ZEROcONEcTWOcTHREEcFOURcFIVEcSIXcSEVENcEIGHTcNINEbCOLON",
  "E003BaTAG SEMICOLONbLESS-THAN SIGNbEQUALS SIGNbGREATER-THAN SIGNbQUESTION MARKbCOMMERCIAL AT",
  "E0041aTAG LATIN CAPITAL LETTER AeBeCeDeEeFeGeHeIeJeKeLeMeNeOePeQeReSeTeUeVeWeXeYeZ",
  "E005BaTAG LEFT SQUARE BRACKETbREVERSE SOLIDUSbRIGHT SQUARE BRACKETbCIRCUMFLEX ACCENTbLOW LINE",
  "E0060aTAG GRAVE ACCENTbLATIN SMALL LETTER AeBeCeDeEeFeGeHeIeJeKeLeMeNeOePeQeReSeTeUeVeWeXeYeZ",
  "E007BaTAG LEFT CURLY BRACKETbVERTICAL LINEbRIGHT CURLY BRACKETbTILDEaCANCEL TAG",
  "E0100aVARIATION SELECTOR-17bSELECTOR-18bSELECTOR-19bSELECTOR-20bSELECTOR-21bSELECTOR-22",
  "E0106aVARIATION SELECTOR-23bSELECTOR-24bSELECTOR-25bSELECTOR-26bSELECTOR-27bSELECTOR-28",
  "E010CaVARIATION SELECTOR-29bSELECTOR-30bSELECTOR-31bSELECTOR-32bSELECTOR-33bSELECTOR-34",
  "E0112aVARIATION SELECTOR-35bSELECTOR-36bSELECTOR-37bSELECTOR-38bSELECTOR-39bSELECTOR-40",
  "E0118aVARIATION SELECTOR-41bSELECTOR-42bSELECTOR-43bSELECTOR-44bSELECTOR-45bSELECTOR-46",
  "E011EaVARIATION SELECTOR-47bSELECTOR-48bSELECTOR-49bSELECTOR-50bSELECTOR-51bSELECTOR-52",
  "E0124aVARIATION SELECTOR-53bSELECTOR-54bSELECTOR-55bSELECTOR-56bSELECTOR-57bSELECTOR-58",
  "E012AaVARIATION SELECTOR-59bSELECTOR-60bSELECTOR-61bSELECTOR-62bSELECTOR-63bSELECTOR-64",
  "E0130aVARIATION SELECTOR-65bSELECTOR-66bSELECTOR-67bSELECTOR-68bSELECTOR-69bSELECTOR-70",
  "E0136aVARIATION SELECTOR-71bSELECTOR-72bSELECTOR-73bSELECTOR-74bSELECTOR-75bSELECTOR-76",
  "E013CaVARIATION SELECTOR-77bSELECTOR-78bSELECTOR-79bSELECTOR-80bSELECTOR-81bSELECTOR-82",
  "E0142aVARIATION SELECTOR-83bSELECTOR-84bSELECTOR-85bSELECTOR-86bSELECTOR-87bSELECTOR-88",
  "E0148aVARIATION SELECTOR-89bSELECTOR-90bSELECTOR-91bSELECTOR-92bSELECTOR-93bSELECTOR-94",
  "E014EaVARIATION SELECTOR-95bSELECTOR-96bSELECTOR-97bSELECTOR-98bSELECTOR-99bSELECTOR-100",
  "E0154aVARIATION SELECTOR-101bSELECTOR-102bSELECTOR-103bSELECTOR-104bSELECTOR-105bSELECTOR-106",
  "E015AaVARIATION SELECTOR-107bSELECTOR-108bSELECTOR-109bSELECTOR-110bSELECTOR-111bSELECTOR-112",
  "E0160aVARIATION SELECTOR-113bSELECTOR-114bSELECTOR-115bSELECTOR-116bSELECTOR-117bSELECTOR-118",
  "E0166aVARIATION SELECTOR-119bSELECTOR-120bSELECTOR-121bSELECTOR-122bSELECTOR-123bSELECTOR-124",
  "E016CaVARIATION SELECTOR-125bSELECTOR-126bSELECTOR-127bSELECTOR-128bSELECTOR-129bSELECTOR-130",
  "E0172aVARIATION SELECTOR-131bSELECTOR-132bSELECTOR-133bSELECTOR-134bSELECTOR-135bSELECTOR-136",
  "E0178aVARIATION SELECTOR-137bSELECTOR-138bSELECTOR-139bSELECTOR-140bSELECTOR-141bSELECTOR-142",
  "E017EaVARIATION SELECTOR-143bSELECTOR-144bSELECTOR-145bSELECTOR-146bSELECTOR-147bSELECTOR-148",
  "E0184aVARIATION SELECTOR-149bSELECTOR-150bSELECTOR-151bSELECTOR-152bSELECTOR-153bSELECTOR-154",
  "E018AaVARIATION SELECTOR-155bSELECTOR-156bSELECTOR-157bSELECTOR-158bSELECTOR-159bSELECTOR-160",
  "E0190aVARIATION SELECTOR-161bSELECTOR-162bSELECTOR-163bSELECTOR-164bSELECTOR-165bSELECTOR-166",
  "E0196aVARIATION SELECTOR-167bSELECTOR-168bSELECTOR-169bSELECTOR-170bSELECTOR-171bSELECTOR-172",
  "E019CaVARIATION SELECTOR-173bSELECTOR-174bSELECTOR-175bSELECTOR-176bSELECTOR-177bSELECTOR-178",
  "E01A2aVARIATION SELECTOR-179bSELECTOR-180bSELECTOR-181bSELECTOR-182bSELECTOR-183bSELECTOR-184",
  "E01A8aVARIATION SELECTOR-185bSELECTOR-186bSELECTOR-187bSELECTOR-188bSELECTOR-189bSELECTOR-190",
  "E01AEaVARIATION SELECTOR-191bSELECTOR-192bSELECTOR-193bSELECTOR-194bSELECTOR-195bSELECTOR-196",
  "E01B4aVARIATION SELECTOR-197bSELECTOR-198bSELECTOR-199bSELECTOR-200bSELECTOR-201bSELECTOR-202",
  "E01BAaVARIATION SELECTOR-203bSELECTOR-204bSELECTOR-205bSELECTOR-206bSELECTOR-207bSELECTOR-208",
  "E01C0aVARIATION SELECTOR-209bSELECTOR-210bSELECTOR-211bSELECTOR-212bSELECTOR-213bSELECTOR-214",
  "E01C6aVARIATION SELECTOR-215bSELECTOR-216bSELECTOR-217bSELECTOR-218bSELECTOR-219bSELECTOR-220",
  "E01CCaVARIATION SELECTOR-221bSELECTOR-222bSELECTOR-223bSELECTOR-224bSELECTOR-225bSELECTOR-226",
  "E01D2aVARIATION SELECTOR-227bSELECTOR-228bSELECTOR-229bSELECTOR-230bSELECTOR-231bSELECTOR-232",
  "E01D8aVARIATION SELECTOR-233bSELECTOR-234bSELECTOR-235bSELECTOR-236bSELECTOR-237bSELECTOR-238",
  "E01DEaVARIATION SELECTOR-239bSELECTOR-240bSELECTOR-241bSELECTOR-242bSELECTOR-243bSELECTOR-244",
  "E01E4aVARIATION SELECTOR-245bSELECTOR-246bSELECTOR-247bSELECTOR-248bSELECTOR-249bSELECTOR-250",
  "E01EAaVARIATION SELECTOR-251bSELECTOR-252bSELECTOR-253bSELECTOR-254bSELECTOR-255bSELECTOR-256"]

/-- The first rows of other names. -/
def otherNameRowsA : List String := [
  "0aNULaSOHaSTART OF TEXTaEND OF TEXTcTRANSMISSIONaENQaACKaALERTaBACKSPACEaCHARACTER TABULATION",
  "AaEND OF LINEaLINE TABULATIONaFFaCARRIAGE RETURNaLOCKING-SHIFT ONEbZEROaDATA LINK ESCAPEaDC1aDC2",
  "13aDC3aDC4aNAKaSYNaEND OF TRANSMISSION BLOCKaCANaEND OF MEDIUMaSUBaESCaFILE SEPARATOR",
  "1DaGROUP SEPARATORaINFORMATION SEPARATOR TWOcONEaSP",
  "7FaDELaPADaHIGH OCTET PRESETaBPHaNBHaINDaNELaSSAaEND OF SELECTED AREAaCHARACTER TABULATION SET",
  "89aCHARACTER TABULATION WITH JUSTIFICATIONaLINE TABULATION SETaPARTIAL LINE DOWNcBACKWARD",
  "8DaREVERSE INDEXaSINGLE SHIFT TWOcTHREEaDCSaPRIVATE USE ONEcTWOaSET TRANSMIT STATE",
  "94aCANCEL CHARACTERaMESSAGE WAITINGaSPAaEND OF GUARDED AREAaSOSaSGCaSCI",
  "9BaCONTROL SEQUENCE INTRODUCERaSTaOPERATING SYSTEM COMMANDaPMaAPCaNBSP",
  "ADaSHY",
  "1A2aLATIN CAPITAL LETTER GHAbSMALL LETTER GHA",
  "34FaCGJ",
  "61CaALM",
  "709aSYRIAC SUBLINEAR COLON SKEWED LEFT",
  "CDEaKANNADA LETTER LLLA",
  "E9DaLAO LETTER FO FON",
  "E9FaLAO LETTER FO FAY",
  "EA3aLAO LETTER RO",
  "EA5aLAO LETTER LO",
  "FD0aTIBETAN MARK BKA- SHOG GI MGO RGYAN",
  "11ECaHANGUL JONGSEONG YESIEUNG-KIYEOKcYESIEUNG-SSANGKIYEOKcSSANGYESIEUNGcYESIEUNG-KHIEUKH",
  "180BaFVS1aFVS2aFVS3aMVSaFVS4",
  "200BaZWSPaZWNJaZWJaLRMaRLM",
  "202AaLREaRLEaPDFaLROaRLOaNNBSP",
  "205FaMMSPaWJ",
  "2066aLRIaRLIaFSIaPDI",
  "2118aWEIERSTRASS ELLIPTIC FUNCTION",
  "2448aMICR ON US SYMBOLbDASH SYMBOL",
  "2B7AaLEFTWARDS TRIANGLE-HEADED ARROW WITH DOUBLE VERTICAL STROKE",
  "2B7CaRIGHTWARDS TRIANGLE-HEADED ARROW WITH DOUBLE VERTICAL STROKE",
  "A015aYI SYLLABLE ITERATION MARK",
  "AA6EaMYANMAR LETTER KHAMTI LLA",
  "FE00aVS1aVS2aVS3aVS4aVS5aVS6aVS7aVS8aVS9aVS10aVS11aVS12aVS13aVS14aVS15aVS16",
  "FE18aPRESENTATION FORM FOR VERTICAL RIGHT WHITE LENTICULAR BRACKET",
  "FEFFaBOM",
  "122D4aCUNEIFORM SIGN NU11 TENUdOVER NU11 BUR OVER BUR",
  "16E56aMEDEFAIDRIN CAPITAL LETTER HdNG",
  "16E76aMEDEFAIDRIN SMALL LETTER HdNG",
  "1B001aHENTAIGANA LETTER E-1",
  "1D0C5aBYZANTINE MUSICAL SYMBOL FTHORA SKLIRON CHROMA VASIS",
  "E0100aVS17aVS18aVS19aVS20aVS21aVS22aVS23aVS24aVS25aVS26aVS27aVS28aVS29aVS30aVS31aVS32aVS33aVS34",
  "E0112aVS35aVS36aVS37aVS38aVS39aVS40aVS41aVS42aVS43aVS44aVS45aVS46aVS47aVS48aVS49aVS50aVS51aVS52",
  "E0124aVS53aVS54aVS55aVS56aVS57aVS58aVS59aVS60aVS61aVS62aVS63aVS64aVS65aVS66aVS67aVS68aVS69aVS70",
  "E0136aVS71aVS72aVS73aVS74aVS75aVS76aVS77aVS78aVS79aVS80aVS81aVS82aVS83aVS84aVS85aVS86aVS87aVS88",
  "E0148aVS89aVS90aVS91aVS92aVS93aVS94aVS95aVS96aVS97aVS98aVS99aVS100aVS101aVS102aVS103aVS104aVS105",
  "E0159aVS106aVS107aVS108aVS109aVS110aVS111aVS112aVS113aVS114aVS115aVS116aVS117aVS118aVS119aVS120",
  "E0168aVS121aVS122aVS123aVS124aVS125aVS126aVS127aVS128aVS129aVS130aVS131aVS132aVS133aVS134aVS135",
  "E0177aVS136aVS137aVS138aVS139aVS140aVS141aVS142aVS143aVS144aVS145aVS146aVS147aVS148aVS149aVS150",
  "E0186aVS151aVS152aVS153aVS154aVS155aVS156aVS157aVS158aVS159aVS160aVS161aVS162aVS163aVS164aVS165",
  "E0195aVS166aVS167aVS168aVS169aVS170aVS171aVS172aVS173aVS174aVS175aVS176aVS177aVS178aVS179aVS180",
  "E01A4aVS181aVS182aVS183aVS184aVS185aVS186aVS187aVS188aVS189aVS190aVS191aVS192aVS193aVS194aVS195",
  "E01B3aVS196aVS197aVS198aVS199aVS200aVS201aVS202aVS203aVS204aVS205aVS206aVS207aVS208aVS209aVS210",
  "E01C2aVS211aVS212aVS213aVS214aVS215aVS216aVS217aVS218aVS219aVS220aVS221aVS222aVS223aVS224aVS225",
  "E01D1aVS226aVS227aVS228aVS229aVS230aVS231aVS232aVS233aVS234aVS235aVS236aVS237aVS238aVS239aVS240",
  "E01E0aVS241aVS242aVS243aVS244aVS245aVS246aVS247aVS248aVS249aVS250aVS251aVS252aVS253aVS254aVS255",
  "E01EFaVS256",
  "0aNULLaSTART OF HEADINGaSTXaETXaEOTaENQUIRYaACKNOWLEDGEaBELaBSaHORIZONTAL TABULATIONaEOL",
  "BaVERTICAL TABULATIONaFORM FEEDaCRaSHIFT OUTbINaDLEaDEVICE CONTROL ONEcTWOcTHREEcFOUR",
  "15aNEGATIVE ACKNOWLEDGEaSYNCHRONOUS IDLEaETBaCANCELaEOMaSUBSTITUTEaESCAPEaFSaGSaRECORD SEPARATOR",
  "1FaUNIT SEPARATOR",
  "7FaDELETEaPADDING CHARACTERaHOPaBREAK PERMITTED HEREaNO BREAK HEREaINDEXaNEXT LINE",
  "86aSTART OF SELECTED AREAaESAaHORIZONTAL TABULATION SETcWITH JUSTIFICATION",
  "8AaVERTICAL TABULATION SETaPARTIAL LINE FORWARDcUPaREVERSE LINE FEEDaSINGLE-SHIFT-2",
  "8FaSINGLE-SHIFT-3aDEVICE CONTROL STRINGaPRIVATE USE-1bUSE-2aSTSaCCHaMWaSTART OF GUARDED AREA",
  "97aEND OF PROTECTED AREAaSTART OF STRINGaSINGLE GRAPHIC CHARACTER INTRODUCER",
  "9AaSINGLE CHARACTER INTRODUCERaCSIaSTRING TERMINATORaOSCaPRIVACY MESSAGE",
  "9FaAPPLICATION PROGRAM COMMAND",
  "FEFFaBYTE ORDER MARK",
  "9aHTaLFaVT",
  "EaSOaSI",
  "1CaINFORMATION SEPARATOR FOURcTHREEaRSaUS",
  "88aHTSaHTJaVTSaPLDaPLUaRIaSS2aSS3",
  "91aPU1aPU2",
  "96aSTART OF PROTECTED AREAaEPA",
  "FEFFaZWNBSP",
  "9aTABaLINE FEED",
  "AaNEW LINE",
  "AaNL"]

/-- All rows of names of characters. -/
def nameRows : List String :=
  nameRowsA ++ nameRowsB ++ nameRowsC ++ nameRowsD ++ nameRowsE ++ nameRowsF ++ nameRowsG ++
    nameRowsH ++ nameRowsI ++ nameRowsJ ++ nameRowsK ++ nameRowsL ++ nameRowsM ++ nameRowsN ++
    otherNameRowsA

end Ambient.Text
