/-!
# The table of character names

The names and name aliases of the characters of Unicode 14, in the order of their code points, in a
written form that says only how each name differs from the one before it. Names that follow from the
code point (Hangul syllables, numbered ideographs, variation selectors) stand in no table.
-/

set_option autoImplicit false

namespace Bundler.Text.CharacterName

/-- The words that have a code in `entryText`, the most frequent first: 8 with a code of one
character and 1612 with a code of two. -/
def wordText : String := "WITH LETTER SMALL FORM CAPITAL SIGN AND ARROW RIGHT ABOVE LEFT TWO ONE BELOW FINAL DOUBLE MARK DOT
THREE TO BLACK ISOLATED OF WHITE FOUR HOOK STROKE SYMBOL FIVE INITIAL RIGHTWARDS HEAVY MIDDLE
VERTICAL UP SIX EIGHT TIMES MEEM BAR PLUS LEFTWARDS SEVEN DOWN HALF HUNDRED HA NINE BRACKET KA FACE
SQUARE PA CIRCLE DOTS RA YEH OVER THOUSAND LA MA NA YA INDEX ALEF EQUAL HORIZONTAL LIGHT VOWEL SA TA
TILDE DIGIT RING DA DOWNWARDS LOWER TRIANGLE GA BARB LOW ACUTE MEDIUM UPWARDS HAH BA MEDIAL ZERO AA
WEST-CREE UPPER OPEN OR JEEM TURNED LONG TEN CIRCUMFLEX THUMB TONE AI II DASIA HIGH PSILI REVERSED
DIAERESIS AU LINE NGA SHA SINGLE STOP TRIANGLE-HEADED UU ARROWHEAD JA WA CA LARGE GRAVE CHA NYA
INVERTED KHA MACRON MAKSURA POINTING NUMBER ON EAST ROTATED OXIA VARIA COMMA THA BLOCK LESS-THAN NOT
GREATER-THAN STAR VOCALIC CENTRE BREVE HARPOON IN LITTLE PHA TAIL CIRCLED KHAH OLD VA WEST ANGLE
DEGREES GUNU LATIN ORNAMENT FULL SHORT ANUSVARA TTA DDA EN GHA DHA NORTH OO ZA NUN PE ASTERISK CROSS
TRIPLE ASH CARON DIAGONAL NNA BHA OPERATOR PERISPOMENI PUNCTUATION SOUTH DASH EE PARENTHESIS PI
RETROFLEX TENU TOP TTHA FA HE NO SSA TWENTY VIRAMA DDHA DESCENDER DIAMOND OE RR ACCENT COMBINING FOR
NOON DOTTED MU NINETY OMEGA THE WAW YPOGEGRAMMENI END LAM YU HAMZA JHA TE VISARGA CLOSED EQUALS LL
POINTED SQUARED HORN SEVENTY SHE TACK AIN ALPHA AN FIFTY LIGATURE NI QUARTER AE BOTTOM CHESS COLON
CORNER NU SEPARATOR YO CANDRABINDU CROSSING FROM HAND HITTING IOTA REH BENT DANDA KAF ME MODIFIER NE
QUOTATION SHIN TSA BOLD CEDILLA HEART HEH MI ORKHON PALATAL QUESTION YI YUS DIGRAPH GLOTTAL
HAND-FIST HI KNIGHT LLA PROSGEGRAMMENI TAH UPSILON VERY YENISEI BOX EIGHTH GAR NEO RHO RO SEEN CURLY
EPSILON EXCLAMATION HO IGI MOON QAF RAISED SIDE SIGMA SUBSET WE COPTIC GREEK KO NUKTA PHI SO THETA
TU UNDERBAR AT CHE CHI EQUILATERAL FINGERS LU RIGHT-POINTING SCRIPT SECTION SHELL SOLIDUS STRAIGHT
SUPERSET WO ALTERNATE CONSONANT DAGESH DISH FEH OVERLAY SAD SANS-SERIF SI UE CURL DE EL GAMMA GI
LEAF MO NEUTRAL REVERSE RU SE SHAFT SLANTED SPACE THIRTY TRIANGULAR VARIANT WAVE WI ZE ZHA ETA EYES
KE KI MAN MOUTH SU BEH DELTA DO KU LEFT-POINTING LO NOTE QA RRA ARABIC ARCHAIC ARCHAION BAD BETA BU
DAD DI FRACTION HEAD INSIDE INTEGRAL MEM NG SHEEN TEH TONOS UD ABBREVIATION ALTERNATING
ANTICLOCKWISE CONJOINED CURVE EM ESH FORTY FORWARD GAN2 GHE HAND-HINGE INSULAR KAPPA KING LI LOOP
MINUS OMICRON PO RE REST SPOKED TAU TI TORTOISE ALEPH BETH BETWEEN GHAIN HAND-CIRCLE HEARTS IE
INTERSECTION KUR LEG PSI RI SIXTY SMILING SOUND SYLLABLE UNION ALMOST ARC ARROWS AVAGRAHA CHARACTER
DU GIMEL GISH GU HINGED IOTIFIED KAPH KOMI NEGATIVE OUT PAP PERSON QUEEN SAMEKH SHAD SLASH TAK4 TAW
THO VE YE ZHE BE BI C-SIMPLIFIED CAN CANDRA EIGHTHS EIGHTY EQUIVALENT ER HETH IDEOGRAPHIC KOET
LAMEDH LE LENGTH OBLIQUE OGONEK QUADRANT QUARTERS ROC SADHE SHADE TSHA WORD XA XI YODH ZAIN AS BIG
BULLET CLUBS CYRILLIC DAL DIALYTIKA DIAMONDS DOTLESS EARTH FILL HU LAMDA MGO NYI QUAD SHU SOFT
SPADES THROUGH TIP TSE TWELVE UP-POINTING ZAYIN CIRCLES CLOCKWISE CROSSED DASHED DZA ET GO GUD ICHOS
KASRA LOGICAL LOZENGE MAI MULTIPLE MUSICAL OM OVERBAR POINT PRECEDES PRODUCT PU RED RESH RISING
SHADOWED SPREAD SUCCEEDS SUPERSCRIPT THIRD U2 WATER ZETA AH ANG AY AYIN BACK BALL BISHOP BO BY CAT
CHECK CO DOWN-POINTING ELEVEN ENG FATHA FE FLAG FO HAND-ANGLE HYPHEN JE KASKAL KRYZHEM LAGAB
MOVEMENT-FLOORPLANE MOVEMENT-WALLPLANE NOTEHEAD OCLOCK PAWN POVYSHE PRIME ROOK ROUND RTAGS SEMICOLON
TABULATION TEDUNG TELEPHONE THEH WRIST Y-CREE YANG ZO ZU BELT CARRIER CLICK CURVED DOUBLE-STRUCK ES
FI FIFTEEN FIRE ITALIC JO KATAKANA MULTIPLICATION MURDA NOR PHO QUADRUPLE SALTIRE SET SHAN SHO
SIMALUNGUN SUN TSHEG TWO-HEADED WALL WIND WU YERU ZAH ALPAPRAANA AM ARABIC-INDIC ASH2 BARRED BESIDE
BIRGA BUR BUT CARET DALETH DAMMA DOES EF EH ELEMENT FISH FLEX FLOOR HANGUL HARD INVERSE ITERATION
LAL LEFT-STEM LUNATE MAHAAPRAANA NASKAPI NORMAL NUMERAL ROUNDED SALT SCHWA SHAR2 SIXTEEN SVARITA
TETH TEXT TICK TONE-2 TONE-5 TREE TWELFTHS VO VOICED WAVY YIG YOD APOSTROPHE BAMBOOS BUBBLE CEILING
CHARACTERS CHO CIEUC CONTROL CROSSED-TAIL CRYPTOGRAMMIC EIGHTEEN ENVELOPE ESH2 EYE EZH FILLER FIRST
GAD GESH2 HAA HANDS HHA HORSE IEUNG IMAGE KAREN KEY LARGEST LENTICULAR LUM MADDA MEN NOTCHED NUBIAN
NYO PAGE PEE PINWHEEL RHA SAYISI SIDEWAYS START STEM SUIT TAB TAI THIRDS TONE-3 UNDER VINE YAT YIN
ABKHASIAN AMPERSAND ANO BACKHAND BEGIN BLUE BUD CAR CENTRED CHIEUCH COMPRESSED CONTAINS CRESCENTS
DIALECT-P DIVISION DODEKATA DRAGON DZE ELLIPSIS ETH EXTENDED EXTENSION FINGER FOURTEEN FRONT GREEN
HIEUH ICE INDEPENDENT INDICATOR JOT KAK KHIEUKH KIYEOK LHA LONSUM MAHAPRANA MALE MARKER MIEUM
MOUNTAIN MOVEMENT MUSH NIEUN NINETEEN NIZKO NJE NOTATION OPPOSING OVERLINE PAIRED PALI PARALLEL
PARTIAL PHIEUPH PIECE PIEUP QOPH RIEUL SAL SASAK SECANT SEVENTEEN SHEI SHESHIG SIOS STAFF STATERS
SUBGROUP SUBUNIT SVETLAYA THIEUTH THIRTEEN THORN THOUSANDS TIKEUT TUG2 TURNSTILE USH VEE WOMAN
ZAPYATAYA ZIGZAG AIRPLANE ALI BACKSLASH BALLOT BBA CHEST CONTAINING DIPLI DOLLAR EMPTY FALLING FARSI
FEE FISHHOOK FITA FOLDER GAL GALI GAN HAIR HAT HEEL INFORMATION JAPANESE JOINER KATO KET KHO
KLYUCHEVAYA LAGAR LIPS LLLA MALO MASH MFON MID MILLIONS MON MOUSE NGO ODD ORE OUTLINED PLACE
PLASTICS POWERS RAIN RECTANGLE RUPEE SECOND SEE SHIMA SHOE SHU2 SIDDHAM SIMILAR SLOAN SPEECH
SUBSCRIPT SUKUN TAA TALENTS TAM TAMIL TAR TEARDROP-SPOKED TET THAL THEN THI TONE-4 TONGUE TSI TUAREG
VERTICALLY WITHIN WRINKLED AEN ANTIMONY AREA ATTACHED BABY BARLINE BEE BELL BET BOOK BOW BRIDGE
BROKEN BUTTON CLEF CLOUD CONTACT COPPER CORNERS CRESCENT CUPPED DAGGER DEE DEVICE DIFFERENTIAL DIGA
DIGAMMA DIVIDER DOG DOUBLE-LINE DUG EAR ECH ENY EQUIHOPPER ERIN2 EVEN EXTREMELY FATHATAN FEED FEMALE
FILE FLAT FTHORA GAF GANGIA GGA GIR2 GLASS GREAT HAND-CUP HAR HIRAGANA HOLDING HOOKED HORI HUMP
INFINITY IOTATED IZHE IZHITSA JEE JIHVAMULIYA KAI KAN KAVYKA KEHEH KHAMTI KHEI KHOKHLOM KOPPA KU3
LOO LU3 MATHEMATICAL MBAA MEASURE MONOGRAM N-ARY NAA NABLA NARROW NDA NEW NHA NOSE ORANGE PAD PEH
PEN PWO RAE RAYS SAG SAMPI SAN SAR SCISSORS SHADDA SHARP SHI SHWE SINGLE-LINE SIXTEENTH STILE
SUBJOINED SUBSTITUTION SUM SUNG SWASH TEE THAN THESPIAN TIE TOO UPADHMANIYA VAV VOLAPUK VRACHY
VYSOKO WIGGLY YAA YEE ZAPYATOY ALAYHE ANUDATTA APPROXIMATELY ARMENIAN BAN2 BASSA BLACK-LETTER BOARD
BREATHY BUILDING BURU CARD CHARIOT CHRIVI CIRCULAR CLOSING COMMERCIAL CUBED CURRENCY DAMMATAN DISK
DRUM DZHA FENCE FLOURISH FLOWER GEMINATION GEORGIAN GESHU GORAZDO HAND-HOOK HAND-OVAL HENG HOUSE
IDEOGRAM INTERROBANG JOINED KASRATAN KATAKANA-HIRAGANA KENTIMATA KEYBOARD KIRGHIZ KISIM5 KNIFE KSSA
KUSHU2 LEFT-TO-RIGHT LOGOGRAM MANCHU MARK-1 MARK-2 MEASURED MEDAL MONKEY MYSLITE NAME NEITHER
NEPOSTOYANNAYA NGGA NJEE NNNA NOTES OJIBWAY ONCOMING OPENING ORIGINAL PALM PARAGRAPH PENTAGON
PERCENT POINTER POLE REPEAT RETURN RICE ROCKET ROMAN ROOT ROTATION-FLOORPLANE ROTATION-WALLPLANE
ROTUNDA SANDHI SCREEN SEMICIRCLE SEMIDIRECT SHARU SHIFT SUBLIMATE SYRIAC TALL THAA THEE TINY TONE-1
TRAFFIC TURTLE U-SHAPED UMBRELLA UNIT URUDA VARIATION VEDIC WIDE WIDTH WITHOUT YELLOW ACKNOWLEDGE
ALAYHI APPROXIMATE ARROW-TAIL ARROWHEADS AS-SALAAM BALAG BARREE BOTTLE CANCEL CANCELLATION
CENTRALIZATION CHAR CHART CHECKER CHIN CHROMA CLOCK CUATRILLO DALET DDDA DEGREE DELIMITER DEZH
DOUBLED DZELO EGYPTOLOGICAL EKFONITIKON ELECTRIC ELLIPSE ESCAPE ETHIOPIC EXTRA-HIGH EXTRA-LOW
FEATHER FIGURE FINGER-POST FLATTENED FLOPPY FLORETTE FOURTH FROWNING GHAN GHUNNA GOAL GROMNAYA
GROMOPOVODNAYA HAMMER HAND-CLAW HEADED HEAVEN HELMET HOURGLASS HYPHEN-MINUS IDENTICAL IDEOGRAPH
ISOLATE ISOSCELES J-SIMPLIFIED JHAN JOKER KENTIMA KHAR KLASMA KNUCKLE KRYZH LAING LAMED LEFT-FACING
LENGTHENER LIGHTNING LOTUS LUGAL MCHU MEMBER MIDDLE-WELSH MOBILE MONOCULAR MYANMAR NIEUN-CIEUC
NIEUN-HIEUH NIGHT NIKOLSBURG NTEUM NYIS OBOLS PAPER PARENTHESIZED PATAH PENCIL PENTAGRAM PERFECTA
PHAR PIEUP-SIOS POLICE POSITION POSTAL POUND POVODNAYA PRESENTATION PROSTAYA QAMATS QUILL RADICAL
RAFE RAILWAY RDEL RECEIVER RELATION RIBBON RIEUL-HIEUH RIEUL-KIYEOK RIEUL-MIEUM RIEUL-PIEUP
RIEUL-SIOS RIGHT-FACING RIGHT-SHADOWED RIGHT-TO-LEFT RUDIMENTA SANYAKA SATANGA SEBATBEIT SEQUENTIAL
SERIFS SHAKING SHHA SHOGI SHOULDER SILHOUETTE SIMPLIFIED SIXTEENTHS SKEWED SKLIRON SNAKE SPIRAL
SQUARES SQUIGGLE SSANGCIEUC SSANGKIYEOK SSANGPIEUP SSANGSIOS SSANGTIKEUT STICK SUBLINEAR SUMMATION
SVASTI SWEAT TATWEEL TCHEH TELEGRAPH TESH THIN TIGER TIKHAYA TILTING TITLO TOGETHER TONE-6 TONE-8
TOOTH TOPBAR TRANSMISSION TRESVETLAYA TRIDENT TROMIKON TWENTY-FIVE UDATTA WESTERN WHEEL WYNN YFESIS
ZHAR -KHYIL AELA-PILLA AFRICAN ALTERNATIVE ANGLED AROUND ASHGAB BACK-TILTED BACKSLANTED BAHAR2
BALLOON BALLOON-SPOKED BAMBOO BAYANNA BILABIAL BLACKFOOT BOWTIE BRANCH BUBBLES CALENDAR CAMERA
CANADIAN CASTLE CHRISTMAS CHRONON CLOTHES COMPLETION COMPOSITION COMPUTER CONSTRUCTION CONTAIN
CONTOUR COVERING CREDIT CRYING CURRENT CURVING DANTAJA DAYANNA DDAYANNA DECIMAL DELETE DENTAL
DEPARTING DESCENDING DEVANAGARI DIATONIKI DIRECT DIVIDE DIVIDED DJERVI DOCUMENT DRACHMA DVOECHELNAYA
ELEPHANT ENCLOSURE EPIDAUREAN ETERNITY EYEGAZE-WALLPLANE FACTOR FIFTHS FLEURON FLORAL FLYING
FORTY-FIVE FRONT-TILTED FUNCTION GATHERING GAYANNA GAYANUKITTA GLAGOLI GORGON GRANTHA GRINNING
HALANTA HAND-CURLICUE HAND-FLAT HEADSTROKE HERMIONIAN HEXAGON HUNDREDS IMPERFECTA INCREASE INSERTION
INTRODUCER JAYANNA JEGOGAN JONGSEONG KAPYEOUNMIEUM KAPYEOUNPHIEUPH KAPYEOUNPIEUP KATHAKA KISSING
KIYEOK-SIOS KNUCKLES KOMBUVA KOREAN KORONIS LEADER LEATHER LEERAEWA LEFT-SHADED LETTERS LJUDIJE
LOCATION MACHINE MAEMBA MANDAILING MARBUTA MIEUM-PIEUP MIEUM-SIOS MILITARY MONOGRAPH MRACHNAYA
MULTIMAP MUURDHAJA N-CREE NASALIZATION NIEUN-SIOS NIEUN-TIKEUT NINDA2 NO-BREAK OFFICE OPEN-HEADED
OPPOSITION OTTAVA OVERLAID OVERLAP OVERLAPPING PALAUNG PANSIOS PARAGRAPHOS PARAKALESMA PARAKLITIKI
PARENTHESES PERPENDICULAR PICTURE PIEUP-CIEUC PIEUP-SIOS-TIKEUT PIEUP-TIKEUT PLACEHOLDER POKOJI
POLISH POUTING PRAM-BEI PRAM-BUON PRAM-MUOY PRAM-PII PRISHTHAMATRA PRIVATE PURPLE PUSHPIN RECORD
RECYCLING REFORMED REPETITION RIEUL-PHIEUPH RIEUL-THIEUTH RIEUL-TIKEUT RIGHT-SHADED ROSETTE RUNNING
SAFETY SAYANNA SCHOOL SEGMENT SELECTOR SEMI-VOICED SEMICIRCULAR SHADED SHIELD SHORTS SIOS-CIEUC
SIOS-KIYEOK SIOS-PIEUP SIOS-TIKEUT SIXTY-FOURTH SLEEPING SLIGHTLY SNOWFLAKE SNOWMAN SOGDIAN SOURCE
SPACING SPIRIT SSANGIEUNG SSANGNIEUN STIGMA STRANNO STRELA STRESS STRETCHED STRING STROKES
SUBSTITUTE SULFUR SUPRALINEAR SUSPENSION SYLLABICS SYMBOLS TARGET TESSERA THIRTY-FIVE THIRTY-SECOND
THOUGHT THREAD THUNDER TIBETAN TONE-7 TOP-LIGHTED TRANSPOSITION TROEZENIAN TVRIDO TWENTY-TWO
UKRAINIAN UNIFIED UPTURN VULGAR WAITING WHEELCHAIR WOMANS YAJURVEDIC YEORINHIEUH YESIEUNG ZEMLJA
ZHIVETE AEDA-PILLA ANTARGOMUKHA ANTIMONIATE ANTIRESTRICTION APPLICATION ARDHAVISARGA ARGOSYNTHETON
ASTROLOGICAL ASYMPTOTICALLY BLACK-FEATHERED BLACKLETTER BYELORUSSIAN-UKRAINIAN CLUSTER-INITIAL
CONGRATULATION CONSECUTIVE CULTIVATION DEMESTVENNY DENOMINATOR DIMINUTION-1 DIRECTIONAL DISAPPOINTED
DOACHASHMEE DOUBLE-LINED DROP-SHADOWED DVOECHELNOPOVODNAYA EIGHTIETHS EPENTHETIC EYEGAZE-FLOORPLANE
FIXED-FORM GAETTA-PILLA GEOMETRICALLY GROMOKRYZHEVAYA HALF-CIRCLE HEART-SHAPED HIGH-REVERSED-9
HOMOTHETIC HYPHENATION IDENTIFICATION IDEOGRAPH-4E09 IDEOGRAPH-4E8C IDEOGRAPH-6253 IEUNG-KIYEOK
INTEGRATION INTERPOLATION JUSTIFICATION KAPYEOUNRIEUL KAPYEOUNSSANGPIEUP KHAKASSIAN
KLYUCHENEPOSTOYANNAYA KNIGHT-BISHOP KNIGHT-QUEEN KNIGHT-ROOK LOCKING-SHIFT LOW-FALLING MEDEFAIDRIN
MIEUM-KIYEOK MIEUM-PANSIOS MONOGRAMMOS NAASIKYAYA NIEUN-KIYEOK NIEUN-PANSIOS
ONE-HUNDRED-AND-SIXTIETH PAMPHYLIAN PARALLELOGRAM PARESTIGMENON PARTNERSHIP PERCUSSIVE PHARYNGEAL
PHIEUPH-PIEUP PIEUP-CHIEUCH PIEUP-HIEUH PIEUP-KIYEOK PIEUP-PHIEUPH PIEUP-SIOS-KIYEOK PIEUP-THIEUTH
PIPAEMGBIEE PREPONDERANCE RECTANGULAR RECTILINEAR REDUPLICATION REPLACEMENT RIEUL-KAPYEOUNPIEUP
RIEUL-KHIEUKH RIEUL-KIYEOK-SIOS RIEUL-NIEUN RIEUL-PANSIOS RIEUL-PIEUP-SIOS RIEUL-SSANGKIYEOK
RIEUL-YEORINHIEUH SALLALLAHOU SIOS-CHIEUCH SIOS-THIEUTH SSANGRIEUL SYNCHRONOUS TETARTIMORION
THERMOMETER TIGHTLY-CLOSED TIKEUT-CIEUC TIKEUT-KIYEOK TIKEUT-PIEUP TIKEUT-RIEUL TIKEUT-SIOS
TRITIMORION TWENTIETHS TWENTY-EIGHTH TWENTY-FOUR TWENTY-THREE TWO-CIRCLE WAW-AYIN-RESH WEDGE-TAILED
WIDE-HEADED YESIEUNG-PANSIOS YESIEUNG-SIOS"

/-- The entries of the table.

An entry opens with the number of words that its name shares with the beginning of the name before
it, written as one of `sharedMarks`, and goes on with the other words of the name. A word is written
by its code or, if it has none, by its letters; a space or a line end stands between two words that
are written by letters. An entry names the code point after the one before it, unless an at sign and
a hexadecimal number stand in front and say another. -/
def entryText : String := "@20!fD!eJai!ecai!b6^!m6^!rk^!lE!kN!acc2!aac2!cO!aG^!cc!sM!cBbQ!fc!bcbr$ae$ad$ak$aq$au$aB$aI$aC$aN!dU
!jn!cf^!dC^!ch^!emai!qte2!cz?;A&B&C&D&E&F&G&H&I&J&K&L&M&N&O&P&Q&R&S&T&U&V&W&X&Y&Z!acaRaO!fyfc!aaaRaO
!bBdj!bkbM!bYdj!cz<;A&B&C&D&E&F&G&H&I&J&K&L&M&N&O&P&Q&R&S&T&U&V&W&X&Y&Z!aceHaO!azbM!aaeHaO!bb@A0!wE
fD!b1eJai!CENT^!tu^!qv^!YEN^!opaF!fa^!bK!COPYRIGHT^!FEMININE ORDINALl6!fWahcwecai!cg^!iai8!
REGISTERED^!b3!sg^!PLUS-MINUS^!iJad$ak!bldj!MICRO^!PILCROW^!ayaj!eg!iJae!MASCULINE ORDINALl6!e8ahcw
ecai!ycf9aedQ&aK%akhJ!b1emai!cz?;A:bY)bl)bB)bb)bK)bdab&dR&C:eg&E:bY)bl)bB)bK&I:bY)bl)bB)bK&lW&N:bb&O
:bY)bl)bB)bb)bK!jJ^!cz?;O:as&U:bY)bl)bB)bK&Y:bl&mO$<;pOS&A:bY)bl)bB)bb)bK)bdab&dR&C:eg&E:bY)bl)bB)bK
&I:bY)bl)bB)bK&lW&N:bb&O:bY)bl)bB)bb)bK!lR^!cz<;O:as&U:bY)bl)bB)bK&Y:bl&mO&Y:bK$?;A:b3$<;A:b3$?;A:cl
$<;A:cl$?;A:hH$<;A:hH$?;C:bl$<;C:bl$?;C:bB$<;C:bB$?;C:ajab$<;C:ajab$?;C:cS$<;C:cS$?;D:cS$<;D:cS$?;D:
as$<;D:as$?;E:b3$<;E:b3$?;E:cl$<;E:cl$?;E:ajab$<;E:ajab$?;E:hH$<;E:hH$?;E:cS$<;E:cS$?;G:bB$<;G:bB$?;
G:cl$<;G:cl$?;G:ajab$<;G:ajab$?;G:eg$<;G:eg$?;H:bB$<;H:bB$?;H:as$<;H:as$?;I:bb$<;I:bb$?;I:b3$<;I:b3$
?;I:cl$<;I:cl$?;I:hH$<;I:hH$?;I:ajab$<;h1I$?dOIJ$<dOIJ$?;J:bB$<;J:bB$?;K:eg$<;K:eg&KRA$?;L:bl$<;L:bl
$?;L:eg$<;L:eg$?;L:cS$<;L:cS$?;L:ayaj$<;L:ayaj$?;L:as$<;L:as$?;N:bl$<;N:bl$?;N:eg$<;N:eg$?;N:cS$<;N:
cS(PRECEDEDiWkN$?;i2$<;i2$?;O:b3$<;O:b3$?;O:cl$<;O:cl$?;O:ahbl$<;O:ahbl$?dOdh$<dOdh$?;R:bl$<;R:bl$?;
R:eg$<;R:eg$?;R:cS$<;R:cS$?;S:bl$<;S:bl$?;S:bB$<;S:bB$?;S:eg$<;S:eg$?;S:cS$<;S:cS$?;T:eg$<;T:eg$?;T:
cS$<;T:cS$?;T:as$<;T:as$?;U:bb$<;U:bb$?;U:b3$<;U:b3$?;U:cl$<;U:cl$?;U:bdab$<;U:bdab$?;U:ahbl$<;U:ah
bl$?;U:hH$<;U:hH$?;W:bB$<;W:bB$?;Y:bB$<;Y:bB$?;Y:bK&Z:bl$<;Z:bl$?;Z:ajab$<;Z:ajab$?;Z:cS$<;Z:cS&bzS&
B:as$?;B:ar)uv$<;B:uv$?;bDaB$<;bDaB$?;bvO&C:ar$<;C:ar$?;uJD&D:ar)uv$<;D:uv&byfT$?;bJE&kx&bvE&F:ar$<;
F:ar$?;G:ar&ft$<;HV$?;d4&I:as&K:ar$<;K:ar&L:aF&LAMBDA:as$?;byM&N:acar$<;N:bzaagS$?;O:aybb)dG$<;O:dG$
?;OI$<;OI$?;P:ar$<;P:ar$;YR$?;bDad$<;bDad$?;gp$;bJgpgz$<;T:elar$?;T:ar$<;T:ar$?;T:c4ar&U:dG$<;U:dG$?
;ex&V:ar&Y:ar$<;Y:ar$?;Z:as$<;Z:as$?;k1(bJ$<;k1bJ(:cq$;ad:as$?;bDau$<;bDau$;b1eqbQ:as%uE%vnjz%
LATERALjz%ALVEOLARjz%c4jz$?;DZ:cS&D:<;Z:cS$<;DZ:cS$?;LJ&L:<;J$<;LJ$?;NJ&N:<;J$<;NJ$?;A:cS$<;A:cS$?;I
:cS$<;I:cS$?;O:cS$<;O:cS$?;U:cS$<;U:cS$?;U:bK_b3$<;U:bK_b3$?;U:bK_bl$<;U:bK_bl$?;U:bK_cS$<;U:bK_cS$?
;U:bK_bY$<;U:bK_bY&byE$?;A:bK_b3$<;A:bK_b3$?;A:ajab_b3$<;A:ajab_b3$?;dR:b3$<;dR:b3$?;G:as$<;G:as$?;G
:cS$<;G:cS$?;K:cS$<;K:cS$?;O:hH$<;O:hH$?;O:hH_b3$<;O:hH_b3$?;k1:cS$<;k1:cS&J:cS$?;DZ&D:<;Z$<;DZ$?;G:
bl$<;G:bl$?;HWAIR&uE&N:bY$<;N:bY$?;A:bdab_bl$<;A:bdab_bl$?;dR:bl$<;dR:bl$?;O:as_bl$<;O:as_bl$?;A:ah
bY$<;A:ahbY$?;A:b1cl$<;A:b1cl$?;E:ahbY$<;E:ahbY$?;E:b1cl$<;E:b1cl$?;I:ahbY$<;I:ahbY$?;I:b1cl$<;I:b1
cl$?;O:ahbY$<;O:ahbY$?;O:b1cl$<;O:b1cl$?;R:ahbY$<;R:ahbY$?;R:b1cl$<;R:b1cl$?;U:ahbY$<;U:ahbY$?;U:b1
cl$<;U:b1cl$?;S:ccaf$<;S:ccaf$?;T:ccaf$<;T:ccaf$?;YOGH$<;YOGH$?;H:cS$<;H:cS$?;N:bzaagS$<;D:fq$?;OU$<
;OU$?;Z:ar$<;Z:ar$?;A:ajab$<;A:ajab$?;E:eg$<;E:eg$?;O:bK_b3$<;O:bK_b3$?;O:bb_b3$<;O:bb_b3$?;O:ajab$<
;O:ajab$?;O:ajab_b3$<;O:ajab_b3$?;Y:b3$<;Y:b3&L:fq&N:fq&T:fq&h1J&DBep&QPep$?;A:as&C:as$<;C:as$?;L:aF
&T:cTas$<;S:pYcq&Z:pYcq$?;eqbQ$<;eqbQ$?;B:as&UaF&byV&E:as$<;E:as$?;J:as$<;J:as$?;<Q:arcq$<;Q:arcq$?;
R:as$<;R:as$?;Y:as$<;Y:as&byA&dL&bydL&B:ar&bvO&C:fq&D:cq)ar&bJE&kx(:ar&bvE&bJbvE*:ar&dBbJbvE&h1J:as&
G:ar&e9G$;<?G$<;ft&RAMSdG&byH&H:ar&qJ:ar&I:as&d4$;<?I$<;L:aybb)jx)c4ar&LEZH&byM):bzgS&M:ar&N:acar)c4
ar$;<?N$<;j5O$;<?dh$<;dBdq&eX&byR):bzgS*ar&R:bzgS)cq)nb&bJR:nb$;<?R(b1R$<;S:ar&gp&h1J:as_ar&SQUATbJ
gp&gp:fq&byT&T:c4ar&UaF&ex&V:ar&byV(W(Y$;<?Y$<;Z:c4ar)fq&k1(:fq$;eqbQ%zqkJFRICATIVE%b1eqbQ%xMC%uVjz%
<?B$<;dBbvE$;<?G:ar(H$<;J:kV&byK$;<?L$<;Q:ar$;eqbQ:as%bJeqbQ:as$<;DZep&siep&DZep:fq&TSep&ulep&TCep:
fq&FENGep&LSep&LZep$;uVzp%BIDENTALzp$<;byH:nb+_cq!ea;<H(:ar&J&R&byR):ar&?b1R&W&Y%jj%ahjj%bycc%kN%bJ
cc%aaaKbd%acaKbd%eqbQ%bJeqbQ%acbT%aabT%aAbT%aJbT%bBdj!cS!ea;azbM%b3%bldj%bYdj%bkazbM&b3&bYdj&bldj%fF
dU%aKfFdU%lLaaaKbd&acaKbd%aAdJ%aJdJ%aG^%gA^!cl!ajab!bdab!hH!<bb!ahbldj!ea;RHOTICar%cPdj%<ft&L&S&X&bJ
eqbQ%srbDaF%bHbDaF%nxbDaF%bkbDaF%ssbDaF%lCvobDai%juvobDai%VOICING%UNASPIRATED%ahkN%bkaJbT&aAbT&acbT&
aabT&bd%aybYdj&ahbYdj(bldj%bkbb%eOdU%lHbHbD%dubHbD%lHbkbD%dubkbD%SHELF%bvSHELF%bkac|!dkbYdj$bldj$bB
dj$bb$b3$mq$cl$ajab$bK$arab$bdab$ahbldj$cS$azbMab$ahazbMab%bYdj$dZ$b1cl$byccab$ccab$bJccab$ccabaa$bY
djaf$bldjaf$acdJaf$aadJaf$accwab$dG$acaKbdaf$aAdJaf$aJdJaf$aG^af$gA^af$PALATALIZEDaraf$c4araf$ajaf$
bKaf$bdaf$ccaf$eg$hH$azbMaf$ooaf$b1ahARCHaf$cSaf$bBdjaf$claf$b1claf$bbaf$b3af$bkbM$ahbkbM$bbfl$cCas
fl$bzasfl$cCfcfl$bzfcfl$aaaKbdaf$b1ooaf$aRaf$SEAGULLaf$Xab$azbb$ahmq$bYbDai$blbDai$eUcX%wg%hZgh%dt$
ooab$dC^af$ahazbMaf$accwaf$cgbbab$yUab$g0a5alab$acaa|af$bn|af$GRAPHEMEnm$aabTab$acaKbdab$FERMATA$Xaf
$acbTaf$aabTaf&_aAbTaf%aKbdab$ajabaa$cOaf$ahbdaf$mXab$ahclaf&%b3&af%bb%b1cl%aw|af$cz<;A(E(I(O(U(C(D(
H(M(R(T(V(X!eU?;HETA$<;HETA$?;f2pJ$<;f2pJ$ku^$bgku^$?;zloD$<;zloD@37A$dt$<bJkqeQat%dnkqeQat%bJdnkqeQ
at$emai$?;YOT@384$gh$hZgh$?;dL:gh$lFTELEIA$?;eI:gh&fL:gh&d4:gh@38C&gB:gh@38E&ex:gh&dq:gh$<;d4:hZ_gh$
?;dL&f5&ft&fT&eI&iN&fL&eZ&d4&gw&h5&do&dW&hQ&gB&c3&eE@3A3&eQ&gG&ex&eX&e4&gT&dq&d4:hZ&ex:hZ$<;dL:gh&eI
:gh&fL:gh&d4:gh&ex:hZ_gh&dL&f5&ft&fT&eI&iN&fL&eZ&d4&gw&h5&do&dW&hQ&gB&c3&eE&ageQ&eQ&gG&ex&eX&e4&gT&
dq&d4:hZ&ex:hZ&gB:gh&ex:gh&dq:gh$?peat$f5at$eZat$ex:arat&bl_arat&bK_arat$eXat$c3at$peat$;f2pl$<;f2pl
$;xI$<;xI$;oD$<;oD$;pl$<;pl$;pJ$<;pJ!eT?;mE$<;mE$?;FEI$<;FEI$?;pj$<;pj$?;o6$<;o6$?;oW$<;oW$?;nN$<;nN
$?;DEI$<;DEI!eUgwat$eEat$kqeQat$;YOT$?eZat$kqeIat$bJkqeIat$?;jR$<;jR$?kqeQat%;pK$<;pK$eE:asat$?bJkq
eQat%dnkqeQat%bJdnkqeQat!hX?;gP:bY&IO&DJE&GJE&x9gP&lU&ywI&en&i9&LJE&mn&TSHE&KJE&I:bY&cCU&DZHE&A&hr&
ho&gt&fr&gP&hq&fJ&I&cCI&aP&fs&go&cG&O&cN&hz&jC&dz&U&ke&aM&ie&e3&bO&SHCHA&kl^&jZ&ia^&E&dw&a2$<;A&hr&
ho&gt&fr&gP&hq&fJ&I&cCI&aP&fs&go&cG&O&cN&hz&jC&dz&U&ke&aM&ie&e3&bO&SHCHA&kl^&jZ&ia^&E&dw&a2&gP:bY&IO
&DJE&GJE&x9gP&lU&ywI&en&i9&LJE&mn&TSHE&KJE&I:bY&cCU&DZHE$?;dq$<;dq$?;lB$<;lB$?;haE$<;haE$?;coeo$<;co
eo$?;hacoeo$<;hacoeo$?;hUeo$<;hUeo$?;hahUeo$<;hahUeo$?;KSI$<;KSI$?;gT$<;gT$?;nc$<;nc$?;pb$<;pb$?;pb:
ahbYdj$<;pb:ahbYdj$?;UK$<;UK$?;jldq$<;jldq$?;dq:uq$<;dq:uq$?;OT$<;OT$?;pl$<;pl$mP^!dkhXuq%
PALATALIZATION%bGPNEUMATA%bIPNEUMATA%POKRYTIE%aLmP^%ny^!hX?;cCI:cq$<;cCI:cq$?;SEMISOFT^$<;SEMISOFT^$
?;hz:kD$<;hz:kD$?;gt:yb$<;gt:yb$?;gt:as$<;gt:as$?;gt:ayar$<;gt:ayar$?;hq:df$<;hq:df$?;fJ:df$<;fJ:df$
?;aP:df$<;aP:df$?;aP:azas$<;aP:azas$?;aP:as$<;aP:as$?;BASHKIRaP$<;BASHKIRaP$?;cG:df$<;cG:df$?dOcGgt$
<dOcGgt$?;cN:ayar$<;cN:ayar$?;lDaM$<;lDaM$?;jC:df$<;jC:df$?;dz:df$<;dz:df$?;fdU$<;fdU$?;fdU:as$<;fdU
:as$?;aM:df$<;aM:df$?dOdzie$<dOdzie$?;e3:df$<;e3:df$?;e3:azas$<;e3:azas$?;tW$<;tW$?;lDe3$<;lDe3$?;lD
e3:df$<;lDe3:df$;PALOCHKA$?;hq:cl$<;hq:cl$?;aP:ar$<;aP:ar$?;fs:cq$<;fs:cq$?;cG:ar$<;cG:ar$?;cG:cq$<;
cG:cq$?;y6e3$<;y6e3$?;go:cq$<;go:cq&PALOCHKA$?;A:cl$<;A:cl$?;A:bK$<;A:bK$?dOAgP$<dOAgP$?;gP:cl$<;gP:
cl$?;kx$<;kx$?;kx:bK$<;kx:bK$?;hq:bK$<;hq:bK$?;fJ:bK$<;fJ:bK$?;lDlU$<;lDlU$?;I:b3$<;I:b3$?;I:bK$<;I:
bK$?;O:bK$<;O:bK$?;j5O$<;j5O$?;j5O:bK$<;j5O:bK$?;E:bK$<;E:bK$?;U:b3$<;U:b3$?;U:bK$<;U:bK$?;U:ahbl$<;
U:ahbl$?;e3:bK$<;e3:bK$?;gt:df$<;gt:df$?;jZ:bK$<;jZ:bK$?;gt:as_ar$<;gt:as_ar$?;aM:ar$<;aM:ar$?;aM:as
$<;aM:as$?;hcfr$<;hcfr$?;hcDJE$<;hcDJE$?;hcZJE$<;hcZJE$?;hcDZJE$<;hcDZJE$?;hcLJE$<;hcLJE$?;hcmn$<;hc
mn$?;hcSJE$<;hcSJE$?;hcTJE$<;hcTJE$?;bJfJ$<;bJfJ$?;fs:ar$<;fs:ar$?;mb$<;mb$?;lp$<;lp$?;YAE$<;YAE$?;
fZ$<;fZ$?;eS$<;eS$?;ALEUTaP$<;ALEUTaP$?;fs:ayar$<;fs:ayar$?;cG:ayar$<;cG:ayar$?;cN:df$<;cN:df$?;tW:
df$<;tW:df$?;cG:acar$<;cG:acar$?;DZZHE$<;DZZHE$?;DCHE$<;DCHE$?;fs:df$<;fs:df@531!qg?;AYB&BEN&GIM&be&
oJ&cL&kf&in&al&hq&INI&LIWN&XEH&bW&KEN&eK&bU&GHAD&CHEH&li&en&NOW&bO&kI&bZ&pD&JHEH&aV&SEH&VEW&TIWN&d5&
iZ&YIWN&PIWR&KEH&OH&fk@559$ea;acaKbd$kN$EMPHASISai$eJai$cc$emai$gjai$<;byAYB&AYB&BEN&GIM&be&oJ&cL&kf
&in&al&hq&INI&LIWN&XEH&bW&KEN&eK&bU&GHAD&CHEH&li&en&NOW&bO&kI&bZ&pD&JHEH&aV&SEH&VEW&TIWN&d5&iZ&YIWN&
PIWR&KEH&OH&fk%dOoJYIWN%;en:as$cBbQ$i8@58D!tMqgvC^!s1qgvC^!qgDRAM^@591!HEBREWdjETNAHTA%SEGOL%
SHALSHELET%ZAQEF QATAN&GADOL%TIPEHA%REVIA%ZARQA%PASHTA%YETIV%TEVIR%GERESH&MUQDAM%GERSHAYIM%QARNEY
PARA%TELISHA GEDOLA%PAZER%ATNAH HAFUKH%MUNAH%MAHAPAKH%MERKHA&KEFULA%DARGA%QADMA%TELISHA QETANA%YERAH
BEN YOMO%OLE%ILUY%DEHI%ZINOR$aiMASORAaT$izSHEVA%HATAF SEGOL&tl&ty%HIRIQ%TSERE%SEGOL%tl%ty%HOLAM&
HASERdlp5%QUBUTS%fibwMAPIQ%METEG$cYMAQAF$iztB$cYPASEQ$izedaj%SINaj$cYSOF PASUQ$aibuaj%bgaj$cYcM
HAFUKHA$iztyQATAN@5D0$;a4%ol%g6%se%c9%p5%ih%HET%n2%kM%agd8%d8%s0%aggd%gd%agcM%cM%hi%iR%agcN%cN%ag
TSADI%TSADI%QOF%iE%ed%TAV@5EF$kMbh$dOYIDDISHahp5&p5kM&ahkM$cYGERESH%GERSHAYIM@600!f1b6^$^SANAH$
FOOTNOTEmf$^SAFHA%SAMVAT$b6aiab!j3CUBErs$szrs!f1RAY!j3PER MILLE^%bAaY^!AFGHANI^!f1cc$DATEdX$POETIC
VERSE^$^MISRA%zMqdWASSALLAM%qdASSALLAM%RAHMATULLAHqd%RADI ALLAHOU ANHU%TAKHALLUS$<bHew&dOa4:dv:aW&hS
%i3%kc%ir$jn$;ai$duaokCai$cQajcYai$emai$;KASHMIRIaW%dx%a4:lhab(dxab%ds:dxab%a4:dxaf%aW:dxab%a4%fS%gg
wr&%jr%bx%bo%cs%hY%n3%d5%hS%eG%gf%fm%f7%ew%j0%dK%gM%ph:adaUab(akaUaf%m9aW:b1V)adaUab)akaUab$ui$;fk%
eN%d8%dv%aE%dm%ei%ds%a4b4%aW$oP$qw$qO$i3$kc$ir$pN$nV$MADDAHab$dxab%af$nUa4$b1kc$aidmsC$ZWARAKAY$a8^<
Vab&b1<Vab&ajaf$bJkc$i3:adaU$kKdxaf!j3bcbr%ae%ad%ak%aq%au%aB%aI%aC%aN!f1rk^$vldX$mPdX$audEci$;h1fS&
eN%iJa4%a4WASLA&:kKdxab*af%bHdx(a4(ds%U:dxab%bHdxaW%TTEH%TTEHEH%BEEH%gg:bd(akaUabbf%pD%TEHEH%BEHEH%
bo:dxab(adaUazab%NYEH%DYEH%bo:akaUab%uj%TCHEHEH%DDAL%hY:bd(ajaf*_<ew%DAHAL%DDAHAL%DUL%hY:akaUabbf(aq
aUab%RREH%d5:<V(bd(ajaf(<Vaf(ajaf_ajab(adaUab%JEH%d5:aqaUab%eG:ajaf_ajab(akaUaf+_akaUab%fm:adaUaf(ak
aUab%ew:akaUab%dK:akaUab%h1fk%fk:ajMOVEDaf)af%VEH%fk:akaUaf%PEHEH%eN:ajab(akaUab%ph%pYd8%d8:bd(ajab%
ge%d8:akaUaf%oV&:bd%NGOEH%oV:adaUaf%GUEH%oV:akaUab%dv:<V(ajab(akaUab*af%dm:ajaf&sC%RNOON%dm:bd(akaU
ab%eiyG%uj:ajab%ei:aWab&sD(:dxab%ggwrsD%ds:bd%qSdh%dh%U%dw%qSdw%ds:adaUab%ho%m9aW%aW:cq(<V%ds:ajab%E
%aW:akaUaf&r2(:dxab$cBbQ$;dR$<bHdOfm:dv:a4b4(eN:dv:a4b4&aEav>&dva4&bx&akaU&eG$duaoAYAH$lsaoRUBfsHIZB
$<bHkvbr&UPRIGHTzAbr&h1gaaocs&aEan>%bkeG%bHlh%ds%aW%bHaW&dm$nFaoSAJDAH$m7ckbkbQ&bHbQ$kvbHbQ:FILLEDck
$<bkaE$;hY:b1V%d5:b1V!lXj3bcbr&ae&ad&ak&aq&au&aB&aI&aC&aN!f1;gf:ajaf%f7:ajaf%gM:ajaf$^SINDHIlE&
POSTPOSITIONli$;ei:b1V!rDduaori$xRcBbQ$uecBbQ$xRdU$uedU$a6dU$dUt2ac&aa$xRdUt2ac$uedUt2aa$CONTRACTION
$HARKLEAN OBELUS%METOBELUS%ASTERISCUS@70F$gjai$;ALAPH%iJALAPH%gK%GAMAL&GARSHUNI%DALATH%h1DALATH RISH
%c9%ds%hS%hA%kB&GARSHUNI%YUDH&c9%hb%LAMADH%MIM%cM%SEMKATH%agSEMKATH%E%cN%bJcN%hL%QAPH%RISH%ed%hm%
PERSIAN BHETH&GHAMAL&DHALATH$PTHAHAab%af%dn$ZQAPHAab%af%dn$RBASAab%af$dnZLAMAa6&ANGULAR$HBASAab%af$
HBASA-ESASAdn$ESASAab%af$RWAHA$FEMININEaj$QUSHSHAYA$RUKKAKHA$adazaUab(af$akaUab&af$hGbMab&af$MUSIC$
BARREKH@74D$;xCZHAIN&KHAPH&i4!f1;fS:akaUHORIZONTALLYaf(ajaf_akaUab(akaUb5bnaf._adaUab(adaUaf_ajab(b1
<Vaf(<V%bo:adaUab(akaUb5bnaf%hY:adaUoaaf_<ew(b1<Vaf%d5:as%eG:aqaUab%dK:adaUab(akaUb5bfab(adaUoaab%fk
:adaUaf(akaUb5bnaf%ph:ajab(akaUab*b5bnaf%aE:ajab)af%dm:adaUaf(<ew)V%dv:aF%d5:adaUoaab(dxab%eG:adaUoa
ab%bo:<f1;ewaf,_adaU%eG:<f1;ew_adaU%d5:<f1;ew_adaU%bo:<f1;ewab%a4:lXj3bcadab+akab%m9aW:lXj3bcadab,ak
ab,aqaf%ds:lXj3bcadab+akab%aWr2:lXj3bcadab,akab%bo:lXj3bcaqaf%eG:lXj3bcaqab(b1V%d8:adaUab!THAANA;k6%
SHAVIYANI%NOONU%RAA%BAA%LHAVIYANI%KAAFU%ALIFU%VAAVU%MEEMU%FAAFU%DHAALU%rF%LAAMU%GAAFU%GNAVIYANI%
SEENU%DAVIYANI%ZAVIYANI%TAVIYANI%qa%PAVIYANI%JAVIYANI%CHAVIYANI%TTAA%HHAA%KHAA%THAALU%ZAA%SHEENU%
SAADHU%DAADHU%al%jv%AINU%GHAINU%QAAFU%WAAVU$ABAFILI$AABAAFILI$IBIFILI$EEBEEFILI$UBUFILI$OOBOOFILI$
EBEFILI$EYBEYFILI$OBOFILI$OABOAFILI$nV$;pu@7C0!NKObcbr%ae%ad%ak%aq%au%aB%aI%aC%aN$;A%c1%I%E%U%cK%O%
DAGBASINNA%N%bp%aS%ba%bU%bZ%be%aV%f0%a9%GBA%c8%aP%aZ%a1WOLOSO%a0%b0%a1%aM%bV%a2%b0WOLOSO%JONAbU&bZ&
aV$dkcCbHbD&bkbD&iFbD%bzvpbD&bHbD&bkbD&iFbD%wAai%ahajab$bHbDkN$bkbDkN$atcKDENNEN%GBAKURUNEN$cc$eJai$
LAJANYALAN@7FD$DANTAYALAN$DOROME^$TAMAN^!SAMARITAN;ALAF%BIT%GAMAN%DALAT%IY%BAA%ZEN%IT%TIT%YUT%KAAF%
LABAT%MIM%cM%SINGAAT%cn%jD%TSAADIY%QUF%RISH%jQ%TAAF$aicn%IN-ALAF%OCCLUSION%fi$ea;yLYUT$aiyLYUT$a8^bz
E&E&OVERLONGbs&bzbs&bs&OVERLONG A&bzA&A$ea;cCA$a8^cCA&bzU&U$ea;I$a8^bzI&I&O&nV$aiNEQUDAA@830$cY
NEQUDAA%AFSAAQ%ANGED%BAU%ATMAAU%SHIYYAALAA$gjai$cYMELODIC QITSA%ZIQAA%QITSA%ZAEF%TURU%ARKAANU%SOF
MASHFAAT%ANNAAU@840!MANDAIC;HALQA%AB%AG%AD%iO%USHENNA%AZ%IT%ATT%AKSA%AK%AL%j2%dM%hT%cn%AP%ASZ%AQ%AR%
cR%e2%DUSHENNA%KAD%dK$AFFRICATIONai$VOCALIZATIONai$qDai@85E$cY@860!rD;MALAYALAMbN&bU&b0&cE&cU&rb&cV&
aV&eu&nt&db@870!f1;a4:ogi3)c6aai3(aaayas(acayas(ogir)dSaair)jlajab)aajlaj)acjlaj)jlajaf(ajab(ogc6aa
i3_ajab(aaayas_ajab(ogdSaair_ajab)c6aai3_acbd(aaayas_acbd(ogdSaair_acbd)aadx)acdx$ui:OVERSTRUCKdx(ds
&adaUaf$;umaW$BASELINEjlaj$eOjlaj$;dm:b1<V%bo:b1<Vaf%ew:ajaf(akaUaf%ph:adaUoaaf$azcq@890$tuaiab$
PIASTREaiab@898$<bHhOAL-JUZ%bkhOISHMAAM(IMAALA(TASHEEL$lhWAAJIB$iJa4MOKHASSAS$sjlh$aKlhaXlh$;fS:<Vaf
(dxab%bx:adaUab%ew:adaUab%fk:ajaf_akaUab%eN:ajaf%dv:ahaF%aE:akaUab%aW:adaUaf_dxab,ajab%d5:gz%ds:ajob
%ROHINGYAaW%bka4%hY:akaUaf%fm:akaUaf%oV:b1as%fdds%hS:b1Vab%dK:akaUaf%d8:ajaf%eN:ajaf_daaUab%fS:<aEab
%pD:<aEab%gg:<ggab%d5:<dmab%aW:adaUaf_<dmab%uJfk&eN&dm%pD:<V%gg:<V%TTEH:<V%uj:<V%ph:<V%gM:akaUab%uJ
eN:akaUab%bx:akaUab*af%dv:<f1;ewab%GRAF$<m9aW%bHm9aW&aWr2:adaUaf&hOSAH&j0$bXjlajab(af$nVaf$bXaTaf%jl
ajgbaTaf$<bkds%bHhOAR-RUB&fm&dK&eN&dm:ir%bkdm:ir%bHhOATH-THALATHA(AS-SAJDA(AN-NISF(SAKTA(QIF(WAQFA&
FOOTNOTEmf&^SAFHA$DISPUTEDduaoAYAH$bykcaf$eHi3%kc%ir%oP%qw%qO$bDaeajab%adaUab%gzab%aeajaf%adaUaf%gz
af$bvoP%qw%qO$<bHds$i3:bd&ajab$ir:ajaf$acbTab$aabTab$acbTaf$aabTaf$ahaabTab):aj$aabTab:aj$kc:aj$ailr
dmsC!vq^b1dZ%dZ%cD%dA$;cCA%A%bs%I%bF%U%bS%cjR&L%hvE%cCE%E%bE%hvO%cCO%O%bL%aP%b2%bi%cH%bN%bW%bZ%bU%dy
%b0%cE%c7%cF%de%cU%ba%cd%be%cI%a1%rb%aS%cp%bp%cV%a0%a2%aV%f0%aZ%eu%nt%cu%bO%db%a9%aM$a8^dh&OOE$^eW%
g3$a8^bs&I&bF&U&bS&cjR(di&hvE&cCE&E&bE&hvO&cCO&O&bL$^dd$a8^w5E&AW$ix$xL^uB&qe$bYdj$bldj$a8^hvbzE&fp&
UUE$;fZ%KHHA%GHHA%cL%DDDHA%lp%c8%YYA%cjdi&dD$a8^cjL(dD$d7$ahd7$bcbr%ae%ad%ak%aq%au%aB%aI%aC%aN$gj^$^
bHxEaj$;hvA%dh%OOE%AW%fp%UUE%MARWARIcF%fK%axa2%oX%JJA%eqbQ%sf%m2!BENGALI ANJI$^dZ%cD%dA@985$;A%bs%I%
bF%U%bS%cjR&L@98F%E%bE@993%O%bL%aP%b2%bi%cH%bN%bW%bZ%bU%dy%b0%cE%c7%cF%de%cU%ba%cd%be%cI%a1@9AA%aS%
cp%bp%cV%a0%a2%aV@9B2%aZ@9B6%bO%db%a9%aM@9BC$^eW%g3$a8^bs&I&bF&U&bS&cjR(di@9C7&E&bE@9CB&O&bL$^dd$;
KHANDAba@9D7$bLhFai@9DC$;f0%lp@9DF%YYA%cjdi&dD$a8^cjL(dD@9E6$bcbr%ae%ad%ak%aq%au%aB%aI%aC%aN$;aV:ay
cT(bgcT$nKai%^$qvNUMERATORae&ad&ak&aq&aeLESSp0dryC%yCkz$ISSHAR$GANDAai$;rQcD$gj^$rwai@A01!GURMUKHI^
ADAK BINDI%BINDI%dA@A05$;A%bs%I%bF%U%bS@A0F%c1%bE@A13%cK%bL%aP%b2%bi%cH%bN%bW%bZ%bU%dy%b0%cE%c7%cF%
de%cU%ba%cd%be%cI%a1@A2A%aS%cp%bp%cV%a0%a2%aV@A32%aZ%eu@A35%cu%bO@A38%a9%aM@A3C$^eW@A3E$a8^bs&I&bF&U
&bS@A47&c1&bE@A4B&cK&bL$^dd@A51%UDAAT@A59$;KHHA%GHHA%cL%f0@A5E%c8@A66$bcbr%ae%ad%ak%aq%au%aB%aI%aC%
aN$TIPPI$ADDAK$IRI$URA$EK ONKAR$^YAKASH$gj^@A81!GUJARATI^dZ%cD%dA@A85$;A%bs%I%bF%U%bS%cjR&L$a8hvE
@A8F$;E%bE$a8hvO@A93$;O%bL%aP%b2%bi%cH%bN%bW%bZ%bU%dy%b0%cE%c7%cF%de%cU%ba%cd%be%cI%a1@AAA%aS%cp%bp%
cV%a0%a2%aV@AB2%aZ%eu@AB5%cu%bO%db%a9%aM@ABC$^eW%g3$a8^bs&I&bF&U&bS&cjR(di&hvE@AC7&E&bE&hvO@ACB&O&bL
$^dd@AD0$ix@AE0$;cjdi&dD$a8^cjL(dD@AE6$bcbr%ae%ad%ak%aq%au%aB%aI%aC%aN$gj^$nK^@AF9$;fK$^nV%pN%MADDAH
%THREE-DOTeWab%aTeWab%z4eWab@B01!ORIYA^dZ%cD%dA@B05$;A%bs%I%bF%U%bS%cjR&L@B0F%E%bE@B13%O%bL%aP%b2%bi
%cH%bN%bW%bZ%bU%dy%b0%cE%c7%cF%de%cU%ba%cd%be%cI%a1@B2A%aS%cp%bp%cV%a0%a2%aV@B32%aZ%eu@B35%cu%bO%db%
a9%aM@B3C$^eW%g3$a8^bs&I&bF&U&bS&cjR(di@B47&E&bE@B4B&O&bL$^dd@B55%mq$bEhFai$bLhFai@B5C$;f0%lp@B5F%
YYA%cjdi&dD$a8^cjL(dD@B66$bcbr%ae%ad%ak%aq%au%aB%aI%aC%aN$ISSHAR$;bV$f9aedQ&aK%akhJ%aepS&eB%akt1@B82
!nZ^cD%dA@B85$;A%bs%I%bF%U%bS@B8E%E%c1%bE@B92%O%cK%bL%aP@B99%bN%bW@B9C%bU@B9E%b0%cE@BA3%cU%ba@BA8%a1
%rb%aS@BAE%a0%a2%aV%f0%aZ%eu%nt%cu%bO%db%a9%aM@BBE$a8^bs&I&bF&U&bS@BC6&E&c1&bE@BCA&O&cK&bL$^dd@BD0$
ix@BD7$bLhFai@BE6$bcbr%ae%ad%ak%aq%au%aB%aI%aC%aN$b6bA%aeaL&aY$DAY^$MONTH^$YEAR^$DEBIT^$ve^$hTab^$nK
^$b6^@C00!TELUGU^dkdZab%dZ%cD%dA%dkcDab$;A%bs%I%bF%U%bS%cjR&L@C0E%E%c1%bE@C12%O%cK%bL%aP%b2%bi%cH%bN
%bW%bZ%bU%dy%b0%cE%c7%cF%de%cU%ba%cd%be%cI%a1@C2A%aS%cp%bp%cV%a0%a2%aV%f0%aZ%eu%nt%cu%bO%db%a9%aM
@C3C$^eW%g3$a8^bs&I&bF&U&bS&cjR(di@C46&E&c1&bE@C4A&O&cK&bL$^dd@C55$hFai$bEhFai@C58$;ee%im%RRRA@C5D%
NAKAARA POLLU@C60%cjdi&dD$a8^cjL(dD@C66$bcbr%ae%ad%ak%aq%au%aB%aI%aC%aN@C77$^nQ$f9bcbrdlnCnHaoaq&ae
dlnCnHaoaq&addlnCnHaoaq&akdlnCnHaoaq&aedloNnHaoaq&addloNnHaoaq&akdloNnHaoaq$^TUUMU!KANNADA^xEdZ%dZ%
cD%dA%nQ$;A%bs%I%bF%U%bS%cjR&L@C8E%E%c1%bE@C92%O%cK%bL%aP%b2%bi%cH%bN%bW%bZ%bU%dy%b0%cE%c7%cF%de%cU%
ba%cd%be%cI%a1@CAA%aS%cp%bp%cV%a0%a2%aV%f0%aZ%eu@CB5%cu%bO%db%a9%aM@CBC$^eW%g3$a8^bs&I&bF&U&bS&cjR(
di@CC6&E&c1&bE@CCA&O&cK&bL$^dd@CD5$hFai$bEhFai@CDD$;NAKAARA POLLU%c8@CE0%cjdi&dD$a8^cjL(dD@CE6$bcbr%
ae%ad%ak%aq%au%aB%aI%aC%aN@CF1$^pd%p4@D00!MALAYALAM^dkcDab%dZ%cD%dA$;rQcD%A%bs%I%bF%U%bS%cjR&L@D0E%E
%c1%bE@D12%O%cK%bL%aP%b2%bi%cH%bN%bW%bZ%bU%dy%b0%cE%c7%cF%de%cU%ba%cd%be%cI%a1%rb%aS%cp%bp%cV%a0%a2%
aV%f0%aZ%eu%nt%cu%bO%db%a9%aM%TTTA$^azaFdd%qrdd%g3$a8^bs&I&bF&U&bS&cjR(di@D46&E&c1&bE@D4A&O&cK&bL$^
dd$;ajREPH$^PARA@D54$;CHILLU M&Y&LLL$bLhFai$f9aezk&FORTIETH%akyK%aeTWENTIETH&TENTH%akz0%aeFIFTH$;f2
bF%cjdi&dD$a8^cjL(dD@D66$bcbr%ae%ad%ak%aq%au%aB%aI%aC%aN$b6bA%aeaL&aY$f9aedQ&aK%akhJ%aepS&eB%akt1$
DATEai$;CHILLU NN&N&di&L&dD&K@D81!SINHALA^dZ%ANUSVARAYA%VISARGAYA@D85$;AYANNA%AAYANNA%AEYANNA%
AEEYANNA%IYANNA%IIYANNA%UYANNA%UUYANNA%IRUYANNA%IRUUYANNA%ILUYANNA%ILUUYANNA%EYANNA%EEYANNA%AIYANNA%
OYANNA%OOYANNA%AUYANNA@D9A%j1KAYANNA%krKAYANNA%j1vN%krvN%KANTAJAzh%tQvN%j1CAYANNA%krCAYANNA%j1v4%kr
v4%TAALUJAzh&SANYOOGA NAAKSIKYAYA%tQv4%j1TTAYANNA%krTTAYANNA%j1vk%krvk%wyNAYANNA%tQvk%j1TAYANNA%kr
TAYANNA%j1vj%krvj%viNAYANNA@DB3%tQvj%j1PAYANNA%krPAYANNA%j1uU%kruU%MAYANNA%AMBAuU%YAYANNA%RAYANNA
@DBD%viLAYANNA@DC0%VAYANNA%TAALUJAxk%wyxk%vixk%HAYANNA%wyLAYANNA%FAYANNA@DCA$^AL-LAKUNA@DCF$a8^uI&
KETTIyl&oCyl&KETTI IS-PILLA&oCIS-PILLA&KETTI PAA-PILLA@DD6&oCPAA-PILLA@DD8&yO&we&oCwe&KOMBU DEKA&we
k6uI)oCuI)vO&vO@DE6$LITHbcbr&ae&ad&ak&aq&au&aB&aI&aC&aN@DF2$a8^oCyO(vO$cYKUNDDALIYA@E01!THAIg4eVpe%
npKHAI&KHUAT&KHWAI&KHON&RAKHANG%nBNGU%kSCHAN&CHING&CHANG%eYeY%kSCHOE%dYYING%fUCHADA%alPATAK%hnp0&
NANGMONTHO&PHUTHAO%daNEN%fUDEK%alTAO%hnTHUNG&THAHAN&THONG%dadW%iVBAIMAI%gCPLA%jMPHUNG%i6c8%jMPHAN%i6
FAN%jMSAMPHAO%fwa0%dYYAK%eFRUA%fz%fXLING%e7%ffWAEN%eYSALA&RUSI&SUA%eKHIP%fXCHULA%OiP%eKNOKHUK%
PAIYANNOI%SARA A%iuHAN-AKAT%SARAbs&j2&I&bF&fp&UEE&U&bS%PHINTHU@E3F$qvatBAHT$g4SARA E&dR&O&bEMAIMUAN(
MAIMALAI%LAKKHANGYAO%MAIYAMOK%MAITAIKHU%iuEK&hn&TRI&CHATTAWA%THANTHAKHAT%NIKHAHIT%YAMAKKAN%FONGMAN$
bcbr%ae%ad%ak%aq%au%aB%aI%aC%aN$g4ANGKHANKHU%KHOMUT@E81!LAO;eV%nppX@E84&nY@E86%mscH%nB%iZ%msbZ%eYnY
@E8C%msdy%ll%msb0&cE&c7&cF&de&cU%fU%al%hnpX&nY%mscI%da%iV%gC%jMpX%i6nY%jMnY%i6pX%mscV%fw%dY%fXLING
@EA5&LOOT@EA7%ff%SANSKRITbO&db%eYpX%eKpX%mseu%O%eKnY$lV$a8^A&iupf&bs&j2&I&bF&Y&YY&U&bS$^msdd$a8^iu
KON$SEMIVOWEL^fX&ll@EC0$a8^E&EI&O&iQ&bE@EC6$eVaZ@EC8$bDiuEK&hn&gH&CATAWA$r5ai$NIGGAHITA@ED0$bcbr%ae%
ad%ak%aq%au%aB%aI%aC%aN@EDC$eKda%fw$;KHMUio&ll@F00!x2gYix$aiGTERkLh6TRUNCATED A)-UM RNAM BCADa0*GTER
jUa0%avkLh6MDUNa0%qskLh6SGABa0%kakLh6PHURhja0%kLh6jUhja0%SBRULhj%BSKURkLh6%BKA- SHOGkLh6%
INTERSYLLABICjU%shjUBSTAR%hj%thhj%jUhj%thjUhj%RIN CHEN SPUNGShj%RGYA GRAMhj%ka-DZUDjmd9bzhu%GTERjU$
LOGOTYPE^CHADjm&LHAGjm$ys^SGRA GCAN -CHARjm&-KHYUDaS&SDONG TSHUGS$^tDDKAR GCIG(GNYIS(GSUM&NAG GCIG(
GNYIS&DKARtDNAG$bcbr%ae%ad%ak%aq%au%aB%aI%aC%aN%aKae&ad&ak&aq&au&aB&aI&aC&aN&br$aiBSDUSjm%NGAS BZUNG
h7ZLA%ka-DZUDjmBZHI MIGhu%NGAS BZUNG SGORjm%e3h6%ee-PHRU%GUGjmGYON(GYAS%iPKHANG GYON(GYAS$^YAR TSHES
%MAR TSHES$;aP%b2%bi%cH%bN%bW%bZ%bU@F49%b0%cE%c7%cF%de%cU%ba%cd%be%cI%a1%aS%cp%bp%cV%a0%ee%hN%im%qz%
bV%fK%cL%-A%a2%aV%aZ%bO%db%a9%aM%A%qV%yNaV%KKA%f0@F71$a8^bs&I&bF&U&bS&cjR(di(L(dD&E&c1&O&cK$^RJESfR
bNeF%RNAM BCAD$a8^bJI(bF$^h7ZLApube%SNA LDAN$aivT%PALUTA$^LCIjm%jujm%LCEeehu%s6hu%GRUhuRGYINGS&MED
RGYINGS%b1s6hu$pU^LCEeehu&s6hu&b1s6hu%;aP&b2&bi&cH&bN&bW&bZ&bU@F99&b0&cE&c7&cF&de&cU&ba&cd&be&cI&a1&
aS&cp&bp&cV&a0&ee&hN&im&qz&bV&fK&cL&-A&a2&aV&aZ&bO&db&a9&aM&A&qV&yNbV(a2(aV@FBE$fVfzb2(BZHI MIGhu$
CANTILLATION^axBEAT&a7BEAT&CANG TE-U&SBUB -CHAL$atDRILf6%RDO RJE%PADMA GDAN%RDO RJE RGYA GRAM%PHURaS
%jLf6(thuH(GSUMuH(BZHIuH@FCE$^tDNAGtDDKAR(GSUM$aiBSKA- SHOGfuh6RGYAN%MNYAMkLfuh6RGYAN%thjU%avBRDA
RNYINGkLh6MDUNa0%qsBRDA RNYINGkLh6SGABa0!tMug^!s1ug^!tMug^:aU!s1ug^:aU!x2aiLEADING MCHANjm%TRAILING
MCHANjm@1000!tb;aP%b2%bi%cH%bN%bW%bZ%bU%dy%b0%NNYA%cE%c7%cF%de%cU%ba%cd%be%cI%a1%aS%cp%bp%cV%a0%a2%
aV%aZ%bV%a9%aM%eu%A%jQA%I%bF%U%bS%E%nzE%O%bL$a8^rEbs&bs&I&bF&U&bS&E&bE&nzbF(O&Eab$^cD%ajaf%dA%dd%
ASAT$fh^bqa2(aV(bV(aM$;o0a9$bcbr%ae%ad%ak%aq%au%aB%aI%aC%aN$^cofa%fa$atLOCATIVE%COMPLETED%
AFOREMENTIONED%GENITIVE$;bO%db%cjR&di&L&dD$a8^cjR(di(L(dD$;nzbN&dy&m2&BBE$fh^nzbqa1)a0)aZ$;SGAWlcbO$
a8^SGAWlcEU$bDaiSGAWlcHATHI)fNjM$;uCpFlccd)PWA$a8^uCpFlcEU*fp$^uCpFlcrI)kE)ly)n6)kF$;EASTERNpFlccU)
YWA)GHWA$a8^GEBAlcI&KAYAHdh(U(c1$;jQaP&b2&bi&bW&cL&b0&be&a1&cp&c8&bp&cd&aM$fh^jQbqbV$a8^jQbs(E)ab(ag
Y$^jQkE&ly&kF&us&COUNCILkE(ly(EMPHATICbD$;RUMAIwMc8$^RUMAIwMkF$jQbcbr&ae&ad&ak&aq&au&aB&aI&aC&aN$^pi
rI&ly$a8^AITON A(bE$atjQae&eJ!qE?;dM&BAN&ng&DON&cG&VIN&ZEN&TAN&cn&pf&LAS&fP&NAR&b7&PAR&uG&pG&pK&n0&
UN&tp&sV&sB&QAR&ed&sa&hu&JIL&CIL&r7&XAN&sS&HAE&c9&HIE&eS&o2&HOE@10C7&YN@10CD&od@10D0$;dM%BAN%ng%DON%
cG%VIN%ZEN%TAN%cn%pf%LAS%fP%NAR%b7%PAR%uG%pG%pK%n0%UN%tp%sV%sB%QAR%ed%sa%hu%JIL%CIL%r7%XAN%sS%HAE%c9
%HIE%eS%o2%HOE%jD%YN%ELIFI%byng%dK$ridX!ea;qENAR!qE;od%kl^%LABIAL^!kkCHOSEONGma%t9%mk%mQ%uc%mz%mg%mx
%ua%mG%ub%la%kT%t8%lM%l9%mM%mv%l3%zi%xH%wC%NIEUN-PIEUP%zV%zH%zP%tH%y4%ws%v7%zu%PIEUP-NIEUN%wW%tq%zw%
wV%PIEUP-SIOS-PIEUP%PIEUP-SSANGSIOS%PIEUP-SIOS-CIEUC%wU%zs%zx%zv%v9%y5%xu%SIOS-NIEUN%xw%SIOS-RIEUL%
SIOS-MIEUM%xv%SIOS-PIEUP-KIYEOK%SIOS-SSANGSIOS%SIOS-IEUNG%xt%zN%SIOS-KHIEUKH%zO%SIOS-PHIEUPH%
SIOS-HIEUH%CHITUEUMSIOS%CHITUEUMSSANGSIOS%CEONGCHIEUMSIOS%CEONGCHIEUMSSANGSIOS%wN%y0%IEUNG-TIKEUT%
IEUNG-MIEUM%IEUNG-PIEUP%IEUNG-SIOS%IEUNG-PANSIOS%xG%IEUNG-CIEUC%IEUNG-CHIEUCH%IEUNG-THIEUTH%
IEUNG-PHIEUPH%yi%CIEUC-IEUNG%CHITUEUMCIEUC%CHITUEUMSSANGCIEUC%CEONGCHIEUMCIEUC%CEONGCHIEUMSSANGCIEUC
%CHIEUCH-KHIEUKH%CHIEUCH-HIEUH%CHITUEUMCHIEUCH%CEONGCHIEUMCHIEUCH%zr%v8%SSANGHIEUH%yh%KIYEOK-TIKEUT%
wB%tc%td%zX%k2$JUNGSEONGk2%A%dR%a2%YAE%EO%E%YEO%hp%O%bV%WAE%dh%dY%U%WEO%eS%fI%dw%EU%en%I%A-O%A-U%
YA-O%YA-YO%EO-O%EO-U%EO-EU%YEO-O%YEO-U%O-EO%O-E%O-YE%O-O%O-U%YO-YA%YO-YAE%YO-YEO%YO-O%YO-I%U-A%U-AE%
U-EO-EU%U-YE%U-U%YU-A%YU-EO%YU-E%YU-YEO%YU-YE%YU-U%YU-I%EU-U%EU-EU%YI-U%I-A%I-YA%I-O%I-U%I-EU%
I-ARAEA%ARAEA%ARAEA-EO%ARAEA-U%ARAEA-I%SSANGARAEA%A-EU%YA-U%YEO-YA%O-YA%O-YAE$v6ma%t9%wc%mk%tc%td%mQ
%mz%tI%tJ%tK%tL%xe%xd%tH%mg%mx%tq%mG%ub%la%kT%lM%l9%mM%mv%l3%KIYEOK-RIEUL%KIYEOK-SIOS-KIYEOK%zi%wC%
wB%zj%NIEUN-THIEUTH%zV%zX%zG%zH%xf%RIEUL-TIKEUT-HIEUH%zP%RIEUL-MIEUM-KIYEOK%RIEUL-MIEUM-SIOS%zJ%
RIEUL-PIEUP-HIEUH%zE%RIEUL-SSANGSIOS%zI%zF%zL%ze%MIEUM-RIEUL%ws%wt%MIEUM-SSANGSIOS%zf%MIEUM-CHIEUCH%
MIEUM-HIEUH%v7%PIEUP-RIEUL%zv%zt%v9%xu%xw%SIOS-RIEUL%xv%wN%y0%IEUNG-SSANGKIYEOK%xG%IEUNG-KHIEUKH%yi%
z9%z8%zr%v8%HIEUH-NIEUN%HIEUH-RIEUL%HIEUH-MIEUM%HIEUH-PIEUP%yh%KIYEOK-NIEUN%KIYEOK-PIEUP%
KIYEOK-CHIEUCH%KIYEOK-KHIEUKH%KIYEOK-HIEUH%xH!sqgYaM%h4%es%k6%HEE%c9%eK%HOA%aZ%e7%gy%LAA%LEE%hE%fX%
LWA%k8%HHU%HHI%HHAA%HHEE%HHE%HHO%HHWA%a0%do%ej%MAA%MEE%d9%fw%MWA%SZA%SZU%SZI%SZAA%SZEE%SZE%SZO%SZWA%
aV%fz%gU%RAA%REE%gD%eF%RWA%a9%fR%fo%SAA%nM%fA%eY%SWA%bO%h9%pP%SHAA%SHEE%dI%jR%SHWA%fZ%QU%QI%QAA%QEE%
QE%QO%QOA%QWA@124A%QWI%QWAA%QWEE%QWE@1250%QHA%QHU%QHI%QHAA%QHEE%QHE%QHO@1258%QHWA@125A%QHWI%QHWAA%
QHWEE%QHWE@1260%bp%f6%hs%BAA%oj%hr%iV%BWA%cu%VU%VI%VAA%mU%ho%kI%VWA%ba%e0%gH%nW%pZ%dz%al%TWA%bW%CU%
CI%CAA%CEE%CE%iZ%CWA%hP%XU%hQ%XAA%XEE%XE%XO%XOA%XWA@128A%XWI%XWAA%XWEE%XWE@1290%a1%dW%dP%pu%NEE%eb%
da%NWA%b0%NYU%h7%NYAA%NYEE%NYE%ll%NYWA%eqA&U&I&bs&c1&E&O&bV%aP%fV%fO%KAA%KEE%fN%eV%KOA%KWA@12B2%KWI%
KWAA%KWEE%KWE@12B8%KXA%KXU%KXI%KXAA%KXEE%KXE%KXO@12C0%KXWA@12C2%KXWI%KXWAA%KXWEE%KXWE@12C8%bV%jY%fI%
WAA%WEE%eS%ff%WOA%zqA&U&I&bs&c1&E&O@12D8%cL%jw%ZI%ZAA%ZEE%fJ%jv%ZWA%fK%ZHU%ZHI%ZHAA%ZHEE%hq%ZHO%ZHWA
%a2%dw%en%qa%qb%hp%dY%YOA%be%g5%f8%DAA%oz%fr%fU%DWA%cF%DDU%DDI%DDAA%DDEE%DDE%DDO%DDWA%bU%JU%JI%JAA%
pc%i9%jH%JWA%bi%g8%fu%GAA%GEE%GE%io%GOA%GWA@1312%GWI%GWAA%GWEE%GWE@1318%oX%GGU%GGI%GGAA%GGEE%GGE%GGO
%GGWAA%cd%THU%n5%rF%rG%dr%hn%THWA%bZ%CHU%e4%CHAA%CHEE%e3%kS%CHWA%cp%PHU%eX%PHAA%PHEE%PHE%jM%PHWA%ee%
TSU%n8%TSAA%TSEE%ie%TSO%TSWA%TZA%TZU%TZI%TZAA%TZEE%TZE%TZO%TZOA%c8%FU%jD%FAA%na%i4%i6%FWA%aS%iC%c3%
PAA%ln%cN%gC%PWA%RYA%MYA%FYA@135D$dkqD_a8hFai%a8hFai%qDai$faai$WORDSPACE$cBbQ$cc$jn$dU$PREFACEdU$em
ai$ridX$bcae%ad%ak%aq%au%aB%aI%aC%aN$b6bA%dc%fE%gq%dN%gV%dH%hx%dp%aL%bAaY@1380$gYtSMWA%MWI%MWEE%MWE%
tSBWA%BWI%BWEE%BWE%tSFWA%FWI%FWEE%FWE%tSPWA%PWI%PWEE%PWE$TONALaiYIZET&DERET&RIKRIK&cCRIKRIK&DIFAT&
KENAT&CHIRET&HIDET&DERET-HIDET&KURT@13A0!CHEROKEE;A%E%I%O%U%V%bi%aP%GE%fu%io%g8%GV%aM%c9%es%eK%h4%HV
%aZ%hE%gy%fX%e7%LV%a0%d9%ej%fw%do%a1%HNA%NAH%eb%dP%da%dW%NV%QUA%QUE%QUI%QUO%QUU%QUV%a9%S%fA%fo%eY%fR
%SV%be%ba%fr%dz%f8%gH%fU%g5%DV%DLA%TLA%TLE%TLI%TLO%TLU%TLV%ee%ie%n8%TSO%TSU%TSV%bV%eS%fI%ff%jY%WV%a2
%hp%en%dY%dw%YV%MV@13F8$<;hp&en&dY&dw&YV&MV@1400!u2xTi8%E%AAI%I%bF%O%cK%jtcK%jyc1&I%A%bs%eS%bteS%fI%
btfI%WII%btWII%ff%btff%WOO%btWOO%ksWOO%bV%btbV%WAA%btWAA%ksWAA%bE%jtW%eqbQ%agbl&bY&dSaKbd&c6aKbd&aa
aKbd&bd&ahbl(cCazxO&ayaj&cCa6as&aG&aJdJ%cG%cn%b7%dM%cN%PAAI%c3%PII%gC%POO%jtPOO%jyHEE&es%aS%PAA%PWE%
btPWE%PWI%btPWI%PWII%btPWII%pF%btpF%PWOO%btPWOO%PWA%btPWA%PWAA%btPWAA%jtPWAA%P%btP%jyH%dz%TAAI%gH%
TII%al%p3%jtp3%jyoz&f8%ba%nW%TWE%btTWE%TWI%btTWI%TWII%btTWII%ad%btad%TWOO%btTWOO%TWA%btTWA%TWAA%bt
TWAA%ksTWAA%T%TTE%TTI%TTO%cE%fN%KAAI%fO%KII%eV%KOO%jtKOO%aP%KAA%KWE%btKWE%KWI%btKWI%KWII%btKWII%KWO%
btKWO%KWOO%btKWOO%KWA%btKWA%KWAA%btKWAA%ksKWAA%K%KW%SOUTH-SLAVEY KEH&KIH&KOH&KAH%CE%CAAI%CI%CII%iZ%
COO%jtCOO%bW%CAA%CWE%btCWE%CWI%btCWI%CWII%btCWII%CWO%btCWO%CWOO%btCWOO%CWA%btCWA%CWAA%btCWAA%ksCWAA%
C%lqTH%d9%MAAI%ej%MII%fw%MOO%jtMOO%a0%MAA%MWE%btMWE%MWI%btMWI%MWII%btMWII%MWO%btMWO%MWOO%btMWOO%MWA%
btMWA%MWAA%btMWAA%ksMWAA%M%btM%MH%ATHAPASCAN M%lqM%eb%NAAI%dP%NII%da%NOO%jtNOO%a1%pu%NWE%btNWE%NWA%
btNWA%NWAA%btNWAA%ksNWAA%N%jyge%NH%hE%LAAI%gy%LII%fX%pn%jtpn%aZ%LAA%LWE%btLWE%LWI%btLWI%LWII%btLWII%
LWO%btLWO%LWOO%btLWOO%LWA%btLWA%LWAA%btLWAA%L%btL%bqL%fA%SAAI%fo%SII%eY%SOO%jtSOO%a9%SAA%SWE%btSWE%
SWI%btSWI%SWII%btSWII%SWO%btSWO%SWOO%btSWOO%SWA%btSWA%SWAA%btSWAA%ksSWAA%S%ATHAPASCAN S%SW%uWS%
MOOSE-CREE SK%ksSKW&S-W&SPWA&STWA&SKWA&SCWA%dI%pP%SHII%jR%SHOO%bO%SHAA%pQ%btpQ%SHWI%btSHWI%SHWII%bt
SHWII%SHWO%btSHWO%SHWOO%btSHWOO%SHWA%btSHWA%SHWAA%btSHWAA%SH%hp%YAAI%en%YII%dY%YOO%jtYOO%a2%qa%YWE%
btYWE%YWI%btYWI%YWII%btYWII%YWO%btYWO%YWOO%btYWOO%YWA%btYWA%YWAA%btYWAA%ksYWAA%Y%BIBLE-CREE Y%btY%lq
en%gD%R-CREEgD%bthE%RAAI%gU%RII%eF%ROO%btfX%aV%RAA%btaZ%RWAA%btRWAA%R%btR%bqR%i4%FAAI%jD%FII%i6%FOO%
c8%FAA%FWAA%btFWAA%F%dr%wzdr%n5%wzn5%THII%wzTHII%hn%THOO%cd%rF%THWAA%btTHWAA%TH%TTHE%TTHI%TTHO%c7%
TTH%TYE%TYI%TYO%TYA%NUNAVIKc9&es&HII&eK&HOO&aM&k6&H%NUNAVUT H%HK%QAAI%QI%QII%QO%QOO%fZ%QAA%Q%TLHE%
TLHI%TLHO%TLHA%btgD&gU&eF&aV%NGAAI%NGI%NGII%nB%NGOO%bN%NGAA%ge%NNG%lqdI&pP&jR&bO%WOODS-CREEdr&n5&hn&
cd&TH%LHI%LHII%LHO%LHOO%mb%LHAA%LH%TH-CREEdr&n5&THII&hn&THOO&cd&rF&TH%AIVILIK B%uWE&I&O&A&eS&fI&ff&
bV&eb&dP&da&a1&fN&fO&eV&aP%lqc9&es&eK&aM%jyGHU&GHO&gt&GHEE&GHI&cH&fz&eF&gD&REE&gU&aV&jY&ff&eS&WEE&fI
&bV&HWU&HWO&HWE&HWEE&HWI&HWA&THU&hn&dr&rG&n5&cd&TTU&TTO&TTE&TTEE&TTI&cE&iC&gC&cN&ln&c3&aS&P&g8&io&GE
&GEE&fu&bi&KHU&np&KHE&KHEE&KHI&b2&KKU&KKO&KKE&KKEE&KKI&KKA&KK&dW&da&eb&NEE&dP&a1&do&fw&d9&MEE&ej&a0&
dw&dY&hp&qb&en&a2&JU%lqJU%jyjH&i9&pc&JI%lqJI%jybU&JJU&JJO&JJE&JJEE&JJI&JJA&e7&fX&hE&LEE&gy&aZ&DLU&
DLO&DLE&DLEE&DLI&DLA&LHU&LHO&LHE&LHEE&LHI&mb&TLHU&TLHO&TLHE&TLHEE&TLHI&TLHA&TLU&TLO&TLE&TLEE&TLI&TLA
&jw&jv&fJ&ZEE&ZI&cL&Z&avZ&DZU&DZO&lU&DZEE&DZI&im&fR&eY&fA&nM&fo&a9&h9&jR&dI&SHEE&pP&bO&SH&TSU&TSO&ie
&TSEE&n8&ee&CHU&kS&e3&CHEE&e4&bZ&TTSU&TTSO&TTSE&TTSEE&TTSI&TTSA%e4^%cBbQ%QAI%NGAI%NNGI%NNGII%NNGO%
NNGOO%NNGA%NNGAA%WOODS-CREE THWEE&THWI&THWII&THWO&THWOO&THWA&THWAA&agTH%uWW!OGHAMfDai$;BEITH%LUIS%
FEARN%SAIL%NION%UATH%DAIR%TINNE%COLL%CEIRT%MUIN%GORT%NGEADAL%STRAIF%RUIS%AILM%ONN%UR%EADHADH%IODHADH
%EABHADH%bw%UILLEANN%IFIN%EAMHANCHOLL%PEITH$stai$bJstai@16A0!RUNIC;FEHU FEOHi4F%V%URUZ UR U%YR%Y%W%
THURISAZ THURSmO%lW%ANSUZ A%OS O%AC A%AESC%LONG-BRANCH-OSS O%SHORT-TWIG-OSS O%O%dh%b7%RAIDO RAD REID
R%KAUNA%CEN%KAUN K%G%i2%GEBO GYFU G%eC%WUNJOuEW%HAGLAZ H%HAEGL H%LONG-BRANCH-HAGALL H%
SHORT-TWIG-HAGALL H%NAUDIZ NYD NAUD N%SHORT-TWIG-NAUD N%DOTTED-N%ISAZ IS ISS I%E%JERAN J%GER%
LONG-BRANCH-ARdR%SHORT-TWIG-AR A%IWAZ EOH%PERTHO PEORTH P%ALGIZ EOLHX%SOWILO S%SIGEL LONG-BRANCH-SOL
S%SHORT-TWIG-SOL S%C%Z%TIWAZ TIR TYR T%SHORT-TWIG-TYR T%D%BERKANAN BEORC BJARKAN B%
SHORT-TWIG-BJARKAN B%DOTTED-P%OPEN-P%EHWAZkfE%MANNAZfPM%LONG-BRANCH-MADR M%SHORT-TWIG-MADR M%LAUKAZ
LAGU LOGR L%DOTTED-L%INGWAZ%ING%DAGAZ DAEG D%OTHALAN ETHEL O%oI%IOR%CWEORTH%CALC%CEALC%STAN%
LONG-BRANCH-YR%SHORT-TWIG-YR%ICELANDIC-YR%Q%X$bPcY$ivcY$cPcY$ARLAUGat$TVIMADURat$BELGTHORat$;K%SH%cK
%FRANKS CASKET OS(IS(kf(AC(AESC@1700!TAGALOG;A%I%U%aP%bi%bN%ba%be%a1%aS%bp%a0%a2%aV%aZ%bV%a9%aM$a8^I
&U$^dd%PAMUDPOD@171F$;f2aV!HANUNOO;A%I%U%aP%bi%bN%ba%be%a1%aS%bp%a0%a2%aV%aZ%bV%a9%aM$a8^I&U$^
PAMUDPOD!PHILIPPINEbPcY$ahcY@1740!BUHID;A%I%U%aP%bi%bN%ba%be%a1%aS%bp%a0%a2%aV%aZ%bV%a9%aM$a8^I&U
@1760!TAGBANWA;A%I%U%aP%bi%bN%ba%be%a1%aS%bp%a0%a2@176E%aZ%bV%a9@1772$a8^I&U@1780!KHMER;aP%b2%eV%np%
nB%bW%bZ%iZ%kS%ll%be%c7%fU%TTHO%NNO%ba%cd%al%hn%da%bp%cp%gC%jM%fw%dY%eF%fX%kI%bO%SSO%a9%aM%aZ%fZ$l5
a8QAQ&QAA&QI&QII&QU&QUK&QUU&QUUV&RY&RYY&LY&LYY&QE&QAI&QOO TYPEae)ad&QAU$a8INHERENT AQ&bs%^bs&I&bF&Y&
YY&U&bS&UA&dh&a2&gP&E&dR&bE&cK&bL$^NIKAHIT%REAHMUK%YUUKALEAPINTU%MUUSIKATOAN%TRIISAP%BANTOC%ROBAT%
TOANDAKHIAT%KAKABAT%AHSDA%SAMYOK SANNYA%VIRIAM%COENG%BATHAMASAT%KHAN%BARIYOOSAN%CAMNUC PII KUUH%LEK
p3%BEYYAL%PHNAEK MUAN%KOOMUUT$qvatRIEL$^AVAKRAHASANYA%ATTHACAN@17E0$bcbr%ae%ad%ak%aq%au%aB%aI%aC%aN
@17F0$atLEK ATTAK SON(MUOY(PII(BEI(BUON(PRAM(w3(w4(w1(w2@1800!MONGOLIANj7$lV$cc$cBbQ$dU$aqaU$TODOia
i8$SIBEgYBOUNDARYmf$qZcc%cBbQ$NIRUGU$FREErPxnae(ad(ak$a8dX$FREErPxnaq$bcbr%ae%ad%ak%aq%au%aB%aI%aC%
aN@1820$;A%E%I%O%U%dh%fp%c1%a1%iP%bp%aS%fZ%bi%a0%aZ%a9%bO%ba%be%bZ%bU%a2%aV%bV%c8%aP%b2%ee%cL%k6%ZRA
%mb%ZHI%e4%TODObza8^&E&I&O&U&dh&fp&iP&bp&aS&fZ&bi&a0&ba&be&bZ&bU&ee&a2&bV&aP&GAA&k6&JIA&NIA&im%SIBE
E&I&IY&fp&U&iP&aP&bi&aM&aS&bO&ba&be&bU&c8&GAA&k6&ee&cL&RAA&bZ&fK%qZI&aP&aV&c8&fK%bZ:adaU@1880%mZnfcD
ae(dAae(DAMARU(UBADAMA(b1UBADAMA(BALUDA(akBALUDA(A(I(aP(bN(bW(cE(c7(cF(cU(ba(be(aS(cp(db(fK(cL(iO%
TODOmZnfba)fK%qZmZnfcH)bN)bW)dy)cE)de)ba)cI)db)CYA)fK)cL%mZnfaKU)a2%qZmZnfcV%mZnfDAGALGA%qZmZnfmb
@18B0!u2xTOY%iQ%AAY%WAY%POY%PAY%PWOY%TAY%KAY%KWAY%MAY%NOY%NAY%LAY%SOY%SAY%SHOY%SHAY%SHWOY%YOY%YAY%
RAY%NWI%rdNWI%NWII%rdNWII%NWO%rdNWO%NWOO%rdNWOO%RWEE%RWI%RWII%RWO%RWOO%RWA%rdP&T&K&C&M&N&S&SH%
EASTERN W%uCW%ag<bd&eOaj%R-CREE RWE%btpn&LAA%THWE%THWA%TTHWE%TTHOO%TTHAA%TLHWE%TLHOO%lqpQ&SHOO&HOO%
jyGWU&DENE GEE&GAA&GWA%lqJUU%jyJWA%BEAVER DENE L(R%jyvnS@1900!LIMBU VOWEL-CARRIER;$;aP%b2%bi%cH%bN%
bW%bZ%bU%dy%YAN%ba%cd%be%cI%a1%aS%cp%bp%cV%a0%a2%aV%aZ%bV%bO%db%a9%aM%GYAN%TRA@1920$a8^A&I&U&c1&bE&
cK&bL&E&O$pU;a2&aV&bV@1930$<;aP&bN&cD&ba&a1&aS&a0&aV&aZ$^MUKPHRENG%KEMPHRENG%SA-I@1940%pn@1944$eJai$
emai$bcbr%ae%ad%ak%aq%au%aB%aI%aC%aN!lwhE;aP&hP&bN&ee&a9&a2&ba&cd&aZ&aS&cp&a0&c8&cu&aM&fZ&b2&hN&a1&A
&I&c1&kf&U&cK&O&fp&E&AUE&bE@1970&kE&ly&n6&kF&us@1980!pylwLUE;bHfZ(bkfZ(bHaP)hP)bN(bkaP)hP)bN(bHee)a9
)a2(bkee)a9)a2(bHba)cd)a1(bkba)cd)a1(bHaS)cp)a0(bkaS)cp)a0(bHc8)cu)aZ(bkc8)cu)aZ(bHaM)be)bp(bkaM)be)
bp(bHKVA)XVA(bkKVA)XVA(bHSUA(bkSUA@19B0&a8^a8SHORTENER)bs)bF)U)bS)E)dR)O)OA)fp)iQ)AAY)UY)OY)OAY)UEY)
IY&;agV)ge)N)M)K)D)B&bDq0(q1@19D0&bcbr(ae(ad(ak(aq(au(aB(aI(aC(aN&THAMbcae@19DE&^LAE(LAEV!KHMERat
PATHAMASAT%MUOYhC%PIIhC%BEIhC%BUONhC%PRAMhC%w3hC%w4hC%w1hC%w2hC%DAPhC%DAP-MUOYhC%DAP-PIIhC%DAP-BEIhC
%DAP-BUONhC%DAP-PRAMhC%TUTEYASAT%MUOYhK%PIIhK%BEIhK%BUONhK%PRAMhK%w3hK%w4hK%w1hK%w2hK%DAPhK%DAP-MUOY
hK%DAP-PIIhK%DAP-BEIhK%DAP-BUONhK%DAP-PRAMhK!BUGINESE;aP%bi%bN%NGKA%aS%bp%a0%MPA%ba%be%a1%NRA%bW%bU%
b0%NYCA%a2%aV%aZ%cu%a9%A%aM$a8^I&U&E&O&dR@1A1E$PALLAWA$duaofa!lwTHAM;bHaP(b2(KXA&bkaP(KXA(b2&bN&bHbW
(bZ&bkbW(a9(bZ&b0&RATA&bHRATHA&be&bkRATHA&RANA&bHba(cd&bkba(cd&a1&bp&bHaS(cp(c8&bkaS(c8(cp&a0&bka2&
bHa2&aV&RUE&aZ&LUE&bV&bHbO(db(a9(aM&eu&A&bkaM&I&bF&U&bS&c1&cK&LAE&o0a9%fh^bqaV)aZ(aZTANG LAI%^iuKANG
LAI%fh^agbN(bkaS(bHRATHAbwbkaS(a0(bp(a9@1A60%^SAKOT%a8^A(iuSAT(bs(rEbs(I(bF(fp(UUE(U(bS(O(OAaf(OY(E
(dR(cK(bE(THAMbE(OAab%^iuKANG&rI&kE&KHUENly(n6(kF&aVHAAM&iuSAM&KHUEN-LUE KARAN@1A7F%dkkWaj%HORAbcbr(
ae(ad(ak(aq(au(aB(aI(aC(aN@1A90%THAMbcbr(ae(ad(ak(aq(au(aB(aI(aC(aN@1AA0%^WIANG&WIANGWAAK&SAWAN&KEOW
&HOY&DOKMAI&bJb9RANA&iuYAMOK&KAAN&KAANKUU&SATKAAN&SATKAANKUU&HANG&CAANG@1AB0!dksjbBdj$DIAERESIS-RING
$o8$bf|$cQaj$X-Xaf$p9bMaf$bvaiaf$ahbvaiaf$a7r6asaf$STRONGr6asaf$wRab$ahwRab$wRaf%fl$cz<;Waf(byWaf$ac
c2abac$aac2abaa$acc2afac$aac2afaa$aRBRACKETSab$b6^ab$b1ahARCHab$aG^ab$ahaG^ab(af$cQbldj$cz<;gvG)R)T
@1B00!BALINESE^ULU RICEM&hv%CECEK%SURANG%BISAH$;AKARA&jp%IKARA&jp%UKARA&jp%aVREPA(jp%aZLENGA(jp%
EKARA%AIKARA%OKARA&jp%aP&md%bi&GORA%bN%bW&LACA%bU&JERA%b0%baLATIK&jKmd%bejKALPAPRANA(md%a1RAMBAT%ba&
TAWA%be&MADU%a1%aS&KAPAL%bp&KEMBANG%a0%a2%aV%aZ%bV%a9SAGA&SAPA&%aM$^REREKAN$a8^jp&ULU(SARI&SUKU(ILUT
&aVREPA)jp&aZLENGA)jp&TALING(REPA(jp(REPAjp&PEPET(jp$ADEG ADEG$;d8mB%KHOTmB%TZIRmB%kemB%homB%ZALmB%
ASYURAmB%f2JNYA@1B50$bcbr%ae%ad%ak%aq%au%aB%aI%aC%aN$PANTI$PAMADA$WINDU$CARIK PAMUNGKAH%SIKI%PAREREN
$PAMENENG$iwatDONG&DENG&DUNG&DANG(SURANG&DING&DAENG&DEUNG&DAING&DANG GEDE&dkTEGEH(ENDEP(KEMPUL(
KEMPLI(v5(KEMPUL:v5(KEMPLI:v5(BENDE(GONG&RIGHT-HANDbvoH)DAG(dBTUK)TAK&LEFT-HANDbvPANG)PUNG(dBPLAK)
PLUK(bvPING$PANTI LANTANG$PAMADA LANTANG@1B80!SUNDANESE^PANYECEK%PANGLAYAR%PANGWISAD$;A%I%U%dR%O%E%
EU%aP%fZ%bi%bN%bW%bU%cL%b0%ba%be%a1%aS%c8%cu%bp%a0%a2%aV%aZ%bV%a9%hP%aM$fh^PAMINGKAL&PANYAKRA&
PANYIKU$a8^PANGHULU&PANYUKU&PANAELAENG&PANOLONG&PAMEPET&PANEULEUNG$^PAMAAEH%dd$fh^PASANGANa0(bV$;b2%
SYA$bcbr%ae%ad%ak%aq%au%aB%aI%aC%aN$g3$;REU%LEU%cV%agK&M!BATAK;A%jSA%aM%jSaM%wqaM%bp%KARObp%aS%jSaS%
a1%wqa1%bV%jSbV%PAKPAKbV%bi%jSbi%bU%be%aV%jSaV%a0%jSa0%SOUTHERNba%NORTHERNba%a9%jSa9%wqa9%a2%jSa2%bN
%aZ%jSaZ%b0%bW%px%MBA%I%U$^TOMPI$a8^E&PAKPAK E&c1&I&KARO I&O&KARO O&U(dljSa9$fh^ge&H$PANGOLAT$
PANONGONAN@1BFC$atBINDUa1METEK&PINARBORAS&JUDUL&PANGOLAT!LEPCHA;aP%KLA%b2%bi%GLA%bN%bW%bZ%bU%b0%ba%
cd%be%a1%aS%PLA%cp%c8%FLA%bp%BLA%a0%MLA%ee%hN%im%a2%aV%aZ%aM%HLA%cu%a9%bO%bV%A$pU;a2&aV$a8^bs&I&O&cK
&U&bS&E$fh^K&M&L&N&P&R&T&NYIN-DO&KANG$^RAN%eW@1C3B$cYTA-ROL%NYET THYOOM TA-ROL%CER-WA%TSHOOK CER-WA&
$bcbr%ae%ad%ak%aq%au%aB%aI%aC%aN@1C4D$;cE%c7%cF!OL CHIKIbcbr&ae&ad&ak&aq&au&aB&aI&aC&aN%;aZ&e2&AG&iP
&AL&LAA&AAK&AAJ&AAM&AAW&gy&IS&IH&INY&IR&e7&UC&gi&UNN&UY&hE&EP&EDD&cG&ERR&fX&OTT&OB&OV&OH%doTTUDDAG%
GAAHLAA TTUDDAAG%MU-GAAHLAA TTUDDAAG%RELAA%PHAARKAA%AHAD%cYMUCAAD&ahMUCAAD!hX<;kvho&LONG-LEGGEDfr&pw
O&rRjC&rEdz&THREE-LEGGEDdz&rEkl^(lB&UNBLENDED UK@1C90!qEMTAVRULI?;dM(BAN(ng(DON(cG(VIN(ZEN(TAN(cn(pf
(LAS(fP(NAR(b7(PAR(uG(pG(pK(n0(UN(tp(sV(sB(QAR(ed(sa(hu(JIL(CIL(r7(XAN(sS(HAE(c9(HIE(eS(o2(HOE(jD(YN
(ELIFI(byng(dK@1CBD(od(kl^(LABIAL^!SUNDANESEcYBINDU SURYA&PANGLONG&PURNAMA&CAKRA&LEUtR&aPtR&betR&bp
tR@1CD0!rQbDKARSHANA%SHARA%PRENKHA$^NIHSHVASA%ygMIDLINEkA$bDygAGGRAVATEDl5kA&l5kA&wal5kA%hvaf%ygwal5
kASCHROEDER%ahkA%cQkA%waqe%ajaf%adaUaf%akaUaf%RIGVEDIC KASHMIRIl5kA%ATHARVAVEDICl5kA$^dAkA&uB%bJdAuB
%dAqe%bJdAqe%dAuB:cq&qe:cq%cDym&BAHIRGOMUKHA&VAMAGOMUKHA(:cq%TIRYAK%HEXIFORMbzcD%bzcD%RTHANGbzcD%cD
UBHAYATO MUKHA%yq%b9yq$bDhvab$^pd%p4%ATIKRAMA$bDbdab%ahbdab$^ahcDym@1D00!cz;<?A(dR$<;bydR$;<?j5B(C(D
(lW(E$<;bybvE(I$;<?J(K(L:as(M(bJN(O(bvO$<;lrO(bvO(O:as&bydh$;<?OU$<;c6aKO&dSaKO$;<?P(bJR(byR(T(U$<;
lrU(DIAERESIZED U(byM$;<?V(W(Z(k1%kJLARYNGEAL SPIRANT%dK!eU;<?ft(h5(c3(eE(gT!hX;<?fs!ea;?A&dR&B&j5B&
D&E&bJE&G&H&I&J&K&L&M&N&bJN&O&OU&P&R&T&U&W%<A&byA&dL&bydR&B&D&E&kx&bvE&bybvE&G&byI&K&M&i2&O&bvO&c6aK
O&dSaKO&P&T&U&lrU&byM&V&dK&f5&eUft&fT&eUeX&e4!cznU<;I(R(U(V!eUnU<;f5(ft(eE(eX(e4!cz<;fp&B:aybb&D:ay
bb&F:aybb&M:aybb&N:aybb&P:aybb&R:aybb)nb_aybb&S:aybb&T:aybb&Z:aybb&byG!ea;hXcG!cz<;gvG&TH:
STRIKETHROUGH%?;I:as%;d4:as&P:as%?;U:as%;ex:as&B:elar&D:elar&F:elar&G:elar&K:elar&L:elar&M:elar&N:el
ar&P:elar&R:elar&S:elar&gp:elar&V:elar&X:elar&Z:elar&A:c4ar&dL:c4ar&D:ar_cq&E:c4ar&bvE:c4ar&bJbvE:c4
ar&kx:c4ar&I:c4ar&bvO:c4ar&gp:c4ar&U:c4ar&k1:c4ar!ea;<bydL&C(:fq&lW&bJbvE&F&h1J:as&e9G&byH&I:as&d4&?
I):as&J:kV&L:c4ar)elar&?L&M:ar&byM:bzgS&N:acar)c4ar&?N&j5O&eX&S:ar&gp&T:elar&UaF&ex&?U&V:ar&byV&Z(:
c4ar)fq&k1&eZ!dkdnbYdj%bldj$t4af$xSai$MACRON-ACUTE$GRAVE-MACRON$MACRON-GRAVE$ACUTE-MACRON$
GRAVE-ACUTE-GRAVE$ACUTE-GRAVE-ACUTE$cz<;Raf$BREVE-MACRON$MACRON-BREVE$ahbBab$hHab$mXaf$ISaf$URab$US
ab$cz<;swbvAab(dR(AO(AV(Ceg(gvD(lW(G%;<?G%<;K(L%;<?L)M%<;N%;<?N)R%<;Rrv(S(bzS(Z(dL(B(f5(kx(F(L:ahay
bb(O:a7r6as(P(gp(U:a7r6as(W(A:bK(O:bK(U:bK$aAdJab$pgabaa&ac$ajabac$rRb1ooaf$ajafac$DELETIONai$ahb1cl
af$g0a5alaf$acbTab$aabT_aJbTaf!cz?;A:bdaf$<;A:bdaf$?;B:ajab$<;B:ajab$?;B:ajaf$<;B:ajaf$?;B:bMaf$<;B:
bMaf$?;C:eg_bl$<;C:eg_bl$?;D:ajab$<;D:ajab$?;D:ajaf$<;D:ajaf$?;D:bMaf$<;D:bMaf$?;D:eg$<;D:eg$?;D:bB
af$<;D:bBaf$?;E:b3_bY$<;E:b3_bY$?;E:b3_bl$<;E:b3_bl$?;E:bBaf$<;E:bBaf$?;E:bbaf$<;E:bbaf$?;E:eg_cl$<;
E:eg_cl$?;F:ajab$<;F:ajab$?;G:b3$<;G:b3$?;H:ajab$<;H:ajab$?;H:ajaf$<;H:ajaf$?;H:bK$<;H:bK$?;H:eg$<;H
:eg$?;H:claf$<;H:claf$?;I:bbaf$<;I:bbaf$?;I:bK_bl$<;I:bK_bl$?;K:bl$<;K:bl$?;K:ajaf$<;K:ajaf$?;K:bMaf
$<;K:bMaf$?;L:ajaf$<;L:ajaf$?;L:ajaf_b3$<;L:ajaf_b3$?;L:bMaf$<;L:bMaf$?;L:bBaf$<;L:bBaf$?;M:bl$<;M:
bl$?;M:ajab$<;M:ajab$?;M:ajaf$<;M:ajaf$?;N:ajab$<;N:ajab$?;N:ajaf$<;N:ajaf$?;N:bMaf$<;N:bMaf$?;N:bB
af$<;N:bBaf$?;O:bb_bl$<;O:bb_bl$?;O:bb_bK$<;O:bb_bK$?;O:b3_bY$<;O:b3_bY$?;O:b3_bl$<;O:b3_bl$?;P:bl$<
;P:bl$?;P:ajab$<;P:ajab$?;R:ajab$<;R:ajab$?;R:ajaf$<;R:ajaf$?;R:ajaf_b3$<;R:ajaf_b3$?;R:bMaf$<;R:bM
af$?;S:ajab$<;S:ajab$?;S:ajaf$<;S:ajaf$?;S:bl_ajab$<;S:bl_ajab$?;S:cS_ajab$<;S:cS_ajab$?;S:ajaf_ajab
$<;S:ajaf_ajab$?;T:ajab$<;T:ajab$?;T:ajaf$<;T:ajaf$?;T:bMaf$<;T:bMaf$?;T:bBaf$<;T:bBaf$?;U:bKaf$<;U:
bKaf$?;U:bbaf$<;U:bbaf$?;U:bBaf$<;U:bBaf$?;U:bb_bl$<;U:bb_bl$?;U:b3_bK$<;U:b3_bK$?;V:bb$<;V:bb$?;V:
ajaf$<;V:ajaf$?;W:bY$<;W:bY$?;W:bl$<;W:bl$?;W:bK$<;W:bK$?;W:ajab$<;W:ajab$?;W:ajaf$<;W:ajaf$?;X:ajab
$<;X:ajab$?;X:bK$<;X:bK$?;Y:ajab$<;Y:ajab$?;Z:bB$<;Z:bB$?;Z:ajaf$<;Z:ajaf$?;Z:bMaf$<;Z:bMaf&H:bMaf&T
:bK&W:bdab&Y:bdab&A:aaaKbd&bzS:ajab*cTas*bHas$?;pOS$<;fT$?;A:ajaf$<;A:ajaf$?;A:arab$<;A:arab$?;A:bB_
bl$<;A:bB_bl$?;A:bB_bY$<;A:bB_bY$?;A:bB_arab$<;A:bB_arab$?;A:bB_bb$<;A:bB_bb$?;A:bB_ajaf$<;A:bB_ajaf
$?;A:cl_bl$<;A:cl_bl$?;A:cl_bY$<;A:cl_bY$?;A:cl_arab$<;A:cl_arab$?;A:cl_bb$<;A:cl_bb$?;A:cl_ajaf$<;A
:cl_ajaf$?;E:ajaf$<;E:ajaf$?;E:arab$<;E:arab$?;E:bb$<;E:bb$?;E:bB_bl$<;E:bB_bl$?;E:bB_bY$<;E:bB_bY$?
;E:bB_arab$<;E:bB_arab$?;E:bB_bb$<;E:bB_bb$?;E:bB_ajaf$<;E:bB_ajaf$?;I:arab$<;I:arab$?;I:ajaf$<;I:aj
af$?;O:ajaf$<;O:ajaf$?;O:arab$<;O:arab$?;O:bB_bl$<;O:bB_bl$?;O:bB_bY$<;O:bB_bY$?;O:bB_arab$<;O:bB_ar
ab$?;O:bB_bb$<;O:bB_bb$?;O:bB_ajaf$<;O:bB_ajaf$?;O:dG_bl$<;O:dG_bl$?;O:dG_bY$<;O:dG_bY$?;O:dG_arab$<
;O:dG_arab$?;O:dG_bb$<;O:dG_bb$?;O:dG_ajaf$<;O:dG_ajaf$?;U:ajaf$<;U:ajaf$?;U:arab$<;U:arab$?;U:dG_bl
$<;U:dG_bl$?;U:dG_bY$<;U:dG_bY$?;U:dG_arab$<;U:dG_arab$?;U:dG_bb$<;U:dG_bb$?;U:dG_ajaf$<;U:dG_ajaf$?
;Y:bY$<;Y:bY$?;Y:ajaf$<;Y:ajaf$?;Y:arab$<;Y:arab$?;Y:bb$<;Y:bb$?;s8dD$<;s8dD$?;s8V$<;s8V$?;Y:gz$<;Y:
gz!eU<;dL:bI)bG)bI_cb)bG_cb)bI_ca)bG_ca)bI_cX)bG_cX$?;dL:bI)bG)bI_cb)bG_cb)bI_ca)bG_ca)bI_cX)bG_cX$<
;eI:bI)bG)bI_cb)bG_cb)bI_ca)bG_ca@1F18$?;eI:bI)bG)bI_cb)bG_cb)bI_ca)bG_ca@1F20$<;fL:bI)bG)bI_cb)bG_
cb)bI_ca)bG_ca)bI_cX)bG_cX$?;fL:bI)bG)bI_cb)bG_cb)bI_ca)bG_ca)bI_cX)bG_cX$<;d4:bI)bG)bI_cb)bG_cb)bI_
ca)bG_ca)bI_cX)bG_cX$?;d4:bI)bG)bI_cb)bG_cb)bI_ca)bG_ca)bI_cX)bG_cX$<;gB:bI)bG)bI_cb)bG_cb)bI_ca)bG_
ca@1F48$?;gB:bI)bG)bI_cb)bG_cb)bI_ca)bG_ca@1F50$<;ex:bI)bG)bI_cb)bG_cb)bI_ca)bG_ca)bI_cX)bG_cX@1F59$
?;ex:bG@1F5B*_cb@1F5D+ca@1F5F+cX$<;dq:bI)bG)bI_cb)bG_cb)bI_ca)bG_ca)bI_cX)bG_cX$?;dq:bI)bG)bI_cb)bG_
cb)bI_ca)bG_ca)bI_cX)bG_cX$<;dL:cb)ca&eI:cb)ca&fL:cb)ca&d4:cb)ca&gB:cb)ca&ex:cb)ca&dq:cb)ca@1F80&dL:
bI_dt)bG_dt)bI_cb_dt)bG_cb_dt)bI_ca_dt)bG_ca_dt)bI_cX_dt)bG_cX_dt$?;dL:bI_ev)bG_ev)bI_cb_ev)bG_cb_ev
)bI_ca_ev)bG_ca_ev)bI_cX_ev)bG_cX_ev$<;fL:bI_dt)bG_dt)bI_cb_dt)bG_cb_dt)bI_ca_dt)bG_ca_dt)bI_cX_dt)
bG_cX_dt$?;fL:bI_ev)bG_ev)bI_cb_ev)bG_cb_ev)bI_ca_ev)bG_ca_ev)bI_cX_ev)bG_cX_ev$<;dq:bI_dt)bG_dt)bI_
cb_dt)bG_cb_dt)bI_ca_dt)bG_ca_dt)bI_cX_dt)bG_cX_dt$?;dq:bI_ev)bG_ev)bI_cb_ev)bG_cb_ev)bI_ca_ev)bG_ca
_ev)bI_cX_ev)bG_cX_ev$<;dL:p7)b3)cb_dt)dt)ca_dt@1FB6)cX*_dt$?;dL:p7)b3)cb)ca)ev$wg$ev$bI$cX$hZ_cX$<;
fL:cb_dt)dt)ca_dt@1FC6)cX*_dt$?;eI:cb)ca&fL:cb)ca)ev$bI_cb&ca&cX$<;d4:p7)b3)hZ_cb+ca@1FD6)cX)hZ_cX$?
;d4:p7)b3)cb)ca@1FDD$bG_cb&ca&cX$<;ex:p7)b3)hZ_cb+ca&eE:bI)bG&ex:cX)hZ_cX$?;ex:p7)b3)cb)ca&eE:bG$hZ_
cb&ca$cb@1FF2$<;dq:cb_dt)dt)ca_dt@1FF6)cX*_dt$?;gB:cb)ca&dq:cb)ca)ev$ca$bG@2000!cGh8!goh8!cGfD!gofD!
THREE-PER-EMfD!FOUR-PER-EMfD!SIX-PER-EMfD!sufD!cYfD!umfD!nhfD!brrSfD%NON-JOINER%nm!qXai!tOai!i8!
NON-BREAKINGi8!suc0!cGc0!goc0!a6aF!ahazbM$bkbM!acbPecai!aabPecai!bPLOW-9ecai$yTecai!acahecai!aaahec
ai!ahLOW-9ecai$yTecai!oy!ahoy!hV!fFhV!aeajwh!adajwh!a6lV!yViz!bMdX!ridX!qXEMBEDDING!tOEMBEDDING!POP
yEFORMATTING!qXOVERRIDE!tOOVERRIDE!pwwEfD!PER MILLE^$bAaY^!jj!ahjj!cQjj!bJjj$ahjj$cQjj!ka!bPfWcwecai
$e8cwecai!REFERENCEai!aheJai!qM!mq!UNDERTIE!g4p2!kav2iz!ASTERISM!i8hV!f9hk!acaRaO:tz!aaaRaO:tz!ahem
ai!emeJai!eJemai!TIRONIAN^in!bJPILCROW^!amaHhV$awhV!bkcO!bJjn!CLOSEaA!adASTERISKS ALIGNEDoa!qtgA^!
SWUNGc0!b1UNDERTIE!qCcYai!akajcY!jNjj!aqajcY!auajcY!adajcY!aqajai!dncP!TRICOLON!azaqaU!bmppfD!hOnm!
vLyp!INVISIBLEaD$dX$aG@2066!qXsP!tOsP!k3STRONGsP!POPyEsP!INHIBIT SYMMETRIC SWAPPING!ACTIVATE
SYMMETRIC SWAPPING!INHIBITf1>SHAPING!ACTIVATEf1>SHAPING!NATIONALbcSHAPES!NOMINALbcSHAPES!iJbr$cz<;I
@2074$aq$au$aB$aI$aC$aN$aG^$gA$dC^$acc2$aac2$cz<;N!nUbr$ae$ad$ak$aq$au$aB$aI$aC$aN$aG^$gA$dC^$acc2$
aac2@2090!cznU<;A(E(O(X(kx(H(K(L(M(N(P(S(T@20A0!EURO-CURRENCY^!dU^!CRUZEIRO^!FRENCH FRANC^!LIRA^!
MILL^!NAIRA^!PESETA^!nK^!WON^!pySHEQEL^!DONG^!EURO^!KIP^!TUGRIK^!vx^!GERMAN PENNY^!PESO^!GUARANI^!
AUSTRAL^!HRYVNIA^!CEDI^!LIVRE TOURNOIS^!SPESMILO^!TENGE^!INDIANnK^!TURKISH LIRA^!NORDICai^!MANAT^!
RUBLE^!LARI^!BITCOIN^!SOM^@20D0!dkaccmab$aacmab$bzazbMfl$cCazbMfl$gl|ab$ij|ab$ac|ab$aa|ab$bdfl$ijbd
fl$glbdfl$akaUab$aqaUab$ENCLOSINGaT%aR%dg%aTm0$acaa|ab$ENCLOSINGrx%KEYCAP%UPWARDb5bh$fyfcfl$ahazasfl
$ANNUITYat$cQUNDERDOT$rRooab$aH|fl$bzahfcfl$awcm:bjbf$aHcm:bjbf$ac|af$aa|af$cOab@2100!ACCOUNTao!
ADDRESSEDaldrSUBJECT!jB?C!sgCELSIUS!ckbMat!CAREao!CADA UNA!EULER CONSTANT!SCRUPLE!sgFAHRENHEIT!e9<G$
?H!qj?H!jB?H!PLANCK CONSTANT%aXadc3!e9?I!qj?I!e9?L$<L!L BaFat!jB?N!NUMERO^!gXRECORDING COPYRIGHT!e9?
P!jB?P%Q!e9?R!qj?R!jB?R!PRESCRIPTION TAKE!RESPONSE!SERVICEai!jq^!TRADEai^!VERSICLE!jB?Z!OUNCE^!OHM^!
b1OHM^!qj?Z!byeU<;d4!KELVIN^!ANGSTROM^!e9?B!qj?C!ESTIMATEDat!e9<E$?E%F!by?F!e9?M$<O!a4at!olat!g6at!
seat!nkxD!b9?Q!FACSIMILE^!jB<c3%ft$?ft%c3$ptuf!byfn?G&L!bJfn?L!byfn?Y!jBjG?D%<D&E&I&J!PROPERTYbM!by
lE!PER^!AKTIESELSKAB!by<F!atdlSAMARITANxD!ycf9aeSEVENTH&NINTH&TENTH&iK%adlx%aeFIFTH%advF%akvF%aqvF%
aeSIXTH%auSIXTHS%aeeB%akhw%auhw%aIhw!f9NUMERATORae!rrkuae%ad%ak%aq%au%aB%aI%aC%aN%bA%i1%if%dN%aeaL%
auaL%aeaY!<rrkuae&ad&ak&aq&au&aB&aI&aC&aN&bA&i1&if&dN&aeaL&auaL&aeaY!rrkuaeaYC D%auaY%bAaY%bJaeaL!cz
<;bJC!rrkuaBLATE>%dNEARLY>&aY%aeaLaY!ycf9brlx!bybcad%ak@2190!aH|!bn|!aw|!bf|!acaa|!aAaJ|!cJcv|$b8|!
cZb8|$cv|!aH|:as!aw|:as!aHfH|!awfH|!aHadsI|!bnadsI|!awadsI|!bfadsI|!aH|:cq!aw|:cq!aH|d1aF!bn|d1aF!aw
|d1aF!bf|d1aF!aAaJ|:BASE!aH|:ar!aw|:ar!aH|:gz!aw|:gz!acaafH|%|:as!bfmX|!bn|:idaH(aw!bf|:idaH(aw!aw|:
dVbf!bf|:dVaH!glc6ry|!ijc6ry|!cJcv|albzaF!aH|alaFaXaw|alaF!glbvaT|!ijbvaT|!aHcm:bjbn(bf!bncm:bjaw(aH
!awcm:bjbn(bf!bfcm:bjaw(aH!aw|aXaH|!bn|aHaobf|!aH|aXaw|$mrg2!bnmrg2!awmrg2!bfmrg2!aHcmaXawcm!awcmaX
aHcm!aHah|:as!acaaah|:as!awah|:as!aHah|!bnah|!awah|!bfah|!acaaah|!aAaJah|!cJcvah|$b8ah|!cZb8ah|$cvah
|!aHcQ|!awcQ|!aHt7|!awt7|!bn|:ahas!bf|:ahas!aHil|!bnil|!awil|!bfil|!aH|alaF!aw|alaF!aHap|!bnap|!awap
|!bfap|!bnap|d1aF&b7PEDESTAL):a6aF*azaF%ah|(b7PEDESTAL!awap|d1jW!cJcv|aldV!cZb8|aldV!aAaJap|!aa|:<aT
!bf|aHaobn|!akawg2!aH|:azas!aw|:azas!acaa|:azas!aH|:ahazas!aw|:ahazas!acaa|:ahazas!aHwG|!awwG|!acaa
wG|!dlALL!COMPLEMENT!muoB!THERE EXISTS$kdcgEXIST!m7jP!INCREMENT!pv!kgao!cgdMkgao!<kgao!lOhTs7!kdcgvb
hTs7!<lOhTs7!duaoPROOF!ptiB$COPRODUCT$uf!gA^!MINUS-OR-PLUS^!ajaG!lRhk!jPgA!cOcW!bdcW!hVcW!aRrs!CUBE
rs!szrs!PROPORTIONALal!o8!aacw!cw!q2cw!SPHERICALcw!DIVIDES!kdcgvt!mtal!cgmtal!is_$bw!gQ!gZ!gc!ahgc!
cQgc!vcgc!SURFACEgc!VOLUMEgc!ijgc$vcgc!glvcgc!THEREFORE!BECAUSE!RATIO!PROPORTION!ajgA!EXCESS!
GEOMETRIC PROPORTION!yU!bbcW!bJbb!b1LAZY S!SINEfH!WREATHiB!cgbb!gAbb!yta5al!cgyta5al!qfa5al$j9cg
ACTUALLYa5al!q7qfjLACTUALLYa5al!g0a5al!cgg0a5al!g0a5bwa5al!cQbb!ALLa5al!hyal!yPhyal!DIFFERENCEgL!
APPROACHESdrLIMIT!yPa5al!qfa5albwdrlbao!lbaobwqfa5al!dUdC!dCdU!bdcna5al$a5al!CORRESPONDSal!ESTIMATES
!EQUIANGULARal!cidC!fTa5al!a5aliWDEFINITION!q2iW!QUESTIONEDa5al!cga5al!sNal!cgsNal!STRICTLYhyal!cfbw
a5al!chbwa5al!cfaXa5al!chaXa5al!cfj9cga5al!chj9cga5al!MUCHcf$ch!gL!cghyal$cf$ch!q7cfjLa5al$chjLa5al!
cfbwhyal!chbwhyal!q7cfjLhyal$chjLhyal!cfbwch!chbwcf!q7cfjLch$chjLcf!iA!iI!iAbwa5al!iIbwa5al!iAbwhyal
!iIbwhyal!kdcgPRECEDE%SUCCEED!eRao!feao!cgAeRao%feao!eRaobwa5al!feaobwa5al!q7AeRaojLa5al%feaojLa5al!
eRao:cga5al!feao:cga5al!MULTISET$jJ$gZ!aRlbao$rgao$lbaobwa5al$rgaobwa5al$CAP$CUP!craG$gA$aD$lRhk$aj
cW$bdcW$cOcW$dC$c0!dFaG$gA$aD$ajcW!aadJ!acdJ!aJdJ!aAdJ!ASSERTION!MODELS!TRUE!FORCES!cQazaFaamS!ahaz
aFahaamS!kdcgPROVE!cgTRUE!kdcgFORCE!NEGATEDahazaFahaamS!iAlztF!iIlztF!ktmJao!lOhTktmJ!ktmJaobwa5al!
lOhTktmJbwa5al!rgao!lbao!wx!HERMITIAN CONJUGATE MATRIX!INTERCALATE!XOR!NAND!jL!aacw:g1$bh!ptis_%bw$
gQ$gZ!dgcW!ajcW!cicW!lRaD!uX!acktvErziB!aaktvErziB!acrziB!aarziB!bJbbdC!eHisbw%_!aheR$fe$gQ$gZ!
PITCHFORK!a5_mtal!cf:aj!ch:aj!eyMUCHcf%ch!cfa5albwch!cha5albwcf!a5albwcf&ch&iA&iI!kdcgPRECEDEbwa5%
SUCCEEDbwa5!cgaRlbaobwa5al%rgaobwa5al!aRlbaobwcga5al$rgaobwcga5al!cfj9cghyal!chj9cghyal!iAj9cghyal!
iIj9cghyal!cgktmJao!kdcgvbhTktmJ!cgktmJaobwa5al!kdcgvbhTktmJbwa5!azlV!MIDLINEa6lV!aAaacTlV!aJaacTlV!
kgao:bza6as&azaFe2duaoa6as!<kgao:azaFe2duaoa6as!kgao:ajab&iy!<kgao:iy!kgao:e1&ada6xO!lO:bza6as%azaF
e2duaoa6as!<lO:azaFe2duaoa6as!lO:iy!<lO:iy!ZmoBAG MEMBERSHIP!DIAMETER^!sn|!qK!aAbT!aJbT!PROJECTIVE!
PERSPECTIVE!kKbM!ackQ!aakQ!ackj!aakj!dSaaCROP$acCROP!c6aaCROP$acCROP!bJcg^!aRit!g1!xm!SECTOR!jq
RECORDER!tsl6!VIEWDATAaR!nFaoINTEREST^!bycg^!WATCH!sL!c6acdV$aadV!dSacdV$aadV!c6aKgc!dSaKgc!FROWN!
SMILE!aAbTgLada6BARS!OPTIONld!ERASEaldraa!XcnAnJeA!qR!fWcwaO!e8cwaO!ERASEaldrac!BENZENEbd!
CYLINDRICITY!ALL AROUND-PROFILE!SYMMETRY!TOTAL RUNOUT!DIMENSION ORIGIN!CONICAL TAPER!SLOPE!
COUNTERBORE!COUNTERSINK!APL FUNCTIONALatI-BEAM&SQUISHh8&h8a5(vt(dg(l7(aT&aTpT(l7&hkaF&m0aF&h8hk(m0(
cf(ch&aHVANE&awVANE&h8aH|(aw|&aTm0&aJdJe1&fTpT&h8aJka(fT&aJdJl7&bnVANE&h8bn|&aAdJiy&DELpT&h8aAka(DEL
&aAdJl7&bfVANE&h8bf|&QUOTEe1&fTe1&dge1&l7e1&aTe1&aAnOl7&QUOTEh8&aTci&h8dU&aAdJbK&DELbK&cibK&l7bK&aT
bK&aJnOpT&acnOpT&bbbK&chbK&ccaF&DELbb&ZILDE&pTbb&jne1&h8cga5(em&aJkabb&aAkabb&d4&eE&dq&dLe1&eIe1&d4
e1&dqe1&dL!cgiYai!aacw:bfmX|!SHOULDEREDbveA!okat!azbM:ayaj!v2at!CONTINUOUS UNDERLINEat!DISCONTINUOUS
UNDERLINEat!EMPHASISat!u8at!apaR:ckazbM!ENTERat!uKldat!HELMat!cra6aF:NOTCH$bhaJ!opaT:NORTHWEST|!
UNDOat!MONOSTABLEat!HYSTERESISat!OPEN-CIRCUIT-OUTPUT H-TYPEat$L-TYPEat!PASSIVE-PULL-DOWN-OUTPUTat!
PASSIVE-PULL-UP-OUTPUTat!vsvgat>ad!SOFTWARE-FUNCTIONat!APL FUNCTIONALath8!vldXldat!PREVIOUSlm!NEXTlm
!PRINTrxat!CLEARrxat!acc2buar%lY%bgar!aac2buar%lY%bgar!acaRaObudV&lY&bgdV!aaaRaObudV&lY&bgdV!aceHaO
buar&aymw&bgar!eHaOlY!aaeHaObuar&aymw&bgar!gclY!a6bMlY!buacbwbgaaeHaOfa$aabwbgaceHaOfa!ufc6$dS!c6aR
aO!dSaRaO&aXc6aRaO!tAatdS!acazeAbM!aaazeAbM!a6SCAN LINE-1%LINE-3%LINE-7%LINE-9!DENTISTRYata7az_c6aa)
dSaa(:aT&aJ_a6:aT&aA_a6:aT&az:bh&aJ_a6:bh&aA_a6:bh&az_fH&aJ_a6:fH&aA_a6:fH&aJ_a6&aA_a6&az_c6ac)dSac!
aRFOOT!roat!EJECTat!azbMlY!METRICALcl$bzaXcC$cCaXbz$bzaXadxs$adxsaXbz&qN$TRISEME$TETRASEME$PENTASEME
!h2GROUND!FUSE!c6c2!dSc2!c6eHaO!dSeHaO!c6gIfbaO!dSgIfbaO!apTRAPEZIUM!BENZENEbd:aT!STRAIGHTNESS!
FLATNESS!ACvg!ELECTRICALgQ!vlEXPONENTat!ame8ahbh$fWahbh$igahbh$i0ahbh$e8ahbh:azaF$fWahbh:azaF$e8bh:
ahazaF!ALARMsc!STOPWATCH!TIMERsc!sL:FLOWING SAND!ambmfWbh%e8bh%igbh%i0bh!ahazaF!amaRdlbQ$aTdlw9!
POWERat$ON-OFFat$b7at$SLEEPat!OBSERVERk0at!atdlNULL%lsaoHEADING(kC%duaokC(uw%ENQUIRY%rV%ok%BACKSPACE
%a6jo%bMoQ%azjo%>oQ%CARRIAGEro%rBhe&cn%DATA LINKsp%oAkUae(ad(ak(aq%hdrV%zQIDLE%duaouwce%r4%duaobm%xP
%sp%oSdX%GROUPdX%w9dX%rNdX%fD%vm!BLANKat!bveA!atdlNEWLINE%vm>ad%xP>ad@2440!OCRar$CHAIR$FORK$b1FORK$
jxBUCKLE$onp2$uYBANKyW$AMOUNTaoiY$c0$CUSTOMER ACCOUNTb6$ahm0@2460!crbcae%ad%ak%aq%au%aB%aI%aC%aN$b6
bA%i1%if%mN%l0%jE%kz%mD%kX%ml%dc!tkbcae%ad%ak%aq%au%aB%aI%aC%aN$b6bA%i1%if%mN%l0%jE%kz%mD%kX%ml%dc!
bcaecBbQ$adcBbQ$akcBbQ$aqcBbQ$aucBbQ$aBcBbQ$aIcBbQ$aCcBbQ$aNcBbQ!b6bAcBbQ$i1cBbQ$ifcBbQ$mNcBbQ$l0cB
bQ$jEcBbQ$kzcBbQ$mDcBbQ$kXcBbQ$mlcBbQ$dccBbQ!tkcz<;A(B(C(D(E(F(G(H(I(J(K(L(M(N(O(P(Q(R(S(T(U(V(W(X(Y
(Z!crcz?;A(B(C(D(E(F(G(H(I(J(K(L(M(N(O(P(Q(R(S(T(U(V(W(X(Y(Z%<;A(B(C(D(E(F(G(H(I(J(K(L(M(N(O(P(Q(R(S
(T(U(V(W(X(Y(Z$bcbr!hdcrb6i1&if&mN&l0&jE&kz&mD&kX&ml&dc!ahcrbcae&ad&ak&aq&au&aB&aI&aC&aN%b6bA!hdcrbc
br!eADRAWINGSa7a6%axa6%a7az%axaz%a7cQc0a6%axcQc0a6%a7cQc0az%axcQc0az%a7jNc0a6%axjNc0a6%a7jNc0az%axjN
c0az%a7aJ_aa%aJa7_aaax&ax_aaa7%axaJ_aa%a7aJ_ac%aJa7_acax&ax_aca7%axaJ_ac%a7aA_aa%aAa7_aaax&ax_aaa7%
axaA_aa%a7aA_ac%aAa7_acax&ax_aca7%axaA_ac%a7az_aa%aza7_aaax%aAax_aaaJa7%aJax_aaaAa7%azax_aaa7%aJa7_
aaaAax%aAa7_aaaJax%axaz_aa%a7az_ac%aza7_acax%aAax_acaJa7%aJax_acaAa7%azax_aca7%aJa7_acaAax%aAa7_acaJ
ax%axaz_ac%a7aJ_a6%acax_aaaJa7%aaax_acaJa7%aJa7_a6ax&ax_a6a7%aaa7_acaJax%aca7_aaaJax%axaJ_a6%a7aA_a6
%acax_aaaAa7%aaax_acaAa7%aAa7_a6ax&ax_a6a7%aaa7_acaAax%aca7_aaaAax%axaA_a6%a7az_a6%acax_aaaza7%aaax_
acaza7%aza7_a6ax%aAax_aJa6a7%aJax_aAa6a7%azax_a6a7%acaAax_aaaJa7%aaaAax_acaJa7%acaJax_aaaAa7%aaaJax_
acaAa7%aJa7_aAa6ax%aAa7_aJa6ax%aaa7_acazax%aca7_aaazax%axaz_a6%a7ahc0a6%axahc0a6%a7ahc0az%axahc0az%
aha6&az%aJbP_aaah&ah_aabP%ahaJ_aa%aJbP_acah&ah_acbP%ahaJ_ac%aAbP_aaah&ah_aabP%ahaA_aa%aAbP_acah&ah_
acbP%ahaA_ac%azbP_aaah&ah_aabP%ahaz_aa%azbP_acah&ah_acbP%ahaz_ac%aJbP_a6ah&ah_a6bP%ahaJ_a6%aAbP_a6ah
&ah_a6bP%ahaA_a6%azbP_a6ah&ah_a6bP%ahaz_a6%a7g1aJ_aa*ac(aA_ac*aa&cTbuaaalbgac)acalbgaa(cP&ac&aA&aa&
aJ%axac&aA&aa&aJ%a7ac_axaa&aA_axaJ%axac_a7aa&aA_a7aJ!buaKce!bgaeeBce%dQce$akhwce$aKce$auhwce$akhJce$
aIhwce!cBce!acaIhwce$akhJce$auhwce$aKce$akhwce$aedQce%eBce!aaaKce!a7hM!bmhM!DARKhM!buaeeBce!aaaeeBce
!hIbgac%aa$buac&_bgac_bgaa)aa(buaa_bgac,aa%aa&_bgac*_bgaa!amaR!apaR%:kvov%m4am<aR!aR:a6h3%azh3%
ORTHOGONAL CROSSHATCHh3%buacalbgaah3&aaalbgach3%cTCROSSHATCHh3!am<aR!ap<aR!amnJ!apnJ!amaznJ!apaznJ!
amzm!apzm!amigbh!apigbh!amig<bh!apig<bh!ame8bh!ape8bh!ame8<bh!ape8<bh!ame8rl!ape8rl!ami0bh!api0bh!am
i0<bh!api0<bh!amfWbh!apfWbh!amfW<bh!apfW<bh!amfWrl!apfWrl!amdg!apdg%m4am<dg!FISHEYE!it!apaT!dnaT!aT:
azh3!BULLSEYE!amaT!aT:acaKam%aaaKam%bgaKam%buaKam&aahIam%ALLj9buachIam!acaKamaT!aaaKamaT!kmhV$apaT!
buaKkmapaT!bgaKkmapaT!buachIqrg1$aahIqrg1!bgaahIqrg1$achIqrg1!buaKaT!bgaKaT!ambgaabh%acbh$buacbh%aa
bh!aphV!aR:acaKam%aaaKam%buaccTaKam%bgaacTaKam!apaR:azBISECTINGbM$igbh:aj!igbh:acaKam&aaaKam!bXaT!ap
aR:buachI&bgachI(aahI&buaahI$aT:buachI&bgachI(aahI&buaahI!buacbh$aabh!bgacbh!apbmaR!ambmaR!apbm<aR!
ambm<aR!bgaabh!amjT:pH!os!rM!xB!COMET!amci!apci!s3!THUNDERSTORM!jT!ASCENDING NODE!vpNODE!CONJUNCTION
!wH!amjq!apjq!m1eA%:iY&X!jO!rM:nIDROPS!HOT BEVERAGE!aptXmw!amtXmw!SHAMROCK!bJb9vHehhV!amacb5a3$aab5
a3!apacb5a3$aAb5a3$aab5a3$aJb5a3!SKULL_CROSSBONES!CAUTION^!RADIOACTIVE^!BIOHAZARD^!CADUCEUS!ANKH!
ORTHODOXcP!e4eE!cPaoLORRAINE%JERUSALEM!ci_ow!m9at!ADI SHAKTI!sG_SICKLE!PEACEat!lCju!TRIGRAMdlsJ%LAKE
%jF%x1%jX%iM%mh%h2!uDaoDHARMA!apsAaQ$gWaQ!amgWaQ!apjT:pH!k3dQeM!LASTdQeM!MERCURY!oR^!h2!me^!JUPITER!
SATURN!URANUS!NEPTUNE!PLUTO!ARIES!TAURUS!GEMINI!CANCER!LEO!VIRGO!LIBRA!SCORPIUS!SAGITTARIUS!
CAPRICORN!AQUARIUS!PISCES!apdTgx%hh%jk%iU%et%jh!amdTgx%hh%jk%iU%et%jh$SPADElu!apehlu$dglu!amCLUBlu!
apSPADElu!amehlu$dglu!apCLUBlu!HOT SPRINGS!dQfY!eBfY!BEAMEDeBrc$pSrc!MUSICoT^$NATURAL^$pO^!cvrDcP!b8
rDcP!UNIVERSALxaat!xaatdlTYPE-1nG&TYPE-2nG&TYPE-3nG&TYPE-4nG&TYPE-5nG&TYPE-6nG&TYPE-7nG&GENERIC
MATERIALS!amUNIVERSALxaat!RECYCLEDtjat!PARTIALLY-RECYCLEDtjat!PERMANENTtj^!yeat!DIE FACE-1$FACE-2$
FACE-3$FACE-4$FACE-5$FACE-6!apaT:ajaa&adaU!amaT:apajaa&adapaU!psdlju%lC!DIGRAMdlGREATERju%LESSERlC&
ju%GREATERlC!api5!ami5!sG_PICK!ANCHOR!ikSWORDS!mHaoAESCULAPIUS!SCALES!ALEMBIC!qC!GEAR!mHaoHERMES!
ATOMat!FLEUR-DE-LIS!nEapci!akLINES CONVERGINGaa&ac!WARNING^!bHVOLTAGE^!sjoR^$me^!INTERLOCKEDoR_me^!
me_oR^$:as^&_me_oR^!azme:as^!a6me:as^!bmapaT$amaT$<apaT!MARRIAGEat!DIVORCEat!UNMARRIEDzoat!COFFIN!
FUNERAL URN!NEUTER!CERES!PALLAS!JUNO!VESTA!CHIRON!ameMLILITH!SEXTILE!SEMISEXTILE!QUINCUNX!
SESQUIQUADRATE!SOCCERiT!BASEBALL!dFld!apDRAUGHTSfP%gx!amDRAUGHTSfP%gx!xBrTSNOW!jTBEHINDos!nI!amxB!x1
os_nI!byaptXmw$amtXmw!apdgcnaR!d0LANES!DISABLEDlK!OPHIUCHUS!PICK!lKSLIDING!sK:apcP!crd0LANES!CHAINS!
daENTRY!fgONE-WAYacWAYrJ!amTWO-WAYacWAYrJ!apTWO-WAYacWAYrJ!amacLANE MERGE!apacLANE MERGE!DRIVE SLOW^
!axapi0bh!acdBENTRY!dFjO!m8cTcnapaTcnamaR!amTRUCK!RESTRICTEDacENTRY-1%ENTRY-2!ASTRONOMICALatdlURANUS
!axaT:as_adaUab!tn!RIGHT-HANDED INTERLACEDtn!LEFT-HANDED INTERLACEDtn!b1tn!amcPb7xr!SHINTO SHRINE!
CHURCH!u3!HISTORIC SITE!GEARrTHUB$:HANDLES!MAPatdlLIGHTHOUSE!mh!rMb7GROUND!FOUNTAIN!i5cnHOLE!FERRY!
SAILBOAT!aRaqov!SKIER!l4SKATE!hg:iT!TENT!nlBANKat!HEADSTONE GRAVEYARDat!FUEL PUMP!CUPb7amaR!api5:a6
ayamSTRIPE!amxjpM!buBLADEpM!ampM!bgBLADEpM!appM$axiYai!jqwn^!TAPE DRIVE!mY!kY!eOFIST$d2!VICTORYd2!
WRITINGd2!bgaatm!tm!buaatm!apNIB!amNIB!iYai!axiYai!jJX!axjJX!m1X!axm1X!nEeUcP!axeUcP!bvckcP!axbvckcP
!czcP!iGapczcP!nEczcP!MALTESEcP!ciaoDAVID!aqn1cO$uScO!axaquScO!aqCLUB-SPOKEDcO!amaqdEci!apaqdEci!
SPARKLES!xLnEapci!crapci!bvckamci!amckapci!nEamci!axnEamci!loci!iGapci!axcO!bvckcO!aCgFcO$dEamci%lo
ci!aBdEamci!aCdEzBamci!axaCdEzBamci!ifdEamci!kzdEcO!n1cO!bvckn1cO!axn1cO!aBPETALLEDam_apsy!amsy!apsy
!aCPETALLEDnEamsy!crbvckaCdEci!axn1locO!xA!TIGHT TRIFOLIATExA!axCHEVRONxA!SPARKLE!axSPARKLE!uScO!aC
n1PROPELLERcO!axaCn1PROPELLERcO!cPai!iGapaT!hddFcPai!bgaayIapaR!buaayIapaR!bgaaiGapaR!buaaiGapaR!am
emaicA!apemaicA$eJaicA!amdggAapX!axeJaiat!a7azaF!bmazaF!axazaF$bPbyccecaicA%ccecaicA$ahbyccecaicA%cc
ecaicA$bkbPccecaicA%ahccecaicA!jAltri^cA!axeJaicA$eheJaicA$ameh!b9axamehhV!vHeh!b9vHehhV!bmacc2cA$aa
c2cA$swacc2cA%aac2cA$fWcwaOcA$e8cwaOcA!axfWcwecaicA$e8cwecaicA$fWcwaOcA$e8cwaOcA!a7acgIfbaOcA$aagIfb
aOcA!bmaceHaOcA$aaeHaOcA!DINGBAThdcrbcae(ad(ak(aq(au(aB(aI(aC(aN&b6bA$crfnbcae(ad(ak(aq(au(aB(aI(aC(
aN&b6bA$hdcrfnbcae)ad)ak)aq)au)aB)aI)aC)aN(b6bA!axz7aw|$aG^$gA^$lR^$cZb8|$aw|$cJb8|!DRAFTINGizaw|!ax
ROUND-TIPPEDaw|!bRaw|!axbRaw|!ilbRaw|!axilbRaw|!amaw|!THREE-Dx4awbT$BOTTOM-LIGHTEDawbT!amawbT!axamjA
bf_aw|&bn_aw|!SQUATamaw|!axCONCAVE-POINTEDamaw|!xgapaw|!wkapaw|!uOiGapaw|!vKiGapaw|!axbgtNapaw|$butN
apaw|!ljbgtNapaw|!eHgz!ljbutNapaw|!craxapaw|!WHITE-FEATHEREDaw|!yucZb8|$aw|$cJb8|!axyucZb8|%aw|%cJb8
|!TEARDROP-BARBEDaw|!axTEARDROP-SHANKEDaw|!z6aw|!axz6aw|!OPEN-OUTLINEDaw|!aheHgz!akDIMENSIONALcw!ap
bhm4<apbh!wS!bveR$fe!acS-SHAPED BAGsh!aaS-SHAPED BAGsh!bw:ajgb!fyfcPRECEDINGeR!fePRECEDINGfc!azaF:a6
as!ppiFcT!bzlR!ppm8cT!dFis_%bw!apdg:lLaj!_:aj!kgaorfbn!bgaadV:aj!buacdV:aj!acOUTER JOIN!aaOUTER JOIN
!cBOUTER JOIN!bXaAdJ$aJdJ!ac_aaahmS&dJ$wx!bzaadJ$acdJ!aAdJ:aTab!itvuiWa6RULE!apCONCAVE-SIDEDdg&:aHkD
(awkD$aR:aHkD&awkD!ppacapaRaO$aaapaRaO$accwaO$aacwaO$acahcwaO$aaahcwaO$acapgIfbaO$aaapgIfbaO$acswc2$
aaswc2!bnjN|!bfjN|!glGAPPEDaT|!ijGAPPEDaT|!aa|:craG!bzaH|$aw|$acaa|$aHah|$awah|$acaaah|$aH|d1aF$aw|
d1aF$aHah|d1aF$awah|d1aF%t7|!BRAILLE PATTERN BLANK%DOTS-1%DOTS-2%DOTS-12%DOTS-3%DOTS-13%DOTS-23%
DOTS-123%DOTS-4%DOTS-14%DOTS-24%DOTS-124%DOTS-34%DOTS-134%DOTS-234%DOTS-1234%DOTS-5%DOTS-15%DOTS-25%
DOTS-125%DOTS-35%DOTS-135%DOTS-235%DOTS-1235%DOTS-45%DOTS-145%DOTS-245%DOTS-1245%DOTS-345%DOTS-1345%
DOTS-2345%DOTS-12345%DOTS-6%DOTS-16%DOTS-26%DOTS-126%DOTS-36%DOTS-136%DOTS-236%DOTS-1236%DOTS-46%
DOTS-146%DOTS-246%DOTS-1246%DOTS-346%DOTS-1346%DOTS-2346%DOTS-12346%DOTS-56%DOTS-156%DOTS-256%
DOTS-1256%DOTS-356%DOTS-1356%DOTS-2356%DOTS-12356%DOTS-456%DOTS-1456%DOTS-2456%DOTS-12456%DOTS-3456%
DOTS-13456%DOTS-23456%DOTS-123456%DOTS-7%DOTS-17%DOTS-27%DOTS-127%DOTS-37%DOTS-137%DOTS-237%
DOTS-1237%DOTS-47%DOTS-147%DOTS-247%DOTS-1247%DOTS-347%DOTS-1347%DOTS-2347%DOTS-12347%DOTS-57%
DOTS-157%DOTS-257%DOTS-1257%DOTS-357%DOTS-1357%DOTS-2357%DOTS-12357%DOTS-457%DOTS-1457%DOTS-2457%
DOTS-12457%DOTS-3457%DOTS-13457%DOTS-23457%DOTS-123457%DOTS-67%DOTS-167%DOTS-267%DOTS-1267%DOTS-367%
DOTS-1367%DOTS-2367%DOTS-12367%DOTS-467%DOTS-1467%DOTS-2467%DOTS-12467%DOTS-3467%DOTS-13467%
DOTS-23467%DOTS-123467%DOTS-567%DOTS-1567%DOTS-2567%DOTS-12567%DOTS-3567%DOTS-13567%DOTS-23567%
DOTS-123567%DOTS-4567%DOTS-14567%DOTS-24567%DOTS-124567%DOTS-34567%DOTS-134567%DOTS-234567%
DOTS-1234567%DOTS-8%DOTS-18%DOTS-28%DOTS-128%DOTS-38%DOTS-138%DOTS-238%DOTS-1238%DOTS-48%DOTS-148%
DOTS-248%DOTS-1248%DOTS-348%DOTS-1348%DOTS-2348%DOTS-12348%DOTS-58%DOTS-158%DOTS-258%DOTS-1258%
DOTS-358%DOTS-1358%DOTS-2358%DOTS-12358%DOTS-458%DOTS-1458%DOTS-2458%DOTS-12458%DOTS-3458%DOTS-13458
%DOTS-23458%DOTS-123458%DOTS-68%DOTS-168%DOTS-268%DOTS-1268%DOTS-368%DOTS-1368%DOTS-2368%DOTS-12368%
DOTS-468%DOTS-1468%DOTS-2468%DOTS-12468%DOTS-3468%DOTS-13468%DOTS-23468%DOTS-123468%DOTS-568%
DOTS-1568%DOTS-2568%DOTS-12568%DOTS-3568%DOTS-13568%DOTS-23568%DOTS-123568%DOTS-4568%DOTS-14568%
DOTS-24568%DOTS-124568%DOTS-34568%DOTS-134568%DOTS-234568%DOTS-1234568%DOTS-78%DOTS-178%DOTS-278%
DOTS-1278%DOTS-378%DOTS-1378%DOTS-2378%DOTS-12378%DOTS-478%DOTS-1478%DOTS-2478%DOTS-12478%DOTS-3478%
DOTS-13478%DOTS-23478%DOTS-123478%DOTS-578%DOTS-1578%DOTS-2578%DOTS-12578%DOTS-3578%DOTS-13578%
DOTS-23578%DOTS-123578%DOTS-4578%DOTS-14578%DOTS-24578%DOTS-124578%DOTS-34578%DOTS-134578%
DOTS-234578%DOTS-1234578%DOTS-678%DOTS-1678%DOTS-2678%DOTS-12678%DOTS-3678%DOTS-13678%DOTS-23678%
DOTS-123678%DOTS-4678%DOTS-14678%DOTS-24678%DOTS-124678%DOTS-34678%DOTS-134678%DOTS-234678%
DOTS-1234678%DOTS-5678%DOTS-15678%DOTS-25678%DOTS-125678%DOTS-35678%DOTS-135678%DOTS-235678%
DOTS-1235678%DOTS-45678%DOTS-145678%DOTS-245678%DOTS-1245678%DOTS-345678%DOTS-1345678%DOTS-2345678%
DOTS-12345678!awjV|:azas(ahazas!aHah|:azas!awah|:azas!acaaah|:azas!awjV|d1aF!aHah|d1aF!awah|d1aF!bf|
:a6as!bn|:a6as$cQ|!bfcQ|!aHahc0|!awahc0|!aHcQc0|!awcQc0|$jVcQc0|$|:dnlt!bn|alaF!bf|alaF!aw|:cq:azas)
ahazas$jV|:cq):azas*ahazas!aHrY!awrY!aHahrY!awahrY!aH|alamdg!aw|alamdg!aH|d1aFalamdg!aw|d1aFalamdg!
cJcv_cZb8|$b8_cZcv|$cv|:ar$b8|:ar!cZb8|:ar$cv|:ar!cJcv|_cJb8|$b8|_cZb8|!cZb8|_cZcv|$cv|_cJcv|!iFcTd0
m8cT!m8cTd0iFcT!cZb8|d0cJb8|!cJb8|d0cZb8|!m8cTd0cJb8|!iFcTd0cZb8|!cJb8|d0cJcv|$cv|d0cJb8|!fH|b5
DIRECTLYaa!|b5awn4vhbn)bf%bfn4vhaH)aw!RIGHT-SIDEg1ij|!LEFT-SIDEg1gl|!c6g1gl|!dSg1gl|!c6g1ij|:gA%gl|:
aG!bgaaxpij|$acxpgl|!gldBaT|!ijdBaT|!aw|abcCaH|!aH|abcCaw|!cCaw|abaH|!aw|:aGaf!aH|:aGaf!aw|icX!acaa|
ic<aT!bnjV|d1<aT!acbjaAaabjaJcm%aJaabjaAcm!aAbjaaaJbjaccm%acaJbjaacm!acbjaAaabjaAcm!aAbjaaaJbjaacm!
acbjaJaabjaJcm!aAbjacaJbjaccm!aHcm:bjaAalaF!awcm:bjaAalaF!bncm:bjaaalaF!bfcm:bjaaalaF!aHcm:bjaJalaF!
awcm:bjaJalaF!bncm:bjacalaF!bfcm:bjacalaF!aHcm:bjaAd1aF!awcm:bjaAd1aF!bncm:bjaad1aF!bfcm:bjaad1aF!aH
cm:bjaJd1aF!awcm:bjaJd1aF!bncm:bjacd1aF!bfcm:bjacd1aF!aHcm:bjaAabaHcm:bjaJ!bncm:bjacj6bncm:bjaa!awcm
:bjaAabawcm:bjaJ!bfcm:bjacj6bfcm:bjaa!aHcm:bjaAabawcm:bjaA(aJabawcm:bjaJ!awcm:bjaAabaHcm:bjaA(aJabaH
cm:bjaJ!aHcm:bjaAabbzc0(aJafbzc0!awcm:bjaAabbzc0(aJafbzc0!bncm:bjacj6bfcm:bjaa!bfcm:bjacj6bncm:bjaa!
aaah|:kvga!dC^abaw|!bbcWabaw|!aH|abbbcW!aw|abbbcW&g0a5al!cfabaH|!aH|iccf!chabaw|!eRabaw|!aH|iceR!fe
abaH|!ackhcq!aakhcq!aAkhcq!aJkhcq!cQazaFsh!ZmoSPOT%TYPEdU!acapeHaO!aaapeHaO!acapc2!aaapc2!ZmoaclbaO%
aalbaO%acBINDINGaO%aaBINDINGaO!acaRaO:e1!aaaRaO:e1!acaRaO:kDcnc6dV!aaaRaO:kDcndSdV!acaRaO:kDcndSdV!
aaaRaO:kDcnc6dV!accwaO:aj!aacwaO:aj!acg1cfaO!aag1chaO!ahacg1chaO$aag1cfaO!acamgIfbaO!aaamgIfbaO!dnqA
!azmXbM!q2cwrfac!aacwfG:aR!q2aacw:aj!cw:Sgb!blcw!SPHERICALcwrfac&aA!bycw!bJcw!cw:e1!bJcw:e1!hGcwrfaA
&aJ!q2cw:bvARM ENDINGcn|b5aA_aa~ac.aJ_aa~ac.aa_aA.ac_aA.aa_aJ.ac_aJ!bJm7jP!m7jP:iy&<aTab&aa|ab&ac|ab
!aT:a6aF!crazaF$mt$fyfc$wS!aTvuiWa6aF_c6aKvuiWazaF$:SUPERIMPOSED X!crANTICLOCKWISE-ROTATEDlR^!aA|ic
aT!craphV$hV$cf$ch!aT:<aTaldraa%ada6xOaldraa!dFiFcThk$m8cThk$cO$<aT$aR!adqNt6!bh:ajab%e1!Scnbh!bh:tU
e2dS!aabhabacbh!acbhj6azaF!azaFj6aabh!uX:acaKam%aaaKam!amuX!aD:acaKam%aaaKam!apsL!amsL!acp9qA!aap9qA
!acahp9qA!aaahp9qA!INCOMPLETEo8!p2aXo8!o8NEGATED:azaF!DOUBLE-ENDEDwx!aR:CONTOURED OUTLINE!INCREASES
hT!SHUFFLEiB!dC^_fCmt):bbab!sNal_fCmt!GLEICH STARK!THERMODYNAMIC!i0bh:acaKam&aaaKam!amdg:aJ|$it!apaT
:aJ|!amaT:aJ|!ERROR-BARREDapaR$amaR$apdg$amdg$apaT$amaT!RULE-DELAYED!fyfccW!fc:iy!fyfc:a6as!hUfc$fy
fc!ahaG!cQaG!fWjAcwaO!e8jAcwaO!rH!MINY!ptcrajcW%aGcW%aDcW$gZcW:aj(aG$aRgQcW%gZcW!adis_cW%bwcW!ptaDcW
!MODULOadpW!uf:gc!jNgccW!FINITE PARTgc!gc:ahas$AVERAGE:hk!CIRCULATIONvL!gly1!bMy1:zAPATHuMrm&xpPATH
uMrm%cgINCLUDINGdrrm!gcuMAizcW!QUATERNIONgccW!gc:aH|:ar%aD^%gQ%gZ%iy%e1!JOIN!bXacbhcW!ZmoSCHEMAu8&
PIPING&PROJECTION!aG^:<aTab&bBdjab&bbab&ajaf&bbaf&nUad&ambh!gA^:ccab&ajaf&m8aU&iFaU!aG^cnacaKaT&aaaK
aT!VECTORbwcPiB!jJ^:ajab&e1!rziB:dSdB!SMASHiB!jJ^cnacaKaT&aaaKaT!crjJ^:bBdj!jJ^cnahaT!crlR^!aG^cnbh!
gA^cnbh!jJ^cnbh!INTERIORiB!RIGHTHAND INTERIORiB!ZmoRELATIONALu8!AMALGAMATIONbwCOPRODUCT!gQ:aj!gZ:gA^
%iy!gQ:iy%is_!gZ:isbw$abgQ!gQabgZ!gZabaFabgQ!gQabaFabgZ!gZj6_qN:gZ!gQj6_qN:gQ!dBgZ:tU$gQ:tU!ahaRgQ%
gZ!dBgZ:tU_SMASHiB!is_:ajab$bw:ajab!ahis_%bw!adINTERSECTINGis_&bw!SLOPINGbXbw%_!isbwwLis_$_:aylt$bw:
aylt$_:a6c0$bw:a6c0$_:ahiy&e1&ahe1!<mU:e1!isbw:ahiy(e1!ZmoDOMAINyo%RANGEyo!dC^:ajaf!sN:ajab!cQa6aF:
ahazas(cQazas!bbcW:ajab&iFaU!nRgAnR!CONGRUENT:ajab!dC:cO!g0a5al:bBdj!qfa5bwa5al!dC^abaG^!aG^abdC^!dC
^abbbcW!ahdUa5!adyzdCSIGNS!akyzdCSIGNS!dC^:adaUab_adaUaf!hy:aqaUab!cf:aTgb!ch:aTgb!cf:emaiab!ch:emai
ab!cfbwfCa5al!chbwfCa5al!cfbwfCa5al:ajgb!chbwfCa5al:ajgb!cfbwfCa5al:ajab!chbwfCa5al:ajab!cfbwfCa5al:
ajabaa!chbwfCa5al:ajabac!cfbwrX!chbwrX!cf_pRcga5al!ch_pRcga5al!cf_cgrX!ch_cgrX!cfaboGa5abch!chaboGa5
abcf!cfabnRbwa5!chabnRbwa5!cfabnRabch!chabnRabcf!cfabchaboGa5!chabcfaboGa5!cfabfCa5abchabfCa5!chabfC
a5abcfabfCa5!fCa5albwcf(ch(cf:ajgb(ch:ajgb!oGa5albwcf(ch$fCa5albwcf)ch!nRbwcf%ch$abcfabdC^%chabdC^!
ahNESTEDcf%ch%cf:e1!chwLcf$j6cf!cfdBiWgn!chdBiWgn!cfdBiWgnabfCa5!chdBiWgnabfCa5!SMALLERp0!LARGERp0!
SMALLERp0bwa5al!LARGERp0bwa5al!dC^:BUMPYab!iAabpRdC^!iIabpRdC^!iAabpRcga5al!iIabpRcga5al!iAabdC^!iI
abdC^!iAabcga5al!iIabcga5al!iAabg0a5al!iIabg0a5al!iAabcgg0a5al!iIabcgg0a5al!ahiA$iI!eR:aj!fe:aj!eR:
aG^af!fe:aG^af!eR:jJ^af!fe:jJ^af!eRaobwa5al:ajab!feaobwa5al:ajab!eRaoabdC^!feaoabdC^!eRaoabbbcW!feao
abbbcW!eRaoabg0a5al!feaoabg0a5al!eRaoabcga5al!feaoabcga5al!aRacbveAcW$aabveAcW!dBeR$fe$eRbwa5al$febw
a5al!eRabfe!feabeR!eRabeR!feabfe$j6eR%_qNiWc0:eR!kgaorfbf!PITCHFORK:pZc6!TRANSVERSALgQ!FORKING!
NONFORKING!cCacdJ$aJdJ$aAdJ!wS:S!azaFcQaamS!ahazaFacmS!azaFahacmS!ahazaFahacmS!bzc0d1acs7aoahaz!cCaJ
dJ:iy$aAdJ:e1&abcCaJdJ!ahaJdJ$aAdJ$ascg^!bJahascg^!kdcgvt:bJNEGATIONhk!azbM:aTab(af!aJdJ:aTaf!mt:a6
as%bbcW!cQazaFBINARYtF&:a6as$dUcW$NESTEDcf%ch!oGfCcfbwa5al%chbwa5al!cQfcBINARYtF!bXcQazaFcW!ahfccW!
apazaF!ptapazaF!cJb8ap|$cvap|!cZb8ap|$cvap|!acaaap|!aHam|!bnam|!bfam|!cJb8am|$cvam|!cZb8am|$cvam|!ac
aaam|!aAaJam|!aw|:idbf(bn!aH|:idbf(bn!aR:c6aKam%dSaKam%buaacTaKam%bgaccTaKam!dg:acaKam%aaaKam%c6aKam
%dSaKam!dnaR!ambXaR!apbXaR!amey<aR!apey<aR!amrj!aprj$vY!amvY!a6amvY!ambXaT$bmdg!apbmdg!ambmit!apbmit
!am<dg%it!ap<it!ama6so!apa6so!amazso!apazso!ac|:<aT!akaHg2!ac|:craG!bzaHt7|!aHjV|:azas(ahazas&d1aF%
cQc0|$|:dnlt&cq:azas)ahazas$jV|:cq):azas*ahazas$|icX!fH|b5DIRECTLYac!dC^abaH|!fybbcWabaH|!aH|abfyg0
a5al!aw|icch&fe!aHjN|!awjN|!fybbcWabaw|!aw|abfyg0a5al!bbcWabaH|!aH|abg0a5al&fybbcW!aw|abfybbcW!bfbR
mX|!cCfCcJ|$uPcZ|!apbmci!am<ci!ap<ci!ame8rj!ape8rj!axbXaT$OVAL:OVALgb$aT:aTgb%$crjO!fCcJ|:o5ga!uPcZ|
:o5cq!fCcJ|:a6cq!uPcZ|:a6cq!d6|b5bfn4cJb8!cCd6|b5bfn4cJb8!aHbR|!bnbR|!awbR|!bfbR|!acaabR|!aAaJbR|!cJ
cvbR|$b8bR|!cZb8bR|$cvbR|!aHbRil|!bnbRil|!awbRil|!bfbRil|!ijbRbvaT|!glbRbvaT|!aHbR|alaF!bnbR|alaF!aw
bR|alaF!bfbR|alaF@2B76!cJcvbR|alaF$b8bR|alaF!cZb8bR|alaF$cvbR|alaF!aHbR|:aha6as!bnbR|:aha6as!awbR|:
aha6as!bfbR|:aha6as!a6lvld!azlvld!aHbR|aXawbR|!bnbR|aHaobfbR|!awbR|aXaHbR|!bfbR|aHaobnbR|!aHbRmrg2!
bnbRmrg2!awbRmrg2!bfbRmrg2!aHamcrap|!bnamcrap|!awamcrap|!bfamcrap|!glbRaarL|%dSrL|%acrL|%c6rL|!roac$
aa!NEWLINEac$aa!aqdVg2CIRCLINGgl!awam|@2B97!atdlTYPE A ELECTRONICS!THREE-Dx4aHe5bT$RIGHT-LIGHTEDbne5
bT$x4awe5bT$LEFT-LIGHTEDbfe5bT!amaHe5bT$bne5bT$awe5bT$bfe5bT!bfbR|:bzidaH*aw!bnbR|:bzidaH*aw!aHbR|:
bzidbn!awbR|:bzidbn!aHbR|:bzidbf!awbR|:bzidbf!amjAbf_aH|(aw|%bn_aH|(aw|%aH_bn|%aw_bn|%aH_bf|%aw_bf|!
tG|aJac&aa%aAac&aa%acaA%aaaA%acaJ%aaaJ!bnap|d1aF:a6aF!aAbTcnAnJeA!wLapt6%_amt6$amt6!m1eA:a7X!crX$efX
!amaRlL$dglL!byamrj!a6amOCTAGON!amOCTAGON$bmigbhlL%i0bhlL%fWbhlL%e8bhlL!NEPTUNE>ad!c6aKamaT!dSaKamaT
!a7aqdEamCUSP!b9a7aqdEamCUSP!apaqdECUSP!b9apaqdECUSP!aRtsl6!UNCERTAINTY^!GROUPai!PLUTO>ad%ak%aq%au!
TRANSPLUTO!PROSERPINA!ASTRAEA!HYGIEA!PHOLUS!NESSUS!apeMSELENA!amdgb7cP!TRUEa7eMARTA!CUPIDO!HADES!
ZEUS!KRONOS!APOLLON!ADMETOS!VULCANUS!POSEIDON!acaKamci!aaaKamci!ci:acaKam%aaaKam!aHjV|:bhrZ!bnjV|:bh
rZ!awjV|:bhrZ!bfjV|:bhrZ!ERIS>ae%ad!SEDNA!RUSSIANysatVIGINTILE&NOVILE&QUINTILE&BINOVILE&SENTAGON&
TREDECILE!dC^:o8af!UNITEDat!SEPARATEDat!sjat!PASSEDat!bJaacw!HELLSCHREIBER PAUSEat!GLAGOLITIC?;AZU&
BUKY&VEDE&vP&DOBRO&YESTU&yk&sk&yj&pa&avpa&I&vv&KAKO&wm&q5&NASHI&ONU&wY&RITSI&SLOVO&x7&UKU&FRITU&HERU
&OTU&cN&SHTA&n8&qq&bO&jZ&YERI&YATI&SPIDERYaM&dw&<eo):cq&dY&o9<eo&hUeo&o9hUeo&nc&pb&SHTAPIC&
TROKUTASTI A&LATINATEq5&CAUDATEqq$<;AZU&BUKY&VEDE&vP&DOBRO&YESTU&yk&sk&yj&pa&avpa&I&vv&KAKO&wm&q5&
NASHI&ONU&wY&RITSI&SLOVO&x7&UKU&FRITU&HERU&OTU&cN&SHTA&n8&qq&bO&jZ&YERI&YATI&SPIDERYaM&dw&<eo):cq&dY
&o9<eo&hUeo&o9hUeo&nc&pb&SHTAPIC&TROKUTASTI A&LATINATEq5&CAUDATEqq!cz?;L:ahaF$<;L:ahaF$?;L:aybb&P:as
&R:cq$<;A:as&T:cTas$?;H:df$<;H:df$?;K:df$<;K:df$?;Z:df$<;Z:df$?;dL&M:ar&byA(dL$<;V:aaar$?;W:ar$<;W:
ar&V:fq$?;aKH$<;aKH&TAILLESSeX&E:NOTCH&byR:cq&O:bkbdgb$;<?byE$nU<;J!ea;?V!cz?;S:pYcq&Z:pYcq!eT?;ALFA
$<;ALFA$?;VIDA$<;VIDA$?;ft$<;ft$?;DALDA$<;DALDA$?;EIE$<;EIE$?;SOU$<;SOU$?;ZATA$<;ZATA$?;HATE$<;HATE$
?;THETHE$<;THETHE$?;IAUDA$<;IAUDA$?;KAPA$<;KAPA$?;LAULA$<;LAULA$?;ej$<;ej$?;dP$<;dP$?;KSI$<;KSI$?;O$
<;O$?;c3$<;c3$?;eF$<;eF$?;SIMA$<;SIMA$?;gG$<;gG$?;UA$<;UA$?;jD$<;jD$?;KHI$<;KHI$?;gT$<;gT$?;OOU$<;
OOU$?;lQa4$<;lQa4$?;cteTdK$<;cteTdK$?;kWEIE$<;kWEIE$?;lQKAPA$<;lQKAPA$?;lQdP$<;lQdP$?;kWdP$<;kWdP$?;
cteTOOU$<;cteTOOU$?;pJ$<;pJ$?;ikmE$<;ikmE$?;cteTmE$<;cteTmE$?;cteTgp$<;cteTgp$?;AKHMIMICpj$<;
AKHMIMICpj$?;lQo6$<;lQo6$?;cteTo6$<;cteTo6$?;cteTaM$<;cteTaM$?;L-SHAPEDaM$<;L-SHAPEDaM$?;cteTHEI$<;
cteTHEI$?;cteTni$<;cteTni$?;cteToW$<;cteToW$?;cteTDJA$<;cteTDJA$?;cteTnN$<;cteTnN$?;ctlknN$<;ctlknN$
?;ctlkNGI$<;ctlkNGI$?;ctlkh7$<;ctlkh7$?;ctlkWAU$<;ctlkWAU$atpe%ejeF%c3eF%STAUROS%gGeF%KHIeF%nNSIMA$?
;kWmE$<;kWmE$?;kWoW$<;kWoW$dkdPab%SPIRITUS ASPER&LENIS$?;BOHAIRICpj$<;BOHAIRICpj@2CF9$ctlkcBbQ&vsem
ai&INDIRECTemai&VERSEoE$f9aeaK$cBbQ$MORPHOLOGICALoE!qE<;dM&BAN&ng&DON&cG&VIN&ZEN&TAN&cn&pf&LAS&fP&
NAR&b7&PAR&uG&pG&pK&n0&UN&tp&sV&sB&QAR&ed&sa&hu&JIL&CIL&r7&XAN&sS&HAE&c9&HIE&eS&o2&HOE@2D27&YN@2D2D&
od@2D30!TIFINAGH;a2%YAB%YABH%YAG%YAGHH%BERBER ACADEMY YAJ%YAJ%YAD%YADH%YADD%YADDH%YEY%YAF%YAK%n9YAK%
YAKHH%YAH%BERBER ACADEMY YAH%n9YAH%YAHH%qa%YAKH%n9YAKH%YAQ%n9YAQ%en%YAZH%AHAGGAR YAZH%n9YAZH%YAL%YAM
%YAN%n9YAGN&ju%YAP%dw%YAR%YARR%YAGH%n9YAGH%AYER YAGH%YAS%YASS%YASH%lB%YATH%YACH%YATT%YAV%YAW%YAY%YAZ
%TAWELLEMET YAZ%YAZZ%hp%dY@2D6F$ea;LABIALIZATIONai$dXai@2D7F$fhnm!sqgYLOA%MOA%ROA%SOA%SHOA%BOA%TOA%
COA%NOA%NYOA%eqOA%ZOA%DOA%DDOA%JOA%THOA%CHOA%PHOA%POA%GGWA%GGWI%GGWEE%GGWE@2DA0%db%SSU%SSI%SSAA%SSEE
%SSE%SSO@2DA8%CCA%CCU%CCI%CCAA%CCEE%CCE%CCO@2DB0%ZZA%ZZU%ZZI%ZZAA%ZZEE%ZZE%ZZO@2DB8%CCHA%CCHU%CCHI%
CCHAA%CCHEE%CCHE%CCHO@2DC0%QYA%QYU%QYI%QYAA%QYEE%QYE%QYO@2DC8%KYA%KYU%KYI%KYAA%KYEE%KYE%KYO@2DD0%XYA
%XYU%XYI%XYAA%XYEE%XYE%XYO@2DD8%GYA%GYU%GYI%GYAA%GYEE%GYE%GYO@2DE0!dkhX;hr&ho&gt&fr&hq&fJ&aP&fs&go&
cG&O&cN&hz&jC&dz&aM&ie&e3&bO&SHCHA&nc&ES-TE&A&gP&DJERV&wvUK&lB&dw&haA&coeo&hUeo&hahUeo!aacwpVmf%dnpV
mf!acpVaO!aapVaO!acdnpVaO!aadnpVaO!eOy2mf$dny2mf!dnx5mf!acx5aO!aax5aO!eOaR!aceOOMISSIONaO!aaeO
OMISSIONaO!EDITORIAL CORONIS!wO!FORKEDwO!bJFORKEDwO!HYPODIASTOLE!dnOBELOS!bfANCORA!bnANCORA!dne8cw!
ahhGi8!b1qM!rhuY!i8:bK!bb:bdab!acbkPARAPHRASEaO!aabkPARAPHRASEaO!bb:ajab&af!acazaF:tz!aaazaF:tz!c6ac
aKaO$aaaKaO!dSacaKaO$aaaKaO!aclrUaO!aalrUaO!acahc2!aaahc2!adaUaXaeajcY!aeajaXadaUcY!dFaqajcY!auajai!
bJemai!azbb!bdiz!hOdXayaj!bycc!eOaj$cc!byjn!oy:acGUARD%aaGUARD!byoy!c6aKfa^!TWO-EMc0!THREE-EMc0!
STENOGRAPHICcBbQ!azaBaU!p9azbM!CAPITULUM!ahi8!bJcc!ahLOW-REVERSED-9ecai!c0:acyb!ahxSai!b1bkpg&:pgab!
bkpg%:aj!ahSTACKEDcc!dnfc!cQoy!MEDIEVALcc!PARAGRAPHUSai!PUNCTUS ELEVATUSai!CORNISH VERSEoE!cPPATTY:
aaCROSSBAR&acCROSSBAR!TIRONIAN^?in!MEDIEVALeJai$emai!acaRaO:as!aaaRaO:as!acaRaO:ahas!aaaRaO:ahas!c6
aKacc2%aac2!dSaKacc2%aac2!hGi8@2E80!CJKtArn%CLIFF%nLae&ad&ak%hg%eA%TABLE%qUae&ad%DIVINATION%SEAL%<ae
&ad%LAMEae&ad&ak&aq%t4%x0%SNOUTae&ad%ehae&ad%d2%RAP@2E9B%CHOKE%jT%eM%DEATH%MOTHER%CIVILIAN%iMae&ad%
jF%PAWae&ad%t0aKkGTRUNK%COW%oF%JADE%BOLTaoCLOTH%k0%xFae&ad%uT%SILK%htSILK%NETae&ad&ak&aq%MESH%SHEEP%
RAM%EWE%ct%BRUSHae&ad%MEAT%MORTAR%GRASSae&ad&ak%un%u6%cvae&ad%htnM%t0dG%dG%htnT&fb%FOOT%htCART%t0
WALK%WALKae&ad%CITY%htGOLD%bzae&ad%htbz&GATE%MOUNDae&ad%nI%lI%htTANNEDwi&fv&jX&FLY%EATae&ad&ak%htEAT
%ga%htk9%BONE%GHOST%htkh&BIRD&kw%t0WHEAT&rU%htFROG%sRoN%htoN%sRuu%htuu%sRlT%htlT%rK%sRrK%htrK@2F00!
KANGXItAae%bM%aj%hk%nL%ar%ad%LID%fP%LEGS%ENTER%aC%aJeA%COVER%l4%TABLE%bveA%qU%POWER%WRAP%SPOON%aabv
eA%HIDINGvA%bA%DIVINATION%SEAL%CLIFF%w6%AGAIN%fQ%vA%h2%SCHOLAR%io&SLOWLY%EVENING%hU%mV%CHILD%ROOF%
INCH%<%LAME%CORPSE%SPROUT%mh%RIVER%WORK%ONESELF%TURBAN%DRY%cCx0%dnCLIFF%bzSTRIDE%adk7%SHOOT%on%SNOUT
%BRISTLE%STEP%eh%HALBERD%DOOR%d2%uY%RAP%e9%DIPPER%AXE%aR%cg%jT%SAY%eM%kG%LACK%bQ%DEATH%WEAPON%fUcg%
COMPARE%FUR%CLAN%STEAM%iM%jF%CLAW%FATHER%ahX%aKkGTRUNK%SLICE%FANG%COW%oF%PROFOUND%JADE%MELON%TILE%
SWEET%LIFE%USE%FIELD%BOLTaoCLOTH%SICKNESS%dnTENT%ap%SKIN%fj%k0%SPEAR%|%STONE%xF%TRACK%GRAIN%CAVE%
STAND%uT%rp%SILK%JAR%NET%SHEEP%st%ct%_%PLOW%oI%BRUSH%MEAT%MINISTER%SELF%ARRIVE%MORTAR%n7%OPPOSE%BOAT
%STOPPING%COLOR%GRASS%un%INSECT%BLOOD%WALKvA%u6%cv%nM%dG%nT%VALLEY%BEAN%PIG%BADGER%fb%iD%RUN%FOOT%
BODY%CART%BITTER%MORNING%WALK%CITY%WINE%DISTINGUISH%VILLAGE%GOLD%bz%GATE%MOUND%SLAVE%cCTAILED BIRD%
nI%lI%WRONG%aQ%wi%TANNEDwi%LEEK%gX%fv%jX%FLY%EAT%ga%FRAGRANT%k9%BONE%rE%nh%FIGHT%SACRIFICIAL WINE%
CAULDRON%GHOST%kh%BIRD%kw%DEER%WHEAT%HEMP%rU%MILLET%am%EMBROIDERY%FROG%TRIPOD%qy%RAT%pA%oN%uu%lT%rK%
FLUTE@2FF0!hBDESCRIPTIONg4acalaa&abalaf&acalay_aa&abalay_af&cBSURROUND&SURROUNDd1ab)af)ac)buac*aa)bg
ac&wJ@3000$fD$cc$cBbQ!DITTOai!nlINDUSTRIAL STANDARDat!hBknai$qsai$b6br!accwaO!aacwaO!acahcwaO!aaahcw
aO!acdVaO!aadVaO!acapdVaO!aaapdVaO!acamlfaO!aaamlfaO!ttai!GETAai!acgIfbaO!aagIfbaO!acaplfaO!aaaplfaO
!acapgIfbaO!aaapgIfbaO!acapaRaO!aaapaRaO!fHc0!bJahjjecai!ahjjecai!bkahjjecai!ttaiaQ!HANGZHOUkuae%ad%
ak%aq%au%aB%aI%aC%aN!hBLEVELbDai$iFbDai$vobDai$ENTERINGbDai!kkbPajbDai$ahajbDai!kKc0!azKANArnai&:kJ
gXai&aibuaK&:kJgXaibuaK&aibgaK!crttai!hBukbMoQdXat!HANGZHOUkubA%dc%fE!azhBknai!MASUai!PART
ALTERNATIONai!hBrPl6$aKh3fD@3041!o3;<A%A%<I%I%<U%U%<E%E%<O%O%aP%bi%fO%fu%fV%g8%fN%GE%eV%io%a9%cL%fo%
ZI%fR%jw%fA%fJ%eY%jv%ba%be%gH%f8%<e0%e0%g5%dz%fr%al%fU%a1%dP%dW%eb%da%aM%bp%aS%es%hs%c3%h4%f6%iC%c9%
hr%cN%eK%iV%gC%a0%ej%do%d9%fw%<a2%a2%<dw%dw%<dY%dY%aV%gU%fz%gD%eF%<bV%bV%fI%eS%ff%N%VU%<aP&fN@3099!
dkqPkJgXai%xogXai!qPkJgXai$xogXai!o3knai$kJknai$epYORI!qPahi8!jI;<A%A%<I%I%<U%U%<E%E%<O%O%aP%bi%fO%
fu%fV%g8%fN%GE%eV%io%a9%cL%fo%ZI%fR%jw%fA%fJ%eY%jv%ba%be%gH%f8%<e0%e0%g5%dz%fr%al%fU%a1%dP%dW%eb%da%
aM%bp%aS%es%hs%c3%h4%f6%iC%c9%hr%cN%eK%iV%gC%a0%ej%do%d9%fw%<a2%a2%<dw%dw%<dY%dY%aV%gU%fz%gD%eF%<bV%
bV%fI%eS%ff%N%VU%<aP&fN%cu%VI%ho%kI$ayaj!qPPROLONGEDgXai!jIknai$kJknai$epKOTO@3105!BOPOMOFO;B%P%M%F%
D%T%N%L%G%K%H%J%Q%X%ZH%CH%SH%R%Z%C%S%A%O%E%kf%bE%EI%bL%OU%dM%cG%iP%i2%hz%I%U%IU%V%ge%GN%IH%O:ajab%NN
@3131!kk;ma%t9%wc%mk%tc%td%mQ%uc%mz%tI%tJ%tK%tL%xe%xd%tH%mg%mx%ua%tq%mG%ub%la%kT%t8%lM%l9%mM%mv%l3%A
%dR%a2%YAE%EO%E%YEO%hp%O%bV%WAE%dh%dY%U%WEO%eS%fI%dw%EU%en%I$k2$;xH%wC%wB%zj%zG%xf%zJ%zI%zL%ws%wt%zf
%v7%zu%wW%zw%wV%wU%zx%v9%y5%xu%SIOS-NIEUN%xw%xv%xt%wN%xG%yi%z9%z8%v8%SSANGHIEUH%yh%YO-YA%YO-YAE%YO-I
%YU-YEO%YU-YE%YU-I%ARAEA%ARAEAE@3190!hBANNOTATION LINKINGai%fyai%aeai%adai%akai%aqai%c6ai%ayai%dSai%
k3ai%nLai%iKai%szai%sJai%h2ai%fPai!BOPOMOFO;f6%ZI%JI%g8%c1%ENN%cK%ONN%IR%ANN%INN%UNN%IM%NGG%AINN%
AUNN%j2%ix%ONG%INNN$ag;P&T&K&H$;GH%LH%ZY$ag;G$;GW%KW%dh%iO!CJKasT%WG%XG%BXG%SW%HZZ%HZG%HP%HZWG%SZWG%
HZT%HZZP%HPWG%HZW%HZZZ%N%H%S%P%SP%D%HZ%HG%SZ%SWZ%ST%SG%PD%PZ%TN%SZZ%SWG%HXWG%HZZZG%PG%Q@31F0!jI;<fV&
fo&fR&al&dW&aM&es&h4&c9&eK&do&aV&gU&fz&gD&eF!tkkkma%mk%mQ%mz%mg%mx%mG%la%kT%lM%l9%mM%mv%l3%maA%mkA%
mQA%mzA%mgA%mxA%mGA%laA%kTA%lMA%l9A%mMA%mvA%l3A%kTU$wfg4OJEON&Oh4@3220$sOae%ad%ak%aq%au%aB%aI%aC%aN%
bA%eM%jF%iM%WOOD%METAL%h2%jT%STOCK%HAVE%SOCIETY%q6%SPECIAL%FINANCIAL%yy%LABOR%REPRESENT%CALL%STUDY%
SUPERVISE%ENTERPRISE%RESOURCE%ALLIANCE%FESTIVAL%gE%SELF%REACH!crsOem%KINDERGARTEN%xl%KOTO$b6bAb7amaR
%dcb7amaR%fEb7amaR%gqb7amaR%dNb7amaR%gVb7amaR%dHb7amaR%hxb7amaR!zo^!crb6dcae&ad&ak&aq&au&aB&aI&aC&aN
%fE&ae&ad&ak&aq&au$kkma%mk%mQ%mz%mg%mx%mG%la%kT%lM%l9%mM%mv%l3%maA%mkA%mQA%mzA%mgA%mxA%mGA%laA%kTA%
lMA%l9A%mMA%mvA%l3A$wfg4CHAMKO&JUEUI$kklaU!wfSTANDARDat!crsOae%ad%ak%aq%au%aB%aI%aC%aN%bA%eM%jF%iM%
WOOD%METAL%h2%jT%STOCK%HAVE%SOCIETY%q6%SPECIAL%FINANCIAL%yy%LABOR%SECRET%me%oR%SUITABLE%EXCELLENT%
PRINT%ATTENTION%ITEM%gE%COPY%CORRECT%bH%ck%bk%ac%aa%MEDICINE%RELIGION%STUDY%SUPERVISE%ENTERPRISE%
RESOURCE%ALLIANCE%te$b6fEaB&aI&aC&aN%gq&ae&ad&ak&aq&au&aB&aI&aC&aN%dN!hBukatdlJANUARY(FEBRUARY(MARCH
(APRIL(MAY(JUNE(JULY(AUGUST(SEPTEMBER(OCTOBER(NOVEMBER(DECEMBER!aRHG$ERG$EV!LIMITED LIABILITY^!crjIA
%I%U%E%O%aP%fO%fV%fN%eV%a9%fo%fR%fA%eY%ba%gH%e0%dz%al%a1%dP%dW%eb%da%aM%es%h4%c9%eK%a0%ej%do%d9%fw%
a2%dw%dY%aV%gU%fz%gD%eF%bV%fI%eS%ff!aRERAq6REIWA$APAATO$ARUHUA$ANPEA$AARU$ININGU$INTI$UON$ESUKUUDO$
EEKAA$ONSU$OOMU$KAIRI$KARATTO$KARORII$GARON$GANMA$GIGA$GINII$KYURII$GIRUDAA$KIRO$KIROGURAMU$
KIROMEETORU$KIROWATTO$GURAMU$GURAMUTON$KURUZEIRO$KUROONE$KEESU$KORUNA$KOOPO$SAIKURU$SANTIIMU$SIRINGU
$SENTI$SENTO$DAASU$DESI$DORU$TON$NANO$NOTTO$HAITU$PAASENTO$PAATU$BAARERU$PIASUTORU$PIKURU$PIKO$BIRU$
HUARADDO$HUIITO$BUSSYERU$HURAN$HEKUTAARU$PESO$PENIHI$HERUTU$PENSU$PEEZI$BEETA$POINTO$BORUTO$HON$
PONDO$HOORU$HOON$MAIKURO$MAIRU$MAHHA$MARUKU$MANSYON$MIKURON$MIRI$MIRIBAARU$MEGA$MEGATON$MEETORU$
YAADO$YAARU$YUAN$RITTORU$RIRA$RUPII$RUUBURU$REMU$RENTOGEN$WATTO!hBukatdlHOURbr)ae)ad)ak)aq)au)aB)aI)
aC)aN)bA)i1)if)mN)l0)jE)kz)mD)kX)ml)dc)TWENTY-ONE)x8)z3)z2!aRHPA$be$bL$aF$OV$PC$DM%dF%qu$IU$ERAq6
HEISEI&SYOUWA&TAISYOU&MEIZI$CORPORATION$aSAMPS$a1$doA$a0$aP$KB$MB$GB$CAL$KCAL$PF$NF$doF%G$MG$KG$HZ$
KHZ$MHZ$GHZ$THZ$doL$ML$DL$KL$FM$NM$doM$MM$CM$KM$MMdF$CMdF$MdF$KMdF$MMqu$CMqu$Mqu$KMqu$MaXS(dF$aS$KPA
$MPA$GPA$RAD%aXS(dF$PS$NS$doS$MS$PV$NV$doV$MV$KV$MV MEGA$PW$NW$doW$MW$KW$MW MEGA$K OHM$M OHM$j2$BQ$
CC$CD$CaXKG$iZ$DB$GY$aM$HP$cn$KK$KM?$KT$LM$LN$LOG$LX$MB<$MIL$MOL$PH$PM$PPM$PR$SR$SV$WB$VaXM$AaXM!hB
ukatdlDAYae)ad)ak)aq)au)aB)aI)aC)aN)bA)i1)if)mN)l0)jE)kz)mD)kX)ml)dc)TWENTY-ONE)x8)z3)z2)uA)
TWENTY-SIX)TWENTY-SEVEN)TWENTY-EIGHT)TWENTY-NINE)fE)THIRTY-ONE!aRne@4DC0!HEXAGRAMdldrCREATIVEsJ&
RECEPTIVEh2%DIFFICULTYe2drBEGINNING%YOUTHFUL FOLLY%yd%CONFLICT%drARMY%o4ur%<TAMING%TREADING%PEACE%
STANDSTILL%FELLOWSHIP%o0POSSESSION%MODESTY%ENTHUSIASM%FOLLOWING%WORKb7drDECAYED%APPROACH%
CONTEMPLATION%BITINGic%GRACE%SPLITTING APART%ro%INNOCENCE%o0TAMING%fQov%o0zz%drABYSMALiM&CLINGINGjF%
INFLUENCE%DURATION%RETREAT%o0POWER%PROGRESS%DARKENINGaodra7%drFAMILY%wH%OBSTRUCTION%DELIVERANCE%
DECREASE%v1%BREAKTHROUGH%COMINGalMEET%vMur%PUSHING UPWARD%OPPRESSION%drWELL%REVOLUTION%drCAULDRON&
AROUSINGx1&KEEPING STILLmh%DEVELOPMENT%drMARRYING MAIDEN%ABUNDANCE%drWANDERER&GENTLEjX&JOYOUS LAKE%
DISPERSION%LIMITATION%INNER TRUTH%<zz%AFTERu7%BEFOREu7@A000!engYIT%IX%I%IP%IET%IEX%gP%IEP%e2%AX%A%AP
%UOX%UO%UOP%OT%OX%O%OP%EX%E%jY%BIT%BIX%hs%BIP%BIET%BIEX%BIE%BIEP%BAT%BAX%bp%BAP%BUOX%BUO%BUOP%BOT%eA
%iV%BOP%BEX%hr%BEP%j9%BUX%f6%BUP%BURX%j8%BYT%BYX%iW%BYP%BYRX%BYR%PIT%PIX%c3%PIP%PIEX%PIE%PIEP%PAT%
PAX%aS%hf%PUOX%PUO%PUOP%POT%POX%gC%POP%PUT%PUX%iC%PUP%PURX%PUR%PYT%PYX%PY%PYP%PYRX%PYR%BBIT%BBIX%BBI
%BBIP%BBIET%BBIEX%BBIE%BBIEP%BBAT%BBAX%m2%BBAP%BBUOX%BBUO%BBUOP%BBOT%BBOX%BBO%BBOP%BBEX%BBE%BBEP%
BBUT%BBUX%BBU%BBUP%BBURX%BBUR%BBYT%BBYX%BBY%BBYP%NBIT%NBIX%NBI%NBIP%NBIEX%NBIE%NBIEP%NBAT%NBAX%NBA%
NBAP%NBOT%NBOX%NBO%NBOP%NBUT%NBUX%NBU%NBUP%NBURX%NBUR%NBYT%NBYX%NBY%NBYP%NBYRX%NBYR%HMIT%HMIX%HMI%
HMIP%HMIEX%HMIE%HMIEP%HMAT%HMAX%HMA%HMAP%HMUOX%HMUO%HMUOP%HMOT%HMOX%HMO%HMOP%HMUT%HMUX%HMU%HMUP%
HMURX%HMUR%HMYX%HMY%HMYP%HMYRX%HMYR%MIT%MIX%ej%MIP%MIEX%MIE%MIEP%MAT%MAX%a0%MAP%MUOT%MUOX%MUO%MUOP%
MOT%MOX%fw%MOP%MEX%d9%MUT%MUX%do%MUP%MURX%MUR%MYT%MYX%MY%MYP%FIT%FIX%jD%FIP%FAT%FAX%c8%FAP%FOX%i6%
FOP%FUT%FUX%FU%FUP%FURX%FUR%FYT%FYX%FY%FYP%VIT%VIX%VI%VIP%VIET%VIEX%VIE%VIEP%VAT%VAX%cu%VAP%VOT%VOX%
kI%VOP%VEX%VEP%VUT%VUX%VU%VUP%VURX%VUR%VYT%VYX%VY%VYP%VYRX%VYR%DIT%DIX%f8%DIP%DIEX%DIE%DIEP%DAT%DAX%
be%DAP%DUOX%DUO%aj%DOX%fU%DOP%DEX%fr%DEP%DUT%DUX%g5%DUP%DURX%DUR%TIT%TIX%gH%id%TIEX%p2%TIEP%TAT%TAX%
ba%TAP%TUOT%TUOX%TUO%TUOP%TOT%TOX%al%c6%TEX%dz%TEP%TUT%TUX%e0%TUP%TURX%TUR%DDIT%DDIX%DDI%DDIP%DDIEX%
DDIE%DDIEP%DDAT%DDAX%cF%DDAP%DDUOX%DDUO%DDUOP%DDOT%DDOX%DDO%DDOP%DDEX%DDE%DDEP%DDUT%DDUX%DDU%DDUP%
DDURX%DDUR%NDIT%NDIX%NDI%NDIP%NDIEX%NDIE%NDAT%NDAX%px%NDAP%NDOT%NDOX%NDO%NDOP%NDEX%NDE%NDEP%NDUT%
NDUX%NDU%NDUP%NDURX%NDUR%HNIT%HNIX%HNI%HNIP%HNIET%HNIEX%HNIE%HNIEP%HNAT%HNAX%HNA%HNAP%HNUOX%HNUO%
HNOT%HNOX%HNOP%HNEX%HNE%HNEP%HNUT%NIT%NIX%dP%NIP%NIEX%NIE%NIEP%NAX%a1%NAP%NUOX%NUO%NUOP%cg%NOX%da%
NOP%NEX%eb%NEP%NUT%NUX%dW%NUP%NURX%NUR%HLIT%HLIX%HLI%HLIP%HLIEX%HLIE%HLIEP%HLAT%HLAX%HLA%HLAP%HLUOX%
HLUO%HLUOP%HLOX%HLO%HLOP%HLEX%HLE%HLEP%HLUT%HLUX%HLU%HLUP%HLURX%HLUR%HLYT%HLYX%HLY%HLYP%HLYRX%HLYR%
LIT%LIX%gy%LIP%LIET%LIEX%LIE%LIEP%LAT%LAX%aZ%LAP%LUOT%LUOX%LUO%LUOP%LOT%LOX%fX%LOP%LEX%hE%LEP%LUT%
LUX%e7%LUP%LURX%LUR%LYT%LYX%LY%LYP%LYRX%LYR%GIT%GIX%fu%GIP%GIET%GIEX%GIE%GIEP%GAT%GAX%bi%GAP%GUOT%
GUOX%GUO%GUOP%GOT%GOX%io%GOP%GET%GEX%GE%GEP%GUT%GUX%g8%GUP%GURX%GUR%KIT%KIX%fO%KIP%KIEX%KIE%KIEP%KAT
%KAX%aP%KAP%KUOX%KUO%KUOP%KOT%KOX%eV%KOP%no%KEX%fN%KEP%KUT%KUX%fV%KUP%KURX%gR%GGIT%GGIX%GGI%GGIEX%
GGIE%GGIEP%GGAT%GGAX%oX%GGAP%GGUOT%GGUOX%GGUO%GGUOP%GGOT%GGOX%GGO%GGOP%GGET%GGEX%GGE%GGEP%GGUT%GGUX%
GGU%GGUP%GGURX%GGUR%MGIEX%MGIE%MGAT%MGAX%MGA%MGAP%MGUOX%MGUO%MGUOP%MGOT%MGOX%h6%MGOP%MGEX%MGE%MGEP%
MGUT%MGUX%MGU%MGUP%MGURX%MGUR%HXIT%HXIX%HXI%HXIP%HXIET%HXIEX%HXIE%HXIEP%HXAT%HXAX%HXA%HXAP%HXUOT%
HXUOX%HXUO%HXUOP%HXOT%HXOX%HXO%HXOP%HXEX%HXE%HXEP%NGIEX%NGIE%NGIEP%NGAT%NGAX%bN%NGAP%NGUOT%NGUOX%
NGUO%NGOT%NGOX%nB%NGOP%NGEX%NGE%NGEP%HIT%HIEX%HIE%ni%HAX%aM%HAP%HUOT%HUOX%HUO%HUOP%HOT%HOX%eK%HOP%
HEX%c9%HEP%WAT%WAX%bV%WAP%WUOX%WUO%WUOP%WOX%ff%WOP%WEX%eS%WEP%ZIT%ZIX%ZI%ZIP%ZIEX%ZIE%ZIEP%ZAT%ZAX%
cL%ZAP%ZUOX%ZUO%ZUOP%ZOT%ZOX%jv%ZOP%ZEX%fJ%ZEP%ZUT%ZUX%jw%ZUP%ZURX%ZUR%ZYT%ZYX%ZY%ZYP%ZYRX%ZYR%CIT%
CIX%CI%CIP%CIET%CIEX%CIE%CIEP%iX%CAX%bW%CAP%CUOX%CUO%CUOP%COT%COX%iZ%COP%CEX%CE%CEP%CUT%CUX%CU%CUP%
CURX%CUR%CYT%CYX%CY%CYP%CYRX%CYR%ZZIT%ZZIX%ZZI%ZZIP%ZZIET%ZZIEX%ZZIE%ZZIEP%ZZAT%ZZAX%ZZA%ZZAP%ZZOX%
ZZO%ZZOP%ZZEX%ZZE%ZZEP%ZZUX%ZZU%ZZUP%ZZURX%ZZUR%ZZYT%ZZYX%ZZY%ZZYP%ZZYRX%ZZYR%NZIT%NZIX%NZI%NZIP%
NZIEX%NZIE%NZIEP%NZAT%NZAX%NZA%NZAP%NZUOX%NZUO%NZOX%NZOP%NZEX%NZE%NZUX%NZU%NZUP%NZURX%NZUR%NZYT%NZYX
%NZY%NZYP%NZYRX%NZYR%SIT%aB%fo%SIP%SIEX%SIE%SIEP%SAT%SAX%a9%SAP%SUOX%SUO%SUOP%SOT%SOX%eY%SOP%SEX%fA%
SEP%SUT%SUX%fR%SUP%SURX%SUR%SYT%SYX%SY%SYP%SYRX%SYR%SSIT%SSIX%SSI%SSIP%SSIEX%SSIE%SSIEP%SSAT%SSAX%db
%SSAP%SSOT%SSOX%SSO%SSOP%SSEX%SSE%SSEP%SSUT%SSUX%SSU%SSUP%SSYT%SSYX%SSY%SSYP%SSYRX%SSYR%ZHAT%ZHAX%fK
%ZHAP%ZHUOX%ZHUO%ZHUOP%ZHOT%ZHOX%ZHO%ZHOP%ZHET%ZHEX%hq%ZHEP%ZHUT%ZHUX%ZHU%ZHUP%ZHURX%ZHUR%ZHYT%ZHYX%
ZHY%ZHYP%ZHYRX%ZHYR%CHAT%CHAX%bZ%CHAP%CHUOT%CHUOX%CHUO%CHUOP%CHOT%CHOX%kS%CHOP%CHET%CHEX%e3%CHEP%
CHUX%CHU%CHUP%CHURX%CHUR%CHYT%CHYX%CHY%CHYP%CHYRX%CHYR%RRAX%f0%RRUOX%RRUO%RROT%RROX%RRO%RROP%RRET%
RREX%RRE%RREP%RRUT%RRUX%RRU%RRUP%RRURX%RRUR%RRYT%RRYX%RRY%RRYP%RRYRX%RRYR%NRAT%NRAX%NRA%NRAP%NROX%
NRO%NROP%NRET%NREX%NRE%NREP%NRUT%NRUX%NRU%NRUP%NRURX%NRUR%NRYT%NRYX%NRY%NRYP%NRYRX%NRYR%SHAT%SHAX%bO
%SHAP%SHUOX%SHUO%SHUOP%SHOT%SHOX%jR%SHOP%SHET%SHEX%dI%SHEP%SHUT%SHUX%h9%SHUP%SHURX%SHUR%SHYT%SHYX%
SHY%SHYP%SHYRX%SHYR%RAT%RAX%aV%RAP%RUOX%RUO%RUOP%ROT%ROX%eF%ROP%REX%gD%REP%RUT%RUX%fz%RUP%RURX%RUR%
RYT%RYX%RY%RYP%RYRX%RYR%JIT%JIX%JI%JIP%JIET%JIEX%JIE%JIEP%JUOT%JUOX%JUO%JUOP%l7%JOX%jH%JOP%JUT%JUX%
JU%JUP%JURX%JUR%JYT%JYX%JY%JYP%JYRX%JYR%QIT%QIX%QI%QIP%QIET%QIEX%QIE%QIEP%QUOT%QUOX%QUO%QUOP%QOT%QOX
%QO%QOP%QUT%QUX%QU%QUP%QURX%QUR%QYT%QYX%QY%QYP%QYRX%QYR%JJIT%JJIX%JJI%JJIP%JJIET%JJIEX%JJIE%JJIEP%
JJUOX%JJUO%JJUOP%JJOT%JJOX%JJO%JJOP%JJUT%JJUX%JJU%JJUP%JJURX%JJUR%JJYT%JJYX%JJY%JJYP%NJIT%NJIX%NJI%
NJIP%NJIET%NJIEX%NJIE%NJIEP%NJUOX%NJUO%NJOT%NJOX%NJO%NJOP%NJUX%NJU%NJUP%NJURX%NJUR%NJYT%NJYX%NJY%
NJYP%NJYRX%NJYR%NYIT%NYIX%h7%NYIP%NYIET%NYIEX%NYIE%NYIEP%NYUOX%NYUO%NYUOP%NYOT%NYOX%ll%NYOP%NYUT%
NYUX%NYU%NYUP%XIT%XIX%hQ%XIP%XIET%XIEX%XIE%XIEP%XUOX%XUO%XOT%XOX%XO%XOP%XYT%XYX%XY%XYP%XYRX%XYR%YIT%
YIX%en%YIP%YIET%YIEX%YIE%YIEP%YUOT%YUOX%YUO%YUOP%YOT%YOX%dY%YOP%YUT%YUX%dw%YUP%YURX%YUR%YYT%YYX%YY%
YYP%YYRX%YYR@A490$tAQOT%gy%KIT%NYIP%CYP%SSI%GGOP%GEP%ej%HXIT%LYR%BBUT%MOP%dY%PUT%HXUO%TAT%bi%ZUP%CYT
%DDUR%j8%GGUO%NYOP%e0%OP%JJUT%ZOT%PYT%HMO%YIT%VUR%SHY%VEP%cL%jH%NZUP%JJY%GOT%JJIE%ff%g5%SHUR%LIE%CY%
CUOP%CIP%HXOP%SHAT%ZUR%SHOP%e3%ZZIET%NBIE%fN@A4D0!LISU;bp%aS%cp%be%ba%cd%bi%aP%b2%bU%bW%bZ%im%ee%hN%
a0%a1%aZ%a9%fK%cL%bN%aM%hP%k8%c8%bV%bO%a2%cH%A%dR%E%EU%I%O%U%fp%UH%dh%bDMYAgH&a1gC&MYA CYA(iV(a1(JEU
$cYcc%cBbQ!VAIgYc1%EEN%HEE%WEE%WEEN%ln%BHEE%oj%MBEE%KPEE%MGBEE%GBEE%na%mU%pZ%rG%DHEE%DHHEE%LEE%REE%
oz%NDEE%nM%SHEE%ZEE%ZHEE%CEE%pc%ra%qb%KEE%NGGEE%GEE%MEE%NEE%NYEE%I%cn%es%HIN%fI%WIN%c3%BHI%hs%MBI%
KPI%MGBI%GBI%jD%VI%gH%n5%DHI%DHHI%gy%gU%f8%NDI%fo%pP%ZI%ZHI%CI%JI%NJI%en%fO%NGGI%fu%ej%dP%h7%A%dM%
NGAN%aM%HAN%bV%WAN%aS%cV%bp%MBA%KPA%KPAN%MGBA%GBA%c8%cu%ba%cd%cI%DHHA%aZ%aV%be%px%a9%bO%cL%fK%bW%bU%
NJA%a2%aP%pf%q9%bi%a0%a1%b0%cK%OON%HOO%WOO%WOON%POO%BHOO%BOO%MBOO%KPOO%MGBOO%GBOO%FOO%VOO%p3%THOO%
DHOO%DHHOO%pn%ROO%DOO%NDOO%SOO%SHOO%ZOO%ZHOO%COO%JOO%NJOO%YOO%KOO%NGGOO%GOO%MOO%NOO%NYOO%U%UN%h4%HUN
%jY%WUN%iC%BHU%f6%MBU%KPU%MGBU%GBU%FU%VU%e0%THU%DHU%DHHU%e7%fz%g5%NDU%fR%h9%jw%ZHU%CU%JU%NJU%dw%fV%
NGGU%g8%do%dW%NYU%O%b7%NGON%eK%HON%ff%WON%gC%BHO%iV%MBO%KPO%MGBO%GBO%GBON%i6%kI%al%hn%DHO%DHHO%fX%eF
%fU%NDO%eY%jR%jv%ZHO%iZ%jH%NJO%dY%eV%NGGO%io%fw%da%ll%E%cG%NGEN%c9%HEN%eS%WEN%cN%BHE%hr%MBE%KPE%KPEN
%MGBE%GBE%GBEN%i4%ho%dz%dr%DHE%DHHE%hE%gD%fr%NDE%fA%dI%fJ%hq%CE%i9%mn%hp%fN%NGGE%NGGEN%GE%GEN%d9%eb%
NYE%ge%s2$cc$cBbQ$emai$gYNDOLEc8&aP&SOO$atFEENG%KEENG%TING%NII%BANG%FAA%nW%DANG%DOONG%KUNG%TONG%DO-O
%JONG$bcbr%ae%ad%ak%aq%au%aB%aI%aC%aN$gYNDOLEa0&fU@A640!hX?;ZEMLYA$<;ZEMLYA$?;sk$<;sk$?;bJlU$<;bJlU$
?;d4$<;d4$?;DJERV$<;DJERV$?;wvUK$<;wvUK$?;BROADdq$<;BROADdq$?;fxYER$<;fxYER$?;jZ:iSYER$<;jZ:iSYER$?;
halB$<;halB$?;bJdw$<;bJdw$?;haA$<;haA$?;dBcoeo$<;dBcoeo$?;BLENDEDeo$<;BLENDEDeo$?;hadBcoeo$<;hadBco
eo$?;YN$<;YN$?;bJie$<;bJie$?;iafr$<;iafr$?;iafs$<;iafs$?;iago$<;iago$?;taO$<;taO$?;BINOCULAR O$<;
BINOCULAR O$?;ahtaO$<;ahtaO$;MULTIOCULAR O!dkhXVZMET%bAny^%aLny^%aYny^!SLAVONICcO!dkhX;x9gP&I&en&U&
kl^&jZ&ia^&dq%pg%PAYEROK!hXpg$PAYEROK$?;DWE$<;DWE$?;DZWE$<;DZWE$?;ZHWE$<;ZHWE$?;CCHE$<;CCHE$?;DZZE$<
;DZZE$?;dz:ayar$<;dz:ayar$?;TWE$<;TWE$?;TSWE$<;TSWE$?;TSSE$<;TSSE$?;TCHE$<;TCHE$?;HWE$<;HWE$?;pQ$<;
pQ$?;ahO$<;ahO$?;ikO$<;ikO!ea;hXkl^&ia^!dkhX;ke&haE!BAMUM;A%aP%U%fV%c1%REE%TAE%O%h7%I%aZ%aS%RII%RIEE
%LEEEE%MEEEE%nW%NDAA%NJAEM%M%SUU%do%SHII%fo%SHEUX%SEUX%KYEE%no%NUAE%dW%NJUAE%YOQ%h9%YUQ%a2%NSHA%KEUX
%PEUX%ra%NTEE%PUE%WUE%ln%na%fz%e7%ej%dP%REUX%pG%KEN%NGKWAEN%q9%bN%jR%PUAE%FU%FOM%bV%a1%gy%c3%LOQ%eV%
MBEN%REN%li%a0%gH%fO%fw%pq%n2%KPA%bA%NTUU%SAMBA%FAAMAE%KOVUU%KOGHOM$dkaiKOQNDON&TUKWENTIS$NJAEMLI$cB
bQ$dU$cc$jn$emai@A700!ea;CHINESEbDlCPING(juPING(lCSHANG(juSHANG(lCQU(juQU(lCfz(jufz%srdnbDaF%bHdnbD
aF%nxdnbDaF%bkdnbDaF%ssdnbDaF%srdnkpbDaF%bHdnkpbDaF%nxdnkpbDaF%bkdnkpbDaF%ssdnkpbDaF%srkpbDaF%bHkpbD
aF%nxkpbDaF%bkkpbDaF%sskpbDaF%ajazaF&hk&a6aF%bgaadVcw%eOaA|&aJ|&eJai&b1eJai%bkb1eJai%xL_bHbD(bkbD!cz
?;sla4$<;sla4$?;sldK$<;sldK$?;qJ$<;qJ$?;TZ$<;TZ$?;TRESILLO$<;TRESILLO$?;sd$<;sd$?;sd:cc$<;sd:cc$;<?F
(S$?;bs$<;bs$?;AO$<;AO$?;bL$<;bL$?;AV$<;AV$?;AV:a6aF$<;AV:a6aF$?;iQ$<;iQ$?;bJC:aj$<;bJC:aj$?;K:as$<;
K:as$?;K:cTas$<;K:cTas$?;K:as_cTas$<;K:as_cTas$?;opL$<;opL$?;L:bHas$<;L:bHas$?;O:bzasfl$<;O:bzasfl$?
;O:gz$<;O:gz$?;cK$<;cK$?;P:asicdf$<;P:asicdf$?;P:qB$<;P:qB$?;P:SQUIRRELcq$<;P:SQUIRRELcq$?;Q:asicdf$
<;Q:asicdf$?;Q:cTas$<;Q:cTas$?;Rrv$<;Rrv$?;RUMrv$<;RUMrv$?;V:cTas$<;V:cTas$?;VY$<;VY$?;VISIGOTHIC Z$
<;VISIGOTHIC Z$?;mO:as$<;mO:as$?;mO:asicdf$<;mO:asicdf$?;VEND$<;VEND$?;in$<;in$?;IS$<;IS$?;CON$<;CON
!ea;US!cz<;DUM&lg&MUM&NUM&RUM$;<?RUM$<;TUM&UM$?;gvD$<;gvD$?;gvF$<;gvF$?;gvG&bygvG$<;bygvG$?;byL$<;by
L$?;gvR$<;gvR$?;gvS$<;gvS$?;gvT$<;gvT!ea;bkbBdj%dU%cCdC^!cz?;SALTILLO$<;SALTILLO$?;byH$<;L:c4ar_jx$;
SINOLOGICALaj$?;N:df$<;N:df$?;C:aF$<;C:aF)elar&H:elar$?;B:qB$<;B:qB$?;F:as$<;F:as$?;p6dR$<;p6dR$?;p6
dh$<;p6dh$?;p6fp$<;p6fp$?;G:hGas$<;G:hGas$?;K:hGas$<;K:hGas$?;N:hGas$<;N:hGas$?;R:hGas$<;R:hGas$?;S:
hGas$<;S:hGas$?;H:ar&bJbvE&e9G&L:jx&<?I$;<?Q$?;byK(T&J:kV&e4&f5$<;f5$?;dq$<;dq$?;U:as$<;U:as$?;eqA$<
;eqA$?;eqI$<;eqI$?;eqU$<;eqU$?;ctwZO$<;ctwZO$?;ANGLICANA W$<;ANGLICANA W$?;C:elar&S:ar&Z:elar&D:cCas
fl$<;D:cCasfl$?;S:cCasfl$<;S:cCasfl@A7D0$?;dBgvG$<;dBgvG@A7D3&ahmO@A7D5(uE$?;aySCOTS S$<;aySCOTS S$?
;SIGMOID S$<;SIGMOID S@A7F2!ea;?C&F&Q!cz?;bJaKH$<;bJaKH$EPIGRAPHIC;lrI!ea;?H:as%<dOdh!cz;<?byM$
EPIGRAPHIC;bJF(P&b1M&I LONGA&f2M!SYLOTI NAGRI;A&I%^DVISVARA%;U&E&O%^HASANTA%;eV&np&io&GHO%^cD%;iZ&kS
&jH&JHO&TTO&TTHO&DDO&DDHO&al&hn&fU&DHO&da&gC&jM&iV&BHO&fw&eF&fX&RRO&eY&eK%a8^A(I(U(E(cK%POETRYq0&q1&
MARK-3&MARK-4%^fgHASANTA@A830!cJINDICf9aedQ(aK&akhJ&aepS(eB&akt1%dQai%wXai%nKai%QUANTITYai@A840!
PHAGS-PA;aP%b2%bi%bN%bW%bZ%bU%b0%ba%cd%be%a1%aS%cp%bp%a0%ee%hN%im%bV%fK%cL%<A%a2%aV%aZ%bO%a9%aM%A%I%
U%E%O%fZ%hP%c8%oX%c1$pU;bV&a2$;cE%c7%cF%cU%fga2%VOICELESSbO%kJaM%ASPIRATEDc8$pU;aV$SUPERFIXED;aV$;dZ
$bPgaai$ahgaai$aihj%ahhj@A880!SAURASHTRA^cD%dA$;A%bs%I%bF%U%bS%cjR&di&L&dD%E%c1%bE%O%cK%bL%aP%b2%bi%
cH%bN%bW%bZ%bU%dy%b0%cE%c7%cF%de%cU%ba%cd%be%cI%a1%aS%cp%bp%cV%a0%a2%aV%aZ%cu%bO%db%a9%aM%eu$fh^
HAARU$a8^bs&I&bF&U&bS&cjR(di(L(dD&E&c1&bE&O&cK&bL$^dd%dZ@A8CE$d7$ahd7$bcbr%ae%ad%ak%aq%au%aB%aI%aC%
aN@A8E0!dkvqbcbr&ae&ad&ak&aq&au&aB&aI&aC&aN%;A&U&aP&a1&aS&aV&VI%^g3!vq^xEdZ%dZdd%ahdZdd%dZad&ak&g3%
PUSHPIKA$GAPk2$ka$vW$^nQ$JAINix$;iQ$a8^iQ!KAYAHgybcbr&ae&ad&ak&aq&au&aB&aI&aC&aN%;aP&b2&bi&bN&a9&bO&
cL&b0&ba&HTA&a1&aS&cp&a0&be&bp&aV&a2&aZ&bV&cd&aM&cu&bW&A&dh&I&cK%a8fp&E&U&c1&O%bDPLOPHU&CALYA(PLOPHU
%^CWI&SHYA!REJANG;aP%bi%bN%ba%be%a1%aS%bp%a0%bW%bU%b0%a9%aV%aZ%a2%bV%aM%MBA%q9%px%NYJA%A$a8^I&U&E&bE
&O&bL&EU&EA$fh^ge&N&R&H$dd@A95F$faai!kkCHOSEONG TIKEUT-MIEUM%zW%zY%zU%tI%zK%xf%RIEUL-SSANGTIKEUT%tJ%
tK%RIEUL-SSANGPIEUP%zE%tL%RIEUL-CIEUC%zF%ze%MIEUM-TIKEUT%wt%PIEUP-SIOS-THIEUTH%PIEUP-KHIEUKH%zt%
SSANGSIOS-PIEUP%IEUNG-RIEUL%IEUNG-HIEUH%SSANGCIEUC-HIEUH%SSANGTHIEUTH%PHIEUPH-HIEUH%HIEUH-SIOS%
SSANGYEORINHIEUH@A980!JAVANESE^PANYANGGA%CECAK%LAYAR%WIGNYAN$;A%I KAWI&%bF%U%aSCEREK%bNLELET(RASWADI
%E%bE%O%aP&mB&jK%bi&jK%bN%bW&jK%bU%b0jK%bUmd%b0%cE&md%cF&md%a1jK%ba&jK%be&md%a1%aS&jK%bp&jK%a0%a2%aV
&AGUNG%aZ%bV%a9jK&md&%aM$^CECAK TELU$a8^TARUNG&TOLONG&WULU(MELIK&SUKU(MENDUT&TALING&DIRGA MURE&PEPET
$fh^KERET&PENGKAL&CAKRA$PANGKON$acRERENGGAN$aaRERENGGAN$PADA ANDAP%MADYA%LUHUR%WINDU%PANGKAT%LINGSA%
LUNGSI%ADEG&ADEG%PISELEH$byPADA PISELEH@A9CF$PANGRANGKEP$bcbr%ae%ad%ak%aq%au%aB%aI%aC%aN@A9DE$PADA
TIRTA TUMETES%ISEN-ISEN!tb;jQcH&bZ&dy&cU&cV$^jQSAW$ea;jQzC$;lwsZb0(c8(bi(cH(bU(dy(cF(de(cU$lwsZbcbr(
ae(ad(ak(aq(au(aB(aI(aC(aN$;lwsZeu(be(cI(bp(cV@AA00!CHAM;A%I%U%E%bE%O%aP%b2%bi%cH%NGUE%bN%bZ%CHHA%bU
%dy%NHUE%pz%NHJA%ba%cd%be%cI%NUE%a1%cF%aS%PPA%cp%bp%cV%MUE%a0%m2%a2%aV%aZ%cu%db%a9%aM$a8^bs&I&bF&EI&
U&dh&O&bE&bL&fp$fh^a2&aV&aZ&bV@AA40$;agK&G&ge$fh^agge$;agCH&T&N&P&Y&R&L&SS$fh^agM(H@AA50$bcbr%ae%ad%
ak%aq%au%aB%aI%aC%aN@AA5C$cYt5%d7%ahd7%cQd7!tb;pibi&bW&bZ&bU&dy&b0&cE&c7&cF&de&cI&a1&a9&aM&k8&c8$ea;
pizC$;pihP&cL&aV$qYpiOAY&QN&HM$atAITONeJ&ae&ad$;AITONaV$^PAOlcbD%lwsZkE(kF$;pQwMbZ(bO!lwVIET;bkeV&bH
eV&bknp&bHnp&bkKHHO&bHKHHO&bkio&bHio&bknB&bHnB&bkiZ&bHiZ&bkkS&bHkS&bkeY&bHeY&bkll&bHll&bkfU&bHfU&bk
al&bHal&bkhn&bHhn&bkda&bHda&bkiV&bHiV&bkgC&bHgC&bkjM&bHjM&bki6&bHi6&bkfw&bHfw&bkdY&bHdY&bkeF&bHeF&bk
fX&bHfX&bkkI&bHkI&bkeK&bHeK&bkO&bHO%iuKANG%a8bs&I&fp&U&E&O%iuKHIT%a8IA&UEA&UA&AUE&iQ&dM&j2%bDiuEK(
NUENG(hn(SONG@AADB%atKON&NUENG&SAM&eKHOI&KOI KOI!MEETEI MAYEK;E&O&bZ&b0&cE&c7&cF&de&cU&bO&db%a8^bF(
bS(AAI(bL(AAU%CHEIKHAN%AHANG KHUDAM%ANJI%gYxcai%hOxcai%a8^dA%dd@AB01!sqgYTTHU%TTHI%TTHAA%TTHEE%TTHE%
TTHO@AB09%DDHU%DDHI%DDHAA%DDHEE%DDHE%DDHO@AB11%DZU%DZI%DZAA%DZEE%lU%DZO@AB20%CCHHA%CCHHU%CCHHI%
CCHHAA%CCHHEE%CCHHE%CCHHO@AB28%m2%BBU%BBI%BBAA%BBEE%BBE%BBO@AB30!cz<;j5dL&A REVERSED-SCHWA&yvE&j5E&E
:qB&LENIS F&e9G:kV&L:b1LAZY S)ahaybb)aybd&M:kV&N:kV&i2:kV&yvO):as&bvO:as&b1dh&bydh:as*a6as(O OPEN-O*
:as&STIRRUP R$;<?R:aagS$<;RrTHANDLE&ahR&R:kV&ahR:kV&e9R):bd&BASELINEgp&U:cCaagS(aF:cCaagS&UI&byUI&U:
acar&e4(:bkaabd*acSERIF&X:bkaabd)bzacgS,_bkaabd,:SERIF&Y:cCaagS!eacl:b1cl$;<qJ&L:b1LAZY S)aybb&U:ac
ar!cz<;SAKHAlB&haE&bvdh&UO&b1dL!eU;<?dq!cz<;DZep:c4ar&TSep:c4ar&byR:aybb!ea;<byW%acdJ%aadJ@AB70!
CHEROKEE<;A&E&I&O&U&V&bi&aP&GE&fu&io&g8&GV&aM&c9&es&eK&h4&HV&aZ&hE&gy&fX&e7&LV&a0&d9&ej&fw&do&a1&HNA
&NAH&eb&dP&da&dW&NV&QUA&QUE&QUI&QUO&QUU&QUV&a9&S&fA&fo&eY&fR&SV&be&ba&fr&dz&f8&gH&fU&g5&DV&DLA&TLA&
TLE&TLI&TLO&TLU&TLV&ee&ie&n8&TSO&TSU&TSV&bV&eS&fI&ff&jY&WV&a2!MEETEI MAYEK;KOK&SAM&LAI&MIT&aS&a1&
CHIL&TIL&KHOU&NGOU&THOU&WAI&ju&HUK&UN&I&PHAM&ATIYA&GOK&JHAM&RAI&bp&JIL&DIL&GHOU&DHOU&BHAM&KOKmc&LAI
mc&MITmc&aSmc&a1mc&TILmc&NGOUmc&Imc%a8^ONAP(INAP(ANAP(YENAP(SOUNAP(UNAP(CHEINAP(NUNG%CHEIKHEI%lgIYEK
%APUN IYEK@ABF0%bcbr&ae&ad&ak&aq&au&aB&aI&aC&aN@D7B0!kkJUNGSEONG O-YEO%O-O-I%YO-A%YO-AE%YO-EO%U-YEO%
U-I-I%YU-AE%YU-O%EU-A%EU-EO%EU-E%EU-O%I-YA-O%I-YAE%I-YEO%I-YE%I-O-I%I-YO%I-YU%I-I%ARAEA-A%ARAEA-E
@D7CB$v6NIEUN-RIEUL%NIEUN-CHIEUCH%uc%SSANGTIKEUT-PIEUP%zW%zY%TIKEUT-SIOS-KIYEOK%zU%TIKEUT-CHIEUCH%
TIKEUT-THIEUTH%zK%RIEUL-KIYEOK-HIEUH%SSANGRIEUL-KHIEUKH%RIEUL-MIEUM-HIEUH%RIEUL-PIEUP-TIKEUT%
RIEUL-PIEUP-PHIEUPH%RIEUL-YESIEUNG%RIEUL-YEORINHIEUH-HIEUH%y4%MIEUM-NIEUN%MIEUM-SSANGNIEUN%
SSANGMIEUM%MIEUM-PIEUP-SIOS%MIEUM-CIEUC%wW%PIEUP-RIEUL-PHIEUPH%PIEUP-MIEUM%ua%wV%wU%zs%SIOS-MIEUM%
SIOS-KAPYEOUNPIEUP%SSANGSIOS-KIYEOK%SSANGSIOS-TIKEUT%SIOS-PANSIOS%xt%zN%zO%SIOS-HIEUH%PANSIOS-PIEUP%
PANSIOS-KAPYEOUNPIEUP%YESIEUNG-MIEUM%YESIEUNG-HIEUH%CIEUC-PIEUP%CIEUC-SSANGPIEUP%t8%PHIEUPH-SIOS%
PHIEUPH-THIEUTH@FB00!cz<dOFF&jD&FL&FFI&FFL&bzS T&ST@FB13!qg<dOliNOW(oJ(INI&VEW NOW&liXEH@FB1D!HEBREW
;kM:HIRIQ$izJUDEO-SPANISH VARIKA$dOYIDDISHkMkMtl$;uKiR%rRa4&se&c9&d8&s0&aggd&iE&TAV%uKaG^%ed:edaj(
SINaj(fi_edaj*SINaj%a4:tl(ty(MAPIQ%ol:fi%g6:fi%se:fi%c9:MAPIQ%p5:fi%ih:fi@FB38%n2:fi%kM:fi%agd8:fi%
d8:fi%s0:fi@FB3E%gd:fi@FB40%cM:fi%hi:fi@FB43%agcN:fi%cN:fi@FB46%TSADI:fi%QOF:fi%iE:fi%ed:fi%TAV:fi%
p5:HOLAM%ol:tB%d8:tB%cN:tB$dOa4s0!f1;a4WASLAan>(ag>%BEEHan>&ag>&av>&bq>%pDan>&ag>&av>&bq>%BEHEHan>&
ag>&av>&bq>%TTEHEHan>&ag>&av>&bq>%TEHEHan>&ag>&av>&bq>%TTEHan>&ag>&av>&bq>%VEHan>&ag>&av>&bq>%PEHEH
an>&ag>&av>&bq>%DYEHan>&ag>&av>&bq>%NYEHan>&ag>&av>&bq>%ujan>&ag>&av>&bq>%TCHEHEHan>&ag>&av>&bq>%
DDAHALan>&ag>%DAHALan>&ag>%DULan>&ag>%DDALan>&ag>%JEHan>&ag>%RREHan>&ag>%phan>&ag>&av>&bq>%oVan>&ag>
&av>&bq>%GUEHan>&ag>&av>&bq>%NGOEHan>&ag>&av>&bq>%dmsCan>(ag>%RNOONan>&ag>&av>&bq>%ei:aWaban>*ag>&sD
an>(ag>(av>(bq>&yGan>(ag>(av>(bq>%aWr2an>(ag>(:dxaban>+ag>$atajab&af%adaUab(af%akaUab(af(b5bfab*af%
aqaUab(af%ahazaFaf%adaUoaab)af%bd%<ewab(af%WASLAab@FBD3$;gean>&ag>&av>&bq>%Uan>&ag>%dhan>&ag>%dwan>&
ag>%U:dxaban>%hoan>&ag>%qSdhan>(ag>&dwan>(ag>%Ean>&ag>&av>&bq>%UIGHUR KAZAKHqSa4b4av>+bq>$dOaW:dxab:
a4an>,ag>+dRan>,ag>+dsan>,ag>+Uan>,ag>+dhan>,ag>+dwan>,ag>+Ean>,ag>,av>%UIGHURqSaW:dxab:a4b4an>~ag>~
av>$;m9aWan>(ag>(av>(bq>$dOaW:dxab:bxan>+boan>+aEan>+a4b4an>+aWan>%fS:bxan>(boan>(csan>(aEan>(a4b4an
>(aWan>%gg:bxan>(boan>(csan>(aEan>(a4b4an>(aWan>%jr:bxan>(aEan>(a4b4an>(aWan>%bx:boan>(aEan>%bo:bxan
>(aEan>%cs:bxan>(boan>(aEan>%eG:bxan>(boan>(csan>(aEan>%fm:boan>(aEan>%f7:bxan>(boan>(csan>(aEan>%ew
:boan>(aEan>%j0:aEan>%dK:bxan>(aEan>%gM:bxan>(aEan>%fk:bxan>(boan>(csan>(aEan>(a4b4an>(aWan>%eN:boan
>(aEan>(a4b4an>(aWan>%d8:a4an>(bxan>(boan>(csan>(dvan>(aEan>(a4b4an>(aWan>%dv:bxan>(boan>(csan>(aEan
>(a4b4an>(aWan>%aE:bxan>(boan>(csan>(aEan>(a4b4an>(aWan>%dm:bxan>(boan>(csan>(aEan>(a4b4an>(aWan>%ei
:bxan>(aEan>(a4b4an>(aWan>%aW:bxan>(boan>(csan>(aEan>(a4b4an>(aWan>%n3:iJa4an>%d5:iJa4an>%a4b4:iJa4
an>%pN:qwan>(qOan>(i3an>(kcan>(iran>(iJa4an>%aW:dxab:d5ag>+hSag>+aEag>+dmag>+a4b4ag>+aWag>%fS:d5ag>(
hSag>(aEag>(dmag>(a4b4ag>(aWag>%gg:d5ag>(hSag>(aEag>(dmag>(a4b4ag>(aWag>%jr:d5ag>(hSag>(aEag>(dmag>(
a4b4ag>(aWag>%fk:a4b4ag>(aWag>%eN:a4b4ag>(aWag>%d8:a4ag>(dvag>(aEag>(a4b4ag>(aWag>%dv:aEag>(a4b4ag>(
aWag>%aE:a4ag>(aEag>%dm:d5ag>(hSag>(aEag>(dmag>(a4b4ag>(aWag>%a4b4:iJa4ag>%aW:d5ag>(hSag>(aEag>(dmag
>(a4b4ag>(aWag>(dxab:bxav>+boav>+csav>+aEav>+eiav>%fS:bxav>(boav>(csav>(aEav>(eiav>%gg:bxav>(boav>(
csav>(aEav>(eiav>%jr:aEav>%bx:boav>(aEav>%bo:bxav>(aEav>%cs:bxav>(aEav>%eG:bxav>(boav>(csav>(aEav>%
fm:boav>(csav>(aEav>%f7:bxav>(boav>(csav>(aEav>%ew:boav>%j0:aEav>%dK:bxav>(aEav>%gM:bxav>(aEav>%fk:
bxav>(boav>(csav>(aEav>%eN:boav>(aEav>%d8:bxav>(boav>(csav>(dvav>(aEav>%dv:bxav>(boav>(csav>(aEav>(
eiav>%aE:bxav>(boav>(csav>(aEav>%dm:bxav>(boav>(csav>(aEav>(eiav>%ei:bxav>(aEav>(iJa4av>%aW:bxav>(bo
av>(csav>(aEav>(eiav>(dxab:aEbq>+eibq>%fS:aEbq>(eibq>%gg:aEbq>(eibq>%jr:aEbq>(eibq>%eG:aEbq>(eibq>%
gf:aEbq>(eibq>%d8:dvbq>(aEbq>%dv:aEbq>%dm:aEbq>(eibq>%aW:aEbq>(eibq>%pN:i3bq>(kcbq>(irbq>%ew:a4b4an>
(aWan>%dK:a4b4an>(aWan>%gM:a4b4an>(aWan>%eG:a4b4an>(aWan>%gf:a4b4an>(aWan>%bo:a4b4an>(aWan>%bx:a4b4
an>(aWan>%cs:a4b4an>(aWan>%fm:a4b4an>(aWan>%f7:a4b4an>(aWan>%gf:bxan>(boan>(csan>(aEan>(d5an>%eG:d5
an>%fm:d5an>%f7:d5an>%ew:a4b4ag>(aWag>%dK:a4b4ag>(aWag>%gM:a4b4ag>(aWag>%eG:a4b4ag>(aWag>%gf:a4b4ag>
(aWag>%bo:a4b4ag>(aWag>%bx:a4b4ag>(aWag>%cs:a4b4ag>(aWag>%fm:a4b4ag>(aWag>%f7:a4b4ag>(aWag>%gf:bxag>
(boag>(csag>(aEag>(d5ag>%eG:d5ag>%fm:d5ag>%f7:d5ag>%gf:bxav>(boav>(csav>(aEav>%eG:eiav>%gf:eiav>%ew:
aEav>%eG:bxbq>(bobq>(csbq>%gf:bxbq>(bobq>(csbq>%ew:aEbq>%j0:aEbq>%a4:oPag>)an>!ORNATEacc2$aac2!f1dO
RAHIMAHU ALLAAH%RADI ALLAAHU ANH(ANHAA(ANHUM(ANHUMAA(ANHUNNA%SALLALLAAHUrWWA-AALIH%rWr0%ALAYHIMr0%
ALAYHIMAAr0%rWAS-SALAATU WAS-SALAAM%QUDDISA SIRRAH%SALLALLAHUrWWAAALIHEE WA-SALLAM%ALAYHAAr0%
TABAARAKA WA-TAAALAA%RAHIMAHUM ALLAAH%gg:bx:aEav>(bo:bxag>+av>*aEav>(cs:aEav>(aE:bxav>*boav>*csav>%
bx:aE:boag>+av>%bo:aE:aWag>*a4b4ag>%eG:bo:bxav>(bx:boav>*a4b4ag>(aE:boag>+av>*bxav>*aEag>+av>%fm:bo:
boag>+av>(aE:aEag>%gf:bo:aEag>+av>(bx:aWag>(aE:csag>+av>*aEag>+av>%f7:bo:a4b4ag>(cs:aEag>+av>%ew:aE:
boag>+av>*aEav>*aWag>%dK:bx:aEag>(aE:aEag>+av>*a4b4ag>%gM:aE:aEag>*aWag>*a4b4ag>%fk:cs:aEag>+av>%eN:
aE:boag>*aEag>%dv:bo:aEag>*aWag>*a4b4ag>(bx:bxav>+ag>(cs:aEag>+av>(aE:boag>+av>%aE:bo:bxav>*aEav>*aW
ag>(bx:boav>*aEav>(cs:bxav>*aEav>@FD92(bx:csav>%ei:aE:bxav>*aEav>%dm:bo:aEav>*a4b4ag>(bx:aEag>+av>*
a4b4ag>(aE:aWag>*a4b4ag>%aW:aE:aEag>+av>%fS:cs:aWag>%gg:bx:aWag>*a4b4ag>(cs:aWag>*a4b4ag>(aE:aWag>*
a4b4ag>%bx:aE:aWag>(bo:a4b4ag>(aE:a4b4ag>%eG:cs:a4b4ag>%fm:bo:aWag>%gf:bo:aWag>%f7:bo:aWag>%dv:bx:aW
ag>(aE:aWag>%aW:bo:aWag>(bx:aWag>(aE:aWag>%aE:aE:aWag>%eN:aE:aWag>%dm:bo:aWag>%eN:aE:boav>%dv:bo:aE
av>%dK:aE:aWag>%d8:aE:aWag>%dm:bx:boav>%aE:cs:aWag>%dv:bx:aEav>%d8:aE:aEag>%dv:bx:aEag>%dm:bx:boag>%
bx:bo:aWag>%bo:bx:aWag>%aE:bx:aWag>%fk:aE:aWag>%fS:bo:aWag>%d8:aE:aEav>%dK:bx:aEav>%fm:aE:aEav>%eG:
cs:aWag>%dm:bx:aWag>@FDCF%SALAAMUHU ALAYNAA@FDF0%SALLA USEDhTKORANICbQ^an>%QALA USEDhTKORANICbQ^an>%
ALLAHan>%AKBARan>%MOHAMMADan>%SALAMan>%RASOULan>%qdan>%WASALLAMan>%SALLAan>%zMqdWASALLAM%
JALLAJALALOUHOU!RIAL^!f1dOBISMILLAH AR-RAHMAN AR-RAHEEM%SUBHAANAHUbVTAAALAA%AZZAbVJALL!rPSELECTOR-1$
SELECTOR-2$SELECTOR-3$SELECTOR-4$SELECTOR-5$SELECTOR-6$SELECTOR-7$SELECTOR-8$SELECTOR-9$SELECTOR-10$
SELECTOR-11$SELECTOR-12$SELECTOR-13$SELECTOR-14$SELECTOR-15$SELECTOR-16!tw>dlazcc(hBcc)cBbQ(dU(jn(eJ
ai(emai(acaplfaO(aaaplfBRAKCET(a6lV@FE20!dkdOacaK%aaaK$ahbbacaK&aaaK$b3acaK%aaaK$CONJOININGb3$dOacaK
af%aaaKaf$bbacaKaf%aaaKaf$b3acaKaf%aaaKaf$CONJOININGb3af$hXuqacaK&aaaK!tw>dlazadajwh(goc0(cGc0(bkbM(
kKbkbM(acc2(aac2(aceHaO(aaeHaO(acgIfbaO(aagIfbaO(acamlfaO(aaamlfaO(acahcwaO(aaahcwaO(accwaO(aacwaO(
acdVaO(aadVaO(acapdVaO(aaapdVaO!SESAMEaj!apSESAMEaj!tw>dlazacaRaO(aaaRaO!ilmq!CENTRELINEmq!kKmq!ahkK
mq!ilbkbM!CENTRELINEbkbM!kKbkbM!<cc$hBcc$cBbQ@FE54$jn$dU$emai$eJai$goc0$acc2$aac2$aceHaO$aaeHaO$acgI
fbaO$aagIfbaO$b6^$lE$cO$aG^$sM$cf^$ch^$dC^@FE68$fyfc$m6^$rk^$qte2@FE70!f1oPan>$ui:oPab$qwan>$cq
FRAGMENT$qOan>@FE76$i3an>%bq>$kcan>%bq>$iran>%bq>$pNan>%bq>$nVan>%bq>$;dxan>%a4:lhaban>*ag>(dxaban>*
ag>%ds:dxaban>*ag>%a4:dxafan>*ag>%aW:dxaban>*ag>*av>*bq>%a4an>&ag>%fSan>&ag>&av>&bq>%ggwran>(ag>&an>
&ag>&av>&bq>%jran>&ag>&av>&bq>%bxan>&ag>&av>&bq>%boan>&ag>&av>&bq>%csan>&ag>&av>&bq>%hYan>&ag>%n3an>
&ag>%d5an>&ag>%hSan>&ag>%eGan>&ag>&av>&bq>%gfan>&ag>&av>&bq>%fman>&ag>&av>&bq>%f7an>&ag>&av>&bq>%ew
an>&ag>&av>&bq>%j0an>&ag>&av>&bq>%dKan>&ag>&av>&bq>%gMan>&ag>&av>&bq>%fkan>&ag>&av>&bq>%eNan>&ag>&av
>&bq>%d8an>&ag>&av>&bq>%dvan>&ag>&av>&bq>%aEan>&ag>&av>&bq>%dman>&ag>&av>&bq>%eian>&ag>&av>&bq>%dsan
>&ag>%a4b4an>(ag>%aWan>&ag>&av>&bq>$dOdv:a4:lhaban>,ag>*dxaban>,ag>+afan>,ag>)an>)ag>@FEFF!brrSwEfD
@FF01!FULLWIDTHeJai$ecai$b6^$m6^$rk^$lE$kN$acc2$aac2$cO$aG^$cc$sM$cBbQ$fc$bcbr%ae%ad%ak%aq%au%aB%aI%
aC%aN$dU$jn$cf^$dC^$ch^$emai$qte2$cz?;A(B(C(D(E(F(G(H(I(J(K(L(M(N(O(P(Q(R(S(T(U(V(W(X(Y(Z$acaRaO$fy
fc$aaaRaO$bBdj$bkbM$bYdj$cz<;A(B(C(D(E(F(G(H(I(J(K(L(M(N(O(P(Q(R(S(T(U(V(W(X(Y(Z$aceHaO$azbM$aaeHaO$
bb$acapc2$aaapc2!HALFWIDTHhBcBbQ$acdVaO$aadVaO$hBcc$jIayaj%;ff&<A(I(U(E(O(a2(dw(dY(e0$qPPROLONGEDgX
ai$jI;A&I&U&E&O&aP&fO&fV&fN&eV&a9&fo&fR&fA&eY&ba&gH&e0&dz&al&a1&dP&dW&eb&da&aM&es&h4&c9&eK&a0&ej&do&
d9&fw&a2&dw&dY&aV&gU&fz&gD&eF&bV&N%kJgXai%xogXai$kkk2%;ma&t9&wc&mk&tc&td&mQ&uc&mz&tI&tJ&tK&tL&xe&xd&
tH&mg&mx&ua&tq&mG&ub&la&kT&t8&lM&l9&mM&mv&l3@FFC2&A&dR&a2&YAE&EO&E@FFCA&YEO&hp&O&bV&WAE&dh@FFD2&dY&U
&WEO&eS&fI&dw@FFDA&EU&en&I@FFE0!FULLWIDTH CENT^$tu^$cg^$b3$opaF$YEN^$WON^@FFE8!HALFWIDTH FORMSa7az$
aH|$bn|$aw|$bf|$amaR$apaT@FFF9!INTERLINEAR ANNOTATION ANCHOR%dX%TERMINATOR!OBJECTzDg4!zDg4@10000!
LINEAR BgYB008 A&B038 E&B028 I&B061 O&B010 U&B001be&B045fr&B007f8&B014fU&B051g5&B057bU&B046i9@1000D&
B036jH&B065 JU&B077aP&B044fN&B067fO&B070eV&B081fV&B080a0&B013d9&B073ej&B015fw&B023do&B006a1&B024eb&
B030dP&B052da&B055dW&B003aS&B072cN&B039c3&B011gC&B050iC&B016fZ&B078 QE&B021 QI&B032 QO@10028&B060aV&
B027gD&B053gU&B002eF&B026fz&B031a9&B009fA&B041fo&B012eY&B058fR&B059ba&B004dz&B037gH&B005al&B069e0&
B054bV&B075eS&B040fI&B042ff@1003C&B017cL&B074fJ@1003F&B020jv&B025 A2&B043 A3&B085bL&B071 DWE&B090
DWO&B048 NWA&B029 PU2&B062 PTE&B076 RA2&B033 RA3&B068 RO2&B066 TA2&B087 TWE&B091ad@10050%atB018&B019
&B022&B034&B047&B049&B056&B063&B064&B079&B082&B083&B086&B089@10080%qLB100fP&B102mV&B104 DEER&B105
EQUID&B105F MARE&B105M STALLION&B106F EWE&B106M RAM&B107F SHE-GOAT&B107M HE-GOAT&B108F SOW&B108M
BOAR&B109F COW&B109M BULL&B120 WHEAT&B121 BARLEY&B122 OLIVE&B123 SPICE&B125 CYPERUS%psB127 KAPO&B128
KANAKO%qLB130 OIL&B131 WINE&B132%psB133 AREPA&B135 MERI%qLB140 BRONZE&B141 GOLD&B142&B145 WOOL&B146
&B150&B151dG&B152&B153&B154%psB156 TURO2%qLB157&B158&B159 CLOTH&B160&B161&B162 GARMENT&B163 ARMOUR&
B164&B165&B166&B167&B168&B169&B170&B171&B172&B173 MONTH&B174&B176kG&B177&B178&B179&B180&B181&B182&
B183&B184&B185&B189&B190&B191sK&B220 FOOTSTOOL&B225 BATHTUB&B230 SPEAR&B231|&B232&B233 SWORD&B234&
B236&B240 WHEELEDqp&B241qp&B242qpFRAME&B243uD&B245&B246%psB247 DIPTE%qLB248&B249&B251&B252&B253&B254
DART&B255&B256&B257&B258&B259&VESSEL B155(B200(B201(B202(B203(B204(B205(B206(B207(B208(B209(B210(
B211(B212(B213(B214(B215(B216(B217(B218(B219(B221(B222(B226(B227(B228(B229(B250(B305@10100!AEGEANhO
dXbM&aj$iYai@10107$b6ae%ad%ak%aq%au%aB%aI%aC%aN%bA%dc%fE%gq%dN%gV%dH%hx%dp%aeaL%adaL%akaL%aqaL%auaL%
aBaL%aIaL%aCaL%aNaL%aeaY%adaY%akaY%aqaY%auaY%aBaY%aIaY%aCaY%aNaY%bAaY%dcaY%fEaY%gqaY%dNaY%gVaY%dHaY%
hxaY%dpaY@10137$WEIGHT BASErN%k3mK%nLmK%iKmK%szmK$DRYprk3mK$LIQUIDprk3mK$prnLmK%iKmK!eUACROPHONIC
ATTICaedQ(aK(vx&au&dN&auaL(aY&dNaY&aunX&bAnX&dNnX&aeaLnX&auaLnX&aeaYnX&auaYnX(mI&bAmI&dNmI&aeaLmI&au
aLmI&aeaYmI&bAaYmI&dNaYmI&bAMNAS%HERAEUMaePLETHRON%p1ae%vXae%vBad%p1ad%CYRENAICadDRACHMAS%vBad
DRACHMAS%x6au&bA(fg>%vXbA%MESSENIANbA%p1bA&fE%x6dN(fg>%vXdN%p1dN&aeaL&akaL%vBauaL%x6auaL%p1auaL%
CARYSTIANauaL%NAXIANauaL%p1aeaY&auaY%DELPHICauMNAS%STRATIANdNMNAS$aeaK^(fg>$adlx^$akhJ^$YEAR^$TALENT
^$vx^$OBOL^$adti^$akti^$aqti^$auti^$METRETES^$KYATHOS BASE^$LITRA^$OUNKIA^$XESTES^$ARTABE^$AROURA^$
GRAMMA^$TRYBLION BASE^$br^$aedQ^$SINUSOID^$INDICTION^!NOMISMA^@10190!rrSEXTANS^$UNCIA^$SEMUNCIA^$
SEXTULA^$DIMIDIA SEXTULA^$SILIQUA^$DENARIUS^$QUINARIUS^$SESTERTIUS^$DUPONDIUS^$hT^$CENTURIAL^!ASCIA
at@101A0!eUatgGeE@101D0!PHAISTOS DISC^PEDESTRIAN&PLUMEDga&TATTOOEDga&CAPTIVE&CHILD&mV&sK&GAUNTLET&
TIARA&|&on&xr&CLUB&MANACLES&MATTOCK&SAW&LID&BOOMERANG&CARPENTRY PLANE&DOLIUM&COMB&SLING&COLUMN&
BEEHIVE&SHIP&dG&HIDE&BULLSgS&iX&RAM&EAGLE&DOVE&TUNNY&oj&PLANEkG&lA&PAPYRUS&xh&LILY&OXiS&FLUTE&GRATER
&STRAINER&<AXE&kKBAND&dkhGas@10280!LYCIAN;A%E%B%BH%G%D%I%W%Z%TH%J%K%Q%L%M%N%MM%NN%U%P%KK%R%S%T%TT%dM
%cG%H%X@102A0!CARIAN;A%P2%D%L%UUU%R%LD%A2%Q%B%M%O%D2%T%SH%SH2%S%C-18%U%NN%X%N%TT2%P%SS%I%E%UUUU%K%K2
%ND%bS%G%G2%ST%ST2%ge%bF%C-39%TT%UUU2%di%MB%MB2%MB3%MB4%LD2%E2%UUU3@102E0!eTEPACTmPai%bcae&ad&ak&aq&
au&aB&aI&aC&aN%b6bA&dc&fE&gq&dN&gV&dH&hx&dp&aeaL&adaL&akaL&aqaL&auaL&aBaL&aIaL&aCaL&aNaL@10300!ctjG;
A&hr&fN&fr&E&ho&fJ&c9&dr&I&aP&fs&go&cG&gp&O&cN&dI&fV&hz&jC&dz&U&EKS&PHE&KHE&ke&ERS&e3&bF&bS&ESS%kuae
&au&bA&dN@1032D%;hp&NORTHERNie&SOUTHERNie!GOTHIC;AHSA%BAIRKAN%GIBA%DAGS%AIHVUS%QAIRTHRA%IUJA%HAGL%
THIUTH%EIS%KUSMA%LAGUS%MANNA%NAUTHS%JER%URUS%PAIRTHRA%dp%RAIDA%SAUIL%TEIWS%WINJA%FAIHU%IGGWS%HWAIR%
OTHAL%aNaL@10350!ctPERMIC;dM&j8&GAI&DOI&E&ZHOI&DZHOI&ZATA&DZITA&I&KOKE&LEI&MENOE&NENOE&VOOI&PEEI&REI
&SII&lw&U&CHERY&SHOOI&SHCHOOI&YRY&jZ&O&cK&ke&aM&TSIU&VER&YER&YERI&lB&gP&dw&a2&IA!dkctPERMIC;dM(DOI(
ZATA(NENOE(SII@10380!UGARITIC;ALPA%f5%GAMLA%b2%fT%eK%ff%iN%HOTA%n2%kM%d8%ed%h5%gd%DHAL%cM%jw%SAMKA%
dK%iC%SADE%QOPA%RASHA%THANNA%gM%al%I%U%SSU@1039F$hOoE!ctPERSIAN^A&I&U&aP&fV&bi&g8&hP&bW&bU&JI&ba&e0&
be&f8&g5&cd&aS&bp&c8&a1&dW&a0&ej&do&a2&cu&VI&aV&fz&aZ&a9&cL&bO&db&aM@103C8&AURAMAZDAA&AURAMAZDAA-2&
AURAMAZDAAHA&XSHAAYATHIYA&DAHYAAUSH&DAHYAAUSH-2&BAGA&BUUMISH%hOoE%b6ae&ad&bA&dc&aL@10400!DESERET?;bz
I(E(A(iO(O(cK&cCI(E(A(iO(O(cK&iQ&OW&jY&qb&H&ln&oj&pZ&oz&CHEE&pc&KAY&GAY&ke&mU&lW&rG&jC&ZEE&gp&ZHEE&
hz&fs&go&cG&i2&OI&EW$<;bzI(E(A(iO(O(cK&cCI(E(A(iO(O(cK&iQ&OW&jY&qb&H&ln&oj&pZ&oz&CHEE&pc&KAY&GAY&ke&
mU&lW&rG&jC&ZEE&gp&ZHEE&hz&fs&go&cG&i2&OI&EW!SHAVIAN;PEEP%TOT%KICK%na%THIGH%eY%SURE%CHURCH%YEA%HUNG%
BIB%DEAD%GAG%VOW%THEY%ZOO%pr%JUDGE%WOE%HA-HA%LOLL%MIME%IF%EGG%cR%ADO%b7%WOOL%he%iO%ROAR%cM%EAT%AGE%
l4%aA%OAK%OOZE%OIL%AWE%ARE%bw%AIR%ERR%ARRAY%oI%IAN%YEW!OSMANYA;a4%bp%ba%bU%hP%b2%DEEL%aV%a9%SHIIN%cI
%CAYN%bi%c8%QAAF%KAAF%LAAN%MIIN%NUUN%ds%aM%a2%A%E%I%O%U%bs%c1%cK@104A0$bcbr%ae%ad%ak%aq%au%aB%aI%aC%
aN@104B0!OSAGE?;A&bE&dK&iO&BRA&bZ&EHCHA&E&EIN&aM&HYA&I&aP&EHKA&KYA&aZ&a0&a1&O&OIN&aS&EHPA&a9&bO&ba&
EHTA&ee&EHTSA&hN&cI&U&bV&b2&cH&cL&fK@104D8$<;A&bE&dK&iO&BRA&bZ&EHCHA&E&EIN&aM&HYA&I&aP&EHKA&KYA&aZ&
a0&a1&O&OIN&aS&EHPA&a9&bO&ba&EHTA&ee&EHTSA&hN&cI&U&bV&b2&cH&cL&fK@10500!ELBASAN;A%hr%CE%e3%fr%NDE%
DHE%EI%E%i4%GE%GJE%c9%I%i9%fN%hE%LLE%d9%eb%a1%mn%O%cN%QE%gD%RRE%fA%dI%dz%dr%U%ho%XE%Y%fJ%hq%gt%
GHAMMA%KHE@10530!CAUCASIAN ALBANIAN;ALT&ol&GIM&DAT&EB&ZARL&EYN&ZHIL&TAS&bZ&YOWD&fK&IRB&bO&LAN&INYA&
XEYN&DYAN&lK&JHOX&KAR&LYIT&HEYT&QAY&AOR&CHOY&e4&CYAY&MAQ&QAR&NOWC&DZYAY&SHAK&JAYN&b7&TYAY&FAM&DZAY&
CHAT&pE&GHEYS&RAT&SEYK&VEYZ&TIWR&SHOY&IWN&CYAW&CAYN&YAYD&PIWR&KIW@1056F%CITATIONai!VITHKUQI?;A&BBE&
hr&CE&e3&fr&DHE&EI&E&i4&bi@1057C&aM&k8&I&IJE&i9&aP&aZ&eu&d9&eb&mn&O&cN&fZ&gD@1058C&fA&dI&dz&dr&U&ho&
XE@10594&Y&fJ@10597$<;A&BBE&hr&CE&e3&fr&DHE&EI&E&i4&bi@105A3&aM&k8&I&IJE&i9&aP&aZ&eu&d9&eb&mn&O&cN&
fZ&gD@105B3&fA&dI&dz&dr&U&ho&XE@105BB&Y&fJ@10600!LINEAR A^AB001&AB002&AB003&AB004&AB005&AB006&AB007&
AB008&AB009&AB010&AB011&AB013&AB016&AB017&AB020&AB021&AB021F&AB021M&AB022&AB022F&AB022M&AB023&AB023M
&AB024&AB026&AB027&AB028&A028B&AB029&AB030&AB031&AB034&AB037&AB038&AB039&AB040&AB041&AB044&AB045&
AB046&AB047&AB048&AB049&AB050&AB051&AB053&AB054&AB055&AB056&AB057&AB058&AB059&AB060&AB061&AB065&
AB066&AB067&AB069&AB070&AB073&AB074&AB076&AB077&AB078&AB079&AB080&AB081&AB082&AB085&AB086&AB087&
A100-102&AB118&AB120&A120B&AB122&AB123&AB131A&AB131B&A131C&AB164&AB171&AB180&AB188&AB191&A301&A302&
A303&A304&A305&A306&A307&A308&A309A&A309B&A309C&A310&A311&A312&A313A&A313B&A313C&A314&A315&A316&A317
&A318&A319&A320&A321&A322&A323&A324&A325&A326&A327&A328&A329&A330&A331&A332&A333&A334&A335&A336&A337
&A338&A339&A340&A341&A342&A343&A344&A345&A346&A347&A348&A349&A350&A351&A352&A353&A354&A355&A356&A357
&A358&A359&A360&A361&A362&A363&A364&A365&A366&A367&A368&A369&A370&A371&A400-VAS&A401-VAS&A402-VAS&
A403-VAS&A404-VAS&A405-VAS&A406-VAS&A407-VAS&A408-VAS&A409-VAS&A410-VAS&A411-VAS&A412-VAS&A413-VAS&
A414-VAS&A415-VAS&A416-VAS&A417-VAS&A418-VAS&A501&A502&A503&A504&A505&A506&A508&A509&A510&A511&A512&
A513&A515&A516&A520&A521&A523&A524&A525&A526&A527&A528&A529&A530&A531&A532&A534&A535&A536&A537&A538&
A539&A540&A541&A542&A545&A547&A548&A549&A550&A551&A552&A553&A554&A555&A556&A557&A559&A563&A564&A565&
A566&A568&A569&A570&A571&A572&A573&A574&A575&A576&A577&A578&A579&A580&A581&A582&A583&A584&A585&A586&
A587&A588&A589&A591&A592&A594&A595&A596&A598&A600&A601&A602&A603&A604&A606&A608&A609&A610&A611&A612&
A613&A614&A615&A616&A617&A618&A619&A620&A621&A622&A623&A624&A626&A627&A628&A629&A634&A637&A638&A640&
A642&A643&A644&A645&A646&A648&A649&A651&A652&A653&A654&A655&A656&A657&A658&A659&A660&A661&A662&A663&
A664@10740&A701 A&A702 B&A703 D&A704 E&A705 F&A706 H&A707 J&A708 K&A709 L&A709-2 L2&A709-3 L3&A709-4
L4&A709-6 L6&A710 W&A711 X&A712 Y&A713dq&A714 ABB&A715 BB&A717 DD&A726 EYYY&A732i9@10760&A800&A801&
A802&A803&A804&A805&A806&A807@10780!ea;<?bs%iJfFdU&aKfFdU%<dR&?B&B:ar@10787&DZep):c4ar*fq&siep&D:cq)
ar*_cq&bJE&dBbJbvE&FENGep&RAMSdG&?G&G:ar&?G:ar&H:as&?H&qJ:ar&h1J:as_ar&LSep&LZep&L:jx&?L:jx&L:c4ar_
jx&LEZH(:c4ar&byY):jx&O:as&?dh&dBdq&Q&byR:bzgS,_c4ar&R:cq)nb&?R&TCep:fq&TSep):c4ar&ulep&T:c4ar&V:aa
ar@107B2&?Y%eqbQ:as%bJeqbQ:as%uVjz%vnjz%LATERALjz%ALVEOLARjz%c4jz:c4ar%<S:fq@10800!CYPRIOTgYA%E%I%O%
U%bU@10808%jH@1080A%aP%fN%fO%eV%fV%aZ%hE%gy%fX%e7%a0%d9%ej%fw%do%a1%eb%dP%da%dW%aS%cN%c3%gC%iC%aV%gD
%gU%eF%fz%a9%fA%fo%eY%fR%ba%dz%gH%al%e0%bV%eS%fI%ff@10837%hP%XE@1083C%cL@1083F%jv!IMPERIAL ARAMAIC;
gJ&gK&g6&kb&c9&ds&ih&hA&kB&hR&hb&hD&gd&cM&hi&iR&cN&hL&my&iE&ed&hm@10857%fa^%b6ae&ad&ak&bA&dc&aeaL(aY
&bAaY!PALMYRENE;gJ%gK%g6%kb%c9%ds%ih%hA%kB%hR%hb%hD%gd%agcM%cM%hi%iR%cN%hL%my%iE%ed%hm$fWvG$e8vG$b6
ae%ad%ak%aq%au%bA%dc!NABATAEAN;aggJ%gJ%aggK%gK%g6%kb%agc9%c9%ds%ih%hA%kB%aghR%hR%aghb%hb%aghD%hD%ag
gd%gd%agcM%cM%hi%iR%cN%hL%my%iE%aged%ed%hm@108A7$b6ae%ad%ak%aq$CRUCIFORMb6aq$b6au%bA%dc%aeaL@108E0!
HATRAN;gJ%gK%g6%DALETH-RESH%c9%ds%ZAYN%hA%kB%hR%hb%hD%gd%cM%hi%AYN%cN%hL%my@108F4%ed%hm@108FB$b6ae%
au%bA%dc%aeaL!PHOENICIAN;ALF%ol%GAML%DELT%c9%WAU%ZAI%HET%n2%kM%d8%LAMD%gd%cM%SEMK%dK%cN%SADE%QOF%
ROSH%ed%gG$b6ae%bA%dc%aeaL%ad%ak@1091F$hOdX!LYDIAN;A%B%G%D%E%V%I%Y%K%L%M%N%O%R%SS%T%U%F%Q%S%TT%dM%cG
%LY%NN%C@1093F$fFai@10980!MEROITIC HIEROGLYPHIC;A&E&I&O&a2&bV&bp&BA-2&aS&a0&a1&NA-2&eb&NE-2&aV&RA-2&
aZ&b2&k8&a9&SA-2&fA&aP&fZ&ba&TA-2&dz&TE-2&al&be%atVIDJ&VIDJ-2$CURSIVE;A&E&I&O&a2&bV&bp&aS&a0&a1&eb&
aV&aZ&b2&k8&a9&f2a9&fA&aP&fZ&ba&dz&al&be@109BC%f9i1kH&aeaK%qYRMT&IMN%b6ae&ad&ak&aq&au&aB&aI&aC&aN&bA
&dc&fE&gq&dN&gV&dH@109D2&aeaL&adaL&akaL&aqaL&auaL&aBaL&aIaL&aCaL&aNaL&aeaY&adaY&akaY&aqaY&auaY&aBaY&
aIaY&aCaY&aNaY&bAaY&dcaY&fEaY&gqaY&dNaY&gVaY&dHaY&hxaY&dpaY&aeaLaY&adaLaY&akaLaY&aqaLaY&auaLaY&aBaL
aY&aIaLaY&aCaLaY&aNaLaY%f9aeTWELFTH&adkH&akkH&aqkH&aukH&aBkH&aIkH&aCkH&aNkH&bAkH!KHAROSHTHI;A$a8^I&U
&cjR@10A05&E&O@10A0C%hFai$^ahbdaf%cD%dA$;aP%b2%bi%cH@10A15%bW%bZ%bU@10A19%b0%cE%c7%cF%de%cU%ba%cd%be
%cI%a1%aS%cp%bp%cV%a0%a2%aV%aZ%cu%bO%db%a9%cL%aM%KKA%TTTHA%TTTA%VHA@10A38$^aFab%CAUDA%ajaf@10A3F$dd$
bcae%ad%ak%aq$b6bA%dc%aeaL&aY$f9aeaK@10A50$cYaj%<aT%aT%owaF%MANGALAM%s4%d7%ahd7%LINES@10A60!ctcZ
ARABIAN;c9(hD(hA(gd(my(ds(ed(iE(gK(hm(SAT(hb(cM(KHETH(hL(hi(i4(a4(AYN(DHADHE(g6(kb(GHAYN(kB(ZAYN(
DHALETH(hR(THAW(THETH&b6ae(dN&NUMERICl6$cJARABIAN;ei(dv(bo(aE(eN(ds(ES-2(d5(fS(gg(ES-1(d8(dm(cs(fm(
ES-3(fk(a4(dK(f7(GEEM(hY(gM(ew(hS(n3(aW(jr(j0&b6ae(bA(dc@10AC0!MANICHAEAN;gJ%gK%BHETH%g6%GHIMEL%kb%
c9%ds$^gi$;ih%ZHAYIN%JAYIN%JHAYIN%hA%kB%hR%hb%XAPH%KHAPH%hD%DHAMEDH%THAMEDH%gd%cM%hi%iR%AAYIN%cN%i4%
hL%my%XOPH%QHOPH%iE%ed%SSHIN%hm$gjaiab&af@10AEB$b6ae%au%bA%dc%aeaL$cYci%vG%ahajobaj%ajobaj&%adaU%bM
k2@10B00!AVESTAN;A%bs%AO%AAO%dM%AAN%dR%AEE%E%c1%O%cK%I%bF%U%bS%fN%XE%XYE%XVE%GE%GGE%gt%CE%i9%dz%dr%
fr%DHE%TTE%cN%i4%hr%BHE%NGE%NGYE%NGVE%eb%NYE%NNE%d9%HME%YYE%hp%ho%gD%hE%fA%fJ%dI%hq%SHYE%SSHE%c9
@10B39$gjai!rHadaUaXaeajcY!<adaUaXaeajcY!bXadaUaXaeajcY$aeajaXadaUcY$adRINGSaXaebdcY$aebdaXadRINGScY
!INSCRIPTIONAL PARTHIAN;gJ&gK&g6&kb&c9&ds&ih&hA&kB&hR&hb&hD&gd&cM&hi&iR&cN&hL&my&iE&ed&hm@10B58%b6ae
&ad&ak&aq&bA&dc&aeaL(aY$PAHLAVI;gJ&gK&g6&kb&c9&z5&ih&hA&kB&hR&hb&hD&MEM-QOPH&cM&hi&cN&hL&ed&hm@10B78
%b6ae&ad&ak&aq&bA&dc&aeaL(aY!PSALTER PAHLAVI;gJ&gK&g6&kb&c9&z5&ih&hA&hR&hb&hD&MEM-QOPH&cM&hi&cN&hL&
ed&hm@10B99%faai%byfaai%aqaU:cP)aj@10BA9%b6ae&ad&ak&aq&bA&dc&aeaL@10C00!ctTURKIC;ekA&ezA(dR&ekI&ezI(
E&ekO(dh&ezdh&ekAB&ezAB&ekAEB&ezAEB&ekAG&ezAG&ekAEG&ezAEG&ekAD&ezAD&ekAED(EZ&ezEZ&ekiQ&eziQ&ekAEY&ez
AEY&ekAEK&ezAEK&ekOEK&ezOEK&ekAL&ezAL&ekAEL(ELT(go(dM(od&ezod&ekENT&ezENT&ekENC&ezENC&ekoK&ezoK(iP&
eki2&ezAENG&ekEP(OP(IC(EC&ezEC&ekAQ&ezAQ&ekIQ&ezIQ&ekOQ&ezOQ&ekAR&ezAR&ekAER(hT(AES(cR&ezcR&ekgp&ez
gp&eke2&eze2&ekAET&ezAET&ekOT(BASH@10C80$HUNGARIAN?;A(bs(EB(AMB(EC(ENC(ECS(ED(_(E(CLOSE E(c1(ke(EG(
EGY(kf(I(bF(EJ(EK(AK(UNK(fs(ELY(go(cG(oK(O(cK(tfdh(tPdh(OEE(EP(EMP(hz(cChz(jC(ESZ(in(ENT(ETY(oJ(U(bS
(tffp(tPfp(EV(EZ(EZS(ENT-SHAPED^(US@10CC0%<;A(bs(EB(AMB(EC(ENC(ECS(ED(_(E(CLOSE E(c1(ke(EG(EGY(kf(I(
bF(EJ(EK(AK(UNK(fs(ELY(go(cG(oK(O(cK(tfdh(tPdh(OEE(EP(EMP(hz(cChz(jC(ESZ(in(ENT(ETY(oJ(U(bS(tffp(tP
fp(EV(EZ(EZS(ENT-SHAPED^(US@10CFA%b6ae&au&bA&dN&aeaL(aY!HANIFI ROHINGYA;A&bp&aS&ba&cE&bU&bW&aM&b2&c8
&be&cF&aV&f0&cL&a9&bO&aP&bi&aZ&a0&a1&bV&KINNAbV&a2&KINNAa2&bN&b0&cu%a8A&I&U&E&O%aiSAKIN&a1KHONNA%^
HARBAHAY&TAHALA&TANA&TASSI@10D30%bcbr&ae&ad&ak&aq&au&aB&aI&aC&aN@10E60!RUMIbcae%ad%ak%aq%au%aB%aI%aC
%aN$b6bA%dc%fE%gq%dN%gV%dH%hx%dp%aeaL%adaL%akaL%aqaL%auaL%aBaL%aIaL%aCaL%aNaL$f9aeaK&dQ&iK%adlx
@10E80!YEZIDI;ELIF%hr%cN%PHE%dr%fA%CIM%CHIM%CHHIM%k8%hP%hY%ZAL%aV%lp%cL%bU%SIN%ed%fm%f7%ba%fJ%EYN%
XHEYN%c8%cu&fg>%eN%d8%KHAF%oV%dv%MIM%cM%UM%ds%OW%EW%HAY%YOT%in@10EAB$dkdxai%lhai$yVai@10EB0$;dv:ajab
%YOT:bBab@10F00!ctxC;gJ&aggJ&gK&aggK&g6&c9&agc9&ds&ih&hA&hR&hb&hD&gd&cM&agcM):azcq&hi&iR&fgiR&cN&hL&
aghL):azcq&RESH-AYIN-DALETH&ed&hm&aghm):azcq%b6ae&ad&ak&aq&au&bA&dc&fE&aeaL%f9aeaK%dOAYIN-DALETH
@10F30!xC;gJ%gK%g6%c9%ds%ih%hA%hR%hb%hD%gd%cM%hi%iR%cN%hL%RESH-AYIN%ed%hm%FETH%LESH$l5ed$dkajaf%adaU
af%ajab%adaUab%gnab&af%arab&af%bzaraf%iEaf%asaf$b6ae%bA%dc%aeaL$cYadazBARS):aU%aT:aj%adii:aU%aKaT:aj
@10F70!ctUYGHUR;gJ&gK&GIMEL-HETH&ds&ih&aghA&hR&hb&hD&gd&cM&hi&cN&hL&iE&ed&hm&LESH%dkajab(af&adaUab)
af%cYaF&adBARS(aU&aqaU@10FB0!CHORASMIAN;gJ%<gJ%gK%g6%kb%c9%ds%CURLEDds%ih%hA%hR%hb%hD%gd%cM%hi%iR%cN
%iE%ed%hm$b6ae%ad%ak%aq%bA%dc%aeaL@10FE0!ELYMAIC;gJ%gK%g6%kb%c9%ds%ih%hA%kB%hR%hb%hD%gd%cM%hi%iR%cN%
hL%my%iE%ed%hm$dOZAYIN-YODH@11000!BRAHMI^dZ%cD%dA%pd%p4$;A%bs%I%bF%U%bS%cjR&di&L&dD%E%bE%O%bL%aP%b2%
bi%cH%bN%bW%bZ%bU%dy%b0%cE%c7%cF%de%cU%ba%cd%be%cI%a1%aS%cp%bp%cV%a0%a2%aV%aZ%cu%bO%db%a9%aM%eu%ctnZ
nt(f0(rb$a8^bs&BHATTIPROLUbs&I&bF&U&bS&cjR(di(L(dD&E&bE&O&bL$dd$d7$ahd7$cYaj%ahaj%bM%owaF%s4@11052$
b6ae%ad%ak%aq%au%aB%aI%aC%aN%bA%dc%fE%gq%dN%gV%dH%hx%dp%aeaL&aY$bcbr%ae%ad%ak%aq%au%aB%aI%aC%aN$^ct
nZdd$;ctnZcCE)O$a8^ctnZcCE*O$;ctnZeu@1107F$b6nm!KAITHI^dZ%cD%dA$;A%bs%I%bF%U%bS%E%bE%O%bL%aP%b2%bi%
cH%bN%bW%bZ%bU%dy%b0%cE%c7%cF%DDDHA%de%lp%cU%ba%cd%be%cI%a1%aS%cp%bp%cV%a0%a2%aV%aZ%cu%bO%db%a9%aM$
a8^bs&I&bF&U&bS&E&bE&O&bL$^dd%eW$gj^$ENUMERATION^$b6^$faai$ahfaai$d7$ahd7$a8^cjR@110CD$b6^ab@110D0!
SORA SOMPENG;SAH&ew&BAH&CAH&DAH&GAH&MAH&NGAH&LAH&NAH&VAH&PAH&YAH&RAH&bo&KAH&JAH&NYAH&iO&EEH&IH&UH&OH
&kf&MAE@110F0%bcbr&ae&ad&ak&aq&au&aB&aI&aC&aN@11100!CHAKMA^dZ%cD%dA$;bs%I%U%E%KAA%KHAA%GAA%GHAA%NGAA
%CAA%CHAA%JAA%JHAA%NYAA%TTAA%TTHAA%DDAA%DDHAA%NNAA%nW%rF%DAA%DHAA%pu%PAA%PHAA%BAA%BHAA%MAA%YYAA%qa%
RAA%LAA%WAA%SAA%k6$a8^A&I&bF&U&bS&E&bE&O&bL&OI$Oai$bLai$dd$MAAYYAA@11136$bcbr%ae%ad%ak%aq%au%aB%aI%
aC%aN$faai$d7$ahd7$emai$;LHAA$a8^bs&EI$;VAA@11150!MAHAJANI;A%I%U%E%O%aP%b2%bi%cH%bW%bZ%bU%dy%b0%cE%
c7%cF%de%cU%ba%cd%be%cI%a1%aS%cp%bp%cV%a0%aV%aZ%cu%a9%aM%f0$^eW$gj^$faai$dOSHRI@11180!SHARADA^dZ%cD%
dA$;A%bs%I%bF%U%bS%cjR&di&L&dD%E%bE%O%bL%aP%b2%bi%cH%bN%bW%bZ%bU%dy%b0%cE%c7%cF%de%cU%ba%cd%be%cI%a1
%aS%cp%bp%cV%a0%a2%aV%aZ%eu%cu%bO%db%a9%aM$a8^bs&I&bF&U&bS&cjR(di(L(dD&E&bE&O&bL$^dd%g3%pd%p4$ix$d7$
ahd7$gj^$dX$rwai$^eW$a8eaai$EXTRAcCa8ai$SUTRAai$a8^w5E$^b1dZ$bcbr%ae%ad%ak%aq%au%aB%aI%aC%aN$EKAM$^
nQ$vW$CONTINUATION^$faq0%q1@111E1!SINHALAf2bcae&ad&ak&aq&au&aB&aI&aC&aN%b6bA&dc&fE&gq&dN&gV&dH&hx&dp
&aeaL(aY@11200!KHOJKI;A%bs%I%U%E%bE%O%bL%aP%b2%bi%oX%cH%bN%bW%bZ%bU%JJA@11213%b0%cE%c7%cF%de%cU%ba%
cd%be%sf%cI%a1%aS%cp%bp%m2%cV%a0%a2%aV%aZ%cu%a9%aM%eu$a8^bs&I&bF&U&E&bE&O&bL$^cD%dd%eW%pN$d7$ahd7$hO
dX$faai$ahfaai$gj^$^nV@11280!MULTANI;A%I%U%E%aP%b2%bi@11288%cH@1128A%bW%bZ%bU%JJA@1128F%b0%cE%c7%cF%
sf%de%cU%ba%cd%be%cI%a1%aS%cp%bp@1129F%cV%a0%a2%aV%aZ%cu%a9%aM%f0%lp$faai@112B0!KHUDAWADI;A%bs%I%bF%
U%bS%E%bE%O%bL%aP%b2%bi%oX%cH%bN%bW%bZ%bU%JJA%dy%b0%cE%c7%cF%sf%f0%de%cU%ba%cd%be%cI%a1%aS%cp%bp%m2%
cV%a0%a2%aV%aZ%cu%bO%a9%aM$^cD$a8^bs&I&bF&U&bS&E&bE&O&bL$^eW%dd@112F0$bcbr%ae%ad%ak%aq%au%aB%aI%aC%
aN@11300!vR^dkcDab%dZ%cD%dA@11305$;A%bs%I%bF%U%bS%cjR&L@1130F%c1%bE@11313%cK%bL%aP%b2%bi%cH%bN%bW%bZ
%bU%dy%b0%cE%c7%cF%de%cU%ba%cd%be%cI%a1@1132A%aS%cp%bp%cV%a0%a2%aV@11332%aZ%eu@11335%cu%bO%db%a9%aM
@1133B!dkBINDUaf!vR^eW%g3$a8^bs&I&bF&U&bS&cjR(di@11347&c1&bE@1134B&cK&bL$^dd@11350$ix@11357$bLhFai
@1135D$^PLUTA$;rQcD&ahcD%cjdi&dD$a8^cjL(dD@11366!dkvRbcbr&ae&ad&ak&aq&au&aB@11370%;A&aP&a1&VI&aS
@11400!NEWA;A%bs%I%bF%U%bS%cjR&di&L&dD%E%bE%O%bL%aP%b2%bi%cH%bN%NGHA%bW%bZ%bU%dy%b0%NYHA%cE%c7%cF%de
%cU%ba%cd%be%cI%a1%pz%aS%cp%bp%cV%a0%MHA%a2%aV%lp%aZ%mb%bV%bO%db%a9%aM$a8^bs&I&bF&U&bS&cjR(di(L(dD&E
&bE&O&bL$^dd%dZ%cD%dA%eW%g3%agcD$ix$SIDDHI$d7$ahd7$cc$GAPk2$gj^$bcbr%ae%ad%ak%aq%au%aB%aI%aC%aN$ahcc
$wXai@1145D$v2^$rwai$;rQcD$^pd%p4@11480!TIRHUTA ANJI$;A%bs%I%bF%U%bS%cjR&di&L&dD%E%bE%O%bL%aP%b2%bi%
cH%bN%bW%bZ%bU%dy%b0%cE%c7%cF%de%cU%ba%cd%be%cI%a1%aS%cp%bp%cV%a0%a2%aV%aZ%cu%bO%db%a9%aM$a8^bs&I&bF
&U&bS&cjR(di(L(dD&E&cCE&bE&O&cCO&bL$^dZ%cD%dA%dd%eW%g3$GVANG$gj^$ix@114D0$bcbr%ae%ad%ak%aq%au%aB%aI%
aC%aN@11580!nQ;A%bs%I%bF%U%bS%cjR&di&L&dD%E%bE%O%bL%aP%b2%bi%cH%bN%bW%bZ%bU%dy%b0%cE%c7%cF%de%cU%ba%
cd%be%cI%a1%aS%cp%bp%cV%a0%a2%aV%aZ%cu%bO%db%a9%aM$a8^bs&I&bF&U&bS&cjR(di@115B8&E&bE&O&bL$^dZ%cD%dA%
dd%eW%nQ$d7$ahd7$dXaj%aF$xcq0%q1%MARK-3$duaokCai$faai:uy_rLORNAMENTS*dnlP(pH_dnlP+ahlP+cQlP&ahbd):pH
&:ahlP(cQlP(jNlP(SEPTUPLElP(ii_pH*adENCLOSURES*aqENCLOSURES$;THREE-CIRCLEfgI%z4fgI(bF%fgU$a8^fgU(bS
@11600!MODI;A%bs%I%bF%U%bS%cjR&di&L&dD%E%bE%O%bL%aP%b2%bi%cH%bN%bW%bZ%bU%dy%b0%cE%c7%cF%de%cU%ba%cd%
be%cI%a1%aS%cp%bp%cV%a0%a2%aV%aZ%cu%bO%db%a9%aM%eu$a8^bs&I&bF&U&bS&cjR(di(L(dD&E&bE&O&bL$^cD%dA%dd%
ARDHACANDRA$d7$ahd7$gj^$^HUVA@11650$bcbr%ae%ad%ak%aq%au%aB%aI%aC%aN@11660!MONGOLIANj7:cA$b9j7$ahj7:
cA$cQj7:cA$j7:ahcA$b9j7:cA(ahcA$b1j7&:ahcA$SWIRLj7&:cA(ahcA$bySWIRLj7:ahcA@11680!TAKRI;A%bs%I%bF%U%
bS%E%bE%O%bL%aP%b2%bi%cH%bN%bW%bZ%bU%dy%b0%cE%c7%cF%de%cU%ba%cd%be%cI%a1%aS%cp%bp%cV%a0%a2%aV%aZ%cu%
bO%a9%aM%f0$^cD%dA$a8^bs&I&bF&U&bS&E&bE&O&bL$^dd%eW$;f2b2$gj^@116C0$bcbr%ae%ad%ak%aq%au%aB%aI%aC%aN
@11700!AHOM;aP%b2%bN%a1%ba%fgba%aS%cp%bp%a0%bU%bZ%cd%aV%aZ%a9%b0%aM%A%be%cI%bi%fgbi%cH%cV%dy%fgbp
@1171D$fh^bqaZ(aV(LIGATINGaV$a8^A&bs&I&bF&U&bS&E&AW&O&bE&j2$^KILLER@11730$bcbr%ae%ad%ak%aq%au%aB%aI%
aC%aN$b6bA%dc$^<fa%fa%RULAI$atVI$;bW%cE%c7%cF%de%cU%eu@11800!DOGRA;A%bs%I%bF%U%bS%E%bE%O%bL%aP%b2%bi
%cH%bN%bW%bZ%bU%dy%b0%cE%c7%cF%de%cU%ba%cd%be%cI%a1%aS%cp%bp%cV%a0%a2%aV%aZ%cu%bO%db%a9%aM%f0$a8^bs&
I&bF&U&bS&cjR(di&E&bE&O&bL$^cD%dA%dd%eW$gj^@118A0!WARANG CITI?;NGAA(A(fI(dw(a2(dY(bF(bS(E(O(iP(bi(eV
(oK(YUJ(UC(ENN(nC(TTE(NUNG(be(e2(j2(f6(iC(HIYO(HOLO(HORR(o2(SSUU(SII(VIYO%<;NGAA(A(fI(dw(a2(dY(bF(bS
(E(O(iP(bi(eV(oK(YUJ(UC(ENN(nC(TTE(NUNG(be(e2(j2(f6(iC(HIYO(HOLO(HORR(o2(SSUU(SII(VIYO%bcbr&ae&ad&ak
&aq&au&aB&aI&aC&aN%b6bA&dc&fE&gq&dN&gV&dH&hx&dp@118FF%ix!DIVES AKURU;A&bs&I&bF&U&bS&E@11909&O@1190C&
aP&b2&bi&cH&bN&bW&bZ&bU@11915&b0&cE@11918&cF&de&cU&ba&cd&be&cI&a1&aS&cp&bp&cV&a0&a2&YYA&aV&aZ&cu&bO&
db&a9&aM&eu&cL%a8^bs(I(bF(U(bS(E@11937(bE(O@1193B%^cD&dZ&vT%dd%PREFIXED NASAL^%bqa2%avaV%bqaV%^eW%ah
d7%GAPk2%duaokCai@11950%bcbr&ae&ad&ak&aq&au&aB&aI&aC&aN@119A0!NANDINAGARI;A%bs%I%bF%U%bS%cjR&di
@119AA%E%bE%O%bL%aP%b2%bi%cH%bN%bW%bZ%bU%dy%b0%cE%c7%cF%de%cU%ba%cd%be%cI%a1%aS%cp%bp%cV%a0%a2%aV%aZ
%cu%bO%db%a9%aM%eu%f0$a8^bs&I&bF&U&bS&cjR(di@119DA&E&bE&O&bL$^cD%dA%dd%g3%nQ$vW$a8^w5E@11A00!
ZANABAZARaR;A%a8^I(fp(U(E(dh(O(bE(bL(bJI&hFai%;aP&b2&bi&cH&bN&bW&bZ&bU&b0&cE&c7&cF&de&cU&ba&cd&be&cI
&a1&aS&cp&bp&cV&a0&ee&hN&im&qz&fK&cL&-A&a2&aV&aZ&cu&bO&db&a9&aM&qV%agfhai%^dd&dZ(:cA&hv:cA&cD&dA%yx;
aV%CLUSTER-FINAL;a2(aV(aZ(cu%avgaai%qsgaai%aijU&hj&ahhj&bzjU%avyHgaai%qsyHgaai%SUBJOINER@11A50!
SOYOMBO;A$a8^I&fp&U&E&O&dh&bE&bL&cjR(L%hFai$;aP%b2%bi%cH%bN%bW%bZ%bU%dy%b0%cE%c7%cF%de%cU%ba%cd%be%
cI%a1%aS%cp%bp%cV%a0%ee%hN%im%fK%cL%-A%a2%aV%aZ%cu%bO%db%a9%aM%qV$^pd%p4$yx;aV&aZ&bO&a9$agfh^G(K(ge(
D(N(B(M(R(L(SH(S(-A$^cD%dA$qDai$SUBJOINER$aijU%hj%ahhj%PLUTA$gaai:eM_jT_cQFLAME,FLAME+$TERMINALq0%q1
@11AB0!u2xTNATTILIKes&HII&eK&HOO&aM&k6&SHRI&SHRII&SHRO&SHROO&SHRA&SHRAA%SPE%SPI%SPO%SPA!PAU CIN HAU;
aS(aP(aZ(a0(be(cL(cu(bN(aM(bi(b2(a9(bp(bW(ba(cd(a1(cp(aV(c8(bZ(A(E(I(O(U(UA(IA(agP)K)T)M)N)L)W)ge)Y&
iFbDbz)&rweqbQ&iFbDbzag)ag&rweqbQag(bDbz))bzag)ag&MID-LEVELbD&eqbQfG&MID-LEVELbDbzag)ag&zcbDbz)&eqbQ
&zcbDbzag)ag&eqbQag@11C00!BHAIKSUKI;A%bs%I%bF%U%bS%cjR&di&L@11C0A%E%bE%O%bL%aP%b2%bi%cH%bN%bW%bZ%bU%
dy%b0%cE%c7%cF%de%cU%ba%cd%be%cI%a1%aS%cp%bp%cV%a0%a2%aV%aZ%cu%bO%db%a9%aM$a8^bs&I&bF&U&bS&cjR(di(L
@11C38&E&bE&O&bL$^dZ%cD%dA%dd%g3$d7$ahd7$hOdX$GAP FILLER-1%FILLER-2@11C50$bcbr%ae%ad%ak%aq%au%aB%aI%
aC%aN$b6ae%ad%ak%aq%au%aB%aI%aC%aN%bA%dc%fE%gq%dN%gV%dH%hx%dp$vZrNai@11C70!MARCHENgaai$aihj$;aP%b2%
bi%bN%bW%bZ%bU%b0%ba%cd%be%a1%aS%cp%bp%a0%ee%hN%im%bV%fK%cL%-A%a2%aV%aZ%bO%a9%aM%A@11C92$pU;aP&b2&bi
&bN&bW&bZ&bU&b0&ba&cd&be&a1&aS&cp&bp&a0&ee&hN&im&bV&fK&cL@11CA9&a2&aV&aZ&bO&a9&aM&A$a8^bs&I&U&E&O$^
cD%dZ@11D00!MASARAM GONDI;A&bs&I&bF&U&bS&E@11D08&bE&O@11D0B&bL&aP&b2&bi&cH&bN&bW&bZ&bU&dy&b0&cE&c7&
cF&de&cU&ba&cd&be&cI&a1&aS&cp&bp&cV&a0&a2&aV&aZ&cu&bO&db&a9&aM&eu&qV&JNYA&TRA%a8^bs(I(bF(U(bS(cjR
@11D3A(E@11D3C(bE(O@11D3F(bL%^cD&dA&eW&hv&vT%dd%REPHA%RA-KARA@11D50%bcbr&ae&ad&ak&aq&au&aB&aI&aC&aN
@11D60!GUNJALA GONDI;A&bs&I&bF&U&bS@11D67&c1&bE@11D6A&cK&bL&a2&cu&bp&cV&a0&aP&b2&ba&cd&aZ&bi&cH&be&
cI&a1&bW&bZ&cE&c7&eu&bU&dy&cF&de&bN&aS&cp&aM&aV&a9%a8^bs(I(bF(U(bS@11D90(c1(bE@11D93(cK(bL%^cD&dA%dd
%ix@11DA0%bcbr&ae&ad&ak&aq&au&aB&aI&aC&aN@11EE0!MAKASAR;aP%bi%bN%aS%bp%a0%ba%be%a1%bW%bU%b0%a2%aV%aZ
%cu%a9%A$ANGKA$a8^I&U&E&O$PASSIMBANG$duaofa@11FB0!LISU;YHA@11FC0!nZf9aeTHREE-HUNDRED-AND-TWENTIETH&
zk&EIGHTIETH&xx&FORTIETH&xY%akyK&SIXTY-FOURTHS%aeTWENTIETH&SIXTEENTH-1&SIXTEENTH-2&TENTH&eB%akz0&t1%
aeFIFTH&dQ&HALF-1&HALF-2%akhJ%DOWNSCALINGvEKIIZH$^NEL%CEVITU%AAZHAAKKU%UZHAKKU%MUUVUZHAKKU%KURUNI%
PATHAKKU%MUKKURUNI%KAACU%PANAM%PON%VARAAKAN%PAARAM%KUZHI%VELI$WETyA^$DRYyA^$LAND^$kwPAN^$TRADITIONAL
ve^%b6^$vg^$_nC^$SPENT^$TOTAL^$cnPOSSESSION^$STARTINGd1^$^MUTHALIYA%VAKAIYARAA@11FFF$cYduaokC!
CUNEIFORM^A&aDA(f4(gsc5(aM(eL(nrcy(mj(pI%A2%AB&aDj4(DUN3cy(ne(gsc5(aM(eLcy(IMIN(jc(SHESH(UaGUaGU&cy%
AB2&aDr1(gsc5(d9aGcG(SHA3(hl%AD%AK&aDoM(SHITAaGg7%AL&aDAL(DIM2(g7(aM(KAD3(fO(dI(mT%ALAN%gJ%AMAR&aDdI
%dM&aXdM&akaD&aGNAGAmpdMaGNAGA)dF%ANSHE%APIN%ARAD&aDgR%ARKAB%ASAL2%cR&ZIDAc5&KABAc5&aXcRmRaXmRmRaXmR
hf)aXcR+d0cRaXcRaXcR%j4%uN%bp%f4%BAG3%uQ%BAL&aXBAL%r1%aF%BARA2%hs&aDA(eC(eLcy%f6&aXf6AB)UN&d0f6%
BULUG&aXBULUG%j8%BUR2%be%DAG&qTaDAaGnv)AMAR)r1)hs)bi*aGnv)fu)oY)ip)aM)IR*aGe7)l8)aZ)e7*aGMASH2)lg)eb
)hfaGhf)fo)hl)iLaGoY)mT%DAM%DAR%DARA3%DARA4%f8%DIB%DIM&aDdI%DIM2%DIN&jaUcyfj%fj%g5&aXg5&cy&mF%DUB&aD
kZ%DUB2%oH%DUGUD%DUH%DUN%DUN3&cy(cy%DUN4%DUR2%E&aDhf&aXEcMaXcM%E2&aDAaGaMaGbe(eC(ej(mA(dI(U%EDIN%
EGIR%fs%cG&aDgs)c5(d9&d0cG&mpcG&dF%EREN%oM%kZ%EZEN&aDA)aGko+aDko(dM(f4(DUN3cy*cy(aM)cy(eLcy(ja)dF(pm
(aZ(koaDko(gy(e7(iL(gi%bi&cy%GA2&aDAaGbeaGaM*aM*eL(AB2c5aGlv(dM(cR(j4aGne(f4(aFaGaV(j8)aGaV(be(f8(
DIMaDdI(DUB(fs)aGaZ(cG)aDgsc5(gsc5(eC(fu(GI4)aGA(oYaGfR(aMaGe7aGkZ(HAL)aGaZ(esaGgy(HUB2(eLcy(ISHaGh4
aGcR(l8(ja(KID)aGko(pmaGdM(aZ(d9aGcG(ej(cM)aXcM(aS(mA(pL(dI)aGTUR(SHID(pW(hl(U(gi)aGg5&aXGA2%GABA&d0
GABA%k4&aXk4eCaXeC%ne&k4aXk4eCaXeC%GALAM%GAM%ng%gs&c5&aXgs&d0gs%eC%GAR3%GASHAN%GESHTIN&aDgR%fu&aDE(U
&d0fu%GI4&aXGI4&d0GI4%GIDIM%oY&cy%GIR3&aDAaGeL(gsc5(eL(e7aGeL(aS%GISAL%g7&d0g7&aDf4(hl&c5%g8&d0g8%
GU2&aDl8)aDeLcy(cM(mAaGmR&cy%ip&aDAaGgR(gR&aXips5%GUL%GUM&aDdI%GUR%GUR7%GURUN%GURUSH%aM&c5&cy%HAL%es
&aDcR(j4(f4(fj(k4(KIN(cM(dI(U%h4%HUB2&aDdM(HAL(ja(LISH(gi%HUL2%I&A%IB%IDIM&aXIDIMj8)dF%IG%eL&DIB&gU&
aXeLSHIRaXSHIRgiaXgi&cy%IL&aDgsc5%IL2%IM&aDhl&d0IM&mpIM&dF%IMIN%cn%IR%ISH%aP&aDA(AD)aGpm(j4(f4(r1(aF
(hs(oM(kZ(bi(ne(gsc5(eC)aGSHA3aGA(fu(oY(g7aGpL)d0g7(g8(GUR7(eL(IM(l8(fO(KID(gy(e7(d9)aGg5*fu*dz(ej)
aGNUNUZ(eb(cM(c3(fz(a9(pL(bO(dI(SHID(h9(SIG(SUHUR(n0(U(iL(gi(UMUMaDaS(mT(ZI%KA2&d0KA2%KAB%KAD2%KAD3%
KAD4%KAD5&aXKAD5%l8&aDeLcy%KAL&aDf4&d0KAL%KAM2%KAM4%ja&jcaDUaXjcaDU&aXjajcaDUaXjcaDU%KESH2%fO&aDf4(U
(gi%KID%KIN%KISAL%KISH%qT&aXqT%fV&aXesaDj4fVaXesaDj4%pm%KU4&fG>%KU7%KUL&cy%KUN%gR&mpgR%qW%KWU318%aZ%
jc&aDA)aGbeaGaM*eC*ko(AL(dM(cRZIDAc5(f4(hs(DAR(cG(bi(eC(ip)aGip(aM(HAL(esaDcM(eLcy(IM)aGaM*e7(fO(KIN
(pm(KUL)aGesaGA(jc(LISH(e7(LUL(d9)aGcG(mj(eb(dIaGpW(SHITAaGg7aGoM+c5(nP)aGnP(pW(TAG(hl(dzaGAaGfRaGa1
(U)aGA*UaGU(iLaGcR(gi(mT&dF%nr&aDdI)aGpW&cy(aXnrcydI%LAHSHU%ko&aDko%dv&aDgR)aGfz%gy%LIL%LIMMU2%LISH%
e7&aDf4%LU2&aDAL(f4(kZ)c5(gsc5(esaDf4(IM(KAD2(KAD3)aGcR(fO(aZaGcR(jc(d9aGcG(eb(dW(foaGcR(SIK2aGf6(mR
&c5&d0LU2&mpLU2&dF&mF%po%s5&aXs5&mps5&mF%LUH%LUL%lg&aXlg)eCaXeC%a0&aDhl&cy%MA2%MAH%MAR%nv%MASH2%d9%
MES%ej%MIN%do&aXdo%MUG&cy%MUNSUB%MURGU2%mj&aDA(gR(cL&aXmj)aDAaGa1&d0mj%MUSH3&aDA)aGf8(f8&cy%a1%NA2%
NAGA&b1&aDh9c5&mpNAGA%NAGAR%NAM NUTILLU&%NAM2%eb&aDA(gi&mF%dP&aDE%NI2%NIM&aDgsc5(eCaGgsc5%wD&aDdM(cR
)aGcR(ip(d9aGgsc5(eb(cM(dI)aGAdM*cR+aGcR(iLaGcR(mT%NISAG%dW%NU11%cM&nraDeC)nv)mA*aXcMnraDmA)mT&c5&aX
cM&d0cM)nraXnr%NUNUZ&AB2aDuN)hs)oH)ip)eLcy)KAD3)aZ)eb)SILA3)iL&qTaDhs*U%aS%pC%PAN%hf%PESH2%c3&aDA(AB
(hs(f6(E(I(IB(U(iL&d0c3%PIRIG&aDKAL(gi(cL&mpPIRIG%aV%RAB%gU%fz%a9%pINUTILLU&&aDA(g5(DUB(aM(l8(gR(lg(
ej(cM(mA(SHID(lv(iL(UB(UM(UR(mT&aXpI&cy%mA&jcaDj4%SANGA2%pL%bO%SHA3&aDA(f4(g7(eb(nP(TUR(U)aGA%SHA6%
SHAB6%ky%dI&h4&aXdIk4aXk4eCaXeC)lvaXlveCaXeC%SHEG9%SHEN%SHESH%SHESH2%SHESHLAM%SHID&aDA(IM%SHIM&aDA(
BAL(BULUG(DIN(eC(eL)cy(qW(LUL(MUG(mA%SHINIG%SHIR&c5&aXSHIRj8aXj8%SHITA%h9&aXb1h9%nP%SHUBUR%fo&cy%SIG
%SIG4&aXSIG4nP%SIK2%SILA3%fR&aXfR%SUD%SUD2%SUHUR%pW%SUMASH%SUR%SUR9%ba&cO&aDes(ej&cy%lv&aXlvdPaXdPfj
aXfj&dF%TAG&aDhs(ip(dI(h9(mR(gi%hl%n0%dz&cy%gH&c5%TIL%TIR&aDhl&aXTIR)k4aXk4eCaXeC%e0%mR%TUK%TUM%TUR&
aXTURcLaXcL%U&ip&U U&aXUaSaXaSeCaXeC)SURaXSUR)UbJaXUbJ%iL%UB%gi&qW&aDf4(ej(UaGUaGU.cy&cy&mF(aDf4%
UDUG%UM&aDjc(d9aGbe(SHA3(U%UMBIN%UMUM&aDja(aS%UN&cy%UR&d0UR&mF%UR2&aDAaGaM*a1(AL(aM(cM(iL)aGcR*hs%
UR4%URI%URI3%URU&aDA(uN(aF(DUN(bi(ne(gsc5(eC(g8(aM(eL(IM(ISH(fO(lg(MIN(aS(dI(SIG4(e0(UaGip(gi(rO%rO&
aDU%mT&aDA(fV(gR(hl%USHX%USH2%USHUMX%UTUKI%UZ3&aDja%UZU%cL&c5&dFaDgR%ZAG%ZAMX%ZE2%ZI&aXZI%ZI3%ZIB&
KABAc5%ZIG%ZIZ2%jw%ZU5&aDA%ZUBUR%ZUM%KAP ELAMITE%ABaDcM%AB2aDA%AMARaDKUG%DAGqTaDiLaGnv%DAG3%fjaGh9%
DUBaDdI%EZENaDip(dI%GA2aDdMaGl8aGA(j4%GE22%GIG%HUSH%aPaDANSHE(ASH3(g7(ip(esaDj4(lg(aS(SHUL(e0(UR2%jc
aDfu%LU2mFaDf4&aDkZaGko(h9%MESH%MUSH3aDcL%NA4%NIN%NIN9%wDaDBAL(fu%NU11b9dpcx%PESH2cO%PIR2%pIaDeLcy%
TI2%UMaDd9%U U@12400$NUMERIC^adcR&akcR&aqcR&aucR&aBcR&aIcR&aCcR&aNcR&akfj&aqfj&aufj&aBfj&aIfj&aCfj&
aNfj&aqU&auU&aBU&aIU&aCU&aNU&aek5&adk5&akk5&aqk5&auk5&aBk5&aIk5&aCk5&aNk5&aeqF&adqF&akqF&aqqF&auqF&
adky&akky)fG>&aqky&auky&aBky&aIky&aCky&aNky&aerA&adrA&akrA)fG>&aqrA&aurA&kyaDneaGfj+MIN&aeqn&adqn&ak
qn)fG>&aqqn&auqn&akfG>ESH16*ESH21&aqfG>LIMMU*LIMMU4*LIMMU A+B&aBfG>ASH9&aIfG>IMIN3*IMIN A+B&aCfG>
USSU*USSU3&aNfG>ILIMMU*ILIMMU3*ILIMMU4*ILIMMU A&adcRc5&akcRc5&aqcRc5&aucRc5&aBcRc5&aeqh&adqh&akqh&aq
qh)fG>&auqh)fG>&NIGIDAMIN&NIGIDAESH&aeESHE3&adESHE3&aeiKfj&adlxfj&auSIXTHSfj&aeiKfG>A&adlxfG>A&aeeB
cR(dQcR&ctASSYRIANaeSIXTH*dQ&aedQGUR(aKGUR&ELAMITEaeiK(adlx(gq(dN&aqUfG>&auUfG>&aBUfG>&aIUfG>&aCUfG>
&aNUfG>@12470$cY^ctASSYRIANhOoE&azdU&cTdU(TRICOLON(QUADCOLON@12480$^ABaDcMc5(nP%ADaDkZ%f4aDfjc5%uQaD
AB2(dP(cL%f6aXf6aDNA2%beaDhl%DAGaDgR%DIMaDeL(U U U%DIM2aDgi%oHaDANSHE(cR)e2ac(DIN(DUN(oM(bi(fu(oYcy(
g7(aM(es(eLcy(ja(gR(qW)aGja(LAK-020(dv)aDgR(LUHaGg7(nv(MES(ej(dP(c3(dI(focy%E2aDgR(hf%oMX%kZd0kZ%
EZENmFaDcR)es)eLcy)aZ)ko)d9)MES)fR&aDfR%GA2aDuQ(DIMcy(oHaDeLcy*ja(EREN(bi(eCaGf8*eb(aMaGA(qWaGja(dv)
aDgR(LUH(mj(eb)aGE2*fu(SHIM(ZIZ2%GABAb9dpcx%GESHTINaDU%g7aDg7d0g7%GU2aDeLcy%ipaGg7aDhl%aMc5cy%esaDcR
aXesaDcR%aPaDf6(aP(U U U(UR%jcaDjwaXjw%LAK-003%LAK-021%LAK-025%LAK-030%LAK-050%LAK-051%LAK-062%
LAK-079aXLAK-079cy%LAK-080%LAK-081aXLAK-081%LAK-092%LAK-130%LAK-142%LAK-210%LAK-219%LAK-220%LAK-225%
LAK-228%LAK-238%LAK-265%LAK-266%LAK-343%LAK-347%LAK-348%LAK-383%LAK-384%LAK-390%LAK-441%LAK-449&aDg8
(eL(hfaGpo*hfaGpo(iLaGbp%LAK-450%LAK-457%LAK-470%LAK-483%LAK-490%LAK-492%LAK-493%LAK-495%LAK-550%
LAK-608%LAK-617&aDcR(f4(DUN3cycy(pm(aZ(n0(dz(iL(gi(rO%LAK-636%LAK-648&aDDUB(bi(eL)cy(dP(hfaGhfaGpo(
SHESHaGfO(gi(rO%LAK-724%LAK-749%LU2cyaDcR&aDfj(HAL(hf)aGhfaGpo(hl%ejaGZA7%mjaXmjaDbi*l8%wDaDDIMcy(g7
(GUL(es(KESH2(LAK-050(nv(hfaGhf(U)aGU(rO%pIcyaDaM&aDcG(dIe2ac(hl%SHA6c5%dIaXdI&aGHUB2(NAM2(pL%nPaGoH
aDdP(E2aDdM%foaDhl%hlaGpI%TUMaDgsc5(akfj%UR2b1&aDgi%URUaDDARA3(LAK-668(po%ZA7%jwaXjwaGpL%ZU5aDakfjc5
@12F90!CYPRO-MINOAN^CM001%CM002%CM004%CM005%CM006%CM007%CM008%CM009%CM010%CM011%CM012%CM012B%CM013%
CM015%CM017%CM019%CM021%CM023%CM024%CM025%CM026%CM027%CM028%CM029%CM030%CM033%CM034%CM035%CM036%
CM037%CM038%CM039%CM040%CM041%CM044%CM046%CM047%CM049%CM050%CM051%CM052%CM053%CM054%CM055%CM056%
CM058%CM059%CM060%CM061%CM062%CM063%CM064%CM066%CM067%CM068%CM069%CM070%CM071%CM072%CM073%CM074%
CM075%CM075B%CM076%CM078%CM079%CM080%CM081%CM082%CM083%CM084%CM085%CM086%CM087%CM088%CM089%CM090%
CM091%CM092%CM094%CM095%CM096%CM097%CM098%CM099%CM100%CM101%CM102%CM103%CM104%CM105%CM107%CM108%
CM109%CM110%CM112%CM114%CM301%CM302@13000!EGYPTIAN HIEROGLYPH A001%A002%A003%A004%A005%A005A%A006%
A006A%A006B%A007%A008%A009%A010%A011%A012%A013%A014%A014A%A015%A016%A017%A017A%A018%A019%A020%A021%
A022%A023%A024%A025%A026%A027%A028%A029%A030%A031%A032%A032A%A033%A034%A035%A036%A037%A038%A039%A040
%A040A%A041%A042%A042A%A043%A043A%A044%A045%A045A%A046%A047%A048%A049%A050%A051%A052%A053%A054%A055%
A056%A057%A058%A059%A060%A061%A062%A063%A064%A065%A066%A067%A068%A069%A070%B001%B002%B003%B004%B005%
B005A%B006%B007%B008%B009%C001%C002%C002A%C002B%C002C%C003%C004%C005%C006%C007%C008%C009%C010%C010A%
C011%C012%C013%C014%C015%C016%C017%C018%C019%C020%C021%C022%C023%C024%D001%D002%D003%D004%D005%D006%
D007%D008%D008A%D009%D010%D011%D012%D013%D014%D015%D016%D017%D018%D019%D020%D021%D022%D023%D024%D025
%D026%D027%D027A%D028%D029%D030%D031%D031A%D032%D033%D034%D034A%D035%D036%D037%D038%D039%D040%D041%
D042%D043%D044%D045%D046%D046A%D047%D048%D048A%D049%D050%D050A%D050B%D050C%D050D%D050E%D050F%D050G%
D050H%D050I%D051%D052%D052A%D053%D054%D054A%D055%D056%D057%D058%D059%D060%D061%D062%D063%D064%D065%
D066%D067%D067A%D067B%D067C%D067D%D067E%D067F%D067G%D067H%E001%E002%E003%E004%E005%E006%E007%E008%
E008A%E009%E009A%E010%E011%E012%E013%E014%E015%E016%E016A%E017%E017A%E018%E019%E020%E020A%E021%E022%
E023%E024%E025%E026%E027%E028%E028A%E029%E030%E031%E032%E033%E034%E034A%E036%E037%E038%F001%F001A%
F002%F003%F004%F005%F006%F007%F008%F009%F010%F011%F012%F013%F013A%F014%F015%F016%F017%F018%F019%F020
%F021%F021A%F022%F023%F024%F025%F026%F027%F028%F029%F030%F031%F031A%F032%F033%F034%F035%F036%F037%
F037A%F038%F038A%F039%F040%F041%F042%F043%F044%F045%F045A%F046%F046A%F047%F047A%F048%F049%F050%F051%
F051A%F051B%F051C%F052%F053%G001%G002%G003%G004%G005%G006%G006A%G007%G007A%G007B%G008%G009%G010%G011
%G011A%G012%G013%G014%G015%G016%G017%G018%G019%G020%G020A%G021%G022%G023%G024%G025%G026%G026A%G027%
G028%G029%G030%G031%G032%G033%G034%G035%G036%G036A%G037%G037A%G038%G039%G040%G041%G042%G043%G043A%
G044%G045%G045A%G046%G047%G048%G049%G050%G051%G052%G053%G054%H001%H002%H003%H004%H005%H006%H006A%
H007%H008%I001%I002%I003%I004%I005%I005A%I006%I007%I008%I009%I009A%I010%I010A%I011%I011A%I012%I013%
I014%I015%K001%K002%K003%K004%K005%K006%K007%K008%L001%L002%L002A%L003%L004%L005%L006%L006A%L007%
L008%M001%M001A%M001B%M002%M003%M003A%M004%M005%M006%M007%M008%M009%M010%M010A%M011%M012%M012A%M012B
%M012C%M012D%M012E%M012F%M012G%M012H%M013%M014%M015%M015A%M016%M016A%M017%M017A%M018%M019%M020%M021%
M022%M022A%M023%M024%M024A%M025%M026%M027%M028%M028A%M029%M030%M031%M031A%M032%M033%M033A%M033B%M034
%M035%M036%M037%M038%M039%M040%M040A%M041%M042%M043%M044%N001%N002%N003%N004%N005%N006%N007%N008%
N009%N010%N011%N012%N013%N014%N015%N016%N017%N018%N018A%N018B%N019%N020%N021%N022%N023%N024%N025%
N025A%N026%N027%N028%N029%N030%N031%N032%N033%N033A%N034%N034A%N035%N035A%N036%N037%N037A%N038%N039%
N040%N041%N042%NL001%NL002%NL003%NL004%NL005%NL005A%NL006%NL007%NL008%NL009%NL010%NL011%NL012%NL013%
NL014%NL015%NL016%NL017%NL017A%NL018%NL019%NL020%NU001%NU002%NU003%NU004%NU005%NU006%NU007%NU008%
NU009%NU010%NU010A%NU011%NU011A%NU012%NU013%NU014%NU015%NU016%NU017%NU018%NU018A%NU019%NU020%NU021%
NU022%NU022A%O001%O001A%O002%O003%O004%O005%O005A%O006%O006A%O006B%O006C%O006D%O006E%O006F%O007%O008
%O009%O010%O010A%O010B%O010C%O011%O012%O013%O014%O015%O016%O017%O018%O019%O019A%O020%O020A%O021%O022
%O023%O024%O024A%O025%O025A%O026%O027%O028%O029%O029A%O030%O030A%O031%O032%O033%O033A%O034%O035%O036
%O036A%O036B%O036C%O036D%O037%O038%O039%O040%O041%O042%O043%O044%O045%O046%O047%O048%O049%O050%O050A
%O050B%O051%P001%P001A%P002%P003%P003A%P004%P005%P006%P007%P008%P009%P010%P011%Q001%Q002%Q003%Q004%
Q005%Q006%Q007%R001%R002%R002A%R003%R003A%R003B%R004%R005%R006%R007%R008%R009%R010%R010A%R011%R012%
R013%R014%R015%R016%R016A%R017%R018%R019%R020%R021%R022%R023%R024%R025%R026%R027%R028%R029%S001%S002
%S002A%S003%S004%S005%S006%S006A%S007%S008%S009%S010%S011%S012%S013%S014%S014A%S014B%S015%S016%S017%
S017A%S018%S019%S020%S021%S022%S023%S024%S025%S026%S026A%S026B%S027%S028%S029%S030%S031%S032%S033%
S034%S035%S035A%S036%S037%S038%S039%S040%S041%S042%S043%S044%S045%S046%T001%T002%T003%T003A%T004%
T005%T006%T007%T007A%T008%T008A%T009%T009A%T010%T011%T011A%T012%T013%T014%T015%T016%T016A%T017%T018%
T019%T020%T021%T022%T023%T024%T025%T026%T027%T028%T029%T030%T031%T032%T032A%T033%T033A%T034%T035%
T036%U001%U002%U003%U004%U005%U006%U006A%U006B%U007%U008%U009%U010%U011%U012%U013%U014%U015%U016%
U017%U018%U019%U020%U021%U022%U023%U023A%U024%U025%U026%U027%U028%U029%U029A%U030%U031%U032%U032A%
U033%U034%U035%U036%U037%U038%U039%U040%U041%U042%V001%V001A%V001B%V001C%V001D%V001E%V001F%V001G%
V001H%V001I%V002%V002A%V003%V004%V005%V006%V007%V007A%V007B%V008%V009%V010%V011%V011A%V011B%V011C%
V012%V012A%V012B%V013%V014%V015%V016%V017%V018%V019%V020%V020A%V020B%V020C%V020D%V020E%V020F%V020G%
V020H%V020I%V020J%V020K%V020L%V021%V022%V023%V023A%V024%V025%V026%V027%V028%V028A%V029%V029A%V030%
V030A%V031%V031A%V032%V033%V033A%V034%V035%V036%V037%V037A%V038%V039%V040%V040A%W001%W002%W003%W003A
%W004%W005%W006%W007%W008%W009%W009A%W010%W010A%W011%W012%W013%W014%W014A%W015%W016%W017%W017A%W018%
W018A%W019%W020%W021%W022%W023%W024%W024A%W025%X001%X002%X003%X004%X004A%X004B%X005%X006%X006A%X007%
X008%X008A%Y001%Y001A%Y002%Y003%Y004%Y005%Y006%Y007%Y008%Z001%Z002%Z002A%Z002B%Z002C%Z002D%Z003%
Z003A%Z003B%Z004%Z004A%Z005%Z005A%Z006%Z007%Z008%Z009%Z010%Z011%Z012%Z013%Z014%Z015%Z015A%Z015B%
Z015C%Z015D%Z015E%Z015F%Z015G%Z015H%Z015I%Z016%Z016A%Z016B%Z016C%Z016D%Z016E%Z016F%Z016G%Z016H%AA001
%AA002%AA003%AA004%AA005%AA006%AA007%AA007A%AA007B%AA008%AA009%AA010%AA011%AA012%AA013%AA014%AA015%
AA016%AA017%AA018%AA019%AA020%AA021%AA022%AA023%AA024%AA025%AA026%AA027%AA028%AA029%AA030%AA031%
AA032@13430%aznm%a6nm%INSERTe2c6ls(dSls(c6du(dSdu%flay%lHxm%duxm@14400!ANATOLIAN HIEROGLYPH A001%
A002%A003%A004%A005%A006%A007%A008%A009%A010%A010A%A011%A012%A013%A014%A015%A016%A017%A018%A019%A020
%A021%A022%A023%A024%A025%A026%A026A%A027%A028%A029%A030%A031%A032%A033%A034%A035%A036%A037%A038%
A039%A039A%A040%A041%A041A%A042%A043%A044%A045%A045A%A046%A046A%A046B%A047%A048%A049%A050%A051%A052%
A053%A054%A055%A056%A057%A058%A059%A060%A061%A062%A063%A064%A065%A066%A066A%A066B%A066C%A067%A068%
A069%A070%A071%A072%A073%A074%A075%A076%A077%A078%A079%A080%A081%A082%A083%A084%A085%A086%A087%A088%
A089%A090%A091%A092%A093%A094%A095%A096%A097%A097A%A098%A098A%A099%A100%A100A%A101%A101A%A102%A102A%
A103%A104%A104A%A104B%A104C%A105%A105A%A105B%A106%A107%A107A%A107B%A107C%A108%A109%A110%A110A%A110B%
A111%A112%A113%A114%A115%A115A%A116%A117%A118%A119%A120%A121%A122%A123%A124%A125%A125A%A126%A127%
A128%A129%A130%A131%A132%A133%A134%A135%A135A%A136%A137%A138%A139%A140%A141%A142%A143%A144%A145%A146
%A147%A148%A149%A150%A151%A152%A153%A154%A155%A156%A157%A158%A159%A160%A161%A162%A163%A164%A165%A166
%A167%A168%A169%A170%A171%A172%A173%A174%A175%A176%A177%A178%A179%A180%A181%A182%A183%A184%A185%A186
%A187%A188%A189%A190%A191%A192%A193%A194%A195%A196%A197%A198%A199%A200%A201%A202%A202A%A202B%A203%
A204%A205%A206%A207%A207A%A208%A209%A209A%A210%A211%A212%A213%A214%A215%A215A%A216%A216A%A217%A218%
A219%A220%A221%A222%A223%A224%A225%A226%A227%A227A%A228%A229%A230%A231%A232%A233%A234%A235%A236%A237
%A238%A239%A240%A241%A242%A243%A244%A245%A246%A247%A248%A249%A250%A251%A252%A253%A254%A255%A256%A257
%A258%A259%A260%A261%A262%A263%A264%A265%A266%A267%A267A%A268%A269%A270%A271%A272%A273%A274%A275%
A276%A277%A278%A279%A280%A281%A282%A283%A284%A285%A286%A287%A288%A289%A289A%A290%A291%A292%A293%A294
%A294A%A295%A296%A297%A298%A299%A299A%A300%A301%A302%A303%A304%A305%A306%A307%A308%A309%A309A%A310%
A311%A312%A313%A314%A315%A316%A317%A318%A319%A320%A321%A322%A323%A324%A325%A326%A327%A328%A329%A329A
%A330%A331%A332A%A332B%A332C%A333%A334%A335%A336%A336A%A336B%A336C%A337%A338%A339%A340%A341%A342%
A343%A344%A345%A346%A347%A348%A349%A350%A351%A352%A353%A354%A355%A356%A357%A358%A359%A359A%A360%A361
%A362%A363%A364%A364A%A365%A366%A367%A368%A368A%A369%A370%A371%A371A%A372%A373%A374%A375%A376%A377%
A378%A379%A380%A381%A381A%A382%A383aVbwgU%A383A%A384%A385%A386%A386A%A387%A388%A389%A390%A391%A392%
A393aC%A394%A395%A396%A397%A398%A399%A400%A401%A402%A403%A404%A405%A406%A407%A408%A409%A410lHqYai%
A410AduqYai%A411%A412%A413%A414%A415%A416%A417%A418%A419%A420%A421%A422%A423%A424%A425%A426%A427%
A428%A429%A430%A431%A432%A433%A434%A435%A436%A437%A438%A439%A440%A441%A442%A443%A444%A445%A446%A447%
A448%A449%A450%A450A%A451%A452%A453%A454%A455%A456%A457%A457A%A458%A459%A460%A461%A462%A463%A464%
A465%A466%A467%A468%A469%A470%A471%A472%A473%A474%A475%A476%A477%A478%A479%A480%A481%A482%A483%A484%
A485%A486%A487%A488%A489%A490%A491%A492%A493%A494%A495%A496%A497%A501%A502%A503%A504%A505%A506%A507%
A508%A509%A510%A511%A512%A513%A514%A515%A516%A517%A518%A519%A520%A521%A522%A523%A524%A525%A526%A527%
A528%A529%A530@16800!BAMUM;PHASE-A NGKUEnw&GBIEE FON&PONnwzy)PIPAEMBA&punw&SHUENSHUET&TITAnw&NZAnw&
SHINDAaSNJI&PONaSNJIzy*PIPAEMBA&MAEMBGBIEE&e0wp&NGANGU&MAEMVEUX&MANSUAE&MVEUAENGAM&SEUNYAM&NTOQPEN&
KEUKEUTNDA&NKINDI&SUU&NGKUENZEUM&LAPAQ&LET KUT&NTAP MFAA&MAEKEUP&PASHAE&GHEUAERAE&PAMSHAE&nzNGGEUAET
&NZUN MEUT&U YUQ NAE&GHEUAEGHEUAE&NTAP NTAA&SISA&MGBASA&MEUNJOMNDEUQ&MOOMPUQ&KAFA&aSwj&pxwj&PET&
MAEMKPEN&NIKA&PUP&TUAEP&LUAEP&SONJAM&TEUTEUWEN&MAENYI&no&NDAANGGEUAET&KUOQ&MOOMEUT&SHUM&LOMMAE&FIRI&
ROM&KPOQ&SOQ&MAP PIEET&SHIRAE&NTAP&SHOQ NSHUT YUM&NYIT MONGKEUAEQ&PAARAE&NKAARAE&UNKNOWN&NGGEN&MAESI
&NJAM&MBANYI&NYET&TEUAEN&SOT&PAAM&NSHIEE&MAEM&h7&KAQ&NSHA&mU&e7&NEN&NAQ&MBAQ%PHASE-B NSHUET&e0
MAEMGBIEE&SIEE&jPe0&LOMtg&MBA MAELEE&KIEEM&YEURAE&MBAARAE&KAM&PEESHI&YAFUwj&dvNSHUT NYAM&NTIEE
SHEUOQ&NDU NJAA&GHEUGHEUAEM&PIT&e0NSIEE&SHET NJAQ&SHEUAEQTU&nwTEUAEQ&MBIT MBAAKET&h7tg&KEUPUQ&
GHEUGHEN&KEUYEUX&LAANAE&PARUM&VEUM&NGKINDI MVOP&NGGEU MBU&WUAET&SAKEUAE&TAAM&MEUQ&NGGUOQ(bX&MFIYAQ&
SUE&MBEURI&MONTIEEN&NYAEMAE&PUNGAAM&MEUT NGGEET&FEUX&MBUOQ&na&KEUAEM&a0NJEUAENA(NJUQA&LET&NGGAAM&
NSEN&a0&KIQ&NGOM%PHASE-C NGKUEwp&NZA&YUM&WANGKUOQ&NGGEN&NDEUAEREE&NGKAQ&GHARAE&MBEEKEET&GBAYI&NYIR
MKPARAQ MEUN&NTU MBIT&MBEUM&PIRIEEN&NDOMBU&pqCABBAGE-TREE&KEUSHEUAEP&GHAP&KEUKAQ&dwMUOMAE&NZEUM&MBUE
&NSEUAEN&MBIT&YEUQ&KPARAQ&KAA&SEUX&NDIDA&TAASHAE&NJUEQ&TITA YUE&SUAET&NGGUAEN NYAM&VEUX&NANSANAQ&a0
KEUAERI&NTAA&NGGUON&LAP&MBIRIEEN&MGBASAQ&NTEUNGBA&TEUTEUX&NGGUM&FUE&NDEUT&NSA&NSHAQ&BUNG&VEUAEPEN&
MBERAE&fz&NJAEM&dv&TITUAEP&NSUOT NGOM&NJEEEE&no&NGGU&MAESI&MBUAEM&e7&KUT&NJAM&NGOM&WUP&NGGUEET&NSOM&
NTEN&KUOP NKAARAE&NSUN&NDAM&a0NSIEE&qa&NDAP&SHUEQ&SETFON&MBI&wp&MBANYI&KEUSEUX&MBEUX&KEUM&pqPICKET&
YUWOQ&NJEUX&MIEE&MUAE&SHIQ&KEN LAW(FATIGUE&NGAQ&NAQ&LIQ&PIN&pE&n2%PHASE-D MBUO&WAP&NJI&nw&NJIEE&LIEE
&NJEUT&NSHEE&NGGAAMAE&NYAM&WUAEN&NGKUN&SHEE&NGKAP&KEUAETMEUN&TEUT&SHEUAE&NJAP&SUE&no&YAEMMAE&KUOM&
SAP&MFEUT&NDEUX&MALEERI&MEUT&SEUAEQ&YEN&NJEUAEM&KEUOT MBUAE&NGKEURI&e0&GHAA&NGKYEE&FEUFEUAET&NDEE&
MGBOFUM&LEUAEP&NDON&MONI&MGBEUN&PUUT&MGBIEE&MFO&lg&NSIEEP&pq&KWAET&NYET&TEUAEN&SOT&YUWOQ&KEUM&RAEM&
TEEEE&NGKEUAEQ&MFEUAE&NSIEET&KEUP&PIP&PEUTAE&NYUE&LET&NGGAAM&MFIEE&NGGWAEN&YUOM&hf&YUOP&NDAM&tg&SUAE
&KUN&NGGEUX&NGKIEE&TUOT&MEUN&KUQ&NSUM&TEUN&MAENJET&NGGAP&LEUM&NGGUOM&NSHUT&NJUEQ&GHEUAE&fV&RENct&TAE
&TOQ&h7&RII&LEEEE&MEEEE&M&SUU&do&SHII&SHEUX&KYEE&dW&h9&NTEE&ln&dP&SHOQ&PUQ&MVOP&LOQ&REN MUCH&gH&NTUU
&pqaI&SAQ&FAA%PHASE-E NDAP&TOON&MBEUM&LAP&VOM&LOON&PAA&SOM&RAQ&NSHUOP&NDUN&PUAE&nY&NGKA&KPEUX&WUO&nM
&NGGEUAET&PAAM&p3&KUOP&LOM&NSHIEE&NGOP&MAEM&NGKEUX&NGOQ&NSHUE&RIMGBA&NJEUX&PEEM&SAA&NGGURAE&MGBA&
GHEUX&NGKEUAEM&NJAEMLI&MAP&LOOT&NGGEEEE&NDIQ&TAENtg&jP&PUM&NDAA SOFTNESS&NGGUAESHAE NYAM&YIEE&GHEUN&
TUAE&YEUAE&gC&TUMAE&KEUAE&SUAEN&TEUAEQ&VEUAE&WEUX&LAAM&iC&TAAQ&GHAAMAE&NGEUREUT&SHEUAEQ&MGBEN&MBEE&
NZAQ&NKOM&GBET&TUM&KUET&YAP&h7CLEAVER&YIT&MFEUQ&NDIAQ&PIEEQ&YUEQ&LEUAEM&FUE&GBEUX&NGKUP&no&MAE&
NGKAAMI&GHET&c8&NTUM&PEUT&YEUM&NGGEUAE&h7gL&NZUQ&POON&MIEE&FUET&NAE&MUAE&GHEUAE&FU I&MVI&PUAQ&NGKUM&
KUT&PIET&NTAP&YEUAET&NGGUP&aSPEOPLE&FU CALL&FOM&ra&A&TOQ&O&I&LAQ&aSPLURAL&nW&TAQ&NDAA MYqK&SHIQ&YEUX
&NGUAE&YUAEN&YOQ SWIMMING(COVER&YUQ&YUN&KEUX&PEUX&raEPOCH&PUE&WUE&na&mU&e7&ej&REUX&pG&NGUAET&bN&jR&
SHOQ&FU REMEDY&a1&c3&LOQ&eV&li&a0&MAQ&TEU&fO&nz&bA&FAQ&GHOM%PHASE-FaP&U&fV&c1&REE&TAE&h7&aZ&RII&RIEE
&MEEEE&nW&NDAA&NJAEM&M&SUU&SHII&fo&SEUX&KYEE&no&NUAE&dW&NJUAE&YOQ&h9&a2&NSHA&PEUX&NTEE&WUE&ln&fz&dP&
REUX&KEN&NGKWAEN&q9&jR&PUAE&FOM&bV&gy&LOQ&eV&MBEN&REN&a0&fw&pq&n2&KPA&SAMBA&VUEQ@16A40!MRO;ba%NGI%dY
%MIM%bp%be%A%eX%KHAI%HAO%DAI%CHU%KEAAE%OL%MAEM%NIN%aS%cK%O%eF%pP%THEA%EA%bV%E%eV%LAN%aZ%HAI%gU%TEK
@16A60$bcbr%ae%ad%ak%aq%au%aB%aI%aC%aN@16A6E$d7$ahd7!TANGSA;OZ%OC%OQ%OX%AZ%AC%AQ%AX%VZ%VC%VQ%VX%EZ%
EC%EQ%EX%IZ%IC%IQ%IX%UZ%UC%UQ%UX%AWZ%AWC%AWQ%AWX%UIZ%UIC%UIQ%UIX%agge%bzUEX%cCUEZ&AWX%UEC%UEZ%UEQ%
UEX%UIUZ%UIUC%UIUQ%UIUX%MZ%MC%MQ%MX%aP%b2%bi%bN%a9%a2%bV%aS%b0%cp%bp%a0%a1%aM%aZ%HTA%ba%be%aV%pz%bO%
bW%ee%cH%HTTA%cd%hP%c8%cI%bZ%cL@16AC0$bcbr%ae%ad%ak%aq%au%aB%aI%aC%aN@16AD0!qiVAH;ENNI&aP&fA&c8&MBE&
YIE&GAH&DHII&KPAH&jH&HWAH&bV&jv&GBU&fU&CE&UWU&al&bp&VU&YEIN&aS&WADDA&A&O&cK&U&c1&E&I@16AF0%dkbHbD&bk
bD&nxbD&LOW-MIDbD&HIGH-LOWbD%cBbQ@16B00!PAHAWH HMONGa8KEEB&KEEV&KIB&KIV&KAUB&KAUV&KUB&KUV&KEB&KEV&
KAIB&KAIV&KOOB&KOOV&KAWB&KAWV&KUAB&KUAV&KOB&KOV&KIAB&KIAV&KAB&KAV&KWB&KWV&KAAB&KAAV%fhVAU&NTSAU&LAU&
HAU&NLAU&RAU&NKAU&QHAU&YAU&HLAU&MAU&CHAU&NCHAU&HNAU&PLHAU&NTHAU&NAU&bL&XAU&CAU%aiCIM TUB(eY(KES(KHAV
(SUAM(HOM(TAUM%^VOS THOM(TSHAB CEEB&CIM CHEEM&VOS THIAB(FEEM&XYEEM NTXIV(eE(TOV(FAIB&VOS SEEV&MEEJ
SUAB&VOS NRUA&IB YAM&XAUS&CIM TSOV ROG@16B50%bcbr&ae&ad&ak&aq&au&aB&aI&aC&aN@16B5B%b6TENS&vZ&bAmP&ny
&aLny&bABILLIONS&TRILLIONS@16B63%^VOS LUB&XYOO&HLI&THIRD-STAGE HLI&ZWJ THAJ&HNUB&NQIG&XIAB&NTUJ&AV&
TXHEEJ CEEV&MEEJ TSEEB&gG&LOS&MUS&CIM HAIS LUS NTOG NTOG(CUAM TSHOOJ(TXWV)CHWV(PUB DAWB(NRES TOS
@16B7D%CLAN^TSHEEJ(YEEG(LIS(LAUJ(XYOOJ(KOO(HAWJ(MUAS(THOJ(TSAB(PHAB(KHAB(HAM(VAJ(FAJ(YAJ(TSWB(KWM(
VWJ@16E40!zd?;M&S&V&W&ATIU&Z&KP&P&T&G&F&I&K&A&J&E&B&C&U&dw&L&Q&HP&NY&X&D&dh&N&R&O&bE&Y$<;M&S&V&W&
ATIU&Z&KP&P&T&G&F&I&K&A&J&E&B&C&U&dw&L&Q&HP&NY&X&D&dh&N&R&O&bE&Y$bcbr%ae%ad%ak%aq%au%aB%aI%aC%aN$b6
bA%i1%if%mN%l0%jE%kz%mD%kX%ml$bcaefg>%adfg>%akfg>$cc$cBbQ$atAIVA$eJOH@16F00!MIAO;aS%bp%enaS%PLA%a0%
MHA%f2a0%c8%cu%VFA%ba%be%encE&ba%cE%cF%a1%pz%encU%f2a1%cU%NNHA%aZ%LYA%mb%LHYA%TLHA%DLHA%TLHYA%DLHYA%
aP%bi%enaP%fZ%QGA%bN%NGHA%f2bN%aM%hP%cH%GHHA%TSSA%DZZA%b0%NYHA%hN%qz%enhN&qz%xbhN%bO%db%fK%ZSHA%ee%
im%enee%a9%cL%ZSA%ZZA%ZZSA%f2ZZA%ZZYA%ZZSYA%bV%iO%k8%BRI%SYI%DZYI%dz%ie%RTE@16F4F$^fheaaF$;wA$^
ASPIRATION%xbVOICING&ASPIRATION$a8^A&bs&AHH&dM&iP&O&cK&ff&W&E&cG&i2&OEY&I&IA&IAN&IANG&IO&gP&bF&IU&
ING&U&UA&UAN&UANG&bS&UEI&UNG&Y&en&dR&AEE&ERR&kvERR&hz&kvhz&bE&EI&bL&OU&N&ge&UOG&YUI&OG&OER&VW&IG&EA&
IONG&UI@16F8F$bDaa%c6aa%ab%af$;kE%ly%n6%kF%us%x3%ut%xbrI&kE&n6&kF&us&ut@16FE0!TANGUTknai!NUSHUknai!
ctCHINESEarai%knai!KHITAN<e9k2@16FF0!VIETNAMESEfgREADINGaibW(NHAY@18800!TANGUT COMPONENT-001$
COMPONENT-002$COMPONENT-003$COMPONENT-004$COMPONENT-005$COMPONENT-006$COMPONENT-007$COMPONENT-008$
COMPONENT-009$COMPONENT-010$COMPONENT-011$COMPONENT-012$COMPONENT-013$COMPONENT-014$COMPONENT-015$
COMPONENT-016$COMPONENT-017$COMPONENT-018$COMPONENT-019$COMPONENT-020$COMPONENT-021$COMPONENT-022$
COMPONENT-023$COMPONENT-024$COMPONENT-025$COMPONENT-026$COMPONENT-027$COMPONENT-028$COMPONENT-029$
COMPONENT-030$COMPONENT-031$COMPONENT-032$COMPONENT-033$COMPONENT-034$COMPONENT-035$COMPONENT-036$
COMPONENT-037$COMPONENT-038$COMPONENT-039$COMPONENT-040$COMPONENT-041$COMPONENT-042$COMPONENT-043$
COMPONENT-044$COMPONENT-045$COMPONENT-046$COMPONENT-047$COMPONENT-048$COMPONENT-049$COMPONENT-050$
COMPONENT-051$COMPONENT-052$COMPONENT-053$COMPONENT-054$COMPONENT-055$COMPONENT-056$COMPONENT-057$
COMPONENT-058$COMPONENT-059$COMPONENT-060$COMPONENT-061$COMPONENT-062$COMPONENT-063$COMPONENT-064$
COMPONENT-065$COMPONENT-066$COMPONENT-067$COMPONENT-068$COMPONENT-069$COMPONENT-070$COMPONENT-071$
COMPONENT-072$COMPONENT-073$COMPONENT-074$COMPONENT-075$COMPONENT-076$COMPONENT-077$COMPONENT-078$
COMPONENT-079$COMPONENT-080$COMPONENT-081$COMPONENT-082$COMPONENT-083$COMPONENT-084$COMPONENT-085$
COMPONENT-086$COMPONENT-087$COMPONENT-088$COMPONENT-089$COMPONENT-090$COMPONENT-091$COMPONENT-092$
COMPONENT-093$COMPONENT-094$COMPONENT-095$COMPONENT-096$COMPONENT-097$COMPONENT-098$COMPONENT-099$
COMPONENT-100$COMPONENT-101$COMPONENT-102$COMPONENT-103$COMPONENT-104$COMPONENT-105$COMPONENT-106$
COMPONENT-107$COMPONENT-108$COMPONENT-109$COMPONENT-110$COMPONENT-111$COMPONENT-112$COMPONENT-113$
COMPONENT-114$COMPONENT-115$COMPONENT-116$COMPONENT-117$COMPONENT-118$COMPONENT-119$COMPONENT-120$
COMPONENT-121$COMPONENT-122$COMPONENT-123$COMPONENT-124$COMPONENT-125$COMPONENT-126$COMPONENT-127$
COMPONENT-128$COMPONENT-129$COMPONENT-130$COMPONENT-131$COMPONENT-132$COMPONENT-133$COMPONENT-134$
COMPONENT-135$COMPONENT-136$COMPONENT-137$COMPONENT-138$COMPONENT-139$COMPONENT-140$COMPONENT-141$
COMPONENT-142$COMPONENT-143$COMPONENT-144$COMPONENT-145$COMPONENT-146$COMPONENT-147$COMPONENT-148$
COMPONENT-149$COMPONENT-150$COMPONENT-151$COMPONENT-152$COMPONENT-153$COMPONENT-154$COMPONENT-155$
COMPONENT-156$COMPONENT-157$COMPONENT-158$COMPONENT-159$COMPONENT-160$COMPONENT-161$COMPONENT-162$
COMPONENT-163$COMPONENT-164$COMPONENT-165$COMPONENT-166$COMPONENT-167$COMPONENT-168$COMPONENT-169$
COMPONENT-170$COMPONENT-171$COMPONENT-172$COMPONENT-173$COMPONENT-174$COMPONENT-175$COMPONENT-176$
COMPONENT-177$COMPONENT-178$COMPONENT-179$COMPONENT-180$COMPONENT-181$COMPONENT-182$COMPONENT-183$
COMPONENT-184$COMPONENT-185$COMPONENT-186$COMPONENT-187$COMPONENT-188$COMPONENT-189$COMPONENT-190$
COMPONENT-191$COMPONENT-192$COMPONENT-193$COMPONENT-194$COMPONENT-195$COMPONENT-196$COMPONENT-197$
COMPONENT-198$COMPONENT-199$COMPONENT-200$COMPONENT-201$COMPONENT-202$COMPONENT-203$COMPONENT-204$
COMPONENT-205$COMPONENT-206$COMPONENT-207$COMPONENT-208$COMPONENT-209$COMPONENT-210$COMPONENT-211$
COMPONENT-212$COMPONENT-213$COMPONENT-214$COMPONENT-215$COMPONENT-216$COMPONENT-217$COMPONENT-218$
COMPONENT-219$COMPONENT-220$COMPONENT-221$COMPONENT-222$COMPONENT-223$COMPONENT-224$COMPONENT-225$
COMPONENT-226$COMPONENT-227$COMPONENT-228$COMPONENT-229$COMPONENT-230$COMPONENT-231$COMPONENT-232$
COMPONENT-233$COMPONENT-234$COMPONENT-235$COMPONENT-236$COMPONENT-237$COMPONENT-238$COMPONENT-239$
COMPONENT-240$COMPONENT-241$COMPONENT-242$COMPONENT-243$COMPONENT-244$COMPONENT-245$COMPONENT-246$
COMPONENT-247$COMPONENT-248$COMPONENT-249$COMPONENT-250$COMPONENT-251$COMPONENT-252$COMPONENT-253$
COMPONENT-254$COMPONENT-255$COMPONENT-256$COMPONENT-257$COMPONENT-258$COMPONENT-259$COMPONENT-260$
COMPONENT-261$COMPONENT-262$COMPONENT-263$COMPONENT-264$COMPONENT-265$COMPONENT-266$COMPONENT-267$
COMPONENT-268$COMPONENT-269$COMPONENT-270$COMPONENT-271$COMPONENT-272$COMPONENT-273$COMPONENT-274$
COMPONENT-275$COMPONENT-276$COMPONENT-277$COMPONENT-278$COMPONENT-279$COMPONENT-280$COMPONENT-281$
COMPONENT-282$COMPONENT-283$COMPONENT-284$COMPONENT-285$COMPONENT-286$COMPONENT-287$COMPONENT-288$
COMPONENT-289$COMPONENT-290$COMPONENT-291$COMPONENT-292$COMPONENT-293$COMPONENT-294$COMPONENT-295$
COMPONENT-296$COMPONENT-297$COMPONENT-298$COMPONENT-299$COMPONENT-300$COMPONENT-301$COMPONENT-302$
COMPONENT-303$COMPONENT-304$COMPONENT-305$COMPONENT-306$COMPONENT-307$COMPONENT-308$COMPONENT-309$
COMPONENT-310$COMPONENT-311$COMPONENT-312$COMPONENT-313$COMPONENT-314$COMPONENT-315$COMPONENT-316$
COMPONENT-317$COMPONENT-318$COMPONENT-319$COMPONENT-320$COMPONENT-321$COMPONENT-322$COMPONENT-323$
COMPONENT-324$COMPONENT-325$COMPONENT-326$COMPONENT-327$COMPONENT-328$COMPONENT-329$COMPONENT-330$
COMPONENT-331$COMPONENT-332$COMPONENT-333$COMPONENT-334$COMPONENT-335$COMPONENT-336$COMPONENT-337$
COMPONENT-338$COMPONENT-339$COMPONENT-340$COMPONENT-341$COMPONENT-342$COMPONENT-343$COMPONENT-344$
COMPONENT-345$COMPONENT-346$COMPONENT-347$COMPONENT-348$COMPONENT-349$COMPONENT-350$COMPONENT-351$
COMPONENT-352$COMPONENT-353$COMPONENT-354$COMPONENT-355$COMPONENT-356$COMPONENT-357$COMPONENT-358$
COMPONENT-359$COMPONENT-360$COMPONENT-361$COMPONENT-362$COMPONENT-363$COMPONENT-364$COMPONENT-365$
COMPONENT-366$COMPONENT-367$COMPONENT-368$COMPONENT-369$COMPONENT-370$COMPONENT-371$COMPONENT-372$
COMPONENT-373$COMPONENT-374$COMPONENT-375$COMPONENT-376$COMPONENT-377$COMPONENT-378$COMPONENT-379$
COMPONENT-380$COMPONENT-381$COMPONENT-382$COMPONENT-383$COMPONENT-384$COMPONENT-385$COMPONENT-386$
COMPONENT-387$COMPONENT-388$COMPONENT-389$COMPONENT-390$COMPONENT-391$COMPONENT-392$COMPONENT-393$
COMPONENT-394$COMPONENT-395$COMPONENT-396$COMPONENT-397$COMPONENT-398$COMPONENT-399$COMPONENT-400$
COMPONENT-401$COMPONENT-402$COMPONENT-403$COMPONENT-404$COMPONENT-405$COMPONENT-406$COMPONENT-407$
COMPONENT-408$COMPONENT-409$COMPONENT-410$COMPONENT-411$COMPONENT-412$COMPONENT-413$COMPONENT-414$
COMPONENT-415$COMPONENT-416$COMPONENT-417$COMPONENT-418$COMPONENT-419$COMPONENT-420$COMPONENT-421$
COMPONENT-422$COMPONENT-423$COMPONENT-424$COMPONENT-425$COMPONENT-426$COMPONENT-427$COMPONENT-428$
COMPONENT-429$COMPONENT-430$COMPONENT-431$COMPONENT-432$COMPONENT-433$COMPONENT-434$COMPONENT-435$
COMPONENT-436$COMPONENT-437$COMPONENT-438$COMPONENT-439$COMPONENT-440$COMPONENT-441$COMPONENT-442$
COMPONENT-443$COMPONENT-444$COMPONENT-445$COMPONENT-446$COMPONENT-447$COMPONENT-448$COMPONENT-449$
COMPONENT-450$COMPONENT-451$COMPONENT-452$COMPONENT-453$COMPONENT-454$COMPONENT-455$COMPONENT-456$
COMPONENT-457$COMPONENT-458$COMPONENT-459$COMPONENT-460$COMPONENT-461$COMPONENT-462$COMPONENT-463$
COMPONENT-464$COMPONENT-465$COMPONENT-466$COMPONENT-467$COMPONENT-468$COMPONENT-469$COMPONENT-470$
COMPONENT-471$COMPONENT-472$COMPONENT-473$COMPONENT-474$COMPONENT-475$COMPONENT-476$COMPONENT-477$
COMPONENT-478$COMPONENT-479$COMPONENT-480$COMPONENT-481$COMPONENT-482$COMPONENT-483$COMPONENT-484$
COMPONENT-485$COMPONENT-486$COMPONENT-487$COMPONENT-488$COMPONENT-489$COMPONENT-490$COMPONENT-491$
COMPONENT-492$COMPONENT-493$COMPONENT-494$COMPONENT-495$COMPONENT-496$COMPONENT-497$COMPONENT-498$
COMPONENT-499$COMPONENT-500$COMPONENT-501$COMPONENT-502$COMPONENT-503$COMPONENT-504$COMPONENT-505$
COMPONENT-506$COMPONENT-507$COMPONENT-508$COMPONENT-509$COMPONENT-510$COMPONENT-511$COMPONENT-512$
COMPONENT-513$COMPONENT-514$COMPONENT-515$COMPONENT-516$COMPONENT-517$COMPONENT-518$COMPONENT-519$
COMPONENT-520$COMPONENT-521$COMPONENT-522$COMPONENT-523$COMPONENT-524$COMPONENT-525$COMPONENT-526$
COMPONENT-527$COMPONENT-528$COMPONENT-529$COMPONENT-530$COMPONENT-531$COMPONENT-532$COMPONENT-533$
COMPONENT-534$COMPONENT-535$COMPONENT-536$COMPONENT-537$COMPONENT-538$COMPONENT-539$COMPONENT-540$
COMPONENT-541$COMPONENT-542$COMPONENT-543$COMPONENT-544$COMPONENT-545$COMPONENT-546$COMPONENT-547$
COMPONENT-548$COMPONENT-549$COMPONENT-550$COMPONENT-551$COMPONENT-552$COMPONENT-553$COMPONENT-554$
COMPONENT-555$COMPONENT-556$COMPONENT-557$COMPONENT-558$COMPONENT-559$COMPONENT-560$COMPONENT-561$
COMPONENT-562$COMPONENT-563$COMPONENT-564$COMPONENT-565$COMPONENT-566$COMPONENT-567$COMPONENT-568$
COMPONENT-569$COMPONENT-570$COMPONENT-571$COMPONENT-572$COMPONENT-573$COMPONENT-574$COMPONENT-575$
COMPONENT-576$COMPONENT-577$COMPONENT-578$COMPONENT-579$COMPONENT-580$COMPONENT-581$COMPONENT-582$
COMPONENT-583$COMPONENT-584$COMPONENT-585$COMPONENT-586$COMPONENT-587$COMPONENT-588$COMPONENT-589$
COMPONENT-590$COMPONENT-591$COMPONENT-592$COMPONENT-593$COMPONENT-594$COMPONENT-595$COMPONENT-596$
COMPONENT-597$COMPONENT-598$COMPONENT-599$COMPONENT-600$COMPONENT-601$COMPONENT-602$COMPONENT-603$
COMPONENT-604$COMPONENT-605$COMPONENT-606$COMPONENT-607$COMPONENT-608$COMPONENT-609$COMPONENT-610$
COMPONENT-611$COMPONENT-612$COMPONENT-613$COMPONENT-614$COMPONENT-615$COMPONENT-616$COMPONENT-617$
COMPONENT-618$COMPONENT-619$COMPONENT-620$COMPONENT-621$COMPONENT-622$COMPONENT-623$COMPONENT-624$
COMPONENT-625$COMPONENT-626$COMPONENT-627$COMPONENT-628$COMPONENT-629$COMPONENT-630$COMPONENT-631$
COMPONENT-632$COMPONENT-633$COMPONENT-634$COMPONENT-635$COMPONENT-636$COMPONENT-637$COMPONENT-638$
COMPONENT-639$COMPONENT-640$COMPONENT-641$COMPONENT-642$COMPONENT-643$COMPONENT-644$COMPONENT-645$
COMPONENT-646$COMPONENT-647$COMPONENT-648$COMPONENT-649$COMPONENT-650$COMPONENT-651$COMPONENT-652$
COMPONENT-653$COMPONENT-654$COMPONENT-655$COMPONENT-656$COMPONENT-657$COMPONENT-658$COMPONENT-659$
COMPONENT-660$COMPONENT-661$COMPONENT-662$COMPONENT-663$COMPONENT-664$COMPONENT-665$COMPONENT-666$
COMPONENT-667$COMPONENT-668$COMPONENT-669$COMPONENT-670$COMPONENT-671$COMPONENT-672$COMPONENT-673$
COMPONENT-674$COMPONENT-675$COMPONENT-676$COMPONENT-677$COMPONENT-678$COMPONENT-679$COMPONENT-680$
COMPONENT-681$COMPONENT-682$COMPONENT-683$COMPONENT-684$COMPONENT-685$COMPONENT-686$COMPONENT-687$
COMPONENT-688$COMPONENT-689$COMPONENT-690$COMPONENT-691$COMPONENT-692$COMPONENT-693$COMPONENT-694$
COMPONENT-695$COMPONENT-696$COMPONENT-697$COMPONENT-698$COMPONENT-699$COMPONENT-700$COMPONENT-701$
COMPONENT-702$COMPONENT-703$COMPONENT-704$COMPONENT-705$COMPONENT-706$COMPONENT-707$COMPONENT-708$
COMPONENT-709$COMPONENT-710$COMPONENT-711$COMPONENT-712$COMPONENT-713$COMPONENT-714$COMPONENT-715$
COMPONENT-716$COMPONENT-717$COMPONENT-718$COMPONENT-719$COMPONENT-720$COMPONENT-721$COMPONENT-722$
COMPONENT-723$COMPONENT-724$COMPONENT-725$COMPONENT-726$COMPONENT-727$COMPONENT-728$COMPONENT-729$
COMPONENT-730$COMPONENT-731$COMPONENT-732$COMPONENT-733$COMPONENT-734$COMPONENT-735$COMPONENT-736$
COMPONENT-737$COMPONENT-738$COMPONENT-739$COMPONENT-740$COMPONENT-741$COMPONENT-742$COMPONENT-743$
COMPONENT-744$COMPONENT-745$COMPONENT-746$COMPONENT-747$COMPONENT-748$COMPONENT-749$COMPONENT-750$
COMPONENT-751$COMPONENT-752$COMPONENT-753$COMPONENT-754$COMPONENT-755$COMPONENT-756$COMPONENT-757$
COMPONENT-758$COMPONENT-759$COMPONENT-760$COMPONENT-761$COMPONENT-762$COMPONENT-763$COMPONENT-764$
COMPONENT-765$COMPONENT-766$COMPONENT-767$COMPONENT-768@1AFF0!jI;MINNANkE&ly&n6&kF@1AFF5&x3&ut&
NASALIZEDrI(kE(ly(n6(kF@1AFFD(x3(ut@1B000%f2E!o3;f2hp!HENTAIGANA;A-1%A-2%A-3%A-WO%I-1%I-2%I-3%I-4%
U-1%U-2%U-3%U-4%U-5%E-2%E-3%E-4%E-5%E-6%O-1%O-2%O-3%KA-1%KA-2%KA-3%KA-4%KA-5%KA-6%KA-7%KA-8%KA-9%
KA-10%KA-11%KA-KE%KI-1%KI-2%KI-3%KI-4%KI-5%KI-6%KI-7%KI-8%KU-1%KU-2%KU-3%KU-4%KU-5%KU-6%KU-7%KE-1%
KE-2%KE-3%KE-4%KE-5%KE-6%KO-1%KO-2%KO-3%KO-KI%SA-1%SA-2%SA-3%SA-4%SA-5%SA-6%SA-7%SA-8%SI-1%SI-2%SI-3
%SI-4%SI-5%SI-6%SU-1%SU-2%SU-3%SU-4%SU-5%SU-6%SU-7%SU-8%SE-1%SE-2%SE-3%SE-4%SE-5%SO-1%SO-2%SO-3%SO-4
%SO-5%SO-6%SO-7%TA-1%TA-2%TA-3%TA-4%TI-1%TI-2%TI-3%TI-4%TI-5%TI-6%TI-7%TU-1%TU-2%TU-3%TU-4%TU-TO%
TE-1%TE-2%TE-3%TE-4%TE-5%TE-6%TE-7%TE-8%TE-9%TO-1%TO-2%TO-3%TO-4%TO-5%TO-6%TO-RA%NA-1%NA-2%NA-3%NA-4
%NA-5%NA-6%NA-7%NA-8%NA-9%NI-1%NI-2%NI-3%NI-4%NI-5%NI-6%NI-7%NI-TE%NU-1%NU-2%NU-3%NE-1%NE-2%NE-3%
NE-4%NE-5%NE-6%NE-KO%NO-1%NO-2%NO-3%NO-4%NO-5%HA-1%HA-2%HA-3%HA-4%HA-5%HA-6%HA-7%HA-8%HA-9%HA-10%
HA-11%HI-1%HI-2%HI-3%HI-4%HI-5%HI-6%HI-7%HU-1%HU-2%HU-3%HE-1%HE-2%HE-3%HE-4%HE-5%HE-6%HE-7%HO-1%HO-2
%HO-3%HO-4%HO-5%HO-6%HO-7%HO-8%MA-1%MA-2%MA-3%MA-4%MA-5%MA-6%MA-7%MI-1%MI-2%MI-3%MI-4%MI-5%MI-6%MI-7
%MU-1%MU-2%MU-3%MU-4%ME-1%ME-2%ME-MA%MO-1%MO-2%MO-3%MO-4%MO-5%MO-6%YA-1%YA-2%YA-3%YA-4%YA-5%YA-YO%
YU-1%YU-2%YU-3%YU-4%YO-1%YO-2%YO-3%YO-4%YO-5%YO-6%RA-1%RA-2%RA-3%RA-4%RI-1%RI-2%RI-3%RI-4%RI-5%RI-6%
RI-7%RU-1%RU-2%RU-3%RU-4%RU-5%RU-6%RE-1%RE-2%RE-3%RE-4%RO-1%RO-2%RO-3%RO-4%RO-5%RO-6%WA-1%WA-2%WA-3%
WA-4%WA-5%WI-1%WI-2%WI-3%WI-4%WI-5%WE-1%WE-2%WE-3%WE-4%WO-1%WO-2%WO-3%WO-4%WO-5%WO-6%WO-7%N-MU-MO-1%
N-MU-MO-2!o3;f2jY!jI;f2en&hp&jY@1B150!o3;<fI&eS&ff@1B164!jI;<fI&eS&ff&N@1BC00!DUPLOYAN;H%X%P%T%F%K%L
%B%D%V%G%R%P N%D S%F N%K M%R S%TH%nSDH%DH%KK%nSJ%HL%LH%RH%M%N%J%S%M N%N M%J M%S J%M:aj%N:aj%J:aj(aU
gb_ab%S:aj)af%M S%N S%J S%S S%M N S%N M S%J M S%S J S%J S:aj&N(S%S T(R&P(R%T S&R S%W%WH%W R%S N&M%K
R S%G R S%S K(R%A%nSOW%OA%O%AOU%I%E%gP%cCI%UI%c1%nSkf%ROMANIAN I%nSc1%bzI%hp%U%EU%XW%U N%bzU%
ROMANIAN U%UH%nSU%OOH%OW%OU%bV%ff%fI%WEI%WOW%NASAL U&O&I&A%PERNINdM&j2%nScG&dM&b7%cjM@1BC70$AFFIXac
a6mC%nxa6mC%aaa6mC%bkazmC%nxazmC%bHazmC%ogmC&qXmC&TANGENT&cq&Ear&Iar&TANGENTar@1BC80%bHbl&TIGHTbl&bY
&bzbY&aj&aT&bM&fH&az@1BC90%bkbl&TIGHTbl&bY&bzbY&aj&aT&bM&fH&az&|@1BC9C$^O:cP$THICK;xn$ahai$cYCHINOOK
cBbQ!SHORTHAND FORMAT;wK%CONTINUINGwK%aJSTEP%aASTEP@1CF00!ZNAMENNYdkaiqGmmSjbb7ac&mmSjbb7ac&TSATAb7
ac&qGmmb7ac&mmb7ac&SREDNEb7ac&nujib7ac&jib7ac&p8b7ac&nujiSpkb7ac&jiSpkb7ac&p8Spkb7ac&qGmmSjbb7aa&mmS
jbb7aa&TSATAb7aa&qGmmb7aa&mmb7aa&SREDNEb7aa&nujib7aa&jib7aa&p8b7aa&nujiSpkb7aa&jiSpkb7aa&p8Spkb7aa&
TSATA Sjb&nujiSjb&xJnuji&jiSjb(xJ&p8Sjb&nujixJ&qGp8&ZELO&b7&RAVNO&uo&BORZAYA&UDARKA&PODVERTKA&LOMKA&
KUPNAYA&KACHKA&ZEVOK&SKOBA&RAZSEKA&sYb7ac@1CF30%TONAL RANGEaiMRACHNO)SVETLO)TRESVETLO%aiZADERZHKA&yB
ZADERZHKA&OTSECHKA&PODCHASHIE(:azas&CHASHKA(POLNAYA&OBLACHKO&SOROCHYA NOZHKA&TOCHKA&DVOETOCHIE%
ATTACHINGazOMET%aijAOMET&sY%bgTONAL RANGEl6$PRIZNAKeaLEVEL-2&LEVEL-3&DIRECTION FLIP&sY&ROG@1CF50$
NEUME KRYUK&TIKHY%PARAKLIT%DVA V CHELNU%KLYUCH%ZANOZHEK%STOPITSA&S OCHKOM%PEREVODKA&q8%STOPITSA:
SOROCHYA NOZHKA%CHELYUSTKA%PALKA%mW%GOLUBCHIK BORZY&TIKHY&MRACHNY&SVETLY&TRESVETLY%VRAKHIYAtx&ww&mL&
ux&nqtx(ww(mL(ux%ahmW%bJCHELYUSTKA%DERBITSA%KHAMILO%CHASHKA%PODCHASHIE%SKAMEYTSAww&mL&ux&uo%yBKLYUCH
%SKAMEYTSAnqmL&y7&nquo&vytx(mL(q8(nq%SLOZHITIE&Sqc&ZAKRYTOE&Sjb%sY%ROG%nc%KOBYLA%ZMEYTSA%STATYA&Sqc(
jb(qcIjb(jbIqc&ZAKRYTAYA(Sqc&S ROGOM(DVUMYA ZAPYATYMI(qcI PODCHASHIEM%POLKULIZMY%STATYAq8%xKtx&
MRACHNOTIKHAYA&KRYZHEVAYA&POLUPOVODNAYA&tv&q8&KLYUCHEPOVODNAYA&y7&uoPUTNAYA&vy&DVOECHELNOKRYZHEVAYA&
yJ&vynq&yJnq&sE:bPmW&sF:bPmW&sE&sF(:ahmW&yQ(tv%MECHIK&POVODNY&KLYUCHEVOY&KLYUCHEPOVODNY&
KLYUCHENEPOSTOYANNY%xKTRYASOGLASNAYA&TRYASOPOVODNAYA&TRYASOSTRELNAYA%OSOKA&mL&ux&KRYUKOVAYAmL&nqmL(
q8%xKKRYUKOVAYA(tv(sE:bPmW(sF:bPmW(sE(sF):ahmW(yQ)tv(TRYASKA%KUFISMA%OBLAKO%DUDA%NEMKA%PAUK@1D000!
BYZANTINEiwatbI&DASEIA&cX&OXEIAsm(m5&VAREIAsm(m5&KATHISTI&SYRMATIKI&wQ&YPOKRISIS(m5&KREMASTI&APESOsm
&EXOsm&TELEIA&qQ&APOSTROFOS(m5&SYNEVMA&THITA&OLIGONf3&vQf3&PSILON&CHAMILON&VATHY&ISONf3&sUf3&qQf3&
SAXIMATA&PARICHON&STAVROS APODEXIA&OXEIAIf3&VAREIAIf3&APODERMAf3&APOTHEMA&sW&REVMA&PIASMAf3&TINAGMA&
ANATRICHISMA&SEISMA&SYNAGMAf3(META STAVROU&OYRANISMAf3&THEMA&LEMOI&DYO&TRIA&xW&KRATIMATA&APESO EXOeD
&oUf3&IMIFTHORA&uzf3&KATAVAuz&PELASTON&PSIFISTON&KONTEVMA&CHOREVMAf3&RAPISMA&wPf3&wQf3&ICHADIN&NANA&
PETASMA&KONTEVMA ALLO&uzALLO&STRAGGISMATA&GRONTHISMATA&ISONeD&OLIGONeD&OXEIAeD&PETASTI&KOUFISMA&
PETASTOKOUFISMA&KRATIMOKOUFISMA&PELASTONeD&qQeDlF&sUeDlF&YPSILI&APOSTROFOSeD&APOSTROFOI SYNDESMOSeD&
YPORROI&KRATIMOYPORROON&ELAFRON&CHAMILI&MIKRON ISON&VAREIAeD&PIASMAeD&PSIFISTONeD&OMALON&ANTIKENOMA&
LYGISMA&wQeD&wPeD&ETERONwP&KYLISMA&ANTIKENOKYLISMA&uzeD&EKSTREPTON&SYNAGMAeD&SYRMA&CHOREVMAeD&
EPEGERMA&SEISMAeD&XIRONsW&TROMIKOPSIFISTON&PSIFISTOLYGISMA&TROMIKOLYGISMA&TROMIKOPARAKALESMA&
PSIFISTOPARAKALESMA&TROMIKOSYNAGMA&PSIFISTOSYNAGMA&GORGOSYNTHETON&yr&ETERONyr&OYRANISMAeD&
THEMATISMOS ESO(EXO&THEMA APLOUN&THESpeAPOTHES&KATAVASMA&ENDOFONON&YFENnn(lF&STAVROS&sWlF&m5f3&
KRATIMAf3(ALLO(eD&APODERMAeD&APLI&m5&TRIPLI&TETRAPLI&wg&LEIMMA ENOS CHRONOU(DYOu5(TRIONu5(TESSARONu5
(IMISEOS CHRONOU&vQeDlF(znARISTERA)DEXIA&DIGORGON(znARISTERAnn*lF)DEXIA&TRIGORGON&ARGON&IMIDIARGON&
DIARGON&AGOGI POLI ARGI(ARGOTERI(ARGI(METRIA(MESI(GORGI(GORGOTERI(POLI GORGI&MARTYRIA PROTOSiq(ALLI
PROTOSiq(DEYTEROSiq(ALLI DEYTEROSiq(TRITOSiq(TRIFONIAS(TETARTOSiq)LEGETOSiq(LEGETOSiq(PLAGIOSiq&
ISAKIA TELOUS ICHIMATOS&APOSTROFOI TELOUS ICHIMATOS&FANEROSIS TETRAFONIAS(MONOFONIAS(DIFONIAS&
MARTYRIA VARYSiq(PROTOVARYSiq(PLAGIOS TETARTOSiq&GORTHMIKON N APLOUN)DIPLOUN&ENARXISpeoUVOU&IMIFONON
&IMIFTHORON&oUf3DEYTEROU ICHOU(vraS)NANA(NAOSiq(vrf8(t3DIATONONf8(vrfN)jv)dPnn*lF(MALAKONsbDIFONIAS*
MONOFONIAS&FHTORAt3sbVASIS&oUt3sbSYNAFI(NENANO&CHROA ZYGOS(KLITON(SPATHI&oUIuFzR(ENARMONIOS
ANTIFONIA&uFzZ&DIESISzZ(zR(APLI DYOlS(zgxWlS(DIGRAMMOS EXlS(TRIGRAMMOS OKTOlS&uFAPLI DYOlS(zgxWlS(
DIGRAMMOS EXlS(TRIGRAMMOS OKTOlS&GENIKI DIESIS(uF&DIASTOLI APLI MIKRI)MEGALI(m5(THESEOS&SIMANSIS
THESEOS)DISIMOU)TRISIMOU)TETRASIMOU(ARSEOS)DISIMOU)TRISIMOU)TETRASIMOU&DIGRAMMA GG&DIFTOGGOS OU&xI&
ARKTIKOaS(VOU(bi(f8(fN(jv(dP&qQeDMESO&sUeDMESO&qQeDnn&sUeDnn&sWnn&vQeDnn@1D100!iwatbPoi%ahoi%agoi%fy
agoi%iloi%cCoi%acrn^%aarn^%rnaU%hYSEGNO%beCAPO%SEGNO%CODA%REPEATED FIGURE-1&FIGURE-2&FIGURE-3%
FERMATA&af%BREATHai%CAESURA%BRACE%aO%ONE-LINEmH%TWO-LINEmH%THREE-LINEmH%FOUR-LINEmH%FIVE-LINEmH%
SIX-LINEmH%SIX-STRING FRETBOARD%FOUR-STRING FRETBOARD%Gor(wIALTA)qi%Cor%For(wIALTA)qi%qyCLEF-1&
CLEF-2@1D129%ivprgE%ahpO&oT%oTaA&aJ%NATURALaA&aJ%pOaA&aJ%dQbDpO(oT%COMMON TIME%CUT TIME%wIALTA&qi%
QUINDICESIMA ALTA&qi%MULTIgE%WHOLEgE%aKgE%dQgE%eBgE%pSgE%xYgE%xxgE%aeaLz1gE%Xjf%aGjf%aTXjf%aRjfap(am
%bhjfaAap)am(acap)am(aaap)am(aJap)am(aAaaap*am%eMjfap(am%TRIANGLE-ROUNDjfaJap)am%c2jf%VOIDjf%jfam%
NULLjf%CLUSTERjfap(am%cl%WHOLEfY%aKfY%dQfY%eBfY%pSfY%xYfY%xxfY%aeaLz1fY%dklt&SPRECHGESANGlt&
TREMOLO-1&TREMOLO-2&TREMOLO-3%FINGERED TREMOLO-1&TREMOLO-2&TREMOLO-3%dkAUGMENTATIONaj&FLAG-1&FLAG-2&
FLAG-3&FLAG-4&FLAG-5%lHBEAM%duBEAM%lHp2%dup2%lHSLUR%duSLUR%lHPHRASE%duPHRASE%dkdj&STACCATO&TENUTO&
STACCATISSIMO&MARCATO&MARCATO-STACCATO&ACCENT-STACCATO&LOURE%ARPEGGIATOaA&aJ%dkDOIT&RIP&FLIP&SMEAR&
BEND&ahn7&cQn7%RINFORZANDO%SUBITO%Z%PIANO%MEZZO%FORTE%CRESCENDO%DECRESCENDO%GRACEfYhk(dahk%TR%TURN%
b1TURN%TURNhk&aA%cASTROKE-1&STROKE-2&STROKE-3&STROKE-4&STROKE-5&STROKE-6&STROKE-7&STROKE-8&STROKE-9&
STROKE-10&STROKE-11%HAUPTSTIMME%NEBENSTIMME%duaoSTIMME%sghk%dkaJon&aAon&HARMONIC&SNAP PIZZICATO%
PEDALai&aAai%aKPEDALai%GLISSANDOaA&aJ%:FINGERNAILS%DAMP&ALL%MAXIMA%LONGA%BREVIS%SEMIBREVISap&am%
MINIMA&am%SEMIMINIMAap&am%FUSAap&am%LONGAtogE&v0gE%BREVISgE%SEMIBREVISgE%MINIMAgE%SEMIMINIMAgE%
TEMPUS PERFECTUM CUM PROLATIONEto*v0*toyD&IMPERFECTUM CUM PROLATIONEto*v0+yD+DIMINUTION-2+
DIMINUTION-3%CROIX%GREGORIAN Cor&For%aRB%VIRGA%PODATUS%CLIVIS%SCANDICUS%CLIMACUS%TORCULUS%PORRECTUS&
FLEXUS%SCANDICUS FLEXUS%TORCULUS RESUPINUS%PES SUBPUNCTIS%KIEVAN Cor&duaomw&agfY&RECITATIVEai&WHOLE
fY&aKfY&dQfYltaJ*aA&eBfYltaJ*aA&oT^%SORI%KORON@1D200!eUVOCALmoSYMBOL-1&SYMBOL-2&SYMBOL-3&SYMBOL-4&
SYMBOL-5&SYMBOL-6&SYMBOL-7&SYMBOL-8&SYMBOL-9&SYMBOL-10&SYMBOL-11&SYMBOL-12&SYMBOL-13&SYMBOL-14&
SYMBOL-15&SYMBOL-16&SYMBOL-17&SYMBOL-18&SYMBOL-19&SYMBOL-20&SYMBOL-21&SYMBOL-22&SYMBOL-23&SYMBOL-24&
SYMBOL-50&SYMBOL-51&SYMBOL-52&SYMBOL-53&SYMBOL-54$INSTRUMENTALmoSYMBOL-1&SYMBOL-2&SYMBOL-4&SYMBOL-5&
SYMBOL-7&SYMBOL-8&SYMBOL-11&SYMBOL-12&SYMBOL-13&SYMBOL-14&SYMBOL-17&SYMBOL-18&SYMBOL-19&SYMBOL-23&
SYMBOL-24&SYMBOL-25&SYMBOL-26&SYMBOL-27&SYMBOL-29&SYMBOL-30&SYMBOL-32&SYMBOL-36&SYMBOL-37&SYMBOL-38&
SYMBOL-39&SYMBOL-40&SYMBOL-42&SYMBOL-43&SYMBOL-45&SYMBOL-47&SYMBOL-48&SYMBOL-49&SYMBOL-50&SYMBOL-51&
SYMBOL-52&SYMBOL-53&SYMBOL-54!dkeUiwTRISEME&TETRASEME&PENTASEME!eUiwLEIMMA@1D2E0!MAYANkubr%ae%ad%ak%
aq%au%aB%aI%aC%aN%bA%i1%if%mN%l0%jE%kz%mD%kX%ml@1D300!psdlh2!DIGRAMdlHEAVENLYh2%HUMANh2%EARTHLYsJ&
HUMAN%h2!TETRAGRAMdlck%cBaT%MIRED%BARRIER%KEEPING<%CONTRARIETY%ASCENT%wH%BRANCHINGhe%DEFECTIVENESSbw
DISTORTION%DIVERGENCE%YOUTHFULNESS%v1%PENETRATION%REACH%ot%o4iS%yd%FOLLOWING%ADVANCE%RELEASE%
RESISTANCE%EASE%JOY%CONTENTION%ENDEAVOUR%DUTIES%CHANGE%DECISIVENESS%efRESOLUTION%PACKING%LEGION%
CLOSENESS%KINSHIP%vM%STRENGTH%PURITY%FULLNESS%RESIDENCE%LAWbwMODEL%RESPONSE%GOINGalMEET%ENCOUNTERS%
STOVE%GREATNESS%ENLARGEMENT%PATTERN%RITUAL%FLIGHT%VASTNESSbwWASTING%CONSTANCY%pr%vC%UNITY%
DIMINISHMENT%dBfQ%GUARDEDNESS%vMcn%MASSING%ACCUMULATION%EMBELLISHMENT%DOUBT%WATCH%SINKING%INNER%
DEPARTURE%DARKENING%DIMMING%EXHAUSTION%SEVERANCE%STOPPAGE%HARDNESS%u7%CLOSURE%FAILURE%AGGRAVATION%
COMPLIANCE%b7drVERGE%DIFFICULTIES%LABOURING%FOSTERING@1D360!COUNTING RODrNbcae(ad(ak(aq(au(aB(aI(aC(
aN%TENSbcae(ad(ak(aq(au(aB(aI(aC(aN!hBTALLYaiae&ad&ak&aq&au!TALLYaiae%au@1D400!ppef?A&B&C&D&E&F&G&H&
I&J&K&L&M&N&O&P&Q&R&S&T&U&V&W&X&Y&Z%<A&B&C&D&E&F&G&H&I&J&K&L&M&N&O&P&Q&R&S&T&U&V&W&X&Y&Z$jG?A&B&C&D&
E&F&G&H&I&J&K&L&M&N&O&P&Q&R&S&T&U&V&W&X&Y&Z%<A&B&C&D&E&F&G@1D456&I&J&K&L&M&N&O&P&Q&R&S&T&U&V&W&X&Y&Z
$efjG?A(B(C(D(E(F(G(H(I(J(K(L(M(N(O(P(Q(R(S(T(U(V(W(X(Y(Z&<A(B(C(D(E(F(G(H(I(J(K(L(M(N(O(P(Q(R(S(T(U
(V(W(X(Y(Z$e9?A@1D49E&C&D@1D4A2&G@1D4A5&J&K@1D4A9&N&O&P&Q@1D4AE&S&T&U&V&W&X&Y&Z%<A&B&C&D@1D4BB&F
@1D4BD&H&I&J&K&L&M&N@1D4C5&P&Q&R&S&T&U&V&W&X&Y&Z$efe9?A(B(C(D(E(F(G(H(I(J(K(L(M(N(O(P(Q(R(S(T(U(V(W(
X(Y(Z&<A(B(C(D(E(F(G(H(I(J(K(L(M(N(O(P(Q(R(S(T(U(V(W(X(Y(Z$FRAKTUR?A&B@1D507&D&E&F&G@1D50D&J&K&L&M&N
&O&P&Q@1D516&S&T&U&V&W&X&Y@1D51E%<A&B&C&D&E&F&G&H&I&J&K&L&M&N&O&P&Q&R&S&T&U&V&W&X&Y&Z$jB?A&B@1D53B&D
&E&F&G@1D540&I&J&K&L&M@1D546&O@1D54A&S&T&U&V&W&X&Y@1D552%<A&B&C&D&E&F&G&H&I&J&K&L&M&N&O&P&Q&R&S&T&U&
V&W&X&Y&Z$efFRAKTUR?A(B(C(D(E(F(G(H(I(J(K(L(M(N(O(P(Q(R(S(T(U(V(W(X(Y(Z&<A(B(C(D(E(F(G(H(I(J(K(L(M(N
(O(P(Q(R(S(T(U(V(W(X(Y(Z$fn?A&B&C&D&E&F&G&H&I&J&K&L&M&N&O&P&Q&R&S&T&U&V&W&X&Y&Z%<A&B&C&D&E&F&G&H&I&J
&K&L&M&N&O&P&Q&R&S&T&U&V&W&X&Y&Z%ef?A(B(C(D(E(F(G(H(I(J(K(L(M(N(O(P(Q(R(S(T(U(V(W(X(Y(Z&<A(B(C(D(E(F
(G(H(I(J(K(L(M(N(O(P(Q(R(S(T(U(V(W(X(Y(Z%jG?A(B(C(D(E(F(G(H(I(J(K(L(M(N(O(P(Q(R(S(T(U(V(W(X(Y(Z&<A(B
(C(D(E(F(G(H(I(J(K(L(M(N(O(P(Q(R(S(T(U(V(W(X(Y(Z%efjG?A)B)C)D)E)F)G)H)I)J)K)L)M)N)O)P)Q)R)S)T)U)V)W)
X)Y)Z(<A)B)C)D)E)F)G)H)I)J)K)L)M)N)O)P)Q)R)S)T)U)V)W)X)Y)Z$MONOSPACE?A&B&C&D&E&F&G&H&I&J&K&L&M&N&O&P
&Q&R&S&T&U&V&W&X&Y&Z%<A&B&C&D&E&F&G&H&I&J&K&L&M&N&O&P&Q&R&S&T&U&V&W&X&Y&Z$jG<h1I(J@1D6A8$ef?dL&f5&ft
&fT&eI&iN&fL&eZ&d4&gw&h5&do&dW&hQ&gB&c3&eE&eZat&eQ&gG&ex&eX&e4&gT&dq%pv%<dL&f5&ft&fT&eI&iN&fL&eZ&d4&
gw&h5&do&dW&hQ&gB&c3&eE&ageQ&eQ&gG&ex&eX&e4&gT&dq%muoB%eIat%eZat%gwat%eXat%eEat%c3at$jG?dL&f5&ft&fT&
eI&iN&fL&eZ&d4&gw&h5&do&dW&hQ&gB&c3&eE&eZat&eQ&gG&ex&eX&e4&gT&dq%pv%<dL&f5&ft&fT&eI&iN&fL&eZ&d4&gw&
h5&do&dW&hQ&gB&c3&eE&ageQ&eQ&gG&ex&eX&e4&gT&dq%muoB%eIat%eZat%gwat%eXat%eEat%c3at$efjG?dL(f5(ft(fT(
eI(iN(fL(eZ(d4(gw(h5(do(dW(hQ(gB(c3(eE(eZat(eQ(gG(ex(eX(e4(gT(dq&pv&<dL(f5(ft(fT(eI(iN(fL(eZ(d4(gw(
h5(do(dW(hQ(gB(c3(eE(ageQ(eQ(gG(ex(eX(e4(gT(dq&muoB&eIat&eZat&gwat&eXat&eEat&c3at$fnef?dL(f5(ft(fT(
eI(iN(fL(eZ(d4(gw(h5(do(dW(hQ(gB(c3(eE(eZat(eQ(gG(ex(eX(e4(gT(dq&pv&<dL(f5(ft(fT(eI(iN(fL(eZ(d4(gw(
h5(do(dW(hQ(gB(c3(eE(ageQ(eQ(gG(ex(eX(e4(gT(dq&muoB&eIat&eZat&gwat&eXat&eEat&c3at&jG?dL)f5)ft)fT)eI)
iN)fL)eZ)d4)gw)h5)do)dW)hQ)gB)c3)eE)eZat)eQ)gG)ex)eX)e4)gT)dq(pv(<dL)f5)ft)fT)eI)iN)fL)eZ)d4)gw)h5)
do)dW)hQ)gB)c3)eE)ageQ)eQ)gG)ex)eX)e4)gT)dq(muoB(eIat(eZat(gwat(eXat(eEat(c3at$ef?oD%<oD@1D7CE%bcbr&
ae&ad&ak&aq&au&aB&aI&aC&aN$jBbcbr&ae&ad&ak&aq&au&aB&aI&aC&aN$fnbcbr&ae&ad&ak&aq&au&aB&aI&aC&aN%efbc
br(ae(ad(ak(aq(au(aB(aI(aC(aN$MONOSPACEbcbr&ae&ad&ak&aq&au&aB&aI&aC&aN!SIGNWRITINGera3$gNa3$o1a3$qI
a3$gua3$i7a3$era3d6$gNa3d6$erbClza3d6%a3eOsX&ox&g9(bk$gNa3HINGE$era3ay$gNa3ay$era3ayd6(eOwd(g9&aAay
g9&g9ayaA&aygm)a3d6)ayd6)ox)g9(ik$gNa3ayik$erayd6aXa3%a3d6aXay&aybC$gNa3aybC$era3ayfdbCd6(d6bCfd(bC
d6(g9iHbCeP&aAayg9bCeP+gm&g9ayaAbCeP&ayaAiHbCgr(bCox)cr)o5)g9%bCgLa3ayfd%a3aygmbCeP+gm+d6%aybCo5a3aA
%a3bCo5ayaA&aygmg9bCeP(ikbCeP(gmbCgr)oxbCgr%aybCoxa3aA%a3bCoxayaA%aybCcra3aA*g9%a3bCuLheayaA)cnayaA(
crayaA&aybCgmg9)uLhe*%aybCuLhea3aA+ik)a3aA%a3bCo5ayg9$vVaqe6(d6(g9(gm)SPLIT$sHaqe6gm$eraqe6gmd6$guaq
e6gm$vVaue6iH%njaue6iH%aue6iHaqd6%njaue6iHaqd6%aue6iHd6%njaue6iHd6%aue6iHbCgr$o1aue6iH)bv$guaue6iHbv
$qIaue6iH$vVaue6iHg9*bCeP*dabC%%gLrhFACINGS%nj%bCeP%njbCeP%bCd6&gr%SPLITa3bCeP&ck(bCeP*d6&co$sH%bCeP
%dabC%bCgr$qHCURLICUE%$o1bv%%bvbCeP%bCeP%bvdabC%dabC%bvbCgr%bCgr$vUbv%$gN$qI%bCeP%dabC%bCgr$gubv&bC
gr%%<%bvbCeP%bCeP%bvdabC%dabC%bCePTOUCHINGa3&gLaybd$i7$era3aybd$gNa3aybd$gua3aybd$i7a3aybd$guco$era3
aybdd6)gm$gua3aybdgm$ercoaJ(RIPPLEfd)jA(OTHERScr&aA%bClzcoaA$gNcoaA$qIcoaA$i7coaA$ercoeOsX&d6&
TOUCHESbC&bC$gucobC$ercoa3bC$gucoa3bC$i7coa3bCa3bChe+$ercoa3$gNcoa3$gucoa3$i7coa3$era3ayco$gNa3ayco$
gua3ayco%bd$i7a3ayco$era3aycPco$gNa3aycPco$erbdaJ$gubdaJa3bCaray$i7bdaJaybCa3cP$erbdaA&eOsX&co$gNbd
co$qIbdco$i7bdco$erbday(gm(eOwd&a3&bC$qHbdbC$era3bdco$gNa3bdco$vUa3bdcob7$qHa3bdcohe)cn)lz$o1a3bdco$
gua3bdco$i7a3bdcohe)$erayaJ$guay$erayaA$gNayaA$erayeOsX&aAbCeP$qHaybC$eraybCco&co&bdco$gNaybdco$vUay
bdcob7$o1aybdco$guaybdco$i7aybdcohe)cn)$gNaybdcod6$sHaybdcogm*eP$qHaybdcogmhe*cn*$gua3g9$era3bCeP$gu
a3bCeP$era3bCePbCcT*gm*d6)a3d6)BOTHd6)a3HINGE(gra3fd*d6(ar(CURLICUE(gnbCgb$sHa3bCgnbCgb$era3bCgnbClz
(aT$o1a3bC(bv$gua3bCbv(bX((<$i7a3bChe(cn($erbC&nj&ePcT(gm(d6&gr&gLa3ay(aybd(bdco&lzade6&aXade6&lzak
e6(aqe6&aXaqeOwd%%nj$TOUCHbP%iv%gL$GRASPbP%iv%gL$STRIKEbP%iv%gL$BRUSHbP%iv%gL$RUBbP%iv%gL$SURFACExU%
gL$SQUEEZEbXbP%<bP%bXiv%<iv%tT$FLICKbXbP%<bP%bXiv%<iv%tT$SQUEEZE FLICKgk$MOVEMENT-HINGEaAaJbX(<&tT%
aJtT%aAaJgkbX)<%ePalePpM$jelZot$jdlZot$jebPfd<(bm(bX(le&jski%ahfd&jski&gk(jski%cP%cQfdmi&jski&gk(js
ki%BEND<&bm&bX%dV<&bm&bX&ROTATION%iY<&bm&bX%eA<&bm&bX%mX<&bm&bX%PEAKS<&bm&bX$TRAVEL-WALLPLANErubP&ah
&gk%rtbP&ah&gk%tV%ARMt5bP(ah(cQ$MOVEMENT-DIAGONAL AWAY<&bm&bX&le%TOWARDS<&bm&bX&le%gLAWAY<(bm(bX(le&
TOWARDS<(bm(bX(le$jdbPfd<(bm(bX(le&jski%ahfd&jski&gk(jski%cP%cQfdmi&jski&gkmi(jski%BEND%dV<&bm&bX%iY
%eA<&bm&bX%mX<&bm&bX%PEAKS<&bm&bX$TRAVEL-FLOORPLANErtbP&ah&gk%rubP&ah&gk%tV$jegndQ<(bm(bX(le&yR<(bm(
bX(le&THREE-QUARTERaT<)bm%o7<&bm&bX%gz<&bm&bX&<ah%fHgnah<)bm)bX(cQ<)bm)bX%gnn4fd%jAcP<(bm$rubP%ah%fg
$jetV%gnd3l1jW%o7d3l1jW%gzd3l1jW%fHd3l1jW$rubPd3l1jW%ahd3l1jW%gkd3l1jW$jegnd3m3%o7d3m3%gzd3m3%fHd3m3
$rubPd3m3%ahd3m3%gkd3m3$jefHcTPATH<)bm)bX$jdgnd3kQ<)bX%o7d3kQ<ah)bXah)<cQ)bXcQ%gzd3kQ<bP)bXbP)<ah)bX
ah%fHd3kQ<)bX$rtbPd3kQ%ahd3kQ%gkd3kQ$jdgnd3kj<)bX%o7d3kj<ah)bXah)cQ<cQ*bXcQ%gzd3kj<bP)bXbP)<ah)bXah%
fHd3kj<)bX$rtbPd3kj%ahd3kj%gkd3kj$jdgn<&bm&bX&le&COMBINED%o7<%gz<%fHt4&<&bX$rtbP%ah%gk$jdtVmt$jeARM
aT<bP(bmbP(<ah(bmah$jdARMaTd3jW<bP*bmbP*bXbP*<ah*bmah*bXah$jejsaTl1bP)ah$jdjsaTd3jWbP*ah$jelZiibP(ah
$jdlZiid3jWbP*ah$DYNAMICbT<&bX%FAST%SLOW%TENSE%RELAXED%SIMULTANEOUS&gk%EVERY OTHER TIME%GRADUAL$ga%
RIM%jefd&TILT%jdfd%jegn%jdgn%miaT$aQDIRECTIONtspAgrup)aAbwaJ,up$EYEBROWSfdaA&fx&aJ$DREAMY EYEBROWSfx
aJ&aJfx&aAfx&fxaA$FOREHEADfx%ot%oc$fMbv%SQUEEZED%dB$k0BLINKbP&iv$fMaKbv%rRbv%aKdB%WIDENINGmi$k0WINK$
EYELASHESaA%aJ%FLUTTERING$vDfd&ah&gk$yMfd&ah&gk$vDjA$yMjA$vDCIRCLING$CHEEKS PUFFED%fx%SUCKED$TENSE
CHEEKSbH&ay&bk$EARS$pAfx%ot%WRINKLES%WIGGLES$AIR BLOWINGhe%SUCKINGcn%BLOW<ROTATIONS%SUCK<ROTATIONS$
BREATH INHALE%EXHALE$fQdBfx&gr&ot%SMILE&oc&bv%FROWN&oc&bv%bvaT&gr&oc&OVAL(oc(YAWN&nJ(oc(YAWN%KISS&gr
&oc%TENSE&gr&SUCKED$nsPRESSEDur$LIPbgaXbu%buaXbg$fQov%WRINKLESbP&ah$n7STICKINGheFAR%LICKINGns%idgLns
&TOUCHINGgbfQ%gbfQRELAXED%MOVES AGAINST CHEEK%ckSTICKINGhe&gbfQ$TEETH%mi%b7n7(mi&ns(mi%BITEns$jeJAW$
jdJAW$NECK$nh$EXCITEMENT$tYHIP SPINE&POSITIONS$WALLPLANEtYHIP MOVE$FLOORPLANEtYHIP MOVE$tYupd1WAIST$
TORSO-WALLPLANEfdSTRETCH%jABEND$TORSO-FLOORPLANE TWISTING$buBODYupd1HIP JOINTS$LIMB COMBINATION%
LENGTH-1%LENGTH-2%LENGTH-3%LENGTH-4%LENGTH-5%LENGTH-6%LENGTH-7$lZ$LOCATION-WALLPLANEfD$
LOCATION-FLOORPLANEfD$wnHEIGHT%rS%DEPTH%gaNECK%TORSO%LIMBS DIGITS$cc$cBbQ$jn$dU$c2@1DA9B$h3
MODIFIER-2%MODIFIER-3%MODIFIER-4%MODIFIER-5%MODIFIER-6@1DAA1$ROTATION MODIFIER-2%MODIFIER-3%
MODIFIER-4%MODIFIER-5%MODIFIER-6%MODIFIER-7%MODIFIER-8%MODIFIER-9%MODIFIER-10%MODIFIER-11%
MODIFIER-12%MODIFIER-13%MODIFIER-14%MODIFIER-15%MODIFIER-16@1DF00!cz<;FENGep:TRILL&bJe9G$;<?byG$<;bJ
K$;<?L:jx$<;LEZH:c4ar&byY:jx&bJi2&byR:bzgS_c4ar&T:ar_c4ar$;c4jz:c4ar$<;gp:ahaF+_fq&byT:fq$;b1eqbQ:fq
%xMC:fq%<?byK$<;L:nb&siep:elar&L:jx_elar&i2:elar&byR:elar&R:nb_elar&ulep:elar&k1:elar&siep:c4ar&I:as
_c4ar&O:c4ar&ulep:c4ar&C:c4ar&S:fq@1E000!dkGLAGOLITIC;AZU&BUKY&VEDE&vP&DOBRO&YESTU&yk@1E008&yj&pa&av
pa&I&vv&KAKO&wm&q5&NASHI&ONU&wY&RITSI&SLOVO&x7&UKU&FRITU&HERU@1E01B&SHTA&n8&qq&bO&jZ&YERI&YATI@1E023
&dw&<eo@1E026&dY&o9<eo&hUeo&o9hUeo&nc@1E100!NYIAKENG PUACHUE HMONG;a0(ee(NTA(ba(aM(a1(hP(NKA(bW(aZ(
a9(cL(NCA(NTSA(aP(be(b0(NRA(cu(NTXA(TXA(c8(aV(fZ(a2(NQA(aS(XYA(NPA(DLA(NPLA(bo(MLA(PLA(bi(f0(A(bs(I(
U(O(cK(E(c1(W@1E130&TONE-B&TONE-M&TONE-J&TONE-V&TONE-S&TONE-G&TONE-D&^dlhg)THING)wn)ANIMAL)
INVERTEBRATE(XW XW&gYs2@1E140&bcbr(ae(ad(ak(aq(au(aB(aI(aC(aN@1E14E&qYNYAJ&crbW@1E290!TOTO;aS%bp%ba%
be%aP%bi%a0%a1%bN%a9%bZ%a2%bV%bU%aM%aV%aZ%I%qlI%IU%qlIU%U%E%qlE%EO%qlEO%O%dR%qldR%A$^iFbD@1E2C0!
WANCHO;bs%A%bp%bW%be%bi%a2%cp%aZ%a1%aS%ba%cd%c8%a9%bO%bU%cL%bV%cu%aP%O%bL%aV%a0%b2%aM%E%I%bN%U%LLHA%
ee%TRA%ONG%AANG%iP%ING%b7%cG%AAN%b0%UEN%YIH$bDTUP%TUPNI%KOI%KOINI$bcbr%ae%ad%ak%aq%au%aB%aI%aC%aN
@1E2FF$NGUN^@1E7E0!sqgYHHYA%HHYU%HHYI%HHYAA%HHYEE%HHYE%HHYO@1E7E8%GURAGE HHWA%HHWI%HHWEE%HHWE@1E7ED%
GURAGE MWI&MWEE@1E7F0&QWI&QWEE&QWE&BWI&BWEE&KWI&KWEE&KWE&GWI&GWEE&GWE&FWI&FWEE&PWI&PWEE@1E800!MENDE
KIKAKUIgYM001fO&M002aP&M003fV&M065 KEE&M095fN&M076 KOO&M048eV&M179 KUA&M004fI&M005bV&M006jY&M126 WEE
&M118eS&M114 WOO&M045ff&M194 WUI&M143 WEI&M061 WVI&M049 WVA&M139 WVE&M007 MIN&M008fP&M009 MUN&M059li
&M094nz&M154 MUAN&M189 MUEN&M010hs&M011bp&M012f6&M150oj&M097hr&M103 BOO&M138iV&M013 I&M014 A&M015 U&
M163c1&M100 E&M165cK&M147 O&M137 EI&M131cn&M135cn&M195dM&M178cG&M019fo&M020a9&M021fR&M162nM&M116fA&
M136 SOO&M079eY&M196 SIA&M025gy&M026aZ&M027e7&M084 LEE&M073hE&M054pn&M153fX&M110bzhE&M016f8&M017be&
M018g5&M089oz&M180 DOO&M181fU&M022gH&M023ba&M024e0&M091pZ&M055dz&M104p3&M069al&M028 JI&M029bU&M030
JU&M157pc&M113i9&M160 JOO&M063jH&M175bzjH&M031en&M032a2&M033dw&M109qb&M080hp&M141 YOO&M121dY&M034jD&
M035c8&M036 FU&M078na&M075i4&M133 FOO&M088i6&M197 FUA&M101 FAN&M037 NIN&M038 NAN&M039cM&M117 NEN&
M169 NON&M176es&M041aM&M186h4&M040 HEE&M096c9&M042 HOO&M140eK&M083 HEEI&M128 HOOU&M053 HIN&M130 HAN&
M087 HUN&M052 HEN&M193 HON&M046 HUAN&M090 NGGI&M043q9&M082 NGGU&M115 NGGEE&M146 NGGE&M156 NGGOO&M120
NGGO&M159 NGGAA&M127 NGGUA&M086bzNGGE&M106bzNGGOO&M183bzNGGO&M155fu&M111bi&M168g8&M190 GEE&M166
GUEI&M167 GUAN&M184 NGEN&M057 NGON&M177 NGUAN&M068c3&M099aS&M050iC&M081ln&M051cN&M102 POO&M066gC&
M145 MBI&M062 MBA&M122 MBU&M047 MBEE&M188 MBEE&M072 MBE&M172 MBOO&M174 MBO&M187 MBUU&M161bzMBE&M105
bzMBOO&M142bzMBO&M132 KPI&M092 KPA&M074 KPU&M044 KPEE&M108 KPE&M112 KPOO&M158 KPO&M124 GBI&M056 GBA&
M148 GBU&M093 GBEE&M107 GBE&M071 GBOO&M070 GBO&M171aV&M123 NDI&M129px&M125 NDU&M191 NDEE&M119 NDE&
M067 NDOO&M064 NDO&M152 NJA&M192 NJU&M149ra&M134 NJOO&M182 VI&M185cu&M151 VU&M173mU&M085ho&M144 VOO&
M077kI&M164 NYIN&M058 NYAN&M170 NYUN&M098 NYEN&M060 NYON@1E8C7%bcae&ad&ak&aq&au&aB&aI&aC&aN%dkb6
TEENS(TENS(vZ(mP(bAmP(aLmP(ny@1E900!ADLAM?;ALIF&DAALI&LAAM&MIIM&bp&SINNYIIYHE&cN&BHE&aV&E&c8&I&O&cI&
YHE&ds&cM&d8&a2&U&JIIM&e4&aM&QAAF&bi&b0&e0&pz&cu&b2&GBE&ZAL&KPO&bO$<;ALIF&DAALI&LAAM&MIIM&bp&
SINNYIIYHE&cN&BHE&aV&E&c8&I&O&cI&YHE&ds&cM&d8&a2&U&JIIM&e4&aM&QAAF&bi&b0&e0&pz&cu&b2&GBE&ZAL&KPO&bO$
ALIFs2$a8s2$qDai$dx$fhea$GEMINATEfhea$eW$wAai@1E950$bcbr%ae%ad%ak%aq%au%aB%aI%aC%aN@1E95E$aveJai%em
ai@1EC71!INDIC SIYAQb6ae&ad&ak&aq&au&aB&aI&aC&aN&bA&dc&fE&gq&dN&gV&dH&hx&dp&aeaL&adaL&akaL&aqaL&auaL
&aBaL&aIaL&aCaL&aNaL&aeaY&adaY&akaY&aqaY&auaY&aBaY&aIaY&aCaY&aNaY&bAaY&dcaY&fEaY&gqaY&dNaY&gVaY&dHaY
&hxaY&dpaY&LAKH&LAKHAN%LAKHai%b6KAROR&KARORAN&PREFIXEDae(ad(ak(aq(au(aB(aI(aC(aN%wX%f9aedQ(aK&akhJ%
nKai%b6fgae(ad(bAaY%fgLAKHai@1ED01!OTTOMAN SIYAQb6ae&ad&ak&aq&au&aB&aI&aC&aN&bA&dc&fE&gq&dN&gV&dH&hx
&dp&aeaL&adaL&akaL&aqaL&auaL&aBaL&aIaL&aCaL&aNaL&aeaY&adaY&akaY&aqaY&auaY&aBaY&aIaY&aCaY&aNaY&bAaY&
dcaY&fEaY&gqaY&dNaY&gVaY&dHaY&hxaY&dpaY%MARRATAN%fgb6ad(ak(aq(au(aB(aI(aC(aN(bA(aqaL(aBaL(adaY(bAaY%
f9aeaK(SIXTH@1EE00!f1ppa4%fS%bx%hY@1EE05%ds%hS%bo%ew%aW%d8%dv%aE%dm%eG%dK%fk%fm%eN%d5%gf%gg%jr%cs%n3
%f7%j0%gM%h1fS&dm&fk&eN@1EE21%avfS&bx@1EE24&ei@1EE27&bo@1EE29&aW&d8&dv&aE&dm&eG&dK&fk&fm&eN@1EE34&gf
&gg&jr&cs@1EE39&f7@1EE3B&gM@1EE42%TAILEDbx@1EE47&bo@1EE49&aW@1EE4B&dv@1EE4D&dm&eG&dK@1EE51&fm&eN
@1EE54&gf@1EE57&cs@1EE59&f7@1EE5B&gM@1EE5D&h1dm@1EE5F(eN@1EE61%xMfS&bx@1EE64&ei@1EE67&bo&ew&aW&d8
@1EE6C&aE&dm&eG&dK&fk&fm&eN@1EE74&gf&gg&jr&cs@1EE79&f7&j0&gM&h1fS@1EE7E(fk@1EE80%LOOPEDa4&fS&bx&hY&
ei&ds&hS&bo&ew&aW@1EE8B&dv&aE&dm&eG&dK&fk&fm&eN&d5&gf&gg&jr&cs&n3&f7&j0&gM@1EEA1%jBfS&bx&hY@1EEA5&ds
&hS&bo&ew&aW@1EEAB&dv&aE&dm&eG&dK&fk&fm&eN&d5&gf&gg&jr&cs&n3&f7&j0&gM@1EEF0%cWaE:bo:ui&bo:hY@1F000!
MAHJONG TILEb8jX%cZjX%cvjX%cJjX%iDlT%l2lT%aplT%aeaokR%adaokR%akaokR%aqaokR%auaokR%aBaokR%aIaokR%aCao
kR%aNaokR%aeaokO%adaokO%akaokO%aqaokO%auaokO%aBaokO%aIaokO%aCaokO%aNaokO%aeaoii%adaoii%akaoii%aqaoii
%auaoii%aBaoii%aIaoii%aCaoii%aNaoii%PLUM%ORCHID%uT%CHRYSANTHEMUM%SPRING%SUMMER%AUTUMN%WINTER%sT%iS
@1F030!DOMINO TILEa6iS%HORIZONTAL-00-00%HORIZONTAL-00-01%HORIZONTAL-00-02%HORIZONTAL-00-03%
HORIZONTAL-00-04%HORIZONTAL-00-05%HORIZONTAL-00-06%HORIZONTAL-01-00%HORIZONTAL-01-01%
HORIZONTAL-01-02%HORIZONTAL-01-03%HORIZONTAL-01-04%HORIZONTAL-01-05%HORIZONTAL-01-06%
HORIZONTAL-02-00%HORIZONTAL-02-01%HORIZONTAL-02-02%HORIZONTAL-02-03%HORIZONTAL-02-04%
HORIZONTAL-02-05%HORIZONTAL-02-06%HORIZONTAL-03-00%HORIZONTAL-03-01%HORIZONTAL-03-02%
HORIZONTAL-03-03%HORIZONTAL-03-04%HORIZONTAL-03-05%HORIZONTAL-03-06%HORIZONTAL-04-00%
HORIZONTAL-04-01%HORIZONTAL-04-02%HORIZONTAL-04-03%HORIZONTAL-04-04%HORIZONTAL-04-05%
HORIZONTAL-04-06%HORIZONTAL-05-00%HORIZONTAL-05-01%HORIZONTAL-05-02%HORIZONTAL-05-03%
HORIZONTAL-05-04%HORIZONTAL-05-05%HORIZONTAL-05-06%HORIZONTAL-06-00%HORIZONTAL-06-01%
HORIZONTAL-06-02%HORIZONTAL-06-03%HORIZONTAL-06-04%HORIZONTAL-06-05%HORIZONTAL-06-06%aziS%
VERTICAL-00-00%VERTICAL-00-01%VERTICAL-00-02%VERTICAL-00-03%VERTICAL-00-04%VERTICAL-00-05%
VERTICAL-00-06%VERTICAL-01-00%VERTICAL-01-01%VERTICAL-01-02%VERTICAL-01-03%VERTICAL-01-04%
VERTICAL-01-05%VERTICAL-01-06%VERTICAL-02-00%VERTICAL-02-01%VERTICAL-02-02%VERTICAL-02-03%
VERTICAL-02-04%VERTICAL-02-05%VERTICAL-02-06%VERTICAL-03-00%VERTICAL-03-01%VERTICAL-03-02%
VERTICAL-03-03%VERTICAL-03-04%VERTICAL-03-05%VERTICAL-03-06%VERTICAL-04-00%VERTICAL-04-01%
VERTICAL-04-02%VERTICAL-04-03%VERTICAL-04-04%VERTICAL-04-05%VERTICAL-04-06%VERTICAL-05-00%
VERTICAL-05-01%VERTICAL-05-02%VERTICAL-05-03%VERTICAL-05-04%VERTICAL-05-05%VERTICAL-05-06%
VERTICAL-06-00%VERTICAL-06-01%VERTICAL-06-02%VERTICAL-06-03%VERTICAL-06-04%VERTICAL-06-05%
VERTICAL-06-06@1F0A0!PLAYINGqoiS%ACEaoib%adaoib%akaoib%aqaoib%auaoib%aBaoib%aIaoib%aCaoib%aNaoib%bA
aoib%JACKaoib%etaoib%hhaoib%gxaoib@1F0B1%ACEaogO%adaogO%akaogO%aqaogO%auaogO%aBaogO%aIaogO%aCaogO%aN
aogO%bAaogO%JACKaogO%etaogO%hhaogO%gxaogO%iDsT@1F0C1%ACEaoh0%adaoh0%akaoh0%aqaoh0%auaoh0%aBaoh0%aIao
h0%aCaoh0%aNaoh0%bAaoh0%JACKaoh0%etaoh0%hhaoh0%gxaoh0%amsT@1F0D1%ACEaohW%adaohW%akaohW%aqaohW%auaohW
%aBaohW%aIaohW%aCaohW%aNaohW%bAaohW%JACKaohW%etaohW%hhaohW%gxaohW%apsT%FOOL%TRUMP-1%TRUMP-2%TRUMP-3%
TRUMP-4%TRUMP-5%TRUMP-6%TRUMP-7%TRUMP-8%TRUMP-9%TRUMP-10%TRUMP-11%TRUMP-12%TRUMP-13%TRUMP-14%
TRUMP-15%TRUMP-16%TRUMP-17%TRUMP-18%TRUMP-19%TRUMP-20%TRUMP-21@1F100!bcbrcBbQ%cc$aecc$adcc$akcc$aqcc
$aucc$aBcc$aIcc$aCcc$aNcc!DINGBATcrfnbcbr$hdcrfnbcbr!crbr:hk$gl|$m6^:wJm0!tkcz?;A(B(C(D(E(F(G(H(I(J(
K(L(M(N(O(P(Q(R(S(T(U(V(W(X(Y(Z!gIfbBRACKETEDcz?;S!crjGcz?;C)R$CD$WZ!COPYLEFTat!dFcz?;A(B(C(D(E(F(G(
H(I(J(K(L(M(N(O(P(Q(R(S(T(U(V(W(X(Y(Z$HV$MV$SD$SS$PPV$WC!hdcrcz?;A)B)C)D)E)F)G)H)I)J)K)L)M)N)O)P)Q)R
)S)T)U)V)W)X)Y)Z!eOMC^$MD^$MR^!crCC$C:wJm0$HUMANsu!hddFcz?;A)B)C)D)E)F)G)H)I)J)K)L)M)N)O)P)Q)R)S)T)U
)V)W)X)Y)Z!ikhddFcz?;P!hddFIC%aS%a9%AB%WC!aRDJ!dFCL$COOL$FREE$ID$py$ge$OK$SOS$aA:eJai$VS$akD$nLrx$ad
K$aqK$aCK$auizae$aIizae$x8izad$gVP$aeaLdcP$cz<;D$HC$HDR$HI-RES$LOSSLESS$SHV$UHD$VOD!MASK WORKat
@1F1E6!REGIONALl6at;A(B(C(D(E(F(G(H(I(J(K(L(M(N(O(P(Q(R(S(T(U(V(W(X(Y(Z!aRo3HOKA!dFjIKOKO%a9@1F210$
CJKyaIDEOGRAPH-624B&IDEOGRAPH-5B57&IDEOGRAPH-53CC$jIfr$CJKyayY&IDEOGRAPH-591A&IDEOGRAPH-89E3&
IDEOGRAPH-5929&IDEOGRAPH-4EA4&IDEOGRAPH-6620&IDEOGRAPH-7121&IDEOGRAPH-6599&IDEOGRAPH-524D&
IDEOGRAPH-5F8C&IDEOGRAPH-518D&IDEOGRAPH-65B0&IDEOGRAPH-521D&IDEOGRAPH-7D42&IDEOGRAPH-751F&
IDEOGRAPH-8CA9&IDEOGRAPH-58F0&IDEOGRAPH-5439&IDEOGRAPH-6F14&IDEOGRAPH-6295&IDEOGRAPH-6355&
IDEOGRAPH-4E00&yX&IDEOGRAPH-904A&IDEOGRAPH-5DE6&IDEOGRAPH-4E2D&IDEOGRAPH-53F3&IDEOGRAPH-6307&
IDEOGRAPH-8D70&yZ&IDEOGRAPH-7981&IDEOGRAPH-7A7A&IDEOGRAPH-5408&IDEOGRAPH-6E80&IDEOGRAPH-6709&
IDEOGRAPH-6708&IDEOGRAPH-7533&IDEOGRAPH-5272&IDEOGRAPH-55B6&IDEOGRAPH-914D@1F240!gIfbBRACKETED CJKya
IDEOGRAPH-672C)yX)yY)IDEOGRAPH-5B89)IDEOGRAPH-70B9)yZ)IDEOGRAPH-76D7)IDEOGRAPH-52DD)IDEOGRAPH-6557
@1F250!crsOADVANTAGE%ACCEPT@1F260!kvatdlFU&e7&SHOU&hQ&SHUANGXI&CAI@1F300!CYCLONE!FOGGY!dBrM!te:STARS
!SUNRISEaXMOUNTAINS$!CITYSCAPEe2DUSK!SUNSETaXBUILDINGS!RAINBOW!ooe2te!iMfH!VOLCANO!MILKY WAY!h2GLOBE
EUROPE-AFRICA%AMERICAS%ASIA-AUSTRALIA!GLOBE:MERIDIANS!pyeMat!WAXINGoweMat!k3dQeMat!WAXING GIBBOUSeM
at!cBeMat!WANING GIBBOUSeMat!LASTdQeMat!WANINGoweMat!oweM!pyeM:aQ!k3dQeM:aQ!LASTdQeM:aQ!cBeM:aQ!jT:
aQ!GLOWINGci!SHOOTINGci!zS!amDROPLET!apjT%:<os%BEHINDos(:nI!os:nI%SNOW%s3%TORNADO!FOG!jXBLOWINGaQ!
HOToF!TACO!BURRITO!CHESTNUT!SEEDLING!EVERGREENkG!DECIDUOUSkG!rhkG!CACTUS!HOT PEPPER!TULIP!CHERRY
BLOSSOM!ROSE!HIBISCUS!SUNFLOWER!BLOSSOM!oIaoMAIZE%rp!HERB!aqfvCLOVER!MAPLEfv!FALLENfv!fvFLUTTERINGcn
jX!MUSHROOM!TOMATO!AUBERGINE!GRAPES!MELON!WATERMELON!TANGERINE!LEMON!BANANA!PINEAPPLE!iDAPPLE!l2
APPLE!PEAR!PEACH!CHERRIES!STRAWBERRY!HAMBURGER!SLICEaoPIZZA!MEATb7BONE!POULTRYgS!rpCRACKER$iT!COOKED
rp!CURRY_rp!STEAMING BOWL!SPAGHETTI!BREAD!FRENCH FRIES!ROASTED SWEET POTATO!DANGO!ODEN!SUSHI!FRIED
SHRIMP!khCAKE:SWIRL DESIGN!ial4CREAM!SHAVEDl4!l4CREAM!DOUGHNUT!COOKIE!CHOCOLATEaF!CANDY!LOLLIPOP!
CUSTARD!HONEY POT!SHORTCAKE!BENTOeA!POTaoFOOD!COOKING!FORK_qU!TEACUPrTHANDLE!SAKEr3_CUP!WINEoZ!
COCKTAILoZ!TROPICAL DRINK!BEER MUG!CLINKING BEER MUGS!ohr3!FORK_qU:PLATE!r3:POPPING CORK!POPCORN!tG!
WRAPPED PRESENT!BIRTHDAY CAKE!JACK-O-LANTERN!u4kG!FATHERu4!FIREWORKS!FIREWORK SPARKLER!uR!PARTY
POPPER!CONFETTIiT!TANABATAkG!ikFLAGS!PINE DECORATION!nlDOLLS!CARP STREAMER!jXCHIME!eMVIEWING
CEREMONY!xlSATCHEL!GRADUATION CAP!eh:idb7drac!BOUQUETaoFLOWERS!wuq3!REMINDERtG!iwqR:JACKS!STUDIO
MICROPHONE!LEVEL SLIDER!kUKNOBS!BEAMED ASCENDINGiwrc$vpiwrc!FILM FRAMES!ADMISSION TICKETS!CAROUSELk9
!FERRISuD!ROLLER COASTER!FISHINGrm_kh!MICROPHONE!MOVIEu1!CINEMA!HEADPHONE!ARTIST PALETTE!c6ni!CIRCUS
TENT!TICKET!CLAPPERqk!PERFORMING ARTS!VIDEO GAME!vsHIT!SLOTwo!BILLIARDS!GAME DIE!BOWLING!qCPLAYING
CARDS!iwfY!iviwrc!SAXOPHONE!GUITAR!iwqR!TRUMPET!VIOLIN!iwSCORE!xiSHIRT:SASH!TENNIS RACQUET_iT!SKI_
SKI BOOT!BASKETBALL_HOOP!CHEQUEREDi5!SNOWBOARDER!RUNNER!SURFER!SPORTSq3!TROPHY!k9RACING!AMERICAN
FOOTBALL!RUGBY FOOTBALL!SWIMMER!WEIGHT LIFTER!GOLFER!RACING MOTORCYCLE$lK!CRICKET BAT_iT!VOLLEYBALL!
FIELD HOCKEYud_iT!l4HOCKEYud_PUCK!TABLE TENNIS PADDLE_iT!SNOW CAPPEDmh!CAMPING!BEACH:rM!qmva!qK
BUILDINGS!CITYSCAPE!DERELICTqKqm!CLASSICALqm!DESERT$ISLAND!NATIONAL PARK!STADIUM!qKqm$:GARDEN!wFqm!
nlPOSTwF!EUROPEAN POSTwF!HOSPITAL!BANK!AUTOMATED TELLERwo!HOTEL!LOVE HOTEL!CONVENIENCE STORE!xl!
DEPARTMENT STORE!FACTORY!IZAKAYA LANTERN!nlu3!EUROPEANu3!apPENNANT!amPENNANT!WAVINGapi5$ami5!xh!amxh
!LABEL!BADMINTON RACQUET_SHUTTLECOCK!on_|!AMPHORA!EMOJIeaFITZPATRICK TYPE-1-2&TYPE-3&TYPE-4&TYPE-5&
TYPE-6!RAT!nA!OX!iMBUFFALO!COW!un!LEOPARD!RABBIT!iX!lT!CROCODILE!WHALE!SNAIL!t4!k9!RAM!GOAT!SHEEP!q4
!ROOSTER!CHICKEN!oF!PIG!BOAR!vz!OCTOPUS!t5fb!BUG!ANT!HONEYBEE!LADY BEETLE!kh!TROPICALkh!BLOWFISH!rK!
HATCHING CHICK!ohCHICK!FRONT-FACINGohCHICK!BIRD!PENGUIN!KOALA!POODLE!DROMEDARY CAMEL!BACTRIAN CAMEL!
DOLPHIN!nAaQ!COWaQ!unaQ!RABBITaQ!iXaQ!lTaQ!SPOUTING WHALE!k9aQ!q4aQ!oFaQ!PIGaQ!FROGaQ!HAMSTERaQ!WOLF
aQ!BEARaQ!PANDAaQ!PIGpA!PAW PRINTS!CHIPMUNK!fM!k0!oI!pA!fQ!n7!apaAb5lGa3$aJb5lGa3$acb5lGa3$aab5lGa3!
FISTEDd2^!WAVINGd2^!OKd2^!THUMBSaA^$aJ^!CLAPPINGk7^!bvk7^!CROWN!yfni!EYEGLASSES!NECKTIE!T-SHIRT!
JEANS!DRESS!KIMONO!BIKINI!yfu6!PURSE!HANDBAG!POUCH!MANSnO!ATHLETICnO!HIGH-HEELEDnO!yfSANDAL$BOOTS!
FOOTPRINTS!BUSTcntZ!BUSTScntZ!BOY!GIRL!fP!mV!FAMILY!fP_mVo4k7!adlio4k7$WOMENo4k7!trOFFICER!mV:BUNNY
EARS!BRIDE:VEIL!hg:BLONDnh!fP:GUAc3MAO%TURBAN!OLDERfP$mV!oh!vaWORKER!PRINCESS!nlOGRE$GOBLIN!GHOST!oh
ANGEL!EXTRATERRESTRIAL ALIEN!ALIEN MONSTER!IMP!SKULL!nkDESKhg!GUARDSMAN!DANCER!LIPSTICK!NAILwZ!aQ
MASSAGE!HAIRCUT!BARBERrm!SYRINGE!PILL!KISSai!LOVE;!bd!GEM STONE!KISS!BOUQUET!COUPLE:eh!WEDDING!
BEATINGeh!opeh!adgO!SPARKLINGeh!GROWINGeh!eh:|!lIeh!l2eh!rUeh!w7eh!eh:tG!REVOLVINGgO!ehDECORATION!dg
SHAPE:Aajgb!sna7BULB!ANGERat!BOMB!xyat!COLLISIONat!SPLASHINGuhat!DROPLET!c0at!PILEaoPOO!FLEXED
BICEPS!DIZZYat!nTuR!xZuR!apqC!aLPOINTSat!MONEY BAG!qvEXCHANGE!axm6^!veqo!BANKNOTE:YEN^%m6^%EURO^%tu^
!MONEY:WINGS!r8:bnTREND_YEN^!SEAT!PERSONALu9!BRIEFCASE!MINIDISC!sxqx!OPTICAL DISC!DVD!oSnd!bvoSnd!lm
:fq$FACINGaA!u0!TEAR-OFFu0!qoa3!r8:bnTREND%bfTREND!aFr8!CLIPBOARD!w8!jlw8!PAPERCLIP!fdRULER!fFRULER!
BOOKMARK TABS!LEDGER!NOTEBOOK$:DECORATIVE COVER!dBom!bvom!l2om!lIom!pBom!BOOKS!q6BADGE!SCROLL!MEMO!
jqtE!PAGER!FAXwo!SATELLITE ANTENNA!PUBLIC ADDRESS LOUDSPEAKER!CHEERING MEGAPHONE!OUTBOX TRAY!INBOX
TRAY!PACKAGE!E-MAILat!INCOMINGkY!kY:bf|ab!dBMAILBOX:LOWEREDi5&eOi5!bvMAILBOX:eOi5&LOWEREDi5!POSTBOX!
ttdG!NEWSPAPER!s9PHONE%:aw|e2ac!VIBRATION MODE!s9PHONE OFF!das9PHONES!ANTENNA:BARS!u1$:FLASH!VIDEOu1
!TELEVISION!RADIO!VIDEOCASSETTE!FILM PROJECTOR!PORTABLE STEREO!PRAYER BEADS!TWISTEDawg2!ijaw_aHbvaT
g2+:craefl$bf_bnbvaTg2!glbf_bnbvaTg2!bkBRIGHTNESSat!bHBRIGHTNESSat!SPEAKER:r5as$$:aegXfH%akgXWAVES!
BATTERY!snPLUG!fWMAGNIFYINGoZ!e8MAGNIFYINGoZ!LOCK:INKpE!dBLOCK:ld!ld!LOCK!bvLOCK!ok$:r5as!BOOKMARK!
LINKat!RADIOoq!iS:aH|ab!du:aH|ab!b7:eJai:acaa|ab!SOON:aw|ab!c6:bn|ab!daaelzkXat!KEYCAPbA!INPUTatdlcz
?wl(<wl&NUMBERS&xU&czwl!jF!snTORCH!WRENCH!sG!NUT_BOLT!HOCHO!PISTOL!MICROSCOPE!TELESCOPE!CRYSTALiT!aB
dEci:ayaj!nlatdlBEGINNER!uyEMBLEM!amaRoq!apaRoq!bXiDaT$lIaT$pBdg$lIdg!<pBdg$lIdg!igiDbh!i0iDbh!ig<iD
bh!i0<iDbh!bgaaiGapaT!buaaiGapaT!crcPPOMMEE!cPPOMMEE:yRaf%!ljacry:akaU$aary:akaU!atdlMARKS CHAPTER!
apczcP!axczcP!CELTICcP!ixat!DOVEaoPEACE!KAABA!MOSQUE!SYNAGOGUE!MENORAH:aNBRANCHES!BOWLaoHYGIEIA!scaQ
aejg%adjg%akjg%aqjg%aujg%aBjg%aIjg%aCjg%aNjg%bAjg%i1jg%ifjg%ONE-THIRTY%TWO-THIRTY%THREE-THIRTY%
FOUR-THIRTY%FIVE-THIRTY%SIX-THIRTY%SEVEN-THIRTY%EIGHT-THIRTY%NINE-THIRTY%TEN-THIRTY%ELEVEN-THIRTY%
TWELVE-THIRTY!aaSPEAKER%:aegXfH&akgXWAVES!BULLHORN$:gXWAVES!RINGINGok!om!CANDLE!MANTELPIECEsc!am
SKULL_CROSSBONES!daPIRACY!HOLE!fPcnBUSINESSluLEVITATING!SLEUTHbwSPY!DARK SUNGLASSES!SPIDER$WEB!
JOYSTICK!fPDANCING!acd2jqtE!jqtE:lm!aad2jqtE!apTOUCHTONEjq!amTOUCHTONEjq!jqb7c6aoMODEM!CLAMSHELLs9
PHONE!iSaokY!STAMPEDkY!kY:s3!vIkY!pEaXSTAMPEDkY!LINKED PAPERCLIPS!amw8!bgactm%BALLPOINTpE%FOUNTAINpE
%PAINTBRUSH%CRAYON!acWRITINGd2!byOKd2^!eOd2:e6SPLAYED!bJeOd2:e6SPLAYED$THUMBSaA^%aJ^$VICTORYd2$d2:ay
lZlX!eOd2:PARTgLay_bde6!apaJb5acd2a3!lrapacb5a3%aab5a3$amacb5a3%aab5a3!amacb5lGa3$aab5lGa3!lrapaAb5
a3%aJb5a3$amaAb5a3%aJb5a3!amaAb5lGa3$aJb5lGa3$eh!DESKTOPu9!qR_nA!akNETWORKED COMPUTERS!PRINTER!
POCKET CALCULATOR!amklfbsxqx!apklfbsxqx!iafbsxqx!TAPE CARTRIDGE!WIREDqR!aeoqnA!adoqnA!akoqnA!
TRACKBALL!ctPERSONALu9!klqx!rx!PRINTER ICON!FAX ICON!OPTICAL DISC ICON!vw:kC&_wT%wT!FRAME:wT%TILES%
dMX!amnd!nd!bvnd!qoa3DIVIDERS$oSeA!oSCABINET!m7fY%lm%pC!fY$lm$pC!m7vw$lm$PAGES!vw!lm!PAGES!
WASTEBASKET!t5fYpC$u0pC!DESKTOP WINDOW!MINIMIZE!MAXIMIZE!wK!ijaa_acryg2!r5X!v1FONT SIZEat!DECREASE
FONT SIZEat!COMPRESSION!ctld!ROLLED-UP NEWSPAPER!lm:crkC!STOCKr8!oyqU!ns!SPEAKINGgacntZ!akpHab%af%ac
%aa!acnTkP!aanTkP!adnTuZ!aknTuZ!acxZkP!aaxZkP!acANGERkP!aaANGERkP!MOODkP!s3MOODkP%!m1eA:m1$e9X$eA:e9
X$efe9X$eA:efe9X!a7iYai!m1eA:efiY!WORLD MAP!MOUNT FUJI!TOKYO TOWER!STATUEaoLIBERTY!tZaoJAPAN!MOYAI!
vSaQ%:gWfM!aQ:TEARSaoJOY!gWaQ:bvfQ)_gWfM*COLDuh*zTfM&HALO&HORNS!WINKINGaQ!gWaQ:gWfM!aQSAVOURING
DELICIOUS FOOD!RELIEVEDaQ!gWaQ:ySfM&SUNGLASSES!SMIRKINGaQ!fxaQ!EXPRESSIONLESSaQ!UNAMUSEDaQ!aQ:COLDuh
!PENSIVEaQ!CONFUSEDaQ!CONFOUNDEDaQ!wbaQ!aQTHROWING A KISS!wbaQ:gWfM&dBfM!aQ:STUCK-OUTn7(_WINKINGk0)
zTfM!yFaQ!WORRIEDaQ!ANGRYaQ!w0aQ!vfaQ!PERSEVERINGaQ!aQ:LOOKaoTRIUMPH!yFj9RELIEVEDaQ!sAaQ:bvfQ!
ANGUISHEDaQ!FEARFULaQ!WEARYaQ!SLEEPYaQ!TIREDaQ!GRIMACINGaQ!LOUDLYvfaQ!aQ:bvfQ!HUSHEDaQ!aQ:bvfQ_COLD
uh$SCREAMINGcnFEAR!ASTONISHEDaQ!FLUSHEDaQ!xyaQ!DIZZYaQ!aQrTfQ$:MEDICAL MASK!vSiXaQ:gWfM!iXaQ:TEARSao
JOY!gWiXaQ:bvfQ(ySfM!iXaQ:WRY SMILE!wbiXaQ:dBfM!w0iXaQ!vfiXaQ!WEARYiXaQ!xzsAaQ$gWaQ!UPSIDE-DOWNaQ!aQ
:ROLLINGfM%daGOOD GESTURE%OK GESTURE!hgBOWING DEEPLY!SEE-NO-EVILq4!HEAR-NO-EVILq4!SPEAK-NO-EVILq4!
HAPPYhgRAISINGaed2!hgRAISING BOTHk7cnCELEBRATION$sA$:w0aQ%FOLDEDk7!cJcvb5fv!cZcvb5fv!cJb8b5fv!cZb8b5
fv!bycJcvb5fv$cZcvb5fv$cJb8b5fv$cZb8b5fv!cJcvb5lAfv!cZcvb5lAfv!cJb8b5lAfv!cZb8b5lAfv!axcJcvb5lAfv$cZ
cvb5lAfv$cJb8b5lAfv$cZb8b5lAfv!cJcvb5lJ!cZcvb5lJ!cJb8b5lJ!cZb8b5lJ!axcJcvb5lJ$cZcvb5lJ$cJb8b5lJ$cZb8
b5lJ!HOLLOW QUILTaRcA(cnamaR!SOLID QUILTaRcA(cnamaR!aHrq!bnrq!awrq!bfrq!e9dOincA!axe9dOincA!dObvincA
!axdObvincA$lEcA!pYlEcA!fnaxahbyccecaicA&ccecaicA%bkahccecaicA!axqMcA!fnqMcA!axfnqMcA!eyaxfc%fyfc!r9
qk!fyr9qk!rq!HELICOPTER!STEAM LOCOMOTIVE!tClK!HIGH-SPEED TRAIN%:hVpA!TRAIN!METRO!a7RAIL!STATION!TRAM
$lK!BUS!reBUS!TROLLEYBUS!BUSbQ!MINIBUS!AMBULANCE!jFENGINE!trlK!retrlK!TAXI!reTAXI!AUTOMOBILE!re
AUTOMOBILE!RECREATIONAL VEHICLE!DELIVERY TRUCK!ARTICULATED LORRY!TRACTOR!MONORAIL!mhtC!xStC!mh
CABLEWAY!AERIAL TRAMWAY!SHIP!ROWBOAT!SPEEDBOAT!a6rJa7!azrJa7!va^!trCARS REVOLVINGa7!fFi5b7POST!DOOR!
daENTRY^!SMOKINGat!daSMOKINGat!PUT LITTERcnITSnFat!fUcgLITTERat!POTABLEiMat!NON-POTABLEiMat!BICYCLE!
daBICYCLES!BICYCLIST!mhBICYCLIST!PEDESTRIAN!daPEDESTRIANS!CHILDRENd0!MENSat!WOMENSat!RESTROOM!ohat!
TOILET!iMCLOSET!SHOWER!BATH!BATHTUB!PASSPORTkU!CUSTOMS!BAGGAGE CLAIM!acLUGGAGE!bh:kvov!PROHIBITED^!
crnkxD!BOYSat!GIRLSat!COUCH_LAMP!xyACCOMMODATION!SHOPPING BAGS!BELLHOPok!BED!nFaoWORSHIP!OCTAGONAL^!
SHOPPING TROLLEY!STUPA!PAGODA!HINDU TEMPLE!HUT!ELEVATOR@1F6DD!PLAYGROUND SLIDE!uD!bdBUOY!sG_WRENCH!
xr!OILqy!MOTORWAY!tCTRACK!MOTOR BOAT!igwumY$mY$<mY!<mY!NORTHEAST-POINTINGmY!mYDEPARTURE$ARRIVING
@1F6F0!SATELLITE!rejFENGINE!DIESEL LOCOMOTIVE!PASSENGER SHIP!SCOOTER!MOTOR SCOOTER!CANOE!SLED!vI
SAUCER!SKATEBOARD!AUTO RICKSHAW!PICKUP TRUCK!ROLLER SKATE@1F700!ALCHEMICALatdlQUINTESSENCE&AIR&jF&h2
&iM&AQUAFORTIS&AQUA REGIA(REGIA-2(VITAE(VITAE-2&VINEGAR&VINEGAR-2&VINEGAR-3&xQ&PHILOSOPHERSxQ&amxQ&
MERCURYrC(SUBLIMATE-2(SUBLIMATE-3&CINNABAR&kw&NITRE&VITRIOL&VITRIOL-2&ROCKkw(SALT-2&GOLD&SILVER&IRON
nD(ORE-2&CROCUSaoIRON&REGULUSaoIRON&ounD&IRON-COPPERnD&rCaoou&CROCUSaoou)COPPER-2&ouyn&kwaoouyn&rCao
kwaoou&VERDIGRIS&TINnD&LEADnD&oenD&rCaooe&kwaooe&rCaokwaooe&VINEGARaooe&REGULUSaooe)ANTIMONY-2(&
REGULUS-2&REGULUS-3&REGULUS-4&ALKALI&ALKALI-2&MARCASITE&SAL-AMMONIAC&ARSENIC&REALGAR&REALGAR-2&
AURIPIGMENT&BISMUTHnD&TARTAR&TARTAR-2&QUICK LIME&BORAX&BORAX-2&BORAX-3&ALUM&OIL&xF&TINCTURE&GUM&WAX&
POWDER&CALX&TUTTY&CAPUT MORTUUM&SCEPTERaoJOVE&CADUCEUS&uy&STARREDuy&LODESTONE&SOAP&URINE&k9DUNG&
ASHES&POT ASHES&BRICK&POWDERED BRICK&AMALGAM&STRATUM SUPER STRATUM)STRATUM-2&SUBLIMATION&PRECIPITATE
&DISTILL&DISSOLVE&DISSOLVE-2&PURIFY&PUTREFACTION&CRUCIBLE&CRUCIBLE-2&CRUCIBLE-3&CRUCIBLE-4&
CRUCIBLE-5&ALEMBIC&BATHaoMARY)VAPOURS&RETORT&HOUR&te&DAY-NIGHT&MONTH&aKDRAM(OUNCE@1F780!amfWsQaabh$
igsQaabh$e8sQaabh$i0sQaabh$xz<aT!bmefapaT!efapaT!axapaT!eyaxapaT!oOaxapaT!apaTm4am<aT!jlxV!amrHaR$xz
<aR!a7apaR!bmapaR!efapaR!axapaR!eyaxapaR!oOaxapaR!apaRm4amey<aR(bmaR!aRxV!amrHdg$ey<dg$bm<dg!apdgm4
amey<dg(bmdg!dgxV!amrHit$ey<it$bm<it!apitm4am<it!umeUcP!a7eUcP!bmeUcP!efeUcP!eyefeUcP$axeUcP!oOaxeU
cP!umjO!a7jO!bmjO!efjO!axjO!eyaxjO!oOaxjO!a7augFcO!bmaugFcO!efaugFcO!axaugFcO!eyaxaugFcO!oOaxaugFcO!
a7aBgFcO!bmaBgFcO!efaBgFcO!axaBgFcO!eyaxaBgFcO!oOaxaBgFcO!a7aCgFcO!bmaCgFcO!efaCgFcO!axaCgFcO!eyaxaC
gFcO!a7akdEamci!bmakdEamci!akdEamci!bmakdEloci!a7aqdEamci!bmaqdEamci!aqdEamci!bmaqdEloci!fya7aqdElo
ci!a7audEamci!axaudEamci!bmaBdEamci!axaBdEamci!aBdEloci!bmaCdEamci!axaCdEamci!eyaxaCdEamci!axaCdElo
ci!a7ifdEamci!axifdEamci&loci!crbh!hdcrbh!craR!hdcraR@1F7E0!bXpBaT$rUaT$l2aT$w7aT$BROWNaT$iDaR$lIaR$
pBaR$rUaR$l2aR$w7aR$BROWNaR@1F7F0!axdC^@1F800!aH|:<bhbT!bn|:<bhbT!aw|:<bhbT!bf|:<bhbT!aH|:bmbhbT!bn|
:bmbhbT!aw|:bmbhbT!bf|:bmbhbT!aH|:bXbhbT!bn|:bXbhbT!aw|:bXbhbT!bf|:bXbhbT@1F810!aH|:<e5bT!bn|:<e5bT!
aw|:<e5bT!bf|:<e5bT!aH|:e5bT!bn|:e5bT!aw|:e5bT!bf|:e5bT!axaH|:e5bT$bn|:e5bT$aw|:e5bT$bf|:e5bT$aH|:bX
e5bT$bn|:bXe5bT$aw|:bXe5bT$bf|:bXe5bT!aHbR|:pwfB!bnbR|:pwfB!awbR|:pwfB!bfbR|:pwfB!aHbR|:bmfB!bnbR|:
bmfB!awbR|:bmfB!bfbR|:bmfB!aHbR|:effB!bnbR|:effB!awbR|:effB!bfbR|:effB!aHbR|:axfB!bnbR|:axfB!awbR|:
axfB!bfbR|:axfB!aHbR|:eyaxfB!bnbR|:eyaxfB!awbR|:eyaxfB!bfbR|:eyaxfB!aHsv|!bnsv|!awsv|!bfsv|!aHdF|!bn
dF|!awdF|!bfdF|!aHlN|!bnlN|!awlN|!bflN|!aHaxlN|!bnaxlN|!awaxlN|!bfaxlN|!aHax|!bnax|!awax|!bfax|
@1F850!aHfn|!bnfn|!awfn|!bffn|!cJcvfn|$b8fn|!cZb8fn|$cvfn|!acaafn|!aAaJfn|@1F860!z7aHa7bj|$bna7bj|$
awa7bj|$bfa7bj|$cJcva7bj|%b8a7bj|$cZb8a7bj|%cva7bj|$aHbj|$bnbj|$awbj|$bfbj|$cJcvbj|%b8bj|$cZb8bj|%cv
bj|$aHbmbj|$bnbmbj|$awbmbj|$bfbmbj|$cJcvbmbj|%b8bmbj|$cZb8bmbj|%cvbmbj|$aHaxbj|$bnaxbj|$awaxbj|$bfax
bj|$cJcvaxbj|%b8axbj|$cZb8axbj|%cvaxbj|$aHeyaxbj|$bneyaxbj|$aweyaxbj|$bfeyaxbj|$cJcveyaxbj|%b8eyaxbj
|$cZb8eyaxbj|%cveyaxbj|@1F890!aHbhbT!bnbhbT!awbhbT!bfbhbT!aHap|obbhbT!bnap|obbhbT!awap|obbhbT!bfap|
obbhbT!aH|:ljcq!bn|:ljcq!aw|:ljcq!bf|:ljcq!ax|fBrSae(adlx(aeaK)iK!aHBOTTOM-SHADEDap|!awdSxqap|!aHc6
xqap|!awc6xqap|!aHwkap|!awxgap|!aHxgap|!awwkap|!aHuOiGap|!awuOiGap|!aHvKiGap|!awvKiGap|!ap|fBrSae(ad
lx@1F8B0!|b5bnn4cJcv%awn4vhcZcv@1F900!crcPFORMEE:aqaU(adaU&!acaKaT:aqaU(akaU(adaU(aj&!DOWNWARD
FACINGar%ljar%ar:aj%ljar:aj!PINCHEDe6!apeh!BROWNeh!PINCHINGd2!ZIPPER-MOUTHaQ!MONEY-MOUTHaQ!aQ:zS!
NERDaQ!THINKINGaQ!aQ:HEAD-BANDAGE!ROBOTaQ!HUGGINGaQ!^aodrHORNS!CALLd9d2!eOiSaod2!s1FIST!tMFIST!
HANDSHAKE!d2:a3_aye6ik!I LOVE YOUd2^!aQ:COWBOYni!CLOWNaQ!NAUSEATEDaQ!ROLLINGb7drkjLAUGHING!DROOLING
aQ!LYINGaQ!aQrh!SNEEZINGaQ!aQ:aeEYEBROWeO!vSaQ:cifM&aebX_ae<k0!aQ:lZvddBns!SERIOUSaQ:xUvdfQ!gWaQ:gW
fM_d2vdfQ!aQ:bvfQVOMITING!SHOCKEDaQ:EXPLODINGga!PREGNANTmV!BREAST-FEEDING!PALMSaAur!SELFIE!PRINCE!fP
cnTUXEDO!MOTHERu4!SHRUG!hgDOING CARTWHEEL!JUGGLING!FENCER!MODERN PENTATHLON!WRESTLERS!iMPOLO!
HANDBALL!DIVING MASK!WILTEDqC!qy:DRUMSTICKS!CLINKING GLASSES!TUMBLERoZ!SPOON!sDNET!RIFLE!k3nFq3!nLnF
q3!iKnFq3!BOXING GLOVE!MARTIAL ARTS UNIFORM!CURLING STONE!LACROSSEud_iT!SOFTBALL!vIDISC!CROISSANT!
AVOCADO!CUCUMBER!BACON!POTATO!CARROT!BAGUETTE BREAD!l2SALAD!SHALLOW PANaoFOOD!STUFFED FLATBREAD!EGG!
oZaoMILK!PEANUTS!KIWIFRUIT!PANCAKES!DUMPLING!FORTUNE COOKIE!TAKEOUTeA!CHOPSTICKS!BOWL:SPOON!CUP:
STRAW!COCONUT!BROCCOLI!PIE!PRETZEL!CUTaoMEAT!SANDWICH!CANNED FOOD!LEAFYl2!MANGO!eMCAKE!BAGEL!gWaQ:gW
fM_akgO!YAWNINGaQ!gWaQ:TEAR!aQ:PARTYdG_PARTYni%UNEVENfM_kKfQ!OVERHEATEDaQ!FREEZINGaQ!NINJA!DISGUISED
aQ!aQo4iSTEARS$:PLEADINGfM!SARI!LAB COAT!GOGGLES!HIKING BOOT!oTnO!CRAB!LIONaQ!SCORPION!TURKEY!
UNICORNaQ!EAGLE!DUCK!BAT!SHARK!OWL!FOXaQ!BUTTERFLY!DEER!GORILLA!LIZARD!RHINOCEROS!SHRIMP!SQUID!
GIRAFFEaQ!ZEBRAaQ!HEDGEHOG!SAUROPOD!T-REX!CRICKET!KANGAROO!LLAMA!PEACOCK!HIPPOPOTAMUS!PARROT!RACCOON
!LOBSTER!MOSQUITO!MICROBE!BADGER!SWAN!MAMMOTH!DODO!SLOTH!OTTER!ORANGUTAN!SKUNK!FLAMINGO!OYSTER!
BEAVER!BISON!SEAL!GUIDEoF!PROBING CANE!EMOJI COMPONENTiDnh%eHnh%BALD%apnh!BONE!gS!FOOT!uu!SUPERHERO!
SUPERVILLAIN!xjVEST!oI:HEARING AID!MOTORIZEDye!MANUALye!MECHANICAL ARM$gS!CHEESE WEDGE!CUPCAKE!kw
SHAKER!BEVERAGEeA!GARLIC!ONION!FALAFEL!WAFFLE!BUTTER!MATE DRINK!l4CUBE!kPTEA!TROLL!STANDINGhg!
KNEELINGhg!DEAFhg!aQ:MONOCLE!ADULT!CHILD!OLDER ADULT!BEARDEDhg!hg:HEADSCARF$cnSTEAMY ROOM$CLIMBING$
cns4ts!MAGE!FAIRY!VAMPIRE!MERPERSON!ELF!GENIE!ZOMBIE!BRAIN!pBeh!BILLED CAP!SCARF!GLOVES!COAT!SOCKS!
iDGIFTkY!FIRECRACKER!JIGSAW PUZZLEmw!TEST TUBE!PETRIfj!DNAahHELIX!COMPASS!ABACUS!jFEXTINGUISHER!
TOOLBOX!BRICK!MAGNET!LUGGAGE!LOTIONr3!SPOOLaox0!iTaoYARN!xjPIN!TEDDY BEAR!BROOM!BASKET!ROLLaotj!aFao
SOAP!SPONGE!RECEIPT!NAZAR AMULET!fxdTgx%hh%jk%iU%et%jh!apdTetb9vJcx!amdTetb9vJcx!fxdTetb9vJcx!apdTgx
b9dpcx%hhb9dpcx%jkb9dpcx%iUb9dpcx%etb9dpcx%jhb9dpcx!amdTgxb9dpcx%hhb9dpcx%jkb9dpcx%iUb9dpcx%etb9dpcx
%jhb9dpcx!fxdTgxb9dpcx%hhb9dpcx%jkb9dpcx%iUb9dpcx%etb9dpcx%jhb9dpcx!apdTetb9aeaLxXcx!amdTetb9aeaLxX
cx!fxdTetb9aeaLxXcx!apdTbygx&hh&jk&iU&et&jh!amdTbygx&hh&jk&iU&et&jh!fxdTbygx&hh&jk&iU&et&jh!apdTetb9
adaLuAcx!amdTetb9adaLuAcx!fxdTetb9adaLuAcx!apdTgxb9adaLdHcx%hhb9adaLdHcx%jkb9adaLdHcx%iUb9adaLdHcx%
etb9adaLdHcx%jhb9adaLdHcx!amdTgxb9adaLdHcx%hhb9adaLdHcx%jkb9adaLdHcx%iUb9adaLdHcx%etb9adaLdHcx%jhb9
adaLdHcx!fxdTgxb9adaLdHcx%hhb9adaLdHcx%jkb9adaLdHcx%iUb9adaLdHcx%etb9adaLdHcx%jhb9adaLdHcx!apdTetb9
akaLjEcx!amdTetb9akaLjEcx!fxdTetb9akaLjEcx!apdToL!amdToL!fxdToL!apdToLb9dpcx!amdToLb9dpcx!fxdToLb9dp
cx!apdTy9%za%y8!amdTy9%za%y8@1FA60!XIANGQIiDGENERAL%MANDARIN%vz%k9%qp%CANNON%SOLDIER$amGENERAL%
MANDARIN%vz%k9%qp%CANNON%SOLDIER@1FA70!BALLET SHOES!ONE-PIECE SWIMSUIT!BRIEFS!xs!THONG SANDAL@1FA78!
DROPaoBLOOD!ADHESIVE BANDAGE!STETHOSCOPE!X-RAY!CRUTCH@1FA80!YO-YO!KITE!PARACHUTE!BOOMERANG!MAGIC
WAND!PINATA!NESTING DOLLS@1FA90!RINGED PLANET!CHAIR!RAZOR!AXE!DIYA LAMP!BANJO!wusK!ACCORDION!bzqy!
COIN!CARPENTRY SAW!SCREWDRIVER!LADDER!ar!MIRROR!WINDOW!PLUNGER!SEWING NEEDLE!KNOT!BUCKET!nATRAP!
TOOTHBRUSH!HEADSTONE!PLACARD!ROCK!MIRRORiT!yWqo!bkBATTERY!HAMSA@1FAB0!FLY!WORM!BEETLE!COCKROACH!
POTTED PLANT!WOOD!st!s4!CORAL!m7NEST!NEST:EGGS@1FAC0!ANATOMICALeh!LUNGS!PEOPLE HUGGING!PREGNANTfP$hg
!hg:CROWN@1FAD0!BLUEBERRIES!okPEPPER!OLIVE!FLATBREAD!TAMALE!FONDUE!TEAPOT!POURING LIQUID!BEANS!JAR
@1FAE0!MELTINGaQ!SALUTINGaQ!aQ:bvfM_d2aXfQ%PEEKINGk0%cTfQ!dnbMaQ!BITING LIP!uZ@1FAF0!d2:a3lZ_bCik!aw
d2!aHd2!rhaJd2$aAd2!a3b5e2drVIEWER!ehk7@1FB00!ceSEXTANT-1$SEXTANT-2$SEXTANT-12$SEXTANT-3$SEXTANT-13$
SEXTANT-23$SEXTANT-123$SEXTANT-4$SEXTANT-14$SEXTANT-24$SEXTANT-124$SEXTANT-34$SEXTANT-134$
SEXTANT-234$SEXTANT-1234$SEXTANT-5$SEXTANT-15$SEXTANT-25$SEXTANT-125$SEXTANT-35$SEXTANT-235$
SEXTANT-1235$SEXTANT-45$SEXTANT-145$SEXTANT-245$SEXTANT-1245$SEXTANT-345$SEXTANT-1345$SEXTANT-2345$
SEXTANT-12345$SEXTANT-6$SEXTANT-16$SEXTANT-26$SEXTANT-126$SEXTANT-36$SEXTANT-136$SEXTANT-236$
SEXTANT-1236$SEXTANT-46$SEXTANT-146$SEXTANT-1246$SEXTANT-346$SEXTANT-1346$SEXTANT-2346$SEXTANT-12346
$SEXTANT-56$SEXTANT-156$SEXTANT-256$SEXTANT-1256$SEXTANT-356$SEXTANT-1356$SEXTANT-2356$SEXTANT-12356
$SEXTANT-456$SEXTANT-1456$SEXTANT-2456$SEXTANT-12456$SEXTANT-3456$SEXTANT-13456$SEXTANT-23456!bgacce
cTbgayacalbgck.aa(buayacalbgck.aa)acalbgck$aacecTbuayacalbuck.aa(bgayacalbuck.aa)acalbuck)ayacalbuay
aa)ckalbgayaa)acalbgayaa)ckalbuayaa)acalbuayaa)ckalbuaa$accecTbuckalbuayaa)acalbuayaa)ckalbgayaa)ac
albgayaa)ckalbgaa)ayacalbgayaa!buaacecTbgayacalbgck.aa(buayacalbgck.aa)acalbgck$accecTbuayacalbuck.
aa(bgayacalbuck.aa)acalbuck)ayacalbuayaa)ckalbgayaa)acalbgayaa)ckalbuayaa)acalbuayaa)ckalbuaa$aacecT
buckalbuayaa)acalbuayaa)ckalbgayaa)acalbgayaa)ckalbgaa)ayacalbgayaa$_aa_bgfFakhJce!ac_bg_aafFakhJce!
bu_ac_bgfFakhJce!ac_bu_aafFakhJce$fFaedQce!bufFaedQce!aafFaedQce!bgfFaedQce!azaeeBBLOCK-2&BLOCK-3&
BLOCK-4&BLOCK-5&BLOCK-6&BLOCK-7!a6aeeBBLOCK-2&BLOCK-3&BLOCK-4&BLOCK-5&BLOCK-6&BLOCK-7!ac_bgaeeBce%bu
aeeBce!aa_buaeeBce%bgaeeBce!bu_bgaeeBce!a6aeeBBLOCK-1358!buaedQce$akhwce$auhwce$akhJce$aIhwce!aaaedQ
ce$akhwce$auhwce$akhJce$aIhwce!acaKbmhM!aaaKbmhM!buaKbmhM!bgaKbmhM!kmbmhM!buaKce_bgaKkmbmhM%kmbmhM_
bgaKce@1FB94!acaKkmbmhM_aaaKce!r9qkh3!kmr9qkh3!axa6h3!buacalbgaah3$aaalbgach3$_bgfFaKce!ac_aafFaKce!
buacfFbmhM$aafFbmhM!bgaafFbmhM$acfFbmhM!eADRAWINGSa7cTbuckalayac,aa(ayacalbgck)aaalbgck(buckalayacal
bgck,aaalbgck(ayacalbgckalayaa+buckalayaa(buckalayac_ayaaalbgck,aa_ayacalbgck.albgckalayac,acalbgck
alayaa(ayacalbuckalayaaalbgck)aaalbuckalayacalbgck(dg&a6:azas!ARROWHEAD-SHAPEDrl!kmiYai!acaKxifP!aa
aKxifP!kmbf|:idaH!aH|_bu_bgaeeBce!aw|_bu_bgaeeBce!bf|_aaaeeBce!bn|_aaaeeBce!acaKnd!aaaKnd!VOIDEDeUcP
!aabvdFaj!hdcTcP%ayaaalbgck%dg!apaxjO:kvov!aciKapaab5a3!ayiKapaab5a3!aaiKapaab5a3!hddFemai!udsu%:
ARMSeO%LEANINGac&aa%:DRESS!apigCHEVRON@1FBF0!SEGMENTEDbcbr%ae%ad%ak%aq%au%aB%aI%aC%aN@E0001!LANGUAGE
TAG@E0020!TAGfD$eJai$ecai$b6^$m6^$rk^$lE$kN$acc2$aac2$cO$aG^$cc$sM$cBbQ$fc$bcbr%ae%ad%ak%aq%au%aB%
aI%aC%aN$dU$jn$cf^$dC^$ch^$emai$qte2$cz?;A(B(C(D(E(F(G(H(I(J(K(L(M(N(O(P(Q(R(S(T(U(V(W(X(Y(Z$acaRaO$
fyfc$aaaRaO$bBdj$bkbM$bYdj$cz<;A(B(C(D(E(F(G(H(I(J(K(L(M(N(O(P(Q(R(S(T(U(V(W(X(Y(Z$aceHaO$azbM$aaeH
aO$bb!r4TAG@E0100!rPSELECTOR-17$SELECTOR-18$SELECTOR-19$SELECTOR-20$SELECTOR-21$SELECTOR-22$
SELECTOR-23$SELECTOR-24$SELECTOR-25$SELECTOR-26$SELECTOR-27$SELECTOR-28$SELECTOR-29$SELECTOR-30$
SELECTOR-31$SELECTOR-32$SELECTOR-33$SELECTOR-34$SELECTOR-35$SELECTOR-36$SELECTOR-37$SELECTOR-38$
SELECTOR-39$SELECTOR-40$SELECTOR-41$SELECTOR-42$SELECTOR-43$SELECTOR-44$SELECTOR-45$SELECTOR-46$
SELECTOR-47$SELECTOR-48$SELECTOR-49$SELECTOR-50$SELECTOR-51$SELECTOR-52$SELECTOR-53$SELECTOR-54$
SELECTOR-55$SELECTOR-56$SELECTOR-57$SELECTOR-58$SELECTOR-59$SELECTOR-60$SELECTOR-61$SELECTOR-62$
SELECTOR-63$SELECTOR-64$SELECTOR-65$SELECTOR-66$SELECTOR-67$SELECTOR-68$SELECTOR-69$SELECTOR-70$
SELECTOR-71$SELECTOR-72$SELECTOR-73$SELECTOR-74$SELECTOR-75$SELECTOR-76$SELECTOR-77$SELECTOR-78$
SELECTOR-79$SELECTOR-80$SELECTOR-81$SELECTOR-82$SELECTOR-83$SELECTOR-84$SELECTOR-85$SELECTOR-86$
SELECTOR-87$SELECTOR-88$SELECTOR-89$SELECTOR-90$SELECTOR-91$SELECTOR-92$SELECTOR-93$SELECTOR-94$
SELECTOR-95$SELECTOR-96$SELECTOR-97$SELECTOR-98$SELECTOR-99$SELECTOR-100$SELECTOR-101$SELECTOR-102$
SELECTOR-103$SELECTOR-104$SELECTOR-105$SELECTOR-106$SELECTOR-107$SELECTOR-108$SELECTOR-109$
SELECTOR-110$SELECTOR-111$SELECTOR-112$SELECTOR-113$SELECTOR-114$SELECTOR-115$SELECTOR-116$
SELECTOR-117$SELECTOR-118$SELECTOR-119$SELECTOR-120$SELECTOR-121$SELECTOR-122$SELECTOR-123$
SELECTOR-124$SELECTOR-125$SELECTOR-126$SELECTOR-127$SELECTOR-128$SELECTOR-129$SELECTOR-130$
SELECTOR-131$SELECTOR-132$SELECTOR-133$SELECTOR-134$SELECTOR-135$SELECTOR-136$SELECTOR-137$
SELECTOR-138$SELECTOR-139$SELECTOR-140$SELECTOR-141$SELECTOR-142$SELECTOR-143$SELECTOR-144$
SELECTOR-145$SELECTOR-146$SELECTOR-147$SELECTOR-148$SELECTOR-149$SELECTOR-150$SELECTOR-151$
SELECTOR-152$SELECTOR-153$SELECTOR-154$SELECTOR-155$SELECTOR-156$SELECTOR-157$SELECTOR-158$
SELECTOR-159$SELECTOR-160$SELECTOR-161$SELECTOR-162$SELECTOR-163$SELECTOR-164$SELECTOR-165$
SELECTOR-166$SELECTOR-167$SELECTOR-168$SELECTOR-169$SELECTOR-170$SELECTOR-171$SELECTOR-172$
SELECTOR-173$SELECTOR-174$SELECTOR-175$SELECTOR-176$SELECTOR-177$SELECTOR-178$SELECTOR-179$
SELECTOR-180$SELECTOR-181$SELECTOR-182$SELECTOR-183$SELECTOR-184$SELECTOR-185$SELECTOR-186$
SELECTOR-187$SELECTOR-188$SELECTOR-189$SELECTOR-190$SELECTOR-191$SELECTOR-192$SELECTOR-193$
SELECTOR-194$SELECTOR-195$SELECTOR-196$SELECTOR-197$SELECTOR-198$SELECTOR-199$SELECTOR-200$
SELECTOR-201$SELECTOR-202$SELECTOR-203$SELECTOR-204$SELECTOR-205$SELECTOR-206$SELECTOR-207$
SELECTOR-208$SELECTOR-209$SELECTOR-210$SELECTOR-211$SELECTOR-212$SELECTOR-213$SELECTOR-214$
SELECTOR-215$SELECTOR-216$SELECTOR-217$SELECTOR-218$SELECTOR-219$SELECTOR-220$SELECTOR-221$
SELECTOR-222$SELECTOR-223$SELECTOR-224$SELECTOR-225$SELECTOR-226$SELECTOR-227$SELECTOR-228$
SELECTOR-229$SELECTOR-230$SELECTOR-231$SELECTOR-232$SELECTOR-233$SELECTOR-234$SELECTOR-235$
SELECTOR-236$SELECTOR-237$SELECTOR-238$SELECTOR-239$SELECTOR-240$SELECTOR-241$SELECTOR-242$
SELECTOR-243$SELECTOR-244$SELECTOR-245$SELECTOR-246$SELECTOR-247$SELECTOR-248$SELECTOR-249$
SELECTOR-250$SELECTOR-251$SELECTOR-252$SELECTOR-253$SELECTOR-254$SELECTOR-255$SELECTOR-256@0!NULL@0!
NUL!lsaoHEADING@1!SOH!lsaokC@2!STX!duaokC@3!ETX!duaouw@4!EOT!ENQUIRY@5!ENQ!rV@6!ACK!ALERT@7!BEL!
BACKSPACE@8!BS!g4jo@9!a6jo@9!HT@9!lv!bMoQ@A!pybM@A!duaobM@A!EOL@A!LF@A!NL!bMjo@B!azjo@B!VT!>oQ@C!FF!
CARRIAGEro@D!CR!rBhe@E!zbae@E!eY!rBcn@F!zbbr@F!fo!DATA LINKsp@10!DLE!oAkUae@11!DC1!oAkUad@12!DC2!oA
kUak@13!DC3!oAkUaq@14!DC4!hdrV@15!NAK!zQIDLE@16!SYN!duaouwce@17!ETB!r4@18!hu!duaobm@19!EOM!xP@1A!SUB
!sp@1B!ESC!nkdXaq@1C!oSdX@1C!FS!nkdXak@1D!GROUPdX@1D!GS!nkdXad@1E!w9dX@1E!RS!nkdXae@1F!rNdX@1F!US!SP
@7F!vm@7F!DEL!PADDINGg4@80!pC!bHOCTET PRESET@81!HOP!BREAK PERMITTED HERE@82!BPH!daBREAK HERE@83!NBH!
a3@84!IND!NEXTbM@85!NEL!lsaoSELECTEDof@86!db!duaoSELECTEDof@87!ESA!g4jojP@88!a6jojP@88!HTS!g4jo:y3
@89!a6jo:y3@89!HTJ!bMjojP@8A!azjojP@8A!VTS!mubMgr@8B%aJ@8B!PLD!mubMBACKWARD@8C%aA@8C!PLU!fybMoQ@8D$
a3@8D!gU!bPrBad@8E!SINGLE-SHIFT-2@8E!SS2!bPrBak@8F!SINGLE-SHIFT-3@8F!SS3!oAkUxN@90!DCS!w6USEae@91$
USE-1@91!PU1!w6USEad@92$USE-2@92!PU2!jPTRANSMIT STATE@93!STS!r4g4@94!CCH!MESSAGEyd@95!MW!lsaoGUARDED
of@96%PROTECTEDof@96!SPA!duaoGUARDEDof@97%PROTECTEDof@97!EPA!lsaoxN@98!SOS!bPGRAPHICg4v3@99!SGC!bPg4
v3@9A!SCI!kUSEQUENCEv3@9B!CSI!xNTERMINATOR@9C!ST!OPERATING SYSTEM COMMAND@9D!OSC!PRIVACY MESSAGE@9E!
PM!ypPROGRAM COMMAND@9F!APC!NBSP@AD!SHY@1A2!cz?;cH$<;cH@34F!CGJ@61C!ALM@709!rDuedUt2ac@CDE!KANNADA;
nt@E9D!LAO;i6FON@E9F&FAY@EA3%eF@EA5%fX@FD0!x2aiBKA- SHOGfuh6RGYAN@11EC!kkv6YESIEUNG-KIYEOK%
YESIEUNG-SSANGKIYEOK%SSANGYESIEUNG%YESIEUNG-KHIEUKH@180B!FVS1!FVS2!FVS3!MVS!FVS4@200B!ZWSP!ZWNJ!ZWJ!
LRM!RLM@202A!LRE!RLE!PDF!LRO!RLO!NNBSP@205F!MMSP!WJ@2066!LRI!RLI!FSI!PDI@2118!WEIERSTRASS ELLIPTICvL
@2448!MICRb7USat$c0at@2B7A!aHbR|:ahazas@2B7C!awbR|:ahazas@A015!engYknai@AA6E!tb;pieu@FE18!tw>dlazaa
aplfaO@FEFF!BYTE ORDERai@FEFF!BOM@FEFF!ZWNBSP@122D4!CUNEIFORM^NU11c5&aXNU11j8aXj8@16E56!zd?;H&ge
@16E76$<;H&ge@1B001!HENTAIGANA;E-1@1D0C5!BYZANTINEiwatoUt3sbVASIS"

end Bundler.Text.CharacterName
