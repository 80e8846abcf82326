/-!
The names of characters: signs, symbols and the letters of some scripts. A row holds the names of
characters that follow each other, with commas between them; all of them open alike.
-/

set_option autoImplicit false

namespace PagePress.Text.CharacterName

/-- The first character of a row, how the names open, and how they go on, in several pieces. -/
structure Row where
  first : Nat
  opening : String
  names : List String
  deriving DecidableEq, Repr

def rows : List Row := [
  ⟨0x0, "", ["NULL"]⟩,
  ⟨0x7, "", [
    "ALERT,BACKSPACE,CHARACTER TABULATION,LINE FEED,LINE TABULATION,FORM FEED,CARRIAGE RETURN"]⟩,
  ⟨0x9, "", ["HORIZONTAL TABULATION,NEW LINE"]⟩,
  ⟨0x1b, "", ["ESCAPE"]⟩,
  ⟨0x20, "", [
    "SPACE,EXCLAMATION MARK,QUOTATION MARK,NUMBER SIGN,DOLLAR SIGN,PERCENT SIGN,AMPERSAND",
    "APOSTROPHE,LEFT PARENTHESIS,RIGHT PARENTHESIS,ASTERISK,PLUS SIGN,COMMA,HYPHEN-MINUS",
    "FULL STOP,SOLIDUS,DIGIT ZERO,DIGIT ONE,DIGIT TWO,DIGIT THREE,DIGIT FOUR,DIGIT FIVE",
    "DIGIT SIX,DIGIT SEVEN,DIGIT EIGHT,DIGIT NINE,COLON,SEMICOLON,LESS-THAN SIGN,EQUALS SIGN",
    "GREATER-THAN SIGN,QUESTION MARK,COMMERCIAL AT"]⟩,
  ⟨0x41, "LATIN CAPITAL LETTER ", ["A,B,C,D,E,F,G,H,I,J,K,L,M,N,O,P,Q,R,S,T,U,V,W,X,Y,Z"]⟩,
  ⟨0x5b, "", [
    "LEFT SQUARE BRACKET,REVERSE SOLIDUS,RIGHT SQUARE BRACKET,CIRCUMFLEX ACCENT,LOW LINE",
    "GRAVE ACCENT"]⟩,
  ⟨0x61, "LATIN SMALL LETTER ", ["A,B,C,D,E,F,G,H,I,J,K,L,M,N,O,P,Q,R,S,T,U,V,W,X,Y,Z"]⟩,
  ⟨0x7b, "", ["LEFT CURLY BRACKET,VERTICAL LINE,RIGHT CURLY BRACKET,TILDE,DELETE"]⟩,
  ⟨0x85, "", ["NEXT LINE"]⟩,
  ⟨0xa0, "", [
    "NO-BREAK SPACE,INVERTED EXCLAMATION MARK,CENT SIGN,POUND SIGN,CURRENCY SIGN,YEN SIGN",
    "BROKEN BAR,SECTION SIGN,DIAERESIS,COPYRIGHT SIGN,FEMININE ORDINAL INDICATOR",
    "LEFT-POINTING DOUBLE ANGLE QUOTATION MARK,NOT SIGN,SOFT HYPHEN,REGISTERED SIGN,MACRON",
    "DEGREE SIGN,PLUS-MINUS SIGN,SUPERSCRIPT TWO,SUPERSCRIPT THREE,ACUTE ACCENT,MICRO SIGN",
    "PILCROW SIGN,MIDDLE DOT,CEDILLA,SUPERSCRIPT ONE,MASCULINE ORDINAL INDICATOR",
    "RIGHT-POINTING DOUBLE ANGLE QUOTATION MARK,VULGAR FRACTION ONE QUARTER",
    "VULGAR FRACTION ONE HALF,VULGAR FRACTION THREE QUARTERS,INVERTED QUESTION MARK"]⟩,
  ⟨0xc6, "", ["LATIN CAPITAL LETTER AE"]⟩,
  ⟨0xd0, "", ["LATIN CAPITAL LETTER ETH"]⟩,
  ⟨0xd7, "", ["MULTIPLICATION SIGN,LATIN CAPITAL LETTER O WITH STROKE"]⟩,
  ⟨0xde, "", ["LATIN CAPITAL LETTER THORN,LATIN SMALL LETTER SHARP S"]⟩,
  ⟨0xe6, "", ["LATIN SMALL LETTER AE"]⟩,
  ⟨0xf0, "", ["LATIN SMALL LETTER ETH"]⟩,
  ⟨0xf7, "", ["DIVISION SIGN,LATIN SMALL LETTER O WITH STROKE"]⟩,
  ⟨0xfe, "", ["LATIN SMALL LETTER THORN"]⟩,
  ⟨0x110, "", ["LATIN CAPITAL LETTER D WITH STROKE,LATIN SMALL LETTER D WITH STROKE"]⟩,
  ⟨0x126, "", ["LATIN CAPITAL LETTER H WITH STROKE,LATIN SMALL LETTER H WITH STROKE"]⟩,
  ⟨0x131, "", ["LATIN SMALL LETTER DOTLESS I"]⟩,
  ⟨0x141, "", ["LATIN CAPITAL LETTER L WITH STROKE,LATIN SMALL LETTER L WITH STROKE"]⟩,
  ⟨0x14a, "", ["LATIN CAPITAL LETTER ENG,LATIN SMALL LETTER ENG"]⟩,
  ⟨0x152, "", ["LATIN CAPITAL LIGATURE OE,LATIN SMALL LIGATURE OE"]⟩,
  ⟨0x17f, "", ["LATIN SMALL LETTER LONG S"]⟩,
  ⟨0x192, "", ["LATIN SMALL LETTER F WITH HOOK"]⟩,
  ⟨0x300, "COMBINING ", [
    "GRAVE ACCENT,ACUTE ACCENT,CIRCUMFLEX ACCENT,TILDE,MACRON,OVERLINE,BREVE,DOT ABOVE",
    "DIAERESIS,HOOK ABOVE,RING ABOVE,DOUBLE ACUTE ACCENT,CARON,VERTICAL LINE ABOVE",
    "DOUBLE VERTICAL LINE ABOVE,DOUBLE GRAVE ACCENT,CANDRABINDU,INVERTED BREVE",
    "TURNED COMMA ABOVE,COMMA ABOVE,REVERSED COMMA ABOVE,COMMA ABOVE RIGHT,GRAVE ACCENT BELOW",
    "ACUTE ACCENT BELOW,LEFT TACK BELOW,RIGHT TACK BELOW,LEFT ANGLE ABOVE,HORN",
    "LEFT HALF RING BELOW,UP TACK BELOW,DOWN TACK BELOW,PLUS SIGN BELOW,MINUS SIGN BELOW",
    "PALATALIZED HOOK BELOW,RETROFLEX HOOK BELOW,DOT BELOW,DIAERESIS BELOW,RING BELOW",
    "COMMA BELOW,CEDILLA,OGONEK,VERTICAL LINE BELOW,BRIDGE BELOW,INVERTED DOUBLE ARCH BELOW",
    "CARON BELOW,CIRCUMFLEX ACCENT BELOW,BREVE BELOW,INVERTED BREVE BELOW,TILDE BELOW",
    "MACRON BELOW,LOW LINE,DOUBLE LOW LINE,TILDE OVERLAY,SHORT STROKE OVERLAY",
    "LONG STROKE OVERLAY,SHORT SOLIDUS OVERLAY,LONG SOLIDUS OVERLAY,RIGHT HALF RING BELOW",
    "INVERTED BRIDGE BELOW,SQUARE BELOW,SEAGULL BELOW,X ABOVE,VERTICAL TILDE,DOUBLE OVERLINE",
    "GRAVE TONE MARK,ACUTE TONE MARK,GREEK PERISPOMENI,GREEK KORONIS,GREEK DIALYTIKA TONOS",
    "GREEK YPOGEGRAMMENI"]⟩,
  ⟨0x391, "GREEK CAPITAL LETTER ", [
    "ALPHA,BETA,GAMMA,DELTA,EPSILON,ZETA,ETA,THETA,IOTA,KAPPA,LAMDA,MU,NU,XI,OMICRON,PI,RHO"]⟩,
  ⟨0x3a3, "GREEK CAPITAL LETTER ", ["SIGMA,TAU,UPSILON,PHI,CHI,PSI,OMEGA"]⟩,
  ⟨0x3b1, "GREEK SMALL LETTER ", [
    "ALPHA,BETA,GAMMA,DELTA,EPSILON,ZETA,ETA,THETA,IOTA,KAPPA,LAMDA,MU,NU,XI,OMICRON,PI,RHO",
    "FINAL SIGMA,SIGMA,TAU,UPSILON,PHI,CHI,PSI,OMEGA"]⟩,
  ⟨0x401, "CYRILLIC CAPITAL LETTER ", [
    "IO,DJE,GJE,UKRAINIAN IE,DZE,BYELORUSSIAN-UKRAINIAN I,YI,JE,LJE,NJE,TSHE,KJE,I WITH GRAVE",
    "SHORT U,DZHE,A,BE,VE,GHE,DE,IE,ZHE,ZE,I,SHORT I,KA,EL,EM,EN,O,PE,ER,ES,TE,U,EF,HA,TSE,CHE",
    "SHA,SHCHA,HARD SIGN,YERU,SOFT SIGN,E,YU,YA"]⟩,
  ⟨0x430, "CYRILLIC SMALL LETTER ", [
    "A,BE,VE,GHE,DE,IE,ZHE,ZE,I,SHORT I,KA,EL,EM,EN,O,PE,ER,ES,TE,U,EF,HA,TSE,CHE,SHA,SHCHA",
    "HARD SIGN,YERU,SOFT SIGN,E,YU,YA,IE WITH GRAVE,IO,DJE,GJE,UKRAINIAN IE,DZE",
    "BYELORUSSIAN-UKRAINIAN I,YI,JE,LJE,NJE,TSHE,KJE,I WITH GRAVE,SHORT U,DZHE"]⟩,
  ⟨0x5d0, "HEBREW LETTER ", [
    "ALEF,BET,GIMEL,DALET,HE,VAV,ZAYIN,HET,TET,YOD,FINAL KAF,KAF,LAMED,FINAL MEM,MEM,FINAL NUN",
    "NUN,SAMEKH,AYIN,FINAL PE,PE,FINAL TSADI,TSADI,QOF,RESH,SHIN,TAV"]⟩,
  ⟨0x2000, "", [
    "EN QUAD,EM QUAD,EN SPACE,EM SPACE,THREE-PER-EM SPACE,FOUR-PER-EM SPACE,SIX-PER-EM SPACE",
    "FIGURE SPACE,PUNCTUATION SPACE,THIN SPACE,HAIR SPACE,ZERO WIDTH SPACE",
    "ZERO WIDTH NON-JOINER,ZERO WIDTH JOINER,LEFT-TO-RIGHT MARK,RIGHT-TO-LEFT MARK,HYPHEN",
    "NON-BREAKING HYPHEN,FIGURE DASH,EN DASH,EM DASH,HORIZONTAL BAR,DOUBLE VERTICAL LINE",
    "DOUBLE LOW LINE,LEFT SINGLE QUOTATION MARK,RIGHT SINGLE QUOTATION MARK",
    "SINGLE LOW-9 QUOTATION MARK,SINGLE HIGH-REVERSED-9 QUOTATION MARK",
    "LEFT DOUBLE QUOTATION MARK,RIGHT DOUBLE QUOTATION MARK,DOUBLE LOW-9 QUOTATION MARK",
    "DOUBLE HIGH-REVERSED-9 QUOTATION MARK,DAGGER,DOUBLE DAGGER,BULLET,TRIANGULAR BULLET",
    "ONE DOT LEADER,TWO DOT LEADER,HORIZONTAL ELLIPSIS,HYPHENATION POINT,LINE SEPARATOR",
    "PARAGRAPH SEPARATOR,LEFT-TO-RIGHT EMBEDDING,RIGHT-TO-LEFT EMBEDDING",
    "POP DIRECTIONAL FORMATTING,LEFT-TO-RIGHT OVERRIDE,RIGHT-TO-LEFT OVERRIDE",
    "NARROW NO-BREAK SPACE,PER MILLE SIGN,PER TEN THOUSAND SIGN,PRIME,DOUBLE PRIME,TRIPLE PRIME",
    "REVERSED PRIME,REVERSED DOUBLE PRIME,REVERSED TRIPLE PRIME,CARET",
    "SINGLE LEFT-POINTING ANGLE QUOTATION MARK,SINGLE RIGHT-POINTING ANGLE QUOTATION MARK",
    "REFERENCE MARK,DOUBLE EXCLAMATION MARK,INTERROBANG,OVERLINE,UNDERTIE,CHARACTER TIE",
    "CARET INSERTION POINT,ASTERISM,HYPHEN BULLET,FRACTION SLASH,LEFT SQUARE BRACKET WITH QUILL",
    "RIGHT SQUARE BRACKET WITH QUILL,DOUBLE QUESTION MARK,QUESTION EXCLAMATION MARK",
    "EXCLAMATION QUESTION MARK,TIRONIAN SIGN ET,REVERSED PILCROW SIGN,BLACK LEFTWARDS BULLET",
    "BLACK RIGHTWARDS BULLET,LOW ASTERISK,REVERSED SEMICOLON,CLOSE UP",
    "TWO ASTERISKS ALIGNED VERTICALLY,COMMERCIAL MINUS SIGN,SWUNG DASH,INVERTED UNDERTIE",
    "FLOWER PUNCTUATION MARK,THREE DOT PUNCTUATION,QUADRUPLE PRIME,FOUR DOT PUNCTUATION",
    "FIVE DOT PUNCTUATION,TWO DOT PUNCTUATION,FOUR DOT MARK,DOTTED CROSS,TRICOLON",
    "VERTICAL FOUR DOTS,MEDIUM MATHEMATICAL SPACE,WORD JOINER,FUNCTION APPLICATION",
    "INVISIBLE TIMES,INVISIBLE SEPARATOR,INVISIBLE PLUS"]⟩,
  ⟨0x2066, "", [
    "LEFT-TO-RIGHT ISOLATE,RIGHT-TO-LEFT ISOLATE,FIRST STRONG ISOLATE,POP DIRECTIONAL ISOLATE",
    "INHIBIT SYMMETRIC SWAPPING,ACTIVATE SYMMETRIC SWAPPING,INHIBIT ARABIC FORM SHAPING",
    "ACTIVATE ARABIC FORM SHAPING,NATIONAL DIGIT SHAPES,NOMINAL DIGIT SHAPES,SUPERSCRIPT ZERO",
    "SUPERSCRIPT LATIN SMALL LETTER I"]⟩,
  ⟨0x2074, "", [
    "SUPERSCRIPT FOUR,SUPERSCRIPT FIVE,SUPERSCRIPT SIX,SUPERSCRIPT SEVEN,SUPERSCRIPT EIGHT",
    "SUPERSCRIPT NINE,SUPERSCRIPT PLUS SIGN,SUPERSCRIPT MINUS,SUPERSCRIPT EQUALS SIGN",
    "SUPERSCRIPT LEFT PARENTHESIS,SUPERSCRIPT RIGHT PARENTHESIS",
    "SUPERSCRIPT LATIN SMALL LETTER N,SUBSCRIPT ZERO,SUBSCRIPT ONE,SUBSCRIPT TWO",
    "SUBSCRIPT THREE,SUBSCRIPT FOUR,SUBSCRIPT FIVE,SUBSCRIPT SIX,SUBSCRIPT SEVEN",
    "SUBSCRIPT EIGHT,SUBSCRIPT NINE,SUBSCRIPT PLUS SIGN,SUBSCRIPT MINUS,SUBSCRIPT EQUALS SIGN",
    "SUBSCRIPT LEFT PARENTHESIS,SUBSCRIPT RIGHT PARENTHESIS"]⟩,
  ⟨0x20a0, "", [
    "EURO-CURRENCY SIGN,COLON SIGN,CRUZEIRO SIGN,FRENCH FRANC SIGN,LIRA SIGN,MILL SIGN",
    "NAIRA SIGN,PESETA SIGN,RUPEE SIGN,WON SIGN,NEW SHEQEL SIGN,DONG SIGN,EURO SIGN,KIP SIGN",
    "TUGRIK SIGN,DRACHMA SIGN,GERMAN PENNY SIGN,PESO SIGN,GUARANI SIGN,AUSTRAL SIGN",
    "HRYVNIA SIGN,CEDI SIGN,LIVRE TOURNOIS SIGN,SPESMILO SIGN,TENGE SIGN,INDIAN RUPEE SIGN",
    "TURKISH LIRA SIGN,NORDIC MARK SIGN,MANAT SIGN,RUBLE SIGN,LARI SIGN,BITCOIN SIGN,SOM SIGN"]⟩,
  ⟨0x2100, "", [
    "ACCOUNT OF,ADDRESSED TO THE SUBJECT,DOUBLE-STRUCK CAPITAL C,DEGREE CELSIUS",
    "CENTRE LINE SYMBOL,CARE OF,CADA UNA,EULER CONSTANT,SCRUPLE,DEGREE FAHRENHEIT",
    "SCRIPT SMALL G,SCRIPT CAPITAL H,BLACK-LETTER CAPITAL H,DOUBLE-STRUCK CAPITAL H",
    "PLANCK CONSTANT,PLANCK CONSTANT OVER TWO PI,SCRIPT CAPITAL I,BLACK-LETTER CAPITAL I",
    "SCRIPT CAPITAL L,SCRIPT SMALL L,L B BAR SYMBOL,DOUBLE-STRUCK CAPITAL N,NUMERO SIGN",
    "SOUND RECORDING COPYRIGHT,SCRIPT CAPITAL P,DOUBLE-STRUCK CAPITAL P,DOUBLE-STRUCK CAPITAL Q",
    "SCRIPT CAPITAL R,BLACK-LETTER CAPITAL R,DOUBLE-STRUCK CAPITAL R,PRESCRIPTION TAKE,RESPONSE",
    "SERVICE MARK,TELEPHONE SIGN,TRADE MARK SIGN,VERSICLE,DOUBLE-STRUCK CAPITAL Z,OUNCE SIGN",
    "OHM SIGN,INVERTED OHM SIGN,BLACK-LETTER CAPITAL Z,TURNED GREEK SMALL LETTER IOTA",
    "KELVIN SIGN,ANGSTROM SIGN,SCRIPT CAPITAL B,BLACK-LETTER CAPITAL C,ESTIMATED SYMBOL",
    "SCRIPT SMALL E,SCRIPT CAPITAL E,SCRIPT CAPITAL F,TURNED CAPITAL F,SCRIPT CAPITAL M",
    "SCRIPT SMALL O,ALEF SYMBOL,BET SYMBOL,GIMEL SYMBOL,DALET SYMBOL,INFORMATION SOURCE",
    "ROTATED CAPITAL Q,FACSIMILE SIGN,DOUBLE-STRUCK SMALL PI,DOUBLE-STRUCK SMALL GAMMA",
    "DOUBLE-STRUCK CAPITAL GAMMA,DOUBLE-STRUCK CAPITAL PI,DOUBLE-STRUCK N-ARY SUMMATION",
    "TURNED SANS-SERIF CAPITAL G,TURNED SANS-SERIF CAPITAL L,REVERSED SANS-SERIF CAPITAL L",
    "TURNED SANS-SERIF CAPITAL Y,DOUBLE-STRUCK ITALIC CAPITAL D,DOUBLE-STRUCK ITALIC SMALL D",
    "DOUBLE-STRUCK ITALIC SMALL E,DOUBLE-STRUCK ITALIC SMALL I,DOUBLE-STRUCK ITALIC SMALL J",
    "PROPERTY LINE,TURNED AMPERSAND,PER SIGN,AKTIESELSKAB,TURNED SMALL F",
    "SYMBOL FOR SAMARITAN SOURCE,VULGAR FRACTION ONE SEVENTH,VULGAR FRACTION ONE NINTH",
    "VULGAR FRACTION ONE TENTH,VULGAR FRACTION ONE THIRD,VULGAR FRACTION TWO THIRDS",
    "VULGAR FRACTION ONE FIFTH,VULGAR FRACTION TWO FIFTHS,VULGAR FRACTION THREE FIFTHS",
    "VULGAR FRACTION FOUR FIFTHS,VULGAR FRACTION ONE SIXTH,VULGAR FRACTION FIVE SIXTHS",
    "VULGAR FRACTION ONE EIGHTH,VULGAR FRACTION THREE EIGHTHS,VULGAR FRACTION FIVE EIGHTHS",
    "VULGAR FRACTION SEVEN EIGHTHS,FRACTION NUMERATOR ONE,ROMAN NUMERAL ONE,ROMAN NUMERAL TWO",
    "ROMAN NUMERAL THREE,ROMAN NUMERAL FOUR,ROMAN NUMERAL FIVE,ROMAN NUMERAL SIX",
    "ROMAN NUMERAL SEVEN,ROMAN NUMERAL EIGHT,ROMAN NUMERAL NINE,ROMAN NUMERAL TEN",
    "ROMAN NUMERAL ELEVEN,ROMAN NUMERAL TWELVE,ROMAN NUMERAL FIFTY,ROMAN NUMERAL ONE HUNDRED",
    "ROMAN NUMERAL FIVE HUNDRED,ROMAN NUMERAL ONE THOUSAND,SMALL ROMAN NUMERAL ONE",
    "SMALL ROMAN NUMERAL TWO,SMALL ROMAN NUMERAL THREE,SMALL ROMAN NUMERAL FOUR",
    "SMALL ROMAN NUMERAL FIVE,SMALL ROMAN NUMERAL SIX,SMALL ROMAN NUMERAL SEVEN",
    "SMALL ROMAN NUMERAL EIGHT,SMALL ROMAN NUMERAL NINE,SMALL ROMAN NUMERAL TEN",
    "SMALL ROMAN NUMERAL ELEVEN,SMALL ROMAN NUMERAL TWELVE,SMALL ROMAN NUMERAL FIFTY",
    "SMALL ROMAN NUMERAL ONE HUNDRED,SMALL ROMAN NUMERAL FIVE HUNDRED",
    "SMALL ROMAN NUMERAL ONE THOUSAND,ROMAN NUMERAL ONE THOUSAND C D",
    "ROMAN NUMERAL FIVE THOUSAND,ROMAN NUMERAL TEN THOUSAND,ROMAN NUMERAL REVERSED ONE HUNDRED",
    "LATIN SMALL LETTER REVERSED C,ROMAN NUMERAL SIX LATE FORM,ROMAN NUMERAL FIFTY EARLY FORM",
    "ROMAN NUMERAL FIFTY THOUSAND,ROMAN NUMERAL ONE HUNDRED THOUSAND"]⟩,
  ⟨0x2190, "", [
    "LEFTWARDS ARROW,UPWARDS ARROW,RIGHTWARDS ARROW,DOWNWARDS ARROW,LEFT RIGHT ARROW",
    "UP DOWN ARROW,NORTH WEST ARROW,NORTH EAST ARROW,SOUTH EAST ARROW,SOUTH WEST ARROW",
    "LEFTWARDS ARROW WITH STROKE,RIGHTWARDS ARROW WITH STROKE,LEFTWARDS WAVE ARROW",
    "RIGHTWARDS WAVE ARROW,LEFTWARDS TWO HEADED ARROW,UPWARDS TWO HEADED ARROW",
    "RIGHTWARDS TWO HEADED ARROW,DOWNWARDS TWO HEADED ARROW,LEFTWARDS ARROW WITH TAIL",
    "RIGHTWARDS ARROW WITH TAIL,LEFTWARDS ARROW FROM BAR,UPWARDS ARROW FROM BAR",
    "RIGHTWARDS ARROW FROM BAR,DOWNWARDS ARROW FROM BAR,UP DOWN ARROW WITH BASE",
    "LEFTWARDS ARROW WITH HOOK,RIGHTWARDS ARROW WITH HOOK,LEFTWARDS ARROW WITH LOOP",
    "RIGHTWARDS ARROW WITH LOOP,LEFT RIGHT WAVE ARROW,LEFT RIGHT ARROW WITH STROKE",
    "DOWNWARDS ZIGZAG ARROW,UPWARDS ARROW WITH TIP LEFTWARDS,UPWARDS ARROW WITH TIP RIGHTWARDS",
    "DOWNWARDS ARROW WITH TIP LEFTWARDS,DOWNWARDS ARROW WITH TIP RIGHTWARDS",
    "RIGHTWARDS ARROW WITH CORNER DOWNWARDS,DOWNWARDS ARROW WITH CORNER LEFTWARDS",
    "ANTICLOCKWISE TOP SEMICIRCLE ARROW,CLOCKWISE TOP SEMICIRCLE ARROW",
    "NORTH WEST ARROW TO LONG BAR,LEFTWARDS ARROW TO BAR OVER RIGHTWARDS ARROW TO BAR",
    "ANTICLOCKWISE OPEN CIRCLE ARROW,CLOCKWISE OPEN CIRCLE ARROW",
    "LEFTWARDS HARPOON WITH BARB UPWARDS,LEFTWARDS HARPOON WITH BARB DOWNWARDS",
    "UPWARDS HARPOON WITH BARB RIGHTWARDS,UPWARDS HARPOON WITH BARB LEFTWARDS",
    "RIGHTWARDS HARPOON WITH BARB UPWARDS,RIGHTWARDS HARPOON WITH BARB DOWNWARDS",
    "DOWNWARDS HARPOON WITH BARB RIGHTWARDS,DOWNWARDS HARPOON WITH BARB LEFTWARDS",
    "RIGHTWARDS ARROW OVER LEFTWARDS ARROW,UPWARDS ARROW LEFTWARDS OF DOWNWARDS ARROW",
    "LEFTWARDS ARROW OVER RIGHTWARDS ARROW,LEFTWARDS PAIRED ARROWS,UPWARDS PAIRED ARROWS",
    "RIGHTWARDS PAIRED ARROWS,DOWNWARDS PAIRED ARROWS,LEFTWARDS HARPOON OVER RIGHTWARDS HARPOON",
    "RIGHTWARDS HARPOON OVER LEFTWARDS HARPOON,LEFTWARDS DOUBLE ARROW WITH STROKE",
    "LEFT RIGHT DOUBLE ARROW WITH STROKE,RIGHTWARDS DOUBLE ARROW WITH STROKE",
    "LEFTWARDS DOUBLE ARROW,UPWARDS DOUBLE ARROW,RIGHTWARDS DOUBLE ARROW,DOWNWARDS DOUBLE ARROW",
    "LEFT RIGHT DOUBLE ARROW,UP DOWN DOUBLE ARROW,NORTH WEST DOUBLE ARROW",
    "NORTH EAST DOUBLE ARROW,SOUTH EAST DOUBLE ARROW,SOUTH WEST DOUBLE ARROW",
    "LEFTWARDS TRIPLE ARROW,RIGHTWARDS TRIPLE ARROW,LEFTWARDS SQUIGGLE ARROW",
    "RIGHTWARDS SQUIGGLE ARROW,UPWARDS ARROW WITH DOUBLE STROKE",
    "DOWNWARDS ARROW WITH DOUBLE STROKE,LEFTWARDS DASHED ARROW,UPWARDS DASHED ARROW",
    "RIGHTWARDS DASHED ARROW,DOWNWARDS DASHED ARROW,LEFTWARDS ARROW TO BAR",
    "RIGHTWARDS ARROW TO BAR,LEFTWARDS WHITE ARROW,UPWARDS WHITE ARROW,RIGHTWARDS WHITE ARROW",
    "DOWNWARDS WHITE ARROW,UPWARDS WHITE ARROW FROM BAR,UPWARDS WHITE ARROW ON PEDESTAL",
    "UPWARDS WHITE ARROW ON PEDESTAL WITH HORIZONTAL BAR",
    "UPWARDS WHITE ARROW ON PEDESTAL WITH VERTICAL BAR,UPWARDS WHITE DOUBLE ARROW",
    "UPWARDS WHITE DOUBLE ARROW ON PEDESTAL,RIGHTWARDS WHITE ARROW FROM WALL",
    "NORTH WEST ARROW TO CORNER,SOUTH EAST ARROW TO CORNER,UP DOWN WHITE ARROW",
    "RIGHT ARROW WITH SMALL CIRCLE,DOWNWARDS ARROW LEFTWARDS OF UPWARDS ARROW",
    "THREE RIGHTWARDS ARROWS,LEFTWARDS ARROW WITH VERTICAL STROKE",
    "RIGHTWARDS ARROW WITH VERTICAL STROKE,LEFT RIGHT ARROW WITH VERTICAL STROKE",
    "LEFTWARDS ARROW WITH DOUBLE VERTICAL STROKE,RIGHTWARDS ARROW WITH DOUBLE VERTICAL STROKE",
    "LEFT RIGHT ARROW WITH DOUBLE VERTICAL STROKE,LEFTWARDS OPEN-HEADED ARROW",
    "RIGHTWARDS OPEN-HEADED ARROW,LEFT RIGHT OPEN-HEADED ARROW,FOR ALL,COMPLEMENT",
    "PARTIAL DIFFERENTIAL,THERE EXISTS,THERE DOES NOT EXIST,EMPTY SET,INCREMENT,NABLA",
    "ELEMENT OF,NOT AN ELEMENT OF,SMALL ELEMENT OF,CONTAINS AS MEMBER",
    "DOES NOT CONTAIN AS MEMBER,SMALL CONTAINS AS MEMBER,END OF PROOF,N-ARY PRODUCT",
    "N-ARY COPRODUCT,N-ARY SUMMATION,MINUS SIGN,MINUS-OR-PLUS SIGN,DOT PLUS,DIVISION SLASH",
    "SET MINUS,ASTERISK OPERATOR,RING OPERATOR,BULLET OPERATOR,SQUARE ROOT,CUBE ROOT",
    "FOURTH ROOT,PROPORTIONAL TO,INFINITY,RIGHT ANGLE,ANGLE,MEASURED ANGLE,SPHERICAL ANGLE",
    "DIVIDES,DOES NOT DIVIDE,PARALLEL TO,NOT PARALLEL TO,LOGICAL AND,LOGICAL OR,INTERSECTION",
    "UNION,INTEGRAL"]⟩,
  ⟨0x2234, "", ["THEREFORE,BECAUSE,RATIO,PROPORTION"]⟩,
  ⟨0x2248, "", ["ALMOST EQUAL TO"]⟩,
  ⟨0x2260, "", [
    "NOT EQUAL TO,IDENTICAL TO,NOT IDENTICAL TO,STRICTLY EQUIVALENT TO,LESS-THAN OR EQUAL TO",
    "GREATER-THAN OR EQUAL TO"]⟩,
  ⟨0x2282, "", [
    "SUBSET OF,SUPERSET OF,NOT A SUBSET OF,NOT A SUPERSET OF,SUBSET OF OR EQUAL TO",
    "SUPERSET OF OR EQUAL TO"]⟩,
  ⟨0x25a0, "", [
    "BLACK SQUARE,WHITE SQUARE,WHITE SQUARE WITH ROUNDED CORNERS",
    "WHITE SQUARE CONTAINING BLACK SMALL SQUARE,SQUARE WITH HORIZONTAL FILL",
    "SQUARE WITH VERTICAL FILL,SQUARE WITH ORTHOGONAL CROSSHATCH FILL",
    "SQUARE WITH UPPER LEFT TO LOWER RIGHT FILL,SQUARE WITH UPPER RIGHT TO LOWER LEFT FILL",
    "SQUARE WITH DIAGONAL CROSSHATCH FILL,BLACK SMALL SQUARE,WHITE SMALL SQUARE,BLACK RECTANGLE",
    "WHITE RECTANGLE,BLACK VERTICAL RECTANGLE,WHITE VERTICAL RECTANGLE,BLACK PARALLELOGRAM",
    "WHITE PARALLELOGRAM,BLACK UP-POINTING TRIANGLE,WHITE UP-POINTING TRIANGLE",
    "BLACK UP-POINTING SMALL TRIANGLE,WHITE UP-POINTING SMALL TRIANGLE",
    "BLACK RIGHT-POINTING TRIANGLE,WHITE RIGHT-POINTING TRIANGLE",
    "BLACK RIGHT-POINTING SMALL TRIANGLE,WHITE RIGHT-POINTING SMALL TRIANGLE",
    "BLACK RIGHT-POINTING POINTER,WHITE RIGHT-POINTING POINTER,BLACK DOWN-POINTING TRIANGLE",
    "WHITE DOWN-POINTING TRIANGLE,BLACK DOWN-POINTING SMALL TRIANGLE",
    "WHITE DOWN-POINTING SMALL TRIANGLE,BLACK LEFT-POINTING TRIANGLE",
    "WHITE LEFT-POINTING TRIANGLE,BLACK LEFT-POINTING SMALL TRIANGLE",
    "WHITE LEFT-POINTING SMALL TRIANGLE,BLACK LEFT-POINTING POINTER,WHITE LEFT-POINTING POINTER",
    "BLACK DIAMOND,WHITE DIAMOND,WHITE DIAMOND CONTAINING BLACK SMALL DIAMOND,FISHEYE,LOZENGE",
    "WHITE CIRCLE,DOTTED CIRCLE,CIRCLE WITH VERTICAL FILL,BULLSEYE,BLACK CIRCLE",
    "CIRCLE WITH LEFT HALF BLACK,CIRCLE WITH RIGHT HALF BLACK,CIRCLE WITH LOWER HALF BLACK",
    "CIRCLE WITH UPPER HALF BLACK,CIRCLE WITH UPPER RIGHT QUADRANT BLACK",
    "CIRCLE WITH ALL BUT UPPER LEFT QUADRANT BLACK,LEFT HALF BLACK CIRCLE",
    "RIGHT HALF BLACK CIRCLE,INVERSE BULLET,INVERSE WHITE CIRCLE",
    "UPPER HALF INVERSE WHITE CIRCLE,LOWER HALF INVERSE WHITE CIRCLE",
    "UPPER LEFT QUADRANT CIRCULAR ARC,UPPER RIGHT QUADRANT CIRCULAR ARC",
    "LOWER RIGHT QUADRANT CIRCULAR ARC,LOWER LEFT QUADRANT CIRCULAR ARC,UPPER HALF CIRCLE",
    "LOWER HALF CIRCLE,BLACK LOWER RIGHT TRIANGLE,BLACK LOWER LEFT TRIANGLE",
    "BLACK UPPER LEFT TRIANGLE,BLACK UPPER RIGHT TRIANGLE,WHITE BULLET",
    "SQUARE WITH LEFT HALF BLACK,SQUARE WITH RIGHT HALF BLACK",
    "SQUARE WITH UPPER LEFT DIAGONAL HALF BLACK,SQUARE WITH LOWER RIGHT DIAGONAL HALF BLACK",
    "WHITE SQUARE WITH VERTICAL BISECTING LINE,WHITE UP-POINTING TRIANGLE WITH DOT",
    "UP-POINTING TRIANGLE WITH LEFT HALF BLACK,UP-POINTING TRIANGLE WITH RIGHT HALF BLACK",
    "LARGE CIRCLE,WHITE SQUARE WITH UPPER LEFT QUADRANT,WHITE SQUARE WITH LOWER LEFT QUADRANT",
    "WHITE SQUARE WITH LOWER RIGHT QUADRANT,WHITE SQUARE WITH UPPER RIGHT QUADRANT",
    "WHITE CIRCLE WITH UPPER LEFT QUADRANT,WHITE CIRCLE WITH LOWER LEFT QUADRANT",
    "WHITE CIRCLE WITH LOWER RIGHT QUADRANT,WHITE CIRCLE WITH UPPER RIGHT QUADRANT",
    "UPPER LEFT TRIANGLE,UPPER RIGHT TRIANGLE,LOWER LEFT TRIANGLE,WHITE MEDIUM SQUARE",
    "BLACK MEDIUM SQUARE,WHITE MEDIUM SMALL SQUARE,BLACK MEDIUM SMALL SQUARE",
    "LOWER RIGHT TRIANGLE,BLACK SUN WITH RAYS,CLOUD,UMBRELLA,SNOWMAN,COMET,BLACK STAR",
    "WHITE STAR,LIGHTNING,THUNDERSTORM,SUN,ASCENDING NODE,DESCENDING NODE,CONJUNCTION",
    "OPPOSITION,BLACK TELEPHONE,WHITE TELEPHONE,BALLOT BOX,BALLOT BOX WITH CHECK",
    "BALLOT BOX WITH X,SALTIRE,UMBRELLA WITH RAIN DROPS,HOT BEVERAGE,WHITE SHOGI PIECE",
    "BLACK SHOGI PIECE,SHAMROCK,REVERSED ROTATED FLORAL HEART BULLET,BLACK LEFT POINTING INDEX",
    "BLACK RIGHT POINTING INDEX,WHITE LEFT POINTING INDEX,WHITE UP POINTING INDEX",
    "WHITE RIGHT POINTING INDEX,WHITE DOWN POINTING INDEX,SKULL AND CROSSBONES,CAUTION SIGN",
    "RADIOACTIVE SIGN,BIOHAZARD SIGN,CADUCEUS,ANKH,ORTHODOX CROSS,CHI RHO,CROSS OF LORRAINE",
    "CROSS OF JERUSALEM,STAR AND CRESCENT,FARSI SYMBOL,ADI SHAKTI,HAMMER AND SICKLE",
    "PEACE SYMBOL,YIN YANG,TRIGRAM FOR HEAVEN,TRIGRAM FOR LAKE,TRIGRAM FOR FIRE",
    "TRIGRAM FOR THUNDER,TRIGRAM FOR WIND,TRIGRAM FOR WATER,TRIGRAM FOR MOUNTAIN",
    "TRIGRAM FOR EARTH,WHEEL OF DHARMA,WHITE FROWNING FACE,WHITE SMILING FACE",
    "BLACK SMILING FACE,WHITE SUN WITH RAYS,FIRST QUARTER MOON,LAST QUARTER MOON,MERCURY",
    "FEMALE SIGN,EARTH,MALE SIGN,JUPITER,SATURN,URANUS,NEPTUNE,PLUTO,ARIES,TAURUS,GEMINI,CANCER",
    "LEO,VIRGO,LIBRA,SCORPIUS,SAGITTARIUS,CAPRICORN,AQUARIUS,PISCES,WHITE CHESS KING",
    "WHITE CHESS QUEEN,WHITE CHESS ROOK,WHITE CHESS BISHOP,WHITE CHESS KNIGHT,WHITE CHESS PAWN",
    "BLACK CHESS KING,BLACK CHESS QUEEN,BLACK CHESS ROOK,BLACK CHESS BISHOP,BLACK CHESS KNIGHT",
    "BLACK CHESS PAWN,BLACK SPADE SUIT,WHITE HEART SUIT,WHITE DIAMOND SUIT,BLACK CLUB SUIT",
    "WHITE SPADE SUIT,BLACK HEART SUIT,BLACK DIAMOND SUIT,WHITE CLUB SUIT,HOT SPRINGS",
    "QUARTER NOTE,EIGHTH NOTE,BEAMED EIGHTH NOTES,BEAMED SIXTEENTH NOTES,MUSIC FLAT SIGN",
    "MUSIC NATURAL SIGN,MUSIC SHARP SIGN"]⟩,
  ⟨0x2680, "", [
    "DIE FACE-1,DIE FACE-2,DIE FACE-3,DIE FACE-4,DIE FACE-5,DIE FACE-6",
    "WHITE CIRCLE WITH DOT RIGHT,WHITE CIRCLE WITH TWO DOTS,BLACK CIRCLE WITH WHITE DOT RIGHT",
    "BLACK CIRCLE WITH TWO WHITE DOTS,MONOGRAM FOR YANG,MONOGRAM FOR YIN",
    "DIGRAM FOR GREATER YANG,DIGRAM FOR LESSER YIN,DIGRAM FOR LESSER YANG",
    "DIGRAM FOR GREATER YIN,WHITE FLAG,BLACK FLAG,HAMMER AND PICK,ANCHOR,CROSSED SWORDS",
    "STAFF OF AESCULAPIUS,SCALES,ALEMBIC,FLOWER,GEAR,STAFF OF HERMES,ATOM SYMBOL,FLEUR-DE-LIS",
    "OUTLINED WHITE STAR,THREE LINES CONVERGING RIGHT,THREE LINES CONVERGING LEFT,WARNING SIGN",
    "HIGH VOLTAGE SIGN,DOUBLED FEMALE SIGN,DOUBLED MALE SIGN,INTERLOCKED FEMALE AND MALE SIGN",
    "MALE AND FEMALE SIGN,MALE WITH STROKE SIGN,MALE WITH STROKE AND MALE AND FEMALE SIGN",
    "VERTICAL MALE WITH STROKE SIGN,HORIZONTAL MALE WITH STROKE SIGN,MEDIUM WHITE CIRCLE",
    "MEDIUM BLACK CIRCLE,MEDIUM SMALL WHITE CIRCLE,MARRIAGE SYMBOL,DIVORCE SYMBOL",
    "UNMARRIED PARTNERSHIP SYMBOL,COFFIN,FUNERAL URN,NEUTER,CERES,PALLAS,JUNO,VESTA,CHIRON",
    "BLACK MOON LILITH,SEXTILE,SEMISEXTILE,QUINCUNX,SESQUIQUADRATE,SOCCER BALL,BASEBALL",
    "SQUARED KEY,WHITE DRAUGHTS MAN,WHITE DRAUGHTS KING,BLACK DRAUGHTS MAN,BLACK DRAUGHTS KING",
    "SNOWMAN WITHOUT SNOW,SUN BEHIND CLOUD,RAIN,BLACK SNOWMAN,THUNDER CLOUD AND RAIN",
    "TURNED WHITE SHOGI PIECE,TURNED BLACK SHOGI PIECE,WHITE DIAMOND IN SQUARE,CROSSING LANES",
    "DISABLED CAR,OPHIUCHUS,PICK,CAR SLIDING,HELMET WITH WHITE CROSS,CIRCLED CROSSING LANES",
    "CHAINS,NO ENTRY,ALTERNATE ONE-WAY LEFT WAY TRAFFIC,BLACK TWO-WAY LEFT WAY TRAFFIC",
    "WHITE TWO-WAY LEFT WAY TRAFFIC,BLACK LEFT LANE MERGE,WHITE LEFT LANE MERGE,DRIVE SLOW SIGN",
    "HEAVY WHITE DOWN-POINTING TRIANGLE,LEFT CLOSED ENTRY,SQUARED SALTIRE",
    "FALLING DIAGONAL IN WHITE CIRCLE IN BLACK SQUARE,BLACK TRUCK,RESTRICTED LEFT ENTRY-1",
    "RESTRICTED LEFT ENTRY-2,ASTRONOMICAL SYMBOL FOR URANUS",
    "HEAVY CIRCLE WITH STROKE AND TWO DOTS ABOVE,PENTAGRAM,RIGHT-HANDED INTERLACED PENTAGRAM",
    "LEFT-HANDED INTERLACED PENTAGRAM,INVERTED PENTAGRAM,BLACK CROSS ON SHIELD,SHINTO SHRINE",
    "CHURCH,CASTLE,HISTORIC SITE,GEAR WITHOUT HUB,GEAR WITH HANDLES,MAP SYMBOL FOR LIGHTHOUSE",
    "MOUNTAIN,UMBRELLA ON GROUND,FOUNTAIN,FLAG IN HOLE,FERRY,SAILBOAT,SQUARE FOUR CORNERS,SKIER",
    "ICE SKATE,PERSON WITH BALL,TENT,JAPANESE BANK SYMBOL,HEADSTONE GRAVEYARD SYMBOL,FUEL PUMP",
    "CUP ON BLACK SQUARE,WHITE FLAG WITH HORIZONTAL MIDDLE BLACK STRIPE"]⟩,
  ⟨0x2701, "", [
    "UPPER BLADE SCISSORS,BLACK SCISSORS,LOWER BLADE SCISSORS,WHITE SCISSORS",
    "WHITE HEAVY CHECK MARK,TELEPHONE LOCATION SIGN,TAPE DRIVE,AIRPLANE,ENVELOPE,RAISED FIST",
    "RAISED HAND,VICTORY HAND,WRITING HAND,LOWER RIGHT PENCIL,PENCIL,UPPER RIGHT PENCIL",
    "WHITE NIB,BLACK NIB,CHECK MARK,HEAVY CHECK MARK,MULTIPLICATION X,HEAVY MULTIPLICATION X",
    "BALLOT X,HEAVY BALLOT X,OUTLINED GREEK CROSS,HEAVY GREEK CROSS,OPEN CENTRE CROSS",
    "HEAVY OPEN CENTRE CROSS,LATIN CROSS,SHADOWED WHITE LATIN CROSS,OUTLINED LATIN CROSS",
    "MALTESE CROSS,STAR OF DAVID,FOUR TEARDROP-SPOKED ASTERISK,FOUR BALLOON-SPOKED ASTERISK",
    "HEAVY FOUR BALLOON-SPOKED ASTERISK,FOUR CLUB-SPOKED ASTERISK,BLACK FOUR POINTED STAR",
    "WHITE FOUR POINTED STAR,SPARKLES,STRESS OUTLINED WHITE STAR,CIRCLED WHITE STAR",
    "OPEN CENTRE BLACK STAR,BLACK CENTRE WHITE STAR,OUTLINED BLACK STAR",
    "HEAVY OUTLINED BLACK STAR,PINWHEEL STAR,SHADOWED WHITE STAR,HEAVY ASTERISK",
    "OPEN CENTRE ASTERISK,EIGHT SPOKED ASTERISK,EIGHT POINTED BLACK STAR",
    "EIGHT POINTED PINWHEEL STAR,SIX POINTED BLACK STAR,EIGHT POINTED RECTILINEAR BLACK STAR",
    "HEAVY EIGHT POINTED RECTILINEAR BLACK STAR,TWELVE POINTED BLACK STAR",
    "SIXTEEN POINTED ASTERISK,TEARDROP-SPOKED ASTERISK,OPEN CENTRE TEARDROP-SPOKED ASTERISK",
    "HEAVY TEARDROP-SPOKED ASTERISK,SIX PETALLED BLACK AND WHITE FLORETTE,BLACK FLORETTE",
    "WHITE FLORETTE,EIGHT PETALLED OUTLINED BLACK FLORETTE",
    "CIRCLED OPEN CENTRE EIGHT POINTED STAR,HEAVY TEARDROP-SPOKED PINWHEEL ASTERISK,SNOWFLAKE",
    "TIGHT TRIFOLIATE SNOWFLAKE,HEAVY CHEVRON SNOWFLAKE,SPARKLE,HEAVY SPARKLE",
    "BALLOON-SPOKED ASTERISK,EIGHT TEARDROP-SPOKED PROPELLER ASTERISK",
    "HEAVY EIGHT TEARDROP-SPOKED PROPELLER ASTERISK,CROSS MARK,SHADOWED WHITE CIRCLE",
    "NEGATIVE SQUARED CROSS MARK,LOWER RIGHT DROP-SHADOWED WHITE SQUARE",
    "UPPER RIGHT DROP-SHADOWED WHITE SQUARE,LOWER RIGHT SHADOWED WHITE SQUARE",
    "UPPER RIGHT SHADOWED WHITE SQUARE,BLACK QUESTION MARK ORNAMENT",
    "WHITE QUESTION MARK ORNAMENT,WHITE EXCLAMATION MARK ORNAMENT,BLACK DIAMOND MINUS WHITE X",
    "HEAVY EXCLAMATION MARK SYMBOL,LIGHT VERTICAL BAR,MEDIUM VERTICAL BAR,HEAVY VERTICAL BAR",
    "HEAVY SINGLE TURNED COMMA QUOTATION MARK ORNAMENT",
    "HEAVY SINGLE COMMA QUOTATION MARK ORNAMENT",
    "HEAVY DOUBLE TURNED COMMA QUOTATION MARK ORNAMENT",
    "HEAVY DOUBLE COMMA QUOTATION MARK ORNAMENT"]⟩,
  ⟨0x2761, "", [
    "CURVED STEM PARAGRAPH SIGN ORNAMENT,HEAVY EXCLAMATION MARK ORNAMENT",
    "HEAVY HEART EXCLAMATION MARK ORNAMENT,HEAVY BLACK HEART,ROTATED HEAVY BLACK HEART BULLET",
    "FLORAL HEART,ROTATED FLORAL HEART BULLET,MEDIUM LEFT PARENTHESIS ORNAMENT",
    "MEDIUM RIGHT PARENTHESIS ORNAMENT,MEDIUM FLATTENED LEFT PARENTHESIS ORNAMENT",
    "MEDIUM FLATTENED RIGHT PARENTHESIS ORNAMENT,MEDIUM LEFT-POINTING ANGLE BRACKET ORNAMENT",
    "MEDIUM RIGHT-POINTING ANGLE BRACKET ORNAMENT",
    "HEAVY LEFT-POINTING ANGLE QUOTATION MARK ORNAMENT",
    "HEAVY RIGHT-POINTING ANGLE QUOTATION MARK ORNAMENT",
    "HEAVY LEFT-POINTING ANGLE BRACKET ORNAMENT,HEAVY RIGHT-POINTING ANGLE BRACKET ORNAMENT",
    "LIGHT LEFT TORTOISE SHELL BRACKET ORNAMENT,LIGHT RIGHT TORTOISE SHELL BRACKET ORNAMENT",
    "MEDIUM LEFT CURLY BRACKET ORNAMENT,MEDIUM RIGHT CURLY BRACKET ORNAMENT"]⟩,
  ⟨0x2794, "", ["HEAVY WIDE-HEADED RIGHTWARDS ARROW"]⟩,
  ⟨0x3000, "", ["IDEOGRAPHIC SPACE,IDEOGRAPHIC COMMA,IDEOGRAPHIC FULL STOP,DITTO MARK"]⟩,
  ⟨0xfeff, "", ["ZERO WIDTH NO-BREAK SPACE"]⟩,
  ⟨0xfeff, "", ["BYTE ORDER MARK"]⟩,
  ⟨0xfffc, "", ["OBJECT REPLACEMENT CHARACTER,REPLACEMENT CHARACTER"]⟩,
  ⟨0x1f300, "", [
    "CYCLONE,FOGGY,CLOSED UMBRELLA,NIGHT WITH STARS,SUNRISE OVER MOUNTAINS,SUNRISE",
    "CITYSCAPE AT DUSK,SUNSET OVER BUILDINGS,RAINBOW,BRIDGE AT NIGHT,WATER WAVE,VOLCANO",
    "MILKY WAY,EARTH GLOBE EUROPE-AFRICA,EARTH GLOBE AMERICAS,EARTH GLOBE ASIA-AUSTRALIA",
    "GLOBE WITH MERIDIANS,NEW MOON SYMBOL,WAXING CRESCENT MOON SYMBOL,FIRST QUARTER MOON SYMBOL",
    "WAXING GIBBOUS MOON SYMBOL,FULL MOON SYMBOL,WANING GIBBOUS MOON SYMBOL",
    "LAST QUARTER MOON SYMBOL,WANING CRESCENT MOON SYMBOL,CRESCENT MOON,NEW MOON WITH FACE",
    "FIRST QUARTER MOON WITH FACE,LAST QUARTER MOON WITH FACE,FULL MOON WITH FACE,SUN WITH FACE",
    "GLOWING STAR,SHOOTING STAR"]⟩,
  ⟨0x1f400, "", [
    "RAT,MOUSE,OX,WATER BUFFALO,COW,TIGER,LEOPARD,RABBIT,CAT,DRAGON,CROCODILE,WHALE,SNAIL,SNAKE",
    "HORSE,RAM,GOAT,SHEEP,MONKEY,ROOSTER,CHICKEN,DOG,PIG,BOAR,ELEPHANT,OCTOPUS,SPIRAL SHELL,BUG",
    "ANT,HONEYBEE,LADY BEETLE,FISH,TROPICAL FISH,BLOWFISH,TURTLE,HATCHING CHICK,BABY CHICK",
    "FRONT-FACING BABY CHICK,BIRD,PENGUIN,KOALA,POODLE,DROMEDARY CAMEL,BACTRIAN CAMEL,DOLPHIN",
    "MOUSE FACE,COW FACE,TIGER FACE,RABBIT FACE,CAT FACE,DRAGON FACE,SPOUTING WHALE,HORSE FACE",
    "MONKEY FACE,DOG FACE,PIG FACE,FROG FACE,HAMSTER FACE,WOLF FACE,BEAR FACE,PANDA FACE",
    "PIG NOSE,PAW PRINTS,CHIPMUNK,EYES"]⟩,
  ⟨0x1f44a, "", [
    "FISTED HAND SIGN,WAVING HAND SIGN,OK HAND SIGN,THUMBS UP SIGN,THUMBS DOWN SIGN",
    "CLAPPING HANDS SIGN"]⟩,
  ⟨0x1f494, "", [
    "BROKEN HEART,TWO HEARTS,SPARKLING HEART,GROWING HEART,HEART WITH ARROW,BLUE HEART",
    "GREEN HEART,YELLOW HEART,PURPLE HEART,HEART WITH RIBBON,REVOLVING HEARTS,HEART DECORATION",
    "DIAMOND SHAPE WITH A DOT INSIDE,ELECTRIC LIGHT BULB,ANGER SYMBOL,BOMB,SLEEPING SYMBOL",
    "COLLISION SYMBOL,SPLASHING SWEAT SYMBOL,DROPLET,DASH SYMBOL,PILE OF POO,FLEXED BICEPS",
    "DIZZY SYMBOL,SPEECH BALLOON,THOUGHT BALLOON,WHITE FLOWER,HUNDRED POINTS SYMBOL"]⟩,
  ⟨0x1f525, "", ["FIRE"]⟩,
  ⟨0x1f600, "", [
    "GRINNING FACE,GRINNING FACE WITH SMILING EYES,FACE WITH TEARS OF JOY",
    "SMILING FACE WITH OPEN MOUTH,SMILING FACE WITH OPEN MOUTH AND SMILING EYES",
    "SMILING FACE WITH OPEN MOUTH AND COLD SWEAT",
    "SMILING FACE WITH OPEN MOUTH AND TIGHTLY-CLOSED EYES,SMILING FACE WITH HALO",
    "SMILING FACE WITH HORNS,WINKING FACE,SMILING FACE WITH SMILING EYES",
    "FACE SAVOURING DELICIOUS FOOD,RELIEVED FACE,SMILING FACE WITH HEART-SHAPED EYES",
    "SMILING FACE WITH SUNGLASSES,SMIRKING FACE,NEUTRAL FACE,EXPRESSIONLESS FACE,UNAMUSED FACE",
    "FACE WITH COLD SWEAT,PENSIVE FACE,CONFUSED FACE,CONFOUNDED FACE,KISSING FACE",
    "FACE THROWING A KISS,KISSING FACE WITH SMILING EYES,KISSING FACE WITH CLOSED EYES",
    "FACE WITH STUCK-OUT TONGUE,FACE WITH STUCK-OUT TONGUE AND WINKING EYE",
    "FACE WITH STUCK-OUT TONGUE AND TIGHTLY-CLOSED EYES,DISAPPOINTED FACE,WORRIED FACE",
    "ANGRY FACE,POUTING FACE,CRYING FACE,PERSEVERING FACE,FACE WITH LOOK OF TRIUMPH",
    "DISAPPOINTED BUT RELIEVED FACE,FROWNING FACE WITH OPEN MOUTH,ANGUISHED FACE,FEARFUL FACE",
    "WEARY FACE,SLEEPY FACE,TIRED FACE,GRIMACING FACE,LOUDLY CRYING FACE,FACE WITH OPEN MOUTH",
    "HUSHED FACE,FACE WITH OPEN MOUTH AND COLD SWEAT,FACE SCREAMING IN FEAR,ASTONISHED FACE",
    "FLUSHED FACE,SLEEPING FACE,DIZZY FACE,FACE WITHOUT MOUTH,FACE WITH MEDICAL MASK",
    "GRINNING CAT FACE WITH SMILING EYES,CAT FACE WITH TEARS OF JOY",
    "SMILING CAT FACE WITH OPEN MOUTH,SMILING CAT FACE WITH HEART-SHAPED EYES",
    "CAT FACE WITH WRY SMILE,KISSING CAT FACE WITH CLOSED EYES,POUTING CAT FACE,CRYING CAT FACE",
    "WEARY CAT FACE,SLIGHTLY FROWNING FACE,SLIGHTLY SMILING FACE,UPSIDE-DOWN FACE",
    "FACE WITH ROLLING EYES,FACE WITH NO GOOD GESTURE,FACE WITH OK GESTURE,PERSON BOWING DEEPLY",
    "SEE-NO-EVIL MONKEY,HEAR-NO-EVIL MONKEY,SPEAK-NO-EVIL MONKEY,HAPPY PERSON RAISING ONE HAND",
    "PERSON RAISING BOTH HANDS IN CELEBRATION,PERSON FROWNING,PERSON WITH POUTING FACE",
    "PERSON WITH FOLDED HANDS"]⟩,
  ⟨0x1f680, "", ["ROCKET"]⟩]

end PagePress.Text.CharacterName
