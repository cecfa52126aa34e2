import AssetBundle.CharacterName.Run

/-!
# AssetBundle.CharacterName.Symbols

Names of punctuation, currencies, arrows and other symbols, in small letters.
-/

namespace AssetBundle
namespace CharacterName

def punctuation : List Run := [
  ⟨0x2000, ["en quad;em quad;en space;em space;three-per-em space;four-per-em space",
    "six-per-em space;figure space;punctuation space;thin space;hair space;zero width space",
    "zero width non-joiner;zero width joiner;left-to-right mark;right-to-left mark;hyphen",
    "non-breaking hyphen;figure dash;en dash;em dash;horizontal bar;double vertical line",
    "double low line;left single quotation mark;right single quotation mark",
    "single low-9 quotation mark;single high-reversed-9 quotation mark;left double quotation mark",
    "right double quotation mark;double low-9 quotation mark;double high-reversed-9 quotation mark",
    "dagger;double dagger;bullet;triangular bullet;one dot leader;two dot leader",
    "horizontal ellipsis;hyphenation point;line separator;paragraph separator",
    "left-to-right embedding;right-to-left embedding;pop directional formatting",
    "left-to-right override;right-to-left override;narrow no-break space;per mille sign",
    "per ten thousand sign;prime;double prime;triple prime;reversed prime;reversed double prime",
    "reversed triple prime;caret;single left-pointing angle quotation mark",
    "single right-pointing angle quotation mark;reference mark;double exclamation mark;interrobang",
    "overline;undertie;character tie;caret insertion point;asterism;hyphen bullet;fraction slash",
    "left square bracket with quill;right square bracket with quill;double question mark",
    "question exclamation mark;exclamation question mark;tironian sign et;reversed pilcrow sign",
    "black leftwards bullet;black rightwards bullet;low asterisk;reversed semicolon;close up",
    "two asterisks aligned vertically;commercial minus sign;swung dash;inverted undertie",
    "flower punctuation mark;three dot punctuation;quadruple prime;four dot punctuation",
    "five dot punctuation;two dot punctuation;four dot mark;dotted cross;tricolon",
    "vertical four dots;medium mathematical space;word joiner;function application;invisible times",
    "invisible separator;invisible plus;;left-to-right isolate;right-to-left isolate",
    "first strong isolate;pop directional isolate;inhibit symmetric swapping",
    "activate symmetric swapping;inhibit arabic form shaping;activate arabic form shaping",
    "national digit shapes;nominal digit shapes"]⟩]

def currencies : List Run := [
  ⟨0x20A0, ["euro-currency sign;colon sign;cruzeiro sign;french franc sign;lira sign;mill sign",
    "naira sign;peseta sign;rupee sign;won sign;new sheqel sign;dong sign;euro sign;kip sign",
    "tugrik sign;drachma sign;german penny sign;peso sign;guarani sign;austral sign;hryvnia sign",
    "cedi sign;livre tournois sign;spesmilo sign;tenge sign;indian rupee sign;turkish lira sign",
    "nordic mark sign;manat sign;ruble sign;lari sign;bitcoin sign;som sign"]⟩]

def letterlike : List Run := [
  ⟨0x2100, ["account of;addressed to the subject;double-struck capital c;degree celsius",
    "centre line symbol;care of;cada una;euler constant;scruple;degree fahrenheit;script small g",
    "script capital h;black-letter capital h;double-struck capital h;planck constant",
    "planck constant over two pi;script capital i;black-letter capital i;script capital l",
    "script small l;l b bar symbol;double-struck capital n;numero sign;sound recording copyright",
    "script capital p;double-struck capital p;double-struck capital q;script capital r",
    "black-letter capital r;double-struck capital r;prescription take;response;service mark",
    "telephone sign;trade mark sign;versicle;double-struck capital z;ounce sign;ohm sign",
    "inverted ohm sign;black-letter capital z;turned greek small letter iota;kelvin sign",
    "angstrom sign;script capital b;black-letter capital c;estimated symbol;script small e",
    "script capital e;script capital f;turned capital f;script capital m;script small o",
    "alef symbol;bet symbol;gimel symbol;dalet symbol;information source;rotated capital q",
    "facsimile sign;double-struck small pi;double-struck small gamma;double-struck capital gamma",
    "double-struck capital pi;double-struck n-ary summation;turned sans-serif capital g",
    "turned sans-serif capital l;reversed sans-serif capital l;turned sans-serif capital y",
    "double-struck italic capital d;double-struck italic small d;double-struck italic small e",
    "double-struck italic small i;double-struck italic small j;property line;turned ampersand",
    "per sign;aktieselskab;turned small f;symbol for samaritan source"]⟩]

def arrows : List Run := [
  ⟨0x2190, ["leftwards arrow;upwards arrow;rightwards arrow;downwards arrow;left right arrow",
    "up down arrow;north west arrow;north east arrow;south east arrow;south west arrow",
    "leftwards arrow with stroke;rightwards arrow with stroke;leftwards wave arrow",
    "rightwards wave arrow;leftwards two headed arrow;upwards two headed arrow",
    "rightwards two headed arrow;downwards two headed arrow;leftwards arrow with tail",
    "rightwards arrow with tail;leftwards arrow from bar;upwards arrow from bar",
    "rightwards arrow from bar;downwards arrow from bar;up down arrow with base",
    "leftwards arrow with hook;rightwards arrow with hook;leftwards arrow with loop",
    "rightwards arrow with loop;left right wave arrow;left right arrow with stroke",
    "downwards zigzag arrow;upwards arrow with tip leftwards;upwards arrow with tip rightwards",
    "downwards arrow with tip leftwards;downwards arrow with tip rightwards",
    "rightwards arrow with corner downwards;downwards arrow with corner leftwards",
    "anticlockwise top semicircle arrow;clockwise top semicircle arrow",
    "north west arrow to long bar;leftwards arrow to bar over rightwards arrow to bar",
    "anticlockwise open circle arrow;clockwise open circle arrow",
    "leftwards harpoon with barb upwards;leftwards harpoon with barb downwards",
    "upwards harpoon with barb rightwards;upwards harpoon with barb leftwards",
    "rightwards harpoon with barb upwards;rightwards harpoon with barb downwards",
    "downwards harpoon with barb rightwards;downwards harpoon with barb leftwards",
    "rightwards arrow over leftwards arrow;upwards arrow leftwards of downwards arrow",
    "leftwards arrow over rightwards arrow;leftwards paired arrows;upwards paired arrows",
    "rightwards paired arrows;downwards paired arrows;leftwards harpoon over rightwards harpoon",
    "rightwards harpoon over leftwards harpoon;leftwards double arrow with stroke",
    "left right double arrow with stroke;rightwards double arrow with stroke",
    "leftwards double arrow;upwards double arrow;rightwards double arrow;downwards double arrow",
    "left right double arrow;up down double arrow;north west double arrow;north east double arrow",
    "south east double arrow;south west double arrow;leftwards triple arrow",
    "rightwards triple arrow;leftwards squiggle arrow;rightwards squiggle arrow",
    "upwards arrow with double stroke;downwards arrow with double stroke;leftwards dashed arrow",
    "upwards dashed arrow;rightwards dashed arrow;downwards dashed arrow;leftwards arrow to bar",
    "rightwards arrow to bar;leftwards white arrow;upwards white arrow;rightwards white arrow",
    "downwards white arrow;upwards white arrow from bar;upwards white arrow on pedestal",
    "upwards white arrow on pedestal with horizontal bar",
    "upwards white arrow on pedestal with vertical bar;upwards white double arrow",
    "upwards white double arrow on pedestal;rightwards white arrow from wall",
    "north west arrow to corner;south east arrow to corner;up down white arrow",
    "right arrow with small circle;downwards arrow leftwards of upwards arrow",
    "three rightwards arrows;leftwards arrow with vertical stroke",
    "rightwards arrow with vertical stroke;left right arrow with vertical stroke",
    "leftwards arrow with double vertical stroke;rightwards arrow with double vertical stroke",
    "left right arrow with double vertical stroke;leftwards open-headed arrow",
    "rightwards open-headed arrow;left right open-headed arrow"]⟩]

def operators : List Run := [
  ⟨0x2200, ["for all;complement;partial differential;there exists;there does not exist;empty set",
    "increment;nabla;element of;not an element of;small element of;contains as member",
    "does not contain as member;small contains as member;end of proof;n-ary product",
    "n-ary coproduct;n-ary summation;minus sign;minus-or-plus sign;dot plus;division slash",
    "set minus;asterisk operator;ring operator;bullet operator;square root;cube root;fourth root",
    "proportional to;infinity;right angle;angle;measured angle;spherical angle;divides",
    "does not divide;parallel to;not parallel to;logical and;logical or;intersection;union",
    "integral;double integral;triple integral;contour integral;surface integral;volume integral",
    "clockwise integral;clockwise contour integral;anticlockwise contour integral;therefore",
    "because;ratio;proportion;dot minus;excess;geometric proportion;homothetic;tilde operator",
    "reversed tilde;inverted lazy s;sine wave;wreath product;not tilde;minus tilde",
    "asymptotically equal to;not asymptotically equal to;approximately equal to",
    "approximately but not actually equal to;neither approximately nor actually equal to",
    "almost equal to;not almost equal to;almost equal or equal to;triple tilde;all equal to",
    "equivalent to;geometrically equivalent to;difference between;approaches the limit",
    "geometrically equal to;approximately equal to or the image of",
    "image of or approximately equal to;colon equals;equals colon;ring in equal to;ring equal to",
    "corresponds to;estimates;equiangular to;star equals;delta equal to;equal to by definition",
    "measured by;questioned equal to;not equal to;identical to;not identical to",
    "strictly equivalent to;less-than or equal to;greater-than or equal to;less-than over equal to",
    "greater-than over equal to;less-than but not equal to;greater-than but not equal to",
    "much less-than;much greater-than;between;not equivalent to;not less-than;not greater-than",
    "neither less-than nor equal to;neither greater-than nor equal to;less-than or equivalent to",
    "greater-than or equivalent to;neither less-than nor equivalent to",
    "neither greater-than nor equivalent to;less-than or greater-than;greater-than or less-than",
    "neither less-than nor greater-than;neither greater-than nor less-than;precedes;succeeds",
    "precedes or equal to;succeeds or equal to;precedes or equivalent to;succeeds or equivalent to",
    "does not precede;does not succeed;subset of;superset of;not a subset of;not a superset of",
    "subset of or equal to;superset of or equal to;neither a subset of nor equal to",
    "neither a superset of nor equal to;subset of with not equal to;superset of with not equal to",
    "multiset;multiset multiplication;multiset union;square image of;;square image of or equal to;",
    "square cap;square cup;circled plus;circled minus;circled times;circled division slash",
    "circled dot operator;circled ring operator;circled asterisk operator;circled equals",
    "circled dash;squared plus;squared minus;squared times;squared dot operator;right tack",
    "left tack;down tack;up tack;assertion;models;true;forces;triple vertical bar right turnstile",
    "double vertical bar double right turnstile;does not prove;not true;does not force",
    "negated double vertical bar double right turnstile;precedes under relation",
    "succeeds under relation;normal subgroup of;contains as normal subgroup",
    "normal subgroup of or equal to;contains as normal subgroup or equal to;;image of;multimap",
    "hermitian conjugate matrix;intercalate;xor;nand;nor;right angle with arc;right triangle",
    "n-ary logical and;n-ary logical or;n-ary intersection;n-ary union;diamond operator",
    "dot operator;star operator;division times;bowtie;left normal factor semidirect product",
    "right normal factor semidirect product;left semidirect product;right semidirect product",
    "reversed tilde equals;curly logical or;curly logical and;double subset;double superset",
    "double intersection;double union;pitchfork;equal and parallel to;less-than with dot",
    "greater-than with dot;very much less-than;very much greater-than",
    "less-than equal to or greater-than;greater-than equal to or less-than;equal to or less-than",
    "equal to or greater-than;equal to or precedes;equal to or succeeds;does not precede or equal",
    "does not succeed or equal;not square image of or equal to;;square image of or not equal to;",
    "less-than but not equivalent to;greater-than but not equivalent to",
    "precedes but not equivalent to;succeeds but not equivalent to;not normal subgroup of",
    "does not contain as normal subgroup;not normal subgroup of or equal to",
    "does not contain as normal subgroup or equal;vertical ellipsis;midline horizontal ellipsis",
    "up right diagonal ellipsis;down right diagonal ellipsis",
    "element of with long horizontal stroke",
    "element of with vertical bar at end of horizontal stroke",
    "small element of with vertical bar at end of horizontal stroke;element of with dot above",
    "element of with overbar;small element of with overbar;element of with underbar",
    "element of with two horizontal strokes;contains with long horizontal stroke",
    "contains with vertical bar at end of horizontal stroke",
    "small contains with vertical bar at end of horizontal stroke;contains with overbar",
    "small contains with overbar;z notation bag membership"]⟩]

def shapes : List Run := [
  ⟨0x25A0, ["black square;white square;white square with rounded corners",
    "white square containing black small square;square with horizontal fill",
    "square with vertical fill;square with orthogonal crosshatch fill",
    "square with upper left to lower right fill;square with upper right to lower left fill",
    "square with diagonal crosshatch fill;black small square;white small square;black rectangle",
    "white rectangle;black vertical rectangle;white vertical rectangle;black parallelogram",
    "white parallelogram;black up-pointing triangle;white up-pointing triangle",
    "black up-pointing small triangle;white up-pointing small triangle",
    "black right-pointing triangle;white right-pointing triangle",
    "black right-pointing small triangle;white right-pointing small triangle",
    "black right-pointing pointer;white right-pointing pointer;black down-pointing triangle",
    "white down-pointing triangle;black down-pointing small triangle",
    "white down-pointing small triangle;black left-pointing triangle;white left-pointing triangle",
    "black left-pointing small triangle;white left-pointing small triangle",
    "black left-pointing pointer;white left-pointing pointer;black diamond;white diamond",
    "white diamond containing black small diamond;fisheye;lozenge;white circle;dotted circle",
    "circle with vertical fill;bullseye;black circle;circle with left half black",
    "circle with right half black;circle with lower half black;circle with upper half black",
    "circle with upper right quadrant black;circle with all but upper left quadrant black",
    "left half black circle;right half black circle;inverse bullet;inverse white circle",
    "upper half inverse white circle;lower half inverse white circle",
    "upper left quadrant circular arc;upper right quadrant circular arc",
    "lower right quadrant circular arc;lower left quadrant circular arc;upper half circle",
    "lower half circle;black lower right triangle;black lower left triangle",
    "black upper left triangle;black upper right triangle;white bullet;square with left half black",
    "square with right half black;square with upper left diagonal half black",
    "square with lower right diagonal half black;white square with vertical bisecting line",
    "white up-pointing triangle with dot;up-pointing triangle with left half black",
    "up-pointing triangle with right half black;large circle;white square with upper left quadrant",
    "white square with lower left quadrant;white square with lower right quadrant",
    "white square with upper right quadrant;white circle with upper left quadrant",
    "white circle with lower left quadrant;white circle with lower right quadrant",
    "white circle with upper right quadrant;upper left triangle;upper right triangle",
    "lower left triangle;white medium square;black medium square;white medium small square",
    "black medium small square;lower right triangle"]⟩]

def symbols : List Run := [
  ⟨0x2600, ["black sun with rays;cloud;umbrella;snowman;comet;black star;white star;lightning",
    "thunderstorm;sun;ascending node;descending node;conjunction;opposition;black telephone",
    "white telephone;ballot box;ballot box with check;ballot box with x;saltire",
    "umbrella with rain drops;hot beverage;white shogi piece;black shogi piece;shamrock",
    "reversed rotated floral heart bullet;black left pointing index;black right pointing index",
    "white left pointing index;white up pointing index;white right pointing index",
    "white down pointing index;skull and crossbones;caution sign;radioactive sign;biohazard sign",
    "caduceus;ankh;orthodox cross;chi rho;cross of lorraine;cross of jerusalem;star and crescent",
    "farsi symbol;adi shakti;hammer and sickle;peace symbol;yin yang;trigram for heaven",
    "trigram for lake;trigram for fire;trigram for thunder;trigram for wind;trigram for water",
    "trigram for mountain;trigram for earth;wheel of dharma;white frowning face;white smiling face",
    "black smiling face;white sun with rays;first quarter moon;last quarter moon;mercury",
    "female sign;earth;male sign;jupiter;saturn;uranus;neptune;pluto;aries;taurus;gemini;cancer",
    "leo;virgo;libra;scorpius;sagittarius;capricorn;aquarius;pisces;white chess king",
    "white chess queen;white chess rook;white chess bishop;white chess knight;white chess pawn",
    "black chess king;black chess queen;black chess rook;black chess bishop;black chess knight",
    "black chess pawn;black spade suit;white heart suit;white diamond suit;black club suit",
    "white spade suit;black heart suit;black diamond suit;white club suit;hot springs;quarter note",
    "eighth note;beamed eighth notes;beamed sixteenth notes;music flat sign;music natural sign",
    "music sharp sign;west syriac cross;east syriac cross;universal recycling symbol",
    "recycling symbol for type-1 plastics;recycling symbol for type-2 plastics",
    "recycling symbol for type-3 plastics;recycling symbol for type-4 plastics",
    "recycling symbol for type-5 plastics;recycling symbol for type-6 plastics",
    "recycling symbol for type-7 plastics;recycling symbol for generic materials",
    "black universal recycling symbol;recycled paper symbol;partially-recycled paper symbol",
    "permanent paper sign;wheelchair symbol;die face-1;die face-2;die face-3;die face-4;die face-5",
    "die face-6;white circle with dot right;white circle with two dots",
    "black circle with white dot right;black circle with two white dots;monogram for yang",
    "monogram for yin;digram for greater yang;digram for lesser yin;digram for lesser yang",
    "digram for greater yin;white flag;black flag;hammer and pick;anchor;crossed swords",
    "staff of aesculapius;scales;alembic;flower;gear;staff of hermes;atom symbol;fleur-de-lis",
    "outlined white star;three lines converging right;three lines converging left;warning sign",
    "high voltage sign;doubled female sign;doubled male sign;interlocked female and male sign",
    "male and female sign;male with stroke sign;male with stroke and male and female sign",
    "vertical male with stroke sign;horizontal male with stroke sign;medium white circle",
    "medium black circle;medium small white circle;marriage symbol;divorce symbol",
    "unmarried partnership symbol;coffin;funeral urn;neuter;ceres;pallas;juno;vesta;chiron",
    "black moon lilith;sextile;semisextile;quincunx;sesquiquadrate;soccer ball;baseball",
    "squared key;white draughts man;white draughts king;black draughts man;black draughts king",
    "snowman without snow;sun behind cloud;rain;black snowman;thunder cloud and rain",
    "turned white shogi piece;turned black shogi piece;white diamond in square;crossing lanes",
    "disabled car;ophiuchus;pick;car sliding;helmet with white cross;circled crossing lanes;chains",
    "no entry;alternate one-way left way traffic;black two-way left way traffic",
    "white two-way left way traffic;black left lane merge;white left lane merge;drive slow sign",
    "heavy white down-pointing triangle;left closed entry;squared saltire",
    "falling diagonal in white circle in black square;black truck;restricted left entry-1",
    "restricted left entry-2;astronomical symbol for uranus",
    "heavy circle with stroke and two dots above;pentagram;right-handed interlaced pentagram",
    "left-handed interlaced pentagram;inverted pentagram;black cross on shield;shinto shrine",
    "church;castle;historic site;gear without hub;gear with handles;map symbol for lighthouse",
    "mountain;umbrella on ground;fountain;flag in hole;ferry;sailboat;square four corners;skier",
    "ice skate;person with ball;tent;japanese bank symbol;headstone graveyard symbol;fuel pump",
    "cup on black square;white flag with horizontal middle black stripe"]⟩]

def dingbats : List Run := [
  ⟨0x2700, ["black safety scissors;upper blade scissors;black scissors;lower blade scissors",
    "white scissors;white heavy check mark;telephone location sign;tape drive;airplane;envelope",
    "raised fist;raised hand;victory hand;writing hand;lower right pencil;pencil",
    "upper right pencil;white nib;black nib;check mark;heavy check mark;multiplication x",
    "heavy multiplication x;ballot x;heavy ballot x;outlined greek cross;heavy greek cross",
    "open centre cross;heavy open centre cross;latin cross;shadowed white latin cross",
    "outlined latin cross;maltese cross;star of david;four teardrop-spoked asterisk",
    "four balloon-spoked asterisk;heavy four balloon-spoked asterisk;four club-spoked asterisk",
    "black four pointed star;white four pointed star;sparkles;stress outlined white star",
    "circled white star;open centre black star;black centre white star;outlined black star",
    "heavy outlined black star;pinwheel star;shadowed white star;heavy asterisk",
    "open centre asterisk;eight spoked asterisk;eight pointed black star",
    "eight pointed pinwheel star;six pointed black star;eight pointed rectilinear black star",
    "heavy eight pointed rectilinear black star;twelve pointed black star;sixteen pointed asterisk",
    "teardrop-spoked asterisk;open centre teardrop-spoked asterisk;heavy teardrop-spoked asterisk",
    "six petalled black and white florette;black florette;white florette",
    "eight petalled outlined black florette;circled open centre eight pointed star",
    "heavy teardrop-spoked pinwheel asterisk;snowflake;tight trifoliate snowflake",
    "heavy chevron snowflake;sparkle;heavy sparkle;balloon-spoked asterisk",
    "eight teardrop-spoked propeller asterisk;heavy eight teardrop-spoked propeller asterisk",
    "cross mark;shadowed white circle;negative squared cross mark",
    "lower right drop-shadowed white square;upper right drop-shadowed white square",
    "lower right shadowed white square;upper right shadowed white square",
    "black question mark ornament;white question mark ornament;white exclamation mark ornament",
    "black diamond minus white x;heavy exclamation mark symbol;light vertical bar",
    "medium vertical bar;heavy vertical bar;heavy single turned comma quotation mark ornament",
    "heavy single comma quotation mark ornament;heavy double turned comma quotation mark ornament",
    "heavy double comma quotation mark ornament;heavy low single comma quotation mark ornament",
    "heavy low double comma quotation mark ornament;curved stem paragraph sign ornament",
    "heavy exclamation mark ornament;heavy heart exclamation mark ornament;heavy black heart",
    "rotated heavy black heart bullet;floral heart;rotated floral heart bullet",
    "medium left parenthesis ornament;medium right parenthesis ornament",
    "medium flattened left parenthesis ornament;medium flattened right parenthesis ornament",
    "medium left-pointing angle bracket ornament;medium right-pointing angle bracket ornament",
    "heavy left-pointing angle quotation mark ornament",
    "heavy right-pointing angle quotation mark ornament;heavy left-pointing angle bracket ornament",
    "heavy right-pointing angle bracket ornament;light left tortoise shell bracket ornament",
    "light right tortoise shell bracket ornament;medium left curly bracket ornament",
    "medium right curly bracket ornament;dingbat negative circled digit one",
    "dingbat negative circled digit two;dingbat negative circled digit three",
    "dingbat negative circled digit four;dingbat negative circled digit five",
    "dingbat negative circled digit six;dingbat negative circled digit seven",
    "dingbat negative circled digit eight;dingbat negative circled digit nine",
    "dingbat negative circled number ten;dingbat circled sans-serif digit one",
    "dingbat circled sans-serif digit two;dingbat circled sans-serif digit three",
    "dingbat circled sans-serif digit four;dingbat circled sans-serif digit five",
    "dingbat circled sans-serif digit six;dingbat circled sans-serif digit seven",
    "dingbat circled sans-serif digit eight;dingbat circled sans-serif digit nine",
    "dingbat circled sans-serif number ten;dingbat negative circled sans-serif digit one",
    "dingbat negative circled sans-serif digit two;dingbat negative circled sans-serif digit three",
    "dingbat negative circled sans-serif digit four;dingbat negative circled sans-serif digit five",
    "dingbat negative circled sans-serif digit six;dingbat negative circled sans-serif digit seven",
    "dingbat negative circled sans-serif digit eight",
    "dingbat negative circled sans-serif digit nine;dingbat negative circled sans-serif number ten",
    "heavy wide-headed rightwards arrow;heavy plus sign;heavy minus sign;heavy division sign",
    "heavy south east arrow;heavy rightwards arrow;heavy north east arrow",
    "drafting point rightwards arrow;heavy round-tipped rightwards arrow",
    "triangle-headed rightwards arrow;heavy triangle-headed rightwards arrow",
    "dashed triangle-headed rightwards arrow;heavy dashed triangle-headed rightwards arrow",
    "black rightwards arrow;three-d top-lighted rightwards arrowhead",
    "three-d bottom-lighted rightwards arrowhead;black rightwards arrowhead",
    "heavy black curved downwards and rightwards arrow",
    "heavy black curved upwards and rightwards arrow;squat black rightwards arrow",
    "heavy concave-pointed black rightwards arrow;right-shaded white rightwards arrow",
    "left-shaded white rightwards arrow;back-tilted shadowed white rightwards arrow",
    "front-tilted shadowed white rightwards arrow",
    "heavy lower right-shadowed white rightwards arrow",
    "heavy upper right-shadowed white rightwards arrow",
    "notched lower right-shadowed white rightwards arrow;curly loop",
    "notched upper right-shadowed white rightwards arrow;circled heavy white rightwards arrow",
    "white-feathered rightwards arrow;black-feathered south east arrow",
    "black-feathered rightwards arrow;black-feathered north east arrow",
    "heavy black-feathered south east arrow;heavy black-feathered rightwards arrow",
    "heavy black-feathered north east arrow;teardrop-barbed rightwards arrow",
    "heavy teardrop-shanked rightwards arrow;wedge-tailed rightwards arrow",
    "heavy wedge-tailed rightwards arrow;open-outlined rightwards arrow;double curly loop"]⟩]

def specials : List Run := [
  ⟨0x3000, ["ideographic space;ideographic comma;ideographic full stop;ditto mark",
    "japanese industrial standard symbol;ideographic iteration mark;ideographic closing mark",
    "ideographic number zero;left angle bracket;right angle bracket;left double angle bracket",
    "right double angle bracket;left corner bracket;right corner bracket;left white corner bracket",
    "right white corner bracket;left black lenticular bracket;right black lenticular bracket"]⟩,
  ⟨0xFEFF, ["zero width no-break space"]⟩,
  ⟨0xFFFC, ["object replacement character;replacement character"]⟩]

end CharacterName
end AssetBundle
