import AssetBundle.CharacterName.Run

/-!
# AssetBundle.CharacterName.Letters

Names of letters, digits and the marks among them, in small letters.
-/

namespace AssetBundle
namespace CharacterName

def latin : List Run := [
  ⟨0x20, ["space;exclamation mark;quotation mark;number sign;dollar sign;percent sign;ampersand",
    "apostrophe;left parenthesis;right parenthesis;asterisk;plus sign;comma;hyphen-minus;full stop",
    "solidus;digit zero;digit one;digit two;digit three;digit four;digit five;digit six",
    "digit seven;digit eight;digit nine;colon;semicolon;less-than sign;equals sign",
    "greater-than sign;question mark;commercial at;latin capital letter a;latin capital letter b",
    "latin capital letter c;latin capital letter d;latin capital letter e;latin capital letter f",
    "latin capital letter g;latin capital letter h;latin capital letter i;latin capital letter j",
    "latin capital letter k;latin capital letter l;latin capital letter m;latin capital letter n",
    "latin capital letter o;latin capital letter p;latin capital letter q;latin capital letter r",
    "latin capital letter s;latin capital letter t;latin capital letter u;latin capital letter v",
    "latin capital letter w;latin capital letter x;latin capital letter y;latin capital letter z",
    "left square bracket;reverse solidus;right square bracket;circumflex accent;low line",
    "grave accent;latin small letter a;latin small letter b;latin small letter c",
    "latin small letter d;latin small letter e;latin small letter f;latin small letter g",
    "latin small letter h;latin small letter i;latin small letter j;latin small letter k",
    "latin small letter l;latin small letter m;latin small letter n;latin small letter o",
    "latin small letter p;latin small letter q;latin small letter r;latin small letter s",
    "latin small letter t;latin small letter u;latin small letter v;latin small letter w",
    "latin small letter x;latin small letter y;latin small letter z;left curly bracket",
    "vertical line;right curly bracket;tilde"]⟩,
  ⟨0xA0, ["no-break space;inverted exclamation mark;cent sign;pound sign;currency sign;yen sign",
    "broken bar;section sign;diaeresis;copyright sign;feminine ordinal indicator",
    "left-pointing double angle quotation mark;not sign;soft hyphen;registered sign;macron",
    "degree sign;plus-minus sign;superscript two;superscript three;acute accent;micro sign",
    "pilcrow sign;middle dot;cedilla;superscript one;masculine ordinal indicator",
    "right-pointing double angle quotation mark;vulgar fraction one quarter",
    "vulgar fraction one half;vulgar fraction three quarters;inverted question mark",
    "latin capital letter a with grave;latin capital letter a with acute",
    "latin capital letter a with circumflex;latin capital letter a with tilde",
    "latin capital letter a with diaeresis;latin capital letter a with ring above",
    "latin capital letter ae;latin capital letter c with cedilla;latin capital letter e with grave",
    "latin capital letter e with acute;latin capital letter e with circumflex",
    "latin capital letter e with diaeresis;latin capital letter i with grave",
    "latin capital letter i with acute;latin capital letter i with circumflex",
    "latin capital letter i with diaeresis;latin capital letter eth",
    "latin capital letter n with tilde;latin capital letter o with grave",
    "latin capital letter o with acute;latin capital letter o with circumflex",
    "latin capital letter o with tilde;latin capital letter o with diaeresis;multiplication sign",
    "latin capital letter o with stroke;latin capital letter u with grave",
    "latin capital letter u with acute;latin capital letter u with circumflex",
    "latin capital letter u with diaeresis;latin capital letter y with acute",
    "latin capital letter thorn;latin small letter sharp s;latin small letter a with grave",
    "latin small letter a with acute;latin small letter a with circumflex",
    "latin small letter a with tilde;latin small letter a with diaeresis",
    "latin small letter a with ring above;latin small letter ae;latin small letter c with cedilla",
    "latin small letter e with grave;latin small letter e with acute",
    "latin small letter e with circumflex;latin small letter e with diaeresis",
    "latin small letter i with grave;latin small letter i with acute",
    "latin small letter i with circumflex;latin small letter i with diaeresis",
    "latin small letter eth;latin small letter n with tilde;latin small letter o with grave",
    "latin small letter o with acute;latin small letter o with circumflex",
    "latin small letter o with tilde;latin small letter o with diaeresis;division sign",
    "latin small letter o with stroke;latin small letter u with grave",
    "latin small letter u with acute;latin small letter u with circumflex",
    "latin small letter u with diaeresis;latin small letter y with acute;latin small letter thorn",
    "latin small letter y with diaeresis;latin capital letter a with macron",
    "latin small letter a with macron;latin capital letter a with breve",
    "latin small letter a with breve;latin capital letter a with ogonek",
    "latin small letter a with ogonek;latin capital letter c with acute",
    "latin small letter c with acute;latin capital letter c with circumflex",
    "latin small letter c with circumflex;latin capital letter c with dot above",
    "latin small letter c with dot above;latin capital letter c with caron",
    "latin small letter c with caron;latin capital letter d with caron",
    "latin small letter d with caron;latin capital letter d with stroke",
    "latin small letter d with stroke;latin capital letter e with macron",
    "latin small letter e with macron;latin capital letter e with breve",
    "latin small letter e with breve;latin capital letter e with dot above",
    "latin small letter e with dot above;latin capital letter e with ogonek",
    "latin small letter e with ogonek;latin capital letter e with caron",
    "latin small letter e with caron;latin capital letter g with circumflex",
    "latin small letter g with circumflex;latin capital letter g with breve",
    "latin small letter g with breve;latin capital letter g with dot above",
    "latin small letter g with dot above;latin capital letter g with cedilla",
    "latin small letter g with cedilla;latin capital letter h with circumflex",
    "latin small letter h with circumflex;latin capital letter h with stroke",
    "latin small letter h with stroke;latin capital letter i with tilde",
    "latin small letter i with tilde;latin capital letter i with macron",
    "latin small letter i with macron;latin capital letter i with breve",
    "latin small letter i with breve;latin capital letter i with ogonek",
    "latin small letter i with ogonek;latin capital letter i with dot above",
    "latin small letter dotless i;latin capital ligature ij;latin small ligature ij",
    "latin capital letter j with circumflex;latin small letter j with circumflex",
    "latin capital letter k with cedilla;latin small letter k with cedilla;latin small letter kra",
    "latin capital letter l with acute;latin small letter l with acute",
    "latin capital letter l with cedilla;latin small letter l with cedilla",
    "latin capital letter l with caron;latin small letter l with caron",
    "latin capital letter l with middle dot;latin small letter l with middle dot",
    "latin capital letter l with stroke;latin small letter l with stroke",
    "latin capital letter n with acute;latin small letter n with acute",
    "latin capital letter n with cedilla;latin small letter n with cedilla",
    "latin capital letter n with caron;latin small letter n with caron",
    "latin small letter n preceded by apostrophe;latin capital letter eng;latin small letter eng",
    "latin capital letter o with macron;latin small letter o with macron",
    "latin capital letter o with breve;latin small letter o with breve",
    "latin capital letter o with double acute;latin small letter o with double acute",
    "latin capital ligature oe;latin small ligature oe;latin capital letter r with acute",
    "latin small letter r with acute;latin capital letter r with cedilla",
    "latin small letter r with cedilla;latin capital letter r with caron",
    "latin small letter r with caron;latin capital letter s with acute",
    "latin small letter s with acute;latin capital letter s with circumflex",
    "latin small letter s with circumflex;latin capital letter s with cedilla",
    "latin small letter s with cedilla;latin capital letter s with caron",
    "latin small letter s with caron;latin capital letter t with cedilla",
    "latin small letter t with cedilla;latin capital letter t with caron",
    "latin small letter t with caron;latin capital letter t with stroke",
    "latin small letter t with stroke;latin capital letter u with tilde",
    "latin small letter u with tilde;latin capital letter u with macron",
    "latin small letter u with macron;latin capital letter u with breve",
    "latin small letter u with breve;latin capital letter u with ring above",
    "latin small letter u with ring above;latin capital letter u with double acute",
    "latin small letter u with double acute;latin capital letter u with ogonek",
    "latin small letter u with ogonek;latin capital letter w with circumflex",
    "latin small letter w with circumflex;latin capital letter y with circumflex",
    "latin small letter y with circumflex;latin capital letter y with diaeresis",
    "latin capital letter z with acute;latin small letter z with acute",
    "latin capital letter z with dot above;latin small letter z with dot above",
    "latin capital letter z with caron;latin small letter z with caron;latin small letter long s"]⟩]

def marks : List Run := [
  ⟨0x300, ["combining grave accent;combining acute accent;combining circumflex accent",
    "combining tilde;combining macron;combining overline;combining breve;combining dot above",
    "combining diaeresis;combining hook above;combining ring above;combining double acute accent",
    "combining caron;combining vertical line above;combining double vertical line above",
    "combining double grave accent;combining candrabindu;combining inverted breve",
    "combining turned comma above;combining comma above;combining reversed comma above",
    "combining comma above right;combining grave accent below;combining acute accent below",
    "combining left tack below;combining right tack below;combining left angle above",
    "combining horn;combining left half ring below;combining up tack below",
    "combining down tack below;combining plus sign below;combining minus sign below",
    "combining palatalized hook below;combining retroflex hook below;combining dot below",
    "combining diaeresis below;combining ring below;combining comma below;combining cedilla",
    "combining ogonek;combining vertical line below;combining bridge below",
    "combining inverted double arch below;combining caron below;combining circumflex accent below",
    "combining breve below;combining inverted breve below;combining tilde below",
    "combining macron below;combining low line;combining double low line;combining tilde overlay",
    "combining short stroke overlay;combining long stroke overlay;combining short solidus overlay",
    "combining long solidus overlay;combining right half ring below",
    "combining inverted bridge below;combining square below;combining seagull below",
    "combining x above;combining vertical tilde;combining double overline",
    "combining grave tone mark;combining acute tone mark;combining greek perispomeni",
    "combining greek koronis;combining greek dialytika tonos;combining greek ypogegrammeni",
    "combining bridge above;combining equals sign below;combining double vertical line below",
    "combining left angle below;combining not tilde above;combining homothetic above",
    "combining almost equal to above;combining left right arrow below",
    "combining upwards arrow below;combining grapheme joiner;combining right arrowhead above",
    "combining left half ring above;combining fermata;combining x below",
    "combining left arrowhead below;combining right arrowhead below",
    "combining right arrowhead and up arrowhead below;combining right half ring above",
    "combining dot above right;combining asterisk below;combining double ring below",
    "combining zigzag above;combining double breve below;combining double breve",
    "combining double macron;combining double macron below;combining double tilde",
    "combining double inverted breve;combining double rightwards arrow below",
    "combining latin small letter a;combining latin small letter e;combining latin small letter i",
    "combining latin small letter o;combining latin small letter u;combining latin small letter c",
    "combining latin small letter d;combining latin small letter h;combining latin small letter m",
    "combining latin small letter r;combining latin small letter t;combining latin small letter v",
    "combining latin small letter x"]⟩]

def greek : List Run := [
  ⟨0x370, ["greek capital letter heta;greek small letter heta;greek capital letter archaic sampi",
    "greek small letter archaic sampi;greek numeral sign;greek lower numeral sign",
    "greek capital letter pamphylian digamma;greek small letter pamphylian digamma;;",
    "greek ypogegrammeni;greek small reversed lunate sigma symbol",
    "greek small dotted lunate sigma symbol;greek small reversed dotted lunate sigma symbol",
    "greek question mark;greek capital letter yot;;;;;greek tonos;greek dialytika tonos",
    "greek capital letter alpha with tonos;greek ano teleia",
    "greek capital letter epsilon with tonos;greek capital letter eta with tonos",
    "greek capital letter iota with tonos;;greek capital letter omicron with tonos;",
    "greek capital letter upsilon with tonos;greek capital letter omega with tonos",
    "greek small letter iota with dialytika and tonos;greek capital letter alpha",
    "greek capital letter beta;greek capital letter gamma;greek capital letter delta",
    "greek capital letter epsilon;greek capital letter zeta;greek capital letter eta",
    "greek capital letter theta;greek capital letter iota;greek capital letter kappa",
    "greek capital letter lamda;greek capital letter mu;greek capital letter nu",
    "greek capital letter xi;greek capital letter omicron;greek capital letter pi",
    "greek capital letter rho;;greek capital letter sigma;greek capital letter tau",
    "greek capital letter upsilon;greek capital letter phi;greek capital letter chi",
    "greek capital letter psi;greek capital letter omega;greek capital letter iota with dialytika",
    "greek capital letter upsilon with dialytika;greek small letter alpha with tonos",
    "greek small letter epsilon with tonos;greek small letter eta with tonos",
    "greek small letter iota with tonos;greek small letter upsilon with dialytika and tonos",
    "greek small letter alpha;greek small letter beta;greek small letter gamma",
    "greek small letter delta;greek small letter epsilon;greek small letter zeta",
    "greek small letter eta;greek small letter theta;greek small letter iota",
    "greek small letter kappa;greek small letter lamda;greek small letter mu;greek small letter nu",
    "greek small letter xi;greek small letter omicron;greek small letter pi;greek small letter rho",
    "greek small letter final sigma;greek small letter sigma;greek small letter tau",
    "greek small letter upsilon;greek small letter phi;greek small letter chi",
    "greek small letter psi;greek small letter omega;greek small letter iota with dialytika",
    "greek small letter upsilon with dialytika;greek small letter omicron with tonos",
    "greek small letter upsilon with tonos;greek small letter omega with tonos",
    "greek capital kai symbol;greek beta symbol;greek theta symbol;greek upsilon with hook symbol",
    "greek upsilon with acute and hook symbol;greek upsilon with diaeresis and hook symbol",
    "greek phi symbol;greek pi symbol;greek kai symbol;greek letter archaic koppa",
    "greek small letter archaic koppa;greek letter stigma;greek small letter stigma",
    "greek letter digamma;greek small letter digamma;greek letter koppa;greek small letter koppa",
    "greek letter sampi;greek small letter sampi;coptic capital letter shei",
    "coptic small letter shei;coptic capital letter fei;coptic small letter fei",
    "coptic capital letter khei;coptic small letter khei;coptic capital letter hori",
    "coptic small letter hori;coptic capital letter gangia;coptic small letter gangia",
    "coptic capital letter shima;coptic small letter shima;coptic capital letter dei",
    "coptic small letter dei;greek kappa symbol;greek rho symbol;greek lunate sigma symbol",
    "greek letter yot;greek capital theta symbol;greek lunate epsilon symbol",
    "greek reversed lunate epsilon symbol;greek capital letter sho;greek small letter sho",
    "greek capital lunate sigma symbol;greek capital letter san;greek small letter san",
    "greek rho with stroke symbol;greek capital reversed lunate sigma symbol",
    "greek capital dotted lunate sigma symbol;greek capital reversed dotted lunate sigma symbol"]⟩]

def cyrillic : List Run := [
  ⟨0x400, ["cyrillic capital letter ie with grave;cyrillic capital letter io",
    "cyrillic capital letter dje;cyrillic capital letter gje;cyrillic capital letter ukrainian ie",
    "cyrillic capital letter dze;cyrillic capital letter byelorussian-ukrainian i",
    "cyrillic capital letter yi;cyrillic capital letter je;cyrillic capital letter lje",
    "cyrillic capital letter nje;cyrillic capital letter tshe;cyrillic capital letter kje",
    "cyrillic capital letter i with grave;cyrillic capital letter short u",
    "cyrillic capital letter dzhe;cyrillic capital letter a;cyrillic capital letter be",
    "cyrillic capital letter ve;cyrillic capital letter ghe;cyrillic capital letter de",
    "cyrillic capital letter ie;cyrillic capital letter zhe;cyrillic capital letter ze",
    "cyrillic capital letter i;cyrillic capital letter short i;cyrillic capital letter ka",
    "cyrillic capital letter el;cyrillic capital letter em;cyrillic capital letter en",
    "cyrillic capital letter o;cyrillic capital letter pe;cyrillic capital letter er",
    "cyrillic capital letter es;cyrillic capital letter te;cyrillic capital letter u",
    "cyrillic capital letter ef;cyrillic capital letter ha;cyrillic capital letter tse",
    "cyrillic capital letter che;cyrillic capital letter sha;cyrillic capital letter shcha",
    "cyrillic capital letter hard sign;cyrillic capital letter yeru",
    "cyrillic capital letter soft sign;cyrillic capital letter e;cyrillic capital letter yu",
    "cyrillic capital letter ya;cyrillic small letter a;cyrillic small letter be",
    "cyrillic small letter ve;cyrillic small letter ghe;cyrillic small letter de",
    "cyrillic small letter ie;cyrillic small letter zhe;cyrillic small letter ze",
    "cyrillic small letter i;cyrillic small letter short i;cyrillic small letter ka",
    "cyrillic small letter el;cyrillic small letter em;cyrillic small letter en",
    "cyrillic small letter o;cyrillic small letter pe;cyrillic small letter er",
    "cyrillic small letter es;cyrillic small letter te;cyrillic small letter u",
    "cyrillic small letter ef;cyrillic small letter ha;cyrillic small letter tse",
    "cyrillic small letter che;cyrillic small letter sha;cyrillic small letter shcha",
    "cyrillic small letter hard sign;cyrillic small letter yeru;cyrillic small letter soft sign",
    "cyrillic small letter e;cyrillic small letter yu;cyrillic small letter ya",
    "cyrillic small letter ie with grave;cyrillic small letter io;cyrillic small letter dje",
    "cyrillic small letter gje;cyrillic small letter ukrainian ie;cyrillic small letter dze",
    "cyrillic small letter byelorussian-ukrainian i;cyrillic small letter yi",
    "cyrillic small letter je;cyrillic small letter lje;cyrillic small letter nje",
    "cyrillic small letter tshe;cyrillic small letter kje;cyrillic small letter i with grave",
    "cyrillic small letter short u;cyrillic small letter dzhe"]⟩]

end CharacterName
end AssetBundle
